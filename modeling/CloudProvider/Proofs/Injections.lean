import CloudProvider.Proofs.Atomicity
import Mathlib.Logic.Function.Iterate

/-!
# Injected failures

A failure is injected into the calls of one name by a plan: which of the calls to come it
refuses, by their number among the calls of this name. The plan is kept to whatever else is done
to the cloud in the meantime, by calls of other names or by injections into them, until another
plan is made for the same name.

* `FailurePlan.refuses`, `FailurePlan.fault`: which calls a plan refuses, and with what fault;
* `FailurePlan.left`: what is left of a plan after a number of calls, by `next_left` for one
  call more;
* `Cloud.refusal?`: whether an injection refuses a call, by `answer_of_refusal?` and
  `answer_of_not_refusal?`;
* `Cloud.Act`: what is done to a cloud; `get?_injections_after` is what any number of acts does to
  an injection;
* `calls_after`: every call is recorded once, in order;
* `refuses_as_planned`: all of this together.
-/

namespace CloudProvider

/-! ## Plans -/

/-- Which calls of a name are to fail. -/
inductive FailurePlan where
  | always
  /-- All after some that succeed. -/
  | after (successes : Nat)
  /-- Some, and none after them. -/
  | times (failures : Nat)
  /-- All, as if something were absent. -/
  | absent
  deriving DecidableEq

namespace FailurePlan

/-- Make a plan for the calls of a name. -/
def inject (operation : String) : FailurePlan → Cloud → Cloud
  | always => Cloud.fail operation
  | after successes => Cloud.failAfter operation successes
  | times failures => Cloud.failTimes operation failures
  | absent => Cloud.failNotFound operation

/-- Whether the call with a number, from one on, is refused. -/
def refuses : FailurePlan → Nat → Bool
  | always, _ => true
  | after successes, k => successes < k
  | times failures, k => k ≤ failures
  | absent, _ => true

/-- The fault of a refused call. -/
def fault (operation : String) : FailurePlan → CloudError
  | absent => .notFound "resource" operation
  | _ => .api ("injected " ++ operation ++ " failure")

/-- What is left of a plan after a number of calls. -/
def left : FailurePlan → Nat → Injection
  | always, _ => ⟨0, none, false⟩
  | after successes, k => ⟨successes - k, none, false⟩
  | times failures, k => ⟨0, some (failures - k), false⟩
  | absent, _ => ⟨0, none, true⟩

theorem inject_eq (operation : String) (plan : FailurePlan) (s : Cloud) :
    plan.inject operation s = s.injectInto operation (plan.left 0) := by
  cases plan <;> rfl

theorem fault_left (operation : String) (plan : FailurePlan) (k : Nat) :
    (plan.left k).fault operation = plan.fault operation := by
  cases plan <;> rfl

/-- The next call is refused if it is its turn, and then one call more was made. -/
theorem next_left (plan : FailurePlan) (k : Nat) :
    (plan.left k).next = (plan.refuses (k + 1), plan.left (k + 1)) := by
  cases plan with
  | always => rfl
  | absent => rfl
  | after successes =>
    simp only [left, refuses, Injection.next]
    cases hleft : successes - k <;> simp <;> omega
  | times failures =>
    simp only [left, refuses, Injection.next]
    cases hleft : failures - k <;> simp <;> omega

/-- A plan runs down one call at a time. -/
theorem iterate_left (plan : FailurePlan) (k : Nat) :
    (fun i : Injection => i.next.2)^[k] (plan.left 0) = plan.left k := by
  induction k with
  | zero => rfl
  | succ k ih => rw [Function.iterate_succ_apply', ih, next_left]

end FailurePlan

/-! ## Calls -/

/-- The record that a call leaves. Opening a service leaves none. -/
def Call.record? : Call → Option CallRecord
  | .openService _ => none
  | c => some ⟨c.operation, c.subjects⟩

/-- Whether a call is recorded as one of a name. -/
def Call.isCallTo (operation : String) (c : Call) : Bool := c.record?.any (·.operation = operation)

namespace Cloud

variable {s : Cloud} {c : Call} {r : CallRecord} {operation : String} {e : CloudError}

theorem answer_of_record? (h : c.record? = some r) (s : Cloud) :
    s.answer c = s.reach c ∧ r = ⟨c.operation, c.subjects⟩ := by
  cases c with
  | openService service => cases h
  | _ => exact ⟨rfl, (Option.some.inj h).symm⟩

theorem answer_of_not_record? (h : c.record? = none) (s : Cloud) : (s.answer c).2 = s := by
  cases c with
  | openService service => rfl
  | _ => cases h

theorem inject_record (c : Call) (operation : String) (s : Cloud) :
    (s.record c).inject operation =
      ((s.inject operation).1, (s.inject operation).2.record c) := by
  have hget : (s.record c).injections.get? operation = s.injections.get? operation := rfl
  unfold inject
  rw [hget]
  cases s.injections.get? operation <;> rfl

theorem reach_of_inject_some (h : (s.inject c.operation).1 = some e) :
    (s.reach c).1 = .error e := by
  rw [reach, inject_record, h]

theorem reach_of_inject_none (h : (s.inject c.operation).1 = none) :
    (s.reach c).1 = (Resources.answer c s.resources).map (·.1) := by
  have hresources : ((s.inject c.operation).2.record c).resources = s.resources :=
    inject_resources c.operation s
  rw [reach, inject_record, h]
  dsimp only
  rw [hresources]
  cases Resources.answer c s.resources <;> rfl

/-- The fault with which an injection refuses a call, if it does. -/
def refusal? (c : Call) (s : Cloud) : Option CloudError :=
  c.record?.bind fun r => (s.inject r.operation).1

theorem refusal?_of_record? (h : c.record? = some r) (s : Cloud) :
    s.refusal? c = (s.inject c.operation).1 := by
  rw [refusal?, h, (answer_of_record? h s).2, Option.bind_some]

theorem refusal?_of_isCallTo (h : c.isCallTo operation = true) (s : Cloud) :
    s.refusal? c = (s.inject operation).1 := by
  obtain ⟨r, hr, hoperation⟩ := (Option.any_eq_true _ _).1 h
  rw [refusal?, hr, Option.bind_some, of_decide_eq_true hoperation]

/-- A call that is refused does not reach the resources. -/
theorem answer_of_refusal? (h : s.refusal? c = some e) :
    (s.answer c).1 = .error e ∧ (s.answer c).2.resources = s.resources := by
  obtain ⟨r, hr, -⟩ := Option.bind_eq_some_iff.1 h
  rw [refusal?_of_record? hr] at h
  have hanswer : (s.answer c).1 = .error e :=
    (congrArg Prod.fst (answer_of_record? hr s).1).trans (reach_of_inject_some h)
  exact ⟨hanswer, answer_resources_of_error (Prod.ext hanswer rfl)⟩

/-- A call that is not refused is answered by the resources. -/
theorem answer_of_not_refusal? (hr : c.record? = some r) (h : s.refusal? c = none) :
    (s.answer c).1 = (Resources.answer c s.resources).map (·.1) := by
  rw [refusal?_of_record? hr] at h
  exact (congrArg Prod.fst (answer_of_record? hr s).1).trans (reach_of_inject_none h)

/-! ## Acts -/

/-- What is done to a cloud: calls, and failures injected into calls to come. -/
inductive Act where
  | call (c : Call)
  | inject (operation : String) (plan : FailurePlan)

namespace Act

/-- The cloud after an act. -/
def apply : Act → Cloud → Cloud
  | call c, s => (s.answer c).2
  | inject operation plan, s => plan.inject operation s

/-- The record that an act leaves. -/
def record? : Act → Option CallRecord
  | call c => c.record?
  | inject _ _ => none

/-- Whether an act is a call that is recorded as one of a name. -/
def isCallTo (operation : String) : Act → Bool
  | call c => c.isCallTo operation
  | inject _ _ => false

end Act

/-- The cloud after some acts. -/
def after (acts : List Act) (s : Cloud) : Cloud := acts.foldl (fun s act => act.apply s) s

/-- The number of calls of a name among some acts. -/
def countTo (operation : String) (acts : List Act) : Nat := acts.countP (·.isCallTo operation)

theorem get?_injections_inject (operation name : String) (s : Cloud) :
    (s.inject name).2.injections.get? operation =
      if name = operation then (s.injections.get? operation).map (·.next.2)
      else s.injections.get? operation := by
  unfold inject
  by_cases hname : name = operation
  · subst hname
    cases hget : s.injections.get? name <;> simp [hget]
  · cases hget : s.injections.get? name <;> simp [hname, Table.get?_insert, Ne.symm hname]

theorem injections_reach (c : Call) (s : Cloud) :
    (s.reach c).2.injections = (s.inject c.operation).2.injections := by
  unfold reach
  rw [inject_record]
  cases (s.inject c.operation).1 with
  | some e => rfl
  | none =>
    dsimp only
    split <;> rfl

/-- A call runs down the injection into calls of its name and no other. -/
theorem get?_injections_answer (c : Call) (operation : String) (s : Cloud) :
    (s.answer c).2.injections.get? operation =
      if c.isCallTo operation then (s.injections.get? operation).map (·.next.2)
      else s.injections.get? operation := by
  rw [Call.isCallTo]
  cases hr : c.record? with
  | none => rw [answer_of_not_record? hr]; rfl
  | some r =>
    obtain ⟨hanswer, rfl⟩ := answer_of_record? hr s
    rw [hanswer, injections_reach, get?_injections_inject, Option.any_some]
    simp only [decide_eq_true_eq]

theorem get?_injections_apply {act : Act} (h : ∀ plan, Act.inject operation plan ≠ act)
    (s : Cloud) :
    (act.apply s).injections.get? operation =
      if act.isCallTo operation then (s.injections.get? operation).map (·.next.2)
      else s.injections.get? operation := by
  cases act with
  | call c => exact get?_injections_answer c operation s
  | inject name plan =>
    have hne : operation ≠ name := fun heq => h plan (heq ▸ rfl)
    rw [Act.apply, FailurePlan.inject_eq]
    exact Table.get?_insert_of_ne _ _ hne

/-- What acts leave of an injection depends on nothing but the number of calls of its name. -/
theorem get?_injections_after {acts : List Act} (h : ∀ plan, Act.inject operation plan ∉ acts)
    (s : Cloud) :
    (s.after acts).injections.get? operation =
      (s.injections.get? operation).map (fun i => i.next.2)^[countTo operation acts] := by
  induction acts generalizing s with
  | nil => exact Option.map_id_apply.symm
  | cons act acts ih =>
    have hact : ∀ plan, Act.inject operation plan ≠ act :=
      fun plan heq => h plan (heq ▸ List.mem_cons_self)
    have hacts : ∀ plan, Act.inject operation plan ∉ acts :=
      fun plan hmem => h plan (List.mem_cons_of_mem _ hmem)
    rw [after, List.foldl_cons, ← after, ih hacts, get?_injections_apply hact, countTo, countTo,
      List.countP_cons]
    -- The first act counts if it is a call of this name, and then the injection has run down once.
    split
    · rw [Option.map_map, Function.iterate_succ]
    · rfl

theorem calls_apply (act : Act) (s : Cloud) :
    (act.apply s).calls = s.calls ++ act.record?.toList := by
  cases act with
  | inject name plan =>
    rw [Act.apply, FailurePlan.inject_eq]
    exact (List.append_nil _).symm
  | call c =>
    rw [Act.apply, Act.record?]
    cases hr : c.record? with
    | none =>
      rw [answer_of_not_record? hr]
      exact (List.append_nil _).symm
    | some r =>
      obtain ⟨hanswer, rfl⟩ := answer_of_record? hr s
      rw [hanswer]
      exact (logs_reach c s).calls

/-- Every call is recorded once, in order. -/
theorem calls_after (acts : List Act) (s : Cloud) :
    (s.after acts).calls = s.calls ++ acts.filterMap Act.record? := by
  induction acts generalizing s with
  | nil => exact (List.append_nil _).symm
  | cons act acts ih =>
    rw [after, List.foldl_cons, ← after, ih, calls_apply, List.append_assoc, List.filterMap_cons]
    cases act.record? <;> rfl

/-- A plan that was made for the calls of a name refuses the next one if it is its turn. -/
theorem refusal?_planned {acts : List Act} (hacts : ∀ plan', Act.inject operation plan' ∉ acts)
    (plan : FailurePlan) (s : Cloud) (hc : c.isCallTo operation = true) :
    (after acts (plan.inject operation s)).refusal? c =
      if plan.refuses (countTo operation acts + 1) then some (plan.fault operation) else none := by
  have hinjected : (plan.inject operation s).injections.get? operation = some (plan.left 0) := by
    rw [FailurePlan.inject_eq]
    exact Table.get?_insert_self _ _ _
  have hleft : (after acts (plan.inject operation s)).injections.get? operation =
      some (plan.left (countTo operation acts)) := by
    rw [get?_injections_after hacts, hinjected, Option.map_some, FailurePlan.iterate_left]
  rw [refusal?_of_isCallTo hc, inject, hleft]
  dsimp only
  rw [FailurePlan.next_left, FailurePlan.fault_left]

/-- No call is refused where no plan was made. -/
theorem refusal?_unplanned {acts : List Act} (hacts : ∀ plan, Act.inject operation plan ∉ acts)
    (h : s.injections.get? operation = none) (hc : c.isCallTo operation = true) :
    (s.after acts).refusal? c = none := by
  have hnone : (s.after acts).injections.get? operation = none := by
    rw [get?_injections_after hacts, h, Option.map_none]
  rw [refusal?_of_isCallTo hc, inject_of_none hnone]

/-- A plan for the calls of a name refuses exactly those whose turn it is, each with the fault of
    the plan, whatever else is called and injected in between, and no calls of other names. A call
    that is refused does not reach the resources, and any other is answered by them. Every call is
    recorded once, in order, whether it is refused or not. -/
theorem refuses_as_planned (s : Cloud) (operation : String) (plan : FailurePlan)
    (acts : List Act) :
    let s' := after acts (plan.inject operation s)
    ((∀ plan', Act.inject operation plan' ∉ acts) →
      ∀ c, c.isCallTo operation = true → s'.refusal? c =
        if plan.refuses (countTo operation acts + 1) then some (plan.fault operation) else none) ∧
    (∀ name, name ≠ operation → s.injections.get? name = none →
      (∀ plan', Act.inject name plan' ∉ acts) →
        ∀ c, c.isCallTo name = true → s'.refusal? c = none) ∧
    (∀ c e, s'.refusal? c = some e →
      (s'.answer c).1 = .error e ∧ (s'.answer c).2.resources = s'.resources) ∧
    (∀ c r, c.record? = some r → s'.refusal? c = none →
      (s'.answer c).1 = (Resources.answer c s'.resources).map (·.1)) ∧
    s'.calls = s.calls ++ acts.filterMap Act.record? := by
  intro s'
  refine ⟨fun hacts c => refusal?_planned hacts plan s, fun name hname hnone hacts c hc => ?_,
    fun _ _ => answer_of_refusal?, fun _ _ => answer_of_not_refusal?, ?_⟩
  · refine refusal?_unplanned hacts ?_ hc
    rw [FailurePlan.inject_eq]
    exact (Table.get?_insert_of_ne _ _ hname).trans hnone
  · rw [calls_after, FailurePlan.inject_eq]
    rfl

/-- Of three look-ups the first two are let through, although one of them fails by itself, and the
    third is refused. Neither the opening of the service nor a plan for other calls makes a
    difference. -/
theorem refuses_as_planned_third :
    let s := ({} : Cloud).seed (·.addVolume "disk" 10)
    let acts := [Act.call (.getVolume "gone"), .inject "create_port" .absent,
      .call (.openService .volume), .call (.createPort ⟨"private", .manual, "net", none, none⟩ []),
      .call (.getVolume "disk")]
    let s' := after acts ((FailurePlan.after 2).inject "get_volume" s)
    (∀ plan, Act.inject "get_volume" plan ∉ acts) ∧
      (s'.answer (.getVolume "disk")).1 = .error (.api "injected get_volume failure") ∧
      (s'.answer (.getVolume "disk")).2.resources = s'.resources ∧
      (∀ plan, Act.inject "get_server" plan ∉ acts) ∧
      (s'.answer (.getServer "vm")).1 = .error (.notFound "server" "vm") ∧
      s'.calls = [⟨"get_volume", ["gone"]⟩, ⟨"create_port", ["private"]⟩,
        ⟨"get_volume", ["disk"]⟩] := by
  intro s acts s'
  have hvolume : ∀ plan, Act.inject "get_volume" plan ∉ acts := by simp [acts]
  have hserver : ∀ plan, Act.inject "get_server" plan ∉ acts := by simp [acts]
  obtain ⟨hplanned, hunplanned, hrefused, hanswered, hcalls⟩ :=
    refuses_as_planned s "get_volume" (.after 2) acts
  have hthird : s'.refusal? (.getVolume "disk") = some (.api "injected get_volume failure") :=
    hplanned hvolume _ rfl
  obtain ⟨herror, hresources⟩ := hrefused _ _ hthird
  have hpassed : s'.refusal? (.getServer "vm") = none :=
    hunplanned "get_server" (by decide) rfl hserver _ rfl
  exact ⟨hvolume, herror, hresources, hserver, hanswered _ _ rfl hpassed, hcalls⟩

end Cloud

end CloudProvider
