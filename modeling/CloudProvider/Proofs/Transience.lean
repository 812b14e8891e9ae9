import CloudProvider.Proofs.Avoidance
import CloudProvider.Proofs.Convergence

/-!
# Transient failures

A call that fails for a moment is tried again, and a call that does not reach the cloud
leaves it as it is. So as long as no call is refused as often in a row as it is tried, the
refusals cannot be told from the outcome of an operation: it ends with the same result and
the same resources as without them.

* `Schedule.Transient`: only calls that are retried are refused, and not as if something
  were absent;
* `Outlasted`: the retries outlast the failures of a run;
* `run_repeated_of_reached`: the first try that reaches the cloud is the last;
* `Composed.outlasts`: what is composed of retried calls and others outlasts failures;
* `retries_hide_failures`: so does every operation.
-/

namespace CloudProvider

open Program

/-! ## Failures -/

namespace Program

variable {C : Type} {A : C → Type}

/-- Whether an event is a call and not a sleep. -/
def Event.isCall : Event C A → Bool
  | .called _ _ => true
  | .slept _ => false

/-- Whether an event is a call that failed. -/
def Event.isFailure : Event C A → Bool
  | .called _ ⟨_, .error _⟩ => true
  | _ => false

end Program

/-- Tries at a call that all fail, each after some time and with a fault. -/
def failures (c : Call) (faults : List (Nat × CloudError)) : List (Event Call Call.Answer) :=
  faults.map fun f => .called c ⟨f.1, .error f.2⟩

/-- No call that is retried fails as often in a row as it is tried. Absence does not count,
    as it ends the tries. -/
def Outlasted (policies : RetryPolicies) (events : List (Event Call Call.Answer)) : Prop :=
  ∀ c policy faults, c.policy? = some policy →
    (∀ f ∈ faults, f.2.isNotFound = false) →
      failures c faults <:+: events.filter Event.isCall →
        faults.length < (policies.resolve policy).attempts

namespace Outlasted

variable {policies : RetryPolicies} {events events' : List (Event Call Call.Answer)}

theorem of_append_left (h : Outlasted policies (events ++ events')) :
    Outlasted policies events := by
  intro c policy faults hc hfaults hsegment
  refine h c policy faults hc hfaults (hsegment.trans ?_)
  rw [List.filter_append]
  exact (List.prefix_append _ _).isInfix

theorem of_append_right (h : Outlasted policies (events ++ events')) :
    Outlasted policies events' := by
  intro c policy faults hc hfaults hsegment
  refine h c policy faults hc hfaults (hsegment.trans ?_)
  rw [List.filter_append]
  exact (List.suffix_append _ _).isInfix

/-- A run with fewer failures than there are tries. -/
theorem of_few
    (h : ∀ policy, (events.filter Event.isFailure).length < (policies.resolve policy).attempts) :
    Outlasted policies events := by
  intro c policy faults _ _ hsegment
  have hall : (failures c faults).filter Event.isFailure = failures c faults := by
    refine List.filter_eq_self.2 fun event hevent => ?_
    obtain ⟨f, -, rfl⟩ := List.mem_map.1 hevent
    rfl
  have hsub : (failures c faults).Sublist (events.filter Event.isFailure) :=
    hall ▸ (hsegment.sublist.trans List.filter_sublist).filter Event.isFailure
  have hlength : faults.length = (failures c faults).length := (List.length_map _).symm
  exact hlength ▸ Nat.lt_of_le_of_lt hsub.length_le (h policy)

end Outlasted

namespace Schedule

/-- Only calls that are retried are refused, and not as if something were absent. -/
def Transient (schedule : Schedule) : Prop :=
  ∀ n c e, schedule n c = some e → c.policy?.isSome = true ∧ e.isNotFound = false

/-- Nothing is refused. -/
def never : Schedule := fun _ _ => none

end Schedule

/-! ## Clouds that differ in their records -/

namespace Cloud

/-- Clouds that inject nothing and differ at most in the record of their calls. -/
structure Alike (s s' : Cloud) : Prop where
  resources : s.resources = s'.resources
  unavailable : s.unavailable = s'.unavailable
  injections : s.injections = ∅
  injections' : s'.injections = ∅

variable {s s' : Cloud}

theorem Alike.refl (h : s.injections = ∅) : s.Alike s := ⟨rfl, rfl, h, h⟩

theorem Alike.clearCalls (h : s.Alike s') : s.clearCalls = s'.clearCalls := by
  obtain ⟨hresources, hunavailable, hinjections, hinjections'⟩ := h
  rw [Cloud.clearCalls, Cloud.clearCalls, hresources, hunavailable, hinjections, hinjections']

/-- Clouds that are alike answer alike. -/
theorem Alike.answer (h : s.Alike s') (c : Call) :
    (s.answer c).1 = (s'.answer c).1 ∧ (s.answer c).2.Alike (s'.answer c).2 := by
  have hinject {s : Cloud} (hs : s.injections = ∅) : s.injections.get? c.operation = none := by
    rw [hs]
    rfl
  have hreach : (s.reach c).1 = (s'.reach c).1 ∧ (s.reach c).2.Alike (s'.reach c).2 := by
    rw [reach_of_uninjected (hinject h.injections), reach_of_uninjected (hinject h.injections'),
      h.resources]
    cases Resources.answer c s'.resources with
    | error e => exact ⟨rfl, { h with }⟩
    | ok a => exact ⟨rfl, { h with resources := rfl }⟩
  cases c with
  | openService service =>
    refine ⟨?_, h⟩
    show s.openService service = s'.openService service
    rw [openService, openService, h.unavailable]
  | _ => exact hreach

end Cloud

/-! ## The first try that reaches the cloud -/

namespace Resources

theorem find_bind_error {α β : Type} {t : Table α} {kind id : String}
    {f : α → Except CloudError β} {e : CloudError} (h : (find t kind id >>= f) = .error e) :
    e.isNotFound = true ∨ ∃ a, f a = .error e := by
  unfold find at h
  split at h
  · exact .inr ⟨_, h⟩
  · cases h
    exact .inl rfl

theorem touchServer_error {s : Resources} {id : String} {e : CloudError}
    (h : s.touchServer id = .error e) : e.isNotFound = true := by
  unfold touchServer find at h
  split at h
  · cases h
  · cases h
    rfl

/-- A call that is retried fails only because something is absent. -/
theorem isNotFound_of_answer {s : Resources} {c : Call} {policy : String} {e : CloudError}
    (hc : c.policy? = some policy) (h : Resources.answer c s = .error e) :
    e.isNotFound = true := by
  cases c with
  | createPort _ _ | createMember _ _ _ _ _ | deleteMember _ _ _ => cases h
  | attachVolume serverId volumeId device =>
    obtain he | ⟨_, h⟩ := find_bind_error h
    · exact he
    obtain he | ⟨_, h⟩ := find_bind_error h
    · exact he
    · cases h
  | detachVolume _ _ | extendVolume _ _ =>
    obtain he | ⟨_, h⟩ := find_bind_error h
    · exact he
    · cases h
  | rebootServer id => exact touchServer_error h
  | _ => cases hc

end Resources

namespace Cloud

theorem isNotFound_of_answer {s s' : Cloud} {c : Call} {policy : String} {e : CloudError}
    (hs : s.injections = ∅) (hc : c.policy? = some policy) (h : s.answer c = (.error e, s')) :
    e.isNotFound = true := by
  have hinject : s.injections.get? c.operation = none := by
    rw [hs]
    rfl
  have hreach (h : s.reach c = (.error e, s')) : e.isNotFound = true := by
    rw [reach_of_uninjected hinject] at h
    split at h
    · rename_i hanswer
      cases h
      exact Resources.isNotFound_of_answer hc hanswer
    · cases h
  cases c with
  | openService _ => cases hc
  | _ => exact hreach h

end Cloud

/-! ## Runs under a schedule -/

section

variable {schedule : Schedule} {settings : Settings} {made : Call → Prop} {α : Type}
  {cloud cloud' : Cloud} {now now' n n' : Nat}

/-- Two runs end with the same result, and in clouds that are alike. -/
def SameEnd (o o' : Outcome α (Nat × Cloud)) : Prop :=
  o.result = o'.result ∧ o.state.2.Alike o'.state.2

namespace Schedule

theorem backend_of_none {c : Call} (h : schedule n c = none) (now : Nat) :
    schedule.backend c now (n, cloud) = (⟨0, (cloud.answer c).1⟩, n + 1, (cloud.answer c).2) := by
  simp only [backend, h]

theorem backend_of_some {c : Call} {e : CloudError} (h : schedule n c = some e) (now : Nat) :
    schedule.backend c now (n, cloud) = (⟨0, .error e⟩, n + 1, cloud) := by
  simp only [backend, h]

end Schedule

/-- Where no call is retried, no call is refused. -/
theorem sameEnd_of_avoids (hschedule : schedule.Transient) {p : Action α}
    {Q : α → Unit → Prop} (hp : p.Ensures (avoiding fun c => c.policy?.isSome = true) Q ())
    (h : cloud.Alike cloud') :
    SameEnd (p.run schedule.backend now (n, cloud))
      (p.run Schedule.never.backend now' (n', cloud')) := by
  induction p generalizing now now' n n' cloud cloud' with
  | done a => exact ⟨rfl, h⟩
  | call c next ih =>
    have hreached : schedule n c = none := by
      refine Option.eq_none_iff_forall_ne_some.2 fun e he => ?_
      exact hp.1 (hschedule n c e he).1
    obtain ⟨hanswer, halike⟩ := h.answer c
    rw [run, run, Schedule.backend_of_none hreached, Schedule.backend_of_none rfl, hanswer]
    exact ih _ (hp.2 _ _ trivial) halike
  | sleep ms next ih => exact ih hp h

/-- The first try that reaches the cloud is the last. -/
theorem run_repeated_of_reached {c : Call} {policy : String} (hc : c.policy? = some policy)
    (hcloud : cloud.injections = ∅) (hreached : schedule n c = none) (now ms more : Nat) :
    ((repeated c ms more : Action _).run schedule.backend now (n, cloud)).result =
        (cloud.answer c).1 ∧
      ((repeated c ms more : Action _).run schedule.backend now (n, cloud)).state =
        (n + 1, (cloud.answer c).2) := by
  cases more with
  | zero =>
    rw [repeated, perform, run, Schedule.backend_of_none hreached]
    exact ⟨rfl, rfl⟩
  | succ more =>
    rw [repeated, run, Schedule.backend_of_none hreached]
    cases hanswer : (cloud.answer c).1 with
    | ok a => exact ⟨rfl, rfl⟩
    | error e =>
      have he : e.isNotFound = true := Cloud.isNotFound_of_answer hcloud hc (Prod.ext hanswer rfl)
      simp only [he, if_true]
      exact ⟨rfl, rfl⟩

/-- Either every try is refused, or the run ends as one in which none is. -/
theorem repeated_outlasts (hschedule : schedule.Transient) {c : Call} {policy : String}
    (hc : c.policy? = some policy) (h : cloud.Alike cloud') (now n ms more : Nat) :
    (∃ faults, faults.length = more + 1 ∧ (∀ f ∈ faults, f.2.isNotFound = false) ∧
        ((repeated c ms more : Action _).events schedule.backend now (n, cloud)).filter
          Event.isCall = failures c faults) ∨
      ((repeated c ms more : Action _).run schedule.backend now (n, cloud)).result =
          (cloud'.answer c).1 ∧
        ((repeated c ms more : Action _).run schedule.backend now (n, cloud)).state.2.Alike
          (cloud'.answer c).2 := by
  have hreach {n now : Nat} (hreached : schedule n c = none) (more : Nat) :
      ((repeated c ms more : Action _).run schedule.backend now (n, cloud)).result =
          (cloud'.answer c).1 ∧
        ((repeated c ms more : Action _).run schedule.backend now (n, cloud)).state.2.Alike
          (cloud'.answer c).2 := by
    obtain ⟨hresult, hstate⟩ :=
      run_repeated_of_reached hc h.injections hreached now ms more
    rw [hresult, hstate]
    exact h.answer c
  induction more generalizing n now with
  | zero =>
    cases hrefused : schedule n c with
    | none => exact .inr (hreach hrefused 0)
    | some e =>
      refine .inl ⟨[(0, e)], rfl, ?_, ?_⟩
      · rintro f hf
        rw [List.mem_singleton.1 hf]
        exact (hschedule n c e hrefused).2
      · rw [repeated, perform, events, Schedule.backend_of_some hrefused]
        rfl
  | succ more ih =>
    cases hrefused : schedule n c with
    | none => exact .inr (hreach hrefused _)
    | some e =>
      have he := (hschedule n c e hrefused).2
      -- What follows the refusal is a run with one try less.
      have hrun : (repeated c ms (more + 1) : Action _).run schedule.backend now (n, cloud) =
          (repeated c ms more : Action _).run schedule.backend (now + 0 + ms) (n + 1, cloud) := by
        rw [repeated, run, Schedule.backend_of_some hrefused]
        simp only [he]
        rfl
      have hevents : (repeated c ms (more + 1) : Action _).events schedule.backend now (n, cloud) =
          .called c ⟨0, .error e⟩ :: .slept ms ::
            (repeated c ms more : Action _).events schedule.backend (now + 0 + ms)
              (n + 1, cloud) := by
        rw [repeated, events, Schedule.backend_of_some hrefused]
        simp only [he]
        rfl
      rw [hrun, hevents]
      obtain ⟨faults, hlength, hfaults, hcalls⟩ | hsame := @ih (now + 0 + ms) (n + 1)
      · refine .inl ⟨(0, e) :: faults, congrArg Nat.succ hlength, ?_, congrArg _ hcalls⟩
        exact List.forall_mem_cons.2 ⟨he, hfaults⟩
      · exact .inr hsame

/-- What is composed of retried calls and others outlasts the failures of the former. -/
theorem Composed.outlasts {p : Action α} (hp : Composed settings made p)
    (hschedule : schedule.Transient) (h : cloud.Alike cloud')
    (houtlasted : Outlasted settings.retryPolicies
      (p.events schedule.backend now (n, cloud))) :
    SameEnd (p.run schedule.backend now (n, cloud))
      (p.run Schedule.never.backend now' (n', cloud')) := by
  induction hp generalizing now now' n n' cloud cloud' with
  | done a => exact ⟨rfl, h⟩
  | @bind _ _ p f _ _ ihp ihf =>
    rw [events_bind] at houtlasted
    have hsame := @ihp cloud cloud' now now' n n' h houtlasted.of_append_left
    rw [run_bind, run_bind, ← hsame.1]
    exact ihf _ hsame.2 houtlasted.of_append_right
  | @once c _ hc =>
    have hnot : ¬ c.policy?.isSome = true := by simp [hc]
    have havoids : (perform c : Action _).Ensures
        (avoiding fun c => c.policy?.isSome = true) (fun _ _ => True) () :=
      ⟨hnot, fun _ _ _ => trivial⟩
    exact sameEnd_of_avoids hschedule havoids h
  | @awaited _ _ c _ _ _ _ _ hc =>
    have hnot : ¬ c.policy?.isSome = true := by simp [hc]
    exact sameEnd_of_avoids hschedule (avoids_awaitStatus hnot _ _ _ _ _) h
  | @retried c policy _ hc =>
    have hattempts := (settings.retryPolicies.resolve policy).attempts_pos
    obtain ⟨faults, hlength, hfaults, hcalls⟩ | ⟨hresult, hstate⟩ :=
      repeated_outlasts hschedule hc h now n
        (settings.retryPolicies.resolve policy).sleepMs
        ((settings.retryPolicies.resolve policy).attempts - 1)
    · have hlt := houtlasted c policy faults hc hfaults (hcalls ▸ List.infix_rfl)
      omega
    · have hreached : Schedule.never n' c = none := rfl
      obtain ⟨hresult', hstate'⟩ := run_repeated_of_reached hc h.injections' hreached now'
        (settings.retryPolicies.resolve policy).sleepMs
        ((settings.retryPolicies.resolve policy).attempts - 1)
      exact ⟨hresult.trans hresult'.symm, hstate' ▸ hstate⟩

end

namespace Lifecycle

/-- An operation whose retries outlast the failures ends as if there had been none: with the
    same result, and in a cloud that differs at most in the record of its calls. -/
theorem retries_hide_failures (settings : Settings) (chance : Chance) (c : Command)
    (schedule : Schedule) (now n : Nat) (cloud : Cloud) (hcloud : cloud.injections = ∅)
    (hschedule : schedule.Transient)
    (houtlasted : Outlasted settings.retryPolicies
      ((c.operation settings chance).run.events schedule.backend now (n, cloud))) :
    let disturbed := (c.operation settings chance).run.run schedule.backend now (n, cloud)
    let undisturbed := (c.operation settings chance).run.run Schedule.never.backend now (n, cloud)
    disturbed.result = undisturbed.result ∧
      disturbed.state.2.clearCalls = undisturbed.state.2.clearCalls := by
  intro disturbed undisturbed
  obtain ⟨hresult, halike⟩ : SameEnd disturbed undisturbed :=
    (c.composed settings chance).outlasts hschedule (.refl hcloud) houtlasted
  exact ⟨hresult, halike.clearCalls⟩

/-- Five tries for every call, a second apart. -/
def patient : Settings := { retryPolicies := .ofList [("default", ⟨5, 1⟩)] }

theorem attempts_patient (policy : String) :
    (patient.retryPolicies.resolve policy).attempts = 5 := by
  have hresolve : patient.retryPolicies.resolve policy = ⟨5, 1⟩ := by
    unfold RetryPolicies.resolve
    cases h : patient.retryPolicies.get? policy with
    | none => rfl
    | some p => exact Table.eq_of_get?_singleton h rfl
  rw [hresolve]
  rfl

/-- No port is created by one of the first ten calls. -/
def lateForPorts : Schedule
  | n, .createPort _ _ => if n < 10 then some (.api "busy") else none
  | _, _ => none

theorem lateForPorts_transient : lateForPorts.Transient := by
  intro n c e he
  cases c with
  | createPort network securityGroups =>
    obtain ⟨-, he⟩ := Option.ite_none_right_eq_some.1 he
    exact ⟨rfl, Option.some.inj he ▸ rfl⟩
  | _ => cases he

/-- The port of a new server is created at the fifth try, and then all is as if it had been
    created at the first. -/
theorem retries_hide_failures_late :
    let run (schedule : Schedule) :=
      (createVm patient default pooledRequest).run.run schedule.backend 0 (0, busyCloud)
    (run lateForPorts).result = (run .never).result ∧
      (run lateForPorts).state.2.clearCalls = (run .never).state.2.clearCalls ∧
      (run lateForPorts).time = 4000 ∧ (run .never).time = 0 ∧
      (run .never).result.toOption.isSome = true := by
  intro run
  have houtlasted : Outlasted patient.retryPolicies
      ((createVm patient default pooledRequest).run.events lateForPorts.backend 0
        (0, busyCloud)) := by
    refine .of_few fun policy => ?_
    rw [attempts_patient]
    decide +kernel
  obtain ⟨hresult, hstate⟩ := retries_hide_failures patient default (.createVm pooledRequest)
    lateForPorts 0 0 busyCloud rfl lateForPorts_transient houtlasted
  exact ⟨hresult, hstate, by decide +kernel, by decide +kernel, by decide +kernel⟩

end Lifecycle

end CloudProvider
