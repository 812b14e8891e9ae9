import CloudProvider.Proofs.Attachment
import CloudProvider.Simulated.Cloud
import CloudProvider.Simulated.Method

/-!
# Calls that fail change nothing

A call to the simulated cloud is recorded, an injection may refuse it, and its statements
are gone through until one of them fails. Although none of them is taken back, a call
that fails leaves the resources as they were. So does every call that is meant to read.

* `Cloud.execute`: a call statement by statement, which is how it is answered
  (`reach_eq_execute`);
* `Cloud.Logs`: what every call leaves behind it besides the resources;
* `Cloud.issuedIn`: the ids that some calls give out, which are numbered in ascending order
  (`numbered_of_mem_issuedIn`);
* `answer_atomic`: all of this together.
-/

namespace CloudProvider

/-! ## Statement by statement -/

namespace Cloud

/-- Make a call that an injection may refuse, statement by statement. -/
def execute (c : Call) (s : Cloud) : Except CloudError c.Answer × Cloud :=
  match (s.record c).inject c.operation with
  | (some e, s) => (.error e, s)
  | (none, s) =>
    let performed := (Method.ofCall c).perform s.resources
    (performed.1, { s with resources := performed.2 })

theorem reach_eq_execute (c : Call) (s : Cloud) : s.reach c = s.execute c := by
  unfold reach execute
  cases (s.record c).inject c.operation with
  | mk refusal s =>
    cases refusal with
    | some e => rfl
    | none =>
      simp only
      cases hanswer : Resources.answer c s.resources with
      | error e => rw [Method.perform_of_error hanswer]
      | ok r => rw [Method.perform_of_ok hanswer]

theorem answer_eq_execute {c : Call} (hc : ∀ service, c ≠ .openService service) (s : Cloud) :
    s.answer c = s.execute c := by
  rw [← reach_eq_execute]
  cases c with
  | openService service => exact absurd rfl (hc service)
  | _ => rfl

/-! ## The record and the injections -/

/-- What a call leaves besides the resources: one more record, and no change but to the
    counters of an injection into calls of its name. -/
structure Logs (c : Call) (s s' : Cloud) : Prop where
  calls : s'.calls = s.calls ++ [⟨c.operation, c.subjects⟩]
  unavailable : s'.unavailable = s.unavailable
  injections {operation} : operation ≠ c.operation →
    s'.injections.get? operation = s.injections.get? operation
  injection : (s'.injections.get? c.operation).map (·.absent) =
    (s.injections.get? c.operation).map (·.absent)

theorem absent_next (i : Injection) : i.next.2.absent = i.absent := by
  unfold Injection.next
  split <;> rfl

theorem logs_inject (c : Call) (s : Cloud) : s.Logs c ((s.record c).inject c.operation).2 := by
  unfold inject
  split
  · exact ⟨rfl, rfl, fun _ => rfl, rfl⟩
  · rename_i i hi
    have hi : s.injections.get? c.operation = some i := hi
    refine ⟨rfl, rfl, fun hne => Table.get?_insert_of_ne _ _ hne, ?_⟩
    show ((s.injections.insert c.operation i.next.2).get? c.operation).map _ = _
    rw [Table.get?_insert_self, hi, Option.map_some, Option.map_some, absent_next]

theorem logs_reach (c : Call) (s : Cloud) : s.Logs c (s.reach c).2 := by
  have hinject := logs_inject c s
  unfold reach
  cases hrefusal : (s.record c).inject c.operation with
  | mk refusal s' =>
    rw [hrefusal] at hinject
    cases refusal with
    | some e => exact hinject
    | none =>
      simp only
      cases Resources.answer c s'.resources with
      | error e => exact hinject
      | ok r => exact ⟨hinject.calls, hinject.unavailable, hinject.injections, hinject.injection⟩

end Cloud

/-! ## Reads -/

/-- Whether a call is meant to change nothing: it reads, by its name, or it does what a
    simulated cloud keeps no record of. -/
def Call.Spares (c : Call) : Prop :=
  Cloud.isRead c.operation = true ∨ c.operation = "reboot_server" ∨
    c.operation = "configure_vip_network"

theorem Call.isIdle_of_spares {c : Call} (h : c.Spares) : c.isIdle = true := by
  cases c with
  | openService _ | getServer _ | listAttachments _ | getFlavor _ | matchFlavor _ _
  | getMetadata _ | rebootServer _ | getServerZone _ | resolveNetworks _ _ | getPorts _
  | configureVip _ _ | getSubnet _ | getImage _ | getVolume _ | getSnapshot _
  | getPool _ => rfl
  | _ => simp [Call.Spares, Cloud.isRead, Call.operation, List.isPrefixOf] at h

theorem Cloud.answer_resources_of_spares {c : Call} (h : c.Spares) (s : Cloud) :
    (s.answer c).2.resources = s.resources := by
  cases hanswer : s.answer c with
  | mk r s' =>
    cases r with
    | error e => exact answer_resources_of_error hanswer
    | ok a => exact Resources.eq_of_isIdle (Call.isIdle_of_spares h) (answer_ok hanswer)

/-! ## Ids -/

/-- The id that a call has given out. -/
def Call.issued? : (c : Call) → c.Answer → Option String
  | .createServer _, server => some server.id
  | .createPort _ _, port => some port.id
  | .createVolume _, v => some v.id
  | .createSnapshot _, snapshot => some snapshot.id
  | .createMember _ _ _ _ _, m => some m.id
  | _, _ => none

/-- A number with a kind before it. -/
def IsNumbered (n : Nat) (id : String) : Prop :=
  ∃ kind : String, '-' ∉ kind.toList ∧ id = kind ++ "-" ++ toString n

/-- Whatever the kinds, an id has but one number. -/
theorem IsNumbered.unique {m n : Nat} {id : String} (h : IsNumbered m id)
    (h' : IsNumbered n id) : m = n := by
  obtain ⟨kind, hkind, rfl⟩ := h
  obtain ⟨kind', hkind', heq⟩ := h'
  -- The kind is what comes before the first dash.
  have hcut {kind : String} (hkind : '-' ∉ kind.toList) (n : Nat) :
      Text.cut '-' (kind ++ "-" ++ toString n).toList =
        some (kind.toList, (toString n).toList) :=
    Text.cut_eq_some_iff.2 ⟨by simp, hkind⟩
  have hsame := (hcut hkind m).symm.trans (heq ▸ hcut hkind' n)
  obtain ⟨-, hnumber⟩ := Prod.mk.inj (Option.some.inj hsame)
  have hempty : "" ++ toString m = "" ++ toString n := by
    rw [← String.toList_inj, String.toList_append, String.toList_append, hnumber]
  exact Text.append_toString_injective hempty

namespace Resources

variable {s s' : Resources}

theorem isNumbered_nextId {kind : String} (h : '-' ∉ kind.toList) :
    IsNumbered (s.issued + 1) (s.nextId kind) := ⟨kind, h, rfl⟩

/-- A call gives out the next number, or none. -/
theorem issued_of_answer {c : Call} {a : c.Answer} (h : Resources.answer c s = .ok (a, s')) :
    (s'.issued = s.issued ∧ c.issued? a = none) ∨
      (s'.issued = s.issued + 1 ∧ ∃ id, c.issued? a = some id ∧ IsNumbered (s.issued + 1) id) := by
  cases hidle : c.isIdle with
  | true =>
    refine .inl ⟨congrArg issued (eq_of_isIdle hidle h), ?_⟩
    cases c <;> first | rfl | cases hidle
  | false =>
    cases c with
    | createServer _ | createPort _ _ | createVolume _ | createMember _ _ _ _ _ =>
      cases h
      exact .inr ⟨rfl, _, rfl, isNumbered_nextId (by decide)⟩
    | createSnapshot _ =>
      obtain ⟨_, -, h⟩ := find_bind_ok h
      cases h
      exact .inr ⟨rfl, _, rfl, isNumbered_nextId (by decide)⟩
    | deletePorts _ | deleteMember _ _ _ =>
      cases h
      exact .inl ⟨rfl, rfl⟩
    | attachVolume _ _ _ =>
      obtain ⟨_, -, h⟩ := find_bind_ok h
      obtain ⟨_, -, h⟩ := find_bind_ok h
      cases h
      exact .inl ⟨rfl, rfl⟩
    | deleteServer _ | detachVolume _ _ | updateMetadata _ _ | deleteMetadata _ _
    | renameServer _ _ | deleteVolume _ | extendVolume _ _ | setVolumeMetadata _ _
    | deleteSnapshot _ =>
      obtain ⟨_, -, h⟩ := find_bind_ok h
      cases h
      exact .inl ⟨rfl, rfl⟩
    | _ => cases hidle

end Resources

namespace Cloud

/-- The id that a call gives out, if it succeeds. -/
def issuedBy? (c : Call) (s : Cloud) : Option String := (s.answer c).1.toOption.bind c.issued?

/-- The ids that some calls give out, one after the other. -/
def issuedIn : List Call → Cloud → List String
  | [], _ => []
  | c :: rest, s => (s.issuedBy? c).toList ++ issuedIn rest (s.answer c).2

theorem issuedBy?_numbered (c : Call) (s : Cloud) :
    (s.resources.issued ≤ (s.answer c).2.resources.issued ∧ s.issuedBy? c = none) ∨
      ((s.answer c).2.resources.issued = s.resources.issued + 1 ∧
        ∃ id, s.issuedBy? c = some id ∧ IsNumbered (s.resources.issued + 1) id) := by
  unfold issuedBy?
  cases hanswer : s.answer c with
  | mk r s' =>
    cases r with
    | error e =>
      exact .inl ⟨Nat.le_of_eq (congrArg Resources.issued (answer_resources_of_error hanswer)).symm,
        rfl⟩
    | ok a =>
      exact (Resources.issued_of_answer (answer_ok hanswer)).imp_left
        fun ⟨hissued, hnone⟩ => ⟨Nat.le_of_eq hissued.symm, hnone⟩

/-- What is given out has a number beyond those given out before. -/
theorem numbered_of_mem_issuedIn {cs : List Call} {s : Cloud} {id : String}
    (h : id ∈ s.issuedIn cs) : ∃ n, s.resources.issued < n ∧ IsNumbered n id := by
  induction cs generalizing s with
  | nil => exact absurd h List.not_mem_nil
  | cons c cs ih =>
    rcases issuedBy?_numbered c s with ⟨hle, hnone⟩ | ⟨hissued, first, hsome, hfirst⟩
    · rw [issuedIn, hnone] at h
      obtain ⟨n, hn, hid⟩ := ih h
      exact ⟨n, Nat.lt_of_le_of_lt hle hn, hid⟩
    · rw [issuedIn, hsome] at h
      rcases List.mem_cons.1 h with rfl | h
      · exact ⟨_, Nat.lt_succ_self _, hfirst⟩
      · obtain ⟨n, hn, hid⟩ := ih h
        exact ⟨n, by omega, hid⟩

theorem nodup_issuedIn (cs : List Call) (s : Cloud) : (s.issuedIn cs).Nodup := by
  induction cs generalizing s with
  | nil => exact .nil
  | cons c cs ih =>
    rcases issuedBy?_numbered c s with ⟨-, hnone⟩ | ⟨hissued, first, hsome, hfirst⟩
    · rw [issuedIn, hnone]
      exact ih _
    · rw [issuedIn, hsome]
      refine List.nodup_cons.2 ⟨fun hmem => ?_, ih _⟩
      obtain ⟨n, hn, hid⟩ := numbered_of_mem_issuedIn hmem
      have := hfirst.unique hid
      omega

/-! ## Atomicity -/

/-- A call is gone through statement by statement and leaves one record behind; if it
    fails, or is meant to change nothing, the resources are those it found. No id is given
    out twice, whatever calls are made. -/
theorem answer_atomic {c : Call} (hc : ∀ service, c ≠ .openService service) (s : Cloud) :
    s.answer c = s.execute c ∧ s.Logs c (s.answer c).2 ∧
      (∀ e, (s.answer c).1 = .error e → (s.answer c).2.resources = s.resources) ∧
      (c.Spares → (s.answer c).2.resources = s.resources) ∧
      ∀ cs, (s.issuedIn cs).Nodup := by
  refine ⟨answer_eq_execute hc s, ?_, fun e he => ?_, fun hspares =>
    answer_resources_of_spares hspares s, fun cs => nodup_issuedIn cs s⟩
  · rw [answer_eq_execute hc, ← reach_eq_execute]
    exact logs_reach c s
  · exact answer_resources_of_error (Prod.ext he rfl)

/-- A snapshot of a volume that does not exist takes up no id, and neither does a reboot. -/
theorem answer_atomic_missing :
    let s := ({} : Cloud).seed (·.addServer "vm" "1")
    let c := Call.createSnapshot ⟨"disk", true, "snapshot", "", ∅⟩
    let port := Call.createPort ⟨"private", .manual, "net", none, none⟩ []
    (s.answer c).1 = .error (.notFound "volume" "disk") ∧
      (s.answer c).2.resources = s.resources ∧ (s.answer c).2.calls.length = 1 ∧
      (Call.rebootServer "vm").Spares ∧
      (s.answer (.rebootServer "vm")).2.resources = s.resources ∧
      s.issuedIn [port, c, .rebootServer "vm", port] = ["port-1", "port-2"] ∧
      (s.issuedIn [port, c, .rebootServer "vm", port]).Nodup := by
  intro s c port
  have hmissing : (s.answer c).1 = .error (.notFound "volume" "disk") := rfl
  have hspares : (Call.rebootServer "vm").Spares := .inr (.inl rfl)
  obtain ⟨-, -, hfails, -, hnodup⟩ := answer_atomic (c := c) (fun _ => nofun) s
  obtain ⟨-, -, -, hreads, -⟩ := answer_atomic (c := .rebootServer "vm") (fun _ => nofun) s
  exact ⟨hmissing, hfails _ hmissing, rfl, hspares, hreads hspares, by decide +kernel, hnodup _⟩

end Cloud

end CloudProvider
