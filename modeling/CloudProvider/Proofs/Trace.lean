import CloudProvider.Proofs.World

/-!
# Runs taken apart

What happens in a run, read off the program: a run of one step after another is a run of the
first and a run of the second, a call that is tried again fails until its last try, and a
wait that succeeds ends with the fetch that reported the status.

* `Call.mutates`, `Untouched`: calls that may change resources, and runs without any;
* `Tries`: the events of a call that is tried so many times at most; `Failures`: the tries of
  a call that have failed so far;
* `Operation.runs_bind`: a run of one operation after another, with the forms of steps
  that follow it;
* `Wait.runs_poll_cases`: one turn of a wait; `Wait.runs_awaitStatus_ok`: the last event of a
  wait that succeeds.
-/

namespace CloudProvider

open Program

/-! ## Calls that change something -/

/-- Whether a call may change resources. -/
def Call.mutates : Call → Bool
  | openService _ | getServer _ | listAttachments _ | getFlavor _ | matchFlavor _ _
  | getMetadata _ | getServerZone _ | resolveNetworks _ _ | getPorts _ | getSubnet _
  | getImage _ | getVolume _ | getSnapshot _ | getPool _ => false
  | _ => true

/-- No call in a run may have changed resources. -/
def Untouched (events : List (Event Call Call.Answer)) : Prop :=
  ∀ c reply, .called c reply ∈ events → c.mutates = false

theorem Untouched.append {events events' : List (Event Call Call.Answer)} (h : Untouched events)
    (h' : Untouched events') : Untouched (events ++ events') := by
  intro c reply hmem
  exact (List.mem_append.1 hmem).elim (h c reply) (h' c reply)

theorem untouched_singleton {c : Call} (h : c.mutates = false) (reply : Reply c.Answer) :
    Untouched [.called c reply] := by
  intro c' reply' hmem
  cases List.mem_singleton.1 hmem
  exact h

/-! ## Programs -/

/-- An outcome after which a call is not tried again: a success, or that something is absent. -/
def Conclusive {α : Type} (outcome : Except CloudError α) : Prop :=
  (∃ a, outcome = .ok a) ∨ ∃ kind id, outcome = .error (.notFound kind id)

theorem conclusive_error_iff {α : Type} {e : CloudError} :
    Conclusive (.error e : Except CloudError α) ↔ e.isNotFound = true := by
  cases e <;> simp [Conclusive, CloudError.isNotFound]

namespace Program

variable {C : Type} {A : C → Type} {α : Type} {c : C} {events : List (Event C A)}

theorem runs_perform {outcome : Except CloudError (A c)} (h : Runs (perform c) events outcome) :
    ∃ took, events = [.called c ⟨took, outcome⟩] := by
  cases h with
  | call _ _ reply _ _ h =>
    cases h
    exact ⟨reply.took, rfl⟩

/-- A program that avoids some calls makes none of them in a run. -/
theorem Ensures.avoided {avoid : C → Prop} {p : Program C A α} {Q : α → Unit → Prop} {a : α}
    (h : p.Ensures (avoiding avoid) Q ()) (hr : Runs p events a) :
    ∀ c reply, .called c reply ∈ events → ¬ avoid c := by
  induction hr with
  | done a => exact nofun
  | call c next reply events a _ ih =>
    intro c' reply' hmem
    rcases List.mem_cons.1 hmem with heq | hmem
    · cases heq
      exact h.1
    · exact ih (h.2 reply () trivial) c' reply' hmem
  | sleep ms next events a _ ih =>
    intro c' reply' hmem
    rcases List.mem_cons.1 hmem with heq | hmem
    · cases heq
    · exact ih h c' reply' hmem

/-- One turn of a call that is tried again: it is the last, as its outcome is conclusive or no
    other try is granted, or it fails and a sleep and another turn follow. -/
theorem runs_repeated_cases {ms more : Nat} {outcome : Except CloudError (A c)}
    (h : Runs (repeated c ms more) events outcome) :
    (∃ took, events = [.called c ⟨took, outcome⟩] ∧ (Conclusive outcome ∨ more = 0)) ∨
      ∃ took e fewer rest, events = .called c ⟨took, .error e⟩ :: .slept ms :: rest ∧
        e.isNotFound = false ∧ more = fewer + 1 ∧ Runs (repeated c ms fewer) rest outcome := by
  cases more with
  | zero =>
    obtain ⟨took, rfl⟩ := runs_perform h
    exact .inl ⟨took, rfl, .inr rfl⟩
  | succ fewer =>
    rcases h with _ | ⟨_, _, ⟨took, r⟩, rest, _, h⟩
    cases r with
    | ok a =>
      cases h
      exact .inl ⟨took, rfl, .inl (.inl ⟨a, rfl⟩)⟩
    | error e =>
      cases he : e.isNotFound with
      | true =>
        simp only [he, if_true] at h
        cases h
        exact .inl ⟨took, rfl, .inl (conclusive_error_iff.2 he)⟩
      | false =>
        simp only [he, Bool.false_eq_true, if_false] at h
        rcases h with _ | _ | ⟨_, _, rest, _, h⟩
        exact .inr ⟨took, e, fewer, rest, rfl, he, rfl, h⟩

/-- The events of a call that is tried so many times at most, and the outcome of the last
    try. It is the last because it is conclusive or because no other is granted; all tries
    before it are not conclusive. -/
inductive Tries (c : C) : Nat → List (Event C A) → Except CloudError (A c) → Prop
  | last {n : Nat} (reply : Reply (A c)) : Conclusive reply.outcome ∨ n = 0 →
      Tries c (n + 1) [.called c reply] reply.outcome
  | again {n : Nat} {events : List (Event C A)} {outcome : Except CloudError (A c)}
    (took : Nat) (e : CloudError) (ms : Nat) : e.isNotFound = false → Tries c n events outcome →
      Tries c (n + 1) (.called c ⟨took, .error e⟩ :: .slept ms :: events) outcome

theorem tries_of_runs {ms more : Nat} {outcome : Except CloudError (A c)}
    (h : Runs (repeated c ms more) events outcome) : Tries c (more + 1) events outcome := by
  induction more using Nat.strongRecOn generalizing events with
  | ind more ih =>
    obtain ⟨took, rfl, hlast⟩ | ⟨took, e, fewer, rest, rfl, he, rfl, hrest⟩ :=
      runs_repeated_cases h
    · exact .last ⟨took, outcome⟩ hlast
    · exact .again took e ms he (ih fewer (Nat.lt_succ_self fewer) hrest)

/-- All calls among the tries are the one that is tried. -/
theorem Tries.eq_of_mem {n : Nat} {outcome : Except CloudError (A c)}
    (h : Tries c n events outcome) {c' : C} {reply : Reply (A c')}
    (hmem : .called c' reply ∈ events) : c' = c := by
  induction h with
  | last reply' _ =>
    cases List.mem_singleton.1 hmem
    rfl
  | again took e ms _ _ ih =>
    rcases List.mem_cons.1 hmem with heq | hmem
    · cases heq
      rfl
    rcases List.mem_cons.1 hmem with heq | hmem
    · cases heq
    · exact ih hmem

/-- The tries of a call that have all failed so far, with a sleep after each of them. -/
inductive Failures (c : C) : List (Event C A) → Prop
  | none : Failures c []
  | again {tries : List (Event C A)} (took : Nat) (e : CloudError) (ms : Nat) :
    Failures c tries → e.isNotFound = false →
      Failures c (tries ++ [.called c ⟨took, .error e⟩, .slept ms])

/-- What has failed so far, and the tries that follow. -/
theorem Failures.tries {tries : List (Event C A)} (h : Failures c tries) {n : Nat}
    {rest : List (Event C A)} {outcome : Except CloudError (A c)}
    (hrest : Tries c n rest outcome) : ∃ m, Tries c m (tries ++ rest) outcome := by
  induction h generalizing n rest with
  | none => exact ⟨n, hrest⟩
  | again took e ms _ he ih =>
    rw [List.append_assoc]
    exact ih (.again took e ms he hrest)

/-- What has failed so far, and one more try, if it is the last. -/
theorem Failures.last {tries : List (Event C A)} (h : Failures c tries) (reply : Reply (A c)) :
    ∃ m, Tries c m (tries ++ [.called c reply]) reply.outcome :=
  h.tries (.last reply (.inr rfl) : Tries c 1 _ _)

end Program

theorem RetryPolicies.tries_of_runs {C : Type} {A : C → Type} {policies : RetryPolicies}
    {policy : String} {c : C} {events : List (Event C A)} {outcome : Except CloudError (A c)}
    (h : Runs (policies.run policy c) events outcome) :
    Tries c (policies.resolve policy).attempts events outcome := by
  have hattempts := (policies.resolve policy).attempts_pos
  have htries := Program.tries_of_runs h
  rwa [Nat.sub_add_cancel hattempts] at htries

/-! ## Waits -/

namespace Wait

variable {C : Type} {A : C → Type} {S : Type} {w : Wait} {resource : String}
  {text : S → String} {target : S} {fetch : C}
  {status : Except CloudError (A fetch) → Except CloudError S} {events : List (Event C A)}

/-- A wait that succeeds makes one call again and again, and the last one reports the status
    waited for. -/
def Reaches (target : S) (fetch : C) (status : Except CloudError (A fetch) → Except CloudError S)
    (events : List (Event C A)) : Prop :=
  ∃ before took outcome, events = before ++ [.called fetch ⟨took, outcome⟩] ∧
    (∀ c reply, .called c reply ∈ before → c = fetch) ∧ status outcome = .ok target

theorem Reaches.last (reply : Reply (A fetch)) (h : status reply.outcome = .ok target) :
    Reaches target fetch status [.called fetch reply] :=
  ⟨[], reply.took, reply.outcome, rfl, fun _ _ hmem => absurd hmem List.not_mem_nil, h⟩

variable [DecidableEq S]

theorem eq_ok_of_reached {r : Except CloudError S} (h : reached target r = true) :
    r = .ok target := by
  cases r with
  | ok s => exact congrArg _ (of_decide_eq_true h)
  | error e => cases h

variable [Timer]

/-- One turn of a wait: the target is reported, or the time or the number of sleeps is used up,
    or the wait sleeps and takes another turn. -/
theorem runs_poll_cases {sleeps elapsed : Nat} {last : Option CloudError}
    {r : Except CloudError Unit}
    (h : Runs (w.poll resource text target fetch status sleeps elapsed last) events r) :
    ∃ reply rest, events = .called fetch reply :: rest ∧
      let passed := elapsed + reply.took
      let fault := lastFault last (status reply.outcome)
      (reached target (status reply.outcome) = true ∧ rest = [] ∧ r = .ok () ∨
        reached target (status reply.outcome) = false ∧ (w.timeout ≤ passed ∨ sleeps = 0) ∧
          rest = [] ∧ r = .error (.waitTimeout resource (text target) passed fault) ∨
        reached target (status reply.outcome) = false ∧ passed < w.timeout ∧
          ∃ more events', sleeps = more + 1 ∧ rest = .slept (w.nextSleep passed) :: events' ∧
            Runs (w.poll resource text target fetch status more (passed + w.nextSleep passed) fault)
              events' r) := by
  rw [poll] at h
  rcases h with _ | ⟨_, _, reply, rest, _, h⟩
  refine ⟨reply, rest, rfl, ?_⟩
  cases hr : reached target (status reply.outcome) with
  | true =>
    simp only [hr, if_true] at h
    cases h
    exact .inl ⟨rfl, rfl, rfl⟩
  | false =>
    simp only [hr, Bool.false_eq_true, if_false] at h
    refine .inr ?_
    by_cases htime : w.timeout ≤ elapsed + reply.took
    · rw [if_pos htime] at h
      cases h
      exact .inl ⟨rfl, .inl htime, rfl, rfl⟩
    · rw [if_neg htime] at h
      cases sleeps with
      | zero =>
        cases h
        exact .inl ⟨rfl, .inr rfl, rfl, rfl⟩
      | succ more =>
        rcases h with _ | _ | ⟨_, _, events', _, h⟩
        exact .inr ⟨rfl, Nat.lt_of_not_le htime, more, events', rfl, rfl, h⟩

theorem runs_poll_ok {sleeps elapsed : Nat} {last : Option CloudError}
    (h : Runs (w.poll resource text target fetch status sleeps elapsed last) events (.ok ())) :
    Reaches target fetch status events := by
  induction sleeps using Nat.strongRecOn generalizing events elapsed last with
  | ind sleeps ih =>
    obtain ⟨reply, rest, rfl, ⟨hr, rfl, -⟩ | ⟨-, -, -, hr⟩ |
      ⟨-, -, more, events, rfl, rfl, hrest⟩⟩ := runs_poll_cases h
    · exact .last reply (eq_ok_of_reached hr)
    · cases hr
    · obtain ⟨before, took, outcome, rfl, hbefore, hstatus⟩ := ih more (Nat.lt_succ_self more) hrest
      refine ⟨.called fetch reply :: .slept _ :: before, took, outcome, rfl, ?_, hstatus⟩
      intro c reply' hmem
      rcases List.mem_cons.1 hmem with heq | hmem
      · cases heq
        rfl
      rcases List.mem_cons.1 hmem with heq | hmem
      · cases heq
      · exact hbefore c reply' hmem

theorem runs_awaitStatus_ok
    (h : Runs (w.awaitStatus resource text target fetch status) events (.ok ())) :
    Reaches target fetch status events := runs_poll_ok h

end Wait

/-! ## Operations -/

namespace Operation

variable {α β : Type} {p : Operation α} {f : α → Operation β} {c : Call}
  {events : List (Event Call Call.Answer)}

/-- A run of one operation after another: it ends with the fault of the first, or goes on
    with its result. -/
theorem runs_bind {r : Except OperationError β} (h : Runs (p >>= f).run events r) :
    (∃ e, r = .error e ∧ Runs p.run events (.error e)) ∨
      ∃ before after a, events = before ++ after ∧ Runs p.run before (.ok a) ∧
        Runs (f a).run after r := by
  obtain ⟨before, after, r', rfl, hp, hf⟩ := Program.runs_bind.1 h
  cases r' with
  | ok a => exact .inr ⟨before, after, a, rfl, hp, hf⟩
  | error e =>
    cases hf
    exact .inl ⟨e, rfl, (List.append_nil before).symm ▸ hp⟩

theorem runs_bind_ok {b : β} (h : Runs (p >>= f).run events (.ok b)) :
    ∃ before after a, events = before ++ after ∧ Runs p.run before (.ok a) ∧
      Runs (f a).run after (.ok b) := by
  obtain ⟨e, he, -⟩ | hruns := runs_bind h
  · cases he
  · exact hruns

theorem runs_pure {a : α} {r : Except OperationError α}
    (h : Runs (pure a : Operation α).run events r) : events = [] ∧ r = .ok a := by
  cases h
  exact ⟨rfl, rfl⟩

theorem runs_throw {e : OperationError} {r : Except OperationError α}
    (h : Runs (throw e : Operation α).run events r) : events = [] ∧ r = .error e := by
  cases h
  exact ⟨rfl, rfl⟩

theorem runs_ofAction {q : Action α} {r : Except OperationError α}
    (h : Runs (ofAction q).run events r) : ∃ a, r = .ok a ∧ Runs q events a := by
  obtain ⟨before, after, a, rfl, hq, hdone⟩ := Program.runs_bind.1 h
  cases hdone
  exact ⟨a, rfl, (List.append_nil before).symm ▸ hq⟩

theorem runs_ofOutcome {fault : CloudError → OperationError} {q : Action (Except CloudError α)}
    {r : Except OperationError α} (h : Runs (ofOutcome fault q).run events r) :
    ∃ outcome, r = outcome.mapError fault ∧ Runs q events outcome := by
  obtain ⟨before, after, outcome, rfl, hq, hdone⟩ := Program.runs_bind.1 h
  cases hdone
  exact ⟨outcome, rfl, (List.append_nil before).symm ▸ hq⟩

theorem runs_ofOutcome_ok {fault : CloudError → OperationError}
    {q : Action (Except CloudError α)} {a : α} (h : Runs (ofOutcome fault q).run events (.ok a)) :
    Runs q events (.ok a) := by
  obtain ⟨outcome, hr, hq⟩ := runs_ofOutcome h
  cases outcome with
  | ok a' =>
    cases hr
    exact hq
  | error e => cases hr

theorem runs_attempt {r : Except OperationError (Except CloudError c.Answer)}
    (h : Runs (attempt c).run events r) :
    ∃ took outcome, events = [.called c ⟨took, outcome⟩] ∧ r = .ok outcome := by
  obtain ⟨outcome, rfl, hperform⟩ := runs_ofAction h
  obtain ⟨took, rfl⟩ := runs_perform hperform
  exact ⟨took, outcome, rfl, rfl⟩

theorem runs_ask {context : String} {r : Except OperationError c.Answer}
    (h : Runs (ask c context).run events r) :
    ∃ took outcome, events = [.called c ⟨took, outcome⟩] ∧
      r = outcome.mapError (CloudError.inContext context) := by
  obtain ⟨outcome, hr, hperform⟩ := runs_ofOutcome h
  obtain ⟨took, rfl⟩ := runs_perform hperform
  exact ⟨took, outcome, rfl, hr⟩

/-- A call that is made once, whatever its faults are told as. -/
theorem runs_asked_ok {fault : CloudError → OperationError} {a : c.Answer}
    (h : Runs (ofOutcome fault (perform c)).run events (.ok a)) :
    ∃ took, events = [.called c ⟨took, .ok a⟩] := runs_perform (runs_ofOutcome_ok h)

theorem runs_attemptRepeatedly {settings : Settings} {policy : String}
    {r : Except OperationError (Except CloudError c.Answer)}
    (h : Runs (attemptRepeatedly settings policy c).run events r) :
    ∃ outcome, r = .ok outcome ∧
      Tries c (settings.retryPolicies.resolve policy).attempts events outcome := by
  obtain ⟨outcome, hr, hq⟩ := runs_ofAction h
  exact ⟨outcome, hr, RetryPolicies.tries_of_runs hq⟩

theorem runs_askRepeatedly_ok {settings : Settings} {policy context : String} {a : c.Answer}
    (h : Runs (askRepeatedly settings policy c context).run events (.ok a)) :
    Tries c (settings.retryPolicies.resolve policy).attempts events (.ok a) :=
  RetryPolicies.tries_of_runs (runs_ofOutcome_ok h)

end Operation

end CloudProvider
