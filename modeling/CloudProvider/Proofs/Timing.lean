import CloudProvider.Proofs.Compensation
import CloudProvider.Proofs.Composition
import CloudProvider.Proofs.Trace
import CloudProvider.Proofs.Validation
import Mathlib.Algebra.Order.Floor.Div

/-!
# How long an operation lasts

An operation sleeps between the tries of a call and between the fetches of a wait, and
nowhere else. Settings that have passed validation bound both: a policy grants a number of
tries, and a wait that looks every so often runs out of time. So whatever the backend
replies, an operation ends, after phases that are each as short as the settings say.

* `Wait.Polls`: the loop of a wait, with nothing to stop it but the time
  (`Wait.runs_awaitStatus_iff`);
* `Wait.Polls.calls_le`, `Wait.Polls.slept_le`: how often it fetches and how long it sleeps;
* `spent_of_runs_repeated`: likewise for a call that is tried again;
* `Phase`, `Phases`: the events of one step, and a run cut along the steps of its program
  (`Composed.phases`);
* `Command.ends_in_phases`: every operation under accepted settings ends in such phases.
-/

namespace CloudProvider

open Program

/-! ## What a run spends -/

namespace Program

variable {C : Type} {A : C → Type} {events events' : List (Event C A)}

/-- The time an event is slept. -/
def Event.rest : Event C A → Nat
  | .called _ _ => 0
  | .slept ms => ms

/-- The time slept in a run, in milliseconds. -/
def slept (events : List (Event C A)) : Nat := (events.map Event.rest).sum

@[simp] theorem calls_nil : calls ([] : List (Event C A)) = [] := rfl

@[simp] theorem calls_called (c : C) (reply : Reply (A c)) :
    calls (.called c reply :: events) = c :: calls events := rfl

@[simp] theorem calls_slept (ms : Nat) : calls (.slept ms :: events) = calls events := rfl

@[simp] theorem slept_nil : slept ([] : List (Event C A)) = 0 := rfl

@[simp] theorem slept_called (c : C) (reply : Reply (A c)) :
    slept (.called c reply :: events) = slept events := Nat.zero_add _

@[simp] theorem slept_slept (ms : Nat) : slept (.slept ms :: events) = ms + slept events := rfl

end Program

/-- The events of a second operation end those of both, if the first succeeds. -/
theorem Operation.events_suffix_bind {α β σ : Type} {backend : Backend Call Call.Answer σ}
    {p : Operation α} {f : α → Operation β} {now : Nat} {s : σ} {a : α}
    (h : (p.run.run backend now s).result = .ok a) :
    (f a).run.events backend (p.run.run backend now s).time (p.run.run backend now s).state <:+
      (p >>= f).run.events backend now s := by
  refine ⟨p.run.events backend now s, ?_⟩
  refine Eq.trans ?_ (Program.events_bind backend p.run _ now s).symm
  rw [h]
  rfl

/-! ## Waits -/

namespace Wait

variable [Timer] {C : Type} {A : C → Type} {S : Type} [DecidableEq S] {w : Wait}
  {resource : String} {text : S → String} {target : S} {fetch : C}
  {status : Except CloudError (A fetch) → Except CloudError S} {elapsed : Nat}
  {last : Option CloudError} {events : List (Event C A)} {r : Except CloudError Unit}

/-- The loop of a wait: from a time that has passed and the last fault seen, the events up to
    its end and its result. It has no bound on the number of its turns. -/
inductive Polls (w : Wait) (resource : String) (text : S → String) (target : S) (fetch : C)
    (status : Except CloudError (A fetch) → Except CloudError S) :
    Nat → Option CloudError → List (Event C A) → Except CloudError Unit → Prop
  | reached {elapsed : Nat} {last : Option CloudError} (reply : Reply (A fetch)) :
    reached target (status reply.outcome) = true →
      Polls w resource text target fetch status elapsed last [.called fetch reply] (.ok ())
  | timedOut {elapsed : Nat} {last : Option CloudError} (reply : Reply (A fetch)) :
    Wait.reached target (status reply.outcome) = false → w.timeout ≤ elapsed + reply.took →
      Polls w resource text target fetch status elapsed last [.called fetch reply]
        (.error (.waitTimeout resource (text target) (elapsed + reply.took)
          (lastFault last (status reply.outcome))))
  | again {elapsed : Nat} {last : Option CloudError} (reply : Reply (A fetch))
    {events : List (Event C A)} {r : Except CloudError Unit} :
    Wait.reached target (status reply.outcome) = false → elapsed + reply.took < w.timeout →
      Polls w resource text target fetch status
        (elapsed + reply.took + w.nextSleep (elapsed + reply.took))
        (lastFault last (status reply.outcome)) events r →
      Polls w resource text target fetch status elapsed last
        (.called fetch reply :: .slept (w.nextSleep (elapsed + reply.took)) :: events) r

/-- With enough sleeps left to fill the time that is left, the bound on their number is never
    met. -/
theorem runs_poll_iff {sleeps : Nat} (henough : w.timeout ≤ elapsed + sleeps * w.pace) :
    Runs (w.poll resource text target fetch status sleeps elapsed last) events r ↔
      w.Polls resource text target fetch status elapsed last events r := by
  constructor
  · intro h
    induction sleeps using Nat.strongRecOn generalizing elapsed last events with
    | ind sleeps ih =>
      obtain ⟨reply, rest, rfl, ⟨hr, rfl, rfl⟩ | ⟨hr, hend, rfl, rfl⟩ |
        ⟨hr, htime, more, events, rfl, rfl, hrest⟩⟩ := runs_poll_cases h
      · exact .reached reply hr
      · have htime : w.timeout ≤ elapsed + reply.took := by
          rcases hend with htime | rfl
          · exact htime
          · omega
        exact .timedOut reply hr htime
      · have hleft := w.timeout_le_of_slept henough (Nat.le_add_right elapsed reply.took)
        exact .again reply hr htime (ih more (Nat.lt_succ_self more) hleft hrest)
  · intro h
    induction h generalizing sleeps with
    | reached reply hr =>
      cases sleeps <;> exact .call _ _ reply _ _ (by simpa only [hr, if_true] using .done _)
    | timedOut reply hr htime =>
      cases sleeps <;>
        exact .call _ _ reply _ _
          (by simpa only [hr, Bool.false_eq_true, if_false, if_pos htime] using .done _)
    | again reply hr htime _ ih =>
      have hnot := Nat.not_le_of_lt htime
      cases sleeps with
      | zero => omega
      | succ sleeps =>
        refine .call _ _ reply _ _ ?_
        simp only [hr, Bool.false_eq_true, if_false, if_neg hnot]
        exact .sleep _ _ _ _ (ih (w.timeout_le_of_slept henough (Nat.le_add_right _ _)))

/-- With a positive interval a wait is its loop: nothing else ever ends it. -/
theorem runs_awaitStatus_iff (h : 0 < w.interval) :
    Runs (w.awaitStatus resource text target fetch status) events r ↔
      w.Polls resource text target fetch status 0 none events r :=
  runs_poll_iff (Nat.le_trans (w.timeout_le h) (Nat.le_add_left _ _))

/-- There is one fetch more than there are sleeps, and so many sleeps fill the time. -/
theorem Polls.calls_le (h : w.Polls resource text target fetch status elapsed last events r)
    {k : Nat} (hk : w.timeout ≤ elapsed + k * w.pace) : (calls events).length ≤ k + 1 := by
  induction h generalizing k with
  | reached reply _ | timedOut reply _ _ => simp
  | @again elapsed last reply events r _ htime _ ih =>
    obtain _ | k := k
    · omega
    · have hrest := ih (w.timeout_le_of_slept hk (Nat.le_add_right _ _))
      simpa using hrest

/-- No sleep reaches beyond the time. -/
theorem Polls.slept_le (h : w.Polls resource text target fetch status elapsed last events r) :
    slept events ≤ w.timeout - elapsed := by
  induction h with
  | reached reply _ | timedOut reply _ _ => simp
  | again reply _ htime _ ih =>
    simp only [nextSleep, slept_called, slept_slept] at ih ⊢
    omega

end Wait

/-! ## Retries -/

/-- A call that is tried again is made once more than it is slept. -/
theorem Program.spent_of_runs_repeated {C : Type} {A : C → Type} {c : C} {ms more : Nat}
    {events : List (Event C A)} {outcome : Except CloudError (A c)}
    (h : Runs (repeated c ms more) events outcome) :
    (calls events).length ≤ more + 1 ∧ slept events ≤ more * ms := by
  induction more using Nat.strongRecOn generalizing events with
  | ind more ih =>
    obtain ⟨took, rfl, -⟩ | ⟨took, e, fewer, rest, rfl, -, rfl, hrest⟩ := runs_repeated_cases h
    · simp
    · obtain ⟨hcalls, hslept⟩ := ih fewer (Nat.lt_succ_self fewer) hrest
      rw [Nat.succ_mul]
      simp only [calls_called, calls_slept, List.length_cons, slept_called, slept_slept]
      omega

/-! ## Phases -/

/-- The events of one step of an operation, and its outcome: a call that is made once, the tries
    of a call under its policy, or the loop of a wait. -/
inductive Phase (settings : Settings) :
    {α : Type} → Action α → List (Event Call Call.Answer) → α → Prop
  | once {c : Call} (reply : Reply c.Answer) : c.policy? = none →
    Phase settings (.perform c) [.called c reply] reply.outcome
  /-- Neither more tries nor more sleep than the policy grants. -/
  | retried {c : Call} {policy : String} {granted : RetryPolicy}
    {events : List (Event Call Call.Answer)} {outcome : Except CloudError c.Answer} :
    c.policy? = some policy → settings.retryPolicies.resolve policy = granted →
      Tries c granted.maxAttempts.toNat events outcome →
      (calls events).length ≤ granted.maxAttempts.toNat →
      slept events ≤ (granted.maxAttempts.toNat - 1) * (1000 * granted.sleepSeconds.toNat) →
        Phase settings (settings.retryPolicies.run policy c) events outcome
  /-- A fetch at the start and one after each interval, or after the longest sleep there is if
      that is shorter, and no sleep after the time is up. -/
  | awaited {S : Type} [DecidableEq S] {fetch : Call} {resource : String} {text : S → String}
    {target : S} {status : Except CloudError fetch.Answer → Except CloudError S}
    {events : List (Event Call Call.Answer)} {r : Except CloudError Unit} :
    fetch.policy? = none →
      settings.wait.Polls resource text target fetch status 0 none events r →
      (calls events).length ≤
        settings.stateTimeout ⌈/⌉ min settings.pollInterval (Timer.longest / 1000) + 1 →
      slept events ≤ 1000 * settings.stateTimeout →
        Phase settings (settings.wait.awaitStatus resource text target fetch status) events r

/-- The phases of a run, which follow the program: there is one for each step that it takes on
    its way to the result, in their order. -/
inductive Phases (settings : Settings) :
    {α : Type} → Action α → List (List (Event Call Call.Answer)) → α → Prop
  | done {α : Type} (a : α) : Phases settings (.done a) [] a
  | step {α : Type} {p : Action α} {events : List (Event Call Call.Answer)} {a : α} :
    Phase settings p events a → Phases settings p [events] a
  | bind {α β : Type} {p : Action α} {f : α → Action β}
    {phases phases' : List (List (Event Call Call.Answer))} {a : α} {b : β} :
    Phases settings p phases a → Phases settings (f a) phases' b →
      Phases settings (p.bind f) (phases ++ phases') b

section

variable {settings : Settings} {events : List (Event Call Call.Answer)}

theorem phase_of_runs_retried {c : Call} {policy : String}
    {outcome : Except CloudError c.Answer} (hc : c.policy? = some policy)
    (hattempts : 0 < (settings.retryPolicies.resolve policy).maxAttempts.toNat)
    (h : Runs (settings.retryPolicies.run policy c) events outcome) :
    Phase settings (settings.retryPolicies.run policy c) events outcome := by
  have hsame : (settings.retryPolicies.resolve policy).attempts =
      (settings.retryPolicies.resolve policy).maxAttempts.toNat := Nat.max_eq_right hattempts
  obtain ⟨hcalls, hslept⟩ := spent_of_runs_repeated h
  have hms : (settings.retryPolicies.resolve policy).sleepMs ≤
      1000 * (settings.retryPolicies.resolve policy).sleepSeconds.toNat := sleepTime_le _
  rw [hsame] at hcalls hslept
  refine .retried hc rfl (hsame ▸ RetryPolicies.tries_of_runs h) (by omega) ?_
  exact Nat.le_trans hslept (Nat.mul_le_mul_left _ hms)

theorem Settings.pace_wait :
    settings.wait.pace = 1000 * min settings.pollInterval (Timer.longest / 1000) := by
  simp only [wait, Wait.pace, sleepTime, Timer.longest]
  omega

theorem phase_of_runs_awaited {S : Type} [DecidableEq S] {fetch : Call} {resource : String}
    {text : S → String} {target : S}
    {status : Except CloudError fetch.Answer → Except CloudError S} {r : Except CloudError Unit}
    (hfetch : fetch.policy? = none) (hinterval : 0 < settings.pollInterval)
    (h : Runs (settings.wait.awaitStatus resource text target fetch status) events r) :
    Phase settings (settings.wait.awaitStatus resource text target fetch status) events r := by
  have hpolls := (Wait.runs_awaitStatus_iff (Nat.mul_pos (by decide) hinterval)).1 h
  refine .awaited hfetch hpolls (hpolls.calls_le ?_) hpolls.slept_le
  have hpos : 0 < min settings.pollInterval (Timer.longest / 1000) :=
    Nat.lt_min.2 ⟨hinterval, by decide⟩
  have hceil := le_smul_ceilDiv (b := settings.stateTimeout) hpos
  rw [Settings.pace_wait, Nat.zero_add, Nat.mul_left_comm, Nat.mul_comm (_ ⌈/⌉ _)]
  exact Nat.mul_le_mul_left 1000 hceil

/-- A run of what is composed of single calls, retried calls and waits has a phase for each of
    them that it comes to. -/
theorem Composed.phases {made : Call → Prop} {α : Type} {p : Action α} {a : α}
    (hp : Composed settings made p) (hinterval : 0 < settings.pollInterval)
    (hattempts : ∀ policy, 0 < (settings.retryPolicies.resolve policy).maxAttempts.toNat)
    (h : Runs p events a) :
    ∃ phases, events = phases.flatten ∧ Phases settings p phases a := by
  have hstep {α : Type} {p : Action α} {events : List (Event Call Call.Answer)} {a : α}
      (h : Phase settings p events a) :
      ∃ phases, events = phases.flatten ∧ Phases settings p phases a :=
    ⟨[events], by simp, .step h⟩
  induction hp generalizing events with
  | done a =>
    cases h
    exact ⟨[], rfl, .done a⟩
  | bind _ _ ihp ihf =>
    obtain ⟨before, after, a, rfl, hbefore, hafter⟩ := runs_bind.1 h
    obtain ⟨phases, rfl, hphases⟩ := ihp hbefore
    obtain ⟨phases', rfl, hphases'⟩ := ihf a hafter
    exact ⟨phases ++ phases', List.flatten_append.symm, hphases.bind hphases'⟩
  | once _ hc =>
    obtain ⟨took, rfl⟩ := runs_perform h
    exact hstep (.once ⟨took, a⟩ hc)
  | retried _ hc => exact hstep (phase_of_runs_retried hc (hattempts _) h)
  | awaited _ hc => exact hstep (phase_of_runs_awaited hc hinterval h)

end

namespace Lifecycle

/-- Under accepted settings every operation ends, whatever the backend and however long its
    replies take. Every run consists of one phase for each call, each retried call and each wait
    that the operation comes to, and these are as short as the settings say. -/
theorem Command.ends_in_phases {p : ConnectionProperties} {settings : Settings}
    (h : p.validate = .ok settings) (chance : Chance) (c : Command) :
    (∀ events r, Runs (c.operation settings chance).run events r →
      ∃ phases, events = phases.flatten ∧
        Phases settings (c.operation settings chance).run phases r) ∧
      ∀ (σ : Type) (backend : Backend Call Call.Answer σ) (now : Nat) (s : σ),
        Runs (c.operation settings chance).run
          ((c.operation settings chance).run.events backend now s)
          ((c.operation settings chance).run.run backend now s).result := by
  refine ⟨fun events r hruns => ?_, fun σ backend now s => runs_events backend _ now s⟩
  exact (c.composed settings chance).phases
    (ConnectionProperties.pollInterval_pos_of_validate h)
    (ConnectionProperties.maxAttempts_pos_of_validate h) hruns

/-! ### A look every thirty years -/

open Operation

/-- Properties that ask for a look every thirty years and seven seconds, and for a wait of
    that length. -/
def unhurried : ConnectionProperties where
  authUrl := some "https://cloud/v2"
  username := some "user"
  apiKey := some "key"
  stateTimeout := 946080007
  pollInterval := 946080007

/-- The settings that they amount to. -/
def unhurriedSettings : Settings where
  credentials := { authUrl := "https://cloud/v2", auth := .password "user" "key" }
  stateTimeout := 946080007
  pollInterval := 946080007

theorem validate_unhurried : unhurried.validate = .ok unhurriedSettings := by decide +kernel

/-- A disk that reports for ever that it is growing. -/
def stuckDisk : Session where
  cloud := ({} : Cloud).seed fun s => (s.addVolume "disk" 10).pinStatus "disk" .extending

/-- The disk is looked at four times in all, and the wait for it ends when its time is up. -/
theorem Command.ends_in_phases_stuckDisk :
    let operation := ((Command.resizeDisk "disk" 20).operation unhurriedSettings default).run
    let events := operation.events Session.backend 0 stuckDisk
    unhurried.validate = .ok unhurriedSettings ∧
      (∃ phases, events = phases.flatten ∧
        Phases unhurriedSettings operation phases
          (operation.run Session.backend 0 stuckDisk).result) ∧
      (calls events).length = 6 ∧ slept events = 946080007000 := by
  intro operation events
  obtain ⟨hphases, hends⟩ :=
    Command.ends_in_phases validate_unhurried default (.resizeDisk "disk" 20)
  refine ⟨validate_unhurried, hphases _ _ (hends Session Session.backend 0 stuckDisk), ?_, ?_⟩
  · decide +kernel
  · decide +kernel

/-- The stuck disk once it has been asked to grow. -/
def growingDisk : Session :=
  ((stuckDisk.call (.getVolume "disk")).2.call (.extendVolume "disk" 20)).2

/-- No sleep lasts longer than thirty years. So a wait of one longer interval has a fetch at
    its start, one after thirty years and one at its end, which is more than there are
    intervals. -/
theorem fetches_outnumber_intervals :
    unhurried.validate = .ok unhurriedSettings ∧
      ∃ wait r,
        wait <:+
          (resizeDisk unhurriedSettings "disk" 20).run.events Session.backend 0 stuckDisk ∧
        unhurriedSettings.wait.Polls "volume disk" VolumeStatus.text .available
          (.getVolume "disk") (volumeStatus .available) 0 none wait r ∧
        unhurriedSettings.stateTimeout ⌈/⌉ unhurriedSettings.pollInterval + 1 <
          (calls wait).length := by
  have hopened : (openVolume.run.run Session.backend 0 stuckDisk).result = .ok () := rfl
  have hread : ((askFor (.getVolume "disk") "disk" "disk").run.run Session.backend 0
      stuckDisk).result = .ok
        { id := "disk", name := "disk", sizeGib := 10, status := .extending, attachments := [],
          metadata := ∅, zone := some "nova" } := rfl
  have hgrown : ((askRepeatedly unhurriedSettings "extend_volume" (.extendVolume "disk" 20)
      ("Failed to resize volume '" ++ "disk" ++ "' to " ++ toString (20 : UInt32).toNat ++
        " GiB")).run.run Session.backend 0
      (stuckDisk.call (.getVolume "disk")).2).result = .ok () := rfl
  have hcalls : (calls ((awaitVolume unhurriedSettings "disk" .available).run.events
      Session.backend 0 growingDisk)).length = 3 := by
    decide +kernel
  have hruns := runs_events Session.backend (awaitVolume unhurriedSettings "disk" .available).run 0
    growingDisk
  obtain ⟨r, -, hwait⟩ := runs_ofOutcome hruns
  refine ⟨validate_unhurried, _, r, ?_, (Wait.runs_awaitStatus_iff (by decide)).1 hwait, ?_⟩
  · refine List.IsSuffix.trans ?_ (events_suffix_bind hopened)
    refine List.IsSuffix.trans ?_ (events_suffix_bind hread)
    rw [if_neg (by decide), if_neg (by decide), if_neg (by decide)]
    exact events_suffix_bind
      (f := fun _ => awaitVolume unhurriedSettings "disk" .available) hgrown
  · rw [hcalls]
    decide +kernel

end Lifecycle

end CloudProvider
