import CloudProvider.Proofs.Timing
import Mathlib.Algebra.BigOperators.Intervals

/-!
# When every call is made

A loop that sleeps between its calls is determined by the replies: how long each took and
what it said. Against a backend whose replies are written down beforehand, a wait and a
retried call come to one result, at one time, after so many calls with a known sleep
between any two of them. All this is said for every timer.

* `Program.scripted`: a backend with a list of replies that has no end;
* `Program.paced`: the events of a loop from one turn to another;
* `Wait.completion`: when a fetch is over; `Wait.Heard`: a fetch that hears of the target
  before the time is up;
* `Wait.run_poll`: the turns of a wait up to its last (`Wait.awaitStatus_punctual`);
* `Program.run_repeated`: the tries of a call up to its last (`RetryPolicies.run_exact`).
-/

namespace CloudProvider

open Program

namespace Program

variable {C : Type} {A : C → Type}

/-- A backend whose replies are written down beforehand. Its state is the number of calls it
    has answered. -/
def scripted (replies : Nat → (c : C) → Reply (A c)) : Backend C A Nat :=
  fun c _ answered => (replies answered c, answered + 1)

/-- The events of a loop that makes one call in every turn and sleeps between two turns: from
    some turn on, so many more turns. -/
def paced (c : C) (reply : Nat → Reply (A c)) (pause : Nat → Nat) :
    (first more : Nat) → List (Event C A)
  | first, 0 => [.called c (reply first)]
  | first, more + 1 =>
    .called c (reply first) :: .slept (pause first) :: paced c reply pause (first + 1) more

end Program

/-! ## Waits -/

namespace Wait

variable {S : Type} {w : Wait} {target : S} {seen : Nat → Except CloudError S} {took : Nat → Nat}

/-- The fault of a fetch, if it has failed. -/
def fault? : Except CloudError S → Option CloudError
  | .ok _ => none
  | .error e => some e

/-- The fault of the latest fetch that has failed, among so many. -/
def latestFault (seen : Nat → Except CloudError S) (fetches : Nat) : Option CloudError :=
  (List.range fetches).reverse.findSome? fun k => fault? (seen k)

theorem latestFault_succ (k : Nat) :
    latestFault seen (k + 1) = lastFault (latestFault seen k) (seen k) := by
  rw [latestFault, List.range_succ, List.reverse_append, List.reverse_singleton,
    List.singleton_append, List.findSome?_cons]
  cases seen k <;> rfl

theorem reached_iff [DecidableEq S] {r : Except CloudError S} :
    reached target r = true ↔ r = .ok target := by
  refine ⟨eq_ok_of_reached, ?_⟩
  rintro rfl
  exact decide_eq_true rfl

section

variable [Timer]

/-- How long after its start a wait has completed a fetch, given how long each fetch takes. -/
def completion (w : Wait) (took : Nat → Nat) : Nat → Nat
  | 0 => took 0
  | k + 1 =>
    let completed := w.completion took k
    completed + min (min w.interval Timer.longest) (w.timeout - completed) + took (k + 1)

/-- A fetch reports the target, and the time was not up at any fetch before it. -/
def Heard (w : Wait) (target : S) (seen : Nat → Except CloudError S) (took : Nat → Nat)
    (k : Nat) : Prop :=
  seen k = .ok target ∧ ∀ j < k, w.completion took j < w.timeout

/-- A fetch with which a wait ends. -/
def Concludes (w : Wait) (target : S) (seen : Nat → Except CloudError S) (took : Nat → Nat)
    (k : Nat) : Prop :=
  seen k = .ok target ∨ w.timeout ≤ w.completion took k

/-- Fetches that take no time are over after that many full sleeps, or when the time is up. -/
theorem completion_of_instant (h : ∀ k, took k = 0) (k : Nat) :
    w.completion took k = min (k * min w.interval Timer.longest) w.timeout := by
  induction k with
  | zero => rw [completion, h, Nat.zero_mul, Nat.zero_min]
  | succ k ih =>
    simp only [completion, h, ih, Nat.succ_mul]
    omega

/-- Some fetch is heard exactly if the first fetch that ends the wait reports the target. -/
theorem heard_iff_of_concludes {n : Nat} (hbefore : ∀ i < n, ¬ w.Concludes target seen took i)
    (hn : w.Concludes target seen took n) :
    (∃ k, w.Heard target seen took k) ↔ seen n = .ok target := by
  have hearly (i : Nat) (hi : i < n) : w.completion took i < w.timeout :=
    Nat.lt_of_not_le fun hlate => hbefore i hi (.inr hlate)
  constructor
  · rintro ⟨k, hseen, htime⟩
    rcases Nat.lt_trichotomy k n with hlt | rfl | hgt
    · exact absurd (.inl hseen) (hbefore k hlt)
    · exact hseen
    · exact hn.resolve_right (Nat.not_le_of_lt (htime n hgt))
  · exact fun hseen => ⟨n, hseen, hearly⟩

variable [DecidableEq S] {C : Type} {A : C → Type} {resource : String} {text : S → String}
  {fetch : C} {status : Except CloudError (A fetch) → Except CloudError S}

/-- What a wait comes to that ends with a fetch. -/
def verdict (w : Wait) (resource : String) (text : S → String) (target : S)
    (seen : Nat → Except CloudError S) (took : Nat → Nat) (k : Nat) : Except CloudError Unit :=
  if reached target (seen k) then .ok ()
  else .error (.waitTimeout resource (text target) (w.completion took k) (latestFault seen (k + 1)))

section

variable {replies : Nat → (c : C) → Reply (A c)}
  (hseen : ∀ k, seen k = status (replies k fetch).outcome)
  (htook : ∀ k, took k = (replies k fetch).took) (start : Nat) {sleeps first elapsed : Nat}
  (hfirst : elapsed + took first = w.completion took first)

include hseen htook hfirst

/-- The last turn of a wait. -/
theorem run_poll_of_concludes (h : w.Concludes target seen took first) :
    let loop := w.poll resource text target fetch status sleeps elapsed (latestFault seen first)
    loop.run (scripted replies) (start + elapsed) first =
        ⟨w.verdict resource text target seen took first, start + w.completion took first,
          first + 1⟩ ∧
      loop.events (scripted replies) (start + elapsed) first =
        [.called fetch (replies first fetch)] := by
  have helapsed : elapsed + (replies first fetch).took = w.completion took first :=
    htook first ▸ hfirst
  rw [poll]
  simp only [run, events, scripted, ← hseen, helapsed, Nat.add_assoc, verdict, latestFault_succ]
  by_cases hr : reached target (seen first) = true
  · simp only [if_pos hr, run, events, and_self]
  · have htime := h.resolve_left fun hok => hr (reached_iff.2 hok)
    simp only [if_neg hr, if_pos htime, run, events, and_self]

/-- A turn of a wait that is not the last. -/
theorem run_poll_of_not_concludes (h : ¬ w.Concludes target seen took first) :
    let loop := w.poll resource text target fetch status (sleeps + 1) elapsed
      (latestFault seen first)
    let pause := min (min w.interval Timer.longest) (w.timeout - w.completion took first)
    let resumed := w.completion took first + pause
    let rest := w.poll resource text target fetch status sleeps resumed
      (latestFault seen (first + 1))
    loop.run (scripted replies) (start + elapsed) first =
        rest.run (scripted replies) (start + resumed) (first + 1) ∧
      loop.events (scripted replies) (start + elapsed) first =
        .called fetch (replies first fetch) :: .slept pause ::
          rest.events (scripted replies) (start + resumed) (first + 1) := by
  have helapsed : elapsed + (replies first fetch).took = w.completion took first :=
    htook first ▸ hfirst
  have hr : ¬ reached target (seen first) = true := fun hr => h (.inl (reached_iff.1 hr))
  have htime : ¬ w.timeout ≤ w.completion took first := fun htime => h (.inr htime)
  intro loop pause resumed rest
  subst loop
  rw [poll]
  simp only [run, events, scripted, ← hseen, helapsed, Nat.add_assoc, if_neg hr, if_neg htime,
    ← latestFault_succ]
  exact ⟨rfl, rfl⟩

/-- The loop of a wait, from the start of some fetch on: it goes on up to the first fetch that
    ends it. The induction is on the sleeps that are left, which are enough to fill the time. -/
theorem run_poll (henough : w.timeout ≤ elapsed + sleeps * w.pace) :
    let loop := w.poll resource text target fetch status sleeps elapsed (latestFault seen first)
    let pause k := min (min w.interval Timer.longest) (w.timeout - w.completion took k)
    ∃ n, (∀ i < n, ¬ w.Concludes target seen took (first + i)) ∧
      w.Concludes target seen took (first + n) ∧
      loop.run (scripted replies) (start + elapsed) first =
        ⟨w.verdict resource text target seen took (first + n),
          start + w.completion took (first + n), first + n + 1⟩ ∧
      loop.events (scripted replies) (start + elapsed) first =
        paced fetch (fun k => replies k fetch) pause first n := by
  induction sleeps generalizing first elapsed with
  | zero =>
    have hlast : w.Concludes target seen took first := .inr (by omega)
    exact ⟨0, nofun, hlast, run_poll_of_concludes hseen htook start hfirst hlast⟩
  | succ sleeps ih =>
    by_cases hlast : w.Concludes target seen took first
    · exact ⟨0, nofun, hlast, run_poll_of_concludes hseen htook start hfirst hlast⟩
    · have hleft := w.timeout_le_of_slept henough (hfirst ▸ Nat.le_add_right elapsed _)
      have hnext : w.completion took first +
          min (min w.interval Timer.longest) (w.timeout - w.completion took first) +
            took (first + 1) = w.completion took (first + 1) := rfl
      obtain ⟨n, hbefore, hn, hrun, hevents⟩ := ih hnext hleft
      have hshift (i : Nat) : first + 1 + i = first + (i + 1) := Nat.succ_add_eq_add_succ first i
      simp only [hshift] at hbefore hn hrun
      refine ⟨n + 1, ?_, hn, ?_, ?_⟩
      · intro i hi
        cases i with
        | zero => exact hlast
        | succ i => exact hbefore i (Nat.lt_of_succ_lt_succ hi)
      · exact (run_poll_of_not_concludes hseen htook start hfirst hlast).1.trans hrun
      · rw [paced, ← hevents]
        exact (run_poll_of_not_concludes hseen htook start hfirst hlast).2

end

/-- The first fetch after which no time is left, if fetches take none. -/
theorem timeout_le_completion_iff (hinterval : 0 < w.interval) (h : ∀ k, took k = 0) {k : Nat} :
    w.timeout ≤ w.completion took k ↔ w.timeout ⌈/⌉ min w.interval Timer.longest ≤ k := by
  have hpace : 0 < min w.interval Timer.longest := Nat.lt_min.2 ⟨hinterval, Timer.longest_pos⟩
  rw [completion_of_instant h, le_min_iff, ceilDiv_le_iff_le_mul hpace, Nat.mul_comm]
  exact and_iff_left (Nat.le_refl _)

/-- Fetches that take no time fill the time evenly: the first at which it is up is made at its
    very end. -/
theorem completion_eq_timeout (hinterval : 0 < w.interval) (h : ∀ k, took k = 0) {n : Nat}
    (hearly : ∀ j < n, w.completion took j < w.timeout) (hlate : w.timeout ≤ w.completion took n) :
    n = w.timeout ⌈/⌉ min w.interval Timer.longest ∧ w.completion took n = w.timeout := by
  have hlast {k : Nat} := w.timeout_le_completion_iff hinterval h (k := k)
  refine ⟨Nat.le_antisymm (Nat.le_of_not_lt fun hlt => ?_) (hlast.1 hlate), ?_⟩
  · exact Nat.not_le_of_lt (hearly _ hlt) (hlast.2 (Nat.le_refl _))
  · refine Nat.le_antisymm ?_ hlate
    exact (completion_of_instant h n).trans_le (Nat.min_le_right _ _)

theorem verdict_of_ok {k : Nat} (h : seen k = .ok target) :
    w.verdict resource text target seen took k = .ok () := if_pos (reached_iff.2 h)

theorem verdict_of_ne {k : Nat} (h : seen k ≠ .ok target) :
    w.verdict resource text target seen took k =
      .error (.waitTimeout resource (text target) (w.completion took k)
        (latestFault seen (k + 1))) :=
  if_neg fun hr => h (reached_iff.1 hr)

theorem verdict_eq_ok_iff {k : Nat} :
    w.verdict resource text target seen took k = .ok () ↔ seen k = .ok target := by
  refine ⟨fun h => ?_, verdict_of_ok⟩
  by_contra hne
  rw [verdict_of_ne hne] at h
  cases h

/-- A wait is its loop, from its first fetch on. -/
theorem run_awaitStatus (hinterval : 0 < w.interval) (replies : Nat → (c : C) → Reply (A c))
    (now : Nat) :
    let seen k := status (replies k fetch).outcome
    let took k := (replies k fetch).took
    let pause k := min (min w.interval Timer.longest) (w.timeout - w.completion took k)
    let wait := w.awaitStatus resource text target fetch status
    ∃ n, (∀ i < n, ¬ w.Concludes target seen took i) ∧ w.Concludes target seen took n ∧
      wait.run (scripted replies) now 0 =
        ⟨w.verdict resource text target seen took n, now + w.completion took n, n + 1⟩ ∧
      wait.events (scripted replies) now 0 =
        paced fetch (fun k => replies k fetch) pause 0 n := by
  intro seen took pause wait
  have hfirst : 0 + took 0 = w.completion took 0 := Nat.zero_add _
  have henough : w.timeout ≤ 0 + w.sleeps * w.pace :=
    Nat.le_trans (w.timeout_le hinterval) (Nat.le_add_left _ _)
  obtain ⟨n, hbefore, hn, hrun, hevents⟩ :=
    run_poll (fun _ => rfl : ∀ k, seen k = _) (fun _ => rfl : ∀ k, took k = _) now hfirst henough
  simp only [Nat.zero_add] at hbefore hn hrun
  exact ⟨n, hbefore, hn, hrun, hevents⟩

/-- A wait never gives up early and never sleeps past its time. It succeeds exactly if some
    fetch reports the target before which the time was not up, and ends with the first such
    fetch; otherwise it ends with the first fetch at which the time is up, and tells the
    latest fault it has seen. Between two fetches lies the interval, or the longest sleep of
    the timer, or what is left of the time; so fetches that take no time fill the time evenly,
    and the last of them is made at its very end. -/
theorem awaitStatus_punctual (w : Wait) (hinterval : 0 < w.interval) (resource : String)
    (text : S → String) (target : S) (fetch : C)
    (status : Except CloudError (A fetch) → Except CloudError S)
    (replies : Nat → (c : C) → Reply (A c)) (now : Nat) :
    let seen k := status (replies k fetch).outcome
    let took k := (replies k fetch).took
    let completion := w.completion took
    let pause k := min (min w.interval Timer.longest) (w.timeout - completion k)
    let wait := w.awaitStatus resource text target fetch status
    let outcome := wait.run (scripted replies) now 0
    let events := wait.events (scripted replies) now 0
    let last := w.timeout ⌈/⌉ min w.interval Timer.longest
    (outcome.result = .ok () ↔ ∃ k, w.Heard target seen took k) ∧
    (∀ k, w.Heard target seen took k → (∀ j < k, ¬ w.Heard target seen took j) →
      outcome = ⟨.ok (), now + completion k, k + 1⟩ ∧
      events = paced fetch (fun k => replies k fetch) pause 0 k) ∧
    ((¬ ∃ k, w.Heard target seen took k) →
      ∃ m, w.timeout ≤ completion m ∧ (∀ j < m, completion j < w.timeout) ∧
        outcome = ⟨.error (.waitTimeout resource (text target) (completion m)
          (latestFault seen (m + 1))), now + completion m, m + 1⟩ ∧
        events = paced fetch (fun k => replies k fetch) pause 0 m) ∧
    ((∀ k, took k = 0) →
      (outcome.result = .ok () ↔ ∃ k ≤ last, seen k = .ok target) ∧
      (outcome.result ≠ .ok () → outcome.state = last + 1 ∧ completion last = w.timeout ∧
        outcome.time = now + w.timeout)) := by
  intro seen took completion pause wait outcome events last
  obtain ⟨n, hbefore, hn, houtcome, hevents⟩ :
      ∃ n, (∀ i < n, ¬ w.Concludes target seen took i) ∧ w.Concludes target seen took n ∧
        outcome = ⟨w.verdict resource text target seen took n, now + completion n, n + 1⟩ ∧
        events = paced fetch (fun k => replies k fetch) pause 0 n :=
    run_awaitStatus hinterval replies now
  have hheard := heard_iff_of_concludes hbefore hn
  have hearly (j : Nat) (hj : j < n) : completion j < w.timeout :=
    Nat.lt_of_not_le fun hlate => hbefore j hj (.inr hlate)
  have hresult : outcome.result = .ok () ↔ seen n = .ok target := by
    rw [houtcome]
    exact verdict_eq_ok_iff
  refine ⟨hresult.trans hheard.symm, ?_, ?_, ?_⟩
  · intro k hk hleast
    have hseen := hheard.1 ⟨k, hk⟩
    have hkn : k = n := by
      rcases Nat.lt_trichotomy k n with hlt | rfl | hgt
      · exact absurd (.inl hk.1) (hbefore k hlt)
      · rfl
      · exact absurd ⟨hseen, hearly⟩ (hleast n hgt)
    rw [hkn]
    exact ⟨houtcome.trans (by rw [verdict_of_ok hseen]), hevents⟩
  · intro hnone
    have hseen : seen n ≠ .ok target := fun hseen => hnone (hheard.2 hseen)
    exact ⟨n, hn.resolve_left hseen, hearly, houtcome.trans (by rw [verdict_of_ne hseen]), hevents⟩
  · intro hinstant
    have hlast {k : Nat} : w.timeout ≤ completion k ↔ last ≤ k :=
      timeout_le_completion_iff hinterval hinstant
    refine ⟨⟨fun hok => ⟨n, Nat.le_of_not_lt fun hlt => ?_, hresult.1 hok⟩, ?_⟩, ?_⟩
    · exact Nat.not_le_of_lt (hearly last hlt) (hlast.2 (Nat.le_refl last))
    · rintro ⟨k, hk, hseen⟩
      have hopen (j : Nat) (hj : j < k) : completion j < w.timeout :=
        Nat.lt_of_not_le fun hlate => by have := hlast.1 hlate; omega
      exact hresult.2 (hheard.1 ⟨k, hseen, hopen⟩)
    · intro hfailed
      have hlate : w.timeout ≤ completion n :=
        hn.resolve_left fun hseen => hfailed (hresult.2 hseen)
      obtain ⟨rfl, hend⟩ := completion_eq_timeout hinterval hinstant hearly hlate
      exact ⟨congrArg Outcome.state houtcome, hend, hend ▸ congrArg Outcome.time houtcome⟩

end

/-- Fetches of half a second each: the first fails, the second reports another status, and
    all later ones report the target. -/
def slowReplies : Nat → Unit → Reply String
  | 0, _ => ⟨500, .error (.api "busy")⟩
  | 1, _ => ⟨500, .ok "old"⟩
  | _, _ => ⟨500, .ok "new"⟩

/-- The second sleep is cut short, and the fetch that ends half a second late still counts. -/
theorem awaitStatus_punctual_slow :
    0 < (⟨5000, 3000⟩ : Wait).interval ∧
      ((⟨5000, 3000⟩ : Wait).awaitStatus "vm" id "new" () id).run (scripted slowReplies) 0 0 =
        ⟨.ok (), 5500, 3⟩ := by
  have hinterval : 0 < (⟨5000, 3000⟩ : Wait).interval := by decide
  refine ⟨hinterval, ?_⟩
  have hpunctual := awaitStatus_punctual ⟨5000, 3000⟩ hinterval "vm" id "new" () id slowReplies 0
  refine (hpunctual.2.1 2 ⟨rfl, ?_⟩ ?_).1
  · decide
  · intro j hj hheard
    rcases j with _ | _ | j
    · cases hheard.1
    · exact absurd (Except.ok.inj hheard.1) (by decide)
    · omega

/-- A status that never changes, with fetches that take no time. -/
def sameReplies : Nat → Unit → Reply String := fun _ _ => ⟨0, .ok "old"⟩

/-- No sleep lasts longer than thirty years. So the fetch after the first does not come when a
    longer interval is over, and a wait of one such interval makes one fetch more than the
    interval asks for. -/
theorem awaitStatus_sleeps_thirty_years :
    let w : Wait := ⟨946080001000, 946080001000⟩
    let wait := w.awaitStatus "vm" id "new" () id
    wait.events (scripted sameReplies) 0 0 =
        [.called () ⟨0, .ok "old"⟩, .slept 946080000000, .called () ⟨0, .ok "old"⟩,
          .slept 1000, .called () ⟨0, .ok "old"⟩] ∧
      min w.interval (w.timeout - w.completion (fun _ => 0) 0) = 946080001000 ∧
      (wait.run (scripted sameReplies) 0 0).state = 3 ∧ w.timeout ⌈/⌉ w.interval + 1 = 2 := by
  refine ⟨rfl, ?_, rfl, ?_⟩
  · decide +kernel
  · decide +kernel

end Wait

/-! ## Retries -/

section

variable {C : Type} {A : C → Type}

variable (c : C) (ms : Nat) (replies : Nat → (c : C) → Reply (A c)) (now first : Nat)

/-- A conclusive try is the last. -/
theorem Program.run_repeated_of_conclusive (more : Nat)
    (h : Conclusive (replies first c).outcome) :
    (repeated c ms more).run (scripted replies) now first =
        ⟨(replies first c).outcome, now + (replies first c).took, first + 1⟩ ∧
      (repeated c ms more).events (scripted replies) now first =
        [.called c (replies first c)] := by
  cases more with
  | zero => exact ⟨rfl, rfl⟩
  | succ more =>
    simp only [repeated, run, events, scripted]
    cases hr : (replies first c).outcome with
    | ok a => simp only [run, events, and_self]
    | error e =>
      have he : e.isNotFound = true := conclusive_error_iff.1 (hr ▸ h)
      simp only [he, if_true, run, events, and_self]

/-- After any other try comes the next, if one is left. -/
theorem Program.run_repeated_of_not_conclusive (more : Nat)
    (h : ¬ Conclusive (replies first c).outcome) :
    (repeated c ms (more + 1)).run (scripted replies) now first =
        (repeated c ms more).run (scripted replies) (now + (replies first c).took + ms)
          (first + 1) ∧
      (repeated c ms (more + 1)).events (scripted replies) now first =
        .called c (replies first c) :: .slept ms ::
          (repeated c ms more).events (scripted replies) (now + (replies first c).took + ms)
            (first + 1) := by
  rw [repeated]
  simp only [run, events, scripted]
  cases hr : (replies first c).outcome with
  | ok a => exact absurd (.inl ⟨a, hr⟩) h
  | error e =>
    have he : ¬ e.isNotFound = true := fun he => h (hr ▸ conclusive_error_iff.2 he)
    simp only [if_neg he, run, events, and_self]

/-- The tries of a call, from some try on: they go on up to the first one that is conclusive,
    or to the last that is granted. -/
theorem Program.run_repeated (more : Nat) :
    ∃ n ≤ more, (∀ i < n, ¬ Conclusive (replies (first + i) c).outcome) ∧
      (Conclusive (replies (first + n) c).outcome ∨ n = more) ∧
      (repeated c ms more).run (scripted replies) now first =
        ⟨(replies (first + n) c).outcome,
          now + ∑ i ∈ Finset.range (n + 1), (replies (first + i) c).took + n * ms,
          first + n + 1⟩ ∧
      (repeated c ms more).events (scripted replies) now first =
        paced c (fun k => replies k c) (fun _ => ms) first n := by
  induction more generalizing now first with
  | zero =>
    refine ⟨0, Nat.le_refl 0, nofun, .inr rfl, ?_, rfl⟩
    simp [repeated, perform, run, scripted]
  | succ more ih =>
    by_cases hlast : Conclusive (replies first c).outcome
    · obtain ⟨hrun, hevents⟩ := run_repeated_of_conclusive c ms replies now first (more + 1) hlast
      refine ⟨0, Nat.zero_le _, nofun, .inl hlast, ?_, hevents⟩
      rw [hrun]
      simp
    · obtain ⟨hrest, htail⟩ := run_repeated_of_not_conclusive c ms replies now first more hlast
      obtain ⟨n, hn, hbefore, hend, hrun, hevents⟩ :=
        ih (now + (replies first c).took + ms) (first + 1)
      have hshift (i : Nat) : first + 1 + i = first + (i + 1) := Nat.succ_add_eq_add_succ first i
      simp only [hshift] at hbefore hend hrun
      refine ⟨n + 1, Nat.succ_le_succ hn, ?_, hend.imp_right (congrArg (· + 1)), ?_, ?_⟩
      · intro i hi
        cases i with
        | zero => exact hlast
        | succ i => exact hbefore i (Nat.lt_of_succ_lt_succ hi)
      · rw [hrest, hrun, Finset.sum_range_succ' _ (n + 1), Nat.succ_mul]
        simp only [Nat.add_zero]
        congr 1
        omega
      · rw [htail, hevents, paced]

/-- Where the policy of an operation comes from. -/
theorem RetryPolicies.resolve_spec (policies : RetryPolicies) (operation : String) :
    policies.get? operation = some (policies.resolve operation) ∨
      policies.get? operation = none ∧
        (policies.get? "default" = some (policies.resolve operation) ∨
          policies.get? "default" = none ∧ policies.resolve operation = ⟨10, 3⟩) := by
  rw [resolve]
  cases policies.get? operation with
  | some policy => exact .inl rfl
  | none =>
    refine .inr ⟨rfl, ?_⟩
    change policies.get? fallback = _ ∨ policies.get? fallback = none ∧ _
    cases policies.get? fallback with
    | some policy => exact .inl rfl
    | none => exact .inr ⟨rfl, rfl⟩

/-- A call under a policy is made exactly as often as it should be. The policy is the one of
    the operation, or else the one named `default`, or else ten tries three seconds apart. The
    call is made up to the first success or absence, and no more often than the policy grants,
    but at least once; the outcome is that of the last try. Between two tries lies the sleep of
    the policy, or the longest sleep of the timer, and none follows the last. -/
theorem RetryPolicies.run_exact [Timer] (policies : RetryPolicies) (operation : String) :
    ∃ policy n,
      (policies.get? operation = some policy ∨
        policies.get? operation = none ∧
          (policies.get? "default" = some policy ∨
            policies.get? "default" = none ∧ policy = ⟨10, 3⟩)) ∧
      n < max 1 policy.maxAttempts.toNat ∧
      (∀ i < n, ¬ Conclusive (replies i c).outcome) ∧
      (Conclusive (replies n c).outcome ∨ n + 1 = max 1 policy.maxAttempts.toNat) ∧
      (policies.run operation c).run (scripted replies) now 0 =
        ⟨(replies n c).outcome,
          now + ∑ i ∈ Finset.range (n + 1), (replies i c).took +
            n * min (1000 * policy.sleepSeconds.toNat) Timer.longest,
          n + 1⟩ ∧
      (policies.run operation c).events (scripted replies) now 0 =
        paced c (fun k => replies k c)
          (fun _ => min (1000 * policy.sleepSeconds.toNat) Timer.longest) 0 n := by
  have hattempts := (policies.resolve operation).attempts_pos
  obtain ⟨n, hn, hbefore, hend, hrun, hevents⟩ :=
    run_repeated c (policies.resolve operation).sleepMs replies now 0
      ((policies.resolve operation).attempts - 1)
  simp only [Nat.zero_add] at hbefore hend hrun
  refine ⟨policies.resolve operation, n, policies.resolve_spec operation, ?_, hbefore,
    hend.imp_right fun hn => ?_, hrun, hevents⟩
  · rw [← RetryPolicy.attempts]
    omega
  · rw [← RetryPolicy.attempts]
    omega

/-- A first try that fails, and a success after it, neither of which takes any time. -/
def secondTimeReplies : Nat → Unit → Reply String
  | 0, _ => ⟨0, .error (.api "busy")⟩
  | _, _ => ⟨0, .ok "done"⟩

/-- The tries of a policy that asks for more than thirty years between them are no further
    apart than that. -/
theorem RetryPolicies.run_sleeps_thirty_years :
    let policies : RetryPolicies := Table.ofList [("default", ⟨2, 946080001⟩)]
    let tries := policies.run "create" ()
    policies.get? "create" = none ∧ policies.get? "default" = some ⟨2, 946080001⟩ ∧
      tries.events (scripted secondTimeReplies) 0 0 =
        [.called () ⟨0, .error (.api "busy")⟩, .slept 946080000000, .called () ⟨0, .ok "done"⟩] ∧
      (tries.run (scripted secondTimeReplies) 0 0).time ≠
        ∑ i ∈ Finset.range 2, (secondTimeReplies i ()).took + (2 - 1) * (1000 * 946080001) := by
  refine ⟨?_, ?_, rfl, ?_⟩
  · decide +kernel
  · decide +kernel
  · decide +kernel

end

end CloudProvider
