import CloudProvider.Program

/-!
# Waiting

A status changes on the backend alone, so it is fetched again and again until it
is the one waited for or the time is up. Between two fetches lies a sleep of the
poll interval, or of what is left of the time if that is less; the last fetch is
made when the time is up. A fetch that fails does not end the wait, but the last such fault
is told when the wait fails. Times are whole numbers of milliseconds, finer ones are not
modelled.

* `Wait.awaitStatus`: wait for a status;
* `Wait.sleeps`: with a positive interval, the time is up after so many sleeps
  (`Wait.timeout_le`).
-/

namespace CloudProvider

/-- How long to wait and how often to look, in whole milliseconds. -/
structure Wait where
  timeout : Nat
  interval : Nat
  deriving DecidableEq, Inhabited

namespace Wait

/-- The times of 300 and 3 seconds. -/
def standard : Wait := ⟨300000, 3000⟩

variable [Timer]

/-- The sleep between two fetches, unless the time is up before its end. -/
def pace (w : Wait) : Nat := Program.sleepTime w.interval

/-- The sleep that follows a fetch, after some time has passed. The last one is cut
    short, so that the last fetch falls on the end. -/
def nextSleep (w : Wait) (elapsed : Nat) : Nat := min w.pace (w.timeout - elapsed)

/-- The number of sleeps that no wait exceeds. Without an interval no number of
    sleeps brings the end nearer, and the bound is out of reach. -/
def sleeps (w : Wait) : Nat :=
  if w.pace = 0 then Nat.pow 2 62 else (w.timeout + w.pace - 1) / w.pace

theorem timeout_le (w : Wait) (h : 0 < w.interval) : w.timeout ≤ w.sleeps * w.pace := by
  have hp : 0 < w.pace := by
    rw [Nat.pos_iff_ne_zero, pace, Ne, Program.sleepTime_eq_zero_iff]
    exact Nat.ne_of_gt h
  have := Nat.div_add_mod (w.timeout + w.pace - 1) w.pace
  have hlt := Nat.mod_lt (w.timeout + w.pace - 1) hp
  rw [Nat.mul_comm] at this
  simp only [sleeps, Nat.ne_of_gt hp, if_false]
  omega

/-- A full sleep uses up one of those that were enough to fill the time; a shorter one ends
    the time. -/
theorem timeout_le_of_slept (w : Wait) {sleeps elapsed completed : Nat}
    (h : w.timeout ≤ elapsed + (sleeps + 1) * w.pace) (hle : elapsed ≤ completed) :
    w.timeout ≤ completed + w.nextSleep completed + sleeps * w.pace := by
  rw [Nat.succ_mul] at h
  simp only [nextSleep]
  omega

variable {C : Type} {A : C → Type} {S : Type} [DecidableEq S]

/-- Whether a fetch reports the status waited for. -/
def reached (target : S) : Except CloudError S → Bool
  | .ok s => s = target
  | .error _ => false

/-- The last fault seen, after another fetch. -/
def lastFault (last : Option CloudError) : Except CloudError S → Option CloudError
  | .ok _ => last
  | .error e => some e

/-- Fetch a status until it is the one waited for: how many more sleeps there may
    be, the time that has passed, and the last fault seen. -/
def poll (w : Wait) (resource : String) (text : S → String) (target : S) (fetch : C)
    (status : Except CloudError (A fetch) → Except CloudError S) :
    (sleeps elapsed : Nat) → (last : Option CloudError) → Program C A (Except CloudError Unit)
  | sleeps, elapsed, last =>
    .call fetch fun reply =>
      let seen := status reply.outcome
      let elapsed := elapsed + reply.took
      let last := lastFault last seen
      let timeout := .done (.error (.waitTimeout resource (text target) elapsed last))
      if reached target seen then .done (.ok ())
      else if w.timeout ≤ elapsed then timeout
      else
        match sleeps with
        | 0 => timeout
        | sleeps + 1 =>
          let ms := w.nextSleep elapsed
          .sleep ms (poll w resource text target fetch status sleeps (elapsed + ms) last)

/-- Wait until a call reports a status. -/
def awaitStatus (w : Wait) (resource : String) (text : S → String) (target : S) (fetch : C)
    (status : Except CloudError (A fetch) → Except CloudError S) :
    Program C A (Except CloudError Unit) :=
  w.poll resource text target fetch status w.sleeps 0 none

end Wait

end CloudProvider
