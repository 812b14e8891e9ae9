import CloudProvider.Fault.Cloud

/-!
# Programs

A *program* makes calls to a backend, one after the other, sleeps in between, and
ends with a result. What it does next depends on the replies it gets, and on
nothing else: it is a tree that branches over the possible replies. A reply tells
the outcome of the call and how long the call took, so that a program knows the
time it has spent without looking at a clock. As the tree has no infinite branch,
every program ends whatever the backend replies.

* `Program.bind`: one program after another;
* `Timer`: what sleeps are left to; `Program.sleepTime`: how long a sleep lasts;
* `Program.run`: a program against a backend with a state and a clock;
* `Program.Runs`: the relation between a program, the events of one of its runs
  and its result, for a backend that may reply anything;
* `Program.runs_bind`: a run of two programs is a run of one and then a run of the
  other.
-/

namespace CloudProvider

/-- The reply to a call: how long it took, in milliseconds, and its outcome. -/
structure Reply (α : Type) where
  took : Nat
  outcome : Except CloudError α

/-- The timer that sleeps are left to. However far ahead it reaches, a sleep that is to last
    longer ends there. -/
class Timer where
  /-- The longest sleep, in milliseconds. -/
  longest : Nat
  longest_pos : 0 < longest

/-- A program that makes calls from `C`, a call `c` being answered in `A c`. -/
inductive Program (C : Type) (A : C → Type) (α : Type) where
  | done (result : α)
  | call (c : C) (next : Reply (A c) → Program C A α)
  | sleep (ms : Nat) (next : Program C A α)

namespace Program

variable {C : Type} {A : C → Type} {α β γ : Type}

/-- One program, and then another with its result. -/
def bind : Program C A α → (α → Program C A β) → Program C A β
  | done a, f => f a
  | call c next, f => call c fun r => (next r).bind f
  | sleep ms next, f => sleep ms (next.bind f)

instance : Monad (Program C A) where
  pure := done
  bind := bind

theorem bind_done (p : Program C A α) : p.bind done = p := by
  induction p with
  | done => rfl
  | call c next ih => exact congrArg (call c) (funext ih)
  | sleep ms next ih => exact congrArg (sleep ms) ih

theorem bind_assoc (p : Program C A α) (f : α → Program C A β) (g : β → Program C A γ) :
    (p.bind f).bind g = p.bind fun a => (f a).bind g := by
  induction p with
  | done => rfl
  | call c next ih => exact congrArg (call c) (funext ih)
  | sleep ms next ih => exact congrArg (sleep ms) ih

instance : LawfulMonad (Program C A) :=
  LawfulMonad.mk' (Program C A) bind_done (fun _ _ => rfl) bind_assoc

/-! ## Sleep -/

section

variable [Timer]

/-- How long a sleep lasts that is to last some time, in milliseconds. -/
def sleepTime (ms : Nat) : Nat := min ms Timer.longest

theorem sleepTime_le (ms : Nat) : sleepTime ms ≤ ms := Nat.min_le_left _ _

theorem sleepTime_eq_zero_iff {ms : Nat} : sleepTime ms = 0 ↔ ms = 0 := by
  have hpos := Timer.longest_pos
  simp only [sleepTime]
  omega

end

/-- The program that makes one call. -/
def perform (c : C) : Program C A (Except CloudError (A c)) := call c fun r => done r.outcome

/-! ## Runs against a backend with a state -/

/-- A backend with a state: it answers a call made at some time. -/
abbrev Backend (C : Type) (A : C → Type) (σ : Type) := (c : C) → (now : Nat) → σ → Reply (A c) × σ

/-- What a run leaves: its result, the time, and the state of the backend. -/
structure Outcome (α σ : Type) where
  result : α
  time : Nat
  state : σ

/-- Run a program from a time and a state on. Time passes in calls, for as long as
    they take, and in sleep. -/
def run {σ : Type} (backend : Backend C A σ) : Program C A α → Nat → σ → Outcome α σ
  | done a, now, s => ⟨a, now, s⟩
  | call c next, now, s =>
    let (reply, s) := backend c now s
    (next reply).run backend (now + reply.took) s
  | sleep ms next, now, s => next.run backend (now + ms) s

theorem run_bind {σ : Type} (backend : Backend C A σ) (p : Program C A α)
    (f : α → Program C A β) (now : Nat) (s : σ) :
    (p.bind f).run backend now s =
      (f (p.run backend now s).result).run backend (p.run backend now s).time
        (p.run backend now s).state := by
  induction p generalizing now s with
  | done => rfl
  | call c next ih => exact ih _ _ _
  | sleep ms next ih => exact ih _ _

/-! ## Runs against any backend -/

/-- Something that happens in a run. -/
inductive Event (C : Type) (A : C → Type) where
  | called (c : C) (reply : Reply (A c))
  | slept (ms : Nat)

/-- The runs of a program: the events in their order, and the result. -/
inductive Runs : Program C A α → List (Event C A) → α → Prop where
  | done (a : α) : Runs (.done a) [] a
  | call (c : C) (next : Reply (A c) → Program C A α) (reply : Reply (A c))
      (events : List (Event C A)) (a : α) :
      Runs (next reply) events a → Runs (.call c next) (.called c reply :: events) a
  | sleep (ms : Nat) (next : Program C A α) (events : List (Event C A)) (a : α) :
      Runs next events a → Runs (.sleep ms next) (.slept ms :: events) a

theorem runs_bind {p : Program C A α} {f : α → Program C A β} {events : List (Event C A)} {b : β} :
    Runs (p.bind f) events b ↔
      ∃ before after a, events = before ++ after ∧ Runs p before a ∧ Runs (f a) after b := by
  constructor
  · -- The events of the first program are those up to where its tree ends.
    intro h
    induction p generalizing events with
    | done a => exact ⟨[], events, a, rfl, .done a, h⟩
    | call c next ih =>
      cases h with
      | call _ _ reply events _ h =>
        obtain ⟨before, after, a, rfl, hp, hf⟩ := ih reply h
        exact ⟨_ :: before, after, a, rfl, .call _ _ _ _ _ hp, hf⟩
    | sleep ms next ih =>
      cases h with
      | sleep _ _ events _ h =>
        obtain ⟨before, after, a, rfl, hp, hf⟩ := ih h
        exact ⟨_ :: before, after, a, rfl, .sleep _ _ _ _ hp, hf⟩
  · rintro ⟨before, after, a, rfl, hp, hf⟩
    induction hp with
    | done a => exact hf
    | call c next reply events a _ ih => exact .call _ _ _ _ _ (ih hf)
    | sleep ms next events a _ ih => exact .sleep _ _ _ _ (ih hf)

end Program

end CloudProvider
