import CloudProvider.Lifecycle.Operation

/-!
# Worlds

What a program does depends on who answers its calls. A *world* describes them as
far as a statement needs it: in a state that the statement cares about, which
calls are in order, which replies a call may get, and which states it may leave.
`Program.Ensures` is the weakest precondition of a program in a world: from a
state, every call is in order, and every run ends in a result and a state as
required.

* `ensures_bind`, `Operation.ensures_bind`: one program after another;
* `ensures_repeated`, `Wait.ensures_awaitStatus`: a loop keeps its invariant;
* `Ensures.transfer`: from one world to another that is as kind;
* `Ensures.of_run`: what the world of a backend ensures holds of the runs against it;
* `Ensures.of_runs`, `Ensures.of_events`: what is ensured when replies are free holds
  of the events of every run; `Ensures.of_expected`: likewise when they are as expected;
* `run_congr`: a program that avoids some calls cannot tell backends apart that
  differ in these.
-/

namespace CloudProvider

/-- Those who answer the calls of a program, seen through a state. -/
structure World (C : Type) (A : C → Type) (σ : Type) where
  /-- Whether a call is in order. -/
  permits : C → σ → Prop
  /-- Which replies a call may get, and which states it may leave. -/
  leads : (c : C) → σ → Reply (A c) → σ → Prop
  /-- What becomes of the state in a sleep. -/
  sleeps : Nat → σ → σ := fun _ s => s

namespace Program

variable {C : Type} {A : C → Type} {α β σ τ : Type} {W : World C A σ} {s : σ}
  {Q Q' : α → σ → Prop}

/-- From a state on, every call is in order, and every run ends as required. -/
def Ensures (W : World C A σ) (Q : α → σ → Prop) : Program C A α → σ → Prop
  | done a, s => Q a s
  | call c next, s =>
    W.permits c s ∧ ∀ reply s', W.leads c s reply s' → (next reply).Ensures W Q s'
  | sleep ms next, s => next.Ensures W Q (W.sleeps ms s)

@[simp] theorem ensures_done {a : α} : (done a : Program C A α).Ensures W Q s ↔ Q a s := .rfl

@[simp] theorem ensures_call {c : C} {next : Reply (A c) → Program C A α} :
    (call c next).Ensures W Q s ↔
      W.permits c s ∧ ∀ reply s', W.leads c s reply s' → (next reply).Ensures W Q s' := .rfl

@[simp] theorem ensures_sleep {ms : Nat} {next : Program C A α} :
    (sleep ms next).Ensures W Q s ↔ next.Ensures W Q (W.sleeps ms s) := .rfl

theorem Ensures.mono {p : Program C A α} (h : p.Ensures W Q s) (hQ : ∀ a s, Q a s → Q' a s) :
    p.Ensures W Q' s := by
  induction p generalizing s with
  | done a => exact hQ a s h
  | call c next ih => exact ⟨h.1, fun reply s' hl => ih reply (h.2 reply s' hl)⟩
  | sleep ms next ih => exact ih h

theorem ensures_bind {p : Program C A α} {f : α → Program C A β} {Q : β → σ → Prop} :
    (p.bind f).Ensures W Q s ↔ p.Ensures W (fun a s' => (f a).Ensures W Q s') s := by
  induction p generalizing s with
  | done a => exact .rfl
  | call c next ih =>
    exact and_congr_right fun _ => forall_congr' fun reply => forall_congr' fun s' =>
      imp_congr_right fun _ => ih reply
  | sleep ms next ih => exact ih

/-- A call that is made again when it fails: the invariant holds before each try, so
    a failure, unless it is absence, must restore it in the sleep that follows. -/
theorem ensures_repeated {c : C} {ms : Nat} {Q : Except CloudError (A c) → σ → Prop}
    {I : σ → Prop} (hcall : ∀ s, I s → W.permits c s)
    (hok : ∀ s took a s', I s → W.leads c s ⟨took, .ok a⟩ s' → Q (.ok a) s')
    (herror : ∀ s took e s', I s → W.leads c s ⟨took, .error e⟩ s' →
      Q (.error e) s' ∧ (e.isNotFound = false → I (W.sleeps ms s')))
    (more : Nat) (hs : I s) : (repeated c ms more : Program C A _).Ensures W Q s := by
  induction more generalizing s with
  | zero =>
    refine ⟨hcall s hs, fun ⟨took, outcome⟩ s' hl => ?_⟩
    cases outcome with
    | ok a => exact hok s took a s' hs hl
    | error e => exact (herror s took e s' hs hl).1
  | succ more ih =>
    refine ⟨hcall s hs, fun ⟨took, outcome⟩ s' hl => ?_⟩
    cases outcome with
    | ok a => exact hok s took a s' hs hl
    | error e =>
      obtain ⟨hQ, hI⟩ := herror s took e s' hs hl
      cases he : e.isNotFound with
      | true => simpa [he] using hQ
      | false => simpa [he] using ih (hI he)

/-! ## From world to world -/

/-- What one world ensures, another ensures that is as kind to the program: related
    states permit the calls that the first permits, and what the second leads to is
    related to something the first leads to. -/
theorem Ensures.transfer {V : World C A τ} {R : σ → τ → Prop} {p : Program C A α} {t : τ}
    (hcall : ∀ c s t, R s t → W.permits c s →
      V.permits c t ∧ ∀ reply t', V.leads c t reply t' → ∃ s', W.leads c s reply s' ∧ R s' t')
    (hsleep : ∀ ms s t, R s t → R (W.sleeps ms s) (V.sleeps ms t))
    (h : p.Ensures W Q s) (hst : R s t) :
    p.Ensures V (fun a t' => ∃ s', R s' t' ∧ Q a s') t := by
  induction p generalizing s t with
  | done a => exact ⟨s, hst, h⟩
  | call c next ih =>
    obtain ⟨hp, hl⟩ := hcall c s t hst h.1
    refine ⟨hp, fun reply t' ht => ?_⟩
    obtain ⟨s', hs', hst'⟩ := hl reply t' ht
    exact ih reply (h.2 reply s' hs') hst'
  | sleep ms next ih => exact ih h (hsleep ms s t hst)

/-- A backend with a state, as a world: it permits everything. -/
def Backend.world (backend : Backend C A σ) : World C A σ where
  permits _ _ := True
  leads c s reply s' := ∃ now, backend c now s = (reply, s')

theorem Ensures.of_run {backend : Backend C A σ} {p : Program C A α} {now : Nat}
    (h : p.Ensures (Backend.world backend) Q s) :
    Q (p.run backend now s).result (p.run backend now s).state := by
  induction p generalizing now s with
  | done a => exact h
  | call c next ih => exact ih _ (h.2 _ _ ⟨now, rfl⟩)
  | sleep ms next ih => exact ih h

/-- The events of a run against a backend. -/
def events (backend : Backend C A σ) : Program C A α → Nat → σ → List (Event C A)
  | done _, _, _ => []
  | call c next, now, s =>
    let (reply, s) := backend c now s
    .called c reply :: (next reply).events backend (now + reply.took) s
  | sleep ms next, now, s => .slept ms :: next.events backend (now + ms) s

theorem events_bind (backend : Backend C A σ) (p : Program C A α) (f : α → Program C A β)
    (now : Nat) (s : σ) :
    (p.bind f).events backend now s =
      p.events backend now s ++
        (f (p.run backend now s).result).events backend (p.run backend now s).time
          (p.run backend now s).state := by
  induction p generalizing now s with
  | done a => rfl
  | call c next ih => exact congrArg (_ :: ·) (ih _ _ _)
  | sleep ms next ih => exact congrArg (_ :: ·) (ih _ _)

theorem runs_events (backend : Backend C A σ) (p : Program C A α) (now : Nat) (s : σ) :
    Runs p (p.events backend now s) (p.run backend now s).result := by
  induction p generalizing now s with
  | done a => exact .done a
  | call c next ih => exact .call c next _ _ _ (ih _ _ _)
  | sleep ms next ih => exact .sleep ms next _ _ (ih _ _)

/-- The world in which a call may get any reply. Its state is the events so far. -/
def recording : World C A (List (Event C A)) where
  permits _ _ := True
  leads c events reply events' := events' = events ++ [.called c reply]
  sleeps ms events := events ++ [.slept ms]

theorem Ensures.of_runs {p : Program C A α} {Q : α → List (Event C A) → Prop}
    {before events : List (Event C A)} {a : α} (h : p.Ensures recording Q before)
    (hr : Runs p events a) : Q a (before ++ events) := by
  induction hr generalizing before with
  | done a => simpa using h
  | call c next reply events a _ ih => simpa using ih (h.2 reply _ rfl)
  | sleep ms next events a _ ih => simpa [recording] using ih h

theorem Ensures.of_events {p : Program C A α} {Q : α → List (Event C A) → Prop}
    (h : p.Ensures recording Q []) (backend : Backend C A σ) (now : Nat) (s : σ) :
    Q (p.run backend now s).result (p.events backend now s) :=
  h.of_runs (runs_events backend p now s)

/-- The world in which a call may get any reply that is expected. Its state is the
    events so far. -/
def expecting (expected : Event C A → Prop) : World C A (List (Event C A)) where
  permits _ _ := True
  leads c events reply events' :=
    expected (.called c reply) ∧ events' = events ++ [.called c reply]
  sleeps ms events := events ++ [.slept ms]

theorem Ensures.of_expected {expected : Event C A → Prop} {p : Program C A α}
    {Q : α → List (Event C A) → Prop} {before events : List (Event C A)} {a : α}
    (h : p.Ensures (expecting expected) Q before) (hr : Runs p events a)
    (hevents : ∀ event ∈ events, expected event) : Q a (before ++ events) := by
  induction hr generalizing before with
  | done a => simpa using h
  | call c next reply events a _ ih =>
    obtain ⟨hreply, hevents⟩ := List.forall_mem_cons.1 hevents
    simpa using ih (h.2 reply _ ⟨hreply, rfl⟩) hevents
  | sleep ms next events a _ ih =>
    simpa [expecting] using ih h (List.forall_mem_cons.1 hevents).2

/-- The world in which calls of some kind are out of order. -/
def avoiding (avoid : C → Prop) : World C A Unit where
  permits c _ := ¬ avoid c
  leads _ _ _ _ := True

theorem run_congr {avoid : C → Prop} {backend backend' : Backend C A σ}
    (hb : ∀ c, ¬ avoid c → backend' c = backend c) {p : Program C A α} {Q : α → Unit → Prop}
    (h : p.Ensures (avoiding avoid) Q ()) (now : Nat) (s : σ) :
    p.run backend' now s = p.run backend now s := by
  induction p generalizing now s with
  | done a => rfl
  | call c next ih =>
    simp only [run, hb c h.1]
    exact ih _ (h.2 _ _ trivial) _ _
  | sleep ms next ih => exact ih h _ _

end Program

/-! ## Operations -/

namespace Operation

open Program

variable {α β σ : Type} {W : World Call Call.Answer σ} {s : σ}

/-- What is required of a first step that another step follows: a fault ends both. -/
def andThen (f : α → Operation β) (W : World Call Call.Answer σ)
    (Q : Except OperationError β → σ → Prop) : Except OperationError α → σ → Prop
  | .ok a, s => (f a).run.Ensures W Q s
  | .error e, s => Q (.error e) s

theorem ensures_bind {p : Operation α} {f : α → Operation β}
    {Q : Except OperationError β → σ → Prop} :
    (p >>= f).run.Ensures W Q s ↔ p.run.Ensures W (andThen f W Q) s := by
  refine Program.ensures_bind.trans ⟨fun h => h.mono ?_, fun h => h.mono ?_⟩
  all_goals
    intro r s h
    cases r <;> exact h

theorem ensures_ofAction {p : Action α} {Q : Except OperationError α → σ → Prop} :
    (ofAction p).run.Ensures W Q s ↔ p.Ensures W (fun a => Q (.ok a)) s := Program.ensures_bind

theorem ensures_ofOutcome {p : Action (Except CloudError α)} {fault : CloudError → OperationError}
    {Q : Except OperationError α → σ → Prop} :
    (ofOutcome fault p).run.Ensures W Q s ↔ p.Ensures W (fun r => Q (r.mapError fault)) s :=
  Program.ensures_bind

theorem ensures_attempt {c : Call}
    {Q : Except OperationError (Except CloudError c.Answer) → σ → Prop} :
    (attempt c).run.Ensures W Q s ↔
      W.permits c s ∧ ∀ reply s', W.leads c s reply s' → Q (.ok reply.outcome) s' := .rfl

theorem ensures_ask {c : Call} {context : String} {Q : Except OperationError c.Answer → σ → Prop} :
    (ask c context).run.Ensures W Q s ↔
      W.permits c s ∧ ∀ reply s', W.leads c s reply s' →
        Q (reply.outcome.mapError (CloudError.inContext context)) s' := .rfl

theorem ensures_askFor {c : Call} {kind id : String}
    {Q : Except OperationError c.Answer → σ → Prop} :
    (askFor c kind id).run.Ensures W Q s ↔
      W.permits c s ∧ ∀ reply s', W.leads c s reply s' →
        Q (reply.outcome.mapError (CloudError.orNotFound kind id)) s' := .rfl

end Operation

/-! ## Waits -/

namespace Wait

open Program

variable {C : Type} {A : C → Type} {S σ : Type} [DecidableEq S] {W : World C A σ} {s : σ}
  {w : Wait} {resource : String} {text : S → String} {target : S} {fetch : C}
  {status : Except CloudError (A fetch) → Except CloudError S}
  {Q : Except CloudError Unit → σ → Prop}

/-- The invariant of a wait holds before each fetch. -/
theorem ensures_poll {I : σ → Prop} (hfetch : ∀ s, I s → W.permits fetch s)
    (hok : ∀ s reply s', I s → W.leads fetch s reply s' →
      reached target (status reply.outcome) = true → Q (.ok ()) s')
    (herror : ∀ s reply s', I s → W.leads fetch s reply s' →
      reached target (status reply.outcome) = false →
        (∀ elapsed last, Q (.error (.waitTimeout resource (text target) elapsed last)) s') ∧
        ∀ ms, I (W.sleeps ms s'))
    (sleeps elapsed : Nat) (last : Option CloudError) (hs : I s) :
    (w.poll resource text target fetch status sleeps elapsed last).Ensures W Q s := by
  -- The last fetch and every other are alike, but for the sleep in between.
  induction sleeps generalizing s elapsed last with
  | zero =>
    refine ⟨hfetch s hs, fun reply s' hl => ?_⟩
    cases hr : reached target (status reply.outcome) with
    | true => simpa [hr] using hok s reply s' hs hl hr
    | false =>
      have hQ := (herror s reply s' hs hl hr).1
      simp only [hr, Bool.false_eq_true, if_false]
      split <;> exact hQ _ _
  | succ sleeps ih =>
    refine ⟨hfetch s hs, fun reply s' hl => ?_⟩
    cases hr : reached target (status reply.outcome) with
    | true => simpa [hr] using hok s reply s' hs hl hr
    | false =>
      obtain ⟨hQ, hI⟩ := herror s reply s' hs hl hr
      simp only [hr, Bool.false_eq_true, if_false]
      split
      · exact hQ _ _
      · exact ih _ _ (hI _)

theorem ensures_awaitStatus {I : σ → Prop} (hfetch : ∀ s, I s → W.permits fetch s)
    (hok : ∀ s reply s', I s → W.leads fetch s reply s' →
      reached target (status reply.outcome) = true → Q (.ok ()) s')
    (herror : ∀ s reply s', I s → W.leads fetch s reply s' →
      reached target (status reply.outcome) = false →
        (∀ elapsed last, Q (.error (.waitTimeout resource (text target) elapsed last)) s') ∧
        ∀ ms, I (W.sleeps ms s'))
    (hs : I s) : (w.awaitStatus resource text target fetch status).Ensures W Q s :=
  ensures_poll hfetch hok herror _ _ _ hs

end Wait

end CloudProvider
