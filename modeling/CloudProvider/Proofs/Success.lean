import CloudProvider.Proofs.NoTrace
import CloudProvider.Proofs.Served

/-!
# Runs that succeed

Calls to a cloud may fail before they reach it, and then nothing has changed. So what a run
leaves that succeeds follows from the answers of the resources alone, whatever went wrong on
the way.

* `IfOk`: what is required of the runs that succeed, with a rule for one step after
  another;
* `Resources.faltering`: the world in which any call may fail;
* `Ensures.serving_of_faltering`, `Schedule.ensures_of_faltering`: what it ensures holds
  where no call fails, and where some do.
-/

namespace CloudProvider

open Program Lifecycle

theorem eq_ok_of_toOption {ε α : Type} {r : Except ε α} {a : α} (h : r.toOption = some a) :
    r = .ok a := by
  cases r with
  | ok a' => exact congrArg Except.ok (Option.some.inj h)
  | error e => cases h

/-- What is required of the answer and the state of a run, if it succeeds. -/
def IfOk {α σ : Type} (Q : α → σ → Prop) : Except OperationError α → σ → Prop
  | .ok a, s => Q a s
  | .error _, _ => True

section

variable {α β σ : Type} {W : World Call Call.Answer σ} {s : σ} {R : α → σ → Prop}
  {Q : β → σ → Prop}

theorem Operation.ensures_bind_ok {p : Operation α} {f : α → Operation β}
    (hp : p.run.Ensures W (IfOk R) s)
    (hf : ∀ a s', R a s' → (f a).run.Ensures W (IfOk Q) s') :
    (p >>= f).run.Ensures W (IfOk Q) s := by
  refine ensures_bind.2 (hp.mono fun r s' hr => ?_)
  cases r with
  | ok a => exact hf a s' hr
  | error e => trivial

theorem Lifecycle.Provision.ensures_bind_ok {p : Operation α} {f : α → Provision β} {t : Trail}
    (hp : p.run.Ensures W (IfOk R) s)
    (hf : ∀ a s', R a s' → Provision.Ensures W (fun r _ => IfOk Q r) (f a) t s') :
    Provision.Ensures W (fun r _ => IfOk Q r) (ofOperation p >>= f) t s := by
  refine ensures_bind.2 (ensures_ofOperation.2 (hp.mono fun r s' hr => ?_))
  cases r with
  | ok a => exact hf a s' hr
  | error e => trivial

end

/-- The world of resources that calls may fail to reach. -/
def Resources.faltering : World Call Call.Answer Resources where
  permits _ _ := True
  leads c s reply s' :=
    (∃ a, reply.outcome = .ok a ∧ Resources.answer c s = .ok (a, s')) ∨
      (∃ e, reply.outcome = .error e) ∧ s' = s

namespace Operation

open Resources

variable {s : Resources} {c : Call} {Q : c.Answer → Resources → Prop}

theorem ensures_ask_ok (h : ∀ a s', Resources.answer c s = .ok (a, s') → Q a s')
    (context : String) : (ask c context).run.Ensures faltering (IfOk Q) s := by
  refine ensures_ask.2 ⟨trivial, ?_⟩
  rintro ⟨took, _⟩ s' (⟨a, rfl, hs⟩ | ⟨⟨e, rfl⟩, -⟩)
  · exact h a s' hs
  · trivial

/-- Tries that fail change nothing, so it is as if the call were made once. -/
theorem ensures_askRepeatedly_ok (h : ∀ a s', Resources.answer c s = .ok (a, s') → Q a s')
    (settings : Settings) (policy context : String) :
    (askRepeatedly settings policy c context).run.Ensures faltering (IfOk Q) s := by
  refine ensures_ofOutcome.2 (ensures_repeated (I := (· = s)) ?_ ?_ ?_ _ rfl)
  · exact fun _ _ => trivial
  · rintro _ took a s' rfl (⟨_, hreply, hs⟩ | ⟨⟨e, hreply⟩, -⟩)
    · cases hreply
      exact h a s' hs
    · cases hreply
  · rintro _ took e s' rfl (⟨_, hreply, -⟩ | ⟨-, rfl⟩)
    · cases hreply
    · exact ⟨trivial, fun _ => rfl⟩

end Operation

/-! ## Where calls do and do not fail -/

section

variable {α : Type} {p : Action α} {Q : α → Resources → Prop}

theorem Program.Ensures.serving_of_faltering {s : Resources}
    (h : p.Ensures Resources.faltering Q s) : p.Ensures Resources.serving Q s := by
  have htransfer := h.transfer (V := Resources.serving) (R := (· = ·)) ?_
    (fun _ _ _ hrel => hrel) rfl
  · exact htransfer.mono fun a s ⟨_, heq, hQ⟩ => heq ▸ hQ
  · rintro c s _ rfl -
    refine ⟨trivial, fun ⟨took, r⟩ s' hl => ⟨s', ?_, rfl⟩⟩
    cases r with
    | ok a => exact .inl ⟨a, rfl, Resources.answer_of_serve_ok hl⟩
    | error e => exact .inr ⟨⟨e, rfl⟩, Resources.eq_of_serve_error hl⟩

theorem Schedule.ensures_of_faltering {schedule : Schedule} {n : Nat} {cloud : Cloud}
    (h : p.Ensures Resources.faltering Q cloud.resources) :
    p.Ensures (Backend.world schedule.backend) (fun a x => Q a x.2.resources) (n, cloud) := by
  have htransfer := h.transfer (V := Backend.world schedule.backend)
    (R := fun s x => s = x.2.resources) ?_ (fun _ _ _ hrel => hrel) (t := (n, cloud)) rfl
  · exact htransfer.mono fun a x ⟨_, heq, hQ⟩ => heq ▸ hQ
  · rintro c _ x rfl -
    refine ⟨trivial, fun ⟨took, r⟩ x' hl => ⟨_, ?_, rfl⟩⟩
    obtain ⟨now, hx'⟩ := hl
    cases r with
    | ok a => exact .inl ⟨a, rfl, Cloud.answer_ok (Schedule.backend_ok hx')⟩
    | error e => exact .inr ⟨⟨e, rfl⟩, Schedule.backend_error hx'⟩

end

end CloudProvider
