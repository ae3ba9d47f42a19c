import Mathlib.Logic.Relation
import Mathlib.Tactic

/-!
Runs of a system that steps under labels: what every step keeps, every run keeps.
-/

namespace ShopcityLoyalty

variable {σ α : Type*}

/-- Any number of steps, each under a label that meets a condition where it is taken. -/
def Runs (step : α → σ → σ → Prop) (P : σ → α → Prop) : σ → σ → Prop :=
  Relation.ReflTransGen fun s t => ∃ a, P s a ∧ step a s t

namespace Runs

variable {step : α → σ → σ → Prop} {P Q : σ → α → Prop} {s t u : σ}

lemma refl (s : σ) : Runs step P s s := Relation.ReflTransGen.refl

lemma single {a : α} (hp : P s a) (h : step a s t) : Runs step P s t :=
  Relation.ReflTransGen.single ⟨a, hp, h⟩

lemma trans (h : Runs step P s t) (h' : Runs step P t u) : Runs step P s u :=
  Relation.ReflTransGen.trans h h'

lemma tail {a : α} (h : Runs step P s t) (hp : P t a) (h' : step a t u) : Runs step P s u :=
  h.trans (single hp h')

/-- **The rule for runs**: an invariant that steps keep, and a transitive relation that they
establish between the states before and after them. -/
theorem induct {I : σ → Prop} {R : σ → σ → Prop} (hrefl : ∀ s, R s s)
    (htrans : ∀ {s t u}, R s t → R t u → R s u)
    (hstep : ∀ {a s t}, P s a → I s → step a s t → I t ∧ R s t) (hs : I s)
    (h : Runs step P s t) : I t ∧ R s t := by
  induction h with
  | refl => exact ⟨hs, hrefl s⟩
  | tail _ hlast ih =>
      obtain ⟨hi, hr⟩ := ih
      obtain ⟨a, hp, hstepped⟩ := hlast
      obtain ⟨hi', hr'⟩ := hstep hp hi hstepped
      exact ⟨hi', htrans hr hr'⟩

/-- An invariant that steps keep. -/
theorem invariant {I : σ → Prop} (hstep : ∀ {a s t}, P s a → I s → step a s t → I t) (hs : I s)
    (h : Runs step P s t) : I t := by
  have hrun := h.induct (I := I) (R := fun _ _ => True) (fun _ => trivial) (fun _ _ => trivial)
    fun hp hi hst => ⟨hstep hp hi hst, trivial⟩
  exact (hrun hs).1

lemma mono (hpq : ∀ s a, P s a → Q s a) (h : Runs step P s t) : Runs step Q s t :=
  Relation.ReflTransGen.mono (fun _ _ ⟨a, hp, hst⟩ => ⟨a, hpq _ _ hp, hst⟩) _ _ h

/-- Another condition on the labels, which follows where an invariant holds. -/
lemma mono_of {I : σ → Prop} (hstep : ∀ {a s t}, P s a → I s → step a s t → I t)
    (hpq : ∀ s a, I s → P s a → Q s a) (hs : I s) (h : Runs step P s t) : Runs step Q s t := by
  refine (h.invariant (I := fun t => I t ∧ Runs step Q s t) (fun hp hi hst => ?_) ⟨hs, .refl s⟩).2
  exact ⟨hstep hp hi.1 hst, hi.2.tail (hpq _ _ hi.1 hp) hst⟩

lemma of_foldlM {next : σ → α → σ} {check : σ → α → Bool} (hcheck : ∀ s a, check s a → P s a)
    {labels : List α}
    (h : labels.foldlM (fun s a => if check s a then some (next s a) else none) s = some t) :
    Runs (fun a s t => t = next s a) P s t := by
  induction labels generalizing s with
  | nil =>
      obtain rfl : s = t := Option.some.inj h
      exact .refl s
  | cons a labels ih =>
      by_cases hc : check s a
      · have hrest : labels.foldlM (fun s a => if check s a then some (next s a) else none)
            (next s a) = some t := by
          simpa [hc] using h
        exact .trans (.single (hcheck s a hc) rfl) (ih hrest)
      · simp [hc] at h

/-- The same where a step may not be possible. -/
lemma of_steps {next : σ → α → Option σ} {check : σ → α → Bool} (hcheck : ∀ s a, check s a → P s a)
    {labels : List α}
    (h : labels.foldlM (fun s a => if check s a then next s a else none) s = some t) :
    Runs (fun a s t => next s a = some t) P s t := by
  induction labels generalizing s with
  | nil =>
      obtain rfl : s = t := Option.some.inj h
      exact .refl s
  | cons a labels ih =>
      obtain ⟨u, hstep, hrest⟩ : ∃ u, (if check s a then next s a else none) = some u ∧
          labels.foldlM (fun s a => if check s a then next s a else none) u = some t := by
        simpa [Option.bind_eq_some_iff] using h
      by_cases hc : check s a = true
      · rw [if_pos hc] at hstep
        exact .trans (.single (hcheck s a hc) hstep) (ih hrest)
      · rw [if_neg hc] at hstep
        cases hstep

end Runs

end ShopcityLoyalty
