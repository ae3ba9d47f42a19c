import ShopcityLoyalty.Lib.Process

/-!
Processes whose statements change the state in known ways.

The effect of a statement is what it does to the state, whatever it returns. Where the effects of
every process belong to a class, each step of a pool is one of the class or changes nothing, and
the process that takes it stands at a statement with that effect.
-/

namespace ShopcityLoyalty

namespace Process

variable {ι σ ε α β : Type} {C : (ι → σ → σ) → Prop}

/-- The effect of a statement. -/
def effect (st : ι → σ → β × σ) : ι → σ → σ := fun i s => (st i s).2

/-- Every statement of a process has an effect of a class. -/
def EffectsIn (C : (ι → σ → σ) → Prop) : Process ι σ ε α → Prop
  | done _ => True
  | fail _ => True
  | act st next => C (effect st) ∧ ∀ b, (next b).EffectsIn C

lemma effectsIn_done {a : α} : (done a : Process ι σ ε α).EffectsIn C := trivial

lemma effectsIn_fail {e : ε} : (fail e : Process ι σ ε α).EffectsIn C := trivial

lemma effectsIn_statement {st : ι → σ → α × σ} (h : C (effect st)) :
    (statement st : Process ι σ ε α).EffectsIn C := ⟨h, fun _ => trivial⟩

lemma effectsIn_attempt {st : ι → σ → Except ε α × σ} (h : C (effect st)) :
    (attempt st).EffectsIn C := by
  refine ⟨h, fun b => ?_⟩
  cases b with
  | ok a => trivial
  | error e => trivial

lemma EffectsIn.bind {p : Process ι σ ε α} {f : α → Process ι σ ε β} (hp : p.EffectsIn C)
    (hf : ∀ a, (f a).EffectsIn C) : (p >>= f).EffectsIn C := by
  induction p with
  | done a => exact hf a
  | fail e => trivial
  | act st next ih => exact ⟨hp.1, fun b => ih b (hp.2 b)⟩

lemma EffectsIn.catching {p : Process ι σ ε α} {handler : ε → Process ι σ ε α}
    (hp : p.EffectsIn C) (hhandler : ∀ e, (handler e).EffectsIn C) :
    (p.catching handler).EffectsIn C := by
  induction p with
  | done a => trivial
  | fail e => exact hhandler e
  | act st next ih => exact ⟨hp.1, fun b => ih b (hp.2 b)⟩

lemma effectsIn_each {f : α → Process ι σ ε Unit} {l : List α} (hf : ∀ a, (f a).EffectsIn C) :
    (each f l).EffectsIn C := by
  induction l with
  | nil => trivial
  | cons a r ih => exact (hf a).bind fun _ => ih

lemma effectsIn_ite {c : Prop} [Decidable c] {p q : Process ι σ ε α} (hp : c → p.EffectsIn C)
    (hq : ¬ c → q.EffectsIn C) : (if c then p else q).EffectsIn C := by
  by_cases h : c
  · rw [if_pos h]
    exact hp h
  · rw [if_neg h]
    exact hq h

end Process

namespace Pool

open Process

variable {κ ι σ ε α : Type} {program : κ → Process ι σ ε α} {w w' : Pool κ ι σ ε α}
  {C : (ι → σ → σ) → Prop}

/-- A process stands at a statement with an effect. -/
def StandsAt (w : Pool κ ι σ ε α) (n : Nat) (e : ι → σ → σ) : Prop :=
  ∃ (k : κ) (β : Type) (st : ι → σ → β × σ) (next : β → Process ι σ ε α),
    w.tasks[n]? = some (k, some (.act st next)) ∧ effect st = e

lemma StandsAt.unique {n : Nat} {e e' : ι → σ → σ} (h : w.StandsAt n e) (h' : w.StandsAt n e') :
    e = e' := by
  obtain ⟨k, β, st, next, htask, rfl⟩ := h
  obtain ⟨k', β', st', next', htask', rfl⟩ := h'
  rw [htask] at htask'
  cases htask'
  rfl

lemma StandsAt.step {n : Nat} {e : ι → σ → σ} (h : w.StandsAt n e) (i : ι) :
    ∃ v, w.step program (.advance n i) = some v ∧ v.state = e i w.state := by
  obtain ⟨k, β, st, next, htask, rfl⟩ := h
  refine ⟨⟨effect st i w.state, w.tasks.set n (k, some (next (st i w.state).1))⟩, ?_, rfl⟩
  simp only [Pool.step, htask]
  rfl

/-- The processes of a pool have effects of a class. -/
def EffectsIn (C : (ι → σ → σ) → Prop) (w : Pool κ ι σ ε α) : Prop :=
  ∀ (n : Nat) k p, w.tasks[n]? = some (k, some p) → p.EffectsIn C

lemma initial_effectsIn (s : σ) : (initial s : Pool κ ι σ ε α).EffectsIn C := by
  intro n k p hp
  simp [initial] at hp

/-- **What a step does**: the effect of the statement that a process stands at, or nothing. -/
theorem EffectsIn.step (hprogram : ∀ k, (program k).EffectsIn C) (hw : w.EffectsIn C)
    {event : PoolEvent κ ι} (hstep : w.step program event = some w') :
    w'.EffectsIn C ∧ ((∃ n i e, event = .advance n i ∧ w.StandsAt n e ∧ C e ∧
      w'.state = e i w.state) ∨ ((∀ n i, event ≠ .advance n i) ∧ w'.state = w.state)) := by
  cases event with
  | start k =>
      obtain rfl := Option.some.inj hstep
      refine ⟨fun n l p hp => ?_, .inr ⟨by simp, rfl⟩⟩
      rcases getElem?_start hp with hp | ⟨-, heq⟩
      · exact hw n l p hp
      · obtain ⟨-, hq⟩ := Prod.mk.inj heq
        rw [Option.some.inj hq]
        exact hprogram k
  | advance n i =>
      obtain ⟨k, β, st, next, htask, rfl⟩ := advance_step hstep
      obtain ⟨heffect, hnext⟩ := hw n k _ htask
      refine ⟨fun m l p hp =>
        ?_, .inl ⟨n, i, effect st, rfl, ⟨k, β, st, next, htask, rfl⟩, heffect, rfl⟩⟩
      rcases getElem?_set_some hp with ⟨-, heq⟩ | ⟨-, hp⟩
      · obtain ⟨-, hq⟩ := Prod.mk.inj heq
        rw [Option.some.inj hq]
        exact hnext _
      · exact hw m l p hp
  | crash n =>
      obtain ⟨k, -, rfl⟩ := crash_step hstep
      refine ⟨fun m l p hp => ?_, .inr ⟨by simp, rfl⟩⟩
      rcases getElem?_set_some hp with ⟨-, heq⟩ | ⟨-, hp⟩
      · cases (Prod.mk.inj heq).2
      · exact hw m l p hp

/-- **The rule for effects**: what the effects keep that the condition on steps admits holds along
a run. -/
theorem run_effects (hprogram : ∀ k, (program k).EffectsIn C)
    {P : Pool κ ι σ ε α → PoolEvent κ ι → Prop} {I : σ → Prop}
    (hI : ∀ u n i e, P u (.advance n i) → u.StandsAt n e → C e → I u.state → I (e i u.state))
    (hw : w.EffectsIn C) (hs : I w.state) (hrun : StepsUnder program P w w') :
    w'.EffectsIn C ∧ I w'.state := by
  refine hrun.invariant (I := fun u => EffectsIn C u ∧ I u.state)
    (fun {event u v} hp hu hstep => ?_)
    ⟨hw, hs⟩
  obtain ⟨heffects, hcase⟩ := hu.1.step hprogram hstep
  refine ⟨heffects, ?_⟩
  rcases hcase with ⟨n, i, e, rfl, hat, hC, hstate⟩ | ⟨-, hstate⟩
  · rw [hstate]
    exact hI u n i e hp hat hC hu.2
  · rw [hstate]
    exact hu.2

end Pool

end ShopcityLoyalty
