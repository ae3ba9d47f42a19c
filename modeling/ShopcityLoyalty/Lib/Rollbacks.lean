import ShopcityLoyalty.Lib.Histories

/-!
Processes that leave nothing behind when they fail.

A process runs among others, so each of its statements meets a state that others may have
changed. What it does itself is told by the states that its statements found and left.
-/

namespace ShopcityLoyalty

namespace Process

variable {ι σ ε α δ : Type}

/-- What is left of a process after statements that met these inputs and states. -/
def remaining : Process ι σ ε α → List (ι × σ) → Process ι σ ε α
  | act st next, (i, s) :: met => (next (st i s).1).remaining met
  | p, _ => p

/-- The states that these statements found and left. -/
def changes : Process ι σ ε α → List (ι × σ) → List (σ × σ)
  | act st next, (i, s) :: met => (s, (st i s).2) :: (next (st i s).1).changes met
  | _, _ => []

/-- Where the process fails, each of its statements left what `view` shows of the state. -/
def RollsBack (view : σ → δ) (p : Process ι σ ε α) : Prop :=
  ∀ met e, p.remaining met = fail e → ∀ c ∈ p.changes met, view c.2 = view c.1

variable {view : σ → δ} {p : Process ι σ ε α}

/-- One more statement. -/
lemma remaining_snoc {β : Type} {st : ι → σ → β × σ} {next : β → Process ι σ ε α}
    {met : List (ι × σ)} (h : p.remaining met = act st next) (i : ι) (s : σ) :
    p.remaining (met ++ [(i, s)]) = next (st i s).1 ∧
      p.changes (met ++ [(i, s)]) = p.changes met ++ [(s, (st i s).2)] := by
  induction p generalizing met with
  | done a => simp [remaining] at h
  | fail e => simp [remaining] at h
  | act st' next' ih =>
      cases met with
      | nil =>
          obtain ⟨rfl, h⟩ := Process.act.inj h
          obtain ⟨rfl, rfl⟩ := And.intro (eq_of_heq h.1) (eq_of_heq h.2)
          simp [remaining, changes]
      | cons first met =>
          obtain ⟨hremaining, hchanges⟩ := ih (st' first.1 first.2).1 h
          refine ⟨hremaining, ?_⟩
          simp [changes, hchanges]

/-- **A statement** that leaves the view where it fails. -/
theorem rollsBack_attempt {st : ι → σ → Except ε α × σ}
    (h : ∀ i s e, (st i s).1 = .error e → view (st i s).2 = view s) :
    (attempt st).RollsBack view := by
  intro met e hfail c hc
  cases met with
  | nil => simp [attempt, changes] at hc
  | cons first met =>
      obtain ⟨i, s⟩ := first
      cases hst : (st i s).1 with
      | ok a => simp [attempt, remaining, hst] at hfail
      | error e =>
          simp only [attempt, changes, hst, List.mem_singleton] at hc
          obtain rfl := hc
          exact h i s e hst

/-- **A process with one effect** has only read so far, or it is done, and its last statement took
the effect. -/
theorem EffectLast.done_or_reads {effect : σ → α → σ → Prop} (hp : p.EffectLast effect)
    (met : List (ι × σ)) :
    ((p.remaining met).EffectLast effect ∧ ∀ c ∈ p.changes met, c.2 = c.1) ∨
      ∃ a before found left, p.remaining met = done a ∧
        p.changes met = before ++ [(found, left)] ∧ (∀ c ∈ before, c.2 = c.1) ∧
        effect found a left := by
  induction p generalizing met with
  | done a => cases hp
  | fail e => exact .inl ⟨trivial, by simp [changes]⟩
  | act st next ih =>
      cases met with
      | nil => exact .inl ⟨hp, by simp [changes]⟩
      | cons first met =>
          obtain ⟨i, s⟩ := first
          rcases hp i s with ⟨hsame, hrest⟩ | ⟨a, hdone, heffect⟩
          · rcases ih _ hrest met with
              ⟨hlast, hreads⟩ | ⟨a, before, found, left, ha, hsplit, hreads, h⟩
            · exact .inl ⟨hlast, by simpa [changes, hsame] using hreads⟩
            · exact .inr ⟨a, (s, (st i s).2) :: before, found, left, ha, by simp [changes, hsplit],
                by simpa [hsame] using hreads, h⟩
          · refine .inr ⟨a, [], s, (st i s).2, ?_, ?_, by simp, heffect⟩
            · simp [remaining, hdone]
            · simp [changes, hdone]

lemma EffectLast.mono {effect effect' : σ → α → σ → Prop} (hp : p.EffectLast effect)
    (h : ∀ s a t, effect s a t → effect' s a t) : p.EffectLast effect' := by
  induction p with
  | done a => exact hp
  | fail e => trivial
  | act st next ih =>
      intro i s
      rcases hp i s with ⟨hsame, hrest⟩ | ⟨a, hdone, heffect⟩
      · exact .inl ⟨hsame, ih _ hrest⟩
      · exact .inr ⟨a, hdone, h _ _ _ heffect⟩

end Process

end ShopcityLoyalty
