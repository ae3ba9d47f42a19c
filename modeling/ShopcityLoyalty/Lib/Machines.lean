import ShopcityLoyalty.Lib.Process

/-!
Tasks whose places are values: where each starts, and what it does next at a place.

A crew is a pool of such tasks on a shared state. A task that does nothing at its place has
ended, or waits until the state lets it go on.
-/

namespace ShopcityLoyalty

/-- What tasks do: the place where one starts, and the step from a place, if there is one. -/
structure Machine (κ ι σ : Type) (φ : Type*) where
  start : κ → φ
  next : κ → ι → φ → σ → Option (φ × σ)

/-- The shared state and the tasks started so far, each under its name; a crashed one is gone. -/
structure Crew (κ σ : Type) (φ : Type*) where
  state : σ
  tasks : List (κ × Option φ)

namespace Crew

variable {κ ι σ : Type} {φ : Type*}

def initial (s : σ) : Crew κ σ φ := ⟨s, []⟩

def step (m : Machine κ ι σ φ) (w : Crew κ σ φ) : PoolEvent κ ι → Option (Crew κ σ φ)
  | .start k => some ⟨w.state, w.tasks ++ [(k, some (m.start k))]⟩
  | .advance n i =>
      match w.tasks[n]? with
      | some (k, some p) =>
          (m.next k i p w.state).map fun r => ⟨r.2, w.tasks.set n (k, some r.1)⟩
      | _ => none
  | .crash n =>
      match w.tasks[n]? with
      | some (k, some _) => some ⟨w.state, w.tasks.set n (k, none)⟩
      | _ => none

/-- Steps one after another, each checked where it is taken. -/
def runChecked (m : Machine κ ι σ φ) (check : Crew κ σ φ → PoolEvent κ ι → Bool)
    (w : Crew κ σ φ) (events : List (PoolEvent κ ι)) : Option (Crew κ σ φ) :=
  events.foldlM (fun u event => if check u event then u.step m event else none) w

/-- Any number of steps under a condition. -/
abbrev StepsUnder (m : Machine κ ι σ φ) (P : Crew κ σ φ → PoolEvent κ ι → Prop) :
    Crew κ σ φ → Crew κ σ φ → Prop :=
  Runs (fun event w w' => w.step m event = some w') P

abbrev Steps (m : Machine κ ι σ φ) : Crew κ σ φ → Crew κ σ φ → Prop :=
  StepsUnder m fun _ _ => True

/-- A task stands at a place. -/
def At (w : Crew κ σ φ) (n : Nat) (k : κ) (p : φ) : Prop := w.tasks[n]? = some (k, some p)

variable {m : Machine κ ι σ φ} {w w' : Crew κ σ φ} {event : PoolEvent κ ι} {n j : Nat} {k l : κ}
  {p q : φ} {s : σ}

lemma StepsUnder.of_runChecked {P : Crew κ σ φ → PoolEvent κ ι → Prop}
    {check : Crew κ σ φ → PoolEvent κ ι → Bool} (hcheck : ∀ u e, check u e → P u e)
    {events : List (PoolEvent κ ι)} (h : w.runChecked m check events = some w') :
    StepsUnder m P w w' :=
  Runs.of_steps hcheck h

lemma At.inj (h : w.At n k p) (h' : w.At n l q) : k = l ∧ p = q := by
  have heq := h.symm.trans h'
  simp only [Option.some.injEq, Prod.mk.injEq] at heq
  exact heq

/-- **What a step does**: a task starts, goes on from its place, or is gone. -/
theorem step_cases (h : w.step m event = some w') :
    (∃ k, event = .start k ∧ w' = ⟨w.state, w.tasks ++ [(k, some (m.start k))]⟩) ∨
    (∃ n i k p r, event = .advance n i ∧ w.At n k p ∧ m.next k i p w.state = some r ∧
      w' = ⟨r.2, w.tasks.set n (k, some r.1)⟩) ∨
    (∃ n k p, event = .crash n ∧ w.At n k p ∧ w' = ⟨w.state, w.tasks.set n (k, none)⟩) := by
  cases event with
  | start k => exact .inl ⟨k, rfl, (Option.some.inj h).symm⟩
  | advance n i =>
      simp only [step] at h
      split at h
      · rename_i k p htask
        obtain ⟨r, hr, rfl⟩ := Option.map_eq_some_iff.1 h
        exact .inr (.inl ⟨n, i, k, p, r, rfl, htask, hr, rfl⟩)
      · cases h
  | crash n =>
      simp only [step] at h
      split at h
      · rename_i k p htask
        exact .inr (.inr ⟨n, k, p, rfl, htask, (Option.some.inj h).symm⟩)
      · cases h

lemma At.of_start (h : (⟨s, w.tasks ++ [(k, some p)]⟩ : Crew κ σ φ).At j l q) :
    w.At j l q ∨ (j = w.tasks.length ∧ l = k ∧ q = p) := by
  unfold At at h
  by_cases hj : j < w.tasks.length
  · rw [List.getElem?_append_left hj] at h
    exact .inl h
  · rw [List.getElem?_append_right (by omega), List.getElem?_singleton] at h
    split at h
    · simp only [Option.some.injEq, Prod.mk.injEq] at h
      exact .inr ⟨by omega, h.1.symm, h.2.symm⟩
    · cases h

lemma At.of_advance (h : (⟨s, w.tasks.set n (k, some p)⟩ : Crew κ σ φ).At j l q) :
    (j = n ∧ l = k ∧ q = p) ∨ (j ≠ n ∧ w.At j l q) := by
  unfold At at h
  by_cases hj : n = j
  · subst hj
    have hlt := (List.getElem?_eq_some_iff.1 h).1
    rw [List.length_set] at hlt
    rw [List.getElem?_set_self hlt] at h
    simp only [Option.some.injEq, Prod.mk.injEq] at h
    exact .inl ⟨rfl, h.1.symm, h.2.symm⟩
  · rw [List.getElem?_set_ne hj] at h
    exact .inr ⟨Ne.symm hj, h⟩

lemma At.of_crash (h : (⟨s, w.tasks.set n (k, none)⟩ : Crew κ σ φ).At j l q) :
    j ≠ n ∧ w.At j l q := by
  unfold At at h
  by_cases hj : n = j
  · subst hj
    have hlt := (List.getElem?_eq_some_iff.1 h).1
    rw [List.length_set] at hlt
    rw [List.getElem?_set_self hlt] at h
    simp at h
  · rw [List.getElem?_set_ne hj] at h
    exact ⟨Ne.symm hj, h⟩

lemma At.other {a : κ × Option φ} (h : w.At j l q) (hne : j ≠ n) :
    (⟨s, w.tasks.set n a⟩ : Crew κ σ φ).At j l q := by
  unfold At
  rw [List.getElem?_set_ne (Ne.symm hne)]
  exact h

lemma At.advanced (h : w.At n k p) : (⟨s, w.tasks.set n (k, some q)⟩ : Crew κ σ φ).At n k q :=
  List.getElem?_set_self (List.getElem?_eq_some_iff.1 h).1

lemma At.started (h : w.At j l q) :
    (⟨s, w.tasks ++ [(k, some p)]⟩ : Crew κ σ φ).At j l q := by
  unfold At
  rw [List.getElem?_append_left (List.getElem?_eq_some_iff.1 h).1]
  exact h

lemma not_at_initial : ¬ (initial s : Crew κ σ φ).At n k p := by
  simp [At, initial]

end Crew

end ShopcityLoyalty
