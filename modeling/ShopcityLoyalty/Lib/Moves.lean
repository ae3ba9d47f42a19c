import ShopcityLoyalty.Lib.Executions

/-!
Processes whose statements make moves: relations between the states before and after a
statement, under the input it gets.

A process is asked for its moves from every state that the moves of others may have left, so
that processes of one kind can run beside each other; in their pool every step makes a move or
changes nothing, and what moves keep, runs keep.
-/

namespace ShopcityLoyalty

namespace Process

variable {ι σ ε α β : Type}

/-- Any number of moves. -/
abbrev MovedTo (M : ι → σ → σ → Prop) : σ → σ → Prop :=
  Relation.ReflTransGen fun s t => ∃ i, M i s t

/-- Every statement makes a move, after any moves of others. -/
def Moves (M : ι → σ → σ → Prop) : Process ι σ ε α → σ → Prop
  | done _, _ => True
  | fail _, _ => True
  | act st next, s => ∀ t i, MovedTo M s t →
      M i t (st i t).2 ∧ (next (st i t).1).Moves M (st i t).2

/-- Every statement makes a move when the process starts where an assertion holds. -/
structure MovesFrom (M : ι → σ → σ → Prop) (I : σ → Prop) (p : Process ι σ ε α) : Prop where
  moves : ∀ s, I s → p.Moves M s

/-- An assertion that moves keep. -/
def KeptBy (M : ι → σ → σ → Prop) (I : σ → Prop) : Prop := ∀ i s t, I s → M i s t → I t

variable {M : ι → σ → σ → Prop} {I J : σ → Prop} {s t : σ} {p : Process ι σ ε α}

lemma KeptBy.movedTo (h : KeptBy M I) (hs : I s) (hst : MovedTo M s t) : I t := by
  induction hst with
  | refl => exact hs
  | tail _ hlast ih =>
      obtain ⟨i, hi⟩ := hlast
      exact h i _ _ ih hi

lemma KeptBy.and (h : KeptBy M I) (h' : KeptBy M J) : KeptBy M fun s => I s ∧ J s :=
  fun i s t hs hst => ⟨h i s t hs.1 hst, h' i s t hs.2 hst⟩

lemma movesFrom_done {a : α} : MovesFrom M I (done a : Process ι σ ε α) := ⟨fun _ _ => trivial⟩

lemma movesFrom_fail {e : ε} : MovesFrom M I (fail e : Process ι σ ε α) := ⟨fun _ _ => trivial⟩

lemma MovesFrom.mono (h : MovesFrom M I p) (hIJ : ∀ s, J s → I s) : MovesFrom M J p :=
  ⟨fun s hs => h.moves s (hIJ s hs)⟩

lemma Moves.stable (h : p.Moves M s) (hst : MovedTo M s t) : p.Moves M t := by
  cases p with
  | act st next => exact fun u i htu => h u i (hst.trans htu)
  | _ => trivial

/-- **A statement**: what it returns tells what is known after it. -/
theorem movesFrom_act {K : β → σ → Prop} {st : ι → σ → β × σ} {next : β → Process ι σ ε α}
    (hI : KeptBy M I) (hst : ∀ i s, I s → M i s (st i s).2)
    (hK : ∀ i s, I s → K (st i s).1 (st i s).2) (hnext : ∀ b, MovesFrom M (K b) (next b)) :
    MovesFrom M I (act st next) := by
  refine ⟨fun s hs t i hst' => ?_⟩
  have ht := hI.movedTo hs hst'
  exact ⟨hst i t ht, (hnext _).moves _ (hK i t ht)⟩

/-- A read. -/
theorem movesFrom_read {K : β → σ → Prop} {f : ι → σ → β} {next : β → Process ι σ ε α}
    (hstay : ∀ i s, M i s s) (hI : KeptBy M I) (hK : ∀ i s, I s → K (f i s) s)
    (hnext : ∀ b, MovesFrom M (K b) (next b)) :
    MovesFrom M I (statement (fun i s => (f i s, s)) >>= next) :=
  movesFrom_act hI (fun i s _ => hstay i s) hK hnext

/-- A part of which nothing is known when the rest goes on. -/
theorem MovesFrom.bind {f : α → Process ι σ ε β} (hI : KeptBy M I) (hp : MovesFrom M I p)
    (hf : ∀ a, MovesFrom M I (f a)) : MovesFrom M I (p >>= f) := by
  refine ⟨fun s hs => ?_⟩
  have h := hp.moves s hs
  clear hp
  induction p generalizing s with
  | done a => exact (hf a).moves s hs
  | fail e => trivial
  | act st next ih =>
      intro t i hst
      obtain ⟨hmove, hnext⟩ := h t i hst
      have ht := hI i t _ (hI.movedTo hs hst) hmove
      exact ⟨hmove, ih _ _ ht hnext⟩

theorem MovesFrom.catching {handler : ε → Process ι σ ε α} (hI : KeptBy M I)
    (hp : MovesFrom M I p) (hhandler : ∀ e, MovesFrom M I (handler e)) :
    MovesFrom M I (p.catching handler) := by
  refine ⟨fun s hs => ?_⟩
  have h := hp.moves s hs
  clear hp
  induction p generalizing s with
  | done a => trivial
  | fail e => exact (hhandler e).moves s hs
  | act st next ih =>
      intro t i hst
      obtain ⟨hmove, hnext⟩ := h t i hst
      have ht := hI i t _ (hI.movedTo hs hst) hmove
      exact ⟨hmove, ih _ _ ht hnext⟩

/-- A transaction that makes a move where it commits. -/
theorem movesFrom_transaction {m : ι → Txn σ ε α} (hstay : ∀ i s, M i s s) (hI : KeptBy M I)
    (hm : ∀ i s a t, I s → m i s = .ok (a, t) → M i s t) : MovesFrom M I (transaction m) := by
  refine movesFrom_act (K := fun _ _ => True) hI (fun i s hs => ?_)
    (fun _ _ _ => trivial) fun b => ?_
  · cases hres : m i s with
    | error e => exact hstay i s
    | ok r => exact hm i s r.1 r.2 hs hres
  · cases b with
    | ok a => exact movesFrom_done
    | error e => exact movesFrom_fail

lemma movesFrom_ofExcept {x : Except ε β} {next : β → Process ι σ ε α}
    (h : ∀ b, x = .ok b → MovesFrom M I (next b)) : MovesFrom M I (ofExcept x >>= next) := by
  cases x with
  | ok b => exact h b rfl
  | error e => exact movesFrom_fail

end Process

namespace Pool

open Process

variable {κ ι σ ε α : Type} {program : κ → Process ι σ ε α} {w w' : Pool κ ι σ ε α}
  {M : ι → σ → σ → Prop} {Good : σ → Prop} {P : Pool κ ι σ ε α → PoolEvent κ ι → Prop}

/-- Every process makes moves. -/
def Moving (M : ι → σ → σ → Prop) (w : Pool κ ι σ ε α) : Prop :=
  ∀ (n : Nat) (k : κ) (p : Process ι σ ε α), w.tasks[n]? = some (k, some p) →
    p.Moves M w.state

/-- What a step does to the state: a move under its input, or nothing. -/
inductive Change (M : ι → σ → σ → Prop) : PoolEvent κ ι → σ → σ → Prop
  | advance {n : Nat} {i : ι} {s t : σ} (move : M i s t) : Change M (.advance n i) s t
  | start {k : κ} {s : σ} : Change M (.start k) s s
  | crash {n : Nat} {s : σ} : Change M (.crash n) s s

lemma Change.move_or_same {event : PoolEvent κ ι} {s t : σ} (h : Change M event s t) :
    (∃ n i, event = .advance n i ∧ M i s t) ∨ t = s := by
  cases h with
  | advance move => exact .inl ⟨_, _, rfl, move⟩
  | start => exact .inr rfl
  | crash => exact .inr rfl

lemma initial_moving (s : σ) : (initial s : Pool κ ι σ ε α).Moving M := by
  intro n k p hp
  simp [initial] at hp

lemma step_moving (hgood : KeptBy M Good) (hprogram : ∀ k, MovesFrom M Good (program k))
    (hw : w.Moving M) (hs : Good w.state) {event : PoolEvent κ ι}
    (hstep : w.step program event = some w') :
    w'.Moving M ∧ Good w'.state ∧ Change M event w.state w'.state := by
  cases event with
  | start k =>
      obtain rfl := Option.some.inj hstep
      refine ⟨fun n l p hp => ?_, hs, .start⟩
      rcases getElem?_start hp with hp | ⟨-, heq⟩
      · exact hw n l p hp
      · obtain ⟨-, hq⟩ := Prod.mk.inj heq
        rw [Option.some.inj hq]
        exact (hprogram k).moves _ hs
  | advance n i =>
      obtain ⟨k, β, st, next, htask, rfl⟩ := advance_step hstep
      obtain ⟨hmove, hnext⟩ := hw n k _ htask w.state i .refl
      refine ⟨fun m l p hp => ?_, hgood i _ _ hs hmove, .advance hmove⟩
      rcases getElem?_set_some hp with ⟨-, heq⟩ | ⟨-, hp⟩
      · obtain ⟨-, hq⟩ := Prod.mk.inj heq
        rw [Option.some.inj hq]
        exact hnext
      · exact (hw m l p hp).stable (.single ⟨i, hmove⟩)
  | crash n =>
      obtain ⟨k, ⟨q, htask⟩, rfl⟩ := crash_step hstep
      refine ⟨fun m l p hp => ?_, hs, .crash⟩
      rcases getElem?_set_some hp with ⟨-, heq⟩ | ⟨-, hp⟩
      · cases (Prod.mk.inj heq).2
      · exact hw m l p hp

/-- **The rule for moves**: along a run every process goes on making moves, and what moves
keep is kept. -/
theorem run_moving (hgood : KeptBy M Good) (hprogram : ∀ k, MovesFrom M Good (program k))
    (hw : w.Moving M) (hs : Good w.state) (hrun : StepsUnder program P w w') :
    w'.Moving M ∧ Good w'.state := by
  refine hrun.invariant (I := fun u => u.Moving M ∧ Good u.state) (fun _ hu hstep => ?_) ⟨hw, hs⟩
  obtain ⟨hmoving, hgood', -⟩ := step_moving hgood hprogram hu.1 hu.2 hstep
  exact ⟨hmoving, hgood'⟩

/-- **The rule for conditions on steps**: what the moves keep that the condition admits. -/
theorem run_invariant (hgood : KeptBy M Good) (hprogram : ∀ k, MovesFrom M Good (program k))
    {J : σ → Prop}
    (hJ : ∀ u u' event, P u event → u.step program event = some u' → Good u.state →
      Change M event u.state u'.state → J u.state → J u'.state)
    (hw : w.Moving M) (hs : Good w.state) (hj : J w.state) (hrun : StepsUnder program P w w') :
    w'.Moving M ∧ Good w'.state ∧ J w'.state := by
  refine hrun.invariant (I := fun u => u.Moving M ∧ Good u.state ∧ J u.state)
    (fun hp hu hstep => ?_) ⟨hw, hs, hj⟩
  obtain ⟨hmoving, hgood', hchange⟩ := step_moving hgood hprogram hu.1 hu.2.1 hstep
  exact ⟨hmoving, hgood', hJ _ _ _ hp hstep hu.2.1 hchange hu.2.2⟩

end Pool

end ShopcityLoyalty
