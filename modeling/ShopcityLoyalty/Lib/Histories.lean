import ShopcityLoyalty.Lib.Executions

/-!
One process among others, and the history of many.

A process runs along the states that its statements meet, between which others may have done
anything. Where each process takes effect at one statement, its last, and the ones before it
only read, every run of a pool has a history: the effects in the order in which they were
taken. Each process that returned is in it exactly once, and no process is in it that did not
end.
-/

namespace ShopcityLoyalty

namespace Process

variable {ι σ ε α β : Type}

/-! ### One process along the states it meets -/

/-- What a process returns where its statements meet exactly these inputs and states. -/
def along : Process ι σ ε α → List (ι × σ) → Option (Except ε α)
  | done a, [] => some (.ok a)
  | fail e, [] => some (.error e)
  | act st next, (i, s) :: rest => (next (st i s).1).along rest
  | _, _ => none

section along

variable {met : List (ι × σ)} {r : Except ε α}

@[simp] lemma along_done {a : α} :
    (done a : Process ι σ ε α).along met = some r ↔ met = [] ∧ r = .ok a := by
  cases met <;> simp [along, eq_comm]

@[simp] lemma along_fail {e : ε} :
    (fail e : Process ι σ ε α).along met = some r ↔ met = [] ∧ r = .error e := by
  cases met <;> simp [along, eq_comm]

lemma along_statement_bind {st : ι → σ → β × σ} {f : β → Process ι σ ε α} :
    (statement st >>= f).along met = some r ↔
      ∃ i s rest, met = (i, s) :: rest ∧ (f (st i s).1).along rest = some r := by
  cases met with
  | nil => simp [statement, along]
  | cons x rest => simp [statement, along, Prod.ext_iff]

lemma along_transaction_bind {m : ι → Txn σ ε β} {f : β → Process ι σ ε α} :
    (transaction m >>= f).along met = some r ↔ ∃ i s rest, met = (i, s) :: rest ∧
      ((∃ b t, m i s = .ok (b, t) ∧ (f b).along rest = some r) ∨
        ∃ e, m i s = .error e ∧ rest = [] ∧ r = .error e) := by
  cases met with
  | nil => simp [transaction, attempt, along]
  | cons x rest =>
      cases hm : m x.1 x.2 with
      | ok b => simp [transaction, attempt, along, Prod.ext_iff, hm]
      | error e => simp [transaction, attempt, along, Prod.ext_iff, hm]

end along

/-! ### Processes that take effect at their last statement -/

/-- The statements of a process leave the state as it is, up to the one that takes effect and
returns. -/
def EffectLast (effect : σ → α → σ → Prop) : Process ι σ ε α → Prop
  | done _ => False
  | fail _ => True
  | act st next => ∀ i s,
      ((st i s).2 = s ∧ EffectLast effect (next (st i s).1)) ∨
        ∃ a, next (st i s).1 = done a ∧ effect s a (st i s).2

variable {effect : σ → α → σ → Prop} {f : β → Process ι σ ε α}

lemma EffectLast.ofExcept_bind {x : Except ε β}
    (hf : ∀ b, x = .ok b → (f b).EffectLast effect) : (ofExcept x >>= f).EffectLast effect := by
  cases x with
  | ok b => exact hf b rfl
  | error e => trivial

lemma EffectLast.statement_bind {read : ι → σ → β} (hf : ∀ b, (f b).EffectLast effect) :
    (statement (fun i s => (read i s, s)) >>= f).EffectLast effect :=
  fun i s => .inl ⟨rfl, hf (read i s)⟩

lemma EffectLast.attempt_bind {read : ι → σ → Except ε β} (hf : ∀ b, (f b).EffectLast effect) :
    (attempt (fun i s => (read i s, s)) >>= f).EffectLast effect := by
  intro i s
  refine .inl ⟨rfl, ?_⟩
  cases hread : read i s with
  | ok b =>
      simp only [hread]
      exact hf b
  | error e =>
      simp only [hread]
      trivial

lemma EffectLast.transaction {m : ι → Txn σ ε α}
    (hm : ∀ i s a t, m i s = .ok (a, t) → effect s a t) :
    (transaction m : Process ι σ ε α).EffectLast effect := by
  intro i s
  cases hrun : m i s with
  | ok r =>
      refine .inr ⟨r.1, ?_, ?_⟩
      · simp only [hrun]
      · simp only [hrun]
        exact hm i s r.1 r.2 hrun
  | error e =>
      refine .inl ⟨?_, ?_⟩
      · simp only [hrun]
      · simp only [hrun]
        trivial

end Process

namespace Pool

variable {κ ι σ ε α : Type}

/-- The effect of a process: its number, its name and what it returned. -/
structure Effect (κ α : Type) where
  number : Nat
  name : κ
  result : α

/-- Effects taken one after another. -/
inductive Effects (effect : κ → σ → α → σ → Prop) (s : σ) : List (Effect κ α) → σ → Prop
  | nil : Effects effect s [] s
  | snoc {h : List (Effect κ α)} {t u : σ} (x : Effect κ α) (before : Effects effect s h t)
      (last : effect x.name t x.result u) : Effects effect s (h ++ [x]) u

/-- The effects are those of the processes that returned, and of crashed ones. -/
structure History (effect : κ → σ → α → σ → Prop) (s : σ) (w : Pool κ ι σ ε α)
    (h : List (Effect κ α)) : Prop where
  effects : Effects effect s h w.state
  nodup : (h.map (·.number)).Nodup
  returned : ∀ (n : Nat) k a, w.tasks[n]? = some (k, some (.done a)) → ⟨n, k, a⟩ ∈ h
  ended : ∀ x ∈ h, w.tasks[x.number]? = some (x.name, some (.done x.result)) ∨
    w.tasks[x.number]? = some (x.name, none)
  pending : ∀ (n : Nat) k p, w.tasks[n]? = some (k, some p) → p.Running →
    p.EffectLast (effect k)

variable {effect : κ → σ → α → σ → Prop} {s : σ} {program : κ → Process ι σ ε α}
  {w w' : Pool κ ι σ ε α} {h : List (Effect κ α)}

lemma History.initial : (initial s : Pool κ ι σ ε α).History effect s [] where
  effects := .nil
  nodup := by simp
  returned n k a hn := by simp [Pool.initial] at hn
  ended x hx := by simp at hx
  pending n k p hn := by simp [Pool.initial] at hn

lemma History.number_ne (hw : w.History effect s h) {n : Nat} {k : κ} {p : Process ι σ ε α}
    (hn : w.tasks[n]? = some (k, some p)) (hrun : p.Running) : ∀ x ∈ h, x.number ≠ n := by
  rintro x hx rfl
  rcases hw.ended x hx with hdone | hcrashed
  · rw [hn] at hdone
    cases hdone
    exact hrun
  · rw [hn] at hcrashed
    cases hcrashed

lemma History.start (hw : w.History effect s h) (k : κ)
    (hk : (program k).EffectLast (effect k)) :
    History effect s ⟨w.state, w.tasks ++ [(k, some (program k))]⟩ h where
  effects := hw.effects
  nodup := hw.nodup
  returned n l a hn := by
    rcases getElem?_start hn with hold | ⟨-, heq⟩
    · exact hw.returned n l a hold
    · obtain ⟨rfl, hdone⟩ := Prod.mk.inj heq
      rw [← Option.some.inj hdone] at hk
      exact hk.elim
  ended x hx := by
    have hlt : x.number < w.tasks.length := by
      rcases hw.ended x hx with hn | hn
      · exact (List.getElem?_eq_some_iff.1 hn).1
      · exact (List.getElem?_eq_some_iff.1 hn).1
    rw [List.getElem?_append_left hlt]
    exact hw.ended x hx
  pending n l p hn hrun := by
    rcases getElem?_start hn with hold | ⟨-, heq⟩
    · exact hw.pending n l p hold hrun
    · obtain ⟨rfl, hp⟩ := Prod.mk.inj heq
      rw [Option.some.inj hp]
      exact hk

lemma History.crash (hw : w.History effect s h) {n : Nat} {k : κ} {p : Process ι σ ε α}
    (hn : w.tasks[n]? = some (k, some p)) :
    History effect s ⟨w.state, w.tasks.set n (k, none)⟩ h where
  effects := hw.effects
  nodup := hw.nodup
  returned m l a hm := by
    rcases getElem?_set_some hm with ⟨-, heq⟩ | ⟨-, hold⟩
    · cases (Prod.mk.inj heq).2
    · exact hw.returned m l a hold
  ended x hx := by
    by_cases hnx : n = x.number
    · subst hnx
      have hname : x.name = k := by
        rcases hw.ended x hx with hx | hx
        · rw [hn] at hx
          exact (Prod.mk.inj (Option.some.inj hx)).1.symm
        · rw [hn] at hx
          cases hx
      rw [List.getElem?_set_self (List.getElem?_eq_some_iff.1 hn).1, hname]
      exact .inr rfl
    · rw [List.getElem?_set_ne hnx]
      exact hw.ended x hx
  pending m l q hm hrun := by
    rcases getElem?_set_some hm with ⟨-, heq⟩ | ⟨-, hold⟩
    · cases (Prod.mk.inj heq).2
    · exact hw.pending m l q hold hrun

/-- A process that goes on without an effect. -/
lemma History.read (hw : w.History effect s h) {n : Nat} {k : κ} {p q : Process ι σ ε α}
    (hn : w.tasks[n]? = some (k, some p)) (hrun : p.Running)
    (hq : q.EffectLast (effect k)) :
    History effect s ⟨w.state, w.tasks.set n (k, some q)⟩ h where
  effects := hw.effects
  nodup := hw.nodup
  returned m l a hm := by
    rcases getElem?_set_some hm with ⟨-, heq⟩ | ⟨-, hold⟩
    · obtain ⟨-, hdone⟩ := Prod.mk.inj heq
      rw [← Option.some.inj hdone] at hq
      exact hq.elim
    · exact hw.returned m l a hold
  ended x hx := by
    rw [List.getElem?_set_ne (hw.number_ne hn hrun x hx).symm]
    exact hw.ended x hx
  pending m l r hm hrun' := by
    rcases getElem?_set_some hm with ⟨-, heq⟩ | ⟨-, hold⟩
    · obtain ⟨rfl, hr⟩ := Prod.mk.inj heq
      rw [Option.some.inj hr]
      exact hq
    · exact hw.pending m l r hold hrun'

/-- A process that takes effect. -/
lemma History.take (hw : w.History effect s h) {n : Nat} {k : κ} {p : Process ι σ ε α} {a : α}
    {t : σ} (hn : w.tasks[n]? = some (k, some p)) (hrun : p.Running)
    (ht : effect k w.state a t) :
    History effect s ⟨t, w.tasks.set n (k, some (.done a))⟩ (h ++ [⟨n, k, a⟩]) where
  effects := .snoc ⟨n, k, a⟩ hw.effects ht
  nodup := by
    rw [List.map_append, List.nodup_append]
    refine ⟨hw.nodup, by simp, fun m hm m' hm' heq => ?_⟩
    obtain ⟨x, hx, rfl⟩ := List.mem_map.1 hm
    obtain rfl : m' = n := by simpa using hm'
    exact hw.number_ne hn hrun x hx heq
  returned m l b hm := by
    rcases getElem?_set_some hm with ⟨rfl, heq⟩ | ⟨-, hold⟩
    · cases heq
      simp
    · exact List.mem_append_left _ (hw.returned m l b hold)
  ended x hx := by
    rcases List.mem_append.1 hx with hx | hx
    · rw [List.getElem?_set_ne (hw.number_ne hn hrun x hx).symm]
      exact hw.ended x hx
    · obtain rfl := List.mem_singleton.1 hx
      exact .inl (List.getElem?_set_self (List.getElem?_eq_some_iff.1 hn).1)
  pending m l q hm hrun' := by
    rcases getElem?_set_some hm with ⟨-, heq⟩ | ⟨-, hold⟩
    · obtain ⟨-, hq⟩ := Prod.mk.inj heq
      rw [Option.some.inj hq] at hrun'
      exact hrun'.elim
    · exact hw.pending m l q hold hrun'

/-- **A step** takes at most one effect. -/
theorem History.step (hw : w.History effect s h) (hprogram : ∀ k, (program k).EffectLast (effect k))
    {event : PoolEvent κ ι} (hstep : w.step program event = some w') :
    ∃ more, w'.History effect s (h ++ more) ∧ more.length ≤ 1 := by
  cases event with
  | start k =>
      obtain rfl := Option.some.inj hstep
      refine ⟨[], ?_, by simp⟩
      rw [List.append_nil]
      exact hw.start k (hprogram k)
  | crash n =>
      obtain ⟨k, ⟨p, hn⟩, rfl⟩ := crash_step hstep
      refine ⟨[], ?_, by simp⟩
      rw [List.append_nil]
      exact hw.crash hn
  | advance n i =>
      obtain ⟨k, β, st, next, hn, rfl⟩ := advance_step hstep
      have hlast : Process.EffectLast (effect k) (.act st next) :=
        hw.pending n k _ hn trivial
      rcases hlast i w.state with ⟨hsame, hnext⟩ | ⟨a, hdone, heffect⟩
      · refine ⟨[], ?_, by simp⟩
        rw [List.append_nil, hsame]
        exact hw.read hn trivial hnext
      · refine ⟨[⟨n, k, a⟩], ?_, by simp⟩
        rw [hdone]
        exact hw.take hn trivial heffect

/-- **A run** adds effects to the history. -/
theorem History.run (hw : w.History effect s h) (hprogram : ∀ k, (program k).EffectLast (effect k))
    (hrun : Steps program w w') : ∃ more, w'.History effect s (h ++ more) := by
  induction hrun with
  | refl => exact ⟨[], by rwa [List.append_nil]⟩
  | tail _ hlast ih =>
      obtain ⟨more, hmore⟩ := ih
      obtain ⟨event, -, hstep⟩ := hlast
      obtain ⟨last, hlast, -⟩ := hmore.step hprogram hstep
      exact ⟨more ++ last, by rwa [← List.append_assoc]⟩

end Pool

end ShopcityLoyalty
