import ShopcityLoyalty.Lib.Process
import ShopcityLoyalty.Lib.Txn

/-!
A process that runs alone, on the inputs it gets one after another, to its end or cut short; a
transaction as a statement; and a process that works on a part of a larger state.
-/

namespace ShopcityLoyalty

lemma Except.bind_ok {ε α β : Type} {x : Except ε α} {f : α → Except ε β} {b : β} :
    (x >>= f) = .ok b ↔ ∃ a, x = .ok a ∧ f a = .ok b := by
  cases x with
  | ok a =>
      simp only [Except.ok.injEq, exists_eq_left']
      exact Iff.rfl
  | error e =>
      simp only [reduceCtorEq, false_and, exists_false, iff_false]
      intro h
      cases h

lemma Except.bind_error {ε α β : Type} {x : Except ε α} {f : α → Except ε β} {e : ε} :
    (x >>= f) = .error e ↔ x = .error e ∨ ∃ a, x = .ok a ∧ f a = .error e := by
  cases x with
  | ok a =>
      simp only [reduceCtorEq, false_or, Except.ok.injEq, exists_eq_left']
      exact Iff.rfl
  | error e' =>
      constructor
      · intro h
        exact .inl (congrArg Except.error (Except.error.inj h))
      · rintro (h | ⟨a, ha, -⟩)
        · obtain rfl := Except.error.inj h
          rfl
        · cases ha

namespace Process

variable {ι σ τ ε α β : Type}

/-- A transaction in one statement. -/
def transaction (m : ι → Txn σ ε α) : Process ι σ ε α :=
  attempt fun i s =>
    match m i s with
    | .ok (a, t) => (.ok a, t)
    | .error e => (.error e, s)

/-- A value, or a failure, of no statement. -/
def ofExcept : Except ε α → Process ι σ ε α
  | .ok a => done a
  | .error e => fail e

/-- A process on a part of the state. -/
def within (get : τ → σ) (put : σ → τ → τ) : Process ι σ ε α → Process ι τ ε α
  | done a => done a
  | fail e => fail e
  | act st next =>
      act (fun i t => ((st i (get t)).1, put (st i (get t)).2 t)) fun b => within get put (next b)

/-- What a process that runs alone returns and leaves, where it takes exactly these inputs. -/
def run : Process ι σ ε α → σ → List ι → Option (Except ε α × σ)
  | done a, s, [] => some (.ok a, s)
  | fail e, s, [] => some (.error e, s)
  | act st next, s, i :: inputs => (next (st i s).1).run (st i s).2 inputs
  | _, _, _ => none

variable {p : Process ι σ ε α} {s t : σ} {inputs : List ι} {r : Except ε α}

@[simp] lemma run_done {a : α} :
    (done a : Process ι σ ε α).run s inputs = some (r, t) ↔ inputs = [] ∧ r = .ok a ∧ t = s := by
  cases inputs <;> simp [run, eq_comm]

@[simp] lemma run_fail {e : ε} :
    (fail e : Process ι σ ε α).run s inputs = some (r, t) ↔
      inputs = [] ∧ r = .error e ∧ t = s := by
  cases inputs <;> simp [run, eq_comm]

@[simp] lemma run_ofExcept {x : Except ε α} :
    (ofExcept x : Process ι σ ε α).run s inputs = some (r, t) ↔ inputs = [] ∧ r = x ∧ t = s := by
  cases x <;> simp [ofExcept]

@[simp] lemma run_act {st : ι → σ → β × σ} {next : β → Process ι σ ε α} :
    (act st next).run s inputs = some (r, t) ↔
      ∃ i rest, inputs = i :: rest ∧ (next (st i s).1).run (st i s).2 rest = some (r, t) := by
  cases inputs <;> simp [run]

lemma run_attempt {st : ι → σ → Except ε α × σ} :
    (attempt st).run s inputs = some (r, t) ↔ ∃ i, inputs = [i] ∧ st i s = (r, t) := by
  simp only [attempt, run_act]
  constructor
  · rintro ⟨i, rest, rfl, h⟩
    cases hr : (st i s).1 with
    | ok a =>
        simp only [hr, run_done] at h
        obtain ⟨rfl, rfl, rfl⟩ := h
        exact ⟨i, rfl, Prod.ext hr rfl⟩
    | error e =>
        simp only [hr, run_fail] at h
        obtain ⟨rfl, rfl, rfl⟩ := h
        exact ⟨i, rfl, Prod.ext hr rfl⟩
  · rintro ⟨i, rfl, h⟩
    refine ⟨i, [], rfl, ?_⟩
    rw [h]
    cases r <;> simp

/-- A statement that commits the transaction, or leaves the state as it was. -/
lemma run_transaction {m : ι → Txn σ ε α} :
    (transaction m).run s inputs = some (r, t) ↔
      ∃ i, inputs = [i] ∧
        ((∃ a, m i s = .ok (a, t) ∧ r = .ok a) ∨
          (∃ e, m i s = .error e ∧ r = .error e ∧ t = s)) := by
  unfold transaction
  rw [run_attempt]
  refine exists_congr fun i => and_congr_right fun _ => ?_
  cases hm : m i s with
  | ok b =>
      obtain ⟨a, u⟩ := b
      simp only [Prod.mk.injEq, Except.ok.injEq, reduceCtorEq, false_and, exists_false, or_false]
      constructor
      · rintro ⟨rfl, rfl⟩; exact ⟨a, ⟨rfl, rfl⟩, rfl⟩
      · rintro ⟨_, ⟨rfl, rfl⟩, rfl⟩; exact ⟨rfl, rfl⟩
  | error e =>
      simp only [Prod.mk.injEq, reduceCtorEq, false_and, exists_false, false_or, Except.error.injEq]
      constructor
      · rintro ⟨rfl, rfl⟩; exact ⟨e, rfl, rfl, rfl⟩
      · rintro ⟨_, rfl, rfl, rfl⟩; exact ⟨rfl, rfl⟩

/-- **Sequencing**: the first part takes the first inputs, and the rest goes on with what it
returned, unless it failed. -/
theorem run_bind {f : α → Process ι σ ε β} {r : Except ε β} :
    (p >>= f).run s inputs = some (r, t) ↔
      (∃ a u before after, inputs = before ++ after ∧ p.run s before = some (.ok a, u) ∧
        (f a).run u after = some (r, t)) ∨
      ∃ e, p.run s inputs = some (.error e, t) ∧ r = .error e := by
  induction p generalizing s inputs with
  | done a =>
      simp only [done_bind, run_done, Except.ok.injEq, reduceCtorEq, false_and, and_false,
        exists_false, or_false]
      constructor
      · intro h; exact ⟨a, s, [], inputs, rfl, ⟨rfl, rfl, rfl⟩, h⟩
      · rintro ⟨_, _, _, after, rfl, ⟨rfl, rfl, rfl⟩, h⟩; exact h
  | fail e =>
      simp only [fail_bind, run_fail, reduceCtorEq, false_and, and_false, exists_false, false_or,
        Except.error.injEq]
      constructor
      · rintro ⟨rfl, rfl, rfl⟩; exact ⟨e, ⟨rfl, rfl, rfl⟩, rfl⟩
      · rintro ⟨_, ⟨rfl, rfl, rfl⟩, rfl⟩; exact ⟨rfl, rfl, rfl⟩
  | act st next ih =>
      rw [act_bind, run_act]
      constructor
      · rintro ⟨i, rest, rfl, h⟩
        rcases (ih _).1 h with ⟨a, u, before, after, rfl, hp, hf⟩ | ⟨e, hp, hr⟩
        · exact .inl ⟨a, u, i :: before, after, rfl, run_act.2 ⟨i, before, rfl, hp⟩, hf⟩
        · exact .inr ⟨e, run_act.2 ⟨i, rest, rfl, hp⟩, hr⟩
      · rintro (⟨a, u, before, after, rfl, hp, hf⟩ | ⟨e, hp, hr⟩)
        · obtain ⟨i, rest, rfl, hp⟩ := run_act.1 hp
          exact ⟨i, rest ++ after, rfl, (ih _).2 (.inl ⟨a, u, rest, after, rfl, hp, hf⟩)⟩
        · obtain ⟨i, rest, rfl, hp⟩ := run_act.1 hp
          exact ⟨i, rest, rfl, (ih _).2 (.inr ⟨e, hp, hr⟩)⟩

lemma run_statement_bind {st : ι → σ → α × σ} {f : α → Process ι σ ε β} {r : Except ε β} :
    (statement st >>= f).run s inputs = some (r, t) ↔
      ∃ i rest, inputs = i :: rest ∧ (f (st i s).1).run (st i s).2 rest = some (r, t) := by
  rw [statement, act_bind, run_act]
  rfl

@[simp] lemma ofExcept_ok_bind {a : α} {f : α → Process ι σ ε β} :
    ((ofExcept (.ok a) : Process ι σ ε α) >>= f) = f a := rfl

@[simp] lemma ofExcept_error_bind {e : ε} {f : α → Process ι σ ε β} :
    ((ofExcept (.error e) : Process ι σ ε α) >>= f) = fail e := rfl

/-- **Handlers**: what the process returns, or what the handler does about its failure. -/
theorem run_catching {handler : ε → Process ι σ ε α} :
    (p.catching handler).run s inputs = some (r, t) ↔
      (∃ a, p.run s inputs = some (.ok a, t) ∧ r = .ok a) ∨
      ∃ e u before after, inputs = before ++ after ∧ p.run s before = some (.error e, u) ∧
        (handler e).run u after = some (r, t) := by
  induction p generalizing s inputs with
  | done a =>
      simp only [catching, run_done, Except.ok.injEq, reduceCtorEq, false_and, and_false,
        exists_false, or_false]
      constructor
      · rintro ⟨rfl, rfl, rfl⟩; exact ⟨a, ⟨rfl, rfl, rfl⟩, rfl⟩
      · rintro ⟨_, ⟨rfl, rfl, rfl⟩, rfl⟩; exact ⟨rfl, rfl, rfl⟩
  | fail e =>
      simp only [catching, run_fail, reduceCtorEq, false_and, and_false, exists_false, false_or,
        Except.error.injEq]
      constructor
      · intro h; exact ⟨e, s, [], inputs, rfl, ⟨rfl, rfl, rfl⟩, h⟩
      · rintro ⟨_, _, _, after, rfl, ⟨rfl, rfl, rfl⟩, h⟩; exact h
  | act st next ih =>
      change (act st fun b => (next b).catching handler).run s inputs = some (r, t) ↔ _
      rw [run_act]
      constructor
      · rintro ⟨i, rest, rfl, h⟩
        rcases (ih _).1 h with ⟨a, hp, hr⟩ | ⟨e, u, before, after, rfl, hp, hh⟩
        · exact .inl ⟨a, run_act.2 ⟨i, rest, rfl, hp⟩, hr⟩
        · exact .inr ⟨e, u, i :: before, after, rfl, run_act.2 ⟨i, before, rfl, hp⟩, hh⟩
      · rintro (⟨a, hp, hr⟩ | ⟨e, u, before, after, rfl, hp, hh⟩)
        · obtain ⟨i, rest, rfl, hp⟩ := run_act.1 hp
          exact ⟨i, rest, rfl, (ih _).2 (.inl ⟨a, hp, hr⟩)⟩
        · obtain ⟨i, rest, rfl, hp⟩ := run_act.1 hp
          exact ⟨i, rest ++ after, rfl, (ih _).2 (.inr ⟨e, u, rest, after, rfl, hp, hh⟩)⟩

/-- A process on a part of the state does what it does alone, and the state is put together
of what it leaves. -/
theorem run_within {get : τ → σ} {put : σ → τ → τ} (hget : ∀ u x, get (put u x) = u)
    (hput : ∀ u v x, put u (put v x) = put u x) {x y : τ} (hself : put (get x) x = x) :
    (p.within get put).run x inputs = some (r, y) ↔
      ∃ u, p.run (get x) inputs = some (r, u) ∧ y = put u x := by
  induction p generalizing x inputs with
  | done a =>
      simp only [within, run_done]
      constructor
      · rintro ⟨rfl, rfl, rfl⟩; exact ⟨_, ⟨rfl, rfl, rfl⟩, hself.symm⟩
      · rintro ⟨_, ⟨rfl, rfl, rfl⟩, rfl⟩; exact ⟨rfl, rfl, hself⟩
  | fail e =>
      simp only [within, run_fail]
      constructor
      · rintro ⟨rfl, rfl, rfl⟩; exact ⟨_, ⟨rfl, rfl, rfl⟩, hself.symm⟩
      · rintro ⟨_, ⟨rfl, rfl, rfl⟩, rfl⟩; exact ⟨rfl, rfl, hself⟩
  | act st next ih =>
      simp only [within, run_act]
      constructor
      · rintro ⟨i, rest, rfl, h⟩
        obtain ⟨u, hu, rfl⟩ := (ih _ (by rw [hget, hput])).1 h
        rw [hget] at hu
        exact ⟨u, ⟨i, rest, rfl, hu⟩, hput _ _ _⟩
      · rintro ⟨u, ⟨i, rest, rfl, hu⟩, rfl⟩
        refine ⟨i, rest, rfl, (ih _ (by rw [hget, hput])).2 ⟨u, ?_, (hput _ _ _).symm⟩⟩
        rw [hget]
        exact hu

/-- **Loops with results**: one element after another, up to the first failure. -/
theorem run_collect_cons {f : α → Process ι σ ε β} {a : α} {l : List α}
    {r : Except ε (List β)} :
    (collect f (a :: l)).run s inputs = some (r, t) ↔
      (∃ b u before after, inputs = before ++ after ∧ (f a).run s before = some (.ok b, u) ∧
        ((∃ bs, (collect f l).run u after = some (.ok bs, t) ∧ r = .ok (b :: bs)) ∨
          ∃ e, (collect f l).run u after = some (.error e, t) ∧ r = .error e)) ∨
      ∃ e, (f a).run s inputs = some (.error e, t) ∧ r = .error e := by
  change (f a >>= fun b => collect f l >>= fun bs => done (b :: bs)).run s inputs = some (r, t) ↔ _
  rw [run_bind]
  refine or_congr ?_ Iff.rfl
  refine exists_congr fun b => exists_congr fun u => exists_congr fun before =>
    exists_congr fun after => and_congr_right fun _ => and_congr_right fun _ => ?_
  rw [run_bind]
  refine or_congr ?_ Iff.rfl
  constructor
  · rintro ⟨bs, v, after', more, rfl, hl, hr⟩
    obtain ⟨rfl, rfl, rfl⟩ := run_done.1 hr
    exact ⟨bs, by simpa using hl, rfl⟩
  · rintro ⟨bs, hl, rfl⟩
    exact ⟨bs, t, after, [], by simp, hl, run_done.2 ⟨rfl, rfl, rfl⟩⟩

/-- A loop that ends well, in two parts. -/
theorem run_collect_append {f : α → Process ι σ ε β} {l m : List α} {bs : List β} :
    (collect f (l ++ m)).run s inputs = some (.ok bs, t) ↔
      ∃ cs ds u before after, bs = cs ++ ds ∧ inputs = before ++ after ∧
        (collect f l).run s before = some (.ok cs, u) ∧
        (collect f m).run u after = some (.ok ds, t) := by
  induction l generalizing s inputs bs with
  | nil =>
      constructor
      · intro h; exact ⟨[], bs, s, [], inputs, rfl, rfl, run_done.2 ⟨rfl, rfl, rfl⟩, h⟩
      · rintro ⟨cs, ds, u, before, after, rfl, rfl, hl, hm⟩
        obtain ⟨rfl, hcs, rfl⟩ := run_done.1 hl
        obtain rfl : cs = [] := Except.ok.inj hcs
        exact hm
  | cons a l ih =>
      rw [List.cons_append, run_collect_cons]
      constructor
      · rintro (⟨b, u, before, after, rfl, ha, ⟨bs', hrest, hbs⟩ | ⟨e, -, hr⟩⟩ | ⟨e, -, hr⟩)
        · obtain ⟨cs, ds, v, middle, last, rfl, rfl, hl, hm⟩ := ih.1 hrest
          refine ⟨b :: cs, ds, v, before ++ middle, last, Except.ok.inj hbs, by simp, ?_, hm⟩
          exact run_collect_cons.2 (.inl ⟨b, u, before, middle, rfl, ha, .inl ⟨cs, hl, rfl⟩⟩)
        · cases hr
        · cases hr
      · rintro ⟨cs, ds, v, before, after, rfl, rfl, hl, hm⟩
        rcases run_collect_cons.1 hl with
          ⟨b, u, first, middle, rfl, ha, ⟨cs', hrest, hcs⟩ | ⟨e, -, hr⟩⟩ | ⟨e, -, hr⟩
        · obtain rfl : cs = b :: cs' := Except.ok.inj hcs
          refine .inl ⟨b, u, first, middle ++ after, by simp, ha, .inl ⟨cs' ++ ds, ?_, by simp⟩⟩
          exact ih.2 ⟨cs', ds, v, middle, after, rfl, rfl, hrest, hm⟩
        · cases hr
        · cases hr

lemma run_collect_length {f : α → Process ι σ ε β} {l : List α} {bs : List β}
    (h : (collect f l).run s inputs = some (.ok bs, t)) : bs.length = l.length := by
  induction l generalizing s inputs bs with
  | nil =>
      obtain ⟨-, hbs, -⟩ := run_done.1 h
      obtain rfl := Except.ok.inj hbs
      rfl
  | cons a l ih =>
      rcases run_collect_cons.1 h with
        ⟨b, u, before, after, -, -, ⟨bs', hrest, hbs⟩ | ⟨e, -, hr⟩⟩ | ⟨e, -, hr⟩
      · rw [Except.ok.inj hbs, List.length_cons, List.length_cons, ih hrest]
      · cases hr
      · cases hr

/-! ### Processes cut short -/

/-- The process and the state after some inputs; it may have statements left. -/
def after : Process ι σ ε α → List ι → σ → Process ι σ ε α × σ
  | act st next, i :: inputs, s => (next (st i s).1).after inputs (st i s).2
  | p, _, s => (p, s)

/-- Every input is allowed where it is taken, and so is the state where statements are left. -/
def Allowed (admits : σ → ι → Prop) (cut : σ → Prop) : Process ι σ ε α → List ι → σ → Prop
  | act st next, i :: inputs, s =>
      admits s i ∧ (next (st i s).1).Allowed admits cut inputs (st i s).2
  | act _ _, [], s => cut s
  | done _, _, _ => True
  | fail _, _, _ => True

lemma Allowed.of_ended {admits : σ → ι → Prop} {cut : σ → Prop}
    (hinputs : ∀ i ∈ inputs, ∀ u, admits u i) (hend : ¬ (p.after inputs s).1.Running) :
    p.Allowed admits cut inputs s := by
  induction p generalizing s inputs with
  | done a => exact trivial
  | fail e => exact trivial
  | act st next ih =>
      cases inputs with
      | nil => exact absurd trivial hend
      | cons i rest =>
          exact ⟨hinputs i List.mem_cons_self s, ih _ (fun j hj => hinputs j (.tail _ hj)) hend⟩

lemma Allowed.of_forall {admits : σ → ι → Prop} {cut : σ → Prop} (hadmits : ∀ u i, admits u i)
    (hcut : ∀ u, cut u) : p.Allowed admits cut inputs s := by
  induction p generalizing s inputs with
  | done a => exact trivial
  | fail e => exact trivial
  | act st next ih =>
      cases inputs with
      | nil => exact hcut s
      | cons i rest => exact ⟨hadmits s i, ih _⟩

lemma Allowed.mono {admits admits' : σ → ι → Prop} {cut : σ → Prop}
    (hadmits : ∀ u i, admits u i → admits' u i) (h : p.Allowed admits cut inputs s) :
    p.Allowed admits' cut inputs s := by
  induction p generalizing s inputs with
  | done a => exact trivial
  | fail e => exact trivial
  | act st next ih =>
      cases inputs with
      | nil => exact h
      | cons i rest => exact ⟨hadmits s i h.1, ih _ h.2⟩

/-- **A process that runs alone** under a contract ends with its postcondition, or is cut short
after statements that kept the guarantee. -/
theorem Meets.after {c : Contract ι σ Unit} {Q : Except ε α → σ × Unit → Prop} {cut : σ → Prop}
    (hrely : ∀ u, c.rely u u) (h : p.Meets c Q (s, ()))
    (hallowed : p.Allowed (fun u i => c.admits (u, ()) i) cut inputs s) :
    (∃ r, Q r ((p.after inputs s).2, ())) ∨
      (cut (p.after inputs s).2 ∧
        ((p.after inputs s).2 = s ∨ ∃ u, c.guarantee u ((p.after inputs s).2, ()))) := by
  induction p generalizing s inputs with
  | done a => exact .inl ⟨.ok a, h⟩
  | fail e => exact .inl ⟨.error e, h⟩
  | act st next ih =>
      cases inputs with
      | nil => exact .inr ⟨hallowed, .inl rfl⟩
      | cons i rest =>
          obtain ⟨hi, hrest⟩ := hallowed
          obtain ⟨g, hguar, hnext⟩ := h (s, ()) (hrely _) i hi
          rcases ih _ hnext hrest with hend | ⟨hcut, hsame | hlater⟩
          · exact .inl hend
          · refine .inr ⟨hcut, .inr ⟨(s, ()), ?_⟩⟩
            unfold Process.after
            rw [hsame]
            exact hguar
          · exact .inr ⟨hcut, .inr hlater⟩

end Process

end ShopcityLoyalty
