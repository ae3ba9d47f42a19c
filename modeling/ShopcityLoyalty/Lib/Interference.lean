import ShopcityLoyalty.Lib.Executions

/-!
Processes beside others who stay within one relation: what the relation keeps holds all along,
and what a process may write there.
-/

namespace ShopcityLoyalty

namespace Process

variable {ι σ τ ε α β : Type} {R : σ → σ → Prop} {admits : σ → ι → Prop}

/-- Every statement is within the relation, wherever the process starts. -/
abbrev Stays (R : σ → σ → Prop) (p : Process ι σ ε α) : Prop :=
  Within R (fun _ _ => True) (fun _ => True) p

lemma stays_pure (a : α) : Stays R (pure a : Process ι σ ε α) := within_done

lemma Stays.bind {p : Process ι σ ε α} {f : α → Process ι σ ε β} (hp : Stays R p)
    (hf : ∀ a, Stays R (f a)) : Stays R (p >>= f) :=
  Triple.bind hp (fun a s _ => hf a s trivial) fun _ _ _ => trivial

lemma Stays.catching {p : Process ι σ ε α} {handler : ε → Process ι σ ε α} (hp : Stays R p)
    (hhandler : ∀ e, Stays R (handler e)) : Stays R (p.catching handler) :=
  Triple.catching hp (fun _ _ _ => trivial) fun e s _ => hhandler e s trivial

lemma stays_act {st : ι → σ → β × σ} {next : β → Process ι σ ε α}
    (hst : ∀ i s, R s (st i s).2) (hnext : ∀ b, Stays R (next b)) : Stays R (act st next) :=
  within_act (J := fun _ _ => True) (fun _ _ _ _ => trivial) (fun s i _ _ => ⟨hst i s, trivial⟩)
    hnext

lemma stays_statement {st : ι → σ → α × σ} (hst : ∀ i s, R s (st i s).2) :
    Stays (ε := ε) R (statement st) :=
  stays_act hst fun _ => within_done

lemma stays_attempt {st : ι → σ → Except ε α × σ} (hst : ∀ i s, R s (st i s).2) :
    Stays R (attempt st) :=
  within_attempt (fun _ _ _ _ => trivial) fun s i _ _ => hst i s

lemma stays_ofExcept (x : Except ε α) : Stays (ι := ι) R (ofExcept x) := by
  cases x with
  | ok a => exact within_done
  | error e => exact within_fail

lemma stays_within {R : τ → τ → Prop} {get : τ → σ} {put : σ → τ → τ}
    (hput : ∀ s t, R t (put s t)) (p : Process ι σ ε α) : Stays R (p.within get put) := by
  induction p with
  | done a => exact within_done
  | fail e => exact within_fail
  | act st next ih => exact stays_act (fun i s => hput _ s) ih

/-- What the relation keeps holds after each statement of a process within it. -/
lemma Meets.keeping {I : σ → Prop} (hI : ∀ s t, I s → R s t → I t)
    {Q : Except ε α → σ × Unit → Prop} {p : Process ι σ ε α} {s : σ × Unit}
    (h : p.Meets (Contract.within R admits) Q s) (hs : I s.1) :
    p.Meets (Contract.within R admits) (fun r t => Q r t ∧ I t.1) s := by
  induction p generalizing s with
  | done a => exact ⟨h, hs⟩
  | fail e => exact ⟨h, hs⟩
  | act st next ih =>
      intro t ht i hi
      obtain ⟨g, hg, hn⟩ := h t ht i hi
      exact ⟨g, hg, ih _ hn (hI _ _ (hI _ _ hs ht) hg)⟩

/-- **What is kept** holds wherever a process within the relation ends. -/
theorem Stays.keeps {I : σ → Prop} (hI : ∀ s t, I s → R s t → I t) {p : Process ι σ ε α}
    (h : Stays R p) :
    Triple (Contract.within R fun _ _ => True) (fun s => I s.1) p fun _ s => I s.1 :=
  fun s hs => ((h s trivial).keeping hI hs).weaken fun _ _ ht => ht.2

/-! ### Writes -/

/-- Beside others who stay within a relation, the process may come to a statement that changes
the state. -/
inductive MayWrite (R : σ → σ → Prop) : Process ι σ ε α → σ → Prop
  | now {β : Type} {st : ι → σ → β × σ} {next : β → Process ι σ ε α} {s t : σ} {i : ι}
      (others : R s t) (writes : (st i t).2 ≠ t) : MayWrite R (act st next) s
  | later {β : Type} {st : ι → σ → β × σ} {next : β → Process ι σ ε α} {s t : σ} {i : ι}
      (others : R s t) (h : MayWrite R (next (st i t).1) (st i t).2) : MayWrite R (act st next) s

/-- Others stay within a relation, and the process reads. -/
def Contract.reading (R : σ → σ → Prop) : Contract ι σ Unit where
  admits _ _ := True
  rely s t := R s.1 t.1
  guarantee s t := t.1 = s.1

/-- A statement that reads, and what is done with what it read. -/
lemma Meets.read {g : ι → σ → β} {f : β → Process ι σ ε α} {Q : Except ε α → σ × Unit → Prop}
    {s : σ × Unit}
    (h : ∀ (t : σ × Unit) i, R s.1 t.1 → (f (g i t.1)).Meets (Contract.reading R) Q t) :
    (statement (fun i t => (g i t, t)) >>= f).Meets (Contract.reading R) Q s :=
  fun t ht i _ => ⟨(), rfl, h t i ht⟩

/-- **A process that reads** writes nothing, whatever the others do. -/
theorem Meets.not_mayWrite {Q : Except ε α → σ × Unit → Prop} {p : Process ι σ ε α} {s : σ}
    (h : p.Meets (Contract.reading R) Q (s, ())) : ¬ MayWrite R p s := by
  intro hwrites
  induction hwrites with
  | @now β st next s t i others writes =>
      obtain ⟨_, hread, -⟩ := h (t, ()) others i trivial
      exact writes hread
  | @later β st next s t i others _ ih =>
      obtain ⟨_, -, hnext⟩ := h (t, ()) others i trivial
      exact ih hnext

/-! ### Statements of a process -/

section statements

variable {Γ : Type}

lemma within_bind {get : τ → σ} {put : σ → τ → τ} (p : Process ι σ ε α)
    (f : α → Process ι σ ε β) :
    (p >>= f).within get put = p.within get put >>= fun a => (f a).within get put := by
  induction p with
  | done a => rfl
  | fail e => rfl
  | act st next ih =>
      change act _ _ = act _ _
      congr 1
      funext b
      exact ih b

/-- A process on a part of the state meets what its contract says of that part. -/
lemma Meets.within {c : Contract ι σ Γ} {d : Contract ι τ Γ} {get : τ → σ} {put : σ → τ → τ}
    (hget : ∀ x t, get (put x t) = x)
    (hrely : ∀ t t', d.rely t t' → c.rely (get t.1, t.2) (get t'.1, t'.2))
    (hadmits : ∀ t i, d.admits t i → c.admits (get t.1, t.2) i)
    (hguarantee : ∀ t x g, c.guarantee (get t.1, t.2) (x, g) → d.guarantee t (put x t.1, g))
    {Q : Except ε α → Prop} {p : Process ι σ ε α} {t : τ × Γ}
    (h : p.Meets c (fun r _ => Q r) (get t.1, t.2)) :
    (p.within get put).Meets d (fun r _ => Q r) t := by
  induction p generalizing t with
  | done a => exact h
  | fail e => exact h
  | act st next ih =>
      intro u hu i hi
      obtain ⟨g, hg, hn⟩ := h _ (hrely _ _ hu) i (hadmits _ _ hi)
      refine ⟨g, hguarantee _ _ _ hg, ih _ ?_⟩
      rw [hget]
      exact hn

/-- What others do does not break the contract of a process, where its postcondition does not
speak about the state. -/
lemma Meets.moved {c : Contract ι σ Γ} (hc : c.Closed) {Q : Except ε α → Prop}
    {p : Process ι σ ε α} {s t : σ × Γ} (h : p.Meets c (fun r _ => Q r) s)
    (hs : p.Running → c.rely s t) : p.Meets c (fun r _ => Q r) t := by
  cases p with
  | done a => exact h
  | fail e => exact h
  | act st next => exact h.stable hc trivial (hs trivial)

lemma meets_pure {c : Contract ι σ Γ} {Q : Except ε α → σ × Γ → Prop} {a : α} {s : σ × Γ}
    (h : Q (.ok a) s) : (pure a : Process ι σ ε α).Meets c Q s := h

/-- A statement that leaves the auxiliary state, and what is done with what it returned. -/
lemma meets_statement_bind {c : Contract ι σ Γ} {Q : Except ε β → σ × Γ → Prop}
    {st : ι → σ → α × σ} {f : α → Process ι σ ε β} {s : σ × Γ}
    (h : ∀ t, c.rely s t → ∀ i, c.admits t i →
      c.guarantee t ((st i t.1).2, t.2) ∧ (f (st i t.1).1).Meets c Q ((st i t.1).2, t.2)) :
    (statement st >>= f).Meets c Q s := by
  intro t ht i hi
  obtain ⟨hg, hn⟩ := h t ht i hi
  exact ⟨t.2, hg, hn⟩

lemma meets_transaction_bind {c : Contract ι σ Γ} {Q : Except ε β → σ × Γ → Prop}
    {m : ι → Txn σ ε α} {f : α → Process ι σ ε β} {s : σ × Γ}
    (h : ∀ t, c.rely s t → ∀ i, c.admits t i →
      (∀ a u, m i t.1 = .ok (a, u) → c.guarantee t (u, t.2) ∧ (f a).Meets c Q (u, t.2)) ∧
      ∀ e, m i t.1 = .error e → c.guarantee t t ∧ Q (.error e) t) :
    (transaction m >>= f).Meets c Q s := by
  intro t ht i hi
  obtain ⟨hok, herror⟩ := h t ht i hi
  refine ⟨t.2, ?_⟩
  cases hm : m i t.1 with
  | ok r =>
      obtain ⟨a, u⟩ := r
      simp only [hm]
      exact hok a u hm
  | error e =>
      simp only [hm]
      exact herror e hm

end statements

end Process

namespace Pool

open Process

variable {κ ι σ ε α : Type} {program : κ → Process ι σ ε α} {w w' : Pool κ ι σ ε α}
  {R : σ → σ → Prop}

/-- **One statement of one process**, where the others allow what it guarantees. -/
theorem UnderPost.advance {Γ : Type} {contract : Nat → κ → Contract ι σ Γ}
    {post : Nat → κ → Except ε α → σ × Γ → Prop} {g : Γ} {n : Nat} {k : κ} {i : ι} {β : Type}
    {st : ι → σ → β × σ} {next : β → Process ι σ ε α} (h : w.UnderPost contract post g)
    (htask : w.tasks[n]? = some (k, some (.act st next)))
    (hrefl : (contract n k).rely (w.state, g) (w.state, g))
    (hadmits : (contract n k).admits (w.state, g) i)
    (hothers : ∀ g' m l p, (contract n k).guarantee (w.state, g) ((st i w.state).2, g') → n ≠ m →
      w.tasks[m]? = some (l, some p) → p.Meets (contract m l) (post m l) (w.state, g) →
        p.Meets (contract m l) (post m l) ((st i w.state).2, g')) :
    ∃ g', (contract n k).guarantee (w.state, g) ((st i w.state).2, g') ∧
      UnderPost contract post
        ⟨(st i w.state).2, w.tasks.set n (k, some (next (st i w.state).1))⟩ g' := by
  obtain ⟨g', hguar, hnext⟩ := h n k _ htask (w.state, g) hrefl i hadmits
  refine ⟨g', hguar, fun m l p hp => ?_⟩
  rcases getElem?_set_some hp with ⟨rfl, heq⟩ | ⟨hnm, hp⟩
  · obtain ⟨hl, hq⟩ := Prod.mk.inj heq
    rw [hl, Option.some.inj hq]
    exact hnext
  · exact hothers g' m l p hguar hnm hp (h m l p hp)

/-- **The rule for one relation, with results**: every run stays within the relation, and what
the result of a process says goes on to hold where the relation keeps it. -/
theorem run_within_post (hrefl : ∀ s, R s s) (htrans : ∀ s t u, R s t → R t u → R s u)
    {post : κ → Except ε α → σ → Prop}
    (hprogram : ∀ k, Triple (Contract.within R fun _ _ => True) (fun _ => True) (program k)
      fun r s => post k r s.1)
    (hpost : ∀ k r s t, R s t → post k r s → post k r t)
    (h : w.UnderPost (fun _ _ => Contract.within R fun _ _ => True)
      (fun _ k r s => post k r s.1) ())
    (hrun : Steps program w w') :
    w'.UnderPost (fun _ _ => Contract.within R fun _ _ => True) (fun _ k r s => post k r s.1) () ∧
      R w.state w'.state := by
  have haccord : Accord program (fun _ _ => Contract.within R fun _ _ => True)
      (fun _ k r s => post k r s.1) (fun _ _ _ => True) (fun _ _ => True)
      ⟨fun _ _ => True, fun _ _ => True, fun _ _ _ => True, fun _ _ => True⟩ (fun _ => True) := by
    refine ⟨fun _ _ => ⟨fun s => hrefl s.1, fun s t u h h' => htrans _ _ _ h h'⟩, ?_, ?_, ?_, ?_,
      ?_, ?_, ?_, ?_, ?_, ?_, ?_⟩
    · exact fun _ _ _ _ _ _ _ _ _ hguar => hguar
    · exact fun _ _ _ _ _ _ => trivial
    · exact fun _ _ _ _ _ _ => trivial
    · exact fun _ k s _ _ _ => hprogram k s trivial
    · exact fun _ _ _ l r s t _ _ hguar hr => hpost l r _ _ hguar hr
    · exact fun _ _ _ _ _ => trivial
    · exact fun _ _ _ _ _ _ _ => trivial
    · exact fun _ _ _ _ _ _ _ _ _ _ => trivial
    · exact fun _ _ _ _ _ _ _ _ _ => trivial
    · exact fun _ _ _ _ _ _ => trivial
    · exact fun _ _ _ _ _ _ => trivial
  obtain ⟨⟨⟩, hkept, hR⟩ := run_kept haccord (P := fun _ _ => True)
    (fun _ _ _ => ⟨fun _ _ => ⟨fun _ _ _ => ⟨trivial, trivial⟩, trivial⟩,
      fun _ _ _ _ _ => trivial, fun _ _ _ _ => trivial⟩)
    (R := fun s t => R s.1 t.1) (fun s => hrefl s.1) (fun _ _ _ h h' => htrans _ _ _ h h')
    (fun _ _ _ _ _ hguar => hguar)
    ⟨h, fun _ _ _ _ _ _ _ => trivial, trivial, fun _ _ _ => trivial, fun _ _ => trivial⟩ hrun
  exact ⟨hkept.under, hR⟩

end Pool

end ShopcityLoyalty
