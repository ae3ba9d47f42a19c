import ShopcityLoyalty.System

/-!
What holds in every reachable state: the books balance, every approval is filed, and the
entries of one receipt are reversed together.
-/

namespace ShopcityLoyalty

open Database

/-- Entries reverse earlier ones, and the entries on one receipt are reversed together. -/
structure Together (s : Database) : Prop where
  existing : ∀ e ∈ s.ledger, ∀ i, e.reversesEntryId = some i → i < s.ledger.length
  together : ∀ {i j : Nat} {o x k}, s.ledger[i]? = some o → s.ledger[j]? = some x →
    o.receiptId = some k → x.receiptId = some k → s.books.reversed i → s.books.reversed j

namespace Together

variable {s t : Database} {es : List LoyaltyLedgerEntry}

lemma reversed_append (hl : t.ledger = s.ledger ++ es) {i : Nat} :
    t.books.reversed i ↔ s.books.reversed i ∨ ∃ e ∈ es, e.reversesEntryId = some i := by
  simp only [Books.reversed, Database.books, hl, List.mem_append, or_and_right, exists_or]

lemma lt_of_reversed (h : Together s) {i : Nat} (hr : s.books.reversed i) :
    i < s.ledger.length := by
  obtain ⟨e, he, hi⟩ := hr
  exact h.existing e he i hi

/-- Entries that reverse nothing, on a receipt without entries. -/
lemma added (h : Together s) {k : Nat} (hl : t.ledger = s.ledger ++ es)
    (hes : ∀ e ∈ es, e.receiptId = some k ∧ e.reversesEntryId = none)
    (hk : ∀ e ∈ s.ledger, e.receiptId ≠ some k) : Together t := by
  have hrev : ∀ i, t.books.reversed i ↔ s.books.reversed i := by
    intro i
    rw [reversed_append hl]
    constructor
    · rintro (hr | ⟨e, he, hr⟩)
      · exact hr
      · rw [(hes e he).2] at hr; cases hr
    · exact .inl
  constructor
  · intro e he i hi
    have hold : s.books.reversed i := (hrev i).1 ⟨e, he, hi⟩
    have hlt := h.lt_of_reversed hold
    rw [hl, List.length_append]
    omega
  · intro i j o x n ho hx hon hxn hr
    have hr' := (hrev i).1 hr
    have ho' : s.ledger[i]? = some o := by
      rw [hl, List.getElem?_append_left (h.lt_of_reversed hr')] at ho
      exact ho
    refine (hrev j).2 ?_
    rw [hl] at hx
    rcases Table.of_getElem?_append hx with hx' | ⟨-, hx'⟩
    · exact h.together ho' hx' hon hxn hr'
    · have hne := hk o (List.mem_of_getElem? ho')
      rw [(hes x hx').1] at hxn
      exact absurd (hon.trans hxn.symm) hne

lemma captured (h : Together s) (hd : Desk s) {r : Receipt} {ds : List Redemption}
    {as : List Approval} (hc : Captured r ds as es s t) : Together t := by
  refine h.added hc.ledger hc.entries fun e he hk => ?_
  have hlt := hd.entry e he _ hk
  omega

lemma decided (h : Together s) (hd : Desk s) {i k : Nat} {a a' : Approval} {r r' : Receipt}
    (hc : Decided i a a' k r r' es s t) : Together t := by
  refine h.added hc.ledger hc.entries fun e he hk => ?_
  obtain ⟨k', x, hfile⟩ := hd.file hc.approval
  obtain rfl : k' = k := Option.some.inj (hfile.subject.symm.trans hc.subject)
  have hnone : s.effects k' = [] := by
    have hf := hfile.filed
    rw [hc.pending] at hf
    exact hf.of_pending.2.1
  have hmem : e ∈ s.ledger.filter fun e => e.receiptId = some k' := by
    simpa using ⟨he, hk⟩
  have hnil : s.ledger.filter (fun e => e.receiptId = some k') = [] := by
    simpa [Database.effects] using hnone
  rw [hnil] at hmem
  cases hmem

lemma unreceipted (h : Together s) {ids : List Nat} (hc : Unreceipted ids es s t) :
    Together t := by
  have hrev : ∀ i, t.books.reversed i ↔ s.books.reversed i ∨ i ∈ ids := by
    intro i
    rw [reversed_append hc.ledger, hc.reverses i]
  have hlt : ∀ i, t.books.reversed i → i < s.ledger.length := by
    intro i hr
    rcases (hrev i).1 hr with hr | hr
    · exact h.lt_of_reversed hr
    · exact hc.existing i hr
  constructor
  · intro e he i hi
    have := hlt i ⟨e, he, hi⟩
    rw [hc.ledger, List.length_append]
    omega
  · intro i j o x n ho hx hon hxn hr
    have ho' : s.ledger[i]? = some o := by
      rw [hc.ledger, List.getElem?_append_left (hlt i hr)] at ho
      exact ho
    rw [hc.ledger] at hx
    rcases Table.of_getElem?_append hx with hx' | ⟨-, hx'⟩
    · refine (hrev j).2 ?_
      rcases (hrev i).1 hr with hr | hr
      · exact .inl (h.together ho' hx' hon hxn hr)
      · exact .inr (hc.closed i hr o n ho' hon j x hx' hxn)
    · rw [hc.entries x hx'] at hxn
      cases hxn

theorem move (h : Together s) (hd : Desk s) (hm : Move s t) : Together t := by
  cases hm with
  | captured hc => exact h.captured hd hc
  | decided hc => exact h.decided hd hc
  | unreceipted hc => exact h.unreceipted hc

lemma initial (registry : Registry) : Together (Database.initial registry) :=
  ⟨fun _ he => (by cases he), fun ho => (by cases ho)⟩

end Together

/-- What every committed transaction keeps. -/
structure Invariants (s : Database) : Prop where
  books : s.books.Balanced
  desk : Desk s
  together : Together s

namespace Invariants

variable {s t : Database}

lemma moves (h : Invariants s) (hm : Relation.ReflTransGen Move s t) : Desk t ∧ Together t := by
  induction hm with
  | refl => exact ⟨h.desk, h.together⟩
  | tail _ hm ih => exact ⟨ih.1.move hm, ih.2.move ih.1 hm⟩

lemma outcome (h : Invariants s) {rt : Runtime} {op : Op} (ho : Outcome rt s t op) :
    Invariants t := by
  obtain ⟨hdesk, htogether⟩ := h.moves (ho.moves h.desk)
  exact ⟨h.books.postings ho.postings, hdesk, htogether⟩

lemma initial (registry : Registry) : Invariants (Database.initial registry) where
  books := by
    refine ⟨?_, fun h => (by cases h), ?_⟩
    · constructor
      case lot_once | restoration_once | expiry_once | lapse_once | adjustment_once |
          reversal_once => exact List.nodup_nil
      all_goals intro _ _ h; cases h
    · constructor
      case balance => intro a; rfl
      all_goals intro l hl; simp [Books.toLotBook, Database.books, Database.initial] at hl
  desk := .initial registry
  together := .initial registry

end Invariants

variable {rt : Runtime} {op : Op} {s t : System}

lemma Step.invariants (hs : Invariants s.db) (h : Step rt op s t) : Invariants t.db :=
  hs.outcome (h.outcome hs.books.sound)

lemma Step.grows (hs : Invariants s.db) (h : Step rt op s t) :
    Books.Grows s.db.books t.db.books :=
  Books.grows_of_postings (h.outcome hs.books.sound).postings

lemma Steps.postings (hs : Invariants s.db) (h : Steps rt s t) :
    Postings s.db.books t.db.books := by
  have hkeep : ∀ {u v : System} {op : Op}, Invariants u.db ∧ Postings s.db.books u.db.books →
      Step rt op u v → Invariants v.db ∧ Postings s.db.books v.db.books := by
    intro u v op ⟨hu, hpost⟩ hstep
    have hout := hstep.outcome hu.books.sound
    exact ⟨hu.outcome hout, Relation.ReflTransGen.trans hpost hout.postings⟩
  exact (h.invariant (I := fun u => Invariants u.db ∧ Postings s.db.books u.db.books)
    (fun _ hu hstep => hkeep hu hstep) ⟨hs, .refl⟩).2

/-- **Every reachable state.** -/
theorem Reachable.invariants (h : Reachable rt s) : Invariants s.db := by
  obtain ⟨registry, hrun⟩ := h
  exact hrun.invariant (I := fun s => Invariants s.db) (fun _ hs hst => hst.invariants hs)
    (.initial registry)

end ShopcityLoyalty
