import ShopcityLoyalty.Invariants

/-!
The steps that reverse: an entry becomes reversed only in a reversal transaction that found
it unreversed, alone or as half of its settlement pair.
-/

namespace ShopcityLoyalty

open Database

/-- Nothing is reversed that was not. -/
def Plain (b c : Books) : Prop := ∀ i, c.reversed i → b.reversed i

namespace Plain

variable {b c d : Books}

lemma refl (b : Books) : Plain b b := fun _ h => h

lemma trans (h : Plain b c) (h' : Plain c d) : Plain b d := fun i hi => h i (h' i hi)

lemma append {es : List LoyaltyLedgerEntry} (hl : c.ledger = b.ledger ++ es)
    (hes : ∀ e ∈ es, e.reversesEntryId = none) : Plain b c := by
  rintro i ⟨x, hx, hi⟩
  rw [hl, List.mem_append] at hx
  rcases hx with hx | hx
  · exact ⟨x, hx, hi⟩
  · rw [hes x hx] at hi
    cases hi

lemma credit {e : LoyaltyLedgerEntry} {l : CreditLot} {as : List Adjustment}
    (h : CreditPosting e l as b c) : Plain b c := by
  have hl : c.ledger = b.ledger ++ [e] := by rw [h.books]
  refine append hl fun x hx => ?_
  obtain rfl := List.mem_singleton.1 hx
  exact h.reversesEntryId

lemma debit {e : LoyaltyLedgerEntry} {rows : List RedemptionAllocation} {target : DebitTarget}
    {as : List Adjustment} (h : DebitPosting e rows target as b c)
    (he : e.reversesEntryId = none) : Plain b c := by
  have hl : c.ledger = b.ledger ++ [e] := by rw [h.books]
  refine append hl fun x hx => ?_
  obtain rfl := List.mem_singleton.1 hx
  exact he

end Plain

lemma Plain.of_plainPosted {b c : Books} (h : Relation.ReflTransGen PlainPosted b c) :
    Plain b c := by
  induction h with
  | refl => exact .refl _
  | tail _ hlast ih =>
      cases hlast with
      | credit _ h => exact ih.trans (.credit h)
      | debit _ he h => exact ih.trans (.debit h he)

lemma CreditExpiryService.Expired.plain {s t : Database} (h : CreditExpiryService.Expired s t) :
    Plain s.books t.books := by
  obtain ⟨es, hl, hes⟩ := ledger_of_expired h.postings
  exact .append hl fun e he => (hes e he).2.2

/-! ### Reversals -/

namespace ReversalsService

variable {input : ReversalInput} {o : LoyaltyLedgerEntry} {now finishedAt : Int} {s t : Database}

/-- A reversal transaction that reversed an entry: the entry alone, or its pair. -/
inductive Reversed (input : ReversalInput) (o : LoyaltyLedgerEntry) (now finishedAt : Int)
    (s t : Database) : Nat → Prop
  | credit {lotId k l row res m} (alone : Alone input o s)
      (unreversed : ¬ s.books.reversed input.transactionId)
      (h : CreditReversed input o lotId k l row now finishedAt res m s t) :
      Reversed input o now finishedAt s t input.transactionId
  | debit {k planned rows res m w} (alone : Alone input o s)
      (unreversed : ¬ s.books.reversed input.transactionId)
      (h : DebitReversed input o k planned rows now finishedAt res m w s t) :
      Reversed input o now finishedAt s t input.transactionId
  | pair {i receiptId p lotId l row planned rows res m u w}
      (receipt : receiptOf s input.transactionId o = some receiptId)
      (found : FoundPair input receiptId p s)
      (h : PairReversed input p lotId l row planned rows now finishedAt res m u w s t)
      (half : i = p.earnId ∨ i = p.redeemId) :
      Reversed input o now finishedAt s t i

lemma reversed_of_append {b c : Books} {es : List LoyaltyLedgerEntry}
    (hl : c.ledger = b.ledger ++ es) {i : Nat} (hn : ¬ b.reversed i) (hr : c.reversed i) :
    ∃ e ∈ es, e.reversesEntryId = some i := by
  obtain ⟨x, hx, hi⟩ := hr
  rw [hl, List.mem_append] at hx
  rcases hx with hx | hx
  · exact absurd ⟨x, hx, hi⟩ hn
  · exact ⟨x, hx, hi⟩

lemma ReverseCommitted.reversed {existing : Option Response} {res : Response}
    (h : ReverseCommitted input o now finishedAt existing s t res) {i : Nat}
    (hn : ¬ s.books.reversed i) (hr : t.books.reversed i) :
    Reversed input o now finishedAt s t i := by
  cases h with
  | @credit lotId k l row res m _ halone hu h =>
      have hl : t.books.ledger = s.books.ledger ++ [compensatingEntry input o.customerId
          input.transactionId k (.request input.requestHash) now] := by
        rw [h.completed, h.compensated.frame]; rfl
      obtain ⟨e, he, hi⟩ := reversed_of_append hl hn hr
      obtain rfl := List.mem_singleton.1 he
      obtain rfl : input.transactionId = i := Option.some.inj hi
      exact .credit halone hu h
  | @debit k planned rows res m w _ halone hu h =>
      have hl : t.books.ledger = s.books.ledger ++ [restoringEntry input o.customerId
          input.transactionId k (.request input.requestHash) now] := by
        rw [h.completed, h.marked.frame, h.restored.frame]; rfl
      obtain ⟨e, he, hi⟩ := reversed_of_append hl hn hr
      obtain rfl := List.mem_singleton.1 he
      obtain rfl : input.transactionId = i := Option.some.inj hi
      exact .debit halone hu h
  | @pair receiptId p res hreceipt _ hfound h =>
      cases h with
      | @reversed lotId l row planned rows m u w _ h =>
          have hl : t.books.ledger = s.books.ledger ++ ([compensatingEntry input p.earn.customerId
              p.earnId p.earn.amountKobo (.earnReversal input.requestHash) now] ++
              [restoringEntry input p.redeem.customerId p.redeemId p.redeem.amountKobo
                (.redeemReversal input.requestHash) now]) := by
            rw [h.completed, h.marked.frame, h.restored.frame, h.compensated.frame]
            exact List.append_assoc ..
          obtain ⟨e, he, hi⟩ := reversed_of_append hl hn hr
          refine .pair hreceipt hfound h ?_
          rcases List.mem_append.1 he with he | he
          · obtain rfl := List.mem_singleton.1 he
            exact .inl (Option.some.inj hi).symm
          · obtain rfl := List.mem_singleton.1 he
            exact .inr (Option.some.inj hi).symm
      | replayed hs _ _ => exact absurd (hs ▸ hr) hn
  | replayed _ _ hs => exact absurd (hs ▸ hr) hn

end ReversalsService

/-- **What reverses an entry**: a reversal that found it unreversed. -/
theorem Outcome.reversed {rt : Runtime} {s t : Database} {op : Op} (h : Outcome rt s t op) {i : Nat}
    (hn : ¬ s.books.reversed i) (hr : t.books.reversed i) :
    ∃ input startedAt now finishedAt existing v o,
      op = .reverse input startedAt now finishedAt ∧
      ReversalsService.Opened input startedAt s existing v ∧
      ReversalsService.Selected input o v ∧
      ReversalsService.Reversed input o now finishedAt v t i := by
  cases h with
  | earn _ h => exact absurd (Plain.of_plainPosted h.plain i hr) hn
  | redeem _ h => exact absurd (Plain.of_plainPosted h.plain i hr) hn
  | @decide _ _ _ _ _ v _ hv _ h =>
      have hb : v.books = s.books := by rw [hv]; rfl
      exact absurd (hb ▸ Plain.of_plainPosted h.plain i hr) hn
  | @reverse input startedAt now finishedAt existing v o res hopen hsel h =>
      have hb : v.books = s.books := by cases hopen <;> rfl
      exact ⟨input, startedAt, now, finishedAt, existing, v, o, rfl, hopen, hsel,
        h.reversed (hb ▸ hn) hr⟩
  | adjust _ h => exact absurd (Plain.of_plainPosted h.plain i hr) hn
  | expireCredit h => exact absurd (h.plain i hr) hn
  | expireApprovals h => rw [Lapsed.books h] at hr; exact absurd hr hn
  | completeDecision h | cleanup h | cleanupAnyEndpoint h | recordDuplicate h | administer h =>
      rw [h.books] at hr
      exact absurd hr hn

end ShopcityLoyalty
