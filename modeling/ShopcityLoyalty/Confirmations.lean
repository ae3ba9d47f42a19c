import ShopcityLoyalty.Invariants

/-!
Redemptions and their debits: a REDEEM entry is written together with the confirmation of
its redemption, and the two belong together from then on.
-/

namespace ShopcityLoyalty

open Database

variable {s t u : Database}

/-- A redemption and the debit that settled it. -/
structure Settles (s : Database) (redemptionId entryId : Nat) (d : Redemption)
    (e : LoyaltyLedgerEntry) : Prop where
  redemption : s.redemptions[redemptionId]? = some d
  entry : s.ledger[entryId]? = some e
  ledgerEntryId : d.ledgerEntryId = some entryId
  tenantId : d.tenantId = e.tenantId
  customerId : d.customerId = e.customerId

/-- A redemption that has its debit keeps it. -/
def KeepsSettled (s t : Database) : Prop :=
  ∀ (j : Nat) d, s.redemptions[j]? = some d → d.ledgerEntryId ≠ none →
    ∃ d', t.redemptions[j]? = some d' ∧ d'.ledgerEntryId = d.ledgerEntryId ∧
      d'.tenantId = d.tenantId ∧ d'.customerId = d.customerId

/-- The postings of a settlement: the debit, and the credit on what is left to pay. -/
structure SettlementPostings (e : LoyaltyLedgerEntry) (rows : List RedemptionAllocation)
    (m b c : Books) : Prop where
  type : e.type = .REDEEM
  debit : ∃ redemptionId, DebitPosting e rows (.redemption redemptionId) [] b m
  earned : c = m ∨ ∃ e' l, CreditPosting e' l [] m c ∧ e'.type = .EARN ∧ e'.customer = e.customer

/-- What a transaction does with redemptions and their debits: each REDEEM entry it writes
confirms its redemption, and each allocation it writes for a redemption is for its debit. -/
structure Confirms (s t : Database) : Prop where
  ledger : ∃ es, t.ledger = s.ledger ++ es
  kept : KeepsSettled s t
  entry : ∀ {i : Nat} {e}, s.ledger.length ≤ i → t.ledger[i]? = some e → e.type = .REDEEM →
    ∃ j d, Settles t j i d e ∧ d.status = .CONFIRMED
  allocation : ∀ {k : Nat} {a j}, s.allocations.length ≤ k → t.allocations[k]? = some a →
    a.target = .redemption j → ∃ d e, Settles t j a.redemptionLedgerEntryId d e
  settlement : (∀ {i : Nat} {e}, s.ledger.length ≤ i → t.ledger[i]? = some e → e.type ≠ .REDEEM) ∨
    ∃ e rows m, SettlementPostings e rows m s.books t.books

namespace KeepsSettled

lemma refl (s : Database) : KeepsSettled s s :=
  fun _ d hd _ => ⟨d, hd, rfl, rfl, rfl⟩

lemma trans (h : KeepsSettled s t) (h' : KeepsSettled t u) : KeepsSettled s u := by
  intro j d hd hsettled
  obtain ⟨d', hd', hentry, hten, hcus⟩ := h j d hd hsettled
  obtain ⟨d'', hd'', hentry', hten', hcus'⟩ := h' j d' hd' (by rwa [hentry])
  exact ⟨d'', hd'', hentry'.trans hentry, hten'.trans hten, hcus'.trans hcus⟩

lemma append {ds : List Redemption} (h : t.redemptions = s.redemptions ++ ds) :
    KeepsSettled s t := by
  intro j d hd _
  refine ⟨d, ?_, rfl, rfl, rfl⟩
  rw [h]
  exact Table.getElem?_append hd

lemma same (h : t.redemptions = s.redemptions) : KeepsSettled s t := by
  have hnil : t.redemptions = s.redemptions ++ [] := by rw [h, List.append_nil]
  exact append hnil

lemma set {i : Nat} {d d' : Redemption} (hd : s.redemptions[i]? = some d)
    (hnone : d.ledgerEntryId = none) (h : t.redemptions = s.redemptions.set i d') :
    KeepsSettled s t := by
  intro j x hx hsettled
  have hij : i ≠ j := by
    rintro rfl
    obtain rfl : d = x := Option.some.inj (hd.symm.trans hx)
    exact hsettled hnone
  refine ⟨x, ?_, rfl, rfl, rfl⟩
  rw [h, List.getElem?_set_ne hij]
  exact hx

lemma marked {tenantId : String} {entryId : Nat} {now : Int}
    (h : ReversalsService.Marked tenantId entryId now s t) : KeepsSettled s t := by
  cases h with
  | nothing => exact .refl s
  | @redemption i d hrow _ _ _ =>
      intro j x hx _
      by_cases hij : i = j
      · subst hij
        obtain rfl : d = x := Option.some.inj (hrow.symm.trans hx)
        refine ⟨_, List.getElem?_set_self (Table.lt_of_getElem? hrow), rfl, rfl, rfl⟩
      · exact ⟨x, by rw [List.getElem?_set_ne hij]; exact hx, rfl, rfl, rfl⟩

end KeepsSettled

namespace Confirms

lemma quiet {es : List LoyaltyLedgerEntry} {rows : List RedemptionAllocation}
    (hkept : KeepsSettled s t) (hl : t.ledger = s.ledger ++ es)
    (hes : ∀ e ∈ es, e.type ≠ .REDEEM) (ha : t.allocations = s.allocations ++ rows)
    (hrows : ∀ a ∈ rows, ∀ j, a.target ≠ .redemption j) : Confirms s t where
  ledger := ⟨es, hl⟩
  kept := hkept
  entry {i e} hi he htype := by
    rw [hl, List.getElem?_append_right hi] at he
    exact absurd htype (hes e (List.mem_of_getElem? he))
  allocation {k a j} hk hak htarget := by
    rw [ha, List.getElem?_append_right hk] at hak
    exact absurd htarget (hrows a (List.mem_of_getElem? hak) j)
  settlement := by
    refine .inl fun {i e} hi he => ?_
    rw [hl, List.getElem?_append_right hi] at he
    exact hes e (List.mem_of_getElem? he)

lemma entries {es : List LoyaltyLedgerEntry} (hkept : KeepsSettled s t)
    (hl : t.ledger = s.ledger ++ es) (hes : ∀ e ∈ es, e.type ≠ .REDEEM)
    (ha : t.allocations = s.allocations) : Confirms s t := by
  have hnil : t.allocations = s.allocations ++ [] := by rw [ha, List.append_nil]
  exact quiet hkept hl hes hnil (by simp)

lemma same_rows (hkept : KeepsSettled s t) (hl : t.ledger = s.ledger)
    (ha : t.allocations = s.allocations) : Confirms s t := by
  have hnil : t.ledger = s.ledger ++ [] := by rw [hl, List.append_nil]
  exact entries hkept hnil (by simp) ha

lemma still (hr : t.redemptions = s.redemptions) (hl : t.ledger = s.ledger)
    (ha : t.allocations = s.allocations) : Confirms s t :=
  same_rows (.same hr) hl ha

lemma of_same {v : Database} (h : Confirms v t) (hr : KeepsSettled s v)
    (hb : v.books = s.books) : Confirms s t := by
  have hl : v.ledger = s.ledger := congrArg Books.ledger hb
  have ha : v.allocations = s.allocations := congrArg Books.allocations hb
  refine ⟨hl ▸ h.ledger, hr.trans h.kept, ?_, ?_, ?_⟩
  · intro i e hi
    exact h.entry (hl ▸ hi)
  · intro k a j hk
    exact h.allocation (ha ▸ hk)
  · rw [← hb, ← hl]
    exact h.settlement

lemma to_same {w : Database} (h : Confirms s w) (hr : t.redemptions = w.redemptions)
    (hb : t.books = w.books) : Confirms s t := by
  have hl : t.ledger = w.ledger := congrArg Books.ledger hb
  have ha : t.allocations = w.allocations := congrArg Books.allocations hb
  refine ⟨hl ▸ h.ledger, h.kept.trans (.same hr), ?_, ?_, ?_⟩
  · intro i e hi he htype
    rw [hl] at he
    obtain ⟨j, d, hd, hstatus⟩ := h.entry hi he htype
    exact ⟨j, d, ⟨hr ▸ hd.1, hl ▸ hd.2, hd.3, hd.4, hd.5⟩, hstatus⟩
  · intro k a j hk hak htarget
    rw [ha] at hak
    obtain ⟨d, e, hd⟩ := h.allocation hk hak htarget
    exact ⟨d, e, hr ▸ hd.1, hl ▸ hd.2, hd.3, hd.4, hd.5⟩
  · rw [hb, hl]
    exact h.settlement

lemma earned_postings {input : RedemptionSettlementInput} {k : Int} {i : Option Nat}
    {m w : Database} (h : Earned input k m w i) {k' : PositiveKobo} :
    w.books = m.books ∨ ∃ e l, CreditPosting e l [] m.books w.books ∧ e.type = .EARN ∧
      e.customer = (input.redeemEntry k').customer := by
  cases h with
  | nothing _ hw => exact .inl (by rw [hw])
  | credit _ hp _ => exact .inr ⟨_, _, hp, rfl, rfl⟩

/-- A settlement confirms its redemption. -/
lemma settled {input : RedemptionSettlementInput} {k : PositiveKobo} {r : Redemption}
    {rows : List RedemptionAllocation} {m w : Database} {res : RedemptionSettlementResult}
    (h : Settled input k r rows m w res s t) (hnone : r.ledgerEntryId = none)
    (hten : r.tenantId = input.tenantId) (hcus : r.customerId = input.customerId) :
    Confirms s t := by
  obtain ⟨es, hl, hes⟩ := h.ledger
  have hlt : input.redemptionId < s.redemptions.length := Table.lt_of_getElem? h.redemption
  have hentry : t.ledger[s.ledger.length]? = some (input.redeemEntry k) := by
    rcases hes with rfl | ⟨k', rfl⟩ <;> simp [hl]
  have hrow : t.redemptions[input.redemptionId]? = some (input.confirmed s.ledger.length r) := by
    rw [h.redemptions, List.getElem?_set_self hlt]
  have hsettles : Settles t input.redemptionId s.ledger.length
      (input.confirmed s.ledger.length r) (input.redeemEntry k) :=
    ⟨hrow, hentry, rfl, hten, hcus⟩
  refine ⟨⟨es, hl⟩, .set h.redemption hnone h.redemptions, ?_, ?_, .inr ?_⟩
  · intro i e hi he htype
    rw [hl, List.getElem?_append_right hi] at he
    have hzero : i - s.ledger.length = 0 ∧ e = input.redeemEntry k := by
      rcases hes with rfl | ⟨k', rfl⟩
      · have hlt1 : i - s.ledger.length < 1 := Table.lt_of_getElem? he
        have h0 : i - s.ledger.length = 0 := by omega
        rw [h0] at he
        exact ⟨h0, (Option.some.inj he).symm⟩
      · have hlt2 : i - s.ledger.length < 2 := Table.lt_of_getElem? he
        by_cases h0 : i - s.ledger.length = 0
        · rw [h0] at he
          exact ⟨h0, (Option.some.inj he).symm⟩
        · have h1 : i - s.ledger.length = 1 := by omega
          rw [h1] at he
          obtain rfl := Option.some.inj he
          cases htype
    obtain ⟨h0, rfl⟩ := hzero
    have hi' : i = s.ledger.length := by omega
    exact ⟨input.redemptionId, _, hi' ▸ hsettles, rfl⟩
  · intro n a j hn ha htarget
    have hall : t.allocations = s.allocations ++ rows := by rw [h.rest]
    rw [hall, List.getElem?_append_right hn] at ha
    obtain ⟨-, hent, htar⟩ := h.debit.each a (List.mem_of_getElem? ha)
    obtain rfl : input.redemptionId = j := by
      rw [htar] at htarget
      exact DebitTarget.redemption.inj htarget
    rw [hent]
    exact ⟨_, _, hsettles⟩
  · have ht : t.books = w.books := by rw [h.frame]; rfl
    refine ⟨input.redeemEntry k, rows, m.books, rfl, ⟨_, h.debit⟩, ?_⟩
    rw [ht]
    exact earned_postings h.earned

end Confirms

/-! ### Every operation -/

section operations

variable {rt : Runtime} {now finishedAt : Int}

lemma TargetExpired.kept {tenantId : String} {actor : Option StaffRef} {target : ApprovalTarget}
    {receiptId : Option Nat} (h : TargetExpired tenantId now actor s target receiptId t) :
    KeepsSettled s t := by
  cases h with
  | earn => exact .same rfl
  | redeem _ _ hrow _ hcheck => exact .set hrow hcheck.1 rfl
  | alone hrow _ hcheck => exact .set hrow hcheck.1 rfl

lemma ApprovalExpired.kept {i : Nat} {a : Approval} {tenantId : String} {target : ApprovalTarget}
    {receiptId : Option Nat} {actor : Option StaffRef} {m : Database}
    (h : ApprovalExpired i a tenantId target receiptId now actor m s t) : KeepsSettled s t := by
  have hm : KeepsSettled s m := h.target.kept
  exact hm.trans (.same (by rw [h.frame]))

lemma Confirms.of_books (hkept : KeepsSettled s t) (hb : t.books = s.books) : Confirms s t :=
  same_rows hkept (congrArg Books.ledger hb) (congrArg Books.allocations hb)

lemma Lapsed.confirms (h : Relation.ReflTransGen (Lapsed now) s t) : Confirms s t := by
  refine .of_books ?_ (Lapsed.books h)
  induction h with
  | refl => exact .refl _
  | tail _ hlast ih =>
      obtain ⟨i, a, m, hx⟩ := hlast
      exact ih.trans hx.kept

lemma LoyaltyService.EarnCommitted.confirms {req : EarnRequest} {adm : EarnAdmission}
    {ctx : EarnContext} {amount : PositiveKobo} {res : EarnTransactionResponse}
    (h : EarnCommitted rt req adm ctx amount now res s t) : Confirms s t := by
  cases h with
  | pending h => exact .still (by rw [h.frame]) (by rw [h.frame]) (by rw [h.frame])
  | @credited k l h =>
      have hl : t.ledger = s.ledger ++ [earnLedgerEntry req ctx s.receipts.length k] := by
        rw [h.frame]
      refine .entries (.same (by rw [h.frame])) hl ?_ (by rw [h.frame])
      intro e he
      obtain rfl := List.mem_singleton.1 he
      simp [earnLedgerEntry]

lemma RedemptionsService.RedeemCommitted.confirms {req : RedeemRequest} {adm : RedeemAdmission}
    {ctx : RedeemContext} {a : RedeemAssessment} {res : RedeemTransactionResponse}
    (h : RedeemCommitted rt req adm ctx a now res s t) : Confirms s t := by
  cases h with
  | pending h =>
      have hr : t.redemptions =
          s.redemptions ++ [redeemRedemption req adm ctx a s.receipts.length now] := by
        rw [h.frame]
      exact .same_rows (.append hr) (by rw [h.frame]) (by rw [h.frame])
  | @settled k r rows x v m u w h =>
      have hr : r = redeemRedemption req adm ctx a s.receipts.length now := by
        have hrow := h.settlement.redemption
        have hid : (requestedSettlement req adm ctx a s.receipts.length s.redemptions.length
          now).redemptionId = s.redemptions.length := rfl
        rw [h.captured, hid, Table.getElem?_insert_self] at hrow
        exact (Option.some.inj hrow).symm
      have hsettled : Confirms v w :=
        .settled h.settlement (by rw [hr]; rfl) (by rw [hr]; rfl) (by rw [hr]; rfl)
      have hv : v.redemptions =
          s.redemptions ++ [redeemRedemption req adm ctx a s.receipts.length now] := by
        rw [h.captured]
      have hb : v.books = s.books := by rw [h.captured]; rfl
      have hw : Confirms s w := hsettled.of_same (.append hv) hb
      exact hw.to_same (by rw [h.frame]) (by rw [h.frame]; rfl)

lemma LoyaltyService.FoundExpired.confirms {req : DecisionRequest} {a : Approval}
    {receiptId : Option Nat} (h : FoundExpired req a receiptId now s t) : Confirms s t := by
  obtain ⟨m, hx⟩ := h.expired
  exact .of_books hx.kept h.books

lemma LoyaltyService.TargetDecided.confirms (hd : Desk s) {req : DecisionRequest} {a : Approval}
    {res : DecisionResult} (hdec : LoyaltyService.Decidable req a s)
    (h : TargetDecided rt req a now s t res) : Confirms s t := by
  cases h with
  | @earn receiptId _ h =>
      cases h with
      | expired h => exact h.confirms
      | rejected h => exact .still (by rw [h.frame]) (by rw [h.frame]) (by rw [h.frame])
      | @executed r k l h =>
          have hl : t.ledger = s.ledger ++ [approvedLedgerEntry req receiptId r k] := by
            rw [h.frame]
          refine .entries (.same (by rw [h.frame])) hl ?_ (by rw [h.frame])
          intro e he
          obtain rfl := List.mem_singleton.1 he
          simp [approvedLedgerEntry]
  | @redeem redemptionId d _ hrow hten h =>
      cases h with
      | expired h => exact h.confirms
      | rejected h =>
          have hb : t.books = s.books := by rw [h.frame]; rfl
          exact .of_books (.set hrow h.stateMachine.1 (by rw [h.frame])) hb
      | @executed r k rows x v m u w h =>
          have hnone : d.ledgerEntryId = none := by
            have hc := (hd.redemption d (List.mem_of_getElem? hrow)).1
            simp only [Redemption.stateMachineCheck, h.pending.1] at hc
            exact hc.1
          have htenant : d.tenantId = req.actor.tenantId := hten.trans hdec.tenantId
          have hsettled : Confirms v w := .settled h.settlement hnone htenant rfl
          have hb : v.books = s.books := by rw [h.approved]; rfl
          have hw : Confirms s w := hsettled.of_same (.same (by rw [h.approved])) hb
          exact hw.to_same (by rw [h.frame]) (by rw [h.frame]; rfl)

namespace ReversalsService

variable {input : ReversalInput} {customerId : String} {entryId lotId : Nat} {k : PositiveKobo}
  {c : CorrelationId} {l : CreditLot} {row : RedemptionAllocation}

lemma Compensated.row_target (h : Compensated input customerId entryId lotId k c now l row s t)
    (j : Nat) : row.target ≠ .redemption j := by
  obtain ⟨-, -, htarget⟩ := h.posting.each row (List.mem_singleton.2 rfl)
  simp [htarget]

lemma CreditReversed.confirms {o : LoyaltyLedgerEntry} {res : ReversalResponse} {m : Database}
    (h : CreditReversed input o lotId k l row now finishedAt res m s t) : Confirms s t := by
  have hm := h.compensated.frame
  have hr : t.redemptions = s.redemptions := by rw [h.completed, hm]
  have hl : t.ledger = s.ledger ++ [compensatingEntry input o.customerId input.transactionId k
      (.request input.requestHash) now] := by
    rw [h.completed, hm]
  have ha : t.allocations = s.allocations ++ [row] := by rw [h.completed, hm]
  refine .quiet (.same hr) hl ?_ ha ?_
  · intro e he
    obtain rfl := List.mem_singleton.1 he
    simp [compensatingEntry]
  · intro a ha
    obtain rfl := List.mem_singleton.1 ha
    exact h.compensated.row_target

lemma DebitReversed.confirms {o : LoyaltyLedgerEntry} {planned : List PlannedRestoration}
    {rows : List AllocationRestoration} {res : ReversalResponse} {m w : Database}
    (h : DebitReversed input o k planned rows now finishedAt res m w s t) : Confirms s t := by
  have hm := h.restored.frame
  have hw := h.marked.frame
  have hsm : KeepsSettled s m := .same (by rw [hm])
  have hwt : KeepsSettled w t := .same (by rw [h.completed])
  have hl : t.ledger = s.ledger ++ [restoringEntry input o.customerId input.transactionId k
      (.request input.requestHash) now] := by
    rw [h.completed, hw, hm]
  refine .entries ((hsm.trans (.marked h.marked)).trans hwt) hl ?_ (by rw [h.completed, hw, hm])
  intro e he
  obtain rfl := List.mem_singleton.1 he
  simp [restoringEntry]

lemma PairReversed.confirms {p : SettlementPair} {planned : List PlannedRestoration}
    {rows : List AllocationRestoration} {res : ReversalResponse} {m v w : Database}
    (h : PairReversed input p lotId l row planned rows now finishedAt res m v w s t) :
    Confirms s t := by
  have hm := h.compensated.frame
  have hv := h.restored.frame
  have hw := h.marked.frame
  have hsv : KeepsSettled s v := .same (by rw [hv, hm])
  have hwt : KeepsSettled w t := .same (by rw [h.completed])
  have hl : t.ledger = s.ledger ++ ([compensatingEntry input p.earn.customerId p.earnId
      p.earn.amountKobo (.earnReversal input.requestHash) now] ++
      [restoringEntry input p.redeem.customerId p.redeemId p.redeem.amountKobo
        (.redeemReversal input.requestHash) now]) := by
    rw [h.completed, hw, hv, hm]
    exact List.append_assoc ..
  have ha : t.allocations = s.allocations ++ [row] := by rw [h.completed, hw, hv, hm]
  refine .quiet ((hsv.trans (.marked h.marked)).trans hwt) hl ?_ ha ?_
  · intro e he
    rcases List.mem_cons.1 he with rfl | he
    · simp [compensatingEntry]
    · obtain rfl := List.mem_singleton.1 he
      simp [restoringEntry]
  · intro a ha
    obtain rfl := List.mem_singleton.1 ha
    exact h.compensated.row_target

lemma ReverseCommitted.confirms {o : LoyaltyLedgerEntry} {existing : Option Response}
    {res : Response} (h : ReverseCommitted input o now finishedAt existing s t res) :
    Confirms s t := by
  cases h with
  | credit _ _ _ h => exact h.confirms
  | debit _ _ _ h => exact h.confirms
  | pair _ _ _ h =>
      cases h with
      | reversed _ h => exact h.confirms
      | replayed hs _ _ => exact hs ▸ .still rfl rfl rfl
  | replayed _ _ hs => exact hs ▸ .still rfl rfl rfl

end ReversalsService

lemma AdjustmentsService.AdjustmentCommitted.confirms {req : AdjustmentRequest}
    {res : AdjustmentResponse} (h : AdjustmentCommitted req finishedAt res s t) :
    Confirms s t := by
  have hentry : ∀ e ∈ [adjustmentEntry req], e.type ≠ .REDEEM := by
    intro e he
    obtain rfl := List.mem_singleton.1 he
    simp [adjustmentEntry]
  cases h with
  | credit h =>
      have hl : t.ledger = s.ledger ++ [adjustmentEntry req] := by rw [h.frame]
      exact .entries (.same (by rw [h.frame])) hl hentry (by rw [h.frame])
  | @debit rows h =>
      have hl : t.ledger = s.ledger ++ [adjustmentEntry req] := by rw [h.frame]
      have ha : t.allocations = s.allocations ++ rows := by rw [h.frame]
      refine .quiet (.same (by rw [h.frame])) hl hentry ha fun a ha j => ?_
      obtain ⟨-, -, htarget⟩ := h.posting.each a ha
      simp [htarget]

lemma CreditExpiryService.Expired.confirms (h : CreditExpiryService.Expired s t) :
    Confirms s t := by
  obtain ⟨es, hl, hall⟩ := ledger_of_expired h.postings
  refine .entries (.same (by rw [h.frame])) hl ?_ (by rw [h.frame])
  intro e he
  simp [(hall e he).1]

lemma RecordsOnly.confirms (h : RecordsOnly s t) : Confirms s t :=
  .still (by rw [h.frame]) (by rw [h.frame]) (by rw [h.frame])

/-- **Every operation** confirms the redemptions it settles, and no others. -/
theorem Outcome.confirms {op : Op} (hd : Desk s) (h : Outcome rt s t op) : Confirms s t := by
  cases h with
  | earn _ h => exact h.confirms
  | redeem _ h => exact h.confirms
  | @decide _ _ _ _ _ v _ hv hdec h =>
      have hmove : Move s v := .same (by rw [hv]) (by rw [hv]) (by rw [hv]) (by rw [hv])
      exact (h.confirms (hd.move hmove) hdec).of_same (.same (by rw [hv])) (by rw [hv]; rfl)
  | @reverse _ _ _ _ _ v _ _ hopen _ h =>
      have hv : v.redemptions = s.redemptions ∧ v.books = s.books := by
        cases hopen <;> exact ⟨rfl, rfl⟩
      exact h.confirms.of_same (.same hv.1) hv.2
  | adjust _ h => exact h.confirms
  | expireCredit h => exact h.confirms
  | expireApprovals h => exact Lapsed.confirms h
  | completeDecision h | cleanup h | cleanupAnyEndpoint h | recordDuplicate h | administer h =>
      exact h.confirms

end operations

/-! ### Reachable states -/

/-- Every REDEEM entry has its redemption, and so has every allocation for a redemption. -/
structure Linked (s : Database) : Prop where
  entry : ∀ {i : Nat} {e}, s.ledger[i]? = some e → e.type = .REDEEM → ∃ j d, Settles s j i d e
  allocation : ∀ {k : Nat} {a j}, s.allocations[k]? = some a → a.target = .redemption j →
    ∃ d e, Settles s j a.redemptionLedgerEntryId d e

lemma Settles.kept {j i : Nat} {d : Redemption} {e : LoyaltyLedgerEntry} (h : Settles s j i d e)
    (hc : Confirms s t) : ∃ d', Settles t j i d' e := by
  obtain ⟨es, hl⟩ := hc.ledger
  obtain ⟨d', hd', hentry, hten, hcus⟩ := hc.kept j d h.redemption (by simp [h.ledgerEntryId])
  refine ⟨d', hd', ?_, hentry.trans h.ledgerEntryId, hten.trans h.tenantId, hcus.trans h.customerId⟩
  rw [hl]
  exact Table.getElem?_append h.entry

lemma Linked.step (h : Linked s) (hc : Confirms s t)
    (hold : ∀ k, k < s.allocations.length → t.allocations[k]? = s.allocations[k]?) : Linked t := by
  obtain ⟨es, hl⟩ := hc.ledger
  constructor
  · intro i e he htype
    by_cases hi : i < s.ledger.length
    · rw [hl, List.getElem?_append_left hi] at he
      obtain ⟨j, d, hd⟩ := h.entry he htype
      obtain ⟨d', hd'⟩ := hd.kept hc
      exact ⟨j, d', hd'⟩
    · obtain ⟨j, d, hd, -⟩ := hc.entry (by omega) he htype
      exact ⟨j, d, hd⟩
  · intro k a j ha htarget
    by_cases hk : k < s.allocations.length
    · rw [hold k hk] at ha
      obtain ⟨d, e, hd⟩ := h.allocation ha htarget
      obtain ⟨d', hd'⟩ := hd.kept hc
      exact ⟨d', e, hd'⟩
    · exact hc.allocation (by omega) ha htarget

lemma Books.Grows.old_allocations {b c : Books} (h : Grows b c) {k : Nat}
    (hk : k < b.allocations.length) : c.allocations[k]? = b.allocations[k]? := by
  have hb : b.allocations[k]? = some b.allocations[k] := List.getElem?_eq_getElem hk
  rw [hb]
  exact h.allocations hb

lemma Linked.initial (registry : Registry) : Linked (Database.initial registry) :=
  ⟨fun h => (by cases h), fun h => (by cases h)⟩

lemma Outcome.linked {rt : Runtime} {op : Op} (hs : Invariants s) (h : Linked s)
    (ho : Outcome rt s t op) : Linked t :=
  h.step (ho.confirms hs.desk) fun _ hk =>
    (Books.grows_of_postings ho.postings).old_allocations hk

theorem Reachable.linked {rt : Runtime} {s : System} (h : Reachable rt s) : Linked s.db := by
  obtain ⟨registry, hrun⟩ := h
  have hboth : Invariants s.db ∧ Linked s.db := by
    refine hrun.invariant (I := fun s => Invariants s.db ∧ Linked s.db) ?_
      ⟨.initial registry, .initial registry⟩
    intro op s t _ ⟨hs, hlinked⟩ hstep
    have hout := hstep.outcome hs.books.sound
    exact ⟨hs.outcome hout, hout.linked hs hlinked⟩
  exact hboth.2

end ShopcityLoyalty
