import ShopcityLoyalty.LotMoves

/-!
The books: ledger, lots and the evidence rows, apart from the rest of the database.

Whatever an operation does to the books is a sequence of four postings, each of one ledger
entry with all of its evidence: a credit with its lot, a debit with its allocations, a
restoration of a debit, the expiry of a lot. Every invariant of the books is derived from
what a posting says here.
-/

namespace ShopcityLoyalty

open Database

structure Books where
  ledger : Table LoyaltyLedgerEntry
  lots : Table CreditLot
  expiries : Table CreditExpiry
  allocations : Table RedemptionAllocation
  restorations : Table AllocationRestoration
  adjustments : Table Adjustment

def Database.books (s : Database) : Books where
  ledger := s.ledger
  lots := s.lots
  expiries := s.expiries
  allocations := s.allocations
  restorations := s.restorations
  adjustments := s.adjustments

/-- The adjustment row of an ADJUSTMENT entry. -/
structure IsAdjustmentOf (entryId : Nat) (e : LoyaltyLedgerEntry) (a : Adjustment) : Prop where
  tenantId : a.tenantId = e.tenantId
  customerId : a.customerId = e.customerId
  kind : a.kind = e.direction
  amountKobo : a.amountKobo = e.amountKobo
  ledgerEntryId : a.ledgerEntryId = entryId
  effectiveAt : a.effectiveAt = e.effectiveAt

/-- What an entry stands on: a receipt when its type is `onReceipt`, else an adjustment. -/
inductive Backed (onReceipt : LedgerEntryType) (entryId : Nat) (e : LoyaltyLedgerEntry) :
    List Adjustment → Prop
  | receipt (type : e.type = onReceipt) (receiptId : e.receiptId ≠ none) :
      Backed onReceipt entryId e []
  | adjustment {a : Adjustment} (type : e.type = .ADJUSTMENT) (receiptId : e.receiptId = none)
      (row : IsAdjustmentOf entryId e a) : Backed onReceipt entryId e [a]

/-- Whether some entry reverses the entry of an id. -/
def Books.reversed (b : Books) (entryId : Nat) : Prop :=
  ∃ x ∈ b.ledger, x.reversesEntryId = some entryId

/-- What the restorations of an allocation add up to. -/
def Books.restoredAmount (b : Books) (allocationId : Nat) : Int :=
  b.restorations.tally (fun r => r.allocationId = allocationId) (·.amountKobo)

/-- Whether a restoration belongs to an allocation on a lot. -/
def Books.restoresLot (b : Books) (lotId : Nat) (r : AllocationRestoration) : Prop :=
  ∃ a ∈ b.allocations[r.allocationId]?, a.creditLotId = lotId

instance (b : Books) (lotId : Nat) : DecidablePred (b.restoresLot lotId) := fun r => by
  unfold Books.restoresLot; infer_instance

/-- A credit and its lot. -/
structure CreditPosting (e : LoyaltyLedgerEntry) (l : CreditLot) (adjustments : List Adjustment)
    (b c : Books) : Prop where
  direction : e.direction = .CREDIT
  reversesEntryId : e.reversesEntryId = none
  backed : Backed .EARN b.ledger.length e adjustments
  lot : Whole e.tenantId e.customerId b.ledger.length e.amountKobo e.effectiveAt l.expiresAt l
  books : c = { b with
    ledger := b.ledger ++ [e], lots := b.lots ++ [l], adjustments := b.adjustments ++ adjustments }

/-- The debit of a reversed credit: it takes the credit's whole lot. -/
structure Compensates (b : Books) (e : LoyaltyLedgerEntry) (creditEntryId : Nat)
    (rows : List RedemptionAllocation) : Prop where
  credit : ∃ o, b.ledger[creditEntryId]? = some o ∧ o.direction = .CREDIT ∧
    (o.type = .EARN ∨ o.type = .ADJUSTMENT) ∧ o.tenantId = e.tenantId ∧ o.customerId = e.customerId
  unreversed : ¬ b.reversed creditEntryId
  adjustment : e.type = .ADJUSTMENT
  whole : ∃ lotId l r, b.lots[lotId]? = some l ∧ l.earnLedgerEntryId = creditEntryId ∧
    l.remainingAmountKobo = l.originalAmountKobo ∧ rows = [r] ∧ r.creditLotId = lotId ∧
    r.amountKobo = l.originalAmountKobo ∧ r.allocationOrder = 1

/-- A debit and its allocations. -/
structure DebitPosting (e : LoyaltyLedgerEntry) (rows : List RedemptionAllocation)
    (target : DebitTarget) (adjustments : List Adjustment) (b c : Books) : Prop where
  direction : e.direction = .DEBIT
  backed : Backed .REDEEM b.ledger.length e adjustments
  reverses : ∀ o, e.reversesEntryId = some o → Compensates b e o rows
  serves : match target with
    | .redemption _ => e.type = .REDEEM
    | .adjustment adjustmentId => e.type = .ADJUSTMENT ∧ adjustmentId = b.adjustments.length
  each : ∀ r ∈ rows, r.tenantId = e.tenantId ∧ r.redemptionLedgerEntryId = b.ledger.length ∧
    r.target = target
  onLots : ∀ r ∈ rows, ∃ l, b.lots[r.creditLotId]? = some l ∧ l.tenantId = e.tenantId ∧
    l.customerId = e.customerId
  nodup : (rows.map (·.creditLotId)).Nodup
  total : (rows.map fun r => (r.amountKobo : Int)).sum = e.amountKobo
  moved : Moved (fun i => -Table.tally rows (fun r => r.creditLotId = i) (·.amountKobo))
    b.lots c.lots
  books : c = { b with
    ledger := b.ledger ++ [e], lots := c.lots, allocations := b.allocations ++ rows
    adjustments := b.adjustments ++ adjustments }

/-- The credit of a reversed debit: it restores what is left of each of its allocations. -/
structure RestorePosting (e : LoyaltyLedgerEntry) (debitEntryId : Nat)
    (rows : List AllocationRestoration) (b c : Books) : Prop where
  type : e.type = .REVERSAL
  direction : e.direction = .CREDIT
  receiptId : e.receiptId = none
  reversesEntryId : e.reversesEntryId = some debitEntryId
  debit : ∃ o, b.ledger[debitEntryId]? = some o ∧ o.direction = .DEBIT ∧
    (o.type = .REDEEM ∨ o.type = .ADJUSTMENT) ∧ o.tenantId = e.tenantId ∧
      o.customerId = e.customerId
  unreversed : ¬ b.reversed debitEntryId
  each : ∀ r ∈ rows, r.tenantId = e.tenantId ∧ r.reversalLedgerEntryId = b.ledger.length ∧
    ∃ a, b.allocations[r.allocationId]? = some a ∧ a.redemptionLedgerEntryId = debitEntryId ∧
      (r.amountKobo : Int) = a.amountKobo - b.restoredAmount r.allocationId
  complete : ∀ {i : Nat} {a}, b.allocations[i]? = some a → a.tenantId = e.tenantId →
    a.redemptionLedgerEntryId = debitEntryId → 0 < a.amountKobo - b.restoredAmount i →
    ∃ r ∈ rows, r.allocationId = i
  nodup : (rows.map (·.allocationId)).Nodup
  total : (rows.map fun r => (r.amountKobo : Int)).sum = e.amountKobo
  moved : Moved (fun i => Table.tally rows (b.restoresLot i) (·.amountKobo)) b.lots c.lots
  books : c = { b with
    ledger := b.ledger ++ [e], lots := c.lots, restorations := b.restorations ++ rows }

/-- The expiry of what is left of a lot. -/
structure ExpiryPosting (e : LoyaltyLedgerEntry) (x : CreditExpiry) (b c : Books) : Prop where
  type : e.type = .EXPIRY
  direction : e.direction = .DEBIT
  receiptId : e.receiptId = none
  reversesEntryId : e.reversesEntryId = none
  lot : ∃ l, b.lots[x.creditLotId]? = some l ∧ l.tenantId = e.tenantId ∧
    l.customerId = e.customerId ∧ l.expiresAt = e.effectiveAt
  row : x.tenantId = e.tenantId ∧ x.customerId = e.customerId ∧ x.amountKobo = e.amountKobo ∧
    x.ledgerEntryId = b.ledger.length ∧ x.expiredAt = e.effectiveAt
  once : ∀ y ∈ b.expiries, y.creditLotId ≠ x.creditLotId
  moved : Moved (fun i => if x.creditLotId = i then -(x.amountKobo : Int) else 0) b.lots c.lots
  books : c = { b with
    ledger := b.ledger ++ [e], lots := c.lots, expiries := b.expiries ++ [x] }

inductive Posted (b c : Books) : Prop
  | credit {e l as} (h : CreditPosting e l as b c)
  | debit {e rows target as} (h : DebitPosting e rows target as b c)
  | restore {e o rows} (h : RestorePosting e o rows b c)
  | expiry {e x} (h : ExpiryPosting e x b c)

/-- Any number of postings. -/
abbrev Postings := Relation.ReflTransGen Posted

/-- Whether an entry is named as the expiry of a lot. -/
def LoyaltyLedgerEntry.isExpiryOf (e : LoyaltyLedgerEntry) (creditLotId : Nat) : Prop :=
  e.correlationId = .creditExpiry creditLotId

/-- A posting that neither reverses an entry nor expires a lot. -/
inductive PlainPosted (b c : Books) : Prop
  | credit {e l as} (name : ∀ i, ¬ e.isExpiryOf i) (h : CreditPosting e l as b c)
  | debit {e rows target as} (name : ∀ i, ¬ e.isExpiryOf i) (reverses : e.reversesEntryId = none)
      (h : DebitPosting e rows target as b c)

/-- A posting that expires no lot and restores none that is expired at `now`. -/
inductive LivePosted (now : Int) (b c : Books) : Prop
  | credit {e l as} (name : ∀ i, ¬ e.isExpiryOf i) (h : CreditPosting e l as b c)
  | debit {e rows target as} (name : ∀ i, ¬ e.isExpiryOf i) (h : DebitPosting e rows target as b c)
  | restore {e o rows} (name : ∀ i, ¬ e.isExpiryOf i) (h : RestorePosting e o rows b c)
      (unexpired : ∀ r ∈ rows, ∀ i, b.restoresLot i r → ∃ l, b.lots[i]? = some l ∧
        now < l.expiresAt)

variable {b c : Books} {now : Int}

lemma PlainPosted.live (h : PlainPosted b c) : LivePosted now b c := by
  cases h with
  | credit name h => exact .credit name h
  | debit name _ h => exact .debit name h

lemma LivePosted.posted (h : LivePosted now b c) : Posted b c := by
  cases h with
  | credit _ h => exact .credit h
  | debit _ h => exact .debit h
  | restore _ h _ => exact .restore h

lemma live_of_plain (h : Relation.ReflTransGen PlainPosted b c) :
    Relation.ReflTransGen (LivePosted now) b c :=
  Relation.ReflTransGen.mono (fun _ _ hp => hp.live) _ _ h

lemma postings_of_live (h : Relation.ReflTransGen (LivePosted now) b c) : Postings b c :=
  Relation.ReflTransGen.mono (fun _ _ hp => hp.posted) _ _ h

lemma postings_of_plain (h : Relation.ReflTransGen PlainPosted b c) : Postings b c := by
  have hl : Relation.ReflTransGen (LivePosted 0) b c := live_of_plain h
  exact postings_of_live hl

end ShopcityLoyalty
