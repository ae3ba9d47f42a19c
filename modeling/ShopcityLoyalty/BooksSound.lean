import ShopcityLoyalty.Books

/-!
What every sequence of postings keeps: each entry has its evidence, each evidence row its
entry, and nothing is used twice.
-/

namespace ShopcityLoyalty

open Database

/-- A lot and the credit it was opened for. -/
structure IsLotOf (e : LoyaltyLedgerEntry) (l : CreditLot) : Prop where
  direction : e.direction = .CREDIT
  type : e.type = .EARN ∨ e.type = .ADJUSTMENT
  tenantId : l.tenantId = e.tenantId
  customerId : l.customerId = e.customerId
  amountKobo : l.originalAmountKobo = e.amountKobo
  earnedAt : l.earnedAt = e.effectiveAt

lemma IsLotOf.same {e : LoyaltyLedgerEntry} {l l' : CreditLot} (h : IsLotOf e l)
    (hs : SameLot l l') : IsLotOf e l' :=
  ⟨h.1, h.2, hs.1.trans h.3, hs.2.trans h.4, hs.4.trans h.5, hs.5.trans h.6⟩

namespace Books

/-! ### Rows and their entries -/

def LotSourced (b : Books) (l : CreditLot) : Prop :=
  ∃ e, b.ledger[l.earnLedgerEntryId]? = some e ∧ IsLotOf e l

/-- The adjustment an allocation names is the one of its entry. -/
def Serves (b : Books) (e : LoyaltyLedgerEntry) (a : RedemptionAllocation) : Prop :=
  match a.target with
  | .redemption _ => e.type = .REDEEM
  | .adjustment j => e.type = .ADJUSTMENT ∧
      ∃ x, b.adjustments[j]? = some x ∧ x.ledgerEntryId = a.redemptionLedgerEntryId

structure AllocationSourced (b : Books) (a : RedemptionAllocation) (e : LoyaltyLedgerEntry)
    (l : CreditLot) : Prop where
  entry : b.ledger[a.redemptionLedgerEntryId]? = some e
  direction : e.direction = .DEBIT
  type : e.type = .REDEEM ∨ e.type = .ADJUSTMENT
  tenantId : a.tenantId = e.tenantId
  serves : b.Serves e a
  lot : b.lots[a.creditLotId]? = some l
  lot_tenantId : l.tenantId = e.tenantId
  lot_customerId : l.customerId = e.customerId

structure RestorationSourced (b : Books) (r : AllocationRestoration) (e : LoyaltyLedgerEntry)
    (a : RedemptionAllocation) : Prop where
  entry : b.ledger[r.reversalLedgerEntryId]? = some e
  type : e.type = .REVERSAL
  tenantId : r.tenantId = e.tenantId
  allocation : b.allocations[r.allocationId]? = some a
  reverses : e.reversesEntryId = some a.redemptionLedgerEntryId
  amountKobo : r.amountKobo = a.amountKobo

structure ExpirySourced (b : Books) (x : CreditExpiry) (e : LoyaltyLedgerEntry)
    (l : CreditLot) : Prop where
  entry : b.ledger[x.ledgerEntryId]? = some e
  type : e.type = .EXPIRY
  tenantId : x.tenantId = e.tenantId
  customerId : x.customerId = e.customerId
  amountKobo : x.amountKobo = e.amountKobo
  expiredAt : x.expiredAt = e.effectiveAt
  lot : b.lots[x.creditLotId]? = some l
  lot_tenantId : l.tenantId = e.tenantId
  lot_customerId : l.customerId = e.customerId
  lot_expiresAt : l.expiresAt = e.effectiveAt

structure AdjustmentSourced (b : Books) (a : Adjustment) (e : LoyaltyLedgerEntry) : Prop where
  entry : b.ledger[a.ledgerEntryId]? = some e
  type : e.type = .ADJUSTMENT
  row : IsAdjustmentOf a.ledgerEntryId e a

/-! ### Entries and their evidence -/

/-- What the allocations of an entry add up to. -/
def charged (b : Books) (entryId : Nat) : Int :=
  b.allocations.tally (fun a => a.redemptionLedgerEntryId = entryId) (·.amountKobo)

/-- What the restorations of an entry add up to. -/
def putBack (b : Books) (entryId : Nat) : Int :=
  b.restorations.tally (fun r => r.reversalLedgerEntryId = entryId) (·.amountKobo)

/-- An entry on a receipt, or with its adjustment. -/
def Backing (b : Books) (onReceipt : LedgerEntryType) (entryId : Nat) (e : LoyaltyLedgerEntry) :
    Prop :=
  (e.type = onReceipt ∧ e.receiptId ≠ none) ∨
    (e.type = .ADJUSTMENT ∧ e.receiptId = none ∧
      ∃ (j : Nat) (a : Adjustment), b.adjustments[j]? = some a ∧ IsAdjustmentOf entryId e a)

/-- The compensation of a credit is one allocation, of the credit's whole lot. -/
structure Compensation (b : Books) (entryId creditEntryId lotId : Nat) (l : CreditLot) (k : Nat)
    (a : RedemptionAllocation) : Prop where
  lot : b.lots[lotId]? = some l
  earned : l.earnLedgerEntryId = creditEntryId
  allocation : b.allocations[k]? = some a
  entry : a.redemptionLedgerEntryId = entryId
  onLot : a.creditLotId = lotId
  amountKobo : a.amountKobo = l.originalAmountKobo
  allocationOrder : a.allocationOrder = 1
  only : ∀ {k' : Nat} {a'}, b.allocations[k']? = some a' →
    a'.redemptionLedgerEntryId = entryId → k' = k

/-- The entry another one reverses: of the same customer, and the other way. -/
structure Reverses (b : Books) (e : LoyaltyLedgerEntry) (originalId : Nat)
    (o : LoyaltyLedgerEntry) : Prop where
  entry : b.ledger[originalId]? = some o
  tenantId : o.tenantId = e.tenantId
  customerId : o.customerId = e.customerId
  direction : o.direction ≠ e.direction

inductive Evidenced (b : Books) (i : Nat) (e : LoyaltyLedgerEntry) : Prop
  | credit (direction : e.direction = .CREDIT) (reverses : e.reversesEntryId = none)
      (backing : b.Backing .EARN i e)
      (lot : ∃ (j : Nat) (l : CreditLot), b.lots[j]? = some l ∧ l.earnLedgerEntryId = i)
  | debit (direction : e.direction = .DEBIT) (backing : b.Backing .REDEEM i e)
      (total : b.charged i = e.amountKobo)
      (compensation : ∀ o, e.reversesEntryId = some o → e.type = .ADJUSTMENT ∧
        (∃ x, b.Reverses e o x ∧ (x.type = .EARN ∨ x.type = .ADJUSTMENT)) ∧
        ∃ lotId l k a, b.Compensation i o lotId l k a)
  | restore {o : Nat} {x : LoyaltyLedgerEntry} (type : e.type = .REVERSAL)
      (direction : e.direction = .CREDIT) (receiptId : e.receiptId = none)
      (reversesEntryId : e.reversesEntryId = some o) (reverses : b.Reverses e o x)
      (original : x.type = .REDEEM ∨ x.type = .ADJUSTMENT) (total : b.putBack i = e.amountKobo)
  | expiry (type : e.type = .EXPIRY) (direction : e.direction = .DEBIT)
      (receiptId : e.receiptId = none) (reverses : e.reversesEntryId = none)
      (row : ∃ (j : Nat) (x : CreditExpiry), b.expiries[j]? = some x ∧ x.ledgerEntryId = i)

structure Sound (b : Books) : Prop where
  entry : ∀ {i : Nat} {e}, b.ledger[i]? = some e → b.Evidenced i e
  lot : ∀ {i : Nat} {l}, b.lots[i]? = some l → b.LotSourced l
  allocation : ∀ {i : Nat} {a}, b.allocations[i]? = some a → ∃ e l, b.AllocationSourced a e l
  restoration : ∀ {i : Nat} {r}, b.restorations[i]? = some r → ∃ e a, b.RestorationSourced r e a
  expiry : ∀ {i : Nat} {x}, b.expiries[i]? = some x → ∃ e l, b.ExpirySourced x e l
  adjustment : ∀ {i : Nat} {a}, b.adjustments[i]? = some a → ∃ e, b.AdjustmentSourced a e
  lot_once : (b.lots.map (·.earnLedgerEntryId)).Nodup
  restoration_once : (b.restorations.map (·.allocationId)).Nodup
  expiry_once : (b.expiries.map (·.ledgerEntryId)).Nodup
  lapse_once : (b.expiries.map (·.creditLotId)).Nodup
  adjustment_once : (b.adjustments.map (·.ledgerEntryId)).Nodup
  reversal_once : (b.ledger.filterMap (·.reversesEntryId)).Nodup

/-! ### What later postings leave as it is -/

/-- Every row is still there, and a lot differs at most in what remains of it. -/
structure Grows (b c : Books) : Prop where
  ledger : ∀ {i : Nat} {e}, b.ledger[i]? = some e → c.ledger[i]? = some e
  lots : ∀ {i : Nat} {l}, b.lots[i]? = some l → ∃ l', c.lots[i]? = some l' ∧ SameLot l l'
  allocations : ∀ {i : Nat} {a}, b.allocations[i]? = some a → c.allocations[i]? = some a
  restorations : ∀ {i : Nat} {r}, b.restorations[i]? = some r → c.restorations[i]? = some r
  expiries : ∀ {i : Nat} {x}, b.expiries[i]? = some x → c.expiries[i]? = some x
  adjustments : ∀ {i : Nat} {a}, b.adjustments[i]? = some a → c.adjustments[i]? = some a

/-- Moreover the evidence of an entry gets no further rows. -/
structure Extends (b c : Books) : Prop extends Grows b c where
  charged : ∀ {i : Nat}, i < b.ledger.length → c.charged i = b.charged i
  putBack : ∀ {i : Nat}, i < b.ledger.length → c.putBack i = b.putBack i
  old_allocation : ∀ {k : Nat} {a}, c.allocations[k]? = some a →
    a.redemptionLedgerEntryId < b.ledger.length → b.allocations[k]? = some a

lemma Grows.refl (b : Books) : Grows b b :=
  ⟨id, fun h => ⟨_, h, .refl _⟩, id, id, id, id⟩

lemma Grows.trans {b c d : Books} (h : Grows b c) (h' : Grows c d) : Grows b d := by
  refine ⟨h'.ledger ∘ h.ledger, fun hl => ?_, h'.allocations ∘ h.allocations,
    h'.restorations ∘ h.restorations, h'.expiries ∘ h.expiries, h'.adjustments ∘ h.adjustments⟩
  obtain ⟨l', hl', hs⟩ := h.lots hl
  obtain ⟨l'', hl'', hs'⟩ := h'.lots hl'
  exact ⟨l'', hl'', hs.trans hs'⟩

variable {b c : Books}

lemma grows_lots {δ : Nat → Int} (h : Moved δ b.lots c.lots) {i : Nat} {l : CreditLot}
    (hl : b.lots[i]? = some l) : ∃ l', c.lots[i]? = some l' ∧ SameLot l l' := by
  obtain ⟨l', hl', hs, -⟩ := h.lot hl
  exact ⟨l', hl', hs⟩

lemma charged_append {rows : List RedemptionAllocation}
    (h : ∀ r ∈ rows, r.redemptionLedgerEntryId = b.ledger.length) {i : Nat}
    (hi : i < b.ledger.length) :
    Table.tally (b.allocations ++ rows) (fun a => a.redemptionLedgerEntryId = i)
      (fun a => (a.amountKobo : Int)) = b.charged i := by
  rw [Table.tally_append, Table.tally_eq_zero (t := rows), add_zero]
  · rfl
  · intro r hr; rw [h r hr]; omega

lemma putBack_append {rows : List AllocationRestoration}
    (h : ∀ r ∈ rows, r.reversalLedgerEntryId = b.ledger.length) {i : Nat}
    (hi : i < b.ledger.length) :
    Table.tally (b.restorations ++ rows) (fun r => r.reversalLedgerEntryId = i)
      (fun r => (r.amountKobo : Int)) = b.putBack i := by
  rw [Table.tally_append, Table.tally_eq_zero (t := rows), add_zero]
  · rfl
  · intro r hr; rw [h r hr]; omega

/-- **A posting only adds**: rows stay, and the evidence of old entries is complete. -/
theorem extends_of_posted (h : Posted b c) : Extends b c := by
  cases h with
  | credit h =>
      obtain ⟨-, -, -, -, rfl⟩ := h
      exact
        { ledger := Table.getElem?_append
          lots := fun hl => ⟨_, Table.getElem?_append hl, .refl _⟩
          allocations := id, restorations := id, expiries := id
          adjustments := Table.getElem?_append
          charged := fun _ => rfl, putBack := fun _ => rfl, old_allocation := fun h _ => h }
  | @debit e rows target as h =>
      have heach := fun r hr => (h.each r hr).2.1
      have hlots := fun {i l} => grows_lots (i := i) (l := l) h.moved
      rw [h.books] at hlots ⊢
      refine
        { ledger := Table.getElem?_append, lots := hlots
          allocations := Table.getElem?_append, restorations := id, expiries := id
          adjustments := Table.getElem?_append
          charged := fun hi => charged_append heach hi
          putBack := fun _ => rfl, old_allocation := fun {k a} hk ha => ?_ }
      rcases Table.of_getElem?_append hk with hk | ⟨-, hmem⟩
      · exact hk
      · have := heach a hmem; omega
  | @restore e o rows h =>
      have heach := fun r hr => (h.each r hr).2.1
      have hlots := fun {i l} => grows_lots (i := i) (l := l) h.moved
      rw [h.books] at hlots ⊢
      exact
        { ledger := Table.getElem?_append, lots := hlots
          allocations := id, restorations := Table.getElem?_append, expiries := id
          adjustments := id, charged := fun _ => rfl
          putBack := fun hi => putBack_append heach hi, old_allocation := fun h _ => h }
  | @expiry e x h =>
      have hlots := fun {i l} => grows_lots (i := i) (l := l) h.moved
      rw [h.books] at hlots ⊢
      exact
        { ledger := Table.getElem?_append, lots := hlots
          allocations := id, restorations := id, expiries := Table.getElem?_append
          adjustments := id, charged := fun _ => rfl, putBack := fun _ => rfl
          old_allocation := fun h _ => h }

lemma grows_of_postings (h : Postings b c) : Grows b c := by
  induction h with
  | refl => exact .refl b
  | tail _ h ih => exact ih.trans (extends_of_posted h).toGrows

/-! ### Evidence stays -/

lemma LotSourced.same {l l' : CreditLot} (h : b.LotSourced l) (hg : Grows b c)
    (hs : SameLot l l') : c.LotSourced l' := by
  obtain ⟨e, he, hl⟩ := h
  exact ⟨e, by rw [hs.earnLedgerEntryId]; exact hg.ledger he, hl.same hs⟩

lemma AllocationSourced.mono {a : RedemptionAllocation} {e : LoyaltyLedgerEntry} {l : CreditLot}
    (h : b.AllocationSourced a e l) (hg : Grows b c) : ∃ l', c.AllocationSourced a e l' := by
  obtain ⟨l', hl', hs⟩ := hg.lots h.lot
  refine ⟨l', hg.ledger h.entry, h.direction, h.type, h.tenantId, ?_, hl',
    hs.tenantId.trans h.lot_tenantId, hs.customerId.trans h.lot_customerId⟩
  have hserves := h.serves
  unfold Serves at hserves ⊢
  split at hserves
  · exact hserves
  · obtain ⟨ht, x, hx, hid⟩ := hserves
    exact ⟨ht, x, hg.adjustments hx, hid⟩

lemma RestorationSourced.mono {r : AllocationRestoration} {e : LoyaltyLedgerEntry}
    {a : RedemptionAllocation} (h : b.RestorationSourced r e a) (hg : Grows b c) :
    c.RestorationSourced r e a :=
  ⟨hg.ledger h.entry, h.type, h.tenantId, hg.allocations h.allocation, h.reverses, h.amountKobo⟩

lemma ExpirySourced.mono {x : CreditExpiry} {e : LoyaltyLedgerEntry} {l : CreditLot}
    (h : b.ExpirySourced x e l) (hg : Grows b c) : ∃ l', c.ExpirySourced x e l' := by
  obtain ⟨l', hl', hs⟩ := hg.lots h.lot
  exact ⟨l', hg.ledger h.entry, h.type, h.tenantId, h.customerId, h.amountKobo, h.expiredAt, hl',
    hs.tenantId.trans h.lot_tenantId, hs.customerId.trans h.lot_customerId,
    hs.expiresAt.trans h.lot_expiresAt⟩

lemma AdjustmentSourced.mono {a : Adjustment} {e : LoyaltyLedgerEntry}
    (h : b.AdjustmentSourced a e) (hg : Grows b c) : c.AdjustmentSourced a e :=
  ⟨hg.ledger h.entry, h.type, h.row⟩

lemma Backing.mono {onReceipt : LedgerEntryType} {i : Nat} {e : LoyaltyLedgerEntry}
    (h : b.Backing onReceipt i e) (hg : Grows b c) : c.Backing onReceipt i e := by
  rcases h with h | ⟨ht, hr, j, a, ha, hrow⟩
  · exact .inl h
  · exact .inr ⟨ht, hr, j, a, hg.adjustments ha, hrow⟩

lemma Reverses.mono {e o : LoyaltyLedgerEntry} {i : Nat} (h : b.Reverses e i o) (hg : Grows b c) :
    c.Reverses e i o :=
  ⟨hg.ledger h.entry, h.tenantId, h.customerId, h.direction⟩

lemma Compensation.mono {i o lotId k : Nat} {l : CreditLot} {a : RedemptionAllocation}
    (h : b.Compensation i o lotId l k a) (hx : Extends b c) (hi : i < b.ledger.length) :
    ∃ l', SameLot l l' ∧ c.Compensation i o lotId l' k a := by
  obtain ⟨l', hl', hs⟩ := hx.lots h.lot
  refine ⟨l', hs, hl', hs.earnLedgerEntryId.trans h.earned, hx.allocations h.allocation, h.entry,
    h.onLot, by rw [hs.originalAmountKobo]; exact h.amountKobo, h.allocationOrder,
    fun hk hid => ?_⟩
  exact h.only (hx.old_allocation hk (by omega)) hid

lemma Evidenced.mono {i : Nat} {e : LoyaltyLedgerEntry} (h : b.Evidenced i e) (hx : Extends b c)
    (hi : i < b.ledger.length) : c.Evidenced i e := by
  cases h with
  | credit hd hr hb hl =>
      obtain ⟨j, l, hl, hid⟩ := hl
      obtain ⟨l', hl', hs⟩ := hx.lots hl
      exact .credit hd hr (hb.mono hx.toGrows) ⟨j, l', hl', hs.earnLedgerEntryId.trans hid⟩
  | debit hd hb ht hc =>
      refine .debit hd (hb.mono hx.toGrows) ((hx.charged hi).trans ht) fun o ho => ?_
      obtain ⟨hadj, ⟨x, hrev, hty⟩, lotId, l, k, a, hcomp⟩ := hc o ho
      obtain ⟨l', -, hcomp'⟩ := hcomp.mono hx hi
      exact ⟨hadj, ⟨x, hrev.mono hx.toGrows, hty⟩, lotId, l', k, a, hcomp'⟩
  | restore ht hd hrec hid hrev ho htotal =>
      exact .restore ht hd hrec hid (hrev.mono hx.toGrows) ho ((hx.putBack hi).trans htotal)
  | expiry ht hd hrec hid hrow =>
      obtain ⟨j, x, hx', hxid⟩ := hrow
      exact .expiry ht hd hrec hid ⟨j, x, hx.expiries hx', hxid⟩

/-! ### New rows -/

lemma row_of_backed {onReceipt : LedgerEntryType} {i : Nat}
    {e : LoyaltyLedgerEntry} {as : List Adjustment} (h : Backed onReceipt i e as)
    {a : Adjustment} (ha : a ∈ as) : e.type = .ADJUSTMENT ∧ IsAdjustmentOf i e a := by
  cases h with
  | receipt => simp at ha
  | adjustment ht _ hrow => obtain rfl := List.mem_singleton.1 ha; exact ⟨ht, hrow⟩

lemma backing_of_backed {onReceipt : LedgerEntryType} {e : LoyaltyLedgerEntry}
    {as : List Adjustment} (h : Backed onReceipt b.ledger.length e as)
    (hc : c.adjustments = b.adjustments ++ as) : c.Backing onReceipt b.ledger.length e := by
  cases h with
  | receipt ht hr => exact .inl ⟨ht, hr⟩
  | adjustment ht hr hrow =>
      exact .inr ⟨ht, hr, _, _, by rw [hc]; exact Table.getElem?_insert_self .., hrow⟩

namespace Sound

lemma lt_of_lot (h : b.Sound) {l : CreditLot} (hl : l ∈ b.lots) :
    l.earnLedgerEntryId < b.ledger.length := by
  obtain ⟨i, hi⟩ := List.getElem?_of_mem hl
  obtain ⟨e, he, -⟩ := h.lot hi
  exact Table.lt_of_getElem? he

lemma lt_of_allocation (h : b.Sound) {a : RedemptionAllocation} (ha : a ∈ b.allocations) :
    a.redemptionLedgerEntryId < b.ledger.length := by
  obtain ⟨i, hi⟩ := List.getElem?_of_mem ha
  obtain ⟨e, l, hs⟩ := h.allocation hi
  exact Table.lt_of_getElem? hs.entry

lemma lt_of_restoration (h : b.Sound) {r : AllocationRestoration} (hr : r ∈ b.restorations) :
    r.reversalLedgerEntryId < b.ledger.length := by
  obtain ⟨i, hi⟩ := List.getElem?_of_mem hr
  obtain ⟨e, a, hs⟩ := h.restoration hi
  exact Table.lt_of_getElem? hs.entry

lemma lt_of_expiry (h : b.Sound) {x : CreditExpiry} (hx : x ∈ b.expiries) :
    x.ledgerEntryId < b.ledger.length := by
  obtain ⟨i, hi⟩ := List.getElem?_of_mem hx
  obtain ⟨e, l, hs⟩ := h.expiry hi
  exact Table.lt_of_getElem? hs.entry

lemma lt_of_adjustment (h : b.Sound) {a : Adjustment} (ha : a ∈ b.adjustments) :
    a.ledgerEntryId < b.ledger.length := by
  obtain ⟨i, hi⟩ := List.getElem?_of_mem ha
  obtain ⟨e, hs⟩ := h.adjustment hi
  exact Table.lt_of_getElem? hs.entry

lemma reversed_of_restored (h : b.Sound) {r : AllocationRestoration} (hr : r ∈ b.restorations)
    {a : RedemptionAllocation} (ha : b.allocations[r.allocationId]? = some a) :
    b.reversed a.redemptionLedgerEntryId := by
  obtain ⟨i, hi⟩ := List.getElem?_of_mem hr
  obtain ⟨e, a', hs⟩ := h.restoration hi
  obtain rfl : a' = a := Option.some.inj (hs.allocation.symm.trans ha)
  exact ⟨e, List.mem_of_getElem? hs.entry, hs.reverses⟩

lemma restoredAmount_eq_zero (h : b.Sound) {k : Nat} {a : RedemptionAllocation}
    (ha : b.allocations[k]? = some a) (hu : ¬ b.reversed a.redemptionLedgerEntryId) :
    b.restoredAmount k = 0 := by
  refine Table.tally_eq_zero fun r hr hk => hu ?_
  subst hk
  exact h.reversed_of_restored hr ha

/-! ### Each posting keeps the books sound -/

variable {e : LoyaltyLedgerEntry}

lemma entry_posted (h : b.Sound) (hx : Extends b c) (hl : c.ledger = b.ledger ++ [e])
    (hnew : c.Evidenced b.ledger.length e) {i : Nat} {e' : LoyaltyLedgerEntry}
    (hi : c.ledger[i]? = some e') : c.Evidenced i e' := by
  rw [hl, Table.getElem?_insert_iff] at hi
  rcases hi with hi | ⟨rfl, rfl⟩
  · exact (h.entry hi).mono hx (Table.lt_of_getElem? hi)
  · exact hnew

lemma reversal_posted (h : b.Sound) (hl : c.ledger = b.ledger ++ [e])
    (hu : ∀ o, e.reversesEntryId = some o → ¬ b.reversed o) :
    (c.ledger.filterMap (·.reversesEntryId)).Nodup := by
  rw [hl, List.filterMap_append]
  cases ho : e.reversesEntryId with
  | none => simpa [ho] using h.reversal_once
  | some o =>
      rw [List.filterMap_cons_some ho, List.filterMap_nil, List.nodup_append]
      refine ⟨h.reversal_once, List.nodup_singleton o, fun x hx y hy => ?_⟩
      obtain rfl := List.mem_singleton.1 hy
      rintro rfl
      obtain ⟨x, hx, hxo⟩ := List.mem_filterMap.1 hx
      exact hu _ ho ⟨x, hx, hxo⟩

lemma lot_moved (h : b.Sound) (hg : Grows b c) {δ : Nat → Int} (hm : Moved δ b.lots c.lots)
    {i : Nat} {l : CreditLot} (hl : c.lots[i]? = some l) : c.LotSourced l := by
  obtain ⟨l0, hl0, hs, -⟩ := hm.lot_before hl
  exact (h.lot hl0).same hg hs

lemma lot_once_moved (h : b.Sound) {δ : Nat → Int} (hm : Moved δ b.lots c.lots) :
    (c.lots.map (·.earnLedgerEntryId)).Nodup := by
  rw [hm.map_eq fun _ _ hs => hs.earnLedgerEntryId]
  exact h.lot_once

lemma adjustment_posted (h : b.Sound) (hg : Grows b c) {onReceipt : LedgerEntryType}
    {as : List Adjustment} (hb : Backed onReceipt b.ledger.length e as)
    (hl : c.ledger = b.ledger ++ [e]) (ha : c.adjustments = b.adjustments ++ as) {i : Nat}
    {a : Adjustment} (hi : c.adjustments[i]? = some a) : ∃ e, c.AdjustmentSourced a e := by
  rw [ha] at hi
  rcases Table.of_getElem?_append hi with hi | ⟨-, hmem⟩
  · obtain ⟨e', hs⟩ := h.adjustment hi
    exact ⟨e', hs.mono hg⟩
  · obtain ⟨ht, hrow⟩ := row_of_backed hb hmem
    refine ⟨e, ?_, ht, by rw [hrow.ledgerEntryId]; exact hrow⟩
    rw [hl, hrow.ledgerEntryId]
    exact Table.getElem?_insert_self ..

lemma adjustment_once_posted (h : b.Sound) {onReceipt : LedgerEntryType} {as : List Adjustment}
    (hb : Backed onReceipt b.ledger.length e as) :
    ((b.adjustments ++ as).map (·.ledgerEntryId)).Nodup := by
  refine Table.nodup_map_append h.adjustment_once ?_ fun x hx y hy => ?_
  · cases hb <;> simp
  · have := h.lt_of_adjustment hx
    rw [(row_of_backed hb hy).2.ledgerEntryId]
    omega

lemma credit_posted (h : b.Sound) {l : CreditLot} {as : List Adjustment}
    (hp : CreditPosting e l as b c) : c.Sound := by
  have hx := extends_of_posted (.credit hp)
  have hg := hx.toGrows
  have hlen : l.earnLedgerEntryId = b.ledger.length := hp.lot.earnLedgerEntryId
  obtain ⟨hdir, hrev, hb, hwhole, rfl⟩ := hp
  refine
    { entry := h.entry_posted hx rfl (.credit hdir hrev (backing_of_backed hb rfl)
        ⟨b.lots.length, l, Table.getElem?_insert_self .., hlen⟩)
      lot := fun {i m} hm => ?_
      allocation := fun {i a} ha => ?_
      restoration := fun {i r} hr => ?_
      expiry := fun {i x} hx => ?_
      adjustment := h.adjustment_posted hg hb rfl rfl
      lot_once := ?_
      restoration_once := h.restoration_once
      expiry_once := h.expiry_once
      lapse_once := h.lapse_once
      adjustment_once := h.adjustment_once_posted hb
      reversal_once := h.reversal_posted rfl fun o ho => by rw [hrev] at ho; cases ho }
  · rcases Table.of_getElem?_append hm with hm | ⟨-, hmem⟩
    · exact (h.lot hm).same hg (.refl m)
    · obtain rfl := List.mem_singleton.1 hmem
      have htype : e.type = .EARN ∨ e.type = .ADJUSTMENT := by
        cases hb with
        | receipt ht => exact .inl ht
        | adjustment ht => exact .inr ht
      refine ⟨e, by rw [hlen]; exact Table.getElem?_insert_self .., hdir, htype, hwhole.tenantId,
        hwhole.customerId, hwhole.originalAmountKobo, hwhole.earnedAt⟩
  · obtain ⟨e', l', hs⟩ := h.allocation ha
    obtain ⟨l'', hs'⟩ := hs.mono hg
    exact ⟨e', l'', hs'⟩
  · obtain ⟨e', a, hs⟩ := h.restoration hr
    exact ⟨e', a, hs.mono hg⟩
  · obtain ⟨e', l', hs⟩ := h.expiry hx
    obtain ⟨l'', hs'⟩ := hs.mono hg
    exact ⟨e', l'', hs'⟩
  · refine Table.nodup_map_append h.lot_once (by simp) fun m hm y hy => ?_
    have := h.lt_of_lot hm
    rw [List.mem_singleton.1 hy, hlen]
    omega

/-- The rows of a new debit are sourced. -/
lemma allocation_posted {rows : List RedemptionAllocation} {target : DebitTarget}
    {as : List Adjustment} (hp : DebitPosting e rows target as b c) {a : RedemptionAllocation}
    (ha : a ∈ rows) : ∃ l, c.AllocationSourced a e l := by
  obtain ⟨hten, hent, htar⟩ := hp.each a ha
  obtain ⟨l0, hl0, hlt, hlc⟩ := hp.onLots a ha
  obtain ⟨l, hl, hs, -⟩ := hp.moved.lot hl0
  have htype : e.type = .REDEEM ∨ e.type = .ADJUSTMENT := by
    cases hp.backed with
    | receipt ht => exact .inl ht
    | adjustment ht => exact .inr ht
  have hledger : c.ledger[a.redemptionLedgerEntryId]? = some e := by
    rw [hp.books, hent]
    exact Table.getElem?_insert_self ..
  refine ⟨l, hledger, hp.direction, htype, hten, ?_, hl, hs.tenantId.trans hlt,
    hs.customerId.trans hlc⟩
  have hserves := hp.serves
  unfold Serves
  rw [htar]
  cases target with
  | redemption d => exact hserves
  | adjustment j =>
      obtain ⟨ht, rfl⟩ := hserves
      cases hp.backed with
      | receipt ht' => rw [ht] at ht'; cases ht'
      | @adjustment x _ _ hrow =>
          refine ⟨ht, x, ?_, by rw [hent]; exact hrow.ledgerEntryId⟩
          rw [hp.books]
          exact Table.getElem?_insert_self ..

lemma compensation_posted (h : b.Sound) {rows : List RedemptionAllocation} {target : DebitTarget}
    {as : List Adjustment} (hp : DebitPosting e rows target as b c) {o : Nat}
    (ho : Compensates b e o rows) :
    ∃ lotId l k a, c.Compensation b.ledger.length o lotId l k a := by
  obtain ⟨lotId, l0, a, hl0, hearn, -, hrows, hon, hamt, hord⟩ := ho.whole
  obtain ⟨l, hl, hs, -⟩ := hp.moved.lot hl0
  have hent : a.redemptionLedgerEntryId = b.ledger.length :=
    (hp.each a (by rw [hrows]; exact List.mem_singleton_self a)).2.1
  have hall : c.allocations = b.allocations ++ [a] := by rw [hp.books, ← hrows]
  refine ⟨lotId, l, b.allocations.length, a, hl, hs.earnLedgerEntryId.trans hearn, ?_, hent, hon,
    hamt.trans hs.originalAmountKobo.symm, hord, fun {k' a'} hk' ha' => ?_⟩
  · rw [hall]
    exact Table.getElem?_insert_self ..
  · rw [hall, Table.getElem?_insert_iff] at hk'
    rcases hk' with hk' | ⟨rfl, -⟩
    · have := h.lt_of_allocation (List.mem_of_getElem? hk')
      omega
    · rfl

lemma debit_posted (h : b.Sound) {rows : List RedemptionAllocation} {target : DebitTarget}
    {as : List Adjustment} (hp : DebitPosting e rows target as b c) : c.Sound := by
  have hx := extends_of_posted (.debit hp)
  have hg := hx.toGrows
  have hledger : c.ledger = b.ledger ++ [e] := by rw [hp.books]
  have hall : c.allocations = b.allocations ++ rows := by rw [hp.books]
  have hadj : c.adjustments = b.adjustments ++ as := by rw [hp.books]
  have hrest : c.restorations = b.restorations := by rw [hp.books]
  have hexp : c.expiries = b.expiries := by rw [hp.books]
  have htotal : c.charged b.ledger.length = e.amountKobo := by
    unfold charged
    rw [hall, Table.tally_append, Table.tally_eq_zero (t := b.allocations),
      Table.tally_eq_sum (t := rows), zero_add, hp.total]
    · exact fun a ha => (hp.each a ha).2.1
    · intro a ha; have := h.lt_of_allocation ha; omega
  refine
    { entry := h.entry_posted hx hledger (.debit hp.direction (backing_of_backed hp.backed hadj)
        htotal fun o ho => ?_)
      lot := h.lot_moved hg hp.moved
      allocation := fun {i a} ha => ?_
      restoration := fun {i r} hr => ?_
      expiry := fun {i x} hx => ?_
      adjustment := h.adjustment_posted hg hp.backed hledger hadj
      lot_once := h.lot_once_moved hp.moved
      restoration_once := hrest ▸ h.restoration_once
      expiry_once := hexp ▸ h.expiry_once
      lapse_once := hexp ▸ h.lapse_once
      adjustment_once := hadj ▸ h.adjustment_once_posted hp.backed
      reversal_once := h.reversal_posted hledger fun o ho => (hp.reverses o ho).unreversed }
  · have hcomp := hp.reverses o ho
    obtain ⟨x, hxo, hxd, hxt, hten, hcus⟩ := hcomp.credit
    refine ⟨hcomp.adjustment, ⟨x, ⟨hg.ledger hxo, hten, hcus, ?_⟩, hxt⟩,
      h.compensation_posted hp hcomp⟩
    rw [hxd, hp.direction]
    decide
  · rw [hall] at ha
    rcases Table.of_getElem?_append ha with ha | ⟨-, hmem⟩
    · obtain ⟨e', l', hs⟩ := h.allocation ha
      obtain ⟨l'', hs'⟩ := hs.mono hg
      exact ⟨e', l'', hs'⟩
    · exact ⟨e, allocation_posted hp hmem⟩
  · obtain ⟨e', a, hs⟩ := h.restoration (hrest ▸ hr)
    exact ⟨e', a, hs.mono hg⟩
  · obtain ⟨e', l', hs⟩ := h.expiry (hexp ▸ hx)
    obtain ⟨l'', hs'⟩ := hs.mono hg
    exact ⟨e', l'', hs'⟩

lemma restoration_posted (h : b.Sound) {o : Nat} {rows : List AllocationRestoration}
    (hp : RestorePosting e o rows b c) {r : AllocationRestoration} (hr : r ∈ rows) :
    ∃ a, b.allocations[r.allocationId]? = some a ∧ c.RestorationSourced r e a := by
  obtain ⟨hten, hent, a, ha, hao, hamt⟩ := hp.each r hr
  rw [h.restoredAmount_eq_zero ha (hao ▸ hp.unreversed), sub_zero] at hamt
  refine ⟨a, ha, ?_, hp.type, hten, ?_, by rw [hp.reversesEntryId, hao], Subtype.ext hamt⟩
  · rw [hp.books, hent]
    exact Table.getElem?_insert_self ..
  · rw [hp.books]
    exact ha

lemma restore_posted (h : b.Sound) {o : Nat} {rows : List AllocationRestoration}
    (hp : RestorePosting e o rows b c) : c.Sound := by
  have hx := extends_of_posted (.restore hp)
  have hg := hx.toGrows
  have hledger : c.ledger = b.ledger ++ [e] := by rw [hp.books]
  have hall : c.allocations = b.allocations := by rw [hp.books]
  have hadj : c.adjustments = b.adjustments := by rw [hp.books]
  have hrest : c.restorations = b.restorations ++ rows := by rw [hp.books]
  have hexp : c.expiries = b.expiries := by rw [hp.books]
  have htotal : c.putBack b.ledger.length = e.amountKobo := by
    unfold putBack
    rw [hrest, Table.tally_append, Table.tally_eq_zero (t := b.restorations),
      Table.tally_eq_sum (t := rows), zero_add, hp.total]
    · exact fun r hr => (hp.each r hr).2.1
    · intro r hr; have := h.lt_of_restoration hr; omega
  -- what the new entry reverses is a debit of the same customer
  obtain ⟨x, hxo, hxd, hxt, hten, hcus⟩ := hp.debit
  refine
    { entry := h.entry_posted hx hledger (.restore hp.type hp.direction hp.receiptId
        hp.reversesEntryId ⟨hg.ledger hxo, hten, hcus, ?_⟩ hxt htotal)
      lot := h.lot_moved hg hp.moved
      allocation := fun {i a} ha => ?_
      restoration := fun {i r} hr => ?_
      expiry := fun {i x} hx => ?_
      adjustment := fun {i a} ha => ?_
      lot_once := h.lot_once_moved hp.moved
      restoration_once := hrest ▸ Table.nodup_map_append h.restoration_once hp.nodup ?_
      expiry_once := hexp ▸ h.expiry_once
      lapse_once := hexp ▸ h.lapse_once
      adjustment_once := hadj ▸ h.adjustment_once
      reversal_once := h.reversal_posted hledger fun o' ho => ?_ }
  · rw [hxd, hp.direction]
    decide
  · obtain ⟨e', l', hs⟩ := h.allocation (hall ▸ ha)
    obtain ⟨l'', hs'⟩ := hs.mono hg
    exact ⟨e', l'', hs'⟩
  · rw [hrest] at hr
    rcases Table.of_getElem?_append hr with hr | ⟨-, hmem⟩
    · obtain ⟨e', a, hs⟩ := h.restoration hr
      exact ⟨e', a, hs.mono hg⟩
    · obtain ⟨a, -, hs⟩ := h.restoration_posted hp hmem
      exact ⟨e, a, hs⟩
  · obtain ⟨e', l', hs⟩ := h.expiry (hexp ▸ hx)
    obtain ⟨l'', hs'⟩ := hs.mono hg
    exact ⟨e', l'', hs'⟩
  · obtain ⟨e', hs⟩ := h.adjustment (hadj ▸ ha)
    exact ⟨e', hs.mono hg⟩
  · -- an allocation restored before belongs to a debit reversed before
    intro r hr r' hr' heq
    obtain ⟨-, -, a, ha, hao, -⟩ := hp.each r' hr'
    exact hp.unreversed (hao ▸ h.reversed_of_restored hr (heq ▸ ha))
  · obtain rfl : o = o' := Option.some.inj (hp.reversesEntryId.symm.trans ho)
    exact hp.unreversed

lemma expiry_posted (h : b.Sound) {x : CreditExpiry} (hp : ExpiryPosting e x b c) : c.Sound := by
  have hx := extends_of_posted (.expiry hp)
  have hg := hx.toGrows
  have hledger : c.ledger = b.ledger ++ [e] := by rw [hp.books]
  have hall : c.allocations = b.allocations := by rw [hp.books]
  have hadj : c.adjustments = b.adjustments := by rw [hp.books]
  have hrest : c.restorations = b.restorations := by rw [hp.books]
  have hexp : c.expiries = b.expiries ++ [x] := by rw [hp.books]
  obtain ⟨hxt, hxc, hxa, hxe, hxat⟩ := hp.row
  refine
    { entry := h.entry_posted hx hledger (.expiry hp.type hp.direction hp.receiptId
        hp.reversesEntryId ⟨b.expiries.length, x, by rw [hexp]; exact Table.getElem?_insert_self ..,
          hxe⟩)
      lot := h.lot_moved hg hp.moved
      allocation := fun {i a} ha => ?_
      restoration := fun {i r} hr => ?_
      expiry := fun {i y} hy => ?_
      adjustment := fun {i a} ha => ?_
      lot_once := h.lot_once_moved hp.moved
      restoration_once := hrest ▸ h.restoration_once
      expiry_once := hexp ▸ Table.nodup_map_append h.expiry_once (by simp) ?_
      lapse_once := hexp ▸ Table.nodup_map_append h.lapse_once (by simp) ?_
      adjustment_once := hadj ▸ h.adjustment_once
      reversal_once := h.reversal_posted hledger fun o ho => by
        rw [hp.reversesEntryId] at ho; cases ho }
  · obtain ⟨e', l', hs⟩ := h.allocation (hall ▸ ha)
    obtain ⟨l'', hs'⟩ := hs.mono hg
    exact ⟨e', l'', hs'⟩
  · obtain ⟨e', a, hs⟩ := h.restoration (hrest ▸ hr)
    exact ⟨e', a, hs.mono hg⟩
  · rw [hexp] at hy
    rcases Table.of_getElem?_append hy with hy | ⟨-, hmem⟩
    · obtain ⟨e', l', hs⟩ := h.expiry hy
      obtain ⟨l'', hs'⟩ := hs.mono hg
      exact ⟨e', l'', hs'⟩
    · obtain rfl := List.mem_singleton.1 hmem
      obtain ⟨l0, hl0, hlt, hlc, hle⟩ := hp.lot
      obtain ⟨l, hl, hs⟩ := hg.lots hl0
      refine ⟨e, l, ?_, hp.type, hxt, hxc, hxa, hxat, hl, hs.tenantId.trans hlt,
        hs.customerId.trans hlc, hs.expiresAt.trans hle⟩
      rw [hledger, hxe]
      exact Table.getElem?_insert_self ..
  · obtain ⟨e', hs⟩ := h.adjustment (hadj ▸ ha)
    exact ⟨e', hs.mono hg⟩
  · intro y hy z hz
    have := h.lt_of_expiry hy
    rw [List.mem_singleton.1 hz, hxe]
    omega
  · intro y hy z hz
    rw [List.mem_singleton.1 hz]
    exact hp.once y hy

/-- **Every posting keeps the books sound.** -/
theorem posted (h : b.Sound) (hp : Posted b c) : c.Sound := by
  cases hp with
  | credit hp => exact h.credit_posted hp
  | debit hp => exact h.debit_posted hp
  | restore hp => exact h.restore_posted hp
  | expiry hp => exact h.expiry_posted hp

lemma postings (h : b.Sound) (hp : Postings b c) : c.Sound := by
  induction hp with
  | refl => exact h
  | tail _ hp ih => exact ih.posted hp

end Sound

end Books

end ShopcityLoyalty
