import ShopcityLoyalty.Confirmations
import ShopcityLoyalty.Conservation

/-!
The commit checks of the database: the deferred constraint triggers, and why no operation
that ran to its end is refused by one.
-/

namespace ShopcityLoyalty

/-! ### The triggers -/

namespace Database

/-- `validate_credit_lot_balance_evidence_for_lot`. -/
def validate_credit_lot_balance_evidence_for_lot (db : Database) (tenantId : String)
    (creditLotId : Nat) : Prop :=
  ∃ l ∈ db.lots[creditLotId]?, l.tenantId = tenantId ∧
    l.remainingAmountKobo = l.originalAmountKobo
      - db.allocations.tally (fun a => a.tenantId = tenantId ∧ a.creditLotId = creditLotId)
          (·.amountKobo)
      + db.restorations.tally (fun r => ∃ a ∈ db.allocations[r.allocationId]?,
          a.tenantId = r.tenantId ∧ a.tenantId = tenantId ∧ a.creditLotId = creditLotId)
          (·.amountKobo)
      - db.expiries.tally (fun x => x.tenantId = tenantId ∧ x.creditLotId = creditLotId)
          (·.amountKobo)

/-- `validate_credit_lot_balance_evidence`, on a lot whose remaining amount was updated. -/
def validate_credit_lot_balance_evidence (db : Database) (creditLotId : Nat) : Prop :=
  ∀ l ∈ db.lots[creditLotId]?,
    db.validate_credit_lot_balance_evidence_for_lot l.tenantId creditLotId

/-- The redemption, or the adjustment, an allocation names: of its debit and its customer. -/
def allocationTargetMatches (db : Database) (a : RedemptionAllocation)
    (customerId : String) : Prop :=
  match a.target with
  | .redemption j => ∀ r ∈ db.redemptions[j]?, r.tenantId = a.tenantId →
      r.ledgerEntryId = some a.redemptionLedgerEntryId ∧ r.customerId = customerId
  | .adjustment j => ∀ x ∈ db.adjustments[j]?, x.tenantId = a.tenantId →
      x.ledgerEntryId = a.redemptionLedgerEntryId ∧ x.customerId = customerId

/-- `validate_debit_allocation_invariants_for_ledger`. -/
def validate_debit_allocation_invariants_for_ledger (db : Database) (tenantId : String)
    (ledgerEntryId : Nat) : Prop :=
  ∃ e ∈ db.ledger[ledgerEntryId]?, e.tenantId = tenantId ∧ e.direction = .DEBIT ∧
    (e.type = .REDEEM ∨ e.type = .ADJUSTMENT) ∧
    db.allocations.tally
      (fun a => a.tenantId = tenantId ∧ a.redemptionLedgerEntryId = ledgerEntryId)
      (·.amountKobo) = e.amountKobo ∧
    ∀ a ∈ db.allocations, a.tenantId = tenantId → a.redemptionLedgerEntryId = ledgerEntryId →
      (∀ l ∈ db.lots[a.creditLotId]?, l.tenantId = a.tenantId → l.customerId = e.customerId) ∧
        db.allocationTargetMatches a e.customerId

/-- `validate_redemption_allocation_commit_state`. -/
def validate_redemption_allocation_commit_state (db : Database) (allocationId : Nat) : Prop :=
  ∀ a ∈ db.allocations[allocationId]?,
    db.validate_debit_allocation_invariants_for_ledger a.tenantId a.redemptionLedgerEntryId ∧
      db.validate_credit_lot_balance_evidence_for_lot a.tenantId a.creditLotId

/-- `validate_allocation_restoration_commit_state`. -/
def validate_allocation_restoration_commit_state (db : Database) (restorationId : Nat) : Prop :=
  ∀ r ∈ db.restorations[restorationId]?,
    ∃ a ∈ db.allocations[r.allocationId]?, a.tenantId = r.tenantId ∧
      (∃ e ∈ db.ledger[r.reversalLedgerEntryId]?, e.tenantId = r.tenantId ∧ e.type = .REVERSAL ∧
        e.direction = .CREDIT ∧ e.reversesEntryId = some a.redemptionLedgerEntryId) ∧
      db.validate_credit_lot_balance_evidence_for_lot r.tenantId a.creditLotId

/-- `validate_allocation_restoration_total`. -/
def validate_allocation_restoration_total (db : Database) (restorationId : Nat) : Prop :=
  ∀ r ∈ db.restorations[restorationId]?, ∀ a ∈ db.allocations[r.allocationId]?,
    a.tenantId = r.tenantId →
      db.restorations.tally (fun x => x.tenantId = r.tenantId ∧ x.allocationId = r.allocationId)
        (·.amountKobo) ≤ a.amountKobo

/-- `validate_credit_expiry_commit_state`. -/
def validate_credit_expiry_commit_state (db : Database) (expiryId : Nat) : Prop :=
  ∀ x ∈ db.expiries[expiryId]?,
    ∃ l ∈ db.lots[x.creditLotId]?, ∃ e ∈ db.ledger[x.ledgerEntryId]?,
      l.tenantId = x.tenantId ∧ e.tenantId = x.tenantId ∧
      l.customerId = x.customerId ∧ e.customerId = x.customerId ∧
      e.type = .EXPIRY ∧ e.direction = .DEBIT ∧ e.receiptId = none ∧
      e.amountKobo = x.amountKobo ∧ l.expiresAt = x.expiredAt ∧ e.effectiveAt = x.expiredAt ∧
      db.validate_credit_lot_balance_evidence_for_lot x.tenantId x.creditLotId

/-- The count of the lots of an entry is one. -/
def hasOneCreditLot (db : Database) (tenantId : String) (ledgerEntryId : Nat) : Prop :=
  (db.lots.filter fun l => l.tenantId = tenantId ∧ l.earnLedgerEntryId = ledgerEntryId).length = 1

/-- The adjustment selected for an entry matches it. -/
def adjustmentMatches (db : Database) (ledgerEntryId : Nat) (e : LoyaltyLedgerEntry) : Prop :=
  ∃ a, (db.adjustments.find fun a => a.tenantId = e.tenantId && a.ledgerEntryId = ledgerEntryId).map
      Prod.snd = some a ∧
    a.tenantId = e.tenantId ∧ a.customerId = e.customerId ∧ a.kind = e.direction ∧
    a.amountKobo = e.amountKobo ∧ a.effectiveAt = e.effectiveAt ∧ a.ledgerEntryId = ledgerEntryId

/-- The allocations of an entry add up to its amount. -/
def allocationTotalMatches (db : Database) (ledgerEntryId : Nat) (e : LoyaltyLedgerEntry) : Prop :=
  db.allocations.tally
    (fun a => a.tenantId = e.tenantId ∧ a.redemptionLedgerEntryId = ledgerEntryId)
    (·.amountKobo) = e.amountKobo

/-- `validate_ledger_entry_commit_state`. -/
def validate_ledger_entry_commit_state (db : Database) (ledgerEntryId : Nat) : Prop :=
  ∀ e ∈ db.ledger[ledgerEntryId]?,
    match e.type, e.direction with
    | .EARN, .CREDIT => e.receiptId ≠ none ∧ db.hasOneCreditLot e.tenantId ledgerEntryId
    | .REDEEM, .DEBIT => e.receiptId ≠ none ∧
        (∃ r ∈ db.redemptions, r.tenantId = e.tenantId ∧ r.ledgerEntryId = some ledgerEntryId ∧
          r.customerId = e.customerId ∧ r.status = .CONFIRMED) ∧
        db.allocationTotalMatches ledgerEntryId e
    | .ADJUSTMENT, .CREDIT => db.adjustmentMatches ledgerEntryId e ∧
        db.hasOneCreditLot e.tenantId ledgerEntryId
    | .ADJUSTMENT, .DEBIT => db.adjustmentMatches ledgerEntryId e ∧
        db.allocationTotalMatches ledgerEntryId e
    | .REVERSAL, .CREDIT =>
        (∃ i o, e.reversesEntryId = some i ∧ db.ledger[i]? = some o ∧ o.tenantId = e.tenantId ∧
          o.direction = .DEBIT ∧ o.customerId = e.customerId) ∧
        db.restorations.tally
          (fun r => r.tenantId = e.tenantId ∧ r.reversalLedgerEntryId = ledgerEntryId)
          (·.amountKobo) = e.amountKobo
    | .EXPIRY, .DEBIT => e.receiptId = none ∧
        ∃ x, (db.expiries.find fun x => x.tenantId = e.tenantId &&
            x.ledgerEntryId = ledgerEntryId).map Prod.snd = some x ∧
          x.customerId = e.customerId ∧ x.amountKobo = e.amountKobo ∧ x.expiredAt = e.effectiveAt
    | _, _ => False

end Database

/-- What the triggers check when a transaction commits. -/
structure CommitChecks (s t : Database) : Prop where
  ledger : ∀ i, s.ledger.length ≤ i → t.validate_ledger_entry_commit_state i
  lots : ∀ i, t.validate_credit_lot_balance_evidence i
  allocations : ∀ k, s.allocations.length ≤ k → t.validate_redemption_allocation_commit_state k
  restorations : ∀ n, s.restorations.length ≤ n → t.validate_allocation_restoration_commit_state n ∧
    t.validate_allocation_restoration_total n
  expiries : ∀ n, s.expiries.length ≤ n → t.validate_credit_expiry_commit_state n

/-! ### Why they hold -/

section checks

variable {s t : Database}

/-- A restoration, its allocation and their entries are of one tenant. -/
lemma Books.Sound.restoration_entries {b : Books} (h : b.Sound) {n : Nat}
    {r : AllocationRestoration} (hr : b.restorations[n]? = some r) :
    ∃ e a, b.RestorationSourced r e a ∧ e.direction = .CREDIT ∧ a.tenantId = r.tenantId := by
  obtain ⟨e, a, hs⟩ := h.restoration hr
  have htype := hs.type
  cases h.entry hs.entry with
  | credit _ hnone _ _ =>
      have hrev := hs.reverses
      rw [hnone] at hrev
      cases hrev
  | debit _ hback _ _ =>
      rcases hback with ⟨hbad, -⟩ | ⟨hbad, -⟩ <;> rw [htype] at hbad <;> cases hbad
  | expiry hbad _ _ _ _ =>
      rw [htype] at hbad
      cases hbad
  | @restore o x _ hdirection _ hrev hreverses _ _ =>
      obtain rfl : o = a.redemptionLedgerEntryId := Option.some.inj (hrev.symm.trans hs.reverses)
      obtain ⟨k, hk⟩ : ∃ k, b.allocations[k]? = some a := ⟨_, hs.allocation⟩
      obtain ⟨e', l, ha⟩ := h.allocation hk
      obtain rfl : x = e' := Option.some.inj (hreverses.entry.symm.trans ha.entry)
      refine ⟨e, a, hs, hdirection, ?_⟩
      calc a.tenantId = x.tenantId := ha.tenantId
        _ = e.tenantId := hreverses.tenantId
        _ = r.tenantId := hs.tenantId.symm

/-- The sums of the triggers look at the tenant as well; the rows of a lot are all its tenant's. -/
lemma lot_evidence (hb : s.books.Balanced) {i : Nat} {l : CreditLot} (hl : s.lots[i]? = some l) :
    s.validate_credit_lot_balance_evidence_for_lot l.tenantId i := by
  have hrow : ∀ {k : Nat} {a}, s.allocations[k]? = some a → a.creditLotId = i →
      a.tenantId = l.tenantId := by
    intro k a hk hi
    obtain ⟨e, l', hs⟩ := hb.sound.allocation hk
    have hlot : s.lots[a.creditLotId]? = some l' := hs.lot
    rw [hi, hl] at hlot
    obtain rfl := Option.some.inj hlot
    exact hs.tenantId.trans hs.lot_tenantId.symm
  have hdrawn : s.allocations.tally (fun a => a.tenantId = l.tenantId ∧ a.creditLotId = i)
      (·.amountKobo) = s.books.drawn i := by
    refine Table.tally_congr_iff fun a ha => ⟨fun h => h.2, fun h => ⟨?_, h⟩⟩
    obtain ⟨k, hk⟩ := List.getElem?_of_mem ha
    exact hrow hk h
  have hrestored : s.restorations.tally (fun r => ∃ a ∈ s.allocations[r.allocationId]?,
      a.tenantId = r.tenantId ∧ a.tenantId = l.tenantId ∧ a.creditLotId = i) (·.amountKobo) =
      s.books.restored i := by
    refine Table.tally_congr_iff fun r hr => ?_
    constructor
    · rintro ⟨a, ha, -, -, hi⟩
      exact ⟨a, ha, hi⟩
    · rintro ⟨a, ha, hi⟩
      obtain ⟨n, hn⟩ := List.getElem?_of_mem hr
      obtain ⟨e, a', hs, -, hten⟩ := hb.sound.restoration_entries hn
      obtain rfl : a = a' := Option.some.inj (ha.symm.trans hs.allocation)
      exact ⟨a, ha, hten, hrow ha hi, hi⟩
  have hlapsed : s.expiries.tally (fun x => x.tenantId = l.tenantId ∧ x.creditLotId = i)
      (·.amountKobo) = s.books.lapsed i := by
    refine Table.tally_congr_iff fun x hx => ⟨fun h => h.2, fun h => ⟨?_, h⟩⟩
    obtain ⟨n, hn⟩ := List.getElem?_of_mem hx
    obtain ⟨e, l', hs⟩ := hb.sound.expiry hn
    have hlot : s.lots[x.creditLotId]? = some l' := hs.lot
    rw [h, hl] at hlot
    obtain rfl := Option.some.inj hlot
    exact hs.tenantId.trans hs.lot_tenantId.symm
  refine ⟨l, hl, rfl, ?_⟩
  rw [hdrawn, hrestored, hlapsed]
  exact (hb.conserved.lot hl).1

lemma allocated_eq (hb : s.books.Sound) {i : Nat} {e : LoyaltyLedgerEntry}
    (he : s.ledger[i]? = some e) :
    s.allocations.tally (fun a => a.tenantId = e.tenantId ∧ a.redemptionLedgerEntryId = i)
      (·.amountKobo) = s.books.charged i := by
  refine Table.tally_congr_iff fun a ha => ⟨fun h => h.2, fun h => ⟨?_, h⟩⟩
  obtain ⟨k, hk⟩ := List.getElem?_of_mem ha
  obtain ⟨e', l, hs⟩ := hb.allocation hk
  have hentry : s.ledger[a.redemptionLedgerEntryId]? = some e' := hs.entry
  rw [h, he] at hentry
  obtain rfl := Option.some.inj hentry
  exact hs.tenantId

lemma restored_eq (hb : s.books.Sound) {i : Nat} {e : LoyaltyLedgerEntry}
    (he : s.ledger[i]? = some e) :
    s.restorations.tally (fun r => r.tenantId = e.tenantId ∧ r.reversalLedgerEntryId = i)
      (·.amountKobo) = s.books.putBack i := by
  refine Table.tally_congr_iff fun r hr => ⟨fun h => h.2, fun h => ⟨?_, h⟩⟩
  obtain ⟨n, hn⟩ := List.getElem?_of_mem hr
  obtain ⟨e', a, hs⟩ := hb.restoration hn
  have hentry : s.ledger[r.reversalLedgerEntryId]? = some e' := hs.entry
  rw [h, he] at hentry
  obtain rfl := Option.some.inj hentry
  exact hs.tenantId

/-- The debit of an allocation has its evidence. -/
lemma allocation_checks (hb : s.books.Balanced) (hlink : Linked s) (k : Nat) :
    s.validate_redemption_allocation_commit_state k := by
  intro a ha
  obtain ⟨e, l, hs⟩ := hb.sound.allocation ha
  have hentry : s.ledger[a.redemptionLedgerEntryId]? = some e := hs.entry
  have hlot : s.lots[a.creditLotId]? = some l := hs.lot
  have hten : l.tenantId = a.tenantId := hs.lot_tenantId.trans hs.tenantId.symm
  have htotal : s.books.charged a.redemptionLedgerEntryId = e.amountKobo := by
    cases hb.sound.entry hs.entry with
    | credit hd _ _ _ => rw [hs.direction] at hd; cases hd
    | debit _ _ htotal _ => exact htotal
    | restore _ hd _ _ _ _ _ => rw [hs.direction] at hd; cases hd
    | expiry htype _ _ _ _ => rcases hs.type with hty | hty <;> rw [htype] at hty <;> cases hty
  refine ⟨⟨e, hentry, hs.tenantId.symm, hs.direction, hs.type, ?_, ?_⟩, hten ▸ lot_evidence hb hlot⟩
  · rw [hs.tenantId, allocated_eq hb.sound hentry]
    exact htotal
  · intro a' ha' _ hsame
    obtain ⟨k', hk'⟩ := List.getElem?_of_mem ha'
    obtain ⟨e', l', hs'⟩ := hb.sound.allocation hk'
    have hentry' : s.ledger[a'.redemptionLedgerEntryId]? = some e' := hs'.entry
    rw [hsame, hentry] at hentry'
    obtain rfl := Option.some.inj hentry'
    refine ⟨?_, ?_⟩
    · intro l'' hl'' _
      obtain rfl : l' = l'' := Option.some.inj (hs'.lot.symm.trans hl'')
      exact hs'.lot_customerId
    · unfold Database.allocationTargetMatches
      cases htarget : a'.target with
      | redemption j =>
          intro r hr _
          obtain ⟨d, e', hd⟩ := hlink.allocation hk' htarget
          obtain rfl : r = d := Option.some.inj (hr.symm.trans hd.redemption)
          have hentry' := hd.entry
          rw [hsame, hentry] at hentry'
          obtain rfl := Option.some.inj hentry'
          exact ⟨hd.ledgerEntryId, hd.customerId⟩
      | adjustment j =>
          intro x hx _
          have hserves := hs'.serves
          simp only [Books.Serves, htarget] at hserves
          obtain ⟨-, x', hx', hid⟩ := hserves
          obtain rfl : x = x' := Option.some.inj (hx.symm.trans hx')
          obtain ⟨e', hadj⟩ := hb.sound.adjustment hx
          have hentry' : s.ledger[x.ledgerEntryId]? = some e' := hadj.entry
          rw [hid, hsame, hentry] at hentry'
          obtain rfl := Option.some.inj hentry'
          exact ⟨hid, hadj.row.customerId⟩

lemma restoration_checks (hb : s.books.Balanced) (n : Nat) :
    s.validate_allocation_restoration_commit_state n ∧
      s.validate_allocation_restoration_total n := by
  constructor
  · intro r hr
    obtain ⟨e, a, hs, hdirection, hten⟩ := hb.sound.restoration_entries hr
    have ha : s.allocations[r.allocationId]? = some a := hs.allocation
    obtain ⟨e', l, hsa⟩ := hb.sound.allocation hs.allocation
    have hlot : l.tenantId = r.tenantId := (hsa.lot_tenantId.trans hsa.tenantId.symm).trans hten
    refine ⟨a, ha, hten, ⟨e, hs.entry, hs.tenantId.symm, hs.type, hdirection, hs.reverses⟩, ?_⟩
    exact hlot ▸ lot_evidence hb hsa.lot
  · intro r hr a ha hten
    have hsame : s.restorations.tally
        (fun x => x.tenantId = r.tenantId ∧ x.allocationId = r.allocationId) (·.amountKobo) =
        s.books.restoredAmount r.allocationId := by
      refine Table.tally_congr_iff fun x hx => ⟨fun h => h.2, fun h => ⟨?_, h⟩⟩
      obtain ⟨m, hm⟩ := List.getElem?_of_mem hx
      obtain ⟨e, a', hs, -, hten'⟩ := hb.sound.restoration_entries hm
      have ha' : s.allocations[x.allocationId]? = some a' := hs.allocation
      rw [h, ha] at ha'
      obtain rfl := Option.some.inj ha'
      exact hten'.symm.trans hten
    rw [hsame]
    exact hb.sound.restoredAmount_le ha

lemma expiry_checks (hb : s.books.Balanced) (n : Nat) :
    s.validate_credit_expiry_commit_state n := by
  intro x hx
  obtain ⟨e, l, hs⟩ := hb.sound.expiry hx
  have hdirection : e.direction = .DEBIT ∧ e.receiptId = none := by
    have htype := hs.type
    cases hb.sound.entry hs.entry with
    | credit _ _ hback _ =>
        rcases hback with ⟨hbad, -⟩ | ⟨hbad, -⟩ <;> rw [htype] at hbad <;> cases hbad
    | debit _ hback _ _ =>
        rcases hback with ⟨hbad, -⟩ | ⟨hbad, -⟩ <;> rw [htype] at hbad <;> cases hbad
    | restore hbad _ _ _ _ _ _ => rw [htype] at hbad; cases hbad
    | expiry _ hd hr _ _ => exact ⟨hd, hr⟩
  have hlt : l.tenantId = x.tenantId := hs.lot_tenantId.trans hs.tenantId.symm
  have hlc : l.customerId = x.customerId := hs.lot_customerId.trans hs.customerId.symm
  have hat : l.expiresAt = x.expiredAt := hs.lot_expiresAt.trans hs.expiredAt.symm
  exact ⟨l, hs.lot, e, hs.entry, hlt, hs.tenantId.symm, hlc, hs.customerId.symm, hs.type,
    hdirection.1, hdirection.2, hs.amountKobo.symm, hat, hs.expiredAt.symm,
    hlt ▸ lot_evidence hb hs.lot⟩

/-- A lot of an entry is its only one. -/
lemma one_credit_lot (hb : s.books.Sound) {i : Nat} {e : LoyaltyLedgerEntry}
    (he : s.ledger[i]? = some e)
    (hlot : ∃ (j : Nat) (l : CreditLot), s.lots[j]? = some l ∧ l.earnLedgerEntryId = i) :
    s.hasOneCreditLot e.tenantId i := by
  obtain ⟨j, l, hl, hi⟩ := hlot
  have hten : l.tenantId = e.tenantId := by
    obtain ⟨e', he', hof⟩ := hb.lot hl
    have hentry : s.ledger[l.earnLedgerEntryId]? = some e' := he'
    rw [hi, he] at hentry
    obtain rfl := Option.some.inj hentry
    exact hof.tenantId
  have hmem : l ∈ s.lots.filter fun l => l.tenantId = e.tenantId ∧ l.earnLedgerEntryId = i :=
    List.mem_filter.2 ⟨List.mem_of_getElem? hl, by simp [hten, hi]⟩
  have hnodup : ((s.lots.filter fun l => l.tenantId = e.tenantId ∧ l.earnLedgerEntryId = i).map
      (·.earnLedgerEntryId)).Nodup :=
    hb.lot_once.sublist (List.filter_sublist.map _)
  have hall : ∀ x ∈ (s.lots.filter fun l => l.tenantId = e.tenantId ∧ l.earnLedgerEntryId = i).map
      (·.earnLedgerEntryId), x = i := by
    intro x hx
    obtain ⟨l', hl', rfl⟩ := List.mem_map.1 hx
    have := (List.mem_filter.1 hl').2
    simp only [decide_eq_true_eq] at this
    exact this.2
  unfold Database.hasOneCreditLot
  have hlen := List.eq_replicate_of_mem hall
  rw [hlen, List.length_map] at hnodup
  have hle : (s.lots.filter fun l => l.tenantId = e.tenantId ∧ l.earnLedgerEntryId = i).length ≤
      1 :=
    List.nodup_replicate.1 hnodup
  have hpos := List.length_pos_of_mem hmem
  omega

lemma adjustment_found (hb : s.books.Sound) {i : Nat} {e : LoyaltyLedgerEntry}
    (he : s.ledger[i]? = some e)
    (hrow : ∃ (j : Nat) (a : Adjustment), s.adjustments[j]? = some a ∧ IsAdjustmentOf i e a) :
    s.adjustmentMatches i e := by
  obtain ⟨j, a, ha, hof⟩ := hrow
  unfold Database.adjustmentMatches
  cases hfind : s.adjustments.find fun a => a.tenantId = e.tenantId && a.ledgerEntryId = i with
  | none =>
      have hnone := Table.find_none.1 hfind a (List.mem_of_getElem? ha)
      simp [hof.tenantId, hof.ledgerEntryId] at hnone
  | some x =>
      obtain ⟨j', a'⟩ := x
      obtain ⟨ha', hp⟩ := Table.find_some hfind
      simp only [Bool.and_eq_true, decide_eq_true_eq] at hp
      obtain ⟨e', hs⟩ := hb.adjustment ha'
      have hentry : s.ledger[a'.ledgerEntryId]? = some e' := hs.entry
      rw [hp.2, he] at hentry
      obtain rfl := Option.some.inj hentry
      exact ⟨a', rfl, hp.1, hs.row.customerId, hs.row.kind, hs.row.amountKobo, hs.row.effectiveAt,
        hp.2⟩

lemma expiry_found (hb : s.books.Sound) {i : Nat} {e : LoyaltyLedgerEntry}
    (he : s.ledger[i]? = some e)
    (hrow : ∃ (j : Nat) (x : CreditExpiry), s.expiries[j]? = some x ∧ x.ledgerEntryId = i) :
    ∃ x, (s.expiries.find fun x => x.tenantId = e.tenantId && x.ledgerEntryId = i).map Prod.snd =
        some x ∧
      x.customerId = e.customerId ∧ x.amountKobo = e.amountKobo ∧ x.expiredAt = e.effectiveAt := by
  obtain ⟨j, x, hx, hi⟩ := hrow
  have hentry : ∀ {n : Nat} {y : CreditExpiry}, s.expiries[n]? = some y → y.ledgerEntryId = i →
      ∃ l, s.books.ExpirySourced y e l := by
    intro n y hy hid
    obtain ⟨e', l, hs⟩ := hb.expiry hy
    have hentry : s.ledger[y.ledgerEntryId]? = some e' := hs.entry
    rw [hid, he] at hentry
    obtain rfl := Option.some.inj hentry
    exact ⟨l, hs⟩
  cases hfind : s.expiries.find fun x => x.tenantId = e.tenantId && x.ledgerEntryId = i with
  | none =>
      obtain ⟨l, hs⟩ := hentry hx hi
      have hnone := Table.find_none.1 hfind x (List.mem_of_getElem? hx)
      simp [hs.tenantId, hi] at hnone
  | some y =>
      obtain ⟨n, y⟩ := y
      obtain ⟨hy, hp⟩ := Table.find_some hfind
      simp only [Bool.and_eq_true, decide_eq_true_eq] at hp
      obtain ⟨l, hs⟩ := hentry hy hp.2
      exact ⟨y, rfl, hs.customerId, hs.amountKobo, hs.expiredAt⟩

/-- An entry just written passes its check. -/
lemma entry_checks (hb : t.books.Balanced) (hc : Confirms s t) {i : Nat}
    (hi : s.ledger.length ≤ i) : t.validate_ledger_entry_commit_state i := by
  intro e he
  have hentry : t.ledger[i]? = some e := he
  cases hb.sound.entry he with
  | credit hdirection _ hback hlot =>
      have hone := one_credit_lot hb.sound hentry hlot
      rcases hback with ⟨htype, hreceipt⟩ | ⟨htype, -, hrow⟩
      · rw [htype, hdirection]
        exact ⟨hreceipt, hone⟩
      · rw [htype, hdirection]
        exact ⟨adjustment_found hb.sound hentry hrow, hone⟩
  | debit hdirection hback htotal _ =>
      have hsum : t.allocationTotalMatches i e := by
        unfold Database.allocationTotalMatches
        rw [allocated_eq hb.sound hentry]
        exact htotal
      rcases hback with ⟨htype, hreceipt⟩ | ⟨htype, -, hrow⟩
      · rw [htype, hdirection]
        obtain ⟨j, d, hd, hstatus⟩ := hc.entry hi hentry htype
        exact ⟨hreceipt, ⟨d, List.mem_of_getElem? hd.redemption, hd.tenantId, hd.ledgerEntryId,
          hd.customerId, hstatus⟩, hsum⟩
      · rw [htype, hdirection]
        exact ⟨adjustment_found hb.sound hentry hrow, hsum⟩
  | @restore o x htype hdirection _ hrev hreverses _ htotal =>
      have hx : x.direction = .DEBIT := by
        have hne := hreverses.direction
        rw [hdirection] at hne
        cases hx : x.direction with
        | CREDIT => exact absurd hx hne
        | DEBIT => rfl
      rw [htype, hdirection]
      refine ⟨⟨o, x, hrev, hreverses.entry, hreverses.tenantId, hx, hreverses.customerId⟩, ?_⟩
      rw [restored_eq hb.sound hentry]
      exact htotal
  | expiry htype hdirection hreceipt _ hrow =>
      rw [htype, hdirection]
      exact ⟨hreceipt, expiry_found hb.sound hentry hrow⟩

/-- **The commit checks** pass for every transaction that ran to its end. -/
lemma commitChecks (hb : t.books.Balanced) (hlink : Linked t) (hc : Confirms s t) :
    CommitChecks s t where
  ledger _ hi := entry_checks hb hc hi
  lots _ _ hl := lot_evidence hb hl
  allocations k _ := allocation_checks hb hlink k
  restorations n _ := restoration_checks hb n
  expiries n _ := expiry_checks hb n

end checks

/-! ### Entries and their evidence -/

namespace Books

/-- The credit lot of an entry: the only one, of its customer, amount and instant. -/
structure HasOneLot (b : Books) (i : Nat) (e : LoyaltyLedgerEntry) (j : Nat) (l : CreditLot) :
    Prop where
  lot : b.lots[j]? = some l
  entry : l.earnLedgerEntryId = i
  customer : l.tenantId = e.tenantId ∧ l.customerId = e.customerId
  amountKobo : l.originalAmountKobo = e.amountKobo
  earnedAt : l.earnedAt = e.effectiveAt
  only : ∀ {j' : Nat} {l'}, b.lots[j']? = some l' → l'.earnLedgerEntryId = i → j' = j

/-- The expiry of an entry: the only one, of its amount, dated at its lot's expiry. -/
structure HasOneExpiry (b : Books) (i : Nat) (e : LoyaltyLedgerEntry) (n : Nat) (x : CreditExpiry)
    (l : CreditLot) : Prop where
  expiry : b.expiries[n]? = some x
  entry : x.ledgerEntryId = i
  amountKobo : x.amountKobo = e.amountKobo
  lot : b.lots[x.creditLotId]? = some l
  expiredAt : x.expiredAt = l.expiresAt
  only : ∀ {n' : Nat} {x'}, b.expiries[n']? = some x' → x'.ledgerEntryId = i → n' = n

structure EntryEvidence (b : Books) : Prop where
  credit : ∀ {i : Nat} {e}, b.ledger[i]? = some e →
    e.type = .EARN ∨ (e.type = .ADJUSTMENT ∧ e.direction = .CREDIT) → ∃ j l, b.HasOneLot i e j l
  debit : ∀ {i : Nat} {e}, b.ledger[i]? = some e →
    e.type = .REDEEM ∨ (e.type = .ADJUSTMENT ∧ e.direction = .DEBIT) →
      b.charged i = e.amountKobo ∧
        ∀ {k : Nat} {a}, b.allocations[k]? = some a → a.redemptionLedgerEntryId = i →
          ∃ l, b.lots[a.creditLotId]? = some l ∧ l.tenantId = e.tenantId ∧
            l.customerId = e.customerId
  reversal : ∀ {i : Nat} {e}, b.ledger[i]? = some e → e.type = .REVERSAL →
    b.putBack i = e.amountKobo ∧ ∃ o, e.reversesEntryId = some o ∧
      ∀ {n : Nat} {r}, b.restorations[n]? = some r → r.reversalLedgerEntryId = i →
        ∃ a, b.allocations[r.allocationId]? = some a ∧ a.redemptionLedgerEntryId = o
  expiry : ∀ {i : Nat} {e}, b.ledger[i]? = some e → e.type = .EXPIRY →
    ∃ n x l, b.HasOneExpiry i e n x l

lemma Backing.type {b : Books} {onReceipt : LedgerEntryType} {i : Nat} {e : LoyaltyLedgerEntry}
    (h : b.Backing onReceipt i e) : e.type = onReceipt ∨ e.type = .ADJUSTMENT := by
  rcases h with ⟨htype, -⟩ | ⟨htype, -⟩
  · exact .inl htype
  · exact .inr htype

variable {b : Books}

lemma Sound.credit_evidence (h : b.Sound) {i : Nat} {e : LoyaltyLedgerEntry}
    (he : b.ledger[i]? = some e)
    (htype : e.type = .EARN ∨ (e.type = .ADJUSTMENT ∧ e.direction = .CREDIT)) :
    ∃ j l, b.HasOneLot i e j l := by
  cases h.entry he with
  | credit _ _ _ hlot =>
      obtain ⟨j, l, hl, hid⟩ := hlot
      obtain ⟨e', he', hof⟩ := h.lot hl
      rw [hid, he] at he'
      obtain rfl := Option.some.inj he'
      refine ⟨j, l, hl, hid, ⟨hof.tenantId, hof.customerId⟩, hof.amountKobo, hof.earnedAt, ?_⟩
      intro j' l' hl' hid'
      exact Table.eq_of_nodup_map h.lot_once hl' hl (hid'.trans hid.symm)
  | debit hdirection hback _ _ =>
      rcases htype with htype | ⟨-, hcredit⟩
      · rcases hback.type with hbad | hbad <;> rw [htype] at hbad <;> cases hbad
      · rw [hdirection] at hcredit; cases hcredit
  | restore hbad _ _ _ _ _ _ =>
      rcases htype with htype | ⟨htype, -⟩ <;> rw [htype] at hbad <;> cases hbad
  | expiry hbad _ _ _ _ =>
      rcases htype with htype | ⟨htype, -⟩ <;> rw [htype] at hbad <;> cases hbad

lemma Sound.debit_evidence (h : b.Sound) {i : Nat} {e : LoyaltyLedgerEntry}
    (he : b.ledger[i]? = some e)
    (htype : e.type = .REDEEM ∨ (e.type = .ADJUSTMENT ∧ e.direction = .DEBIT)) :
    b.charged i = e.amountKobo := by
  cases h.entry he with
  | credit hdirection _ hback _ =>
      rcases htype with htype | ⟨-, hdebit⟩
      · rcases hback.type with hbad | hbad <;> rw [htype] at hbad <;> cases hbad
      · rw [hdirection] at hdebit; cases hdebit
  | debit _ _ htotal _ => exact htotal
  | restore hbad _ _ _ _ _ _ =>
      rcases htype with htype | ⟨htype, -⟩ <;> rw [htype] at hbad <;> cases hbad
  | expiry hbad _ _ _ _ =>
      rcases htype with htype | ⟨htype, -⟩ <;> rw [htype] at hbad <;> cases hbad

lemma Sound.allocation_lot (h : b.Sound) {i k : Nat} {e : LoyaltyLedgerEntry}
    {a : RedemptionAllocation} (he : b.ledger[i]? = some e) (ha : b.allocations[k]? = some a)
    (hid : a.redemptionLedgerEntryId = i) : ∃ l, b.lots[a.creditLotId]? = some l ∧
      l.tenantId = e.tenantId ∧ l.customerId = e.customerId := by
  obtain ⟨e', l, hs⟩ := h.allocation ha
  have hentry := hs.entry
  rw [hid, he] at hentry
  obtain rfl := Option.some.inj hentry
  exact ⟨l, hs.lot, hs.lot_tenantId, hs.lot_customerId⟩

lemma Sound.reversal_evidence (h : b.Sound) {i : Nat} {e : LoyaltyLedgerEntry}
    (he : b.ledger[i]? = some e) (htype : e.type = .REVERSAL) :
    b.putBack i = e.amountKobo ∧ ∃ o, e.reversesEntryId = some o := by
  cases h.entry he with
  | credit _ _ hback _ =>
      rcases hback.type with hbad | hbad <;> rw [htype] at hbad <;> cases hbad
  | debit _ hback _ _ =>
      rcases hback.type with hbad | hbad <;> rw [htype] at hbad <;> cases hbad
  | restore _ _ _ hrev _ _ htotal => exact ⟨htotal, _, hrev⟩
  | expiry hbad _ _ _ _ => rw [htype] at hbad; cases hbad

lemma Sound.expiry_evidence (h : b.Sound) {i : Nat} {e : LoyaltyLedgerEntry}
    (he : b.ledger[i]? = some e) (htype : e.type = .EXPIRY) :
      ∃ n x l, b.HasOneExpiry i e n x l := by
  cases h.entry he with
  | credit _ _ hback _ =>
      rcases hback.type with hbad | hbad <;> rw [htype] at hbad <;> cases hbad
  | debit _ hback _ _ =>
      rcases hback.type with hbad | hbad <;> rw [htype] at hbad <;> cases hbad
  | restore hbad _ _ _ _ _ _ => rw [htype] at hbad; cases hbad
  | expiry _ _ _ _ hrow =>
      obtain ⟨n, x, hx, hid⟩ := hrow
      obtain ⟨e', l, hs⟩ := h.expiry hx
      have hentry := hs.entry
      rw [hid, he] at hentry
      obtain rfl := Option.some.inj hentry
      refine ⟨n, x, l, hx, hid, hs.amountKobo, hs.lot, ?_, ?_⟩
      · exact hs.expiredAt.trans hs.lot_expiresAt.symm
      · intro n' x' hx' hid'
        exact Table.eq_of_nodup_map h.expiry_once hx' hx (hid'.trans hid.symm)

lemma Sound.entryEvidence (h : b.Sound) : b.EntryEvidence where
  credit := h.credit_evidence
  debit he htype := ⟨h.debit_evidence he htype, fun ha hid => h.allocation_lot he ha hid⟩
  reversal {i e} he htype := by
    obtain ⟨htotal, o, hrev⟩ := h.reversal_evidence he htype
    refine ⟨htotal, o, hrev, fun {n r} hr hid => ?_⟩
    obtain ⟨e', a, hs⟩ := h.restoration hr
    have hentry := hs.entry
    rw [hid, he] at hentry
    obtain rfl := Option.some.inj hentry
    have hsame : a.redemptionLedgerEntryId = o := Option.some.inj (hs.reverses.symm.trans hrev)
    exact ⟨a, hs.allocation, hsame⟩
  expiry := h.expiry_evidence

end Books

/-- **Every entry has its evidence**, and the commit checks refuse no completed operation. -/
theorem per_entry_evidence {rt : Runtime} {s : System} (hs : Reachable rt s) :
    s.db.books.EntryEvidence ∧
      ∀ {op : Op} {t : System}, Step rt op s t → CommitChecks s.db t.db := by
  have h := hs.invariants
  refine ⟨h.books.sound.entryEvidence, fun {op t} hst => ?_⟩
  have hout := hst.outcome h.books.sound
  exact commitChecks (hst.invariants h).books (hs.step hst).linked (hout.confirms h.desk)

/-- A purchase, a redemption and its reversal. -/
theorem per_entry_evidence_shop :
    ∃ s, Shop.opened.runAll Shop.runtime [Shop.earn "k1" 9000000,
        Shop.redeem "k2" ⟨1000000, by decide⟩ ⟨60000, by decide⟩, Shop.reverse "k3" 1] = .ok s ∧
      s.db.books.EntryEvidence ∧
      ∀ {op : Op} {t : System}, Step Shop.runtime op s t → CommitChecks s.db t.db := by
  obtain ⟨s, hrun, hs⟩ := Reachable.of_runAll Shop.runtime Shop.registry [Shop.earn "k1" 9000000,
    Shop.redeem "k2" ⟨1000000, by decide⟩ ⟨60000, by decide⟩, Shop.reverse "k3" 1]
    (by decide +kernel) (by simp [Shop.earn, Shop.redeem, Shop.reverse, Op.Admissible])
  exact ⟨s, hrun, per_entry_evidence hs⟩

end ShopcityLoyalty
