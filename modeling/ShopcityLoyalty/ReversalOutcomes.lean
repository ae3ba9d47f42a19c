import ShopcityLoyalty.CaptureOutcomes
import ShopcityLoyalty.BooksSound
import ShopcityLoyalty.Reversal

/-!
What a committed reversal leaves: the compensation of a credit, the restoration of a debit,
both halves of a settlement pair, or nothing where a recorded response is returned.
-/

namespace ShopcityLoyalty

open Txn Database

namespace ReversalsService

variable {rt : Runtime} {input : ReversalInput} {s t : Database} {u : Unit} {now : Int}

/-! ### The two writes of a reversal -/

/-- A credit taken back by one allocation of its lot. -/
structure Compensated (input : ReversalInput) (customerId : String) (creditEntryId lotId : Nat)
    (amountKobo : PositiveKobo) (correlationId : CorrelationId) (now : Int) (l : CreditLot)
    (row : RedemptionAllocation) (s t : Database) : Prop where
  lot : s.lots[lotId]? = some l
  earned : l.earnLedgerEntryId = creditEntryId
  whole : l.remainingAmountKobo = l.originalAmountKobo
  amount : amountKobo = l.originalAmountKobo
  unexpired : now < l.expiresAt
  admits : s.Admits (compensatingEntry input customerId creditEntryId amountKobo correlationId now)
  onLot : row.creditLotId = lotId
  posting : DebitPosting
    (compensatingEntry input customerId creditEntryId amountKobo correlationId now) [row]
    (.adjustment s.adjustments.length)
    [compensatingAdjustment input customerId amountKobo s.ledger.length now] s.books t.books
  frame : t = { s with
    ledger := s.ledger ++
      [compensatingEntry input customerId creditEntryId amountKobo correlationId now]
    adjustments := s.adjustments ++
      [compensatingAdjustment input customerId amountKobo s.ledger.length now]
    allocations := s.allocations ++ [row]
    lots := t.lots }

/-- The credit a compensation is for. -/
structure Compensable (input : ReversalInput) (customerId : String) (creditEntryId lotId : Nat)
    (amountKobo : PositiveKobo) (s : Database) : Prop where
  credit : ∃ o, s.ledger[creditEntryId]? = some o ∧ o.direction = .CREDIT ∧
    (o.type = .EARN ∨ o.type = .ADJUSTMENT) ∧ o.tenantId = input.actor.tenantId ∧
    o.customerId = customerId
  unreversed : ¬ s.books.reversed creditEntryId
  lot : ∃ l, s.lots[lotId]? = some l ∧ l.earnLedgerEntryId = creditEntryId ∧
    l.remainingAmountKobo = l.originalAmountKobo ∧ amountKobo = l.originalAmountKobo

lemma compensateCredit_ok {customerId : String} {creditEntryId lotId : Nat}
    {amountKobo : PositiveKobo} {correlationId : CorrelationId} {i : Nat}
    {allocations : List PersistedAllocation}
    (hc : Compensable input customerId creditEntryId lotId amountKobo s)
    (h : compensateCredit input customerId creditEntryId lotId amountKobo correlationId now s =
      .ok ((i, allocations), t)) :
    ∃ l row, Compensated input customerId creditEntryId lotId amountKobo correlationId
      now l row s t ∧
      i = s.ledger.length ∧ allocations = [⟨lotId, amountKobo, 1, l.expiresAt⟩] := by
  simp only [compensateCredit, bind_ok, insertLedgerEntry_ok, insertAdjustment_ok, pure_ok,
    Prod.mk.injEq] at h
  obtain ⟨_, _, ⟨hadm, rfl, rfl⟩, _, _, ⟨-, -, -, rfl, rfl⟩, as, _, hdraw, ⟨rfl, rfl⟩, rfl⟩ := h
  obtain ⟨l, row, hl, hexp, has, hd⟩ := LotAllocationService.allocateDebitFromExactLot_ok hdraw
  obtain ⟨l', hl', hearn, hwhole, hamt⟩ := hc.lot
  obtain rfl : l = l' := Option.some.inj (hl.symm.trans hl')
  have hrow := hd.returned
  rw [has, List.forall₂_cons] at hrow
  obtain ⟨hrow, -⟩ := hrow
  refine ⟨l, row, ⟨hl, hearn, hwhole, hamt, hexp, hadm, hrow.creditLotId, ?_, hd.frame⟩, rfl, has⟩
  refine debit_of_drawn rfl hd rfl rfl rfl rfl rfl ?_ ⟨rfl, rfl⟩ ?_
  · exact .adjustment rfl rfl ⟨rfl, rfl, rfl, rfl, rfl, rfl⟩
  · intro o ho
    obtain rfl : creditEntryId = o := Option.some.inj ho
    obtain ⟨o, ho, hdir, htype, hten, hcus⟩ := hc.credit
    refine ⟨⟨o, ho, hdir, htype, hten, hcus⟩, hc.unreversed, rfl, lotId, l, row, hl, hearn, hwhole,
      rfl, hrow.creditLotId, Subtype.ext ?_, hrow.allocationOrder⟩
    rw [hrow.amountKobo, ← hamt]

/-- The row a planned restoration is stored as. -/
structure IsRestoration (input : ReversalInput) (reversalLedgerEntryId : Nat)
    (p : PlannedRestoration) (r : AllocationRestoration) : Prop where
  tenantId : r.tenantId = input.actor.tenantId
  allocationId : r.allocationId = p.allocationId
  reversalLedgerEntryId : r.reversalLedgerEntryId = reversalLedgerEntryId
  amountKobo : (r.amountKobo : Int) = p.amountKobo

lemma restore_ok {customerId : String} {e : Nat} {changed : Fault} {p : PlannedRestoration}
    (h : restore input customerId e changed p s = .ok (u, t)) :
    ∃ r, IsRestoration input e p r ∧
      t = { s with restorations := s.restorations ++ [r], lots := t.lots } ∧
      Moved (fun i => if p.creditLotId = i then p.amountKobo else 0) s.lots t.lots := by
  simp only [restore, bind_ok, get_ok, orFault_ok, putRemaining_ok, insertRestoration_ok, pure_ok,
    PositiveKobo.of?_eq_some] at h
  obtain ⟨_, _, ⟨rfl, rfl⟩, l, _, ⟨hl, rfl⟩, _, _, ⟨l', hl', rfl⟩, k, _, ⟨hk, rfl⟩, _, _,
    ⟨-, rfl, rfl⟩, -, rfl⟩ := h
  obtain ⟨hl, -⟩ := Option.filter_eq_some_iff.1 hl
  exact ⟨_, ⟨rfl, rfl, rfl, hk.symm⟩, rfl, Moved.set hl hl'⟩

lemma restores_ok {customerId : String} {e : Nat} {changed : Fault}
    {planned : List PlannedRestoration}
    (h : each (restore input customerId e changed) planned s = .ok (u, t)) :
    ∃ rows, List.Forall₂ (IsRestoration input e) planned rows ∧
      t = { s with restorations := s.restorations ++ rows, lots := t.lots } ∧
      Moved (fun i => Table.tally planned (fun p => p.creditLotId = i) (·.amountKobo))
        s.lots t.lots := by
  induction planned generalizing s with
  | nil =>
      obtain rfl := each_nil_ok.1 h
      exact ⟨[], .nil, by simp, .refl _⟩
  | cons p rest ih =>
      obtain ⟨_, s', hp, hrest⟩ := each_cons_ok.1 h
      obtain ⟨r, hr, hs', hm⟩ := restore_ok hp
      obtain ⟨rows, hrows, ht, hm'⟩ := ih hrest
      refine ⟨r :: rows, .cons hr hrows, ?_, (hm.trans hm').congr fun i => ?_⟩
      · rw [ht, hs']; simp
      · rw [Table.tally_cons]

/-- A debit put back. -/
structure Restored (input : ReversalInput) (customerId : String) (debitEntryId : Nat)
    (amountKobo : PositiveKobo) (correlationId : CorrelationId) (now : Int)
    (planned : List PlannedRestoration) (rows : List AllocationRestoration)
    (s t : Database) : Prop where
  written : List.Forall₂ (IsRestoration input s.ledger.length) planned rows
  plan : LotAllocationService.Planned s input.actor.tenantId debitEntryId now planned
  admits : s.Admits (restoringEntry input customerId debitEntryId amountKobo correlationId now)
  posting : RestorePosting
    (restoringEntry input customerId debitEntryId amountKobo correlationId now) debitEntryId rows
    s.books t.books
  frame : t = { s with
    ledger := s.ledger ++
      [restoringEntry input customerId debitEntryId amountKobo correlationId now]
    restorations := s.restorations ++ rows
    lots := t.lots }

/-- The debit a restoration is for, with what is planned for it. -/
structure Restorable (input : ReversalInput) (customerId : String) (debitEntryId : Nat)
    (amountKobo : PositiveKobo) (now : Int) (planned : List PlannedRestoration)
    (s : Database) : Prop where
  debit : ∃ o, s.ledger[debitEntryId]? = some o ∧ o.direction = .DEBIT ∧
    (o.type = .REDEEM ∨ o.type = .ADJUSTMENT) ∧ o.tenantId = input.actor.tenantId ∧
    o.customerId = customerId
  unreversed : ¬ s.books.reversed debitEntryId
  plan : LotAllocationService.Planned s input.actor.tenantId debitEntryId now planned
  total : totalPlanned planned = amountKobo

lemma restoreDebit_ok {customerId : String} {debitEntryId : Nat} {amountKobo : PositiveKobo}
    {correlationId : CorrelationId} {changed : Fault} {planned : List PlannedRestoration} {i : Nat}
    (hr : Restorable input customerId debitEntryId amountKobo now planned s)
    (h : restoreDebit input customerId debitEntryId amountKobo correlationId changed planned now s =
      .ok (i, t)) :
    ∃ rows, Restored input customerId debitEntryId amountKobo correlationId now planned rows s t ∧
      i = s.ledger.length := by
  simp only [restoreDebit, bind_ok, insertLedgerEntry_ok, pure_ok] at h
  obtain ⟨_, _, ⟨hadm, rfl, rfl⟩, _, _, heach, rfl, rfl⟩ := h
  obtain ⟨rows, hrows, ht, hm⟩ := restores_ok heach
  have hplan := hr.plan
  refine ⟨rows, ⟨hrows, hplan, hadm, ?_, ht⟩, rfl⟩
  have hids : planned.map (·.allocationId) = rows.map (·.allocationId) :=
    hrows.map_eq_map fun p r h => h.allocationId.symm
  refine
    { type := rfl, direction := rfl, receiptId := rfl, reversesEntryId := rfl, debit := hr.debit
      unreversed := hr.unreversed
      each := fun r hmem => ?_
      complete := fun {j a} ha hten hent hpos => ?_
      nodup := hids ▸ hplan.nodup
      total := ?_
      moved := hm.congr fun j => ?_
      books := by rw [ht]; rfl }
  · obtain ⟨p, hp, hrow⟩ := hrows.exists_left_of_mem hmem
    obtain ⟨-, a, ha, -, hent, hpl⟩ := hplan.sound p hp
    refine ⟨hrow.tenantId, hrow.reversalLedgerEntryId, a, by
      rw [hrow.allocationId]; exact ha, hent, ?_⟩
    rw [hrow.amountKobo, hrow.allocationId, hpl.amountKobo]
    rfl
  · obtain ⟨p, hp, rfl⟩ := hplan.complete ha hten hent hpos
    obtain ⟨r, hmem, hrow⟩ := hrows.exists_right_of_mem hp
    exact ⟨r, hmem, hrow.allocationId⟩
  · rw [← hrows.map_eq_map fun p r h => h.amountKobo.symm]
    exact hr.total
  · -- a restoration goes to the lot of its allocation
    have hlot : ∀ p ∈ planned, ∀ r, IsRestoration input s.ledger.length p r →
        (s.books.restoresLot j r ↔ p.creditLotId = j) := by
      intro p hp r hrow
      obtain ⟨-, a, ha, -, -, hpl⟩ := hplan.sound p hp
      have ha' : s.books.allocations[r.allocationId]? = some a := by
        rw [hrow.allocationId]; exact ha
      simp [Books.restoresLot, ha', hpl.creditLotId]
    clear ht hm hids heach hplan hr
    induction hrows with
    | nil => rfl
    | @cons p r ps rs hrow hrest ih =>
        have hp := hlot p List.mem_cons_self r hrow
        rw [Table.tally_cons, Table.tally_cons, hrow.amountKobo,
          ih fun p hp => hlot p (.tail _ hp)]
        simp only [← hp]

/-- What marking the redemption of an entry leaves. -/
inductive Marked (tenantId : String) (entryId : Nat) (now : Int) (s : Database) : Database → Prop
  | nothing : Marked tenantId entryId now s s
  | redemption {i d} (row : s.redemptions[i]? = some d) (entry : d.ledgerEntryId = some entryId)
      (tenant : d.tenantId = tenantId)
        (stateMachine : (reversedRedemption now d).stateMachineCheck) :
      Marked tenantId entryId now s
        { s with redemptions := s.redemptions.set i (reversedRedemption now d) }

lemma redemptionOf_some {entryId i : Nat} {d : Redemption}
    (h : redemptionOf s entryId = some (i, d)) :
    s.redemptions[i]? = some d ∧ d.ledgerEntryId = some entryId := by
  obtain ⟨hi, hp⟩ := Table.find_some h
  exact ⟨hi, by simpa using hp⟩

lemma markRedemptionReversed_ok {tenantId : String} {entryId : Nat}
    (h : markRedemptionReversed tenantId entryId now s = .ok (u, t)) :
    Marked tenantId entryId now s t := by
  simp only [markRedemptionReversed, bind_ok, get_ok] at h
  obtain ⟨_, _, ⟨rfl, rfl⟩, h⟩ := h
  cases hf : (redemptionOf s entryId).filter fun r => r.2.tenantId = tenantId with
  | none =>
      rw [hf] at h
      obtain ⟨-, rfl⟩ := pure_ok.1 h
      exact .nothing
  | some r =>
      obtain ⟨i, d⟩ := r
      rw [hf] at h
      obtain ⟨d', hd', hsm, rfl⟩ := modifyRedemption_ok.1 h
      obtain ⟨hr, hten⟩ := Option.filter_eq_some_iff.1 hf
      obtain ⟨hd, hent⟩ := redemptionOf_some hr
      obtain rfl : d = d' := Option.some.inj (hd.symm.trans hd')
      exact .redemption hd hent (by simpa using hten) hsm

/-- The redemption that is found for an entry is marked. -/
def MarksFound (tenantId : String) (entryId : Nat) (now : Int) (s t : Database) : Prop :=
  ∀ i d, redemptionOf s entryId = some (i, d) → d.tenantId = tenantId →
    t.redemptions = s.redemptions.set i (reversedRedemption now d)

lemma markRedemptionReversed_found {tenantId : String} {entryId : Nat}
    (h : markRedemptionReversed tenantId entryId now s = .ok (u, t)) :
    MarksFound tenantId entryId now s t := by
  intro i d hfound hten
  simp only [markRedemptionReversed, bind_ok, get_ok] at h
  obtain ⟨_, _, ⟨rfl, rfl⟩, h⟩ := h
  have hf : (redemptionOf s entryId).filter (fun r => r.2.tenantId = tenantId) = some (i, d) := by
    rw [hfound]
    simp [hten]
  rw [hf] at h
  obtain ⟨d', hd', -, rfl⟩ := modifyRedemption_ok.1 h
  obtain rfl : d = d' := Option.some.inj ((redemptionOf_some hfound).1.symm.trans hd')
  rfl

lemma Marked.frame {tenantId : String} {entryId : Nat} (h : Marked tenantId entryId now s t) :
    t = { s with redemptions := t.redemptions } := by
  cases h <;> rfl

/-! ### The reversal of one entry -/

lemma reversedByEntries_eq_nil {i : Nat} : reversedByEntries s i = [] ↔ ¬ s.books.reversed i := by
  rw [List.eq_nil_iff_forall_not_mem]
  constructor
  · rintro h ⟨x, hx, hr⟩
    obtain ⟨j, hj⟩ := List.getElem?_of_mem hx
    exact h (j, x) (Table.mem_select.2 ⟨hj, by simpa using hr⟩)
  · rintro h ⟨j, x⟩ hx
    obtain ⟨hj, hr⟩ := Table.mem_select.1 hx
    exact h ⟨x, List.mem_of_getElem? hj, by simpa using hr⟩

lemma creditLotOf_some {entryId i : Nat} {l : CreditLot} (h : creditLotOf s entryId = some (i, l)) :
    s.lots[i]? = some l ∧ l.earnLedgerEntryId = entryId := by
  obtain ⟨hi, hp⟩ := Table.find_some h
  exact ⟨hi, by simpa using hp⟩

lemma adjustmentOf_some {entryId i : Nat} {a : Adjustment}
    (h : adjustmentOf s entryId = some (i, a)) :
    s.adjustments[i]? = some a ∧ a.ledgerEntryId = entryId := by
  obtain ⟨hi, hp⟩ := Table.find_some h
  exact ⟨hi, by simpa using hp⟩

/-- The record a reversal leaves under its key. -/
def completedReversal (input : ReversalInput) (res : ReversalResponse) (finishedAt : Int) :
    IdempotencyRecord Response where
  requestHash := input.requestHash
  responseJson := some (.reversal res)
  status := .COMPLETED
  expiresAt := finishedAt + IDP_EXPIRY_MS

/-- The record is completed; outbox and audit log apart, nothing else changes. -/
def Completed (input : ReversalInput) (res : ReversalResponse) (finishedAt : Int)
    (s t : Database) : Prop :=
  t = { s with
    idempotency := Function.update s.idempotency input.key
      (some (completedReversal input res finishedAt))
    outbox := t.outbox
    auditLog := t.auditLog }

lemma finishUngrouped_ok {o : LoyaltyLedgerEntry} {phoneE164 : String} {receiptId : Option Nat}
    {i : Nat} {k : Int} {allocations : List PersistedAllocation}
    {restorations : List RestoredAmount} {finishedAt : Int} {res : ReversalResponse}
    (h : finishUngrouped rt input o phoneE164 receiptId i k allocations restorations now
      finishedAt s
      = .ok (res, t)) :
    res = ungroupedResponse s input o i k allocations restorations now ∧
      Completed input res finishedAt s t := by
  simp only [finishUngrouped, persistReverseNotification, persistReverseIdempotency,
    bind_ok, get_ok,
    insertOutboxEvent_ok, recordAudit_ok, updateIdempotencyRecord_ok, pure_ok] at h
  obtain ⟨_, _, ⟨rfl, rfl⟩, _, _, ⟨_, _, rfl, rfl⟩, _, _, rfl, _, _, ⟨-, rfl⟩, rfl, rfl⟩ := h
  exact ⟨rfl, rfl⟩

/-- A reversed credit. -/
structure CreditReversed (input : ReversalInput) (o : LoyaltyLedgerEntry) (lotId : Nat)
    (k : PositiveKobo) (l : CreditLot) (row : RedemptionAllocation) (now finishedAt : Int)
    (res : ReversalResponse) (m s t : Database) : Prop where
  direction : o.direction = .CREDIT
  type : o.type = .EARN ∨ o.type = .ADJUSTMENT
  compensated : Compensated input o.customerId input.transactionId lotId k
    (.request input.requestHash) now l row s m
  response : res = ungroupedResponse m input o s.ledger.length k [⟨lotId, k, 1, l.expiresAt⟩] [] now
  completed : Completed input res finishedAt m t

/-- A reversed debit. -/
structure DebitReversed (input : ReversalInput) (o : LoyaltyLedgerEntry) (k : PositiveKobo)
    (planned : List PlannedRestoration) (rows : List AllocationRestoration)
    (now finishedAt : Int) (res : ReversalResponse) (m w s t : Database) : Prop where
  direction : o.direction = .DEBIT
  type : o.type = .REDEEM ∨ o.type = .ADJUSTMENT
  restored : Restored input o.customerId input.transactionId k (.request input.requestHash) now
    planned rows s m
  marked : Marked input.actor.tenantId input.transactionId now m w
  found : o.type = .REDEEM → MarksFound input.actor.tenantId input.transactionId now m w
  unmarked : o.type ≠ .REDEEM → w = m
  response : res = ungroupedResponse w input o s.ledger.length k [] (restoredAmounts planned) now
  completed : Completed input res finishedAt w t

section one

variable {o : LoyaltyLedgerEntry} {phoneE164 : String} {finishedAt : Int} {res : ReversalResponse}

lemma creditAmount_ok {lotId : Nat} {l : CreditLot} {k : PositiveKobo} (hs : s.books.Sound)
    (h : creditAmount s input.transactionId o s = .ok ((lotId, l, k), t)) :
    s = t ∧ s.lots[lotId]? = some l ∧ l.earnLedgerEntryId = input.transactionId ∧
      k = l.originalAmountKobo := by
  simp only [creditAmount, bind_ok, rejectIf_ok, orFault_ok, pure_ok, Prod.mk.injEq] at h
  obtain ⟨_, _, ⟨hadj, rfl⟩, ⟨i, m⟩, _, ⟨hlot, rfl⟩, ⟨rfl, rfl, rfl⟩, hts⟩ := h
  obtain ⟨hl, hid⟩ := creditLotOf_some hlot
  refine ⟨hts.symm, hl, hid, ?_⟩
  split
  · rename_i htype
    cases ha : adjustmentOf s input.transactionId with
    | none => exact absurd ⟨htype, by rw [ha]; rfl⟩ hadj
    | some r =>
        obtain ⟨j, a⟩ := r
        obtain ⟨hj, hent⟩ := adjustmentOf_some ha
        obtain ⟨e, he⟩ := hs.adjustment hj
        obtain ⟨e', he', hsame⟩ := hs.lot hl
        have hee : s.ledger[input.transactionId]? = some e := hent ▸ he.entry
        have hee' : s.ledger[input.transactionId]? = some e' := hid ▸ he'
        obtain rfl : e = e' := Option.some.inj (hee.symm.trans hee')
        exact he.row.amountKobo.trans hsame.amountKobo.symm
  · rfl

lemma reverseCredit_ok (hs : s.books.Sound) (ho : s.ledger[input.transactionId]? = some o)
    (hten : o.tenantId = input.actor.tenantId) (hdir : o.direction = .CREDIT)
    (htype : o.type = .EARN ∨ o.type = .ADJUSTMENT)
    (hu : ¬ s.books.reversed input.transactionId)
    (h : reverseCredit rt input o phoneE164 now finishedAt s = .ok (res, t)) :
    ∃ lotId k l row m, CreditReversed input o lotId k l row now finishedAt res m s t := by
  simp only [reverseCredit, bind_ok, get_ok, rejectIf_ok, not_not] at h
  obtain ⟨_, _, ⟨rfl, rfl⟩, ⟨lotId, l, k⟩, _, hamount, _, _, ⟨-, rfl⟩, _, _,
    ⟨hwhole, rfl⟩, ⟨i, as⟩, m,
    hcomp, hfin⟩ := h
  obtain ⟨rfl, hl, hid, hk⟩ := creditAmount_ok hs hamount
  obtain ⟨l', row, hc, rfl, rfl⟩ := compensateCredit_ok
    ⟨⟨o, ho, hdir, htype, hten, rfl⟩, hu, l, hl, hid, hwhole, hk⟩ hcomp
  obtain ⟨hres, hdone⟩ := finishUngrouped_ok hfin
  exact ⟨lotId, k, l', row, m, hdir, htype, hc, hres, hdone⟩

lemma reverseDebit_ok (ho : s.ledger[input.transactionId]? = some o)
    (hten : o.tenantId = input.actor.tenantId) (hdir : o.direction = .DEBIT)
    (htype : o.type = .REDEEM ∨ o.type = .ADJUSTMENT)
    (hu : ¬ s.books.reversed input.transactionId)
    (h : reverseDebit rt input o phoneE164 now finishedAt s = .ok (res, t)) :
    ∃ k planned rows m w, DebitReversed input o k planned rows now finishedAt res m w s t := by
  simp only [reverseDebit, bind_ok, get_ok, orFault_ok, onlyIf_ok, PositiveKobo.of?_eq_some] at h
  obtain ⟨planned, _, hplan, k, _, ⟨hk, rfl⟩, i, m, hrest, _, w, hmark, _, _, ⟨rfl, rfl⟩, hfin⟩ := h
  obtain ⟨rfl, hp⟩ := LotAllocationService.planRestorations_ok hplan
  obtain ⟨rows, hr, rfl⟩ := restoreDebit_ok ⟨⟨o, ho, hdir, htype, hten, rfl⟩, hu, hp, hk⟩ hrest
  obtain ⟨hres, hdone⟩ := finishUngrouped_ok hfin
  rcases hmark with ⟨hredeem, hm⟩ | ⟨hother, rfl⟩
  · exact ⟨k, planned, rows, m, w, hdir, htype, hr, markRedemptionReversed_ok hm,
      fun _ => markRedemptionReversed_found hm, fun hne => absurd hredeem hne, hres, hdone⟩
  · exact ⟨k, planned, rows, m, m, hdir, htype, hr, .nothing, fun he => absurd he hother,
      fun _ => rfl, hres, hdone⟩

lemma reverseOne_ok (h : reverseOne rt input o phoneE164 now finishedAt s = .ok (res, t)) :
    (o.direction = .CREDIT ∧ (o.type = .EARN ∨ o.type = .ADJUSTMENT) ∧
        reverseCredit rt input o phoneE164 now finishedAt s = .ok (res, t)) ∨
      (o.direction = .DEBIT ∧ (o.type = .REDEEM ∨ o.type = .ADJUSTMENT) ∧
        reverseDebit rt input o phoneE164 now finishedAt s = .ok (res, t)) := by
  unfold reverseOne at h
  cases htype : o.type <;> cases hdir : o.direction <;> rw [htype, hdir] at h <;>
    first
      | exact .inl ⟨rfl, by simp, h⟩
      | exact .inr ⟨rfl, by simp, h⟩
      | exact absurd h (by simp)

end one

/-! ### The reversal of a pair -/

/-- The two entries of a receipt that one settlement wrote. -/
structure FoundPair (input : ReversalInput) (receiptId : Nat) (p : SettlementPair)
    (s : Database) : Prop where
  receipt : p.receiptId = receiptId
  pair : isPair (receiptEffects s receiptId)
  earn : s.ledger[p.earnId]? = some p.earn ∧ p.earn.receiptId = some receiptId
  earn_kind : p.earn.type = .EARN ∧ p.earn.direction = .CREDIT
  redeem : s.ledger[p.redeemId]? = some p.redeem ∧ p.redeem.receiptId = some receiptId
  redeem_kind : p.redeem.type = .REDEEM ∧ p.redeem.direction = .DEBIT
  tenantId : p.earn.tenantId = input.actor.tenantId ∧ p.redeem.tenantId = input.actor.tenantId
  customerId : p.earn.customerId = p.redeem.customerId
  redemption : s.redemptions[p.redemptionId]? = some p.redemption ∧
    p.redemption.ledgerEntryId = some p.redeemId
  settled : p.redemption.tenantId = input.actor.tenantId ∧ p.redemption.receiptId = receiptId ∧
    (p.redemption.status = .CONFIRMED ∨ p.redemption.status = .REVERSED)

lemma mem_receiptEffects {receiptId i : Nat} {e : LoyaltyLedgerEntry} :
    (i, e) ∈ receiptEffects s receiptId ↔ s.ledger[i]? = some e ∧ e.receiptId = some receiptId := by
  simp [receiptEffects]

lemma findPair_ok {receiptId : Nat} {p : SettlementPair} {v : Database}
    (h : findPair s input receiptId v = .ok (p, t)) : v = t ∧ FoundPair input receiptId p s := by
  simp only [findPair, bind_ok, rejectIf_ok, orFault_ok, pure_ok, not_not] at h
  obtain ⟨_, _, ⟨hpair, rfl⟩, ⟨earnId, earn⟩, _, ⟨hearn, rfl⟩, ⟨redeemId, redeem⟩, _,
    ⟨hredeem, rfl⟩,
    ⟨i, d⟩, _, ⟨hd, rfl⟩, _, _, ⟨hok, rfl⟩, rfl, rfl⟩ := h
  obtain ⟨hte, htr, hde, hdr, hcus, -, hdt, -, hdrec, hst, -⟩ := hok
  obtain ⟨he, her⟩ := mem_receiptEffects.1 (List.mem_of_find?_eq_some hearn)
  obtain ⟨hr, hrr⟩ := mem_receiptEffects.1 (List.mem_of_find?_eq_some hredeem)
  have hearnType : earn.type = .EARN := by simpa using List.find?_some hearn
  have hredeemType : redeem.type = .REDEEM := by simpa using List.find?_some hredeem
  exact ⟨rfl, rfl, hpair, ⟨he, her⟩, ⟨hearnType, hde⟩, ⟨hr, hrr⟩, ⟨hredeemType, hdr⟩, ⟨hte, htr⟩,
    hcus, redemptionOf_some hd, hdt, hdrec, hst⟩

/-- Both halves of a pair reversed. -/
structure PairReversed (input : ReversalInput) (p : SettlementPair) (lotId : Nat) (l : CreditLot)
    (row : RedemptionAllocation) (planned : List PlannedRestoration)
    (rows : List AllocationRestoration) (now finishedAt : Int) (res : ReversalResponse)
    (m u w s t : Database) : Prop where
  unreversed : ¬ s.books.reversed p.earnId ∧ ¬ s.books.reversed p.redeemId
  checked : checkAllocations s input p lotId s = .ok ((), s)
  compensated : Compensated input p.earn.customerId p.earnId lotId p.earn.amountKobo
    (.earnReversal input.requestHash) now l row s m
  restored : Restored input p.redeem.customerId p.redeemId p.redeem.amountKobo
    (.redeemReversal input.requestHash) now planned rows m u
  marked : Marked input.actor.tenantId p.redeemId now u w
  found : MarksFound input.actor.tenantId p.redeemId now u w
  response : res = groupedResponse w input p s.ledger.length m.ledger.length
    [⟨lotId, p.earn.amountKobo, 1, l.expiresAt⟩] planned now
  completed : Completed input res finishedAt w t

/-- What was planned for a debit is still to be restored after another entry's posting. -/
lemma Planned.compensated {customerId : String} {creditEntryId debitEntryId lotId : Nat}
    {k : PositiveKobo} {c : CorrelationId} {l : CreditLot} {row : RedemptionAllocation}
    {planned : List PlannedRestoration} {m : Database}
    (h : LotAllocationService.Planned s input.actor.tenantId debitEntryId now planned)
    (hc : Compensated input customerId creditEntryId lotId k c now l row s m)
    (hlt : debitEntryId < s.ledger.length) :
    LotAllocationService.Planned m input.actor.tenantId debitEntryId now planned := by
  have hall : m.allocations = s.allocations ++ [row] := by rw [hc.frame]
  have hrest : ∀ j, LotAllocationService.restoredAmount m j =
      LotAllocationService.restoredAmount s j := by
    intro j
    unfold LotAllocationService.restoredAmount
    rw [hc.frame]
  have hrow : row.redemptionLedgerEntryId = s.ledger.length :=
    (hc.posting.each row (List.mem_singleton_self row)).2.1
  refine ⟨h.nonempty, fun p hp => ?_, fun {i a} ha hten hent hpos => ?_, h.nodup⟩
  · obtain ⟨hpos, a, ha, hten, hent, hpl⟩ := h.sound p hp
    obtain ⟨x, hx, hexp, hpe⟩ := hpl.lot
    obtain ⟨x', hx', hs, -⟩ := hc.posting.moved.lot hx
    refine ⟨hpos, a, by rw [hall]; exact Table.getElem?_append ha, hten, hent, hpl.allocationId,
      hpl.creditLotId, by rw [hrest]; exact hpl.amountKobo, hpl.nonneg, x', hx', ?_, ?_⟩
    · rw [hs.expiresAt]; exact hexp
    · rw [hs.expiresAt]; exact hpe
  · rw [hall, Table.getElem?_insert_iff] at ha
    rcases ha with ha | ⟨-, rfl⟩
    · exact h.complete ha hten hent (by rw [← hrest]; exact hpos)
    · omega

section pair

variable {p : SettlementPair} {receiptId : Nat} {finishedAt : Int} {phoneE164 : String}
  {res : ReversalResponse}

lemma checkAllocations_ok {lotId : Nat} {v : Database}
    (h : checkAllocations s input p lotId v = .ok (u, t)) : v = t := by
  rw [checkAllocations, rejectIf_ok] at h
  exact h.2

lemma reverseFreshPair_ok (hp : FoundPair input receiptId p s)
    (hue : ¬ s.books.reversed p.earnId) (hur : ¬ s.books.reversed p.redeemId)
    (h : reverseFreshPair rt input p phoneE164 now finishedAt s = .ok (res, t)) :
    ∃ lotId l row planned rows m u w,
      PairReversed input p lotId l row planned rows now finishedAt res m u w s t := by
  simp only [reverseFreshPair, checkEarnLot, persistReverseNotification,
    persistReverseIdempotency, bind_ok, get_ok, orFault_ok, rejectIf_ok, insertOutboxEvent_ok,
    recordAudit_ok, updateIdempotencyRecord_ok, pure_ok, not_not] at h
  obtain ⟨_, _, ⟨rfl, rfl⟩, ⟨_, _⟩, _,
    ⟨⟨lotId, l⟩, _, ⟨hlot, rfl⟩, _, _, ⟨hok, rfl⟩, ⟨rfl, rfl⟩, hts⟩,
    _, _, hchecked, planned, _, hplan, _, _, ⟨htotal, rfl⟩, ⟨ei, as⟩, m, hcomp, _, _,
      ⟨-, rfl⟩, ri, v,
    hrest, _, w, hmark, _, _, ⟨rfl, rfl⟩, _, _, ⟨_, _, rfl, rfl⟩, _, _, rfl, _, _, ⟨-, rfl⟩,
      hres, ht⟩ := h
  obtain rfl := hts.symm
  obtain rfl := checkAllocations_ok hchecked
  obtain ⟨rfl, hplanned⟩ := LotAllocationService.planRestorations_ok hplan
  obtain ⟨hl, hid⟩ := creditLotOf_some hlot
  obtain ⟨-, -, horig, hwhole, -⟩ := hok
  obtain ⟨l', row, hc, rfl, rfl⟩ := compensateCredit_ok
    ⟨⟨p.earn, hp.earn.1, hp.earn_kind.2, .inl hp.earn_kind.1, hp.tenantId.1, rfl⟩, hue, l, hl, hid,
      hwhole, horig.symm⟩ hcomp
  have hlt := Table.lt_of_getElem? hp.redeem.1
  have hledger : m.ledger = s.ledger ++ [compensatingEntry input p.earn.customerId p.earnId
      p.earn.amountKobo (.earnReversal input.requestHash) now] := by rw [hc.frame]
  have hne : p.earnId ≠ p.redeemId := by
    intro he
    have hsame := Option.some.inj (hp.earn.1.symm.trans (he ▸ hp.redeem.1))
    have htypes := hp.redeem_kind.1
    rw [← hsame, hp.earn_kind.1] at htypes
    cases htypes
  have hunreversed : ¬ m.books.reversed p.redeemId := by
    rintro ⟨y, hy, hyr⟩
    change y ∈ m.ledger at hy
    rw [hledger, List.mem_append, List.mem_singleton] at hy
    rcases hy with hy | rfl
    · exact hur ⟨y, hy, hyr⟩
    · exact hne (Option.some.inj hyr)
  obtain ⟨rows, hr, rfl⟩ := restoreDebit_ok
    ⟨⟨p.redeem, by rw [hledger]; exact Table.getElem?_append hp.redeem.1, hp.redeem_kind.2,
      .inl hp.redeem_kind.1, hp.tenantId.2, rfl⟩, hunreversed, Planned.compensated hplanned hc hlt,
      htotal⟩ hrest
  exact ⟨lotId, l', row, planned, rows, m, v, w, ⟨hue, hur⟩, hchecked, hc, hr,
    markRedemptionReversed_ok hmark, markRedemptionReversed_found hmark, hres,
    by rw [ht, hres]; rfl⟩

/-- A recorded response is returned for a pair whose history is whole. -/
structure PairReplayed (p : SettlementPair) (lotId : Nat) (l : CreditLot)
    (earnReversal redeemReversal : Nat × LoyaltyLedgerEntry) (h : Digest) (res : ReversalResponse)
    (s : Database) : Prop where
  earn : reversedByEntries s p.earnId = [earnReversal]
  redeem : reversedByEntries s p.redeemId = [redeemReversal]
  correlation : groupCorrelation earnReversal.2.correlationId = some h
  lot : creditLotOf s p.earnId = some (lotId, l)
  earnConsistent : earnCompensationConsistent s p lotId earnReversal
  redeemConsistent : redeemCompensationConsistent s p h redeemReversal
  amounts : l.originalAmountKobo = p.earn.amountKobo ∧ l.remainingAmountKobo = 0
  response : replayConsistent s p lotId earnReversal.1 redeemReversal.1 res

lemma replayPair_ok {existing : Option Response}
    (h : replayPair s p (reversedByEntries s p.earnId) (reversedByEntries s p.redeemId) existing s =
      .ok (res, t)) :
    s = t ∧ existing = some (.reversal res) ∧
      ∃ lotId l e r d, PairReplayed p lotId l e r d res s := by
  simp only [replayPair, bind_ok, rejectIf_ok, orFault_ok, not_or, not_not] at h
  obtain ⟨_, _, ⟨⟨hle, hlr⟩, rfl⟩, e, _, ⟨he, rfl⟩, r, _, ⟨hr, rfl⟩, d, _, ⟨hd, rfl⟩, ⟨lotId, l⟩, _,
    ⟨hlot, rfl⟩, _, _, ⟨⟨hec, hrc, horig, hzero⟩, rfl⟩, h⟩ := h
  obtain ⟨e', he'⟩ := List.length_eq_one_iff.1 hle
  obtain ⟨r', hr'⟩ := List.length_eq_one_iff.1 hlr
  rw [he'] at he
  rw [hr'] at hr
  obtain rfl : e' = e := by simpa using he
  obtain rfl : r' = r := by simpa using hr
  cases hx : existing with
  | none => rw [hx] at h; simp at h
  | some x =>
      rw [hx] at h
      cases x with
      | reversal x =>
          simp only [bind_ok, rejectIf_ok, pure_ok, not_not] at h
          obtain ⟨_, _, ⟨hok, rfl⟩, rfl, rfl⟩ := h
          exact ⟨rfl, rfl, lotId, l, e', r', d, he', hr', hd, hlot, hec, hrc, ⟨horig, hzero⟩, hok⟩
      | earn _ | redeem _ | decision _ | adjustment _ => simp at h

/-- What a request for a pair did. -/
inductive PairCommitted (input : ReversalInput) (p : SettlementPair) (now finishedAt : Int)
    (existing : Option Response) (res : ReversalResponse) (s t : Database) : Prop
  | reversed {lotId l row planned rows m u w} (fresh : existing = none)
      (h : PairReversed input p lotId l row planned rows now finishedAt res m u w s t)
  | replayed {lotId l e r d} (same : s = t) (recorded : existing = some (.reversal res))
      (h : PairReplayed p lotId l e r d res s)

lemma reversePairedSettlement_ok {existing : Option Response}
    (h : reversePairedSettlement rt input receiptId phoneE164 existing now finishedAt s =
      .ok (res, t)) :
    ∃ p, FoundPair input receiptId p s ∧ PairCommitted input p now finishedAt existing res s t := by
  simp only [reversePairedSettlement, bind_ok, get_ok, rejectIf_ok] at h
  obtain ⟨_, _, ⟨rfl, rfl⟩, p, _, hfind, _, _, ⟨-, rfl⟩, _, _, ⟨hex, rfl⟩, h⟩ := h
  obtain ⟨rfl, hp⟩ := findPair_ok hfind
  refine ⟨p, hp, ?_⟩
  split at h
  · rename_i hfresh
    have hnone : existing = none := by
      rw [← Option.not_isSome_iff_eq_none]
      exact fun hs => hex ⟨hs, hfresh⟩
    obtain ⟨lotId, l, row, planned, rows, m, v, w, hr⟩ := reverseFreshPair_ok hp
      (reversedByEntries_eq_nil.1 hfresh.1) (reversedByEntries_eq_nil.1 hfresh.2) h
    exact .reversed hnone hr
  · obtain ⟨rfl, hrec, lotId, l, e, r, d, hr⟩ := replayPair_ok h
    exact .replayed rfl hrec hr

end pair

/-! ### The transaction -/

/-- The record a reversal goes on with. -/
inductive Opened (input : ReversalInput) (startedAt : Int) (s : Database) :
    Option Response → Database → Prop
  | fresh (key : s.idempotency input.key = none) : Opened input startedAt s none
      { s with
        idempotency := Function.update s.idempotency input.key
          (some (pendingRecord input.requestHash startedAt)) }
  | found {r x} (key : s.idempotency input.key = some r) (hash : r.requestHash = input.requestHash)
      (response : r.responseJson = some x) : Opened input startedAt s (some x) s

lemma openRecord_ok {startedAt : Int} {existing : Option Response}
    (h : openRecord input startedAt s = .ok (existing, t)) :
    Opened input startedAt s existing t := by
  simp only [openRecord, bind_ok, get_ok] at h
  obtain ⟨_, _, ⟨rfl, rfl⟩, h⟩ := h
  cases hk : s.idempotency input.key with
  | none =>
      rw [hk] at h
      simp only [bind_ok, insertIdempotencyRecord_ok, pure_ok] at h
      obtain ⟨_, _, ⟨-, rfl⟩, rfl, rfl⟩ := h
      exact .fresh hk
  | some r =>
      rw [hk] at h
      simp only [bind_ok, rejectIf_ok, orFault_ok, pure_ok, not_not] at h
      obtain ⟨_, _, ⟨hash, rfl⟩, x, _, ⟨hx, rfl⟩, rfl, rfl⟩ := h
      exact .found hk hash hx

/-- The entry a reversal is about, of the actor's tenant and a customer of the actor's branch. -/
structure Selected (input : ReversalInput) (o : LoyaltyLedgerEntry) (s : Database) : Prop where
  original : s.ledger[input.transactionId]? = some o
  tenantId : o.tenantId = input.actor.tenantId
  customer : ∃ c, s.registry.customers o.customerId = some c ∧
    ∀ b ∈ input.actor.branchId, b = c.branchId

/-- The receipt of the entry has no other effect, if there is a receipt. -/
def Alone (input : ReversalInput) (o : LoyaltyLedgerEntry) (s : Database) : Prop :=
  ∀ r, receiptOf s input.transactionId o = some r → ¬ hasOtherEffect s r input.transactionId

inductive ReverseCommitted (input : ReversalInput) (o : LoyaltyLedgerEntry) (now finishedAt : Int)
    (existing : Option Response) (s t : Database) : Response → Prop
  | credit {lotId k l row res m} (fresh : existing = none) (alone : Alone input o s)
      (unreversed : ¬ s.books.reversed input.transactionId)
      (h : CreditReversed input o lotId k l row now finishedAt res m s t) :
      ReverseCommitted input o now finishedAt existing s t (.reversal res)
  | debit {k planned rows res m w} (fresh : existing = none) (alone : Alone input o s)
      (unreversed : ¬ s.books.reversed input.transactionId)
      (h : DebitReversed input o k planned rows now finishedAt res m w s t) :
      ReverseCommitted input o now finishedAt existing s t (.reversal res)
  | pair {receiptId p res} (receipt : receiptOf s input.transactionId o = some receiptId)
      (other : hasOtherEffect s receiptId input.transactionId)
      (found : FoundPair input receiptId p s)
      (h : PairCommitted input p now finishedAt existing res s t) :
      ReverseCommitted input o now finishedAt existing s t (.reversal res)
  | replayed {res} (recorded : existing = some res) (alone : Alone input o s) (same : s = t) :
      ReverseCommitted input o now finishedAt existing s t res

/-- **A reversal transaction** reverses one entry or a pair, or returns a recorded response. -/
theorem reverseTransaction_ok {startedAt finishedAt : Int} {res : Response} (hs : s.books.Sound)
    (h : reverseTransaction rt input startedAt now finishedAt s = .ok (res, t)) :
    ∃ existing v o, Opened input startedAt s existing v ∧ Selected input o v ∧
      ReverseCommitted input o now finishedAt existing v t res := by
  simp only [reverseTransaction, bind_ok, get_ok, orFault_ok, rejectIf_ok] at h
  obtain ⟨existing, v, hopen, _, _, ⟨rfl, rfl⟩, o, _, ⟨ho, rfl⟩, c, _, ⟨hc, rfl⟩, _, _,
    ⟨hbranch, rfl⟩,
    h⟩ := h
  obtain ⟨ho, hten⟩ := Option.filter_eq_some_iff.1 ho
  have hopened := openRecord_ok hopen
  have hbooks : v.books = s.books := by cases hopened <;> rfl
  refine ⟨existing, v, o, hopened, ⟨ho, by simpa using hten, c, hc, ?_⟩, ?_⟩
  · intro b hb
    rw [Option.mem_def] at hb
    simpa [hb] using hbranch
  cases hr : (receiptOf v input.transactionId o).filter
      fun r => hasOtherEffect v r input.transactionId with
  | some receiptId =>
      rw [hr] at h
      simp only [bind_ok, pure_ok] at h
      obtain ⟨r, _, hpair, rfl, rfl⟩ := h
      obtain ⟨p, hp, hout⟩ := reversePairedSettlement_ok hpair
      obtain ⟨hrec, hother⟩ := Option.filter_eq_some_iff.1 hr
      exact .pair hrec (by simpa using hother) hp hout
  | none =>
      have halone : Alone input o v := by
        intro r hrec
        rw [hrec] at hr
        simpa using hr
      rw [hr] at h
      cases hex : existing with
      | some x =>
          rw [hex] at h
          obtain ⟨rfl, rfl⟩ := pure_ok.1 h
          exact .replayed rfl halone rfl
      | none =>
          rw [hex] at h
          simp only [bind_ok, rejectIf_ok, pure_ok, not_not] at h
          obtain ⟨_, _, ⟨hnone, rfl⟩, r, _, hone, rfl, rfl⟩ := h
          have hu := reversedByEntries_eq_nil.1 hnone
          have hten' : o.tenantId = input.actor.tenantId := by simpa using hten
          rcases reverseOne_ok hone with ⟨hdir, htype, hcredit⟩ | ⟨hdir, htype, hdebit⟩
          · obtain ⟨lotId, k, l, row, m, hout⟩ :=
              reverseCredit_ok (hbooks ▸ hs) ho hten' hdir htype hu
              hcredit
            exact .credit rfl halone hu hout
          · obtain ⟨k, planned, rows, m, w, hout⟩ := reverseDebit_ok ho hten' hdir htype hu hdebit
            exact .debit rfl halone hu hout

end ReversalsService

end ShopcityLoyalty
