import ShopcityLoyalty.Invariants

/-!
What a reversal plans to put back into the lots of a debit, exactly.

The plan has what is left of each allocation, in their order. Writing it restores the debit
in full, and in every reachable state each lot has the room: what a lot is short of is what
is still out of its allocations and what lapsed.
-/

namespace ShopcityLoyalty

open Txn Database

namespace LotAllocationService

instance : Std.Total allocationOrderLe := ⟨fun _ _ => le_total _ _⟩

instance : IsTrans (Nat × RedemptionAllocation) allocationOrderLe :=
  ⟨fun _ _ _ hab hbc => le_trans hab hbc⟩

/-- Foreign keys of the allocations of a debit: each has its lot. -/
def OnLots (s : Database) (tenantId : String) (debitLedgerEntryId : Nat) : Prop :=
  ∀ a ∈ debitAllocations s tenantId debitLedgerEntryId, ∃ l, s.lots[a.2.creditLotId]? = some l

/-- Whether the lot of an allocation is expired. -/
def OnExpiredLot (s : Database) (now : Int) (a : Nat × RedemptionAllocation) : Prop :=
  ∃ l, s.lots[a.2.creditLotId]? = some l ∧ l.expiresAt ≤ now

/-- What is planned for an allocation. -/
def remainder (s : Database) (a : Nat × RedemptionAllocation) : PlannedRestoration where
  allocationId := a.1
  creditLotId := a.2.creditLotId
  amountKobo := a.2.amountKobo - restoredAmount s a.1
  expiresAt := (s.lots[a.2.creditLotId]?.map (·.expiresAt)).getD 0

/-- What is planned for a debit: the remainders that are not zero. -/
def remainders (s : Database) (tenantId : String) (debitLedgerEntryId : Nat) :
    List PlannedRestoration :=
  ((debitAllocations s tenantId debitLedgerEntryId).filter fun a =>
    restoredAmount s a.1 < a.2.amountKobo).map (remainder s)

variable {s t : Database} {tenantId : String} {debitLedgerEntryId : Nat} {now : Int}

lemma debitAllocations_ordered (s : Database) (tenantId : String) (debitLedgerEntryId : Nat) :
    (debitAllocations s tenantId debitLedgerEntryId).Pairwise allocationOrderLe :=
  List.pairwise_insertionSort _ _

lemma planRestoration_run {a : Nat × RedemptionAllocation} {l : CreditLot}
    (hl : s.lots[a.2.creditLotId]? = some l) (hexp : now < l.expiresAt)
    (hle : restoredAmount s a.1 ≤ a.2.amountKobo) :
    planRestoration now a s = .ok (remainder s a, s) := by
  have hremainder : remainder s a = ⟨a.1, a.2.creditLotId, a.2.amountKobo - restoredAmount s a.1,
      l.expiresAt⟩ := by
    simp [remainder, hl]
  simp only [planRestoration, bind_ok, get_ok, orFault_ok, rejectIf_ok, pure_ok]
  refine ⟨s, s, ⟨rfl, rfl⟩, l, s, ⟨hl, rfl⟩, (), s, ⟨by omega, rfl⟩, (), s,
    ⟨by omega, rfl⟩, ?_, rfl⟩
  exact hremainder

lemma filter_remainder (as : List (Nat × RedemptionAllocation)) :
    (as.map (remainder s)).filter (fun r => 0 < r.amountKobo) =
      (as.filter fun a => restoredAmount s a.1 < a.2.amountKobo).map (remainder s) := by
  rw [List.filter_map]
  refine congrArg (List.map (remainder s)) (List.filter_congr fun a _ => ?_)
  simp [remainder]

/-- The plan, when no lot is expired and no allocation restored beyond its amount. -/
lemma planRestorations_run (hlots : OnLots s tenantId debitLedgerEntryId)
    (hexp : ∀ a ∈ debitAllocations s tenantId debitLedgerEntryId, ¬ OnExpiredLot s now a)
    (hle : ∀ a ∈ debitAllocations s tenantId debitLedgerEntryId,
      restoredAmount s a.1 ≤ a.2.amountKobo)
    (hsome : ∃ a ∈ debitAllocations s tenantId debitLedgerEntryId,
      restoredAmount s a.1 < a.2.amountKobo) :
    planRestorations tenantId debitLedgerEntryId now s =
      .ok (remainders s tenantId debitLedgerEntryId, s) := by
  have hall : collect (planRestoration now) (debitAllocations s tenantId debitLedgerEntryId) s =
      .ok ((debitAllocations s tenantId debitLedgerEntryId).map (remainder s), s) := by
    refine collect_of_ok fun a ha => ?_
    obtain ⟨l, hl⟩ := hlots a ha
    refine planRestoration_run hl ?_ (hle a ha)
    by_contra hno
    exact hexp a ha ⟨l, hl, by omega⟩
  have hne : remainders s tenantId debitLedgerEntryId ≠ [] := by
    obtain ⟨a, ha, hlt⟩ := hsome
    have hmem : remainder s a ∈ remainders s tenantId debitLedgerEntryId :=
      List.mem_map_of_mem (List.mem_filter.2 ⟨ha, by simpa using hlt⟩)
    exact List.ne_nil_of_mem hmem
  simp only [planRestorations, bind_ok, get_ok, rejectIf_ok, pure_ok]
  refine ⟨s, s, ⟨rfl, rfl⟩, _, s, hall, (), s, ⟨?_, rfl⟩, ?_, rfl⟩
  · rw [filter_remainder]
    exact hne
  · rw [filter_remainder]
    rfl

/-- A plan that is made is the one of the remainders. -/
lemma planRestorations_eq {planned : List PlannedRestoration}
    (h : planRestorations tenantId debitLedgerEntryId now s = .ok (planned, t)) :
    (∀ a ∈ debitAllocations s tenantId debitLedgerEntryId,
      ¬ OnExpiredLot s now a ∧ restoredAmount s a.1 ≤ a.2.amountKobo) ∧
    ∃ a ∈ debitAllocations s tenantId debitLedgerEntryId,
      restoredAmount s a.1 < a.2.amountKobo := by
  have hkept := h
  simp only [planRestorations, bind_ok, get_ok, rejectIf_ok, pure_ok] at hkept
  obtain ⟨_, _, ⟨rfl, rfl⟩, all, s', hc, -⟩ := hkept
  obtain ⟨rfl, hall⟩ := collect_ok_of_read (fun a b t hb => (planRestoration_ok hb).1) hc
  have heach : ∀ a ∈ debitAllocations s' tenantId debitLedgerEntryId,
      ¬ OnExpiredLot s' now a ∧ restoredAmount s' a.1 ≤ a.2.amountKobo := by
    intro a ha
    obtain ⟨p, -, hp⟩ := hall.exists_right_of_mem ha
    obtain ⟨-, hplanned⟩ := planRestoration_ok hp
    obtain ⟨l, hl, hexp, -⟩ := hplanned.lot
    have hnonneg := hplanned.nonneg
    rw [hplanned.amountKobo] at hnonneg
    refine ⟨?_, by omega⟩
    rintro ⟨l', hl', hle⟩
    obtain rfl : l = l' := Option.some.inj (hl.symm.trans hl')
    omega
  refine ⟨heach, ?_⟩
  obtain ⟨rfl, hplan⟩ := planRestorations_ok h
  obtain ⟨p, hp⟩ := List.exists_mem_of_ne_nil _ hplan.nonempty
  obtain ⟨hpos, a, ha, hten, hent, hplanned⟩ := hplan.sound p hp
  rw [hplanned.amountKobo] at hpos
  exact ⟨(p.allocationId, a), mem_debitAllocations.2 ⟨ha, hten, hent⟩, by omega⟩

end LotAllocationService

/-! ### Room in the lots -/

namespace Books

variable {b : Books}

lemma Balanced.outstanding_le (h : b.Balanced) {i : Nat} {l : CreditLot}
    (hl : b.lots[i]? = some l) :
    l.remainingAmountKobo + ∑ k ∈ Finset.range b.allocations.length,
      (if b.onLot i k then b.outstanding k else 0) ≤ l.originalAmountKobo := by
  have hmem : i ∈ b.toLotBook.lots := by simpa [toLotBook] using Table.lt_of_getElem? hl
  have hcolumn := h.column hl
  have hgranted := granted_eq hl
  have hlapsed := h.laws.lapsed_nonneg i hmem
  have hsum := h.sound.drawn_sub_restored i
  have hremaining : b.toLotBook.remaining i =
      b.toLotBook.granted i - b.drawn i + b.restored i - b.toLotBook.lapsed i := rfl
  omega

end Books

namespace LotAllocationService

variable {s t : Database} {tenantId : String} {debitLedgerEntryId : Nat} {now : Int}

/-- What is planned on a lot is at most what is still out of its allocations. -/
lemma planned_le_outstanding (tenantId : String) (debitLedgerEntryId : Nat)
    (hs : s.books.Sound) (i : Nat) :
    Table.tally (remainders s tenantId debitLedgerEntryId) (fun p => p.creditLotId = i)
        (·.amountKobo) ≤
      ∑ k ∈ Finset.range s.allocations.length,
        if s.books.onLot i k then s.books.outstanding k else 0 := by
  set planned := remainders s tenantId debitLedgerEntryId with hplanned
  have hsound : ∀ p ∈ planned, p.allocationId < s.allocations.length ∧
      ((p.creditLotId = i ↔ s.books.onLot i p.allocationId) ∧
        p.amountKobo = s.books.outstanding p.allocationId) := by
    intro p hp
    obtain ⟨⟨k, a⟩, ha, rfl⟩ := List.mem_map.1 hp
    obtain ⟨hrow, -, -⟩ := mem_debitAllocations.1 (List.mem_filter.1 ha).1
    have hrow' : s.books.allocations[k]? = some a := hrow
    refine ⟨Table.lt_of_getElem? hrow, ?_, ?_⟩
    · simp [remainder, Books.onLot, hrow']
    · simp only [remainder, Books.outstanding, hrow', Option.map_some, Option.getD_some]
      rfl
  have hnodup : (planned.map (·.allocationId)).Nodup := by
    have hids : planned.map (·.allocationId) = ((debitAllocations s tenantId
        debitLedgerEntryId).filter fun a => restoredAmount s a.1 < a.2.amountKobo).map
          Prod.fst := by
      rw [hplanned, remainders, List.map_map]
      rfl
    rw [hids]
    exact (nodup_debitAllocations _ _ _).sublist (List.filter_sublist.map _)
  have hkeys : ∀ p ∈ planned, (fun q : PlannedRestoration => q.allocationId) p <
      s.allocations.length := fun p hp => (hsound p hp).1
  rw [← Table.sum_tally_key hkeys]
  refine Finset.sum_le_sum fun k _ => ?_
  have hnonneg := hs.outstanding_nonneg k
  by_cases hk : ∃ p ∈ planned, p.allocationId = k
  · obtain ⟨p, hp, rfl⟩ := hk
    obtain ⟨j, hj⟩ := List.getElem?_of_mem hp
    obtain ⟨-, hon, hamount⟩ := hsound p hp
    have hone := Table.tally_of_nodup_map (f := (·.amountKobo)) hnodup hj
    by_cases hlot : p.creditLotId = i
    · rw [if_pos (hon.1 hlot), ← hamount, ← hone]
      refine (Table.tally_congr_iff fun q hq => ?_).le
      constructor
      · exact fun h => h.1
      · intro hid
        obtain ⟨-, honq, -⟩ := hsound q hq
        exact ⟨hid, honq.2 (hid ▸ hon.1 hlot)⟩
    · rw [if_neg (fun h => hlot (hon.2 h)), Table.tally_eq_zero]
      rintro q hq ⟨hid, hqi⟩
      obtain ⟨-, honq, -⟩ := hsound q hq
      exact hlot (hon.2 (hid ▸ honq.1 hqi))
  · rw [Table.tally_eq_zero fun q hq h => hk ⟨q, hq, h.1⟩]
    split
    · exact hnonneg
    · exact le_rfl

lemma onLots_of_sound (hs : s.books.Sound) : OnLots s tenantId debitLedgerEntryId := by
  intro a ha
  have hrow : s.books.allocations[a.1]? = some a.2 := (mem_debitAllocations.1 ha).1
  obtain ⟨e, l, hsourced⟩ := hs.allocation hrow
  exact ⟨l, hsourced.lot⟩

/-- A debit whose allocations are restored to their amounts, by what was planned. -/
structure RestoredInFull (tenantId : String) (debitLedgerEntryId : Nat)
    (planned : List PlannedRestoration) (s t : Database) : Prop where
  allocations : t.allocations = s.allocations
  each : ∀ a ∈ debitAllocations t tenantId debitLedgerEntryId,
    restoredAmount t a.1 = a.2.amountKobo
  total : ((debitAllocations t tenantId debitLedgerEntryId).map fun a =>
      restoredAmount t a.1).sum =
    ((debitAllocations t tenantId debitLedgerEntryId).map fun a => (a.2.amountKobo : Int)).sum
  lots : ∀ (i : Nat) l, s.lots[i]? = some l → ∃ l', t.lots[i]? = some l' ∧
    l'.originalAmountKobo = l.originalAmountKobo ∧
    l'.remainingAmountKobo = l.remainingAmountKobo +
      Table.tally planned (fun p => p.creditLotId = i) (·.amountKobo) ∧
    l'.remainingAmountKobo ≤ l'.originalAmountKobo

end LotAllocationService

/-! ### Writing the plan -/

namespace ReversalsService

open LotAllocationService

variable {input : ReversalInput} {customerId : String} {e : Nat} {changed : Fault}
  {planned : List PlannedRestoration} {s t : Database} {debitEntryId : Nat} {now : Int}

/-- Planned restorations can be written when each lot has room for its share. -/
lemma restores_run (changed : Fault) (hpos : ∀ p ∈ planned, 0 < p.amountKobo)
    (hlots : ∀ p ∈ planned, ∃ l, s.lots[p.creditLotId]? = some l ∧
      l.tenantId = input.actor.tenantId ∧ l.customerId = customerId)
    (hroom : ∀ (i : Nat) l, s.lots[i]? = some l → l.remainingAmountKobo +
      Table.tally planned (fun p => p.creditLotId = i) (·.amountKobo) ≤ l.originalAmountKobo)
    (hids : (planned.map (·.allocationId)).Nodup)
    (hnew : ∀ x ∈ s.restorations, x.reversalLedgerEntryId = e → ∀ p ∈ planned,
      x.allocationId ≠ p.allocationId) :
    ∃ t, Txn.each (restore input customerId e changed) planned s = .ok ((), t) := by
  -- one restoration after the other, on the database that the ones before leave
  induction planned generalizing s with
  | nil => exact ⟨s, by simp⟩
  | cons p rest ih =>
      obtain ⟨l, hl, hten, hcus⟩ := hlots p List.mem_cons_self
      have hp := hpos p List.mem_cons_self
      have hrest : ∀ i, 0 ≤ Table.tally rest (fun p => p.creditLotId = i) (·.amountKobo) :=
        fun i => Table.tally_nonneg fun q hq _ => (hpos q (.tail _ hq)).le
      have hmax := hroom p.creditLotId l hl
      rw [Table.tally_cons, if_pos rfl] at hmax
      obtain ⟨l', hl'⟩ : ∃ l', l.withRemaining? (l.remainingAmountKobo + p.amountKobo) =
          some l' := by
        have hk : 0 ≤ l.remainingAmountKobo + p.amountKobo ∧
            l.remainingAmountKobo + p.amountKobo ≤ l.originalAmountKobo := by
          have hnonneg := l.remaining_nonneg
          have hshare := hrest p.creditLotId
          omega
        unfold CreditLot.withRemaining?
        rw [dif_pos hk]
        exact ⟨_, rfl⟩
      let row : AllocationRestoration :=
        { tenantId := input.actor.tenantId, allocationId := p.allocationId
          reversalLedgerEntryId := e, amountKobo := ⟨p.amountKobo, hp⟩ }
      let m : Database := { s with
        lots := s.lots.set p.creditLotId l', restorations := s.restorations ++ [row] }
      have hrun : restore input customerId e changed p s = .ok ((), m) := by
        simp only [restore, bind_ok, get_ok, orFault_ok, putRemaining_ok, insertRestoration_ok,
          pure_ok, PositiveKobo.of?_eq_some]
        refine ⟨s, s, ⟨rfl, rfl⟩, l, s, ⟨?_, rfl⟩, (), _, ⟨l', hl', rfl⟩, ⟨p.amountKobo, hp⟩, _,
          ⟨rfl, rfl⟩, _, _, ⟨?_, rfl, rfl⟩, trivial, rfl⟩
        · rw [hl]
          simp [hten, hcus]
        · intro x hx hid hentry
          exact hnew x hx hentry p List.mem_cons_self hid
      have hmoved := Moved.set hl hl'
      have hlots' : ∀ q ∈ rest, ∃ n, m.lots[q.creditLotId]? = some n ∧
          n.tenantId = input.actor.tenantId ∧ n.customerId = customerId := by
        intro q hq
        obtain ⟨n, hn, hnt, hnc⟩ := hlots q (.tail _ hq)
        obtain ⟨n', hn', hsame, -⟩ := hmoved.lot hn
        exact ⟨n', hn', hsame.tenantId.trans hnt, hsame.customerId.trans hnc⟩
      -- what `p` puts back is in its lot from here on, and out of what is still planned
      have hroom' : ∀ (i : Nat) n, m.lots[i]? = some n → n.remainingAmountKobo +
          Table.tally rest (fun p => p.creditLotId = i) (·.amountKobo) ≤ n.originalAmountKobo := by
        intro i n hn
        obtain ⟨n₀, hn₀, hsame, hrem⟩ := hmoved.lot_before hn
        have hbefore := hroom i n₀ hn₀
        rw [Table.tally_cons] at hbefore
        rw [hsame.originalAmountKobo, hrem]
        omega
      rw [List.map_cons, List.nodup_cons] at hids
      have hnew' : ∀ x ∈ m.restorations, x.reversalLedgerEntryId = e → ∀ q ∈ rest,
          x.allocationId ≠ q.allocationId := by
        intro x hx hentry q hq
        rcases List.mem_append.1 hx with hx | hx
        · exact hnew x hx hentry q (.tail _ hq)
        · obtain rfl := List.mem_singleton.1 hx
          intro he
          have hid : p.allocationId = q.allocationId := he
          exact hids.1 (hid ▸ List.mem_map_of_mem (f := (·.allocationId)) hq)
      obtain ⟨t, ht⟩ := ih (fun q hq => hpos q (.tail _ hq)) hlots' hroom' hids.2 hnew'
      exact ⟨t, each_cons_ok.2 ⟨(), m, hrun, ht⟩⟩

/-- What the restorations of an allocation are after a plan is written. -/
lemma restoredAmount_written {rows : List AllocationRestoration}
    (hplan : Planned s input.actor.tenantId debitEntryId now planned)
    (hrows : List.Forall₂ (IsRestoration input e) planned rows)
    (hrestorations : t.restorations = s.restorations ++ rows) {i : Nat} {a : RedemptionAllocation}
    (ha : s.allocations[i]? = some a) (hten : a.tenantId = input.actor.tenantId)
    (hent : a.redemptionLedgerEntryId = debitEntryId)
    (hle : restoredAmount s i ≤ a.amountKobo) : restoredAmount t i = a.amountKobo := by
  have hnew : Table.tally rows (fun r => r.allocationId = i) (fun r => (r.amountKobo : Int)) =
      Table.tally planned (fun p => p.allocationId = i) (·.amountKobo) := by
    clear hplan hrestorations
    induction hrows with
    | nil => rfl
    | cons h _ ih => rw [Table.tally_cons, Table.tally_cons, h.allocationId, h.amountKobo, ih]
  have hsplit : restoredAmount t i = restoredAmount s i +
      Table.tally planned (fun p => p.allocationId = i) (·.amountKobo) := by
    unfold restoredAmount
    rw [hrestorations, Table.tally_append, hnew]
  rw [hsplit]
  by_cases hopen : 0 < a.amountKobo - restoredAmount s i
  · obtain ⟨p, hp, rfl⟩ := hplan.complete ha hten hent hopen
    obtain ⟨j, hj⟩ := List.getElem?_of_mem hp
    obtain ⟨-, a', ha', -, -, hpl⟩ := hplan.sound p hp
    obtain rfl : a = a' := Option.some.inj (ha.symm.trans ha')
    have hamount := hpl.amountKobo
    rw [Table.tally_of_nodup_map hplan.nodup hj]
    simp only at hamount
    omega
  · rw [Table.tally_eq_zero]
    · omega
    · rintro p hp rfl
      obtain ⟨hpos, a', ha', -, -, hpl⟩ := hplan.sound p hp
      obtain rfl : a = a' := Option.some.inj (ha.symm.trans ha')
      have hamount := hpl.amountKobo
      simp only at hamount
      omega

/-- In balanced books a plan can be written, and restores its debit in full. -/
lemma restoreDebit_run (hs : s.books.Balanced) {o : LoyaltyLedgerEntry}
    (ho : s.ledger[debitEntryId]? = some o)
    (hplan : planRestorations input.actor.tenantId debitEntryId now s = .ok (planned, s))
    {amountKobo : PositiveKobo} {correlationId : CorrelationId}
    (hadmits : s.Admits (restoringEntry input o.customerId debitEntryId amountKobo correlationId
      now)) :
    ∃ t, restoreDebit input o.customerId debitEntryId amountKobo correlationId changed planned now
        s = .ok (s.ledger.length, t) ∧
      RestoredInFull input.actor.tenantId debitEntryId planned s t := by
  obtain ⟨-, hplanned⟩ := planRestorations_ok hplan
  obtain ⟨hsound, hsome⟩ := planRestorations_eq hplan
  have heq : planned = remainders s input.actor.tenantId debitEntryId := by
    have hrun := planRestorations_run (onLots_of_sound hs.sound) (fun a ha => (hsound a ha).1)
      (fun a ha => (hsound a ha).2) hsome
    rw [hplan] at hrun
    exact (Prod.mk.inj (Except.ok.inj hrun)).1
  let m : Database := { s with
    ledger := s.ledger ++ [restoringEntry input o.customerId debitEntryId amountKobo correlationId
      now] }
  have hlots : ∀ p ∈ planned, ∃ l, m.lots[p.creditLotId]? = some l ∧
      l.tenantId = input.actor.tenantId ∧ l.customerId = o.customerId := by
    intro p hp
    obtain ⟨-, a, ha, hten, hent, hpl⟩ := hplanned.sound p hp
    have hrow : s.books.allocations[p.allocationId]? = some a := ha
    obtain ⟨o', l, hsourced⟩ := hs.sound.allocation hrow
    have hentry := hsourced.entry
    rw [hent] at hentry
    obtain rfl : o = o' := Option.some.inj (ho.symm.trans hentry)
    refine ⟨l, ?_, ?_, hsourced.lot_customerId⟩
    · rw [hpl.creditLotId]
      exact hsourced.lot
    · rw [hsourced.lot_tenantId, ← hsourced.tenantId, hten]
  -- what is planned for a lot was drawn from it and not put back, so the lot has room
  have hroom : ∀ (i : Nat) l, m.lots[i]? = some l → l.remainingAmountKobo +
      Table.tally planned (fun p => p.creditLotId = i) (·.amountKobo) ≤ l.originalAmountKobo := by
    intro i l hl
    have hl' : s.books.lots[i]? = some l := hl
    have hshare := planned_le_outstanding input.actor.tenantId debitEntryId hs.sound i
    have hout := hs.outstanding_le hl'
    have hlen : s.books.allocations.length = s.allocations.length := rfl
    rw [hlen] at hout
    rw [heq]
    omega
  have hnew : ∀ x ∈ m.restorations, x.reversalLedgerEntryId = s.ledger.length → ∀ p ∈ planned,
      x.allocationId ≠ p.allocationId := by
    intro x hx hentry
    have hlt := hs.sound.lt_of_restoration hx
    have hlen : s.books.ledger.length = s.ledger.length := rfl
    omega
  obtain ⟨t, ht⟩ := restores_run changed (fun p hp => (hplanned.sound p hp).1) hlots
    hroom hplanned.nodup hnew
  obtain ⟨rows, hrows, hframe, hmoved⟩ := restores_ok ht
  have hallocations : t.allocations = s.allocations := by rw [hframe]
  have hrestorations : t.restorations = s.restorations ++ rows := by rw [hframe]
  have heach : ∀ a ∈ debitAllocations t input.actor.tenantId debitEntryId,
      restoredAmount t a.1 = a.2.amountKobo := by
    intro a ha
    rw [debitAllocations, hallocations] at ha
    obtain ⟨hrow, hten, hent⟩ := mem_debitAllocations.1 ha
    exact restoredAmount_written hplanned hrows hrestorations hrow hten hent (hsound a ha).2
  refine ⟨t, ?_, hallocations, heach, ?_, ?_⟩
  · rw [restoreDebit, bind_of_ok (insertLedgerEntry_ok.2 ⟨hadmits, rfl, rfl⟩), bind_of_ok ht]
    rfl
  · exact congrArg List.sum (List.map_congr_left heach)
  · intro i l hl
    obtain ⟨l', hl', hsame, hrem⟩ := hmoved.lot (show m.lots[i]? = some l from hl)
    exact ⟨l', hl', hsame.originalAmountKobo, hrem, l'.remaining_le⟩

end ReversalsService

/-! ### The plan -/

open LotAllocationService ReversalsService in
/-- **Restoration planning is exact.** The plan is rejected when a lot is expired, an allocation
over-restored or nothing left, and is otherwise what is left of each allocation, in their order.
In every reachable state it can be written, restores the debit in full, and raises no lot above
its original amount. -/
theorem planRestorations_exact (rt : Runtime) (s : Database) (tenantId : String)
    (debitLedgerEntryId : Nat) (now : Int) (hlots : OnLots s tenantId debitLedgerEntryId) :
    ((∃ e, planRestorations tenantId debitLedgerEntryId now s = .error e) ↔
      (∃ a ∈ debitAllocations s tenantId debitLedgerEntryId, OnExpiredLot s now a) ∨
      (∃ a ∈ debitAllocations s tenantId debitLedgerEntryId,
        a.2.amountKobo < restoredAmount s a.1) ∨
      ∀ a ∈ debitAllocations s tenantId debitLedgerEntryId,
        a.2.amountKobo ≤ restoredAmount s a.1) ∧
    (debitAllocations s tenantId debitLedgerEntryId).Pairwise allocationOrderLe ∧
    (∀ planned t, planRestorations tenantId debitLedgerEntryId now s = .ok (planned, t) →
      t = s ∧ planned = remainders s tenantId debitLedgerEntryId) ∧
    ∀ sys, Reachable rt sys → sys.db = s → ∀ (input : ReversalInput) o planned,
      input.actor.tenantId = tenantId → s.ledger[debitLedgerEntryId]? = some o →
      planRestorations tenantId debitLedgerEntryId now s = .ok (planned, s) →
      ∀ amountKobo correlationId changed,
        s.Admits (restoringEntry input o.customerId debitLedgerEntryId amountKobo correlationId
          now) →
        ∃ t, restoreDebit input o.customerId debitLedgerEntryId amountKobo correlationId changed
            planned now s = .ok (s.ledger.length, t) ∧
          RestoredInFull tenantId debitLedgerEntryId planned s t := by
  have hrun := fun hexp : ∀ a ∈ debitAllocations s tenantId debitLedgerEntryId,
      ¬ OnExpiredLot s now a => planRestorations_run hlots hexp
  refine ⟨⟨?_, ?_⟩, debitAllocations_ordered _ _ _, ?_, ?_⟩
  · rintro ⟨e, herror⟩
    by_contra hno
    push Not at hno
    obtain ⟨hexp, hle, hsome⟩ := hno
    rw [hrun hexp hle hsome] at herror
    cases herror
  · intro hbad
    cases hplan : planRestorations tenantId debitLedgerEntryId now s with
    | error e => exact ⟨e, rfl⟩
    | ok r =>
        obtain ⟨planned, t⟩ := r
        obtain ⟨heach, a, ha, hlt⟩ := planRestorations_eq hplan
        rcases hbad with ⟨b, hb, hexpired⟩ | ⟨b, hb, hover⟩ | hall
        · exact absurd hexpired (heach b hb).1
        · have hle := (heach b hb).2
          omega
        · have hle := hall a ha
          omega
  · intro planned t hplan
    obtain ⟨heach, hsome⟩ := planRestorations_eq hplan
    rw [hrun (fun a ha => (heach a ha).1) (fun a ha => (heach a ha).2) hsome] at hplan
    obtain ⟨rfl, rfl⟩ := Prod.mk.inj (Except.ok.inj hplan)
    exact ⟨rfl, rfl⟩
  · rintro sys hsys rfl input o planned rfl ho hplan amountKobo correlationId changed hadmits
    exact restoreDebit_run hsys.invariants.books ho hplan hadmits

open LotAllocationService in
/-- The debit of a redemption that nothing has reversed. -/
theorem planRestorations_exact_shop : ∃ t, Shop.opened.runAll Shop.runtime
      [Shop.earn "k1" 9000000, Shop.redeem "k2" ⟨1000000, by decide⟩ ⟨60000, by decide⟩] = .ok t ∧
    planRestorations "tenant" 1 Shop.night t.db = .ok (remainders t.db "tenant" 1, t.db) := by
  obtain ⟨t, hrun, ht⟩ := Reachable.of_runAll Shop.runtime Shop.registry
    [Shop.earn "k1" 9000000, Shop.redeem "k2" ⟨1000000, by decide⟩ ⟨60000, by decide⟩]
    (by decide +kernel) (by simp [Shop.earn, Shop.redeem, Op.Admissible])
  have hok : (planRestorations "tenant" 1 Shop.night t.db).isOk = true :=
    System.of_runAll_map hrun (f := fun t => (planRestorations "tenant" 1 Shop.night t.db).isOk)
      (by decide +kernel)
  refine ⟨t, hrun, ?_⟩
  obtain ⟨-, -, heq, -⟩ := planRestorations_exact Shop.runtime t.db "tenant" 1 Shop.night
    (onLots_of_sound ht.invariants.books.sound)
  cases hplan : planRestorations "tenant" 1 Shop.night t.db with
  | error e => rw [hplan] at hok; cases hok
  | ok r =>
      obtain ⟨planned, u⟩ := r
      obtain ⟨rfl, rfl⟩ := heq planned u hplan
      rfl

end ShopcityLoyalty
