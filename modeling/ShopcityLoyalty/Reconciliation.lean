import ShopcityLoyalty.Conservation

/-!
Reconciliation: `ReportsService.countCreditLotMismatches` compares what remains of each lot
with what its evidence leaves of it. Its four queries run beside each other and beside the
financial operations, so each may see another state of the database.
-/

namespace ShopcityLoyalty

open Database

/-- What the queries see. -/
structure ReconciliationReads where
  creditLots : Database
  redemptionAllocations : Database
  creditExpiries : Database
  allocationRestorations : Database

/-- All queries see one state. -/
def ReconciliationReads.quiescent (db : Database) : ReconciliationReads := ⟨db, db, db, db⟩

namespace ReportsService

/-- `allocatedByLot.get`, of one state. -/
def allocatedByLot (db : Database) (tenantId : String) (creditLotId : Nat) : Int :=
  db.allocations.tally (fun a => a.tenantId = tenantId ∧ a.creditLotId = creditLotId) (·.amountKobo)

def expiredByLot (db : Database) (tenantId : String) (creditLotId : Nat) : Int :=
  db.expiries.tally (fun x => x.tenantId = tenantId ∧ x.creditLotId = creditLotId) (·.amountKobo)

/-- A restoration counts for the lot of its allocation. -/
def restoredByLot (db : Database) (tenantId : String) (creditLotId : Nat) : Int :=
  db.restorations.tally (fun r => r.tenantId = tenantId ∧ db.books.restoresLot creditLotId r)
    (·.amountKobo)

/-- What the evidence leaves of a lot. -/
def evidencedKobo (reads : ReconciliationReads) (tenantId : String) (lot : Nat × CreditLot) : Int :=
  lot.2.originalAmountKobo - allocatedByLot reads.redemptionAllocations tenantId lot.1
    + restoredByLot reads.allocationRestorations tenantId lot.1
    - expiredByLot reads.creditExpiries tenantId lot.1

/-- The lots of a tenant that do not hold what is expected of them. -/
def countCreditLotMismatches (reads : ReconciliationReads) (tenantId : String) : Nat :=
  (reads.creditLots.lots.select fun l => l.tenantId = tenantId).countP fun lot =>
    lot.2.remainingAmountKobo ≠ max 0 (evidencedKobo reads tenantId lot)

end ReportsService

open ReportsService

/-! ### What the count promises -/

/-- The lots of a tenant whose remainder differs from what their evidence leaves. -/
def mismatchedLots (db : Database) (tenantId : String) : Nat :=
  (db.lots.select fun l => l.tenantId = tenantId).countP fun lot =>
    lot.2.remainingAmountKobo ≠ evidencedKobo (.quiescent db) tenantId lot

/-- What the evidence on a lot changes between the query of the lots and the other three. -/
def changedKobo (reads : ReconciliationReads) (tenantId : String) (lotId : Nat) : Int :=
  (allocatedByLot reads.creditLots tenantId lotId
      - allocatedByLot reads.redemptionAllocations tenantId lotId)
    + (restoredByLot reads.allocationRestorations tenantId lotId
      - restoredByLot reads.creditLots tenantId lotId)
    + (expiredByLot reads.creditLots tenantId lotId
      - expiredByLot reads.creditExpiries tenantId lotId)

variable {rt : Runtime} {s : System} {reads : ReconciliationReads} {tenantId : String}

/-- The state of the lots is as the books say, so that the rest is what changed. -/
lemma evidencedKobo_eq (hb : reads.creditLots.books.Balanced) {i : Nat} {l : CreditLot}
    (hl : reads.creditLots.lots[i]? = some l) (hten : l.tenantId = tenantId) :
    evidencedKobo reads tenantId (i, l) =
      l.remainingAmountKobo + changedKobo reads tenantId i := by
  have hdrawn : allocatedByLot reads.creditLots tenantId i = reads.creditLots.books.drawn i :=
    hb.sound.tenant_drawn hl hten
  have hrestored : restoredByLot reads.creditLots tenantId i = reads.creditLots.books.restored i :=
    hb.sound.tenant_restored hl hten
  have hlapsed : expiredByLot reads.creditLots tenantId i = reads.creditLots.books.lapsed i :=
    hb.sound.tenant_lapsed hl hten
  have hlaw := (hb.conserved.lot (i := i) hl).1
  unfold evidencedKobo changedKobo
  rw [hdrawn, hrestored, hlapsed, hlaw]
  simp only
  omega

/-- No alarm is raised exactly if the evidence changes no lot, save by lowering an empty one. -/
lemma no_alarm_iff (hb : reads.creditLots.books.Balanced) :
    countCreditLotMismatches reads tenantId = 0 ↔
      ∀ (i : Nat) (l : CreditLot), reads.creditLots.lots[i]? = some l → l.tenantId = tenantId →
        changedKobo reads tenantId i = 0 ∨
          (l.remainingAmountKobo = 0 ∧ changedKobo reads tenantId i < 0) := by
  unfold countCreditLotMismatches
  rw [List.countP_eq_zero]
  constructor
  · intro hnone i l hl hten
    have heq := hnone (i, l) (Table.mem_select.2 ⟨hl, decide_eq_true hten⟩)
    rw [evidencedKobo_eq hb hl hten] at heq
    have hnonneg := l.remaining_nonneg
    simp only [ne_eq, decide_not, Bool.not_eq_eq_eq_not, Bool.not_true, decide_eq_false_iff_not,
      not_not] at heq
    omega
  · rintro hsettled ⟨i, l⟩ hrow
    obtain ⟨hl, hten⟩ := Table.mem_select.1 hrow
    have hten' := of_decide_eq_true hten
    have hchanged := hsettled i l hl hten'
    have hnonneg := l.remaining_nonneg
    rw [evidencedKobo_eq hb hl hten']
    simp only [ne_eq, decide_not, Bool.not_eq_eq_eq_not, Bool.not_true, decide_eq_false_iff_not,
      not_not]
    omega

lemma countP_eq_of_imp_iff {α : Type} {p q : α → Bool} {l : List α}
    (hpq : ∀ a ∈ l, p a = true → q a = true) :
    l.countP p = l.countP q ↔ ∀ a ∈ l, q a = true → p a = true := by
  induction l with
  | nil => simp
  | cons a l ih =>
      have hle : l.countP p ≤ l.countP q := List.countP_mono_left fun b hb => hpq b (.tail _ hb)
      have hrest := ih fun b hb => hpq b (.tail _ hb)
      have ha := hpq a List.mem_cons_self
      rw [List.forall_mem_cons, ← hrest, List.countP_cons, List.countP_cons]
      cases hp : p a with
      | true => simp [ha hp]
      | false =>
          cases hq : q a with
          | true =>
              simp only [Bool.false_eq_true, if_false, if_true, forall_const, false_and, iff_false]
              omega
          | false => simp

/-- The count of one state is exact exactly if no empty lot has evidence below nothing. -/
lemma count_exact_iff (db : Database) :
    countCreditLotMismatches (.quiescent db) tenantId = mismatchedLots db tenantId ↔
      ∀ (i : Nat) (l : CreditLot), db.lots[i]? = some l → l.tenantId = tenantId →
        l.remainingAmountKobo = 0 → 0 ≤ evidencedKobo (.quiescent db) tenantId (i, l) := by
  unfold countCreditLotMismatches mismatchedLots
  change (db.lots.select _).countP _ = _ ↔ _
  rw [countP_eq_of_imp_iff]
  · constructor
    · intro hcounted i l hl hten hempty
      by_contra hneg
      have hmis := hcounted (i, l) (Table.mem_select.2 ⟨hl, decide_eq_true hten⟩)
        (decide_eq_true (by simp only; omega))
      have hne := of_decide_eq_true hmis
      simp only at hne
      omega
    · rintro hevidence ⟨i, l⟩ hrow hne
      obtain ⟨hl, hten⟩ := Table.mem_select.1 hrow
      have hten' := of_decide_eq_true hten
      have hdiffers := of_decide_eq_true hne
      have hbelow := hevidence i l hl hten'
      have hnonneg := l.remaining_nonneg
      refine decide_eq_true ?_
      simp only at hdiffers ⊢
      omega
  · rintro ⟨i, l⟩ - hne
    have hdiffers := of_decide_eq_true hne
    have hnonneg := l.remaining_nonneg
    refine decide_eq_true ?_
    simp only at hdiffers ⊢
    omega

/-- **Reconciliation**: from a state that was reached, whatever the other queries see, no alarm is
raised exactly if the evidence written in between changes no lot; and in one state, corrupted or
not, the count is exact exactly if no empty lot has evidence below nothing. -/
theorem reconciliation_exact_iff (hs : Reachable rt s) (hreads : reads.creditLots = s.db) :
    (countCreditLotMismatches reads tenantId = 0 ↔
      ∀ (i : Nat) (l : CreditLot), s.db.lots[i]? = some l → l.tenantId = tenantId →
        changedKobo reads tenantId i = 0 ∨
          (l.remainingAmountKobo = 0 ∧ changedKobo reads tenantId i < 0)) ∧
      ∀ db : Database,
        countCreditLotMismatches (.quiescent db) tenantId = mismatchedLots db tenantId ↔
          ∀ (i : Nat) (l : CreditLot), db.lots[i]? = some l → l.tenantId = tenantId →
            l.remainingAmountKobo = 0 → 0 ≤ evidencedKobo (.quiescent db) tenantId (i, l) := by
  have hbooks : reads.creditLots.books.Balanced := hreads ▸ hs.invariants.books
  rw [← hreads]
  exact ⟨no_alarm_iff hbooks, count_exact_iff⟩

/-! ### A shop -/

/-- A purchase with no one else at work. -/
theorem reconciliation_exact_shop : ∃ t, Shop.opened.runAll Shop.runtime [Shop.earn "k1" 9000000] =
    .ok t ∧ countCreditLotMismatches (.quiescent t.db) "tenant" = 0 := by
  obtain ⟨t, hrun, ht⟩ := Reachable.of_runAll Shop.runtime Shop.registry [Shop.earn "k1" 9000000]
    (by decide +kernel) (by simp [Shop.earn, Op.Admissible])
  refine ⟨t, hrun, (reconciliation_exact_iff ht rfl).1.2 fun i l _ _ => .inl ?_⟩
  simp [changedKobo, ReconciliationReads.quiescent]

namespace Shop

/-- The count when an operation commits after the query of the lots. -/
def countAround (op : Op) (t : System) : Except Fault Nat :=
  (t.run runtime op).map fun u => countCreditLotMismatches ⟨t.db, u.db, u.db, u.db⟩ "tenant"

/-- A spent lot whose allocations exceed it. -/
def overdrawn : Database :=
  { Database.initial registry with
    lots := [⟨"tenant", "customer", 0, ⟨100, by decide⟩, 0, night, night + 366 * 86400000,
      by decide, by decide, by decide +kernel⟩]
    allocations := [⟨"tenant", .redemption 0, 1, 0, ⟨150, by decide⟩, 1⟩] }

end Shop

/-- A redemption between the queries raises an alarm, and an overdrawn lot raises none. -/
theorem reconciliation_inexact :
    (∃ t u, Shop.opened.runAll Shop.runtime [Shop.earn "k1" 9000000] = .ok t ∧
      t.run Shop.runtime (Shop.redeem "k2" ⟨1000000, by decide⟩ ⟨60000, by decide⟩) = .ok u ∧
      countCreditLotMismatches ⟨t.db, u.db, u.db, u.db⟩ "tenant" ≠ 0) ∧
    countCreditLotMismatches (.quiescent Shop.overdrawn) "tenant" ≠
      mismatchedLots Shop.overdrawn "tenant" := by
  constructor
  · let redeem := Shop.redeem "k2" ⟨1000000, by decide⟩ ⟨60000, by decide⟩
    obtain ⟨t, hrun, -⟩ := Reachable.of_runAll Shop.runtime Shop.registry
      [Shop.earn "k1" 9000000] (by decide +kernel) (by simp [Shop.earn, Op.Admissible])
    have hcount : Shop.countAround redeem t = .ok 1 :=
      System.of_runAll_map hrun (f := Shop.countAround redeem) (by decide +kernel)
    unfold Shop.countAround at hcount
    cases hredeem : t.run Shop.runtime redeem with
    | error e => rw [hredeem] at hcount; cases hcount
    | ok u =>
        rw [hredeem] at hcount
        have hone : countCreditLotMismatches ⟨t.db, u.db, u.db, u.db⟩ "tenant" = 1 :=
          Except.ok.inj hcount
        exact ⟨t, u, hrun, hredeem, by omega⟩
  · have hhidden : countCreditLotMismatches (.quiescent Shop.overdrawn) "tenant" = 0 := by
      decide +kernel
    have hone : mismatchedLots Shop.overdrawn "tenant" = 1 := by decide +kernel
    omega

end ShopcityLoyalty
