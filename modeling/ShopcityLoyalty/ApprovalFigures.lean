import ShopcityLoyalty.ApprovalRows
import ShopcityLoyalty.RedemptionSnapshots

/-!
Approvals in the reports: what the redemption summaries of a scope count as pending, approved,
rejected and expired, against the approvals of its redemptions.
-/

namespace ShopcityLoyalty

open ReportMaterializerService

/-! ### The figures of a scope -/

section figures

variable (rt : ReportRuntime) (source : SourceData) (scope : ScopeDefinition) (asOf : Int)

/-- The approvals that the redemption summaries of a scope count as approved. -/
def approvedFigure : Nat :=
  ((buildRedemptionSummaries rt source scope asOf).map (·.approvedCount)).sum

/-- The approvals that they count as pending, approved, rejected or expired. -/
def approvalFigures : Nat :=
  ((buildRedemptionSummaries rt source scope asOf).map fun summary =>
    summary.pendingApprovalCount + summary.approvedCount + summary.rejectedCount +
      summary.expiredApprovalCount).sum

/-- What one redemption adds to the pending approvals. -/
def pendingOf (redemption : RedemptionRecord) : Nat :=
  if redemptionStatusAt redemption asOf = .PENDING_APPROVAL then 1 else 0

/-- What one redemption adds to the approvals of a status. -/
def decidedOf (status : ApprovalStatus) (redemption : RedemptionRecord) : Nat :=
  (decidedApprovals source [redemption] asOf).countP fun approval => approval.status = status

variable {source asOf}

lemma decidedApprovals_count (redemptions : List RedemptionRecord) (status : ApprovalStatus) :
    ((decidedApprovals source redemptions asOf).countP fun approval => approval.status = status) =
      (redemptions.map (decidedOf source asOf status)).sum := by
  unfold decidedApprovals
  rw [List.countP_flatMap]
  refine congrArg List.sum (List.map_congr_left fun x _ => ?_)
  simp [decidedOf, decidedApprovals]

lemma pending_count {κ : Type} [DecidableEq κ] (key : RedemptionRecord → κ)
    (redemptions : List RedemptionRecord) (k : κ) :
    (groupOn key (redemptions.filter fun redemption =>
        redemptionStatusAt redemption asOf = .PENDING_APPROVAL) k).length =
      ((groupOn key redemptions k).map (pendingOf asOf)).sum := by
  have hsum := sum_ite (l := groupOn key redemptions k) fun redemption =>
    decide (redemptionStatusAt redemption asOf = .PENDING_APPROVAL)
  simp only [decide_eq_true_eq] at hsum
  unfold pendingOf
  rw [hsum, List.countP_eq_length_filter]
  unfold groupOn
  rw [List.filter_comm]

variable (source asOf)

lemma approvedFigure_eq : approvedFigure rt source scope asOf =
    ((filterRedemptionsForScope source.redemptions scope.scope).map
      (decidedOf source asOf .APPROVED)).sum := by
  unfold approvedFigure buildRedemptionSummaries sortedDates
  simp only [List.map_map, Function.comp_def, decidedApprovals_count]
  exact sum_groupOn_sorted fun x hx => List.mem_map_of_mem hx

lemma approvalFigures_eq : approvalFigures rt source scope asOf =
    ((filterRedemptionsForScope source.redemptions scope.scope).map fun redemption =>
      pendingOf asOf redemption + decidedOf source asOf .APPROVED redemption +
        decidedOf source asOf .REJECTED redemption +
          decidedOf source asOf .EXPIRED redemption).sum := by
  unfold approvalFigures buildRedemptionSummaries sortedDates
  simp only [List.map_map, Function.comp_def, decidedApprovals_count, pending_count,
    ← List.sum_map_add]
  exact sum_groupOn_sorted fun x hx => List.mem_map_of_mem hx

end figures

/-! ### Waiting, as of an instant -/

/-- The first of some transitions counts as long as no later one is in time. -/
lemma latestTransitionAt_first_iff {α : Type} {first : α × Int} {later : List (α × Int)}
    {asOf : Int} (hfirst : first.2 ≤ asOf) (hother : ∀ p ∈ later, p.1 ≠ first.1) :
    (latestTransitionAt first later asOf).1 = first.1 ↔
      ∀ p ∈ later, p.2 ≤ asOf → p.2 ≤ first.2 := by
  have hsorted := List.pairwise_insertionSort (fun left right : α × Int => right.2 ≤ left.2)
    (later.filter fun transition => transition.2 ≤ asOf)
  have hmem : ∀ p, p ∈ (later.filter fun transition => transition.2 ≤ asOf).insertionSort
      (fun left right => right.2 ≤ left.2) ↔ p ∈ later ∧ p.2 ≤ asOf := by
    intro p
    rw [List.mem_insertionSort, List.mem_filter, decide_eq_true_iff]
  unfold latestTransitionAt
  rw [List.filter_cons_of_pos (by simpa using hfirst), List.insertionSort_cons]
  generalize (later.filter fun transition => transition.2 ≤ asOf).insertionSort
    (fun left right => right.2 ≤ left.2) = sorted at hsorted hmem
  cases sorted with
  | nil =>
      have hnone : ∀ p ∈ later, ¬ p.2 ≤ asOf := fun p hp hle => by
        have h := (hmem p).2 ⟨hp, hle⟩
        cases h
      exact iff_of_true (by simp) fun p hp hle => absurd hle (hnone p hp)
  | cons q sorted =>
      have hq := (hmem q).1 List.mem_cons_self
      rw [List.orderedInsert_cons]
      by_cases hle : q.2 ≤ first.2
      · refine iff_of_true (by simp [hle]) fun p hp hpa => ?_
        rcases List.mem_cons.1 ((hmem p).2 ⟨hp, hpa⟩) with rfl | hp
        · exact hle
        · exact (List.rel_of_pairwise_cons hsorted hp).trans hle
      · refine iff_of_false ?_ fun h => hle (h q hq.1 hq.2)
        rw [if_neg hle]
        exact hother q hq.1

/-- An instant after the request, and by the instant of the report. -/
def Redemption.MovedBy (d : Redemption) (asOf : Int) (at_ : Option Int) : Prop :=
  ∃ t ∈ at_, d.requestedAt < t ∧ t ≤ asOf

instance (d : Redemption) (asOf : Int) (at_ : Option Int) : Decidable (d.MovedBy asOf at_) :=
  inferInstanceAs (Decidable (∃ t ∈ at_, d.requestedAt < t ∧ t ≤ asOf))

lemma Redemption.not_movedBy {d : Redemption} {asOf : Int} {at_ : Option Int} :
    ¬ d.MovedBy asOf at_ ↔ ∀ t ∈ at_, t ≤ asOf → t ≤ d.requestedAt := by
  simp only [MovedBy, not_exists, not_and, not_le]
  constructor <;> intro h t ht
  · intro hle
    by_contra hlt
    exact absurd hle (not_le.2 (h t ht (not_le.1 hlt)))
  · intro hlt
    by_contra hle
    exact absurd (h t ht (not_lt.1 hle)) (not_le.2 hlt)

lemma forall_transition {α : Type} {status : α} {at_ : Option Int} {q : α × Int → Prop} :
    (∀ p ∈ transition status at_, q p) ↔ ∀ t ∈ at_, q (status, t) := by
  cases at_ <;> simp [transition]

lemma pendingOf_eq {d : Redemption} {asOf : Int} (id : Nat) (hd : d.requestedAt ≤ asOf) :
    pendingOf asOf (redemptionRecord (id, d)) =
      if d.MovedBy asOf d.confirmedAt ∨ d.MovedBy asOf d.rejectedAt ∨ d.MovedBy asOf d.reversedAt
      then 0 else 1 := by
  have hiff : redemptionStatusAt (redemptionRecord (id, d)) asOf = .PENDING_APPROVAL ↔
      ¬ (d.MovedBy asOf d.confirmedAt ∨ d.MovedBy asOf d.rejectedAt ∨
        d.MovedBy asOf d.reversedAt) := by
    have hat : ¬ (redemptionRecord (id, d)).requestedAt > asOf := not_lt.2 hd
    have hother : ∀ p ∈ transition RedemptionSnapshotStatus.CONFIRMED d.confirmedAt ++
        transition .REJECTED d.rejectedAt ++ transition .REVERSED d.reversedAt,
        p.1 ≠ .PENDING_APPROVAL := by
      simp only [List.forall_mem_append, forall_transition]
      simp
    unfold redemptionStatusAt
    rw [if_neg hat]
    refine (@latestTransitionAt_first_iff _ (RedemptionSnapshotStatus.PENDING_APPROVAL,
      d.requestedAt) _ asOf hd hother).trans ?_
    simp only [List.forall_mem_append, forall_transition, not_or, Redemption.not_movedBy, and_assoc]
  unfold pendingOf
  by_cases h : redemptionStatusAt (redemptionRecord (id, d)) asOf = .PENDING_APPROVAL
  · rw [if_pos h, if_neg (hiff.1 h)]
  · rw [if_neg h, if_pos (not_not.1 fun hn => h (hiff.2 hn))]

/-! ### The rows of a scope -/

/-- Whether the rows of a branch belong to a scope. -/
def ReportMaterializerService.ReportScope.Includes : ReportScope → String → Prop
  | .TENANT, _ => True
  | .BRANCH branchId, rowBranchId => rowBranchId = branchId

instance : ∀ (scope : ReportScope) (branchId : String), Decidable (scope.Includes branchId)
  | .TENANT, _ => .isTrue trivial
  | .BRANCH branchId, rowBranchId => inferInstanceAs (Decidable (rowBranchId = branchId))

/-- Whether an approval is that of a redemption of a scope. -/
def Database.TargetIn (db : Database) (scope : ReportScope) : ApprovalTarget → Prop
  | .EARN _ => False
  | .REDEEM redemptionId => ∃ d ∈ db.redemptions[redemptionId]?, scope.Includes d.branchId

instance (db : Database) (scope : ReportScope) : DecidablePred (db.TargetIn scope)
  | .EARN _ => .isFalse id
  | .REDEEM redemptionId =>
      inferInstanceAs (Decidable (∃ d ∈ db.redemptions[redemptionId]?, scope.Includes d.branchId))

/-- The redemption approvals of a tenant and a scope that are created by an instant. -/
def redemptionApprovals (db : Database) (tenantId : String) (scope : ReportScope) (asOf : Int) :
    List Approval :=
  db.approvals.filter fun x =>
    x.tenantId = tenantId ∧ x.requestedAt ≤ asOf ∧ db.TargetIn scope x.target

/-- The redemptions of a tenant and a scope. -/
def scopedRedemptions (db : Database) (tenantId : String) (scope : ReportScope) :
    List (Nat × Redemption) :=
  (db.redemptions.select fun d => d.tenantId = tenantId).filter fun r =>
    scope.Includes r.2.branchId

/-- The approval of a redemption. -/
def Database.approvalOf (db : Database) (redemptionId : Nat) : Option Approval :=
  db.approvals.find? fun x => x.target = .REDEEM redemptionId

section rows

variable {tables : ReportTables} {db : Database} {tenantId : String} {scope : ReportScope}
  {asOf : Int} {j : Nat} {d : Redemption} {x : Approval}

lemma mem_scopedRedemptions : (j, d) ∈ scopedRedemptions db tenantId scope ↔
    db.redemptions[j]? = some d ∧ d.tenantId = tenantId ∧ scope.Includes d.branchId := by
  simp [scopedRedemptions, and_assoc]

lemma nodup_scopedRedemptions :
    ((scopedRedemptions db tenantId scope).map Prod.fst).Nodup :=
  (Table.nodup_select ..).sublist (List.filter_sublist.map _)

lemma filterRedemptionsForScope_eq (redemptions : List RedemptionRecord) :
    filterRedemptionsForScope redemptions scope =
      redemptions.filter fun redemption => scope.Includes redemption.branchId := by
  cases scope with
  | TENANT => exact (List.filter_eq_self.2 fun _ _ => rfl).symm
  | BRANCH => rfl

lemma loaded_redemptions :
    filterRedemptionsForScope (loadSourceData tables tenantId asOf).redemptions scope =
      ((scopedRedemptions tables.db tenantId scope).filter fun r =>
        decide (r.2.requestedAt ≤ asOf)).map redemptionRecord := by
  have hloaded : (loadSourceData tables tenantId asOf).redemptions =
      ((tables.db.redemptions.select fun d => d.tenantId = tenantId).filter fun r =>
        decide (r.2.requestedAt ≤ asOf)).map redemptionRecord := by
    change List.filter _ (List.map _ _) = _
    rw [List.filter_map]
    rfl
  unfold scopedRedemptions
  rw [filterRedemptionsForScope_eq, hloaded, List.filter_map, List.filter_comm]
  rfl

lemma approvalRecord_redemptionId {r : Nat × Approval} :
    (approvalRecord r).redemptionId = some j ↔ r.2.target = .REDEEM j := by
  unfold approvalRecord
  cases r.2.target <;> simp

lemma approvalOf_mem (h : db.approvalOf j = some x) : x ∈ db.approvals ∧ x.target = .REDEEM j :=
  ⟨List.mem_of_find?_eq_some h, by simpa using List.find?_some h⟩

lemma approvals_count (hm : db.requests.Matched) (q : Approval → Bool) :
    (db.approvals.countP fun x => decide (x.target = .REDEEM j) && q x) =
      if (db.approvalOf j).any q then 1 else 0 := by
  refine countP_once fun {i k x y} hi hk hx hy => ?_
  exact hm.once hi hk (of_decide_eq_true hx) (of_decide_eq_true hy)

/-- What a redemption of the scope adds to a status, by its approval. -/
lemma decidedOf_eq (hm : tables.db.requests.Matched) (status : ApprovalStatus)
    (hd : (j, d) ∈ scopedRedemptions tables.db tenantId scope) :
    decidedOf (loadSourceData tables tenantId asOf) asOf status (redemptionRecord (j, d)) =
      if (tables.db.approvalOf j).any fun x =>
        decide (x.requestedAt ≤ asOf ∧ ¬ (∃ t ∈ x.decidedAt, t > asOf) ∧ x.status = status)
      then 1 else 0 := by
  obtain ⟨hj, hten, -⟩ := mem_scopedRedemptions.1 hd
  rw [← approvals_count hm]
  have hload : (loadSourceData tables tenantId asOf).approvals =
      ((tables.db.approvals.filter fun x => x.tenantId = tenantId).map
        fun x => approvalRecord (0, x)).filter fun approval => approval.requestedAt ≤ asOf := by
    have hrows := Table.map_snd_select tables.db.approvals fun x => decide (x.tenantId = tenantId)
    rw [← hrows, List.map_map]
    rfl
  unfold decidedOf decidedApprovals
  rw [List.flatMap_singleton, hload, List.countP_filter, List.countP_filter, List.countP_map,
    List.countP_filter]
  refine List.countP_congr fun x hx => ?_
  have hid := approvalRecord_redemptionId (r := (0, x)) (j := j)
  simp only [Function.comp_apply, Bool.and_eq_true, decide_eq_true_iff]
  constructor
  · rintro ⟨⟨⟨hs, hj, hdec⟩, hreq⟩, -⟩
    exact ⟨hid.1 hj, hreq, hdec, hs⟩
  · rintro ⟨htarget, hreq, hdec, hs⟩
    obtain ⟨i, hi⟩ := List.getElem?_of_mem hx
    obtain ⟨e, he, hmatch⟩ := hm.approval hi htarget
    obtain rfl : d = e := Option.some.inj (hj.symm.trans he)
    exact ⟨⟨⟨hs, hid.2 htarget, hdec⟩, hreq⟩, hmatch.tenantId.trans hten⟩

/-- Every redemption approval of the scope is that of one of its redemptions. -/
lemma redemptionApprovals_length (hm : db.requests.Matched) :
    (redemptionApprovals db tenantId scope asOf).length =
      (scopedRedemptions db tenantId scope).countP fun r =>
        (db.approvalOf r.1).any fun x => x.requestedAt ≤ asOf := by
  have honce : ∀ x ∈ db.approvals, ((scopedRedemptions db tenantId scope).countP fun r =>
      decide (x.target = .REDEEM r.1) && decide (x.requestedAt ≤ asOf)) =
        if x.tenantId = tenantId ∧ x.requestedAt ≤ asOf ∧ db.TargetIn scope x.target
        then 1 else 0 := by
    intro x hx
    by_cases hreq : x.requestedAt ≤ asOf
    · cases htarget : x.target with
      | EARN k => simp [Database.TargetIn]
      | REDEEM j =>
          obtain ⟨i, hi⟩ := List.getElem?_of_mem hx
          obtain ⟨d, hj, hmatch⟩ := hm.approval hi htarget
          have hrow : db.redemptions[j]? = some d := hj
          have hids : ((scopedRedemptions db tenantId scope).countP fun r =>
              decide (ApprovalTarget.REDEEM j = .REDEEM r.1) && decide (x.requestedAt ≤ asOf)) =
                ((scopedRedemptions db tenantId scope).map Prod.fst).count j := by
            rw [List.count, List.countP_map]
            refine List.countP_congr fun r _ => ?_
            simp only [decide_eq_true_eq, ApprovalTarget.REDEEM.injEq, Function.comp_apply,
              beq_iff_eq, Bool.and_eq_true, hreq, and_true]
            exact eq_comm
          rw [hids, nodup_scopedRedemptions.count]
          refine if_congr ?_ rfl rfl
          simp only [List.mem_map, Prod.exists, exists_and_right, exists_eq_right,
            mem_scopedRedemptions, hrow, Database.TargetIn, Option.mem_def, Option.some.injEq,
            exists_eq_left', hmatch.tenantId, hreq, true_and]
    · simp [hreq]
  have hswap : ((scopedRedemptions db tenantId scope).map fun r =>
      db.approvals.countP fun x =>
        decide (x.target = .REDEEM r.1) && decide (x.requestedAt ≤ asOf)).sum =
        db.approvals.countP fun x =>
          decide (x.tenantId = tenantId ∧ x.requestedAt ≤ asOf ∧ db.TargetIn scope x.target) :=
    sum_countP_swap honce
  have hone : ∀ r ∈ scopedRedemptions db tenantId scope,
      (db.approvals.countP fun x =>
        decide (x.target = .REDEEM r.1) && decide (x.requestedAt ≤ asOf)) =
        if (db.approvalOf r.1).any fun x => x.requestedAt ≤ asOf then 1 else 0 :=
    fun r _ => approvals_count (j := r.1) hm fun x => decide (x.requestedAt ≤ asOf)
  unfold redemptionApprovals
  rw [← List.countP_eq_length_filter, ← hswap, List.map_congr_left hone, sum_ite]

end rows

/-! ### The promise of the figures -/

/-- The approval was executed, and decided by an instant. -/
def Approval.ExecutedBy (x : Approval) (asOf : Int) : Prop :=
  x.status = .EXECUTED ∧ ∃ t ∈ x.decidedAt, t ≤ asOf

instance (asOf : Int) : DecidablePred fun x : Approval => x.ExecutedBy asOf :=
  fun _ => inferInstanceAs (Decidable (_ ∧ _))

/-- The figures of a scope account for its redemption approvals: those executed are counted as
approved, and every one is counted as pending, approved, rejected or expired. -/
structure ApprovalsCounted (rt : ReportRuntime) (tables : ReportTables) (tenantId : String)
    (scope : ScopeDefinition) (asOf : Int) : Prop where
  approved : approvedFigure rt (loadSourceData tables tenantId asOf) scope asOf =
    (redemptionApprovals tables.db tenantId scope.scope asOf).countP fun x => x.ExecutedBy asOf
  accounted : approvalFigures rt (loadSourceData tables tenantId asOf) scope asOf =
    (redemptionApprovals tables.db tenantId scope.scope asOf).length

/-- A redemption, requested by the instant, that is counted too often: one without an approval
that nothing has reversed since its request; one whose approval was decided no later than it was
requested; or one that nothing has moved since, whose approval is created only later. -/
def Database.Overcounted (db : Database) (asOf : Int) (r : Nat × Redemption) : Prop :=
  r.2.requestedAt ≤ asOf ∧
    match db.approvalOf r.1 with
    | none => ¬ r.2.MovedBy asOf r.2.reversedAt
    | some x =>
        if x.requestedAt ≤ asOf then ∃ t ∈ x.decidedAt, t ≤ asOf ∧ t ≤ r.2.requestedAt
        else ¬ (r.2.MovedBy asOf x.decidedAt ∨ r.2.MovedBy asOf r.2.reversedAt)

/-- A redemption not counted, although its approval is created by the instant: one that is
requested only later, or reversed before its approval is decided. -/
def Database.Undercounted (db : Database) (asOf : Int) (r : Nat × Redemption) : Prop :=
  match db.approvalOf r.1 with
  | none => False
  | some x => x.requestedAt ≤ asOf ∧ (asOf < r.2.requestedAt ∨
      (∃ t ∈ x.decidedAt, t > asOf) ∧ r.2.MovedBy asOf r.2.reversedAt)

instance (db : Database) (asOf : Int) : DecidablePred (db.Overcounted asOf) := fun r => by
  unfold Database.Overcounted; cases db.approvalOf r.1 <;> infer_instance

instance (db : Database) (asOf : Int) : DecidablePred (db.Undercounted asOf) := fun r => by
  unfold Database.Undercounted; cases db.approvalOf r.1 <;> infer_instance

/-- What one redemption adds to the figures. -/
def figureOf (source : SourceData) (asOf : Int) (redemption : RedemptionRecord) : Nat :=
  pendingOf asOf redemption + decidedOf source asOf .APPROVED redemption +
    decidedOf source asOf .REJECTED redemption + decidedOf source asOf .EXPIRED redemption

section balance

variable {rt : Runtime} {s : System} {tables : ReportTables} {tenantId : String}
  {scope : ReportScope} {asOf : Int} {j : Nat} {d : Redemption} {x : Approval}

lemma decidedOf_some (hm : tables.db.requests.Matched) (status : ApprovalStatus)
    (hd : (j, d) ∈ scopedRedemptions tables.db tenantId scope)
    (hx : tables.db.approvalOf j = some x) :
    decidedOf (loadSourceData tables tenantId asOf) asOf status (redemptionRecord (j, d)) =
      if x.requestedAt ≤ asOf ∧ ¬ (∃ t ∈ x.decidedAt, t > asOf) ∧ x.status = status
      then 1 else 0 := by
  rw [decidedOf_eq hm status hd, hx]
  simp

lemma decidedOf_none (hm : tables.db.requests.Matched) (status : ApprovalStatus)
    (hd : (j, d) ∈ scopedRedemptions tables.db tenantId scope)
    (hx : tables.db.approvalOf j = none) :
    decidedOf (loadSourceData tables tenantId asOf) asOf status (redemptionRecord (j, d)) = 0 := by
  rw [decidedOf_eq hm status hd, hx]
  simp

@[simp] lemma Redemption.movedBy_none : ¬ d.MovedBy asOf none := by simp [MovedBy]

@[simp] lemma Redemption.movedBy_some {t : Int} :
    d.MovedBy asOf (some t) ↔ d.requestedAt < t ∧ t ≤ asOf := by simp [MovedBy]

lemma figureOf_direct (hm : tables.db.requests.Matched) (ht : tables.db.till.Tied)
    (hd : (j, d) ∈ scopedRedemptions tables.db tenantId scope) (hreq : d.requestedAt ≤ asOf)
    (hx : tables.db.approvalOf j = none) :
    figureOf (loadSourceData tables tenantId asOf) asOf (redemptionRecord (j, d)) =
      if d.MovedBy asOf d.reversedAt then 0 else 1 := by
  obtain ⟨hj, -⟩ := mem_scopedRedemptions.1 hd
  have hat : d.confirmedAt = some d.requestedAt := by
    refine hm.direct hj fun i y hi hy => ?_
    have hnone := List.find?_eq_none.1 hx y (List.mem_of_getElem? hi)
    simp [hy] at hnone
  have hr : d.rejectedAt = none := by
    cases ht.recorded d (List.mem_of_getElem? hj) with
    | waiting _ hc => rw [hat] at hc; cases hc
    | confirmed _ _ hr => exact hr
    | declined _ hc => rw [hat] at hc; cases hc
    | reversed _ _ hr => exact hr
  unfold figureOf
  rw [decidedOf_none hm _ hd hx, decidedOf_none hm _ hd hx, decidedOf_none hm _ hd hx,
    pendingOf_eq j hreq, hat, hr]
  simp

lemma Filed.of_redeem {status : ApprovalStatus} {review : ReceiptReviewStatus}
    {redemption : RedemptionStatus} {effects : List LedgerEntryType}
    (h : Filed status review (some redemption) effects) :
    (status = .PENDING ∧ redemption = .PENDING_APPROVAL) ∨
    (status = .EXECUTED ∧ (redemption = .CONFIRMED ∨ redemption = .REVERSED)) ∨
    ((status = .REJECTED ∨ status = .EXPIRED) ∧
      (redemption = .REJECTED ∨ redemption = .EXPIRED)) := by
  cases h with
  | pendingRedeem | rejectedRedeem | expiredRedeem => simp
  | executedRedeem hsettled => exact .inr (.inl ⟨rfl, hsettled⟩)

/-- The states that an approval and its redemption are found in together. -/
lemma approvalOf_states (h : Reachable rt s) (hj : s.db.redemptions[j]? = some d)
    (hx : s.db.approvalOf j = some x) :
    (x.status = .PENDING ∧ x.decidedAt = none ∧ d.confirmedAt = none ∧ d.rejectedAt = none ∧
      d.reversedAt = none) ∨
    (x.status = .EXECUTED ∧ x.decidedAt = d.confirmedAt ∧ (∃ t, d.confirmedAt = some t) ∧
      d.rejectedAt = none) ∨
    ((x.status = .REJECTED ∨ x.status = .EXPIRED) ∧ x.decidedAt = d.rejectedAt ∧
      (∃ t, d.rejectedAt = some t) ∧ d.confirmedAt = none ∧ d.reversedAt = none) := by
  obtain ⟨hmem, htarget⟩ := approvalOf_mem hx
  obtain ⟨i, hi⟩ := List.getElem?_of_mem hmem
  obtain ⟨e, he, hmatch⟩ := h.matched.approval hi htarget
  obtain rfl : d = e := Option.some.inj (hj.symm.trans he)
  obtain ⟨k, r, hfile⟩ := h.invariants.desk.file hi
  have hof : s.db.redemptionOf x.target = some d := by rw [htarget]; exact hj
  have hfiled := hfile.filed
  rw [hof, Option.map_some] at hfiled
  have hrec := h.tied.recorded d (List.mem_of_getElem? hj)
  rcases hfiled.of_redeem with ⟨hs, hd⟩ | ⟨hs, hd⟩ | ⟨hs, hd⟩
  · cases hrec with
    | waiting _ hc hr hv => exact .inl ⟨hs, hmatch.pending hs, hc, hr, hv⟩
    | confirmed hst => rw [hd] at hst; cases hst
    | declined hst => rw [hd] at hst; rcases hst with hst | hst <;> cases hst
    | reversed hst => rw [hd] at hst; cases hst
  · cases hrec with
    | waiting hst => rw [hst] at hd; rcases hd with hd | hd <;> cases hd
    | confirmed _ hc hr => exact .inr (.inl ⟨hs, hmatch.executed hs, ⟨_, hc⟩, hr⟩)
    | declined hst =>
        rcases hd with hd | hd <;> rw [hd] at hst <;> rcases hst with hst | hst <;> cases hst
    | reversed _ hc hr => exact .inr (.inl ⟨hs, hmatch.executed hs, ⟨_, hc⟩, hr⟩)
  · cases hrec with
    | waiting hst => rw [hst] at hd; rcases hd with hd | hd <;> cases hd
    | confirmed hst => rw [hst] at hd; rcases hd with hd | hd <;> cases hd
    | declined _ hc hr hv => exact .inr (.inr ⟨hs, hmatch.declined hs, ⟨_, hr⟩, hc, hv⟩)
    | reversed hst => rw [hst] at hd; rcases hd with hd | hd <;> cases hd

/-- **One redemption**: what it adds to the figures, where they load it, against its approval. -/
theorem figureOf_balance (h : Reachable rt s) (hdb : tables.db = s.db)
    (hd : (j, d) ∈ scopedRedemptions s.db tenantId scope)
    (hnot : ∀ x ∈ s.db.approvalOf j, x.requestedAt ≤ asOf → ¬ x.ExecutedBy asOf) :
    (if d.requestedAt ≤ asOf then
        figureOf (loadSourceData tables tenantId asOf) asOf (redemptionRecord (j, d)) else 0) +
        (if s.db.Undercounted asOf (j, d) then 1 else 0) =
      (if (s.db.approvalOf j).any fun x => x.requestedAt ≤ asOf then 1 else 0) +
        if s.db.Overcounted asOf (j, d) then 1 else 0 := by
  have hm : tables.db.requests.Matched := hdb ▸ h.matched
  have hd' := hd
  rw [← hdb] at hd'
  obtain ⟨hj, -⟩ := mem_scopedRedemptions.1 hd
  cases hx : s.db.approvalOf j with
  | none =>
      have hx' : tables.db.approvalOf j = none := hdb ▸ hx
      by_cases hreq : d.requestedAt ≤ asOf
      · rw [if_pos hreq, figureOf_direct hm (hdb ▸ h.tied) hd' hreq hx']
        by_cases hv : d.MovedBy asOf d.reversedAt <;>
          simp [Database.Undercounted, Database.Overcounted, hx, hv, hreq]
      · simp [Database.Undercounted, Database.Overcounted, hx, hreq]
  | some x =>
      have hx' : tables.db.approvalOf j = some x := hdb ▸ hx
      by_cases hreq : d.requestedAt ≤ asOf
      swap
      · simp [Database.Undercounted, Database.Overcounted, hx, hreq, not_le.1 hreq]
      have hnotlate := not_lt.2 hreq
      unfold figureOf
      rw [if_pos hreq, decidedOf_some hm _ hd' hx', decidedOf_some hm _ hd' hx',
        decidedOf_some hm _ hd' hx', pendingOf_eq j hreq]
      simp only [Database.Undercounted, Database.Overcounted, hx, hreq, hnotlate, true_and,
        false_or]
      by_cases hcreated : x.requestedAt ≤ asOf
      -- an approval that is created later is not counted, and its redemption may be
      swap
      · rcases approvalOf_states h hj hx with ⟨hs, hdec, hc, hr, hv⟩ | ⟨hs, hdec, ⟨t, ht⟩, hr⟩ |
          ⟨hs, hdec, ⟨t, ht⟩, hc, hv⟩
        · simp [hcreated, hdec, hc, hr, hv]
        · by_cases hmoved : d.MovedBy asOf d.confirmedAt ∨ d.MovedBy asOf d.reversedAt <;>
            simp [hcreated, hdec, hr, hmoved]
        · by_cases hmoved : d.MovedBy asOf d.rejectedAt <;>
            simp [hcreated, hdec, hc, hv, hmoved]
      simp only [hcreated, true_and, if_true]
      rcases approvalOf_states h hj hx with ⟨hs, hdec, hc, hr, hv⟩ | ⟨hs, hdec, ⟨t, ht⟩, hr⟩ |
        ⟨hs, hdec, ⟨t, ht⟩, hc, hv⟩
      · simp [hs, hdec, hc, hr, hv, hcreated]
      · have hlate : asOf < t := by
          by_contra hle
          exact hnot x hx hcreated ⟨hs, t, hdec.trans ht, not_lt.1 hle⟩
        by_cases hv : d.MovedBy asOf d.reversedAt <;>
          simp [hs, hdec, ht, hr, hv, not_le.2 hlate, hlate, hcreated]
      · by_cases hle : t ≤ asOf
        · by_cases htie : t ≤ d.requestedAt <;> rcases hs with hs | hs <;>
            simp [hs, hdec, ht, hc, hv, hle, htie, not_lt.2 hle, hcreated]
        · rcases hs with hs | hs <;>
            simp [hs, hdec, ht, hc, hv, hle, not_le.1 hle, hcreated]

lemma approvedFigure_zero (rrt : ReportRuntime) (h : Reachable rt s) (hdb : tables.db = s.db)
    (scope : ScopeDefinition) :
    approvedFigure rrt (loadSourceData tables tenantId asOf) scope asOf = 0 := by
  have hm : tables.db.requests.Matched := hdb ▸ h.matched
  rw [approvedFigure_eq, loaded_redemptions, List.map_map]
  refine List.sum_eq_zero fun n hn => ?_
  obtain ⟨⟨j, d⟩, hloaded, rfl⟩ := List.mem_map.1 hn
  have hd := (List.mem_filter.1 hloaded).1
  have hj : s.db.redemptions[j]? = some d := hdb ▸ (mem_scopedRedemptions.1 hd).1
  rw [Function.comp_apply]
  cases hx : tables.db.approvalOf j with
  | none => exact decidedOf_none hm _ hd hx
  | some x =>
      rw [decidedOf_some hm _ hd hx]
      rcases approvalOf_states h hj (hdb ▸ hx) with ⟨hs, -⟩ | ⟨hs, -⟩ | ⟨hs | hs, -⟩ <;> simp [hs]

lemma mem_redemptionApprovals (hm : s.db.requests.Matched)
    (hd : (j, d) ∈ scopedRedemptions s.db tenantId scope) (hx : s.db.approvalOf j = some x)
    (hcreated : x.requestedAt ≤ asOf) : x ∈ redemptionApprovals s.db tenantId scope asOf := by
  obtain ⟨hj, hten, hscope⟩ := mem_scopedRedemptions.1 hd
  obtain ⟨hmem, htarget⟩ := approvalOf_mem hx
  obtain ⟨i, hi⟩ := List.getElem?_of_mem hmem
  obtain ⟨e, he, hmatch⟩ := hm.approval hi htarget
  obtain rfl : d = e := Option.some.inj (hj.symm.trans he)
  refine List.mem_filter.2 ⟨hmem, decide_eq_true ⟨hmatch.tenantId.trans hten, hcreated, ?_⟩⟩
  rw [htarget]
  exact ⟨d, hj, hscope⟩

/-- **Approvals are accounted for** exactly if none of the scope is executed by the instant, and
as many of its redemptions are counted too often as are not counted. -/
theorem approvals_counted_iff {rrt : ReportRuntime} {scope : ScopeDefinition}
    (h : Reachable rt s) (hdb : tables.db = s.db) :
    ApprovalsCounted rrt tables tenantId scope asOf ↔
      (∀ x ∈ redemptionApprovals s.db tenantId scope.scope asOf, ¬ x.ExecutedBy asOf) ∧
        ((scopedRedemptions s.db tenantId scope.scope).countP fun r =>
            s.db.Overcounted asOf r) =
          (scopedRedemptions s.db tenantId scope.scope).countP fun r =>
            s.db.Undercounted asOf r := by
  have hm : s.db.requests.Matched := h.matched
  have hexecuted : ((redemptionApprovals s.db tenantId scope.scope asOf).countP fun x =>
      x.ExecutedBy asOf) = 0 ↔
        ∀ x ∈ redemptionApprovals s.db tenantId scope.scope asOf, ¬ x.ExecutedBy asOf := by
    simp [List.countP_eq_zero]
  have hbalance :
      (∀ x ∈ redemptionApprovals s.db tenantId scope.scope asOf, ¬ x.ExecutedBy asOf) →
      approvalFigures rrt (loadSourceData tables tenantId asOf) scope asOf +
          (scopedRedemptions s.db tenantId scope.scope).countP (fun r =>
            s.db.Undercounted asOf r) =
        (redemptionApprovals s.db tenantId scope.scope asOf).length +
          (scopedRedemptions s.db tenantId scope.scope).countP fun r =>
            s.db.Overcounted asOf r := by
    intro hnot
    rw [approvalFigures_eq, loaded_redemptions, redemptionApprovals_length hm, List.map_map,
      sum_map_filter, hdb]
    refine sum_add_countP fun r hr => ?_
    have hrow := figureOf_balance h hdb hr fun x hx hcreated =>
      hnot x (mem_redemptionApprovals hm hr hx hcreated)
    simpa [figureOf] using hrow
  constructor
  · rintro ⟨happroved, haccounted⟩
    rw [approvedFigure_zero rrt h hdb, hdb] at happroved
    have hnot := hexecuted.1 happroved.symm
    have hsum := hbalance hnot
    rw [haccounted, hdb] at hsum
    exact ⟨hnot, by omega⟩
  · rintro ⟨hnot, hcounts⟩
    have hsum := hbalance hnot
    refine ⟨?_, ?_⟩
    · rw [approvedFigure_zero rrt h hdb, hdb]
      exact (hexecuted.2 hnot).symm
    · rw [hdb]
      omega

end balance

/-! ### A shop -/

namespace Shop

/-- A redemption above the threshold, which waits for an approval. -/
def largeRedemption : List Op :=
  [earn "k1" 20000000, earn "k2" 20000000, redeem "k3" ⟨3000000, by decide⟩ ⟨600000, by decide⟩]

/-- The supervisor's decision on it a second later. -/
def decideLater (decision : Decision) : Op :=
  .decide ⟨supervisor, "d1", 0, decision, "seen", sha256 "d1"⟩ (night + 1000) (night + 1000)

/-- How many approvals are executed, and how many redemptions are counted too often or not. -/
def balances (s : System) : Nat × Nat × Nat :=
  ((redemptionApprovals s.db "tenant" .TENANT (night + 1000)).countP
      fun x => x.ExecutedBy (night + 1000),
    (scopedRedemptions s.db "tenant" .TENANT).countP
      fun r => s.db.Overcounted (night + 1000) r,
    (scopedRedemptions s.db "tenant" .TENANT).countP
      fun r => s.db.Undercounted (night + 1000) r)

lemma decided_admissible (decision : Decision) :
    ∀ op ∈ largeRedemption ++ [decideLater decision], ∀ u, op.Admissible u := by
  simp [largeRedemption, decideLater, earn, redeem, Op.Admissible]

lemma decided_registry {t : System} {decision : Decision}
    (hrun : opened.runAll runtime (largeRedemption ++ [decideLater decision]) = .ok t) :
    t.db.registry = registry :=
  System.runAll_registry (.initial registry) hrun
    (by simp [largeRedemption, decideLater, earn, redeem])

end Shop

/-- A redemption that the supervisor rejects. -/
theorem approvals_counted_shop : ∃ (t : System) (h : t.db.registry = Shop.registry),
    Shop.opened.runAll Shop.runtime (Shop.largeRedemption ++ [Shop.decideLater .REJECTED]) = .ok t ∧
      ApprovalsCounted Shop.reportRuntime (Shop.reportTables t.db h) "tenant"
        (tenantScope Shop.reportRuntime) (Shop.night + 1000) := by
  obtain ⟨t, hrun, ht, hcounts⟩ := Reachable.of_runAll_map Shop.runtime Shop.registry
    (Shop.largeRedemption ++ [Shop.decideLater .REJECTED]) (f := Shop.balances) (a := (0, 0, 0))
    (by decide +kernel) (Shop.decided_admissible .REJECTED)
  simp only [Shop.balances, Prod.mk.injEq] at hcounts
  obtain ⟨hexecuted, hmany, hfew⟩ := hcounts
  have hnot : ∀ x ∈ redemptionApprovals t.db "tenant" .TENANT (Shop.night + 1000),
      ¬ x.ExecutedBy (Shop.night + 1000) := by
    simpa [List.countP_eq_zero] using hexecuted
  exact ⟨t, Shop.decided_registry hrun, hrun,
    (approvals_counted_iff ht rfl).2 ⟨hnot, hmany.trans hfew.symm⟩⟩

/-- A redemption that the supervisor approves is not counted as approved. -/
theorem approvals_not_counted : ∃ (t : System) (h : t.db.registry = Shop.registry),
    Shop.opened.runAll Shop.runtime (Shop.largeRedemption ++ [Shop.decideLater .APPROVED]) = .ok t ∧
      ¬ ApprovalsCounted Shop.reportRuntime (Shop.reportTables t.db h) "tenant"
        (tenantScope Shop.reportRuntime) (Shop.night + 1000) := by
  obtain ⟨t, hrun, ht, hcounts⟩ := Reachable.of_runAll_map Shop.runtime Shop.registry
    (Shop.largeRedemption ++ [Shop.decideLater .APPROVED]) (f := fun t => (Shop.balances t).1)
    (a := 1) (by decide +kernel) (Shop.decided_admissible .APPROVED)
  refine ⟨t, Shop.decided_registry hrun, hrun, fun hcounted => ?_⟩
  have happroved := hcounted.approved
  rw [approvedFigure_zero Shop.reportRuntime ht rfl] at happroved
  have hnone : (Shop.balances t).1 = 0 := happroved.symm
  omega

end ShopcityLoyalty
