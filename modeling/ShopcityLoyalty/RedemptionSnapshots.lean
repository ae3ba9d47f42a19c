import ShopcityLoyalty.RedemptionRows
import ShopcityLoyalty.Registrations
import ShopcityLoyalty.ReportSummaries

/-!
Redemptions in the reports: the status that is rebuilt from the recorded instants, and the
totals of what was redeemed.
-/

namespace ShopcityLoyalty

open ReportMaterializerService

/-! ### The status as of an instant -/

/-- The stored status of the same name. -/
def RedemptionSnapshotStatus.stored : RedemptionSnapshotStatus → RedemptionStatus
  | PENDING_APPROVAL => .PENDING_APPROVAL
  | CONFIRMED => .CONFIRMED
  | REJECTED => .REJECTED
  | REVERSED => .REVERSED

/-- No transition of the redemption is recorded after an instant. -/
structure Redemption.RecordedBy (d : Redemption) (asOf : Int) : Prop where
  requestedAt : d.requestedAt ≤ asOf
  confirmedAt : ∀ c ∈ d.confirmedAt, c ≤ asOf
  rejectedAt : ∀ r ∈ d.rejectedAt, r ≤ asOf
  reversedAt : ∀ v ∈ d.reversedAt, v ≤ asOf

/-- The redemption has not expired, and its last transition is later than the others. -/
def Redemption.TransitionsApart (d : Redemption) : Prop :=
  match d.status with
  | .PENDING_APPROVAL => True
  | .CONFIRMED => ∀ c ∈ d.confirmedAt, d.requestedAt < c
  | .REJECTED => ∀ r ∈ d.rejectedAt, d.requestedAt < r
  | .EXPIRED => False
  | .REVERSED => ∀ v ∈ d.reversedAt, d.requestedAt < v ∧ ∀ c ∈ d.confirmedAt, c < v

/-- The status is rebuilt as it is stored, as of any instant from the last transition on. -/
def Redemption.StatusAgrees (d : Redemption) : Prop :=
  ∀ id asOf, d.RecordedBy asOf → (redemptionStatusAt (redemptionRecord (id, d)) asOf).stored =
    d.status

section latest

variable {α : Type} {asOf : Int} {p q r : α × Int}

lemma latestTransitionAt_two (hp : p.2 ≤ asOf) (hq : q.2 ≤ asOf) :
    latestTransitionAt p [q] asOf = if q.2 ≤ p.2 then p else q := by
  unfold latestTransitionAt
  by_cases h : q.2 ≤ p.2 <;> simp [hp, hq, h, List.orderedInsert]

lemma latestTransitionAt_three (hp : p.2 ≤ asOf) (hq : q.2 ≤ asOf) (hr : r.2 ≤ asOf) :
    latestTransitionAt p [q, r] asOf =
      if r.2 ≤ q.2 then (if q.2 ≤ p.2 then p else q) else if r.2 ≤ p.2 then p else r := by
  unfold latestTransitionAt
  by_cases h : r.2 ≤ q.2
  · by_cases h' : q.2 ≤ p.2 <;> simp [hp, hq, hr, h, h', List.orderedInsert]
  · by_cases h' : r.2 ≤ p.2 <;> simp [hp, hq, hr, h, h', List.orderedInsert]

end latest

lemma redemptionStatusAt_two {x : RedemptionRecord} {asOf at_ : Int}
    {status : RedemptionSnapshotStatus} (hx : x.requestedAt ≤ asOf) (hat : at_ ≤ asOf)
    (h : transition .CONFIRMED x.confirmedAt ++ transition .REJECTED x.rejectedAt ++
      transition .REVERSED x.reversedAt = [(status, at_)]) :
    redemptionStatusAt x asOf = if at_ ≤ x.requestedAt then .PENDING_APPROVAL else status := by
  unfold redemptionStatusAt
  rw [if_neg (not_lt.2 hx), h, latestTransitionAt_two hx hat]
  by_cases hle : at_ ≤ x.requestedAt <;> simp [hle]

variable {d : Redemption}

lemma Redemption.statusAgrees_two {at_ : Int} (status : RedemptionSnapshotStatus)
    (hby : ∀ asOf, d.RecordedBy asOf ↔ d.requestedAt ≤ asOf ∧ at_ ≤ asOf)
    (h : transition .CONFIRMED d.confirmedAt ++ transition .REJECTED d.rejectedAt ++
      transition .REVERSED d.reversedAt = [(status, at_)]) (hne : d.status ≠ .PENDING_APPROVAL) :
    d.StatusAgrees ↔ status.stored = d.status ∧ d.requestedAt < at_ := by
  have hstatus : ∀ id asOf, d.RecordedBy asOf → redemptionStatusAt (redemptionRecord (id, d)) asOf =
      if at_ ≤ d.requestedAt then .PENDING_APPROVAL else status := fun id asOf hrec =>
    redemptionStatusAt_two hrec.requestedAt ((hby asOf).1 hrec).2 h
  constructor
  · intro hagrees
    have hrec : d.RecordedBy (max d.requestedAt at_) := (hby _).2 ⟨le_max_left .., le_max_right ..⟩
    have hstored := hagrees 0 _ hrec
    rw [hstatus 0 _ hrec] at hstored
    by_cases hle : at_ ≤ d.requestedAt
    · rw [if_pos hle] at hstored
      exact absurd hstored.symm hne
    · rw [if_neg hle] at hstored
      exact ⟨hstored, not_le.1 hle⟩
  · rintro ⟨hstored, hlt⟩ id asOf hrec
    rw [hstatus id asOf hrec, if_neg (not_le.2 hlt)]
    exact hstored

/-- A redemption that was confirmed, then reversed. -/
lemma Redemption.statusAgrees_three {c v : Int} (hs : d.status = .REVERSED)
    (hc : d.confirmedAt = some c) (hr : d.rejectedAt = none) (hv : d.reversedAt = some v) :
    d.StatusAgrees ↔ d.requestedAt < v ∧ c < v := by
  have hstatus : ∀ id asOf, d.RecordedBy asOf → redemptionStatusAt (redemptionRecord (id, d)) asOf =
      if v ≤ c then (if c ≤ d.requestedAt then .PENDING_APPROVAL else .CONFIRMED)
      else if v ≤ d.requestedAt then .PENDING_APPROVAL else .REVERSED := by
    intro id asOf hrec
    have htransitions : transition RedemptionSnapshotStatus.CONFIRMED d.confirmedAt ++
        transition .REJECTED d.rejectedAt ++ transition .REVERSED d.reversedAt =
        [(.CONFIRMED, c), (.REVERSED, v)] := by simp [hc, hr, hv, transition]
    have hat : ¬ (redemptionRecord (id, d)).requestedAt > asOf := not_lt.2 hrec.requestedAt
    unfold redemptionStatusAt
    rw [if_neg hat]
    simp only [redemptionRecord]
    rw [htransitions, latestTransitionAt_three hrec.requestedAt (hrec.confirmedAt c hc)
      (hrec.reversedAt v hv)]
    by_cases h : v ≤ c
    · by_cases h' : c ≤ d.requestedAt <;> simp [h, h']
    · by_cases h' : v ≤ d.requestedAt <;> simp [h, h']
  constructor
  · intro hagrees
    have hrec : d.RecordedBy (max d.requestedAt (max c v)) := by
      refine ⟨le_max_left .., fun x hx => ?_, fun x hx => ?_, fun x hx => ?_⟩
      · obtain rfl : c = x := Option.some.inj (hc.symm.trans hx)
        exact (le_max_left ..).trans (le_max_right ..)
      · rw [hr] at hx
        cases hx
      · obtain rfl : v = x := Option.some.inj (hv.symm.trans hx)
        exact (le_max_right ..).trans (le_max_right ..)
    have hstored := hagrees 0 _ hrec
    rw [hstatus 0 _ hrec, hs] at hstored
    by_cases h : v ≤ c
    · rw [if_pos h] at hstored
      by_cases h' : c ≤ d.requestedAt
      · rw [if_pos h'] at hstored
        cases hstored
      · rw [if_neg h'] at hstored
        cases hstored
    · by_cases h' : v ≤ d.requestedAt
      · rw [if_neg h, if_pos h'] at hstored
        cases hstored
      · exact ⟨not_le.1 h', not_le.1 h⟩
  · rintro ⟨hrv, hcv⟩ id asOf hrec
    rw [hstatus id asOf hrec, if_neg (not_le.2 hcv), if_neg (not_le.2 hrv), hs]
    rfl

/-- **A status is rebuilt as stored** exactly if the transitions are apart. -/
theorem Redemption.Recorded.statusAgrees_iff (h : d.Recorded) :
    d.StatusAgrees ↔ d.TransitionsApart := by
  cases h with
  | waiting hs hc hr hv _ =>
      refine iff_of_true (fun id asOf hby => ?_) (by simp [TransitionsApart, hs])
      simp [redemptionStatusAt, redemptionRecord, hc, hr, hv, transition, latestTransitionAt,
        hby.requestedAt, not_lt.2 hby.requestedAt, hs, RedemptionSnapshotStatus.stored]
  | @confirmed c hs hc hr hv _ _ =>
      have hby : ∀ asOf, d.RecordedBy asOf ↔ d.requestedAt ≤ asOf ∧ c ≤ asOf := fun asOf =>
        ⟨fun h => ⟨h.requestedAt, h.confirmedAt c hc⟩,
          fun h => ⟨h.1, by simp [hc, h.2], by simp [hr], by simp [hv]⟩⟩
      rw [statusAgrees_two .CONFIRMED hby (by simp [hc, hr, hv, transition]) (by simp [hs])]
      simp [TransitionsApart, hs, hc, RedemptionSnapshotStatus.stored]
  | @declined r hs hc hr hv _ =>
      have hby : ∀ asOf, d.RecordedBy asOf ↔ d.requestedAt ≤ asOf ∧ r ≤ asOf := fun asOf =>
        ⟨fun h => ⟨h.requestedAt, h.rejectedAt r hr⟩,
          fun h => ⟨h.1, by simp [hc], by simp [hr, h.2], by simp [hv]⟩⟩
      have hne : d.status ≠ .PENDING_APPROVAL := by rcases hs with hs | hs <;> simp [hs]
      rw [statusAgrees_two .REJECTED hby (by simp [hc, hr, hv, transition]) hne]
      rcases hs with hs | hs <;> simp [TransitionsApart, hs, hr, RedemptionSnapshotStatus.stored]
  | @reversed c v hs hc hr hv _ _ =>
      rw [statusAgrees_three hs hc hr hv]
      simp [TransitionsApart, hs, hc, hv]

/-! ### What was redeemed -/

section totals

variable (rt : ReportRuntime) (source : SourceData) (scope : ScopeDefinition) (asOf : Int)

/-- The credit redeemed over the report dates of a scope. -/
def creditRedeemedKobo : Int :=
  ((buildDailyFinancialSummaries rt source scope asOf).map (·.creditRedeemedKobo)).sum

/-- The amounts confirmed over the redemption summaries of a scope. -/
def confirmedKobo : Int :=
  ((buildRedemptionSummaries rt source scope asOf).map (·.confirmedKobo)).sum

/-- What the redemptions of a scope that are confirmed as of an instant redeemed. -/
def confirmedTotalKobo : Int :=
  ((confirmedAt (filterRedemptionsForScope source.redemptions scope.scope) asOf).map
    redeemedAmountKobo).sum

lemma mem_of_confirmedAt {redemptions : List RedemptionRecord} {x : RedemptionRecord}
    (h : x ∈ confirmedAt redemptions asOf) : x ∈ redemptions :=
  (List.mem_filter.1 h).1

lemma creditRedeemedKobo_eq :
    creditRedeemedKobo rt source scope asOf = confirmedTotalKobo source scope asOf := by
  unfold creditRedeemedKobo buildDailyFinancialSummaries sortedDates
  rw [List.map_map]
  refine sum_sumOn_sorted fun x hx => ?_
  simp only [List.mem_append]
  exact .inr (List.mem_map_of_mem (mem_of_confirmedAt asOf hx))

lemma confirmedKobo_eq :
    confirmedKobo rt source scope asOf = confirmedTotalKobo source scope asOf := by
  unfold confirmedKobo buildRedemptionSummaries sortedDates
  rw [List.map_map]
  exact sum_sumOn_sorted fun x hx => List.mem_map_of_mem (mem_of_confirmedAt asOf hx)

end totals

/-- The REDEEM entries of a tenant that no entry reverses. -/
def unreversedDebits (db : Database) (tenantId : String) : List (Nat × LoyaltyLedgerEntry) :=
  (db.ledger.select fun e => e.tenantId = tenantId ∧ e.type = .REDEEM).filter fun e =>
    ∀ x ∈ db.ledger, x.reversesEntryId ≠ some e.1

/-- What these debits add up to. -/
def unreversedDebitsKobo (db : Database) (tenantId : String) : Int :=
  ((unreversedDebits db tenantId).map fun e => (e.2.amountKobo : Int)).sum

/-- The redemptions of a tenant that are stored as confirmed. -/
def storedConfirmed (db : Database) (tenantId : String) : List (Nat × Redemption) :=
  (db.redemptions.select fun d => d.tenantId = tenantId).filter fun d => d.2.status = .CONFIRMED

section debits

variable {db : Database} {tenantId : String}

lemma Redemption.Recorded.of_confirmed {d : Redemption} (h : d.Recorded)
    (hs : d.status = .CONFIRMED) : (∃ i, d.ledgerEntryId = some i) ∧
      d.confirmedAmountKobo = some (d.requestedAmountKobo : Int) := by
  cases h with
  | confirmed _ _ _ _ hamt hl => exact ⟨Option.ne_none_iff_exists'.1 hl, hamt⟩
  | waiting hw => rw [hs] at hw; cases hw
  | declined hw => rw [hs] at hw; rcases hw with hw | hw <;> cases hw
  | reversed hw => rw [hs] at hw; cases hw

lemma mem_unreversedDebits {i : Nat} {e : LoyaltyLedgerEntry} :
    (i, e) ∈ unreversedDebits db tenantId ↔ db.ledger[i]? = some e ∧ e.tenantId = tenantId ∧
      e.type = .REDEEM ∧ ¬ db.till.reversed i := by
  have hrev : (∀ x ∈ db.ledger, x.reversesEntryId ≠ some i) ↔ ¬ db.till.reversed i := by
    simp [Till.reversed, Database.till]
  simp only [unreversedDebits, List.mem_filter, Table.mem_select, decide_eq_true_eq,
    hrev, and_assoc]

lemma mem_storedConfirmed {j : Nat} {d : Redemption} :
    (j, d) ∈ storedConfirmed db tenantId ↔
      db.redemptions[j]? = some d ∧ d.tenantId = tenantId ∧ d.status = .CONFIRMED := by
  simp [storedConfirmed, and_assoc]

/-- The debits of the confirmed redemptions are the debits that are not reversed. -/
lemma confirmed_perm_unreversed (h : db.till.Tied) :
    ((storedConfirmed db tenantId).map fun d => d.2.ledgerEntryId.getD 0).Perm
      ((unreversedDebits db tenantId).map Prod.fst) := by
  have hentry : ∀ {j : Nat} {d : Redemption}, (j, d) ∈ storedConfirmed db tenantId →
      ∃ i, d.ledgerEntryId = some i := by
    intro j d hd
    obtain ⟨hj, -, hs⟩ := mem_storedConfirmed.1 hd
    exact ((h.recorded d (List.mem_of_getElem? hj)).of_confirmed hs).1
  have hnodup : ((storedConfirmed db tenantId).map fun d => d.2.ledgerEntryId.getD 0).Nodup := by
    have hrows : (storedConfirmed db tenantId).Nodup :=
      (List.Nodup.of_map _ (Table.nodup_select ..)).filter _
    refine hrows.map_on ?_
    rintro ⟨j, d⟩ hd ⟨n, x⟩ hx heq
    obtain ⟨i, hi⟩ := hentry hd
    obtain ⟨m, hm⟩ := hentry hx
    simp only [hi, hm, Option.getD_some] at heq
    subst heq
    have hjn := h.once (mem_storedConfirmed.1 hd).1 (mem_storedConfirmed.1 hx).1 hi hm
    subst hjn
    have hdx := (mem_storedConfirmed.1 hd).1.symm.trans (mem_storedConfirmed.1 hx).1
    rw [Option.some.inj hdx]
  have hnodup' : ((unreversedDebits db tenantId).map Prod.fst).Nodup :=
    (Table.nodup_select ..).sublist (List.filter_sublist.map _)
  refine (List.perm_ext_iff_of_nodup hnodup hnodup').2 fun i => ?_
  simp only [List.mem_map, Prod.exists, exists_and_right, exists_eq_right]
  constructor
  · rintro ⟨j, d, hd, hid⟩
    obtain ⟨n, hn⟩ := hentry hd
    obtain rfl : n = i := by simpa [hn] using hid
    obtain ⟨hj, hten, hs⟩ := mem_storedConfirmed.1 hd
    obtain ⟨e, he⟩ := h.entry hj hn
    refine ⟨e, mem_unreversedDebits.2 ⟨he.entry, he.tenantId.trans hten, he.type, ?_⟩⟩
    rw [← he.reversed, hs]
    simp
  · rintro ⟨e, he⟩
    obtain ⟨hi, hten, htype, hrev⟩ := mem_unreversedDebits.1 he
    obtain ⟨j, d, hj, hid⟩ := h.redemption hi htype
    obtain ⟨x, hx⟩ := h.entry hj hid
    obtain rfl : e = x := Option.some.inj (hi.symm.trans hx.entry)
    have hnot : d.status ≠ .REVERSED := fun hs => hrev (hx.reversed.1 hs)
    have hs : d.status = .CONFIRMED := by
      cases h.recorded d (List.mem_of_getElem? hj) with
      | confirmed hs => exact hs
      | waiting _ _ _ _ hl => rw [hid] at hl; cases hl
      | declined _ _ _ _ hl => rw [hid] at hl; cases hl
      | reversed hs => exact absurd hs hnot
    exact ⟨j, d, mem_storedConfirmed.2 ⟨hj, hx.tenantId.symm.trans hten, hs⟩, by simp [hid]⟩

/-- What the confirmed redemptions redeemed is what the unreversed debits took. -/
lemma storedConfirmed_sum (h : db.till.Tied) :
    ((storedConfirmed db tenantId).map fun d => (d.2.requestedAmountKobo : Int)).sum =
      unreversedDebitsKobo db tenantId := by
  let amount : Nat → Int := fun i => (db.ledger[i]?.map fun e => (e.amountKobo : Int)).getD 0
  have hleft : ((storedConfirmed db tenantId).map fun d => (d.2.requestedAmountKobo : Int)) =
      ((storedConfirmed db tenantId).map fun d => d.2.ledgerEntryId.getD 0).map amount := by
    rw [List.map_map]
    refine List.map_congr_left ?_
    rintro ⟨j, d⟩ hd
    obtain ⟨hj, -, hs⟩ := mem_storedConfirmed.1 hd
    obtain ⟨⟨i, hi⟩, -⟩ := (h.recorded d (List.mem_of_getElem? hj)).of_confirmed hs
    obtain ⟨e, he⟩ := h.entry hj hi
    have hledger : db.ledger[i]? = some e := he.entry
    simp [amount, hi, hledger, he.amountKobo]
  have hright : ((unreversedDebits db tenantId).map fun e => (e.2.amountKobo : Int)) =
      ((unreversedDebits db tenantId).map Prod.fst).map amount := by
    rw [List.map_map]
    refine List.map_congr_left ?_
    rintro ⟨i, e⟩ he
    have hledger := (mem_unreversedDebits.1 he).1
    simp [amount, hledger]
  unfold unreversedDebitsKobo
  rw [hleft, hright]
  exact ((confirmed_perm_unreversed h).map amount).sum_eq

end debits

/-! ### The promise of the reports -/

/-- The statuses and the totals that the reports show of a tenant's redemptions are those of
the rows: the redemptions over the report dates, those over the redemption summaries, and the
debits that are not reversed. -/
structure SnapshotsAgree (rt : ReportRuntime) (tables : ReportTables) (tenantId : String) :
    Prop where
  status : ∀ d ∈ tables.db.redemptions, d.tenantId = tenantId → d.StatusAgrees
  totals : ∀ asOf, (∀ d ∈ tables.db.redemptions, d.tenantId = tenantId → d.RecordedBy asOf) →
    creditRedeemedKobo rt (loadSourceData tables tenantId asOf) (tenantScope rt) asOf =
        confirmedKobo rt (loadSourceData tables tenantId asOf) (tenantScope rt) asOf ∧
      confirmedKobo rt (loadSourceData tables tenantId asOf) (tenantScope rt) asOf =
        unreversedDebitsKobo tables.db tenantId

variable {rt : Runtime} {rrt : ReportRuntime} {tables : ReportTables} {tenantId : String}

/-- What counts as confirmed is what is stored as confirmed, where the statuses agree. -/
lemma confirmedTotalKobo_eq (h : tables.db.till.Tied) {asOf : Int}
    (hagree : ∀ d ∈ tables.db.redemptions, d.tenantId = tenantId → d.StatusAgrees)
    (hby : ∀ d ∈ tables.db.redemptions, d.tenantId = tenantId → d.RecordedBy asOf) :
    confirmedTotalKobo (loadSourceData tables tenantId asOf) (tenantScope rrt) asOf =
      unreversedDebitsKobo tables.db tenantId := by
  have hrow : ∀ r ∈ tables.db.redemptions.select fun d => d.tenantId = tenantId,
      r.2 ∈ tables.db.redemptions ∧ r.2.tenantId = tenantId := by
    rintro ⟨j, d⟩ hr
    obtain ⟨hj, hten⟩ := Table.mem_select.1 hr
    exact ⟨List.mem_of_getElem? hj, by simpa using hten⟩
  have hsource : (loadSourceData tables tenantId asOf).redemptions =
      (tables.db.redemptions.select fun d => d.tenantId = tenantId).map redemptionRecord := by
    refine List.filter_eq_self.2 fun x hx => ?_
    obtain ⟨r, hr, rfl⟩ := List.mem_map.1 hx
    obtain ⟨hmem, hten⟩ := hrow r hr
    exact decide_eq_true (hby r.2 hmem hten).requestedAt
  have hconfirmed : confirmedAt ((tables.db.redemptions.select fun d =>
      d.tenantId = tenantId).map redemptionRecord) asOf =
        (storedConfirmed tables.db tenantId).map redemptionRecord := by
    unfold confirmedAt storedConfirmed
    rw [List.filter_map]
    refine congrArg (List.map redemptionRecord) (List.filter_congr fun r hr => ?_)
    obtain ⟨hmem, hten⟩ := hrow r hr
    have hstatus := hagree r.2 hmem hten r.1 asOf (hby r.2 hmem hten)
    rw [Function.comp_apply, decide_eq_decide, ← hstatus]
    cases redemptionStatusAt (redemptionRecord r) asOf <;> simp [RedemptionSnapshotStatus.stored]
  unfold confirmedTotalKobo
  rw [← storedConfirmed_sum h]
  simp only [tenantScope, filterRedemptionsForScope, hsource, hconfirmed, List.map_map]
  refine congrArg List.sum (List.map_congr_left ?_)
  rintro ⟨j, d⟩ hd
  obtain ⟨hj, -, hs⟩ := mem_storedConfirmed.1 hd
  have hamt := ((h.recorded d (List.mem_of_getElem? hj)).of_confirmed hs).2
  simp [redeemedAmountKobo, redemptionRecord, hamt]

/-- **Redemptions in the reports**: statuses and totals are those of the rows exactly if no
redemption of the tenant has expired and each one's last transition is later than the others. -/
theorem redemption_snapshots_agree_iff {s : System} (h : Reachable rt s)
    (hdb : tables.db = s.db) :
    SnapshotsAgree rrt tables tenantId ↔
      ∀ d ∈ s.db.redemptions, d.tenantId = tenantId → d.TransitionsApart := by
  have htied : tables.db.till.Tied := hdb ▸ h.tied
  have hiff : ∀ d ∈ tables.db.redemptions, d.StatusAgrees ↔ d.TransitionsApart := fun d hd =>
    (htied.recorded d hd).statusAgrees_iff
  rw [← hdb]
  constructor
  · intro hagree d hd hten
    exact (hiff d hd).1 (hagree.status d hd hten)
  · intro hapart
    have hstatus : ∀ d ∈ tables.db.redemptions, d.tenantId = tenantId → d.StatusAgrees :=
      fun d hd hten => (hiff d hd).2 (hapart d hd hten)
    refine ⟨hstatus, fun asOf hby => ?_⟩
    rw [creditRedeemedKobo_eq, confirmedKobo_eq]
    exact ⟨rfl, confirmedTotalKobo_eq htied hstatus hby⟩

/-! ### A shop -/

namespace Shop

/-- Dates are those of UTC. -/
def reportRuntime : ReportRuntime := ⟨none, fun _ at_ => Calendar.split at_⟩

/-- The tables of the shop, with everything created in one night. -/
def reportTables (db : Database) (h : db.registry = registry) : ReportTables where
  db := db
  branchIds := ["branch"]
  customerIds := ["customer"]
  customerCreatedAt _ := night
  allocationCreatedAt _ := night
  restorationCreatedAt _ := night
  auditCreatedAt _ := night
  fraudFlags := []
  smsMessages _ := []
  branchIds_nodup := by simp
  customerIds_nodup := by simp
  branch_listed id hid := by
    by_contra hne
    exact hid (by simp_all [registry])
  customer_listed id hid := by
    by_contra hne
    exact hid (by simp_all [registry])

/-- A redemption settled at once. -/
def redeemed : List Op :=
  [earn "k1" 9000000, redeem "k2" ⟨1000000, by decide⟩ ⟨60000, by decide⟩]

/-- Its reversal a second later. -/
def reversedLater : Op :=
  .reverse ⟨⟨supervisor, "k3", 1, "wrong basket"⟩, sha256 "k3"⟩ (night + 1000) (night + 1000)
    (night + 1000)

/-- What a redemption records, without the rest of its row. -/
def recordedTimes (d : Redemption) :
    (String × RedemptionStatus) × Int × Option Int × Option Int :=
  ((d.tenantId, d.status), d.requestedAt, d.confirmedAt, d.reversedAt)

end Shop

/-- The redemption is settled and reversed at different instants. -/
theorem redemption_snapshots_agree_shop : ∃ (t : System) (h : t.db.registry = Shop.registry),
    Shop.opened.runAll Shop.runtime (Shop.redeemed ++ [Shop.reversedLater]) = .ok t ∧
      SnapshotsAgree Shop.reportRuntime (Shop.reportTables t.db h) "tenant" := by
  obtain ⟨t, hrun, ht⟩ := Reachable.of_runAll Shop.runtime Shop.registry
    (Shop.redeemed ++ [Shop.reversedLater]) (by decide +kernel)
    (by simp [Shop.redeemed, Shop.reversedLater, Shop.earn, Shop.redeem, Op.Admissible])
  have hregistry : t.db.registry = Shop.registry :=
    System.runAll_registry (.initial Shop.registry) hrun
      (by simp [Shop.redeemed, Shop.reversedLater, Shop.earn, Shop.redeem])
  have htimes : t.db.redemptions.map Shop.recordedTimes =
      [(("tenant", .REVERSED), Shop.night, some Shop.night, some (Shop.night + 1000))] :=
    System.of_runAll_map hrun (f := fun t => t.db.redemptions.map Shop.recordedTimes)
      (by decide +kernel)
  refine ⟨t, hregistry, hrun, (redemption_snapshots_agree_iff ht rfl).2 fun d hd _ => ?_⟩
  have hmem := List.mem_map_of_mem (f := Shop.recordedTimes) hd
  rw [htimes, List.mem_singleton] at hmem
  simp only [Shop.recordedTimes, Prod.mk.injEq] at hmem
  obtain ⟨⟨-, hs⟩, hreq, hc, hv⟩ := hmem
  simp [Redemption.TransitionsApart, hs, hreq, hc, hv]

/-- A redemption settled at once is shown as waiting for approval. -/
theorem redemption_snapshots_disagree : ∃ (t : System) (h : t.db.registry = Shop.registry),
    Shop.opened.runAll Shop.runtime Shop.redeemed = .ok t ∧
      ¬ SnapshotsAgree Shop.reportRuntime (Shop.reportTables t.db h) "tenant" := by
  obtain ⟨t, hrun, ht⟩ := Reachable.of_runAll Shop.runtime Shop.registry Shop.redeemed
    (by decide +kernel) (by simp [Shop.redeemed, Shop.earn, Shop.redeem, Op.Admissible])
  have hregistry : t.db.registry = Shop.registry :=
    System.runAll_registry (.initial Shop.registry) hrun
      (by simp [Shop.redeemed, Shop.earn, Shop.redeem])
  have htimes : t.db.redemptions.map Shop.recordedTimes =
      [(("tenant", .CONFIRMED), Shop.night, some Shop.night, none)] :=
    System.of_runAll_map hrun (f := fun t => t.db.redemptions.map Shop.recordedTimes)
      (by decide +kernel)
  obtain ⟨d, hd, htime⟩ := List.mem_map.1 (htimes ▸ List.mem_singleton_self _)
  simp only [Shop.recordedTimes, Prod.mk.injEq] at htime
  obtain ⟨⟨hten, hs⟩, hreq, hc, -⟩ := htime
  refine ⟨t, hregistry, hrun, fun hagree => ?_⟩
  have hapart := (ht.tied.recorded d hd).statusAgrees_iff.1 (hagree.status d hd hten)
  simp [Redemption.TransitionsApart, hs, hreq, hc] at hapart

end ShopcityLoyalty
