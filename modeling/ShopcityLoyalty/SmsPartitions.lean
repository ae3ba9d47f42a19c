import ShopcityLoyalty.SmsSnapshots
import ShopcityLoyalty.DeliveryPolls
import ShopcityLoyalty.LiabilityPartition

/-!
The messages in the reports: how the counts of a scope add up, against the stored statuses, and
how those of the branches make those of the tenant.
-/

namespace ShopcityLoyalty

open ReportMaterializerService OutboxWorkerRuntime

/-! ### What the reports show -/

/-- A count of a summary: that of all messages, or of those with a status. -/
def SmsDailySummary.countOf (summary : SmsDailySummary) : Option SmsSnapshotStatus → Nat
  | none => summary.totalCount
  | some .QUEUED => summary.queuedCount
  | some .SENT => summary.sentCount
  | some .DELIVERED => summary.deliveredCount
  | some .FAILED => summary.failedCount
  | some .SUPPRESSED => summary.suppressedCount

/-- The branch that a message counts in. -/
def smsBranchId (source : SourceData) (sms : SmsMessageRecord) : Option String :=
  (sms.receiptId.bind (receiptBranchId source)).or sms.cardBranchId

/-- The message counts in a branch of the tenant. -/
def HasBranch (source : SourceData) (sms : SmsMessageRecord) : Prop :=
  ∃ branch ∈ source.branches, smsBranchId source sms = some branch.id

instance (source : SourceData) : DecidablePred (HasBranch source) := fun sms =>
  inferInstanceAs (Decidable (∃ branch ∈ source.branches, smsBranchId source sms = some branch.id))

/-- The message is of a scope. -/
def ShowsSms (source : SourceData) (sms : SmsMessageRecord) : ReportScope → Bool
  | .TENANT => true
  | .BRANCH branchId => smsBranchId source sms = some branchId

/-- The message is counted under a status, or among all. -/
def CountedAs (asOf : Int) (kind : Option SmsSnapshotStatus) (sms : SmsMessageRecord) : Bool :=
  kind.all fun status => smsStatusAt sms asOf = status

section shown

variable (rt : ReportRuntime) (source : SourceData) (scope : ScopeDefinition) (asOf : Int)

/-- What the summaries of a date show. -/
def smsCount (date : Calendar.Date) (kind : Option SmsSnapshotStatus) : Nat :=
  (((buildSmsSummaries rt source scope asOf).filter fun summary => summary.reportDate = date).map
    (·.countOf kind)).sum

/-- What the summaries of all dates show. -/
def smsCountOfAllDates (kind : Option SmsSnapshotStatus) : Nat :=
  ((buildSmsSummaries rt source scope asOf).map (·.countOf kind)).sum

variable {rt source scope asOf}

lemma filterSmsForScope_eq (messages : List SmsMessageRecord) (scope : ReportScope) :
    filterSmsForScope messages source scope =
      messages.filter fun sms => ShowsSms source sms scope := by
  cases scope with
  | TENANT => simp [filterSmsForScope, ShowsSms]
  | BRANCH branchId => rfl

lemma countOf_group {messages : List SmsMessageRecord} {date : Calendar.Date}
    {summary : SmsDailySummary} {dateOf : SmsMessageRecord → Calendar.Date}
    (htotal : summary.totalCount = (groupOn dateOf messages date).length)
    (hcounts : ∀ status, summary.countOf (some status) =
      (groupOn dateOf messages date).countP fun sms => smsStatusAt sms asOf = status)
    (kind : Option SmsSnapshotStatus) :
    summary.countOf kind = (groupOn dateOf messages date).countP (CountedAs asOf kind) := by
  cases kind with
  | none =>
      have hall : CountedAs asOf none = fun _ => true := rfl
      rw [hall, List.countP_true]
      exact htotal
  | some status => exact hcounts status

variable (rt source scope asOf) in
lemma smsSummaries_counts (kind : Option SmsSnapshotStatus) :
    let messages := source.smsMessages.filter fun sms => ShowsSms source sms scope.scope
    let dateOf := fun sms : SmsMessageRecord => toReportDate rt sms.queuedAt scope.timezone
    (buildSmsSummaries rt source scope asOf).map (fun summary =>
        (summary.reportDate, summary.countOf kind)) =
      (sortedDates (messages.map dateOf)).map fun date =>
        (date, (groupOn dateOf messages date).countP (CountedAs asOf kind)) := by
  unfold buildSmsSummaries
  simp only [filterSmsForScope_eq, List.map_map]
  refine List.map_congr_left fun date _ => Prod.ext rfl ?_
  refine countOf_group rfl (fun status => ?_) kind
  cases status <;> rfl

lemma smsCountOfAllDates_eq (kind : Option SmsSnapshotStatus) :
    smsCountOfAllDates rt source scope asOf kind =
      (source.smsMessages.filter fun sms => ShowsSms source sms scope.scope).countP
        (CountedAs asOf kind) := by
  let messages := source.smsMessages.filter fun sms => ShowsSms source sms scope.scope
  let dateOf := fun sms : SmsMessageRecord => toReportDate rt sms.queuedAt scope.timezone
  have hcounts : (buildSmsSummaries rt source scope asOf).map (·.countOf kind) =
      (sortedDates (messages.map dateOf)).map fun date =>
        ((groupOn dateOf messages date).map fun sms =>
          if CountedAs asOf kind sms then 1 else 0).sum := by
    have hpairs := congrArg (List.map Prod.snd) (smsSummaries_counts rt source scope asOf kind)
    simp only [List.map_map, Function.comp_def] at hpairs
    rw [hpairs]
    refine List.map_congr_left fun date _ => ?_
    rw [sum_ite]
  unfold smsCountOfAllDates
  rw [hcounts]
  unfold sortedDates
  rw [sum_groupOn_sorted fun sms hsms => List.mem_map_of_mem hsms, sum_ite]

lemma smsCount_eq (date : Calendar.Date) (kind : Option SmsSnapshotStatus) :
    smsCount rt source scope asOf date kind =
      (source.smsMessages.filter fun sms => ShowsSms source sms scope.scope).countP fun sms =>
        toReportDate rt sms.queuedAt scope.timezone = date ∧ CountedAs asOf kind sms := by
  let messages := source.smsMessages.filter fun sms => ShowsSms source sms scope.scope
  let dateOf := fun sms : SmsMessageRecord => toReportDate rt sms.queuedAt scope.timezone
  let dates := sortedDates (messages.map dateOf)
  have hpairs : ((buildSmsSummaries rt source scope asOf).filter fun summary =>
        summary.reportDate = date).map (·.countOf kind) =
      (dates.filter (· = date)).map fun date =>
        (groupOn dateOf messages date).countP (CountedAs asOf kind) := by
    have hfiltered := congrArg (fun l => (l.filter fun pair => pair.1 = date).map Prod.snd)
      (smsSummaries_counts rt source scope asOf kind)
    simpa only [List.filter_map, List.map_map, Function.comp_def] using hfiltered
  have hcount : (groupOn dateOf messages date).countP (CountedAs asOf kind) =
      messages.countP fun sms => dateOf sms = date ∧ CountedAs asOf kind sms := by
    unfold groupOn
    rw [List.countP_filter]
    refine List.countP_congr fun sms _ => ?_
    simp [and_comm]
  unfold smsCount
  rw [hpairs, ← hcount, List.filter_eq]
  by_cases hmem : date ∈ dates
  · rw [List.count_eq_one_of_mem (nodup_sortedDates _) hmem]
    simp
  · have hnone : groupOn dateOf messages date = [] := by
      unfold groupOn
      rw [List.filter_eq_nil_iff]
      intro sms hsms hdate
      exact hmem (mem_sortedDates.2 (List.mem_map.2 ⟨sms, hsms, of_decide_eq_true hdate⟩))
    rw [List.count_eq_zero_of_not_mem hmem, hnone]
    simp

lemma countP_statuses {α : Type} (l : List α) (p : α → Bool) (statusOf : α → SmsSnapshotStatus) :
    let count := fun status => l.countP fun a => p a && decide (statusOf a = status)
    l.countP p =
      count .QUEUED + count .SENT + count .DELIVERED + count .FAILED + count .SUPPRESSED := by
  induction l with
  | nil => rfl
  | cons a l ih =>
      simp only [List.countP_cons] at ih ⊢
      rw [ih]
      cases p a
      · simp
      · cases statusOf a <;> simp <;> omega

lemma smsCount_total (date : Calendar.Date) :
    let count := fun status => smsCount rt source scope asOf date (some status)
    smsCount rt source scope asOf date none =
      count .QUEUED + count .SENT + count .DELIVERED + count .FAILED + count .SUPPRESSED := by
  have hparts := countP_statuses
    (source.smsMessages.filter fun sms => ShowsSms source sms scope.scope)
    (fun sms => decide (toReportDate rt sms.queuedAt scope.timezone = date))
    (fun sms => smsStatusAt sms asOf)
  simpa [smsCount_eq, CountedAs] using hparts

end shown

/-! ### The messages of the workers -/

/-- The messages of a tenant, under the numbers of their events. -/
def tenantMessages (s : OutboxState) (tenantId : String) : List (Nat × SmsMessage) :=
  s.rows.zipIdx.filterMap fun (row, id) =>
    if row.tenantId = tenantId then row.smsMessage.map fun m => (id, m) else none

/-- The tables of the application with the messages of its workers, each linked to its receipt and
to the branch of its card's customer. -/
def withMessages (tables : ReportTables) (links : Nat → Option Nat × Option String)
    (s : OutboxState) : ReportTables :=
  { tables with
    smsMessages := fun tenantId =>
      (tenantMessages s tenantId).map fun r => smsMessageRecord (links r.1) r.2 }

/-- The counts of a tenant's messages are parted by status and by branch, as they are stored. -/
structure SmsPartition (rt : ReportRuntime) (tables : ReportTables)
    (links : Nat → Option Nat × Option String) (tenantId : String) (asOf : Int)
    (s : OutboxState) : Prop where
  total : ∀ scope date,
    let source := loadSourceData (withMessages tables links s) tenantId asOf
    let count := fun status => smsCount rt source scope asOf date (some status)
    smsCount rt source scope asOf date none =
      count .QUEUED + count .SENT + count .DELIVERED + count .FAILED + count .SUPPRESSED
  stored : ∀ (scope : ScopeDefinition) date (status : SmsMessageStatus),
    let source := loadSourceData (withMessages tables links s) tenantId asOf
    smsCount rt source scope asOf date (some status.snapshot) =
      (tenantMessages s tenantId).countP fun r =>
        ShowsSms source (smsMessageRecord (links r.1) r.2) scope.scope ∧
          toReportDate rt r.2.queuedAt scope.timezone = date ∧ r.2.status = status
  branches : ∀ kind,
    let source := loadSourceData (withMessages tables links s) tenantId asOf
    (source.branches.map fun branch =>
        smsCountOfAllDates rt source (branchScope branch) asOf kind).sum =
      smsCountOfAllDates rt source (tenantScope rt) asOf kind

lemma mem_tenantMessages {s : OutboxState} {tenantId : String} {r : Nat × SmsMessage}
    (h : r ∈ tenantMessages s tenantId) : MessageAt s r.1 r.2 := by
  obtain ⟨⟨row, id⟩, hmem, h⟩ := List.mem_filterMap.1 h
  by_cases hten : row.tenantId = tenantId
  · simp only [hten, if_true] at h
    obtain ⟨m, hm, rfl⟩ := Option.map_eq_some_iff.1 h
    exact ⟨row, List.mem_zipIdx_iff_getElem?.1 hmem, hm⟩
  · simp [hten] at h

lemma SmsMessageStatus.snapshot_inj {status status' : SmsMessageStatus}
    (h : status.snapshot = status'.snapshot) : status = status' := by
  cases status <;> cases status' <;> first | rfl | cases h

section partition

variable {rt : ReportRuntime} {tables : ReportTables} {links : Nat → Option Nat × Option String}
  {tenantId : String} {asOf : Int} {s : OutboxState} {source : SourceData}

lemma smsMessages_loaded (hshown : StatusesShown asOf s) :
    (loadSourceData (withMessages tables links s) tenantId asOf).smsMessages =
      (tenantMessages s tenantId).map fun r => smsMessageRecord (links r.1) r.2 := by
  unfold loadSourceData
  simp only [withMessages]
  rw [List.filter_eq_self]
  intro sms hsms
  obtain ⟨r, hr, rfl⟩ := List.mem_map.1 hsms
  exact decide_eq_true (hshown r.1 r.2 (mem_tenantMessages hr)).1

lemma countP_branches (hn : (source.branches.map (·.id)).Nodup) (sms : SmsMessageRecord)
    (q : SmsMessageRecord → Bool) :
    source.branches.countP (fun branch => ShowsSms source sms (.BRANCH branch.id) && q sms) =
      if HasBranch source sms ∧ q sms then 1 else 0 := by
  by_cases hq : q sms = true
  · by_cases hhas : HasBranch source sms
    · rw [if_pos ⟨hhas, hq⟩]
      obtain ⟨branch, hmem, hbranch⟩ := hhas
      have hone : (source.branches.map (·.id)).count branch.id = 1 :=
        List.count_eq_one_of_mem hn (List.mem_map_of_mem hmem)
      rw [List.count_eq_countP, List.countP_map] at hone
      rw [← hone]
      refine List.countP_congr fun other _ => ?_
      rw [ShowsSms, hbranch, hq, Bool.and_true, Function.comp_apply, beq_iff_eq, decide_eq_true_iff,
        Option.some.injEq, eq_comm]
    · rw [if_neg fun h => hhas h.1, List.countP_eq_zero]
      intro branch hmem hshows
      have hbranch := (Bool.and_eq_true_iff.1 hshows).1
      exact hhas ⟨branch, hmem, of_decide_eq_true hbranch⟩
  · rw [if_neg fun h => hq h.2, List.countP_eq_zero]
    intro branch _ hshows
    exact hq (Bool.and_eq_true_iff.1 hshows).2

lemma smsCountOfAllDates_branches (hn : (source.branches.map (·.id)).Nodup)
    (kind : Option SmsSnapshotStatus) :
    (source.branches.map fun branch =>
        smsCountOfAllDates rt source (branchScope branch) asOf kind).sum =
      source.smsMessages.countP fun sms => HasBranch source sms ∧ CountedAs asOf kind sms := by
  have heach : (source.branches.map fun branch =>
        smsCountOfAllDates rt source (branchScope branch) asOf kind) =
      source.branches.map fun branch => source.smsMessages.countP fun sms =>
        ShowsSms source sms (.BRANCH branch.id) && CountedAs asOf kind sms := by
    refine List.map_congr_left fun branch _ => ?_
    rw [smsCountOfAllDates_eq, List.countP_filter]
    refine List.countP_congr fun sms _ => ?_
    simp only [branchScope, Bool.and_eq_true]
    exact and_comm
  rw [heach]
  exact sum_countP_swap fun sms _ => countP_branches hn sms (CountedAs asOf kind)

lemma branches_iff (hn : (source.branches.map (·.id)).Nodup) :
    (∀ kind, (source.branches.map fun branch =>
        smsCountOfAllDates rt source (branchScope branch) asOf kind).sum =
      smsCountOfAllDates rt source (tenantScope rt) asOf kind) ↔
      ∀ sms ∈ source.smsMessages, HasBranch source sms := by
  have htenant : ∀ kind, smsCountOfAllDates rt source (tenantScope rt) asOf kind =
      source.smsMessages.countP (CountedAs asOf kind) := by
    intro kind
    rw [smsCountOfAllDates_eq]
    simp [tenantScope, ShowsSms]
  constructor
  · intro h
    have hall := h none
    rw [smsCountOfAllDates_branches hn, htenant] at hall
    have hlength : source.smsMessages.countP (CountedAs asOf none) = source.smsMessages.length :=
      List.countP_eq_length.2 fun _ _ => rfl
    rw [hlength, List.countP_eq_length] at hall
    exact fun sms hsms => (of_decide_eq_true (hall sms hsms)).1
  · intro h kind
    rw [smsCountOfAllDates_branches hn, htenant]
    refine List.countP_congr fun sms hsms => ?_
    simp [h sms hsms]

/-- Where all messages are shown as stored, only the branches can fail. -/
lemma smsPartition_iff (hshown : StatusesShown asOf s) :
    SmsPartition rt tables links tenantId asOf s ↔ ∀ r ∈ tenantMessages s tenantId,
      HasBranch (loadSourceData (withMessages tables links s) tenantId asOf)
        (smsMessageRecord (links r.1) r.2) := by
  have hn := loaded_branches_nodup (withMessages tables links s) tenantId asOf
  have hloaded : ∀ p : SmsMessageRecord → Prop,
      (∀ sms ∈ (loadSourceData (withMessages tables links s) tenantId asOf).smsMessages, p sms) ↔
        ∀ r ∈ tenantMessages s tenantId, p (smsMessageRecord (links r.1) r.2) := by
    intro p
    rw [smsMessages_loaded hshown, List.forall_mem_map]
  constructor
  · intro h
    exact (hloaded _).1 ((branches_iff hn).1 h.branches)
  · intro h
    refine ⟨fun scope date => ?_, fun scope date status =>
      ?_, (branches_iff hn).2 ((hloaded _).2 h)⟩
    · exact smsCount_total date
    · simp only [smsCount_eq]
      rw [smsMessages_loaded hshown, List.countP_filter, List.countP_map]
      refine List.countP_congr fun r hr => ?_
      have hstatus := (hshown r.1 r.2 (mem_tenantMessages hr)).2 (links r.1)
      have hsame : status.snapshot = r.2.status.snapshot ↔ r.2.status = status :=
        ⟨fun h => SmsMessageStatus.snapshot_inj h.symm, fun h => by rw [h]⟩
      simp only [Function.comp_apply, CountedAs, Option.all_some, hstatus,
        eq_comm (a := r.2.status.snapshot),
        decide_eq_true_eq, hsame, Bool.and_eq_true]
      constructor
      · rintro ⟨⟨hdate, hs⟩, hshows⟩
        exact ⟨hshows, hdate, hs⟩
      · rintro ⟨hshows, hdate, hs⟩
        exact ⟨⟨hdate, hs⟩, hshows⟩

end partition

/-! ### Runs -/

/-- **The messages are parted** in the runs that stamp them in order, exactly if every message of
the tenant has a branch; and a step keeps every message shown as stored exactly if it stamps in
order. -/
theorem sms_report_partition_iff (ctx : WorkerContext) (rt : ReportRuntime) (tables : ReportTables)
    (links : Nat → Option Nat × Option String) (tenantId : String) (asOf : Int) (w : Workers)
    (hreach : Pool.StepsUnder (program ctx) (StampsInOrder asOf) (Pool.initial noEvents) w) :
    (SmsPartition rt tables links tenantId asOf w.state ↔ ∀ r ∈ tenantMessages w.state tenantId,
      HasBranch (loadSourceData (withMessages tables links w.state) tenantId asOf)
        (smsMessageRecord (links r.1) r.2)) ∧
    ∀ event w', w.step (program ctx) event = some w' →
      (StatusesShown asOf w'.state ↔ StampsInOrder asOf w event) :=
  ⟨smsPartition_iff (run_statusesShown hreach).2, fun _ _ => statusesShown_step hreach⟩

/-! ### A replaced card -/

namespace OutboxWorkerRuntime.Shop

/-- A card was replaced; its message waits in the outbox. -/
def cardReplaced : NewOutboxEvent where
  event := ⟨"tenant", "card", "card-2", "sms.send", .object []⟩
  nextAttemptAt := some 0
  message := some { confirmation with
    receiptId := none
    ledgerEntryId := none
    cardId := some "card-2"
    template := "card-replaced" }
  queued m h := by obtain rfl := Option.some.inj h; rfl

/-- The provider answers the submission of the message. -/
def replacementAnswered (status : SmsMessageStatus) : List (PoolEvent Task Surroundings) :=
  [.start (.insertOutboxEvent cardReplaced), .advance 0 (at_ 0),
    .start (.handleJob 0), .advance 1 (at_ 1), .advance 1 (at_ 1), .advance 1 (at_ 1),
    .advance 1 (at_ 1), .advance 1 (answered 2 status false), .advance 1 (at_ 2)]

/-- The tables of two branches. -/
def smsTables : ReportTables := ShopcityLoyalty.Shop.branchTables (System.initial
  ShopcityLoyalty.Shop.twoBranches).db

/-- The card's customer is of the first branch. -/
def smsLinks : Nat → Option Nat × Option String := fun _ => (none, some "branch")

/-- Everything is in order after a step. -/
def inOrderAfter (asOf : Int) (w : Workers) (event : PoolEvent Task Surroundings) : Bool :=
  (w.step (program worker) event).all fun v => (allStamps v).all fun stamps =>
    stamps.all fun st => decide (st.InOrder asOf)

/-- The messages that the tenant's report of the day shows as delivered, and those that are. -/
def deliveredCounts (w : Workers) : Nat × Nat :=
  let source := loadSourceData (withMessages smsTables smsLinks w.state) "tenant" 1000
  let scope := tenantScope ShopcityLoyalty.Shop.reportRuntime
  (smsCount ShopcityLoyalty.Shop.reportRuntime source scope 1000 ⟨1970, 1, 1⟩ (some .DELIVERED),
    (tenantMessages w.state "tenant").countP fun r =>
      ShowsSms source (smsMessageRecord (smsLinks r.1) r.2) scope.scope ∧
        toReportDate ShopcityLoyalty.Shop.reportRuntime r.2.queuedAt scope.timezone = ⟨1970, 1, 1⟩ ∧
          r.2.status = .DELIVERED)

end OutboxWorkerRuntime.Shop

namespace OutboxWorkerRuntime

lemma StampsInOrder.of_check {asOf : Int} {w : Workers} {event : PoolEvent Task Surroundings}
    (h : Shop.inOrderAfter asOf w event) : StampsInOrder asOf w event := by
  apply StampsInOrder.of_step Shop.worker
  intro v hstep id st hst
  obtain ⟨m, ⟨row, hrow, hm⟩, rfl⟩ := stampsAt_some.1 hst
  unfold Shop.inOrderAfter at h
  rw [hstep] at h
  have hall := List.all_eq_true.1 h (some m.stamps) (List.mem_map.2
    ⟨row, List.mem_of_getElem? hrow, by rw [hm]; rfl⟩)
  exact of_decide_eq_true hall

lemma hasBranch_shop {s : OutboxState} (m : SmsMessage) (id : Nat) :
    HasBranch (loadSourceData (withMessages Shop.smsTables Shop.smsLinks s) "tenant" 1000)
      (smsMessageRecord (Shop.smsLinks id) m) := by
  have hbranch : ∃ branch ∈ (loadSourceData Shop.smsTables "tenant" 1000).branches,
      some "branch" = some branch.id := by decide +kernel
  exact hbranch

/-- A message that was sent is counted as sent. -/
theorem sms_report_partition_sent : ∃ w : Workers,
    Pool.StepsUnder (program Shop.worker) (StampsInOrder 1000) (Pool.initial noEvents) w ∧
      Shop.allStamps w = [some ⟨.SENT, some "sms-1", 0, some 1, none, none, none, none⟩] ∧
      SmsPartition ShopcityLoyalty.Shop.reportRuntime Shop.smsTables Shop.smsLinks "tenant" 1000
        w.state := by
  have hrun : (Pool.runChecked (program Shop.worker) (Shop.inOrderAfter 1000)
    (Pool.initial noEvents)
      (Shop.replacementAnswered .SENT)).map Shop.allStamps =
        some [some ⟨.SENT, some "sms-1", 0, some 1, none, none, none, none⟩] := by decide +kernel
  obtain ⟨w, hw, hstamps⟩ := Option.map_eq_some_iff.1 hrun
  have hreach : Pool.StepsUnder (program Shop.worker) (StampsInOrder 1000)
      (Pool.initial noEvents) w :=
    Pool.StepsUnder.of_runChecked (fun _ _ => StampsInOrder.of_check) hw
  exact ⟨w, hreach, hstamps, (sms_report_partition_iff Shop.worker _ Shop.smsTables Shop.smsLinks
    "tenant" 1000 w hreach).1.2 fun r _ => hasBranch_shop r.2 r.1⟩

/-- **A message that is delivered with its submission is counted as sent.** -/
theorem sms_report_partition_delivered : ∃ w : Workers,
    Run Shop.worker (Pool.initial noEvents) w ∧
      Shop.allStamps w = [some ⟨.DELIVERED, some "sms-1", 0, some 1, some 1, none, none, none⟩] ∧
      ¬ SmsPartition ShopcityLoyalty.Shop.reportRuntime Shop.smsTables Shop.smsLinks "tenant" 1000
        w.state := by
  have hrun : (Pool.runChecked (program Shop.worker) (fun _ _ => true) (Pool.initial noEvents)
      (Shop.replacementAnswered .DELIVERED)).map
        (fun w => (Shop.allStamps w, Shop.deliveredCounts w)) =
      some ([some ⟨.DELIVERED, some "sms-1", 0, some 1, some 1, none, none, none⟩], (0, 1)) := by
    decide +kernel
  obtain ⟨w, hw, hafter⟩ := Option.map_eq_some_iff.1 hrun
  obtain ⟨hstamps, hcounts⟩ := Prod.mk.inj hafter
  refine ⟨w, Pool.StepsUnder.of_runChecked (fun _ _ _ => trivial) hw, hstamps, fun hpartition => ?_⟩
  have hsame : (Shop.deliveredCounts w).1 = (Shop.deliveredCounts w).2 := hpartition.stored
    (tenantScope ShopcityLoyalty.Shop.reportRuntime) ⟨1970, 1, 1⟩ .DELIVERED
  rw [hcounts] at hsame
  cases hsame

end OutboxWorkerRuntime

end ShopcityLoyalty
