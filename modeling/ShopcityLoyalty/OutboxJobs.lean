import ShopcityLoyalty.OutboxWorker

/-!
What a job does to the outbox, statement by statement.

A job for an event changes the row of that event and no other. Up to its last statement it
leaves the event open: neither completed nor dead-lettered, and its message unsent.
-/

namespace ShopcityLoyalty

open Process

namespace OutboxWorkerRuntime

/-- Only the row of one event, and the submissions of its message, may change. -/
structure Local (id : Nat) (s t : OutboxState) : Prop where
  rows : ∀ j, j ≠ id → t.rows[j]? = s.rows[j]?
  submissions : ∀ j, j ≠ id → t.submissions.count j = s.submissions.count j

lemma Local.refl (id : Nat) (s : OutboxState) : Local id s s := ⟨fun _ _ => rfl, fun _ _ => rfl⟩

lemma Local.set (id : Nat) (s : OutboxState) (row : OutboxRow) :
    Local id s { s with rows := s.rows.set id row } :=
  ⟨fun _ hj => List.getElem?_set_ne hj.symm, fun _ _ => rfl⟩

/-- The row of one event may change, but not what the event is; no flag changes. -/
structure Steady (id : Nat) (s t : OutboxState) : Prop extends Local id s t where
  length : t.rows.length = s.rows.length
  event : ∀ row row', s.rows[id]? = some row → t.rows[id]? = some row' →
    row'.toOutboxEvent = row.toOutboxEvent
  fraudFlags : t.fraudFlags = s.fraudFlags

lemma Steady.of_rows {id : Nat} {s t : OutboxState} (h : Local id s t) (hrows : t.rows = s.rows)
    (hflags : t.fraudFlags = s.fraudFlags) : Steady id s t where
  toLocal := h
  length := by rw [hrows]
  event row row' hrow hrow' := by
    obtain rfl : row = row' := Option.some.inj (hrow.symm.trans (hrows ▸ hrow'))
    rfl
  fraudFlags := hflags

lemma Steady.refl (id : Nat) (s : OutboxState) : Steady id s s := .of_rows (.refl id s) rfl rfl

lemma Steady.set {id : Nat} {s : OutboxState} {row row' : OutboxRow}
    (hrow : s.rows[id]? = some row) (hevent : row'.toOutboxEvent = row.toOutboxEvent) :
    Steady id s { s with rows := s.rows.set id row' } where
  toLocal := .set id s row'
  length := List.length_set
  event r r' hr hr' := by
    have hlt := Table.lt_of_getElem? hrow
    obtain rfl : row = r := Option.some.inj (hrow.symm.trans hr)
    obtain rfl : row' = r' := by simpa [List.getElem?_set_self hlt] using hr'
    exact hevent
  fraudFlags := rfl

/-- The provider has taken the message, or will not get it. -/
def Submitted (status : SmsMessageStatus) : Prop :=
  status = .SENT ∨ status = .DELIVERED ∨ status = .SUPPRESSED

/-- The event is not completed or dead-lettered by the change, and its message not sent. -/
def Harmless (id : Nat) (s t : OutboxState) : Prop :=
  ∀ row', t.rows[id]? = some row' → ∃ row, s.rows[id]? = some row ∧
    row'.processedAt = row.processedAt ∧ row'.deadLetteredAt = row.deadLetteredAt ∧
    ∀ m', row'.smsMessage = some m' → Submitted m'.status →
      ∃ m, row.smsMessage = some m ∧ Submitted m.status

lemma Harmless.of_rows {id : Nat} {s t : OutboxState} (h : t.rows = s.rows) : Harmless id s t := by
  intro row hrow
  rw [h] at hrow
  exact ⟨row, hrow, rfl, rfl, fun m hm hs => ⟨m, hm, hs⟩⟩

lemma Harmless.of_set {id : Nat} {s : OutboxState} {row row' : OutboxRow}
    (hrow : s.rows[id]? = some row) (hprocessed : row'.processedAt = row.processedAt)
    (hdead : row'.deadLetteredAt = row.deadLetteredAt)
    (hmessage : ∀ m', row'.smsMessage = some m' → Submitted m'.status →
      ∃ m, row.smsMessage = some m ∧ Submitted m.status) :
    Harmless id s { s with rows := s.rows.set id row' } := by
  intro r hr
  have hlt := Table.lt_of_getElem? hrow
  obtain rfl : row' = r := by
    simpa [List.getElem?_set_self hlt] using hr
  exact ⟨row, hrow, hprocessed, hdead, hmessage⟩

/-- A condition on the outbox under which a job attends to an event: others do not break it,
it lets the job do as it likes with its row, and harmless statements keep it. -/
structure Attends {Γ : Type} (c : Contract Surroundings OutboxState Γ) (id : Nat)
    (Open : OutboxState → Prop) : Prop where
  stable : c.Stable fun s => Open s.1
  free : ∀ s t g, Open s → Steady id s t → c.guarantee (s, g) (t, g)
  keeps : ∀ s t, Open s → Steady id s t → Harmless id s t → Open t

/-- The same where flags do not matter. -/
structure WorkOn {Γ : Type} (c : Contract Surroundings OutboxState Γ) (id : Nat)
    (Open : OutboxState → Prop) : Prop where
  stable : c.Stable fun s => Open s.1
  free : ∀ s t g, Open s → Local id s t → c.guarantee (s, g) (t, g)
  keeps : ∀ s t, Open s → Harmless id s t → Open t

lemma WorkOn.attends {Γ : Type} {c : Contract Surroundings OutboxState Γ} {id : Nat}
    {Open : OutboxState → Prop} (h : WorkOn c id Open) : Attends c id Open :=
  ⟨h.stable, fun s t g hs hst => h.free s t g hs hst.toLocal, fun s t hs _ => h.keeps s t hs⟩

/-- The condition holds whatever the result. -/
def Lives {Γ α : Type} (Open : OutboxState → Prop) : Except JobError α → OutboxState × Γ → Prop :=
  fun _ s => Open s.1

/-- The condition holds unless the part ended well. -/
def Ends {Γ α : Type} (Open : OutboxState → Prop) : Except JobError α → OutboxState × Γ → Prop
  | .ok _, _ => True
  | .error _, s => Open s.1

section
variable {Γ : Type} {c : Contract Surroundings OutboxState Γ} {id : Nat}
  {Open : OutboxState → Prop}

/-! ### Statements -/

/-- A statement of the job before its last one. -/
lemma Attends.own {α : Type} (h : Attends c id Open)
    {f : Surroundings → OutboxState → Except JobError α × OutboxState}
    (hsteady : ∀ env s, Steady id s (f env s).2) (hharm : ∀ env s, Harmless id s (f env s).2) :
    Triple c (fun s => Open s.1) (statement f) (Lives Open) := by
  apply triple_attempt h.stable
  intro s env hopen _
  cases hfail : env.failure with
  | some e => exact ⟨s.2, h.free _ _ _ hopen (.refl id s.1), hopen⟩
  | none =>
      have hs := hsteady env s.1
      exact ⟨s.2, h.free _ _ _ hopen hs, h.keeps _ _ hopen hs (hharm env s.1)⟩

/-- The last statement. -/
lemma Attends.last {α : Type} (h : Attends c id Open)
    {f : Surroundings → OutboxState → Except JobError α × OutboxState}
    (hsteady : ∀ env s, Steady id s (f env s).2)
    (herr : ∀ env s e, (f env s).1 = .error e → (f env s).2 = s) :
    Triple c (fun s => Open s.1) (statement f) (Ends Open) := by
  apply triple_attempt h.stable
  intro s env hopen _
  cases hfail : env.failure with
  | some e => exact ⟨s.2, h.free _ _ _ hopen (.refl id s.1), hopen⟩
  | none =>
      refine ⟨s.2, h.free _ _ _ hopen (hsteady env s.1), ?_⟩
      cases hr : (f env s.1).1 with
      | ok a => trivial
      | error e =>
          have hsame := herr env s.1 e hr
          change Open (f env s.1).2
          rw [hsame]; exact hopen

lemma Attends.clock (h : Attends c id Open) :
    Triple c (fun s => Open s.1) clock (Lives Open) := by
  apply triple_statement h.stable
  intro s env hopen _
  exact ⟨s.2, h.free _ _ _ hopen (.refl id s.1), hopen⟩

/-- A statement on the row of the event that is harmless whatever the row. -/
lemma Attends.onRow_own {α : Type} (h : Attends c id Open) {missing : Except JobError α}
    {f : Surroundings → OutboxRow → Except JobError α × OutboxRow}
    (hf : ∀ env row, (f env row).2.toOutboxEvent = row.toOutboxEvent ∧
      (f env row).2.processedAt = row.processedAt ∧
      (f env row).2.deadLetteredAt = row.deadLetteredAt ∧
      ∀ m', (f env row).2.smsMessage = some m' → Submitted m'.status →
        ∃ m, row.smsMessage = some m ∧ Submitted m.status) :
    Triple c (fun s => Open s.1) (onRow id missing f) (Lives Open) := by
  apply h.own
  · intro env s
    cases hrow : s.rows[id]? with
    | some row => exact .set hrow (hf env row).1
    | none => exact .refl id s
  · intro env s
    cases hrow : s.rows[id]? with
    | some row =>
        obtain ⟨_, hprocessed, hdead, hmessage⟩ := hf env row
        exact .of_set hrow hprocessed hdead hmessage
    | none => exact .of_rows rfl

/-- A statement on the row of the event that ends the job, unless it fails. -/
lemma Attends.onRow_last {α : Type} (h : Attends c id Open) {missing : Except JobError α}
    {f : Surroundings → OutboxRow → Except JobError α × OutboxRow}
    (hevent : ∀ env row, (f env row).2.toOutboxEvent = row.toOutboxEvent)
    (hf : ∀ env row e, (f env row).1 = .error e → (f env row).2 = row) :
    Triple c (fun s => Open s.1) (onRow id missing f) (Ends Open) := by
  apply h.last
  · intro env s
    cases hrow : s.rows[id]? with
    | some row => exact .set hrow (hevent env row)
    | none => exact .refl id s
  · intro env s e herr
    cases hrow : s.rows[id]? with
    | some row =>
        simp only [hrow] at herr ⊢
        have hlt := Table.lt_of_getElem? hrow
        rw [hf env row e herr]
        have hsame : s.rows.set id row = s.rows := by
          rw [List.getElem?_eq_some_iff] at hrow
          obtain ⟨_, rfl⟩ := hrow
          exact List.set_getElem_self hlt
        rw [hsame]
    | none => rfl

lemma Attends.onMessage_own {α : Type} (h : Attends c id Open) {missing : Except JobError α}
    {f : Surroundings → SmsMessage → Except JobError α × SmsMessage}
    (hf : ∀ env m, Submitted (f env m).2.status → Submitted m.status) :
    Triple c (fun s => Open s.1) (onMessage id missing f) (Lives Open) := by
  apply h.onRow_own
  intro env row
  cases hmessage : row.smsMessage with
  | some message =>
      refine ⟨rfl, rfl, rfl, fun m hm hs => ⟨message, rfl, hf env message ?_⟩⟩
      rw [Option.some.inj hm]; exact hs
  | none => exact ⟨rfl, rfl, rfl, fun m hm _ => by rw [hmessage] at hm; cases hm⟩

/-! ### Updates of events and messages -/

lemma Attends.updateEvent (h : Attends c id Open) {data : Int → OutboxRow → OutboxRow}
    (hdata : ∀ now row, (data now row).toOutboxEvent = row.toOutboxEvent) :
    Triple c (fun s => Open s.1) (updateEvent id data) (Ends Open) :=
  h.onRow_last (fun env row => hdata env.now row) fun _ _ _ herr => by cases herr

/-- The same as a last statement of which nothing more is asked. -/
lemma Attends.marks (h : Attends c id Open) {data : Int → OutboxRow → OutboxRow}
    (hdata : ∀ now row, (data now row).toOutboxEvent = row.toOutboxEvent) :
    Triple c (fun s => Open s.1) (OutboxWorkerRuntime.updateEvent id data) (fun _ _ => True) :=
  (h.updateEvent hdata).consequence (fun _ hs => hs) fun _ _ _ => trivial

lemma Attends.updateMessage (h : Attends c id Open) {data : SmsMessage → SmsMessage}
    (hdata : ∀ m, ¬ Submitted (data m).status) :
    Triple c (fun s => Open s.1) (updateMessage id data) (Lives Open) :=
  h.onMessage_own fun _ m hs => absurd hs (hdata m)

lemma Attends.updateMessage_last (h : Attends c id Open) (data : SmsMessage → SmsMessage) :
    Triple c (fun s => Open s.1) (OutboxWorkerRuntime.updateMessage id data) (Ends Open) := by
  apply h.onRow_last
  · intro env row
    cases hmessage : row.smsMessage <;> rfl
  · intro env row e herr
    cases hmessage : row.smsMessage with
    | some message => simp [hmessage] at herr
    | none => simp

lemma Attends.markSmsSubmissionOutcomeUnknown (h : Attends c id Open) (now : Int) :
    Triple c (fun s => Open s.1) (markSmsSubmissionOutcomeUnknown id now) (Ends Open) := by
  refine (h.updateMessage ?_).bind (fun _ => h.updateEvent ?_) fun _ _ hs => hs
  · simp [Submitted]
  · exact fun _ _ => rfl

lemma Attends.recordFailedSubmission (h : Attends c id Open) (ctx : WorkerContext) (now : Int)
    (dead : Bool) (lastError : String) :
    Triple c (fun s => Open s.1) (recordFailedSubmission ctx id now dead lastError)
      (Ends Open) := by
  refine (h.updateMessage ?_).bind (fun _ => h.updateEvent ?_) fun _ _ hs => hs
  · simp [Submitted, failedSubmission]
  · exact fun _ _ => rfl

/-! ### The job -/

lemma Attends.send (h : Attends c id Open) :
    Triple c (fun s => Open s.1) (send id) (Lives Open) := by
  refine Triple.bind (Q := Lives Open) ?_ (fun _ => ?_) fun _ _ hs => hs
  · apply triple_statement h.stable
    intro s env hopen _
    have hsteady : Steady id s.1 { s.1 with submissions := s.1.submissions ++ [id] } := by
      refine .of_rows ⟨fun _ _ => rfl, fun j hj => ?_⟩ rfl rfl
      simp [List.count_append, hj.symm]
    exact ⟨s.2, h.free _ _ _ hopen hsteady, h.keeps _ _ hopen hsteady (.of_rows rfl)⟩
  · apply triple_attempt h.stable
    intro s env hopen _
    exact ⟨s.2, h.free _ _ _ hopen (.refl id s.1), hopen⟩

lemma Attends.submitSms (h : Attends c id Open) (ctx : WorkerContext) (message : SmsMessage)
    (now : Int) :
    Triple c (fun s => Open s.1) (submitSms ctx id message now) (Ends Open) := by
  refine h.send.bind (fun result => ?_) fun _ _ hs => hs
  split
  · exact h.recordFailedSubmission ctx now _ _
  · exact h.updateMessage_last _

lemma Attends.submissionThrew (h : Attends c id Open) (ctx : WorkerContext) (message : SmsMessage)
    (now : Int) (reservationClaimed : Bool) (error : JobError) :
    Triple c (fun s => Open s.1) (submissionThrew ctx id message now reservationClaimed error)
      (fun _ _ => True) := by
  unfold OutboxWorkerRuntime.submissionThrew
  split
  · exact (h.markSmsSubmissionOutcomeUnknown now).consequence (fun _ hs => hs) fun _ _ _ => trivial
  · refine (h.recordFailedSubmission ctx now _ _).bind (fun _ => ?_) fun _ _ _ => trivial
    exact triple_fail fun _ _ => trivial

lemma Attends.reserveAndSubmit (h : Attends c id Open) (ctx : WorkerContext) (message : SmsMessage)
    (now : Int) :
    Triple c (fun s => Open s.1) (reserveAndSubmit ctx id message now) (fun _ _ => True) := by
  have hsubmit : ∀ claimed, Triple c (fun s => Open s.1)
      ((OutboxWorkerRuntime.submitSms ctx id message now).catching
        (OutboxWorkerRuntime.submissionThrew ctx id message now claimed)) (fun _ _ => True) := by
    intro claimed
    exact (h.submitSms ctx message now).catching (fun _ _ _ => trivial)
      (h.submissionThrew ctx message now claimed)
  unfold OutboxWorkerRuntime.reserveAndSubmit
  split
  · refine Triple.bind (Q := Lives Open) ?_ (fun claimed => ?_) fun _ _ _ => trivial
    · apply h.onMessage_own
      intro env m hs
      split at hs <;> exact hs
    · split
      · exact hsubmit true
      · exact triple_done fun _ _ => trivial
  · exact hsubmit false

lemma Attends.expireReservation (h : Attends c id Open) (ctx : WorkerContext)
    (message : SmsMessage) :
    Triple c (fun s => Open s.1) (expireReservation ctx id message) (fun _ _ => True) := by
  refine h.clock.bind (fun readAt => ?_) fun _ _ _ => trivial
  simp only
  split
  · exact triple_done fun _ _ => trivial
  · refine h.clock.bind (fun now => ?_) fun _ _ _ => trivial
    exact (h.markSmsSubmissionOutcomeUnknown now).consequence (fun _ hs => hs) fun _ _ _ => trivial

lemma Attends.handleSms (h : Attends c id Open) (ctx : WorkerContext) (message : SmsMessage) :
    Triple c (fun s => Open s.1) (handleSms ctx id message) (fun _ _ => True) := by
  unfold OutboxWorkerRuntime.handleSms
  split
  · exact h.marks fun _ _ => rfl
  split
  · exact h.expireReservation ctx message
  split
  · exact h.marks fun _ _ => rfl
  refine h.clock.bind (fun now => ?_) fun _ _ _ => trivial
  split
  · refine (h.updateMessage ?_).bind (fun _ => h.marks fun _ _ => rfl) fun _ _ _ => trivial
    simp [Submitted]
  · exact triple_fail fun _ _ => trivial
  · exact h.reserveAndSubmit ctx message now

lemma smsMessageFromOutboxEvent_status {ctx : WorkerContext} {row : OutboxRow} {now : Int}
    {m : SmsMessage} (h : smsMessageFromOutboxEvent ctx row now = .ok m) : m.status = .QUEUED := by
  unfold smsMessageFromOutboxEvent at h
  simp only at h
  split at h
  · cases h
  split at h
  · cases h
  split at h
  · cases h
  split at h
  · cases h
  · obtain rfl := Except.ok.inj h
    rfl

lemma Attends.createSmsMessageFromOutboxEvent (h : Attends c id Open) (ctx : WorkerContext)
    (row : OutboxRow) :
    Triple c (fun s => Open s.1) (createSmsMessageFromOutboxEvent ctx id row) (Lives Open) := by
  refine h.clock.bind (fun queuedAt => ?_) fun _ _ hs => hs
  cases hmake : smsMessageFromOutboxEvent ctx row queuedAt with
  | error e => exact triple_fail fun _ hs => hs
  | ok message =>
      apply h.onRow_own
      intro env r
      cases hmessage : r.smsMessage with
      | some present => exact ⟨rfl, rfl, rfl, fun m hm hs => ⟨m, hmessage ▸ hm, hs⟩⟩
      | none =>
          refine ⟨rfl, rfl, rfl, fun m hm hs => absurd hs ?_⟩
          obtain rfl := Option.some.inj hm
          simp [Submitted, smsMessageFromOutboxEvent_status hmake]

lemma Attends.resolveSmsMessage (h : Attends c id Open) (ctx : WorkerContext) (row : OutboxRow) :
    Triple c (fun s => Open s.1) (resolveSmsMessage ctx id row) fun r s =>
      ∀ m, r = .ok (some m) → Open s.1 := by
  unfold OutboxWorkerRuntime.resolveSmsMessage
  split
  · exact triple_done fun s hs _ _ => hs
  · refine Triple.catching (Q := Lives Open) ?_ (fun _ _ hs _ _ => hs) fun _ => ?_
    · exact (h.createSmsMessageFromOutboxEvent ctx row).bind
        (fun _ => triple_done fun _ hs => hs) fun _ _ hs => hs
    · refine Triple.bind (h.updateEvent ?_) (fun _ => triple_done fun _ _ _ hm => (by cases hm))
        fun _ _ _ _ hm => (by cases hm)
      exact fun _ _ => rfl

/-- The job once it has found its event; the evaluation of a fraud event is another matter. -/
lemma Attends.handleEvent (h : Attends c id Open) (ctx : WorkerContext) (row : OutboxRow)
    (hfraud : row.eventType = "fraud.evaluate" →
      Triple c (fun s => Open s.1) (processFraudEvaluationEvent ctx id) fun _ _ => True) :
    Triple c (fun s => Open s.1) (handleEvent ctx id row) (fun _ _ => True) := by
  refine Triple.bind (Q := Lives Open) ?_ (fun _ => ?_) fun _ _ _ => trivial
  · exact h.onRow_own fun env r => ⟨rfl, rfl, rfl, fun m hm hs => ⟨m, hm, hs⟩⟩
  split
  · rename_i heq
    exact hfraud heq
  split
  · unfold processReportRefreshEvent
    split
    · exact triple_fail fun _ _ => trivial
    split
    · exact triple_fail fun _ _ => trivial
    · refine Triple.bind (Q := Lives Open) ?_ (fun _ => h.marks fun _ _ => rfl) fun _ _ _ => trivial
      exact h.own (fun _ s => .refl id s) fun _ _ => .of_rows rfl
  split
  · exact h.marks fun _ _ => rfl
  refine (h.resolveSmsMessage ctx row).bind (fun resolved => ?_) fun _ _ _ => trivial
  split
  · rename_i message
    exact (h.handleSms ctx message).consequence (fun s hs => hs message rfl) fun _ _ hs => hs
  · exact triple_done fun _ _ => trivial

/-! ### Where flags do not matter -/

lemma WorkOn.processFraudEvaluationEvent (h : WorkOn c id Open) (ctx : WorkerContext) :
    Triple c (fun s => Open s.1) (processFraudEvaluationEvent ctx id) fun _ _ => True := by
  apply triple_attempt h.stable
  intro s env hopen _
  refine ⟨s.2, h.free _ _ _ hopen ?_, trivial⟩
  cases env.failure with
  | some e => exact .refl id s.1
  | none =>
      simp only
      split
      · exact .refl id s.1
      split
      · exact .refl id s.1
      split
      · exact .refl id s.1
      · exact ⟨fun _ hj => List.getElem?_set_ne hj.symm, fun _ _ => rfl⟩

lemma WorkOn.handleEvent (h : WorkOn c id Open) (ctx : WorkerContext) (row : OutboxRow) :
    Triple c (fun s => Open s.1) (handleEvent ctx id row) (fun _ _ => True) :=
  h.attends.handleEvent ctx row fun _ => h.processFraudEvaluationEvent ctx

lemma WorkOn.handleJob (h : WorkOn c id fun _ => True) (ctx : WorkerContext) :
    Triple c (fun _ => True) (handleJob ctx id) fun _ _ => True := by
  refine Triple.bind (Q := fun _ _ => True) ?_ (fun found => ?_) fun _ _ _ => trivial
  · exact (h.attends.onRow_own fun _ row => ⟨rfl, rfl, rfl, fun m hm hs => ⟨m, hm, hs⟩⟩).consequence
      (fun _ hs => hs) fun _ _ _ => trivial
  · cases found with
    | none => exact triple_done fun _ _ => trivial
    | some row =>
        simp only
        split
        · exact triple_done fun _ _ => trivial
        · exact h.handleEvent ctx row

end

end OutboxWorkerRuntime

end ShopcityLoyalty
