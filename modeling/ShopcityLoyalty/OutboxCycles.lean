import ShopcityLoyalty.OutboxJobs

/-!
What the recovery cycle, the delivery report poll and new events do to the outbox: the cycle
writes no message and no dead-letter mark, the poll writes messages only, and neither
submits anything.
-/

namespace ShopcityLoyalty

open Process

namespace OutboxWorkerRuntime

/-- Every row changes as `R` says, new ones are fresh, and nothing is submitted. -/
structure EachRow (R : OutboxRow → OutboxRow → Prop) (s t : OutboxState) : Prop where
  rows : ∀ (id : Nat) row, s.rows[id]? = some row → ∃ row', t.rows[id]? = some row' ∧ R row row'
  fresh : ∀ (id : Nat) row, t.rows[id]? = some row → s.rows[id]? = none →
    row.status = .PENDING ∧ row.processedAt = none ∧ row.deadLetteredAt = none ∧
      ∀ m, row.smsMessage = some m → ¬ Submitted m.status
  submissions : t.submissions = s.submissions

/-- What a recovery cycle does to an event. -/
structure Recovered (row row' : OutboxRow) : Prop where
  event : row'.toOutboxEvent = row.toOutboxEvent
  deadLetteredAt : row'.deadLetteredAt = row.deadLetteredAt
  frozen : row.deadLetteredAt.isSome → row' = row
  processed : row.processedAt.isSome → row'.processedAt.isSome
  completed : row.processedAt = none → row'.processedAt.isSome →
    ∃ m, row.smsMessage = some m ∧ Submitted m.status
  smsMessage : row'.smsMessage = row.smsMessage
  unprocessed : row.eventType ≠ "sms.send" → row.processedAt = none → row'.processedAt = none
  marked : row'.status = .COMPLETED → row.status = .COMPLETED ∨ row'.processedAt.isSome

/-- What a poll does to an event. -/
structure Polled (row row' : OutboxRow) : Prop where
  event : { row' with smsMessage := row.smsMessage } = row
  message : row'.smsMessage = row.smsMessage ∨ ∃ m m', row.smsMessage = some m ∧
    row'.smsMessage = some m' ∧ m.status = .SENT ∧ m'.attempts = m.attempts ∧
      (m'.failureCategory = some submissionInProgress →
        m.failureCategory = some submissionInProgress)

lemma Recovered.refl (row : OutboxRow) : Recovered row row :=
  ⟨rfl, rfl, fun _ => rfl, id, fun h h' => (by simp [h] at h'), rfl, fun _ h => h, .inl⟩

lemma Polled.refl (row : OutboxRow) : Polled row row := ⟨rfl, .inl rfl⟩

lemma EachRow.refl {R : OutboxRow → OutboxRow → Prop} (hR : ∀ row, R row row) (s : OutboxState) :
    EachRow R s s :=
  ⟨fun _ row hrow => ⟨row, hrow, hR row⟩, fun _ _ h h' => by (rw [h] at h'; cases h'), rfl⟩

lemma EachRow.mono {R R' : OutboxRow → OutboxRow → Prop} {s t : OutboxState} (h : EachRow R s t)
    (hR : ∀ row row', R row row' → R' row row') : EachRow R' s t where
  rows id row hrow := by
    obtain ⟨row', hrow', hr⟩ := h.rows id row hrow
    exact ⟨row', hrow', hR _ _ hr⟩
  fresh := h.fresh
  submissions := h.submissions

lemma EachRow.trans {R : OutboxRow → OutboxRow → Prop} (hR : ∀ a b d, R a b → R b d → R a d)
    {s t u : OutboxState} (h : EachRow R s t) (h' : EachRow R t u)
    (hlen : t.rows.length = s.rows.length) : EachRow R s u where
  rows id row hrow := by
    obtain ⟨row₁, hrow₁, hr₁⟩ := h.rows id row hrow
    obtain ⟨row₂, hrow₂, hr₂⟩ := h'.rows id row₁ hrow₁
    exact ⟨row₂, hrow₂, hR _ _ _ hr₁ hr₂⟩
  fresh id row hrow hnone := by
    refine h'.fresh id row hrow ?_
    rw [List.getElem?_eq_none_iff] at hnone ⊢
    omega
  submissions := h'.submissions.trans h.submissions

/-- A statement on one row. -/
lemma EachRow.set {R : OutboxRow → OutboxRow → Prop} (hR : ∀ row, R row row) {s : OutboxState}
    {id : Nat} {row row' : OutboxRow} (hrow : s.rows[id]? = some row) (h : R row row') :
    EachRow R s { s with rows := s.rows.set id row' } where
  rows j r hr := by
    have hlt := Table.lt_of_getElem? hrow
    by_cases hj : id = j
    · subst hj
      obtain rfl : row = r := Option.some.inj (hrow.symm.trans hr)
      exact ⟨row', List.getElem?_set_self hlt, h⟩
    · exact ⟨r, (List.getElem?_set_ne hj).trans hr, hR r⟩
  fresh j r hr hnone := by
    have hlen : j < (s.rows.set id row').length := Table.lt_of_getElem? hr
    rw [List.getElem?_eq_none_iff] at hnone
    rw [List.length_set] at hlen
    omega
  submissions := rfl

/-- A statement on every row. -/
lemma EachRow.map {R : OutboxRow → OutboxRow → Prop} {f : OutboxRow → OutboxRow}
    (hf : ∀ row, R row (f row)) (s : OutboxState) :
    EachRow R s { s with rows := s.rows.map f } where
  rows j r hr := ⟨f r, by simp [hr], hf r⟩
  fresh j r hr hnone := by simp [hnone] at hr
  submissions := rfl

/-- A contract that permits any statement that changes rows as `R` says and no flag, from
states that meet an assertion which such statements and others keep. -/
structure Permits {Γ : Type} (c : Contract Surroundings OutboxState Γ)
    (R : OutboxRow → OutboxRow → Prop) (I : OutboxState × Γ → Prop) : Prop where
  refl : ∀ row, R row row
  stable : c.Stable I
  guarantee : ∀ s t g, I (s, g) → EachRow R s t → t.fraudFlags = s.fraudFlags →
    c.guarantee (s, g) (t, g)
  keeps : ∀ s t g, I (s, g) → EachRow R s t → t.fraudFlags = s.fraudFlags → I (t, g)

/-- The same where flags do not matter. -/
structure Allows {Γ : Type} (c : Contract Surroundings OutboxState Γ)
    (R : OutboxRow → OutboxRow → Prop) (I : OutboxState × Γ → Prop) : Prop where
  refl : ∀ row, R row row
  stable : c.Stable I
  guarantee : ∀ s t g, I (s, g) → EachRow R s t → c.guarantee (s, g) (t, g)
  keeps : ∀ s t g, I (s, g) → EachRow R s t → I (t, g)

section
variable {Γ : Type} {c : Contract Surroundings OutboxState Γ} {R : OutboxRow → OutboxRow → Prop}
  {I : OutboxState × Γ → Prop}

lemma Allows.permits (h : Allows c R I) : Permits c R I :=
  ⟨h.refl, h.stable, fun s t g hs hrows _ => h.guarantee s t g hs hrows,
    fun s t g hs hrows _ => h.keeps s t g hs hrows⟩

lemma Permits.statement {α : Type} (h : Permits c R I)
    {f : Surroundings → OutboxState → Except JobError α × OutboxState}
    (hf : ∀ env s, EachRow R s (f env s).2)
    (hflags : ∀ env s, (f env s).2.fraudFlags = s.fraudFlags) :
    Triple c I (statement f) fun _ => I := by
  apply triple_attempt h.stable
  intro s env hs _
  cases hfail : env.failure with
  | some e =>
      have hsame := EachRow.refl h.refl s.1
      exact ⟨s.2, h.guarantee _ _ _ hs hsame rfl, h.keeps _ _ _ hs hsame rfl⟩
  | none =>
      have hrows := hf env s.1
      have hsame := hflags env s.1
      exact ⟨s.2, h.guarantee _ _ _ hs hrows hsame, h.keeps _ _ _ hs hrows hsame⟩

lemma Permits.clock (h : Permits c R I) : Triple c I clock fun _ => I := by
  apply triple_statement h.stable
  intro s env hs _
  have hsame := EachRow.refl h.refl s.1
  exact ⟨s.2, h.guarantee _ _ _ hs hsame rfl, h.keeps _ _ _ hs hsame rfl⟩

lemma Permits.onRow {α : Type} (h : Permits c R I) {id : Nat} {missing : Except JobError α}
    {f : Surroundings → OutboxRow → Except JobError α × OutboxRow}
    (hf : ∀ env row, R row (f env row).2) : Triple c I (onRow id missing f) fun _ => I := by
  apply h.statement
  · intro env s
    cases hrow : s.rows[id]? with
    | some row => exact .set h.refl hrow (hf env row)
    | none => exact .refl h.refl s
  · intro env s
    cases s.rows[id]? <;> rfl

/-- The evaluation of an event, where completing an event is allowed. -/
lemma Allows.processFraudEvaluationEvent (h : Allows c R I) (ctx : WorkerContext) (id : Nat)
    (hR : ∀ row now, R row
      { row with
        status := .COMPLETED, processedAt := some now, nextAttemptAt := none, updatedAt := now }) :
    Triple c I (processFraudEvaluationEvent ctx id) fun _ => I := by
  apply triple_attempt h.stable
  intro s env hs _
  suffices hrows : ∀ t : OutboxState, EachRow R s.1 t →
      ∃ g, c.guarantee s (t, g) ∧ I (t, g) by
    apply hrows
    cases env.failure with
    | some e => exact .refl h.refl s.1
    | none =>
        simp only
        split
        · exact .refl h.refl s.1
        rename_i latest hrow
        split
        · exact .refl h.refl s.1
        split
        · exact .refl h.refl s.1
        · have hset := EachRow.set h.refl hrow (hR latest env.now)
          exact ⟨hset.rows, hset.fresh, hset.submissions⟩
  exact fun t ht => ⟨s.2, h.guarantee _ _ _ hs ht, h.keeps _ _ _ hs ht⟩

/-! ### The recovery cycle -/

lemma Recovered.trans (a b d : OutboxRow) (h : Recovered a b) (h' : Recovered b d) :
    Recovered a d where
  event := h'.event.trans h.event
  deadLetteredAt := h'.deadLetteredAt.trans h.deadLetteredAt
  frozen hdead := by
    have hab := h.frozen hdead
    rw [hab] at h'
    exact h'.frozen hdead
  processed hp := h'.processed (h.processed hp)
  completed hnone hsome := by
    by_cases hb : b.processedAt = none
    · obtain ⟨m, hm, hs⟩ := h'.completed hb hsome
      exact ⟨m, h.smsMessage ▸ hm, hs⟩
    · exact h.completed hnone (Option.isSome_iff_ne_none.2 hb)
  smsMessage := h'.smsMessage.trans h.smsMessage
  unprocessed htype hnone := by
    refine h'.unprocessed ?_ (h.unprocessed htype hnone)
    have hevent := congrArg OutboxEvent.eventType h.event
    exact fun heq => htype (hevent.symm.trans heq)
  marked hd := by
    rcases h'.marked hd with hb | hsome
    · exact (h.marked hb).imp_right h'.processed
    · exact .inr hsome

lemma recovered_completeProcessed (now : Int) (row : OutboxRow) :
    Recovered row
      (if row.processedAt.isSome ∧ row.status ≠ .COMPLETED ∧ row.deadLetteredAt.isNone then
        { row with
          status := .COMPLETED
          processedAt := some (row.processedAt.getD now)
          nextAttemptAt := none }
      else row) := by
  split
  · rename_i h
    obtain ⟨hprocessed, _, halive⟩ := h
    refine ⟨rfl, rfl, fun hdead => ?_, fun _ => rfl, fun hnone _ => ?_, rfl, fun _ hnone => ?_,
      fun _ => .inr rfl⟩
    · rw [Option.isNone_iff_eq_none] at halive
      simp [halive] at hdead
    · simp [hnone] at hprocessed
    · simp [hnone] at hprocessed
  · exact .refl row

lemma recovered_completeSubmitted (now : Int) (row : OutboxRow) :
    Recovered row
      (if row.eventType = "sms.send" ∧ row.status = .PUBLISHED ∧ row.processedAt.isNone ∧
          row.deadLetteredAt.isNone ∧
          row.smsMessage.any (fun message =>
            (message.status = .SENT ∨ message.status = .DELIVERED ∨ message.status = .SUPPRESSED) ∧
              message.deadLetteredAt.isNone) then
        { row with status := .COMPLETED, processedAt := some now, nextAttemptAt := none }
      else row) := by
  split
  · rename_i h
    obtain ⟨hsms, _, _, halive, hsent⟩ := h
    refine ⟨rfl, rfl, fun hdead => ?_, fun _ => rfl, fun _ _ => ?_, rfl,
      fun htype => absurd hsms htype, fun _ => .inr rfl⟩
    · rw [Option.isNone_iff_eq_none] at halive
      simp [halive] at hdead
    · obtain ⟨m, hm, hs⟩ := (Option.any_eq_true _ _).1 hsent
      exact ⟨m, hm, (of_decide_eq_true hs).1⟩
  · exact .refl row

lemma recovered_queued (now : Int) {row : OutboxRow} {a b : Int} (h : Claimable a b row) :
    Recovered row
      { row with
        status := .QUEUED, attempts := row.attempts + 1, nextAttemptAt := none
        updatedAt := now } := by
  obtain ⟨_, halive, _⟩ := h
  refine ⟨rfl, rfl, fun hdead => ?_, fun hp => hp, fun hnone hsome => ?_, rfl, fun _ h => h,
    fun hd => by cases hd⟩
  · rw [Option.isNone_iff_eq_none] at halive
    simp [halive] at hdead
  · simp [hnone] at hsome

lemma eachRow_foldl_set (hR : ∀ row, R row row) (htrans : ∀ a b d, R a b → R b d → R a d)
    {f : OutboxRow → OutboxRow} {l : List (Nat × OutboxRow)} {s : OutboxState}
    (hl : ∀ r ∈ l, s.rows[r.1]? = some r.2 ∧ R r.2 (f r.2)) (hnodup : (l.map Prod.fst).Nodup) :
    EachRow R s { s with rows := l.foldl (fun rows r => rows.set r.1 (f r.2)) s.rows } := by
  induction l generalizing s with
  | nil => exact .refl hR s
  | cons r l ih =>
      obtain ⟨hrow, hr⟩ := hl r List.mem_cons_self
      have hfirst := EachRow.set hR hrow hr
      have hnot : r.1 ∉ l.map Prod.fst := (List.nodup_cons.1 hnodup).1
      have hrest : ∀ q ∈ l, (s.rows.set r.1 (f r.2))[q.1]? = some q.2 ∧ R q.2 (f q.2) := by
        intro q hq
        obtain ⟨hqrow, hqr⟩ := hl q (.tail _ hq)
        have hne : r.1 ≠ q.1 := fun heq => hnot (heq ▸ List.mem_map_of_mem hq)
        exact ⟨(List.getElem?_set_ne hne).trans hqrow, hqr⟩
      have htail := ih (s := { s with rows := s.rows.set r.1 (f r.2) }) hrest
        (List.nodup_cons.1 hnodup).2
      exact hfirst.trans htrans htail (List.length_set ..)

lemma eachRow_claimEvents (ctx : WorkerContext) (now staleCutoff : Int) (env : Surroundings)
    (s : OutboxState) :
    let free := (s.rows.select fun row => Claimable now staleCutoff row).filter
      fun r => r.1 ∉ env.locked
    let claimed := (free.insertionSort createdFirst).take ctx.config.publishBatchSize
    let queue := fun row : OutboxRow =>
      { row with
        status := .QUEUED, attempts := row.attempts + 1, nextAttemptAt := none
        updatedAt := env.now }
    EachRow Recovered s
      { s with rows := claimed.foldl (fun rows r => rows.set r.1 (queue r.2)) s.rows } := by
  intro free claimed queue
  have hsub : claimed.Sublist (free.insertionSort createdFirst) := List.take_sublist _ _
  have hperm : (free.insertionSort createdFirst).Perm free := List.perm_insertionSort _ _
  apply eachRow_foldl_set Recovered.refl Recovered.trans
  · intro r hr
    have hfree : r ∈ free := hperm.mem_iff.1 (hsub.subset hr)
    obtain ⟨hrow, hclaim⟩ := Table.mem_select.1 (List.mem_filter.1 hfree).1
    exact ⟨hrow, recovered_queued env.now (of_decide_eq_true hclaim)⟩
  · have hfree : (free.map Prod.fst).Nodup :=
      (Table.nodup_select _ _).sublist (List.filter_sublist.map _)
    exact (((hperm.map Prod.fst).nodup_iff).2 hfree).sublist (hsub.map _)

lemma Permits.updateManyEvents (h : Permits c Recovered I) {id : Nat}
    {data : Int → OutboxRow → OutboxRow}
    (hdata : ∀ now row, (data now row).toOutboxEvent = row.toOutboxEvent ∧
      (data now row).deadLetteredAt = row.deadLetteredAt ∧
      (data now row).processedAt = row.processedAt ∧
      (data now row).smsMessage = row.smsMessage ∧ (data now row).status ≠ .COMPLETED) :
    Triple c I (updateManyEvents id stillQueued data) fun _ => I := by
  apply h.onRow
  intro env row
  obtain ⟨hevent, hdead, hprocessed, hmessage, hopen⟩ := hdata env.now row
  split
  · rename_i h
    simp only [stillQueued, decide_eq_true_eq, Option.isNone_iff_eq_none] at h
    refine ⟨hevent, hdead, fun hd => ?_, fun hp => ?_, fun hnone hsome => ?_, hmessage,
      fun _ hnone => hprocessed.trans hnone, fun hd => absurd hd hopen⟩
    · simp [h.2.2] at hd
    · simp [h.2.1] at hp
    · simp [hprocessed, hnone] at hsome
  · exact .refl row

/-- **The recovery cycle**, statement by statement. -/
theorem recoverAndPublishOnce_rows (ctx : WorkerContext) (h : Permits c Recovered I) :
    Triple c I (recoverAndPublishOnce ctx) fun _ => I := by
  have hdone : Triple c I (Process.done () : Job Unit) fun _ => I := triple_done fun _ hs => hs
  refine h.clock.bind (fun now => ?_) fun _ _ hs => hs
  refine (h.statement (fun env s => .map (recovered_completeProcessed now) s)
    fun _ _ => rfl).bind (fun _ => ?_) fun _ _ hs => hs
  refine (h.statement (fun env s => .map (recovered_completeSubmitted now) s)
    fun _ _ => rfl).bind (fun _ => ?_) fun _ _ hs => hs
  refine (h.statement (fun env s => eachRow_claimEvents ctx now _ env s)
    fun _ _ => rfl).bind (fun claimed => ?_) fun _ _ hs => hs
  apply Triple.each
  intro r _
  unfold publishClaimed
  refine Triple.catching (Q := fun _ => I) ?_ (fun _ _ hs => hs) fun _ => ?_
  · refine (h.statement (fun env s => .refl h.refl s) fun _ _ => rfl).bind (fun _ => ?_)
      fun _ _ hs => hs
    refine Triple.bind (h.updateManyEvents ?_) (fun _ => hdone) fun _ _ hs => hs
    exact fun _ _ => ⟨rfl, rfl, rfl, rfl, by simp⟩
  · refine Triple.bind (h.updateManyEvents ?_) (fun _ => hdone) fun _ _ hs => hs
    exact fun _ _ => ⟨rfl, rfl, rfl, rfl, by simp⟩

/-! ### The poll -/

lemma eligible_sent {providerMessageId : String} {m : SmsMessage}
    (h : eligible providerMessageId m) : m.status = .SENT ∧
      m.providerMessageId = some providerMessageId := by
  simp only [eligible, awaitsReport, decide_eq_true_eq, Bool.decide_and, Bool.and_eq_true] at h
  exact ⟨h.2.1, h.1⟩

lemma Permits.updateManyMessages (h : Permits c Polled I) {id : Nat} {condition : SmsMessage → Bool}
    {data : Int → SmsMessage → SmsMessage} (hcondition : ∀ m, condition m → m.status = .SENT)
    (hdata : ∀ now m, (data now m).attempts = m.attempts ∧
      ((data now m).failureCategory = some submissionInProgress →
        m.failureCategory = some submissionInProgress)) :
    Triple c I (updateManyMessages id condition data) fun _ => I := by
  apply h.onRow
  intro env row
  cases hmessage : row.smsMessage with
  | none => exact .refl row
  | some message =>
      by_cases hc : condition message
      · obtain ⟨hattempts, hcategory⟩ := hdata env.now message
        simp only [hc, if_true]
        refine ⟨?_, .inr ⟨message, _, hmessage, rfl, hcondition message hc, hattempts, hcategory⟩⟩
        simp only [hmessage]
        rw [← hmessage]
      · simp only [hc]
        exact ⟨rfl, .inl hmessage.symm⟩

lemma eligible_and_sent (providerMessageId : String) (p : SmsMessage → Prop) [DecidablePred p]
    (m : SmsMessage) (h : decide (eligible providerMessageId m ∧ p m) = true) : m.status = .SENT :=
  (eligible_sent (of_decide_eq_true h).1).1

/-- **The poll**, statement by statement. -/
theorem pollDeliveryReports_rows (ctx : WorkerContext) (h : Permits c Polled I) :
    Triple c I (pollDeliveryReports ctx) fun _ => I := by
  have hdone : Triple c I (Process.done () : Job Unit) fun _ => I := triple_done fun _ hs => hs
  unfold pollDeliveryReports
  split
  · exact hdone
  refine h.clock.bind (fun now => ?_) fun _ _ hs => hs
  refine (h.statement (fun env s => .refl h.refl s) fun _ _ => rfl).bind (fun messages => ?_)
    fun _ _ hs => hs
  apply Triple.each
  intro r _
  unfold pollMessage
  split
  · exact hdone
  refine h.clock.bind (fun readAt => ?_) fun _ _ hs => hs
  refine Triple.bind (h.updateManyMessages (eligible_and_sent _ _) ?_) (fun claimed => ?_)
    fun _ _ hs => hs
  · exact fun _ _ => ⟨rfl, fun h => h⟩
  split
  · exact hdone
  refine Triple.bind (Q := fun _ => I) ?_ (fun report => ?_) fun _ _ hs => hs
  · apply triple_statement h.stable
    intro s env hs _
    exact ⟨s.2, h.guarantee _ _ _ hs (.refl h.refl s.1) rfl, hs⟩
  split
  · exact hdone
  split
  · exact hdone
  unfold recordReport
  split
  · refine Triple.bind (h.updateManyMessages (eligible_and_sent _ _) ?_) (fun _ => hdone)
      fun _ _ hs => hs
    exact fun _ _ => ⟨rfl, fun h => h⟩
  split
  · refine Triple.bind (h.updateManyMessages (eligible_and_sent _ _) ?_) (fun _ => hdone)
      fun _ _ hs => hs
    exact fun _ _ => ⟨rfl, fun h => by simp [submissionInProgress] at h⟩
  · exact hdone

/-! ### New events -/

theorem insertOutboxEvent_rows (new : NewOutboxEvent) (h : Permits c R I) :
    Triple c I (insertOutboxEvent new) fun _ => I := by
  refine h.statement ?_ fun _ _ => rfl
  intro env s
  refine ⟨fun id row hrow => ⟨row, Table.getElem?_append hrow, h.refl row⟩, ?_, rfl⟩
  intro id row hrow hnone
  rcases Table.getElem?_insert_iff.1 hrow with hrow | ⟨_, rfl⟩
  · rw [hrow] at hnone; cases hnone
  · refine ⟨rfl, rfl, rfl, fun m hm => ?_⟩
    simp [Submitted, new.queued m hm]

end

end OutboxWorkerRuntime

end ShopcityLoyalty
