import ShopcityLoyalty.SmsReservations

/-!
Submissions of accepted messages, over runs of any number of workers.

A message that the provider accepted is not submitted again where no two jobs for its event
are in flight together and a report of a failed delivery comes only once the event is
completed. A provider that wants a reservation, and reports no deliveries, needs neither:
there the reservation keeps the jobs of one event apart.
-/

namespace ShopcityLoyalty

open Process

namespace OutboxWorkerRuntime

/-- The provider accepted the message, as the database has it. -/
def Accepted (id : Nat) (s : OutboxState) : Prop :=
  ∃ row m, s.rows[id]? = some row ∧ row.smsMessage = some m ∧
    (m.status = .SENT ∨ m.status = .DELIVERED)

def Processed (id : Nat) (s : OutboxState) : Prop :=
  ∃ row, s.rows[id]? = some row ∧ row.processedAt.isSome

/-- Nothing is left to submit. -/
def Settled (id : Nat) (s : OutboxState) : Prop :=
  Processed id s ∨ ∃ row m, s.rows[id]? = some row ∧ row.smsMessage = some m ∧ Submitted m.status

lemma Accepted.settled {id : Nat} {s : OutboxState} (h : Accepted id s) : Settled id s := by
  obtain ⟨row, m, hrow, hm, hs⟩ := h
  refine .inr ⟨row, m, hrow, hm, ?_⟩
  rcases hs with hs | hs
  · exact .inl hs
  · exact .inr (.inl hs)

/-- A settled event stays settled and processed, its message keeps the provider's id, and
nothing is submitted. -/
structure Rests (id : Nat) (s t : OutboxState) : Prop where
  settled : Settled id s → Settled id t
  processed : Processed id s → Processed id t
  providerMessageId : Settled id s → ∀ row m, s.rows[id]? = some row → row.smsMessage = some m →
    ∃ row' m', t.rows[id]? = some row' ∧ row'.smsMessage = some m' ∧
      m'.providerMessageId = m.providerMessageId
  submissions : Settled id s → t.submissions.count id = s.submissions.count id

lemma Rests.refl (id : Nat) (s : OutboxState) : Rests id s s :=
  ⟨fun h => h, fun h => h, fun _ row m hrow hm => ⟨row, m, hrow, hm, rfl⟩, fun _ => rfl⟩

lemma Rests.trans {id : Nat} {s t u : OutboxState} (h : Rests id s t) (h' : Rests id t u) :
    Rests id s u where
  settled hs := h'.settled (h.settled hs)
  processed hs := h'.processed (h.processed hs)
  providerMessageId hs row m hrow hm := by
    obtain ⟨row₁, m₁, hrow₁, hm₁, heq₁⟩ := h.providerMessageId hs row m hrow hm
    obtain ⟨row₂, m₂, hrow₂, hm₂, heq₂⟩ := h'.providerMessageId (h.settled hs) row₁ m₁ hrow₁ hm₁
    exact ⟨row₂, m₂, hrow₂, hm₂, heq₂.trans heq₁⟩
  submissions hs := (h'.submissions (h.settled hs)).trans (h.submissions hs)

/-- A change of a row that settles and unsettles nothing. -/
structure Settling (row row' : OutboxRow) : Prop where
  processed : row.processedAt.isSome → row'.processedAt.isSome
  completed : row.processedAt = none → row'.processedAt.isSome →
    ∃ m, row.smsMessage = some m ∧ Submitted m.status
  message : row'.smsMessage = row.smsMessage ∨ ∃ m m', row.smsMessage = some m ∧
    row'.smsMessage = some m' ∧ m.status = .SENT ∧ Submitted m'.status ∧
      m'.providerMessageId = m.providerMessageId

lemma Settling.refl (row : OutboxRow) : Settling row row :=
  ⟨fun h => h, fun h h' => by simp [h] at h', .inl rfl⟩

lemma Recovered.settling {row row' : OutboxRow} (h : Recovered row row') : Settling row row' :=
  ⟨h.processed, h.completed, .inl h.smsMessage⟩

/-- A change that may mark the event as processed, and leaves its message. -/
structure Marked (row row' : OutboxRow) : Prop where
  processed : row.processedAt.isSome → row'.processedAt.isSome
  smsMessage : row'.smsMessage = row.smsMessage

lemma EachRow.rests_of_marked {id : Nat} {s t : OutboxState} (h : EachRow Marked s t) :
    Rests id s t where
  settled hs := by
    rcases hs with ⟨row, hrow, hp⟩ | ⟨row, m, hrow, hm, hsub⟩
    · obtain ⟨row', hrow', hr⟩ := h.rows id row hrow
      exact .inl ⟨row', hrow', hr.processed hp⟩
    · obtain ⟨row', hrow', hr⟩ := h.rows id row hrow
      exact .inr ⟨row', m, hrow', hr.smsMessage.trans hm, hsub⟩
  processed hs := by
    obtain ⟨row, hrow, hp⟩ := hs
    obtain ⟨row', hrow', hr⟩ := h.rows id row hrow
    exact ⟨row', hrow', hr.processed hp⟩
  providerMessageId _ row m hrow hm := by
    obtain ⟨row', hrow', hr⟩ := h.rows id row hrow
    exact ⟨row', m, hrow', hr.smsMessage.trans hm, rfl⟩
  submissions _ := by rw [h.submissions]

lemma EachRow.rests {id : Nat} {s t : OutboxState} (h : EachRow Settling s t) :
    Rests id s t ∧ (¬ Settled id s → ¬ Settled id t) := by
  have hmessage : ∀ row m, s.rows[id]? = some row → row.smsMessage = some m →
      ∃ row' m', t.rows[id]? = some row' ∧ row'.smsMessage = some m' ∧
        m'.providerMessageId = m.providerMessageId ∧
          (Submitted m.status → Submitted m'.status) := by
    intro row m hrow hm
    obtain ⟨row', hrow', hr⟩ := h.rows id row hrow
    rcases hr.message with heq | ⟨m₁, m', hm₁, hm', _, hsub, heq⟩
    · exact ⟨row', m, hrow', heq.trans hm, rfl, fun hs => hs⟩
    · obtain rfl : m = m₁ := Option.some.inj (hm.symm.trans hm₁)
      exact ⟨row', m', hrow', hm', heq, fun _ => hsub⟩
  have hprocessed : Processed id s → Processed id t := by
    rintro ⟨row, hrow, hp⟩
    obtain ⟨row', hrow', hr⟩ := h.rows id row hrow
    exact ⟨row', hrow', hr.processed hp⟩
  refine ⟨⟨?_, hprocessed, ?_, fun _ => by rw [h.submissions]⟩, ?_⟩
  · rintro (hp | ⟨row, m, hrow, hm, hsub⟩)
    · exact .inl (hprocessed hp)
    · obtain ⟨row', m', hrow', hm', _, hsub'⟩ := hmessage row m hrow hm
      exact .inr ⟨row', m', hrow', hm', hsub' hsub⟩
  · intro _ row m hrow hm
    obtain ⟨row', m', hrow', hm', heq, _⟩ := hmessage row m hrow hm
    exact ⟨row', m', hrow', hm', heq⟩
  · intro hopen hs
    rcases hs with ⟨row', hrow', hp⟩ | ⟨row', m', hrow', hm', hsub⟩
    · cases hrow : s.rows[id]? with
      | none =>
          obtain ⟨_, hnone, _⟩ := h.fresh id row' hrow' hrow
          simp [hnone] at hp
      | some row =>
          obtain ⟨row₁, hrow₁, hr⟩ := h.rows id row hrow
          obtain rfl : row₁ = row' := Option.some.inj (hrow₁.symm.trans hrow')
          by_cases hnone : row.processedAt = none
          · obtain ⟨m, hm, hsub⟩ := hr.completed hnone hp
            exact hopen (.inr ⟨row, m, hrow, hm, hsub⟩)
          · exact hopen (.inl ⟨row, hrow, Option.isSome_iff_ne_none.2 hnone⟩)
    · cases hrow : s.rows[id]? with
      | none => exact (h.fresh id row' hrow' hrow).2.2.2 m' hm' hsub
      | some row =>
          obtain ⟨row₁, hrow₁, hr⟩ := h.rows id row hrow
          obtain rfl : row₁ = row' := Option.some.inj (hrow₁.symm.trans hrow')
          rcases hr.message with heq | ⟨m, _, hm, _, hsent, _, _⟩
          · exact hopen (.inr ⟨row, m', hrow, heq ▸ hm', hsub⟩)
          · exact hopen (.inr ⟨row, m, hrow, hm, .inl hsent⟩)

lemma Local.rests {id j : Nat} {s t : OutboxState} (h : Local j s t) (hne : id ≠ j) :
    Rests id s t ∧ (¬ Settled id s → ¬ Settled id t) := by
  have hrows := h.rows id hne
  refine ⟨⟨?_, ?_, ?_, fun _ => h.submissions id hne⟩, ?_⟩
  · intro hs; unfold Settled Processed at hs ⊢; rw [hrows]; exact hs
  · intro hs; unfold Processed at hs ⊢; rw [hrows]; exact hs
  · intro _ row m hrow hm; exact ⟨row, m, hrows.trans hrow, hm, rfl⟩
  · intro hs; unfold Settled Processed at hs ⊢; rw [hrows]; exact hs

/-! ### Jobs that do not overlap -/

/-- A report of a failed delivery comes only for a completed event. -/
def ReportsCompleted (s : OutboxState) (env : Surroundings) : Prop :=
  ∀ r, env.report = some r → r.status = .FAILED → ∀ (id : Nat) row m, s.rows[id]? = some row →
    row.smsMessage = some m → m.providerMessageId = some r.providerMessageId →
    row.processedAt.isSome

/-- What each task does to one event, where its jobs do not overlap. -/
def submissionContract (id : Nat) : Task → Contract Surroundings OutboxState Unit
  | .handleJob j =>
      if j = id then
        { admits := fun _ _ => True
          rely := fun s t => Rests id s.1 t.1 ∧ (¬ Settled id s.1 → ¬ Settled id t.1)
          guarantee := fun s t => Rests id s.1 t.1 }
      else
        { admits := fun _ _ => True
          rely := fun _ _ => True
          guarantee := fun s t => Rests id s.1 t.1 ∧ (¬ Settled id s.1 → ¬ Settled id t.1) }
  | .pollDeliveryReports =>
      { admits := fun s env => ReportsCompleted s.1 env
        rely := fun s t => Rests id s.1 t.1
        guarantee := fun s t => Rests id s.1 t.1 ∧ (¬ Settled id s.1 → ¬ Settled id t.1) }
  | _ =>
      { admits := fun _ _ => True
        rely := fun _ _ => True
        guarantee := fun s t => Rests id s.1 t.1 ∧ (¬ Settled id s.1 → ¬ Settled id t.1) }

lemma workOn_unsettled (id : Nat) :
    WorkOn (submissionContract id (.handleJob id)) id fun s => ¬ Settled id s := by
  simp only [submissionContract, if_true]
  refine ⟨fun s t hopen hrely => hrely.2 hopen, fun s t g hopen _ => ?_, ?_⟩
  · have hno : ∀ {p : Prop}, Settled id s → p := fun hs => absurd hs hopen
    exact ⟨hno, fun hp => hno (.inl hp), hno, hno⟩
  · rintro s t hopen hharm hs
    rcases hs with ⟨row', hrow', hp⟩ | ⟨row', m', hrow', hm', hsub⟩
    · obtain ⟨row, hrow, heq, _, _⟩ := hharm row' hrow'
      exact hopen (.inl ⟨row, hrow, heq ▸ hp⟩)
    · obtain ⟨row, hrow, _, _, hmessage⟩ := hharm row' hrow'
      obtain ⟨m, hm, hsub'⟩ := hmessage m' hm' hsub
      exact hopen (.inr ⟨row, m, hrow, hm, hsub'⟩)

lemma workOn_unrelated {id j : Nat} (hne : j ≠ id) :
    WorkOn (submissionContract id (.handleJob j)) j fun _ => True := by
  simp only [submissionContract, hne, if_false]
  exact ⟨fun _ _ _ _ => trivial, fun s t g _ h => h.rests hne.symm, fun _ _ _ _ => trivial⟩

/-- A job that finds the message submitted only completes the event. -/
lemma handleEvent_submitted {Γ : Type} {c : Contract Surroundings OutboxState Γ}
    {I : OutboxState × Γ → Prop} (h : Allows c Marked I) (ctx : WorkerContext) (id : Nat)
    {row : OutboxRow} {m : SmsMessage} (hm : row.smsMessage = some m) (hsub : Submitted m.status) :
    Triple c I (handleEvent ctx id row) fun _ => I := by
  have hmark : ∀ {data : Int → OutboxRow → OutboxRow}, (∀ now r, Marked r (data now r)) →
      Triple c I (updateEvent id data) fun _ => I := by
    intro data hdata
    exact h.permits.onRow fun env r => ⟨(hdata env.now r).processed, (hdata env.now r).smsMessage⟩
  refine Triple.bind (hmark fun _ _ => ⟨fun hp => hp, rfl⟩) (fun _ => ?_) fun _ _ hs => hs
  split
  · exact h.processFraudEvaluationEvent ctx id fun _ _ => ⟨fun _ => rfl, rfl⟩
  split
  · unfold processReportRefreshEvent
    split
    · exact triple_fail fun _ hs => hs
    split
    · exact triple_fail fun _ hs => hs
    · refine (h.permits.statement (fun env s => .refl h.refl s) fun _ _ => rfl).bind (fun _ => ?_)
        fun _ _ hs => hs
      exact hmark fun _ _ => ⟨fun _ => rfl, rfl⟩
  split
  · exact hmark fun _ _ => ⟨fun hp => hp, rfl⟩
  · unfold resolveSmsMessage
    rw [hm]
    unfold handleSms
    rw [Process.done_bind]
    have hs : m.status = .SENT ∨ m.status = .DELIVERED ∨ m.status = .SUPPRESSED := hsub
    simp only [hs, if_true]
    exact hmark fun _ _ => ⟨fun _ => rfl, rfl⟩

lemma handleJob_rests (ctx : WorkerContext) (id j : Nat) :
    Triple (submissionContract id (.handleJob j)) (fun _ => True) (handleJob ctx j)
      fun _ _ => True := by
  have hguar : ∀ s g, (submissionContract id (.handleJob j)).guarantee (s, g) (s, g) := by
    intro s g
    by_cases hj : j = id
    · simp only [submissionContract, hj, if_true]
      exact .refl id s
    · simp only [submissionContract, hj, if_false]
      exact ⟨.refl id s, fun h => h⟩
  refine (findEvent_triple j hguar).bind (fun found => ?_) fun _ _ _ => trivial
  cases found with
  | none => exact triple_done fun _ _ => trivial
  | some row =>
      simp only
      split
      · exact triple_done fun _ _ => trivial
      rename_i hopen
      by_cases hj : j = id
      · subst hj
        intro s hs
        have hrow := hs row rfl
        by_cases hsettled : Settled j s.1
        · obtain ⟨m, hm, hsub⟩ : ∃ m, row.smsMessage = some m ∧ Submitted m.status := by
            rcases hsettled with ⟨row', hrow', hp⟩ | ⟨row', m, hrow', hm, hsub⟩
            · obtain rfl : row = row' := Option.some.inj (hrow.symm.trans hrow')
              exact absurd (.inr hp) hopen
            · obtain rfl : row = row' := Option.some.inj (hrow.symm.trans hrow')
              exact ⟨m, hm, hsub⟩
          have hallows : Allows (submissionContract j (.handleJob j)) Marked fun _ => True := by
            simp only [submissionContract, if_true]
            exact ⟨fun _ => ⟨fun hp => hp, rfl⟩, fun _ _ _ _ => trivial,
              fun s t g _ h => h.rests_of_marked, fun _ _ _ _ _ => trivial⟩
          exact handleEvent_submitted hallows ctx j hm hsub s trivial
        · exact (workOn_unsettled j).handleEvent ctx row s hsettled
      · exact ((workOn_unrelated hj).handleEvent ctx row).consequence (fun _ _ => trivial)
          fun _ _ h => h

/-! ### The poll -/

/-- The message a poll claimed: settled, and known to the provider. -/
def Claimed (id : Nat) (providerMessageId : String) (s : OutboxState) : Prop :=
  Settled id s ∧ ∃ row m, s.rows[id]? = some row ∧ row.smsMessage = some m ∧
    m.providerMessageId = some providerMessageId

lemma Claimed.rests {id : Nat} {providerMessageId : String} {s t : OutboxState}
    (h : Claimed id providerMessageId s) (hr : Rests id s t) : Claimed id providerMessageId t := by
  obtain ⟨hs, row, m, hrow, hm, hp⟩ := h
  obtain ⟨row', m', hrow', hm', heq⟩ := hr.providerMessageId hs row m hrow hm
  exact ⟨hr.settled hs, row', m', hrow', hm', heq.trans hp⟩

lemma allows_settling (id : Nat) :
    Allows (submissionContract id .pollDeliveryReports) Settling fun _ => True :=
  ⟨Settling.refl, fun _ _ _ _ => trivial, fun _ _ _ _ h => h.rests, fun _ _ _ _ _ => trivial⟩

lemma EachRow.set_message {s : OutboxState} {id : Nat} {row : OutboxRow} {m m' : SmsMessage}
    (hrow : s.rows[id]? = some row) (hm : row.smsMessage = some m) (hsent : m.status = .SENT)
    (hsub : Submitted m'.status) (heq : m'.providerMessageId = m.providerMessageId) :
    EachRow Settling s { s with rows := s.rows.set id { row with smsMessage := some m' } } :=
  .set Settling.refl hrow ⟨fun hp => hp, fun h h' => by simp [h] at h',
    .inr ⟨m, m', hm, rfl, hsent, hsub, heq⟩⟩

/-- An update of a message that a poll asks about, which leaves it submitted. -/
lemma triple_updateSent (id j : Nat) {condition : SmsMessage → Bool}
    {data : Int → SmsMessage → SmsMessage} {providerMessageId : String}
    (hcondition : ∀ m, condition m → m.status = .SENT ∧
      m.providerMessageId = some providerMessageId)
    (hdata : ∀ now m, m.status = .SENT → Submitted (data now m).status ∧
      (data now m).providerMessageId = m.providerMessageId) :
    Triple (submissionContract id .pollDeliveryReports) (fun _ => True)
      (updateManyMessages j condition data) fun r s =>
        r = .ok true → j = id → Claimed id providerMessageId s.1 := by
  have h := allows_settling id
  apply triple_attempt h.stable
  intro s env _ _
  have hsame := h.guarantee s.1 s.1 s.2 trivial (.refl h.refl s.1)
  cases env.failure with
  | some e => exact ⟨s.2, hsame, fun hr => by cases hr⟩
  | none =>
  cases hrow : s.1.rows[j]? with
  | none => simp only [hrow]; exact ⟨s.2, hsame, fun hr => by cases hr⟩
  | some row =>
  cases hm : row.smsMessage with
  | none =>
      have heq := h.guarantee _ _ s.2 trivial (EachRow.set h.refl hrow (h.refl row))
      simp only [hrow, hm]
      exact ⟨s.2, heq, fun hr => by cases hr⟩
  | some m =>
      simp only [hrow, hm]
      by_cases hc : condition m
      · obtain ⟨hsent, hprovider⟩ := hcondition m hc
        obtain ⟨hsub, heq⟩ := hdata env.now m hsent
        simp only [hc, if_true]
        refine ⟨s.2, h.guarantee _ _ s.2 trivial (.set_message hrow hm hsent hsub heq), ?_⟩
        rintro _ rfl
        have hnew : (s.1.rows.set j { row with smsMessage := some (data env.now m) })[j]? =
            some { row with smsMessage := some (data env.now m) } :=
          List.getElem?_set_self (Table.lt_of_getElem? hrow)
        exact ⟨.inr ⟨_, _, hnew, rfl, hsub⟩, _, _, hnew, rfl, heq.trans hprovider⟩
      · have hset : EachRow Settling s.1
            { s.1 with rows := s.1.rows.set j { row with smsMessage := some m } } :=
          .set h.refl hrow ⟨fun hp => hp, fun h h' => by simp [h] at h', .inl hm.symm⟩
        simp only [hc, Bool.false_eq_true, if_false]
        exact ⟨s.2, h.guarantee _ _ s.2 trivial hset, fun hr => by cases hr⟩

/-- A failed delivery is recorded once the event is processed. -/
lemma triple_updateFailed (id j : Nat) {condition : SmsMessage → Bool}
    {data : Int → SmsMessage → SmsMessage}
    (hdata : ∀ now m, (data now m).providerMessageId = m.providerMessageId) :
    Triple (submissionContract id .pollDeliveryReports)
      (fun s => j = id → Processed id s.1) (updateManyMessages j condition data)
      fun _ _ => True := by
  have h := allows_settling id
  have hstable : (submissionContract id .pollDeliveryReports).Stable
      fun s => j = id → Processed id s.1 := by
    intro s t hs hrely hj
    exact Rests.processed hrely (hs hj)
  apply triple_attempt hstable
  intro s env hs _
  have hsame := h.guarantee s.1 s.1 s.2 trivial (.refl h.refl s.1)
  cases env.failure with
  | some e => exact ⟨s.2, hsame, trivial⟩
  | none =>
  cases hrow : s.1.rows[j]? with
  | none => simp only [hrow]; exact ⟨s.2, hsame, trivial⟩
  | some row =>
      simp only [hrow]
      refine ⟨s.2, ?_, trivial⟩
      by_cases hj : j = id
      · subst hj
        obtain ⟨row₁, hrow₁, hp⟩ := hs rfl
        obtain rfl : row = row₁ := Option.some.inj (hrow.symm.trans hrow₁)
        have hsettled : Settled j s.1 := .inl ⟨row, hrow, hp⟩
        have hnew : ∀ row', (s.1.rows.set j row')[j]? = some row' :=
          fun row' => List.getElem?_set_self (Table.lt_of_getElem? hrow)
        cases hm : row.smsMessage with
        | none =>
            have hset := EachRow.set (R := Settling) Settling.refl hrow (.refl row)
            exact h.guarantee _ _ s.2 trivial hset
        | some m =>
            have hprocessed : Processed j { s.1 with rows := s.1.rows.set j { row with
                smsMessage := some (if condition m then
                  ((.ok true : Except JobError Bool), data env.now m) else (.ok false, m)).2 } } :=
              ⟨_, hnew _, hp⟩
            refine ⟨⟨fun _ => .inl hprocessed, fun _ => hprocessed, fun _ r n hr hn => ?_,
              fun _ => rfl⟩, fun hopen => absurd hsettled hopen⟩
            obtain rfl : row = r := Option.some.inj (hrow.symm.trans hr)
            obtain rfl : m = n := Option.some.inj (hm.symm.trans hn)
            refine ⟨_, _, hnew _, rfl, ?_⟩
            split
            · exact hdata env.now m
            · rfl
      · exact (Local.set j s.1 _).rests (Ne.symm hj)

lemma eligible_and {providerMessageId : String} {p : SmsMessage → Prop} [DecidablePred p]
    (m : SmsMessage) (h : decide (eligible providerMessageId m ∧ p m) = true) :
    m.status = .SENT ∧ m.providerMessageId = some providerMessageId :=
  eligible_sent (of_decide_eq_true h).1

lemma pollMessage_rests (ctx : WorkerContext) (id : Nat) (r : Nat × SmsMessage) :
    Triple (submissionContract id .pollDeliveryReports) (fun _ => True) (pollMessage ctx r)
      fun _ _ => True := by
  have h := allows_settling id
  have hdone : ∀ {P : OutboxState × Unit → Prop}, Triple
      (submissionContract id .pollDeliveryReports) P (Process.done () : Job Unit)
      fun _ _ => True := triple_done fun _ _ => trivial
  unfold pollMessage
  cases hid : r.2.providerMessageId with
  | none => exact hdone
  | some providerMessageId =>
  refine h.permits.clock.bind (fun readAt => ?_) fun _ _ _ => trivial
  refine Triple.bind (triple_updateSent id r.1 eligible_and fun now m hsent => ⟨.inl hsent, rfl⟩)
    (fun claimed => ?_) fun _ _ _ => trivial
  split
  · exact hdone
  rename_i hclaimed
  refine Triple.bind (Q := fun report s => ∀ rep, report = .ok (some rep) → rep.status = .FAILED →
    rep.providerMessageId = providerMessageId → r.1 = id → Processed id s.1) ?_
    (fun report => ?_) fun _ _ _ => trivial
  · refine Triple.consequence (P := fun s => r.1 = id → Claimed id providerMessageId s.1) ?_
      (fun s hs => hs (by simpa using hclaimed)) fun _ _ hq => hq
    have hstable : (submissionContract id .pollDeliveryReports).Stable
        fun s => r.1 = id → Claimed id providerMessageId s.1 := by
      intro s t hs hrely hj
      exact (hs hj).rests hrely
    apply triple_statement hstable
    intro s env hs hadm
    refine ⟨s.2, h.guarantee _ _ _ trivial (.refl h.refl s.1), fun rep hrep hfailed heq hj => ?_⟩
    obtain ⟨_, row, m, hrow, hm, hp⟩ := hs hj
    have hreport : env.report = some rep := Except.ok.inj hrep
    exact ⟨row, hrow, hadm rep hreport hfailed id row m hrow hm (by rw [hp, heq])⟩
  cases report with
  | none => exact hdone
  | some report =>
  simp only
  split
  · exact hdone
  rename_i hsame
  unfold recordReport
  split
  · refine Triple.bind (Triple.consequence (triple_updateSent id r.1 eligible_and ?_)
      (fun _ _ => trivial) fun _ _ hq => hq) (fun _ => hdone) fun _ _ _ => trivial
    exact fun _ _ _ => ⟨.inr (.inl rfl), rfl⟩
  split
  · rename_i hfailed
    refine Triple.bind (Triple.consequence (triple_updateFailed id r.1 ?_) (fun s hs hj => ?_)
      fun _ _ hq => hq) (fun _ => hdone) fun _ _ _ => trivial
    · exact fun _ _ => rfl
    · exact hs report rfl hfailed (by simpa using hsame) hj
  · exact hdone

lemma pollDeliveryReports_rests (ctx : WorkerContext) (id : Nat) :
    Triple (submissionContract id .pollDeliveryReports) (fun _ => True) (pollDeliveryReports ctx)
      fun _ _ => True := by
  have h := allows_settling id
  unfold pollDeliveryReports
  split
  · exact triple_done fun _ _ => trivial
  refine h.permits.clock.bind (fun now => ?_) fun _ _ _ => trivial
  refine (h.permits.statement (fun env s => .refl h.refl s) fun _ _ => rfl).bind
    (fun messages => ?_) fun _ _ _ => trivial
  exact Triple.each fun r _ => pollMessage_rests ctx id r

lemma submissions_fit (ctx : WorkerContext) (id : Nat) :
    Pool.Fits (program ctx) (fun _ => submissionContract id) OneJobAnEvent ReportsCompleted
      fun _ => True where
  closed n k := by
    have hrests : Contract.Closed (submissionContract id .pollDeliveryReports) :=
      ⟨fun s => .refl id s.1, fun _ _ _ h h' => Rests.trans h h'⟩
    cases k with
    | handleJob j =>
        by_cases hj : j = id
        · simp only [submissionContract, hj, if_true]
          refine ⟨fun s => ⟨.refl id s.1, fun h => h⟩, fun s t u h h' => ⟨h.1.trans h'.1, ?_⟩⟩
          exact fun hopen => h'.2 (h.2 hopen)
        · simp only [submissionContract, hj, if_false]
          exact ⟨fun _ => trivial, fun _ _ _ _ _ => trivial⟩
    | pollDeliveryReports => exact hrests
    | _ => exact ⟨fun _ => trivial, fun _ _ _ _ _ => trivial⟩
  compatible n m k l s t _ hC _ hguar := by
    have hrests : Rests id s.1 t.1 := by
      cases k with
      | handleJob j =>
          by_cases hj : j = id
          · simpa only [submissionContract, hj, if_true] using hguar
          · simp only [submissionContract, hj, if_false] at hguar
            exact hguar.1
      | _ => exact hguar.1
    cases l with
    | handleJob j =>
        by_cases hj : j = id
        · subst hj
          simp only [submissionContract, if_true]
          cases k with
          | handleJob j' =>
              -- two jobs for one event are never in flight together
              have hne : j' ≠ j := fun heq => hC j' rfl (by rw [heq])
              simpa only [submissionContract, hne, if_false] using hguar
          | _ => exact hguar
        · simp only [submissionContract, hj, if_false]
    | pollDeliveryReports => exact hrests
    | _ => trivial
  good _ _ _ _ _ _ := trivial
  admits n k s env _ hadm := by
    cases k with
    | handleJob j =>
        by_cases hj : j = id <;> simp only [submissionContract, hj, if_true, if_false]
    | pollDeliveryReports => exact hadm
    | _ => trivial
  program n k s _ := by
    cases k with
    | handleJob j => exact handleJob_rests ctx id j s trivial
    | pollDeliveryReports => exact pollDeliveryReports_rests ctx id s trivial
    | insertOutboxEvent new =>
        refine insertOutboxEvent_rows new (R := Settling) ⟨Settling.refl, fun _ _ _ _ => trivial,
          ?_, fun _ _ _ _ _ _ => trivial⟩ s trivial
        exact fun s t g _ h _ => h.rests
    | recoverAndPublishOnce =>
        refine recoverAndPublishOnce_rows ctx ⟨Recovered.refl, fun _ _ _ _ => trivial, ?_,
          fun _ _ _ _ _ _ => trivial⟩ s trivial
        intro s t g _ h _
        exact EachRow.rests ⟨fun j row hrow => by
          obtain ⟨row', hrow', hr⟩ := h.rows j row hrow
          exact ⟨row', hrow', hr.settling⟩, h.fresh, h.submissions⟩

/-! ### Jobs that reserve their submissions -/

/-- Nothing is left to submit, and no job has the reservation. -/
def AtRest (id : Nat) (s : OutboxState × Reservation) : Prop :=
  s.2 = none ∧ ∃ row m, s.1.rows[id]? = some row ∧ row.smsMessage = some m ∧
    (Submitted m.status ∨ m.deadLetteredAt.isSome)

/-- A message at rest stays so, and is not submitted. -/
def Unsubmitted (id : Nat) (s t : OutboxState × Reservation) : Prop :=
  AtRest id s → AtRest id t ∧ t.1.submissions.count id = s.1.submissions.count id

lemma Unsubmitted.refl (id : Nat) (s : OutboxState × Reservation) : Unsubmitted id s s :=
  fun h => ⟨h, rfl⟩

lemma Unsubmitted.trans {id : Nat} {s t u : OutboxState × Reservation} (h : Unsubmitted id s t)
    (h' : Unsubmitted id t u) : Unsubmitted id s u :=
  fun hs => ⟨(h' (h hs).1).1, (h' (h hs).1).2.trans (h hs).2⟩

lemma Unsubmitted.of_reserved {id : Nat} {s : OutboxState × Reservation} (hs : s.2 ≠ none)
    (t : OutboxState × Reservation) : Unsubmitted id s t :=
  fun hrest => absurd hrest.1 hs

/-- The task with number `n`, as far as the message at rest goes. -/
def reservationContract (id n : Nat) : Contract Surroundings OutboxState Reservation where
  admits _ _ := True
  rely s t := (Holds id s → Holds id t) ∧ ∀ sent, s.2 = some (n, sent) ↔ t.2 = some (n, sent)
  guarantee s t := Unsubmitted id s t ∧ (Holds id s → Holds id t) ∧
    ∀ m, m ≠ n → ∀ sent, s.2 = some (m, sent) ↔ t.2 = some (m, sent)

lemma EachRow.unsubmitted {id : Nat} {s t : OutboxState} {g : Reservation}
    (h : EachRow Unreserved s t) : Unsubmitted id (s, g) (t, g) := by
  rintro ⟨hg, row, m, hrow, hm, hs⟩
  obtain ⟨row', hrow', hrel⟩ := h.rows id row hrow
  refine ⟨⟨hg, ?_⟩, by rw [h.submissions]⟩
  rcases hrel with heq | hnone | ⟨_, m', _, hm', _, hdead, _⟩
  · exact ⟨row', m, hrow', heq.trans hm, hs⟩
  · rw [hnone] at hm; cases hm
  · exact ⟨row', m', hrow', hm', .inr hdead⟩

lemma EachRow.guarantee {id n : Nat} {s t : OutboxState} {g : Reservation}
    (h : EachRow Unreserved s t) : (reservationContract id n).guarantee (s, g) (t, g) :=
  ⟨h.unsubmitted, h.holds, fun _ _ _ => Iff.rfl⟩

lemma AtProvider.guarantee {id n : Nat} {sent : Bool} {s t : OutboxState × Reservation}
    (hs : AtProvider id n sent s) (hholds : Holds id t)
    (hown : t.2 = none ∨ ∃ sent', t.2 = some (n, sent')) :
    (reservationContract id n).guarantee s t := by
  refine ⟨.of_reserved (by rw [hs.2]; simp) t, fun _ => hholds, fun m hm sent₁ => ?_⟩
  have hother : ∀ sent', some (n, sent') ≠ some (m, sent₁) :=
    fun sent' h => hm (Prod.mk.inj (Option.some.inj h)).1.symm
  rw [hs.2]
  rcases hown with hnone | ⟨sent', hsome⟩
  · rw [hnone]
    exact ⟨fun h => absurd h (hother sent), fun h => by cases h⟩
  · rw [hsome]
    exact ⟨fun h => absurd h (hother sent), fun h => absurd h (hother sent')⟩

lemma reserving_rests (id n : Nat) : Reserving (reservationContract id n) id n where
  allows :=
    { refl := fun _ => .inl rfl
      stable := fun _ _ hs hrely => hrely.1 hs
      guarantee := fun _ _ _ _ h => h.guarantee
      keeps := fun _ _ _ hs h => h.holds hs }
  stable sent _ _ hs hrely := ⟨hrely.1 hs.1, (hrely.2 sent).1 hs.2⟩
  claim s row m now hs hnobody hrow hm hopen halive hfree := by
    have hrow' := withMessage_row hrow { m with
      failureCategory := some submissionInProgress, lastAttemptAt := some now }
    refine ⟨?_, fun _ r _ => ⟨_, _, hrow', rfl, hopen, .inl rfl⟩, fun k hk sent => ?_⟩
    · -- a message at rest is never claimed
      rintro ⟨_, row₁, m₁, hrow₁, hm₁, hrest⟩
      obtain rfl : row = row₁ := Option.some.inj (hrow.symm.trans hrow₁)
      obtain rfl : m = m₁ := Option.some.inj (hm.symm.trans hm₁)
      rcases hrest with hsub | hdead
      · exact absurd hsub hopen
      · simp [halive] at hdead
    · rw [hnobody]
      constructor
      · intro h; cases h
      · intro h; exact absurd (Prod.mk.inj (Option.some.inj h)).1.symm hk
  submit s hs := hs.guarantee (fun _ _ => hs.1 _ hs.2) (.inr ⟨true, rfl⟩)
  record s row m m' hs _ _ _ _ := hs.guarantee (fun _ h => by cases h) (.inl rfl)

lemma workOn_elsewhere {id j n : Nat} (hne : j ≠ id) :
    WorkOn (reservationContract id n) j fun _ => True := by
  refine ⟨fun _ _ _ _ => trivial, fun s t g _ h => ?_, fun _ _ _ _ => trivial⟩
  have hrows := h.rows id hne.symm
  refine ⟨fun hrest => ⟨?_, h.submissions id hne.symm⟩, fun hholds => ?_, fun _ _ _ => Iff.rfl⟩
  · unfold AtRest at hrest ⊢; simp only [hrows]; exact hrest
  · unfold Holds at hholds ⊢; simp only [hrows]; exact hholds

lemma reservations_fit {ctx : WorkerContext} (id : Nat)
    (hreserve : ctx.smsProvider.requiresLocalSubmissionReservation)
    (hreports : ¬ ctx.smsProvider.reportsDelivery) :
    Pool.Fits (program ctx) (fun n _ => reservationContract id n) (fun _ _ => True)
      (fun _ _ => True) (Holds id) where
  closed n _ := ⟨fun _ => ⟨fun h => h, fun _ => Iff.rfl⟩, fun _ _ _ h h' =>
    ⟨fun hs => h'.1 (h.1 hs), fun sent => (h.2 sent).trans (h'.2 sent)⟩⟩
  compatible n m _ _ s t hne _ _ hguar := ⟨hguar.2.1, hguar.2.2 m hne.symm⟩
  good _ _ _ _ hs hguar := hguar.2.1 hs
  admits _ _ _ _ _ _ := trivial
  program n k s hs := by
    have hquiet : ∀ {R : OutboxRow → OutboxRow → Prop}, (∀ row, R row row) →
        (∀ row row', R row row' → Unreserved row row') →
        Allows (reservationContract id n) R fun _ => True := by
      intro R hR hsub
      exact ⟨hR, fun _ _ _ _ => trivial, fun _ _ _ _ h => EachRow.guarantee (h.mono hsub),
        fun _ _ _ _ _ => trivial⟩
    cases k with
    | handleJob j =>
        by_cases hj : j = id
        · subst hj
          exact ((reserving_rests j n).handleJob hreserve s hs).weaken fun _ _ _ => trivial
        · exact (workOn_elsewhere hj).handleJob ctx s trivial
    | insertOutboxEvent new =>
        exact insertOutboxEvent_rows new (hquiet (R := (· = ·)) (fun _ => rfl)
          fun _ _ heq => .inl (by rw [heq])).permits s trivial
    | recoverAndPublishOnce =>
        exact recoverAndPublishOnce_rows ctx (hquiet Recovered.refl
          fun _ _ hr => .inl hr.smsMessage).permits s trivial
    | pollDeliveryReports =>
        change Meets _ _ (pollDeliveryReports ctx) s
        unfold pollDeliveryReports
        rw [if_pos hreports]
        trivial

/-! ### Runs -/

/-- In runs under a condition, a message the provider accepted is not submitted again. -/
def NeverResubmits (ctx : WorkerContext) (P : Workers → PoolEvent Task Surroundings → Prop) :
    Prop :=
  ∀ (w w' : Workers) (id : Nat),
    Pool.StepsUnder (program ctx) P (Pool.initial noEvents) w → Accepted id w.state →
    Pool.StepsUnder (program ctx) P w w' →
    w'.state.submissions.count id = w.state.submissions.count id

/-- Jobs of one event do not overlap, and a failed delivery is reported of a completed event
only; or else the provider reserves submissions and reports nothing. -/
structure Careful (ctx : WorkerContext) (w : Workers) (event : PoolEvent Task Surroundings) :
    Prop where
  overlap : (ctx.smsProvider.requiresLocalSubmissionReservation ∧
    ¬ ctx.smsProvider.reportsDelivery) ∨ NoOverlap w event
  reports : ∀ n env, event = .advance n env → ReportsCompleted w.state env

/-- **Accepted messages are not submitted again**, in careful runs. -/
theorem accepted_sms_never_resubmitted (ctx : WorkerContext) :
    NeverResubmits ctx (Careful ctx) := by
  intro w w' id hreach hacc hrun
  by_cases hmode : ctx.smsProvider.requiresLocalSubmissionReservation ∧
      ¬ ctx.smsProvider.reportsDelivery
  · have hfits := reservations_fit id hmode.1 hmode.2
    have hdisc : ∀ u e, Careful ctx u e → Pool.Disciplined (fun _ _ => True)
        (fun _ _ => True) u e :=
      fun _ _ _ => ⟨fun _ _ _ _ _ => ⟨trivial, trivial⟩, fun _ _ _ => trivial⟩
    have hguar : ∀ (n : Nat) (k : Task) s t, Holds id s → (reservationContract id n).guarantee s t →
        Unsubmitted id s t := fun _ _ _ _ _ h => h.1
    obtain ⟨g, hunder, hapart, hholds, _⟩ :=
      Pool.run_under hfits hdisc (Unsubmitted.refl id) (fun _ _ _ h h' => h.trans h') hguar
        (Pool.initial_under _) (Pool.initial_apart _) (g := none) (fun _ h => by cases h) hreach
    obtain ⟨g', _, _, _, hrest⟩ :=
      Pool.run_under hfits hdisc (Unsubmitted.refl id) (fun _ _ _ h h' => h.trans h') hguar hunder
        hapart hholds hrun
    obtain ⟨row, m, hrow, hm, hs⟩ := hacc
    have hsub : Submitted m.status := hs.elim .inl fun h => .inr (.inl h)
    have hnobody : g = none := by
      cases hg : g with
      | none => rfl
      | some n =>
          obtain ⟨row₁, m₁, hrow₁, hm₁, hopen, _⟩ := hholds _ hg
          obtain rfl : row = row₁ := Option.some.inj (hrow.symm.trans hrow₁)
          obtain rfl : m = m₁ := Option.some.inj (hm.symm.trans hm₁)
          exact absurd hsub hopen
    exact (hrest ⟨hnobody, row, m, hrow, hm, .inl hsub⟩).2
  · have hfits := submissions_fit ctx id
    have hdisc : ∀ u e, Careful ctx u e → Pool.Disciplined OneJobAnEvent ReportsCompleted u e := by
      intro u e h
      have hno := h.overlap.resolve_left hmode
      exact ⟨hno.disciplined.start, h.reports⟩
    have hguar : ∀ (n : Nat) k s t, True → (submissionContract id k).guarantee s t →
        Rests id s.1 t.1 := by
      intro n k s t _ h
      cases k with
      | handleJob j =>
          by_cases hj : j = id
          · simpa only [submissionContract, hj, if_true] using h
          · simp only [submissionContract, hj, if_false] at h
            exact h.1
      | _ => exact h.1
    have htrans : ∀ s t u : OutboxState × Unit, Rests id s.1 t.1 → Rests id t.1 u.1 →
        Rests id s.1 u.1 := fun _ _ _ h h' => h.trans h'
    obtain ⟨g, hunder, hapart, _, _⟩ :=
      Pool.run_under hfits hdisc (fun s => Rests.refl id s.1) htrans hguar (Pool.initial_under _)
        (Pool.initial_apart _) (g := ()) trivial hreach
    obtain ⟨g', _, _, _, hrests⟩ :=
      Pool.run_under hfits hdisc (fun s => Rests.refl id s.1) htrans hguar hunder hapart
        trivial hrun
    exact hrests.submissions hacc.settled

namespace Shop

/-- The provider reports that the message could not be delivered. -/
def undelivered (now : Int) : Surroundings :=
  { at_ now with report := some ⟨.FAILED, "sms-1", none⟩ }

/-- The message is accepted. The report that it was not delivered comes before the recovery
cycle completes the event; a cycle claims the event again, and a job submits the message. -/
def reportedEarly : List (PoolEvent Task Surroundings) × List (PoolEvent Task Surroundings) :=
  ([.start (.insertOutboxEvent earnConfirmed), .advance 0 (at_ 0),
    .start (.handleJob 0), .advance 1 (at_ 1), .advance 1 (at_ 1), .advance 1 (at_ 1),
    .advance 1 (at_ 1), .advance 1 (answered 2 .SENT false), .advance 1 (at_ 2)],
   [.start .pollDeliveryReports, .advance 2 (at_ 3), .advance 2 (at_ 3), .advance 2 (at_ 3),
    .advance 2 (at_ 3), .advance 2 (undelivered 3), .advance 2 (at_ 3),
    .start .recoverAndPublishOnce, .advance 3 (at_ 70000), .advance 3 (at_ 70000),
    .advance 3 (at_ 70000), .advance 3 (at_ 70000), .advance 3 (at_ 70000), .advance 3 (at_ 70000),
    .start (.handleJob 0), .advance 4 (at_ 70001), .advance 4 (at_ 70001), .advance 4 (at_ 70001),
    .advance 4 (at_ 70001)])

/-- The same report, after a recovery cycle completed the event. -/
def reportedLate : List (PoolEvent Task Surroundings) × List (PoolEvent Task Surroundings) :=
  (reportedEarly.1,
   [.start .recoverAndPublishOnce, .advance 2 (at_ 3), .advance 2 (at_ 3), .advance 2 (at_ 3),
    .advance 2 (at_ 3),
    .start .pollDeliveryReports, .advance 3 (at_ 4), .advance 3 (at_ 4), .advance 3 (at_ 4),
    .advance 3 (at_ 4), .advance 3 (undelivered 4), .advance 3 (at_ 4),
    .start (.handleJob 0), .advance 4 (at_ 70001)])

/-- The statuses of the messages, and what was submitted. -/
def submitted (w : Workers) : List (Option SmsMessageStatus) × List Nat :=
  (w.state.rows.map fun r => r.smsMessage.map fun m => m.status, w.state.submissions)

/-- A failed delivery is reported of completed events. -/
def reportsCompleted (w : Workers) : PoolEvent Task Surroundings → Bool
  | .advance _ env =>
      env.report.all fun r => r.status ≠ .FAILED ∨ w.state.rows.all fun row =>
        row.smsMessage.all fun m =>
          m.providerMessageId ≠ some r.providerMessageId ∨ row.processedAt.isSome
  | _ => true

end Shop

lemma Careful.of_check {ctx : WorkerContext} {w : Workers} {event : PoolEvent Task Surroundings}
    (h : Shop.noOverlap w event && Shop.reportsCompleted w event) : Careful ctx w event := by
  obtain ⟨hno, hrep⟩ := Bool.and_eq_true_iff.1 h
  refine ⟨.inr (.of_check hno), ?_⟩
  rintro n env rfl r hr hfailed id row m hrow hm hp
  simp only [Shop.reportsCompleted, hr, Option.all_some, decide_eq_true_eq] at hrep
  have hall := List.all_eq_true.1 (hrep.resolve_left (not_not_intro hfailed)) row
    (List.mem_of_getElem? hrow)
  simpa [hm, hp] using hall

lemma Accepted.of_submitted {w : Workers} {l : List Nat}
    (h : Shop.submitted w = ([some .SENT], l)) :
    Accepted 0 w.state ∧ w.state.submissions = l := by
  obtain ⟨hrows, hsub⟩ := Prod.mk.inj h
  have hzero := congrArg (fun l => l[0]?) hrows
  refine ⟨?_, hsub⟩
  obtain ⟨row, hrow, m, hm, hs⟩ : ∃ row, w.state.rows[0]? = some row ∧
      ∃ m, row.smsMessage = some m ∧ m.status = .SENT := by
    simpa [Option.map_eq_some_iff] using hzero
  exact ⟨row, m, hrow, hm, .inl hs⟩

/-- A careful run with a failed delivery: one submission. -/
theorem accepted_sms_never_resubmitted_shop : ∃ w w' : Workers,
    Pool.StepsUnder (program Shop.worker) (Careful Shop.worker) (Pool.initial noEvents) w ∧
    Pool.StepsUnder (program Shop.worker) (Careful Shop.worker) w w' ∧
    Accepted 0 w.state ∧ Shop.submitted w' = ([some .FAILED], [0]) ∧
    w'.state.submissions.count 0 = w.state.submissions.count 0 := by
  have hfirst : (Pool.runChecked (program Shop.worker)
      (fun w e => Shop.noOverlap w e && Shop.reportsCompleted w e) (Pool.initial noEvents)
      Shop.reportedLate.1).map Shop.submitted = some ([some .SENT], [0]) := by decide +kernel
  have hthen : (Pool.runChecked (program Shop.worker)
      (fun w e => Shop.noOverlap w e && Shop.reportsCompleted w e) (Pool.initial noEvents)
      (Shop.reportedLate.1 ++ Shop.reportedLate.2)).map Shop.submitted =
        some ([some .FAILED], [0]) := by decide +kernel
  obtain ⟨w, w', hreach, hrun, hsent, hfailed⟩ :=
    Pool.StepsUnder.of_runChecked_map (P := Careful Shop.worker)
      (fun _ _ h => Careful.of_check h) hfirst hthen
  obtain ⟨hacc, _⟩ := Accepted.of_submitted hsent
  exact ⟨w, w', hreach, hrun, hacc, hfailed,
    accepted_sms_never_resubmitted Shop.worker w w' 0 hreach hacc hrun⟩

/-- **An early report makes the worker submit an accepted message again.** -/
theorem accepted_sms_resubmitted : ¬ NeverResubmits Shop.worker fun _ _ => True := by
  intro h
  have hfirst : (Pool.runChecked (program Shop.worker) (fun _ _ => true) (Pool.initial noEvents)
      Shop.reportedEarly.1).map Shop.submitted = some ([some .SENT], [0]) := by decide +kernel
  have hthen : (Pool.runChecked (program Shop.worker) (fun _ _ => true) (Pool.initial noEvents)
      (Shop.reportedEarly.1 ++ Shop.reportedEarly.2)).map Shop.submitted =
        some ([some .FAILED], [0, 0]) := by decide +kernel
  obtain ⟨w, w', hreach, hrun, hsent, hagain⟩ :=
    Pool.StepsUnder.of_runChecked_map (P := fun _ _ => True) (fun _ _ _ => trivial) hfirst hthen
  obtain ⟨hacc, hsub⟩ := Accepted.of_submitted hsent
  have hcount := h w w' 0 hreach hacc hrun
  have hsub' : w'.state.submissions = [0, 0] := congrArg Prod.snd hagain
  rw [hsub, hsub'] at hcount
  exact absurd hcount (by decide)

end OutboxWorkerRuntime

end ShopcityLoyalty
