import ShopcityLoyalty.SmsStatuses

/-!
The messages that the delivery report poll asks about, over runs of any number of workers.

The poll asks about messages that were sent, while they have no time of a delivery or of a
failure. A submission that succeeds leaves the time of an earlier failure on its message, and
the poll passes such a message over from then on.
-/

namespace ShopcityLoyalty

open Process

namespace OutboxWorkerRuntime

/-- The messages that `pollDeliveryReports` selects, before it sorts them and takes a batch. -/
def selection (now : Int) (s : OutboxState) : List (Nat × SmsMessage) :=
  s.rows.zipIdx.filterMap fun (row, id) =>
    row.smsMessage.bind fun message =>
      if message.providerMessageId.isSome ∧ awaitsReport message ∧
          message.nextDeliveryReportPollAt.all (· ≤ now) then some (id, message)
      else none

/-- Every message that was sent, is known to the provider and has no dead-letter mark is
selected once its next poll is due. -/
def StaysPollable (s : OutboxState) : Prop :=
  ∀ id m, MessageAt s id m → m.status = .SENT → m.providerMessageId.isSome →
    m.deadLetteredAt = none → ∀ now, m.nextDeliveryReportPollAt.all (· ≤ now) →
      (id, m) ∈ selection now s

/-- A message is accepted only while it has neither the time of a failure nor that of a
delivery. -/
def AcceptsUnfailed (w : Workers) (event : PoolEvent Task Surroundings) : Prop :=
  ∀ n env id result now m, event = .advance n env → w.StandsAt n (recordEffect id result now) →
    env.failure = none → result.status = .SENT → result.providerMessageId.isSome →
    MessageAt w.state id m → m.failedAt = none ∧ m.deliveredAt = none

/-! ### The invariant -/

/-- Nothing says that a message that was sent is final. -/
def Awaiting (st : SmsStamps) : Prop :=
  st.status = .SENT → st.providerMessageId.isSome → st.deadLetteredAt = none →
    st.deliveredAt = none ∧ st.failedAt = none

variable {s : OutboxState} {now : Int} {id : Nat} {m : SmsMessage}

lemma mem_selection : (id, m) ∈ selection now s ↔ MessageAt s id m ∧
    m.providerMessageId.isSome ∧ awaitsReport m ∧ m.nextDeliveryReportPollAt.all (· ≤ now) := by
  unfold selection
  rw [List.mem_filterMap]
  constructor
  · rintro ⟨⟨row, j⟩, hmem, h⟩
    obtain ⟨m', hm', h⟩ := Option.bind_eq_some_iff.1 h
    by_cases hc : m'.providerMessageId.isSome ∧ awaitsReport m' ∧
        m'.nextDeliveryReportPollAt.all (· ≤ now)
    · rw [if_pos hc] at h
      obtain ⟨rfl, rfl⟩ := Prod.mk.inj (Option.some.inj h)
      exact ⟨⟨row, List.mem_zipIdx_iff_getElem?.1 hmem, hm'⟩, hc⟩
    · rw [if_neg hc] at h
      cases h
  · rintro ⟨⟨row, hrow, hm⟩, hc⟩
    refine ⟨(row, id), List.mem_zipIdx_iff_getElem?.2 hrow, ?_⟩
    rw [Option.bind_eq_some_iff]
    exact ⟨m, hm, if_pos hc⟩

lemma staysPollable_iff :
    StaysPollable s ↔ ∀ id st, stampsAt s id = some st → Awaiting st := by
  constructor
  · rintro h id st hst hsent hprovider hdead
    obtain ⟨m, hm, rfl⟩ := stampsAt_some.1 hst
    have hdue : m.nextDeliveryReportPollAt.all (· ≤ m.nextDeliveryReportPollAt.getD 0) := by
      cases m.nextDeliveryReportPollAt with
      | none => rfl
      | some at_ => simp
    have hselected := h id m hm hsent hprovider hdead _ hdue
    obtain ⟨-, -, hawaits, -⟩ := mem_selection.1 hselected
    unfold awaitsReport at hawaits
    simp only [Option.isNone_iff_eq_none, decide_eq_true_eq] at hawaits
    exact ⟨hawaits.2.1, hawaits.2.2.1⟩
  · intro h id m hm hsent hprovider hdead now hdue
    obtain ⟨hdelivered, hfailed⟩ := h id m.stamps (stampsAt_some.2 ⟨m, hm, rfl⟩) hsent hprovider
      hdead
    have hdelivered : m.deliveredAt = none := hdelivered
    have hfailed : m.failedAt = none := hfailed
    refine mem_selection.2 ⟨hm, hprovider, ?_, hdue⟩
    simp [awaitsReport, hsent, hdelivered, hfailed, hdead]

/-- Nothing but an accepted submission makes a message wait for a report. -/
lemma awaiting_of_effect {e : OutboxEffect} (he : SmsEffect e) {env : Surroundings}
    (hs : ∀ id st, stampsAt s id = some st → Awaiting st)
    (haccepts : ∀ id result now m, e = recordEffect id result now → env.failure = none →
      result.status = .SENT → result.providerMessageId.isSome → MessageAt s id m →
      m.failedAt = none ∧ m.deliveredAt = none) :
    ∀ id st, stampsAt (e env s) id = some st → Awaiting st := by
  intro j st hst
  -- Every status but `SENT` asks nothing.
  have hother : ∀ {st : SmsStamps}, st.status ≠ .SENT → Awaiting st :=
    fun hne hsent => absurd hsent hne
  cases he with
  | quiet same =>
      rw [same] at hst
      exact hs j st hst
  | inserted new =>
      rcases of_stampsAt_insertEffect hst with hst | ⟨m, hm, rfl⟩
      · exact hs j st hst
      · have hqueued := new.queued m hm
        apply hother
        simp [SmsMessage.stamps, hqueued]
  | created id queuedAt hcreated =>
      rcases hcreated env s j with hsame | ⟨-, hnew⟩
      · rw [hsame] at hst
        exact hs j st hst
      · rw [hnew] at hst
        obtain rfl := Option.some.inj hst
        apply hother
        simp [queuedStamps]
  | recorded id result now =>
      rcases of_stampsAt_messageEffect hst with hst | ⟨-, henv, m, hm, rfl⟩
      · exact hs j st hst
      · intro hsent hprovider _
        cases hresult : result.status with
        | SENT =>
            simp only [mapSmsDispatchResult, hresult, SmsMessage.stamps] at hprovider ⊢
            obtain ⟨hfailed, hdelivered⟩ := haccepts id result now m rfl henv hresult hprovider hm
            exact ⟨hdelivered, hfailed⟩
        | _ => simp [mapSmsDispatchResult, hresult, SmsMessage.stamps] at hsent
  | givenUp id givesUp =>
      rcases of_stampsAt_messageEffect hst with hst | ⟨-, -, m, -, rfl⟩
      · exact hs j st hst
      · obtain ⟨deadLetteredAt, hstamps⟩ := givesUp m
        apply hother
        simp [hstamps]
  | delivered id condition report =>
      rcases of_stampsAt_messageEffect hst with hst | ⟨-, -, m, hm, rfl⟩
      · exact hs j st hst
      · by_cases hc : condition m
        · apply hother
          simp [hc, SmsMessage.stamps]
        · simp only [hc]
          exact hs id m.stamps (stampsAt_some.2 ⟨m, hm, rfl⟩)
  | undelivered id condition report =>
      rcases of_stampsAt_messageEffect hst with hst | ⟨-, -, m, hm, rfl⟩
      · exact hs j st hst
      · by_cases hc : condition m
        · apply hother
          simp [hc, SmsMessage.stamps]
        · simp only [hc]
          exact hs id m.stamps (stampsAt_some.2 ⟨m, hm, rfl⟩)

/-! ### Runs -/

variable {ctx : WorkerContext} {w w' : Workers} {event : PoolEvent Task Surroundings}

lemma run_awaiting
    (hreach : Pool.StepsUnder (program ctx) AcceptsUnfailed (Pool.initial noEvents) w) :
    w.EffectsIn SmsEffect ∧ ∀ id st, stampsAt w.state id = some st → Awaiting st := by
  refine Pool.run_effects (program_effects ctx)
    (I := fun s => ∀ id st, stampsAt s id = some st → Awaiting st) ?_
    (Pool.initial_effectsIn noEvents) ?_ hreach
  · rintro u n env e hP hat he hu
    apply awaiting_of_effect he hu
    rintro id result now m rfl henv hsent hprovider hm
    exact hP n env id result now m rfl hat henv hsent hprovider hm
  · intro id st hst
    simp [stampsAt, Pool.initial, noEvents] at hst

lemma StaysPollable.acceptsUnfailed (heffects : w.EffectsIn SmsEffect)
    (hstep : w.step (program ctx) event = some w') (h : StaysPollable w'.state) :
    AcceptsUnfailed w event := by
  rintro n env id result now m rfl hat henv hsent hprovider hm
  rcases (heffects.step (program_effects ctx) hstep).2 with
    ⟨n', env', e, hevent, hat', -, hstate⟩ | ⟨hno, -⟩
  · obtain ⟨rfl, rfl⟩ : n = n' ∧ env = env' := by simpa using hevent
    obtain rfl := hat'.unique hat
    have hst := stampsAt_messageEffect_self (f := fun _ => mapSmsDispatchResult result now) henv hm
    rw [hstate, staysPollable_iff] at h
    have hawaiting := h id _ hst
    simp only [Awaiting, mapSmsDispatchResult, hsent, SmsMessage.stamps] at hawaiting
    obtain ⟨hdelivered, hfailed⟩ := hawaiting trivial hprovider trivial
    exact ⟨hfailed, hdelivered⟩
  · exact absurd rfl (hno n env)

/-- **Accepted messages stay pollable** in the runs in which none was failed or delivered before
it is accepted; the step that accepts another one leaves a message that the poll passes over. -/
theorem accepted_sms_pollable_iff (ctx : WorkerContext) (w : Workers)
    (hreach : Pool.StepsUnder (program ctx) AcceptsUnfailed (Pool.initial noEvents) w) :
    StaysPollable w.state ∧ ∀ event w', w.step (program ctx) event = some w' →
      (StaysPollable w'.state ↔ AcceptsUnfailed w event) := by
  have hpollable : ∀ u, Pool.StepsUnder (program ctx) AcceptsUnfailed (Pool.initial noEvents) u →
      StaysPollable u.state := fun u hu => staysPollable_iff.2 (run_awaiting hu).2
  refine ⟨hpollable w hreach, fun event w' hstep => ⟨fun h => ?_, fun h => ?_⟩⟩
  · exact h.acceptsUnfailed (run_awaiting hreach).1 hstep
  · exact hpollable w' (hreach.tail h hstep)

namespace Shop

/-- The provider takes the message at the first attempt. -/
def acceptedAtOnce : List (PoolEvent Task Surroundings) :=
  [.start (.insertOutboxEvent earnConfirmed), .advance 0 (at_ 0),
    .start (.handleJob 0), .advance 1 (at_ 1), .advance 1 (at_ 1), .advance 1 (at_ 1),
    .advance 1 (at_ 1), .advance 1 (answered 2 .SENT false), .advance 1 (at_ 2)]

/-- The first attempt fails. A recovery cycle publishes the event again, and the provider takes
the message. -/
def acceptedAtLast : List (PoolEvent Task Surroundings) :=
  [.start (.insertOutboxEvent earnConfirmed), .advance 0 (at_ 0),
    .start (.handleJob 0), .advance 1 (at_ 1), .advance 1 (at_ 1), .advance 1 (at_ 1),
    .advance 1 (at_ 1), .advance 1 (answered 2 .FAILED false), .advance 1 (at_ 2),
    .advance 1 (at_ 2),
    .start .recoverAndPublishOnce, .advance 2 (at_ 70000), .advance 2 (at_ 70000),
    .advance 2 (at_ 70000), .advance 2 (at_ 70000), .advance 2 (at_ 70000), .advance 2 (at_ 70000),
    .start (.handleJob 0), .advance 3 (at_ 70001), .advance 3 (at_ 70001), .advance 3 (at_ 70001),
    .advance 3 (at_ 70001), .advance 3 (answered 70002 .SENT false), .advance 3 (at_ 70002)]

/-- The stamps of the messages. -/
def allStamps (w : Workers) : List (Option SmsStamps) :=
  w.state.rows.map fun row => row.smsMessage.map SmsMessage.stamps

/-- No message has the time of a failure or of a delivery. -/
def unfailed (w : Workers) : PoolEvent Task Surroundings → Bool :=
  fun _ => (allStamps w).all fun stamps =>
    stamps.all fun st => st.failedAt.isNone ∧ st.deliveredAt.isNone

end Shop

lemma AcceptsUnfailed.of_check {w : Workers} {event : PoolEvent Task Surroundings}
    (h : Shop.unfailed w event) : AcceptsUnfailed w event := by
  rintro n env id result now m - - - - - ⟨row, hrow, hm⟩
  have hall := List.all_eq_true.1 h (some m.stamps) (List.mem_map.2
    ⟨row, List.mem_of_getElem? hrow, by rw [hm]; rfl⟩)
  simpa [SmsMessage.stamps] using hall

lemma stampsAt_of_allStamps {w : Workers} {st : SmsStamps} (h : Shop.allStamps w = [some st]) :
    stampsAt w.state 0 = some st := by
  have hzero := congrArg (fun l => l[0]?) h
  simp only [Shop.allStamps, List.getElem?_map, List.getElem?_cons_zero] at hzero
  obtain ⟨row, hrow, hst⟩ := Option.map_eq_some_iff.1 hzero
  unfold stampsAt
  rw [hrow]
  exact hst

/-- A message that was taken at once is asked about. -/
theorem accepted_sms_pollable_at_once : ∃ w : Workers,
    Pool.StepsUnder (program Shop.worker) AcceptsUnfailed (Pool.initial noEvents) w ∧
    Shop.allStamps w = [some ⟨.SENT, some "sms-1", 0, some 1, none, none, none, none⟩] ∧
    StaysPollable w.state := by
  have hrun : (Pool.runChecked (program Shop.worker) Shop.unfailed (Pool.initial noEvents)
      Shop.acceptedAtOnce).map Shop.allStamps =
        some [some ⟨.SENT, some "sms-1", 0, some 1, none, none, none, none⟩] := by decide +kernel
  obtain ⟨w, hw, hstamps⟩ := Option.map_eq_some_iff.1 hrun
  have hreach : Pool.StepsUnder (program Shop.worker) AcceptsUnfailed (Pool.initial noEvents) w :=
    Pool.StepsUnder.of_runChecked (fun _ _ => AcceptsUnfailed.of_check) hw
  exact ⟨w, hreach, hstamps, (accepted_sms_pollable_iff Shop.worker w hreach).1⟩

/-- **A message that was taken at the second attempt is passed over**: the time of the failure is
still there. -/
theorem accepted_sms_passed_over : ¬ ∀ (ctx : WorkerContext) (w : Workers),
    ctx.smsProvider.reportsDelivery → Run ctx (Pool.initial noEvents) w →
      StaysPollable w.state := by
  intro h
  have hrun : (Pool.runChecked (program Shop.worker) (fun _ _ => true) (Pool.initial noEvents)
      Shop.acceptedAtLast).map Shop.allStamps =
        some [some ⟨.SENT, some "sms-1", 0, some 70001, none, some 1, none, none⟩] := by
    decide +kernel
  obtain ⟨w, hw, hstamps⟩ := Option.map_eq_some_iff.1 hrun
  have hreach : Run Shop.worker (Pool.initial noEvents) w :=
    Pool.StepsUnder.of_runChecked (fun _ _ _ => trivial) hw
  have hpollable := h Shop.worker w rfl hreach
  have hawaiting := staysPollable_iff.1 hpollable 0 _ (stampsAt_of_allStamps hstamps) rfl rfl rfl
  cases hawaiting.2

end OutboxWorkerRuntime

end ShopcityLoyalty
