import ShopcityLoyalty.OutboxCycles

/-!
Dead-lettered events, over runs of any number of workers.

Where no two jobs for one event are in flight together, a dead-lettered event stays as it is
and its message is not submitted again. A job that goes on after another one has
dead-lettered its event takes the mark away again.
-/

namespace ShopcityLoyalty

open Process

namespace OutboxWorkerRuntime

def DeadLettered (id : Nat) (s : OutboxState) : Prop :=
  ∃ row, s.rows[id]? = some row ∧ row.deadLetteredAt.isSome

/-- A dead-lettered event stays as it is, its message apart, and nothing of it is submitted. -/
def StaysDead (id : Nat) (s t : OutboxState) : Prop :=
  ∀ row, s.rows[id]? = some row → row.deadLetteredAt.isSome →
    (∃ row', t.rows[id]? = some row' ∧ { row' with smsMessage := row.smsMessage } = row) ∧
      t.submissions.count id = s.submissions.count id

/-- The event is not dead-lettered by the change. -/
def Spared (id : Nat) (s t : OutboxState) : Prop := ¬ DeadLettered id s → ¬ DeadLettered id t

lemma StaysDead.refl (id : Nat) (s : OutboxState) : StaysDead id s s :=
  fun row hrow _ => ⟨⟨row, hrow, rfl⟩, rfl⟩

lemma StaysDead.trans {id : Nat} {s t u : OutboxState} (h : StaysDead id s t)
    (h' : StaysDead id t u) : StaysDead id s u := by
  intro row hrow hdead
  obtain ⟨⟨row₁, hrow₁, heq₁⟩, hcount₁⟩ := h row hrow hdead
  have hdead₁ : row₁.deadLetteredAt.isSome := by rw [← heq₁] at hdead; exact hdead
  obtain ⟨⟨row₂, hrow₂, heq₂⟩, hcount₂⟩ := h' row₁ hrow₁ hdead₁
  refine ⟨⟨row₂, hrow₂, ?_⟩, hcount₂.trans hcount₁⟩
  rw [← heq₁, ← heq₂]

lemma StaysDead.of_alive {id : Nat} {s t : OutboxState} (h : ¬ DeadLettered id s) :
    StaysDead id s t :=
  fun row hrow hdead => absurd ⟨row, hrow, hdead⟩ h

/-! ### What each task does -/

/-- Others leave a dead-lettered event alone, and dead-letter none; the job itself need only
leave a dead-lettered one alone. -/
def deadLetterContract (id : Nat) : Task → Contract Surroundings OutboxState Unit
  | .handleJob j =>
      if j = id then
        { admits := fun _ _ => True
          rely := fun s t => StaysDead id s.1 t.1 ∧ Spared id s.1 t.1
          guarantee := fun s t => StaysDead id s.1 t.1 }
      else
        { admits := fun _ _ => True
          rely := fun _ _ => True
          guarantee := fun s t => StaysDead id s.1 t.1 ∧ Spared id s.1 t.1 }
  | _ =>
      { admits := fun _ _ => True
        rely := fun _ _ => True
        guarantee := fun s t => StaysDead id s.1 t.1 ∧ Spared id s.1 t.1 }

lemma EachRow.staysDead {R : OutboxRow → OutboxRow → Prop} {s t : OutboxState}
    (h : EachRow R s t) (id : Nat)
    (hR : ∀ row row', R row row' → row'.deadLetteredAt = row.deadLetteredAt ∧
      (row.deadLetteredAt.isSome → { row' with smsMessage := row.smsMessage } = row)) :
    StaysDead id s t ∧ Spared id s t := by
  constructor
  · intro row hrow hdead
    obtain ⟨row', hrow', hr⟩ := h.rows id row hrow
    exact ⟨⟨row', hrow', (hR _ _ hr).2 hdead⟩, by rw [h.submissions]⟩
  · rintro halive ⟨row', hrow', hdead⟩
    cases hrow : s.rows[id]? with
    | none =>
        obtain ⟨_, _, hfresh, _⟩ := h.fresh id row' hrow' hrow
        simp [hfresh] at hdead
    | some row =>
        obtain ⟨row₁, hrow₁, hr⟩ := h.rows id row hrow
        obtain rfl : row₁ = row' := Option.some.inj (hrow₁.symm.trans hrow')
        rw [(hR _ _ hr).1] at hdead
        exact halive ⟨row, hrow, hdead⟩

lemma Local.staysDead {id j : Nat} {s t : OutboxState} (h : Local j s t) (hne : id ≠ j) :
    StaysDead id s t ∧ Spared id s t := by
  have hrows := h.rows id hne
  constructor
  · intro row hrow _
    exact ⟨⟨row, hrows.trans hrow, rfl⟩, h.submissions id hne⟩
  · rintro halive ⟨row, hrow, hdead⟩
    exact halive ⟨row, hrows ▸ hrow, hdead⟩

lemma workOn_alive (id : Nat) :
    WorkOn (deadLetterContract id (.handleJob id)) id fun s => ¬ DeadLettered id s := by
  simp only [deadLetterContract, if_true]
  refine ⟨fun s t halive hrely => hrely.2 halive, fun s t g halive _ => .of_alive halive, ?_⟩
  rintro s t halive hharm ⟨row', hrow', hdead⟩
  obtain ⟨row, hrow, _, heq, _⟩ := hharm row' hrow'
  exact halive ⟨row, hrow, heq ▸ hdead⟩

lemma workOn_other {id j : Nat} (hne : j ≠ id) :
    WorkOn (deadLetterContract id (.handleJob j)) j fun _ => True := by
  simp only [deadLetterContract, hne, if_false]
  exact ⟨fun _ _ _ _ => trivial, fun s t g _ h => h.staysDead hne.symm, fun _ _ _ _ => trivial⟩

lemma findEvent_triple {Γ : Type} {c : Contract Surroundings OutboxState Γ} (id : Nat)
    (hguar : ∀ s g, c.guarantee (s, g) (s, g)) :
    Triple c (fun _ => True) (findEvent id) fun r s =>
      ∀ row, r = .ok (some row) → s.1.rows[id]? = some row := by
  apply triple_attempt fun _ _ _ _ => trivial
  intro s env _ _
  cases hfail : env.failure with
  | some e => exact ⟨s.2, hguar _ _, fun row hr => by cases hr⟩
  | none =>
      cases hrow : s.1.rows[id]? with
      | none =>
          simp only [hrow]
          exact ⟨s.2, hguar _ _, fun row hr => by cases hr⟩
      | some row =>
          have hlt := Table.lt_of_getElem? hrow
          have hsame : s.1.rows.set id row = s.1.rows := by
            obtain ⟨_, rfl⟩ := List.getElem?_eq_some_iff.1 hrow
            exact List.set_getElem_self hlt
          simp only [hrow, hsame]
          refine ⟨s.2, hguar _ _, fun row' hr => ?_⟩
          obtain rfl : row = row' := Option.some.inj (Except.ok.inj hr)
          rfl

/-- **A job**, under the contract for its event. -/
lemma handleJob_keeps (ctx : WorkerContext) (id j : Nat) :
    Triple (deadLetterContract id (.handleJob j)) (fun _ => True) (handleJob ctx j)
      fun _ _ => True := by
  have hguar : ∀ s g, (deadLetterContract id (.handleJob j)).guarantee (s, g) (s, g) := by
    intro s g
    by_cases hj : j = id
    · simp only [deadLetterContract, hj, if_true]
      exact .refl id s
    · simp only [deadLetterContract, hj, if_false]
      exact ⟨.refl id s, fun h => h⟩
  refine (findEvent_triple j hguar).bind (fun found => ?_) fun _ _ _ => trivial
  cases found with
  | none => exact triple_done fun _ _ => trivial
  | some row =>
      simp only
      split
      · exact triple_done fun _ _ => trivial
      rename_i hopen
      by_cases hj : j = id
      · subst hj
        refine ((workOn_alive j).handleEvent ctx row).consequence (fun s hs => ?_) fun _ _ h => h
        rintro ⟨row', hrow', hdead⟩
        obtain rfl : row = row' := Option.some.inj ((hs row rfl).symm.trans hrow')
        exact hopen (.inl hdead)
      · exact ((workOn_other hj).handleEvent ctx row).consequence (fun _ _ => trivial)
          fun _ _ h => h

/-- A job is not in flight for the same event as another one. -/
def OneJobAnEvent (k l : Task) : Prop := ∀ id, k = .handleJob id → l ≠ .handleJob id

lemma deadLetters_fit (ctx : WorkerContext) (id : Nat) :
    Pool.Fits (program ctx) (fun _ => deadLetterContract id) OneJobAnEvent (fun _ _ => True)
      fun _ => True where
  closed n k := by
    cases k with
    | handleJob j =>
        by_cases hj : j = id
        · simp only [deadLetterContract, hj, if_true]
          refine ⟨fun s => ⟨.refl id s.1, fun h => h⟩, fun s t u h h' => ⟨h.1.trans h'.1, ?_⟩⟩
          exact fun halive => h'.2 (h.2 halive)
        · simp only [deadLetterContract, hj, if_false]
          exact ⟨fun _ => trivial, fun _ _ _ _ _ => trivial⟩
    | _ => exact ⟨fun _ => trivial, fun _ _ _ _ _ => trivial⟩
  compatible n m k l s t _ hC _ hguar := by
    cases l with
    | handleJob j =>
        by_cases hj : j = id
        · subst hj
          simp only [deadLetterContract, if_true]
          cases k with
          | handleJob j' =>
              -- two jobs for one event are never in flight together
              have hne : j' ≠ j := fun heq => hC j' rfl (by rw [heq])
              simpa only [deadLetterContract, hne, if_false] using hguar
          | _ => exact hguar
        · simp only [deadLetterContract, hj, if_false]
    | _ => trivial
  good _ _ _ _ _ _ := trivial
  admits n k s i _ _ := by
    cases k with
    | handleJob j =>
        by_cases hj : j = id <;> simp only [deadLetterContract, hj, if_true, if_false]
    | _ => trivial
  program n k s _ := by
    cases k with
    | handleJob j => exact handleJob_keeps ctx id j s trivial
    | insertOutboxEvent new =>
        refine insertOutboxEvent_rows new (R := (· = ·)) ⟨fun _ => rfl, fun _ _ _ _ => trivial, ?_,
          fun _ _ _ _ _ _ => trivial⟩ s trivial
        intro s t g _ h _
        exact h.staysDead id fun row row' heq => ⟨by rw [heq], fun _ => by rw [heq]⟩
    | recoverAndPublishOnce =>
        refine recoverAndPublishOnce_rows ctx ⟨Recovered.refl, fun _ _ _ _ => trivial, ?_,
          fun _ _ _ _ _ _ => trivial⟩ s trivial
        intro s t g _ h _
        refine h.staysDead id fun row row' hr => ⟨hr.deadLetteredAt, fun hdead => ?_⟩
        rw [hr.frozen hdead]
    | pollDeliveryReports =>
        refine pollDeliveryReports_rows ctx ⟨Polled.refl, fun _ _ _ _ => trivial, ?_,
          fun _ _ _ _ _ _ => trivial⟩ s trivial
        intro s t g _ h _
        refine h.staysDead id fun row row' hr => ⟨?_, fun _ => hr.event⟩
        rw [← hr.event]

/-! ### Runs -/

/-- What later steps leave of a dead-lettered event: its row, its message apart, which no
recovery cycle may claim, and no submission of its message. -/
def Absorbed (id : Nat) (row : OutboxRow) (s t : OutboxState) : Prop :=
  (∃ row', t.rows[id]? = some row' ∧ { row' with smsMessage := row.smsMessage } = row ∧
    ∀ now staleCutoff, ¬ Claimable now staleCutoff row') ∧
  t.submissions.count id = s.submissions.count id

/-- In runs under a condition, dead-lettering is absorbing. -/
def DeadLetteringAbsorbs (ctx : WorkerContext) (P : Workers → PoolEvent Task Surroundings → Prop) :
    Prop :=
  ∀ (w w' : Workers) (id : Nat) (row : OutboxRow),
    Pool.StepsUnder (program ctx) P (Pool.initial noEvents) w →
    w.state.rows[id]? = some row → row.deadLetteredAt.isSome →
    Pool.StepsUnder (program ctx) P w w' → Absorbed id row w.state w'.state

/-- A job starts only while no other job for its event is in flight. -/
def NoOverlap (w : Workers) (event : PoolEvent Task Surroundings) : Prop :=
  ∀ id, event = .start (.handleJob id) → ∀ n, ¬ w.Active n (.handleJob id)

lemma NoOverlap.disciplined {w : Workers} {event : PoolEvent Task Surroundings}
    (h : NoOverlap w event) : Pool.Disciplined OneJobAnEvent (fun _ _ => True) w event where
  start k hk n l hl := by
    constructor
    · rintro id rfl rfl
      exact h id hk n hl
    · rintro id rfl rfl
      exact h id hk n hl
  admitted _ _ _ := trivial

/-- **Dead-lettering is absorbing** where the jobs of one event do not overlap. -/
theorem dead_lettering_absorbing (ctx : WorkerContext) :
    DeadLetteringAbsorbs ctx NoOverlap := by
  intro w w' id row hreach hrow hdead hrun
  have hfits := deadLetters_fit ctx id
  have hdisc : ∀ u e, NoOverlap u e → Pool.Disciplined OneJobAnEvent (fun _ _ => True) u e :=
    fun _ _ h => h.disciplined
  have hguar : ∀ (n : Nat) k s t, True → (deadLetterContract id k).guarantee s t →
      StaysDead id s.1 t.1 := by
    intro n k s t _ h
    cases k with
    | handleJob j =>
        by_cases hj : j = id
        · simpa only [deadLetterContract, hj, if_true] using h
        · simp only [deadLetterContract, hj, if_false] at h
          exact h.1
    | _ => exact h.1
  obtain ⟨g, hunder, hapart, _, _⟩ :=
    Pool.run_under hfits hdisc (R := fun s t => StaysDead id s.1 t.1) (fun s => .refl id s.1)
      (fun _ _ _ h h' => h.trans h') hguar (g := ()) (Pool.initial_under _)
      (Pool.initial_apart _) trivial hreach
  obtain ⟨g', _, _, _, hstays⟩ :=
    Pool.run_under hfits hdisc (R := fun s t => StaysDead id s.1 t.1) (fun s => .refl id s.1)
      (fun _ _ _ h h' => h.trans h') hguar hunder hapart trivial hrun
  obtain ⟨⟨row', hrow', heq⟩, hcount⟩ := hstays row hrow hdead
  refine ⟨⟨row', hrow', heq, fun now staleCutoff hclaim => ?_⟩, hcount⟩
  have hsame : row'.deadLetteredAt = row.deadLetteredAt := by rw [← heq]
  have hnone := hclaim.2.1
  rw [hsame, Option.isNone_iff_eq_none] at hnone
  simp [hnone] at hdead

/-! ### Two jobs for one event -/

namespace Shop

/-- A worker whose provider takes messages without a reservation and reports deliveries. -/
def worker : WorkerContext where
  config := ⟨25, 300000, 10, 30000, 60000⟩
  smsProvider := ⟨false, none, true⟩
  fraud := ShopcityLoyalty.Shop.fraudRuntime
  validateSmsIntent _ _ := .ok ()
  reportMaterializer := true

def confirmation : SmsMessage where
  receiptId := some "receipt-1"
  ledgerEntryId := some "entry-1"
  redemptionId := none
  adjustmentId := none
  cardId := none
  phoneE164 := "+2348030000000"
  template := "earn-confirmed"
  payload := .object []
  status := .QUEUED
  attempts := 0
  providerMessageId := none
  lastError := none
  queuedAt := 0
  lastAttemptAt := none
  nextAttemptAt := none
  deadLetteredAt := none
  failureCategory := none
  sentAt := none
  nextDeliveryReportPollAt := none
  deliveredAt := none
  failedAt := none
  suppressedAt := none

/-- An earn was confirmed; its message waits in the outbox. -/
def earnConfirmed : NewOutboxEvent where
  event := ⟨"tenant-1", "receipt", "receipt-1", "sms.send", .object []⟩
  nextAttemptAt := some 0
  message := some confirmation
  queued m h := by obtain rfl := Option.some.inj h; rfl

/-- A statement that runs at a time. -/
def at_ (now : Int) : Surroundings :=
  ⟨now, none, [], .error (.other "timeout"), none, ShopcityLoyalty.Shop.noReads⟩

/-- The provider's answer. -/
def answered (now : Int) (status : SmsMessageStatus) (terminal : Bool) : Surroundings :=
  { at_ now with answer := .ok ⟨status, some "sms-1", none, terminal⟩ }

/-- Two jobs are at the provider with one message. One of them is refused for good and
dead-letters the event; the other one then times out. -/
def refusedTwice : List (PoolEvent Task Surroundings) × List (PoolEvent Task Surroundings) :=
  ([.start (.insertOutboxEvent earnConfirmed), .advance 0 (at_ 0),
    .start (.handleJob 0), .advance 1 (at_ 1), .advance 1 (at_ 1), .advance 1 (at_ 1),
    .advance 1 (at_ 1),
    .start (.handleJob 0), .advance 2 (at_ 2), .advance 2 (at_ 2), .advance 2 (at_ 2),
    .advance 2 (at_ 2), .advance 2 (answered 3 .FAILED true), .advance 2 (at_ 3),
    .advance 2 (at_ 3)],
   [.advance 1 (answered 4 .FAILED false), .advance 1 (at_ 4), .advance 1 (at_ 4)])

/-- A job dead-letters the event; later a recovery cycle and another job come by. -/
def refusedOnce : List (PoolEvent Task Surroundings) × List (PoolEvent Task Surroundings) :=
  ([.start (.insertOutboxEvent earnConfirmed), .advance 0 (at_ 0),
    .start (.handleJob 0), .advance 1 (at_ 1), .advance 1 (at_ 1), .advance 1 (at_ 1),
    .advance 1 (at_ 1), .advance 1 (answered 3 .FAILED true), .advance 1 (at_ 3),
    .advance 1 (at_ 3)],
   [.start .recoverAndPublishOnce, .advance 2 (at_ 70000), .advance 2 (at_ 70000),
    .advance 2 (at_ 70000), .advance 2 (at_ 70000),
    .start (.handleJob 0), .advance 3 (at_ 80000)])

def deadLetterMarks (w : Workers) : List (Option Int) := w.state.rows.map fun r => r.deadLetteredAt

/-- No other job for the event has statements left. -/
def noOverlap (w : Workers) : PoolEvent Task Surroundings → Bool
  | .start (.handleJob id) => w.tasks.all fun task =>
      match task with
      | (.handleJob j, some p) => j ≠ id ∨ ¬ p.Running
      | _ => true
  | _ => true

end Shop

lemma NoOverlap.of_check {w : Workers} {event : PoolEvent Task Surroundings}
    (h : Shop.noOverlap w event) : NoOverlap w event := by
  rintro id rfl n ⟨p, hp, hrun⟩
  have hall := List.all_eq_true.1 h _ (List.mem_of_getElem? hp)
  simp [hrun] at hall

/-- A run without overlap: the event stays as the job left it. -/
theorem dead_lettering_absorbing_shop : ∃ (w w' : Workers) (row : OutboxRow),
    Pool.StepsUnder (program Shop.worker) NoOverlap (Pool.initial noEvents) w ∧
    Pool.StepsUnder (program Shop.worker) NoOverlap w w' ∧
    w.state.rows[0]? = some row ∧ row.deadLetteredAt = some 3 ∧
    Absorbed 0 row w.state w'.state := by
  have hfirst : (Pool.runChecked (program Shop.worker) Shop.noOverlap (Pool.initial noEvents)
      Shop.refusedOnce.1).map Shop.deadLetterMarks = some [some 3] := by decide +kernel
  have hthen : (Pool.runChecked (program Shop.worker) Shop.noOverlap (Pool.initial noEvents)
      (Shop.refusedOnce.1 ++ Shop.refusedOnce.2)).map Shop.deadLetterMarks = some [some 3] := by
    decide +kernel
  obtain ⟨w, w', hreach, hrun, hdead, _⟩ :=
    Pool.StepsUnder.of_runChecked_map (fun _ _ h => NoOverlap.of_check h) hfirst hthen
  obtain ⟨row, hrow, hmark⟩ : ∃ row, w.state.rows[0]? = some row ∧ row.deadLetteredAt = some 3 := by
    have hzero := congrArg (fun l => l[0]?) hdead
    simpa [Shop.deadLetterMarks, Option.map_eq_some_iff] using hzero
  exact ⟨w, w', row, hreach, hrun, hrow, hmark,
    dead_lettering_absorbing Shop.worker w w' 0 row hreach hrow (by simp [hmark]) hrun⟩

/-- **The late job takes the mark away**: a dead-lettered event becomes claimable again. -/
theorem dead_letter_cleared : ¬ DeadLetteringAbsorbs Shop.worker fun _ _ => True := by
  intro h
  have hfirst : (Pool.runChecked (program Shop.worker) (fun _ _ => true) (Pool.initial noEvents)
      Shop.refusedTwice.1).map Shop.deadLetterMarks = some [some 3] := by decide +kernel
  have hthen : (Pool.runChecked (program Shop.worker) (fun _ _ => true) (Pool.initial noEvents)
      (Shop.refusedTwice.1 ++ Shop.refusedTwice.2)).map Shop.deadLetterMarks = some [none] := by
    decide +kernel
  obtain ⟨w, w', hreach, hrun, hdead, hcleared⟩ :=
    Pool.StepsUnder.of_runChecked_map (P := fun _ _ => True) (fun _ _ _ => trivial) hfirst hthen
  obtain ⟨row, hrow, hmark⟩ : ∃ row, w.state.rows[0]? = some row ∧ row.deadLetteredAt = some 3 := by
    have hzero := congrArg (fun l => l[0]?) hdead
    simpa [Shop.deadLetterMarks, Option.map_eq_some_iff] using hzero
  obtain ⟨⟨row', hrow', heq, _⟩, _⟩ := h w w' 0 row hreach hrow (by simp [hmark]) hrun
  have hsame : row'.deadLetteredAt = row.deadLetteredAt := by rw [← heq]
  have hzero := congrArg (fun l => l[0]?) hcleared
  simp [Shop.deadLetterMarks, hrow', hsame, hmark] at hzero

end OutboxWorkerRuntime

end ShopcityLoyalty
