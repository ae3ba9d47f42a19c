import ShopcityLoyalty.DeadLetters

/-!
Fraud events take effect once, over runs of any number of workers.

The auxiliary state lists the evaluations so far, each of another event, with what it found.
The flags are what these leave, recorded in their order, and the events evaluated are the
processed ones.
-/

namespace ShopcityLoyalty

open Process

/-! ### The findings of one evaluation -/

lemma FraudRuleCode.text_injective : Function.Injective FraudRuleCode.text := by
  intro a b h
  cases a <;> cases b <;> first | rfl | simp [FraudRuleCode.text] at h

lemma FraudRuleCode.not_colon (code : FraudRuleCode) : ∀ c ∈ code.text.toList, c ≠ ':' := by
  cases code <;> simp [FraudRuleCode.text]

lemma ruleCode_of_dedupeKey {a b : FraudRuleCode} {s t : String}
    (h : dedupeKey a s = dedupeKey b t) : a = b := by
  have hprefix : ∀ (code : FraudRuleCode) (u : String),
      (dedupeKey code u).toList.takeWhile (fun c => decide (c ≠ ':')) = code.text.toList := by
    intro code u
    have hcolon : ":".toList = [':'] := rfl
    have htext : ∀ c ∈ code.text.toList, decide (c ≠ ':') = true :=
      fun c hc => decide_eq_true (code.not_colon c hc)
    simp only [dedupeKey, String.toList_append, hcolon, List.append_assoc]
    rw [List.takeWhile_append_of_pos htext]
    simp
  apply FraudRuleCode.text_injective
  have htexts : a.text.toList = b.text.toList := by
    rw [← hprefix a s, ← hprefix b t, h]
  exact String.toList_injective htexts

/-- Findings of some rules, in their order, each under a key of its rule. -/
structure Found (codes : List FraudRuleCode) (findings : List FraudFinding) : Prop where
  rules : (findings.map (·.ruleCode)).Sublist codes
  keys : ∀ f ∈ findings, ∃ subject, f.dedupeKey = dedupeKey f.ruleCode subject

lemma Found.nil (codes : List FraudRuleCode) : Found codes [] :=
  ⟨List.nil_sublist _, fun f hf => by cases hf⟩

lemma Found.single {code : FraudRuleCode} {f : FraudFinding} {subject : String}
    (hcode : f.ruleCode = code) (hkey : f.dedupeKey = dedupeKey code subject) :
    Found [code] [f] := by
  refine ⟨by simp [hcode], fun f' hf' => ?_⟩
  obtain rfl := List.mem_singleton.1 hf'
  exact ⟨subject, by rw [hcode, hkey]⟩

lemma Found.unless {codes : List FraudRuleCode} {findings : List FraudFinding} {p : Prop}
    [Decidable p] (h : Found codes findings) : Found codes (if p then [] else findings) := by
  split
  · exact .nil codes
  · exact h

lemma Found.append {codes codes' : List FraudRuleCode} {findings findings' : List FraudFinding}
    (h : Found codes findings) (h' : Found codes' findings') :
    Found (codes ++ codes') (findings ++ findings') := by
  refine ⟨?_, fun f hf => ?_⟩
  · rw [List.map_append]
    exact h.rules.append h'.rules
  · exact (List.mem_append.1 hf).elim (h.keys f) (h'.keys f)

lemma Found.nodup {codes : List FraudRuleCode} {findings : List FraudFinding}
    (h : Found codes findings) (hcodes : codes.Nodup) :
    (findings.map (·.dedupeKey)).Nodup := by
  have hrules : (findings.map (·.ruleCode)).Nodup := hcodes.sublist h.rules
  have hkeys := h.keys
  clear h
  induction findings with
  | nil => exact List.nodup_nil
  | cons f findings ih =>
      obtain ⟨hfirst, hrest⟩ := List.nodup_cons.1 hrules
      refine List.nodup_cons.2 ⟨?_, ih hrest fun f' hf' => hkeys f' (.tail _ hf')⟩
      intro hmem
      obtain ⟨f', hf', heq : f'.dedupeKey = f.dedupeKey⟩ := List.mem_map.1 hmem
      obtain ⟨s, hs⟩ := hkeys f List.mem_cons_self
      obtain ⟨t, ht⟩ := hkeys f' (.tail _ hf')
      have hcode : f'.ruleCode = f.ruleCode := ruleCode_of_dedupeKey (ht.symm.trans (heq.trans hs))
      exact hfirst (List.mem_map.2 ⟨f', hf', hcode⟩)

namespace FraudBehaviorRuntime

variable (rt : FraudRuntime) (reads : FraudReads)

lemma found_cardFrequency (receipt : FraudReceipt) (countInLocalDay : Nat) (window : Int × Int) :
    Found [.FR_CARD_001] (evaluateCardFrequency rt receipt countInLocalDay window) :=
  .unless (.single rfl rfl)

lemma found_cashierAnomaly (receipt : FraudReceipt) (cashierCount : Nat)
    (cashierValueKobo peerMedianValueKobo : Int) (window : Int × Int) :
    Found [.FR_CASH_001]
      (evaluateCashierAnomaly rt receipt cashierCount cashierValueKobo
        peerMedianValueKobo window) :=
  .unless (.unless (.single rfl rfl))

lemma found_roundedValues (receipt : FraudReceipt) (roundedCount sampleSize : Nat)
    (window : Int × Int) :
    Found [.FR_ROUND_001] (evaluateRoundedValues rt receipt roundedCount sampleSize window) :=
  .unless (.single rfl rfl)

lemma found_receiptBehavior (tenantId receiptId : String) :
    Found [.FR_CARD_001, .FR_CASH_001, .FR_ROUND_001]
      (evaluateReceiptBehavior rt reads tenantId receiptId) := by
  unfold evaluateReceiptBehavior
  split
  · exact .nil _
  · have hcard := found_cardFrequency rt
    have hcashier := found_cashierAnomaly rt
    have hrounded := found_roundedValues rt
    exact ((hcard _ _ _).append (hcashier _ _ _ _ _)).append (hrounded _ _ _ _)

lemma found_cardReplacementBehavior (tenantId cardId : String) (window : Int × Int) :
    Found [.FR_REPL_001] (evaluateCardReplacementBehavior rt reads tenantId cardId window) := by
  unfold evaluateCardReplacementBehavior
  split
  · exact .nil _
  · exact .unless (.single rfl rfl)

lemma found_reversalBehavior (tenantId branchId cashierId : String) (window : Int × Int) :
    Found [.FR_REV_001] (evaluateReversalBehavior rt reads tenantId branchId cashierId window) :=
  .unless (.single rfl rfl)

lemma found_authFailures (tenantId userId : String) (window : Int × Int) :
    Found [.FR_AUTH_001] (evaluateAuthFailures rt reads tenantId userId window) := by
  unfold evaluateAuthFailures
  split
  · exact .unless (.single rfl rfl)
  · exact .nil _

end FraudBehaviorRuntime

namespace OutboxWorkerRuntime

lemma found_highValueReceipt (ruleCode : FraudRuleCode) (severity : FraudSeverity)
    (receipt : FraudReceipt) (thresholdKobo : Int) :
    Found [ruleCode] (highValueReceipt ruleCode severity receipt thresholdKobo) := by
  unfold highValueReceipt
  split
  · exact .single rfl rfl
  · exact .nil _

lemma found_redemption (rt : Runtime) (redemption : FraudRedemption) :
    Found [.FR_HV_003] (redemptionFindings rt redemption) := by
  unfold redemptionFindings
  split
  · exact .single rfl rfl
  · exact .nil _

lemma found_duplicate {rt : FraudRuntime} {now : Int} {aggregateId : String}
    {payload : List (String × Json)} {findings : List FraudFinding}
    (h : duplicateFindings rt now aggregateId payload = .ok findings) :
    Found [.FR_DUP_001] findings := by
  unfold duplicateFindings at h
  simp only at h
  split at h
  · cases h
  · obtain rfl := Except.ok.inj h
    exact .single rfl rfl

/-- An evaluation finds by rules other than that of reversals, or it is of a reversal. -/
lemma evaluateFraudForOutboxEvent_found {rt : FraudRuntime} {reads : FraudReads} {now : Int}
    {event : OutboxEvent} {payload : List (String × Json)} {findings : List FraudFinding}
    (h : evaluateFraudForOutboxEvent rt reads now event payload = .ok findings) :
    (∃ codes : List FraudRuleCode, codes.Nodup ∧ .FR_REV_001 ∉ codes ∧ Found codes findings) ∨
      event.aggregateType = "reversal" ∧
        findings = FraudBehaviorRuntime.evaluateReversalBehavior rt reads event.tenantId
          ((textField payload "branchId").getD "")
          (((textField payload "actorId").or (textField payload "cashierId")).getD
            event.aggregateId)
          (readOutboxOccurredAt rt now payload - hoursMs 24,
            readOutboxOccurredAt rt now payload) := by
  unfold evaluateFraudForOutboxEvent at h
  simp only at h
  split at h
  · obtain rfl := Except.ok.inj h
    exact .inl ⟨[], by decide, by decide, .nil _⟩
  split at h
  · exact .inl ⟨_, by decide, by decide, found_duplicate h⟩
  split at h
  · cases hreceipt : reads.receipt event.tenantId event.aggregateId with
    | none => rw [hreceipt] at h; cases h
    | some receipt =>
        rw [hreceipt] at h
        obtain rfl := Except.ok.inj h
        have hvalue := (found_highValueReceipt .FR_HV_001 .MEDIUM receipt
          rt.PURCHASE_FLAG_THRESHOLD_KOBO).append (found_highValueReceipt .FR_HV_002 .HIGH receipt
          rt.PURCHASE_APPROVAL_THRESHOLD_KOBO)
        have hbehavior := FraudBehaviorRuntime.found_receiptBehavior rt reads receipt.tenantId
          receipt.id
        exact .inl ⟨_, by decide, by decide, hvalue.append hbehavior⟩
  split at h
  · cases hredemption : reads.redemption event.tenantId event.aggregateId with
    | none => rw [hredemption] at h; cases h
    | some redemption =>
        rw [hredemption] at h
        obtain rfl := Except.ok.inj h
        exact .inl ⟨_, by decide, by decide, found_redemption rt.toRuntime redemption⟩
  split at h
  · obtain rfl := Except.ok.inj h
    exact .inl ⟨_, by decide, by decide,
      FraudBehaviorRuntime.found_cardReplacementBehavior rt reads ..⟩
  split at h
  · obtain rfl := Except.ok.inj h
    exact .inr ⟨‹_›, rfl⟩
  split at h
  · obtain rfl := Except.ok.inj h
    exact .inl ⟨_, by decide, by decide, FraudBehaviorRuntime.found_authFailures rt reads ..⟩
  · obtain rfl := Except.ok.inj h
    exact .inl ⟨[], by decide, by decide, .nil _⟩

/-- **An evaluation finds no key twice.** -/
theorem evaluateFraudForOutboxEvent_nodup {rt : FraudRuntime} {reads : FraudReads} {now : Int}
    {event : OutboxEvent} {payload : List (String × Json)} {findings : List FraudFinding}
    (h : evaluateFraudForOutboxEvent rt reads now event payload = .ok findings) :
    (findings.map (·.dedupeKey)).Nodup := by
  rcases evaluateFraudForOutboxEvent_found h with ⟨codes, hcodes, -, hfound⟩ | ⟨-, rfl⟩
  · exact hfound.nodup hcodes
  · have hfound := FraudBehaviorRuntime.found_reversalBehavior rt reads
    exact (hfound _ _ _ _).nodup (by decide)

/-! ### What the flags count -/

/-- How often the flag under a key was found. -/
def occurrences (tenantId key : String) (flags : Table FraudFlag) : Nat :=
  ((flags.find (isFlag tenantId key)).map (·.2.occurrenceCount)).getD 0

lemma isFlag_iff {tenantId key : String} {flag : FraudFlag} :
    isFlag tenantId key flag = true ↔ flag.tenantId = tenantId ∧ flag.dedupeKey = key := by
  simp [isFlag]

lemma occurrences_upsertFlag (tenantId key tenant : String) (now : Int) (flags : Table FraudFlag)
    (finding : FraudFinding) :
    occurrences tenantId key (upsertFlag tenant now flags finding) =
      occurrences tenantId key flags +
        if tenant = tenantId ∧ finding.dedupeKey = key then 1 else 0 := by
  unfold upsertFlag
  cases hfind : flags.find (isFlag tenant finding.dedupeKey) with
  | none =>
      simp only
      by_cases hkey : tenant = tenantId ∧ finding.dedupeKey = key
      · obtain ⟨rfl, rfl⟩ := hkey
        simp [occurrences, Table.find_insert, hfind, isFlag]
      · have hnot : isFlag tenantId key
            { finding with
              tenantId := tenant
              status := .OPEN
              firstDetectedAt := now
              lastDetectedAt := now
              occurrenceCount := 1 } = false := by
          simpa [isFlag] using hkey
        simp [occurrences, Table.find_insert, hnot, hkey]
  | some r =>
      obtain ⟨i, flag⟩ := r
      obtain ⟨hrow, hflag⟩ := Table.find_some hfind
      obtain ⟨htenant, hdedupe⟩ := isFlag_iff.1 hflag
      simp only
      by_cases hkey : tenant = tenantId ∧ finding.dedupeKey = key
      · obtain ⟨rfl, rfl⟩ := hkey
        have hset := Table.find_set_self hfind (b := { flag with
          toFraudFinding := finding
          lastDetectedAt := now
          occurrenceCount := flag.occurrenceCount + 1 }) (isFlag_iff.2 ⟨htenant, rfl⟩)
        unfold occurrences
        rw [hset, hfind]
        simp
      · unfold occurrences
        rw [Table.find_set_of_not hrow, if_neg hkey, Nat.add_zero]
        · rw [isFlag_iff, htenant, hdedupe]
          exact hkey
        · rw [isFlag_iff]
          simpa [htenant] using hkey

lemma occurrences_recordFraudFindings (tenantId key tenant : String) (now : Int)
    (findings : List FraudFinding) (flags : Table FraudFlag)
    (hkeys : (findings.map (·.dedupeKey)).Nodup) :
    occurrences tenantId key (recordFraudFindings tenant findings now flags) =
      occurrences tenantId key flags +
        if tenant = tenantId ∧ key ∈ findings.map (·.dedupeKey) then 1 else 0 := by
  unfold recordFraudFindings
  induction findings generalizing flags with
  | nil => simp
  | cons f findings ih =>
      obtain ⟨hfirst, hrest⟩ := List.nodup_cons.1 hkeys
      rw [List.foldl_cons, ih _ hrest, occurrences_upsertFlag]
      by_cases htenant : tenant = tenantId
      · by_cases hf : f.dedupeKey = key
        · subst hf
          simp [htenant, hfirst]
        · have hne : ¬ key = f.dedupeKey := fun h => hf h.symm
          simp [htenant, hf, hne]
      · simp [htenant]

/-- An evaluation: of which event, and what it found. -/
structure Evaluation where
  id : Nat
  tenantId : String
  now : Int
  findings : List FraudFinding

/-- The evaluation found the key. -/
def Evaluation.Finds (tenantId key : String) (e : Evaluation) : Bool :=
  e.tenantId = tenantId ∧ key ∈ e.findings.map (·.dedupeKey)

/-- The flags that evaluations leave, one after another. -/
def flagged (evaluations : List Evaluation) : Table FraudFlag :=
  evaluations.foldl (fun flags e => recordFraudFindings e.tenantId e.findings e.now flags) []

lemma flagged_append (evaluations : List Evaluation) (e : Evaluation) :
    flagged (evaluations ++ [e]) =
      recordFraudFindings e.tenantId e.findings e.now (flagged evaluations) := by
  unfold flagged
  rw [List.foldl_append]
  rfl

/-- **Counts**: a flag counts the evaluations that found its key. -/
theorem occurrences_flagged (tenantId key : String) {evaluations : List Evaluation}
    (hkeys : ∀ e ∈ evaluations, (e.findings.map (·.dedupeKey)).Nodup) :
    occurrences tenantId key (flagged evaluations) =
      evaluations.countP (Evaluation.Finds tenantId key) := by
  induction evaluations using List.reverseRecOn with
  | nil => rfl
  | append_singleton evaluations e ih =>
      have hlast := hkeys e (by simp)
      rw [flagged_append, occurrences_recordFraudFindings _ _ _ _ _ _ hlast,
        ih fun e' he' => hkeys e' (by simp [he']), List.countP_append]
      simp [Evaluation.Finds, List.countP_cons]

/-! ### What each task does -/

/-- An event that was not processed was evaluated: it is completed, and its findings recorded. -/
structure Evaluated (ctx : WorkerContext) (e : Evaluation) (s t : OutboxState) : Prop where
  completed : ∃ row reads, s.rows[e.id]? = some row ∧ row.eventType = "fraud.evaluate" ∧
    row.processedAt = none ∧ row.status ≠ .COMPLETED ∧ row.tenantId = e.tenantId ∧
    evaluateFraudForOutboxEvent ctx.fraud reads e.now row.toOutboxEvent
      (normalizeJsonPayload row.payload) = .ok e.findings ∧
    t.rows[e.id]? = some { row with
      status := .COMPLETED, processedAt := some e.now, nextAttemptAt := none, updatedAt := e.now }
  others : ∀ j, j ≠ e.id → t.rows[j]? = s.rows[j]?
  fraudFlags : t.fraudFlags = recordFraudFindings e.tenantId e.findings e.now s.fraudFlags

/-- A change that processes no fraud event, and completes none that is not processed. -/
structure Idle (row row' : OutboxRow) : Prop where
  event : row'.toOutboxEvent = row.toOutboxEvent
  processed : row.eventType = "fraud.evaluate" →
    (row'.processedAt.isSome ↔ row.processedAt.isSome)
  marked : row.eventType = "fraud.evaluate" → row'.status = .COMPLETED →
    row.status = .COMPLETED ∨ row'.processedAt.isSome

/-- No fraud event is processed, and no flag changes. -/
structure Unevaluated (s t : OutboxState) : Prop where
  rows : ∀ (id : Nat) row, s.rows[id]? = some row → ∃ row', t.rows[id]? = some row' ∧ Idle row row'
  fresh : ∀ (id : Nat) row, t.rows[id]? = some row → s.rows[id]? = none →
    row.status = .PENDING ∧ row.processedAt = none
  fraudFlags : t.fraudFlags = s.fraudFlags

/-- Events stay what they are. -/
def EventsKept (s t : OutboxState) : Prop :=
  ∀ (id : Nat) row, s.rows[id]? = some row →
    ∃ row', t.rows[id]? = some row' ∧ row'.toOutboxEvent = row.toOutboxEvent

/-- Every task evaluates events one at a time, each together with its mark. -/
def fraudContract (ctx : WorkerContext) : Contract Surroundings OutboxState (List Evaluation) where
  admits _ _ := True
  rely s t := EventsKept s.1 t.1
  guarantee s t := (t.2 = s.2 ∧ Unevaluated s.1 t.1) ∨
    ∃ e, t.2 = s.2 ++ [e] ∧ Evaluated ctx e s.1 t.1

lemma Idle.refl (row : OutboxRow) : Idle row row := ⟨rfl, fun _ => Iff.rfl, fun _ h => .inl h⟩

lemma Recovered.idle {row row' : OutboxRow} (h : Recovered row row') : Idle row row' where
  event := h.event
  processed htype := by
    refine ⟨fun hsome => ?_, h.processed⟩
    by_contra hnone
    have hstill := h.unprocessed (by rw [htype]; decide) (Option.not_isSome_iff_eq_none.1 hnone)
    rw [hstill] at hsome
    cases hsome
  marked _ := h.marked

lemma Polled.idle {row row' : OutboxRow} (h : Polled row row') : Idle row row' := by
  have hevent : row'.toOutboxEvent = row.toOutboxEvent := by rw [← h.event]
  have hprocessed : row'.processedAt = row.processedAt := by rw [← h.event]
  have hstatus : row'.status = row.status := by rw [← h.event]
  refine ⟨hevent, fun _ => ?_, fun _ hdone => .inl ?_⟩
  · rw [hprocessed]
  · rw [← hstatus]; exact hdone

lemma EachRow.unevaluated {s t : OutboxState} (h : EachRow Idle s t)
    (hflags : t.fraudFlags = s.fraudFlags) : Unevaluated s t where
  rows := h.rows
  fresh id row hrow hnone := ⟨(h.fresh id row hrow hnone).1, (h.fresh id row hrow hnone).2.1⟩
  fraudFlags := hflags

lemma Steady.unevaluated {id : Nat} {s t : OutboxState} (h : Steady id s t)
    (hother : ∀ row, s.rows[id]? = some row → row.eventType ≠ "fraud.evaluate") :
    Unevaluated s t where
  rows j row hrow := by
    by_cases hj : j = id
    · subst hj
      have hlt : j < t.rows.length := h.length ▸ Table.lt_of_getElem? hrow
      have hrow' : t.rows[j]? = some t.rows[j] := List.getElem?_eq_getElem hlt
      exact ⟨_, hrow', h.event row _ hrow hrow', fun htype => absurd htype (hother row hrow),
        fun htype => absurd htype (hother row hrow)⟩
    · exact ⟨row, (h.rows j hj).trans hrow, .refl row⟩
  fresh j row hrow hnone := by
    have hlt := Table.lt_of_getElem? hrow
    rw [List.getElem?_eq_none_iff] at hnone
    rw [h.length] at hlt
    omega
  fraudFlags := h.fraudFlags

lemma Unevaluated.refl (s : OutboxState) : Unevaluated s s :=
  ⟨fun _ row hrow => ⟨row, hrow, .refl row⟩, fun _ _ h h' => (by rw [h] at h'; cases h'), rfl⟩

lemma Unevaluated.eventsKept {s t : OutboxState} (h : Unevaluated s t) : EventsKept s t := by
  intro id row hrow
  obtain ⟨row', hrow', hidle⟩ := h.rows id row hrow
  exact ⟨row', hrow', hidle.event⟩

lemma Evaluated.eventsKept {ctx : WorkerContext} {e : Evaluation} {s t : OutboxState}
    (h : Evaluated ctx e s t) : EventsKept s t := by
  intro j r hr
  obtain ⟨row, _, hrow, _, _, _, _, _, hrow'⟩ := h.completed
  by_cases hj : j = e.id
  · subst hj
    obtain rfl : row = r := Option.some.inj (hrow.symm.trans hr)
    exact ⟨_, hrow', rfl⟩
  · exact ⟨r, (h.others j hj).trans hr, rfl⟩

lemma fraudContract_eventsKept {ctx : WorkerContext} {s t : OutboxState × List Evaluation}
    (h : (fraudContract ctx).guarantee s t) : EventsKept s.1 t.1 := by
  rcases h with ⟨_, h⟩ | ⟨e, _, h⟩
  · exact h.eventsKept
  · exact h.eventsKept

lemma permits_idle (ctx : WorkerContext) {R : OutboxRow → OutboxRow → Prop} (hR : ∀ row, R row row)
    (hidle : ∀ row row', R row row' → Idle row row') :
    Permits (fraudContract ctx) R fun _ => True :=
  ⟨hR, fun _ _ _ _ => trivial, fun _ _ _ _ h hflags => .inl
    ⟨rfl, (h.mono hidle).unevaluated hflags⟩,
    fun _ _ _ _ _ _ => trivial⟩

/-- An event whose type meets a condition. -/
def Typed (id : Nat) (p : String → Prop) (s : OutboxState) : Prop :=
  ∃ row, s.rows[id]? = some row ∧ p row.eventType

lemma Typed.kept {id : Nat} {p : String → Prop} {s t : OutboxState} (h : Typed id p s)
    (hkept : EventsKept s t) : Typed id p t := by
  obtain ⟨row, hrow, hp⟩ := h
  obtain ⟨row', hrow', heq⟩ := hkept id row hrow
  exact ⟨row', hrow', (congrArg OutboxEvent.eventType heq) ▸ hp⟩

lemma typed_stable (ctx : WorkerContext) (id : Nat) (p : String → Prop) :
    (fraudContract ctx).Stable fun s => Typed id p s.1 :=
  fun _ _ hs hrely => hs.kept hrely

lemma attends_other (ctx : WorkerContext) (id : Nat) :
    Attends (fraudContract ctx) id (Typed id (· ≠ "fraud.evaluate")) where
  stable := typed_stable ctx id _
  free s t g hs h := by
    refine .inl ⟨rfl, h.unevaluated fun row hrow => ?_⟩
    obtain ⟨row₁, hrow₁, hother⟩ := hs
    obtain rfl : row₁ = row := Option.some.inj (hrow₁.symm.trans hrow)
    exact hother
  keeps s t hs h _ := by
    obtain ⟨row, hrow, hother⟩ := hs
    have hlt : id < t.rows.length := h.length ▸ Table.lt_of_getElem? hrow
    have hrow' : t.rows[id]? = some t.rows[id] := List.getElem?_eq_getElem hlt
    exact ⟨_, hrow', (congrArg OutboxEvent.eventType (h.event row _ hrow hrow')) ▸ hother⟩

/-- **The evaluation**: the event is completed and its findings are recorded, or nothing is. -/
lemma processFraudEvaluationEvent_evaluates (ctx : WorkerContext) (id : Nat) :
    Triple (fraudContract ctx) (fun s => Typed id (· = "fraud.evaluate") s.1)
      (processFraudEvaluationEvent ctx id) fun _ _ => True := by
  apply triple_attempt (typed_stable ctx id _)
  intro s env hs _
  have hsame : ∀ r : Except JobError Unit, ∃ g, (fraudContract ctx).guarantee s (s.1, g) ∧ True :=
    fun _ => ⟨s.2, .inl ⟨rfl, .refl s.1⟩, trivial⟩
  obtain ⟨row, hrow, htype⟩ := hs
  have hlt := Table.lt_of_getElem? hrow
  cases env.failure with
  | some e => exact hsame (.ok ())
  | none =>
  simp only [hrow]
  split
  · exact hsame (.ok ())
  rename_i hopen
  rw [not_or, Option.not_isSome_iff_eq_none] at hopen
  split
  · exact hsame (.ok ())
  rename_i findings hfindings
  refine ⟨s.2 ++ [⟨id, row.tenantId, env.now, findings⟩], .inr ⟨_, rfl, ?_⟩, trivial⟩
  refine ⟨⟨row, env.reads, hrow, htype, hopen.1, hopen.2, rfl, hfindings, ?_⟩, ?_, rfl⟩
  · exact List.getElem?_set_self hlt
  · exact fun j hj => List.getElem?_set_ne (Ne.symm hj)

lemma updateEvent_idle (ctx : WorkerContext) (id : Nat) {f : Int → OutboxRow → OutboxRow}
    (hf : ∀ now row, (f now row).toOutboxEvent = row.toOutboxEvent ∧
      (f now row).processedAt = row.processedAt ∧ (f now row).status ≠ .COMPLETED) :
    Triple (fraudContract ctx) (fun s => Typed id (· = "fraud.evaluate") s.1)
      (updateEvent id f) fun _ s => Typed id (· = "fraud.evaluate") s.1 := by
  have hidle : ∀ now row, Idle row { f now row with updatedAt := now } := by
    intro now row
    obtain ⟨hevent, hprocessed, hstatus⟩ := hf now row
    refine ⟨hevent, fun _ => ?_, fun _ hdone => absurd hdone hstatus⟩
    simp only [hprocessed]
  apply triple_attempt (typed_stable ctx id _)
  intro s env hs _
  suffices hrows : ∀ t : OutboxState, EachRow Idle s.1 t → t.fraudFlags = s.1.fraudFlags →
      ∃ g, (fraudContract ctx).guarantee s (t, g) ∧ Typed id (· = "fraud.evaluate") t by
    obtain ⟨row, hrow, _⟩ := hs
    cases env.failure with
    | some e => exact hrows s.1 (.refl Idle.refl s.1) rfl
    | none =>
        simp only [hrow]
        exact hrows _ (.set Idle.refl hrow (hidle env.now row)) rfl
  intro t ht hflags
  have hun := ht.unevaluated hflags
  exact ⟨s.2, .inl ⟨rfl, hun⟩, hs.kept hun.eventsKept⟩

/-- **A job.** -/
theorem handleJob_evaluates (ctx : WorkerContext) (id : Nat) :
    Triple (fraudContract ctx) (fun _ => True) (handleJob ctx id) fun _ _ => True := by
  refine Triple.bind (findEvent_triple id fun s g => .inl ⟨rfl, .refl s⟩) (fun found => ?_)
    fun _ _ _ => trivial
  cases found with
  | none => exact triple_done fun _ _ => trivial
  | some row =>
  simp only
  split
  · exact triple_done fun _ _ => trivial
  by_cases htype : row.eventType = "fraud.evaluate"
  · have hmark := updateEvent_idle ctx id (f := fun now r =>
      { r with status := .PUBLISHED, publishedAt := some (row.publishedAt.getD now) })
      fun _ _ => ⟨rfl, rfl, by simp⟩
    have hjob : Triple (fraudContract ctx) (fun s => Typed id (· = "fraud.evaluate") s.1)
        (handleEvent ctx id row) fun _ _ => True := by
      unfold handleEvent
      simp only [htype, if_true]
      exact hmark.bind (fun _ => processFraudEvaluationEvent_evaluates ctx id) fun _ _ _ => trivial
    exact hjob.consequence (fun s hs => ⟨row, hs row rfl, htype⟩) fun _ _ h => h
  · have hattends := attends_other ctx id
    refine (hattends.handleEvent ctx row fun h => absurd h htype).consequence (fun s hs => ?_)
      fun _ _ h => h
    exact ⟨row, hs row rfl, htype⟩

/-! ### Runs -/

/-- The evaluations so far: each of another event, all of them of processed events, and their
findings are the flags. -/
structure Recorded (ctx : WorkerContext) (s : OutboxState) (evaluations : List Evaluation) :
    Prop where
  once : (evaluations.map (·.id)).Nodup
  processed : ∀ id, id ∈ evaluations.map (·.id) ↔
    ∃ row, s.rows[id]? = some row ∧ row.eventType = "fraud.evaluate" ∧ row.processedAt.isSome
  completed : ∀ (id : Nat) row, s.rows[id]? = some row → row.eventType = "fraud.evaluate" →
    row.status = .COMPLETED → row.processedAt.isSome
  evaluated : ∀ e ∈ evaluations, ∃ row reads, s.rows[e.id]? = some row ∧
    row.tenantId = e.tenantId ∧ evaluateFraudForOutboxEvent ctx.fraud reads e.now
      row.toOutboxEvent (normalizeJsonPayload row.payload) = .ok e.findings
  fraudFlags : s.fraudFlags = flagged evaluations

lemma Recorded.noEvents (ctx : WorkerContext) : Recorded ctx noEvents [] where
  once := List.nodup_nil
  processed id := by simp [OutboxWorkerRuntime.noEvents]
  completed id row hrow := by simp [OutboxWorkerRuntime.noEvents] at hrow
  evaluated e he := by cases he
  fraudFlags := rfl

section
variable {ctx : WorkerContext} {s t : OutboxState} {evaluations : List Evaluation}

lemma Recorded.kept (h : Recorded ctx s evaluations) (hst : EventsKept s t) :
    ∀ e ∈ evaluations, ∃ row reads, t.rows[e.id]? = some row ∧ row.tenantId = e.tenantId ∧
      evaluateFraudForOutboxEvent ctx.fraud reads e.now row.toOutboxEvent
        (normalizeJsonPayload row.payload) = .ok e.findings := by
  intro e he
  obtain ⟨row, reads, hrow, htenant, hfindings⟩ := h.evaluated e he
  obtain ⟨row', hrow', hevent⟩ := hst e.id row hrow
  refine ⟨row', reads, hrow', (congrArg OutboxEvent.tenantId hevent).trans htenant, ?_⟩
  rw [hevent]
  exact hfindings

lemma Recorded.idle (h : Recorded ctx s evaluations) (hst : Unevaluated s t) :
    Recorded ctx t evaluations where
  once := h.once
  processed id := by
    rw [h.processed id]
    constructor
    · rintro ⟨row, hrow, htype, hsome⟩
      obtain ⟨row', hrow', hidle⟩ := hst.rows id row hrow
      exact ⟨row', hrow', (congrArg OutboxEvent.eventType hidle.event).trans htype,
        (hidle.processed htype).2 hsome⟩
    · rintro ⟨row', hrow', htype, hsome⟩
      cases hrow : s.rows[id]? with
      | none =>
          obtain ⟨_, hnone⟩ := hst.fresh id row' hrow' hrow
          simp [hnone] at hsome
      | some row =>
          obtain ⟨row₁, hrow₁, hidle⟩ := hst.rows id row hrow
          obtain rfl : row₁ = row' := Option.some.inj (hrow₁.symm.trans hrow')
          have htype' : row.eventType = "fraud.evaluate" :=
            (congrArg OutboxEvent.eventType hidle.event).symm.trans htype
          exact ⟨row, rfl, htype', (hidle.processed htype').1 hsome⟩
  completed id row' hrow' htype hdone := by
    cases hrow : s.rows[id]? with
    | none =>
        obtain ⟨hpending, _⟩ := hst.fresh id row' hrow' hrow
        rw [hpending] at hdone
        cases hdone
    | some row =>
        obtain ⟨row₁, hrow₁, hidle⟩ := hst.rows id row hrow
        obtain rfl : row₁ = row' := Option.some.inj (hrow₁.symm.trans hrow')
        have htype' : row.eventType = "fraud.evaluate" :=
          (congrArg OutboxEvent.eventType hidle.event).symm.trans htype
        rcases hidle.marked htype' hdone with hold | hsome
        · exact (hidle.processed htype').2 (h.completed id row hrow htype' hold)
        · exact hsome
  evaluated := h.kept hst.eventsKept
  fraudFlags := hst.fraudFlags.trans h.fraudFlags

lemma Recorded.evaluate (h : Recorded ctx s evaluations) {e : Evaluation}
    (hst : Evaluated ctx e s t) : Recorded ctx t (evaluations ++ [e]) := by
  obtain ⟨row, reads, hrow, htype, hopen, hstatus, htenant, hfindings, hrow'⟩ := hst.completed
  have hnew : e.id ∉ evaluations.map (·.id) := by
    rw [h.processed]
    rintro ⟨r, hr, _, hsome⟩
    obtain rfl : row = r := Option.some.inj (hrow.symm.trans hr)
    simp [hopen] at hsome
  refine ⟨?_, fun id => ?_, fun id r hr hr_type hdone => ?_, fun e' he' => ?_, ?_⟩
  · rw [List.map_append, List.nodup_append]
    refine ⟨h.once, by simp, fun a ha b hb heq => hnew ?_⟩
    obtain rfl : b = e.id := by simpa using hb
    exact heq ▸ ha
  · by_cases hid : id = e.id
    · subst hid
      have hmem : e.id ∈ (evaluations ++ [e]).map (·.id) := by simp
      exact iff_of_true hmem ⟨_, hrow', htype, rfl⟩
    · rw [hst.others id hid, ← h.processed id]
      simp [hid]
  · by_cases hid : id = e.id
    · subst hid
      obtain rfl := Option.some.inj (hrow'.symm.trans hr)
      rfl
    · rw [hst.others id hid] at hr
      exact h.completed id r hr hr_type hdone
  · rcases List.mem_append.1 he' with he' | he'
    · exact h.kept hst.eventsKept e' he'
    · obtain rfl := List.mem_singleton.1 he'
      exact ⟨_, reads, hrow', htenant, hfindings⟩
  · rw [hst.fraudFlags, h.fraudFlags, flagged_append]

end

lemma fraud_fits (ctx : WorkerContext) :
    Pool.Fits (program ctx) (fun _ _ => fraudContract ctx) (fun _ _ => True) (fun _ _ => True)
      fun s => Recorded ctx s.1 s.2 where
  closed _ _ := by
    refine ⟨fun s id row hrow => ⟨row, hrow, rfl⟩, fun s t u h h' id row hrow => ?_⟩
    obtain ⟨row₁, hrow₁, heq₁⟩ := h id row hrow
    obtain ⟨row₂, hrow₂, heq₂⟩ := h' id row₁ hrow₁
    exact ⟨row₂, hrow₂, heq₂.trans heq₁⟩
  compatible _ _ _ _ _ _ _ _ _ hguar := fraudContract_eventsKept hguar
  good _ _ s t hs hguar := by
    rcases hguar with ⟨heq, h⟩ | ⟨e, heq, h⟩
    · rw [heq]; exact hs.idle h
    · rw [heq]; exact hs.evaluate h
  admits _ _ _ _ _ _ := trivial
  program n k s _ := by
    cases k with
    | handleJob id => exact handleJob_evaluates ctx id s trivial
    | insertOutboxEvent new =>
        have hpermits :=
          permits_idle ctx (R := (· = ·)) (fun _ => rfl) fun row row' h => h ▸ .refl row
        exact insertOutboxEvent_rows new hpermits s trivial
    | recoverAndPublishOnce =>
        exact recoverAndPublishOnce_rows ctx
          (permits_idle ctx Recovered.refl fun _ _ h => h.idle) s trivial
    | pollDeliveryReports =>
        exact pollDeliveryReports_rows ctx (permits_idle ctx Polled.refl fun _ _ h => h.idle) s
          trivial

/-- The tasks keep their contracts, and these are the evaluations so far. -/
def Counted (ctx : WorkerContext) (w : Workers) (evaluations : List Evaluation) : Prop :=
  w.Kept (fun _ _ => fraudContract ctx) (fun _ _ _ _ => True) (fun _ _ _ => True)
    (fun _ _ => True) (fun _ _ => True) (fun s => Recorded ctx s.1 s.2) evaluations

lemma counted_initial (ctx : WorkerContext) : Counted ctx (Pool.initial noEvents) [] :=
  Pool.initial_kept (.noEvents ctx) fun _ => trivial

section
variable {ctx : WorkerContext} {w w' : Workers} {evaluations : List Evaluation}

lemma undisciplined (u : Workers) (event : PoolEvent Task Surroundings) :
    Pool.Discipline.Follows
      ⟨fun _ _ => True, fun _ _ => True, fun _ _ _ => True, fun _ _ => True⟩ u event :=
  ⟨fun _ _ => ⟨fun _ _ _ => ⟨trivial, trivial⟩, trivial⟩, fun _ _ _ _ _ => trivial,
    fun _ _ _ _ => trivial⟩

lemma Counted.run (h : Counted ctx w evaluations) (hrun : Run ctx w w') :
    ∃ more, Counted ctx w' (evaluations ++ more) := by
  have hgrows : ∀ (n : Nat) (k : Task) s t, Recorded ctx s.1 s.2 →
      (fraudContract ctx).guarantee s t → s.2 <+: t.2 := by
    rintro n k s t _ (⟨heq, _⟩ | ⟨e, heq, _⟩)
    · rw [heq]
    · rw [heq]; exact List.prefix_append s.2 [e]
  obtain ⟨g, hkept, more, rfl⟩ := Pool.run_kept (fraud_fits ctx).accord
    (fun u event _ => undisciplined u event) (fun s => List.prefix_refl s.2)
    (fun _ _ _ h h' => h.trans h') hgrows h hrun
  exact ⟨more, hkept⟩

lemma Counted.step (h : Counted ctx w evaluations) {event : PoolEvent Task Surroundings}
    (hstep : w.step (program ctx) event = some w') :
    Unevaluated w.state w'.state ∨ ∃ e, Evaluated ctx e w.state w'.state := by
  obtain ⟨g, _, hmove⟩ := Pool.step_kept (fraud_fits ctx).accord h (undisciplined w event) hstep
  rcases hmove with ⟨heq, _⟩ | ⟨_, _, _, _, ⟨_, hun⟩ | ⟨e, _, hev⟩⟩
  · have hsame : w'.state = w.state := congrArg Prod.fst heq
    exact .inl (hsame ▸ .refl w.state)
  · exact .inl hun
  · exact .inr ⟨e, hev⟩

end

/-- What the events do to the flags, in every run. -/
structure TakesEffectOnce (ctx : WorkerContext) : Prop where
  /-- Flags count the processed events that found their keys, each once and for good. -/
  counts : ∀ {w : Workers}, Run ctx (Pool.initial noEvents) w → ∃ evaluations,
    Recorded ctx w.state evaluations ∧
    (∀ tenantId key, occurrences tenantId key w.state.fraudFlags =
      evaluations.countP (Evaluation.Finds tenantId key)) ∧
    ∀ w', Run ctx w w' → ∃ more, Recorded ctx w'.state (evaluations ++ more)
  /-- A step that writes flags, or processes an event, does both for one event. -/
  together : ∀ {w w' : Workers} {event : PoolEvent Task Surroundings},
    Run ctx (Pool.initial noEvents) w → w.step (program ctx) event = some w' →
    Unevaluated w.state w'.state ∨ ∃ e, Evaluated ctx e w.state w'.state
  /-- An event that was evaluated is not evaluated again. -/
  once : ∀ {u u' w w' : Workers} {event event' : PoolEvent Task Surroundings} {e e' : Evaluation},
    Run ctx (Pool.initial noEvents) u → u.step (program ctx) event = some u' →
    Evaluated ctx e u.state u'.state → Run ctx u' w → w.step (program ctx) event' = some w' →
    Evaluated ctx e' w.state w'.state → e'.id ≠ e.id

/-- **Fraud events take effect once.** -/
theorem fraud_events_take_effect_once (ctx : WorkerContext) : TakesEffectOnce ctx where
  counts {w} hrun := by
    obtain ⟨evaluations, hcounted⟩ := (counted_initial ctx).run hrun
    rw [List.nil_append] at hcounted
    have hrecorded : Recorded ctx w.state evaluations := hcounted.good
    refine ⟨evaluations, hrecorded, fun tenantId key => ?_, fun w' hmore => ?_⟩
    · rw [hrecorded.fraudFlags]
      apply occurrences_flagged
      intro e he
      obtain ⟨_, _, _, _, hfindings⟩ := hrecorded.evaluated e he
      exact evaluateFraudForOutboxEvent_nodup hfindings
    · obtain ⟨more, hmore⟩ := hcounted.run hmore
      exact ⟨more, hmore.good⟩
  together hrun hstep := by
    obtain ⟨_, hcounted⟩ := (counted_initial ctx).run hrun
    exact hcounted.step hstep
  once {u u' w w' event event' e e'} hrun hstep hfirst hbetween _ hthen heq := by
    have hrun' : Run ctx (Pool.initial noEvents) u' := hrun.tail trivial hstep
    obtain ⟨evaluations, hcounted⟩ := (counted_initial ctx).run hrun'
    obtain ⟨more, hcounted'⟩ := hcounted.run hbetween
    obtain ⟨_, _, _, htype, _, _, _, _, hdone⟩ := hfirst.completed
    have hmem : e.id ∈ (([] ++ evaluations) ++ more).map Evaluation.id := by
      rw [List.map_append]
      exact List.mem_append_left _ ((hcounted.good.processed e.id).2 ⟨_, hdone, htype, rfl⟩)
    obtain ⟨row, hrow, _, hsome⟩ := (hcounted'.good.processed e.id).1 hmem
    obtain ⟨row', _, hrow', _, hopen, _⟩ := hthen.completed
    rw [heq] at hrow'
    obtain rfl : row = row' := Option.some.inj (hrow.symm.trans hrow')
    simp [hopen] at hsome

end OutboxWorkerRuntime

end ShopcityLoyalty
