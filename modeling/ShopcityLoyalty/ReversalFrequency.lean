import ShopcityLoyalty.FraudFlags
import ShopcityLoyalty.TransactionWrites

/-!
The reversal frequency rule, over runs of the shop and of the workers that evaluate its events.

The event of a reversal names no member of staff, so the worker counts the reversals of the
ledger entry that the event is about. Every flag of the rule names such an entry.
-/

namespace ShopcityLoyalty

open Txn Database OutboxWorkerRuntime

/-- The shop, and what the workers have made of its events. -/
structure FraudSystem where
  shop : System
  /-- The events evaluated so far. -/
  processed : List Nat
  flags : Table FraudFlag

/-- The reversing entries that somebody created in a half-open window. The database sets
`createdAt` on its own. -/
def reversalsCreated (createdAt : Nat → Int) (db : Database) (tenantId createdBy : String)
    (windowStart windowEnd : Int) : List (Nat × LoyaltyLedgerEntry) :=
  (db.ledger.select fun e => e.tenantId = tenantId ∧ e.createdBy.id = createdBy ∧
    e.reversesEntryId ≠ none).filter fun e =>
      windowStart ≤ createdAt e.1 ∧ createdAt e.1 < windowEnd

inductive FraudOp
  | operate (op : Op)
  /-- Another service announces something of its own. -/
  | announce (event : OutboxEvent)
  /-- A worker evaluates an event; the reversals are counted, the other answers arbitrary. -/
  | evaluate (eventId : Nat) (reads : FraudReads) (now : Int)

namespace FraudSystem

/-- What an evaluation reads about reversals is what the ledger holds. -/
def reading (createdAt : Nat → Int) (s : FraudSystem) (reads : FraudReads) : FraudReads :=
  { reads with
    reversals := fun tenantId createdBy windowStart windowEnd =>
      (reversalsCreated createdAt s.shop.db tenantId createdBy windowStart windowEnd).length }

def evaluate (rt : FraudRuntime) (createdAt : Nat → Int) (s : FraudSystem) (eventId : Nat)
    (reads : FraudReads) (now : Int) : Option FraudSystem :=
  if eventId ∈ s.processed then none
  else
    s.shop.db.outbox[eventId]?.bind fun event =>
      match evaluateFraudForOutboxEvent rt (s.reading createdAt reads) now event
          (normalizeJsonPayload event.payload) with
      | .error _ => none
      | .ok findings => some
          { s with
            processed := eventId :: s.processed
            flags := recordFraudFindings event.tenantId findings now s.flags }

/-- Only the reversals announce reversals. -/
def announce (s : FraudSystem) (event : OutboxEvent) : Option FraudSystem :=
  if event.aggregateType = "reversal" then none
  else some { s with shop.db.outbox := s.shop.db.outbox ++ [event] }

end FraudSystem

inductive FraudStep (rt : FraudRuntime) (createdAt : Nat → Int) :
    FraudOp → FraudSystem → FraudSystem → Prop
  | operate {s shop op} (h : Step rt.toRuntime op s.shop shop) :
      FraudStep rt createdAt (.operate op) s { s with shop }
  | announce {s t event} (h : s.announce event = some t) :
      FraudStep rt createdAt (.announce event) s t
  | evaluate {s t eventId reads now} (h : s.evaluate rt createdAt eventId reads now = some t) :
      FraudStep rt createdAt (.evaluate eventId reads now) s t

def FraudReachable (rt : FraudRuntime) (createdAt : Nat → Int) (s : FraudSystem) : Prop :=
  ∃ registry, Runs (FraudStep rt createdAt) (fun _ _ => True) ⟨.initial registry, [], []⟩ s

/-! ### What the rule promises -/

section promise

variable (rt : FraudRuntime) (createdAt : Nat → Int) (s : FraudSystem) (staff : StaffRef)

/-- The fraud events of a reversal are processed. -/
def handled (entryId : Nat) : Prop :=
  ∀ event ∈ s.shop.db.outbox.select (fun event => event.eventType = "fraud.evaluate" ∧
    event.aggregateType = "reversal" ∧ event.aggregateId = rt.uuid .ledger entryId),
    event.1 ∈ s.processed

instance : DecidablePred (handled rt s) := fun _ => by unfold handled; infer_instance

/-- In some window, at least the threshold of the reversals that the member of staff created
have all their events processed. -/
def Frequent : Prop :=
  ∃ windowStart, FraudBehaviorRuntime.reversalCountThreshold rt ≤
    ((reversalsCreated createdAt s.shop.db staff.tenantId staff.id windowStart
      (windowStart + hoursMs 24)).filter fun e => handled rt s e.1).length

/-- Every window has fewer reversals of the member of staff. -/
def Fewer : Prop :=
  ∀ windowStart, (reversalsCreated createdAt s.shop.db staff.tenantId staff.id windowStart
    (windowStart + hoursMs 24)).length < FraudBehaviorRuntime.reversalCountThreshold rt

def FlaggedFor : Prop :=
  ∃ flag ∈ s.flags, flag.ruleCode = .FR_REV_001 ∧ flag.tenantId = staff.tenantId ∧
    flag.cashierId = some staff.id

/-- The rule flags those who reverse often, and nobody who does not. -/
structure FrequencyRuleEffective : Prop where
  flagged : Frequent rt createdAt s staff → FlaggedFor s staff
  spared : Fewer rt createdAt s staff → ¬ FlaggedFor s staff

end promise

/-! ### The events of reversals -/

variable {rt : FraudRuntime} {createdAt : Nat → Int}

/-- The event is about a ledger entry, and names no member of staff. -/
structure NamesEntry (rt : Runtime) (event : OutboxEvent) : Prop where
  entry : ∃ i, event.aggregateId = rt.uuid .ledger i
  actorId : textField (normalizeJsonPayload event.payload) "actorId" = none
  cashierId : textField (normalizeJsonPayload event.payload) "cashierId" = none

/-- Every reversal announced is announced without its author. -/
def AnonymousReversals (rt : Runtime) (db : Database) : Prop :=
  ∀ event ∈ db.outbox, event.aggregateType = "reversal" → NamesEntry rt event

lemma ReversalsService.reversedEvent_namesEntry (rt : Runtime) (tenantId : String) (i j : Nat)
    (receiptId : Option Nat) (occurredAt : Int) :
    NamesEntry rt (reversedEvent rt tenantId i j receiptId occurredAt) :=
  ⟨⟨i, rfl⟩, rfl, rfl⟩

lemma AnonymousReversals.append {rt : Runtime} {db : Database} {event : OutboxEvent}
    (h : AnonymousReversals rt db)
    (hevent : event.aggregateType = "reversal" → NamesEntry rt event) :
    AnonymousReversals rt { db with outbox := db.outbox ++ [event] } := by
  intro e he
  rcases List.mem_append.1 he with hold | hnew
  · exact h e hold
  · obtain rfl := List.mem_singleton.1 hnew
    exact hevent

/-- A transaction keeps what is known of the reversals announced. -/
def KeepsAnonymous (rt : Runtime) (s t : Database) : Prop :=
  AnonymousReversals rt s → AnonymousReversals rt t

instance (rt : Runtime) : Std.Refl (KeepsAnonymous rt) := ⟨fun _ h => h⟩

instance (rt : Runtime) : IsTrans Database (KeepsAnonymous rt) where
  trans _ _ _ h h' hs := h' (h hs)

lemma keepsAnonymous_writes (rt : Runtime) : Writes rt (KeepsAnonymous rt) fun _ => True where
  rows s t _ houtbox _ h := by
    unfold AnonymousReversals
    rw [houtbox]
    exact h
  audit _ _ _ h := h
  event _ e hne h := h.append fun heq => absurd heq hne
  reversal _ tenantId i j receiptId occurredAt h :=
    h.append fun _ => ReversalsService.reversedEvent_namesEntry rt tenantId i j receiptId occurredAt
  faults _ _ := trivial

lemma keepsAnonymous_insertCreditLot (rt : Runtime) (tenantId customerId : String) (i : Nat)
    (k : PositiveKobo) (earnedAt expiresAt : Int) :
    Within (KeepsAnonymous rt) (fun _ => True)
      (insertCreditLot tenantId customerId i k earnedAt expiresAt) := by
  unfold insertCreditLot
  exact Within.bind within_get fun _ => Within.bind (within_orFault fun _ => trivial) fun _ =>
    Within.bind (within_rejectIf fun _ => trivial) fun _ =>
    Within.bind (within_rejectIf fun _ => trivial) fun _ =>
    Within.bind (within_update fun _ h => h) fun _ => within_pure _

lemma Step.keepsAnonymous {rt : Runtime} {op : Op} {s t : System} (h : Step rt op s t) :
    KeepsAnonymous rt s.db t.db :=
  (keepsAnonymous_writes rt).run (keepsAnonymous_insertCreditLot rt)
    (fun _ _ _ _ _ _ _ => within_update fun _ h => h) h.runs

/-! ### The flags of the rule -/

/-- Every flag of the rule names a ledger entry in the place of the cashier. -/
def FlagsNameEntries (rt : Runtime) (flags : Table FraudFlag) : Prop :=
  ∀ flag ∈ flags, flag.ruleCode = .FR_REV_001 → ∃ i, flag.cashierId = some (rt.uuid .ledger i)

lemma mem_recordFraudFindings {tenantId : String} {now : Int} {findings : List FraudFinding}
    {flags : Table FraudFlag} {flag : FraudFlag}
    (h : flag ∈ recordFraudFindings tenantId findings now flags) :
    flag ∈ flags ∨ flag.toFraudFinding ∈ findings := by
  unfold recordFraudFindings at h
  induction findings generalizing flags with
  | nil => exact .inl h
  | cons finding findings ih =>
      rcases ih h with hfirst | hrest
      · unfold upsertFlag at hfirst
        split at hfirst
        · rcases List.mem_or_eq_of_mem_set hfirst with hold | rfl
          · exact .inl hold
          · exact .inr List.mem_cons_self
        · rcases List.mem_append.1 hfirst with hold | hnew
          · exact .inl hold
          · obtain rfl := List.mem_singleton.1 hnew
            exact .inr List.mem_cons_self
      · exact .inr (.tail _ hrest)

/-- **What the rule finds** about an announced reversal names the entry, not its author. -/
lemma finding_names_entry {reads : FraudReads} {now : Int} {event : OutboxEvent}
    {findings : List FraudFinding}
    (hevent : event.aggregateType = "reversal" → NamesEntry rt.toRuntime event)
    (h : evaluateFraudForOutboxEvent rt reads now event (normalizeJsonPayload event.payload) =
      .ok findings) :
    ∀ f ∈ findings, f.ruleCode = .FR_REV_001 → ∃ i, f.cashierId = some (rt.uuid .ledger i) := by
  intro f hf hcode
  rcases evaluateFraudForOutboxEvent_found h with ⟨codes, -, hnot, hfound⟩ | ⟨htype, rfl⟩
  · have hmem : f.ruleCode ∈ codes := hfound.rules.subset (List.mem_map_of_mem hf)
    rw [hcode] at hmem
    exact absurd hmem hnot
  · obtain ⟨⟨i, hid⟩, hactor, hcashier⟩ := hevent htype
    unfold FraudBehaviorRuntime.evaluateReversalBehavior
      FraudBehaviorRuntime.evaluateReversalFrequency at hf
    simp only at hf
    split at hf
    · cases hf
    · obtain rfl := List.mem_singleton.1 hf
      refine ⟨i, ?_⟩
      simp [hactor, hcashier, hid]

/-! ### Runs -/

/-- What every run keeps. -/
structure Unnamed (rt : Runtime) (s : FraudSystem) : Prop where
  reversals : AnonymousReversals rt s.shop.db
  flags : FlagsNameEntries rt s.flags

lemma FraudStep.unnamed {op : FraudOp} {s t : FraudSystem} (hs : Unnamed rt.toRuntime s)
    (h : FraudStep rt createdAt op s t) : Unnamed rt.toRuntime t := by
  cases h with
  | operate h => exact ⟨h.keepsAnonymous hs.reversals, hs.flags⟩
  | announce h =>
      unfold FraudSystem.announce at h
      split at h
      · cases h
      · obtain rfl := Option.some.inj h
        exact ⟨hs.reversals.append fun heq => absurd heq ‹_›, hs.flags⟩
  | @evaluate _ _ eventId reads now h =>
      unfold FraudSystem.evaluate at h
      split at h
      · cases h
      · obtain ⟨event, hrow, h⟩ := Option.bind_eq_some_iff.1 h
        split at h
        · cases h
        · rename_i findings hfindings
          obtain rfl := Option.some.inj h
          have hevent := hs.reversals event (List.mem_of_getElem? hrow)
          refine ⟨hs.reversals, fun flag hflag hcode => ?_⟩
          rcases mem_recordFraudFindings hflag with hold | hnew
          · exact hs.flags flag hold hcode
          · exact finding_names_entry hevent hfindings flag.toFraudFinding hnew hcode

lemma FraudReachable.unnamed {s : FraudSystem} (h : FraudReachable rt createdAt s) :
    Unnamed rt.toRuntime s := by
  obtain ⟨registry, hrun⟩ := h
  exact hrun.invariant (fun _ hs hstep => hstep.unnamed hs)
    ⟨fun event he => (by cases he), fun flag hf => (by cases hf)⟩

lemma FraudReachable.not_flaggedFor {s : FraudSystem} (h : FraudReachable rt createdAt s)
    {staff : StaffRef} (hstaff : ∀ i, rt.uuid .ledger i ≠ staff.id) : ¬ FlaggedFor s staff := by
  rintro ⟨flag, hflag, hcode, -, hcashier⟩
  obtain ⟨i, hentry⟩ := h.unnamed.flags flag hflag hcode
  rw [hcashier] at hentry
  exact hstaff i (Option.some.inj hentry).symm

/-- **The reversal frequency rule** keeps its promise exactly to those who do not reverse
often: nobody is ever flagged. The ids of ledger entries are not those of staff. -/
theorem reversal_frequency_effective_iff {s : FraudSystem} (h : FraudReachable rt createdAt s)
    {staff : StaffRef} (hstaff : ∀ i, rt.uuid .ledger i ≠ staff.id) :
    FrequencyRuleEffective rt createdAt s staff ↔ ¬ Frequent rt createdAt s staff := by
  have hnot := h.not_flaggedFor hstaff
  constructor
  · intro heffective hfrequent
    exact hnot (heffective.flagged hfrequent)
  · intro hrare
    exact ⟨fun hfrequent => absurd hfrequent hrare, fun _ => hnot⟩

/-! ### Three reversals -/

/-- Three purchases and the reversal of each, by the same supervisor. -/
def Shop.reversals : List Op :=
  [Shop.earn "k1" 9000000, Shop.earn "k2" 9000000, Shop.earn "k3" 9000000, Shop.reverse "r1" 0,
    Shop.reverse "r2" 1, Shop.reverse "r3" 2]

/-- The one instant that the events name is read from its text. -/
def Shop.clockRuntime : FraudRuntime :=
  { Shop.fraudRuntime with
    parse := fun text =>
      if text = Calendar.toISOString Shop.night then some Shop.night else none }

/-- The events of the three reversals are evaluated. -/
def Shop.evaluateReversals (s : FraudSystem) : Option FraudSystem :=
  [6, 8, 10].foldlM
    (fun s i => s.evaluate Shop.clockRuntime (fun _ => Shop.night) i Shop.noReads (Shop.night + 1))
      s

lemma FraudReachable.evaluations {ids : List Nat} {reads : FraudReads} {now : Int}
    {s t : FraudSystem} (hs : FraudReachable rt createdAt s)
    (h : ids.foldlM (fun s i => s.evaluate rt createdAt i reads now) s = some t) :
    FraudReachable rt createdAt t := by
  induction ids generalizing s with
  | nil =>
      obtain rfl : s = t := Option.some.inj h
      exact hs
  | cons i ids ih =>
      rw [List.foldlM_cons] at h
      obtain ⟨u, hu, hrest⟩ := Option.bind_eq_some_iff.1 h
      obtain ⟨registry, hrun⟩ := hs
      exact ih ⟨registry, hrun.tail trivial (.evaluate hu)⟩ hrest

lemma FraudReachable.of_shop {shop : System} (h : Reachable rt.toRuntime shop) :
    FraudReachable rt createdAt ⟨shop, [], []⟩ := by
  obtain ⟨registry, h⟩ := h
  refine ⟨registry, ?_⟩
  induction h with
  | refl => exact .refl _
  | tail _ hlast ih =>
      obtain ⟨op, -, hstep⟩ := hlast
      exact ih.tail trivial (.operate hstep)

lemma Shop.entry_ne_supervisor (i : Nat) :
    Shop.clockRuntime.uuid .ledger i ≠ Shop.supervisor.staff.id := by
  intro h
  have hfirst := congrArg (fun text => text.toList.head?) h
  simp [Shop.clockRuntime, Shop.fraudRuntime, Shop.runtime, Shop.supervisor, AuthContext.staff]
    at hfirst

/-- The supervisor's reversals of that night whose events are processed. -/
def Shop.handledReversals (s : FraudSystem) : Nat :=
  ((reversalsCreated (fun _ => Shop.night) s.shop.db Shop.supervisor.staff.tenantId
    Shop.supervisor.staff.id Shop.night (Shop.night + hoursMs 24)).filter fun e =>
      handled Shop.clockRuntime s e.1).length

lemma Shop.reversals_frequent : ∃ s, FraudReachable Shop.clockRuntime (fun _ => Shop.night) s ∧
    Frequent Shop.clockRuntime (fun _ => Shop.night) s Shop.supervisor.staff := by
  obtain ⟨shop, hrun, hshop⟩ := Reachable.of_runAll Shop.clockRuntime.toRuntime Shop.registry
    Shop.reversals (by decide +kernel)
    (by simp [Shop.reversals, Shop.earn, Shop.reverse, Op.Admissible])
  have hcount : (Shop.evaluateReversals ⟨shop, [], []⟩).map Shop.handledReversals = some 3 :=
    System.of_runAll_map hrun
      (f := fun shop => (Shop.evaluateReversals ⟨shop, [], []⟩).map Shop.handledReversals)
      (by decide +kernel)
  obtain ⟨s, hs, hthree⟩ := Option.map_eq_some_iff.1 hcount
  have hthreshold : FraudBehaviorRuntime.reversalCountThreshold Shop.clockRuntime = 3 := rfl
  refine ⟨s, (FraudReachable.of_shop hshop).evaluations hs, Shop.night, ?_⟩
  rw [hthreshold]
  exact hthree.ge

theorem reversal_frequency_effective_shop : ∃ s,
    FraudReachable Shop.clockRuntime (fun _ => Shop.night) s ∧
      (∀ i, Shop.clockRuntime.uuid .ledger i ≠ Shop.supervisor.staff.id) ∧
      (FrequencyRuleEffective Shop.clockRuntime (fun _ => Shop.night) s Shop.supervisor.staff ↔
        ¬ Frequent Shop.clockRuntime (fun _ => Shop.night) s Shop.supervisor.staff) := by
  obtain ⟨s, hs, -⟩ := Shop.reversals_frequent
  exact ⟨s, hs, Shop.entry_ne_supervisor,
    reversal_frequency_effective_iff hs Shop.entry_ne_supervisor⟩

/-- A supervisor who made three reversals in one window, all of them evaluated, is not flagged. -/
theorem reversal_frequency_ineffective :
    ∃ s, FraudReachable Shop.clockRuntime (fun _ => Shop.night) s ∧
      ¬ FrequencyRuleEffective Shop.clockRuntime (fun _ => Shop.night) s Shop.supervisor.staff := by
  obtain ⟨s, hs, hfrequent⟩ := Shop.reversals_frequent
  refine ⟨s, hs, fun heffective => ?_⟩
  exact hs.not_flaggedFor Shop.entry_ne_supervisor (heffective.flagged hfrequent)

end ShopcityLoyalty
