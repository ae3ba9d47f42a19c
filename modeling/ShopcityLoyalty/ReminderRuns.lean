import ShopcityLoyalty.ExpiryReminders

/-!
The reminders of credit that expires soon, over every interleaving of reminder runs, operations on
the books and crashes.

A reminder is written with its event and its message, once for a customer and a day. Its amount is
what was left of the lots that its transaction has locked, and these are all the lots of the day
unless one was added after the statement that reads them began.
-/

namespace ShopcityLoyalty

open Txn Crew ExpiryReminderService ExpiryReminderService.Place

/-! ### What is claimed of a step -/

/-- At most one reminder for a tenant, a customer and a date. -/
def RemindedOnce (s : ReminderTables) : Prop := (s.reminders.map CreditExpiryReminder.key).Nodup

/-- A customer's lots that expire on the UTC day of an instant. -/
def expiresOn (tenantId customerId : String) (day : Int) (l : CreditLot) : Bool :=
  l.tenantId = tenantId && l.customerId = customerId &&
    l.expiresAt / Calendar.msPerDay = day / Calendar.msPerDay

/-- What is left of them. -/
def expiringKobo (s : ReminderTables) (tenantId customerId : String) (day : Int) : Int :=
  ((s.system.db.lots.filter (expiresOn tenantId customerId day)).map
    (·.remainingAmountKobo)).sum

/-- A reminder is written with its event and its message, or none of them is; an operation writes
no reminder and no message. -/
inductive ReminderRows (w : ReminderTasks) (event : PoolEvent ReminderTask Unit)
    (t : ReminderTables) : Prop
  | operation {n : Nat} {op : Op} {p : Place} (of_operation : event = .advance n ())
      (task : w.At n (.operation op) p) (messages : t.messages = w.state.messages)
      (reminders : t.reminders = w.state.reminders)
  | nothing (h : t = w.state)
  | reminder {e : OutboxEvent} {m : EventMessage} {r : CreditExpiryReminder}
      (system : t.system =
        { w.state.system with db.outbox := w.state.system.db.outbox ++ [e] })
      (messages : t.messages = w.state.messages ++ [m])
      (reminders : t.reminders = w.state.reminders ++ [r])
      (message : m.outboxEventId = w.state.system.db.outbox.nextId ∧ m.tenantId = e.tenantId ∧
        m.payload = e.payload)
      (of_event : r.outboxEventId = w.state.system.db.outbox.nextId ∧ r.tenantId = e.tenantId ∧
        r.customerId = e.aggregateId)

/-- A locked lot is not changed by another task, and not locked by two. -/
structure LocksHeld (rt : Runtime) (w : ReminderTasks) (event : PoolEvent ReminderTask Unit) :
    Prop where
  kept : ∀ n k p q t, event = .advance n () → w.At n k p →
    (tasks rt).next k () p w.state = some (q, t) →
    ∀ m l p', w.At m l p' → m ≠ n → ∀ r ∈ p'.locked,
      t.system.db.lots[r.1]? = w.state.system.db.lots[r.1]?
  free : ∀ n k candidate rest id ids locked result, event = .advance n () →
    w.At n k (locking candidate rest (id :: ids) locked result) →
    ∀ m l p, w.At m l p → ∀ r ∈ p.locked, r.1 ≠ id

/-- A reminder that is about to be written has locked each lot that it is about. -/
def LotsLocked (w : ReminderTasks) (event : PoolEvent ReminderTask Unit) : Prop :=
  ∀ n input candidate rest locked result, event = .advance n () →
    w.At n (.enqueueDueReminders input) (locking candidate rest [] locked result) →
    ∀ (id : Nat) (lot : CreditLot), w.state.system.db.lots[id]? = some lot →
      isDueOf input candidate lot → id ∈ locked.map Prod.fst

/-! ### The day -/

lemma startOfUtcDay_eq (date : Int) :
    startOfUtcDay date = date / Calendar.msPerDay * Calendar.msPerDay := by
  simp [startOfUtcDay, Calendar.join, Calendar.split, Calendar.dayNumber_dateOf]

/-- The window of the statement is the UTC day of the reminder. -/
lemma isDue_iff {input : EnqueueDueRemindersInput} {lot : CreditLot} :
    isDue input lot ↔ 0 < lot.remainingAmountKobo ∧
      lot.expiresAt / Calendar.msPerDay = reminderDate input / Calendar.msPerDay := by
  have hstart : reminderDate input =
      addDaysUtc input.now input.reminderDays / Calendar.msPerDay * Calendar.msPerDay :=
    startOfUtcDay_eq _
  simp only [isDue, Bool.and_eq_true, decide_eq_true_eq]
  simp only [reminderDateEnd]
  rw [hstart]
  generalize addDaysUtc input.now input.reminderDays / Calendar.msPerDay = day
  simp only [addDaysUtc, Calendar.msPerDay]
  omega

variable {rt : Runtime} {input : EnqueueDueRemindersInput} {candidate : ReminderCandidate}
  {revalidated : RevalidatedReminderCandidate} {s t : ReminderTables} {p q : Place}
  {w w' : ReminderTasks} {event : PoolEvent ReminderTask Unit}

lemma isDueOf_iff {lot : CreditLot} :
    isDueOf input candidate lot ↔
      expiresOn candidate.tenantId candidate.customerId (reminderDate input) lot ∧
        0 < lot.remainingAmountKobo := by
  simp only [isDueOf, expiresOn, Bool.and_eq_true, decide_eq_true_eq, isDue_iff]
  tauto

/-! ### One step -/

namespace ExpiryReminderService

lemma revalidate_total {locked : List LockedCreditLot} (h : revalidate locked = some revalidated) :
    revalidated.totalExpiringKobo = (locked.map (·.2.remainingAmountKobo)).sum := by
  cases locked with
  | nil => cases h
  | cons first rest =>
      obtain rfl := Option.some.inj h
      rfl

/-- A reminder of a candidate, under the event it was written with. -/
structure IsReminder (input : EnqueueDueRemindersInput) (candidate : ReminderCandidate)
    (revalidated : RevalidatedReminderCandidate) (outboxEventId : Nat) (r : CreditExpiryReminder) :
    Prop where
  key : r.key = (candidate.tenantId, candidate.customerId, reminderDate input)
  totalExpiringKobo : (r.totalExpiringKobo : Int) = revalidated.totalExpiringKobo
  outboxEventId : r.outboxEventId = outboxEventId

lemma reminder?_some {i : Nat} {r : CreditExpiryReminder}
    (h : reminder? input candidate revalidated i = some r) :
    IsReminder input candidate revalidated i r := by
  unfold reminder? at h
  split at h
  · obtain rfl := Option.some.inj h
    exact ⟨rfl, rfl, rfl⟩
  · cases h

/-- **What the three inserts leave**, where they are committed. -/
structure ReminderCreated (input : EnqueueDueRemindersInput) (candidate : ReminderCandidate)
    (revalidated : RevalidatedReminderCandidate) (s t : ReminderTables) (r : CreditExpiryReminder) :
    Prop where
  reminder : IsReminder input candidate revalidated s.system.db.outbox.nextId r
  new : ∀ x ∈ s.reminders, x.key ≠ r.key
  system : t.system = { s.system with
    db.outbox := s.system.db.outbox ++
      [reminderEvent candidate (reminderPayload candidate revalidated)] }
  messages : t.messages = s.messages ++ [reminderMessage input candidate
    (reminderPayload candidate revalidated) s.system.db.outbox.nextId]
  reminders : t.reminders = s.reminders ++ [r]

lemma createReminder_ok {u : Unit} (h : createReminder input candidate revalidated s = .ok (u, t)) :
    ∃ r, ReminderCreated input candidate revalidated s t r := by
  simp only [createReminder, ExpiryReminderService.insertOutboxEvent, insertSmsMessage,
    insertReminder, bind_ok, get_ok, update_ok, pure_ok, rejectIf_ok, orFault_ok] at h
  obtain ⟨i, s₁, ⟨_, _, ⟨rfl, rfl⟩, _, _, rfl, rfl, rfl⟩, _, s₂,
    ⟨_, _, ⟨rfl, rfl⟩, _, _, ⟨-, rfl⟩, rfl⟩, r, _, ⟨hr, rfl⟩, _, _, ⟨rfl, rfl⟩, _, _, ⟨hnew, rfl⟩,
    _, _, ⟨-, rfl⟩, rfl⟩ := h
  refine ⟨r, reminder?_some hr, ?_, rfl, rfl, rfl⟩
  intro x hx hkey
  exact hnew ⟨x, hx, hkey⟩

/-- What is known of a run at its place. -/
def Known (input : EnqueueDueRemindersInput) (s : ReminderTables) : Place → Prop
  | locking candidate _ ids locked _ =>
      (∀ r ∈ locked, s.system.db.lots[r.1]? = some r.2 ∧ isDueOf input candidate r.2) ∧
        (locked.map Prod.fst ++ ids).Nodup
  | _ => True

/-- **What a step of a run does**: it goes on, or it writes a reminder. -/
inductive Stepped (input : EnqueueDueRemindersInput) (s : ReminderTables) :
    Place → Place → ReminderTables → Prop
  | on {p q : Place} (known : Known input s p → Known input s q) : Stepped input s p q s
  | wrote {candidate : ReminderCandidate} {rest : List ReminderCandidate}
      {locked : List LockedCreditLot} {result : ReminderSweepResult}
      {revalidated : RevalidatedReminderCandidate} {r : CreditExpiryReminder} {q : Place}
      {t : ReminderTables} (total : revalidate locked = some revalidated)
      (created : ReminderCreated input candidate revalidated s t r) (unlocked : Known input t q) :
      Stepped input s (locking candidate rest [] locked result) q t

lemma known_proceed (result : ReminderSweepResult) (rest : List ReminderCandidate) :
    Known input s (proceed result rest) := by
  cases rest <;> exact trivial

lemma nodup_dueLots (rt : Runtime) (input : EnqueueDueRemindersInput)
    (candidate : ReminderCandidate) (s : ReminderTables) :
    (dueLots rt input candidate s).Nodup := by
  have hperm := List.perm_insertionSort (LotAllocationService.lotLe rt)
    (s.system.db.lots.select (isDueOf input candidate))
  exact (hperm.map Prod.fst).nodup_iff.2 (Table.nodup_select _ _)

lemma known_lock {rest : List ReminderCandidate} {id : Nat} {ids : List Nat}
    {locked : List LockedCreditLot} {result : ReminderSweepResult}
    (h : Known input s (locking candidate rest (id :: ids) locked result)) :
    Known input s
      (locking candidate rest ids (locked ++ lockLot input candidate s id) result) := by
  obtain ⟨hrows, hnodup⟩ := h
  unfold lockLot
  cases hrow : s.system.db.lots[id]?.filter (isDueOf input candidate) with
  | none =>
      refine ⟨?_, ?_⟩
      · simpa using hrows
      · simp only [Option.map_none, Option.toList_none, List.append_nil]
        exact hnodup.sublist (List.Sublist.append_left (List.sublist_cons_self id ids) _)
  | some lot =>
      obtain ⟨hlot, hdue⟩ := Option.filter_eq_some_iff.1 hrow
      refine ⟨?_, ?_⟩
      · intro r hr
        rcases List.mem_append.1 hr with hr | hr
        · exact hrows r hr
        · obtain rfl : r = (id, lot) := by simpa using hr
          exact ⟨hlot, hdue⟩
      · simpa using hnodup

theorem next_stepped (h : next rt input p s = some (q, t)) : Stepped input s p q t := by
  cases p with
  | selecting =>
      simp only [next, Option.some.injEq, Prod.mk.injEq] at h
      obtain ⟨rfl, rfl⟩ := h
      exact .on fun _ => known_proceed _ _
  | reading candidate rest result =>
      simp only [next, Option.some.injEq, Prod.mk.injEq] at h
      obtain ⟨rfl, rfl⟩ := h
      refine .on fun _ => ⟨by simp, ?_⟩
      simpa using nodup_dueLots rt input candidate s
  | locking candidate rest ids locked result =>
      cases ids with
      | cons id ids =>
          simp only [next, Option.some.injEq, Prod.mk.injEq] at h
          obtain ⟨rfl, rfl⟩ := h
          exact .on known_lock
      | nil =>
          simp only [next] at h
          split at h
          · simp only [Option.some.injEq, Prod.mk.injEq] at h
            obtain ⟨rfl, rfl⟩ := h
            exact .on fun _ => known_proceed _ _
          · rename_i revalidated htotal
            split at h <;> simp only [Option.some.injEq, Prod.mk.injEq] at h <;>
              obtain ⟨rfl, rfl⟩ := h
            · rename_i hcreate
              obtain ⟨r, hcreated⟩ := createReminder_ok hcreate
              exact .wrote htotal hcreated (known_proceed _ _)
            · exact .on fun _ => known_proceed _ _
            · exact .on fun _ => trivial
  | swept result => simp [next] at h
  | committing => simp [next] at h
  | committed => simp [next] at h

/-! ### Runs -/

lemma Known.of_lots (h : Known input s p)
    (hlots : ∀ r ∈ p.locked, t.system.db.lots[r.1]? = s.system.db.lots[r.1]?) :
    Known input t p := by
  cases p with
  | locking candidate rest ids locked result =>
      obtain ⟨hrows, hnodup⟩ := h
      refine ⟨fun r hr => ?_, hnodup⟩
      rw [hlots r hr]
      exact hrows r hr
  | _ => exact trivial

lemma Stepped.lots (h : Stepped input s p q t) : t.system.db.lots = s.system.db.lots := by
  cases h with
  | on => rfl
  | wrote _ hcreated => rw [hcreated.system]

lemma Stepped.known (h : Stepped input s p q t) (hp : Known input s p) : Known input t q := by
  cases h with
  | on hknown => exact hknown hp
  | wrote _ _ hq => exact hq

lemma ReminderCreated.once {r : CreditExpiryReminder}
    (h : ReminderCreated input candidate revalidated s t r) (hs : RemindedOnce s) :
    RemindedOnce t := by
  unfold RemindedOnce
  rw [h.reminders]
  refine Table.nodup_map_append hs (by simp) fun x hx y hy => ?_
  obtain rfl : y = r := by simpa using hy
  exact h.new x hx

lemma Stepped.once (h : Stepped input s p q t) (hs : RemindedOnce s) : RemindedOnce t := by
  cases h with
  | on => exact hs
  | wrote _ hcreated => exact hcreated.once hs

lemma commitOperation_rows {op : Op} (h : commitOperation rt op p s = some (q, t)) :
    t.messages = s.messages ∧ t.reminders = s.reminders := by
  cases p with
  | committing =>
      simp only [commitOperation] at h
      split at h <;> simp only [Option.some.injEq, Prod.mk.injEq] at h <;>
        obtain ⟨rfl, rfl⟩ := h <;> exact ⟨rfl, rfl⟩
  | _ => simp [commitOperation] at h

/-- What is kept over a run. -/
structure Kept (w : ReminderTasks) : Prop where
  known : ∀ n input p, w.At n (.enqueueDueReminders input) p → Known input w.state p
  once : RemindedOnce w.state

lemma known_start : Known input s (start input) := by
  unfold start
  split
  · exact trivial
  · split <;> exact trivial

lemma Kept.step (hw : Kept w) (hlocks : LocksHeld rt w event)
    (h : w.step (tasks rt) event = some w') : Kept w' := by
  obtain ⟨k, rfl, rfl⟩ | ⟨n, i, k, p, ⟨q, t⟩, rfl, hat, hnext, rfl⟩ | ⟨n, k, p, rfl, hat, rfl⟩ :=
    step_cases h
  · refine ⟨fun j input p' hj => ?_, hw.once⟩
    rcases hj.of_start with hj | ⟨-, rfl, rfl⟩
    · exact hw.known j input p' hj
    · exact known_start
  · cases k with
    | enqueueDueReminders input =>
        have hstep : Stepped input w.state p q t := next_stepped hnext
        refine ⟨fun j input' p' hj => ?_, hstep.once hw.once⟩
        rcases hj.of_advance with ⟨-, heq, rfl⟩ | ⟨-, hj⟩
        · obtain rfl := ReminderTask.enqueueDueReminders.inj heq
          exact hstep.known (hw.known n input' p hat)
        · exact (hw.known j input' p' hj).of_lots fun r _ => by rw [hstep.lots]
    | operation op =>
        have hrows := commitOperation_rows hnext
        refine ⟨fun j input p' hj => ?_, ?_⟩
        · rcases hj.of_advance with ⟨-, heq, -⟩ | ⟨hne, hj⟩
          · cases heq
          · have hkept := hlocks.kept n _ p q t rfl hat hnext j _ p' hj hne
            exact (hw.known j input p' hj).of_lots hkept
        · unfold RemindedOnce
          rw [hrows.2]
          exact hw.once
  · exact ⟨fun j input p' hj => hw.known j input p' hj.of_crash.2, hw.once⟩

lemma kept_of_steps (hs : RemindedOnce s)
    (hrun : Crew.StepsUnder (tasks rt) (LocksHeld rt) (initial s) w) : Kept w := by
  have hstart : Kept (initial s) := ⟨fun _ _ _ hat => absurd hat not_at_initial, hs⟩
  exact hrun.invariant (I := Kept) (fun {event u v} hlocks hu hstep => hu.step hlocks hstep) hstart

/-! ### What is written -/

/-- What is left of the day's lots, where some of them are held. -/
lemma total_eq_expiring_iff {locked : List LockedCreditLot} {rest : List ReminderCandidate}
    {result : ReminderSweepResult} {r : CreditExpiryReminder}
    (hknown : Known input s (locking candidate rest [] locked result))
    (htotal : revalidate locked = some revalidated)
    (hcreated : ReminderCreated input candidate revalidated s t r) :
    (r.totalExpiringKobo : Int) = expiringKobo t r.tenantId r.customerId r.reminderDate ↔
      ∀ (id : Nat) (lot : CreditLot), s.system.db.lots[id]? = some lot →
        isDueOf input candidate lot → id ∈ locked.map Prod.fst := by
  obtain ⟨hrows, hnodup⟩ := hknown
  rw [List.append_nil] at hnodup
  have hlots : t.system.db.lots = s.system.db.lots := by rw [hcreated.system]
  have hkey := hcreated.reminder.key
  simp only [CreditExpiryReminder.key, Prod.mk.injEq] at hkey
  obtain ⟨htenant, hcustomer, hdate⟩ := hkey
  rw [hcreated.reminder.totalExpiringKobo, revalidate_total htotal, expiringKobo, hlots, htenant,
    hcustomer, hdate]
  have hheld : ∀ x ∈ locked, s.system.db.lots[x.1]? = some x.2 ∧
      expiresOn candidate.tenantId candidate.customerId (reminderDate input) x.2 := by
    intro x hx
    obtain ⟨hrow, hdue⟩ := hrows x hx
    exact ⟨hrow, (isDueOf_iff.1 hdue).1⟩
  have hsum := Table.sum_held_iff (fun l : CreditLot => l.remainingAmountKobo) hnodup hheld
    fun l _ _ => l.remaining_nonneg
  refine hsum.trans ⟨fun hzero id lot hlot hdue => ?_, fun hall id lot hlot hday hnot => ?_⟩
  · obtain ⟨hday, hpos⟩ := isDueOf_iff.1 hdue
    by_contra hnot
    have := hzero id lot hlot hday hnot
    omega
  · by_contra hne
    have hnonneg := lot.remaining_nonneg
    have hpos : 0 < lot.remainingAmountKobo := by omega
    exact hnot (hall id lot hlot (isDueOf_iff.2 ⟨hday, hpos⟩))

lemma ReminderCreated.rows {r : CreditExpiryReminder}
    (h : ReminderCreated input candidate revalidated w.state t r) :
    ReminderRows w event t := by
  have hkey := h.reminder.key
  simp only [CreditExpiryReminder.key, Prod.mk.injEq] at hkey
  exact .reminder h.system h.messages h.reminders ⟨rfl, rfl, rfl⟩
    ⟨h.reminder.outboxEventId, hkey.1, hkey.2.1⟩

lemma ne_append_singleton {α : Type} {l : List α} {a : α} : l ≠ l ++ [a] := by
  intro h
  have hlen := congrArg List.length h
  simp at hlen

end ExpiryReminderService

/-! ### A shop's reminders -/

/-- The lot whose lock a task asks for. -/
def ExpiryReminderService.Place.asksFor : Place → Option Nat
  | locking _ _ (id :: _) _ _ => some id
  | _ => none

/-- Nobody else has locked anything, and the task has not locked the lot it asks for. -/
def aloneWithLocks (w : ReminderTasks) : PoolEvent ReminderTask Unit → Bool
  | .advance n _ => (List.range w.tasks.length).all fun m =>
      match w.tasks[m]? with
      | some (_, some p) => p.locked.all fun r => m = n && p.asksFor ≠ some r.1
      | _ => true
  | _ => true

lemma locksHeld_of_alone (h : aloneWithLocks w event) : LocksHeld rt w event := by
  have hlocked : ∀ n, event = .advance n () → ∀ m l p, w.At m l p → ∀ r ∈ p.locked,
      m = n ∧ p.asksFor ≠ some r.1 := by
    rintro n rfl m l p hat r hr
    have hlt := (List.getElem?_eq_some_iff.1 hat).1
    have htask : w.tasks[m]? = some (l, some p) := hat
    have hm := List.all_eq_true.1 h m (List.mem_range.2 hlt)
    rw [htask] at hm
    simpa using List.all_eq_true.1 hm r hr
  refine ⟨fun n k p q t hn _ _ m l p' hm hne r hr => ?_, ?_⟩
  · exact absurd (hlocked n hn m l p' hm r hr).1 hne
  · intro n k candidate rest id ids locked result hn hat m l p hm r hr hid
    obtain ⟨rfl, hasks⟩ := hlocked n hn m l p hm r hr
    obtain ⟨-, rfl⟩ := hat.inj hm
    exact hasks (congrArg some hid.symm)

namespace Shop

/-- 15 November 2023, midnight: reminders of credit that expires 365 days later. -/
def reminding : EnqueueDueRemindersInput := ⟨1700006400000, 365, 10⟩

/-- The evening's redemption, at midnight. -/
def lateRedemption : Op :=
  .redeem (redemption "late" 1100000 110000)
    ⟨"till", ⟨110000, by decide⟩, ⟨1100000, by decide⟩⟩ 1700006400000

/-- A reminder up to its last statement. -/
def undisturbedReminder : List (PoolEvent ReminderTask Unit) :=
  [.start (.enqueueDueReminders reminding), .advance 0 (), .advance 0 (), .advance 0 ()]

/-- The redemption commits between the snapshot of the reminder's statement and its lock. -/
def overtakenReminder : List (PoolEvent ReminderTask Unit) :=
  [.start (.enqueueDueReminders reminding), .start (.operation lateRedemption), .advance 0 (),
    .advance 0 (), .advance 1 (), .advance 0 ()]

/-- The amounts of the reminders, and what is left of the lots they are about. -/
def reminderAmounts (s : ReminderTables) : List (Int × Int) :=
  s.reminders.map fun r =>
    (r.totalExpiringKobo, expiringKobo s r.tenantId r.customerId r.reminderDate)

/-- The last statement of the first reminder. -/
def lastStatement (w : ReminderTasks) : Option ReminderTasks :=
  if w.state.reminders.isEmpty && aloneWithLocks w (.advance 0 ()) then
    w.step (tasks runtime) (.advance 0 ())
  else none

/-- What it writes after a purchase of the evening. -/
def reminderAfter (events : List (PoolEvent ReminderTask Unit)) : Option (List (Int × Int)) := do
  let system ← (opened.runAll runtime [earn "a" 20000000]).toOption
  let w ← (Crew.initial ⟨system, [], []⟩ : ReminderTasks).runChecked (tasks runtime) aloneWithLocks
    events
  let w' ← lastStatement w
  pure (reminderAmounts w'.state)

lemma reminder_written {events : List (PoolEvent ReminderTask Unit)} {written left : Int}
    (h : reminderAfter events = some [(written, left)]) :
    ∃ (s : ReminderTables) (w w' : ReminderTasks) (r : CreditExpiryReminder),
      Reachable runtime s.system ∧ RemindedOnce s ∧
      Crew.StepsUnder (tasks runtime) (LocksHeld runtime) (initial s) w ∧
      LocksHeld runtime w (.advance 0 ()) ∧
      w.step (tasks runtime) (.advance 0 ()) = some w' ∧
      w'.state.reminders = w.state.reminders ++ [r] ∧ (r.totalExpiringKobo : Int) = written ∧
      expiringKobo w'.state r.tenantId r.customerId r.reminderDate = left := by
  simp only [reminderAfter, Option.bind_eq_bind, Option.bind_eq_some_iff] at h
  obtain ⟨system, hsystem, w, hw, w', hstep, hwritten⟩ := h
  unfold lastStatement at hstep
  split at hstep
  · rename_i hlast
    simp only [Bool.and_eq_true, List.isEmpty_iff] at hlast
    have hwritten' : reminderAmounts w'.state = [(written, left)] := Option.some.inj hwritten
    obtain ⟨r, hr, hamounts⟩ := List.map_eq_singleton_iff.1 hwritten'
    have hops : opened.runAll runtime [earn "a" 20000000] = .ok system := by
      cases hrun : opened.runAll runtime [earn "a" 20000000] with
      | error e => rw [hrun] at hsystem; cases hsystem
      | ok t =>
          rw [hrun] at hsystem
          exact congrArg Except.ok (Option.some.inj hsystem)
    have hreach : Reachable runtime system :=
      ⟨registry, .of_runAll hops (by simp [earn, Op.Admissible])⟩
    refine ⟨⟨system, [], []⟩, w, w', r, hreach, List.nodup_nil,
      .of_runChecked (fun _ _ h => locksHeld_of_alone h) hw, locksHeld_of_alone hlast.2, hstep, ?_,
      congrArg Prod.fst hamounts, congrArg Prod.snd hamounts⟩
    rw [hlast.1, List.nil_append]
    exact hr
  · cases hstep

end Shop

/-- **Reminders are unique and come whole**: over every interleaving of reminder runs, operations
and crashes, no customer has two reminders of a date, a reminder is written with its event and its
message, and its amount is what was left of the customer's lots of that day at the commit exactly
when its transaction has locked each of them. -/
theorem ExpiryReminderService.reminders_once_and_whole (hs : RemindedOnce s)
    (hrun : Crew.StepsUnder (tasks rt) (LocksHeld rt) (initial s) w) :
    RemindedOnce w.state ∧
    ∀ event w', LocksHeld rt w event → w.step (tasks rt) event = some w' →
      ReminderRows w event w'.state ∧
      ∀ r, w'.state.reminders = w.state.reminders ++ [r] →
        ((r.totalExpiringKobo : Int) =
            expiringKobo w'.state r.tenantId r.customerId r.reminderDate ↔
          LotsLocked w event) := by
  have hw := kept_of_steps hs hrun
  refine ⟨hw.once, fun event w' hlocks hstep => ?_⟩
  obtain ⟨k, rfl, rfl⟩ | ⟨n, i, k, p, ⟨q, t⟩, rfl, hat, hnext, rfl⟩ | ⟨n, k, p, rfl, hat, rfl⟩ :=
    step_cases hstep
  · exact ⟨.nothing rfl, fun r hr => absurd hr ne_append_singleton⟩
  · cases k with
    | enqueueDueReminders input =>
        cases next_stepped hnext with
        | on => exact ⟨.nothing rfl, fun r hr => absurd hr ne_append_singleton⟩
        | @wrote candidate rest locked result revalidated r q t htotal hcreated hq =>
            refine ⟨hcreated.rows, fun r' hr' => ?_⟩
            have hlast := hcreated.reminders.symm.trans hr'
            obtain rfl : r = r' := by simpa using hlast
            refine (total_eq_expiring_iff (hw.known n input _ hat) htotal hcreated).trans ?_
            constructor
            · rintro hall m input' candidate' rest' locked' result' heq hat'
              obtain rfl : n = m := by cases heq; rfl
              obtain ⟨hk, hp⟩ := hat.inj hat'
              obtain rfl := ReminderTask.enqueueDueReminders.inj hk
              obtain ⟨rfl, rfl, -, rfl, rfl⟩ := Place.locking.inj hp
              exact hall
            · intro hall
              exact hall n input candidate rest locked result rfl hat
    | operation op =>
        obtain ⟨hmessages, hreminders⟩ := commitOperation_rows hnext
        refine ⟨.operation rfl hat hmessages hreminders, fun r hr => ?_⟩
        exact absurd (hreminders.symm.trans hr) ne_append_singleton
  · exact ⟨.nothing rfl, fun r hr => absurd hr ne_append_singleton⟩

theorem ExpiryReminderService.reminders_once_and_whole_shop :
    ∃ (w w' : ReminderTasks) (r : CreditExpiryReminder), RemindedOnce w.state ∧
      w.step (tasks Shop.runtime) (.advance 0 ()) = some w' ∧
      w'.state.reminders = w.state.reminders ++ [r] ∧ LotsLocked w (.advance 0 ()) ∧
      (r.totalExpiringKobo : Int) = 400000 := by
  have hafter : Shop.reminderAfter Shop.undisturbedReminder = some [(400000, 400000)] := by
    decide +kernel
  obtain ⟨s, w, w', r, -, hs, hrun, hlocks, hstep, hr, hwritten, hleft⟩ :=
    Shop.reminder_written hafter
  obtain ⟨honce, hsteps⟩ := reminders_once_and_whole hs hrun
  have hlocked := ((hsteps _ _ hlocks hstep).2 r hr).1 (hwritten.trans hleft.symm)
  exact ⟨w, w', r, honce, hstep, hr, hlocked, hwritten⟩

/-- A redemption that commits between the snapshot and the lock of a reminder's statement earns a
lot of the same day, which the reminder leaves out. -/
theorem ExpiryReminderService.reminder_leaves_lot_out :
    ∃ (s : ReminderTables) (w w' : ReminderTasks) (r : CreditExpiryReminder),
      Reachable Shop.runtime s.system ∧ RemindedOnce s ∧
      Crew.StepsUnder (tasks Shop.runtime) (LocksHeld Shop.runtime) (initial s) w ∧
      LocksHeld Shop.runtime w (.advance 0 ()) ∧
      w.step (tasks Shop.runtime) (.advance 0 ()) = some w' ∧
      w'.state.reminders = w.state.reminders ++ [r] ∧ (r.totalExpiringKobo : Int) = 290000 ∧
      expiringKobo w'.state r.tenantId r.customerId r.reminderDate = 309800 := by
  have hafter : Shop.reminderAfter Shop.overtakenReminder = some [(290000, 309800)] := by
    decide +kernel
  exact Shop.reminder_written hafter

end ShopcityLoyalty
