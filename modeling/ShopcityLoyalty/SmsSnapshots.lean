import ShopcityLoyalty.SmsStatuses
import ShopcityLoyalty.ReportSummaries

/-!
The status that the reports show of a message, and the one that is stored.

The reports take the status whose time is the latest; of equal times, that of the status that is
listed first. It is the stored status where the time of that one comes in order, so where the
workers write the times in order.
-/

namespace ShopcityLoyalty

open Process ReportMaterializerService OutboxWorkerRuntime

/-! ### The latest transition -/

section latest

variable {α : Type} {rank : α → Nat} {p : α × Int} {l : List (α × Int)}

lemma eq_of_rank (hl : l.Pairwise fun q r => rank q.1 < rank r.1) {q r : α × Int} (hq : q ∈ l)
    (hr : r ∈ l) (h : rank q.1 = rank r.1) : q = r := by
  have hnodup : (l.map fun q => rank q.1).Nodup :=
    List.pairwise_map.2 (hl.imp fun hlt => ne_of_lt hlt)
  exact List.inj_on_of_nodup_map hnodup hq hr h

/-- Of transitions that are listed by rank, the one that a stable sort puts first: later than those
before it in the list, and not earlier than those after it. -/
lemma head_latest_iff (hl : l.Pairwise fun q r => rank q.1 < rank r.1) :
    (l.insertionSort fun left right => right.2 ≤ left.2).head? = some p ↔
      p ∈ l ∧ ∀ q ∈ l, (rank q.1 < rank p.1 → q.2 < p.2) ∧ (rank p.1 < rank q.1 → q.2 ≤ p.2) := by
  induction l generalizing p with
  | nil => simp
  | cons a l ih =>
      obtain ⟨ha, hrest⟩ := List.pairwise_cons.1 hl
      rw [List.insertionSort_cons]
      cases hsorted : l.insertionSort fun left right => right.2 ≤ left.2 with
      | nil =>
          have hnil : l = [] := by
            have hperm := List.perm_insertionSort (fun left right : α × Int => right.2 ≤ left.2) l
            rw [hsorted] at hperm
            exact List.nil_perm.1 hperm
          subst hnil
          simp only [List.orderedInsert_nil, List.head?_cons, Option.some.injEq, List.mem_singleton]
          constructor
          · rintro rfl
            refine ⟨rfl, fun q hq => ?_⟩
            subst hq
            exact ⟨fun h => absurd h (lt_irrefl _), fun _ => le_rfl⟩
          · exact fun h => h.1.symm
      | cons b sorted =>
          have hb := (ih hrest).1 (by rw [hsorted]; rfl : _ = some b)
          have hlater : ∀ q ∈ l, q.2 ≤ b.2 := by
            intro q hq
            rcases lt_trichotomy (rank q.1) (rank b.1) with h | h | h
            · exact le_of_lt ((hb.2 q hq).1 h)
            · rw [eq_of_rank hrest hq hb.1 h]
            · exact (hb.2 q hq).2 h
          rw [List.orderedInsert_cons]
          -- insertion puts `a` in front of equal times, as a stable sort does
          by_cases hle : b.2 ≤ a.2
          · rw [if_pos hle, List.head?_cons, Option.some.injEq]
            constructor
            · rintro rfl
              refine ⟨List.mem_cons_self, fun q hq => ?_⟩
              rcases List.mem_cons.1 hq with rfl | hq
              · exact ⟨fun h => absurd h (lt_irrefl _), fun _ => le_rfl⟩
              · exact ⟨fun h => absurd h (not_lt.2 (le_of_lt (ha q hq))),
                  fun _ => (hlater q hq).trans hle⟩
            · rintro ⟨hp, hall⟩
              rcases List.mem_cons.1 hp with rfl | hp
              · rfl
              · have hlt := (hall a List.mem_cons_self).1 (ha p hp)
                have hple := hlater p hp
                omega
          · rw [if_neg hle, List.head?_cons, Option.some.injEq]
            constructor
            · rintro rfl
              refine ⟨List.mem_cons_of_mem _ hb.1, fun q hq => ?_⟩
              rcases List.mem_cons.1 hq with rfl | hq
              · exact ⟨fun _ => not_le.1 hle, fun h => absurd h (not_lt.2 (le_of_lt (ha b hb.1)))⟩
              · exact hb.2 q hq
            · rintro ⟨hp, hall⟩
              rcases List.mem_cons.1 hp with rfl | hp
              · have hle' := (hall b (List.mem_cons_of_mem _ hb.1)).2 (ha b hb.1)
                exact absurd hle' hle
              · have hhead := (ih hrest).2 ⟨hp, fun q hq => hall q (List.mem_cons_of_mem _ hq)⟩
                rw [hsorted] at hhead
                exact Option.some.inj hhead

end latest
/-! ### The status of a message -/

/-- The status of the same name. -/
def SmsMessageStatus.snapshot : SmsMessageStatus → SmsSnapshotStatus
  | QUEUED => .QUEUED
  | SENT => .SENT
  | DELIVERED => .DELIVERED
  | FAILED => .FAILED
  | SUPPRESSED => .SUPPRESSED

/-- The place of a status in the list of transitions. -/
def SmsSnapshotStatus.rank : SmsSnapshotStatus → Nat
  | QUEUED => 0
  | SENT => 1
  | DELIVERED => 2
  | FAILED => 3
  | SUPPRESSED => 4

/-- The time that goes with a status. -/
def SmsStamps.timeOf (st : SmsStamps) : SmsSnapshotStatus → Option Int
  | .QUEUED => some st.queuedAt
  | .SENT => st.sentAt
  | .DELIVERED => st.deliveredAt
  | .FAILED => st.failedAt
  | .SUPPRESSED => st.suppressedAt

/-- The time of a status is the latest up to an instant: later than those of the statuses listed
before, and not earlier than those of the statuses listed after. -/
def SmsStamps.Latest (asOf : Int) (st : SmsStamps) (status : SmsSnapshotStatus) : Prop :=
  ∃ at_ ∈ st.timeOf status, at_ ≤ asOf ∧ ∀ other, ∀ t ∈ st.timeOf other, t ≤ asOf →
    (other.rank < status.rank → t < at_) ∧ (status.rank < other.rank → t ≤ at_)

/-- The time of the stored status is the latest. -/
def SmsStamps.InOrder (asOf : Int) (st : SmsStamps) : Prop :=
  st.queuedAt ≤ asOf ∧ st.Latest asOf st.status.snapshot

instance : Fintype SmsSnapshotStatus where
  elems := {.QUEUED, .SENT, .DELIVERED, .FAILED, .SUPPRESSED}
  complete status := by cases status <;> decide

instance (asOf : Int) (st : SmsStamps) (status : SmsSnapshotStatus) :
    Decidable (st.Latest asOf status) := by
  unfold SmsStamps.Latest
  infer_instance

instance (asOf : Int) (st : SmsStamps) : Decidable (st.InOrder asOf) :=
  inferInstanceAs (Decidable (_ ∧ _))

/-- A message as the reports load it, with the receipt and the card's branch it is linked to. -/
def smsMessageRecord (link : Option Nat × Option String) (m : SmsMessage) : SmsMessageRecord where
  receiptId := link.1
  cardBranchId := link.2
  attempts := m.attempts
  deadLetteredAt := m.deadLetteredAt
  queuedAt := m.queuedAt
  sentAt := m.sentAt
  deliveredAt := m.deliveredAt
  failedAt := m.failedAt
  suppressedAt := m.suppressedAt

/-- The message is loaded, and shown with its stored status. -/
def StatusShown (asOf : Int) (m : SmsMessage) : Prop :=
  m.queuedAt ≤ asOf ∧ ∀ link, smsStatusAt (smsMessageRecord link m) asOf = m.status.snapshot

variable {asOf : Int} {m : SmsMessage} {st : SmsStamps}

/-- The transitions of a message. -/
def smsTransitions (st : SmsStamps) : List (SmsSnapshotStatus × Int) :=
  (.QUEUED, st.queuedAt) :: (transition .SENT st.sentAt ++ transition .DELIVERED st.deliveredAt ++
    transition .FAILED st.failedAt ++ transition .SUPPRESSED st.suppressedAt)

lemma mem_transition {α : Type} {status : α} {at_ : Option Int} {q : α × Int} :
    q ∈ transition status at_ ↔ q.1 = status ∧ q.2 ∈ at_ := by
  unfold transition
  cases at_ with
  | none => simp
  | some t =>
      obtain ⟨a, b⟩ := q
      simp [Prod.ext_iff, eq_comm]

lemma mem_smsTransitions {q : SmsSnapshotStatus × Int} :
    q ∈ smsTransitions st ↔ q.2 ∈ st.timeOf q.1 := by
  obtain ⟨status, t⟩ := q
  unfold smsTransitions
  simp only [List.mem_cons, List.mem_append, mem_transition, Prod.mk.injEq]
  cases status <;> simp [SmsStamps.timeOf, eq_comm]

lemma smsTransitions_ranked :
    (smsTransitions st).Pairwise fun q r => q.1.rank < r.1.rank := by
  have hsingle : ∀ (status : SmsSnapshotStatus) (at_ : Option Int),
      (transition status at_).Pairwise fun q r => q.1.rank < r.1.rank := by
    intro status at_
    cases at_ <;> simp [transition]
  have hbetween : ∀ {status status' : SmsSnapshotStatus} {at_ at_' : Option Int}
      {q r : SmsSnapshotStatus × Int}, q ∈ transition status at_ → r ∈ transition status' at_' →
      status.rank < status'.rank → q.1.rank < r.1.rank := by
    intro status status' at_ at_' q r hq hr hlt
    rw [(mem_transition.1 hq).1, (mem_transition.1 hr).1]
    exact hlt
  unfold smsTransitions
  rw [List.pairwise_cons]
  constructor
  · intro q hq
    simp only [List.mem_append, mem_transition] at hq
    rcases hq with ((⟨h, -⟩ | ⟨h, -⟩) | ⟨h, -⟩) | ⟨h, -⟩ <;> simp [h, SmsSnapshotStatus.rank]
  · simp only [List.pairwise_append, hsingle, List.mem_append, true_and]
    refine ⟨⟨?_, ?_⟩, ?_⟩
    · intro q hq r hr
      exact hbetween hq hr (by decide)
    · rintro q (hq | hq) r hr
      · exact hbetween hq hr (by decide)
      · exact hbetween hq hr (by decide)
    · rintro q ((hq | hq) | hq) r hr
      · exact hbetween hq hr (by decide)
      · exact hbetween hq hr (by decide)
      · exact hbetween hq hr (by decide)

/-- The status shown of a message that is loaded. -/
lemma smsStatusAt_iff {link : Option Nat × Option String} (hqueued : m.queuedAt ≤ asOf)
    {status : SmsSnapshotStatus} :
    smsStatusAt (smsMessageRecord link m) asOf = status ↔ m.stamps.Latest asOf status := by
  have hfiltered : ((smsTransitions m.stamps).filter fun q => q.2 ≤ asOf).Pairwise
      fun q r => q.1.rank < r.1.rank := smsTransitions_ranked.filter _
  have hmem : ∀ q, q ∈ (smsTransitions m.stamps).filter (fun q => q.2 ≤ asOf) ↔
      q.2 ∈ m.stamps.timeOf q.1 ∧ q.2 ≤ asOf := by
    intro q
    rw [List.mem_filter, mem_smsTransitions, decide_eq_true_iff]
  have hshown : smsStatusAt (smsMessageRecord link m) asOf =
      ((((smsTransitions m.stamps).filter fun q => q.2 ≤ asOf).insertionSort
        fun left right => right.2 ≤ left.2).head?.getD (.QUEUED, m.queuedAt)).1 := by
    have hnot : ¬ (smsMessageRecord link m).queuedAt > asOf := not_lt.2 hqueued
    unfold smsStatusAt
    rw [if_neg hnot]
    rfl
  obtain ⟨p, hp⟩ : ∃ p, (((smsTransitions m.stamps).filter fun q => q.2 ≤ asOf).insertionSort
      fun left right => right.2 ≤ left.2).head? = some p := by
    rw [← Option.isSome_iff_exists, List.isSome_head?, Ne]
    intro hnil
    have hperm := List.perm_insertionSort (fun left right : SmsSnapshotStatus × Int =>
      right.2 ≤ left.2) ((smsTransitions m.stamps).filter fun q => q.2 ≤ asOf)
    rw [hnil] at hperm
    have hin := (hmem (.QUEUED, m.queuedAt)).2 ⟨rfl, hqueued⟩
    rw [List.nil_perm.1 hperm] at hin
    cases hin
  have hlatest := (head_latest_iff hfiltered).1 hp
  rw [hshown, hp, Option.getD_some]
  constructor
  · rintro rfl
    obtain ⟨htime, hle⟩ := (hmem p).1 hlatest.1
    exact ⟨p.2, htime, hle, fun other t ht hta => hlatest.2 (other, t)
      ((hmem (other, t)).2 ⟨ht, hta⟩)⟩
  · rintro ⟨at_, htime, hle, hall⟩
    have hthis := (head_latest_iff (p := (status, at_)) hfiltered).2 ⟨(hmem _).2 ⟨htime, hle⟩,
      fun q hq => hall q.1 q.2 ((hmem q).1 hq).1 ((hmem q).1 hq).2⟩
    rw [hp] at hthis
    rw [Option.some.inj hthis]

/-- **What is shown is what is stored** exactly of messages whose times are in order. -/
lemma statusShown_iff : StatusShown asOf m ↔ m.stamps.InOrder asOf := by
  constructor
  · rintro ⟨hqueued, hshown⟩
    exact ⟨hqueued, (smsStatusAt_iff hqueued).1 (hshown (none, none))⟩
  · rintro ⟨hqueued, hstatus⟩
    exact ⟨hqueued, fun _ => (smsStatusAt_iff hqueued).2 hstatus⟩

/-! ### What the workers write -/

/-! ### Runs -/

/-- What a step stamps a message with is in order. -/
def StampsInOrder (asOf : Int) (w : Workers) (event : PoolEvent Task Surroundings) : Prop :=
  ∀ n env e, event = .advance n env → w.StandsAt n e → ∀ id st,
    stampsAt (e env w.state) id = some st → stampsAt w.state id ≠ some st → st.InOrder asOf

lemma StampsInOrder.of_step {w : Workers} {event : PoolEvent Task Surroundings}
    (ctx : WorkerContext) (h : ∀ v, w.step (program ctx) event = some v →
      ∀ id st, stampsAt v.state id = some st → st.InOrder asOf) : StampsInOrder asOf w event := by
  rintro n env e rfl hat id st hst -
  obtain ⟨v, hstep, hstate⟩ : ∃ v, w.step (program ctx) (.advance n env) = some v ∧
      v.state = e env w.state := hat.step env
  exact h v hstep id st (hstate ▸ hst)

/-- Every message is shown with its stored status. -/
def StatusesShown (asOf : Int) (s : OutboxState) : Prop :=
  ∀ id m, MessageAt s id m → StatusShown asOf m

lemma statusesShown_iff {s : OutboxState} :
    StatusesShown asOf s ↔ ∀ id st, stampsAt s id = some st → st.InOrder asOf := by
  constructor
  · intro h id st hst
    obtain ⟨m, hm, rfl⟩ := stampsAt_some.1 hst
    exact statusShown_iff.1 (h id m hm)
  · intro h id m hm
    exact statusShown_iff.2 (h id m.stamps (stampsAt_some.2 ⟨m, hm, rfl⟩))

variable {ctx : WorkerContext} {w w' : Workers} {event : PoolEvent Task Surroundings}

lemma run_statusesShown
    (hreach : Pool.StepsUnder (program ctx) (StampsInOrder asOf) (Pool.initial noEvents) w) :
    w.EffectsIn SmsEffect ∧ StatusesShown asOf w.state := by
  have hrun := Pool.run_effects (program_effects ctx)
    (I := fun s => ∀ id st, stampsAt s id = some st → st.InOrder asOf)
      (fun u n env e hP hat _ hu id st hst => ?_)
    (Pool.initial_effectsIn noEvents) (fun id st hst => ?_) hreach
  · exact ⟨hrun.1, statusesShown_iff.2 hrun.2⟩
  · by_cases hsame : stampsAt u.state id = some st
    · exact hu id st hsame
    · exact hP n env e rfl hat id st hst hsame
  · simp [stampsAt, Pool.initial, noEvents] at hst

lemma statusesShown_step
    (hreach : Pool.StepsUnder (program ctx) (StampsInOrder asOf) (Pool.initial noEvents) w)
    (hstep : w.step (program ctx) event = some w') :
    StatusesShown asOf w'.state ↔ StampsInOrder asOf w event := by
  constructor
  · rintro h n env e rfl hat id st hst -
    rcases ((run_statusesShown hreach).1.step (program_effects ctx) hstep).2 with
      ⟨n', env', e', hevent, hat', -, hstate⟩ | ⟨hno, -⟩
    · obtain ⟨rfl, rfl⟩ : n = n' ∧ env = env' := by simpa using hevent
      obtain rfl := hat'.unique hat
      rw [← hstate] at hst
      exact statusesShown_iff.1 h id st hst
    · exact absurd rfl (hno n env)
  · intro h
    exact (run_statusesShown (hreach.tail h hstep)).2

end ShopcityLoyalty
