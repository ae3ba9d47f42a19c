import Mathlib.Data.List.TakeWhile
import Mathlib.Tactic

/-!
The sweeps of the materialization worker: each rebuilds one batch of tenants after the cursor,
and starts over at the end. A rebuild that throws ends the sweep before the cursor moves.
-/

namespace ShopcityLoyalty

/-- The ids of the tenants, in the order in which the query returns them. -/
structure TenantTable (Id : Type) [LinearOrder Id] where
  ids : List Id
  sorted : ids.Pairwise (· < ·)

structure ReportMaterializationWorkerConfig where
  batchSize : Nat
  /-- `parsePositiveInteger`. -/
  batchSize_pos : 0 < batchSize

section sweeps

variable {Id : Type} [LinearOrder Id] (tenants : TenantTable Id) (fails : Id → Bool)
  (config : ReportMaterializationWorkerConfig)

def loadTenantBatch (cursor : Option Id) : List Id :=
  (match cursor with
    | some cursor => tenants.ids.filter fun id => cursor < id
    | none => tenants.ids).take config.batchSize

/-- The batch of a sweep: after the last tenant comes the first. -/
def sweepBatch (cursor : Option Id) : List Id :=
  match loadTenantBatch tenants config cursor, cursor with
  | [], some _ => loadTenantBatch tenants config none
  | batch, _ => batch

/-- The tenants that a sweep rebuilds, and the watermark after it unless a rebuild throws. -/
def runReportMaterializationSweep (cursor : Option Id) : List Id × Option (Option Id) :=
  let batch := sweepBatch tenants config cursor
  (batch.takeWhile fun id => ! fails id, if batch.any fails then none else some batch.getLast?)

/-- The cursor of the next cycle. -/
def executeCycle (cursor : Option Id) : Option Id :=
  match (runReportMaterializationSweep tenants fails config cursor).2 with
  | some watermarkAfter => watermarkAfter
  | none => cursor

/-- The cursor after a number of cycles. -/
def cursorAfter : Nat → Option Id
  | 0 => none
  | cycles + 1 => executeCycle tenants fails config (cursorAfter cycles)

/-- The tenants that a cycle rebuilds. -/
def rebuiltIn (cycle : Nat) : List Id :=
  (runReportMaterializationSweep tenants fails config (cursorAfter tenants fails config cycle)).1

/-- Every tenant whose rebuild does not throw is rebuilt again and again, within boundedly many
cycles from any one on. -/
def EveryTenantRebuilt : Prop :=
  ∃ bound, ∀ start, ∀ id ∈ tenants.ids, fails id = false →
    ∃ cycle, start ≤ cycle ∧ cycle < start + bound ∧ id ∈ rebuiltIn tenants fails config cycle

/-! ### Positions -/

/-- The cursor when a number of tenants are behind it. -/
def cursorAt (position : Nat) : Option Id :=
  if position = 0 then none else tenants.ids[position - 1]?

/-- The batch at a position. -/
def window (position : Nat) : List Id :=
  (tenants.ids.drop (if position < tenants.ids.length then position else 0)).take config.batchSize

def nextPosition (position : Nat) : Nat :=
  if (window tenants config position).any fails then position
  else
    min ((if position < tenants.ids.length then position else 0) + config.batchSize)
      tenants.ids.length

def positionAfter : Nat → Nat
  | 0 => 0
  | cycles + 1 => nextPosition tenants fails config (positionAfter cycles)

variable {tenants fails config} {position i : Nat} {id : Id}

lemma filter_after (h : tenants.ids[i]? = some id) :
    (tenants.ids.filter fun other => id < other) = tenants.ids.drop (i + 1) := by
  have hlt : i < tenants.ids.length := (List.getElem?_eq_some_iff.1 h).1
  have hsorted := tenants.sorted
  have hsplit : tenants.ids = tenants.ids.take i ++ id :: tenants.ids.drop (i + 1) := by
    obtain ⟨hi, rfl⟩ := List.getElem?_eq_some_iff.1 h
    rw [List.getElem_cons_drop, List.take_append_drop]
  rw [hsplit, List.pairwise_append] at hsorted
  obtain ⟨-, hrest, hacross⟩ := hsorted
  have hbefore : (tenants.ids.take i).filter (fun other => id < other) = [] := by
    rw [List.filter_eq_nil_iff]
    intro other hother
    have hless := hacross other hother id List.mem_cons_self
    simpa using hless.le
  have hafter : (tenants.ids.drop (i + 1)).filter (fun other => id < other) =
      tenants.ids.drop (i + 1) := by
    rw [List.filter_eq_self]
    intro other hother
    simpa using (List.pairwise_cons.1 hrest).1 other hother
  conv_lhs => rw [hsplit]
  rw [List.filter_append, hbefore, List.nil_append, List.filter_cons, if_neg (by simp), hafter]

lemma loadTenantBatch_at (hp : position ≤ tenants.ids.length) :
    loadTenantBatch tenants config (cursorAt tenants position) =
      (tenants.ids.drop position).take config.batchSize := by
  unfold cursorAt
  by_cases h0 : position = 0
  · simp [h0, loadTenantBatch]
  · have hlt : position - 1 < tenants.ids.length := by omega
    have hget := List.getElem?_eq_getElem hlt
    have hsucc : position - 1 + 1 = position := by omega
    rw [if_neg h0, hget]
    simp only [loadTenantBatch]
    rw [filter_after hget, hsucc]

/-- **The batch of a sweep** is the window at its position. -/
lemma sweepBatch_at (hp : position ≤ tenants.ids.length) :
    sweepBatch tenants config (cursorAt tenants position) = window tenants config position := by
  have hload : loadTenantBatch tenants config (cursorAt tenants position) =
      (tenants.ids.drop position).take config.batchSize := loadTenantBatch_at hp
  have hpos := config.batchSize_pos
  unfold sweepBatch window
  by_cases hlt : position < tenants.ids.length
  · rw [if_pos hlt, hload]
    cases hbatch : (tenants.ids.drop position).take config.batchSize with
    | nil =>
        have hlen := congrArg List.length hbatch
        simp only [List.length_take, List.length_drop, List.length_nil] at hlen
        omega
    | cons => rfl
  · obtain rfl : position = tenants.ids.length := by omega
    rw [if_neg hlt, hload]
    by_cases hempty : tenants.ids = []
    · simp [hempty, cursorAt]
    · have hlen : tenants.ids.length ≠ 0 := by simpa using hempty
      have hget : tenants.ids.length - 1 < tenants.ids.length := by omega
      simp only [List.drop_length, List.take_nil, cursorAt, hlen, if_false,
        List.getElem?_eq_getElem hget, loadTenantBatch, List.drop_zero]

lemma window_getElem? (h : position < tenants.ids.length) (k : Nat) :
    (window tenants config position)[k]? =
      if k < config.batchSize then tenants.ids[position + k]? else none := by
  unfold window
  rw [if_pos h, List.getElem?_take, List.getElem?_drop]

lemma nextPosition_le (hp : position ≤ tenants.ids.length) :
    nextPosition tenants fails config position ≤ tenants.ids.length := by
  unfold nextPosition
  split
  · exact hp
  · exact min_le_right ..

lemma getLast?_window (hp : position ≤ tenants.ids.length) :
    (window tenants config position).getLast? = cursorAt tenants
      (min ((if position < tenants.ids.length then position else 0) + config.batchSize)
        tenants.ids.length) := by
  have hpos := config.batchSize_pos
  generalize hstart : (if position < tenants.ids.length then position else 0) = start
  have hle : start ≤ tenants.ids.length := by
    split at hstart <;> omega
  unfold window cursorAt
  rw [hstart]
  by_cases hempty : tenants.ids.length = 0
  · have hnil : tenants.ids = [] := List.length_eq_zero_iff.1 hempty
    simp [hnil]
  · have hlt : start < tenants.ids.length := by
      split at hstart <;> omega
    have hne : min (start + config.batchSize) tenants.ids.length ≠ 0 := by omega
    rw [if_neg hne, List.getLast?_eq_getElem?, List.getElem?_take, List.getElem?_drop]
    simp only [List.length_take, List.length_drop]
    rw [if_pos (by omega)]
    congr 1
    omega

lemma executeCycle_at (hp : position ≤ tenants.ids.length) :
    executeCycle tenants fails config (cursorAt tenants position) =
      cursorAt tenants (nextPosition tenants fails config position) := by
  unfold executeCycle runReportMaterializationSweep nextPosition
  rw [sweepBatch_at hp]
  by_cases hthrow : (window tenants config position).any fails = true
  · simp only [hthrow, if_true]
  · simp only [hthrow, if_false, Bool.false_eq_true]
    exact getLast?_window hp

/-- **The cycles** follow the positions. -/
lemma cursorAfter_eq (tenants : TenantTable Id) (fails : Id → Bool)
    (config : ReportMaterializationWorkerConfig) (cycles : Nat) :
    positionAfter tenants fails config cycles ≤ tenants.ids.length ∧
    cursorAfter tenants fails config cycles =
      cursorAt tenants (positionAfter tenants fails config cycles) := by
  induction cycles with
  | zero => exact ⟨Nat.zero_le _, rfl⟩
  | succ cycles ih =>
      obtain ⟨hle, hcursor⟩ := ih
      refine ⟨nextPosition_le hle, ?_⟩
      simp only [cursorAfter, positionAfter, hcursor]
      exact executeCycle_at hle

lemma rebuiltIn_eq (cycle : Nat) : rebuiltIn tenants fails config cycle =
    (window tenants config (positionAfter tenants fails config cycle)).takeWhile
      fun id => ! fails id := by
  obtain ⟨hle, hcursor⟩ := cursorAfter_eq tenants fails config cycle
  unfold rebuiltIn runReportMaterializationSweep
  rw [hcursor, sweepBatch_at hle]

/-! ### Without a throw -/

/-- How many tenants a position is before a tenant, going around. -/
def distance (tenants : TenantTable Id) (position i : Nat) : Nat :=
  if position ≤ i then i - position else tenants.ids.length - position + 1 + i

/-- A sweep takes a tenant or gets nearer to it. -/
lemma rebuilt_or_nearer (hnone : ∀ id ∈ tenants.ids, fails id = false)
    (hp : position ≤ tenants.ids.length) (hi : tenants.ids[i]? = some id) :
    id ∈ window tenants config position ∨
      distance tenants (nextPosition tenants fails config position) i <
        distance tenants position i := by
  have hlt : i < tenants.ids.length := (List.getElem?_eq_some_iff.1 hi).1
  have hpos := config.batchSize_pos
  have hquiet : (window tenants config position).any fails = false := by
    rw [List.any_eq_false]
    intro other hother
    have hmem := List.mem_of_mem_drop (List.mem_of_mem_take hother)
    simp [hnone other hmem]
  generalize hstart : (if position < tenants.ids.length then position else 0) = start
  have hnext : nextPosition tenants fails config position =
      min (start + config.batchSize) tenants.ids.length := by
    unfold nextPosition
    rw [hquiet, hstart]
    rfl
  by_cases hin : start ≤ i ∧ i < start + config.batchSize
  · left
    have hget : (window tenants config position)[i - start]? = some id := by
      unfold window
      rw [hstart, List.getElem?_take, if_pos (by omega), List.getElem?_drop]
      rw [← hi]
      congr 1
      omega
    exact List.mem_of_getElem? hget
  · right
    rw [hnext]
    unfold distance
    split at hstart <;> split <;> split <;> omega

lemma rebuilt_within (hnone : ∀ id ∈ tenants.ids, fails id = false)
    (hi : tenants.ids[i]? = some id) :
    ∀ d cycle, distance tenants (positionAfter tenants fails config cycle) i ≤ d →
      ∃ k ≤ d, id ∈ rebuiltIn tenants fails config (cycle + k) := by
  have hall : ∀ l : List Id, (∀ other ∈ l, other ∈ tenants.ids) →
      l.takeWhile (fun id => ! fails id) = l := by
    intro l hl
    rw [List.takeWhile_eq_self_iff]
    intro other hother
    simp [hnone other (hl other hother)]
  have hwindow : ∀ cycle, rebuiltIn tenants fails config cycle =
      window tenants config (positionAfter tenants fails config cycle) := by
    intro cycle
    rw [rebuiltIn_eq]
    exact hall _ fun other hother => List.mem_of_mem_drop (List.mem_of_mem_take hother)
  intro d
  induction d with
  | zero =>
      intro cycle hd
      rcases rebuilt_or_nearer hnone (cursorAfter_eq tenants fails config cycle).1 hi with
        hmem | hnear
      · exact ⟨0, le_rfl, by rw [Nat.add_zero, hwindow]; exact hmem⟩
      · omega
  | succ d ih =>
      intro cycle hd
      rcases rebuilt_or_nearer hnone (cursorAfter_eq tenants fails config cycle).1 hi with
        hmem | hnear
      · exact ⟨0, Nat.zero_le _, by rw [Nat.add_zero, hwindow]; exact hmem⟩
      · have hnext : distance tenants (positionAfter tenants fails config (cycle + 1)) i ≤ d := by
          have hstep : positionAfter tenants fails config (cycle + 1) =
              nextPosition tenants fails config (positionAfter tenants fails config cycle) := rfl
          rw [hstep]
          omega
        obtain ⟨k, hk, hmem⟩ := ih (cycle + 1) hnext
        exact ⟨k + 1, by omega, by rw [← Nat.add_assoc, Nat.add_right_comm]; exact hmem⟩

/-- **Without a throw** every round rebuilds every tenant. -/
lemma everyTenantRebuilt_of_none (hnone : ∀ id ∈ tenants.ids, fails id = false) :
    EveryTenantRebuilt tenants fails config := by
  refine ⟨2 * tenants.ids.length + 1, fun start id hid _ => ?_⟩
  obtain ⟨i, hi⟩ := List.getElem?_of_mem hid
  have hlt : i < tenants.ids.length := (List.getElem?_eq_some_iff.1 hi).1
  have hd : distance tenants (positionAfter tenants fails config start) i ≤
      2 * tenants.ids.length := by
    unfold distance
    split <;> omega
  obtain ⟨k, hk, hmem⟩ := rebuilt_within hnone hi _ start hd
  exact ⟨start + k, by omega, by omega, hmem⟩

/-! ### With a throw -/

omit [LinearOrder Id] in
/-- What comes before the first element that fails. -/
lemma mem_takeWhile_iff {l : List Id} {a : Id} : a ∈ l.takeWhile (fun id => ! fails id) ↔
    ∃ j : Nat, l[j]? = some a ∧ ∀ i ≤ j, ∀ b, l[i]? = some b → fails b = false := by
  induction l with
  | nil => simp
  | cons x l ih =>
      by_cases hx : fails x = true
      · have hnot : ¬ ∃ j : Nat, (x :: l)[j]? = some a ∧
            ∀ i ≤ j, ∀ b, (x :: l)[i]? = some b → fails b = false := by
          rintro ⟨j, -, hall⟩
          have hfirst := hall 0 (Nat.zero_le _) x rfl
          rw [hx] at hfirst
          cases hfirst
        simp [hx, hnot]
      · have hok : fails x = false := by simpa using hx
        rw [List.takeWhile_cons_of_pos (by simp [hok]), List.mem_cons, ih]
        constructor
        · rintro (rfl | ⟨j, hj, hall⟩)
          · refine ⟨0, rfl, fun i hi b hb => ?_⟩
            obtain rfl : i = 0 := by omega
            obtain rfl : a = b := by simpa using hb
            exact hok
          · refine ⟨j + 1, by simpa using hj, fun i hi b hb => ?_⟩
            cases i with
            | zero =>
                obtain rfl : x = b := by simpa using hb
                exact hok
            | succ i => exact hall i (by omega) b (by simpa using hb)
        · rintro ⟨j, hj, hall⟩
          cases j with
          | zero => exact .inl (by simpa using hj.symm)
          | succ j =>
              refine .inr ⟨j, by simpa using hj, fun i hi b hb => ?_⟩
              exact hall (i + 1) (by omega) b (by simpa using hb)

/-- The place of the first tenant whose rebuild throws. -/
structure FirstFailing (tenants : TenantTable Id) (fails : Id → Bool) (m : Nat)
    (id : Id) : Prop where
  at_ : tenants.ids[m]? = some id
  throws : fails id = true
  before : ∀ i < m, ∀ other, tenants.ids[i]? = some other → fails other = false

lemma exists_firstFailing (h : ∃ id ∈ tenants.ids, fails id = true) :
    ∃ m id, FirstFailing tenants fails m id := by
  classical
  have hex : ∃ m : Nat, ∃ id, tenants.ids[m]? = some id ∧ fails id = true := by
    obtain ⟨id, hid, hthrows⟩ := h
    obtain ⟨m, hm⟩ := List.getElem?_of_mem hid
    exact ⟨m, id, hm, hthrows⟩
  obtain ⟨id, hm, hthrows⟩ := Nat.find_spec hex
  refine ⟨Nat.find hex, id, hm, hthrows, fun i hi other hother => ?_⟩
  by_contra hne
  exact Nat.find_min hex hi ⟨other, hother, by simpa using hne⟩

variable {m : Nat} {first : Id}

lemma FirstFailing.lt (h : FirstFailing tenants fails m first) : m < tenants.ids.length :=
  (List.getElem?_eq_some_iff.1 h.at_).1

lemma lt_of_places {j : Nat} {other : Id} (hi : tenants.ids[i]? = some id)
    (hj : tenants.ids[j]? = some other) (hlt : i < j) : id < other := by
  obtain ⟨hi', rfl⟩ := List.getElem?_eq_some_iff.1 hi
  obtain ⟨hj', rfl⟩ := List.getElem?_eq_some_iff.1 hj
  exact List.pairwise_iff_getElem.1 tenants.sorted i j hi' hj' hlt

lemma place_unique {j : Nat} (hi : tenants.ids[i]? = some id) (hj : tenants.ids[j]? = some id) :
    i = j := by
  rcases lt_trichotomy i j with hlt | heq | hgt
  · exact absurd (lt_of_places hi hj hlt) (lt_irrefl id)
  · exact heq
  · exact absurd (lt_of_places hj hi hgt) (lt_irrefl id)

lemma FirstFailing.stays (h : FirstFailing tenants fails m first) (hle : position ≤ m)
    (hlt : m < position + config.batchSize) :
    nextPosition tenants fails config position = position := by
  have hp : position < tenants.ids.length := hle.trans_lt h.lt
  have hget : (window tenants config position)[m - position]? = some first := by
    rw [window_getElem? hp, if_pos (by omega), ← h.at_]
    congr 1
    omega
  unfold nextPosition
  rw [if_pos (List.any_eq_true.2 ⟨first, List.mem_of_getElem? hget, h.throws⟩)]

lemma FirstFailing.moves (h : FirstFailing tenants fails m first)
    (hle : position + config.batchSize ≤ m) :
    nextPosition tenants fails config position = position + config.batchSize := by
  have hm := h.lt
  have hpos := config.batchSize_pos
  have hp : position < tenants.ids.length := by omega
  have hquiet : (window tenants config position).any fails = false := by
    rw [List.any_eq_false]
    intro other hother
    obtain ⟨k, hk⟩ := List.getElem?_of_mem hother
    rw [window_getElem? hp] at hk
    split at hk
    · simp [h.before (position + k) (by omega) other hk]
    · cases hk
  unfold nextPosition
  rw [hquiet, if_pos hp, min_eq_left (by omega)]
  rfl

/-- The window that the cycles end in. -/
def lastWindow (config : ReportMaterializationWorkerConfig) (m : Nat) : Nat :=
  m / config.batchSize * config.batchSize

lemma lastWindow_bounds (config : ReportMaterializationWorkerConfig) (m : Nat) :
    lastWindow config m ≤ m ∧ m < lastWindow config m + config.batchSize := by
  have hdiv := Nat.div_add_mod' m config.batchSize
  have hmod := Nat.mod_lt m config.batchSize_pos
  unfold lastWindow
  omega

lemma FirstFailing.positionAfter_early (h : FirstFailing tenants fails m first) :
    ∀ k, k ≤ m / config.batchSize →
      positionAfter tenants fails config k = k * config.batchSize := by
  intro k
  induction k with
  | zero =>
      intro _
      simp [positionAfter]
  | succ k ih =>
      intro hk
      have hbound : (k + 1) * config.batchSize ≤ m := by
        have hmul := Nat.mul_le_mul_right config.batchSize hk
        have hdiv := Nat.div_mul_le_self m config.batchSize
        omega
      have hmove : k * config.batchSize + config.batchSize ≤ m := by
        rw [← Nat.succ_mul]
        exact hbound
      have hstep : positionAfter tenants fails config (k + 1) =
          nextPosition tenants fails config (positionAfter tenants fails config k) := rfl
      rw [hstep, ih (by omega), h.moves hmove, Nat.succ_mul]

/-- **Stuck**: from some cycle on, every cycle is at the window of the first failing tenant. -/
lemma FirstFailing.positionAfter_late (h : FirstFailing tenants fails m first) (k : Nat) :
    positionAfter tenants fails config (m / config.batchSize + k) = lastWindow config m := by
  induction k with
  | zero =>
      rw [Nat.add_zero]
      exact h.positionAfter_early _ le_rfl
  | succ k ih =>
      obtain ⟨hle, hlt⟩ := lastWindow_bounds config m
      have hstep : positionAfter tenants fails config (m / config.batchSize + (k + 1)) =
          nextPosition tenants fails config
            (positionAfter tenants fails config (m / config.batchSize + k)) := rfl
      rw [hstep, ih, h.stays hle hlt]

/-- What every cycle rebuilds then: the tenants of the window before the first failing one. -/
lemma FirstFailing.rebuilt_late (h : FirstFailing tenants fails m first) (k : Nat) :
    id ∈ rebuiltIn tenants fails config (m / config.batchSize + k) ↔
      ∃ i, lastWindow config m ≤ i ∧ i < m ∧ tenants.ids[i]? = some id := by
  obtain ⟨hle, hlt⟩ := lastWindow_bounds config m
  have hp : lastWindow config m < tenants.ids.length := hle.trans_lt h.lt
  rw [rebuiltIn_eq, h.positionAfter_late, mem_takeWhile_iff]
  constructor
  · rintro ⟨j, hj, hall⟩
    have hbefore : lastWindow config m + j < m := by
      by_contra hnot
      have hthrows := hall (m - lastWindow config m) (by omega) first (by
        rw [window_getElem? hp, if_pos (by omega), ← h.at_]
        congr 1
        omega)
      rw [h.throws] at hthrows
      cases hthrows
    rw [window_getElem? hp, if_pos (by omega)] at hj
    exact ⟨lastWindow config m + j, by omega, hbefore, hj⟩
  · rintro ⟨i, hi, him, hid⟩
    refine ⟨i - lastWindow config m, ?_, fun k hk other hother => ?_⟩
    · rw [window_getElem? hp, if_pos (by omega), ← hid]
      congr 1
      omega
    · rw [window_getElem? hp, if_pos (by omega)] at hother
      exact h.before _ (by omega) other hother

/-- The tenants whose rebuild does not throw come first, and fit into less than one batch. -/
def FailingLast (tenants : TenantTable Id) (fails : Id → Bool)
    (config : ReportMaterializationWorkerConfig) : Prop :=
  (∀ id ∈ tenants.ids, ∀ other ∈ tenants.ids, fails id = false → fails other = true → id < other) ∧
    (tenants.ids.filter fun id => ! fails id).length < config.batchSize

lemma FirstFailing.everyTenantRebuilt (h : FirstFailing tenants fails m first)
    (hlast : FailingLast tenants fails config) : EveryTenantRebuilt tenants fails config := by
  obtain ⟨hfirst, hcount⟩ := hlast
  have hfirst_mem : first ∈ tenants.ids := List.mem_of_getElem? h.at_
  have hplace : ∀ {i : Nat} {id : Id}, tenants.ids[i]? = some id → fails id = false → i < m := by
    intro i id hi hok
    by_contra hnot
    rcases Nat.eq_or_lt_of_le (not_lt.1 hnot) with heq | hlt
    · subst heq
      obtain rfl := Option.some.inj (hi.symm.trans h.at_)
      rw [h.throws] at hok
      cases hok
    · have hbefore := hfirst id (List.mem_of_getElem? hi) first hfirst_mem hok h.throws
      exact absurd (lt_of_places h.at_ hi hlt) (not_lt.2 hbefore.le)
  -- the first `m` tenants are rebuilt, so there are less than one batch of them
  have htake : (tenants.ids.take m).filter (fun id => ! fails id) = tenants.ids.take m := by
    rw [List.filter_eq_self]
    intro id hid
    obtain ⟨i, hi⟩ := List.getElem?_of_mem hid
    rw [List.getElem?_take] at hi
    split at hi
    · simp [h.before i (by omega) id hi]
    · cases hi
  have hlt : m < config.batchSize := by
    have hsub := ((List.take_sublist m tenants.ids).filter fun id => ! fails id).length_le
    have hm := h.lt
    rw [htake, List.length_take, min_eq_left hm.le] at hsub
    omega
  have hzero : lastWindow config m = 0 := by
    unfold lastWindow
    rw [Nat.div_eq_of_lt hlt, Nat.zero_mul]
  refine ⟨1, fun start id hid hok => ⟨start, le_rfl, by omega, ?_⟩⟩
  obtain ⟨i, hi⟩ := List.getElem?_of_mem hid
  have hrebuilt : id ∈ rebuiltIn tenants fails config (m / config.batchSize + start) :=
    (h.rebuilt_late start).2 ⟨i, by omega, hplace hi hok, hi⟩
  rw [Nat.div_eq_of_lt hlt, Nat.zero_add] at hrebuilt
  exact hrebuilt

lemma FirstFailing.failingLast (h : FirstFailing tenants fails m first)
    (hall : EveryTenantRebuilt tenants fails config) : FailingLast tenants fails config := by
  obtain ⟨bound, hbound⟩ := hall
  have hplace : ∀ {i : Nat} {id : Id}, tenants.ids[i]? = some id → fails id = false →
      lastWindow config m ≤ i ∧ i < m := by
    intro i id hi hok
    obtain ⟨cycle, hcycle, -, hmem⟩ :=
      hbound (m / config.batchSize) id (List.mem_of_getElem? hi) hok
    obtain ⟨k, rfl⟩ := Nat.exists_eq_add_of_le hcycle
    obtain ⟨j, hj, hjm, hid⟩ := (h.rebuilt_late k).1 hmem
    obtain rfl := place_unique hi hid
    exact ⟨hj, hjm⟩
  constructor
  · intro id hid other hother hok hthrows
    obtain ⟨i, hi⟩ := List.getElem?_of_mem hid
    obtain ⟨j, hj⟩ := List.getElem?_of_mem hother
    have him := (hplace hi hok).2
    have hjm : m ≤ j := by
      by_contra hnot
      rw [h.before j (by omega) other hj] at hthrows
      cases hthrows
    exact lt_of_places hi hj (by omega)
  · -- a tenant before the first failing one is in the last window, so that this is the first
    have hm : m < config.batchSize := by
      rcases Nat.eq_zero_or_pos m with h0 | hpos
      · have := config.batchSize_pos
        omega
      · have hm := h.lt
        have h0 : 0 < tenants.ids.length := by omega
        have hget := List.getElem?_eq_getElem h0
        have hstart := (hplace hget (h.before 0 hpos _ hget)).1
        have hbounds := (lastWindow_bounds config m).2
        omega
    have hrest : (tenants.ids.drop m).filter (fun id => ! fails id) = [] := by
      rw [List.filter_eq_nil_iff]
      intro id hid
      obtain ⟨i, hi⟩ := List.getElem?_of_mem hid
      rw [List.getElem?_drop] at hi
      intro hok
      have him := (hplace hi (by simpa using hok)).2
      omega
    have hsplit : (tenants.ids.filter fun id => ! fails id).length ≤ m := by
      conv_lhs => rw [← List.take_append_drop m tenants.ids, List.filter_append, hrest,
        List.append_nil]
      exact (List.length_filter_le ..).trans (List.length_take_le ..)
    omega

/-- **Every tenant is rebuilt, round by round,** exactly if no rebuild throws, or the tenants whose
rebuild does not throw come before all others and are fewer than a batch. -/
theorem everyTenantRebuilt_iff : EveryTenantRebuilt tenants fails config ↔
    (∀ id ∈ tenants.ids, fails id = false) ∨ FailingLast tenants fails config := by
  by_cases hsome : ∃ id ∈ tenants.ids, fails id = true
  · obtain ⟨m, first, h⟩ := exists_firstFailing hsome
    constructor
    · exact fun hall => .inr (h.failingLast hall)
    · rintro (hnone | hlast)
      · have hok := hnone first (List.mem_of_getElem? h.at_)
        rw [h.throws] at hok
        cases hok
      · exact h.everyTenantRebuilt hlast
  · have hnone : ∀ id ∈ tenants.ids, fails id = false := by
      intro id hid
      by_contra hne
      exact hsome ⟨id, hid, by simpa using hne⟩
    exact iff_of_true (everyTenantRebuilt_of_none hnone) (.inl hnone)

end sweeps

/-! ### Three tenants -/

namespace Shop

def threeTenants : TenantTable Nat := ⟨[0, 1, 2], by simp⟩

def oneByOne : ReportMaterializationWorkerConfig := ⟨1, by decide⟩

end Shop

/-- The second of three tenants fails: the third is never rebuilt. -/
theorem failing_tenant_starves :
    ¬ EveryTenantRebuilt Shop.threeTenants (fun id => id == 1) Shop.oneByOne := by
  rw [everyTenantRebuilt_iff]
  rintro (hnone | ⟨hfirst, -⟩)
  · have hone := hnone 1 (by simp [Shop.threeTenants])
    simp at hone
  · have hlast := hfirst 2 (by simp [Shop.threeTenants]) 1 (by simp [Shop.threeTenants]) rfl rfl
    omega

end ShopcityLoyalty
