import ShopcityLoyalty.Confirmations

/-!
The rows of redemptions and the ledger they are settled in, as one state machine: what a
redemption records of its transitions, and that a settled one and its debit tell the same.
-/

namespace ShopcityLoyalty

open Database

/-- The redemptions and the ledger. -/
structure Till where
  redemptions : Table Redemption
  ledger : Table LoyaltyLedgerEntry

def Database.till (s : Database) : Till := ⟨s.redemptions, s.ledger⟩

/-- Whether some entry reverses the entry of an id. -/
def Till.reversed (a : Till) (entryId : Nat) : Prop :=
  ∃ x ∈ a.ledger, x.reversesEntryId = some entryId

/-- What a redemption records in each of its states. -/
inductive Redemption.Recorded (d : Redemption) : Prop
  | waiting (status : d.status = .PENDING_APPROVAL) (confirmedAt : d.confirmedAt = none)
      (rejectedAt : d.rejectedAt = none) (reversedAt : d.reversedAt = none)
      (ledgerEntryId : d.ledgerEntryId = none)
  | confirmed {c} (status : d.status = .CONFIRMED) (confirmedAt : d.confirmedAt = some c)
      (rejectedAt : d.rejectedAt = none) (reversedAt : d.reversedAt = none)
      (amount : d.confirmedAmountKobo = some (d.requestedAmountKobo : Int))
      (ledgerEntryId : d.ledgerEntryId ≠ none)
  | declined {r} (status : d.status = .REJECTED ∨ d.status = .EXPIRED)
      (confirmedAt : d.confirmedAt = none) (rejectedAt : d.rejectedAt = some r)
      (reversedAt : d.reversedAt = none) (ledgerEntryId : d.ledgerEntryId = none)
  | reversed {c v} (status : d.status = .REVERSED) (confirmedAt : d.confirmedAt = some c)
      (rejectedAt : d.rejectedAt = none) (reversedAt : d.reversedAt = some v)
      (amount : d.confirmedAmountKobo = some (d.requestedAmountKobo : Int))
      (ledgerEntryId : d.ledgerEntryId ≠ none)

/-- A settled redemption and the entry that settled it. -/
structure Tie (a : Till) (d : Redemption) (i : Nat) (e : LoyaltyLedgerEntry) : Prop where
  entry : a.ledger[i]? = some e
  type : e.type = .REDEEM
  tenantId : e.tenantId = d.tenantId
  amountKobo : e.amountKobo = d.requestedAmountKobo
  reversed : d.status = .REVERSED ↔ a.reversed i

structure Till.Tied (a : Till) : Prop where
  recorded : ∀ d ∈ a.redemptions, d.Recorded
  entry : ∀ {j i : Nat} {d : Redemption}, a.redemptions[j]? = some d → d.ledgerEntryId = some i →
    ∃ e, Tie a d i e
  once : ∀ {j n i : Nat} {d x : Redemption}, a.redemptions[j]? = some d →
    a.redemptions[n]? = some x → d.ledgerEntryId = some i → x.ledgerEntryId = some i → j = n
  redemption : ∀ {i : Nat} {e : LoyaltyLedgerEntry}, a.ledger[i]? = some e → e.type = .REDEEM →
    ∃ (j : Nat) (d : Redemption), a.redemptions[j]? = some d ∧ d.ledgerEntryId = some i
  existing : ∀ {i : Nat}, a.reversed i → i < a.ledger.length

/-! ### Moves -/

/-- An entry that is no REDEEM entry and reverses none. -/
structure Aside (ledger : Table LoyaltyLedgerEntry) (e : LoyaltyLedgerEntry) : Prop where
  type : e.type ≠ .REDEEM
  reverses : ∀ i, e.reversesEntryId = some i → ∃ o, ledger[i]? = some o ∧ o.type ≠ .REDEEM

inductive TillMove (a b : Till) : Prop
  | aside {es ds} (ledger : b.ledger = a.ledger ++ es)
      (redemptions : b.redemptions = a.redemptions ++ ds)
      (entries : ∀ e ∈ es, Aside a.ledger e)
      (fresh : ∀ d ∈ ds, d.status = .PENDING_APPROVAL ∧ d.Recorded)
  | declined {j : Nat} {d d' : Redemption} {r : Int} (row : a.redemptions[j]? = some d)
      (waiting : d.status = .PENDING_APPROVAL)
      (changed : d' = LoyaltyService.rejectedRedemption r d ∨ d' = expiredRedemptionRow r d)
      (redemptions : b.redemptions = a.redemptions.set j d') (ledger : b.ledger = a.ledger)
  | settled {j : Nat} {d : Redemption} {input : RedemptionSettlementInput} {k : PositiveKobo}
      (row : a.redemptions[j]? = some d) (waiting : d.status = .PENDING_APPROVAL)
      (amount : (k : Int) = input.redeemedAmountKobo)
      (requested : input.redeemedAmountKobo = d.requestedAmountKobo)
      (tenantId : input.tenantId = d.tenantId)
      (redemptions : b.redemptions = a.redemptions.set j (input.confirmed a.ledger.length d))
      (ledger : b.ledger = a.ledger ++ [input.redeemEntry k])
  | reversed {i : Nat} {o e : LoyaltyLedgerEntry} {v : Int} (entry : a.ledger[i]? = some o)
      (type : o.type = .REDEEM) (other : e.type ≠ .REDEEM) (reverses : e.reversesEntryId = some i)
      (ledger : b.ledger = a.ledger ++ [e])
      (marked : ∀ (j : Nat) d, a.redemptions.find (fun r => r.ledgerEntryId = some i) =
        some (j, d) →
        d.tenantId = o.tenantId →
        b.redemptions = a.redemptions.set j (ReversalsService.reversedRedemption v d))

/-! ### What a move keeps -/

variable {a b : Till}

lemma Redemption.Recorded.of_waiting {d : Redemption} (h : d.Recorded)
    (hw : d.status = .PENDING_APPROVAL) :
    d.confirmedAt = none ∧ d.rejectedAt = none ∧ d.reversedAt = none ∧ d.ledgerEntryId = none := by
  cases h with
  | waiting _ hc hr hv hl => exact ⟨hc, hr, hv, hl⟩
  | confirmed hs => rw [hw] at hs; cases hs
  | declined hs => rw [hw] at hs; rcases hs with hs | hs <;> cases hs
  | reversed hs => rw [hw] at hs; cases hs

lemma Till.reversed_append {es : List LoyaltyLedgerEntry} (hl : b.ledger = a.ledger ++ es)
    {i : Nat} : b.reversed i ↔ a.reversed i ∨ ∃ e ∈ es, e.reversesEntryId = some i := by
  simp only [Till.reversed, hl, List.mem_append, or_and_right, exists_or]

lemma Till.reversed_aside {es : List LoyaltyLedgerEntry} (hl : b.ledger = a.ledger ++ es)
    (hes : ∀ e ∈ es, Aside a.ledger e) {i : Nat} {e : LoyaltyLedgerEntry}
    (he : a.ledger[i]? = some e) (htype : e.type = .REDEEM) : b.reversed i ↔ a.reversed i := by
  rw [reversed_append hl]
  refine ⟨?_, .inl⟩
  rintro (hr | ⟨x, hx, hi⟩)
  · exact hr
  · obtain ⟨o, ho, hne⟩ := (hes x hx).reverses i hi
    obtain rfl : e = o := Option.some.inj (he.symm.trans ho)
    exact absurd htype hne

namespace Till.Tied

lemma existing_append (h : a.Tied) {es : List LoyaltyLedgerEntry} (hl : b.ledger = a.ledger ++ es)
    (hes : ∀ e ∈ es, ∀ i, e.reversesEntryId = some i → i < a.ledger.length) {i : Nat}
    (hr : b.reversed i) : i < b.ledger.length := by
  rw [hl, List.length_append]
  rcases (reversed_append hl).1 hr with hr | ⟨e, he, hi⟩
  · have := h.existing hr
    omega
  · have := hes e he i hi
    omega

lemma aside (h : a.Tied) {es : List LoyaltyLedgerEntry} {ds : List Redemption}
    (hl : b.ledger = a.ledger ++ es) (hr : b.redemptions = a.redemptions ++ ds)
    (hes : ∀ e ∈ es, Aside a.ledger e)
    (hds : ∀ d ∈ ds, d.status = .PENDING_APPROVAL ∧ d.Recorded) : b.Tied := by
  have hold : ∀ {j i : Nat} {d : Redemption}, b.redemptions[j]? = some d →
    d.ledgerEntryId = some i →
      a.redemptions[j]? = some d := by
    intro j i d hj hi
    rw [hr] at hj
    rcases Table.of_getElem?_append hj with hj | ⟨-, hd⟩
    · exact hj
    · obtain ⟨hw, hrec⟩ := hds d hd
      rw [(hrec.of_waiting hw).2.2.2] at hi
      cases hi
  refine ⟨fun d hd => ?_, fun {j i d} hj hi => ?_, fun {j n i d x} hj hn hd hx => ?_,
    fun {i e} he htype => ?_, fun {i} => h.existing_append hl fun e he i hi => ?_⟩
  · rw [hr, List.mem_append] at hd
    rcases hd with hd | hd
    · exact h.recorded d hd
    · exact (hds d hd).2
  · obtain ⟨e, he⟩ := h.entry (hold hj hi) hi
    refine ⟨e, ?_, he.type, he.tenantId, he.amountKobo, ?_⟩
    · rw [hl]
      exact Table.getElem?_append he.entry
    · rw [reversed_aside hl hes he.entry he.type]
      exact he.reversed
  · exact h.once (hold hj hd) (hold hn hx) hd hx
  · rw [hl] at he
    rcases Table.of_getElem?_append he with he | ⟨-, he⟩
    · obtain ⟨j, d, hj, hi⟩ := h.redemption he htype
      refine ⟨j, d, ?_, hi⟩
      rw [hr]
      exact Table.getElem?_append hj
    · exact absurd htype (hes e he).type
  · obtain ⟨o, ho, -⟩ := (hes e he).reverses i hi
    exact Table.lt_of_getElem? ho

/-- A row without an entry changes, and has none afterwards. -/
lemma declined (h : a.Tied) {j : Nat} {d d' : Redemption} {now : Int}
    (hj : a.redemptions[j]? = some d) (hw : d.status = .PENDING_APPROVAL)
    (hd' : d' = LoyaltyService.rejectedRedemption now d ∨ d' = expiredRedemptionRow now d)
    (hr : b.redemptions = a.redemptions.set j d') (hl : b.ledger = a.ledger) : b.Tied := by
  obtain ⟨hc, -, hv, hnone⟩ := (h.recorded d (List.mem_of_getElem? hj)).of_waiting hw
  have hnone' : d'.ledgerEntryId = none := by rcases hd' with rfl | rfl <;> exact hnone
  have hrec : d'.Recorded := by
    rcases hd' with rfl | rfl
    · exact .declined (.inl rfl) hc rfl hv hnone
    · exact .declined (.inr rfl) hc rfl hv hnone
  have hold : ∀ {n i : Nat} {x : Redemption}, b.redemptions[n]? = some x →
      x.ledgerEntryId = some i → a.redemptions[n]? = some x := by
    intro n i x hn hi
    rw [hr] at hn
    rcases Table.getElem?_set_iff.1 hn with ⟨-, -, rfl⟩ | ⟨-, hn⟩
    · rw [hnone'] at hi
      cases hi
    · exact hn
  have hreversed : ∀ i, b.reversed i ↔ a.reversed i := by
    intro i
    simp only [Till.reversed, hl]
  refine ⟨fun x hx => ?_, fun {n i x} hn hi => ?_, fun {n m i x y} hn hm hx hy => ?_,
    fun {i e} he htype => ?_, fun {i} hi => ?_⟩
  · rw [hr] at hx
    rcases List.mem_or_eq_of_mem_set hx with hx | rfl
    · exact h.recorded x hx
    · exact hrec
  · obtain ⟨e, he⟩ := h.entry (hold hn hi) hi
    refine ⟨e, ?_, he.type, he.tenantId, he.amountKobo, ?_⟩
    · rw [hl]
      exact he.entry
    · rw [hreversed i]
      exact he.reversed
  · exact h.once (hold hn hx) (hold hm hy) hx hy
  · rw [hl] at he
    obtain ⟨n, x, hn, hi⟩ := h.redemption he htype
    have hjn : j ≠ n := by
      rintro rfl
      obtain rfl : d = x := Option.some.inj (hj.symm.trans hn)
      rw [hnone] at hi
      cases hi
    refine ⟨n, x, ?_, hi⟩
    rw [hr, List.getElem?_set_ne hjn]
    exact hn
  · rw [hl]
    exact h.existing ((hreversed i).1 hi)

/-- A redemption gets its debit, which is a new entry that nothing reverses. -/
lemma settled (h : a.Tied) {j : Nat} {d : Redemption} {input : RedemptionSettlementInput}
    {k : PositiveKobo} (hj : a.redemptions[j]? = some d) (hw : d.status = .PENDING_APPROVAL)
    (hk : (k : Int) = input.redeemedAmountKobo)
    (hamt : input.redeemedAmountKobo = d.requestedAmountKobo) (hten : input.tenantId = d.tenantId)
    (hr : b.redemptions = a.redemptions.set j (input.confirmed a.ledger.length d))
    (hl : b.ledger = a.ledger ++ [input.redeemEntry k]) : b.Tied := by
  obtain ⟨-, hrej, hv, hnone⟩ := (h.recorded d (List.mem_of_getElem? hj)).of_waiting hw
  have hreversed : ∀ i, b.reversed i ↔ a.reversed i := by
    intro i
    rw [reversed_append hl]
    simp [RedemptionSettlementInput.redeemEntry]
  have hnew : b.ledger[a.ledger.length]? = some (input.redeemEntry k) := by
    rw [hl]
    exact Table.getElem?_insert_self ..
  have hrec : (input.confirmed a.ledger.length d).Recorded := by
    have hconfirmed : (input.confirmed a.ledger.length d).confirmedAmountKobo =
        some (d.requestedAmountKobo : Int) := congrArg some hamt
    exact .confirmed rfl rfl hrej hv hconfirmed (by simp [RedemptionSettlementInput.confirmed])
  -- another row's entry is an old one
  have hrow : ∀ {n i : Nat} {x : Redemption}, b.redemptions[n]? = some x →
      x.ledgerEntryId = some i →
      (n = j ∧ x = input.confirmed a.ledger.length d ∧ i = a.ledger.length) ∨
        (a.redemptions[n]? = some x ∧ i < a.ledger.length) := by
    intro n i x hn hi
    rw [hr] at hn
    rcases Table.getElem?_set_iff.1 hn with ⟨hjn, -, rfl⟩ | ⟨-, hn⟩
    · exact .inl ⟨hjn.symm, rfl, (Option.some.inj hi).symm⟩
    · obtain ⟨e, he⟩ := h.entry hn hi
      exact .inr ⟨hn, Table.lt_of_getElem? he.entry⟩
  refine ⟨fun x hx => ?_, fun {n i x} hn hi => ?_, fun {n m i x y} hn hm hx hy => ?_,
    fun {i e} he htype => ?_, fun {i} => h.existing_append hl fun e he i hi => ?_⟩
  · rw [hr] at hx
    rcases List.mem_or_eq_of_mem_set hx with hx | rfl
    · exact h.recorded x hx
    · exact hrec
  · rcases hrow hn hi with ⟨-, rfl, rfl⟩ | ⟨hn, -⟩
    · refine ⟨_, hnew, rfl, hten, Subtype.ext (hk.trans hamt), ?_⟩
      rw [hreversed]
      constructor
      · intro hstatus
        cases hstatus
      · intro hrev
        exact absurd (h.existing hrev) (lt_irrefl _)
    · obtain ⟨e, he⟩ := h.entry hn hi
      refine ⟨e, ?_, he.type, he.tenantId, he.amountKobo, ?_⟩
      · rw [hl]
        exact Table.getElem?_append he.entry
      · rw [hreversed i]
        exact he.reversed
  · rcases hrow hn hx with ⟨rfl, -, rfl⟩ | ⟨hn, hlt⟩ <;>
      rcases hrow hm hy with ⟨rfl, -, hi⟩ | ⟨hm, hlt'⟩
    · rfl
    · omega
    · omega
    · exact h.once hn hm hx hy
  · rw [hl] at he
    rcases Table.getElem?_insert_iff.1 he with he | ⟨rfl, -⟩
    · obtain ⟨n, x, hn, hi⟩ := h.redemption he htype
      have hjn : j ≠ n := by
        rintro rfl
        obtain rfl : d = x := Option.some.inj (hj.symm.trans hn)
        rw [hnone] at hi
        cases hi
      refine ⟨n, x, ?_, hi⟩
      rw [hr, List.getElem?_set_ne hjn]
      exact hn
    · refine ⟨j, input.confirmed a.ledger.length d, ?_, rfl⟩
      rw [hr]
      exact List.getElem?_set_self (Table.lt_of_getElem? hj)
  · obtain rfl := List.mem_singleton.1 he
    cases hi

lemma find_redemption (h : a.Tied) {i : Nat} {o : LoyaltyLedgerEntry}
    (ho : a.ledger[i]? = some o) (htype : o.type = .REDEEM) :
    ∃ j d, a.redemptions.find (fun r => r.ledgerEntryId = some i) = some (j, d) ∧
      a.redemptions[j]? = some d ∧ d.ledgerEntryId = some i ∧ d.tenantId = o.tenantId := by
  cases hf : a.redemptions.find fun r => r.ledgerEntryId = some i with
  | none =>
      obtain ⟨n, x, hn, hi⟩ := h.redemption ho htype
      have hnot := Table.find_none.1 hf x (List.mem_of_getElem? hn)
      simp [hi] at hnot
  | some r =>
      obtain ⟨j, d⟩ := r
      obtain ⟨hj, hi⟩ := Table.find_some hf
      have hi' : d.ledgerEntryId = some i := by simpa using hi
      obtain ⟨e, he⟩ := h.entry hj hi'
      obtain rfl : o = e := Option.some.inj (ho.symm.trans he.entry)
      exact ⟨j, d, rfl, hj, hi', he.tenantId.symm⟩

/-- A debit is reversed, and its redemption is marked. -/
lemma reversed (h : a.Tied) {i : Nat} {o e : LoyaltyLedgerEntry} {now : Int}
    (ho : a.ledger[i]? = some o) (htype : o.type = .REDEEM) (hother : e.type ≠ .REDEEM)
    (hrev : e.reversesEntryId = some i) (hl : b.ledger = a.ledger ++ [e])
    (hmark : ∀ (j : Nat) d, a.redemptions.find (fun r => r.ledgerEntryId = some i) = some (j, d) →
      d.tenantId = o.tenantId →
      b.redemptions = a.redemptions.set j (ReversalsService.reversedRedemption now d)) :
        b.Tied := by
  obtain ⟨j, d, hfind, hj, hi, hten⟩ := h.find_redemption ho htype
  have hr := hmark j d hfind hten
  have hreversed : ∀ n, b.reversed n ↔ a.reversed n ∨ n = i := by
    intro n
    rw [reversed_append hl]
    simp [hrev, eq_comm]
  have hrec : (ReversalsService.reversedRedemption now d).Recorded := by
    have hsome : d.ledgerEntryId ≠ none := by simp [hi]
    cases h.recorded d (List.mem_of_getElem? hj) with
    | waiting _ _ _ _ hl => exact absurd hl hsome
    | confirmed _ hc hrej _ hamt _ => exact .reversed rfl hc hrej rfl hamt hsome
    | declined _ _ _ _ hl => exact absurd hl hsome
    | reversed _ hc hrej _ hamt _ => exact .reversed rfl hc hrej rfl hamt hsome
  -- the marked row is the entry's, any other row is as before
  have hrow : ∀ {n m : Nat} {x : Redemption}, b.redemptions[n]? = some x →
      x.ledgerEntryId = some m →
      (n = j ∧ x = ReversalsService.reversedRedemption now d ∧ m = i) ∨
        (n ≠ j ∧ m ≠ i ∧ a.redemptions[n]? = some x) := by
    intro n m x hn hm
    rw [hr] at hn
    rcases Table.getElem?_set_iff.1 hn with ⟨hjn, -, rfl⟩ | ⟨hjn, hn⟩
    · exact .inl ⟨hjn.symm, rfl, Option.some.inj (hm.symm.trans hi)⟩
    · refine .inr ⟨Ne.symm hjn, ?_, hn⟩
      rintro rfl
      exact hjn (h.once hj hn hi hm)
  refine ⟨fun x hx => ?_, fun {n m x} hn hm => ?_, fun {n m q x y} hn hm hx hy => ?_,
    fun {m y} hy hytype => ?_, fun {m} => h.existing_append hl fun y hy m hm => ?_⟩
  · rw [hr] at hx
    rcases List.mem_or_eq_of_mem_set hx with hx | rfl
    · exact h.recorded x hx
    · exact hrec
  · rcases hrow hn hm with ⟨-, rfl, rfl⟩ | ⟨-, hne, hn⟩
    · obtain ⟨y, hy⟩ := h.entry hj hi
      refine ⟨y, ?_, hy.type, hy.tenantId, hy.amountKobo, ?_⟩
      · rw [hl]
        exact Table.getElem?_append hy.entry
      · rw [hreversed]
        exact iff_of_true rfl (.inr rfl)
    · obtain ⟨y, hy⟩ := h.entry hn hm
      refine ⟨y, ?_, hy.type, hy.tenantId, hy.amountKobo, ?_⟩
      · rw [hl]
        exact Table.getElem?_append hy.entry
      · rw [hreversed, hy.reversed]
        simp [hne]
  · rcases hrow hn hx with ⟨rfl, -, hqi⟩ | ⟨-, hq, hn⟩ <;>
      rcases hrow hm hy with ⟨rfl, -, hqi'⟩ | ⟨-, hq', hm⟩
    · rfl
    · exact absurd hqi hq'
    · exact absurd hqi' hq
    · exact h.once hn hm hx hy
  · rw [hl] at hy
    rcases Table.getElem?_insert_iff.1 hy with hy | ⟨-, rfl⟩
    · obtain ⟨n, x, hn, hm⟩ := h.redemption hy hytype
      by_cases hjn : j = n
      · subst hjn
        obtain rfl : d = x := Option.some.inj (hj.symm.trans hn)
        refine ⟨j, ReversalsService.reversedRedemption now d, ?_, hm⟩
        rw [hr]
        exact List.getElem?_set_self (Table.lt_of_getElem? hj)
      · refine ⟨n, x, ?_, hm⟩
        rw [hr, List.getElem?_set_ne hjn]
        exact hn
    · exact absurd hytype hother
  · obtain rfl := List.mem_singleton.1 hy
    obtain rfl : i = m := Option.some.inj (hrev.symm.trans hm)
    exact Table.lt_of_getElem? ho

/-- **Every move keeps redemptions and debits tied.** -/
theorem move (h : a.Tied) (hm : TillMove a b) : b.Tied := by
  cases hm with
  | aside hl hr hes hds => exact h.aside hl hr hes hds
  | declined hj hw hd' hr hl => exact h.declined hj hw hd' hr hl
  | settled hj hw hk hamt hten hr hl => exact h.settled hj hw hk hamt hten hr hl
  | reversed ho htype hother hrev hl hmark => exact h.reversed ho htype hother hrev hl hmark

lemma moves (h : a.Tied) (hm : Relation.ReflTransGen TillMove a b) : b.Tied := by
  induction hm with
  | refl => exact h
  | tail _ hm ih => exact ih.move hm

lemma initial (registry : Registry) : (Database.initial registry).till.Tied :=
  ⟨fun _ hd => (by cases hd), fun h => (by cases h), fun h => (by cases h), fun h => (by cases h),
    fun ⟨_, hx, _⟩ => (by cases hx)⟩

end Till.Tied

/-! ### Every operation -/

section operations

variable {rt : Runtime} {now finishedAt : Int} {s t : Database}

/-- Moves from one database to another. -/
def TillMoves (s t : Database) : Prop := Relation.ReflTransGen TillMove s.till t.till

namespace TillMoves

lemma same (hr : t.redemptions = s.redemptions) (hl : t.ledger = s.ledger) : TillMoves s t := by
  have htill : s.till = t.till := by
    unfold Database.till
    rw [hr, hl]
  unfold TillMoves
  rw [htill]

lemma trans {u : Database} (h : TillMoves s t) (h' : TillMoves t u) : TillMoves s u :=
  Relation.ReflTransGen.trans h h'

lemma entries {es : List LoyaltyLedgerEntry} (hr : t.redemptions = s.redemptions)
    (hl : t.ledger = s.ledger ++ es) (hes : ∀ e ∈ es, Aside s.ledger e) : TillMoves s t := by
  have hr' : t.redemptions = s.redemptions ++ [] := by rw [hr, List.append_nil]
  exact .single (.aside hl hr' hes (by simp))

lemma plain {e : LoyaltyLedgerEntry} (hr : t.redemptions = s.redemptions)
    (hl : t.ledger = s.ledger ++ [e]) (htype : e.type ≠ .REDEEM)
    (hrev : e.reversesEntryId = none) : TillMoves s t := by
  refine entries hr hl fun x hx => ?_
  obtain rfl := List.mem_singleton.1 hx
  refine ⟨htype, fun i hi => ?_⟩
  rw [hrev] at hi
  cases hi

lemma requested {d : Redemption} (hr : t.redemptions = s.redemptions ++ [d])
    (hl : t.ledger = s.ledger) (hw : d.status = .PENDING_APPROVAL) (hd : d.Recorded) :
    TillMoves s t := by
  have hl' : t.ledger = s.ledger ++ [] := by rw [hl, List.append_nil]
  refine .single (.aside hl' hr (by simp) fun x hx => ?_)
  obtain rfl := List.mem_singleton.1 hx
  exact ⟨hw, hd⟩

lemma earned {input : RedemptionSettlementInput} {k : Int} {i : Option Nat}
    (h : Earned input k s t i) : TillMoves s t := by
  cases h with
  | nothing _ hf => exact .same (by rw [hf]) (by rw [hf])
  | credit _ _ hf =>
      exact .plain (by rw [hf]) (by rw [hf]) (by simp [RedemptionSettlementInput.earnEntry]) rfl

lemma settled {input : RedemptionSettlementInput} {k : PositiveKobo} {r : Redemption}
    {rows : List RedemptionAllocation} {m w : Database} {res : RedemptionSettlementResult}
    (h : Settled input k r rows m w res s t) (hw : r.status = .PENDING_APPROVAL)
    (hamt : input.redeemedAmountKobo = r.requestedAmountKobo) (hten : input.tenantId = r.tenantId) :
    TillMoves s t := by
  have hm : TillMoves s m := by
    refine .single (.settled h.redemption hw h.amount hamt hten ?_ ?_)
    · change m.redemptions = _
      rw [h.middle]
      rfl
    · change m.ledger = _
      rw [h.middle]
      rfl
  have hwt : TillMoves w t := .same (by rw [h.frame]) (by rw [h.frame])
  exact (hm.trans (earned h.earned)).trans hwt

end TillMoves

lemma TargetExpired.till {tenantId : String} {actor : Option StaffRef} {target : ApprovalTarget}
    {receiptId : Option Nat} (h : TargetExpired tenantId now actor s target receiptId t) :
    TillMoves s t := by
  cases h with
  | earn => exact .same rfl rfl
  | redeem _ _ hrow hw _ => exact .single (.declined hrow hw.2 (.inr rfl) rfl rfl)
  | alone hrow hw _ => exact .single (.declined hrow hw.2 (.inr rfl) rfl rfl)

lemma ApprovalExpired.till {i : Nat} {a : Approval} {tenantId : String} {target : ApprovalTarget}
    {receiptId : Option Nat} {actor : Option StaffRef} {m : Database}
    (h : ApprovalExpired i a tenantId target receiptId now actor m s t) : TillMoves s t := by
  have hm : TillMoves s m := h.target.till
  exact hm.trans (.same (by rw [h.frame]) (by rw [h.frame]))

lemma Lapsed.till (h : Relation.ReflTransGen (Lapsed now) s t) : TillMoves s t := by
  induction h with
  | refl => exact .same rfl rfl
  | tail _ hlast ih =>
      obtain ⟨i, a, m, hx⟩ := hlast
      exact ih.trans hx.till

lemma LoyaltyService.EarnCommitted.till {req : EarnRequest} {adm : EarnAdmission}
    {ctx : EarnContext} {amount : PositiveKobo} {res : EarnTransactionResponse}
    (h : EarnCommitted rt req adm ctx amount now res s t) : TillMoves s t := by
  cases h with
  | pending h => exact .same (by rw [h.frame]) (by rw [h.frame])
  | credited h =>
      exact .plain (by rw [h.frame]) (by rw [h.frame]) (by simp [earnLedgerEntry]) rfl

lemma RedemptionsService.RedeemCommitted.till {req : RedeemRequest} {adm : RedeemAdmission}
    {ctx : RedeemContext} {a : RedeemAssessment} {res : RedeemTransactionResponse}
    (h : RedeemCommitted rt req adm ctx a now res s t) : TillMoves s t := by
  cases h with
  | pending h =>
      exact .requested (by rw [h.frame]) (by rw [h.frame]) rfl (.waiting rfl rfl rfl rfl rfl)
  | @settled k r rows x v m u w h =>
      have hr : r = redeemRedemption req adm ctx a s.receipts.length now := by
        have hrow := h.settlement.redemption
        have hid : (requestedSettlement req adm ctx a s.receipts.length s.redemptions.length
          now).redemptionId = s.redemptions.length := rfl
        rw [h.captured, hid, Table.getElem?_insert_self] at hrow
        exact (Option.some.inj hrow).symm
      have hv : TillMoves s v :=
        .requested (by rw [h.captured]) (by rw [h.captured]) rfl (.waiting rfl rfl rfl rfl rfl)
      have hw : TillMoves v w :=
        .settled h.settlement (by rw [hr]; rfl) (by rw [hr]; rfl) (by rw [hr]; rfl)
      exact (hv.trans hw).trans (.same (by rw [h.frame]) (by rw [h.frame]))

lemma LoyaltyService.FoundExpired.till {req : DecisionRequest} {a : Approval}
    {receiptId : Option Nat} (h : FoundExpired req a receiptId now s t) : TillMoves s t := by
  obtain ⟨m, hx⟩ := h.expired
  exact hx.till

lemma LoyaltyService.TargetDecided.till (hd : Desk s) {req : DecisionRequest} {a : Approval}
    {res : DecisionResult} (hdec : LoyaltyService.Decidable req a s)
    (h : TargetDecided rt req a now s t res) : TillMoves s t := by
  cases h with
  | @earn receiptId _ h =>
      cases h with
      | expired h => exact h.till
      | rejected h => exact .same (by rw [h.frame]) (by rw [h.frame])
      | executed h =>
          exact .plain (by rw [h.frame]) (by rw [h.frame]) (by simp [approvedLedgerEntry]) rfl
  | @redeem redemptionId d htar hrow hten h =>
      have hwait : d.status = .PENDING_APPROVAL := by
        obtain ⟨k, r, hfile⟩ := hd.file hdec.approval
        have hf := hfile.filed
        rw [hdec.pending] at hf
        have hst := hf.of_pending.2.2
        rw [htar, Database.redemptionOf, hrow] at hst
        simpa using hst
      cases h with
      | expired h => exact h.till
      | rejected h =>
          refine .single (.declined (r := now) hrow hwait (.inl rfl) ?_ ?_)
          · change t.redemptions = _
            rw [h.frame]
            rfl
          · change t.ledger = _
            rw [h.frame]
            rfl
      | @executed r k rows x v m u w h =>
          have hv : TillMoves s v := .same (by rw [h.approved]) (by rw [h.approved])
          have htenant : req.actor.tenantId = d.tenantId := (hten.trans hdec.tenantId).symm
          have hw : TillMoves v w := .settled h.settlement hwait rfl htenant
          exact (hv.trans hw).trans (.same (by rw [h.frame]) (by rw [h.frame]))

namespace ReversalsService

variable {input : ReversalInput} {customerId : String} {entryId lotId : Nat} {k : PositiveKobo}
  {c : CorrelationId} {l : CreditLot} {row : RedemptionAllocation}

lemma Compensated.till (h : Compensated input customerId entryId lotId k c now l row s t) :
    TillMoves s t := by
  refine .entries (by rw [h.frame]) (by rw [h.frame]) fun e he => ?_
  obtain rfl := List.mem_singleton.1 he
  refine ⟨by simp [compensatingEntry], fun i hi => ?_⟩
  obtain ⟨o, ho, -, htype, -⟩ := (h.posting.reverses i hi).credit
  refine ⟨o, ho, ?_⟩
  rcases htype with htype | htype <;> simp [htype]

lemma Restored.redeem {planned : List PlannedRestoration} {rows : List AllocationRestoration}
    {m w : Database} (h : Restored input customerId entryId k c now planned rows s m)
    {o : LoyaltyLedgerEntry} (ho : s.ledger[entryId]? = some o) (htype : o.type = .REDEEM)
    (hten : o.tenantId = input.actor.tenantId)
    (hmark : MarksFound input.actor.tenantId entryId now m w) (hl : w.ledger = m.ledger) :
    TillMoves s w := by
  have hr : m.redemptions = s.redemptions := by rw [h.frame]
  refine .single (TillMove.reversed (v := now)
    (e := restoringEntry input customerId entryId k c now) ho htype (by simp [restoringEntry]) rfl
    ?_ fun j d hfind hd => ?_)
  · change w.ledger = _
    rw [hl, h.frame]
    rfl
  · have hfound : redemptionOf m entryId = some (j, d) := by
      unfold redemptionOf
      rw [hr]
      exact hfind
    have hset := hmark j d hfound (hd.trans hten)
    rw [hr] at hset
    exact hset

lemma CreditReversed.till {o : LoyaltyLedgerEntry} {res : ReversalResponse} {m : Database}
    (h : CreditReversed input o lotId k l row now finishedAt res m s t) : TillMoves s t :=
  h.compensated.till.trans (.same (by rw [h.completed]) (by rw [h.completed]))

lemma DebitReversed.till {o : LoyaltyLedgerEntry} {planned : List PlannedRestoration}
    {rows : List AllocationRestoration} {res : ReversalResponse} {m w : Database}
    (h : DebitReversed input o k planned rows now finishedAt res m w s t)
    (ho : s.ledger[input.transactionId]? = some o) (hten : o.tenantId = input.actor.tenantId) :
    TillMoves s t := by
  have hwt : TillMoves w t := .same (by rw [h.completed]) (by rw [h.completed])
  refine .trans ?_ hwt
  by_cases htype : o.type = .REDEEM
  · exact h.restored.redeem ho htype hten (h.found htype) (by rw [h.marked.frame])
  · have hw : w = m := h.unmarked htype
    rw [hw]
    refine .entries (by rw [h.restored.frame]) (by rw [h.restored.frame]) fun e he => ?_
    obtain rfl := List.mem_singleton.1 he
    refine ⟨by simp [restoringEntry], fun i hi => ?_⟩
    obtain rfl : input.transactionId = i := Option.some.inj hi
    exact ⟨o, ho, htype⟩

lemma PairReversed.till {p : SettlementPair} {planned : List PlannedRestoration}
    {rows : List AllocationRestoration} {res : ReversalResponse} {m v w : Database} {n : Nat}
    (h : PairReversed input p lotId l row planned rows now finishedAt res m v w s t)
    (hp : FoundPair input n p s) : TillMoves s t := by
  have ho : m.ledger[p.redeemId]? = some p.redeem := by
    rw [h.compensated.frame]
    exact Table.getElem?_append hp.redeem.1
  have hv : TillMoves m w :=
    h.restored.redeem ho hp.redeem_kind.1 hp.tenantId.2 h.found (by rw [h.marked.frame])
  exact (h.compensated.till.trans hv).trans (.same (by rw [h.completed]) (by rw [h.completed]))

lemma ReverseCommitted.till {o : LoyaltyLedgerEntry} {existing : Option Response}
    {res : Response} (h : ReverseCommitted input o now finishedAt existing s t res)
    (hsel : Selected input o s) : TillMoves s t := by
  cases h with
  | credit _ _ _ h => exact h.till
  | debit _ _ _ h => exact h.till hsel.original hsel.tenantId
  | pair _ _ hp h =>
      cases h with
      | reversed _ h => exact h.till hp
      | replayed hs _ _ => exact hs ▸ .same rfl rfl
  | replayed _ _ hs => exact hs ▸ .same rfl rfl

end ReversalsService

lemma AdjustmentsService.AdjustmentCommitted.till {req : AdjustmentRequest}
    {res : AdjustmentResponse} (h : AdjustmentCommitted req finishedAt res s t) :
    TillMoves s t := by
  cases h with
  | credit h => exact .plain (by rw [h.frame]) (by rw [h.frame]) (by simp [adjustmentEntry]) rfl
  | debit h => exact .plain (by rw [h.frame]) (by rw [h.frame]) (by simp [adjustmentEntry]) rfl

lemma CreditExpiryService.Expired.till (h : CreditExpiryService.Expired s t) : TillMoves s t := by
  obtain ⟨es, hl, hall⟩ := ledger_of_expired h.postings
  refine .entries (by rw [h.frame]) hl fun e he => ⟨by simp [(hall e he).1], fun i hi => ?_⟩
  rw [(hall e he).2.2] at hi
  cases hi

lemma RecordsOnly.till (h : RecordsOnly s t) : TillMoves s t :=
  .same (by rw [h.frame]) (by rw [h.frame])

/-- **Every operation** is a sequence of moves of redemptions and their debits. -/
theorem Outcome.till {op : Op} (hd : Desk s) (h : Outcome rt s t op) : TillMoves s t := by
  cases h with
  | earn _ h => exact h.till
  | redeem _ h => exact h.till
  | @decide _ _ _ _ _ v _ hv hdec h =>
      have hmove : Move s v := .same (by rw [hv]) (by rw [hv]) (by rw [hv]) (by rw [hv])
      have hsv : TillMoves s v := .same (by rw [hv]) (by rw [hv])
      exact hsv.trans (h.till (hd.move hmove) hdec)
  | @reverse _ _ _ _ _ v _ _ hopen hsel h =>
      have hsv : TillMoves s v := by cases hopen <;> exact .same rfl rfl
      exact hsv.trans (h.till hsel)
  | adjust _ h => exact h.till
  | expireCredit h => exact h.till
  | expireApprovals h => exact Lapsed.till h
  | completeDecision h | cleanup h | cleanupAnyEndpoint h | recordDuplicate h | administer h =>
      exact h.till

end operations

/-- **Every reachable state** ties its redemptions to their debits. -/
theorem Reachable.tied {rt : Runtime} {s : System} (h : Reachable rt s) : s.db.till.Tied := by
  obtain ⟨registry, hrun⟩ := h
  have hboth : Invariants s.db ∧ s.db.till.Tied := by
    refine hrun.invariant (I := fun s => Invariants s.db ∧ s.db.till.Tied) ?_
      ⟨.initial registry, .initial registry⟩
    intro op s t _ ⟨hs, htied⟩ hstep
    have hout := hstep.outcome hs.books.sound
    exact ⟨hs.outcome hout, htied.moves (hout.till hs.desk)⟩
  exact hboth.2

end ShopcityLoyalty
