import ShopcityLoyalty.Invariants

/-!
Credit expires once: what is left of an overdue lot goes in one sweep, and nothing touches
the lot again.

A sweep writes for lots that have something left, every other operation either draws from
such lots or restores to lots that are unexpired at its own clock reading. So a lot whose
expiry is written stays spent as long as the clock does not go back.
-/

namespace ShopcityLoyalty

open Txn Database

/-! ### Spent lots -/

namespace Books

/-- A lot that is expired at an instant, with nothing left. -/
def Spent (b : Books) (now : Int) (i : Nat) : Prop :=
  ∃ l, b.lots[i]? = some l ∧ l.remainingAmountKobo = 0 ∧ l.expiresAt ≤ now

/-- The allocations and restorations on a lot are the same. -/
structure Untouched (i : Nat) (b c : Books) : Prop where
  allocations : c.allocations.filter (fun a => a.creditLotId = i) =
    b.allocations.filter fun a => a.creditLotId = i
  restorations : c.restorations.filter (fun r => c.restoresLot i r) =
    b.restorations.filter fun r => b.restoresLot i r

/-- Every expiry is of a spent lot, and every entry named as an expiry has its row. -/
structure Expiries (b : Books) (clock : Int) : Prop where
  spent : ∀ x ∈ b.expiries, b.Spent clock x.creditLotId
  named : ∀ e ∈ b.ledger, ∀ i, e.isExpiryOf i → ∃ x ∈ b.expiries, x.creditLotId = i

variable {b c d : Books} {now now' : Int} {i : Nat}

lemma Spent.later (h : b.Spent now i) (hle : now ≤ now') : b.Spent now' i := by
  obtain ⟨l, hl, hzero, hexp⟩ := h
  exact ⟨l, hl, hzero, hexp.trans hle⟩

lemma Untouched.refl (i : Nat) (b : Books) : Untouched i b b := ⟨rfl, rfl⟩

lemma Untouched.trans (h : Untouched i b c) (h' : Untouched i c d) : Untouched i b d :=
  ⟨h'.allocations.trans h.allocations, h'.restorations.trans h.restorations⟩

lemma Expiries.later (h : b.Expiries now) (hle : now ≤ now') : b.Expiries now' :=
  ⟨fun x hx => (h.spent x hx).later hle, h.named⟩

lemma Sound.restoresLot_grows (hb : b.Sound) (hg : Grows b c) {r : AllocationRestoration}
    (hr : r ∈ b.restorations) : c.restoresLot i r ↔ b.restoresLot i r := by
  obtain ⟨j, hj⟩ := List.getElem?_of_mem hr
  obtain ⟨e, a, hsrc⟩ := hb.restoration hj
  have ha := hsrc.allocation
  have ha' := hg.allocations ha
  simp [restoresLot, ha, ha']

lemma Sound.untouched (hb : b.Sound) (hg : Grows b c) (rows : List RedemptionAllocation)
    (backs : List AllocationRestoration) (ha : c.allocations = b.allocations ++ rows)
    (hr : c.restorations = b.restorations ++ backs) (hrows : ∀ a ∈ rows, a.creditLotId ≠ i)
    (hbacks : ∀ r ∈ backs, ¬ c.restoresLot i r) : Untouched i b c := by
  constructor
  · have hnone : rows.filter (fun a => a.creditLotId = i) = [] := by
      rw [List.filter_eq_nil_iff]
      intro a ha
      simpa using hrows a ha
    rw [ha, List.filter_append, hnone, List.append_nil]
  · have hnone : backs.filter (fun r => c.restoresLot i r) = [] := by
      rw [List.filter_eq_nil_iff]
      intro r hr
      simpa using hbacks r hr
    rw [hr, List.filter_append, hnone, List.append_nil]
    refine List.filter_congr fun r hr => ?_
    simp only [hb.restoresLot_grows hg hr]

lemma Spent.moved (h : b.Spent now i) {δ : Nat → Int} (hm : Moved δ b.lots c.lots)
    (hδ : δ i = 0) : c.Spent now i := by
  obtain ⟨l, hl, hzero, hexp⟩ := h
  obtain ⟨l', hl', hs, hr⟩ := hm.lot hl
  exact ⟨l', hl', by omega, by rw [hs.expiresAt]; exact hexp⟩

lemma DebitPosting.elsewhere {e : LoyaltyLedgerEntry} {rows : List RedemptionAllocation}
    {target : DebitTarget} {as : List Adjustment} (hp : DebitPosting e rows target as b c)
    (h : b.Spent now i) : ∀ a ∈ rows, a.creditLotId ≠ i := by
  intro a ha hai
  obtain ⟨l, hl, hzero, -⟩ := h
  obtain ⟨l', hl', -, hr⟩ := hp.moved.lot hl
  have hpos : (0 : Int) < a.amountKobo := a.amountKobo.2
  have hle : (a.amountKobo : Int) ≤
      Table.tally rows (fun r => r.creditLotId = i) (fun r => (r.amountKobo : Int)) :=
    Table.le_tally (fun r _ _ => r.amountKobo.2.le) ha hai
  have hnonneg := l'.remaining_nonneg
  omega

/-- **A live posting** leaves spent lots alone. -/
lemma Spent.live (hb : b.Sound) (h : b.Spent now i) (hp : LivePosted now b c) :
    c.Spent now i ∧ Untouched i b c := by
  have hg := (extends_of_posted hp.posted).toGrows
  cases hp with
  | @credit e l as _ hp =>
      have hl : c.lots = b.lots ++ [l] := by rw [hp.books]
      refine ⟨?_, hb.untouched hg [] [] (by rw [hp.books]; simp)
        (by rw [hp.books]; simp) (by simp) (by simp)⟩
      obtain ⟨x, hx, hrest⟩ := h
      exact ⟨x, by rw [hl]; exact Table.getElem?_append hx, hrest⟩
  | @debit e rows target as _ hp =>
      have helse := DebitPosting.elsewhere hp h
      refine ⟨h.moved hp.moved ?_, hb.untouched hg rows [] (by rw [hp.books])
        (by rw [hp.books]; simp) helse (by simp)⟩
      rw [Table.tally_eq_zero helse, neg_zero]
  | @restore e o rows _ hp hopen =>
      have helse : ∀ r ∈ rows, ¬ b.restoresLot i r := by
        intro r hr hi
        obtain ⟨l, hl, hlt⟩ := hopen r hr i hi
        obtain ⟨l', hl', -, hle⟩ := h
        obtain rfl := Option.some.inj (hl.symm.trans hl')
        omega
      refine ⟨h.moved hp.moved (Table.tally_eq_zero helse), hb.untouched hg [] rows
        (by rw [hp.books]; simp) (by rw [hp.books]) (by simp) fun r hr => ?_⟩
      have hsame : c.restoresLot i r ↔ b.restoresLot i r := by rw [hp.books]; rfl
      rw [hsame]
      exact helse r hr

lemma Spent.lives (hb : b.Sound) (h : b.Spent now i)
    (hp : Relation.ReflTransGen (LivePosted now) b c) : c.Spent now i ∧ Untouched i b c := by
  induction hp with
  | refl => exact ⟨h, .refl i b⟩
  | tail hps hlast ih =>
      have hsound := hb.postings (postings_of_live hps)
      obtain ⟨hspent, huntouched⟩ := ih
      obtain ⟨hspent', huntouched'⟩ := hspent.live hsound hlast
      exact ⟨hspent', huntouched.trans huntouched'⟩

lemma live_rows (hp : LivePosted now b c) : c.expiries = b.expiries ∧
    ∀ e ∈ c.ledger, e ∈ b.ledger ∨ ∀ i, ¬ e.isExpiryOf i := by
  have happend : ∀ {e : LoyaltyLedgerEntry}, c.ledger = b.ledger ++ [e] →
      (∀ i, ¬ e.isExpiryOf i) → ∀ x ∈ c.ledger, x ∈ b.ledger ∨ ∀ i, ¬ x.isExpiryOf i := by
    intro e hl hname x hx
    rw [hl, List.mem_append, List.mem_singleton] at hx
    rcases hx with hx | rfl
    · exact .inl hx
    · exact .inr hname
  cases hp with
  | credit name hp => exact ⟨by rw [hp.books], happend (by rw [hp.books]) name⟩
  | debit name hp => exact ⟨by rw [hp.books], happend (by rw [hp.books]) name⟩
  | restore name hp _ => exact ⟨by rw [hp.books], happend (by rw [hp.books]) name⟩

/-- **Live postings** keep every expiry's lot spent. -/
lemma Expiries.lives (hb : b.Sound) (h : b.Expiries now)
    (hp : Relation.ReflTransGen (LivePosted now) b c) :
    c.Expiries now ∧ c.expiries = b.expiries := by
  induction hp with
  | refl => exact ⟨h, rfl⟩
  | @tail v w hps hlast ih =>
      have hsound := hb.postings (postings_of_live hps)
      obtain ⟨hv, hsame⟩ := ih
      obtain ⟨hrows, hentries⟩ := live_rows hlast
      refine ⟨⟨fun x hx => ?_, fun e he i hi => ?_⟩, hrows.trans hsame⟩
      · rw [hrows] at hx
        exact ((hv.spent x hx).live hsound hlast).1
      · rcases hentries e he with he | hno
        · rw [hrows]
          exact hv.named e he i hi
        · exact absurd hi (hno i)

end Books

/-! ### What a sweep does -/

namespace CreditExpiryService

variable {rt : Runtime} {systemActor : String → String} {s t : Database} {now : Int}

/-- Whether a lot is overdue with something left. -/
def isDue (now : Int) (l : CreditLot) : Bool := l.expiresAt ≤ now && 0 < l.remainingAmountKobo

/-- How many lots are due. -/
def dueCount (s : Database) (now : Int) : Nat := s.lots.countP (isDue now)

/-- One lot expired: its entry, its evidence, and nothing left of it. -/
structure LotExpired (systemActor : String → String) (r : LockedCreditLot) (k : PositiveKobo)
    (l : CreditLot) (s t : Database) : Prop where
  lot : s.lots[r.1]? = some r.2
  amount : (k : Int) = r.2.remainingAmountKobo
  same : SameLot r.2 l
  spent : l.remainingAmountKobo = 0
  posted : ExpiryPosted s.books t.books
  frame : t = { s with
    ledger := s.ledger ++ [expiryEntry systemActor r k]
    expiries := s.expiries ++ [expiryRow r k s.ledger.length]
    lots := s.lots.set r.1 l
    auditLog := t.auditLog }

/-- A whole sweep, lot by lot. -/
inductive Swept (systemActor : String → String) : List LockedCreditLot → Database → Database → Prop
  | nil {u} : Swept systemActor [] u u
  | cons {r rest k l u v w} (lot : LotExpired systemActor r k l u v)
      (others : Swept systemActor rest v w) : Swept systemActor (r :: rest) u w

lemma expireLot_wrote {r : LockedCreditLot} {u : Unit} (hl : s.lots[r.1]? = some r.2)
    (h : expireLot rt systemActor r s = .ok (u, t)) : ∃ k l, LotExpired systemActor r k l s t := by
  have hposted := (expireLot_ok hl (.refl _) h).1
  simp only [expireLot, bind_ok, orFault_ok, insertLedgerEntry_ok, insertCreditExpiry_ok, get_ok,
    rejectIf_ok, putRemaining_ok, recordAudit_ok, PositiveKobo.of?_eq_some] at h
  obtain ⟨k, _, ⟨hk, rfl⟩, _, _, ⟨-, rfl, rfl⟩, _, _, ⟨-, -, -, rfl⟩, _, _, ⟨rfl, rfl⟩, x, _,
    ⟨hx, rfl⟩, _, _, ⟨-, rfl⟩, _, _, ⟨l, hput, rfl⟩, rfl⟩ := h
  obtain rfl : r.2 = x := Option.some.inj (hl.symm.trans hx)
  obtain ⟨hsame, hleft⟩ := CreditLot.withRemaining?_eq_some.1 hput
  exact ⟨k, l, hl, hk.symm, hsame, by omega, hposted, rfl⟩

/-- A due lot can be expired: no row or entry says that it expired before. -/
lemma expireLot_runs (hsound : s.books.Sound) (hs : s.books.Expiries now) {r : LockedCreditLot}
    (hl : s.lots[r.1]? = some r.2) (hpos : 0 < r.2.remainingAmountKobo) :
    ∃ t, expireLot rt systemActor r s = .ok ((), t) := by
  have hnew : ∀ x ∈ s.expiries, x.creditLotId ≠ r.1 := by
    intro x hx he
    obtain ⟨l, hl', hzero, -⟩ := hs.spent x hx
    rw [he] at hl'
    obtain rfl := Option.some.inj (hl'.symm.trans hl)
    omega
  have hname : ∀ x ∈ s.ledger, x.correlationId ≠ .creditExpiry r.1 := by
    intro x hx he
    obtain ⟨y, hy, hyr⟩ := hs.named x hx r.1 he
    exact hnew y hy hyr
  have hentry : ∀ x ∈ s.expiries, x.ledgerEntryId ≠ s.ledger.length := by
    intro x hx he
    have hlt : x.ledgerEntryId < s.ledger.length := hsound.lt_of_expiry hx
    omega
  obtain ⟨l, hzero⟩ : ∃ l, r.2.withRemaining? 0 = some l := by
    have h0 : (0 : Int) ≤ r.2.originalAmountKobo := r.2.originalAmountKobo.2.le
    exact ⟨_, dif_pos ⟨le_rfl, h0⟩⟩
  let k : PositiveKobo := ⟨r.2.remainingAmountKobo, hpos⟩
  have hothers : s.Admits (expiryEntry systemActor r k) := by
    refine ⟨hname, fun hne => absurd rfl hne, fun x _ hx => ?_⟩
    exact hx.1 rfl
  apply Exists.intro
  simp only [expireLot, bind_ok, orFault_ok, insertLedgerEntry_ok, insertCreditExpiry_ok, get_ok,
    rejectIf_ok, putRemaining_ok, recordAudit_ok, PositiveKobo.of?_eq_some]
  refine ⟨k, s, ⟨rfl, rfl⟩, _, _, ⟨hothers, rfl, rfl⟩, _, _, ⟨hnew, hentry, rfl, rfl⟩, _, _,
    ⟨rfl, rfl⟩, r.2, _, ⟨hl, rfl⟩, (), _, ⟨?_, rfl⟩, (), _, ⟨l, ?_, rfl⟩, rfl⟩
  · simp [k]
  · rw [← hzero]
    congr 1
    exact sub_self _

namespace LotExpired

variable {r : LockedCreditLot} {k : PositiveKobo} {l : CreditLot}

lemma sound (h : LotExpired systemActor r k l s t) (hs : s.books.Sound) : t.books.Sound := by
  obtain ⟨e, x, hp⟩ := h.posted
  exact hs.posted (.expiry hp)

lemma lot_ne (h : LotExpired systemActor r k l s t) {i : Nat} (hi : r.1 ≠ i) :
    t.lots[i]? = s.lots[i]? := by
  rw [h.frame]
  exact List.getElem?_set_ne hi

lemma lot_self (h : LotExpired systemActor r k l s t) : t.lots[r.1]? = some l := by
  rw [h.frame]
  exact List.getElem?_set_self (Table.lt_of_getElem? h.lot)

lemma expiries (h : LotExpired systemActor r k l s t) (hs : s.books.Expiries now)
    (hdue : r.2.expiresAt ≤ now) : t.books.Expiries now := by
  have hrows : t.expiries = s.expiries ++ [expiryRow r k s.ledger.length] := by rw [h.frame]
  have hself : t.books.Spent now r.1 := by
    refine ⟨l, h.lot_self, h.spent, ?_⟩
    rw [h.same.expiresAt]
    exact hdue
  constructor
  · intro x hx
    change x ∈ t.expiries at hx
    rw [hrows, List.mem_append, List.mem_singleton] at hx
    rcases hx with hx | rfl
    · by_cases hi : r.1 = x.creditLotId
      · exact hi ▸ hself
      · obtain ⟨m, hm, hrest⟩ := hs.spent x hx
        exact ⟨m, (h.lot_ne hi).trans hm, hrest⟩
    · exact hself
  · intro e he i hi
    change ∃ x ∈ t.expiries, _
    have hledger : t.books.ledger = s.ledger ++ [expiryEntry systemActor r k] := by
      rw [h.frame]; rfl
    rw [hledger, List.mem_append, List.mem_singleton] at he
    rw [hrows]
    rcases he with he | rfl
    · obtain ⟨x, hx, hxi⟩ := hs.named e he i hi
      exact ⟨x, List.mem_append_left _ hx, hxi⟩
    · obtain rfl : r.1 = i := CorrelationId.creditExpiry.inj hi
      exact ⟨_, List.mem_append_right _ (List.mem_singleton_self _), rfl⟩

lemma dueCount (h : LotExpired systemActor r k l s t) (hdue : isDue now r.2) :
    CreditExpiryService.dueCount t now + 1 = CreditExpiryService.dueCount s now := by
  have hlt := Table.lt_of_getElem? h.lot
  have hget : s.lots[r.1] = r.2 := (List.getElem?_eq_some_iff.1 h.lot).2
  have hnot : isDue now l = false := by simp [isDue, h.spent]
  have hpos : 0 < s.lots.countP (isDue now) :=
    List.countP_pos_iff.2 ⟨r.2, List.mem_of_getElem? h.lot, hdue⟩
  have hlots : t.lots = s.lots.set r.1 l := by rw [h.frame]
  unfold CreditExpiryService.dueCount
  rw [hlots, List.countP_set hlt, hget, if_pos hdue, hnot]
  simp only [Bool.false_eq_true, if_false]
  omega

end LotExpired

namespace Swept

variable {due : List LockedCreditLot}

lemma lot_other (h : Swept systemActor due s t) {i : Nat} (hi : i ∉ due.map Prod.fst) :
    t.lots[i]? = s.lots[i]? := by
  induction h with
  | nil => rfl
  | cons hlot _ ih =>
      rw [List.map_cons, List.mem_cons, not_or] at hi
      rw [ih hi.2, hlot.lot_ne (Ne.symm hi.1)]

lemma grows (h : Swept systemActor due s t) : Books.Grows s.books t.books := by
  induction h with
  | nil => exact .refl _
  | cons hlot _ ih =>
      obtain ⟨e, x, hp⟩ := hlot.posted
      exact (Books.extends_of_posted (.expiry hp)).toGrows.trans ih

lemma length_expiries (h : Swept systemActor due s t) :
    t.expiries.length = s.expiries.length + due.length := by
  induction h with
  | nil => rfl
  | @cons r rest k l u v w hlot _ ih =>
      have hrows : v.expiries = u.expiries ++ [expiryRow r k u.ledger.length] := by
        rw [hlot.frame]
      rw [ih, hrows, List.length_append, List.length_singleton, List.length_cons]
      omega

lemma untouched (h : Swept systemActor due s t) (i : Nat) : Books.Untouched i s.books t.books := by
  induction h with
  | nil => exact .refl i _
  | cons hlot _ ih =>
      refine .trans ⟨?_, ?_⟩ ih
      · rw [hlot.frame]; rfl
      · rw [hlot.frame]; rfl

lemma dueCount (h : Swept systemActor due s t) (hdue : ∀ r ∈ due, isDue now r.2) :
    CreditExpiryService.dueCount t now + due.length = CreditExpiryService.dueCount s now := by
  induction h with
  | nil => rfl
  | cons hlot _ ih =>
      have hfirst := hlot.dueCount (hdue _ List.mem_cons_self)
      have hothers := ih fun q hq => hdue q (.tail _ hq)
      rw [List.length_cons]
      omega

lemma keeps (h : Swept systemActor due s t) (hdue : ∀ r ∈ due, r.2.expiresAt ≤ now)
    (hsound : s.books.Sound) (hs : s.books.Expiries now) :
    t.books.Sound ∧ t.books.Expiries now := by
  induction h with
  | nil => exact ⟨hsound, hs⟩
  | cons hlot _ ih =>
      exact ih (fun q hq => hdue q (.tail _ hq)) (hlot.sound hsound)
        (hlot.expiries hs (hdue _ List.mem_cons_self))

end Swept

lemma Swept.spent {due : List LockedCreditLot} (h : Swept systemActor due s t)
    (hdue : ∀ r ∈ due, s.lots[r.1]? = some r.2 ∧ isDue now r.2) {clock : Int} {i : Nat}
    (hi : s.books.Spent clock i) : t.books.Spent clock i := by
  obtain ⟨l, hl, hzero, hexp⟩ := hi
  have hnot : i ∉ due.map Prod.fst := by
    intro hmem
    obtain ⟨r, hr, rfl⟩ := List.mem_map.1 hmem
    obtain ⟨hr', hpos⟩ := hdue r hr
    obtain rfl := Option.some.inj (hr'.symm.trans hl)
    simp [isDue, hzero] at hpos
  exact ⟨l, (h.lot_other hnot).trans hl, hzero, hexp⟩

/-- A new expiry takes all that was left of its lot, with a debit entry of the same amount. -/
structure LapsedWhole (x : CreditExpiry) (s t : Database) : Prop where
  lot : ∃ l, s.lots[x.creditLotId]? = some l ∧ (x.amountKobo : Int) = l.remainingAmountKobo
  entry : ∃ e, t.ledger[x.ledgerEntryId]? = some e ∧ e.type = .EXPIRY ∧ e.direction = .DEBIT ∧
    e.amountKobo = x.amountKobo
  spent : ∃ l, t.lots[x.creditLotId]? = some l ∧ l.remainingAmountKobo = 0

lemma Swept.new_rows {due : List LockedCreditLot} (h : Swept systemActor due s t)
    (hnd : (due.map Prod.fst).Nodup) {j : Nat} {x : CreditExpiry} (hj : s.expiries.length ≤ j)
    (hx : t.expiries[j]? = some x) : x.creditLotId ∈ due.map Prod.fst ∧ LapsedWhole x s t := by
  induction h with
  | nil =>
      have hlt := Table.lt_of_getElem? hx
      omega
  | @cons r rest k l u v w hlot hothers ih =>
      obtain ⟨hnew, hnd⟩ := List.nodup_cons.1 (List.map_cons ▸ hnd)
      have hrows : v.expiries = u.expiries ++ [expiryRow r k u.ledger.length] := by rw [hlot.frame]
      have hg := hothers.grows
      rcases hj.eq_or_lt with rfl | hj
      · -- the row of the first lot
        have hfirst : v.expiries[u.expiries.length]? = some (expiryRow r k u.ledger.length) := by
          rw [hrows]; exact Table.getElem?_insert_self ..
        obtain rfl := Option.some.inj ((hg.expiries hfirst).symm.trans hx)
        have hentry : v.ledger[u.ledger.length]? = some (expiryEntry systemActor r k) := by
          rw [hlot.frame]; exact Table.getElem?_insert_self ..
        refine ⟨List.mem_cons_self, ⟨r.2, hlot.lot, hlot.amount⟩,
          ⟨_, hg.ledger hentry, rfl, rfl, rfl⟩,
          l, ?_, hlot.spent⟩
        exact (hothers.lot_other hnew).trans hlot.lot_self
      · have hj' : v.expiries.length ≤ j := by
          rw [hrows, List.length_append, List.length_singleton]; omega
        obtain ⟨hmem, hlapsed⟩ := ih hnd hj' hx
        have hne : r.1 ≠ x.creditLotId := fun he => hnew (he ▸ hmem)
        obtain ⟨m, hm, hamount⟩ := hlapsed.lot
        exact ⟨.tail _ hmem, ⟨m, (hlot.lot_ne hne).symm.trans hm, hamount⟩, hlapsed.entry,
          hlapsed.spent⟩

/-- **A sweep runs**, whatever lots it locks among those that are due. -/
lemma expireLots_runs {due : List LockedCreditLot} (hnd : (due.map Prod.fst).Nodup)
    (hdue : ∀ r ∈ due, s.lots[r.1]? = some r.2 ∧ isDue now r.2) (hsound : s.books.Sound)
    (hs : s.books.Expiries now) :
    ∃ t, each (expireLot rt systemActor) due s = .ok ((), t) ∧ Swept systemActor due s t := by
  induction due generalizing s with
  | nil => exact ⟨s, rfl, .nil⟩
  | cons r rest ih =>
      obtain ⟨hnew, hnd⟩ := List.nodup_cons.1 (List.map_cons ▸ hnd)
      obtain ⟨hl, hd⟩ := hdue r List.mem_cons_self
      have hd' : r.2.expiresAt ≤ now ∧ 0 < r.2.remainingAmountKobo := by simpa [isDue] using hd
      have hrun : ∃ v, expireLot rt systemActor r s = .ok ((), v) :=
        expireLot_runs hsound hs hl hd'.2
      obtain ⟨v, hv⟩ := hrun
      obtain ⟨k, l, hlot⟩ := expireLot_wrote hl hv
      have hrest : ∀ q ∈ rest, v.lots[q.1]? = some q.2 ∧ isDue now q.2 := by
        intro q hq
        obtain ⟨hq', hqd⟩ := hdue q (.tail _ hq)
        have hne : r.1 ≠ q.1 := fun he => hnew (he ▸ List.mem_map_of_mem hq)
        exact ⟨(hlot.lot_ne hne).trans hq', hqd⟩
      obtain ⟨t, ht, hothers⟩ := ih hnd hrest (hlot.sound hsound) (hlot.expiries hs hd'.1)
      exact ⟨t, each_cons_ok.2 ⟨(), v, hv, ht⟩, .cons hlot hothers⟩

/-! ### The lots a sweep locks -/

variable {batchSize : Nat} {skipped : List Nat}

lemma mem_lockDueLots {r : LockedCreditLot} (hr : r ∈ lockDueLots rt s now batchSize skipped) :
    s.lots[r.1]? = some r.2 ∧ isDue now r.2 := by
  have hmem := List.mem_of_mem_take hr
  rw [List.mem_insertionSort] at hmem
  exact Table.mem_select.1 (List.mem_filter.1 hmem).1

lemma nodup_lockDueLots (rt : Runtime) (s : Database) (now : Int) (batchSize : Nat)
    (skipped : List Nat) : ((lockDueLots rt s now batchSize skipped).map Prod.fst).Nodup := by
  have hall := Table.nodup_select s.lots fun l => l.expiresAt ≤ now && 0 < l.remainingAmountKobo
  have hfree := hall.sublist (List.Sublist.map Prod.fst
    (List.filter_sublist (p := fun r : Nat × CreditLot => r.1 ∉ skipped)))
  have hsorted := ((List.perm_insertionSort (LotAllocationService.lotLe rt) _).map
    Prod.fst).nodup_iff.2 hfree
  exact hsorted.sublist (List.Sublist.map Prod.fst (List.take_sublist ..))

lemma length_lockDueLots_le (rt : Runtime) (s : Database) (now : Int) (batchSize : Nat)
    (skipped : List Nat) : (lockDueLots rt s now batchSize skipped).length ≤ batchSize :=
  List.length_take_le ..

lemma length_select {α : Type} (t : Table α) (p : α → Bool) :
    (t.select p).length = t.countP p := by
  have hall : t.zipIdx.map Prod.fst = t := List.zipIdx_map_fst ..
  have hcount : (t.zipIdx.map Prod.fst).countP p = t.zipIdx.countP (p ∘ Prod.fst) :=
    List.countP_map
  rw [hall] at hcount
  rw [Table.select, List.length_map, ← List.countP_eq_length_filter, hcount]
  rfl

lemma length_lockDueLots (rt : Runtime) (s : Database) (now : Int) (batchSize : Nat) :
    (lockDueLots rt s now batchSize []).length = min batchSize (dueCount s now) := by
  have hall : ∀ l : List LockedCreditLot, l.filter (fun r => r.1 ∉ ([] : List Nat)) = l := by
    intro l
    simp
  unfold lockDueLots dueCount
  rw [hall, List.length_take, List.length_insertionSort, length_select]
  rfl

/-- **No sweep fails**, and it expires each lot it locked. -/
theorem expireDueCredit_runs (hbatch : 0 < batchSize) (hsound : s.books.Sound)
    (hs : s.books.Expiries now) :
    ∃ res t, expireDueCredit rt systemActor now batchSize skipped s = .ok (res, t) ∧
      Swept systemActor (lockDueLots rt s now batchSize skipped) s t := by
  have hdue : ∀ r ∈ lockDueLots rt s now batchSize skipped,
      s.lots[r.1]? = some r.2 ∧ isDue now r.2 := fun r hr => mem_lockDueLots hr
  have hnd := nodup_lockDueLots rt s now batchSize skipped
  have hrun : ∃ t, each (expireLot rt systemActor) (lockDueLots rt s now batchSize skipped) s =
      .ok ((), t) ∧ Swept systemActor (lockDueLots rt s now batchSize skipped) s t :=
    expireLots_runs hnd hdue hsound hs
  obtain ⟨t, ht, hswept⟩ := hrun
  apply Exists.intro
  refine ⟨t, ?_, hswept⟩
  simp only [expireDueCredit, bind_ok, rejectIf_ok, get_ok, pure_ok]
  exact ⟨(), s, ⟨by omega, rfl⟩, s, s, ⟨rfl, rfl⟩, (), t, ht, rfl, rfl⟩

end CreditExpiryService

/-! ### Runs with a clock -/

/-- The clock readings of an operation. -/
def Op.readings : Op → List Int
  | .earn _ _ now | .redeem _ _ now | .expireCredit _ now _ _ | .expireApprovals now _ _
  | .cleanup _ now | .cleanupAnyEndpoint _ now => [now]
  | .decide _ startedAt now => [startedAt, now]
  | .reverse _ startedAt now finishedAt | .adjust _ startedAt now finishedAt =>
      [startedAt, now, finishedAt]
  | .completeDecision _ _ | .recordDuplicate _ | .administer _ => []

/-- The system with the latest time it was seen at. -/
structure Clocked where
  system : System
  clock : Int

/-- A step whose clock readings are none before the latest. -/
structure Tick (rt : Runtime) (op : Op) (s t : Clocked) : Prop where
  step : Step rt op s.system t.system
  readings : ∀ r ∈ op.readings, s.clock ≤ r ∧ r ≤ t.clock
  forward : s.clock ≤ t.clock

/-- Any number of steps while the clock does not go back. -/
abbrev Ticks (rt : Runtime) : Clocked → Clocked → Prop := Runs (Tick rt) fun _ _ => True

/-- What each step keeps. -/
structure Clocked.Sound (s : Clocked) : Prop where
  invariants : Invariants s.system.db
  expiries : s.system.db.books.Expiries s.clock

variable {rt : Runtime} {op : Op} {s t : Clocked}

open CreditExpiryService in
/-- **One step**: spent lots stay untouched, and every new expiry takes a whole remainder. -/
theorem Tick.expiries (hs : s.Sound) (h : Tick rt op s t) : t.Sound ∧
    (∀ i, s.system.db.books.Spent s.clock i →
      t.system.db.books.Spent t.clock i ∧ Books.Untouched i s.system.db.books t.system.db.books) ∧
    ∀ (j : Nat) x, s.system.db.expiries.length ≤ j → t.system.db.expiries[j]? = some x →
      LapsedWhole x s.system.db t.system.db := by
  have hsound := hs.invariants.books.sound
  have hinv := h.step.invariants hs.invariants
  -- every operation but the sweep posts to lots that are not due at its clock
  have hlive : ∀ now, s.clock ≤ now → now ≤ t.clock →
      Relation.ReflTransGen (LivePosted now) s.system.db.books t.system.db.books → t.Sound ∧
      (∀ i, s.system.db.books.Spent s.clock i →
        t.system.db.books.Spent t.clock i ∧ Books.Untouched i s.system.db.books t.system.db.books) ∧
      ∀ (j : Nat) x, s.system.db.expiries.length ≤ j → t.system.db.expiries[j]? = some x →
        LapsedWhole x s.system.db t.system.db := by
    intro now hle hge hp
    obtain ⟨hexp, hsame⟩ := (hs.expiries.later hle).lives hsound hp
    refine ⟨⟨hinv, hexp.later hge⟩, fun i hi => ?_, fun j x hj hx => ?_⟩
    · obtain ⟨hspent, huntouched⟩ := (hi.later hle).lives hsound hp
      exact ⟨hspent.later hge, huntouched⟩
    · have hlt : j < t.system.db.books.expiries.length := Table.lt_of_getElem? hx
      rw [hsame] at hlt
      exact absurd hj (not_le.2 hlt)
  cases (h.step.outcome hsound).booksChanged with
  | plain hp => exact hlive t.clock h.forward le_rfl (live_of_plain hp)
  | @reversal input startedAt now finishedAt hp =>
      obtain ⟨hle, hge⟩ := h.readings now (by simp [Op.readings])
      exact hlive now hle hge hp
  | @sweep systemActor now batchSize skipped _ =>
      obtain ⟨hle, hge⟩ := h.readings now (by simp [Op.readings])
      obtain ⟨r, db, hok, ht⟩ := System.commit_ok.1 h.step.runs
      have hbatch : 0 < batchSize := by
        simp only [expireDueCredit, bind_ok, rejectIf_ok] at hok
        obtain ⟨_, _, ⟨hne, -⟩, -⟩ := hok
        omega
      have hruns : ∃ res db, expireDueCredit rt systemActor now batchSize skipped s.system.db =
          .ok (res, db) ∧ Swept systemActor (lockDueLots rt s.system.db now batchSize skipped)
            s.system.db db :=
        expireDueCredit_runs hbatch hsound (hs.expiries.later hle)
      obtain ⟨r', db', hok', hswept⟩ := hruns
      obtain ⟨rfl, rfl⟩ : r = r' ∧ db = db' := by
        rw [hok] at hok'
        simpa using hok'
      have hdb : t.system.db = db := by rw [ht]
      have hdue : ∀ r ∈ lockDueLots rt s.system.db now batchSize skipped,
          s.system.db.lots[r.1]? = some r.2 ∧ isDue now r.2 := fun r hr => mem_lockDueLots hr
      have hoverdue : ∀ r ∈ lockDueLots rt s.system.db now batchSize skipped,
          r.2.expiresAt ≤ now := by
        intro r hr
        have hd := (hdue r hr).2
        simp only [isDue, Bool.and_eq_true, decide_eq_true_eq] at hd
        exact hd.1
      have hnd := nodup_lockDueLots rt s.system.db now batchSize skipped
      obtain ⟨-, hexp⟩ := hswept.keeps hoverdue hsound (hs.expiries.later hle)
      rw [← hdb] at hswept hexp
      refine ⟨⟨hinv, hexp.later hge⟩, fun i hi => ?_, fun j x hj hx =>
        (hswept.new_rows hnd hj hx).2⟩
      exact ⟨(hswept.spent hdue hi).later h.forward, hswept.untouched i⟩

lemma Ticks.sound (hs : s.Sound) (h : Ticks rt s t) : t.Sound :=
  h.invariant (I := Clocked.Sound) (fun _ hu htick => (htick.expiries hu).1) hs

lemma Ticks.spent (hs : s.Sound) (h : Ticks rt s t) {i : Nat}
    (hi : s.system.db.books.Spent s.clock i) : t.system.db.books.Spent t.clock i ∧
      Books.Untouched i s.system.db.books t.system.db.books := by
  induction h with
  | refl => exact ⟨hi, .refl i _⟩
  | @tail u v hrun hlast ih =>
      obtain ⟨op, -, htick⟩ := hlast
      obtain ⟨hspent, huntouched⟩ := ih
      have hu : u.Sound := Ticks.sound hs hrun
      obtain ⟨hspent', huntouched'⟩ := (htick.expiries hu).2.1 i hspent
      exact ⟨hspent', huntouched.trans huntouched'⟩

lemma Clocked.Sound.initial (registry : Registry) (clock : Int) :
    Clocked.Sound ⟨System.initial registry, clock⟩ where
  invariants := .initial registry
  expiries := ⟨fun x hx => (by cases hx), fun e he => (by cases he)⟩

open CreditExpiryService in
lemma Clocked.Sound.sweep (hs : s.Sound) (systemActor : String → String) {now : Int}
    {batchSize : Nat} (skipped : List Nat) (hle : s.clock ≤ now) (hbatch : 0 < batchSize) :
    ∃ t : Clocked, s.system.run rt (.expireCredit systemActor now batchSize skipped) =
      .ok t.system ∧
      t.Sound ∧ t.clock = now ∧ Swept systemActor
        (lockDueLots rt s.system.db now batchSize skipped) s.system.db t.system.db := by
  have hruns : ∃ res db, expireDueCredit rt systemActor now batchSize skipped s.system.db =
      .ok (res, db) ∧ Swept systemActor (lockDueLots rt s.system.db now batchSize skipped)
        s.system.db db :=
    expireDueCredit_runs hbatch hs.invariants.books.sound (hs.expiries.later hle)
  obtain ⟨res, db, hok, hswept⟩ := hruns
  let t : Clocked := ⟨{ s.system with db }, now⟩
  have hrun : s.system.run rt (.expireCredit systemActor now batchSize skipped) = .ok t.system :=
    System.commit_ok.2 ⟨res, db, hok, rfl⟩
  have htick : Tick rt (.expireCredit systemActor now batchSize skipped) s t := by
    refine ⟨⟨hrun, trivial⟩, fun r hr => ?_, hle⟩
    obtain rfl : r = now := by simpa [Op.readings] using hr
    exact ⟨hle, le_rfl⟩
  exact ⟨t, hrun, (htick.expiries hs).1, rfl, hswept⟩

open CreditExpiryService in
lemma Clocked.Sound.sweeps (hs : s.Sound) (systemActor : String → String) {now : Int}
    {batchSize : Nat} (hle : s.clock ≤ now) (hbatch : 0 < batchSize) (n : Nat)
    (hn : dueCount s.system.db now ≤ n * batchSize) :
    ∃ t, s.system.runAll rt (List.replicate n (.expireCredit systemActor now batchSize [])) =
      .ok t ∧
      dueCount t.db now = 0 := by
  induction n generalizing s with
  | zero => exact ⟨s.system, rfl, by omega⟩
  | succ n ih =>
      have hsweep : ∃ t : Clocked,
          s.system.run rt (.expireCredit systemActor now batchSize []) = .ok t.system ∧ t.Sound ∧
          t.clock = now ∧ Swept systemActor (lockDueLots rt s.system.db now batchSize [])
            s.system.db t.system.db := hs.sweep systemActor [] hle hbatch
      obtain ⟨u, hrun, hu, hclock, hswept⟩ := hsweep
      have hcount := hswept.dueCount fun r hr => (mem_lockDueLots hr).2
      rw [length_lockDueLots] at hcount
      have hless : dueCount u.system.db now ≤ n * batchSize := by
        rw [Nat.succ_mul] at hn
        omega
      obtain ⟨t, ht, hzero⟩ := ih hu hclock.le hless
      refine ⟨t, ?_, hzero⟩
      rw [List.replicate_succ, System.runAll, List.foldlM_cons, hrun]
      exact ht

open CreditExpiryService in
/-- Credit expiry, seen from one state of a run: what is so, what the next step does, what
every later state has, and what sweeps do from here. -/
structure ExpiresOnce (rt : Runtime) (s : Clocked) : Prop where
  once : (s.system.db.expiries.map (·.creditLotId)).Nodup
  whole : ∀ {op t}, Tick rt op s t → ∀ (j : Nat) x, s.system.db.expiries.length ≤ j →
    t.system.db.expiries[j]? = some x → LapsedWhole x s.system.db t.system.db
  final : ∀ {t}, Ticks rt s t → ∀ x ∈ s.system.db.expiries,
    (∃ l, t.system.db.lots[x.creditLotId]? = some l ∧ l.remainingAmountKobo = 0) ∧
      Books.Untouched x.creditLotId s.system.db.books t.system.db.books
  sweeps : ∀ {systemActor now batchSize skipped}, s.clock ≤ now → 0 < batchSize →
    ∃ t, s.system.run rt (.expireCredit systemActor now batchSize skipped) = .ok t ∧
      t.db.expiries.length ≤ s.system.db.expiries.length + batchSize
  drains : ∀ {systemActor now batchSize n}, s.clock ≤ now → 0 < batchSize →
    dueCount s.system.db now ≤ n * batchSize →
    ∃ t, s.system.runAll rt (List.replicate n (.expireCredit systemActor now batchSize [])) =
      .ok t ∧
      ∀ l ∈ t.db.lots, l.expiresAt ≤ now → l.remainingAmountKobo = 0

/-- **Credit expires once**, in every state of every run whose clock does not go back. -/
theorem credit_expires_once {registry : Registry} {start : Int}
    (h : Ticks rt ⟨System.initial registry, start⟩ s) : ExpiresOnce rt s := by
  have hs : s.Sound := Ticks.sound (.initial registry start) h
  refine ⟨hs.invariants.books.sound.lapse_once, fun htick => (htick.expiries hs).2.2,
    fun hrun x hx => ?_, fun {systemActor _ _ skipped} hle hbatch => ?_,
    fun {systemActor now batchSize n} hle hbatch hn => ?_⟩
  · obtain ⟨⟨l, hl, hzero, -⟩, huntouched⟩ := Ticks.spent hs hrun (hs.expiries.spent x hx)
    exact ⟨⟨l, hl, hzero⟩, huntouched⟩
  · obtain ⟨t, hrun, -, -, hswept⟩ := hs.sweep systemActor skipped hle hbatch
    refine ⟨t.system, hrun, ?_⟩
    rw [hswept.length_expiries]
    exact Nat.add_le_add_left (CreditExpiryService.length_lockDueLots_le ..) _
  · obtain ⟨t, hrun, hzero⟩ := hs.sweeps systemActor hle hbatch n hn
    refine ⟨t, hrun, fun l hl hexp => ?_⟩
    have hnot := List.countP_eq_zero.1 hzero l hl
    have hnonneg := l.remaining_nonneg
    simp only [CreditExpiryService.isDue, Bool.and_eq_true, decide_eq_true_eq, not_and] at hnot
    have := hnot hexp
    omega

/-- More than a year after the night. -/
def Shop.nextYear : Int := Shop.night + 400 * 86400000

def Shop.sweep : Op := .expireCredit (fun _ => "system") Shop.nextYear 10 []

/-- A purchase, and the sweep that expires its credit the year after. -/
theorem credit_expires_once_shop :
    ∃ t, Shop.opened.runAll Shop.runtime [Shop.earn "k1" 9000000, Shop.sweep] = .ok t ∧
      (t.db.expiries.map fun x => (x.creditLotId, (x.amountKobo : Int))) = [(0, 180000)] ∧
      ExpiresOnce Shop.runtime ⟨t, Shop.nextYear⟩ := by
  obtain ⟨t, hrun, -⟩ := Reachable.of_runAll Shop.runtime Shop.registry
    [Shop.earn "k1" 9000000, Shop.sweep] (by decide +kernel)
    (by simp [Shop.earn, Shop.sweep, Op.Admissible])
  have hrows : (Shop.opened.runAll Shop.runtime [Shop.earn "k1" 9000000, Shop.sweep]).map
      (fun s => s.db.expiries.map fun x => (x.creditLotId, (x.amountKobo : Int))) =
        .ok [(0, 180000)] := by decide +kernel
  have hsplit : Shop.opened.runAll Shop.runtime ([Shop.earn "k1" 9000000] ++ [Shop.sweep]) =
      .ok t :=
    hrun
  obtain ⟨u, hu, hsweep⟩ := System.runAll_snoc hsplit
  have hone : Shop.opened.runAll Shop.runtime ([] ++ [Shop.earn "k1" 9000000]) = .ok u := hu
  obtain ⟨v, hv, hearn⟩ := System.runAll_snoc hone
  obtain rfl : Shop.opened = v := Except.ok.inj hv
  have hnight : 0 ≤ Shop.night := by decide
  have hlater : Shop.night ≤ Shop.nextYear := by decide
  have hfirst : Tick Shop.runtime (Shop.earn "k1" 9000000) ⟨Shop.opened, 0⟩ ⟨u, Shop.night⟩ := by
    refine ⟨⟨hearn, trivial⟩, fun r hr => ?_, hnight⟩
    obtain rfl : r = Shop.night := by simpa [Shop.earn, Op.readings] using hr
    exact ⟨hnight, le_rfl⟩
  have hsecond : Tick Shop.runtime Shop.sweep ⟨u, Shop.night⟩ ⟨t, Shop.nextYear⟩ := by
    refine ⟨⟨hsweep, trivial⟩, fun r hr => ?_, hlater⟩
    obtain rfl : r = Shop.nextYear := by simpa [Shop.sweep, Op.readings] using hr
    exact ⟨hlater, le_rfl⟩
  exact ⟨t, hrun, System.of_runAll_map hrun hrows, credit_expires_once
    (.tail (.single trivial hfirst) trivial hsecond)⟩

end ShopcityLoyalty
