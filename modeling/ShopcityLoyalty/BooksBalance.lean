import ShopcityLoyalty.BooksSound
import ShopcityLoyalty.Lib.LotBook

/-!
The books as a book of lots: every posting is a step of the abstract book, and the
`remainingAmountKobo` column is what the abstract book says remains of a lot.
-/

namespace ShopcityLoyalty

open Database

/-- A customer, within its tenant. -/
abbrev CustomerRef := String × String

def CreditLot.customer (l : CreditLot) : CustomerRef := (l.tenantId, l.customerId)

def LoyaltyLedgerEntry.customer (e : LoyaltyLedgerEntry) : CustomerRef := (e.tenantId, e.customerId)

namespace Books

/-- What is credited, or debited, to a customer. -/
def posted (b : Books) (direction : LedgerEntryDirection) (a : CustomerRef) : Int :=
  b.ledger.tally (fun e => e.direction = direction ∧ e.customer = a) (·.amountKobo)

/-- What the allocations on a lot add up to. -/
def drawn (b : Books) (lotId : Nat) : Int :=
  b.allocations.tally (fun a => a.creditLotId = lotId) (·.amountKobo)

/-- What the restorations of the allocations on a lot add up to. -/
def restored (b : Books) (lotId : Nat) : Int :=
  b.restorations.tally (b.restoresLot lotId) (·.amountKobo)

def lapsed (b : Books) (lotId : Nat) : Int :=
  b.expiries.tally (fun x => x.creditLotId = lotId) (·.amountKobo)

def toLotBook (b : Books) : LotBook Nat CustomerRef where
  lots := Finset.range b.lots.length
  owner i := (b.lots[i]?.map (·.customer)).getD ("", "")
  granted i := (b.lots[i]?.map fun l => (l.originalAmountKobo : Int)).getD 0
  drawn := b.drawn
  restored := b.restored
  lapsed := b.lapsed
  credited := b.posted .CREDIT
  debited := b.posted .DEBIT

/-- The column agrees with the evidence. -/
def Matches (b : Books) : Prop :=
  ∀ {i : Nat} {l}, b.lots[i]? = some l → l.remainingAmountKobo = b.toLotBook.remaining i

variable {b c : Books}

lemma owner_eq {i : Nat} {l : CreditLot} (h : b.lots[i]? = some l) :
    b.toLotBook.owner i = l.customer := by
  simp [toLotBook, h]

lemma granted_eq {i : Nat} {l : CreditLot} (h : b.lots[i]? = some l) :
    b.toLotBook.granted i = l.originalAmountKobo := by
  simp [toLotBook, h]

/-! ### What is restored was drawn -/

/-- What is still out of an allocation. -/
def outstanding (b : Books) (k : Nat) : Int :=
  (b.allocations[k]?.map fun a => (a.amountKobo : Int)).getD 0 - b.restoredAmount k

/-- **No allocation is restored beyond its amount.** -/
theorem Sound.restoredAmount_le (h : b.Sound) {k : Nat} {a : RedemptionAllocation}
    (ha : b.allocations[k]? = some a) : b.restoredAmount k ≤ a.amountKobo := by
  by_cases hr : ∃ r ∈ b.restorations, r.allocationId = k
  · obtain ⟨r, hr, rfl⟩ := hr
    obtain ⟨j, hj⟩ := List.getElem?_of_mem hr
    obtain ⟨e, a', hs⟩ := h.restoration hj
    obtain rfl : a' = a := Option.some.inj (hs.allocation.symm.trans ha)
    have hone : b.restoredAmount r.allocationId = r.amountKobo :=
      Table.tally_of_nodup_map h.restoration_once hj
    rw [hone, hs.amountKobo]
  · have hzero : b.restoredAmount k = 0 :=
      Table.tally_eq_zero fun r hmem hk => hr ⟨r, hmem, hk⟩
    rw [hzero]
    exact a.amountKobo.2.le

lemma Sound.outstanding_nonneg (h : b.Sound) (k : Nat) : 0 ≤ b.outstanding k := by
  unfold outstanding
  cases ha : b.allocations[k]? with
  | none =>
      have hzero : b.restoredAmount k = 0 := by
        refine Table.tally_eq_zero fun r hmem hk => ?_
        obtain ⟨j, hj⟩ := List.getElem?_of_mem hmem
        obtain ⟨e, a, hs⟩ := h.restoration hj
        rw [← hk, hs.allocation] at ha
        cases ha
      simp [hzero]
  | some a =>
      have := h.restoredAmount_le ha
      simp only [Option.map_some, Option.getD_some]
      omega

/-- Whether an allocation is on a lot. -/
def onLot (b : Books) (lotId k : Nat) : Prop := ∃ a ∈ b.allocations[k]?, a.creditLotId = lotId

instance (b : Books) (lotId k : Nat) : Decidable (b.onLot lotId k) := by
  unfold onLot; infer_instance

/-- What a lot is short of is what is still out of its allocations. -/
lemma Sound.drawn_sub_restored (h : b.Sound) (i : Nat) :
    b.drawn i - b.restored i =
      ∑ k ∈ Finset.range b.allocations.length, if b.onLot i k then b.outstanding k else 0 := by
  have hkey : ∀ r ∈ b.restorations, r.allocationId < b.allocations.length := by
    intro r hr
    obtain ⟨j, hj⟩ := List.getElem?_of_mem hr
    obtain ⟨e, a, hs⟩ := h.restoration hj
    exact Table.lt_of_getElem? hs.allocation
  have hrestored : b.restored i = ∑ k ∈ Finset.range b.allocations.length,
      if b.onLot i k then b.restoredAmount k else 0 := by
    unfold restored
    rw [← Table.sum_tally_key hkey]
    refine Finset.sum_congr rfl fun k _ => ?_
    by_cases hk : b.onLot i k
    · rw [if_pos hk]
      refine Table.tally_congr fun r _ => ?_
      by_cases hrk : r.allocationId = k
      · subst hrk
        rw [if_pos ⟨rfl, hk⟩, if_pos rfl]
      · rw [if_neg fun hc => hrk hc.1, if_neg hrk]
    · rw [if_neg hk]
      refine Table.tally_eq_zero fun r _ hc => hk ?_
      obtain ⟨rfl, hon⟩ := hc
      exact hon
  unfold drawn
  rw [Table.tally_eq_sum_range, hrestored, ← Finset.sum_sub_distrib]
  refine Finset.sum_congr rfl fun k hk => ?_
  obtain ⟨a, ha⟩ : ∃ a, b.allocations[k]? = some a :=
    ⟨_, List.getElem?_eq_getElem (Finset.mem_range.1 hk)⟩
  have hiff : b.onLot i k ↔ a.creditLotId = i := by simp [onLot, ha]
  rw [outstanding, ha, Option.map_some, Option.map_some, Option.getD_some, Option.getD_some]
  by_cases hon : a.creditLotId = i
  · rw [if_pos hon, if_pos (hiff.2 hon), if_pos (hiff.2 hon)]
  · rw [if_neg hon, if_neg (hon ∘ hiff.1), if_neg (hon ∘ hiff.1), sub_zero]

lemma Sound.restored_le_drawn (h : b.Sound) (i : Nat) : b.restored i ≤ b.drawn i := by
  have hsum := h.drawn_sub_restored i
  have hnonneg : 0 ≤ ∑ k ∈ Finset.range b.allocations.length,
      if b.onLot i k then b.outstanding k else 0 := by
    refine Finset.sum_nonneg fun k _ => ?_
    split
    · exact h.outstanding_nonneg k
    · exact le_rfl
  omega

/-! ### Sums the postings leave alone -/

lemma posted_append (e : LoyaltyLedgerEntry) (hl : c.ledger = b.ledger ++ [e])
    (d : LedgerEntryDirection) (a : CustomerRef) :
    c.posted d a = b.posted d a + if e.direction = d ∧ e.customer = a then (e.amountKobo : Int)
      else 0 := by
  unfold posted
  rw [hl, Table.tally_append, Table.tally_cons, Table.tally_nil, add_zero]

lemma posted_other {e : LoyaltyLedgerEntry} (hl : c.ledger = b.ledger ++ [e])
    {d : LedgerEntryDirection} (hd : e.direction ≠ d) : c.posted d = b.posted d := by
  funext a
  rw [posted_append e hl, if_neg fun h => hd h.1, add_zero]

lemma posted_own {e : LoyaltyLedgerEntry} (hl : c.ledger = b.ledger ++ [e])
    {d : LedgerEntryDirection} (hd : e.direction = d) {k : Int} (hk : k = e.amountKobo) :
    c.posted d = Function.update (b.posted d) e.customer (b.posted d e.customer + k) := by
  funext a
  rw [posted_append e hl, Function.update_apply, hk]
  by_cases ha : a = e.customer
  · subst ha; rw [if_pos ⟨hd, rfl⟩, if_pos rfl]
  · rw [if_neg fun h => ha h.2.symm, if_neg ha, add_zero]

lemma Sound.restored_grows (h : b.Sound) (hg : Grows b c) (hr : c.restorations = b.restorations) :
    c.restored = b.restored := by
  funext i
  unfold restored
  rw [hr]
  refine Table.tally_congr fun r hmem => ?_
  obtain ⟨j, hj⟩ := List.getElem?_of_mem hmem
  obtain ⟨e, a, hs⟩ := h.restoration hj
  simp [restoresLot, hs.allocation, hg.allocations hs.allocation]

lemma lots_moved_eq {δ : Nat → Int} (hm : Moved δ b.lots c.lots) :
    c.toLotBook.lots = b.toLotBook.lots ∧ c.toLotBook.owner = b.toLotBook.owner ∧
      c.toLotBook.granted = b.toLotBook.granted := by
  have howner := hm.map_eq (f := (·.customer)) fun l l' hs => by
    rw [CreditLot.customer, hs.tenantId, hs.customerId]; rfl
  have hgranted := hm.map_eq (f := fun l => (l.originalAmountKobo : Int)) fun l l' hs => by
    rw [hs.originalAmountKobo]
  refine ⟨by simp [toLotBook, hm.length_eq], ?_, ?_⟩
  · funext i
    simp only [toLotBook, ← List.getElem?_map, howner]
  · funext i
    simp only [toLotBook, ← List.getElem?_map, hgranted]

lemma Matches.moved (h : b.Matches) {δ : Nat → Int} (hm : Moved δ b.lots c.lots)
    (hr : ∀ i, c.toLotBook.remaining i = b.toLotBook.remaining i + δ i) : c.Matches := by
  intro i l hl
  obtain ⟨l0, hl0, -, hrem⟩ := hm.lot_before hl
  rw [hrem, hr, h hl0]

/-! ### Each posting is a step of the abstract book -/

variable {e : LoyaltyLedgerEntry}

lemma Sound.fresh_lot (h : b.Sound) :
    b.drawn b.lots.length = 0 ∧ b.restored b.lots.length = 0 ∧ b.lapsed b.lots.length = 0 := by
  refine ⟨Table.tally_eq_zero fun a ha hon => ?_, Table.tally_eq_zero fun r hr hon => ?_,
    Table.tally_eq_zero fun x hx hon => ?_⟩
  · obtain ⟨i, hi⟩ := List.getElem?_of_mem ha
    obtain ⟨e, l, hs⟩ := h.allocation hi
    have := Table.lt_of_getElem? hs.lot
    omega
  · obtain ⟨a, ha, hon⟩ := hon
    obtain ⟨e, l, hs⟩ := h.allocation ha
    have := Table.lt_of_getElem? hs.lot
    omega
  · obtain ⟨i, hi⟩ := List.getElem?_of_mem hx
    obtain ⟨e, l, hs⟩ := h.expiry hi
    have := Table.lt_of_getElem? hs.lot
    omega

lemma Sound.credit_step (h : b.Sound) (hmatch : b.Matches) {l : CreditLot} {as : List Adjustment}
    (hp : CreditPosting e l as b c) :
    b.toLotBook.Step c.toLotBook ∧ c.Matches := by
  have hg := (extends_of_posted (.credit hp)).toGrows
  obtain ⟨hdir, -, -, hwhole, rfl⟩ := hp
  have hcust : l.customer = e.customer := by
    rw [CreditLot.customer, hwhole.tenantId, hwhole.customerId]; rfl
  have hamt : (l.originalAmountKobo : Int) = e.amountKobo := by rw [hwhole.originalAmountKobo]
  have hnew : ∀ {β : Type} (f : CreditLot → β) (d : β) (i : Nat),
      (((b.lots ++ [l])[i]?).map f).getD d =
        Function.update (fun j => (b.lots[j]?.map f).getD d) b.lots.length (f l) i := by
    intro β f d i
    rw [Function.update_apply]
    rcases lt_trichotomy i b.lots.length with hi | hi | hi
    · rw [List.getElem?_append_left hi, if_neg hi.ne]
    · subst hi; simp
    · rw [List.getElem?_eq_none (by simp; omega), if_neg hi.ne', List.getElem?_eq_none hi.le]
  have hbook : ({ b with
      ledger := b.ledger ++ [e], lots := b.lots ++ [l], adjustments := b.adjustments ++ as } :
        Books).toLotBook = b.toLotBook.grant b.lots.length e.customer e.amountKobo := by
    ext1
    · simp [toLotBook, LotBook.grant, Finset.range_add_one]
    · funext i; exact (hnew _ _ i).trans (by rw [hcust]; rfl)
    · funext i; exact (hnew _ _ i).trans (by rw [hamt]; rfl)
    · rfl
    · exact h.restored_grows hg rfl
    · rfl
    · exact posted_own rfl hdir rfl
    · exact posted_other rfl (by rw [hdir]; decide)
  refine ⟨?_, fun {i m} hm => ?_⟩
  · rw [hbook]
    exact .grant (by simp [toLotBook]) e.amountKobo.2 h.fresh_lot
  · rw [hbook]
    rcases Table.getElem?_insert_iff.1 hm with hm | ⟨rfl, rfl⟩
    · have hlt := Table.lt_of_getElem? hm
      rw [LotBook.remaining_grant hlt.ne]
      exact hmatch hm
    · obtain ⟨hd, hr, hla⟩ := h.fresh_lot
      have : (b.toLotBook.grant b.lots.length e.customer e.amountKobo).granted b.lots.length =
          e.amountKobo := Function.update_self ..
      rw [hwhole.remainingAmountKobo, LotBook.remaining, this]
      change _ = _ - b.drawn _ + b.restored _ - b.lapsed _
      omega

lemma sum_parts {α : Type} {rows : List α} {key : α → Nat} {f : α → Int}
    (hkey : ∀ r ∈ rows, key r < b.lots.length) :
    ∑ i ∈ b.toLotBook.lots, Table.tally rows (fun r => key r = i) f = (rows.map f).sum := by
  have hsum := Table.sum_tally_key (p := fun _ => True) (f := f) hkey
  simp only [and_true] at hsum
  rw [show b.toLotBook.lots = Finset.range b.lots.length from rfl, hsum,
    Table.tally_eq_sum fun _ _ => trivial]

lemma Sound.debit_step (h : b.Sound) (hmatch : b.Matches) {rows : List RedemptionAllocation}
    {target : DebitTarget} {as : List Adjustment} (hp : DebitPosting e rows target as b c) :
    b.toLotBook.Step c.toLotBook ∧ c.Matches := by
  have hg := (extends_of_posted (.debit hp)).toGrows
  set d : Nat → Int := fun i => Table.tally rows (fun r => r.creditLotId = i) (·.amountKobo) with hd
  obtain ⟨hlots, howner, hgranted⟩ := lots_moved_eq hp.moved
  have hledger : c.ledger = b.ledger ++ [e] := by rw [hp.books]
  have hdrawn : c.drawn = fun i => b.drawn i + d i := by
    funext i
    unfold drawn
    rw [hp.books, Table.tally_append]
  have hrestored : c.restored = b.restored := h.restored_grows hg (by rw [hp.books])
  have hlapsed : c.lapsed = b.lapsed := by unfold lapsed; rw [hp.books]
  have hparts : b.toLotBook.Parts e.customer d := by
    refine ⟨fun i => Table.tally_nonneg fun r _ _ => r.amountKobo.2.le, fun i hi => ?_⟩
    by_contra hno
    refine hi (Table.tally_eq_zero fun r hr hon => hno ?_)
    subst hon
    obtain ⟨l, hl, hlt, hlc⟩ := hp.onLots r hr
    refine ⟨by simpa [toLotBook] using Table.lt_of_getElem? hl, ?_⟩
    rw [owner_eq hl, CreditLot.customer, hlt, hlc]
    rfl
  have hkey : ∀ r ∈ rows, r.creditLotId < b.lots.length := by
    intro r hr
    obtain ⟨l, hl, -⟩ := hp.onLots r hr
    exact Table.lt_of_getElem? hl
  have htotal : ∑ i ∈ b.toLotBook.lots, d i = e.amountKobo := by
    rw [hd, sum_parts hkey, hp.total]
  have hbook : c.toLotBook = b.toLotBook.draw e.customer d := by
    ext1
    · exact hlots
    · exact howner
    · exact hgranted
    · exact hdrawn
    · exact hrestored
    · exact hlapsed
    · exact posted_other hledger (by rw [hp.direction]; decide)
    · exact posted_own hledger hp.direction htotal
  refine ⟨hbook ▸ .draw hparts fun i hi => ?_, hmatch.moved hp.moved fun i => ?_⟩
  · obtain ⟨l, hl⟩ : ∃ l, b.lots[i]? = some l :=
      ⟨_, List.getElem?_eq_getElem (Finset.mem_range.1 hi)⟩
    obtain ⟨l', -, -, hrem⟩ := hp.moved.lot hl
    have hnn := l'.remaining_nonneg
    rw [← hmatch hl]
    simp only [hd]
    omega
  · rw [hbook]
    simp only [LotBook.remaining, LotBook.draw, hd]
    omega

lemma Sound.lot_of_restoration (h : b.Sound) {o : Nat} {rows : List AllocationRestoration}
    (hp : RestorePosting e o rows b c) {r : AllocationRestoration} (hr : r ∈ rows) :
    ∃ a l, b.allocations[r.allocationId]? = some a ∧ b.lots[a.creditLotId]? = some l ∧
      l.customer = e.customer := by
  obtain ⟨-, -, a, ha, hao, -⟩ := hp.each r hr
  obtain ⟨e', l, hs⟩ := h.allocation ha
  obtain ⟨x, hx, -, -, hten, hcus⟩ := hp.debit
  obtain rfl : e' = x := by
    have := hs.entry
    rw [hao, hx] at this
    exact (Option.some.inj this).symm
  refine ⟨a, l, ha, hs.lot, ?_⟩
  rw [CreditLot.customer, hs.lot_tenantId, hs.lot_customerId, hten, hcus]
  rfl

lemma Sound.restore_step (h : b.Sound) (hmatch : b.Matches) {o : Nat}
    {rows : List AllocationRestoration} (hp : RestorePosting e o rows b c) :
    b.toLotBook.Step c.toLotBook ∧ c.Matches := by
  have hsound := h.restore_posted hp
  set d : Nat → Int := fun i => Table.tally rows (b.restoresLot i) (·.amountKobo) with hd
  obtain ⟨hlots, howner, hgranted⟩ := lots_moved_eq hp.moved
  have hledger : c.ledger = b.ledger ++ [e] := by rw [hp.books]
  have hdrawn : c.drawn = b.drawn := by unfold drawn; rw [hp.books]
  have hrestored : c.restored = fun i => b.restored i + d i := by
    funext i
    have hon : c.restoresLot i = b.restoresLot i := by
      funext r
      unfold restoresLot
      rw [hp.books]
    unfold restored
    simp only [hon]
    rw [hp.books, Table.tally_append]
  have hlapsed : c.lapsed = b.lapsed := by unfold lapsed; rw [hp.books]
  have hparts : b.toLotBook.Parts e.customer d := by
    refine ⟨fun i => Table.tally_nonneg fun r _ _ => r.amountKobo.2.le, fun i hi => ?_⟩
    by_contra hno
    refine hi (Table.tally_eq_zero fun r hr hon => hno ?_)
    obtain ⟨a, l, ha, hl, hcust⟩ := h.lot_of_restoration hp hr
    obtain ⟨a', ha', rfl⟩ := hon
    obtain rfl : a = a' := Option.some.inj (ha.symm.trans ha')
    exact ⟨by simpa [toLotBook] using Table.lt_of_getElem? hl, (owner_eq hl).trans hcust⟩
  have htotal : ∑ i ∈ b.toLotBook.lots, d i = e.amountKobo := by
    -- a restoration goes to the lot of its allocation, and to no other
    set key : AllocationRestoration → Nat :=
      fun r => (b.allocations[r.allocationId]?.map (·.creditLotId)).getD 0 with hkey
    have hon : ∀ r ∈ rows, key r < b.lots.length ∧ ∀ i, b.restoresLot i r ↔ key r = i := by
      intro r hr
      obtain ⟨a, l, ha, hl, -⟩ := h.lot_of_restoration hp hr
      refine ⟨?_, fun i => ?_⟩
      · simpa [hkey, ha] using Table.lt_of_getElem? hl
      · simp [hkey, ha, restoresLot]
    have hsum := sum_parts (b := b) (f := fun r => (r.amountKobo : Int)) fun r hr => (hon r hr).1
    rw [← hp.total, ← hsum]
    refine Finset.sum_congr rfl fun i _ => Table.tally_congr fun r hr => ?_
    simp only [(hon r hr).2 i]
  have hbook : c.toLotBook = b.toLotBook.restore e.customer d := by
    ext1
    · exact hlots
    · exact howner
    · exact hgranted
    · exact hdrawn
    · exact hrestored
    · exact hlapsed
    · exact posted_own hledger hp.direction htotal
    · exact posted_other hledger (by rw [hp.direction]; decide)
  refine ⟨hbook ▸ .restore hparts fun i _ => ?_, hmatch.moved hp.moved fun i => ?_⟩
  · have hle := hsound.restored_le_drawn i
    rw [hdrawn, hrestored] at hle
    exact hle
  · rw [hbook]
    simp only [LotBook.remaining, LotBook.restore, hd]
    omega

lemma Sound.expiry_step (h : b.Sound) (hmatch : b.Matches) {x : CreditExpiry}
    (hp : ExpiryPosting e x b c) : b.toLotBook.Step c.toLotBook ∧ c.Matches := by
  obtain ⟨hlots, howner, hgranted⟩ := lots_moved_eq hp.moved
  obtain ⟨l, hl, hlt, hlc, -⟩ := hp.lot
  obtain ⟨-, -, hxa, -, -⟩ := hp.row
  have hledger : c.ledger = b.ledger ++ [e] := by rw [hp.books]
  have hdrawn : c.drawn = b.drawn := by unfold drawn; rw [hp.books]
  have hrestored : c.restored = b.restored :=
    h.restored_grows (extends_of_posted (.expiry hp)).toGrows (by rw [hp.books])
  have hlapsed : c.lapsed = Function.update b.lapsed x.creditLotId
      (b.lapsed x.creditLotId + x.amountKobo) := by
    funext i
    unfold lapsed
    rw [hp.books, Table.tally_append, Table.tally_cons, Table.tally_nil, add_zero,
      Function.update_apply]
    by_cases hi : i = x.creditLotId
    · subst hi; rw [if_pos rfl, if_pos rfl]
    · rw [if_neg (Ne.symm hi), if_neg hi, add_zero]
  have hown : b.toLotBook.owner x.creditLotId = e.customer := by
    rw [owner_eq hl, CreditLot.customer, hlt, hlc]
    rfl
  have hbook : c.toLotBook = b.toLotBook.lapse x.creditLotId x.amountKobo := by
    ext1
    · exact hlots
    · exact howner
    · exact hgranted
    · exact hdrawn
    · exact hrestored
    · exact hlapsed
    · exact posted_other hledger (by rw [hp.direction]; decide)
    · have hk : (x.amountKobo : Int) = e.amountKobo := by rw [hxa]
      refine (posted_own hledger hp.direction hk).trans ?_
      simp only [LotBook.lapse, hown]
      rfl
  obtain ⟨l', -, -, hrem⟩ := hp.moved.lot hl
  have hnn := l'.remaining_nonneg
  refine ⟨hbook ▸ .lapse ?_ x.amountKobo.2 ?_, hmatch.moved hp.moved fun i => ?_⟩
  · simpa [toLotBook] using Table.lt_of_getElem? hl
  · rw [← hmatch hl]
    rw [if_pos rfl] at hrem
    omega
  · rw [hbook]
    simp only [LotBook.remaining, LotBook.lapse, Function.update_apply]
    by_cases hi : i = x.creditLotId
    · subst hi; rw [if_pos rfl, if_pos rfl]; omega
    · rw [if_neg hi, if_neg (Ne.symm hi)]; omega

/-- **Each posting is a step of the abstract book**, and the column follows it. -/
theorem Sound.step (h : b.Sound) (hmatch : b.Matches) (hp : Posted b c) :
    b.toLotBook.Step c.toLotBook ∧ c.Matches := by
  cases hp with
  | credit hp => exact h.credit_step hmatch hp
  | debit hp => exact h.debit_step hmatch hp
  | restore hp => exact h.restore_step hmatch hp
  | expiry hp => exact h.expiry_step hmatch hp

/-- Sound books whose column agrees with the evidence, and whose lots obey the laws of the
abstract book. -/
structure Balanced (b : Books) : Prop where
  sound : b.Sound
  column : b.Matches
  laws : b.toLotBook.Sound

/-- **Postings are a run of the abstract book.** -/
theorem Sound.refines (h : b.Sound) (hmatch : b.Matches) (hp : Postings b c) :
    Relation.ReflTransGen LotBook.Step b.toLotBook c.toLotBook ∧ c.Matches := by
  induction hp with
  | refl => exact ⟨.refl, hmatch⟩
  | tail hps hp ih =>
      obtain ⟨hrun, hcolumn⟩ := ih
      obtain ⟨hstep, hcolumn'⟩ := (h.postings hps).step hcolumn hp
      exact ⟨hrun.tail hstep, hcolumn'⟩

/-- **Every posting keeps the books balanced.** -/
theorem Balanced.postings (h : b.Balanced) (hp : Postings b c) : c.Balanced := by
  obtain ⟨hrun, hcolumn⟩ := h.sound.refines h.column hp
  exact ⟨h.sound.postings hp, hcolumn, h.laws.run hrun⟩

end Books

end ShopcityLoyalty
