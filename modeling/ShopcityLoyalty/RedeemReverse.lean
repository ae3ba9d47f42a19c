import ShopcityLoyalty.Confirmations
import ShopcityLoyalty.Conservation
import ShopcityLoyalty.ReversalSteps

/-!
A redemption and its reversal: what the reversal of a settlement puts back is what the
settlement drew, lot by lot, whatever was committed in between.
-/

namespace ShopcityLoyalty

open Database

namespace Books

/-- What the allocations of an entry drew from a lot. -/
def drawnBy (b : Books) (entryId lotId : Nat) : Int :=
  b.allocations.tally (fun a => a.redemptionLedgerEntryId = entryId ∧ a.creditLotId = lotId)
    (·.amountKobo)

/-- What remains of a lot; nothing of a lot that is not there. -/
def remaining (b : Books) (lotId : Nat) : Int :=
  (b.lots[lotId]?.map (·.remainingAmountKobo)).getD 0

variable {b c m : Books}

lemma remaining_eq {i : Nat} {l : CreditLot} (h : b.lots[i]? = some l) :
    b.remaining i = l.remainingAmountKobo := by
  simp [remaining, h]

lemma remaining_moved {δ : Nat → Int} (h : Moved δ b.lots c.lots) {i : Nat}
    (hi : i < b.lots.length) : c.remaining i = b.remaining i + δ i := by
  have hl : b.lots[i]? = some b.lots[i] := List.getElem?_eq_getElem hi
  obtain ⟨l', hl', -, hr⟩ := h.lot hl
  rw [remaining_eq hl', remaining_eq hl, hr]

lemma drawnBy_posted (h : Posted b c) {entryId : Nat} (hlt : entryId < b.ledger.length)
    (lotId : Nat) : c.drawnBy entryId lotId = b.drawnBy entryId lotId := by
  cases h with
  | credit h => rw [h.books]; rfl
  | restore h => rw [h.books]; rfl
  | expiry h => rw [h.books]; rfl
  | @debit e rows target as h =>
      have hrows : Table.tally rows
          (fun a => a.redemptionLedgerEntryId = entryId ∧ a.creditLotId = lotId)
          (fun a => (a.amountKobo : Int)) = 0 := by
        refine Table.tally_eq_zero fun a ha hc => ?_
        have hentry := (h.each a ha).2.1
        omega
      have hall : c.allocations = b.allocations ++ rows := by rw [h.books]
      unfold drawnBy
      rw [hall, Table.tally_append, hrows, add_zero]

lemma drawnBy_postings (h : Postings b c) {entryId : Nat} (hlt : entryId < b.ledger.length)
    (lotId : Nat) : c.drawnBy entryId lotId = b.drawnBy entryId lotId := by
  induction h with
  | refl => rfl
  | @tail d e hd hlast ih =>
      obtain ⟨x, hx⟩ : ∃ x, b.ledger[entryId]? = some x := ⟨_, List.getElem?_eq_getElem hlt⟩
      have hlt' : entryId < d.ledger.length :=
        Table.lt_of_getElem? ((grows_of_postings hd).ledger hx)
      rw [drawnBy_posted hlast hlt', ih]

lemma drawnBy_debit {e : LoyaltyLedgerEntry} {rows : List RedemptionAllocation}
    {target : DebitTarget} {as : List Adjustment} (hb : b.Sound)
    (h : DebitPosting e rows target as b c) (lotId : Nat) :
    c.drawnBy b.ledger.length lotId =
      Table.tally rows (fun r => r.creditLotId = lotId) (·.amountKobo) := by
  have hall : c.allocations = b.allocations ++ rows := by rw [h.books]
  have hold : Table.tally b.allocations
      (fun a => a.redemptionLedgerEntryId = b.ledger.length ∧ a.creditLotId = lotId)
      (fun a => (a.amountKobo : Int)) = 0 := by
    refine Table.tally_eq_zero fun a ha hc => ?_
    have hlt := hb.lt_of_allocation ha
    omega
  unfold drawnBy
  rw [hall, Table.tally_append, hold, zero_add]
  refine Table.tally_congr_iff fun a ha => ?_
  have hentry := (h.each a ha).2.1
  simp [hentry]

/-- **What a restoration puts back is what the debit drew**, lot by lot: each of its rows
restores the whole of one allocation, and every allocation has its row. -/
lemma restored_eq_drawnBy {e : LoyaltyLedgerEntry} {o : Nat} {rows : List AllocationRestoration}
    (hb : b.Sound) (h : RestorePosting e o rows b c) (lotId : Nat) :
    Table.tally rows (b.restoresLot lotId) (·.amountKobo) = b.drawnBy o lotId := by
  have hkey : ∀ r ∈ rows, r.allocationId < b.allocations.length := by
    intro r hr
    obtain ⟨-, -, a, ha, -⟩ := h.each r hr
    exact Table.lt_of_getElem? ha
  unfold drawnBy
  rw [← Table.sum_tally_key hkey, Table.tally_eq_sum_range]
  refine Finset.sum_congr rfl fun k hk => ?_
  obtain ⟨a, ha⟩ : ∃ a, b.allocations[k]? = some a :=
    ⟨_, List.getElem?_eq_getElem (Finset.mem_range.1 hk)⟩
  rw [ha]
  simp only [Option.map_some, Option.getD_some]
  by_cases hown : a.redemptionLedgerEntryId = o ∧ a.creditLotId = lotId
  · rw [if_pos hown]
    obtain ⟨hentry, hlot⟩ := hown
    have hzero : b.restoredAmount k = 0 := by
      refine hb.restoredAmount_eq_zero ha ?_
      rw [hentry]
      exact h.unreversed
    obtain ⟨x, hx, -, -, hten, hcus⟩ := h.debit
    obtain ⟨e', l, hs⟩ := hb.allocation ha
    have hsame := hs.entry
    rw [hentry, hx] at hsame
    obtain rfl := Option.some.inj hsame
    have hpos : 0 < (a.amountKobo : Int) - b.restoredAmount k := by
      have := a.amountKobo.2
      omega
    obtain ⟨r, hr, hrk⟩ := h.complete ha (hs.tenantId.trans hten) hentry hpos
    obtain ⟨-, -, a', ha', -, hamount⟩ := h.each r hr
    rw [hrk] at ha'
    obtain rfl : a = a' := Option.some.inj (ha.symm.trans ha')
    rw [hrk, hzero, sub_zero] at hamount
    obtain ⟨n, hn⟩ := List.getElem?_of_mem hr
    have hone := Table.tally_of_nodup_map (f := fun r => (r.amountKobo : Int)) h.nodup hn
    rw [hamount, hrk] at hone
    rw [← hone]
    refine Table.tally_congr_iff fun x _ => ⟨fun hx => hx.1, fun hx => ⟨hx, ?_⟩⟩
    exact ⟨a, by rw [hx]; exact ha, hlot⟩
  · rw [if_neg hown]
    refine Table.tally_eq_zero fun r hr hc => hown ?_
    obtain ⟨hrk, a', ha', hlot⟩ := hc
    obtain ⟨-, -, a'', ha'', hentry, -⟩ := h.each r hr
    rw [Option.mem_def, hrk, ha] at ha'
    rw [hrk, ha] at ha''
    obtain rfl := Option.some.inj ha'
    obtain rfl := Option.some.inj ha''
    exact ⟨hentry, hlot⟩

end Books

/-! ### The settlement -/

/-- A settlement that also earned: its two entries, on one receipt. -/
structure SettledPair (b c : Books) (redeemId earnId : Nat) (e x : LoyaltyLedgerEntry) : Prop where
  redeem : c.ledger[redeemId]? = some e
  redeem_new : b.ledger.length ≤ redeemId
  redeem_type : e.type = .REDEEM
  earn : c.ledger[earnId]? = some x
  earn_new : b.ledger.length ≤ earnId
  earn_type : x.type = .EARN
  receipt : ∃ k, e.receiptId = some k ∧ x.receiptId = some k

/-- What a settlement drew, it drew from the lots there were. -/
structure Drew (b c : Books) (redeemId : Nat) : Prop where
  old : ∀ i, i < b.lots.length → b.remaining i - c.remaining i = c.drawnBy redeemId i
  fresh : ∀ i, b.lots.length ≤ i → c.drawnBy redeemId i = 0
  same : ∀ i, i < b.lots.length → ∀ l, b.lots[i]? = some l →
    ∃ l', c.lots[i]? = some l' ∧ SameLot l l'

/-- The lots after a debit and, where the net amount earned, a credit. -/
lemma SettlementPostings.drew {e : LoyaltyLedgerEntry} {rows : List RedemptionAllocation}
    {m b c : Books} (h : SettlementPostings e rows m b c) (hb : b.Sound) :
    Drew b c b.ledger.length := by
  obtain ⟨redemptionId, hdebit⟩ := h.debit
  have hlen : m.lots.length = b.lots.length := hdebit.moved.length_eq
  have hdrawn := Books.drawnBy_debit hb hdebit
  have hm : m.Sound := hb.posted (.debit hdebit)
  have hledger : m.ledger = b.ledger ++ [e] := by rw [hdebit.books]
  have hlt : b.ledger.length < m.ledger.length := by rw [hledger]; simp
  have hcm : (∀ i, i < b.lots.length → c.lots[i]? = m.lots[i]?) ∧
      ∀ i, c.drawnBy b.ledger.length i = m.drawnBy b.ledger.length i := by
    rcases h.earned with rfl | ⟨x, l, hcredit, -, -⟩
    · exact ⟨fun _ _ => rfl, fun _ => rfl⟩
    · refine ⟨fun i hi => ?_, fun i => Books.drawnBy_posted (.credit hcredit) hlt i⟩
      have hlots : c.lots = m.lots ++ [l] := by rw [hcredit.books]
      rw [hlots, List.getElem?_append_left (by omega)]
  obtain ⟨hlots, hrows⟩ := hcm
  refine ⟨fun i hi => ?_, fun i hi => ?_, fun i hi l hl => ?_⟩
  · have hsame : c.remaining i = m.remaining i := by
      rw [Books.remaining, Books.remaining, hlots i hi]
    rw [hsame, hrows, hdrawn, Books.remaining_moved hdebit.moved hi]
    omega
  · rw [hrows, hdrawn]
    refine Table.tally_eq_zero fun r hr hi' => ?_
    obtain ⟨l, hl, -⟩ := hdebit.onLots r hr
    have := Table.lt_of_getElem? hl
    omega
  · rw [hlots i hi]
    obtain ⟨l', hl', hs, -⟩ := hdebit.moved.lot hl
    exact ⟨l', hl', hs⟩

/-- A REDEEM entry is the first entry of its settlement. -/
lemma Confirms.drew {s t : Database} (h : Confirms s t) (hb : s.books.Sound) {redeemId : Nat}
    {e : LoyaltyLedgerEntry} (hnew : s.ledger.length ≤ redeemId)
    (he : t.ledger[redeemId]? = some e) (htype : e.type = .REDEEM) :
    Drew s.books t.books redeemId := by
  rcases h.settlement with hnone | ⟨x, rows, m, hset⟩
  · exact absurd htype (hnone hnew he)
  · have hfirst : redeemId = s.books.ledger.length := by
      obtain ⟨redemptionId, hdebit⟩ := hset.debit
      have hm : m.ledger = s.ledger ++ [x] := by rw [hdebit.books]; rfl
      have hold : s.books.ledger.length = s.ledger.length := rfl
      rcases hset.earned with hc | ⟨y, l, hcredit, hy, -⟩
      · have ht : t.ledger = s.ledger ++ [x] := by rw [← hm, ← hc]; rfl
        have hlt := Table.lt_of_getElem? he
        rw [ht, List.length_append, List.length_singleton] at hlt
        omega
      · have ht : t.ledger = s.ledger ++ [x] ++ [y] := by
          have hcl : t.books.ledger = m.ledger ++ [y] := by rw [hcredit.books]
          rw [← hm, ← hcl]
          rfl
        have hlt := Table.lt_of_getElem? he
        rw [ht, List.length_append, List.length_append, List.length_singleton,
          List.length_singleton] at hlt
        by_contra hne
        have hlast : redeemId = (s.ledger ++ [x]).length := by
          rw [List.length_append, List.length_singleton]
          omega
        rw [ht, hlast, Table.getElem?_insert_self] at he
        obtain rfl := Option.some.inj he
        rw [hy] at htype
        cases htype
    rw [hfirst]
    exact hset.drew hb

/-! ### The reversal -/

/-- What the reversal of a pair does with the lots and with its customer's credit. -/
structure PutBack (b c : Books) (redeemId earnId : Nat) (e x : LoyaltyLedgerEntry) : Prop where
  length_eq : c.lots.length = b.lots.length
  lot : ∀ (i : Nat) (l : CreditLot), b.lots[i]? = some l → ∃ l', c.lots[i]? = some l' ∧
    SameLot l l' ∧
    l'.remainingAmountKobo = b.drawnBy redeemId i +
      if l.earnLedgerEntryId = earnId then 0 else l.remainingAmountKobo
  earned : ∃ (i : Nat) (l : CreditLot), b.lots[i]? = some l ∧ l.earnLedgerEntryId = earnId
  credit : ∀ a, c.posted .CREDIT a = b.posted .CREDIT a + if e.customer = a
    then (e.amountKobo : Int) else 0
  debit : ∀ a, c.posted .DEBIT a = b.posted .DEBIT a + if x.customer = a
    then (x.amountKobo : Int) else 0
  customer : e.customer = x.customer

namespace ReversalsService

lemma FoundPair.eq {input : ReversalInput} {receiptId : Nat} {p : SettlementPair} {s : Database}
    (h : FoundPair input receiptId p s) {i : Nat} {e : LoyaltyLedgerEntry}
    (he : s.ledger[i]? = some e) (hr : e.receiptId = some receiptId) :
    (e.type = .EARN → i = p.earnId ∧ e = p.earn) ∧
      (e.type = .REDEEM → i = p.redeemId ∧ e = p.redeem) := by
  rcases h.entries he hr with rfl | rfl
  · obtain rfl : e = p.earn := Option.some.inj (he.symm.trans h.earn.1)
    refine ⟨fun _ => ⟨rfl, rfl⟩, fun htype => ?_⟩
    rw [h.earn_kind.1] at htype
    cases htype
  · obtain rfl : e = p.redeem := Option.some.inj (he.symm.trans h.redeem.1)
    refine ⟨fun htype => ?_, fun _ => ⟨rfl, rfl⟩⟩
    rw [h.redeem_kind.1] at htype
    cases htype

/-- The reversal of a pair, in the books. -/
lemma PairReversed.putBack {input : ReversalInput} {receiptId : Nat} {p : SettlementPair}
    {lotId : Nat} {l : CreditLot} {row : RedemptionAllocation} {planned : List PlannedRestoration}
    {rows : List AllocationRestoration} {now finishedAt : Int} {res : ReversalResponse}
    {m u w s t : Database} (hfound : FoundPair input receiptId p s) (hs : s.books.Sound)
    (h : PairReversed input p lotId l row planned rows now finishedAt res m u w s t) :
    PutBack s.books t.books p.redeemId p.earnId p.redeem p.earn := by
  have hcomp := h.compensated
  have hm : m.books.Sound := hs.posted (.debit hcomp.posting)
  have ht : t.books = u.books := by
    rw [h.completed, h.marked.frame]; rfl
  have hrow : (row.amountKobo : Int) = l.remainingAmountKobo := by
    have htotal := hcomp.posting.total
    simp only [List.map_cons, List.map_nil, List.sum_singleton] at htotal
    rw [htotal, hcomp.whole, ← hcomp.amount]
    rfl
  have hlt : p.redeemId < s.books.ledger.length := Table.lt_of_getElem? hfound.redeem.1
  have hdrawn : ∀ i, m.books.drawnBy p.redeemId i = s.books.drawnBy p.redeemId i :=
    fun i => Books.drawnBy_posted (.debit hcomp.posting) hlt i
  have hml : m.books.ledger = s.books.ledger ++ [compensatingEntry input p.earn.customerId p.earnId
      p.earn.amountKobo (.earnReversal input.requestHash) now] := by
    rw [hcomp.frame]; rfl
  have hul : u.books.ledger = m.books.ledger ++ [restoringEntry input p.redeem.customerId p.redeemId
      p.redeem.amountKobo (.redeemReversal input.requestHash) now] := by
    rw [h.restored.frame]; rfl
  have hearn : (input.actor.tenantId, p.earn.customerId) = p.earn.customer := by
    rw [← hfound.tenantId.1]; rfl
  have hredeem : (input.actor.tenantId, p.redeem.customerId) = p.redeem.customer := by
    rw [← hfound.tenantId.2]; rfl
  rw [ht]
  refine ⟨?_, fun i x hx => ?_, ⟨lotId, l, hcomp.lot, hcomp.earned⟩, fun a => ?_, fun a => ?_, ?_⟩
  · rw [h.restored.posting.moved.length_eq, hcomp.posting.moved.length_eq]
  · obtain ⟨x', hx', hsame, hrem⟩ := hcomp.posting.moved.lot hx
    obtain ⟨x'', hx'', hsame', hrem'⟩ := h.restored.posting.moved.lot hx'
    refine ⟨x'', hx'', hsame.trans hsame', ?_⟩
    rw [hrem', hrem, Books.restored_eq_drawnBy hm h.restored.posting, hdrawn]
    simp only [Table.tally_cons, Table.tally_nil, add_zero, hcomp.onLot]
    -- the lot of the credit is taken whole, on the others what was drawn comes back
    by_cases hi : lotId = i
    · obtain rfl : l = x := by
        have hlot : s.books.lots[lotId]? = some l := hcomp.lot
        rw [hi, hx] at hlot
        exact (Option.some.inj hlot).symm
      rw [if_pos hi, if_pos hcomp.earned, hrow]
      omega
    · have hne : x.earnLedgerEntryId ≠ p.earnId := by
        intro hx0
        have hlot : s.books.lots[lotId]? = some l := hcomp.lot
        exact hi (Table.eq_of_nodup_map hs.lot_once hlot hx (hcomp.earned.trans hx0.symm))
      rw [if_neg hi, if_neg hne]
      omega
  · rw [Books.posted_append _ hul, Books.posted_append _ hml, ← hredeem]
    simp [compensatingEntry, restoringEntry, LoyaltyLedgerEntry.customer]
  · rw [Books.posted_append _ hul, Books.posted_append _ hml, ← hearn]
    simp [compensatingEntry, restoringEntry, LoyaltyLedgerEntry.customer]
  · rw [← hearn, ← hredeem, hfound.customerId]

/-- **The reversal of a settlement's debit** is the reversal of the pair. -/
lemma Reversed.putBack {input : ReversalInput} {o e x : LoyaltyLedgerEntry} {now finishedAt : Int}
    {s t : Database} {redeemId earnId : Nat} (hs : s.books.Sound)
    (hsel : Selected input o s) (h : Reversed input o now finishedAt s t redeemId)
    (he : s.ledger[redeemId]? = some e) (hredeem : e.type = .REDEEM)
    (hx : s.ledger[earnId]? = some x) (hearn : x.type = .EARN)
    (hreceipt : ∃ k, e.receiptId = some k ∧ x.receiptId = some k) :
    PutBack s.books t.books redeemId earnId e x := by
  obtain ⟨k, hek, hxk⟩ := hreceipt
  have hne : earnId ≠ redeemId := by
    rintro rfl
    obtain rfl := Option.some.inj (he.symm.trans hx)
    rw [hredeem] at hearn
    cases hearn
  have hnotAlone : input.transactionId = redeemId → ¬ Alone input o s := by
    intro hid halone
    have ho : s.ledger[input.transactionId]? = some e := by rw [hid]; exact he
    obtain rfl : o = e := Option.some.inj (hsel.original.symm.trans ho)
    have hmem := halone.closed hsel.original input.transactionId (List.mem_singleton.2 rfl) o k
      hsel.original hek earnId x hx hxk
    rw [List.mem_singleton, hid] at hmem
    exact hne hmem
  cases h with
  | credit halone => exact absurd halone (hnotAlone rfl)
  | debit halone => exact absurd halone (hnotAlone rfl)
  | @pair _ receiptId p _ _ _ _ _ _ _ _ _ _ hfound hp hhalf =>
      have hrec : receiptId = k := by
        rcases hhalf with rfl | rfl
        · obtain rfl := Option.some.inj (he.symm.trans hfound.earn.1)
          exact Option.some.inj (hfound.earn.2.symm.trans hek)
        · obtain rfl := Option.some.inj (he.symm.trans hfound.redeem.1)
          exact Option.some.inj (hfound.redeem.2.symm.trans hek)
      subst hrec
      obtain ⟨rfl, rfl⟩ := (hfound.eq he hek).2 hredeem
      obtain ⟨rfl, rfl⟩ := (hfound.eq hx hxk).1 hearn
      exact hp.putBack hfound hs

end ReversalsService

/-! ### Redeem, anything, reverse -/

/-- What a settlement between `b₀` and `b₁` drew, its reversal between `b₂` and `b₃` undoes. -/
structure Undoes (b₀ b₁ b₂ b₃ : Books) (redeemId earnId : Nat)
    (e x : LoyaltyLedgerEntry) : Prop where
  /-- What was drawn from a lot, by its rows as by its remaining amount. -/
  drawn : ∀ i, i < b₀.lots.length → b₀.remaining i - b₁.remaining i = b₁.drawnBy redeemId i
  /-- A lot the redemption found gets back what was drawn from it. -/
  restored : ∀ i, i < b₀.lots.length →
    b₃.remaining i - b₂.remaining i = b₀.remaining i - b₁.remaining i
  /-- The lot the settlement earned is left with nothing. -/
  earned : ∃ (i : Nat) (l : CreditLot), b₃.lots[i]? = some l ∧ l.earnLedgerEntryId = earnId ∧
    l.remainingAmountKobo = 0
  /-- Every other lot stays as it was. -/
  others : ∀ (i : Nat) (l : CreditLot), b₀.lots.length ≤ i → b₃.lots[i]? = some l →
    l.earnLedgerEntryId ≠ earnId → b₃.remaining i = b₂.remaining i
  held : ∀ a : CustomerRef, b₃.held a - b₂.held a =
    if e.customer = a then (e.amountKobo : Int) - x.amountKobo else 0
  /-- With nothing in between, the lots are as before the redemption. -/
  direct : b₁ = b₂ → ∀ i, i < b₀.lots.length → b₃.lots[i]? = b₀.lots[i]?

lemma CreditLot.ext_of_same {l l' : CreditLot} (h : SameLot l l')
    (hr : l'.remainingAmountKobo = l.remainingAmountKobo) : l' = l := by
  obtain ⟨h1, h2, h3, h4, h5, h6⟩ := h
  cases l
  cases l'
  simp_all

lemma Books.Sound.old_lot {b c : Books} (h : b.Sound) (hg : Books.Grows b c) {i earnId : Nat}
    {l : CreditLot} (hi : i < b.lots.length) (hl : c.lots[i]? = some l)
    (hnew : b.ledger.length ≤ earnId) : l.earnLedgerEntryId ≠ earnId := by
  have hb : b.lots[i]? = some b.lots[i] := List.getElem?_eq_getElem hi
  obtain ⟨l', hl', hsame⟩ := hg.lots hb
  obtain rfl : l = l' := Option.some.inj (hl.symm.trans hl')
  have hlt := h.lt_of_lot (List.mem_of_getElem? hb)
  have hentry := hsame.earnLedgerEntryId
  omega

lemma undoes {b₀ b₁ b₂ b₃ : Books} {redeemId earnId : Nat} {e x : LoyaltyLedgerEntry}
    (h₀ : b₀.Sound) (hpair : SettledPair b₀ b₁ redeemId earnId e x) (hdrew : Drew b₀ b₁ redeemId)
    (hg₀ : Books.Grows b₀ b₁) (hbetween : Postings b₁ b₂) (h₂ : b₂.Balanced) (h₃ : b₃.Balanced)
    (hback : PutBack b₂ b₃ redeemId earnId e x) : Undoes b₀ b₁ b₂ b₃ redeemId earnId e x := by
  have hg₁ := Books.grows_of_postings hbetween
  have hg := hg₀.trans hg₁
  have hlt : redeemId < b₁.ledger.length := Table.lt_of_getElem? hpair.redeem
  have hrows : ∀ i, b₂.drawnBy redeemId i = b₁.drawnBy redeemId i :=
    fun i => Books.drawnBy_postings hbetween hlt i
  have hlot : ∀ i, i < b₀.lots.length → ∃ l₀ l₂ l₃, b₀.lots[i]? = some l₀ ∧ b₂.lots[i]? = some l₂ ∧
      b₃.lots[i]? = some l₃ ∧ SameLot l₀ l₃ ∧
      l₃.remainingAmountKobo = b₁.drawnBy redeemId i + l₂.remainingAmountKobo := by
    intro i hi
    have hl₀ : b₀.lots[i]? = some b₀.lots[i] := List.getElem?_eq_getElem hi
    obtain ⟨l₂, hl₂, hsame⟩ := hg.lots hl₀
    obtain ⟨l₃, hl₃, hsame', hrem⟩ := hback.lot i l₂ hl₂
    rw [if_neg (h₀.old_lot hg hi hl₂ hpair.earn_new), hrows] at hrem
    exact ⟨_, l₂, l₃, hl₀, hl₂, hl₃, hsame.trans hsame', hrem⟩
  refine ⟨hdrew.old, fun i hi => ?_, ?_, fun i l hi hl hne => ?_, fun a => ?_, fun hsame i hi => ?_⟩
  · obtain ⟨l₀, l₂, l₃, hl₀, hl₂, hl₃, -, hrem⟩ := hlot i hi
    have hold := hdrew.old i hi
    rw [Books.remaining_eq hl₃, Books.remaining_eq hl₂, hrem, hold]
    omega
  · obtain ⟨i, l, hl, hearned⟩ := hback.earned
    obtain ⟨l₃, hl₃, hsame, hrem⟩ := hback.lot i l hl
    have hi : b₀.lots.length ≤ i := by
      by_contra hi
      exact h₀.old_lot hg (by omega) hl hpair.earn_new hearned
    rw [if_pos hearned, hrows, hdrew.fresh i hi, add_zero] at hrem
    exact ⟨i, l₃, hl₃, hsame.earnLedgerEntryId.trans hearned, hrem⟩
  · have hlt₂ : i < b₂.lots.length := hback.length_eq ▸ Table.lt_of_getElem? hl
    have hl₂ : b₂.lots[i]? = some b₂.lots[i] := List.getElem?_eq_getElem hlt₂
    obtain ⟨l', hl', hsame, hrem⟩ := hback.lot i _ hl₂
    obtain rfl : l = l' := Option.some.inj (hl.symm.trans hl')
    have hne₂ : (b₂.lots[i]).earnLedgerEntryId ≠ earnId := by
      rw [← hsame.earnLedgerEntryId]
      exact hne
    rw [if_neg hne₂, hrows, hdrew.fresh i hi, zero_add] at hrem
    rw [Books.remaining_eq hl, Books.remaining_eq hl₂, hrem]
  · have hheld₃ := h₃.conserved.customer a
    have hheld₂ := h₂.conserved.customer a
    have hcredit := hback.credit a
    have hdebit := hback.debit a
    rw [← hback.customer] at hdebit
    by_cases ha : e.customer = a
    · rw [if_pos ha] at hcredit hdebit ⊢
      omega
    · rw [if_neg ha] at hcredit hdebit ⊢
      omega
  · obtain ⟨l₀, l₂, l₃, hl₀, hl₂, hl₃, hlots, hrem⟩ := hlot i hi
    have hold := hdrew.old i hi
    rw [← hsame] at hl₂
    rw [Books.remaining_eq hl₀, Books.remaining_eq hl₂] at hold
    rw [hl₃, hl₀, CreditLot.ext_of_same hlots (by omega)]

/-- **Redeem, then reverse**: whatever is committed in between, the reversal of a settlement
puts back exactly what the settlement drew, and takes away what it earned. -/
theorem redeem_reverse_inverse {rt : Runtime} {s₀ s₁ s₂ s₃ : System} {op op' : Op}
    {redeemId earnId : Nat} {e x : LoyaltyLedgerEntry} (h₀ : Reachable rt s₀)
    (hsettle : Step rt op s₀ s₁)
    (hpair : SettledPair s₀.db.books s₁.db.books redeemId earnId e x) (hbetween : Steps rt s₁ s₂)
    (hreverse : Step rt op' s₂ s₃) (hopen : ¬ s₂.db.books.reversed redeemId)
    (hreversed : s₃.db.books.reversed redeemId) :
    Undoes s₀.db.books s₁.db.books s₂.db.books s₃.db.books redeemId earnId e x := by
  have hi₀ := h₀.invariants
  have hi₁ := hsettle.invariants hi₀
  have hi₂ := (h₀.step hsettle).steps hbetween |>.invariants
  have hi₃ := hreverse.invariants hi₂
  have hout := hsettle.outcome hi₀.books.sound
  have hdrew := (hout.confirms hi₀.desk).drew hi₀.books.sound hpair.redeem_new hpair.redeem
    hpair.redeem_type
  have hposts := hbetween.postings hi₁
  have hg := Books.grows_of_postings hposts
  obtain ⟨input, startedAt, now, finishedAt, existing, v, o, -, hopened, hsel, hrev⟩ :=
    (hreverse.outcome hi₂.books.sound).reversed hopen hreversed
  have hv : v.books = s₂.db.books := by cases hopened <;> rfl
  have hvl : v.ledger = s₂.db.ledger := congrArg Books.ledger hv
  have he : v.ledger[redeemId]? = some e := hvl ▸ hg.ledger hpair.redeem
  have hx : v.ledger[earnId]? = some x := hvl ▸ hg.ledger hpair.earn
  have hback := hrev.putBack (hv ▸ hi₂.books.sound) hsel he hpair.redeem_type hx hpair.earn_type
    hpair.receipt
  rw [hv] at hback
  exact undoes hi₀.books.sound hpair hdrew (hsettle.grows hi₀) hposts hi₂.books hi₃.books hback

/-- A redemption paid from the credit of a purchase, reversed at once. -/
theorem redeem_reverse_inverse_shop : ∃ s₀ s₁ s₂ e x,
    Shop.opened.runAll Shop.runtime [Shop.earn "k1" 9000000] = .ok s₀ ∧
      s₀.run Shop.runtime (Shop.redeem "k2" ⟨1000000, by decide⟩ ⟨60000, by decide⟩) = .ok s₁ ∧
      s₁.run Shop.runtime (Shop.reverse "k3" 1) = .ok s₂ ∧
      Undoes s₀.db.books s₁.db.books s₁.db.books s₂.db.books 1 2 e x := by
  obtain ⟨s₂, hrun₂, -⟩ := Reachable.of_runAll Shop.runtime Shop.registry
    ([Shop.earn "k1" 9000000] ++ [Shop.redeem "k2" ⟨1000000, by decide⟩ ⟨60000, by decide⟩] ++
      [Shop.reverse "k3" 1]) (by decide +kernel)
    (by simp [Shop.earn, Shop.redeem, Shop.reverse, Op.Admissible])
  obtain ⟨s₁, hrun₁, hstep₂⟩ := System.runAll_snoc hrun₂
  obtain ⟨s₀, hrun₀, hstep₁⟩ := System.runAll_snoc hrun₁
  have h₀ : Reachable Shop.runtime s₀ :=
    ⟨Shop.registry, .of_runAll hrun₀ (by simp [Shop.earn, Op.Admissible])⟩
  have hlen : s₀.db.ledger.length = 1 :=
    System.of_runAll_map hrun₀ (f := fun s => s.db.ledger.length) (by decide +kernel)
  have hentries : s₁.db.ledger.map (fun e => (e.type, e.receiptId)) =
      [(.EARN, some 0), (.REDEEM, some 1), (.EARN, some 1)] :=
    System.of_runAll_map hrun₁ (f := fun s => s.db.ledger.map fun e => (e.type, e.receiptId))
      (by decide +kernel)
  have hunreversed : s₁.db.ledger.filterMap (·.reversesEntryId) = [] :=
    System.of_runAll_map hrun₁ (f := fun s => s.db.ledger.filterMap (·.reversesEntryId))
      (by decide +kernel)
  have hreversed : s₂.db.ledger.filterMap (·.reversesEntryId) = [2, 1] :=
    System.of_runAll_map hrun₂ (f := fun s => s.db.ledger.filterMap (·.reversesEntryId))
      (by decide +kernel)
  have hat : ∀ i (hi : i < 3), ∃ e, s₁.db.ledger[i]? = some e ∧
      [(LedgerEntryType.EARN, some 0), (.REDEEM, some 1), (.EARN, some 1)][i]? =
        some (e.type, e.receiptId) := by
    intro i hi
    have hlt : i < s₁.db.ledger.length := by
      have := congrArg List.length hentries
      simp at this
      omega
    refine ⟨_, List.getElem?_eq_getElem hlt, ?_⟩
    rw [← hentries, List.getElem?_map, List.getElem?_eq_getElem hlt]
    rfl
  obtain ⟨e, he, heq⟩ := hat 1 (by omega)
  obtain ⟨x, hx, hxq⟩ := hat 2 (by omega)
  obtain ⟨hte, hre⟩ := Prod.mk.inj (Option.some.inj heq)
  obtain ⟨htx, hrx⟩ := Prod.mk.inj (Option.some.inj hxq)
  have hnone : ¬ s₁.db.books.reversed 1 := by
    rintro ⟨y, hy, hr⟩
    have hmem : 1 ∈ s₁.db.ledger.filterMap (·.reversesEntryId) := List.mem_filterMap.2 ⟨y, hy, hr⟩
    rw [hunreversed] at hmem
    cases hmem
  have hsome : s₂.db.books.reversed 1 := by
    have hmem : 1 ∈ s₂.db.ledger.filterMap (·.reversesEntryId) := by rw [hreversed]; simp
    obtain ⟨y, hy, hr⟩ := List.mem_filterMap.1 hmem
    exact ⟨y, hy, hr⟩
  refine ⟨s₀, s₁, s₂, e, x, hrun₀, hstep₁, hstep₂, ?_⟩
  exact redeem_reverse_inverse h₀ ⟨hstep₁, trivial⟩
    ⟨he, hlen.le, hte.symm, hx, by rw [show s₀.db.books.ledger.length = 1 from hlen]; omega,
      htx.symm, 1, hre.symm, hrx.symm⟩
    (.refl s₁) ⟨hstep₂, trivial⟩ hnone hsome

end ShopcityLoyalty
