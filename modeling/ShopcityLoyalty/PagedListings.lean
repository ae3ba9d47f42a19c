import ShopcityLoyalty.Lib.Executions
import ShopcityLoyalty.Listings
import ShopcityLoyalty.System

/-!
Following the cursors of a list: which lists come out whole.
-/

namespace ShopcityLoyalty

open Paging

/-! ### One list -/

namespace PagedList

variable {α : Type} {q : PagedList α} {rt : ListingRuntime} {where_ : α → Bool} {limit : Nat}
  {a : α}

lemma key_nodup (q : PagedList α) : (q.table.rows.map q.key).Nodup := by
  have hid : ((q.table.rows.map q.key).map fun k => (ofLex k).2).Nodup := by
    rw [List.map_map]
    exact q.table.nodup
  exact hid.of_map _

lemma full_strict (q : PagedList α) (where_ : α → Bool) :
    (q.full where_).Pairwise fun a b => q.key b < q.key a :=
  descending_strict (q.key_nodup.sublist (List.filter_sublist.map _))

lemma mem_full : a ∈ q.full where_ ↔ a ∈ q.table.rows ∧ where_ a := by
  rw [full, (descending_perm _ _).mem_iff, List.mem_filter]

lemma find_row (ha : a ∈ q.table.rows) :
    q.table.rows.find? (fun b => q.table.id b = q.table.id a) = some a := by
  have hsome : (q.table.rows.find? fun b => q.table.id b = q.table.id a).isSome :=
    List.find?_isSome.2 ⟨a, ha, decide_eq_true rfl⟩
  obtain ⟨b, hb⟩ := Option.isSome_iff_exists.1 hsome
  have hid : q.table.id b = q.table.id a := by
    have hp := List.find?_some hb
    exact of_decide_eq_true hp
  rw [hb, List.inj_on_of_nodup_map q.table.nodup (List.mem_of_find?_eq_some hb) ha hid]

/-- The cursor made of a row. -/
def cursorOf (q : PagedList α) (rt : ListingRuntime) (a : α) : String :=
  encodeCursor rt (q.table.id a) (q.orderBy a)

lemma decode_cursorOf (ha : a ∈ q.table.rows) (htrip : rt.RoundTrips (q.table.id a) (q.orderBy a)) :
    decodeCursor rt (q.cursorOf rt a) = .ok ⟨q.table.id a, rt.toISOString (q.orderBy a)⟩ := by
  have hne : ¬ (q.table.id a = "" ∨ rt.toISOString (q.orderBy a) = "") := by
    simp [q.table.nonempty a ha, htrip.text]
  simp [decodeCursor, cursorOf, encodeCursor, htrip.json, hne]

lemma located_ok {decoded : Option DecodedCursor} {after : Option (Int ×ₗ String)}
    (h : q.after rt decoded = .ok after) :
    q.located rt (.ok where_) decoded = .ok (after, where_) := by
  unfold located
  rw [h]
  split <;> rfl

lemma page_first {hpos : 0 < limit} :
    q.page rt (.ok where_) ⟨limit, none, hpos⟩ =
      .ok (pageOf (q.cursorOf rt) limit (q.full where_)) := by
  have hrows : q.findMany where_ none none (limit + 1) = (q.full where_).take (limit + 1) := by
    simp [findMany, full]
  have hpage : q.page rt (.ok where_) ⟨limit, none, hpos⟩ =
      .ok (pageOf (q.cursorOf rt) limit (q.findMany where_ none none (limit + 1))) := by
    change (q.located rt (.ok where_) none >>= _) = _
    have hnone : q.after rt none = .ok none := rfl
    rw [located_ok hnone]
    rfl
  rw [hpage, hrows, pageOf_take]

/-- How many rows a page skips after the row of its cursor. -/
def skipped (q : PagedList α) : Nat := if q.keyset && q.cursorRow then 1 else 0

/-- The rows after a row, as a page reads them. -/
lemma findMany_after (hone : q.keyset || q.cursorRow) {pre post : List α}
    (hl : q.full where_ = pre ++ a :: post) (take : Nat) (timestamp : String) :
    q.findMany where_ (some ⟨q.table.id a, timestamp⟩) (if q.keyset then some (q.key a) else none)
      take = (post.drop q.skipped).take take := by
  have hmem : a ∈ q.table.rows := (mem_full.1 (by rw [hl]; simp : a ∈ q.full where_)).1
  have hlt := filter_lt (q.full_strict where_) hl
  have hle := filter_le (q.full_strict where_) hl
  have hkeyset : descending q.key (q.table.rows.filter fun b => where_ b && q.key b < q.key a) =
      post := by
    have hfilter : (q.table.rows.filter fun b => where_ b && q.key b < q.key a) =
        (q.table.rows.filter where_).filter fun b => q.key b < q.key a := by
      rw [List.filter_filter]
      exact List.filter_congr fun b _ => Bool.and_comm ..
    rw [hfilter, descending_filter (q.key_nodup.sublist (List.filter_sublist.map _))]
    exact hlt
  have hpost : post.filter (fun b => q.key b ≤ q.key a) = post := by
    rw [← hlt, List.filter_filter]
    refine List.filter_congr fun b _ => ?_
    by_cases hb : q.key b < q.key a
    · simp [hb, hb.le]
    · simp [hb]
  cases hk : q.keyset with
  | false =>
      have hc : q.cursorRow = true := by simpa [hk] using hone
      have hfull : descending q.key (q.table.rows.filter where_) = q.full where_ := rfl
      simp only [findMany, hk, hc, Bool.not_false, Bool.true_or, Bool.and_true, if_true,
        find_row hmem, skipped]
      rw [hfull, hle]
      rfl
  | true =>
      have hafter : (q.table.rows.filter fun b => where_ b && (!true ||
          (some (q.key a)).all fun k => decide (q.key b < k))) =
          q.table.rows.filter fun b => where_ b && decide (q.key b < q.key a) := by simp
      cases hc : q.cursorRow with
      | false =>
          simp only [findMany, hk, hc, if_true, skipped, Bool.and_false]
          rw [hafter, hkeyset]
          rfl
      | true =>
          simp only [findMany, hk, hc, if_true, skipped, Bool.and_true, find_row hmem]
          rw [hafter, hkeyset, hpost]

lemma page_after (hone : q.keyset || q.cursorRow)
    (htrip : ∀ a ∈ q.table.rows, rt.RoundTrips (q.table.id a) (q.orderBy a)) {hpos : 0 < limit}
    {pre post : List α} (hl : q.full where_ = pre ++ a :: post) :
    q.page rt (.ok where_) ⟨limit, some (q.cursorOf rt a), hpos⟩ =
      .ok (pageOf (q.cursorOf rt) limit (post.drop q.skipped)) := by
  have hmem : a ∈ q.table.rows := (mem_full.1 (by rw [hl]; simp : a ∈ q.full where_)).1
  have hafter : q.after rt (some ⟨q.table.id a, rt.toISOString (q.orderBy a)⟩) =
      .ok (if q.keyset then some (q.key a) else none) := by
    cases hk : q.keyset with
    | false => simp [after, hk]
    | true => simp [after, hk, (htrip a hmem).date, key]
  have hrows := findMany_after hone hl (limit + 1) (rt.toISOString (q.orderBy a))
  have hpage : q.page rt (.ok where_) ⟨limit, some (q.cursorOf rt a), hpos⟩ =
      .ok (pageOf (q.cursorOf rt) limit (q.findMany where_
        (some ⟨q.table.id a, rt.toISOString (q.orderBy a)⟩)
        (if q.keyset then some (q.key a) else none) (limit + 1))) := by
    have hgiven : (some (q.cursorOf rt a)).filter (· ≠ "") = some (q.cursorOf rt a) :=
      Option.filter_eq_some_iff.2 ⟨rfl, decide_eq_true (rt.encodeJson_ne _ _)⟩
    simp only [page, hgiven, decode_cursorOf hmem (htrip a hmem), Except.map]
    change (q.located rt (.ok where_) (some ⟨q.table.id a, rt.toISOString (q.orderBy a)⟩) >>= _) = _
    rw [located_ok hafter]
    rfl
  rw [hpage, hrows, pageOf_take]

lemma skipping (hone : q.keyset || q.cursorRow)
    (htrip : ∀ a ∈ q.table.rows, rt.RoundTrips (q.table.id a) (q.orderBy a)) (hpos : 0 < limit)
    {fetch : Option String → Except Fault (Page α String)}
    (hfetch : ∀ c, fetch c = q.page rt (.ok where_) ⟨limit, c, hpos⟩) :
    Skipping fetch (q.cursorOf rt) limit q.skipped (q.full where_) := by
  refine ⟨by rw [hfetch, page_first], fun pre x post hl => ?_⟩
  rw [hfetch, page_after hone htrip hl]

/-- **A list in pages** comes out whole, unless a page skips a row that there is. -/
theorem follow_iff (hone : q.keyset || q.cursorRow)
    (htrip : ∀ a ∈ q.table.rows, rt.RoundTrips (q.table.id a) (q.orderBy a)) (hpos : 0 < limit)
    {fetch : Option String → Except Fault (Page α String)}
    (hfetch : ∀ c, fetch c = q.page rt (.ok where_) ⟨limit, c, hpos⟩) :
    (∃ n, follow fetch n none = some (q.full where_)) ↔
      (q.keyset && q.cursorRow) = false ∨ (q.full where_).length ≤ limit := by
  have hskip := skipping hone htrip hpos hfetch
  by_cases hboth : (q.keyset && q.cursorRow) = true
  · have hone : q.skipped = 1 := if_pos hboth
    rw [hone] at hskip
    rw [follow_skip_iff hpos hskip]
    simp [hboth]
  · have hzero : q.skipped = 0 := if_neg hboth
    rw [hzero] at hskip
    exact ⟨fun _ => .inl (by simpa using hboth), fun _ => follow_all hpos hskip⟩

end PagedList

/-! ### The five lists -/

namespace ListRequest

/-- The list of fraud flags. -/
def IsFraudFlags : ListRequest → Prop
  | fraudFlags .. => True
  | _ => False

variable {rt : ListingRuntime} {tables : ListedTables} {limitValue : Option String}
  {r : ListRequest} {limit : Nat} {where_ : r.Row → Bool}

lemma parse_cursor {defaultLimit maxLimit : Nat} {hmax : 0 < maxLimit}
    (h : (parseCursorPageRequest rt limitValue none defaultLimit maxLimit hmax).map (·.limit) =
      .ok limit) : ∃ hpos : 0 < limit, ∀ c,
      parseCursorPageRequest rt limitValue c defaultLimit maxLimit hmax = .ok ⟨limit, c, hpos⟩ := by
  unfold parseCursorPageRequest at h ⊢
  simp only at h ⊢
  split at h
  · rename_i n hn
    split at h
    · rename_i h1
      obtain rfl := Except.ok.inj h
      have hpos : 0 < min n.toNat maxLimit := by omega
      exact ⟨hpos, fun c => dif_pos h1⟩
    · cases h
  · cases h

/-- What the pages of a request in order are. -/
lemma fetch_eq (hwhere : r.conditions rt tables = .ok where_)
    (hlimit : r.limit rt limitValue = .ok limit) : ∃ hpos : 0 < limit, ∀ c,
      r.fetch rt tables limitValue c = (r.list tables).page rt (.ok where_) ⟨limit, c, hpos⟩ := by
  cases r with
  | fraudFlags actor query =>
      obtain ⟨hpos, hparse⟩ := parse_cursor hlimit
      obtain ⟨scope, hscope, hconditions⟩ := Except.bind_ok.1 hwhere
      refine ⟨hpos, fun c => ?_⟩
      simp only [fetch, hparse, FraudReviewService.listFraudFlags]
      change (FraudReviewService.resolveScope tables.branches actor query.branchId >>= _) = _
      rw [hscope]
      change PagedList.page _ _ _ _ = _
      rw [hconditions]
      rfl
  | issuedCards tenantId filters =>
      obtain ⟨hpos, hparse⟩ := parse_cursor hlimit
      refine ⟨hpos, fun c => ?_⟩
      rw [← hwhere]
      simp only [fetch, hparse]
      rfl
  | transactions actor receiptNumber filters =>
      obtain ⟨hpos, hparse⟩ := parse_cursor hlimit
      obtain ⟨branchId, hbranch, hconditions⟩ := Except.bind_ok.1 hwhere
      refine ⟨hpos, fun c => ?_⟩
      simp only [fetch, LoyaltyService.searchTransactionsByReceipt, hbranch, hparse]
      change PagedList.page _ _ _ _ = _
      rw [hconditions]
      rfl
  | customerLedger actor customerId =>
      obtain ⟨hpos, hparse⟩ := parse_cursor hlimit
      refine ⟨hpos, fun c => ?_⟩
      rw [← hwhere]
      simp only [fetch, hparse]
      rfl
  | approvals actor statuses search category =>
      obtain ⟨hpos, hparse⟩ := parse_cursor hlimit
      refine ⟨hpos, fun c => ?_⟩
      rw [← hwhere]
      simp only [fetch, hparse]
      rfl

lemma list_reads (tables : ListedTables) (r : ListRequest) :
    (r.list tables).keyset || (r.list tables).cursorRow := by
  cases r <;> rfl

lemma list_both (tables : ListedTables) (r : ListRequest) :
    ((r.list tables).keyset && (r.list tables).cursorRow) = false ↔ ¬ r.IsFraudFlags := by
  cases r <;> simp [IsFraudFlags, list, FraudReviewService.fraudFlagList,
    CardsService.issuedCardList, LoyaltyService.transactionList, LoyaltyService.customerLedger,
    LoyaltyService.approvalList]

/-- **Following the cursors** of a list gives the whole of it, each row once and in order, exactly
where it is not the list of fraud flags or fits on one page. -/
theorem paged_listing_iff (hwhere : r.conditions rt tables = .ok where_)
    (hlimit : r.limit rt limitValue = .ok limit)
    (htrip : ∀ a ∈ (r.list tables).table.rows,
      rt.RoundTrips ((r.list tables).table.id a) ((r.list tables).orderBy a)) :
    (∃ n, follow (r.fetch rt tables limitValue) n none = some ((r.list tables).full where_)) ↔
      ¬ r.IsFraudFlags ∨ ((r.list tables).full where_).length ≤ limit := by
  obtain ⟨hpos, hfetch⟩ := fetch_eq hwhere hlimit
  rw [PagedList.follow_iff (list_reads tables r) htrip hpos hfetch, list_both]

end ListRequest

namespace Shop

/-- The platform, as far as three flags of one evening need it. -/
def listing : ListingRuntime where
  SHOPCITY_TIMEZONE := none
  toUpperCase := id
  integer text := if text = "2" then some 2 else if text = "3" then some 3 else none
  instant text := if text = "2023-11-14T22:13:20.000Z" then some night else none
  toISOString t := if t = night then "2023-11-14T22:13:20.000Z" else toString t
  localAsUtc _ t := t
  containsInsensitive text part := LoyaltyService.includes text part
  encodeJson id timestamp :=
    if timestamp = "2023-11-14T22:13:20.000Z" then
      if id = "f1" then "eyJpZCI6ImYxIiwidGltZXN0YW1wIjoiMjAyMy0xMS0xNFQyMjoxMzoyMC4wMDBaIn0"
      else if id = "f2" then "eyJpZCI6ImYyIiwidGltZXN0YW1wIjoiMjAyMy0xMS0xNFQyMjoxMzoyMC4wMDBaIn0"
      else if id = "f3" then "eyJpZCI6ImYzIiwidGltZXN0YW1wIjoiMjAyMy0xMS0xNFQyMjoxMzoyMC4wMDBaIn0"
      else "e30"
    else "e30"
  decodeJson text :=
    if text = "eyJpZCI6ImYxIiwidGltZXN0YW1wIjoiMjAyMy0xMS0xNFQyMjoxMzoyMC4wMDBaIn0" then
      some ("f1", "2023-11-14T22:13:20.000Z")
    else if text = "eyJpZCI6ImYyIiwidGltZXN0YW1wIjoiMjAyMy0xMS0xNFQyMjoxMzoyMC4wMDBaIn0" then
      some ("f2", "2023-11-14T22:13:20.000Z")
    else if text = "eyJpZCI6ImYzIiwidGltZXN0YW1wIjoiMjAyMy0xMS0xNFQyMjoxMzoyMC4wMDBaIn0" then
      some ("f3", "2023-11-14T22:13:20.000Z")
    else none
  encodeJson_ne id timestamp := by split_ifs <;> decide

def openFlag (id : String) : FraudReviewService.FraudFlagRow where
  id := id
  tenantId := "tenant"
  branchId := some "branch"
  status := .OPEN
  severity := .HIGH
  ruleCode := "FR-HV-001"
  cashierId := some "cashier"
  customerId := some "customer"
  lastDetectedAt := night

/-- Three open flags, and nothing else. -/
def flagged : ListedTables where
  branches := registry.branches
  fraudFlags := ⟨(·.id), [openFlag "f1", openFlag "f2", openFlag "f3"], by decide, by decide⟩
  cards := ⟨(·.id), [], by simp, by simp⟩
  entries := ⟨(·.id), [], by simp, by simp⟩
  approvals := ⟨(·.id), [], by simp, by simp⟩

/-- All flags of the supervisor's branch. -/
def flagsOfBranch : ListRequest :=
  .fraudFlags supervisor ⟨none, none, none, none, none, none, none, none⟩

def isFlagOfBranch (flag : FraudReviewService.FraudFlagRow) : Bool :=
  flag.tenantId = "tenant" && flag.branchId = some "branch"

lemma flagsOfBranch_conditions :
    flagsOfBranch.conditions listing flagged = .ok isFlagOfBranch := by
  have hscope : FraudReviewService.resolveScope registry.branches supervisor none =
      .ok (some "branch") := by decide
  change (FraudReviewService.resolveScope registry.branches supervisor none >>= _) = _
  rw [hscope]
  change Except.ok _ = Except.ok _
  congr 1
  funext flag
  rw [Bool.eq_iff_iff]
  simp [isFlagOfBranch, whenGiven, given, supervisor]
  exact fun _ => decide_eq_true_iff

lemma flagged_roundTrips : ∀ a ∈ flagged.fraudFlags.rows,
    listing.RoundTrips (flagged.fraudFlags.id a) a.lastDetectedAt := by
  intro a ha
  simp only [flagged, List.mem_cons, List.not_mem_nil, or_false] at ha
  rcases ha with rfl | rfl | rfl
  · exact ⟨by decide +kernel, by decide +kernel, by decide +kernel⟩
  · exact ⟨by decide +kernel, by decide +kernel, by decide +kernel⟩
  · exact ⟨by decide +kernel, by decide +kernel, by decide +kernel⟩

lemma flagsOfBranch_length :
    ((flagsOfBranch.list flagged).full isFlagOfBranch).length = 3 := by
  have hperm := descending_perm (flagsOfBranch.list flagged).key
    ((flagsOfBranch.list flagged).table.rows.filter isFlagOfBranch)
  exact hperm.length_eq.trans (by decide)

end Shop

namespace ListRequest

/-- Three flags on one page. -/
theorem paged_listing_shop :
    ∃ n, follow (Shop.flagsOfBranch.fetch Shop.listing Shop.flagged (some "3")) n none =
      some ((Shop.flagsOfBranch.list Shop.flagged).full Shop.isFlagOfBranch) := by
  have hlimit : Shop.flagsOfBranch.limit Shop.listing (some "3") = .ok 3 := by decide +kernel
  refine (paged_listing_iff Shop.flagsOfBranch_conditions hlimit Shop.flagged_roundTrips).2
    (.inr ?_)
  rw [Shop.flagsOfBranch_length]

/-- Two to a page, the third flag is lost. -/
theorem paged_listing_loses :
    ¬ ∃ n, follow (Shop.flagsOfBranch.fetch Shop.listing Shop.flagged (some "2")) n none =
      some ((Shop.flagsOfBranch.list Shop.flagged).full Shop.isFlagOfBranch) := by
  have hlimit : Shop.flagsOfBranch.limit Shop.listing (some "2") = .ok 2 := by decide +kernel
  obtain ⟨hpos, hfetch⟩ := fetch_eq Shop.flagsOfBranch_conditions hlimit
  rw [PagedList.follow_iff rfl Shop.flagged_roundTrips hpos hfetch, Shop.flagsOfBranch_length]
  rintro (hboth | hlen)
  · cases hboth
  · omega

end ListRequest

end ShopcityLoyalty
