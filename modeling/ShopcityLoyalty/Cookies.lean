import ShopcityLoyalty.AuthSchema
import ShopcityLoyalty.Lib.Decimals
import ShopcityLoyalty.Lib.Uri
import ShopcityLoyalty.Texts

/-!
Cookies: how they are built, and how the header of a request is parsed.

The header is split at its semicolons and each entry at its equals signs. Decoding throws on a
malformed escape, and the parser has one reduction over all entries, so that one such value
throws for the whole header.
-/

namespace ShopcityLoyalty

open Uri

def SESSION_COOKIE_NAME : String := "shopcity_session"

/-- The properties the record has of its own. -/
abbrev CookieRecord := String → Option String

def noCookies : CookieRecord := fun _ => none

/-- `cookies[name] = value`; a text under `__proto__` is dropped by its setter. -/
def CookieRecord.assign (cookies : CookieRecord) (name value : String) : CookieRecord :=
  if name = "__proto__" then cookies else fun n => if n = name then some value else cookies n

/-- The name of an entry and its value, which is still encoded. -/
def rawCookie (entry : String) : String × String :=
  match splitText '=' (trim entry) with
  | rawName :: rawValue => (rawName, "=".intercalate rawValue)
  | [] => ("", "")

/-- One step of the reduction; `none` is the `URIError`. -/
def reduceEntry (cookies : CookieRecord) (entry : String) : Option CookieRecord :=
  let (rawName, rawValue) := rawCookie entry
  if rawName = "" then some cookies
  else (decodeURIComponent rawValue).map (cookies.assign rawName)

def parseCookies (cookieHeader : Option String) : Option CookieRecord :=
  let header := cookieHeader.getD ""
  if header = "" then some noCookies else (splitText ';' header).foldlM reduceEntry noCookies

/-- The name and the encoded value every built cookie starts with. -/
def cookiePair (name value : String) : String := name ++ "=" ++ encodeURIComponent value

def buildCookie (name value : String) (maxAgeSeconds : Option Int) (secure : Bool) : String :=
  let parts := [cookiePair name value, "Path=/", "SameSite=Lax", "HttpOnly"] ++
    (if secure then ["Secure"] else []) ++
    (maxAgeSeconds.map fun seconds => "Max-Age=" ++ toString (max 0 seconds)).toList
  "; ".intercalate parts

/-- The token of a request, if it has one; `none` is the `URIError` of its cookies. -/
def extractSessionToken (authorization cookie : Option String) : Option (Option String) :=
  match authorization.bind fun value => "Bearer ".toList.isPrefixOf? value.toList with
  | some token => some (some (trim (String.ofList token)))
  | none => (parseCookies cookie).map fun cookies => cookies SESSION_COOKIE_NAME

/-! ### What a header holds -/

/-- The entries of a header. -/
def cookieEntries (header : String) : List String := splitText ';' header

/-- An entry that says nothing, or whose value decodes. -/
def EntryDecodes (entry : String) : Prop :=
  (rawCookie entry).1 = "" ∨ (decodeURIComponent (rawCookie entry).2).isSome

/-- The record of the entries that decode, whatever the others are. -/
def decodedCookies (header : String) : CookieRecord :=
  (cookieEntries header).foldl (fun cookies entry => (reduceEntry cookies entry).getD cookies)
    noCookies

lemma reduceEntry_isSome (cookies : CookieRecord) (entry : String) :
    (reduceEntry cookies entry).isSome ↔ EntryDecodes entry := by
  unfold reduceEntry EntryDecodes
  by_cases hname : (rawCookie entry).1 = "" <;> simp [hname]

/-- The reduction ends when every entry decodes, and then it has taken every entry. -/
lemma foldlM_reduceEntry (entries : List String) (cookies : CookieRecord) :
    ((∀ entry ∈ entries, EntryDecodes entry) →
      entries.foldlM reduceEntry cookies =
        some (entries.foldl (fun cookies entry => (reduceEntry cookies entry).getD cookies)
          cookies)) ∧
    (¬ (∀ entry ∈ entries, EntryDecodes entry) → entries.foldlM reduceEntry cookies = none) := by
  induction entries generalizing cookies with
  | nil => simp
  | cons entry entries ih =>
    by_cases hentry : EntryDecodes entry
    · obtain ⟨next, hnext⟩ :=
        Option.isSome_iff_exists.1 ((reduceEntry_isSome cookies entry).2 hentry)
      have hrest := ih next
      constructor
      · intro hall
        have hlater := hrest.1 fun e he => hall e (by simp [he])
        simp [List.foldlM_cons, hnext, hlater]
      · intro hno
        have hlater := hrest.2 fun hall => hno (by simpa using ⟨hentry, hall⟩)
        simp [List.foldlM_cons, hnext, hlater]
    · have hnone : reduceEntry cookies entry = none := by
        rw [← Option.not_isSome_iff_eq_none, reduceEntry_isSome]
        exact hentry
      constructor
      · intro hall
        exact absurd (hall entry (by simp)) hentry
      · intro _
        simp [List.foldlM_cons, hnone]

lemma decodedCookies_empty : decodedCookies "" = noCookies := by
  rfl

lemma entryDecodes_empty : ∀ entry ∈ cookieEntries "", EntryDecodes entry := by
  intro entry hentry
  have hsplit : cookieEntries "" = [""] := rfl
  rw [hsplit, List.mem_singleton] at hentry
  subst hentry
  exact .inl rfl

/-- **A header is parsed** to the cookies that decode exactly when all of its entries do. -/
theorem parseCookies_eq_iff (header : Option String) :
    parseCookies header = some (decodedCookies (header.getD "")) ↔
      ∀ entry ∈ cookieEntries (header.getD ""), EntryDecodes entry := by
  unfold parseCookies
  by_cases hempty : header.getD "" = ""
  · simp only [hempty, if_true, decodedCookies_empty]
    exact iff_of_true trivial entryDecodes_empty
  · have hfold := foldlM_reduceEntry (cookieEntries (header.getD "")) noCookies
    simp only [hempty, if_false]
    constructor
    · intro hsome
      by_contra hno
      rw [← cookieEntries, hfold.2 hno] at hsome
      cases hsome
    · intro hall
      exact hfold.1 hall

/-! ### Built cookies read back -/

/-- A character of a token: visible ASCII that separates nothing. -/
def isTokenChar (c : Char) : Bool :=
  33 ≤ c.toNat && c.toNat ≤ 126 && !("()<>@,;:\\\"/[]?=\x7b\x7d".toList.contains c)

/-- A name a cookie may have. -/
def IsToken (name : String) : Prop := name ≠ "" ∧ name.toList.all isTokenChar

instance (name : String) : Decidable (IsToken name) := inferInstanceAs (Decidable (_ ∧ _))

lemma IsToken.char {name : String} (h : IsToken name) {c : Char} (hc : c ∈ name.toList) :
    isTokenChar c :=
  List.all_eq_true.1 h.2 c hc

lemma unreserved_range {c : Char} (h : unreserved c) : 33 ≤ c.toNat ∧ c.toNat ≤ 126 := by
  simp only [unreserved, Bool.or_eq_true, List.contains_iff_mem] at h
  rcases h with h | h
  · have hranges : ((decide (c.val ≥ 'A'.val ∧ c.val ≤ 'Z'.val) ||
        (c.val ≥ 'a'.val && c.val ≤ 'z'.val)) || (c.val ≥ '0'.val && c.val ≤ '9'.val)) = true := h
    have hval : c.val.toNat = c.toNat := rfl
    simp only [Bool.or_eq_true, Bool.and_eq_true, decide_eq_true_eq, ge_iff_le,
      UInt32.le_iff_toNat_le, hval] at hranges
    simp at hranges
    omega
  · have hall : "-_.!~*'()".toList.all (fun d => decide (33 ≤ d.toNat ∧ d.toNat ≤ 126)) := rfl
    exact of_decide_eq_true (List.all_eq_true.1 hall c h)

lemma isTokenChar_ne {c : Char} (h : isTokenChar c) : c ≠ ';' ∧ c ≠ '=' ∧ ¬ isWhiteSpace c := by
  refine ⟨?_, ?_, ?_⟩
  · rintro rfl
    revert h
    decide
  · rintro rfl
    revert h
    decide
  · simp only [isTokenChar, Bool.and_eq_true, decide_eq_true_eq] at h
    simp only [isWhiteSpace, Bool.or_eq_true, Bool.and_eq_true, decide_eq_true_eq]
    omega

lemma encoded_ne {value : String} {c : Char} (h : c ∈ (encodeURIComponent value).toList) :
    c ≠ ';' ∧ c ≠ '=' ∧ ¬ isWhiteSpace c := by
  have hplain : unreserved c ∨ c = '%' := mem_encodeURIComponent h
  have hrange : 33 ≤ c.toNat ∧ c.toNat ≤ 126 := by
    rcases hplain with hplain | rfl
    · exact unreserved_range hplain
    · decide
  refine ⟨?_, ?_, ?_⟩
  · rintro rfl
    revert hplain
    decide
  · rintro rfl
    revert hplain
    decide
  · simp only [isWhiteSpace, Bool.or_eq_true, Bool.and_eq_true, decide_eq_true_eq]
    omega

lemma mem_cookiePair {name value : String} (hname : IsToken name) {c : Char}
    (h : c ∈ (cookiePair name value).toList) : c ≠ ';' ∧ ¬ isWhiteSpace c := by
  rw [cookiePair, String.toList_append, String.toList_append, List.mem_append, List.mem_append] at h
  rcases h with (h | h) | h
  · have hc := isTokenChar_ne (hname.char h)
    exact ⟨hc.1, hc.2.2⟩
  · have hequals : ("=".toList) = ['='] := rfl
    rw [hequals, List.mem_singleton] at h
    subst h
    exact ⟨by decide, by decide⟩
  · have hc := encoded_ne h
    exact ⟨hc.1, hc.2.2⟩

lemma rawCookie_pair {name value : String} (hname : IsToken name) {entry : String}
    (hentry : trim entry = cookiePair name value) :
    rawCookie entry = (name, encodeURIComponent value) := by
  have hequals : ("=".toList) = ['='] := rfl
  have hnot : '=' ∉ name.toList := fun h => (isTokenChar_ne (hname.char h)).2.1 rfl
  have hnot' : '=' ∉ (encodeURIComponent value).toList := fun h => (encoded_ne h).2.1 rfl
  have hsplit : splitText '=' (cookiePair name value) = [name, encodeURIComponent value] := by
    rw [splitText, cookiePair, String.toList_append, String.toList_append, hequals,
      List.append_assoc,
      List.singleton_append, List.splitOn_append_cons_self_of_not_mem hnot,
      List.splitOn_eq_singleton hnot']
    simp
  rw [rawCookie, hentry, hsplit]
  simp

lemma trim_pair {name value : String} (hname : IsToken name) :
    trim (cookiePair name value) = cookiePair name value ∧
      trim (" " ++ cookiePair name value) = cookiePair name value := by
  have hchars : ∀ c ∈ (cookiePair name value).toList, ¬ isWhiteSpace c :=
    fun c hc => (mem_cookiePair hname hc).2
  have hplain := trim_of_forall hchars
  refine ⟨hplain, ?_⟩
  have hblank : trim (" " ++ cookiePair name value) = trim (cookiePair name value) := by
    have hspace : (" ".toList) = [' '] := rfl
    unfold trim
    rw [String.toList_append, hspace, List.singleton_append, List.dropWhile_cons_of_pos (by decide)]
  rw [hblank, hplain]

lemma reduceEntry_pair {name value : String} (hname : IsToken name) {entry : String}
    (hentry : trim entry = cookiePair name value) (cookies : CookieRecord) :
    reduceEntry cookies entry = some (cookies.assign name value) := by
  rw [reduceEntry, rawCookie_pair hname hentry]
  simp [hname.1, decode_encode]

/-- Texts joined with a semicolon and a blank are split at the semicolons. -/
lemma splitText_joined {text : String} {texts : List String}
    (h : ∀ t ∈ text :: texts, ';' ∉ t.toList) :
    splitText ';' ("; ".intercalate (text :: texts)) = text :: texts.map (" " ++ ·) := by
  induction texts generalizing text with
  | nil => simp [splitText, List.splitOn_eq_singleton (h text (by simp))]
  | cons next texts ih =>
    have hsep : ("; ".toList) = [';', ' '] := rfl
    have hblank : (" ".toList) = [' '] := rfl
    have hnext : ∀ t ∈ (" " ++ next) :: texts, ';' ∉ t.toList := by
      intro t ht
      rcases List.mem_cons.1 ht with rfl | ht
      · rw [String.toList_append, hblank]
        simpa using h next (by simp)
      · exact h t (by simp [ht])
    have hrest := ih hnext
    have htail : ' ' :: ("; ".intercalate (next :: texts)).toList =
        ("; ".intercalate ((" " ++ next) :: texts)).toList := by
      cases texts with
      | nil => simp
      | cons later texts =>
        rw [String.intercalate_cons_cons, String.intercalate_cons_cons]
        simp only [String.toList_append, hblank, List.cons_append, List.nil_append]
    rw [splitText] at hrest ⊢
    rw [String.intercalate_cons_cons, String.toList_append, String.toList_append, hsep,
      List.append_assoc,
      List.cons_append, List.cons_append, List.nil_append,
      List.splitOn_append_cons_self_of_not_mem (h text (by simp)), htail, List.map_cons, hrest]
    simp

lemma assign_apply (cookies : CookieRecord) (name value n : String) :
    cookies.assign name value n =
      if n = "__proto__" then cookies n else if n = name then some value else cookies n := by
  unfold CookieRecord.assign
  by_cases hname : name = "__proto__"
  · subst hname
    by_cases hn : n = "__proto__" <;> simp [hn]
  · by_cases hn : n = "__proto__"
    · subst hn
      simp [hname, Ne.symm hname]
    · simp [hname, hn]

lemma foldl_assign {pairs : List (String × String)} (hnames : (pairs.map Prod.fst).Nodup)
    (cookies : CookieRecord) (n : String) :
    pairs.foldl (fun cookies pair => cookies.assign pair.1 pair.2) cookies n =
      if n = "__proto__" then cookies n else (pairs.lookup n).or (cookies n) := by
  induction pairs generalizing cookies with
  | nil => simp
  | cons pair pairs ih =>
    obtain ⟨name, value⟩ := pair
    simp only [List.map_cons, List.nodup_cons] at hnames
    rw [List.foldl_cons, ih hnames.2, List.lookup_cons, assign_apply]
    by_cases hn : n = "__proto__"
    · rw [if_pos hn, if_pos hn, if_pos hn]
    · rw [if_neg hn, if_neg hn, if_neg hn]
      by_cases hname : n = name
      · subst hname
        have hlater : pairs.lookup n = none := by
          rw [List.lookup_eq_none_iff]
          intro p hp
          have hne : n ≠ p.1 := fun heq => hnames.1 (heq ▸ List.mem_map_of_mem hp)
          simpa using hne
        simp [hlater]
      · have hbeq : (n == name) = false := by simpa using hname
        rw [hbeq, if_neg hname]

/-- What a list of cookies says. -/
def cookieValues (cookies : List (String × String)) : CookieRecord :=
  fun name => cookies.lookup name

/-- The header a browser sends for cookies that were built. -/
def cookieHeader (cookies : List (String × String)) : String :=
  "; ".intercalate (cookies.map fun cookie => cookiePair cookie.1 cookie.2)

/-- The entries of a built header are its pairs, and the reduction assigns one after the other. -/
lemma parseCookies_built {cookies : List (String × String)}
    (hnames : ∀ cookie ∈ cookies, IsToken cookie.1) :
    parseCookies (some (cookieHeader cookies)) =
      some (cookies.foldl (fun record cookie => record.assign cookie.1 cookie.2) noCookies) := by
  have hreduce : ∀ (cookies : List (String × String)) (entry : String × String → String)
      (record : CookieRecord), (∀ cookie ∈ cookies, IsToken cookie.1) →
      (∀ cookie, IsToken cookie.1 → trim (entry cookie) = cookiePair cookie.1 cookie.2) →
      (cookies.map entry).foldlM reduceEntry record =
        some (cookies.foldl (fun record cookie => record.assign cookie.1 cookie.2) record) := by
    intro cookies entry record hnames hentry
    induction cookies generalizing record with
    | nil => rfl
    | cons cookie cookies ih =>
      have hcookie := hnames cookie (by simp)
      rw [List.map_cons, List.foldlM_cons, reduceEntry_pair hcookie (hentry cookie hcookie)]
      exact ih _ fun c hc => hnames c (by simp [hc])
  cases cookies with
  | nil => rfl
  | cons cookie cookies =>
    have hcookie := hnames cookie (by simp)
    have hpairs : ∀ t ∈ cookiePair cookie.1 cookie.2 ::
        cookies.map (fun cookie => cookiePair cookie.1 cookie.2), ';' ∉ t.toList := by
      intro t ht hc
      rcases List.mem_cons.1 ht with rfl | ht
      · exact (mem_cookiePair hcookie hc).1 rfl
      · obtain ⟨c, hcmem, rfl⟩ := List.mem_map.1 ht
        exact (mem_cookiePair (hnames c (by simp [hcmem])) hc).1 rfl
    have hsplit := splitText_joined hpairs
    have hne : cookieHeader (cookie :: cookies) ≠ "" := by
      intro hempty
      have hone : splitText ';' (cookieHeader (cookie :: cookies)) = [""] := by rw [hempty]; rfl
      rw [cookieHeader, List.map_cons, hsplit, List.cons.injEq] at hone
      have hlist := congrArg String.toList hone.1
      rw [cookiePair, String.toList_append, String.toList_append] at hlist
      simp at hlist
    unfold parseCookies
    rw [Option.getD_some]
    simp only [if_neg hne]
    rw [cookieHeader, List.map_cons, hsplit, List.foldlM_cons,
      reduceEntry_pair hcookie (trim_pair hcookie).1, List.map_map]
    exact hreduce cookies _ _ (fun c hc => hnames c (by simp [hc])) fun c hc => (trim_pair hc).2

/-- **A cookie is sent back as its pair**, which stands before the first semicolon of its text. -/
theorem buildCookie_pair {name value : String} (hname : IsToken name)
    (maxAgeSeconds : Option Int) (secure : Bool) :
    (splitText ';' (buildCookie name value maxAgeSeconds secure)).head? =
      some (cookiePair name value) := by
  have hfixed : ∀ t ∈ ["Path=/", "SameSite=Lax", "HttpOnly"] ++
      (if secure then ["Secure"] else []), ';' ∉ t.toList := by
    cases secure <;> decide
  have hage : ∀ seconds : Int, ';' ∉ ("Max-Age=" ++ toString seconds).toList := by
    intro seconds h
    rw [String.toList_append, List.mem_append] at h
    rcases h with h | h
    · revert h
      decide
    · rcases mem_toString_int h with h | h <;> revert h <;> decide
  have hparts : ∀ t ∈ cookiePair name value :: ((["Path=/", "SameSite=Lax", "HttpOnly"] ++
      (if secure then ["Secure"] else [])) ++
        (maxAgeSeconds.map fun seconds => "Max-Age=" ++ toString (max 0 seconds)).toList),
      ';' ∉ t.toList := by
    intro t ht
    rcases List.mem_cons.1 ht with rfl | ht
    · exact fun h => (mem_cookiePair hname h).1 rfl
    rcases List.mem_append.1 ht with ht | ht
    · exact hfixed t ht
    · obtain ⟨seconds, -, rfl⟩ := Option.mem_map.1 (Option.mem_toList.1 ht)
      exact hage _
  exact congrArg List.head? (splitText_joined hparts)

/-- **The session of a request** is the one that its cookies name. -/
theorem extractSessionToken_sent {cookies : List (String × String)}
    (hnames : ∀ cookie ∈ cookies, IsToken cookie.1) (hdistinct : (cookies.map Prod.fst).Nodup) :
    extractSessionToken none (some (cookieHeader cookies)) =
      some (cookies.lookup SESSION_COOKIE_NAME) := by
  have hname : SESSION_COOKIE_NAME ≠ "__proto__" := by decide
  unfold extractSessionToken
  rw [Option.bind_none]
  dsimp only
  rw [parseCookies_built hnames, Option.map_some, foldl_assign hdistinct, if_neg hname, noCookies,
    Option.or_none]

/-- **Where cookies are parsed as they were built, and where one entry spoils the others.** Built
cookies with distinct names come back exactly when none of them is called `__proto__`, which the
record does not take. A header is parsed to the cookies that decode exactly when all of its
entries do; with one malformed escape the parser throws. -/
theorem parseCookies_iff (cookies : List (String × String)) (header : Option String) :
    ((∀ cookie ∈ cookies, IsToken cookie.1) → (cookies.map Prod.fst).Nodup →
      (parseCookies (some (cookieHeader cookies)) = some (cookieValues cookies) ↔
        "__proto__" ∉ cookies.map Prod.fst)) ∧
    (parseCookies header = some (decodedCookies (header.getD "")) ↔
      ∀ entry ∈ cookieEntries (header.getD ""), EntryDecodes entry) := by
  refine ⟨fun hnames hdistinct => ?_, parseCookies_eq_iff header⟩
  rw [parseCookies_built hnames, Option.some.injEq]
  constructor
  · intro heq hproto
    have hat := congrFun heq "__proto__"
    rw [foldl_assign hdistinct, if_pos rfl] at hat
    obtain ⟨cookie, hcookie, hname⟩ := List.mem_map.1 hproto
    have hlookup : cookieValues cookies "__proto__" ≠ none := by
      unfold cookieValues
      rw [Ne, List.lookup_eq_none_iff]
      intro hall
      have hno := hall cookie hcookie
      rw [hname] at hno
      simp at hno
    exact hlookup hat.symm
  · intro hproto
    funext n
    rw [foldl_assign hdistinct]
    by_cases hn : n = "__proto__"
    · subst hn
      have hlookup : cookies.lookup "__proto__" = none := by
        rw [List.lookup_eq_none_iff]
        intro cookie hcookie
        have hne : "__proto__" ≠ cookie.1 := fun heq => hproto (heq ▸ List.mem_map_of_mem hcookie)
        simpa using hne
      rw [if_pos rfl, cookieValues, hlookup]
      rfl
    · rw [if_neg hn, cookieValues]
      simp [noCookies]

/-- A header with a session and a cookie of another page whose percent sign is no escape: the
parser throws, and the session is lost with the rest. -/
theorem parseCookies_malformed :
    parseCookies (some "discount=50%; shopcity_session=token") = none ∧
      ¬ ∀ header : Option String, parseCookies header = some (decodedCookies (header.getD "")) := by
  have hthrows : parseCookies (some "discount=50%; shopcity_session=token") = none := by
    decide +kernel
  refine ⟨hthrows, fun hall => ?_⟩
  rw [hall] at hthrows
  cases hthrows

theorem parseCookies_iff_session :
    parseCookies (some (cookieHeader [("shopcity_session", "a=b; c"), ("shopcity_csrf", "")])) =
      some (cookieValues [("shopcity_session", "a=b; c"), ("shopcity_csrf", "")]) :=
  ((parseCookies_iff _ none).1 (by
    simp only [List.forall_mem_cons]
    exact ⟨by decide +kernel, by decide +kernel, by simp⟩) (by decide +kernel)).2
      (by decide +kernel)

end ShopcityLoyalty
