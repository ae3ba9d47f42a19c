import ShopcityLoyalty.Idempotency
import ShopcityLoyalty.Lib.CalendarTexts
import ShopcityLoyalty.Lib.JsNumbers
import ShopcityLoyalty.Texts

/-!
Amounts of money as they are typed: the draft a kobo amount is shown as, and the parser of
what is typed or pasted.

A comma and a dot may group digits or separate decimals; the parser decides by how many of each
a text has and where the last ones stand. The grammar it amounts to is stated on its own, and
the parser accepts its texts and no others.
-/

namespace ShopcityLoyalty

/-- The shape of `Intl.NumberFormat(locale).format` on whole numbers. -/
abbrev NumberFormat := Nat → String

structure SplitKobo where
  sign : String
  whole : Nat
  fraction : Nat

def splitKobo (amountKobo : Int) : SplitKobo :=
  let absolute := amountKobo.natAbs
  { sign := if amountKobo < 0 then "-" else "", whole := absolute / 100,
    fraction := absolute % 100 }

def formatMoneyInputDraft (format : NumberFormat) (amountKobo : Int) : String :=
  let parts := splitKobo amountKobo
  parts.sign ++ format parts.whole ++ "." ++ Calendar.padded 2 parts.fraction

/-! ### The parser -/

/-- `/^\d+$/`. -/
def isDigits (text : List Char) : Bool := !text.isEmpty && text.all Char.isDigit

/-- `/^\d{1,3}(,\d{3})+$/`, or the same with dots. -/
def isGrouped (separator : Char) (text : List Char) : Bool :=
  match text.splitOn separator with
  | first :: rest =>
      isDigits first && first.length ≤ 3 && !rest.isEmpty &&
        rest.all fun group => group.length = 3 && group.all Char.isDigit
  | [] => false

/-- `/^\d+,\d{1,2}$/`, or the same with a dot. -/
def isDecimal (separator : Char) (text : List Char) : Bool :=
  match text.splitOn separator with
  | [integerPart, decimalPart] =>
      isDigits integerPart && isDigits decimalPart && decimalPart.length ≤ 2
  | _ => false

def parseIntegerPart (value : List Char) (separator : Char) : Option (List Char) :=
  if value = [] then none
  else if value.contains separator then
    if isGrouped separator value then some (value.splitOn separator).flatten else none
  else if isDigits value then some value else none

def lastIndexOf (c : Char) (text : List Char) : Int :=
  if c ∈ text then text.length - 1 - text.reverse.idxOf c else -1

/-- The two parts of a text that is split at one separator. -/
def splitAtSeparator (separator : Char) (text : List Char) : Option (List Char × List Char) :=
  match text.splitOn separator with
  | [integerPart, decimalPart] => some (integerPart, decimalPart)
  | _ => none

/-- The digits of the whole naira and the decimals of a body. -/
def wholeAndFraction (body : List Char) : Option (List Char × List Char) :=
  let commaCount := body.count ','
  let dotCount := body.count '.'
  if 0 < commaCount ∧ 0 < dotCount then
    let decimalSeparator := if lastIndexOf '.' body < lastIndexOf ',' body then ',' else '.'
    let thousandSeparator := if decimalSeparator = ',' then '.' else ','
    (splitAtSeparator decimalSeparator body).bind fun (integerPart, decimalPart) =>
      if decimalPart = [] ∨ 2 < decimalPart.length ∨ ¬ isDigits decimalPart then none
      else
        (parseIntegerPart integerPart thousandSeparator).bind fun normalizedInteger =>
          if normalizedInteger = [] then none else some (normalizedInteger, decimalPart)
  else if 0 < commaCount then
    if isGrouped ',' body then some ((body.splitOn ',').flatten, ['0', '0'])
    else if isDecimal ',' body then splitAtSeparator ',' body
    else none
  else if 0 < dotCount then
    if ¬ isDecimal '.' body then none else splitAtSeparator '.' body
  else some (body, ['0', '0'])

/-- A text without its sign, and whether it is negative. -/
def splitSign : List Char → Bool × List Char
  | '+' :: body => (false, body)
  | '-' :: body => (true, body)
  | text => (false, text)

def isMoneyChar (c : Char) : Bool := c.isDigit || c = '.' || c = ','

/-- `fraction.padEnd(2, '0')`. -/
def padFraction (fraction : List Char) : List Char :=
  fraction ++ List.replicate (2 - fraction.length) '0'

/-- The input without white space and naira signs. -/
def cleaned (input : String) : List Char :=
  (trim input).toList.filter fun c => !(c = '₦' || isWhiteSpace c)

/-- `Number` of the digits with the sign before them, when it is a safe integer. A number beyond
the safe integers is rounded, and stays beyond them. -/
def toKobo (negative : Bool) (whole fraction : List Char) : Option Int :=
  if ¬ isDigits whole ∨ ¬ isDigits fraction ∨ 2 < fraction.length then none
  else
    let digits : Int := Nat.ofDigitChars 10 (whole ++ padFraction fraction) 0
    let parsed := if negative then -digits else digits
    if isSafeInteger parsed then some parsed else none

/-- A body the parser goes on with. -/
def isMoneyBody (body : List Char) : Bool :=
  !(body.isEmpty || body.any (fun c => c = '+' || c = '-') || !body.all isMoneyChar)

/-- The kobo of an input. -/
def parseNaira (input : String) : Option Int :=
  let text := cleaned input
  let (negative, body) := splitSign text
  if text = [] ∨ ¬ isMoneyBody body then none
  else (wholeAndFraction body).bind fun (whole, fraction) => toKobo negative whole fraction

example : parseNaira " ₦1.234,5 " = some 123450 := by decide +kernel

/-! ### The grammar -/

/-- One digit or more. -/
def Digits (text : List Char) : Prop := text ≠ [] ∧ Decimal.AllDigits text

/-- One or two decimals. -/
def Decimals (text : List Char) : Prop := Digits text ∧ text.length ≤ 2

/-- Two groups of digits or more: one to three digits, then three in each group. -/
def Groups : List (List Char) → Prop
  | first :: rest => Digits first ∧ first.length ≤ 3 ∧ rest ≠ [] ∧
      ∀ group ∈ rest, group.length = 3 ∧ Decimal.AllDigits group
  | [] => False

/-- A text without a sign that stands for an amount, with its digits and its decimals. -/
inductive Amount : List Char → List Char → List Char → Prop
  | plain {digits : List Char} (h : Digits digits) : Amount digits digits []
  | grouped {groups : List (List Char)} (h : Groups groups) :
      Amount ([','].intercalate groups) groups.flatten []
  | decimal {separator : Char} {digits decimals : List Char}
      (hsep : separator = ',' ∨ separator = '.')
      (h : Digits digits) (hdecimals : Decimals decimals) :
      Amount (digits ++ separator :: decimals) digits decimals
  | groupedDecimal {separator point : Char} {groups : List (List Char)} {decimals : List Char}
      (hsep : (separator = ',' ∧ point = '.') ∨ (separator = '.' ∧ point = ','))
      (h : Groups groups) (hdecimals : Decimals decimals) :
      Amount ([separator].intercalate groups ++ point :: decimals) groups.flatten decimals

/-- A text with an optional sign. -/
inductive SignedAmount : List Char → Bool → List Char → List Char → Prop
  | unsigned {text digits decimals} (h : Amount text digits decimals) :
      SignedAmount text false digits decimals
  | plus {text digits decimals} (h : Amount text digits decimals) :
      SignedAmount ('+' :: text) false digits decimals
  | minus {text digits decimals} (h : Amount text digits decimals) :
      SignedAmount ('-' :: text) true digits decimals

/-- The naira a text stands for. -/
def nairaValue (negative : Bool) (digits decimals : List Char) : ℚ :=
  (if negative then -1 else 1) *
    (Nat.ofDigitChars 10 digits 0 + Nat.ofDigitChars 10 decimals 0 / 10 ^ decimals.length)

/-! ### The texts of the grammar -/

lemma isDigits_iff {text : List Char} : isDigits text ↔ Digits text := by
  simp [isDigits, Digits, Decimal.AllDigits]

lemma Digits.not_mem {text : List Char} (h : Digits text) {c : Char} (hc : c = ',' ∨ c = '.') :
    c ∉ text := by
  intro hmem
  have hdigit := h.2 c hmem
  rcases hc with rfl | rfl <;> simp [Char.isDigit] at hdigit

lemma Groups.digits {groups : List (List Char)} (h : Groups groups) :
    ∀ group ∈ groups, Digits group := by
  cases groups with
  | nil => exact h.elim
  | cons first rest =>
    obtain ⟨hfirst, -, -, hrest⟩ := h
    intro group hgroup
    rcases List.mem_cons.1 hgroup with rfl | hgroup
    · exact hfirst
    · obtain ⟨hlength, hdigits⟩ := hrest group hgroup
      refine ⟨?_, hdigits⟩
      rintro rfl
      simp at hlength

lemma Groups.ne_nil {groups : List (List Char)} (h : Groups groups) : groups ≠ [] := by
  rintro rfl
  exact h

lemma Groups.flatten {groups : List (List Char)} (h : Groups groups) : Digits groups.flatten := by
  constructor
  · cases groups with
    | nil => exact h.elim
    | cons first rest =>
      have hfirst := h.1.1
      simp [hfirst]
  · intro c hc
    obtain ⟨group, hgroup, hmem⟩ := List.mem_flatten.1 hc
    exact (h.digits group hgroup).2 c hmem

lemma Groups.splitOn {groups : List (List Char)} (h : Groups groups) {separator : Char}
    (hsep : separator = ',' ∨ separator = '.') :
    ([separator].intercalate groups).splitOn separator = groups :=
  List.splitOn_intercalate separator (fun group hgroup => (h.digits group hgroup).not_mem hsep)
    h.ne_nil

/-- Digits stand in groups exactly when the pattern of groups matches. -/
lemma isGrouped_iff {separator : Char} (hsep : separator = ',' ∨ separator = '.')
    {text : List Char} :
    isGrouped separator text ↔ ∃ groups, Groups groups ∧ text = [separator].intercalate groups := by
  constructor
  · intro h
    refine ⟨text.splitOn separator, ?_, (List.intercalate_splitOn separator).symm⟩
    unfold isGrouped at h
    cases hsplit : text.splitOn separator with
    | nil => simp [hsplit] at h
    | cons first rest =>
      rw [hsplit] at h
      simp only [Bool.and_eq_true, decide_eq_true_eq, Bool.not_eq_true', List.isEmpty_eq_false_iff,
        List.all_eq_true, isDigits_iff] at h
      obtain ⟨⟨⟨hfirst, hlength⟩, hne⟩, hrest⟩ := h
      exact ⟨hfirst, hlength, hne, hrest⟩
  · rintro ⟨groups, hgroups, rfl⟩
    unfold isGrouped
    rw [hgroups.splitOn hsep]
    cases groups with
    | nil => exact hgroups.elim
    | cons first rest =>
      obtain ⟨hfirst, hlength, hne, hrest⟩ := hgroups
      simp only [Bool.and_eq_true, decide_eq_true_eq, Bool.not_eq_true', List.isEmpty_eq_false_iff,
        List.all_eq_true, isDigits_iff]
      exact ⟨⟨⟨hfirst, hlength⟩, hne⟩, hrest⟩

lemma splitAtSeparator_iff {separator : Char} {text whole fraction : List Char} :
    splitAtSeparator separator text = some (whole, fraction) ↔
      text = whole ++ separator :: fraction ∧ separator ∉ whole ∧ separator ∉ fraction := by
  constructor
  · intro h
    unfold splitAtSeparator at h
    have hjoin : [separator].intercalate (text.splitOn separator) = text :=
      List.intercalate_splitOn separator
    have hnot : ∀ part ∈ text.splitOn separator, separator ∉ part :=
      fun part hpart => not_mem_of_mem_splitOn hpart
    split at h
    · next hsplit =>
      rw [hsplit] at hjoin hnot
      obtain ⟨rfl, rfl⟩ := Prod.mk.inj (Option.some.inj h)
      refine ⟨?_, hnot _ (by simp), hnot _ (by simp)⟩
      rw [← hjoin]
      simp
    · cases h
  · rintro ⟨rfl, hwhole, hfraction⟩
    unfold splitAtSeparator
    rw [List.splitOn_append_cons_self_of_not_mem hwhole, List.splitOn_eq_singleton hfraction]

lemma isDecimal_iff {separator : Char} (hsep : separator = ',' ∨ separator = '.')
    {text : List Char} :
    isDecimal separator text ↔
      ∃ digits decimals, Digits digits ∧ Decimals decimals ∧
        text = digits ++ separator :: decimals := by
  have hsplit : isDecimal separator text ↔ ∃ digits decimals, Digits digits ∧ Decimals decimals ∧
      splitAtSeparator separator text = some (digits, decimals) := by
    unfold isDecimal splitAtSeparator
    split
    · next digits decimals hparts =>
      simp only [Bool.and_eq_true, decide_eq_true_eq, isDigits_iff, Decimals, Option.some.injEq,
        Prod.mk.injEq]
      constructor
      · rintro ⟨⟨hdigits, hdecimals⟩, hlength⟩
        exact ⟨digits, decimals, hdigits, ⟨hdecimals, hlength⟩, rfl, rfl⟩
      · rintro ⟨_, _, hdigits, ⟨hdecimals, hlength⟩, rfl, rfl⟩
        exact ⟨⟨hdigits, hdecimals⟩, hlength⟩
    · simp
  rw [hsplit]
  refine exists_congr fun digits => exists_congr fun decimals => ?_
  rw [splitAtSeparator_iff]
  constructor
  · rintro ⟨hdigits, hdecimals, htext, -, -⟩
    exact ⟨hdigits, hdecimals, htext⟩
  · rintro ⟨hdigits, hdecimals, htext⟩
    exact ⟨hdigits, hdecimals, htext, hdigits.not_mem hsep, hdecimals.1.not_mem hsep⟩

/-! ### Which separators a text of the grammar has -/

lemma Groups.mem_separator {groups : List (List Char)} (h : Groups groups) (separator : Char) :
    separator ∈ [separator].intercalate groups := by
  cases groups with
  | nil => exact h.elim
  | cons first rest =>
    cases rest with
    | nil => exact absurd rfl h.2.2.1
    | cons second rest =>
      rw [List.intercalate_cons_cons]
      simp

lemma Groups.not_mem {groups : List (List Char)} (h : Groups groups) {separator c : Char}
    (hc : c = ',' ∨ c = '.') (hne : c ≠ separator) : c ∉ [separator].intercalate groups := by
  have hdigits := h.digits
  clear h
  induction groups with
  | nil => simp
  | cons first rest ih =>
    cases rest with
    | nil => simpa using (hdigits first (by simp)).not_mem hc
    | cons second rest =>
      have hfirst := (hdigits first (by simp)).not_mem hc
      have hrest := ih fun g hg => hdigits g (by simp [hg])
      rw [List.intercalate_cons_cons]
      simp only [List.mem_append, List.mem_singleton, not_or]
      exact ⟨⟨hfirst, hne⟩, hrest⟩

lemma lastIndexOf_lt {a b : Char} (hab : a ≠ b) {front back : List Char} (ha : a ∉ back)
    (hb : b ∉ back) :
    lastIndexOf a (front ++ b :: back) < lastIndexOf b (front ++ b :: back) := by
  have hrev : (front ++ b :: back).reverse = back.reverse ++ b :: front.reverse := by simp
  have hb' : lastIndexOf b (front ++ b :: back) = front.length := by
    unfold lastIndexOf
    have hidx : (back.reverse ++ b :: front.reverse).idxOf b = back.length := by
      rw [List.idxOf_append_of_notMem (by simpa using hb)]
      simp
    rw [if_pos (by simp), hrev, hidx]
    simp only [List.length_append, List.length_cons]
    omega
  rw [hb']
  unfold lastIndexOf
  split_ifs with hmem
  · have hidx : (back.reverse ++ b :: front.reverse).idxOf a =
        back.length + (1 + front.reverse.idxOf a) := by
      rw [List.idxOf_append_of_notMem (by simpa using ha), List.idxOf_cons_ne _ (Ne.symm hab)]
      simp
      omega
    rw [hrev, hidx]
    simp only [List.length_append, List.length_cons]
    omega
  · omega

/-! ### The parser accepts the grammar -/

/-- The two digits after the point. -/
def centDigits (decimals : List Char) : List Char := if decimals = [] then ['0', '0'] else decimals

lemma parseIntegerPart_iff {separator : Char} (hsep : separator = ',' ∨ separator = '.')
    {text digits : List Char} (hmem : separator ∈ text) :
    parseIntegerPart text separator = some digits ↔
      ∃ groups, Groups groups ∧ text = [separator].intercalate groups ∧
        digits = groups.flatten := by
  have hne : text ≠ [] := List.ne_nil_of_mem hmem
  have hcontains : text.contains separator := by simpa using hmem
  unfold parseIntegerPart
  rw [if_neg hne, if_pos hcontains]
  by_cases hgrouped : isGrouped separator text
  · rw [if_pos hgrouped]
    obtain ⟨groups, hgroups, rfl⟩ := (isGrouped_iff hsep).1 hgrouped
    rw [hgroups.splitOn hsep, Option.some.injEq]
    constructor
    · rintro rfl
      exact ⟨groups, hgroups, rfl, rfl⟩
    · rintro ⟨groups', hgroups', heq, rfl⟩
      have hsame : groups = groups' := by
        rw [← hgroups.splitOn hsep, heq, hgroups'.splitOn hsep]
      rw [hsame]
  · rw [if_neg hgrouped]
    constructor
    · intro h
      cases h
    · rintro ⟨groups, hgroups, heq, -⟩
      exact absurd ((isGrouped_iff hsep).2 ⟨groups, hgroups, heq⟩) hgrouped

lemma Decimals.ne_nil {decimals : List Char} (h : Decimals decimals) : decimals ≠ [] := h.1.1

lemma centDigits_of {decimals : List Char} (h : Decimals decimals) :
    centDigits decimals = decimals :=
  if_neg h.ne_nil

lemma decimalSeparator_eq {separator point : Char} {groups : List (List Char)}
    {decimals : List Char}
    (hsep : (separator = ',' ∧ point = '.') ∨ (separator = '.' ∧ point = ','))
    (hdecimals : Decimals decimals) :
    (if lastIndexOf '.' ([separator].intercalate groups ++ point :: decimals) <
        lastIndexOf ',' ([separator].intercalate groups ++ point :: decimals) then ',' else '.') =
          point := by
  have hnot : ∀ c : Char, c = ',' ∨ c = '.' → c ∉ decimals := fun c hc => hdecimals.1.not_mem hc
  rcases hsep with ⟨rfl, rfl⟩ | ⟨rfl, rfl⟩
  · have hlt : lastIndexOf ',' ([','].intercalate groups ++ '.' :: decimals) <
        lastIndexOf '.' ([','].intercalate groups ++ '.' :: decimals) :=
      lastIndexOf_lt (by decide) (hnot _ (.inl rfl)) (hnot _ (.inr rfl))
    rw [if_neg (by omega)]
  · have hlt : lastIndexOf '.' (['.'].intercalate groups ++ ',' :: decimals) <
        lastIndexOf ',' (['.'].intercalate groups ++ ',' :: decimals) :=
      lastIndexOf_lt (by decide) (hnot _ (.inr rfl)) (hnot _ (.inl rfl))
    rw [if_pos hlt]

lemma amount_both_iff {body whole decimals : List Char} (hcomma : ',' ∈ body) (hdot : '.' ∈ body) :
    Amount body whole decimals ↔ ∃ separator point groups,
      ((separator = ',' ∧ point = '.') ∨ (separator = '.' ∧ point = ',')) ∧ Groups groups ∧
        Decimals decimals ∧ body = [separator].intercalate groups ++ point :: decimals ∧
        whole = groups.flatten := by
  constructor
  · intro h
    cases h with
    | plain h => exact absurd hcomma (h.not_mem (.inl rfl))
    | grouped h => exact absurd hdot (h.not_mem (.inr rfl) (by decide))
    | decimal hsep h hdecimals =>
      rcases hsep with rfl | rfl
      · rcases List.mem_append.1 hdot with hmem | hmem
        · exact absurd hmem (h.not_mem (.inr rfl))
        · exact absurd ((List.mem_cons.1 hmem).resolve_left (by decide))
            (hdecimals.1.not_mem (.inr rfl))
      · rcases List.mem_append.1 hcomma with hmem | hmem
        · exact absurd hmem (h.not_mem (.inl rfl))
        · exact absurd ((List.mem_cons.1 hmem).resolve_left (by decide))
            (hdecimals.1.not_mem (.inl rfl))
    | groupedDecimal hsep h hdecimals => exact ⟨_, _, _, hsep, h, hdecimals, rfl, rfl⟩
  · rintro ⟨separator, point, groups, hsep, hgroups, hdecimals, rfl, rfl⟩
    exact .groupedDecimal hsep hgroups hdecimals

lemma wholeAndFraction_both {body whole fraction : List Char} (hcomma : ',' ∈ body)
    (hdot : '.' ∈ body) :
    wholeAndFraction body = some (whole, fraction) ↔
      ∃ decimals, Amount body whole decimals ∧ fraction = centDigits decimals := by
  have hcounts : 0 < body.count ',' ∧ 0 < body.count '.' :=
    ⟨List.count_pos_iff.2 hcomma, List.count_pos_iff.2 hdot⟩
  have hunfold : wholeAndFraction body = _ := if_pos hcounts
  rw [hunfold]
  simp only [amount_both_iff hcomma hdot]
  constructor
  · intro h
    obtain ⟨⟨integerPart, decimalPart⟩, hsplit, h⟩ := Option.bind_eq_some_iff.1 h
    obtain ⟨hbody, -, -⟩ := splitAtSeparator_iff.1 hsplit
    by_cases hdecimals : decimalPart = [] ∨ 2 < decimalPart.length ∨ ¬ isDigits decimalPart
    · simp only [if_pos hdecimals] at h
      cases h
    · simp only [if_neg hdecimals] at h
      simp only [not_or, not_not, isDigits_iff] at hdecimals
      obtain ⟨hne, hlength, hdigits⟩ := hdecimals
      have hdec : Decimals decimalPart := ⟨hdigits, by omega⟩
      obtain ⟨normalizedInteger, hinteger, h⟩ := Option.bind_eq_some_iff.1 h
      by_cases hempty : normalizedInteger = []
      · rw [if_pos hempty] at h
        cases h
      rw [if_neg hempty, Option.some.injEq, Prod.mk.injEq] at h
      obtain ⟨rfl, rfl⟩ := h
      -- the later of the two characters is the decimal point, the other one separates thousands
      by_cases hlast : lastIndexOf '.' body < lastIndexOf ',' body
      · simp only [if_pos hlast, if_true] at hbody hinteger
        have hmem : '.' ∈ integerPart := by
          rw [hbody] at hdot
          rcases List.mem_append.1 hdot with hmem | hmem
          · exact hmem
          · exact absurd ((List.mem_cons.1 hmem).resolve_left (by decide))
              (hdigits.not_mem (.inr rfl))
        obtain ⟨groups, hgroups, rfl, rfl⟩ := (parseIntegerPart_iff (.inr rfl) hmem).1 hinteger
        exact ⟨decimalPart, ⟨'.', ',', groups, .inr ⟨rfl, rfl⟩, hgroups, hdec, hbody, rfl⟩,
          (centDigits_of hdec).symm⟩
      · have hpoint : ¬ ('.' : Char) = ',' := by decide
        simp only [if_neg hlast, if_neg hpoint] at hbody hinteger
        have hmem : ',' ∈ integerPart := by
          rw [hbody] at hcomma
          rcases List.mem_append.1 hcomma with hmem | hmem
          · exact hmem
          · exact absurd ((List.mem_cons.1 hmem).resolve_left (by decide))
              (hdigits.not_mem (.inl rfl))
        obtain ⟨groups, hgroups, rfl, rfl⟩ := (parseIntegerPart_iff (.inl rfl) hmem).1 hinteger
        exact ⟨decimalPart, ⟨',', '.', groups, .inl ⟨rfl, rfl⟩, hgroups, hdec, hbody, rfl⟩,
          (centDigits_of hdec).symm⟩
  · rintro ⟨decimals, ⟨separator, point, groups, hsep, hgroups, hdecimals, rfl, rfl⟩, rfl⟩
    have hpoint : point = ',' ∨ point = '.' := by
      rcases hsep with ⟨-, h⟩ | ⟨-, h⟩
      · exact .inr h
      · exact .inl h
    have hseparator : separator = ',' ∨ separator = '.' := by
      rcases hsep with ⟨h, -⟩ | ⟨h, -⟩
      · exact .inl h
      · exact .inr h
    have hne : point ≠ separator := by
      rcases hsep with ⟨rfl, rfl⟩ | ⟨rfl, rfl⟩ <;> decide
    have hthousand : (if point = ',' then '.' else ',') = separator := by
      rcases hsep with ⟨rfl, rfl⟩ | ⟨rfl, rfl⟩ <;> decide
    have hsplit : splitAtSeparator point ([separator].intercalate groups ++ point :: decimals) =
        some ([separator].intercalate groups, decimals) :=
      splitAtSeparator_iff.2 ⟨rfl, hgroups.not_mem hpoint hne, hdecimals.1.not_mem hpoint⟩
    have hinteger : parseIntegerPart ([separator].intercalate groups) separator =
        some groups.flatten :=
      (parseIntegerPart_iff hseparator (hgroups.mem_separator separator)).2
        ⟨groups, hgroups, rfl, rfl⟩
    have hchecks : ¬ (decimals = [] ∨ 2 < decimals.length ∨ ¬ isDigits decimals) := by
      have hlength := hdecimals.2
      simp only [not_or, not_not, isDigits_iff]
      exact ⟨hdecimals.ne_nil, by omega, hdecimals.1⟩
    simp only [decimalSeparator_eq hsep hdecimals, hthousand, hsplit, Option.bind_some,
      if_neg hchecks,
      hinteger, if_neg hgroups.flatten.1, centDigits_of hdecimals]

lemma Groups.not_decimal {groups : List (List Char)} (h : Groups groups) {separator : Char}
    (hsep : separator = ',' ∨ separator = '.') {digits decimals : List Char}
    (hdigits : Digits digits)
    (hdecimals : Decimals decimals) :
    [separator].intercalate groups ≠ digits ++ separator :: decimals := by
  intro heq
  have hgroups : groups = [digits, decimals] := by
    rw [← h.splitOn hsep, heq, List.splitOn_append_cons_self_of_not_mem (hdigits.not_mem hsep),
      List.splitOn_eq_singleton (hdecimals.1.not_mem hsep)]
  subst hgroups
  have hthree := (h.2.2.2 decimals (by simp)).1
  have htwo := hdecimals.2
  omega

lemma isDecimal_and_split_iff {separator : Char} (hsep : separator = ',' ∨ separator = '.')
    {body whole fraction : List Char} :
    (isDecimal separator body ∧ splitAtSeparator separator body = some (whole, fraction)) ↔
      Digits whole ∧ Decimals fraction ∧ body = whole ++ separator :: fraction := by
  rw [isDecimal_iff hsep, splitAtSeparator_iff]
  constructor
  · rintro ⟨⟨digits, decimals, hdigits, hdecimals, hbody⟩, hsplit⟩
    have hsame : splitAtSeparator separator body = some (digits, decimals) :=
      splitAtSeparator_iff.2 ⟨hbody, hdigits.not_mem hsep, hdecimals.1.not_mem hsep⟩
    rw [splitAtSeparator_iff.2 hsplit, Option.some.injEq, Prod.mk.injEq] at hsame
    obtain ⟨rfl, rfl⟩ := hsame
    exact ⟨hdigits, hdecimals, hbody⟩
  · rintro ⟨hdigits, hdecimals, hbody⟩
    exact ⟨⟨whole, fraction, hdigits, hdecimals, hbody⟩, hbody, hdigits.not_mem hsep,
      hdecimals.1.not_mem hsep⟩

lemma wholeAndFraction_comma {body whole fraction : List Char} (hcomma : ',' ∈ body)
    (hdot : '.' ∉ body) :
    wholeAndFraction body = some (whole, fraction) ↔
      ∃ decimals, Amount body whole decimals ∧ fraction = centDigits decimals := by
  have hdots : body.count '.' = 0 := List.count_eq_zero.2 hdot
  have hcommas : 0 < body.count ',' := List.count_pos_iff.2 hcomma
  have hunfold : wholeAndFraction body =
      if isGrouped ',' body then some ((body.splitOn ',').flatten, ['0', '0'])
      else if isDecimal ',' body then splitAtSeparator ',' body else none := by
    unfold wholeAndFraction
    simp [hdots, hcommas]
  rw [hunfold]
  by_cases hgrouped : isGrouped ',' body
  · obtain ⟨groups, hgroups, rfl⟩ := (isGrouped_iff (.inl rfl)).1 hgrouped
    rw [if_pos hgrouped, hgroups.splitOn (.inl rfl), Option.some.injEq, Prod.mk.injEq]
    constructor
    · rintro ⟨rfl, rfl⟩
      exact ⟨[], .grouped hgroups, rfl⟩
    · rintro ⟨decimals, hamount, rfl⟩
      generalize hbody : [','].intercalate groups = body at hamount hcomma hdot
      cases hamount with
      | plain h => exact absurd hcomma (h.not_mem (.inl rfl))
      | @grouped groups' h =>
        have hsame : groups = groups' := by
          rw [← hgroups.splitOn (.inl rfl), hbody, h.splitOn (.inl rfl)]
        exact ⟨by rw [hsame], rfl⟩
      | decimal hsep h hdecimals =>
        rcases hsep with rfl | rfl
        · exact absurd hbody (hgroups.not_decimal (.inl rfl) h hdecimals)
        · exact absurd (by simp) hdot
      | groupedDecimal hsep h hdecimals =>
        rcases hsep with ⟨rfl, rfl⟩ | ⟨rfl, rfl⟩
        · exact absurd (by simp) hdot
        · exact absurd (List.mem_append_left _ (h.mem_separator '.')) hdot
  · rw [if_neg hgrouped]
    have hdecimal :
        (isDecimal ',' body ∧ splitAtSeparator ',' body = some (whole, fraction)) ↔
          Digits whole ∧ Decimals fraction ∧ body = whole ++ ',' :: fraction :=
      isDecimal_and_split_iff (.inl rfl)
    constructor
    · intro h
      by_cases hcase : isDecimal ',' body
      · rw [if_pos hcase] at h
        obtain ⟨hdigits, hdecimals, rfl⟩ := hdecimal.1 ⟨hcase, h⟩
        exact ⟨fraction, .decimal (.inl rfl) hdigits hdecimals, (centDigits_of hdecimals).symm⟩
      · rw [if_neg hcase] at h
        cases h
    · rintro ⟨decimals, hamount, hfraction⟩
      cases hamount with
      | plain h => exact absurd hcomma (h.not_mem (.inl rfl))
      | grouped h => exact absurd ((isGrouped_iff (.inl rfl)).2 ⟨_, h, rfl⟩) hgrouped
      | decimal hsep h hdecimals =>
        rcases hsep with rfl | rfl
        · rw [centDigits_of hdecimals] at hfraction
          obtain ⟨hcase, hsplit⟩ := hdecimal.2 ⟨h, hfraction ▸ hdecimals, by rw [hfraction]⟩
          rw [if_pos hcase, hsplit]
        · exact absurd (by simp) hdot
      | groupedDecimal hsep h hdecimals =>
        rcases hsep with ⟨rfl, rfl⟩ | ⟨rfl, rfl⟩
        · exact absurd (by simp) hdot
        · exact absurd (List.mem_append_left _ (h.mem_separator '.')) hdot

lemma wholeAndFraction_dot {body whole fraction : List Char} (hcomma : ',' ∉ body)
    (hdot : '.' ∈ body) :
    wholeAndFraction body = some (whole, fraction) ↔
      ∃ decimals, Amount body whole decimals ∧ fraction = centDigits decimals := by
  have hdots : 0 < body.count '.' := List.count_pos_iff.2 hdot
  have hcommas : body.count ',' = 0 := List.count_eq_zero.2 hcomma
  have hunfold : wholeAndFraction body =
      if ¬ isDecimal '.' body then none else splitAtSeparator '.' body := by
    unfold wholeAndFraction
    simp [hdots, hcommas]
  rw [hunfold]
  have hdecimal : (isDecimal '.' body ∧ splitAtSeparator '.' body = some (whole, fraction)) ↔
      Digits whole ∧ Decimals fraction ∧ body = whole ++ '.' :: fraction :=
    isDecimal_and_split_iff (.inr rfl)
  constructor
  · intro h
    by_cases hcase : isDecimal '.' body
    · rw [if_neg (by simpa using hcase)] at h
      obtain ⟨hdigits, hdecimals, rfl⟩ := hdecimal.1 ⟨hcase, h⟩
      exact ⟨fraction, .decimal (.inr rfl) hdigits hdecimals, (centDigits_of hdecimals).symm⟩
    · rw [if_pos hcase] at h
      cases h
  · rintro ⟨decimals, hamount, hfraction⟩
    cases hamount with
    | plain h => exact absurd hdot (h.not_mem (.inr rfl))
    | grouped h => exact absurd (h.mem_separator ',') hcomma
    | decimal hsep h hdecimals =>
      rcases hsep with rfl | rfl
      · exact absurd (by simp) hcomma
      · rw [centDigits_of hdecimals] at hfraction
        obtain ⟨hcase, hsplit⟩ := hdecimal.2 ⟨h, hfraction ▸ hdecimals, by rw [hfraction]⟩
        rw [if_neg (by simpa using hcase), hsplit]
    | groupedDecimal hsep h hdecimals =>
      rcases hsep with ⟨rfl, rfl⟩ | ⟨rfl, rfl⟩
      · exact absurd (List.mem_append_left _ (h.mem_separator ',')) hcomma
      · exact absurd (by simp) hcomma

lemma wholeAndFraction_plain {body whole fraction : List Char} (hcomma : ',' ∉ body)
    (hdot : '.' ∉ body)
    (hbody : Digits body) : wholeAndFraction body = some (whole, fraction) ↔
      ∃ decimals, Amount body whole decimals ∧ fraction = centDigits decimals := by
  have hunfold : wholeAndFraction body = some (body, ['0', '0']) := by
    unfold wholeAndFraction
    simp [List.count_eq_zero.2 hcomma, List.count_eq_zero.2 hdot]
  rw [hunfold, Option.some.injEq, Prod.mk.injEq]
  constructor
  · rintro ⟨rfl, rfl⟩
    exact ⟨[], .plain hbody, rfl⟩
  · rintro ⟨decimals, hamount, rfl⟩
    cases hamount with
    | plain h => exact ⟨rfl, rfl⟩
    | grouped h => exact absurd (h.mem_separator ',') hcomma
    | decimal hsep h hdecimals =>
      rcases hsep with rfl | rfl
      · exact absurd (by simp) hcomma
      · exact absurd (by simp) hdot
    | groupedDecimal hsep h hdecimals =>
      rcases hsep with ⟨rfl, rfl⟩ | ⟨rfl, rfl⟩
      · exact absurd (by simp) hdot
      · exact absurd (by simp) hcomma

/-- **A body is split** into its digits and decimals exactly when it is an amount of the grammar. -/
theorem wholeAndFraction_iff {body whole fraction : List Char} (hne : body ≠ [])
    (hchars : ∀ c ∈ body, isMoneyChar c) : wholeAndFraction body = some (whole, fraction) ↔
      ∃ decimals, Amount body whole decimals ∧ fraction = centDigits decimals := by
  by_cases hcomma : ',' ∈ body
  · by_cases hdot : '.' ∈ body
    · exact wholeAndFraction_both hcomma hdot
    · exact wholeAndFraction_comma hcomma hdot
  · by_cases hdot : '.' ∈ body
    · exact wholeAndFraction_dot hcomma hdot
    · refine wholeAndFraction_plain hcomma hdot ⟨hne, fun c hc => ?_⟩
      have hchar := hchars c hc
      simp only [isMoneyChar, Bool.or_eq_true, decide_eq_true_eq] at hchar
      rcases hchar with (hdigit | rfl) | rfl
      · exact hdigit
      · exact absurd hc hdot
      · exact absurd hc hcomma

/-! ### Amounts with their signs -/

lemma Digits.moneyChar {text : List Char} (h : Digits text) : ∀ c ∈ text, isMoneyChar c := by
  intro c hc
  simp [isMoneyChar, h.2 c hc]

lemma Groups.moneyChar {groups : List (List Char)} (h : Groups groups) {separator : Char}
    (hsep : separator = ',' ∨ separator = '.') :
    ∀ c ∈ [separator].intercalate groups, isMoneyChar c := by
  have hdigits := h.digits
  clear h
  have hseparator : isMoneyChar separator := by rcases hsep with rfl | rfl <;> decide
  induction groups with
  | nil => simp
  | cons first rest ih =>
    cases rest with
    | nil => simpa using (hdigits first (by simp)).moneyChar
    | cons second rest =>
      intro c hc
      rw [List.intercalate_cons_cons] at hc
      simp only [List.mem_append, List.mem_singleton] at hc
      rcases hc with (hc | rfl) | hc
      · exact (hdigits first (by simp)).moneyChar c hc
      · exact hseparator
      · exact ih (fun g hg => hdigits g (by simp [hg])) c hc

lemma Amount.chars {text digits decimals : List Char} (h : Amount text digits decimals) :
    text ≠ [] ∧ (∀ c ∈ text, isMoneyChar c) ∧ Digits digits ∧
      (decimals = [] ∨ Decimals decimals) := by
  have hafter : ∀ {front : List Char} {point : Char} {decimals : List Char},
      point = ',' ∨ point = '.' →
      (∀ c ∈ front, isMoneyChar c) → Decimals decimals →
        ∀ c ∈ front ++ point :: decimals, isMoneyChar c := by
    intro front point decimals hpoint hfront hdecimals c hc
    rcases List.mem_append.1 hc with hc | hc
    · exact hfront c hc
    · rcases List.mem_cons.1 hc with rfl | hc
      · rcases hpoint with rfl | rfl <;> decide
      · exact hdecimals.1.moneyChar c hc
  cases h with
  | plain h => exact ⟨h.1, h.moneyChar, h, .inl rfl⟩
  | grouped h =>
    exact ⟨List.ne_nil_of_mem (h.mem_separator ','), h.moneyChar (.inl rfl), h.flatten, .inl rfl⟩
  | decimal hsep h hdecimals =>
    exact ⟨by simp, hafter hsep h.moneyChar hdecimals, h, .inr hdecimals⟩
  | groupedDecimal hsep h hdecimals =>
    rcases hsep with ⟨rfl, rfl⟩ | ⟨rfl, rfl⟩
    · exact ⟨by simp, hafter (.inr rfl) (h.moneyChar (.inl rfl)) hdecimals, h.flatten,
        .inr hdecimals⟩
    · exact ⟨by simp, hafter (.inl rfl) (h.moneyChar (.inr rfl)) hdecimals, h.flatten,
        .inr hdecimals⟩

lemma isMoneyChar_ne {c : Char} (h : isMoneyChar c) :
    c ≠ '+' ∧ c ≠ '-' ∧ c ≠ '₦' ∧ ¬ isWhiteSpace c := by
  have hcases : c.isDigit ∨ c = '.' ∨ c = ',' := by simpa [isMoneyChar, or_assoc] using h
  rcases hcases with hdigit | rfl | rfl
  · have hrange : 48 ≤ c.toNat ∧ c.toNat ≤ 57 := by
      simp only [Char.isDigit, Bool.and_eq_true, decide_eq_true_eq, ge_iff_le,
        UInt32.le_iff_toNat_le] at hdigit
      have hval : c.val.toNat = c.toNat := rfl
      simp only [hval] at hdigit
      simpa using hdigit
    refine ⟨?_, ?_, ?_, ?_⟩
    · rintro rfl
      simp [Char.isDigit] at hdigit
    · rintro rfl
      simp [Char.isDigit] at hdigit
    · rintro rfl
      simp [Char.isDigit] at hdigit
    · simp only [isWhiteSpace, Bool.or_eq_true, Bool.and_eq_true, decide_eq_true_eq]
      omega
  · decide
  · decide

/-- The sign of a text and the amount after it. -/
lemma signedAmount_iff {text digits decimals : List Char} {negative : Bool} :
    SignedAmount text negative digits decimals ↔
      Amount (splitSign text).2 digits decimals ∧ negative = (splitSign text).1 := by
  constructor
  · intro h
    cases h with
    | unsigned h =>
      have hsign : splitSign text = (false, text) := by
        obtain ⟨hne, hchars, -⟩ := h.chars
        obtain ⟨c, rest, rfl⟩ := List.exists_cons_of_ne_nil hne
        obtain ⟨hplus, hminus, -⟩ := isMoneyChar_ne (hchars c (by simp))
        unfold splitSign
        split
        · next heq => exact absurd (List.cons.inj heq).1 hplus
        · next heq => exact absurd (List.cons.inj heq).1 hminus
        · rfl
      rw [hsign]
      exact ⟨h, rfl⟩
    | plus h => exact ⟨h, rfl⟩
    | minus h => exact ⟨h, rfl⟩
  · rintro ⟨h, rfl⟩
    unfold splitSign at h ⊢
    split at h
    · exact .plus h
    · exact .minus h
    · exact .unsigned h

lemma padFraction_value {decimals : List Char} (h : decimals = [] ∨ Decimals decimals) :
    (Nat.ofDigitChars 10 (padFraction (centDigits decimals)) 0 : ℚ) =
        Nat.ofDigitChars 10 decimals 0 / 10 ^ decimals.length * 100 ∧
      (padFraction (centDigits decimals)).length = 2 := by
  rcases h with rfl | h
  · exact ⟨by norm_num [centDigits, padFraction, Nat.ofDigitChars_cons], rfl⟩
  · rw [centDigits_of h]
    obtain ⟨⟨hne, -⟩, hlength⟩ := h
    obtain ⟨c, rest, rfl⟩ := List.exists_cons_of_ne_nil hne
    cases rest with
    | nil =>
      refine ⟨?_, rfl⟩
      simp only [padFraction, List.length_singleton, Nat.ofDigitChars_append]
      norm_num [Nat.ofDigitChars_cons]
      ring
    | cons d rest =>
      cases rest with
      | nil => exact ⟨by norm_num [padFraction], rfl⟩
      | cons e rest => simp at hlength

lemma kobo_value (digits : List Char) {decimals : List Char}
    (h : decimals = [] ∨ Decimals decimals) :
    (Nat.ofDigitChars 10 (digits ++ padFraction (centDigits decimals)) 0 : ℚ) =
      (Nat.ofDigitChars 10 digits 0 + Nat.ofDigitChars 10 decimals 0 / 10 ^ decimals.length) *
        100 := by
  obtain ⟨hvalue, hlength⟩ := padFraction_value h
  rw [Nat.ofDigitChars_append, Nat.ofDigitChars_eq_ofDigitChars_zero, hlength, Nat.cast_add, hvalue]
  push_cast
  ring

lemma centDigits_checks {decimals : List Char} (h : decimals = [] ∨ Decimals decimals) :
    Digits (centDigits decimals) ∧ (centDigits decimals).length ≤ 2 := by
  rcases h with rfl | h
  · exact ⟨isDigits_iff.1 rfl, by decide⟩
  · rw [centDigits_of h]
    exact h

lemma some_safe_iff {parsed kobo : Int} :
    (if isSafeInteger parsed then some parsed else none) = some kobo ↔
      kobo = parsed ∧ isSafeInteger kobo := by
  by_cases hsafe : isSafeInteger parsed
  · rw [if_pos hsafe, Option.some.injEq]
    constructor
    · rintro rfl
      exact ⟨rfl, hsafe⟩
    · rintro ⟨rfl, -⟩
      rfl
  · rw [if_neg hsafe]
    constructor
    · intro h
      cases h
    · rintro ⟨rfl, h⟩
      exact absurd h hsafe

lemma toKobo_iff {negative : Bool} {digits decimals : List Char} (hdigits : Digits digits)
    (hdecimals : decimals = [] ∨ Decimals decimals) {kobo : Int} :
    toKobo negative digits (centDigits decimals) = some kobo ↔
      (kobo : ℚ) = nairaValue negative digits decimals * 100 ∧ isSafeInteger kobo := by
  obtain ⟨hcents, hlength⟩ := centDigits_checks hdecimals
  have hchecked : ¬ (¬ isDigits digits ∨ ¬ isDigits (centDigits decimals) ∨
      2 < (centDigits decimals).length) := by
    simp only [isDigits_iff, not_or, not_not]
    exact ⟨hdigits, hcents, by omega⟩
  have hvalue := kobo_value digits hdecimals
  unfold toKobo
  rw [if_neg hchecked]
  generalize hn : Nat.ofDigitChars 10 (digits ++ padFraction (centDigits decimals)) 0 =
    n at hvalue ⊢
  have hkobo : nairaValue negative digits decimals * 100 =
      ((if negative then -(n : Int) else (n : Int) : Int) : ℚ) := by
    unfold nairaValue
    cases negative
    · simp only [Bool.false_eq_true, if_false, one_mul, Int.cast_natCast, hvalue]
    · simp only [if_true, Int.cast_neg, Int.cast_natCast, hvalue]
      ring
  change (if isSafeInteger (if negative then -(n : Int) else n) then
    some (if negative then -(n : Int) else n) else none) = some kobo ↔ _
  rw [hkobo, Int.cast_inj, some_safe_iff]

lemma Amount.isMoneyBody {body digits decimals : List Char} (h : Amount body digits decimals) :
    isMoneyBody body := by
  obtain ⟨hne, hchars, -⟩ := h.chars
  have hsigns : body.any (fun c => c = '+' || c = '-') = false := by
    rw [List.any_eq_false]
    intro c hc
    obtain ⟨hplus, hminus, -⟩ := isMoneyChar_ne (hchars c hc)
    simp [hplus, hminus]
  have hall : body.all isMoneyChar := List.all_eq_true.2 hchars
  simp [ShopcityLoyalty.isMoneyBody, hne, hsigns, hall]

lemma body_iff {negative : Bool} {body : List Char} (hbody : isMoneyBody body) {kobo : Int} :
    ((wholeAndFraction body).bind fun parts => toKobo negative parts.1 parts.2) = some kobo ↔
      ∃ digits decimals, Amount body digits decimals ∧
        (kobo : ℚ) = nairaValue negative digits decimals * 100 ∧ isSafeInteger kobo := by
  simp only [isMoneyBody, Bool.not_eq_true', Bool.or_eq_false_iff, Bool.not_eq_false',
    List.isEmpty_eq_false_iff, List.all_eq_true] at hbody
  obtain ⟨⟨hne, -⟩, hchars⟩ := hbody
  rw [Option.bind_eq_some_iff]
  constructor
  · rintro ⟨⟨whole, fraction⟩, hparts, hkobo⟩
    obtain ⟨decimals, hamount, rfl⟩ := (wholeAndFraction_iff hne hchars).1 hparts
    obtain ⟨-, -, hdigits, hdecimals⟩ := hamount.chars
    exact ⟨whole, decimals, hamount, (toKobo_iff hdigits hdecimals).1 hkobo⟩
  · rintro ⟨digits, decimals, hamount, hkobo⟩
    obtain ⟨-, -, hdigits, hdecimals⟩ := hamount.chars
    exact ⟨(digits, centDigits decimals), (wholeAndFraction_iff hne hchars).2
      ⟨decimals, hamount, rfl⟩,
      (toKobo_iff hdigits hdecimals).2 hkobo⟩

/-- **The parser reads the grammar**: it answers with an amount exactly for the texts of the grammar
whose kobo are a safe integer, and the amount is the naira times a hundred. -/
theorem parseNaira_eq_some_iff (input : String) (kobo : Int) :
    parseNaira input = some kobo ↔ ∃ negative digits decimals,
      SignedAmount (cleaned input) negative digits decimals ∧
        (kobo : ℚ) = nairaValue negative digits decimals * 100 ∧ isSafeInteger kobo := by
  simp only [signedAmount_iff]
  unfold parseNaira
  cases hsign : splitSign (cleaned input) with
  | mk sign body =>
    simp only [hsign]
    have hempty : cleaned input = [] → ¬ isMoneyBody body := by
      intro hnil
      rw [hnil] at hsign
      rw [← (Prod.mk.inj hsign).2]
      decide
    by_cases hbody : isMoneyBody body
    · have hguard : ¬ (cleaned input = [] ∨ ¬ isMoneyBody body) := by
        rintro (hnil | hno)
        · exact hempty hnil hbody
        · exact hno hbody
      rw [if_neg hguard]
      refine (body_iff hbody).trans ?_
      constructor
      · rintro ⟨digits, decimals, hamount, hkobo⟩
        exact ⟨_, digits, decimals, ⟨hamount, rfl⟩, hkobo⟩
      · rintro ⟨_, digits, decimals, ⟨hamount, rfl⟩, hkobo⟩
        exact ⟨digits, decimals, hamount, hkobo⟩
    · rw [if_pos (.inr hbody)]
      constructor
      · intro h
        cases h
      · rintro ⟨_, digits, decimals, ⟨hamount, -⟩, -⟩
        exact absurd hamount.isMoneyBody hbody

/-! ### Drafts read back -/

/-- The digits of a number in groups of three. -/
def thousands (n : Nat) : List (List Char) :=
  if n < 1000 then [Nat.toDigits 10 n]
  else thousands (n / 1000) ++ [(Calendar.padded 3 (n % 1000)).toList]
termination_by n
decreasing_by omega

/-- A number with a comma before each three digits. -/
def groupedByThousands (n : Nat) : String := String.ofList ([','].intercalate (thousands n))

lemma digits_toDigits (n : Nat) : Digits (Nat.toDigits 10 n) :=
  ⟨Decimal.toDigits_ne_nil n, Decimal.allDigits_toDigits n⟩

lemma allDigits_padded (w n : Nat) : Decimal.AllDigits (Calendar.padded w n).toList := by
  rw [Calendar.padded_toList, Nat.toList_repr]
  exact (Decimal.allDigits_zeros _).append (Decimal.allDigits_toDigits n)

lemma padded_toList_length {w n : Nat} (hw : 0 < w) (h : n < 10 ^ w) :
    (Calendar.padded w n).toList.length = w := by
  rw [String.length_toList]
  exact Calendar.padded_length_of_lt hw h

lemma thousands_cons (n : Nat) : ∃ first rest, thousands n = first :: rest ∧ Digits first ∧
    first.length ≤ 3 ∧ (rest = [] ↔ n < 1000) ∧ ∀ group ∈ rest, group.length = 3 ∧
      Decimal.AllDigits group := by
  induction n using thousands.induct with
  | case1 n hn =>
    have hlength : (Nat.toDigits 10 n).length ≤ 3 :=
      (Nat.length_toDigits_le_iff (by omega) (by omega)).2 hn
    refine ⟨Nat.toDigits 10 n, [], ?_, digits_toDigits n, hlength, by simp [hn], by simp⟩
    rw [thousands, if_pos hn]
  | case2 n hn ih =>
    obtain ⟨first, rest, hfront, hfirst, hlength, -, hrest⟩ := ih
    refine ⟨first, rest ++ [(Calendar.padded 3 (n % 1000)).toList], ?_, hfirst,
      hlength, by simp; omega, ?_⟩
    · rw [thousands, if_neg hn, hfront]
      rfl
    · intro group hgroup
      rcases List.mem_append.1 hgroup with hgroup | hgroup
      · exact hrest group hgroup
      · rw [List.mem_singleton.1 hgroup]
        exact ⟨padded_toList_length (by omega) (by omega), allDigits_padded 3 _⟩

lemma thousands_groups {n : Nat} (h : ¬ n < 1000) : Groups (thousands n) := by
  obtain ⟨first, rest, hfront, hfirst, hlength, hone, hrest⟩ := thousands_cons n
  rw [hfront]
  exact ⟨hfirst, hlength, fun hnil => h (hone.1 hnil), hrest⟩

lemma thousands_value (n : Nat) : Nat.ofDigitChars 10 (thousands n).flatten 0 = n := by
  induction n using thousands.induct with
  | case1 n hn =>
    rw [thousands, if_pos hn, List.flatten_singleton, Nat.ofDigitChars_ten_toDigits]
  | case2 n hn ih =>
    have hlength : (Calendar.padded 3 (n % 1000)).toList.length = 3 :=
      padded_toList_length (by omega) (by omega)
    rw [thousands, if_neg hn, List.flatten_append, Nat.ofDigitChars_append, ih,
      List.flatten_singleton,
      Nat.ofDigitChars_eq_ofDigitChars_zero, hlength, Calendar.ofDigitChars_padded]
    omega

lemma filter_dropWhile {p q : Char → Bool} (h : ∀ c, q c → p c = false) (text : List Char) :
    (text.dropWhile q).filter p = text.filter p := by
  induction text with
  | nil => rfl
  | cons c text ih =>
    by_cases hc : q c
    · rw [List.dropWhile_cons_of_pos hc, ih, List.filter_cons_of_neg (by simp [h c hc])]
    · rw [List.dropWhile_cons_of_neg hc]

lemma cleaned_eq (input : String) :
    cleaned input = input.toList.filter fun c => !(c = '₦' || isWhiteSpace c) := by
  have hblank : ∀ c, isWhiteSpace c → (!(decide (c = '₦') || isWhiteSpace c)) = false := by
    intro c hc
    simp [hc]
  rw [cleaned, trim, String.toList_ofList, List.filter_reverse, filter_dropWhile hblank,
    List.filter_reverse, List.reverse_reverse, filter_dropWhile hblank]

lemma cleaned_of_plain {text : String} (h : ∀ c ∈ text.toList, c ≠ '₦' ∧ ¬ isWhiteSpace c) :
    cleaned text = text.toList := by
  rw [cleaned_eq]
  apply List.filter_eq_self.2
  intro c hc
  obtain ⟨hsign, hspace⟩ := h c hc
  simp [hsign, hspace]

lemma amount_draft (n : Nat) {fraction : Nat} (hfraction : fraction < 100) :
    Amount ([','].intercalate (thousands n) ++ '.' :: (Calendar.padded 2 fraction).toList)
      (thousands n).flatten (Calendar.padded 2 fraction).toList := by
  have hlength : (Calendar.padded 2 fraction).toList.length = 2 :=
    padded_toList_length (by omega) (by omega)
  have hdecimals : Decimals (Calendar.padded 2 fraction).toList := by
    refine ⟨⟨?_, allDigits_padded 2 fraction⟩, by omega⟩
    intro hnil
    simp [hnil] at hlength
  by_cases hn : n < 1000
  · have hsmall : thousands n = [Nat.toDigits 10 n] := by rw [thousands, if_pos hn]
    rw [hsmall, List.intercalate_singleton, List.flatten_singleton]
    exact .decimal (.inr rfl) (digits_toDigits n) hdecimals
  · exact .groupedDecimal (.inl ⟨rfl, rfl⟩) (thousands_groups hn) hdecimals

lemma draft_value (n fraction : Nat) (hfraction : fraction < 100) (negative : Bool) :
    nairaValue negative (thousands n).flatten (Calendar.padded 2 fraction).toList * 100 =
      (if negative then -1 else 1) * ((n * 100 + fraction : Nat) : ℚ) := by
  have hlength : (Calendar.padded 2 fraction).toList.length = 2 :=
    padded_toList_length (by omega) (by omega)
  unfold nairaValue
  rw [thousands_value, Calendar.ofDigitChars_padded, hlength]
  push_cast
  ring

/-- The draft of an amount is its text in the grammar. -/
lemma signedAmount_draft {format : NumberFormat} (hformat : ∀ n, format n = groupedByThousands n)
    (kobo : Int) : SignedAmount (cleaned (formatMoneyInputDraft format kobo)) (decide (kobo < 0))
      (thousands (kobo.natAbs / 100)).flatten (Calendar.padded 2 (kobo.natAbs % 100)).toList := by
  have hcents : kobo.natAbs % 100 < 100 := by omega
  have hamount := amount_draft (kobo.natAbs / 100) hcents
  have hchars := hamount.chars.2.1
  have hpoint : (".".toList) = ['.'] := rfl
  have htext : (formatMoneyInputDraft format kobo).toList =
      (if kobo < 0 then ['-'] else []) ++
        ([','].intercalate (thousands (kobo.natAbs / 100)) ++
          '.' :: (Calendar.padded 2 (kobo.natAbs % 100)).toList) := by
    have hsign : (if kobo < 0 then "-" else "").toList = if kobo < 0 then ['-'] else [] := by
      split <;> rfl
    simp only [formatMoneyInputDraft, splitKobo, hformat, groupedByThousands, String.toList_append,
      String.toList_ofList, hsign, hpoint, List.append_assoc, List.singleton_append]
  have hplain : ∀ c ∈ (formatMoneyInputDraft format kobo).toList, c ≠ '₦' ∧ ¬ isWhiteSpace c := by
    intro c hc
    rw [htext] at hc
    rcases List.mem_append.1 hc with hc | hc
    · split at hc
      · rw [List.mem_singleton] at hc
        subst hc
        decide
      · simp at hc
    · exact (isMoneyChar_ne (hchars c hc)).2.2
  rw [cleaned_of_plain hplain, htext]
  by_cases hneg : kobo < 0
  · simp only [hneg, if_true, decide_true]
    exact .minus hamount
  · simp only [hneg, if_false, decide_false, List.nil_append]
    exact .unsigned hamount

/-- **Money is read as it is written**: the draft of a safe amount is read back, where whole naira
are shown with a comma before each three digits; and, without white space and naira signs, exactly
the texts of the grammar whose kobo are a safe integer are amounts, with a hundred times their
value. -/
theorem parseNaira_spec (format : NumberFormat) (hformat : ∀ n, format n = groupedByThousands n) :
    (∀ kobo : Int, isSafeInteger kobo → parseNaira (formatMoneyInputDraft format kobo) =
      some kobo) ∧
    ∀ (input : String) (kobo : Int), parseNaira input = some kobo ↔ ∃ negative digits decimals,
      SignedAmount (input.toList.filter fun c => !(c = '₦' || isWhiteSpace c)) negative
        digits decimals ∧
        (kobo : ℚ) = nairaValue negative digits decimals * 100 ∧ isSafeInteger kobo := by
  constructor
  · intro kobo hsafe
    refine (parseNaira_eq_some_iff _ kobo).2 ⟨_, _, _, signedAmount_draft hformat kobo, ?_, hsafe⟩
    rw [draft_value _ _ (by omega), Nat.div_add_mod']
    by_cases hneg : kobo < 0
    · have habs : (kobo.natAbs : ℚ) = -kobo := by
        have hint : (kobo.natAbs : Int) = -kobo := by omega
        rw [← Int.cast_natCast, hint, Int.cast_neg]
      simp only [hneg, decide_true, if_true, habs]
      ring
    · have habs : (kobo.natAbs : ℚ) = kobo := by
        have hint : (kobo.natAbs : Int) = kobo := by omega
        rw [← Int.cast_natCast, hint]
      simp only [hneg, decide_false, Bool.false_eq_true, if_false, habs]
      ring
  · intro input kobo
    rw [← cleaned_eq]
    exact parseNaira_eq_some_iff input kobo

theorem parseNaira_spec_draft :
    parseNaira (formatMoneyInputDraft groupedByThousands (-123450)) = some (-123450) :=
  (parseNaira_spec groupedByThousands fun _ => rfl).1 (-123450) (by decide)

end ShopcityLoyalty
