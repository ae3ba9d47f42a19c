import Mathlib.Tactic

/-!
`encodeURIComponent` and `decodeURIComponent`: every character outside the unreserved ones is
written as the percent escapes of its UTF-8 bytes, and decoding fails on an escape that is
none and on bytes that are no character.
-/

namespace ShopcityLoyalty.Uri

/-- The characters that stand for themselves. -/
def unreserved (c : Char) : Bool := c.isAlphanum || "-_.!~*'()".toList.contains c

def hexDigit (n : Nat) : Char := "0123456789ABCDEF".toList.getD n '0'

def percentByte (b : UInt8) : List Char := ['%', hexDigit (b.toNat / 16), hexDigit (b.toNat % 16)]

def encodeChar (c : Char) : List Char :=
  if unreserved c then [c] else (String.utf8EncodeChar c).flatMap percentByte

def encodeURIComponent (value : String) : String :=
  String.ofList (value.toList.flatMap encodeChar)

/-- A character, or the byte of an escape. -/
inductive Token
  | char (c : Char)
  | octet (b : UInt8)

def hexValue (c : Char) : Option Nat :=
  if '0' ≤ c ∧ c ≤ '9' then some (c.toNat - 48)
  else if 'A' ≤ c ∧ c ≤ 'F' then some (c.toNat - 55)
  else if 'a' ≤ c ∧ c ≤ 'f' then some (c.toNat - 87)
  else none

def tokens : List Char → Option (List Token)
  | [] => some []
  | '%' :: high :: low :: rest => do
      let h ← hexValue high
      let l ← hexValue low
      let later ← tokens rest
      some (.octet (UInt8.ofNat (16 * h + l)) :: later)
  | c :: rest => if c = '%' then none else (tokens rest).map (.char c :: ·)

/-- How many bytes a character has whose first byte is this one. -/
def sequenceLength (b : UInt8) : Option Nat :=
  if b < 0x80 then some 1
  else if b &&& 0xe0 = 0xc0 then some 2
  else if b &&& 0xf0 = 0xe0 then some 3
  else if b &&& 0xf8 = 0xf0 then some 4
  else none

def codePoint (octets : List UInt8) : Option Char :=
  (octets.toByteArray.utf8DecodeChar? 0).filter fun c => c.utf8Size = octets.length

/-- The characters of the tokens, with the bytes so far of a character that is not complete. -/
def assemble (pending : List UInt8) : List Token → Option (List Char)
  | [] => if pending = [] then some [] else none
  | .char c :: rest => if pending = [] then (assemble [] rest).map (c :: ·) else none
  | .octet b :: rest =>
      match sequenceLength ((pending ++ [b]).headD 0) with
      | none => none
      | some n =>
          if (pending ++ [b]).length < n then assemble (pending ++ [b]) rest
          else do
            let c ← codePoint (pending ++ [b])
            (assemble [] rest).map (c :: ·)

/-- `none` is the `URIError`. -/
def decodeURIComponent (text : String) : Option String :=
  ((tokens text.toList).bind (assemble [])).map String.ofList

/-! ### Decoding what was encoded -/

lemma hexValue_hexDigit {n : Nat} (h : n < 16) : hexValue (hexDigit n) = some n := by
  have hall : ∀ n < 16, hexValue (hexDigit n) = some n := by decide
  exact hall n h

lemma tokens_percentByte (b : UInt8) (rest : List Char) :
    tokens (percentByte b ++ rest) = (tokens rest).map (.octet b :: ·) := by
  have hlt : b.toNat < 256 := b.toNat_lt_size
  have hbyte : UInt8.ofNat (16 * (b.toNat / 16) + b.toNat % 16) = b := by
    rw [Nat.div_add_mod, UInt8.ofNat_toNat]
  simp only [percentByte, List.cons_append, List.nil_append, tokens, hexValue_hexDigit
    (show b.toNat / 16 < 16 by omega), hexValue_hexDigit (show b.toNat % 16 < 16 by omega),
    Option.bind_eq_bind, Option.bind_some, hbyte]
  cases tokens rest <;> rfl

lemma tokens_octets (bytes : List UInt8) (rest : List Char) :
    tokens (bytes.flatMap percentByte ++ rest) =
      (tokens rest).map (bytes.map Token.octet ++ ·) := by
  induction bytes with
  | nil => simp
  | cons b bytes ih =>
    rw [List.flatMap_cons, List.append_assoc, tokens_percentByte, ih]
    cases tokens rest <;> simp

lemma tokens_plain {c : Char} (h : c ≠ '%') (rest : List Char) :
    tokens (c :: rest) = (tokens rest).map (.char c :: ·) := by
  rw [tokens.eq_3 c rest (fun _ _ _ hc _ => h hc), if_neg h]

lemma unreserved_ne_percent {c : Char} (h : unreserved c) : c ≠ '%' := by
  rintro rfl
  revert h
  decide

lemma codePoint_encode (c : Char) : codePoint (String.utf8EncodeChar c) = some c := by
  have hdecode : (String.utf8EncodeChar c).toByteArray.utf8DecodeChar? 0 = some c := by
    have h := ByteArray.utf8DecodeChar?_utf8EncodeChar_append (b := ByteArray.empty) (c := c)
    simpa using h
  unfold codePoint
  rw [hdecode]
  simp

lemma forall_byte {P : UInt8 → Prop} (h : ∀ n < 256, P (UInt8.ofNat n)) (b : UInt8) : P b := by
  have hb := h b.toNat b.toNat_lt_size
  rwa [UInt8.ofNat_toNat] at hb

lemma sequenceLength_lead (b : UInt8) : sequenceLength (b &&& 0x1f ||| 0xc0) = some 2 ∧
    sequenceLength (b &&& 0x0f ||| 0xe0) = some 3 ∧
      sequenceLength (b &&& 0x07 ||| 0xf0) = some 4 :=
  forall_byte (P := fun b => sequenceLength (b &&& 0x1f ||| 0xc0) = some 2 ∧
    sequenceLength (b &&& 0x0f ||| 0xe0) = some 3 ∧
      sequenceLength (b &&& 0x07 ||| 0xf0) = some 4) (by decide +kernel) b

lemma sequenceLength_two (b : UInt8) : sequenceLength (b &&& 0x1f ||| 0xc0) = some 2 :=
  (sequenceLength_lead b).1

lemma sequenceLength_three (b : UInt8) : sequenceLength (b &&& 0x0f ||| 0xe0) = some 3 :=
  (sequenceLength_lead b).2.1

lemma sequenceLength_four (b : UInt8) : sequenceLength (b &&& 0x07 ||| 0xf0) = some 4 :=
  (sequenceLength_lead b).2.2

lemma sequenceLength_one {c : Char} (h : c.utf8Size = 1) :
    sequenceLength c.val.toUInt8 = some 1 := by
  have hval : c.val ≤ 0x7f := Char.utf8Size_eq_one_iff.1 h
  have hnat : c.val.toNat ≤ 127 := hval
  have hlt : c.val.toUInt8 < 0x80 := by
    rw [UInt8.lt_iff_toNat_lt, UInt32.toNat_toUInt8]
    have h80 : (0x80 : UInt8).toNat = 128 := rfl
    omega
  rw [sequenceLength, if_pos hlt]

lemma assemble_octets (c : Char) (rest : List Token) :
    assemble [] ((String.utf8EncodeChar c).map .octet ++ rest) =
      (assemble [] rest).map (c :: ·) := by
  have hcode := codePoint_encode c
  have hlow := c.utf8Size_pos
  have hhigh := c.utf8Size_le_four
  have hsize : c.utf8Size = 1 ∨ c.utf8Size = 2 ∨ c.utf8Size = 3 ∨ c.utf8Size = 4 := by omega
  rcases hsize with hsize | hsize | hsize | hsize
  · rw [String.utf8EncodeChar_eq_singleton hsize] at hcode ⊢
    simp [assemble, sequenceLength_one hsize, hcode, -Char.toUInt8_val]
  · rw [String.utf8EncodeChar_eq_cons_cons hsize] at hcode ⊢
    simp [assemble, sequenceLength_two, hcode, -Char.toUInt8_val]
  · rw [String.utf8EncodeChar_eq_cons_cons_cons hsize] at hcode ⊢
    simp [assemble, sequenceLength_three, hcode, -Char.toUInt8_val]
  · rw [String.utf8EncodeChar_eq_cons_cons_cons_cons hsize] at hcode ⊢
    simp [assemble, sequenceLength_four, hcode, -Char.toUInt8_val]

lemma tokens_encodeChar (c : Char) : ∃ front : List Token,
    (∀ rest, tokens (encodeChar c ++ rest) = (tokens rest).map (front ++ ·)) ∧
      ∀ rest, assemble [] (front ++ rest) = (assemble [] rest).map (c :: ·) := by
  unfold encodeChar
  by_cases hc : unreserved c
  · refine ⟨[.char c], fun rest => ?_, fun rest => by simp [assemble]⟩
    rw [if_pos hc, List.singleton_append, tokens_plain (unreserved_ne_percent hc)]
    rfl
  · refine ⟨(String.utf8EncodeChar c).map .octet, fun rest => ?_, assemble_octets c⟩
    rw [if_neg hc, tokens_octets]

/-- **What was encoded is decoded.** -/
theorem decode_encode (value : String) :
    decodeURIComponent (encodeURIComponent value) = some value := by
  have hchars : ∀ text : List Char,
      (tokens (text.flatMap encodeChar)).bind (assemble []) = some text := by
    intro text
    induction text with
    | nil => rfl
    | cons c text ih =>
      obtain ⟨front, htokens, hassemble⟩ := tokens_encodeChar c
      rw [List.flatMap_cons, htokens]
      cases hrest : tokens (text.flatMap encodeChar) with
      | none => simp [hrest] at ih
      | some later =>
        rw [hrest, Option.bind_some] at ih
        rw [Option.map_some, Option.bind_some, hassemble, ih]
        rfl
  rw [decodeURIComponent, encodeURIComponent, String.toList_ofList, hchars, Option.map_some,
    String.ofList_toList]

/-- The characters of an encoded text. -/
lemma mem_encodeURIComponent {value : String} {c : Char}
    (h : c ∈ (encodeURIComponent value).toList) : unreserved c ∨ c = '%' := by
  have hhex : ∀ n < 16, unreserved (hexDigit n) := by decide
  rw [encodeURIComponent, String.toList_ofList] at h
  obtain ⟨d, -, hd⟩ := List.mem_flatMap.1 h
  unfold encodeChar at hd
  by_cases hu : unreserved d
  · rw [if_pos hu, List.mem_singleton] at hd
    rw [hd]
    exact .inl hu
  · rw [if_neg hu] at hd
    obtain ⟨b, -, hb⟩ := List.mem_flatMap.1 hd
    have hlt : b.toNat < 256 := b.toNat_lt_size
    simp only [percentByte, List.mem_cons, List.not_mem_nil, or_false] at hb
    rcases hb with rfl | rfl | rfl
    · exact .inr rfl
    · exact .inl (hhex _ (by omega))
    · exact .inl (hhex _ (by omega))

end ShopcityLoyalty.Uri
