import Mathlib.Data.List.GetD
import Mathlib.Tactic

/-!
SHA-256 of the UTF-8 bytes of a text, written as sixty-four hexadecimal digits.

Words are natural numbers below two to the thirty-two. Nothing is assumed about
collisions: a result that needs two digests to differ says so about the two texts at hand.
-/

namespace ShopcityLoyalty.Sha256

/-- Addition of words. -/
def add (a b : Nat) : Nat := (a + b) % 2 ^ 32

def rotr (x n : Nat) : Nat := (x >>> n ||| x <<< (32 - n)) % 2 ^ 32

def complement (x : Nat) : Nat := (2 ^ 32 - 1) ^^^ x

def roundConstants : List Nat := [
  0x428a2f98, 0x71374491, 0xb5c0fbcf, 0xe9b5dba5, 0x3956c25b, 0x59f111f1, 0x923f82a4, 0xab1c5ed5,
  0xd807aa98, 0x12835b01, 0x243185be, 0x550c7dc3, 0x72be5d74, 0x80deb1fe, 0x9bdc06a7, 0xc19bf174,
  0xe49b69c1, 0xefbe4786, 0x0fc19dc6, 0x240ca1cc, 0x2de92c6f, 0x4a7484aa, 0x5cb0a9dc, 0x76f988da,
  0x983e5152, 0xa831c66d, 0xb00327c8, 0xbf597fc7, 0xc6e00bf3, 0xd5a79147, 0x06ca6351, 0x14292967,
  0x27b70a85, 0x2e1b2138, 0x4d2c6dfc, 0x53380d13, 0x650a7354, 0x766a0abb, 0x81c2c92e, 0x92722c85,
  0xa2bfe8a1, 0xa81a664b, 0xc24b8b70, 0xc76c51a3, 0xd192e819, 0xd6990624, 0xf40e3585, 0x106aa070,
  0x19a4c116, 0x1e376c08, 0x2748774c, 0x34b0bcb5, 0x391c0cb3, 0x4ed8aa4a, 0x5b9cca4f, 0x682e6ff3,
  0x748f82ee, 0x78a5636f, 0x84c87814, 0x8cc70208, 0x90befffa, 0xa4506ceb, 0xbef9a3f7, 0xc67178f2]

/-- The eight chaining words. -/
structure Chain where
  (a b c d e f g h : Nat)

def initial : Chain :=
  ⟨0x6a09e667, 0xbb67ae85, 0x3c6ef372, 0xa54ff53a, 0x510e527f, 0x9b05688c, 0x1f83d9ab, 0x5be0cd19⟩

/-- One round, on its constant and its schedule word. -/
def round (s : Chain) (k w : Nat) : Chain :=
  let s1 := rotr s.e 6 ^^^ rotr s.e 11 ^^^ rotr s.e 25
  let ch := (s.e &&& s.f) ^^^ (complement s.e &&& s.g)
  let t1 := s.h + s1 + ch + k + w
  let s0 := rotr s.a 2 ^^^ rotr s.a 13 ^^^ rotr s.a 22
  let maj := (s.a &&& s.b) ^^^ (s.a &&& s.c) ^^^ (s.b &&& s.c)
  ⟨add t1 (s0 + maj), s.a, s.b, s.c, add s.d t1, s.e, s.f, s.g⟩

/-- The schedule word after a window of sixteen. -/
def nextWord (window : List Nat) : Nat :=
  let x := window.getD 1 0
  let y := window.getD 14 0
  let s0 := rotr x 7 ^^^ rotr x 18 ^^^ x >>> 3
  let s1 := rotr y 17 ^^^ rotr y 19 ^^^ y >>> 10
  add (window.getD 0 0 + s0) (window.getD 9 0 + s1)

def rounds : List Nat → List Nat → Chain → Chain
  | [], _, s => s
  | k :: ks, window, s =>
      rounds ks (window.tail ++ [nextWord window]) (round s k (window.getD 0 0))

def compress (s : Chain) (block : List Nat) : Chain :=
  let r := rounds roundConstants block s
  ⟨add s.a r.a, add s.b r.b, add s.c r.c, add s.d r.d, add s.e r.e, add s.f r.f, add s.g r.g,
    add s.h r.h⟩

/-- The message, a one bit, zeros, and the bit length in eight bytes: whole blocks. -/
def pad (bytes : List Nat) : List Nat :=
  bytes ++ [0x80] ++ List.replicate ((119 - bytes.length % 64) % 64) 0 ++
    (List.range 8).map fun i => (bytes.length * 8 >>> (8 * (7 - i))) % 256

def words : List Nat → List Nat
  | a :: b :: c :: d :: r => (a <<< 24 ||| b <<< 16 ||| c <<< 8 ||| d) :: words r
  | _ => []

def blocks : Nat → List Nat → Chain → Chain
  | 0, _, s => s
  | n + 1, ws, s => blocks n (ws.drop 16) (compress s (ws.take 16))

def hash (bytes : List Nat) : Chain :=
  let ws := words (pad bytes)
  blocks (ws.length / 16) ws initial

/-! ### The digest as text -/

def hexDigits : List Char := "0123456789abcdef".toList

def hexDigit (n : Nat) : Char := hexDigits.getD n '0'

/-- The eight digits of a word, most significant first. -/
def hexWord (w : Nat) : List Char :=
  (List.range 8).map fun i => hexDigit ((w >>> (4 * (7 - i))) % 16)

def hexChars (s : Chain) : List Char :=
  hexWord s.a ++ hexWord s.b ++ hexWord s.c ++ hexWord s.d ++ hexWord s.e ++ hexWord s.f ++
    hexWord s.g ++ hexWord s.h

lemma hexDigit_mem (n : Nat) : hexDigit n ∈ hexDigits := by
  unfold hexDigit
  rcases lt_or_ge n hexDigits.length with h | h
  · rw [List.getD_eq_getElem _ _ h]; exact List.getElem_mem h
  · rw [List.getD_eq_default _ _ h]; decide

lemma hexWord_length (w : Nat) : (hexWord w).length = 8 := by
  simp [hexWord]

lemma hexWord_digits (w : Nat) : ∀ c ∈ hexWord w, c ∈ hexDigits := by
  intro c hc
  obtain ⟨i, -, rfl⟩ := List.mem_map.1 hc
  exact hexDigit_mem _

end ShopcityLoyalty.Sha256

namespace ShopcityLoyalty

/-- A hexadecimal SHA-256 digest. -/
structure Digest where
  chars : List Char
  length_eq : chars.length = 64
  digits : ∀ c ∈ chars, c ∈ Sha256.hexDigits
  deriving DecidableEq

namespace Digest

def text (d : Digest) : String := String.ofList d.chars

@[simp] lemma toList_text (d : Digest) : d.text.toList = d.chars := by
  simp [text]

end Digest

/-- The digest of a text. -/
@[irreducible] def sha256 (t : String) : Digest where
  chars := Sha256.hexChars (Sha256.hash (t.toUTF8.data.toList.map UInt8.toNat))
  length_eq := by simp [Sha256.hexChars, Sha256.hexWord_length]
  digits := by
    intro c hc
    simp only [Sha256.hexChars, List.mem_append] at hc
    rcases hc with ((((((h | h) | h) | h) | h) | h) | h) | h <;>
      exact Sha256.hexWord_digits _ c h

example : (sha256 "abc").text =
    "ba7816bf8f01cfea414140de5dae2223b00361a396177a9cb410ff61f20015ad" := by
  decide +kernel

end ShopcityLoyalty
