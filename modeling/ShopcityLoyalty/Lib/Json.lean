import Mathlib.Tactic

/-!
JSON values and their texts: `JSON.stringify`, and the stable text whose object fields are
sorted by key.
-/

namespace ShopcityLoyalty

/-- A value given to a serializer. Numbers are integers; `undefined` is what an absent
optional property holds. -/
inductive Json
  | undefined
  | null
  | bool (b : Bool)
  | number (n : Int)
  | string (s : String)
  | array (elements : List Json)
  | object (fields : List (String × Json))

namespace Json

def hexNibble (n : Nat) : Char := "0123456789abcdef".toList.getD n '0'

def escape (c : Char) : List Char :=
  if c = '"' then ['\\', '"']
  else if c = '\\' then ['\\', '\\']
  else if c = '\n' then ['\\', 'n']
  else if c = '\r' then ['\\', 'r']
  else if c = '\t' then ['\\', 't']
  else if c.toNat = 8 then ['\\', 'b']
  else if c.toNat = 12 then ['\\', 'f']
  else if c.toNat < 32 then
    ['\\', 'u', '0', '0', hexNibble (c.toNat / 16), hexNibble (c.toNat % 16)]
  else [c]

def quote (s : String) : String :=
  String.ofList ('"' :: s.toList.flatMap escape ++ ['"'])

/-- `JSON.stringify` of a value that is no object and no array. -/
def scalar : Json → String
  | bool true => "true"
  | bool false => "false"
  | number n => toString n
  | string s => quote s
  | undefined => "undefined"
  | _ => "null"

mutual

/-- `JSON.stringify`: fields in the order they were written, without the undefined ones. -/
def stringify : Json → String
  | array es => "[" ++ ",".intercalate (stringifyElements es) ++ "]"
  | object fs => "\x7b" ++ ",".intercalate (stringifyFields fs) ++ "\x7d"
  | v => scalar v

def stringifyElements : List Json → List String
  | [] => []
  | undefined :: es => "null" :: stringifyElements es
  | e :: es => stringify e :: stringifyElements es

def stringifyFields : List (String × Json) → List String
  | [] => []
  | f :: fs => stringifyField f ++ stringifyFields fs

def stringifyField : String × Json → List String
  | (_, undefined) => []
  | (k, v) => [quote k ++ ":" ++ stringify v]

end

/-- The order of keys that start with a letter and differ in more than case. -/
def keyLe (a b : String × String) : Prop := a.1.toLower ≤ b.1.toLower

instance : DecidableRel keyLe := fun a b => inferInstanceAs (Decidable (a.1.toLower ≤ b.1.toLower))

def stableFields (fields : List (String × String)) : String :=
  "\x7b" ++ ",".intercalate ((fields.insertionSort keyLe).map fun f => quote f.1 ++ ":" ++ f.2) ++
    "\x7d"

mutual

/-- The text with the fields of every object sorted by key. -/
def stableStringify : Json → String
  | array es => "[" ++ ",".intercalate (stableElements es) ++ "]"
  | object fs => stableFields (stableEntries fs)
  | v => scalar v

-- `Array.join` writes nothing for an undefined element
def stableElements : List Json → List String
  | [] => []
  | undefined :: es => "" :: stableElements es
  | e :: es => stableStringify e :: stableElements es

def stableEntries : List (String × Json) → List (String × String)
  | [] => []
  | f :: fs => stableEntry f :: stableEntries fs

def stableEntry : String × Json → String × String
  | (k, v) => (k, stableStringify v)

end

example : stableStringify (object [("b", number 2), ("a", string "x\"y"), ("c", undefined)]) =
    "\x7b\"a\":\"x\\\"y\",\"b\":2,\"c\":undefined\x7d" := by
  decide +kernel

end Json

end ShopcityLoyalty
