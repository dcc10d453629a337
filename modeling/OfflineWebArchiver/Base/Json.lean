import Mathlib.Data.List.Sort

/-!
# JSON values and their canonical text

Requests and results are hashed and compared through `canonicalJson`: the object
keys are sorted, then the value is written by `JSON.stringify`. Numbers are the
integers the stores put into requests.
-/

namespace OfflineWebArchiver

inductive Json where
  | null
  | bool (b : Bool)
  | num (n : ℤ)
  | str (s : String)
  | arr (xs : List Json)
  | obj (fields : List (String × Json))

namespace Json

/-- A field that is left out when the value is `undefined`. -/
def field? (key : String) (value : Option Json) : List (String × Json) :=
  match value with
  | some v => [(key, v)]
  | none => []

/-- A nullable text. -/
def ofText? : Option String → Json
  | some s => .str s
  | none => .null

/-- A nullable number. -/
def ofNat? : Option ℕ → Json
  | some n => .num n
  | none => .null

/-- `value[key]`. -/
def get? (value : Json) (key : String) : Option Json :=
  match value with
  | .obj fields => (fields.find? fun f => f.1 == key).map (·.2)
  | _ => none

mutual

/-- `ordered`: the same value with every object's keys sorted. -/
def ordered : Json → Json
  | .null => .null
  | .bool b => .bool b
  | .num n => .num n
  | .str s => .str s
  | .arr xs => .arr (orderedList xs)
  | .obj fields => .obj ((orderedFields fields).insertionSort fun a b => a.1 ≤ b.1)

def orderedList : List Json → List Json
  | [] => []
  | x :: xs => ordered x :: orderedList xs

def orderedFields : List (String × Json) → List (String × Json)
  | [] => []
  | (k, v) :: fields => (k, ordered v) :: orderedFields fields

end

/-- One character of a quoted string. -/
def escapeChar (c : Char) : List Char :=
  if c == '"' then ['\\', '"']
  else if c == '\\' then ['\\', '\\']
  else if c.toNat == 8 then ['\\', 'b']
  else if c.toNat == 9 then ['\\', 't']
  else if c.toNat == 10 then ['\\', 'n']
  else if c.toNat == 12 then ['\\', 'f']
  else if c.toNat == 13 then ['\\', 'r']
  else if c.toNat < 32 then
    ['\\', 'u', '0', '0', Nat.digitChar (c.toNat / 16), Nat.digitChar (c.toNat % 16)]
  else [c]

/-- A quoted string. -/
def quote (s : String) : List Char := '"' :: (s.toList.flatMap escapeChar ++ ['"'])

mutual

/-- The characters of `JSON.stringify`. -/
def chars : Json → List Char
  | .null => "null".toList
  | .bool b => (if b then "true" else "false").toList
  | .num n => (toString n).toList
  | .str s => quote s
  | .arr xs => '[' :: charsList xs
  | .obj fields => Char.ofNat 123 :: charsFields fields

def charsList : List Json → List Char
  | [] => [']']
  | [x] => chars x ++ [']']
  | x :: xs => chars x ++ ',' :: charsList xs

def charsFields : List (String × Json) → List Char
  | [] => [Char.ofNat 125]
  | [(k, v)] => quote k ++ ':' :: chars v ++ [Char.ofNat 125]
  | (k, v) :: fields => quote k ++ ':' :: chars v ++ ',' :: charsFields fields

end

/-- `JSON.stringify(value)`. -/
def stringify (value : Json) : String := String.ofList (chars value)

/-- `canonicalJson(value)`. -/
def canonicalJson (value : Json) : String := stringify (ordered value)

mutual

/-- `metadataDepth(value, depth)`. -/
def metadataDepth (depth : ℕ) : Json → ℕ
  | .arr xs => depthList depth depth xs
  | .obj fields => depthFields depth depth fields
  | _ => depth

def depthList (depth maximum : ℕ) : List Json → ℕ
  | [] => maximum
  | x :: xs => depthList depth (max maximum (metadataDepth (depth + 1) x)) xs

def depthFields (depth maximum : ℕ) : List (String × Json) → ℕ
  | [] => maximum
  | (_, v) :: fields => depthFields depth (max maximum (metadataDepth (depth + 1) v)) fields

end

example : canonicalJson (.obj [("b", .num 2), ("a", .arr [.null, .str "x\"y"])]) =
    "\x7b\"a\":[null,\"x\\\"y\"],\"b\":2\x7d" := by decide

end Json

end OfflineWebArchiver
