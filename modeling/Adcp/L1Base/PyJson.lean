import Mathlib.Data.List.Sort
import Adcp.L1Base.JsonAscii
import Adcp.L1Base.PyText
/-!
# JSON documents over texts of code points

As `Json`, with Python texts for its strings and its keys: a document that is written may hold
a text that no UTF-8 file can.

* `PyJson.dumps`: `json.dumps` with sorted keys, the separators `,` and `:` and ASCII escapes.
-/
namespace Adcp.L1

inductive PyJson where
  | null
  | bool (b : Bool)
  | int (n : Int)
  | float (text : PyText)
  | str (t : PyText)
  | arr (items : List PyJson)
  | obj (fields : List (PyText × PyJson))

namespace PyJson

open PyText

def lookupKey (k : PyText) : List (PyText × PyJson) → Option PyJson
  | [] => none
  | (k', v) :: rest => if k' = k then some v else lookupKey k rest

/-- `value.get(key)` on an object, `none` when absent or not an object. -/
def get? : PyJson → String → Option PyJson
  | .obj fields, k => lookupKey (ofString k) fields
  | _, _ => none

mutual

/-- A document whose texts are all strings. -/
def ofJson : Json → PyJson
  | .null => .null
  | .bool b => .bool b
  | .int n => .int n
  | .float t => .float (ofString t)
  | .str s => .str (ofString s)
  | .arr items => .arr (ofItems items)
  | .obj fields => .obj (ofFields fields)

def ofItems : List Json → List PyJson
  | [] => []
  | v :: vs => ofJson v :: ofItems vs

def ofFields : List (String × Json) → List (PyText × PyJson)
  | [] => []
  | (k, v) :: rest => (ofString k, ofJson v) :: ofFields rest

end

/-- A nullable text as a JSON value. -/
def ofText : Option PyText → PyJson
  | some t => .str t
  | none => .null

def ofInt : Option Int → PyJson
  | some n => .int n
  | none => .null

/-- One code point between quotes, escaped unless it is printable ASCII. -/
def asciiCodePoint (c : CodePoint) : List Char :=
  if c.val = 34 then ['\\', '"']
  else if c.val = 92 then ['\\', '\\']
  else if c.val = 10 then ['\\', 'n']
  else if c.val = 13 then ['\\', 'r']
  else if c.val = 9 then ['\\', 't']
  else if c.val = 12 then ['\\', 'f']
  else if c.val = 8 then ['\\', 'b']
  else if 32 ≤ c.val ∧ c.val ≤ 126 then [Char.ofNat c.val]
  else if c.val < 0x10000 then Json.unicodeEscaped c.val
  else Json.unicodeEscaped (0xD800 + (c.val - 0x10000) / 0x400) ++
    Json.unicodeEscaped (0xDC00 + (c.val - 0x10000) % 0x400)

def quote (t : PyText) : List Char := '"' :: (t.flatMap asciiCodePoint ++ ['"'])

/-- The order of the keys is the order of their code points. -/
def sortFields {α : Type} (fields : List (PyText × α)) : List (PyText × α) :=
  fields.insertionSort fun p q => p.1 ≤ q.1

mutual

/-- `json.dumps(value, ensure_ascii=True, sort_keys=True, separators=(",", ":"))`. -/
def dumps : PyJson → List Char
  | .null => "null".toList
  | .bool true => "true".toList
  | .bool false => "false".toList
  | .int n => (toString n).toList
  | .float t => t.flatMap asciiCodePoint
  | .str t => quote t
  | .arr items => '[' :: (Json.commaJoin (dumpsItems items) ++ [']'])
  | .obj fields =>
    '{' :: (Json.commaJoin ((sortFields (dumpsFields fields)).map
      fun (k, cs) => quote k ++ ':' :: cs) ++ ['}'])

def dumpsItems : List PyJson → List (List Char)
  | [] => []
  | v :: vs => dumps v :: dumpsItems vs

def dumpsFields : List (PyText × PyJson) → List (PyText × List Char)
  | [] => []
  | (k, v) :: rest => (k, dumps v) :: dumpsFields rest

end

end PyJson
end Adcp.L1
