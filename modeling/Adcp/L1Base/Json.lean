import Mathlib
/-!
# JSON values, their canonical text and the decoder

`Json` is a decoded JSON document. An object is an association list; the
decoder keeps the last value of a repeated key, as `json.loads` does, and
`Json.get?` looks a key up. A number with a fraction or an exponent (and the
`NaN` / `Infinity` literals the decoder also takes) is kept as its text: no
arithmetic is done on it.

* `render` is `json.dumps` with sorted keys, the separators `,` and `:` and no
  ASCII escaping.
* `parse` is `json.loads` on a character list; the fuel bounds the nesting and
  is never short (`loads` passes the length of the text).
* `pyEq` is `==` on decoded documents: objects compare without order, and
  `true` / `false` compare equal to `1` / `0`.
-/
namespace Adcp.L1

inductive Json where
  | null
  | bool (b : Bool)
  | int (n : Int)
  | float (text : String)
  | str (s : String)
  | arr (items : List Json)
  | obj (fields : List (String × Json))
  deriving Repr, Inhabited

namespace Json

/-! ## Access -/

def lookupKey (k : String) : List (String × Json) → Option Json
  | [] => none
  | (k', v) :: rest => if k' = k then some v else lookupKey k rest

/-- `value.get(key)` on an object, `none` when absent or not an object. -/
def get? : Json → String → Option Json
  | .obj fields, k => lookupKey k fields
  | _, _ => none

def isObj : Json → Bool
  | .obj _ => true
  | _ => false

/-- The member `k` is the string `s`. -/
def strIs (v : Option Json) (s : String) : Bool :=
  match v with
  | some (.str t) => t = s
  | _ => false

/-- The string a value is, if it is one. -/
def asStr? : Json → Option String
  | .str s => some s
  | _ => none

/-- A nullable text as a JSON value. -/
def ofOption : Option String → Json
  | some s => .str s
  | none => .null

/-! ## Canonical text -/

def hexDigit (n : Nat) : Char := if n < 10 then Char.ofNat (48 + n) else Char.ofNat (87 + n)

def escapeChar (c : Char) : List Char :=
  if c = '"' then ['\\', '"']
  else if c = '\\' then ['\\', '\\']
  else if c = '\n' then ['\\', 'n']
  else if c = '\r' then ['\\', 'r']
  else if c = '\t' then ['\\', 't']
  else if c = '\x0c' then ['\\', 'f']
  else if c = '\x08' then ['\\', 'b']
  else if c.toNat < 32 then ['\\', 'u', '0', '0', hexDigit (c.toNat / 16), hexDigit (c.toNat % 16)]
  else [c]

def quote (s : String) : List Char := '"' :: (s.toList.flatMap escapeChar ++ ['"'])

/-- Join with a comma. -/
def commaJoin : List (List Char) → List Char
  | [] => []
  | [x] => x
  | x :: y :: rest => x ++ ',' :: commaJoin (y :: rest)

def insertKey {α : Type} (x : String × α) : List (String × α) → List (String × α)
  | [] => [x]
  | y :: ys => if y.1 < x.1 then y :: insertKey x ys else x :: y :: ys

def sortKeys {α : Type} : List (String × α) → List (String × α)
  | [] => []
  | x :: xs => insertKey x (sortKeys xs)

def renderField (p : String × List Char) : List Char := quote p.1 ++ ':' :: p.2

mutual

/-- `json.dumps(value, ensure_ascii=False, sort_keys=True, separators=(",", ":"))`. -/
def render : Json → List Char
  | .null => ['n', 'u', 'l', 'l']
  | .bool true => ['t', 'r', 'u', 'e']
  | .bool false => ['f', 'a', 'l', 's', 'e']
  | .int n => (toString n).toList
  | .float t => t.toList
  | .str s => quote s
  | .arr items => '[' :: (commaJoin (renderItems items) ++ [']'])
  | .obj fields => '{' :: (commaJoin ((sortKeys (renderFields fields)).map renderField) ++ ['}'])

def renderItems : List Json → List (List Char)
  | [] => []
  | v :: vs => render v :: renderItems vs

def renderFields : List (String × Json) → List (String × List Char)
  | [] => []
  | (k, v) :: rest => (k, render v) :: renderFields rest

end

mutual

/-- No number with a fraction or an exponent occurs in the value. -/
def noFloat : Json → Bool
  | .float _ => false
  | .arr items => noFloatItems items
  | .obj fields => noFloatFields fields
  | _ => true

def noFloatItems : List Json → Bool
  | [] => true
  | v :: vs => noFloat v && noFloatItems vs

def noFloatFields : List (String × Json) → Bool
  | [] => true
  | (_, v) :: rest => noFloat v && noFloatFields rest

end

theorem noFloat_ofOption (o : Option String) : noFloat (ofOption o) = true := by
  cases o <;> rfl

mutual

/-- `==` on decoded documents. -/
def pyEq : Json → Json → Bool
  | .null, .null => true
  | .bool a, .bool b => a = b
  | .bool a, .int n => (if a then 1 else 0) = n
  | .int n, .bool b => n = (if b then 1 else 0)
  | .int a, .int b => a = b
  | .float a, .float b => a = b
  | .str a, .str b => a = b
  | .arr a, .arr b => pyEqItems a b
  | .obj a, .obj b => a.length = b.length && pyEqFields a b
  | _, _ => false

def pyEqItems : List Json → List Json → Bool
  | [], [] => true
  | a :: as, b :: bs => pyEq a b && pyEqItems as bs
  | _, _ => false

def pyEqFields : List (String × Json) → List (String × Json) → Bool
  | [], _ => true
  | (k, v) :: rest, b =>
    (match lookupKey k b with
      | some w => pyEq v w
      | none => false) && pyEqFields rest b

end

/-! ## Decoder -/

def skipWs : List Char → List Char
  | c :: cs => if c = ' ' ∨ c = '\t' ∨ c = '\n' ∨ c = '\r' then skipWs cs else c :: cs
  | [] => []

def hexVal (c : Char) : Option Nat :=
  if '0' ≤ c ∧ c ≤ '9' then some (c.toNat - 48)
  else if 'a' ≤ c ∧ c ≤ 'f' then some (c.toNat - 87)
  else if 'A' ≤ c ∧ c ≤ 'F' then some (c.toNat - 55)
  else none

def hex4 : List Char → Option (Nat × List Char)
  | a :: b :: c :: d :: rest =>
    match hexVal a, hexVal b, hexVal c, hexVal d with
    | some a, some b, some c, some d => some (((a * 16 + b) * 16 + c) * 16 + d, rest)
    | _, _, _, _ => none
  | _ => none

/-- One `\uXXXX` escape, or the two of a surrogate pair. A lone surrogate is
not a character of this model and is refused. -/
def unicodeEscape (cs : List Char) : Option (Char × List Char) :=
  match hex4 cs with
  | none => none
  | some (hi, rest) =>
    if 0xD800 ≤ hi ∧ hi < 0xDC00 then
      match rest with
      | '\\' :: 'u' :: rest' =>
        match hex4 rest' with
        | some (lo, rest'') =>
          if 0xDC00 ≤ lo ∧ lo < 0xE000 then
            some (Char.ofNat (0x10000 + (hi - 0xD800) * 0x400 + (lo - 0xDC00)), rest'')
          else none
        | none => none
      | _ => none
    else if 0xDC00 ≤ hi ∧ hi < 0xE000 then none
    else some (Char.ofNat hi, rest)

def simpleEscape (c : Char) : Option Char :=
  if c = '"' then some '"' else if c = '\\' then some '\\' else if c = '/' then some '/'
  else if c = 'b' then some '\x08' else if c = 'f' then some '\x0c' else if c = 'n' then some '\n'
  else if c = 'r' then some '\r' else if c = 't' then some '\t' else none

/-- The rest of a string literal, behind its opening quote. -/
def parseStr : Nat → List Char → Option (List Char × List Char)
  | 0, _ => none
  | _ + 1, [] => none
  | fuel + 1, c :: cs =>
    if c = '"' then some ([], cs)
    else if c = '\\' then
      match cs with
      | 'u' :: rest =>
        match unicodeEscape rest with
        | some (ch, rest') => (parseStr fuel rest').map fun (s, r) => (ch :: s, r)
        | none => none
      | e :: rest =>
        match simpleEscape e with
        | some ch => (parseStr fuel rest).map fun (s, r) => (ch :: s, r)
        | none => none
      | [] => none
    else if c.toNat < 32 then none
    else (parseStr fuel cs).map fun (s, r) => (c :: s, r)

def digitsVal : Nat → List Char → Nat
  | acc, [] => acc
  | acc, c :: cs => digitsVal (acc * 10 + (c.toNat - 48)) cs

def takeDigits : List Char → List Char × List Char
  | c :: cs => if c.isDigit then ((c :: (takeDigits cs).1), (takeDigits cs).2) else ([], c :: cs)
  | [] => ([], [])

/-- The fraction and exponent behind an integer part, as text. -/
def fracExp (cs : List Char) : List Char × List Char :=
  let (f, cs1) := match cs with
    | '.' :: rest => let (d, r) := takeDigits rest
      if d = [] then ([], cs) else ('.' :: d, r)
    | _ => ([], cs)
  match cs1 with
  | e :: rest =>
    if e = 'e' ∨ e = 'E' then
      let (sg, r1) := match rest with
        | '+' :: r => (['+'], r)
        | '-' :: r => (['-'], r)
        | r => ([], r)
      let (d, r2) := takeDigits r1
      if d = [] then (f, cs1) else (f ++ e :: sg ++ d, r2)
    else (f, cs1)
  | [] => (f, cs1)

def parseNat (neg : Bool) (cs : List Char) : Option (Json × List Char) :=
  let (ip, rest) := match cs with
    | '0' :: rest => (['0'], rest)
    | _ => takeDigits cs
  if ip = [] then none
  else
    let (fe, rest') := fracExp rest
    if fe = [] then
      some (.int (if neg then - (digitsVal 0 ip : Int) else digitsVal 0 ip), rest')
    else some (.float (String.ofList ((if neg then ['-'] else []) ++ ip ++ fe)), rest')

def parseLiteral (cs : List Char) : Option (Json × List Char) :=
  match cs with
  | 'n' :: 'u' :: 'l' :: 'l' :: r => some (.null, r)
  | 't' :: 'r' :: 'u' :: 'e' :: r => some (.bool true, r)
  | 'f' :: 'a' :: 'l' :: 's' :: 'e' :: r => some (.bool false, r)
  | 'N' :: 'a' :: 'N' :: r => some (.float "NaN", r)
  | 'I' :: 'n' :: 'f' :: 'i' :: 'n' :: 'i' :: 't' :: 'y' :: r => some (.float "Infinity", r)
  | '-' :: 'I' :: 'n' :: 'f' :: 'i' :: 'n' :: 'i' :: 't' :: 'y' :: r => some (.float "-Infinity", r)
  | '-' :: r => parseNat true r
  | _ => parseNat false cs

/-- Set a key of an association list, replacing an earlier value. -/
def setKey (k : String) (v : Json) : List (String × Json) → List (String × Json)
  | [] => [(k, v)]
  | (k', v') :: rest => if k' = k then (k, v) :: rest else (k', v') :: setKey k v rest

mutual

def parse : Nat → List Char → Option (Json × List Char)
  | 0, _ => none
  | fuel + 1, cs =>
    match cs with
    | '"' :: rest => (parseStr fuel rest).map fun (s, r) => (.str (String.ofList s), r)
    | '[' :: rest =>
      match skipWs rest with
      | ']' :: r => some (.arr [], r)
      | r => (parseItems fuel r).map fun (l, r') => (.arr l, r')
    | '{' :: rest =>
      match skipWs rest with
      | '}' :: r => some (.obj [], r)
      | r => (parseFields fuel [] r).map fun (l, r') => (.obj l, r')
    | _ => parseLiteral cs

def parseItems : Nat → List Char → Option (List Json × List Char)
  | 0, _ => none
  | fuel + 1, cs =>
    match parse fuel cs with
    | none => none
    | some (v, rest) =>
      match skipWs rest with
      | ',' :: r => (parseItems fuel (skipWs r)).map fun (l, r') => (v :: l, r')
      | ']' :: r => some ([v], r)
      | _ => none

def parseFields : Nat → List (String × Json) → List Char → Option (List (String × Json) × List Char)
  | 0, _, _ => none
  | fuel + 1, acc, cs =>
    match cs with
    | '"' :: rest =>
      match parseStr fuel rest with
      | none => none
      | some (k, r1) =>
        match skipWs r1 with
        | ':' :: r2 =>
          match parse fuel (skipWs r2) with
          | none => none
          | some (v, r3) =>
            match skipWs r3 with
            | ',' :: r4 => parseFields fuel (setKey (String.ofList k) v acc) (skipWs r4)
            | '}' :: r4 => some (setKey (String.ofList k) v acc, r4)
            | _ => none
        | _ => none
    | _ => none

end

/-- `json.loads(text)`; `none` is a decoding error. -/
def loads (text : List Char) : Option Json :=
  match parse (2 * text.length + 2) (skipWs text) with
  | some (v, rest) => if skipWs rest = [] then some v else none
  | none => none

end Json
end Adcp.L1
