import Mathlib.Data.List.Basic
import Adcp.L1Base.TextLines
/-!
# Words of a command line and parts of a URL

What Python's standard library makes of a text that names a connection.

* `shellWords`: `shlex.split`, with its quotes and escapes.
* `splitUrl`, `hostInfo`, `userInfo`: `urllib.parse.urlsplit` behind the scheme, and the properties
  of its result.
* `queryItems`: the parameters of a query.
-/
namespace Adcp.L1.ConnectionText

open TextLines

/-! ## Pieces -/

/-- `text.partition(c)[0]` -/
def before (c : Char) (text : List Char) : List Char := text.takeWhile (· ≠ c)

/-- `text.partition(c)[2]` -/
def after (c : Char) (text : List Char) : List Char := (text.dropWhile (· ≠ c)).drop 1

/-- `text.rpartition(c)[2]`, or the whole text without the character. -/
def afterLast (c : Char) (text : List Char) : List Char := (text.reverse.takeWhile (· ≠ c)).reverse

/-- `text.rpartition(c)[0]` -/
def beforeLast (c : Char) (text : List Char) : List Char :=
  ((text.reverse.dropWhile (· ≠ c)).drop 1).reverse

/-- `text.strip()` -/
def strip (text : List Char) : List Char :=
  ((text.dropWhile isSpace).reverse.dropWhile isSpace).reverse

/-! ## Words -/

inductive LexFault where
  | noClosingQuotation
  | noEscapedCharacter
  deriving DecidableEq, Repr

/-- The states of `shlex`: between words, in a word, in quotes, behind a backslash in a word or in
quotes. -/
inductive LexState where
  | between
  | word
  | quotes (q : Char)
  | escape (back : Option Char)
  deriving DecidableEq, Repr

def isWordSpace (c : Char) : Bool := c = ' ' || c = '\t' || c = '\r' || c = '\n'

def isQuote (c : Char) : Bool := c = '\'' || c = '"'

/-- `shlex.read_token`, again and again; `quoted` is whether the word had quotes, which makes it a
word though it is empty. -/
def wordsFrom : LexState → List Char → Bool → List Char → Except LexFault (List (List Char))
  | .quotes _, _, _, [] => .error .noClosingQuotation
  | .escape _, _, _, [] => .error .noEscapedCharacter
  | .between, token, quoted, [] => .ok (if token ≠ [] ∨ quoted then [token] else [])
  | .word, token, quoted, [] => .ok (if token ≠ [] ∨ quoted then [token] else [])
  | .between, token, quoted, c :: rest =>
    if isWordSpace c then wordsFrom .between token quoted rest
    else if c = '\\' then wordsFrom (.escape none) token quoted rest
    else if isQuote c then wordsFrom (.quotes c) token quoted rest
    else wordsFrom .word [c] quoted rest
  | .word, token, quoted, c :: rest =>
    if isWordSpace c then
      if token ≠ [] ∨ quoted then (wordsFrom .between [] false rest).map (token :: ·)
      else wordsFrom .between token quoted rest
    else if isQuote c then wordsFrom (.quotes c) token quoted rest
    else if c = '\\' then wordsFrom (.escape none) token quoted rest
    else wordsFrom .word (token ++ [c]) quoted rest
  | .quotes q, token, _, c :: rest =>
    if c = q then wordsFrom .word token true rest
    else if c = '\\' ∧ q = '"' then wordsFrom (.escape (some q)) token true rest
    else wordsFrom (.quotes q) (token ++ [c]) true rest
  | .escape none, token, quoted, c :: rest => wordsFrom .word (token ++ [c]) quoted rest
  | .escape (some q), token, quoted, c :: rest =>
    if c ≠ '\\' ∧ c ≠ q then wordsFrom (.quotes q) (token ++ ['\\', c]) quoted rest
    else wordsFrom (.quotes q) (token ++ [c]) quoted rest

/-- `shlex.split(text)` -/
def shellWords (text : List Char) : Except LexFault (List (List Char)) :=
  wordsFrom .between [] false text

/-! ## URLs -/

/-- What the standard library decides from tables: the authorities that `urlsplit` refuses (for
their brackets, or a character that normalises to a delimiter), the lower case of a host and the
percent-decoding of a text. -/
structure UrlRules where
  refused : List Char → Bool
  lower : List Char → List Char
  unquote : List Char → List Char
  unquote_nil : unquote [] = []

structure UrlParts where
  netloc : List Char
  path : List Char
  query : List Char
  fragment : List Char
  deriving DecidableEq, Repr

def isUrlDelimiter (c : Char) : Bool := c = '/' || c = '?' || c = '#'

/-- `urlsplit` behind `scheme://`, where tabs and line ends have been removed; `none` is
`ValueError`. -/
def splitUrl (rules : UrlRules) (text : List Char) : Option UrlParts :=
  let url := text.filter fun c => ¬ (c = '\t' ∨ c = '\r' ∨ c = '\n')
  let netloc := url.takeWhile fun c => !isUrlDelimiter c
  let rest := url.dropWhile fun c => !isUrlDelimiter c
  if rules.refused netloc then none
  else some {
    netloc := netloc
    path := before '?' (before '#' rest)
    query := after '?' (before '#' rest)
    fragment := after '#' rest }

/-- `_hostinfo`: the host and the port, as they stand. -/
def hostInfo (netloc : List Char) : List Char × List Char :=
  let info := afterLast '@' netloc
  if '[' ∈ info then (before ']' (after '[' info), after ':' (after ']' (after '[' info)))
  else (before ':' info, after ':' info)

/-- `_userinfo`: the user, if there is one. -/
def userInfo (netloc : List Char) : Option (List Char) :=
  if '@' ∈ netloc then some (before ':' (beforeLast '@' netloc)) else none

def passwordInfo (netloc : List Char) : Option (List Char) :=
  if '@' ∈ netloc ∧ ':' ∈ beforeLast '@' netloc then some (after ':' (beforeLast '@' netloc))
  else none

/-- `parsed.hostname`; what follows a `%` keeps its case. -/
def hostname (rules : UrlRules) (netloc : List Char) : Option (List Char) :=
  let host := (hostInfo netloc).1
  if host = [] then none
  else some (rules.lower (before '%' host) ++ host.dropWhile (· ≠ '%'))

def isDigits (text : List Char) : Bool :=
  text ≠ [] && text.all fun c => 48 ≤ c.toNat && c.toNat ≤ 57

/-- `int(text)` of digits. -/
def decimal (text : List Char) : Nat := text.foldl (fun n c => n * 10 + (c.toNat - 48)) 0

/-- `parsed.port`; the outer `none` is `ValueError`. -/
def port (netloc : List Char) : Option (Option Nat) :=
  let text := (hostInfo netloc).2
  if text = [] then some none
  else if isDigits text ∧ decimal text ≤ 65535 then some (some (decimal text))
  else none

/-- The parameters of a query, percent-decoded. -/
def queryItems (rules : UrlRules) (query : List Char) : List (List Char × List Char) :=
  ((query.splitOn '&').filter (· ≠ [])).map fun item =>
    (rules.unquote (before '=' item), rules.unquote (after '=' item))

end Adcp.L1.ConnectionText
