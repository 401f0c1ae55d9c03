import Adcp.L1Base.ConnectionText
import Adcp.L2Domain.Basic
/-!
# The secret references of the staging database

A reference is a DSN or a Flyway file; the readiness surface parses it and compares what it names
with the one target and the role that are expected.

* `parseDsn`, `parseFlywaySecret`, `targetAndRoleMatch`: the program.
* `Bound`: the text names the target and the role, each once, and no other.
* `reference_sound_iff`: when a reference that is reported as matching is bound.
-/
namespace Adcp.L5.Postgres.SecretReference

open Adcp.L1 Adcp.L2 TextLines ConnectionText

abbrev Text : Type := List Char

/-! ## The program -/

def fixedHost : Text := "127.0.0.1".toList
def fixedPort : Text := "55433".toList
def expectedDatabase : Text := "propertyai_rent_staging".toList

structure Info where
  host : Text
  port : Text
  dbname : Text
  user : Text
  password : Text
  deriving DecidableEq, Repr

abbrev Parse : Type → Type := Except PyError

def raiseValue {α : Type} (detail : String) : Parse α := .error (.raised "ValueError" detail)

def orElse (default : Text) : Option Text → Text
  | some t => t
  | none => default

/-- `str(parsed.port or 5432)` -/
def portText : Option Nat → Text
  | none => "5432".toList
  | some 0 => "5432".toList
  | some n => (Nat.repr n).toList

/-- `urlparse`, with `ValueError` if it refuses. -/
def urlparse (rules : UrlRules) (rest : Text) : Parse UrlParts :=
  match splitUrl rules rest with
  | none => raiseValue "netloc"
  | some parts => .ok parts

/-- `parsed.hostname`, which must be there. -/
def requireHostname (rules : UrlRules) (parts : UrlParts) (detail : String) : Parse Text :=
  match hostname rules parts.netloc with
  | none => raiseValue detail
  | some host => .ok host

def requirePort (parts : UrlParts) : Parse (Option Nat) :=
  match port parts.netloc with
  | none => raiseValue "port"
  | some n => .ok n

/-- A dictionary is the items in the order in which they were set. -/
def itemsOf (key : String) (values : List (Text × Text)) : List Text :=
  (values.filter fun item => item.1 = key.toList).map Prod.snd

/-- `values.get(key)`: what was set last. -/
def get (values : List (Text × Text)) (key : String) : Option Text :=
  (itemsOf key values).getLast?

def postgresPrefix : Text := "postgres://".toList
def postgresqlPrefix : Text := "postgresql://".toList
def jdbcPrefix : Text := "jdbc:postgresql://".toList

/-- What follows the scheme of a URL. -/
def behindScheme (text : Text) : Option Text :=
  if postgresPrefix <+: text then some (text.drop postgresPrefix.length)
  else if postgresqlPrefix <+: text then some (text.drop postgresqlPrefix.length)
  else none

def parseUrl (rules : UrlRules) (rest : Text) : Parse Info := do
  let parts ← urlparse rules rest
  let host ← requireHostname rules parts "DSN_INVALID"
  let n ← requirePort parts
  pure {
    host := host
    port := portText n
    dbname := parts.path.dropWhile (· = '/')
    user := rules.unquote (orElse [] (userInfo parts.netloc))
    password := rules.unquote (orElse [] (passwordInfo parts.netloc)) }

local instance textLawful : LawfulBEq Text := inferInstance

/-- The words of a keyword DSN as settings. -/
def parseWords : List (Text × Text) → List Text → Parse (List (Text × Text))
  | values, [] => .ok values
  | values, token :: rest =>
    if '=' ∉ token then raiseValue "DSN_INVALID"
    else if before '=' token ∈ values.map Prod.fst then raiseValue "DSN_DUPLICATE_KEY"
    else parseWords (values ++ [(before '=' token, after '=' token)]) rest

def lexFault : LexFault → String
  | .noClosingQuotation => "No closing quotation"
  | .noEscapedCharacter => "No escaped character"

/-- The keyword form. -/
def keywordValues (text : Text) : Parse (List (Text × Text)) :=
  match shellWords text with
  | .error f => raiseValue (lexFault f)
  | .ok words => parseWords [] words

def keywordInfo (values : List (Text × Text)) : Info where
  host := orElse [] (get values "host")
  port := orElse "5432".toList (get values "port")
  dbname := orElse (orElse [] (get values "database")) (get values "dbname")
  user := orElse [] (get values "user")
  password := orElse [] (get values "password")

/-- mirrors src/adcp/rent_staging_readiness_surface.py:303-331 -/
def parseDsn (rules : UrlRules) (text : Text) : Parse Info :=
  if text ≠ strip text then raiseValue "DSN_WHITESPACE_INVALID"
  else
    match behindScheme text with
    | some rest => parseUrl rules rest
    | none => keywordInfo <$> keywordValues text

/-- The items of a property file. -/
def propertyItems : List Text → Parse (List (Text × Text))
  | [] => .ok []
  | raw :: rest =>
    if raw = [] ∨ ['#'] <+: raw.dropWhile isSpace then propertyItems rest
    else if '=' ∉ raw then raiseValue "FLYWAY_SECRET_INVALID"
    else do
      let items ← propertyItems rest
      pure ((strip (before '=' raw), strip (after '=' raw)) :: items)

/-- mirrors src/adcp/rent_staging_readiness_surface.py:334-356 -/
def parseFlywaySecret (rules : UrlRules) (text : Text) : Parse Info := do
  let values ← propertyItems (splitLines text)
  let url := orElse [] (get values "flyway.url")
  if jdbcPrefix <+: url then do
    let parts ← urlparse rules (url.drop jdbcPrefix.length)
    let host ← requireHostname rules parts "FLYWAY_URL_INVALID"
    let n ← requirePort parts
    pure {
      host := host
      port := portText n
      dbname := parts.path.dropWhile (· = '/')
      user := orElse [] (get values "flyway.user")
      password := orElse [] (get values "flyway.password") }
  else raiseValue "FLYWAY_URL_INVALID"

def TargetMatch (info : Info) : Prop :=
  info.host = fixedHost ∧ info.port = fixedPort ∧ info.dbname = expectedDatabase

instance (info : Info) : Decidable (TargetMatch info) := inferInstanceAs (Decidable (_ ∧ _))

def yesNo (c : Prop) [Decidable c] : String := if c then "YES" else "NO"

/-- mirrors src/adcp/rent_staging_readiness_surface.py:359-366 -/
def targetAndRoleMatch (info : Info) (expectedRole : Text) : String × String :=
  (yesNo (TargetMatch info), yesNo (info.user = expectedRole))

inductive Reference where
  | flywaySecret
  | web
  | session
  | worker
  deriving DecidableEq, Repr

/-- mirrors src/adcp/rent_staging_readiness_surface.py:42-47 -/
def Reference.role : Reference → Text
  | flywaySecret => "propertyai_flyway".toList
  | web => "propertyai_rent_staging_web".toList
  | session => "propertyai_rent_staging_web".toList
  | worker => "propertyai_rent_staging_worker".toList

def Reference.parse (rules : UrlRules) : Reference → Text → Parse Info
  | flywaySecret => parseFlywaySecret rules
  | _ => parseDsn rules

structure Semantics where
  existsAndPrivate : String
  targetMatch : String
  roleMatch : String
  deriving DecidableEq, Repr

/-- `except (OSError, UnicodeError, ValueError)` -/
def Reported : PyError → Bool
  | .raised name _ => name = "OSError" || name = "UnicodeError" || name = "ValueError"
  | _ => false

/-- The semantics of a reference whose text has been read.
mirrors src/adcp/rent_staging_readiness_surface.py:373-391 -/
def semantics (rules : UrlRules) (reference : Reference) (text : Text) : Parse Semantics :=
  match reference.parse rules text with
  | .ok info =>
    let (target, role) := targetAndRoleMatch info reference.role
    .ok ⟨"YES", target, role⟩
  | .error e => if Reported e then .ok ⟨"NO", "UNKNOWN", "UNKNOWN"⟩ else .error e

/-! ## What a client is told -/

/-- What directs a connection; `other` is any parameter but these four. -/
inductive Key where
  | host
  | port
  | database
  | user
  | other
  deriving DecidableEq, Repr

/-- The parameters of libpq and of the JDBC driver that choose the server, the database or the
role. -/
def directingNames : List (String × Key) := [
  ("host", .host), ("port", .port), ("dbname", .database), ("database", .database),
  ("user", .user), ("hostaddr", .other), ("service", .other), ("options", .other),
  ("PGHOST", .other), ("PGPORT", .other), ("PGDBNAME", .other)]

def directingKey (name : Text) : Option Key :=
  (directingNames.find? fun p => p.1.toList = name).map Prod.snd

/-- The settings that direct a connection. -/
def directing (settings : List (Text × Text)) : List (Key × Text) :=
  settings.filterMap fun s => (directingKey s.1).map (·, s.2)

def hostSettings (rules : UrlRules) (parts : UrlParts) : List (Text × Text) :=
  (hostname rules parts.netloc).toList.map ("host".toList, ·)

def portSettings (parts : UrlParts) : List (Text × Text) :=
  match port parts.netloc with
  | some (some n) => [("port".toList, (Nat.repr n).toList)]
  | _ => []

/-- The database is named behind one slash. -/
def databaseSettings (parts : UrlParts) : List (Text × Text) :=
  if parts.path = [] then [] else [("dbname".toList, parts.path.drop 1)]

def userSettings (rules : UrlRules) (parts : UrlParts) : List (Text × Text) :=
  (userInfo parts.netloc).toList.map fun user => ("user".toList, rules.unquote user)

/-- `[user@]host[:port][/dbname][?parameters]` -/
def urlSettings (rules : UrlRules) (parts : UrlParts) : List (Text × Text) :=
  hostSettings rules parts ++ portSettings parts ++ databaseSettings parts ++
    userSettings rules parts ++ queryItems rules parts.query

def fixedTarget : List (Key × Text) :=
  [(.host, fixedHost), (.port, fixedPort), (.database, expectedDatabase)]

/-- A DSN names the target and the role, each once, and nothing else that directs a connection. -/
def DsnBound (rules : UrlRules) (role text : Text) : Prop :=
  match behindScheme text with
  | some rest => ∃ parts, splitUrl rules rest = some parts ∧
      (directing (urlSettings rules parts)).Perm (fixedTarget ++ [(.user, role)])
  | none => ∃ values, keywordValues text = .ok values ∧
      (directing values).Perm (fixedTarget ++ [(.user, role)])

/-- A Flyway file names the role and a URL, each once, and the URL names the target and no role. -/
def FlywayBound (rules : UrlRules) (role text : Text) : Prop :=
  ∃ values url parts, propertyItems (splitLines text) = .ok values ∧
    itemsOf "flyway.url" values = [url] ∧ itemsOf "flyway.user" values = [role] ∧
    splitUrl rules (url.drop jdbcPrefix.length) = some parts ∧
    (directing (urlSettings rules parts)).Perm fixedTarget

def Bound (rules : UrlRules) (reference : Reference) (text : Text) : Prop :=
  match reference with
  | .flywaySecret => FlywayBound rules reference.role text
  | _ => DsnBound rules reference.role text

/-- The text is read without an error that escapes, and if it is reported as matching, it is
bound. -/
def Sound (rules : UrlRules) (reference : Reference) (text : Text) : Prop :=
  ∃ s, semantics rules reference text = .ok s ∧
    (s = ⟨"YES", "YES", "YES"⟩ → Bound rules reference text)

/-! ## When it is sound -/

/-- The parameters of the URL direct nothing, and one slash stands before the database. -/
def UrlClean (rules : UrlRules) (parts : UrlParts) : Prop :=
  directing (queryItems rules parts.query) = [] ∧
    parts.path.dropWhile (· = '/') = parts.path.drop 1

/-- The four parameters of the target and the role are the only ones that direct, and the database
has one name. -/
def KeywordClean (values : List (Text × Text)) : Prop :=
  (∀ item ∈ values, directingKey item.1 ≠ some .other) ∧
    ¬ ("dbname".toList ∈ values.map Prod.fst ∧ "database".toList ∈ values.map Prod.fst)

def DsnClean (rules : UrlRules) (text : Text) : Prop :=
  match behindScheme text with
  | some rest => ∀ parts, splitUrl rules rest = some parts → UrlClean rules parts
  | none => ∀ values, keywordValues text = .ok values → KeywordClean values

/-- The URL and the user are each set once, and the URL is clean and has no user. -/
def FlywayClean (rules : UrlRules) (text : Text) : Prop :=
  ∀ values, propertyItems (splitLines text) = .ok values →
    (itemsOf "flyway.url" values).length ≤ 1 ∧ (itemsOf "flyway.user" values).length ≤ 1 ∧
    ∀ url ∈ itemsOf "flyway.url" values, ∀ parts,
      splitUrl rules (url.drop jdbcPrefix.length) = some parts →
      UrlClean rules parts ∧ userInfo parts.netloc = none

def Clean (rules : UrlRules) (reference : Reference) (text : Text) : Prop :=
  match reference with
  | .flywaySecret => FlywayClean rules text
  | _ => DsnClean rules text

/-- What the parser gives is the target and the role. -/
def Matches (rules : UrlRules) (reference : Reference) (text : Text) : Prop :=
  ∃ info, reference.parse rules text = .ok info ∧ TargetMatch info ∧ info.user = reference.role

end Adcp.L5.Postgres.SecretReference
