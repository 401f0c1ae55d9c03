import Mathlib.Data.List.DropRight
import Adcp.L1Base.TextLines
import Adcp.L2Domain.Basic
/-!
# Passwords of the protected credential files

A credential file is a raw password, or one entry `host:port:database:role:password` in which a
backslash or a colon is preceded by a backslash. `parsePgpassPassword` drops the blank lines and
the comments, splits the one entry left and checks its first four fields against the binding the
caller expects.

* `splitFields_entry`: the field reader undoes the escapes of all five fields.
* `pgpass_round_trip`: the entry of a password, with any comments around it, parses to that
  password exactly when none of the characters `str.splitlines` breaks at is in the password
  (nor, before an uncommented text, in a comment); an accepted text always re-parses.

The reader breaks the text into lines at ten characters, the check of a password refuses two
of them (and NUL).
-/
namespace Adcp.L5.Postgres

open Adcp.L1.TextLines Adcp.L2

/-! ## Credentials -/

def cleanerDatabase : String := "propertyai_cleaner_prod"
def cleanerDbaRole : String := "propertyai_dba"
def cleanerOwnerRole : String := "propertyai_owner"
def canonicalFlywayLoginRole : String := "propertyai_flyway"
def canonicalFlywayGroupRole : String := "propertyai_migrator"
def stageBLoginRole : String := "propertyai_stage_b_migration"
def cleanerAppLoginRole : String := "propertyai_cleaner_app"
def cleanerWorkerLoginRole : String := "propertyai_cleaner_worker"
def canonicalHost : String := "127.0.0.1"
def canonicalPort : Int := 5432

/-- mirrors src/adcp/postgres_control.py:104-109 -/
inductive CredentialReference where
  | dbaPgpass | flywayPassword | stageBPgpass | appPgpass | workerPgpass
  deriving DecidableEq, Repr

inductive CredentialKind where
  | pgpass | rawPassword
  deriving DecidableEq, Repr

/-- mirrors src/adcp/postgres_control.py:338-371 (`credentials`): the kind and the role of each -/
def CredentialReference.kind : CredentialReference → CredentialKind
  | .flywayPassword => .rawPassword
  | _ => .pgpass

def CredentialReference.role : CredentialReference → String
  | .dbaPgpass => cleanerDbaRole
  | .flywayPassword => canonicalFlywayLoginRole
  | .stageBPgpass => stageBLoginRole
  | .appPgpass => cleanerAppLoginRole
  | .workerPgpass => cleanerWorkerLoginRole

def postgresError (code : String) : PyError := .raised "TypedPostgresError" code

/-! ## The parser -/

/-- mirrors src/adcp/postgres_control.py:646-650 (`_validate_password_text`) -/
def validatePasswordText (value : List Char) : Except PyError (List Char) :=
  let value := value.rdropWhile fun c => c = '\r' || c = '\n'
  if value = [] ∨ '\x00' ∈ value ∨ '\r' ∈ value ∨ '\n' ∈ value then
    .error (postgresError "POSTGRES_PASSWORD_MATERIAL_INVALID")
  else .ok value

/-- The fields read so far, the one being read, and whether a backslash came before. -/
structure Scan where
  fields : List (List Char)
  buf : List Char
  escaped : Bool

def Scan.start : Scan := ⟨[], [], false⟩

def Scan.step (s : Scan) (ch : Char) : Scan :=
  if s.escaped then { s with buf := s.buf ++ [ch], escaped := false }
  else if ch = '\\' then { s with escaped := true }
  else if ch = ':' ∧ s.fields.length < 4 then { s with fields := s.fields ++ [s.buf], buf := [] }
  else { s with buf := s.buf ++ [ch] }

/-- A backslash at the end of the line stands for itself. -/
def Scan.finish (s : Scan) : List (List Char) :=
  s.fields ++ [if s.escaped then s.buf ++ ['\\'] else s.buf]

def splitFields (line : List Char) : List (List Char) := (line.foldl Scan.step Scan.start).finish

/-- The lines that are neither blank nor a comment. -/
def pgpassEntries (text : List Char) : List (List Char) :=
  (splitLines text).filter fun line => line ≠ [] ∧ line.head? ≠ some '#'

/-- mirrors src/adcp/postgres_control.py:609-643 (`_parse_pgpass_password`) -/
def parsePgpassPassword (text expectedHost expectedDatabase expectedRole : List Char)
    (expectedPort : Int) : Except PyError (List Char) :=
  match pgpassEntries text with
  | [line] =>
    match splitFields line with
    | [host, port, database, role, password] =>
      if host ≠ expectedHost ∨ port ≠ (toString expectedPort).toList ∨
          ¬ (database = expectedDatabase ∨ database = ['*']) ∨ role ≠ expectedRole then
        .error (postgresError "POSTGRES_PGPASS_BINDING_MISMATCH")
      else validatePasswordText password
    | _ => .error (postgresError "POSTGRES_PGPASS_FORMAT_INVALID")
  | _ => .error (postgresError "POSTGRES_PGPASS_ENTRY_COUNT_INVALID")

/-- The start of the worker's entry, which is compared unread. -/
def workerPrefix (host : List Char) (port : Int) : List Char :=
  host ++ ':' :: (toString port).toList ++ ':' :: cleanerDatabase.toList ++
    ':' :: cleanerWorkerLoginRole.toList ++ [':']

/-- mirrors src/adcp/postgres_control.py:653-669 (`_password_from_credential`) -/
def passwordFromCredential (host : List Char) (port : Int) (reference : CredentialReference)
    (textValue : Option (List Char)) : Except PyError (List Char) :=
  match textValue with
  | none => .error (postgresError "POSTGRES_PASSWORD_MATERIAL_NOT_LOADED")
  | some text =>
    match reference.kind with
    | .rawPassword => validatePasswordText text
    | .pgpass =>
      if reference = .workerPgpass ∧
          (¬ workerPrefix host port <+: text ∨ (splitLines text).length ≠ 1) then
        .error (postgresError "POSTGRES_WORKER_PGPASS_BINDING_MISMATCH")
      else
        parsePgpassPassword text host cleanerDatabase.toList reference.role.toList port

/-! ## What the entry of a password is -/

/-- What an entry must be bound to. An entry is a line and not a comment. -/
structure Binding where
  host : List Char
  database : List Char
  role : List Char
  port : Int
  host_plain : Plain host
  database_plain : Plain database
  role_plain : Plain role
  host_entry : host.head? ≠ some '#'

/-- A text the check of a password lets through. -/
structure Password where
  text : List Char
  filled : text ≠ []
  no_nul : '\x00' ∉ text
  no_return : '\r' ∉ text
  no_newline : '\n' ∉ text

/-- The characters an entry escapes. -/
def special (c : Char) : Bool := c = '\\' || c = ':'

/-- The first four fields of an entry, escaped, each with the colon after it. -/
def Binding.head (b : Binding) : List Char :=
  escape special b.host ++ ':' :: (escape special (toString b.port).toList ++
    ':' :: (escape special b.database ++ ':' :: (escape special b.role ++ [':'])))

/-- The line `host:port:database:role:password`, every field escaped. -/
def Binding.entry (b : Binding) (password : List Char) : List Char :=
  b.head ++ escape special password

def Binding.parse (b : Binding) (text : List Char) : Except PyError (List Char) :=
  parsePgpassPassword text b.host b.database b.role b.port

inductive LineEnd where
  | lf | crlf
  deriving DecidableEq

def LineEnd.text : LineEnd → List Char
  | .lf => ['\n']
  | .crlf => ['\r', '\n']

/-- A blank line or a comment, with the end of line that parts it from the entry. -/
structure Aside where
  text : List Char
  lineEnd : LineEnd
  ignored : text = [] ∨ text.head? = some '#'
  one_line : '\n' ∉ text ∧ '\r' ∉ text

/-- A file: an entry with lines before and after it. -/
def pgpassFile (before : List Aside) (entry : List Char) (after : List Aside) : List Char :=
  before.flatMap (fun a => a.text ++ a.lineEnd.text) ++ entry ++
    after.flatMap (fun a => a.lineEnd.text ++ a.text)

/-- All the lines `str.splitlines` makes of a blank line or comment are blank or comments. -/
def Aside.Quiet (a : Aside) : Prop := ∀ l ∈ filledLines a.text, l.head? = some '#'

/-! ## Reading an entry -/

theorem scan_escape (text : List Char) : ∀ fields buf,
    (escape special text).foldl Scan.step ⟨fields, buf, false⟩ = ⟨fields, buf ++ text, false⟩ := by
  induction text with
  | nil =>
    intro fields buf
    rw [escape_nil, List.foldl_nil, List.append_nil]
  | cons c text ih =>
    intro fields buf
    rw [escape_cons, List.foldl_append]
    by_cases hc : special c = true
    · have step : ['\\', c].foldl Scan.step ⟨fields, buf, false⟩ =
          ⟨fields, buf ++ [c], false⟩ := by simp [Scan.step]
      rw [if_pos hc, step, ih, List.append_assoc, List.singleton_append]
    · have hne : ¬ c = '\\' ∧ ¬ c = ':' := by
        unfold special at hc
        simpa using hc
      have step : [c].foldl Scan.step ⟨fields, buf, false⟩ = ⟨fields, buf ++ [c], false⟩ := by
        simp [Scan.step, hne]
      rw [if_neg hc, step, ih, List.append_assoc, List.singleton_append]

/-- A colon the line does not escape ends a field, up to the fourth. -/
theorem scan_colon {fields : List (List Char)} (h : fields.length < 4) (buf : List Char) :
    Scan.step ⟨fields, buf, false⟩ ':' = ⟨fields ++ [buf], [], false⟩ := by
  unfold Scan.step
  rw [if_neg Bool.false_ne_true, if_neg (by decide), if_pos ⟨rfl, h⟩]

theorem splitFields_entry (b : Binding) (password : List Char) :
    splitFields (b.entry password) =
      [b.host, (toString b.port).toList, b.database, b.role, password] := by
  unfold splitFields Binding.entry Binding.head Scan.start
  simp only [List.append_assoc, List.cons_append, List.nil_append, List.foldl_append,
    List.foldl_cons, scan_escape]
  rw [scan_colon (by decide), scan_escape, scan_colon (by simp), scan_escape,
    scan_colon (by simp), scan_escape, scan_colon (by simp), scan_escape]
  simp [Scan.finish]

/-- Every character of a field comes from the line, or is the backslash kept at its end. -/
theorem splitFields_mem {line field : List Char} (hf : field ∈ splitFields line) {c : Char}
    (hc : c ∈ field) : c ∈ line ∨ c = '\\' := by
  have scanned : ∀ (xs : List Char) (s : Scan),
      (∀ f ∈ s.fields ++ [s.buf], ∀ c ∈ f, c ∈ line) → (∀ c ∈ xs, c ∈ line) →
      ∀ f ∈ (xs.foldl Scan.step s).fields ++ [(xs.foldl Scan.step s).buf], ∀ c ∈ f, c ∈ line := by
    intro xs
    induction xs with
    | nil => exact fun s hs _ => hs
    | cons x xs ih =>
      intro s hs hxs
      refine ih (s.step x) ?_ fun c hc => hxs c (List.mem_cons_of_mem _ hc)
      have hx : x ∈ line := hxs x List.mem_cons_self
      intro f hf c hc
      unfold Scan.step at hf
      simp only [List.mem_append, List.mem_singleton] at hs hf
      split at hf
      · rcases hf with hf | rfl
        · exact hs f (Or.inl hf) c hc
        · rcases List.mem_append.mp hc with hc | hc
          · exact hs _ (Or.inr rfl) c hc
          · exact List.mem_singleton.mp hc ▸ hx
      · split at hf
        · exact hs f hf c hc
        · split at hf
          · rcases hf with hf | rfl
            · exact hs f (by simpa using hf) c hc
            · exact nomatch hc
          · rcases hf with hf | rfl
            · exact hs f (Or.inl hf) c hc
            · rcases List.mem_append.mp hc with hc | hc
              · exact hs _ (Or.inr rfl) c hc
              · exact List.mem_singleton.mp hc ▸ hx
  have read := scanned line Scan.start (by simp [Scan.start]) fun c hc => hc
  unfold splitFields Scan.finish at hf
  rcases List.mem_append.mp hf with hf | hf
  · exact Or.inl (read field (List.mem_append_left _ hf) c hc)
  · obtain rfl := List.mem_singleton.mp hf
    have buffered := read _ (List.mem_append_right _ (List.mem_singleton.mpr rfl)) c
    split at hc
    · rcases List.mem_append.mp hc with hc | hc
      · exact Or.inl (buffered hc)
      · exact Or.inr (List.mem_singleton.mp hc)
    · exact Or.inl (buffered hc)

/-! ## Lines around an entry -/

theorem isBoundary_not_special {c : Char} (h : isBoundary c = true) : special c = false := by
  unfold special
  by_cases hback : c = '\\'
  · subst hback
    exact absurd h (by decide)
  · by_cases hcolon : c = ':'
    · subst hcolon
      exact absurd h (by decide)
    · simp [hback, hcolon]

theorem port_plain (port : Int) : Plain (toString port).toList := by
  have digits : ∀ n : Nat, Plain (Nat.toDigits 10 n) := by
    intro n c hc
    have hdigit := Nat.isDigit_of_mem_toDigits (by omega) (by omega) hc
    by_contra hb
    rw [Bool.not_eq_false] at hb
    unfold isBoundary at hb
    simp only [Bool.or_eq_true, decide_eq_true_eq] at hb
    rcases hb with ((((((((rfl | rfl) | rfl) | rfl) | rfl) | rfl) | rfl) | rfl) | rfl) | rfl <;>
      exact absurd hdigit (by decide)
  cases port with
  | ofNat n =>
    have : toString (Int.ofNat n) = Nat.repr n := rfl
    rw [this, Nat.toList_repr]
    exact digits n
  | negSucc n =>
    have : (toString (Int.negSucc n)) = "-" ++ Nat.repr (n + 1) := rfl
    rw [this, String.toList_append, Nat.toList_repr]
    exact plain_append.mpr ⟨by decide, digits (n + 1)⟩

theorem head_plain (b : Binding) : Plain b.head := by
  have colon : isBoundary ':' = false := by decide
  unfold Binding.head
  refine plain_append.mpr ⟨escape_plain _ b.host_plain, plain_cons.mpr ⟨colon, ?_⟩⟩
  refine plain_append.mpr ⟨escape_plain _ (port_plain b.port), plain_cons.mpr ⟨colon, ?_⟩⟩
  refine plain_append.mpr ⟨escape_plain _ b.database_plain, plain_cons.mpr ⟨colon, ?_⟩⟩
  exact plain_append.mpr ⟨escape_plain _ b.role_plain, plain_cons.mpr ⟨colon, plain_nil⟩⟩

theorem head_ne_nil (b : Binding) : b.head ≠ [] := by
  unfold Binding.head
  exact List.append_ne_nil_of_right_ne_nil _ (List.cons_ne_nil _ _)

theorem head_entry (b : Binding) : b.head.head? ≠ some '#' := by
  unfold Binding.head
  have hhost := b.host_entry
  cases hb : b.host with
  | nil => simp [escape_nil]
  | cons c host =>
    rw [hb] at hhost
    rw [escape_cons]
    by_cases hc : special c = true
    · rw [if_pos hc]
      simp
    · rw [if_neg hc]
      simpa using hhost

theorem entry_entry (b : Binding) (password : List Char) :
    b.entry password ≠ [] ∧ (b.entry password).head? ≠ some '#' := by
  unfold Binding.entry
  refine ⟨List.append_ne_nil_of_left_ne_nil (head_ne_nil b) _, ?_⟩
  obtain ⟨c, cs, hhead⟩ := List.exists_cons_of_ne_nil (head_ne_nil b)
  have hc := head_entry b
  rw [hhead] at hc ⊢
  exact hc

theorem pgpassEntries_eq (text : List Char) :
    pgpassEntries text = (filledLines text).filter fun l => l.head? ≠ some '#' := by
  unfold pgpassEntries filledLines
  rw [List.filter_filter]
  exact List.filter_congr fun l _ => by simp [Bool.and_comm]

theorem pgpassEntries_append {x y : List Char}
    (hy : ∀ c, y.head? = some c → isBoundary c = true) :
    pgpassEntries (x ++ y) = pgpassEntries x ++ pgpassEntries y := by
  simp only [pgpassEntries_eq, filledLines_append hy, List.filter_append]

/-- The entry of a text without boundaries is one entry. -/
theorem pgpassEntries_entry (b : Binding) {text : List Char} (h : Plain text) :
    pgpassEntries (b.entry text) = [b.entry text] := by
  have hplain : Plain (b.entry text) :=
    plain_append.mpr ⟨head_plain b, escape_plain _ h⟩
  rw [pgpassEntries_eq, filledLines_plain hplain (entry_entry b text).1]
  simp [(entry_entry b text).2]

theorem pgpassEntries_aside (a : Aside) : pgpassEntries a.text = [] ↔ a.Quiet := by
  rw [pgpassEntries_eq, List.filter_eq_nil_iff]
  unfold Aside.Quiet
  simp

theorem lineEnd_head (e : LineEnd) (rest : List Char) :
    ∀ c, (e.text ++ rest).head? = some c → isBoundary c = true := by
  intro c hc
  cases e <;> · simp only [LineEnd.text, List.cons_append, List.head?_cons] at hc
                obtain rfl := Option.some.inj hc
                decide

theorem pgpassEntries_lineEnd (e : LineEnd) (rest : List Char) :
    pgpassEntries (e.text ++ rest) = pgpassEntries rest := by
  simp only [pgpassEntries_eq]
  cases e with
  | lf =>
    have := filledLines_boundary newline_boundary [] rest
    rw [List.nil_append, show filledLines [] = [] from rfl, List.nil_append] at this
    rw [LineEnd.text, List.singleton_append, this]
  | crlf =>
    have hlf := filledLines_boundary newline_boundary [] rest
    have hcr := filledLines_boundary return_boundary [] ('\n' :: rest)
    rw [List.nil_append, show filledLines [] = [] from rfl, List.nil_append] at hlf hcr
    rw [LineEnd.text, List.cons_append, List.singleton_append, hcr, hlf]

theorem pgpassEntries_before (before : List Aside) (rest : List Char) :
    pgpassEntries (before.flatMap (fun a => a.text ++ a.lineEnd.text) ++ rest) =
      before.flatMap (fun a => pgpassEntries a.text) ++ pgpassEntries rest := by
  induction before with
  | nil => rfl
  | cons a before ih =>
    simp only [List.flatMap_cons, List.append_assoc]
    rw [pgpassEntries_append (lineEnd_head _ _), pgpassEntries_lineEnd, ih]

theorem pgpassEntries_after (after : List Aside) :
    pgpassEntries (after.flatMap fun a => a.lineEnd.text ++ a.text) =
      after.flatMap fun a => pgpassEntries a.text := by
  induction after with
  | nil => rfl
  | cons a after ih =>
    have hrest : ∀ c, (after.flatMap fun a => a.lineEnd.text ++ a.text).head? = some c →
        isBoundary c = true := by
      cases after with
      | nil => exact fun c hc => nomatch hc
      | cons a' after =>
        rw [List.flatMap_cons, List.append_assoc]
        exact lineEnd_head _ _
    rw [List.flatMap_cons, List.append_assoc, pgpassEntries_lineEnd, pgpassEntries_append hrest, ih,
      List.flatMap_cons]

theorem pgpassEntries_file (before : List Aside) (entry : List Char) (after : List Aside) :
    pgpassEntries (pgpassFile before entry after) =
      before.flatMap (fun a => pgpassEntries a.text) ++
        (pgpassEntries entry ++ after.flatMap fun a => pgpassEntries a.text) := by
  have hafter : ∀ c, (after.flatMap fun a => a.lineEnd.text ++ a.text).head? = some c →
      isBoundary c = true := by
    cases after with
    | nil => exact fun c hc => nomatch hc
    | cons a after =>
      rw [List.flatMap_cons, List.append_assoc]
      exact lineEnd_head _ _
  unfold pgpassFile
  rw [List.append_assoc, pgpassEntries_before, pgpassEntries_append hafter, pgpassEntries_after]

/-! ## The password of an entry -/

/-- The check of a password lets a text through that has none of the three characters. -/
theorem validatePasswordText_ok {value : List Char} (hne : value ≠ []) (h0 : '\x00' ∉ value)
    (hr : '\r' ∉ value) (hn : '\n' ∉ value) : validatePasswordText value = .ok value := by
  have hstrip : value.rdropWhile (fun c => c = '\r' || c = '\n') = value := by
    rw [List.rdropWhile_eq_self_iff]
    intro hl hlast
    have hmem := List.getLast_mem hl
    simp only [Bool.or_eq_true, decide_eq_true_eq] at hlast
    rcases hlast with hlast | hlast
    · exact hr (hlast ▸ hmem)
    · exact hn (hlast ▸ hmem)
  unfold validatePasswordText
  rw [hstrip]
  simp only
  rw [if_neg (by
    rintro (h | h | h | h)
    · exact hne h
    · exact h0 h
    · exact hr h
    · exact hn h)]

/-- What the check lets through is a password, and a beginning of the text. -/
theorem validatePasswordText_spec {value p : List Char} (h : validatePasswordText value = .ok p) :
    p <+: value ∧ p ≠ [] ∧ '\x00' ∉ p ∧ '\r' ∉ p ∧ '\n' ∉ p := by
  unfold validatePasswordText at h
  simp only at h
  split at h
  · contradiction
  · rename_i hok
    obtain rfl := Except.ok.inj h
    simp only [not_or] at hok
    exact ⟨List.rdropWhile_prefix _ _, hok⟩

/-- A text whose one entry is the entry of a plain text. -/
theorem parse_entry (b : Binding) {text password : List Char}
    (h : pgpassEntries text = [b.entry password]) :
    b.parse text = validatePasswordText password := by
  unfold Binding.parse parsePgpassPassword
  rw [h]
  simp only [splitFields_entry]
  rw [if_neg (by simp)]

/-- An accepted text has one entry, and its password is what the reader makes of it. -/
theorem parse_ok {b : Binding} {text p : List Char} (h : b.parse text = .ok p) :
    ∃ line password, pgpassEntries text = [line] ∧ password ∈ splitFields line ∧
      validatePasswordText password = .ok p := by
  unfold Binding.parse parsePgpassPassword at h
  split at h
  · rename_i line hline
    refine ⟨line, ?_⟩
    split at h
    · rename_i host port database role password hfields
      split at h
      · contradiction
      · exact ⟨password, hline, by rw [hfields]; simp, h⟩
    · contradiction
  · contradiction

/-- The entry of a password is read up to its first boundary. -/
theorem pgpassEntries_password (b : Binding) (password : List Char) :
    Plain password ∨ ∃ y rest, y.length < password.length ∧
      pgpassEntries (b.entry password) = b.entry y :: rest := by
  rcases plain_or_break password with h | ⟨y, d, z, rfl, hy, hd⟩
  · exact Or.inl h
  · refine Or.inr ⟨y, pgpassEntries (d :: escape special z), by simp, ?_⟩
    have hescape : escape special (y ++ d :: z) = escape special y ++ (d :: escape special z) := by
      rw [escape_append, escape_cons, if_neg (by rw [isBoundary_not_special hd]; simp),
        List.singleton_append]
    have hhead : ∀ c, (d :: escape special z).head? = some c → isBoundary c = true := by
      intro c hc
      obtain rfl := Option.some.inj hc
      exact hd
    have hentry : b.entry (y ++ d :: z) = b.entry y ++ (d :: escape special z) := by
      unfold Binding.entry
      rw [hescape, List.append_assoc]
    rw [hentry, pgpassEntries_append hhead, pgpassEntries_entry b hy, List.singleton_append]

/-- The whole file is read as one entry exactly when the lines around it are quiet. -/
theorem aside_entries (asides : List Aside) :
    (asides.flatMap fun a => pgpassEntries a.text) = [] ↔ ∀ a ∈ asides, a.Quiet := by
  rw [List.flatMap_eq_nil_iff]
  constructor
  · intro h a ha
    exact (pgpassEntries_aside a).mp (h a ha)
  · intro h a ha
    exact (pgpassEntries_aside a).mpr (h a ha)

/-- In a file accepted with its password, the entry is the only one. -/
theorem parse_file_ok {b : Binding} {before after : List Aside} {password : Password}
    (h : b.parse (pgpassFile before (b.entry password.text) after) = .ok password.text) :
    Plain password.text ∧ ∀ a ∈ before ++ after, a.Quiet := by
  obtain ⟨line, read, hone, hread, hvalid⟩ := parse_ok h
  rw [pgpassEntries_file] at hone
  -- an entry of the line itself leaves no room for one beside it
  have alone : ∀ y rest, pgpassEntries (b.entry password.text) = b.entry y :: rest →
      (before.flatMap fun a => pgpassEntries a.text) = [] ∧
        (after.flatMap fun a => pgpassEntries a.text) = [] ∧ rest = [] := by
    intro y rest hy
    rw [hy] at hone
    have hlen := congrArg List.length hone
    simp only [List.length_append, List.length_cons, List.length_nil] at hlen
    refine ⟨?_, ?_, ?_⟩ <;> exact List.eq_nil_of_length_eq_zero (by omega)
  rcases pgpassEntries_password b password.text with hplain | ⟨y, rest, hlen, hentries⟩
  · obtain ⟨hbefore, hafter, -⟩ := alone _ [] (pgpassEntries_entry b hplain)
    refine ⟨hplain, fun a ha => ?_⟩
    rcases List.mem_append.mp ha with ha | ha
    · exact (aside_entries before).mp hbefore a ha
    · exact (aside_entries after).mp hafter a ha
  · exfalso
    obtain ⟨hbefore, hafter, rfl⟩ := alone y rest hentries
    have hfile : pgpassEntries (pgpassFile before (b.entry password.text) after) =
        [b.entry y] := by
      rw [pgpassEntries_file, hbefore, hafter, hentries]
      rfl
    rw [parse_entry b hfile] at h
    have hprefix := (validatePasswordText_spec h).1.length_le
    omega

theorem parse_file (b : Binding) {before after : List Aside} {password : Password}
    (hplain : Plain password.text) (hquiet : ∀ a ∈ before ++ after, a.Quiet) :
    b.parse (pgpassFile before (b.entry password.text) after) = .ok password.text := by
  have hb := (aside_entries before).mpr fun a ha => hquiet a (List.mem_append_left _ ha)
  have ha := (aside_entries after).mpr fun a ha => hquiet a (List.mem_append_right _ ha)
  have hone : pgpassEntries (pgpassFile before (b.entry password.text) after) =
      [b.entry password.text] := by
    rw [pgpassEntries_file, hb, ha, pgpassEntries_entry b hplain]
    rfl
  rw [parse_entry b hone]
  exact validatePasswordText_ok password.filled password.no_nul password.no_return
    password.no_newline

/-- What an accepted text yields can be written as an entry again. -/
theorem parse_plain {b : Binding} {text p : List Char} (h : b.parse text = .ok p) : Plain p := by
  obtain ⟨line, password, hone, hpassword, hvalid⟩ := parse_ok h
  have hline : line ∈ filledLines text := by
    have : line ∈ pgpassEntries text := by rw [hone]; exact List.mem_singleton.mpr rfl
    rw [pgpassEntries_eq] at this
    exact List.mem_of_mem_filter this
  intro c hc
  rcases splitFields_mem hpassword ((validatePasswordText_spec hvalid).1.subset hc) with hc | rfl
  · exact filledLines_mem_plain hline c hc
  · decide

/-- **An entry is read back as its password**, whatever comments and blank lines stand around it,
exactly when nothing `str.splitlines` breaks at is in the password and every line it makes of
the comments is one; and an accepted text yields a password whose entry is read back. -/
theorem pgpass_round_trip (b : Binding) (before after : List Aside) (password : Password) :
    (b.parse (pgpassFile before (b.entry password.text) after) = .ok password.text ↔
      Plain password.text ∧ ∀ a ∈ before ++ after, a.Quiet) ∧
    ∀ text p, b.parse text = .ok p → b.parse (b.entry p) = .ok p := by
  refine ⟨⟨parse_file_ok, fun h => parse_file b h.1 h.2⟩, fun text p h => ?_⟩
  obtain ⟨-, hne, h0, hr, hn⟩ : p <+: _ ∧ _ :=
    validatePasswordText_spec (parse_ok h).choose_spec.choose_spec.2.2
  rw [parse_entry b (pgpassEntries_entry b (parse_plain h))]
  exact validatePasswordText_ok hne h0 hr hn

/-! ## The credentials of the policy -/

/-- What the policy expects of the entry of each credential. -/
def CredentialReference.binding (reference : CredentialReference) : Binding where
  host := canonicalHost.toList
  database := cleanerDatabase.toList
  role := reference.role.toList
  port := canonicalPort
  host_plain := by decide
  database_plain := by decide
  role_plain := by cases reference <;> decide
  host_entry := by decide

/-- A password with the line separator U+2028 in it. -/
def separatedPassword : Password where
  text := ['a', '\u2028', 'b']
  filled := by decide
  no_nul := by decide
  no_return := by decide
  no_newline := by decide

/-- As a raw password the text is accepted, its entry is refused as two. -/
theorem pgpass_separated :
    passwordFromCredential canonicalHost.toList canonicalPort .flywayPassword
        (some separatedPassword.text) = .ok separatedPassword.text ∧
      ¬ CredentialReference.appPgpass.binding.parse (pgpassFile []
        (CredentialReference.appPgpass.binding.entry separatedPassword.text) []) =
        .ok separatedPassword.text := by
  decide +kernel

/-- The worker's entry starts with the text that is compared unread. -/
theorem workerPrefix_head (password : List Char) :
    workerPrefix canonicalHost.toList canonicalPort <+:
      CredentialReference.workerPgpass.binding.entry password := by
  have : CredentialReference.workerPgpass.binding.head =
      workerPrefix canonicalHost.toList canonicalPort := by decide +kernel
  unfold Binding.entry
  rw [this]
  exact List.prefix_append _ _

/-- The policy reads the entry of a plain password, the worker's with its further checks. -/
theorem passwordFromCredential_entry {reference : CredentialReference}
    (hkind : reference.kind = .pgpass) {password : Password} (hplain : Plain password.text) :
    passwordFromCredential canonicalHost.toList canonicalPort reference
      (some (reference.binding.entry password.text)) = .ok password.text := by
  have hparse : reference.binding.parse (reference.binding.entry password.text) =
      .ok password.text := by
    rw [parse_entry _ (pgpassEntries_entry _ hplain)]
    exact validatePasswordText_ok password.filled password.no_nul password.no_return
      password.no_newline
  have hentry : Plain (reference.binding.entry password.text) :=
    plain_append.mpr ⟨head_plain _, escape_plain _ hplain⟩
  have hlines : splitLines (reference.binding.entry password.text) =
      [reference.binding.entry password.text] :=
    splitLines_plain hentry (entry_entry _ _).1
  unfold passwordFromCredential
  simp only [hkind]
  rw [if_neg]
  · exact hparse
  · rintro ⟨rfl, hprefix | hlength⟩
    · exact hprefix (workerPrefix_head password.text)
    · exact hlength (by rw [hlines]; rfl)

/-- Whatever credential a password is read from, it is one the check lets through. -/
theorem passwordFromCredential_ok {host : List Char} {port : Int} {reference : CredentialReference}
    {textValue : Option (List Char)} {p : List Char}
    (h : passwordFromCredential host port reference textValue = .ok p) :
    p ≠ [] ∧ '\x00' ∉ p ∧ '\r' ∉ p ∧ '\n' ∉ p := by
  unfold passwordFromCredential at h
  split at h
  · contradiction
  · split at h
    · exact (validatePasswordText_spec h).2
    · split at h
      · contradiction
      · unfold parsePgpassPassword at h
        repeat' split at h
        all_goals first
          | contradiction
          | exact (validatePasswordText_spec h).2

end Adcp.L5.Postgres
