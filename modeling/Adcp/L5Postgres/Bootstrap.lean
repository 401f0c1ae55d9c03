import Adcp.L1Base.KeyedRows
import Adcp.L5Postgres.Pgpass
/-!
# The bootstrap state of the database

After the bootstrap SQL has run, its catalog readback decides whether the effect is recorded as
applied: six roles without privileges, two memberships with fixed options, and nothing else.
`bootstrapIsExact` folds the rows of each list into a dictionary and compares that.

* `bootstrapIsExact_iff`: what the comparison says of the rows, for every document.
* `exact_of_decided`: with no row hidden by a later one and no number in a boolean's place, the
  accepted lists are the expected ones up to order.
* `bootstrap_exact`: the check is exact on a document unless it hides a row there.
-/
namespace Adcp.L5.Postgres

open Adcp.L1 Adcp.L2

/-! ## Values of a decoded document -/

/-- What the check reads of a number with a fraction or an exponent, and of a character. -/
structure PyValues where
  /-- The integer the number equals, if there is one. -/
  whole : String → Option Int
  /-- `repr(number)` -/
  floatRepr : String → List Char
  /-- It starts with a digit, a minus sign, `inf` or `nan`. -/
  floatRepr_head : ∀ text, ∃ c ∈ "-0123456789in".toList, (floatRepr text).head? = some c
  /-- `str.isprintable` of one character -/
  printable : Char → Bool

/-- A value a dictionary can be keyed by; `True`, `1` and `1.0` are one key. -/
inductive Scalar where
  | none
  | num (n : Int)
  | float (text : String)
  | str (s : String)
  deriving DecidableEq

variable (py : PyValues)

/-- The key a value is, lists and objects are none. -/
def scalar : Json → Option Scalar
  | .null => some .none
  | .bool b => some (.num (if b then 1 else 0))
  | .int n => some (.num n)
  | .float text => some (match py.whole text with
    | some n => .num n
    | none => .float text)
  | .str s => some (.str s)
  | _ => none

/-- `value == expected`, for an expected text or boolean. -/
def sameScalar (v expected : Json) : Bool := scalar py v = scalar py expected

/-- `bool(value)` -/
def pyBool : Json → Bool
  | .float text => py.whole text ≠ some 0
  | v => truthy v

def hexDigits (width n : Nat) : List Char :=
  (List.range width).reverse.map fun i => Json.hexDigit (n / 16 ^ i % 16)

/-- One character of a text in `repr`. -/
def reprChar (quote c : Char) : List Char :=
  if c = quote ∨ c = '\\' then ['\\', c]
  else if c = '\t' then ['\\', 't']
  else if c = '\n' then ['\\', 'n']
  else if c = '\r' then ['\\', 'r']
  else if py.printable c then [c]
  else if c.toNat ≤ 0xff then '\\' :: 'x' :: hexDigits 2 c.toNat
  else if c.toNat ≤ 0xffff then '\\' :: 'u' :: hexDigits 4 c.toNat
  else '\\' :: 'U' :: hexDigits 8 c.toNat

/-- `repr(text)`: double quotes where the text has single quotes only. -/
def reprStr (s : String) : List Char :=
  let quote := if '\'' ∈ s.toList ∧ '"' ∉ s.toList then '"' else '\''
  quote :: s.toList.flatMap (reprChar py quote) ++ [quote]

def commaSpaced : List (List Char) → List Char
  | [] => []
  | [x] => x
  | x :: y :: rest => x ++ ',' :: ' ' :: commaSpaced (y :: rest)

mutual

def pyRepr : Json → List Char
  | .null => "None".toList
  | .bool b => if b then "True".toList else "False".toList
  | .int n => (toString n).toList
  | .float text => py.floatRepr text
  | .str s => reprStr py s
  | .arr items => '[' :: commaSpaced (pyReprItems items) ++ [']']
  | .obj fields => '{' :: commaSpaced (pyReprFields fields) ++ ['}']

def pyReprItems : List Json → List (List Char)
  | [] => []
  | v :: rest => pyRepr v :: pyReprItems rest

def pyReprFields : List (String × Json) → List (List Char)
  | [] => []
  | (k, v) :: rest => (reprStr py k ++ ':' :: ' ' :: pyRepr v) :: pyReprFields rest

end

/-- `str(value)` -/
def pyStr : Json → List Char
  | .str s => s.toList
  | v => pyRepr py v

/-! ## The check -/

/-- mirrors src/adcp/postgres_control.py:325-332 -/
def canonicalBootstrapRoles : List String :=
  [cleanerOwnerRole, canonicalFlywayGroupRole, canonicalFlywayLoginRole, "propertyai_app_runtime",
    "propertyai_async_worker", "propertyai_readonly"]

/-- One row of the expected roles. -/
structure RoleAttributes where
  role : String
  canLogin : Bool
  inherit : Bool
  superuser : Bool
  createDb : Bool
  createRole : Bool
  replication : Bool
  bypassRls : Bool
  deriving DecidableEq

def RoleAttributes.fields (a : RoleAttributes) : List (String × Json) :=
  [("role", .str a.role), ("can_login", .bool a.canLogin), ("inherit", .bool a.inherit),
    ("superuser", .bool a.superuser), ("create_db", .bool a.createDb),
    ("create_role", .bool a.createRole), ("replication", .bool a.replication),
    ("bypass_rls", .bool a.bypassRls)]

/-- The group role of flyway logs in through its own login role, the only one that may. -/
def expectedRole (role : String) : RoleAttributes where
  role := role
  canLogin := role = canonicalFlywayLoginRole
  inherit := false
  superuser := false
  createDb := false
  createRole := false
  replication := false
  bypassRls := false

/-- `row == expected` on objects -/
def sameRow (row expected : List (String × Json)) : Bool :=
  row.length = expected.length && expected.all fun e =>
    match Json.lookupKey e.1 row with
    | some v => sameScalar py v e.2
    | none => false

/-- The options of a membership: inherit, set, admin, and whether a superuser granted it. -/
abbrev Options := Bool × Bool × Bool × Bool

def expectedMemberships : List ((String × String) × Options) :=
  [((cleanerOwnerRole, canonicalFlywayGroupRole), (false, true, false, true)),
    ((canonicalFlywayGroupRole, canonicalFlywayLoginRole), (false, true, false, true))]

/-- `row.get(key)`, `None` when absent -/
def field (row : List (String × Json)) (key : String) : Json :=
  (Json.lookupKey key row).getD .null

/-- The object rows with their role; a list or an object as a role raises. -/
def actualRoles : List Json → Except PyError (List (Scalar × List (String × Json)))
  | [] => .ok []
  | .obj row :: rest =>
    match scalar py (field row "role") with
    | none => .error (.raised "TypeError" "unhashable type")
    | some role => (actualRoles rest).map fun rows => (role, row) :: rows
  | _ :: rest => actualRoles rest

def membershipKey (row : List (String × Json)) : List Char × List Char :=
  (pyStr py (field row "granted_role"), pyStr py (field row "member_role"))

def membershipOptions (row : List (String × Json)) : Options :=
  (pyBool py (field row "inherit"), pyBool py (field row "set"), pyBool py (field row "admin"),
    pyBool py (field row "grantor_superuser"))

/-- The rows with their names and options, `none` when one is not an object. -/
def actualMemberships : List Json → Option (List ((List Char × List Char) × Options))
  | [] => some []
  | .obj row :: rest =>
    (actualMemberships rest).map fun rows =>
    (membershipKey py row, membershipOptions py row) :: rows
  | _ :: _ => none

/-- mirrors src/adcp/postgres_control.py:1235-1236 -/
def bootstrapIsFresh (state : List (String × Json)) : Bool :=
  field state "schema_owner" matches .null && field state "roles" matches .arr [] &&
    field state "memberships" matches .arr [] && !pyBool py (field state "btree_gist")

/-- The owner of the schema and the extension. -/
def headerExact (state : List (String × Json)) : Bool :=
  sameScalar py (field state "schema_owner") (.str cleanerOwnerRole) &&
    pyBool py (field state "btree_gist")

def expectedRoleRows : List (Scalar × List (String × Json)) :=
  canonicalBootstrapRoles.map fun role => (.str role, (expectedRole role).fields)

def expectedMembershipRows : List ((List Char × List Char) × Options) :=
  expectedMemberships.map fun e => ((e.1.1.toList, e.1.2.toList), e.2)

/-- mirrors src/adcp/postgres_control.py:1239-1274 -/
def bootstrapIsExact (state : List (String × Json)) : Except PyError Bool :=
  if headerExact py state = false then .ok false
  else
    match field state "roles", field state "memberships" with
    | .arr roles, .arr memberships => do
      let actual ← actualRoles py roles
      if KeyedRows.agrees (sameRow py) (KeyedRows.fold actual)
          (KeyedRows.fold expectedRoleRows) = false then return false
      match actualMemberships py memberships with
      | none => return false
      | some rows =>
        return KeyedRows.agrees (fun a b => decide (a = b)) (KeyedRows.fold rows)
          (KeyedRows.fold expectedMembershipRows)
    | _, _ => .ok false

/-! ## What an exact state is -/

/-- A member of an object that is a text. -/
def textOf? (row : List (String × Json)) (key : String) : Option String :=
  (Json.lookupKey key row).bind Json.asStr?

/-- A member of an object that is a boolean. -/
def boolOf? (row : List (String × Json)) (key : String) : Option Bool :=
  match Json.lookupKey key row with
  | some (.bool b) => some b
  | _ => none

/-- A row that says exactly these attributes of a role and nothing else. -/
def RoleAttributes.ofJson? : Json → Option RoleAttributes
  | .obj row =>
    if row.length = 8 then do
      return {
        role := ← textOf? row "role"
        canLogin := ← boolOf? row "can_login"
        inherit := ← boolOf? row "inherit"
        superuser := ← boolOf? row "superuser"
        createDb := ← boolOf? row "create_db"
        createRole := ← boolOf? row "create_role"
        replication := ← boolOf? row "replication"
        bypassRls := ← boolOf? row "bypass_rls" }
    else none
  | _ => none

/-- A row that says exactly these options of a membership. -/
def membershipOf? : Json → Option ((String × String) × Options)
  | .obj row => do
    return ((← textOf? row "granted_role", ← textOf? row "member_role"),
      (← boolOf? row "inherit", ← boolOf? row "set", ← boolOf? row "admin",
        ← boolOf? row "grantor_superuser"))
  | _ => none

/-- **The lists of an exact state**: each expected role once with its attributes, each expected
membership once with its options, in any order, and no row beside them. -/
def ListsExact (state : List (String × Json)) : Prop :=
  ∃ roles memberships, field state "roles" = .arr roles ∧
    field state "memberships" = .arr memberships ∧
    (roles.map RoleAttributes.ofJson?).Perm
      (canonicalBootstrapRoles.map fun role => some (expectedRole role)) ∧
    (memberships.map membershipOf?).Perm (expectedMemberships.map some)

/-- The members of an object row. -/
def rowOf : Json → List (String × Json)
  | .obj row => row
  | _ => []

/-- A number is no text and no boolean. -/
def isNumber : Json → Bool
  | .int _ => true
  | .float _ => true
  | _ => false

/-- **No row is hidden**: every role row is an object, no two role rows have one role, no two
membership rows have one pair of names; and no number stands where a boolean is expected. -/
structure RowsPlain (state : List (String × Json)) : Prop where
  role_rows : ∀ roles, field state "roles" = .arr roles → ∀ v ∈ roles, v = .obj (rowOf v)
  role_once : ∀ roles, field state "roles" = .arr roles →
    (roles.map fun v => scalar py (field (rowOf v) "role")).Nodup
  role_typed : ∀ roles, field state "roles" = .arr roles →
    ∀ v ∈ roles, ∀ p ∈ rowOf v, isNumber p.2 = false
  membership_once : ∀ memberships, field state "memberships" = .arr memberships →
    (memberships.map fun v => membershipKey py (rowOf v)).Nodup
  membership_typed : ∀ memberships, field state "memberships" = .arr memberships →
    ∀ v ∈ memberships, ∀ key ∈ ["inherit", "set", "admin", "grantor_superuser"],
      (boolOf? (rowOf v) key).isSome

/-- **The rows that decide**: every role row and every membership row has an expected name, and
the last row of each name compares equal to the expected one. -/
def Decided (state : List (String × Json)) : Prop :=
  headerExact py state = true ∧ ∃ roles memberships actual rows,
    field state "roles" = .arr roles ∧ field state "memberships" = .arr memberships ∧
    actualRoles py roles = .ok actual ∧ actualMemberships py memberships = some rows ∧
    ((∀ row ∈ actual, row.1 ∈ expectedRoleRows.map Prod.fst) ∧
      ∀ e ∈ expectedRoleRows, ∃ row, KeyedRows.lastValue e.1 actual = some row ∧
        sameRow py row e.2 = true) ∧
    (∀ row ∈ rows, row.1 ∈ expectedMembershipRows.map Prod.fst) ∧
      ∀ e ∈ expectedMembershipRows, KeyedRows.lastValue e.1 rows = some e.2

/-! ## What the check compares -/

theorem expectedRoleRows_nodup : (expectedRoleRows.map Prod.fst).Nodup := by decide

theorem expectedMembershipRows_nodup : (expectedMembershipRows.map Prod.fst).Nodup := by
  decide

/-- **The check looks at the last row of each name.** -/
theorem bootstrapIsExact_iff (state : List (String × Json)) :
    bootstrapIsExact py state = .ok true ↔ Decided py state := by
  unfold bootstrapIsExact Decided
  by_cases hheader : headerExact py state = false
  · rw [if_pos hheader, hheader]
    simp
  · rw [if_neg hheader]
    rw [Bool.not_eq_false] at hheader
    constructor
    · intro h
      split at h
      · rename_i roles memberships hroles hmemberships
        cases hactual : actualRoles py roles with
        | error e =>
          rw [hactual] at h
          cases h
        | ok actual =>
          rw [hactual] at h
          simp only [bind, Except.bind] at h
          split at h
          · cases h
          · rename_i hagrees
            rw [Bool.not_eq_false] at hagrees
            split at h
            · cases h
            · rename_i rows hrows
              have hsame := Except.ok.inj h
              refine ⟨hheader, roles, memberships, actual, rows, hroles, hmemberships, hactual,
                hrows, (KeyedRows.agrees_fold_iff expectedRoleRows_nodup).mp hagrees, ?_⟩
              have := (KeyedRows.agrees_fold_iff expectedMembershipRows_nodup).mp hsame
              simpa using this
      · cases h
    · rintro ⟨-, roles, memberships, actual, rows, hroles, hmemberships, hactual, hrows, hr, hm⟩
      have hagrees := (KeyedRows.agrees_fold_iff expectedRoleRows_nodup).mpr hr
      have hsame : KeyedRows.agrees (fun a b : Options => decide (a = b)) (KeyedRows.fold rows)
          (KeyedRows.fold expectedMembershipRows) = true :=
        (KeyedRows.agrees_fold_iff expectedMembershipRows_nodup).mpr (by simpa using hm)
      rw [hroles, hmemberships]
      simp only [hactual, bind, Except.bind, hagrees, hrows, hsame]
      rfl

/-! ## Rows -/

theorem textOf?_eq_some {row : List (String × Json)} {key s : String} :
    textOf? row key = some s ↔ Json.lookupKey key row = some (.str s) := by
  unfold textOf?
  cases h : Json.lookupKey key row with
  | none => simp
  | some v => cases v <;> simp [Json.asStr?]

theorem boolOf?_eq_some {row : List (String × Json)} {key : String} {b : Bool} :
    boolOf? row key = some b ↔ Json.lookupKey key row = some (.bool b) := by
  unfold boolOf?
  cases h : Json.lookupKey key row with
  | none => simp
  | some v => cases v <;> simp

/-- The strict reading of a role row. -/
theorem ofJson?_eq_some {v : Json} {a : RoleAttributes} :
    RoleAttributes.ofJson? v = some a ↔ v = .obj (rowOf v) ∧ (rowOf v).length = 8 ∧
      ∀ e ∈ a.fields, Json.lookupKey e.1 (rowOf v) = some e.2 := by
  cases v with
  | obj row =>
    simp only [RoleAttributes.ofJson?, rowOf, RoleAttributes.fields]
    by_cases hlen : row.length = 8
    · rw [if_pos hlen]
      simp only [Option.bind_eq_bind, Option.bind_eq_some_iff, textOf?_eq_some,
        boolOf?_eq_some, hlen, List.forall_mem_cons, true_and]
      constructor
      · rintro ⟨role, h1, b2, h2, b3, h3, b4, h4, b5, h5, b6, h6, b7, h7, b8, h8, h⟩
        obtain rfl := Option.some.inj h
        exact ⟨h1, h2, h3, h4, h5, h6, h7, h8, fun _ h => absurd h List.not_mem_nil⟩
      · rintro ⟨h1, h2, h3, h4, h5, h6, h7, h8, -⟩
        exact ⟨_, h1, _, h2, _, h3, _, h4, _, h5, _, h6, _, h7, _, h8, rfl⟩
    · simp [hlen]
  | _ => simp [RoleAttributes.ofJson?, rowOf]

/-- Every value a role row is compared with is a text or a boolean. -/
theorem fields_typed (a : RoleAttributes) {e : String × Json} (he : e ∈ a.fields) :
    (∃ s, e.2 = .str s) ∨ ∃ b, e.2 = .bool b := by
  unfold RoleAttributes.fields at he
  simp only [List.mem_cons, List.not_mem_nil, or_false] at he
  rcases he with rfl | rfl | rfl | rfl | rfl | rfl | rfl | rfl
  · exact Or.inl ⟨_, rfl⟩
  all_goals exact Or.inr ⟨_, rfl⟩

theorem sameScalar_str {v : Json} {s : String} (h : sameScalar py v (.str s) = true) :
    v = .str s := by
  unfold sameScalar at h
  rw [decide_eq_true_eq] at h
  cases v with
  | str t =>
    have := Option.some.inj h
    rw [Scalar.str.inj this]
  | float text =>
    cases hwhole : py.whole text <;> simp [scalar, hwhole] at h
  | _ => simp [scalar] at h

/-- Besides the boolean itself only numbers equal a boolean. -/
theorem sameScalar_bool {v : Json} {b : Bool} (hv : isNumber v = false)
    (h : sameScalar py v (.bool b) = true) : v = .bool b := by
  unfold sameScalar at h
  rw [decide_eq_true_eq] at h
  cases v with
  | bool b' =>
    have hn := Scalar.num.inj (Option.some.inj h)
    cases b <;> cases b' <;> first | rfl | exact absurd hn (by decide)
  | int n => exact nomatch hv
  | float text => exact nomatch hv
  | _ => simp [scalar] at h

theorem lookupKey_mem {key : String} {row : List (String × Json)} {v : Json}
    (h : Json.lookupKey key row = some v) : (key, v) ∈ row := by
  induction row with
  | nil => exact nomatch h
  | cons p rest ih =>
    unfold Json.lookupKey at h
    split at h
    · rename_i heq
      obtain rfl := Option.some.inj h
      rw [← heq]
      exact List.mem_cons_self
    · exact List.mem_cons_of_mem _ (ih h)

theorem sameRow_iff {row expected : List (String × Json)} :
    sameRow py row expected = true ↔ row.length = expected.length ∧
      ∀ e ∈ expected, ∃ v, Json.lookupKey e.1 row = some v ∧ sameScalar py v e.2 = true := by
  unfold sameRow
  rw [Bool.and_eq_true, decide_eq_true_eq, List.all_eq_true]
  refine and_congr_right fun _ => forall₂_congr fun e _ => ?_
  cases h : Json.lookupKey e.1 row with
  | none => simp
  | some v => simp

/-- A row that compares equal and has no number in it says exactly the attributes. -/
theorem ofJson?_of_sameRow {v : Json} {a : RoleAttributes} (hv : v = .obj (rowOf v))
    (htyped : ∀ p ∈ rowOf v, isNumber p.2 = false)
    (h : sameRow py (rowOf v) a.fields = true) : RoleAttributes.ofJson? v = some a := by
  obtain ⟨hlen, hsame⟩ := (sameRow_iff py).mp h
  refine ofJson?_eq_some.mpr ⟨hv, hlen, fun e he => ?_⟩
  obtain ⟨w, hw, hsame⟩ := hsame e he
  rw [hw]
  have hnumber : isNumber w = false := htyped _ (lookupKey_mem hw)
  rcases fields_typed a he with ⟨s, hs⟩ | ⟨b, hb⟩
  · rw [hs] at hsame ⊢
    rw [sameScalar_str py hsame]
  · rw [hb] at hsame ⊢
    rw [sameScalar_bool py hnumber hsame]

theorem sameRow_of_ofJson? {v : Json} {a : RoleAttributes}
    (h : RoleAttributes.ofJson? v = some a) : sameRow py (rowOf v) a.fields = true := by
  obtain ⟨-, hlen, hfields⟩ := ofJson?_eq_some.mp h
  refine (sameRow_iff py).mpr ⟨hlen, fun e he => ⟨e.2, hfields e he, ?_⟩⟩
  unfold sameScalar
  exact decide_eq_true rfl

/-- The role of a row that says the attributes of one. -/
theorem scalar_of_ofJson? {v : Json} {a : RoleAttributes}
    (h : RoleAttributes.ofJson? v = some a) :
    scalar py (field (rowOf v) "role") = some (.str a.role) := by
  obtain ⟨-, -, hfields⟩ := ofJson?_eq_some.mp h
  have hrole := hfields ("role", .str a.role) List.mem_cons_self
  unfold field
  rw [hrole]
  rfl

theorem membershipOf?_eq_some {v : Json} {m : (String × String) × Options} :
    membershipOf? v = some m ↔ v = .obj (rowOf v) ∧
      Json.lookupKey "granted_role" (rowOf v) = some (.str m.1.1) ∧
      Json.lookupKey "member_role" (rowOf v) = some (.str m.1.2) ∧
      Json.lookupKey "inherit" (rowOf v) = some (.bool m.2.1) ∧
      Json.lookupKey "set" (rowOf v) = some (.bool m.2.2.1) ∧
      Json.lookupKey "admin" (rowOf v) = some (.bool m.2.2.2.1) ∧
      Json.lookupKey "grantor_superuser" (rowOf v) = some (.bool m.2.2.2.2) := by
  cases v with
  | obj row =>
    simp only [membershipOf?, rowOf, Option.bind_eq_bind, Option.bind_eq_some_iff, textOf?_eq_some,
      boolOf?_eq_some,
      true_and]
    constructor
    · rintro ⟨g, h1, t, h2, b3, h3, b4, h4, b5, h5, b6, h6, h⟩
      obtain rfl := Option.some.inj h
      exact ⟨h1, h2, h3, h4, h5, h6⟩
    · rintro ⟨h1, h2, h3, h4, h5, h6⟩
      exact ⟨_, h1, _, h2, _, h3, _, h4, _, h5, _, h6, rfl⟩
  | _ => simp [membershipOf?, rowOf]

/-! ## Names -/

theorem toString_int_head (n : Int) : (toString n).toList.head? ≠ some 'p' := by
  cases n with
  | ofNat m =>
    have : toString (Int.ofNat m) = Nat.repr m := rfl
    rw [this, Nat.toList_repr]
    intro hhead
    have hmem : 'p' ∈ Nat.toDigits 10 m := List.mem_of_mem_head? hhead
    exact absurd (Nat.isDigit_of_mem_toDigits (by omega) (by omega) hmem) (by decide)
  | negSucc m =>
    have : toString (Int.negSucc m) = "-" ++ Nat.repr (m + 1) := rfl
    rw [this, String.toList_append]
    simp

/-- What is no text is not written like a role. -/
theorem pyRepr_head {v : Json} (hv : ∀ s, v ≠ .str s) : (pyRepr py v).head? ≠ some 'p' := by
  cases v with
  | null => unfold pyRepr; decide
  | bool b => cases b <;> · unfold pyRepr; decide
  | int n =>
    unfold pyRepr
    exact toString_int_head n
  | float text =>
    obtain ⟨c, hc, hhead⟩ := py.floatRepr_head text
    unfold pyRepr
    rw [hhead]
    intro h
    obtain rfl := Option.some.inj h
    exact absurd hc (by decide)
  | str s => exact absurd rfl (hv s)
  | arr items => simp [pyRepr]
  | obj fields => simp [pyRepr]

/-- A value written like a role is that text. -/
theorem pyStr_eq {v : Json} {s : String} (hs : s.toList.head? = some 'p')
    (h : pyStr py v = s.toList) : v = .str s := by
  by_cases hv : ∃ t, v = .str t
  · obtain ⟨t, rfl⟩ := hv
    unfold pyStr at h
    rw [String.toList_inj.mp h]
  · have hrepr : pyStr py v = pyRepr py v := by
      cases v with
      | str t => exact absurd ⟨t, rfl⟩ hv
      | _ => rfl
    rw [hrepr] at h
    rw [← h] at hs
    exact absurd hs (pyRepr_head py fun t ht => hv ⟨t, ht⟩)

/-! ## The rows of each list -/

def roleKey (v : Json) : Scalar := (scalar py (field (rowOf v) "role")).getD .none

theorem actualRoles_ok {roles : List Json} (hobj : ∀ v ∈ roles, v = .obj (rowOf v)) :
    ∀ {actual}, actualRoles py roles = .ok actual →
      actual = roles.map (fun v => (roleKey py v, rowOf v)) ∧
        ∀ v ∈ roles, scalar py (field (rowOf v) "role") = some (roleKey py v) := by
  induction roles with
  | nil =>
    intro actual h
    exact ⟨(Except.ok.inj h).symm, fun _ h => nomatch h⟩
  | cons v roles ih =>
    intro actual h
    obtain ⟨row, rfl⟩ : ∃ row, v = .obj row := ⟨_, hobj v List.mem_cons_self⟩
    unfold actualRoles at h
    split at h
    · exact nomatch h
    · rename_i role hrole
      cases hrest : actualRoles py roles with
      | error e =>
        rw [hrest] at h
        exact nomatch h
      | ok rest =>
        rw [hrest] at h
        obtain ⟨hmap, hkeys⟩ := ih (fun v hv => hobj v (List.mem_cons_of_mem _ hv)) hrest
        have hkey : roleKey py (.obj row) = role := by
          unfold roleKey rowOf
          rw [hrole, Option.getD_some]
        refine ⟨?_, fun v hv => ?_⟩
        · rw [List.map_cons, hkey, ← hmap]
          exact (Except.ok.inj h).symm
        · rcases List.mem_cons.mp hv with rfl | hv
          · rw [hkey]
            exact hrole
          · exact hkeys v hv

theorem actualRoles_of {roles : List Json} (hobj : ∀ v ∈ roles, v = .obj (rowOf v))
    (hkey : ∀ v ∈ roles, scalar py (field (rowOf v) "role") = some (roleKey py v)) :
    actualRoles py roles = .ok (roles.map fun v => (roleKey py v, rowOf v)) := by
  induction roles with
  | nil => rfl
  | cons v roles ih =>
    have hrow := hkey v List.mem_cons_self
    rw [hobj v List.mem_cons_self] at hrow ⊢
    unfold actualRoles
    rw [show field (rowOf v) "role" = field (rowOf (.obj (rowOf v))) "role" from rfl, hrow,
      ih (fun v hv => hobj v (List.mem_cons_of_mem _ hv))
        fun v hv => hkey v (List.mem_cons_of_mem _ hv)]
    rfl

theorem actualMemberships_iff {memberships : List Json} :
    ∀ {rows}, actualMemberships py memberships = some rows ↔
      (∀ v ∈ memberships, v = .obj (rowOf v)) ∧ rows = memberships.map fun v =>
        (membershipKey py (rowOf v), membershipOptions py (rowOf v)) := by
  induction memberships with
  | nil =>
    intro rows
    unfold actualMemberships
    simp [eq_comm]
  | cons v memberships ih =>
    intro rows
    cases v with
    | obj row =>
      unfold actualMemberships
      rw [Option.map_eq_some_iff]
      constructor
      · rintro ⟨rest, hrest, rfl⟩
        obtain ⟨hobj, rfl⟩ := ih.mp hrest
        exact ⟨List.forall_mem_cons.mpr ⟨rfl, hobj⟩, rfl⟩
      · rintro ⟨hobj, rfl⟩
        exact ⟨_, ih.mpr ⟨(List.forall_mem_cons.mp hobj).2, rfl⟩, rfl⟩
    | _ => simp [actualMemberships, rowOf]

/-- The expected roles by key. -/
def expectedRoles : List (Scalar × RoleAttributes) :=
  canonicalBootstrapRoles.map fun role => (.str role, expectedRole role)

theorem expectedRoleRows_eq :
    expectedRoleRows = expectedRoles.map fun e => (e.1, e.2.fields) := by
  unfold expectedRoleRows expectedRoles
  rw [List.map_map]
  rfl

theorem expectedRoles_key {e : Scalar × RoleAttributes} (he : e ∈ expectedRoles) :
    e.1 = .str e.2.role := by
  obtain ⟨role, -, rfl⟩ := List.mem_map.mp he
  rfl

theorem expectedRoles_keys : expectedRoleRows.map Prod.fst = expectedRoles.map Prod.fst := by
  rw [expectedRoleRows_eq, List.map_map]
  rfl

theorem expectedRoles_nodup : (expectedRoles.map Prod.fst).Nodup := by
  rw [← expectedRoles_keys]
  exact expectedRoleRows_nodup

theorem expectedRoles_values :
    (expectedRoles.map fun e => some e.2) =
      canonicalBootstrapRoles.map fun role => some (expectedRole role) := by
  unfold expectedRoles
  rw [List.map_map]
  rfl

/-- The expected memberships by key. -/
def expectedByName : List ((List Char × List Char) × ((String × String) × Options)) :=
  expectedMemberships.map fun e => ((e.1.1.toList, e.1.2.toList), e)

theorem expectedByName_keys :
    expectedMembershipRows.map Prod.fst = expectedByName.map Prod.fst := by
  unfold expectedMembershipRows expectedByName
  rw [List.map_map, List.map_map]
  rfl

theorem expectedByName_nodup : (expectedByName.map Prod.fst).Nodup := by
  rw [← expectedByName_keys]
  exact expectedMembershipRows_nodup

theorem expectedByName_values :
    (expectedByName.map fun e => some e.2) = expectedMemberships.map some := by
  unfold expectedByName
  rw [List.map_map]
  rfl

/-- Every expected membership is between two roles of the program. -/
theorem expectedByName_spec {e : (List Char × List Char) × ((String × String) × Options)}
    (he : e ∈ expectedByName) : e.1 = (e.2.1.1.toList, e.2.1.2.toList) ∧
      e.2.1.1.toList.head? = some 'p' ∧ e.2.1.2.toList.head? = some 'p' ∧
      (e.1, e.2.2) ∈ expectedMembershipRows := by
  obtain ⟨m, hm, rfl⟩ := List.mem_map.mp he
  refine ⟨rfl, ?_, ?_, List.mem_map_of_mem hm⟩
  · have hall : ∀ m ∈ expectedMemberships, m.1.1.toList.head? = some 'p' := by decide
    exact hall m hm
  · have hall : ∀ m ∈ expectedMemberships, m.1.2.toList.head? = some 'p' := by decide
    exact hall m hm

/-! ## Exactness -/

/-- The role rows of an accepted document, none of them hidden. -/
theorem roles_exact {roles : List Json} {actual : List (Scalar × List (String × Json))}
    (hactual : actualRoles py roles = .ok actual) (hobj : ∀ v ∈ roles, v = .obj (rowOf v))
    (honce : (roles.map fun v => scalar py (field (rowOf v) "role")).Nodup)
    (htyped : ∀ v ∈ roles, ∀ p ∈ rowOf v, isNumber p.2 = false)
    (hdecided : (∀ row ∈ actual, row.1 ∈ expectedRoleRows.map Prod.fst) ∧
      ∀ e ∈ expectedRoleRows, ∃ row, KeyedRows.lastValue e.1 actual = some row ∧
        sameRow py row e.2 = true) :
    (roles.map RoleAttributes.ofJson?).Perm
      (canonicalBootstrapRoles.map fun role => some (expectedRole role)) := by
  obtain ⟨rfl, hkeys⟩ := actualRoles_ok py hobj hactual
  have hnames : (roles.map fun v => (roleKey py v, rowOf v)).map Prod.fst =
      roles.map (roleKey py) := by
    rw [List.map_map]
    rfl
  have hdistinct : (roles.map (roleKey py)).Nodup := by
    have hsome : roles.map (fun v => scalar py (field (rowOf v) "role")) =
        (roles.map (roleKey py)).map some := by
      rw [List.map_map]
      exact List.map_congr_left hkeys
    rw [hsome] at honce
    exact List.Nodup.of_map _ honce
  obtain ⟨hperm, hsame⟩ := (KeyedRows.agrees_fold_perm expectedRoleRows_nodup
    (by rw [hnames]; exact hdistinct)).mp
    ((KeyedRows.agrees_fold_iff expectedRoleRows_nodup).mpr hdecided)
  rw [hnames, expectedRoles_keys] at hperm
  rw [← expectedRoles_values]
  refine KeyedRows.perm_read expectedRoles_nodup hperm fun v hv e he hkey => ?_
  refine ofJson?_of_sameRow py (hobj v hv) (htyped v hv) ?_
  refine hsame (roleKey py v, rowOf v) (List.mem_map_of_mem hv) (e.1, e.2.fields) ?_ hkey
  rw [expectedRoleRows_eq]
  exact List.mem_map_of_mem he

/-- The membership rows of an accepted document, none of them hidden. -/
theorem memberships_exact {memberships : List Json}
    {rows : List ((List Char × List Char) × Options)}
    (hrows : actualMemberships py memberships = some rows)
    (honce : (memberships.map fun v => membershipKey py (rowOf v)).Nodup)
    (htyped : ∀ v ∈ memberships, ∀ key ∈ ["inherit", "set", "admin", "grantor_superuser"],
      (boolOf? (rowOf v) key).isSome)
    (hdecided : (∀ row ∈ rows, row.1 ∈ expectedMembershipRows.map Prod.fst) ∧
      ∀ e ∈ expectedMembershipRows, KeyedRows.lastValue e.1 rows = some e.2) :
    (memberships.map membershipOf?).Perm (expectedMemberships.map some) := by
  obtain ⟨hobj, rfl⟩ := (actualMemberships_iff py).mp hrows
  have hnames : (memberships.map fun v =>
      (membershipKey py (rowOf v), membershipOptions py (rowOf v))).map Prod.fst =
      memberships.map fun v => membershipKey py (rowOf v) := by
    rw [List.map_map]
    rfl
  have hagrees : KeyedRows.agrees (fun a b : Options => decide (a = b)) (KeyedRows.fold
      (memberships.map fun v => (membershipKey py (rowOf v), membershipOptions py (rowOf v))))
      (KeyedRows.fold expectedMembershipRows) = true :=
    (KeyedRows.agrees_fold_iff expectedMembershipRows_nodup).mpr (by simpa using hdecided)
  obtain ⟨hperm, hsame⟩ := (KeyedRows.agrees_fold_perm expectedMembershipRows_nodup
    (by rw [hnames]; exact honce)).mp hagrees
  rw [hnames, expectedByName_keys] at hperm
  rw [← expectedByName_values]
  refine KeyedRows.perm_read expectedByName_nodup hperm fun v hv e he hkey => ?_
  obtain ⟨hname, hgranted, hmember, hexpected⟩ := expectedByName_spec he
  have hoptions := decide_eq_true_eq.mp (hsame _ (List.mem_map_of_mem hv) _ hexpected hkey)
  have option : ∀ key ∈ ["inherit", "set", "admin", "grantor_superuser"],
      Json.lookupKey key (rowOf v) = some (.bool (pyBool py (field (rowOf v) key))) := by
    intro key hmem
    obtain ⟨b, hb⟩ := Option.isSome_iff_exists.mp (htyped v hv key hmem)
    have hlookup := boolOf?_eq_some.mp hb
    unfold field
    rw [hlookup]
    rfl
  have name : ∀ key s, pyStr py (field (rowOf v) key) = s.toList → s.toList.head? = some 'p' →
      Json.lookupKey key (rowOf v) = some (.str s) := by
    intro key s hkey hhead
    have hvalue := pyStr_eq py hhead hkey
    unfold field at hvalue
    cases hlookup : Json.lookupKey key (rowOf v) with
    | none =>
      rw [hlookup] at hvalue
      cases hvalue
    | some w =>
      rw [hlookup, Option.getD_some] at hvalue
      rw [hvalue]
  rw [hname] at hkey
  unfold membershipKey at hkey
  obtain ⟨hg, hm⟩ := Prod.mk.inj hkey
  unfold membershipOptions at hoptions
  refine membershipOf?_eq_some.mpr ⟨hobj v hv, name _ _ hg hgranted, name _ _ hm hmember, ?_⟩
  rw [← hoptions]
  exact ⟨option _ (by decide), option _ (by decide), option _ (by decide), option _ (by decide)⟩

/-- **What is accepted is exact**, in a document that hides no row. -/
theorem exact_of_decided {state : List (String × Json)} (hd : Decided py state)
    (hp : RowsPlain py state) : headerExact py state = true ∧ ListsExact state := by
  obtain ⟨hheader, roles, memberships, actual, rows, hroles, hmemberships, hactual,
    hrows, hr, hm⟩ :=
    hd
  refine ⟨hheader, roles, memberships, hroles, hmemberships, ?_, ?_⟩
  · exact roles_exact py hactual (hp.role_rows roles hroles) (hp.role_once roles hroles)
      (hp.role_typed roles hroles) hr
  · exact memberships_exact py hrows (hp.membership_once memberships hmemberships)
      (hp.membership_typed memberships hmemberships) hm

/-- A member of a row that says the attributes of a role is a text or a boolean. -/
theorem row_typed {v : Json} {a : RoleAttributes} (h : RoleAttributes.ofJson? v = some a) :
    ∀ p ∈ rowOf v, isNumber p.2 = false := by
  obtain ⟨-, hlen, hfields⟩ := ofJson?_eq_some.mp h
  have hsub : a.fields ⊆ rowOf v := fun e he => lookupKey_mem (hfields e he)
  have hdistinct : a.fields.Nodup := by
    have hkeys : (a.fields.map Prod.fst).Nodup := by
      rw [show a.fields.map Prod.fst = ["role", "can_login", "inherit", "superuser", "create_db",
        "create_role", "replication", "bypass_rls"] from rfl]
      decide
    exact List.Nodup.of_map _ hkeys
  -- eight distinct members in a row of eight are all of them
  have hperm : a.fields.Perm (rowOf v) :=
    (List.subperm_of_subset hdistinct hsub).perm_of_length_le (Nat.le_of_eq hlen)
  intro p hp
  rcases fields_typed a (hperm.mem_iff.mpr hp) with ⟨s, hs⟩ | ⟨b, hb⟩
  · rw [hs]
    rfl
  · rw [hb]
    rfl

/-- The role rows of an exact list, with what the check makes of them. -/
theorem roles_decided {roles : List Json} (h : (roles.map RoleAttributes.ofJson?).Perm
    (canonicalBootstrapRoles.map fun role => some (expectedRole role))) :
    (∀ v ∈ roles, v = .obj (rowOf v) ∧ scalar py (field (rowOf v) "role") = some (roleKey py v) ∧
      ∀ p ∈ rowOf v, isNumber p.2 = false) ∧ (roles.map (roleKey py)).Nodup ∧
    KeyedRows.agrees (sameRow py) (KeyedRows.fold (roles.map fun v => (roleKey py v, rowOf v)))
      (KeyedRows.fold expectedRoleRows) = true := by
  rw [← expectedRoles_values] at h
  have hkey : ∀ v a, RoleAttributes.ofJson? v = some a → roleKey py v = .str a.role := by
    intro v a hread
    unfold roleKey
    rw [scalar_of_ofJson? py hread, Option.getD_some]
  have hperm : (roles.map (roleKey py)).Perm (expectedRoles.map Prod.fst) := by
    refine KeyedRows.perm_key (fun a => .str a.role) (fun e he => (expectedRoles_key he).symm) h ?_
    intro v _ e he hread
    rw [hkey v e.2 hread, expectedRoles_key he]
  have hdistinct : (roles.map (roleKey py)).Nodup := hperm.nodup_iff.mpr expectedRoles_nodup
  have hnames : (roles.map fun v => (roleKey py v, rowOf v)).map Prod.fst =
      roles.map (roleKey py) := by
    rw [List.map_map]
    rfl
  have hrow : ∀ v ∈ roles, ∃ e ∈ expectedRoles, RoleAttributes.ofJson? v = some e.2 := by
    intro v hv
    obtain ⟨e, he, heq⟩ := List.mem_map.mp (h.mem_iff.mp (List.mem_map_of_mem hv))
    exact ⟨e, he, heq.symm⟩
  refine ⟨fun v hv => ?_, hdistinct, ?_⟩
  · obtain ⟨e, -, hread⟩ := hrow v hv
    refine ⟨(ofJson?_eq_some.mp hread).1, ?_, row_typed hread⟩
    rw [scalar_of_ofJson? py hread, hkey v e.2 hread]
  · rw [KeyedRows.agrees_fold_perm expectedRoleRows_nodup (by rw [hnames]; exact hdistinct), hnames,
      expectedRoles_keys]
    refine ⟨hperm, fun row hr e he heq => ?_⟩
    obtain ⟨v, hv, rfl⟩ := List.mem_map.mp hr
    rw [expectedRoleRows_eq] at he
    obtain ⟨expected, hexpected, rfl⟩ := List.mem_map.mp he
    obtain ⟨e', he', hread⟩ := hrow v hv
    -- the keys tell the expected rows apart
    have hsame : some e'.2 = some expected.2 := by
      have hlast := KeyedRows.lastValue_of_mem expectedRoles_nodup he'
      have heq' : e'.1 = expected.1 := by
        rw [expectedRoles_key he', ← hkey v e'.2 hread]
        exact heq
      rw [heq'] at hlast
      rw [← hlast]
      exact KeyedRows.lastValue_of_mem expectedRoles_nodup hexpected
    rw [hsame] at hread
    exact sameRow_of_ofJson? py hread

/-- The membership rows of an exact list, with what the check makes of them. -/
theorem memberships_decided {memberships : List Json}
    (h : (memberships.map membershipOf?).Perm (expectedMemberships.map some)) :
    (∀ v ∈ memberships, v = .obj (rowOf v) ∧
      ∀ key ∈ ["inherit", "set", "admin", "grantor_superuser"], (boolOf? (rowOf v) key).isSome) ∧
    (memberships.map fun v => membershipKey py (rowOf v)).Nodup ∧
    KeyedRows.agrees (fun a b : Options => decide (a = b)) (KeyedRows.fold
      (memberships.map fun v => (membershipKey py (rowOf v), membershipOptions py (rowOf v))))
      (KeyedRows.fold expectedMembershipRows) = true := by
  rw [← expectedByName_values] at h
  have hread : ∀ v m, membershipOf? v = some m →
      membershipKey py (rowOf v) = (m.1.1.toList, m.1.2.toList) ∧
        membershipOptions py (rowOf v) = m.2 := by
    intro v m hm
    obtain ⟨-, h1, h2, h3, h4, h5, h6⟩ := membershipOf?_eq_some.mp hm
    unfold membershipKey membershipOptions field
    rw [h1, h2, h3, h4, h5, h6]
    exact ⟨rfl, rfl⟩
  have hperm : (memberships.map fun v => membershipKey py (rowOf v)).Perm
      (expectedByName.map Prod.fst) := by
    refine KeyedRows.perm_key (fun m => (m.1.1.toList, m.1.2.toList))
      (fun e he => (expectedByName_spec he).1.symm) h ?_
    intro v _ e he hm
    rw [(hread v e.2 hm).1, (expectedByName_spec he).1]
  have hdistinct : (memberships.map fun v => membershipKey py (rowOf v)).Nodup :=
    hperm.nodup_iff.mpr expectedByName_nodup
  have hnames : (memberships.map fun v =>
      (membershipKey py (rowOf v), membershipOptions py (rowOf v))).map Prod.fst =
      memberships.map fun v => membershipKey py (rowOf v) := by
    rw [List.map_map]
    rfl
  have hrow : ∀ v ∈ memberships, ∃ e ∈ expectedByName, membershipOf? v = some e.2 := by
    intro v hv
    obtain ⟨e, he, heq⟩ := List.mem_map.mp (h.mem_iff.mp (List.mem_map_of_mem hv))
    exact ⟨e, he, heq.symm⟩
  refine ⟨fun v hv => ?_, hdistinct, ?_⟩
  · obtain ⟨e, -, hm⟩ := hrow v hv
    obtain ⟨hobj, -, -, h3, h4, h5, h6⟩ := membershipOf?_eq_some.mp hm
    refine ⟨hobj, fun key hkey => ?_⟩
    simp only [List.mem_cons, List.not_mem_nil, or_false] at hkey
    rcases hkey with rfl | rfl | rfl | rfl
    · rw [boolOf?_eq_some.mpr h3]
      rfl
    · rw [boolOf?_eq_some.mpr h4]
      rfl
    · rw [boolOf?_eq_some.mpr h5]
      rfl
    · rw [boolOf?_eq_some.mpr h6]
      rfl
  · rw [KeyedRows.agrees_fold_perm expectedMembershipRows_nodup (by rw [hnames]; exact hdistinct),
      hnames, expectedByName_keys]
    refine ⟨hperm, fun row hr e he heq => ?_⟩
    obtain ⟨v, hv, rfl⟩ := List.mem_map.mp hr
    obtain ⟨e', he', hm⟩ := hrow v hv
    obtain ⟨hkey, -, -, hexpected⟩ := expectedByName_spec he'
    have hlast := KeyedRows.lastValue_of_mem expectedMembershipRows_nodup hexpected
    have heq' : e'.1 = e.1 := by
      rw [hkey, ← (hread v e'.2 hm).1]
      exact heq
    rw [heq', KeyedRows.lastValue_of_mem expectedMembershipRows_nodup he] at hlast
    rw [(hread v e'.2 hm).2]
    exact decide_eq_true (Option.some.inj hlast).symm

/-- **What is exact is accepted**, and hides no row. -/
theorem decided_of_exact {state : List (String × Json)} (hheader : headerExact py state = true)
    (h : ListsExact state) : Decided py state ∧ RowsPlain py state := by
  obtain ⟨roles, memberships, hroles, hmemberships, hr, hm⟩ := h
  obtain ⟨hrows, hrdistinct, hragrees⟩ := roles_decided py hr
  obtain ⟨hmrows, hmdistinct, hmagrees⟩ := memberships_decided py hm
  constructor
  · refine ⟨hheader, roles, memberships, _, _, hroles, hmemberships,
      actualRoles_of py (fun v hv => (hrows v hv).1) fun v hv => (hrows v hv).2.1,
      (actualMemberships_iff py).mpr ⟨fun v hv => (hmrows v hv).1, rfl⟩,
      (KeyedRows.agrees_fold_iff expectedRoleRows_nodup).mp hragrees, ?_⟩
    have := (KeyedRows.agrees_fold_iff expectedMembershipRows_nodup).mp hmagrees
    simpa using this
  · have hone : ∀ roles', field state "roles" = .arr roles' → roles' = roles := by
      intro roles' h
      rw [hroles] at h
      exact (Json.arr.inj h).symm
    have hother : ∀ rows', field state "memberships" = .arr rows' → rows' = memberships := by
      intro rows' h
      rw [hmemberships] at h
      exact (Json.arr.inj h).symm
    refine ⟨fun roles' h v hv => ?_, fun roles' h => ?_, fun roles' h v hv => ?_,
      fun rows' h => ?_, fun rows' h v hv => ?_⟩
    · exact (hrows v (hone roles' h ▸ hv)).1
    · rw [hone roles' h]
      have hsome : roles.map (fun v => scalar py (field (rowOf v) "role")) =
          (roles.map (roleKey py)).map some := by
        rw [List.map_map]
        exact List.map_congr_left fun v hv => (hrows v hv).2.1
      rw [hsome]
      exact hrdistinct.map fun _ _ h => Option.some.inj h
    · exact (hrows v (hone roles' h ▸ hv)).2.2
    · rw [hother rows' h]
      exact hmdistinct
    · exact (hmrows v (hother rows' h ▸ hv)).2

/-- **The bootstrap check is exact where no row is hidden.** An exact pair of lists is accepted in
every order. An accepted document is exact unless the rows that decide are the expected ones and
another row is hidden behind them, or a number stands for a boolean. -/
theorem bootstrap_exact (state : List (String × Json)) :
    (headerExact py state = true → ListsExact state → bootstrapIsExact py state = .ok true) ∧
    ((bootstrapIsExact py state = .ok true → ListsExact state) ↔
      (Decided py state → RowsPlain py state)) := by
  rw [bootstrapIsExact_iff]
  refine ⟨fun hheader hexact => (decided_of_exact py hheader hexact).1, fun h hd => ?_,
    fun h hd => (exact_of_decided py hd (h hd)).2⟩
  exact (decided_of_exact py hd.1 (h hd)).2

/-- No state is both fresh and exact: a fresh one has no owner of the schema. -/
theorem fresh_not_exact {state : List (String × Json)} (h : bootstrapIsFresh py state = true) :
    bootstrapIsExact py state = .ok false := by
  unfold bootstrapIsFresh at h
  simp only [Bool.and_eq_true] at h
  obtain ⟨⟨⟨howner, -⟩, -⟩, -⟩ := h
  have hnull : field state "schema_owner" = .null := by
    split at howner
    · assumption
    · contradiction
  have hheader : headerExact py state = false := by
    unfold headerExact
    rw [hnull]
    rfl
  unfold bootstrapIsExact
  rw [if_pos hheader]

/-! ## A hidden grant -/

/-- A reading of numbers for a run: none of them is whole, each is written as its text. -/
def decimalValues : PyValues where
  whole := fun _ => none
  floatRepr := fun text =>
    if ∃ c ∈ "-0123456789in".toList, text.toList.head? = some c then text.toList else "nan".toList
  floatRepr_head := by
    intro text
    split
    · assumption
    · exact ⟨'n', by decide, rfl⟩
  printable := fun c => decide (32 ≤ c.toNat)

def membershipRow (m : (String × String) × Options) : Json :=
  .obj [("granted_role", .str m.1.1), ("member_role", .str m.1.2), ("inherit", .bool m.2.1),
    ("set", .bool m.2.2.1), ("admin", .bool m.2.2.2.1), ("grantor_superuser", .bool m.2.2.2.2)]

/-- The expected state with a second grant of the owner's role, by another grantor, with
`INHERIT` and `ADMIN`, read before the expected one. -/
def hiddenGrant : List (String × Json) :=
  [("schema_owner", .str cleanerOwnerRole), ("btree_gist", .bool true),
    ("roles", .arr (canonicalBootstrapRoles.map fun role => .obj (expectedRole role).fields)),
    ("memberships", .arr
      (membershipRow ((cleanerOwnerRole, canonicalFlywayGroupRole), (true, true, true, false)) ::
        expectedMemberships.map membershipRow))]

theorem hiddenGrant_accepted :
    bootstrapIsExact decimalValues hiddenGrant = .ok true ∧ ¬ ListsExact hiddenGrant := by
  refine ⟨by decide +kernel, ?_⟩
  rintro ⟨roles, memberships, -, hmemberships, -, hperm⟩
  have hlength := hperm.length_eq
  have hrows : memberships.length = 3 := by
    have : field hiddenGrant "memberships" = .arr
        (membershipRow ((cleanerOwnerRole, canonicalFlywayGroupRole), (true, true, true, false)) ::
          expectedMemberships.map membershipRow) := rfl
    rw [this] at hmemberships
    rw [← Json.arr.inj hmemberships]
    rfl
  rw [List.length_map, List.length_map, hrows] at hlength
  exact absurd hlength (by decide)

end Adcp.L5.Postgres
