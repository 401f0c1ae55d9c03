import Adcp.L1Base.SqlScript
import Adcp.L3Store.Migrations
/-!
# The scripts of a migration

A migration is a text of SQL statements. SQLite executes one statement at a time, so the text is cut
where a line completes what was collected since the last cut.

* `canonicalSql`, `executeStatements`: the text that is executed, and its execution.
* `executeStatements_eq`: the chunks are executed once each, in order, and a rest is refused.
* `executeStatements_ok`: a script that was executed was executed statement by statement.
* `scripts_split`: what is executed of a script, and which migrations are.
-/
namespace Adcp.L3.Migrations

open Adcp.L1 Adcp.L2 TextLines SqlScript

variable {σ : Type}

/-- `canonical_sql_bytes(sql).decode("utf-8")`.
mirrors src/adcp/store/migrations.py:1791-1793 -/
def canonicalSql (sql : String) : List Char := Client.strip (Client.unixLines sql.toList) ++ ['\n']

/-- The loop of `_execute_statements`; `complete_statement` refuses a NUL.
mirrors src/adcp/store/migrations.py:1854-1860 -/
def executeLines (execute : List Char → Tx PyError σ Unit) (statement : List Char) :
    List (List Char) → Tx PyError σ Unit
  | [] => Tx.require (isBlank statement = true)
      (.store "MIGRATION_INVALID_SQL" "incomplete SQL statement")
  | line :: lines =>
    if '\x00' ∈ statement ++ line then Tx.fail (.raised "ValueError" "embedded null character")
    else if complete (statement ++ line) then do
      execute (statement ++ line)
      executeLines execute [] lines
    else executeLines execute (statement ++ line) lines

/-- `_execute_statements`; `execute` is the connection's.
mirrors src/adcp/store/migrations.py:1852-1860 -/
def executeStatements (execute : List Char → Tx PyError σ Unit) (sql : String) :
    Tx PyError σ Unit := executeLines execute [] (keepLines (canonicalSql sql))

/-- The texts of a list, one after the other. -/
def executeAll (execute : List Char → Tx PyError σ Unit) : List (List Char) → Tx PyError σ Unit
  | [] => pure ()
  | c :: cs => do
    execute c
    executeAll execute cs

/-- `connection.execute` executes one statement: "You can only execute one statement at a time". -/
def OneAtATime (execute : List Char → Tx PyError σ Unit) : Prop :=
  ∀ c s, 1 < ends c → ∃ e, execute c s = .error e

section Execution

variable {execute : List Char → Tx PyError σ Unit} {statement : List Char}
  {lines : List (List Char)}

theorem executeLines_eq (hnul : '\x00' ∉ statement ++ lines.flatten) :
    executeLines execute statement lines =
      executeAll execute (chunks statement lines).1 >>= fun _ =>
        Tx.require (isBlank (chunks statement lines).2 = true)
          (.store "MIGRATION_INVALID_SQL" "incomplete SQL statement") := by
  fun_induction chunks statement lines with
  | case1 statement => rfl
  | case2 statement line lines h ih =>
    rw [List.flatten_cons, ← List.append_assoc] at hnul
    have hline : '\x00' ∉ statement ++ line := fun h => hnul (List.mem_append_left _ h)
    have hrest : '\x00' ∉ [] ++ lines.flatten := fun h => hnul (List.mem_append_right _ h)
    rw [executeLines, if_neg hline, if_pos h, ih hrest]
    funext s
    cases hx : execute (statement ++ line) s with
    | error e =>
      have hall : executeAll execute ((statement ++ line) :: (chunks [] lines).1) s = .error e :=
        Tx.bind_of_error hx
      rw [Tx.bind_of_error hx, Tx.bind_of_error hall]
    | ok p =>
      have hall : executeAll execute ((statement ++ line) :: (chunks [] lines).1) s =
        executeAll execute (chunks [] lines).1 p.2 := Tx.bind_of_ok hx
      rw [Tx.bind_of_ok hx]
      cases hcs : executeAll execute (chunks [] lines).1 p.2 with
      | error e => rw [Tx.bind_of_error hcs, Tx.bind_of_error (hall.trans hcs)]
      | ok q => rw [Tx.bind_of_ok hcs, Tx.bind_of_ok (hall.trans hcs)]
  | case3 statement line lines h ih =>
    rw [List.flatten_cons, ← List.append_assoc] at hnul
    have hline : '\x00' ∉ statement ++ line := fun h => hnul (List.mem_append_left _ h)
    rw [executeLines, if_neg hline, if_neg h, ih hnul]

theorem executeLines_nul (hnul : '\x00' ∈ statement ++ lines.flatten)
    (hstatement : '\x00' ∉ statement) (s : σ) :
    ∃ e, executeLines execute statement lines s = .error e := by
  fun_induction chunks statement lines generalizing s with
  | case1 statement => exact absurd (by simpa using hnul) hstatement
  | case2 statement line lines h ih =>
    rw [executeLines]
    by_cases hline : '\x00' ∈ statement ++ line
    · rw [if_pos hline]
      exact ⟨_, rfl⟩
    · rw [if_neg hline, if_pos h]
      rw [List.flatten_cons, ← List.append_assoc] at hnul
      have hrest := (List.mem_append.mp hnul).resolve_left hline
      cases hx : execute (statement ++ line) s with
      | error e => exact ⟨e, Tx.bind_of_error hx⟩
      | ok p =>
        obtain ⟨e, he⟩ := ih hrest (by simp) p.2
        exact ⟨e, (Tx.bind_of_ok hx).trans he⟩
  | case3 statement line lines h ih =>
    rw [executeLines]
    by_cases hline : '\x00' ∈ statement ++ line
    · rw [if_pos hline]
      exact ⟨_, rfl⟩
    · rw [if_neg hline, if_neg h]
      rw [List.flatten_cons, ← List.append_assoc] at hnul
      exact ih hnul hline s

theorem executeAll_single (hone : OneAtATime execute) {cs : List (List Char)} {s s' : σ}
    (h : executeAll execute cs s = .ok ((), s')) : ∀ c ∈ cs, ends c ≤ 1 := by
  induction cs generalizing s with
  | nil => simp
  | cons c cs ih =>
    rw [executeAll] at h
    obtain ⟨u, t, hx, hrest⟩ := Tx.bind_ok.mp h
    intro d hd
    rcases List.mem_cons.mp hd with rfl | hd
    · apply Nat.le_of_not_lt
      intro hlt
      obtain ⟨e, he⟩ := hone d s hlt
      rw [he] at hx
      cases hx
    · exact ih hrest d hd

end Execution

/-- The text that is executed ends its last line. -/
theorem canonicalSql_lines {sql : String}
    (hplain : ∀ c ∈ canonicalSql sql, isBoundary c = true → c = '\n') :
    ∀ l ∈ keepLines (canonicalSql sql), ∃ body, l = body ++ ['\n'] := by
  refine keepFrom_newline hplain (fun _ => ?_) fun _ => rfl
  unfold canonicalSql
  rw [List.getLast?_append, List.getLast?_singleton, Option.some_or]

/-! ## Which migrations -/

theorem registered_between : ∀ current ≤ 10, ∀ target ≤ 10,
    registered.filter (fun m => current < m.version ∧ (m.version : Int) ≤ ((target : Nat) : Int)) =
      (registered.drop current).take (target - current) := by
  decide +kernel

theorem pendingMigrations_ok {current : Nat} {target : Int} {ms : List Migration} :
    pendingMigrations current target = .ok ms ↔
      (current : Int) ≤ target ∧ target ≤ 10 ∧
        ms = (registered.drop current).take (target.toNat - current) := by
  have hversions : (target ≠ 0 ∧ ∀ m ∈ registered, (m.version : Int) ≠ target) ↔
      target < 0 ∨ 10 < target := by
    simp only [registered, List.forall_mem_cons]
    simp
    omega
  unfold pendingMigrations
  by_cases hneg : target < 0
  · rw [if_pos hneg]
    exact ⟨fun h => (by cases h), fun h => (by omega)⟩
  rw [if_neg hneg]
  by_cases hbig : 10 < target
  · rw [if_pos (hversions.mpr (Or.inr hbig))]
    exact ⟨fun h => (by cases h), fun h => (by omega)⟩
  rw [if_neg fun h => (hversions.mp h).elim hneg hbig]
  by_cases hover : target < current
  · rw [if_pos hover]
    exact ⟨fun h => (by cases h), fun h => (by omega)⟩
  rw [if_neg hover]
  obtain ⟨t, rfl⟩ := Int.eq_ofNat_of_zero_le (Int.not_lt.mp hneg)
  have hfilter := registered_between current (by omega) t (by omega)
  simp only [Int.toNat_natCast] at *
  rw [hfilter]
  constructor
  · intro h
    cases h
    exact ⟨by omega, by omega, rfl⟩
  · rintro ⟨-, -, rfl⟩
    rfl

/-- **Migration scripts are split without loss.** -/
theorem scripts_split (execute : List Char → Tx PyError σ Unit) (sql : String)
    (statements : List (List Char)) (rest : List Char)
    (hcut : chunks [] (keepLines (canonicalSql sql)) = (statements, rest)) :
    statements.flatten ++ rest = canonicalSql sql ∧
    (∀ c ∈ statements, complete c = true) ∧
    ('\x00' ∉ canonicalSql sql → executeStatements execute sql =
      executeAll execute statements >>= fun _ => Tx.require (isBlank rest = true)
        (.store "MIGRATION_INVALID_SQL" "incomplete SQL statement")) ∧
    ('\x00' ∈ canonicalSql sql → ∀ s, ∃ e, executeStatements execute sql s = .error e) ∧
    (OneAtATime execute → ∀ s s', executeStatements execute sql s = .ok ((), s') →
      isBlank rest = true ∧ ∀ c ∈ statements, ends c = 1) ∧
    ((∀ c ∈ canonicalSql sql, isBoundary c = true → c = '\n') →
      (statements.map ends).sum + ends rest = ends (canonicalSql sql)) ∧
    (OnePerLine .fresh (keepLines (canonicalSql sql)) →
      (∀ c ∈ statements, ends c = 1) ∧ ends rest = 0) ∧
    (∀ current target ms, pendingMigrations current target = .ok ms ↔
      (current : Int) ≤ target ∧ target ≤ registered.length ∧
        ms = (registered.drop current).take (target.toNat - current)) := by
  have hflatten := chunks_flatten [] (keepLines (canonicalSql sql))
  have hcomplete := chunks_complete [] (keepLines (canonicalSql sql))
  have hrun : '\x00' ∉ canonicalSql sql → executeStatements execute sql =
      executeAll execute statements >>= fun _ => Tx.require (isBlank rest = true)
        (.store "MIGRATION_INVALID_SQL" "incomplete SQL statement") := by
    intro hnul
    unfold executeStatements
    rw [executeLines_eq (by rwa [keepLines_flatten]), hcut]
  have hnul : '\x00' ∈ canonicalSql sql → ∀ s, ∃ e, executeStatements execute sql s = .error e :=
    fun h s => executeLines_nul (by rwa [keepLines_flatten]) (by simp) s
  rw [hcut, keepLines_flatten, List.nil_append] at hflatten
  rw [hcut] at hcomplete
  refine ⟨hflatten, hcomplete, hrun, hnul, ?_, ?_, ?_, fun _ _ _ => pendingMigrations_ok⟩
  · intro hone s s' hok
    have hclean : '\x00' ∉ canonicalSql sql := fun h => by
      obtain ⟨e, he⟩ := hnul h s
      rw [he] at hok
      cases hok
    rw [hrun hclean] at hok
    obtain ⟨u, t, hall, hblank⟩ := Tx.bind_ok.mp hok
    refine ⟨(Tx.require_ok.mp hblank).1, fun c hc => ?_⟩
    have := executeAll_single hone hall c hc
    have := ends_of_complete (hcomplete c hc)
    omega
  · intro hplain
    have hends := @chunks_ends [] _ (canonicalSql_lines hplain)
    rwa [hcut, keepLines_flatten] at hends
  · intro hlines
    have hbehind : State.Behind 0 (State.fresh.run []) .fresh := ⟨rfl, rfl, Or.inl rfl⟩
    have hsingle := chunks_single (by rfl) hbehind hlines
    rwa [hcut] at hsingle

/-! ## Samples -/

/-- A connection that records what it executes. -/
def recorder (c : List Char) : Tx PyError (List (List Char)) Unit :=
  if 1 < ends c then
    Tx.fail (.raised "ProgrammingError" "You can only execute one statement at a time.")
  else Tx.write (· ++ [c])

theorem recorder_oneAtATime : OneAtATime recorder := by
  intro c s h
  unfold recorder
  rw [if_pos h]
  exact ⟨_, rfl⟩

/-- A trigger whose body, literal and comment hold semicolons. -/
theorem scripts_split_sample :
    executeStatements recorder
        "CREATE TABLE a(x);\nCREATE TRIGGER t AFTER INSERT ON a BEGIN\n SELECT ';'; -- end;\nEND;" =
      executeAll recorder ["CREATE TABLE a(x);\n".toList,
        "CREATE TRIGGER t AFTER INSERT ON a BEGIN\n SELECT ';'; -- end;\nEND;\n".toList] >>= fun _ =>
          Tx.require (isBlank [] = true)
            (.store "MIGRATION_INVALID_SQL" "incomplete SQL statement") := by
  obtain ⟨-, -, hrun, -⟩ := scripts_split recorder
    "CREATE TABLE a(x);\nCREATE TRIGGER t AFTER INSERT ON a BEGIN\n SELECT ';'; -- end;\nEND;"
    ["CREATE TABLE a(x);\n".toList,
      "CREATE TRIGGER t AFTER INSERT ON a BEGIN\n SELECT ';'; -- end;\nEND;\n".toList] []
    (by decide +kernel)
  exact hrun (by decide +kernel)

/-- Two statements share a line: they are handed over as one, and refused. Behind the last statement
a comment is refused too, and the white space in front of the first is not executed. -/
theorem shared_line_refused :
    complete "CREATE TABLE a(x);".toList = true ∧ complete " CREATE TABLE b(x);\n".toList = true ∧
    executeStatements recorder "CREATE TABLE a(x); CREATE TABLE b(x);" [] =
      .error (.raised "ProgrammingError" "You can only execute one statement at a time.") ∧
    executeStatements recorder "CREATE TABLE a(x);\n-- done" [] =
      .error (.store "MIGRATION_INVALID_SQL" "incomplete SQL statement") ∧
    executeStatements recorder "\nCREATE TABLE a(x);" [] =
      .ok ((), ["CREATE TABLE a(x);\n".toList]) := by
  refine ⟨?_, ?_, ?_, ?_, ?_⟩ <;> decide +kernel

end Adcp.L3.Migrations
