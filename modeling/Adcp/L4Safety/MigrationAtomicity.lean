import Adcp.L1Base.Interleaving
import Adcp.L3Store.MigrationScripts

/-!
# A migration is done as a whole or not at all

What a migration leaves behind if it fails, or is cut short at any call, is what the database is
rolled back to. The engine is arbitrary: which texts it takes and which schemas are valid is its
own; that it has transactions is what is assumed of it.

* `Database`, `Session`: the content and the history, and what an open transaction goes back to;
  `Session.durable` is what another process finds.
* `served`: what the calls do. A refused statement may leave anything in an open transaction, and
  may end it.
* `Engine.Reaches`: the database with the pending migrations applied one after the other.
* `migrate_atomic`: at every point of every run the durable database is the one at the start (with
  the table of the history, if it was blank) or the migrated one, and the migration returns only
  with the second.
* `migrate_composes`: in two parts or in one, the same database.
-/
namespace Adcp.L3.Migrations

open Adcp.L1 Adcp.L2 Script

variable {σ : Type}

/-! ## Databases -/

/-- The objects and their rows, but for `schema_migration`; its rows in the order of their
versions, if there is that table. -/
structure Database (σ : Type) where
  content : σ
  history : Option (List HistoryRow)
  deriving DecidableEq

/-- What is not the program's. The texts of the migrations leave `schema_migration` alone. -/
structure Engine (σ : Type) where
  objects : σ → List (String × String)
  execute : String → σ → Option σ
  valid : Int → Database σ → Prop

def Engine.userObjects (engine : Engine σ) (d : Database σ) : List (String × String) :=
  engine.objects d.content ++ if d.history.isSome then [("table", "schema_migration")] else []

/-- The database of a connection, and the one that its open transaction started with. -/
structure Session (σ : Type) where
  db : Database σ
  saved : Option (Database σ)
  deriving DecidableEq

/-- What a new connection finds. -/
def Session.durable (s : Session σ) : Database σ := s.saved.getD s.db

def insertRow (row : HistoryRow) (rows : List HistoryRow) : List HistoryRow :=
  rows.orderedInsert (fun a b => a.1 ≤ b.1) row

/-- What a call does to a session. -/
def served (engine : Engine σ) (s : Session σ) : (c : MigrationCall) →
    Except PyError (MigrationAnswer c) → Session σ → Prop
  | .userObjects, .ok objects, s' => s' = s ∧ ∀ o, o ∈ objects ↔ o ∈ engine.userObjects s.db
  | .createSchemaMigration, .ok _, s' =>
    s.db.history = none ∧ s' = ⟨⟨s.db.content, some []⟩, s.saved⟩
  | .history, .ok rows, s' => s' = s ∧ s.db.history = some rows
  | .validateSchema version, .ok _, s' => s' = s ∧ engine.valid version s.db
  | .maxVersion, .ok version, s' => s' = s ∧
    ∃ rows, s.db.history = some rows ∧ version = rows.getLast?.map fun r => (r.1 : Int)
  | .beginImmediate, .ok _, s' => s.saved = none ∧ s' = ⟨s.db, some s.db⟩
  | .executeStatements sql, .ok _, s' =>
    ∃ content, engine.execute sql s.db.content = some content ∧
      s' = ⟨⟨content, s.db.history⟩, s.saved⟩
  -- the statements before the refused one have been executed
  | .executeStatements _, .error _, s' => s.saved.isSome → s'.durable = s.durable
  | .insertMigration version name checksum _, .ok _, s' =>
    ∃ rows, s.db.history = some rows ∧ version ∉ rows.map Prod.fst ∧
      s' = ⟨⟨s.db.content, some (insertRow (version, name, checksum) rows)⟩, s.saved⟩
  | .insertMigration .., .error _, s' => s'.durable = s.durable
  | .commit, .ok _, s' => s.saved.isSome ∧ s' = ⟨s.db, none⟩
  | .commit, .error _, s' => s'.durable = s.durable
  | .rollback, .ok _, s' => ∃ d, s.saved = some d ∧ s' = ⟨d, none⟩
  | .rollback, .error _, s' => s'.durable = s.durable
  | _, _, s' => s' = s

/-! ## What a migration comes to -/

def currentVersion (rows : List HistoryRow) : Nat := (rows.getLast?.map Prod.fst).getD 0

/-- The row that the migration is recorded with. -/
def MigrateRequest.row (q : MigrateRequest) (m : Migration) : HistoryRow :=
  (m.version, m.name, migrationChecksum (q.sql m.version))

/-- One migration, executed and recorded. -/
def Engine.step (engine : Engine σ) (q : MigrateRequest) (d : Database σ) (m : Migration) :
    Option (Database σ) := do
  let content ← engine.execute (q.sql m.version) d.content
  let rows ← d.history
  if m.version ∈ rows.map Prod.fst then none
  else some ⟨content, some (insertRow (q.row m) rows)⟩

/-- From a database with a recognized history, by the pending migrations, to a valid one. -/
def Engine.Reaches (engine : Engine σ) (q : MigrateRequest) (d d' : Database σ) : Prop :=
  ∃ rows pending, d.history = some rows ∧ historyRecognized rows = true ∧
    pendingMigrations (currentVersion rows) q.target = .ok pending ∧
    pending.foldlM (engine.step q) d = some d' ∧ engine.valid q.target d'

/-- The database itself or, when there is nothing in it, the one with an empty history. -/
def Engine.Starts (engine : Engine σ) (d start : Database σ) : Prop :=
  start = d ∨ (d.history = none ∧ engine.objects d.content = [] ∧
    start = ⟨d.content, some []⟩)

/-- The durable database is the one at the start, or the migrated one. -/
def Engine.Safe (engine : Engine σ) (q : MigrateRequest) (d : Database σ) (s : Session σ) : Prop :=
  ∃ start, engine.Starts d start ∧ (s.durable = start ∨ engine.Reaches q start s.durable)

variable {engine : Engine σ} {q : MigrateRequest} {d start : Database σ} {s : Session σ}

theorem Engine.Starts.safe (h : engine.Starts d start) (hs : s.durable = start) :
    engine.Safe q d s := ⟨start, h, Or.inl hs⟩

/-! ## Calls that leave the session alone -/

def Still : MigrationCall → Prop
  | .createSchemaMigration | .beginImmediate | .executeStatements _ | .insertMigration ..
  | .commit | .rollback => False
  | _ => True

theorem served_still {c : MigrationCall} {a : Except PyError (MigrationAnswer c)} {s' : Session σ}
    (hc : Still c) (h : served engine s c a s') : s' = s := by
  cases c with
  | userObjects | history | validateSchema | maxVersion =>
    cases a with
    | ok _ => exact h.1
    | error _ => exact h
  | createSchemaMigration | beginImmediate | executeStatements | insertMigration | commit
  | rollback => exact hc.elim
  | _ => exact h

/-- A program of the migration, every call of which finds a safe session. -/
abbrev Migrating (engine : Engine σ) (q : MigrateRequest) (d : Database σ) {α : Type}
    (x : MigrationScript α) (post : Except PyError α → Session σ → Prop) (s : Session σ) : Prop :=
  Meets (served engine) (fun s _ => engine.Safe q d s) x post s

theorem still_meets {α : Type} {x : MigrationScript α} (hx : Within Still x)
    (hs : engine.Safe q d s) : Migrating engine q d x (fun _ s' => s' = s) s := by
  induction x with
  | done r => rfl
  | call c k ih =>
    refine ⟨hs, fun a s' h => ?_⟩
    obtain rfl := served_still hx.1 h
    exact ih a (hx.2 a)

theorem still_ask {c : MigrationCall} (h : Still c) : Within Still (ask c) := within_invoke h

theorem still_readNow (q : MigrateRequest) : Within Still q.readNow := by
  unfold MigrateRequest.readNow
  cases q.now with
  | none => exact still_ask (c := .now) trivial
  | some t => exact within_done _

theorem still_backup (describe : List String → String) (name : BackupName) :
    Within Still (backup describe name) := by
  unfold backup
  refine (still_ask (c := .makeDirectory) trivial).bind fun _ => ?_
  refine (still_ask (c := .connect _) trivial).bind fun _ => ?_
  have hcopy : Within Still (do
      ask (.copyPages (name.text ++ ".tmp"))
      let result ← ask (.integrityCheck (name.text ++ ".tmp"))
      require (result = ["ok"]) (PyError.store "MIGRATION_BACKUP_INVALID" (describe result))) :=
    (still_ask (c := .copyPages _) trivial).bind fun _ =>
      (still_ask (c := .integrityCheck _) trivial).bind fun _ => within_require _ _
  have hensure : Within Still (ensuring (do
      ask (.copyPages (name.text ++ ".tmp"))
      let result ← ask (.integrityCheck (name.text ++ ".tmp"))
      require (result = ["ok"]) (PyError.store "MIGRATION_BACKUP_INVALID" (describe result)))
      (ask (.closeDestination (name.text ++ ".tmp")))) :=
    hcopy.attempt.bind fun _ =>
      (still_ask (c := .closeDestination _) trivial).bind fun _ => within_done _
  refine hensure.attempt.bind fun copied => ?_
  cases copied with
  | error e => exact (still_ask (c := .unlinkMissingOk _) trivial).bind fun _ => within_done _
  | ok _ => exact (still_ask (c := .replace _ _) trivial).bind fun _ => within_done _

theorem still_pruneBackups : Within Still pruneBackups :=
  (still_ask (c := .glob) trivial).bind fun _ =>
    within_each fun _ _ => still_ask (c := .unlink _) trivial

/-! ## Between BEGIN and COMMIT -/

/-- Some of the pending migrations have been applied, in a transaction from `start`. -/
structure Applying (engine : Engine σ) (q : MigrateRequest) (start : Database σ)
    (pending rest : List Migration) (s : Session σ) : Prop where
  saved : s.saved = some start
  applied : ∃ past, pending = past ++ rest ∧ past.foldlM (engine.step q) start = some s.db

variable {pending : List Migration}

theorem Applying.durable {rest : List Migration} (h : Applying engine q start pending rest s) :
    s.durable = start := by
  unfold Session.durable
  rw [h.saved]
  rfl

/-- One migration more, or the transaction is as good as rolled back. -/
theorem step_meets (hstarts : engine.Starts d start) {m : Migration} {rest : List Migration}
    (appliedAt : String) (h : Applying engine q start pending (m :: rest) s) :
    Migrating engine q d (do
      ask (.executeStatements (q.sql m.version))
      ask (.insertMigration m.version m.name (migrationChecksum (q.sql m.version)) appliedAt))
      (fun r s' => match r with
        | .ok _ => Applying engine q start pending rest s'
        | .error _ => s'.durable = start) s := by
  obtain ⟨past, hpending, hfold⟩ := h.applied
  refine meets_bind.mpr (meets_invoke.mpr ⟨hstarts.safe h.durable, fun a s₁ hs₁ => ?_⟩)
  cases a with
  | error e => exact (hs₁ (by rw [h.saved]; rfl)).trans h.durable
  | ok _ =>
    obtain ⟨content, hcontent, rfl⟩ := hs₁
    have hdurable : Session.durable ⟨⟨content, s.db.history⟩, s.saved⟩ = start := h.durable ▸ by
      unfold Session.durable
      rw [h.saved]
      rfl
    have hinsert := @meets_invoke _ _ _ _ (served engine) (fun s _ => engine.Safe q d s)
    refine hinsert.mpr
      ⟨hstarts.safe hdurable, fun a s₂ hs₂ => ?_⟩
    cases a with
    | error e => exact Eq.trans hs₂ hdurable
    | ok _ =>
      obtain ⟨rows, hrows, hfresh, rfl⟩ := hs₂
      refine ⟨h.saved, past ++ [m], by rw [hpending, List.append_assoc]; rfl, ?_⟩
      rw [List.foldlM_append, hfold]
      have hstep : engine.step q s.db m =
          some ⟨content, some (insertRow (q.row m) rows)⟩ := by
        have hhistory : s.db.history = some rows := hrows
        unfold Engine.step
        rw [hcontent, hhistory]
        exact if_neg hfresh
      change (engine.step q s.db m >>= fun d => some d) = _
      rw [hstep]
      rfl

/-- The part under `try`: it commits the migrated database, or what is durable stays. -/
theorem apply_meets (hstarts : engine.Starts d start) {rows : List HistoryRow}
    (hrows : start.history = some rows) (hrecognized : historyRecognized rows = true)
    (hpending : pendingMigrations (currentVersion rows) q.target = .ok pending)
    (h : s = ⟨start, some start⟩) :
    Migrating engine q d (q.apply pending) (fun r s' => match r with
      | .ok _ => s'.saved = none ∧ engine.Reaches q start s'.db
      | .error _ => s'.durable = start) s := by
  subst h
  unfold MigrateRequest.apply
  have hsafe : engine.Safe q d ⟨start, some start⟩ := hstarts.safe rfl
  refine (still_meets (still_readNow q) hsafe).bind (fun now s₁ hs₁ => ?_) fun e s₁ hs₁ => ?_
  · subst hs₁
    have hnone : Applying engine q start pending pending ⟨start, some start⟩ :=
      ⟨rfl, [], rfl, rfl⟩
    have heach := @Meets.each _ _ _ _ _ (served engine) (fun s _ => engine.Safe q d s) _
      (fun m => do
        ask (.executeStatements (q.sql m.version))
        ask (.insertMigration m.version m.name (migrationChecksum (q.sql m.version))
          now.isoformat)) pending (Applying engine q start pending)
      (fun _ s => s.durable = start) hnone fun m rest s h =>
        (step_meets hstarts now.isoformat h).mono fun r s' hr => by
          cases r with
          | ok _ => exact hr
          | error _ => exact hr
    refine heach.bind (fun _ s₂ h₂ => ?_) fun _ _ he => he
    obtain ⟨past, hpast, hfold⟩ := h₂.applied
    rw [List.append_nil] at hpast
    subst hpast
    refine (still_meets (still_ask (c := .maxVersion) trivial) (hstarts.safe h₂.durable)).bind
      (fun actual s₃ hs₃ => ?_) fun e s₃ hs₃ => hs₃ ▸ h₂.durable
    subst hs₃
    refine (still_meets (within_require _ _) (hstarts.safe h₂.durable)).bind
      (fun _ s₃ hs₃ => ?_) fun e s₃ hs₃ => hs₃ ▸ h₂.durable
    subst hs₃
    refine meets_bind.mpr (meets_invoke.mpr ⟨hstarts.safe h₂.durable, fun a s₄ hs₄ => ?_⟩)
    cases a with
    | error e =>
      obtain rfl : s₄ = s₃ := hs₄
      exact h₂.durable
    | ok _ =>
      obtain ⟨rfl, hvalid⟩ := hs₄
      have hcommit := @meets_invoke _ _ _ _ (served engine) (fun s _ => engine.Safe q d s)
      refine hcommit.mpr ⟨hstarts.safe h₂.durable, fun a s₅ hs₅ => ?_⟩
      cases a with
      | error e => exact Eq.trans hs₅ h₂.durable
      | ok _ =>
        obtain ⟨-, rfl⟩ := hs₅
        exact ⟨rfl, rows, pending, hrows, hrecognized, hpending, hfold, hvalid⟩
  · subst hs₁
    rfl

/-! ## The whole migration -/

/-- How a migration ends: what is durable is safe, and it returns outside of a transaction and
with the migrated database. -/
def Ended (engine : Engine σ) (q : MigrateRequest) (d : Database σ)
    (r : Except PyError MigrationResult) (s : Session σ) : Prop :=
  engine.Safe q d s ∧ ∀ result, r = .ok result → s.saved = none ∧
    ∃ start, engine.Starts d start ∧ engine.Reaches q start s.db

theorem ended_error {e : PyError} (h : engine.Safe q d s) : Ended engine q d (.error e) s :=
  ⟨h, fun _ hr => (nomatch hr)⟩

theorem ended_ok {result : MigrationResult} (hstarts : engine.Starts d start)
    (hsaved : s.saved = none) (h : engine.Reaches q start s.db) :
    Ended engine q d (.ok result) s := by
  have hdurable : s.durable = s.db := by
    unfold Session.durable
    rw [hsaved]
    rfl
  exact ⟨⟨start, hstarts, Or.inr (hdurable ▸ h)⟩, fun _ _ => ⟨hsaved, start, hstarts, h⟩⟩

theorem migrateFrom_atomic (describe : List String → String) (bootstrapCreated : Bool)
    (current : Nat) (first : Migration) (rest : List Migration)
    (hstarts : engine.Starts d start) {rows : List HistoryRow}
    (hrows : start.history = some rows) (hrecognized : historyRecognized rows = true)
    (hpending : pendingMigrations (currentVersion rows) q.target = .ok (first :: rest)) :
    Migrating engine q d (q.migrateFrom describe bootstrapCreated current first rest)
      (Ended engine q d) ⟨start, none⟩ := by
  have hsafe : engine.Safe q d ⟨start, none⟩ := hstarts.safe rfl
  have hrest (backupPath : Option String)
      {finish : Except PyError Unit → MigrationScript MigrationResult}
      (herror : ∀ e, finish (.error e) = do
        ask .rollback
        fail e)
      (hok : finish (.ok ()) = do
        (if q.backupRoot = true then pruneBackups else pure ())
        pure ⟨current, q.target, true, backupPath⟩) :
      Migrating engine q d (do
        ask .beginImmediate
        let r ← attempt (q.apply (first :: rest))
        finish r) (Ended engine q d) ⟨start, none⟩ := by
    refine meets_bind.mpr (meets_invoke.mpr ⟨hsafe, fun a s₁ hs₁ => ?_⟩)
    cases a with
    | error e =>
      obtain rfl : s₁ = ⟨start, none⟩ := hs₁
      exact ended_error hsafe
    | ok _ =>
      obtain ⟨-, rfl⟩ := hs₁
      refine (apply_meets hstarts hrows hrecognized hpending rfl).attemptBind fun r s₂ h₂ => ?_
      cases r with
      | error e =>
        have h₂ : s₂.durable = start := h₂
        rw [herror]
        refine meets_bind.mpr (meets_invoke.mpr ⟨hstarts.safe h₂, fun a s₃ hs₃ => ?_⟩)
        cases a with
        | error e' => exact ended_error (hstarts.safe (Eq.trans hs₃ h₂))
        | ok _ =>
          obtain ⟨saved, hsaved, rfl⟩ := hs₃
          unfold Session.durable at h₂
          rw [hsaved] at h₂
          exact ended_error (hstarts.safe h₂)
      | ok _ =>
        obtain ⟨hsaved, hreaches⟩ := h₂
        have hended : Ended engine q d (.ok ⟨current, q.target, true, backupPath⟩) s₂ :=
          ended_ok hstarts hsaved hreaches
        rw [hok]
        -- the files are pruned after the commit, and that may fail
        have hprune : Within Still (if q.backupRoot = true then pruneBackups else pure ()) := by
          split_ifs
          · exact still_pruneBackups
          · exact within_done _
        refine (still_meets hprune hended.1).bind (fun _ s₃ hs₃ => ?_) fun e s₃ hs₃ => ?_
        · exact hs₃ ▸ hended
        · exact ended_error (hs₃ ▸ hended.1)
  unfold MigrateRequest.migrateFrom
  by_cases hbackup : bootstrapCreated = false ∧ q.backupRoot = true
  · rw [if_pos hbackup]
    refine (still_meets (still_readNow q) hsafe).bind (fun now s₁ hs₁ => ?_) fun e s₁ hs₁ => ?_
    · subst hs₁
      refine meets_bind.mpr (meets_bind.mpr ?_)
      refine (still_meets (still_backup describe _) hsafe).mono fun r s₂ hs₂ => ?_
      subst hs₂
      cases r with
      | error e => exact ended_error hsafe
      | ok target => exact hrest (some target) (fun _ => rfl) rfl
    · exact ended_error (hs₁ ▸ hsafe)
  · rw [if_neg hbackup]
    exact hrest none (fun _ => rfl) rfl

theorem recognized_meets : Migrating engine q d recognizedObjects (fun r s => match r with
    | .ok _ => ∃ start, engine.Starts d start ∧ s = ⟨start, none⟩
    | .error _ => engine.Safe q d s) ⟨d, none⟩ := by
  have hself : engine.Starts d d := Or.inl rfl
  have hsafe : engine.Safe q d ⟨d, none⟩ := hself.safe rfl
  unfold recognizedObjects
  refine meets_bind.mpr (meets_invoke.mpr ⟨hsafe, fun a s₁ hs₁ => ?_⟩)
  cases a with
  | error e =>
    obtain rfl : s₁ = ⟨d, none⟩ := hs₁
    exact hsafe
  | ok objects =>
    obtain ⟨rfl, hobjects⟩ := hs₁
    dsimp only [After]
    split_ifs with hempty
    · refine meets_bind.mpr (meets_invoke.mpr ⟨hsafe, fun a s₂ hs₂ => ?_⟩)
      cases a with
      | error e =>
        obtain rfl : s₂ = ⟨d, none⟩ := hs₂
        exact hsafe
      | ok _ =>
        obtain ⟨hnone, rfl⟩ := hs₂
        have hblank : engine.objects d.content = [] := by
          apply List.eq_nil_iff_forall_not_mem.mpr
          intro o ho
          have hmem := (hobjects o).mpr (List.mem_append_left _ ho)
          rw [hempty] at hmem
          cases hmem
        have hstarts : engine.Starts d ⟨d.content, some []⟩ := Or.inr ⟨hnone, hblank, rfl⟩
        refine (still_meets (still_ask (c := .userObjects) trivial) (hstarts.safe rfl)).bind
          (fun _ s₃ hs₃ => ⟨_, hstarts, hs₃⟩) fun _ s₃ hs₃ => hs₃ ▸ hstarts.safe rfl
    · refine (still_meets (within_require _ _) hsafe).bind
        (fun _ s₂ hs₂ => ⟨d, hself, hs₂⟩) fun _ s₂ hs₂ => hs₂ ▸ hsafe

theorem migrate_ended (describe : List String → String) :
    Migrating engine q d (q.migrate describe) (Ended engine q d) ⟨d, none⟩ := by
  unfold MigrateRequest.migrate
  refine recognized_meets.bind (fun found s₁ h₁ => ?_) fun e s₁ h₁ => ended_error h₁
  obtain ⟨start, hstarts, rfl⟩ := h₁
  obtain ⟨bootstrapCreated, objects⟩ := found
  have hsafe : engine.Safe q d ⟨start, none⟩ := hstarts.safe rfl
  refine meets_bind.mpr (meets_invoke.mpr ⟨hsafe, fun a s₂ hs₂ => ?_⟩)
  cases a with
  | error e =>
    obtain rfl : s₂ = ⟨start, none⟩ := hs₂
    exact ended_error hsafe
  | ok rows =>
    obtain ⟨rfl, hrows⟩ := hs₂
    refine meets_bind.mpr (meets_require.mpr ⟨fun _ => ?_, fun _ => ended_error hsafe⟩)
    refine meets_bind.mpr (meets_require.mpr ⟨fun hrecognized => ?_, fun _ => ended_error hsafe⟩)
    refine meets_bind.mpr (meets_lift.mpr ?_)
    cases hpending : pendingMigrations (currentVersion rows) q.target with
    | error e =>
      unfold currentVersion at hpending
      rw [hpending]
      exact ended_error hsafe
    | ok pending =>
      have hfound := hpending
      unfold currentVersion at hfound
      rw [hfound]
      dsimp only [After]
      split_ifs with hcurrent
      · refine meets_bind.mpr (meets_invoke.mpr ⟨hsafe, fun a s₃ hs₃ => ?_⟩)
        cases a with
        | error e =>
          obtain rfl : s₃ = ⟨start, none⟩ := hs₃
          exact ended_error hsafe
        | ok _ =>
          obtain ⟨rfl, hvalid⟩ := hs₃
          -- nothing is pending at the target
          obtain ⟨-, -, hnone⟩ := pendingMigrations_ok.mp hpending
          have hempty : pending = [] := by
            rw [hnone]
            have hzero : q.target.toNat - currentVersion rows = 0 := by
              unfold currentVersion
              omega
            rw [hzero, List.take_zero]
          subst hempty
          exact ended_ok hstarts rfl ⟨rows, [], hrows, hrecognized, hpending, rfl, hvalid⟩
      · refine meets_bind.mpr (meets_require.mpr ⟨fun _ => ?_, fun _ => ended_error hsafe⟩)
        cases pending with
        | nil => exact ended_error hsafe
        | cons first rest =>
          exact migrateFrom_atomic describe bootstrapCreated _ first rest hstarts hrows hrecognized
            hpending

/-! ## The history -/

/-- Versions from the first on. -/
def versions (n : Nat) : List Nat := (List.range n).map (· + 1)

theorem recognized_versions {rows : List HistoryRow} (h : historyRecognized rows = true) :
    rows.map Prod.fst = versions rows.length := (of_decide_eq_true h).1

theorem versions_getLast? (n : Nat) : ((versions n).getLast?).getD 0 = n := by
  cases n with
  | zero => rfl
  | succ n =>
    unfold versions
    rw [List.range_succ, List.map_append]
    simp

theorem currentVersion_eq {rows : List HistoryRow} (h : rows.map Prod.fst = versions rows.length) :
    currentVersion rows = rows.length := by
  unfold currentVersion
  rw [← List.getLast?_map, h]
  exact versions_getLast? _

theorem versions_pending : ∀ current ≤ 10, ∀ target ≤ 10, current ≤ target →
    versions current ++ (((registered.drop current).take (target - current)).map (·.version)) =
      versions target := by
  decide +kernel

theorem versions_pairwise (n : Nat) : (versions n).Pairwise (· < ·) :=
  List.pairwise_lt_range.map _ fun _ _ h => Nat.succ_lt_succ h

theorem insertRow_last {row : HistoryRow} {rows : List HistoryRow}
    (h : ∀ r ∈ rows, r.1 < row.1) : insertRow row rows = rows ++ [row] := by
  unfold insertRow
  induction rows with
  | nil => rfl
  | cons first rest ih =>
    have hfirst := h first List.mem_cons_self
    rw [List.orderedInsert_cons, if_neg (Nat.not_le.mpr hfirst),
      ih fun r hr => h r (List.mem_cons_of_mem _ hr)]
    rfl

/-- Migrations of ever greater versions are recorded behind the rows there were. -/
theorem fold_history {rows : List HistoryRow} {d' : Database σ} (hrows : d.history = some rows)
    (hsorted : (rows.map Prod.fst ++ pending.map (·.version)).Pairwise (· < ·))
    (h : pending.foldlM (engine.step q) d = some d') :
    d'.history = some (rows ++ pending.map q.row) := by
  induction pending generalizing d rows with
  | nil =>
    cases h
    rw [List.map_nil, List.append_nil]
    exact hrows
  | cons m pending ih =>
    rw [List.foldlM_cons] at h
    obtain ⟨d₁, hstep, h⟩ := Option.bind_eq_some_iff.mp h
    have hrow : d₁.history = some (rows ++ [q.row m]) := by
      unfold Engine.step at hstep
      obtain ⟨content, -, hstep⟩ := Option.bind_eq_some_iff.mp hstep
      obtain ⟨rows', hrows', hstep⟩ := Option.bind_eq_some_iff.mp hstep
      obtain rfl : rows = rows' := Option.some.inj (hrows.symm.trans hrows')
      split_ifs at hstep
      cases hstep
      refine congrArg some (insertRow_last fun r hr => ?_)
      exact (List.pairwise_append.mp hsorted).2.2 r.1 (List.mem_map_of_mem hr) m.version
        List.mem_cons_self
    rw [List.map_cons, ← List.singleton_append, ← List.append_assoc]
    refine ih hrow ?_ h
    rw [List.map_append, List.append_assoc]
    exact hsorted

/-- A migrated database has the versions up to the target, the recognized rows first. -/
theorem Engine.Reaches.history {d' : Database σ} (h : engine.Reaches q start d') :
    ∃ rows new, start.history = some rows ∧ historyRecognized rows = true ∧
      d'.history = some (rows ++ new) ∧ (rows ++ new).map Prod.fst = versions q.target.toNat ∧
      (rows.length : Int) ≤ q.target ∧ q.target ≤ 10 ∧
      ((registered.drop rows.length).take (q.target.toNat - rows.length)).foldlM (engine.step q)
        start = some d' ∧ engine.valid q.target d' := by
  obtain ⟨rows, pending, hrows, hrecognized, hpending, hfold, hvalid⟩ := h
  have hversions := recognized_versions hrecognized
  obtain ⟨hle, hmax, rfl⟩ := pendingMigrations_ok.mp hpending
  rw [currentVersion_eq hversions] at hle hfold
  have hall : rows.map Prod.fst ++ (((registered.drop rows.length).take
      (q.target.toNat - rows.length)).map (·.version)) = versions q.target.toNat := by
    rw [hversions]
    exact versions_pending rows.length (by omega) q.target.toNat (by omega) (by omega)
  have hhistory := fold_history hrows (hall ▸ versions_pairwise _) hfold
  refine ⟨rows, _, hrows, hrecognized, hhistory, ?_, hle, hmax, hfold, hvalid⟩
  rw [List.map_append, ← hall, List.map_map]
  rfl

/-- A database that the program does not take for one of its own. -/
def Engine.Unrecognized (engine : Engine σ) (d : Database σ) : Prop :=
  (d.history = none ∧ engine.objects d.content ≠ []) ∨
    ∃ rows, d.history = some rows ∧ historyRecognized rows = false

theorem Engine.Unrecognized.starts (h : engine.Unrecognized d) (hstarts : engine.Starts d start) :
    start = d ∧ ∀ d', ¬ engine.Reaches q start d' := by
  have hsame : start = d := by
    rcases hstarts with rfl | ⟨hnone, hblank, -⟩
    · rfl
    · rcases h with ⟨-, hobjects⟩ | ⟨rows, hrows, -⟩
      · exact (hobjects hblank).elim
      · cases hnone.symm.trans hrows
  subst hsame
  refine ⟨rfl, fun d' hreaches => ?_⟩
  obtain ⟨rows, -, hrows, hrecognized, -⟩ := hreaches.history
  rcases h with ⟨hnone, -⟩ | ⟨rows', hrows', hfalse⟩
  · cases hnone.symm.trans hrows
  · obtain rfl : rows = rows' := Option.some.inj (hrows.symm.trans hrows')
    exact Bool.false_ne_true (hfalse.symm.trans hrecognized)

/-! ## Every run -/

/-- **A migration is done as a whole or not at all.** At every point of every run, and so wherever
it is cut short: what is durable is the database the run started with (with an empty history, if it
was blank) or the one with all pending migrations applied; the latter has exactly the versions up
to the target, the recognized rows first, and the target's schema; the run returns only outside of
a transaction and with the latter; and a database that is not recognized stays as it is and is
refused. -/
theorem migrate_atomic (describe : List String → String) {p : MigrationScript MigrationResult}
    (h : Steps (served engine) (q.migrate describe) ⟨d, none⟩ p s) :
    (∃ start, engine.Starts d start ∧ (s.durable = start ∨
      ∃ rows new, start.history = some rows ∧ historyRecognized rows = true ∧
        s.durable.history = some (rows ++ new) ∧
        (rows ++ new).map Prod.fst = versions q.target.toNat ∧ engine.Reaches q start s.durable ∧
        engine.valid q.target s.durable)) ∧
    (∀ result, p = .done (.ok result) → s.saved = none ∧
      ∃ start, engine.Starts d start ∧ engine.Reaches q start s.db) ∧
    (engine.Unrecognized d → s.durable = d ∧ ∀ result, p ≠ .done (.ok result)) := by
  have hended : Migrating engine q d (q.migrate describe) (Ended engine q d) ⟨d, none⟩ :=
    migrate_ended describe
  have hmeets := hended.steps h
  have hpoint : engine.Safe q d s ∧ ∀ result, p = .done (.ok result) → s.saved = none ∧
      ∃ start, engine.Starts d start ∧ engine.Reaches q start s.db := by
    cases p with
    | done r =>
      obtain ⟨hsafe, hok⟩ := hmeets
      refine ⟨hsafe, fun result hp => ?_⟩
      cases hp
      exact hok result rfl
    | call c k => exact ⟨hmeets.1, fun result hp => (nomatch hp)⟩
  obtain ⟨⟨start, hstarts, hdurable⟩, hok⟩ := hpoint
  refine ⟨⟨start, hstarts, hdurable.imp_right fun hreaches => ?_⟩, hok, fun hunrecognized => ?_⟩
  · obtain ⟨rows, new, hrows, hrecognized, hhistory, hversions, -, -, -, hvalid⟩ :=
      hreaches.history
    exact ⟨rows, new, hrows, hrecognized, hhistory, hversions, hreaches, hvalid⟩
  · obtain ⟨rfl, hnever⟩ := hunrecognized.starts (q := q) hstarts
    refine ⟨hdurable.resolve_right (hnever _), fun result hp => ?_⟩
    obtain ⟨-, start', hstarts', hreaches⟩ := hok result hp
    exact (hunrecognized.starts hstarts').2 _ hreaches

/-- Where a run that returns has started is one database. -/
theorem starts_unique {start' d₁ d₂ : Database σ} {q' : MigrateRequest}
    (hstarts : engine.Starts d start) (hstarts' : engine.Starts d start')
    (h : engine.Reaches q start d₁) (h' : engine.Reaches q' start' d₂) : start = start' := by
  obtain ⟨rows, -, hrows, -⟩ := h.history
  obtain ⟨rows', -, hrows', -⟩ := h'.history
  rcases hstarts with rfl | ⟨hnone, -, rfl⟩
  · rcases hstarts' with rfl | ⟨hnone, -, -⟩
    · rfl
    · cases hnone.symm.trans hrows
  · rcases hstarts' with rfl | ⟨-, -, rfl⟩
    · cases hnone.symm.trans hrows'
    · rfl

/-- An engine that keeps the texts it was given, each of which makes an object. -/
def sampleEngine : Engine (List String) where
  objects texts := texts.map fun text => ("table", text)
  execute sql texts := some (texts ++ [sql])
  valid _ _ := True

/-- A database of version 1. -/
def sampleDatabase : Database (List String) :=
  ⟨["slice_execution"], some ((registered.take 1).map fun m => (m.version, m.name, m.checksum))⟩

theorem sampleNow_date : 2026 ≤ 9999 ∧ 1 ≤ 12 ∧ 1 ≤ 31 := by omega

theorem sampleNow_clock : 0 < 24 ∧ 0 < 60 ∧ 0 < 60 ∧ 0 < 1000000 := by omega

def sampleMigration (target : Int) : MigrateRequest :=
  ⟨false, some ⟨2026, 1, 1, 0, 0, 0, 0, sampleNow_date, sampleNow_clock⟩, fun _ => "SELECT 1;",
    target⟩

def refusal : PyError := .raised "sqlite3.OperationalError" ""

/-- The sample engine answers what it can. -/
def sampleRespond (s : Session (List String)) :
    (c : MigrationCall) → Except PyError (MigrationAnswer c) × Session (List String)
  | .userObjects => (.ok (sampleEngine.userObjects s.db), s)
  | .history => match s.db.history with
    | some rows => (.ok rows, s)
    | none => (.error refusal, s)
  | .maxVersion => match s.db.history with
    | some rows => (.ok (rows.getLast?.map fun r => (r.1 : Int)), s)
    | none => (.error refusal, s)
  | .beginImmediate => match s.saved with
    | some _ => (.error refusal, s)
    | none => (.ok (), ⟨s.db, some s.db⟩)
  | .executeStatements sql => (.ok (), ⟨⟨s.db.content ++ [sql], s.db.history⟩, s.saved⟩)
  | .insertMigration version name checksum _ => match s.db.history with
    | some rows => if version ∈ rows.map Prod.fst then (.error refusal, s)
      else (.ok (), ⟨⟨s.db.content, some (insertRow (version, name, checksum) rows)⟩, s.saved⟩)
    | none => (.error refusal, s)
  | .commit => match s.saved with
    | some _ => (.ok (), ⟨s.db, none⟩)
    | none => (.error refusal, s)
  | .rollback => match s.saved with
    | some d => (.ok (), ⟨d, none⟩)
    | none => (.error refusal, s)
  | .validateSchema _ | .makeDirectory | .connect _ | .copyPages _ | .closeDestination _
  | .unlinkMissingOk _ | .replace .. | .unlink _ => (.ok (), s)
  | .createSchemaMigration => (.error refusal, s)
  | .now => (.error refusal, s)
  | .integrityCheck _ => (.ok ["ok"], s)
  | .glob => (.ok [], s)

theorem sampleRespond_served (s : Session (List String)) (c : MigrationCall) :
    served sampleEngine s c (sampleRespond s c).1 (sampleRespond s c).2 := by
  cases c with
  | userObjects => exact ⟨rfl, fun _ => Iff.rfl⟩
  | validateSchema version => exact ⟨rfl, trivial⟩
  | executeStatements sql => exact ⟨_, rfl, rfl⟩
  | history =>
    unfold sampleRespond
    cases hrows : s.db.history with
    | none => rfl
    | some rows => exact ⟨rfl, hrows⟩
  | maxVersion =>
    unfold sampleRespond
    cases hrows : s.db.history with
    | none => rfl
    | some rows => exact ⟨rfl, rows, hrows, rfl⟩
  | beginImmediate =>
    unfold sampleRespond
    cases hsaved : s.saved with
    | none => exact ⟨hsaved, rfl⟩
    | some d => rfl
  | insertMigration version name checksum appliedAt =>
    unfold sampleRespond
    cases hrows : s.db.history with
    | none => rfl
    | some rows =>
      dsimp only
      split_ifs with hfound
      · rfl
      · exact ⟨rows, hrows, hfound, rfl⟩
  | commit =>
    unfold sampleRespond
    cases hsaved : s.saved with
    | none => rfl
    | some d => exact ⟨by rw [hsaved]; rfl, rfl⟩
  | rollback =>
    unfold sampleRespond
    cases hsaved : s.saved with
    | none => rfl
    | some d => exact ⟨d, hsaved, rfl⟩
  | _ => rfl

def appliedRun (target : Int) :
    Option (Except PyError MigrationResult × Session (List String)) :=
  (play (fun s c => sampleRespond s.1 c) 40 ((sampleMigration target).migrate fun _ => "")
    (⟨sampleDatabase, none⟩, [])).map fun p => (p.1, p.2.1)

theorem appliedRun_steps {target : Int} {r : Except PyError MigrationResult}
    {s : Session (List String)} (h : appliedRun target = some (r, s)) :
    Steps (served sampleEngine) ((sampleMigration target).migrate fun _ => "")
      ⟨sampleDatabase, none⟩ (.done r) s := by
  obtain ⟨⟨r', s', log⟩, hplay, heq⟩ := Option.map_eq_some_iff.mp h
  cases heq
  exact (play_steps (fun s c => sampleRespond_served s.1 c) hplay).untraced

/-- From version 1 to version 2 the sample migration returns. -/
theorem appliedRun_second : ∃ result s, appliedRun 2 = some (.ok result, s) := by
  have hok : (appliedRun 2).map (fun p => p.1.isOk) = some true := by decide +kernel
  obtain ⟨⟨r, s⟩, hrun, hr⟩ := Option.map_eq_some_iff.mp hok
  cases r with
  | error e => cases hr
  | ok result => exact ⟨result, s, hrun⟩

/-- The sample database, from version 1 to version 2. -/
theorem migrate_atomic_sample : ∃ s : Session (List String), s.saved = none ∧
    ∃ start, sampleEngine.Starts sampleDatabase start ∧
      sampleEngine.Reaches (sampleMigration 2) start s.db := by
  obtain ⟨result, s, hrun⟩ := appliedRun_second
  obtain ⟨-, hok, -⟩ := migrate_atomic _ (appliedRun_steps hrun)
  exact ⟨s, hok result rfl⟩

end Adcp.L3.Migrations
