import Adcp.L1Base.Fencing
import Adcp.L1Base.Interleaving
import Adcp.L4Safety.WriterFencing
import Adcp.L5Migration.OrchestratorBody

/-!
# What a migration guarantees

The orchestrator against a world with the database's version and the writer lease. Its
calls answer anything; the version moves only in the migration, and the lease as the store
moves it, for this run and for everyone else between two of its calls.

* `migration_order`: what has happened before a migration and before a reactivation.
* `phase_truthful`: the phase and the version of an error, as long as no step misleads.
* `lease_released`: the lease after a run, as long as no step strands it.
* `misreported`, `stranded`: a run that reports a rollback of a migration that has been
  committed, and one that ends with the lease still its own.
-/
namespace Adcp.L5.Migration

open Adcp.L1 Adcp.L2 Adcp.L3 Adcp.L4 Method Script

/-! ## The world -/

structure World where
  version : Int
  lease : Fence WriterContext

/-- What an answer says of the lease when it is given. -/
def LeaseAnswer (f : Fence WriterContext) :
    (c : MigrationCall) → Except MigrationError (Answer c) → Prop
  | .acquire _, .ok row => row.lease.fencingToken ≤ f.token
  | .release .., .ok _ => f.holder = none
  | _, _ => True

/-- What an answer says of the version of the database. -/
def VersionAnswer (version : Int) : (c : MigrationCall) → Except MigrationError (Answer c) → Prop
  | .readSchemaVersion _, .ok v => v = version
  | _, _ => True

/-- One call: others move the lease before the answer and after it. -/
structure Serves (w : World) (c : MigrationCall) (a : Except MigrationError (Answer c)) (w' : World) :
    Prop where
  migrated : w'.version = w.version ∨ (c = .migrate ∧ w.version = 6 ∧ w'.version = 7)
  version : VersionAnswer w.version c a
  lease : ∃ f gs gs', FenceRun w.lease gs f ∧ FenceRun f gs' w'.lease ∧ LeaseAnswer f c a

/-! ## A world to run in -/

def sampleOrchestrator : Orchestrator where
  context :=
    { evidenceRoot := "evidence", acceptedGitHead := "0123456789012345678901234567890123456789"
      acceptedGitTree := "0123456789012345678901234567890123456789", authorityRef := "authority"
      canonicalProductionPath := none, canonicalProductionAuthorized := false
      backgroundHeartbeat := false }
  ownerId := "owner"
  ownerExecutionId := "run"
  migration7Name := migrationName
  migration7Checksum := migrationChecksum
  migrations := []
  reprIdentity p := p.1
  formatMicroseconds _ := ""
  formatNanoseconds _ := ""

def sampleContext : WriterContext :=
  (sampleOrchestrator.acquireRequest "repository" "database").context

def sampleRow (state : WriterState) (token : Int) : LeaseRow where
  resourceKey := some resource
  lease :=
    { state := state, context := sampleContext, fencingToken := token
      acquiredAt := some Timestamp.epoch, expiresAt := some Timestamp.epoch
      heartbeatAt := some Timestamp.epoch, updatedAt := Timestamp.epoch }

def sampleWriter (state code : String) : RuntimeWriter where
  serviceCode := code
  runtimeId := code
  classification := expectedClassification code
  state := state
  identityValidation := "MATCH"
  writeCapable := true
  conflicting := false

/-- At the first discovery one writer is running. -/
def sampleInventory (log : MigrationLog World) : List (Option RuntimeWriter) :=
  expectedWriterCodes.map fun code =>
    if discoveries log = [] ∧ code = "W01" then some (sampleWriter "ACTIVE" code)
    else some (sampleWriter "QUIESCED" code)

def sampleBaseline : PreservationBaseline where
  tables := []
  authority := []
  lease := (leaseContextFields ++ leaseLifecycleFields).map fun f => (f, .null)
  schemaMigration0001To0006 := ⟨[], []⟩

def sampleBackup : BackupEvidence := ⟨"evidence", "backup", "manifest", "", "", "", 0, 0⟩

/-- The answer to a call that works. -/
def sampleAnswer (s : World × MigrationLog World) : (c : MigrationCall) → Answer c
  | .suppliedPathIsSymlink | .evidenceRootIsSymlink | .joinPump _ => false
  | .isFile _ | .evidenceRootIsDir => true
  | .resolveDcs | .resolveCanonical _ => "database"
  | .resolveRepository => "repository"
  | .validateAuthority => none
  | .readSchemaVersion _ => s.1.version
  | .now | .monotonic | .sealCount => (0 : Int)
  | .acquire _ => sampleRow .HELD (s.1.lease.token + 1)
  | .assertCurrent .. | .heartbeat .. => sampleRow .HELD s.1.lease.token
  | .getLease => sampleRow .FREE s.1.lease.token
  | .latestWriterEvent => some ⟨1, "ACQUIRE", s.1.lease.token, some "owner", some "run", some changeId⟩
  | .eventsAfter .. => []
  | .pumpError _ => none
  | .discover => sampleInventory s.2
  | .inspect writer => { writer with state := "QUIESCED" }
  | .createBackup .. => sampleBackup
  | .captureBaseline _ => sampleBaseline
  | .lineage => []
  | .contractProfile _ | .openClient _ | .bindGuard | .startPump | .quiesce _ | .reactivate _
  | .verifyBackup _ | .closeClient _ | .connect | .enableForeignKeys | .migrate
  | .closeConnection | .release .. => ()

/-- What a call that works does to the world. -/
def sampleWorld (w : World) : MigrationCall → World
  | .acquire a => { w with lease := ⟨w.lease.token + 1, some a.context⟩ }
  | .release .. => { w with lease := ⟨w.lease.token, none⟩ }
  | .migrate => { w with version := if w.version = 6 then 7 else w.version }
  | _ => w

/-- Every call works, but for those that `fails` makes raise. -/
def sampleRespond (fails : MigrationCall → Bool) (s : World × MigrationLog World) (c : MigrationCall) :
    Except MigrationError (Answer c) × World :=
  if fails c = true then (.error (.other "failed"), s.1) else (.ok (sampleAnswer s c), sampleWorld s.1 c)

theorem sampleRespond_serves (fails : MigrationCall → Bool) (s : World × MigrationLog World)
    (c : MigrationCall) : Serves s.1 c (sampleRespond fails s c).1 (sampleRespond fails s c).2 := by
  have hstay : FenceRun s.1.lease [] s.1.lease := .nil _
  unfold sampleRespond
  by_cases hfails : fails c = true
  · rw [if_pos hfails]
    refine ⟨Or.inl rfl, ?_, s.1.lease, [], [], hstay, hstay, ?_⟩
    · cases c <;> trivial
    · cases c <;> trivial
  · rw [if_neg hfails]
    cases c with
    | migrate =>
      refine ⟨?_, trivial, s.1.lease, [], [], hstay, hstay, trivial⟩
      show (if s.1.version = 6 then (7 : Int) else s.1.version) = _ ∨ _
      by_cases hversion : s.1.version = 6
      · exact Or.inr ⟨rfl, hversion, if_pos hversion⟩
      · exact Or.inl (if_neg hversion)
    | acquire a =>
      exact ⟨Or.inl rfl, trivial, ⟨s.1.lease.token + 1, some a.context⟩, _, [],
        .cons (.grant _ a.context) (.nil _), .nil _, Int.le_refl _⟩
    | release site r =>
      exact ⟨Or.inl rfl, trivial, ⟨s.1.lease.token, none⟩, _, [], .cons (.release _) (.nil _), .nil _,
        rfl⟩
    | readSchemaVersion site => exact ⟨Or.inl rfl, rfl, s.1.lease, [], [], hstay, hstay, trivial⟩
    | _ => exact ⟨Or.inl rfl, trivial, s.1.lease, [], [], hstay, hstay, trivial⟩

/-- Version 6, and a free lease. -/
def sampleStart : World := ⟨6, 0, none⟩

/-- How the run ends in the sample world. -/
def sampleRun (fails : MigrationCall → Bool) :
    Option (Except MigrationError (Except MigrationError ProductionMigrationResult × Fields) ×
      World × MigrationLog World) :=
  play (sampleRespond fails) 200 (sampleOrchestrator.run Fields.initial) (sampleStart, [])

/-- What a test of its end finds, a run of the orchestrator does. -/
theorem sampleRun_steps {fails : MigrationCall → Bool}
    {test : Except MigrationError (Except MigrationError ProductionMigrationResult × Fields) ×
      World × MigrationLog World → Bool} (h : (sampleRun fails).any test = true) :
    ∃ r w log, Steps (traced Serves) (sampleOrchestrator.run Fields.initial) (sampleStart, [])
      (.done r) (w, log) ∧ test (r, w, log) = true := by
  cases hrun : sampleRun fails with
  | none =>
    rw [hrun] at h
    cases h
  | some p =>
    rw [hrun] at h
    exact ⟨p.1, p.2.1, p.2.2, play_steps (sampleRespond_serves fails) hrun, h⟩

/-! ## The order of a migration -/

variable {ω : Type} {o : Orchestrator}
  {serve : ω → (c : MigrationCall) → Except MigrationError (Answer c) → ω → Prop}

/-- A run ends with an exception that is passed on, and never outside its fields. -/
theorem run_ended {r : Except MigrationError (Except MigrationError ProductionMigrationResult × Fields)}
    {log : MigrationLog ω} (h : Steps (logged serve) (o.run Fields.initial) [] (.done r) log) :
    ∃ outcome s, r = .ok (outcome, s) ∧ RunEnded o outcome log := meets_run.ended h

theorem run_allowed
    {p : Script MigrationError Answer (Except MigrationError ProductionMigrationResult × Fields)}
    {log : MigrationLog ω} (h : Steps (logged serve) (o.run Fields.initial) [] p log) :
    Each (fun before e => Allowed o before e.made) log :=
  Steps.each meets_run Each.nil h

/-- **Order of a migration.** Whatever the calls answer: there is one migration at most, and
it finds every writer seen stopped, the backup verified and enough of the lease left; a
reactivation finds version 7, the checks after the migration passed and the lease current; a
run that returns has reactivated the writers it first found ACTIVE, each once; and a run
whose checks have not passed, so that it does not come to the reactivation, reactivates no
writer. -/
theorem migration_order
    {p : Script MigrationError Answer (Except MigrationError ProductionMigrationResult × Fields)}
    {log : MigrationLog ω} (h : Steps (logged serve) (o.run Fields.initial) [] p log) :
    (∀ before e after, log = before ++ e :: after → e.made = .migrate →
      (∀ e' ∈ before, e'.made ≠ .migrate) ∧ BackedUp o before) ∧
    (∀ before e after writer, log = before ++ e :: after → e.made = .reactivate writer →
      Ready o before writer) ∧
    (∀ result s, p = .done (.ok (.ok result, s)) →
      reactivated log = activeAtFirst log ∧ (activeAtFirst log).Nodup) ∧
    (¬ Cleared o log → reactivated log = []) := by
  have hallowed := run_allowed h
  refine ⟨fun before e after hlog hmade => ?_, fun before e after writer hlog hmade => ?_,
    fun result s hp => ?_, fun hnot => ?_⟩
  · have hmigrate : Allowed o before e.made := hallowed before e after hlog
    rw [hmade] at hmigrate
    exact hmigrate
  · have hready : Allowed o before e.made := hallowed before e after hlog
    rw [hmade] at hready
    exact hready
  · subst hp
    obtain ⟨outcome, s', hr, hended⟩ := run_ended h
    cases hr
    exact ⟨hended.all, hended.once⟩
  · refine List.filterMap_eq_nil_iff.mpr ?_
    rintro ⟨w, c, a⟩ he
    obtain ⟨before, after, rfl⟩ := List.append_of_mem he
    have hready := hallowed before _ after rfl
    cases c with
    | reactivate writer => exact absurd (Ready.cleared hready |>.append _) hnot
    | _ => rfl

/-- The run returned, and reactivated these writers. -/
def returned (writers : List (String × String)) :
    Except MigrationError (Except MigrationError ProductionMigrationResult × Fields) ×
      World × MigrationLog World → Bool
  | (.ok (.ok _, _), _, log) => decide (reactivated log = writers)
  | _ => false

theorem returned_iff {writers : List (String × String)} {w : World} {log : MigrationLog World}
    {r : Except MigrationError (Except MigrationError ProductionMigrationResult × Fields)} :
    returned writers (r, w, log) = true ↔
      (∃ result s, r = .ok (.ok result, s)) ∧ reactivated log = writers := by
  constructor
  · intro h
    cases r with
    | error e => exact absurd h Bool.false_ne_true
    | ok p =>
      obtain ⟨outcome, s⟩ := p
      cases outcome with
      | error e => exact absurd h Bool.false_ne_true
      | ok result => exact ⟨⟨result, s, rfl⟩, of_decide_eq_true h⟩
  · rintro ⟨⟨result, s, rfl⟩, h⟩
    exact decide_eq_true h

theorem migration_order_sample : ∃ (log : MigrationLog World) (result : ProductionMigrationResult)
    (s : Fields), Steps (logged Serves) (sampleOrchestrator.run Fields.initial) []
      (.done (.ok (.ok result, s))) log ∧
    reactivated log = [("W01", "W01")] ∧ activeAtFirst log = [("W01", "W01")] := by
  have hrun : (sampleRun fun _ => false).any (returned [("W01", "W01")]) = true := by decide +kernel
  obtain ⟨r, w, log, hsteps, htest⟩ := sampleRun_steps hrun
  obtain ⟨⟨result, s, rfl⟩, hreactivated⟩ := returned_iff.mp htest
  have hlogged := hsteps.to_logged
  have hall := ((migration_order hlogged).2.2.1 result s rfl).1
  exact ⟨log, result, s, hlogged, hreactivated, hall.symm.trans hreactivated⟩

/-! ## The version along a run -/

variable {w w₀ : World} {log : MigrationLog World}

/-- What the log says of the version: without a migration it is still 6, and since the
migration it has been what it is. -/
structure Versioned (w : World) (log : MigrationLog World) : Prop where
  range : w.version = 6 ∨ w.version = 7
  unmigrated : (∀ e ∈ log, e.made ≠ .migrate) → w.version = 6
  since : ∀ before e after, log = before ++ e :: after → (∀ e' ∈ e :: after, e'.made ≠ .migrate) →
    e.world.version = w.version ∧ VersionAnswer w.version e.made e.answer

theorem Versioned.step {c : MigrationCall} {a : Except MigrationError (Answer c)} {w' : World}
    (h : Versioned w log) (hserve : Serves w c a w') : Versioned w' (log ++ [⟨w, c, a⟩]) := by
  have hsame : c ≠ .migrate → w'.version = w.version := by
    intro hc
    rcases hserve.migrated with heq | ⟨hmigrate, -⟩
    · exact heq
    · exact absurd hmigrate hc
  refine ⟨?_, fun hnone => ?_, fun before e after hlog hnone => ?_⟩
  · rcases hserve.migrated with heq | ⟨-, -, h7⟩
    · rw [heq]
      exact h.range
    · exact Or.inr h7
  · rw [hsame (hnone ⟨w, c, a⟩ (List.mem_append_right _ (List.mem_singleton_self _)))]
    exact h.unmigrated fun e he => hnone e (List.mem_append_left _ he)
  · rcases List.eq_nil_or_concat after with rfl | ⟨after, last, rfl⟩
    · -- the last call itself
      obtain ⟨rfl, he⟩ := List.append_inj' hlog rfl
      cases he
      have hc := hsame (hnone _ (List.mem_cons_self ..))
      rw [hc]
      exact ⟨rfl, hserve.version⟩
    · rw [List.concat_eq_append] at hlog hnone
      rw [← List.cons_append, ← List.append_assoc] at hlog
      obtain ⟨rfl, he⟩ := List.append_inj' hlog rfl
      cases he
      have hc := hsame (hnone ⟨w, c, a⟩ (by simp))
      rw [hc]
      exact h.since before e after rfl fun e' he' => hnone e' (by
        rw [← List.cons_append]
        exact List.mem_append_left _ he')

/-- A run from version 6. -/
theorem versioned_run {α : Type} {p p' : Script MigrationError Answer α}
    (hversion : w₀.version = 6) (h : Steps (traced Serves) p (w₀, []) p' (w, log)) :
    Versioned w log := by
  have hstart : Versioned w₀ [] :=
    ⟨Or.inl hversion, fun _ => hversion, fun before e after hlog => by cases before <;> cases hlog⟩
  refine Steps.invariant (P := fun s : World × MigrationLog World => Versioned s.1 s.2) h hstart ?_
  rintro ⟨w, log⟩ c a ⟨w', log'⟩ hv ⟨hserve, rfl⟩
  exact hv.step hserve

/-! ## The phase of an error -/

/-- The phase and the version that an error may report of a database at `version`. -/
structure Truthful (version : Int) (phase : Phase) (reported : Option Int) : Prop where
  committed : version = 7 → phase = .postCommit ∨ phase = .ambiguous
  unchanged : phase = .preflight ∨ phase = .preTransaction ∨ phase = .rollback → version = 6
  version : ∀ n, reported = some n → n = version

/-- A `ProductionMigrationError` of a call that is not truthful about the database. -/
def Lies (version : Int) : MigrationError → Prop
  | .migration _ _ phase reported => ¬ Truthful version phase reported
  | .other _ => False

/-- The exception is one that the orchestrator does not know. -/
def Unknown {α : Type} (a : Except MigrationError α) : Prop := ∃ text, a = .error (.other text)

/-- An answer that makes the orchestrator report what is not so: an error of its own kind
that is wrong about the database; at version 7, an unknown exception while it has no client
or while it reads the version; at version 7, a check of the lease, the heartbeat, the
authority or a writer that fails with an error of the default phase. -/
def Misleads (o : Orchestrator) (before : MigrationLog World) (ev : MigrationEvent World) : Prop :=
  match ev.made.site with
  | .run =>
    (∃ e, ev.answer = .error e ∧ Lies ev.world.version e) ∨
    (ev.world.version = 7 ∧
      (((windowCall ev.made = true ∨ ev.made = .readSchemaVersion .run) ∧ Unknown ev.answer) ∨
        Slips o before ev))
  | .rebindFailed =>
    (∃ e, ev.answer = .error e ∧ Lies ev.world.version e) ∨
    (ev.world.version = 7 ∧ Unknown ev.answer)
  | .closing => ∃ e, ev.answer = .error e ∧ Lies ev.world.version e
  | _ => False

/-- No migration is made by the handler. -/
theorem not_migrate {ev : MigrationEvent World} (h : quiet ev.made = true) : ev.made ≠ .migrate := by
  intro hmade
  rw [hmade] at h
  cases h

/-- The last call before the handler: it has seen the version of the end, and it has not
misled. -/
theorem last_seen {log₀ more before : MigrationLog World} {ev : MigrationEvent World}
    (hv : Versioned w (log₀ ++ more)) (hmore : ∀ e ∈ more, quiet e.made = true)
    (hcond : Each (fun before ev => ¬ Misleads o before ev) (log₀ ++ more))
    (hlast : log₀ = before ++ [ev]) (hev : ev.made ≠ .migrate) :
    ev.world.version = w.version ∧ VersionAnswer w.version ev.made ev.answer ∧
      ¬ Misleads o before ev := by
  have hsplit : log₀ ++ more = before ++ ev :: more := by
    rw [hlast, List.append_assoc, List.singleton_append]
  have hsince := hv.since before ev more hsplit fun e he => by
    rcases List.mem_cons.mp he with rfl | he
    · exact hev
    · exact not_migrate (hmore e he)
  exact ⟨hsince.1, hsince.2, hcond before ev more hsplit⟩

theorem truthful_six {phase : Phase} {reported : Option Int} {version : Int} (h : version = 6)
    (hreported : ∀ n, reported = some n → n = 6) : Truthful version phase reported := by
  refine ⟨fun h7 => ?_, fun _ => h, fun n hn => ?_⟩
  · omega
  · rw [h]
    exact hreported n hn

/-- An exception that the orchestrator does not know, at version 6 and in a state that does
not claim otherwise. -/
theorem truthful_unknown {state : ExecutionState} {text code detail : String} {phase : Phase}
    {sv : Option Int} (h : w.version = 6) (hstate : state ≠ .committedV7)
    (hreported : Orchestrator.reported state (.other text) = .migration code detail phase sv) :
    Truthful w.version phase sv := by
  unfold Orchestrator.reported at hreported
  rw [if_neg hstate] at hreported
  cases hreported
  exact truthful_six h fun n hn => (Option.some.inj hn).symm

theorem truthful_default {version : Int} {state : ExecutionState} {e : MigrationError}
    {code detail : String} {phase : Phase} {sv : Option Int} (h : version = 6) (he : Default e)
    (hreported : Orchestrator.reported state e = .migration code detail phase sv) :
    Truthful version phase sv := by
  obtain ⟨code', detail', rfl⟩ := he
  cases hreported
  exact truthful_six h fun n hn => nomatch hn

/-- An exception of the last call. -/
theorem truthful_own {state : ExecutionState} {log₀ more : MigrationLog World} {e : MigrationError}
    {code detail : String} {phase : Phase} {sv : Option Int} (hv : Versioned w (log₀ ++ more))
    (hmore : ∀ e ∈ more, quiet e.made = true)
    (hcond : Each (fun before ev => ¬ Misleads o before ev) (log₀ ++ more)) (hown : Own log₀ e)
    (hunknown : ∀ text, e = .other text →
      Orchestrator.reported state e = .migration code detail phase sv → Truthful w.version phase sv)
    (hreported : Orchestrator.reported state e = .migration code detail phase sv) :
    Truthful w.version phase sv := by
  cases e with
  | other text => exact hunknown text rfl hreported
  | migration code' detail' phase' sv' =>
    cases hreported
    obtain ⟨before, ev, hlast, hsite, hraised⟩ := hown
    have hev : ev.made ≠ .migrate := by
      intro hmade
      rw [hmade] at hsite
      cases hsite
    obtain ⟨hversion, -, hhonest⟩ := last_seen hv hmore hcond hlast hev
    refine Classical.byContradiction fun hlie => hhonest ?_
    unfold Misleads
    rw [hsite]
    exact Or.inl ⟨_, hraised, by rw [hversion]; exact hlie⟩

/-- After the last migration the version has been read: it is the version of the end. -/
theorem version_read {log₀ more : MigrationLog World} {version : Int}
    (hv : Versioned w (log₀ ++ more))
    (hallowed : Each (fun before e => Allowed o before e.made) (log₀ ++ more))
    (hseen : InOrder [(·.made = .migrate), Answered (.readSchemaVersion .run) (.ok version)] log₀) :
    version = w.version := by
  obtain ⟨b, x, rest, rfl, hx, b', y, rest', rfl, ⟨u, rfl⟩, -⟩ := hseen
  have hsplit : (b ++ x :: (b' ++ ⟨u, .readSchemaVersion .run, .ok version⟩ :: rest')) ++ more =
      (b ++ x :: b') ++ ⟨u, .readSchemaVersion .run, .ok version⟩ :: (rest' ++ more) := by simp
  have hnone : ∀ e ∈ (⟨u, .readSchemaVersion .run, .ok version⟩ : MigrationEvent World) ::
      (rest' ++ more), e.made ≠ .migrate := by
    intro e he hmade
    -- a second migration would have found the first one
    obtain ⟨l₁, l₂, hl⟩ := List.append_of_mem he
    have hfound : Allowed o ((b ++ x :: b') ++ l₁) e.made :=
      hallowed ((b ++ x :: b') ++ l₁) e l₂ (by rw [hsplit, hl]; simp)
    rw [hmade] at hfound
    exact hfound.1 x (by simp) hx
  exact (hv.since _ _ _ hsplit hnone).2

/-- What the handler makes of an exception of the body is truthful. -/
theorem cause_truthful {s : Fields} {log₀ more : MigrationLog World} {e : MigrationError}
    {code detail : String} {phase : Phase} {sv : Option Int} (hv : Versioned w (log₀ ++ more))
    (hmore : ∀ e ∈ more, quiet e.made = true)
    (hallowed : Each (fun before e => Allowed o before e.made) (log₀ ++ more))
    (hcond : Each (fun before ev => ¬ Misleads o before ev) (log₀ ++ more)) (hcause : Cause o s log₀ e)
    (hreported : Orchestrator.reported s.executionState e = .migration code detail phase sv) :
    Truthful w.version phase sv := by
  cases hcause with
  | early before raised =>
    have h6 : w.version = 6 := hv.unmigrated fun ev hev =>
      (List.mem_append.mp hev).elim (before.unmigrated ev) fun hev => not_migrate (hmore ev hev)
    rcases raised with hown | hdefault | ⟨text, rfl⟩
    · exact truthful_own hv hmore hcond hown
        (fun text he hr => truthful_unknown h6 before.uncommitted (he ▸ hr)) hreported
    · exact truthful_default h6 hdefault hreported
    · exact truthful_unknown h6 before.uncommitted hreported
  | shut before ev last window raised uncommitted =>
    have hsite : ev.made.site = .run := by
      cases hmade : ev.made <;> rw [hmade] at window <;> first | rfl | cases window
    have hev : ev.made ≠ .migrate := by
      intro hmade
      rw [hmade] at window
      cases window
    refine truthful_own hv hmore hcond ⟨before, ev, last, hsite, raised⟩ ?_ hreported
    intro text he hr
    subst he
    rcases hv.range with h6 | h7
    · exact truthful_unknown h6 uncommitted hr
    · obtain ⟨hversion, -, hhonest⟩ := last_seen hv hmore hcond last hev
      refine absurd ?_ hhonest
      unfold Misleads
      rw [hsite]
      exact Or.inr ⟨hversion.trans h7, Or.inl ⟨Or.inl window, text, raised⟩⟩
  | delayed raised =>
    obtain ⟨code', detail', rfl⟩ := raised
    cases hreported
    exact ⟨fun _ => Or.inr rfl, fun hphase => by simp at hphase, fun n hn => nomatch hn⟩
  | ambiguous version last raised =>
    obtain ⟨code', detail', rfl⟩ := raised
    cases hreported
    obtain ⟨before, _, hlast, u, rfl⟩ := last
    obtain ⟨-, hread, -⟩ := last_seen hv hmore hcond hlast (fun h => nomatch h)
    refine ⟨fun _ => Or.inr rfl, fun hphase => by simp at hphase, fun n hn => ?_⟩
    cases hn
    exact hread
  | unreadable last state =>
    obtain ⟨before, _, hlast, u, rfl⟩ := last
    obtain ⟨hversion, -, hhonest⟩ := last_seen hv hmore hcond hlast (fun h => nomatch h)
    cases e with
    | other text =>
      rcases hv.range with h6 | h7
      · exact truthful_unknown h6 (by rw [state]; decide) hreported
      · exact absurd (Or.inr ⟨hversion.trans h7, text, rfl⟩) hhonest
    | migration code' detail' phase' sv' =>
      cases hreported
      refine Classical.byContradiction fun hlie => hhonest (Or.inl ⟨_, rfl, ?_⟩)
      rw [hversion]
      exact hlie
  | unread last state client =>
    obtain ⟨before, _, hlast, u, rfl⟩ := last
    refine truthful_own hv hmore hcond ⟨before, _, hlast, rfl, rfl⟩ ?_ hreported
    intro text he hr
    subst he
    rcases hv.range with h6 | h7
    · exact truthful_unknown h6 (by rw [state]; decide) hr
    · obtain ⟨hversion, -, hhonest⟩ := last_seen hv hmore hcond hlast (fun h => nomatch h)
      exact absurd (Or.inr ⟨hversion.trans h7, Or.inl ⟨Or.inr rfl, text, rfl⟩⟩) hhonest
  | observed version seen state client raised =>
    have hread := version_read hv hallowed seen
    subst hread
    have hunknown : ∀ text, e = .other text →
        Orchestrator.reported s.executionState e = .migration code detail phase sv →
        Truthful w.version phase sv := by
      intro text he hr
      subst he
      rcases hv.range with h6 | h7
      · refine truthful_unknown h6 ?_ hr
        rw [state, h6]
        decide
      · rw [state, h7] at hr
        cases hr
        rw [h7]
        exact ⟨fun _ => Or.inl rfl, fun hphase => by simp [Orchestrator.phaseOf, Orchestrator.stateAfter] at hphase,
          fun n hn => (Option.some.inj hn).symm⟩
    rcases raised with hown | hafter | ⟨hdefault, hslip⟩
    · exact truthful_own hv hmore hcond hown hunknown hreported
    · rcases hafter with ⟨text, he⟩ | ⟨code', detail', rfl⟩ | ⟨hne, code', detail', rfl⟩
      · exact hunknown text he hreported
      · cases hreported
        refine ⟨fun h7 => Or.inl ?_, fun hphase => ?_, fun n hn => (Option.some.inj hn).symm⟩
        · rw [Orchestrator.phaseAfter, if_pos h7]
        · rcases hv.range with h6 | h7
          · exact h6
          · rw [Orchestrator.phaseAfter, if_pos h7] at hphase
            simp at hphase
      · cases hreported
        have h6 : w.version = 6 := hv.range.resolve_right hne
        exact truthful_six h6 fun n hn => (Option.some.inj hn).symm
    · rcases hv.range with h6 | h7
      · exact truthful_default h6 hdefault hreported
      · obtain ⟨before, ev, hlast, hsite, hslips⟩ := hslip
        have hev : ev.made ≠ .migrate := by
          intro hmade
          rw [hmade] at hsite
          cases hsite
        obtain ⟨hversion, -, hhonest⟩ := last_seen hv hmore hcond hlast hev
        refine absurd ?_ hhonest
        unfold Misleads
        rw [hsite]
        exact Or.inr ⟨hversion.trans h7, Or.inr hslips⟩

/-- **Truth of the phase.** From version 6, in every run whose steps do not mislead: an error
at version 7 reports POST_COMMIT or AMBIGUOUS, one that reports PREFLIGHT, PRE_TRANSACTION or
ROLLBACK leaves version 6, and a version it carries is the one of the database. -/
theorem phase_truthful {s : Fields} {code detail : String} {phase : Phase} {reported : Option Int}
    (h : Steps (traced Serves) (o.run Fields.initial) (w₀, [])
      (.done (.ok (.error (.migration code detail phase reported), s))) (w, log))
    (hversion : w₀.version = 6) (hcond : Each (fun before ev => ¬ Misleads o before ev) log) :
    Truthful w.version phase reported := by
  have hv := versioned_run hversion h
  have hallowed := run_allowed h.to_logged
  obtain ⟨outcome, s', hr, hended⟩ := run_ended h.to_logged
  cases hr
  rcases hended with hclosing | ⟨s₀, log₀, e₀, -, hcause, hhandled⟩
  · obtain ⟨before, _, rfl, u, rfl⟩ := hclosing
    have hnone : ∀ e ∈ ([] : MigrationLog World), quiet e.made = true := fun _ he =>
      absurd he List.not_mem_nil
    rw [← List.append_nil (before ++ _)] at hv hcond
    obtain ⟨hworld, -, hhonest⟩ := last_seen hv hnone hcond rfl (by simp)
    refine Classical.byContradiction fun hlie => hhonest ⟨_, rfl, ?_⟩
    rw [hworld]
    exact hlie
  · obtain ⟨more, rfl, hmore⟩ := hhandled.grown
    exact cause_truthful hv (fun ev hev => (hmore ev hev).1) hallowed hcond hcause
      hhandled.reported.symm

/-- The run raised an error of the orchestrator with this phase, reporting version 6, and
ended at this version with this holder of the lease. -/
def reports (phase : Phase) (version : Int) (owner : Option String) :
    Except MigrationError (Except MigrationError ProductionMigrationResult × Fields) ×
      World × MigrationLog World → Bool
  | (.ok (.error (.migration _ _ phase' reported), _), w, _) =>
    decide (phase' = phase ∧ reported = some 6 ∧ w.version = version ∧
      (w.lease.holder.bind fun c => c.ownerId) = owner)
  | _ => false

theorem reports_iff {phase : Phase} {version : Int} {owner : Option String}
    {r : Except MigrationError (Except MigrationError ProductionMigrationResult × Fields)} :
    reports phase version owner (r, w, log) = true ↔
      (∃ code detail s, r = .ok (.error (.migration code detail phase (some 6)), s)) ∧
      w.version = version ∧ (w.lease.holder.bind fun c => c.ownerId) = owner := by
  constructor
  · intro h
    cases r with
    | error e => exact absurd h Bool.false_ne_true
    | ok p =>
      obtain ⟨outcome, s⟩ := p
      cases outcome with
      | ok result => exact absurd h Bool.false_ne_true
      | error e =>
        cases e with
        | other text => exact absurd h Bool.false_ne_true
        | migration code detail phase' reported =>
          obtain ⟨rfl, rfl, hversion, howner⟩ := of_decide_eq_true h
          exact ⟨⟨code, detail, s, rfl⟩, hversion, howner⟩
  · rintro ⟨⟨code, detail, s, rfl⟩, hversion, howner⟩
    exact decide_eq_true ⟨rfl, rfl, hversion, howner⟩

/-- The connection cannot be closed once the migration has been committed: the error reports
a rollback at version 6. -/
theorem misreported : ∃ (w : World) (log : MigrationLog World) (s : Fields) (code detail : String),
    Steps (traced Serves) (sampleOrchestrator.run Fields.initial) (sampleStart, [])
      (.done (.ok (.error (.migration code detail .rollback (some 6)), s))) (w, log) ∧
    sampleStart.version = 6 ∧ w.version = 7 ∧ ¬ Truthful w.version .rollback (some 6) := by
  have hrun : (sampleRun fun c => c matches .closeConnection).any (reports .rollback 7 (some "owner")) =
      true := by decide +kernel
  obtain ⟨r, w, log, hsteps, htest⟩ := sampleRun_steps hrun
  obtain ⟨⟨code, detail, s, rfl⟩, hversion, -⟩ := reports_iff.mp htest
  refine ⟨w, log, s, code, detail, hsteps, rfl, hversion, fun htruthful => ?_⟩
  rcases htruthful.committed hversion with h | h <;> cases h

/-- At version 6, calls that raise no error of the orchestrator's own kind do not mislead. -/
theorem honest_of_six (h : ∀ e ∈ log, e.world.version = 6 ∧
    ∀ error, e.answer = .error error → ∃ text, error = .other text) :
    Each (fun before ev => ¬ Misleads o before ev) log := by
  intro before ev after hlog hmisleads
  obtain ⟨h6, hunknown⟩ := h ev (by rw [hlog]; simp)
  have hnever : ∀ e, ev.answer = .error e → ¬ Lies ev.world.version e := by
    intro e he
    obtain ⟨text, rfl⟩ := hunknown e he
    exact id
  have h7 : ev.world.version ≠ 7 := by rw [h6]; decide
  unfold Misleads at hmisleads
  split at hmisleads
  · rcases hmisleads with ⟨e, he, hlies⟩ | ⟨hversion, -⟩
    · exact hnever e he hlies
    · exact h7 hversion
  · rcases hmisleads with ⟨e, he, hlies⟩ | ⟨hversion, -⟩
    · exact hnever e he hlies
    · exact h7 hversion
  · obtain ⟨e, he, hlies⟩ := hmisleads
    exact hnever e he hlies
  · exact hmisleads

/-- Every call found version 6, and raised nothing of the orchestrator's own kind. -/
def early (log : MigrationLog World) : Bool :=
  log.all fun e => decide (e.world.version = 6) &&
    match e.answer with
    | .error (.migration ..) => false
    | _ => true

theorem early_spec (h : early log = true) : ∀ e ∈ log, e.world.version = 6 ∧
    ∀ error, e.answer = .error error → ∃ text, error = .other text := by
  intro e he
  have htest := List.all_eq_true.mp h e he
  rw [Bool.and_eq_true] at htest
  refine ⟨of_decide_eq_true htest.1, fun error herror => ?_⟩
  have hkind := htest.2
  rw [herror] at hkind
  cases error with
  | migration code detail phase reported => cases hkind
  | other text => exact ⟨text, rfl⟩

theorem phase_truthful_sample : ∃ (w : World) (log : MigrationLog World) (s : Fields)
    (code detail : String),
    Steps (traced Serves) (sampleOrchestrator.run Fields.initial) (sampleStart, [])
      (.done (.ok (.error (.migration code detail .preTransaction (some 6)), s))) (w, log) ∧
    Truthful w.version .preTransaction (some 6) := by
  have hrun : (sampleRun fun c => c matches .createBackup ..).any (fun p =>
      reports .preTransaction 6 none p && early p.2.2) = true := by decide +kernel
  obtain ⟨r, w, log, hsteps, htest⟩ := sampleRun_steps hrun
  rw [Bool.and_eq_true] at htest
  obtain ⟨⟨code, detail, s, rfl⟩, -⟩ := reports_iff.mp htest.1
  exact ⟨w, log, s, code, detail, hsteps,
    phase_truthful hsteps rfl (honest_of_six (early_spec htest.2))⟩

/-! ## The lease after a run -/

/-- What the log says of the lease: the token it was acquired with has been reached, and a
grant that this run has released is over. -/
structure Leased (o : Orchestrator) (w : World) (log : MigrationLog World) : Prop where
  reached : ∀ t, Acquired t log → t ≤ w.lease.token
  released : ∀ t, Released o t log → Past t w.lease

theorem acquired_of_released {t : Int} (h : Released o t log) : Acquired t log := by
  obtain ⟨site, before, e, after, rfl, ⟨a, row, hanswered⟩, -⟩ := h
  exact ⟨e, by simp, a, row, hanswered⟩

theorem Leased.step {c : MigrationCall} {a : Except MigrationError (Answer c)} {w' : World}
    (h : Leased o w log) (hserve : Serves w c a w') : Leased o w' (log ++ [⟨w, c, a⟩]) := by
  obtain ⟨f, gs, gs', hbefore, hafter, hanswer⟩ := hserve.lease
  refine ⟨fun t ht => ?_, fun t ht => ?_⟩
  · obtain ⟨e, he, a', row, ⟨u, rfl⟩, ht⟩ := ht
    rcases List.mem_append.mp he with he | he
    · have hreached := h.reached t ⟨_, he, a', row, ⟨u, rfl⟩, ht⟩
      exact Int.le_trans hreached (Int.le_trans hbefore.token_le hafter.token_le)
    · cases List.mem_singleton.mp he
      have hrow : row.lease.fencingToken ≤ f.token := hanswer
      rw [ht] at hrow
      exact Int.le_trans hrow hafter.token_le
  · obtain ⟨site, horder⟩ := ht
    have hsplit : InOrder ([_] ++ [_]) (log ++ [⟨w, c, a⟩]) := horder
    rcases hsplit.of_snoc with hold | ⟨hacquired, u, hrelease⟩
    · exact ((h.released t ⟨site, hold⟩).run hbefore).run hafter
    · -- the release itself: the token has been reached, and the lease is free
      cases hrelease
      have hfree : f.holder = none := hanswer
      obtain ⟨e, he, hacquired⟩ := inOrder_single.mp hacquired
      have hreached := h.reached t ⟨e, he, hacquired⟩
      have hpast : Past t f := by
        rcases Int.lt_or_eq_of_le (Int.le_trans hreached hbefore.token_le) with hlt | heq
        · exact Or.inl hlt
        · exact Or.inr ⟨heq, hfree⟩
      exact hpast.run hafter

theorem leased_run {α : Type} {p p' : Script MigrationError Answer α}
    (h : Steps (traced Serves) p (w₀, []) p' (w, log)) : Leased o w log := by
  have hnone : ∀ t, ¬ Acquired t ([] : MigrationLog World) := fun _ ⟨_, he, _⟩ =>
    List.not_mem_nil he
  have hstart : Leased o w₀ [] := ⟨fun t ht => absurd ht (hnone t),
    fun t ht => absurd (acquired_of_released ht) (hnone t)⟩
  refine Steps.invariant (P := fun s : World × MigrationLog World => Leased o s.1 s.2) h hstart ?_
  rintro ⟨w, log⟩ c a ⟨w', log'⟩ hl ⟨hserve, rfl⟩
  exact hl.step hserve

/-- The lease is held by this run, with the token `t`. -/
def StillHeld (o : Orchestrator) (t : Int) (w : World) : Prop :=
  w.lease.token = t ∧ ∃ c, w.lease.holder = some c ∧ c.ownerId = some o.ownerId

theorem not_stillHeld {t : Int} (h : Past t w.lease) : ¬ StillHeld o t w := by
  rintro ⟨htoken, c, hholder, -⟩
  rw [h.not_held htoken] at hholder
  cases hholder

/-- An exception that leaves the lease with this run: one of a call made without a client,
unless it is an ambiguous error of the orchestrator's own kind; and an error of that kind,
not ambiguous, of the read after a rebind that failed. -/
def Strands (ev : MigrationEvent World) : Prop :=
  (windowCall ev.made = true ∧ ∃ e, ev.answer = .error e ∧
    ∀ code detail reported, e ≠ .migration code detail .ambiguous reported) ∨
  (ev.made = .readSchemaVersion .rebindFailed ∧
    ∃ code detail phase reported, ev.answer = .error (.migration code detail phase reported) ∧
      phase ≠ .ambiguous)

/-- The phase that is reported is the one that the handler goes by. -/
theorem reported_phase {state : ExecutionState} {e : MigrationError} {code detail : String}
    {phase : Phase} {sv : Option Int}
    (h : .migration code detail phase sv = Orchestrator.reported state e) :
    Orchestrator.reportedPhase state e = phase := by
  cases e with
  | migration code' detail' phase' sv' =>
    cases h
    rfl
  | other text =>
    cases h
    rfl

/-- An exception of the body that is not reported as ambiguous leaves a client, as long as no
step strands the lease. -/
theorem cause_client {s : Fields} {log₀ : MigrationLog World} {e : MigrationError} {t : Int}
    (hcause : Cause o s log₀ e) (hacquired : Acquired t log₀)
    (hphase : Orchestrator.reportedPhase s.executionState e ≠ .ambiguous)
    (hcond : ∀ ev ∈ log₀, ¬ Strands ev) : s.client = true := by
  cases hcause with
  | early before raised => exact before.client.resolve_right fun hnone => hnone t hacquired
  | shut before ev last window raised uncommitted =>
    refine absurd (Or.inl ⟨window, e, raised, ?_⟩) (hcond ev (by rw [last]; simp))
    rintro code detail reported rfl
    exact hphase rfl
  | delayed raised =>
    obtain ⟨code, detail, rfl⟩ := raised
    exact absurd rfl hphase
  | ambiguous version last raised =>
    obtain ⟨code, detail, rfl⟩ := raised
    exact absurd rfl hphase
  | unreadable last state =>
    obtain ⟨before, ev, rfl, u, rfl⟩ := last
    cases e with
    | other text =>
      rw [state] at hphase
      exact absurd rfl hphase
    | migration code detail phase sv =>
      have hlast := hcond _ (List.mem_append_right before (List.mem_singleton_self _))
      exact absurd (Or.inr ⟨rfl, code, detail, phase, sv, rfl, hphase⟩) hlast
  | unread last state client => exact client
  | observed version seen state client raised => exact client

/-- **No leak.** A run that acquired the lease, whose own calls of the lease client all
worked, that returns or raises with a phase other than AMBIGUOUS, and in which no step
strands the lease, does not hold it any more. -/
theorem lease_released {t : Int} {s : Fields} {outcome : Except MigrationError ProductionMigrationResult}
    (h : Steps (traced Serves) (o.run Fields.initial) (w₀, []) (.done (.ok (outcome, s))) (w, log))
    (hacquired : Acquired t log) (hworked : ClientWorked log)
    (hphase : ∀ code detail reported, outcome ≠ .error (.migration code detail .ambiguous reported))
    (hcond : ∀ ev ∈ log, ¬ Strands ev) : ¬ StillHeld o t w := by
  have hleased : Leased o w log := leased_run h
  refine not_stillHeld (hleased.released t ?_)
  obtain ⟨outcome', s', hr, hended⟩ := run_ended h.to_logged
  cases hr
  cases outcome with
  | ok result =>
    rw [hended.token t hacquired]
    exact hended.released
  | error e =>
    rcases hended with hclosing | ⟨s₀, log₀, e₀, htoken, hcause, hhandled⟩
    · -- the last close is a call of the client
      obtain ⟨before, _, rfl, u, rfl⟩ := hclosing
      obtain ⟨a, ha⟩ := hworked _ (List.mem_append_right _ (List.mem_singleton_self _)) rfl
      cases ha
    · obtain ⟨more, rfl, hmore⟩ := hhandled.grown
      have hacquired₀ : Acquired t log₀ :=
        (acquired_quiet (fun ev hev => (hmore ev hev).1) t).mp hacquired
      have hhandler : Orchestrator.reportedPhase s₀.executionState e₀ ≠ .ambiguous := by
        intro hambiguous
        have hreported := hhandled.reported
        cases e with
        | migration code detail phase sv =>
          rw [reported_phase hreported] at hambiguous
          rw [hambiguous] at hphase
          exact hphase code detail sv rfl
        | other text => cases e₀ <;> cases hreported
      have hclient := cause_client hcause hacquired₀ hhandler
        fun ev hev => hcond ev (List.mem_append_left _ hev)
      exact hhandled.released hclient hhandler t ((htoken t).mpr hacquired₀) hacquired₀ hworked

/-- Every call of the client worked, and it acquired the lease with this token. -/
def clientAcquired (t : Int) (log : MigrationLog World) : Bool :=
  (log.all fun e => !clientCall e.made || e.answer matches .ok _) &&
  log.any fun e =>
    match e with
    | ⟨_, .acquire _, .ok row⟩ => decide (row.lease.fencingToken = t)
    | _ => false

theorem clientAcquired_spec {t : Int} (h : clientAcquired t log = true) :
    ClientWorked log ∧ Acquired t log := by
  unfold clientAcquired at h
  rw [Bool.and_eq_true] at h
  constructor
  · intro e he hclient
    have htest := List.all_eq_true.mp h.1 e he
    rw [hclient] at htest
    cases ha : e.answer with
    | ok a => exact ⟨a, ha⟩
    | error error =>
      rw [ha] at htest
      cases htest
  · obtain ⟨⟨w, c, a⟩, he, htest⟩ := List.any_eq_true.mp h.2
    cases c with
    | acquire request =>
      cases a with
      | ok row => exact ⟨_, he, request, row, ⟨w, rfl⟩, of_decide_eq_true htest⟩
      | error error => cases htest
    | _ => cases htest

/-- The connection for the migration cannot be opened, after the client has been closed: the
run raises before its transaction, and the lease is still its own. -/
theorem stranded : ∃ (w : World) (log : MigrationLog World) (s : Fields) (code detail : String),
    Steps (traced Serves) (sampleOrchestrator.run Fields.initial) (sampleStart, [])
      (.done (.ok (.error (.migration code detail .preTransaction (some 6)), s))) (w, log) ∧
    Acquired 1 log ∧ ClientWorked log ∧ StillHeld sampleOrchestrator 1 w := by
  have hrun : (sampleRun fun c => c matches .connect).any (fun p =>
      reports .preTransaction 6 (some "owner") p && clientAcquired 1 p.2.2 &&
        decide (p.2.1.lease.token = 1)) = true := by decide +kernel
  obtain ⟨r, w, log, hsteps, htest⟩ := sampleRun_steps hrun
  rw [Bool.and_eq_true, Bool.and_eq_true] at htest
  obtain ⟨⟨hreports, hclient⟩, htoken⟩ := htest
  obtain ⟨⟨code, detail, s, rfl⟩, -, howner⟩ := reports_iff.mp hreports
  obtain ⟨hworked, hacquired⟩ := clientAcquired_spec hclient
  obtain ⟨c, hholder, hc⟩ := Option.bind_eq_some_iff.mp howner
  exact ⟨w, log, s, code, detail, hsteps, hacquired, hworked, of_decide_eq_true htoken, c, hholder, hc⟩

/-- Calls that can strand the lease. -/
def strandCall : MigrationCall → Bool
  | .readSchemaVersion .rebindFailed => true
  | c => windowCall c

theorem strandCall_window {c : MigrationCall} (h : windowCall c = true) : strandCall c = true := by
  cases c <;> first | rfl | cases h

theorem not_strands (h : (log.all fun e => !strandCall e.made) = true) :
    ∀ ev ∈ log, ¬ Strands ev := by
  intro ev hev hstrands
  have htest := List.all_eq_true.mp h ev hev
  rcases hstrands with ⟨hwindow, -⟩ | ⟨hread, -⟩
  · rw [strandCall_window hwindow] at htest
    cases htest
  · rw [hread] at htest
    cases htest

theorem lease_released_sample : ∃ (w : World) (log : MigrationLog World) (s : Fields)
    (code detail : String),
    Steps (traced Serves) (sampleOrchestrator.run Fields.initial) (sampleStart, [])
      (.done (.ok (.error (.migration code detail .preTransaction (some 6)), s))) (w, log) ∧
    Acquired 1 log ∧ ¬ StillHeld sampleOrchestrator 1 w := by
  have hrun : (sampleRun fun c => c matches .latestWriterEvent).any (fun p =>
      reports .preTransaction 6 none p && clientAcquired 1 p.2.2 &&
        p.2.2.all fun e => !strandCall e.made) = true := by decide +kernel
  obtain ⟨r, w, log, hsteps, htest⟩ := sampleRun_steps hrun
  rw [Bool.and_eq_true, Bool.and_eq_true] at htest
  obtain ⟨⟨hreports, hclient⟩, hcalm⟩ := htest
  obtain ⟨⟨code, detail, s, rfl⟩, -, -⟩ := reports_iff.mp hreports
  obtain ⟨hworked, hacquired⟩ := clientAcquired_spec hclient
  exact ⟨w, log, s, code, detail, hsteps, hacquired, lease_released hsteps hacquired hworked
    (fun _ _ _ h => by cases h) (not_strands hcalm)⟩

/-! ## The store -/

theorem assertCurrent_row {env : Env} {n : Nat} {owner : String} {token : Int} {db db' : Db}
    {row : GlobalWriterLease} (h : assertCurrentGlobalWriter env n owner token db = .ok (row, db')) :
    row = db.globalWriterLease := by
  unfold assertCurrentGlobalWriter at h
  obtain ⟨-, h⟩ := Tx.require_bind_ok.mp h
  obtain ⟨-, h⟩ := Tx.require_bind_ok.mp h
  obtain ⟨-, h⟩ := getLease_bind_ok.mp h
  obtain ⟨-, h⟩ := requireCurrentGlobalWriter_bind_ok.mp h
  cases h
  rfl

theorem acquired_row {env : Env} {a : AcquireWriter} {db db' : Db} {row : GlobalWriterLease}
    (h : (WriterCall.acquire a).exec env db = (.ok row, db')) : row = db'.globalWriterLease := by
  obtain ⟨g, t, -, hread⟩ := Tx.commitThen_ok h
  obtain ⟨current, db'', hcurrent, hread⟩ := Tx.bind_ok.mp hread
  obtain ⟨-, hread⟩ := Tx.require_bind_ok.mp hread
  cases hread
  exact assertCurrent_row hcurrent

theorem released_free {env : Env} {r : ReleaseWriter} {db db' : Db} {row : GlobalWriterLease}
    (h : (WriterCall.release r).exec env db = (.ok row, db')) : (writerFence db').holder = none := by
  obtain ⟨g, t, -, hread⟩ := Tx.commitThen_ok h
  obtain ⟨-, hread⟩ := getLease_bind_ok.mp hread
  obtain ⟨hfree, -⟩ := Tx.require_bind_ok.mp hread
  unfold writerFence
  rw [hfree.1]
  rfl

/-- The store's own calls of the lease serve the orchestrator as this world does: a call
moves the lease by one step, an acquisition answers a token that it has reached, and a
release that works leaves the lease free. -/
theorem store_serves (env : Env) (db : Db) (version : Int) (raised : PyError → MigrationError) :
    (∀ a, Serves ⟨version, writerFence db⟩ (.acquire a)
      ((((WriterCall.acquire a).exec env db).1.mapError raised).map fun row => ⟨some resource, row⟩)
      ⟨version, writerFence ((WriterCall.acquire a).exec env db).2⟩) ∧
    ∀ site r, Serves ⟨version, writerFence db⟩ (.release site r)
      ((((WriterCall.release r).exec env db).1.mapError raised).map fun _ => ())
      ⟨version, writerFence ((WriterCall.release r).exec env db).2⟩ := by
  have hstep : ∀ call : WriterCall, ∃ gs, FenceRun (writerFence db) gs
      (writerFence (call.exec env db).2) := fun call => ⟨_, .cons (call.step env db) (.nil _)⟩
  constructor
  · intro a
    obtain ⟨gs, hrun⟩ := hstep (.acquire a)
    refine ⟨Or.inl rfl, trivial, _, gs, [], hrun, .nil _, ?_⟩
    rcases hexec : (WriterCall.acquire a).exec env db with ⟨outcome, db'⟩
    cases outcome with
    | error e => exact trivial
    | ok row =>
      exact Int.le_of_eq (congrArg GlobalWriterLease.fencingToken (acquired_row hexec))
  · intro site r
    obtain ⟨gs, hrun⟩ := hstep (.release r)
    refine ⟨Or.inl rfl, trivial, _, gs, [], hrun, .nil _, ?_⟩
    rcases hexec : (WriterCall.release r).exec env db with ⟨outcome, db'⟩
    cases outcome with
    | error e => exact trivial
    | ok row => exact released_free hexec

end Adcp.L5.Migration
