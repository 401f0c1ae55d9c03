import Adcp.L1Base.Interleaving
import Adcp.L1Base.WriteAheadLog
import Adcp.L5Migration.Schema10Backup

/-!
# Is the schema-9 backup what the migration starts from?

The two programs of the backup and the lease, one after the other, on a database in WAL
mode that other processes commit to, checkpoint and close at any moment. What the programs
read of the main file says nothing of a commit that is still in the log.

* `DiskServes`, `Others`: the database, its backups, and what the others do.
* `backup_is_start`: the acquiring transaction starts from the backup, as long as every
  commit since the copy shows in the main file when the acquisition reads it.
* `missed_commit`: one that does not is missed.
-/
namespace Adcp.L5.Migration.Schema10

open Adcp.L1 Adcp.L2 Adcp.L3 Script

/-! ## The database and the others -/

/-- How SQLite and `hashlib` read pages. -/
structure Sqlite (Page : Type) where
  sha256 : Pages Page → String × Int
  schema : Pages Page → SchemaState
  lease : Pages Page → GlobalWriterLease

/-- The database with its identity and times, the number of transactions that have been
committed, and the backups. -/
structure Disk (Page : Type) where
  db : WalFile Page
  device : Int
  inode : Int
  mtimeNs : Int
  commits : Nat
  backups : String → Option (Pages Page)

variable {Page : Type} {sqlite : Sqlite Page} {d d' : Disk Page}

def Disk.stat (sqlite : Sqlite Page) (d : Disk Page) : FileStat :=
  ⟨d.device, d.inode, (sqlite.sha256 d.db.main).2, d.mtimeNs⟩

def Disk.commit (d : Disk Page) (ws : List (Nat × Option Page)) : Disk Page :=
  { d with db := d.db.commit ws, commits := d.commits + 1 }

/-- What an answer says of the disk. -/
def DiskAnswer (sqlite : Sqlite Page) (d : Disk Page) :
    (c : BackupCall) → Except OperationalError (Answer c) → Prop
  | .sha256File .backup path, .ok sha => ∀ pages, d.backups path = some pages →
    sha = sqlite.sha256 pages
  | .sha256File _ _, .ok sha => sha = sqlite.sha256 d.db.main
  | .stat _, .ok s => s = d.stat sqlite
  | .inspectSchema path _, .ok state => state = sqlite.schema ((d.backups path).getD d.db.content)
  | .w08Row _, .ok row => row = sqlite.lease d.db.content
  | _, _ => True

/-- What a call leaves of the disk. A copy goes to a file that was made for it. -/
def DiskEffect (d : Disk Page) :
    (c : BackupCall) → Except OperationalError (Answer c) → Disk Page → Prop
  | .copyPages path, .ok _, d' => d.backups path = none ∧
      d' = { d with backups := Function.update d.backups path (some d.db.content) }
  | .copyPages path, .error _, d' => d' = d ∨ (d.backups path = none ∧
      ∃ pages, d' = { d with backups := Function.update d.backups path pages })
  | .acquire _, .ok _, d' => ∃ ws, d' = d.commit ws
  | .acquire _, .error _, d' => d' = d ∨ ∃ ws, d' = d.commit ws
  | _, _, d' => d' = d

def DiskServes (sqlite : Sqlite Page) (d : Disk Page) (c : BackupCall)
    (a : Except OperationalError (Answer c)) (d' : Disk Page) : Prop :=
  DiskAnswer sqlite d c a ∧ DiskEffect d c a d'

/-- Another process commits, or checkpoints, or closes the last connection. -/
inductive Others : Disk Page → Disk Page → Prop
  | commit (d : Disk Page) (ws : List (Nat × Option Page)) : Others d (d.commit ws)
  | move (d : Disk Page) {db : WalFile Page} (moves : WalMove d.db db) (mtimeNs : Int) :
      Others d { d with db := db, mtimeNs := mtimeNs }

/-! ## What later calls find -/

abbrev DiskEvent (Page : Type) : Type := Event (Disk Page) OperationalError Answer

/-- A disk that comes after another one. -/
structure Later (d d' : Disk Page) : Prop where
  commits : d.commits ≤ d'.commits
  content : d'.commits = d.commits → d'.db.content = d.db.content
  backups : ∀ path pages, d.backups path = some pages → d'.backups path = some pages

theorem Later.refl (d : Disk Page) : Later d d := ⟨Nat.le_refl _, fun _ => rfl, fun _ _ h => h⟩

theorem Later.trans {d'' : Disk Page} (h : Later d d') (h' : Later d' d'') : Later d d'' := by
  have hle := h.commits
  have hle' := h'.commits
  refine ⟨Nat.le_trans hle hle', fun heq => ?_, fun path pages hp => ?_⟩
  · rw [h'.content (by omega), h.content (by omega)]
  · exact h'.backups path pages (h.backups path pages hp)

theorem later_commit (d : Disk Page) (ws : List (Nat × Option Page)) : Later d (d.commit ws) := by
  refine ⟨Nat.le_succ _, fun heq => ?_, fun _ _ h => h⟩
  exact absurd heq (Nat.succ_ne_self _)

theorem later_backup {path : String} (h : d.backups path = none) (pages : Option (Pages Page)) :
    Later d { d with backups := Function.update d.backups path pages } := by
  refine ⟨Nat.le_refl _, fun _ => rfl, fun other old hold => ?_⟩
  have hne : other ≠ path := by
    rintro rfl
    rw [h] at hold
    cases hold
  exact (Function.update_of_ne hne _ _).trans hold

theorem Others.later (h : Others d d') : Later d d' := by
  cases h with
  | commit ws => exact later_commit d ws
  | move moves mtimeNs => exact ⟨Nat.le_refl _, fun _ => moves.content, fun _ _ h => h⟩

theorem DiskEffect.later {c : BackupCall} {a : Except OperationalError (Answer c)}
    (h : DiskEffect d c a d') : Later d d' := by
  cases c with
  | copyPages path =>
    cases a with
    | ok u =>
      obtain ⟨hnone, rfl⟩ := h
      exact later_backup hnone _
    | error e =>
      rcases h with rfl | ⟨hnone, pages, rfl⟩
      · exact .refl _
      · exact later_backup hnone pages
  | acquire request =>
    cases a with
    | ok row =>
      obtain ⟨ws, rfl⟩ := h
      exact later_commit d ws
    | error e =>
      rcases h with rfl | ⟨ws, rfl⟩
      · exact .refl _
      · exact later_commit d ws
  | _ =>
    cases h
    exact .refl _

/-- What a call leaves for the later ones: the answer was one of the disk, and a copy is
there. -/
structure Found (sqlite : Sqlite Page) (e : DiskEvent Page) (d : Disk Page) : Prop where
  answer : DiskAnswer sqlite e.world e.made e.answer
  later : Later e.world d
  copied : ∀ path, e.Gave (.copyPages path) () → d.backups path = some e.world.db.content

theorem found_new {c : BackupCall} {a : Except OperationalError (Answer c)}
    (h : DiskServes sqlite d c a d') : Found sqlite ⟨d, c, a⟩ d' := by
  refine ⟨h.1, h.2.later, ?_⟩
  rintro path ⟨w, he⟩
  cases he
  obtain ⟨-, rfl⟩ := h.2
  exact Function.update_self ..

theorem Found.go {e : DiskEvent Page} (h : Found sqlite e d) (hlater : Later d d') :
    Found sqlite e d' :=
  ⟨h.answer, h.later.trans hlater, fun path he => hlater.backups _ _ (h.copied path he)⟩

/-! ## What a run has called -/

variable {ω : Type}
  {serve : ω → (c : BackupCall) → Except OperationalError (Answer c) → ω → Prop}
  {Ps : List (Event ω OperationalError Answer → Prop)}
  {log : List (Event ω OperationalError Answer)}

/-- A backup was copied, and then the main file read as its evidence has it. -/
def Copied (evidence : BackupEvidence) : List (Event ω OperationalError Answer → Prop) :=
  [Event.Gave (.copyPages evidence.backupPath) (),
   Event.Gave (.sha256File .after evidence.sourcePath) (evidence.sourceSha256, evidence.sourceSize)]

theorem returns_finally {α : Type} {x : BackupScript α} {last : BackupScript Unit}
    (hx : Returns serve x (fun _ log' => InOrder Ps log') log) :
    Returns serve (finally' x last) (fun _ log' => InOrder Ps log') log := by
  refine hx.attempt (fun a log' h => ?_) fun e log' => returns_fails log'
  exact h.skip fun _ _ h => returns_pure h

theorem returns_copyDatabase (h : InOrder Ps log) (source backupPath : String) :
    Returns serve (copyDatabase source backupPath)
      (fun _ log' => InOrder (Ps ++ [Event.Gave (.copyPages backupPath) ()]) log') log := by
  refine h.skip fun _ _ h => h.skip fun _ _ h => h.skip fun _ _ h => ?_
  have hcopy : Returns serve (do
      call .queryOnly
      call (.validateSchema schema9)
      call (.copyPages backupPath)
      call .commitDestination)
      (fun _ log' => InOrder (Ps ++ [Event.Gave (.copyPages backupPath) ()]) log') _ :=
    h.skip fun _ _ h => h.skip fun _ _ h => h.invoke fun _ _ h => h.returns _
  exact (returns_finally hcopy).bind fun _ _ h => h.skip fun _ _ h => h.returns _

/-- The evidence of a backup names the file of the copy, and the hash of the main file after
it. -/
theorem returns_createImmutableBackup (path evidenceRoot operationId : String)
    (now : Option String) :
    Returns serve (createImmutableBackup path evidenceRoot operationId now)
      (fun evidence log' => InOrder (Copied evidence) log') [] := by
  have h : InOrder [] ([] : List (Event ω OperationalError Answer)) := trivial
  refine h.skip fun _ _ h => h.skip fun resolved _ h => h.skip fun state _ h => h.skip
    fun _ _ h => ?_
  refine h.skip fun before _ h => h.skip fun shaBefore _ h => h.skip fun stamp _ h => ?_
  refine h.skip fun directory _ h => ?_
  refine (returns_copyDatabase h resolved _).bind fun _ _ h => ?_
  refine h.skip fun backupState _ h => h.skip fun backup _ h => h.skip fun after _ h => ?_
  refine h.invoke fun shaAfter _ h => h.skip fun _ _ h => h.skip fun _ _ h => ?_
  exact h.skip fun _ _ h => h.skip fun _ _ h => returns_pure h

theorem returns_acquireLease (h : InOrder Ps log) (request : AcquireWriter) :
    Returns serve (acquireLease request)
      (fun row log' => InOrder (Ps ++ [Event.Gave (.acquire request) row]) log') log := by
  have hacquire : Returns serve (call (.acquire request))
      (fun row log' => InOrder (Ps ++ [Event.Gave (.acquire request) row]) log') log := by
    refine ⟨trivial, ?_⟩
    rintro a log' ⟨w, w', -, rfl⟩ b hb
    cases hb
    exact h.snoc ⟨w, rfl⟩
  refine hacquire.attempt (fun row log' h => returns_pure h) fun e log' => ?_
  cases e with
  | store code => exact returns_fails log'
  | _ => exact fun _ hb => nomatch hb

/-- The acquisition reads the hash of the evidence before its transaction. -/
theorem returns_acquireSchema9W08 (h : InOrder Ps log) (path operationId : String)
    (backup : BackupEvidence) :
    Returns serve (acquireSchema9W08 path operationId backup) (fun _ log' =>
      ∃ resolved request row, InOrder (Ps ++
        [Event.Gave (.sha256File .acquisition resolved) (backup.sourceSha256, backup.sourceSize)] ++
        [Event.Gave (.acquire request) row]) log') log := by
  refine h.skip fun _ _ h => h.skip fun _ _ h => h.skip fun resolved _ h => h.skip fun _ _ h => ?_
  refine h.skip fun _ _ h => h.skip fun _ _ h => h.skip fun current _ h => ?_
  refine h.invoke fun sha _ h => returns_require fun hsame => ?_
  rw [hsame.2.2] at h
  refine h.skip fun state _ h => h.skip fun _ _ h => h.skip fun _ _ h => h.skip
    fun attemptId _ h => ?_
  refine h.skip fun acquireKey _ h => h.skip fun releaseKey _ h => h.skip fun _ _ h => ?_
  refine (returns_acquireLease h _).bind fun row log' h => ?_
  exact (h.returns _).mono fun held log' h => ⟨resolved, _, row, h⟩

/-- A run that has acquired the lease for its backup. -/
theorem returns_backUpAndAcquire (path evidenceRoot operationId : String) (now : Option String) :
    Returns serve (backUpAndAcquire path evidenceRoot operationId now)
      (fun p log' => ∃ resolved request row, InOrder (Copied p.1 ++
        [Event.Gave (.sha256File .acquisition resolved) (p.1.sourceSha256, p.1.sourceSize)] ++
        [Event.Gave (.acquire request) row]) log') [] := by
  refine (returns_createImmutableBackup path evidenceRoot operationId now).bind
    fun evidence _ h => ?_
  exact (returns_acquireSchema9W08 h path operationId evidence).bind fun _ _ h => returns_pure h

/-! ## The backup is what the migration starts from -/

/-- Every commit since the copy shows when the acquisition reads the main file: none falls
between that reading and the acquiring transaction, and one that fell between the copy and
that reading has by then changed the hash or the size of the file. -/
def Shown (sqlite : Sqlite Page) (log : List (DiskEvent Page)) : Prop :=
  ∀ copy after read acquiring, [copy, after, read, acquiring].Sublist log →
    (∃ path, copy.made = .copyPages path) → (∃ path, after.made = .sha256File .after path) →
    (∃ path, read.made = .sha256File .acquisition path) →
    (∃ request, acquiring.made = .acquire request) →
    acquiring.world.commits = read.world.commits ∧
      (read.world.commits ≠ copy.world.commits →
        sqlite.sha256 read.world.db.main ≠ sqlite.sha256 after.world.db.main)

/-- What a run that has acquired the lease for its backup has called, and what the acquiring
transaction found of the copy. -/
theorem acquired_found {path evidenceRoot operationId : String} {now : Option String}
    {d₀ : Disk Page} {procs : Unit → BackupScript (BackupEvidence × HeldW08)}
    {log : List (Unit × DiskEvent Page)} {evidence : BackupEvidence} {held : HeldW08}
    (h : Interleaved (DiskServes sqlite) Others (fun _ _ _ _ => True)
      (fun _ => backUpAndAcquire path evidenceRoot operationId now) d₀ d procs log)
    (hdone : procs () = .done (.ok (evidence, held))) :
    ∃ copy after read acquiring, [copy, after, read, acquiring].Sublist (own () log) ∧
      copy.Gave (.copyPages evidence.backupPath) () ∧
      (∃ path, after.made = .sha256File .after path) ∧
      (∃ path, read.made = .sha256File .acquisition path) ∧
      (∃ request row, acquiring.Gave (.acquire request) row) ∧
      sqlite.sha256 read.world.db.main = sqlite.sha256 after.world.db.main ∧
      Later copy.world acquiring.world ∧
      acquiring.world.backups evidence.backupPath = some copy.world.db.content := by
  have hsteps := h.own_steps ()
  rw [hdone] at hsteps
  have hreturns : Returns (DiskServes sqlite) (backUpAndAcquire path evidenceRoot operationId now)
      _ [] := returns_backUpAndAcquire path evidenceRoot operationId now
  obtain ⟨resolved, request, row, horder⟩ := (hreturns.steps hsteps) _ rfl
  have hfound : (own () log).Pairwise fun e e' => Found sqlite e e'.world := by
    have hrecorded := (h.recorded (Q := Found sqlite) (fun _ _ _ _ hs => found_new hs)
      (fun _ _ _ _ _ hq hs => hq.go hs.2.later) fun _ _ _ hq ho => hq.go ho.later).2
    exact List.pairwise_map.mpr (hrecorded.filter _)
  -- the copy, the two readings and the acquisition
  obtain ⟨es, hsub, hall⟩ := horder.sublist
  obtain ⟨copy, es₁, hcopy, hall₁, rfl⟩ := List.forall₂_cons_left_iff.mp hall
  obtain ⟨after, es₂, hafter, hall₂, rfl⟩ := List.forall₂_cons_left_iff.mp hall₁
  obtain ⟨read, es₃, hread, hall₃, rfl⟩ := List.forall₂_cons_left_iff.mp hall₂
  obtain ⟨acquiring, es₄, hacquiring, hall₄, rfl⟩ := List.forall₂_cons_left_iff.mp hall₃
  obtain rfl := List.forall₂_nil_left_iff.mp hall₄
  have hpairs := hfound.sublist hsub
  simp only [List.pairwise_cons] at hpairs
  have hcopied := hpairs.1 acquiring (by simp)
  have hafter' := (hpairs.2.1 acquiring (by simp)).answer
  have hread' := (hpairs.2.2.1 acquiring (by simp)).answer
  refine ⟨copy, after, read, acquiring, hsub, hcopy, ⟨_, hafter.made⟩, ⟨_, hread.made⟩,
    ⟨request, row, hacquiring⟩, ?_, hcopied.later, hcopied.copied _ hcopy⟩
  obtain ⟨w₂, rfl⟩ := hafter
  obtain ⟨w₃, rfl⟩ := hread
  exact hread'.symm.trans hafter'

/-- **The backup is the start.** Whenever a lease has been acquired for the backup, the
acquiring transaction found as its database what the backup file holds. -/
theorem backup_is_start {path evidenceRoot operationId : String} {now : Option String}
    {d₀ : Disk Page} {procs : Unit → BackupScript (BackupEvidence × HeldW08)}
    {log : List (Unit × DiskEvent Page)} {evidence : BackupEvidence} {held : HeldW08}
    (h : Interleaved (DiskServes sqlite) Others (fun _ _ _ _ => True)
      (fun _ => backUpAndAcquire path evidenceRoot operationId now) d₀ d procs log)
    (hdone : procs () = .done (.ok (evidence, held))) (hshown : Shown sqlite (own () log)) :
    ∃ e ∈ own () log, (∃ request row, e.Gave (.acquire request) row) ∧
      e.world.backups evidence.backupPath = some e.world.db.content := by
  obtain ⟨copy, after, read, acquiring, hsub, hcopy, hafter, hread, hacquiring, hsha, hlater,
    hbackup⟩ := acquired_found h hdone
  obtain ⟨request, row, hrequest⟩ := hacquiring
  obtain ⟨hquiet, hunseen⟩ := hshown copy after read acquiring hsub ⟨_, hcopy.made⟩ hafter hread
    ⟨_, hrequest.made⟩
  -- the acquisition has read the hash that followed the copy
  have hsame : read.world.commits = copy.world.commits :=
    Classical.byContradiction fun hne => hunseen hne hsha
  refine ⟨acquiring, hsub.subset (by simp), ⟨request, row, hrequest⟩, ?_⟩
  rw [hbackup, hlater.content (hquiet.trans hsame)]

/-! ## A disk to run on -/

/-- Three pages of numbers; the last one is the lease's. -/
def sampleSqlite : Sqlite Nat where
  sha256 pages := (String.intercalate ","
    ((List.range 3).map fun i => toString ((pages i).getD 0)), 12288)
  schema _ := ⟨9, "profile", [], "ok", 0⟩
  lease pages :=
    { state := if (pages 2).getD 0 = 0 then .FREE else .HELD, context := .empty, fencingToken := 0
      acquiredAt := none, expiresAt := none, heartbeatAt := none, updatedAt := Timestamp.epoch }

def sampleDisk : Disk Nat where
  db := ⟨fun i => if i < 3 then some 0 else none, []⟩
  device := 1
  inode := 1
  mtimeNs := 0
  commits := 0
  backups _ := none

def sampleLease : GlobalWriterLease where
  state := .HELD
  context := expectedLeaseContext "operation" "TK43_DL85_SCHEMA10:attempt" "attempt"
  fencingToken := 1
  acquiredAt := some Timestamp.epoch
  expiresAt := some Timestamp.epoch
  heartbeatAt := some Timestamp.epoch
  updatedAt := Timestamp.epoch

def sampleAnswer (d : Disk Nat) : (c : BackupCall) → Answer c
  | .lstat _ => ⟨false, true⟩
  | .resolve path => path
  | .now => "now"
  | .newAttempt => "attempt"
  | .inspectSchema path _ => sampleSqlite.schema ((d.backups path).getD d.db.content)
  | .w08Row _ => sampleSqlite.lease d.db.content
  | .acquire _ | .assertCurrent .. => sampleLease
  | .stat _ => d.stat sampleSqlite
  | .sha256File .backup path => sampleSqlite.sha256 ((d.backups path).getD d.db.main)
  | .sha256File _ _ => sampleSqlite.sha256 d.db.main
  | .writerEvents => [⟨1, "ACQUIRE", some "TK43_DL85_SCHEMA10:attempt", 1⟩]
  | .makeRoot _ | .makeDirectory _ | .openNew _ | .connectSource _ | .connectDestination _
  | .queryOnly | .validateSchema _ | .copyPages _ | .commitDestination | .closeDestination
  | .closeSource | .makeReadOnly _ | .syncFile _ | .syncDirectory _ | .write _ | .flush
  | .syncStream | .closeStream | .verifyBackup _ | .openStore _ | .closeStore => ()

/-- A copy that is there is not written over. -/
def sampleCopy (d : Disk Nat) (path : String) : Except OperationalError Unit × Disk Nat :=
  match d.backups path with
  | none => (.ok (), { d with backups := Function.update d.backups path (some d.db.content) })
  | some _ => (.error (.other "exists"), d)

/-- Every other call works. -/
def sampleRespond (s : Disk Nat × List (DiskEvent Nat)) :
    (c : BackupCall) → Except OperationalError (Answer c) × Disk Nat
  | .copyPages path => sampleCopy s.1 path
  | .acquire request => (.ok (sampleAnswer s.1 (.acquire request)), s.1.commit [(2, some 1)])
  | c => (.ok (sampleAnswer s.1 c), s.1)

theorem sampleRespond_serves (s : Disk Nat × List (DiskEvent Nat)) (c : BackupCall) :
    DiskServes sampleSqlite s.1 c (sampleRespond s c).1 (sampleRespond s c).2 := by
  cases c with
  | copyPages path =>
    show DiskAnswer sampleSqlite s.1 (.copyPages path) (sampleCopy s.1 path).1 ∧
      DiskEffect s.1 (.copyPages path) (sampleCopy s.1 path).1 (sampleCopy s.1 path).2
    unfold sampleCopy
    cases hnone : s.1.backups path with
    | none => exact ⟨trivial, hnone, rfl⟩
    | some pages => exact ⟨trivial, Or.inl rfl⟩
  | acquire request => exact ⟨trivial, _, rfl⟩
  | sha256File reading path =>
    cases reading with
    | backup =>
      refine ⟨fun pages hpages => ?_, rfl⟩
      show sampleSqlite.sha256 ((s.1.backups path).getD s.1.db.main) = _
      rw [hpages]
      rfl
    | _ => exact ⟨rfl, rfl⟩
  | stat path => exact ⟨rfl, rfl⟩
  | inspectSchema path version => exact ⟨rfl, rfl⟩
  | w08Row path => exact ⟨rfl, rfl⟩
  | _ => exact ⟨trivial, rfl⟩

def sampleAcquisition (evidence : BackupEvidence) : BackupScript (BackupEvidence × HeldW08) := do
  let held ← acquireSchema9W08 "db" "operation" evidence
  pure (evidence, held)

/-- A backup, what `between` does, and the acquisition: the calls of a run that returns. -/
def sampleRun (between : Disk Nat → Disk Nat) : Option (List (DiskEvent Nat)) :=
  (play sampleRespond 100 (createImmutableBackup "db" "root" "operation" (some "now"))
    (sampleDisk, [])).bind fun
  | (.error _, _) => none
  | (.ok evidence, d₁, log₁) =>
    (play sampleRespond 100 (sampleAcquisition evidence) (between d₁, log₁)).bind fun
    | (.error _, _) => none
    | (.ok _, _, log) => some log

abbrev SampleInterleaved (d : Disk Nat)
    (procs : Unit → BackupScript (BackupEvidence × HeldW08))
    (log : List (Unit × DiskEvent Nat)) : Prop :=
  Interleaved (DiskServes sampleSqlite) Others (fun _ _ _ _ => True)
    (fun _ => backUpAndAcquire "db" "root" "operation" (some "now")) sampleDisk d procs log

/-- What a test of its end finds, an interleaving does. -/
theorem sampleRun_interleaved (between : Disk Nat → Disk Nat) (hbetween : ∀ d, Others d (between d))
    {test : List (DiskEvent Nat) → Bool}
    (h : (sampleRun between).any test = true) :
    ∃ d procs log evidence held, SampleInterleaved d procs log ∧
      procs () = .done (.ok (evidence, held)) ∧ test (own () log) = true := by
  cases hrun : sampleRun between with
  | none =>
    rw [hrun] at h
    cases h
  | some log =>
    rw [hrun] at h
    unfold sampleRun at hrun
    obtain ⟨⟨r₁, d₁, log₁⟩, hcreate, hrun⟩ := Option.bind_eq_some_iff.mp hrun
    cases r₁ with
    | error e => cases hrun
    | ok evidence =>
      obtain ⟨⟨r₂, d₂, log'⟩, hacquire, hrun⟩ := Option.bind_eq_some_iff.mp hrun
      cases r₂ with
      | error e => cases hrun
      | ok result =>
        cases hrun
        have hsteps₁ : Steps (traced (DiskServes sampleSqlite))
            (backUpAndAcquire "db" "root" "operation" (some "now")) (sampleDisk, [])
            (sampleAcquisition evidence) (d₁, log₁) :=
          (play_steps sampleRespond_serves hcreate).bind_of_ok
        have hsteps₂ := play_steps sampleRespond_serves hacquire
        have hstart : SampleInterleaved sampleDisk _ [] := .start
        obtain ⟨more₁, hmore₁, hfirst⟩ :=
          hstart.advance () (fun _ _ _ => trivial) hsteps₁ rfl
        obtain ⟨more₂, hmore₂, hsecond⟩ :=
          (hfirst.other (hbetween d₁)).advance () (fun _ _ _ => trivial) hsteps₂ rfl
        refine ⟨_, _, _, result.1, result.2, hsecond, Function.update_self .., ?_⟩
        rw [own_append, own_append, own_map_self, own_map_self]
        have hlog : log = more₁ ++ more₂ := by
          rw [show log₁ = more₁ from hmore₁] at hmore₂
          exact hmore₂
        rw [hlog] at h
        exact h

/-- The first page of what every such call finds. -/
def finds (test : BackupCall → Bool) (page : Option Nat) (log : List (DiskEvent Nat)) : Bool :=
  log.all fun e => !test e.made || decide (e.world.db.content 1 = page)

theorem finds_spec {test : BackupCall → Bool} {page : Option Nat} {log : List (DiskEvent Nat)}
    (h : finds test page log = true) {e : DiskEvent Nat} (he : e ∈ log)
    (hmade : test e.made = true) :
    e.world.db.content 1 = page := by
  have htest := List.all_eq_true.mp h e he
  rw [hmade] at htest
  exact of_decide_eq_true htest

/-- **Missed.** A commit after the copy that stays in the log: the acquisition returns the
lease for the backup, and its transaction has found another page than the backup has. -/
theorem missed_commit : ∃ d procs log evidence held, SampleInterleaved d procs log ∧
    procs () = .done (.ok (evidence, held)) ∧
    ¬ ∃ e ∈ own () log, (∃ request row, e.Gave (.acquire request) row) ∧
      e.world.backups evidence.backupPath = some e.world.db.content := by
  have hrun : (sampleRun fun d => d.commit [(1, some 7)]).any (fun log =>
      (finds (· matches .copyPages _) (some 0) log && finds (· matches .acquire _) (some 7) log) &&
      decide ((log.filter (·.made matches .acquire _)).length = 1)) = true := by decide +kernel
  obtain ⟨d, procs, log, evidence, held, hinterleaved, hdone, htest⟩ :=
    sampleRun_interleaved (fun d => d.commit [(1, some 7)]) (fun d => .commit d _) hrun
  refine ⟨d, procs, log, evidence, held, hinterleaved, hdone, ?_⟩
  rintro ⟨e, he, ⟨request, row, hacquire⟩, hbackup⟩
  rw [Bool.and_eq_true, Bool.and_eq_true] at htest
  obtain ⟨⟨hcopies, hacquires⟩, hone⟩ := htest
  obtain ⟨copy, after, read, acquiring, hsub, hcopy, -, -, ⟨request', row', hgave⟩, -, -, hfound⟩ :=
    acquired_found hinterleaved hdone
  have hcopyMem : copy ∈ own () log := hsub.subset (by simp)
  have hacquiringMem : acquiring ∈ own () log := hsub.subset (by simp)
  -- there is one acquisition
  have hsame : e = acquiring := by
    obtain ⟨only, honly⟩ := List.length_eq_one_iff.mp (of_decide_eq_true hone)
    have hmem : ∀ e' ∈ own () log, (e'.made matches .acquire _) = true → e' = only := by
      intro e' he' hmade
      have hfilter : e' ∈ (own () log).filter (·.made matches .acquire _) :=
        List.mem_filter.mpr ⟨he', hmade⟩
      rw [honly] at hfilter
      exact List.mem_singleton.mp hfilter
    rw [hmem e he (by rw [hacquire.made]), hmem acquiring hacquiringMem (by rw [hgave.made])]
  rw [hsame, hfound] at hbackup
  have hcopied := finds_spec hcopies hcopyMem (by rw [hcopy.made])
  have hpage := finds_spec hacquires hacquiringMem (by rw [hgave.made])
  rw [← Option.some.inj hbackup, hcopied] at hpage
  cases hpage

/-- The calls that follow the acquisition. -/
def afterAcquisition : BackupCall → Bool
  | .writerEvents | .assertCurrent .. => true
  | _ => false

/-- With the log brought into the file in between, and no commit, nothing is missed. -/
theorem backup_is_start_sample : ∃ d procs log evidence held, SampleInterleaved d procs log ∧
    procs () = .done (.ok (evidence, held)) ∧
    ∃ e ∈ own () log, (∃ request row, e.Gave (.acquire request) row) ∧
      e.world.backups evidence.backupPath = some e.world.db.content := by
  have hrun : (sampleRun fun d => { d with db := d.db.checkpoint 1, mtimeNs := 1 }).any (fun log =>
      log.all fun e => afterAcquisition e.made || decide (e.world.commits = 0)) = true := by
    decide +kernel
  obtain ⟨d, procs, log, evidence, held, hinterleaved, hdone, htest⟩ :=
    sampleRun_interleaved (fun d => { d with db := d.db.checkpoint 1, mtimeNs := 1 })
      (fun d => .move d (.checkpoint 1) 1) hrun
  have hzero : ∀ e ∈ own () log, afterAcquisition e.made = false → e.world.commits = 0 := by
    intro e he hmade
    have hcommits := List.all_eq_true.mp htest e he
    rw [hmade] at hcommits
    exact of_decide_eq_true hcommits
  refine ⟨d, procs, log, evidence, held, hinterleaved, hdone, backup_is_start hinterleaved hdone ?_⟩
  rintro copy after read acquiring hsub ⟨path, hcopy⟩ - ⟨path', hread⟩ ⟨request, hacquiring⟩
  have hcopy := hzero copy (hsub.subset (by simp)) (by rw [hcopy]; rfl)
  have hread := hzero read (hsub.subset (by simp)) (by rw [hread]; rfl)
  have hacquiring := hzero acquiring (hsub.subset (by simp)) (by rw [hacquiring]; rfl)
  exact ⟨hacquiring.trans hread.symm, fun hne => absurd (hread.trans hcopy.symm) hne⟩

end Adcp.L5.Migration.Schema10
