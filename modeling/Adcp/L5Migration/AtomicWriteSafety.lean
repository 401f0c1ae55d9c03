import Adcp.L5Migration.AtomicWrite
/-!
# What the outcome of a projection write says

Every file call takes effect and returns, or raises without effect (`Exact`). The calls of a run
are entered in a `Ledger`: which steps have failed, whether the destination was replaced, and
whether its directory was synced after that.

* `meets_writeTempStream`, `meets_fsyncDirectory`, `meets_replaceDestination`,
  `meets_removeTemp`: what each part reports, against the ledger.
* `atomicWriteExact_truthful`: on every run the outcome, returned or raised, agrees with the
  ledger and with the files.
-/
namespace Adcp.L5.Migration.AtomicWrite

open Adcp.L1 Script FileSystem

/-! ## The ledger of a run -/

/-- A call with its answer. -/
abbrev WriteEvent : Type := Event (Files Path) WriteError (FileAnswer (κ := Path))

/-- The failure a call that raised is: that there is no temporary file to remove is none. -/
def stepFailure : FileCall Path → StepError → Option AtomicFailureEvidence
  | .create .., e => some (atomicFailureEvidence "TEMP_CREATE" e)
  | .openStream _, e => some (atomicFailureEvidence "TEMP_STREAM_OPEN" e)
  | .write .., e => some (atomicFailureEvidence "TEMP_WRITE" e)
  | .flush _, e => some (atomicFailureEvidence "TEMP_FLUSH" e)
  | .fsync _, e => some (atomicFailureEvidence "TEMP_FSYNC" e)
  | .close _, e => some (atomicFailureEvidence "TEMP_STREAM_CLOSE" e)
  | .replace .., e => some (atomicFailureEvidence "DESTINATION_REPLACE" e)
  | .chmod .., e => some (atomicFailureEvidence "DESTINATION_CHMOD" e)
  | .openDirectory _, e => some (atomicFailureEvidence "DIRECTORY_OPEN" e)
  | .fsyncDirectory _, e => some (atomicFailureEvidence "DIRECTORY_FSYNC" e)
  | .closeDirectory _, e => some (atomicFailureEvidence "DIRECTORY_CLOSE" e)
  | .unlink _, e =>
    if e.fileNotFound then none else some (atomicFailureEvidence "TEMP_CLEANUP" e)
  | _, _ => none

structure Ledger where
  failures : List AtomicFailureEvidence := []
  replaced : Bool := false
  synced : Bool := false
  deriving DecidableEq

def Ledger.note (l : Ledger) (e : WriteEvent) : Ledger :=
  match e.made, e.answer with
  | c, .error err => { l with failures := l.failures ++ (stepFailure c err.asStep).toList }
  | .replace .., .ok _ => { l with replaced := true }
  | .fsyncDirectory _, .ok _ => { l with synced := l.synced || l.replaced }
  | _, .ok _ => l

/-- The ledger of the calls of a run. -/
def ledger (log : List WriteEvent) : Ledger := log.foldl Ledger.note {}

theorem ledger_snoc (log : List WriteEvent) (e : WriteEvent) :
    ledger (log ++ [e]) = (ledger log).note e := by
  unfold ledger
  rw [List.foldl_append, List.foldl_cons, List.foldl_nil]

/-- The ledger with failures added. -/
def Ledger.fails (l : Ledger) (more : List AtomicFailureEvidence) : Ledger :=
  { l with failures := l.failures ++ more }

theorem Ledger.fails_nil (l : Ledger) : l.fails [] = l := by
  unfold Ledger.fails
  rw [List.append_nil]

theorem Ledger.fails_fails (l : Ledger) (m m' : List AtomicFailureEvidence) :
    (l.fails m).fails m' = l.fails (m ++ m') := by
  unfold Ledger.fails
  rw [List.append_assoc]

/-! ## A step under `try` -/

/-- The files, with the calls a run has made. -/
abbrev Traced : Type := Files Path × List WriteEvent

def serve : Traced → (c : FileCall Path) → Except WriteError (FileAnswer c) → Traced → Prop :=
  traced (Exact WriteError.isFileNotFound)

/-- Nothing is asked of the calls. -/
def anyCall : Traced → FileCall Path → Prop := fun _ _ => True

/-- What an exception of a call says of the files. -/
def Absent (files : Files Path) : FileCall Path → StepError → Prop
  | .unlink p, e | .lstat p, e => e.fileNotFound = true → files p = none
  | _, _ => True

variable {α β : Type} {files : Files Path} {log : List WriteEvent}

/-- What an attempted call leaves, by its outcome. -/
def Tried (files : Files Path) (log : List WriteEvent) (c : FileCall Path) :
    Except WriteError (FileAnswer c) → Traced → Prop
  | .ok a, s => Done files c a s.1 ∧ ledger s.2 = (ledger log).note ⟨files, c, .ok a⟩
  | .error e, s => s.1 = files ∧ Absent files c e.asStep ∧
    ledger s.2 = (ledger log).fails (stepFailure c e.asStep).toList

theorem meets_try {c : FileCall Path}
    {f : Except WriteError (FileAnswer c) → Write β} {post : Except WriteError β → Traced → Prop}
    (hok : ∀ a files' log', Done files c a files' →
      ledger log' = (ledger log).note ⟨files, c, .ok a⟩ →
      Meets serve anyCall (f (.ok a)) post (files', log'))
    (herr : ∀ e log', Absent files c e.asStep →
      ledger log' = (ledger log).fails (stepFailure c e.asStep).toList →
      Meets serve anyCall (f (.error e)) post (files, log')) :
    Meets serve anyCall ((invoke c).attempt >>= f) post (files, log) := by
  have hone : Meets serve anyCall (invoke c) (Tried files log c) (files, log) := by
    refine meets_invoke.mpr ⟨trivial, ?_⟩
    rintro a ⟨files', log'⟩ ⟨⟨hserves, hnot⟩, hlog⟩
    have hledger : ledger log' = (ledger log).note ⟨files, c, a⟩ := by
      have hsnoc : log' = log ++ [⟨files, c, a⟩] := hlog
      rw [hsnoc]
      exact ledger_snoc log _
    cases a with
    | ok a => exact ⟨hserves, hledger⟩
    | error e =>
      refine ⟨hserves, ?_, hledger⟩
      cases c with
      | unlink p => exact hnot
      | lstat p => exact hnot
      | _ => trivial
  refine hone.attemptBind ?_
  rintro (e | a) ⟨files', log'⟩ h
  · obtain ⟨rfl, habsent, hledger⟩ := h
    exact herr e log' habsent hledger
  · exact hok a files' log' h.1 h.2

/-- A step under `try`: it was done, or it raised without effect and is among the failures. -/
theorem meets_tryStep {c : FileCall Path} {f : Option StepError → Write β}
    {post : Except WriteError β → Traced → Prop}
    (hok : ∀ a files' log', Done files c a files' →
      ledger log' = (ledger log).note ⟨files, c, .ok a⟩ →
      Meets serve anyCall (f none) post (files', log'))
    (herr : ∀ e log', Absent files c e →
      ledger log' = (ledger log).fails (stepFailure c e).toList →
      Meets serve anyCall (f (some e)) post (files, log')) :
    Meets serve anyCall (tryStep c >>= f) post (files, log) := by
  refine meets_bind.mpr (meets_try (fun a files' log' hdone hledger => ?_)
    fun e log' habsent hledger => ?_)
  · exact hok a files' log' hdone hledger
  · exact herr e.asStep log' habsent hledger

theorem meets_tryWrite {temp : Path} {payload : Bytes} {f : Option StepError → Write β}
    {post : Except WriteError β → Traced → Prop}
    (hok : ∀ files' log', Done files (.write temp payload) payload.length files' →
      ledger log' = ledger log → Meets serve anyCall (f none) post (files', log'))
    (herr : ∀ e log', ledger log' = (ledger log).fails [atomicFailureEvidence "TEMP_WRITE" e] →
      Meets serve anyCall (f (some e)) post (files, log')) :
    Meets serve anyCall (tryWrite temp payload >>= f) post (files, log) := by
  refine meets_bind.mpr (meets_try (fun a files' log' hdone hledger => ?_)
    fun e log' _ hledger => ?_)
  · -- a write that returns was not short
    have hlength : a = payload.length := hdone.choose_spec.2.1
    subst hlength
    simp only [ne_eq, not_true_eq_false, if_false]
    exact hok files' log' hdone hledger
  · exact herr e.asStep log' hledger

theorem meets_tryWhen {c : FileCall Path} {f : Option (Option StepError) → Write β}
    {post : Except WriteError β → Traced → Prop}
    (hok : ∀ a files' log', Done files c a files' →
      ledger log' = (ledger log).note ⟨files, c, .ok a⟩ →
      Meets serve anyCall (f (some none)) post (files', log'))
    (herr : ∀ e log', ledger log' = (ledger log).fails (stepFailure c e).toList →
      Meets serve anyCall (f (some (some e))) post (files, log')) :
    Meets serve anyCall (tryWhen true c >>= f) post (files, log) :=
  meets_bind.mpr (meets_tryStep hok fun e log' _ => herr e log')

/-! ## The stream -/

theorem firstNonNone_snoc {α : Type} (l : List (Option α)) (o : Option α) :
    firstNonNone (l ++ [o]) = (firstNonNone l).or o := by
  induction l with
  | nil => cases o <;> rfl
  | cons a l ih =>
    cases a with
    | none => exact ih
    | some a => rfl

/-- The failures of a stream, in the order of its steps. -/
def TempStreamOutcome.failures (o : TempStreamOutcome) : List AtomicFailureEvidence :=
  o.primaryFailure.toList ++ if o.closeIsPrimary then [] else o.closeFailure.toList

/-- The failures before the close. -/
def TempStreamOutcome.before (o : TempStreamOutcome) : Option AtomicFailureEvidence :=
  firstNonNone [o.openFailure, o.writeFailure, o.flushFailure, o.fsyncFailure]

theorem TempStreamOutcome.primaryFailure_eq (o : TempStreamOutcome) :
    o.primaryFailure = o.before.or o.closeFailure :=
  firstNonNone_snoc [o.openFailure, o.writeFailure, o.flushFailure, o.fsyncFailure] o.closeFailure

theorem TempStreamOutcome.failures_eq (o : TempStreamOutcome) :
    o.failures = o.before.toList ++ o.closeFailure.toList := by
  unfold failures
  rw [o.primaryFailure_eq, show o.closeIsPrimary = o.before.isNone from rfl]
  cases o.before with
  | none => simp
  | some f => rfl

/-- What a stream leaves: its failures are entered, no other file is touched, and without a
failure the temporary file holds the payload. -/
structure StreamEnds (temp : Path) (payload : Bytes) (s : Traced)
    (r : TempStreamOutcome × Option StepError) (s' : Traced) : Prop where
  entered : ledger s'.2 = (ledger s.2).fails r.1.failures
  frame : ∀ p, p ≠ temp → s'.1 p = s.1 p
  written : r.1.primaryFailure = none → contents s'.1 temp = some payload
  error : r.1.primaryFailure.isSome = r.2.isSome
  close : ∀ f, r.1.closeFailure = some f → f.operation = "TEMP_STREAM_CLOSE"

/-- The close of a stream that was opened, after any of its steps. -/
theorem meets_closeStream {temp : Path} {payload : Bytes} {writeError : Option StepError}
    {flushed synced : Option (Option StepError)} {s : Traced}
    (hentered : ledger log =
      (ledger s.2).fails (openedStream writeError flushed synced none).before.toList)
    (hframe : ∀ p, p ≠ temp → files p = s.1 p)
    (hwritten : writeError = none → contents files temp = some payload) :
    Meets serve anyCall (tryStep (.close temp) >>= fun closeError =>
        return (openedStream writeError flushed synced closeError,
          firstNonNone [writeError, flushed.join, synced.join, closeError]))
      (fun r s' => ∃ out, r = .ok out ∧ StreamEnds temp payload s out s') (files, log) := by
  have ends : ∀ (closeError : Option StepError) files' log', files' = files →
      ledger log' = (ledger log).fails
        (closeError.map (atomicFailureEvidence "TEMP_STREAM_CLOSE")).toList →
      StreamEnds temp payload s (openedStream writeError flushed synced closeError,
        firstNonNone [writeError, flushed.join, synced.join, closeError]) (files', log') := by
    rintro closeError files' log' rfl hlog'
    constructor
    · rw [hlog', hentered, Ledger.fails_fails, TempStreamOutcome.failures_eq]
      rfl
    · exact hframe
    · intro hprimary
      refine hwritten ?_
      cases writeError with
      | none => rfl
      | some e => exact nomatch hprimary
    · show (firstNonNone [none, writeError.map _, flushed.join.map _, synced.join.map _,
        closeError.map _]).isSome = _
      generalize flushed.join = flushError
      generalize synced.join = syncError
      cases writeError <;> cases flushError <;> cases syncError <;> cases closeError <;> rfl
    · intro f hf
      obtain ⟨e, -, rfl⟩ := Option.map_eq_some_iff.mp hf
      rfl
  refine meets_tryStep (fun _ files' log' hclose hlog' => ?_) fun closeError log' _ hlog' => ?_
  · refine ⟨_, rfl, ends none files' log' hclose ?_⟩
    rw [hlog']
    exact (Ledger.fails_nil _).symm
  · exact ⟨_, rfl, ends (some closeError) files log' rfl hlog'⟩

theorem meets_writeTempStream {temp : Path} {payload : Bytes}
    (hcreated : contents files temp = some []) :
    Meets serve anyCall (writeTempStream temp payload) (fun r s' => ∃ out, r = .ok out ∧
      StreamEnds temp payload (files, log) out s') (files, log) := by
  unfold writeTempStream
  refine meets_tryStep (fun _ files₁ log₁ hopen hlog₁ => ?_) fun openError log₁ _ hlog₁ => ?_
  · obtain rfl : files₁ = files := hopen
    replace hlog₁ : ledger log₁ = ledger log := hlog₁
    refine meets_tryWrite (fun files₂ log₂ hwrite hlog₂ => ?_) fun writeError log₂ hlog₂ => ?_
    · -- written: the bytes are in the file, whatever follows
      obtain ⟨f, hf, -, rfl⟩ := hwrite
      have hbytes : f.bytes = [] := by
        unfold contents at hcreated
        rw [hf] at hcreated
        exact Option.some.inj hcreated
      have hwritten : contents (Function.update files₁ temp
          (some { f with bytes := f.bytes ++ payload })) temp = some payload := by
        unfold contents
        rw [Function.update_self, hbytes]
        rfl
      have hframe : ∀ p, p ≠ temp → Function.update files₁ temp
          (some { f with bytes := f.bytes ++ payload }) p = files₁ p :=
        fun p hp => Function.update_of_ne hp _ _
      refine meets_tryWhen (fun _ files₃ log₃ hflush hlog₃ => ?_) fun flushError log₃ hlog₃ => ?_
      · obtain rfl := hflush
        replace hlog₃ : ledger log₃ = ledger log₂ := hlog₃
        refine meets_tryWhen (fun _ files₄ log₄ hsync hlog₄ => ?_) fun syncError log₄ hlog₄ => ?_
        · obtain rfl := hsync
          refine meets_closeStream ?_ hframe fun _ => hwritten
          refine Eq.trans hlog₄ ?_
          rw [show (ledger log₃).note ⟨_, .fsync temp, .ok _⟩ = ledger log₃ from rfl, hlog₃, hlog₂,
            hlog₁]
          exact (Ledger.fails_nil _).symm
        · refine meets_closeStream ?_ hframe fun _ => hwritten
          rw [hlog₄, hlog₃, hlog₂, hlog₁]
          rfl
      · refine meets_closeStream ?_ hframe fun _ => hwritten
        rw [hlog₃, hlog₂, hlog₁]
        rfl
    · refine meets_closeStream ?_ (fun p _ => rfl) fun h => (nomatch h)
      rw [hlog₂, hlog₁]
      rfl
  · refine meets_tryStep (fun _ files₂ log₂ hclose hlog₂ => ?_) fun closeError log₂ _ hlog₂ => ?_
    · obtain rfl : files₂ = files := hclose
      refine ⟨_, rfl, ?_, fun p _ => rfl, fun h => (nomatch h), rfl, fun f h => (nomatch h)⟩
      rw [hlog₂]
      exact hlog₁
    · refine ⟨_, rfl, ?_, fun p _ => rfl, fun h => (nomatch h), rfl, ?_⟩
      · rw [hlog₂, hlog₁, Ledger.fails_fails]
        rfl
      · intro f h
        obtain rfl := Option.some.inj h
        rfl

/-! ## The directory -/

/-- The failures of a directory sync, in the order of its steps. -/
def DirectoryDurabilityOutcome.failures (o : DirectoryDurabilityOutcome) :
    List AtomicFailureEvidence :=
  o.openFailure.toList ++ o.fsyncFailure.toList ++ o.closeFailure.toList

/-- What the sync of a directory leaves: the files as they were, its failures entered, and the
sync if it succeeded behind a replacement. -/
structure DirectoryEnds (s : Traced) (o : DirectoryDurabilityOutcome) (s' : Traced) : Prop where
  files : s'.1 = s.1
  entered : (ledger s'.2).failures = (ledger s.2).failures ++ o.failures
  replaced : (ledger s'.2).replaced = (ledger s.2).replaced
  synced : (ledger s'.2).synced =
    ((ledger s.2).synced || (o.fsyncComplete && (ledger s.2).replaced))
  close : ∀ f, o.closeFailure = some f → f.operation = "DIRECTORY_CLOSE"
  /-- The open and the sync do not both fail. -/
  single : o.openFailure = none ∨ (o.fsyncFailure = none ∧ o.closeFailure = none)

theorem meets_fsyncDirectory (directory : Path) :
    Meets serve anyCall (fsyncDirectory directory) (fun r s' => match r with
      | .ok o => DirectoryEnds (files, log) o s' ∧ o.failures = [] ∧ o.fsyncComplete = true
      | .error e => ∃ o primaryCause closeCause, e = .directory o primaryCause closeCause ∧
          DirectoryEnds (files, log) o s' ∧ o.failures ≠ [] ∧
          ((o.openFailure.or o.fsyncFailure).isSome → primaryCause.isSome)) (files, log) := by
  unfold fsyncDirectory
  refine meets_tryStep (fun _ files₁ log₁ hopen hlog₁ => ?_) fun openError log₁ _ hlog₁ => ?_
  · obtain rfl : files₁ = files := hopen
    replace hlog₁ : ledger log₁ = ledger log := hlog₁
    -- the close, behind a sync that has been entered
    have closing : ∀ (fsyncError : Option StepError) log₂,
        (ledger log₂).failures = (ledger log).failures ++
          (fsyncError.map (atomicFailureEvidence "DIRECTORY_FSYNC")).toList →
        (ledger log₂).replaced = (ledger log).replaced →
        (ledger log₂).synced =
          ((ledger log).synced || (fsyncError.isNone && (ledger log).replaced)) →
        Meets serve anyCall (tryStep (.closeDirectory directory) >>= fun closeError =>
          closedDirectory fsyncError closeError) (fun r s' => match r with
          | .ok o => DirectoryEnds (files₁, log) o s' ∧ o.failures = [] ∧ o.fsyncComplete = true
          | .error e => ∃ o primaryCause closeCause, e = .directory o primaryCause closeCause ∧
              DirectoryEnds (files₁, log) o s' ∧ o.failures ≠ [] ∧
              ((o.openFailure.or o.fsyncFailure).isSome → primaryCause.isSome))
          (files₁, log₂) := by
      intro fsyncError log₂ hfailures hreplaced hsynced
      have ends : ∀ (closeError : Option StepError) log₃, ledger log₃ = (ledger log₂).fails
          (closeError.map (atomicFailureEvidence "DIRECTORY_CLOSE")).toList →
          DirectoryEnds (files₁, log) (closedOutcome fsyncError closeError) (files₁, log₃) := by
        intro closeError log₃ hlog₃
        constructor
        · rfl
        · rw [hlog₃]
          refine Eq.trans (congrArg (· ++ _) hfailures) ?_
          rw [List.append_assoc]
          rfl
        · rw [hlog₃]
          exact hreplaced
        · rw [hlog₃]
          refine hsynced.trans ?_
          cases fsyncError <;> rfl
        · intro f hf
          obtain ⟨e, -, rfl⟩ := Option.map_eq_some_iff.mp hf
          rfl
        · exact Or.inl rfl
      refine meets_tryStep (fun _ files₃ log₃ hclose hlog₃ => ?_) fun closeError log₃ _ hlog₃ => ?_
      · obtain rfl := hclose
        have hends := ends none log₃ (hlog₃.trans (Ledger.fails_nil _).symm)
        cases fsyncError with
        | none => exact ⟨hends, rfl, rfl⟩
        | some e => exact ⟨_, _, _, rfl, hends, List.cons_ne_nil _ _, fun _ => rfl⟩
      · have hends := ends (some closeError) log₃ hlog₃
        cases fsyncError with
        | none => exact ⟨_, _, _, rfl, hends, List.cons_ne_nil _ _, fun h => (nomatch h)⟩
        | some e => exact ⟨_, _, _, rfl, hends, List.cons_ne_nil _ _, fun _ => rfl⟩
    refine meets_tryStep (fun _ files₂ log₂ hsync hlog₂ => ?_) fun fsyncError log₂ _ hlog₂ => ?_
    · obtain rfl := hsync
      refine closing none log₂ ?_ ?_ ?_
      · rw [hlog₂, ← hlog₁]
        exact (List.append_nil _).symm
      · rw [hlog₂, ← hlog₁]
        rfl
      · rw [hlog₂, ← hlog₁]
        rfl
    · refine closing (some fsyncError) log₂ ?_ ?_ ?_
      · rw [hlog₂, ← hlog₁]
        rfl
      · rw [hlog₂, ← hlog₁]
        rfl
      · rw [hlog₂, ← hlog₁]
        exact (Bool.or_false _).symm
  · refine ⟨_, _, _, rfl, ?_, List.cons_ne_nil _ _, fun _ => rfl⟩
    constructor
    · rfl
    · rw [hlog₁]
      rfl
    · rw [hlog₁]
      rfl
    · rw [hlog₁]
      exact (Bool.or_false _).symm
    · exact fun f hf => (nomatch hf)
    · exact Or.inr ⟨rfl, rfl⟩

/-! ## The replacement -/

/-- The operations whose failure may stand behind another one, or alone without being primary. -/
def lateOperations : List String := ["TEMP_STREAM_CLOSE", "DIRECTORY_CLOSE", "TEMP_CLEANUP"]

/-- What the first `try` leaves in its variables, against the ledger and the destination. -/
structure Fits (path : Path) (payload : Bytes) (files : Files Path) (p : Progress) (s : Traced) :
    Prop where
  entered : (ledger s.2).failures = (primaryFailureOf p).toList ++ secondaryFailuresOf p none
  replaced : (ledger s.2).replaced = p.destinationReplaced
  synced : (ledger s.2).synced = p.durabilityComplete
  changed : p.destinationReplaced = true → contents s.1 path = some payload
  unchanged : p.destinationReplaced = false → s.1 path = files path
  late : ∀ f ∈ secondaryFailuresOf p none, f.operation ∈ lateOperations
  complete : (ledger s.2).failures = [] →
    p.destinationReplaced = true ∧ p.durabilityComplete = true

/-- The stream's part of the outcome, when the stream has no failure. -/
theorem secondaryFailuresOf_stream {p : Progress} {stream : TempStreamOutcome}
    (hp : p.tempStreamOutcome = some stream) (hstream : stream.primaryFailure = none)
    (cleanup : Option AtomicFailureEvidence) : secondaryFailuresOf p cleanup =
      (p.directoryOutcome.bind (·.closeFailure)).toList ++ cleanup.toList := by
  rw [stream.primaryFailure_eq, Option.or_eq_none_iff] at hstream
  unfold secondaryFailuresOf
  rw [hp]
  simp only [hstream.2, Option.toList_none, ite_self, List.nil_append]

theorem stream_failures_nil {stream : TempStreamOutcome} (h : stream.primaryFailure = none) :
    stream.failures = [] := by
  rw [stream.failures_eq]
  rw [stream.primaryFailure_eq, Option.or_eq_none_iff] at h
  rw [h.1, h.2]
  rfl

/-- The sync of the directory behind a replaced destination. -/
theorem meets_syncDestination {path : Path} {payload : Bytes} {files₀ : Files Path}
    {stream : TempStreamOutcome} (hstream : stream.primaryFailure = none)
    (hledger : ledger log = { failures := [], replaced := true, synced := false })
    (hcontents : contents files path = some payload) :
    Meets serve anyCall ((fsyncDirectory (parent path)).attempt >>= fun r => match r with
      | .ok outcome => pure {
          destinationReplaced := true
          durabilityComplete := true
          chmodStatus := .success
          operation := "DIRECTORY_FSYNC"
          directoryOutcome := some outcome
          tempStreamOutcome := some stream }
      | .error e => pure (directoryProgress stream e))
      (fun r s => ∃ p, r = .ok p ∧ Fits path payload files₀ p s) (files, log) := by
  refine (meets_fsyncDirectory (parent path)).attemptBind ?_
  rintro (e | o) s' h
  · obtain ⟨o, primaryCause, closeCause, rfl, hends, hne, hcause⟩ := h
    refine ⟨_, rfl, ?_⟩
    have hfailures : (ledger s'.2).failures = o.failures := by
      rw [hends.entered, hledger, List.nil_append]
    have hentered : o.failures = (primaryFailureOf
        (directoryProgress stream (.directory o primaryCause closeCause))).toList ++
          o.closeFailure.toList := by
      unfold primaryFailureOf directoryProgress DirectoryDurabilityOutcome.failures
      simp only [Option.bind_some, hstream]
      cases hopen : o.openFailure with
      | some f =>
        rcases hends.single with h | ⟨h, h'⟩
        · rw [h] at hopen
          exact nomatch hopen
        · simp [hopen, h, h']
      | none =>
        cases hsync : o.fsyncFailure with
        | some f => simp [hsync]
        | none => simp
    have hsecondary : secondaryFailuresOf (directoryProgress stream
        (.directory o primaryCause closeCause)) none = o.closeFailure.toList := by
      rw [secondaryFailuresOf_stream rfl hstream]
      exact List.append_nil _
    constructor
    · rw [hfailures, hsecondary]
      exact hentered
    · rw [hends.replaced, hledger]
      rfl
    · rw [hends.synced, hledger]
      exact Bool.and_true _
    · intro _
      rw [hends.files]
      exact hcontents
    · exact fun h => (nomatch h)
    · rw [hsecondary]
      intro f hf
      rw [hends.close f (Option.mem_toList.mp hf)]
      decide
    · intro h
      rw [hfailures] at h
      exact absurd h hne
  · obtain ⟨hends, hnone, hcomplete⟩ := h
    refine ⟨_, rfl, ?_⟩
    have hclose : o.closeFailure = none := by
      unfold DirectoryDurabilityOutcome.failures at hnone
      exact Option.toList_eq_nil_iff.mp (List.append_eq_nil_iff.mp hnone).2
    constructor
    · rw [hends.entered, hledger, hnone, secondaryFailuresOf_stream rfl hstream]
      unfold primaryFailureOf
      simp only [Option.bind_some, hstream, hclose]
      rfl
    · rw [hends.replaced, hledger]
    · rw [hends.synced, hledger, hcomplete]
      rfl
    · intro _
      rw [hends.files]
      exact hcontents
    · exact fun h => (nomatch h)
    · intro f hf
      rw [secondaryFailuresOf_stream rfl hstream] at hf
      simp only [Option.bind_some, hclose] at hf
      exact nomatch hf
    · exact fun _ => ⟨rfl, rfl⟩

/-- A path is not the temporary file that is made for it. -/
theorem tempPath_ne (path : Path) (uuid : String) : path ≠ tempPath path uuid := by
  intro h
  have hlast := congrArg (List.getLastD · "") h
  unfold tempPath at hlast
  rw [List.getLastD_eq_getLast?, List.getLastD_eq_getLast?, List.getLast?_concat] at hlast
  have hlen := congrArg String.length hlast
  simp only [String.length_append, Option.getD_some, pathName, List.getLastD_eq_getLast?] at hlen
  have hdot : ".".length = 1 := by decide
  omega

/-- A failure of the stream: nothing was replaced. -/
theorem fits_stream {path : Path} {payload : Bytes} {files₀ : Files Path}
    {stream : TempStreamOutcome} {failure : AtomicFailureEvidence} {p : Progress}
    (hprimary : stream.primaryFailure = some failure)
    (hledger : ledger log = Ledger.fails {} stream.failures) (hpath : files path = files₀ path)
    (hclose : ∀ f, stream.closeFailure = some f → f.operation = "TEMP_STREAM_CLOSE")
    (hstream : p.tempStreamOutcome = some stream) (hdirectory : p.directoryOutcome = none)
    (hreplaced : p.destinationReplaced = false) (hdurable : p.durabilityComplete = false) :
    Fits path payload files₀ p (files, log) := by
  have hsecondary : secondaryFailuresOf p none =
      if stream.closeIsPrimary then [] else stream.closeFailure.toList := by
    unfold secondaryFailuresOf
    rw [hstream, hdirectory]
    simp
  have hfirst : primaryFailureOf p = some failure := by
    unfold primaryFailureOf
    simp only [hstream, Option.bind_some, hprimary]
  refine ⟨?_, ?_, ?_, ?_, fun _ => hpath, ?_, ?_⟩
  · rw [hledger, hsecondary, hfirst, ← hprimary]
    rfl
  · rw [hledger, hreplaced]
    rfl
  · rw [hledger, hdurable]
    rfl
  · intro h
    rw [hreplaced] at h
    exact nomatch h
  · rw [hsecondary]
    intro f hf
    split at hf
    · exact nomatch hf
    · rw [hclose f (Option.mem_toList.mp hf)]
      decide
  · intro h
    rw [hledger] at h
    unfold TempStreamOutcome.failures Ledger.fails at h
    rw [hprimary] at h
    exact nomatch h

/-- A step of the destination that raises is the one failure. -/
theorem fits_alone {path : Path} {payload : Bytes} {files₀ : Files Path}
    {stream : TempStreamOutcome} {e : StepError} {p : Progress} {s : Traced}
    (hprimary : stream.primaryFailure = none) (hstream : p.tempStreamOutcome = some stream)
    (hdirectory : p.directoryOutcome = none) (herror : p.primaryError = some e)
    (hfailures : (ledger s.2).failures = [atomicFailureEvidence p.operation e])
    (hreplaced : (ledger s.2).replaced = p.destinationReplaced)
    (hsynced : (ledger s.2).synced = false) (hdurable : p.durabilityComplete = false)
    (hchanged : p.destinationReplaced = true → contents s.1 path = some payload)
    (hunchanged : p.destinationReplaced = false → s.1 path = files₀ path) :
    Fits path payload files₀ p s := by
  have hsecondary : secondaryFailuresOf p none = [] := by
    rw [secondaryFailuresOf_stream hstream hprimary, hdirectory]
    rfl
  have hfirst : primaryFailureOf p = some (atomicFailureEvidence p.operation e) := by
    unfold primaryFailureOf
    simp only [hstream, Option.bind_some, hprimary, hdirectory, herror]
  refine ⟨?_, hreplaced, hsynced.trans hdurable.symm, hchanged, hunchanged, ?_, ?_⟩
  · rw [hfailures, hsecondary, hfirst]
    rfl
  · rw [hsecondary]
    exact fun f hf => (nomatch hf)
  · intro h
    rw [hfailures] at h
    exact nomatch h

theorem meets_replaceDestination {path temp : Path} (htemp : path ≠ temp) (payload : Bytes)
    (mode : Nat) :
    Meets serve anyCall (replaceDestination path temp payload mode)
      (fun r s => ∃ p, r = .ok p ∧ Fits path payload files p s) (files, []) := by
  unfold replaceDestination
  refine meets_tryStep (fun _ files₁ log₁ hcreate hlog₁ => ?_) fun e log₁ _ hlog₁ => ?_
  · obtain ⟨-, createdMode, rfl⟩ := hcreate
    replace hlog₁ : ledger log₁ = {} := hlog₁
    have hcreated : contents (Function.update files temp (some ⟨[], createdMode⟩)) temp =
        some [] := by
      unfold contents
      rw [Function.update_self]
      rfl
    refine (meets_writeTempStream hcreated).bind ?_ ?_
    · rintro _ ⟨files₂, log₂⟩ ⟨⟨stream, streamError⟩, hout, hends⟩
      obtain rfl := Except.ok.inj hout
      have hpath : files₂ path = files path :=
        (hends.frame path htemp).trans (Function.update_of_ne htemp _ _)
      have hlog₂ := hends.entered
      rw [hlog₁] at hlog₂
      simp only
      cases hprimary : stream.primaryFailure with
      | some failure =>
        exact ⟨_, rfl, fits_stream hprimary hlog₂ hpath hends.close rfl rfl rfl rfl⟩
      | none =>
        rw [stream_failures_nil hprimary, Ledger.fails_nil] at hlog₂
        refine meets_tryStep (fun _ files₃ log₃ hreplace hlog₃ => ?_) fun e log₃ _ hlog₃ => ?_
        · obtain ⟨f, hf, rfl⟩ := hreplace
          have hbytes : f.bytes = payload := by
            have hwritten : contents files₂ temp = some payload := hends.written hprimary
            unfold contents at hwritten
            rw [hf] at hwritten
            exact Option.some.inj hwritten
          replace hlog₃ : ledger log₃ = { replaced := true } := by
            rw [hlog₃, hlog₂]
            rfl
          refine meets_tryStep (fun _ files₄ log₄ hchmod hlog₄ => ?_) fun e log₄ _ hlog₄ => ?_
          · obtain ⟨f', hf', rfl⟩ := hchmod
            rw [Function.update_self] at hf'
            obtain rfl := Option.some.inj hf'
            refine meets_syncDestination hprimary (hlog₄.trans ?_) ?_
            · rw [hlog₃]
              rfl
            · unfold contents
              rw [Function.update_self, ← hbytes]
              rfl
          · refine ⟨_, rfl, fits_alone (e := e) hprimary rfl rfl rfl ?_ ?_ ?_ rfl ?_
              fun h => (nomatch h)⟩
            · rw [hlog₄, hlog₃]
              rfl
            · rw [hlog₄, hlog₃]
              rfl
            · rw [hlog₄, hlog₃]
              rfl
            · intro _
              show contents (Function.update (Function.update files₂ temp none) path (some f))
                path = some payload
              unfold contents
              rw [Function.update_self, ← hbytes]
              rfl
        · refine ⟨_, rfl, fits_alone (e := e) hprimary rfl rfl rfl ?_ ?_ ?_ rfl
            (fun h => (nomatch h)) fun _ => hpath⟩
          · rw [hlog₃, hlog₂]
            rfl
          · rw [hlog₃, hlog₂]
            rfl
          · rw [hlog₃, hlog₂]
            rfl
    · rintro e s ⟨out, hout, -⟩
      exact nomatch hout
  · refine ⟨_, rfl, ?_⟩
    constructor
    · rw [hlog₁]
      rfl
    · rw [hlog₁]
      rfl
    · rw [hlog₁]
      rfl
    · exact fun h => (nomatch h)
    · exact fun _ => rfl
    · exact fun f hf => (nomatch hf)
    · intro h
      rw [hlog₁] at h
      exact nomatch h

/-! ## The temporary file -/

/-- What the removal leaves: its failure is entered, no other file is touched, and a temporary
file that is still there is not reported as absent. -/
structure Cleaned (temp : Path) (s : Traced) (c : Cleanup) (s' : Traced) : Prop where
  entered : ledger s'.2 =
    (ledger s.2).fails (c.error.map (atomicFailureEvidence "TEMP_CLEANUP")).toList
  frame : ∀ p, p ≠ temp → s'.1 p = s.1 p
  residual : (s'.1 temp).isSome → c.residualState = .present ∨ c.residualState = .unknown

theorem meets_removeTemp (temp : Path) :
    Meets serve anyCall (removeTemp temp) (fun r s' => ∃ c, r = .ok c ∧
      Cleaned temp (files, log) c s') (files, log) := by
  unfold removeTemp
  refine meets_tryStep (fun _ files₁ log₁ hunlink hlog₁ => ?_) fun e log₁ habsent hlog₁ => ?_
  · obtain ⟨-, rfl⟩ := hunlink
    refine ⟨_, rfl, ?_, fun p hp => Function.update_of_ne hp _ _, ?_⟩
    · exact hlog₁.trans (Ledger.fails_nil _).symm
    · intro h
      replace h : (Function.update files temp none temp).isSome = true := h
      rw [Function.update_self] at h
      exact nomatch h
  · simp only
    by_cases hnot : e.fileNotFound = true
    · rw [if_pos hnot]
      refine ⟨_, rfl, ?_, fun p _ => rfl, ?_⟩
      · rw [hlog₁, show stepFailure (.unlink temp) e = none from if_pos hnot]
        rfl
      · intro h
        replace h : (files temp).isSome = true := h
        rw [show files temp = none from habsent hnot] at h
        exact nomatch h
    · rw [if_neg hnot]
      have hfailed : ledger log₁ = (ledger log).fails [atomicFailureEvidence "TEMP_CLEANUP" e] := by
        rw [hlog₁, show stepFailure (.unlink temp) e =
          some (atomicFailureEvidence "TEMP_CLEANUP" e) from if_neg hnot]
        rfl
      refine meets_bind.mpr (meets_tryStep (fun _ files₂ log₂ hlstat hlog₂ => ?_)
        fun e' log₂ habsent' hlog₂ => ?_)
      · obtain ⟨-, rfl⟩ := hlstat
        exact ⟨_, rfl, hlog₂.trans hfailed, fun p _ => rfl, fun _ => Or.inl rfl⟩
      · have hledger : ledger log₂ =
            (ledger log).fails [atomicFailureEvidence "TEMP_CLEANUP" e] := by
          rw [hlog₂, hfailed]
          exact Ledger.fails_nil _
        by_cases hgone : e'.fileNotFound = true
        · simp only
          rw [if_pos hgone]
          refine ⟨_, rfl, hledger, fun p _ => rfl, fun h => ?_⟩
          replace h : (files temp).isSome = true := h
          rw [show files temp = none from habsent' hgone] at h
          exact nomatch h
        · simp only
          rw [if_neg hgone]
          exact ⟨_, rfl, hledger, fun p _ => rfl, fun _ => Or.inr rfl⟩

/-! ## The outcome -/

/-- **An outcome tells the truth** about a run: whether the destination was replaced, what it
holds, whether the replacement is durable, which steps have failed, which of them is the primary
one, and whether the temporary file may still be there. -/
structure Truthful (path temp : Path) (payload : Bytes) (files : Files Path) (s : Traced)
    (o : AtomicWriteOutcome) : Prop where
  replaced : o.destinationReplaced = (ledger s.2).replaced
  changed : o.destinationReplaced = true → contents s.1 path = some payload
  unchanged : o.destinationReplaced = false → s.1 path = files path
  durable : o.durabilityComplete = (ledger s.2).synced
  failures : o.primaryFailure.toList ++ o.secondaryFailures = (ledger s.2).failures
  primary : (∃ f ∈ (ledger s.2).failures, f.operation ∉ lateOperations) →
    o.primaryFailure = (ledger s.2).failures.head?
  residual : (s.1 temp).isSome →
    o.tempResidualState = .present ∨ o.tempResidualState = .unknown

theorem assemble_truthful {path temp : Path} (htemp : path ≠ temp) {payload : Bytes}
    {p : Progress} {c : Cleanup} {s s' : Traced} (hp : Fits path payload files p s)
    (hc : Cleaned temp s c s') : Truthful path temp payload files s' (assemble temp p c) := by
  have hsecondary : (assemble temp p c).secondaryFailures = secondaryFailuresOf p none ++
      (c.error.map (atomicFailureEvidence "TEMP_CLEANUP")).toList := by
    unfold assemble secondaryFailuresOf
    simp
  have hfailures : (assemble temp p c).primaryFailure.toList ++
      (assemble temp p c).secondaryFailures = (ledger s'.2).failures := by
    rw [hsecondary, ← List.append_assoc, hc.entered]
    exact congrArg (· ++ _) hp.entered.symm
  constructor
  · rw [hc.entered]
    exact hp.replaced.symm
  · intro h
    rw [show contents s'.1 path = contents s.1 path from congrArg _ (hc.frame path htemp)]
    exact hp.changed h
  · intro h
    rw [hc.frame path htemp]
    exact hp.unchanged h
  · rw [hc.entered]
    exact hp.synced.symm
  · exact hfailures
  · rintro ⟨f, hf, hop⟩
    rw [← hfailures] at hf ⊢
    cases hprimary : (assemble temp p c).primaryFailure with
    | some first => rfl
    | none =>
      -- only a close or the removal can fail beside no primary failure
      exfalso
      rw [hprimary, hsecondary] at hf
      rcases List.mem_append.mp hf with hf | hf
      · exact nomatch hf
      · rcases List.mem_append.mp hf with hf | hf
        · exact hop (hp.late f hf)
        · obtain ⟨e, -, rfl⟩ := Option.map_eq_some_iff.mp (Option.mem_toList.mp hf)
          exact hop (show "TEMP_CLEANUP" ∈ lateOperations by decide)
  · exact hc.residual

/-- The result of a run: an outcome without failures is returned, any other is raised. -/
def Reported (path temp : Path) (payload : Bytes) (files : Files Path) (s : Traced) :
    Except WriteError AtomicWriteOutcome → Prop
  | .ok o => (ledger s.2).failures = [] ∧ o.destinationReplaced = true ∧
      o.durabilityComplete = true ∧ Truthful path temp payload files s o
  | .error e => (ledger s.2).failures ≠ [] ∧ ∃ o, e.outcome? = some o ∧
      Truthful path temp payload files s o

theorem meets_atomicWriteExact (builds : AtomicWriteOutcome → Bool) (uuid : String) (path : Path)
    (payload : Bytes) (mode : Nat) :
    Meets serve anyCall (atomicWriteExact builds uuid path payload mode)
      (fun r s => Reported path (tempPath path uuid) payload files s r) (files, []) := by
  have htemp := tempPath_ne path uuid
  unfold atomicWriteExact
  refine (meets_replaceDestination htemp payload mode).bind ?_ ?_
  · rintro p ⟨files₁, log₁⟩ ⟨_, hp, hfits⟩
    obtain rfl := Except.ok.inj hp
    refine (meets_removeTemp (tempPath path uuid)).bind ?_ ?_
    · rintro c ⟨files₂, log₂⟩ ⟨_, hc, hcleaned⟩
      obtain rfl := Except.ok.inj hc
      have htruthful := assemble_truthful htemp hfits hcleaned
      unfold report
      by_cases hfail : (assemble (tempPath path uuid) p c).primaryFailure.isSome ∨
          (assemble (tempPath path uuid) p c).secondaryFailures ≠ []
      · rw [if_pos hfail]
        refine ⟨?_, assemble (tempPath path uuid) p c, ?_, htruthful⟩
        · rw [← htruthful.failures]
          rcases hfail with hfail | hfail
          · obtain ⟨f, hf⟩ := Option.isSome_iff_exists.mp hfail
            rw [hf]
            exact List.cons_ne_nil _ _
          · exact List.append_ne_nil_of_right_ne_nil _ hfail
        · by_cases hbuilds : builds (assemble (tempPath path uuid) p c) = true
          · rw [if_pos hbuilds]
            rfl
          · rw [if_neg hbuilds]
            rfl
      · rw [if_neg hfail]
        rw [not_or, Option.not_isSome_iff_eq_none, ne_eq, Decidable.not_not] at hfail
        have hnone : (ledger log₂).failures = [] := by
          rw [← htruthful.failures, hfail.1, hfail.2]
          rfl
        have hbefore : (ledger log₁).failures = [] := by
          have hentered := hcleaned.entered
          rw [hentered] at hnone
          exact (List.append_eq_nil_iff.mp hnone).1
        exact ⟨hnone, (hfits.complete hbefore).1, (hfits.complete hbefore).2, htruthful⟩
    · rintro e s ⟨c, hc, -⟩
      exact nomatch hc
  · rintro e s ⟨p, hp, -⟩
    exact nomatch hp

/-- **The outcome of a write is truthful**, whichever steps of it fail. -/
theorem atomicWriteExact_truthful {builds : AtomicWriteOutcome → Bool} {uuid : String}
    {path : Path} {payload : Bytes} {mode : Nat} {files' : Files Path} {log : List WriteEvent}
    {r : Except WriteError AtomicWriteOutcome}
    (hrun : Steps serve (atomicWriteExact builds uuid path payload mode) (files, []) (.done r)
      (files', log)) :
    Reported path (tempPath path uuid) payload files (files', log) r :=
  (meets_atomicWriteExact builds uuid path payload mode).ended hrun

/-! ## A run -/

def sampleAnswer (files : Files Path) : (c : FileCall Path) → FileAnswer c
  | .write _ payload => payload.length
  | .lstat p => ((files p).map (·.mode)).getD 0
  | .exist p | .isFile p => (files p).isSome
  | .isSymlink _ => false
  | .readBytes p => (contents files p).getD []
  | .makeDirectory _ | .create .. | .openStream _ | .flush _ | .fsync _ | .close _ | .chmod .. |
    .replace .. | .unlink _ | .openDirectory _ | .fsyncDirectory _ | .closeDirectory _ => ()

/-- The files after a call, unless it cannot work on them. -/
def sampleFiles (files : Files Path) : FileCall Path → Option (Files Path)
  | .create p mode =>
    if (files p).isNone then some (Function.update files p (some ⟨[], mode⟩)) else none
  | .write p payload => (files p).map fun f =>
    Function.update files p (some { f with bytes := f.bytes ++ payload })
  | .chmod p mode => (files p).map fun f => Function.update files p (some { f with mode := mode })
  | .replace source target => (files source).map fun f =>
    Function.update (Function.update files source none) target (some f)
  | .unlink p => if (files p).isSome then some (Function.update files p none) else none
  | .lstat p | .readBytes p => if (files p).isSome then some files else none
  | _ => some files

def sampleRespond (fails : FileCall Path → Bool) (s : Traced) (c : FileCall Path) :
    Except WriteError (FileAnswer c) × Files Path :=
  if fails c then (.error (.step ⟨"OSError", "failed", false⟩), s.1)
  else match sampleFiles s.1 c with
    | some files => (.ok (sampleAnswer s.1 c), files)
    | none => (.error (.step ⟨"FileNotFoundError", "missing", true⟩), s.1)

theorem sampleFiles_done {files files' : Files Path} {c : FileCall Path}
    (h : sampleFiles files c = some files') : Done files c (sampleAnswer files c) files' := by
  cases c with
  | create p mode =>
    obtain ⟨hnone, h⟩ := Option.ite_none_right_eq_some.mp h
    exact ⟨Option.isNone_iff_eq_none.mp hnone, mode, (Option.some.inj h).symm⟩
  | write p payload =>
    obtain ⟨f, hf, rfl⟩ := Option.map_eq_some_iff.mp h
    exact ⟨f, hf, rfl, rfl⟩
  | chmod p mode =>
    obtain ⟨f, hf, rfl⟩ := Option.map_eq_some_iff.mp h
    exact ⟨f, hf, rfl⟩
  | replace source target =>
    obtain ⟨f, hf, rfl⟩ := Option.map_eq_some_iff.mp h
    exact ⟨f, hf, rfl⟩
  | unlink p =>
    obtain ⟨hsome, h⟩ := Option.ite_none_right_eq_some.mp h
    exact ⟨hsome, (Option.some.inj h).symm⟩
  | lstat p =>
    obtain ⟨hsome, h⟩ := Option.ite_none_right_eq_some.mp h
    obtain ⟨f, hf⟩ := Option.isSome_iff_exists.mp hsome
    refine ⟨⟨f, hf, ?_⟩, (Option.some.inj h).symm⟩
    show ((files p).map (·.mode)).getD 0 = f.mode
    rw [hf]
    rfl
  | readBytes p =>
    obtain ⟨hsome, h⟩ := Option.ite_none_right_eq_some.mp h
    obtain ⟨f, hf⟩ := Option.isSome_iff_exists.mp hsome
    refine ⟨?_, (Option.some.inj h).symm⟩
    show contents files p = some ((contents files p).getD [])
    unfold contents
    rw [hf]
    rfl
  | exist p => exact ⟨id, (Option.some.inj h).symm⟩
  | isFile p => exact ⟨rfl, (Option.some.inj h).symm⟩
  | _ => exact (Option.some.inj h).symm

theorem sampleRespond_serves (fails : FileCall Path → Bool) (s : Traced) (c : FileCall Path) :
    Exact WriteError.isFileNotFound s.1 c (sampleRespond fails s c).1
      (sampleRespond fails s c).2 := by
  unfold sampleRespond
  by_cases hfails : fails c = true
  · rw [if_pos hfails]
    refine ⟨rfl, ?_⟩
    cases c <;> first | trivial | exact fun h => (nomatch h)
  · rw [if_neg hfails]
    cases hfiles : sampleFiles s.1 c with
    | some files =>
      refine ⟨sampleFiles_done hfiles, ?_⟩
      cases c <;> trivial
    | none =>
      refine ⟨rfl, ?_⟩
      cases c with
      | unlink p | lstat p =>
        exact fun _ => Option.not_isSome_iff_eq_none.mp fun hsome =>
          nomatch (if_pos hsome).symm.trans hfiles
      | _ => trivial

/-- The write of one byte over a file that is there. -/
def sampleRun (fails : FileCall Path → Bool) :
    Option (Except WriteError AtomicWriteOutcome × Traced) :=
  play (sampleRespond fails) 20 (atomicWriteExact (fun _ => true) "id" ["r", "p"] [7] 420)
    (fun p => if p = ["r", "p"] then some ⟨[1, 2], 420⟩ else none, [])

/-- The directory cannot be synced: the write raises, and says that the file is replaced and may
not last. -/
theorem atomicWriteExact_unsynced : ∃ r files' log, (match r with
      | .ok _ => False
      | .error e => ∃ o, WriteError.outcome? e = some o ∧ o.destinationReplaced = true ∧
          o.durabilityComplete = false) ∧
    Reported ["r", "p"] (tempPath ["r", "p"] "id") [7]
      (fun p => if p = ["r", "p"] then some ⟨[1, 2], 420⟩ else none) (files', log) r := by
  cases hrun : sampleRun (· matches .fsyncDirectory _) with
  | none =>
    have hsome : (sampleRun (· matches .fsyncDirectory _)).isSome = true := by decide +kernel
    rw [hrun] at hsome
    cases hsome
  | some p =>
    have hraised : (sampleRun (· matches .fsyncDirectory _)).any (fun p => match p.1 with
        | .ok _ => false
        | .error e => e.outcome?.any fun o => o.destinationReplaced && !o.durabilityComplete) =
          true := by
      decide +kernel
    rw [hrun] at hraised
    refine ⟨p.1, p.2.1, p.2.2, ?_,
      atomicWriteExact_truthful (play_steps (sampleRespond_serves _) hrun)⟩
    obtain ⟨r, s⟩ := p
    cases r with
    | ok o => cases hraised
    | error e =>
      replace hraised : e.outcome?.any (fun o => o.destinationReplaced && !o.durabilityComplete) =
        true := hraised
      obtain ⟨o, ho, htest⟩ := (Option.any_eq_true _ _).mp hraised
      rw [Bool.and_eq_true, Bool.not_eq_true'] at htest
      exact ⟨o, ho, htest⟩

end Adcp.L5.Migration.AtomicWrite
