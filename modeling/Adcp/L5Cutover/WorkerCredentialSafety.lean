import Adcp.L5Cutover.WorkerCredential

/-!
# One credential, and evidence that is true

* `served_file`: what one call can do to one file.
* `AllowedWorker`: which calls a program makes after which others; `allowed_program`.
* `RunKeeps`: what holds of the disk and the calls at every point of a call.
* `Reported`: what a status says of the disk; `meets_readReconciliation`.
* `worker_credential`: the calls one after the other, with a crash anywhere.
-/
namespace Adcp.L5.Worker

open Adcp.L1 Adcp.L2 Adcp.L3 Script

/-! ## Files -/

/-- A file of the worker: one of the evidence, or the credential. -/
inductive WorkerFile where
  | evidence (p : EvidencePath)
  | credential
  deriving DecidableEq

/-- What is in a file, with what `lstat` tells of the credential. -/
def WorkerDisk.file (d : WorkerDisk) : WorkerFile → Option (List Char × Option FileInfo)
  | .evidence p => (d.evidence p).map fun text => (text, none)
  | .credential => d.credential.map fun c => (c.content, some c.info)

/-- The file is there. -/
def WorkerDisk.has (d : WorkerDisk) (f : WorkerFile) : Prop := (d.file f).isSome

def WorkerFile.creation : WorkerFile → WorkerCall
  | .evidence p => .createEvidence p
  | .credential => .createCredential

/-- A call on the stream of a file. -/
def Touches : WorkerFile → ControlCall WorkerCall → Prop
  | .evidence p, .user (.writeEvidence q _) | .evidence p, .user (.flushEvidence q _) => p = q
  | .credential, .user (.writeCredential _) | .credential, .user (.flushCredential _)
  | .credential, .user .syncCredential | .credential, .user .closeCredential => True
  | _, _ => False

def Creates (f : WorkerFile) (c : ControlCall WorkerCall) : Prop := c = .user f.creation

variable {d d' : WorkerDisk} {f : WorkerFile} {c : ControlCall WorkerCall}
  {a : Except WorkerError (WorkerControlAnswer c)}

theorem has_evidence {p : EvidencePath} : d.has (.evidence p) ↔ (d.evidence p).isSome := by
  unfold WorkerDisk.has WorkerDisk.file
  rw [Option.isSome_map]

theorem has_credential : d.has .credential ↔ d.credential.isSome := by
  unfold WorkerDisk.has WorkerDisk.file
  rw [Option.isSome_map]

theorem not_has : ¬ d.has f ↔ d.file f = none := by
  unfold WorkerDisk.has
  rw [Bool.not_eq_true, Option.isSome_eq_false_iff, Option.isNone_iff_eq_none]

@[simp] theorem setEvidence_file (p : EvidencePath) (text : List Char) :
    (d.setEvidence p text).file f = if f = .evidence p then some (text, none) else d.file f := by
  cases f with
  | credential => rfl
  | evidence q =>
    unfold WorkerDisk.setEvidence WorkerDisk.file
    by_cases hq : q = p
    · subst hq
      simp
    · simp [hq]

@[simp] theorem setEvidence_root (p : EvidencePath) (text : List Char) :
    (d.setEvidence p text).root = d.root := rfl

/-- What a call leaves of a file and of the evidence root. -/
structure FileStep (f : WorkerFile) (d : WorkerDisk) (c : ControlCall WorkerCall)
    (d' : WorkerDisk) : Prop where
  file : d'.file f = d.file f ∨ (¬ d.has f ∧ d'.has f ∧ Creates f c) ∨
    (d.has f ∧ d'.has f ∧ Touches f c)
  root : d.root = true → d'.root = true
  rooted : Creates f c → f ≠ .credential → d'.has f → d.has f ∨ d.root = true

theorem FileStep.same (h : d' = d) : FileStep f d c d' := by
  subst h
  exact ⟨Or.inl rfl, id, fun _ _ h => Or.inl h⟩

theorem fileStep_makeRoot : FileStep f d (.user .makeRoot) { d with root := true } := by
  refine ⟨Or.inl ?_, fun _ => rfl, fun hcreates => ?_⟩
  · cases f <;> rfl
  · cases f <;> cases hcreates

theorem fileStep_createEvidence {p : EvidencePath} (hroot : d.root = true)
    (hnone : d.evidence p = none) :
    FileStep f d (.user (.createEvidence p)) (d.setEvidence p []) := by
  refine ⟨?_, fun h => h, fun _ _ _ => Or.inr hroot⟩
  rw [setEvidence_file]
  by_cases hf : f = .evidence p
  · subst hf
    refine Or.inr (Or.inl ⟨?_, ?_, rfl⟩)
    · rw [has_evidence, hnone]
      exact Bool.false_ne_true
    · rw [has_evidence]
      simp [WorkerDisk.setEvidence]
  · exact Or.inl (if_neg hf)

theorem fileStep_write {p : EvidencePath} {text : List Char} (hc : Touches (.evidence p) c)
    (hnot : ∀ f, ¬ Creates f c) (hsome : (d.evidence p).isSome) :
    FileStep f d c (d.setEvidence p text) := by
  refine ⟨?_, fun h => h, fun hcreates => absurd hcreates (hnot f)⟩
  rw [setEvidence_file]
  by_cases hf : f = .evidence p
  · subst hf
    refine Or.inr (Or.inr ⟨has_evidence.mpr hsome, ?_, hc⟩)
    rw [has_evidence]
    simp [WorkerDisk.setEvidence]
  · exact Or.inl (if_neg hf)

theorem fileStep_partWritten {p : EvidencePath} {text : List Char} (hc : Touches (.evidence p) c)
    (hnot : ∀ f, ¬ Creates f c) (h : PartWritten d p text d') : FileStep f d c d' := by
  rcases h with rfl | ⟨hsome, part, -, rfl⟩
  · exact .same rfl
  · exact fileStep_write hc hnot hsome

theorem fileStep_credential {content : Credential} (hc : c = .user .createCredential)
    (hnone : d.credential = none) : FileStep f d c { d with credential := some content } := by
  subst hc
  refine ⟨?_, fun h => h, fun hcreates hf => ?_⟩
  · cases f with
    | evidence p => exact Or.inl rfl
    | credential =>
      refine Or.inr (Or.inl ⟨?_, ?_, rfl⟩)
      · rw [has_credential, hnone]
        exact Bool.false_ne_true
      · exact has_credential.mpr rfl
  · cases f with
    | evidence p => cases hcreates
    | credential => exact absurd rfl hf

theorem fileStep_touched (hc : Touches .credential c) (hnot : ∀ f, ¬ Creates f c)
    (h : CredentialTouched d d') : FileStep f d c d' := by
  rcases h with rfl | ⟨old, new, hold, rfl⟩
  · exact .same rfl
  · refine ⟨?_, fun h => h, fun hcreates => absurd hcreates (hnot f)⟩
    cases f with
    | evidence p => exact Or.inl rfl
    | credential =>
      refine Or.inr (Or.inr ⟨?_, has_credential.mpr rfl, hc⟩)
      rw [has_credential, hold]
      rfl

/-- **What one call can do to one file.** -/
theorem served_file (h : WorkerServes d c a d') : FileStep f d c d' := by
  cases c with
  | user c =>
    cases a with
    | ok a =>
      cases c with
      | makeRoot =>
        obtain ⟨-, rfl⟩ := h
        exact fileStep_makeRoot
      | createEvidence p =>
        obtain ⟨hroot, hnone, rfl⟩ := h
        exact fileStep_createEvidence hroot hnone
      | writeEvidence p text =>
        exact fileStep_partWritten rfl (fun f hf => by cases f <;> cases hf) h
      | flushEvidence p text =>
        obtain ⟨hsome, rfl⟩ := h
        exact fileStep_write rfl (fun f hf => by cases f <;> cases hf) hsome
      | createCredential =>
        obtain ⟨hnone, info, rfl⟩ := h
        exact fileStep_credential rfl hnone
      | writeCredential text | syncCredential | closeCredential =>
        exact fileStep_touched trivial (fun f hf => by cases f <;> cases hf) h
      | flushCredential text =>
        obtain ⟨old, info, hold, rfl⟩ := h
        exact fileStep_touched trivial (fun f hf => by cases f <;> cases hf)
          (Or.inr ⟨old, _, hold, rfl⟩)
      | rootThere | evidenceThere p | readPinned p | credentialThere | credentialStat =>
        exact .same h.2
      | _ => exact .same h
    | error error =>
      cases c with
      | makeRoot =>
        rcases h with rfl | ⟨-, rfl⟩
        · exact .same rfl
        · exact fileStep_makeRoot
      | createEvidence p =>
        rcases h with rfl | ⟨hroot, hnone, rfl⟩
        · exact .same rfl
        · exact fileStep_createEvidence hroot hnone
      | writeEvidence p text | flushEvidence p text =>
        exact fileStep_partWritten rfl (fun f hf => by cases f <;> cases hf) h
      | createCredential =>
        rcases h with rfl | ⟨hnone, info, rfl⟩
        · exact .same rfl
        · exact fileStep_credential rfl hnone
      | writeCredential text | flushCredential text | syncCredential | closeCredential =>
        exact fileStep_touched trivial (fun f hf => by cases f <;> cases hf) h
      | _ => exact .same h
  | _ => exact .same (by cases a <;> exact h)

/-- A file that is there stays there. -/
theorem served_has (h : WorkerServes d c a d') (hf : d.has f) : d'.has f := by
  rcases (served_file (f := f) h).file with hsame | ⟨hnot, -⟩ | ⟨-, hthere, -⟩
  · unfold WorkerDisk.has
    rw [hsame]
    exact hf
  · exact absurd hf hnot
  · exact hthere

/-- Opening with `O_EXCL` has created the file. -/
theorem served_creation {f : WorkerFile} {a : WorkerAnswer f.creation}
    (h : WorkerServes d (.user f.creation) (.ok a) d') : ¬ d.has f ∧ d'.has f := by
  cases f with
  | evidence p =>
    obtain ⟨-, hnone, rfl⟩ := h
    refine ⟨?_, ?_⟩
    · rw [has_evidence, hnone]
      exact Bool.false_ne_true
    · rw [has_evidence]
      simp [WorkerDisk.setEvidence]
  | credential =>
    obtain ⟨hnone, info, rfl⟩ := h
    refine ⟨?_, has_credential.mpr rfl⟩
    rw [has_credential, hnone]
    exact Bool.false_ne_true

/-! ## Which calls follow which -/

/-- The call has been made and has returned. -/
def Returned (c : WorkerCall) (a : WorkerAnswer c) (log : List WorkerEvent) : Prop :=
  ∃ e ∈ log, Event.Gave (.user c) a e

/-- The event has created the file. -/
def Makes : WorkerFile → WorkerEvent → Prop
  | .evidence p, e => e.Gave (.user (.createEvidence p)) ()
  | .credential, e => e.Gave (.user .createCredential) ()

def Created (f : WorkerFile) (log : List WorkerEvent) : Prop := ∃ e ∈ log, Makes f e

def EvidencePath.at (p : EvidencePath) (phase : EvidencePhase) : WorkerFile :=
  .evidence ⟨p.name, phase⟩

/-- A call that writes a text to a file. -/
def Writes : WorkerFile → ControlCall WorkerCall → Prop
  | .evidence p, .user (.writeEvidence q _) => p = q
  | .credential, .user (.writeCredential _) => True
  | _, _ => False

def Unwritten (f : WorkerFile) (log : List WorkerEvent) : Prop := ∀ e ∈ log, ¬ Writes f e.made

/-- The evidence follows what it is evidence of. -/
def Follows (log : List WorkerEvent) (p : EvidencePath) : Prop :=
  match p.phase with
  | .prepared => True
  | .effect => Created (p.at .prepared) log ∧ Created .credential log
  | .final => Created (p.at .effect) log ∨ Returned (.evidenceThere ⟨p.name, .effect⟩) true log

/-- What the calls before a call must have been. A file is written once, in the call that has
created it, and flushed with what was written. -/
def AllowedWorker (log : List WorkerEvent) : ControlCall WorkerCall → Prop
  | .user (.createEvidence p) => Follows log p
  | .user .createCredential => ∃ p : EvidencePath, Created (p.at .prepared) log
  | .user (.writeEvidence p _) => Created (.evidence p) log ∧ Unwritten (.evidence p) log
  | .user (.flushEvidence p text) =>
    Created (.evidence p) log ∧ ∃ e ∈ log, e.made = .user (.writeEvidence p text)
  | .user (.writeCredential _) => Created .credential log ∧ Unwritten .credential log
  | .user (.flushCredential text) =>
    Created .credential log ∧ ∃ e ∈ log, e.made = .user (.writeCredential text)
  | .user .syncCredential | .user .closeCredential => Created .credential log
  | _ => True

/-- A call that creates or changes a file. -/
def Writing : ControlCall WorkerCall → Prop
  | .user (.createEvidence _) | .user (.writeEvidence ..) | .user (.flushEvidence ..)
  | .user .createCredential | .user (.writeCredential _) | .user (.flushCredential _)
  | .user .syncCredential | .user .closeCredential => True
  | _ => False

def Reading (c : ControlCall WorkerCall) : Prop := ¬ Writing c

variable {log : List WorkerEvent} {p : EvidencePath}

theorem writes_writing (h : Writes f c) : Writing c := by
  unfold Writes at h
  split at h
  · trivial
  · trivial
  · exact h.elim

theorem reading_own (h : OwnCall c) : Reading c := by
  cases c with
  | user c => exact h.elim
  | _ => exact id

theorem allowed_of_reading (h : Reading c) : AllowedWorker log c := by
  cases c with
  | user c =>
    cases c with
    | createEvidence p | writeEvidence p text | flushEvidence p text => exact absurd trivial h
    | createCredential | writeCredential text | flushCredential text | syncCredential
    | closeCredential => exact absurd trivial h
    | _ => trivial
  | _ => trivial

/-- What reading adds to a log takes nothing away from `K`. -/
def Undisturbed (K : List WorkerEvent → Prop) : Prop :=
  ∀ log more, (∀ e ∈ more, Reading e.made) → K log → K (log ++ more)

theorem Returned.append {c : WorkerCall} {a : WorkerAnswer c} (h : Returned c a log)
    (more : List WorkerEvent) : Returned c a (log ++ more) := by
  obtain ⟨e, he, hgave⟩ := h
  exact ⟨e, List.mem_append_left _ he, hgave⟩

theorem Created.append (h : Created f log) (more : List WorkerEvent) : Created f (log ++ more) := by
  obtain ⟨e, he, hmakes⟩ := h
  exact ⟨e, List.mem_append_left _ he, hmakes⟩

theorem undisturbed_created (f : WorkerFile) : Undisturbed (Created f) :=
  fun _ more _ h => h.append more

theorem undisturbed_unwritten (f : WorkerFile) : Undisturbed (Unwritten f) := by
  intro log more hmore h e he
  rcases List.mem_append.mp he with he | he
  · exact h e he
  · exact fun hw => hmore e he (writes_writing hw)

theorem Undisturbed.and {K K' : List WorkerEvent → Prop} (h : Undisturbed K)
    (h' : Undisturbed K') : Undisturbed fun log => K log ∧ K' log :=
  fun log more hmore hk => ⟨h log more hmore hk.1, h' log more hmore hk.2⟩

/-- A part of a program that only reads. -/
theorem Undisturbed.meets {K : List WorkerEvent → Prop} {α : Type} {x : WorkerScript α}
    (hK : Undisturbed K) (hx : Within Reading x) (h : K log) :
    Meets (logged WorkerServes) AllowedWorker x (fun _ log' => K log') log := by
  refine (hx.meets fun more c _ hc => allowed_of_reading hc).mono ?_
  rintro r log' ⟨more, rfl, hmore⟩
  exact hK log more hmore h

/-! ## Parts that only read -/

theorem within_call {c : WorkerCall} (h : Reading (.user c)) : Within Reading (call c) :=
  within_invoke h

theorem within_demand (c : Prop) [Decidable c] (code : String) : Within Reading (demand c code) :=
  within_require c _

theorem within_credentialMetadata : Within Reading credentialMetadata := by
  unfold credentialMetadata
  refine (within_call (by exact id)).bind fun there => ?_
  split
  · exact (within_call (by exact id)).bind fun _ => (within_call (by exact id)).bind
      fun _ => within_done _
  · exact within_done _

theorem within_readDocument (policy : WorkerPolicy) (req : WorkerRequest)
    (identity : List (String × Json)) (phase : EvidencePhase) :
    Within Reading (readDocument policy req identity phase) := by
  unfold readDocument
  refine (within_call (by exact id)).bind fun there => ?_
  split
  · refine (within_call (by exact id)).bind fun info => (within_demand _ _).bind fun _ => ?_
    exact (within_call (by exact id)).bind fun raw => (within_done _).bind fun _ => within_done _
  · exact within_done _

theorem within_readReconciliation (policy : WorkerPolicy) (req : WorkerRequest)
    (identity : List (String × Json)) : Within Reading
    (readReconciliation policy req identity) := by
  unfold readReconciliation
  refine (within_readDocument _ _ _ _).bind fun prepared => ?_
  refine (within_readDocument _ _ _ _).bind fun effect => ?_
  refine (within_readDocument _ _ _ _).bind fun final => ?_
  refine within_credentialMetadata.attempt.bind fun r => ?_
  split
  · exact within_done _
  · split <;> exact within_done _

theorem within_assertCurrentTypedAuthority (changeId deploymentId : String) :
    Within Reading (assertCurrentTypedAuthority changeId deploymentId) := by
  unfold assertCurrentTypedAuthority
  refine Within.bind (within_invoke (by exact id)) fun _ =>
    (within_call (by exact id)).bind fun row => ?_
  exact (within_demand _ _).bind fun _ => Within.bind (within_invoke (by exact id))
    fun _ => within_done _

/-! ## Writing an evidence file -/

/-- A call of the file `f`, or one that reads. -/
def Only (f : WorkerFile) (c : ControlCall WorkerCall) : Prop :=
  Reading c ∨ Creates f c ∨ Touches f c

theorem writes_touches (h : Writes f c) : Touches f c := by
  unfold Writes at h
  split at h
  · exact h
  · trivial
  · exact h.elim

theorem creates_not_writes {f' : WorkerFile} (h : Creates f c) : ¬ Writes f' c := by
  unfold Creates at h
  subst h
  cases f <;> cases f' <;> exact id

theorem touches_one {f' : WorkerFile} (h : Touches f c) (h' : Touches f' c) : f = f' := by
  unfold Touches at h
  split at h
  · cases f' with
    | evidence p => cases h; cases h'; rfl
    | credential => exact h'.elim
  · cases f' with
    | evidence p => cases h; cases h'; rfl
    | credential => exact h'.elim
  all_goals first | exact h.elim | (cases f' with
    | evidence p => exact h'.elim
    | credential => rfl)

/-- What was added is of another file. -/
theorem Unwritten.others {f' : WorkerFile} {more : List WorkerEvent} (h : Unwritten f log)
    (hne : f' ≠ f) (hmore : ∀ e ∈ more, Only f' e.made) : Unwritten f (log ++ more) := by
  intro e he
  rcases List.mem_append.mp he with he | he
  · exact h e he
  · rcases hmore e he with hreading | hcreates | htouches
    · exact fun hw => hreading (writes_writing hw)
    · exact creates_not_writes hcreates
    · exact fun hw => hne (touches_one htouches (writes_touches hw))

theorem within_only {α : Type} {x : WorkerScript α} (h : Within Reading x) : Within (Only f) x :=
  h.mono fun _ => Or.inl

theorem within_ensuring {P : ControlCall WorkerCall → Prop} {α : Type} {x : WorkerScript α}
    {last : WorkerScript Unit} (hx : Within P x) (hlast : Within P last) :
    Within P (ensuring x last) :=
  hx.attempt.bind fun _ => hlast.bind fun _ => within_done _

theorem within_writeEvidenceStream (path : EvidencePath) (text : List Char) :
    Within (Only (.evidence path)) (writeEvidenceStream path text) := by
  have hread : ∀ {c : WorkerCall}, Reading (.user c) →
      Within (Only (.evidence path)) (call c) := fun h => within_invoke (Or.inl h)
  unfold writeEvidenceStream
  refine Within.bind (within_invoke (Or.inr (Or.inl rfl))) fun _ => ?_
  refine Within.bind (within_ensuring ?_ (hread (by exact id))) fun _ => hread (by exact id)
  refine Within.bind (within_invoke (Or.inr (Or.inr rfl))) fun _ => ?_
  exact Within.bind (within_invoke (Or.inr (Or.inr rfl))) fun _ => hread (by exact id)

theorem within_exclusiveJson (path : EvidencePath) (value : List (String × Json)) :
    Within (Only (.evidence path)) (exclusiveJson path value) := by
  have hread : ∀ {c : WorkerCall}, Reading (.user c) →
      Within (Only (.evidence path)) (call c) := fun h => within_invoke (Or.inl h)
  unfold exclusiveJson
  refine (hread (by exact id)).bind fun now => (hread (by exact id)).bind fun _ => ?_
  refine within_ensuring ((within_writeEvidenceStream path _).attempt.bind fun r => ?_)
    (hread (by exact id))
  split <;> exact within_done _

theorem undisturbed_follows (path : EvidencePath) : Undisturbed fun log => Follows log path := by
  intro log more _ h
  unfold Follows at h ⊢
  cases hphase : path.phase with
  | prepared => trivial
  | effect =>
    rw [hphase] at h
    exact ⟨h.1.append more, h.2.append more⟩
  | final =>
    rw [hphase] at h
    exact h.imp (fun h => h.append more) fun h => h.append more

theorem created_of_ok {w : WorkerDisk} :
    Created f (log ++ [⟨w, .user f.creation, .ok (by cases f <;> exact ())⟩]) := by
  cases f with
  | evidence p => exact ⟨_, List.mem_append_right _ (List.mem_singleton_self _), w, rfl⟩
  | credential => exact ⟨_, List.mem_append_right _ (List.mem_singleton_self _), w, rfl⟩

theorem meets_writeEvidenceStream {path : EvidencePath} {text : List Char}
    (hfollows : Follows log path)
    (hunwritten : Unwritten (.evidence path) log) :
    Meets (logged WorkerServes) AllowedWorker (writeEvidenceStream path text)
      (fun r log' => r = .ok () → Created (.evidence path) log') log := by
  unfold writeEvidenceStream
  refine meets_bind.mpr ⟨hfollows, ?_⟩
  rintro created log₁ ⟨w, w', -, rfl⟩
  rcases created with error | ⟨⟩
  · exact fun h => nomatch h
  have hcreated : Created (.evidence path) (log ++ [⟨w, .user (.createEvidence path), .ok ()⟩]) :=
    created_of_ok (f := .evidence path)
  have hstill : Unwritten (.evidence path)
      (log ++ [⟨w, .user (.createEvidence path), .ok ()⟩]) := by
    intro e he
    rcases List.mem_append.mp he with he | he
    · exact hunwritten e he
    · cases List.mem_singleton.mp he
      exact id
  generalize log ++ [⟨w, .user (.createEvidence path), .ok ()⟩] = log₁ at hcreated hstill ⊢
  have hkept := undisturbed_created (.evidence path)
  have hstream : Meets (logged WorkerServes) AllowedWorker (do
      call (.writeEvidence path text)
      call (.flushEvidence path text)
      call (.syncEvidence path)) (fun _ log' => Created (.evidence path) log') log₁ := by
    refine meets_bind.mpr ⟨⟨hcreated, hstill⟩, ?_⟩
    rintro written log₂ ⟨w₂, w₂', -, rfl⟩
    rcases written with error | ⟨⟩
    · exact hcreated.append _
    refine meets_bind.mpr ⟨⟨hcreated.append _, _, List.mem_append_right _
      (List.mem_singleton_self _), rfl⟩, ?_⟩
    rintro flushed log₃ ⟨w₃, w₃', -, rfl⟩
    rcases flushed with error | ⟨⟩
    · exact (hcreated.append _).append _
    exact hkept.meets (within_call (by exact id)) ((hcreated.append _).append _)
  have hclosed : Meets (logged WorkerServes) AllowedWorker (ensuring (do
      call (.writeEvidence path text)
      call (.flushEvidence path text)
      call (.syncEvidence path)) (call (.closeEvidence path)))
      (fun _ log' => Created (.evidence path) log') log₁ := by
    refine hstream.ensuring fun r log₂ h₂ => ?_
    refine (hkept.meets (within_call (by exact id)) h₂).mono fun r log' h => ?_
    cases r <;> exact h
  refine hclosed.bind (fun _ log₂ h₂ => ?_) fun _ _ _ h => nomatch h
  exact (hkept.meets (within_call (by exact id)) h₂).mono fun _ _ h _ => h

/-- What writing an evidence file adds to the calls. -/
theorem meets_exclusiveJson (path : EvidencePath) {value : List (String × Json)}
    (hfollows : Follows log path)
    (hunwritten : Unwritten (.evidence path) log) :
    Meets (logged WorkerServes) AllowedWorker (exclusiveJson path value) (fun r log' =>
      (r = .ok () → Created (.evidence path) log') ∧
        ∃ more, log' = log ++ more ∧ ∀ e ∈ more, Only (.evidence path) e.made) log := by
  have hframe : Meets (logged WorkerServes) (fun _ _ => True) (exclusiveJson path value)
      (fun _ log' => ∃ more, log' = log ++ more ∧ ∀ e ∈ more, Only (.evidence path) e.made) log :=
    (within_exclusiveJson path value).meets fun _ _ _ _ => trivial
  refine Meets.and ?_ hframe
  have hkept := (undisturbed_follows path).and (undisturbed_unwritten (.evidence path))
  have hclose : ∀ {K : List WorkerEvent → Prop}, Undisturbed K → ∀ {log}, K log →
      Meets (logged WorkerServes) AllowedWorker (call .closeEvidenceRoot) (fun _ log' => K log')
        log := fun hK _ h => hK.meets (within_call (by exact id)) h
  unfold exclusiveJson
  refine (hkept.meets (within_call (by exact id)) ⟨hfollows, hunwritten⟩).bind
    (fun now log₁ h₁ => ?_) fun _ _ _ h => nomatch h
  refine (hkept.meets (within_call (by exact id)) h₁).bind (fun _ log₂ h₂ => ?_)
    fun _ _ _ h => nomatch h
  refine Meets.ensuring ((meets_writeEvidenceStream h₂.1 h₂.2).attemptBind fun r log₃ h₃ => ?_)
    fun (r : Except WorkerError Unit) log₃ (h₃ : r = .ok () → Created (.evidence path) log₃) => ?_
  · cases r with
    | ok _ => exact fun _ => h₃ rfl
    | error e => exact fun h => nomatch h
  · cases r with
    | ok u =>
      refine (hclose (undisturbed_created (.evidence path)) (h₃ rfl)).mono fun r log' h => ?_
      cases r with
      | ok _ => exact fun _ => h
      | error e => exact fun h => nomatch h
    | error e =>
      have htrue : Undisturbed fun _ => True := fun _ _ _ _ => trivial
      refine (hclose htrue trivial).mono fun r log' _ => ?_
      cases r <;> exact fun h => nomatch h

/-! ## Writing the credential -/

theorem within_writeSecret (policy : WorkerPolicy) (req : WorkerRequest) (secret : String) :
    Within (Only .credential) (writeSecret policy req secret) := by
  have hread : ∀ {c : WorkerCall}, Reading (.user c) → Within (Only .credential) (call c) :=
    fun h => within_invoke (Or.inl h)
  have htouch : ∀ {c : WorkerCall}, Touches .credential (.user c) →
      Within (Only .credential) (call c) := fun h => within_invoke (Or.inr (Or.inr h))
  unfold writeSecret
  refine (hread (by exact id)).bind fun _ => within_ensuring ?_ (hread (by exact id))
  refine (hread (by exact id)).bind fun info => (within_only (within_demand _ _)).bind fun _ => ?_
  refine (within_only (within_assertCurrentTypedAuthority _ _)).bind fun _ => ?_
  refine Within.bind (within_invoke (Or.inr (Or.inl rfl))) fun _ => ?_
  refine Within.bind (within_ensuring ?_ (htouch (by trivial))) fun _ => hread (by exact id)
  exact (htouch (by trivial)).bind fun _ => (htouch (by trivial)).bind fun _ => htouch (by trivial)

/-- What stands between the creation of the credential and its closing. -/
theorem meets_credentialStream {text : List Char} (hcreated : Created .credential log)
    (hunwritten : Unwritten .credential log) :
    Meets (logged WorkerServes) AllowedWorker (ensuring (do
      call (.writeCredential text)
      call (.flushCredential text)
      call .syncCredential) (call .closeCredential))
      (fun _ log' => Created .credential log') log := by
  have hstream : Meets (logged WorkerServes) AllowedWorker (do
      call (.writeCredential text)
      call (.flushCredential text)
      call .syncCredential) (fun _ log' => Created .credential log') log := by
    refine meets_bind.mpr ⟨⟨hcreated, hunwritten⟩, ?_⟩
    rintro written log₁ ⟨w₁, w₁', -, rfl⟩
    rcases written with error | ⟨⟩
    · exact hcreated.append _
    refine meets_bind.mpr ⟨⟨hcreated.append _, _, List.mem_append_right _
      (List.mem_singleton_self _), rfl⟩, ?_⟩
    rintro flushed log₂ ⟨w₂, w₂', -, rfl⟩
    rcases flushed with error | ⟨⟩
    · exact (hcreated.append _).append _
    refine ⟨(hcreated.append _).append _, ?_⟩
    rintro synced log₃ ⟨w₃, w₃', -, rfl⟩
    exact ((hcreated.append _).append _).append _
  refine hstream.ensuring fun r log₁ h₁ => ⟨h₁, ?_⟩
  rintro closed log₂ ⟨w₂, w₂', -, rfl⟩
  cases closed <;> exact h₁.append _

theorem meets_writeSecret {policy : WorkerPolicy} {req : WorkerRequest} {secret : String}
    (hprepared : Created (p.at .prepared) log) (hunwritten : Unwritten .credential log) :
    Meets (logged WorkerServes) AllowedWorker (writeSecret policy req secret) (fun r log' =>
      (r = .ok () → Created .credential log') ∧
        ∃ more, log' = log ++ more ∧ ∀ e ∈ more, Only .credential e.made) log := by
  have hframe : Meets (logged WorkerServes) (fun _ _ => True) (writeSecret policy req secret)
      (fun _ log' => ∃ more, log' = log ++ more ∧ ∀ e ∈ more, Only .credential e.made) log :=
    (within_writeSecret policy req secret).meets fun _ _ _ _ => trivial
  refine Meets.and ?_ hframe
  have hkept := (undisturbed_created (p.at .prepared)).and (undisturbed_unwritten .credential)
  have htrue : Undisturbed fun _ => True := fun _ _ _ _ => trivial
  have hcreated := undisturbed_created .credential
  unfold writeSecret
  refine (hkept.meets (within_call (by exact id)) ⟨hprepared, hunwritten⟩).bind
    (fun _ log₁ h₁ => ?_) fun _ _ _ h => nomatch h
  refine Meets.ensuring ?_
    fun (r : Except WorkerError Unit) log₃ (h₃ : r = .ok () → Created .credential log₃) => ?_
  · refine (hkept.meets (within_call (by exact id)) h₁).bind (fun info log₂ h₂ => ?_)
      fun _ _ _ h => nomatch h
    refine (hkept.meets (within_demand _ _) h₂).bind (fun _ log₃ h₃ => ?_) fun _ _ _ h => nomatch h
    refine (hkept.meets (within_assertCurrentTypedAuthority _ _) h₃).bind (fun _ log₄ h₄ => ?_)
      fun _ _ _ h => nomatch h
    refine meets_bind.mpr ⟨⟨p, h₄.1⟩, ?_⟩
    rintro opened log₅ ⟨w, w', -, rfl⟩
    rcases opened with error | ⟨⟩
    · exact fun h => nomatch h
    have hunwritten₅ : Unwritten .credential
        (log₄ ++ [⟨w, .user .createCredential, .ok ()⟩]) := by
      intro e he
      rcases List.mem_append.mp he with he | he
      · exact h₄.2 e he
      · cases List.mem_singleton.mp he
        exact id
    refine (meets_credentialStream (created_of_ok (f := .credential)) hunwritten₅).bind
      (fun _ log₆ h₆ => ?_) fun _ _ _ h => nomatch h
    exact (hcreated.meets (within_call (by exact id)) h₆).mono fun _ _ h _ => h
  · cases r with
    | ok u =>
      refine (hcreated.meets (within_call (by exact id)) (h₃ rfl)).mono fun r log' h => ?_
      cases r with
      | ok _ => exact fun _ => h
      | error e => exact fun h => nomatch h
    | error e =>
      refine (htrue.meets (within_call (by exact id)) trivial).mono fun r log' _ => ?_
      cases r <;> exact fun h => nomatch h

/-! ## The deployment that creates -/

/-- No file has been written. -/
def Start (log : List WorkerEvent) : Prop := ∀ f, Unwritten f log

theorem undisturbed_start : Undisturbed Start :=
  fun log more hmore h f => undisturbed_unwritten f log more hmore (h f)

/-- The second evidence has been created, and the last one has not been written. -/
def Effected (req : WorkerRequest) (log : List WorkerEvent) : Prop :=
  Created (.evidence (credentialPath req .effect)) log ∧
    Unwritten (.evidence (credentialPath req .final)) log

theorem undisturbed_effected (req : WorkerRequest) : Undisturbed (Effected req) :=
  (undisturbed_created _).and (undisturbed_unwritten _)

theorem within_makeEvidenceRoot : Within Reading Create.makeEvidenceRoot := by
  unfold Create.makeEvidenceRoot
  refine (within_call (by exact id)).bind fun there => ?_
  split
  · exact within_done _
  · refine (within_call (by exact id)).bind fun usable => ?_
    exact (within_demand _ _).bind fun _ => within_call (by exact id)

theorem evidence_ne {p q : EvidencePath} (h : p.phase ≠ q.phase) :
    WorkerFile.evidence p ≠ .evidence q := by
  rintro heq
  injection heq with heq
  exact h (congrArg _ heq)

theorem meets_createEffect (policy : WorkerPolicy) (req : WorkerRequest)
    (identity : List (String × Json)) (h : Start log) :
    Meets (logged WorkerServes) AllowedWorker (Create.effect policy req identity) (fun r log' =>
      match r with
      | .ok _ => Effected req log'
      | .error _ => True) log := by
  have hstart := undisturbed_start
  unfold Create.effect
  refine (hstart.meets (within_assertCurrentTypedAuthority _ _) h).bind (fun _ log h => ?_)
    fun _ _ _ => trivial
  refine (hstart.meets within_makeEvidenceRoot h).bind (fun _ log h => ?_) fun _ _ _ => trivial
  refine (hstart.meets (within_call (by exact id)) h).bind (fun _ log h => ?_) fun _ _ _ => trivial
  refine (hstart.meets (within_call (by exact id)) h).bind (fun _ log h => ?_) fun _ _ _ => trivial
  refine (hstart.meets within_credentialMetadata h).bind (fun before log h => ?_)
    fun _ _ _ => trivial
  refine (hstart.meets (within_demand _ _) h).bind (fun _ log h => ?_) fun _ _ _ => trivial
  refine (hstart.meets (within_assertCurrentTypedAuthority _ _) h).bind (fun token log h => ?_)
    fun _ _ _ => trivial
  refine (meets_exclusiveJson (credentialPath req .prepared) trivial (h _)).bind ?_
    fun _ _ _ => trivial
  rintro ⟨⟩ log₁ ⟨hprepared, more, rfl, hmore⟩
  -- the other files are still as they were
  have hothers : ∀ f, .evidence (credentialPath req .prepared) ≠ f → Unwritten f (log ++ more) :=
    fun f hne => (h f).others hne hmore
  have hcredential := hothers .credential (fun heq => by cases heq)
  have heffect := hothers (.evidence (credentialPath req .effect))
    (evidence_ne fun heq => by cases heq)
  have hfinal := hothers (.evidence (credentialPath req .final))
    (evidence_ne fun heq => by cases heq)
  have hprepared := hprepared rfl
  generalize log ++ more = log₁ at hprepared hcredential heffect hfinal ⊢
  have hkept := (undisturbed_created (.evidence (credentialPath req .prepared))).and
    ((undisturbed_unwritten .credential).and
      ((undisturbed_unwritten (.evidence (credentialPath req .effect))).and
        (undisturbed_unwritten (.evidence (credentialPath req .final)))))
  refine (hkept.meets (within_assertCurrentTypedAuthority _ _)
    ⟨hprepared, hcredential, heffect, hfinal⟩).bind (fun _ log₂ h₂ => ?_) fun _ _ _ => trivial
  refine (hkept.meets (within_call (by exact id)) h₂).bind (fun secret log₃ h₃ => ?_)
    fun _ _ _ => trivial
  obtain ⟨hprepared, hcredential, heffect, hfinal⟩ := h₃
  refine (meets_writeSecret (p := credentialPath req .prepared) hprepared
    hcredential).attemptBind ?_
  rintro r log₄ ⟨hcreated, more, rfl, hmore⟩
  cases r with
  | error error => trivial
  | ok u =>
    have hcreated := hcreated rfl
    have hprepared := hprepared.append more
    have heffect := heffect.others (fun heq => by cases heq) hmore
    have hfinal := hfinal.others (fun heq => by cases heq) hmore
    generalize log₃ ++ more = log₄ at hcreated hprepared heffect hfinal ⊢
    have hkept := (undisturbed_created (.evidence (credentialPath req .prepared))).and
      ((undisturbed_created .credential).and
        ((undisturbed_unwritten (.evidence (credentialPath req .effect))).and
          (undisturbed_unwritten (.evidence (credentialPath req .final)))))
    refine (hkept.meets within_credentialMetadata
      ⟨hprepared, hcreated, heffect, hfinal⟩).bind (fun metadata log₅ h₅ => ?_) fun _ _ _ => trivial
    obtain ⟨hprepared, hcreated, heffect, hfinal⟩ := h₅
    refine (meets_exclusiveJson (credentialPath req .effect) ⟨hprepared, hcreated⟩
      heffect).bind ?_ fun _ _ _ => trivial
    rintro ⟨⟩ log₆ ⟨hdone, more, rfl, hmore⟩
    exact ⟨hdone rfl, hfinal.others (evidence_ne fun heq => by cases heq) hmore⟩

theorem meets_createPersist (req : WorkerRequest) (identity : List (String × Json))
    (items : List (EffectEvidence WorkerValue WorkerValue)) (h : Effected req log) :
    Meets (logged WorkerServes) AllowedWorker (Create.persist req identity items)
      (fun _ _ => True) log := by
  unfold Create.persist
  refine ((undisturbed_effected req).meets (within_assertCurrentTypedAuthority _ _) h).bind
    (fun _ log₁ h₁ => ?_) fun _ _ _ => trivial
  split
  · refine ((undisturbed_effected req).meets (within_demand _ _) h₁).bind (fun _ log₂ h₂ => ?_)
      fun _ _ _ => trivial
    exact (meets_exclusiveJson (credentialPath req .final) (Or.inl h₂.1) h₂.2).mono
      fun _ _ _ => trivial
  · trivial

/-- A deployment of one step, from what its effect and its persisting keep. -/
theorem oneStep (step : DeploymentStep WorkerAnswer WorkerValue WorkerValue)
    (persist : List (EffectEvidence WorkerValue WorkerValue) → WorkerScript Unit)
    {K K' : List WorkerEvent → Prop} (hK : Undisturbed K) (hK' : Undisturbed K')
    (heffect : ∀ log, K log → Meets (logged WorkerServes) AllowedWorker step.effect (fun r log' =>
      match r with
      | .ok _ => K' log'
      | .error _ => True) log)
    (hreadback : ∀ b, Within Reading (step.readback b))
    (hpersist : ∀ items log, K' log → Meets (logged WorkerServes) AllowedWorker (persist items)
      (fun _ _ => True) log) :
    OneStep WorkerServes AllowedWorker step persist K (fun _ => K') (fun _ _ => K') (fun _ => True)
      fun _ _ => True where
  own _ _ hown := allowed_of_reading (reading_own hown)
  start_own log more hmore h := hK log more (fun e he => reading_own (hmore e he)) h
  done_own _ _ log more hmore h := hK' log more (fun e he => reading_own (hmore e he)) h
  persisted_own _ _ _ _ := trivial
  failed_own _ _ _ _ _ := trivial
  effect log h := (heffect log h).mono fun r _ h => by cases r <;> exact h
  readback b log h := (hK'.meets (hreadback b) h).mono fun r _ h => by
    cases r with
    | ok _ => exact h
    | error _ => trivial
  persist name b g log h := (hpersist _ log h).mono fun r _ _ => by cases r <;> trivial

theorem meets_createCredential (policy : WorkerPolicy) (req : WorkerRequest)
    (authority : WorkerAuthority) (h : Start log) :
    Meets (logged WorkerServes) AllowedWorker (createCredential policy req authority)
      (fun _ _ => True) log := by
  have hstart := undisturbed_start
  unfold createCredential
  refine (hstart.meets (within_call (by exact id)) h).bind (fun version log h => ?_)
    fun _ _ _ => trivial
  refine (hstart.meets (within_demand _ _) h).bind (fun _ log h => ?_) fun _ _ _ => trivial
  refine (hstart.meets (within_call (by exact id)) h).bind (fun _ log h => ?_) fun _ _ _ => trivial
  refine (hstart.meets (within_call (by exact id)) h).bind (fun _ log h => ?_) fun _ _ _ => trivial
  refine (hstart.meets (within_call (by exact id)) h).bind (fun there log h => ?_)
    fun _ _ _ => trivial
  have hrest : ∀ log, Start log → Meets (logged WorkerServes) AllowedWorker (do
      let status ← readReconciliation policy req (evidenceIdentity req authority)
      demand (status.text = "PRISTINE") "WORKER_CREDENTIAL_EXISTING_STATE_RECONCILIATION_REQUIRED"
      runControlledDeployment (deploymentOf req req.operationId)
        [Create.step policy req (evidenceIdentity req authority)]
        (Create.persist req (evidenceIdentity req authority))) (fun _ _ => True) log := by
    intro log h
    refine (hstart.meets (within_readReconciliation _ _ _) h).bind (fun status log h => ?_)
      fun _ _ _ => trivial
    refine (hstart.meets (within_demand _ _) h).bind (fun _ log h => ?_) fun _ _ _ => trivial
    have hstep := oneStep (Create.step policy req (evidenceIdentity req authority))
      (Create.persist req (evidenceIdentity req authority))
      undisturbed_start (undisturbed_effected req)
      (fun log h => meets_createEffect policy req (evidenceIdentity req authority) h)
      (fun _ => within_credentialMetadata.bind fun _ => within_done _)
      (fun items log h => meets_createPersist req (evidenceIdentity req authority) items h)
    exact (hstep.meets _ h).mono fun _ _ _ => trivial
  split
  · refine (hstart.meets (within_call (by exact id)) h).bind (fun _ log h => hrest log h)
      fun _ _ _ => trivial
  · exact hrest log h

/-! ## The deployment that settles -/

/-- The second evidence has been seen, and nothing has been written. -/
def Settling (req : WorkerRequest) (log : List WorkerEvent) : Prop :=
  Returned (.evidenceThere (credentialPath req .effect)) true log ∧ Start log

theorem undisturbed_settling (req : WorkerRequest) : Undisturbed (Settling req) := by
  have hreturned : Undisturbed (Returned (.evidenceThere (credentialPath req .effect)) true) :=
    fun _ more _ h => h.append more
  exact hreturned.and undisturbed_start

theorem meets_readDocument {policy : WorkerPolicy} {req : WorkerRequest}
    {identity : List (String × Json)} {phase : EvidencePhase} (h : Start log) :
    Meets (logged WorkerServes) AllowedWorker (readDocument policy req identity phase)
      (fun r log' => Start log' ∧ ∀ doc, r = .ok (some doc) →
        Returned (.evidenceThere (credentialPath req phase)) true log') log := by
  have hseen : Undisturbed (Returned (.evidenceThere (credentialPath req phase)) true) :=
    fun _ more _ h => h.append more
  have hkept := hseen.and undisturbed_start
  unfold readDocument
  refine meets_bind.mpr ⟨allowed_of_reading (by exact id), ?_⟩
  rintro there log₁ ⟨w, w', -, rfl⟩
  have hstart : Start (log ++ [⟨w, .user (.evidenceThere (credentialPath req phase)), there⟩]) := by
    refine undisturbed_start _ _ (fun e he => ?_) h
    cases List.mem_singleton.mp he
    exact id
  rcases there with error | there
  · exact ⟨hstart, fun _ h => nomatch h⟩
  cases there with
  | false => exact ⟨hstart, fun _ h => nomatch h⟩
  | true =>
    have hthere : Returned (.evidenceThere (credentialPath req phase)) true
        (log ++ [⟨w, .user (.evidenceThere (credentialPath req phase)), .ok true⟩]) :=
      ⟨_, List.mem_append_right _ (List.mem_singleton_self _), w, rfl⟩
    have hrest := (within_call (by exact id : Reading (.user (.evidenceStat
      (credentialPath req phase))))).bind fun info =>
        (within_demand (info.1 = policy.ownerUid ∧ info.2 = 0o600)
          "WORKER_CREDENTIAL_EVIDENCE_METADATA_INVALID").bind fun _ =>
          (within_call (by exact id : Reading (.user (.readPinned
            (credentialPath req phase))))).bind fun raw =>
            (within_done ((documentOf identity phase raw).mapError .raised)).bind fun document =>
              (within_done (.ok (some document)) : Within Reading (pure (some document)))
    exact (hkept.meets hrest ⟨hthere, hstart⟩).mono fun _ _ h => ⟨h.2, fun _ _ => h.1⟩

theorem effect_of_applied {prepared effect final : Option Json} {metadata m : Option FileInfo}
    (h : classify prepared effect final metadata = .effectAppliedFinalMissing m) :
    effect.isSome := by
  unfold classify at h
  cases effect with
  | some document => rfl
  | none =>
    cases final with
    | some document => simp at h
    | none =>
      simp only [Option.any_none, if_true] at h
      split at h
      · split at h <;> cases h
      · split at h <;> cases h

/-- A status that says the effect was applied has seen its evidence. -/
theorem meets_settling {policy : WorkerPolicy} {req : WorkerRequest}
    {identity : List (String × Json)} (h : Start log) :
    Meets (logged WorkerServes) AllowedWorker (readReconciliation policy req identity)
      (fun r log' => Start log' ∧ ∀ m, r = .ok (.effectAppliedFinalMissing m) →
        Returned (.evidenceThere (credentialPath req .effect)) true log') log := by
  have hstart := undisturbed_start
  unfold readReconciliation
  refine (meets_readDocument h).bind (fun prepared log₁ h₁ => ?_)
    fun _ _ h => ⟨h.1, fun _ h => nomatch h⟩
  refine (meets_readDocument h₁.1).bind (fun effect log₂ h₂ => ?_)
    fun _ _ h => ⟨h.1, fun _ h => nomatch h⟩
  have hkept : Undisturbed fun log => Start log ∧ (effect.isSome →
      Returned (.evidenceThere (credentialPath req .effect)) true log) :=
    hstart.and fun _ more _ h hsome => (h hsome).append more
  have hseen : effect.isSome → Returned
    (.evidenceThere (credentialPath req .effect)) true log₂ := by
    intro hsome
    obtain ⟨document, rfl⟩ := Option.isSome_iff_exists.mp hsome
    exact h₂.2 document rfl
  refine (hkept.meets (within_readDocument _ _ _ _) ⟨h₂.1, hseen⟩).bind (fun final log₃ h₃ => ?_)
    fun _ _ h => ⟨h.1, fun _ h => nomatch h⟩
  refine (hkept.meets within_credentialMetadata h₃).attemptBind fun r log₄ h₄ => ?_
  cases r with
  | ok metadata =>
    refine ⟨h₄.1, fun m hm => h₄.2 ?_⟩
    injection hm with hm
    exact effect_of_applied hm
  | error e =>
    simp only
    split
    · exact ⟨h₄.1, fun m hm => by injection hm with hm; cases hm⟩
    · exact ⟨h₄.1, fun m hm => nomatch hm⟩

/-- What stands before the closing of the store. -/
theorem meets_closing {α : Type} {x : WorkerScript α}
    (hx : Meets (logged WorkerServes) AllowedWorker x (fun _ _ => True) log) :
    Meets (logged WorkerServes) AllowedWorker (ensuring (do
      let _ ← x
      pure ()) (call .closeStore)) (fun _ _ => True) log := by
  have htrue : Undisturbed fun _ => True := fun _ _ _ _ => trivial
  have hbody : Meets (logged WorkerServes) AllowedWorker (do
      let _ ← x
      pure ()) (fun _ _ => True) log := hx.bind (fun _ _ _ => trivial) fun _ _ _ => trivial
  refine hbody.ensuring fun r log₁ _ => ?_
  refine (htrue.meets (within_call (by exact id)) trivial).mono fun r _ _ => ?_
  cases r <;> trivial

theorem meets_reconcilePersist (req : WorkerRequest) (identity : List (String × Json))
    (status : CredentialStatus) (metadata : Option FileInfo)
    (items : List (EffectEvidence WorkerValue WorkerValue)) (h : Settling req log) :
    Meets (logged WorkerServes) AllowedWorker (Reconcile.persist req identity status metadata items)
      (fun _ _ => True) log := by
  unfold Reconcile.persist
  refine ((undisturbed_settling req).meets (within_assertCurrentTypedAuthority _ _) h).bind
    (fun _ log₁ h₁ => ?_) fun _ _ _ => trivial
  split
  · refine ((undisturbed_settling req).meets (within_demand _ _) h₁).bind (fun _ log₂ h₂ => ?_)
      fun _ _ _ => trivial
    exact (meets_exclusiveJson (credentialPath req .final) (Or.inr h₂.1) (h₂.2 _)).mono
      fun _ _ _ => trivial
  · trivial

theorem within_reconcileEffect (policy : WorkerPolicy) (req : WorkerRequest)
    (identity : List (String × Json)) (status : CredentialStatus) :
    Within Reading (Reconcile.effect policy req identity status) := by
  unfold Reconcile.effect
  refine (within_assertCurrentTypedAuthority _ _).bind fun _ => ?_
  refine (within_readReconciliation _ _ _).bind fun current => ?_
  exact Within.bind (within_demand _ _) fun _ => within_done _

theorem meets_settle (policy : WorkerPolicy) (req : WorkerRequest)
    (identity : List (String × Json)) (status : CredentialStatus) (metadata : Option FileInfo)
    (h : Settling req log) :
    Meets (logged WorkerServes) AllowedWorker (Reconcile.settle policy req identity status metadata)
      (fun _ _ => True) log := by
  have htrue : Undisturbed fun _ => True := fun _ _ _ _ => trivial
  have hsettling := undisturbed_settling req
  unfold Reconcile.settle
  refine (hsettling.meets (within_call (by exact id)) h).bind (fun _ log₁ h₁ => ?_)
    fun _ _ _ => trivial
  have hstep := oneStep (Reconcile.step policy req identity status)
    (Reconcile.persist req identity status metadata) hsettling hsettling
    (fun log h => (hsettling.meets (within_reconcileEffect policy req identity status) h).mono
      fun r _ h => by
        cases r with
        | ok _ => exact h
        | error _ => trivial)
    (fun _ => (within_readReconciliation _ _ _).bind fun _ => within_done _)
    (fun items log h => meets_reconcilePersist req identity status metadata items h)
  have hdeployment := hstep.meets (deploymentOf req (Reconcile.attemptId req)) h₁
  exact (meets_closing (hdeployment.mono fun _ _ _ => trivial)).bind
    (fun _ log₂ _ => htrue.meets (within_readReconciliation _ _ _) trivial) fun _ _ _ => trivial

/-! ## The three calls -/

theorem start_nil : Start [] := fun _ _ he => absurd he List.not_mem_nil

theorem within_readWorkerCredential (policy : WorkerPolicy) (req : WorkerRequest) :
    Within Reading (readWorkerCredential policy req) := by
  unfold readWorkerCredential
  refine (within_call (by exact id)).bind fun _ => (within_call (by exact id)).bind fun _ => ?_
  refine (within_call (by exact id)).bind fun there => ?_
  split
  · refine (within_call (by exact id)).bind fun _ => (within_call (by exact id)).bind
      fun there => ?_
    split
    · refine (within_call (by exact id)).bind fun info => (within_demand _ _).bind fun _ => ?_
      refine (within_call (by exact id)).bind fun raw => (within_done _).bind fun identity => ?_
      exact within_readReconciliation _ _ _
    · exact within_credentialMetadata.bind fun _ => within_done _
  · exact within_credentialMetadata.bind fun _ => within_done _

theorem meets_some {α β : Type} {x : WorkerScript α} {f : α → β}
    (hx : Meets (logged WorkerServes) AllowedWorker x (fun _ _ => True) log) :
    Meets (logged WorkerServes) AllowedWorker (x >>= fun a => pure (f a)) (fun _ _ => True) log :=
  hx.bind (fun _ _ _ => trivial) fun _ _ _ => trivial

/-- Every call of a program is one that the calls before it allow. -/
theorem allowed_program (policy : WorkerPolicy) (entry : WorkerEntry) :
    Meets (logged WorkerServes) AllowedWorker (entry.program policy) (fun _ _ => True) [] := by
  have hstart := undisturbed_start
  cases entry with
  | create req =>
    refine meets_some ?_
    unfold createWorkerCredential
    refine (hstart.meets (within_call (by exact id)) start_nil).bind (fun authority log h => ?_)
      fun _ _ _ => trivial
    refine (hstart.meets (within_call (by exact id)) h).bind (fun _ log h => ?_)
      fun _ _ _ => trivial
    refine (hstart.meets (within_call (by exact id)) h).bind (fun _ log h => ?_)
      fun _ _ _ => trivial
    exact meets_closing (meets_createCredential policy req authority h)
  | reconcile req =>
    refine meets_some ?_
    unfold reconcileWorkerCredential
    refine (hstart.meets (within_call (by exact id)) start_nil).bind (fun authority log h => ?_)
      fun _ _ _ => trivial
    refine (hstart.meets (within_call (by exact id)) h).bind (fun _ log h => ?_)
      fun _ _ _ => trivial
    refine (hstart.meets (within_call (by exact id)) h).bind (fun _ log h => ?_)
      fun _ _ _ => trivial
    refine (meets_settling h).bind (fun status log h => ?_) fun _ _ _ => trivial
    split
    · exact meets_settle policy req _ _ _ ⟨h.2 _ rfl, h.1⟩
    · trivial
  | read req =>
    have hread := (within_readWorkerCredential policy req).bind fun status =>
      (within_done (.ok (some status)) : Within Reading (pure (some status)))
    exact (hstart.meets hread start_nil).mono fun _ _ _ => trivial

/-! ## The disk along a call -/

/-- The files appear in their order, below the root. -/
structure Ordered (d : WorkerDisk) : Prop where
  root : ∀ p, d.has (.evidence p) → d.root = true
  credential : d.has .credential → ∃ p : EvidencePath, d.has (p.at .prepared)
  effect : ∀ p : EvidencePath, d.has (p.at .effect) → d.has (p.at .prepared) ∧ d.has .credential
  final : ∀ p : EvidencePath, d.has (p.at .final) → d.has (p.at .effect)

/-- The calls have created the file, or written to it. -/
def Marked (f : WorkerFile) (log : List WorkerEvent) : Prop :=
  ∃ e ∈ log, Makes f e ∨ Writes f e.made

/-- No two events have created one file, and no two have written to it. -/
def OnceEach (log : List WorkerEvent) : Prop :=
  ∀ f, log.Pairwise fun e e' => ¬ (Makes f e ∧ Makes f e') ∧ ¬ (Writes f e.made ∧ Writes f e'.made)

/-- What holds of the disk and of the calls at every point of a call that has found the disk
`d₀`, after the calls `past`. -/
structure RunKeeps (d₀ : WorkerDisk) (past : List WorkerEvent) (s : WorkerDisk × List WorkerEvent) :
    Prop where
  ordered : Ordered s.1
  kept : ∀ f, d₀.has f → s.1.file f = d₀.file f
  new : ∀ f, Created f s.2 → ¬ d₀.has f
  there : ∀ f, Marked f (past ++ s.2) → s.1.has f
  seen : ∀ p, Returned (.evidenceThere p) true s.2 → s.1.has (.evidence p)
  once : OnceEach (past ++ s.2)

theorem pristine_ordered : Ordered .pristine := by
  refine ⟨fun p h => ?_, fun h => ?_, fun p h => ?_, fun p h => ?_⟩
  · exact absurd (has_evidence.mp h) Bool.false_ne_true
  · exact absurd (has_credential.mp h) Bool.false_ne_true
  · exact absurd (has_evidence.mp h) Bool.false_ne_true
  · exact absurd (has_evidence.mp h) Bool.false_ne_true

/-- A file that is there was there, or has just been created. -/
theorem served_had (h : WorkerServes d c a d') (hf : d'.has f) : d.has f ∨ Creates f c := by
  rcases (served_file (f := f) h).file with hsame | ⟨-, -, hcreates⟩ | ⟨hthere, -⟩
  · left
    unfold WorkerDisk.has at hf ⊢
    rwa [hsame] at hf
  · exact Or.inr hcreates
  · exact Or.inl hthere

theorem served_makes {s : WorkerDisk} {e : WorkerEvent} (h : WorkerServes e.world e.made e.answer s)
    (hmakes : Makes f e) : ¬ e.world.has f ∧ s.has f := by
  cases f with
  | evidence p =>
    obtain ⟨w, rfl⟩ := hmakes
    exact served_creation (f := .evidence p) h
  | credential =>
    obtain ⟨w, rfl⟩ := hmakes
    exact served_creation (f := .credential) h

theorem created_marked {past log : List WorkerEvent} (h : Created f log) :
    Marked f (past ++ log) := by
  obtain ⟨e, he, hmakes⟩ := h
  exact ⟨e, List.mem_append_right _ he, Or.inl hmakes⟩

theorem allowed_touches (h : AllowedWorker log c) (htouches : Touches f c) : Created f log := by
  unfold Touches at htouches
  split at htouches
  · cases htouches
    exact h.1
  · cases htouches
    exact h.1
  · exact h.1
  · exact h.1
  · exact h
  · exact h
  · exact htouches.elim

theorem allowed_writes (h : AllowedWorker log c) (hwrites : Writes f c) : Unwritten f log := by
  unfold Writes at hwrites
  split at hwrites
  · cases hwrites
    exact h.2
  · exact h.2
  · exact hwrites.elim

variable {d₀ : WorkerDisk} {past : List WorkerEvent} {s s' : WorkerDisk × List WorkerEvent}

/-- What the new event of a log shows, it or an earlier one shows. -/
theorem of_mem_snoc {log : List WorkerEvent} {e : WorkerEvent} {P : WorkerEvent → Prop}
    (h : ∃ x ∈ log ++ [e], P x) : (∃ x ∈ log, P x) ∨ P e := by
  obtain ⟨x, hx, hp⟩ := h
  rcases List.mem_append.mp hx with hx | hx
  · exact Or.inl ⟨x, hx, hp⟩
  · cases List.mem_singleton.mp hx
    exact Or.inr hp

theorem RunKeeps.ordered_step (h : RunKeeps d₀ past s) (hallowed : AllowedWorker s.2 c)
    (hserved : WorkerServes s.1 c a d') : Ordered d' := by
  have hthere : ∀ f, Created f s.2 → d'.has f :=
    fun f hf => served_has hserved (h.there f (created_marked hf))
  refine ⟨fun p hp => ?_, fun hc => ?_, fun p hp => ?_, fun p hp => ?_⟩
  · have hstep := served_file (f := .evidence p) hserved
    rcases served_had hserved hp with hhad | hcreates
    · exact hstep.root (h.ordered.root p hhad)
    · rcases hstep.rooted hcreates (fun heq => by cases heq) hp with hhad | hroot
      · exact hstep.root (h.ordered.root p hhad)
      · exact hstep.root hroot
  · rcases served_had hserved hc with hhad | hcreates
    · obtain ⟨p, hp⟩ := h.ordered.credential hhad
      exact ⟨p, served_has hserved hp⟩
    · unfold Creates at hcreates
      subst hcreates
      obtain ⟨p, hp⟩ := hallowed
      exact ⟨p, hthere _ hp⟩
  · rcases served_had hserved hp with hhad | hcreates
    · obtain ⟨hprepared, hcredential⟩ := h.ordered.effect p hhad
      exact ⟨served_has hserved hprepared, served_has hserved hcredential⟩
    · unfold Creates at hcreates
      subst hcreates
      exact ⟨hthere _ hallowed.1, hthere _ hallowed.2⟩
  · rcases served_had hserved hp with hhad | hcreates
    · exact served_has hserved (h.ordered.final p hhad)
    · unfold Creates at hcreates
      subst hcreates
      rcases hallowed with hcreated | hseen
      · exact hthere _ hcreated
      · exact served_has hserved (h.seen _ hseen)

theorem RunKeeps.once_step (h : RunKeeps d₀ past s) (hpast : ∀ f, Marked f past → d₀.has f)
    (hallowed : AllowedWorker s.2 c) (hserved : WorkerServes s.1 c a d') :
    OnceEach (past ++ (s.2 ++ [⟨s.1, c, a⟩])) := by
  intro f
  rw [← List.append_assoc]
  refine List.pairwise_append.mpr ⟨h.once f, List.pairwise_singleton _ _, ?_⟩
  intro e he e' he'
  cases List.mem_singleton.mp he'
  refine ⟨fun hmakes => ?_, fun hwrites => ?_⟩
  · exact (served_makes hserved hmakes.2).1 (h.there f ⟨e, he, Or.inl hmakes.1⟩)
  · rcases List.mem_append.mp he with he | he
    · have hcreated := allowed_touches hallowed (writes_touches hwrites.2)
      exact h.new f hcreated (hpast f ⟨e, he, Or.inr hwrites.1⟩)
    · exact allowed_writes hallowed hwrites.2 e he hwrites.1

/-- **What one call keeps.** -/
theorem RunKeeps.step (h : RunKeeps d₀ past s) (hpast : ∀ f, Marked f past → d₀.has f)
    (hallowed : AllowedWorker s.2 c) (hserved : traced WorkerServes s c a s') :
    RunKeeps d₀ past s' := by
  obtain ⟨d', log'⟩ := s'
  obtain ⟨hserved, rfl⟩ := hserved
  refine ⟨h.ordered_step hallowed hserved, fun f hf => ?_, fun f hf => ?_, fun f hf => ?_,
    fun p hp => ?_, h.once_step hpast hallowed hserved⟩
  · have hkept := h.kept f hf
    rcases (served_file (f := f) hserved).file with hsame | ⟨hnot, -⟩ | ⟨-, -, htouches⟩
    · exact hsame.trans hkept
    · refine absurd ?_ hnot
      unfold WorkerDisk.has
      rwa [hkept]
    · exact absurd hf (h.new f (allowed_touches hallowed htouches))
  · rcases of_mem_snoc hf with hf | hmakes
    · exact h.new f hf
    · intro hhad
      refine (served_makes hserved hmakes).1 ?_
      unfold WorkerDisk.has
      rwa [h.kept f hhad]
  · dsimp only at hf
    rw [← List.append_assoc] at hf
    rcases of_mem_snoc hf with hf | hmakes | hwrites
    · exact served_has hserved (h.there f hf)
    · exact (served_makes hserved hmakes).2
    · have hcreated := allowed_touches hallowed (writes_touches hwrites)
      exact served_has hserved (h.there f (created_marked hcreated))
  · rcases of_mem_snoc hp with hp | ⟨w, heq⟩
    · exact served_has hserved (h.seen p hp)
    · cases heq
      obtain ⟨hthere, rfl⟩ := hserved
      exact has_evidence.mpr hthere.symm

theorem runKeeps {policy : WorkerPolicy} {entry : WorkerEntry}
    {q : WorkerScript (Option CredentialStatus)} (hordered : Ordered d₀)
    (hpast : ∀ f, Marked f past → d₀.has f) (honce : OnceEach past)
    (hs : Steps (traced WorkerServes) (entry.program policy) (d₀, []) q s) :
    RunKeeps d₀ past s := by
  refine hs.guided (allowed_program policy entry) ⟨hordered, fun f _ => rfl, fun f hf => ?_,
    fun f hf => ?_, fun p hp => ?_, ?_⟩ fun s c a s' h => h.step hpast
  · obtain ⟨e, he, -⟩ := hf
    cases he
  · dsimp only at hf
    rw [List.append_nil] at hf
    exact hpast f hf
  · obtain ⟨e, he, -⟩ := hp
    cases he
  · dsimp only
    rw [List.append_nil]
    exact honce

theorem sessions_keep {policy : WorkerPolicy} {history : List (List WorkerEvent)}
    (h : Sessions policy .pristine history d) :
    Ordered d ∧ (∀ f, Marked f history.flatten → d.has f) ∧ OnceEach history.flatten := by
  induction h with
  | start =>
    refine ⟨pristine_ordered, fun f hf => ?_, fun f => List.Pairwise.nil⟩
    obtain ⟨e, he, -⟩ := hf
    cases he
  | call before entry run ih =>
    have hkeeps := runKeeps ih.1 ih.2.1 ih.2.2 run
    rw [List.flatten_append, List.flatten_singleton]
    exact ⟨hkeeps.ordered, hkeeps.there, hkeeps.once⟩

/-! ## What a status says -/

/-- The call has worked: it has answered a value, the evidence has the owner and the mode of its
creation. A credential that does not validate raises the typed error of the validation. -/
def Worked (policy : WorkerPolicy) : (c : ControlCall WorkerCall) →
    Except WorkerError (WorkerControlAnswer c) → Prop
  | .user .validateCredential, r => ∀ e, r = .error e → isTypedError e
  | .user (.evidenceStat _), r => r = .ok (policy.ownerUid, 0o600)
  | _, r => ∃ a, r = .ok a

/-- The disk serves the calls, and every one has worked when `careful`. -/
def Serving (policy : WorkerPolicy) (careful : Prop) (d : WorkerDisk) (c : ControlCall WorkerCall)
    (a : Except WorkerError (WorkerControlAnswer c)) (d' : WorkerDisk) : Prop :=
  WorkerServes d c a d' ∧ (careful → Worked policy c a)

/-- A call that leaves the disk as it is. -/
def Still : ControlCall WorkerCall → Prop
  | .user .makeRoot => False
  | c => Reading c

/-- What reading the evidence of a phase gives. -/
def Reads (identity : List (String × Json)) (req : WorkerRequest) (d : WorkerDisk)
    (phase : EvidencePhase) (document : Option Json) : Prop :=
  match d.evidence (credentialPath req phase) with
  | none => document = none
  | some raw => ∃ v, documentOf identity phase raw = .ok v ∧ document = some v

/-- An evidence file of the operation does not read as the document of its phase, with the
identity: it is incomplete, or of another approval. -/
def Unread (identity : List (String × Json)) (req : WorkerRequest) (d : WorkerDisk) : Prop :=
  ∃ phase raw, d.evidence (credentialPath req phase) = some raw ∧
    ∀ v, documentOf identity phase raw ≠ .ok v

/-- The status says what is on the disk. -/
def Reported (identity : List (String × Json)) (req : WorkerRequest) (d : WorkerDisk)
    (status : CredentialStatus) : Prop :=
  ∃ prepared effect final, Reads identity req d .prepared prepared ∧
    Reads identity req d .effect effect ∧ Reads identity req d .final final ∧
    (status = .partialOrInvalidFile ∨
      status = classify prepared effect final (d.credential.map (·.info)))

variable {policy : WorkerPolicy} {careful : Prop} {req : WorkerRequest}
  {identity : List (String × Json)}

theorem served_still (h : WorkerServes d c a d') (hstill : Still c) : d' = d := by
  cases c with
  | user c =>
    cases c with
    | makeRoot => exact hstill.elim
    | createEvidence p | writeEvidence p text | flushEvidence p text => exact absurd trivial hstill
    | createCredential | writeCredential text | flushCredential text | syncCredential
    | closeCredential => exact absurd trivial hstill
    | rootThere | evidenceThere p | readPinned p | credentialThere | credentialStat =>
      cases a with
      | ok a => exact h.2
      | error e => exact h
    | _ => cases a <;> exact h
  | _ => cases a <;> exact h

theorem documentOf_error {phase : EvidencePhase} {raw : List Char} {e : PyError}
    (h : documentOf identity phase raw = .error e) : isTypedError (.raised e) := by
  unfold documentOf at h
  split at h
  · cases h
    rfl
  · split at h
    · cases h
    · cases h
      rfl

theorem identityOf_error {raw : List Char} {e : PyError}
    (h : ReadOnly.identityOf req raw = .error e) : isTypedError (.raised e) := by
  unfold ReadOnly.identityOf at h
  split at h
  · cases h
    rfl
  · split at h
    · cases h
      rfl
    · split at h
      · cases h
      · cases h
        rfl

/-- What reading ends in, of a value it returns and of an error. -/
def Ends {α : Type} (careful : Prop) (d : WorkerDisk) (value : α → Prop)
    (refused : WorkerError → Prop) (r : Except WorkerError α) (d' : WorkerDisk) : Prop :=
  d' = d ∧ match r with
    | .ok x => value x
    | .error e => careful → refused e

/-- One call of a reading, which raises only where `careful` does not hold. -/
theorem meets_stillCall {α : Type} {c : WorkerCall} (hstill : Still (.user c))
    (hworks : ∀ e, ¬ Worked policy (.user c) (.error e)) {f : WorkerAnswer c → WorkerScript α}
    {value : α → Prop} {refused : WorkerError → Prop}
    (h : ∀ a, WorkerServes d (.user c) (.ok a) d → (careful → Worked policy (.user c) (.ok a)) →
      Meets (Serving policy careful) (fun _ c => Still c) (f a) (Ends careful d value refused) d) :
    Meets (Serving policy careful) (fun _ c => Still c) (call c >>= f)
      (Ends careful d value refused) d := by
  refine meets_bind.mpr ⟨hstill, ?_⟩
  rintro a d₁ ⟨hserved, hworked⟩
  cases served_still hserved hstill
  cases a with
  | error e => exact ⟨rfl, fun hcareful => absurd (hworked hcareful) (hworks e)⟩
  | ok a => exact h a hserved hworked

theorem meets_readsDocument (phase : EvidencePhase) :
    Meets (Serving policy careful) (fun _ c => Still c) (readDocument policy req identity phase)
      (Ends careful d (Reads identity req d phase)
        (fun e => isTypedError e ∧ Unread identity req d)) d := by
  unfold readDocument
  refine meets_stillCall (by exact id) (by rintro e ⟨a, ha⟩; cases ha)
    fun there hthere hworked => ?_
  cases there with
  | false =>
    refine ⟨rfl, ?_⟩
    have hnone : d.evidence (credentialPath req phase) = none :=
      Option.not_isSome_iff_eq_none.mp (by rw [← hthere.1]; exact Bool.false_ne_true)
    simp only [Reads, hnone]
  | true =>
    refine meets_stillCall (by exact id) (by rintro e ⟨⟩) fun info hinfo hworked => ?_
    refine meets_bind.mpr (meets_require.mpr ⟨fun _ => ?_, fun hbad => ⟨rfl, fun hcareful => ?_⟩⟩)
    · refine meets_stillCall (by exact id) (by rintro e ⟨a, ha⟩; cases ha)
        fun raw hraw hworked => ?_
      refine meets_bind.mpr (meets_lift.mpr ?_)
      cases hdocument : documentOf identity phase raw with
      | ok v =>
        refine ⟨rfl, ?_⟩
        simp only [Reads, hraw.1]
        exact ⟨v, hdocument, rfl⟩
      | error e =>
        refine ⟨rfl, fun _ => ⟨documentOf_error hdocument, phase, raw, hraw.1, fun v hv => ?_⟩⟩
        rw [hdocument] at hv
        cases hv
    · cases hworked hcareful
      exact absurd ⟨rfl, rfl⟩ hbad

theorem meets_credentialMetadata :
    Meets (Serving policy careful) (fun _ c => Still c) credentialMetadata
      (Ends careful d (fun m => m = d.credential.map (·.info))
        (fun e => isTypedError e ∧ d.credential.isSome)) d := by
  unfold credentialMetadata
  refine meets_stillCall (by exact id) (by rintro e ⟨a, ha⟩; cases ha)
    fun there hthere hworked => ?_
  cases there with
  | false =>
    refine ⟨rfl, ?_⟩
    have hnone : d.credential = none :=
      Option.not_isSome_iff_eq_none.mp (by rw [← hthere.1]; exact Bool.false_ne_true)
    rw [hnone]
    rfl
  | true =>
    refine meets_bind.mpr ⟨id, ?_⟩
    rintro valid d₂ ⟨hvalid, hworked⟩
    cases served_still hvalid id
    rcases valid with error | valid
    · exact ⟨rfl, fun hcareful => ⟨hworked hcareful error rfl, hthere.1.symm⟩⟩
    refine meets_stillCall (by exact id) (by rintro e ⟨a, ha⟩; cases ha)
      fun info hinfo hworked => ?_
    · exact ⟨rfl, hinfo.1.symm⟩

/-- **A reading says what is on the disk, and is refused when an evidence does not read.** -/
theorem meets_readReconciliation :
    Meets (Serving policy careful) (fun _ c => Still c) (readReconciliation policy req identity)
      (Ends careful d (Reported identity req d)
        (fun e => isTypedError e ∧ Unread identity req d)) d := by
  unfold readReconciliation
  refine (meets_readsDocument .prepared).bind ?_ fun _ _ h => h
  rintro prepared d₁ ⟨rfl, hprepared⟩
  refine (meets_readsDocument .effect).bind ?_ fun _ _ h => h
  rintro effect d₁ ⟨rfl, heffect⟩
  refine (meets_readsDocument .final).bind ?_ fun _ _ h => h
  rintro final d₁ ⟨rfl, hfinal⟩
  refine meets_credentialMetadata.attemptBind ?_
  rintro r d₁ ⟨rfl, hr⟩
  cases r with
  | ok metadata =>
    cases hr
    exact ⟨rfl, prepared, effect, final, hprepared, heffect, hfinal, Or.inr rfl⟩
  | error e =>
    simp only
    split
    · exact ⟨rfl, prepared, effect, final, hprepared, heffect, hfinal, Or.inl rfl⟩
    · exact ⟨rfl, fun hcareful => absurd (hr hcareful).1 ‹_›⟩

theorem classify_pristine {prepared effect final : Option Json} {metadata : Option FileInfo}
    (h : classify prepared effect final metadata = .pristine) :
    prepared = none ∧ effect = none ∧ final = none ∧ metadata = none := by
  unfold classify at h
  cases final with
  | some document =>
    simp only at h
    split at h <;> cases h
  | none =>
    simp only at h
    split at h
    · split at h
      · rename_i hprepared hnone
        simp only [Option.isNone_iff_eq_none] at hprepared hnone
        exact ⟨hprepared, hnone.2, rfl, hnone.1⟩
      · cases h
    · split at h
      · cases h
      · split at h <;> cases h

theorem reads_none {phase : EvidencePhase} (h : Reads identity req d phase none) :
    d.evidence (credentialPath req phase) = none := by
  unfold Reads at h
  cases hraw : d.evidence (credentialPath req phase) with
  | none => rfl
  | some raw =>
    rw [hraw] at h
    obtain ⟨v, -, hv⟩ := h
    cases hv

theorem reads_some {phase : EvidencePhase} {document : Json}
    (h : Reads identity req d phase (some document)) :
    ∃ raw, d.evidence (credentialPath req phase) = some raw ∧
      documentOf identity phase raw = .ok document := by
  unfold Reads at h
  cases hraw : d.evidence (credentialPath req phase) with
  | none =>
    rw [hraw] at h
    cases h
  | some raw =>
    rw [hraw] at h
    obtain ⟨v, hv, heq⟩ := h
    cases heq
    exact ⟨raw, rfl, hv⟩

/-- There is nothing: no credential and no evidence of the operation. -/
def Nothing (req : WorkerRequest) (d : WorkerDisk) : Prop :=
  d.credential = none ∧ ∀ phase, d.evidence (credentialPath req phase) = none

theorem nothing_of_pristine (h : Reported identity req d .pristine) : Nothing req d := by
  obtain ⟨prepared, effect, final, hprepared, heffect, hfinal, hstatus | hstatus⟩ := h
  · cases hstatus
  · obtain ⟨rfl, rfl, rfl, hnone⟩ := classify_pristine hstatus.symm
    refine ⟨Option.map_eq_none_iff.mp hnone, fun phase => ?_⟩
    cases phase with
    | prepared => exact reads_none hprepared
    | effect => exact reads_none heffect
    | final => exact reads_none hfinal

/-- The three documents carry the identity, and the second and the last one the metadata of the
credential that is there. -/
def Passed (identity : List (String × Json)) (req : WorkerRequest) (d : WorkerDisk)
    (metadata : Option FileInfo) : Prop :=
  ∃ c, d.credential = some c ∧ metadata = some c.info ∧
    ∃ document : EvidencePhase → Json,
      (∀ phase, ∃ raw, d.evidence (credentialPath req phase) = some raw ∧
        documentOf identity phase raw = .ok (document phase)) ∧
      holdsMetadata (document .effect) metadata ∧ holdsMetadata (document .final) metadata

theorem classify_finalPass {prepared effect final : Option Json} {metadata m : Option FileInfo}
    (h : classify prepared effect final metadata = .finalPass m) :
    m = metadata ∧ ∃ p e f, prepared = some p ∧ effect = some e ∧ final = some f ∧
      holdsMetadata e metadata ∧ holdsMetadata f metadata := by
  unfold classify at h
  cases final with
  | some f =>
    simp only at h
    split at h
    · cases h
    · rename_i hall
      cases h
      simp only [not_or, Bool.not_eq_false, Option.isNone_iff_eq_none] at hall
      obtain ⟨hprepared, heffect, hfinal, hany⟩ := hall
      obtain ⟨p, rfl⟩ := Option.ne_none_iff_exists'.mp hprepared
      obtain ⟨e, rfl⟩ := Option.ne_none_iff_exists'.mp heffect
      exact ⟨rfl, p, e, f, rfl, rfl, rfl, hany, hfinal⟩
  | none =>
    simp only at h
    split at h
    · split at h <;> cases h
    · split at h
      · cases h
      · split at h <;> cases h

theorem passed_of_finalPass {m : Option FileInfo} (hordered : Ordered d)
    (h : Reported identity req d (.finalPass m)) : Passed identity req d m := by
  obtain ⟨prepared, effect, final, hprepared, heffect, hfinal, hstatus | hstatus⟩ := h
  · cases hstatus
  · obtain ⟨rfl, p, e, f, rfl, rfl, rfl, he, hf⟩ := classify_finalPass hstatus.symm
    obtain ⟨raw, hraw, -⟩ := reads_some heffect
    have hthere : d.has ((credentialPath req .effect).at .effect) :=
      has_evidence.mpr (by rw [show (⟨(credentialPath req .effect).name, .effect⟩ : EvidencePath) =
        credentialPath req .effect from rfl, hraw]; rfl)
    obtain ⟨c, hc⟩ := Option.isSome_iff_exists.mp
      (has_credential.mp (hordered.effect _ hthere).2)
    refine ⟨c, hc, by rw [hc]; rfl, fun phase => match phase with
      | .prepared => p
      | .effect => e
      | .final => f, fun phase => ?_, he, hf⟩
    cases phase with
    | prepared => exact reads_some hprepared
    | effect => exact reads_some heffect
    | final => exact reads_some hfinal

/-! ## The call that only reads -/

/-- What the reading call reports. Without a first evidence of the operation it looks no
further than the credential. -/
def ReadReports (req : WorkerRequest) (d : WorkerDisk) (status : CredentialStatus) : Prop :=
  (∃ identity, Reported identity req d status) ∨
    (d.evidence (credentialPath req .prepared) = none ∧
      status = .noPreparedEvidence d.credential.isSome) ∨
    (d.root = false ∧ status = if d.credential.isSome then .unattributedFile else .pristine)

/-- What the reading call refuses. -/
def ReadRefuses (req : WorkerRequest) (d : WorkerDisk) : Prop :=
  (∃ raw, d.evidence (credentialPath req .prepared) = some raw ∧
    ∀ identity, ReadOnly.identityOf req raw = .ok identity → Unread identity req d) ∨
  (d.credential.isSome ∧ d.evidence (credentialPath req .prepared) = none)

theorem evidence_none_of_root (hordered : Ordered d) (hroot : d.root = false) (p : EvidencePath) :
    d.evidence p = none := by
  refine Option.not_isSome_iff_eq_none.mp fun hsome => ?_
  have htrue := hordered.root p (has_evidence.mpr hsome)
  rw [hroot] at htrue
  cases htrue

theorem meets_readWorkerCredential (hordered : Ordered d) :
    Meets (Serving policy careful) (fun _ c => Still c) (readWorkerCredential policy req)
      (Ends careful d (ReadReports req d) (fun e => isTypedError e ∧ ReadRefuses req d)) d := by
  unfold readWorkerCredential
  refine meets_stillCall (by exact id) (by rintro e ⟨a, ha⟩; cases ha)
    fun checked hchecked hworked => ?_
  refine meets_stillCall (by exact id) (by rintro e ⟨a, ha⟩; cases ha)
    fun valid hvalid hworked => ?_
  refine meets_stillCall (by exact id) (by rintro e ⟨a, ha⟩; cases ha) fun root hroot hworked => ?_
  cases root with
  | false =>
    have hnone := evidence_none_of_root hordered hroot.1.symm (credentialPath req .prepared)
    refine meets_credentialMetadata.bind ?_ ?_
    · rintro metadata d₁ ⟨rfl, rfl⟩
      refine ⟨rfl, Or.inr (Or.inr ⟨hroot.1.symm, ?_⟩)⟩
      rw [Option.isSome_map]
    · rintro e d₁ ⟨rfl, he⟩
      exact ⟨rfl, fun hcareful => ⟨(he hcareful).1, Or.inr ⟨(he hcareful).2, hnone⟩⟩⟩
  | true =>
    refine meets_stillCall (by exact id) (by rintro e ⟨a, ha⟩; cases ha)
      fun ensured hensured hworked => ?_
    refine meets_stillCall (by exact id) (by rintro e ⟨a, ha⟩; cases ha)
      fun there hthere hworked => ?_
    cases there with
    | false =>
      have hnone : d.evidence (credentialPath req .prepared) = none :=
        Option.not_isSome_iff_eq_none.mp (by rw [← hthere.1]; exact Bool.false_ne_true)
      refine meets_credentialMetadata.bind ?_ ?_
      · rintro metadata d₁ ⟨rfl, rfl⟩
        refine ⟨rfl, Or.inr (Or.inl ⟨hnone, ?_⟩)⟩
        rw [Option.isSome_map]
      · rintro e d₁ ⟨rfl, he⟩
        exact ⟨rfl, fun hcareful => ⟨(he hcareful).1, Or.inr ⟨(he hcareful).2, hnone⟩⟩⟩
    | true =>
      refine meets_stillCall (by exact id) (by rintro e ⟨⟩) fun info hinfo hworked => ?_
      refine meets_bind.mpr (meets_require.mpr ⟨fun _ => ?_, fun hbad =>
        ⟨rfl, fun hcareful => ?_⟩⟩)
      · refine meets_stillCall (by exact id) (by rintro e ⟨a, ha⟩; cases ha)
          fun raw hraw hworked => ?_
        refine meets_bind.mpr (meets_lift.mpr ?_)
        cases hidentity : ReadOnly.identityOf req raw with
        | error e =>
          refine ⟨rfl, fun _ => ⟨identityOf_error hidentity, Or.inl ⟨raw, hraw.1, ?_⟩⟩⟩
          intro identity h
          rw [hidentity] at h
          cases h
        | ok identity =>
          refine meets_readReconciliation.mono ?_
          rintro r d₁ ⟨rfl, hr⟩
          cases r with
          | ok status => exact ⟨rfl, Or.inl ⟨identity, hr⟩⟩
          | error e =>
            refine ⟨rfl, fun hcareful => ⟨(hr hcareful).1, Or.inl ⟨raw, hraw.1, ?_⟩⟩⟩
            intro identity' h
            rw [hidentity] at h
            cases h
            exact (hr hcareful).2
      · cases hworked hcareful
        exact absurd ⟨rfl, rfl⟩ hbad

/-! ## The call that reconciles -/

theorem meets_reconcileWorkerCredential :
    Meets (Serving policy careful) (fun _ _ => True) (reconcileWorkerCredential policy req)
      (fun r d' => match r with
        | .ok status => ∃ authority, Reported (evidenceIdentity req authority) req d' status
        | .error e => careful → ∃ authority,
          (isTypedError e ∧ Unread (evidenceIdentity req authority) req d) ∨
            ∃ m, Reported (evidenceIdentity req authority) req d (.effectAppliedFinalMissing m))
      d := by
  have hread : ∀ identity d, Meets (Serving policy careful) (fun _ _ => True)
      (readReconciliation policy req identity) (Ends careful d (Reported identity req d)
        (fun e => isTypedError e ∧ Unread identity req d)) d :=
    fun identity d => meets_readReconciliation.allow fun _ _ _ => trivial
  unfold reconcileWorkerCredential
  refine meets_bind.mpr ⟨trivial, ?_⟩
  rintro authority d₁ ⟨happrove, hworked⟩
  cases served_still happrove id
  rcases authority with error | authority
  · exact fun hcareful => nomatch (hworked hcareful)
  refine meets_bind.mpr ⟨trivial, ?_⟩
  rintro valid d₁ ⟨hvalid, hworked⟩
  cases served_still hvalid id
  rcases valid with error | valid
  · exact fun hcareful => nomatch (hworked hcareful)
  refine meets_bind.mpr ⟨trivial, ?_⟩
  rintro ensured d₁ ⟨hensured, hworked⟩
  cases served_still hensured id
  rcases ensured with error | ensured
  · exact fun hcareful => nomatch (hworked hcareful)
  refine (hread (evidenceIdentity req authority) d).bind ?_ ?_
  · rintro status d₁ ⟨rfl, hstatus⟩
    split
    · rename_i m
      -- whatever settling has done, the last reading says what is there then
      unfold Reconcile.settle
      refine (meets_trivial _ d₁).bind (fun _ d₂ _ => ?_) fun _ _ _ _ =>
        ⟨authority, Or.inr ⟨m, hstatus⟩⟩
      refine (meets_trivial _ d₂).bind (fun _ d₃ _ => ?_) fun _ _ _ _ =>
        ⟨authority, Or.inr ⟨m, hstatus⟩⟩
      refine (hread (evidenceIdentity req authority) d₃).mono ?_
      rintro r d₄ ⟨rfl, hr⟩
      cases r with
      | ok status => exact ⟨authority, hr⟩
      | error e => exact fun _ => ⟨authority, Or.inr ⟨m, hstatus⟩⟩
    · exact ⟨authority, hstatus⟩
  · rintro e d₁ ⟨rfl, he⟩ hcareful
    exact ⟨authority, Or.inl (he hcareful)⟩

/-! ## The call that creates -/

theorem pristine_of_text {status : CredentialStatus} (h : status.text = "PRISTINE") :
    status = .pristine := by
  cases status with
  | pristine => rfl
  | _ => simp [CredentialStatus.text] at h

/-- A call before the reading. -/
theorem meets_stillThen {α : Type} {c : WorkerCall} {f : WorkerAnswer c → WorkerScript α}
    (hstill : Still (.user c)) (hf : ∀ a, Meets (Serving policy False) (fun _ c => Still c) (f a)
      (fun _ d' => d' = d) d) : Meets (Serving policy False) (fun _ c => Still c) (call c >>= f)
      (fun _ d' => d' = d) d := by
  refine meets_bind.mpr ⟨hstill, ?_⟩
  rintro a d₁ ⟨hserved, -⟩
  cases served_still hserved hstill
  cases a with
  | error e => rfl
  | ok a => exact hf a

theorem meets_demandThen {α : Type} {P : Prop} [Decidable P] {code : String}
    {f : Unit → WorkerScript α} (hf : P → Meets (Serving policy False) (fun _ c => Still c) (f ())
      (fun _ d' => d' = d) d) : Meets (Serving policy False) (fun _ c => Still c)
      (demand P code >>= f) (fun _ d' => d' = d) d :=
  meets_bind.mpr (meets_require.mpr ⟨hf, fun _ => rfl⟩)

/-- **Where anything is there, creating changes nothing.** -/
theorem meets_createRefused (hthere : ¬ Nothing req d) :
    Meets (Serving policy False) (fun _ c => Still c) (createWorkerCredential policy req)
      (fun _ d' => d' = d) d := by
  have hrefused : ∀ authority, Meets (Serving policy False) (fun _ c => Still c) (do
      let status ← readReconciliation policy req (evidenceIdentity req authority)
      demand (status.text = "PRISTINE") "WORKER_CREDENTIAL_EXISTING_STATE_RECONCILIATION_REQUIRED"
      runControlledDeployment (deploymentOf req req.operationId)
        [Create.step policy req (evidenceIdentity req authority)]
        (Create.persist req (evidenceIdentity req authority))) (fun _ d' => d' = d) d := by
    intro authority
    refine meets_readReconciliation.bind ?_ fun e d₁ h => h.1
    rintro status d₁ ⟨rfl, hstatus⟩
    refine meets_demandThen fun htext => ?_
    cases pristine_of_text htext
    exact absurd (nothing_of_pristine hstatus) hthere
  have hcreate : ∀ authority, Meets (Serving policy False) (fun _ c => Still c)
      (createCredential policy req authority) (fun _ d' => d' = d) d := by
    intro authority
    unfold createCredential
    refine meets_stillThen (by exact id) fun version => meets_demandThen fun _ => ?_
    refine meets_stillThen (by exact id) fun _ => meets_stillThen (by exact id) fun _ => ?_
    refine meets_stillThen (by exact id) fun there => ?_
    split
    · exact meets_stillThen (by exact id) fun _ => hrefused authority
    · exact hrefused authority
  unfold createWorkerCredential
  refine meets_stillThen (by exact id) fun authority => meets_stillThen (by exact id) fun _ => ?_
  refine meets_stillThen (by exact id) fun _ => ?_
  have hbody : Meets (Serving policy False) (fun _ c => Still c) (do
      let _ ← createCredential policy req authority
      pure ()) (fun _ d' => d' = d) d := (hcreate authority).bind (fun _ _ h => h) fun _ _ h => h
  refine hbody.ensuring ?_
  rintro r d₁ rfl
  refine ⟨id, ?_⟩
  rintro closed d₂ ⟨hserved, -⟩
  cases served_still hserved id
  cases closed <;> rfl

/-! ## The calls one after the other -/

def WorkerEntry.request : WorkerEntry → WorkerRequest
  | .create req | .reconcile req | .read req => req

/-- The disk serves the calls, and every one has worked. -/
def Working (policy : WorkerPolicy) (d : WorkerDisk) (c : ControlCall WorkerCall)
    (a : Except WorkerError (WorkerControlAnswer c)) (d' : WorkerDisk) : Prop :=
  WorkerServes d c a d' ∧ Worked policy c a

/-- What a call says of the disk. -/
def Reports : WorkerEntry → WorkerDisk → CredentialStatus → Prop
  | .create _, _, _ => False
  | .reconcile req, d, status =>
    ∃ authority, Reported (evidenceIdentity req authority) req d status
  | .read req, d, status => ReadReports req d status

/-- What a call refuses, of the disk that it has found. Reconciling may also end in an error
once it settles an effect that was applied. -/
def Refuses : WorkerEntry → WorkerDisk → WorkerError → Prop
  | .create _, _, _ => True
  | .reconcile req, d, e => ∃ authority,
    (isTypedError e ∧ Unread (evidenceIdentity req authority) req d) ∨
      ∃ m, Reported (evidenceIdentity req authority) req d (.effectAppliedFinalMissing m)
  | .read req, d, e => isTypedError e ∧ ReadRefuses req d

/-- How a call ends. -/
def EntryEnds (careful : Prop) (entry : WorkerEntry) (d : WorkerDisk)
    (r : Except WorkerError (Option CredentialStatus)) (d' : WorkerDisk) : Prop :=
  match r with
  | .ok status => ∀ s, status = some s → Reports entry d' s
  | .error e => careful → Refuses entry d e

theorem meets_entry (entry : WorkerEntry) (hordered : Ordered d) :
    Meets (Serving policy careful) (fun _ _ => True) (entry.program policy)
      (EntryEnds careful entry d) d := by
  cases entry with
  | create req =>
    refine (meets_trivial _ d).bind (fun _ d' _ => ?_) fun e d' _ _ => trivial
    exact fun s hs => nomatch hs
  | reconcile req =>
    refine meets_reconcileWorkerCredential.bind (fun status d' h => ?_) fun e d' h => h
    rintro s hs
    cases hs
    exact h
  | read req =>
    have hread : Meets (Serving policy careful) (fun _ _ => True) (readWorkerCredential policy req)
        (Ends careful d (ReadReports req d) (fun e => isTypedError e ∧ ReadRefuses req d)) d :=
      (meets_readWorkerCredential hordered).allow fun _ _ _ => trivial
    refine hread.bind (fun status d' h => ?_) fun e d' h => ?_
    · rintro s hs
      cases hs
      obtain ⟨rfl, h⟩ := h
      exact h
    · exact h.2

theorem serving_of_steps {entry : WorkerEntry} {q : WorkerScript (Option CredentialStatus)}
    {log log' : List WorkerEvent}
    (hs : Steps (traced WorkerServes) (entry.program policy) (d, log) q (d', log')) :
    Steps (Serving policy False) (entry.program policy) d q d' :=
  hs.untraced.mono fun _ _ _ _ h => ⟨h, False.elim⟩

theorem nothing_of_reports {entry : WorkerEntry} (hordered : Ordered d)
    (h : Reports entry d .pristine) : Nothing entry.request d := by
  cases entry with
  | create req => exact h.elim
  | reconcile req =>
    obtain ⟨authority, h⟩ := h
    exact nothing_of_pristine h
  | read req =>
    rcases h with ⟨identity, h⟩ | ⟨-, hstatus⟩ | ⟨hroot, hstatus⟩
    · exact nothing_of_pristine h
    · cases hstatus
    · refine ⟨Option.not_isSome_iff_eq_none.mp fun hsome => ?_,
        fun phase => evidence_none_of_root hordered hroot _⟩
      rw [if_pos hsome] at hstatus
      cases hstatus

theorem passed_of_reports {entry : WorkerEntry} {m : Option FileInfo} (hordered : Ordered d)
    (h : Reports entry d (.finalPass m)) : ∃ identity, Passed identity entry.request d m := by
  cases entry with
  | create req => exact h.elim
  | reconcile req =>
    obtain ⟨authority, h⟩ := h
    exact ⟨_, passed_of_finalPass hordered h⟩
  | read req =>
    rcases h with ⟨identity, h⟩ | ⟨-, hstatus⟩ | ⟨-, hstatus⟩
    · exact ⟨identity, passed_of_finalPass hordered h⟩
    · cases hstatus
    · split at hstatus <;> cases hstatus

/-- **One credential, and evidence that is true.** Whatever calls have been made, each cut short
anywhere: no file was created or written twice, and the files are there in their order. A further
call leaves every file that was there as it was; what it reports is what is on the disk, PRISTINE
only where nothing is there, FINAL_PASS only where the three documents carry one identity and the
last two the metadata of the credential there; and where anything is there, creating changes
nothing. When every call works, a reading reports a status, or is refused because an evidence
file does not read as the document of its phase with its identity. -/
theorem worker_credential (policy : WorkerPolicy) {history : List (List WorkerEvent)}
    {d : WorkerDisk} (h : Sessions policy .pristine history d) :
    OnceEach history.flatten ∧ Ordered d ∧
    (∀ entry q d' log, Steps (traced WorkerServes) (WorkerEntry.program policy entry) (d, []) q
        (d', log) →
      (∀ f, d.has f → d'.file f = d.file f) ∧
      (∀ status, q = .done (.ok (some status)) → Reports entry d' status) ∧
      (q = .done (.ok (some .pristine)) → Nothing entry.request d') ∧
      (∀ m, q = .done (.ok (some (.finalPass m))) →
        ∃ identity, Passed identity entry.request d' m) ∧
      ∀ req, entry = .create req → ¬ Nothing req d → d' = d) ∧
    ∀ entry r d', Steps (Working policy) (WorkerEntry.program policy entry) d (.done r) d' →
      (∃ status, r = .ok status) ∨ ∃ e, r = .error e ∧ Refuses entry d e := by
  obtain ⟨hordered, hmarked, honce⟩ := sessions_keep h
  refine ⟨honce, hordered, fun entry q d' log hs => ?_, fun entry r d' hs => ?_⟩
  · have hkeeps := runKeeps hordered hmarked honce hs
    have hreports : ∀ status, q = .done (.ok (some status)) → Reports entry d' status := by
      rintro status rfl
      exact (meets_entry entry hordered).ended (serving_of_steps hs) status rfl
    refine ⟨hkeeps.kept, hreports, fun hq => ?_, fun m hq => ?_, ?_⟩
    · exact nothing_of_reports hkeeps.ordered (hreports _ hq)
    · exact passed_of_reports hkeeps.ordered (hreports _ hq)
    · rintro req rfl hthere
      have hrefused : Meets (Serving policy False) (fun _ c => Still c)
          (WorkerEntry.program policy (.create req)) (fun _ d' => d' = d) d :=
        (meets_createRefused hthere).bind (fun _ _ h => h) fun _ _ h => h
      refine hrefused.invariant (P := fun w => w = d) (serving_of_steps hs) rfl ?_
      intro w c a w' hw hstill hserved
      exact (served_still hserved.1 hstill).trans hw
  · have hserving : Steps (Serving policy True) (WorkerEntry.program policy entry) d (.done r) d' :=
      hs.mono fun _ _ _ _ h => ⟨h.1, fun _ => h.2⟩
    have hends := (meets_entry entry hordered).ended hserving
    cases r with
    | ok status => exact Or.inl ⟨status, rfl⟩
    | error e => exact Or.inr ⟨e, rfl, hends trivial⟩

/-! ## Two runs -/

def samplePolicy : WorkerPolicy := ⟨"localhost", 5432, 501⟩

def sampleRequest : WorkerRequest := ⟨"change", "operation", "decision", "gate"⟩

def sampleAuthority : WorkerAuthority where
  expectedHead := String.ofList (List.replicate 40 'a')
  tree := String.ofList (List.replicate 40 'b')
  approvalEvidenceSha256 := String.ofList (List.replicate 64 'c')

def sampleInfo : FileInfo := ⟨501, 0o600, 1, 2, 3, 4, 5⟩

/-- The row that the last acquisition has left. -/
def sampleRow (log : List WorkerEvent) : GlobalWriterLease where
  state := .HELD
  context := (log.reverse.findSome? fun e => match e.made with
    | .acquire a => some a.context
    | _ => none).getD .empty
  fencingToken := 1
  acquiredAt := none
  expiresAt := none
  heartbeatAt := none
  updatedAt := Timestamp.epoch

/-- The answer of a call that works where `c` holds. -/
def sampleWhen (c : Prop) [Decidable c] (d d' : WorkerDisk) : Option Unit × WorkerDisk :=
  if c then (some (), d') else (none, d)

theorem sampleWhen_some {c : Prop} [Decidable c] {u : Unit}
    (h : (sampleWhen c d d').1 = some u) : c ∧ (sampleWhen c d d').2 = d' := by
  unfold sampleWhen at h ⊢
  by_cases hc : c
  · rw [if_pos hc]
    exact ⟨hc, rfl⟩
  · rw [if_neg hc] at h
    cases h

/-- A call that works: its answer, and the disk it leaves. Without an answer it raises. -/
def sampleAnswer (d : WorkerDisk) (log : List WorkerEvent) :
    (c : ControlCall WorkerCall) → Option (WorkerControlAnswer c) × WorkerDisk
  | .writerEvents => (some [], d)
  | .schemaVersion | .user .schemaVersion => (some (some 10), d)
  | .newAttempt => (some "attempt", d)
  | .monotonic => (some (0 : Int), d)
  | .acquire a => (some { sampleRow log with context := a.context }, d)
  | .assertCurrent .. | .release _ | .user .writerRow => (some (sampleRow log), d)
  | .nestedAuthority => (some false, d)
  | .heartbeatError => (some none, d)
  | .revalidate | .sleep _ | .startHeartbeat | .stopHeartbeat => (some (), d)
  | .user (.approve _) => (some sampleAuthority, d)
  | .user .now => (some "now", d)
  | .user .newSecret => (some "secret", d)
  | .user .rootThere => (some d.root, d)
  | .user .rootParentUsable => (some true, d)
  | .user .makeRoot => sampleWhen (d.root = false) d { d with root := true }
  | .user (.evidenceThere p) => (some (d.evidence p).isSome, d)
  | .user (.evidenceStat _) => (some (501, 0o600), d)
  | .user .statSecretDirectory => (some (501, 0o700), d)
  | .user (.readPinned p) => (d.evidence p, d)
  | .user (.createEvidence p) =>
    sampleWhen (d.root = true ∧ d.evidence p = none) d (d.setEvidence p [])
  | .user (.writeEvidence _ _) => (some (), d)
  | .user (.flushEvidence p text) =>
    sampleWhen ((d.evidence p).isSome) d (d.setEvidence p text)
  | .user .credentialThere => (some d.credential.isSome, d)
  | .user .credentialStat => (d.credential.map (·.info), d)
  | .user .createCredential =>
    sampleWhen (d.credential = none) d { d with credential := some ⟨[], sampleInfo⟩ }
  | .user (.writeCredential _) => (some (), d)
  | .user (.flushCredential text) =>
    sampleWhen (d.credential.isSome) d { d with credential := some ⟨text, sampleInfo⟩ }
  | .user .validatePolicy | .user (.validateIdentifiers _) | .user .openStore | .user .closeStore
  | .user .validateSchema | .user .workerState | .user .ensureSecretDirectory
  | .user .ensureEvidenceRoot | .user .openEvidenceRoot | .user (.syncEvidence _)
  | .user (.closeEvidence _) | .user .syncEvidenceRoot | .user .closeEvidenceRoot
  | .user .validateCredential | .user .openSecretDirectory | .user .syncCredential
  | .user .closeCredential | .user .syncSecretDirectory | .user .closeSecretDirectory =>
    (some (), d)

def sampleRespond (s : WorkerDisk × List WorkerEvent) (c : ControlCall WorkerCall) :
    Except WorkerError (WorkerControlAnswer c) × WorkerDisk :=
  match sampleAnswer s.1 s.2 c with
  | (some a, d) => (.ok a, d)
  | (none, _) => (.error (.raised (.raised "OSError" "")), s.1)

theorem sampleRespond_error {s : WorkerDisk × List WorkerEvent}
    (h : (sampleAnswer s.1 s.2 c).1 = none) :
    WorkerServes s.1 c (sampleRespond s c).1 (sampleRespond s c).2 := by
  unfold sampleRespond
  rw [show sampleAnswer s.1 s.2 c = (none, (sampleAnswer s.1 s.2 c).2) from Prod.ext h rfl]
  cases c with
  | user c =>
    cases c with
    | makeRoot | createEvidence p | createCredential => exact Or.inl rfl
    | writeEvidence p text | flushEvidence p text => exact Or.inl rfl
    | writeCredential text | flushCredential text | syncCredential | closeCredential =>
      exact Or.inl rfl
    | _ => rfl
  | _ => rfl

theorem sampleRespond_serves (s : WorkerDisk × List WorkerEvent) (c : ControlCall WorkerCall) :
    WorkerServes s.1 c (sampleRespond s c).1 (sampleRespond s c).2 := by
  cases hanswer : (sampleAnswer s.1 s.2 c).1 with
  | none => exact sampleRespond_error hanswer
  | some a =>
    unfold sampleRespond
    rw [show sampleAnswer s.1 s.2 c = (some a, (sampleAnswer s.1 s.2 c).2) from
      Prod.ext hanswer rfl]
    cases c with
    | user c =>
      cases c with
      | makeRoot => exact sampleWhen_some hanswer
      | createEvidence p =>
        obtain ⟨hfree, hdisk⟩ := sampleWhen_some hanswer
        exact ⟨hfree.1, hfree.2, hdisk⟩
      | writeEvidence p text => exact Or.inl rfl
      | flushEvidence p text => exact sampleWhen_some hanswer
      | createCredential =>
        obtain ⟨hfree, hdisk⟩ := sampleWhen_some hanswer
        exact ⟨hfree, sampleInfo, hdisk⟩
      | writeCredential text | syncCredential | closeCredential => exact Or.inl rfl
      | flushCredential text =>
        obtain ⟨hthere, hdisk⟩ := sampleWhen_some hanswer
        obtain ⟨content, hcontent⟩ := Option.isSome_iff_exists.mp hthere
        exact ⟨content, sampleInfo, hcontent, hdisk⟩
      | rootThere | evidenceThere p | credentialThere =>
        cases hanswer
        exact ⟨rfl, rfl⟩
      | readPinned p => exact ⟨hanswer, rfl⟩
      | credentialStat => exact ⟨hanswer, rfl⟩
      | _ => rfl
    | _ => rfl

def sampleWorked : WorkerEvent → Bool
  | ⟨_, .user (.evidenceStat _), .ok info⟩ => info = (501, 0o600)
  | ⟨_, _, .ok _⟩ => true
  | ⟨_, _, .error _⟩ => false

theorem sampleWorked_worked {e : WorkerEvent} (h : sampleWorked e = true) :
    Worked samplePolicy e.made e.answer := by
  obtain ⟨w, c, a⟩ := e
  cases a with
  | error e =>
    cases c with
    | user c => cases c <;> cases h
    | _ => cases h
  | ok a =>
    cases c with
    | user c =>
      cases c with
      | evidenceStat p => exact congrArg Except.ok (of_decide_eq_true h)
      | validateCredential => exact fun e he => nomatch he
      | _ => exact ⟨a, rfl⟩
    | _ => exact ⟨a, rfl⟩

/-- The run of a call on a disk. -/
def sampleRun (entry : WorkerEntry) (d : WorkerDisk) :
    Option (Except WorkerError (Option CredentialStatus) × WorkerDisk × List WorkerEvent) :=
  play sampleRespond 200 (entry.program samplePolicy) (d, [])

theorem sampleRun_steps {entry : WorkerEntry}
    {test : Except WorkerError (Option CredentialStatus) × WorkerDisk × List WorkerEvent → Bool}
    (h : (sampleRun entry d).any test = true) :
    ∃ r d' log, Steps (traced WorkerServes) (entry.program samplePolicy) (d, []) (.done r)
      (d', log) ∧ test (r, d', log) = true := by
  cases hrun : sampleRun entry d with
  | none =>
    rw [hrun] at h
    cases h
  | some p =>
    rw [hrun] at h
    exact ⟨p.1, p.2.1, p.2.2, play_steps sampleRespond_serves hrun, h⟩

/-- What is left when creating is cut short right behind the creation of the first evidence. -/
def sampleCrash : Script WorkerError WorkerControlAnswer (Option CredentialStatus) ×
    WorkerDisk × List WorkerEvent :=
  playFor sampleRespond 40 ((WorkerEntry.create sampleRequest).program samplePolicy) (.pristine, [])

theorem sampleCrash_refused {entry : WorkerEntry}
    (h : (sampleRun entry sampleCrash.2.1).any (fun p =>
      p.1 matches .error _ && p.2.2.all sampleWorked) = true) :
    ∃ e d', Steps (Working samplePolicy) (entry.program samplePolicy) sampleCrash.2.1
      (.done (.error e)) d' := by
  obtain ⟨r, d', log, hsteps, htest⟩ := sampleRun_steps h
  rw [Bool.and_eq_true] at htest
  cases r with
  | ok status => cases htest.1
  | error e =>
    refine ⟨e, d', hsteps.checked fun event hevent => ?_⟩
    exact sampleWorked_worked (List.all_eq_true.mp htest.2 event hevent)

/-- A crash between the creation of an evidence file and the end of its writing leaves a state
that neither reading reports as a status, even when every call works. -/
theorem worker_credential_unreported : ∃ history d, Sessions samplePolicy .pristine history d ∧
    (∃ e d', Steps (Working samplePolicy)
      ((WorkerEntry.reconcile sampleRequest).program samplePolicy) d (.done (.error e)) d') ∧
    ∃ e d', Steps (Working samplePolicy)
      ((WorkerEntry.read sampleRequest).program samplePolicy) d (.done (.error e)) d' := by
  refine ⟨[] ++ [sampleCrash.2.2], sampleCrash.2.1, .call .start (.create sampleRequest)
    (playFor_steps sampleRespond_serves 40 _ _), ?_, ?_⟩
  · exact sampleCrash_refused (by decide +kernel)
  · exact sampleCrash_refused (by decide +kernel)

def reportsFinalPass : Except WorkerError (Option CredentialStatus) → Bool
  | .ok (some (.finalPass _)) => true
  | _ => false

/-- The credential is created, and read back. -/
theorem worker_credential_created : ∃ history d, OnceEach (List.flatten history) ∧
    ∃ identity metadata, Passed identity sampleRequest d metadata := by
  have hcreate : (sampleRun (.create sampleRequest) .pristine).any (fun p =>
      (sampleRun (.read sampleRequest) p.2.1).any (fun p => reportsFinalPass p.1)) = true := by
    decide +kernel
  obtain ⟨r, d, log, hsteps, htest⟩ := sampleRun_steps hcreate
  obtain ⟨r', d', log', hread, hstatus⟩ := sampleRun_steps htest
  have hsafe := worker_credential samplePolicy (.call .start (.create sampleRequest) hsteps)
  refine ⟨[] ++ [log], d', hsafe.1, ?_⟩
  rcases r' with e | (_ | status)
  · cases hstatus
  · cases hstatus
  · cases status with
    | finalPass metadata =>
      obtain ⟨identity, hpassed⟩ := (hsafe.2.2.1 _ _ _ _ hread).2.2.2.1 metadata rfl
      exact ⟨identity, metadata, hpassed⟩
    | _ => cases hstatus

end Adcp.L5.Worker
