import Adcp.L5Cutover.CutoverSafety
import Adcp.L5Cutover.RuntimePort

/-!
# What a failed preparation leaves

The preparation against ports that answer anything, and its runtime port against a system in
which any call may raise, after its effect as well.

* `meets_atomicReplace`: a replacement that returns changes one file, one that raises leaves
  at most its new name besides.
* `meets_restore`: a restoration that returns brings every captured file back.
* **`preparation_restores`**: quiesced writers are handed over or brought back if and only if
  the epoch could be read; what a restoration that returns leaves are the files from before.
* `preparation_stranded`: the read that fails, and the writers stay quiesced.
-/
namespace Adcp.L5.Cutover

open Adcp.L1 Adcp.L2 Adcp.L3 Script FileSystem

/-! ## Files that a program may touch -/

/-- Only the paths of `W` differ, and new names of theirs may have been left. -/
def Stays (W : List String) (files files' : WriterFiles) : Prop :=
  ∀ p, p ∉ W → files' p = files p ∨
    (files p = none ∧ ∃ q ∈ W, ∃ suffix, p = temporary q suffix)

variable {W : List String} {files files' files'' files₀ : WriterFiles}

theorem Stays.refl (W : List String) (files : WriterFiles) : Stays W files files :=
  fun _ _ => Or.inl rfl

theorem Stays.trans (h : Stays W files files') (h' : Stays W files' files'') :
    Stays W files files'' := by
  intro p hp
  rcases h p hp with hsame | hnew
  · rcases h' p hp with hsame' | ⟨hnone, hname⟩
    · exact Or.inl (hsame'.trans hsame)
    · exact Or.inr ⟨hsame.symm.trans hnone, hname⟩
  · exact Or.inr hnew

theorem Stays.mono {W' : List String} (h : Stays W files files') (hle : ∀ p ∈ W, p ∈ W') :
    Stays W' files files' := by
  intro p hp
  refine (h p fun hmem => hp (hle p hmem)).imp_right ?_
  rintro ⟨hnone, q, hq, hname⟩
  exact ⟨hnone, q, hle q hq, hname⟩

/-- Nothing but `temp` differs. -/
def Apart (temp : String) (files files' : WriterFiles) : Prop := ∀ p, p ≠ temp → files' p = files p

theorem Apart.trans {temp : String} (h : Apart temp files files') (h' : Apart temp files' files'') :
    Apart temp files files'' := fun p hp => (h' p hp).trans (h p hp)

/-! ## Replacing a file -/

section Replacing

variable {restores : WriterFiles → CleanerRuntimeSnapshot → Except PyError Unit →
  WriterFiles → Prop}
  {α : Type}

abbrev Ending (restores : WriterFiles → CleanerRuntimeSnapshot → Except PyError Unit →
    WriterFiles → Prop)
    (x : RuntimeScript α) (post : Except PyError α → WriterFiles → Prop)
    (files : WriterFiles) : Prop :=
  Meets (RuntimeServes restores) (fun _ _ => True) x post files

theorem ending_file {c : FileCall String}
    {post : Except PyError (FileAnswer c) → WriterFiles → Prop}
    (h : ∀ a files', Faulty files c a files' → post a files') :
    Ending restores (Runtime.file c) post files := ⟨trivial, h⟩

/-- A call that changes no file. -/
def Still : FileCall String → Prop
  | .create .. | .write .. | .chmod .. | .unlink _ | .replace .. => False
  | _ => True

theorem Still.same {c : FileCall String} {a : Except PyError (FileAnswer c)} (hc : Still c)
    (h : Faulty files c a files') : files' = files := by
  funext p
  refine h.frame ?_
  cases c <;> first | exact hc.elim | exact id

theorem ending_still {c : FileCall String} (hc : Still c) :
    Ending restores (Runtime.file c) (fun _ files' => files = files') files :=
  ending_file fun _ _ h => (hc.same h).symm

/-- The stream of a new file. -/
theorem ending_writeStream (temp : String) (payload : FileSystem.Bytes)
    (htemp : contents files temp = some []) :
    Ending restores (Runtime.writeStream temp payload) (fun r files' => Apart temp files files' ∧
      (r = .ok () → contents files' temp = some payload)) files := by
  have hwrite : Ending restores (Runtime.file (.write temp payload)) (fun r files' =>
      Apart temp files files' ∧ (∀ n, r = .ok n → contents files' temp = some payload)) files := by
    refine ending_file fun a files' h => ⟨fun p hp => h.frame hp, ?_⟩
    rintro n rfl
    obtain ⟨f, hf, -, rfl⟩ := h
    have hempty : f.bytes = [] := by
      rw [contents, hf] at htemp
      exact Option.some.inj htemp
    rw [contents, Function.update_self, hempty]
    rfl
  unfold Runtime.writeStream
  refine (ending_still (c := .openStream temp) trivial).bind ?_ ?_
  · rintro _ _ rfl
    have hbody : Ending restores (do
        let _ ← Runtime.file (.write temp payload)
        Runtime.file (.flush temp)
        Runtime.file (.fsync temp)) (fun r files' => Apart temp files files' ∧
        (r = .ok () → contents files' temp = some payload)) files := by
      refine hwrite.bind (fun n files₁ h₁ => ?_) fun e files₁ h₁ => ⟨h₁.1, fun h => nomatch h⟩
      refine (ending_still (c := .flush temp) trivial).bind ?_ ?_
      · rintro _ _ rfl
        refine (ending_still (c := .fsync temp) trivial).mono ?_
        rintro r _ rfl
        exact ⟨h₁.1, fun _ => h₁.2 n rfl⟩
      · rintro e _ rfl
        exact ⟨h₁.1, fun h => nomatch h⟩
    refine hbody.ensuring ?_
    · rintro r files₁ h₁
      refine (ending_still (c := .close temp) trivial).mono ?_
      rintro r' _ rfl
      cases r' with
      | ok _ => exact h₁
      | error e => exact ⟨h₁.1, fun h => nomatch h⟩
  · rintro e _ rfl
    exact ⟨fun _ _ => rfl, fun h => nomatch h⟩

/-- What stands between the new name and its removal: if it returns, the file has the payload
and the new name is gone. -/
def Through (temp path : String) (payload : FileSystem.Bytes) (files : WriterFiles)
    (r : Except PyError Unit) (files' : WriterFiles) : Prop :=
  (∀ p, p ≠ temp → p ≠ path → files' p = files p) ∧
    (r = .ok () → contents files' path = some payload ∧ files' temp = none)

theorem ending_replaceThrough (temp path : String) (payload : FileSystem.Bytes) (hne : temp ≠ path)
    (htemp : contents files temp = some []) :
    Ending restores (Runtime.replaceThrough temp path payload) (Through temp path payload files)
      files := by
  have hfails : ∀ {files' : WriterFiles} (e : PyError), Apart temp files files' →
      Through temp path payload files (.error e) files' := by
    intro files' e h
    exact ⟨fun p hp _ => h p hp, fun h => nomatch h⟩
  have hchmod : Ending restores (Runtime.file (.chmod temp 0o600)) (fun r files' =>
      Apart temp files files' ∧ (r = .ok () → contents files' temp = some [])) files := by
    refine ending_file fun a files' h => ⟨fun p hp => h.frame hp, ?_⟩
    rintro rfl
    obtain ⟨f, hf, rfl⟩ := h
    rw [contents, hf] at htemp
    rw [contents, Function.update_self]
    exact htemp
  have hsync : ∀ files', Ending restores (Runtime.syncDirectory (String.ofList (directoryOf path)))
      (fun _ files'' => files' = files'') files' := by
    intro files'
    unfold Runtime.syncDirectory
    refine (ending_still (c := .openDirectory _) trivial).bind ?_ fun _ _ h => h
    rintro _ _ rfl
    refine Meets.ensuring (ending_still (c := .fsyncDirectory _) trivial) ?_
    rintro r _ rfl
    refine (ending_still (c := .closeDirectory _) trivial).mono ?_
    rintro r' _ rfl
    cases r' <;> rfl
  unfold Runtime.replaceThrough
  refine hchmod.bind (fun _ files₁ h₁ => ?_) fun e files₁ h₁ => hfails e h₁.1
  refine (ending_writeStream temp payload (h₁.2 rfl)).bind (fun _ files₂ h₂ => ?_)
    fun e files₂ h₂ => hfails e (h₁.1.trans h₂.1)
  have hapart := h₁.1.trans h₂.1
  have hreplace : Ending restores (Runtime.file (.replace temp path))
      (fun r files' => Through temp path payload files r files') files₂ := by
    refine ending_file fun a files₃ h => ⟨fun p hp hp' => ?_, ?_⟩
    · rw [h.frame (p := p) (fun hchanges => hchanges.elim hp hp'), hapart p hp]
    · rintro rfl
      obtain ⟨f, hf, rfl⟩ := h
      have hpayload := h₂.2 rfl
      rw [contents, hf] at hpayload
      constructor
      · rw [contents, Function.update_self]
        exact hpayload
      · rw [Function.update_of_ne hne, Function.update_self]
  refine hreplace.bind (fun _ files₃ h₃ => ?_) fun e files₃ h₃ => h₃
  refine (hsync files₃).mono ?_
  rintro r _ rfl
  exact ⟨h₃.1, fun _ => h₃.2 rfl⟩

/-- **Replacing a file.** -/
theorem meets_atomicReplace (path : String) (payload : FileSystem.Bytes) (hpath : path ∈ W) :
    Ending restores (Runtime.atomicReplace path payload) (fun r files' => Stays W files files' ∧
      (r = .ok () → contents files' path = some payload ∧ ∀ p, p ≠ path → files' p = files p))
      files := by
  have hname : ∀ {temp : String} {files' : WriterFiles}, (∃ suffix, temp = temporary path suffix) →
      files temp = none → (∀ p, p ≠ temp → p ≠ path → files' p = files p) →
        Stays W files files' := by
    rintro temp files' htemp hnone hsame p hp
    have hp' : p ≠ path := by
      rintro rfl
      exact hp hpath
    by_cases h : p = temp
    · subst h
      exact Or.inr ⟨hnone, path, hpath, htemp⟩
    · exact Or.inl (hsame p h hp')
  unfold Runtime.atomicReplace
  refine (ending_still (c := .makeDirectory _) trivial).bind ?_ ?_
  swap
  · rintro e _ rfl
    exact ⟨Stays.refl _ _, fun h => nomatch h⟩
  rintro _ _ rfl
  refine meets_bind.mpr ⟨trivial, ?_⟩
  rintro (e | temp) files₁ hmade
  · refine ⟨?_, fun h => nomatch h⟩
    rcases hmade with rfl | ⟨temp, htemp, hnone, mode, rfl⟩
    · exact Stays.refl _ _
    · exact hname htemp hnone fun p hp _ => Function.update_of_ne hp _ _
  · obtain ⟨htemp, hnone, mode, rfl⟩ := hmade
    have hne : temp ≠ path := by
      obtain ⟨suffix, rfl⟩ := htemp
      exact temporary_ne path suffix
    have hempty : contents (Function.update files temp (some ⟨[], mode⟩)) temp = some [] := by
      rw [contents, Function.update_self]
      rfl
    refine Meets.ensuring (ending_replaceThrough temp path payload hne hempty) ?_
    rintro r files₂ ⟨hsame, hok⟩
    have hbase : ∀ p, p ≠ temp → p ≠ path → files₂ p = files p := fun p hp hp' =>
      (hsame p hp hp').trans (Function.update_of_ne hp _ _)
    -- the new name is removed, or is already gone
    have hunlinked : ∀ files₃ (a : Except PyError Unit), Faulty files₂ (.unlink temp) a files₃ →
        (∀ p, p ≠ temp → p ≠ path → files₃ p = files p) ∧ (r = .ok () → files₃ = files₂) := by
      intro files₃ a h
      refine ⟨fun p hp hp' => (h.frame hp).trans (hbase p hp hp'), fun hr => ?_⟩
      have hgone : files₂ temp = none := (hok hr).2
      cases a with
      | ok _ =>
        have hthere := h.1
        rw [hgone] at hthere
        cases hthere
      | error e =>
        rcases h with hsame' | ⟨_, hthere, -⟩
        · exact hsame'
        · rw [hgone] at hthere
          cases hthere
    have hend : ∀ files₃, ((∀ p, p ≠ temp → p ≠ path → files₃ p = files p) ∧
        (r = .ok () → files₃ = files₂)) → Stays W files files₃ ∧
        (r = .ok () → contents files₃ path = some payload ∧ ∀ p, p ≠ path → files₃ p =
          files p) := by
      rintro files₃ ⟨hrest, hsame'⟩
      refine ⟨hname htemp hnone hrest, fun hr => ?_⟩
      cases hsame' hr
      refine ⟨(hok hr).1, fun p hp => ?_⟩
      by_cases h : p = temp
      · subst h
        rw [(hok hr).2, hnone]
      · exact hbase p h hp
    unfold Runtime.unlinkIfThere
    refine meets_bind.mpr (meets_attempt.mpr ⟨trivial, ?_⟩)
    intro a files₃ h
    have hdone := hend files₃ (hunlinked files₃ a h)
    cases a with
    | ok _ => exact hdone
    | error e =>
      show Ending restores (if Runtime.isFileNotFound e = true then pure () else fail e) _ files₃
      split
      · exact hdone
      · exact ⟨hdone.1, fun h => nomatch h⟩

end Replacing

/-! ## The captured files -/

/-- What the port may touch. -/
def touched (port : LaunchdPort) (s : CleanerRuntimeSnapshot) : List String :=
  s.priorPlists.map (·.path) ++
    (s.priorAuthorizedIdentities.map (·.path) ++ [Runtime.w07Target port])

/-- The snapshot has the files as they are. -/
def Captures (s : CleanerRuntimeSnapshot) (files : WriterFiles) : Prop :=
  (∀ p ∈ s.priorPlists, contents files p.path = some p.raw) ∧
    ∀ i ∈ s.priorAuthorizedIdentities, contents files i.path = i.raw.map (·.1)

/-- W07 is captured with its service definition in its fixed place, or it is not captured and
nothing stands there. -/
def Managed (port : LaunchdPort) (s : CleanerRuntimeSnapshot) (files : WriterFiles) : Prop :=
  ("W07" ∈ s.selectedWriterIds ∧ Runtime.w07Target port ∈ s.priorPlists.map (·.path)) ∨
    ("W07" ∉ s.selectedWriterIds ∧ files (Runtime.w07Target port) = none)

/-- Every file has its bytes, or its absence, again. -/
def FilesRestored (port : LaunchdPort) (s : CleanerRuntimeSnapshot)
    (files₀ files : WriterFiles) : Prop :=
  ∀ p, contents files p = contents files₀ p ∨
    (files₀ p = none ∧ ∃ q ∈ touched port s, ∃ suffix, p = temporary q suffix)

/-- What a restoration that returns has brought about. A W07 that was not captured is gone,
whoever has put it there. -/
def Brought (port : LaunchdPort) (s : CleanerRuntimeSnapshot) (files₀ files : WriterFiles) : Prop :=
  (Managed port s files₀ → FilesRestored port s files₀ files) ∧
    ("W07" ∉ s.selectedWriterIds → files (Runtime.w07Target port) = none)

section Restoring

variable {port : LaunchdPort} {s : CleanerRuntimeSnapshot}

/-- Where the files of `D` have their bytes again, and the rest has stayed. -/
structure Regained (W D : List String) (files₀ files : WriterFiles) : Prop where
  stays : Stays W files₀ files
  back : ∀ p ∈ D, contents files p = contents files₀ p

variable {D : List String}

/-- A file has its bytes again. -/
theorem Regained.add (h : Regained W D files₀ files) {path : String} (hstays : Stays W files files')
    (hpath : contents files' path = contents files₀ path)
    (hrest : ∀ p, p ≠ path → files' p = files p) :
    Regained W (path :: D) files₀ files' where
  stays := h.stays.trans hstays
  back p hp := by
    by_cases heq : p = path
    · rw [heq]
      exact hpath
    · have hmem := (List.mem_cons.mp hp).resolve_left heq
      rw [contents, hrest p heq]
      exact h.back p hmem

/-- A file that should not be there is removed. -/
theorem Regained.remove (h : Regained W D files₀ files) {path : String} (hpath : path ∈ W)
    (hnone : contents files₀ path = none) {a : Except PyError Unit}
    (hunlink : Faulty files (.unlink path) a files') :
    Stays W files₀ files' ∧ (a = .ok () → Regained W (path :: D) files₀ files') := by
  have hframe : ∀ p, p ≠ path → files' p = files p := fun p hp => hunlink.frame hp
  have hstays : Stays W files files' := by
    intro p hp
    refine Or.inl (hframe p ?_)
    rintro rfl
    exact hp hpath
  refine ⟨h.stays.trans hstays, ?_⟩
  rintro rfl
  obtain ⟨-, rfl⟩ := hunlink
  refine h.add hstays ?_ hframe
  rw [hnone, contents, Function.update_self]
  rfl

/-- What a part of the restoration leaves. -/
def Regaining (W D : List String) (files₀ : WriterFiles) (r : Except PyError Unit)
    (files : WriterFiles) : Prop :=
  match r with
  | .ok _ => Regained W D files₀ files
  | .error _ => Stays W files₀ files

theorem ending_quiet {c : RuntimeCall}
    {post : Except PyError (RuntimeAnswer c) → WriterFiles → Prop}
    {restores : WriterFiles → CleanerRuntimeSnapshot → Except PyError Unit → WriterFiles → Prop}
    (hc : ∀ a files', RuntimeServes restores files c a files' → files = files')
    (h : ∀ a, post a files) : Ending restores (Runtime.call c) post files := by
  refine ⟨trivial, fun a files' hserve => ?_⟩
  cases hc a files' hserve
  exact h a

theorem meets_restorePlist (prior : PriorPlist) (hpath : prior.path ∈ W)
    (hraw : contents files₀ prior.path = some prior.raw) (h : Regained W D files₀ files) :
    Meets SystemServes (fun _ _ => True) (Runtime.restorePlist prior)
      (Regaining W (prior.path :: D) files₀) files := by
  unfold Runtime.restorePlist
  refine meets_bind.mpr (ending_quiet (fun _ _ h => Eq.symm h) fun a => ?_)
  cases a with
  | error e => exact h.stays
  | ok _ =>
    refine meets_bind.mpr (meets_require.mpr ⟨fun _ => ?_, fun _ => h.stays⟩)
    refine (meets_atomicReplace prior.path prior.raw hpath).bind (fun _ files₁ h₁ => ?_)
      fun e files₁ h₁ => h.stays.trans h₁.1
    obtain ⟨hbytes, hrest⟩ := h₁.2 rfl
    have hadd := h.add h₁.1 (hbytes.trans hraw.symm) hrest
    refine (ending_still (c := .readBytes prior.path) trivial).bind ?_ ?_
    · rintro now _ rfl
      exact meets_require.mpr ⟨fun _ => hadd, fun _ => hadd.stays⟩
    · rintro e _ rfl
      exact hadd.stays

theorem meets_removeIfThere {path : String} (hpath : path ∈ W) (hnone : contents files₀ path = none)
    (h : Regained W D files₀ files) :
    Meets SystemServes (fun _ _ => True) (Runtime.removeIfThere path)
      (Regaining W (path :: D) files₀) files := by
  unfold Runtime.removeIfThere
  refine meets_bind.mpr (ending_file fun a files₁ h₁ => ?_)
  have hsame : files₁ = files := Still.same (c := .exist path) trivial h₁
  subst hsame
  cases a with
  | error e => exact h.stays
  | ok there =>
    cases there with
    | true =>
      refine ending_file fun a files₂ h₂ => ?_
      obtain ⟨hstays, hok⟩ := h.remove hpath hnone h₂
      cases a with
      | ok _ => exact hok rfl
      | error e => exact hstays
    | false =>
      -- it is not there, as it should be
      have habsent : files₁ path = none := by
        cases hfile : files₁ path with
        | none => rfl
        | some f => exact nomatch h₁.1 (by rw [hfile]; rfl)
      refine h.add (Stays.refl _ _) ?_ fun _ _ => rfl
      rw [hnone, contents, habsent]
      rfl

theorem meets_restoreIdentity (prior : PriorIdentity) (hpath : prior.path ∈ W)
    (hraw : contents files₀ prior.path = prior.raw.map (·.1)) (h : Regained W D files₀ files) :
    Meets SystemServes (fun _ _ => True) (Runtime.restoreIdentity prior)
      (Regaining W (prior.path :: D) files₀) files := by
  unfold Runtime.restoreIdentity
  refine meets_bind.mpr (ending_quiet (fun _ _ h => Eq.symm h) fun a => ?_)
  cases a with
  | error e => exact h.stays
  | ok _ =>
    obtain ⟨writer, path, raw⟩ := prior
    cases raw with
    | none => exact meets_removeIfThere hpath hraw h
    | some raw =>
      obtain ⟨raw, expected⟩ := raw
      refine meets_bind.mpr (meets_require.mpr ⟨fun _ => ?_, fun _ => h.stays⟩)
      refine (meets_atomicReplace path raw hpath).bind (fun _ files₁ h₁ => ?_)
        fun e files₁ h₁ => h.stays.trans h₁.1
      obtain ⟨hbytes, hrest⟩ := h₁.2 rfl
      have hadd := h.add h₁.1 (hbytes.trans hraw.symm) hrest
      refine (ending_still (c := .readBytes path) trivial).bind ?_ ?_
      · rintro now _ rfl
        exact meets_require.mpr ⟨fun _ => hadd, fun _ => hadd.stays⟩
      · rintro e _ rfl
        exact hadd.stays

/-- Every file of a list. -/
theorem meets_restoreEach {β : Type} {f : β → RuntimeScript Unit} (path : β → String) (l : List β)
    (hf : ∀ b ∈ l, ∀ D files, Regained W D files₀ files → Meets SystemServes (fun _ _ => True) (f b)
      (Regaining W (path b :: D) files₀) files) (h : Regained W D files₀ files) :
    Meets SystemServes (fun _ _ => True) (each f l)
      (Regaining W ((l.map path).reverse ++ D) files₀) files := by
  induction l generalizing D files with
  | nil => exact h
  | cons b bs ih =>
    refine (hf b (List.mem_cons_self ..) D files h).bind (fun _ files₁ h₁ => ?_) fun _ _ he => he
    rw [List.map_cons, List.reverse_cons, List.append_assoc, List.singleton_append]
    exact ih (fun b' hb' => hf b' (List.mem_cons_of_mem _ hb')) h₁

/-- A program that calls nothing of the files, and no restoration. -/
def Quiet : RuntimeCall → Prop
  | .file c => Still c
  | .mkstemp _ | .restorePreCutover _ => False
  | _ => True

theorem quiet_same {restores : WriterFiles → CleanerRuntimeSnapshot → Except PyError Unit →
    WriterFiles → Prop} {c : RuntimeCall} {a : Except PyError (RuntimeAnswer c)} (hc : Quiet c)
    (h : RuntimeServes restores files c a files') : files' = files := by
  cases c with
  | file c => exact Still.same hc h
  | mkstemp path => exact hc.elim
  | restorePreCutover s => exact hc.elim
  | _ => exact h

theorem ending_within {restores : WriterFiles → CleanerRuntimeSnapshot → Except PyError Unit →
    WriterFiles → Prop} {α : Type} {x : RuntimeScript α} (hx : Within Quiet x) :
    Ending restores x (fun _ files' => files = files') files := by
  induction x generalizing files with
  | done r => rfl
  | call c k ih =>
    refine ⟨trivial, fun a files' h => ?_⟩
    have hsame := quiet_same hx.1 h
    subst hsame
    exact ih a (hx.2 a)

/-- Such a program, and what follows. -/
theorem quiet_bind {restores : WriterFiles → CleanerRuntimeSnapshot → Except PyError Unit →
    WriterFiles → Prop} {α β : Type} {x : RuntimeScript α} {f : α → RuntimeScript β}
    {post : Except PyError β → WriterFiles → Prop} (hx : Within Quiet x)
    (hf : ∀ a, Ending restores (f a) post files) (he : ∀ e, post (.error e) files) :
    Ending restores (x >>= f) post files := by
  refine (ending_within hx).bind ?_ ?_
  · rintro a _ rfl
    exact hf a
  · rintro e _ rfl
    exact he e

theorem within_keyed {α : Type} (o : Option α) (key : String) : Within Quiet
    (Runtime.keyed o key) := by
  cases o <;> trivial

theorem within_restoreServices (port : LaunchdPort) (s : CleanerRuntimeSnapshot) :
    Within Quiet (Runtime.restoreServices port s) := by
  have hselected : ∀ l, Within Quiet (Runtime.selectedEntries s l) := by
    intro l
    induction l with
    | nil => trivial
    | cons writer rest ih => exact (within_keyed _ _).bind fun _ => ih.bind fun _ => trivial
  have hrestored : ∀ observed l, Within Quiet (Runtime.requireRestored observed l) := by
    intro observed l
    induction l with
    | nil => trivial
    | cons expected rest ih => exact (within_require _ _).bind fun _ => ih
  unfold Runtime.restoreServices
  refine (hselected _).bind fun selected => Within.bind (within_invoke trivial) fun _ => ?_
  refine Within.bind (within_invoke trivial) fun _ => Within.bind
    (within_invoke trivial) fun observed => ?_
  exact (hrestored _ _).bind fun _ => within_require _ _

/-- The files after the staged W07 has gone, when there should be none. -/
def Unstaged (port : LaunchdPort) (s : CleanerRuntimeSnapshot)
    (files files' : WriterFiles) : Prop :=
  ("W07" ∈ s.selectedWriterIds → files' = files) ∧
    ("W07" ∉ s.selectedWriterIds → files' (Runtime.w07Target port) = none ∧
      ∀ p, p ≠ Runtime.w07Target port → files' p = files p)

theorem meets_removeStaged (port : LaunchdPort) (s : CleanerRuntimeSnapshot)
    (htarget : Runtime.w07Target port ∈ W) :
    Meets SystemServes (fun _ _ => True) (Runtime.removeStaged port s) (fun r files' =>
      Stays W files files' ∧ (r = .ok () → Unstaged port s files files')) files := by
  unfold Runtime.removeStaged
  split
  · rename_i hunselected
    refine meets_bind.mpr (ending_file fun a files₁ h₁ => ?_)
    have hsame : files₁ = files := Still.same (c := .exist _) trivial h₁
    subst hsame
    cases a with
    | error e => exact ⟨Stays.refl _ _, fun h => nomatch h⟩
    | ok there =>
      cases there with
      | true =>
        refine meets_bind.mpr (ending_quiet (fun _ _ h => Eq.symm h) fun a => ?_)
        cases a with
        | error e => exact ⟨Stays.refl _ _, fun h => nomatch h⟩
        | ok _ =>
          refine ending_file fun a files₂ h₂ => ?_
          have hframe : ∀ p, p ≠ Runtime.w07Target port → files₂ p = files₁ p :=
            fun p hp => h₂.frame hp
          refine ⟨fun p hp => Or.inl (hframe p ?_), ?_⟩
          · rintro rfl
            exact hp htarget
          · rintro rfl
            refine ⟨fun hselected => absurd hselected hunselected, fun _ => ⟨?_, hframe⟩⟩
            obtain ⟨-, rfl⟩ := h₂
            exact Function.update_self ..
      | false =>
        have habsent : files₁ (Runtime.w07Target port) = none := by
          cases hfile : files₁ (Runtime.w07Target port) with
          | none => rfl
          | some f => exact nomatch h₁.1 (by rw [hfile]; rfl)
        exact ⟨Stays.refl _ _, fun _ =>
          ⟨fun hselected => absurd hselected hunselected, fun _ => ⟨habsent, fun _ _ => rfl⟩⟩⟩
  · rename_i hselected
    exact ⟨Stays.refl _ _, fun _ => ⟨fun _ => rfl, fun hunselected => absurd hunselected hselected⟩⟩

/-- All the files have their bytes again. -/
theorem Regained.restored (h : Regained (touched port s) D files₀ files)
    (hplists : ∀ p ∈ s.priorPlists, p.path ∈ D)
    (hidentities : ∀ i ∈ s.priorAuthorizedIdentities, i.path ∈ D)
    (hmanaged : Managed port s files₀) (hunstaged : Unstaged port s files files') :
    FilesRestored port s files₀ files' := by
  have htarget : contents files' (Runtime.w07Target port) = contents files₀
    (Runtime.w07Target port) := by
    rcases hmanaged with ⟨hselected, hmem⟩ | ⟨hunselected, hnone⟩
    · obtain ⟨p, hp, hpath⟩ := List.mem_map.mp hmem
      rw [hunstaged.1 hselected, ← hpath]
      exact h.back p.path (hplists p hp)
    · rw [contents, contents, (hunstaged.2 hunselected).1, hnone]
  have hrest : ∀ p, p ≠ Runtime.w07Target port → files' p = files p := by
    intro p hp
    by_cases hselected : "W07" ∈ s.selectedWriterIds
    · rw [hunstaged.1 hselected]
    · exact (hunstaged.2 hselected).2 p hp
  intro p
  by_cases hp : p = Runtime.w07Target port
  · rw [hp]
    exact Or.inl htarget
  · rw [contents, hrest p hp]
    by_cases hmem : p ∈ touched port s
    · refine Or.inl (h.back p ?_)
      rcases List.mem_append.mp hmem with hplist | hother
      · obtain ⟨q, hq, rfl⟩ := List.mem_map.mp hplist
        exact hplists q hq
      · rcases List.mem_append.mp hother with hidentity | hstaged
        · obtain ⟨i, hi, rfl⟩ := List.mem_map.mp hidentity
          exact hidentities i hi
        · exact absurd (List.mem_singleton.mp hstaged) hp
    · refine (h.stays p hmem).imp_left fun hsame => ?_
      rw [contents, hsame]

/-- **Restoring.** -/
theorem meets_restore (hcaptures : Captures s files₀) (h : Stays (touched port s) files₀ files) :
    Meets SystemServes (fun _ _ => True) (Runtime.restorePreCutover port s) (fun r files' =>
      Stays (touched port s) files₀ files' ∧
        (r = .ok () → Brought port s files₀ files')) files := by
  have hplist : ∀ p ∈ s.priorPlists, p.path ∈ touched port s := fun p hp =>
    List.mem_append_left _ (List.mem_map_of_mem hp)
  have hidentity : ∀ i ∈ s.priorAuthorizedIdentities, i.path ∈ touched port s := fun i hi =>
    List.mem_append_right _ (List.mem_append_left _ (List.mem_map_of_mem hi))
  have htarget : Runtime.w07Target port ∈ touched port s :=
    List.mem_append_right _ (List.mem_append_right _ (List.mem_singleton_self _))
  have hstart : Regained (touched port s) [] files₀ files := ⟨h, fun _ hp => nomatch hp⟩
  unfold Runtime.restorePreCutover
  refine (meets_restoreEach PriorPlist.path s.priorPlists
    (fun p hp D files hD =>
    meets_restorePlist p (hplist p hp) (hcaptures.1 p hp) hD) hstart).bind (fun _ files₁ h₁ => ?_)
      fun e _ he => ⟨he, fun h => nomatch h⟩
  refine (meets_restoreEach PriorIdentity.path s.priorAuthorizedIdentities
    (fun i hi D files hD => meets_restoreIdentity i (hidentity i hi) (hcaptures.2 i hi) hD) h₁).bind
      (fun _ files₂ h₂ => ?_) fun e _ he => ⟨he, fun h => nomatch h⟩
  refine (meets_removeStaged port s htarget).bind (fun _ files₃ h₃ => ?_)
    fun e _ he => ⟨h₂.stays.trans he.1, fun h => nomatch h⟩
  refine (ending_within (within_restoreServices port s)).mono ?_
  rintro r _ rfl
  refine ⟨h₂.stays.trans h₃.1, fun _ => ⟨fun hmanaged => ?_, fun hunselected => ?_⟩⟩
  swap
  · exact ((h₃.2 rfl).2 hunselected).1
  refine h₂.restored (fun p hp => ?_) (fun i hi => ?_) hmanaged (h₃.2 rfl)
  · refine List.mem_append_right _ (List.mem_append_left _ (List.mem_reverse.mpr ?_))
    exact List.mem_map_of_mem hp
  · refine List.mem_append_left _ (List.mem_reverse.mpr ?_)
    exact List.mem_map_of_mem hi

/-! ## Materialising -/

theorem meets_materialize {path : String} (writer : String) (payload : FileSystem.Bytes)
    (hpath : path ∈ W) :
    Meets SystemServes (fun _ _ => True) (Runtime.materialize path writer payload)
      (fun _ files' => Stays W files files') files := by
  unfold Runtime.materialize
  refine (meets_atomicReplace path payload hpath).bind (fun _ files₁ h₁ => ?_) fun _ _ h => h.1
  refine (ending_still (c := .readBytes path) trivial).bind ?_ ?_
  · rintro now _ rfl
    exact meets_bind.mpr (meets_require.mpr ⟨fun _ => h₁.1, fun _ => h₁.1⟩)
  · rintro e _ rfl
    exact h₁.1

theorem priorPath_mem {writer path : String} (h : Runtime.priorPath s writer = some path) :
    path ∈ touched port s := by
  obtain ⟨p, hfind, rfl⟩ := Option.map_eq_some_iff.mp h
  exact List.mem_append_left _
    (List.mem_map_of_mem (List.mem_reverse.mp (List.mem_of_find?_eq_some hfind)))

theorem meets_materializeEach (port : LaunchdPort) (s : CleanerRuntimeSnapshot)
    (runtime : CleanerRuntimeTuple) (l : List String) :
    Meets SystemServes (fun _ _ => True) (Runtime.materializeEach s runtime l)
      (fun _ files' => Stays (touched port s) files files') files := by
  induction l generalizing files with
  | nil => exact Stays.refl _ _
  | cons writer rest ih =>
    unfold Runtime.materializeEach
    refine meets_bind.mpr (ending_quiet (fun _ _ h => Eq.symm h) fun a => ?_)
    cases a with
    | error e => exact Stays.refl _ _
    | ok _ =>
      refine meets_bind.mpr (ending_quiet (fun _ _ h => Eq.symm h) fun a => ?_)
      cases a with
      | error e => exact Stays.refl _ _
      | ok payload =>
        cases hprior : Runtime.priorPath s writer with
        | none => exact Stays.refl _ _
        | some path =>
          refine meets_bind.mpr ?_
          refine (meets_materialize writer payload (priorPath_mem hprior)).bind
            (fun output files₁ h₁ => ?_)
            fun _ _ h => h
          refine ih.bind (fun others files₂ h₂ => h₁.trans h₂)
            fun _ _ h => h₁.trans h

theorem meets_materializePostgresRuntime (port : LaunchdPort) (s : CleanerRuntimeSnapshot)
    (runtime : CleanerRuntimeTuple) :
    Meets SystemServes (fun _ _ => True) (Runtime.materializePostgresRuntime port s runtime)
      (fun _ files' => Stays (touched port s) files files') files := by
  have htarget : Runtime.w07Target port ∈ touched port s :=
    List.mem_append_right _ (List.mem_append_right _ (List.mem_singleton_self _))
  have hunmanaged : Within Quiet (Runtime.unmanagedTarget port s) := by
    unfold Runtime.unmanagedTarget
    split
    · exact within_invoke trivial
    · trivial
  unfold Runtime.materializePostgresRuntime
  refine meets_bind.mpr (meets_require.mpr ⟨fun _ => ?_, fun _ => Stays.refl _ _⟩)
  refine (meets_materializeEach port s runtime _).bind (fun outputs files₁ h₁ => ?_) fun _ _ h => h
  have hfails : ∀ e : PyError, Stays (touched port s) files files₁ := fun _ => h₁
  refine quiet_bind (within_invoke trivial) (fun sourceThere => ?_) hfails
  refine quiet_bind (within_require _ _) (fun _ => ?_) hfails
  refine quiet_bind hunmanaged (fun unmanaged => ?_) hfails
  refine quiet_bind (within_require _ _) (fun _ => ?_) hfails
  refine quiet_bind (within_invoke trivial) (fun _ => ?_) hfails
  refine quiet_bind (within_invoke trivial) (fun disabled => ?_) hfails
  refine quiet_bind (within_require _ _) (fun _ => ?_) hfails
  refine quiet_bind (within_invoke trivial) (fun enabledState => ?_) hfails
  refine quiet_bind (within_require _ _) (fun _ => ?_) hfails
  refine quiet_bind (within_invoke trivial) (fun payload => ?_) hfails
  refine (meets_materialize "W07" payload htarget).bind (fun output files₂ h₂ => h₁.trans h₂)
    fun _ _ h => h₁.trans h

end Restoring

/-! ## Quiescing -/

section Quiescing

variable {port : LaunchdPort} {α β : Type}

abbrev RuntimeEvent : Type := Event WriterFiles PyError RuntimeAnswer

/-- No file has changed, and no restoration has been called. -/
def Undisturbed (files₀ : WriterFiles) (st : WriterFiles × List RuntimeEvent) : Prop :=
  st.1 = files₀ ∧ ∀ e ∈ st.2, Quiet e.made

/-- When a quiescence makes a call. -/
def AllowedQuiesce (files₀ : WriterFiles) (st : WriterFiles × List RuntimeEvent)
    (c : RuntimeCall) : Prop :=
  Undisturbed files₀ st ∧ ∀ s, c = .restorePreCutover s → Captures s files₀

abbrev Quiescing (port : LaunchdPort) (files₀ : WriterFiles) (x : RuntimeScript α)
    (post : Except PyError α → WriterFiles × List RuntimeEvent → Prop)
    (st : WriterFiles × List RuntimeEvent) : Prop :=
  Meets (traced (RuntimeServes (Restores port))) (AllowedQuiesce files₀) x post st

variable {st : WriterFiles × List RuntimeEvent}

/-- A call that disturbs nothing answers of the files as they were. -/
theorem quiescing_call {c : RuntimeCall} {post : Except PyError (RuntimeAnswer c) →
    WriterFiles × List RuntimeEvent → Prop} (hst : Undisturbed files₀ st) (hc : Quiet c)
    (h : ∀ a st', Undisturbed files₀ st' → RuntimeServes
    (Restores port) files₀ c a files₀ → post a st') :
    Quiescing port files₀ (Runtime.call c) post st := by
  obtain ⟨rfl, hlog⟩ := hst
  refine ⟨⟨⟨rfl, hlog⟩, fun s hs => ?_⟩, ?_⟩
  · subst hs
    exact hc.elim
  · rintro a ⟨files', log'⟩ ⟨hserve, hlog'⟩
    have hsame : files' = st.1 := quiet_same hc hserve
    subst hsame
    refine h a _ ⟨rfl, fun e he => ?_⟩ hserve
    replace hlog' : log' = st.2 ++ [⟨st.1, c, a⟩] := hlog'
    replace he : e ∈ log' := he
    rw [hlog'] at he
    rcases List.mem_append.mp he with he | he
    · exact hlog e he
    · cases List.mem_singleton.mp he
      exact hc

theorem quiescing_within {x : RuntimeScript α} (hx : Within Quiet x) (hst : Undisturbed files₀ st) :
    Quiescing port files₀ x (fun _ st' => Undisturbed files₀ st') st := by
  induction x generalizing st with
  | done r => exact hst
  | call c k ih =>
    have hcall : Quiescing port files₀ (Runtime.call c)
        (fun a st' => Quiescing port files₀ (k a) (fun _ st' => Undisturbed files₀ st') st') st :=
      quiescing_call hst hx.1 fun a st' hst' _ => ih a (hx.2 a) hst'
    exact hcall

theorem meets_capturePlists (inventory : WriterInventory) (l : List String)
    (hst : Undisturbed files₀ st) :
    Quiescing port files₀ (Runtime.capturePlists inventory l) (fun r st' => Undisturbed files₀ st' ∧
      ∀ prior, r = .ok prior → ∀ p ∈ prior, contents files₀ p.path = some p.raw) st := by
  induction l generalizing st with
  | nil =>
    refine ⟨hst, ?_⟩
    rintro prior h p hp
    cases h
    cases hp
  | cons writer rest ih =>
    have hfails : ∀ {st'} (e : PyError), Undisturbed files₀ st' → Undisturbed files₀ st' ∧
        ∀ prior, (.error e : Except PyError (List PriorPlist)) = .ok prior →
          ∀ p ∈ prior, contents files₀ p.path = some p.raw := by
      intro st' e hst'
      exact ⟨hst', fun _ h => nomatch h⟩
    unfold Runtime.capturePlists
    refine meets_bind.mpr (meets_lift.mpr ?_)
    cases Runtime.inventoryEntry inventory writer with
    | error e => exact hfails e hst
    | ok entry =>
      refine meets_bind.mpr (quiescing_call hst trivial fun a st₁ hst₁ _ => ?_)
      cases a with
      | error e => exact hfails e hst₁
      | ok definition =>
        refine meets_bind.mpr (quiescing_call hst₁ trivial fun a st₂ hst₂ hread => ?_)
        cases a with
        | error e => exact hfails e hst₂
        | ok raw =>
          refine (ih hst₂).bind (fun others st₃ h₃ => ?_) fun e st₃ h₃ => hfails e h₃.1
          refine ⟨h₃.1, ?_⟩
          rintro prior h p hp
          cases h
          rcases List.mem_cons.mp hp with rfl | hp
          · exact hread.1
          · exact h₃.2 others rfl p hp

theorem meets_readIfThere (path : String) (hst : Undisturbed files₀ st) :
    Quiescing port files₀ (Runtime.readIfThere path) (fun r st' => Undisturbed files₀ st' ∧
      ∀ raw, r = .ok raw → contents files₀ path = raw) st := by
  unfold Runtime.readIfThere
  refine meets_bind.mpr (quiescing_call hst trivial fun a st₁ hst₁ hexist => ?_)
  cases a with
  | error e => exact ⟨hst₁, fun _ h => nomatch h⟩
  | ok there =>
    cases there with
    | true =>
      refine meets_bind.mpr (quiescing_call hst₁ trivial fun a st₂ hst₂ hread => ?_)
      cases a with
      | error e => exact ⟨hst₂, fun _ h => nomatch h⟩
      | ok raw =>
        refine ⟨hst₂, ?_⟩
        rintro raw' h
        cases h
        exact hread.1
    | false =>
      refine ⟨hst₁, ?_⟩
      rintro raw h
      cases h
      cases hfile : files₀ path with
      | none => rw [contents, hfile]; rfl
      | some f => exact nomatch hexist.1 (by rw [hfile]; rfl)

theorem within_unusable (path : String) : Within Quiet (Runtime.unusable path) := by
  unfold Runtime.unusable
  refine Within.bind (within_invoke trivial) fun link => ?_
  split
  · trivial
  · refine Within.bind (within_invoke trivial) fun there => ?_
    split
    · exact Within.bind (within_invoke trivial) fun _ => trivial
    · trivial

theorem meets_captureIdentities (port' : LaunchdPort) (l : List String)
    (hst : Undisturbed files₀ st) :
    Quiescing port files₀ (Runtime.captureIdentities port' l) (fun r st' => Undisturbed files₀ st' ∧
      ∀ prior, r = .ok prior → ∀ i ∈ prior, contents files₀ i.path = i.raw.map (·.1)) st := by
  induction l generalizing st with
  | nil =>
    refine ⟨hst, ?_⟩
    rintro prior h i hi
    cases h
    cases hi
  | cons writer rest ih =>
    have hfails : ∀ {st'} (e : PyError), Undisturbed files₀ st' → Undisturbed files₀ st' ∧
        ∀ prior, (.error e : Except PyError (List PriorIdentity)) = .ok prior →
          ∀ i ∈ prior, contents files₀ i.path = i.raw.map (·.1) := by
      intro st' e hst'
      exact ⟨hst', fun _ h => nomatch h⟩
    unfold Runtime.captureIdentities
    refine (quiescing_within (within_unusable _) hst).bind
      (fun bad st₁ h₁ => ?_) fun e _ h => hfails e h
    refine (quiescing_within (within_require _ _) h₁).bind
      (fun _ st₂ h₂ => ?_) fun e _ h => hfails e h
    refine (meets_readIfThere _ h₂).bind (fun raw st₃ h₃ => ?_) fun e _ h => hfails e h.1
    refine (ih h₃.1).bind (fun others st₄ h₄ => ?_) fun e _ h => hfails e h.1
    refine ⟨h₄.1, ?_⟩
    rintro prior h i hi
    cases h
    rcases List.mem_cons.mp hi with rfl | hi
    · rw [h₃.2 raw rfl]
      cases raw <;> rfl
    · exact h₄.2 others rfl i hi

theorem meets_capture (port' : LaunchdPort) (hst : Undisturbed files₀ st) :
    Quiescing port files₀ (Runtime.capture port') (fun r st' => Undisturbed files₀ st' ∧
      ∀ s, r = .ok s → Captures s files₀) st := by
  unfold Runtime.capture
  refine (quiescing_within (x := Runtime.call .discover) (within_invoke trivial) hst).bind
    (fun inventory st₁ h₁ => ?_)
    fun e _ h => ⟨h, fun _ h => nomatch h⟩
  refine (quiescing_within (within_require _ _) h₁).bind (fun _ st₂ h₂ => ?_)
    fun e _ h => ⟨h, fun _ h => nomatch h⟩
  refine (meets_capturePlists inventory _ h₂).bind (fun prior st₃ h₃ => ?_)
    fun e _ h => ⟨h.1, fun _ h => nomatch h⟩
  refine (meets_captureIdentities port' _ h₃.1).bind (fun authorizedPrior st₄ h₄ => ?_)
    fun e _ h => ⟨h.1, fun _ h => nomatch h⟩
  refine ⟨h₄.1, ?_⟩
  rintro s h
  cases h
  exact ⟨h₃.2 prior rfl, h₄.2 authorizedPrior rfl⟩

theorem within_fenceAll (port : LaunchdPort) (s : CleanerRuntimeSnapshot) :
    Within Quiet (Runtime.fenceAll port s) := by
  have hone : ∀ entry, Within Quiet (Runtime.fenceOne port entry) := by
    intro entry
    unfold Runtime.fenceOne
    refine Within.bind (within_invoke trivial) fun _ => Within.bind
      (within_invoke trivial) fun definition => ?_
    refine Within.bind (within_invoke trivial) fun disabled => (within_require _ _).bind fun _ => ?_
    refine Within.bind (within_invoke trivial) fun enabledState =>
      (within_require _ _).bind fun _ => ?_
    refine Within.bind (within_invoke trivial) fun _ => Within.bind
      (within_invoke trivial) fun result => ?_
    split
    · unfold Runtime.requireAbsent
      refine Within.bind ?_ fun _ => within_invoke trivial
      refine Within.bind (within_invoke trivial) fun _ => Within.bind
        (within_invoke trivial) fun _ => ?_
      exact within_require _ _
    · exact within_invoke trivial
  have heach : ∀ l, Within Quiet (Runtime.fenceEach port s.inventory l) := by
    intro l
    induction l with
    | nil => trivial
    | cons writer rest ih =>
      unfold Runtime.fenceEach
      split
      · exact (within_keyed _ _).bind fun entry => (hone entry).bind fun _ => ih
      · exact ih
  have hquiesced : ∀ after l, Within Quiet (Runtime.requireQuiesced after l) := by
    intro after l
    induction l with
    | nil => trivial
    | cons writer rest ih => exact (within_require _ _).bind fun _ => ih
  unfold Runtime.fenceAll
  refine (within_keyed _ _).bind fun w06 => (hone w06).bind fun _ => (heach _).bind fun _ => ?_
  refine Within.bind (within_invoke trivial) fun after => (hquiesced _ _).bind fun _ => ?_
  exact within_require _ _

/-- How a quiescence ends: with the files as they were, or with a restoration. -/
def Quiesces (port : LaunchdPort) (files₀ : WriterFiles) (r : Except PyError CleanerRuntimeSnapshot)
    (st : WriterFiles × List RuntimeEvent) : Prop :=
  (Undisturbed files₀ st ∧ ∀ s, r = .ok s → Captures s files₀) ∨
    ∃ before w s a, st.2 = before ++ [⟨w, .restorePreCutover s, a⟩] ∧ (∀ e ∈ before, Quiet e.made) ∧
      Captures s files₀ ∧ Stays (touched port s) files₀ st.1 ∧
      (a = .ok () → Brought port s files₀ st.1) ∧ ∃ error, r = .error error

theorem meets_quiesceForCutover (port : LaunchdPort) (files₀ : WriterFiles) :
    Quiescing port files₀ (Runtime.quiesceForCutover port) (Quiesces port files₀) (files₀, []) := by
  have hstart : Undisturbed files₀ (files₀, []) := ⟨rfl, fun e he => nomatch he⟩
  unfold Runtime.quiesceForCutover
  refine (meets_capture port hstart).bind (fun s st₁ h₁ => ?_)
    fun e st₁ h₁ => Or.inl ⟨h₁.1, fun _ h => nomatch h⟩
  have hcaptures := h₁.2 s rfl
  refine Meets.attemptBind (quiescing_within (within_fenceAll port s) h₁.1) fun r st₂ h₂ => ?_
  cases r with
  | ok _ =>
    refine Or.inl ⟨h₂, ?_⟩
    rintro s' h
    cases h
    exact hcaptures
  | error e =>
    refine meets_bind.mpr ⟨⟨h₂, fun s' h => ?_⟩, ?_⟩
    · cases h
      exact hcaptures
    · rintro a ⟨files', log'⟩ ⟨hserve, hlog⟩
      obtain ⟨hfiles, hquiet⟩ := h₂
      rw [hfiles] at hserve
      have hended := (meets_restore hcaptures (Stays.refl (touched port s) files₀)).ended hserve
      have hquiesces : ∀ error, Quiesces port files₀ (.error error) (files', log') := fun error =>
        Or.inr ⟨st₂.2, st₂.1, s, a, hlog, hquiet, hcaptures, hended.1, hended.2, error, rfl⟩
      cases a with
      | ok _ => exact hquiesces e
      | error error => exact hquiesces error

end Quiescing

/-! ## The preparation -/

section Preparing

variable {μ ω : Type}

abbrev PrepareEvent (ω μ : Type) : Type :=
  Event ω (ControlError CleanerCutoverPrepared μ)
    (ControlAnswer (CutoverAnswer (μ := μ) (δ := CleanerCutoverPrepared)))

/-- What the event tells: a quiescence that has returned, a restoration, a materialisation that
has returned, a read of the epoch that has raised. -/
def quiesceReturned : PrepareEvent ω μ → Option CleanerRuntimeSnapshot
  | ⟨_, .user .quiesceForCutover, .ok s⟩ => some s
  | _ => none

def restoreCalled : PrepareEvent ω μ → Option CleanerRuntimeSnapshot
  | ⟨_, .user (.restorePreCutover s), _⟩ => some s
  | _ => none

def restoreReturned : PrepareEvent ω μ → Option CleanerRuntimeSnapshot
  | ⟨_, .user (.restorePreCutover s), .ok _⟩ => some s
  | _ => none

def materialized : PrepareEvent ω μ → Bool
  | ⟨_, .user (.materializePostgresRuntime ..), .ok _⟩ => true
  | _ => false

def readRaised : PrepareEvent ω μ → Bool
  | ⟨_, .user .readCurrent, .error _⟩ => true
  | _ => false

/-- The quiescence has returned `s`. -/
def QuiescedWith (s : CleanerRuntimeSnapshot) (log : List (PrepareEvent ω μ)) : Prop :=
  ∃ e ∈ log, quiesceReturned e = some s

/-- The writers are not left as the quiescence has left them: the effect has completed, or they
are being restored. -/
def NotStranded (s : CleanerRuntimeSnapshot) (log : List (PrepareEvent ω μ)) : Prop :=
  (∃ e ∈ log, materialized e = true) ∨ ∃ e ∈ log, restoreCalled e = some s

def EpochRead (log : List (PrepareEvent ω μ)) : Prop := ∀ e ∈ log, readRaised e = false

/-- What an ended effect has come to. -/
def EffectEnded (log : List (PrepareEvent ω μ)) : Prop :=
  ∀ s, QuiescedWith s log → (NotStranded s log ↔ EpochRead log)

variable {log more : List (PrepareEvent ω μ)} {e : PrepareEvent ω μ}

/-- The calls that none of this is about. -/
def Aside : ControlCall (CutoverCall μ CleanerCutoverPrepared) → Prop
  | .user .quiesceForCutover | .user (.restorePreCutover _) | .user (.materializePostgresRuntime ..)
  | .user .readCurrent => False
  | _ => True

theorem aside_of_own {c : ControlCall (CutoverCall μ CleanerCutoverPrepared)} (h : OwnCall c) :
    Aside c := by
  cases c with
  | user c => exact h.elim
  | _ => trivial

/-- They tell nothing. -/
theorem Aside.tells (h : Aside e.made) : quiesceReturned e = none ∧ restoreCalled e = none ∧
    restoreReturned e = none ∧ materialized e = false ∧ readRaised e = false := by
  obtain ⟨w, c, a⟩ := e
  cases c with
  | user c => cases c <;> first | exact h.elim | exact ⟨rfl, rfl, rfl, rfl, rfl⟩
  | _ => exact ⟨rfl, rfl, rfl, rfl, rfl⟩

theorem exists_append_aside {P : PrepareEvent ω μ → Prop} (hmore : ∀ e ∈ more, ¬ P e) :
    (∃ e ∈ log ++ more, P e) ↔ ∃ e ∈ log, P e := by
  constructor
  · rintro ⟨e, he, hP⟩
    rcases List.mem_append.mp he with he | he
    · exact ⟨e, he, hP⟩
    · exact absurd hP (hmore e he)
  · rintro ⟨e, he, hP⟩
    exact ⟨e, List.mem_append_left _ he, hP⟩

theorem EffectEnded.append (h : EffectEnded log) (more : List (PrepareEvent ω μ))
    (hmore : ∀ e ∈ more, Aside e.made) :
    EffectEnded (log ++ more) := by
  intro s hquiesced
  have hbefore : QuiescedWith s log := by
    refine (exists_append_aside fun e he heq => ?_).mp hquiesced
    rw [(hmore e he).tells.1] at heq
    cases heq
  have hstranded : NotStranded s (log ++ more) ↔ NotStranded s log := by
    refine or_congr (exists_append_aside fun e he heq => ?_)
      (exists_append_aside fun e he heq => ?_)
    · rw [(hmore e he).tells.2.2.2.1] at heq
      cases heq
    · rw [(hmore e he).tells.2.1] at heq
      cases heq
  rw [hstranded, h s hbefore]
  constructor
  · intro hread e he
    rcases List.mem_append.mp he with he | he
    · exact hread e he
    · exact (hmore e he).tells.2.2.2.2
  · intro hread e he
    exact hread e (List.mem_append_left _ he)

/-- What the calls so far allow. -/
def AllowedPrepare (log : List (PrepareEvent ω μ)) :
    ControlCall (CutoverCall μ CleanerCutoverPrepared) → Prop
  | .user .quiesceForCutover => ∀ e ∈ log, OwnCall e.made
  | .user (.materializePostgresRuntime s _) | .user (.restorePreCutover s) =>
    QuiescedWith s log ∧ ∀ e ∈ log, restoreCalled e = none
  | _ => True

theorem allowedPrepare_own (log : List (PrepareEvent ω μ))
    (c : ControlCall (CutoverCall μ CleanerCutoverPrepared))
    (h : OwnCall c) : AllowedPrepare log c := by
  cases c with
  | user c => exact h.elim
  | _ => trivial

variable {serve : ω → (c : ControlCall (CutoverCall μ CleanerCutoverPrepared)) →
  Except (ControlError CleanerCutoverPrepared μ)
    (ControlAnswer (CutoverAnswer (μ := μ) (δ := CleanerCutoverPrepared)) c) → ω → Prop}

/-- While the effect runs: the quiescence has returned `s`, and nothing else. -/
structure Running (s : CleanerRuntimeSnapshot) (log : List (PrepareEvent ω μ)) : Prop where
  quiesced : QuiescedWith s log
  only : ∀ s', QuiescedWith s' log → s' = s
  read : EpochRead log
  unrestored : ∀ e ∈ log, restoreCalled e = none
  unmaterialized : ∀ e ∈ log, materialized e = false

variable {s : CleanerRuntimeSnapshot}

/-- An event that tells nothing of the five. -/
theorem Running.call (h : Running s log) (hquiesce : quiesceReturned e = none)
    (hrestore : restoreCalled e = none) (hmaterialize : materialized e = false)
    (hread : readRaised e = false) : Running s (log ++ [e]) where
  quiesced := by
    obtain ⟨e', he', heq⟩ := h.quiesced
    exact ⟨e', List.mem_append_left _ he', heq⟩
  only s' := by
    rintro ⟨e', he', heq⟩
    rcases List.mem_append.mp he' with he' | he'
    · exact h.only s' ⟨e', he', heq⟩
    · rw [List.mem_singleton.mp he', hquiesce] at heq
      cases heq
  read e' he' := by
    rcases List.mem_append.mp he' with he' | he'
    · exact h.read e' he'
    · rw [List.mem_singleton.mp he', hread]
  unrestored e' he' := by
    rcases List.mem_append.mp he' with he' | he'
    · exact h.unrestored e' he'
    · rw [List.mem_singleton.mp he', hrestore]
  unmaterialized e' he' := by
    rcases List.mem_append.mp he' with he' | he'
    · exact h.unmaterialized e' he'
    · rw [List.mem_singleton.mp he', hmaterialize]

/-- A read that raises ends the effect, and strands the writers. -/
theorem Running.stranded (h : Running s log) (hrestore : restoreCalled e = none)
    (hmaterialize : materialized e = false)
    (hread : readRaised e = true) : EffectEnded (log ++ [e]) := by
  intro s' _
  constructor
  · rintro (⟨e', he', heq⟩ | ⟨e', he', heq⟩)
    · rcases List.mem_append.mp he' with he' | he'
      · rw [h.unmaterialized e' he'] at heq
        cases heq
      · rw [List.mem_singleton.mp he', hmaterialize] at heq
        cases heq
    · rcases List.mem_append.mp he' with he' | he'
      · rw [h.unrestored e' he'] at heq
        cases heq
      · rw [List.mem_singleton.mp he', hrestore] at heq
        cases heq
  · intro hall
    have hfalse := hall e (List.mem_append_right _ (List.mem_singleton_self _))
    rw [hread] at hfalse
    cases hfalse

/-- A materialisation that returns, or a restoration, ends it well. -/
theorem Running.ended (h : Running s log) (hquiesce : quiesceReturned e = none)
    (hread : readRaised e = false) (hend : materialized e = true ∨ restoreCalled e = some s) :
    EffectEnded (log ++ [e]) := by
  intro s' hquiesced
  have hsame : s' = s := by
    obtain ⟨e', he', heq⟩ := hquiesced
    rcases List.mem_append.mp he' with he' | he'
    · exact h.only s' ⟨e', he', heq⟩
    · rw [List.mem_singleton.mp he', hquiesce] at heq
      cases heq
  have hlast : e ∈ log ++ [e] := List.mem_append_right _ (List.mem_singleton_self _)
  constructor
  · intro _ e' he'
    rcases List.mem_append.mp he' with he' | he'
    · exact h.read e' he'
    · rw [List.mem_singleton.mp he', hread]
  · intro _
    rcases hend with hmaterialized | hrestored
    · exact Or.inl ⟨e, hlast, hmaterialized⟩
    · rw [hsame]
      exact Or.inr ⟨e, hlast, hrestored⟩

/-- Nothing but own calls: no quiescence yet. -/
theorem effectEnded_own (hown : ∀ e ∈ log, OwnCall e.made) : EffectEnded log := by
  rintro s ⟨e, he, heq⟩
  rw [(aside_of_own (hown e he)).tells.1] at heq
  cases heq

/-- The guarded part: it completes, or runs on into the restoration. -/
theorem meets_advanceAndMaterialize (target current : Int) (h : Running s log) :
    Meets (logged serve) AllowedPrepare (Prepare.advanceAndMaterialize (μ := μ) target s current)
      (fun r log' => match r with
        | .ok _ => EffectEnded log'
        | .error _ => Running s log') log := by
  unfold Prepare.advanceAndMaterialize
  refine meets_bind.mpr (meets_lift.mpr ?_)
  cases epochTransition current target with
  | error e => exact h
  | ok transition =>
    refine meets_bind.mpr ⟨trivial, ?_⟩
    rintro advanced log₁ ⟨w₁, -, -, rfl⟩
    have h₁ : Running s (log ++ [⟨w₁, .user (.advance transition), advanced⟩]) :=
      h.call rfl rfl rfl rfl
    cases advanced with
    | error e => exact h₁
    | ok epoch =>
      refine meets_bind.mpr (meets_lift.mpr ?_)
      cases postgresRuntime epoch with
      | error e => exact h₁
      | ok runtime =>
        refine meets_bind.mpr ⟨⟨h₁.quiesced, h₁.unrestored⟩, ?_⟩
        rintro plists log₂ ⟨w₂, -, -, rfl⟩
        cases plists with
        | error e => exact h₁.call rfl rfl rfl rfl
        | ok plists => exact h₁.ended rfl rfl (Or.inl rfl)

theorem meets_prepareEffect (target : Int) (hown : ∀ e ∈ log, OwnCall e.made) :
    Meets (logged serve) AllowedPrepare (Prepare.effect (μ := μ) target)
      (fun _ log' => EffectEnded log') log := by
  unfold Prepare.effect
  refine meets_bind.mpr ⟨hown, ?_⟩
  rintro quiesced log₁ ⟨w₁, -, -, rfl⟩
  cases quiesced with
  | error e =>
    rintro s ⟨e', he', heq⟩
    rcases List.mem_append.mp he' with he' | he'
    · rw [(aside_of_own (hown e' he')).tells.1] at heq
      cases heq
    · rw [List.mem_singleton.mp he'] at heq
      cases heq
  | ok s =>
    have h₁ : Running s (log ++ [⟨w₁, .user .quiesceForCutover, .ok s⟩]) := by
      have htells : ∀ e ∈ log, _ := fun e he => (aside_of_own (hown e he)).tells
      refine ⟨⟨_, List.mem_append_right _ (List.mem_singleton_self _), rfl⟩, ?_, ?_, ?_, ?_⟩
      · rintro s' ⟨e', he', heq⟩
        rcases List.mem_append.mp he' with he' | he'
        · rw [(htells e' he').1] at heq
          cases heq
        · rw [List.mem_singleton.mp he'] at heq
          cases heq
          rfl
      all_goals
        intro e' he'
        rcases List.mem_append.mp he' with he' | he'
      · exact (htells e' he').2.2.2.2
      · cases List.mem_singleton.mp he'
        rfl
      · exact (htells e' he').2.1
      · cases List.mem_singleton.mp he'
        rfl
      · exact (htells e' he').2.2.2.1
      · cases List.mem_singleton.mp he'
        rfl
    refine meets_bind.mpr ⟨trivial, ?_⟩
    rintro current log₂ ⟨w₂, -, -, rfl⟩
    cases current with
    | error e => exact h₁.stranded rfl rfl rfl
    | ok current =>
      refine Meets.attemptBind
        (meets_advanceAndMaterialize target current (h₁.call rfl rfl rfl rfl))
        fun r log₃ h₃ => ?_
      cases r with
      | ok prepared => exact h₃
      | error e =>
        refine meets_bind.mpr ⟨⟨h₃.quiesced, h₃.unrestored⟩, ?_⟩
        rintro restored log₄ ⟨w₄, -, -, rfl⟩
        have hended := h₃.ended
          (e := ⟨w₄, .user (.restorePreCutover s), restored⟩) rfl rfl (Or.inr rfl)
        cases restored with
        | ok _ => exact hended
        | error error => exact hended

/-- The preparation is a deployment of one step. -/
theorem prepare_step (target : Int) :
    OneStep serve AllowedPrepare (Prepare.step (μ := μ) target)
      (fun evidence => Prepare.port (.persistResult evidence))
        (fun log => ∀ e ∈ log, OwnCall e.made)
      (fun _ => EffectEnded) (fun _ _ => EffectEnded) EffectEnded (fun _ => EffectEnded) where
  own := allowedPrepare_own
  start_own log more hmore h e he := (List.mem_append.mp he).elim (h e) (hmore e)
  done_own _ _ log more hmore h := h.append more fun e he => aside_of_own (hmore e he)
  persisted_own log more hmore h := h.append more fun e he => aside_of_own (hmore e he)
  failed_own _ log more hmore h := h.append more fun e he => aside_of_own (hmore e he)
  effect log h := by
    refine (meets_prepareEffect target h).mono fun r log' h' => ?_
    cases r <;> exact h'
  readback b log h := by
    refine ⟨trivial, ?_⟩
    rintro a log' ⟨w, -, -, rfl⟩
    have hended := h.append [⟨w, .user (.readbackPrepared b.runtimeTuple), a⟩] (by
      intro e he
      cases List.mem_singleton.mp he
      trivial)
    cases a <;> exact hended
  persist name b g log h := by
    refine ⟨trivial, ?_⟩
    rintro a log' ⟨w, -, -, rfl⟩
    have hended := h.append [⟨w, .user (.persistResult _), a⟩] (by
      intro e he
      cases List.mem_singleton.mp he
      trivial)
    cases a <;> exact hended

theorem meets_preparation (req : CutoverRequest) :
    Meets (logged serve) AllowedPrepare (preparation (μ := μ) req)
    (fun _ log => EffectEnded log) [] := by
  have hempty : ∀ e ∈ ([] : List (PrepareEvent ω μ)), OwnCall e.made := fun e he => nomatch he
  have hstep : OneStep serve AllowedPrepare
    (Prepare.step (μ := μ) req.approvedTargetEpoch) _ _ _ _ _ _ :=
    prepare_step req.approvedTargetEpoch
  have hrun := hstep.meets req.deployment hempty
  unfold preparation
  have hends : ∀ error log, StepEnds (fun log => ∀ e ∈ log, OwnCall e.made) (fun _ _ => EffectEnded)
      EffectEnded (fun _ => EffectEnded) (.error error) log → EffectEnded (ω := ω)
        (μ := μ) log := by
    rintro error log (hstart | hfailed | ⟨before, e, after, rfl, -, hown, hbefore⟩)
    · exact effectEnded_own hstart
    · exact hfailed
    · have hended : EffectEnded before := by
        rcases hbefore with ⟨_, _, h⟩ | h | ⟨_, h⟩ <;> exact h
      exact hended.append _ fun e' he' => aside_of_own (hown e' he')
  refine hrun.bind (fun evidence log h => ?_) hends
  exact meets_bind.mpr (meets_require.mpr ⟨fun _ => h.1, fun _ => h.1⟩)

/-! ## The files of a preparation -/

section Files

variable {port : LaunchdPort} {log : List (PrepareEvent WriterFiles μ)}
  {e : PrepareEvent WriterFiles μ}

/-- What the log tells of the files. -/
structure FilesKept (port : LaunchdPort) (files₀ files : WriterFiles)
    (log : List (PrepareEvent WriterFiles μ)) : Prop where
  before : (∀ e ∈ log, OwnCall e.made) → files = files₀
  only : ∀ s s', QuiescedWith s log → QuiescedWith s' log → s = s'
  captures : ∀ s, QuiescedWith s log → Captures s files₀
  stays : ∀ s, QuiescedWith s log → Stays (touched port s) files₀ files
  restored : ∀ s, (∃ e ∈ log, restoreReturned e = some s) → Brought port s files₀ files

theorem restoreReturned_called (h : restoreReturned e = some s) : restoreCalled e = some s := by
  obtain ⟨w, c, a⟩ := e
  cases c with
  | user c =>
    cases c with
    | restorePreCutover s' =>
      cases a with
      | ok _ => exact h
      | error error => cases h
    | _ => cases h
  | _ => cases h

/-- A call that leaves the files alone, and tells nothing of them. -/
theorem FilesKept.aside (h : FilesKept port files₀ files log) (hquiesce : quiesceReturned e = none)
    (hrestore : restoreReturned e = none) : FilesKept port files₀ files (log ++ [e]) := by
  have hquiesced : ∀ s, QuiescedWith s (log ++ [e]) → QuiescedWith s log := by
    rintro s ⟨e', he', heq⟩
    rcases List.mem_append.mp he' with he' | he'
    · exact ⟨e', he', heq⟩
    · rw [List.mem_singleton.mp he', hquiesce] at heq
      cases heq
  refine ⟨fun hown => h.before fun e' he' => hown e' (List.mem_append_left _ he'),
    fun s s' hs hs' => h.only s s' (hquiesced s hs) (hquiesced s' hs'),
    fun s hs => h.captures s (hquiesced s hs), fun s hs => h.stays s (hquiesced s hs), ?_⟩
  rintro s ⟨e', he', heq⟩
  rcases List.mem_append.mp he' with he' | he'
  · exact h.restored s ⟨e', he', heq⟩
  · rw [List.mem_singleton.mp he', hrestore] at heq
    cases heq

/-- A call that changes files the port may touch, of which the log does not say that they have
been restored. -/
theorem FilesKept.touch (h : FilesKept port files₀ files log) (hquiesced : QuiescedWith s log)
    (hquiesce : quiesceReturned e = none) (hown : ¬ OwnCall e.made)
    (hunrestored : ∀ e ∈ log, restoreCalled e = none)
    (hstays : Stays (touched port s) files₀ files')
    (hrestored : restoreReturned e = some s → Brought port s files₀ files')
    (hothers : ∀ s', restoreReturned e = some s' → s' = s) :
    FilesKept port files₀ files' (log ++ [e]) := by
  have hbefore : ∀ s, QuiescedWith s (log ++ [e]) → QuiescedWith s log := by
    rintro s ⟨e', he', heq⟩
    rcases List.mem_append.mp he' with he' | he'
    · exact ⟨e', he', heq⟩
    · rw [List.mem_singleton.mp he', hquiesce] at heq
      cases heq
  refine ⟨fun hall => ?_, fun s s' hs hs' => h.only s s' (hbefore s hs) (hbefore s' hs'),
    fun s hs => h.captures s (hbefore s hs), fun s' hs' => ?_, ?_⟩
  · exact absurd (hall e (List.mem_append_right _ (List.mem_singleton_self _))) hown
  · rw [h.only s' s (hbefore s' hs') hquiesced]
    exact hstays
  · rintro s' ⟨e', he', heq⟩
    rcases List.mem_append.mp he' with he' | he'
    · have hcalled := restoreReturned_called heq
      rw [hunrestored e' he'] at hcalled
      cases hcalled
    · rw [List.mem_singleton.mp he'] at heq
      cases hothers s' heq
      exact hrestored heq

/-- A quiescence that returns has changed no file. -/
theorem quiesces_ok {r : Except PyError CleanerRuntimeSnapshot}
    (h : Steps (RuntimeServes (Restores port)) (Runtime.quiesceForCutover port) files
    (.done r) files')
    (hok : r = .ok s) : files' = files ∧ Captures s files := by
  obtain ⟨more, hmore⟩ := h.followed []
  rcases (meets_quiesceForCutover port files).ended hmore with
    ⟨⟨hsame, -⟩, hcaptures⟩ | ⟨_, _, _, _, -, -, -, -, -, error, herror⟩
  · exact ⟨hsame, hcaptures s hok⟩
  · rw [hok] at herror
    cases herror

/-- Every call keeps it, when the calls before allow it. -/
theorem FilesKept.step {c : ControlCall (CutoverCall μ CleanerCutoverPrepared)}
    {a : Except (ControlError CleanerCutoverPrepared μ)
      (ControlAnswer (CutoverAnswer (μ := μ) (δ := CleanerCutoverPrepared)) c)} {w : WriterFiles}
    (h : FilesKept port files₀ w log) (hallowed : AllowedPrepare log c)
    (hserve : PrepareServes port w c a files') :
    FilesKept port files₀ files' (log ++ [⟨w, c, a⟩]) := by
  cases c with
  | user c =>
    cases c with
    | quiesceForCutover =>
      obtain ⟨r, rfl, hsteps⟩ := hserve
      cases h.before hallowed
      have hnone : ∀ e ∈ log, quiesceReturned e = none ∧ restoreReturned e = none := fun e he =>
        ⟨(aside_of_own (hallowed e he)).tells.1, (aside_of_own (hallowed e he)).tells.2.2.1⟩
      have hunrestored : ∀ s, ¬ ∃ e ∈ log ++ [(⟨files₀, .user .quiesceForCutover, portRaised r⟩ :
          PrepareEvent WriterFiles μ)], restoreReturned e = some s := by
        rintro s ⟨e, he, heq⟩
        rcases List.mem_append.mp he with he | he
        · rw [(hnone e he).2] at heq
          cases heq
        · cases List.mem_singleton.mp he
          cases heq
      have hown : ¬ ∀ e ∈ log ++ [(⟨files₀, .user .quiesceForCutover, portRaised r⟩ :
          PrepareEvent WriterFiles μ)], OwnCall e.made := fun hall =>
        hall _ (List.mem_append_right _ (List.mem_singleton_self _))
      have hlast : ∀ s, QuiescedWith s (log ++ [(⟨files₀, .user .quiesceForCutover, portRaised r⟩ :
          PrepareEvent WriterFiles μ)]) → r = .ok s := by
        rintro s ⟨e, he, heq⟩
        rcases List.mem_append.mp he with he | he
        · rw [(hnone e he).1] at heq
          cases heq
        · cases List.mem_singleton.mp he
          cases r with
          | ok s' =>
            cases heq
            rfl
          | error e => cases heq
      refine ⟨fun hall => absurd hall hown, fun s s' hs hs' => ?_, fun s hs => ?_, fun s hs => ?_,
        fun s hs => absurd hs (hunrestored s)⟩
      · exact Except.ok.inj ((hlast s hs).symm.trans (hlast s' hs'))
      · exact (quiesces_ok hsteps (hlast s hs)).2
      · rw [(quiesces_ok hsteps (hlast s hs)).1]
        exact Stays.refl _ _
    | materializePostgresRuntime s runtime =>
      obtain ⟨r, rfl, hsteps⟩ := hserve
      obtain ⟨hquiesced, hunrestored⟩ := hallowed
      have hstays := (meets_materializePostgresRuntime port s runtime).ended hsteps
      refine h.touch hquiesced rfl id hunrestored ((h.stays s hquiesced).trans hstays) ?_ ?_
      · intro heq
        cases heq
      · intro s' heq
        cases heq
    | restorePreCutover s =>
      obtain ⟨r, rfl, hsteps⟩ := hserve
      obtain ⟨hquiesced, hunrestored⟩ := hallowed
      have hended := (meets_restore (h.captures s hquiesced) (h.stays s hquiesced)).ended hsteps
      refine h.touch hquiesced rfl id hunrestored hended.1 ?_ ?_
      · intro heq
        cases r with
        | ok _ => exact hended.2 rfl
        | error e => cases heq
      · intro s' heq
        cases r with
        | ok _ =>
          cases heq
          rfl
        | error e => cases heq
    | _ =>
      cases hserve
      exact h.aside rfl rfl
  | _ =>
    cases hserve
    exact h.aside rfl rfl

theorem filesKept {α : Type} {p p' : PrepareScript μ α} {files : WriterFiles}
    (h : Steps (traced (PrepareServes port)) p (files₀, []) p' (files, log))
    (hallowed : Each (fun before e => AllowedPrepare before e.made) log) :
    FilesKept port files₀ files log := by
  have hinv : Each (fun before e => AllowedPrepare before e.made) log →
    FilesKept port files₀ files log := by
    refine Steps.invariant (P := fun s : WriterFiles × List (PrepareEvent WriterFiles μ) =>
      Each (fun before e => AllowedPrepare before e.made) s.2 →
        FilesKept port files₀ s.1 s.2) h ?_ ?_
    · intro _
      refine ⟨fun _ => rfl, ?_, ?_, ?_, ?_⟩
      · rintro s s' ⟨e, he, -⟩
        cases he
      · rintro s ⟨e, he, -⟩
        cases he
      · rintro s ⟨e, he, -⟩
        cases he
      · rintro s ⟨e, he, -⟩
        cases he
    · rintro ⟨w, log⟩ c a ⟨w', log'⟩ ih ⟨hserve, hlog⟩ heach
      replace hlog : log' = log ++ [⟨w, c, a⟩] := hlog
      subst hlog
      have hbefore : Each (fun before e => AllowedPrepare before e.made) log := fun b e after hb =>
        heach b e (after ++ [⟨w, c, a⟩]) (by rw [hb]; simp)
      exact (ih hbefore).step (heach log ⟨w, c, a⟩ [] rfl) hserve
  exact hinv hallowed

/-- **A failed preparation.** Whatever its ports answer, a preparation that has ended with its
writers quiesced has handed them over or is restoring them, with the snapshot that the
quiescence has returned, if and only if no read of the epoch has raised. Of the files, in any
run: only those of the snapshot and W07's have been written, new names of theirs aside; and a
restoration that returns, in the effect or in the quiescence, leaves each with its bytes, or its
absence, from before, if W07 was captured in its place or was not there; one that was there and
was not captured is removed. -/
theorem preparation_restores (μ : Type) (port : LaunchdPort) (req : CutoverRequest) :
    (∀ (ω : Type) (serve : ω → (c : ControlCall (CutoverCall μ CleanerCutoverPrepared)) →
        Except (ControlError CleanerCutoverPrepared μ)
          (ControlAnswer (CutoverAnswer (μ := μ) (δ := CleanerCutoverPrepared)) c) →
          ω → Prop) r log,
      Steps (logged serve) (preparation (μ := μ) req) [] (.done r) log →
      (∀ s, QuiescedWith s log → (NotStranded s log ↔ EpochRead log)) ∧
      ∀ before e after s, log = before ++ e :: after → restoreCalled e = some s →
        QuiescedWith s before) ∧
    (∀ files₀ files p log,
      Steps (traced (PrepareServes port)) (preparation (μ := μ) req) (files₀, []) p (files, log) →
      (∀ s, QuiescedWith s log → Stays (touched port s) files₀ files) ∧
      ∀ e ∈ log, ∀ s, restoreReturned e = some s → Brought port s files₀ files) ∧
    (∀ files₀ files p log,
      Steps (traced (RuntimeServes (Restores port))) (Runtime.quiesceForCutover port) (files₀, []) p
        (files, log) →
      ∀ e ∈ log, ∀ s, e.made = .restorePreCutover s → Stays (touched port s) files₀ files ∧
        (e.Gave (.restorePreCutover s) () → Brought port s files₀ files)) := by
  refine ⟨fun ω serve r log h => ⟨?_, fun before e after s hlog hcalled => ?_⟩,
    fun files₀ files p log h => ?_,
    fun files₀ files p log h e he s hmade => ?_⟩
  · exact (meets_preparation req).ended h
  · have heach : Each (fun before e => AllowedPrepare before e.made) log :=
      Steps.each (meets_preparation req) Each.nil h
    have hallowed := heach before e after hlog
    obtain ⟨w, c, a⟩ := e
    cases c with
    | user c =>
      cases c with
      | restorePreCutover s' =>
        cases hcalled
        exact hallowed.1
      | _ => cases hcalled
    | _ => cases hcalled
  · have heach : Each (fun before e => AllowedPrepare before e.made) log :=
      Steps.each (meets_preparation req) Each.nil h.to_logged
    have hkept := filesKept h heach
    exact ⟨hkept.stays, fun e he s heq => hkept.restored s ⟨e, he, heq⟩⟩
  · have hrest := (meets_quiesceForCutover port files₀).steps h
    have hundisturbed : ∀ {st : WriterFiles × List RuntimeEvent}, Undisturbed files₀ st →
        ∀ e ∈ st.2, e.made ≠ .restorePreCutover s := by
      intro st hst e he hmade
      have hquiet := hst.2 e he
      rw [hmade] at hquiet
      exact hquiet
    cases p with
    | call c k => exact absurd hmade (hundisturbed hrest.1.1 e he)
    | done r =>
      rcases hrest with ⟨hst, -⟩ | ⟨before, w, s', a, hlog, hquiet, hcaptures, hstays, hrestored, -⟩
      · exact absurd hmade (hundisturbed hst e he)
      · replace hlog : log = before ++ [⟨w, .restorePreCutover s', a⟩] := hlog
        rw [hlog] at he
        rcases List.mem_append.mp he with he | he
        · have hquiet' := hquiet e he
          rw [hmade] at hquiet'
          exact hquiet'.elim
        · cases List.mem_singleton.mp he
          cases hmade
          refine ⟨hstays, ?_⟩
          rintro ⟨w', heq⟩
          cases heq
          exact hrestored rfl

end Files

/-! ## Ports to run on -/

def samplePrepareAnswer : (c : ControlCall (CutoverCall Nat CleanerCutoverPrepared)) →
    ControlAnswer (CutoverAnswer (μ := Nat) (δ := CleanerCutoverPrepared)) c
  | .writerEvents => []
  | .schemaVersion => some 10
  | .newAttempt => "attempt"
  | .monotonic => (0 : Int)
  | .acquire _ | .assertCurrent .. | .release _ => sampleRow
  | .nestedAuthority => false
  | .heartbeatError => none
  | .user .readCurrent => (1 : Int)
  | .user (.advance t) => t.targetEpoch
  | .user .quiesceForCutover => sampleSnapshot
  | .user (.materializePostgresRuntime ..) => []
  | .user (.materializeW07AuthorizedIdentity ..) => "sha"
  | .user (.readbackPrepared _) | .user (.activatePostgresRuntime ..)
  | .user (.readbackEffective ..) => (7 : Nat)
  | .revalidate | .sleep _ | .startHeartbeat | .stopHeartbeat | .user .validateActivationBinding
  | .user (.restorePreCutover _) | .user (.quiesceAfterFailedActivation _)
  | .user (.persistResult _) => ()

def samplePrepareRespond (fails : ControlCall (CutoverCall Nat CleanerCutoverPrepared) → Bool)
    (_ : Unit × List (PrepareEvent Unit Nat))
    (c : ControlCall (CutoverCall Nat CleanerCutoverPrepared)) :
    Except (ControlError CleanerCutoverPrepared Nat)
      (ControlAnswer (CutoverAnswer (μ := Nat) (δ := CleanerCutoverPrepared)) c) × Unit :=
  if fails c then (.error (.raised (.raised "OSError" "")), ()) else
    (.ok (samplePrepareAnswer c), ())

/-- Ports that answer anything. -/
def AnswerAnything (_ : Unit) (c : ControlCall (CutoverCall Nat CleanerCutoverPrepared))
    (_ : Except (ControlError CleanerCutoverPrepared Nat)
      (ControlAnswer (CutoverAnswer (μ := Nat) (δ := CleanerCutoverPrepared)) c)) (_ : Unit) : Prop :=
  True

theorem samplePrepareRespond_serves
    (fails : ControlCall (CutoverCall Nat CleanerCutoverPrepared) → Bool)
    (s : Unit × List (PrepareEvent Unit Nat))
    (c : ControlCall (CutoverCall Nat CleanerCutoverPrepared)) :
    AnswerAnything s.1 c (samplePrepareRespond fails s c).1 (samplePrepareRespond fails s c).2 :=
  trivial

def samplePrepareRun (fails : ControlCall (CutoverCall Nat CleanerCutoverPrepared) → Bool) :
    Option (Except (ControlError CleanerCutoverPrepared Nat)
    (List (EffectEvidence CleanerCutoverPrepared Nat)) ×
      Unit × List (PrepareEvent Unit Nat)) :=
  play (samplePrepareRespond fails) 100 (preparation sampleRequest) ((), [])

def readsEpoch : ControlCall (CutoverCall Nat CleanerCutoverPrepared) → Bool
  | .user .readCurrent => true
  | _ => false

/-- The epoch cannot be read: the writers stay quiesced, and nobody is called to bring them
back. -/
theorem preparation_stranded : ∃ error log,
    Steps (logged AnswerAnything) (preparation (μ := Nat) sampleRequest) []
    (.done (.error error)) log ∧
    QuiescedWith sampleSnapshot log ∧ ¬ NotStranded sampleSnapshot log := by
  have hrun : (samplePrepareRun readsEpoch).any (fun p =>
      !p.1.isOk && p.2.2.any (fun e => quiesceReturned e = some sampleSnapshot) &&
        p.2.2.all fun e => !materialized e && (restoreCalled e).isNone) = true := by
    decide +kernel
  cases hplay : samplePrepareRun readsEpoch with
  | none =>
    rw [hplay] at hrun
    cases hrun
  | some p =>
    obtain ⟨r, u, log⟩ := p
    rw [hplay] at hrun
    rw [Option.any_some, Bool.and_eq_true, Bool.and_eq_true] at hrun
    obtain ⟨⟨herror, hquiesced⟩, hall⟩ := hrun
    cases r with
    | ok evidence => cases herror
    | error error =>
      have hsteps := (play_steps (samplePrepareRespond_serves _) hplay).to_logged
      refine ⟨error, log, hsteps, ?_, ?_⟩
      · obtain ⟨e, he, heq⟩ := List.any_eq_true.mp hquiesced
        exact ⟨e, he, of_decide_eq_true heq⟩
      · rintro (⟨e, he, hmaterialized⟩ | ⟨e, he, hrestored⟩)
        · have hnot := List.all_eq_true.mp hall e he
          rw [hmaterialized] at hnot
          cases hnot
        · have hnot := List.all_eq_true.mp hall e he
          rw [hrestored, Bool.and_eq_true] at hnot
          cases hnot.2

end Preparing

end Adcp.L5.Cutover
