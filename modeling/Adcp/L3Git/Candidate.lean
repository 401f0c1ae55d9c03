import Adcp.L3Git.Trees
import Adcp.L3Store.Candidates

/-!
# Candidates and commits

The delta of a worktree against its base, the hash that the delta is reviewed
under, and the check that a commit is that delta.

* `materializeUncommittedCandidate`: from a worktree to the binding that the store
  keeps of it.
* `verifyCommittedCandidate`: the same of a commit, compared with the binding.
* `aggregate`: the framed byte string both hash.
* `DeltaItem.Of`, `deltaItem_ok`: how an entry and the worktree fit together.
* `materialize_ok`, `committedItem_ok`: what each step has found.
-/
namespace Adcp.L3

open Adcp.L1 Adcp.L2

/-! ## The aggregate hash -/

/-- A path with the bytes the candidate has there. -/
structure PathContent where
  path : List UInt8
  content : List UInt8
  deriving DecidableEq, Repr

def ascii (s : String) : List UInt8 := Sha256.utf8 s.toList

/-- mirrors src/adcp/controller.py:248-250 -/
def PathContent.block (i : PathContent) : List UInt8 :=
  ascii "PATH\x00" ++ frame i.path ++ (ascii "CONTENT\x00" ++ frame i.content)

/-- mirrors src/adcp/controller.py:215-217,249-250 and :285-287,310-311 -/
def aggregate (base : String) (items : List PathContent) : List UInt8 :=
  ascii "ADCP_INTEGRATED_CANDIDATE_V1\x00" ++ (ascii "BASE_HEAD\x00" ++ frame (ascii base)) ++
    items.flatMap PathContent.block

/-- `base.encode("ascii")`, and its length in eight bytes. -/
def encodeBase (base : String) : Except PyError Unit := do
  guardPure (base.toList.all fun c => c.toNat < 128) (.raised "UnicodeEncodeError" base)
  guardPure (Framed (ascii base)) (.raised "error" "format requires 0 <= number")

def PathContent.pack (i : PathContent) : Except PyError Unit :=
  guardPure (Framed i.path ∧ Framed i.content) (.raised "error" "format requires 0 <= number")

/-! ## Materialisation -/

structure CandidateWorktree where
  executionId : String
  baseCommit : String
  branch : String

/-- One entry of the manifest, with the bytes it is about. -/
structure DeltaItem where
  entry : CandidateManifestEntry
  content : List UInt8
  deriving DecidableEq, Repr

def DeltaItem.pathContent (i : DeltaItem) : PathContent := ⟨pathBytes i.entry.path, i.content⟩

def changedAfterHandoff (detail : String) : PyError :=
  .controller "CANDIDATE_CHANGED_AFTER_HANDOFF" detail

/-- mirrors src/adcp/controller.py:182-191 -/
def worktreeBytes (path : String) : Node → Except PyError (String × List UInt8)
  | .link target =>
    match Sha256.ofUtf8 target with
    | some _ => .ok ("120000", target)
    | none => .error (.controller "CANDIDATE_MATERIALIZATION_FAILED" path)
  | .file executable content => .ok (if executable then "100755" else "100644", content)
  | .other => .error (.controller "INVALID_CANDIDATE_FILE_TYPE" path)

/-- The entry of one changed path; `before` is what `ls-tree` says of it.
mirrors src/adcp/controller.py:227-238 -/
def deltaEntry (w : Worktree) (path : String) (before : Option TreeEntry) :
    Except PyError DeltaItem :=
  match w.node? (pathBytes path) with
  | some node => do
    let (mode, content) ← worktreeBytes path node
    pure ⟨{ operation := if before.isNone then "A" else "M", path := path, mode := mode
            byteLength := some content.length, contentSha256 := some (Sha256.hexdigest content)
            baseObjectId := none }, content⟩
  | none =>
    match before with
    | some e => pure ⟨{ operation := "D", path := path, mode := e.mode, byteLength := none
                        contentSha256 := none, baseObjectId := some e.objectId }, []⟩
    | none => throw (.controller "CANDIDATE_MATERIALIZATION_FAILED" path)

/-- mirrors src/adcp/controller.py:218-250 -/
def deltaItem (g : Repository) (base : Tree) (w : Worktree) (raw : RepoPath) :
    Except PyError DeltaItem := do
  let path ← candidatePath raw
  let before := g.lsTree base (pathBytes path)
  guardPure (before.all (·.kind = "blob") = true) (.controller "INVALID_CANDIDATE_FILE_TYPE" path)
  guardPure (w.escapes (pathBytes path) = false) (.controller "CANDIDATE_PATH_ESCAPE" path)
  let item ← deltaEntry w path before
  item.entry.validate.mapError asControllerError
  item.pathContent.pack
  pure item

/-- mirrors src/adcp/controller.py:252-259 -/
def candidateManifest (identity base : String) (items : List DeltaItem) (digest : String) : Json :=
  .obj [("serialization_format", .str "ADCP_INTEGRATED_CANDIDATE_V1"),
    ("serialization_version", .int 1), ("repository_identity", .str identity),
    ("expected_parent", .str base), ("entries", .arr (items.map (·.entry.json))),
    ("candidate_content_sha256", .str digest)]

/-- The delta of a worktree against its base.
mirrors src/adcp/controller.py:200-250 -/
def candidateDelta (g : Repository) (c : CandidateWorktree) (w : Worktree) :
    Except PyError (List DeltaItem) := do
  guardPure (w.head = c.baseCommit) (changedAfterHandoff "expected parent drift")
  guardPure (w.branch = some c.branch) (changedAfterHandoff "branch drift")
  let base ← g.commit c.baseCommit
  guardPure (w.changed base.tree ≠ []) (.controller "EMPTY_CANDIDATE" "")
  encodeBase c.baseCommit
  (w.changed base.tree).mapM (deltaItem g base.tree w)

/-- `resolve` is the file system's answer for the repository identity.
mirrors src/adcp/controller.py:193-265 -/
def materializeUncommittedCandidate (g : Repository) (c : CandidateWorktree) (w : Worktree)
    (resolve : Except PyError String) : Except PyError PrecommitBinding := do
  let items ← candidateDelta g c w
  let digest := Sha256.hexdigest (aggregate c.baseCommit (items.map DeltaItem.pathContent))
  let identity ← resolve
  let manifestJson ← canonicalJson (candidateManifest identity c.baseCommit items digest)
  let sha := Sha256.hexdigest (Sha256.utf8 manifestJson.toList)
  pure { candidateId := "candidate-" ++ c.executionId ++ "-" ++ sha, executionId := c.executionId
         serializationFormat := "ADCP_INTEGRATED_CANDIDATE_V1", serializationVersion := 1
         repositoryIdentity := identity, expectedParent := c.baseCommit
         manifestJson := manifestJson, manifestSha256 := sha, candidateContentSha256 := digest }

/-! ## Verification of a commit -/

/-- The row the store keeps of a binding. -/
def PrecommitBinding.row (b : PrecommitBinding) (now : Timestamp) : CandidateContentBinding :=
  { candidateId := b.candidateId, executionId := b.executionId
    serializationFormat := b.serializationFormat, serializationVersion := b.serializationVersion
    repositoryIdentity := b.repositoryIdentity, expectedParent := b.expectedParent
    manifestJson := b.manifestJson, manifestSha256 := b.manifestSha256
    candidateContentSha256 := b.candidateContentSha256, createdAt := now }

/-- `manifest["entries"]`, and the path of each. -/
def manifestEntries (manifest : Json) : Except PyError (List Json × List String) := do
  let entries ← match manifest.get? "entries" with
    | some (.arr items) => .ok items
    | _ => .error (.raised "KeyError" "entries")
  let paths ← entries.mapM fun e => match (e.get? "path").bind Json.asStr? with
    | some path => .ok path
    | none => .error (.raised "KeyError" "path")
  pure (entries, paths)

/-- What a commit has at the path of an entry, if it did to its parent what the entry
says.
mirrors src/adcp/controller.py:295-311 -/
def committedContent (g : Repository) (entry : CandidateManifestEntry)
    (before after : Option TreeEntry) : Except PyError (List UInt8) := do
  guardPure (¬ (entry.operation = "A" ∧ before.isSome ∨
    entry.operation ∈ ["M", "D"] ∧ before.isNone)) (changedAfterHandoff "committed action")
  if entry.operation = "D" then do
    guardPure (after = none ∧ (before.any fun e =>
        e.mode = entry.mode ∧ e.kind = "blob" ∧ some e.objectId = entry.baseObjectId) = true)
      (changedAfterHandoff "deletion identity")
    pure []
  else
    match after with
    | none => throw (changedAfterHandoff "committed mode")
    | some found => do
      guardPure (found.mode = entry.mode ∧ found.kind = "blob")
        (changedAfterHandoff "committed mode")
      let content := g.catFile found.objectId
      guardPure (some (content.length : Int) = entry.byteLength ∧
          some (Sha256.hexdigest content) = entry.contentSha256)
        (changedAfterHandoff "committed bytes")
      pure content

/-- mirrors src/adcp/controller.py:288-311 -/
def committedItem (g : Repository) (parent tree : Tree) (v : Json) : Except PyError PathContent := do
  let entry ← CandidateManifestEntry.ofJson v
  entry.validate
  let _ ← candidatePath (pathBytes entry.path)
  let content ← committedContent g entry (g.lsTree parent (pathBytes entry.path))
    (g.lsTree tree (pathBytes entry.path))
  let item : PathContent := ⟨pathBytes entry.path, content⟩
  item.pack
  pure item

/-- mirrors src/adcp/controller.py:268-313 -/
def verifyCommittedCandidate (g : Repository) (resultCommit : String)
    (stored : CandidateContentBinding) : Except PyError Unit := do
  let commit ← g.commit resultCommit
  guardPure (commit.parents = [stored.expectedParent]) (changedAfterHandoff "commit parent")
  let manifest ← jsonLoads stored.manifestJson
  let text ← canonicalJson manifest
  let sha ← canonicalSha256 manifest
  guardPure (text = stored.manifestJson ∧ sha = stored.manifestSha256)
    (changedAfterHandoff "manifest")
  let (entries, paths) ← manifestEntries manifest
  guardPure (paths.map pathBytes = sortedPaths (paths.map pathBytes))
    (changedAfterHandoff "path ordering")
  let parent ← g.commit stored.expectedParent
  let actual ← (parent.tree.diff commit.tree).mapM decodeStrict
  guardPure ((∀ p ∈ actual, p ∈ paths) ∧ ∀ p ∈ paths, p ∈ actual)
    (changedAfterHandoff "committed path set")
  encodeBase stored.expectedParent
  let items ← entries.mapM (committedItem g parent.tree commit.tree)
  guardPure (Sha256.hexdigest (aggregate stored.expectedParent items) =
    stored.candidateContentSha256) (changedAfterHandoff "committed aggregate")

/-! ## What they do -/

theorem pathBytes_inj {a b : String} (h : pathBytes a = pathBytes b) : a = b :=
  String.toList_inj.mp (Sha256.utf8_inj h)

/-- Decoded paths are those with the bytes. -/
theorem decodeAll_ok {l : List RepoPath} {paths : List String} :
    l.mapM decodeStrict = .ok paths ↔ paths.map pathBytes = l := by
  rw [except_mapM_ok]
  constructor
  · intro h
    induction h with
    | nil => rfl
    | cons hp _ ih => rw [List.map_cons, ih, pathBytes, decodeStrict_ok.mp hp]
  · rintro rfl
    rw [List.forall₂_map_left_iff]
    exact List.forall₂_same.mpr fun path _ => decodeStrict_ok.mpr rfl

theorem worktreeBytes_ok {path mode : String} {node : Node} {content : List UInt8}
    (h : worktreeBytes path node = .ok (mode, content)) : node.blob? = some ⟨mode, content⟩ := by
  cases node with
  | file executable bytes =>
    cases h
    rfl
  | link target =>
    unfold worktreeBytes at h
    dsimp only at h
    cases htext : Sha256.ofUtf8 target with
    | none =>
      rw [htext] at h
      cases h
    | some cs =>
      rw [htext] at h
      cases h
      rfl
  | other => cases h

/-- The item of a path at which the worktree has something. -/
structure DeltaItem.Present (i : DeltaItem) (before : Option TreeEntry) (blob : Blob) : Prop where
  operation : i.entry.operation = if before.isNone then "A" else "M"
  mode : i.entry.mode = blob.mode
  content : i.content = blob.content
  length : i.entry.byteLength = some (blob.content.length : Int)
  sha : i.entry.contentSha256 = some (Sha256.hexdigest blob.content)

/-- The item of a path that the worktree no longer has. -/
structure DeltaItem.Gone (i : DeltaItem) (e : TreeEntry) : Prop where
  operation : i.entry.operation = "D"
  mode : i.entry.mode = e.mode
  content : i.content = []
  base : i.entry.baseObjectId = some e.objectId

/-- The item `i` is the worktree's delta at `raw`. -/
structure DeltaItem.Of (g : Repository) (base : Tree) (w : Worktree) (raw : RepoPath)
    (i : DeltaItem) : Prop where
  path : pathBytes i.entry.path = raw
  candidate : candidatePath raw = .ok i.entry.path
  blob : ∀ e, g.lsTree base raw = some e → e.kind = "blob"
  found : (∃ b, w.blob? raw = some b ∧ i.Present (g.lsTree base raw) b) ∨
    w.node? raw = none ∧ ∃ e, g.lsTree base raw = some e ∧ i.Gone e
  valid : i.entry.validate = .ok ()
  framed : Framed i.pathContent.path ∧ Framed i.pathContent.content

theorem deltaEntry_ok {w : Worktree} {path : String} {before : Option TreeEntry} {i : DeltaItem}
    (h : deltaEntry w path before = .ok i) : i.entry.path = path ∧
      ((∃ b, w.blob? (pathBytes path) = some b ∧ i.Present before b) ∨
        w.node? (pathBytes path) = none ∧ ∃ e, before = some e ∧ i.Gone e) := by
  unfold deltaEntry at h
  cases hnode : w.node? (pathBytes path) with
  | some node =>
    rw [hnode] at h
    obtain ⟨⟨mode, content⟩, hbytes, h⟩ := except_bind_ok.mp h
    cases h
    refine ⟨rfl, Or.inl ⟨⟨mode, content⟩, ?_, ⟨rfl, rfl, rfl, rfl, rfl⟩⟩⟩
    rw [Worktree.blob?, hnode]
    exact worktreeBytes_ok hbytes
  | none =>
    rw [hnode] at h
    cases before with
    | none => cases h
    | some e =>
      cases h
      exact ⟨rfl, Or.inr ⟨rfl, e, rfl, ⟨rfl, rfl, rfl, rfl⟩⟩⟩

theorem deltaItem_ok {g : Repository} {base : Tree} {w : Worktree} {raw : RepoPath}
    {i : DeltaItem} (h : deltaItem g base w raw = .ok i) : i.Of g base w raw := by
  unfold deltaItem PathContent.pack at h
  obtain ⟨path, hpath, h⟩ := except_bind_ok.mp h
  have hraw : pathBytes path = raw := candidatePath_ok hpath
  rw [hraw] at h
  obtain ⟨hblob, h⟩ := guardPure_bind_ok.mp h
  obtain ⟨-, h⟩ := guardPure_bind_ok.mp h
  obtain ⟨item, hitem, h⟩ := except_bind_ok.mp h
  obtain ⟨u, hvalid, h⟩ := except_bind_ok.mp h
  obtain ⟨hframed, h⟩ := guardPure_bind_ok.mp h
  cases h
  obtain ⟨rfl, hfound⟩ := deltaEntry_ok hitem
  rw [hraw] at hfound
  refine ⟨hraw, hpath, fun e he => ?_, hfound, mapError_ok.mp hvalid, hframed⟩
  rw [he] at hblob
  simpa using hblob

/-- The items of a delta are those of the changed paths, in their order. -/
theorem candidateDelta_ok {g : Repository} {c : CandidateWorktree} {w : Worktree}
    {items : List DeltaItem} (h : candidateDelta g c w = .ok items) :
    ∃ base, g.commit? c.baseCommit = some base ∧ encodeBase c.baseCommit = .ok () ∧
      List.Forall₂ (fun raw i => i.Of g base.tree w raw) (w.changed base.tree) items := by
  unfold candidateDelta at h
  obtain ⟨-, h⟩ := guardPure_bind_ok.mp h
  obtain ⟨-, h⟩ := guardPure_bind_ok.mp h
  obtain ⟨base, hbase, h⟩ := except_bind_ok.mp h
  obtain ⟨-, h⟩ := guardPure_bind_ok.mp h
  obtain ⟨u, hencode, h⟩ := except_bind_ok.mp h
  exact ⟨base, Repository.commit_ok.mp hbase, hencode,
    (except_mapM_ok.mp h).imp fun _ _ => deltaItem_ok⟩

theorem encodeBase_ok {base : String} (h : ∀ c ∈ base.toList, c.toNat < 128)
    (hframed : Framed (ascii base)) : encodeBase base = .ok () :=
  guardPure_bind_ok.mpr ⟨List.all_eq_true.mpr fun c hc => decide_eq_true (h c hc),
    guardPure_ok.mpr hframed⟩

/-- What a commit has at the path of an entry that was written and read back. -/
theorem committedItem_sorted {g : Repository} {parent tree : Tree} {i : DeltaItem}
    {x : PathContent} : committedItem g parent tree i.entry.json.sorted = .ok x ↔
      i.entry.validate = .ok () ∧ (∃ path, candidatePath (pathBytes i.entry.path) = .ok path) ∧
      committedContent g i.entry (g.lsTree parent (pathBytes i.entry.path))
        (g.lsTree tree (pathBytes i.entry.path)) = .ok x.content ∧
      x.path = pathBytes i.entry.path ∧ Framed x.path ∧ Framed x.content := by
  unfold committedItem PathContent.pack
  rw [CandidateManifestEntry.ofJson_sorted]
  constructor
  · intro h
    obtain ⟨entry, hentry, h⟩ := except_bind_ok.mp h
    cases hentry
    obtain ⟨u, hvalid, h⟩ := except_bind_ok.mp h
    obtain ⟨path, hpath, h⟩ := except_bind_ok.mp h
    obtain ⟨content, hcontent, h⟩ := except_bind_ok.mp h
    obtain ⟨hframed, h⟩ := guardPure_bind_ok.mp h
    cases h
    exact ⟨hvalid, ⟨path, hpath⟩, hcontent, rfl, hframed.1, hframed.2⟩
  · obtain ⟨path, content⟩ := x
    rintro ⟨hvalid, ⟨text, htext⟩, hcontent, hpath, hframed⟩
    subst hpath
    exact except_bind_ok.mpr ⟨_, rfl, except_bind_ok.mpr ⟨_, hvalid, except_bind_ok.mpr ⟨_, htext,
      except_bind_ok.mpr ⟨_, hcontent, guardPure_bind_ok.mpr ⟨hframed, rfl⟩⟩⟩⟩⟩

/-- The binding that a materialisation with the items `items` gives. -/
structure Materializes (c : CandidateWorktree) (items : List DeltaItem) (b : PrecommitBinding) :
    Prop where
  parent : b.expectedParent = c.baseCommit
  content : b.candidateContentSha256 =
    Sha256.hexdigest (aggregate c.baseCommit (items.map DeltaItem.pathContent))
  manifest : ∃ identity, b.manifestJson = String.ofList (candidateManifest identity c.baseCommit
    items b.candidateContentSha256).render
  sha : b.manifestSha256 = Sha256.hexdigest (Sha256.utf8 b.manifestJson.toList)

theorem materialize_ok {g : Repository} {c : CandidateWorktree} {w : Worktree}
    {resolve : Except PyError String} {b : PrecommitBinding}
    (h : materializeUncommittedCandidate g c w resolve = .ok b) :
    ∃ items, candidateDelta g c w = .ok items ∧ Materializes c items b := by
  unfold materializeUncommittedCandidate canonicalJson at h
  obtain ⟨items, hitems, h⟩ := except_bind_ok.mp h
  obtain ⟨identity, -, h⟩ := except_bind_ok.mp h
  obtain ⟨text, htext, h⟩ := except_bind_ok.mp h
  cases h
  split at htext
  · obtain rfl := Except.ok.inj htext
    exact ⟨items, hitems, rfl, rfl, ⟨identity, rfl⟩, rfl⟩
  · cases htext

/-! ## The manifest, written and read back -/

section Manifest

variable {identity base digest : String} {items : List DeltaItem}

theorem candidateManifest_noFloat :
    (candidateManifest identity base items digest).noFloat = true := by
  have hitems : Json.noFloatItems (items.map (·.entry.json)) = true := by
    refine Json.noFloatItems_iff.mpr fun v hv => ?_
    obtain ⟨i, -, rfl⟩ := List.mem_map.mp hv
    exact i.entry.json_noFloat
  simp [candidateManifest, Json.noFloat, Json.noFloatFields, hitems]

theorem candidateManifest_distinctKeys :
    (candidateManifest identity base items digest).distinctKeys := by
  have hitems : Json.distinctKeysItems (items.map (·.entry.json)) := by
    refine Json.distinctKeysItems_iff.mpr fun v hv => ?_
    obtain ⟨i, -, rfl⟩ := List.mem_map.mp hv
    exact i.entry.json_distinctKeys
  refine ⟨by simp, ?_⟩
  simp [Json.distinctKeysFields, Json.distinctKeys, hitems]

/-- A delta that is not empty is materialised. -/
theorem materialize_of_delta {g : Repository} {c : CandidateWorktree} {w : Worktree}
    (h : candidateDelta g c w = .ok items) (identity : String) :
    ∃ b, materializeUncommittedCandidate g c w (.ok identity) = .ok b := by
  cases hx : materializeUncommittedCandidate g c w (.ok identity) with
  | ok b => exact ⟨b, rfl⟩
  | error e =>
    unfold materializeUncommittedCandidate at hx
    rw [h] at hx
    change (canonicalJson _ >>= _) = _ at hx
    rw [canonicalJson, if_pos candidateManifest_noFloat] at hx
    cases hx

/-- The manifest that is read back has the entries in their order. -/
theorem manifestEntries_sorted :
    manifestEntries (candidateManifest identity base items digest).sorted =
      .ok (items.map fun i => i.entry.json.sorted, items.map (·.entry.path)) := by
  have hentries : (candidateManifest identity base items digest).sorted.get? "entries" =
      some (.arr (items.map fun i => i.entry.json.sorted)) := by
    rw [Json.get?_sorted candidateManifest_distinctKeys]
    simp [candidateManifest, Json.get?, Json.lookupKey, Json.sorted, Json.sortedItems_eq]
  have hpath (i : DeltaItem) :
      (i.entry.json.sorted.get? "path").bind Json.asStr? = some i.entry.path := by
    rw [Json.get?_sorted i.entry.json_distinctKeys]
    rfl
  have hpaths : (items.map fun i => i.entry.json.sorted).mapM (fun e =>
      match (e.get? "path").bind Json.asStr? with
      | some path => Except.ok path
      | none => Except.error (PyError.raised "KeyError" "path")) = .ok (items.map (·.entry.path)) := by
    refine except_mapM_ok.mpr ?_
    rw [List.forall₂_map_left_iff, List.forall₂_map_right_iff]
    refine List.forall₂_same.mpr fun i _ => ?_
    rw [hpath]
  unfold manifestEntries
  rw [hentries]
  exact except_bind_ok.mpr ⟨_, rfl, except_bind_ok.mpr ⟨_, hpaths, rfl⟩⟩

/-- The manifest of a binding passes the check on its text and its hash, and has the
entries of the delta and their hash. -/
theorem Materializes.read {c : CandidateWorktree} {b : PrecommitBinding}
    (h : Materializes c items b) : ∃ manifest, jsonLoads b.manifestJson = .ok manifest ∧
      canonicalJson manifest = .ok b.manifestJson ∧
      canonicalSha256 manifest = .ok b.manifestSha256 ∧
      manifestEntries manifest =
        .ok (items.map fun i => i.entry.json.sorted, items.map (·.entry.path)) ∧
      manifest.get? "candidate_content_sha256" = some (.str b.candidateContentSha256) := by
  obtain ⟨identity, htext⟩ := h.manifest
  refine ⟨(candidateManifest identity c.baseCommit items b.candidateContentSha256).sorted, ?_, ?_, ?_,
    manifestEntries_sorted, ?_⟩
  · rw [htext, jsonLoads, String.toList_ofList,
      Json.loads_render candidateManifest_noFloat candidateManifest_distinctKeys]
  · rw [canonicalJson, Json.noFloat_sorted, if_pos candidateManifest_noFloat, Json.render_sorted,
      htext]
  · rw [canonicalSha256, Json.noFloat_sorted, if_pos candidateManifest_noFloat, Json.render_sorted,
      h.sha, htext, String.toList_ofList]
  · rw [Json.get?_sorted candidateManifest_distinctKeys]
    rfl

end Manifest

end Adcp.L3
