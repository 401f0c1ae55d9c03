import Adcp.L3Git.Candidate

/-!
# What a candidate's hashes stand for

The delta of a worktree is hashed, reviewed and later compared with a commit.

* `DeltaItem.applied`: the tree that a delta makes of its base.
* `verify_iff_delta`: a commit passes the check against a materialised candidate if
  and only if its tree is the base with the delta applied.
* `aggregate_inj`: the framed byte string has one reading.
* `aggregate_determines_contents`: the aggregate hash settles the paths, what is
  added and the bytes everywhere; modes, and whether a file is deleted or emptied,
  are settled by the manifest.
-/
namespace Adcp.L4

open Adcp.L1 Adcp.L2 Adcp.L3

/-! ## The check on a commit -/

/-- What a delta makes of its base, at the path `p`. -/
def applyDelta (base : Tree) (items : List DeltaItem) (p : RepoPath) : Option Blob :=
  match items.find? fun i => pathBytes i.entry.path = p with
  | some i => if i.entry.operation = "D" then none else some ⟨i.entry.mode, i.content⟩
  | none => base.file? p

variable {g : Repository} {c : CandidateWorktree} {w : Worktree} {base : Tree} {commit : GitCommit}
  {items : List DeltaItem} {b : PrecommitBinding} {id : String} {now : Timestamp}

/-- The items are the delta of `w` against `base`. -/
def IsDelta (g : Repository) (base : Tree) (w : Worktree) (items : List DeltaItem) : Prop :=
  List.Forall₂ (fun raw i => i.Of g base w raw) (w.changed base) items

theorem IsDelta.paths (h : IsDelta g base w items) :
    items.map (fun i => pathBytes i.entry.path) = w.changed base := by
  have hall : ∀ {l : List RepoPath} {is : List DeltaItem},
      List.Forall₂ (fun raw i => i.Of g base w raw) l is →
      is.map (fun i => pathBytes i.entry.path) = l := by
    intro l is hl
    induction hl with
    | nil => rfl
    | cons hi _ ih => rw [List.map_cons, hi.path, ih]
  exact hall h

theorem IsDelta.mem (h : IsDelta g base w items) {i : DeltaItem} (hi : i ∈ items) :
    pathBytes i.entry.path ∈ w.changed base ∧ i.Of g base w (pathBytes i.entry.path) := by
  have hpath : pathBytes i.entry.path ∈ w.changed base := by
    rw [← h.paths]
    exact List.mem_map.mpr ⟨i, hi, rfl⟩
  refine ⟨hpath, ?_⟩
  obtain ⟨raw, -, hof⟩ := forall₂_mem_left (List.Forall₂.flip h) hi
  have hraw := hof.path
  rw [hraw]
  exact hof

/-- What the delta has at the path of one of its items. -/
theorem IsDelta.applied (h : IsDelta g base w items) {i : DeltaItem} (hi : i ∈ items) :
    applyDelta base items (pathBytes i.entry.path) =
      if i.entry.operation = "D" then none else some ⟨i.entry.mode, i.content⟩ := by
  have hnodup : (items.map fun i => pathBytes i.entry.path).Nodup := by
    rw [h.paths]
    exact sortedPaths_nodup _
  have hfind : items.find? (fun j => pathBytes j.entry.path = pathBytes i.entry.path) = some i :=
    (Table.mem_iff_lookup hnodup).mp hi
  rw [applyDelta, hfind]

/-- And elsewhere. -/
theorem IsDelta.untouched (h : IsDelta g base w items) {p : RepoPath} (hp : p ∉ w.changed base) :
    applyDelta base items p = base.file? p := by
  have hnone : items.find? (fun i => pathBytes i.entry.path = p) = none := by
    rw [List.find?_eq_none]
    intro i hi hpath
    exact hp (of_decide_eq_true hpath ▸ (h.mem hi).1)
  rw [applyDelta, hnone]

/-- A file that the delta deletes is no directory of what it makes. -/
theorem IsDelta.gone_directory (h : IsDelta g base w items)
    (heq : ∀ p, commit.tree.file? p = applyDelta base items p) {p : RepoPath} {blob : Blob}
    (hbase : base.file? p = some blob) (hnode : w.node? p = none) :
    commit.tree.hasDirectory p = false := by
  by_contra hdir
  rw [Bool.not_eq_false, Tree.hasDirectory_iff] at hdir
  obtain ⟨q, hq, hbelow⟩ := hdir
  rw [heq] at hq
  by_cases hqc : q ∈ w.changed base
  · -- a changed path that is not deleted lies in the worktree, so `p` is a directory there
    rw [← h.paths] at hqc
    obtain ⟨i, hi, rfl⟩ := List.mem_map.mp hqc
    obtain ⟨-, hof⟩ := h.mem hi
    rw [h.applied hi] at hq
    rcases hof.found with ⟨b, hb, -⟩ | ⟨-, e, -, hgone⟩
    · exact Worktree.node?_of_below hb hbelow hnode
    · rw [if_pos hgone.operation] at hq
      cases hq
  · rw [h.untouched hqc] at hq
    have hq' := Tree.file?_isSome.mp hq
    have hp' : p ∈ base.files.map Prod.fst := Tree.file?_isSome.mp (by rw [hbase]; rfl)
    rw [base.flat p hp' q hq'] at hbelow
    cases hbelow

/-- The commit does to its parent what the item says. -/
theorem IsDelta.committed (h : IsDelta g base w items) (hg : g.Faithful commit.tree)
    (heq : ∀ p, commit.tree.file? p = applyDelta base items p) {i : DeltaItem} (hi : i ∈ items) :
    committedContent g i.entry (g.lsTree base (pathBytes i.entry.path))
      (g.lsTree commit.tree (pathBytes i.entry.path)) = .ok i.content := by
  obtain ⟨-, hof⟩ := h.mem hi
  have hfile := heq (pathBytes i.entry.path)
  rw [h.applied hi] at hfile
  unfold committedContent
  rcases hof.found with ⟨blob, hblob, hpresent⟩ | ⟨hnode, e, he, hgone⟩
  · have hop : i.entry.operation ≠ "D" := by
      rw [hpresent.operation]
      split <;> decide
    rw [if_neg hop] at hfile
    have hkind : Blob.kind ⟨i.entry.mode, i.content⟩ = "blob" :=
      Blob.kind_eq (CandidateManifestEntry.validate_mode hof.valid)
    refine guardPure_bind_ok.mpr ⟨?_, ?_⟩
    · rw [hpresent.operation]
      cases hbefore : g.lsTree base (pathBytes i.entry.path) <;> simp
    · rw [if_neg hop, Repository.lsTree_of_file hfile]
      refine guardPure_bind_ok.mpr ⟨⟨rfl, hkind⟩, ?_⟩
      have hread := hg _ _ hfile
      simp only at hread ⊢
      rw [hread, hpresent.content, hpresent.length, hpresent.sha]
      exact guardPure_bind_ok.mpr ⟨⟨rfl, rfl⟩, rfl⟩
  · rw [if_pos hgone.operation] at hfile
    obtain ⟨blob, hblob, -⟩ := Repository.lsTree_file he (by rw [hof.blob e he]; decide)
    have hafter : g.lsTree commit.tree (pathBytes i.entry.path) = none :=
      Repository.lsTree_eq_none.mpr ⟨hfile, h.gone_directory heq hblob hnode⟩
    refine guardPure_bind_ok.mpr ⟨?_, ?_⟩
    · simp [hgone.operation, he]
    · rw [if_pos hgone.operation, hafter, he]
      refine guardPure_bind_ok.mpr ⟨⟨rfl, ?_⟩, by rw [hgone.content]; rfl⟩
      simp [hgone.mode, hof.blob e he, hgone.base]

/-- A commit that did what the items say is the delta applied. -/
theorem IsDelta.recovered (h : IsDelta g base w items) (hg : g.Faithful commit.tree)
    (hfree : ∀ p x y, w.blob? p = some x → commit.tree.file? p = some y →
      Sha256.hexdigest x.content = Sha256.hexdigest y.content → x.content = y.content)
    (hdiff : ∀ p, p ∈ base.diff commit.tree ↔ p ∈ w.changed base)
    (hall : ∀ i ∈ items, ∃ content, committedContent g i.entry
      (g.lsTree base (pathBytes i.entry.path)) (g.lsTree commit.tree (pathBytes i.entry.path)) =
        .ok content) (p : RepoPath) :
    commit.tree.file? p = applyDelta base items p := by
  by_cases hp : p ∈ w.changed base
  · rw [← h.paths] at hp
    obtain ⟨i, hi, rfl⟩ := List.mem_map.mp hp
    obtain ⟨-, hof⟩ := h.mem hi
    obtain ⟨content, hcontent⟩ := hall i hi
    rw [h.applied hi]
    unfold committedContent at hcontent
    obtain ⟨-, hcontent⟩ := guardPure_bind_ok.mp hcontent
    rcases hof.found with ⟨blob, hblob, hpresent⟩ | ⟨hnode, e, he, hgone⟩
    · have hop : i.entry.operation ≠ "D" := by
        rw [hpresent.operation]
        split <;> decide
      rw [if_neg hop] at hcontent ⊢
      cases hafter : g.lsTree commit.tree (pathBytes i.entry.path) with
      | none =>
        rw [hafter] at hcontent
        cases hcontent
      | some e =>
        rw [hafter] at hcontent
        obtain ⟨⟨hmode, hkind⟩, hcontent⟩ := guardPure_bind_ok.mp hcontent
        obtain ⟨⟨-, hsha⟩, -⟩ := guardPure_bind_ok.mp hcontent
        obtain ⟨y, hy, rfl⟩ := Repository.lsTree_file hafter (by rw [hkind]; decide)
        have hread := hg _ _ hy
        simp only at hread hsha hmode
        rw [hread, hpresent.sha, Option.some.injEq] at hsha
        have hsame := hfree _ _ _ hblob hy hsha.symm
        rw [hy, ← hmode, hpresent.content, hsame]
    · rw [if_pos hgone.operation] at hcontent ⊢
      obtain ⟨⟨hafter, -⟩, -⟩ := guardPure_bind_ok.mp hcontent
      exact (Repository.lsTree_eq_none.mp hafter).1
  · rw [h.untouched hp]
    have hsame : p ∉ base.diff commit.tree := fun hd => hp ((hdiff p).mp hd)
    rw [Tree.mem_diff, not_not] at hsame
    exact hsame.symm

/-- The delta applied differs from the base exactly at the changed paths. -/
theorem IsDelta.diff (h : IsDelta g base w items)
    (heq : ∀ p, commit.tree.file? p = applyDelta base items p) (p : RepoPath) :
    p ∈ base.diff commit.tree ↔ p ∈ w.changed base := by
  rw [Tree.mem_diff, heq]
  refine ⟨fun hne => ?_, fun hp => ?_⟩
  · by_contra hp
    exact hne (h.untouched hp).symm
  · have hchanged := Worktree.mem_changed hp
    rw [← h.paths] at hp
    obtain ⟨i, hi, rfl⟩ := List.mem_map.mp hp
    obtain ⟨-, hof⟩ := h.mem hi
    rw [h.applied hi]
    rcases hof.found with ⟨blob, hblob, hpresent⟩ | ⟨hnode, e, he, hgone⟩
    · rw [if_neg (by rw [hpresent.operation]; split <;> decide), hpresent.mode, hpresent.content]
      rw [hblob] at hchanged
      exact hchanged
    · obtain ⟨blob, hblob, -⟩ := Repository.lsTree_file he (by rw [hof.blob e he]; decide)
      rw [if_pos hgone.operation, hblob]
      exact Option.some_ne_none blob

/-- **Materialisation and verification agree.** For a candidate materialised from any
worktree and any commit with the base as its single parent, the commit passes the
check if and only if its tree is the base tree with the delta applied. -/
theorem verify_iff_delta {resolve : Except PyError String}
    (hm : materializeUncommittedCandidate g c w resolve = .ok b)
    (hc : g.commit? id = some commit) (hparent : commit.parents = [c.baseCommit])
    (hg : g.Faithful commit.tree)
    (hfree : ∀ p x y, w.blob? p = some x → commit.tree.file? p = some y →
      Sha256.hexdigest x.content = Sha256.hexdigest y.content → x.content = y.content) :
    ∃ base items, g.commit? c.baseCommit = some base ∧ candidateDelta g c w = .ok items ∧
      (verifyCommittedCandidate g id (b.row now) = .ok () ↔
        ∀ p, commit.tree.file? p = applyDelta base.tree items p) := by
  obtain ⟨items, hitems, hbinding⟩ := materialize_ok hm
  obtain ⟨base, hbase, hencode, hdelta⟩ := candidateDelta_ok hitems
  have hd : IsDelta g base.tree w items := hdelta
  obtain ⟨manifest, hloads, htext, hsha, hentries, -⟩ := hbinding.read
  have hpaths : (items.map (·.entry.path)).map pathBytes = w.changed base.tree := by
    rw [List.map_map]
    exact hd.paths
  have hmem (path : String) : path ∈ items.map (·.entry.path) ↔
      pathBytes path ∈ w.changed base.tree := by
    rw [← hpaths]
    refine ⟨fun h => List.mem_map.mpr ⟨path, h, rfl⟩, fun h => ?_⟩
    obtain ⟨path', hpath, heq⟩ := List.mem_map.mp h
    rwa [← pathBytes_inj heq]
  refine ⟨base, items, hbase, hitems, ?_⟩
  unfold verifyCommittedCandidate
  constructor
  · intro h
    obtain ⟨commit', hcommit, h⟩ := except_bind_ok.mp h
    obtain rfl : commit = commit' :=
      Option.some.inj (hc.symm.trans (Repository.commit_ok.mp hcommit))
    obtain ⟨-, h⟩ := guardPure_bind_ok.mp h
    obtain ⟨manifest', hloads', h⟩ := except_bind_ok.mp h
    obtain rfl : manifest = manifest' := Except.ok.inj (hloads.symm.trans hloads')
    obtain ⟨_, -, h⟩ := except_bind_ok.mp h
    obtain ⟨_, -, h⟩ := except_bind_ok.mp h
    obtain ⟨-, h⟩ := guardPure_bind_ok.mp h
    obtain ⟨p, hp, h⟩ := except_bind_ok.mp h
    cases Except.ok.inj (hentries.symm.trans hp)
    obtain ⟨-, h⟩ := guardPure_bind_ok.mp h
    obtain ⟨parent, hparent', h⟩ := except_bind_ok.mp h
    have hsame : g.commit? c.baseCommit = some parent := by
      rw [← hbinding.parent]
      exact Repository.commit_ok.mp hparent'
    obtain rfl : base = parent := Option.some.inj (hbase.symm.trans hsame)
    obtain ⟨actual, hactual, h⟩ := except_bind_ok.mp h
    obtain ⟨⟨hsub, hsup⟩, h⟩ := guardPure_bind_ok.mp h
    obtain ⟨_, -, h⟩ := except_bind_ok.mp h
    obtain ⟨contents, hcontents, h⟩ := except_bind_ok.mp h
    have hbytes := decodeAll_ok.mp hactual
    refine hd.recovered hg hfree (fun p => ?_) (fun i hi => ?_)
    · rw [← hbytes, List.mem_map]
      constructor
      · rintro ⟨path, hpath, rfl⟩
        exact (hmem path).mp (hsub path hpath)
      · intro hp
        rw [← hpaths] at hp
        obtain ⟨path, hpath, rfl⟩ := List.mem_map.mp hp
        exact ⟨path, hsup path hpath, rfl⟩
    · have hall := except_mapM_ok.mp hcontents
      rw [List.forall₂_map_left_iff] at hall
      obtain ⟨x, -, hx⟩ := forall₂_mem_left hall hi
      exact ⟨x.content, (committedItem_sorted.mp hx).2.2.1⟩
  · intro heq
    have hdiff := hd.diff heq
    have hcontents : (items.map fun i => i.entry.json.sorted).mapM
        (committedItem g base.tree commit.tree) = .ok (items.map DeltaItem.pathContent) := by
      refine except_mapM_ok.mpr ?_
      rw [List.forall₂_map_left_iff, List.forall₂_map_right_iff]
      refine List.forall₂_same.mpr fun i hi => committedItem_sorted.mpr ?_
      obtain ⟨-, hof⟩ := hd.mem hi
      exact ⟨hof.valid, ⟨_, hof.candidate⟩, hd.committed hg heq hi, rfl, hof.framed⟩
    obtain ⟨actual, hactual⟩ : ∃ actual : List String,
        actual.map pathBytes = base.tree.diff commit.tree := by
      refine ⟨(base.tree.diff commit.tree).map fun p => String.ofList ((Sha256.ofUtf8 p).getD []), ?_⟩
      rw [List.map_map]
      refine (List.map_congr_left fun p hp => ?_).trans (List.map_id _)
      rw [hdiff, ← hpaths] at hp
      obtain ⟨path, -, rfl⟩ := List.mem_map.mp hp
      simp [pathBytes, Sha256.ofUtf8_utf8]
    refine except_bind_ok.mpr ⟨commit, Repository.commit_ok.mpr hc, guardPure_bind_ok.mpr ⟨?_, ?_⟩⟩
    · rw [hparent]
      exact congrArg (fun p => [p]) hbinding.parent.symm
    refine except_bind_ok.mpr ⟨manifest, hloads, except_bind_ok.mpr ⟨_, htext,
      except_bind_ok.mpr ⟨_, hsha, guardPure_bind_ok.mpr ⟨⟨rfl, rfl⟩,
        except_bind_ok.mpr ⟨_, hentries, guardPure_bind_ok.mpr ⟨?_, ?_⟩⟩⟩⟩⟩⟩
    · rw [hpaths]
      exact (sortedPaths_idem _).symm
    refine except_bind_ok.mpr ⟨base, ?_, except_bind_ok.mpr ⟨actual, decodeAll_ok.mpr hactual,
      guardPure_bind_ok.mpr ⟨⟨fun path hpath => ?_, fun path hpath => ?_⟩, ?_⟩⟩⟩
    · show g.commit b.expectedParent = .ok base
      rw [hbinding.parent]
      exact Repository.commit_ok.mpr hbase
    · rw [hmem, ← hdiff, ← hactual]
      exact List.mem_map.mpr ⟨path, hpath, rfl⟩
    · rw [hmem, ← hdiff, ← hactual] at hpath
      obtain ⟨path', hpath', heq'⟩ := List.mem_map.mp hpath
      rwa [← pathBytes_inj heq']
    refine except_bind_ok.mpr ⟨(), ?_, except_bind_ok.mpr ⟨_, hcontents, ?_⟩⟩
    · show encodeBase b.expectedParent = .ok ()
      rw [hbinding.parent]
      exact hencode
    · refine guardPure_ok.mpr ?_
      show Sha256.hexdigest (aggregate b.expectedParent _) = b.candidateContentSha256
      rw [hbinding.parent, hbinding.content]

/-! ## What the hashes determine -/

/-- A block is a tagged, framed path in front of a tagged, framed content. -/
theorem block_selfDelimiting :
    SelfDelimiting (fun i : PathContent => Framed i.path ∧ Framed i.content) PathContent.block := by
  have hpath := frame_selfDelimiting.tagged (ascii "PATH\x00")
  have hcontent := frame_selfDelimiting.tagged (ascii "CONTENT\x00")
  refine (hpath.pair hcontent).comap (fun i : PathContent => (i.path, i.content)) ?_
  rintro ⟨p, x⟩ ⟨q, y⟩ heq
  cases heq
  rfl

theorem block_ne_nil (i : PathContent) : i.block ≠ [] := by
  intro h
  unfold PathContent.block at h
  rw [List.append_eq_nil_iff, List.append_eq_nil_iff] at h
  exact frame_ne_nil _ h.1.2

/-- The hashed bytes have one reading. -/
theorem aggregate_inj {base : String} {xs ys : List PathContent}
    (hxs : ∀ i ∈ xs, Framed i.path ∧ Framed i.content)
    (hys : ∀ i ∈ ys, Framed i.path ∧ Framed i.content) (h : aggregate base xs = aggregate base ys) :
    xs = ys :=
  block_selfDelimiting.flatMap_inj block_ne_nil hxs hys (List.append_cancel_left h)

theorem IsDelta.framed (h : IsDelta g base w items) :
    ∀ x ∈ items.map DeltaItem.pathContent, Framed x.path ∧ Framed x.content := by
  intro x hx
  obtain ⟨i, hi, rfl⟩ := List.mem_map.mp hx
  exact (h.mem hi).2.framed

/-- What the aggregate hash settles of an item: path, bytes, and whether the path is
new. -/
def DeltaItem.settled (i : DeltaItem) : PathContent × Bool :=
  (i.pathContent, i.entry.operation = "A")

/-- A path is added when the base has no such file. -/
theorem DeltaItem.Of.added {raw : RepoPath} {i : DeltaItem} (h : DeltaItem.Of g base w raw i) :
    i.entry.operation = "A" ↔ g.lsTree base raw = none := by
  rcases h.found with ⟨blob, -, hpresent⟩ | ⟨-, e, he, hgone⟩
  · rw [hpresent.operation]
    cases g.lsTree base raw <;> simp
  · rw [hgone.operation, he]
    simp

theorem IsDelta.settled (h : IsDelta g base w items) : items.map DeltaItem.settled =
    items.map fun i => (i.pathContent, decide (g.lsTree base i.pathContent.path = none)) := by
  refine List.map_congr_left fun i hi => ?_
  rw [DeltaItem.settled, decide_eq_decide.mpr (DeltaItem.Of.added (h.mem hi).2)]
  rfl

/-- Deltas with the same paths and contents are settled alike. -/
theorem settled_iff {w' : Worktree} {items' : List DeltaItem} (h : IsDelta g base w items)
    (h' : IsDelta g base w' items') : items.map DeltaItem.pathContent =
      items'.map DeltaItem.pathContent ↔ items.map DeltaItem.settled =
        items'.map DeltaItem.settled := by
  constructor
  · intro heq
    have hmap := congrArg (List.map fun x : PathContent =>
      (x, decide (g.lsTree base x.path = none))) heq
    rw [List.map_map, List.map_map] at hmap
    rw [h.settled, h'.settled]
    exact hmap
  · intro heq
    have hmap := congrArg (List.map Prod.fst) heq
    rw [List.map_map, List.map_map] at hmap
    exact hmap

/-- Equal entries over equal contents are equal items. -/
theorem items_ext {xs ys : List DeltaItem} (hentries : xs.map (·.entry) = ys.map (·.entry))
    (hcontents : xs.map DeltaItem.pathContent = ys.map DeltaItem.pathContent) : xs = ys := by
  induction xs generalizing ys with
  | nil => exact (List.map_eq_nil_iff.mp hentries.symm).symm
  | cons x xs ih =>
    cases ys with
    | nil => cases hentries
    | cons y ys =>
      rw [List.map_cons, List.map_cons, List.cons.injEq] at hentries hcontents
      obtain ⟨hx, hxs⟩ := hentries
      obtain ⟨hc, hcs⟩ := hcontents
      obtain ⟨entry, content⟩ := x
      obtain ⟨entry', content'⟩ := y
      obtain rfl : entry = entry' := hx
      obtain rfl : content = content' := (PathContent.mk.inj hc).2
      rw [ih hxs hcs]

/-- A manifest names its entries and the aggregate hash. -/
theorem manifest_inj {xs ys : List DeltaItem} {b' : PrecommitBinding} {c' : CandidateWorktree}
    (h : Materializes c xs b) (h' : Materializes c' ys b') (heq : b.manifestJson = b'.manifestJson) :
    xs.map (·.entry) = ys.map (·.entry) ∧ b.candidateContentSha256 = b'.candidateContentSha256 := by
  obtain ⟨m, hm, -, -, hentries, hdigest⟩ := h.read
  obtain ⟨m', hm', -, -, hentries', hdigest'⟩ := h'.read
  rw [heq] at hm
  obtain rfl : m = m' := Except.ok.inj (hm.symm.trans hm')
  have hjson := (Prod.mk.inj (Except.ok.inj (hentries.symm.trans hentries'))).1
  have hread := congrArg (List.map CandidateManifestEntry.ofJson) hjson
  rw [List.map_map, List.map_map] at hread
  have hok : Function.Injective (Except.ok : CandidateManifestEntry → Except PyError _) :=
    fun _ _ => Except.ok.inj
  refine ⟨hok.list_map ?_, ?_⟩
  · rw [List.map_map, List.map_map]
    simpa [Function.comp_def, CandidateManifestEntry.ofJson_sorted] using hread
  · exact Json.str.inj (Option.some.inj (hdigest.symm.trans hdigest'))

/-- **What the hashes of a candidate determine.** For any two worktrees against one
base commit the aggregate hashes agree if and only if the deltas have the same paths,
the same bytes at every path (none where it is deleted) and the same additions; and if
the manifest hashes agree the deltas are equal. -/
theorem candidate_hashes_determine {c' : CandidateWorktree} {w' : Worktree}
    {items' : List DeltaItem} {b' : PrecommitBinding} {resolve resolve' : Except PyError String}
    (hbase : c.baseCommit = c'.baseCommit)
    (hd : candidateDelta g c w = .ok items) (hd' : candidateDelta g c' w' = .ok items')
    (hm : materializeUncommittedCandidate g c w resolve = .ok b)
    (hm' : materializeUncommittedCandidate g c' w' resolve' = .ok b')
    (hfree : Sha256.hexdigest (aggregate c.baseCommit (items.map DeltaItem.pathContent)) =
        Sha256.hexdigest (aggregate c'.baseCommit (items'.map DeltaItem.pathContent)) →
      aggregate c.baseCommit (items.map DeltaItem.pathContent) =
        aggregate c'.baseCommit (items'.map DeltaItem.pathContent))
    (hfree' : Sha256.hexdigest (Sha256.utf8 b.manifestJson.toList) =
        Sha256.hexdigest (Sha256.utf8 b'.manifestJson.toList) → b.manifestJson = b'.manifestJson) :
    (b.candidateContentSha256 = b'.candidateContentSha256 ↔
        items.map DeltaItem.settled = items'.map DeltaItem.settled) ∧
      (b.manifestSha256 = b'.manifestSha256 → items = items') := by
  obtain ⟨base, hcommit, -, hdelta⟩ := candidateDelta_ok hd
  obtain ⟨base', hcommit', -, hdelta'⟩ := candidateDelta_ok hd'
  rw [← hbase] at hcommit' hfree
  obtain rfl : base = base' := Option.some.inj (hcommit.symm.trans hcommit')
  have h : IsDelta g base.tree w items := hdelta
  have h' : IsDelta g base.tree w' items' := hdelta'
  obtain ⟨found, hfound, hb⟩ := materialize_ok hm
  obtain rfl : items = found := Except.ok.inj (hd.symm.trans hfound)
  obtain ⟨found', hfound', hb'⟩ := materialize_ok hm'
  obtain rfl : items' = found' := Except.ok.inj (hd'.symm.trans hfound')
  have hcontents : b.candidateContentSha256 = b'.candidateContentSha256 →
      items.map DeltaItem.pathContent = items'.map DeltaItem.pathContent := by
    intro heq
    rw [hb.content, hb'.content, ← hbase] at heq
    exact aggregate_inj h.framed h'.framed (hfree heq)
  refine ⟨⟨fun heq => (settled_iff h h').mp (hcontents heq), fun heq => ?_⟩, fun heq => ?_⟩
  · rw [hb.content, hb'.content, ← hbase, (settled_iff h h').mpr heq]
  · rw [hb.sha, hb'.sha] at heq
    obtain ⟨hentries, hdigest⟩ := manifest_inj hb hb' (hfree' heq)
    exact items_ext hentries (hcontents hdigest)

/-! ## A file that is deleted, and one that is emptied -/

abbrev samplePath : RepoPath := [0x66]

theorem samplePath_eq : pathBytes "f" = samplePath := by
  simp [pathBytes, Sha256.utf8, String.utf8EncodeChar]

theorem samplePath_parts : ['f'].splitOn '/' = [['f']] := by decide

theorem samplePath_candidate : candidatePath samplePath = .ok "f" := by
  have hdecode : decodeStrict samplePath = .ok "f" := decodeStrict_ok.mpr samplePath_eq
  unfold candidatePath
  refine except_bind_ok.mpr ⟨"f", mapError_ok.mpr hdecode, except_bind_ok.mpr ⟨(), ?_, ?_⟩⟩
  · simp -dsimp [CandidateManifestEntry.validate, samplePath_parts, guardPure, bind, Except.bind,
      Except.mapError, isSha256, isLowerHex]
  · exact guardPure_bind_ok.mpr ⟨by simp, rfl⟩

/-- One file, not empty. -/
abbrev sampleTree : Tree := ⟨[(samplePath, ⟨"100644", [0x78]⟩)], by decide⟩

/-- The same file, empty. -/
abbrev sampleResult : Tree := ⟨[(samplePath, ⟨"100644", []⟩)], by decide⟩

abbrev sampleRepository : Repository where
  commit? id := if id = "base" then some ⟨[], sampleTree⟩ else some ⟨["base"], sampleResult⟩
  blobId _ := String.ofList (List.replicate 64 'a')
  directoryId _ _ := ""
  catFile _ := []

abbrev sampleCandidate : CandidateWorktree := ⟨"execution", "base", "main"⟩

/-- The file is deleted. -/
abbrev sampleDeleted : Worktree := ⟨"base", some "main", [], fun _ => false⟩

/-- The file is emptied. -/
abbrev sampleEmptied : Worktree :=
  ⟨"base", some "main", [(samplePath, .file false [])], fun _ => false⟩

abbrev sampleDeletion : DeltaItem :=
  ⟨⟨"D", "f", "100644", none, none, some (String.ofList (List.replicate 64 'a'))⟩, []⟩

abbrev sampleEmptying : DeltaItem :=
  ⟨⟨"M", "f", "100644", some 0, some (Sha256.hexdigest []), none⟩, []⟩

theorem sampleBase_encode : encodeBase "base" = .ok () := by
  have hlen : (ascii "base").length = 4 := by simp [ascii, Sha256.utf8, String.utf8EncodeChar]
  have hframed : Framed (ascii "base") := by
    rw [Framed, hlen]
    decide
  exact encodeBase_ok (by simp) hframed

/-- A worktree that changes the one file. -/
theorem sample_delta {w : Worktree} {i : DeltaItem} (hhead : w.head = "base")
    (hbranch : w.branch = some "main") (hchanged : w.changed sampleTree = [samplePath])
    (hitem : deltaItem sampleRepository sampleTree w samplePath = .ok i) :
    candidateDelta sampleRepository sampleCandidate w = .ok [i] := by
  unfold candidateDelta
  refine guardPure_bind_ok.mpr ⟨hhead, guardPure_bind_ok.mpr ⟨hbranch,
    except_bind_ok.mpr ⟨⟨[], sampleTree⟩, rfl, ?_⟩⟩⟩
  rw [hchanged]
  refine guardPure_bind_ok.mpr ⟨by simp, except_bind_ok.mpr ⟨(), sampleBase_encode, ?_⟩⟩
  exact except_mapM_ok.mpr (.cons hitem .nil)

theorem sample_item {w : Worktree} {i : DeltaItem} (hlink : w.escapes samplePath = false)
    (hentry : deltaEntry w "f" (some ⟨"100644", "blob", String.ofList (List.replicate 64 'a')⟩) =
      .ok i)
    (hvalid : i.entry.validate = .ok ()) (hpath : i.entry.path = "f") (hempty : i.content = []) :
    deltaItem sampleRepository sampleTree w samplePath = .ok i := by
  have hbefore : sampleRepository.lsTree sampleTree samplePath =
      some ⟨"100644", "blob", String.ofList (List.replicate 64 'a')⟩ := by decide
  unfold deltaItem PathContent.pack
  refine except_bind_ok.mpr ⟨"f", samplePath_candidate, ?_⟩
  rw [samplePath_eq, hbefore]
  refine guardPure_bind_ok.mpr ⟨by decide, guardPure_bind_ok.mpr ⟨hlink, except_bind_ok.mpr ⟨i,
    hentry, except_bind_ok.mpr ⟨(), mapError_ok.mpr hvalid, guardPure_bind_ok.mpr ⟨?_, rfl⟩⟩⟩⟩⟩
  simp only [DeltaItem.pathContent, hpath, hempty, samplePath_eq]
  decide

theorem sampleDeleted_delta :
    candidateDelta sampleRepository sampleCandidate sampleDeleted = .ok [sampleDeletion] := by
  refine sample_delta rfl rfl (by decide) (sample_item (by decide) ?_ ?_ rfl rfl)
  · rw [deltaEntry, samplePath_eq]
    rfl
  · simp -dsimp [CandidateManifestEntry.validate, samplePath_parts, guardPure, bind, Except.bind,
      isCommit, isLowerHex]

theorem sampleEmptied_delta :
    candidateDelta sampleRepository sampleCandidate sampleEmptied = .ok [sampleEmptying] := by
  refine sample_delta rfl rfl (by decide) (sample_item (by decide) ?_ ?_ rfl rfl)
  · rw [deltaEntry, samplePath_eq]
    rfl
  · simp -dsimp [CandidateManifestEntry.validate, samplePath_parts, guardPure, bind, Except.bind,
      isSha256_hexdigest]

/-- The commit that empties the file is the delta that empties it. -/
theorem verify_iff_delta_emptied : ∃ b,
    materializeUncommittedCandidate sampleRepository sampleCandidate sampleEmptied (.ok "/repo") =
      .ok b ∧
    ∃ base items, sampleRepository.commit? "base" = some base ∧
      candidateDelta sampleRepository sampleCandidate sampleEmptied = .ok items ∧
      (verifyCommittedCandidate sampleRepository "result" (b.row .epoch) = .ok () ↔
        ∀ p, sampleResult.file? p = applyDelta base.tree items p) := by
  obtain ⟨b, hb⟩ := materialize_of_delta sampleEmptied_delta "/repo"
  have hcontent : ∀ p blob, sampleResult.file? p = some blob → blob.content = [] := by
    intro p blob h
    obtain ⟨l, r, hsplit, -⟩ := List.lookup_eq_some_iff.mp h
    have hmem : (p, blob) ∈ sampleResult.files := by
      rw [hsplit]
      simp
    rw [(Prod.mk.inj (List.mem_singleton.mp hmem)).2]
  have hnode : ∀ p blob, sampleEmptied.blob? p = some blob → blob.content = [] := by
    intro p blob h
    obtain ⟨n, hn, rfl⟩ := Worktree.blob?_listed h
    rw [List.mem_singleton.mp hn] at h
    cases Option.some.inj h
    rfl
  have hcommit : sampleRepository.commit? "result" = some ⟨["base"], sampleResult⟩ := rfl
  refine ⟨b, hb, verify_iff_delta hb hcommit rfl
    (fun p blob h => (hcontent p blob h).symm) fun p x y hx hy _ => ?_⟩
  rw [hnode p x hx, hcontent p y hy]

/-- Deleting a file and emptying it have the same aggregate hash. -/
theorem aggregate_hash_ambiguous :
    ¬ ∀ (g : Repository) (c c' : CandidateWorktree) (w w' : Worktree)
      (resolve resolve' : Except PyError String) (b b' : PrecommitBinding)
      (items items' : List DeltaItem), c.baseCommit = c'.baseCommit →
      candidateDelta g c w = .ok items → candidateDelta g c' w' = .ok items' →
      materializeUncommittedCandidate g c w resolve = .ok b →
      materializeUncommittedCandidate g c' w' resolve' = .ok b' →
      (Sha256.hexdigest (aggregate c.baseCommit (items.map DeltaItem.pathContent)) =
          Sha256.hexdigest (aggregate c'.baseCommit (items'.map DeltaItem.pathContent)) →
        aggregate c.baseCommit (items.map DeltaItem.pathContent) =
          aggregate c'.baseCommit (items'.map DeltaItem.pathContent)) →
      b.candidateContentSha256 = b'.candidateContentSha256 → items = items' := by
  intro h
  obtain ⟨b, hb⟩ := materialize_of_delta sampleDeleted_delta "/repo"
  obtain ⟨b', hb'⟩ := materialize_of_delta sampleEmptied_delta "/repo"
  have hsame : b.candidateContentSha256 = b'.candidateContentSha256 := by
    obtain ⟨items, hitems, hm⟩ := materialize_ok hb
    obtain ⟨items', hitems', hm'⟩ := materialize_ok hb'
    cases Except.ok.inj (hitems.symm.trans sampleDeleted_delta)
    cases Except.ok.inj (hitems'.symm.trans sampleEmptied_delta)
    rw [hm.content, hm'.content]
    rfl
  have hitems := h _ _ _ _ _ _ _ b b' _ _ rfl sampleDeleted_delta sampleEmptied_delta hb hb'
    (fun _ => rfl) hsame
  exact absurd (congrArg (List.map fun i : DeltaItem => i.entry.operation) hitems) (by decide)

/-- The deletion of the file, materialised twice. -/
theorem candidate_hashes_determine_deletion : ∃ b,
    materializeUncommittedCandidate sampleRepository sampleCandidate sampleDeleted (.ok "/repo") =
      .ok b ∧
    (b.candidateContentSha256 = b.candidateContentSha256 ↔
        [sampleDeletion].map DeltaItem.settled = [sampleDeletion].map DeltaItem.settled) ∧
      (b.manifestSha256 = b.manifestSha256 → [sampleDeletion] = [sampleDeletion]) := by
  obtain ⟨b, hb⟩ := materialize_of_delta sampleDeleted_delta "/repo"
  exact ⟨b, hb, candidate_hashes_determine rfl sampleDeleted_delta sampleDeleted_delta hb hb
    (fun _ => rfl) fun _ => rfl⟩

end Adcp.L4
