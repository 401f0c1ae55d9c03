import Adcp.L1Base.Framing
import Adcp.L2Domain.CandidateManifest
import Mathlib.Data.List.Sort
import Mathlib.Data.List.Lex
import Mathlib.Data.List.Dedup

/-!
# Git trees and worktrees

What the candidate code sees of a repository: the answers of `rev-list`,
`ls-tree`, `diff-tree`, `cat-file`, and for an uncommitted worktree those of
`diff --name-only` against the base, `ls-files --others` and the file system. The
Maker has no authority over the Git index, so what is tracked is what the base
holds.

* `Tree`: files by path, no file below another; `Worktree`: what lies at a path.
* `Repository.lsTree`, `Tree.diff`, `Worktree.changed`: the plumbing.
* `sortedPaths`: `sorted(set(paths))`, in the order of the bytes.
-/
namespace Adcp.L3

open Adcp.L1 Adcp.L2

abbrev RepoPath := List UInt8

/-- The bytes of a path. -/
def pathBytes (path : String) : RepoPath := Sha256.utf8 path.toList

/-- `q` is below the directory `p`. -/
def below (p q : RepoPath) : Bool := (p ++ [0x2f]).isPrefixOf q

/-! ## Paths in order -/

def bytesLe (a b : RepoPath) : Prop := a.map UInt8.toNat ≤ b.map UInt8.toNat

instance : DecidableRel bytesLe := fun a b =>
  inferInstanceAs (Decidable (a.map UInt8.toNat ≤ b.map UInt8.toNat))

instance : Std.Total bytesLe := ⟨fun a b => le_total (a.map UInt8.toNat) (b.map UInt8.toNat)⟩

instance : IsTrans RepoPath bytesLe := ⟨fun _ _ _ => le_trans⟩

def sortedPaths (l : List RepoPath) : List RepoPath := l.dedup.insertionSort bytesLe

@[simp]
theorem mem_sortedPaths {l : List RepoPath} {p : RepoPath} : p ∈ sortedPaths l ↔ p ∈ l := by
  rw [sortedPaths, List.mem_insertionSort, List.mem_dedup]

theorem sortedPaths_nodup (l : List RepoPath) : (sortedPaths l).Nodup :=
  (List.perm_insertionSort bytesLe l.dedup).nodup_iff.mpr (List.nodup_dedup l)

/-- Paths in order are left alone. -/
theorem sortedPaths_idem (l : List RepoPath) : sortedPaths (sortedPaths l) = sortedPaths l := by
  have hsorted : (sortedPaths l).Pairwise bytesLe := List.pairwise_insertionSort bytesLe _
  show (sortedPaths l).dedup.insertionSort bytesLe = sortedPaths l
  rw [(sortedPaths_nodup l).dedup, hsorted.insertionSort_eq]

/-! ## Trees -/

/-- What a tree holds at the path of a file. -/
structure Blob where
  mode : String
  content : List UInt8
  deriving DecidableEq, Repr

/-- The object type `ls-tree` prints: mode 160000 is a submodule's commit. -/
def Blob.kind (b : Blob) : String := if b.mode = "160000" then "commit" else "blob"

/-- The object type of a file that a candidate may hold. -/
theorem Blob.kind_eq {b : Blob} (h : b.mode ∈ ["100644", "100755", "120000"]) : b.kind = "blob" := by
  have hne : b.mode ≠ "160000" := by
    intro hm
    rw [hm] at h
    exact absurd h (by decide)
  rw [Blob.kind, if_neg hne]

/-- A tree: files by path. A path of a file is no directory. -/
structure Tree where
  files : List (RepoPath × Blob)
  flat : ∀ p ∈ files.map Prod.fst, ∀ q ∈ files.map Prod.fst, below p q = false

namespace Tree

def file? (t : Tree) (p : RepoPath) : Option Blob := t.files.lookup p

/-- Something of the tree is below `p`. -/
def hasDirectory (t : Tree) (p : RepoPath) : Bool := t.files.any fun f => below p f.1

/-- `diff-tree --no-renames --name-only -r`: the paths at which two trees differ. -/
def diff (t t' : Tree) : List RepoPath :=
  ((t.files ++ t'.files).map Prod.fst).filter fun p => t.file? p ≠ t'.file? p

theorem file?_isSome {t : Tree} {p : RepoPath} : (t.file? p).isSome ↔ p ∈ t.files.map Prod.fst := by
  unfold file?
  induction t.files with
  | nil => simp
  | cons f fs ih =>
    obtain ⟨q, b⟩ := f
    by_cases h : p = q
    · subst h
      simp
    · have hne : (p == q) = false := by simpa using h
      simp only [List.lookup_cons, hne, ih, List.map_cons, List.mem_cons, h, false_or]

theorem mem_diff {t t' : Tree} {p : RepoPath} : p ∈ t.diff t' ↔ t.file? p ≠ t'.file? p := by
  unfold diff
  rw [List.mem_filter, List.map_append, List.mem_append, ← file?_isSome, ← file?_isSome,
    decide_eq_true_eq]
  refine ⟨fun h => h.2, fun h => ⟨?_, h⟩⟩
  cases hp : t.file? p with
  | some b => exact Or.inl rfl
  | none =>
    cases hp' : t'.file? p with
    | some b => exact Or.inr rfl
    | none => exact absurd (hp.trans hp'.symm) h

/-- A path of a file has nothing below it. -/
theorem hasDirectory_of_file {t : Tree} {p : RepoPath} {b : Blob} (h : t.file? p = some b) :
    t.hasDirectory p = false := by
  have hp : p ∈ t.files.map Prod.fst := file?_isSome.mp (by rw [h]; rfl)
  refine List.any_eq_false.mpr fun f hf => ?_
  rw [t.flat p hp f.1 (List.mem_map.mpr ⟨f, hf, rfl⟩)]
  exact Bool.false_ne_true

/-- Below a directory there is a file. -/
theorem hasDirectory_iff {t : Tree} {p : RepoPath} :
    t.hasDirectory p = true ↔ ∃ q, (t.file? q).isSome ∧ below p q = true := by
  unfold hasDirectory
  rw [List.any_eq_true]
  constructor
  · rintro ⟨f, hf, hbelow⟩
    exact ⟨f.1, file?_isSome.mpr (List.mem_map.mpr ⟨f, hf, rfl⟩), hbelow⟩
  · rintro ⟨q, hq, hbelow⟩
    obtain ⟨f, hf, rfl⟩ := List.mem_map.mp (file?_isSome.mp hq)
    exact ⟨f, hf, hbelow⟩

end Tree

/-! ## Repositories -/

structure GitCommit where
  parents : List String
  tree : Tree

/-- A line of `ls-tree`, without the path. -/
structure TreeEntry where
  mode : String
  kind : String
  objectId : String
  deriving DecidableEq, Repr

structure Repository where
  commit? : String → Option GitCommit
  blobId : List UInt8 → String
  directoryId : Tree → RepoPath → String
  /-- `cat-file blob` -/
  catFile : String → List UInt8

def gitFailed : PyError := .controller "CANDIDATE_GIT_FAILED" ""

namespace Repository

variable (g : Repository)

def commit (id : String) : Except PyError GitCommit :=
  match g.commit? id with
  | some c => .ok c
  | none => .error gitFailed

/-- `ls-tree -z <tree> -- <path>` -/
def lsTree (t : Tree) (p : RepoPath) : Option TreeEntry :=
  match t.file? p with
  | some b => some ⟨b.mode, b.kind, g.blobId b.content⟩
  | none => if t.hasDirectory p then some ⟨"040000", "tree", g.directoryId t p⟩ else none

/-- `cat-file` gives back what the tree's object ids stand for. -/
def Faithful (t : Tree) : Prop :=
  ∀ p b, t.file? p = some b → g.catFile (g.blobId b.content) = b.content

theorem commit_ok {g : Repository} {id : String} {c : GitCommit} :
    g.commit id = .ok c ↔ g.commit? id = some c := by
  unfold commit
  cases g.commit? id <;> simp

theorem lsTree_of_file {g : Repository} {t : Tree} {p : RepoPath} {b : Blob}
    (h : t.file? p = some b) : g.lsTree t p = some ⟨b.mode, b.kind, g.blobId b.content⟩ := by
  rw [lsTree, h]

theorem lsTree_eq_none {g : Repository} {t : Tree} {p : RepoPath} :
    g.lsTree t p = none ↔ t.file? p = none ∧ t.hasDirectory p = false := by
  unfold lsTree
  cases t.file? p with
  | some b => simp
  | none => by_cases h : t.hasDirectory p <;> simp [h]

/-- An entry of another type than `tree` is a file's. -/
theorem lsTree_file {g : Repository} {t : Tree} {p : RepoPath} {e : TreeEntry}
    (h : g.lsTree t p = some e) (hkind : e.kind ≠ "tree") :
    ∃ b, t.file? p = some b ∧ e = ⟨b.mode, b.kind, g.blobId b.content⟩ := by
  unfold lsTree at h
  cases hp : t.file? p with
  | some b =>
    rw [hp] at h
    exact ⟨b, rfl, (Option.some.inj h).symm⟩
  | none =>
    rw [hp] at h
    by_cases hd : t.hasDirectory p
    · simp only [hd, if_true] at h
      cases h
      exact absurd rfl hkind
    · simp [hd] at h

end Repository

/-! ## Worktrees -/

/-- What lies at a path of the file system. -/
inductive Node where
  | file (executable : Bool) (content : List UInt8)
  | link (target : List UInt8)
  | other
  deriving DecidableEq, Repr

/-- What Git makes of it. -/
def Node.blob? : Node → Option Blob
  | .file executable content => some ⟨if executable then "100755" else "100644", content⟩
  | .link target => some ⟨"120000", target⟩
  | .other => none

structure Worktree where
  head : String
  branch : Option String
  nodes : List (RepoPath × Node)
  ignored : RepoPath → Bool

namespace Worktree

variable (w : Worktree)

/-- What lies at `p`; a path with something below it is a directory. -/
def node? (p : RepoPath) : Option Node :=
  match w.nodes.lookup p with
  | some n => some n
  | none => if w.nodes.any fun n => below p n.1 then some .other else none

def blob? (p : RepoPath) : Option Blob := (w.node? p).bind Node.blob?

/-- A path above `p` is a symbolic link.
mirrors src/adcp/controller.py:158-165 -/
def escapes (p : RepoPath) : Bool :=
  p.inits.any fun q => below q p && match w.node? q with
    | some (.link _) => true
    | _ => false

/-- `diff --name-only <base>` and `ls-files --others --exclude-standard`, put together
and in order.
mirrors src/adcp/controller.py:206-211 -/
def changed (base : Tree) : List RepoPath :=
  sortedPaths (((base.files.map Prod.fst).filter fun p => base.file? p ≠ w.blob? p) ++
    (w.nodes.map Prod.fst).filter fun p =>
      base.file? p = none ∧ (w.blob? p).isSome ∧ w.ignored p = false)

/-- What Git sees in the worktree is listed there. -/
theorem blob?_listed {w : Worktree} {p : RepoPath} {b : Blob} (h : w.blob? p = some b) :
    ∃ n ∈ w.nodes, n.1 = p := by
  unfold blob? node? at h
  cases hl : w.nodes.lookup p with
  | some n =>
    obtain ⟨l, r, hsplit, -⟩ := List.lookup_eq_some_iff.mp hl
    exact ⟨(p, n), by rw [hsplit]; simp, rfl⟩
  | none =>
    rw [hl] at h
    by_cases hany : (w.nodes.any fun n => below p n.1) = true
    · simp [hany, Node.blob?] at h
    · simp [hany] at h

/-- A directory of the worktree is there. -/
theorem node?_of_below {w : Worktree} {p q : RepoPath} {b : Blob} (h : w.blob? q = some b)
    (hbelow : below p q = true) : w.node? p ≠ none := by
  obtain ⟨n, hn, rfl⟩ := blob?_listed h
  have hany : (w.nodes.any fun n => below p n.1) = true := List.any_eq_true.mpr ⟨n, hn, hbelow⟩
  unfold node?
  cases w.nodes.lookup p <;> simp [hany]

theorem mem_changed {w : Worktree} {base : Tree} {p : RepoPath} (h : p ∈ w.changed base) :
    base.file? p ≠ w.blob? p := by
  unfold changed at h
  rw [mem_sortedPaths, List.mem_append, List.mem_filter, List.mem_filter] at h
  rcases h with ⟨-, hp⟩ | ⟨-, hp⟩
  · exact of_decide_eq_true hp
  · obtain ⟨hbase, hblob, -⟩ := of_decide_eq_true hp
    rw [hbase]
    intro hnone
    rw [← hnone] at hblob
    cases hblob

end Worktree

end Adcp.L3
