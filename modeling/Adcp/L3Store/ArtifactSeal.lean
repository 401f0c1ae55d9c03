import Adcp.L1Base.JsonRoundTrip
import Adcp.L2Domain.DurableResult
import Adcp.L3Store.Schema

/-!
# Sealed artifact trees

Paths below an evidence root, the manifest of a sealed tree, and reading the
tree against its manifest.

* `verifyManifestBytes_read`: the bytes a verified manifest holds for an entry
  are those the file system was read at, under the entry's path.
* `verifyManifestBytes_payload`: a tree that still holds the bytes its manifest
  was written for verifies.
-/
namespace Adcp.L3

open Adcp.L1 Adcp.L2

/-! ## Paths -/

/-- `pathlib.PurePosixPath`: the parts, with empty ones and `.` dropped. -/
structure PosixPath where
  absolute : Bool
  parts : List String
  deriving DecidableEq, Repr

namespace PosixPath

/-- Split at every `/`. -/
def splitParts : List Char → List Char → List String
  | acc, [] => [String.ofList acc.reverse]
  | acc, c :: cs =>
    if c = '/' then String.ofList acc.reverse :: splitParts [] cs else splitParts (c :: acc) cs

def parse (text : String) : PosixPath where
  absolute := text.toList.head? = some '/'
  parts := (splitParts [] text.toList).filter fun p => p ≠ "" && p ≠ "."

/-- `os.path.normpath` of the parts of an absolute path. -/
def collapse : List String → List String → List String
  | acc, [] => acc.reverse
  | acc, p :: ps => if p = ".." then collapse acc.tail ps else collapse (p :: acc) ps

def relativeText (parts : List String) : String := "/".intercalate parts

/-- `Path(text).expanduser()`: a first part that starts with `~` is replaced by
the home directory it stands for; `RuntimeError` where there is none. -/
def expanduser (env : Env) (text : String) : Except PyError PosixPath :=
  let path := parse text
  match path.parts with
  | user :: rest =>
    if path.absolute = false ∧ user.toList.head? = some '~' then do
      let home ← env.home user
      pure ⟨(parse home).absolute, (parse home).parts ++ rest⟩
    else pure path
  | [] => pure path

end PosixPath

/-- The parts of an evidence root, an absolute path.
mirrors src/adcp/artifact_seal.py:71-78 (`_lexical_root`) -/
def lexicalRoot (env : Env) (root : String) : Except PyError (List String) := do
  let path ← PosixPath.expanduser env root
  pure (PosixPath.collapse [] (if path.absolute then path.parts
    else (PosixPath.parse env.cwd).parts ++ path.parts))

def rootText (root : List String) : String := "/" ++ PosixPath.relativeText root

def stripPrefix : List String → List String → Option (List String)
  | [], ps => some ps
  | r :: rs, p :: ps => if r = p then stripPrefix rs ps else none
  | _ :: _, [] => none

/-- mirrors src/adcp/artifact_seal.py:81-99 -/
def relativeArtifactPath (env : Env) (path : String) (root : List String) :
    Except PyError String := do
  let raw ← PosixPath.expanduser env path
  if ".." ∈ raw.parts then boundaryError "EVALUATOR_ARTIFACT_PATH_TRAVERSAL" path
  else match if raw.absolute then stripPrefix root raw.parts else some raw.parts with
    | none => boundaryError "EVALUATOR_ARTIFACT_PATH_ESCAPE" path
    | some [] => boundaryError "EVALUATOR_ARTIFACT_PATH_INVALID" path
    | some parts => .ok (PosixPath.relativeText parts)

/-! ## Manifests -/

/-- mirrors src/adcp/artifact_seal.py:32-37 -/
structure SealedArtifactEntry where
  role : String
  relativePath : String
  sha256 : String
  byteSize : Nat
  deriving DecidableEq, Repr

/-- The content and metadata of a tree that matched its manifest.
mirrors src/adcp/artifact_seal.py:48-52 -/
structure VerifiedArtifactManifest where
  evidenceRoot : List String
  entries : List SealedArtifactEntry
  bytesByPath : List (String × List UInt8)

namespace VerifiedArtifactManifest

/-- mirrors src/adcp/artifact_seal.py:54-58 -/
def entryForRole (m : VerifiedArtifactManifest) (role : String) :
    Except PyError SealedArtifactEntry :=
  match m.entries.filter (·.role = role) with
  | [entry] => .ok entry
  | _ => boundaryError "EVALUATOR_SEALED_ROLE_INVALID" role

/-- mirrors src/adcp/artifact_seal.py:60-64 -/
def entryForPath (m : VerifiedArtifactManifest) (path : String) :
    Except PyError SealedArtifactEntry :=
  match m.entries.filter (·.relativePath = path) with
  | [entry] => .ok entry
  | _ => boundaryError "EVALUATOR_ARTIFACT_NOT_SEALED" path

def bytesAt (m : VerifiedArtifactManifest) (path : String) : Except PyError (List UInt8) :=
  match m.bytesByPath.find? (·.1 = path) with
  | some p => .ok p.2
  | none => .error (.raised "KeyError" path)

/-- mirrors src/adcp/artifact_seal.py:66-68 -/
def bytesForRole (m : VerifiedArtifactManifest) (role : String) : Except PyError (List UInt8) := do
  let entry ← m.entryForRole role
  m.bytesAt entry.relativePath

end VerifiedArtifactManifest

def manifestInvalid {α : Type} : Except PyError α :=
  boundaryError "EVALUATOR_SEAL_MANIFEST_INVALID" ""

/-- One item of a manifest; `seen` are the entries before it.
mirrors src/adcp/artifact_seal.py:291-311 -/
def parseEntry (seen : List SealedArtifactEntry) (item : Json) :
    Except PyError SealedArtifactEntry :=
  match item with
  | .obj fields =>
    match Json.lookupKey "role" fields, Json.lookupKey "relative_path" fields,
      Json.lookupKey "sha256" fields, Json.lookupKey "byte_size" fields with
    | some (.str role), some (.str relative), some (.str digest), some (.int size) => do
      expect (fields.length = 4 ∧ role ≠ "" ∧ relative ≠ "" ∧
          (PosixPath.parse relative).absolute = false ∧ ".." ∉ (PosixPath.parse relative).parts ∧
          isSha256 digest = true ∧ 0 ≤ size ∧ seen.all fun e =>
            e.role ≠ role && e.relativePath ≠ relative)
        "EVALUATOR_SEAL_MANIFEST_INVALID" ""
      pure ⟨role, relative, digest, size.toNat⟩
    | _, _, _, _ => manifestInvalid
  | _ => manifestInvalid

def parseEntries : List SealedArtifactEntry → List Json → Except PyError (List SealedArtifactEntry)
  | seen, [] => .ok seen
  | seen, item :: rest => do
    let entry ← parseEntry seen item
    parseEntries (seen ++ [entry]) rest

/-- Sorted by role, which no two entries share. -/
def sortEntries (entries : List SealedArtifactEntry) : List SealedArtifactEntry :=
  (Json.sortKeys (entries.map fun e => (e.role, e))).map Prod.snd

/-- mirrors src/adcp/artifact_seal.py:276-315 -/
def parseManifest (manifestJson manifestSha256 : String) :
    Except PyError (List SealedArtifactEntry) := do
  let parsed ← match jsonLoads manifestJson with
    | .ok v => .ok v
    | .error _ => manifestInvalid
  let text ← canonicalJson parsed
  let sha ← canonicalSha256 parsed
  expect (text = manifestJson ∧ sha = manifestSha256) "EVALUATOR_SEAL_MANIFEST_HASH_MISMATCH" ""
  expect ((parsed.get? "manifest_version").any (·.pyEq (.int 1)) = true)
    "EVALUATOR_SEAL_MANIFEST_VERSION_INVALID" ""
  match parsed.get? "artifacts" with
  | some (.arr (item :: items)) => do
    let entries ← parseEntries [] (item :: items)
    expect (sortEntries entries = entries) "EVALUATOR_SEAL_MANIFEST_NOT_CANONICAL" ""
    pure entries
  | _ => boundaryError "EVALUATOR_ARTIFACT_MANIFEST_EMPTY" ""

/-- `_read_one` of every entry, against its hash and size.
mirrors src/adcp/artifact_seal.py:328-334 -/
def readEntries (env : Env) (root : String) :
    List SealedArtifactEntry → Except PyError (List (String × List UInt8))
  | [] => .ok []
  | entry :: rest => do
    let data ← env.readOne root entry.relativePath
    expect (Sha256.hexdigest data = entry.sha256 ∧ data.length = entry.byteSize)
      "EVALUATOR_SEALED_ARTIFACT_MISMATCH" entry.relativePath
    let observed ← readEntries env root rest
    pure ((entry.relativePath, data) :: observed)

/-- mirrors src/adcp/artifact_seal.py:318-337 -/
def verifyManifestBytes (env : Env) (evidenceRoot manifestJson manifestSha256 : String) :
    Except PyError VerifiedArtifactManifest := do
  let root ← lexicalRoot env evidenceRoot
  let entries ← parseManifest manifestJson manifestSha256
  env.openDirectory (rootText root)
  let observed ← readEntries env (rootText root) entries
  pure ⟨root, entries, observed⟩

/-! ## What was read -/

theorem readEntries_read {env : Env} {root : String} {entries : List SealedArtifactEntry}
    {observed : List (String × List UInt8)} (h : readEntries env root entries = .ok observed) :
    ∀ p ∈ observed, env.readOne root p.1 = .ok p.2 := by
  induction entries generalizing observed with
  | nil =>
    cases h
    intro p hp
    cases hp
  | cons entry rest ih =>
    obtain ⟨data, hdata, h⟩ := except_bind_ok.mp h
    obtain ⟨-, -, h⟩ := except_bind_ok.mp h
    obtain ⟨tail, htail, h⟩ := except_bind_ok.mp h
    cases h
    intro p hp
    rcases List.mem_cons.mp hp with rfl | hp
    · exact hdata
    · exact ih htail p hp

/-- The bytes a verified manifest holds for a role are those the file system was
read at, under the path of the role's entry. -/
theorem verifyManifestBytes_read {env : Env} {root json sha role : String}
    {view : VerifiedArtifactManifest} {raw : List UInt8}
    (hv : verifyManifestBytes env root json sha = .ok view) (hr : view.bytesForRole role = .ok raw) :
    lexicalRoot env root = .ok view.evidenceRoot ∧ parseManifest json sha = .ok view.entries ∧
      ∃ entry, view.entryForRole role = .ok entry ∧
        env.readOne (rootText view.evidenceRoot) entry.relativePath = .ok raw := by
  unfold verifyManifestBytes at hv
  obtain ⟨lexical, hlexical, hv⟩ := except_bind_ok.mp hv
  obtain ⟨entries, hp, hv⟩ := except_bind_ok.mp hv
  obtain ⟨-, -, hv⟩ := except_bind_ok.mp hv
  obtain ⟨observed, ho, hv⟩ := except_bind_ok.mp hv
  cases hv
  refine ⟨hlexical, hp, ?_⟩
  unfold VerifiedArtifactManifest.bytesForRole at hr
  obtain ⟨entry, he, hr⟩ := except_bind_ok.mp hr
  refine ⟨entry, he, ?_⟩
  unfold VerifiedArtifactManifest.bytesAt at hr
  split at hr
  · rename_i p hfind
    cases hr
    have hpath : p.1 = entry.relativePath := by simpa using List.find?_some hfind
    have hmem := readEntries_read ho p (List.mem_of_find?_eq_some hfind)
    rw [hpath] at hmem
    exact hmem
  · cases hr

theorem readEntries_hash {env : Env} {root : String} {entries : List SealedArtifactEntry}
    {observed : List (String × List UInt8)} (h : readEntries env root entries = .ok observed) :
    ∀ e ∈ entries, ∃ data, env.readOne root e.relativePath = .ok data ∧
      Sha256.hexdigest data = e.sha256 := by
  induction entries generalizing observed with
  | nil =>
    intro e he
    cases he
  | cons entry rest ih =>
    obtain ⟨data, hdata, h⟩ := except_bind_ok.mp h
    obtain ⟨_, hsame, h⟩ := except_bind_ok.mp h
    obtain ⟨tail, htail, h⟩ := except_bind_ok.mp h
    intro e he
    rcases List.mem_cons.mp he with rfl | he
    · unfold expect at hsame
      split at hsame
      · rename_i hc
        exact ⟨data, hdata, hc.1⟩
      · cases hsame
    · exact ih htail e he

theorem entryForRole_mem {m : VerifiedArtifactManifest} {role : String} {entry : SealedArtifactEntry}
    (h : m.entryForRole role = .ok entry) : entry ∈ m.entries := by
  unfold VerifiedArtifactManifest.entryForRole at h
  split at h
  · rename_i e hfilter
    cases h
    exact List.mem_of_mem_filter (hfilter ▸ List.mem_singleton_self _)
  · cases h

/-- The bytes a verified manifest holds for a role have the hash of its entry. -/
theorem verifyManifestBytes_hash {env : Env} {root json sha role : String}
    {view : VerifiedArtifactManifest} {raw : List UInt8}
    (hv : verifyManifestBytes env root json sha = .ok view) (hr : view.bytesForRole role = .ok raw) :
    ∃ entry, view.entryForRole role = .ok entry ∧ Sha256.hexdigest raw = entry.sha256 := by
  obtain ⟨-, -, entry, hentry, hread⟩ := verifyManifestBytes_read hv hr
  refine ⟨entry, hentry, ?_⟩
  unfold verifyManifestBytes at hv
  obtain ⟨lexical, -, hv⟩ := except_bind_ok.mp hv
  obtain ⟨entries, -, hv⟩ := except_bind_ok.mp hv
  obtain ⟨-, -, hv⟩ := except_bind_ok.mp hv
  obtain ⟨observed, ho, hv⟩ := except_bind_ok.mp hv
  cases hv
  obtain ⟨data, hdata, hhash⟩ := readEntries_hash ho entry (entryForRole_mem hentry)
  rw [hread] at hdata
  cases hdata
  exact hhash

/-! ## The manifest of a tree -/

/-- mirrors src/adcp/artifact_seal.py:39-45 -/
def SealedArtifactEntry.asJson (e : SealedArtifactEntry) : Json :=
  .obj [("role", .str e.role), ("relative_path", .str e.relativePath), ("sha256", .str e.sha256),
    ("byte_size", .int e.byteSize)]

/-- mirrors src/adcp/artifact_seal.py:269-272 -/
def manifestPayload (entries : List SealedArtifactEntry) : Json :=
  .obj [("manifest_version", .int 1), ("artifacts", .arr (entries.map SealedArtifactEntry.asJson))]

/-- The entry of a file that was read. -/
def SealedArtifactEntry.ofBytes (role path : String) (data : List UInt8) : SealedArtifactEntry :=
  ⟨role, path, Sha256.hexdigest data, data.length⟩

/-- The path is one of a file below the root. -/
def BelowRoot (path : String) : Prop :=
  path ≠ "" ∧ (PosixPath.parse path).absolute = false ∧ ".." ∉ (PosixPath.parse path).parts

instance (path : String) : Decidable (BelowRoot path) := by unfold BelowRoot; infer_instance

theorem asJson_noFloat (e : SealedArtifactEntry) : e.asJson.noFloat = true := by
  simp [SealedArtifactEntry.asJson, Json.noFloat, Json.noFloatFields]

theorem asJson_distinctKeys (e : SealedArtifactEntry) : e.asJson.distinctKeys := by
  simp [SealedArtifactEntry.asJson, Json.distinctKeys, Json.distinctKeysFields]

theorem manifestPayload_noFloat (entries : List SealedArtifactEntry) :
    (manifestPayload entries).noFloat = true := by
  simp only [manifestPayload, Json.noFloat, Json.noFloatFields, Bool.true_and, Bool.and_true]
  rw [Json.noFloatItems_iff]
  intro v hv
  obtain ⟨e, -, rfl⟩ := List.mem_map.mp hv
  exact asJson_noFloat e

theorem manifestPayload_distinctKeys (entries : List SealedArtifactEntry) :
    (manifestPayload entries).distinctKeys := by
  refine ⟨by simp, trivial, ?_, trivial⟩
  rw [Json.distinctKeys, Json.distinctKeysItems_iff]
  intro v hv
  obtain ⟨e, -, rfl⟩ := List.mem_map.mp hv
  exact asJson_distinctKeys e

theorem parseEntry_asJson {seen : List SealedArtifactEntry} {role path : String} {data : List UInt8}
    (hrole : role ≠ "") (hpath : BelowRoot path)
    (hseen : ∀ e ∈ seen, e.role ≠ role ∧ e.relativePath ≠ path) :
    parseEntry seen (Json.sorted (SealedArtifactEntry.ofBytes role path data).asJson) =
      .ok (.ofBytes role path data) := by
  obtain ⟨hne, hrel, hup⟩ := hpath
  have hall : seen.all (fun e => e.role ≠ role && e.relativePath ≠ path) = true := by
    simpa using hseen
  have hsorted : Json.sorted (SealedArtifactEntry.ofBytes role path data).asJson =
      .obj [("byte_size", .int data.length), ("relative_path", .str path), ("role", .str role),
        ("sha256", .str (Sha256.hexdigest data))] := by
    have hbyte : "byte_size" < "sha256" ∧ "byte_size" < "relative_path" ∧ "byte_size" < "role" := by
      decide
    have hsha : ¬ "sha256" < "relative_path" ∧ ¬ "sha256" < "role" ∧ "relative_path" < "role" := by
      decide
    simp only [SealedArtifactEntry.asJson, SealedArtifactEntry.ofBytes, Json.sorted,
      Json.sortedFields, Json.sortKeys, Json.insertKey, hbyte, hsha, ↓reduceIte]
  rw [hsorted]
  simp only [parseEntry, Json.lookupKey, String.reduceEq, ↓reduceIte]
  unfold expect
  rw [if_pos]
  · rfl
  · exact ⟨rfl, hrole, hne, hrel, hup, isSha256_hexdigest _, by omega, hall⟩

/-- Entries as a tree is collected: of files below the root, in the order of their
roles, no role and no path twice. -/
structure Collected (entries : List SealedArtifactEntry) : Prop where
  nonempty : entries ≠ []
  read : ∀ e ∈ entries, ∃ data, e = .ofBytes e.role e.relativePath data
  roles : ∀ e ∈ entries, e.role ≠ ""
  paths : ∀ e ∈ entries, BelowRoot e.relativePath
  distinct : entries.Pairwise fun e e' => e.role ≠ e'.role ∧ e.relativePath ≠ e'.relativePath
  inOrder : entries.Pairwise fun e e' => e.role ≤ e'.role

theorem parseEntries_asJson {entries : List SealedArtifactEntry} (seen : List SealedArtifactEntry)
    (hc : ∀ e ∈ entries, ∃ data, e = .ofBytes e.role e.relativePath data)
    (hrole : ∀ e ∈ entries, e.role ≠ "") (hpath : ∀ e ∈ entries, BelowRoot e.relativePath)
    (hd : entries.Pairwise fun e e' => e.role ≠ e'.role ∧ e.relativePath ≠ e'.relativePath)
    (hs : ∀ e ∈ seen, ∀ e' ∈ entries, e.role ≠ e'.role ∧ e.relativePath ≠ e'.relativePath) :
    parseEntries seen (entries.map fun e => Json.sorted e.asJson) = .ok (seen ++ entries) := by
  induction entries generalizing seen with
  | nil => simp [parseEntries]
  | cons e rest ih =>
    obtain ⟨data, he⟩ := hc e (List.mem_cons_self ..)
    rw [List.pairwise_cons] at hd
    have hfirst : parseEntry seen (Json.sorted e.asJson) = .ok e := by
      rw [he]
      exact parseEntry_asJson (hrole e (List.mem_cons_self ..)) (hpath e (List.mem_cons_self ..))
        fun e' he' => hs e' he' e (List.mem_cons_self ..)
    have hrest := ih (seen ++ [e]) (fun x hx => hc x (List.mem_cons_of_mem _ hx))
      (fun x hx => hrole x (List.mem_cons_of_mem _ hx))
      (fun x hx => hpath x (List.mem_cons_of_mem _ hx)) hd.2 ?_
    · rw [List.map_cons, parseEntries, hfirst]
      show parseEntries (seen ++ [e]) _ = _
      rw [hrest, List.append_assoc]
      rfl
    · intro x hx y hy
      rcases List.mem_append.mp hx with hx | hx
      · exact hs x hx y (List.mem_cons_of_mem _ hy)
      · rw [List.mem_singleton] at hx
        subst hx
        exact hd.1 y hy

theorem sortEntries_inOrder {entries : List SealedArtifactEntry}
    (h : entries.Pairwise fun e e' => e.role ≤ e'.role) : sortEntries entries = entries := by
  have hin : Json.KeysInOrder (entries.map fun e => (e.role, e)) := List.pairwise_map.mpr h
  rw [sortEntries, Json.sortKeys_of_inOrder hin, List.map_map]
  exact List.map_id _

/-- **The manifest written for a tree is read back as its entries.** -/
theorem parseManifest_payload {entries : List SealedArtifactEntry} (h : Collected entries) :
    parseManifest (String.ofList (manifestPayload entries).render)
      (Sha256.hexdigest (Sha256.utf8 (manifestPayload entries).render)) = .ok entries := by
  have hf := manifestPayload_noFloat entries
  have hd := manifestPayload_distinctKeys entries
  have hloads : jsonLoads (String.ofList (manifestPayload entries).render) =
      .ok (Json.sorted (manifestPayload entries)) := by
    unfold jsonLoads
    rw [String.toList_ofList, Json.loads_render hf hd]
  have hversion : (Json.sorted (manifestPayload entries)).get? "manifest_version" =
      some (.int 1) := by
    rw [Json.get?_sorted hd]
    rfl
  have hitems : (Json.sorted (manifestPayload entries)).get? "artifacts" =
      some (.arr (entries.map fun e => Json.sorted e.asJson)) := by
    rw [Json.get?_sorted hd]
    show some (Json.sorted (.arr (entries.map SealedArtifactEntry.asJson))) = _
    rw [Json.sorted, Json.sortedItems_eq, List.map_map]
    rfl
  have hsf : (Json.sorted (manifestPayload entries)).noFloat = true := by
    rw [Json.noFloat_sorted, hf]
  have hentries := parseEntries_asJson [] h.read h.roles h.paths h.distinct (by simp)
  have hsort := sortEntries_inOrder h.inOrder
  obtain ⟨e, rest, rfl⟩ : ∃ e rest, entries = e :: rest := by
    cases entries with
    | nil => exact absurd rfl h.nonempty
    | cons e rest => exact ⟨e, rest, rfl⟩
  unfold parseManifest
  rw [hloads]
  refine except_bind_ok.mpr ⟨_, rfl, except_bind_ok.mpr ⟨_, if_pos hsf, except_bind_ok.mpr
    ⟨_, if_pos hsf, except_bind_ok.mpr ⟨(), ?_, except_bind_ok.mpr ⟨(), ?_, ?_⟩⟩⟩⟩⟩
  · rw [Json.render_sorted]
    exact if_pos ⟨rfl, rfl⟩
  · rw [hversion]
    exact if_pos rfl
  · rw [hitems, List.map_cons]
    exact except_bind_ok.mpr ⟨_, hentries, except_bind_ok.mpr ⟨(), if_pos hsort, rfl⟩⟩

/-- Every entry was read with the bytes it was made of. -/
theorem readEntries_ofBytes {env : Env} {root : String} {data : String → List UInt8}
    {entries : List SealedArtifactEntry}
    (h : ∀ e ∈ entries, env.readOne root e.relativePath = .ok (data e.relativePath) ∧
      e = .ofBytes e.role e.relativePath (data e.relativePath)) :
    readEntries env root entries =
      .ok (entries.map fun e => (e.relativePath, data e.relativePath)) := by
  induction entries with
  | nil => rfl
  | cons e rest ih =>
    obtain ⟨hread, he⟩ := h e (List.mem_cons_self ..)
    have hsha : Sha256.hexdigest (data e.relativePath) = e.sha256 := by rw [he]; rfl
    have hsize : (data e.relativePath).length = e.byteSize := by rw [he]; rfl
    have hrest := ih fun x hx => h x (List.mem_cons_of_mem _ hx)
    unfold readEntries
    rw [hread]
    show (do
      expect _ _ _
      let observed ← readEntries env root rest
      pure ((e.relativePath, data e.relativePath) :: observed) : Except PyError _) = _
    unfold expect
    rw [if_pos ⟨hsha, hsize⟩, hrest]
    rfl

/-- **A tree that still holds the bytes it was sealed with verifies.** -/
theorem verifyManifestBytes_payload {env : Env} {evidenceRoot : String} {root : List String}
    {data : String → List UInt8} {entries : List SealedArtifactEntry} (hc : Collected entries)
    (hroot : lexicalRoot env evidenceRoot = .ok root)
    (hopen : env.openDirectory (rootText root) = .ok ())
    (hread : ∀ e ∈ entries, env.readOne (rootText root) e.relativePath = .ok (data e.relativePath) ∧
      e = .ofBytes e.role e.relativePath (data e.relativePath)) :
    verifyManifestBytes env evidenceRoot (String.ofList (manifestPayload entries).render)
      (Sha256.hexdigest (Sha256.utf8 (manifestPayload entries).render)) =
        .ok ⟨root, entries, entries.map fun e => (e.relativePath, data e.relativePath)⟩ := by
  unfold verifyManifestBytes
  rw [hroot, parseManifest_payload hc]
  show (do
    env.openDirectory (rootText root)
    let observed ← readEntries env (rootText root) entries
    pure (⟨root, entries, observed⟩ : VerifiedArtifactManifest) : Except PyError _) = _
  rw [hopen, readEntries_ofBytes hread]
  rfl

end Adcp.L3
