import Adcp.L3Store.RuntimeIdentity
/-!
# The runtime gate is sound

Every value that a check of an identity accepts is the text it returns, so that a valid identity and
its field values determine each other. Most of these texts are ASCII, which the file keeps as is.

* `parseCanonicalTimestamp_ok`: the parser inverts the formatter, and accepts nothing else.
* `readRuntimeIdentity_text`: what is read of a written identity.
* `Admitted`: all that the gate checked of a process that it lets through.
* `runtime_gate_sound`: over all orders of captures, writes and checks.
-/
namespace Adcp.L3.Identity

open Adcp.L1 Adcp.L2 PyText

theorem guarded_ok {c : Bool} {fault : IdentityFault} {u : Unit} :
    guarded c fault = .ok u ↔ c = true := by
  unfold guarded
  cases c
  · exact iff_of_false (by intro h; cases h) (by decide)
  · exact iff_of_true rfl rfl

theorem guarded_bind_ok {α : Type} {c : Bool} {fault : IdentityFault} {f : Unit → Checked α}
    {r : α} : (guarded c fault >>= f) = .ok r ↔ c = true ∧ f () = .ok r := by
  rw [except_bind_ok]
  constructor
  · rintro ⟨⟨⟩, hc, hf⟩
    exact ⟨guarded_ok.mp hc, hf⟩
  · rintro ⟨hc, hf⟩
    exact ⟨(), guarded_ok.mpr hc, hf⟩

/-! ## What a check accepts -/

/-- No space around it, and not empty. -/
def Stripped (t : PyText) : Prop := strip t ≠ [] ∧ t = strip t

theorem requireText_ok {value : PyJson} {field : String} {t : PyText} :
    requireText value field = .ok t ↔ value = .str t ∧ Stripped t := by
  unfold requireText Stripped
  cases value with
  | str s =>
    simp only [PyJson.str.injEq]
    by_cases h : strip s = [] ∨ s ≠ strip s
    · rw [if_pos h]
      refine iff_of_false (by intro h; cases h) ?_
      rintro ⟨rfl, hne, heq⟩
      exact h.elim hne fun hs => hs heq
    · rw [if_neg h]
      push Not at h
      constructor
      · intro hs
        cases hs
        exact ⟨rfl, h⟩
      · rintro ⟨rfl, -⟩
        rfl
  | _ => exact iff_of_false (by intro h; cases h) (by rintro ⟨h, -⟩; cases h)

theorem requirePid_ok {value : PyJson} {n : Int} :
    requirePid value = .ok n ↔ value = .int n ∧ 0 < n := by
  unfold requirePid
  cases value with
  | int m =>
    simp only [PyJson.int.injEq]
    by_cases h : 0 < m
    · rw [if_pos h, Except.ok.injEq]
      exact ⟨fun hm => ⟨hm, hm ▸ h⟩, And.left⟩
    · rw [if_neg h]
      refine iff_of_false (by intro h; cases h) ?_
      rintro ⟨rfl, hpos⟩
      exact h hpos
  | _ => exact iff_of_false (by intro h; cases h) (by rintro ⟨h, -⟩; cases h)

theorem requireCommit_ok {value : PyJson} {field : String} {t : PyText} :
    requireCommit value field = .ok t ↔ value = .str t ∧ Stripped t ∧ isHex 40 t = true := by
  unfold requireCommit
  rw [except_bind_ok]
  simp only [requireText_ok, guarded_bind_ok]
  constructor
  · rintro ⟨s, ⟨hv, hs⟩, hhex, heq⟩
    cases heq
    exact ⟨hv, hs, hhex⟩
  · rintro ⟨hv, hs, hhex⟩
    exact ⟨t, ⟨hv, hs⟩, hhex, rfl⟩

theorem requireIncarnation_ok {value : PyJson} {field : String} {t : PyText} :
    requireIncarnation value field = .ok t ↔ value = .str t ∧ Stripped t ∧ isHex 64 t = true := by
  unfold requireIncarnation
  rw [except_bind_ok]
  simp only [requireText_ok, guarded_bind_ok]
  constructor
  · rintro ⟨s, ⟨hv, hs⟩, hhex, heq⟩
    cases heq
    exact ⟨hv, hs, hhex⟩
  · rintro ⟨hv, hs, hhex⟩
    exact ⟨t, ⟨hv, hs⟩, hhex, rfl⟩

/-- `source-commit:`, `sha256:` or `wheel-sha256:` and so many hex digits. -/
def IsArtifact (t : PyText) : Prop :=
  ((ofString "source-commit:").isPrefixOf t && isHex 40 (t.drop 14) ||
    (ofString "sha256:").isPrefixOf t && isHex 64 (t.drop 7) ||
    (ofString "wheel-sha256:").isPrefixOf t && isHex 64 (t.drop 13)) = true

theorem requireArtifactIdentity_ok {value : PyJson} {field : String} {t : PyText} :
    requireArtifactIdentity value field = .ok t ↔ value = .str t ∧ Stripped t ∧ IsArtifact t := by
  unfold requireArtifactIdentity
  rw [except_bind_ok]
  simp only [requireText_ok, guarded_bind_ok]
  constructor
  · rintro ⟨s, ⟨hv, hs⟩, hform, heq⟩
    cases heq
    exact ⟨hv, hs, hform⟩
  · rintro ⟨hv, hs, hform⟩
    exact ⟨t, ⟨hv, hs⟩, hform, rfl⟩

/-! ## Time stamps -/

theorem strip_eq_self {t : PyText} (hhead : ∀ c ∈ t.head?, isSpace c = false)
    (hlast : ∀ c ∈ t.getLast?, isSpace c = false) : strip t = t := by
  have hdrop : ∀ s : PyText, (∀ c ∈ s.head?, isSpace c = false) → s.dropWhile isSpace = s := by
    intro s hs
    cases s with
    | nil => rfl
    | cons c s =>
      rw [List.dropWhile_cons_of_neg]
      rw [hs c rfl]
      decide
  unfold strip
  rw [hdrop t hhead, hdrop t.reverse (by rwa [List.head?_reverse]), List.reverse_reverse]

theorem digits_cons (k n : Nat) : ∃ c cs, Timestamp.digits k n = c :: cs ∧ c.isDigit = true := by
  have hall : ∀ c ∈ Timestamp.digits k n, c.isDigit = true := by
    intro c hc
    rcases List.mem_append.mp hc with hc | hc
    · rw [(List.mem_replicate.mp hc).2]
      decide
    · exact Nat.isDigit_of_mem_toDigits (by omega) (by omega) hc
  cases hcs : Timestamp.digits k n with
  | nil => exact absurd (List.append_eq_nil_iff.mp hcs).2 Nat.toDigits_ne_nil
  | cons c cs => exact ⟨c, cs, rfl, hall c (by rw [hcs]; exact List.mem_cons_self)⟩

theorem text_head (t : Timestamp) :
    ∃ c, c.isDigit = true ∧ (ofString t.text).head? = some (ofChar c) := by
  obtain ⟨c, cs, hdigits, hc⟩ := digits_cons 4 (Timestamp.civil (t.micros / 1000000 / 86400)).1
  refine ⟨c, hc, ?_⟩
  unfold Timestamp.text ofString ofChars
  simp only [String.toList_ofList, hdigits, List.cons_append, List.map_cons, List.head?_cons]

theorem text_offset (t : Timestamp) : ofString "+00:00" <:+ ofString t.text := by
  unfold Timestamp.text
  simp only [ofString, String.toList_ofList]
  exact (List.suffix_append _ _).map ofChar

theorem digit_not_space {c : Char} (hc : c.isDigit = true) : isSpace (ofChar c) = false := by
  have hbounds : 48 ≤ c.toNat ∧ c.toNat ≤ 57 := by
    simp only [Char.isDigit, Bool.and_eq_true, decide_eq_true_eq] at hc
    exact ⟨hc.1, hc.2⟩
  unfold isSpace
  simp only [decide_eq_false_iff_not]
  intro h
  have hval : (ofChar c).val = c.toNat := rfl
  simp only [hval, List.mem_cons, List.not_mem_nil, or_false] at h
  omega

theorem text_stripped (t : Timestamp) : Stripped (ofString t.text) := by
  obtain ⟨c, hc, hhead⟩ := text_head t
  obtain ⟨body, hbody⟩ := text_offset t
  have hstrip : strip (ofString t.text) = ofString t.text := by
    apply strip_eq_self
    · rw [hhead]
      rintro _ ⟨⟩
      exact digit_not_space hc
    · have hlast : (ofString t.text).getLast? = some (ofChar '0') := by
        rw [← hbody, List.getLast?_append]
        rfl
      rw [hlast]
      rintro _ ⟨⟩
      decide
  refine ⟨?_, hstrip.symm⟩
  rw [hstrip]
  intro hnil
  rw [hnil] at hhead
  cases hhead

theorem astimezone_zero (t : Timestamp) : Datetime.astimezone t 0 = .ok t := by
  have hbound : 0 ≤ (t.micros : Int) - 0 ∧ ((t.micros : Int) - 0).toNat < maxMicros :=
    ⟨by omega, by simpa using t.bound⟩
  unfold Datetime.astimezone
  simp only
  rw [dif_pos hbound]
  congr

/-- **The parser inverts the formatter**, and accepts nothing else. -/
theorem parseCanonicalTimestamp_ok {py : Python} (hpy : py.Documented) {value : PyJson}
    {field : String} {t : Timestamp} :
    parseCanonicalTimestamp py value field = .ok t ↔ value = .str (ofString t.text) := by
  unfold parseCanonicalTimestamp
  constructor
  · intro h
    obtain ⟨s, hs, hafter⟩ := except_bind_ok.mp h
    obtain ⟨rfl, -⟩ := requireText_ok.mp hs
    obtain ⟨-, hrest⟩ := guarded_bind_ok.mp hafter
    cases hparsed : py.fromisoformat s with
    | none =>
      rw [hparsed] at hrest
      cases hrest
    | some parsed =>
      simp only [hparsed] at hrest
      cases hoffset : parsed.utcoffset with
      | none =>
        rw [hoffset] at hrest
        cases hrest
      | some offset =>
        simp only [hoffset] at hrest
        cases hutc : Datetime.astimezone parsed.wall offset with
        | error e =>
          rw [hutc] at hrest
          cases hrest
        | ok u =>
          rw [hutc] at hrest
          obtain ⟨heq, hu⟩ := guarded_bind_ok.mp hrest
          cases hu
          rw [of_decide_eq_true heq]
  · rintro rfl
    refine except_bind_ok.mpr ⟨_, requireText_ok.mpr ⟨rfl, text_stripped t⟩, ?_⟩
    refine guarded_bind_ok.mpr ⟨List.isSuffixOf_iff_suffix.mpr (text_offset t), ?_⟩
    simp only [hpy t, utc, astimezone_zero]
    exact guarded_bind_ok.mpr ⟨by simp, rfl⟩

/-- What the formatter writes. -/
theorem timestamp_ok {s : PyText} :
    (∃ d, timestamp d = .ok s) ↔ ∃ t : Timestamp, s = ofString t.text := by
  constructor
  · rintro ⟨d, h⟩
    unfold timestamp at h
    cases hoffset : d.utcoffset with
    | none =>
      rw [hoffset] at h
      cases h
    | some offset =>
      simp only [hoffset] at h
      cases hutc : Datetime.astimezone d.wall offset with
      | error e =>
        rw [hutc] at h
        cases h
      | ok t =>
        rw [hutc] at h
        exact ⟨t, (Except.ok.inj h).symm⟩
  · rintro ⟨t, ht⟩
    refine ⟨utc t, ?_⟩
    unfold timestamp
    simp only [utc, astimezone_zero, ht]

/-! ## Texts that a file keeps -/

/-- No high surrogate in it. -/
def Plain (t : PyText) : Prop := ∀ c ∈ t, ¬ PyJson.IsHigh c

theorem Plain.append {s t : PyText} (hs : Plain s) (ht : Plain t) : Plain (s ++ t) := by
  intro c hc
  exact (List.mem_append.mp hc).elim (hs c) (ht c)

theorem plain_ofString (s : String) : Plain (ofString s) := by
  intro c hc hhigh
  obtain ⟨a, -, rfl⟩ := List.mem_map.mp hc
  have hvalid := a.valid
  obtain ⟨hlow, hbound⟩ := hhigh
  have hval : (ofChar a).val = a.toNat := rfl
  rw [hval] at hlow hbound
  rcases hvalid with h | ⟨h, -⟩
  · have : a.toNat < 0xD800 := h
    omega
  · have : 0xDFFF < a.toNat := h
    omega

theorem plain_of_all {p : CodePoint → Bool} (hp : ∀ c, p c = true → c.val < 128) {t : PyText}
    (h : t.all p = true) : Plain t := by
  intro c hc hhigh
  have hsmall := hp c (List.all_eq_true.mp h c hc)
  have hbig := hhigh.1
  omega

theorem isLowerHex_ascii {c : CodePoint} (h : isLowerHex c = true) : c.val < 128 := by
  unfold isLowerHex isDigit at h
  simp only [Bool.or_eq_true, Bool.and_eq_true, decide_eq_true_eq] at h
  omega

theorem plain_hex {n : Nat} {t : PyText} (h : isHex n t = true) : Plain t := by
  unfold isHex at h
  simp only [Bool.and_eq_true] at h
  exact plain_of_all (fun c hc => isLowerHex_ascii hc) h.2

/-- A known prefix with a plain text behind it. -/
theorem plain_of_prefix {literal : String} {t : PyText}
    (h : (ofString literal).isPrefixOf t = true)
    (hrest : Plain (t.drop (ofString literal).length)) : Plain t := by
  obtain ⟨rest, rfl⟩ := List.isPrefixOf_iff_prefix.mp h
  rw [List.drop_left] at hrest
  exact (plain_ofString literal).append hrest

theorem plain_artifact {t : PyText} (h : IsArtifact t) : Plain t := by
  unfold IsArtifact at h
  simp only [Bool.or_eq_true, Bool.and_eq_true] at h
  rcases h with (⟨hpre, hhex⟩ | ⟨hpre, hhex⟩) | ⟨hpre, hhex⟩
  all_goals exact plain_of_prefix hpre (plain_hex hhex)

theorem plain_after {literal : String} {t rest : PyText} (h : after literal t = some rest)
    (hrest : Plain rest) : Plain t := by
  unfold after at h
  split_ifs at h with hpre
  cases h
  exact plain_of_prefix hpre hrest

theorem plain_hexes {n : Nat} {t part rest : PyText} (h : hexes n t = some (part, rest))
    (hrest : Plain rest) : Plain t := by
  unfold hexes at h
  split_ifs at h with hhex
  cases h
  rw [← List.take_append_drop n t]
  exact (plain_hex hhex).append hrest

theorem plain_buildTail {t pre commit artifact : PyText}
    (h : buildTail t = some (pre, commit, artifact)) (hartifact : Plain artifact) : Plain t := by
  unfold buildTail at h
  obtain ⟨⟨a, t₁⟩, h₁, h⟩ := Option.bind_eq_some_iff.mp h
  obtain ⟨t₂, h₂, h⟩ := Option.bind_eq_some_iff.mp h
  obtain ⟨⟨b, t₃⟩, h₃, h⟩ := Option.bind_eq_some_iff.mp h
  obtain ⟨t₄, h₄, h⟩ := Option.bind_eq_some_iff.mp h
  split_ifs at h
  cases h
  exact plain_hexes h₁ (plain_after h₂ (plain_hexes h₃ (plain_after h₄ hartifact)))

/-- The characters of a class, and a plain text behind them. -/
theorem plain_takeWhile {p : CodePoint → Bool} (hp : ∀ c, p c = true → c.val < 128) {t : PyText}
    (hrest : Plain (t.drop (t.takeWhile p).length)) : Plain t := by
  have hname : Plain (t.takeWhile p) := plain_of_all hp (List.all_takeWhile ..)
  obtain ⟨rest, ht⟩ := List.takeWhile_prefix (l := t) p
  generalize t.takeWhile p = name at *
  rw [← ht] at hrest ⊢
  rw [List.drop_left] at hrest
  exact hname.append hrest

theorem isNameChar_ascii {c : CodePoint} (h : isNameChar c = true) : c.val < 128 := by
  unfold isNameChar isAlphanumeric isDigit at h
  simp only [Bool.or_eq_true, Bool.and_eq_true, decide_eq_true_eq] at h
  rcases h with ((((h | h) | h) | rfl) | rfl) | rfl
  · omega
  · omega
  · omega
  all_goals decide

theorem plain_matchProductBuild {t name pre commit artifact : PyText}
    (h : matchProductBuild t = some (name, pre, commit, artifact)) (hartifact : Plain artifact) :
    Plain t := by
  unfold matchProductBuild at h
  obtain ⟨rest, hrest, h⟩ := Option.bind_eq_some_iff.mp h
  simp only at h
  split_ifs at h
  obtain ⟨u, hu, h⟩ := Option.bind_eq_some_iff.mp h
  obtain ⟨⟨a, b, c⟩, htail, h⟩ := Option.bind_eq_some_iff.mp h
  cases h
  exact plain_after hrest (plain_takeWhile (fun c hc => isNameChar_ascii hc)
    (plain_after hu (plain_buildTail htail hartifact)))

theorem plain_matchClientBuild {t version pre commit artifact : PyText}
    (h : matchClientBuild t = some (version, pre, commit, artifact)) (hartifact : Plain artifact) :
    Plain t := by
  unfold matchClientBuild at h
  obtain ⟨rest, hrest, h⟩ := Option.bind_eq_some_iff.mp h
  simp only at h
  split_ifs at h
  obtain ⟨u, hu, h⟩ := Option.bind_eq_some_iff.mp h
  obtain ⟨⟨a, b, c⟩, htail, h⟩ := Option.bind_eq_some_iff.mp h
  cases h
  refine plain_after hrest (plain_takeWhile ?_ (plain_after hu (plain_buildTail htail hartifact)))
  intro c hc
  unfold isDigit at hc
  simp only [Bool.or_eq_true, Bool.and_eq_true, decide_eq_true_eq] at hc
  rcases hc with hc | rfl
  · omega
  · decide

theorem requireProductBuild_ok {value : PyJson} {commit artifact t : PyText}
    (h : requireProductBuild value commit artifact = .ok t) : value = .str t ∧ Plain t := by
  unfold requireProductBuild at h
  obtain ⟨s, hs, hbuild⟩ := except_bind_ok.mp h
  obtain ⟨rfl, -⟩ := requireText_ok.mp hs
  cases hmatch : matchProductBuild s with
  | none =>
    rw [hmatch] at hbuild
    cases hbuild
  | some parts =>
    obtain ⟨name, pre, commit', artifact'⟩ := parts
    rw [hmatch] at hbuild
    obtain ⟨-, hrest⟩ := guarded_bind_ok.mp hbuild
    obtain ⟨embedded, hembedded, hrest⟩ := except_bind_ok.mp hrest
    obtain ⟨-, hrest⟩ := guarded_bind_ok.mp hrest
    obtain ⟨heq, -, hform⟩ := requireArtifactIdentity_ok.mp hembedded
    cases hrest
    cases heq
    exact ⟨rfl, plain_matchProductBuild hmatch (plain_artifact hform)⟩

theorem requireClientBuild_ok {value : PyJson} {t : PyText} (h : requireClientBuild value = .ok t) :
    value = .str t ∧ Plain t := by
  unfold requireClientBuild at h
  obtain ⟨s, hs, hbuild⟩ := except_bind_ok.mp h
  obtain ⟨rfl, -⟩ := requireText_ok.mp hs
  cases hmatch : matchClientBuild s with
  | none =>
    rw [hmatch] at hbuild
    cases hbuild
  | some parts =>
    obtain ⟨version, pre, commit', artifact'⟩ := parts
    rw [hmatch] at hbuild
    obtain ⟨embedded, hembedded, hrest⟩ := except_bind_ok.mp hbuild
    obtain ⟨-, hrest⟩ := guarded_bind_ok.mp hrest
    obtain ⟨-, hrest⟩ := guarded_bind_ok.mp hrest
    obtain ⟨-, hrest⟩ := guarded_bind_ok.mp hrest
    obtain ⟨heq, -, hform⟩ := requireArtifactIdentity_ok.mp hembedded
    cases hrest
    cases heq
    exact ⟨rfl, plain_matchClientBuild hmatch (plain_artifact hform)⟩

/-! ## Valid identities -/

/-- The record of an identity. -/
def RuntimeIdentity.raw (id : RuntimeIdentity) : RawIdentity where
  serviceCode := .str id.serviceCode
  pid := .int id.pid
  processStartedAt := .str (ofString id.processStartedAt.text)
  processIncarnationId := .str id.processIncarnationId
  productBuildCommit := .str id.productBuildCommit
  productBuildIdentity := .str id.productBuildIdentity
  globalWriterClientBuild := .str id.globalWriterClientBuild
  interpreterOrExecutable := .str id.interpreterOrExecutable
  sourceRootOrArtifactIdentity := .str id.sourceRootOrArtifactIdentity
  identityGeneratedAt := .str (ofString id.identityGeneratedAt.text)
  configArtifactIdentity := (id.configArtifactIdentity.map PyJson.str).getD .null
  schemaVersion := id.schemaVersion

/-- What a valid identity is. -/
structure RuntimeIdentity.Valid (py : Python) (id : RuntimeIdentity) : Prop where
  schema : isVersionNumber py id.schemaVersion 3 = true
  service : Stripped id.serviceCode
  pid : 0 < id.pid
  incarnation : Stripped id.processIncarnationId ∧ isHex 64 id.processIncarnationId = true
  order : ¬ id.identityGeneratedAt < id.processStartedAt
  commit : Stripped id.productBuildCommit ∧ isHex 40 id.productBuildCommit = true
  artifact : Stripped id.sourceRootOrArtifactIdentity ∧ IsArtifact id.sourceRootOrArtifactIdentity
  product : requireProductBuild (.str id.productBuildIdentity) id.productBuildCommit
    id.sourceRootOrArtifactIdentity = .ok id.productBuildIdentity
  client : requireClientBuild (.str id.globalWriterClientBuild) = .ok id.globalWriterClientBuild
  interpreter : Stripped id.interpreterOrExecutable
  config : ∀ t ∈ id.configArtifactIdentity, Stripped t ∧ IsArtifact t

theorem some_map_ok {α : Type} {x : Checked α} {o : Option α} :
    some <$> x = .ok o ↔ ∃ t, x = .ok t ∧ o = some t := by
  cases x with
  | error e => exact iff_of_false (by intro h; cases h) (by rintro ⟨t, h, -⟩; cases h)
  | ok t =>
    constructor
    · intro h
      exact ⟨t, rfl, (Except.ok.inj h).symm⟩
    · rintro ⟨t', ht, rfl⟩
      cases ht
      rfl

theorem optionalArtifact_ok {value : PyJson} {field : String} {o : Option PyText} :
    optional (requireArtifactIdentity · field) value = .ok o ↔
      value = (o.map PyJson.str).getD .null ∧ ∀ t ∈ o, Stripped t ∧ IsArtifact t := by
  have hnone : ∀ v : PyJson, v ≠ .null → some <$> requireArtifactIdentity v field = .ok o →
      v = (o.map PyJson.str).getD .null ∧ ∀ t ∈ o, Stripped t ∧ IsArtifact t := by
    intro v _ h
    obtain ⟨t, ht, rfl⟩ := some_map_ok.mp h
    obtain ⟨hv, hs, hform⟩ := requireArtifactIdentity_ok.mp ht
    refine ⟨hv, ?_⟩
    rintro _ ⟨⟩
    exact ⟨hs, hform⟩
  constructor
  · intro h
    cases value with
    | null =>
      cases h
      exact ⟨rfl, by intro t ht; cases ht⟩
    | _ => exact hnone _ (by intro h; cases h) h
  · rintro ⟨rfl, hform⟩
    cases o with
    | none => rfl
    | some t =>
      have ht := hform t rfl
      exact some_map_ok.mpr ⟨t, requireArtifactIdentity_ok.mpr ⟨rfl, ht.1, ht.2⟩, rfl⟩

/-- **The identity of a valid record.** -/
theorem validateRuntime_ok {py : Python} (hpy : py.Documented) {raw : RawIdentity}
    {id : RuntimeIdentity} : validateRuntime py raw = .ok id ↔ raw = id.raw ∧ id.Valid py := by
  obtain ⟨service, pid, started, incarnation, commit, product, client, interpreter, artifact,
    generated, config, schema⟩ := raw
  unfold validateRuntime
  simp only [except_bind_ok, guarded_ok, exists_const, requireText_ok, requirePid_ok,
    parseCanonicalTimestamp_ok hpy, requireIncarnation_ok, requireCommit_ok,
    requireArtifactIdentity_ok, optionalArtifact_ok]
  constructor
  · rintro ⟨hschema, _, ⟨rfl, hservice⟩, _, ⟨rfl, hpid⟩, t, rfl, _, ⟨rfl, hincarnation⟩, u, rfl,
      horder, _, ⟨rfl, hcommit⟩, _, ⟨rfl, hartifact⟩, product', hproduct, client', hclient, _,
      ⟨rfl, hinterpreter⟩, config', ⟨rfl, hconfig⟩, heq⟩
    obtain ⟨rfl, -⟩ := requireProductBuild_ok hproduct
    obtain ⟨rfl, -⟩ := requireClientBuild_ok hclient
    cases heq
    exact ⟨rfl, hschema, hservice, hpid, hincarnation, by simpa using horder, hcommit, hartifact,
      hproduct, hclient, hinterpreter, hconfig⟩
  · rintro ⟨heq, h⟩
    cases heq
    exact ⟨h.schema, _, ⟨rfl, h.service⟩, _, ⟨rfl, h.pid⟩, _, rfl, _, ⟨rfl, h.incarnation⟩, _, rfl,
      by simpa using h.order, _, ⟨rfl, h.commit⟩, _, ⟨rfl, h.artifact⟩, _, h.product, _, h.client,
      _, ⟨rfl, h.interpreter⟩, _, ⟨rfl, h.config⟩, rfl⟩

/-! ## Written and read -/

/-- The record that is read where this one was written. -/
def RawIdentity.readBack (raw : RawIdentity) : RawIdentity where
  serviceCode := PyJson.readBack raw.serviceCode
  pid := PyJson.readBack raw.pid
  processStartedAt := PyJson.readBack raw.processStartedAt
  processIncarnationId := PyJson.readBack raw.processIncarnationId
  productBuildCommit := PyJson.readBack raw.productBuildCommit
  productBuildIdentity := PyJson.readBack raw.productBuildIdentity
  globalWriterClientBuild := PyJson.readBack raw.globalWriterClientBuild
  interpreterOrExecutable := PyJson.readBack raw.interpreterOrExecutable
  sourceRootOrArtifactIdentity := PyJson.readBack raw.sourceRootOrArtifactIdentity
  identityGeneratedAt := PyJson.readBack raw.identityGeneratedAt
  configArtifactIdentity := PyJson.readBack raw.configArtifactIdentity
  schemaVersion := PyJson.readBack raw.schemaVersion

/-- The names of the fields. -/
def fieldNames : List String :=
  ["service_code", "pid", "process_started_at", "process_incarnation_id", "product_build_commit",
    "product_build_identity", "global_writer_client_build", "interpreter_or_executable",
    "source_root_or_artifact_identity", "identity_generated_at", "config_artifact_identity",
    "schema_version"]

theorem asDict_names (raw : RawIdentity) : raw.asDict.map Prod.fst = fieldNames.map ofString := rfl

theorem asDict_nodup (raw : RawIdentity) : (raw.asDict.map Prod.fst).Nodup := by
  rw [asDict_names]
  exact List.Nodup.map ofString_injective (by decide)

theorem ofFields_asDict (raw : RawIdentity) :
    RawIdentity.ofFields ((PyJson.sortFields raw.asDict).map fun p => (p.1, PyJson.readBack p.2)) =
      .ok raw.readBack := by
  have hlookup : ∀ k, PyJson.lookupKey k
      ((PyJson.sortFields raw.asDict).map fun p => (p.1, PyJson.readBack p.2)) =
        (PyJson.lookupKey k raw.asDict).map PyJson.readBack := by
    intro k
    rw [PyJson.lookupKey_map, PyJson.lookupKey_perm (PyJson.sortFields_perm raw.asDict).symm
      (asDict_nodup raw) k]
  unfold RawIdentity.ofFields need getOr
  simp only [hlookup]
  unfold RawIdentity.asDict
  simp only [PyJson.lookupKey_name, String.reduceEq, if_true, if_false, Option.map_some,
    Option.getD_some]
  rfl

theorem Plain.merge {t : PyText} (h : Plain t) : PyJson.merge t = t :=
  PyJson.merge_unpaired (PyJson.unpaired_of_not_high h)

/-- What is left of an identity in a file: a pair of surrogates in its two free texts is joined. -/
def RuntimeIdentity.merged (id : RuntimeIdentity) : RuntimeIdentity :=
  { id with
    serviceCode := PyJson.merge id.serviceCode
    interpreterOrExecutable := PyJson.merge id.interpreterOrExecutable }

theorem RuntimeIdentity.Valid.readBack {py : Python} {id : RuntimeIdentity} (h : id.Valid py) :
    id.raw.readBack = id.merged.raw := by
  have hschema : PyJson.readBack id.schemaVersion = id.schemaVersion := by
    have hs := h.schema
    cases hversion : id.schemaVersion with
    | str t =>
      rw [hversion] at hs
      cases hs
    | _ => rfl
  have hconfig : PyJson.readBack ((id.configArtifactIdentity.map PyJson.str).getD .null) =
      (id.configArtifactIdentity.map PyJson.str).getD .null := by
    cases hc : id.configArtifactIdentity with
    | none => rfl
    | some t => exact congrArg PyJson.str (plain_artifact (h.config t hc).2).merge
  have hproduct := (requireProductBuild_ok h.product).2.merge
  have hclient := (requireClientBuild_ok h.client).2.merge
  unfold RawIdentity.readBack RuntimeIdentity.raw RuntimeIdentity.merged
  simp only [hschema, hconfig]
  simp only [PyJson.readBack, (plain_ofString _).merge, (plain_hex h.incarnation.2).merge,
    (plain_hex h.commit.2).merge, hproduct, hclient, (plain_artifact h.artifact.2).merge]

/-- What can be written of a valid identity. -/
structure RuntimeIdentity.Writable (id : RuntimeIdentity) : Prop where
  pid : PyJson.IntWritable id.pid
  schema : PyJson.Scalar id.schemaVersion

/-- The text of an identity in its file. -/
def RuntimeIdentity.text (id : RuntimeIdentity) : PyText :=
  ofChars (PyJson.dumps (.obj id.raw.asDict)) ++ ofChars ['\n']

theorem RuntimeIdentity.Writable.scalar {id : RuntimeIdentity} (h : id.Writable) :
    ∀ p ∈ id.raw.asDict, PyJson.Scalar p.2 := by
  have hconfig : PyJson.Scalar ((id.configArtifactIdentity.map PyJson.str).getD .null) := by
    cases id.configArtifactIdentity with
    | none => exact .null
    | some t => exact .str t
  intro p hp
  unfold RawIdentity.asDict RuntimeIdentity.raw at hp
  simp only [List.mem_cons, List.not_mem_nil, or_false] at hp
  rcases hp with rfl | rfl | rfl | rfl | rfl | rfl | rfl | rfl | rfl | rfl | rfl | rfl
  case inr.inl => exact .int h.pid
  case inr.inr.inr.inr.inr.inr.inr.inr.inr.inr.inl => exact hconfig
  case inr.inr.inr.inr.inr.inr.inr.inr.inr.inr.inr => exact h.schema
  all_goals exact .str _

theorem isWritable_scalar {v : PyJson} (h : PyJson.Scalar v) : isWritable v = true := by
  cases h with
  | null => rfl
  | int hw => exact decide_eq_true hw
  | str t => rfl

theorem RuntimeIdentity.Writable.jsonText {id : RuntimeIdentity} (h : id.Writable) :
    jsonText id.raw.asDict = .ok id.text := by
  unfold Identity.jsonText
  rw [if_pos]
  · rfl
  · exact List.all_eq_true.mpr fun p hp => isWritable_scalar (h.scalar p hp)

/-- **What is read of a written identity.** -/
theorem readRuntimeIdentity_text {py : Python} {id : RuntimeIdentity} (hid : id.Valid py)
    (hw : id.Writable) {files : Files} (hfile : files.runtime = some (some id.text)) :
    readRuntimeIdentity py files = (validateRuntime py id.merged.raw).mapError asUnknown := by
  have hloads : PyJson.loads id.text = .ok (.obj ((PyJson.sortFields id.raw.asDict).map
      fun p => (p.1, PyJson.readBack p.2))) := by
    apply PyJson.loads_record
    · exact List.cons_ne_nil _ _
    · exact asDict_nodup id.raw
    · intro p hp
      have hname : p.1 ∈ fieldNames.map ofString := by
        rw [← asDict_names id.raw]
        exact List.mem_map_of_mem hp
      obtain ⟨name, -, hname⟩ := List.mem_map.mp hname
      rw [← hname]
      exact PyJson.unpaired_of_not_high (plain_ofString name)
    · exact hw.scalar
    · rfl
  have hjson : readJson files.runtime "runtime identity" =
      .ok ((PyJson.sortFields id.raw.asDict).map fun p => (p.1, PyJson.readBack p.2)) := by
    unfold readJson
    rw [hfile]
    simp only [hloads]
  unfold readRuntimeIdentity
  simp only [hjson, ofFields_asDict, hid.readBack, bind, Except.bind]

/-- The texts that a file does not keep are the ones with a pair of surrogates. -/
theorem merged_unpaired {id : RuntimeIdentity} (hservice : PyJson.Unpaired id.serviceCode)
    (hinterpreter : PyJson.Unpaired id.interpreterOrExecutable) : id.merged = id := by
  unfold RuntimeIdentity.merged
  rw [PyJson.merge_unpaired hservice, PyJson.merge_unpaired hinterpreter]

/-- The two identities are of one process. -/
def RuntimeIdentity.SameProcess (a b : RuntimeIdentity) : Prop :=
  a.pid = b.pid ∧ a.processIncarnationId = b.processIncarnationId

instance (a b : RuntimeIdentity) : Decidable (a.SameProcess b) :=
  inferInstanceAs (Decidable (_ ∧ _))

/-- **A new process takes over the file.** -/
theorem writeRuntimeIdentity_new {py : Python} (hpy : py.Documented) {id : RuntimeIdentity}
    (hid : id.Valid py) (hw : id.Writable) {files : Files}
    (hnew : files.runtime = none ∨
      ∃ old, readRuntimeIdentity py files = .ok old ∧ ¬ old.SameProcess id) :
    writeRuntimeIdentity py files id.raw =
      (.ok (), { files with runtime := some (some id.text) }) := by
  have hvalid := (validateRuntime_ok hpy).mpr ⟨rfl, hid⟩
  have hstore : writeRuntimeIdentity.store files id.raw =
      (.ok (), { files with runtime := some (some id.text) }) := by
    unfold writeRuntimeIdentity.store
    rw [hw.jsonText]
  unfold writeRuntimeIdentity
  rw [except_mapError_ok.mpr hvalid]
  simp only
  rcases hnew with hnone | ⟨old, hread, hother⟩
  · rw [hnone]
    exact hstore
  · split_ifs with hsome
    · unfold RuntimeIdentity.SameProcess at hother
      simp only [hread]
      rw [if_neg hother]
      exact hstore
    · exact hstore

/-- **A process writes once**: its record is kept, and is not bound to another authority. -/
theorem writeRuntimeIdentity_same {py : Python} (hpy : py.Documented) {id old : RuntimeIdentity}
    (hid : id.Valid py) {files : Files} (hread : readRuntimeIdentity py files = .ok old)
    (hsame : old.SameProcess id) :
    writeRuntimeIdentity py files id.raw =
      (if old.processStartedAt = id.processStartedAt ∧ old.authority = id.authority then .ok ()
        else .error (.identity "RUNTIME_IDENTITY_REBIND_FORBIDDEN"
          "same process cannot rebind build authority"), files) := by
  have hvalid := (validateRuntime_ok hpy).mpr ⟨rfl, hid⟩
  have hsome : files.runtime.isSome = true := by
    cases hfile : files.runtime with
    | some content => rfl
    | none =>
      unfold readRuntimeIdentity readJson at hread
      rw [hfile] at hread
      cases hread
  unfold writeRuntimeIdentity
  rw [except_mapError_ok.mpr hvalid]
  unfold RuntimeIdentity.SameProcess at hsame
  simp only [hsome, if_true, hread]
  rw [if_pos hsame]
  split_ifs <;> rfl

/-- A file that cannot be read is not overwritten. -/
theorem writeRuntimeIdentity_unreadable {py : Python} (hpy : py.Documented) {id : RuntimeIdentity}
    (hid : id.Valid py) {files : Files} (hsome : files.runtime.isSome = true) {e : IdentityFault}
    (hread : readRuntimeIdentity py files = .error e) :
    writeRuntimeIdentity py files id.raw = (.error e, files) := by
  have hvalid := (validateRuntime_ok hpy).mpr ⟨rfl, hid⟩
  unfold writeRuntimeIdentity
  rw [except_mapError_ok.mpr hvalid]
  simp only [hsome, if_true, hread]

/-! ## Captured -/

/-- The identity is that of the process, with what the request and the process tell. -/
structure RuntimeIdentity.Captured (py : Python) (p : Process) (q : CaptureRequest)
    (id : RuntimeIdentity) : Prop where
  process : currentProcess py p = .ok ⟨id.pid, id.processStartedAt, id.processIncarnationId⟩
  service : q.serviceCode = .str id.serviceCode
  commit : id.productBuildCommit = p.product.productBuildCommit
  product : id.productBuildIdentity = p.product.productBuildIdentity
  artifact : id.sourceRootOrArtifactIdentity = p.product.sourceArtifactIdentity
  client : installedClientBuild p.client = .ok id.globalWriterClientBuild
  interpreter : p.executable = .str id.interpreterOrExecutable
  schema : id.schemaVersion = .int 3

theorem currentProcess_ok {py : Python} (hpy : py.Documented) {p : Process} {c : Current} :
    currentProcess py p = .ok c ↔
      p.current = .ok ⟨.int c.pid, .str (ofString c.processStartedAt.text), .str c.incarnationId⟩ ∧
      c.pid = p.pid.toNat ∧ 0 < c.pid ∧ Stripped c.incarnationId ∧
      isHex 64 c.incarnationId = true := by
  unfold currentProcess
  simp only [except_bind_ok, guarded_ok, exists_const, requirePid_ok,
    parseCanonicalTimestamp_ok hpy, requireIncarnation_ok, decide_eq_true_eq]
  constructor
  · rintro ⟨⟨pid, started, incarnation⟩, hcurrent, n, ⟨rfl, hpos⟩, hpid, t, rfl, i, ⟨rfl, hi⟩, heq⟩
    cases heq
    exact ⟨hcurrent, hpid, hpos, hi⟩
  · rintro ⟨hcurrent, hpid, hpos, hi⟩
    exact ⟨_, hcurrent, _, ⟨rfl, hpos⟩, hpid, _, rfl, _, ⟨rfl, hi⟩, rfl⟩

theorem installedClientBuild_ok {c : ClientBuild} {t : PyText}
    (h : installedClientBuild c = .ok t) : requireClientBuild (.str t) = .ok t := by
  unfold installedClientBuild at h
  obtain ⟨_, -, h⟩ := except_bind_ok.mp h
  obtain ⟨_, -, h⟩ := except_bind_ok.mp h
  obtain ⟨-, h⟩ := guarded_bind_ok.mp h
  rwa [(requireClientBuild_ok h).1] at h

theorem validateProductIdentity_ok {p : ProductBuildIdentity} {u : Unit} :
    validateProductIdentity p = .ok u →
      (Stripped p.productBuildCommit ∧ isHex 40 p.productBuildCommit = true) ∧
      (Stripped p.sourceArtifactIdentity ∧ IsArtifact p.sourceArtifactIdentity) ∧
      requireProductBuild (.str p.productBuildIdentity) p.productBuildCommit
        p.sourceArtifactIdentity = .ok p.productBuildIdentity := by
  unfold validateProductIdentity
  simp only [except_bind_ok, guarded_ok, requireCommit_ok, requireArtifactIdentity_ok,
    PyJson.str.injEq]
  rintro ⟨_, ⟨rfl, hcommit⟩, _, ⟨rfl, hartifact⟩, product, hproduct, -⟩
  have hsame := (requireProductBuild_ok hproduct).1
  rw [PyJson.str.injEq] at hsame
  rw [hsame] at hproduct ⊢
  exact ⟨hcommit, hartifact, hproduct⟩

theorem pid_writable (n : UInt32) : PyJson.IntWritable n.toNat := by
  obtain ⟨k, hk, hlimit⟩ := PyJson.exists_limit
  have hpow : 10 ^ 10 ≤ 10 ^ k := Nat.pow_le_pow_right (by decide) (by omega)
  have hlt := n.toNat_lt
  unfold PyJson.IntWritable
  rw [hlimit, Int.natAbs_natCast]
  omega

/-- **What is captured** is a valid identity of the process. -/
theorem captureRuntimeIdentity_ok {py : Python} (hpy : py.Documented) {p : Process}
    {q : CaptureRequest} {raw : RawIdentity} (h : captureRuntimeIdentity py p q = .ok raw) :
    ∃ id : RuntimeIdentity, raw = id.raw ∧ id.Valid py ∧ id.Writable ∧ id.Captured py p q := by
  unfold captureRuntimeIdentity at h
  simp only [except_bind_ok, guarded_ok, exists_const, requireText_ok, requirePid_ok,
    parseCanonicalTimestamp_ok hpy, requireIncarnation_ok, optionalArtifact_ok,
    PyJson.str.injEq] at h
  obtain ⟨service, ⟨hq, hservice⟩, _, hproduct, ⟨_, _, _⟩, hcurrent, pid, ⟨hpid, hpos⟩, hself,
    started, hstarted, incarnation, ⟨hincarnation, hhex⟩, _, -, generated, hstamp, horder, config,
    ⟨-, hform⟩, client, hclient, interpreter, ⟨hexe, hinterpreter⟩, heq⟩ := h
  simp only at hpid hstarted hincarnation
  rw [hpid, hstarted, hincarnation] at hcurrent
  rw [hstarted, hstamp] at heq
  have hpid' := of_decide_eq_true hself
  obtain ⟨hcommit, hartifact, hbuild⟩ := validateProductIdentity_ok hproduct
  refine ⟨⟨service, pid, started, incarnation, p.product.productBuildCommit,
    p.product.productBuildIdentity, client, interpreter, p.product.sourceArtifactIdentity,
    generated, config, .int 3⟩, (Except.ok.inj heq).symm, ?_, ?_, ?_⟩
  · exact ⟨rfl, hservice, hpos, hhex, by simpa using horder, hcommit, hartifact, hbuild,
      installedClientBuild_ok hclient, hinterpreter, hform⟩
  · have hwritable : PyJson.IntWritable pid := hpid' ▸ pid_writable p.pid
    exact ⟨hwritable, .int (pid_writable 3)⟩
  · exact ⟨(currentProcess_ok hpy).mpr ⟨hcurrent, hpid', hpos, hhex⟩, hq, rfl, rfl, rfl, hclient,
      hexe, rfl⟩

/-! ## The gate -/

/-- All that the gate checked of a process that it lets through. -/
structure Admitted (py : Python) (files : Files) (p : Process) (loaded : RuntimeIdentity)
    (authorized : AuthorizedIdentity) : Prop where
  read : readRuntimeIdentity py files = .ok loaded
  readAuthorized : readAuthorizedIdentity py files = .ok authorized
  process : currentProcess py p =
    .ok ⟨loaded.pid, loaded.processStartedAt, loaded.processIncarnationId⟩
  same : loaded.sameAs authorized

/-- **The gate opens** to a process exactly where everything is equal. -/
theorem authorizeNewMutation_ok {py : Python} {files : Files} {p : Process} {c : Comparison} :
    authorizeNewMutation py files p = .ok c ↔
      c = .MATCH ∧ ∃ loaded authorized, Admitted py files p loaded authorized := by
  unfold authorizeNewMutation
  simp only [except_bind_ok, guarded_ok, exists_const, except_mapError_ok, decide_eq_true_eq]
  constructor
  · rintro ⟨loaded, hloaded, authorized, hauthorized, ⟨pid, started, incarnation⟩, hcurrent, hpid,
      hincarnation, hstarted, h⟩
    simp only at hpid hincarnation hstarted
    unfold compareRuntimeIdentity at h
    split_ifs at h with hsame
    · cases h
      rw [← hpid, ← hincarnation, ← hstarted] at hcurrent
      exact ⟨rfl, loaded, authorized, hloaded, hauthorized, hcurrent, hsame⟩
  · rintro ⟨rfl, loaded, authorized, h⟩
    refine ⟨loaded, h.read, authorized, h.readAuthorized, _, h.process, rfl, rfl, rfl, ?_⟩
    unfold compareRuntimeIdentity
    rw [if_pos h.same]
    rfl

/-! ## Runs -/

/-- The files after some captures, newest first, starting without a record. Production may put
anything into its own file, and anyone may remove the record. -/
inductive Run (py : Python) : List (Process × CaptureRequest) → Files → Prop
  | start (authorized : Option (Option PyText)) : Run py [] ⟨none, authorized⟩
  | capture {written : List (Process × CaptureRequest)} {files : Files} {p : Process}
      {q : CaptureRequest} {raw : RawIdentity} (run : Run py written files)
      (captured : captureRuntimeIdentity py p q = .ok raw) :
      Run py ((p, q) :: written) (writeRuntimeIdentity py files raw).2
  | remove {written : List (Process × CaptureRequest)} {files : Files}
      (run : Run py written files) : Run py written { files with runtime := none }
  | authorize {written : List (Process × CaptureRequest)} {files : Files} (raw : RawAuthorized)
      (run : Run py written files) : Run py written (writeAuthorizedIdentity py files raw).2
  | replace {written : List (Process × CaptureRequest)} {files : Files}
      (authorized : Option (Option PyText)) (run : Run py written files) :
      Run py written { files with authorized := authorized }

/-- A record is one that a process of the run captured. -/
def Recorded (py : Python) (written : List (Process × CaptureRequest)) (files : Files) : Prop :=
  files.runtime = none ∨ ∃ p q id, (p, q) ∈ written ∧ RuntimeIdentity.Valid py id ∧ id.Writable ∧
    id.Captured py p q ∧ files.runtime = some (some id.text)

theorem writeRuntimeIdentity_files {py : Python} (hpy : py.Documented) {id : RuntimeIdentity}
    (hid : id.Valid py) (hw : id.Writable) (files : Files) :
    (writeRuntimeIdentity py files id.raw).2 = files ∨
      (writeRuntimeIdentity py files id.raw).2 = { files with runtime := some (some id.text) } := by
  by_cases hnone : files.runtime = none
  · rw [writeRuntimeIdentity_new hpy hid hw (Or.inl hnone)]
    exact Or.inr rfl
  · have hsome : files.runtime.isSome = true := Option.isSome_iff_ne_none.mpr hnone
    cases hread : readRuntimeIdentity py files with
    | error e =>
      rw [writeRuntimeIdentity_unreadable hpy hid hsome hread]
      exact Or.inl rfl
    | ok old =>
      by_cases hsame : old.SameProcess id
      · rw [writeRuntimeIdentity_same hpy hid hread hsame]
        exact Or.inl rfl
      · rw [writeRuntimeIdentity_new hpy hid hw (Or.inr ⟨old, hread, hsame⟩)]
        exact Or.inr rfl

theorem writeAuthorizedIdentity_runtime (py : Python) (files : Files) (raw : RawAuthorized) :
    (writeAuthorizedIdentity py files raw).2.runtime = files.runtime := by
  unfold writeAuthorizedIdentity
  split
  · rfl
  · split <;> rfl

theorem Run.recorded {py : Python} (hpy : py.Documented) {written : List (Process × CaptureRequest)}
    {files : Files} (h : Run py written files) : Recorded py written files := by
  induction h with
  | start authorized => exact Or.inl rfl
  | @capture written files p q raw run captured ih =>
    obtain ⟨id, rfl, hid, hw, hcaptured⟩ := captureRuntimeIdentity_ok hpy captured
    rcases writeRuntimeIdentity_files hpy hid hw files with h | h
    · rw [h]
      rcases ih with hnone | ⟨p', q', id', hmem, hrest⟩
      · exact Or.inl hnone
      · exact Or.inr ⟨p', q', id', List.mem_cons_of_mem _ hmem, hrest⟩
    · rw [h]
      exact Or.inr ⟨p, q, id, List.mem_cons_self, hid, hw, hcaptured, rfl⟩
  | remove run ih => exact Or.inl rfl
  | authorize raw run ih =>
    unfold Recorded
    rw [writeAuthorizedIdentity_runtime]
    exact ih
  | replace authorized run ih => exact ih

/-- The record determines the identity. -/
theorem raw_injective : Function.Injective RuntimeIdentity.raw := by
  intro a b h
  obtain ⟨service, pid, started, incarnation, commit, product, client, interpreter, artifact,
    generated, config, schema⟩ := a
  obtain ⟨service', pid', started', incarnation', commit', product', client', interpreter',
    artifact', generated', config', schema'⟩ := b
  unfold RuntimeIdentity.raw at h
  simp only [RawIdentity.mk.injEq, PyJson.str.injEq, PyJson.int.injEq,
    ofString_injective.eq_iff] at h
  obtain ⟨rfl, rfl, hstarted, rfl, rfl, rfl, rfl, rfl, rfl, hgenerated, hconfig, rfl⟩ := h
  obtain rfl := Timestamp.text_inj hstarted
  obtain rfl := Timestamp.text_inj hgenerated
  have hsame : config = config' := by
    cases config with
    | none =>
      cases config' with
      | none => rfl
      | some t => cases hconfig
    | some t =>
      cases config' with
      | none => cases hconfig
      | some t' => exact congrArg some (PyJson.str.inj hconfig)
  rw [hsame]

/-- The builds that a process has loaded. -/
def RuntimeIdentity.BuildsOf (id : RuntimeIdentity) (p : Process) : Prop :=
  id.productBuildCommit = p.product.productBuildCommit ∧
  id.productBuildIdentity = p.product.productBuildIdentity ∧
  id.sourceRootOrArtifactIdentity = p.product.sourceArtifactIdentity ∧
  installedClientBuild p.client = .ok id.globalWriterClientBuild

/-- **A record that can be read** names the builds of a process of the run. -/
theorem Run.loaded {py : Python} (hpy : py.Documented) {written : List (Process × CaptureRequest)}
    {files : Files} (h : Run py written files) {loaded : RuntimeIdentity}
    (hread : readRuntimeIdentity py files = .ok loaded) : ∃ p q, (p, q) ∈ written ∧
      currentProcess py p =
        .ok ⟨loaded.pid, loaded.processStartedAt, loaded.processIncarnationId⟩ ∧
      loaded.BuildsOf p := by
  rcases h.recorded hpy with hnone | ⟨p, q, id, hmem, hid, hw, hcaptured, htext⟩
  · unfold readRuntimeIdentity readJson at hread
    rw [hnone] at hread
    cases hread
  · rw [readRuntimeIdentity_text hid hw htext] at hread
    obtain ⟨hraw, -⟩ := (validateRuntime_ok hpy).mp (except_mapError_ok.mp hread)
    obtain rfl := raw_injective hraw
    exact ⟨p, q, hmem, hcaptured.process, hcaptured.commit, hcaptured.product, hcaptured.artifact,
      hcaptured.client⟩

/-- **Identity files.** The parser of time stamps accepts what the formatter writes. A captured
identity is read back where no record of its process was there; a record of the process stays. The
gate opens where all is equal, and in every run only to a process that reports what the process of
the record reported, whose builds the record names and production authorizes. -/
theorem runtime_gate_sound (py : Python) (hpy : py.Documented) :
    (∀ s field, (∃ t, parseCanonicalTimestamp py (.str s) field = .ok t) ↔
      ∃ d, timestamp d = .ok s) ∧
    (∀ value field t, parseCanonicalTimestamp py value field = .ok t ↔
      value = .str (ofString t.text)) ∧
    (∀ p q raw, captureRuntimeIdentity py p q = .ok raw → ∃ id : RuntimeIdentity, raw = id.raw ∧
      ∀ files,
        ((files.runtime = none ∨
            ∃ old, readRuntimeIdentity py files = .ok old ∧ ¬ old.SameProcess id) →
          PyJson.Unpaired id.serviceCode → PyJson.Unpaired id.interpreterOrExecutable →
          ∃ files', writeRuntimeIdentity py files raw = (.ok (), files') ∧
            files'.authorized = files.authorized ∧ readRuntimeIdentity py files' = .ok id) ∧
        (∀ old, readRuntimeIdentity py files = .ok old → old.SameProcess id →
          writeRuntimeIdentity py files raw =
            (if old.processStartedAt = id.processStartedAt ∧ old.authority = id.authority
              then .ok () else .error (.identity "RUNTIME_IDENTITY_REBIND_FORBIDDEN"
                "same process cannot rebind build authority"), files)) ∧
        (files.runtime.isSome = true → ∀ e, readRuntimeIdentity py files = .error e →
          writeRuntimeIdentity py files raw = (.error e, files))) ∧
    (∀ files p c, authorizeNewMutation py files p = .ok c ↔
      c = .MATCH ∧ ∃ loaded authorized, Admitted py files p loaded authorized) ∧
    ∀ written files, Run py written files → ∀ p c, authorizeNewMutation py files p = .ok c →
      ∃ loaded authorized, Admitted py files p loaded authorized ∧
        (∃ p' q, (p', q) ∈ written ∧ currentProcess py p' = currentProcess py p ∧
          loaded.BuildsOf p') ∧
        ((∀ p' q, (p', q) ∈ written → currentProcess py p' = currentProcess py p →
            p'.product = p.product ∧ p'.client = p.client) →
          loaded.BuildsOf p) := by
  refine ⟨?_, fun value field t => parseCanonicalTimestamp_ok hpy, ?_,
    fun files p c => authorizeNewMutation_ok, ?_⟩
  · intro s field
    rw [timestamp_ok]
    simp only [parseCanonicalTimestamp_ok hpy, PyJson.str.injEq]
  · intro p q raw hcapture
    obtain ⟨id, rfl, hid, hw, -⟩ := captureRuntimeIdentity_ok hpy hcapture
    refine ⟨id, rfl, fun files => ⟨fun hnew hservice hinterpreter => ?_, ?_, ?_⟩⟩
    · refine ⟨_, writeRuntimeIdentity_new hpy hid hw hnew, rfl, ?_⟩
      rw [readRuntimeIdentity_text hid hw rfl, merged_unpaired hservice hinterpreter,
        (validateRuntime_ok hpy).mpr ⟨rfl, hid⟩]
      rfl
    · exact fun old hread hsame => writeRuntimeIdentity_same hpy hid hread hsame
    · exact fun hsome e hread => writeRuntimeIdentity_unreadable hpy hid hsome hread
  · intro written files run p c hopen
    obtain ⟨-, loaded, authorized, hadmitted⟩ := authorizeNewMutation_ok.mp hopen
    obtain ⟨p', q, hmem, hprocess, hbuilds⟩ := run.loaded hpy hadmitted.read
    have hsame : currentProcess py p' = currentProcess py p := by
      rw [hprocess, hadmitted.process]
    refine ⟨loaded, authorized, hadmitted, ⟨p', q, hmem, hsame, hbuilds⟩, ?_⟩
    intro hnonce
    obtain ⟨hproduct, hclient⟩ := hnonce p' q hmem hsame
    unfold RuntimeIdentity.BuildsOf at hbuilds ⊢
    rwa [hproduct, hclient] at hbuilds

/-! ### A process that records itself twice -/

open Classical in
/-- A parser of the texts that `isoformat` writes. -/
noncomputable def samplePython : Python where
  fromisoformat s := if h : ∃ t : Timestamp, s = ofString t.text then some (utc h.choose) else none
  floatIs _ _ := false

theorem samplePython_documented : samplePython.Documented := by
  intro t
  have hex : ∃ u : Timestamp, ofString t.text = ofString u.text := ⟨t, rfl⟩
  unfold samplePython
  simp only
  rw [dif_pos hex]
  exact congrArg (fun u => some (utc u))
    (Timestamp.text_inj (ofString_injective hex.choose_spec)).symm

def sampleCommit : PyText := ofString "0123456789abcdef0123456789abcdef01234567"
def sampleArtifact : PyText := ofString "source-commit:" ++ sampleCommit
def sampleIncarnation : PyText := List.replicate 64 (ofChar 'a')

def sampleBuild (name : String) : PyText :=
  ofString name ++ ofString "+g" ++ sampleCommit.take 12 ++ ofString "|source=" ++ sampleCommit ++
    ofString "|artifact=" ++ sampleArtifact

def sampleProcess : Process where
  pid := 7
  current := .ok ⟨.int 7, .str (ofString Timestamp.epoch.text), .str sampleIncarnation⟩
  product :=
    { productName := ofString "PropertyAI", productBuildCommit := sampleCommit
      productBuildIdentity := ofString "product:PropertyAI@g" ++ sampleCommit.take 12 ++
        ofString "|source=" ++ sampleCommit ++ ofString "|artifact=" ++ sampleArtifact
      sourceArtifactIdentity := sampleArtifact }
  client :=
    { packageName := ofString "adcp-global-writer-client", version := ofString "1.0.0"
      buildId := ofString "adcp-global-writer-client@1.0.0+g" ++ sampleCommit.take 12
      sourceCommit := sampleCommit, artifactIdentity := sampleArtifact }
  executable := .str (ofString "/usr/bin/python3")

def sampleRequest (generated : Timestamp) : CaptureRequest :=
  ⟨.str (ofString "adcp-runner"), .null, utc generated⟩

def sampleIdentity (generated : Timestamp) : RuntimeIdentity where
  serviceCode := ofString "adcp-runner"
  pid := 7
  processStartedAt := Timestamp.epoch
  processIncarnationId := sampleIncarnation
  productBuildCommit := sampleCommit
  productBuildIdentity := sampleProcess.product.productBuildIdentity
  globalWriterClientBuild := sampleBuild "adcp-global-writer-client@1.0.0"
  interpreterOrExecutable := ofString "/usr/bin/python3"
  sourceRootOrArtifactIdentity := sampleArtifact
  identityGeneratedAt := generated
  configArtifactIdentity := none
  schemaVersion := .int 3

theorem sample_texts : requireText (.str (ofString "adcp-runner")) "service_code" =
      .ok (ofString "adcp-runner") ∧
    requireText (.str (ofString "/usr/bin/python3")) "interpreter_or_executable" =
      .ok (ofString "/usr/bin/python3") ∧
    requireIncarnation (.str sampleIncarnation) "process_incarnation_id" = .ok sampleIncarnation ∧
    validateProductIdentity sampleProcess.product = .ok () ∧
    installedClientBuild sampleProcess.client =
      .ok (sampleBuild "adcp-global-writer-client@1.0.0") := by
  decide +kernel

theorem sample_captured {g : Timestamp} (hg : ¬ g < Timestamp.epoch) :
    captureRuntimeIdentity samplePython sampleProcess (sampleRequest g) =
      .ok (sampleIdentity g).raw := by
  obtain ⟨hservice, hinterpreter, hincarnation, hproduct, hclient⟩ := sample_texts
  obtain ⟨hs, hservice⟩ := requireText_ok.mp hservice
  obtain ⟨hi, hinterpreter⟩ := requireText_ok.mp hinterpreter
  obtain ⟨hn, hincarnation⟩ := requireIncarnation_ok.mp hincarnation
  have hstamp : timestamp (utc g) = .ok (ofString g.text) := by
    unfold timestamp
    simp only [utc, astimezone_zero]
  unfold captureRuntimeIdentity
  simp only [except_bind_ok, guarded_ok, exists_const, requireText_ok, requirePid_ok,
    parseCanonicalTimestamp_ok samplePython_documented, requireIncarnation_ok, optionalArtifact_ok,
    PyJson.str.injEq]
  exact ⟨_, ⟨hs, hservice⟩, (), hproduct, _, rfl, 7, ⟨rfl, by decide⟩, by decide, Timestamp.epoch,
    rfl, _, ⟨hn, hincarnation⟩, _, hstamp, g, rfl, by simpa using hg, none, ⟨rfl, by simp⟩, _,
    hclient, _, ⟨hi, hinterpreter⟩, rfl⟩

theorem sample_unpaired (g : Timestamp) : PyJson.Unpaired (sampleIdentity g).serviceCode ∧
    PyJson.Unpaired (sampleIdentity g).interpreterOrExecutable :=
  ⟨PyJson.unpaired_of_not_high (plain_ofString _), PyJson.unpaired_of_not_high (plain_ofString _)⟩

/-- A minute after the epoch. -/
def later : Timestamp := ⟨Timestamp.epoch.micros + 60000000, by decide⟩

/-- **A process that captures again** keeps its first record: what is read is not what was
written. -/
theorem second_capture_kept : ∃ files, Run samplePython
      [(sampleProcess, sampleRequest Timestamp.epoch)] files ∧
    captureRuntimeIdentity samplePython sampleProcess (sampleRequest later) =
      .ok (sampleIdentity later).raw ∧
    writeRuntimeIdentity samplePython files (sampleIdentity later).raw = (.ok (), files) ∧
    readRuntimeIdentity samplePython files = .ok (sampleIdentity Timestamp.epoch) ∧
    (sampleIdentity Timestamp.epoch).raw ≠ (sampleIdentity later).raw := by
  have hpy := samplePython_documented
  have hfirst := sample_captured (lt_irrefl Timestamp.epoch.micros)
  have hsecond := @sample_captured later (by decide)
  obtain ⟨first, heq, hid, hw, -⟩ := captureRuntimeIdentity_ok hpy hfirst
  obtain rfl := raw_injective heq
  obtain ⟨second, heq', hid', -, -⟩ := captureRuntimeIdentity_ok hpy hsecond
  obtain rfl := raw_injective heq'
  have hwrite := @writeRuntimeIdentity_new _ hpy _ hid hw ⟨none, none⟩ (Or.inl rfl)
  have hread : readRuntimeIdentity samplePython
      ⟨some (some (sampleIdentity Timestamp.epoch).text), none⟩ =
        .ok (sampleIdentity Timestamp.epoch) := by
    rw [readRuntimeIdentity_text hid hw rfl, merged_unpaired (sample_unpaired _).1
      (sample_unpaired _).2, (validateRuntime_ok hpy).mpr ⟨rfl, hid⟩]
    rfl
  refine ⟨⟨some (some (sampleIdentity Timestamp.epoch).text), none⟩, ?_, hsecond, ?_, hread, ?_⟩
  · have run := Run.capture (Run.start none) hfirst
    rwa [hwrite] at run
  · rw [writeRuntimeIdentity_same hpy hid' hread ⟨rfl, rfl⟩, if_pos ⟨rfl, rfl⟩]
  · intro h
    have hsame := congrArg RuntimeIdentity.identityGeneratedAt (raw_injective h)
    exact absurd hsame (by decide)

/-- What production authorizes. -/
def sampleAuthorized : RawAuthorized where
  serviceCode := .str (ofString "adcp-runner")
  productBuildCommit := .str sampleCommit
  productBuildIdentity := .str sampleProcess.product.productBuildIdentity
  globalWriterClientBuild := .str (sampleBuild "adcp-global-writer-client@1.0.0")
  sourceRootOrArtifactIdentity := .str sampleArtifact
  configArtifactIdentity := .null
  authorizedAt := .null
  schemaVersion := .int 2

def sampleAuthorizedText : PyText :=
  ofChars (PyJson.dumps (.obj sampleAuthorized.asDict)) ++ ofChars ['\n']

theorem sample_authorized :
    (readAuthorizedIdentity samplePython ⟨none, some (some sampleAuthorizedText)⟩).toOption.map
      (fun a => ([a.serviceCode, a.productBuildCommit, a.productBuildIdentity,
        a.globalWriterClientBuild, a.sourceRootOrArtifactIdentity], a.configArtifactIdentity)) =
    some ([ofString "adcp-runner", sampleCommit, sampleProcess.product.productBuildIdentity,
      sampleBuild "adcp-global-writer-client@1.0.0", sampleArtifact], none) := by
  decide +kernel

theorem runtime_gate_sample : ∃ files, Run samplePython
      [(sampleProcess, sampleRequest Timestamp.epoch)] files ∧
    readRuntimeIdentity samplePython files = .ok (sampleIdentity Timestamp.epoch) ∧
    authorizeNewMutation samplePython files sampleProcess = .ok .MATCH ∧
    ∃ loaded authorized, Admitted samplePython files sampleProcess loaded authorized ∧
      loaded.BuildsOf sampleProcess := by
  have hfirst := sample_captured (lt_irrefl Timestamp.epoch.micros)
  obtain ⟨-, -, hcaptures, hgate, hruns⟩ := runtime_gate_sound samplePython samplePython_documented
  obtain ⟨id, heq, hfiles⟩ := hcaptures _ _ _ hfirst
  obtain rfl := raw_injective heq
  obtain ⟨files, hwrite, hauthorized, hread⟩ :=
    (hfiles ⟨none, some (some sampleAuthorizedText)⟩).1 (Or.inl rfl) (sample_unpaired _).1
      (sample_unpaired _).2
  have run : Run samplePython [(sampleProcess, sampleRequest Timestamp.epoch)] files := by
    have run := Run.capture (Run.start (some (some sampleAuthorizedText))) hfirst
    rwa [hwrite] at run
  obtain ⟨authorized, hread', hsame⟩ : ∃ authorized,
      readAuthorizedIdentity samplePython files = .ok authorized ∧
        (sampleIdentity Timestamp.epoch).sameAs authorized := by
    have hfile : readAuthorizedIdentity samplePython files =
        readAuthorizedIdentity samplePython ⟨none, some (some sampleAuthorizedText)⟩ := by
      unfold readAuthorizedIdentity
      rw [hauthorized]
    have hsample := sample_authorized
    rw [hfile]
    cases h : readAuthorizedIdentity samplePython ⟨none, some (some sampleAuthorizedText)⟩ with
    | error e =>
      rw [h] at hsample
      cases hsample
    | ok a =>
      rw [h] at hsample
      have hfields := Option.some.inj hsample
      simp only [Prod.mk.injEq, List.cons.injEq, and_true] at hfields
      obtain ⟨⟨h1, h2, h3, h4, h5⟩, h6⟩ := hfields
      exact ⟨a, rfl, h1.symm, h2.symm, h3.symm, h4.symm, h5.symm, h6.symm⟩
  have hincarnation := (requireIncarnation_ok.mp sample_texts.2.2.1).2
  have hprocess : currentProcess samplePython sampleProcess =
      .ok ⟨7, Timestamp.epoch, sampleIncarnation⟩ :=
    (currentProcess_ok samplePython_documented).mpr ⟨rfl, by decide, by decide, hincarnation⟩
  have hopen := (hgate files sampleProcess .MATCH).mpr
    ⟨rfl, _, authorized, hread, hread', hprocess, hsame⟩
  obtain ⟨loaded, a, hadmitted, -, hbuilds⟩ := hruns _ _ run _ _ hopen
  refine ⟨files, run, hread, hopen, loaded, a, hadmitted, hbuilds ?_⟩
  intro p' q hmem _
  rw [List.mem_singleton, Prod.mk.injEq] at hmem
  rw [hmem.1]
  exact ⟨rfl, rfl⟩

end Adcp.L3.Identity
