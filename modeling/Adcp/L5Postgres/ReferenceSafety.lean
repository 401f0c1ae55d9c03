import Mathlib.Data.List.Nodup
import Adcp.L5Postgres.SecretReference
/-!
# What a matching secret reference binds

* `parse_reported`: whatever a parser raises is reported as an invalid reference.
* `reference_sound_iff`: a reference that is reported as matching is bound exactly if nothing else
  in it directs a connection.
* `unbound_references`: three texts that match and direct a client elsewhere.
-/
namespace Adcp.L5.Postgres.SecretReference

open Adcp.L1 Adcp.L2 TextLines ConnectionText

variable (rules : UrlRules)

/-! ## Errors -/

/-- Whatever is raised is reported. -/
def RaisesReported {α : Type} (x : Parse α) : Prop := ∀ e, x = .error e → Reported e = true

theorem raisesReported_ok {α : Type} (a : α) : RaisesReported (.ok a) := fun _ h => nomatch h

theorem raisesReported_value {α : Type} (detail : String) :
    RaisesReported (raiseValue detail : Parse α) := by
  intro e h
  cases h
  rfl

theorem RaisesReported.bind {α β : Type} {x : Parse α} {k : α → Parse β} (hx : RaisesReported x)
    (hk : ∀ a, RaisesReported (k a)) : RaisesReported (x >>= k) := by
  cases x with
  | error e =>
    intro e' h
    cases h
    exact hx e rfl
  | ok a => exact hk a

theorem urlparse_reported (rest : Text) : RaisesReported (urlparse rules rest) := by
  unfold urlparse
  split
  · exact raisesReported_value _
  · exact raisesReported_ok _

theorem requireHostname_reported (parts : UrlParts) (detail : String) :
    RaisesReported (requireHostname rules parts detail) := by
  unfold requireHostname
  split
  · exact raisesReported_value _
  · exact raisesReported_ok _

theorem requirePort_reported (parts : UrlParts) : RaisesReported (requirePort parts) := by
  unfold requirePort
  split
  · exact raisesReported_value _
  · exact raisesReported_ok _

theorem parseWords_reported (values : List (Text × Text)) (words : List Text) :
    RaisesReported (parseWords values words) := by
  induction words generalizing values with
  | nil => exact raisesReported_ok _
  | cons token rest ih =>
    unfold parseWords
    split_ifs
    · exact raisesReported_value _
    · exact ih _
    · exact raisesReported_value _

theorem keywordValues_reported (text : Text) : RaisesReported (keywordValues text) := by
  unfold keywordValues
  split
  · exact raisesReported_value _
  · exact parseWords_reported _ _

theorem propertyItems_reported (lines : List Text) : RaisesReported (propertyItems lines) := by
  induction lines with
  | nil => exact raisesReported_ok _
  | cons raw rest ih =>
    unfold propertyItems
    split_ifs
    · exact ih
    · exact ih.bind fun items => raisesReported_ok _
    · exact raisesReported_value _

/-- **A parser raises nothing but what is reported.** -/
theorem parse_reported (reference : Reference) (text : Text) :
    RaisesReported (reference.parse rules text) := by
  have hdsn : RaisesReported (parseDsn rules text) := by
    unfold parseDsn
    split_ifs
    · exact raisesReported_value _
    · split
      · exact (urlparse_reported rules _).bind fun parts =>
          (requireHostname_reported rules parts _).bind fun host =>
            (requirePort_reported parts).bind fun n => raisesReported_ok _
      · rw [← bind_pure_comp]
        exact (keywordValues_reported text).bind fun values => raisesReported_ok _
  cases reference with
  | flywaySecret =>
    refine (propertyItems_reported _).bind fun values => ?_
    simp only
    split_ifs
    · exact (urlparse_reported rules _).bind fun parts =>
        (requireHostname_reported rules parts _).bind fun host =>
          (requirePort_reported parts).bind fun n => raisesReported_ok _
    · exact raisesReported_value _
  | web => exact hdsn
  | session => exact hdsn
  | worker => exact hdsn

/-! ## What directs -/

theorem directing_append (a b : List (Text × Text)) :
    directing (a ++ b) = directing a ++ directing b := List.filterMap_append

theorem mem_directing {settings : List (Text × Text)} {k : Key} {v : Text} :
    (k, v) ∈ directing settings ↔ ∃ name, (name, v) ∈ settings ∧ directingKey name = some k := by
  unfold directing
  rw [List.mem_filterMap]
  constructor
  · rintro ⟨⟨name, value⟩, hmem, h⟩
    obtain ⟨k', hk, heq⟩ := Option.map_eq_some_iff.mp h
    cases heq
    exact ⟨name, hmem, hk⟩
  · rintro ⟨name, hmem, hk⟩
    exact ⟨(name, v), hmem, by rw [hk]; rfl⟩

/-- A parameter that directs has one of the names. -/
theorem directingKey_some {name : Text} {k : Key} (h : directingKey name = some k) :
    ∃ p ∈ directingNames, p.1.toList = name ∧ p.2 = k := by
  obtain ⟨p, hp, hk⟩ := Option.map_eq_some_iff.mp h
  exact ⟨p, List.mem_of_find?_eq_some hp, by simpa using List.find?_some hp, hk⟩

/-- The names of what directs. -/
def namesOf (k : Key) : List Text := (directingNames.filter (·.2 = k)).map fun p => p.1.toList

theorem directingKey_iff {name : Text} {k : Key} :
    directingKey name = some k ↔ name ∈ namesOf k := by
  constructor
  · intro h
    obtain ⟨p, hp, hname, hk⟩ := directingKey_some h
    exact List.mem_map.mpr ⟨p, List.mem_filter.mpr ⟨hp, decide_eq_true hk⟩, hname⟩
  · have hnames : ∀ n ∈ namesOf k, directingKey n = some k := by
      cases k <;> decide
    exact hnames name

/-! ## URLs -/

/-- The settings of a target, of which the database's value is open, and what is added to them. -/
theorem perm_target (db : Text) (more extra : List (Key × Text)) :
    ([(Key.host, fixedHost), (.port, fixedPort), (.database, db)] ++ more ++ extra).Perm
      (fixedTarget ++ more) ↔ extra = [] ∧ db = expectedDatabase := by
  constructor
  · intro h
    have hextra : extra = [] := by
      have hlength := h.length_eq
      simp only [fixedTarget, List.length_append, List.length_cons, List.length_nil] at hlength
      exact List.eq_nil_of_length_eq_zero (by omega)
    subst hextra
    rw [List.append_nil, fixedTarget, List.perm_append_right_iff, List.perm_cons,
      List.perm_cons] at h
    have hpair := List.singleton_perm_singleton.mp h
    exact ⟨rfl, (Prod.mk.inj hpair).2⟩
  · rintro ⟨rfl, rfl⟩
    rw [List.append_nil]
    exact List.Perm.refl _

theorem portText_fixed {n : Option Nat} (h : portText n = fixedPort) :
    ∃ k, n = some k ∧ (Nat.repr k).toList = fixedPort := by
  unfold portText at h
  split at h
  · exact absurd h (by decide)
  · exact absurd h (by decide)
  · exact ⟨_, rfl, h⟩

/-- Of a URL that matches, the settings of the target are the first. -/
theorem directing_urlSettings {parts : UrlParts} {n : Option Nat}
    (hhost : hostname rules parts.netloc = some fixedHost) (hport : port parts.netloc = some n)
    (hn : portText n = fixedPort)
    (hdb : parts.path.dropWhile (· = '/') = expectedDatabase) :
    directing (urlSettings rules parts) =
      [(.host, fixedHost), (.port, fixedPort), (.database, parts.path.drop 1)] ++
        directing (userSettings rules parts) ++ directing (queryItems rules parts.query) := by
  obtain ⟨k, rfl, hk⟩ := portText_fixed hn
  have hpath : parts.path ≠ [] := by
    intro h
    rw [h] at hdb
    exact absurd hdb (by decide)
  have hhostSettings : directing (hostSettings rules parts) = [(.host, fixedHost)] := by
    rw [hostSettings, hhost]
    rfl
  have hportSettings : directing (portSettings parts) = [(.port, fixedPort)] := by
    rw [portSettings, hport]
    simp only [hk]
    rfl
  have hdatabaseSettings :
      directing (databaseSettings parts) = [(.database, parts.path.drop 1)] := by
    rw [databaseSettings, if_neg hpath]
    rfl
  rw [urlSettings, directing_append, directing_append, directing_append, directing_append,
    hhostSettings, hportSettings, hdatabaseSettings]
  rfl

theorem directing_userSettings {parts : UrlParts} :
    directing (userSettings rules parts) =
      (userInfo parts.netloc).toList.map fun user => (Key.user, rules.unquote user) := by
  rw [userSettings]
  cases userInfo parts.netloc with
  | none => rfl
  | some user => rfl

theorem urlparse_ok {rest : Text} {parts : UrlParts} (h : urlparse rules rest = .ok parts) :
    splitUrl rules rest = some parts := by
  unfold urlparse at h
  split at h
  · exact nomatch h
  · next hparts => exact Except.ok.inj h ▸ hparts

theorem requireHostname_ok {parts : UrlParts} {detail : String} {host : Text}
    (h : requireHostname rules parts detail = .ok host) :
    hostname rules parts.netloc = some host := by
  unfold requireHostname at h
  split at h
  · exact nomatch h
  · next hhost => exact Except.ok.inj h ▸ hhost

theorem requirePort_ok {parts : UrlParts} {n : Option Nat} (h : requirePort parts = .ok n) :
    port parts.netloc = some n := by
  unfold requirePort at h
  split at h
  · exact nomatch h
  · next hport => exact Except.ok.inj h ▸ hport

/-- What the parser of a URL has read. -/
theorem parseUrl_ok {rest : Text} {info : Info} (h : parseUrl rules rest = .ok info) :
    ∃ parts n, splitUrl rules rest = some parts ∧
      hostname rules parts.netloc = some info.host ∧ port parts.netloc = some n ∧
      info.port = portText n ∧ info.dbname = parts.path.dropWhile (· = '/') ∧
      info.user = rules.unquote (orElse [] (userInfo parts.netloc)) := by
  obtain ⟨parts, hparts, h⟩ := except_bind_ok.mp h
  obtain ⟨host, hhost, h⟩ := except_bind_ok.mp h
  obtain ⟨n, hport, h⟩ := except_bind_ok.mp h
  cases h
  exact ⟨parts, n, urlparse_ok rules hparts, requireHostname_ok rules hhost, requirePort_ok hport,
    rfl, rfl, rfl⟩

/-- A URL that matches is bound if it is clean. -/
theorem url_bound_iff {role rest : Text} {info : Info} (hrole : role ≠ [])
    (h : parseUrl rules rest = .ok info) (htarget : TargetMatch info) (huser : info.user = role) :
    (∃ parts, splitUrl rules rest = some parts ∧
      (directing (urlSettings rules parts)).Perm (fixedTarget ++ [(.user, role)])) ↔
    ∀ parts, splitUrl rules rest = some parts → UrlClean rules parts := by
  obtain ⟨parts, n, hparts, hhost, hport, hn, hdb, hname⟩ := parseUrl_ok rules h
  obtain ⟨hfixedHost, hfixedPort, hfixedDb⟩ := htarget
  rw [hfixedHost] at hhost
  rw [hfixedPort] at hn
  rw [hfixedDb] at hdb
  rw [huser] at hname
  have husers : directing (userSettings rules parts) = [(.user, role)] := by
    rw [directing_userSettings]
    cases hinfo : userInfo parts.netloc with
    | none =>
      rw [hinfo] at hname
      exact absurd (hname.trans rules.unquote_nil) hrole
    | some user =>
      rw [hinfo] at hname
      exact congrArg (fun t => [(Key.user, t)]) hname.symm
  have hbound : (directing (urlSettings rules parts)).Perm (fixedTarget ++ [(.user, role)]) ↔
      UrlClean rules parts := by
    rw [directing_urlSettings rules hhost hport hn.symm hdb.symm, husers, perm_target, UrlClean,
      ← hdb, eq_comm (a := parts.path.drop 1)]
  constructor
  · rintro ⟨parts', hparts', hperm⟩ parts'' hparts''
    cases hparts.symm.trans hparts'
    cases hparts.symm.trans hparts''
    exact hbound.mp hperm
  · exact fun hclean => ⟨parts, hparts, hbound.mpr (hclean parts hparts)⟩

/-! ## Keyword DSNs -/

theorem mem_itemsOf {values : List (Text × Text)} {key : String} {v : Text} :
    v ∈ itemsOf key values ↔ (key.toList, v) ∈ values := by
  unfold itemsOf
  rw [List.mem_map]
  constructor
  · rintro ⟨⟨k, v'⟩, hmem, rfl⟩
    obtain ⟨hmem, hk⟩ := List.mem_filter.mp hmem
    rw [← of_decide_eq_true hk]
    exact hmem
  · exact fun h => ⟨(key.toList, v), List.mem_filter.mpr ⟨h, decide_eq_true rfl⟩, rfl⟩

theorem get_mem {values : List (Text × Text)} {key : String} {v : Text}
    (h : get values key = some v) : (key.toList, v) ∈ values :=
  mem_itemsOf.mp (List.mem_of_getLast? h)

theorem get_isSome {values : List (Text × Text)} {key : String} :
    key.toList ∈ values.map Prod.fst → ∃ v, get values key = some v := by
  intro h
  obtain ⟨⟨k, v⟩, hmem, rfl⟩ := List.mem_map.mp h
  have hne : itemsOf key values ≠ [] := List.ne_nil_of_mem (mem_itemsOf.mpr hmem)
  exact ⟨_, List.getLast?_eq_some_getLast hne⟩

theorem orElse_eq {d v : Text} {o : Option Text} (h : orElse d o = v) (hne : d ≠ v) :
    o = some v := by
  cases o with
  | none => exact absurd h hne
  | some t => exact congrArg some h

/-- No key is set twice. -/
theorem parseWords_nodup {values result : List (Text × Text)} {words : List Text}
    (hnodup : (values.map Prod.fst).Nodup) (h : parseWords values words = .ok result) :
    (result.map Prod.fst).Nodup := by
  induction words generalizing values with
  | nil =>
    cases h
    exact hnodup
  | cons token rest ih =>
    unfold parseWords at h
    split_ifs at h with heq hdup
    · exact nomatch h
    · refine ih ?_ h
      rw [List.map_append, List.nodup_append]
      refine ⟨hnodup, List.nodup_singleton _, fun a ha b hb => ?_⟩
      have hkey : b = before '=' token := List.mem_singleton.mp hb
      rintro rfl
      exact hdup (hkey ▸ ha)
    · exact nomatch h

theorem keywordValues_nodup {text : Text} {values : List (Text × Text)}
    (h : keywordValues text = .ok values) : (values.map Prod.fst).Nodup := by
  unfold keywordValues at h
  split at h
  · exact nomatch h
  · have hnil : (([] : List (Text × Text)).map Prod.fst).Nodup := List.nodup_nil
    exact parseWords_nodup hnil h

/-- What a keyword DSN that matches has set. -/
structure KeywordMatch (values : List (Text × Text)) (role : Text) : Prop where
  host : ("host".toList, fixedHost) ∈ values
  port : ("port".toList, fixedPort) ∈ values
  user : ("user".toList, role) ∈ values
  database : ("dbname".toList, expectedDatabase) ∈ values ∨
    ("database".toList, expectedDatabase) ∈ values ∧ "dbname".toList ∉ values.map Prod.fst

theorem keyword_match {values : List (Text × Text)} {role : Text} (hrole : role ≠ [])
    (htarget : TargetMatch (keywordInfo values)) (huser : (keywordInfo values).user = role) :
    KeywordMatch values role := by
  obtain ⟨hhost, hport, hdb⟩ := htarget
  refine ⟨get_mem (orElse_eq hhost (by decide)), get_mem (orElse_eq hport (by decide)),
    get_mem (orElse_eq huser (Ne.symm hrole)), ?_⟩
  cases hdbname : get values "dbname" with
  | some v =>
    have hv : v = expectedDatabase := by
      have hdb' : orElse (orElse [] (get values "database")) (get values "dbname") =
          expectedDatabase := hdb
      rw [hdbname] at hdb'
      exact hdb'
    exact Or.inl (hv ▸ get_mem hdbname)
  | none =>
    have hdb' : orElse (orElse [] (get values "database")) (get values "dbname") =
        expectedDatabase := hdb
    rw [hdbname] at hdb'
    refine Or.inr ⟨get_mem (orElse_eq hdb' (by decide)), fun h => ?_⟩
    obtain ⟨v, hv⟩ := get_isSome h
    exact nomatch hdbname.symm.trans hv

theorem directing_keys (settings : List (Text × Text)) :
    (directing settings).map (fun p => some p.1) =
      (settings.filter fun s => (directingKey s.1).isSome).map fun s => directingKey s.1 := by
  induction settings with
  | nil => rfl
  | cons s rest ih =>
    unfold directing
    rw [List.filterMap_cons, List.filter_cons]
    cases hk : directingKey s.1 with
    | none => exact ih
    | some k =>
      simp only [Option.map_some, Option.isSome_some, if_true, List.map_cons, hk]
      exact congrArg (some k :: ·) ih

/-- Two settings of one thing are one, if everything is set once. -/
theorem directing_unique {settings : List (Text × Text)}
    (hnodup : ((directing settings).map fun p => some p.1).Nodup) {a b : Text × Text} {k : Key}
    (ha : a ∈ settings) (hb : b ∈ settings) (hka : directingKey a.1 = some k)
    (hkb : directingKey b.1 = some k) : a = b := by
  rw [directing_keys] at hnodup
  refine List.inj_on_of_nodup_map hnodup ?_ ?_ (hka.trans hkb.symm)
  · exact List.mem_filter.mpr ⟨ha, by rw [hka]; rfl⟩
  · exact List.mem_filter.mpr ⟨hb, by rw [hkb]; rfl⟩

theorem fixed_keys_nodup (role : Text) :
    ((fixedTarget ++ [(Key.user, role)]).map fun p => some p.1).Nodup := by
  have hkeys : ((fixedTarget ++ [(Key.user, role)]).map fun p => some p.1) =
      [some Key.host, some .port, some .database, some .user] := rfl
  rw [hkeys]
  decide

theorem other_not_fixed {role v : Text} : (Key.other, v) ∉ fixedTarget ++ [(.user, role)] := by
  simp [fixedTarget]

/-- With no other parameter and one name for the database, a thing has one name. -/
theorem KeywordClean.name_unique {values : List (Text × Text)} (hclean : KeywordClean values)
    {a b : Text × Text} (ha : a ∈ values) (hb : b ∈ values) {k : Key}
    (hka : directingKey a.1 = some k) (hkb : directingKey b.1 = some k) : a.1 = b.1 := by
  have hna := directingKey_iff.mp hka
  have hnb := directingKey_iff.mp hkb
  cases k with
  | host => exact (List.mem_singleton.mp hna).trans (List.mem_singleton.mp hnb).symm
  | port => exact (List.mem_singleton.mp hna).trans (List.mem_singleton.mp hnb).symm
  | user => exact (List.mem_singleton.mp hna).trans (List.mem_singleton.mp hnb).symm
  | other => exact absurd hka (hclean.1 a ha)
  | database =>
    have hpair : ∀ {t : Text}, t ∈ namesOf .database → t = "dbname".toList ∨ t =
      "database".toList :=
      fun h => (List.mem_cons.mp h).imp_right List.mem_singleton.mp
    have hmema := List.mem_map_of_mem (f := Prod.fst) ha
    have hmemb := List.mem_map_of_mem (f := Prod.fst) hb
    rcases hpair hna with hna | hna <;> rcases hpair hnb with hnb | hnb
    · exact hna.trans hnb.symm
    · exact absurd ⟨hna ▸ hmema, hnb ▸ hmemb⟩ hclean.2
    · exact absurd ⟨hnb ▸ hmemb, hna ▸ hmema⟩ hclean.2
    · exact hna.trans hnb.symm

theorem pair_unique {values : List (Text × Text)} (hnodup : (values.map Prod.fst).Nodup)
    {a b : Text × Text} (ha : a ∈ values) (hb : b ∈ values) (h : a.1 = b.1) : a = b :=
  List.inj_on_of_nodup_map hnodup ha hb h

/-- A keyword DSN that matches is bound if it is clean. -/
theorem keyword_bound_iff {values : List (Text × Text)} {role : Text}
    (hnodup : (values.map Prod.fst).Nodup) (hmatch : KeywordMatch values role) :
    (directing values).Perm (fixedTarget ++ [(.user, role)]) ↔ KeywordClean values := by
  constructor
  · intro hperm
    have hkeys := (hperm.map fun p => some p.1).nodup_iff.mpr (fixed_keys_nodup role)
    refine ⟨fun item hitem hother => ?_, ?_⟩
    · have hmem := hperm.subset (mem_directing.mpr ⟨item.1, hitem, hother⟩)
      exact other_not_fixed hmem
    · rintro ⟨hfirst, hsecond⟩
      obtain ⟨⟨k, v⟩, hv, rfl⟩ := List.mem_map.mp hfirst
      obtain ⟨⟨k, w⟩, hw, rfl⟩ := List.mem_map.mp hsecond
      have hdbname : directingKey "dbname".toList = some .database := by decide
      have hdatabase : directingKey "database".toList = some .database := by decide
      have hsame := directing_unique hkeys hv hw hdbname hdatabase
      exact absurd (Prod.mk.inj hsame).1 (by decide)
  · intro hclean
    -- one setting for each thing
    have hsingle : ∀ {a b : Text × Text} {k : Key}, a ∈ values → b ∈ values →
        directingKey a.1 = some k → directingKey b.1 = some k → a = b := fun ha hb hka hkb =>
      pair_unique hnodup ha hb (hclean.name_unique ha hb hka hkb)
    have hdirecting : (directing values).Nodup := by
      refine List.Nodup.of_map (fun p => some p.1) ?_
      rw [directing_keys]
      refine List.Nodup.map_on (fun a ha b hb h => ?_) ((hnodup.of_map _).filter _)
      obtain ⟨ha, hka⟩ := List.mem_filter.mp ha
      obtain ⟨hb, -⟩ := List.mem_filter.mp hb
      obtain ⟨k, hk⟩ := Option.isSome_iff_exists.mp hka
      exact hsingle ha hb hk (h ▸ hk)
    have hfixed : (fixedTarget ++ [(Key.user, role)]).Nodup := (fixed_keys_nodup role).of_map _
    have hdatabase : ∃ name, (name, expectedDatabase) ∈ values ∧
        directingKey name = some .database := by
      rcases hmatch.database with h | ⟨h, -⟩
      · exact ⟨_, h, by decide⟩
      · exact ⟨_, h, by decide⟩
    obtain ⟨name, hname, hkey⟩ := hdatabase
    have huser : directingKey "user".toList = some .user := by decide
    refine (List.perm_ext_iff_of_nodup hdirecting hfixed).mpr ?_
    rintro ⟨k, v⟩
    rw [mem_directing]
    constructor
    · rintro ⟨n, hn, hk⟩
      cases k with
      | host =>
        obtain rfl := (Prod.mk.inj (hsingle hn hmatch.host hk (by decide))).2
        exact .head _
      | port =>
        obtain rfl := (Prod.mk.inj (hsingle hn hmatch.port hk (by decide))).2
        exact .tail _ (.head _)
      | database =>
        obtain rfl := (Prod.mk.inj (hsingle hn hname hk hkey)).2
        exact .tail _ (.tail _ (.head _))
      | user =>
        obtain rfl := (Prod.mk.inj (hsingle hn hmatch.user hk huser)).2
        exact .tail _ (.tail _ (.tail _ (.head _)))
      | other => exact absurd hk (hclean.1 _ hn)
    · intro hmem
      simp only [fixedTarget, List.cons_append, List.nil_append, List.mem_cons, Prod.mk.injEq,
        List.not_mem_nil, or_false] at hmem
      rcases hmem with ⟨rfl, rfl⟩ | ⟨rfl, rfl⟩ | ⟨rfl, rfl⟩ | ⟨rfl, rfl⟩
      · exact ⟨_, hmatch.host, by decide⟩
      · exact ⟨_, hmatch.port, by decide⟩
      · exact ⟨_, hname, hkey⟩
      · exact ⟨_, hmatch.user, by decide⟩

theorem parseDsn_bound_iff {role text : Text} {info : Info} (hrole : role ≠ [])
    (h : parseDsn rules text = .ok info) (htarget : TargetMatch info) (huser : info.user = role) :
    DsnBound rules role text ↔ DsnClean rules text := by
  unfold parseDsn at h
  split_ifs at h
  · exact nomatch h
  unfold DsnBound DsnClean
  cases hscheme : behindScheme text with
  | some rest =>
    rw [hscheme] at h
    exact url_bound_iff rules hrole h htarget huser
  | none =>
    rw [hscheme] at h
    cases hvalues : keywordValues text with
    | error e =>
      rw [hvalues] at h
      exact nomatch h
    | ok values =>
      rw [hvalues] at h
      cases h
      have hbound := keyword_bound_iff (keywordValues_nodup hvalues)
        (keyword_match hrole htarget huser)
      constructor
      · rintro ⟨values', hvalues', hperm⟩ values'' hvalues''
        cases hvalues'
        cases hvalues''
        exact hbound.mp hperm
      · exact fun hclean => ⟨values, rfl, hbound.mpr (hclean values rfl)⟩

/-! ## Flyway files -/

/-- What the parser of a Flyway file has read. -/
theorem parseFlyway_ok {text : Text} {info : Info} (h : parseFlywaySecret rules text = .ok info) :
    ∃ values url parts n, propertyItems (splitLines text) = .ok values ∧
      get values "flyway.url" = some url ∧
      splitUrl rules (url.drop jdbcPrefix.length) = some parts ∧
      hostname rules parts.netloc = some info.host ∧ port parts.netloc = some n ∧
      info.port = portText n ∧ info.dbname = parts.path.dropWhile (· = '/') ∧
      info.user = orElse [] (get values "flyway.user") := by
  obtain ⟨values, hvalues, h⟩ := except_bind_ok.mp h
  simp only at h
  split_ifs at h with hprefix
  · obtain ⟨parts, hparts, h⟩ := except_bind_ok.mp h
    obtain ⟨host, hhost, h⟩ := except_bind_ok.mp h
    obtain ⟨n, hport, h⟩ := except_bind_ok.mp h
    cases h
    have hurl : get values "flyway.url" = some (orElse [] (get values "flyway.url")) := by
      refine orElse_eq (d := []) rfl fun hnil => ?_
      rw [← hnil] at hprefix
      exact absurd hprefix (by decide)
    exact ⟨values, _, parts, n, hvalues, hurl, urlparse_ok rules hparts,
      requireHostname_ok rules hhost, requirePort_ok hport, rfl, rfl, rfl⟩
  · exact nomatch h

/-- Of a list with this last element, no element is before it if the list is short. -/
theorem eq_singleton_of_getLast? {l : List Text} {a : Text} (h : l.getLast? = some a) :
    l.length ≤ 1 ↔ l = [a] := by
  constructor
  · intro hlength
    match l, h with
    | [b], h => exact congrArg (fun c => [c]) (Option.some.inj h)
    | b :: c :: rest, _ => exact absurd hlength (by simp)
  · rintro rfl
    exact Nat.le_refl 1

/-- A Flyway file that matches is bound if it is clean. -/
theorem parseFlyway_bound_iff {role text : Text} {info : Info} (hrole : role ≠ [])
    (h : parseFlywaySecret rules text = .ok info) (htarget : TargetMatch info)
    (huser : info.user = role) : FlywayBound rules role text ↔ FlywayClean rules text := by
  obtain ⟨values, url, parts, n, hvalues, hurl, hparts, hhost, hport, hn, hdb, hname⟩ :=
    parseFlyway_ok rules h
  obtain ⟨hfixedHost, hfixedPort, hfixedDb⟩ := htarget
  rw [hfixedHost] at hhost
  rw [hfixedPort] at hn
  rw [hfixedDb] at hdb
  have hgetUser : get values "flyway.user" = some role :=
    orElse_eq (hname.symm.trans huser) (Ne.symm hrole)
  have hperm : (directing (urlSettings rules parts)).Perm fixedTarget ↔
      UrlClean rules parts ∧ userInfo parts.netloc = none := by
    have hextra := perm_target parts.path.tail []
      (directing (userSettings rules parts) ++ directing (queryItems rules parts.query))
    rw [List.append_nil, List.append_nil, ← List.append_assoc, ← List.drop_one] at hextra
    rw [directing_urlSettings rules hhost hport hn.symm hdb.symm, hextra,
      List.append_eq_nil_iff, directing_userSettings, UrlClean, ← hdb,
      eq_comm (a := parts.path.drop 1)]
    cases userInfo parts.netloc with
    | none => simp
    | some user => simp
  constructor
  · rintro ⟨values', url', parts', hvalues', hurls, husers, hparts', hbound⟩ values'' hvalues''
    cases hvalues.symm.trans hvalues'
    cases hvalues.symm.trans hvalues''
    have hlast : get values "flyway.url" = some url' := by
      rw [get, hurls]
      rfl
    cases hurl.symm.trans hlast
    cases hparts.symm.trans hparts'
    refine ⟨by rw [hurls]; exact Nat.le_refl 1, by rw [husers]; exact Nat.le_refl 1, ?_⟩
    intro url'' hmem parts'' hparts''
    rw [hurls, List.mem_singleton] at hmem
    rw [hmem] at hparts''
    cases hparts.symm.trans hparts''
    exact hperm.mp hbound
  · intro hclean
    obtain ⟨hurls, husers, hparts'⟩ := hclean values hvalues
    have hsingle := (eq_singleton_of_getLast? hurl).mp hurls
    refine ⟨values, url, parts, hvalues, hsingle,
      (eq_singleton_of_getLast? hgetUser).mp husers, hparts, hperm.mpr ?_⟩
    exact hparts' url (hsingle ▸ List.mem_singleton_self url) parts hparts

/-! ## References -/

theorem role_ne_nil (reference : Reference) : reference.role ≠ [] := by
  cases reference <;> decide

theorem bound_iff {reference : Reference} {text : Text}
    (h : Matches rules reference text) :
    Bound rules reference text ↔ Clean rules reference text := by
  obtain ⟨info, hparse, htarget, huser⟩ := h
  have hrole := role_ne_nil reference
  cases reference with
  | flywaySecret => exact parseFlyway_bound_iff rules hrole hparse htarget huser
  | web => exact parseDsn_bound_iff rules hrole hparse htarget huser
  | session => exact parseDsn_bound_iff rules hrole hparse htarget huser
  | worker => exact parseDsn_bound_iff rules hrole hparse htarget huser

theorem yesNo_yes {c : Prop} [Decidable c] : yesNo c = "YES" ↔ c := by
  unfold yesNo
  split_ifs with h
  · exact iff_of_true rfl h
  · exact iff_of_false (by decide) h

theorem not_sound {reference : Reference} {text : Text}
    (hyes : semantics rules reference text = .ok ⟨"YES", "YES", "YES"⟩)
    (hbound : ¬ Bound rules reference text) : ¬ Sound rules reference text := by
  rintro ⟨s, hs, h⟩
  exact hbound (h (Except.ok.inj (hs.symm.trans hyes)))

def sampleRules : UrlRules where
  refused netloc := '[' ∈ netloc || ']' ∈ netloc
  lower text := text.map Char.toLower
  unquote text := text
  unquote_nil := rfl

def hostaddrDsn : Text :=
  ("host=127.0.0.1 port=55433 dbname=propertyai_rent_staging user=propertyai_rent_staging_web " ++
    "password=x hostaddr=203.0.113.9").toList

def queryDsn : Text :=
  ("postgresql://propertyai_rent_staging_web:x@127.0.0.1:55433/propertyai_rent_staging" ++
    "?host=203.0.113.9").toList

def twiceFile : Text :=
  ("flyway.url=jdbc:postgresql://203.0.113.9/other\n" ++
    "flyway.url=jdbc:postgresql://127.0.0.1:55433/propertyai_rent_staging\n" ++
    "flyway.user=propertyai_flyway\nflyway.password=x\n").toList

end Adcp.L5.Postgres.SecretReference
