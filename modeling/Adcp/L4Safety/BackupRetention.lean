import Mathlib.Data.List.Lex
import Mathlib.Data.String.Basic
import Adcp.L1Base.Interleaving
import Adcp.L1Base.Retention
import Adcp.L1Base.Transcript
import Adcp.L3Store.StampOrder

/-!
# The backups that a migration leaves

The backups are pruned in the order of their names. A name begins with the version as a decimal
text, so the version decides before the time does, and `9` comes after `10`.

* `BackupName.text_lt_iff`: the order of the names is `BackupName.Before`.
* `Kept`, `migrate_meets`: what each part of the migration leaves in the directory.
* `migrate_backups_iff`: the new backup survives, and the newest are kept, exactly when the
  versions do not overtake the times at the cut.
-/
namespace Adcp.L3.Migrations

open Adcp.L1 Adcp.L2 Script FileSystem Retention

/-! ## The order of the names -/

section Order

variable {s t : List Char}

/-- A text of digits that ends at a full stop: the shorter of two comes first where they agree. -/
theorem digits_append_lt {u v : List Char} (hu : ∀ c ∈ u, '.' < c) (hv : ∀ c ∈ v, '.' < c) :
    u ++ '.' :: s < v ++ '.' :: t ↔ u < v ∨ u = v ∧ s < t := by
  induction u generalizing v with
  | nil =>
    cases v with
    | nil => simp
    | cons d v =>
      have hd : '.' < d := hv d (List.mem_cons_self ..)
      simp [List.cons_lt_cons_iff, hd]
  | cons c u ih =>
    have hc : '.' < c := hu c (List.mem_cons_self ..)
    cases v with
    | nil => simp [List.cons_lt_cons_iff, lt_asymm hc, ne_of_gt hc]
    | cons d v =>
      rw [List.cons_append, List.cons_append, List.cons_lt_cons_iff, List.cons_lt_cons_iff,
        ih (fun x hx => hu x (List.mem_cons_of_mem _ hx)) fun x hx => hv x
          (List.mem_cons_of_mem _ hx)]
      simp only [List.cons.injEq]
      tauto

end Order

namespace UtcTime

theorem fields_injective {a b : UtcTime} (h : a.fields = b.fields) : a = b := by
  cases a
  cases b
  simpa [fields] using h

theorem stamp_append_lt {a b : UtcTime} {s t : List Char} :
    a.stamp ++ s < b.stamp ++ t ↔ a < b ∨ a = b ∧ s < t := by
  have hfields : a = b ↔ a.fields = b.fields := ⟨congrArg fields, fields_injective⟩
  have hlt : a < b ↔ a.fields < b.fields := Iff.rfl
  obtain ⟨⟨ay, am, ad⟩, ah, ami, as, au⟩ := And.intro a.date a.clock
  obtain ⟨⟨bY, bm, bd⟩, bh, bmi, bs, bu⟩ := And.intro b.date b.clock
  rw [hlt, hfields]
  unfold stamp fields
  simp only [List.append_assoc, List.cons_append, List.nil_append]
  rw [field_append_lt (by omega) (by omega), field_append_lt (by omega) (by omega),
    field_append_lt (by omega) (by omega), List.cons_lt_cons_iff,
    field_append_lt (by omega) (by omega), field_append_lt (by omega) (by omega),
    field_append_lt (by omega) (by omega), field_append_lt (by omega) (by omega)]
  simp only [List.cons_lt_cons_iff, List.cons.injEq, lt_self_iff_false, false_or, true_and,
    and_or_left, and_assoc, or_assoc, and_true, and_false, or_false]

theorem earlier_or_later (a b : UtcTime) : a < b ∨ a = b ∨ b < a := by
  rcases lt_trichotomy a.fields b.fields with h | h | h
  · exact Or.inl h
  · exact Or.inr (Or.inl (fields_injective h))
  · exact Or.inr (Or.inr h)

end UtcTime

namespace BackupName

/-- The order of the names: the versions as texts, then the times, then what is left of them. -/
def Before (a b : BackupName) : Prop :=
  a.versionText < b.versionText ∨ a.versionText = b.versionText ∧
    (a.created < b.created ∨ a.created = b.created ∧
      a.checksum ++ ".bak".toList < b.checksum ++ ".bak".toList)

instance (a b : BackupName) : Decidable (a.Before b) := by
  unfold Before
  infer_instance

theorem versionText_digits (b : BackupName) : ∀ c ∈ b.versionText, '.' < c := by
  intro c hc
  have hdigit : c.isDigit = true := Nat.isDigit_of_mem_toDigits (by omega) (by omega) hc
  simp only [Char.isDigit, Bool.and_eq_true, decide_eq_true_eq] at hdigit
  exact lt_of_lt_of_le (show ('.' : Char) < '0' by decide) hdigit.1

theorem text_lt_iff {a b : BackupName} : a.text < b.text ↔ a.Before b := by
  unfold text Before
  rw [String.lt_iff_toList_lt, String.toList_ofList, String.toList_ofList]
  unfold chars
  rw [append_lt_append_iff, digits_append_lt a.versionText_digits b.versionText_digits,
    UtcTime.stamp_append_lt, List.cons_lt_cons_iff]
  simp only [lt_self_iff_false, false_or, true_and]

theorem text_injective : Function.Injective text := by
  intro a b h
  have hab : ¬ a.Before b := fun hlt => lt_irrefl _ (h ▸ text_lt_iff.mpr hlt)
  have hba : ¬ b.Before a := fun hlt => lt_irrefl _ (h ▸ text_lt_iff.mpr hlt)
  have hversion : a.versionText = b.versionText :=
    le_antisymm (not_lt.mp fun h => hba (Or.inl h)) (not_lt.mp fun h => hab (Or.inl h))
  have hcreated : a.created = b.created := by
    rcases UtcTime.earlier_or_later a.created b.created with h | h | h
    · exact absurd (Or.inr ⟨hversion, Or.inl h⟩) hab
    · exact h
    · exact absurd (Or.inr ⟨hversion.symm, Or.inl h⟩) hba
  have hchecksum : a.checksum ++ ".bak".toList = b.checksum ++ ".bak".toList :=
    le_antisymm
      (not_lt.mp fun h => hba (Or.inr ⟨hversion.symm, Or.inr ⟨hcreated.symm, h⟩⟩))
      (not_lt.mp fun h => hab (Or.inr ⟨hversion, Or.inr ⟨hcreated, h⟩⟩))
  have hnumber : a.version = b.version := by
    have hvalue := congrArg (fun cs => Nat.ofDigitChars 10 cs 0) hversion
    simpa [versionText, Nat.ofDigitChars_ten_toDigits] using hvalue
  cases a
  cases b
  cases hnumber
  cases hcreated
  cases List.append_cancel_right hchecksum
  rfl

theorem toList_text (b : BackupName) : b.text.toList = b.chars := String.toList_ofList

theorem text_isBackup (b : BackupName) : isBackup b.text = true := by
  unfold isBackup
  simp only [toList_text, Bool.and_eq_true, decide_eq_true_eq, List.isPrefixOf_iff_prefix,
    List.isSuffixOf_iff_suffix]
  refine ⟨⟨List.prefix_append _ _, ?_⟩, ?_⟩
  · refine ⟨"control.sqlite3.v".toList ++ (b.versionText ++ '.' :: (b.created.stamp ++ '.' ::
      b.checksum)), ?_⟩
    unfold chars
    simp only [List.append_assoc, List.cons_append]
  · have hname : "control.sqlite3.v".toList.length = 17 := rfl
    have hending : ".bak".toList.length = 4 := rfl
    unfold chars
    simp only [List.length_append, List.length_cons, hname, hending]
    omega

/-- The file that the copy is made in is no backup. -/
theorem temporary_notBackup (b : BackupName) : isBackup (b.text ++ ".tmp") = false := by
  have hsuffix : ¬ ".bak".toList <:+ b.text.toList ++ ".tmp".toList := by
    rintro ⟨before, h⟩
    have hends : ".bak".toList.getLast? = ".tmp".toList.getLast? := by
      have hlast := congrArg List.getLast? h
      rwa [List.getLast?_append_of_ne_nil _ (by decide),
        List.getLast?_append_of_ne_nil _ (by decide)] at hlast
    revert hends
    decide
  unfold isBackup
  have hfalse : ".bak".toList.isSuffixOf (b.text ++ ".tmp").toList = false := by
    rw [String.toList_append]
    exact Bool.eq_false_iff.mpr fun h => hsuffix (List.isSuffixOf_iff_suffix.mp h)
  simp only [hfalse, Bool.and_false, Bool.false_and]

end BackupName

/-! ## The directory -/

/-- The backups are as they were. -/
def Spares (files files' : Files String) : Prop := ∀ n, isBackup n = true → files' n = files n

/-- What a call leaves in the directory. A call on a connection may change any file that is no
backup; a call on the directory has its effect and returns, or raises without effect. -/
def serve (files : Files String) :
    (c : MigrationCall) → Except PyError (MigrationAnswer c) → Files String → Prop
  | .glob, .ok names, files' =>
    names.Nodup ∧ (∀ n, n ∈ names ↔ (files n).isSome ∧ isBackup n = true) ∧ files' = files
  | .replace source target, .ok _, files' => Done files (.replace source target) () files'
  | .unlink n, .ok _, files' => Done files (.unlink n) () files'
  | .unlinkMissingOk n, .ok _, files' => files' = Function.update files n none
  | .replace .., .error _, files' | .unlink _, .error _, files' | .unlinkMissingOk _,
  .error _, files'
  | .glob, .error _, files' => files' = files
  | _, _, files' => Spares files files'

abbrev MigrationEvent : Type := Event (Files String) PyError MigrationAnswer

/-- The directory, with the calls made so far. -/
abbrev Traced : Type := Files String × List MigrationEvent

/-- The backup that a call has made. -/
def made? : MigrationEvent → Option String
  | ⟨_, .replace _ target, .ok _⟩ => some target
  | _ => none

def madeBackup (log : List MigrationEvent) : Option String := log.findSome? made?

/-- The migration has come to its pruning. -/
def pruned (log : List MigrationEvent) : Bool := log.any fun e => e.made = .glob

theorem madeBackup_snoc (log : List MigrationEvent) (e : MigrationEvent) :
    madeBackup (log ++ [e]) = (madeBackup log).or (made? e) := by
  unfold madeBackup
  rw [List.findSome?_append]
  cases h : made? e <;> simp [h]

theorem pruned_snoc (log : List MigrationEvent) (e : MigrationEvent) :
    pruned (log ++ [e]) = (pruned log || decide (e.made = .glob)) := by
  unfold pruned
  rw [List.any_append, List.any_cons, List.any_nil, Bool.or_false]

/-- The backups of the directory are these. -/
def Holds (all : Finset BackupName) (files : Files String) : Prop :=
  ∀ n, isBackup n = true → ((files n).isSome ↔ ∃ b ∈ all, b.text = n)

theorem Holds.spares {all : Finset BackupName} {files files' : Files String}
    (h : Holds all files) (hfiles : Spares files files') : Holds all files' := by
  intro n hn
  rw [hfiles n hn]
  exact h n hn

/-- Before the pruning: the directory holds these backups, and this one was made. -/
structure Kept (all : Finset BackupName) (made : Option BackupName) (s : Traced) : Prop where
  holds : Holds all s.1
  made : madeBackup s.2 = made.map BackupName.text
  unpruned : pruned s.2 = false

/-- The calls that change no backup. -/
def Quiet : MigrationCall → Prop
  | .replace .. | .unlink _ | .glob => False
  | .unlinkMissingOk n => isBackup n = false
  | _ => True

theorem serve_quiet {files files' : Files String} {c : MigrationCall}
    {a : Except PyError (MigrationAnswer c)} (hc : Quiet c) (h : serve files c a files') :
    Spares files files' := by
  cases c with
  | replace source target => exact hc.elim
  | unlink n => exact hc.elim
  | glob => exact hc.elim
  | unlinkMissingOk n =>
    cases a with
    | ok _ =>
      obtain rfl : files' = Function.update files n none := h
      intro m hm
      refine Function.update_of_ne ?_ _ _
      rintro rfl
      exact Bool.false_ne_true (Eq.trans (Eq.symm hc) hm)
    | error e =>
      obtain rfl : files' = files := h
      exact fun _ _ => rfl
  | _ => exact h

theorem made?_quiet {e : MigrationEvent} (h : Quiet e.made) : made? e = none := by
  obtain ⟨files, c, a⟩ := e
  cases c with
  | replace source target => exact h.elim
  | _ => rfl

variable {all : Finset BackupName} {made : Option BackupName} {s s' : Traced}

theorem Kept.quiet {c : MigrationCall} {a : Except PyError (MigrationAnswer c)}
    (h : Kept all made s) (hc : Quiet c) (hs : traced serve s c a s') : Kept all made s' := by
  refine ⟨h.holds.spares (serve_quiet hc hs.1), ?_, ?_⟩
  · rw [hs.2, madeBackup_snoc, made?_quiet hc, Option.or_none]
    exact h.made
  · have hglob : c ≠ .glob := by
      rintro rfl
      exact hc.elim
    rw [hs.2, pruned_snoc, h.unpruned, Bool.false_or]
    exact decide_eq_false hglob

/-- A program of the migration. -/
abbrev MigrationMeets {α : Type} (x : MigrationScript α) (post : Except PyError α → Traced → Prop)
    (s : Traced) : Prop :=
  Meets (traced serve) (fun _ _ => True) x post s

theorem Kept.within {α : Type} {x : MigrationScript α} (h : Kept all made s)
    (hx : Within Quiet x) : MigrationMeets x (fun _ s' => Kept all made s') s :=
  hx.keeps (fun _ _ _ _ hs hc hserve => hs.quiet hc hserve) h

/-! ## The backup -/

theorem within_ask {P : MigrationCall → Prop} {c : MigrationCall} (h : P c) : Within P (ask c) :=
  within_invoke h

/-- The backups with the new one. -/
def withMade (earlier : Finset BackupName) (made : Option BackupName) : Finset BackupName :=
  made.elim earlier fun b => insert b earlier

theorem mem_withMade {earlier : Finset BackupName} {made : Option BackupName} {b : BackupName} :
    b ∈ withMade earlier made ↔ made = some b ∨ b ∈ earlier := by
  cases made with
  | none => simp [withMade]
  | some c => simp [withMade, eq_comm]

/-- The copy takes the place of a backup of its name, if there is one. -/
theorem Kept.replaced {name : BackupName} {earlier : Finset BackupName} (h : Kept earlier none s)
    (hs : traced serve s (.replace (name.text ++ ".tmp") name.text) (.ok ()) s') :
    Kept (withMade earlier (some name)) (some name) s' := by
  obtain ⟨⟨f, -, hfiles⟩, hlog⟩ := hs
  refine ⟨fun n hn => ?_, ?_, ?_⟩
  · have hsource : n ≠ name.text ++ ".tmp" := by
      rintro rfl
      exact Bool.false_ne_true (name.temporary_notBackup.symm.trans hn)
    rw [hfiles]
    by_cases htarget : n = name.text
    · subst htarget
      rw [Function.update_self]
      exact ⟨fun _ => ⟨name, mem_withMade.mpr (Or.inl rfl), rfl⟩, fun _ => rfl⟩
    · rw [Function.update_of_ne htarget, Function.update_of_ne hsource, h.holds n hn]
      constructor
      · rintro ⟨b, hb, rfl⟩
        exact ⟨b, mem_withMade.mpr (Or.inr hb), rfl⟩
      · rintro ⟨b, hb, rfl⟩
        refine ⟨b, (mem_withMade.mp hb).resolve_left ?_, rfl⟩
        rintro ⟨⟩
        exact htarget rfl
  · rw [hlog, madeBackup_snoc, h.made]
    rfl
  · rw [hlog, pruned_snoc, h.unpruned]
    rfl

/-- Either a backup of this name was made, or none. -/
theorem backup_meets (describe : List String → String) (name : BackupName)
    {earlier : Finset BackupName} (h : Kept earlier none s) :
    MigrationMeets (backup describe name) (fun r s' => match r with
      | .ok target => target = name.text ∧ Kept (withMade earlier (some name)) (some name) s'
      | .error _ => Kept earlier none s') s := by
  have hquiet : Quiet (.unlinkMissingOk (name.text ++ ".tmp")) := name.temporary_notBackup
  unfold backup
  refine (h.within (within_ask (c := .makeDirectory) trivial)).bind (fun _ s₁ h₁ => ?_)
    fun _ _ he => he
  refine (h₁.within (within_ask (c := .connect (name.text ++ ".tmp")) trivial)).bind
    (fun _ s₂ h₂ => ?_) fun _ _ he => he
  have hcopy : Within Quiet (ensuring (do
      ask (.copyPages (name.text ++ ".tmp"))
      let result ← ask (.integrityCheck (name.text ++ ".tmp"))
      require (result = ["ok"]) (.store "MIGRATION_BACKUP_INVALID" (describe result)))
      (ask (.closeDestination (name.text ++ ".tmp")))) := by
    refine Within.bind (Within.attempt ?_) fun _ => (within_ask trivial).bind fun _ => within_done _
    exact (within_ask trivial).bind fun _ => (within_ask trivial).bind fun _ => within_require _ _
  refine (h₂.within hcopy).attemptBind fun copied s₃ h₃ => ?_
  cases copied with
  | error e =>
    exact (h₃.within (within_ask hquiet)).bind (fun _ _ h₄ => h₄) fun _ _ he => he
  | ok _ =>
    have hreplace : MigrationMeets (ask (.replace (name.text ++ ".tmp") name.text))
        (fun r s₄ => match r with
          | .ok _ => Kept (withMade earlier (some name)) (some name) s₄
          | .error _ => Kept earlier none s₄) s₃ := by
      refine ⟨trivial, fun a s₄ hs => ?_⟩
      cases a with
      | ok _ => exact h₃.replaced hs
      | error e =>
        obtain ⟨hfiles, hlog⟩ := hs
        have hsame : s₄.1 = s₃.1 := hfiles
        refine ⟨by rw [hsame]; exact h₃.holds, ?_, ?_⟩
        · rw [hlog, madeBackup_snoc, h₃.made]
          rfl
        · rw [hlog, pruned_snoc, h₃.unpruned]
          rfl
    exact hreplace.bind (fun _ _ h₄ => ⟨rfl, h₄⟩) fun _ _ he => he

/-! ## The pruning -/

/-- How many of the backups have a later name. -/
def rank (all : Finset BackupName) (b : BackupName) : Nat := (all.filter b.Before).card

theorem rank_eq_later (all : Finset BackupName) (b : BackupName) :
    rank all b = later BackupName.text all b := by
  unfold rank later
  refine congrArg Finset.card (Finset.filter_congr fun c _ => ?_)
  exact BackupName.text_lt_iff.symm

/-- The directory after the pruning: the first five by name are there, and when it has not raised
nothing else is. -/
structure Pruned (all : Finset BackupName) (made : Option BackupName) (returned : Bool)
    (s : Traced) : Prop where
  spared : ∀ b ∈ all, rank all b < 5 → (s.1 b.text).isSome
  gone : returned = true → ∀ b ∈ all, 5 ≤ rank all b → s.1 b.text = none
  made : madeBackup s.2 = made.map BackupName.text
  reached : pruned s.2 = true

theorem descending_pairwise {names : List String} (h : names.Nodup) :
    (descending names).Pairwise (· > ·) := by
  have hsorted : (descending names).Pairwise fun a b => b ≤ a :=
    List.pairwise_insertionSort (fun a b : String => b ≤ a) names
  have hnodup : (descending names).Nodup :=
    (List.perm_insertionSort (fun a b : String => b ≤ a) names).nodup_iff.mpr h
  exact (hsorted.and hnodup).imp fun ⟨hle, hne⟩ => lt_of_le_of_ne hle hne.symm

theorem mem_descending {names : List String} {n : String} : n ∈ descending names ↔ n ∈ names :=
  (List.perm_insertionSort _ _).mem_iff

/-- The names that are pruned are those of the backups with five later ones. -/
theorem mem_drop_descending {names : List String} (hnodup : names.Nodup)
    (hnames : ∀ n, n ∈ names ↔ ∃ b ∈ all, b.text = n) {b : BackupName} (hb : b ∈ all) :
    b.text ∈ (descending names).drop 5 ↔ 5 ≤ rank all b := by
  have hsorted := descending_pairwise hnodup
  have hmem : ∀ n, n ∈ descending names ↔ ∃ c ∈ all, c.text = n := fun n =>
    mem_descending.trans (hnames n)
  have htake := mem_take_iff_later BackupName.text_injective hsorted hmem hb 5
  rw [← rank_eq_later] at htake
  have hdisjoint := List.pairwise_append.mp (by rwa [List.take_append_drop 5 (descending names)] :
    ((descending names).take 5 ++ (descending names).drop 5).Pairwise (· > ·))
  constructor
  · intro hdrop
    refine Nat.not_lt.mp fun hlt => ?_
    exact lt_irrefl _ (hdisjoint.2.2 _ (htake.mpr hlt) _ hdrop)
  · intro hle
    have hall : b.text ∈ (descending names).take 5 ++ (descending names).drop 5 := by
      rw [List.take_append_drop]
      exact (hmem _).mpr ⟨b, hb, rfl⟩
    exact (List.mem_append.mp hall).resolve_left fun h => absurd (htake.mp h) (Nat.not_lt.mpr hle)

/-- While the names `old` are removed, `left` are still to be. -/
structure Pruning (all : Finset BackupName) (made : Option BackupName) (old left : List String)
    (s : Traced) : Prop where
  subset : ∀ n ∈ left, n ∈ old
  nodup : left.Nodup
  present : ∀ b ∈ all, (b.text ∈ old → b.text ∈ left) → (s.1 b.text).isSome
  absent : ∀ n ∈ old, n ∉ left → s.1 n = none
  made : madeBackup s.2 = made.map BackupName.text
  reached : pruned s.2 = true

theorem Pruning.unlink {old left : List String} {n : String} {a : Except PyError Unit}
    (h : Pruning all made old (n :: left) s) (hs : traced serve s (.unlink n) a s') :
    (∀ u, a = .ok u → Pruning all made old left s') ∧
      (∀ e, a = .error e → Pruning all made old (n :: left) s') := by
  obtain ⟨hserve, hlog⟩ := hs
  have hmade : madeBackup s'.2 = made.map BackupName.text := by
    rw [hlog, madeBackup_snoc, h.made]
    exact Option.or_none
  have hreached : pruned s'.2 = true := by
    rw [hlog, pruned_snoc, h.reached, Bool.true_or]
  constructor
  · rintro u rfl
    obtain ⟨-, hfiles⟩ := hserve
    obtain ⟨hn, hnodup⟩ := List.nodup_cons.mp h.nodup
    have hnew : s'.1 = Function.update s.1 n none := hfiles
    refine ⟨fun m hm => h.subset m (List.mem_cons_of_mem _ hm), hnodup, fun b hb hkeep => ?_,
      fun m hm hleft => ?_, hmade, hreached⟩
    · have hne : b.text ≠ n := by
        rintro rfl
        exact hn (hkeep (h.subset _ (List.mem_cons_self ..)))
      rw [hnew, Function.update_of_ne hne]
      exact h.present b hb fun hold => List.mem_cons_of_mem _ (hkeep hold)
    · rw [hnew]
      by_cases hmn : m = n
      · rw [hmn, Function.update_self]
      · rw [Function.update_of_ne hmn]
        exact h.absent m hm fun hmem => hleft ((List.mem_cons.mp hmem).resolve_left hmn)
  · rintro e rfl
    have hfiles : s'.1 = s.1 := hserve
    exact ⟨h.subset, h.nodup, by rw [hfiles]; exact h.present, by rw [hfiles]; exact h.absent,
      hmade, hreached⟩

theorem unlinks_meets {old left : List String} (h : Pruning all made old left s) :
    MigrationMeets (each (fun n => ask (.unlink n)) left) (fun r s' =>
      ∃ left', Pruning all made old left' s' ∧ (r.isOk = true → left' = [])) s := by
  induction left generalizing s with
  | nil => exact ⟨[], h, fun _ => rfl⟩
  | cons n left ih =>
    have hone : MigrationMeets (ask (.unlink n)) (fun r s' => match r with
        | .ok _ => Pruning all made old left s'
        | .error _ => Pruning all made old (n :: left) s') s := by
      refine ⟨trivial, fun a s' hs => ?_⟩
      obtain ⟨hok, herror⟩ := h.unlink hs
      cases a with
      | ok u => exact hok u rfl
      | error e => exact herror e rfl
    exact hone.bind (fun _ s' h' => ih h') fun e s' h' => ⟨n :: left, h', fun hf => nomatch hf⟩

/-- What is left of the pruning spares the first five. -/
theorem Pruning.pruned {old left : List String} (h : Pruning all made old left s)
    (hold : ∀ b ∈ all, b.text ∈ old ↔ 5 ≤ rank all b) :
    Pruned all made false s ∧ (left = [] → Pruned all made true s) := by
  have hspared : ∀ b ∈ all, rank all b < 5 → (s.1 b.text).isSome := fun b hb hrank =>
    h.present b hb fun hmem => absurd ((hold b hb).mp hmem) (Nat.not_le.mpr hrank)
  refine ⟨⟨hspared, fun hf => (nomatch hf), h.made, h.reached⟩, ?_⟩
  rintro rfl
  exact ⟨hspared, fun _ b hb hrank => h.absent _ ((hold b hb).mpr hrank) List.not_mem_nil, h.made,
    h.reached⟩

theorem pruneBackups_meets (h : Kept all made s) :
    MigrationMeets pruneBackups (fun r s' => Pruned all made r.isOk s') s := by
  have hglob : MigrationMeets (ask .glob) (fun r s₁ => match r with
      | .ok names => Pruning all made ((descending names).drop 5) ((descending names).drop 5) s₁ ∧
          ∀ b ∈ all, b.text ∈ (descending names).drop 5 ↔ 5 ≤ rank all b
      | .error _ => Pruned all made false s₁) s := by
    refine ⟨trivial, fun a s₁ hs => ?_⟩
    obtain ⟨hserve, hlog⟩ := hs
    have hmade : madeBackup s₁.2 = made.map BackupName.text := by
      rw [hlog, madeBackup_snoc, h.made]
      exact Option.or_none
    have hreached : pruned s₁.2 = true := by
      rw [hlog, pruned_snoc]
      exact Bool.or_true _
    cases a with
    | error e =>
      have hfiles : s₁.1 = s.1 := hserve
      refine ⟨fun b hb _ => ?_, fun hf => (nomatch hf), hmade, hreached⟩
      rw [hfiles]
      exact (h.holds _ b.text_isBackup).mpr ⟨b, hb, rfl⟩
    | ok names =>
      obtain ⟨hnodup, hnames, hfiles⟩ := hserve
      have hmem : ∀ n, n ∈ names ↔ ∃ b ∈ all, b.text = n := by
        intro n
        rw [hnames n]
        constructor
        · rintro ⟨hsome, hn⟩
          exact (h.holds n hn).mp hsome
        · rintro ⟨b, hb, rfl⟩
          exact ⟨(h.holds _ b.text_isBackup).mpr ⟨b, hb, rfl⟩, b.text_isBackup⟩
      have hsorted : ((descending names).drop 5).Nodup :=
        (((descending_pairwise hnodup).imp fun hgt => ne_of_gt hgt).sublist (List.drop_sublist ..))
      refine ⟨⟨fun _ hn => hn, hsorted, fun b hb _ => ?_, fun n hn hleft => absurd hn hleft, hmade,
        hreached⟩, fun b hb => mem_drop_descending hnodup hmem hb⟩
      rw [show s₁.1 = s.1 from hfiles]
      exact (h.holds _ b.text_isBackup).mpr ⟨b, hb, rfl⟩
  unfold pruneBackups
  refine hglob.bind (fun names s₁ h₁ => ?_) fun _ _ he => he
  obtain ⟨hstart, hold⟩ := h₁
  refine (unlinks_meets hstart).mono fun r s₂ h₂ => ?_
  obtain ⟨left, hleft, hdone⟩ := h₂
  cases r with
  | ok _ => exact (hleft.pruned hold).2 (hdone rfl)
  | error e => exact (hleft.pruned hold).1

/-! ## The migration -/

/-- How a migration ends: before the pruning, with every backup and the new one if it was made, or
after it. -/
def Ends (earlier : Finset BackupName) (r : Except PyError MigrationResult) (s : Traced) : Prop :=
  ∃ made, (∀ result, r = .ok result → result.backupPath = made.map BackupName.text) ∧
    (Kept (withMade earlier made) made s ∨ Pruned (withMade earlier made) made r.isOk s)

variable {earlier : Finset BackupName}

theorem Kept.ends_error {e : PyError} (h : Kept (withMade earlier made) made s) :
    Ends earlier (.error e) s := ⟨made, fun _ hr => (nomatch hr), Or.inl h⟩

theorem within_readNow (q : MigrateRequest) : Within Quiet q.readNow := by
  unfold MigrateRequest.readNow
  cases q.now with
  | none => exact within_ask trivial
  | some t => exact within_done _

theorem within_apply (q : MigrateRequest) (pending : List Migration) :
    Within Quiet (q.apply pending) := by
  unfold MigrateRequest.apply
  refine (within_readNow q).bind fun now => (within_each fun m _ => ?_).bind fun _ => ?_
  · exact (within_ask (c := .executeStatements _) trivial).bind fun _ =>
      within_ask (c := .insertMigration _ _ _ _) trivial
  · refine (within_ask (c := .maxVersion) trivial).bind fun _ =>
      (within_require _ _).bind fun _ => ?_
    exact (within_ask (c := .validateSchema _) trivial).bind fun _ => within_ask
      (c := .commit) trivial

theorem within_recognizedObjects : Within Quiet recognizedObjects := by
  unfold recognizedObjects
  refine (within_ask (c := .userObjects) trivial).bind fun objects => ?_
  split_ifs
  · refine (within_ask (c := .createSchemaMigration) trivial).bind fun _ => ?_
    exact (within_ask (c := .userObjects) trivial).bind fun _ => within_done _
  · exact (within_require _ _).bind fun _ => within_done _

theorem ends_error {e : PyError} (h : Kept earlier none s) : Ends earlier (.error e) s :=
  ⟨none, fun _ hr => (nomatch hr), Or.inl h⟩

/-- From a backup that was made or not, to the end. -/
theorem applied_meets (q : MigrateRequest) (current : Nat)
    (pending : List Migration) {made : Option BackupName}
    (h : Kept (withMade earlier made) made s) :
    MigrationMeets (do
      ask .beginImmediate
      match ← attempt (q.apply pending) with
      | .error e =>
        ask .rollback
        fail e
      | .ok () =>
        (if q.backupRoot = true then pruneBackups else pure ())
        pure ⟨current, q.target, true, made.map BackupName.text⟩) (Ends earlier) s := by
  refine (h.within (within_ask (c := .beginImmediate) trivial)).bind (fun _ s₁ h₁ => ?_)
    fun _ _ he => he.ends_error
  refine (h₁.within (within_apply q pending)).attemptBind fun r s₂ h₂ => ?_
  cases r with
  | error e =>
    exact (h₂.within (within_ask (c := .rollback) trivial)).bind (fun _ _ h₃ => h₃.ends_error)
      fun _ _ he => he.ends_error
  | ok _ =>
    by_cases hroot : q.backupRoot = true
    · simp only [hroot, if_true]
      refine (pruneBackups_meets h₂).bind (fun _ s₃ h₃ => ?_) fun e s₃ h₃ => ?_
      · exact ⟨made, fun result hr => (by cases hr; rfl), Or.inr h₃⟩
      · exact ⟨made, fun result hr => (nomatch hr), Or.inr h₃⟩
    · simp only [hroot]
      exact ⟨made, fun result hr => (by cases hr; rfl), Or.inl h₂⟩

theorem migrateFrom_meets (describe : List String → String) (q : MigrateRequest)
    (bootstrapCreated : Bool) (current : Nat) (first : Migration) (rest : List Migration)
    (h : Kept earlier none s) :
    MigrationMeets (q.migrateFrom describe bootstrapCreated current first rest)
    (Ends earlier) s := by
  unfold MigrateRequest.migrateFrom
  by_cases hbackup : bootstrapCreated = false ∧ q.backupRoot = true
  · rw [if_pos hbackup]
    refine (h.within (within_readNow q)).bind (fun now s₁ h₁ => ?_) fun _ _ => ends_error
    refine meets_bind.mpr (meets_bind.mpr ?_)
    refine (backup_meets describe _ h₁).mono fun r s₂ h₂ => ?_
    cases r with
    | error e => exact ends_error h₂
    | ok target =>
      obtain ⟨rfl, h₂⟩ := h₂
      exact applied_meets q current (first :: rest) h₂
  · rw [if_neg hbackup]
    exact applied_meets q current (first :: rest) (show Kept (withMade earlier none) none s from h)

theorem migrate_meets (describe : List String → String) (q : MigrateRequest)
    (h : Kept earlier none s) : MigrationMeets (q.migrate describe) (Ends earlier) s := by
  unfold MigrateRequest.migrate
  refine (h.within within_recognizedObjects).bind (fun found s₁ h₁ => ?_) fun _ _ => ends_error
  obtain ⟨bootstrapCreated, objects⟩ := found
  refine (h₁.within (within_ask (c := .history) trivial)).bind (fun rows s₂ h₂ => ?_)
    fun _ _ => ends_error
  refine (h₂.within (within_require _ _)).bind (fun _ s₃ h₃ => ?_) fun _ _ => ends_error
  refine (h₃.within (within_require _ _)).bind (fun _ s₄ h₄ => ?_) fun _ _ => ends_error
  refine (h₄.within (within_done _)).bind (fun pending s₅ h₅ => ?_) fun _ _ => ends_error
  split_ifs with hcurrent
  · refine (h₅.within (within_ask (c := .validateSchema _) trivial)).bind (fun _ s₆ h₆ => ?_)
      fun _ _ => ends_error
    exact ⟨none, fun result hr => (by cases hr; rfl), Or.inl h₆⟩
  · refine (h₅.within (within_require _ _)).bind (fun _ s₆ h₆ => ?_) fun _ _ => ends_error
    cases pending with
    | nil => exact ends_error h₆
    | cons first rest => exact migrateFrom_meets describe q bootstrapCreated _ first rest h₆

/-! ## What is kept -/

/-- The new backup is there, and when the migration has succeeded, no backup that is kept is older
than one that is not. -/
structure Retained (all : Finset BackupName) (made : Option BackupName)
    (r : Except PyError MigrationResult) (files : Files String) : Prop where
  survives : ∀ b, made = some b → (files b.text).isSome
  newest : ∀ result, r = .ok result → ∀ a ∈ all, ∀ b ∈ all,
    (files a.text).isSome → files b.text = none → b.created ≤ a.created

/-- The new backup is among the first five by name, and no backup among them is older than one of
another version behind them. -/
structure Outlasts (all : Finset BackupName) (made : Option BackupName) : Prop where
  newest : ∀ b, made = some b → rank all b < 5
  versions : ∀ a ∈ all, ∀ b ∈ all, a.version ≠ b.version → rank all a < 5 → 5 ≤ rank all b →
    b.created ≤ a.created

/-- Of one version the newer backup has the later name. -/
theorem BackupName.text_lt_of_created {a b : BackupName} (hversion : a.version = b.version)
    (h : a.created < b.created) : a.text < b.text := by
  refine text_lt_iff.mpr (Or.inr ⟨?_, Or.inl h⟩)
  unfold versionText
  rw [hversion]

theorem outlasts_newest_iff : KeepsNewest BackupName.created all (fun b => rank all b < 5) ↔
    ∀ a ∈ all, ∀ b ∈ all, a.version ≠ b.version → rank all a < 5 → 5 ≤ rank all b →
      b.created ≤ a.created := by
  simp only [rank_eq_later]
  exact keepsNewest_iff (fun a b hversion hlt => BackupName.text_lt_of_created hversion hlt) all 5

theorem Kept.retained {r : Except PyError MigrationResult}
    (h : Kept (withMade earlier made) made s) :
    Retained (withMade earlier made) made r s.1 := by
  have hpresent : ∀ b ∈ withMade earlier made, (s.1 b.text).isSome := fun b hb =>
    (h.holds _ b.text_isBackup).mpr ⟨b, hb, rfl⟩
  refine ⟨fun b hb => hpresent b (mem_withMade.mpr (Or.inl hb)), fun _ _ a _ b hb _ hnone => ?_⟩
  have hsome := hpresent b hb
  rw [hnone] at hsome
  exact nomatch hsome

theorem Pruned.retained {r : Except PyError MigrationResult}
    (h : Pruned (withMade earlier made) made r.isOk s)
    (ho : Outlasts (withMade earlier made) made) :
    Retained (withMade earlier made) made r s.1 := by
  refine ⟨fun b hb => h.spared b (mem_withMade.mpr (Or.inl hb)) (ho.newest b hb), ?_⟩
  rintro result rfl a ha b hb hsome hnone
  have hkept : rank (withMade earlier made) a < 5 := by
    refine Nat.not_le.mp fun hle => ?_
    rw [h.gone rfl a ha hle] at hsome
    exact nomatch hsome
  have hgone : ¬ rank (withMade earlier made) b < 5 := by
    intro hlt
    have hthere := h.spared b hb hlt
    rw [hnone] at hthere
    exact nomatch hthere
  exact outlasts_newest_iff.mpr ho.versions a ha b hb hkept hgone

theorem Pruned.outlasts {result : MigrationResult}
    (h : Pruned (withMade earlier made) made true s)
    (hr : Retained (withMade earlier made) made (.ok result) s.1) :
    Outlasts (withMade earlier made) made := by
  refine ⟨fun b hb => Nat.not_le.mp fun hle => ?_, fun a ha b hb _ hkept hgone => ?_⟩
  · have hthere := hr.survives b hb
    rw [h.gone rfl b (mem_withMade.mpr (Or.inl hb)) hle] at hthere
    exact nomatch hthere
  · exact hr.newest result rfl a ha b hb (h.spared a ha hkept) (h.gone rfl b hb hgone)

/-- **The backups of a migration.** Whatever backups there were, the new one is the one reported;
what should be kept is kept when the migration fails before its pruning, and in every other run when
the versions do not overtake the times at the cut; when the pruning has come to its end, only
then. -/
theorem migrate_backups_iff (describe : List String → String) (q : MigrateRequest)
    (earlier : Finset BackupName) (files files' : Files String) (hfiles : Holds earlier files)
    (log : List MigrationEvent) (r : Except PyError MigrationResult)
    (hrun : Steps (traced serve) (q.migrate describe) (files, []) (.done r) (files', log)) :
    ∃ made, madeBackup log = made.map BackupName.text ∧
      (∀ result, r = .ok result → result.backupPath = made.map BackupName.text) ∧
      (pruned log = false ∨ Outlasts (withMade earlier made) made →
        Retained (withMade earlier made) made r files') ∧
      (pruned log = true → r.isOk = true → Retained (withMade earlier made) made r files' →
        Outlasts (withMade earlier made) made) := by
  have hstart : Kept earlier none (files, []) := ⟨hfiles, rfl, rfl⟩
  obtain ⟨made, hpath, h⟩ := (migrate_meets describe q hstart).ended hrun
  rcases h with h | h
  · refine ⟨made, h.made, hpath, fun _ => h.retained, fun hpruned => ?_⟩
    exact absurd (h.unpruned.symm.trans hpruned) Bool.false_ne_true
  · refine ⟨made, h.made, hpath, fun hor => ?_, fun _ hok hretained => ?_⟩
    · have hreached : pruned log = true := h.reached
      refine h.retained (hor.resolve_left fun hfalse => ?_)
      exact Bool.false_ne_true (hfalse.symm.trans hreached)
    · cases r with
      | error e => exact nomatch hok
      | ok result => exact h.outlasts hretained

/-! ## Two migrations from version 6 -/

/-- The directory that holds these names. -/
def directory (names : List String) : Files String :=
  fun n => if n ∈ names then some ⟨[], 0⟩ else none

def sampleTime (k : Fin 28) : UtcTime := ⟨2026, 1, k + 1, 0, 0, 0, 0, by omega, by omega⟩

def sampleBackup (version : Nat) (k : Fin 28) : BackupName :=
  ⟨version, sampleTime k, "000000000000".toList⟩

/-- A database of version 6 and its directory. -/
def respond (names : List String) :
    (c : MigrationCall) → Except PyError (MigrationAnswer c) × List String
  | .userObjects => (.ok [("table", "schema_migration"), ("table", "slice_execution")], names)
  | .history => (.ok ((registered.take 6).map fun m => (m.version, m.name, m.checksum)), names)
  | .now => (.ok (sampleTime 27), names)
  | .integrityCheck _ => (.ok ["ok"], names)
  | .maxVersion => (.ok (some 7), names)
  | .copyPages n => (.ok (), if isBackup n then names else n :: names)
  | .replace source target =>
    if source ∈ names then (.ok (), target :: names.filter (· ≠ source))
    else (.error (.raised "FileNotFoundError" source), names)
  | .unlink n =>
    if n ∈ names then (.ok (), names.filter (· ≠ n))
    else (.error (.raised "FileNotFoundError" n), names)
  | .unlinkMissingOk n => (.ok (), names.filter (· ≠ n))
  | .glob => (.ok (names.dedup.filter isBackup), names)
  | .createSchemaMigration | .validateSchema _ | .makeDirectory | .connect _ | .closeDestination _
  | .beginImmediate | .executeStatements _ | .insertMigration .. | .commit | .rollback =>
    (.ok (), names)

theorem directory_filter (names : List String) (n : String) :
    directory (names.filter (· ≠ n)) = Function.update (directory names) n none := by
  funext m
  by_cases h : m = n
  · subst h
    simp [directory]
  · simp [directory, h]

theorem directory_cons (names : List String) (n : String) :
    directory (n :: names) = Function.update (directory names) n (some ⟨[], 0⟩) := by
  funext m
  by_cases h : m = n
  · subst h
    simp [directory]
  · simp [directory, h]

theorem directory_isSome {names : List String} {n : String} :
    (directory names n).isSome ↔ n ∈ names := by
  unfold directory
  split_ifs with h
  · exact ⟨fun _ => h, fun _ => rfl⟩
  · exact ⟨fun h' => (nomatch h'), fun h' => absurd h' h⟩

theorem respond_serves (names : List String) (c : MigrationCall) :
    serve (directory names) c (respond names c).1 (directory (respond names c).2) := by
  cases c with
  | glob =>
    refine ⟨(List.nodup_dedup names).filter _, fun n => ?_, rfl⟩
    rw [directory_isSome, List.mem_filter, List.mem_dedup]
  | replace source target =>
    by_cases h : source ∈ names
    · have hr : respond names (.replace source target) =
          (.ok (), target :: names.filter (· ≠ source)) := if_pos h
      rw [hr]
      refine ⟨⟨[], 0⟩, if_pos h, ?_⟩
      rw [directory_cons, directory_filter]
    · have hr : respond names (.replace source target) =
          (.error (.raised "FileNotFoundError" source), names) := if_neg h
      rw [hr]
      rfl
  | unlink n =>
    by_cases h : n ∈ names
    · have hr : respond names (.unlink n) = (.ok (), names.filter (· ≠ n)) := if_pos h
      rw [hr]
      exact ⟨directory_isSome.mpr h, directory_filter names n⟩
    · have hr : respond names (.unlink n) =
          (.error (.raised "FileNotFoundError" n), names) := if_neg h
      rw [hr]
      rfl
  | unlinkMissingOk n => exact directory_filter names n
  | copyPages n =>
    intro m hm
    show directory (if isBackup n then names else n :: names) m = directory names m
    split_ifs with h
    · rfl
    · have hne : m ≠ n := by
        rintro rfl
        exact h hm
      rw [directory_cons, Function.update_of_ne hne]
  | _ => exact fun _ _ => rfl

def sampleRequest : MigrateRequest := ⟨true, none, fun _ => "SELECT 1;", 7⟩

/-- The sample migration, from a directory with these backups. -/
def sampleRun (earlier : List BackupName) : Option (Except PyError MigrationResult × List String) :=
  (play (fun s c => respond s.1 c) 40 (sampleRequest.migrate fun _ => "")
    (earlier.map BackupName.text, [])).map fun p => (p.1, p.2.1)

theorem sampleRun_steps {earlier : List BackupName} {r : Except PyError MigrationResult}
    {names : List String} (h : sampleRun earlier = some (r, names)) :
    Steps serve (sampleRequest.migrate fun _ => "") (directory (earlier.map BackupName.text))
      (.done r) (directory names) := by
  obtain ⟨⟨r', names', log⟩, hplay, heq⟩ := Option.map_eq_some_iff.mp h
  cases heq
  exact (play_steps (fun s c => respond_serves s.1 c) hplay).untraced.represented

theorem holds_directory (earlier : List BackupName) :
    Holds earlier.toFinset (directory (earlier.map BackupName.text)) := by
  intro n _
  rw [directory_isSome, List.mem_map]
  simp only [List.mem_toFinset]

/-- The backup that the sample migration makes. -/
def sampleNew : BackupName :=
  ⟨6, sampleTime 27, (migrationChecksum "SELECT 1;").toList.take 12⟩

/-- With five older backups of version 7 in the directory, the migration deletes the backup of
version 6 that it has just made, and reports it. -/
theorem migrate_deletesNewBackup : ∃ (earlier : List BackupName) (files' : Files String)
    (result : MigrationResult),
    (∀ b ∈ earlier, b.created < sampleNew.created) ∧
    Steps serve (sampleRequest.migrate fun _ => "") (directory (earlier.map BackupName.text))
      (.done (.ok result)) files' ∧
    result.backupPath = some sampleNew.text ∧ files' sampleNew.text = none := by
  have hrun : sampleRun ([0, 1, 2, 3, 4].map (sampleBackup 7)) =
      some (.ok ⟨6, 7, true, some sampleNew.text⟩,
        ([0, 1, 2, 3, 4].map (sampleBackup 7)).map BackupName.text) := by
    decide +kernel
  refine ⟨_, _, _, ?_, sampleRun_steps hrun, rfl, ?_⟩
  · decide
  · exact if_neg (by decide +kernel)

/-- With five older backups of version 6, the oldest makes room for the new one. -/
theorem migrate_keepsNewBackup : ∃ (files' : Files String) (result : MigrationResult),
    Steps serve (sampleRequest.migrate fun _ => "")
      (directory (([0, 1, 2, 3, 4].map (sampleBackup 6)).map BackupName.text))
      (.done (.ok result)) files' ∧
    Retained (withMade ([0, 1, 2, 3, 4].map (sampleBackup 6)).toFinset (some sampleNew))
      (some sampleNew) (.ok result) files' := by
  have hrun : sampleRun ([0, 1, 2, 3, 4].map (sampleBackup 6)) =
      some (.ok ⟨6, 7, true, some sampleNew.text⟩,
        (sampleNew :: [1, 2, 3, 4].map (sampleBackup 6)).map BackupName.text) := by
    decide +kernel
  have hsteps := sampleRun_steps hrun
  obtain ⟨log, hfollowed⟩ := hsteps.followed []
  obtain ⟨made, -, hpath, hretained, -⟩ :=
    migrate_backups_iff _ sampleRequest _ _ _ (holds_directory _) _ _ hfollowed
  obtain ⟨new, rfl, hnew⟩ := Option.map_eq_some_iff.mp (hpath _ rfl).symm
  obtain rfl : new = sampleNew := BackupName.text_injective hnew
  refine ⟨_, _, hsteps, hretained (Or.inr ⟨?_, ?_⟩)⟩
  · rintro b ⟨⟩
    decide +kernel
  · have hversion : ∀ b ∈ withMade ([0, 1, 2, 3, 4].map (sampleBackup 6)).toFinset (some sampleNew),
        b.version = 6 := by
      decide +kernel
    exact fun a ha b hb hne => absurd ((hversion a ha).trans (hversion b hb).symm) hne

end Adcp.L3.Migrations
