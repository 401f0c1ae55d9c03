import Adcp.L1Base.PyJson
import Adcp.L1Base.Utf8Text
/-!
# Python values

The built-in values a program may hold, and objects of other classes, of which no more than the
name of the class is known.

* `get?`, `set`: an item of a dictionary by a text key.
* `truth`, `pyEq`: `bool(value)` and `==`.
* `Plain`: built from `None`, booleans, numbers, texts, lists, and dictionaries with text keys.
-/
namespace Adcp.L1

open PyText

/-- A float by its shortest decimal form. -/
inductive PyFloat where
  | finite (repr : String)
  | nan
  | inf
  | negInf
  deriving DecidableEq, Repr

namespace PyFloat

/-- `float.__repr__(value)` -/
def repr : PyFloat → String
  | finite r => r
  | nan => "nan"
  | inf => "inf"
  | negInf => "-inf"

/-- How `json.dumps` writes it. -/
def json : PyFloat → String
  | finite r => r
  | nan => "NaN"
  | inf => "Infinity"
  | negInf => "-Infinity"

end PyFloat

/-- The items of a dictionary are in the order in which they were added. -/
inductive PyValue where
  | none
  | bool (b : Bool)
  | int (n : Int)
  | float (f : PyFloat)
  | str (t : PyText)
  | bytes (b : List UInt8)
  | list (items : List PyValue)
  | tuple (items : List PyValue)
  | dict (items : List (PyValue × PyValue))
  | object (typeName : PyText)

namespace PyValue

abbrev Items : Type := List (PyValue × PyValue)

/-- Module and name of the class. -/
def typeName : PyValue → PyText
  | none => ofString "builtins.NoneType"
  | bool _ => ofString "builtins.bool"
  | int _ => ofString "builtins.int"
  | float _ => ofString "builtins.float"
  | str _ => ofString "builtins.str"
  | bytes _ => ofString "builtins.bytes"
  | list _ => ofString "builtins.list"
  | tuple _ => ofString "builtins.tuple"
  | dict _ => ofString "builtins.dict"
  | object name => name

/-- `type(value) in {dict, list, tuple}` -/
def isContainer : PyValue → Bool
  | list _ | tuple _ | dict _ => true
  | _ => false

/-- A key is this text. -/
def isText (key : PyText) : PyValue → Bool
  | str t => t = key
  | _ => false

/-! ## Dictionaries -/

/-- The item with a text key. -/
def get? (items : Items) (key : PyText) : Option PyValue :=
  (items.find? fun item => item.1.isText key).map Prod.snd

def hasKey (items : Items) (key : PyText) : Bool := items.any fun item => item.1.isText key

/-- `items[key] = value` -/
def set (items : Items) (key : PyText) (value : PyValue) : Items :=
  match items with
  | [] => [(str key, value)]
  | item :: rest =>
    if item.1.isText key then (item.1, value) :: rest else item :: set rest key value

theorem isText_iff {key : PyText} {k : PyValue} : k.isText key = true ↔ k = str key := by
  cases k with
  | str t => exact decide_eq_true_iff.trans ⟨fun h => h ▸ rfl, fun h => by cases h; rfl⟩
  | _ => exact ⟨fun h => (nomatch h), fun h => (nomatch h)⟩

theorem get?_mem {items : Items} {key : PyText} {v : PyValue} (h : get? items key = some v) :
    (str key, v) ∈ items := by
  obtain ⟨⟨k, v'⟩, hfind, rfl⟩ := Option.map_eq_some_iff.mp h
  have hkey := List.find?_some hfind
  obtain rfl := isText_iff.mp hkey
  exact List.mem_of_find?_eq_some hfind

theorem mem_set {items : Items} {key : PyText} {value : PyValue} {item : PyValue × PyValue}
    (h : item ∈ set items key value) : item ∈ items ∨ item = (str key, value) := by
  induction items with
  | nil => exact Or.inr (List.mem_singleton.mp h)
  | cons first rest ih =>
    unfold set at h
    split_ifs at h with hkey
    · rcases List.mem_cons.mp h with rfl | h
      · exact Or.inr (Prod.ext (isText_iff.mp hkey) rfl)
      · exact Or.inl (List.mem_cons_of_mem _ h)
    · rcases List.mem_cons.mp h with rfl | h
      · exact Or.inl List.mem_cons_self
      · exact (ih h).imp (List.mem_cons_of_mem _) id

theorem set_mem (items : Items) (key : PyText) (value : PyValue) :
    (str key, value) ∈ set items key value := by
  induction items with
  | nil => exact List.mem_singleton_self _
  | cons first rest ih =>
    unfold set
    split_ifs with hkey
    · obtain ⟨k, v⟩ := first
      obtain rfl := isText_iff.mp hkey
      exact List.mem_cons_self
    · exact List.mem_cons_of_mem _ ih

theorem get?_set_self (items : Items) (key : PyText) (value : PyValue) :
    get? (set items key value) key = some value := by
  induction items with
  | nil => simp [set, get?, isText]
  | cons first rest ih =>
    unfold set
    split_ifs with hkey
    · simp [get?, hkey]
    · rw [get?, List.find?_cons_of_neg (by exact hkey)]
      exact ih

theorem get?_set_ne {items : Items} {key other : PyText} {value : PyValue} (h : other ≠ key) :
    get? (set items key value) other = get? items other := by
  induction items with
  | nil => simp [set, get?, isText, Ne.symm h]
  | cons first rest ih =>
    unfold set
    split_ifs with hkey
    · have hother : ¬ first.1.isText other = true := fun hother =>
        h (PyValue.str.inj ((isText_iff.mp hother).symm.trans (isText_iff.mp hkey)))
      unfold get?
      rw [List.find?_cons, List.find?_cons]
      simp only [hother]
    · unfold get? at ih ⊢
      rw [List.find?_cons, List.find?_cons]
      split
      · rfl
      · exact ih

/-! ## Truth and equality -/

/-- `bool(value)` -/
def truth : PyValue → Bool
  | none => false
  | bool b => b
  | int n => n ≠ 0
  | float (.finite r) => r ≠ "0.0" && r ≠ "-0.0"
  | float _ => true
  | str t => !t.isEmpty
  | bytes b => !b.isEmpty
  | list items | tuple items => !items.isEmpty
  | dict items => !items.isEmpty
  | object _ => true

mutual

/-- `==`, where `True` is `1`. Dictionaries have text keys, and a float is compared with no
integer. -/
def pyEq : PyValue → PyValue → Bool
  | none, none => true
  | bool a, bool b => a = b
  | bool a, int n => (if a then 1 else 0) = n
  | int n, bool b => n = (if b then 1 else 0)
  | int a, int b => a = b
  | float a, float b => a = b && a ≠ .nan
  | str a, str b => a = b
  | bytes a, bytes b => a = b
  | list a, list b => pyEqItems a b
  | tuple a, tuple b => pyEqItems a b
  | dict a, dict b => a.length = b.length && pyEqFields a b
  | _, _ => false

def pyEqItems : List PyValue → List PyValue → Bool
  | [], [] => true
  | a :: as, b :: bs => pyEq a b && pyEqItems as bs
  | _, _ => false

def pyEqFields : List (PyValue × PyValue) → List (PyValue × PyValue) → Bool
  | [], _ => true
  | (k, v) :: rest, b =>
    (match k with
      | str key => match get? b key with
        | some w => pyEq v w
        | Option.none => false
      | _ => false) && pyEqFields rest b

end

theorem pyEqItems_iff {a b : List PyValue} :
    pyEqItems a b = true ↔ List.Forall₂ (fun v w => pyEq v w = true) a b := by
  induction a generalizing b with
  | nil =>
    cases b with
    | nil => exact iff_of_true rfl .nil
    | cons w ws => exact iff_of_false (by intro h; cases h) (by intro h; cases h)
  | cons v vs ih =>
    cases b with
    | nil => exact iff_of_false (by intro h; cases h) (by intro h; cases h)
    | cons w ws => rw [pyEqItems, Bool.and_eq_true, ih, List.forall₂_cons]

theorem pyEqFields_get {a b : Items} (h : pyEqFields a b = true) {key : PyText} {v : PyValue}
    (hv : (str key, v) ∈ a) : ∃ w, get? b key = some w ∧ pyEq v w = true := by
  induction a with
  | nil => cases hv
  | cons item rest ih =>
    unfold pyEqFields at h
    obtain ⟨hkey, hrest⟩ := Bool.and_eq_true_iff.mp h
    rcases List.mem_cons.mp hv with rfl | hv
    · simp only at hkey
      split at hkey
      · exact ⟨_, by assumption, hkey⟩
      · cases hkey
    · exact ih hrest hv

/-! ## Plain values -/

inductive Plain : PyValue → Prop
  | none : Plain none
  | bool (b : Bool) : Plain (bool b)
  | int (n : Int) : Plain (int n)
  | float (f : PyFloat) : Plain (float f)
  | str (t : PyText) : Plain (str t)
  | list {items : List PyValue} (each : ∀ v ∈ items, Plain v) : Plain (list items)
  | dict {items : Items} (keys : ∀ item ∈ items, ∃ key, item.1 = PyValue.str key)
      (each : ∀ item ∈ items, Plain item.2) : Plain (dict items)

theorem Plain.set {items : Items} {key : PyText} {value : PyValue} (h : Plain (.dict items))
    (hvalue : Plain value) : Plain (.dict (set items key value)) := by
  obtain _ | _ | _ | _ | _ | _ | ⟨hkeys, heach⟩ := h
  refine .dict (fun item hitem => ?_) fun item hitem => ?_
  · rcases mem_set hitem with hitem | rfl
    · exact hkeys item hitem
    · exact ⟨key, rfl⟩
  · rcases mem_set hitem with hitem | rfl
    · exact heach item hitem
    · exact hvalue

theorem Plain.get {items : Items} {key : PyText} {value : PyValue} (h : Plain (.dict items))
    (hget : get? items key = some value) : Plain value := by
  obtain _ | _ | _ | _ | _ | _ | ⟨-, heach⟩ := h
  exact heach _ (get?_mem hget)

end PyValue
end Adcp.L1
