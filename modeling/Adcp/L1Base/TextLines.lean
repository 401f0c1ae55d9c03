import Mathlib
/-!
# Lines of a text and backslash escapes

`splitLines` is Python's `str.splitlines` on a character list: a line ends at
any of the ten boundary characters, `\r\n` is one boundary, and a boundary at
the end of the text opens no further line. `escape` puts a backslash before
every character of a given kind.

Results:
* `filledLines_boundary`: the non-empty lines of `x ++ b :: y`, with `b` a
  boundary, are those of `x` and then those of `y`.
* `filledLines_plain`: a non-empty text without a boundary is one line.
* `escape_boundary_free`: escaping neither adds nor removes a boundary.
-/
namespace Adcp.L1.TextLines

/-! ## Lines -/

/-- The characters `str.splitlines` breaks a text at. -/
def isBoundary (c : Char) : Bool :=
  c = '\n' || c = '\r' || c = '\x0b' || c = '\x0c' || c = '\x1c' || c = '\x1d' || c = '\x1e' ||
    c = '\u0085' || c = '\u2028' || c = '\u2029'

/-- `str.splitlines` with the current line's characters read so far. -/
def splitFrom (buf : List Char) : List Char → List (List Char)
  | [] => if buf = [] then [] else [buf]
  | '\r' :: '\n' :: rest => buf :: splitFrom [] rest
  | c :: rest => if isBoundary c then buf :: splitFrom [] rest else splitFrom (buf ++ [c]) rest

/-- `text.splitlines()` -/
def splitLines (text : List Char) : List (List Char) := splitFrom [] text

/-- A text that is one line. -/
def Plain (text : List Char) : Prop := ∀ c ∈ text, isBoundary c = false

instance (text : List Char) : Decidable (Plain text) :=
  List.decidableBAll (fun c : Char => isBoundary c = false) text

/-- The lines of a text that are not empty. -/
def filledLines (text : List Char) : List (List Char) := (splitLines text).filter (· ≠ [])

/-- `c.isspace()` -/
def isSpace (c : Char) : Bool :=
  (9 ≤ c.toNat && c.toNat ≤ 13) || (28 ≤ c.toNat && c.toNat ≤ 32) || c.toNat = 0x85 ||
    c.toNat = 0xa0 || c.toNat = 0x1680 || (0x2000 ≤ c.toNat && c.toNat ≤ 0x200a) ||
    c.toNat = 0x2028 || c.toNat = 0x2029 || c.toNat = 0x202f || c.toNat = 0x205f ||
    c.toNat = 0x3000

/-- `not text.strip()` -/
def isBlank (text : List Char) : Bool := text.all isSpace

theorem plain_nil : Plain [] := fun _ h => nomatch h

theorem plain_cons {c : Char} {cs : List Char} :
    Plain (c :: cs) ↔ isBoundary c = false ∧ Plain cs := List.forall_mem_cons

theorem plain_append {x y : List Char} : Plain (x ++ y) ↔ Plain x ∧ Plain y :=
  List.forall_mem_append

theorem newline_boundary : isBoundary '\n' = true := by decide

theorem return_boundary : isBoundary '\r' = true := by decide

/-- A boundary ends the current line; what follows `\r` may be swallowed. -/
theorem splitFrom_boundary {b : Char} (hb : isBoundary b = true) (buf rest : List Char) :
    splitFrom buf (b :: rest) = buf :: splitFrom [] rest ∨
      ∃ rest', rest = '\n' :: rest' ∧ splitFrom buf (b :: rest) = buf :: splitFrom [] rest' := by
  rw [splitFrom.eq_def]
  split
  · contradiction
  · rename_i rest' heq
    obtain ⟨rfl, rfl⟩ := List.cons.inj heq
    exact Or.inr ⟨rest', rfl, rfl⟩
  · rename_i c rest' _ heq
    obtain ⟨rfl, rfl⟩ := List.cons.inj heq
    rw [if_pos hb]
    exact Or.inl rfl

theorem splitFrom_keep {c : Char} (hc : isBoundary c = false) (buf rest : List Char) :
    splitFrom buf (c :: rest) = splitFrom (buf ++ [c]) rest := by
  rw [splitFrom.eq_def]
  split
  · contradiction
  · rename_i rest' heq
    obtain ⟨rfl, rfl⟩ := List.cons.inj heq
    rw [return_boundary] at hc
    contradiction
  · rename_i c' rest' _ heq
    obtain ⟨rfl, rfl⟩ := List.cons.inj heq
    rw [if_neg (by rw [hc]; simp)]

/-- `splitFrom` with the empty lines dropped. -/
def filledFrom (buf text : List Char) : List (List Char) := (splitFrom buf text).filter (· ≠ [])

theorem filledFrom_nil (buf : List Char) : filledFrom buf [] = [buf].filter (· ≠ []) := by
  unfold filledFrom
  rw [splitFrom]
  by_cases h : buf = []
  · rw [if_pos h, h]
    rfl
  · rw [if_neg h]

theorem filledFrom_keep {c : Char} (hc : isBoundary c = false) (buf rest : List Char) :
    filledFrom buf (c :: rest) = filledFrom (buf ++ [c]) rest := by
  unfold filledFrom
  rw [splitFrom_keep hc]

theorem filledFrom_split {b : Char} {buf rest rest' : List Char}
    (h : splitFrom buf (b :: rest) = buf :: splitFrom [] rest') :
    filledFrom buf (b :: rest) = [buf].filter (· ≠ []) ++ filledFrom [] rest' := by
  unfold filledFrom
  rw [h, ← List.singleton_append, List.filter_append]

/-- Without the empty lines every boundary counts alike. -/
theorem filledFrom_boundary {b : Char} (hb : isBoundary b = true) (buf rest : List Char) :
    filledFrom buf (b :: rest) = [buf].filter (· ≠ []) ++ filledFrom [] rest := by
  rcases splitFrom_boundary hb buf rest with h | ⟨rest', rfl, h⟩
  · exact filledFrom_split h
  · have newline : filledFrom [] ('\n' :: rest') = filledFrom [] rest' := by
      rcases splitFrom_boundary newline_boundary [] rest' with hn | ⟨rest'', rfl, hn⟩
      · rw [filledFrom_split hn]
        rfl
      · unfold filledFrom
        simp [splitFrom, newline_boundary]
    rw [filledFrom_split h, newline]

theorem filledFrom_append {b : Char} (hb : isBoundary b = true) (x y : List Char) :
    ∀ buf, filledFrom buf (x ++ b :: y) = filledFrom buf x ++ filledFrom [] y := by
  induction x with
  | nil =>
    intro buf
    rw [List.nil_append, filledFrom_boundary hb, filledFrom_nil]
  | cons c x ih =>
    intro buf
    rw [List.cons_append]
    cases hc : isBoundary c with
    | true => rw [filledFrom_boundary hc, filledFrom_boundary hc, ih, List.append_assoc]
    | false => rw [filledFrom_keep hc, filledFrom_keep hc, ih]

/-- **Lines of a text in two parts.** The filled lines of two parts that meet
at a boundary are the filled lines of each. -/
theorem filledLines_boundary {b : Char} (hb : isBoundary b = true) (x y : List Char) :
    filledLines (x ++ b :: y) = filledLines x ++ filledLines y := filledFrom_append hb x y []

/-- A text that is empty or starts with a boundary adds lines of its own. -/
theorem filledLines_append {x y : List Char} (hy : ∀ c, y.head? = some c → isBoundary c = true) :
    filledLines (x ++ y) = filledLines x ++ filledLines y := by
  cases y with
  | nil => simp [filledLines, splitLines, splitFrom]
  | cons b y =>
    have hb := hy b rfl
    rw [filledLines_boundary hb]
    have : filledLines (b :: y) = filledLines y := by
      have := filledLines_boundary hb [] y
      rwa [List.nil_append, show filledLines [] = [] from rfl, List.nil_append] at this
    rw [this]

theorem splitFrom_plain {x : List Char} (hx : Plain x) :
    ∀ buf, splitFrom buf x = if buf ++ x = [] then [] else [buf ++ x] := by
  induction x with
  | nil =>
    intro buf
    rw [splitFrom, List.append_nil]
  | cons c x ih =>
    intro buf
    obtain ⟨hc, hx⟩ := plain_cons.mp hx
    rw [splitFrom_keep hc, ih hx, List.append_assoc]
    rfl

theorem splitLines_plain {x : List Char} (hx : Plain x) (hne : x ≠ []) : splitLines x = [x] := by
  unfold splitLines
  rw [splitFrom_plain hx, List.nil_append, if_neg hne]

theorem filledLines_plain {x : List Char} (hx : Plain x) (hne : x ≠ []) : filledLines x = [x] := by
  unfold filledLines
  rw [splitLines_plain hx hne]
  simp [hne]

/-- A line of a text has no boundary in it. -/
theorem filledFrom_mem_plain {x : List Char} :
    ∀ {buf l}, Plain buf → l ∈ filledFrom buf x → Plain l := by
  induction x with
  | nil =>
    intro buf l hbuf hl
    rw [filledFrom_nil] at hl
    obtain rfl := List.mem_singleton.mp (List.mem_of_mem_filter hl)
    exact hbuf
  | cons c x ih =>
    intro buf l hbuf hl
    cases hc : isBoundary c with
    | true =>
      rw [filledFrom_boundary hc] at hl
      rcases List.mem_append.mp hl with hl | hl
      · obtain rfl := List.mem_singleton.mp (List.mem_of_mem_filter hl)
        exact hbuf
      · exact ih plain_nil hl
    | false =>
      rw [filledFrom_keep hc] at hl
      exact ih (plain_append.mpr ⟨hbuf, plain_cons.mpr ⟨hc, plain_nil⟩⟩) hl

theorem filledLines_mem_plain {x l : List Char} (hl : l ∈ filledLines x) : Plain l :=
  filledFrom_mem_plain plain_nil hl

/-- A text is plain, or it breaks at a first boundary. -/
theorem plain_or_break (x : List Char) :
    Plain x ∨ ∃ y b z, x = y ++ b :: z ∧ Plain y ∧ isBoundary b = true := by
  induction x with
  | nil => exact Or.inl plain_nil
  | cons c x ih =>
    cases hc : isBoundary c with
    | true => exact Or.inr ⟨[], c, x, rfl, plain_nil, hc⟩
    | false =>
      rcases ih with hx | ⟨y, b, z, rfl, hy, hb⟩
      · exact Or.inl (plain_cons.mpr ⟨hc, hx⟩)
      · exact Or.inr ⟨c :: y, b, z, rfl, plain_cons.mpr ⟨hc, hy⟩, hb⟩

/-! ## Escapes -/

/-- A backslash before every character of the kind `special`. -/
def escape (special : Char → Bool) (text : List Char) : List Char :=
  text.flatMap fun c => if special c then ['\\', c] else [c]

theorem escape_nil (special : Char → Bool) : escape special [] = [] := rfl

theorem escape_cons (special : Char → Bool) (c : Char) (cs : List Char) :
    escape special (c :: cs) = (if special c then ['\\', c] else [c]) ++ escape special cs :=
  List.flatMap_cons

theorem escape_append (special : Char → Bool) (x y : List Char) :
    escape special (x ++ y) = escape special x ++ escape special y := List.flatMap_append

theorem escape_mem {special : Char → Bool} {text : List Char} {c : Char}
    (h : c ∈ escape special text) : c = '\\' ∨ c ∈ text := by
  obtain ⟨d, hd, hc⟩ := List.mem_flatMap.mp h
  split at hc
  · rcases List.mem_pair.mp hc with rfl | rfl
    · exact Or.inl rfl
    · exact Or.inr hd
  · obtain rfl := List.mem_singleton.mp hc
    exact Or.inr hd

theorem escape_plain (special : Char → Bool) {text : List Char} (h : Plain text) :
    Plain (escape special text) := by
  intro c hc
  rcases escape_mem hc with rfl | hc
  · decide
  · exact h c hc

end Adcp.L1.TextLines
