import Mathlib
/-!
# Masking the occurrences of some blocks in a list

`replaceAll` is Python's `str.replace`: from the left, every occurrence of a block is replaced and
the scan goes on behind it. `maskAll` replaces a list of blocks one after the other by the same
marker; the later ones meet a list the earlier ones have changed.

To say what survives, the elements carry the position they were copied from (`Traced`), the
marker's elements none.

* `replaceAll_map`: the positions do not change what is replaced.
* `Masking`: what is known of a list while it is being masked. Its parts that are still copied are
  parts of the original, and no block that is to be masked mixes them with the marker.
* `maskAll_masks`: where the marker shares no end with a block and overlapping occurrences are
  contained in the one masked earlier, no position inside an occurrence survives.
-/
namespace Adcp.L1.Redaction

variable {β : Type}

/-! ## Replacing a block -/

section
variable [DecidableEq β]

/-- `replaceFrom view block new skip l`: the first `skip` elements belong to the last block
replaced. -/
def replaceFrom {α : Type} (view : α → β) (block : List β) (new : List α) :
    Nat → List α → List α
  | _, [] => []
  | skip + 1, _ :: rest => replaceFrom view block new skip rest
  | 0, x :: rest =>
    if block <+: (x :: rest).map view then
      new ++ replaceFrom view block new (block.length - 1) rest
    else x :: replaceFrom view block new 0 rest

/-- `l.replace(block, new)`, for a block that is not empty. -/
def replaceAll {α : Type} (view : α → β) (block : List β) (new l : List α) : List α :=
  replaceFrom view block new 0 l

/-- `for block in blocks: if block: l = l.replace(block, new)` -/
def maskAll {α : Type} (view : α → β) (new : List α) (blocks : List (List β)) (l : List α) :
    List α :=
  blocks.foldl (fun l block => if block = [] then l else replaceAll view block new l) l

theorem replaceFrom_map {α : Type} (view : α → β) (block : List β) (new : List α) (l : List α) :
    ∀ skip, (replaceFrom view block new skip l).map view =
      replaceFrom id block (new.map view) skip (l.map view) := by
  induction l with
  | nil =>
    intro skip
    cases skip <;> rfl
  | cons x rest ih =>
    intro skip
    cases skip with
    | succ skip =>
      rw [List.map_cons, replaceFrom, replaceFrom]
      exact ih skip
    | zero =>
      rw [List.map_cons, replaceFrom, replaceFrom, List.map_id, List.map_cons]
      by_cases h : block <+: view x :: rest.map view
      · rw [if_pos h, if_pos h, List.map_append, ih]
      · rw [if_neg h, if_neg h, List.map_cons, ih]

/-- **Positions do not change what is replaced.** -/
theorem maskAll_map {α : Type} (view : α → β) (new : List α) (blocks : List (List β)) :
    ∀ l : List α, (maskAll view new blocks l).map view =
      maskAll id (new.map view) blocks (l.map view) := by
  unfold maskAll replaceAll
  induction blocks with
  | nil => exact fun l => rfl
  | cons block blocks ih =>
    intro l
    rw [List.foldl_cons, List.foldl_cons, ih]
    by_cases h : block = []
    · rw [if_pos h, if_pos h]
    · rw [if_neg h, if_neg h, replaceFrom_map]

theorem replaceFrom_drop {α : Type} (view : α → β) (block : List β) (new : List α) (l : List α) :
    ∀ skip, replaceFrom view block new skip l = replaceFrom view block new 0 (l.drop skip) := by
  induction l with
  | nil =>
    intro skip
    rw [List.drop_nil]
    cases skip <;> rfl
  | cons x rest ih =>
    intro skip
    cases skip with
    | zero => rfl
    | succ skip =>
      rw [replaceFrom, List.drop_succ_cons]
      exact ih skip

/-- A block at the front is replaced, the scan goes on behind it. -/
theorem replaceFrom_block {α : Type} {view : α → β} {block : List β} (hblock : block ≠ [])
    {new b rest : List α} (hb : b.map view = block) :
    replaceFrom view block new 0 (b ++ rest) = new ++ replaceFrom view block new 0 rest := by
  cases b with
  | nil => exact absurd hb.symm hblock
  | cons x b =>
    have hfront : block <+: (x :: (b ++ rest)).map view := by
      rw [← List.cons_append, List.map_append, hb]
      exact List.prefix_append _ _
    rw [List.cons_append, replaceFrom, if_pos hfront, replaceFrom_drop]
    have hlen : block.length - 1 = b.length := by
      rw [← hb, List.map_cons, List.length_cons, List.length_map]
      omega
    rw [hlen, List.drop_left]

theorem replaceFrom_keep {α : Type} {view : α → β} {block : List β} {new : List α} {x : α}
    {rest : List α} (h : ¬ block <+: (x :: rest).map view) :
    replaceFrom view block new 0 (x :: rest) = x :: replaceFrom view block new 0 rest := by
  rw [replaceFrom, if_neg h]

/-- Where the block does not occur nothing is replaced. -/
theorem replaceAll_absent {α : Type} {view : α → β} {block : List β} {new l : List α}
    (h : ¬ block <:+: l.map view) : replaceAll view block new l = l := by
  unfold replaceAll
  induction l with
  | nil => rfl
  | cons x l ih =>
    rw [replaceFrom_keep fun hfront => h hfront.isInfix, ih fun hinfix => h ?_]
    rw [List.map_cons]
    exact hinfix.trans (List.suffix_cons _ _).isInfix

/-- One block of a list replaced. -/
def Replaces {α : Type} (view : α → β) (block : List β) (new l l' : List α) : Prop :=
  ∃ a b c, l = a ++ b ++ c ∧ b.map view = block ∧ l' = a ++ new ++ c

/-- What one replacement keeps, replacing all keeps. -/
theorem replaceAll_keeps {α : Type} {view : α → β} {block : List β} (hblock : block ≠ [])
    {new : List α} {P : List α → Prop}
    (hstep : ∀ l l', Replaces view block new l l' → P l → P l') {l : List α} (h : P l) :
    P (replaceAll view block new l) := by
  have scan : ∀ n (rest : List α), rest.length ≤ n → ∀ front, P (front ++ rest) →
      P (front ++ replaceFrom view block new 0 rest) := by
    intro n
    induction n with
    | zero =>
      intro rest hlen front h
      obtain rfl := List.eq_nil_of_length_eq_zero (Nat.le_zero.mp hlen)
      exact h
    | succ n ih =>
      intro rest hlen front h
      cases rest with
      | nil => exact h
      | cons x rest =>
        by_cases hfront : block <+: (x :: rest).map view
        · obtain ⟨tail, htail⟩ := hfront
          obtain ⟨b, c, hbc, hb, -⟩ := List.map_eq_append_iff.mp htail.symm
          rw [hbc] at hlen h ⊢
          have hb0 : 0 < b.length := by
            rw [← List.length_map (f := view), hb]
            exact List.length_pos_of_ne_nil hblock
          rw [List.length_append] at hlen
          have hreplaced : P (front ++ new ++ c) :=
            hstep _ _ ⟨front, b, c, by rw [List.append_assoc], hb, rfl⟩ h
          rw [replaceFrom_block hblock hb, ← List.append_assoc]
          exact ih c (by omega) _ hreplaced
        · rw [replaceFrom_keep hfront, List.append_cons]
          rw [List.append_cons] at h
          rw [List.length_cons] at hlen
          exact ih rest (by omega) _ h
  exact scan l.length l (Nat.le_refl _) [] h

/-- A scan reaches a later part at its start, or inside a block that began before it. -/
theorem replaceFrom_reach {α : Type} {view : α → β} {block : List β} (hblock : block ≠ [])
    (new y : List α) :
    ∀ n (x : List α), x.length ≤ n →
      (∃ r, replaceFrom view block new 0 (x ++ y) = r ++ replaceFrom view block new 0 y ∧
        ∀ e ∈ r, e ∈ x ∨ e ∈ new) ∨
      ∃ x₁ b₁ b₂ y₂, x = x₁ ++ b₁ ∧ y = b₂ ++ y₂ ∧ b₁ ≠ [] ∧ b₂ ≠ [] ∧
        (b₁ ++ b₂).map view = block := by
  intro n
  induction n with
  | zero =>
    intro x hlen
    obtain rfl := List.eq_nil_of_length_eq_zero (Nat.le_zero.mp hlen)
    exact Or.inl ⟨[], rfl, fun _ h => nomatch h⟩
  | succ n ih =>
    intro x hlen
    cases x with
    | nil => exact Or.inl ⟨[], rfl, fun _ h => nomatch h⟩
    | cons e x =>
      rw [List.length_cons] at hlen
      by_cases hfront : block <+: (e :: (x ++ y)).map view
      · obtain ⟨tail, htail⟩ := hfront
        obtain ⟨b, c, hbc, hb, -⟩ := List.map_eq_append_iff.mp htail.symm
        rw [← List.cons_append] at hbc
        have hb0 : b ≠ [] := by
          rintro rfl
          exact hblock hb.symm
        rcases List.append_eq_append_iff.mp hbc with ⟨b₂, rfl, rfl⟩ | ⟨x', hx', rfl⟩
        · cases b₂ with
          | nil =>
            -- the block ends where the later part starts
            refine Or.inl ⟨new, ?_, fun e he => Or.inr he⟩
            rw [List.append_nil] at hb
            rw [List.nil_append]
            exact replaceFrom_block hblock hb
          | cons f b₂ =>
            exact Or.inr ⟨[], e :: x, f :: b₂, c, rfl, rfl, List.cons_ne_nil _ _,
              List.cons_ne_nil _ _, hb⟩
        · have hlen' : x'.length ≤ n := by
            have := congrArg List.length hx'
            rw [List.length_cons, List.length_append] at this
            have := List.length_pos_of_ne_nil hb0
            omega
          rcases ih x' hlen' with ⟨r, hr, hmem⟩ | ⟨x₁, b₁, b₂, y₂, rfl, hrest⟩
          · refine Or.inl ⟨new ++ r, ?_, fun f hf => ?_⟩
            · rw [hx', List.append_assoc, replaceFrom_block hblock hb, hr, List.append_assoc]
            · rcases List.mem_append.mp hf with hf | hf
              · exact Or.inr hf
              · rcases hmem f hf with hf | hf
                · rw [hx']
                  exact Or.inl (List.mem_append_right _ hf)
                · exact Or.inr hf
          · refine Or.inr ⟨b ++ x₁, b₁, b₂, y₂, ?_, hrest⟩
            rw [hx', List.append_assoc]
      · rcases ih x (by omega) with ⟨r, hr, hmem⟩ | ⟨x₁, b₁, b₂, y₂, rfl, hrest⟩
        · refine Or.inl ⟨e :: r, ?_, fun f hf => ?_⟩
          · rw [List.cons_append, replaceFrom_keep hfront, hr, List.cons_append]
          · rcases List.mem_cons.mp hf with rfl | hf
            · exact Or.inl List.mem_cons_self
            · rcases hmem f hf with hf | hf
              · exact Or.inl (List.mem_cons_of_mem _ hf)
              · exact Or.inr hf
        · exact Or.inr ⟨e :: x₁, b₁, b₂, y₂, rfl, hrest⟩

end

/-! ## Positions -/

/-- An element, with the position it was copied from. -/
abbrev Traced (β : Type) := β × Option Nat

/-- A list that stands at a position of the original. -/
def tracedFrom : Nat → List β → List (Traced β)
  | _, [] => []
  | i, x :: rest => (x, some i) :: tracedFrom (i + 1) rest

/-- Elements that are not copied. -/
def untraced (l : List β) : List (Traced β) := l.map fun x => (x, none)

/-- The positions the elements of a list were copied from. -/
def positions (l : List (Traced β)) : List Nat := l.filterMap Prod.snd

/-- The block stands in the text at the position. -/
def OccursAt (text block : List β) (p : Nat) : Prop := block <+: text.drop p

theorem tracedFrom_fst (l : List β) : ∀ i, (tracedFrom i l).map Prod.fst = l := by
  induction l with
  | nil => exact fun i => rfl
  | cons x l ih =>
    intro i
    rw [tracedFrom, List.map_cons, ih]

theorem tracedFrom_append (x y : List β) :
    ∀ i, tracedFrom i (x ++ y) = tracedFrom i x ++ tracedFrom (i + x.length) y := by
  induction x with
  | nil => exact fun i => rfl
  | cons e x ih =>
    intro i
    rw [List.cons_append, tracedFrom, tracedFrom, ih, List.length_cons, List.cons_append,
      show i + 1 + x.length = i + (x.length + 1) by omega]

theorem mem_tracedFrom {l : List β} {e : Traced β} :
    ∀ {i}, e ∈ tracedFrom i l ↔ ∃ k, l[k]? = some e.1 ∧ e.2 = some (i + k) := by
  induction l with
  | nil =>
    intro i
    simp [tracedFrom]
  | cons x l ih =>
    intro i
    rw [tracedFrom, List.mem_cons, ih]
    constructor
    · rintro (rfl | ⟨k, hk, hp⟩)
      · exact ⟨0, rfl, rfl⟩
      · exact ⟨k + 1, hk, by rw [hp]; congr 1; omega⟩
    · rintro ⟨k, hk, hp⟩
      cases k with
      | zero =>
        obtain rfl : x = e.1 := Option.some.inj hk
        exact Or.inl (Prod.ext rfl hp)
      | succ k => exact Or.inr ⟨k, hk, by rw [hp]; congr 1; omega⟩

theorem mem_positions {l : List (Traced β)} {i : Nat} :
    i ∈ positions l ↔ ∃ x, (x, some i) ∈ l := by
  unfold positions
  rw [List.mem_filterMap]
  constructor
  · rintro ⟨⟨x, t⟩, hmem, rfl⟩
    exact ⟨x, hmem⟩
  · rintro ⟨x, hmem⟩
    exact ⟨_, hmem, rfl⟩

theorem positions_append (a b : List (Traced β)) :
    positions (a ++ b) = positions a ++ positions b := List.filterMap_append

theorem positions_untraced (l : List β) : positions (untraced l) = [] := by
  unfold positions untraced
  rw [List.filterMap_map, List.filterMap_eq_nil_iff]
  exact fun _ _ => rfl

theorem mem_positions_tracedFrom {l : List β} {i j : Nat} :
    j ∈ positions (tracedFrom i l) ↔ i ≤ j ∧ j < i + l.length := by
  rw [mem_positions]
  simp only [mem_tracedFrom, Option.some.injEq]
  constructor
  · rintro ⟨x, k, hk, rfl⟩
    have := (List.getElem?_eq_some_iff.mp hk).1
    omega
  · rintro ⟨hlo, hhi⟩
    refine ⟨l[j - i], j - i, List.getElem?_eq_getElem (by omega), by omega⟩

theorem positions_tracedFrom_sorted (l : List β) :
    ∀ i, (positions (tracedFrom i l)).Pairwise (· < ·) := by
  induction l with
  | nil => exact fun i => List.Pairwise.nil
  | cons x l ih =>
    intro i
    refine List.Pairwise.cons (fun j hj => ?_) (ih (i + 1))
    have := (mem_positions_tracedFrom.mp hj).1
    omega

theorem occursAt_of_getElem? {text block : List β} :
    ∀ {p}, (∀ k x, block[k]? = some x → text[p + k]? = some x) → OccursAt text block p := by
  induction block with
  | nil => exact fun _ => List.nil_prefix
  | cons x block ih =>
    intro p h
    have hx := h 0 x rfl
    rw [Nat.add_zero] at hx
    obtain ⟨hp, hget⟩ := List.getElem?_eq_some_iff.mp hx
    unfold OccursAt
    rw [List.drop_eq_getElem_cons hp, hget, List.prefix_cons_inj]
    refine ih fun k y hk => ?_
    have := h (k + 1) y hk
    rwa [show p + (k + 1) = p + 1 + k by omega] at this

/-- An occurrence in the original is a part of the original with its positions. -/
theorem OccursAt.traced {text block : List β} {p : Nat} (h : OccursAt text block p)
    (hblock : block ≠ []) : tracedFrom p block <:+: tracedFrom 0 text := by
  obtain ⟨rest, hrest⟩ := h
  have hp : (text.take p).length = p := by
    rw [List.length_take]
    have hlen := congrArg List.length hrest
    rw [List.length_append, List.length_drop] at hlen
    have := List.length_pos_of_ne_nil hblock
    omega
  have htext : text = text.take p ++ block ++ rest := by
    rw [List.append_assoc, hrest, List.take_append_drop]
  refine ⟨tracedFrom 0 (text.take p), tracedFrom (p + block.length) rest, ?_⟩
  conv_rhs => rw [htext]
  rw [tracedFrom_append, tracedFrom_append, List.length_append, Nat.zero_add, hp, Nat.zero_add]

/-! ## A list while it is being masked -/

/-- The marker shares no end with the block: none of its ends is one of the block's, and it is
not a part of the block. -/
structure Apart (marker block : List β) : Prop where
  no_start : ∀ u v, marker = u ++ v → v ≠ [] → ¬ v <+: block
  no_end : ∀ u v, marker = u ++ v → u ≠ [] → ¬ u <:+ block
  no_part : ¬ marker <:+: block

/-- Of two neighbours that are copied, the second was the next one in the original. -/
def Follows (x y : Traced β) : Prop := ∀ i j, x.2 = some i → y.2 = some j → j = i + 1

/-- What is known of a list while blocks are masked in it. -/
structure Masking (text : List β) (blocks : List (List β)) (l : List (Traced β)) : Prop where
  copied : ∀ x i, (x, some i) ∈ l → text[i]? = some x
  follows : l.IsChain Follows
  sorted : (positions l).Pairwise (· < ·)
  pure : ∀ a d c, l = a ++ d ++ c → d.map Prod.fst ∈ blocks →
    (∀ x ∈ d, x.2 = none) ∨ ∀ x ∈ d, x.2 ≠ none

/-- The original itself. -/
theorem masking_start (text : List β) (blocks : List (List β)) :
    Masking text blocks (tracedFrom 0 text) where
  copied := by
    intro x i h
    obtain ⟨k, hk, hi⟩ := mem_tracedFrom.mp h
    obtain rfl : i = 0 + k := Option.some.inj hi
    rwa [Nat.zero_add]
  follows := by
    have chain : ∀ (l : List β) i, (tracedFrom i l).IsChain Follows := by
      intro l
      induction l with
      | nil => exact fun i => List.isChain_nil
      | cons x l ih =>
        intro i
        rw [tracedFrom]
        refine List.isChain_cons.mpr ⟨fun y hy => ?_, ih (i + 1)⟩
        cases l with
        | nil => exact nomatch hy
        | cons z l =>
          obtain rfl := Option.some.inj hy
          intro a b ha hb
          obtain rfl := Option.some.inj ha
          exact (Option.some.inj hb).symm
    exact chain text 0
  sorted := positions_tracedFrom_sorted text 0
  pure := by
    intro a d c h _
    refine Or.inr fun x hx => ?_
    have hmem : x ∈ tracedFrom 0 text := by
      rw [h]
      exact List.mem_append_left _ (List.mem_append_right _ hx)
    obtain ⟨k, -, hk⟩ := mem_tracedFrom.mp hmem
    rw [hk]
    exact Option.some_ne_none _

/-- A part whose elements are all copied is a part of the original. -/
theorem Masking.copied_part {text : List β} {blocks : List (List β)} {l : List (Traced β)}
    (h : Masking text blocks l) {a d c : List (Traced β)} (hl : l = a ++ d ++ c) (hd : d ≠ [])
    (hcopied : ∀ x ∈ d, x.2 ≠ none) :
    ∃ p, d = tracedFrom p (d.map Prod.fst) ∧ OccursAt text (d.map Prod.fst) p := by
  have hchain : d.IsChain Follows := by
    have := h.follows
    rw [hl] at this
    exact (List.isChain_append.mp (List.isChain_append.mp this).1).2.1
  have traced : ∀ (d : List (Traced β)) x p, (x, some p) :: d ≠ [] →
      ((x, some p) :: d).IsChain Follows → (∀ e ∈ d, e.2 ≠ none) →
      (x, some p) :: d = tracedFrom p (((x, some p) :: d).map Prod.fst) := by
    intro d
    induction d with
    | nil => exact fun x p _ _ _ => rfl
    | cons e d ih =>
      intro x p _ hchain hcopied
      obtain ⟨hfollows, htail⟩ := List.isChain_cons_cons.mp hchain
      obtain ⟨y, t⟩ := e
      obtain ⟨q, rfl⟩ := Option.ne_none_iff_exists'.mp (hcopied _ List.mem_cons_self)
      obtain rfl : q = p + 1 := hfollows p q rfl rfl
      rw [List.map_cons, tracedFrom,
        ← ih y (p + 1) (List.cons_ne_nil _ _) htail
          fun e he => hcopied e (List.mem_cons_of_mem _ he)]
  cases d with
  | nil => exact absurd rfl hd
  | cons e d =>
    obtain ⟨x, t⟩ := e
    obtain ⟨p, rfl⟩ := Option.ne_none_iff_exists'.mp (hcopied _ List.mem_cons_self)
    have htraced := traced d x p (List.cons_ne_nil _ _) hchain
      fun e he => hcopied e (List.mem_cons_of_mem _ he)
    refine ⟨p, htraced, occursAt_of_getElem? fun k y hk => ?_⟩
    refine h.copied y (p + k) ?_
    rw [hl]
    refine List.mem_append_left _ (List.mem_append_right _ ?_)
    rw [htraced]
    exact mem_tracedFrom.mpr ⟨k, hk, rfl⟩

/-! ## One replacement -/

theorem untraced_fst (l : List β) : (untraced l).map Prod.fst = l := by
  unfold untraced
  rw [List.map_map]
  exact List.map_id l

theorem mem_untraced {l : List β} {e : Traced β} (h : e ∈ untraced l) : e.2 = none := by
  obtain ⟨x, -, rfl⟩ := List.mem_map.mp h
  rfl

/-- A block of the marked list is a block of the list it was made of, lies in the marker, or takes
an end of the marker with it. -/
theorem part_of_replaced {α : Type} {a m c a' d c' : List α} (h : a ++ m ++ c = a' ++ d ++ c') :
    (∃ e, a = a' ++ d ++ e) ∨ (∃ e, c = e ++ d ++ c') ∨ (∃ u v, m = u ++ d ++ v) ∨
      (∃ u v, m = u ++ v ∧ v ≠ [] ∧ v <+: d) ∨ (∃ u v, m = u ++ v ∧ u ≠ [] ∧ u <:+ d) ∨
      m <:+: d := by
  rcases List.append_eq_append_iff.mp h with ⟨e, hd, rfl⟩ | ⟨e, hm, rfl⟩
  · rcases List.append_eq_append_iff.mp hd with ⟨f, hf, rfl⟩ | ⟨f, rfl, rfl⟩
    · rcases List.append_eq_append_iff.mp hf with ⟨g, rfl, rfl⟩ | ⟨g, rfl, rfl⟩
      · cases f with
        | nil => exact Or.inr (Or.inl ⟨[], rfl⟩)
        | cons y f =>
          exact Or.inr (Or.inr (Or.inr (Or.inl ⟨g, y :: f, rfl, List.cons_ne_nil _ _,
            List.prefix_append _ _⟩)))
      · exact Or.inr (Or.inr (Or.inr (Or.inr (Or.inr ⟨g, e, rfl⟩))))
    · exact Or.inr (Or.inl ⟨f, rfl⟩)
  · rcases List.append_eq_append_iff.mp hm with ⟨f, hf, rfl⟩ | ⟨g, rfl, rfl⟩
    · rcases List.append_eq_append_iff.mp hf with ⟨g, rfl, rfl⟩ | ⟨g, rfl, rfl⟩
      · cases f with
        | nil =>
          refine Or.inl ⟨[], ?_⟩
          rw [List.append_nil, List.append_nil]
        | cons y f =>
          exact Or.inr (Or.inr (Or.inr (Or.inr (Or.inl ⟨y :: f, e, rfl, List.cons_ne_nil _ _,
            List.suffix_append _ _⟩))))
      · exact Or.inr (Or.inr (Or.inl ⟨g, e, rfl⟩))
    · exact Or.inl ⟨g, rfl⟩

/-- **Masking is kept by a replacement**, if the marker shares no end with a block. -/
theorem Masking.step {text marker : List β} {blocks : List (List β)} (hmarker : marker ≠ [])
    (hapart : ∀ block ∈ blocks, Apart marker block) {block : List β} {l l' : List (Traced β)}
    (hrep : Replaces Prod.fst block (untraced marker) l l') (h : Masking text blocks l) :
    Masking text blocks l' := by
  obtain ⟨a, b, c, rfl, hb, rfl⟩ := hrep
  have hne : untraced marker ≠ [] := by
    intro hnil
    exact hmarker (List.map_eq_nil_iff.mp hnil)
  obtain ⟨hab, hc, -⟩ := List.isChain_append.mp h.follows
  obtain ⟨ha, -, -⟩ := List.isChain_append.mp hab
  constructor
  · intro x i hx
    rcases List.mem_append.mp hx with hx | hx
    · rcases List.mem_append.mp hx with hx | hx
      · exact h.copied x i (List.mem_append_left _ (List.mem_append_left _ hx))
      · exact nomatch mem_untraced hx
    · exact h.copied x i (List.mem_append_right _ hx)
  · have hm : (untraced marker).IsChain Follows := by
      have : ∀ l : List β, (untraced l).IsChain Follows := by
        intro l
        induction l with
        | nil => exact List.isChain_nil
        | cons x l ih =>
          refine List.isChain_cons.mpr ⟨fun y _ i j hi => ?_, ih⟩
          exact nomatch hi
      exact this marker
    refine List.isChain_append.mpr ⟨List.isChain_append.mpr ⟨ha, hm, ?_⟩, hc, ?_⟩
    · intro x _ y hy i j _ hj
      rw [mem_untraced (List.mem_of_mem_head? hy)] at hj
      exact nomatch hj
    · intro x hx y _ i j hi
      rw [List.getLast?_append_of_ne_nil _ hne] at hx
      rw [mem_untraced (List.mem_of_getLast? hx)] at hi
      exact nomatch hi
  · have hsorted := h.sorted
    simp only [positions_append] at hsorted ⊢
    rw [positions_untraced, List.append_nil]
    refine hsorted.sublist (List.Sublist.append_right ?_ _)
    exact List.sublist_append_left _ _
  · intro a' d c' hd hblock
    rcases part_of_replaced hd with ⟨e, rfl⟩ | ⟨e, rfl⟩ | ⟨u, v, hm⟩ | ⟨u, v, hm, hv, hfront⟩ |
      ⟨u, v, hm, hu, hsuffix⟩ | hpart
    · refine h.pure a' d (e ++ b ++ c) ?_ hblock
      simp only [List.append_assoc]
    · refine h.pure (a ++ b ++ e) d c' ?_ hblock
      simp only [List.append_assoc]
    · refine Or.inl fun x hx => mem_untraced (l := marker) ?_
      rw [hm]
      exact List.mem_append_left _ (List.mem_append_right _ hx)
    · exfalso
      have hmap := congrArg (List.map Prod.fst) hm
      rw [untraced_fst, List.map_append] at hmap
      refine (hapart _ hblock).no_start _ _ hmap ?_ (hfront.map _)
      exact fun hnil => hv (List.map_eq_nil_iff.mp hnil)
    · exfalso
      have hmap := congrArg (List.map Prod.fst) hm
      rw [untraced_fst, List.map_append] at hmap
      refine (hapart _ hblock).no_end _ _ hmap ?_ (hsuffix.map _)
      exact fun hnil => hu (List.map_eq_nil_iff.mp hnil)
    · exfalso
      have := hpart.map Prod.fst
      rw [untraced_fst] at this
      exact (hapart _ hblock).no_part this

/-! ## Occurrences -/

/-- Every position of the occurrence is gone. -/
def Gone (l : List (Traced β)) (p : Nat) (block : List β) : Prop :=
  ∀ i, p ≤ i → i < p + block.length → i ∉ positions l

/-- The occurrence stands in the list as it stood in the original. -/
def Intact (l : List (Traced β)) (p : Nat) (block : List β) : Prop := tracedFrom p block <:+: l

/-- Two places share a position. -/
def Share (p : Nat) (s : List β) (q : Nat) (t : List β) : Prop :=
  ∃ i, p ≤ i ∧ i < p + s.length ∧ q ≤ i ∧ i < q + t.length

/-- Where an occurrence of `s` and one of `t` share a position, the former contains the latter. -/
def Contains (text s t : List β) : Prop :=
  ∀ p q, OccursAt text s p → OccursAt text t q → Share p s q t →
    p ≤ q ∧ q + t.length ≤ p + s.length

theorem share_iff {p q : Nat} {s t : List β} :
    Share p s q t ↔ max p q < min (p + s.length) (q + t.length) := by
  constructor
  · rintro ⟨i, h1, h2, h3, h4⟩
    omega
  · intro h
    exact ⟨max p q, by omega, by omega, by omega, by omega⟩

theorem OccursAt.lt_length {text block : List β} {p : Nat} (h : OccursAt text block p)
    (hblock : block ≠ []) : p < text.length := by
  have hlen := h.length_le
  rw [List.length_drop] at hlen
  have := List.length_pos_of_ne_nil hblock
  omega

/-- Only places in the text matter. -/
theorem contains_iff {text s t : List β} :
    Contains text s t ↔ ∀ p < text.length, ∀ q < text.length, OccursAt text s p →
      OccursAt text t q → Share p s q t → p ≤ q ∧ q + t.length ≤ p + s.length := by
  constructor
  · exact fun h p _ q _ => h p q
  · intro h p q hs ht hshare
    have hlt := share_iff.mp hshare
    have hs0 : s ≠ [] := by
      rintro rfl
      rw [List.length_nil] at hlt
      omega
    have ht0 : t ≠ [] := by
      rintro rfl
      rw [List.length_nil] at hlt
      omega
    exact h p (hs.lt_length hs0) q (ht.lt_length ht0) hs ht hshare

theorem apart_iff {marker block : List β} :
    Apart marker block ↔ (∀ k < marker.length, ¬ marker.drop k <+: block) ∧
      (∀ k < marker.length, ¬ marker.take (k + 1) <:+ block) ∧ ¬ marker <:+: block := by
  constructor
  · intro h
    refine ⟨fun k hk => ?_, fun k hk => ?_, h.no_part⟩
    · refine h.no_start (marker.take k) _ (List.take_append_drop k marker).symm fun hnil => ?_
      have := congrArg List.length hnil
      rw [List.length_drop, List.length_nil] at this
      omega
    · refine h.no_end _ (marker.drop (k + 1)) (List.take_append_drop _ marker).symm fun hnil => ?_
      have := congrArg List.length hnil
      rw [List.length_take, List.length_nil] at this
      omega
  · rintro ⟨hstart, hend, hpart⟩
    refine ⟨fun u v huv hv => ?_, fun u v huv hu => ?_, hpart⟩
    · have hlen := List.length_pos_of_ne_nil hv
      have hdrop : marker.drop u.length = v := by rw [huv, List.drop_left]
      rw [← hdrop]
      exact hstart u.length (by rw [huv, List.length_append]; omega)
    · have hlen := List.length_pos_of_ne_nil hu
      have htake : marker.take (u.length - 1 + 1) = u := by
        rw [Nat.sub_add_cancel hlen, huv, List.take_left]
      rw [← htake]
      exact hend (u.length - 1) (by rw [huv, List.length_append]; omega)

theorem infix_avoid {α : Type} {o a b c : List α} (hb : b ≠ [])
    (h : o <:+: a ++ b ++ c) (hdisjoint : ∀ x ∈ o, x ∉ b) : o <:+: a ∨ o <:+: c := by
  -- two lists with equal appends end alike
  have last : ∀ {u v w x : List α}, u ++ v = w ++ x → v ≠ [] → x ≠ [] → ∃ e, e ∈ v ∧ e ∈ x := by
    intro u v w x h hv hx
    have hlast := congrArg List.getLast? h
    rw [List.getLast?_append_of_ne_nil _ hv, List.getLast?_append_of_ne_nil _ hx,
      List.getLast?_eq_some_getLast hv, List.getLast?_eq_some_getLast hx] at hlast
    refine ⟨v.getLast hv, List.getLast_mem hv, ?_⟩
    rw [Option.some.inj hlast]
    exact List.getLast_mem hx
  by_cases ho : o = []
  · rw [ho]
    exact Or.inl List.nil_infix
  · obtain ⟨u, v, huv⟩ := h
    rcases List.append_eq_append_iff.mp huv with ⟨w, hw, rfl⟩ | ⟨w, hw, rfl⟩
    · rcases List.append_eq_append_iff.mp hw with ⟨f, hf, rfl⟩ | ⟨f, rfl, rfl⟩
      · by_cases hnil : f = []
        · rw [hnil, List.append_nil] at hf
          exact Or.inl ⟨u, [], by rw [hf, List.append_nil]⟩
        · obtain ⟨e, heo, hef⟩ := last hf ho hnil
          exact absurd (List.mem_append_left _ hef) (hdisjoint e heo)
      · exact Or.inl ⟨u, f, rfl⟩
    · rcases List.append_eq_append_iff.mp hw with ⟨f, hf, rfl⟩ | ⟨f, rfl, rfl⟩
      · by_cases hnil : f = []
        · subst hnil
          exact Or.inr ⟨[], v, rfl⟩
        · obtain ⟨e, heb, hef⟩ := last hf hb hnil
          exact absurd heb (hdisjoint e (List.mem_append_left _ hef))
      · exact Or.inr ⟨f, v, rfl⟩

theorem Gone.of_subset {l l' : List (Traced β)} {p : Nat} {block : List β} (h : Gone l p block)
    (hsub : ∀ i ∈ positions l', i ∈ positions l) : Gone l' p block :=
  fun i hlo hhi hi => h i hlo hhi (hsub i hi)

theorem positions_replaces {block marker : List β} {l l' : List (Traced β)}
    (h : Replaces Prod.fst block (untraced marker) l l') :
    ∀ i ∈ positions l', i ∈ positions l := by
  obtain ⟨a, b, c, rfl, -, rfl⟩ := h
  intro i hi
  simp only [positions_append, positions_untraced, List.append_nil, List.mem_append] at hi ⊢
  rcases hi with hi | hi
  · exact Or.inl (Or.inl hi)
  · exact Or.inr hi

/-- **A replacement takes an occurrence as a whole, or leaves it**, when the occurrences of the
block it replaces contain those they meet. -/
theorem intact_step {text marker : List β} {blocks : List (List β)} {block t : List β} {p : Nat}
    {l l' : List (Traced β)} (hmem : block ∈ blocks) (hblock : block ≠ [])
    (ht : OccursAt text t p) (hcontains : Contains text block t) (h : Masking text blocks l)
    (hrep : Replaces Prod.fst block (untraced marker) l l')
    (hone : Intact l p t ∨ Gone l p t) : Intact l' p t ∨ Gone l' p t := by
  rcases hone with hintact | hgone
  · obtain ⟨a, b, c, rfl, hb, rfl⟩ := hrep
    have hb0 : b ≠ [] := by
      rintro rfl
      exact hblock hb.symm
    have outside : (∀ x ∈ tracedFrom p t, x ∉ b) → Intact (a ++ untraced marker ++ c) p t := by
      intro hdisjoint
      rcases infix_avoid hb0 hintact hdisjoint with ha | hc
      · exact (ha.trans (List.infix_append [] a (untraced marker))).trans
          (List.infix_append [] _ c)
      · exact hc.trans (List.suffix_append _ _).isInfix
    rcases h.pure a b c rfl (by rw [hb]; exact hmem) with hnone | hcopied
    · refine Or.inl (outside fun x hx hxb => ?_)
      obtain ⟨k, -, hk⟩ := mem_tracedFrom.mp hx
      rw [hnone x hxb] at hk
      exact nomatch hk
    · obtain ⟨q, hq, hoccurs⟩ := h.copied_part rfl hb0 hcopied
      rw [hb] at hq hoccurs
      by_cases hshare : Share q block p t
      · obtain ⟨hlo, hhi⟩ := hcontains q p hoccurs ht hshare
        refine Or.inr fun i hi hi' hmem => ?_
        have hib : i ∈ positions b := by
          rw [hq]
          exact mem_positions_tracedFrom.mpr ⟨by omega, by omega⟩
        have hsorted := h.sorted
        rw [positions_append, positions_append] at hsorted
        obtain ⟨hab, -, hrest⟩ := List.pairwise_append.mp hsorted
        obtain ⟨-, -, hbefore⟩ := List.pairwise_append.mp hab
        rw [positions_append, positions_append, positions_untraced, List.append_nil] at hmem
        rcases List.mem_append.mp hmem with hia | hic
        · exact absurd (hbefore i hia i hib) (Nat.lt_irrefl i)
        · exact absurd (hrest i (List.mem_append_right _ hib) i hic) (Nat.lt_irrefl i)
      · refine Or.inl (outside fun x hx hxb => hshare ?_)
        rw [hq] at hxb
        obtain ⟨k, hk, hpos⟩ := mem_tracedFrom.mp hx
        obtain ⟨k', hk', hpos'⟩ := mem_tracedFrom.mp hxb
        rw [hpos] at hpos'
        have heq := Option.some.inj hpos'
        have hlt := (List.getElem?_eq_some_iff.mp hk).1
        have hlt' := (List.getElem?_eq_some_iff.mp hk').1
        exact ⟨p + k, by omega, by omega, by omega, by omega⟩
  · exact Or.inr (hgone.of_subset (positions_replaces hrep))

/-! ## All replacements -/

section
variable [DecidableEq β]

instance (text block : List β) (p : Nat) : Decidable (OccursAt text block p) :=
  inferInstanceAs (Decidable (block <+: text.drop p))

instance (p q : Nat) (s t : List β) : Decidable (Share p s q t) :=
  decidable_of_iff' _ share_iff

instance (text s t : List β) : Decidable (Contains text s t) :=
  have (p q : Nat) : Decidable (OccursAt text s p → OccursAt text t q → Share p s q t →
      p ≤ q ∧ q + t.length ≤ p + s.length) := inferInstance
  decidable_of_iff' _ contains_iff

instance (marker block : List β) : Decidable (Apart marker block) :=
  decidable_of_iff' _ apart_iff

theorem mem_replaceFrom {α : Type} {view : α → β} {block : List β} {new l : List α} :
    ∀ {skip e}, e ∈ replaceFrom view block new skip l → e ∈ l ∨ e ∈ new := by
  induction l with
  | nil =>
    intro skip e h
    cases skip <;> exact nomatch h
  | cons x l ih =>
    intro skip e h
    cases skip with
    | succ skip =>
      rw [replaceFrom] at h
      rcases ih h with h | h
      · exact Or.inl (List.mem_cons_of_mem _ h)
      · exact Or.inr h
    | zero =>
      rw [replaceFrom] at h
      split at h
      · rcases List.mem_append.mp h with h | h
        · exact Or.inr h
        · rcases ih h with h | h
          · exact Or.inl (List.mem_cons_of_mem _ h)
          · exact Or.inr h
      · rcases List.mem_cons.mp h with rfl | h
        · exact Or.inl List.mem_cons_self
        · rcases ih h with h | h
          · exact Or.inl (List.mem_cons_of_mem _ h)
          · exact Or.inr h

theorem positions_replaceFrom {block marker : List β} {l : List (Traced β)} {i : Nat}
    (h : i ∈ positions (replaceFrom Prod.fst block (untraced marker) 0 l)) : i ∈ positions l := by
  obtain ⟨x, hx⟩ := mem_positions.mp h
  rcases mem_replaceFrom hx with hx | hx
  · exact mem_positions.mpr ⟨x, hx⟩
  · exact nomatch mem_untraced hx

/-- **Replacing a block takes every occurrence of it**, when no two of them overlap. -/
theorem replaceAll_gone {text marker : List β} {blocks : List (List β)} {block : List β} {p : Nat}
    {l : List (Traced β)} (hmem : block ∈ blocks) (hblock : block ≠ [])
    (hp : OccursAt text block p) (hself : Contains text block block) (h : Masking text blocks l)
    (hintact : Intact l p block) :
    Gone (replaceAll Prod.fst block (untraced marker) l) p block := by
  obtain ⟨x, y, rfl⟩ := hintact
  have hsorted := h.sorted
  rw [List.append_assoc] at h hsorted ⊢
  unfold replaceAll
  rcases replaceFrom_reach hblock (untraced marker) (tracedFrom p block ++ y) x.length x
      (Nat.le_refl _) with
    ⟨r, hr, hrmem⟩ | ⟨x₁, b₁, b₂, y₂, rfl, hy, hb₁, hb₂, hb⟩
  · rw [hr, replaceFrom_block hblock (tracedFrom_fst block p)]
    intro i hlo hhi hi
    have hib : i ∈ positions (tracedFrom p block) := mem_positions_tracedFrom.mpr ⟨hlo, hhi⟩
    rw [positions_append, positions_append] at hsorted
    obtain ⟨-, hby, hbefore⟩ := List.pairwise_append.mp hsorted
    obtain ⟨-, -, hafter⟩ := List.pairwise_append.mp hby
    rw [positions_append, positions_append, positions_untraced, List.nil_append] at hi
    rcases List.mem_append.mp hi with hi | hi
    · obtain ⟨e, he⟩ := mem_positions.mp hi
      rcases hrmem _ he with he | he
      · have hix : i ∈ positions x := mem_positions.mpr ⟨e, he⟩
        exact absurd (hbefore i hix i (List.mem_append_left _ hib)) (Nat.lt_irrefl i)
      · exact nomatch mem_untraced he
    · exact absurd (hafter i hib i (positions_replaceFrom hi)) (Nat.lt_irrefl i)
  · -- the block that swallows the start of the occurrence is another occurrence
    exfalso
    rw [hy] at h hsorted
    rw [List.append_assoc, ← List.append_assoc b₁, ← List.append_assoc] at h hsorted
    obtain ⟨e, b₂, rfl⟩ := List.exists_cons_of_ne_nil hb₂
    have hpos : e.2 = some p := by
      cases block with
      | nil => exact absurd rfl hblock
      | cons c block =>
        rw [tracedFrom, List.cons_append, List.cons_append] at hy
        rw [← (List.cons.inj hy).1]
    have hcopied : ∀ z ∈ b₁ ++ e :: b₂, z.2 ≠ none := by
      rcases h.pure x₁ (b₁ ++ e :: b₂) y₂ rfl (by rw [hb]; exact hmem) with hnone | hcopied
      · rw [hnone e (List.mem_append_right _ List.mem_cons_self)] at hpos
        exact nomatch hpos
      · exact hcopied
    obtain ⟨q, hq, hoccurs⟩ := h.copied_part rfl
      (List.append_ne_nil_of_left_ne_nil hb₁ _) hcopied
    rw [hb] at hq hoccurs
    have hmemp : p ∈ positions (e :: b₂) := mem_positions.mpr ⟨e.1, by
      rw [← hpos]
      exact List.mem_cons_self⟩
    have hshare : q ≤ p ∧ p < q + block.length := by
      refine mem_positions_tracedFrom.mp ?_
      rw [← hq, positions_append]
      exact List.mem_append_right _ hmemp
    have hlen := List.length_pos_of_ne_nil hblock
    have hback := hself p q hp hoccurs ⟨p, by omega, by omega, hshare.1, hshare.2⟩
    have hqp : q = p := by omega
    have hfirst : q ∈ positions b₁ := by
      obtain ⟨d, b₁, rfl⟩ := List.exists_cons_of_ne_nil hb₁
      cases block with
      | nil => exact absurd rfl hblock
      | cons c block =>
        rw [tracedFrom, List.cons_append] at hq
        rw [(List.cons.inj hq).1]
        exact mem_positions.mpr ⟨c, List.mem_cons_self⟩
    rw [positions_append, positions_append, positions_append] at hsorted
    obtain ⟨hleft, -, -⟩ := List.pairwise_append.mp hsorted
    obtain ⟨-, hb', -⟩ := List.pairwise_append.mp hleft
    obtain ⟨-, -, hbefore⟩ := List.pairwise_append.mp hb'
    have := hbefore q hfirst p hmemp
    omega

/-- **No position of an occurrence survives** the masking of all blocks, if the marker shares no
end with a block and where occurrences meet the one masked earlier contains the other. -/
theorem maskAll_gone {text marker : List β} {all : List (List β)} (hmarker : marker ≠ [])
    (hapart : ∀ block ∈ all, Apart marker block) (blocks : List (List β)) :
    ∀ l, (∀ block ∈ blocks, block ∈ all) → blocks.Pairwise (Contains text) →
      (∀ block ∈ blocks, Contains text block block) → Masking text all l →
      (∀ block ∈ blocks, ∀ p, OccursAt text block p → Intact l p block ∨ Gone l p block) →
      (∀ i ∈ positions (maskAll Prod.fst (untraced marker) blocks l), i ∈ positions l) ∧
        ∀ block ∈ blocks, ∀ p, OccursAt text block p →
          Gone (maskAll Prod.fst (untraced marker) blocks l) p block := by
  induction blocks with
  | nil => exact fun l _ _ _ _ _ => ⟨fun i hi => hi, fun _ h => nomatch h⟩
  | cons block blocks ih =>
    intro l hall hpair hself h hones
    obtain ⟨hfirst, hpair⟩ := List.pairwise_cons.mp hpair
    have hall' : ∀ b ∈ blocks, b ∈ all := fun b hb => hall b (List.mem_cons_of_mem _ hb)
    have hself' : ∀ b ∈ blocks, Contains text b b :=
      fun b hb => hself b (List.mem_cons_of_mem _ hb)
    unfold maskAll at ih ⊢
    rw [List.foldl_cons]
    by_cases hblock : block = []
    · rw [if_pos hblock]
      obtain ⟨hsub, hgone⟩ := ih l hall' hpair hself' h
        fun b hb => hones b (List.mem_cons_of_mem _ hb)
      refine ⟨hsub, fun b hb p hp => ?_⟩
      rcases List.mem_cons.mp hb with rfl | hb
      · intro i hlo hhi
        rw [hblock, List.length_nil] at hhi
        omega
      · exact hgone b hb p hp
    · rw [if_neg hblock]
      have hmem := hall block List.mem_cons_self
      have hnext : Masking text all (replaceAll Prod.fst block (untraced marker) l) :=
        replaceAll_keeps hblock (fun l l' hrep hm => hm.step hmarker hapart hrep) h
      have hones' : ∀ b ∈ blocks, ∀ p, OccursAt text b p →
          Intact (replaceAll Prod.fst block (untraced marker) l) p b ∨
            Gone (replaceAll Prod.fst block (untraced marker) l) p b := by
        intro b hb p hp
        refine (replaceAll_keeps (P := fun l => Masking text all l ∧ (Intact l p b ∨ Gone l p b))
          hblock (fun l l' hrep hm => ?_) ⟨h, hones b (List.mem_cons_of_mem _ hb) p hp⟩).2
        exact ⟨hm.1.step hmarker hapart hrep,
          intact_step hmem hblock hp (hfirst b hb) hm.1 hrep hm.2⟩
      obtain ⟨hsub, hgone⟩ := ih _ hall' hpair hself' hnext hones'
      refine ⟨fun i hi => positions_replaceFrom (hsub i hi), fun b hb p hp => ?_⟩
      rcases List.mem_cons.mp hb with rfl | hb
      · refine Gone.of_subset ?_ hsub
        rcases hones b List.mem_cons_self p hp with hintact | hone
        · exact replaceAll_gone hmem hblock hp (hself b List.mem_cons_self) h hintact
        · exact hone.of_subset fun i hi => positions_replaceFrom hi
      · exact hgone b hb p hp

/-- **Masking the original.** -/
theorem maskAll_masks {text marker : List β} {blocks : List (List β)} (hmarker : marker ≠ [])
    (hapart : ∀ block ∈ blocks, Apart marker block) (hpair : blocks.Pairwise (Contains text))
    (hself : ∀ block ∈ blocks, Contains text block block) {block : List β}
    (hmem : block ∈ blocks) {p : Nat} (hp : OccursAt text block p) :
    Gone (maskAll Prod.fst (untraced marker) blocks (tracedFrom 0 text)) p block := by
  refine (maskAll_gone hmarker hapart blocks _ (fun _ h => h) hpair hself
    (masking_start text blocks) fun b _ q hq => ?_).2 block hmem p hp
  by_cases hb : b = []
  · refine Or.inr fun i hlo hhi => ?_
    rw [hb, List.length_nil] at hhi
    omega
  · exact Or.inl (hq.traced hb)

end

end Adcp.L1.Redaction
