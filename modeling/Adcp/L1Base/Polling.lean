import Adcp.L1Base.Transcript
/-!
# Polling until it is stable

A poll observes in cycles. A cycle sees something or nothing; when the last `required` cycles have
all seen the same, the poll ends with it. Between two cycles the clock is read, and the poll gives
up at the first reading that is late.

* `Poll.run`: the loop, for at most so many cycles; `none` when they are used up.
* `Poll.Rounds`: cycles that did not end the poll, each with a reading that is not late.
* `Poll.Ends`: how a poll ends. `Poll.run_ends`: every transcript is such an end.
* `Poll.Clocked.bounded`: with a clock that runs late the poll ends.
-/
namespace Adcp.L1

open Script

/-- `σ` is what a cycle hands to the next one. -/
structure Poll (ε : Type) {ι : Type} (ρ : ι → Type) (σ κ τ : Type) where
  cycle : σ → Script ε ρ (Option κ × σ)
  required : Nat
  now : Script ε ρ τ
  late : τ → Bool
  timeout : σ → Script ε ρ ε
  pause : Script ε ρ Unit

namespace Poll

variable {ε ι σ κ τ : Type} {ρ : ι → Type} (P : Poll ε ρ σ κ τ)

/-- How many cycles in a row have seen the same, with the one that has just ended. -/
def streak [DecidableEq κ] (seen last : Option κ) (count : Nat) : Nat :=
  match seen with
  | none => 0
  | some _ => if last = seen then count + 1 else 1

/-- The poll, `count` cycles in a row having seen `last`. -/
def run [DecidableEq κ] : Nat → σ → Option κ → Nat → Script ε ρ (Option κ)
  | 0, _, _, _ => pure none
  | n + 1, s, last, count => do
    let (seen, s') ← P.cycle s
    if seen.isSome ∧ P.required ≤ streak seen last count then pure seen
    else do
      let t ← P.now
      if P.late t then do
        let e ← P.timeout s'
        fail e
      else do
        P.pause
        run n s' seen (streak seen last count)

/-- A round that raises: a cycle, cut short or in full, and then at most one reading. -/
def lastRound (s : σ) : Script ε ρ Unit := do
  let (_, s') ← P.cycle s
  let t ← P.now
  if P.late t then do
    let e ← P.timeout s'
    fail e
  else P.pause

/-- Rounds after which the poll goes on, with what their cycles have seen. -/
inductive Rounds (s : σ) : List (Option κ) → List (Answered ε ρ) → σ → Prop
  | start : Rounds s [] [] s
  | round {seen : List (Option κ)} {k : Option κ} {log block reading rest : List (Answered ε ρ)}
      {s₁ s₂ : σ} {t : τ} (before : Rounds s seen log s₁)
      (cycle : Transcript (P.cycle s₁) block (.ok (k, s₂)))
      (read : Transcript P.now reading (.ok t)) (early : P.late t = false)
      (pause : Transcript P.pause rest (.ok ())) :
      Rounds s (seen ++ [k]) (log ++ (block ++ reading ++ rest)) s₂

/-- How a poll of at most `n` cycles ends. -/
inductive Ends (n : Nat) (s : σ) : List (Answered ε ρ) → Except ε (Option κ) → Prop
  /-- The last cycles, as many as are required, have all seen `k`. -/
  | stable {seen : List (Option κ)} {k : κ} {log block : List (Answered ε ρ)} {s₁ s₂ : σ}
      (before : P.Rounds s (seen ++ List.replicate (P.required - 1) (some k)) log s₁)
      (cycle : Transcript (P.cycle s₁) block (.ok (some k, s₂))) :
      Ends n s (log ++ block) (.ok (some k))
  /-- A round raises. -/
  | raised {seen : List (Option κ)} {log rest : List (Answered ε ρ)} {s₁ : σ} {e : ε}
      (before : P.Rounds s seen log s₁) (room : seen.length < n)
      (last : Transcript (P.lastRound s₁) rest (.error e)) :
      Ends n s (log ++ rest) (.error e)
  /-- The cycles are used up. -/
  | unfinished {seen : List (Option κ)} {log : List (Answered ε ρ)} {s₁ : σ}
      (before : P.Rounds s seen log s₁) (full : seen.length = n) :
      Ends n s log (.ok none)

/-- The last cycles of a history, `count` in number, have seen `last`. -/
def Trailing (seen : List (Option κ)) (last : Option κ) (count : Nat) : Prop :=
  (last = none → count = 0) ∧ ∃ earlier, seen = earlier ++ List.replicate count last

theorem trailing_start : Trailing ([] : List (Option κ)) none 0 := ⟨fun _ => rfl, [], rfl⟩

theorem Trailing.next [DecidableEq κ] {seen : List (Option κ)} {last : Option κ} {count : Nat}
    (h : Trailing seen last count) (k : Option κ) :
    Trailing (seen ++ [k]) k (streak k last count) := by
  unfold streak
  cases k with
  | none => exact ⟨fun _ => rfl, seen ++ [none], (List.append_nil _).symm⟩
  | some k =>
    refine ⟨fun h' => (nomatch h'), ?_⟩
    simp only
    by_cases hsame : last = some k
    · obtain ⟨earlier, rfl⟩ := h.2
      refine ⟨earlier, ?_⟩
      rw [if_pos hsame, hsame, List.append_assoc, List.replicate_succ']
    · rw [if_neg hsame]
      exact ⟨seen, rfl⟩

/-- With the streak that is required, the cycles before the last one have seen the same. -/
theorem Trailing.required [DecidableEq κ] {seen : List (Option κ)} {last : Option κ}
    {count required : Nat} (h : Trailing seen last count) {k : κ}
    (hcount : required ≤ streak (some k) last count) :
    ∃ earlier, seen = earlier ++ List.replicate (required - 1) (some k) := by
  unfold streak at hcount
  simp only at hcount
  by_cases hsame : last = some k
  · rw [if_pos hsame] at hcount
    obtain ⟨earlier, rfl⟩ := h.2
    refine ⟨earlier ++ List.replicate (count - (required - 1)) (some k), ?_⟩
    rw [hsame, List.append_assoc, ← List.replicate_add]
    congr 2
    omega
  · rw [if_neg hsame] at hcount
    refine ⟨seen, ?_⟩
    rw [Nat.sub_eq_zero_of_le hcount]
    exact (List.append_nil _).symm

variable {P} {s₀ s : σ} {log rest : List (Answered ε ρ)}

theorem run_ends_from [DecidableEq κ] {n : Nat} {seen : List (Option κ)} {last : Option κ}
    {count : Nat} {r : Except ε (Option κ)} (hbefore : P.Rounds s₀ seen log s)
    (htrailing : Trailing seen last count) (h : Transcript (P.run n s last count) rest r) :
    P.Ends (seen.length + n) s₀ (log ++ rest) r := by
  induction n generalizing seen last count s log rest with
  | zero =>
    obtain ⟨rfl, rfl⟩ := transcript_pure.mp h
    rw [List.append_nil]
    exact .unfinished hbefore rfl
  | succ n ih =>
    unfold run at h
    -- a round that raises is the last one
    have hraised : ∀ {e : ε} {last : List (Answered ε ρ)},
        Transcript (P.lastRound s) last (.error e) →
        P.Ends (seen.length + (n + 1)) s₀ (log ++ last) (.error e) :=
      fun hlast => .raised hbefore (by omega) hlast
    rcases transcript_bind.mp h with ⟨e, he, rfl⟩ | ⟨⟨k, s₁⟩, block, rest₁, rfl, hcycle, h⟩
    · exact hraised (transcript_bind.mpr (Or.inl ⟨e, he, rfl⟩))
    simp only at h
    have hround : ∀ {e : ε} {rest₁ : List (Answered ε ρ)},
        Transcript (P.now >>= fun t => if P.late t then (do
          let e ← P.timeout s₁
          fail e) else P.pause) rest₁ (.error e) →
        P.Ends (seen.length + (n + 1)) s₀ (log ++ (block ++ rest₁)) (.error e) :=
      fun hlast => hraised (transcript_bind.mpr (Or.inr ⟨_, block, _, rfl, hcycle, hlast⟩))
    by_cases hstable : k.isSome ∧ P.required ≤ streak k last count
    · rw [if_pos hstable] at h
      obtain ⟨rfl, rfl⟩ := transcript_pure.mp h
      obtain ⟨hsome, hcount⟩ := hstable
      obtain ⟨k, rfl⟩ := Option.isSome_iff_exists.mp hsome
      obtain ⟨earlier, rfl⟩ := htrailing.required hcount
      rw [List.append_nil]
      exact .stable hbefore hcycle
    rw [if_neg hstable] at h
    rcases transcript_bind.mp h with ⟨e, he, rfl⟩ | ⟨t, reading, rest₂, rfl, hread, h⟩
    · exact hround (transcript_bind.mpr (Or.inl ⟨e, he, rfl⟩))
    cases hlate : P.late t with
    | true =>
      rw [hlate, if_pos rfl] at h
      rcases transcript_bind.mp h with ⟨e, he, rfl⟩ | ⟨e, first, last, rfl, htimeout, h⟩
      · refine hround (transcript_bind.mpr (Or.inr ⟨t, reading, rest₂, rfl, hread, ?_⟩))
        rw [hlate, if_pos rfl]
        exact transcript_bind.mpr (Or.inl ⟨e, he, rfl⟩)
      · obtain ⟨rfl, rfl⟩ := transcript_fail.mp h
        refine hround (transcript_bind.mpr (Or.inr ⟨t, reading, _, rfl, hread, ?_⟩))
        rw [hlate, if_pos rfl]
        exact transcript_bind.mpr (Or.inr ⟨e, first, [], rfl, htimeout, rfl, rfl⟩)
    | false =>
      rw [hlate, if_neg Bool.false_ne_true] at h
      rcases transcript_bind.mp h with ⟨e, he, rfl⟩ | ⟨_, pause, rest₃, rfl, hpause, h⟩
      · refine hround (transcript_bind.mpr (Or.inr ⟨t, reading, rest₂, rfl, hread, ?_⟩))
        rw [hlate, if_neg Bool.false_ne_true]
        exact he
      · have hends := ih (.round hbefore hcycle hread hlate hpause) (htrailing.next k) h
        rw [List.length_append, List.length_singleton] at hends
        rw [show log ++ (block ++ (reading ++ (pause ++ rest₃))) =
          log ++ (block ++ reading ++ pause) ++ rest₃ by simp only [List.append_assoc],
          show seen.length + (n + 1) = seen.length + 1 + n by omega]
        exact hends

/-- **Every run of the poll ends so.** -/
theorem run_ends [DecidableEq κ] {n : Nat} {r : Except ε (Option κ)}
    (h : Transcript (P.run n s none 0) log r) : P.Ends n s log r := by
  have hends := run_ends_from .start trailing_start h
  rwa [List.length_nil, Nat.zero_add, List.nil_append] at hends

/-! ## The last cycles -/

/-- A log that ends with so many good cycles, each but the first behind a wait. -/
inductive Tail {E : Type} (Good Wait : List E → Prop) : Nat → List E → Prop
  | one {before block : List E} (good : Good block) : Tail Good Wait 1 (before ++ block)
  | next {n : Nat} {log wait block : List E} (tail : Tail Good Wait n log) (waits : Wait wait)
      (good : Good block) : Tail Good Wait (n + 1) (log ++ wait ++ block)

/-- What a cycle that has seen `k` and a wait before the deadline show, the last cycles show. -/
theorem Rounds.tail {Good Wait : List (Answered ε ρ) → Prop} {k : κ}
    (hgood : ∀ s s' block, Transcript (P.cycle s) block (.ok (some k, s')) → Good block)
    (hwait : ∀ t reading rest, Transcript P.now reading (.ok t) → P.late t = false →
      Transcript P.pause rest (.ok ()) → Wait (reading ++ rest))
    {seen : List (Option κ)} (h : P.Rounds s₀ seen log s) {earlier : List (Option κ)} {m : Nat}
    (hseen : seen = earlier ++ List.replicate m (some k)) {block : List (Answered ε ρ)}
    (hblock : Good block) : Tail Good Wait (m + 1) (log ++ block) := by
  induction h generalizing m block with
  | start =>
    obtain ⟨-, hm⟩ := List.append_eq_nil_iff.mp hseen.symm
    rw [(List.replicate_eq_nil_iff _).mp hm]
    exact .one hblock
  | @round seen k' log block' reading rest s₁ s₂ t before cycle read early pause ih =>
    cases m with
    | zero => exact .one hblock
    | succ m =>
      rw [List.replicate_succ', ← List.append_assoc] at hseen
      obtain ⟨hearlier, hk⟩ := List.append_inj' hseen rfl
      obtain rfl := List.singleton_inj.mp hk
      have htail := (ih hearlier (hgood _ _ _ cycle)).next (hwait t reading rest read early pause)
        hblock
      rw [show log ++ (block' ++ reading ++ rest) ++ block =
        log ++ block' ++ (reading ++ rest) ++ block by simp only [List.append_assoc]]
      exact htail

theorem Ends.tail {Good Wait : List (Answered ε ρ) → Prop} {k : κ} (hrequired : 1 ≤ P.required)
    (hgood : ∀ s s' block, Transcript (P.cycle s) block (.ok (some k, s')) → Good block)
    (hwait : ∀ t reading rest, Transcript P.now reading (.ok t) → P.late t = false →
      Transcript P.pause rest (.ok ()) → Wait (reading ++ rest))
    {n : Nat} (h : P.Ends n s₀ log (.ok (some k))) : Tail Good Wait P.required log := by
  cases h with
  | stable before cycle =>
    have htail := before.tail hgood hwait rfl (hgood _ _ _ cycle)
    rwa [Nat.sub_add_cancel hrequired] at htail

/-! ## Readings of the clock -/

/-- Only the clock is read, and once a round. -/
structure Clocked (P : Poll ε ρ σ κ τ) (reads : Answered ε ρ → Option τ) : Prop where
  cycle : ∀ s r block, Transcript (P.cycle s) block r → block.filterMap reads = []
  now : ∀ t reading, Transcript P.now reading (.ok t) → reading.filterMap reads = [t]
  unread : ∀ e reading, Transcript P.now reading (.error e) → reading.filterMap reads = []
  timeout : ∀ s r rest, Transcript (P.timeout s) rest r → rest.filterMap reads = []
  pause : ∀ r rest, Transcript P.pause rest r → rest.filterMap reads = []

variable {reads : Answered ε ρ → Option τ}

/-- There are as many readings as rounds that go on, and none of them is late. -/
theorem Clocked.rounds (hclocked : P.Clocked reads) {seen : List (Option κ)}
    (h : P.Rounds s₀ seen log s) : (log.filterMap reads).length = seen.length ∧
      ∀ t ∈ log.filterMap reads, P.late t = false := by
  induction h with
  | start => exact ⟨rfl, fun _ ht => (nomatch ht)⟩
  | round before cycle read early pause ih =>
    rw [List.filterMap_append, List.filterMap_append, List.filterMap_append,
      hclocked.cycle _ _ _ cycle, hclocked.now _ _ read, hclocked.pause _ _ pause, List.append_nil,
      List.nil_append]
    refine ⟨?_, fun t ht => ?_⟩
    · rw [List.length_append, List.length_append, ih.1]
      rfl
    · rcases List.mem_append.mp ht with ht | ht
      · exact ih.2 t ht
      · rw [List.mem_singleton.mp ht]
        exact early

/-- The round that raises reads the clock once at most. -/
theorem Clocked.lastRound (hclocked : P.Clocked reads) {e : ε}
    (h : Transcript (P.lastRound s) log (.error e)) : (log.filterMap reads).length ≤ 1 := by
  rcases transcript_bind.mp h with ⟨_, hcycle, -⟩ | ⟨⟨_, s'⟩, block, rest, rfl, hcycle, h⟩
  · rw [hclocked.cycle _ _ _ hcycle]
    exact Nat.zero_le 1
  rw [List.filterMap_append, hclocked.cycle _ _ _ hcycle, List.nil_append]
  rcases transcript_bind.mp h with ⟨_, hread, -⟩ | ⟨t, reading, rest, rfl, hread, h⟩
  · rw [hclocked.unread _ _ hread]
    exact Nat.zero_le 1
  rw [List.filterMap_append, hclocked.now _ _ hread]
  have hrest : rest.filterMap reads = [] := by
    split_ifs at h
    · rcases transcript_bind.mp h with ⟨_, htimeout, -⟩ | ⟨_, first, rest, rfl, htimeout, h⟩
      · exact hclocked.timeout _ _ _ htimeout
      · rw [List.filterMap_append, hclocked.timeout _ _ _ htimeout, (transcript_fail.mp h).1]
        rfl
    · exact hclocked.pause _ _ h
  rw [hrest]
  exact Nat.le_refl 1

/-- A clock that is late at its reading `m` leaves no room for more than `m` rounds that go on. -/
theorem Clocked.length_le (hclocked : P.Clocked reads) {seen : List (Option κ)}
    (h : P.Rounds s₀ seen log s) {clock : Nat → τ} {m : Nat}
    (hclock : ∀ i t, (log.filterMap reads)[i]? = some t → t = clock i)
    (hlate : P.late (clock m) = true) : seen.length ≤ m := by
  obtain ⟨hlength, hearly⟩ := hclocked.rounds h
  rcases Nat.lt_or_ge m seen.length with hm | hm
  · rw [← hlength] at hm
    have hread := hclock m _ (List.getElem?_eq_getElem hm)
    have hnot := hearly _ (List.getElem_mem hm)
    rw [hread, hlate] at hnot
    exact nomatch hnot
  · exact hm

/-- **With a clock that is late at its reading `m` the poll ends**, and after `m + 1` readings at
most. -/
theorem Clocked.bounded (hclocked : P.Clocked reads) {n : Nat} {r : Except ε (Option κ)}
    (h : P.Ends n s₀ log r) {clock : Nat → τ} {m : Nat}
    (hclock : ∀ i t, (log.filterMap reads)[i]? = some t → t = clock i)
    (hlate : P.late (clock m) = true) :
    (log.filterMap reads).length ≤ m + 1 ∧ (m < n → r ≠ .ok none) := by
  cases h with
  | @stable seen k log block s₁ s₂ before cycle =>
    rw [List.filterMap_append, hclocked.cycle _ _ _ cycle, List.append_nil] at hclock ⊢
    have hle := hclocked.length_le before hclock hlate
    rw [← (hclocked.rounds before).1] at hle
    exact ⟨by omega, fun _ h => (nomatch h)⟩
  | @raised seen log rest s₁ e before room last =>
    have hone := hclocked.lastRound last
    rw [List.filterMap_append] at hclock ⊢
    have hle := hclocked.length_le before
      (fun i t ht => hclock i t (List.getElem?_append_left (List.getElem?_eq_some_iff.mp ht).1 ▸ ht))
      hlate
    rw [← (hclocked.rounds before).1] at hle
    rw [List.length_append]
    exact ⟨by omega, fun _ h => (nomatch h)⟩
  | unfinished before full =>
    have hle := hclocked.length_le before hclock hlate
    have hlength := (hclocked.rounds before).1
    exact ⟨by omega, fun hm => absurd hm (by omega)⟩

end Poll
end Adcp.L1
