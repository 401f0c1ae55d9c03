import Mathlib
/-!
# Versioned logs

A row that is only ever changed together with an appended log entry, the entry
naming the state it leads from, the state it leads to and the row's new version.
Entries, states and the way an entry is read are arbitrary.

`LogOf v Move log s n` builds the log the way the writes do: one opening entry,
then one entry for each change, each of which `Move` permits after the log
before it. What a reader of the log wants to know follows.

* `LogOf.versions`: the entries carry the versions `0..n`, each once, in order.
* `LogOf.chain_of_version`, `LogOf.target_of_version`: each entry starts where
  the one before it ended, and the last one ends in the row's state.
* `LogOf.move`: every entry but the first was permitted.
* `Each`, `Since`: what every entry finds before it, and what has happened since
  something else last did.
-/
namespace Adcp.L1

/-- How an entry is read; the opening entry has no source. -/
structure LogView (ε σ : Type) where
  source : ε → Option σ
  target : ε → σ
  version : ε → Int

variable {ε σ : Type}

/-- `log` records how the row came to state `s` at version `n`. -/
inductive LogOf (v : LogView ε σ) (Move : List ε → σ → ε → Prop) : List ε → σ → Nat → Prop
  | opened {e : ε} (source : v.source e = none) (version : v.version e = 0) :
      LogOf v Move [e] (v.target e) 0
  | moved {log : List ε} {s : σ} {n : Nat} {e : ε} (log_of : LogOf v Move log s n)
      (source : v.source e = some s) (version : v.version e = n + 1) (move : Move log s e) :
      LogOf v Move (log ++ [e]) (v.target e) (n + 1)

namespace LogOf

variable {v : LogView ε σ} {Move : List ε → σ → ε → Prop} {log : List ε} {s : σ} {n : Nat}

theorem length (h : LogOf v Move log s n) : log.length = n + 1 := by
  induction h with
  | opened => rfl
  | moved _ _ _ _ ih => rw [List.length_append, ih, List.length_singleton]

theorem versions (h : LogOf v Move log s n) :
    log.map v.version = (List.range (n + 1)).map Int.ofNat := by
  induction h with
  | opened _ version => simp [version]
  | @moved log s n e _ _ version _ ih =>
    rw [List.map_append, ih, List.range_succ (n := n + 1), List.map_append]
    simp [version]

theorem last (h : LogOf v Move log s n) : log.getLast?.map v.target = some s := by
  cases h <;> simp

/-- Every entry but the first starts where the one before it ended, and was
permitted there. -/
theorem step (h : LogOf v Move log s n) {i : Nat} {e e' : ε} (hi : log[i]? = some e)
    (hi' : log[i + 1]? = some e') :
    v.source e' = some (v.target e) ∧ Move (log.take (i + 1)) (v.target e) e' := by
  induction h with
  | opened => simp at hi'
  | @moved log s n new log_of source _ move ih =>
    have hlen := log_of.length
    by_cases hlast : i + 1 < log.length
    · rw [List.getElem?_append_left (by omega)] at hi hi'
      rw [List.take_append_of_le_length (by omega)]
      exact ih hi hi'
    · -- the entry appended last: the one before it ended in `s`
      have hlt : i + 1 < (log ++ [new]).length := (List.getElem?_eq_some_iff.mp hi').1
      have hi1 : i + 1 = log.length := by simp at hlt; omega
      have hnew : new = e' := by simpa [hi1] using hi'
      have he : log.getLast? = some e := by
        rw [List.getElem?_append_left (by omega)] at hi
        rw [List.getLast?_eq_getElem?, ← hi]
        congr 1
        omega
      have hs : v.target e = s := by simpa [he] using log_of.last
      rw [← hnew, hs, hi1, List.take_left']
      · exact ⟨source, move⟩
      · rfl

theorem chain (h : LogOf v Move log s n) {i : Nat} {e e' : ε} (hi : log[i]? = some e)
    (hi' : log[i + 1]? = some e') : v.source e' = some (v.target e) := (h.step hi hi').1

/-- The entry at position `i` carries version `i`. -/
theorem version_get (h : LogOf v Move log s n) {i : Nat} {e : ε} (hi : log[i]? = some e) :
    v.version e = i := by
  have hmap : (log.map v.version)[i]? = some (v.version e) := by simp [hi]
  have hlt : i < n + 1 := h.length ▸ (List.getElem?_eq_some_iff.mp hi).1
  rw [h.versions] at hmap
  simpa [hlt, eq_comm] using hmap

/-- An entry starts where the entry with the preceding version ended. -/
theorem chain_of_version (h : LogOf v Move log s n) {e e' : ε} (he : e ∈ log) (he' : e' ∈ log)
    (hv : v.version e' = v.version e + 1) : v.source e' = some (v.target e) := by
  obtain ⟨i, hi⟩ := List.mem_iff_getElem?.mp he
  obtain ⟨j, hj⟩ := List.mem_iff_getElem?.mp he'
  rw [h.version_get hi, h.version_get hj] at hv
  obtain rfl : j = i + 1 := by omega
  exact h.chain hi hj

/-- The entry with the row's version ends in the row's state. -/
theorem target_of_version (h : LogOf v Move log s n) {e : ε} (he : e ∈ log) (hv : v.version e = n) :
    v.target e = s := by
  obtain ⟨i, hi⟩ := List.mem_iff_getElem?.mp he
  rw [h.version_get hi] at hv
  have hlast : log.getLast? = some e := by
    rw [List.getLast?_eq_getElem?, h.length, ← hi]
    congr 1
    omega
  simpa [hlast] using h.last

theorem move (h : LogOf v Move log s n) {i : Nat} {e e' : ε} (hi : log[i]? = some e)
    (hi' : log[i + 1]? = some e') : Move (log.take (i + 1)) (v.target e) e' := (h.step hi hi').2

end LogOf

/-! ## What an entry finds before it -/

/-- Every entry of the log, with the log before it, meets `P`. -/
def Each (P : List ε → ε → Prop) (log : List ε) : Prop :=
  ∀ before e after, log = before ++ e :: after → P before e

theorem Each.nil {P : List ε → ε → Prop} : Each P [] := by
  intro before e after h
  cases before <;> cases h

theorem Each.append {P : List ε → ε → Prop} {log : List ε} {e : ε} (h : Each P log) (he : P log e) :
    Each P (log ++ [e]) := by
  intro before f after hsplit
  rcases List.append_eq_append_iff.mp hsplit with ⟨rest, rfl, hrest⟩ | ⟨rest, rfl, hrest⟩
  · -- the entry is the one appended
    have hlen := congrArg List.length hrest
    simp only [List.length_append, List.length_cons, List.length_nil] at hlen
    obtain rfl : rest = [] := List.length_eq_zero_iff.mp (by omega)
    cases hrest
    rwa [List.append_nil]
  · cases rest with
    | nil =>
      cases hrest
      rwa [List.append_nil] at he
    | cons g rest =>
      cases hrest
      exact h before _ rest rfl

/-- There is an entry with `q`, and none with `p` after it. -/
def Since (p q : ε → Prop) (log : List ε) : Prop :=
  ∃ before e after, log = before ++ e :: after ∧ q e ∧ ∀ f ∈ after, ¬ p f

theorem Since.here {p q : ε → Prop} {log : List ε} {e : ε} (h : q e) : Since p q (log ++ [e]) :=
  ⟨log, e, [], rfl, h, fun _ hf => (List.not_mem_nil hf).elim⟩

theorem Since.append {p q : ε → Prop} {log : List ε} {e : ε} (h : Since p q log) (he : ¬ p e) :
    Since p q (log ++ [e]) := by
  obtain ⟨before, g, after, rfl, hg, hafter⟩ := h
  refine ⟨before, g, after ++ [e], by simp, hg, fun f hf => ?_⟩
  rcases List.mem_append.mp hf with hf | hf
  · exact hafter f hf
  · rwa [List.mem_singleton.mp hf]

end Adcp.L1
