import Adcp.L3Store.StampOrder
/-!
# Aware and naive times

A `datetime` is a wall clock with what its time zone says of the offset from UTC.

* `Datetime.timestamp`: its text in UTC, which a naive one does not have.
* `timestamp_lt_iff`, `timestamp_eq_iff`: texts sort as the instants they stand for.
-/
namespace Adcp.L3

open Adcp.L1 Adcp.L2

/-- `datetime`: its wall clock, and the microseconds of `utcoffset()`, `none` on a naive one. -/
structure Datetime where
  wall : Timestamp
  utcoffset : Option Int
  bound : ∀ offset ∈ utcoffset, -86400000000 < offset ∧ offset < 86400000000

namespace Datetime

/-- `value.astimezone(timezone.utc)` -/
def astimezone (wall : Timestamp) (offset : Int) : Except PyError Timestamp :=
  let m : Int := wall.micros - offset
  if h : 0 ≤ m ∧ m.toNat < maxMicros then .ok ⟨m.toNat, h.2⟩ else .error .overflow

/-- mirrors src/adcp/domain.py:204-207 -/
def timestamp (value : Datetime) : Except PyError String :=
  match value.utcoffset with
  | none => .error (.store "INVALID_TIMESTAMP" "timezone-aware UTC input required")
  | some offset => (astimezone value.wall offset).map Timestamp.text

/-- The microseconds since the first of January of the year 1, in UTC. -/
def instant (value : Datetime) : Option Int := value.utcoffset.map (value.wall.micros - ·)

theorem timestamp_ok {value : Datetime} {s : String} : value.timestamp = .ok s ↔
    ∃ t : Timestamp, value.instant = some (t.micros : Int) ∧ t.text = s := by
  unfold timestamp instant
  cases value.utcoffset with
  | none => simp
  | some offset =>
    simp only [Option.map_some, Option.some.injEq]
    unfold astimezone
    simp only
    by_cases h : 0 ≤ (value.wall.micros : Int) - offset ∧
        ((value.wall.micros : Int) - offset).toNat < maxMicros
    · rw [dif_pos h]
      constructor
      · intro hs
        exact ⟨_, by simp only; omega, Except.ok.inj hs⟩
      · rintro ⟨⟨m, hm⟩, heq, rfl⟩
        simp only at heq
        have hm' : ((value.wall.micros : Int) - offset).toNat = m := by omega
        simp only [Except.map, hm']
    · rw [dif_neg h]
      constructor
      · intro hs
        cases hs
      · rintro ⟨⟨m, hm⟩, heq, -⟩
        simp only at heq
        exact absurd ⟨by omega, by omega⟩ h

theorem timestamp_lt_iff {a b : Datetime} {s t : String} (hs : a.timestamp = .ok s)
    (ht : b.timestamp = .ok t) :
    s < t ↔ ∃ i j, a.instant = some i ∧ b.instant = some j ∧ i < j := by
  obtain ⟨u, hu, rfl⟩ := timestamp_ok.mp hs
  obtain ⟨v, hv, rfl⟩ := timestamp_ok.mp ht
  rw [Timestamp.text_lt_iff, Timestamp.lt_def, hu, hv]
  simp

theorem timestamp_eq_iff {a b : Datetime} {s t : String} (hs : a.timestamp = .ok s)
    (ht : b.timestamp = .ok t) : s = t ↔ a.instant = b.instant := by
  obtain ⟨u, hu, rfl⟩ := timestamp_ok.mp hs
  obtain ⟨v, hv, rfl⟩ := timestamp_ok.mp ht
  rw [hu, hv]
  constructor
  · intro h
    rw [Timestamp.text_inj h]
  · intro h
    obtain ⟨u, hu'⟩ := u
    obtain ⟨v, hv'⟩ := v
    simp only [Option.some.injEq, Int.natCast_inj] at h
    subst h
    rfl

/-- What `timestamp` refuses. -/
theorem timestamp_error {value : Datetime} {e : PyError} : value.timestamp = .error e ↔
    value.utcoffset = none ∧ e = .store "INVALID_TIMESTAMP" "timezone-aware UTC input required" ∨
    ∃ i, value.instant = some i ∧ (i < 0 ∨ maxMicros ≤ i) ∧ e = .overflow := by
  unfold timestamp instant
  cases value.utcoffset with
  | none => simp [eq_comm]
  | some offset =>
    unfold astimezone
    simp only
    by_cases h : 0 ≤ (value.wall.micros : Int) - offset ∧
        ((value.wall.micros : Int) - offset).toNat < maxMicros
    · rw [dif_pos h]
      constructor
      · intro he
        cases he
      · rintro (⟨h, -⟩ | ⟨i, hi, hout, -⟩)
        · cases h
        · cases hi
          simp only at hout
          omega
    · rw [dif_neg h]
      constructor
      · intro he
        cases he
        exact Or.inr ⟨(value.wall.micros : Int) - offset, rfl, by omega, rfl⟩
      · rintro (⟨h, -⟩ | ⟨i, -, -, rfl⟩)
        · cases h
        · rfl

end Datetime

end Adcp.L3
