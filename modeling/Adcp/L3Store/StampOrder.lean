import Mathlib.Data.List.Lex
import Mathlib.Data.String.Basic
import Adcp.L3Store.Migrations
/-!
# The order of time stamps

A time stamp is a sequence of numbers of fixed width with separators between them, so that its text
sorts as its numbers do, and its numbers as its time.

* `field_append_lt`: a padded number decides before what comes after it.
* `civil_lt_iff`: year, month and day sort as the day number.
* `text_lt_iff`: the text of a clock reading sorts as the reading.
-/
namespace Adcp.L3.Migrations

open Adcp.L1 Adcp.L2

/-! ## Padded numbers -/

section Order

variable {s t : List Char}

theorem append_lt_append_iff (p : List Char) : p ++ s < p ++ t ↔ s < t := by
  induction p with
  | nil => exact Iff.rfl
  | cons c p ih =>
    rw [List.cons_append, List.cons_append, List.cons_lt_cons_iff, ih]
    exact ⟨fun h => h.elim (fun hc => absurd hc (lt_irrefl c)) And.right, fun h => Or.inr ⟨rfl, h⟩⟩

theorem digitChar_lt_iff : ∀ a < 10, ∀ b < 10,
    (Nat.digitChar a < Nat.digitChar b ↔ a < b) ∧ (Nat.digitChar a = Nat.digitChar b ↔ a = b) := by
  decide

/-- Two numbers compare by the leading digit first. -/
theorem leading_lt_iff {p a b c d : Nat} (hc : c < p) (hd : d < p) :
    c + p * a < d + p * b ↔ a < b ∨ a = b ∧ c < d := by
  rcases Nat.lt_trichotomy a b with h | rfl | h
  · have hmul : p * (a + 1) ≤ p * b := Nat.mul_le_mul_left p h
    rw [Nat.mul_add] at hmul
    exact ⟨fun _ => Or.inl h, fun _ => by omega⟩
  · omega
  · have hmul : p * (b + 1) ≤ p * a := Nat.mul_le_mul_left p h
    rw [Nat.mul_add] at hmul
    refine ⟨fun hlt => ?_, fun hlt => ?_⟩
    · omega
    · omega

theorem leading_eq_iff {p a b c d : Nat} (hc : c < p) (hd : d < p) :
    c + p * a = d + p * b ↔ a = b ∧ c = d := by
  have hlt := leading_lt_iff (a := a) (b := b) hc hd
  have hgt := leading_lt_iff (a := b) (b := a) hd hc
  omega

theorem divided_lt_iff {p a b : Nat} (hp : 0 < p) :
    a / p < b / p ∨ a / p = b / p ∧ a % p < b % p ↔ a < b := by
  rw [← leading_lt_iff (Nat.mod_lt a hp) (Nat.mod_lt b hp), Nat.mod_add_div, Nat.mod_add_div]

theorem divided_eq_iff {p a b : Nat} (hp : 0 < p) : a / p = b / p ∧ a % p = b % p ↔ a = b := by
  rw [← leading_eq_iff (Nat.mod_lt a hp) (Nat.mod_lt b hp), Nat.mod_add_div, Nat.mod_add_div]

theorem zeroPadded_append_lt (k a b : Nat) :
    zeroPadded k a ++ s < zeroPadded k b ++ t ↔
      a % 10 ^ k < b % 10 ^ k ∨ a % 10 ^ k = b % 10 ^ k ∧ s < t := by
  induction k with
  | zero => simp [zeroPadded, Nat.mod_one]
  | succ k ih =>
    have hpos : 0 < 10 ^ k := Nat.pow_pos (by decide)
    have ha := Nat.mod_lt a hpos
    have hb := Nat.mod_lt b hpos
    obtain ⟨hlt, heq⟩ := digitChar_lt_iff (a / 10 ^ k % 10) (Nat.mod_lt _ (by decide))
      (b / 10 ^ k % 10) (Nat.mod_lt _ (by decide))
    rw [zeroPadded, zeroPadded, List.cons_append, List.cons_append, List.cons_lt_cons_iff, ih, hlt,
      heq, Nat.mod_pow_succ, Nat.mod_pow_succ, leading_lt_iff ha hb, leading_eq_iff ha hb]
    tauto

theorem field_append_lt {k a b : Nat} (ha : a < 10 ^ k) (hb : b < 10 ^ k) :
    zeroPadded k a ++ s < zeroPadded k b ++ t ↔ a < b ∨ a = b ∧ s < t := by
  rw [zeroPadded_append_lt, Nat.mod_eq_of_lt ha, Nat.mod_eq_of_lt hb]

end Order

theorem zeroPadded_snoc (k n : Nat) :
    zeroPadded (k + 1) n = zeroPadded k (n / 10) ++ [Nat.digitChar (n % 10)] := by
  induction k with
  | zero => simp [zeroPadded]
  | succ k ih =>
    rw [zeroPadded, ih, zeroPadded, List.cons_append, Nat.pow_succ', Nat.div_div_eq_div_mul]

theorem digits_snoc {k n : Nat} (hk : 0 < k) :
    Timestamp.digits (k + 1) n = Timestamp.digits k (n / 10) ++ [Nat.digitChar (n % 10)] := by
  unfold Timestamp.digits
  simp only
  by_cases hn : n < 10
  · have hzero : n / 10 = 0 := by omega
    rw [hzero, Nat.toDigits_of_lt_base hn, Nat.toDigits_zero, Nat.mod_eq_of_lt hn]
    obtain ⟨k, rfl⟩ : ∃ j, k = j + 1 := ⟨k - 1, by omega⟩
    simp [List.replicate_succ']
  · rw [Nat.toDigits_of_base_le (by decide) (by omega)]
    simp

theorem digits_eq {k n : Nat} (hn : n < 10 ^ (k + 1)) :
    Timestamp.digits (k + 1) n = zeroPadded (k + 1) n := by
  induction k generalizing n with
  | zero =>
    have h10 : n < 10 := by simpa using hn
    unfold Timestamp.digits
    rw [Nat.toDigits_of_lt_base h10]
    simp [zeroPadded, Nat.mod_eq_of_lt h10]
  | succ k ih =>
    have hdiv : n / 10 < 10 ^ (k + 1) := by
      rw [Nat.pow_succ] at hn
      omega
    rw [digits_snoc (by omega), ih hdiv, ← zeroPadded_snoc]

theorem digits_append_lt_iff {k a b : Nat} {s t : List Char} (ha : a < 10 ^ (k + 1))
    (hb : b < 10 ^ (k + 1)) :
    Timestamp.digits (k + 1) a ++ s < Timestamp.digits (k + 1) b ++ t ↔ a < b ∨ a = b ∧ s < t := by
  rw [digits_eq ha, digits_eq hb]
  exact field_append_lt ha hb

end Adcp.L3.Migrations

namespace Adcp.L2.Timestamp

open Adcp.L3.Migrations (digits_append_lt_iff divided_lt_iff divided_eq_iff)

/-! ## The calendar -/

/-- The days before the year `y` of an era of 400 years, which begins on the first of March. -/
def eraStart (y : Nat) : Nat := 365 * y + y / 4 - y / 100

/-- The year of an era that its day `d` is in. -/
def eraYear (d : Nat) : Nat := (d - d / 1460 + d / 36524 - d / 146096) / 365

/-- The days before the year `y`, counted from the first of March of the year 0. -/
def yearStart (y : Nat) : Nat := 365 * y + y / 4 - y / 100 + y / 400

theorem eraYear_mono {a b : Nat} (hab : a ≤ b) (hb : b < 146097) : eraYear a ≤ eraYear b := by
  unfold eraYear
  apply Nat.div_le_div_right
  omega

theorem eraYear_ends : ∀ y < 400,
    eraYear (eraStart y) = y ∧ eraYear (eraStart (y + 1) - 1) = y := by
  decide +kernel

theorem eraStart_mono {a b : Nat} (h : a ≤ b) : eraStart a ≤ eraStart b := by
  refine monotone_nat_of_le_succ (fun y => ?_) h
  unfold eraStart
  omega

theorem eraYear_lt {d : Nat} (hd : d < 146097) : eraYear d < 400 := by
  unfold eraYear
  omega

/-- The days of a year lie between its first day and the first day of the next one. -/
theorem eraYear_spec {d : Nat} (hd : d < 146097) :
    eraStart (eraYear d) ≤ d ∧ (d < eraStart (eraYear d + 1) ∨ eraYear d = 399) := by
  have hlt := eraYear_lt hd
  constructor
  · apply Nat.le_of_not_lt
    intro hbefore
    have hpos : eraYear d ≠ 0 := by
      intro hzero
      rw [hzero] at hbefore
      exact absurd hbefore (Nat.not_lt_zero d)
    have hend := (eraYear_ends (eraYear d - 1) (by omega)).2
    rw [Nat.sub_add_cancel (Nat.pos_of_ne_zero hpos)] at hend
    have hstart : eraStart (eraYear d) ≤ eraStart 399 := eraStart_mono (by omega)
    have hbound : eraStart 399 = 145731 := by decide
    have hmono := @eraYear_mono d (eraStart (eraYear d) - 1) (by omega) (by omega)
    omega
  · by_cases hlast : eraYear d = 399
    · exact Or.inr hlast
    · refine Or.inl (Nat.lt_of_not_le fun hnext => ?_)
      have hstart := (eraYear_ends (eraYear d + 1) (by omega)).1
      have hmono := eraYear_mono hnext hd
      omega

theorem yearStart_mono {a b : Nat} (h : a ≤ b) : yearStart a ≤ yearStart b := by
  refine monotone_nat_of_le_succ (fun y => ?_) h
  unfold yearStart
  omega

theorem yearStart_era (y e : Nat) : yearStart (y + 400 * e) = eraStart y + y / 400 + 146097 * e := by
  have h4 : (y + 400 * e) / 4 = y / 4 + 100 * e := by omega
  have h100 : (y + 400 * e) / 100 = y / 100 + 4 * e := by omega
  have h400 : (y + 400 * e) / 400 = y / 400 + e := by omega
  unfold yearStart eraStart
  rw [h4, h100, h400]
  omega

/-- The day `n` is day `doy` of the year `y` that begins in March, and its month the `mp`-th. -/
theorem civil_march (n : Nat) : ∃ y mp doy,
    n + 306 = yearStart y + doy ∧ n + 306 < yearStart (y + 1) ∧ mp = (5 * doy + 2) / 153 ∧
    civil n = (y + (if (if mp < 10 then mp + 3 else mp - 9) ≤ 2 then 1 else 0),
      if mp < 10 then mp + 3 else mp - 9, doy - (153 * mp + 2) / 5 + 1) := by
  have hdoe : (n + 306) % 146097 < 146097 := Nat.mod_lt _ (by decide)
  have hlt := eraYear_lt hdoe
  obtain ⟨hfirst, hlast⟩ := eraYear_spec hdoe
  refine ⟨eraYear ((n + 306) % 146097) + 400 * ((n + 306) / 146097), _,
    (n + 306) % 146097 - eraStart (eraYear ((n + 306) % 146097)), ?_, ?_, rfl, rfl⟩
  · rw [yearStart_era, Nat.div_eq_of_lt hlt]
    omega
  · rw [Nat.add_right_comm, yearStart_era]
    have hera : eraStart (399 + 1) = 146096 := by decide
    rcases hlast with hbefore | hlast
    · omega
    · rw [hlast]
      omega

/-- Year, month and day as one number: there are at most 12 months and at most 31 days. -/
def civilKey (n : Nat) : Nat := 32 * (12 * (civil n).1 + (civil n).2.1) + (civil n).2.2

theorem civil_bounds (n : Nat) :
    1 ≤ (civil n).2.1 ∧ (civil n).2.1 ≤ 12 ∧ 1 ≤ (civil n).2.2 ∧ (civil n).2.2 ≤ 31 := by
  obtain ⟨y, mp, doy, hday, hend, hmp, hcivil⟩ := civil_march n
  rw [hcivil]
  have hyear : yearStart (y + 1) ≤ yearStart y + 366 := by
    unfold yearStart
    omega
  have hmonth : mp ≤ 11 := by omega
  simp only
  refine ⟨?_, ?_, by omega, by omega⟩
  · split <;> omega
  · split <;> omega

theorem civilKey_march (n : Nat) : ∃ y mp d,
    n + 306 = yearStart y + (153 * mp + 2) / 5 + d ∧ n + 306 < yearStart (y + 1) ∧ mp ≤ 11 ∧ d ≤ 30 ∧
    n + 306 < yearStart y + (153 * (mp + 1) + 2) / 5 ∧
    civilKey n = 32 * (12 * y + mp + 3) + d + 1 := by
  obtain ⟨y, mp, doy, hday, hend, hmp, hcivil⟩ := civil_march n
  have hyear : yearStart (y + 1) ≤ yearStart y + 366 := by
    unfold yearStart
    omega
  have hmonth : mp ≤ 11 := by omega
  have hfirst : (153 * mp + 2) / 5 ≤ doy := by omega
  have hnext : doy < (153 * (mp + 1) + 2) / 5 := by omega
  refine ⟨y, mp, doy - (153 * mp + 2) / 5, by omega, hend, hmonth, by omega, by omega, ?_⟩
  unfold civilKey
  rw [hcivil]
  by_cases hten : mp < 10
  · simp only [if_pos hten]
    rw [if_neg (by omega)]
    omega
  · simp only [if_neg hten]
    rw [if_pos (by omega)]
    omega

theorem civilKey_lt {a b : Nat} (hab : a < b) : civilKey a < civilKey b := by
  obtain ⟨y, mp, d, hday, hend, hmp, hd, hnext, hkey⟩ := civilKey_march a
  obtain ⟨y', mp', d', hday', hend', hmp', hd', hnext', hkey'⟩ := civilKey_march b
  rw [hkey, hkey']
  have hyears : y ≤ y' := by
    apply Nat.le_of_not_lt
    intro hlt
    have := yearStart_mono (show y' + 1 ≤ y by omega)
    omega
  by_cases hyear : y = y'
  · subst hyear
    have hmonths : mp ≤ mp' := by omega
    by_cases hmonth : mp = mp'
    · subst hmonth
      omega
    · omega
  · omega

theorem civilKey_lt_iff {a b : Nat} : civilKey a < civilKey b ↔ a < b := by
  refine ⟨fun h => Nat.lt_of_not_le fun hle => ?_, civilKey_lt⟩
  rcases Nat.lt_or_eq_of_le hle with hlt | heq
  · exact absurd h (Nat.lt_asymm (civilKey_lt hlt))
  · rw [heq] at h
    exact absurd h (Nat.lt_irrefl _)

theorem civilKey_eq_iff {a b : Nat} : civilKey a = civilKey b ↔ a = b := by
  have hlt := @civilKey_lt_iff a b
  have hgt := @civilKey_lt_iff b a
  omega

/-- Year, month and day sort as the day number. -/
theorem civil_lt_iff {a b : Nat} :
    ((civil a).1 < (civil b).1 ∨ (civil a).1 = (civil b).1 ∧
      ((civil a).2.1 < (civil b).2.1 ∨ (civil a).2.1 = (civil b).2.1 ∧
        (civil a).2.2 < (civil b).2.2)) ↔ a < b := by
  obtain ⟨hm, hm', hd, hd'⟩ := civil_bounds a
  obtain ⟨km, km', kd, kd'⟩ := civil_bounds b
  rw [← @civilKey_lt_iff a b]
  unfold civilKey
  omega

theorem civil_eq_iff {a b : Nat} :
    ((civil a).1 = (civil b).1 ∧ (civil a).2.1 = (civil b).2.1 ∧ (civil a).2.2 = (civil b).2.2) ↔
      a = b := by
  obtain ⟨hm, hm', hd, hd'⟩ := civil_bounds a
  obtain ⟨km, km', kd, kd'⟩ := civil_bounds b
  rw [← @civilKey_eq_iff a b]
  unfold civilKey
  omega

theorem civil_year_lt {n : Nat} (h : n < 3652059) : (civil n).1 < 10000 := by
  have hkey := civilKey_lt h
  have hend : civilKey 3652059 = 3840033 := by decide +kernel
  obtain ⟨hm, hm', hd, hd'⟩ := civil_bounds n
  unfold civilKey at hkey
  unfold civilKey at hend
  omega

/-! ## The text -/

/-- Day, hour, minute, second and microsecond sort as the time. -/
theorem clock_lt_iff {a b : Nat} :
    a / 1000000 / 86400 < b / 1000000 / 86400 ∨
      a / 1000000 / 86400 = b / 1000000 / 86400 ∧
        (a / 1000000 / 3600 % 24 < b / 1000000 / 3600 % 24 ∨
          a / 1000000 / 3600 % 24 = b / 1000000 / 3600 % 24 ∧
            (a / 1000000 / 60 % 60 < b / 1000000 / 60 % 60 ∨
              a / 1000000 / 60 % 60 = b / 1000000 / 60 % 60 ∧
                (a / 1000000 % 60 < b / 1000000 % 60 ∨
                  a / 1000000 % 60 = b / 1000000 % 60 ∧ a % 1000000 < b % 1000000))) ↔ a < b := by
  have hday : ∀ s, s / 86400 = s / 60 / 60 / 24 := fun s => by
    rw [Nat.div_div_eq_div_mul, Nat.div_div_eq_div_mul]
  have hhour : ∀ s, s / 3600 = s / 60 / 60 := fun s => by
    rw [Nat.div_div_eq_div_mul]
  rw [hday, hday, hhour, hhour, ← @divided_lt_iff 1000000 a b (by decide)]
  generalize a / 1000000 = s
  generalize b / 1000000 = t
  rw [← @divided_lt_iff 60 s t (by decide), ← @divided_eq_iff 60 s t (by decide),
    ← @divided_lt_iff 60 (s / 60) (t / 60) (by decide),
    ← @divided_eq_iff 60 (s / 60) (t / 60) (by decide),
    ← @divided_lt_iff 24 (s / 60 / 60) (t / 60 / 60) (by decide),
    ← @divided_eq_iff 24 (s / 60 / 60) (t / 60 / 60) (by decide)]
  simp only [and_or_left, or_assoc, and_assoc]

/-- **Time stamps sort as the time.** -/
theorem text_lt_iff {a b : Timestamp} : a.text < b.text ↔ a < b := by
  obtain ⟨a, ha⟩ := a
  obtain ⟨b, hb⟩ := b
  unfold maxMicros at ha hb
  have hyear := @civil_year_lt (a / 1000000 / 86400) (by omega)
  have hyear' := @civil_year_lt (b / 1000000 / 86400) (by omega)
  have hbounds := civil_bounds (a / 1000000 / 86400)
  have hbounds' := civil_bounds (b / 1000000 / 86400)
  have hdays := @civil_lt_iff (a / 1000000 / 86400) (b / 1000000 / 86400)
  have hsame := @civil_eq_iff (a / 1000000 / 86400) (b / 1000000 / 86400)
  rw [lt_def, String.lt_iff_toList_lt]
  unfold text
  simp only [String.toList_ofList, List.append_assoc, List.cons_append]
  generalize civil (a / 1000000 / 86400) = da at *
  generalize civil (b / 1000000 / 86400) = db at *
  obtain ⟨y, m, d⟩ := da
  obtain ⟨y', m', d'⟩ := db
  simp only at hyear hyear' hbounds hbounds' hdays hsame ⊢
  -- Each number decides, or the texts go on after the separator behind it.
  rw [digits_append_lt_iff (by omega) (by omega), List.cons_lt_cons_iff,
    digits_append_lt_iff (by omega) (by omega), List.cons_lt_cons_iff,
    digits_append_lt_iff (by omega) (by omega), List.cons_lt_cons_iff,
    digits_append_lt_iff (by omega) (by omega), List.cons_lt_cons_iff,
    digits_append_lt_iff (by omega) (by omega), List.cons_lt_cons_iff,
    digits_append_lt_iff (by omega) (by omega), List.cons_lt_cons_iff,
    digits_append_lt_iff (by omega) (by omega)]
  simp only [lt_self_iff_false, false_or, true_and, and_false, or_false]
  rw [← @clock_lt_iff a b, ← hdays, ← hsame]
  simp only [and_or_left, or_assoc, and_assoc]

/-- Two readings with one text are one reading. -/
theorem text_inj {a b : Timestamp} (h : a.text = b.text) : a = b := by
  have hlt := (not_congr (@text_lt_iff a b)).mp (by rw [h]; exact lt_irrefl _)
  have hgt := (not_congr (@text_lt_iff b a)).mp (by rw [h]; exact lt_irrefl _)
  rw [not_lt, le_def] at hlt hgt
  cases a
  cases b
  simp only [mk.injEq]
  exact Nat.le_antisymm hgt hlt

end Adcp.L2.Timestamp
