import Adcp.L1Base.JsonRoundTrip

/-!
# The ASCII text of a JSON value

`json.dumps(value, sort_keys=True, separators=(",", ":"))` writes a character that is not a
printable ASCII one as an escape, or as the two escapes of a surrogate pair.

* `dumps`: that text, from the one that `render` writes.
* `escaped`: the same of any text that has its control characters escaped already. What the
  decoder reads from a text it reads from the escaped one, `parse_escaped`.
* `loads_dumps`: the round trip.
-/
namespace Adcp.L1.Json

/-- Four hexadecimal digits. -/
def hex4Digits (n : Nat) : List Char :=
  [hexDigit (n / 4096 % 16), hexDigit (n / 256 % 16), hexDigit (n / 16 % 16), hexDigit (n % 16)]

def unicodeEscaped (n : Nat) : List Char := '\\' :: 'u' :: hex4Digits n

/-- What `ensure_ascii` makes of a character. -/
def asciiChar (c : Char) : List Char :=
  if 32 ≤ c.toNat ∧ c.toNat ≤ 126 then [c]
  else if c.toNat < 0x10000 then unicodeEscaped c.toNat
  else unicodeEscaped (0xD800 + (c.toNat - 0x10000) / 0x400) ++
    unicodeEscaped (0xDC00 + (c.toNat - 0x10000) % 0x400)

/-- `json.dumps(value, sort_keys=True, separators=(",", ":"), ensure_ascii=True)` -/
def dumps (v : Json) : List Char := (render v).flatMap asciiChar

/-! ## Escaping what is not ASCII -/

/-- A character that is no control character, or one that is left alone. -/
def escapedChar (c : Char) : List Char := if c.toNat ≤ 126 then [c] else asciiChar c

def escaped (cs : List Char) : List Char := cs.flatMap escapedChar

@[simp] theorem escaped_nil : escaped [] = [] := rfl

theorem escaped_cons (c : Char) (cs : List Char) : escaped
    (c :: cs) = escapedChar c ++ escaped cs :=
  rfl

theorem escaped_keep {c : Char} (h : c.toNat ≤ 126) (cs : List Char) :
    escaped (c :: cs) = c :: escaped cs := by
  rw [escaped_cons, escapedChar, if_pos h]
  rfl

/-- An escape begins with a backslash. -/
theorem escaped_escape {c : Char} (h : ¬ c.toNat ≤ 126) (cs : List Char) :
    ∃ rest, escaped (c :: cs) = '\\' :: rest := by
  rw [escaped_cons, escapedChar, if_neg h, asciiChar, if_neg (fun hc => h hc.2)]
  split
  · exact ⟨_, rfl⟩
  · exact ⟨_, rfl⟩

theorem hex4_hex4Digits {n : Nat} (h : n < 0x10000) (rest : List Char) :
    hex4 (hex4Digits n ++ rest) = some (n, rest) := by
  have hval : ((n / 4096 % 16 * 16 + n / 256 % 16) * 16 + n / 16 % 16) * 16 + n % 16 = n := by omega
  simp only [hex4Digits, List.cons_append, List.nil_append, hex4]
  rw [hexVal_hexDigit (Nat.mod_lt _ (by decide)), hexVal_hexDigit (Nat.mod_lt _ (by decide)),
    hexVal_hexDigit (Nat.mod_lt _ (by decide)), hexVal_hexDigit (Nat.mod_lt _ (by decide))]
  simp only [hval]

/-- A character is read back from its escapes. -/
theorem unicodeEscape_asciiChar {c : Char} (h : ¬ c.toNat ≤ 126) (rest : List Char) :
    ∃ text, asciiChar c ++ rest = '\\' :: 'u' :: text ∧ unicodeEscape text = some (c, rest) := by
  have hvalid : c.toNat < 0xD800 ∨ (0xDFFF < c.toNat ∧ c.toNat < 0x110000) := c.valid
  rw [asciiChar, if_neg (fun hc => h hc.2)]
  by_cases hsmall : c.toNat < 0x10000
  · refine ⟨hex4Digits c.toNat ++ rest, by rw [if_pos hsmall]; rfl, ?_⟩
    rw [unicodeEscape, hex4_hex4Digits hsmall]
    simp only
    rw [if_neg (by omega), if_neg (by omega), Char.ofNat_toNat]
  · have hhi : 0xD800 + (c.toNat - 0x10000) / 0x400 < 0x10000 := by omega
    have hlo : 0xDC00 + (c.toNat - 0x10000) % 0x400 < 0x10000 := by omega
    refine ⟨hex4Digits (0xD800 + (c.toNat - 0x10000) / 0x400) ++
      ('\\' :: 'u' :: (hex4Digits (0xDC00 + (c.toNat - 0x10000) % 0x400) ++ rest)),
      by rw [if_neg hsmall]; simp [unicodeEscaped], ?_⟩
    rw [unicodeEscape, hex4_hex4Digits hhi]
    simp only
    rw [if_pos (by omega), hex4_hex4Digits hlo]
    simp only
    have hpair : 0x10000 + (0xD800 + (c.toNat - 0x10000) / 0x400 - 0xD800) * 0x400 +
        (0xDC00 + (c.toNat - 0x10000) % 0x400 - 0xDC00) = c.toNat := by omega
    rw [if_pos (by omega), hpair, Char.ofNat_toNat]

/-! ## Reading the escaped text -/

theorem hexVal_keep {c : Char} {n : Nat} (h : hexVal c = some n) : c.toNat ≤ 126 := by
  unfold hexVal at h
  split at h
  · rename_i hc
    have hle : c.toNat ≤ '9'.toNat := hc.2
    exact Nat.le_trans hle (by decide)
  split at h
  · rename_i hc
    have hle : c.toNat ≤ 'f'.toNat := hc.2
    exact Nat.le_trans hle (by decide)
  split at h
  · rename_i hc
    have hle : c.toNat ≤ 'F'.toNat := hc.2
    exact Nat.le_trans hle (by decide)
  · cases h

theorem hex4_escaped {cs rest : List Char} {n : Nat} (h : hex4 cs = some (n, rest)) :
    hex4 (escaped cs) = some (n, escaped rest) := by
  unfold hex4 at h
  split at h
  · rename_i a b c d rest'
    split at h
    · rename_i a' b' c' d' ha hb hc hd
      cases h
      rw [escaped_keep (hexVal_keep ha), escaped_keep (hexVal_keep hb), escaped_keep
        (hexVal_keep hc),
        escaped_keep (hexVal_keep hd)]
      simp only [hex4, ha, hb, hc, hd]
    · cases h
  · cases h

theorem unicodeEscape_escaped {cs rest : List Char} {c : Char}
    (h : unicodeEscape cs = some (c, rest)) : unicodeEscape (escaped cs) = some
    (c, escaped rest) := by
  unfold unicodeEscape at h ⊢
  cases hhi : hex4 cs with
  | none =>
    rw [hhi] at h
    cases h
  | some p =>
    obtain ⟨hi, r⟩ := p
    rw [hhi] at h
    rw [hex4_escaped hhi]
    simp only at h ⊢
    by_cases hhigh : 0xD800 ≤ hi ∧ hi < 0xDC00
    · rw [if_pos hhigh] at h ⊢
      split at h
      · rename_i r'
        rw [escaped_keep (by decide), escaped_keep (by decide)]
        cases hlo : hex4 r' with
        | none =>
          rw [hlo] at h
          cases h
        | some q =>
          obtain ⟨lo, r''⟩ := q
          rw [hlo] at h
          simp only [hex4_escaped hlo] at h ⊢
          by_cases hlow : 0xDC00 ≤ lo ∧ lo < 0xE000
          · rw [if_pos hlow] at h ⊢
            obtain ⟨hc, hr⟩ := Prod.mk.inj (Option.some.inj h)
            rw [hc, hr]
          · rw [if_neg hlow] at h
            cases h
      · cases h
    · rw [if_neg hhigh] at h ⊢
      by_cases hlone : 0xDC00 ≤ hi ∧ hi < 0xE000
      · rw [if_pos hlone] at h
        cases h
      · rw [if_neg hlone] at h ⊢
        cases h
        rfl

theorem simpleEscape_keep {e c : Char} (h : simpleEscape e = some c) : e.toNat ≤ 126 := by
  unfold simpleEscape at h
  repeat' split at h
  all_goals first | (subst_vars; decide) | cases h

theorem parseStr_escaped {fuel : Nat} {cs s rest : List Char}
    (h : parseStr fuel cs = some (s, rest)) :
    parseStr fuel (escaped cs) = some (s, escaped rest) := by
  induction fuel generalizing cs s rest with
  | zero => cases h
  | succ fuel ih =>
    cases cs with
    | nil => cases h
    | cons c cs =>
      by_cases hquote : c = '"'
      · subst hquote
        rw [escaped_keep (by decide)]
        simp only [parseStr, if_true] at h ⊢
        cases h
        rfl
      by_cases hback : c = '\\'
      · subst hback
        rw [escaped_keep (by decide)]
        conv at h => lhs; unfold parseStr
        rw [if_neg (by decide), if_pos rfl] at h
        conv => lhs; unfold parseStr
        rw [if_neg (by decide), if_pos rfl]
        split at h
        · rename_i r
          rw [escaped_keep (by decide)]
          cases hu : unicodeEscape r with
          | none =>
            rw [hu] at h
            cases h
          | some p =>
            obtain ⟨ch, r'⟩ := p
            rw [hu] at h
            simp only [unicodeEscape_escaped hu] at h ⊢
            obtain ⟨⟨s', r''⟩, hp, heq⟩ := Option.map_eq_some_iff.mp h
            cases heq
            rw [ih hp]
            rfl
        · rename_i e r hne
          cases hs : simpleEscape e with
          | none =>
            rw [hs] at h
            cases h
          | some ch =>
            rw [hs] at h
            simp only at h
            obtain ⟨⟨s', r''⟩, hp, heq⟩ := Option.map_eq_some_iff.mp h
            cases heq
            rw [escaped_keep (simpleEscape_keep hs)]
            split
            · rename_i heq
              obtain ⟨rfl, -⟩ := List.cons.inj heq
              exact (hne rfl).elim
            · rename_i heq
              obtain ⟨rfl, rfl⟩ := List.cons.inj heq
              simp only [hs, ih hp]
              rfl
            · rename_i heq
              cases heq
        · cases h
      · rw [parseStr.eq_def] at h
        simp only [if_neg hquote, if_neg hback] at h
        by_cases hcontrol : c.toNat < 32
        · rw [if_pos hcontrol] at h
          cases h
        rw [if_neg hcontrol] at h
        obtain ⟨⟨s', r'⟩, hp, heq⟩ := Option.map_eq_some_iff.mp h
        cases heq
        by_cases hascii : c.toNat ≤ 126
        · rw [escaped_keep hascii, parseStr.eq_def]
          simp only [if_neg hquote, if_neg hback, if_neg hcontrol, ih hp]
          rfl
        · obtain ⟨text, htext, hu⟩ := unicodeEscape_asciiChar hascii (escaped cs)
          rw [escaped_cons, escapedChar, if_neg hascii, htext]
          conv => lhs; unfold parseStr
          rw [if_neg (by decide), if_pos rfl]
          simp only [hu, ih hp]
          rfl

/-! ### Numbers and the rest -/

theorem isDigit_keep {c : Char} (h : c.isDigit = true) : c.toNat ≤ 126 := by
  have hle : c.toNat ≤ 57 := by
    simp only [Char.isDigit, Bool.and_eq_true, decide_eq_true_eq] at h
    exact h.2
  omega

/-- The first character of an escaped text is its first character, or a backslash. -/
theorem escaped_head (c : Char) (cs : List Char) :
    (c.toNat ≤ 126 ∧ escaped (c :: cs) = c :: escaped cs) ∨
      (¬ c.toNat ≤ 126 ∧ ∃ rest, escaped (c :: cs) = '\\' :: rest) := by
  by_cases h : c.toNat ≤ 126
  · exact Or.inl ⟨h, escaped_keep h cs⟩
  · exact Or.inr ⟨h, escaped_escape h cs⟩

theorem takeDigits_escaped (cs : List Char) :
    takeDigits (escaped cs) = ((takeDigits cs).1, escaped (takeDigits cs).2) := by
  induction cs with
  | nil => rfl
  | cons c cs ih =>
    by_cases hdigit : c.isDigit = true
    · rw [escaped_keep (isDigit_keep hdigit)]
      simp only [takeDigits, hdigit, if_true, ih]
    · have hstop : takeDigits (c :: cs) = ([], c :: cs) := by simp [takeDigits, hdigit]
      rw [hstop]
      rcases escaped_head c cs with ⟨-, hkeep⟩ | ⟨-, rest, hescape⟩
      · simp only [hkeep, takeDigits, if_neg hdigit]
      · simp only [hescape, takeDigits, Char.isDigit]
        rfl

/-- The fraction of a number. -/
def fraction (cs : List Char) : List Char × List Char :=
  match cs with
  | '.' :: rest => let (d, r) := takeDigits rest
    if d = [] then ([], cs) else ('.' :: d, r)
  | _ => ([], cs)

/-- The sign of an exponent. -/
def exponentSign (cs : List Char) : List Char × List Char :=
  match cs with
  | '+' :: r => (['+'], r)
  | '-' :: r => (['-'], r)
  | r => ([], r)

/-- The exponent of a number, after its fraction `f`. -/
def exponent (f cs : List Char) : List Char × List Char :=
  match cs with
  | e :: rest =>
    if e = 'e' ∨ e = 'E' then
      let (sg, r1) := exponentSign rest
      let (d, r2) := takeDigits r1
      if d = [] then (f, cs) else (f ++ e :: sg ++ d, r2)
    else (f, cs)
  | [] => (f, cs)

theorem fracExp_eq (cs : List Char) : fracExp cs = exponent (fraction cs).1 (fraction cs).2 := rfl

theorem fraction_escaped (cs : List Char) :
    fraction (escaped cs) = ((fraction cs).1, escaped (fraction cs).2) := by
  cases cs with
  | nil => rfl
  | cons c cs =>
    by_cases hdot : c = '.'
    · subst hdot
      rw [escaped_keep (by decide)]
      simp only [fraction, takeDigits_escaped]
      by_cases hd : (takeDigits cs).1 = []
      · rw [if_pos hd, if_pos hd, escaped_keep (by decide)]
      · rw [if_neg hd, if_neg hd]
    · have hother : ∀ (c : Char) (cs : List Char), c ≠ '.' → fraction (c :: cs) =
        ([], c :: cs) := by
        intro c cs hc
        unfold fraction
        split
        · rename_i heq
          exact absurd (List.cons.inj heq).1 hc
        · rfl
      rw [hother c cs hdot]
      rcases escaped_head c cs with ⟨-, hkeep⟩ | ⟨-, rest, hescape⟩
      · rw [hkeep, hother c _ hdot]
      · rw [hescape, hother '\\' _ (by decide)]

theorem exponentSign_escaped (cs : List Char) :
    exponentSign (escaped cs) = ((exponentSign cs).1, escaped (exponentSign cs).2) := by
  have hother : ∀ (c : Char) (cs : List Char), c ≠ '+' → c ≠ '-' →
      exponentSign (c :: cs) = ([], c :: cs) := by
    intro c cs hplus hminus
    unfold exponentSign
    split
    · rename_i heq
      exact absurd (List.cons.inj heq).1 hplus
    · rename_i heq
      exact absurd (List.cons.inj heq).1 hminus
    · rfl
  cases cs with
  | nil => rfl
  | cons c cs =>
    by_cases hplus : c = '+'
    · subst hplus
      rw [escaped_keep (by decide)]
      rfl
    by_cases hminus : c = '-'
    · subst hminus
      rw [escaped_keep (by decide)]
      rfl
    rw [hother c cs hplus hminus]
    rcases escaped_head c cs with ⟨-, hkeep⟩ | ⟨-, rest, hescape⟩
    · rw [hkeep, hother c _ hplus hminus]
    · rw [hescape, hother '\\' _ (by decide) (by decide)]

theorem exponent_escaped (f cs : List Char) :
    exponent f (escaped cs) = ((exponent f cs).1, escaped (exponent f cs).2) := by
  cases cs with
  | nil => rfl
  | cons c cs =>
    by_cases he : c = 'e' ∨ c = 'E'
    · have hkeep : c.toNat ≤ 126 := by rcases he with rfl | rfl <;> decide
      rw [escaped_keep hkeep]
      simp only [exponent, if_pos he, exponentSign_escaped, takeDigits_escaped]
      by_cases hd : (takeDigits (exponentSign cs).2).1 = []
      · rw [if_pos hd, if_pos hd, escaped_keep hkeep]
      · rw [if_neg hd, if_neg hd]
    · rcases escaped_head c cs with ⟨-, hkeep⟩ | ⟨-, rest, hescape⟩
      · simp only [hkeep, exponent, if_neg he]
      · simp only [hescape, exponent, if_neg he]
        rw [if_neg (by decide)]

theorem fracExp_escaped (cs : List Char) :
    fracExp (escaped cs) = ((fracExp cs).1, escaped (fracExp cs).2) := by
  rw [fracExp_eq, fracExp_eq, fraction_escaped, exponent_escaped]

/-- The integer part of a number. -/
def integerPart (cs : List Char) : List Char × List Char :=
  match cs with
  | '0' :: rest => (['0'], rest)
  | _ => takeDigits cs

theorem integerPart_escaped (cs : List Char) :
    integerPart (escaped cs) = ((integerPart cs).1, escaped (integerPart cs).2) := by
  have hother : ∀ (c : Char) (cs : List Char), c ≠ '0' →
      integerPart (c :: cs) = takeDigits (c :: cs) := by
    intro c cs hc
    unfold integerPart
    split
    · rename_i heq
      exact absurd (List.cons.inj heq).1 hc
    · rfl
  cases cs with
  | nil => rfl
  | cons c cs =>
    by_cases hzero : c = '0'
    · subst hzero
      rw [escaped_keep (by decide)]
      rfl
    · rw [hother c cs hzero]
      rcases escaped_head c cs with ⟨-, hkeep⟩ | ⟨-, rest, hescape⟩
      · rw [← takeDigits_escaped, hkeep, hother c _ hzero]
      · rw [← takeDigits_escaped, hescape, hother '\\' _ (by decide)]

theorem parseNat_eq (neg : Bool) (cs : List Char) : parseNat neg cs =
    if (integerPart cs).1 = [] then none
    else if (fracExp (integerPart cs).2).1 = [] then
      some (.int (if neg then - (digitsVal 0 (integerPart cs).1 : Int)
        else digitsVal 0 (integerPart cs).1), (fracExp (integerPart cs).2).2)
    else some (.float (String.ofList ((if neg then ['-'] else []) ++ (integerPart cs).1 ++
      (fracExp (integerPart cs).2).1)), (fracExp (integerPart cs).2).2) := rfl

theorem parseNat_escaped {neg : Bool} {cs rest : List Char} {v : Json}
    (h : parseNat neg cs = some (v, rest)) : parseNat neg (escaped cs) = some
    (v, escaped rest) := by
  rw [parseNat_eq] at h ⊢
  rw [integerPart_escaped, fracExp_escaped]
  by_cases hempty : (integerPart cs).1 = []
  · rw [if_pos hempty] at h
    cases h
  rw [if_neg hempty] at h ⊢
  by_cases hint : (fracExp (integerPart cs).2).1 = []
  · rw [if_pos hint] at h ⊢
    cases h
    rfl
  · rw [if_neg hint] at h ⊢
    cases h
    rfl

/-- What a number begins with. -/
theorem parseNat_head {neg : Bool} {cs rest : List Char} {v : Json}
    (h : parseNat neg cs = some (v, rest)) : ∃ d ds, cs = d :: ds ∧ d.isDigit = true := by
  rw [parseNat_eq] at h
  cases cs with
  | nil =>
    have hnone : (integerPart []).1 = [] := rfl
    rw [if_pos hnone] at h
    cases h
  | cons c cs =>
    refine ⟨c, cs, rfl, ?_⟩
    by_cases hzero : c = '0'
    · subst hzero
      rfl
    · by_cases hdigit : c.isDigit = true
      · exact hdigit
      · have hnone : (integerPart (c :: cs)).1 = [] := by
          unfold integerPart
          split
          · rename_i heq
            exact absurd (List.cons.inj heq).1 hzero
          · simp [takeDigits, hdigit]
        rw [if_pos hnone] at h
        cases h

theorem parseLiteral_digit {d : Char} {ds : List Char} (h : d.isDigit = true) :
    parseLiteral (d :: ds) = parseNat false (d :: ds) := by
  unfold parseLiteral
  split <;> first | (rename_i heq; rw [(List.cons.inj heq).1] at h; cases h) | rfl

theorem parseLiteral_minus {d : Char} {ds : List Char} (h : d.isDigit = true) :
    parseLiteral ('-' :: d :: ds) = parseNat true (d :: ds) := by
  unfold parseLiteral
  split
  all_goals first
    | (rename_i heq; rw [(List.cons.inj (List.cons.inj heq).2).1] at h; cases h)
    | (rename_i heq; rw [← (List.cons.inj heq).2])
    | (rename_i hne; exact absurd rfl (hne _))

theorem parseLiteral_escaped {cs rest : List Char} {v : Json}
    (h : parseLiteral cs = some (v, rest)) : parseLiteral (escaped cs) = some
    (v, escaped rest) := by
  have hnat : ∀ {neg : Bool} {cs : List Char}, parseNat neg cs = some (v, rest) →
      ∃ d ds, escaped cs = d :: ds ∧ d.isDigit = true ∧
        parseNat neg (d :: ds) = some (v, escaped rest) := by
    intro neg cs hparse
    obtain ⟨d, ds, rfl, hdigit⟩ := parseNat_head hparse
    have hescaped := parseNat_escaped hparse
    rw [escaped_keep (isDigit_keep hdigit)] at hescaped
    exact ⟨d, escaped ds, escaped_keep (isDigit_keep hdigit) ds, hdigit, hescaped⟩
  unfold parseLiteral at h
  split at h
  · cases h
    rfl
  · cases h
    rfl
  · cases h
    rfl
  · cases h
    rfl
  · cases h
    rfl
  · cases h
    rfl
  · obtain ⟨d, ds, hcs, hdigit, hparse⟩ := hnat h
    rw [escaped_keep (by decide), hcs, parseLiteral_minus hdigit]
    exact hparse
  · obtain ⟨d, ds, hcs, hdigit, hparse⟩ := hnat h
    rw [hcs, parseLiteral_digit hdigit]
    exact hparse

theorem skipWs_escaped (cs : List Char) : skipWs (escaped cs) = escaped (skipWs cs) := by
  induction cs with
  | nil => rfl
  | cons c cs ih =>
    by_cases hws : c = ' ' ∨ c = '\t' ∨ c = '\n' ∨ c = '\r'
    · have hkeep : c.toNat ≤ 126 := by rcases hws with rfl | rfl | rfl | rfl <;> decide
      rw [escaped_keep hkeep, skipWs, if_pos hws, skipWs, if_pos hws, ih]
    · have hstop : skipWs (c :: cs) = c :: cs := by rw [skipWs, if_neg hws]
      rw [hstop]
      rcases escaped_head c cs with ⟨-, hkeep⟩ | ⟨-, rest, hescape⟩
      · rw [hkeep, skipWs, if_neg hws]
      · rw [hescape, skipWs, if_neg (by decide)]

/-! ### Values -/

/-- Neither the escaped text begins with an ASCII character that the text does not begin with. -/
theorem escaped_ne {cs : List Char} {c : Char} (hc : c.toNat ≤ 126) (hback : c ≠ '\\')
    (h : ∀ rest, cs = c :: rest → False) {rest : List Char} : escaped cs ≠ c :: rest := by
  intro heq
  cases cs with
  | nil => cases heq
  | cons d ds =>
    rcases escaped_head d ds with ⟨-, hkeep⟩ | ⟨-, text, hescape⟩
    · rw [hkeep] at heq
      obtain ⟨rfl, -⟩ := List.cons.inj heq
      exact h ds rfl
    · rw [hescape] at heq
      exact hback (List.cons.inj heq).1.symm

theorem escaped_skipWs_ne {cs : List Char} {c : Char} (hc : c.toNat ≤ 126) (hback : c ≠ '\\')
    (h : ∀ rest, skipWs cs = c :: rest → False) {rest : List Char} :
    skipWs (escaped cs) ≠ c :: rest := by
  rw [skipWs_escaped]
  exact escaped_ne hc hback h

/-- What the decoder reads from a text with this fuel, it reads from the escaped text. -/
structure ReadsEscaped (fuel : Nat) : Prop where
  value : ∀ {cs v rest}, parse fuel cs = some (v, rest) →
    parse fuel (escaped cs) = some (v, escaped rest)
  items : ∀ {cs l rest}, parseItems fuel cs = some (l, rest) →
    parseItems fuel (escaped cs) = some (l, escaped rest)
  fields : ∀ {acc cs l rest}, parseFields fuel acc cs = some (l, rest) →
    parseFields fuel acc (escaped cs) = some (l, escaped rest)

/-- The first character behind the white space, when it is an ASCII one. -/
theorem skipWs_escaped_cons {cs rest : List Char} {c : Char} (h : skipWs cs = c :: rest)
    (hc : c.toNat ≤ 126) : skipWs (escaped cs) = c :: escaped rest := by
  rw [skipWs_escaped, h, escaped_keep hc]

theorem readsEscaped (fuel : Nat) : ReadsEscaped fuel := by
  induction fuel with
  | zero => exact ⟨(fun h => nomatch h), (fun h => nomatch h), (fun h => nomatch h)⟩
  | succ fuel ih =>
    refine ⟨?_, ?_, ?_⟩
    · intro cs v rest h
      unfold parse at h
      split at h
      · rename_i r
        rw [escaped_keep (by decide)]
        obtain ⟨⟨s, r'⟩, hp, hv⟩ := Option.map_eq_some_iff.mp h
        cases hv
        simp only [parse, parseStr_escaped hp]
        rfl
      · rename_i r
        rw [escaped_keep (by decide)]
        simp only [parse]
        split at h
        · rename_i r' heq
          rw [skipWs_escaped_cons heq (by decide)]
          cases h
          rfl
        · rename_i hne
          obtain ⟨⟨l, r'⟩, hp, hv⟩ := Option.map_eq_some_iff.mp h
          cases hv
          have hitems := ih.items hp
          rw [← skipWs_escaped] at hitems
          split
          · rename_i heq
            exact absurd heq (escaped_skipWs_ne (by decide) (by decide) hne)
          · rw [hitems]
            rfl
      · rename_i r
        rw [escaped_keep (by decide)]
        simp only [parse]
        split at h
        · rename_i r' heq
          rw [skipWs_escaped_cons heq (by decide)]
          cases h
          rfl
        · rename_i hne
          obtain ⟨⟨l, r'⟩, hp, hv⟩ := Option.map_eq_some_iff.mp h
          cases hv
          have hfields := ih.fields hp
          rw [← skipWs_escaped] at hfields
          split
          · rename_i heq
            exact absurd heq (escaped_skipWs_ne (by decide) (by decide) hne)
          · rw [hfields]
            rfl
      · rename_i hquote hbracket hbrace
        have hescaped := parseLiteral_escaped h
        unfold parse
        split
        · rename_i r heq
          exact absurd heq (escaped_ne (by decide) (by decide) hquote)
        · rename_i r heq
          exact absurd heq (escaped_ne (by decide) (by decide) hbracket)
        · rename_i r heq
          exact absurd heq (escaped_ne (by decide) (by decide) hbrace)
        · exact hescaped
    · intro cs l rest h
      rw [parseItems] at h ⊢
      cases hv : parse fuel cs with
      | none =>
        rw [hv] at h
        cases h
      | some p =>
        obtain ⟨v, r⟩ := p
        rw [hv] at h
        rw [ih.value hv]
        simp only at h ⊢
        split at h
        · rename_i r' heq
          rw [skipWs_escaped_cons heq (by decide)]
          obtain ⟨⟨l', r''⟩, hp, hl⟩ := Option.map_eq_some_iff.mp h
          cases hl
          simp only [skipWs_escaped, ih.items hp]
          rfl
        · rename_i r' heq
          rw [skipWs_escaped_cons heq (by decide)]
          cases h
          rfl
        · cases h
    · intro acc cs l rest h
      unfold parseFields at h
      split at h
      · rename_i r
        rw [escaped_keep (by decide)]
        cases hk : parseStr fuel r with
        | none =>
          rw [hk] at h
          cases h
        | some p =>
          obtain ⟨k, r₁⟩ := p
          rw [hk] at h
          simp only [parseFields, parseStr_escaped hk] at h ⊢
          split at h
          · rename_i r₂ hcolon
            rw [skipWs_escaped_cons hcolon (by decide)]
            simp only [skipWs_escaped]
            cases hv : parse fuel (skipWs r₂) with
            | none =>
              rw [hv] at h
              cases h
            | some q =>
              obtain ⟨v, r₃⟩ := q
              rw [hv] at h
              rw [ih.value hv]
              simp only at h ⊢
              split at h
              · rename_i r₄ hcomma
                rw [skipWs_escaped_cons hcomma (by decide)]
                simp only [skipWs_escaped]
                exact ih.fields h
              · rename_i r₄ hbrace
                rw [skipWs_escaped_cons hbrace (by decide)]
                cases h
                rfl
              · cases h
          · cases h
      · cases h

/-- What a text reads as, the escaped text reads as. -/
theorem parse_escaped {fuel : Nat} {cs rest : List Char} {v : Json}
    (h : parse fuel cs = some (v, rest)) : parse fuel (escaped cs) = some (v, escaped rest) :=
  (readsEscaped fuel).value h

/-! ## The round trip -/

/-- No control character stands in the text as it is. -/
def Printable (cs : List Char) : Prop := ∀ c ∈ cs, 32 ≤ c.toNat

instance (cs : List Char) : Decidable (Printable cs) :=
  List.decidableBAll (fun c : Char => 32 ≤ c.toNat) cs

theorem Printable.append {cs cs' : List Char} (h : Printable cs) (h' : Printable cs') :
    Printable (cs ++ cs') := fun c hc => (List.mem_append.mp hc).elim (h c) (h' c)

theorem Printable.cons {c : Char} {cs : List Char} (hc : 32 ≤ c.toNat) (h : Printable cs) :
    Printable (c :: cs) := by
  intro c' hc'
  rcases List.mem_cons.mp hc' with rfl | hc'
  · exact hc
  · exact h c' hc'

theorem printable_nil : Printable [] := fun _ h => nomatch h

theorem printable_commaJoin {l : List (List Char)} (h : ∀ cs ∈ l, Printable cs) :
    Printable (commaJoin l) := by
  induction l with
  | nil => exact printable_nil
  | cons cs rest ih =>
    cases rest with
    | nil => exact h cs (List.mem_singleton_self _)
    | cons cs' rest =>
      refine (h cs (List.mem_cons_self ..)).append (Printable.cons (by decide) ?_)
      exact ih fun cs'' hcs => h cs'' (List.mem_cons_of_mem _ hcs)

theorem hexDigit_printable {n : Nat} (h : n < 16) : 32 ≤ (hexDigit n).toNat := by
  have hall : ∀ i : Fin 16, 32 ≤ (hexDigit i.val).toNat := by decide
  exact hall ⟨n, h⟩

theorem printable_escapeChar (c : Char) : Printable (escapeChar c) := by
  unfold escapeChar
  repeat' split
  all_goals first
    | decide
    | skip
  · refine Printable.cons (by decide) (Printable.cons (by decide) (Printable.cons (by decide)
      (Printable.cons (by decide) ?_)))
    exact Printable.cons (hexDigit_printable (by omega))
      (Printable.cons (hexDigit_printable (by omega)) printable_nil)
  · exact Printable.cons (by omega) printable_nil

theorem printable_quote (s : String) : Printable (quote s) := by
  refine Printable.cons (by decide) (Printable.append ?_ (Printable.cons (by decide) printable_nil))
  intro c hc
  obtain ⟨d, -, hd⟩ := List.mem_flatMap.mp hc
  exact printable_escapeChar d c hd

theorem printable_render (v : Json) (hf : v.noFloat = true) : Printable (render v) := by
  induction v using induct with
  | null => decide
  | bool b => cases b <;> decide
  | int n =>
    rw [render_int]
    intro c hc
    have hdigits : ∀ m, ∀ c ∈ Nat.toDigits 10 m, 32 ≤ c.toNat := by
      intro m c hc
      have hdigit : c.isDigit = true := Nat.isDigit_of_mem_toDigits (by omega) (by omega) hc
      simp only [Char.isDigit, Bool.and_eq_true, decide_eq_true_eq] at hdigit
      have hle : 48 ≤ c.toNat := hdigit.1
      omega
    rcases List.mem_append.mp hc with hsign | hc
    · by_cases hn : 0 ≤ n
      · rw [if_pos hn] at hsign
        cases hsign
      · rw [if_neg hn] at hsign
        cases List.mem_singleton.mp hsign
        decide
    · exact hdigits _ c hc
  | float t => cases hf
  | str s => exact printable_quote s
  | arr items ih =>
    rw [noFloat, noFloatItems_iff] at hf
    rw [render, renderItems_eq]
    refine Printable.cons (by decide) (Printable.append (printable_commaJoin ?_)
      (Printable.cons (by decide) printable_nil))
    intro cs hcs
    obtain ⟨v, hv, rfl⟩ := List.mem_map.mp hcs
    exact ih v hv (hf v hv)
  | obj fields ih =>
    rw [noFloat, noFloatFields_iff] at hf
    rw [render, renderFields_eq]
    refine Printable.cons (by decide) (Printable.append (printable_commaJoin ?_)
      (Printable.cons (by decide) printable_nil))
    intro cs hcs
    obtain ⟨q, hq, rfl⟩ := List.mem_map.mp hcs
    obtain ⟨p, hp, rfl⟩ := List.mem_map.mp ((sortKeys_perm _).mem_iff.mp hq)
    exact (printable_quote p.1).append (Printable.cons (by decide) (ih p hp (hf p hp)))

theorem dumps_eq_escaped {v : Json} (hf : v.noFloat = true) : dumps v = escaped (render v) := by
  have hchar : ∀ c ∈ render v, asciiChar c = escapedChar c := by
    intro c hc
    have hprintable := printable_render v hf c hc
    unfold escapedChar
    by_cases hascii : c.toNat ≤ 126
    · rw [if_pos hascii, asciiChar, if_pos ⟨hprintable, hascii⟩]
    · rw [if_neg hascii]
  exact List.flatMap_congr hchar

/-- The ASCII text is read back. -/
theorem loads_dumps {v : Json} (hf : v.noFloat = true) (hd : v.distinctKeys) :
    loads (dumps v) = some (sorted v) := by
  have hlength : (render v).length ≤ (escaped (render v)).length := by
    generalize render v = cs
    induction cs with
    | nil => exact Nat.le_refl _
    | cons c cs ih =>
      rcases escaped_head c cs with ⟨-, hkeep⟩ | ⟨hnot, rest, hescape⟩
      · rw [hkeep, List.length_cons, List.length_cons]
        omega
      · rw [escaped_cons, List.length_append, List.length_cons]
        have hone : 1 ≤ (escapedChar c).length := by
          rw [escapedChar, if_neg hnot, asciiChar, if_neg (fun h => hnot h.2)]
          split <;> simp [unicodeEscaped]
        omega
  obtain ⟨c, cs, hc, hopens⟩ := render_opens v hf
  have hskip : skipWs (render v) = render v := by rw [hc, skipWs_opens hopens]
  have hparse := parse_render v hf hd (2 * (escaped (render v)).length + 2) [] (by omega) trivial
  rw [List.append_nil] at hparse
  rw [dumps_eq_escaped hf, loads, skipWs_escaped, hskip, parse_escaped hparse]
  simp [skipWs]

end Adcp.L1.Json
