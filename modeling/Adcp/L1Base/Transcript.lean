import Adcp.L1Base.Script
/-!
# Transcripts of a program

What a program does is settled by the answers it gets. A transcript is the list of its calls
with their answers; nothing is assumed of what answers them.

* `Transcript`: the program makes these calls, gets these answers, and ends so.
* `transcript_bind`, `transcript_attempt`, `transcript_invoke`: the transcripts of a program from
  those of its parts.
* `Within.transcript`: the calls in a transcript are ones the program may make.
* `Meets.transcript`: a transcript is as the program meets it in a world that notes the calls.
* `rehearse`: the transcript with an answerer that can be computed.
-/
namespace Adcp.L1.Script

variable {ε ι α β : Type} {ρ : ι → Type}

/-- A call with its answer. -/
structure Answered (ε : Type) {ι : Type} (ρ : ι → Type) where
  made : ι
  answer : Except ε (ρ made)

/-- Answered so, the program ends with `r` and has made no other calls. -/
def Transcript : Script ε ρ α → List (Answered ε ρ) → Except ε α → Prop
  | done r, log, r' => log = [] ∧ r' = r
  | call c k, log, r => ∃ a rest, log = ⟨c, a⟩ :: rest ∧ Transcript (k a) rest r

variable {log : List (Answered ε ρ)} {r : Except ε α}

theorem transcript_done {r' : Except ε α} :
    Transcript (done r : Script ε ρ α) log r' ↔ log = [] ∧ r' = r := Iff.rfl

theorem transcript_pure {a : α} :
    Transcript (pure a : Script ε ρ α) log r ↔ log = [] ∧ r = .ok a := Iff.rfl

theorem transcript_fail {e : ε} :
    Transcript (fail e : Script ε ρ α) log r ↔ log = [] ∧ r = .error e := Iff.rfl

theorem transcript_invoke {c : ι} {r : Except ε (ρ c)} :
    Transcript (invoke c) log r ↔ log = [⟨c, r⟩] := by
  constructor
  · rintro ⟨a, rest, rfl, rfl, rfl⟩
    rfl
  · rintro rfl
    exact ⟨r, [], rfl, rfl, rfl⟩

/-- The first part raises, or it returns and the rest goes on. -/
theorem transcript_bind {x : Script ε ρ β} {f : β → Script ε ρ α} :
    Transcript (x >>= f) log r ↔
      (∃ e, Transcript x log (.error e) ∧ r = .error e) ∨
      ∃ b first rest, log = first ++ rest ∧ Transcript x first (.ok b) ∧
        Transcript (f b) rest r := by
  induction x generalizing log with
  | done r' =>
    cases r' with
    | ok b =>
      constructor
      · exact fun h => Or.inr ⟨b, [], log, rfl, ⟨rfl, rfl⟩, h⟩
      · rintro (⟨e, ⟨-, he⟩, -⟩ | ⟨b', first, rest, rfl, ⟨rfl, hb⟩, h⟩)
        · exact nomatch he
        · cases hb
          exact h
    | error e =>
      constructor
      · rintro ⟨rfl, rfl⟩
        exact Or.inl ⟨e, ⟨rfl, rfl⟩, rfl⟩
      · rintro (⟨e', ⟨rfl, he⟩, rfl⟩ | ⟨b', first, rest, -, ⟨-, hb⟩, -⟩)
        · cases he
          exact ⟨rfl, rfl⟩
        · exact nomatch hb
  | call c k ih =>
    constructor
    · rintro ⟨a, rest, rfl, h⟩
      rcases (ih a).mp h with ⟨e, he, rfl⟩ | ⟨b, first, rest', rfl, hb, h⟩
      · exact Or.inl ⟨e, ⟨a, rest, rfl, he⟩, rfl⟩
      · exact Or.inr ⟨b, ⟨c, a⟩ :: first, rest', rfl, ⟨a, first, rfl, hb⟩, h⟩
    · rintro (⟨e, ⟨a, rest, rfl, he⟩, rfl⟩ | ⟨b, first, rest, rfl, ⟨a, first', rfl, hb⟩, h⟩)
      · exact ⟨a, rest, rfl, (ih a).mpr (Or.inl ⟨e, he, rfl⟩)⟩
      · exact ⟨a, first' ++ rest, rfl, (ih a).mpr (Or.inr ⟨b, first', rest, rfl, hb, h⟩)⟩

/-- A transcript that returns, of a program in two parts. -/
theorem transcript_bind_ok {x : Script ε ρ β} {f : β → Script ε ρ α} {a : α} :
    Transcript (x >>= f) log (.ok a) ↔ ∃ b first rest, log = first ++ rest ∧
      Transcript x first (.ok b) ∧ Transcript (f b) rest (.ok a) := by
  rw [transcript_bind]
  constructor
  · rintro (⟨e, -, he⟩ | h)
    · exact nomatch he
    · exact h
  · exact Or.inr

theorem transcript_attempt {x : Script ε ρ α} {r : Except ε (Except ε α)} :
    Transcript x.attempt log r ↔ ∃ r', Transcript x log r' ∧ r = .ok r' := by
  induction x generalizing log with
  | done r' =>
    constructor
    · rintro ⟨rfl, rfl⟩
      exact ⟨r', ⟨rfl, rfl⟩, rfl⟩
    · rintro ⟨_, ⟨rfl, rfl⟩, rfl⟩
      exact ⟨rfl, rfl⟩
  | call c k ih =>
    constructor
    · rintro ⟨a, rest, rfl, h⟩
      obtain ⟨r', h', rfl⟩ := (ih a).mp h
      exact ⟨r', ⟨a, rest, rfl, h'⟩, rfl⟩
    · rintro ⟨r', ⟨a, rest, rfl, h⟩, rfl⟩
      exact ⟨a, rest, rfl, (ih a).mpr ⟨r', h, rfl⟩⟩

/-- A call that answers, and what comes after it. -/
theorem transcript_invoke_bind {c : ι} {f : ρ c → Script ε ρ α} {a : α} :
    Transcript (invoke c >>= f) log (.ok a) ↔
      ∃ b rest, log = ⟨c, .ok b⟩ :: rest ∧ Transcript (f b) rest (.ok a) := by
  rw [transcript_bind_ok]
  constructor
  · rintro ⟨b, first, rest, rfl, hfirst, h⟩
    rw [transcript_invoke.mp hfirst]
    exact ⟨b, rest, rfl, h⟩
  · rintro ⟨b, rest, rfl, h⟩
    exact ⟨b, [⟨c, .ok b⟩], rest, rfl, transcript_invoke.mpr rfl, h⟩

/-- A call under `try`. -/
theorem transcript_attempt_bind {c : ι} {f : Except ε (ρ c) → Script ε ρ α} :
    Transcript ((invoke c).attempt >>= f) log r ↔
      ∃ a rest, log = ⟨c, a⟩ :: rest ∧ Transcript (f a) rest r := by
  rw [transcript_bind]
  constructor
  · rintro (⟨e, he, -⟩ | ⟨a, first, rest, rfl, hfirst, h⟩)
    · obtain ⟨r', -, hr'⟩ := transcript_attempt.mp he
      exact nomatch hr'
    · obtain ⟨r', hr', heq⟩ := transcript_attempt.mp hfirst
      obtain rfl := Except.ok.inj heq
      rw [transcript_invoke.mp hr']
      exact ⟨a, rest, rfl, h⟩
  · rintro ⟨a, rest, rfl, h⟩
    exact Or.inr ⟨a, [⟨c, a⟩], rest, rfl,
      transcript_attempt.mpr ⟨a, transcript_invoke.mpr rfl, rfl⟩, h⟩

/-- A program that ends by raising does not return. -/
theorem not_transcript_fail {x : Script ε ρ β} {g : β → ε} {a : α} :
    ¬ Transcript (x >>= fun b => fail (g b)) log (.ok a) := by
  rw [transcript_bind_ok]
  rintro ⟨b, first, rest, -, -, h⟩
  exact nomatch (transcript_fail.mp h).2

/-- One thing after the other, each with its part of the log. -/
inductive InTurn {E : Type} (R : β → List E → Prop) : List β → List E → Prop
  | nil : InTurn R [] []
  | cons {b : β} {bs : List β} {x y : List E} (first : R b x) (rest : InTurn R bs y) :
      InTurn R (b :: bs) (x ++ y)

theorem Within.transcript {P : ι → Prop} {x : Script ε ρ α} (hx : Within P x)
    (h : Transcript x log r) : ∀ e ∈ log, P e.made := by
  induction x generalizing log with
  | done r' =>
    obtain ⟨rfl, -⟩ := h
    exact fun _ he => nomatch he
  | call c k ih =>
    obtain ⟨a, rest, rfl, h⟩ := h
    intro e he
    rcases List.mem_cons.mp he with rfl | he
    · exact hx.1
    · exact ih a (hx.2 a) h e he

/-! ## Noting the calls -/

section Noting

variable {ω : Type} (note : ω → Answered ε ρ → ω)

/-- The world that does nothing but note the calls. -/
def noting (w : ω) (c : ι) (a : Except ε (ρ c)) (w' : ω) : Prop := w' = note w ⟨c, a⟩

variable {note}

/-- What a program meets in a world that notes its calls, every transcript of it shows. -/
theorem Meets.transcript {ok : ω → ι → Prop} {post : Except ε α → ω → Prop} {x : Script ε ρ α}
    {w : ω} (hx : Meets (noting note) ok x post w) (h : Transcript x log r) :
    (∀ before e after, log = before ++ e :: after → ok (before.foldl note w) e.made) ∧
      post r (log.foldl note w) := by
  induction x generalizing w log with
  | done r' =>
    obtain ⟨rfl, rfl⟩ := h
    exact ⟨fun before e after hlog => absurd hlog (by simp), hx⟩
  | call c k ih =>
    obtain ⟨a, rest, rfl, h⟩ := h
    obtain ⟨heach, hpost⟩ := ih a (hx.2 a _ rfl) h
    refine ⟨fun before e after hlog => ?_, hpost⟩
    cases before with
    | nil =>
      cases hlog
      exact hx.1
    | cons first before =>
      obtain ⟨rfl, hrest⟩ := List.cons.inj hlog
      exact heach before e after hrest

end Noting

/-! ## With an answerer -/

/-- The transcript of at most `n` calls; an answer may depend on those before it. -/
def rehearse (answer : List (Answered ε ρ) → (c : ι) → Except ε (ρ c)) :
    Nat → Script ε ρ α → List (Answered ε ρ) → Option (List (Answered ε ρ) × Except ε α)
  | _, done r, _ => some ([], r)
  | 0, call _ _, _ => none
  | n + 1, call c k, before =>
    (rehearse answer n (k (answer before c)) (before ++ [⟨c, answer before c⟩])).map
      fun (log, r) => (⟨c, answer before c⟩ :: log, r)

theorem rehearse_transcript {answer : List (Answered ε ρ) → (c : ι) → Except ε (ρ c)} {n : Nat}
    {x : Script ε ρ α} {before : List (Answered ε ρ)}
    (h : rehearse answer n x before = some (log, r)) : Transcript x log r := by
  induction n generalizing x before log with
  | zero =>
    cases x with
    | done r' =>
      cases h
      exact ⟨rfl, rfl⟩
    | call c k => cases h
  | succ n ih =>
    cases x with
    | done r' =>
      cases h
      exact ⟨rfl, rfl⟩
    | call c k =>
      obtain ⟨⟨log', r'⟩, hrest, heq⟩ := Option.map_eq_some_iff.mp h
      cases heq
      exact ⟨answer before c, log', rfl, ih hrest⟩

end Adcp.L1.Script
