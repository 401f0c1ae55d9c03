import Adcp.L1Base.TextLines
/-!
# Where the statements of an SQL script end

`sqlite3_complete` reads a text token by token and says whether it ends where a statement may end.
Here it is a machine that reads one character at a time, so that a text can be read in pieces.

* `State.step`, `run`: the machine; `ends` counts the semicolons that end a statement.
* `complete`: `sqlite3_complete`.
* `chunks`: lines are collected until they are complete.
* `chunks_flatten`, `chunks_ends`: nothing is lost, no end of a statement either.
* `chunks_single`: where no line holds two statements, a chunk is one statement.
-/
namespace Adcp.L1.SqlScript

open TextLines

/-! ## The machine -/

/-- Where a statement stands. `START` is behind an end, `INVALID` at the beginning of the text, and
the last three are inside the body of a trigger. -/
inductive Phase where
  | INVALID | START | NORMAL | EXPLAIN | CREATE | TRIGGER | SEMI | END
  deriving DecidableEq, Repr

inductive Token where
  | SEMI | WS | OTHER | EXPLAIN | CREATE | TEMP | TRIGGER | END
  deriving DecidableEq, Repr

def Phase.next : Phase → Token → Phase
  | .INVALID, .WS => .INVALID
  | .INVALID, .SEMI => .START
  | .INVALID, .EXPLAIN => .EXPLAIN
  | .INVALID, .CREATE => .CREATE
  | .INVALID, _ => .NORMAL
  | .START, .WS => .START
  | .START, .SEMI => .START
  | .START, .EXPLAIN => .EXPLAIN
  | .START, .CREATE => .CREATE
  | .START, _ => .NORMAL
  | .NORMAL, .SEMI => .START
  | .NORMAL, _ => .NORMAL
  | .EXPLAIN, .SEMI => .START
  | .EXPLAIN, .WS => .EXPLAIN
  | .EXPLAIN, .OTHER => .EXPLAIN
  | .EXPLAIN, .CREATE => .CREATE
  | .EXPLAIN, _ => .NORMAL
  | .CREATE, .SEMI => .START
  | .CREATE, .WS => .CREATE
  | .CREATE, .TEMP => .CREATE
  | .CREATE, .TRIGGER => .TRIGGER
  | .CREATE, _ => .NORMAL
  | .TRIGGER, .SEMI => .SEMI
  | .TRIGGER, _ => .TRIGGER
  | .SEMI, .SEMI => .SEMI
  | .SEMI, .WS => .SEMI
  | .SEMI, .END => .END
  | .SEMI, _ => .TRIGGER
  | .END, .SEMI => .START
  | .END, .WS => .END
  | .END, _ => .TRIGGER

/-- What a token has begun with. -/
inductive Lex where
  | code
  | word (w : List Char)
  | slash
  | dash
  | line
  | block
  | star
  | quoted (close : Char)
  deriving DecidableEq, Repr

structure State where
  phase : Phase
  lex : Lex
  ends : Nat
  deriving DecidableEq, Repr

/-- Before the text. -/
def State.fresh : State := ⟨.INVALID, .code, 0⟩

def keyword (w : List Char) : Token :=
  if w = "create".toList then .CREATE
  else if w = "trigger".toList then .TRIGGER
  else if w = "temp".toList ∨ w = "temporary".toList then .TEMP
  else if w = "end".toList then .END
  else if w = "explain".toList then .EXPLAIN
  else .OTHER

def isIdChar (c : Char) : Bool := c.isAlphanum || c = '_' || c = '$' || 128 ≤ c.toNat

def isSqlSpace (c : Char) : Bool :=
  c = ' ' || c = '\r' || c = '\t' || c = '\n' || c = '\x0c'

namespace State

/-- A token is read. -/
def token (s : State) (t : Token) : State :=
  ⟨s.phase.next t, .code, s.ends + if t = .SEMI ∧ s.phase.next t = .START then 1 else 0⟩

/-- The character that a token may begin with. -/
def first (s : State) (c : Char) : State :=
  if c = ';' then s.token .SEMI
  else if isSqlSpace c then s.token .WS
  else if c = '/' then { s with lex := .slash }
  else if c = '-' then { s with lex := .dash }
  else if c = '[' then { s with lex := .quoted ']' }
  else if c = '\x60' ∨ c = '"' ∨ c = '\'' then { s with lex := .quoted c }
  else if isIdChar c then { s with lex := .word [c.toLower] }
  else s.token .OTHER

def step (s : State) (c : Char) : State :=
  match s.lex with
  | .code => s.first c
  | .word w =>
    if isIdChar c then { s with lex := .word (w ++ [c.toLower]) } else (s.token (keyword w)).first c
  | .slash => if c = '*' then { s with lex := .block } else (s.token .OTHER).first c
  | .dash => if c = '-' then { s with lex := .line } else (s.token .OTHER).first c
  | .line => if c = '\n' then s.token .WS else s
  | .block => if c = '*' then { s with lex := .star } else s
  | .star =>
    if c = '/' then s.token .WS else if c = '*' then s else { s with lex := .block }
  | .quoted close => if c = close then s.token .OTHER else s

def run (s : State) (text : List Char) : State := text.foldl step s

/-- The text so far may stop here: an open line comment is white space. -/
def Complete (s : State) : Prop := s.phase = .START ∧ (s.lex = .code ∨ s.lex = .line)

instance (s : State) : Decidable s.Complete := inferInstanceAs (Decidable (_ ∧ _))

end State

/-- `sqlite3.complete_statement(text)` of a text without NUL. -/
def complete (text : List Char) : Bool := decide (State.fresh.run text).Complete

/-- The ends of statements in a text. -/
def ends (text : List Char) : Nat := (State.fresh.run text).ends

namespace State

@[simp]
theorem run_nil (s : State) : s.run [] = s := rfl

@[simp]
theorem run_cons (s : State) (c : Char) (text : List Char) :
    s.run (c :: text) = (s.step c).run text := rfl

theorem run_append (s : State) (x y : List Char) : s.run (x ++ y) = (s.run x).run y :=
  List.foldl_append

/-- A relation of states that read the same kind of token is kept by a character when it is kept by
a whole token. -/
theorem step_related {R : State → State → Prop} (hsame : ∀ {s t}, R s t → t.lex = s.lex)
    (hlex : ∀ {s t}, R s t → ∀ lex, R { s with lex := lex } { t with lex := lex })
    (htoken : ∀ {s t}, R s t → ∀ tok, R (s.token tok) (t.token tok)) {s t : State} (h : R s t)
    (c : Char) : R (s.step c) (t.step c) := by
  have hfirst : ∀ {s t : State}, R s t → R (s.first c) (t.first c) := by
    intro s t h
    unfold State.first
    split
    · exact htoken h .SEMI
    split
    · exact htoken h .WS
    split
    · exact hlex h _
    split
    · exact hlex h _
    split
    · exact hlex h _
    split
    · exact hlex h _
    split
    · exact hlex h _
    · exact htoken h .OTHER
  unfold State.step
  rw [hsame h]
  cases s.lex with
  | code => exact hfirst h
  | word w =>
    simp only
    split
    · exact hlex h _
    · exact hfirst (htoken h _)
  | slash =>
    simp only
    split
    · exact hlex h _
    · exact hfirst (htoken h _)
  | dash =>
    simp only
    split
    · exact hlex h _
    · exact hfirst (htoken h _)
  | line =>
    simp only
    split
    · exact htoken h .WS
    · exact h
  | block =>
    simp only
    split
    · exact hlex h _
    · exact h
  | star =>
    simp only
    split
    · exact htoken h .WS
    split
    · exact h
    · exact hlex h _
  | quoted close =>
    simp only
    split
    · exact htoken h .OTHER
    · exact h

/-- A line comment ends with its line. -/
theorem step_newline (s : State) : (s.step '\n').lex ≠ .line := by
  have hfirst : ∀ t : State, (t.first '\n').lex ≠ .line := fun t => by
    simp [State.first, isSqlSpace, State.token]
  unfold State.step
  cases hlex : s.lex with
  | code => exact hfirst s
  | word w =>
    simp only [show isIdChar '\n' = false by decide]
    exact hfirst _
  | slash => exact hfirst _
  | dash => exact hfirst _
  | line => simp [State.token]
  | block => simp [hlex]
  | star => simp
  | quoted close =>
    simp only
    split
    · simp [State.token]
    · simp [hlex]

/-! ## A new beginning -/

/-- `t` is `s` with `n` ends before it; `INVALID` and `START` are one to what follows. -/
structure Behind (n : Nat) (s t : State) : Prop where
  lex : t.lex = s.lex
  ends : t.ends = s.ends + n
  phase : t.phase = s.phase ∨ s.phase = .INVALID ∧ t.phase = .START

theorem Behind.token {n : Nat} {s t : State} (h : Behind n s t) (tok : Token) :
    Behind n (s.token tok) (t.token tok) := by
  obtain ⟨hlex, hends, hphase⟩ := h
  rcases hphase with hphase | ⟨hs, ht⟩
  · refine ⟨rfl, ?_, Or.inl ?_⟩
    · unfold State.token
      simp only [hphase, hends]
      omega
    · unfold State.token
      simp only [hphase]
  · unfold State.token
    rw [hs, ht]
    cases tok
    case WS => exact ⟨rfl, by simpa [Phase.next] using hends, Or.inr ⟨rfl, rfl⟩⟩
    case SEMI =>
      refine ⟨rfl, ?_, Or.inl rfl⟩
      simp only [Phase.next, and_self, if_true]
      omega
    all_goals exact ⟨rfl, by simpa [Phase.next] using hends, Or.inl rfl⟩

theorem Behind.step {n : Nat} {s t : State} (h : Behind n s t) (c : Char) :
    Behind n (s.step c) (t.step c) :=
  step_related Behind.lex (fun h _ => ⟨rfl, h.ends, h.phase⟩) Behind.token h c

theorem Behind.run {n : Nat} {s t : State} (h : Behind n s t) (text : List Char) :
    Behind n (s.run text) (t.run text) := by
  induction text generalizing s t with
  | nil => exact h
  | cons c text ih => exact ih (h.step c)

/-- Behind an end, a text is read as from the beginning. -/
theorem behind_start {s : State} (hphase : s.phase = .START) (hlex : s.lex = .code) :
    Behind s.ends .fresh s :=
  ⟨hlex, by simp [State.fresh], Or.inr ⟨rfl, hphase⟩⟩

/-! ## Reachable states -/

/-- `INVALID` is left for good at the first token, and `START` is entered at an end. -/
def Sound (s : State) : Prop :=
  (s.phase = .START → 1 ≤ s.ends) ∧ (s.phase = .INVALID → s.ends = 0)

theorem Sound.lex {s : State} (h : Sound s) (lex : Lex) : Sound { s with lex := lex } := h

theorem Sound.token {s : State} (h : Sound s) (tok : Token) : Sound (s.token tok) := by
  obtain ⟨phase, lex, n⟩ := s
  obtain ⟨hstart, hinvalid⟩ := h
  unfold Sound State.token
  cases phase <;> cases tok <;> simp [Phase.next] at hstart hinvalid ⊢ <;> omega

theorem Sound.step {s : State} (h : Sound s) (c : Char) : Sound (s.step c) := by
  refine (@step_related (fun s t => t = s ∧ Sound s) ?_ ?_ ?_ s s ⟨rfl, h⟩ c).2
  · intro s t h
    rw [h.1]
  · intro s t h lex
    exact ⟨by rw [h.1], h.2.lex lex⟩
  · intro s t h tok
    exact ⟨by rw [h.1], h.2.token tok⟩

theorem Sound.run {s : State} (h : Sound s) (text : List Char) : Sound (s.run text) := by
  induction text generalizing s with
  | nil => exact h
  | cons c text ih => exact ih (h.step c)

theorem sound_fresh : Sound .fresh := by
  unfold Sound fresh
  simp

end State

/-! ## Lines -/

/-- `str.splitlines(keepends=True)`, behind the line that has begun. -/
def keepFrom (buf : List Char) : List Char → List (List Char)
  | [] => if buf = [] then [] else [buf]
  | '\r' :: '\n' :: rest => (buf ++ ['\r', '\n']) :: keepFrom [] rest
  | c :: rest =>
    if isBoundary c then (buf ++ [c]) :: keepFrom [] rest else keepFrom (buf ++ [c]) rest

/-- `text.splitlines(keepends=True)` -/
def keepLines (text : List Char) : List (List Char) := keepFrom [] text

theorem keepFrom_flatten (buf text : List Char) : (keepFrom buf text).flatten = buf ++ text := by
  fun_induction keepFrom buf text with
  | case1 => rfl
  | case2 buf h => simp
  | case3 buf rest ih => simp [ih]
  | case4 buf c rest h hc ih => simp [ih]
  | case5 buf c rest h hc ih => simp [ih]

theorem keepLines_flatten (text : List Char) : (keepLines text).flatten = text :=
  keepFrom_flatten [] text

/-- The lines of a text whose only boundary is the line feed, and which ends with one. -/
theorem keepFrom_newline {buf text : List Char}
    (hplain : ∀ c ∈ text, isBoundary c = true → c = '\n')
    (hlast : text ≠ [] → text.getLast? = some '\n') (hbuf : text = [] → buf = []) :
    ∀ l ∈ keepFrom buf text, ∃ body, l = body ++ ['\n'] := by
  fun_induction keepFrom buf text with
  | case1 => simp
  | case2 buf h => exact absurd (hbuf rfl) h
  | case3 buf rest ih =>
    have := hplain '\r' (List.mem_cons_self ..) (by decide)
    exact absurd this (by decide)
  | case4 buf c rest h hc ih =>
    intro l hl
    rcases List.mem_cons.mp hl with rfl | hl
    · rw [hplain c (List.mem_cons_self ..) hc]
      exact ⟨buf, rfl⟩
    · refine ih (fun d hd => hplain d (List.mem_cons_of_mem _ hd)) (fun hne => ?_) (fun _ => rfl) l hl
      have := hlast (List.cons_ne_nil _ _)
      rwa [List.getLast?_cons_of_ne_nil hne] at this
  | case5 buf c rest h hc ih =>
    refine ih (fun d hd => hplain d (List.mem_cons_of_mem _ hd)) (fun hne => ?_) (fun hnil => ?_)
    · have := hlast (List.cons_ne_nil _ _)
      rwa [List.getLast?_cons_of_ne_nil hne] at this
    · subst hnil
      have hnewline : c = '\n' := by simpa using hlast (List.cons_ne_nil _ _)
      rw [hnewline] at hc
      exact absurd newline_boundary hc

/-! ## Chunks -/

/-- Lines are collected until they are complete: the chunks, and what is left behind them. -/
def chunks (statement : List Char) : List (List Char) → List (List Char) × List Char
  | [] => ([], statement)
  | line :: lines =>
    if complete (statement ++ line) then
      ((statement ++ line) :: (chunks [] lines).1, (chunks [] lines).2)
    else chunks (statement ++ line) lines

theorem chunks_flatten (statement : List Char) (lines : List (List Char)) :
    (chunks statement lines).1.flatten ++ (chunks statement lines).2 =
      statement ++ lines.flatten := by
  fun_induction chunks statement lines with
  | case1 statement => simp
  | case2 statement line lines h ih => simp [ih]
  | case3 statement line lines h ih => simp [ih]

theorem chunks_complete (statement : List Char) (lines : List (List Char)) :
    ∀ c ∈ (chunks statement lines).1, complete c = true := by
  fun_induction chunks statement lines with
  | case1 statement => simp
  | case2 statement line lines h ih =>
    intro c hc
    rcases List.mem_cons.mp hc with rfl | hc
    · exact h
    · exact ih c hc
  | case3 statement line lines h ih => exact ih

/-- A complete text has an end of a statement. -/
theorem ends_of_complete {text : List Char} (h : complete text = true) : 1 ≤ ends text := by
  unfold complete at h
  exact (State.sound_fresh.run text).1 (of_decide_eq_true h).1

/-- Behind a complete chunk that ends its line, a text is read as from the beginning. -/
theorem behind_chunk {text body : List Char} (h : complete text = true)
    (hbody : text = body ++ ['\n']) :
    State.Behind (ends text) .fresh (State.fresh.run text) := by
  unfold complete at h
  obtain ⟨hphase, hlex⟩ := of_decide_eq_true h
  refine State.behind_start hphase (hlex.resolve_right ?_)
  rw [hbody, State.run_append]
  exact State.step_newline _

/-- No end of a statement is lost between the chunks. -/
theorem chunks_ends {statement : List Char} {lines : List (List Char)}
    (hlines : ∀ l ∈ lines, ∃ body, l = body ++ ['\n']) :
    ((chunks statement lines).1.map ends).sum + ends (chunks statement lines).2 =
      ends (statement ++ lines.flatten) := by
  fun_induction chunks statement lines with
  | case1 statement => simp
  | case2 statement line lines h ih =>
    obtain ⟨body, hbody⟩ := hlines line (List.mem_cons_self ..)
    have hbehind := @behind_chunk _ (statement ++ body) h (by rw [hbody, List.append_assoc])
    have hrest := (hbehind.run lines.flatten).ends
    have ih := ih fun l hl => hlines l (List.mem_cons_of_mem _ hl)
    rw [List.flatten_cons, ← List.append_assoc]
    unfold ends at *
    rw [State.run_append, hrest]
    simp only [List.map_cons, List.sum_cons, List.nil_append] at ih ⊢
    omega
  | case3 statement line lines h ih =>
    rw [ih fun l hl => hlines l (List.mem_cons_of_mem _ hl), List.flatten_cons, List.append_assoc]

/-- A line holds at most one end of a statement, and behind it only white space and comments that
close on the line. -/
def OnePerLine : State → List (List Char) → Prop
  | _, [] => True
  | s, line :: lines =>
    ((s.run line).ends = s.ends ∨
      (s.run line).ends = s.ends + 1 ∧ (s.run line).phase = .START ∧ (s.run line).lex = .code) ∧
    OnePerLine (s.run line) lines

/-- **One statement in every chunk.** -/
theorem chunks_single {statement : List Char} {lines : List (List Char)} {s : State} {n : Nat}
    (hnone : ends statement = 0) (hs : State.Behind n (State.fresh.run statement) s)
    (h : OnePerLine s lines) :
    (∀ c ∈ (chunks statement lines).1, ends c = 1) ∧ ends (chunks statement lines).2 = 0 := by
  fun_induction chunks statement lines generalizing s n with
  | case1 statement => exact ⟨by simp, hnone⟩
  | case2 statement line lines hcomplete ih =>
    obtain ⟨hline, hrest⟩ := h
    have hbehind := hs.run line
    rw [← State.run_append] at hbehind
    have hpos := ends_of_complete hcomplete
    have hends := hs.ends
    have hends' := hbehind.ends
    unfold ends at hnone hpos
    rcases hline with hkept | ⟨hone, hphase, hlex⟩
    · omega
    · have hnext := State.behind_start hphase hlex
      obtain ⟨heach, htail⟩ := ih (by rfl) hnext hrest
      refine ⟨fun c hc => ?_, htail⟩
      rcases List.mem_cons.mp hc with rfl | hc
      · unfold ends
        omega
      · exact heach c hc
  | case3 statement line lines hcomplete ih =>
    obtain ⟨hline, hrest⟩ := h
    have hbehind := hs.run line
    rw [← State.run_append] at hbehind
    have hends := hs.ends
    have hends' := hbehind.ends
    unfold ends at hnone
    rcases hline with hkept | ⟨hone, hphase, hlex⟩
    · exact ih (by unfold ends; omega) hbehind hrest
    · exfalso
      have hsound := State.sound_fresh.run (statement ++ line)
      refine hcomplete (decide_eq_true ⟨?_, Or.inl (hbehind.lex.symm.trans hlex)⟩)
      rcases hbehind.phase with hsame | ⟨hinvalid, -⟩
      · rw [← hsame, hphase]
      · have := hsound.2 hinvalid
        omega

end Adcp.L1.SqlScript
