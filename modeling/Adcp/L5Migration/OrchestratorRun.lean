import Adcp.L5Migration.Orchestrator

/-!
# The helpers of the orchestrator, and its run up to the transaction

A helper that neither migrates, reactivates, discovers nor acquires is `Tame`: it keeps the
fields that matter, and its exception is one of its last call, one that its last answer
makes it raise, or one of its own. The parts of `run` are put together from tame helpers
and those four calls.

* `Allowed`: what a call to migrate, and one to reactivate, finds before it.
* `Tame`, `tame_bind`: helpers and their sequences; one lemma for each helper.
* `Before`, `Going`: what holds until the transaction; `Prepared`: what `prepare` leaves.
-/
namespace Adcp.L5.Migration

open Adcp.L1 Adcp.L2 Adcp.L3 Method Script

variable {ω α β : Type}

/-! ## Logs -/

abbrev MigrationEvent (ω : Type) : Type := Event ω MigrationError Answer
abbrev MigrationLog (ω : Type) : Type := List (MigrationEvent ω)

/-- The event is the call `c`, answered `a`. -/
def Answered (c : MigrationCall) (a : Except MigrationError (Answer c)) (e : MigrationEvent ω) : Prop :=
  ∃ w, e = ⟨w, c, a⟩

/-- The call has not raised. -/
def Fine (e : MigrationEvent ω) : Prop := ∃ a, e.answer = .ok a

/-- No call that could have left the body has raised. -/
def AllFine (log : MigrationLog ω) : Prop := ∀ e ∈ log, e.made.site = .run → Fine e

/-- The lease has been acquired with the token `t`. -/
def Acquired (t : Int) (log : MigrationLog ω) : Prop :=
  ∃ e ∈ log, ∃ a row, Answered (.acquire a) (.ok row) e ∧ row.lease.fencingToken = t

/-- The answer of a discovery. -/
def discovery : MigrationEvent ω → Option (List (Option RuntimeWriter))
  | ⟨_, .discover, .ok writers⟩ => some writers
  | _ => none

def discoveries (log : MigrationLog ω) : List (List (Option RuntimeWriter)) := log.filterMap discovery

/-- The identities of the writers that a discovery finds ACTIVE. -/
def active (writers : List (Option RuntimeWriter)) : List (String × String) :=
  (writers.filterMap id |>.filter (·.state = "ACTIVE")).map (·.identity)

def reactivation : MigrationEvent ω → Option (String × String)
  | ⟨_, .reactivate writer, _⟩ => some writer.identity
  | _ => none

/-- The identities that have been reactivated. -/
def reactivated (log : MigrationLog ω) : List (String × String) := log.filterMap reactivation

/-- The identities found ACTIVE at the first discovery. -/
def activeAtFirst (log : MigrationLog ω) : List (String × String) :=
  active ((discoveries log).headD [])

/-- Neither of the four calls that a helper never makes. -/
def quiet : MigrationCall → Bool
  | .migrate | .reactivate _ | .discover | .acquire _ => false
  | _ => true

theorem discoveries_quiet {log more : MigrationLog ω} (h : ∀ e ∈ more, quiet e.made = true) :
    discoveries (log ++ more) = discoveries log := by
  unfold discoveries
  have hnone : more.filterMap discovery = [] := by
    refine List.filterMap_eq_nil_iff.mpr ?_
    rintro ⟨w, c, a⟩ he
    have hq := h _ he
    cases c <;> first | rfl | cases hq
  rw [List.filterMap_append, hnone, List.append_nil]

theorem reactivated_quiet {log more : MigrationLog ω} (h : ∀ e ∈ more, quiet e.made = true) :
    reactivated (log ++ more) = reactivated log := by
  unfold reactivated
  have hnone : more.filterMap reactivation = [] := by
    refine List.filterMap_eq_nil_iff.mpr ?_
    rintro ⟨w, c, a⟩ he
    have hq := h _ he
    cases c <;> first | rfl | cases hq
  rw [List.filterMap_append, hnone, List.append_nil]

theorem acquired_quiet {log more : MigrationLog ω} (h : ∀ e ∈ more, quiet e.made = true) (t : Int) :
    Acquired t (log ++ more) ↔ Acquired t log := by
  constructor
  · rintro ⟨e, he, a, row, hanswered, ht⟩
    rcases List.mem_append.mp he with he | he
    · exact ⟨e, he, a, row, hanswered, ht⟩
    · obtain ⟨w, rfl⟩ := hanswered
      have hq := h _ he
      cases hq
  · rintro ⟨e, he, hrest⟩
    exact ⟨e, List.mem_append_left _ he, hrest⟩

/-! ## What the calls need -/

/-- The second discovery finds every writer of the first, and every writer it finds is
stopped and is who it was. -/
def Stopped (first second : List (Option RuntimeWriter)) : Prop :=
  (∀ w, some w ∈ first → ∃ w', some w' ∈ second ∧ w'.identity = w.identity) ∧
  ∀ w, some w ∈ second → w.state = "QUIESCED" ∧ w.identityValidation = "MATCH"

/-- Every writer has been seen stopped, the backup made then has been verified, and after
that a heartbeat has left enough of the lease. -/
def BackedUp (o : Orchestrator) (before : MigrationLog ω) : Prop :=
  ∃ first second token created backup row expires now,
    InOrder [Answered .discover (.ok first), Answered .discover (.ok second),
      Answered (.createBackup token created) (.ok backup),
      Answered (.verifyBackup backup) (.ok ()),
      Answered (.heartbeat o.ownerId token leaseTtlSeconds) (.ok row),
      Answered .now (.ok now)] before ∧
    Stopped first second ∧ row.lease.expiresAt = some expires ∧
    preBeginMinRemainingHorizonMicroseconds ≤ (expires.micros : Int) - now

/-- What the migration must not change is as it was. -/
structure Preserved (baseline post : PreservationBaseline) : Prop where
  tables : ∀ t ∈ baseline.tables.map (·.1),
    t ∉ ["schema_migration", "global_production_writer_lease"] →
    post.tables.lookup t = baseline.tables.lookup t
  registry : post.schemaMigration0001To0006 = baseline.schemaMigration0001To0006
  authority : post.authority = baseline.authority
  lease : ∀ f ∈ leaseContextFields, post.lease.lookup f = baseline.lease.lookup f

/-- The evidence of the authority was taken before the migration. -/
def FirstEvidence (evidence : Option (List (String × String))) (before : MigrationLog ω) : Prop :=
  ∃ first, first.getD [] = evidence.getD [] ∧
    InOrder [Answered .validateAuthority (.ok first), (·.made = .migrate)] before

/-- The database was observed at version 7 after the migration, the checks of what it
preserves have passed, and after them the authority has answered what it first did. -/
def Cleared (o : Orchestrator) (before : MigrationLog ω) : Prop :=
  ∃ baseline post evidence,
    InOrder [Answered (.captureBaseline 6) (.ok baseline), Answered .migrate (.ok ()),
      Answered (.readSchemaVersion .run) (.ok 7), Answered (.captureBaseline 7) (.ok post),
      Answered .lineage (.ok (o.migrations.filter (·.1 ≤ migrationVersion))),
      Answered .sealCount (.ok 0), Answered .validateAuthority (.ok evidence)] before ∧
    Preserved baseline post ∧ FirstEvidence evidence before

def Reactivable (writer current : RuntimeWriter) : Prop :=
  current.identity = writer.identity ∧ current.identityValidation = "MATCH" ∧
    current.state = "QUIESCED"

/-- The two calls have found the lease that identifies this run current. -/
def Matched (o : Orchestrator) (token : Int) (e₁ e₂ : MigrationEvent ω) : Prop :=
  ∃ row target, Answered (.assertCurrent .run o.ownerId token) (.ok row) e₁ ∧
    Answered .resolveDcs (.ok target) e₂ ∧ ∀ p ∈ o.contextMatches target row, p.2 = true

/-- The last calls have found the lease that this run acquired current, no later event of
the writer, and the writer stopped. -/
def CurrentFor (o : Orchestrator) (before : MigrationLog ω) (current : RuntimeWriter) : Prop :=
  ∃ init token cursor writer e₁ e₂ e₃ e₄, before = init ++ [e₁, e₂, e₃, e₄] ∧
    Acquired token init ∧ Matched o token e₁ e₂ ∧
    Answered (.eventsAfter .run cursor) (.ok []) e₃ ∧
    Answered (.inspect writer) (.ok current) e₄ ∧ Reactivable writer current

/-- What a call to reactivate finds before it: no exception, the checks after the
migration, the lease current; and the writer is the next of those found ACTIVE. -/
structure Ready (o : Orchestrator) (before : MigrationLog ω) (current : RuntimeWriter) : Prop where
  fine : AllFine before
  cleared : Cleared o before
  leased : CurrentFor o before current
  next : ∃ rest, reactivated before ++ current.identity :: rest = activeAtFirst before

def Allowed (o : Orchestrator) (before : MigrationLog ω) : MigrationCall → Prop
  | .migrate => (∀ e ∈ before, e.made ≠ .migrate) ∧ BackedUp o before
  | .reactivate current => Ready o before current
  | _ => True

theorem allowed_quiet {o : Orchestrator} {before : MigrationLog ω} {c : MigrationCall}
    (h : quiet c = true) : Allowed o before c := by
  cases c <;> trivial

/-! ## Exceptions of helpers -/

/-- The last call raised it. -/
def Own (log : MigrationLog ω) (e : MigrationError) : Prop :=
  ∃ before ev, log = before ++ [ev] ∧ ev.made.site = .run ∧ ev.answer = .error e

/-- Answers that make a helper raise an error of the default phase. -/
def Slips (o : Orchestrator) (before : MigrationLog ω) : MigrationEvent ω → Prop
  | ⟨_, .validateAuthority, .ok evidence⟩ =>
    ∃ e ∈ before, ∃ first, Answered .validateAuthority (.ok first) e ∧
      evidence.getD [] ≠ first.getD []
  | ⟨_, .pumpError .run, .ok error⟩ => error ≠ none
  | ⟨_, .joinPump .run, .ok alive⟩ => alive = true
  | ⟨_, .resolveDcs, .ok target⟩ =>
    ∃ init last token row, before = init ++ [last] ∧
      Answered (.assertCurrent .run o.ownerId token) (.ok row) last ∧
      ∃ p ∈ o.contextMatches target row, p.2 = false
  | ⟨_, .eventsAfter .run _, .ok rows⟩ => rows ≠ []
  | ⟨_, .inspect writer, .ok current⟩ => ¬ Reactivable writer current
  | _ => False

def Slipped (o : Orchestrator) (log : MigrationLog ω) : Prop :=
  ∃ before ev, log = before ++ [ev] ∧ ev.made.site = .run ∧ Slips o before ev

/-- An error of the default phase. -/
def Default (e : MigrationError) : Prop := ∃ code detail, e = .migration code detail .preflight none

/-- The client, the token and the cursor that the checks of the lease need. -/
def Bound (s : Fields) : Prop :=
  s.client = true ∧ s.token ≠ none ∧ s.globalWriterEventCursor ≠ none

/-- `extra` are the errors a helper raises on its own account. -/
def Explained (o : Orchestrator) (extra : MigrationError → Prop) (s : Fields) (log : MigrationLog ω)
    (e : MigrationError) : Prop :=
  Own log e ∨ extra e ∨ (Default e ∧ (Slipped o log ∨ ¬ Bound s))

/-- The evidence that later answers are compared with is an answer of the log. -/
def EvidenceKnown (s : Fields) (log : MigrationLog ω) : Prop :=
  ∀ m, s.authorityEvidence = some m →
    ∃ e ∈ log, ∃ first, Answered .validateAuthority (.ok first) e ∧ first.getD [] = m

theorem EvidenceKnown.append {s : Fields} {log : MigrationLog ω} (h : EvidenceKnown s log)
    (more : MigrationLog ω) : EvidenceKnown s (log ++ more) := by
  intro m hm
  obtain ⟨e, he, hrest⟩ := h m hm
  exact ⟨e, List.mem_append_left _ he, hrest⟩

/-! ## Tame helpers -/

/-- What a helper leaves of the fields and the log it started from. -/
structure Kept (o : Orchestrator) (extra : MigrationError → Prop) (s : Fields) (log : MigrationLog ω)
    (r : Except MigrationError α) (s' : Fields) (log' : MigrationLog ω) : Prop where
  client : s'.client = s.client
  token : s'.token = s.token
  quiesced : s'.quiesced = s.quiesced
  executionState : s'.executionState = s.executionState
  cursor : s.globalWriterEventCursor ≠ none → s'.globalWriterEventCursor ≠ none
  authority : ∀ m, s.authorityEvidence = some m → s'.authorityEvidence = some m
  evidence : EvidenceKnown s' log'
  grown : ∃ more, log' = log ++ more ∧ (∀ e ∈ more, quiet e.made = true) ∧
    ((∃ a, r = .ok a) → AllFine more)
  explained : ∀ e, r = .error e → Explained o extra s log' e

/-- The method meets `post`, making only calls that are allowed. -/
abbrev Meeting (o : Orchestrator) (serve : ω → (c : MigrationCall) → Except MigrationError (Answer c) →
    ω → Prop) (m : MigrationMethod α)
    (post : Except MigrationError α → Fields → MigrationLog ω → Prop) (s : Fields)
    (log : MigrationLog ω) : Prop :=
  Ensures (logged serve) (Allowed o) m post s log

variable {o : Orchestrator}
  {serve : ω → (c : MigrationCall) → Except MigrationError (Answer c) → ω → Prop}
  {extra : MigrationError → Prop} {s s' s'' : Fields} {log log' log'' : MigrationLog ω}

def Tame (o : Orchestrator) (serve : ω → (c : MigrationCall) → Except MigrationError (Answer c) →
    ω → Prop) (extra : MigrationError → Prop) (m : MigrationMethod α) : Prop :=
  ∀ s log, EvidenceKnown s log → Meeting o serve m (Kept o extra s log) s log

theorem meeting_call {c : MigrationCall}
    {post : Except MigrationError (Answer c) → Fields → MigrationLog ω → Prop}
    (hc : Allowed o log c) (h : ∀ w a, post a s (log ++ [⟨w, c, a⟩])) :
    Meeting o serve (call c) post s log := by
  refine ensures_ask.mpr ⟨hc, ?_⟩
  rintro a log' ⟨w, w', -, rfl⟩
  exact h w a

theorem Bound.of_kept {r : Except MigrationError α} (h : Bound s)
    (hk : Kept o extra s log r s' log') : Bound s' :=
  ⟨hk.client ▸ h.1, hk.token ▸ h.2.1, hk.cursor h.2.2⟩

theorem AllFine.append {more : MigrationLog ω} (h : AllFine log) (hmore : AllFine more) :
    AllFine (log ++ more) := fun e he =>
  (List.mem_append.mp he).elim (h e) (hmore e)

/-- One helper after the other. -/
theorem Kept.trans {a : α} {r : Except MigrationError β} (h : Kept o extra s log (.ok a) s' log')
    (h' : Kept o extra s' log' r s'' log'') : Kept o extra s log r s'' log'' where
  client := h'.client.trans h.client
  token := h'.token.trans h.token
  quiesced := h'.quiesced.trans h.quiesced
  executionState := h'.executionState.trans h.executionState
  cursor hc := h'.cursor (h.cursor hc)
  authority m hm := h'.authority m (h.authority m hm)
  evidence := h'.evidence
  grown := by
    obtain ⟨more, rfl, hquiet, hfine⟩ := h.grown
    obtain ⟨more', rfl, hquiet', hfine'⟩ := h'.grown
    refine ⟨more ++ more', List.append_assoc .., fun e he => ?_, fun hr => ?_⟩
    · exact (List.mem_append.mp he).elim (hquiet e) (hquiet' e)
    · exact (hfine ⟨a, rfl⟩).append (hfine' hr)
  explained e he := by
    rcases h'.explained e he with hown | hextra | ⟨hdefault, hslip | hbound⟩
    · exact Or.inl hown
    · exact Or.inr (Or.inl hextra)
    · exact Or.inr (Or.inr ⟨hdefault, Or.inl hslip⟩)
    · exact Or.inr (Or.inr ⟨hdefault, Or.inr fun hb => hbound (hb.of_kept h)⟩)

/-- What leaves the first part leaves the sequence. -/
theorem Kept.error {e : MigrationError} (h : Kept o extra s log (.error e : Except _ α) s' log') :
    Kept o extra s log (.error e : Except _ β) s' log' where
  client := h.client
  token := h.token
  quiesced := h.quiesced
  executionState := h.executionState
  cursor := h.cursor
  authority := h.authority
  evidence := h.evidence
  grown := by
    obtain ⟨more, hmore, hquiet, -⟩ := h.grown
    exact ⟨more, hmore, hquiet, fun ⟨_, ha⟩ => nomatch ha⟩
  explained e' he' := by
    cases he'
    exact h.explained e rfl

/-- A write to the fields that a helper may write. -/
theorem kept_write (s s' : Fields) (hsame : s'.client = s.client ∧ s'.token = s.token ∧
      s'.quiesced = s.quiesced ∧ s'.executionState = s.executionState ∧
      (s.globalWriterEventCursor ≠ none → s'.globalWriterEventCursor ≠ none))
    (hauthority : ∀ m, s.authorityEvidence = some m → s'.authorityEvidence = some m)
    (hknown : EvidenceKnown s' log) (a : α) : Kept o extra s log (.ok a) s' log where
  client := hsame.1
  token := hsame.2.1
  quiesced := hsame.2.2.1
  executionState := hsame.2.2.2.1
  cursor := hsame.2.2.2.2
  authority := hauthority
  evidence := hknown
  grown := ⟨[], (List.append_nil _).symm, fun _ he => absurd he List.not_mem_nil,
    fun _ _ he => absurd he List.not_mem_nil⟩
  explained _ he := nomatch he

theorem kept_refl (h : EvidenceKnown s log) (a : α) : Kept o extra s log (.ok a) s log :=
  kept_write s s ⟨rfl, rfl, rfl, rfl, id⟩ (fun _ hm => hm) h a

theorem kept_error {e : MigrationError} (h : EvidenceKnown s log) (he : Explained o extra s log e) :
    Kept o extra s log (.error e : Except _ α) s log where
  client := rfl
  token := rfl
  quiesced := rfl
  executionState := rfl
  cursor := id
  authority _ hm := hm
  evidence := h
  grown := ⟨[], (List.append_nil _).symm, fun _ he => absurd he List.not_mem_nil,
    fun ⟨_, ha⟩ => nomatch ha⟩
  explained e' he' := by
    cases he'
    exact he

/-- One call. -/
theorem kept_call (o : Orchestrator) (extra : MigrationError → Prop) {c : MigrationCall}
    (h : EvidenceKnown s log) (hq : quiet c = true)
    (hsite : c.site = .run) (w : ω) (a : Except MigrationError (Answer c)) :
    Kept o extra s log a s (log ++ [⟨w, c, a⟩]) where
  client := rfl
  token := rfl
  quiesced := rfl
  executionState := rfl
  cursor := id
  authority _ hm := hm
  evidence := h.append _
  grown := by
    refine ⟨[⟨w, c, a⟩], rfl, fun e he => ?_, ?_⟩
    · cases List.mem_singleton.mp he
      exact hq
    · rintro ⟨b, rfl⟩ e he -
      cases List.mem_singleton.mp he
      exact ⟨b, rfl⟩
  explained e he := Or.inl ⟨log, _, rfl, hsite, he⟩

theorem tame_pure (a : α) : Tame o serve extra (pure a) := fun _ _ h =>
  ensures_pure.mpr (kept_refl h a)

theorem tame_raise {e : MigrationError} (h : extra e) : Tame o serve extra (raise e : MigrationMethod α) :=
  fun _ _ hknown => ensures_raise.mpr (kept_error hknown (Or.inr (Or.inl h)))

theorem tame_reject {code detail : String} {phase : Phase} {version : Option Int}
    (h : extra (.migration code detail phase version)) :
    Tame o serve extra (reject code detail phase version : MigrationMethod α) := tame_raise h

theorem tame_demand {c : Prop} [Decidable c] {code detail : String} {phase : Phase}
    {version : Option Int} (h : extra (.migration code detail phase version)) :
    Tame o serve extra (demand c code detail phase version) := by
  unfold demand
  split
  · exact tame_pure ()
  · exact tame_reject h

theorem tame_call {c : MigrationCall} (hq : quiet c = true) (hsite : c.site = .run) :
    Tame o serve extra (call c) := fun _ _ hknown =>
  meeting_call (allowed_quiet hq) fun w a => kept_call _ _ hknown hq hsite w a

theorem tame_bind {m : MigrationMethod α} {f : α → MigrationMethod β} (hm : Tame o serve extra m)
    (hf : ∀ a, Tame o serve extra (f a)) : Tame o serve extra (m >>= f) := by
  intro s log hknown
  refine (hm s log hknown).bind (fun a s' log' hk => ?_) fun e s' log' hk => hk.error
  exact (hf a s' log' hk.evidence).mono fun r s'' log'' hk' => hk.trans hk'

theorem meeting_fields {f : Fields → MigrationMethod α}
    {post : Except MigrationError α → Fields → MigrationLog ω → Prop}
    (h : Meeting o serve (f s) post s log) : Meeting o serve (fields >>= f) post s log := by
  have hfields : Meeting o serve fields (fun r s' log' => r = .ok s ∧ s' = s ∧ log' = log) s log :=
    ensures_fields.mpr ⟨rfl, rfl, rfl⟩
  refine hfields.bind ?_ ?_
  · rintro a s' log' ⟨ha, rfl, rfl⟩
    cases ha
    exact h
  · rintro e s' log' ⟨ha, -, -⟩
    cases ha

theorem tame_fields {f : Fields → MigrationMethod α}
    (hf : ∀ s log, EvidenceKnown s log → Meeting o serve (f s) (Kept o extra s log) s log) :
    Tame o serve extra (fields >>= f) := fun s log hknown => meeting_fields (hf s log hknown)

/-- A helper that writes the pump. -/
theorem tame_modifyPump (b : Bool) :
    Tame o serve extra (modify fun s : Fields => { s with pump := b }) := fun s _ hknown =>
  ensures_modify.mpr (kept_write s { s with pump := b } ⟨rfl, rfl, rfl, rfl, id⟩
    (fun _ hm => hm) hknown ())

/-- A call whose answer `bad` makes the method raise an error of the default phase. -/
theorem tame_slip {c : MigrationCall} {f : Answer c → MigrationMethod α} (hq : quiet c = true)
    (hsite : c.site = .run)
    (hf : ∀ a, Tame o serve extra (f a) ∨
      ((∃ e, Default e ∧ f a = raise e) ∧
        ∀ (w : ω) (log : MigrationLog ω), Slips o log ⟨w, c, .ok a⟩)) :
    Tame o serve extra (call c >>= f) := by
  intro s log hknown
  have hcall : Meeting o serve (call c) (fun a s' log' => ∃ w, s' = s ∧ log' = log ++ [⟨w, c, a⟩])
      s log := meeting_call (allowed_quiet hq) fun w a => ⟨w, rfl, rfl⟩
  refine hcall.bind ?_ ?_
  · rintro a s' log' ⟨w, rfl, rfl⟩
    have hk := kept_call o extra hknown hq hsite w (.ok a)
    rcases hf a with htame | ⟨⟨e, hdefault, hraise⟩, hslip⟩
    · exact (htame _ _ hk.evidence).mono fun r s'' log'' hk' => hk.trans hk'
    · rw [hraise]
      refine ensures_raise.mpr (hk.trans (kept_error hk.evidence ?_))
      exact Or.inr (Or.inr ⟨hdefault, Or.inl ⟨log, _, rfl, hsite, hslip w log⟩⟩)
  · rintro e s' log' ⟨w, rfl, rfl⟩
    exact (kept_call _ _ hknown hq hsite w (.error e)).error

/-! ## The helpers -/

open Orchestrator

/-- One call; when the method returns, its answer is the evidence that the object holds. -/
theorem meets_freshAuthority (extra : MigrationError → Prop) (hknown : EvidenceKnown s log) :
    Meeting o serve freshAuthority (fun r s' log' => Kept o extra s log r s' log' ∧
      ((∃ a, r = .ok a) → ∃ ev evidence, log' = log ++ [ev] ∧
        Answered .validateAuthority (.ok evidence) ev ∧
        s'.authorityEvidence = some (evidence.getD []))) s log := by
  have hcall : Meeting o serve (call .validateAuthority)
      (fun a s' log' => ∃ w, s' = s ∧ log' = log ++ [⟨w, .validateAuthority, a⟩]) s log :=
    meeting_call trivial fun w a => ⟨w, rfl, rfl⟩
  refine hcall.bind ?_ ?_
  · rintro evidence s' log' ⟨w, rfl, rfl⟩
    have hk := kept_call o extra (c := .validateAuthority) hknown rfl rfl w
      (.ok evidence)
    refine meeting_fields ?_
    cases hfirst : s'.authorityEvidence with
    | none =>
      -- the first answer is the one to compare with
      refine ensures_modify.mpr ⟨hk.trans (kept_write s'
        { s' with authorityEvidence := some (evidence.getD []) } ⟨rfl, rfl, rfl, rfl, id⟩ ?_ ?_ ()),
        fun _ => ⟨_, evidence, rfl, ⟨w, rfl⟩, rfl⟩⟩
      · intro m hm
        rw [hfirst] at hm
        cases hm
      · intro m hm
        cases hm
        exact ⟨_, List.mem_append_right _ (List.mem_singleton_self _), evidence, ⟨w, rfl⟩, rfl⟩
    | some first =>
      show Meeting o serve (demand (evidence.getD [] = first) "AUTHORITY_SOURCE_DRIFT") _ _ _
      unfold demand
      by_cases hsame : evidence.getD [] = first
      · rw [if_pos hsame]
        refine ensures_pure.mpr ⟨hk.trans (kept_refl hk.evidence ()), fun _ => ?_⟩
        exact ⟨_, evidence, rfl, ⟨w, rfl⟩, by rw [hfirst, hsame]⟩
      · rw [if_neg hsame]
        refine ensures_raise.mpr ⟨hk.trans (kept_error hk.evidence ?_), fun ⟨_, ha⟩ => nomatch ha⟩
        obtain ⟨e, he, a, ha, rfl⟩ := hknown first hfirst
        exact Or.inr (Or.inr ⟨⟨_, _, rfl⟩, Or.inl ⟨log, _, rfl, rfl, e, he, a, ha, hsame⟩⟩)
  · rintro e s' log' ⟨w, rfl, rfl⟩
    exact ⟨(kept_call _ _ hknown rfl rfl w (.error e)).error, fun ⟨_, ha⟩ => nomatch ha⟩

theorem tame_freshAuthority : Tame o serve extra freshAuthority := fun _ _ hknown =>
  (meets_freshAuthority extra hknown).mono fun _ _ _ h => h.1

theorem tame_checkPump : Tame o serve extra checkPump := by
  refine tame_fields fun s log hknown => ?_
  split
  · refine tame_slip (c := .pumpError .run) rfl rfl (fun error => ?_) s log hknown
    cases error with
    | none => exact Or.inl (tame_pure ())
    | some text => exact Or.inr ⟨⟨_, ⟨_, _, rfl⟩, rfl⟩, fun w log => by simp [Slips]⟩
  · exact tame_pure () s log hknown

/-- The client's row, read and compared with what identifies this run. -/
def matched (o : Orchestrator) (token : Int) : MigrationMethod LeaseRow := do
  let row ← call (.assertCurrent .run o.ownerId token)
  let target ← call .resolveDcs
  match (o.contextMatches target row).find? (·.2 = false) with
  | some (field, _) => reject "LEASE_CONTEXT_MISMATCH" field
  | none => pure row

theorem meets_matched (extra : MigrationError → Prop) (token : Int) (hknown : EvidenceKnown s log) :
    Meeting o serve (matched o token) (fun r s' log' => Kept o extra s log r s' log' ∧
      ((∃ row, r = .ok row) → ∃ e₁ e₂, log' = log ++ [e₁, e₂] ∧ Matched o token e₁ e₂)) s log := by
  have hassert : Meeting o serve (call (.assertCurrent .run o.ownerId token))
      (fun a s' log' => ∃ w, s' = s ∧
        log' = log ++ [⟨w, .assertCurrent .run o.ownerId token, a⟩]) s log :=
    meeting_call trivial fun w a => ⟨w, rfl, rfl⟩
  refine hassert.bind ?_ ?_
  · rintro row s' log' ⟨w, rfl, rfl⟩
    have hrow := kept_call o extra (c := .assertCurrent .run o.ownerId token)
      hknown rfl rfl w (.ok row)
    have hresolve : Meeting o serve (call .resolveDcs)
        (fun a s'' log' => ∃ w', s'' = s' ∧
          log' = (log ++ [⟨w, .assertCurrent .run o.ownerId token, .ok row⟩]) ++
            [⟨w', .resolveDcs, a⟩]) s' _ :=
      meeting_call trivial fun w' a => ⟨w', rfl, rfl⟩
    refine hresolve.bind ?_ ?_
    · rintro target s'' log' ⟨w', rfl, rfl⟩
      have htarget := hrow.trans (kept_call _ _ (c := .resolveDcs) hrow.evidence rfl rfl w' (.ok target))
      cases hfind : (o.contextMatches target row).find? (·.2 = false) with
      | none =>
        refine ensures_pure.mpr ⟨htarget.trans (kept_refl htarget.evidence row), fun _ => ?_⟩
        refine ⟨_, _, List.append_assoc .., row, target, ⟨w, rfl⟩, ⟨w', rfl⟩, fun p hp => ?_⟩
        simpa using List.find?_eq_none.mp hfind p hp
      | some p =>
        refine ensures_raise.mpr ⟨htarget.trans (kept_error htarget.evidence ?_), fun ⟨_, ha⟩ => nomatch ha⟩
        refine Or.inr (Or.inr ⟨⟨_, _, rfl⟩, Or.inl ⟨_, _, rfl, rfl, ?_⟩⟩)
        exact ⟨log, _, token, row, rfl, ⟨w, rfl⟩, p, List.mem_of_find?_eq_some hfind,
          by simpa using List.find?_some hfind⟩
    · rintro e s'' log' ⟨w', rfl, rfl⟩
      exact ⟨hrow.trans (kept_call _ _ (c := .resolveDcs) hrow.evidence rfl rfl w' (.error e)).error,
        fun ⟨_, ha⟩ => nomatch ha⟩
  · rintro e s' log' ⟨w, rfl, rfl⟩
    exact ⟨(kept_call _ _ hknown rfl rfl w (.error e)).error, fun ⟨_, ha⟩ => nomatch ha⟩

theorem tame_assertCurrent : Tame o serve extra o.assertCurrent := by
  refine tame_fields fun s log hknown => ?_
  by_cases hbound : s.client = true ∧ s.token ≠ none
  · obtain ⟨token, htoken⟩ := Option.ne_none_iff_exists'.mp hbound.2
    rw [hbound.1, htoken]
    have hmatched : Tame o serve extra (matched o token) := fun s log hknown =>
      (meets_matched extra token hknown).mono fun _ _ _ h => h.1
    exact tame_bind tame_freshAuthority (fun _ => tame_bind tame_checkPump fun _ => hmatched)
      s log hknown
  · have hraise : Explained o extra s log (.migration "LEASE_NOT_BOUND" "" .preflight none) :=
      Or.inr (Or.inr ⟨⟨_, _, rfl⟩, Or.inr fun hb => hbound ⟨hb.1, hb.2.1⟩⟩)
    split
    · rename_i token hclient htoken
      exact absurd ⟨hclient, by rw [htoken]; exact Option.some_ne_none _⟩ hbound
    · exact ensures_raise.mpr (kept_error hknown hraise)

theorem tame_guard : Tame o serve extra (assertGlobalWriterEventGuard .run) := by
  refine tame_fields fun s log hknown => ?_
  cases hcursor : s.globalWriterEventCursor with
  | none =>
    refine ensures_raise.mpr (kept_error hknown ?_)
    exact Or.inr (Or.inr ⟨⟨_, _, rfl⟩, Or.inr fun hb => hb.2.2 hcursor⟩)
  | some cursor =>
    refine tame_slip (c := .eventsAfter .run cursor) rfl rfl (fun rows => ?_) s log hknown
    cases rows with
    | nil => exact Or.inl (tame_pure ())
    | cons row rows => exact Or.inr ⟨⟨_, ⟨_, _, rfl⟩, rfl⟩, fun w log => by simp [Slips]⟩

theorem tame_guarded : Tame o serve extra o.guarded :=
  tame_bind tame_assertCurrent fun _ => tame_guard

/-- Once the lease is bound, `guarded` ends with the calls that find it current; the evidence
of the authority is held. -/
theorem meets_guarded (extra : MigrationError → Prop) (hbound : Bound s) {token : Int} (htoken : s.token = some token)
    (hknown : EvidenceKnown s log) :
    Meeting o serve o.guarded (fun r s' log' => Kept o extra s log r s' log' ∧
      ((∃ a, r = .ok a) → ∃ more e₁ e₂ e₃ cursor, log' = (log ++ more) ++ [e₁, e₂, e₃] ∧
        Matched o token e₁ e₂ ∧ Answered (.eventsAfter .run cursor) (.ok []) e₃ ∧
        s'.authorityEvidence ≠ none)) s log := by
  have hassert : Meeting o serve o.assertCurrent (fun r s' log' => Kept o extra s log r s' log' ∧
      ((∃ a, r = .ok a) → ∃ more e₁ e₂, log' = (log ++ more) ++ [e₁, e₂] ∧
        Matched o token e₁ e₂ ∧ s'.authorityEvidence ≠ none)) s log := by
    refine meeting_fields ?_
    rw [hbound.1, htoken]
    refine Ensures.bind (meets_freshAuthority extra hknown) (fun _ s₁ log₁ ⟨hk₁, hfresh⟩ => ?_)
      fun e s₁ log₁ ⟨hk₁, _⟩ => ⟨hk₁.error, fun ⟨_, ha⟩ => nomatch ha⟩
    obtain ⟨_, evidence, -, -, hevidence⟩ := hfresh ⟨_, rfl⟩
    refine Ensures.bind (tame_checkPump s₁ log₁ hk₁.evidence) (fun _ s₂ log₂ hk₂ => ?_)
      fun e s₂ log₂ hk₂ => ⟨hk₁.trans hk₂.error, fun ⟨_, ha⟩ => nomatch ha⟩
    refine (meets_matched extra token hk₂.evidence).mono fun r s₃ log₃ ⟨hk₃, hok⟩ => ?_
    refine ⟨(hk₁.trans hk₂).trans hk₃, fun ha => ?_⟩
    obtain ⟨e₁, e₂, rfl, hmatched⟩ := hok ha
    obtain ⟨more, rfl, -⟩ := (hk₁.trans hk₂).grown
    refine ⟨more, e₁, e₂, rfl, hmatched, ?_⟩
    rw [(hk₂.trans hk₃).authority _ hevidence]
    exact Option.some_ne_none _
  refine hassert.bind (fun _ s₁ log₁ ⟨hk₁, hok⟩ => ?_) fun e s₁ log₁ ⟨hk₁, _⟩ =>
    ⟨hk₁.error, fun ⟨_, ha⟩ => nomatch ha⟩
  obtain ⟨more, e₁, e₂, rfl, hmatched, hauthority⟩ := hok ⟨_, rfl⟩
  obtain ⟨cursor, hcursor⟩ := Option.ne_none_iff_exists'.mp (hbound.of_kept hk₁).2.2
  refine meeting_fields ?_
  rw [hcursor]
  have hcall : Meeting o serve (call (.eventsAfter .run cursor)) (fun a s' log' => ∃ w, s' = s₁ ∧
      log' = ((log ++ more) ++ [e₁, e₂]) ++ [⟨w, .eventsAfter .run cursor, a⟩]) s₁ _ :=
    meeting_call trivial fun w a => ⟨w, rfl, rfl⟩
  refine hcall.bind ?_ ?_
  · rintro rows s' log' ⟨w, rfl, rfl⟩
    have hk := hk₁.trans (kept_call o extra (c := .eventsAfter .run cursor) hk₁.evidence rfl rfl w
      (.ok rows))
    cases rows with
    | nil =>
      refine ensures_pure.mpr ⟨hk.trans (kept_refl hk.evidence ()), fun _ => ?_⟩
      exact ⟨more, e₁, e₂, _, cursor, List.append_assoc .., hmatched, ⟨w, rfl⟩, hauthority⟩
    | cons row rows =>
      refine ensures_raise.mpr ⟨hk.trans (kept_error hk.evidence ?_), fun ⟨_, ha⟩ => nomatch ha⟩
      exact Or.inr (Or.inr ⟨⟨_, _, rfl⟩, Or.inl ⟨_, _, rfl, rfl, List.cons_ne_nil _ _⟩⟩)
  · rintro e s' log' ⟨w, rfl, rfl⟩
    exact ⟨hk₁.trans (kept_call _ _ hk₁.evidence rfl rfl w (.error e)).error,
      fun ⟨_, ha⟩ => nomatch ha⟩

theorem tame_startPump : Tame o serve extra o.startPump := by
  unfold startPump
  split
  · exact tame_bind (tame_modifyPump true) fun _ => tame_call rfl rfl
  · exact tame_pure ()

theorem tame_stopPump : Tame o serve extra (stopPump .run) := by
  refine tame_fields fun s log hknown => ?_
  split
  · refine tame_bind (tame_modifyPump false) (fun _ => ?_) s log hknown
    refine tame_slip (c := .joinPump .run) rfl rfl fun alive => ?_
    cases alive with
    | false =>
      refine Or.inl (tame_slip (c := .pumpError .run) rfl rfl fun error => ?_)
      cases error with
      | none => exact Or.inl (tame_pure ())
      | some text => exact Or.inr ⟨⟨_, ⟨_, _, rfl⟩, rfl⟩, fun w log => by simp [Slips]⟩
    | true => exact Or.inr ⟨⟨_, ⟨_, _, rfl⟩, rfl⟩, fun w log => by simp [Slips]⟩
  · exact tame_pure () s log hknown

/-! ## Before the transaction -/

/-- An error of the default phase, or one that the orchestrator does not know. -/
def Plain (e : MigrationError) : Prop := Default e ∨ ∃ text, e = .other text

theorem tame_plain {c : Prop} [Decidable c] {code detail : String} :
    Tame o serve Plain (demand c code detail) := tame_demand (Or.inl ⟨_, _, rfl⟩)

theorem tame_preflight : Tame o serve Plain o.preflight := by
  refine tame_bind tame_plain fun _ => tame_bind (tame_call rfl rfl) fun _ => ?_
  refine tame_bind tame_plain fun _ => tame_bind (tame_call rfl rfl) fun path => ?_
  refine tame_bind (tame_call rfl rfl) fun _ => tame_bind tame_plain fun _ => ?_
  refine tame_bind (tame_call rfl rfl) fun _ => tame_bind tame_plain fun _ => ?_
  refine tame_bind (tame_call rfl rfl) fun _ => tame_bind tame_plain fun _ => ?_
  refine tame_bind tame_plain fun _ => tame_bind tame_plain fun _ => ?_
  have hrest : Tame o serve Plain (do
      freshAuthority
      demand ((← call (.readSchemaVersion .run)) = 6) "STARTING_SCHEMA_V6_REQUIRED"
      call (.contractProfile 6)) :=
    tame_bind tame_freshAuthority fun _ => tame_bind (tame_call rfl rfl) fun _ =>
      tame_bind tame_plain fun _ => tame_call rfl rfl
  cases o.context.canonicalProductionPath with
  | none => exact hrest
  | some canonical =>
    exact tame_bind (tame_call rfl rfl) fun _ => tame_bind tame_plain fun _ => hrest

theorem meeting_modify {f : Fields → Fields} {g : Unit → MigrationMethod α}
    {post : Except MigrationError α → Fields → MigrationLog ω → Prop}
    (h : Meeting o serve (g ()) post (f s) log) : Meeting o serve (modify f >>= g) post s log := by
  have hmodify : Meeting o serve (modify f)
      (fun r s' log' => r = .ok () ∧ s' = f s ∧ log' = log) s log :=
    ensures_modify.mpr ⟨rfl, rfl, rfl⟩
  refine hmodify.bind ?_ ?_
  · rintro a s' log' ⟨-, rfl, rfl⟩
    exact h
  · rintro e s' log' ⟨he, -, -⟩
    cases he

theorem meeting_demand {c : Prop} [Decidable c] {code detail : String} {phase : Phase}
    {version : Option Int} {post : Except MigrationError Unit → Fields → MigrationLog ω → Prop}
    (hok : c → post (.ok ()) s log)
    (herror : ¬ c → post (.error (.migration code detail phase version)) s log) :
    Meeting o serve (demand c code detail phase version) post s log := by
  unfold demand
  by_cases hc : c
  · rw [if_pos hc]
    exact ensures_pure.mpr (hok hc)
  · rw [if_neg hc]
    exact ensures_raise.mpr (herror hc)

/-- A check, and what follows it. -/
theorem meeting_check {c : Prop} [Decidable c] {code detail : String} {phase : Phase}
    {version : Option Int} {f : Unit → MigrationMethod α}
    {post : Except MigrationError α → Fields → MigrationLog ω → Prop}
    (hf : c → Meeting o serve (f ()) post s log)
    (herror : ¬ c → post (.error (.migration code detail phase version)) s log) :
    Meeting o serve (demand c code detail phase version >>= f) post s log := by
  have hdemand : Meeting o serve (demand c code detail phase version) (fun r s' log' =>
      s' = s ∧ log' = log ∧
      ((r = .ok () ∧ c) ∨ (r = .error (.migration code detail phase version) ∧ ¬ c))) s log :=
    meeting_demand (fun hc => ⟨rfl, rfl, Or.inl ⟨rfl, hc⟩⟩) fun hc => ⟨rfl, rfl, Or.inr ⟨rfl, hc⟩⟩
  refine hdemand.bind ?_ ?_
  · rintro a s' log' ⟨rfl, rfl, ⟨-, hc⟩ | ⟨ha, -⟩⟩
    · exact hf hc
    · cases ha
  · rintro e s' log' ⟨rfl, rfl, ⟨he, -⟩ | ⟨he, hc⟩⟩
    · cases he
    · cases he
      exact herror hc

/-- What holds of a run that has not come to the transaction. -/
structure Unmigrated (s : Fields) (log : MigrationLog ω) : Prop where
  unmigrated : ∀ e ∈ log, e.made ≠ .migrate
  unreactivated : reactivated log = []
  uncommitted : s.executionState ≠ .committedV7
  token : ∀ t, s.token = some t ↔ Acquired t log
  evidence : EvidenceKnown s log

/-- What holds until the client is closed for it. -/
structure Before (s : Fields) (log : MigrationLog ω) : Prop extends Unmigrated s log where
  client : s.client = true ∨ ∀ t, ¬ Acquired t log

/-- What holds there as long as nothing has been raised. -/
structure Going (s : Fields) (log : MigrationLog ω) : Prop extends Before s log where
  fine : AllFine log

/-- The end of a part of `prepare`. -/
def Prior (good : α → Fields → MigrationLog ω → Prop) (r : Except MigrationError α) (s : Fields)
    (log : MigrationLog ω) : Prop :=
  match r with
  | .ok a => good a s log
  | .error e => Before s log ∧ (Own log e ∨ Plain e)

theorem Unmigrated.kept {r : Except MigrationError α} (h : Unmigrated s log)
    (hk : Kept o extra s log r s' log') : Unmigrated s' log' := by
  obtain ⟨more, rfl, hquiet, -⟩ := hk.grown
  refine ⟨fun e he => ?_, ?_, ?_, fun t => ?_, hk.evidence⟩
  · rcases List.mem_append.mp he with he | he
    · exact h.unmigrated e he
    · intro hmade
      have hq := hquiet e he
      rw [hmade] at hq
      cases hq
  · rw [reactivated_quiet hquiet]
    exact h.unreactivated
  · rw [hk.executionState]
    exact h.uncommitted
  · rw [hk.token, acquired_quiet hquiet]
    exact h.token t

theorem Before.kept {r : Except MigrationError α} (h : Before s log)
    (hk : Kept o extra s log r s' log') : Before s' log' where
  toUnmigrated := h.toUnmigrated.kept hk
  client := by
    obtain ⟨more, rfl, hquiet, -⟩ := hk.grown
    rw [hk.client]
    refine h.client.imp_right fun hnone t => ?_
    rw [acquired_quiet hquiet]
    exact hnone t

theorem Going.kept {a : α} (h : Going s log) (hk : Kept o extra s log (.ok a) s' log') :
    Going s' log' where
  toBefore := h.toBefore.kept hk
  fine := by
    obtain ⟨more, rfl, -, hfine⟩ := hk.grown
    exact h.fine.append (hfine ⟨a, rfl⟩)

theorem Kept.raised {e : MigrationError} (hk : Kept o Plain s log (.error e : Except _ α) s' log') :
    Own log' e ∨ Plain e := by
  rcases hk.explained e rfl with hown | hplain | ⟨hdefault, -⟩
  · exact Or.inl hown
  · exact Or.inr hplain
  · exact Or.inr (Or.inl hdefault)

/-- A tame part, and what follows it. -/
theorem Going.andThen {m : MigrationMethod α} {f : α → MigrationMethod β}
    {good : β → Fields → MigrationLog ω → Prop} (h : Going s log) (hm : Tame o serve Plain m)
    (hf : ∀ a s' log', Going s' log' → Kept o Plain s log (.ok a) s' log' →
      Meeting o serve (f a) (Prior good) s' log') : Meeting o serve (m >>= f) (Prior good) s log := by
  refine (hm s log h.evidence).bind (fun a s' log' hk => hf a s' log' (h.kept hk) hk) ?_
  intro e s' log' hk
  exact ⟨h.toBefore.kept hk, hk.raised⟩

/-- A call, and what follows it. -/
theorem Going.call {c : MigrationCall} {f : Answer c → MigrationMethod β}
    {good : β → Fields → MigrationLog ω → Prop} (h : Going s log) (hq : quiet c = true)
    (hsite : c.site = .run)
    (hf : ∀ w a, Going s (log ++ [⟨w, c, .ok a⟩]) →
      Kept o Plain s log (.ok a) s (log ++ [⟨w, c, .ok a⟩]) →
      Meeting o serve (f a) (Prior good) s (log ++ [⟨w, c, .ok a⟩])) :
    Meeting o serve (call c >>= f) (Prior good) s log := by
  have hcall : Meeting o serve (Migration.call c)
      (fun a s' log' => ∃ w, s' = s ∧ log' = log ++ [⟨w, c, a⟩]) s log :=
    meeting_call (allowed_quiet hq) fun w a => ⟨w, rfl, rfl⟩
  refine hcall.bind ?_ ?_
  · rintro a s' log' ⟨w, rfl, rfl⟩
    have hk := kept_call o Plain h.evidence hq hsite w (.ok a)
    exact hf w a (h.kept hk) hk
  · rintro e s' log' ⟨w, rfl, rfl⟩
    have hk := kept_call o Plain h.evidence hq hsite w (.error e)
    exact ⟨h.toBefore.kept hk, hk.raised⟩

/-- The end of a tame part, after which nothing follows. -/
theorem Going.ends {m : MigrationMethod α} {good : α → Fields → MigrationLog ω → Prop}
    (h : Going s log) (hm : Tame o serve Plain m)
    (hgood : ∀ a s' log', Going s' log' → Kept o Plain s log (.ok a) s' log' → good a s' log') :
    Meeting o serve m (Prior good) s log := by
  refine (hm s log h.evidence).mono fun r s' log' hk => ?_
  cases r with
  | ok a => exact hgood a s' log' (h.kept hk) hk
  | error e => exact ⟨h.toBefore.kept hk, hk.raised⟩

/-! ### The lease -/

theorem meets_bindLease (h : Going s log) (hnone : ∀ t, ¬ Acquired t log) :
    Meeting o serve o.bindLease (Prior fun _ s' log' => Going s' log' ∧ s'.client = true ∧
      s'.token ≠ none ∧ s'.quiesced = s.quiesced ∧ discoveries log' = discoveries log) s log := by
  refine h.call rfl rfl fun w₁ _ h _ => meeting_modify ?_
  have h : Going { s with client := true } (log ++ [⟨w₁, .openClient .run, .ok ()⟩]) :=
    { h with client := Or.inl rfl }
  refine h.call rfl rfl fun w₂ repository h _ => h.call rfl rfl fun w₃ target h _ => ?_
  have hdiscoveries : discoveries (((log ++ [⟨w₁, .openClient .run, .ok ()⟩]) ++
      [⟨w₂, .resolveRepository, .ok repository⟩]) ++ [⟨w₃, .resolveDcs, .ok target⟩]) =
      discoveries log := by simp [discoveries, discovery]
  have hnone : ∀ t, ¬ Acquired t (((log ++ [⟨w₁, .openClient .run, .ok ()⟩]) ++
      [⟨w₂, .resolveRepository, .ok repository⟩]) ++ [⟨w₃, .resolveDcs, .ok target⟩]) := by
    intro t
    rw [acquired_quiet (by simp [quiet]), acquired_quiet (by simp [quiet]),
      acquired_quiet (by simp [quiet])]
    exact hnone t
  generalize ((log ++ [⟨w₁, .openClient .run, .ok ()⟩]) ++
      [⟨w₂, .resolveRepository, .ok repository⟩]) ++ [⟨w₃, .resolveDcs, .ok target⟩] = log' at *
  have hcall : Meeting o serve (call (.acquire (o.acquireRequest repository target)))
      (fun a s' log'' => ∃ w, s' = { s with client := true } ∧
        log'' = log' ++ [⟨w, .acquire (o.acquireRequest repository target), a⟩])
      { s with client := true } log' := meeting_call trivial fun w a => ⟨w, rfl, rfl⟩
  refine hcall.bind ?_ ?_
  · rintro row s' log'' ⟨w, rfl, rfl⟩
    refine ensures_modify.mpr ⟨⟨⟨⟨?_, ?_, h.uncommitted, ?_, h.evidence.append _⟩, Or.inl rfl⟩, ?_⟩,
      rfl, Option.some_ne_none _, rfl, ?_⟩
    · intro e he
      rcases List.mem_append.mp he with he | he
      · exact h.unmigrated e he
      · cases List.mem_singleton.mp he
        exact fun hne => nomatch hne
    · rw [reactivated, List.filterMap_append]
      exact List.append_eq_nil_iff.mpr ⟨h.unreactivated, rfl⟩
    · intro t
      constructor
      · intro ht
        exact ⟨_, List.mem_append_right _ (List.mem_singleton_self _), _, row, ⟨w, rfl⟩,
          Option.some.inj ht⟩
      · rintro ⟨e, he, a, row', ⟨w', rfl⟩, rfl⟩
        rcases List.mem_append.mp he with he | he
        · exact absurd ⟨_, he, a, row', ⟨w', rfl⟩, rfl⟩ (hnone row'.lease.fencingToken)
        · cases List.mem_singleton.mp he
          rfl
    · refine h.fine.append fun e he _ => ?_
      cases List.mem_singleton.mp he
      exact ⟨row, rfl⟩
    · rw [← hdiscoveries]
      simp [discoveries, discovery]
  · rintro e s' log'' ⟨w, rfl, rfl⟩
    have hnone' : ∀ t, ¬ Acquired t (log' ++
        [⟨w, .acquire (o.acquireRequest repository target), .error e⟩]) := by
      rintro t ⟨ev, he, a, row, ⟨w', rfl⟩, ht⟩
      rcases List.mem_append.mp he with he | he
      · exact hnone t ⟨_, he, a, row, ⟨w', rfl⟩, ht⟩
      · cases List.mem_singleton.mp he
    refine ⟨⟨⟨?_, ?_, h.uncommitted, fun t => ?_, h.evidence.append _⟩, Or.inl rfl⟩,
      Or.inl ⟨log', _, rfl, rfl, rfl⟩⟩
    · intro ev he
      rcases List.mem_append.mp he with he | he
      · exact h.unmigrated ev he
      · cases List.mem_singleton.mp he
        exact fun hne => nomatch hne
    · rw [reactivated, List.filterMap_append]
      exact List.append_eq_nil_iff.mpr ⟨h.unreactivated, rfl⟩
    · exact iff_of_false (fun ht => hnone t ((h.token t).mp ht)) (hnone' t)

theorem tame_captureCursor : Tame o serve Plain o.captureGlobalWriterEventCursor := by
  refine tame_bind (tame_call rfl rfl) fun row => ?_
  cases row with
  | none => exact tame_reject (Or.inl ⟨_, _, rfl⟩)
  | some row =>
    refine tame_fields fun s log hknown => ?_
    refine tame_bind tame_plain (fun _ => ?_) s log hknown
    exact fun s log hknown => ensures_modify.mpr (kept_write s
      { s with globalWriterEventCursor := some row.eventSeq }
      ⟨rfl, rfl, rfl, rfl, fun _ => Option.some_ne_none _⟩ (fun _ hm => hm) hknown ())

/-- The guard passes only with a cursor. -/
theorem meets_guard_cursor (h : Going s log) :
    Meeting o serve (assertGlobalWriterEventGuard .run) (Prior fun a s' log' =>
      Going s' log' ∧ Kept o Plain s log (.ok a) s' log' ∧ s'.globalWriterEventCursor ≠ none)
      s log := by
  by_cases hcursor : s.globalWriterEventCursor = none
  · refine meeting_fields ?_
    rw [hcursor]
    exact ensures_raise.mpr ⟨h.toBefore, Or.inr (Or.inl ⟨_, _, rfl⟩)⟩
  · exact h.ends tame_guard fun _ s' log' h' hk => ⟨h', hk, hk.cursor hcursor⟩

/-! ### The writers -/

/-- The writers of an inventory are the ones discovered, each of them who it was, and no
two of one identity. -/
def Inventory (writers : List (Option RuntimeWriter)) (inventory : List RuntimeWriter) : Prop :=
  writers = inventory.map some ∧ (∀ w ∈ inventory, w.identityValidation = "MATCH") ∧
    (inventory.map (·.identity)).Nodup

theorem meets_inventoryOf (writers : List (Option RuntimeWriter)) (inventory : List RuntimeWriter)
    {seen : List (Option RuntimeWriter)} (h : Inventory seen inventory) :
    Meeting o serve (inventoryOf o inventory writers) (fun r s' log' => s' = s ∧ log' = log ∧
      match r with
      | .ok all => Inventory (seen ++ writers) all
      | .error e => Plain e) s log := by
  induction writers generalizing inventory seen with
  | nil =>
    rw [List.append_nil]
    exact ensures_pure.mpr ⟨rfl, rfl, h⟩
  | cons writer writers ih =>
    cases writer with
    | none => exact ensures_raise.mpr ⟨rfl, rfl, Or.inl ⟨_, _, rfl⟩⟩
    | some w =>
      have hcheck : Meeting o serve (o.checkWriter inventory w) (fun r s' log' =>
          s' = s ∧ log' = log ∧
          match r with
          | .ok _ => w.identity ∉ inventory.map (·.identity) ∧ w.identityValidation = "MATCH"
          | .error e => Plain e) s log := by
        refine meeting_check (fun _ => ?_) fun _ => ⟨rfl, rfl, Or.inl ⟨_, _, rfl⟩⟩
        refine meeting_check (fun _ => ?_) fun _ => ⟨rfl, rfl, Or.inl ⟨_, _, rfl⟩⟩
        refine meeting_check (fun hnew => ?_) fun _ => ⟨rfl, rfl, Or.inl ⟨_, _, rfl⟩⟩
        refine meeting_check (fun hmatch => ?_) fun _ => ⟨rfl, rfl, Or.inl ⟨_, _, rfl⟩⟩
        refine meeting_check (fun _ => ?_) fun _ => ⟨rfl, rfl, Or.inl ⟨_, _, rfl⟩⟩
        exact meeting_demand (fun _ => ⟨rfl, rfl, hnew, hmatch⟩) fun _ => ⟨rfl, rfl, Or.inl ⟨_, _, rfl⟩⟩
      refine hcheck.bind ?_ ?_
      · rintro _ s' log' ⟨rfl, rfl, hnew, hmatch⟩
        have hinventory : Inventory (seen ++ [some w]) (inventory ++ [w]) := by
          obtain ⟨rfl, hmatches, hnodup⟩ := h
          refine ⟨by simp, ?_, ?_⟩
          · intro w' hw'
            rcases List.mem_append.mp hw' with hw' | hw'
            · exact hmatches w' hw'
            · cases List.mem_singleton.mp hw'
              exact hmatch
          · rw [List.map_append, List.nodup_append]
            refine ⟨hnodup, by simp, ?_⟩
            intro a ha b hb
            cases List.mem_singleton.mp hb
            rintro rfl
            exact hnew ha
        have h := ih (inventory ++ [w]) hinventory
        rw [List.append_assoc, List.singleton_append] at h
        exact h
      · rintro e s' log' ⟨rfl, rfl, he⟩
        exact ⟨rfl, rfl, he⟩

theorem meets_classifyInventory (writers : List (Option RuntimeWriter)) :
    Meeting o serve (o.classifyInventory writers) (fun r s' log' => s' = s ∧ log' = log ∧
      match r with
      | .ok inventory => Inventory writers inventory
      | .error e => Plain e) s log := by
  have hempty : Inventory [] [] := ⟨rfl, fun w hw => absurd hw List.not_mem_nil, List.nodup_nil⟩
  refine (meets_inventoryOf writers [] hempty).bind ?_ fun e s' log' he => he
  rintro inventory s' log' ⟨rfl, rfl, hinventory⟩
  exact meeting_check (fun _ => ensures_pure.mpr ⟨rfl, rfl, hinventory⟩)
    fun _ => ⟨rfl, rfl, Or.inl ⟨_, _, rfl⟩⟩

theorem active_inventory {writers : List (Option RuntimeWriter)} {inventory : List RuntimeWriter}
    (h : Inventory writers inventory) :
    active writers = (inventory.filter (·.state = "ACTIVE")).map (·.identity) := by
  obtain ⟨rfl, -, -⟩ := h
  unfold active
  rw [List.filterMap_map]
  simp

/-- The token is as it was, and so is a cursor. -/
structure SameLease (s s' : Fields) : Prop where
  client : s'.client = s.client
  token : s'.token = s.token
  cursor : s.globalWriterEventCursor ≠ none → s'.globalWriterEventCursor ≠ none

theorem SameLease.trans (h : SameLease s s') (h' : SameLease s' s'') : SameLease s s'' :=
  ⟨h'.client.trans h.client, h'.token.trans h.token, fun hc => h'.cursor (h.cursor hc)⟩

theorem Kept.sameLease {r : Except MigrationError α} (hk : Kept o extra s log r s' log') :
    SameLease s s' := ⟨hk.client, hk.token, hk.cursor⟩

/-- One writer, stopped when it is ACTIVE. -/
theorem meets_quiesceWriter (w : RuntimeWriter) (h : Going s log) :
    Meeting o serve (o.quiesceWriter w) (Prior fun _ s' log' => Going s' log' ∧ SameLease s s' ∧
      s'.quiesced.map (·.identity) = s.quiesced.map (·.identity) ++
        ([w].filter (·.state = "ACTIVE")).map (·.identity) ∧
      discoveries log' = discoveries log) s log := by
  unfold quiesceWriter
  by_cases hactive : w.state = "ACTIVE"
  · rw [if_pos hactive]
    refine h.andThen tame_guarded fun _ s₁ log₁ h hk₁ => ?_
    refine h.call rfl rfl fun w₂ _ h _ => meeting_modify ?_
    -- from here on the failure handling keeps the writers stopped
    have h : Going { s₁ with executionState := .quiescedPreTransaction }
        (log₁ ++ [⟨w₂, .quiesce w, .ok ()⟩]) :=
      { h with uncommitted := fun hne => nomatch hne }
    refine h.call rfl rfl fun w₃ observed h _ => ?_
    refine meeting_check (fun hidentity => ?_) fun _ => ⟨h.toBefore, Or.inr (Or.inl ⟨_, _, rfl⟩)⟩
    refine meeting_check (fun _ => ?_) fun _ => ⟨h.toBefore, Or.inr (Or.inl ⟨_, _, rfl⟩)⟩
    refine h.andThen tame_guarded fun _ s₄ log₄ h hk₄ => ?_
    refine ensures_modify.mpr ⟨{ h with }, ?_, ?_, ?_⟩
    · exact hk₁.sameLease.trans ⟨hk₄.client, hk₄.token, hk₄.cursor⟩
    · show (s₄.quiesced ++ [observed]).map _ = _
      rw [hk₄.quiesced]
      simp [hactive, hk₁.quiesced, hidentity.1]
    · obtain ⟨more, rfl, hquiet, -⟩ := hk₁.grown
      obtain ⟨more', rfl, hquiet', -⟩ := hk₄.grown
      rw [discoveries_quiet hquiet', discoveries_quiet, discoveries_quiet, discoveries_quiet hquiet]
      · simp [quiet]
      · simp [quiet]
  · rw [if_neg hactive]
    exact ensures_pure.mpr ⟨h, ⟨rfl, rfl, id⟩, by simp [hactive], rfl⟩

/-- A part of `prepare` that is not tame, and what follows it. -/
theorem Prior.bind {m : MigrationMethod α} {f : α → MigrationMethod β}
    {mid : α → Fields → MigrationLog ω → Prop} {good : β → Fields → MigrationLog ω → Prop}
    (hm : Meeting o serve m (Prior mid) s log)
    (hf : ∀ a s' log', mid a s' log' → Meeting o serve (f a) (Prior good) s' log') :
    Meeting o serve (m >>= f) (Prior good) s log :=
  Ensures.bind hm hf fun _ _ _ h => h

/-- Every writer that is still to be looked at, in order. -/
theorem meets_quiesceEach (ws : List RuntimeWriter) (h : Going s log) :
    Meeting o serve (each o.quiesceWriter ws) (Prior fun _ s' log' => Going s' log' ∧ SameLease s s' ∧
      s'.quiesced.map (·.identity) = s.quiesced.map (·.identity) ++
        (ws.filter (·.state = "ACTIVE")).map (·.identity) ∧
      discoveries log' = discoveries log) s log := by
  induction ws generalizing s log with
  | nil => exact ensures_pure.mpr ⟨h, ⟨rfl, rfl, id⟩, by simp, rfl⟩
  | cons w ws ih =>
    refine Prior.bind (meets_quiesceWriter w h) fun _ s₁ log₁ ⟨h₁, hlease, hmid⟩ => ?_
    refine (ih h₁).mono fun r s' log' hr => ?_
    cases r with
    | error e => exact hr
    | ok _ =>
      refine ⟨hr.1, hlease.trans hr.2.1, ?_, hr.2.2.2.trans hmid.2⟩
      rw [hr.2.2.1, hmid.1, List.append_assoc, ← List.map_append, ← List.filter_append]
      rfl

/-- A discovery, and its inventory. -/
theorem meets_discover {f : List RuntimeWriter → MigrationMethod α}
    {good : α → Fields → MigrationLog ω → Prop} (h : Going s log)
    (hf : ∀ w writers inventory, Inventory writers inventory →
      Going s (log ++ [⟨w, .discover, .ok writers⟩]) →
      Meeting o serve (f inventory) (Prior good) s (log ++ [⟨w, .discover, .ok writers⟩])) :
    Meeting o serve (call .discover >>= fun writers => o.classifyInventory writers >>= f)
      (Prior good) s log := by
  have hcall : Meeting o serve (call .discover)
      (fun a s' log' => ∃ w, s' = s ∧ log' = log ++ [⟨w, .discover, a⟩]) s log :=
    meeting_call trivial fun w a => ⟨w, rfl, rfl⟩
  have hbefore : ∀ (w : ω) a, Before s (log ++ [⟨w, .discover, a⟩]) := by
    intro w a
    have hacquired : ∀ t, Acquired t (log ++ [⟨w, .discover, a⟩]) ↔ Acquired t log := by
      intro t
      constructor
      · rintro ⟨e, he, b, row, ⟨w', rfl⟩, ht⟩
        rcases List.mem_append.mp he with he | he
        · exact ⟨_, he, b, row, ⟨w', rfl⟩, ht⟩
        · cases List.mem_singleton.mp he
      · rintro ⟨e, he, hrest⟩
        exact ⟨e, List.mem_append_left _ he, hrest⟩
    refine ⟨⟨?_, ?_, h.uncommitted, fun t => ?_, h.evidence.append _⟩, ?_⟩
    · intro e he
      rcases List.mem_append.mp he with he | he
      · exact h.unmigrated e he
      · cases List.mem_singleton.mp he
        exact fun hne => nomatch hne
    · rw [reactivated, List.filterMap_append]
      exact List.append_eq_nil_iff.mpr ⟨h.unreactivated, rfl⟩
    · rw [hacquired]
      exact h.token t
    · refine h.client.imp_right fun hnone t => ?_
      rw [hacquired]
      exact hnone t
  refine hcall.bind ?_ ?_
  · rintro writers s' log' ⟨w, rfl, rfl⟩
    refine (meets_classifyInventory writers).bind ?_ ?_
    · rintro inventory s'' log' ⟨rfl, rfl, hinventory⟩
      refine hf w writers inventory hinventory ⟨hbefore w _, h.fine.append fun e he _ => ?_⟩
      cases List.mem_singleton.mp he
      exact ⟨writers, rfl⟩
    · rintro e s'' log' ⟨rfl, rfl, he⟩
      exact ⟨hbefore w _, Or.inr he⟩
  · rintro e s' log' ⟨w, rfl, rfl⟩
    exact ⟨hbefore w _, Or.inl ⟨log, _, rfl, rfl, rfl⟩⟩

theorem discoveries_discover (log : MigrationLog ω) (w : ω) (writers : List (Option RuntimeWriter)) :
    discoveries (log ++ [⟨w, .discover, .ok writers⟩]) = discoveries log ++ [writers] := by
  simp [discoveries, discovery]

/-- Every writer has been discovered and seen stopped, and the ones that were ACTIVE are
remembered. -/
structure Quieted (s : Fields) (log : MigrationLog ω) (first second : List (Option RuntimeWriter)) :
    Prop where
  discovered : discoveries log = [first, second]
  order : InOrder [Answered .discover (.ok first), Answered .discover (.ok second)] log
  stopped : Stopped first second
  quiesced : s.quiesced.map (·.identity) = active first
  once : (active first).Nodup

theorem Quieted.kept {first second : List (Option RuntimeWriter)} {r : Except MigrationError α}
    (h : Quieted s log first second) (hk : Kept o extra s log r s' log') :
    Quieted s' log' first second := by
  obtain ⟨more, rfl, hquiet, -⟩ := hk.grown
  exact ⟨by rw [discoveries_quiet hquiet, h.discovered], h.order.append more, h.stopped,
    by rw [hk.quiesced, h.quiesced], h.once⟩

theorem stopped_of {first second : List (Option RuntimeWriter)} {before after : List RuntimeWriter}
    (hbefore : Inventory first before) (hafter : Inventory second after)
    (hall : ∀ w ∈ before, w.identity ∈ after.map (·.identity))
    (hquiesced : ∀ w ∈ after, w.state = "QUIESCED") : Stopped first second := by
  obtain ⟨rfl, -, -⟩ := hbefore
  obtain ⟨rfl, hmatch, -⟩ := hafter
  constructor
  · intro w hw
    obtain ⟨w', hw', he⟩ := List.mem_map.mp (hall w (by simpa using hw))
    exact ⟨w', List.mem_map.mpr ⟨w', hw', rfl⟩, he⟩
  · intro w hw
    have hw : w ∈ after := by simpa using hw
    exact ⟨hquiesced w hw, hmatch w hw⟩

theorem meets_quiesce (h : Going s log) (hnone : discoveries log = []) (hempty : s.quiesced = []) :
    Meeting o serve o.quiesce (Prior fun _ s' log' => Going s' log' ∧ SameLease s s' ∧
      ∃ first second, Quieted s' log' first second) s log := by
  refine meets_discover h fun w₁ first before hbefore h₁ => ?_
  refine Prior.bind (meets_quiesceEach before h₁) fun _ s₂ log₂ ⟨h₂, hlease, hmid⟩ => ?_
  obtain ⟨hquiesced, hdiscovered⟩ := hmid
  rw [hempty, List.map_nil, List.nil_append, ← active_inventory hbefore] at hquiesced
  rw [discoveries_discover, hnone, List.nil_append] at hdiscovered
  refine h₂.andThen tame_guarded fun _ s₃ log₃ h₃ hk₃ => ?_
  refine meets_discover h₃ fun w₄ second after hafter h₄ => ?_
  refine meeting_check (fun hsame => ?_) fun _ => ⟨h₄.toBefore, Or.inr (Or.inl ⟨_, _, rfl⟩)⟩
  refine meeting_check (fun hstopped => ?_) fun _ => ⟨h₄.toBefore, Or.inr (Or.inl ⟨_, _, rfl⟩)⟩
  obtain ⟨more, rfl, hquiet, -⟩ := hk₃.grown
  have hall : discoveries ((log₂ ++ more) ++ [⟨w₄, .discover, .ok second⟩]) = [first, second] := by
    rw [discoveries_discover, discoveries_quiet hquiet, hdiscovered]
    rfl
  have horder : InOrder [Answered .discover (.ok first), Answered .discover (.ok second)]
      ((log₂ ++ more) ++ [⟨w₄, .discover, .ok second⟩]) := by
    have hfirst : InOrder [Answered .discover (.ok first)] log₂ := by
      have hmem : first ∈ discoveries log₂ := by
        rw [hdiscovered]
        exact List.mem_singleton_self _
      obtain ⟨⟨w, c, a⟩, he, hdiscovery⟩ := List.mem_filterMap.mp hmem
      refine inOrder_single.mpr ⟨_, he, ?_⟩
      cases c <;> cases a <;> cases hdiscovery
      exact ⟨w, rfl⟩
    exact (hfirst.append more).snoc ⟨w₄, rfl⟩
  have hquieted : Quieted s₃ ((log₂ ++ more) ++ [⟨w₄, .discover, .ok second⟩]) first second := by
    refine ⟨hall, horder, stopped_of hbefore hafter hsame.2 hstopped, ?_, ?_⟩
    · rw [hk₃.quiesced, hquiesced]
    · rw [active_inventory hbefore]
      exact hbefore.2.2.sublist (List.filter_sublist.map _)
  exact h₄.ends tame_guarded fun _ s₅ log₅ h₅ hk₅ =>
    ⟨h₅, hlease.trans (hk₃.sameLease.trans hk₅.sameLease), first, second, hquieted.kept hk₅⟩

end Adcp.L5.Migration
