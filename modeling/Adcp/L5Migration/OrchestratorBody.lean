import Adcp.L5Migration.OrchestratorRun

/-!
# A run of the orchestrator

What the body of `run` leaves, part by part, and the run with its handler.

* `Prepared`: where the transaction is begun from.
* `Cause`: the seven ways an exception leaves the body.
* `meets_body`: every exception of the body has a cause, and a body that returns has
  reactivated what it stopped and released its lease.
* `meets_run`: the same of `run`, with what its handler reports and releases.
-/
namespace Adcp.L5.Migration

open Adcp.L1 Adcp.L2 Adcp.L3 Method Script Orchestrator

variable {ω α β : Type} {o : Orchestrator}
  {serve : ω → (c : MigrationCall) → Except MigrationError (Answer c) → ω → Prop}
  {extra : MigrationError → Prop} {s s' s'' : Fields} {log log' log'' : MigrationLog ω}

/-! ## Up to the transaction -/

/-- What the transaction is begun from. -/
structure Prepared (o : Orchestrator) (baseline : PreservationBaseline) (s : Fields)
    (log : MigrationLog ω) : Prop extends Unmigrated s log where
  fine : AllFine log
  closed : s.client = false
  leased : s.token ≠ none
  cursor : s.globalWriterEventCursor ≠ none
  backed : BackedUp o log
  captured : InOrder [Answered (.captureBaseline 6) (.ok baseline)] log
  authorised : s.authorityEvidence ≠ none
  quieted : ∃ first second, Quieted s log first second

theorem tame_boundToken : Tame o serve Plain boundToken := by
  refine tame_fields fun s log hknown => ?_
  cases s.token with
  | some token => exact tame_pure token s log hknown
  | none => exact ensures_raise.mpr (kept_error hknown (Or.inr (Or.inl (Or.inr ⟨_, rfl⟩))))

/-- After `backUp`, everything that a call to migrate needs has been seen. -/
theorem meets_backUp (h : Going s log) {first second : List (Option RuntimeWriter)}
    (hq : Quieted s log first second) :
    Meeting o serve o.backUp (Prior fun _ s' log' => Going s' log' ∧ BackedUp o log' ∧
      ∃ a, Kept o Plain s log (.ok a : Except _ BackupEvidence) s' log') s log := by
  refine h.andThen tame_boundToken fun token s₁ log₁ h₁ hk₁ => ?_
  refine h₁.call rfl rfl fun w₂ created h₂ hk₂ => h₂.call rfl rfl fun w₃ backup h₃ hk₃ => ?_
  refine h₃.call rfl rfl fun w₄ _ h₄ hk₄ => h₄.call rfl rfl fun w₅ row h₅ hk₅ => ?_
  have hk := hk₁.trans (hk₂.trans (hk₃.trans (hk₄.trans hk₅)))
  have hcreated := (hq.kept (hk₁.trans hk₂)).order.snoc
    (P := Answered (.createBackup token created) (.ok backup)) ⟨w₃, rfl⟩
  have hverified := hcreated.snoc (P := Answered (.verifyBackup backup) (.ok ())) ⟨w₄, rfl⟩
  have horder := hverified.snoc
    (P := Answered (.heartbeat o.ownerId token leaseTtlSeconds) (.ok row)) ⟨w₅, rfl⟩
  refine h₅.andThen tame_assertCurrent fun _ s₆ log₆ h₆ hk₆ => ?_
  obtain ⟨more, rfl, -⟩ := hk₆.grown
  cases hexpires : row.lease.expiresAt with
  | none => exact ensures_raise.mpr ⟨h₆.toBefore, Or.inr (Or.inr ⟨_, rfl⟩)⟩
  | some expires =>
    refine h₆.call rfl rfl fun w₇ now h₇ hk₇ => ?_
    refine meeting_check (fun hhorizon => ?_) fun _ => ⟨h₇.toBefore, Or.inr (Or.inl ⟨_, _, rfl⟩)⟩
    refine ensures_pure.mpr ⟨h₇, ?_, backup,
      hk.trans (hk₆.trans (hk₇.trans (kept_refl h₇.evidence backup)))⟩
    exact ⟨first, second, token, created, backup, row, expires, now,
      (horder.append more).snoc ⟨w₇, rfl⟩, hq.stopped, hexpires, hhorizon⟩

/-- The end of `prepare`: prepared for the transaction, or not yet come to it. -/
def PreparedEnd (o : Orchestrator) (r : Except MigrationError (BackupEvidence × PreservationBaseline))
    (s : Fields) (log : MigrationLog ω) : Prop :=
  Prior (fun p s log => Prepared o p.2 s log) r s log

theorem going_initial : Going Fields.initial ([] : MigrationLog ω) where
  unmigrated _ he := absurd he List.not_mem_nil
  unreactivated := rfl
  uncommitted hne := nomatch hne
  token t := by
    refine iff_of_false (fun ht => nomatch ht) ?_
    rintro ⟨_, he, -⟩
    exact List.not_mem_nil he
  evidence _ hm := nomatch hm
  client := Or.inr fun _ ⟨_, he, _⟩ => List.not_mem_nil he
  fine _ he := absurd he List.not_mem_nil

theorem meets_prepare : Meeting o serve o.prepare (PreparedEnd o) Fields.initial [] := by
  refine going_initial.andThen tame_preflight fun _ s₁ log₁ h₁ hk₁ => ?_
  obtain ⟨more, hmore, hquiet, -⟩ := hk₁.grown
  have hnone : ∀ t, ¬ Acquired t log₁ := by
    intro t
    rw [hmore, acquired_quiet hquiet]
    exact fun ⟨_, he, _⟩ => List.not_mem_nil he
  have hdiscovered : discoveries log₁ = [] := by
    rw [hmore, discoveries_quiet hquiet]
    rfl
  refine Prior.bind (meets_bindLease h₁ hnone) fun _ s₂ log₂ h₂ => ?_
  obtain ⟨h₂, hclient, htoken, hempty, hsame⟩ := h₂
  refine h₂.andThen tame_assertCurrent fun _ s₃ log₃ h₃ hk₃ => ?_
  refine h₃.andThen tame_captureCursor fun _ s₄ log₄ h₄ hk₄ => ?_
  refine Prior.bind (meets_guard_cursor h₄) fun _ s₅ log₅ h₅ => ?_
  obtain ⟨h₅, hk₅, hcursor⟩ := h₅
  refine h₅.call rfl rfl fun w₆ _ h₆ hk₆ => ?_
  refine h₆.andThen tame_startPump fun _ s₇ log₇ h₇ hk₇ => ?_
  have hk := hk₃.trans (hk₄.trans (hk₅.trans (hk₆.trans hk₇)))
  obtain ⟨more', hmore', hquiet', -⟩ := hk.grown
  have hdiscovered₇ : discoveries log₇ = [] := by
    rw [hmore', discoveries_quiet hquiet', hsame, hdiscovered]
  have hempty₇ : s₇.quiesced = [] := by
    rw [hk.quiesced, hempty, hk₁.quiesced]
    rfl
  refine Prior.bind (meets_quiesce h₇ hdiscovered₇ hempty₇) fun _ s₈ log₈ h₈ => ?_
  obtain ⟨h₈, hlease, first, second, hquieted⟩ := h₈
  refine h₈.andThen tame_stopPump fun _ s₉ log₉ h₉ hk₉ => ?_
  have hbound₉ : Bound s₉ := by
    have hcursor₇ := hk₇.cursor (hk₆.cursor hcursor)
    refine ⟨?_, ?_, hk₉.cursor (hlease.cursor hcursor₇)⟩
    · rw [hk₉.client, hlease.client, hk.client]
      exact hclient
    · rw [hk₉.token, hlease.token, hk.token]
      exact htoken
  obtain ⟨token, htoken₉⟩ := Option.ne_none_iff_exists'.mp hbound₉.2.1
  have hguarded : Meeting o serve o.guarded (Prior fun a s' log' => Going s' log' ∧
      Kept o Plain s₉ log₉ (.ok a) s' log' ∧ s'.authorityEvidence ≠ none) s₉ log₉ := by
    refine (meets_guarded Plain hbound₉ htoken₉ h₉.evidence).mono fun r s' log' h => ?_
    have hk : Kept o Plain s₉ log₉ r s' log' := h.1
    cases r with
    | error e => exact ⟨h₉.toBefore.kept hk, hk.raised⟩
    | ok a =>
      obtain ⟨_, _, _, _, _, -, -, -, hauthority⟩ := h.2 ⟨a, rfl⟩
      exact ⟨h₉.kept hk, hk, hauthority⟩
  refine Prior.bind hguarded fun _ s₁₀ log₁₀ ⟨h₁₀, hk₁₀, hauthority⟩ => ?_
  refine Prior.bind (meets_backUp h₁₀ ((hquieted.kept hk₉).kept hk₁₀)) fun backup s₁₁ log₁₁ h₁₁ => ?_
  obtain ⟨h₁₁, hbacked, _, hk₁₁⟩ := h₁₁
  refine h₁₁.call rfl rfl fun w₁₂ baseline h₁₂ hk₁₂ => h₁₂.call rfl rfl fun w₁₃ _ h₁₃ hk₁₃ => ?_
  refine meeting_modify (ensures_pure.mpr ?_)
  have hkept := (hk₉.trans hk₁₀).trans (hk₁₁.trans (hk₁₂.trans hk₁₃))
  have hall := hk.sameLease.trans (hlease.trans hkept.sameLease)
  have hcaptured : InOrder [Answered (.captureBaseline 6) (.ok baseline)]
      (log₁₁ ++ [⟨w₁₂, .captureBaseline 6, .ok baseline⟩]) :=
    inOrder_single.mpr ⟨_, List.mem_append_right _ (List.mem_singleton_self _), w₁₂, rfl⟩
  have hbacked₁₃ : BackedUp o ((log₁₁ ++ [⟨w₁₂, .captureBaseline 6, .ok baseline⟩]) ++
      [⟨w₁₃, .closeClient .run, .ok ()⟩]) := by
    obtain ⟨f, g, t, created, b, row, expires, now, horder, hrest⟩ := hbacked
    exact ⟨f, g, t, created, b, row, expires, now, (horder.append _).append _, hrest⟩
  exact
    { unmigrated := h₁₃.unmigrated, unreactivated := h₁₃.unreactivated
      uncommitted := h₁₃.uncommitted, token := h₁₃.token, evidence := h₁₃.evidence
      fine := h₁₃.fine, closed := rfl
      leased := by
        show s₁₁.token ≠ none
        rw [hall.token]
        exact htoken
      cursor := hkept.cursor (hlease.cursor (hk₇.cursor (hk₆.cursor hcursor)))
      backed := hbacked₁₃
      captured := hcaptured.append _
      authorised := by
        obtain ⟨m, hm⟩ := Option.ne_none_iff_exists'.mp hauthority
        have hheld := (hk₁₁.trans (hk₁₂.trans hk₁₃)).authority m hm
        exact fun hnone => nomatch hheld.symm.trans hnone
      quieted := ⟨first, second, { hquieted.kept hkept with }⟩ }

/-! ## Causes -/

/-- The calls made while there is no client. -/
def windowCall : MigrationCall → Bool
  | .connect | .enableForeignKeys | .monotonic | .closeConnection => true
  | _ => false

/-- The last call was `c`, answered `a`. -/
def Last (c : MigrationCall) (a : Except MigrationError (Answer c)) (log : MigrationLog ω) : Prop :=
  ∃ before ev, log = before ++ [ev] ∧ Answered c a ev

/-- What the orchestrator raises itself once it has read the version after the
transaction. -/
def After (version : Int) (e : MigrationError) : Prop :=
  (∃ text, e = .other text) ∨
  (∃ code detail, e = .migration code detail (phaseAfter version) (some version)) ∨
  (version ≠ 7 ∧ ∃ code detail, e = .migration code detail .rollback (some 6))

/-- Where an exception of the body comes from: a step before the transaction; a call made
without a client; a rebind that came too late; one that failed, with the version read or
not; the version not read after a rebind; or a step after that. -/
inductive Cause (o : Orchestrator) (s : Fields) (log : MigrationLog ω) (e : MigrationError) : Prop
  | early (before : Before s log) (raised : Own log e ∨ Plain e)
  | shut (before : MigrationLog ω) (ev : MigrationEvent ω) (last : log = before ++ [ev])
      (window : windowCall ev.made = true) (raised : ev.answer = .error e)
      (uncommitted : s.executionState ≠ .committedV7)
  | delayed (raised : ∃ code detail, e = .migration code detail .ambiguous none)
  | ambiguous (version : Int) (last : Last (.readSchemaVersion .rebindFailed) (.ok version) log)
      (raised : ∃ code detail, e = .migration code detail .ambiguous (some version))
  | unreadable (last : Last (.readSchemaVersion .rebindFailed) (.error e) log)
      (state : s.executionState = .ambiguousAuthority)
  | unread (last : Last (.readSchemaVersion .run) (.error e) log)
      (state : s.executionState = .migrationTransactionOrRollback) (client : s.client = true)
  | observed (version : Int)
      (seen : InOrder [(·.made = .migrate), Answered (.readSchemaVersion .run) (.ok version)] log)
      (state : s.executionState = stateAfter version) (client : s.client = true)
      (raised : Own log e ∨ After version e ∨ (Default e ∧ Slipped o log))

/-- The end of a part of the body. -/
def Ended (o : Orchestrator) (good : α → Fields → MigrationLog ω → Prop)
    (r : Except MigrationError α) (s : Fields) (log : MigrationLog ω) : Prop :=
  match r with
  | .ok a => good a s log
  | .error e => (∀ t, s.token = some t ↔ Acquired t log) ∧ Cause o s log e

theorem Ended.bind {m : MigrationMethod α} {f : α → MigrationMethod β}
    {mid : α → Fields → MigrationLog ω → Prop} {good : β → Fields → MigrationLog ω → Prop}
    (hm : Meeting o serve m (Ended o mid) s log)
    (hf : ∀ a s' log', mid a s' log' → Meeting o serve (f a) (Ended o good) s' log') :
    Meeting o serve (m >>= f) (Ended o good) s log :=
  Ensures.bind hm hf fun _ _ _ h => h

theorem Prior.ended {good : α → Fields → MigrationLog ω → Prop} {r : Except MigrationError α}
    (h : Prior good r s log) : Ended o good r s log := by
  cases r with
  | ok a => exact h
  | error e => exact ⟨h.1.token, .early h.1 h.2⟩

/-! ## The transaction -/

theorem Prepared.kept {baseline : PreservationBaseline} {a : α} (h : Prepared o baseline s log)
    (hk : Kept o extra s log (.ok a) s' log') : Prepared o baseline s' log' := by
  obtain ⟨first, second, hquieted⟩ := h.quieted
  have hunmigrated := h.toUnmigrated.kept hk
  have hquieted' := hquieted.kept hk
  obtain ⟨more, rfl, hquiet, hfine⟩ := hk.grown
  refine ⟨hunmigrated, h.fine.append (hfine ⟨a, rfl⟩), hk.client.trans h.closed, ?_,
    hk.cursor h.cursor, ?_, h.captured.append more, ?_, first, second, hquieted'⟩
  · rw [hk.token]
    exact h.leased
  · obtain ⟨f, g, t, created, b, row, expires, now, horder, hrest⟩ := h.backed
    exact ⟨f, g, t, created, b, row, expires, now, horder.append more, hrest⟩
  · obtain ⟨m, hm⟩ := Option.ne_none_iff_exists'.mp h.authorised
    rw [hk.authority m hm]
    exact Option.some_ne_none m

/-- The evidence that the object holds was taken before the migration. -/
def Authorised (s : Fields) (log : MigrationLog ω) : Prop :=
  ∃ first, s.authorityEvidence = some (first.getD []) ∧
    InOrder [Answered .validateAuthority (.ok first), (·.made = .migrate)] log

theorem Authorised.append (h : Authorised s log) (hheld : ∀ m, s.authorityEvidence = some m →
    s'.authorityEvidence = some m) (more : MigrationLog ω) : Authorised s' (log ++ more) := by
  obtain ⟨first, hfirst, horder⟩ := h
  exact ⟨first, hheld _ hfirst, horder.append more⟩

/-- What holds once the migration has returned or raised. -/
structure Settled (o : Orchestrator) (baseline : PreservationBaseline)
    (outcome : Except MigrationError Unit) (s : Fields) (log : MigrationLog ω) : Prop where
  order : InOrder [Answered (.captureBaseline 6) (.ok baseline), Answered .migrate outcome] log
  state : s.executionState = .migrationTransactionOrRollback
  token : ∀ t, s.token = some t ↔ Acquired t log
  leased : s.token ≠ none
  cursor : s.globalWriterEventCursor ≠ none
  evidence : EvidenceKnown s log
  authorised : Authorised s log
  fine : AllFine log
  unreactivated : reactivated log = []
  quieted : ∃ first second, Quieted s log first second

variable {baseline : PreservationBaseline} {outcome : Except MigrationError Unit}

theorem Settled.kept {a : α} (h : Settled o baseline outcome s log)
    (hk : Kept o extra s log (.ok a) s' log') : Settled o baseline outcome s' log' := by
  obtain ⟨first, second, hquieted⟩ := h.quieted
  have hquieted' := hquieted.kept hk
  obtain ⟨more, rfl, hquiet, hfine⟩ := hk.grown
  refine ⟨h.order.append more, hk.executionState.trans h.state, fun t => ?_, ?_, hk.cursor h.cursor,
    hk.evidence, h.authorised.append hk.authority more, h.fine.append (hfine ⟨a, rfl⟩), ?_, first,
    second, hquieted'⟩
  · rw [hk.token, acquired_quiet hquiet]
    exact h.token t
  · rw [hk.token]
    exact h.leased
  · rw [reactivated_quiet hquiet]
    exact h.unreactivated

/-- A call made without a client, and what follows it. -/
theorem meets_window {c : MigrationCall} {f : Answer c → MigrationMethod β}
    {good : β → Fields → MigrationLog ω → Prop} (hwindow : windowCall c = true)
    (hq : quiet c = true) (hsite : c.site = .run) (htoken : ∀ t, s.token = some t ↔ Acquired t log)
    (hevidence : EvidenceKnown s log) (hstate : s.executionState ≠ .committedV7)
    (hf : ∀ w a, Kept o Plain s log (.ok a) s (log ++ [⟨w, c, .ok a⟩]) →
      Meeting o serve (f a) (Ended o good) s (log ++ [⟨w, c, .ok a⟩])) :
    Meeting o serve (call c >>= f) (Ended o good) s log := by
  have hcall : Meeting o serve (call c)
      (fun a s' log' => ∃ w, s' = s ∧ log' = log ++ [⟨w, c, a⟩]) s log :=
    meeting_call (allowed_quiet hq) fun w a => ⟨w, rfl, rfl⟩
  refine hcall.bind ?_ ?_
  · rintro a s' log' ⟨w, rfl, rfl⟩
    exact hf w a (kept_call o Plain hevidence hq hsite w (.ok a))
  · rintro e s' log' ⟨w, rfl, rfl⟩
    refine ⟨fun t => ?_, .shut log _ rfl hwindow rfl hstate⟩
    rw [acquired_quiet (by simpa using hq)]
    exact htoken t

theorem meets_transact (h : Prepared o baseline s log) :
    Meeting o serve transact (Ended o fun r s' log' => Settled o baseline r.outcome s' log' ∧
      s'.client = false) s log := by
  refine meets_window rfl rfl rfl h.token h.evidence h.uncommitted fun w₁ _ hk => ?_
  have h := h.kept hk
  refine meets_window rfl rfl rfl h.token h.evidence h.uncommitted fun w₂ _ hk => ?_
  have h := h.kept hk
  refine meets_window rfl rfl rfl h.token h.evidence h.uncommitted fun w₃ started hk => ?_
  have h := h.kept hk
  generalize ((log ++ [⟨w₁, .connect, .ok ()⟩]) ++ [⟨w₂, .enableForeignKeys, .ok ()⟩]) ++
    [⟨w₃, .monotonic, .ok started⟩] = log at *
  refine meeting_modify ?_
  have hmigrate : Meeting o serve (call .migrate) (fun outcome s' log' => ∃ w,
      s' = { s with executionState := .migrationTransactionOrRollback } ∧
      log' = log ++ [⟨w, .migrate, outcome⟩])
      { s with executionState := .migrationTransactionOrRollback } log :=
    meeting_call ⟨h.unmigrated, h.backed⟩ fun w a => ⟨w, rfl, rfl⟩
  refine hmigrate.attemptBind ?_
  rintro outcome s' log' ⟨w, rfl, rfl⟩
  obtain ⟨first, second, hquieted⟩ := h.quieted
  have hsettled : Settled o baseline outcome
      { s with executionState := .migrationTransactionOrRollback }
      (log ++ [⟨w, .migrate, outcome⟩]) := by
    refine ⟨h.captured.snoc ⟨w, rfl⟩, rfl, fun t => ?_, h.leased, h.cursor, h.evidence.append _,
      ?_, ?_, ?_, first, second, ?_⟩
    · refine (h.token t).trans ⟨?_, ?_⟩
      · rintro ⟨e, he, hrest⟩
        exact ⟨e, List.mem_append_left _ he, hrest⟩
      · rintro ⟨e, he, a, row, ⟨w', rfl⟩, ht⟩
        rcases List.mem_append.mp he with he | he
        · exact ⟨_, he, a, row, ⟨w', rfl⟩, ht⟩
        · cases List.mem_singleton.mp he
    · obtain ⟨m, hm⟩ := Option.ne_none_iff_exists'.mp h.authorised
      obtain ⟨e, he, first, hanswered, rfl⟩ := h.evidence m hm
      exact ⟨first, hm, (inOrder_single.mpr ⟨e, he, hanswered⟩).snoc rfl⟩
    · refine h.fine.append fun e he hsite => ?_
      cases List.mem_singleton.mp he
      cases hsite
    · rw [reactivated, List.filterMap_append]
      exact List.append_eq_nil_iff.mpr ⟨h.unreactivated, rfl⟩
    · refine ⟨?_, hquieted.order.append _, hquieted.stopped, hquieted.quiesced, hquieted.once⟩
      rw [discoveries, List.filterMap_append]
      exact (List.append_nil _).trans hquieted.discovered
  refine meets_window rfl rfl rfl hsettled.token hsettled.evidence (by intro hne; cases hne)
    fun w₅ returned hk => ?_
  have hsettled := hsettled.kept hk
  refine meets_window rfl rfl rfl hsettled.token hsettled.evidence (by intro hne; cases hne)
    fun w₆ _ hk => ?_
  exact ensures_pure.mpr ⟨hsettled.kept hk, h.closed⟩

/-! ## What stands under `try` -/

/-- What a part leaves whose exceptions do not leave the body. -/
structure Moved (s : Fields) (log : MigrationLog ω) (s' : Fields) (log' : MigrationLog ω) : Prop where
  client : s.client = true → s'.client = true
  token : s'.token = s.token
  quiesced : s'.quiesced = s.quiesced
  executionState : s'.executionState = s.executionState
  cursor : s'.globalWriterEventCursor = s.globalWriterEventCursor
  evidence : s'.authorityEvidence = s.authorityEvidence
  grown : ∃ more, log' = log ++ more ∧ ∀ e ∈ more, quiet e.made = true ∧ e.made.site ≠ .run

theorem Moved.refl (s : Fields) (log : MigrationLog ω) : Moved s log s log :=
  ⟨id, rfl, rfl, rfl, rfl, rfl, [], (List.append_nil _).symm, fun _ he => absurd he List.not_mem_nil⟩

theorem Moved.trans (h : Moved s log s' log') (h' : Moved s' log' s'' log'') :
    Moved s log s'' log'' where
  client hc := h'.client (h.client hc)
  token := h'.token.trans h.token
  quiesced := h'.quiesced.trans h.quiesced
  executionState := h'.executionState.trans h.executionState
  cursor := h'.cursor.trans h.cursor
  evidence := h'.evidence.trans h.evidence
  grown := by
    obtain ⟨more, rfl, hmore⟩ := h.grown
    obtain ⟨more', rfl, hmore'⟩ := h'.grown
    refine ⟨more ++ more', List.append_assoc .., fun e he => ?_⟩
    exact (List.mem_append.mp he).elim (hmore e) (hmore' e)

/-- A method whose exceptions are caught, or wrapped. -/
def Caught (o : Orchestrator) (serve : ω → (c : MigrationCall) → Except MigrationError (Answer c) →
    ω → Prop) (m : MigrationMethod α) : Prop :=
  ∀ s log, Meeting o serve m (fun _ s' log' => Moved s log s' log') s log

theorem moved_call {c : MigrationCall} (hq : quiet c = true) (hsite : c.site ≠ .run) (w : ω)
    (a : Except MigrationError (Answer c)) : Moved s log s (log ++ [⟨w, c, a⟩]) := by
  refine ⟨id, rfl, rfl, rfl, rfl, rfl, _, rfl, fun e he => ?_⟩
  cases List.mem_singleton.mp he
  exact ⟨hq, hsite⟩

theorem caught_call {c : MigrationCall} (hq : quiet c = true) (hsite : c.site ≠ .run) :
    Caught o serve (call c) := fun _ _ =>
  meeting_call (allowed_quiet hq) fun w a => moved_call hq hsite w a

theorem caught_pure (a : α) : Caught o serve (pure a) := fun s log =>
  ensures_pure.mpr (.refl s log)

theorem caught_raise (e : MigrationError) : Caught o serve (raise e : MigrationMethod α) :=
  fun s log => ensures_raise.mpr (.refl s log)

theorem caught_demand {c : Prop} [Decidable c] {code detail : String} {phase : Phase}
    {version : Option Int} : Caught o serve (demand c code detail phase version) := fun s log =>
  meeting_demand (fun _ => .refl s log) fun _ => .refl s log

theorem caught_bind {m : MigrationMethod α} {f : α → MigrationMethod β} (hm : Caught o serve m)
    (hf : ∀ a, Caught o serve (f a)) : Caught o serve (m >>= f) := by
  intro s log
  refine Ensures.bind (hm s log) (fun a s' log' h => ?_) fun e s' log' h => h
  exact (hf a s' log').mono fun r s'' log'' h' => h.trans h'

theorem caught_fields {f : Fields → MigrationMethod α} (hf : ∀ s, Caught o serve (f s)) :
    Caught o serve (fields >>= f) := fun s log => meeting_fields (hf s s log)

theorem caught_boundToken : Caught o serve boundToken := by
  refine caught_fields fun s => ?_
  cases s.token with
  | some token => exact caught_pure token
  | none => exact caught_raise _

/-- The client that the rebind binds is there unless the rebind raises. -/
theorem meets_rebindLease : Meeting o serve o.rebindLease (fun r s' log' =>
    (∃ b, Moved { s with client := b } log s' log') ∧ (r = .ok () → s'.client = true)) s log := by
  have hcall : Meeting o serve (call (.openClient .rebind))
      (fun _ s' log' => Moved s log s' log') s log := caught_call rfl (by decide) s log
  refine hcall.bind (fun _ s₁ log₁ h₁ => meeting_modify ?_) fun e s₁ log₁ h₁ => ?_
  · have hrest : Caught o serve (do
        let token ← boundToken
        let rebound ← call (.assertCurrent .rebind o.ownerId token)
        demand (rebound.lease.context.ownerExecutionId = some o.ownerExecutionId)
          "POST_TRANSACTION_LEASE_CONTEXT_MISMATCH"
        modify fun s => { s with rebindProven := true }
        assertGlobalWriterEventGuard .rebind) := by
      refine caught_bind caught_boundToken fun token => ?_
      refine caught_bind (caught_call rfl fun h => nomatch h) fun rebound => ?_
      refine caught_bind caught_demand fun _ => caught_bind (fun s log => ?_) fun _ => ?_
      · exact ensures_modify.mpr { Moved.refl s log with }
      · refine caught_fields fun s => ?_
        cases s.globalWriterEventCursor with
        | none => exact caught_raise _
        | some cursor =>
          refine caught_bind (caught_call rfl fun h => nomatch h) fun rows => ?_
          cases rows with
          | nil => exact caught_pure ()
          | cons row rows => exact caught_raise _
    refine (hrest { s₁ with client := true } log₁).mono fun r s' log' h => ?_
    have hset : Moved { s with client := true } log { s₁ with client := true } log₁ :=
      { h₁ with client := id }
    exact ⟨⟨true, hset.trans h⟩, fun _ => h.client rfl⟩
  · exact ⟨⟨s.client, h₁⟩, fun he => nomatch he⟩

/-- Only the client differs. -/
theorem Settled.moved {b : Bool} (h : Settled o baseline outcome s log)
    (hm : Moved { s with client := b } log s' log') : Settled o baseline outcome s' log' := by
  obtain ⟨first, second, hquieted⟩ := h.quieted
  obtain ⟨more, rfl, hmore⟩ := hm.grown
  have hquiet : ∀ e ∈ more, quiet e.made = true := fun e he => (hmore e he).1
  refine ⟨h.order.append more, hm.executionState.trans h.state, fun t => ?_, ?_, ?_, fun m hm' => ?_,
    h.authorised.append (fun m hfirst => hm.evidence.trans hfirst) more, h.fine.append fun e he hsite => absurd hsite (hmore e he).2, ?_, first, second, ?_⟩
  · rw [hm.token, acquired_quiet hquiet]
    exact h.token t
  · rw [hm.token]
    exact h.leased
  · rw [hm.cursor]
    exact h.cursor
  · rw [hm.evidence] at hm'
    exact h.evidence.append more m hm'
  · rw [reactivated_quiet hquiet]
    exact h.unreactivated
  · exact ⟨by rw [discoveries_quiet hquiet, hquieted.discovered], hquieted.order.append more,
      hquieted.stopped, by rw [hm.quiesced, hquieted.quiesced], hquieted.once⟩

/-- What `rebind` does with the outcome of `rebindLease`. -/
def afterRebind : Except MigrationError Unit → MigrationMethod Unit
  | .ok () => pure ()
  | .error error => do
    setClient false
    setState .ambiguousAuthority
    let version ← call (.readSchemaVersion .rebindFailed)
    reject "POST_TRANSACTION_FENCING_AMBIGUOUS" error.text .ambiguous (some version)

theorem meets_rebind (returned : Int) (h : Settled o baseline outcome s log) :
    Meeting o serve (o.rebind returned) (Ended o fun _ s' log' =>
      Settled o baseline outcome s' log' ∧ s'.client = true) s log := by
  refine meets_window rfl rfl rfl h.token h.evidence (by rw [h.state]; intro hne; cases hne)
    fun w₁ started hk => ?_
  have h := h.kept hk
  have hrest : Meeting o serve (attempt o.rebindLease >>= afterRebind)
      (Ended o fun _ s' log' => Settled o baseline outcome s' log' ∧ s'.client = true) s
      (log ++ [⟨w₁, .monotonic, .ok started⟩]) := by
    refine meets_rebindLease.attemptBind ?_
    · rintro r s₂ log₂ ⟨⟨_, hm⟩, hclient⟩
      have h₂ := h.moved hm
      cases r with
      | ok _ => exact ensures_pure.mpr ⟨h₂, hclient rfl⟩
      | error error =>
        refine meeting_modify (meeting_modify ?_)
        have hread : Meeting o serve (call (.readSchemaVersion .rebindFailed)) (fun a s' log' =>
            ∃ w, s' = { s₂ with client := false, executionState := .ambiguousAuthority } ∧
              log' = log₂ ++ [⟨w, .readSchemaVersion .rebindFailed, a⟩])
            { s₂ with client := false, executionState := .ambiguousAuthority } log₂ :=
          meeting_call trivial fun w a => ⟨w, rfl, rfl⟩
        have htoken : ∀ (w : ω) a t, s₂.token = some t ↔
            Acquired t (log₂ ++ [⟨w, .readSchemaVersion .rebindFailed, a⟩]) := by
          intro w a t
          rw [acquired_quiet (by simp [quiet])]
          exact h₂.token t
        refine hread.bind ?_ ?_
        · rintro version s₃ log₃ ⟨w, rfl, rfl⟩
          refine ensures_raise.mpr ⟨htoken w _, ?_⟩
          exact .ambiguous version ⟨log₂, _, rfl, w, rfl⟩ ⟨_, _, rfl⟩
        · rintro e s₃ log₃ ⟨w, rfl, rfl⟩
          exact ⟨htoken w _, .unreadable ⟨log₂, _, rfl, w, rfl⟩ rfl⟩
  show Meeting o serve (ite _ _ _) _ _ _
  split
  · exact meeting_modify (ensures_raise.mpr ⟨h.token, .delayed ⟨_, _, rfl⟩⟩)
  · exact hrest

/-! ## After the transaction -/

/-- What holds once the version has been read, until the reactivation. -/
structure Observed (o : Orchestrator) (baseline : PreservationBaseline)
    (outcome : Except MigrationError Unit) (version : Int) (s : Fields) (log : MigrationLog ω) :
    Prop where
  seen : InOrder [Answered (.captureBaseline 6) (.ok baseline), Answered .migrate outcome,
    Answered (.readSchemaVersion .run) (.ok version)] log
  state : s.executionState = stateAfter version
  bound : Bound s
  token : ∀ t, s.token = some t ↔ Acquired t log
  evidence : EvidenceKnown s log
  authorised : Authorised s log

/-- Nothing has been raised and nothing reactivated. -/
structure Calm (s : Fields) (log : MigrationLog ω) : Prop where
  fine : AllFine log
  unreactivated : reactivated log = []
  quieted : ∃ first second, Quieted s log first second

theorem Calm.kept {a : α} (h : Calm s log) (hk : Kept o extra s log (.ok a) s' log') :
    Calm s' log' := by
  obtain ⟨first, second, hquieted⟩ := h.quieted
  have hquieted' := hquieted.kept hk
  obtain ⟨more, rfl, hquiet, hfine⟩ := hk.grown
  refine ⟨h.fine.append (hfine ⟨a, rfl⟩), ?_, first, second, hquieted'⟩
  rw [reactivated_quiet hquiet]
  exact h.unreactivated

variable {version : Int}

theorem Observed.keeps {r : Except MigrationError α} (h : Observed o baseline outcome version s log)
    (hk : Kept o extra s log r s' log') : Observed o baseline outcome version s' log' := by
  have hbound := h.bound.of_kept hk
  obtain ⟨more, rfl, hquiet, -⟩ := hk.grown
  refine ⟨h.seen.append more, hk.executionState.trans h.state, hbound, fun t => ?_, hk.evidence,
    h.authorised.append hk.authority more⟩
  rw [hk.token, acquired_quiet hquiet]
  exact h.token t

/-- An exception raised after the version was read. -/
theorem Observed.cause {e : MigrationError} (h : Observed o baseline outcome version s log)
    (hraised : Own log e ∨ After version e ∨ (Default e ∧ Slipped o log)) :
    (∀ t, s.token = some t ↔ Acquired t log) ∧ Cause o s log e := by
  refine ⟨h.token, .observed version ?_ h.state h.bound.1 hraised⟩
  obtain ⟨b, x, after, rfl, -, b', m, after', rfl, ⟨w, rfl⟩, hrest⟩ := h.seen
  exact ⟨b ++ x :: b', ⟨w, .migrate, outcome⟩, after', by simp, rfl, hrest⟩

theorem Observed.raised {e : MigrationError} (h : Observed o baseline outcome version s log)
    (hk : Kept o (After version) s log (.error e : Except _ α) s' log') :
    (∀ t, s'.token = some t ↔ Acquired t log') ∧ Cause o s' log' e := by
  refine (h.keeps hk).cause ?_
  rcases hk.explained e rfl with hown | hafter | ⟨hdefault, hslip | hbound⟩
  · exact Or.inl hown
  · exact Or.inr (Or.inl hafter)
  · exact Or.inr (Or.inr ⟨hdefault, hslip⟩)
  · exact absurd h.bound hbound

/-- A tame part, and what follows it. -/
theorem Observed.andThen {m : MigrationMethod α} {f : α → MigrationMethod β}
    {good : β → Fields → MigrationLog ω → Prop} (h : Observed o baseline outcome version s log)
    (hm : Tame o serve (After version) m)
    (hf : ∀ a s' log', Observed o baseline outcome version s' log' →
      Kept o (After version) s log (.ok a) s' log' → Meeting o serve (f a) (Ended o good) s' log') :
    Meeting o serve (m >>= f) (Ended o good) s log := by
  refine (hm s log h.evidence).bind (fun a s' log' hk => hf a s' log' (h.keeps hk) hk) ?_
  intro e s' log' hk
  exact h.raised hk

/-- A call, and what follows it. -/
theorem Observed.call {c : MigrationCall} {f : Answer c → MigrationMethod β}
    {good : β → Fields → MigrationLog ω → Prop} (h : Observed o baseline outcome version s log)
    (hq : quiet c = true) (hsite : c.site = .run)
    (hf : ∀ w a, Observed o baseline outcome version s (log ++ [⟨w, c, .ok a⟩]) →
      Kept o (After version) s log (.ok a) s (log ++ [⟨w, c, .ok a⟩]) →
      Meeting o serve (f a) (Ended o good) s (log ++ [⟨w, c, .ok a⟩])) :
    Meeting o serve (call c >>= f) (Ended o good) s log := by
  have hcall : Meeting o serve (Migration.call c)
      (fun a s' log' => ∃ w, s' = s ∧ log' = log ++ [⟨w, c, a⟩]) s log :=
    meeting_call (allowed_quiet hq) fun w a => ⟨w, rfl, rfl⟩
  refine hcall.bind ?_ ?_
  · rintro a s' log' ⟨w, rfl, rfl⟩
    have hk := kept_call o (After version) h.evidence hq hsite w (.ok a)
    exact hf w a (h.keeps hk) hk
  · rintro e s' log' ⟨w, rfl, rfl⟩
    exact h.raised (kept_call o (After version) h.evidence hq hsite w (.error e))

theorem Observed.fails {good : α → Fields → MigrationLog ω → Prop} {e : MigrationError}
    (h : Observed o baseline outcome version s log) (he : After version e) :
    Meeting o serve (raise e : MigrationMethod α) (Ended o good) s log :=
  ensures_raise.mpr (h.cause (Or.inr (Or.inl he)))

theorem after_phase (version : Int) (code detail : String) :
    After version (.migration code detail (phaseAfter version) (some version)) :=
  Or.inr (Or.inl ⟨code, detail, rfl⟩)

theorem tame_boundToken_after : Tame o serve (After version) boundToken := by
  refine tame_fields fun s log hknown => ?_
  cases s.token with
  | some token => exact tame_pure token s log hknown
  | none => exact ensures_raise.mpr (kept_error hknown (Or.inr (Or.inl (Or.inl ⟨_, rfl⟩))))

theorem tame_inspectRollback (h : version ≠ 7) :
    Tame o serve (After version) (inspectRollback baseline) :=
  tame_bind (tame_call rfl rfl) fun _ => tame_demand (Or.inr (Or.inr ⟨h, _, _, rfl⟩))

/-- The end of `observe`, with the version that was read. -/
def afterObservation (o : Orchestrator) (baseline : PreservationBaseline) (r : Returned)
    (version : Int) : MigrationMethod Unit := do
  demand (r.returned - r.started < migrationTransactionBudgetNanoseconds)
    "MIGRATION_TRANSACTION_BUDGET_EXCEEDED" (o.formatNanoseconds (r.returned - r.started))
    (phaseAfter version) (some version)
  match r.outcome with
  | .error error => do
    if version = 6 then
      inspectRollback baseline
    reject "ACCEPTED_MIGRATION_FAILED" error.text (phaseAfter version) (some version)
  | .ok () =>
    if version ≠ 7 then
      inspectRollback baseline
      reject "MIGRATION_DID_NOT_COMMIT_V7" "" .rollback (some version)

/-- The run goes on only at version 7, when the migration has returned. -/
theorem meets_observe (r : Returned) (h : Settled o baseline r.outcome s log)
    (hclient : s.client = true) :
    Meeting o serve (o.observe baseline r) (Ended o fun _ s' log' =>
      Observed o baseline (.ok ()) 7 s' log' ∧ Calm s' log') s log := by
  have htail : ∀ version s₁ (log₁ : MigrationLog ω), Observed o baseline r.outcome version s₁ log₁ →
      Calm s₁ log₁ → Meeting o serve (afterObservation o baseline r version)
        (Ended o fun _ s' log' => Observed o baseline (.ok ()) 7 s' log' ∧ Calm s' log') s₁ log₁ := by
    intro version s₁ log₁ h₁ hcalm₁
    refine h₁.andThen (tame_demand (after_phase ..)) fun _ s₂ log₂ h₂ hk₂ => ?_
    cases houtcome : r.outcome with
    | error error =>
      show Meeting o serve (ite _ _ _) _ _ _
      by_cases hversion : version = 6
      · rw [if_pos hversion]
        exact h₂.andThen (tame_inspectRollback (by rw [hversion]; decide))
          fun _ s₃ log₃ h₃ _ => h₃.fails (after_phase ..)
      · rw [if_neg hversion]
        exact h₂.fails (after_phase ..)
    | ok _ =>
      show Meeting o serve (ite _ _ _) _ _ _
      by_cases hversion : version = 7
      · rw [if_neg (not_not_intro hversion)]
        subst hversion
        rw [houtcome] at h₂
        exact ensures_pure.mpr ⟨h₂, hcalm₁.kept hk₂⟩
      · rw [if_pos hversion]
        refine h₂.andThen (tame_inspectRollback hversion) fun _ s₃ log₃ h₃ _ => h₃.fails ?_
        have hphase := after_phase version "MIGRATION_DID_NOT_COMMIT_V7" ""
        rw [phaseAfter, if_neg hversion] at hphase
        exact hphase
  have hread : Meeting o serve (call (.readSchemaVersion .run))
      (fun a s' log' => ∃ w, s' = s ∧ log' = log ++ [⟨w, .readSchemaVersion .run, a⟩]) s log :=
    meeting_call trivial fun w a => ⟨w, rfl, rfl⟩
  refine hread.bind ?_ ?_
  · rintro version s' log' ⟨w, rfl, rfl⟩
    refine meeting_modify ?_
    have hsettled := h.kept (kept_call o (After version) h.evidence
      (c := .readSchemaVersion .run) rfl rfl w (.ok version))
    have hobserved : Observed o baseline r.outcome version
        { s' with executionState := stateAfter version }
        (log ++ [⟨w, .readSchemaVersion .run, .ok version⟩]) :=
      ⟨h.order.snoc ⟨w, rfl⟩, rfl, ⟨hclient, h.leased, h.cursor⟩, hsettled.token, hsettled.evidence,
        hsettled.authorised⟩
    have hcalm : Calm { s' with executionState := stateAfter version }
        (log ++ [⟨w, .readSchemaVersion .run, .ok version⟩]) := by
      obtain ⟨first, second, hquieted⟩ := hsettled.quieted
      exact ⟨hsettled.fine, hsettled.unreactivated, first, second, { hquieted with }⟩
    refine hobserved.andThen (tame_call rfl rfl) fun exact s₂ log₂ h₂ hk₂ => ?_
    refine h₂.andThen (tame_demand (after_phase ..)) fun _ s₃ log₃ h₃ hk₃ => ?_
    have hcalm₃ := (hcalm.kept hk₂).kept hk₃
    show Meeting o serve (ite _ _ _) _ _ _
    by_cases hversion : version = 7
    · rw [if_pos hversion]
      refine h₃.andThen tame_boundToken_after fun token s₄ log₄ h₄ hk₄ => ?_
      refine h₄.andThen (tame_call rfl rfl) fun _ s₅ log₅ h₅ hk₅ => ?_
      refine h₅.andThen tame_startPump fun _ s₆ log₆ h₆ hk₆ => ?_
      exact htail version s₆ log₆ h₆ (((hcalm₃.kept hk₄).kept hk₅).kept hk₆)
    · rw [if_neg hversion]
      exact htail version s₃ log₃ h₃ hcalm₃
  · rintro e s' log' ⟨w, rfl, rfl⟩
    refine ⟨fun t => ?_, .unread ⟨log, _, rfl, w, rfl⟩ h.state hclient⟩
    rw [acquired_quiet (by simp [quiet])]
    exact h.token t

/-! ### What the migration has preserved -/

theorem after_commit (code detail : String) :
    After 7 (.migration code detail .postCommit (some 7)) := Or.inr (Or.inl ⟨code, detail, rfl⟩)

/-- The end of checks that make no call after the migration: what they have found, or what
they raise. -/
def Checked (version : Int) (found : α → Prop) (s : Fields) (log : MigrationLog ω)
    (r : Except MigrationError α) (s' : Fields) (log' : MigrationLog ω) : Prop :=
  s' = s ∧ log' = log ∧
  match r with
  | .ok a => found a
  | .error e => After version e

theorem meets_sameItem {γ : Type} [DecidableEq γ] (post before : List (String × γ))
    (code key : String) :
    Meeting o serve (sameItem post before code key)
      (Checked 7 (fun _ => post.lookup key = before.lookup key) s log) s log := by
  have hitem : ∀ m : List (String × γ), Meeting o serve (item m key)
      (Checked 7 (fun a => m.lookup key = some a) s log) s log := by
    intro m
    unfold item
    cases hlookup : m.lookup key with
    | some a => exact ensures_pure.mpr ⟨rfl, rfl, rfl⟩
    | none => exact ensures_raise.mpr ⟨rfl, rfl, Or.inl ⟨_, rfl⟩⟩
  refine (hitem post).bind ?_ fun _ _ _ he => he
  rintro a s' log' ⟨rfl, rfl, ha⟩
  refine (hitem before).bind ?_ fun _ _ _ he => he
  rintro b s' log' ⟨rfl, rfl, hb⟩
  exact meeting_demand (fun hab => ⟨rfl, rfl, by rw [ha, hb, hab]⟩)
    fun _ => ⟨rfl, rfl, after_commit ..⟩

theorem meets_sameItems {γ : Type} [DecidableEq γ] (post before : List (String × γ)) (code : String)
    (keys : List String) :
    Meeting o serve (each (sameItem post before code) keys)
      (Checked 7 (fun _ => ∀ key ∈ keys, post.lookup key = before.lookup key) s log) s log := by
  induction keys with
  | nil => exact ensures_pure.mpr ⟨rfl, rfl, fun _ hk => absurd hk List.not_mem_nil⟩
  | cons key keys ih =>
    refine (meets_sameItem post before code key).bind ?_ fun _ _ _ he => he
    rintro _ s' log' ⟨rfl, rfl, hkey⟩
    refine ih.mono fun r s'' log'' hr => ⟨hr.1, hr.2.1, ?_⟩
    cases r with
    | ok _ => exact List.forall_mem_cons.mpr ⟨hkey, hr.2.2⟩
    | error e => exact hr.2.2

/-- A check that makes no call, and what follows it. -/
theorem Observed.checks {m : MigrationMethod α} {f : α → MigrationMethod β} {P : α → Prop}
    {good : β → Fields → MigrationLog ω → Prop} (h : Observed o baseline outcome version s log)
    (hm : Meeting o serve m (Checked version P s log) s log)
    (hf : ∀ a, P a → Meeting o serve (f a) (Ended o good) s log) :
    Meeting o serve (m >>= f) (Ended o good) s log := by
  refine hm.bind ?_ ?_
  · rintro a s' log' ⟨rfl, rfl, ha⟩
    exact hf a ha
  · rintro e s' log' ⟨rfl, rfl, he⟩
    exact h.cause (Or.inr (Or.inl he))

/-- The checks of what the migration preserves have passed. -/
def Validated (o : Orchestrator) (log : MigrationLog ω) : Prop :=
  ∃ baseline post,
    InOrder [Answered (.captureBaseline 6) (.ok baseline), Answered .migrate (.ok ()),
      Answered (.readSchemaVersion .run) (.ok 7), Answered (.captureBaseline 7) (.ok post),
      Answered .lineage (.ok (o.migrations.filter (·.1 ≤ migrationVersion))),
      Answered .sealCount (.ok 0)] log ∧
    Preserved baseline post

theorem meets_postMigrationValidation (h : Observed o baseline (.ok ()) 7 s log) (hc : Calm s log) :
    Meeting o serve (o.postMigrationValidation baseline) (Ended o fun _ s' log' =>
      Observed o baseline (.ok ()) 7 s' log' ∧ Calm s' log' ∧ Validated o log') s log := by
  refine h.call rfl rfl fun w₁ post h₁ hk₁ => ?_
  refine h₁.checks (meets_sameItems ..) fun _ htables => ?_
  refine meeting_check (fun hregistry => ?_) fun _ => h₁.cause (Or.inr (Or.inl (after_commit ..)))
  refine h₁.call rfl rfl fun w₂ lineage h₂ hk₂ => ?_
  refine meeting_check (fun hlineage => ?_) fun _ => h₂.cause (Or.inr (Or.inl (after_commit ..)))
  refine h₂.call rfl rfl fun w₃ seals h₃ hk₃ => ?_
  refine meeting_check (fun hseals => ?_) fun _ => h₃.cause (Or.inr (Or.inl (after_commit ..)))
  refine meeting_check (fun hauthority => ?_) fun _ => h₃.cause (Or.inr (Or.inl (after_commit ..)))
  refine h₃.checks (meets_sameItems ..) fun _ hlease => ?_
  refine meeting_demand (fun _ => ⟨h₃, ((hc.kept hk₁).kept hk₂).kept hk₃, baseline, post, ?_, ?_⟩)
    fun _ => h₃.cause (Or.inr (Or.inl (after_commit ..)))
  · subst hlineage
    subst hseals
    have hpost := h.seen.snoc (P := Answered (.captureBaseline 7) (.ok post)) (e := ⟨w₁, _, _⟩) ⟨w₁, rfl⟩
    have hlineage := hpost.snoc (e := ⟨w₂, _, _⟩)
      (P := Answered .lineage (.ok (o.migrations.filter (·.1 ≤ migrationVersion)))) ⟨w₂, rfl⟩
    exact hlineage.snoc (P := Answered .sealCount (.ok 0)) ⟨w₃, rfl⟩
  · refine ⟨fun t ht hnot => htables t ?_, hregistry, hauthority, hlease⟩
    exact List.mem_filter.mpr ⟨ht, decide_eq_true hnot⟩

/-! ### Reactivation -/

/-- What holds while the writers `rest` are still to be reactivated. -/
structure Reacting (o : Orchestrator) (baseline : PreservationBaseline) (rest : List RuntimeWriter)
    (s : Fields) (log : MigrationLog ω) : Prop where
  observed : Observed o baseline (.ok ()) 7 s log
  fine : AllFine log
  cleared : Cleared o log
  progress : reactivated log ++ rest.map (·.identity) = activeAtFirst log
  remembered : s.quiesced.map (·.identity) = activeAtFirst log
  once : (activeAtFirst log).Nodup

theorem Cleared.append (h : Cleared o log) (more : MigrationLog ω) : Cleared o (log ++ more) := by
  obtain ⟨baseline, post, evidence, horder, hpreserved, first, hfirst, hbefore⟩ := h
  exact ⟨baseline, post, evidence, horder.append more, hpreserved, first, hfirst,
    hbefore.append more⟩

theorem Reacting.kept {a : α} {rest : List RuntimeWriter} (h : Reacting o baseline rest s log)
    (hk : Kept o extra s log (.ok a) s' log') : Reacting o baseline rest s' log' := by
  have hobserved := h.observed.keeps hk
  obtain ⟨more, rfl, hquiet, hfine⟩ := hk.grown
  have hfirst : activeAtFirst (log ++ more) = activeAtFirst log := by
    unfold activeAtFirst
    rw [discoveries_quiet hquiet]
  refine ⟨hobserved, h.fine.append (hfine ⟨a, rfl⟩), h.cleared.append more, ?_, ?_, ?_⟩
  · rw [reactivated_quiet hquiet, hfirst]
    exact h.progress
  · rw [hk.quiesced, hfirst]
    exact h.remembered
  · rw [hfirst]
    exact h.once

theorem Reacting.andThen {rest : List RuntimeWriter} {m : MigrationMethod α}
    {f : α → MigrationMethod β} {good : β → Fields → MigrationLog ω → Prop}
    (h : Reacting o baseline rest s log) (hm : Tame o serve (After 7) m)
    (hf : ∀ a s' log', Reacting o baseline rest s' log' → Meeting o serve (f a) (Ended o good) s' log') :
    Meeting o serve (m >>= f) (Ended o good) s log :=
  h.observed.andThen hm fun a s' log' _ hk => hf a s' log' (h.kept hk)

/-- The call to reactivate, and what holds after it. -/
theorem meets_reactivate {w current : RuntimeWriter} {rest : List RuntimeWriter}
    (h : Reacting o baseline (w :: rest) s log) (hcurrent : CurrentFor o log current)
    (hidentity : current.identity = w.identity) :
    Meeting o serve (call (.reactivate current)) (Ended o fun _ s' log' =>
      Reacting o baseline rest s' log') s log := by
  have hnext : reactivated log ++ current.identity :: rest.map (·.identity) = activeAtFirst log := by
    rw [hidentity]
    exact h.progress
  have hobserved : ∀ (x : ω) a, Observed o baseline (.ok ()) 7 s (log ++ [⟨x, .reactivate current, a⟩]) := by
    intro x a
    refine ⟨h.observed.seen.append _, h.observed.state, h.observed.bound, fun t => ?_,
      h.observed.evidence.append _, h.observed.authorised.append (fun _ hm => hm) _⟩
    refine (h.observed.token t).trans ⟨?_, ?_⟩
    · rintro ⟨e, he, hrest⟩
      exact ⟨e, List.mem_append_left _ he, hrest⟩
    · rintro ⟨e, he, b, row, ⟨x', rfl⟩, ht⟩
      rcases List.mem_append.mp he with he | he
      · exact ⟨_, he, b, row, ⟨x', rfl⟩, ht⟩
      · cases List.mem_singleton.mp he
  refine meeting_call ⟨h.fine, h.cleared, hcurrent, _, hnext⟩ fun x a => ?_
  cases a with
  | error e => exact (hobserved x (.error e)).cause (Or.inl ⟨log, _, rfl, rfl, rfl⟩)
  | ok _ =>
    have hfirst : activeAtFirst (log ++ [⟨x, .reactivate current, .ok ()⟩]) = activeAtFirst log := by
      unfold activeAtFirst discoveries
      rw [List.filterMap_append]
      exact congrArg (fun l => active (l.headD [])) (List.append_nil _)
    refine ⟨hobserved x _, h.fine.append fun e he _ => ?_, h.cleared.append _, ?_, ?_, ?_⟩
    · cases List.mem_singleton.mp he
      exact ⟨(), rfl⟩
    · rw [hfirst, ← hnext, reactivated, List.filterMap_append]
      exact List.append_assoc ..
    · rw [hfirst]
      exact h.remembered
    · rw [hfirst]
      exact h.once

theorem meets_reactivateWriter {w : RuntimeWriter} {rest : List RuntimeWriter}
    (h : Reacting o baseline (w :: rest) s log) :
    Meeting o serve (o.reactivateWriter w) (Ended o fun _ s' log' => Reacting o baseline rest s' log')
      s log := by
  obtain ⟨token, htoken⟩ := Option.ne_none_iff_exists'.mp h.observed.bound.2.1
  have hguarded : Meeting o serve o.guarded (Ended o fun _ s' log' =>
      Reacting o baseline (w :: rest) s' log' ∧ ∃ init e₁ e₂ e₃ cursor,
        log' = init ++ [e₁, e₂, e₃] ∧ Acquired token init ∧ Matched o token e₁ e₂ ∧
        Answered (.eventsAfter .run cursor) (.ok []) e₃) s log := by
    have hmeets : Meeting o serve o.guarded (fun r s' log' => Kept o (After 7) s log r s' log' ∧
        ((∃ a, r = .ok a) → ∃ more e₁ e₂ e₃ cursor, log' = (log ++ more) ++ [e₁, e₂, e₃] ∧
          Matched o token e₁ e₂ ∧ Answered (.eventsAfter .run cursor) (.ok []) e₃ ∧
          s'.authorityEvidence ≠ none)) s log :=
      meets_guarded (After 7) h.observed.bound htoken h.observed.evidence
    refine hmeets.mono fun r s' log' ⟨hk, hok⟩ => ?_
    cases r with
    | error e => exact h.observed.raised hk
    | ok _ =>
      obtain ⟨more, e₁, e₂, e₃, cursor, rfl, hmatched, hevents, -⟩ := hok ⟨_, rfl⟩
      refine ⟨h.kept hk, log ++ more, e₁, e₂, e₃, cursor, rfl, ?_, hmatched, hevents⟩
      obtain ⟨e, he, hacquired⟩ := (h.observed.token token).mp htoken
      exact ⟨e, List.mem_append_left _ he, hacquired⟩
  refine Ended.bind hguarded fun _ s₁ log₁ h₁ => ?_
  obtain ⟨h₁, init, e₁, e₂, e₃, cursor, rfl, hacquired, hmatched, hevents⟩ := h₁
  refine h₁.observed.call rfl rfl fun x current h₂ hk₂ => ?_
  have hreacting := h₁.kept hk₂
  refine meeting_check (fun hreactivable => ?_) fun hnot => ?_
  · refine Ended.bind (meets_reactivate hreacting ⟨init, token, cursor, w, e₁, e₂, e₃, _,
      List.append_assoc .., hacquired, hmatched, hevents, ⟨x, rfl⟩, hreactivable⟩ hreactivable.1)
      fun _ s₃ log₃ h₃ => ?_
    have htame : Tame o serve (After 7) o.guarded := tame_guarded
    refine (htame s₃ log₃ h₃.observed.evidence).mono fun r s' log' hk => ?_
    cases r with
    | ok _ => exact h₃.kept hk
    | error e => exact h₃.observed.raised hk
  · exact h₂.cause (Or.inr (Or.inr ⟨⟨_, _, rfl⟩, _, _, rfl, rfl, hnot⟩))

theorem meets_reactivateEach {ws : List RuntimeWriter} (h : Reacting o baseline ws s log) :
    Meeting o serve (each o.reactivateWriter ws) (Ended o fun _ s' log' => Reacting o baseline [] s' log')
      s log := by
  induction ws generalizing s log with
  | nil => exact ensures_pure.mpr h
  | cons w ws ih => exact Ended.bind (meets_reactivateWriter h) fun _ s' log' h' => ih h'

/-! ### The end of the body -/

/-- The lease acquired with the token `t` has been released by this run. -/
def Released (o : Orchestrator) (t : Int) (log : MigrationLog ω) : Prop :=
  ∃ site, InOrder [fun e => ∃ a row, Answered (.acquire a) (.ok row) e ∧ row.lease.fencingToken = t,
    Answered (.release site (o.releaseRequest t)) (.ok ())] log

theorem Released.append {t : Int} (h : Released o t log) (more : MigrationLog ω) :
    Released o t (log ++ more) := by
  obtain ⟨site, horder⟩ := h
  exact ⟨site, horder.append more⟩

theorem released_snoc {t : Int} {site : Site} (h : Acquired t log) (w : ω) :
    Released o t (log ++ [⟨w, .release site (o.releaseRequest t), .ok ()⟩]) := by
  obtain ⟨e, he, a, row, hanswered⟩ := h
  have hacquired : InOrder [fun e => ∃ a row, Answered (.acquire a) (.ok row) e ∧
      row.lease.fencingToken = t] log := inOrder_single.mpr ⟨e, he, a, row, hanswered⟩
  exact ⟨site, hacquired.snoc ⟨w, rfl⟩⟩

/-- The release of the body: the check under its own `try`, then the release. -/
theorem meets_safeRelease (h : Observed o baseline outcome version s log) :
    Meeting o serve (o.safeRelease .run) (fun r s' log' => Kept o (After version) s log r s' log' ∧
      (r = .ok true → ∃ t, s.token = some t ∧ Released o t log')) s log := by
  obtain ⟨token, htoken⟩ := Option.ne_none_iff_exists'.mp h.bound.2.1
  refine meeting_fields ?_
  rw [h.bound.1, htoken]
  have hcheck : Meeting o serve (call (.assertCurrent .caught o.ownerId token))
      (fun a s' log' => ∃ w, s' = s ∧
        log' = log ++ [⟨w, .assertCurrent .caught o.ownerId token, a⟩]) s log :=
    meeting_call trivial fun w a => ⟨w, rfl, rfl⟩
  have hkept : ∀ (w : ω) a (b : Bool), Kept o (After version) s log (.ok b) s
      (log ++ [⟨w, .assertCurrent .caught o.ownerId token, a⟩]) := by
    intro w a b
    refine ⟨rfl, rfl, rfl, rfl, id, fun _ hm => hm, h.evidence.append _,
      ⟨_, rfl, fun e he => ?_, fun _ e he hsite => ?_⟩,
      by intro _ he; cases he⟩
    · cases List.mem_singleton.mp he
      rfl
    · cases List.mem_singleton.mp he
      cases hsite
  refine hcheck.attemptBind ?_
  · rintro a s' log' ⟨w, rfl, rfl⟩
    cases a with
    | error e => exact ensures_pure.mpr ⟨hkept w _ false, by intro hf; cases hf⟩
    | ok row =>
      have hacquired : Acquired token (log ++ [⟨w, .assertCurrent .caught o.ownerId token, .ok row⟩]) := by
        rw [acquired_quiet (by simp [quiet])]
        exact (h.token token).mp htoken
      have hrelease : Meeting o serve (call (.release .run (o.releaseRequest token)))
          (fun a s'' log' => ∃ w', s'' = s' ∧
            log' = (log ++ [⟨w, .assertCurrent .caught o.ownerId token, .ok row⟩]) ++
              [⟨w', .release .run (o.releaseRequest token), a⟩]) s' _ :=
        meeting_call trivial fun w' a => ⟨w', rfl, rfl⟩
      have hk := hkept w (.ok row) true
      refine hrelease.bind ?_ ?_
      · rintro _ s'' log' ⟨w', rfl, rfl⟩
        have hk' := hk.trans (kept_call _ _ (c := .release .run (o.releaseRequest token))
          hk.evidence rfl rfl w' (.ok ()))
        refine ensures_pure.mpr ⟨hk'.trans (kept_refl hk'.evidence true), fun _ => ?_⟩
        exact ⟨token, rfl, released_snoc hacquired w'⟩
      · rintro e s'' log' ⟨w', rfl, rfl⟩
        exact ⟨hk.trans (kept_call _ _ hk.evidence rfl rfl w' (.error e)).error, by intro hf; cases hf⟩

/-- What a body that returns has done. -/
structure Finished (o : Orchestrator) (result : ProductionMigrationResult) (log : MigrationLog ω) :
    Prop where
  all : reactivated log = activeAtFirst log
  once : (activeAtFirst log).Nodup
  fine : AllFine log
  cleared : Cleared o log
  released : Released o result.fencingToken log
  token : ∀ t, Acquired t log → t = result.fencingToken
  reported : result.quiescedIdentities = activeAtFirst log ∧ result.version = 7

theorem meets_finish (backup : BackupEvidence) (h : Observed o baseline (.ok ()) 7 s log)
    (hc : Calm s log) :
    Meeting o serve (o.finish backup baseline) (Ended o fun result s' log' =>
      Finished o result log' ∧ ∀ t, s'.token = some t ↔ Acquired t log') s log := by
  refine Ended.bind (meets_postMigrationValidation h hc) fun _ s₁ log₁ h₁ => ?_
  obtain ⟨h₁, hc₁, hvalidated⟩ := h₁
  refine (meets_freshAuthority (After 7) h₁.evidence).bind ?_
    fun e s' log' ⟨hk, _⟩ => h₁.raised hk
  intro _ s₂ log₂ ⟨hk₂, hfresh⟩
  have h₂ := h₁.keeps hk₂
  have hc₂ := hc₁.kept hk₂
  have hcleared : Cleared o log₂ := by
    obtain ⟨ev, evidence, rfl, hev, hheld⟩ := hfresh ⟨_, rfl⟩
    obtain ⟨baseline, post, horder, hpreserved⟩ := hvalidated
    obtain ⟨first, hfirst, hbefore⟩ := h₂.authorised
    exact ⟨baseline, post, evidence, horder.snoc hev, hpreserved, first,
      Option.some.inj (hfirst.symm.trans hheld), hbefore⟩
  have hreacting : Reacting o baseline s₂.quiesced s₂ log₂ := by
    obtain ⟨first, second, hquieted⟩ := hc₂.quieted
    have hfirst : activeAtFirst log₂ = active first := by
      rw [activeAtFirst, hquieted.discovered]
      rfl
    refine ⟨h₂, hc₂.fine, hcleared, ?_, ?_, ?_⟩
    · rw [hc₂.unreactivated, hfirst, ← hquieted.quiesced]
      rfl
    · rw [hfirst, hquieted.quiesced]
    · rw [hfirst]
      exact hquieted.once
  have hreactivate : Meeting o serve o.reactivate (Ended o fun _ s' log' =>
      Reacting o baseline [] s' log') s₂ log₂ := meeting_fields (meets_reactivateEach hreacting)
  refine Ended.bind hreactivate fun _ s₃ log₃ h₃ => ?_
  refine h₃.andThen tame_guarded fun _ s₄ log₄ h₄ => h₄.andThen tame_stopPump fun _ s₅ log₅ h₅ => ?_
  refine h₅.andThen tame_guarded fun _ s₆ log₆ h₆ => ?_
  refine (meets_safeRelease h₆.observed).bind ?_ fun e s' log' ⟨hk, _⟩ => h₆.observed.raised hk
  intro b s₇ log₇ ⟨hk₇, hreleased⟩
  have h₇ := h₆.kept hk₇
  refine meeting_check (fun hb => ?_) fun _ =>
    h₇.observed.cause (Or.inr (Or.inl (after_commit ..)))
  obtain ⟨t, ht, hreleased⟩ := hreleased (by rw [hb])
  refine h₇.observed.call rfl rfl fun w₈ final h₈ hk₈ => ?_
  have ht₈ : s₇.token = some t := hk₇.token.trans ht
  have h₈ := h₇.kept hk₈
  have hbound : Meeting o serve boundToken (fun r s' log' => r = .ok t ∧ s' = s₇ ∧
      log' = log₇ ++ [⟨w₈, .getLease, .ok final⟩]) s₇ (log₇ ++ [⟨w₈, .getLease, .ok final⟩]) := by
    refine meeting_fields ?_
    rw [ht₈]
    exact ensures_pure.mpr ⟨rfl, rfl, rfl⟩
  refine hbound.bind ?_ ?_
  · rintro _ s₉ log₉ ⟨hr, rfl, rfl⟩
    cases hr
    refine meeting_check (fun _ => ?_) fun _ =>
      h₈.observed.cause (Or.inr (Or.inl (after_commit ..)))
    refine meeting_fields (ensures_pure.mpr ⟨⟨?_, h₈.once, h₈.fine, h₈.cleared, hreleased.append _,
      fun t' ht' => ?_, h₈.remembered, rfl⟩, h₈.observed.token⟩)
    rotate_left
    · exact Option.some.inj (((h₈.observed.token t').mpr ht').symm.trans ht₈)
    have hprogress := h₈.progress
    rw [List.map_nil, List.append_nil] at hprogress
    exact hprogress
  · rintro e s₉ log₉ ⟨hr, -⟩
    cases hr

/-- **The body.** Every exception of it has a cause, and what it returns is finished. -/
theorem meets_body : Meeting o serve o.body (Ended o fun result s' log' =>
    Finished o result log' ∧ ∀ t, s'.token = some t ↔ Acquired t log') Fields.initial [] := by
  refine Ended.bind (meets_prepare.mono fun r s log h => h.ended) fun p s₁ log₁ h₁ => ?_
  obtain ⟨backup, baseline⟩ := p
  refine Ended.bind (meets_transact h₁) fun r s₂ log₂ h₂ => ?_
  refine Ended.bind (meets_rebind r.returned h₂.1) fun _ s₃ log₃ h₃ => ?_
  refine Ended.bind (meets_observe r h₃.1 h₃.2) fun _ s₄ log₄ h₄ => ?_
  exact meets_finish backup h₄.1 h₄.2

/-! ## The handler, and the run -/

/-- The calls of the lease client that the run itself makes. -/
def clientCall : MigrationCall → Bool
  | .openClient _ | .acquire _ | .assertCurrent .. | .heartbeat .. | .closeClient _ | .release ..
  | .getLease => true
  | _ => false

/-- Every call of the lease client has worked. -/
def ClientWorked (log : MigrationLog ω) : Prop := ∀ e ∈ log, clientCall e.made = true → Fine e

theorem caught_stopPump : Caught o serve (stopPump .caught) := by
  refine caught_fields fun s => ?_
  split
  · refine caught_bind (fun s log => ?_) fun _ => ?_
    · exact ensures_modify.mpr { Moved.refl s log with }
    · refine caught_bind (caught_call rfl (by decide)) fun alive => ?_
      refine caught_bind caught_demand fun _ => caught_bind (caught_call rfl (by decide)) fun error => ?_
      cases error with
      | none => exact caught_pure ()
      | some text => exact caught_raise _
  · exact caught_pure ()

/-- The release of the handler frees the lease if the client works. -/
theorem meets_releaseCaught {t : Int} (hclient : s.client = true) (htoken : s.token = some t)
    (hacquired : Acquired t log) :
    Meeting o serve (o.safeRelease .caught) (fun _ s' log' => Moved s log s' log' ∧
      (ClientWorked log' → Released o t log')) s log := by
  refine meeting_fields ?_
  rw [hclient, htoken]
  have hcheck : Meeting o serve (call (.assertCurrent .caught o.ownerId t))
      (fun a s' log' => ∃ w, s' = s ∧
        log' = log ++ [⟨w, .assertCurrent .caught o.ownerId t, a⟩]) s log :=
    meeting_call trivial fun w a => ⟨w, rfl, rfl⟩
  refine hcheck.attemptBind ?_
  · rintro a s' log' ⟨w, rfl, rfl⟩
    have hm : Moved s' log s' (log ++ [⟨w, .assertCurrent .caught o.ownerId t, a⟩]) :=
      moved_call rfl (by simp [MigrationCall.site]) w a
    cases a with
    | error e =>
      refine ensures_pure.mpr ⟨hm, fun hworked => ?_⟩
      obtain ⟨b, hb⟩ := hworked _ (List.mem_append_right _ (List.mem_singleton_self _)) rfl
      cases hb
    | ok row =>
      have hacquired' : Acquired t (log ++ [⟨w, .assertCurrent .caught o.ownerId t, .ok row⟩]) := by
        rw [acquired_quiet (by simp [quiet])]
        exact hacquired
      have hrelease : Meeting o serve (call (.release .caught (o.releaseRequest t)))
          (fun a s'' log' => ∃ w', s'' = s' ∧
            log' = (log ++ [⟨w, .assertCurrent .caught o.ownerId t, .ok row⟩]) ++
              [⟨w', .release .caught (o.releaseRequest t), a⟩]) s' _ :=
        meeting_call trivial fun w' a => ⟨w', rfl, rfl⟩
      refine hrelease.bind ?_ ?_
      · rintro _ s'' log' ⟨w', rfl, rfl⟩
        exact ensures_pure.mpr ⟨hm.trans (moved_call rfl (by simp [MigrationCall.site]) w' _),
          fun _ => released_snoc hacquired' w'⟩
      · rintro e s'' log' ⟨w', rfl, rfl⟩
        refine ⟨hm.trans (moved_call rfl (by simp [MigrationCall.site]) w' _), fun hworked => ?_⟩
        obtain ⟨b, hb⟩ := hworked _ (List.mem_append_right _ (List.mem_singleton_self _)) rfl
        cases hb

theorem caught_attempt {m : MigrationMethod α} (h : Caught o serve m) : Caught o serve (attempt m) :=
  fun s log => Ensures.attempt (h s log)

theorem caught_safeRelease : Caught o serve (o.safeRelease .caught) := by
  refine caught_fields fun s => ?_
  split
  · refine caught_bind (caught_attempt (caught_call rfl (by simp [MigrationCall.site]))) fun r => ?_
    cases r with
    | error e => exact caught_pure false
    | ok row =>
      exact caught_bind (caught_call rfl (by simp [MigrationCall.site])) fun _ => caught_pure true
  · exact caught_pure false

/-- What the handler reports of an exception of the body, and what it has released. -/
structure Handled (o : Orchestrator) (s₀ : Fields) (log₀ : MigrationLog ω) (e₀ e : MigrationError)
    (log : MigrationLog ω) : Prop where
  grown : ∃ more, log = log₀ ++ more ∧ ∀ ev ∈ more, quiet ev.made = true ∧ ev.made.site ≠ .run
  reported : e = reported s₀.executionState e₀
  released : s₀.client = true → reportedPhase s₀.executionState e₀ ≠ .ambiguous →
    ∀ t, s₀.token = some t → Acquired t log₀ → ClientWorked log → Released o t log

theorem meets_report (e₀ : MigrationError) :
    Meeting o serve (o.report e₀) (fun r _ log' => ∃ e, r = .ok e ∧ Handled o s log e₀ e log') s log := by
  refine (caught_stopPump s log).attemptBind ?_
  rintro _ s₁ log₁ h₁
  refine meeting_fields ?_
  show Meeting o serve (ite _ _ _) _ _ _
  by_cases hphase : reportedPhase s₁.executionState e₀ = .ambiguous
  · rw [if_pos hphase]
    refine meeting_modify (meeting_fields ?_)
    show Meeting o serve (ite _ _ _) _ _ _
    rw [if_neg (fun h => h.1 hphase)]
    refine ensures_pure.mpr ⟨_, rfl, h₁.grown, ?_, ?_⟩
    · rw [← h₁.executionState]
      cases e₀ with
      | migration code detail phase version => rfl
      | other text =>
        have hstate : s₁.executionState = .ambiguousAuthority := by
          cases hs : s₁.executionState <;> rw [hs] at hphase <;> first | rfl | cases hphase
        rw [hstate]
    · intro _ hne
      rw [← h₁.executionState] at hne
      exact absurd hphase hne
  · rw [if_neg hphase]
    refine meeting_fields ?_
    show Meeting o serve (ite _ _ _) _ _ _
    by_cases hclient : s₁.client = true
    · rw [if_pos ⟨hphase, hclient⟩]
      have hgrown : ∀ s₂ log₂, Moved s₁ log₁ s₂ log₂ → ∃ more, log₂ = log ++ more ∧
          ∀ ev ∈ more, quiet ev.made = true ∧ ev.made.site ≠ .run := fun _ _ h₂ => (h₁.trans h₂).grown
      by_cases hacquired : ∃ t, s.token = some t ∧ Acquired t log
      · obtain ⟨t, htoken, hacquired⟩ := hacquired
        have hacquired₁ : Acquired t log₁ := by
          obtain ⟨more, rfl, -⟩ := h₁.grown
          obtain ⟨e, he, hrest⟩ := hacquired
          exact ⟨e, List.mem_append_left _ he, hrest⟩
        refine (meets_releaseCaught hclient (h₁.token.trans htoken) hacquired₁).attemptBind ?_
        rintro _ s₂ log₂ ⟨h₂, hreleased⟩
        refine ensures_pure.mpr ⟨_, rfl, hgrown _ _ h₂, by rw [h₁.executionState], ?_⟩
        intro _ _ t' ht' _
        cases htoken.symm.trans ht'
        exact hreleased
      · -- without an acquisition there is nothing to free
        refine (caught_safeRelease s₁ log₁).attemptBind ?_
        intro _ s₂ log₂ h₂
        refine ensures_pure.mpr ⟨_, rfl, hgrown _ _ h₂, by rw [h₁.executionState], ?_⟩
        intro _ _ t ht ha
        exact absurd ⟨t, ht, ha⟩ hacquired
    · rw [if_neg fun h => hclient h.2]
      refine ensures_pure.mpr ⟨_, rfl, h₁.grown, by rw [h₁.executionState], ?_⟩
      intro hc
      exact absurd (h₁.client hc) hclient

/-- How a run ends. -/
def RunEnded (o : Orchestrator) (r : Except MigrationError ProductionMigrationResult)
    (log : MigrationLog ω) : Prop :=
  match r with
  | .ok result => Finished o result log
  | .error e => Last (.closeClient .closing) (.error e) log ∨
    ∃ s₀ log₀ e₀, (∀ t, s₀.token = some t ↔ Acquired t log₀) ∧ Cause o s₀ log₀ e₀ ∧
      Handled o s₀ log₀ e₀ e log

theorem Finished.append {result : ProductionMigrationResult} {more : MigrationLog ω}
    (h : Finished o result log) (hmore : ∀ e ∈ more, quiet e.made = true ∧ e.made.site ≠ .run) :
    Finished o result (log ++ more) := by
  have hquiet : ∀ e ∈ more, quiet e.made = true := fun e he => (hmore e he).1
  have hfirst : activeAtFirst (log ++ more) = activeAtFirst log := by
    unfold activeAtFirst
    rw [discoveries_quiet hquiet]
  refine ⟨?_, ?_, h.fine.append fun e he hsite => absurd hsite (hmore e he).2, h.cleared.append more,
    h.released.append more, fun t ht => h.token t ((acquired_quiet hquiet t).mp ht), ?_⟩
  · rw [reactivated_quiet hquiet, hfirst]
    exact h.all
  · rw [hfirst]
    exact h.once
  · rw [hfirst]
    exact h.reported

theorem Handled.append {s₀ : Fields} {log₀ more : MigrationLog ω} {e₀ e : MigrationError}
    (h : Handled o s₀ log₀ e₀ e log)
    (hmore : ∀ ev ∈ more, quiet ev.made = true ∧ ev.made.site ≠ .run) :
    Handled o s₀ log₀ e₀ e (log ++ more) := by
  obtain ⟨⟨more', rfl, hmore'⟩, hreported, hreleased⟩ := h
  refine ⟨⟨more' ++ more, List.append_assoc .., fun ev he => ?_⟩, hreported, ?_⟩
  · exact (List.mem_append.mp he).elim (hmore' ev) (hmore ev)
  · intro hc hp t ht ha hworked
    refine (hreleased hc hp t ht ha fun ev he => ?_).append more
    exact hworked ev (List.mem_append_left _ he)

/-- **The run.** What the body leaves, what the handler makes of its exception, and the
last close. -/
theorem meets_run : Meeting o serve o.run (fun r _ log' => RunEnded o r log') Fields.initial [] := by
  have hclose : ∀ (outcome : Except MigrationError ProductionMigrationResult) s (log : MigrationLog ω),
      (∀ more, (∀ e ∈ more, quiet e.made = true ∧ e.made.site ≠ .run) → RunEnded o outcome (log ++ more)) →
      Meeting o serve (do
        if (← fields).client = true then
          call (.closeClient .closing)
        lift outcome) (fun r _ log' => RunEnded o r log') s log := by
    intro outcome s log hended
    refine meeting_fields ?_
    show Meeting o serve (ite _ _ _) _ _ _
    split
    · have hcall : Meeting o serve (call (.closeClient .closing)) (fun a s' log' => ∃ w, s' = s ∧
          log' = log ++ [⟨w, .closeClient .closing, a⟩]) s log :=
        meeting_call trivial fun w a => ⟨w, rfl, rfl⟩
      refine hcall.bind ?_ ?_
      · rintro _ s' log' ⟨w, rfl, rfl⟩
        refine ensures_lift.mpr (hended _ fun e he => ?_)
        cases List.mem_singleton.mp he
        exact ⟨rfl, fun h => nomatch h⟩
      · rintro e s' log' ⟨w, rfl, rfl⟩
        exact Or.inl ⟨log, _, rfl, w, rfl⟩
    · have h := hended [] fun _ he => absurd he List.not_mem_nil
      rw [List.append_nil] at h
      exact ensures_lift.mpr h
  refine meets_body.attemptBind ?_
  intro r s log h
  cases r with
  | ok result => exact hclose _ s log fun more hmore => h.1.append hmore
  | error e₀ =>
    refine (meets_report e₀).bind ?_ ?_
    · rintro e s' log' ⟨_, he, hhandled⟩
      cases he
      exact hclose _ s' log' fun more hmore =>
        Or.inr ⟨s, log, e₀, h.1, h.2, hhandled.append hmore⟩
    · rintro e s' log' ⟨_, he, -⟩
      cases he

end Adcp.L5.Migration
