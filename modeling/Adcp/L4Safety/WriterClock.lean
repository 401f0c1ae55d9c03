import Adcp.L1Base.Raises
import Adcp.L3Store.GlobalWriter
import Adcp.L3Store.Datetimes
/-!
# The clock of the writer lease

A lease ends at a time, and three parts of the program compare it with the present: Python through
SQLite's `julianday`, which has milliseconds, the `WHERE` of an `UPDATE` by the text of the column,
which has microseconds, and the caller by its `datetime`.

* `MillisecondClock`: what `julianday` can tell apart.
* `current_matches`: an unexpired lease is matched by the `WHERE` behind the check.
* `writer_clock_agrees`: no call that passes the check finds no row.
-/
namespace Adcp.L4

open Adcp.L1 Adcp.L2 Adcp.L3

/-! ## The two comparisons -/

/-- `julianday` keeps the order, and tells apart what is more than a millisecond apart. -/
structure MillisecondClock (julianday : Timestamp → Int) : Prop where
  mono : ∀ {a b : Timestamp}, a ≤ b → julianday a ≤ julianday b
  resolves : ∀ {a b : Timestamp}, a.micros + 1000 < b.micros → julianday a < julianday b

/-- `expires_at > ?`; the column and the parameter are texts.
mirrors src/adcp/store/sqlite.py:1389,1464,1552 -/
def expiryGuard (row : GlobalWriterLease) (now : Timestamp) : Bool :=
  row.expiresAt.any fun expires => now.text < expires.text

/-- The `WHERE` of a heartbeat, a release and a revocation. -/
def heldGuard (row : GlobalWriterLease) (ownerId : String) (fencingToken : Int)
    (now : Timestamp) : Bool :=
  row.state = .HELD && row.context.ownerId = some ownerId && row.fencingToken = fencingToken &&
    expiryGuard row now

theorem expiryGuard_eq (row : GlobalWriterLease) (now : Timestamp) :
    expiryGuard row now = row.expiresAt.any (now < ·) := by
  unfold expiryGuard
  simp only [Timestamp.text_lt_iff]

section Clock

variable {env : Env} {row : GlobalWriterLease} {now : Timestamp}

theorem expiryGuard_of_unexpired (hclock : MillisecondClock env.julianday)
    (h : writerUnexpired env row now = true) : expiryGuard row now = true := by
  rw [expiryGuard_eq]
  unfold writerUnexpired at h
  cases hexpires : row.expiresAt with
  | none =>
    rw [hexpires] at h
    cases h
  | some expires =>
    rw [hexpires] at h
    simp only [decide_eq_true_eq] at h
    simp only [Option.any_some, decide_eq_true_eq]
    apply Timestamp.not_le.mp
    intro hle
    have := hclock.mono hle
    omega

/-- The check refuses what the guard would match only in the last millisecond of a lease. -/
theorem expires_within (hclock : MillisecondClock env.julianday)
    (hguard : expiryGuard row now = true) (h : writerUnexpired env row now = false) :
    ∃ expires, row.expiresAt = some expires ∧ now.micros < expires.micros ∧
      expires.micros ≤ now.micros + 1000 := by
  rw [expiryGuard_eq] at hguard
  unfold writerUnexpired at h
  cases hexpires : row.expiresAt with
  | none =>
    rw [hexpires] at hguard
    cases hguard
  | some expires =>
    rw [hexpires] at h hguard
    simp only [decide_eq_false_iff_not, Option.any_some, decide_eq_true_eq] at h hguard
    refine ⟨expires, rfl, hguard, Nat.le_of_not_lt fun hlt => ?_⟩
    exact h (hclock.resolves hlt)

theorem current_matches {ownerId : String} {token : Int} (hclock : MillisecondClock env.julianday)
    (h : WriterCurrent env row ownerId token now) : heldGuard row ownerId token now = true := by
  obtain ⟨htoken, hheld, howner, hunexpired⟩ := h
  unfold heldGuard
  rw [expiryGuard_of_unexpired hclock hunexpired]
  simp [htoken, hheld, howner]

end Clock

/-! ## The operations -/

/-- The codes of the checks on the stored lease. -/
def leaseCodes : List String :=
  ["INVALID_LEASE_TTL", "GLOBAL_PRODUCTION_WRITER_NOT_HELD",
    "GLOBAL_PRODUCTION_WRITER_OWNER_MISMATCH", "GLOBAL_PRODUCTION_WRITER_LEASE_EXPIRED",
    "GLOBAL_PRODUCTION_WRITER_IDEMPOTENCY_CONFLICT", "GLOBAL_PRODUCTION_WRITER_HELD",
    "GLOBAL_PRODUCTION_WRITER_OPERATION_REPLAY_STALE"]

/-- The codes of the checks on one field. -/
def fieldCodes : List String :=
  ["INVALID_INPUT", "GLOBAL_PRODUCTION_WRITER_STATE_INVALID",
    "GLOBAL_PRODUCTION_WRITER_CONTEXT_INVALID"]

/-- The errors of an operation on the lease that are not raised for want of a row; `stale` says
that the check itself found another token. -/
inductive Refused (fault : String → Option PyError) (stale : Prop) : PyError → Prop
  | code {c : String} (h : c ∈ leaseCodes) : Refused fault stale (storeError c)
  | field {c detail : String} (h : c ∈ fieldCodes) : Refused fault stale (.store c detail)
  | token (h : stale) : Refused fault stale (storeError "STALE_FENCING_TOKEN")
  | sqlite {detail : String} (h : detail ≠ "global writer singleton update lost") :
      Refused fault stale (.store "CONTROL_STORE_ERROR" detail)
  | python {e : PyError} (h : ∀ code detail, e ≠ .store code detail) : Refused fault stale e
  | injected {p : String} {e e' : PyError} (h : fault p = some e) (he : controlStoreError e = e') :
      Refused fault stale e'

section Operations

variable {env : Env} {fault : String → Option PyError} {stale : Prop} {db : Db}

/-- What may leave a transaction whose SQLite errors are translated. -/
abbrev Translated (fault : String → Option PyError) (stale : Prop) (e : PyError) : Prop :=
  Refused fault stale (controlStoreError e)

theorem refused_code {c : String} (h : c ∈ leaseCodes) :
    Translated fault stale (storeError c) := Refused.code h

theorem refused_check (table : String) : Translated fault stale (.check table "row") := by
  refine Refused.sqlite fun h => ?_
  have := congrArg (fun s => s.toList.head?) h
  simp at this

theorem getLease_raises :
    Tx.Raises (getGlobalProductionWriterLease env) db (Translated fault stale) := by
  have hstate : ∀ field, Translated fault stale (writerStateInvalid field) := fun field =>
    Refused.field (by decide)
  unfold getGlobalProductionWriterLease
  refine .read_bind (.bind ?_ fun _ _ _ => .pure)
  unfold validateGlobalWriterRow
  refine .require_bind (fun _ => hstate _) fun _ => ?_
  cases db.globalWriterLease.state with
  | FREE => exact .requireAll hstate
  | HELD =>
    exact .bind (.requireAll hstate) fun _ _ _ => .bind (.requireAll hstate) fun _ _ _ =>
      .bind (.requireAll hstate) fun _ _ _ => .require fun _ => hstate _

theorem getLease_bind_raises {α : Type} {f : GlobalWriterLease → Tx PyError Db α}
    (hf : WriterRowValid env db.globalWriterLease →
      Tx.Raises (f db.globalWriterLease) db (Translated fault stale)) :
    Tx.Raises (getGlobalProductionWriterLease env >>= f) db (Translated fault stale) := by
  refine .bind getLease_raises fun row t hok => ?_
  obtain ⟨hvalid, heq⟩ := getLease_ok.mp hok
  cases heq
  exact hf hvalid

theorem requireCurrent_bind_raises {α : Type} {row : GlobalWriterLease} {owner : String}
    {token : Int} {now : Timestamp} {f : Unit → Tx PyError Db α}
    (hstale : row.fencingToken ≠ token → stale)
    (hf : WriterCurrent env row owner token now → Tx.Raises (f ()) db (Translated fault stale)) :
    Tx.Raises (requireCurrentGlobalWriter env row owner token now >>= f) db
      (Translated fault stale) := by
  refine .bind ?_ fun _ _ hok => ?_
  · unfold requireCurrentGlobalWriter
    exact .require_bind (fun h => Refused.token (hstale h)) fun _ =>
      .require_bind (fun _ => refused_code (by decide)) fun _ =>
        .require_bind (fun _ => refused_code (by decide)) fun _ =>
          .require fun _ => refused_code (by decide)
  · obtain ⟨hcurrent, heq⟩ := requireCurrentGlobalWriter_ok.mp hok
    cases heq
    exact hf hcurrent

theorem existingEvent_state {key requestJson : String} {allowed : List WriterEventType}
    {r : Option GlobalWriterEvent × Db}
    (h : existingGlobalWriterEvent key allowed requestJson db = .ok r) : r.2 = db := by
  refine Tx.ReadOnly.bind .read (fun found => ?_) _ _ _ h
  cases found with
  | none => exact .pure
  | some event => exact .bind .require fun _ => .pure

theorem existingEvent_bind_raises {α : Type} {key requestJson : String}
    {allowed : List WriterEventType} {f : Option GlobalWriterEvent → Tx PyError Db α}
    (hf : ∀ found, Tx.Raises (f found) db (Translated fault stale)) :
    Tx.Raises (existingGlobalWriterEvent key allowed requestJson >>= f) db
      (Translated fault stale) := by
  refine .bind ?_ fun found t hok => ?_
  · unfold existingGlobalWriterEvent
    refine .read_bind ?_
    cases db.globalWriterEvent.find? (·.operationKey = key) with
    | none => exact .pure
    | some event => exact .require_bind (fun _ => refused_code (by decide)) fun _ => .pure
  · obtain rfl : t = db := existingEvent_state hok
    exact hf found

/-- An update that matches its row does not raise the error for a missing one. -/
theorem update_raises {cond : GlobalWriterLease → Bool}
    {set : GlobalWriterLease → GlobalWriterLease} {lost : PyError}
    (h : cond db.globalWriterLease = true) :
    Tx.Raises (updateWriterLease env cond set lost) db (Translated fault stale) := by
  unfold updateWriterLease
  exact .read_bind (.require_bind (fun hc => absurd h hc) fun _ =>
    .require_bind (fun _ => Refused.sqlite (by decide)) fun _ =>
      .require_bind (fun _ => refused_check _) fun _ => .write)

theorem insertEvent_raises {event : GlobalWriterEvent} :
    Tx.Raises (insertGlobalWriterEvent event) db (Translated fault stale) := by
  unfold insertGlobalWriterEvent
  exact .read_bind (.require_bind (fun _ => refused_check _) fun _ =>
    .require_bind (fun _ => Refused.sqlite (by decide)) fun _ => .write)

theorem inject_raises {point : String} :
    Tx.Raises (inject env point : Tx PyError Db Unit) db (Translated env.fault stale) := by
  intro e he
  unfold inject at he
  cases hfault : env.fault point with
  | none =>
    rw [hfault] at he
    cases he
  | some e' =>
    rw [hfault] at he
    cases he
    exact Refused.injected hfault rfl

theorem canonicalJson_refused {v : Json} {e : PyError} (h : canonicalJson v = .error e) :
    Refused fault stale e := by
  unfold canonicalJson at h
  split at h
  · cases h
  · cases h
    exact .python fun _ _ h => by cases h

theorem addSeconds_refused {t : Timestamp} {n : Int} {e : PyError}
    (h : t.addSeconds n = .error e) : Refused fault stale e := by
  unfold Timestamp.addSeconds at h
  simp only at h
  split at h
  · cases h
  · cases h
    exact .python fun _ _ h => by cases h

theorem heldGuard_eq (row : GlobalWriterLease) (ownerId : String) (token : Int) (now : Timestamp) :
    heldGuard row ownerId token now = (row.state = .HELD && row.context.ownerId = some ownerId &&
      row.fencingToken = token && row.expiresAt.any (now < ·)) := by
  unfold heldGuard
  rw [expiryGuard_eq]

theorem heartbeat_raises (hclock : MillisecondClock env.julianday) (owner : String)
    (token ttl : Int) : Tx.Raises (heartbeatWriterTx env owner token ttl) db
      (Refused (fun _ => none) (db.globalWriterLease.fencingToken ≠ token)) := by
  unfold heartbeatWriterTx requireTtl
  refine .require_bind (fun _ => Refused.code (by decide)) fun _ => ?_
  refine .lift_bind (fun e he => addSeconds_refused he) fun expires _ => ?_
  refine .mapError (getLease_bind_raises fun _ => ?_)
  refine requireCurrent_bind_raises id fun hcurrent => update_raises ?_
  rw [← heldGuard_eq]
  exact current_matches hclock hcurrent

theorem freeWriter_raises (hclock : MillisecondClock env.julianday) {eventType : WriterEventType}
    {key owner reason requestJson : String} {token newToken : Int} {ref : Option String}
    {lost : PyError} : Tx.Raises
      (freeWriter env eventType key owner token newToken reason ref requestJson lost) db
      (Refused env.fault (db.globalWriterLease.fencingToken ≠ token)) := by
  unfold freeWriter
  refine .mapError (existingEvent_bind_raises fun found => ?_)
  cases found with
  | some event =>
    exact getLease_bind_raises fun _ =>
      .require_bind (fun _ => refused_code (by decide)) fun _ => .pure
  | none =>
    refine getLease_bind_raises fun _ => requireCurrent_bind_raises id fun hcurrent => ?_
    refine .bind (update_raises ?_) fun _ _ _ => .bind inject_raises fun _ _ _ =>
      .bind insertEvent_raises fun _ _ _ => .bind inject_raises fun _ _ _ => .pure
    rw [← heldGuard_eq]
    exact current_matches hclock hcurrent

theorem release_raises (hclock : MillisecondClock env.julianday) (a : ReleaseWriter) :
    Tx.Raises (releaseWriterTx env a) db
      (Refused env.fault (db.globalWriterLease.fencingToken ≠ a.fencingToken)) := by
  have hinput : ∀ detail, Refused env.fault (db.globalWriterLease.fencingToken ≠ a.fencingToken)
      (.store "INVALID_INPUT" detail) := fun _ => .field (by decide)
  unfold releaseWriterTx requireSha256
  exact .require_bind (fun _ => hinput _) fun _ => .require_bind (fun _ => hinput _) fun _ =>
    .require_bind (fun _ => hinput _) fun _ => .require_bind (fun _ => hinput _) fun _ =>
      .lift_bind (fun e he => canonicalJson_refused he) fun _ _ => freeWriter_raises hclock

theorem revoke_raises (hclock : MillisecondClock env.julianday) (a : RevokeWriter) :
    Tx.Raises (revokeWriterTx env a) db
      (Refused env.fault (db.globalWriterLease.fencingToken ≠ a.expectedFencingToken)) := by
  have hinput : ∀ detail, Refused env.fault (db.globalWriterLease.fencingToken ≠ a.expectedFencingToken)
      (.store "INVALID_INPUT" detail) := fun _ => .field (by decide)
  unfold revokeWriterTx requireSha256
  refine .require_bind (fun _ => hinput _) fun _ => .bind (.requireAll hinput) fun _ t hok => ?_
  cases (Tx.requireAll_ok.mp hok).2
  exact .require_bind (fun _ => hinput _) fun _ =>
    .lift_bind (fun e he => canonicalJson_refused he) fun _ _ => freeWriter_raises hclock

/-- The row a takeover matches is the row it read. -/
theorem acquire_raises (a : AcquireWriter) :
    Tx.Raises (acquireWriterTx env a) db (Refused env.fault False) := by
  have hinput : ∀ detail, Refused env.fault False (.store "INVALID_INPUT" detail) := fun _ =>
      .field (by decide)
  have hcontext : ∀ detail, Refused env.fault False
      (.store "GLOBAL_PRODUCTION_WRITER_CONTEXT_INVALID" detail) := fun _ => .field (by decide)
  unfold acquireWriterTx requireSha256 requireTtl
  refine .require_bind (fun _ => hinput _) fun _ =>
    .require_bind (fun _ => Refused.code (by decide)) fun _ =>
      .require_bind (fun _ => hinput _) fun _ => .bind ?_ fun _ _ _ =>
        .lift_bind (fun e he => canonicalJson_refused he) fun _ _ =>
          .lift_bind (fun e he => addSeconds_refused he) fun _ _ => .mapError
            (existingEvent_bind_raises fun found => ?_)
  · exact .bind (.requireAll hcontext) fun _ _ _ => .requireAll hcontext
  · cases found with
    | some event =>
      exact getLease_bind_raises fun _ =>
        .require_bind (fun _ => refused_code (by decide)) fun _ => .pure
    | none =>
      refine getLease_bind_raises fun _ =>
        .require_bind (fun _ => refused_code (by decide)) fun _ => ?_
      refine .bind (update_raises ?_) fun _ _ _ => .bind inject_raises fun _ _ _ =>
        .bind insertEvent_raises fun _ _ _ => .bind inject_raises fun _ _ _ => .pure
      simp

/-- A code of its own is raised by the check, or by an injected fault. -/
theorem refused_ne {c : String} (hcode : c ∉ leaseCodes) (hfield : c ∉ fieldCodes)
    (hsqlite : c ≠ "CONTROL_STORE_ERROR") (h : Refused fault stale (storeError c)) :
    c = "STALE_FENCING_TOKEN" ∧ stale ∨
      ∃ p e, fault p = some e ∧ controlStoreError e = storeError c := by
  generalize he : storeError c = e at h
  unfold storeError at he
  cases h with
  | code hc =>
    cases he
    exact absurd hc hcode
  | field hc =>
    cases he
    exact absurd hc hfield
  | token hs =>
    cases he
    exact Or.inl ⟨rfl, hs⟩
  | sqlite =>
    cases he
    exact absurd rfl hsqlite
  | python hne => exact absurd he.symm (hne c "")
  | injected hf hmap => exact Or.inr ⟨_, _, hf, hmap⟩

theorem refused_lost
    (h : Refused fault False (.store "CONTROL_STORE_ERROR" "global writer singleton update lost")) :
    ∃ p e, fault p = some e ∧
      controlStoreError e = .store "CONTROL_STORE_ERROR" "global writer singleton update lost" := by
  generalize he : PyError.store "CONTROL_STORE_ERROR" "global writer singleton update lost" = e at h
  cases h with
  | code hc =>
    unfold storeError at he
    injection he with _ hdetail
    exact absurd hdetail (by decide)
  | field hc =>
    cases he
    exact absurd hc (by decide)
  | token hs => exact hs.elim
  | sqlite hd =>
    cases he
    exact absurd rfl hd
  | python hne => exact absurd he.symm (hne _ _)
  | injected hf hmap => exact ⟨_, _, hf, hmap⟩

end Operations

/-- The exception of an injected fault, as the operation reports it. -/
def Injected (env : Env) (e : PyError) : Prop :=
  ∃ p fault, env.fault p = some fault ∧ controlStoreError fault = e

/-- **The clocks of the lease agree.** The texts of two `datetime`s sort as the instants do, and are
equal for equal instants only; what has no text is naive, or outside the years 1 to 9999. Where
`julianday` finds a lease unexpired its `WHERE` matches, and where it does not while the text is
still later, at most a millisecond is left. So no operation that passed its check fails for want of
a row: the errors for that are raised by the check itself, or by an injected fault. -/
theorem writer_clock_agrees (env : Env) (hclock : MillisecondClock env.julianday) :
    (∀ a b : Datetime, ∀ s t, a.timestamp = .ok s → b.timestamp = .ok t →
      (s < t ↔ ∃ i j, a.instant = some i ∧ b.instant = some j ∧ i < j) ∧
      (s = t ↔ a.instant = b.instant)) ∧
    (∀ (a : Datetime) e, a.timestamp = .error e ↔
      a.utcoffset = none ∧ e = .store "INVALID_TIMESTAMP" "timezone-aware UTC input required" ∨
      ∃ i, a.instant = some i ∧ (i < 0 ∨ maxMicros ≤ i) ∧ e = .overflow) ∧
    (∀ row ownerId token now, WriterCurrent env row ownerId token now →
      heldGuard row ownerId token now = true) ∧
    (∀ row now, expiryGuard row now = true → writerUnexpired env row now = false →
      ∃ expires, row.expiresAt = some expires ∧ now.micros < expires.micros ∧
        expires.micros ≤ now.micros + 1000) ∧
    (∀ db ownerId token ttl,
      heartbeatWriterTx env ownerId token ttl db = .error (storeError "STALE_FENCING_TOKEN") →
      db.globalWriterLease.fencingToken ≠ token) ∧
    (∀ db a, releaseWriterTx env a db = .error (storeError "STALE_FENCING_TOKEN") →
      db.globalWriterLease.fencingToken ≠ a.fencingToken ∨
        Injected env (storeError "STALE_FENCING_TOKEN")) ∧
    (∀ db a, revokeWriterTx env a db =
        .error (storeError "GLOBAL_PRODUCTION_WRITER_FORCE_REVOKE_MISMATCH") →
      Injected env (storeError "GLOBAL_PRODUCTION_WRITER_FORCE_REVOKE_MISMATCH")) ∧
    (∀ db a, acquireWriterTx env a db =
        .error (.store "CONTROL_STORE_ERROR" "global writer singleton update lost") →
      Injected env (.store "CONTROL_STORE_ERROR" "global writer singleton update lost")) := by
  refine ⟨fun a b s t hs ht => ⟨Datetime.timestamp_lt_iff hs ht, Datetime.timestamp_eq_iff hs ht⟩,
    fun a e => Datetime.timestamp_error, fun row ownerId token now h => current_matches hclock h,
    fun row now hguard h => expires_within hclock hguard h, ?_, ?_, ?_, ?_⟩
  · intro db ownerId token ttl he
    rcases refused_ne (by decide) (by decide) (by decide)
      (heartbeat_raises hclock ownerId token ttl _ he) with ⟨-, hstale⟩ | ⟨_, _, hfault, -⟩
    · exact hstale
    · cases hfault
  · intro db a he
    rcases refused_ne (by decide) (by decide) (by decide) (release_raises hclock a _ he) with
      ⟨-, hstale⟩ | hfault
    · exact Or.inl hstale
    · exact Or.inr hfault
  · intro db a he
    rcases refused_ne (by decide) (by decide) (by decide) (revoke_raises hclock a _ he) with
      ⟨hcode, -⟩ | hfault
    · exact absurd hcode (by decide)
    · exact hfault
  · intro db a he
    exact refused_lost (acquire_raises a _ he)

/-! ## A sample lease

SQLite rounds to the nearest millisecond. The lease ends 0.4 ms after a full millisecond. -/

abbrev roundedEnv : Env where
  clock _ := ⟨62135596830000100, by decide⟩
  uuid i := toString i
  julianday t := (t.micros + 500) / 1000
  julianText _ := true
  floatRepr t := t
  canonicalSourceRoot path := .ok path
  home user := .ok user
  cwd := "/"
  openDirectory _ := .ok ()
  readOne _ _ := .ok []
  guard := none
  fault _ := none

abbrev roundedLease : GlobalWriterLease where
  state := .HELD
  context :=
    { ownerId := some "owner", ownerExecutionId := none, changeId := some "change", sliceId := none
      writerClass := some "class", ownerSessionRole := some "role", track := some "track"
      repositoryOrRuntime := some "runtime", operationClass := some "operation"
      target := some "target" }
  fencingToken := 1
  acquiredAt := some .epoch
  expiresAt := some ⟨62135596830000400, by decide⟩
  heartbeatAt := some .epoch
  updatedAt := .epoch

theorem rounded_clock : MillisecondClock roundedEnv.julianday where
  mono := by
    intro a b h
    rw [Timestamp.le_def] at h
    simp only
    omega
  resolves := by
    intro a b h
    simp only
    omega

theorem writer_clock_sample :
    heldGuard roundedLease "owner" 1 .epoch = true ∧
    ∃ expires, roundedLease.expiresAt = some expires ∧
      (roundedEnv.clock 0).micros < expires.micros ∧
      expires.micros ≤ (roundedEnv.clock 0).micros + 1000 := by
  obtain ⟨-, -, hmatch, hwithin, -⟩ := writer_clock_agrees roundedEnv rounded_clock
  have hguard : expiryGuard roundedLease (roundedEnv.clock 0) = true := by
    rw [expiryGuard_eq]
    decide
  exact ⟨hmatch roundedLease "owner" 1 .epoch ⟨rfl, rfl, rfl, by decide⟩,
    hwithin roundedLease (roundedEnv.clock 0) hguard (by decide)⟩

/-- The text is later and the check says expired; and a text that was not written by `timestamp`
sorts by its separator. -/
theorem clocks_disagree :
    MillisecondClock roundedEnv.julianday ∧ WriterRowValid roundedEnv roundedLease ∧
    expiryGuard roundedLease (roundedEnv.clock 0) = true ∧
    writerUnexpired roundedEnv roundedLease (roundedEnv.clock 0) = false ∧
    "1970-01-01 00:00:30.000000+00:00" < Timestamp.epoch.text := by
  refine ⟨rounded_clock, ⟨by decide, ?_, ?_, by decide⟩, ?_, by decide, by decide +kernel⟩
  · simp [WriterContext.requiredFields, nonEmptyText]
  · simp [WriterContext.optionalFields, nullOrNonEmpty]
  · rw [expiryGuard_eq]
    decide

end Adcp.L4
