import Adcp.L5Migration.StableWritersSafety
/-!
# How long a wait for stable writers lasts

A wait reads the clock once a round, after the cycle, so a clock that passes the deadline ends it.

* `nonrunning_clocked`, `baseline_clocked`, `resume_clocked`: nothing else in a wait reads the
  clock.
* `waits_sound`: how each wait ends, what it has seen when it returns, and that it ends.
-/
namespace Adcp.L5.Migration.StableWriters

open Adcp.L1 Script

variable {C : Type}

/-! ## Nothing else reads the clock -/

theorem timeless_pure {α : Type} (a : α) : Timeless (pure a : Watch C α) := trivial

theorem timeless_failResume {α : Type} (code stage : String) (entry : DcsWriterInventoryEntry C)
    (evidence : Option LaunchdRuntimeEvidence) (pids : Option (List Int)) :
    Timeless (failResume code entry stage evidence pids : Watch C α) :=
  ((timeless_detail entry stage evidence pids).bind fun _ => timeless_pure _).bind fun _ => trivial

theorem read_now {t : Int} {r : List (WatchEvent C)}
    (h : Transcript (invoke .monotonic) r (.ok t)) : readings r = [t] := by
  rw [transcript_invoke.mp h]
  rfl

theorem read_nothing {e : WatchError} {r : List (WatchEvent C)}
    (h : Transcript (invoke .monotonic) r (.error e)) : readings r = [] := by
  rw [transcript_invoke.mp h]
  rfl

theorem timeless_resolveDefinitions (targets : List (DcsWriterInventoryEntry C)) :
    ∀ definitions, Timeless (resolveDefinitions targets definitions) := by
  induction targets with
  | nil => exact fun _ => trivial
  | cons entry targets ih =>
    intro definitions
    refine (timeless_ask rfl).attempt.bind fun a => ?_
    cases a with
    | ok arguments => exact ih _
    | error e =>
      simp only
      split_ifs
      · exact timeless_failResume _ _ _ _ _
      · trivial

section Resume

variable [DecidableEq C] {parseClientIdentity : Option Json → C} {supportsV8 : C → Bool}

theorem timeless_observeIdentity (entry : DcsWriterInventoryEntry C) (arguments : List String)
    (prior : List Int) (evidence : LaunchdRuntimeEvidence) (launchPid : Int) (pids : List Int) :
    Timeless (observeIdentity parseClientIdentity supportsV8 entry arguments prior evidence
      launchPid pids) := by
  refine (timeless_ask rfl).bind fun found => ?_
  cases found with
  | false => trivial
  | true =>
    refine (timeless_ask rfl).bind fun _ => (timeless_ask rfl).bind fun runtime =>
      (timeless_ask rfl).bind fun _ => (timeless_ask rfl).bind fun authorized => ?_
    by_cases hauthority : (!authorizedRuntimeMatch runtime authorized) = true
    · rw [if_pos hauthority]
      exact timeless_failResume _ _ _ _ _
    rw [if_neg hauthority]
    by_cases hbuild : (!buildMatch parseClientIdentity supportsV8 entry runtime) = true
    · rw [if_pos hbuild]
      exact timeless_failResume _ _ _ _ _
    rw [if_neg hbuild]
    cases pidOf runtime with
    | none => exact timeless_failResume _ _ _ _ _
    | some runtimePid =>
      by_cases hother : runtimePid ≠ launchPid
      · simp only
        rw [if_pos hother]
        by_cases hknown : runtimePid ∉ prior
        · rw [if_pos hknown]
          exact timeless_failResume _ _ _ _ _
        rw [if_neg hknown]
        refine (timeless_ask rfl).attempt.bind fun probed => ?_
        cases probed with
        | error e => exact timeless_failResume _ _ _ _ _
        | ok answer =>
          obtain ⟨live, owned⟩ := answer
          cases live with
          | true => exact timeless_failResume _ _ _ _ _
          | false => trivial
      · simp only
        rw [if_neg hother]
        cases incarnationOf runtime with
        | none => exact timeless_failResume _ _ _ _ _
        | some incarnation => trivial

theorem timeless_observeActiveResumeEntry (entry : DcsWriterInventoryEntry C)
    (arguments : List String) (prior : List Int) :
    Timeless (observeActiveResumeEntry parseClientIdentity supportsV8 entry arguments prior) := by
  refine (timeless_launchState _ _).bind fun evidence => ?_
  by_cases hload : evidence.loadState ≠ .loaded
  · rw [if_pos hload]
    exact timeless_failResume _ _ _ _ _
  rw [if_neg hload]
  cases evidence.runtimeState with
  | inactive =>
    simp only
    split_ifs
    · exact timeless_failResume _ _ _ _ _
    · trivial
  | inconsistent => exact timeless_failResume _ _ _ _ _
  | unresolved => exact timeless_failResume _ _ _ _ _
  | active =>
    cases evidence.pidField with
    | none => exact timeless_failResume _ _ _ _ _
    | some launchPid =>
      simp only
      split_ifs
      · exact timeless_failResume _ _ _ _ _
      · refine (timeless_ask rfl).attempt.bind fun scanned => ?_
        cases scanned with
        | error e => exact timeless_failResume _ _ _ _ _
        | ok pids =>
          simp only
          split_ifs
          · exact timeless_failResume _ _ _ _ _
          · exact timeless_observeIdentity _ _ _ _ _ _

theorem timeless_resumeCycle (definitions : String → List String)
    (targets : List (DcsWriterInventoryEntry C)) : ∀ s stable current,
      Timeless (resumeCycle parseClientIdentity supportsV8 definitions targets s stable
      current) := by
  induction targets with
  | nil => exact fun _ _ _ => trivial
  | cons entry targets ih =>
    intro s stable current
    refine (timeless_observeActiveResumeEntry _ _ _).bind fun look => ?_
    obtain ⟨identity, evidence, pids⟩ := look
    cases identity with
    | none => exact ih _ _ _
    | some found => exact ih _ _ _

theorem resume_clocked (targets : List (DcsWriterInventoryEntry C))
    (definitions : String → List String) (deadline : Int) :
    (resumePoll parseClientIdentity supportsV8 targets definitions deadline).Clocked reading where
  cycle s _ _ h :=
    Timeless.readings ((timeless_resumeCycle definitions targets s true []).bind fun _ =>
      timeless_pure _) h
  now _ _ h := read_now h
  unread _ _ h := read_nothing h
  timeout s r rest h := by
    have htimeless : Timeless (resumeTimeout targets s) := by
      unfold resumeTimeout
      split
      · exact (timeless_detail _ _ _ _).bind fun _ => trivial
      · exact (timeless_detail _ _ _ _).bind fun _ => trivial
      · trivial
    exact htimeless.readings h
  pause _ _ h := Timeless.readings (timeless_ask rfl) h

end Resume

theorem nonrunning_clocked (transitions : List (DcsWriterInventoryEntry C × List String))
    (deadline : Int) (guards : Guards) :
    (nonrunningPoll transitions deadline guards).Clocked reading where
  cycle _ _ _ h :=
    Timeless.readings ((timeless_nonrunningCycle guards transitions none).bind fun _ =>
      timeless_pure _) h
  now _ _ h := read_now h
  unread _ _ h := read_nothing h
  timeout s r rest h := by
    have htimeless : Timeless (nonrunningTimeout transitions s) := by
      unfold nonrunningTimeout
      split
      · exact (timeless_detail _ _ _ _).bind fun _ => trivial
      · trivial
      · exact (timeless_launchState _ _).bind fun _ =>
          (timeless_detail _ _ _ _).bind fun _ => trivial
    exact htimeless.readings h
  pause _ _ h := Timeless.readings (timeless_ask rfl) h

theorem baseline_clocked (targets : List (DcsWriterInventoryEntry C)) (deadline : Int)
    (guards : Guards) : (baselinePoll targets deadline guards).Clocked reading where
  cycle _ _ _ h :=
    Timeless.readings ((timeless_baselineCycle guards targets true).bind fun _ => timeless_pure _) h
  now _ _ h := read_now h
  unread _ _ h := read_nothing h
  timeout _ _ _ h := by
    rw [(transcript_pure.mp h).1]
    rfl
  pause _ _ h := Timeless.readings (timeless_ask rfl) h

/-! ## The waits -/

/-- The clock is read to be what it says, one reading after the other. -/
def Follows (clock : Nat → Int) (log : List (WatchEvent C)) : Prop :=
  ∀ i t, (readings log)[i]? = some t → t = clock i

/-- Whatever the clock says: once it passes the deadline, at its reading `m`, it is not read again,
and cycles for `m` more readings are enough for the wait to end. -/
def Bounded {α : Type} (deadline : Int) (fuel : Nat) (log : List (WatchEvent C))
    (r : Except WatchError (Option α)) : Prop :=
  ∀ clock m, Follows clock log → deadline ≤ clock m →
    (readings log).length ≤ m + 1 ∧ (m < fuel → r ≠ .ok none)

theorem Defined.readings {targets : List (DcsWriterInventoryEntry C)}
    {definitions : String → List String} {log : List (WatchEvent C)}
    (h : Defined targets definitions log) : readings log = [] :=
  List.filterMap_eq_nil_iff.mpr fun e he => by
    obtain ⟨entry, -, arguments, rfl⟩ := h.only e he
    rfl

section Waits

variable [DecidableEq C] {parseClientIdentity : Option Json → C} {supportsV8 : C → Bool}
  {fuel : Nat} {entries : List (DcsWriterInventoryEntry C)} {deadline : Int}
  {log : List (WatchEvent C)} {r : Except WatchError (Option (List Resumed))}

variable (parseClientIdentity supportsV8 entries deadline) in
/-- The targets are resumed as `current`: the last cycles, as many as are required, have all found
each writer running as the same process, and no other process was found alive before. -/
def ResumedAs (current : List Resumed) (log : List (WatchEvent C)) : Prop :=
  (entries = [] ∧ current = []) ∨ ∃ definitions read polled, log = read ++ polled ∧
    Defined (sortedEntries entries) definitions read ∧
    Poll.Tail (AllRunning parseClientIdentity supportsV8 definitions (sortedEntries entries)
      current) (Waited deadline) activeResumeStableObservations polled ∧ Attributed none log

theorem ResumeEnds.resumed {current : List Resumed}
    (h : ResumeEnds parseClientIdentity supportsV8 fuel entries deadline log
      (.ok (some current))) :
    ResumedAs parseClientIdentity supportsV8 entries deadline current log := by
  generalize hr : Except.ok (some current) = r at h
  cases h with
  | noWriters hnone =>
    cases hr
    exact Or.inl ⟨hnone, rfl⟩
  | undefined raises => exact nomatch hr
  | @polled definitions read polled r defined ends =>
    subst hr
    obtain ⟨htail, hattributed⟩ := resumePoll_returns ends
    exact Or.inr ⟨definitions, read, polled, rfl, defined, htail,
      Attributed.append hattributed (defined.attributed none)⟩

theorem ResumeEnds.bounded
    (h : ResumeEnds parseClientIdentity supportsV8 fuel entries deadline log r) :
    Bounded deadline fuel log r := by
  intro clock m hclock hlate
  cases h with
  | noWriters none => exact ⟨Nat.zero_le _, fun _ h => (nomatch h)⟩
  | undefined raises =>
    rw [(timeless_resolveDefinitions _ _).readings raises]
    exact ⟨Nat.zero_le _, fun _ h => (nomatch h)⟩
  | @polled definitions read polled r defined ends =>
    have hreadings : readings (read ++ polled) = readings polled := by
      unfold readings
      rw [List.filterMap_append]
      exact congrArg (· ++ polled.filterMap reading) defined.readings
    rw [Follows, hreadings] at hclock
    rw [hreadings]
    exact (resume_clocked _ _ _).bounded ends hclock (decide_eq_true hlate)

/-- **Every wait is sound and bounded.** It ends as its poll does: after rounds whose cycles did
not agree and whose readings were before the deadline, it returns, or one more round raises. When
it returns, its last cycles have found each target as it should be; and with a clock that passes
the deadline it ends. -/
theorem waits_sound (parseClientIdentity : Option Json → C) (supportsV8 : C → Bool) (fuel : Nat)
    (deadline : Int) :
    (∀ transitions guards (log : List (WatchEvent C)) r,
      Transcript (waitForStableNonrunning fuel transitions deadline guards) log r →
      (nonrunningPoll transitions deadline guards).Ends fuel none log r ∧
      (r = .ok (some ()) → Poll.Tail (InTurn (Stopped guards) transitions) (Waited deadline)
        quiescenceStableObservations log) ∧ Bounded deadline fuel log r) ∧
    (∀ entries guards (log : List (WatchEvent C)) r,
      Transcript (waitForScheduledBaseline fuel entries deadline guards) log r →
      (baselinePoll (sortedEntries entries) deadline guards).Ends fuel () log r ∧
      (r = .ok (some ()) → Poll.Tail (InTurn (Scheduled guards) (sortedEntries entries))
        (Waited deadline) quiescenceStableObservations log) ∧ Bounded deadline fuel log r) ∧
    ∀ entries (log : List (WatchEvent C)) r,
      Transcript (waitForStableActiveResume parseClientIdentity supportsV8 fuel entries deadline)
        log r →
      ResumeEnds parseClientIdentity supportsV8 fuel entries deadline log r ∧
      (∀ current, r = .ok (some current) →
        ResumedAs parseClientIdentity supportsV8 entries deadline current log) ∧
      Bounded deadline fuel log r := by
  refine ⟨fun transitions guards log r h => ?_, fun entries guards log r h => ?_,
    fun entries log r h => ?_⟩
  · obtain ⟨hends, hstopped⟩ := waitForStableNonrunning_ends h
    exact ⟨hends, hstopped, fun clock m hclock hlate =>
      (nonrunning_clocked _ _ _).bounded hends hclock (decide_eq_true hlate)⟩
  · obtain ⟨hends, hscheduled⟩ := waitForScheduledBaseline_ends h
    exact ⟨hends, hscheduled, fun clock m hclock hlate =>
      (baseline_clocked _ _ _).bounded hends hclock (decide_eq_true hlate)⟩
  · have hends := waitForStableActiveResume_ends h
    refine ⟨hends, ?_, hends.bounded⟩
    rintro current rfl
    exact hends.resumed

end Waits

/-! ## A steady writer -/

/-- One writer's service, which stays as launchd says, at a time that does not pass. -/
def steady (state : EnabledState) (printed : LaunchctlPrint) (pids : List Int) :
    List (WatchEvent Unit) → (c : WatchCall Unit) → Except WatchError (WatchAnswer c)
  | _, .assertCurrent | _, .assertEventGuard | _, .requirePlainFile .. | _, .sleep => .ok ()
  | _, .serviceDefinition .. => .ok ["writer"]
  | _, .enabledState _ => .ok state
  | _, .launchctlPrint _ => .ok printed
  | _, .processProbe .. => .ok (true, true)
  | _, .processScan _ => .ok pids
  | _, .pathExists _ => .ok true
  | _, .safeJson _ => .ok (.obj [("service_code", .str "s"), ("product_build_commit", .str "c"),
      ("product_build_identity", .str "b"), ("source_root_or_artifact_identity", .str "a"),
      ("pid", .int 7), ("process_incarnation_id", .str "i")])
  | _, .runtimeIdentityPid _ => .ok none
  | _, .time | _, .monotonic => .ok 0

def soleWriter : DcsWriterInventoryEntry Unit where
  writerId := "w"
  launchdLabel := "l"
  serviceCode := "s"
  runtimeIdentityPath := "r"
  authorizedIdentityPath := "z"
  pid := none
  productBuildCommit := "c"
  productBuildIdentity := "b"
  sourceRootOrArtifactIdentity := "a"
  client := ()

theorem rehearsed {α : Type} (answer : List (WatchEvent Unit) → (c : WatchCall Unit) →
      Except WatchError (WatchAnswer c)) (n : Nat) {x : Watch Unit α} {r : Except WatchError α}
    (h : (rehearse answer n x []).map Prod.snd = some r) : ∃ log, Transcript x log r := by
  obtain ⟨⟨log, r'⟩, hrun, rfl⟩ := Option.map_eq_some_iff.mp h
  exact ⟨log, rehearse_transcript hrun⟩

theorem nonrunning_steady : ∃ log, Transcript
    (waitForStableNonrunning 2 [(soleWriter, ["writer"])] 10 {}) log (.ok (some ())) :=
  rehearsed (steady .disabled ⟨113, none, none, true⟩ []) 40 (by decide +kernel)

theorem baseline_steady : ∃ log, Transcript
    (waitForScheduledBaseline 2 [soleWriter] 10 {}) log (.ok (some ())) :=
  rehearsed (steady .enabled ⟨0, some "not running", none, false⟩ []) 40
    (by decide +kernel)

theorem resume_steady : ∃ log, Transcript
    (waitForStableActiveResume (fun _ => ()) (fun _ => true) 2 [soleWriter] 10) log
    (.ok (some [("w", 7, "i")])) :=
  rehearsed (steady .enabled ⟨0, some "running", some 7, false⟩ [7]) 40
    (by decide +kernel)

/-- Each wait returns beside a steady writer, having seen what it waits for. -/
theorem waits_sound_steady :
    (∃ log, Poll.Tail (InTurn (Stopped {}) [(soleWriter, ["writer"])]) (Waited 10)
      quiescenceStableObservations log) ∧
    (∃ log, Poll.Tail (InTurn (Scheduled {}) (sortedEntries [soleWriter])) (Waited 10)
      quiescenceStableObservations log) ∧
    ∃ log, ResumedAs (fun _ => ()) (fun _ => true) [soleWriter] 10 [("w", 7, "i")] log := by
  obtain ⟨stopped, hstopped⟩ := nonrunning_steady
  obtain ⟨scheduled, hscheduled⟩ := baseline_steady
  obtain ⟨resumed, hresumed⟩ := resume_steady
  obtain ⟨hnonrunning, hbaseline, hresume⟩ := waits_sound (fun _ => ()) (fun _ => true) 2 10
  exact ⟨⟨stopped, (hnonrunning _ _ _ _ hstopped).2.1 rfl⟩,
    ⟨scheduled, (hbaseline _ _ _ _ hscheduled).2.1 rfl⟩,
    ⟨resumed, (hresume _ _ _ hresumed).2.1 _ rfl⟩⟩

end Adcp.L5.Migration.StableWriters
