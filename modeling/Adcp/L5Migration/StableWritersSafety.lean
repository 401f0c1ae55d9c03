import Adcp.L5Migration.StableWriters
/-!
# What a wait for stable writers has seen

A transcript of a wait holds everything that was answered, so that what it has seen is read off
it. `Stopped`, `Scheduled` and `Running` say what one look at one writer shows when the writer is
as it should be; a wait that returns ends with as many cycles as are required, in each of which
every writer was found so.

* `waitForStableNonrunning_ends`, `waitForScheduledBaseline_ends`,
  `waitForStableActiveResume_ends`: how each wait ends.
* `Attributed`: no process is found alive but the one that launchd has just named.
-/
namespace Adcp.L5.Migration.StableWriters

open Adcp.L1 Script

variable {C : Type}

/-- A call of a wait with its answer. -/
abbrev WatchEvent (C : Type) : Type := Script.Answered WatchError (WatchAnswer (C := C))

/-! ## The clock -/

def reading : WatchEvent C → Option Int
  | ⟨.monotonic, .ok t⟩ => some t
  | _ => none

/-- What the clock was read to be. -/
def readings (log : List (WatchEvent C)) : List Int := log.filterMap reading

def WatchCall.isClock : WatchCall C → Bool
  | .monotonic => true
  | _ => false

/-- The clock is not read. -/
abbrev Timeless {α : Type} (x : Watch C α) : Prop := Within (fun c => c.isClock = false) x

theorem reading_none {e : WatchEvent C} (h : e.made.isClock = false) : reading e = none := by
  obtain ⟨c, a⟩ := e
  cases c with
  | monotonic => exact nomatch h
  | _ => rfl

theorem Timeless.readings {α : Type} {x : Watch C α} (hx : Timeless x) {log : List (WatchEvent C)}
    {r : Except WatchError α} (h : Transcript x log r) : readings log = [] :=
  List.filterMap_eq_nil_iff.mpr fun e he => reading_none (hx.transcript h e he)

/-- A reading before the deadline, and a pause. -/
def Waited (deadline : Int) (wait : List (WatchEvent C)) : Prop :=
  ∃ t, t < deadline ∧ wait = [⟨.monotonic, .ok t⟩, ⟨.sleep, .ok ()⟩]

theorem waited {deadline t : Int} {r rest : List (WatchEvent C)}
    (hread : Transcript (invoke .monotonic) r (.ok t)) (hearly : decide (deadline ≤ t) = false)
    (hpause : Transcript (invoke .sleep) rest (.ok ())) : Waited deadline (r ++ rest) := by
  rw [transcript_invoke.mp hread, transcript_invoke.mp hpause]
  exact ⟨t, not_le.mp (of_decide_eq_false hearly), rfl⟩

/-! ## One look at a service -/

/-- What a probe of the process that launchd names has answered. -/
inductive Probed (arguments : List String) :
    Option Int → List (WatchEvent C) → Bool → Bool → Bool → Prop
  | unnamed : Probed arguments none [] false false true
  | answered (pid : Int) (live owned : Bool) :
      Probed arguments (some pid) [⟨.processProbe pid arguments, .ok (live, owned)⟩] live
        (live && owned) true
  | unanswered (pid : Int) (e : WatchError) :
      Probed arguments (some pid) [⟨.processProbe pid arguments, .error e⟩] false false false

/-- A process that is found alive is the one that launchd names. -/
theorem Probed.alive {arguments : List String} {named : Option Int} {more : List (WatchEvent C)}
    {live owned resolved : Bool} (h : Probed arguments named more live owned resolved)
    (hlive : live = true) (howned : owned = true) :
    ∃ pid, named = some pid ∧ more = [⟨.processProbe pid arguments, .ok (true, true)⟩] := by
  cases h with
  | unnamed => exact nomatch hlive
  | answered pid live owned =>
    subst hlive
    rw [Bool.true_and] at howned
    subst howned
    exact ⟨pid, rfl, rfl⟩
  | unanswered pid e => exact nomatch hlive

theorem launchState_ok {label : String} {arguments : List String} {log : List (WatchEvent C)}
    {evidence : LaunchdRuntimeEvidence}
    (h : Transcript (launchState label arguments) log (.ok evidence)) :
    ∃ printed more live owned resolved, log = ⟨.launchctlPrint label, .ok printed⟩ :: more ∧
      Probed arguments printed.pidField more live owned resolved ∧
      evidence = printed.evidence live owned resolved := by
  replace h := transcript_invoke_bind.mp h
  obtain ⟨printed, more, rfl, h⟩ := h
  cases hpid : printed.pidField with
  | none =>
    rw [hpid] at h
    obtain ⟨rfl, he⟩ := transcript_pure.mp h
    exact ⟨printed, [], false, false, true, rfl, hpid ▸ .unnamed, Except.ok.inj he⟩
  | some pid =>
    rw [hpid] at h
    replace h := transcript_attempt_bind.mp h
    obtain ⟨a, rest, rfl, h⟩ := h
    cases a with
    | ok found =>
      obtain ⟨live, owned⟩ := found
      obtain ⟨rfl, he⟩ := transcript_pure.mp h
      exact ⟨printed, _, live, live && owned, true, rfl, hpid ▸ .answered pid live owned,
        Except.ok.inj he⟩
    | error e =>
      obtain ⟨rfl, he⟩ := transcript_pure.mp h
      exact ⟨printed, _, false, false, false, rfl, hpid ▸ .unanswered pid e, Except.ok.inj he⟩

/-- No process that launchd names is alive and the service's. -/
def NotLive (arguments : List String) (printed : LaunchctlPrint) (more : List (WatchEvent C)) :
    Prop :=
  ∃ live owned, Probed arguments printed.pidField more live owned true ∧
    (live && owned) = false

theorem inactive_notLive {arguments : List String} {printed : LaunchctlPrint}
    {more : List (WatchEvent C)} {live owned resolved : Bool}
    (hprobed : Probed arguments printed.pidField more live owned resolved)
    (h : printed.runtimeState live owned resolved = .inactive) :
    NotLive arguments printed more := by
  unfold LaunchctlPrint.runtimeState at h
  cases resolved with
  | false => exact nomatch h
  | true =>
    refine ⟨live, owned, hprobed, ?_⟩
    cases hboth : live && owned with
    | false => rfl
    | true =>
      exfalso
      obtain ⟨rfl, rfl⟩ := (Bool.and_eq_true _ _).mp hboth
      split_ifs at h

theorem timeless_ask {c : WatchCall C} (h : c.isClock = false) : Timeless (ask c) :=
  within_invoke h

theorem timeless_launchState (label : String) (arguments : List String) :
    Timeless (launchState (C := C) label arguments) := by
  refine (timeless_ask rfl).bind fun printed => ?_
  cases printed.pidField with
  | none => trivial
  | some pid =>
    refine (timeless_ask rfl).attempt.bind fun r => ?_
    cases r with
    | ok found => trivial
    | error e => trivial

theorem timeless_detail (entry : DcsWriterInventoryEntry C) (stage : String)
    (evidence : Option LaunchdRuntimeEvidence) (pids : Option (List Int)) :
    Timeless (transitionEvidenceDetail entry stage evidence pids) :=
  (timeless_ask rfl).bind fun _ => (timeless_ask rfl).bind fun _ => trivial

/-- An error with the evidence of a transition. -/
theorem timeless_fail {α : Type} (entry : DcsWriterInventoryEntry C) (stage : String)
    (evidence : Option LaunchdRuntimeEvidence) (pids : Option (List Int))
    (g : Detail → WatchError) :
    Timeless (transitionEvidenceDetail entry stage evidence pids >>= fun d => fail (g d) :
      Watch C α) :=
  (timeless_detail entry stage evidence pids).bind fun _ => trivial

/-- The assertions that are given have passed. -/
def Guarded (guards : Guards) (log : List (WatchEvent C)) : Prop :=
  log = (if guards.assertCurrent then [⟨.assertCurrent, .ok ()⟩] else []) ++
    (if guards.assertEventGuard then [⟨.assertEventGuard, .ok ()⟩] else [])

theorem timeless_guard (guards : Guards) : Timeless (guard (C := C) guards) := by
  refine Within.bind ?_ fun _ => ?_
  · cases guards.assertCurrent with
    | true => exact timeless_ask rfl
    | false => trivial
  · cases guards.assertEventGuard with
    | true => exact timeless_ask rfl
    | false => trivial

theorem guard_ok {guards : Guards} {log : List (WatchEvent C)}
    (h : Transcript (guard guards) log (.ok ())) : Guarded guards log := by
  unfold Guarded
  replace h := transcript_bind_ok.mp h
  obtain ⟨_, first, rest, rfl, hfirst, hrest⟩ := h
  congr 1
  · cases hcurrent : guards.assertCurrent with
    | true =>
      rw [hcurrent, if_pos rfl] at hfirst
      exact transcript_invoke.mp hfirst
    | false =>
      rw [hcurrent] at hfirst
      exact (transcript_pure.mp hfirst).1
  · cases hevent : guards.assertEventGuard with
    | true =>
      rw [hevent, if_pos rfl] at hrest
      exact transcript_invoke.mp hrest
    | false =>
      rw [hevent] at hrest
      exact (transcript_pure.mp hrest).1

/-! ## Stopped writers -/

/-- The writer is disabled and not loaded, and no live process is its service's. -/
def Stopped (guards : Guards) (target : DcsWriterInventoryEntry C × List String)
    (log : List (WatchEvent C)) : Prop :=
  ∃ before printed more, Guarded guards before ∧ printed.knownNotLoaded = true ∧
    NotLive target.2 printed more ∧
    log = before ++ [⟨.serviceDefinition target.1 "QUIESCENCE", .ok target.2⟩,
      ⟨.enabledState target.1.launchdLabel, .ok .disabled⟩,
      ⟨.launchctlPrint target.1.launchdLabel, .ok printed⟩] ++ more ++
      [⟨.processScan target.2, .ok []⟩]

theorem loadState_unloaded {p : LaunchctlPrint} (h : p.loadState = .unloaded) :
    p.knownNotLoaded = true := by
  unfold LaunchctlPrint.loadState at h
  split_ifs at h with hnot
  exact hnot

theorem observeNonrunning_stopped {guards : Guards} {entry : DcsWriterInventoryEntry C}
    {arguments : List String} {log : List (WatchEvent C)}
    (h : Transcript (observeNonrunning guards entry arguments) log (.ok none)) :
    Stopped guards (entry, arguments) log := by
  replace h := transcript_bind_ok.mp h
  obtain ⟨_, before, rest, rfl, hbefore, h⟩ := h
  replace h := transcript_invoke_bind.mp h
  obtain ⟨observed, rest, rfl, h⟩ := h
  by_cases hsame : observed = arguments
  · subst hsame
    rw [if_neg (not_not.mpr rfl)] at h
    replace h := transcript_invoke_bind.mp h
    obtain ⟨state, rest, rfl, h⟩ := h
    replace h := transcript_bind_ok.mp h
    obtain ⟨evidence, first, rest, rfl, hlaunch, h⟩ := h
    obtain ⟨printed, more, live, owned, resolved, rfl, hprobed, rfl⟩ := launchState_ok hlaunch
    by_cases henabled : state = .disabled
    · subst henabled
      rw [if_neg (not_not.mpr rfl)] at h
      cases hstate : printed.runtimeState live owned resolved with
      | inactive =>
        rw [show (printed.evidence live owned resolved).runtimeState = .inactive from hstate] at h
        simp only at h
        by_cases hload : printed.loadState = .unloaded
        · rw [if_pos (show (printed.evidence live owned resolved).loadState = .unloaded from hload)]
            at h
          replace h := transcript_attempt_bind.mp h
          obtain ⟨scanned, rest, rfl, h⟩ := h
          cases scanned with
          | error e => exact (not_transcript_fail h).elim
          | ok pids =>
            simp only at h
            by_cases hpids : pids = []
            · subst hpids
              rw [if_neg (not_not.mpr rfl)] at h
              obtain ⟨rfl, -⟩ := transcript_pure.mp h
              refine ⟨before, printed, more, guard_ok hbefore, loadState_unloaded hload,
                inactive_notLive hprobed hstate, ?_⟩
              simp
            · rw [if_pos hpids] at h
              exact (not_transcript_fail h).elim
        · rw [if_neg (show ¬ (printed.evidence live owned resolved).loadState = .unloaded from
            hload)] at h
          exact nomatch Except.ok.inj (transcript_pure.mp h).2
      | active =>
        rw [show (printed.evidence live owned resolved).runtimeState = .active from hstate] at h
        exact nomatch Except.ok.inj (transcript_pure.mp h).2
      | inconsistent =>
        rw [show (printed.evidence live owned resolved).runtimeState = .inconsistent from hstate]
          at h
        exact (not_transcript_fail h).elim
      | unresolved =>
        rw [show (printed.evidence live owned resolved).runtimeState = .unresolved from hstate]
          at h
        exact (not_transcript_fail h).elim
    · rw [if_pos henabled] at h
      exact nomatch Except.ok.inj (transcript_pure.mp h).2
  · rw [if_pos hsame] at h
    exact nomatch (transcript_fail.mp h).2

theorem timeless_observeNonrunning (guards : Guards) (entry : DcsWriterInventoryEntry C)
    (arguments : List String) : Timeless (observeNonrunning guards entry arguments) := by
  refine (timeless_guard guards).bind fun _ => (timeless_ask rfl).bind fun observed => ?_
  by_cases hsame : observed ≠ arguments
  · rw [if_pos hsame]
    trivial
  rw [if_neg hsame]
  refine (timeless_ask rfl).bind fun state => (timeless_launchState _ _).bind fun evidence => ?_
  by_cases hstate : state ≠ .disabled
  · rw [if_pos hstate]
    trivial
  rw [if_neg hstate]
  cases evidence.runtimeState with
  | active => trivial
  | inactive =>
    by_cases hload : evidence.loadState = .unloaded
    · simp only
      rw [if_pos hload]
      refine (timeless_ask rfl).attempt.bind fun scanned => ?_
      cases scanned with
      | error e => exact timeless_fail _ _ _ _ _
      | ok pids =>
        by_cases hpids : pids ≠ []
        · simp only
          rw [if_pos hpids]
          exact timeless_fail _ _ _ _ _
        · simp only
          rw [if_neg hpids]
          trivial
    · simp only
      rw [if_neg hload]
      trivial
  | inconsistent => exact timeless_fail _ _ _ _ _
  | unresolved => exact timeless_fail _ _ _ _ _

theorem timeless_nonrunningCycle (guards : Guards)
    (transitions : List (DcsWriterInventoryEntry C × List String)) :
    ∀ unstable, Timeless (nonrunningCycle guards transitions unstable) := by
  induction transitions with
  | nil => exact fun _ => trivial
  | cons target rest ih =>
    intro unstable
    refine (timeless_observeNonrunning guards target.1 target.2).bind fun found => ?_
    cases found with
    | none => exact ih unstable
    | some evidence => exact ih _

/-- A cycle in which no writer was found unstable has found all of them stopped. -/
theorem nonrunningCycle_stopped {guards : Guards}
    {transitions : List (DcsWriterInventoryEntry C × List String)} :
    ∀ {unstable log}, Transcript (nonrunningCycle guards transitions unstable) log (.ok none) →
      unstable = none ∧ InTurn (Stopped guards) transitions log := by
  induction transitions with
  | nil =>
    intro unstable log h
    obtain ⟨rfl, hpure⟩ := transcript_pure.mp h
    exact ⟨(Except.ok.inj hpure).symm, .nil⟩
  | cons target transitions ih =>
    intro unstable log h
    replace h := transcript_bind_ok.mp h
    obtain ⟨found, first, rest, rfl, hfirst, h⟩ := h
    cases found with
    | none =>
      obtain ⟨hunstable, hrest⟩ := ih h
      exact ⟨hunstable, .cons (observeNonrunning_stopped hfirst) hrest⟩
    | some evidence => exact nomatch (ih h).1

/-- What a cycle of the poll finds stable. -/
theorem nonrunningPoll_stopped {transitions : List (DcsWriterInventoryEntry C × List String)}
    {deadline : Int} {guards : Guards}
    {s s' : Option (DcsWriterInventoryEntry C × LaunchdRuntimeEvidence)}
    {block : List (WatchEvent C)}
    (h : Transcript ((nonrunningPoll transitions deadline guards).cycle s) block
      (.ok (some (), s'))) : InTurn (Stopped guards) transitions block := by
  replace h := transcript_bind_ok.mp h
  obtain ⟨unstable, first, rest, rfl, hfirst, h⟩ := h
  obtain ⟨rfl, hpure⟩ := transcript_pure.mp h
  cases unstable with
  | none =>
    rw [List.append_nil]
    exact (nonrunningCycle_stopped hfirst).2
  | some found => exact nomatch congrArg Prod.fst (Except.ok.inj hpure)

/-- The wait ends as a poll does; when it returns, every writer was found stopped in as many cycles
as are required, one after the other. -/
theorem waitForStableNonrunning_ends {fuel : Nat}
    {transitions : List (DcsWriterInventoryEntry C × List String)} {deadline : Int}
    {guards : Guards} {log : List (WatchEvent C)} {r : Except WatchError (Option Unit)}
    (h : Transcript (waitForStableNonrunning fuel transitions deadline guards) log r) :
    (nonrunningPoll transitions deadline guards).Ends fuel none log r ∧
      (r = .ok (some ()) → Poll.Tail (InTurn (Stopped guards) transitions) (Waited deadline)
        quiescenceStableObservations log) := by
  have hends := Poll.run_ends h
  refine ⟨hends, ?_⟩
  rintro rfl
  exact hends.tail (show 1 ≤ 2 by decide) (fun _ _ _ => nonrunningPoll_stopped)
    fun _ _ _ => waited

/-! ## Scheduled writers -/

/-- The writer is enabled, loaded and idle, and no live process is its service's. -/
def Scheduled (guards : Guards) (entry : DcsWriterInventoryEntry C) (log : List (WatchEvent C)) :
    Prop :=
  ∃ before arguments printed more, Guarded guards before ∧ printed.returncode = 0 ∧
    (printed.declaredState = some "inactive" ∨ printed.declaredState = some "not running") ∧
    NotLive arguments printed more ∧
    log = before ++ [⟨.serviceDefinition entry "RECOVERY", .ok arguments⟩,
      ⟨.enabledState entry.launchdLabel, .ok .enabled⟩,
      ⟨.launchctlPrint entry.launchdLabel, .ok printed⟩] ++ more ++
      [⟨.processScan arguments, .ok []⟩]

theorem loadState_loaded {p : LaunchctlPrint} (h : p.loadState = .loaded) : p.returncode = 0 := by
  unfold LaunchctlPrint.loadState at h
  split_ifs at h with _ hzero
  exact hzero

theorem inactive_declared {p : LaunchctlPrint} {live owned resolved : Bool}
    (hzero : p.returncode = 0) (h : p.runtimeState live owned resolved = .inactive) :
    p.declaredState = some "inactive" ∨ p.declaredState = some "not running" := by
  unfold LaunchctlPrint.runtimeState at h
  split_ifs at h with _ hnot
  · exact absurd hzero hnot
  · assumption

theorem observeBaseline_scheduled {guards : Guards} {entry : DcsWriterInventoryEntry C}
    {log : List (WatchEvent C)} (h : Transcript (observeBaseline guards entry) log (.ok true)) :
    Scheduled guards entry log := by
  replace h := transcript_bind_ok.mp h
  obtain ⟨_, before, rest, rfl, hbefore, h⟩ := h
  replace h := transcript_invoke_bind.mp h
  obtain ⟨arguments, rest, rfl, h⟩ := h
  replace h := transcript_invoke_bind.mp h
  obtain ⟨state, rest, rfl, h⟩ := h
  replace h := transcript_bind_ok.mp h
  obtain ⟨evidence, first, rest, rfl, hlaunch, h⟩ := h
  obtain ⟨printed, more, live, owned, resolved, rfl, hprobed, rfl⟩ := launchState_ok hlaunch
  replace h := transcript_attempt_bind.mp h
  obtain ⟨scanned, rest, rfl, h⟩ := h
  cases scanned with
  | error e => exact nomatch (transcript_fail.mp h).2
  | ok pids =>
    obtain ⟨rfl, hpure⟩ := transcript_pure.mp h
    obtain ⟨rfl, hstate, hload, rfl⟩ := of_decide_eq_true (Except.ok.inj hpure).symm
    have hzero := loadState_loaded hload
    refine ⟨before, arguments, printed, more, guard_ok hbefore, hzero,
      inactive_declared hzero hstate, inactive_notLive hprobed hstate, ?_⟩
    simp

theorem timeless_observeBaseline (guards : Guards) (entry : DcsWriterInventoryEntry C) :
    Timeless (observeBaseline guards entry) := by
  refine (timeless_guard guards).bind fun _ => (timeless_ask rfl).bind fun arguments =>
    (timeless_ask rfl).bind fun state => (timeless_launchState _ _).bind fun evidence =>
      (timeless_ask rfl).attempt.bind fun scanned => ?_
  cases scanned with
  | error e => trivial
  | ok pids => trivial

theorem timeless_baselineCycle (guards : Guards) (targets : List (DcsWriterInventoryEntry C)) :
    ∀ cycle, Timeless (baselineCycle guards targets cycle) := by
  induction targets with
  | nil => exact fun _ => trivial
  | cons entry rest ih =>
    exact fun cycle => (timeless_observeBaseline guards entry).bind fun found => ih _

theorem baselineCycle_scheduled {guards : Guards} {targets : List (DcsWriterInventoryEntry C)} :
    ∀ {cycle log}, Transcript (baselineCycle guards targets cycle) log (.ok true) →
      cycle = true ∧ InTurn (Scheduled guards) targets log := by
  induction targets with
  | nil =>
    intro cycle log h
    obtain ⟨rfl, hpure⟩ := transcript_pure.mp h
    exact ⟨(Except.ok.inj hpure).symm, .nil⟩
  | cons entry targets ih =>
    intro cycle log h
    replace h := transcript_bind_ok.mp h
    obtain ⟨found, first, rest, rfl, hfirst, h⟩ := h
    obtain ⟨hboth, hrest⟩ := ih h
    obtain ⟨hcycle, rfl⟩ := (Bool.and_eq_true _ _).mp hboth
    exact ⟨hcycle, .cons (observeBaseline_scheduled hfirst) hrest⟩

theorem baselinePoll_scheduled {targets : List (DcsWriterInventoryEntry C)} {deadline : Int}
    {guards : Guards} {s s' : Unit} {block : List (WatchEvent C)}
    (h : Transcript ((baselinePoll targets deadline guards).cycle s) block (.ok (some (), s'))) :
    InTurn (Scheduled guards) targets block := by
  replace h := transcript_bind_ok.mp h
  obtain ⟨cycle, first, rest, rfl, hfirst, h⟩ := h
  obtain ⟨rfl, hpure⟩ := transcript_pure.mp h
  cases cycle with
  | true =>
    rw [List.append_nil]
    exact (baselineCycle_scheduled hfirst).2
  | false => exact nomatch congrArg Prod.fst (Except.ok.inj hpure)

theorem waitForScheduledBaseline_ends {fuel : Nat} {entries : List (DcsWriterInventoryEntry C)}
    {deadline : Int} {guards : Guards} {log : List (WatchEvent C)}
    {r : Except WatchError (Option Unit)}
    (h : Transcript (waitForScheduledBaseline fuel entries deadline guards) log r) :
    (baselinePoll (sortedEntries entries) deadline guards).Ends fuel () log r ∧
      (r = .ok (some ()) → Poll.Tail (InTurn (Scheduled guards) (sortedEntries entries))
        (Waited deadline) quiescenceStableObservations log) := by
  have hends := Poll.run_ends h
  refine ⟨hends, ?_⟩
  rintro rfl
  exact hends.tail (show 1 ≤ 2 by decide) (fun _ _ _ => baselinePoll_scheduled)
    fun _ _ _ => waited

/-! ## Resumed writers -/

theorem failResume_raises {α : Type} {code stage : String} {entry : DcsWriterInventoryEntry C}
    {evidence : Option LaunchdRuntimeEvidence} {pids : Option (List Int)}
    {log : List (WatchEvent C)} {a : α} :
    ¬ Transcript (failResume code entry stage evidence pids) log (.ok a) := not_transcript_fail

/-! ### Probes -/

/-- A process other than the one that launchd has just named is never found alive. -/
def justified (before : Option (WatchEvent C)) : WatchEvent C → Prop
  | ⟨.processProbe pid _, .ok (true, _)⟩ => ∃ label printed,
      before = some ⟨.launchctlPrint label, .ok printed⟩ ∧ printed.pidField = some pid
  | _ => True

def Attributed : Option (WatchEvent C) → List (WatchEvent C) → Prop
  | _, [] => True
  | before, e :: rest => justified before e ∧ Attributed (some e) rest

theorem Attributed.append {x y : List (WatchEvent C)} (hy : Attributed none y) :
    ∀ {before}, Attributed before x → Attributed before (x ++ y) := by
  induction x with
  | nil =>
    intro before _
    cases y with
    | nil => trivial
    | cons e rest =>
      refine ⟨?_, hy.2⟩
      obtain ⟨c, a⟩ := e
      have hfirst := hy.1
      unfold justified at hfirst ⊢
      split at hfirst
      · obtain ⟨label, printed, hnone, -⟩ := hfirst
        exact nomatch hnone
      · trivial
  | cons e rest ih => exact fun h => ⟨h.1, ih h.2⟩

/-! ### Definitions -/

/-- The arguments of every target's service are those its definition has. -/
structure Defined (targets : List (DcsWriterInventoryEntry C)) (definitions : String → List String)
    (log : List (WatchEvent C)) : Prop where
  only : ∀ e ∈ log, ∃ entry ∈ targets, ∃ arguments,
    e = ⟨.serviceDefinition entry "QUIESCENCE", .ok arguments⟩
  each : ∀ entry ∈ targets, ∃ twin ∈ targets, twin.writerId = entry.writerId ∧
    ⟨.serviceDefinition twin "QUIESCENCE", .ok (definitions entry.writerId)⟩ ∈ log

/-- The last definition that was read for a writer stays. -/
theorem resolveDefinitions_ok {targets : List (DcsWriterInventoryEntry C)} :
    ∀ {definitions definitions' : String → List String} {log : List (WatchEvent C)},
      Transcript (resolveDefinitions targets definitions) log (.ok definitions') →
      Defined targets definitions' log ∧ ∀ writerId,
      (∀ entry ∈ targets, entry.writerId ≠ writerId) →
        definitions' writerId = definitions writerId := by
  induction targets with
  | nil =>
    intro definitions definitions' log h
    obtain ⟨rfl, hpure⟩ := transcript_pure.mp h
    cases hpure
    exact ⟨⟨fun _ he => (nomatch he), fun _ he => (nomatch he)⟩, fun _ _ => rfl⟩
  | cons entry targets ih =>
    intro definitions definitions' log h
    replace h := transcript_attempt_bind.mp h
    obtain ⟨a, rest, rfl, h⟩ := h
    cases a with
    | error e =>
      simp only at h
      split_ifs at h
      · exact (failResume_raises h).elim
      · exact nomatch (transcript_fail.mp h).2
    | ok arguments =>
      obtain ⟨hdefined, hkept⟩ := ih h
      refine ⟨⟨fun e he => ?_, fun target ht => ?_⟩, fun writerId hnone => ?_⟩
      · rcases List.mem_cons.mp he with rfl | he
        · exact ⟨entry, List.mem_cons_self, arguments, rfl⟩
        · obtain ⟨target, ht, hanswer⟩ := hdefined.only e he
          exact ⟨target, List.mem_cons_of_mem _ ht, hanswer⟩
      · -- a later entry with the same writer has been read instead
        by_cases hlater : ∃ twin ∈ targets, twin.writerId = target.writerId
        · obtain ⟨twin, htwin, hsame⟩ := hlater
          obtain ⟨twin', htwin', hsame', hread⟩ := hdefined.each twin htwin
          exact ⟨twin', List.mem_cons_of_mem _ htwin', hsame'.trans hsame,
            List.mem_cons_of_mem _ (hsame ▸ hread)⟩
        · have hnot : ∀ twin ∈ targets, twin.writerId ≠ target.writerId :=
            fun twin htwin hsame => hlater ⟨twin, htwin, hsame⟩
          rcases List.mem_cons.mp ht with rfl | ht
          · refine ⟨target, List.mem_cons_self, rfl, ?_⟩
            rw [hkept _ hnot, Function.update_self]
            exact List.mem_cons_self
          · exact absurd rfl (hnot target ht)
      · rw [hkept _ fun target ht => hnone target (List.mem_cons_of_mem _ ht),
          Function.update_of_ne (hnone entry List.mem_cons_self).symm]

theorem Defined.attributed {targets : List (DcsWriterInventoryEntry C)}
    {definitions : String → List String} {log : List (WatchEvent C)}
    (h : Defined targets definitions log) : ∀ before, Attributed before log := by
  have honly := h.only
  clear h
  induction log with
  | nil => exact fun _ => trivial
  | cons e rest ih =>
    intro before
    obtain ⟨entry, -, arguments, rfl⟩ := honly e List.mem_cons_self
    exact ⟨trivial, ih (fun e he => honly e (List.mem_cons_of_mem _ he)) _⟩

theorem sortedEntries_isEmpty {entries : List (DcsWriterInventoryEntry C)} :
    (sortedEntries entries).isEmpty = true ↔ entries = [] := by
  rw [List.isEmpty_iff, ← List.length_eq_zero_iff, ← List.length_eq_zero_iff, sortedEntries,
    List.length_insertionSort]

/-! ### Looks -/

section Resume

variable [DecidableEq C] {parseClientIdentity : Option Json → C} {supportsV8 : C → Bool}

/-- Both identity files of a writer are plain files, and are read. -/
def identitiesRead (entry : DcsWriterInventoryEntry C) (runtime authorized : Json) :
    List (WatchEvent C) :=
  [⟨.pathExists entry.runtimeIdentityPath, .ok true⟩,
    ⟨.requirePlainFile entry.runtimeIdentityPath
      "PRODUCTION_DCS_WRITER_RUNTIME_IDENTITY_INVALID", .ok ()⟩,
    ⟨.safeJson entry.runtimeIdentityPath, .ok runtime⟩,
    ⟨.requirePlainFile entry.authorizedIdentityPath
      "PRODUCTION_DCS_WRITER_AUTHORIZED_IDENTITY_INVALID", .ok ()⟩,
    ⟨.safeJson entry.authorizedIdentityPath, .ok authorized⟩]

variable (parseClientIdentity supportsV8) in
/-- What the identity files show beside the process `launchPid`: there is none yet, it still names
an earlier process that a probe finds dead, or it names this one. -/
inductive Identified (entry : DcsWriterInventoryEntry C) (arguments : List String)
    (prior : List Int) (launchPid : Int) : List (WatchEvent C) → Option (Int × String) → Prop
  | unpublished : Identified entry arguments prior launchPid
      [⟨.pathExists entry.runtimeIdentityPath, .ok false⟩] none
  | earlier {runtime authorized : Json} {pid : Int} {owned : Bool}
      (authority : authorizedRuntimeMatch runtime authorized = true)
      (names : pidOf runtime = some pid) (other : pid ≠ launchPid) (known : pid ∈ prior) :
      Identified entry arguments prior launchPid (identitiesRead entry runtime authorized ++
        [⟨.processProbe pid arguments, .ok (false, owned)⟩]) none
  | published {runtime authorized : Json} {incarnation : String}
      (authority : authorizedRuntimeMatch runtime authorized = true)
      (build : buildMatch parseClientIdentity supportsV8 entry runtime = true)
      (names : pidOf runtime = some launchPid) (has : incarnationOf runtime = some incarnation) :
      Identified entry arguments prior launchPid (identitiesRead entry runtime authorized)
        (some (launchPid, incarnation))

variable (parseClientIdentity supportsV8) in
/-- What one look at a resumed writer shows when it raises nothing: the writer is idle, or launchd
has started a process, which lives, is the service's and is the only one. -/
inductive Observed (entry : DcsWriterInventoryEntry C) (arguments : List String)
    (prior : List Int) : List (WatchEvent C) → Option (Int × String) → Prop
  | idle {printed : LaunchctlPrint} {more : List (WatchEvent C)} {live owned resolved : Bool}
      (probed : Probed arguments printed.pidField more live owned resolved) :
      Observed entry arguments prior (⟨.launchctlPrint entry.launchdLabel, .ok printed⟩ :: more)
        none
  | started {printed : LaunchctlPrint} {pid : Int} {pids : List Int} {log : List (WatchEvent C)}
      {identity : Option (Int × String)} (loaded : printed.returncode = 0)
      (running : printed.declaredState = some "running") (names : printed.pidField = some pid)
      (only : ∀ p, p ∈ pids ↔ p = pid)
      (identified : Identified parseClientIdentity supportsV8 entry arguments prior pid log
        identity) :
      Observed entry arguments prior (⟨.launchctlPrint entry.launchdLabel, .ok printed⟩ ::
        ⟨.processProbe pid arguments, .ok (true, true)⟩ :: ⟨.processScan arguments, .ok pids⟩ ::
          log) identity

theorem observeIdentity_ok {entry : DcsWriterInventoryEntry C} {arguments : List String}
    {prior : List Int} {evidence : LaunchdRuntimeEvidence} {launchPid : Int} {pids : List Int}
    {log : List (WatchEvent C)} {look : Look}
    (h : Transcript (observeIdentity parseClientIdentity supportsV8 entry arguments prior evidence
      launchPid pids) log (.ok look)) :
    Identified parseClientIdentity supportsV8 entry arguments prior launchPid log look.1 := by
  replace h := transcript_invoke_bind.mp h
  obtain ⟨found, rest, rfl, h⟩ := h
  cases found with
  | false =>
    obtain ⟨rfl, hpure⟩ := transcript_pure.mp h
    cases hpure
    exact .unpublished
  | true =>
    replace h := transcript_invoke_bind.mp h
    obtain ⟨_, rest, rfl, h⟩ := h
    replace h := transcript_invoke_bind.mp h
    obtain ⟨runtime, rest, rfl, h⟩ := h
    replace h := transcript_invoke_bind.mp h
    obtain ⟨_, rest, rfl, h⟩ := h
    replace h := transcript_invoke_bind.mp h
    obtain ⟨authorized, rest, rfl, h⟩ := h
    cases hauthority : authorizedRuntimeMatch runtime authorized with
    | false =>
      rw [if_pos (by rw [hauthority]; rfl)] at h
      exact (failResume_raises h).elim
    | true =>
      rw [if_neg (by rw [hauthority]; exact Bool.false_ne_true)] at h
      cases hbuild : buildMatch parseClientIdentity supportsV8 entry runtime with
      | false =>
        rw [if_pos (by rw [hbuild]; rfl)] at h
        exact (failResume_raises h).elim
      | true =>
        rw [if_neg (by rw [hbuild]; exact Bool.false_ne_true)] at h
        cases hpid : pidOf runtime with
        | none =>
          rw [hpid] at h
          exact (failResume_raises h).elim
        | some runtimePid =>
          rw [hpid] at h
          simp only at h
          by_cases hother : runtimePid ≠ launchPid
          · rw [if_pos hother] at h
            by_cases hknown : runtimePid ∉ prior
            · rw [if_pos hknown] at h
              exact (failResume_raises h).elim
            · rw [if_neg hknown] at h
              replace h := transcript_attempt_bind.mp h
              obtain ⟨probed, rest, rfl, h⟩ := h
              cases probed with
              | error e => exact (failResume_raises h).elim
              | ok answer =>
                obtain ⟨live, owned⟩ := answer
                cases live with
                | true => exact (failResume_raises h).elim
                | false =>
                  obtain ⟨rfl, hpure⟩ := transcript_pure.mp h
                  cases hpure
                  exact .earlier hauthority hpid hother (not_not.mp hknown)
          · rw [if_neg hother] at h
            obtain rfl := not_not.mp hother
            cases hincarnation : incarnationOf runtime with
            | none =>
              rw [hincarnation] at h
              exact (failResume_raises h).elim
            | some incarnation =>
              rw [hincarnation] at h
              obtain ⟨rfl, hpure⟩ := transcript_pure.mp h
              cases hpure
              exact .published hauthority hbuild hpid hincarnation

theorem mem_liveSet {pids : List Int} {p : Int} : p ∈ liveSet pids ↔ p ∈ pids := by
  unfold liveSet
  rw [(List.perm_insertionSort _ _).mem_iff, List.mem_dedup]

/-- An active service is loaded, is said to run, and its process lives and is its own. -/
theorem active_facts {p : LaunchctlPrint} {live owned resolved : Bool}
    (h : p.runtimeState live owned resolved = .active) :
    p.returncode = 0 ∧ p.declaredState = some "running" ∧ live = true ∧ owned = true := by
  unfold LaunchctlPrint.runtimeState at h
  split_ifs at h with _ hcode _ _ hrunning hactive
  · obtain ⟨hsome, howned⟩ := (Bool.and_eq_true _ _).mp hactive
    obtain ⟨-, hlive⟩ := (Bool.and_eq_true _ _).mp hsome
    exact ⟨not_not.mp hcode, hrunning, hlive, howned⟩

theorem observeActiveResumeEntry_ok {entry : DcsWriterInventoryEntry C} {arguments : List String}
    {prior : List Int} {log : List (WatchEvent C)} {look : Look}
    (h : Transcript (observeActiveResumeEntry parseClientIdentity supportsV8 entry arguments prior)
      log (.ok look)) :
    Observed parseClientIdentity supportsV8 entry arguments prior log look.1 := by
  replace h := transcript_bind_ok.mp h
  obtain ⟨evidence, first, rest, rfl, hlaunch, h⟩ := h
  obtain ⟨printed, more, live, owned, resolved, rfl, hprobed, rfl⟩ := launchState_ok hlaunch
  by_cases hload : (printed.evidence live owned resolved).loadState ≠ .loaded
  · rw [if_pos hload] at h
    exact (failResume_raises h).elim
  rw [if_neg hload] at h
  cases hstate : printed.runtimeState live owned resolved with
  | inactive =>
    rw [show (printed.evidence live owned resolved).runtimeState = .inactive from hstate] at h
    simp only at h
    split_ifs at h
    · exact (failResume_raises h).elim
    · obtain ⟨rfl, hpure⟩ := transcript_pure.mp h
      cases hpure
      rw [List.append_nil]
      exact .idle hprobed
  | inconsistent =>
    rw [show (printed.evidence live owned resolved).runtimeState = .inconsistent from hstate] at h
    exact (failResume_raises h).elim
  | unresolved =>
    rw [show (printed.evidence live owned resolved).runtimeState = .unresolved from hstate] at h
    exact (failResume_raises h).elim
  | active =>
    rw [show (printed.evidence live owned resolved).runtimeState = .active from hstate] at h
    obtain ⟨hzero, hrunning, rfl, rfl⟩ := active_facts hstate
    simp only at h
    cases hpid : printed.pidField with
    | none =>
      rw [show (printed.evidence true true resolved).pidField = none from hpid] at h
      exact (failResume_raises h).elim
    | some pid =>
      rw [show (printed.evidence true true resolved).pidField = some pid from hpid] at h
      simp only at h
      split_ifs at h with hunsafe
      · exact (failResume_raises h).elim
      · obtain ⟨pid', hpid', rfl⟩ := hprobed.alive rfl rfl
        rw [hpid] at hpid'
        obtain rfl := Option.some.inj hpid'
        replace h := transcript_attempt_bind.mp h
        obtain ⟨scanned, rest, rfl, h⟩ := h
        cases scanned with
        | error e => exact (failResume_raises h).elim
        | ok pids =>
          simp only at h
          split_ifs at h with honly
          · exact (failResume_raises h).elim
          · have hset : liveSet pids = [pid] := not_not.mp honly
            refine .started hzero hrunning hpid (fun p => ?_) (observeIdentity_ok h)
            rw [← mem_liveSet, hset, List.mem_singleton]

/-- The writer's service runs one process, which is `pid`, and the identity file that matches the
authorised one names it, with this incarnation. -/
def Running (parseClientIdentity : Option Json → C) (supportsV8 : C → Bool)
    (definitions : String → List String) :
    DcsWriterInventoryEntry C × Resumed → List (WatchEvent C) → Prop
  | (entry, writerId, pid, incarnation), log =>
    writerId = entry.writerId ∧ ∃ printed pids runtime authorized,
      printed.returncode = 0 ∧ printed.declaredState = some "running" ∧
      printed.pidField = some pid ∧ (∀ p, p ∈ pids ↔ p = pid) ∧
      authorizedRuntimeMatch runtime authorized = true ∧
      buildMatch parseClientIdentity supportsV8 entry runtime = true ∧
      pidOf runtime = some pid ∧ incarnationOf runtime = some incarnation ∧
      log = ⟨.launchctlPrint entry.launchdLabel, .ok printed⟩ ::
        ⟨.processProbe pid (definitions entry.writerId), .ok (true, true)⟩ ::
        ⟨.processScan (definitions entry.writerId), .ok pids⟩ ::
        identitiesRead entry runtime authorized

theorem Observed.running {entry : DcsWriterInventoryEntry C} {definitions : String → List String}
    {prior : List Int} {log : List (WatchEvent C)} {pid : Int} {incarnation : String}
    (h : Observed parseClientIdentity supportsV8 entry (definitions entry.writerId) prior log
      (some (pid, incarnation))) :
    Running parseClientIdentity supportsV8 definitions (entry, entry.writerId, pid, incarnation)
      log := by
  cases h with
  | started loaded running names only identified =>
    cases identified with
    | published authority build namesToo has =>
      exact ⟨rfl, _, _, _, _, loaded, running, names, only, authority, build, namesToo, has, rfl⟩

theorem Identified.attributed {entry : DcsWriterInventoryEntry C} {arguments : List String}
    {prior : List Int} {launchPid : Int} {log : List (WatchEvent C)}
    {identity : Option (Int × String)}
    (h : Identified parseClientIdentity supportsV8 entry arguments prior launchPid log identity) :
    ∀ before, Attributed before log := by
  intro before
  cases h with
  | unpublished => exact ⟨trivial, trivial⟩
  | earlier => exact ⟨trivial, trivial, trivial, trivial, trivial, trivial, trivial⟩
  | published => exact ⟨trivial, trivial, trivial, trivial, trivial, trivial⟩

theorem Observed.attributed {entry : DcsWriterInventoryEntry C} {arguments : List String}
    {prior : List Int} {log : List (WatchEvent C)} {identity : Option (Int × String)}
    (h : Observed parseClientIdentity supportsV8 entry arguments prior log identity) :
    Attributed none log := by
  cases h with
  | @idle printed more live owned resolved probed =>
    refine ⟨trivial, ?_⟩
    generalize hnamed : printed.pidField = named at probed
    cases probed with
    | unnamed => trivial
    | answered pid live owned =>
      refine ⟨?_, trivial⟩
      cases live with
      | true => exact ⟨entry.launchdLabel, printed, rfl, hnamed⟩
      | false => trivial
    | unanswered pid e => exact ⟨trivial, trivial⟩
  | @started printed pid pids log identity loaded running names only identified =>
    exact ⟨trivial, ⟨entry.launchdLabel, printed, rfl, names⟩, trivial, identified.attributed _⟩

/-! ### Cycles -/

theorem resumeCycle_attributed {definitions : String → List String}
    {targets : List (DcsWriterInventoryEntry C)} :
    ∀ {s : ResumeState C} {stable : Bool} {current : List Resumed} {log : List (WatchEvent C)}
      {out : Bool × List Resumed × ResumeState C},
      Transcript (resumeCycle parseClientIdentity supportsV8 definitions targets s stable current)
        log (.ok out) → Attributed none log := by
  induction targets with
  | nil =>
    intro s stable current log out h
    rw [(transcript_pure.mp h).1]
    trivial
  | cons entry targets ih =>
    intro s stable current log out h
    replace h := transcript_bind_ok.mp h
    obtain ⟨⟨identity, evidence, pids⟩, first, rest, rfl, hfirst, h⟩ := h
    refine Attributed.append ?_ (observeActiveResumeEntry_ok hfirst).attributed
    cases identity with
    | none => exact ih h
    | some found => exact ih h

/-- A cycle that stays stable has found every writer running. -/
theorem resumeCycle_running {definitions : String → List String}
    {targets : List (DcsWriterInventoryEntry C)} :
    ∀ {s s' : ResumeState C} {stable : Bool} {current current' : List Resumed}
      {log : List (WatchEvent C)},
      Transcript (resumeCycle parseClientIdentity supportsV8 definitions targets s stable current)
        log (.ok (true, current', s')) →
      stable = true ∧ ∃ found, current' = current ++ found ∧ found.length = targets.length ∧
        InTurn (Running parseClientIdentity supportsV8 definitions) (targets.zip found) log := by
  induction targets with
  | nil =>
    intro s s' stable current current' log h
    obtain ⟨rfl, hpure⟩ := transcript_pure.mp h
    cases hpure
    exact ⟨rfl, [], (List.append_nil _).symm, rfl, .nil⟩
  | cons entry targets ih =>
    intro s s' stable current current' log h
    replace h := transcript_bind_ok.mp h
    obtain ⟨⟨identity, evidence, pids⟩, first, rest, rfl, hfirst, h⟩ := h
    cases identity with
    | none => exact nomatch (ih h).1
    | some identity =>
      obtain ⟨pid, incarnation⟩ := identity
      obtain ⟨hstable, found, rfl, hlength, hrest⟩ := ih h
      refine ⟨hstable, (entry.writerId, pid, incarnation) :: found, ?_, ?_, ?_⟩
      · rw [List.append_assoc]
        rfl
      · rw [List.length_cons, List.length_cons, hlength]
      · exact .cons (observeActiveResumeEntry_ok hfirst).running hrest

/-- Every target was found running, and these are their processes. -/
def AllRunning (parseClientIdentity : Option Json → C) (supportsV8 : C → Bool)
    (definitions : String → List String) (targets : List (DcsWriterInventoryEntry C))
    (current : List Resumed) (block : List (WatchEvent C)) : Prop :=
  current.length = targets.length ∧
    InTurn (Running parseClientIdentity supportsV8 definitions) (targets.zip current) block

theorem resumePoll_running {targets : List (DcsWriterInventoryEntry C)}
    {definitions : String → List String} {deadline : Int} {s s' : ResumeState C}
    {current : List Resumed} {block : List (WatchEvent C)}
    (h : Transcript ((resumePoll parseClientIdentity supportsV8 targets definitions deadline).cycle
      s) block (.ok (some current, s'))) :
    AllRunning parseClientIdentity supportsV8 definitions targets current block := by
  replace h := transcript_bind_ok.mp h
  obtain ⟨⟨stable, found, s''⟩, first, rest, rfl, hfirst, h⟩ := h
  obtain ⟨rfl, hpure⟩ := transcript_pure.mp h
  rw [List.append_nil]
  have hseen : (if stable ∧ found.length = targets.length then some found else none) =
      some current := (congrArg Prod.fst (Except.ok.inj hpure)).symm
  split_ifs at hseen with hstable
  obtain rfl := Option.some.inj hseen
  obtain ⟨rfl, hlength⟩ := hstable
  obtain ⟨-, found', hfound, -, hturn⟩ := resumeCycle_running hfirst
  rw [List.nil_append] at hfound
  exact ⟨hlength, hfound ▸ hturn⟩

theorem resumePoll_attributed {targets : List (DcsWriterInventoryEntry C)}
    {definitions : String → List String} {deadline : Int} {s s' : ResumeState C}
    {seen : Option (List Resumed)} {block : List (WatchEvent C)}
    (h : Transcript ((resumePoll parseClientIdentity supportsV8 targets definitions deadline).cycle
      s) block (.ok (seen, s'))) : Attributed none block := by
  replace h := transcript_bind_ok.mp h
  obtain ⟨out, first, rest, rfl, hfirst, h⟩ := h
  obtain ⟨rfl, -⟩ := transcript_pure.mp h
  rw [List.append_nil]
  exact resumeCycle_attributed hfirst

theorem resumeRounds_attributed {targets : List (DcsWriterInventoryEntry C)}
    {definitions : String → List String} {deadline : Int} {s s' : ResumeState C}
    {seen : List (Option (List Resumed))} {log : List (WatchEvent C)}
    (h : (resumePoll parseClientIdentity supportsV8 targets definitions deadline).Rounds s seen log
      s') : Attributed none log := by
  induction h with
  | start => trivial
  | round before cycle read early pause ih =>
    refine Attributed.append ?_ ih
    rw [List.append_assoc, transcript_invoke.mp read, transcript_invoke.mp pause]
    refine Attributed.append ?_ (resumePoll_attributed cycle)
    exact ⟨trivial, trivial, trivial⟩

/-! ### The wait -/

variable (parseClientIdentity supportsV8) in
/-- How the wait for the resumed writers ends. -/
inductive ResumeEnds (fuel : Nat) (entries : List (DcsWriterInventoryEntry C)) (deadline : Int) :
    List (WatchEvent C) → Except WatchError (Option (List Resumed)) → Prop
  | noWriters (none : entries = []) : ResumeEnds fuel entries deadline [] (.ok (some []))
  | undefined {log : List (WatchEvent C)} {e : WatchError}
      (raises : Transcript (resolveDefinitions (sortedEntries entries) fun _ => []) log
        (.error e)) : ResumeEnds fuel entries deadline log (.error e)
  | polled {definitions : String → List String} {read log : List (WatchEvent C)}
      {r : Except WatchError (Option (List Resumed))}
      (defined : Defined (sortedEntries entries) definitions read)
      (ends : (resumePoll parseClientIdentity supportsV8 (sortedEntries entries) definitions
        deadline).Ends fuel { prior := priorProcessPids (sortedEntries entries) } log r) :
      ResumeEnds fuel entries deadline (read ++ log) r

theorem waitForStableActiveResume_ends {fuel : Nat} {entries : List (DcsWriterInventoryEntry C)}
    {deadline : Int} {log : List (WatchEvent C)} {r : Except WatchError (Option (List Resumed))}
    (h : Transcript (waitForStableActiveResume parseClientIdentity supportsV8 fuel entries deadline)
      log r) : ResumeEnds parseClientIdentity supportsV8 fuel entries deadline log r := by
  unfold waitForStableActiveResume at h
  by_cases hnone : (sortedEntries entries).isEmpty = true
  · rw [if_pos hnone] at h
    obtain ⟨rfl, rfl⟩ := transcript_pure.mp h
    exact .noWriters (sortedEntries_isEmpty.mp hnone)
  · rw [if_neg hnone] at h
    rcases transcript_bind.mp h with ⟨e, he, rfl⟩ | ⟨definitions, read, rest, rfl, hread, h⟩
    · exact .undefined he
    · exact .polled (resolveDefinitions_ok hread).1 (Poll.run_ends h)

/-- A poll that returns has found every writer running in as many cycles as are required, with the
same processes each time. -/
theorem resumePoll_returns {targets : List (DcsWriterInventoryEntry C)}
    {definitions : String → List String} {deadline : Int} {fuel : Nat} {s : ResumeState C}
    {log : List (WatchEvent C)} {current : List Resumed}
    (h : (resumePoll parseClientIdentity supportsV8 targets definitions deadline).Ends fuel s log
      (.ok (some current))) :
    Poll.Tail (AllRunning parseClientIdentity supportsV8 definitions targets current)
      (Waited deadline) activeResumeStableObservations log ∧ Attributed none log := by
  refine ⟨h.tail (show 1 ≤ 2 by decide) (fun _ _ _ => resumePoll_running) fun _ _ _ => waited, ?_⟩
  cases h with
  | stable before cycle =>
    exact Attributed.append (resumePoll_attributed cycle) (resumeRounds_attributed before)

end Resume

end Adcp.L5.Migration.StableWriters
