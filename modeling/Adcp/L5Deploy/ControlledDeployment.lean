import Adcp.L1Base.Script
import Adcp.L3Store.GlobalWriter

/-!
# The controlled deployment

`run_controlled_deployment` runs the effects of one deployment under one W08 lease
of the global writer. It is a program over the calls it makes: to the store, to the
source authority, to the clock and its own heartbeat thread, and the effects
themselves, which are calls of a type `χ` that a user of it chooses.

* `ControlLease`: `GlobalProductionControlLease`, its acquisition with the bounded
  wait, its entry and its exit.
* `runControlledDeployment`: the program.
* `Serves`: what the store may answer. Any other call may answer anything.
-/
namespace Adcp.L5

open Adcp.L1 Adcp.L2 Adcp.L3

/-- mirrors src/adcp/domain.py:210-212 (`operation_key`) -/
def operationKey (operationType : String) (inputs : Json) : Except PyError String := do
  let text ← canonicalJson inputs
  pure (Sha256.hexdigest (Sha256.utf8 ("v1|" ++ operationType ++ "|" ++ text).toList))

/-! ## Calls and exceptions -/

/-- mirrors src/adcp/production_control.py:44-49 (`DeploymentEffectEvidence`) -/
structure EffectEvidence (β γ : Type) where
  step : String
  operationId : String
  effectResult : β
  readback : γ

/-- An exception: one of the store or of a call, `ProductionControlError`, or
`DeploymentAuthorityLost`, whose detail is the class of its cause.
mirrors src/adcp/production_control.py:27-31,52-57 -/
inductive ControlError (β γ : Type) where
  | raised (e : PyError)
  | control (code detail : String)
  | authorityLost (evidence : List (EffectEvidence β γ)) (cause : ControlError β γ)

/-- What a deployment calls. `schemaVersion` is the query of the constructor, `newAttempt`
its `uuid4().hex`; `nestedAuthority` reads whether the store's authority is bound
already, `heartbeatError` what the heartbeat thread has recorded; `monotonic` is read in
nanoseconds. -/
inductive ControlCall (χ : Type) where
  | writerEvents
  | schemaVersion
  | newAttempt
  | revalidate
  | monotonic
  | sleep (nanoseconds : Int)
  | acquire (a : AcquireWriter)
  | assertCurrent (ownerId : String) (fencingToken : Int)
  | nestedAuthority
  | startHeartbeat
  | stopHeartbeat
  | heartbeatError
  | release (a : ReleaseWriter)
  | user (c : χ)

abbrev ControlAnswer {χ : Type} (answer : χ → Type) : ControlCall χ → Type
  | .writerEvents => List GlobalWriterEvent
  | .schemaVersion => Option Int
  | .newAttempt => String
  | .monotonic => Int
  | .acquire _ | .assertCurrent .. | .release _ => GlobalWriterLease
  | .nestedAuthority => Bool
  | .heartbeatError => Option PyError
  | .revalidate | .sleep _ | .startHeartbeat | .stopHeartbeat => Unit
  | .user c => answer c

variable {χ : Type} {answer : χ → Type} {β γ : Type}

/-- A program of the deployment's calls. -/
abbrev ControlScript (answer : χ → Type) (β γ α : Type) : Type :=
  Script (ControlError β γ) (ControlAnswer answer) α

open Script

/-- A call made as it is. -/
def ask (c : ControlCall χ) : ControlScript answer β γ (ControlAnswer answer c) := invoke c

def controlRequire (c : Prop) [Decidable c] (code detail : String) : ControlScript answer β γ Unit :=
  Script.require c (.control code detail)

/-! ## The lease -/

def w08WriterClass : String := "W08_CONTROLLED_PRODUCTION_DEPLOYMENT"

def acquireWaitDeadlineNanoseconds : Int := 30000000000
def acquireRetryIntervalNanoseconds : Int := 500000000
def acquireMaxAttempts : Nat := 61

def defaultLeaseTtlSeconds : Int := 60
def defaultHeartbeatSeconds : Int := 15

/-- A deployment, without its steps. -/
structure Deployment where
  changeId : String
  deploymentId : String
  controlDecisionRef : Option String
  startHeartbeat : Bool
  boundedAcquireWait : Bool

/-- What the operation keys of an attempt are made of. -/
def Deployment.identity (d : Deployment) (attemptId : String) : Json :=
  .obj [("change_id", .str d.changeId), ("unit_id", .str d.deploymentId),
    ("attempt_id", .str attemptId), ("writer_class", .str w08WriterClass),
    ("operation_class", .str "CONTROLLED_PRODUCTION_DEPLOYMENT"),
    ("target", .str "GLOBAL_PRODUCTION")]

/-- A lease of one attempt. -/
structure ControlLease where
  deployment : Deployment
  ownerId : String
  attemptId : String
  acquireOperationKey : String
  releaseOperationKey : String

/-- `isinstance(schema_version, int) and 0 < schema_version`, of a query that may fail. -/
def schemaReadable {ε : Type} : Except ε (Option Int) → Bool
  | .ok (some version) => 0 < version
  | _ => false

/-- `GlobalProductionControlLease(…)`, with the values `run_controlled_deployment` gives
it.
mirrors src/adcp/production_control.py:165-231,449-463 -/
def newControlLease (d : Deployment) : ControlScript answer β γ ControlLease := do
  controlRequire (d.deploymentId ≠ "") "GLOBAL_PRODUCTION_UNIT_ID_REQUIRED" ""
  controlRequire (0 < defaultHeartbeatSeconds ∧ defaultHeartbeatSeconds ≤ 20 ∧
    defaultHeartbeatSeconds < defaultLeaseTtlSeconds) "GLOBAL_PRODUCTION_HEARTBEAT_POLICY_INVALID" ""
  let version ← (ask .schemaVersion).attempt
  controlRequire (schemaReadable version = true) "GLOBAL_PRODUCTION_STORE_SCHEMA_UNREADABLE" ""
  let attemptId ← ask .newAttempt
  let acquireKey ← lift ((operationKey "global-production-control-acquire"
    (d.identity attemptId)).mapError .raised)
  let releaseKey ← lift ((operationKey "global-production-control-release"
    (d.identity attemptId)).mapError .raised)
  pure { deployment := d, ownerId := w08WriterClass ++ ":" ++ attemptId, attemptId := attemptId
         acquireOperationKey := acquireKey, releaseOperationKey := releaseKey }

namespace ControlLease

variable (l : ControlLease)

/-- mirrors src/adcp/production_control.py:257-264 -/
def assertCurrent (token : Int) : ControlScript answer β γ Unit := do
  let heartbeat ← ask .heartbeatError
  controlRequire (heartbeat = none) "GLOBAL_PRODUCTION_HEARTBEAT_FAILED" ""
  ask .revalidate
  match ← (ask (.assertCurrent l.ownerId token)).attempt with
  | .ok _ => pure ()
  | .error (.raised (.store code detail)) => fail (.control code detail)
  | .error e => fail e

/-- mirrors src/adcp/production_control.py:266-281 -/
def acquireRequest : AcquireWriter where
  operationKey := l.acquireOperationKey
  context :=
    { ownerId := some l.ownerId, ownerExecutionId := some l.attemptId
      changeId := some l.deployment.changeId, sliceId := some l.deployment.deploymentId
      writerClass := some w08WriterClass
      ownerSessionRole := some "GPT_REMOTE_CONTROLLED_DEPLOYMENT", track := some "CONTROL"
      repositoryOrRuntime := some "ADCP_CONTROL"
      operationClass := some "CONTROLLED_PRODUCTION_DEPLOYMENT"
      target := some "GLOBAL_PRODUCTION" }
  ttlSeconds := defaultLeaseTtlSeconds
  controlDecisionRef := l.deployment.controlDecisionRef

def releaseRequest (token : Int) (reason : String) : ReleaseWriter where
  operationKey := l.releaseOperationKey
  ownerId := l.ownerId
  fencingToken := token
  reason := reason
  controlDecisionRef := l.deployment.controlDecisionRef

def acquireOnce : ControlScript answer β γ GlobalWriterLease := ask (.acquire l.acquireRequest)

/-- The wait goes on only when `c` holds. -/
def waitRequire (c : Prop) [Decidable c] (attempts : Nat) : ControlScript answer β γ Unit :=
  controlRequire c "W08_ACQUIRE_WAIT_TIMEOUT" ("attempts=" ++ toString attempts)

/-- The deadline, before every attempt but the first.
mirrors src/adcp/production_control.py:290-293 -/
def beforeAttempt (deadline : Int) (attempts : Nat) : ControlScript answer β γ Unit :=
  if 0 < attempts then do
    let now ← ask .monotonic
    waitRequire (now < deadline) attempts
  else pure ()

/-- The wait after an attempt that found the lease held.
mirrors src/adcp/production_control.py:300-316 -/
def beforeRetry (deadline : Int) (attempts : Nat) : ControlScript answer β γ Unit := do
  let now ← ask .monotonic
  waitRequire (attempts < acquireMaxAttempts ∧ now < deadline) attempts
  let delay := min acquireRetryIntervalNanoseconds (deadline - now)
  waitRequire (0 < delay) attempts
  ask (.sleep delay)
  let now ← ask .monotonic
  waitRequire (now < deadline) attempts
  -- a wait never extends stale authority
  ask .revalidate

/-- `error.code == "GLOBAL_PRODUCTION_WRITER_HELD"`, of a `StoreError`. -/
def heldByOther : ControlError β γ → Bool
  | .raised (.store code _) => code = "GLOBAL_PRODUCTION_WRITER_HELD"
  | _ => false

/-- The loop of the bounded wait, with `left` attempts to go after `attempts`.
mirrors src/adcp/production_control.py:287-320 -/
def acquireRetry (deadline : Int) (attempts : Nat) : Nat → ControlScript answer β γ GlobalWriterLease
  | 0 => fail (.control "W08_ACQUIRE_WAIT_TIMEOUT" ("attempts=" ++ toString attempts))
  | left + 1 => do
    beforeAttempt deadline attempts
    match ← (l.acquireOnce).attempt with
    | .ok row => pure row
    | .error e =>
      if heldByOther e then do
        beforeRetry deadline (attempts + 1)
        acquireRetry deadline (attempts + 1) left
      else fail e

/-- mirrors src/adcp/production_control.py:283-324 -/
def acquireWithOptionalWait : ControlScript answer β γ GlobalWriterLease :=
  if l.deployment.boundedAcquireWait then do
    let now ← ask .monotonic
    l.acquireRetry (now + acquireWaitDeadlineNanoseconds) 0 acquireMaxAttempts
  else l.acquireOnce

/-- What `__enter__` does once it holds the token.
mirrors src/adcp/production_control.py:332-340, src/adcp/store/sqlite.py:781-797 -/
def entered (token : Int) : ControlScript answer β γ Unit := do
  l.assertCurrent token
  let nested ← ask .nestedAuthority
  Script.require (nested = false)
    (.raised (storeError "GLOBAL_PRODUCTION_WRITER_NESTED_AUTHORITY_FORBIDDEN"))
  let _ ← ask (.assertCurrent l.ownerId token)
  if l.deployment.startHeartbeat then ask .startHeartbeat

/-- Answers the fencing token.
mirrors src/adcp/production_control.py:326-354 (`__enter__`) -/
def enter : ControlScript answer β γ Int := do
  ask .revalidate
  let row ← l.acquireWithOptionalWait
  let token := row.fencingToken
  match ← (l.entered token).attempt with
  | .ok () => pure token
  | .error primary => do
    let _ ← (ask (.release (l.releaseRequest token
      "GLOBAL_PRODUCTION_POST_ACQUIRE_REVALIDATION_FAILED"))).attempt
    fail primary

/-- What becomes of the result of the body.
mirrors src/adcp/production_control.py:356-379 (`__exit__`), src/adcp/store/sqlite.py:1415 -/
def exit {α : Type} (token : Int) (result : Except (ControlError β γ) α) :
    ControlScript answer β γ α := do
  ask .stopHeartbeat
  match ← (ask (.release (l.releaseRequest token "GLOBAL_PRODUCTION_WRITER_RELEASED"))).attempt with
  | .ok _ => lift result
  | .error _ =>
    match result with
    | .ok _ => fail (.control "GLOBAL_PRODUCTION_RELEASE_FAILED" "")
    | .error e => fail e

end ControlLease

/-! ## The deployment -/

/-- The acquisition of the lease by an earlier attempt at the same deployment.
mirrors src/adcp/production_control.py:396-409 -/
def priorAcquire (changeId deploymentId : String) (events : List GlobalWriterEvent) :
    Option GlobalWriterEvent :=
  events.reverse.find? fun e => (e.eventType = .ACQUIRE || e.eventType = .EXPIRED_TAKEOVER) &&
    e.new.changeId = some changeId && e.new.sliceId = some deploymentId &&
    e.new.writerClass = some w08WriterClass

/-- mirrors src/adcp/production_control.py:34-40 -/
structure DeploymentStep (answer : χ → Type) (β γ : Type) where
  name : String
  effect : ControlScript answer β γ β
  readback : β → ControlScript answer β γ γ

/-- A check that turns every exception into the loss of the authority. -/
def keepsAuthority (l : ControlLease) (token : Int) (evidence : List (EffectEvidence β γ)) :
    ControlScript answer β γ Unit := do
  match ← (l.assertCurrent token).attempt with
  | .ok () => pure ()
  | .error e => fail (.authorityLost evidence e)

/-- The steps from number `index` on, after those with `evidence`.
mirrors src/adcp/production_control.py:466-484 -/
def runSteps (l : ControlLease) (token : Int) :
    List (DeploymentStep answer β γ) → Nat → List (EffectEvidence β γ) →
      ControlScript answer β γ (List (EffectEvidence β γ))
  | [], _, evidence => pure evidence
  | step :: steps, index, evidence => do
    let operationId ← lift ((operationKey "controlled-production-deployment-step"
      (.obj [("deployment_id", .str l.deployment.deploymentId), ("index", .int index),
        ("step", .str step.name)])).mapError .raised)
    l.assertCurrent token
    let effectResult ← step.effect
    let readback ← step.readback effectResult
    let evidence := evidence ++ [⟨step.name, operationId, effectResult, readback⟩]
    keepsAuthority l token evidence
    runSteps l token steps (index + 1) evidence

/-- What runs under the lease.
mirrors src/adcp/production_control.py:464-494 -/
def runUnderLease (l : ControlLease) (token : Int) (steps : List (DeploymentStep answer β γ))
    (persistResult : List (EffectEvidence β γ) → ControlScript answer β γ Unit) :
    ControlScript answer β γ (List (EffectEvidence β γ)) := do
  let evidence ← runSteps l token steps 0 []
  l.assertCurrent token
  persistResult evidence
  keepsAuthority l token evidence
  pure evidence

/-- The deployment under a lease of its own.
mirrors src/adcp/production_control.py:448-494 -/
def runLeased (d : Deployment) (steps : List (DeploymentStep answer β γ))
    (persistResult : List (EffectEvidence β γ) → ControlScript answer β γ Unit) :
    ControlScript answer β γ (List (EffectEvidence β γ)) := do
  let l ← newControlLease d
  let token ← l.enter
  let result ← (runUnderLease l token steps persistResult).attempt
  l.exit token result

/-- mirrors src/adcp/production_control.py:412-494 -/
def runControlledDeployment (d : Deployment) (steps : List (DeploymentStep answer β γ))
    (persistResult : List (EffectEvidence β γ) → ControlScript answer β γ Unit) :
    ControlScript answer β γ (List (EffectEvidence β γ)) := do
  let events ← ask .writerEvents
  match priorAcquire d.changeId d.deploymentId events with
  | some prior => fail (.control "CONTROLLED_DEPLOYMENT_RECONCILIATION_REQUIRED"
      ("deployment_id=" ++ d.deploymentId ++ ",prior_fencing_token=" ++
        toString prior.toFencingToken))
  | none => runLeased d steps persistResult

/-! ## What the store answers -/

/-- The read-back of an acquisition.
mirrors src/adcp/store/sqlite.py:1367-1371 -/
def acquireReadBack (env : Env) (a : AcquireWriter) (g : Grant) : Tx PyError Db GlobalWriterLease := do
  let current ← assertCurrentGlobalWriter env 1 (a.context.ownerId.getD "") g.token
  Tx.require (current.context = a.context)
    (.store "CONTROL_STORE_ERROR" "global writer readback mismatch")
  pure current

/-- A transaction commits, and the row is read back in the state that is found then. A
call that raises may have committed all the same. -/
def Committed (tx : Tx PyError Db Grant) (readBack : Grant → Tx PyError Db GlobalWriterLease) (db : Db)
    (db' : Db) : Except (ControlError β γ) GlobalWriterLease → Prop
  | .ok row => ∃ g seen seen', tx db = .ok (g, db') ∧ readBack g seen = .ok (row, seen')
  | .error _ => db' = db ∨ ∃ g, tx db = .ok (g, db')

/-- What the store does on a call that finds it at `db`, at any time and in any
surroundings. The other calls write nothing that the calls of other parties could not
write, and answer anything. -/
def Serves (db : Db) : (c : ControlCall χ) → Except (ControlError β γ) (ControlAnswer answer c) →
    Db → Prop
  | .acquire a, r, db' => ∃ env, Committed (acquireWriterTx env a) (acquireReadBack env a) db db' r
  | .release a, r, db' => ∃ env, Committed (releaseWriterTx env a)
      (readBackFree env "global writer release readback mismatch") db db' r
  | .assertCurrent ownerId token, r, db' => db' = db ∧ ∀ row, r = .ok row →
      ∃ env, assertCurrentGlobalWriter env 0 ownerId token db = .ok (row, db)
  | .writerEvents, r, db' => db' = db ∧ ∀ events, r = .ok events → events = db.globalWriterEvent
  | _, _, db' => db' = db

/-- The call of the store is one way to serve it. -/
theorem committed_commitThen {tx : Tx PyError Db Grant}
    {readBack : Grant → Tx PyError Db GlobalWriterLease} {db db' : Db}
    {r : Except PyError GlobalWriterLease} (h : Tx.commitThen tx readBack db = (r, db')) :
    Committed tx readBack db db' (r.mapError (ControlError.raised (β := β) (γ := γ))) := by
  cases r with
  | ok row =>
    obtain ⟨g, seen', hcommit, hback⟩ := Tx.commitThen_ok h
    exact ⟨g, db', seen', hcommit, hback⟩
  | error e =>
    rcases Tx.commitThen_error h with ⟨-, hkept⟩ | ⟨g, hcommit, -⟩
    · exact Or.inl hkept
    · exact Or.inr ⟨g, hcommit⟩

theorem serves_acquire {env : Env} {a : AcquireWriter} {db db' : Db}
    {r : Except PyError GlobalWriterLease} (h : acquireGlobalProductionWriter env a db = (r, db')) :
    @Serves χ answer β γ db (.acquire a) (r.mapError .raised) db' :=
  ⟨env, committed_commitThen h⟩

theorem serves_release {env : Env} {a : ReleaseWriter} {db db' : Db}
    {r : Except PyError GlobalWriterLease} (h : releaseGlobalProductionWriter env a db = (r, db')) :
    @Serves χ answer β γ db (.release a) (r.mapError .raised) db' :=
  ⟨env, committed_commitThen h⟩

end Adcp.L5
