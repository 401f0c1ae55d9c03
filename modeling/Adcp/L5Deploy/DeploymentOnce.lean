import Adcp.L1Base.Interleaving
import Adcp.L4Safety.SliceEvents
import Adcp.L4Safety.WriterLog
import Adcp.L5Deploy.DeploymentSafety

/-!
# A deployment identity runs once

Any number of deployments with one change and deployment id, in different processes on
one database. The check for an earlier acquisition and the acquisition are two
transactions, so two calls may both have passed the check.

* `Sound`, `sound_exec`: the writer's row is the fold of its log, which only grows.
* `Alone`: a lease is granted while every other call of the identity has not started, or
  has ended.
* **`deployment_once`**: in a run whose grants are all made `Alone`, one call at most runs
  effects, and a call that comes after a grant is refused at its check.
* **`deployment_twice`**: a run that is not `Alone`, in which two calls run step 0.
-/
namespace Adcp.L5

open Adcp.L1 Adcp.L2 Adcp.L3 Adcp.L4 Script

variable {β γ : Type} {db db' : Db}

/-! ## The store between the calls -/

/-- What the store keeps at any time. -/
structure Sound (db : Db) : Prop where
  slices : SliceLogged db
  fold : replayWriter db.globalWriterEvent = db.globalWriterLease.view

theorem Sound.init : Sound Db.init := ⟨.init, rfl⟩

/-- A writer call in the system changes what it changes by itself. -/
theorem writerChange_tx {env : Env} {snap : Db} {w : WriterCall} {c : Commit}
    (hx : Call.tx env snap (.writer w) db = .ok (c, db')) : WriterChange env db db' := by
  cases w with
  | acquire a =>
    obtain ⟨g, hx⟩ := done_ok hx
    rcases (acquireWriterTx_writes hx).2 with ⟨-, he⟩ | ⟨_, row, event, hwrites, -⟩
    · exact .keep he
    · exact .logs hwrites
  | heartbeat owner token ttl =>
    obtain ⟨⟨⟩, hx⟩ := done_ok hx
    obtain ⟨-, -, _, row, hview, -, hchecks, he⟩ := heartbeatWriterTx_writes hx
    exact .renews hview hchecks he
  | release a =>
    obtain ⟨g, hx⟩ := done_ok hx
    rcases releaseWriterTx_writes hx with ⟨-, he⟩ | ⟨row, event, hwrites, -⟩
    · exact .keep he
    · exact .logs hwrites
  | forceRevoke a =>
    obtain ⟨g, hx⟩ := done_ok hx
    rcases revokeWriterTx_writes hx with ⟨-, he⟩ | ⟨row, event, hwrites, -⟩
    · exact .keep he
    · exact .logs hwrites
  | assertCurrent owner token =>
    obtain ⟨row, hx⟩ := done_ok hx
    exact .keep (assertCurrentGlobalWriter_ok hx).2

/-- The row stays the fold of its log, and the log only grows. -/
theorem writerChange_fold {env : Env} (h : WriterChange env db db')
    (hfold : replayWriter db.globalWriterEvent = db.globalWriterLease.view) :
    replayWriter db'.globalWriterEvent = db'.globalWriterLease.view ∧
      ∃ more, db'.globalWriterEvent = db.globalWriterEvent ++ more := by
  cases h with
  | keep he =>
    subst he
    exact ⟨hfold, [], (List.append_nil _).symm⟩
  | @logs row event hwrites =>
    obtain ⟨rfl, -, -, hleads, -⟩ := hwrites
    exact ⟨(replayWriter_append _ _).trans hleads.symm, [event], rfl⟩
  | renews same _ he =>
    subst he
    exact ⟨hfold.trans same.symm, [], (List.append_nil _).symm⟩

/-- A call keeps the store sound, and the log of the writer. -/
theorem sound_tx {env : Env} {snap : Db} {call : Call} {c : Commit} (h : Sound db)
    (hx : call.tx env snap db = .ok (c, db')) :
    Sound db' ∧ ∃ more, db'.globalWriterEvent = db.globalWriterEvent ++ more := by
  have hstep := Call.controlStep h.slices.distinct hx
  have hslices := h.slices.step hstep.sliceChange
  by_cases hwriter : ∃ w, call = .writer w
  · obtain ⟨w, rfl⟩ := hwriter
    obtain ⟨hfold, hmore⟩ := writerChange_fold (writerChange_tx hx) h.fold
    exact ⟨⟨hslices, hfold⟩, hmore⟩
  · have hsame := hstep.writer_same fun w hw => hwriter ⟨w, hw⟩
    obtain ⟨hlease, hevents⟩ := Prod.ext_iff.mp hsame
    have hlease : db'.globalWriterLease = db.globalWriterLease := hlease
    have hevents : db'.globalWriterEvent = db.globalWriterEvent := hevents
    refine ⟨⟨hslices, ?_⟩, [], ?_⟩
    · rw [hevents, hlease]
      exact h.fold
    · rw [hevents, List.append_nil]

theorem sound_exec (env : Env) (snap : Db) (call : Call) (h : Sound db) :
    Sound (call.exec env snap db) ∧
      ∃ more, (call.exec env snap db).globalWriterEvent = db.globalWriterEvent ++ more := by
  rcases call.exec_cases env snap db with he | ⟨c, hx⟩
  · rw [he]
    exact ⟨h, [], (List.append_nil _).symm⟩
  · exact sound_tx h hx

/-- Reachable databases are sound. -/
theorem Sound.of_reachable (h : Reachable db) : Sound db :=
  h.invariant .init fun _ _ _ _ _ _ _ hsound hx => (sound_tx hsound hx).1

/-- Another party: any call of the store. -/
def OtherParty (db db' : Db) : Prop :=
  ∃ (env : Env) (snap : Db) (call : Call), db' = call.exec env snap db

/-- A commit of the writer is a call of the store. -/
theorem committed_exec {w : WriterCall} {tx : Tx PyError Db Grant} {env : Env}
    {readBack : Grant → Tx PyError Db GlobalWriterLease}
    {r : Except (ControlError β γ) GlobalWriterLease}
    (htx : Call.tx env db (.writer w) = Adcp.L4.done tx) (h : Committed tx readBack db db' r) :
    db' = db ∨ db' = (Call.writer w).exec env db db := by
  have hexec : ∀ g, tx db = .ok (g, db') → db' = (Call.writer w).exec env db db := by
    intro g hg
    have hx : Tx.run (Call.tx env db (.writer w)) db = .ok (.fresh, db') := by
      rw [htx]
      exact Tx.bind_ok.mpr ⟨g, db', hg, rfl⟩
    exact (Tx.atomically_run hx).symm
  cases r with
  | ok row =>
    obtain ⟨g, _, _, hg, -⟩ := h
    exact Or.inr (hexec g hg)
  | error e =>
    rcases h with he | ⟨g, hg⟩
    · exact Or.inl he
    · exact Or.inr (hexec g hg)

/-- What a deployment's own call does to the store, any party could do. -/
theorem serves_otherParty {c : ControlCall (DeployCall β γ)}
    {r : Except (ControlError β γ) (ControlAnswer DeployAnswer c)} (h : DeployServes db c r db') :
    db' = db ∨ OtherParty db db' := by
  cases c with
  | acquire a =>
    obtain ⟨env, hcommit⟩ := h
    rcases committed_exec (w := .acquire a) rfl hcommit with he | he
    · exact Or.inl he
    · exact Or.inr ⟨env, db, _, he⟩
  | release a =>
    obtain ⟨env, hcommit⟩ := h
    rcases committed_exec (w := .release a) rfl hcommit with he | he
    · exact Or.inl he
    · exact Or.inr ⟨env, db, _, he⟩
  | assertCurrent _ _ | writerEvents => exact Or.inl h.1
  | schemaVersion | newAttempt | revalidate | monotonic | sleep _ | nestedAuthority | startHeartbeat
    | stopHeartbeat | heartbeatError | user _ => exact Or.inl h

theorem OtherParty.sound (h : OtherParty db db') (hsound : Sound db) :
    Sound db' ∧ ∃ more, db'.globalWriterEvent = db.globalWriterEvent ++ more := by
  obtain ⟨env, snap, call, rfl⟩ := h
  exact sound_exec env snap call hsound

theorem serves_sound {c : ControlCall (DeployCall β γ)}
    {r : Except (ControlError β γ) (ControlAnswer DeployAnswer c)} (h : DeployServes db c r db')
    (hsound : Sound db) :
    Sound db' ∧ ∃ more, db'.globalWriterEvent = db.globalWriterEvent ++ more := by
  rcases serves_otherParty h with rfl | hother
  · exact ⟨hsound, [], (List.append_nil _).symm⟩
  · exact hother.sound hsound

/-! ## The record of an identity -/

/-- An earlier acquisition of the identity is on record. -/
def Recorded (changeId deploymentId : String) (db : Db) : Prop :=
  (priorAcquire changeId deploymentId db.globalWriterEvent).isSome = true

theorem recorded_iff {changeId deploymentId : String} : Recorded changeId deploymentId db ↔
    ∃ e ∈ db.globalWriterEvent, (e.eventType = .ACQUIRE ∨ e.eventType = .EXPIRED_TAKEOVER) ∧
      e.new.changeId = some changeId ∧ e.new.sliceId = some deploymentId ∧
      e.new.writerClass = some w08WriterClass := by
  unfold Recorded priorAcquire
  simp only [List.find?_isSome, List.mem_reverse, Bool.and_eq_true, Bool.or_eq_true,
    decide_eq_true_eq, and_assoc]

theorem Recorded.grow {changeId deploymentId : String} (h : Recorded changeId deploymentId db)
    (hmore : ∃ more, db'.globalWriterEvent = db.globalWriterEvent ++ more) :
    Recorded changeId deploymentId db' := by
  obtain ⟨more, hmore⟩ := hmore
  obtain ⟨e, he, hnames⟩ := recorded_iff.mp h
  exact recorded_iff.mpr ⟨e, hmore ▸ List.mem_append_left _ he, hnames⟩

/-- An acquisition that commits, of a new key or of one that was used, leaves the lease
with its context. -/
theorem acquireWriterTx_held {env : Env} {a : AcquireWriter} {g : Grant}
    (h : acquireWriterTx env a db = .ok (g, db')) :
    db'.globalWriterLease.state = .HELD ∧ db'.globalWriterLease.context = a.context := by
  rcases (acquireWriterTx_writes h).2 with ⟨⟨t, rfl⟩, rfl⟩ | ⟨_, row, event, hwrites, -, hview, -⟩
  · unfold acquireWriterTx validateGlobalWriterContext at h
    obtain ⟨-, h⟩ := Tx.require_bind_ok.mp h
    obtain ⟨-, h⟩ := Tx.require_bind_ok.mp h
    obtain ⟨-, h⟩ := Tx.require_bind_ok.mp h
    obtain ⟨_, _, hc, h⟩ := Tx.bind_ok.mp h
    simp only [Tx.requireAll_bind_ok, Tx.requireAll_ok] at hc
    obtain ⟨-, -, he⟩ := hc
    cases he
    obtain ⟨json, -, h⟩ := Tx.lift_bind_ok.mp h
    obtain ⟨expires, -, h⟩ := Tx.lift_bind_ok.mp h
    obtain ⟨found, h, -⟩ := existingGlobalWriterEvent_bind_ok (Tx.mapError_ok.mp h)
    cases found with
    | some event =>
      obtain ⟨-, h⟩ := getLease_bind_ok.mp h
      obtain ⟨hheld, h⟩ := Tx.require_bind_ok.mp h
      exact ⟨hheld.1, hheld.2.2⟩
    | none =>
      obtain ⟨-, h⟩ := getLease_bind_ok.mp h
      obtain ⟨-, h⟩ := Tx.require_bind_ok.mp h
      obtain ⟨h, -⟩ := updateWriterLease_bind_ok h
      obtain ⟨-, h⟩ := inject_bind_ok.mp h
      have h := insertGlobalWriterEvent_bind_ok h
      obtain ⟨-, h⟩ := inject_bind_ok.mp h
      cases Tx.pure_ok.mp h
  · obtain ⟨rfl, -⟩ := hwrites
    have hstate := congrArg WriterView.state hview
    have hcontext := congrArg WriterView.context hview
    exact ⟨hstate, hcontext⟩

/-- A sound store whose lease is held has the grant on record. -/
theorem Sound.recorded (h : Sound db) (l : ControlLease)
    (hstate : db.globalWriterLease.state = .HELD)
    (hcontext : db.globalWriterLease.context = l.acquireRequest.context) :
    Recorded l.deployment.changeId l.deployment.deploymentId db := by
  rw [recorded_iff]
  have hfold := h.fold
  rcases List.eq_nil_or_concat db.globalWriterEvent with hnil | ⟨before, e, hlog⟩
  · rw [hnil] at hfold
    have hfree := congrArg WriterView.state hfold
    rw [show db.globalWriterLease.view.state = WriterState.HELD from hstate] at hfree
    cases hfree
  · rw [List.concat_eq_append] at hlog
    rw [hlog, replayWriter_append] at hfold
    refine ⟨e, hlog ▸ List.mem_append_right _ (List.mem_singleton.mpr rfl), ?_⟩
    have hnew : e.new = l.acquireRequest.context :=
      (congrArg WriterView.context hfold).trans hcontext
    have hheld : e.view.state = .HELD := (congrArg WriterView.state hfold).trans hstate
    rw [hnew]
    refine ⟨?_, rfl, rfl, rfl⟩
    cases htype : e.eventType with
    | ACQUIRE => exact Or.inl rfl
    | EXPIRED_TAKEOVER => exact Or.inr rfl
    | RELEASE | FORCE_REVOKE =>
      unfold GlobalWriterEvent.view at hheld
      rw [htype] at hheld
      cases hheld

/-- A granted acquisition is on record. -/
theorem serves_recorded {l : ControlLease} {row : GlobalWriterLease} (hsound : Sound db)
    (h : @DeployServes β γ db (.acquire l.acquireRequest) (.ok row) db') :
    Recorded l.deployment.changeId l.deployment.deploymentId db' := by
  obtain ⟨hsound', -⟩ := serves_sound h hsound
  obtain ⟨env, g, _, _, hcommit, -⟩ := h
  obtain ⟨hstate, hcontext⟩ := acquireWriterTx_held hcommit
  exact hsound'.recorded l hstate hcontext

/-! ## The calls of an identity -/

/-- A call of `run_controlled_deployment`, but for the identity. -/
structure DeploymentCall where
  controlDecisionRef : Option String
  startHeartbeat : Bool
  boundedAcquireWait : Bool
  steps : List String

variable {changeId deploymentId : String}

def DeploymentCall.deployment (x : DeploymentCall) (changeId deploymentId : String) : Deployment where
  changeId := changeId
  deploymentId := deploymentId
  controlDecisionRef := x.controlDecisionRef
  startHeartbeat := x.startHeartbeat
  boundedAcquireWait := x.boundedAcquireWait

def DeploymentCall.script (changeId deploymentId : String) (x : DeploymentCall) :
    DeployScript β γ (List (EffectEvidence β γ)) :=
  deploy (x.deployment changeId deploymentId) x.steps

/-- A call starts with the check, which refuses what is on record. -/
theorem script_checks (db : Db) (x : DeploymentCall) :
    ∃ next, x.script changeId deploymentId =
        (.call .writerEvents next : DeployScript β γ (List (EffectEvidence β γ))) ∧
      (∀ e, next (.error e) = .done (.error e)) ∧
      (Recorded changeId deploymentId db → ∃ detail, next (.ok db.globalWriterEvent) =
        .done (.error (.control "CONTROLLED_DEPLOYMENT_RECONCILIATION_REQUIRED" detail))) := by
  refine ⟨_, rfl, fun _ => rfl, fun hrecorded => ?_⟩
  obtain ⟨prior, hprior⟩ := Option.isSome_iff_exists.mp hrecorded
  refine ⟨"deployment_id=" ++ deploymentId ++ ",prior_fencing_token=" ++
    toString prior.toFencingToken, ?_⟩
  simp only [Script.bind, DeploymentCall.deployment, hprior]
  rfl

/-- Its first call, when the identity is on record, is its last one. -/
theorem script_turned_away {x : DeploymentCall} {c : ControlCall (DeployCall β γ)}
    {next : Except (ControlError β γ) (ControlAnswer DeployAnswer c) →
      DeployScript β γ (List (EffectEvidence β γ))}
    {a : Except (ControlError β γ) (ControlAnswer DeployAnswer c)}
    (hcall : x.script changeId deploymentId = .call c next) (served : DeployServes db c a db')
    (hrecorded : Recorded changeId deploymentId db) :
    ∃ r e, (⟨db, c, a⟩ : DeployEvent β γ) = ⟨db, .writerEvents, r⟩ ∧ next a = .done (.error e) ∧
      ((∃ detail, e = .control "CONTROLLED_DEPLOYMENT_RECONCILIATION_REQUIRED" detail) ∨
        r = .error e) := by
  obtain ⟨next', hscript, herror, hrefused⟩ := script_checks (β := β) (γ := γ) db x
  cases hscript.symm.trans hcall
  cases a with
  | error e => exact ⟨.error e, e, rfl, herror e, Or.inr rfl⟩
  | ok events =>
    obtain ⟨-, hevents⟩ := served
    obtain rfl := hevents events rfl
    obtain ⟨detail, hnext⟩ := hrefused hrecorded
    exact ⟨_, _, rfl, hnext, Or.inl ⟨detail, rfl⟩⟩

variable {κ : Type} [DecidableEq κ] {calls : κ → DeploymentCall} {db₀ : Db}

/-- The call is an acquisition that was granted. -/
def Granted : (c : ControlCall (DeployCall β γ)) →
    Except (ControlError β γ) (ControlAnswer DeployAnswer c) → Prop
  | .acquire _, .ok _ => True
  | _, _ => False

/-- A lease is granted while every other call has not started, or has ended. -/
def Alone (start procs : κ → DeployScript β γ (List (EffectEvidence β γ))) (k : κ)
    (c : ControlCall (DeployCall β γ)) (a : Except (ControlError β γ) (ControlAnswer DeployAnswer c)) :
    Prop :=
  Granted c a → ∀ k' ≠ k, procs k' = start k' ∨ ∃ r, procs k' = .done r

abbrev Deployments (permits : (κ → DeployScript β γ (List (EffectEvidence β γ))) → κ →
      (c : ControlCall (DeployCall β γ)) →
        Except (ControlError β γ) (ControlAnswer DeployAnswer c) → Prop)
    (changeId deploymentId : String) (calls : κ → DeploymentCall) (db₀ : Db) (db : Db)
    (procs : κ → DeployScript β γ (List (EffectEvidence β γ))) (log : List (κ × DeployEvent β γ)) :
    Prop :=
  Interleaved DeployServes OtherParty permits (fun k => (calls k).script changeId deploymentId) db₀ db
    procs log

variable {permits : (κ → DeployScript β γ (List (EffectEvidence β γ))) → κ →
    (c : ControlCall (DeployCall β γ)) →
      Except (ControlError β γ) (ControlAnswer DeployAnswer c) → Prop}
  {procs : κ → DeployScript β γ (List (EffectEvidence β γ))} {log : List (κ × DeployEvent β γ)}

def HasAcquired (k : κ) (log : List (κ × DeployEvent β γ)) : Prop :=
  ∃ w a row, (k, ⟨w, .acquire a, .ok row⟩) ∈ log

theorem deployments_meets (run : Deployments permits changeId deploymentId calls db₀ db procs log)
    (k : κ) : Keeps ((calls k).deployment changeId deploymentId) (procs k) Finished (own k log) :=
  Meets.steps (runControlledDeployment_meets _ (deployStep_atomic (β := β) (γ := γ))) (run.own_steps k)

theorem deployments_sound (run : Deployments permits changeId deploymentId calls db₀ db procs log)
    (h₀ : Sound db₀) : Sound db :=
  (run.world h₀ (fun _ _ _ _ h hs => (serves_sound hs h).1) fun _ _ h ho => (ho.sound h).1).1

/-- Whoever runs an effect has been granted the lease. -/
theorem effect_acquired (run : Deployments permits changeId deploymentId calls db₀ db procs log)
    {k : κ} {w : Db} {i : Nat} {r : Except (ControlError β γ) β}
    (hmem : (k, ⟨w, .user (.effect i), r⟩) ∈ log) : HasAcquired k log := by
  have heach := (run.own_steps k).each
    (runControlledDeployment_meets _ (deployStep_atomic (β := β) (γ := γ))) Each.nil
  obtain ⟨before, after, hlog⟩ := List.append_of_mem (mem_own.mpr hmem)
  obtain ⟨⟨owner, token, -, hacquired, -⟩, -⟩ := heach before _ after hlog
  obtain ⟨w', a, row, hin, -⟩ := hacquired
  refine ⟨w', a, row, mem_own.mp ?_⟩
  rw [hlog]
  exact List.mem_append_left _ hin

/-- Once a call has been granted the lease, the identity is on record, and no other call
has been or is under way. -/
theorem granted_alone
    (run : Deployments (Alone fun k => (calls k).script changeId deploymentId) changeId deploymentId
      calls db₀ db procs log) (h₀ : Sound db₀) (k : κ) (hacquired : HasAcquired k log) :
    Recorded changeId deploymentId db ∧ ∀ k' ≠ k,
      (procs k' = (calls k').script changeId deploymentId ∨ ∃ r, procs k' = .done r) ∧
        ¬ HasAcquired k' log := by
  induction run generalizing k with
  | start =>
    obtain ⟨w, a, row, hmem⟩ := hacquired
    cases hmem
  | other before acts ih =>
    obtain ⟨hrecorded, hothers⟩ := ih k hacquired
    exact ⟨hrecorded.grow (acts.sound (deployments_sound before h₀)).2, hothers⟩
  | @move w w' procs log c next a m before at_call served permitted ih =>
    have hsound := deployments_sound before h₀
    -- the moving call stands at a call, so it has not ended
    have hmoving : ∀ r, procs m ≠ .done r := fun r hr => by
      rw [at_call] at hr
      cases hr
    obtain ⟨w₁, a₁, row₁, hmem⟩ := hacquired
    rcases List.mem_append.mp hmem with hmem | hmem
    · obtain ⟨hrecorded, hothers⟩ := ih k ⟨w₁, a₁, row₁, hmem⟩
      refine ⟨hrecorded.grow (serves_sound served hsound).2, fun k' hk' => ?_⟩
      obtain ⟨hstands, hnever⟩ := hothers k' hk'
      by_cases hm : k' = m
      · subst hm
        rcases hstands with hstart | ⟨r, hr⟩
        · obtain ⟨r, e, hevent, hnext, -⟩ :=
            script_turned_away (hstart.symm.trans at_call) served hrecorded
          rw [Function.update_self, hnext]
          refine ⟨Or.inr ⟨_, rfl⟩, ?_⟩
          rintro ⟨w₂, a₂, row₂, hmem₂⟩
          rcases List.mem_append.mp hmem₂ with hmem₂ | hmem₂
          · exact hnever ⟨w₂, a₂, row₂, hmem₂⟩
          · rw [hevent] at hmem₂
            cases List.mem_singleton.mp hmem₂
        · exact (hmoving r hr).elim
      · rw [Function.update_of_ne hm]
        refine ⟨hstands, ?_⟩
        rintro ⟨w₂, a₂, row₂, hmem₂⟩
        rcases List.mem_append.mp hmem₂ with hmem₂ | hmem₂
        · exact hnever ⟨w₂, a₂, row₂, hmem₂⟩
        · cases List.mem_singleton.mp hmem₂
          exact hm rfl
    · cases List.mem_singleton.mp hmem
      have hmeets := deployments_meets before m
      rw [at_call] at hmeets
      obtain ⟨l, hl, rfl⟩ := hmeets.1
      have hrecorded := serves_recorded hsound served
      rw [hl] at hrecorded
      refine ⟨hrecorded, fun k' hk' => ?_⟩
      rw [Function.update_of_ne hk']
      refine ⟨permitted trivial k' hk', ?_⟩
      rintro ⟨w₂, a₂, row₂, hmem₂⟩
      rcases List.mem_append.mp hmem₂ with hmem₂ | hmem₂
      · -- an earlier grant would have found this call not started
        rcases ((ih k' ⟨w₂, a₂, row₂, hmem₂⟩).2 m (Ne.symm hk')).1 with hstart | ⟨r, hr⟩
        · obtain ⟨next', hscript, -⟩ := script_checks (β := β) (γ := γ) db₀ (calls m)
          cases hscript.symm.trans (hstart.symm.trans at_call)
        · exact hmoving r hr
      · cases List.mem_singleton.mp hmem₂
        exact hk' rfl

/-- What becomes of another call after a grant: it never moves again, or its check is its
last call and it raises: the refusal, or what the read of the store raised. -/
def TurnedAway (start procs : κ → DeployScript β γ (List (EffectEvidence β γ))) (k : κ)
    (after : List (κ × DeployEvent β γ)) : Prop :=
  (own k after = [] ∧ (procs k = start k ∨ ∃ r, procs k = .done r)) ∨
  ∃ w r e, own k after = [⟨w, .writerEvents, r⟩] ∧ procs k = .done (.error e) ∧
    ((∃ detail, e = .control "CONTROLLED_DEPLOYMENT_RECONCILIATION_REQUIRED" detail) ∨ r = .error e)

theorem granted_turns_away
    (run : Deployments (Alone fun k => (calls k).script changeId deploymentId) changeId deploymentId
      calls db₀ db procs log) (h₀ : Sound db₀) {k : κ} {w : Db} {a : AcquireWriter}
    {row : GlobalWriterLease} {before after : List (κ × DeployEvent β γ)}
    (hlog : log = before ++ (k, ⟨w, .acquire a, .ok row⟩) :: after) {k' : κ} (hk : k' ≠ k) :
    TurnedAway (fun k => (calls k).script changeId deploymentId) procs k' after := by
  induction run generalizing after with
  | start =>
    cases before <;> cases hlog
  | other _ _ ih => exact ih hlog
  | @move v v' procs log c next answer m hrun at_call served permitted ih =>
    rcases List.eq_nil_or_concat after with rfl | ⟨after', p, rfl⟩
    · -- the grant is the call just served
      obtain ⟨rfl, hgrant⟩ := List.append_inj' hlog rfl
      cases hgrant
      rw [TurnedAway, Function.update_of_ne hk]
      exact Or.inl ⟨rfl, permitted trivial k' hk⟩
    · rw [List.concat_eq_append, ← List.cons_append, ← List.append_assoc] at hlog
      obtain ⟨hbefore, hlast⟩ := List.append_inj' hlog rfl
      cases hlast
      rw [List.concat_eq_append]
      by_cases hm : m = k'
      · subst hm
        rw [TurnedAway, own_append_self, Function.update_self]
        rcases ih hbefore with ⟨hnone, hstart | ⟨r, hr⟩⟩ | ⟨_, _, _, -, hdone, -⟩
        · have hrecorded := (granted_alone hrun h₀ k
            ⟨w, a, row, hbefore ▸ List.mem_append_right _ (List.mem_cons_self ..)⟩).1
          obtain ⟨r, e, hevent, hnext, hraised⟩ :=
            script_turned_away (hstart.symm.trans at_call) served hrecorded
          rw [hnone, hevent]
          exact Or.inr ⟨v, r, e, rfl, hnext, hraised⟩
        · cases hr.symm.trans at_call
        · cases hdone.symm.trans at_call
      · rw [TurnedAway, own_append_other hm, Function.update_of_ne (Ne.symm hm)]
        exact ih hbefore

/-- **A deployment runs once.** Any number of calls for one identity, on a database that
other parties use as well, each moving whenever it likes or never again. If every lease
is granted while each other call of the identity has not yet read the log or has ended,
then one call at most starts effects, and after a grant no other call does more than be
refused at its check. -/
theorem deployment_once (h₀ : Reachable db₀)
    (run : Deployments (Alone fun k => (calls k).script changeId deploymentId) changeId deploymentId
      calls db₀ db procs log) :
    (∀ (k k' : κ) (w w' : Db) (i i' : Nat) (r r' : Except (ControlError β γ) β),
      (k, ⟨w, .user (.effect i), r⟩) ∈ log → (k', ⟨w', .user (.effect i'), r'⟩) ∈ log → k = k') ∧
    ∀ (before after : List (κ × DeployEvent β γ)) (k : κ) (w : Db) (a : AcquireWriter)
      (row : GlobalWriterLease), log = before ++ (k, ⟨w, .acquire a, .ok row⟩) :: after →
      ∀ k' ≠ k, TurnedAway (fun k => (calls k).script changeId deploymentId) procs k' after ∧
        ∀ w i r, (k', ⟨w, .user (.effect i), r⟩) ∉ log := by
  have hsound := Sound.of_reachable h₀
  have hone : ∀ k, HasAcquired k log → ∀ k' ≠ k, ¬ HasAcquired k' log :=
    fun k hk k' hne => ((granted_alone run hsound k hk).2 k' hne).2
  refine ⟨fun k k' w w' i i' r r' hmem hmem' => ?_, fun before after k w a row hlog k' hne => ?_⟩
  · by_cases hk : k' = k
    · exact hk.symm
    · exact (hone k (effect_acquired run hmem) k' hk (effect_acquired run hmem')).elim
  · refine ⟨granted_turns_away run hsound hlog hne, fun w' i r hmem => ?_⟩
    have hacquired : HasAcquired k log :=
      ⟨w, a, row, hlog ▸ List.mem_append_right _ (List.mem_cons_self ..)⟩
    exact hone k hacquired k' hne (effect_acquired run hmem)

/-! ## Two attempts -/

/-- Two processes are asked for the same deployment. -/
abbrev twoCalls : Bool → DeploymentCall := fun _ => ⟨none, false, false, ["step"]⟩

abbrev TwoRuns (permits : (Bool → DeployScript Unit Unit (List (EffectEvidence Unit Unit))) → Bool →
      (c : ControlCall (DeployCall Unit Unit)) →
        Except (ControlError Unit Unit) (ControlAnswer DeployAnswer c) → Prop) (db : Db)
    (procs : Bool → DeployScript Unit Unit (List (EffectEvidence Unit Unit)))
    (log : List (Bool × DeployEvent Unit Unit)) : Prop :=
  Deployments permits "c" "d" twoCalls Db.init db procs log

theorem serves_check {db : Db} : @DeployServes Unit Unit db .writerEvents (.ok db.globalWriterEvent) db :=
  ⟨rfl, fun _ h => by cases h; rfl⟩

/-- The store after the first attempt. -/
abbrev firstDone : Db := freeDb 1 [acquiredEvent "1" 0, releasedByEvent "1" 1]

abbrev sampleLeased : DeployScript Unit Unit (List (EffectEvidence Unit Unit)) :=
  runLeased sampleDeployment (["step"].mapIdx deployStep) samplePersist

/-- The second attempt, after the first, has run its step. -/
theorem second_effect : ∃ p db made, sampleEffect (heldDb "2" 2 (firstDone.globalWriterEvent ++
      [acquiredEvent "2" 1])) ∈ made ∧
    Steps (traced DeployServes) sampleLeased (firstDone, []) p (db, made) := by
  obtain ⟨started, hnew⟩ := runs_newControlLease "2" firstDone
  obtain ⟨entries, henter⟩ := @runs_enter 1 "2" _ (by decide) (by decide) second_fits second_acquire_new
  obtain ⟨evidence, made, hmem, hbody⟩ := runs_underLease
    (@serves_held_current 2 "2" (firstDone.globalWriterEvent ++ [acquiredEvent "2" 1]) (by decide)
      second_fits)
  exact ⟨_, _, _, List.mem_append_right _ hmem, (hnew []).bind_of_ok.trans
    ((henter _).bind_of_ok.trans (hbody.attempt _).bind_of_ok)⟩

/-- Both check the log before either acquires; the first runs to its end, and then the
second acquires and runs the same step. -/
theorem deployment_twice : ∃ db procs log, TwoRuns (fun _ _ _ _ => True) db procs log ∧
    (∃ w, (true, sampleEffect w) ∈ log) ∧ ∃ w, (false, sampleEffect w) ∈ log := by
  obtain ⟨evidence, made, hmem, hfirst⟩ := first_leased
  obtain ⟨p, db, made', hmem', hsecond⟩ := second_effect
  have hchecks : TwoRuns (fun _ _ _ _ => True) Db.init _ _ :=
    (Interleaved.start.move false rfl serves_check trivial).move true
      (by rw [Function.update_of_ne (by decide)]; rfl) serves_check trivial
  obtain ⟨more, hmore, hrun⟩ := hchecks.advance true (fun _ _ _ => trivial) (hfirst [])
    (Function.update_self ..)
  obtain ⟨more', hmore', hrun'⟩ := hrun.advance false (fun _ _ _ => trivial) hsecond
    (by rw [Function.update_of_ne (by decide), Function.update_of_ne (by decide),
      Function.update_self]; rfl)
  obtain rfl : made = more := by simpa using hmore
  obtain rfl : made' = more' := by simpa using hmore'
  have htrue := List.mem_map_of_mem (f := fun e => (true, e)) hmem
  have hfalse := List.mem_map_of_mem (f := fun e => (false, e)) hmem'
  exact ⟨_, _, _, hrun', ⟨_, List.mem_append_left _ (List.mem_append_right _ htrue)⟩,
    ⟨_, List.mem_append_right _ hfalse⟩⟩

/-- A call that comes after the first is refused. -/
theorem deployment_once_refused : ∃ db procs log,
    TwoRuns (Alone fun k => (twoCalls k).script "c" "d") db procs log ∧
    (∃ w, (true, sampleEffect w) ∈ log) ∧ ∀ w i r, (false, ⟨w, .user (.effect i), r⟩) ∉ log := by
  obtain ⟨evidence, made, hmem, hfirst⟩ := first_leased
  have hcheck : TwoRuns (Alone fun k => (twoCalls k).script "c" "d") Db.init _ _ :=
    Interleaved.start.move true rfl serves_check fun h => h.elim
  obtain ⟨more, hmore, hrun⟩ := hcheck.advance true (fun q c a _ k hk => Or.inl (by
    rw [Function.update_of_ne hk, Function.update_of_ne hk])) (hfirst []) (Function.update_self ..)
  obtain rfl : made = more := by simpa using hmore
  have hrefused := hrun.move false (by
    rw [Function.update_of_ne (by decide), Function.update_of_ne (by decide)]; rfl) serves_check
      fun h => h.elim
  have htrue := List.mem_map_of_mem (f := fun e => (true, e)) hmem
  have hmem := List.mem_append_left [(false, (⟨firstDone, .writerEvents,
    .ok firstDone.globalWriterEvent⟩ : DeployEvent Unit Unit))]
      (List.mem_append_right [(true, (⟨Db.init, .writerEvents, .ok []⟩ : DeployEvent Unit Unit))] htrue)
  refine ⟨_, _, _, hrefused, ⟨_, hmem⟩, fun w i r hfalse => ?_⟩
  cases (deployment_once ⟨[], .start⟩ hrefused).1 true false _ w 0 i (.ok ()) r hmem hfalse

end Adcp.L5
