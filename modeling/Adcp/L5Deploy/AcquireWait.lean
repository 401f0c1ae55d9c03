import Adcp.L1Base.Transcript
import Adcp.L5Deploy.ControlledDeployment

/-!
# The bounded wait for the writer lease

Whatever the store and the clock answer, the wait makes a bounded number of attempts before a
deadline. The calls are noted as they are made (`WaitNotes`), and what may be called next is said
of the notes.

* `Allowed`: the attempts, the sleeps and the revalidations that the notes leave room for.
* `acquireWithOptionalWait_bounded`: every call of every transcript is allowed, and the result is
  the one of the last attempt.
-/
namespace Adcp.L5.AcquireWait

open Adcp.L1 Adcp.L2 Adcp.L3 Script

variable {χ : Type} {answer : χ → Type} {β γ : Type}

/-- A call of a deployment with its answer. -/
abbrev ControlEvent (answer : χ → Type) (β γ : Type) : Type :=
  Answered (ControlError β γ) (ControlAnswer answer)

/-- The first and the last reading of the clock, the attempts, the time slept, whether the source
authority was revalidated since the last attempt, and what the last attempt has settled. -/
structure WaitNotes (β γ : Type) where
  started : Option Int := none
  read : Option Int := none
  attempts : Nat := 0
  slept : Int := 0
  revalidated : Bool := true
  settled : Option (Except (ControlError β γ) GlobalWriterLease) := none

/-- An attempt settles the wait unless it finds the lease held. -/
def settles (a : Except (ControlError β γ) GlobalWriterLease) :
    Option (Except (ControlError β γ) GlobalWriterLease) :=
  match a with
  | .ok row => some (.ok row)
  | .error e => if ControlLease.heldByOther e then none else some (.error e)

theorem settles_error (e : ControlError β γ) : settles (.error e) =
    if ControlLease.heldByOther e then none else some (.error e) := rfl

def WaitNotes.note (s : WaitNotes β γ) : ControlEvent answer β γ → WaitNotes β γ
  | ⟨.monotonic, .ok t⟩ => { s with started := s.started.or (some t), read := some t }
  | ⟨.acquire _, a⟩ =>
    { s with attempts := s.attempts + 1, revalidated := false, settled := settles a }
  | ⟨.sleep delay, _⟩ => { s with slept := s.slept + delay }
  | ⟨.revalidate, .ok _⟩ => { s with revalidated := true }
  | _ => s

/-- The last reading of the clock is before the deadline. -/
def WaitNotes.Early (s : WaitNotes β γ) : Prop :=
  ∃ start now, s.started = some start ∧ s.read = some now ∧
    now < start + acquireWaitDeadlineNanoseconds

/-- What may be called next. -/
def Allowed (l : ControlLease) (s : WaitNotes β γ) : ControlCall χ → Prop
  | .acquire a => s.settled = none ∧ a = l.acquireRequest ∧ s.attempts < acquireMaxAttempts ∧
      s.revalidated = true ∧ s.Early
  | .sleep delay => s.settled = none ∧ 0 < delay ∧
      s.slept + delay ≤ acquireWaitDeadlineNanoseconds
  | .monotonic | .revalidate => s.settled = none
  | _ => False

/-- The wait ends as the last attempt has settled it, and returns only what an attempt has. -/
def Settled (r : Except (ControlError β γ) GlobalWriterLease) (s : WaitNotes β γ) : Prop :=
  (∀ settled, s.settled = some settled → r = settled) ∧
    ∀ row, r = .ok row → s.settled = some (.ok row)

/-! ## Between the attempts -/

/-- After `made` attempts and `sleeps` sleeps, nothing being settled. -/
structure Waiting (deadline : Int) (made sleeps : Nat) (s : WaitNotes β γ) : Prop where
  deadline : ∃ start, s.started = some start ∧ deadline = start + acquireWaitDeadlineNanoseconds
  attempts : s.attempts = made
  slept : s.slept ≤ sleeps * acquireRetryIntervalNanoseconds
  unsettled : s.settled = none

/-- The next attempt may be made. -/
structure Ready (deadline : Int) (made : Nat) (s : WaitNotes β γ) : Prop where
  waiting : Waiting deadline made made s
  revalidated : s.revalidated = true
  early : s.Early

/-- A program of the wait, from the notes `s`. -/
abbrev WaitMeets {α : Type} (l : ControlLease) (x : ControlScript answer β γ α)
    (post : Except (ControlError β γ) α → WaitNotes β γ → Prop) (s : WaitNotes β γ) : Prop :=
  Meets (noting WaitNotes.note) (Allowed l) x post s

variable {l : ControlLease} {deadline : Int} {made sleeps : Nat} {s : WaitNotes β γ}

/-- An error that no attempt has settled. -/
theorem settled_error (h : s.settled = none) (e : ControlError β γ) :
    Settled (.error e) s := by
  refine ⟨fun settled hs => ?_, fun row hr => nomatch hr⟩
  rw [h] at hs
  exact nomatch hs

/-- A part of the wait: the wait goes on as `P` says, or ends with an error of its own. -/
def GoesOn {α : Type} (P : α → WaitNotes β γ → Prop) :
    Except (ControlError β γ) α → WaitNotes β γ → Prop
  | .ok a, s => P a s
  | .error e, s => Settled (.error e) s

theorem waitRequire_meets {c : Prop} [Decidable c] {P : Unit → WaitNotes β γ → Prop}
    (h : s.settled = none) (hc : c → P () s) :
    WaitMeets l (ControlLease.waitRequire c made : ControlScript answer β γ _) (GoesOn P) s :=
  meets_require.mpr ⟨hc, fun _ => settled_error h _⟩

/-- A reading of the clock. -/
theorem monotonic_meets (h : Waiting deadline made sleeps s) {P : Int → WaitNotes β γ → Prop}
    (hP : ∀ now s', Waiting deadline made sleeps s' → s'.revalidated = s.revalidated →
      (now < deadline → s'.Early) → P now s') :
    WaitMeets l (ask .monotonic : ControlScript answer β γ _) (GoesOn P) s := by
  refine ⟨h.unsettled, fun a s' hs => ?_⟩
  have hs' : s' = s.note ⟨.monotonic, a⟩ := hs
  subst hs'
  obtain ⟨start, hstart, rfl⟩ := h.deadline
  cases a with
  | error e => exact settled_error h.unsettled e
  | ok now =>
    have hkept : s.started.or (some now) = some start := by
      rw [hstart]
      rfl
    refine hP now _ ⟨⟨start, hkept, rfl⟩, h.attempts, h.slept, h.unsettled⟩ rfl fun hnow => ?_
    exact ⟨start, now, hkept, rfl, hnow⟩

theorem beforeAttempt_meets (h : Waiting deadline made made s) (hvalid : s.revalidated = true)
    (hfirst : made = 0 → s.Early) :
    WaitMeets l (ControlLease.beforeAttempt deadline made : ControlScript answer β γ _)
      (GoesOn fun _ => Ready deadline made) s := by
  unfold ControlLease.beforeAttempt
  split_ifs with hmade
  · refine (monotonic_meets h fun now s' hw hr he => ?_).bind (fun now s' hs' => hs')
      fun e s' hs' => hs'
    exact waitRequire_meets hw.unsettled fun hnow => ⟨hw, hr.trans hvalid, he hnow⟩
  · exact meets_pure.mpr ⟨h, hvalid, hfirst (by omega)⟩

/-- The interval is slept at most as often as the deadline allows. -/
theorem slept_le {slept delay : Int} (hmade : made + 1 < acquireMaxAttempts)
    (hslept : slept ≤ made * acquireRetryIntervalNanoseconds)
    (hdelay : delay ≤ acquireRetryIntervalNanoseconds) :
    slept + delay ≤ (made + 1 : Nat) * acquireRetryIntervalNanoseconds ∧
      slept + delay ≤ acquireWaitDeadlineNanoseconds := by
  unfold acquireMaxAttempts at hmade
  unfold acquireRetryIntervalNanoseconds at hslept hdelay ⊢
  unfold acquireWaitDeadlineNanoseconds
  omega

theorem sleep_meets {delay : Int} (h : Waiting deadline (made + 1) made s) (hdelay : 0 < delay)
    (hnext : s.slept + delay ≤ (made + 1 : Nat) * acquireRetryIntervalNanoseconds)
    (htotal : s.slept + delay ≤ acquireWaitDeadlineNanoseconds) :
    WaitMeets l (ask (.sleep delay) : ControlScript answer β γ Unit)
      (GoesOn fun _ s' => Waiting deadline (made + 1) (made + 1) s') s := by
  refine ⟨⟨h.unsettled, hdelay, htotal⟩, fun a s' hs' => ?_⟩
  have hslept : s' = s.note (⟨.sleep delay, a⟩ : ControlEvent answer β γ) := hs'
  subst hslept
  cases a with
  | error e => exact settled_error h.unsettled e
  | ok _ => exact ⟨h.deadline, h.attempts, hnext, h.unsettled⟩

theorem beforeRetry_meets (h : Waiting deadline (made + 1) made s) :
    WaitMeets l (ControlLease.beforeRetry deadline (made + 1) : ControlScript answer β γ _)
      (GoesOn fun _ s' => Waiting deadline (made + 1) (made + 1) s' ∧ s'.revalidated = true) s := by
  unfold ControlLease.beforeRetry
  refine (monotonic_meets h fun now s₁ hw _ _ => ?_).bind (fun _ _ h => h) fun _ _ h => h
  refine (waitRequire_meets hw.unsettled fun hroom => ?_).bind (fun _ _ h => h) fun _ _ h => h
  refine (waitRequire_meets hw.unsettled fun hdelay => ?_).bind (fun _ _ h => h) fun _ _ h => h
  obtain ⟨hnext, htotal⟩ := slept_le hroom.1 hw.slept (Int.min_le_left _ (deadline - now))
  refine (sleep_meets hw hdelay hnext htotal).bind (fun _ s₂ hw => ?_) fun _ _ h => h
  refine (monotonic_meets hw fun now s₃ hw _ _ => ?_).bind (fun _ _ h => h) fun _ _ h => h
  refine (waitRequire_meets hw.unsettled fun _ => ?_).bind (fun _ _ h => h) fun _ _ h => h
  refine ⟨hw.unsettled, fun a s₄ hs₄ => ?_⟩
  have hvalid : s₄ = s₃.note ⟨.revalidate, a⟩ := hs₄
  subst hvalid
  cases a with
  | error e => exact settled_error hw.unsettled e
  | ok _ => exact ⟨⟨hw.deadline, hw.attempts, hw.slept, hw.unsettled⟩, rfl⟩

/-! ## The wait -/

/-- An attempt settles the wait, or the lease is held by another. -/
theorem acquireRetry_meets {left : Nat} (hleft : made + left = acquireMaxAttempts)
    (h : Waiting deadline made made s) (hvalid : s.revalidated = true)
    (hfirst : made = 0 → s.Early) :
    WaitMeets l (l.acquireRetry deadline made left : ControlScript answer β γ _) Settled s := by
  induction left generalizing made s with
  | zero => exact settled_error h.unsettled _
  | succ left ih =>
    refine (beforeAttempt_meets h hvalid hfirst).bind (fun _ s₁ hready => ?_) fun _ _ h => h
    have hroom : s₁.attempts < acquireMaxAttempts := by
      rw [hready.waiting.attempts]
      omega
    have hattempt : WaitMeets l (l.acquireOnce : ControlScript answer β γ _)
        (fun a s₂ => s₂ = s₁.note (⟨.acquire l.acquireRequest, a⟩ : ControlEvent answer β γ)) s₁ :=
      ⟨⟨hready.waiting.unsettled, rfl, hroom, hready.revalidated, hready.early⟩,
        fun a s₂ hs₂ => hs₂⟩
    refine hattempt.attemptBind fun a s₂ hs₂ => ?_
    subst hs₂
    cases a with
    | ok row => exact ⟨fun _ hs => (Option.some.inj hs).symm ▸ rfl, fun _ hr => hr ▸ rfl⟩
    | error e =>
      cases hheld : ControlLease.heldByOther e with
      | false =>
        have hsettled : settles (Except.error e) = some (.error e) := by
          rw [settles_error, hheld]
          rfl
        simp only [hheld, Bool.false_eq_true, if_false]
        refine meets_fail.mpr ⟨fun settled hs => ?_, fun row hr => nomatch hr⟩
        exact Option.some.inj (hsettled.symm.trans hs)
      | true =>
        have hunsettled : settles (Except.error e) = none := by
          rw [settles_error, hheld]
          rfl
        have hw := hready.waiting
        have hheldNow : Waiting deadline (made + 1) made
            (s₁.note (⟨.acquire l.acquireRequest, .error e⟩ : ControlEvent answer β γ)) :=
          ⟨hw.deadline, congrArg (· + 1) hw.attempts, hw.slept, hunsettled⟩
        simp only [hheld, if_true]
        refine (beforeRetry_meets hheldNow).bind (fun _ s₃ hs₃ => ?_) fun _ _ h => h
        exact ih (by omega) hs₃.1 hs₃.2 fun hzero => nomatch hzero

/-- The notes of a log. -/
def notes (log : List (ControlEvent answer β γ)) : WaitNotes β γ := log.foldl WaitNotes.note {}

/-- **The wait is bounded.** With the bounded wait every call is allowed by those before it, and the
result is what the last attempt has settled; without it there is one attempt. -/
theorem acquireWithOptionalWait_bounded (l : ControlLease)
    (log : List (ControlEvent answer β γ)) (r : Except (ControlError β γ) GlobalWriterLease)
    (h : Transcript l.acquireWithOptionalWait log r) :
    (l.deployment.boundedAcquireWait = true →
      (∀ before e after, log = before ++ e :: after → Allowed l (notes before) e.made) ∧
        Settled r (notes log)) ∧
    (l.deployment.boundedAcquireWait = false → log = [⟨.acquire l.acquireRequest, r⟩]) := by
  unfold ControlLease.acquireWithOptionalWait at h
  refine ⟨fun hbounded => ?_, fun hsingle => ?_⟩
  · rw [if_pos hbounded] at h
    have hmeets : WaitMeets l ((ask .monotonic : ControlScript answer β γ _) >>= fun now =>
        l.acquireRetry (now + acquireWaitDeadlineNanoseconds) 0 acquireMaxAttempts) Settled
        ({} : WaitNotes β γ) := by
      have hstart : WaitMeets l (ask .monotonic : ControlScript answer β γ _)
          (GoesOn fun start s => s = { started := some start, read := some start })
          ({} : WaitNotes β γ) := by
        refine ⟨rfl, fun a s hs => ?_⟩
        have hs' : s = ({} : WaitNotes β γ).note ⟨.monotonic, a⟩ := hs
        subst hs'
        cases a with
        | error e => exact settled_error rfl e
        | ok start => rfl
      refine hstart.bind (fun start s hs => ?_) fun _ _ h => h
      have hs' : s = { started := some start, read := some start } := hs
      subst hs'
      have hlate : start < start + acquireWaitDeadlineNanoseconds :=
        Int.lt_add_of_pos_right start (by decide)
      exact acquireRetry_meets (Nat.zero_add _) ⟨⟨start, rfl, rfl⟩, rfl, Int.le_refl 0, rfl⟩ rfl
        fun _ => ⟨start, start, rfl, rfl, hlate⟩
    exact hmeets.transcript h
  · rw [if_neg (by rw [hsingle]; exact Bool.false_ne_true)] at h
    exact transcript_invoke.mp h

/-! ## Held once -/

/-- The lease is held at first, and the clock stands still. -/
def heldOnce (row : GlobalWriterLease) : List (ControlEvent (fun _ : Unit => Unit) Unit Unit) →
    (c : ControlCall Unit) → Except (ControlError Unit Unit) (ControlAnswer (fun _ => Unit) c)
  | _, .monotonic => .ok 0
  | before, .acquire _ =>
    if before.length ≤ 1 then
      .error (.raised (.store "GLOBAL_PRODUCTION_WRITER_HELD" ""))
    else .ok row
  | _, .sleep _ | _, .revalidate => .ok ()
  | _, _ => .error (.control "" "")

def sampleGrant : GlobalWriterLease := freedLease 1 ⟨0, by decide⟩

def sampleLease : ControlLease :=
  ⟨⟨"change", "unit", none, false, true⟩, "owner", "attempt", "acquire", "release"⟩

/-- The second attempt is granted, half a second after the first. -/
theorem acquireWithOptionalWait_heldOnce : ∃ log,
    (∀ before e after, log = before ++ e :: after →
      Allowed sampleLease (notes before) (e : ControlEvent (fun _ : Unit => Unit) Unit Unit).made) ∧
    Settled (.ok (sampleGrant)) (notes log) := by
  obtain ⟨⟨log, r⟩, hrun, hr⟩ := Option.map_eq_some_iff.mp
    (show (rehearse (heldOnce (sampleGrant)) 8 sampleLease.acquireWithOptionalWait []).map
      Prod.snd = some (.ok (sampleGrant)) from rfl)
  obtain rfl : r = .ok (sampleGrant) := hr
  exact ⟨log, (acquireWithOptionalWait_bounded sampleLease log _ (rehearse_transcript hrun)).1 rfl⟩

end Adcp.L5.AcquireWait
