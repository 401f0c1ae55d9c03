import Adcp.L1Base.Script

/-!
# Methods

A method of an object that calls outside: a program that reads and writes the object's
fields, which keep what was written to them when an exception leaves the method.

* `Method`: the monad, with `ask`, `raise`, `attempt` (what `try` does) and `each`.
* `Ensures`: what a method meets. `ensures_bind`, `ensures_ask`, … compute it along the
  method; `Ensures.ended` says what a finished run of it ends in.
-/
namespace Adcp.L1

/-- A method over the fields `σ`, the exceptions `ε` and the calls `ι`. -/
def Method (σ ε : Type) {ι : Type} (ρ : ι → Type) (α : Type) : Type :=
  σ → Script ε ρ (Except ε α × σ)

namespace Method

variable {σ ε ι α β ω : Type} {ρ : ι → Type}

/-! ## Building methods -/

/-- What follows a part of a method that has ended. -/
def andThen (f : α → Method σ ε ρ β) : Except ε α × σ → Script ε ρ (Except ε β × σ)
  | (.ok a, s) => f a s
  | (.error e, s) => pure (.error e, s)

instance : Monad (Method σ ε ρ) where
  pure a := fun s => pure (.ok a, s)
  bind m f := fun s => m s >>= andThen f

/-- Make the call. -/
def ask (c : ι) : Method σ ε ρ (ρ c) := fun s => .call c fun a => .done (.ok (a, s))

def raise (e : ε) : Method σ ε ρ α := fun s => pure (.error e, s)

/-- The fields. -/
def fields : Method σ ε ρ σ := fun s => pure (.ok s, s)

def modify (f : σ → σ) : Method σ ε ρ Unit := fun s => pure (.ok (), f s)

/-- A value, or an exception, that no call and no field has a part in. -/
def lift (x : Except ε α) : Method σ ε ρ α := fun s => pure (x, s)

/-- The method with its exception handed on as a value. -/
def attempt (m : Method σ ε ρ α) : Method σ ε ρ (Except ε α) := fun s =>
  m s >>= fun p => pure (.ok p.1, p.2)

/-- Each method of a list in turn. -/
def each (f : β → Method σ ε ρ Unit) : List β → Method σ ε ρ Unit
  | [] => pure ()
  | b :: bs => f b >>= fun _ => each f bs

/-! ## What a method ensures -/

/-- From the fields `s` in the state `w`, the method makes every call in a state that `ok`
allows, and ends as `post` says of its value or exception, its fields and the state. -/
def Ensures (serve : ω → (c : ι) → Except ε (ρ c) → ω → Prop) (ok : ω → ι → Prop)
    (m : Method σ ε ρ α) (post : Except ε α → σ → ω → Prop) (s : σ) (w : ω) : Prop :=
  Script.Meets serve ok (m s) (fun r w => ∃ a s', r = .ok (a, s') ∧ post a s' w) w

variable {serve : ω → (c : ι) → Except ε (ρ c) → ω → Prop} {ok : ω → ι → Prop}
  {post post' : Except ε α → σ → ω → Prop} {s : σ} {w : ω} {m : Method σ ε ρ α}

theorem ensures_returned {x : Except ε α} :
    Ensures serve ok (fun s => pure (x, s)) post s w ↔ post x s w := by
  constructor
  · rintro ⟨a, s', ha, hpost⟩
    cases ha
    exact hpost
  · intro hpost
    exact ⟨x, s, rfl, hpost⟩

theorem ensures_pure {a : α} : Ensures serve ok (pure a) post s w ↔ post (.ok a) s w :=
  ensures_returned

theorem ensures_raise {e : ε} : Ensures serve ok (raise e) post s w ↔ post (.error e) s w :=
  ensures_returned

theorem ensures_lift {x : Except ε α} : Ensures serve ok (lift x) post s w ↔ post x s w :=
  ensures_returned

theorem ensures_fields {post : Except ε σ → σ → ω → Prop} :
    Ensures serve ok fields post s w ↔ post (.ok s) s w := by
  constructor
  · rintro ⟨a, s', ha, hpost⟩
    cases ha
    exact hpost
  · intro hpost
    exact ⟨.ok s, s, rfl, hpost⟩

theorem ensures_modify {f : σ → σ} {post : Except ε Unit → σ → ω → Prop} :
    Ensures serve ok (modify f) post s w ↔ post (.ok ()) (f s) w := by
  constructor
  · rintro ⟨a, s', ha, hpost⟩
    cases ha
    exact hpost
  · intro hpost
    exact ⟨.ok (), f s, rfl, hpost⟩

theorem ensures_ask {c : ι} {post : Except ε (ρ c) → σ → ω → Prop} :
    Ensures serve ok (ask c) post s w ↔ ok w c ∧ ∀ a w', serve w c a w' → post a s w' := by
  refine and_congr_right fun _ => forall_congr' fun a => forall_congr' fun w' =>
    imp_congr_right fun _ => ?_
  constructor
  · rintro ⟨a', s', ha, hpost⟩
    cases ha
    exact hpost
  · intro hpost
    exact ⟨a, s, rfl, hpost⟩

theorem Ensures.mono (h : Ensures serve ok m post s w)
    (hle : ∀ r s w, post r s w → post' r s w) : Ensures serve ok m post' s w := by
  refine Script.Meets.mono h fun r w => ?_
  rintro ⟨a, s', ha, hpost⟩
  exact ⟨a, s', ha, hle a s' w hpost⟩

/-- The rule of a sequence: what the first part ends in, the rest starts from. -/
theorem Ensures.bind {f : α → Method σ ε ρ β} {mid : Except ε α → σ → ω → Prop}
    {post : Except ε β → σ → ω → Prop} (hm : Ensures serve ok m mid s w)
    (hf : ∀ a s w, mid (.ok a) s w → Ensures serve ok (f a) post s w)
    (he : ∀ e s w, mid (.error e) s w → post (.error e) s w) :
    Ensures serve ok (m >>= f) post s w := by
  refine Script.Meets.bind hm (fun p w hp => ?_) fun e w he => ?_
  · obtain ⟨r, s', hr, hmid⟩ := hp
    cases hr
    cases r with
    | ok a => exact hf a s' w hmid
    | error e => exact ensures_returned.mpr (he e s' w hmid)
  · obtain ⟨r, s', hr, -⟩ := he
    cases hr

theorem Ensures.attempt {post : Except ε (Except ε α) → σ → ω → Prop}
    (h : Ensures serve ok m (fun r s w => post (.ok r) s w) s w) :
    Ensures serve ok (attempt m) post s w := by
  refine Script.Meets.bind h (fun p w hp => ?_) fun e w he => ?_
  · obtain ⟨r, s', hr, hpost⟩ := hp
    cases hr
    exact ⟨.ok r, s', rfl, hpost⟩
  · obtain ⟨r, s', hr, -⟩ := he
    cases hr

/-- What follows a part that stands under `try` goes on from its value or its exception. -/
theorem Ensures.attemptBind {f : Except ε α → Method σ ε ρ β} {mid : Except ε α → σ → ω → Prop}
    {post : Except ε β → σ → ω → Prop} (h : Ensures serve ok m mid s w)
    (hf : ∀ r s w, mid r s w → Ensures serve ok (f r) post s w) :
    Ensures serve ok (Method.attempt m >>= f) post s w := by
  have hattempt : Ensures serve ok (Method.attempt m) (fun r s w => ∃ r', r = .ok r' ∧ mid r' s w)
      s w := Ensures.attempt (h.mono fun r s w hr => ⟨r, rfl, hr⟩)
  refine hattempt.bind ?_ ?_
  · rintro r s w ⟨r', hr, hmid⟩
    cases hr
    exact hf r s w hmid
  · rintro e s w ⟨r', hr, -⟩
    cases hr

/-- Every method of a list, from an invariant of the fields and states between them. -/
theorem Ensures.each {f : β → Method σ ε ρ Unit} {l : List β} {inv : List β → σ → ω → Prop}
    {fails : ε → σ → ω → Prop} (h : inv l s w)
    (hf : ∀ b bs s w, inv (b :: bs) s w → Ensures serve ok (f b) (fun r s w =>
      match r with
      | .ok _ => inv bs s w
      | .error e => fails e s w) s w) :
    Ensures serve ok (each f l) (fun r s w =>
      match r with
      | .ok _ => inv [] s w
      | .error e => fails e s w) s w := by
  induction l generalizing s w with
  | nil => exact ensures_pure.mpr h
  | cons b bs ih => exact (hf b bs s w h).bind (fun _ s w hw => ih hw) fun _ _ _ he => he

/-- What a finished run of the method ends in. -/
theorem Ensures.ended {r : Except ε (Except ε α × σ)} {w' : ω} (h : Ensures serve ok m post s w)
    (hs : Script.Steps serve (m s) w (.done r) w') : ∃ a s', r = .ok (a, s') ∧ post a s' w' :=
  Script.Meets.ended h hs

end Method

end Adcp.L1
