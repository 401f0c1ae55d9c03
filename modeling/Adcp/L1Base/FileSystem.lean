import Mathlib.Logic.Function.Basic
import Adcp.L1Base.Script

/-!
# Files

What a program sees of the files it works on: the bytes and the mode of every path, and the
calls of the operating system that read and change them. Directories and descriptors are no
part of the state; a call on one of them changes no file.

* `FileCall`, `Done`: the calls, and what each has done when it returns.
* `Serves`: a call that raises has changed nothing. `Faulty`: it may have done its work, or a
  part of a write, before it raised.
* `Changes`, `frame`: the paths that a call leaves alone.
-/
namespace Adcp.L1.FileSystem

abbrev Bytes : Type := List UInt8

structure File where
  bytes : Bytes
  mode : Nat
  deriving DecidableEq, Repr

/-- The files by their paths. -/
abbrev Files (κ : Type) : Type := κ → Option File

variable {κ : Type}

/-- The bytes of a path, if it is there. -/
def contents (files : Files κ) (p : κ) : Option Bytes := (files p).map (·.bytes)

/-! ## The calls -/

/-- `create` is `os.open` with `O_CREAT | O_EXCL`; a descriptor is named by the path that it was
opened for. -/
inductive FileCall (κ : Type) where
  | makeDirectory (p : κ)
  | create (p : κ) (mode : Nat)
  | openStream (p : κ)
  | write (p : κ) (payload : Bytes)
  | flush (p : κ)
  | fsync (p : κ)
  | close (p : κ)
  | chmod (p : κ) (mode : Nat)
  | replace (source target : κ)
  | unlink (p : κ)
  | openDirectory (p : κ)
  | fsyncDirectory (p : κ)
  | closeDirectory (p : κ)
  | lstat (p : κ)
  | exist (p : κ)
  | isSymlink (p : κ)
  | isFile (p : κ)
  | readBytes (p : κ)
  deriving DecidableEq

abbrev FileAnswer : FileCall κ → Type
  | .write .. => Nat
  | .lstat _ => Nat
  | .exist _ | .isSymlink _ | .isFile _ => Bool
  | .readBytes _ => Bytes
  | _ => Unit

variable [DecidableEq κ]

/-- The files after a call that has returned. The mode of a new file is the one asked for less
the process's mask; a directory may exist where no file does. -/
def Done (files : Files κ) : (c : FileCall κ) → FileAnswer c → Files κ → Prop
  | .create p _, _, files' =>
    files p = none ∧ ∃ mode, files' = Function.update files p (some ⟨[], mode⟩)
  | .write p payload, n, files' => ∃ f, files p = some f ∧ n = payload.length ∧
      files' = Function.update files p (some { f with bytes := f.bytes ++ payload })
  | .chmod p mode, _, files' => ∃ f, files p = some f ∧
      files' = Function.update files p (some { f with mode := mode })
  | .replace source target, _, files' => ∃ f, files source = some f ∧
      files' = Function.update (Function.update files source none) target (some f)
  | .unlink p, _, files' => (files p).isSome ∧ files' = Function.update files p none
  | .lstat p, mode, files' => (∃ f, files p = some f ∧ mode = f.mode) ∧ files' = files
  | .exist p, b, files' => ((files p).isSome → b = true) ∧ files' = files
  | .isFile p, b, files' => (files p).isSome = b ∧ files' = files
  | .readBytes p, bytes, files' => contents files p = some bytes ∧ files' = files
  | _, _, files' => files' = files

/-- What a call that has raised may have changed. -/
def Attempted (files : Files κ) (c : FileCall κ) (files' : Files κ) : Prop :=
  match c with
  | .write p _ => ∃ f bytes, files p = some f ∧
      files' = Function.update files p (some { f with bytes := bytes })
  | _ => ∃ a, Done files c a files'

variable {ε : Type}

/-- A call has its effect and returns, or raises without effect. -/
def Serves (files : Files κ) (c : FileCall κ) : Except ε (FileAnswer c) → Files κ → Prop
  | .ok a, files' => Done files c a files'
  | .error _, files' => files' = files

/-- As `Serves`; that a path is not found is raised only where nothing is there. -/
def Exact (notFound : ε → Bool) (files : Files κ) (c : FileCall κ) (a : Except ε (FileAnswer c))
    (files' : Files κ) : Prop :=
  Serves files c a files' ∧ match c, a with
    | .unlink p, .error e | .lstat p, .error e => notFound e = true → files p = none
    | _, _ => True

/-- A call may raise after its effect as well. -/
def Faulty (files : Files κ) (c : FileCall κ) : Except ε (FileAnswer c) → Files κ → Prop
  | .ok a, files' => Done files c a files'
  | .error _, files' => files' = files ∨ Attempted files c files'

/-! ## What a call leaves alone -/

/-- Which path a call may change. -/
def Changes (p : κ) : FileCall κ → Prop
  | .create q _ | .write q _ | .chmod q _ | .unlink q => p = q
  | .replace source target => p = source ∨ p = target
  | _ => False

theorem Done.frame {files files' : Files κ} {c : FileCall κ} {a : FileAnswer c} {p : κ}
    (h : Done files c a files') (hp : ¬ Changes p c) : files' p = files p := by
  cases c with
  | create q mode =>
    obtain ⟨-, mode, rfl⟩ := h
    exact Function.update_of_ne hp _ _
  | write q payload =>
    obtain ⟨f, -, -, rfl⟩ := h
    exact Function.update_of_ne hp _ _
  | chmod q mode =>
    obtain ⟨f, -, rfl⟩ := h
    exact Function.update_of_ne hp _ _
  | replace source target =>
    obtain ⟨f, -, rfl⟩ := h
    obtain ⟨hsource, htarget⟩ := not_or.mp hp
    rw [Function.update_of_ne htarget, Function.update_of_ne hsource]
  | unlink q =>
    obtain ⟨-, rfl⟩ := h
    exact Function.update_of_ne hp _ _
  | lstat q | exist q | isFile q | readBytes q => rw [h.2]
  | _ => exact congrFun h p

theorem Attempted.frame {files files' : Files κ} {c : FileCall κ} {p : κ}
    (h : Attempted files c files') (hp : ¬ Changes p c) : files' p = files p := by
  have hdone : ∀ c, ¬ Changes p c → (∃ a, Done files c a files') → files' p = files p := by
    rintro c hp ⟨a, ha⟩
    exact ha.frame hp
  cases c with
  | write q payload =>
    obtain ⟨f, bytes, -, rfl⟩ := h
    exact Function.update_of_ne hp _ _
  | _ => exact hdone _ hp h

theorem Faulty.frame {files files' : Files κ} {c : FileCall κ} {a : Except ε (FileAnswer c)} {p : κ}
    (h : Faulty files c a files') (hp : ¬ Changes p c) : files' p = files p := by
  cases a with
  | ok a => exact Done.frame h hp
  | error e =>
    rcases h with rfl | h
    · rfl
    · exact h.frame hp

end Adcp.L1.FileSystem
