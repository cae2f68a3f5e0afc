import Fostering.Error
import Fostering.Time.Instant

/-!
# Operations on a store

An operation happens at an instant and either gives a result or is refused. What it changed before
it was refused stays changed: a store that undoes such changes has to say so itself.
-/

namespace Fostering

/-- An operation on a store of type `σ`, at an instant. -/
abbrev Op (σ : Type) : Type → Type := ReaderT Instant (ExceptT Error (StateM σ))

namespace Op

variable {σ α : Type}

/-- Carries an operation out: its result or the refusal, and the store after it. -/
def exec (op : Op σ α) (now : Instant) (s : σ) : Except Error α × σ := op now s

/-- Looks at the store. -/
def look (f : σ → α) : Op σ α := fun _ s => (.ok (f s), s)

/-- Changes the store. -/
def change (f : σ → σ) : Op σ Unit := fun _ s => (.ok (), f s)

/-- Refuses. -/
def refuse (cause : Error) : Op σ α := fun _ s => (.error cause, s)

/-- Goes on with the value, or refuses where there is none. -/
def orRefuse (cause : Error) : Option α → Op σ α
  | some a => pure a
  | none => refuse cause

/-- Goes on with a result that was found without the store. -/
def ofExcept : Except Error α → Op σ α
  | .ok a => pure a
  | .error cause => refuse cause

/-- Refuses unless a condition holds. -/
def guard (condition : Bool) (cause : Error) : Op σ Unit :=
  if condition then pure () else refuse cause

/-- The instant at which the operation happens. -/
def now : Op σ Instant := fun t s => (.ok t, s)

@[simp] theorem exec_pure (a : α) (t : Instant) (s : σ) : (pure a : Op σ α).exec t s = (.ok a, s) :=
  rfl

@[simp] theorem exec_look (f : σ → α) (t : Instant) (s : σ) : (look f).exec t s = (.ok (f s), s) :=
  rfl

@[simp] theorem exec_change (f : σ → σ) (t : Instant) (s : σ) :
    (change f).exec t s = (.ok (), f s) := rfl

@[simp] theorem exec_refuse (cause : Error) (t : Instant) (s : σ) :
    (refuse cause : Op σ α).exec t s = (.error cause, s) := rfl

@[simp] theorem exec_now (t : Instant) (s : σ) : (now : Op σ Instant).exec t s = (.ok t, s) := rfl

/-- One operation after another: the second one happens on the store that the first one left, and
only if the first one was not refused. -/
theorem exec_bind {β : Type} (op : Op σ α) (f : α → Op σ β) (t : Instant) (s : σ) :
    (op >>= f).exec t s =
      match op.exec t s with
      | (.ok a, s') => (f a).exec t s'
      | (.error cause, s') => (.error cause, s') := by
  unfold exec
  simp only [bind, ReaderT.bind, ExceptT.bind, ExceptT.mk, StateT.bind, ExceptT.bindCont]
  cases op t s with
  | mk r s' => cases r <;> rfl

end Op

end Fostering
