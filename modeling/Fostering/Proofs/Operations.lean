import Mathlib.Order.Defs.Unbundled
import Mathlib.Tactic.SplitIfs
import Fostering.Store.Op

/-!
# Operations, step by step

How to reason about an operation without opening the way it is put together.

* **Step by step**: `exec_bind_ok` and `exec_bind_error` carry out the first of two operations, and
  `exec_bind_eq_ok` takes a result of both apart; `exec_guard`, `exec_orRefuse_some`, `exec_orRefuse_none` and `exec_ofExcept` say what refuses.
* **Declining**: `Op.Declines` says that an operation comes to nothing through a fault of the caller.
* **As a whole**: an operation *keeps to* a relation between stores (`Op.KeepsTo`) if the store
  after it is always related to the store before it. For a preorder this passes from the parts of
  an operation to the whole (`keepsTo_bind`), so it serves both for invariants and for what an
  operation leaves alone.
-/

/-- What is refused about a value that may be absent is refused about a value that is there. -/
theorem Option.exists_of_mapM_eq_error {α β ε : Type} {f : α → Except ε β} {a? : Option α} {e : ε}
    (h : a?.mapM f = .error e) : ∃ a ∈ a?, f a = .error e := by
  rcases a? with _ | a
  · cases h
  · refine ⟨a, rfl, ?_⟩
    rcases hf : f a with e' | b
    · rw [Option.mapM_some, hf] at h
      cases h
      rfl
    · rw [Option.mapM_some, hf] at h
      cases h

namespace Fostering.Op

variable {σ α β : Type}

/-! ## One operation after another -/

/-- After a first operation that gave a result, the second one goes on. -/
theorem exec_bind_ok {op : Op σ α} {f : α → Op σ β} {t : Instant} {s s' : σ} {a : α}
    (h : op.exec t s = (.ok a, s')) : (op >>= f).exec t s = (f a).exec t s' := by
  rw [exec_bind, h]

/-- After a first operation that was refused, nothing goes on. -/
theorem exec_bind_error {op : Op σ α} {f : α → Op σ β} {t : Instant} {s s' : σ} {cause : Error}
    (h : op.exec t s = (.error cause, s')) : (op >>= f).exec t s = (.error cause, s') := by
  rw [exec_bind, h]

/-- Two operations that together give a result give one each. -/
theorem exec_bind_eq_ok {op : Op σ α} {f : α → Op σ β} {t : Instant} {s s' : σ} {b : β}
    (h : (op >>= f).exec t s = (.ok b, s')) :
    ∃ a s₁, op.exec t s = (.ok a, s₁) ∧ (f a).exec t s₁ = (.ok b, s') := by
  rw [exec_bind] at h
  rcases hop : op.exec t s with ⟨cause | a, s₁⟩
  · rw [hop] at h
    cases h
  · rw [hop] at h
    exact ⟨a, s₁, rfl, h⟩

/-- The store after two operations: what the first one left if it was refused, and otherwise what
the second one left. -/
theorem exec_bind_snd (op : Op σ α) (f : α → Op σ β) (t : Instant) (s : σ) :
    ((op >>= f).exec t s).2 = (op.exec t s).2 ∨
      ∃ a, (op.exec t s).1 = .ok a ∧ ((op >>= f).exec t s).2 = ((f a).exec t (op.exec t s).2).2 := by
  rw [exec_bind]
  rcases op.exec t s with ⟨cause | a, s₁⟩
  · exact .inl rfl
  · exact .inr ⟨a, rfl, rfl⟩

/-! ## Refusing -/

/-- A condition that fails is the cause of a refusal, and nothing is changed either way. -/
theorem exec_guard (condition : Bool) (cause : Error) (t : Instant) (s : σ) :
    (guard condition cause).exec t s = if condition then (.ok (), s) else (.error cause, s) := by
  cases condition <;> rfl

/-- What holds is let pass. -/
theorem exec_guard_of_true {condition : Bool} (h : condition = true) (cause : Error) (t : Instant)
    (s : σ) : (guard condition cause).exec t s = (.ok (), s) := by
  rw [exec_guard, if_pos h]

/-- What does not hold is refused. -/
theorem exec_guard_of_false {condition : Bool} (h : condition = false) (cause : Error) (t : Instant)
    (s : σ) : (guard condition cause).exec t s = (.error cause, s) := by
  rw [exec_guard, h, if_neg Bool.false_ne_true]

/-- A condition that was not refused holds. -/
theorem exec_guard_eq_ok {condition : Bool} {cause : Error} {t : Instant} {s s' : σ} {u : Unit}
    (h : (guard condition cause).exec t s = (.ok u, s')) : condition = true ∧ s' = s := by
  rw [exec_guard] at h
  cases condition with
  | false => cases h
  | true =>
      cases h
      exact ⟨rfl, rfl⟩

/-- What is there is handed on. -/
@[simp] theorem exec_orRefuse_some (cause : Error) (a : α) (t : Instant) (s : σ) :
    (orRefuse cause (some a)).exec t s = (.ok a, s) := rfl

/-- What is absent is refused. -/
@[simp] theorem exec_orRefuse_none (cause : Error) (t : Instant) (s : σ) :
    (orRefuse cause none : Op σ α).exec t s = (.error cause, s) := rfl

/-- A verdict is handed on, and nothing is changed. -/
@[simp] theorem exec_ofExcept (r : Except Error α) (t : Instant) (s : σ) :
    (ofExcept r).exec t s = (r, s) := by
  cases r <;> rfl

/-- A verdict that was handed on was a good one. -/
theorem exec_ofExcept_eq_ok {r : Except Error α} {t : Instant} {s s' : σ} {a : α}
    (h : (ofExcept r).exec t s = (.ok a, s')) : r = .ok a ∧ s' = s := by
  rw [exec_ofExcept] at h
  cases h
  exact ⟨rfl, rfl⟩

/-! ## Declining -/

/-- An operation declines: it is refused for a fault of the caller, and the store is as it was. -/
def Declines (op : Op σ α) (t : Instant) (s : σ) : Prop :=
  ∃ cause : Error, cause.status < 500 ∧ op.exec t s = (.error cause, s)

section

variable {op : Op σ α} {t : Instant} {s : σ} {cause : Error}

/-- An operation that is refused for a fault of the caller, and changes nothing, declines. -/
theorem declines_of_exec (hcause : cause.status < 500) (h : op.exec t s = (.error cause, s)) :
    op.Declines t s :=
  ⟨cause, hcause, h⟩

/-- What declines leaves the store as it was. -/
theorem Declines.snd_eq (h : op.Declines t s) : (op.exec t s).2 = s := by
  obtain ⟨cause, -, heq⟩ := h
  rw [heq]

/-- A condition declines if it does not hold and the caller is to blame for that. -/
theorem declines_guard {condition : Bool} (hcause : cause.status < 500) (h : condition = false) :
    (guard condition cause : Op σ Unit).Declines t s :=
  ⟨cause, hcause, exec_guard_of_false h cause t s⟩

/-- What declines at its first step declines. -/
theorem Declines.bind (h : op.Declines t s) (f : α → Op σ β) : (op >>= f).Declines t s := by
  obtain ⟨cause, hcause, heq⟩ := h
  exact ⟨cause, hcause, exec_bind_error heq⟩

/-- What does the same as an operation that declines declines. -/
theorem Declines.congr {op' : Op σ α} (heq : op.exec t s = op'.exec t s) (h : op'.Declines t s) :
    op.Declines t s := by
  obtain ⟨cause, hcause, hexec⟩ := h
  exact ⟨cause, hcause, heq.trans hexec⟩

/-- What declines after a step that left the store alone declines. -/
theorem Declines.after {f : α → Op σ β} {a : α} (hop : op.exec t s = (.ok a, s))
    (h : (f a).Declines t s) : (op >>= f).Declines t s :=
  .congr (exec_bind_ok hop) h

/-- A result that was found without the store is there, or the operation declines. -/
theorem ofExcept_cases (r : Except Error α) (h : ∀ cause, r = .error cause → cause.status < 500)
    (t : Instant) (s : σ) :
    (ofExcept r : Op σ α).Declines t s ∨
      ∃ a, r = .ok a ∧ (ofExcept r : Op σ α).exec t s = (.ok a, s) := by
  cases r with
  | error cause => exact .inl ⟨cause, h cause rfl, rfl⟩
  | ok a => exact .inr ⟨a, rfl, rfl⟩

end

/-! ## What an operation keeps to -/

/-- An operation keeps to a relation if the store after it is always related to the store before
it, whatever comes of it. -/
def KeepsTo (R : σ → σ → Prop) (op : Op σ α) : Prop := ∀ t s, R s (op.exec t s).2

variable {R Q : σ → σ → Prop}

theorem KeepsTo.mono {op : Op σ α} (h : op.KeepsTo R) (hRQ : ∀ {s s'}, R s s' → Q s s') :
    op.KeepsTo Q := fun t s => hRQ (h t s)

/-- What leaves the store alone keeps to every reflexive relation. -/
theorem keepsTo_of_exec_snd [Std.Refl R] {op : Op σ α} (h : ∀ t s, (op.exec t s).2 = s) :
    op.KeepsTo R := by
  intro t s
  rw [h]
  exact Std.Refl.refl s

/-- A result that is there already changes nothing. -/
theorem keepsTo_pure [Std.Refl R] (a : α) : (pure a : Op σ α).KeepsTo R :=
  keepsTo_of_exec_snd fun _ _ => rfl

/-- Looking at the store changes nothing. -/
theorem keepsTo_look [Std.Refl R] (f : σ → α) : (look f).KeepsTo R :=
  keepsTo_of_exec_snd fun _ _ => rfl

theorem keepsTo_now [Std.Refl R] : (now : Op σ Instant).KeepsTo R :=
  keepsTo_of_exec_snd fun _ _ => rfl

theorem keepsTo_refuse [Std.Refl R] (cause : Error) : (refuse cause : Op σ α).KeepsTo R :=
  keepsTo_of_exec_snd fun _ _ => rfl

theorem keepsTo_guard [Std.Refl R] (condition : Bool) (cause : Error) :
    (guard condition cause : Op σ Unit).KeepsTo R := by
  cases condition
  · exact keepsTo_refuse cause
  · exact keepsTo_pure ()

theorem keepsTo_orRefuse [Std.Refl R] (cause : Error) (a? : Option α) :
    (orRefuse cause a? : Op σ α).KeepsTo R := by
  cases a? with
  | none => exact keepsTo_refuse cause
  | some a => exact keepsTo_pure a

/-- What both of two operations keep to, they keep to together. -/
theorem keepsTo_bind [IsTrans σ R] {op : Op σ α} {f : α → Op σ β} (h : op.KeepsTo R)
    (hf : ∀ a, (f a).KeepsTo R) : (op >>= f).KeepsTo R := by
  intro t s
  rcases exec_bind_snd op f t s with heq | ⟨a, -, heq⟩
  · rw [heq]
    exact h t s
  · rw [heq]
    exact IsTrans.trans _ _ _ (h t s) (hf a t _)

end Fostering.Op
