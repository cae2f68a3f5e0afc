import Fostering.Proofs.Calls
import Fostering.Proofs.Coupling

/-!
# Operations that mirror each other

An operation *mirrors* another (`Op.Mirrors`) if, started at one instant on related stores, the two come to
the same refusal or to related results, and leave related stores: on all such stores they are coupled
(`mirrors_iff_couples`). It is the binary form of `Op.KeepsTo`, and passes from the parts of two operations to
the whole (`Mirrors.bind`). An operation that mirrors itself with equal results cannot tell related stores
apart (`Op.Overlooks`).

* `MadeOf.overlooks`: what none of its calls can tell apart, an operation cannot tell apart.
-/

namespace Fostering.Op

variable {σ τ α β γ δ : Type}

/-- Two outcomes agree: the same refusal, or results that are related. -/
inductive Agree (V : α → β → Prop) : Except Error α → Except Error β → Prop where
  | refused (cause : Error) : Agree V (.error cause) (.error cause)
  | ok {a : α} {b : β} (h : V a b) : Agree V (.ok a) (.ok b)

theorem Agree.mono {V W : α → β → Prop} {r : Except Error α} {r' : Except Error β}
    (h : Agree V r r') (hVW : ∀ a b, V a b → W a b) : Agree W r r' := by
  cases h with
  | refused cause => exact .refused cause
  | ok h => exact .ok (hVW _ _ h)

/-- Outcomes agree on equal results if they are equal. -/
theorem agree_eq_iff {r r' : Except Error α} : Agree Eq r r' ↔ r = r' := by
  constructor
  · rintro (cause | rfl)
    · rfl
    · rfl
  · rintro rfl
    cases r with
    | error cause => exact .refused cause
    | ok a => exact .ok rfl

/-- Two operations that come to outcomes that agree, and leave related stores, whenever they are
started on related stores. -/
def Mirrors (R : σ → τ → Prop) (V : α → β → Prop) (op : Op σ α) (op' : Op τ β) : Prop :=
  ∀ t s s', R s s' →
    Agree V (op.exec t s).1 (op'.exec t s').1 ∧ R (op.exec t s).2 (op'.exec t s').2

/-- An operation that does not tell related stores apart. -/
def Overlooks (R : σ → σ → Prop) (op : Op σ α) : Prop := Mirrors R Eq op op

/-- Operations that mirror each other are coupled on related stores: a refusal is the same, and the stores
are related after it. -/
theorem mirrors_iff_couples {R : σ → τ → Prop} {V : α → β → Prop} {op : Op σ α} {op' : Op τ β} :
    Mirrors R V op op' ↔ ∀ t s s', R s s' →
      Couples (fun cause cause' s s' => cause = cause' ∧ R s s') t t op op' s s' fun a b s s' => V a b ∧ R s s' := by
  refine forall₄_congr fun t s s' _ => ?_
  unfold Couples
  generalize op.exec t s = out
  generalize op'.exec t s' = out'
  obtain ⟨r, s₁⟩ := out
  obtain ⟨r', s₁'⟩ := out'
  constructor
  · rintro ⟨hagree, hafter⟩
    cases hagree with
    | refused cause => exact .error ⟨rfl, hafter⟩
    | ok hab => exact .ok ⟨hab, hafter⟩
  · intro hcoupled
    cases hcoupled with
    | ok result => exact ⟨.ok result.1, result.2⟩
    | error cause =>
      obtain ⟨rfl, hafter⟩ := cause
      exact ⟨.refused _, hafter⟩

namespace Mirrors

variable {R : σ → τ → Prop} {V : α → β → Prop} {W : γ → δ → Prop}

theorem mono {V' : α → β → Prop} {op : Op σ α} {op' : Op τ β} (h : Mirrors R V op op')
    (hV : ∀ a b, V a b → V' a b) : Mirrors R V' op op' := fun t s s' hs =>
  ⟨(h t s s' hs).1.mono hV, (h t s s' hs).2⟩

/-- Results that are related mirror each other. -/
theorem pure {a : α} {b : β} (h : V a b) :
    Mirrors R V (Pure.pure a : Op σ α) (Pure.pure b : Op τ β) := fun _ _ _ hs => ⟨.ok h, hs⟩

/-- A refusal mirrors the same refusal. -/
theorem refuse (cause : Error) :
    Mirrors R V (Op.refuse cause : Op σ α) (Op.refuse cause : Op τ β) :=
  fun _ _ _ hs => ⟨.refused cause, hs⟩

/-- The clock shows both the same. -/
theorem now : Mirrors R Eq (Op.now : Op σ Instant) (Op.now : Op τ Instant) :=
  fun _ _ _ hs => ⟨.ok rfl, hs⟩

/-- Conditions mirror each other if both hold or neither does. -/
theorem guard {condition condition' : Bool} (h : condition = condition') (cause : Error) :
    Mirrors R Eq (Op.guard condition cause : Op σ Unit) (Op.guard condition' cause : Op τ Unit) := by
  subst h
  cases condition
  · exact refuse cause
  · exact pure rfl

/-- What is absent on both sides is refused on both, and what is there is handed on. -/
theorem orRefuse {a? : Option α} {b? : Option β} (h : Option.Rel V a? b?) (cause : Error) :
    Mirrors R V (Op.orRefuse cause a? : Op σ α) (Op.orRefuse cause b? : Op τ β) := by
  cases h with
  | none => exact refuse cause
  | some h => exact pure h

/-- Two operations that mirror each other step by step mirror each other as a whole. -/
theorem bind {op : Op σ α} {op' : Op τ β} {f : α → Op σ γ} {f' : β → Op τ δ}
    (h : Mirrors R V op op') (hf : ∀ a b, V a b → Mirrors R W (f a) (f' b)) :
    Mirrors R W (op >>= f) (op' >>= f') := by
  rw [mirrors_iff_couples] at h ⊢
  intro t s s' hs
  exact (h t s s' hs).bind fun a b s₁ s₁' ⟨hab, hafter⟩ =>
    mirrors_iff_couples.mp (hf a b hab) t s₁ s₁' hafter

/-- The same step on both sides. -/
theorem step {op : Op σ α} {op' : Op τ α} {f : α → Op σ γ} {f' : α → Op τ δ}
    (h : Mirrors R Eq op op') (hf : ∀ a, Mirrors R W (f a) (f' a)) :
    Mirrors R W (op >>= f) (op' >>= f') :=
  h.bind fun a _ hab => hab ▸ hf a

/-- Outcomes that agree may be read in the same other way. -/
theorem reread {op : Op σ α} {op' : Op τ β} (h : Mirrors R V op op')
    {g : Except Error α → Except Error γ} {g' : Except Error β → Except Error δ}
    (hg : ∀ r r', Agree V r r' → Agree W (g r) (g' r')) :
    Mirrors R W (fun t s => (g (op.exec t s).1, (op.exec t s).2) : Op σ γ)
      (fun t s => (g' (op'.exec t s).1, (op'.exec t s).2) : Op τ δ) := fun t s s' hs =>
  ⟨hg _ _ (h t s s' hs).1, (h t s s' hs).2⟩

end Mirrors

/-- What none of its calls can tell apart, an operation cannot tell apart. -/
theorem MadeOf.overlooks [Store σ] {R : σ → σ → Prop} {P : Store.Call → Prop} {op : Op σ α}
    (h : op.MadeOf P) (hP : ∀ call, P call → (call.perform : Op σ call.Result).Overlooks R) :
    op.Overlooks R := by
  induction h with
  | pure a => exact Mirrors.pure rfl
  | refuse cause => exact Mirrors.refuse cause
  | now => exact Mirrors.now
  | call call h => exact hP call h
  | bind _ _ ih ihf => exact ih.step ihf
  | reread g _ ih => exact ih.reread fun r r' hrr' => by rw [agree_eq_iff.mp hrr', agree_eq_iff]

end Fostering.Op
