import Mathlib.Data.Option.Basic
import Fostering.Listing.Page
import Fostering.Proofs.Operations

/-!
# Two operations side by side

An operation on one store and an operation on another, each at an instant of its own, are *coupled*
(`Op.Couples`) if both give results that are related, or both are refused for causes that are. What the
service does is the same for every store, so its operations are coupled step by step.

* `couples_guard`, `couples_ofExcept`: steps that decide alike.
* `Couples.bind`, `Couples.bind_reads`: one step after another.

A list is read page by page, and two lists are compared over all their pages: `Op.CouplesPages` says that
the pages of each list are those of a whole, and that the wholes are alike.
-/

namespace Fostering

variable {σ τ α β γ δ : Type}

/-- Two outcomes are alike: two results that are related, together with the stores after them, or two
causes that are. -/
inductive Coupled (E : Error → Error → σ → τ → Prop) (Q : α → β → σ → τ → Prop) :
    Except Error α × σ → Except Error β × τ → Prop where
  | ok {a : α} {b : β} {s : σ} {t : τ} (result : Q a b s t) : Coupled E Q (.ok a, s) (.ok b, t)
  | error {e e' : Error} {s : σ} {t : τ} (cause : E e e' s t) : Coupled E Q (.error e, s) (.error e', t)

theorem Coupled.mono {E : Error → Error → σ → τ → Prop} {Q Q' : α → β → σ → τ → Prop}
    {out : Except Error α × σ} {out' : Except Error β × τ} (h : Coupled E Q out out')
    (hQ : ∀ a b s t, Q a b s t → Q' a b s t) : Coupled E Q' out out' := by
  cases h with
  | ok result => exact .ok (hQ _ _ _ _ result)
  | error cause => exact .error cause

namespace Op

section

variable (E : Error → Error → σ → τ → Prop) (now now' : Instant)

/-- What comes of two operations is alike. -/
def Couples (op : Op σ α) (op' : Op τ β) (s : σ) (t : τ) (Q : α → β → σ → τ → Prop) : Prop :=
  Coupled E Q (op.exec now s) (op'.exec now' t)

/-- What two operations show on each page is part of a whole, and the wholes are alike. What a page shows of a
whole is `cut` out of it. -/
def CouplesPages (cut : Page → α → α) (cut' : Page → β → β) (op : Page → Op σ α) (op' : Page → Op τ β)
    (s : σ) (t : τ) (Q : α → β → σ → τ → Prop) : Prop :=
  ∃ out out', (∀ page, (op page).exec now s = (out.1.map (cut page), out.2)) ∧
    (∀ page, (op' page).exec now' t = (out'.1.map (cut' page), out'.2)) ∧ Coupled E Q out out'

end

/-- The results of two operations are related, and both stores are as they were. -/
def Reads (s : σ) (t : τ) (R : α → β → Prop) (a : α) (b : β) (s' : σ) (t' : τ) : Prop :=
  R a b ∧ s' = s ∧ t' = t

variable {E : Error → Error → σ → τ → Prop} {now now' : Instant} {s : σ} {t : τ}

/-! ## Single steps -/

/-- Two operations are coupled if they give related results. -/
theorem couples_of_exec {op : Op σ α} {op' : Op τ β} {a : α} {b : β} {s' : σ} {t' : τ}
    {Q : α → β → σ → τ → Prop} (h : op.exec now s = (.ok a, s')) (h' : op'.exec now' t = (.ok b, t'))
    (hQ : Q a b s' t') : Couples E now now' op op' s t Q := by
  unfold Couples
  rw [h, h']
  exact .ok hQ

/-- Two operations are coupled if they are refused for related causes. -/
theorem couples_of_error {op : Op σ α} {op' : Op τ β} {e e' : Error} {s' : σ} {t' : τ}
    {Q : α → β → σ → τ → Prop} (h : op.exec now s = (.error e, s'))
    (h' : op'.exec now' t = (.error e', t')) (hE : E e e' s' t') : Couples E now now' op op' s t Q := by
  unfold Couples
  rw [h, h']
  exact .error hE

/-- Results that are there already are coupled if they are related. -/
theorem couples_pure {a : α} {b : β} {Q : α → β → σ → τ → Prop} (h : Q a b s t) :
    Couples E now now' (pure a) (pure b) s t Q :=
  .ok h

/-- Conditions that hold in both stores or in none. -/
theorem couples_guard {condition condition' : Bool} {cause cause' : Error} (h : condition = condition')
    (hcause : E cause cause' s t) :
    Couples E now now' (guard condition cause) (guard condition' cause') s t
      (Reads s t fun _ _ => condition = true) := by
  subst h
  cases condition with
  | false => exact .error hcause
  | true => exact .ok ⟨rfl, rfl, rfl⟩

/-- A result that was found without the stores. -/
theorem couples_ofExcept (r : Except Error α) (hcause : ∀ e, r = .error e → E e e s t) :
    Couples E now now' (ofExcept r) (ofExcept r) s t (Reads s t fun a b => a = b ∧ r = .ok a) := by
  cases r with
  | error e => exact .error (hcause e rfl)
  | ok a => exact .ok ⟨⟨rfl, rfl⟩, rfl, rfl⟩

/-! ## One step after another -/

theorem Couples.mono {op : Op σ α} {op' : Op τ β} {Q Q' : α → β → σ → τ → Prop}
    (h : Couples E now now' op op' s t Q) (hQ : ∀ a b s t, Q a b s t → Q' a b s t) :
    Couples E now now' op op' s t Q' :=
  Coupled.mono h hQ

/-- Two steps that leave both stores alone. -/
theorem Couples.after {op : Op σ α} {op' : Op τ β} {f : α → Op σ γ} {f' : β → Op τ δ} {a : α} {b : β}
    {Q : γ → δ → σ → τ → Prop} (h : Couples E now now' (f a) (f' b) s t Q)
    (hop : op.exec now s = (.ok a, s)) (hop' : op'.exec now' t = (.ok b, t)) :
    Couples E now now' (op >>= f) (op' >>= f') s t Q := by
  unfold Couples
  rw [exec_bind_ok hop, exec_bind_ok hop']
  exact h

/-- Two coupled steps, and what is coupled after them. -/
theorem Couples.bind {op : Op σ α} {op' : Op τ β} {f : α → Op σ γ} {f' : β → Op τ δ}
    {Q : α → β → σ → τ → Prop} {Q' : γ → δ → σ → τ → Prop} (h : Couples E now now' op op' s t Q)
    (hf : ∀ a b s' t', Q a b s' t' → Couples E now now' (f a) (f' b) s' t' Q') :
    Couples E now now' (op >>= f) (op' >>= f') s t Q' := by
  unfold Couples at h ⊢
  rw [exec_bind, exec_bind]
  generalize op.exec now s = out at h
  generalize op'.exec now' t = out' at h
  cases h with
  | ok result => exact hf _ _ _ _ result
  | error cause => exact .error cause

/-- Two coupled steps that leave both stores alone, and what is coupled after them. -/
theorem Couples.bind_reads {op : Op σ α} {op' : Op τ β} {f : α → Op σ γ} {f' : β → Op τ δ}
    {R : α → β → Prop} {Q : γ → δ → σ → τ → Prop} (h : Couples E now now' op op' s t (Reads s t R))
    (hf : ∀ a b, R a b → Couples E now now' (f a) (f' b) s t Q) :
    Couples E now now' (op >>= f) (op' >>= f') s t Q :=
  h.bind fun a b _ _ ⟨hR, hs, ht⟩ => by
    subst hs ht
    exact hf a b hR

/-! ## Page by page -/

section

variable {cut : Page → α → α} {cut' : Page → β → β} {Q : α → β → σ → τ → Prop}

/-- What does not depend on the page shows all of itself. -/
theorem Couples.pages {op : Op σ α} {op' : Op τ β} (h : Couples E now now' op op' s t Q) :
    CouplesPages E now now' (fun _ => id) (fun _ => id) (fun _ => op) (fun _ => op') s t Q := by
  refine ⟨op.exec now s, op'.exec now' t, fun page => ?_, fun page => ?_, h⟩
  · rw [Except.map_id]
    rfl
  · rw [Except.map_id]
    rfl

/-- Two lists that give their pages whatever the page are coupled if the wholes are. -/
theorem couplesPages_of_exec {op : Page → Op σ α} {op' : Page → Op τ β} {a : α} {b : β}
    (h : ∀ page, (op page).exec now s = (.ok (cut page a), s))
    (h' : ∀ page, (op' page).exec now' t = (.ok (cut' page b), t)) (hQ : Q a b s t) :
    CouplesPages E now now' cut cut' op op' s t Q :=
  ⟨(.ok a, s), (.ok b, t), h, h', .ok hQ⟩

/-- What is done before the first page is shown. -/
theorem CouplesPages.after_reads {op : Op σ γ} {op' : Op τ δ} {f : γ → Page → Op σ α} {f' : δ → Page → Op τ β}
    {R : γ → δ → Prop} (h : Couples E now now' op op' s t (Reads s t R))
    (hf : ∀ a b, R a b → CouplesPages E now now' cut cut' (f a) (f' b) s t Q) :
    CouplesPages E now now' cut cut' (fun page => op >>= (f · page)) (fun page => op' >>= (f' · page)) s t
      Q := by
  unfold Couples at h
  rcases hop : op.exec now s with ⟨e | a, s₁⟩ <;> rcases hop' : op'.exec now' t with ⟨e' | b, t₁⟩ <;>
    rw [hop, hop'] at h
  · cases h with
    | error cause =>
      refine ⟨(.error e, s₁), (.error e', t₁), fun page => ?_, fun page => ?_, .error cause⟩
      · exact exec_bind_error hop
      · exact exec_bind_error hop'
  · cases h
  · cases h
  · cases h with
    | ok result =>
      obtain ⟨hR, rfl, rfl⟩ := result
      obtain ⟨out, out', hout, hout', hcoupled⟩ := hf a b hR
      refine ⟨out, out', fun page => ?_, fun page => ?_, hcoupled⟩
      · rw [exec_bind_ok hop, hout]
      · rw [exec_bind_ok hop', hout']

/-- What is made of each page. -/
theorem CouplesPages.map {cutMade : Page → γ → γ} {cutMade' : Page → δ → δ} {op : Page → Op σ α}
    {op' : Page → Op τ β} {Q' : γ → δ → σ → τ → Prop} (h : CouplesPages E now now' cut cut' op op' s t Q)
    {f : α → γ} {f' : β → δ} (hcut : ∀ page a, cutMade page (f a) = f (cut page a))
    (hcut' : ∀ page b, cutMade' page (f' b) = f' (cut' page b))
    (hf : ∀ a b s t, Q a b s t → Q' (f a) (f' b) s t) :
    CouplesPages E now now' cutMade cutMade' (fun page => do return f (← op page))
      (fun page => do return f' (← op' page)) s t Q' := by
  obtain ⟨⟨r, s₁⟩, ⟨r', t₁⟩, hout, hout', hcoupled⟩ := h
  refine ⟨(r.map f, s₁), (r'.map f', t₁), fun page => ?_, fun page => ?_, ?_⟩
  · rw [exec_bind, hout]
    cases r with
    | error e => rfl
    | ok a => exact congrArg (fun c => (Except.ok c, s₁)) (hcut page a).symm
  · rw [exec_bind, hout']
    cases r' with
    | error e => rfl
    | ok b => exact congrArg (fun c => (Except.ok c, t₁)) (hcut' page b).symm
  · cases hcoupled with
    | ok result => exact .ok (hf _ _ _ _ result)
    | error cause => exact .error cause

end

end Op

end Fostering
