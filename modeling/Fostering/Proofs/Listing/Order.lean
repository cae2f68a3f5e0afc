import Mathlib.Algebra.Order.Ring.Int
import Mathlib.Tactic.Ring
import Mathlib.Tactic.SplitIfs
import Fostering.Database.Listing

/-!
# The order of a list

Any two values of a column can be compared, and comparing is transitive, whatever the kinds of the
values. So rows in the order of a key and of their ids are what a sort makes of them: the same rows
(`mem_sortRows`), each before those that it comes before (`pairwise_sortRows`).
-/

namespace Fostering

namespace Binary64

/-- Any two doubles are in order. -/
theorem le_total (a b : Binary64) : a.le b = true ∨ b.le a = true := by
  rcases a with _ | s | ⟨s, m, e⟩ <;> rcases b with _ | t | ⟨t, k, f⟩
  case finite.finite =>
    simp only [le, decide_eq_true_eq]
    omega
  all_goals simp only [le, Bool.or_eq_true, Bool.not_eq_true']
  all_goals first | cases s <;> simp | cases t <;> simp | simp

/-- The denominator of a magnitude is positive. -/
theorem magnitude_pos (m : Nat) (e : Int) : 0 < (magnitude m e).2 := by
  unfold magnitude
  split_ifs
  · exact Nat.one_pos
  · exact Nat.two_pow_pos _

theorem ratio_pos (s : Bool) (m : Nat) (e : Int) : 0 < (ratio s m e).2 := magnitude_pos m e

/-- The order of doubles is transitive. -/
theorem le_trans {a b c : Binary64} (hab : a.le b = true) (hbc : b.le c = true) : a.le c = true := by
  rcases a with _ | s | ⟨s, m, e⟩ <;> rcases b with _ | t | ⟨t, k, f⟩ <;>
    rcases c with _ | u | ⟨u, l, g⟩
  case finite.finite.finite =>
    simp only [le, decide_eq_true_eq] at hab hbc ⊢
    have hpos : (0 : Int) < (ratio t k f).2 := Int.natCast_pos.mpr (ratio_pos t k f)
    refine le_of_mul_le_mul_right ?_ hpos
    have h₁ := mul_le_mul_of_nonneg_right hab (Int.natCast_nonneg (ratio u l g).2)
    have h₂ := mul_le_mul_of_nonneg_right hbc (Int.natCast_nonneg (ratio s m e).2)
    calc (ratio s m e).1 * (ratio u l g).2 * (ratio t k f).2
        = (ratio s m e).1 * (ratio t k f).2 * (ratio u l g).2 := by ring
      _ ≤ (ratio t k f).1 * (ratio s m e).2 * (ratio u l g).2 := h₁
      _ = (ratio t k f).1 * (ratio u l g).2 * (ratio s m e).2 := by ring
      _ ≤ (ratio u l g).1 * (ratio t k f).2 * (ratio s m e).2 := h₂
      _ = (ratio u l g).1 * (ratio s m e).2 * (ratio t k f).2 := by ring
  case infinite.infinite.infinite => cases s <;> cases t <;> cases u <;> simp_all [le]
  all_goals simp_all [le]

end Binary64

namespace SortKey

/-- Values of different kinds are in the order of their kinds. -/
theorem le_of_rank_ne {a b : SortKey} (h : a.rank ≠ b.rank) :
    a.le b = decide (a.rank ≤ b.rank) := by
  cases a <;> cases b <;> first | exact absurd rfl h | rfl

/-- What comes no later has no higher rank. -/
theorem rank_le_of_le {a b : SortKey} (h : a.le b = true) : a.rank ≤ b.rank := by
  by_cases hrank : a.rank = b.rank
  · exact Nat.le_of_eq hrank
  · rw [le_of_rank_ne hrank] at h
    exact of_decide_eq_true h

/-- Any two values can be compared. -/
theorem le_total (a b : SortKey) : a.le b = true ∨ b.le a = true := by
  by_cases hrank : a.rank = b.rank
  case neg =>
    rw [le_of_rank_ne hrank, le_of_rank_ne (Ne.symm hrank), decide_eq_true_eq, decide_eq_true_eq]
    exact Nat.le_total _ _
  cases a <;> cases b <;> try (simp [rank] at hrank; done)
  case int.int x y =>
    simp only [le, decide_eq_true_eq]
    exact Int.le_total x y
  case flag.flag x y => cases x <;> cases y <;> decide
  case text.text x y =>
    simp only [le, Bool.not_eq_true', decide_eq_false_iff_not]
    exact String.le_total x y
  case moment.moment x y =>
    simp only [le, Bool.not_eq_true']
    rcases hxy : y.before x with _ | _
    · exact .inl rfl
    · exact .inr (Instant.before_asymm hxy)
  case real.real x y => exact Binary64.le_total x y
  case absent.absent => exact .inl rfl

/-- Comparing is transitive. -/
theorem le_trans {a b c : SortKey} (hab : a.le b = true) (hbc : b.le c = true) : a.le c = true := by
  have hrank := rank_le_of_le hab
  have hrank' := rank_le_of_le hbc
  by_cases hne : a.rank = c.rank
  case neg =>
    rw [le_of_rank_ne hne, decide_eq_true_eq]
    exact Nat.le_trans hrank hrank'
  -- all three values are of one kind
  have hab' : a.rank = b.rank := by omega
  have hbc' : b.rank = c.rank := by omega
  cases a <;> cases b <;> try (simp [rank] at hab'; done)
  all_goals cases c <;> try (simp [rank] at hbc'; done)
  case int.int.int =>
    simp only [le, decide_eq_true_eq] at hab hbc ⊢
    exact Int.le_trans hab hbc
  case flag.flag.flag x y z =>
    simp only [le, Bool.or_eq_true, Bool.not_eq_true'] at hab hbc ⊢
    cases x <;> cases y <;> simp_all
  case text.text.text =>
    simp only [le, Bool.not_eq_true', decide_eq_false_iff_not] at hab hbc ⊢
    exact String.le_trans hab hbc
  case moment.moment.moment =>
    simp only [le, Bool.not_eq_true'] at hab hbc ⊢
    exact Instant.not_before_trans hab hbc
  case real.real.real => exact Binary64.le_trans hab hbc
  case absent.absent.absent => rfl

/-- Rows with equal values are in the order of their ids. -/
theorem leWithId_iff {a b : SortKey × Int} :
    leWithId a b = true ↔ b.1.le a.1 = false ∨ a.1.le b.1 = true ∧ a.2 ≤ b.2 := by
  unfold leWithId
  rcases b.1.le a.1 <;> rcases a.1.le b.1 <;> simp

/-- Numbers with ids are in the order of the numbers, and of the ids where these agree. -/
theorem leWithId_int {x y i j : Int} :
    leWithId (.int x, i) (.int y, j) = true ↔ x < y ∨ x = y ∧ i ≤ j := by
  rw [leWithId_iff]
  simp only [le, decide_eq_false_iff_not, decide_eq_true_eq]
  omega

/-- Any two rows are in order. -/
theorem leWithId_total (a b : SortKey × Int) : leWithId a b = true ∨ leWithId b a = true := by
  rw [leWithId_iff, leWithId_iff]
  rcases hab : a.1.le b.1 with _ | _
  · exact .inr (.inl rfl)
  rcases hba : b.1.le a.1 with _ | _
  · exact .inl (.inl rfl)
  rcases Int.le_total a.2 b.2 with h | h
  · exact .inl (.inr ⟨rfl, h⟩)
  · exact .inr (.inr ⟨rfl, h⟩)

/-- The order of rows is transitive. -/
theorem leWithId_trans {a b c : SortKey × Int} (hab : leWithId a b = true)
    (hbc : leWithId b c = true) : leWithId a c = true := by
  rw [leWithId_iff] at *
  rcases hca : c.1.le a.1 with _ | _
  · exact .inl rfl
  -- the keys of all three are alike, so it is the ids that count
  right
  rcases hab with hba | ⟨hab, hid⟩
  · rcases hbc with hcb | ⟨hbc, -⟩
    · have hbc := (le_total b.1 c.1).resolve_right (by simp [hcb])
      rw [le_trans hbc hca] at hba
      cases hba
    · rw [le_trans hbc hca] at hba
      cases hba
  · rcases hbc with hcb | ⟨hbc, hid'⟩
    · rw [le_trans hca hab] at hcb
      cases hcb
    · exact ⟨le_trans hab hbc, Int.le_trans hid hid'⟩

/-- Any two rows are in order, whichever the direction is. -/
theorem ordered_total (direction : Direction) (a b : SortKey × Int) :
    ordered direction a b = true ∨ ordered direction b a = true := by
  cases direction with
  | asc => exact leWithId_total a b
  | desc => exact leWithId_total b a

/-- The order of rows is transitive, whichever the direction is. -/
theorem ordered_trans (direction : Direction) {a b c : SortKey × Int}
    (hab : ordered direction a b = true) (hbc : ordered direction b c = true) :
    ordered direction a c = true := by
  cases direction with
  | asc => exact leWithId_trans hab hbc
  | desc => exact leWithId_trans hbc hab

end SortKey

/-! ## Sorted rows -/

section

variable {ρ : Type} (direction : Direction) (key : ρ → SortKey) (id : ρ → Int) (rows : List ρ)

/-- Sorting neither loses rows nor makes any up. -/
theorem perm_sortRows : (sortRows direction key id rows).Perm rows := List.mergeSort_perm _ _

/-- A sort neither adds rows nor drops any. -/
@[simp] theorem mem_sortRows {r : ρ} : r ∈ sortRows direction key id rows ↔ r ∈ rows :=
  List.mem_mergeSort

/-- **Sorted rows are in order.** -/
theorem pairwise_sortRows :
    (sortRows direction key id rows).Pairwise fun r s =>
      SortKey.ordered direction (key r, id r) (key s, id s) = true := by
  refine List.pairwise_mergeSort ?_ ?_ rows
  · intro r s t
    exact SortKey.ordered_trans direction
  · intro r s
    rw [Bool.or_eq_true]
    exact SortKey.ordered_total direction _ _

end

end Fostering
