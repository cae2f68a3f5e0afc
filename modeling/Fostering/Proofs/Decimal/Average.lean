import Mathlib.Data.List.Perm.Basic
import Mathlib.Tactic.SplitIfs
import Fostering.Review

/-!
# Averages of grades

The rating of a keeper is a decimal average that is rounded twice: once to a number of decimal places
and once to a double. Neither rounding passes a whole number.

* `ofRatio_between`: whole numbers that bound a quotient bound the double nearest to it.
* `le_decimalQuotient`, `decimalQuotient_le`: and so they bound its decimal digits.
* `averageGrade_between`: the average of grades from one to five is a double from one to five.
* `averageGrade_perm`: an average does not depend on the order of the grades.
-/

namespace Fostering

namespace Binary64

variable {num den n : Nat}

/-- Rounding does not pass a whole number from below. -/
theorem roundQuotient_le (hden : 0 < den) (h : num ≤ n * den) : roundQuotient num den ≤ n := by
  have hq : num / den ≤ n := Nat.div_le_of_le_mul (by rwa [Nat.mul_comm])
  have hdiv := Nat.div_add_mod num den
  unfold roundQuotient
  rcases Nat.lt_or_eq_of_le hq with hlt | heq
  · dsimp only
    split_ifs <;> omega
  · -- the quotient is exact, so nothing is left that could be rounded up
    have hmod : num % den = 0 := by
      rw [heq, Nat.mul_comm] at hdiv
      omega
    dsimp only
    rw [hmod, if_pos (by omega)]
    exact hq

/-- Rounding does not pass a whole number from above. -/
theorem le_roundQuotient (hden : 0 < den) (h : n * den ≤ num) : n ≤ roundQuotient num den := by
  have hq : n ≤ num / den := (Nat.le_div_iff_mul_le hden).mpr h
  unfold roundQuotient
  dsimp only
  split_ifs <;> omega

/-- A quotient that is not below one and not large is rounded at an exponent from -53 to -1. -/
theorem roundingExponent_eq (hden : 0 < den) (hone : den ≤ num) (hlarge : num < 2 ^ 51 * den) :
    ∃ k : Nat, 0 < k ∧ k ≤ 53 ∧ roundingExponent num den = -(k : Int) := by
  have hnum : num ≠ 0 := by omega
  have hlow : den.log2 ≤ num.log2 := by
    rw [Nat.le_log2 hnum]
    exact Nat.le_trans (Nat.log2_self_le (by omega)) hone
  have hhigh : num.log2 < den.log2 + 52 := by
    rw [Nat.log2_lt hnum]
    calc num < 2 ^ 51 * den := hlarge
      _ ≤ 2 ^ 51 * 2 ^ (den.log2 + 1) := Nat.mul_le_mul_left _ (Nat.le_of_lt Nat.lt_log2_self)
      _ = 2 ^ (den.log2 + 52) := by rw [← Nat.pow_add]; congr 1; omega
  unfold roundingExponent minExponent
  dsimp only
  split_ifs
  · exact ⟨(53 - (num.log2 - den.log2 : Nat) : Nat), by omega⟩
  · exact ⟨(52 - (num.log2 - den.log2 : Nat) : Nat), by omega⟩

/-- What is rounded at an exponent below zero. -/
theorem roundAt_neg (num den : Nat) {k : Nat} (hk : 0 < k) :
    roundAt false num den (-(k : Int)) =
      if roundQuotient (num * 2 ^ k) den = 2 ^ 53 then finite false (2 ^ 52) (-(k : Int) + 1)
      else finite false (roundQuotient (num * 2 ^ k) den) (-(k : Int)) := by
  have hscaled : scaled num den (-(k : Int)) = (num * 2 ^ k, den) := by
    unfold scaled
    rw [if_neg (by omega), Int.neg_neg, Int.toNat_natCast]
  unfold roundAt
  rw [hscaled]
  dsimp only
  by_cases hcarry : roundQuotient (num * 2 ^ k) den = 2 ^ 53
  · rw [if_pos hcarry, if_pos hcarry]
    exact if_neg (by unfold maxExponent; omega)
  · rw [if_neg hcarry, if_neg hcarry]
    exact if_neg (by unfold maxExponent; omega)

/-- Whole numbers that bound a quotient bound the double nearest to it. -/
theorem ofRatio_between (hden : 0 < den) (hone : den ≤ num) (hlarge : num < 2 ^ 51 * den) :
    ∃ m k : Nat, ofRatio false num den = finite false m (-(k : Int)) ∧
      (∀ n, n * den ≤ num → n * 2 ^ k ≤ m) ∧ ∀ n, num ≤ n * den → m ≤ n * 2 ^ k := by
  obtain ⟨k, hk, -, hexponent⟩ := roundingExponent_eq hden hone hlarge
  have heq : ofRatio false num den = roundAt false num den (-(k : Int)) := by
    unfold ofRatio
    rw [if_neg (by omega), hexponent]
  rw [roundAt_neg num den hk] at heq
  have hleast (n : Nat) (h : n * den ≤ num) : n * 2 ^ k ≤ roundQuotient (num * 2 ^ k) den := by
    refine le_roundQuotient hden ?_
    rw [Nat.mul_right_comm]
    exact Nat.mul_le_mul_right _ h
  have hmost (n : Nat) (h : num ≤ n * den) : roundQuotient (num * 2 ^ k) den ≤ n * 2 ^ k := by
    refine roundQuotient_le hden ?_
    rw [Nat.mul_right_comm]
    exact Nat.mul_le_mul_right _ h
  -- rounding may carry into another binary digit, in which case the exponent goes up by one
  by_cases hcarry : roundQuotient (num * 2 ^ k) den = 2 ^ 53
  · obtain ⟨j, rfl⟩ : ∃ j, k = j + 1 := ⟨k - 1, by omega⟩
    refine ⟨2 ^ 52, j, ?_, fun n h => ?_, fun n h => ?_⟩
    · rw [heq, if_pos hcarry]
      congr 1
      omega
    · have hdouble := hleast n h
      rw [hcarry, Nat.pow_succ 2 j, ← Nat.mul_assoc] at hdouble
      omega
    · have hdouble := hmost n h
      rw [hcarry, Nat.pow_succ 2 j, ← Nat.mul_assoc] at hdouble
      omega
  · refine ⟨_, k, ?_, hleast, hmost⟩
    rw [heq, if_neg hcarry]

/-! ## Whole numbers as doubles -/

/-- A negative power of two is a denominator. -/
theorem magnitude_neg (m k : Nat) : magnitude m (-(k : Int)) = (m, 2 ^ k) := by
  unfold magnitude
  cases k with
  | zero => simp
  | succ k =>
      rw [if_neg (by omega), Int.neg_neg, Int.toNat_natCast]

/-- Doubles with exponents below zero in order. -/
theorem le_finite_iff {a b i j : Nat} :
    le (finite false a (-(i : Int))) (finite false b (-(j : Int))) = true ↔ a * 2 ^ j ≤ b * 2 ^ i := by
  simp only [le, ratio, magnitude_neg, Bool.false_eq_true, if_false, decide_eq_true_eq]
  exact_mod_cast Iff.rfl

/-- A whole number that is not large is a double. -/
theorem ofNat_eq (hpos : 1 ≤ n) (hlarge : n < 2 ^ 51) :
    ∃ k : Nat, ofNat n = finite false (n * 2 ^ k) (-(k : Int)) := by
  have hdouble : ∃ m k : Nat, ofRatio false n 1 = finite false m (-(k : Int)) ∧
      (∀ i, i * 1 ≤ n → i * 2 ^ k ≤ m) ∧ ∀ i, n ≤ i * 1 → m ≤ i * 2 ^ k :=
    ofRatio_between Nat.one_pos hpos (by omega)
  obtain ⟨m, k, heq, hleast, hmost⟩ := hdouble
  have hm : m = n * 2 ^ k := Nat.le_antisymm (hmost n (by omega)) (hleast n (by omega))
  exact ⟨k, by rw [ofNat, heq, hm]⟩

/-- A double between whole numbers. -/
theorem le_ofNat_iff {m k : Nat} (hpos : 1 ≤ n) (hlarge : n < 2 ^ 51) :
    (le (ofNat n) (finite false m (-(k : Int))) = true ↔ n * 2 ^ k ≤ m) ∧
      (le (finite false m (-(k : Int))) (ofNat n) = true ↔ m ≤ n * 2 ^ k) := by
  obtain ⟨i, heq⟩ := ofNat_eq hpos hlarge
  have hi : 0 < 2 ^ i := Nat.two_pow_pos i
  rw [heq, le_finite_iff, le_finite_iff, Nat.mul_right_comm]
  exact ⟨Nat.mul_le_mul_right_iff hi, Nat.mul_le_mul_right_iff hi⟩

end Binary64

/-! ## Averages -/

section

variable {sum count n places : Nat}

/-- Places do not take the quotient below a bound for it. -/
theorem le_decimalQuotient (hcount : 0 < count) (h : n * count ≤ sum) :
    n * 10 ^ places ≤ decimalQuotient sum count places := by
  have hq : n * 10 ^ places ≤ sum * 10 ^ places / count := by
    rw [Nat.le_div_iff_mul_le hcount, Nat.mul_right_comm]
    exact Nat.mul_le_mul_right _ h
  unfold decimalQuotient
  dsimp only
  split_ifs <;> omega

/-- Places do not take the quotient above a bound for it. -/
theorem decimalQuotient_le (hcount : 0 < count) (h : sum ≤ n * count) :
    decimalQuotient sum count places ≤ n * 10 ^ places := by
  have hle : sum * 10 ^ places ≤ n * 10 ^ places * count := by
    rw [Nat.mul_right_comm]
    exact Nat.mul_le_mul_right _ h
  have hq : sum * 10 ^ places / count ≤ n * 10 ^ places :=
    Nat.div_le_of_le_mul (by rw [Nat.mul_comm count]; exact hle)
  have hdiv := Nat.div_add_mod (sum * 10 ^ places) count
  unfold decimalQuotient
  dsimp only
  rcases Nat.lt_or_eq_of_le hq with hlt | heq
  · split_ifs <;> omega
  · have hmod : sum * 10 ^ places % count = 0 := by
      rw [heq, Nat.mul_comm count] at hdiv
      omega
    rw [hmod, if_neg (by omega)]
    exact hq

/-- Longer numbers are kept in no fewer groups. -/
theorem groupsAfterFirst_mono {m : Nat} (h : m ≤ n) : groupsAfterFirst m ≤ groupsAfterFirst n := by
  induction n using Nat.strongRecOn generalizing m with
  | ind n ih =>
      rw [groupsAfterFirst.eq_def m, groupsAfterFirst.eq_def n]
      split_ifs
      · exact Nat.le_refl 0
      · exact Nat.zero_le _
      · omega
      · have hless := ih (n / 10000) (by omega) (Nat.div_le_div_right h (c := 10000))
        omega

/-- An average that is not below one has at most twenty decimal places. -/
theorem averagePlaces_le (h : count ≤ sum) : averagePlaces sum count ≤ 20 := by
  have hgroups := groupsAfterFirst_mono h
  unfold averagePlaces
  dsimp only
  split_ifs <;> omega

/-- An average that is neither below one nor large is the double nearest to its decimal digits. -/
theorem averageOf_eq (hcount : 0 < count) (hone : count ≤ sum) :
    averageOf sum count = .ofRatio false (decimalQuotient sum count (averagePlaces sum count))
      (10 ^ averagePlaces sum count) := by
  have hplaces := averagePlaces_le hone
  have hdigits : 1 * 10 ^ averagePlaces sum count ≤
      decimalQuotient sum count (averagePlaces sum count) := le_decimalQuotient hcount (by omega)
  have hpos : 0 < 10 ^ averagePlaces sum count := Nat.pow_pos (by omega)
  unfold averageOf Binary64.ofDecimal
  dsimp only
  rw [if_neg (by omega), if_neg (by omega), if_neg (by omega)]
  by_cases hzero : averagePlaces sum count = 0
  · rw [hzero, if_pos (by omega)]
    simp
  · rw [if_neg (by omega), if_neg (by omega), Int.neg_neg, Int.toNat_natCast]

/-- **Whole numbers that bound all grades bound their average.** -/
theorem averageOf_between {low high : Nat} (hcount : 0 < count) (hpos : 1 ≤ low)
    (hlarge : high < 2 ^ 50) (hlow : low * count ≤ sum) (hhigh : sum ≤ high * count) :
    (Binary64.ofNat low).le (averageOf sum count) = true ∧
      (averageOf sum count).le (Binary64.ofNat high) = true := by
  have hone : count ≤ sum := Nat.le_trans (Nat.le_mul_of_pos_left count hpos) hlow
  have hle : low ≤ high := Nat.le_of_mul_le_mul_right (Nat.le_trans hlow hhigh) hcount
  let places := averagePlaces sum count
  let digits := decimalQuotient sum count places
  have hleast : low * 10 ^ places ≤ digits := le_decimalQuotient hcount hlow
  have hmost : digits ≤ high * 10 ^ places := decimalQuotient_le hcount hhigh
  have hten : 0 < 10 ^ places := Nat.pow_pos (by omega)
  have hten' : 10 ^ places ≤ low * 10 ^ places := Nat.le_mul_of_pos_left _ hpos
  have hfew : digits < 2 ^ 51 * 10 ^ places := by
    have hlt : high * 10 ^ places < 2 ^ 51 * 10 ^ places :=
      Nat.mul_lt_mul_of_pos_right (by omega) hten
    omega
  obtain ⟨m, k, heq, hleast', hmost'⟩ := Binary64.ofRatio_between hten (by omega) hfew
  rw [averageOf_eq hcount hone, heq, (Binary64.le_ofNat_iff hpos (by omega)).1,
    (Binary64.le_ofNat_iff (by omega) (by omega)).2]
  exact ⟨hleast' low hleast, hmost' high hmost⟩

end

/-! ## Averages of grades -/

variable {grades grades' : List Int}

/-- An average does not depend on the order of the grades. -/
theorem averageGrade_perm (h : grades.Perm grades') : averageGrade grades = averageGrade grades' := by
  unfold averageGrade
  rw [h.foldr_eq, h.length_eq]

/-- The sum of grades from one to five. -/
theorem sum_between (h : ∀ g ∈ grades, 1 ≤ g ∧ g ≤ 5) :
    (grades.length : Int) ≤ grades.foldr (· + ·) 0 ∧
      grades.foldr (· + ·) 0 ≤ 5 * (grades.length : Int) := by
  induction grades with
  | nil => simp
  | cons g grades ih =>
      have hg := h g List.mem_cons_self
      have hgrades := ih fun g' hg' => h g' (List.mem_cons_of_mem g hg')
      rw [List.foldr_cons, List.length_cons]
      push_cast
      omega

/-- **The average of grades from one to five is a double from one to five.** -/
theorem averageGrade_between (hne : grades ≠ []) (h : ∀ g ∈ grades, 1 ≤ g ∧ g ≤ 5) :
    (Binary64.ofNat 1).le (averageGrade grades) = true ∧
      (averageGrade grades).le (Binary64.ofNat 5) = true := by
  have hsum := sum_between h
  have hlength : 0 < grades.length := List.length_pos_of_ne_nil hne
  have hlow : 1 * grades.length ≤ (grades.foldr (· + ·) 0).toNat := by omega
  have hhigh : (grades.foldr (· + ·) 0).toNat ≤ 5 * grades.length := by omega
  exact averageOf_between hlength (Nat.le_refl 1) (by omega) hlow hhigh

end Fostering
