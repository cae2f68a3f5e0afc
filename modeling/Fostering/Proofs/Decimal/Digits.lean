import Mathlib.Data.List.Basic
import Fostering.Text.Integer

/-!
# Whole numbers in decimal digits

A number is read back from the digits in which it is written, as long as it is within bounds: the numbers
that are met on the way lie between zero and it.

* `eq_zero_of_head_toDigits`: only zero begins with a zero.
* `Bounds.read_toString`: a number that is written is read.
-/

namespace Fostering

/-- Only zero begins with a zero. -/
theorem eq_zero_of_head_toDigits {n : Nat} (h : (Nat.toDigits 10 n).head? = some '0') : n = 0 := by
  induction n using Nat.strongRecOn with
  | ind n ih =>
      by_cases hsmall : n < 10
      · rw [Nat.toDigits_of_lt_base hsmall] at h
        exact Nat.digitChar_eq_zero.mp (Option.some.inj h)
      · -- The digits before the last one are those of a number that is not zero.
        rw [Nat.toDigits_of_base_le (by decide) (Nat.le_of_not_lt hsmall),
          List.head?_append_of_ne_nil _ Nat.toDigits_ne_nil] at h
        have hzero := ih (n / 10) (by omega) h
        omega

/-- A number with a sign, or without. -/
def signed (negative : Bool) (n : Nat) : Int := if negative then -(n : Int) else n

/-- Further digits do not make a number smaller. -/
theorem le_ofDigitChars (cs : List Char) (n : Nat) : n ≤ Nat.ofDigitChars 10 cs n := by
  induction cs generalizing n with
  | nil => exact Nat.le_of_eq Nat.ofDigitChars_nil.symm
  | cons c cs ih =>
      rw [Nat.ofDigitChars_cons]
      exact Nat.le_trans (by omega) (ih _)

namespace Bounds

/-- A number is within bounds. -/
def Holds (bounds : Bounds) (n : Int) : Prop := bounds.low ≤ n ∧ n ≤ bounds.high

variable {bounds : Bounds}

/-- A number between zero and one that is within bounds is within bounds. -/
theorem within_of_le (hlow : bounds.low ≤ 0) (hhigh : 0 ≤ bounds.high) {negative : Bool} {m n : Nat}
    (h : m ≤ n) (hn : bounds.Holds (signed negative n)) : bounds.Holds (signed negative m) := by
  unfold Holds signed at hn ⊢
  split_ifs at hn ⊢ <;> omega

/-- Digits are read into the number that they make. -/
theorem readDigits_eq (hlow : bounds.low ≤ 0) (hhigh : 0 ≤ bounds.high) {negative : Bool} {cs : List Char}
    (hdigits : ∀ c ∈ cs, c.isDigit = true) (m : Nat)
    (hwithin : bounds.Holds (signed negative (Nat.ofDigitChars 10 cs m))) :
    bounds.readDigits negative (signed negative m) cs = .ok (signed negative (Nat.ofDigitChars 10 cs m)) := by
  induction cs generalizing m with
  | nil => rfl
  | cons c cs ih =>
      obtain ⟨hc, hcs⟩ := List.forall_mem_cons.mp hdigits
      rw [Nat.ofDigitChars_cons] at hwithin ⊢
      have hleast : 48 ≤ c.toNat := (Char.isDigit_iff_toNat.mp hc).1
      have hnext : (if negative = true then 10 * signed negative m - ((c.toNat : Int) - 48)
          else 10 * signed negative m + ((c.toNat : Int) - 48)) =
            signed negative (10 * m + (c.toNat - '0'.toNat)) := by
        change _ = signed negative (10 * m + (c.toNat - 48))
        unfold signed
        split_ifs <;> omega
      obtain ⟨hnextLow, hnextHigh⟩ := within_of_le hlow hhigh (le_ofDigitChars cs _) hwithin
      rw [readDigits, if_pos hc]
      simp only [hnext]
      rw [if_neg (Int.not_lt.mpr hnextHigh), if_neg (Int.not_lt.mpr hnextLow)]
      exact ih hcs _ hwithin

/-- A text that begins with a digit is read from there. -/
theorem read_of_isDigit {text : String} {c : Char} {cs : List Char} (htext : text.toList = c :: cs)
    (hc : c.isDigit = true) : bounds.read text = bounds.readDigits false 0 (c :: cs) := by
  have hplus : c ≠ '+' := by
    rintro rfl
    cases hc
  have hminus : c ≠ '-' := by
    rintro rfl
    cases hc
  unfold read
  rw [htext]
  split <;> simp_all

/-- **A number that is written is read**, as long as it is within bounds. -/
theorem read_toString {n : Int} (hlow : bounds.low < 0) (hhigh : 0 ≤ bounds.high)
    (hn : bounds.Holds n) : bounds.read (toString n) = .ok n := by
  have hdigits (m : Nat) : ∀ c ∈ Nat.toDigits 10 m, c.isDigit = true := fun c hc =>
    Nat.isDigit_of_mem_toDigits (by decide) (by decide) hc
  have hread (negative : Bool) (m : Nat) (hm : bounds.Holds (signed negative m)) :
      bounds.readDigits negative 0 (Nat.toDigits 10 m) = .ok (signed negative m) := by
    have hzero : signed negative 0 = 0 := by
      unfold signed
      split_ifs <;> rfl
    rw [← Nat.ofDigitChars_ten_toDigits (n := m)] at hm
    have heq := readDigits_eq (Int.le_of_lt hlow) hhigh (hdigits m) 0 hm
    rw [Nat.ofDigitChars_ten_toDigits, hzero] at heq
    exact heq
  rw [Int.toString_eq_repr, Int.repr_eq_if]
  split_ifs with hsign
  · have hn' : signed false n.toNat = n := Int.toNat_of_nonneg hsign
    obtain ⟨c, cs, hcs⟩ := List.exists_cons_of_ne_nil (Nat.toDigits_ne_nil (n := n.toNat) (b := 10))
    have hc : c.isDigit = true := hdigits n.toNat c (by rw [hcs]; exact List.mem_cons_self)
    rw [read_of_isDigit (Nat.toList_repr.trans hcs) hc, ← hcs, hread false n.toNat (by rw [hn']; exact hn), hn']
  · have hn' : signed true (-n).toNat = n := by
      unfold signed
      rw [if_pos rfl]
      omega
    obtain ⟨c, cs, hcs⟩ := List.exists_cons_of_ne_nil (Nat.toDigits_ne_nil (n := (-n).toNat) (b := 10))
    have htext : ("-" ++ (-n).toNat.repr).toList = '-' :: c :: cs := by
      rw [String.toList_append, Nat.toList_repr, hcs]
      rfl
    unfold read
    rw [htext]
    change (if bounds.low < 0 then bounds.readDigits true 0 (c :: cs) else _) = _
    rw [if_pos hlow, ← hcs, hread true (-n).toNat (by rw [hn']; exact hn), hn']

end Bounds

end Fostering
