import Mathlib.Algebra.Order.Field.Basic
import Mathlib.Algebra.Order.Field.Rat
import Mathlib.Data.Nat.Cast.Order.Ring
import Mathlib.Tactic.NormNum
import Fostering.Proofs.Listing.Order

/-!
# What comes before what

The order of lists in terms of what the values mean: doubles by the numbers that they are, texts by
their code points, dates by the time, and what is absent after all that is there. Rows with like values
are told apart by their ids. Rows with ids of their own are strictly in this order after a sort, so there
is one way only to sort them, and the other direction is the same list backwards.

* `SortKey.below_iff`: the order of values that a sort goes by.
* `SortKey.below_absent_iff`: what is absent comes last in it.
* `pairwise_precedes_sortRows`: sorted rows come strictly one after another.
* `sortRows_desc`: a list in descending order is the ascending one backwards.
-/

namespace Fostering

/-! ## Doubles -/

namespace Binary64

/-- The number that a finite double is. -/
def value (negative : Bool) (mantissa : Nat) (exponent : Int) : ℚ :=
  (if negative then -1 else 1) * mantissa * 2 ^ exponent

/-- A ratio has the value of its double. -/
theorem ratio_eq_value (s : Bool) (m : Nat) (e : Int) :
    ((ratio s m e).1 : ℚ) / (ratio s m e).2 = value s m e := by
  have hmagnitude : ((magnitude m e).1 : ℚ) / (magnitude m e).2 = m * 2 ^ e := by
    unfold magnitude
    split_ifs with he
    · obtain ⟨n, rfl⟩ := Int.eq_ofNat_of_zero_le he
      rw [Int.toNat_natCast, zpow_natCast]
      push_cast
      exact div_one _
    · obtain ⟨n, hn⟩ := Int.eq_ofNat_of_zero_le (show 0 ≤ -e by omega)
      obtain rfl : e = -n := by omega
      rw [neg_neg, Int.toNat_natCast, zpow_neg, zpow_natCast]
      push_cast
      exact div_eq_mul_inv _ _
  unfold value
  rw [mul_assoc, ← hmagnitude]
  cases s with
  | false => rw [if_neg Bool.false_ne_true, one_mul]; rfl
  | true =>
      rw [if_pos rfl, neg_one_mul, ← neg_div]
      change ((-((magnitude m e).1 : Int) : Int) : ℚ) / _ = _
      push_cast
      rfl

/-- Finite doubles are in the order of the numbers that they are. -/
theorem le_iff_value_le {s t : Bool} {m k : Nat} {e f : Int} :
    (finite s m e).le (finite t k f) = true ↔ value s m e ≤ value t k f := by
  have hpos (s : Bool) (m : Nat) (e : Int) : (0 : ℚ) < (ratio s m e).2 :=
    Nat.cast_pos.mpr (ratio_pos s m e)
  rw [← ratio_eq_value, ← ratio_eq_value, div_le_div_iff₀ (hpos s m e) (hpos t k f)]
  simp only [le, decide_eq_true_eq]
  exact_mod_cast Iff.rfl

/-- A double comes before another: numbers in their order between the infinities, and after all of them
what is no number. -/
inductive Below : Binary64 → Binary64 → Prop
  | finite {s t : Bool} {m k : Nat} {e f : Int} (h : value s m e < value t k f) :
      Below (finite s m e) (finite t k f)
  | fromLeast {b : Binary64} (h : b ≠ infinite true) : Below (infinite true) b
  | toGreatest (s : Bool) (m : Nat) (e : Int) : Below (finite s m e) (infinite false)
  | toNan {a : Binary64} (h : a ≠ nan) : Below a nan

/-- Of two doubles, one is below the other if it does not come after it or with it. -/
theorem below_iff {a b : Binary64} : Below a b ↔ b.le a = false := by
  constructor
  · rintro (h | h | _ | h)
    · rw [← Bool.not_eq_true, le_iff_value_le, not_le]
      exact h
    · rcases b with _ | _ | _ <;> simp_all [le]
    · rfl
    · rcases a with _ | _ | _ <;> simp_all [le]
  · intro h
    rcases a with _ | s | ⟨s, m, e⟩ <;> rcases b with _ | t | ⟨t, k, f⟩
    case finite.finite =>
      rw [← Bool.not_eq_true, le_iff_value_le, not_le] at h
      exact .finite h
    case infinite.nan | finite.nan => exact .toNan (by simp)
    case finite.infinite =>
      obtain rfl : t = false := h
      exact .toGreatest s m e
    case infinite.finite =>
      obtain rfl : s = true := by simpa [le] using h
      exact .fromLeast (by simp)
    case infinite.infinite =>
      obtain ⟨rfl, rfl⟩ : t = false ∧ s = true := by simpa [le] using h
      exact .fromLeast (by decide)
    all_goals cases h

end Binary64

/-! ## Texts -/

/-- The code points of a text. -/
def codePoints (text : String) : List Nat := text.toList.map Char.toNat

/-- Texts are in the order of their code points. -/
theorem codePoints_lt_iff {x y : String} : codePoints x < codePoints y ↔ x < y := by
  have hlists (cs ds : List Char) : cs.map Char.toNat < ds.map Char.toNat ↔ cs < ds := by
    induction cs generalizing ds with
    | nil => cases ds <;> simp
    | cons c cs ih =>
        cases ds with
        | nil => simp
        | cons d ds =>
            have hchars : c.toNat < d.toNat ↔ c < d := Iff.rfl
            rw [List.map_cons, List.map_cons, List.cons_lt_cons_iff, List.cons_lt_cons_iff, ih, hchars,
              Char.toNat_inj]
  rw [String.lt_iff, codePoints, codePoints, hlists]

/-! ## Values -/

namespace SortKey

/-- A value comes before another. No column has values of two kinds, but that values may be absent, and
these come last of all. -/
inductive Below : SortKey → SortKey → Prop
  | int {x y : Int} (h : x < y) : Below (int x) (int y)
  | flag : Below (flag false) (flag true)
  | text {x y : String} (h : codePoints x < codePoints y) : Below (text x) (text y)
  | moment {x y : Instant} (h : x.before y = true) : Below (moment x) (moment y)
  | real {x y : Binary64} (h : Binary64.Below x y) : Below (real x) (real y)
  | kind {a b : SortKey} (h : a.rank < b.rank) : Below a b

/-- Of two values, one is below the other if it does not come after it or with it. -/
theorem below_iff {a b : SortKey} : Below a b ↔ b.le a = false := by
  by_cases hrank : a.rank = b.rank
  case neg =>
    rw [le_of_rank_ne (Ne.symm hrank), decide_eq_false_iff_not, Nat.not_le]
    constructor
    · rintro (_ | _ | _ | _ | _ | h)
      case kind => exact h
      all_goals exact absurd rfl hrank
    · exact .kind
  constructor
  · rintro (h | _ | h | h | h | h)
    · simpa [le] using h
    · rfl
    · simpa [le] using codePoints_lt_iff.mp h
    · simpa [le] using h
    · exact Binary64.below_iff.mp h
    · omega
  · intro h
    cases a <;> cases b <;> try (simp [rank] at hrank; done)
    case int.int => exact .int (by simpa [le] using h)
    case flag.flag x y =>
      cases x <;> cases y <;> first | exact .flag | cases h
    case text.text => exact .text (codePoints_lt_iff.mpr (by simpa [le] using h))
    case moment.moment => exact .moment (by simpa [le] using h)
    case real.real => exact .real (Binary64.below_iff.mpr h)
    case absent.absent => cases h

/-- No value is below itself. -/
theorem not_below_self (a : SortKey) : ¬Below a a := by
  have hle : a.le a = true := or_self_iff.mp (le_total a a)
  rw [below_iff, hle]
  exact nofun

/-- What is absent comes after every value. -/
theorem below_absent_iff {a : SortKey} : Below a absent ↔ a ≠ absent := by
  rw [below_iff]
  cases a <;> simp [le, rank]

/-- One value comes before another, or they are alike and the ids are in order. A descending list runs
the other way, through the ids, too. -/
def Precedes : Direction → SortKey × Int → SortKey × Int → Prop
  | .asc, a, b => Below a.1 b.1 ∨ ¬Below b.1 a.1 ∧ a.2 < b.2
  | .desc, a, b => Below b.1 a.1 ∨ ¬Below a.1 b.1 ∧ b.2 < a.2

variable {direction : Direction} {a b : SortKey × Int}

/-- Rows with different ids are in order as the sort compares them. -/
theorem precedes_asc_iff (hid : a.2 ≠ b.2) : Precedes .asc a b ↔ leWithId a b = true := by
  change Below a.1 b.1 ∨ ¬Below b.1 a.1 ∧ a.2 < b.2 ↔ _
  rw [leWithId_iff, below_iff, below_iff, Bool.not_eq_false]
  constructor
  · exact fun h => h.imp_right fun h => ⟨h.1, Int.le_of_lt h.2⟩
  · exact fun h => h.imp_right fun h => ⟨h.1, lt_of_le_of_ne h.2 hid⟩

/-- Where ids differ, a sort goes by what comes before what. -/
theorem precedes_iff (hid : a.2 ≠ b.2) : Precedes direction a b ↔ ordered direction a b = true := by
  cases direction with
  | asc => exact precedes_asc_iff hid
  | desc => exact precedes_asc_iff hid.symm

/-- No two rows come before one another. -/
theorem precedes_asc_asymm (h : Precedes .asc a b) : ¬Precedes .asc b a := by
  have htotal := le_total a.1 b.1
  unfold Precedes at *
  simp only [below_iff] at *
  rintro (hba | ⟨hba, hid⟩)
  · rcases h with hab | ⟨hab, -⟩
    · rcases htotal with hle | hle
      · rw [hle] at hba
        cases hba
      · rw [hle] at hab
        cases hab
    · exact hab hba
  · rcases h with hab | ⟨-, hid'⟩
    · exact hba hab
    · omega

/-- Rows that are alike are in the order of their ids. -/
theorem Precedes.lt_of_same {key : SortKey} {i j : Int} (h : Precedes .asc (key, i) (key, j)) : i < j := by
  rcases h with hbelow | ⟨-, hid⟩
  · exact absurd hbelow (not_below_self key)
  · exact hid

/-- Of two rows at most one comes before the other. -/
theorem Precedes.asymm (h : Precedes direction a b) : ¬Precedes direction b a := by
  cases direction with
  | asc => exact precedes_asc_asymm h
  | desc => exact precedes_asc_asymm h

end SortKey

/-! ## Sorted rows -/

section

open SortKey (Precedes)

variable {ρ : Type} (key : ρ → SortKey) {id : ρ → Int} {rows : List ρ}

/-- Rows with ids of their own have them still once they are sorted. -/
theorem nodup_sortRows (direction : Direction) (hids : (rows.map id).Nodup) :
    ((sortRows direction key id rows).map id).Nodup :=
  ((perm_sortRows direction key id rows).map id).nodup_iff.mpr hids

/-- **Rows with ids of their own come strictly one after another once they are sorted.** -/
theorem pairwise_precedes_sortRows (direction : Direction) (hids : (rows.map id).Nodup) :
    (sortRows direction key id rows).Pairwise fun r s =>
      Precedes direction (key r, id r) (key s, id s) := by
  have hapart : (sortRows direction key id rows).Pairwise fun r s => id r ≠ id s :=
    List.pairwise_map.mp (nodup_sortRows key direction hids)
  refine (hapart.and (pairwise_sortRows direction key id rows)).imp fun h => ?_
  exact (SortKey.precedes_iff h.1).mpr h.2

/-- **A list in descending order is the ascending one backwards.** -/
theorem sortRows_desc (hids : (rows.map id).Nodup) :
    sortRows .desc key id rows = (sortRows .asc key id rows).reverse := by
  have hdesc := pairwise_precedes_sortRows key .desc hids
  have hasc := pairwise_precedes_sortRows key .asc hids
  have hperm : (sortRows .desc key id rows).Perm (sortRows .asc key id rows).reverse :=
    (perm_sortRows .desc key id rows).trans
      ((perm_sortRows .asc key id rows).symm.trans (List.reverse_perm _).symm)
  refine hperm.eq_of_pairwise (fun r s _ _ hrs hsr => ?_) hdesc (List.pairwise_reverse.mpr hasc)
  exact absurd hsr hrs.asymm

end

/-- A list that is in two orders has no two members that are in one of them and in the other the other way
round. -/
theorem not_crossed {α : Type} {R S : α → α → Prop} (hR : ∀ a b, R a b → ¬R b a) (hS : ∀ a b, S a b → ¬S b a)
    {rows : List α} (h : rows.Pairwise R) (h' : rows.Pairwise S) :
    ∀ a ∈ rows, ∀ b ∈ rows, R a b → ¬S b a := by
  induction rows with
  | nil => exact nofun
  | cons first rows ih =>
      obtain ⟨hfirst, hrest⟩ := List.pairwise_cons.mp h
      obtain ⟨hfirst', hrest'⟩ := List.pairwise_cons.mp h'
      intro a ha b hb hab
      rcases List.mem_cons.mp ha with rfl | hmem <;> rcases List.mem_cons.mp hb with rfl | hmem'
      · exact absurd hab (hR _ _ hab)
      · exact hS _ _ (hfirst' b hmem')
      · exact absurd hab (hR _ _ (hfirst a hmem))
      · exact ih hrest hrest' a hmem b hmem' hab

end Fostering
