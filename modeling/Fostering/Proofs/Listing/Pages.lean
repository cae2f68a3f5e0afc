import Mathlib.Data.List.Range
import Fostering.Listing.Page

/-!
# All pages of a list

The pages of one size that begin where the one before ends. One after another they make up the list,
as soon as there are enough of them (`flatMap_slice_nth`), and that is the case at the first page that is
empty (`exists_count`).
-/

namespace Fostering.Page

/-- The page with a number, of pages that all have one size. -/
def nth (limit : Int) (n : Nat) : Page := ⟨limit, n * limit⟩

variable {α : Type} {limit : Int}

/-- What a page of a list is, by its number. -/
theorem slice_nth (h : 1 ≤ limit) (rows : List α) (n : Nat) :
    (nth limit n).slice rows = (rows.drop (n * limit.toNat)).take limit.toNat := by
  have hoffset : (n * limit).toNat = n * limit.toNat := by
    rw [Int.toNat_mul (Int.natCast_nonneg n) (by omega), Int.toNat_natCast]
  rw [slice, nth, hoffset]

/-- Some first pages are the beginning of a list. -/
theorem flatMap_slice_eq_take (h : 1 ≤ limit) (rows : List α) (n : Nat) :
    (List.range n).flatMap (fun k => (nth limit k).slice rows) = rows.take (n * limit.toNat) := by
  induction n with
  | zero => simp
  | succ n ih =>
      rw [List.range_succ, List.flatMap_append, ih, List.flatMap_singleton, slice_nth h, Nat.succ_mul,
        List.take_add]

/-- **Enough pages, one after another, are the list.** -/
theorem flatMap_slice_nth (h : 1 ≤ limit) (rows : List α) {n : Nat}
    (hn : rows.length ≤ n * limit.toNat) :
    (List.range n).flatMap (fun k => (nth limit k).slice rows) = rows := by
  rw [flatMap_slice_eq_take h, List.take_of_length_le hn]

/-- A page is empty if the pages before it have all the rows. -/
theorem slice_nth_eq_nil_iff (h : 1 ≤ limit) (rows : List α) (n : Nat) :
    (nth limit n).slice rows = [] ↔ rows.length ≤ n * limit.toNat := by
  rw [slice_nth h, List.take_eq_nil_iff, List.drop_eq_nil_iff]
  omega

/-- **Whoever reads page after page until one is empty has read the list.** From then on all pages are
empty. -/
theorem exists_count (h : 1 ≤ limit) (rows : List α) :
    ∃ count : Nat, (∀ n, (nth limit n).slice rows = [] ↔ count ≤ n) ∧
      (List.range count).flatMap (fun n => (nth limit n).slice rows) = rows := by
  let size : Nat := limit.toNat
  have hsize : 0 < size := by omega
  have hcount (n : Nat) : (rows.length + (size - 1)) / size ≤ n ↔ rows.length ≤ n * size := by
    rw [Nat.div_le_iff_le_mul_add_pred hsize, Nat.mul_comm size n]
    omega
  refine ⟨(rows.length + (size - 1)) / size, fun n => ?_, ?_⟩
  · rw [slice_nth_eq_nil_iff h, hcount]
  · exact flatMap_slice_nth h rows ((hcount _).mp (Nat.le_refl _))

/-- A page of what rows become is what the rows of the page become. -/
theorem slice_map {β : Type} (f : α → β) (page : Page) (rows : List α) :
    page.slice (rows.map f) = (page.slice rows).map f := by
  rw [slice, slice, List.map_take, List.map_drop]

end Fostering.Page
