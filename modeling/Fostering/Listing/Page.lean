/-!
# Pages of a list

A page is a limit and an offset that are always usable: at least one row, at most a hundred, never
a negative start. `Page.ofRequest` brings any request into these bounds, and `Page.slice` cuts the
page out of the whole list.
-/

namespace Fostering

/-- Rows of a page when the client says nothing. -/
def defaultLimit : Int := 20

/-- Most rows that a page may have. -/
def maxLimit : Int := 100

/-- A requested limit brought into `[1, most]`. The upper bound wins if the two cross. -/
def clampLimit (limit : Option Int) (default most : Int) : Int :=
  min (max (limit.getD default) 1) most

/-- A requested offset, not below zero. -/
def clampOffset (offset : Option Int) : Int := max (offset.getD 0) 0

/-- A window onto a list. -/
structure Page where
  limit : Int
  offset : Int
  deriving DecidableEq

namespace Page

/-- The page for a request. -/
def ofRequest (limit offset : Option Int) : Page :=
  ⟨clampLimit limit defaultLimit maxLimit, clampOffset offset⟩

instance : Inhabited Page := ⟨ofRequest none none⟩

/-- The rows of a list that the page shows. -/
def slice {α : Type} (page : Page) (rows : List α) : List α :=
  (rows.drop page.offset.toNat).take page.limit.toNat

/-- Every page has room for a row. -/
theorem one_le_limit_ofRequest (limit offset : Option Int) : 1 ≤ (ofRequest limit offset).limit := by
  simp only [ofRequest, clampLimit, maxLimit]; omega

/-- No request asks for longer pages than the service gives. -/
theorem limit_ofRequest_le (limit offset : Option Int) : (ofRequest limit offset).limit ≤ maxLimit := by
  simp only [ofRequest, clampLimit]; omega

/-- No page begins before the first row. -/
theorem offset_ofRequest_nonneg (limit offset : Option Int) : 0 ≤ (ofRequest limit offset).offset := by
  simp only [ofRequest, clampOffset]; omega

/-- A page shows no more rows than it has room for. -/
theorem length_slice_le {α : Type} (page : Page) (rows : List α) :
    (page.slice rows).length ≤ page.limit.toNat := by
  simp only [slice, List.length_take]; omega

end Page

end Fostering
