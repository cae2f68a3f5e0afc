import Fostering.Database.Rows

/-!
# Lists

A list shows the live rows that a filter keeps, in the order of a column and of the id after it, both
in the same direction, and of these a page. Column names are not told apart by case.
-/

namespace Fostering

/-- A condition on the rows of a list. -/
class Filter (φ ρ : Type) where
  /-- The texts that rows are compared with. -/
  texts : φ → List String := fun _ => []
  /-- Whether a list shows a row. -/
  keeps : φ → ρ → Bool

namespace Filter

/-- Whether a value is the wanted one, if one is wanted. -/
def agrees {α : Type} [DecidableEq α] (wanted : Option α) (value : α) : Bool :=
  wanted.all (value = ·)

/-- Whether a value that may be absent is the wanted one, if one is wanted. -/
def agrees? {α : Type} [DecidableEq α] (wanted value : Option α) : Bool :=
  wanted.isNone || value = wanted

instance : Filter UserFilter User where
  texts f := presentTexts [f.city]
  keeps f u := agrees? f.city u.city

instance : Filter KeeperFilter Keeper where
  texts f := presentTexts [f.city]
  keeps f k := agrees? f.city k.city && agrees f.hasCage k.hasCage && f.minRating.all (·.le k.rating)

instance : Filter SeekerFilter Seeker where
  texts f := presentTexts [f.city, f.animalType]
  keeps f s := agrees? f.city s.city && agrees? f.animalType s.animalType

instance : Filter VetFilter Vet where
  texts f := presentTexts [f.city, f.specialization]
  keeps f v := agrees? f.city v.city && agrees? f.specialization v.specialization

instance : Filter PostFilter Post where
  texts f := presentTexts [f.status, f.city, f.animalType]
  keeps f p :=
    agrees f.authorId p.authorId && agrees f.status p.status && agrees? f.city p.city
      && agrees? f.animalType p.animalType
      && f.visibleTo.all fun viewer => p.status = PostStatus.published.name || p.authorId = viewer

instance : Filter ReviewFilter Review where
  keeps f r := r.keeperId = f.keeperId

instance : Filter MessageFilter Message where
  keeps f m := m.chatId = f.chatId

end Filter

namespace SortKey

/-- Whether a value comes with its id before or with another. -/
def leWithId (a b : SortKey × Int) : Bool :=
  if !b.1.le a.1 then true else if !a.1.le b.1 then false else a.2 ≤ b.2

/-- The order of a direction. -/
def ordered : Direction → SortKey × Int → SortKey × Int → Bool
  | .asc, a, b => leWithId a b
  | .desc, a, b => leWithId b a

end SortKey

/-- Rows in the order of a key and of their ids. -/
def sortRows {ρ : Type} (direction : Direction) (key : ρ → SortKey) (id : ρ → Int)
    (rows : List ρ) : List ρ :=
  rows.mergeSort fun a b => SortKey.ordered direction (key a, id a) (key b, id b)

/-- The cause of an order by a column that is not there. -/
def noSuchColumn : Error := .internal "column does not exist"

namespace Database

/-- A page of the live rows that a filter keeps. -/
def list {ρ φ : Type} [Table ρ] [HasEntry ρ] [Columns ρ] [Filter φ ρ] (filter : φ)
    (order : ListOrder) (page : Page) : Op Database (List ρ) := do
  Op.guard ((Filter.texts ρ filter).all isStorableText) unstorable
  let key ← Op.orRefuse noSuchColumn
    (Columns.column? (String.ofList (order.column.toList.map Char.toLower)))
  look fun t =>
    page.slice <| sortRows order.direction key HasEntry.id <|
      (Table.rows t).filter fun r => HasEntry.isLive r && Filter.keeps filter r

end Database

end Fostering
