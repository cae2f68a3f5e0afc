import Fostering.Proofs.Database.Statements
import Fostering.Proofs.Json.Objects
import Fostering.Proofs.Requests.Texts

/-!
# Three-valued changes

A request to change a row says one of three things about a column: nothing, `null`, or a value. A column
that may be empty keeps its value, is emptied or takes the value; any other column keeps its value for
`null`, too (`Column.Overlaid`). The columns that the requests of a kind may change are listed, with the
keys that they go by, and `PatchesColumns` says that such a request changes all of them so, by the member
of its object with the key of the column.

* `PatchesColumns.overlaid`: an object changes the columns by its members.
* `PatchesColumns.touched`: an empty body changes nothing but the time of the last change.
-/

namespace Fostering

open Json (Field Kind Member Row)

/-! ## Columns -/

/-- A column of a kind of row that requests may change, with its key in requests. -/
inductive Column (ρ : Type) where
  /-- A column that always has a value. -/
  | filled (key : String) (kind : Kind) (get : ρ → kind.Value)
  /-- A column that may be empty. -/
  | nullable (key : String) (kind : Kind) (get : ρ → Option kind.Value)

namespace Column

variable {ρ : Type}

/-- The field of a request that changes the column. -/
def field : Column ρ → Field
  | filled key kind _ => ⟨key, kind, .changeable⟩
  | nullable key kind _ => ⟨key, kind, .clearable⟩

/-- What an object with these members makes of a column. -/
def Overlaid (members : List Member) (old new : ρ) : Column ρ → Prop
  | filled key kind get =>
    ((∀ value, (key, value) ∉ members) → get new = get old) ∧
      ((key, Json.nullText) ∈ members → get new = get old) ∧
      ∀ value, (key, value) ∈ members → value ≠ Json.nullText → kind.Means value (get new)
  | nullable key kind get =>
    ((∀ value, (key, value) ∉ members) → get new = get old) ∧
      ((key, Json.nullText) ∈ members → get new = none) ∧
      ∀ value, (key, value) ∈ members → value ≠ Json.nullText →
        ∃ a, kind.Means value a ∧ get new = some a

/-- A column that is the same in both rows. -/
def Kept (old new : ρ) : Column ρ → Prop
  | filled _ _ get => get new = get old
  | nullable _ _ get => get new = get old

/-- A column that has been changed as a field of a request says. -/
def Applied (old new : ρ) : (column : Column ρ) → column.field.Value → Prop
  | filled _ _ get, change => get new = change.apply (get old)
  | nullable _ _ get, change => get new = change.apply (get old)

end Column

/-! ## What the members of an object say -/

namespace Json

/-- The values of a name are those of the members with that name. -/
theorem mem_valuesOf {name : String} {members : List Member} {value : Bytes} :
    value ∈ valuesOf name members ↔ (name, value) ∈ members := by
  simp [valuesOf]

/-- `null` means no text, no flag and no number. -/
theorem not_means_nullText {kind : Kind} {a : kind.Value} : ¬kind.Means nullText a := by
  intro h
  generalize hvalue : nullText = value at h
  have hfirst : value.head? = some 0x6E := by rw [← hvalue]; rfl
  cases h with
  | text value s h =>
      cases h
      cases hfirst
  | yes | no => cases hfirst
  | whole width value n h hfits =>
      cases h with
      | positive digits hdigits =>
          have hdigit := hdigits.1.2 0x6E (List.mem_of_mem_head? hfirst)
          exact absurd hdigit (by decide)
      | negative digits hdigits => cases hfirst

/-- What a field of a change holds: nothing was said, or one member says it. -/
theorem Field.Holds.cases {field : Field} {members : List Member} {v : field.Value}
    (h : field.Holds members v) :
    (∀ value, (field.name, value) ∉ members) ∧ field.absent = .ok v ∨
      ∃ value, (∀ value', (field.name, value') ∈ members ↔ value' = value) ∧ field.Takes value v := by
  unfold Field.Holds at h
  rcases hvalues : valuesOf field.name members with _ | ⟨value, _ | ⟨value', values⟩⟩
  · rw [hvalues] at h
    refine .inl ⟨fun value hmem => ?_, h⟩
    rw [← mem_valuesOf, hvalues] at hmem
    cases hmem
  · rw [hvalues] at h
    refine .inr ⟨value, fun value' => ?_, h⟩
    rw [← mem_valuesOf, hvalues, List.mem_singleton]
  · rw [hvalues] at h
    exact h.elim

/-- A field of a change tells three things from each other: nothing was said, `null` was, or a value. -/
theorem Field.Holds.overlay {field : Field} {members : List Member} {v : field.Value}
    (h : field.Holds members v) {Kept Emptied : Prop} {Given : Bytes → Prop}
    (hkept : field.absent = .ok v → Kept) (hemptied : field.Takes nullText v → Emptied)
    (hgiven : ∀ value, value ≠ nullText → field.Takes value v → Given value) :
    ((∀ value, (field.name, value) ∉ members) → Kept) ∧ ((field.name, nullText) ∈ members → Emptied) ∧
      ∀ value, (field.name, value) ∈ members → value ≠ nullText → Given value := by
  rcases h.cases with ⟨hnone, habsent⟩ | ⟨value, hone, htakes⟩
  · exact ⟨fun _ => hkept habsent, fun hmem => absurd hmem (hnone _), fun _ hmem => absurd hmem (hnone _)⟩
  · have hthere : (field.name, value) ∈ members := (hone value).mpr rfl
    refine ⟨fun hnone => absurd hthere (hnone value), fun hnull => ?_, fun value' hmem hvalue => ?_⟩
    · obtain rfl := (hone _).mp hnull
      exact hemptied htakes
    · obtain rfl := (hone _).mp hmem
      exact hgiven _ hvalue htakes

end Json

namespace Column

variable {ρ : Type} {members : List Member} {old new : ρ}

/-- A column is changed by the member with its key. -/
theorem overlaid_of_holds {column : Column ρ} {change : column.field.Value}
    (happlied : column.Applied old new change) (h : column.field.Holds members change) :
    column.Overlaid members old new := by
  cases column with
  | filled key kind get =>
      have hget : get new = change.apply (get old) := happlied
      refine h.overlay (fun habsent => ?_) (fun htakes => ?_) fun value hvalue htakes => ?_
      · cases habsent
        exact hget
      · rcases htakes with ⟨-, rfl⟩ | ⟨a, hmeans, -⟩
        · exact hget
        · exact absurd hmeans Json.not_means_nullText
      · rcases htakes with ⟨hnull, -⟩ | ⟨a, hmeans, rfl⟩
        · exact absurd hnull hvalue
        · rw [hget]
          exact hmeans
  | nullable key kind get =>
      have hget : get new = change.apply (get old) := happlied
      refine h.overlay (fun habsent => ?_) (fun htakes => ?_) fun value hvalue htakes => ?_
      · cases habsent
        exact hget
      · rcases htakes with ⟨-, rfl⟩ | ⟨a, hmeans, -⟩
        · exact hget
        · exact absurd hmeans Json.not_means_nullText
      · rcases htakes with ⟨hnull, -⟩ | ⟨a, hmeans, rfl⟩
        · exact absurd hnull hvalue
        · exact ⟨a, hmeans, hget⟩

/-- The columns have been changed as the row of a request says. -/
def AllApplied (old new : ρ) : (columns : List (Column ρ)) → Row (columns.map field) → Prop
  | [], _ => True
  | column :: columns, (change, row) => column.Applied old new change ∧ AllApplied old new columns row

/-- What was applied to each column of a row is what the members say about it. -/
theorem allOverlaid {columns : List (Column ρ)} {row : Row (columns.map field)}
    (happlied : AllApplied old new columns row) (h : Json.Row.Holds members (columns.map field) row) :
    ∀ column ∈ columns, column.Overlaid members old new := by
  induction columns with
  | nil => exact fun _ hmem => nomatch hmem
  | cons column columns ih =>
      exact List.forall_mem_cons.mpr ⟨overlaid_of_holds happlied.1 h.1, ih happlied.2 h.2⟩

end Column

/-! ## Requests to change a row -/

/-- What a request to change a row is read from: nothing, or the row of a body. -/
theorem Request.read_cases {κ : Type} [Request κ] {body : Bytes} {request : κ}
    (h : Request.read κ body = .ok request) :
    (body.all Text.isAsciiBlank = true ∧ request = Request.ofRow (Row.empty _)) ∨
      ¬body.all Text.isAsciiBlank = true ∧
        ∃ row, Json.Shape.read (Request.shape κ) body = .ok row ∧ request = Request.ofRow row := by
  unfold Request.read at h
  split_ifs at h with hblank
  · cases h
    exact .inl ⟨hblank, rfl⟩
  · rcases hread : Json.Shape.read (Request.shape κ) body with fault | row
    · rw [hread] at h
      cases h
    · rw [hread] at h
      cases h
      exact .inr ⟨hblank, row, rfl, rfl⟩

/-- The requests of a kind change these columns of a row, and each by its own field. -/
structure PatchesColumns {ρ : Type} (κ : Type) [Editable ρ] [Request κ] (columns : List (Column ρ))
    (apply : κ → ρ → ρ) : Prop where
  shape : (Request.shape κ).fields = columns.map Column.field
  names : ((columns.map Column.field).map Field.name).Nodup
  kinds : ∀ field ∈ columns.map Column.field, field.kind.isScalar = true
  applied : ∀ (row : Row (Request.shape κ).fields) (old : ρ) (now : Instant),
    Column.AllApplied old (Database.changed (HasEntry.modifyEntry (·.touched now)
      (apply (Request.ofRow row) old)) old now) columns (shape ▸ row)
  idle : ∀ (old : ρ) (now : Instant),
    Database.changed (HasEntry.modifyEntry (·.touched now) (apply (Request.ofRow (Row.empty _)) old)) old
      now = HasEntry.modifyEntry (·.touched now.stored) old

/-- A row holds the same under another name of its fields. -/
theorem Json.Row.holds_cast {members : List Member} {fields fields' : List Field} (h : fields = fields')
    {row : Row fields} (hrow : Json.Row.Holds members fields row) :
    Json.Row.Holds members fields' (h ▸ row) := by
  subst h
  exact hrow

/-- An object is not made of blanks only. -/
theorem Json.IsObject.not_isBlank {members : List Member} {body : Bytes} (h : IsObject members body) :
    ¬body.all Text.isAsciiBlank = true := by
  obtain ⟨before, inside, after, -, -, -⟩ := h
  intro hblank
  have hbrace := List.all_eq_true.mp hblank 0x7B (by simp)
  exact absurd hbrace (by decide)

namespace PatchesColumns

variable {ρ κ : Type} [Editable ρ] [Request κ] {columns : List (Column ρ)} {apply : κ → ρ → ρ}
  {body : Bytes} {request : κ}

/-- **An object changes the columns by its members**, each by the one with its key. -/
theorem overlaid (h : PatchesColumns κ columns apply) (hread : Request.read κ body = .ok request)
    {members : List Member} (hobject : Json.IsObject members body) (old : ρ) (now : Instant) :
    ∀ column ∈ columns, column.Overlaid members old
      (Database.changed (HasEntry.modifyEntry (·.touched now) (apply request old)) old now) := by
  rcases Request.read_cases hread with ⟨hblank, -⟩ | ⟨-, row, hrow, rfl⟩
  · exact absurd hblank hobject.not_isBlank
  · have hholds := Json.Shape.read_object (by rw [h.shape]; exact h.kinds) (by rw [h.shape]; exact h.names)
      hobject hrow
    exact Column.allOverlaid (h.applied row old now) (Json.Row.holds_cast h.shape hholds)

/-- **An empty body changes nothing but the time of the last change.** -/
theorem touched (h : PatchesColumns κ columns apply) (hread : Request.read κ body = .ok request)
    (hblank : body.all Text.isAsciiBlank = true) (old : ρ) (now : Instant) :
    Database.changed (HasEntry.modifyEntry (·.touched now) (apply request old)) old now =
      HasEntry.modifyEntry (·.touched now.stored) old := by
  rcases Request.read_cases hread with ⟨-, rfl⟩ | ⟨hnot, -⟩
  · exact h.idle old now
  · exact absurd hblank hnot

end PatchesColumns

/-! ## The columns of each kind of row -/

/-- The columns of users that requests may change. -/
def User.columns : List (Column User) :=
  [.filled "username" .text User.username, .filled "email" .text User.email,
    .filled "first_name" .text User.firstName, .filled "last_name" .text User.lastName,
    .nullable "city" .text User.city, .nullable "phone" .text User.phone,
    .nullable "about" .text User.about]

/-- The columns of keepers that requests may change. -/
def Keeper.columns : List (Column Keeper) :=
  [.nullable "description" .text Keeper.description, .nullable "price" (.whole .w32) Keeper.price,
    .filled "has_cage" .flag Keeper.hasCage,
    .filled "boarding_capacity" (.whole .w32) Keeper.boardingCapacity,
    .nullable "animal_types" .text Keeper.animalTypes, .nullable "city" .text Keeper.city]

/-- The columns of seekers that requests may change. -/
def Seeker.columns : List (Column Seeker) :=
  [.nullable "description" .text Seeker.description, .nullable "animal_type" .text Seeker.animalType,
    .nullable "city" .text Seeker.city]

/-- The columns of vets that requests may change. -/
def Vet.columns : List (Column Vet) :=
  [.filled "clinic_name" .text Vet.clinicName, .nullable "specialization" .text Vet.specialization,
    .filled "experience_years" (.whole .w32) Vet.experienceYears,
    .nullable "price" (.whole .w32) Vet.price, .nullable "city" .text Vet.city]

/-- The columns of posts that requests may change. -/
def Post.columns : List (Column Post) :=
  [.filled "title" .text Post.title, .filled "body" .text Post.body,
    .nullable "animal_type" .text Post.animalType, .nullable "city" .text Post.city,
    .filled "status" .text Post.status]

/-- The columns of reviews that requests may change. -/
def Review.columns : List (Column Review) :=
  [.filled "grade" (.whole .w16) Review.grade, .nullable "comment" .text Review.comment]

/-- The columns of messages that requests may change. -/
def Message.columns : List (Column Message) := [.filled "content" .text Message.content]

/-- The columns of an account that requests may change. -/
theorem patches_users : PatchesColumns UpdateUser User.columns UpdateUser.apply where
  shape := rfl
  names := by decide
  kinds := by decide
  applied _ _ _ := ⟨rfl, rfl, rfl, rfl, rfl, rfl, rfl, trivial⟩
  idle _ _ := rfl

/-- The columns of a keeper that requests may change. -/
theorem patches_keepers : PatchesColumns UpdateKeeper Keeper.columns UpdateKeeper.apply where
  shape := rfl
  names := by decide
  kinds := by decide
  applied _ _ _ := ⟨rfl, rfl, rfl, rfl, rfl, rfl, trivial⟩
  idle _ _ := rfl

/-- The columns of a seeker that requests may change. -/
theorem patches_seekers : PatchesColumns UpdateSeeker Seeker.columns UpdateSeeker.apply where
  shape := rfl
  names := by decide
  kinds := by decide
  applied _ _ _ := ⟨rfl, rfl, rfl, trivial⟩
  idle _ _ := rfl

/-- The columns of a vet that requests may change. -/
theorem patches_vets : PatchesColumns UpdateVet Vet.columns UpdateVet.apply where
  shape := rfl
  names := by decide
  kinds := by decide
  applied _ _ _ := ⟨rfl, rfl, rfl, rfl, rfl, trivial⟩
  idle _ _ := rfl

/-- The columns of a post that requests may change. -/
theorem patches_posts : PatchesColumns UpdatePost Post.columns UpdatePost.apply where
  shape := rfl
  names := by decide
  kinds := by decide
  applied _ _ _ := ⟨rfl, rfl, rfl, rfl, rfl, trivial⟩
  idle _ _ := rfl

/-- The columns of a review that requests may change. -/
theorem patches_reviews : PatchesColumns UpdateReview Review.columns UpdateReview.apply where
  shape := rfl
  names := by decide
  kinds := by decide
  applied _ _ _ := ⟨rfl, rfl, trivial⟩
  idle _ _ := rfl

/-- The columns of a message that requests may change. -/
theorem patches_messages : PatchesColumns UpdateMessage Message.columns UpdateMessage.apply where
  shape := rfl
  names := by decide
  kinds := by decide
  applied _ _ _ := ⟨rfl, trivial⟩
  idle _ _ := rfl

end Fostering
