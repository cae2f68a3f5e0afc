import Mathlib.Data.List.Forall2
import Mathlib.Data.List.TakeWhile
import Mathlib.Tactic.SplitIfs
import Fostering.Chat
import Fostering.Keeper
import Fostering.Listing.Sort
import Fostering.Post
import Fostering.Review
import Fostering.Seeker
import Fostering.User
import Fostering.Vet

/-!
# What order a text asks for

A text asks for a field and a direction, on the two sides of its first colon, and each of them may be missing.
Blanks count neither at its ends nor at those of its halves (`SortTerms.Asks`), and in the direction capitals
count as small letters (`Direction.IsSpelled`). An order is granted exactly if the field is one that the list
may be sorted by and the direction is one of the two; what is missing is filled in by the defaults.

* `SortTerms.read_eq_ok_iff`, `Direction.read_eq_ok_iff`: what the halves of a text are, and the
  direction that the second one spells.
* `ListOrder.resolve_eq_ok_iff`, `ListOrder.resolve_eq_error_iff`: which order is found for a text, or for
  which of three faults none is.
* `ListOrder.resolve_of_isShown`: an order is found again for every text that shows it.
* `ListOrder.order_of_text`: all of it, for requests.
-/

namespace Fostering

open Text (AllBlank IsTrimmed TrimsTo isBlank trimChars)

section

variable {ε α β : Type} {x : Except ε α} {f : α → Except ε β}

/-- Two steps give a result if each of them does. -/
theorem bind_eq_ok_iff {b : β} : (x >>= f) = .ok b ↔ ∃ a, x = .ok a ∧ f a = .ok b := by
  rcases x with e | a
  · exact ⟨nofun, nofun⟩
  · constructor
    · exact fun h => ⟨a, rfl, h⟩
    · rintro ⟨_, ha, h⟩
      cases ha
      exact h

/-- Two steps come to an error through the first of them or through the second. -/
theorem bind_eq_error_iff {e : ε} :
    (x >>= f) = .error e ↔ x = .error e ∨ ∃ a, x = .ok a ∧ f a = .error e := by
  rcases x with e' | a
  · constructor
    · exact fun h => .inl (congrArg Except.error (Except.error.inj h))
    · rintro (h | ⟨_, h, _⟩)
      · exact congrArg Except.error (Except.error.inj h)
      · cases h
  · constructor
    · exact fun h => .inr ⟨a, rfl, h⟩
    · rintro (h | ⟨_, ha, h⟩)
      · cases h
      · cases ha
        exact h

end

/-! ## The halves of a text -/

namespace SortTerms

variable {text : Option String} {given : String} {left right core : List Char} {terms : SortTerms}

/-- What a text asks for: nothing, if there is none or only blanks, and otherwise what stands on the two sides of
the first colon in it. -/
inductive Asks : Option String → SortTerms → Prop where
  | absent : Asks none ⟨"", ""⟩
  | blank (given : String) (h : TrimsTo given.toList []) : Asks (some given) ⟨"", ""⟩
  | halves (given : String) (left right : List Char) (terms : SortTerms)
      (htext : TrimsTo given.toList (left ++ sortDelimiter :: right)) (hleft : sortDelimiter ∉ left)
      (hfield : TrimsTo left terms.field.toList) (hdirection : TrimsTo right terms.direction.toList) :
      Asks (some given) terms

/-- There is something in a text, but no colon. -/
structure IsMalformed (text : Option String) (core : String) : Prop where
  trims : ∃ given ∈ text, TrimsTo given.toList core.toList
  ne_empty : core ≠ ""
  undelimited : sortDelimiter ∉ core.toList

/-- Of a blank text nothing is asked. -/
theorem read_of_blank (h : TrimsTo given.toList []) : read given = .ok ⟨"", ""⟩ := by
  simp only [read, h.trimChars_eq, if_pos]

/-- Of no text nothing is asked. -/
theorem read_empty : read "" = .ok ⟨"", ""⟩ := read_of_blank Text.isTrimmed_nil.trimsTo_self

/-- A text without a colon is malformed, unless it is blank. -/
theorem read_of_undelimited (h : TrimsTo given.toList core) (hne : core ≠ [])
    (hcore : sortDelimiter ∉ core) : read given = .error (.malformed (String.ofList core)) := by
  have hrest : core.dropWhile (· ≠ sortDelimiter) = [] := by
    refine List.dropWhile_eq_nil_iff.mpr fun c hc => decide_eq_true ?_
    rintro rfl
    exact hcore hc
  simp only [read, h.trimChars_eq, if_neg hne, hrest]

/-- A text is read as the two sides of its first colon, without the blanks around them. -/
theorem read_of_halves (h : TrimsTo given.toList (left ++ sortDelimiter :: right))
    (hleft : sortDelimiter ∉ left) :
    read given = .ok ⟨String.ofList (trimChars left), String.ofList (trimChars right)⟩ := by
  have hne : left ++ sortDelimiter :: right ≠ [] := List.append_ne_nil_of_right_ne_nil _ (List.cons_ne_nil _ _)
  have hpass : ∀ c ∈ left, decide (c ≠ sortDelimiter) = true := by
    intro c hc
    refine decide_eq_true ?_
    rintro rfl
    exact hleft hc
  have hdrop : (left ++ sortDelimiter :: right).dropWhile (· ≠ sortDelimiter) = sortDelimiter :: right := by
    rw [List.dropWhile_append_of_pos hpass]
    simp
  have htake : (left ++ sortDelimiter :: right).takeWhile (· ≠ sortDelimiter) = left := by
    rw [List.takeWhile_append_of_pos hpass]
    simp
  simp only [read, h.trimChars_eq, if_neg hne, hdrop, htake]

/-- A text is blank, or there is a first colon in what is left of it, or there is none. -/
theorem trims_cases (given : String) :
    TrimsTo given.toList [] ∨
      (∃ left right, TrimsTo given.toList (left ++ sortDelimiter :: right) ∧ sortDelimiter ∉ left) ∨
      ∃ core, TrimsTo given.toList core ∧ core ≠ [] ∧ sortDelimiter ∉ core := by
  have htrims := Text.trimsTo_trimChars given.toList
  by_cases hne : trimChars given.toList = []
  · exact .inl (hne ▸ htrims)
  by_cases hmem : sortDelimiter ∈ trimChars given.toList
  · obtain ⟨left, right, heq, hleft⟩ := List.eq_append_cons_of_mem hmem
    exact .inr (.inl ⟨left, right, heq ▸ htrims, hleft⟩)
  · exact .inr (.inr ⟨_, htrims, hne, hmem⟩)

/-- **A text is read as what it asks for.** -/
theorem read_eq_ok_iff : read (text.getD "") = .ok terms ↔ Asks text terms := by
  constructor
  · intro h
    rcases text with _ | given
    · rw [Option.getD_none, read_empty] at h
      cases h
      exact .absent
    rw [Option.getD_some] at h
    rcases trims_cases given with hblank | ⟨left, right, htext, hleft⟩ | ⟨core, htext, hne, hcore⟩
    · rw [read_of_blank hblank] at h
      cases h
      exact .blank given hblank
    · rw [read_of_halves htext hleft] at h
      cases h
      refine .halves given left right _ htext hleft ?_ ?_
      · rw [String.toList_ofList]
        exact Text.trimsTo_trimChars left
      · rw [String.toList_ofList]
        exact Text.trimsTo_trimChars right
    · rw [read_of_undelimited htext hne hcore] at h
      cases h
  · rintro (_ | ⟨given, hblank⟩ | ⟨given, left, right, terms, htext, hleft, hfield, hdirection⟩)
    · exact read_empty
    · exact read_of_blank hblank
    · rw [Option.getD_some, read_of_halves htext hleft, hfield.trimChars_eq, hdirection.trimChars_eq,
        String.ofList_toList, String.ofList_toList]

/-- A text is refused exactly if it is malformed, and the blanks around it are not told back. -/
theorem read_eq_error_iff {fault : SortError} :
    read (text.getD "") = .error fault ↔ ∃ core, IsMalformed text core ∧ fault = .malformed core := by
  constructor
  · intro h
    rcases text with _ | given
    · cases (read_eq_ok_iff.mpr Asks.absent).symm.trans h
    rw [Option.getD_some] at h
    rcases trims_cases given with hblank | ⟨left, right, htext, hleft⟩ | ⟨core, htext, hne, hcore⟩
    · cases (read_of_blank hblank).symm.trans h
    · cases (read_of_halves htext hleft).symm.trans h
    · cases (read_of_undelimited htext hne hcore).symm.trans h
      refine ⟨String.ofList core, ⟨⟨given, rfl, ?_⟩, ?_, ?_⟩, rfl⟩
      · rwa [String.toList_ofList]
      · rwa [← String.toList_inj.ne, String.toList_ofList]
      · rwa [String.toList_ofList]
  · rintro ⟨core, ⟨⟨given, hgiven, htext⟩, hne, hcore⟩, rfl⟩
    rw [Option.mem_def.mp hgiven, Option.getD_some,
      read_of_undelimited htext (mt String.toList_eq_nil_iff.mp hne) hcore, String.ofList_toList]

end SortTerms

/-! ## Directions -/

namespace Direction

variable {text : String} {o usual : Direction} {fault : SortError}

/-- Only the capitals have other small letters, 32 places behind them. -/
theorem toNat_toLower (c : Char) :
    c.toLower.toNat = if 65 ≤ c.toNat ∧ c.toNat ≤ 90 then c.toNat + 32 else c.toNat := by
  unfold Char.toLower Char.toNat
  simp only [Char.reduceVal, ge_iff_le, UInt32.le_iff_toNat_le, UInt32.reduceSub, UInt32.reduceToNat]
  split
  · simp only [UInt32.toNat_add, UInt32.reduceToNat]
    omega
  · rfl

/-- Only the small letters have other capitals, 32 places before them. -/
theorem toNat_toUpper (c : Char) :
    c.toUpper.toNat = if 97 ≤ c.toNat ∧ c.toNat ≤ 122 then c.toNat - 32 else c.toNat := by
  unfold Char.toUpper Char.toNat
  simp only [Char.reduceVal, UInt32.le_iff_toNat_le, UInt32.reduceSub, UInt32.reduceToNat]
  split
  · simp only [UInt32.toNat_add, UInt32.reduceToNat]
    omega
  · rfl

/-- A small letter comes of itself and of its capital. -/
theorem toLower_eq_iff {c letter : Char} (h : 97 ≤ letter.toNat ∧ letter.toNat ≤ 122) :
    c.toLower = letter ↔ c = letter ∨ c = letter.toUpper := by
  rw [← Char.toNat_inj, ← Char.toNat_inj, ← Char.toNat_inj, toNat_toLower, toNat_toUpper, if_pos h]
  split <;> omega

/-- Texts are alike in small letters exactly if they are so letter by letter, small or capital. -/
theorem map_toLower_eq_iff {cs letters : List Char}
    (h : ∀ letter ∈ letters, 97 ≤ letter.toNat ∧ letter.toNat ≤ 122) :
    cs.map Char.toLower = letters ↔
      List.Forall₂ (fun c letter => c = letter ∨ c = letter.toUpper) cs letters := by
  induction letters generalizing cs with
  | nil => simp
  | cons letter letters ih =>
      cases cs with
      | nil => simp
      | cons c cs =>
          rw [List.map_cons, List.cons.injEq, List.forall₂_cons, toLower_eq_iff (h letter List.mem_cons_self),
            ih fun l hl => h l (List.mem_cons_of_mem _ hl)]

/-- A text is the name of a direction, each letter of it small or capital. -/
def IsSpelled (o : Direction) (text : String) : Prop :=
  List.Forall₂ (fun c letter => c = letter ∨ c = letter.toUpper) text.toList o.name.toList

/-- The names of directions are small letters. -/
theorem small_of_mem_name (o : Direction) :
    ∀ letter ∈ o.name.toList, 97 ≤ letter.toNat ∧ letter.toNat ≤ 122 := by
  cases o <;> simp [name]

/-- A text spells a direction exactly if it is its name in small letters. -/
theorem isSpelled_iff : o.IsSpelled text ↔ text.toList.map Char.toLower = o.name.toList :=
  (map_toLower_eq_iff o.small_of_mem_name).symm

/-- **A text is read as the direction that it spells.** -/
theorem read_eq_ok_iff : read text = .ok o ↔ o.IsSpelled text := by
  rw [isSpelled_iff]
  simp only [read]
  by_cases hasc : text.toList.map Char.toLower = "asc".toList
  · rw [if_pos hasc, hasc]
    cases o <;> decide
  by_cases hdesc : text.toList.map Char.toLower = "desc".toList
  · rw [if_neg hasc, if_pos hdesc, hdesc]
    cases o <;> decide
  · rw [if_neg hasc, if_neg hdesc]
    refine ⟨nofun, fun h => ?_⟩
    cases o with
    | asc => exact absurd h hasc
    | desc => exact absurd h hdesc

/-- A text that is read as none is told back. -/
theorem eq_direction_of_read (h : read text = .error fault) : fault = .direction text := by
  simp only [read] at h
  split_ifs at h
  exact (Except.error.inj h).symm

/-- A text is refused as a direction exactly if it spells none, and it is told back as it was given. -/
theorem read_eq_error_iff :
    read text = .error fault ↔ (∀ o : Direction, ¬o.IsSpelled text) ∧ fault = .direction text := by
  constructor
  · intro h
    refine ⟨fun o ho => ?_, eq_direction_of_read h⟩
    cases (read_eq_ok_iff.mpr ho).symm.trans h
  · rintro ⟨hnone, rfl⟩
    rcases hread : read text with cause | o
    · rw [eq_direction_of_read hread]
    · exact absurd (read_eq_ok_iff.mp hread) (hnone o)

/-- Nothing spells no direction. -/
theorem IsSpelled.ne_empty (h : o.IsSpelled text) : text ≠ "" := by
  rintro rfl
  rw [isSpelled_iff] at h
  cases o <;> exact absurd h (by decide)

/-- Blanks are neither small letters nor capitals. -/
theorem IsSpelled.isTrimmed (h : o.IsSpelled text) : IsTrimmed text.toList := by
  refine Text.isTrimmed_of_forall fun c hc => ?_
  have hmem : c.toLower ∈ o.name.toList := isSpelled_iff.mp h ▸ List.mem_map_of_mem hc
  have hletters : ∀ letter ∈ o.name.toList, isBlank letter = false ∧ isBlank letter.toUpper = false := by
    cases o <;> simp [name] <;> decide
  rcases (toLower_eq_iff (o.small_of_mem_name _ hmem)).mp rfl with hsmall | hcapital
  · rw [hsmall]
    exact (hletters _ hmem).1
  · rw [hcapital]
    exact (hletters _ hmem).2

/-- The direction that comes of a half of a text: the usual one if it is empty. -/
inductive Follows (usual : Direction) : String → Direction → Prop where
  | usual : Follows usual "" usual
  | spelled (text : String) (o : Direction) (h : o.IsSpelled text) : Follows usual text o

/-- A half of a text is read as the direction that comes of it. -/
theorem readOr_eq_ok_iff : usual.readOr text = .ok o ↔ Follows usual text o := by
  by_cases hempty : text = ""
  · subst hempty
    rw [readOr, if_pos rfl, Except.ok.injEq]
    constructor
    · rintro rfl
      exact .usual
    · rintro (_ | ⟨_, _, h⟩)
      · rfl
      · exact absurd rfl h.ne_empty
  · rw [readOr, if_neg hempty, read_eq_ok_iff]
    constructor
    · exact .spelled text o
    · rintro (_ | ⟨_, _, h⟩)
      · exact absurd rfl hempty
      · exact h

/-- A half of a text is refused exactly if there is something in it that spells no direction. -/
theorem readOr_eq_error_iff : usual.readOr text = .error fault ↔
    text ≠ "" ∧ (∀ o : Direction, ¬o.IsSpelled text) ∧ fault = .direction text := by
  by_cases hempty : text = ""
  · rw [readOr, if_pos hempty]
    exact ⟨nofun, fun h => absurd hempty h.1⟩
  · rw [readOr, if_neg hempty, read_eq_error_iff]
    exact (and_iff_right hempty).symm

/-- Some direction comes of a half of a text exactly if it is empty or spells one. -/
theorem exists_follows_iff : (∃ o, Follows usual text o) ↔ text = "" ∨ ∃ o : Direction, o.IsSpelled text := by
  constructor
  · rintro ⟨o, _ | ⟨_, _, h⟩⟩
    · exact .inl rfl
    · exact .inr ⟨o, h⟩
  · rintro (rfl | ⟨o, h⟩)
    · exact ⟨usual, .usual⟩
    · exact ⟨o, .spelled text o h⟩

end Direction

/-! ## Orders -/

namespace ListOrder

open SortTerms (Asks IsMalformed)
open Direction (Follows)

variable {text : Option String} {allowed : List String} {defaults : DefaultOrder} {order : ListOrder}

/-- The column that comes of a half of a text: the field, if the list may be sorted by it. If the half is empty,
it is the usual one, or the one that every list has if the list may not be sorted by the usual one. -/
inductive IsColumn (allowed : List String) (defaults : DefaultOrder) : String → String → Prop where
  | named (field : String) (hne : field ≠ "") (h : field ∈ allowed) : IsColumn allowed defaults field field
  | usual (h : defaults.field ∈ allowed) : IsColumn allowed defaults "" defaults.field
  | fallback (h : defaults.field ∉ allowed) : IsColumn allowed defaults "" fallbackColumn

theorem IsColumn.mem {field column : String} (h : IsColumn allowed defaults field column) :
    column ∈ fallbackColumn :: allowed := by
  cases h with
  | named field hne hmem => exact List.mem_cons_of_mem _ hmem
  | usual hmem => exact List.mem_cons_of_mem _ hmem
  | fallback => exact List.mem_cons_self

/-- A half of a text gives the column that comes of it. -/
theorem column?_eq_ok_iff {field column : String} :
    column? field allowed defaults = .ok column ↔ IsColumn allowed defaults field column := by
  constructor
  · intro h
    unfold column? at h
    by_cases hempty : field = ""
    · subst hempty
      rw [if_pos rfl] at h
      by_cases hmem : defaults.field ∈ allowed
      · rw [if_pos hmem] at h
        cases h
        exact .usual hmem
      · rw [if_neg hmem] at h
        cases h
        exact .fallback hmem
    rw [if_neg hempty] at h
    by_cases hmem : field ∈ allowed
    · rw [if_pos hmem] at h
      cases h
      exact .named field hempty hmem
    · rw [if_neg hmem] at h
      cases h
  · rintro (⟨_, hne, hmem⟩ | hmem | hmem)
    · rw [column?, if_neg hne, if_pos hmem]
    · rw [column?, if_pos rfl, if_pos hmem]
    · rw [column?, if_pos rfl, if_neg hmem]

/-- A field is refused exactly if the list may not be sorted by it, whatever the usual one is. -/
theorem column?_eq_error_iff {field : String} {fault : SortError} :
    column? field allowed defaults = .error fault ↔
      field ≠ "" ∧ field ∉ allowed ∧ fault = .unknownField field allowed := by
  by_cases hempty : field = ""
  · rw [column?, if_pos hempty]
    exact ⟨nofun, fun h => absurd hempty h.1⟩
  by_cases hmem : field ∈ allowed
  · rw [column?, if_neg hempty, if_pos hmem]
    exact ⟨nofun, fun h => absurd hmem h.2.1⟩
  · rw [column?, if_neg hempty, if_neg hmem, Except.error.injEq, eq_comm]
    exact ⟨fun h => ⟨hempty, hmem, h⟩, fun h => h.2.2⟩

/-- Some column comes of a half of a text exactly if it is empty or the list may be sorted by it. -/
theorem exists_isColumn_iff {field : String} :
    (∃ column, IsColumn allowed defaults field column) ↔ field = "" ∨ field ∈ allowed := by
  constructor
  · rintro ⟨_, ⟨_, _, hmem⟩ | _ | _⟩
    · exact .inr hmem
    · exact .inl rfl
    · exact .inl rfl
  · intro h
    by_cases hempty : field = ""
    · subst hempty
      by_cases hmem : defaults.field ∈ allowed
      · exact ⟨_, .usual hmem⟩
      · exact ⟨_, .fallback hmem⟩
    · exact ⟨field, .named field hempty (h.resolve_left hempty)⟩

/-- **The order that is found for a text has the column that comes of its field and the direction that comes
of its other half.** -/
theorem resolve_eq_ok_iff : resolve text allowed defaults = .ok order ↔
    ∃ terms, Asks text terms ∧ IsColumn allowed defaults terms.field order.column ∧
      Follows defaults.direction terms.direction order.direction := by
  simp only [resolve, bind_eq_ok_iff, SortTerms.read_eq_ok_iff, column?_eq_ok_iff, Direction.readOr_eq_ok_iff,
    pure, Except.pure, Except.ok.injEq]
  constructor
  · rintro ⟨terms, hasks, column, hcolumn, direction, hdirection, rfl⟩
    exact ⟨terms, hasks, hcolumn, hdirection⟩
  · rintro ⟨terms, hasks, hcolumn, hdirection⟩
    exact ⟨terms, hasks, _, hcolumn, _, hdirection, rfl⟩

/-- Whatever is asked for, the column is one that the list may be sorted by, or the one that every list has. -/
theorem column_mem_of_resolve (h : resolve text allowed defaults = .ok order) :
    order.column ∈ fallbackColumn :: allowed := by
  obtain ⟨terms, -, hcolumn, -⟩ := resolve_eq_ok_iff.mp h
  exact hcolumn.mem

/-- Why no order is found for a text. Of several faults, the first of these three is told. -/
inductive Refuses (text : Option String) (allowed : List String) : SortError → Prop where
  | malformed (core : String) (h : IsMalformed text core) : Refuses text allowed (.malformed core)
  | unknownField (terms : SortTerms) (h : Asks text terms) (hne : terms.field ≠ "")
      (hfield : terms.field ∉ allowed) : Refuses text allowed (.unknownField terms.field allowed)
  | direction (terms : SortTerms) (h : Asks text terms) (hfield : terms.field = "" ∨ terms.field ∈ allowed)
      (hne : terms.direction ≠ "") (hdirection : ∀ o : Direction, ¬o.IsSpelled terms.direction) :
      Refuses text allowed (.direction terms.direction)

/-- **No order is found for a text exactly if it has one of three faults.** -/
theorem resolve_eq_error_iff {fault : SortError} :
    resolve text allowed defaults = .error fault ↔ Refuses text allowed fault := by
  simp only [resolve, bind_eq_error_iff, SortTerms.read_eq_ok_iff, SortTerms.read_eq_error_iff,
    column?_eq_ok_iff, column?_eq_error_iff, Direction.readOr_eq_error_iff]
  constructor
  · rintro (⟨core, h, rfl⟩ | ⟨terms, hasks, ⟨hne, hmem, rfl⟩ | ⟨column, hcolumn, hlast⟩⟩)
    · exact .malformed core h
    · exact .unknownField terms hasks hne hmem
    · rcases hlast with ⟨hne, hnone, rfl⟩ | ⟨_, _, h⟩
      · exact .direction terms hasks (exists_isColumn_iff.mp ⟨column, hcolumn⟩) hne hnone
      · cases h
  · rintro (⟨core, h⟩ | ⟨terms, hasks, hne, hmem⟩ | ⟨terms, hasks, hfield, hne, hnone⟩)
    · exact .inl ⟨core, h, rfl⟩
    · exact .inr ⟨terms, hasks, .inl ⟨hne, hmem, rfl⟩⟩
    · obtain ⟨column, hcolumn⟩ := exists_isColumn_iff.mpr hfield
      exact .inr ⟨terms, hasks, .inr ⟨column, hcolumn, .inl ⟨hne, hnone, rfl⟩⟩⟩

/-- A request gives the order that its text comes to. -/
theorem forRequest_eq_ok_iff :
    forRequest text allowed defaults = .ok order ↔ resolve text allowed defaults = .ok order := by
  unfold forRequest
  rcases resolve text allowed defaults with fault | found
  · exact ⟨nofun, nofun⟩
  · simp only [Except.mapError, Except.ok.injEq]

/-- A request is refused exactly if its text is, and is told the fault as a violation of a rule. -/
theorem forRequest_eq_error_iff {cause : Error} : forRequest text allowed defaults = .error cause ↔
    ∃ fault, resolve text allowed defaults = .error fault ∧ cause = .validation fault.message := by
  unfold forRequest
  rcases resolve text allowed defaults with fault | found
  · constructor
    · intro h
      exact ⟨fault, rfl, (Except.error.inj h).symm⟩
    · rintro ⟨_, hfault, rfl⟩
      cases hfault
      rfl
  · exact ⟨nofun, nofun⟩

/-! ## Orders in texts -/

/-- A text shows an order: its column and its direction with a colon between them, and blanks anywhere around
the two. -/
inductive IsShown (order : ListOrder) : String → Prop where
  | intro (before afterField beforeDirection after : List Char) (direction : String)
      (hbefore : AllBlank before) (hafterField : AllBlank afterField)
      (hbeforeDirection : AllBlank beforeDirection) (hafter : AllBlank after)
      (hdirection : order.direction.IsSpelled direction) :
      IsShown order (String.ofList (before ++ order.column.toList ++ afterField ++
        sortDelimiter :: (beforeDirection ++ direction.toList ++ after)))

/-- A name in which there is neither a blank nor a colon. -/
def IsPlain (column : String) : Prop :=
  column ≠ "" ∧ ∀ c ∈ column.toList, isBlank c = false ∧ c ≠ sortDelimiter

-- The letters of the name are looked through, not all characters.
instance (column : String) : Decidable (IsPlain column) :=
  letI := List.decidableBAll (fun c => isBlank c = false ∧ c ≠ sortDelimiter) column.toList
  inferInstanceAs (Decidable (_ ∧ _))

/-- A text that shows an order asks for its column and its direction. -/
theorem IsShown.asks (hplain : IsPlain order.column) {shown : String} (h : IsShown order shown) :
    ∃ direction, order.direction.IsSpelled direction ∧ Asks (some shown) ⟨order.column, direction⟩ := by
  obtain ⟨before, afterField, beforeDirection, after, direction, hbefore, hafterField, hbeforeDirection, hafter,
    hdirection⟩ := h
  refine ⟨direction, hdirection, ?_⟩
  have hcolumn : IsTrimmed order.column.toList := Text.isTrimmed_of_forall fun c hc => (hplain.2 c hc).1
  have hleft : sortDelimiter ∉ order.column.toList ++ afterField := by
    intro hmem
    rcases List.mem_append.mp hmem with hmem | hmem
    · exact (hplain.2 _ hmem).2 rfl
    · exact absurd (hafterField _ hmem) (by decide)
  have hcore : IsTrimmed (order.column.toList ++ afterField ++
      sortDelimiter :: (beforeDirection ++ direction.toList)) := by
    have happend := hcolumn.append hdirection.isTrimmed (mt String.toList_eq_nil_iff.mp hplain.1)
      (mt String.toList_eq_nil_iff.mp hdirection.ne_empty) (afterField ++ sortDelimiter :: beforeDirection)
    simpa using happend
  refine .halves _ (order.column.toList ++ afterField) (beforeDirection ++ direction.toList) _ ?_ hleft ?_ ?_
  · have htext := TrimsTo.intro before _ after hbefore hcore hafter
    simpa using htext
  · exact .intro [] _ afterField Text.allBlank_nil hcolumn hafterField
  · simpa using TrimsTo.intro beforeDirection _ [] hbeforeDirection hdirection.isTrimmed Text.allBlank_nil

/-- **An order is found again for every text that shows it,** if the list may be sorted by its column. -/
theorem resolve_of_isShown (hplain : IsPlain order.column) (hmem : order.column ∈ allowed) {shown : String}
    (h : IsShown order shown) (defaults : DefaultOrder) :
    resolve (some shown) allowed defaults = .ok order := by
  obtain ⟨direction, hdirection, hasks⟩ := h.asks hplain
  exact resolve_eq_ok_iff.mpr ⟨_, hasks, .named _ hplain.1 hmem, .spelled _ _ hdirection⟩

/-- The columns of a list can be shown in texts, and one of them is the one that every list has. -/
def AreShowable (fields : List String) : Prop := fallbackColumn ∈ fields ∧ ∀ column ∈ fields, IsPlain column

instance (fields : List String) : Decidable (AreShowable fields) := inferInstanceAs (Decidable (_ ∧ _))

/-! ## Requests -/

/-- An order is granted exactly if one comes of each half of what is asked for. -/
theorem exists_forRequest_iff : (∃ order, forRequest text allowed defaults = .ok order) ↔
    ∃ terms, Asks text terms ∧ (terms.field = "" ∨ terms.field ∈ allowed) ∧
      (terms.direction = "" ∨ ∃ o : Direction, o.IsSpelled terms.direction) := by
  simp only [forRequest_eq_ok_iff, resolve_eq_ok_iff]
  constructor
  · rintro ⟨order, terms, hasks, hcolumn, hdirection⟩
    exact ⟨terms, hasks, exists_isColumn_iff.mp ⟨_, hcolumn⟩, Direction.exists_follows_iff.mp ⟨_, hdirection⟩⟩
  · rintro ⟨terms, hasks, hfield, hdirection⟩
    obtain ⟨column, hcolumn⟩ := exists_isColumn_iff.mpr hfield
    obtain ⟨o, ho⟩ := Direction.exists_follows_iff.mpr hdirection
    exact ⟨⟨column, o⟩, terms, hasks, hcolumn, ho⟩

/-- What comes of a request for a list in some order. -/
structure IsDecidedBy (text : Option String) (allowed : List String) (defaults : DefaultOrder) : Prop where
  /-- An order is granted if the text names a column of the list and a direction, or leaves them out. -/
  granted_iff : (∃ order, forRequest text allowed defaults = .ok order) ↔ ∃ terms, Asks text terms ∧
    (terms.field = "" ∨ terms.field ∈ allowed) ∧
      (terms.direction = "" ∨ ∃ o : Direction, o.IsSpelled terms.direction)
  /-- The order is the one that the text asks for, with the defaults in place of what it leaves out. -/
  order_iff : ∀ order, forRequest text allowed defaults = .ok order ↔ ∃ terms, Asks text terms ∧
    IsColumn allowed defaults terms.field order.column ∧
      Follows defaults.direction terms.direction order.direction
  /-- Nothing of the text gets into the clause but the choice between columns and keywords. -/
  clause : ∀ order, forRequest text allowed defaults = .ok order →
    ∃ column ∈ fallbackColumn :: allowed, ∃ keyword ∈ ["ASC", "DESC"], ∀ table, order.clause table =
      "ORDER BY " ++ table ++ "." ++ column ++ " " ++ keyword ++ ", " ++ table ++ ".id " ++ keyword
  /-- A request is refused as invalid, for the fault of its text that is told. -/
  refused_iff : ∀ cause, forRequest text allowed defaults = .error cause ↔
    ∃ fault, Refuses text allowed fault ∧ cause = .validation fault.message

/-- Every order of a list is granted again, whatever the defaults, for every text that shows it. -/
def IsShownAgain (fields : List String) : Prop :=
  ∀ (text : Option String) (defaults : DefaultOrder) (order : ListOrder),
    forRequest text fields defaults = .ok order → ∀ shown, IsShown order shown →
      ∀ others, forRequest (some shown) fields others = .ok order

/-- Where the allowed fields can be shown, every order can be asked for. -/
theorem isShownAgain_of_areShowable {fields : List String} (h : AreShowable fields) : IsShownAgain fields := by
  intro text defaults order horder shown hshown others
  have hcolumn : order.column ∈ fields := by
    rcases List.mem_cons.mp (column_mem_of_resolve (forRequest_eq_ok_iff.mp horder)) with hfallback | hmem
    · rw [hfallback]
      exact h.1
    · exact hmem
  exact forRequest_eq_ok_iff.mpr (resolve_of_isShown (h.2 _ hcolumn) hcolumn hshown others)

/-- **A text is granted the order that it asks for, and no other.** Whether one is granted depends on the two
sides of the first colon in the text: on the left stands nothing or a column of the list, on the right nothing
or a direction. Only these columns and the two keywords get into the clause. Each of the seven kinds of lists
grants an order again for every text that shows it. -/
theorem order_of_text (text : Option String) (allowed : List String) (defaults : DefaultOrder) :
    IsDecidedBy text allowed defaults ∧
      ∀ fields ∈ [User.sortFields, Keeper.sortFields, Seeker.sortFields, Vet.sortFields, Post.sortFields,
        Review.sortFields, Message.sortFields], IsShownAgain fields := by
  refine ⟨⟨exists_forRequest_iff, fun order => ?order, fun order horder => ?clause, fun cause => ?refused⟩,
    fun fields hfields => isShownAgain_of_areShowable ?showable⟩
  case order => rw [forRequest_eq_ok_iff, resolve_eq_ok_iff]
  case clause =>
    have hkeyword : order.direction.keyword ∈ ["ASC", "DESC"] := by
      cases order.direction <;> decide
    exact ⟨order.column, column_mem_of_resolve (forRequest_eq_ok_iff.mp horder), _, hkeyword, fun _ => rfl⟩
  case refused => simp only [forRequest_eq_error_iff, resolve_eq_error_iff]
  case showable =>
    revert fields
    decide

/-- Blanks and capitals, and a colon where the direction should end. -/
example : resolve (some "\u00a0rating\t: dEsC\u3000") Keeper.sortFields .standard = .ok ⟨"rating", .desc⟩ ∧
    resolve (some "rating:desc:") Keeper.sortFields .standard = .error (.direction "desc:") := by
  decide +kernel

end ListOrder

end Fostering
