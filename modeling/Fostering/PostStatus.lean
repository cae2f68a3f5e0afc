import Fostering.Error

/-!
# The life of a post

A post is a draft, published, archived, or blocked by moderation. Its author moves it freely
between the first three; only moderation blocks.
-/

namespace Fostering

/-- Where a post stands. -/
inductive PostStatus where
  | draft
  | published
  | blocked
  | archived
  deriving DecidableEq

namespace PostStatus

instance : Inhabited PostStatus := ⟨published⟩

/-- The status of a new post whose author names none. -/
def standard : PostStatus := published

/-- The stored name of a status. -/
def name : PostStatus → String
  | draft => "draft"
  | published => "published"
  | blocked => "blocked"
  | archived => "archived"

/-- The status with this exact name. -/
def ofName? (text : String) : Option PostStatus :=
  [draft, published, blocked, archived].find? fun s => s.name = text

@[simp] theorem ofName?_name (s : PostStatus) : ofName? s.name = some s := by
  cases s <;> decide +kernel

/-- A status has one name. -/
theorem ofName?_eq_some {text : String} {s : PostStatus} (h : ofName? text = some s) :
    text = s.name := by
  simpa [eq_comm] using List.find?_some h

/-- The names are told apart. -/
theorem name_injective {s t : PostStatus} (h : s.name = t.name) : s = t := by
  have := ofName?_name s
  rw [h, ofName?_name] at this
  exact (Option.some.inj this).symm

/-- Reads a status, or says which name is unknown. -/
def read (text : String) : Except Error PostStatus :=
  match ofName? text with
  | some s => .ok s
  | none => .error (.validation ("Unknown post status '" ++ text ++ "'"))

/-- Whether an author may choose this status. -/
def isAuthorSettable : PostStatus → Bool
  | blocked => false
  | _ => true

end PostStatus

end Fostering
