import Fostering.Json.Number
import Fostering.Json.Shape
import Fostering.Json.Skip

/-!
# Values of one kind

A text, a flag, a whole number of some width, a list, each read where only it may stand. Anything
else there is a fault that names what was found and what was wanted.
-/

namespace Fostering.Json

/-- The fault of a value of another type; its text still has to be well formed as far as it tells
its type. -/
def mismatch (expected : String) : Bytes → Fault
  | [] => .endInValue
  | b :: rest =>
    let word (letters : Bytes) (found : Found) : Fault :=
      match scanWord letters rest with
      | .ok _ => .wrongType found expected
      | .error fault => fault
    let number (negative : Bool) (bytes : Bytes) : Fault :=
      match (do let (digits, _) ← scanNumber bytes; digits.value negative : Except Fault Number) with
      | .ok n => .wrongType n.found expected
      | .error fault => fault
    if b = 0x6E then word [0x75, 0x6C, 0x6C] .null
    else if b = 0x74 then word [0x72, 0x75, 0x65] (.flag true)
    else if b = 0x66 then word [0x61, 0x6C, 0x73, 0x65] (.flag false)
    else if b = 0x2D then number true rest
    else if isDigit b then number false (b :: rest)
    else if b = 0x22 then
      match scanString rest with
      | .ok (s, _) => .wrongType (.text s) expected
      | .error fault => fault
    else if b = 0x5B then .wrongType .list expected
    else if b = 0x7B then .wrongType .object expected
    else .expectedValue

/-- Reads a text. -/
def readText (bytes : Bytes) : Except Fault (String × Bytes) :=
  match skipBlank bytes with
  | [] => .error .endInValue
  | b :: rest => if b = 0x22 then scanString rest else .error (mismatch "a string" (b :: rest))

/-- Reads a flag. -/
def readFlag (bytes : Bytes) : Except Fault (Bool × Bytes) :=
  match skipBlank bytes with
  | [] => .error .endInValue
  | b :: rest =>
    if b = 0x74 then do .ok (true, ← scanWord [0x72, 0x75, 0x65] rest)
    else if b = 0x66 then do .ok (false, ← scanWord [0x61, 0x6C, 0x73, 0x65] rest)
    else .error (mismatch "a boolean" (b :: rest))

/-- Checks that a number is whole and fits. -/
def wholeOfNumber (width : Width) : Number → Except Fault Int
  | .int n => if width.fits n then .ok n else .error (.outOfRange n width.name)
  | .real x => .error (.wrongType (.real x) width.name)

/-- Reads a whole number. -/
def readWhole (width : Width) (bytes : Bytes) : Except Fault (Int × Bytes) :=
  match skipBlank bytes with
  | [] => .error .endInValue
  | b :: rest =>
    if b = 0x2D then do
      let (digits, tail) ← scanNumber rest
      .ok (← wholeOfNumber width (← digits.value true), tail)
    else if isDigit b then do
      let (digits, tail) ← scanNumber (b :: rest)
      .ok (← wholeOfNumber width (← digits.value false), tail)
    else .error (mismatch width.name (b :: rest))

/-- What comes next in a list: its end, which is not taken, or an item. -/
inductive ItemStep where
  | done (rest : Bytes)
  | item (rest : Bytes)

/-- Looks for the next item of a list. -/
def nextItem (first : Bool) (bytes : Bytes) : Except Fault ItemStep :=
  match skipBlank bytes with
  | [] => .error .endInList
  | b :: rest =>
    if b = 0x5D then .ok (.done (b :: rest))
    else if first then .ok (.item (b :: rest))
    else if b = 0x2C then
      match skipBlank rest with
      | [] => .error .endInValue
      | c :: tail => if c = 0x5D then .error .trailingComma else .ok (.item (c :: tail))
    else .error .expectedListEnd

/-- Takes the end of a list. -/
def listEnd (bytes : Bytes) : Except Fault Bytes :=
  match skipBlank bytes with
  | [] => .error .endInList
  | b :: rest =>
    if b = 0x5D then .ok rest
    else if b = 0x2C then
      match skipBlank rest with
      | [] => .error .trailingCharacters
      | c :: _ => if c = 0x5D then .error .trailingComma else .error .trailingCharacters
    else .error .trailingCharacters

/-- A text takes up its quotes at least. -/
theorem length_readText_lt {bytes rest : Bytes} {s : String} (h : readText bytes = .ok (s, rest)) :
    rest.length < bytes.length := by
  have hb := length_skipBlank_le bytes
  unfold readText at h
  split at h
  · cases h
  · rename_i hs
    rw [hs] at hb
    split at h
    · have := length_scanString_lt h
      simp only [List.length_cons] at hb
      omega
    · cases h

/-- A flag takes up some bytes. -/
theorem length_readFlag_lt {bytes rest : Bytes} {v : Bool} (h : readFlag bytes = .ok (v, rest)) :
    rest.length < bytes.length := by
  have hb := length_skipBlank_le bytes
  unfold readFlag at h
  split at h
  · cases h
  · rename_i hs
    rw [hs] at hb
    simp only [List.length_cons] at hb
    split at h
    · obtain ⟨r, hr, h⟩ := exists_of_bind_eq_ok h
      have := length_scanWord_le hr
      cases h; omega
    · split at h
      · obtain ⟨r, hr, h⟩ := exists_of_bind_eq_ok h
        have := length_scanWord_le hr
        cases h; omega
      · cases h

/-- A whole number takes up some bytes. -/
theorem length_readWhole_lt {width : Width} {bytes rest : Bytes} {n : Int}
    (h : readWhole width bytes = .ok (n, rest)) : rest.length < bytes.length := by
  have hb := length_skipBlank_le bytes
  unfold readWhole at h
  split at h
  · cases h
  · rename_i hs
    rw [hs] at hb
    simp only [List.length_cons] at hb
    split at h
    · obtain ⟨⟨_, r⟩, hr, h⟩ := exists_of_bind_eq_ok h
      obtain ⟨_, _, h⟩ := exists_of_bind_eq_ok h
      obtain ⟨_, _, h⟩ := exists_of_bind_eq_ok h
      have := length_scanNumber_lt hr
      cases h; omega
    · split at h
      · obtain ⟨⟨_, r⟩, hr, h⟩ := exists_of_bind_eq_ok h
        obtain ⟨_, _, h⟩ := exists_of_bind_eq_ok h
        obtain ⟨_, _, h⟩ := exists_of_bind_eq_ok h
        have := length_scanNumber_lt hr
        simp only [List.length_cons] at this
        cases h; omega
      · cases h

/-- The search for the next item of a list gives nothing back. -/
theorem length_nextItem_le {first : Bool} {bytes rest : Bytes}
    (h : nextItem first bytes = .ok (.item rest)) : rest.length ≤ bytes.length := by
  have hb := length_skipBlank_le bytes
  unfold nextItem at h
  split at h
  · cases h
  · rename_i tail hs
    rw [hs] at hb
    have ht := length_skipBlank_le tail
    simp only [List.length_cons] at hb
    split at h
    · cases h
    · split at h
      · cases h; simpa using hb
      · split at h
        · split at h
          · cases h
          · rename_i hc
            rw [hc] at ht
            split at h
            · cases h
            · cases h; omega
        · cases h

/-- A reader that takes at least one byte. -/
def Consumes {α : Type} (read : Bytes → Except Fault (α × Bytes)) : Prop :=
  ∀ {bytes rest : Bytes} {a : α}, read bytes = .ok (a, rest) → rest.length < bytes.length

/-- Reads items up to the end of their list, onto a reversed accumulator. -/
def readListOnto {α : Type} (read : Bytes → Except Fault (α × Bytes)) (hread : Consumes read)
    (acc : List α) (first : Bool) (bytes : Bytes) : Except Fault (List α × Bytes) :=
  match h : nextItem first bytes with
  | .error fault => .error fault
  | .ok (.done rest) => .ok (acc.reverse, rest)
  | .ok (.item rest) =>
    match h' : read rest with
    | .error fault => .error fault
    | .ok (a, rest') =>
      have : rest'.length < bytes.length :=
        Nat.lt_of_lt_of_le (hread h') (length_nextItem_le h)
      readListOnto read hread (a :: acc) false rest'
termination_by bytes.length

/-- Reads a list of items. -/
def readList {α : Type} (read : Bytes → Except Fault (α × Bytes)) (hread : Consumes read)
    (bytes : Bytes) : Except Fault (List α × Bytes) :=
  match skipBlank bytes with
  | [] => .error .endInValue
  | b :: rest =>
    if b = 0x5B then do
      let (items, rest) ← readListOnto read hread [] true rest
      .ok (items, ← listEnd rest)
    else .error (mismatch "a sequence" (b :: rest))

/-- Reads a list of whole numbers. -/
def readWholes (width : Width) : Bytes → Except Fault (List Int × Bytes) :=
  readList (readWhole width) length_readWhole_lt

/-- Reads a list of texts. -/
def readTexts : Bytes → Except Fault (List String × Bytes) := readList readText length_readText_lt

/-- Passes over a value and keeps its bytes. -/
def readRaw (bytes : Bytes) : Except Fault (Bytes × Bytes) := do
  let rest ← skipValue bytes
  .ok (bytes.take (bytes.length - rest.length), rest)

/-- Reads a value, or `null` as no value. -/
def readOption {α : Type} (read : Bytes → Except Fault (α × Bytes)) (bytes : Bytes) :
    Except Fault (Option α × Bytes) :=
  match skipBlank bytes with
  | 0x6E :: rest => do .ok (none, ← scanWord [0x75, 0x6C, 0x6C] rest)
  | bytes => do
    let (value, rest) ← read bytes
    .ok (some value, rest)

/-- The search for the end of a list gives nothing back. -/
theorem length_nextItem_done_le {first : Bool} {bytes rest : Bytes}
    (h : nextItem first bytes = .ok (.done rest)) : rest.length ≤ bytes.length := by
  have hb := length_skipBlank_le bytes
  unfold nextItem at h
  split at h
  · cases h
  · rename_i hs
    rw [hs] at hb
    repeat' split at h
    all_goals cases h
    exact hb

/-- The items of a list are not given back. -/
theorem length_readListOnto_le {α : Type} {read : Bytes → Except Fault (α × Bytes)}
    {hread : Consumes read} {acc items : List α} {first : Bool} {bytes rest : Bytes}
    (h : readListOnto read hread acc first bytes = .ok (items, rest)) :
    rest.length ≤ bytes.length := by
  fun_induction readListOnto read hread acc first bytes with
  | case1 => cases h
  | case2 _ _ _ _ hd => cases h; exact length_nextItem_done_le hd
  | case3 => cases h
  | case4 _ _ _ _ _ _ _ _ hlt ih => exact Nat.le_of_lt (Nat.lt_of_le_of_lt (ih h) hlt)

theorem length_listEnd_le {bytes rest : Bytes} (h : listEnd bytes = .ok rest) :
    rest.length ≤ bytes.length := by
  have hb := length_skipBlank_le bytes
  unfold listEnd at h
  split at h
  · cases h
  · rename_i hs
    rw [hs] at hb
    repeat' split at h
    all_goals cases h
    exact Nat.le_of_succ_le hb

theorem length_readList_le {α : Type} {read : Bytes → Except Fault (α × Bytes)}
    {hread : Consumes read} {bytes rest : Bytes} {items : List α}
    (h : readList read hread bytes = .ok (items, rest)) : rest.length ≤ bytes.length := by
  have hb := length_skipBlank_le bytes
  unfold readList at h
  split at h
  · cases h
  · rename_i hs
    rw [hs] at hb
    simp only [List.length_cons] at hb
    split at h
    · obtain ⟨⟨_, r⟩, hr, h⟩ := exists_of_bind_eq_ok h
      obtain ⟨r', hr', h⟩ := exists_of_bind_eq_ok h
      have h1 := length_readListOnto_le hr
      have h2 := length_listEnd_le hr'
      cases h; omega
    · cases h

/-- A value that is kept as it is written takes up some bytes. -/
theorem length_readRaw_lt {bytes rest : Bytes} {value : Bytes}
    (h : readRaw bytes = .ok (value, rest)) : rest.length < bytes.length := by
  obtain ⟨r, hr, h⟩ := exists_of_bind_eq_ok h
  cases h
  exact length_skipValue_lt hr

/-- A value that may be `null` gives nothing back if other values do not. -/
theorem length_readOption_le {α : Type} {read : Bytes → Except Fault (α × Bytes)}
    (hread : ∀ {bytes rest : Bytes} {a : α}, read bytes = .ok (a, rest) →
      rest.length ≤ bytes.length)
    {bytes rest : Bytes} {v : Option α} (h : readOption read bytes = .ok (v, rest)) :
    rest.length ≤ bytes.length := by
  have hb := length_skipBlank_le bytes
  unfold readOption at h
  split at h
  · rename_i hs
    obtain ⟨r, hr, h⟩ := exists_of_bind_eq_ok h
    have := length_scanWord_le hr
    rw [hs] at hb
    simp only [List.length_cons] at hb
    cases h; omega
  · obtain ⟨⟨_, r⟩, hr, h⟩ := exists_of_bind_eq_ok h
    have := hread hr
    cases h; omega

end Fostering.Json
