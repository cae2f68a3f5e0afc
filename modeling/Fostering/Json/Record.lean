import Fostering.Json.Scalar

/-!
# Objects of a known shape, read

`Shape.read` reads a whole text as an object of the shape, or as a list of its fields' values. The
first fault in the text decides, so a wrong value is told of before a broken bracket behind it, and
a missing field only once the object has ended.
-/

namespace Fostering.Json

/-- Reads a value of a kind. -/
def Kind.read : (kind : Kind) → Bytes → Except Fault (kind.Value × Bytes)
  | .text => readText
  | .flag => readFlag
  | .whole width => readWhole width
  | .wholes width => readWholes width
  | .texts => readTexts
  | .raw => readRaw

/-- Reads the value of a field. -/
def Field.read : (field : Field) → Bytes → Except Fault (field.Value × Bytes)
  | ⟨_, kind, .required⟩, bytes => kind.read bytes
  | ⟨_, kind, .defaulted⟩, bytes => kind.read bytes
  | ⟨_, kind, .optional⟩, bytes => readOption kind.read bytes
  | ⟨_, kind, .changeable⟩, bytes => do
    let (value, rest) ← readOption kind.read bytes
    .ok (.ofOption value, rest)
  | ⟨_, kind, .clearable⟩, bytes => do
    let (value, rest) ← readOption kind.read bytes
    .ok (.set value, rest)

/-- A value that has been read, of whichever kind, is not given back. -/
theorem length_kindRead_le {kind : Kind} {bytes rest : Bytes} {v : kind.Value}
    (h : kind.read bytes = .ok (v, rest)) : rest.length ≤ bytes.length := by
  cases kind with
  | text => exact Nat.le_of_lt (length_readText_lt h)
  | flag => exact Nat.le_of_lt (length_readFlag_lt h)
  | whole => exact Nat.le_of_lt (length_readWhole_lt h)
  | wholes => exact @length_readList_le _ _ length_readWhole_lt _ _ _ h
  | texts => exact @length_readList_le _ _ length_readText_lt _ _ _ h
  | raw => exact Nat.le_of_lt (length_readRaw_lt h)

/-- A field gives back nothing of its value. -/
theorem length_fieldRead_le {field : Field} {bytes rest : Bytes} {v : field.Value}
    (h : field.read bytes = .ok (v, rest)) : rest.length ≤ bytes.length := by
  obtain ⟨name, kind, presence⟩ := field
  cases presence with
  | required => exact length_kindRead_le h
  | defaulted => exact length_kindRead_le h
  | optional => exact length_readOption_le length_kindRead_le h
  | changeable =>
    obtain ⟨⟨_, r⟩, hr, h⟩ := exists_of_bind_eq_ok h
    cases h
    exact length_readOption_le length_kindRead_le hr
  | clearable =>
    obtain ⟨⟨_, r⟩, hr, h⟩ := exists_of_bind_eq_ok h
    cases h
    exact length_readOption_le length_kindRead_le hr

/-! ## The object form -/

/-- What comes next in an object: its end, which is taken, or a key. -/
inductive KeyStep where
  | done (rest : Bytes)
  | key (name : String) (rest : Bytes)

/-- Reads a key after its opening quote. -/
def readKey (bytes : Bytes) : Except Fault KeyStep := do
  let (name, rest) ← scanString bytes
  .ok (.key name rest)

/-- Looks for the next key of an object. -/
def nextKey (first : Bool) (bytes : Bytes) : Except Fault KeyStep :=
  match skipBlank bytes with
  | [] => .error .endInObject
  | b :: rest =>
    if b = 0x7D then .ok (.done rest)
    else if first then (if b = 0x22 then readKey rest else .error .keyNotText)
    else if b = 0x2C then
      match skipBlank rest with
      | [] => .error .endInValue
      | c :: tail =>
        if c = 0x22 then readKey tail
        else if c = 0x7D then .error .trailingComma
        else .error .keyNotText
    else .error .expectedObjectEnd

/-- A key takes up some bytes. -/
theorem length_readKey_lt {bytes rest : Bytes} {name : String}
    (h : readKey bytes = .ok (.key name rest)) : rest.length < bytes.length := by
  obtain ⟨⟨_, r⟩, hr, h⟩ := exists_of_bind_eq_ok h
  cases h
  exact length_scanString_lt hr

/-- A key takes up some bytes, also with a comma before it. -/
theorem length_nextKey_lt {first : Bool} {bytes rest : Bytes} {name : String}
    (h : nextKey first bytes = .ok (.key name rest)) : rest.length < bytes.length := by
  have hb := length_skipBlank_le bytes
  unfold nextKey at h
  split at h
  · cases h
  · rename_i tail hs
    rw [hs] at hb
    have ht := length_skipBlank_le tail
    simp only [List.length_cons] at hb
    split at h
    · cases h
    · split at h
      · split at h
        · have := length_readKey_lt h; omega
        · cases h
      · split at h
        · split at h
          · cases h
          · rename_i hc
            rw [hc] at ht
            simp only [List.length_cons] at ht
            repeat' split at h
            · have := length_readKey_lt h; omega
            · cases h
            · cases h
        · cases h

/-- A row in which nothing has been read. -/
def PartialRow.none : (fields : List Field) → PartialRow fields
  | [] => ()
  | _ :: fields => (Option.none, none fields)

/-- Reads the value that follows a key: into its field, once, or past it. -/
def PartialRow.put (name : String) :
    (fields : List Field) → PartialRow fields → Bytes → Except Fault (PartialRow fields × Bytes)
  | [], _, bytes => do
    let rest ← skipColon bytes
    .ok ((), ← skipValue rest)
  | field :: fields, (value, row), bytes =>
    if field.name = name then
      match value with
      | some _ => .error (.duplicateField name)
      | Option.none => do
        let rest ← skipColon bytes
        let (value, rest) ← field.read rest
        .ok ((some value, row), rest)
    else do
      let (row, rest) ← put name fields row bytes
      .ok ((value, row), rest)

/-- Neither a value that is put into its field nor one that is passed over is given back. -/
theorem length_put_le {name : String} {fields : List Field} {row row' : PartialRow fields}
    {bytes rest : Bytes} (h : PartialRow.put name fields row bytes = .ok (row', rest)) :
    rest.length ≤ bytes.length := by
  induction fields generalizing bytes rest with
  | nil =>
    obtain ⟨r, hr, h⟩ := exists_of_bind_eq_ok h
    obtain ⟨r', hr', h⟩ := exists_of_bind_eq_ok h
    have h1 := length_skipColon_le hr
    have h2 := length_skipValue_lt hr'
    cases h; omega
  | cons field fields ih =>
    obtain ⟨value, row⟩ := row
    unfold PartialRow.put at h
    split at h
    · split at h
      · cases h
      · obtain ⟨r, hr, h⟩ := exists_of_bind_eq_ok h
        obtain ⟨⟨_, r'⟩, hr', h⟩ := exists_of_bind_eq_ok h
        have h1 := length_skipColon_le hr
        have h2 := length_fieldRead_le hr'
        cases h; omega
    · obtain ⟨⟨_, r'⟩, hr', h⟩ := exists_of_bind_eq_ok h
      have := ih hr'
      cases h; omega

/-- Reads keys and values up to the end of an object. -/
def readMembers (fields : List Field) (row : PartialRow fields) (first : Bool) (bytes : Bytes) :
    Except Fault (PartialRow fields × Bytes) :=
  match h : nextKey first bytes with
  | .error fault => .error fault
  | .ok (.done rest) => .ok (row, rest)
  | .ok (.key name rest) =>
    match h' : PartialRow.put name fields row rest with
    | .error fault => .error fault
    | .ok (row', rest') =>
      have : rest'.length < bytes.length :=
        Nat.lt_of_le_of_lt (length_put_le h') (length_nextKey_lt h)
      readMembers fields row' false rest'
termination_by bytes.length

/-- Fills in what is absent, or tells of the first field that must not be. -/
def PartialRow.complete : (fields : List Field) → PartialRow fields → Except Fault (Row fields)
  | [], _ => .ok ()
  | field :: fields, (value, row) => do
    let value ← match value with
      | some value => .ok value
      | Option.none => field.absent
    .ok (value, ← complete fields row)

/-! ## The list form -/

/-- How many values a shape has, in words. -/
def Shape.expectedLength (shape : Shape) : String :=
  let n := shape.fields.length
  "struct " ++ shape.name ++ " with " ++ toString n ++ (if n = 1 then " element" else " elements")

/-- Reads the items of a list into the fields from this one on. -/
def readItems (shape : Shape) (first : Bool) :
    (fields : List Field) → Bytes → Except Fault (Row fields × Bytes)
  | [], bytes => .ok ((), bytes)
  | field :: fields, bytes => do
    match ← nextItem first bytes with
    | .item rest =>
      let (value, rest) ← field.read rest
      let (row, rest) ← readItems shape false fields rest
      .ok ((value, row), rest)
    | .done rest =>
      match field.beyond? with
      | some value =>
        let (row, rest) ← readItems shape first fields rest
        .ok ((value, row), rest)
      | none =>
        .error (.wrongLength (shape.fields.length - (fields.length + 1)) shape.expectedLength)

/-! ## Whole texts -/

/-- Reads a value of the shape. -/
def Shape.readValue (shape : Shape) (bytes : Bytes) : Except Fault (Row shape.fields × Bytes) :=
  match skipBlank bytes with
  | [] => .error .endInValue
  | b :: rest =>
    if b = 0x7B then do
      let (row, rest) ← readMembers shape.fields (PartialRow.none shape.fields) true rest
      .ok (← PartialRow.complete shape.fields row, rest)
    else if b = 0x5B then do
      let (row, rest) ← readItems shape true shape.fields rest
      .ok (row, ← listEnd rest)
    else .error (mismatch ("struct " ++ shape.name) (b :: rest))

/-- Reads a whole text as a value of the shape. -/
def Shape.read (shape : Shape) (bytes : Bytes) : Except Fault (Row shape.fields) := do
  let (row, rest) ← shape.readValue bytes
  if skipBlank rest = [] then .ok row else .error .trailingCharacters

/-- The row of an empty request. -/
def Row.empty : (fields : List Field) → Row fields
  | [] => ()
  | field :: fields => (field.empty, Row.empty fields)

end Fostering.Json
