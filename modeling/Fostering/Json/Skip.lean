import Fostering.Json.Scanner

/-!
# Values that nobody asked for

`skipValue` passes over a value without looking into it: brackets, strings and numbers have to be
well formed, but text is not decoded and numbers have no limits. The brackets that are open are kept
in a list, so values may be nested as deep as the text is long.
-/

namespace Fostering.Json

/-- A bracket that is open. -/
inductive Bracket where
  | list
  | object
  deriving DecidableEq

/-- The fault of a text that ends inside a bracket. -/
def Bracket.atEnd : Bracket → Fault
  | list => .endInList
  | object => .endInObject

/-- The fault of a value in a bracket that is followed by neither a comma nor the bracket's end. -/
def Bracket.unended : Bracket → Fault
  | list => .expectedListEnd
  | object => .expectedObjectEnd

/-- The byte that closes a bracket. -/
def Bracket.closing : Bracket → UInt8
  | list => 0x5D
  | object => 0x7D

/-- Passes over a string after its opening quote. -/
def skipString : Bytes → Except Fault Bytes
  | [] => .error .endInString
  | b :: rest =>
    if b = 0x22 then .ok rest
    else if b = 0x5C then
      match rest with
      | [] => .error .endInString
      | e :: tail =>
        if e = 0x75 then
          match h : scanHexQuad tail with
          | .error fault => .error fault
          | .ok (_, tail') =>
            have : tail'.length < (b :: e :: tail).length :=
              Nat.lt_succ_of_lt (Nat.lt_succ_of_lt (length_scanHexQuad_lt h))
            skipString tail'
        else if (escapeByte? e).isSome then skipString tail
        else .error .badEscape
    else if b < 0x20 then .error .controlCharacter
    else skipString rest
termination_by bytes => bytes.length
decreasing_by
  · exact this
  · exact Nat.lt_succ_of_lt (Nat.lt_succ_self _)
  · exact Nat.lt_succ_self _

/-- A string that is passed over takes up its closing quote at least. -/
theorem length_skipString_lt {bytes rest : Bytes} (h : skipString bytes = .ok rest) :
    rest.length < bytes.length := by
  fun_induction skipString bytes with
  | case1 => cases h
  | case2 tail => cases h; simp
  | case3 => cases h
  | case4 => cases h
  | case5 tail _ _ _ _ hlt ih => exact Nat.lt_trans (ih h) hlt
  | case6 e tail _ _ _ ih => exact Nat.lt_trans (ih h) (by simp only [List.length_cons]; omega)
  | case7 => cases h
  | case8 => cases h
  | case9 b tail _ _ _ ih => exact Nat.lt_trans (ih h) (by simp)

/-- Passes over a number from its first digit on. -/
def skipNumber (bytes : Bytes) : Except Fault Bytes :=
  match scanNumber bytes with
  | .ok (_, rest) => .ok rest
  | .error _ => .error .badNumber

/-- A number that is passed over takes up some bytes. -/
theorem length_skipNumber_lt {bytes rest : Bytes} (h : skipNumber bytes = .ok rest) :
    rest.length < bytes.length := by
  unfold skipNumber at h
  split at h
  · rename_i hs
    cases h
    exact length_scanNumber_lt hs
  · cases h

/-- Passes over the colon between a key and its value. -/
def skipColon (bytes : Bytes) : Except Fault Bytes :=
  match skipBlank bytes with
  | [] => .error .endInObject
  | b :: rest => if b = 0x3A then .ok rest else .error .expectedColon

theorem length_skipColon_le {bytes rest : Bytes} (h : skipColon bytes = .ok rest) :
    rest.length ≤ bytes.length := by
  unfold skipColon at h
  have hb := length_skipBlank_le bytes
  split at h
  · cases h
  · rename_i hs
    rw [hs] at hb
    split at h
    · cases h
      exact Nat.le_of_succ_le hb
    · cases h

/-- Passes over what stands before a value in a bracket: in an object, its key and a colon. -/
def skipKey : Bracket → Bytes → Except Fault Bytes
  | .list, bytes => .ok bytes
  | .object, bytes =>
    match skipBlank bytes with
    | [] => .error .endInObject
    | b :: rest => if b = 0x22 then skipString rest >>= skipColon else .error .keyNotText

theorem length_skipKey_le {bracket : Bracket} {bytes rest : Bytes}
    (h : skipKey bracket bytes = .ok rest) : rest.length ≤ bytes.length := by
  cases bracket with
  | list => cases h; exact Nat.le_refl _
  | object =>
    have hb := length_skipBlank_le bytes
    simp only [skipKey] at h
    split at h
    · cases h
    · rename_i hs
      rw [hs] at hb
      split at h
      · obtain ⟨r, hr, h⟩ := exists_of_bind_eq_ok h
        have h1 := length_skipString_lt hr
        have h2 := length_skipColon_le h
        simp only [List.length_cons] at hb
        omega
      · cases h

/-- What begins a value: a value without brackets, which is passed over, or a bracket. -/
inductive Opening where
  | scalar (rest : Bytes)
  | bracket (bracket : Bracket) (rest : Bytes)

/-- The bytes after an opening. -/
def Opening.rest : Opening → Bytes
  | scalar rest | bracket _ rest => rest

/-- Passes over what begins a value. -/
def skipOpening : Bytes → Except Fault Opening
  | [] => .error .endInValue
  | b :: rest =>
    if b = 0x6E then .scalar <$> scanWord [0x75, 0x6C, 0x6C] rest
    else if b = 0x74 then .scalar <$> scanWord [0x72, 0x75, 0x65] rest
    else if b = 0x66 then .scalar <$> scanWord [0x61, 0x6C, 0x73, 0x65] rest
    else if b = 0x2D then .scalar <$> skipNumber rest
    else if isDigit b then .scalar <$> skipNumber (b :: rest)
    else if b = 0x22 then .scalar <$> skipString rest
    else if b = 0x5B then .ok (.bracket .list rest)
    else if b = 0x7B then .ok (.bracket .object rest)
    else .error .expectedValue

/-- What comes of a result comes of it alone. -/
theorem exists_of_map_eq_ok {α β : Type} {x : Except Fault α} {f : α → β} {b : β}
    (h : f <$> x = .ok b) : ∃ a, x = .ok a ∧ f a = b := by
  cases x with
  | error e => cases h
  | ok a => cases h; exact ⟨a, rfl, rfl⟩

/-- What opens a value takes up some bytes. -/
theorem length_skipOpening_lt {bytes : Bytes} {o : Opening} (h : skipOpening bytes = .ok o) :
    o.rest.length < bytes.length := by
  unfold skipOpening at h
  split at h
  · cases h
  · rename_i b rest
    have hword {word r : Bytes} (h : scanWord word rest = .ok r) : r.length < (b :: rest).length :=
      Nat.lt_succ_of_le (length_scanWord_le h)
    repeat' split at h
    all_goals first
      | (obtain ⟨r, hr, rfl⟩ := exists_of_map_eq_ok h
         first
           | exact hword hr
           | exact Nat.lt_succ_of_lt (length_skipNumber_lt hr)
           | exact length_skipNumber_lt hr
           | exact Nat.lt_succ_of_lt (length_skipString_lt hr))
      | (cases h <;> simp [Opening.rest])

/-- Where in a value the reader stands. -/
inductive SkipState where
  /-- Before a value. -/
  | value
  /-- After an opening bracket. -/
  | opened
  /-- After a value in a bracket. -/
  | valued

/-- What to do after one step inside brackets: stop with the bytes after the value, or go on. -/
inductive SkipStep where
  | done (rest : Bytes)
  | go (brackets : List Bracket) (state : SkipState) (rest : Bytes)

/-- After a value: inside its bracket, or at the end. -/
def SkipStep.valued : List Bracket → Bytes → SkipStep
  | [], rest => .done rest
  | brackets, rest => .go brackets .valued rest

/-- One step of passing over a value. -/
def skipStep (brackets : List Bracket) (state : SkipState) (bytes : Bytes) :
    Except Fault SkipStep :=
  match state, brackets with
  | .value, _ | _, [] => do
    match ← skipOpening (skipBlank bytes) with
    | .scalar rest => .ok (.valued brackets rest)
    | .bracket bracket rest => .ok (.go (bracket :: brackets) .opened rest)
  | .opened, bracket :: outer =>
    match skipBlank bytes with
    | [] => .error bracket.atEnd
    | b :: rest =>
      if b = bracket.closing then .ok (.valued outer rest)
      else do .ok (.go brackets .value (← skipKey bracket (b :: rest)))
  | .valued, bracket :: outer =>
    match skipBlank bytes with
    | [] => .error bracket.atEnd
    | b :: rest =>
      if b = 0x2C then do .ok (.go brackets .value (← skipKey bracket rest))
      else if b = bracket.closing then .ok (.valued outer rest)
      else .error bracket.unended

/-- What is left to do: the bytes, and a step that need not take any. -/
def SkipState.size (state : SkipState) (bytes : Bytes) : Nat :=
  2 * bytes.length + (match state with | .opened => 1 | _ => 0)

/-- What is left to do after a step. -/
def SkipStep.size : SkipStep → Nat
  | done rest => 2 * rest.length
  | go _ state rest => state.size rest

theorem SkipStep.size_valued (brackets : List Bracket) (rest : Bytes) :
    (SkipStep.valued brackets rest).size = 2 * rest.length := by
  cases brackets <;> rfl

/-- Every step gets on: it takes up some bytes, or it ends a value. -/
theorem size_skipStep_lt {brackets : List Bracket} {state : SkipState} {bytes : Bytes}
    {step : SkipStep} (h : skipStep brackets state bytes = .ok step) :
    step.size < state.size bytes := by
  have hb := length_skipBlank_le bytes
  have hopen {step : SkipStep}
      (h : (do
        match ← skipOpening (skipBlank bytes) with
        | .scalar rest => .ok (.valued brackets rest)
        | .bracket bracket rest => .ok (.go (bracket :: brackets) .opened rest) :
          Except Fault SkipStep) = .ok step) : step.size < 2 * bytes.length := by
    obtain ⟨o, ho, h⟩ := exists_of_bind_eq_ok h
    have hlt := length_skipOpening_lt ho
    cases o with
    | scalar rest =>
      cases h
      rw [SkipStep.size_valued]
      simp only [Opening.rest] at hlt
      omega
    | bracket bracket rest =>
      cases h
      simp only [SkipStep.size, SkipState.size, Opening.rest] at *
      omega
  unfold skipStep at h
  split at h
  · exact hopen h
  · exact Nat.lt_of_lt_of_le (hopen h) (by simp [SkipState.size])
  · split at h
    · cases h
    · rename_i hs
      rw [hs] at hb
      simp only [List.length_cons] at hb
      split at h
      · cases h
        simp only [SkipStep.size_valued, SkipState.size]; omega
      · obtain ⟨r, hr, h⟩ := exists_of_bind_eq_ok h
        have := length_skipKey_le hr
        cases h
        simp only [SkipStep.size, SkipState.size, List.length_cons] at *; omega
  · split at h
    · cases h
    · rename_i hs
      rw [hs] at hb
      simp only [List.length_cons] at hb
      split at h
      · obtain ⟨r, hr, h⟩ := exists_of_bind_eq_ok h
        have := length_skipKey_le hr
        cases h
        simp only [SkipStep.size, SkipState.size] at *; omega
      · split at h
        · cases h
          simp only [SkipStep.size_valued, SkipState.size]; omega
        · cases h

/-- Goes on until the value has ended. -/
def skipFrom (brackets : List Bracket) (state : SkipState) (bytes : Bytes) : Except Fault Bytes :=
  match h : skipStep brackets state bytes with
  | .error fault => .error fault
  | .ok (.done rest) => .ok rest
  | .ok (.go brackets' state' rest) =>
    have : state'.size rest < state.size bytes := size_skipStep_lt h
    skipFrom brackets' state' rest
termination_by state.size bytes

/-- Passes over a value: the bytes after it. -/
def skipValue (bytes : Bytes) : Except Fault Bytes := skipFrom [] .value bytes

/-- Passing over what is open gets on. -/
theorem length_skipFrom_le {brackets : List Bracket} {state : SkipState} {bytes rest : Bytes}
    (h : skipFrom brackets state bytes = .ok rest) : 2 * rest.length < state.size bytes := by
  fun_induction skipFrom brackets state bytes with
  | case1 => cases h
  | case2 _ _ _ _ hs => cases h; exact size_skipStep_lt hs
  | case3 _ _ _ _ _ _ _ hlt ih => exact Nat.lt_trans (ih h) hlt

/-- Passing over a value gets on. -/
theorem length_skipValue_lt {bytes rest : Bytes} (h : skipValue bytes = .ok rest) :
    rest.length < bytes.length := by
  have := length_skipFrom_le h
  simp only [SkipState.size] at this
  omega

end Fostering.Json
