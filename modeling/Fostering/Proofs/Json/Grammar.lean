import Mathlib.Data.List.Basic
import Fostering.Json.Skip

/-!
# The grammar of JSON texts

What a JSON text is, said without a reader: what stands between the quotes of a string, the parts of a
number, and values with all that may stand inside their brackets (`Text`). It is the grammar of RFC 8259,
over bytes. The reader of values that nobody asked for passes over every such value, whatever it is in and
whatever comes behind it.

* `skipString_quoted`, `scanNumber_unsigned`: strings and numbers are passed over.
* `skipValue_text`: so is every value.
-/

namespace Fostering.Json

/-! ## Blanks -/

/-- Bytes that may stand between two tokens. -/
def Blanks (bytes : Bytes) : Prop := ∀ b ∈ bytes, isBlank b = true

/-- Nothing is as good as blanks. -/
theorem blanks_nil : Blanks [] := fun _ h => nomatch h

/-- Blanks are passed over. -/
theorem skipBlank_append {blanks : Bytes} (h : Blanks blanks) (rest : Bytes) :
    skipBlank (blanks ++ rest) = skipBlank rest := by
  induction blanks with
  | nil => rfl
  | cons b blanks ih =>
      obtain ⟨hb, hblanks⟩ := List.forall_mem_cons.mp h
      rw [List.cons_append, skipBlank, if_pos hb]
      exact ih hblanks

/-- A byte that is no blank is where the blanks end. -/
theorem skipBlank_cons {b : UInt8} (h : isBlank b = false) (rest : Bytes) :
    skipBlank (b :: rest) = b :: rest := by
  rw [skipBlank, if_neg (by simp [h])]

/-- The blanks before the first byte that is none are passed over. -/
theorem skipBlank_blanks {blanks : Bytes} (h : Blanks blanks) {b : UInt8} (hb : isBlank b = false)
    (rest : Bytes) : skipBlank (blanks ++ b :: rest) = b :: rest :=
  (skipBlank_append h _).trans (skipBlank_cons hb rest)

/-! ## Strings -/

/-- What stands between the quotes of a string. -/
inductive Quoted : Bytes → Prop where
  | nil : Quoted []
  | byte (b : UInt8) (text : Bytes) (hcontrol : ¬b < 0x20) (hquote : b ≠ 0x22) (hslash : b ≠ 0x5C)
      (htext : Quoted text) : Quoted (b :: text)
  /-- An escape of one letter. -/
  | short (letter c : UInt8) (text : Bytes) (hletter : escapeByte? letter = some c) (htext : Quoted text) :
      Quoted (0x5C :: letter :: text)
  /-- An escape of four digits. -/
  | code (a b c d : UInt8) (n : Nat) (text : Bytes) (hdigits : hexQuad? a b c d = some n)
      (htext : Quoted text) : Quoted (0x5C :: 0x75 :: a :: b :: c :: d :: text)

/-- The letter before four digits is none of the short escapes. -/
theorem ne_u_of_escapeByte? {letter c : UInt8} (h : escapeByte? letter = some c) : letter ≠ 0x75 := by
  rintro rfl
  cases h

/-- The four digits of an escape are read together. -/
theorem scanHexQuad_of_hexQuad? {a b c d : UInt8} {n : Nat} (h : hexQuad? a b c d = some n) (rest : Bytes) :
    scanHexQuad (a :: b :: c :: d :: rest) = .ok (n, rest) := by
  rw [scanHexQuad, h]

/-- A string is passed over up to its closing quote. -/
theorem skipString_quoted {text : Bytes} (h : Quoted text) (rest : Bytes) :
    skipString (text ++ 0x22 :: rest) = .ok rest := by
  induction h with
  | nil =>
      rw [List.nil_append, skipString.eq_def]
      exact if_pos rfl
  | byte b text hcontrol hquote hslash _ ih =>
      rw [List.cons_append, skipString.eq_def]
      dsimp only
      rw [if_neg hquote, if_neg hslash, if_neg hcontrol]
      exact ih
  | short letter c text hletter _ ih =>
      rw [List.cons_append, List.cons_append, skipString, if_neg (by decide), if_pos rfl]
      dsimp only
      rw [if_neg (ne_u_of_escapeByte? hletter), if_pos (by rw [hletter]; rfl)]
      exact ih
  | code a b c d n text hdigits _ ih =>
      have hscan := scanHexQuad_of_hexQuad? hdigits (text ++ 0x22 :: rest)
      simp only [List.cons_append]
      rw [skipString, if_neg (by decide), if_pos rfl]
      dsimp only
      rw [if_pos rfl]
      split
      · rename_i fault hfault
        rw [hscan] at hfault
        cases hfault
      · rename_i n' tail htail
        rw [hscan] at htail
        cases htail
        exact ih

/-! ## Numbers -/

/-- One digit or more. -/
def Digits (digits : Bytes) : Prop := digits ≠ [] ∧ ∀ d ∈ digits, isDigit d = true

/-- The whole part of a number; only zero itself begins with a zero. -/
def WholePart (digits : Bytes) : Prop := Digits digits ∧ (digits.head? = some 0x30 → digits = [0x30])

/-- The fraction of a number, if it has one. -/
inductive FractionPart : Bytes → Prop where
  | none : FractionPart []
  | some (digits : Bytes) (h : Digits digits) : FractionPart (0x2E :: digits)

/-- The exponent of a number, if it has one. -/
inductive ExponentPart : Bytes → Prop where
  | none : ExponentPart []
  | some (mark : UInt8) (sign digits : Bytes) (hmark : mark = 0x65 ∨ mark = 0x45)
      (hsign : sign ∈ [[], [0x2B], [0x2D]]) (h : Digits digits) : ExponentPart (mark :: (sign ++ digits))

/-- A number without a sign. -/
inductive Unsigned : Bytes → Prop where
  | intro (whole fraction exponent : Bytes) (hwhole : WholePart whole) (hfraction : FractionPart fraction)
      (hexponent : ExponentPart exponent) : Unsigned (whole ++ (fraction ++ exponent))

/-- The bytes that may come behind a value: blanks, a comma, the closing brackets. -/
def terminators : Bytes := [0x20, 0x0A, 0x09, 0x0D, 0x2C, 0x5D, 0x7D]

/-- What may come behind a value, which may also be nothing. -/
def Ends (rest : Bytes) : Prop := ∀ b ∈ rest.head?, b ∈ terminators

/-- A blank may come behind a value. -/
theorem mem_terminators_of_isBlank {b : UInt8} (h : isBlank b = true) : b ∈ terminators := by
  simp only [isBlank, Bool.or_eq_true, beq_iff_eq] at h
  simp only [terminators, List.mem_cons]
  tauto

/-- A byte string that does not begin with a byte of a kind. -/
def NotBefore (p : UInt8 → Bool) (rest : Bytes) : Prop := ∀ b ∈ rest.head?, p b = false

/-- Digits are scanned up to the first byte that is none. -/
theorem scanDigits_digits {digits rest : Bytes} (h : Digits digits) (hrest : NotBefore isDigit rest) :
    scanDigits (digits ++ rest) = .ok (digits, rest) := by
  obtain ⟨hne, hdigits⟩ := h
  obtain ⟨d, ds, rfl⟩ := List.exists_cons_of_ne_nil hne
  obtain ⟨hd, hds⟩ := List.forall_mem_cons.mp hdigits
  have htake : rest.takeWhile isDigit = [] ∧ rest.dropWhile isDigit = rest := by
    cases rest with
    | nil => exact ⟨rfl, rfl⟩
    | cons b rest =>
        have hb : isDigit b = false := hrest b rfl
        exact ⟨List.takeWhile_cons_of_neg (by simp [hb]), List.dropWhile_cons_of_neg (by simp [hb])⟩
  rw [List.cons_append, scanDigits, if_pos hd, List.takeWhile_append_of_pos hds,
    List.dropWhile_append_of_pos hds, htake.1, htake.2, List.append_nil]

/-- The whole part of a number is scanned up to the first byte that is no digit. -/
theorem scanWhole_whole {whole rest : Bytes} (h : WholePart whole) (hrest : NotBefore isDigit rest) :
    scanWhole (whole ++ rest) = .ok (whole, rest) := by
  rw [scanWhole.eq_def]
  split
  · rename_i d tail heq
    obtain ⟨z, zs, rfl⟩ := List.exists_cons_of_ne_nil h.1.1
    obtain ⟨rfl, htail⟩ := List.cons.inj heq
    obtain ⟨-, rfl⟩ := List.cons.inj (h.2 rfl)
    have hrest' : rest = d :: tail := htail
    subst hrest'
    have hd : isDigit d = false := hrest d rfl
    rw [if_neg (by simp [hd])]
  · exact scanDigits_digits h.1 hrest

/-- A fraction is scanned, unless a digit or another point comes behind it. -/
theorem scanFraction_fraction {fraction rest : Bytes} (h : FractionPart fraction)
    (hrest : NotBefore (fun b => isDigit b || b == 0x2E) rest) :
    ∃ digits?, scanFraction (fraction ++ rest) = .ok (digits?, rest) := by
  cases h with
  | none =>
      refine ⟨none, ?_⟩
      rw [List.nil_append, scanFraction.eq_def]
      split
      · exact absurd (hrest 0x2E rfl) (by decide)
      · rfl
  | some digits h =>
      have hdigits := scanDigits_digits h fun b hb => (Bool.or_eq_false_iff.mp (hrest b hb)).1
      refine ⟨some digits, ?_⟩
      rw [List.cons_append, scanFraction, hdigits]
      rfl

/-- An exponent is scanned, unless a digit or another exponent comes behind it. -/
theorem scanExponent_exponent {exponent rest : Bytes} (h : ExponentPart exponent)
    (hrest : NotBefore (fun b => isDigit b || b == 0x65 || b == 0x45) rest) :
    ∃ exponent?, scanExponent (exponent ++ rest) = .ok (exponent?, rest) := by
  cases h with
  | none =>
      refine ⟨none, ?_⟩
      rw [List.nil_append, scanExponent.eq_def]
      split
      · exact absurd (hrest 0x65 rfl) (by decide)
      · exact absurd (hrest 0x45 rfl) (by decide)
      · rfl
  | some mark sign digits hmark hsign h =>
      have hdigits := scanDigits_digits h fun b hb =>
        (Bool.or_eq_false_iff.mp (Bool.or_eq_false_iff.mp (hrest b hb)).1).1
      obtain ⟨d, ds, rfl⟩ := List.exists_cons_of_ne_nil h.1
      have hd : isDigit d = true := h.2 d List.mem_cons_self
      have hafter : (scanSign (sign ++ (d :: ds) ++ rest)).2 = d :: ds ++ rest := by
        simp only [List.mem_cons, List.not_mem_nil, or_false] at hsign
        rcases hsign with rfl | rfl | rfl
        · rw [List.nil_append, List.cons_append, scanSign.eq_def]
          split
          · rename_i heq
            cases (List.cons.inj heq).1
            exact absurd hd (by decide)
          · rename_i heq
            cases (List.cons.inj heq).1
            exact absurd hd (by decide)
          · rfl
        · rfl
        · rfl
      refine ⟨some ((scanSign (sign ++ (d :: ds) ++ rest)).1, d :: ds), ?_⟩
      rcases hmark with rfl | rfl
      · rw [List.cons_append, scanExponent, hafter, hdigits]
        rfl
      · rw [List.cons_append, scanExponent, hafter, hdigits]
        rfl

/-- What begins with a byte of another kind, or goes on with what does. -/
theorem NotBefore.append {p : UInt8 → Bool} {part rest : Bytes} (h : ∀ b ∈ part.head?, p b = false)
    (hrest : NotBefore p rest) : NotBefore p (part ++ rest) := by
  cases part with
  | nil => exact hrest
  | cons b part => exact h

/-- What comes behind a value does not begin with a byte that no value is followed by. -/
theorem Ends.notBefore {p : UInt8 → Bool} {rest : Bytes} (h : Ends rest)
    (hp : (terminators.all fun b => !p b) = true) : NotBefore p rest := by
  intro b hb
  exact (Bool.not_eq_true' _).mp (List.all_eq_true.mp hp b (h b hb))

/-- A number is passed over, whatever may come behind it. -/
theorem scanNumber_unsigned {text rest : Bytes} (h : Unsigned text) (hrest : Ends rest) :
    ∃ n, scanNumber (text ++ rest) = .ok (n, rest) := by
  obtain ⟨whole, fraction, exponent, hwhole, hfraction, hexponent⟩ := h
  have hmark {p : UInt8 → Bool} (he : p 0x65 = false) (hE : p 0x45 = false) :
      ∀ b ∈ exponent.head?, p b = false := by
    cases hexponent with
    | none => exact fun b hb => nomatch hb
    | some mark sign digits hmark hsign hdigits =>
        rintro b ⟨⟩
        rcases hmark with rfl | rfl
        · exact he
        · exact hE
  have hpoint {p : UInt8 → Bool} (hp : p 0x2E = false) : ∀ b ∈ fraction.head?, p b = false := by
    cases hfraction with
    | none => exact fun b hb => nomatch hb
    | some digits hdigits =>
        rintro b ⟨⟩
        exact hp
  have hafterWhole : NotBefore isDigit (fraction ++ (exponent ++ rest)) :=
    .append (hpoint rfl) (.append (hmark rfl rfl) (hrest.notBefore rfl))
  have hafterFraction : NotBefore (fun b => isDigit b || b == 0x2E) (exponent ++ rest) :=
    .append (hmark rfl rfl) (hrest.notBefore rfl)
  have hafterExponent : NotBefore (fun b => isDigit b || b == 0x65 || b == 0x45) rest :=
    hrest.notBefore rfl
  obtain ⟨fraction?, hscanFraction⟩ := scanFraction_fraction hfraction hafterFraction
  obtain ⟨exponent?, hscanExponent⟩ := scanExponent_exponent hexponent hafterExponent
  refine ⟨⟨whole, fraction?, exponent?⟩, ?_⟩
  rw [List.append_assoc, List.append_assoc, scanNumber, scanWhole_whole hwhole hafterWhole]
  change (scanFraction (fraction ++ (exponent ++ rest)) >>= _) = _
  rw [hscanFraction]
  change (scanExponent (exponent ++ rest) >>= _) = _
  rw [hscanExponent]
  rfl

/-! ## Values -/

/-- A value without brackets. -/
inductive Scalar : Bytes → Prop where
  | null : Scalar [0x6E, 0x75, 0x6C, 0x6C]
  | yes : Scalar [0x74, 0x72, 0x75, 0x65]
  | no : Scalar [0x66, 0x61, 0x6C, 0x73, 0x65]
  | number (text : Bytes) (h : Unsigned text) : Scalar text
  | negative (text : Bytes) (h : Unsigned text) : Scalar (0x2D :: text)
  | text (text : Bytes) (h : Quoted text) : Scalar (0x22 :: (text ++ [0x22]))

/-- The byte that opens a bracket. -/
def Bracket.opening : Bracket → UInt8
  | list => 0x5B
  | object => 0x7B

/-- What stands before a value in a bracket: nothing, or in an object its key and a colon. -/
inductive Key : Bracket → Bytes → Prop where
  | list : Key .list []
  | object (before name after : Bytes) (hbefore : Blanks before) (hname : Quoted name)
      (hafter : Blanks after) : Key .object (before ++ 0x22 :: (name ++ 0x22 :: (after ++ [0x3A])))

/-- What a piece of a text is: a value, or what comes after the opening of a bracket, or after a value in
it, up to its end and with it. -/
inductive Part where
  | value
  | opened (bracket : Bracket)
  | valued (bracket : Bracket)

/-- The texts of values, and of what stands inside brackets. -/
inductive Text : Part → Bytes → Prop where
  | scalar (text : Bytes) (h : Scalar text) : Text .value text
  | bracket (bracket : Bracket) (inside : Bytes) (h : Text (.opened bracket) inside) :
      Text .value (bracket.opening :: inside)
  /-- A bracket without values. -/
  | empty (bracket : Bracket) (blanks : Bytes) (hblanks : Blanks blanks) :
      Text (.opened bracket) (blanks ++ [bracket.closing])
  /-- The first value in a bracket. -/
  | first (bracket : Bracket) (key blanks value rest : Bytes) (hkey : Key bracket key)
      (hblanks : Blanks blanks) (hvalue : Text .value value) (hrest : Text (.valued bracket) rest) :
      Text (.opened bracket) (key ++ (blanks ++ (value ++ rest)))
  /-- The end of a bracket, after its values. -/
  | closed (bracket : Bracket) (blanks : Bytes) (hblanks : Blanks blanks) :
      Text (.valued bracket) (blanks ++ [bracket.closing])
  /-- One more value in a bracket. -/
  | next (bracket : Bracket) (before key blanks value rest : Bytes) (hbefore : Blanks before)
      (hkey : Key bracket key) (hblanks : Blanks blanks) (hvalue : Text .value value)
      (hrest : Text (.valued bracket) rest) :
      Text (.valued bracket) (before ++ 0x2C :: (key ++ (blanks ++ (value ++ rest))))

/-! ## Values are passed over -/

/-- What may not come behind a value is no blank. -/
theorem not_isBlank_of_notMem {b : UInt8} (h : b ∉ terminators) : isBlank b = false :=
  eq_false_of_ne_true fun hb => h (mem_terminators_of_isBlank hb)

/-- A number without a sign begins with a digit. -/
theorem Unsigned.exists_head {text : Bytes} (h : Unsigned text) :
    ∃ b tail, text = b :: tail ∧ isDigit b = true := by
  obtain ⟨whole, fraction, exponent, hwhole, -, -⟩ := h
  obtain ⟨d, ds, rfl⟩ := List.exists_cons_of_ne_nil hwhole.1.1
  exact ⟨d, _, rfl, hwhole.1.2 d List.mem_cons_self⟩

/-- A digit cannot come behind a value, so a number ends where its digits do. -/
theorem notMem_terminators_of_isDigit {b : UInt8} (h : isDigit b = true) : b ∉ terminators := by
  intro hmem
  have hnone : (terminators.all fun b => !isDigit b) = true := rfl
  have hnot := List.all_eq_true.mp hnone b hmem
  rw [h] at hnot
  cases hnot

/-- A value does not begin with a byte that may come behind one. -/
theorem Text.exists_head {text : Bytes} (h : Text .value text) :
    ∃ b tail, text = b :: tail ∧ b ∉ terminators := by
  cases h with
  | scalar text h =>
      cases h with
      | null | yes | no | text | negative => exact ⟨_, _, rfl, by decide⟩
      | number text h =>
          obtain ⟨b, tail, rfl, hb⟩ := h.exists_head
          exact ⟨b, tail, rfl, notMem_terminators_of_isDigit hb⟩
  | bracket bracket inside h =>
      cases bracket
      · exact ⟨_, _, rfl, by decide⟩
      · exact ⟨_, _, rfl, by decide⟩

/-- Blanks and a byte that may come behind a value may come behind one. -/
theorem ends_blanks {blanks tail : Bytes} {c : UInt8} (hblanks : Blanks blanks) (hc : c ∈ terminators) :
    Ends (blanks ++ c :: tail) := by
  cases blanks with
  | nil =>
      rintro b ⟨⟩
      exact hc
  | cons b blanks =>
      rintro b ⟨⟩
      exact mem_terminators_of_isBlank (hblanks _ List.mem_cons_self)

/-- What comes after a value in a bracket may come behind a value. -/
theorem Text.ends {bracket : Bracket} {inside : Bytes} (h : Text (.valued bracket) inside) (rest : Bytes) :
    Ends (inside ++ rest) := by
  cases h with
  | closed _ blanks hblanks =>
      rw [List.append_assoc]
      exact ends_blanks hblanks (by cases bracket <;> decide)
  | next _ before key blanks value rest' hbefore hkey hblanks hvalue hrest =>
      rw [List.append_assoc]
      exact ends_blanks hbefore (by decide)

/-- A number without a sign is passed over. -/
theorem skipNumber_unsigned {text rest : Bytes} (h : Unsigned text) (hrest : Ends rest) :
    skipNumber (text ++ rest) = .ok rest := by
  obtain ⟨n, hscan⟩ := scanNumber_unsigned h hrest
  rw [skipNumber, hscan]

/-- A digit is told apart from every byte that is none. -/
theorem ne_of_isDigit {b c : UInt8} (h : isDigit b = true) (hc : isDigit c = false) : b ≠ c := by
  rintro rfl
  rw [hc] at h
  cases h

/-- A value without brackets is passed over at once. -/
theorem skipOpening_scalar {text rest : Bytes} (h : Scalar text) (hrest : Ends rest) :
    skipOpening (text ++ rest) = .ok (.scalar rest) := by
  cases h with
  | null | yes | no => rfl
  | number text h =>
      obtain ⟨b, tail, rfl, hb⟩ := h.exists_head
      have hskip := skipNumber_unsigned h hrest
      rw [List.cons_append] at hskip
      rw [List.cons_append, skipOpening, if_neg (ne_of_isDigit hb rfl), if_neg (ne_of_isDigit hb rfl),
        if_neg (ne_of_isDigit hb rfl), if_neg (ne_of_isDigit hb rfl), if_pos hb, hskip]
      rfl
  | negative text h =>
      rw [List.cons_append, skipOpening, if_neg (by decide), if_neg (by decide), if_neg (by decide),
        if_pos rfl, skipNumber_unsigned h hrest]
      rfl
  | text text h =>
      rw [List.cons_append, List.append_assoc, skipOpening, if_neg (by decide), if_neg (by decide),
        if_neg (by decide), if_neg (by decide), if_neg (by decide), if_pos rfl]
      rw [List.cons_append, List.nil_append, skipString_quoted h]
      rfl

/-- A bracket opens a value. -/
theorem skipOpening_bracket (bracket : Bracket) (rest : Bytes) :
    skipOpening (bracket.opening :: rest) = .ok (.bracket bracket rest) := by
  cases bracket <;> rfl

/-- A key is passed over, with its colon. -/
theorem skipKey_object {before name after : Bytes} (hbefore : Blanks before) (hname : Quoted name)
    (hafter : Blanks after) (rest : Bytes) :
    skipKey .object (before ++ 0x22 :: (name ++ 0x22 :: (after ++ 0x3A :: rest))) = .ok rest := by
  have hcolon : skipColon (after ++ 0x3A :: rest) = .ok rest := by
    rw [skipColon, skipBlank_blanks hafter (by decide)]
    rfl
  have hskip := skipString_quoted hname (after ++ 0x3A :: rest)
  rw [skipKey, skipBlank_blanks hbefore (by decide)]
  dsimp only
  rw [if_pos rfl, hskip]
  exact hcolon

/-- What is left to do after a value. -/
def afterValue : List Bracket → Bytes → Except Fault Bytes
  | [], rest => .ok rest
  | brackets, rest => skipFrom brackets .valued rest

/-- A step that goes on is the first of those that follow. -/
theorem skipFrom_of_go {brackets brackets' : List Bracket} {state state' : SkipState} {bytes rest : Bytes}
    (h : skipStep brackets state bytes = .ok (.go brackets' state' rest)) :
    skipFrom brackets state bytes = skipFrom brackets' state' rest := by
  rw [skipFrom]
  split
  · rename_i fault heq
    rw [h] at heq
    cases heq
  · rename_i rest' heq
    rw [h] at heq
    cases heq
  · rename_i brackets'' state'' rest' heq
    rw [h] at heq
    cases heq
    rfl

/-- A step that ends a value is followed by what comes after values. -/
theorem skipFrom_of_valued {brackets outer : List Bracket} {state : SkipState} {bytes rest : Bytes}
    (h : skipStep brackets state bytes = .ok (.valued outer rest)) :
    skipFrom brackets state bytes = afterValue outer rest := by
  cases outer with
  | nil =>
      rw [skipFrom]
      split
      · rename_i fault heq
        rw [h] at heq
        cases heq
      · rename_i rest' heq
        rw [h] at heq
        cases heq
        rfl
      · rename_i brackets'' state'' rest' heq
        rw [h] at heq
        cases heq
  | cons bracket outer => exact skipFrom_of_go h

section

variable (outer : List Bracket) {bracket : Bracket} {key blanks value : Bytes}

/-- The step to the first value in a bracket. -/
theorem skipStep_first (hkey : Key bracket key) (hblanks : Blanks blanks) (hvalue : Text .value value)
    (rest : Bytes) :
    ∃ blanks', Blanks blanks' ∧
      skipStep (bracket :: outer) .opened (key ++ (blanks ++ (value ++ rest))) =
        .ok (.go (bracket :: outer) .value (blanks' ++ (value ++ rest))) := by
  cases hkey with
  | list =>
      obtain ⟨b, tail, rfl, hb⟩ := hvalue.exists_head
      have hclosing : b ≠ Bracket.list.closing := fun h => hb (by rw [h]; decide)
      refine ⟨[], blanks_nil, ?_⟩
      rw [List.nil_append, List.cons_append, skipStep, skipBlank_blanks hblanks (not_isBlank_of_notMem hb)]
      exact if_neg hclosing
  | object before name after hbefore hname hafter =>
      have hkey := skipKey_object blanks_nil hname hafter (blanks ++ (value ++ rest))
      rw [List.nil_append] at hkey
      refine ⟨blanks, hblanks, ?_⟩
      simp only [List.append_assoc, List.cons_append, List.nil_append]
      rw [skipStep, skipBlank_blanks hbefore (by decide)]
      dsimp only
      rw [if_neg (by decide), hkey]
      rfl

/-- The step to the next value in a bracket. -/
theorem skipStep_next {before : Bytes} (hbefore : Blanks before) (hkey : Key bracket key) (rest : Bytes) :
    skipStep (bracket :: outer) .valued (before ++ 0x2C :: (key ++ rest)) =
      .ok (.go (bracket :: outer) .value rest) := by
  rw [skipStep, skipBlank_blanks hbefore (by decide)]
  dsimp only
  rw [if_pos rfl]
  cases hkey with
  | list => rfl
  | object before name after hbefore hname hafter =>
      have hkey := skipKey_object hbefore hname hafter rest
      simp only [List.append_assoc, List.cons_append, List.nil_append]
      rw [hkey]
      rfl

/-- A bracket may be closed as soon as it is opened. -/
theorem skipStep_empty (hblanks : Blanks blanks) (rest : Bytes) :
    skipStep (bracket :: outer) .opened (blanks ++ bracket.closing :: rest) = .ok (.valued outer rest) := by
  rw [skipStep, skipBlank_blanks hblanks (by cases bracket <;> decide)]
  exact if_pos rfl

/-- A bracket may be closed after a value. -/
theorem skipStep_closed (hblanks : Blanks blanks) (rest : Bytes) :
    skipStep (bracket :: outer) .valued (blanks ++ bracket.closing :: rest) = .ok (.valued outer rest) := by
  rw [skipStep, skipBlank_blanks hblanks (by cases bracket <;> decide)]
  dsimp only
  rw [if_neg (by cases bracket <;> decide), if_pos rfl]

end

/-- What the reader does with a piece of a text, whatever comes behind it. -/
def Part.Passes (text : Bytes) : Part → Prop
  | .value => ∀ brackets blanks rest, Blanks blanks → Ends rest →
      skipFrom brackets .value (blanks ++ (text ++ rest)) = afterValue brackets rest
  | .opened bracket => ∀ outer rest,
      skipFrom (bracket :: outer) .opened (text ++ rest) = afterValue outer rest
  | .valued bracket => ∀ outer rest,
      skipFrom (bracket :: outer) .valued (text ++ rest) = afterValue outer rest

/-- The reader passes over every piece of a text. The induction is on the text; what is inside a bracket
leads back to the list of the brackets around it. -/
theorem Text.passes {part : Part} {text : Bytes} (h : Text part text) : part.Passes text := by
  -- over the grammar, for any brackets that are open around the text
  induction h with
  | scalar text h =>
      intro brackets blanks rest hblanks hrest
      obtain ⟨b, tail, heq, hb⟩ := (Text.scalar text h).exists_head
      have hopening := skipOpening_scalar h hrest
      have hstep : skipStep brackets .value (blanks ++ (text ++ rest)) = .ok (.valued brackets rest) := by
        rw [skipStep, skipBlank_append hblanks]
        subst heq
        rw [List.cons_append] at hopening ⊢
        rw [skipBlank_cons (not_isBlank_of_notMem hb), hopening]
        rfl
      exact skipFrom_of_valued hstep
  | bracket bracket inside _ ih =>
      intro brackets blanks rest hblanks _
      have hopening := skipOpening_bracket bracket (inside ++ rest)
      have hstep : skipStep brackets .value (blanks ++ (bracket.opening :: inside ++ rest)) =
          .ok (.go (bracket :: brackets) .opened (inside ++ rest)) := by
        rw [skipStep, List.cons_append, skipBlank_blanks hblanks (by cases bracket <;> decide), hopening]
        rfl
      exact (skipFrom_of_go hstep).trans (ih brackets rest)
  | empty bracket blanks hblanks =>
      intro outer rest
      rw [List.append_assoc]
      exact skipFrom_of_valued (skipStep_empty outer hblanks rest)
  | closed bracket blanks hblanks =>
      intro outer rest
      rw [List.append_assoc]
      exact skipFrom_of_valued (skipStep_closed outer hblanks rest)
  | first bracket key blanks value inside hkey hblanks hvalue hinside ihvalue ihinside =>
      intro outer rest
      obtain ⟨blanks', hblanks', hstep⟩ := skipStep_first outer hkey hblanks hvalue (inside ++ rest)
      simp only [List.append_assoc]
      rw [skipFrom_of_go hstep, ihvalue (bracket :: outer) blanks' _ hblanks' (hinside.ends rest)]
      exact ihinside outer rest
  | next bracket before key blanks value inside hbefore hkey hblanks hvalue hinside ihvalue ihinside =>
      intro outer rest
      have hstep := skipStep_next outer hbefore hkey (blanks ++ (value ++ (inside ++ rest)))
      simp only [List.append_assoc, List.cons_append]
      rw [skipFrom_of_go hstep, ihvalue (bracket :: outer) blanks _ hblanks (hinside.ends rest)]
      exact ihinside outer rest

/-- **A value is passed over**, whatever is in it and whatever may come behind it. -/
theorem skipValue_text {blanks value rest : Bytes} (hblanks : Blanks blanks) (h : Text .value value)
    (hrest : Ends rest) : skipValue (blanks ++ (value ++ rest)) = .ok rest :=
  h.passes [] blanks rest hblanks hrest

end Fostering.Json
