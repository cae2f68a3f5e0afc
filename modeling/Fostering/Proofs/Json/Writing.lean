import Fostering.Json.Value
import Fostering.Proofs.Decimal.Digits
import Fostering.Proofs.Json.Objects

/-!
# Values that are written, read back

Texts, flags and whole numbers are read back as what they were, whatever may come behind them. So is an
object: its members are read one after the other, each into the field of its name, and those that have
no field are passed over.

* `spells_spelling`, `readText_quote`: texts.
* `text_int`, `readWhole_int`: whole numbers.
* `Shape.read_object_render`: objects.
-/

namespace Fostering.Json

open String (utf8EncodeChar)

/-! ## Texts -/

/-- Bytes that need no escape spell themselves. -/
theorem spells_append {bytes text out : Bytes} (hbytes : ∀ b ∈ bytes, ¬b < 0x20 ∧ b ≠ 0x22 ∧ b ≠ 0x5C)
    (h : Spells text out) : Spells (bytes ++ text) (bytes ++ out) := by
  induction bytes with
  | nil => exact h
  | cons b bytes ih =>
      obtain ⟨⟨hcontrol, hquote, hslash⟩, hrest⟩ := List.forall_mem_cons.mp hbytes
      exact .byte b _ _ hcontrol hquote hslash (ih hrest)

/-- The bytes of a character that is escaped by itself need no escape. -/
theorem bytes_of_plain {c : Char} (hcontrol : ¬c.toNat < 0x20) (hquote : c ≠ '"') (hslash : c ≠ '\\') :
    ∀ b ∈ utf8EncodeChar c, ¬b < 0x20 ∧ b ≠ 0x22 ∧ b ≠ 0x5C := by
  have hne {d : Char} (h : c ≠ d) : c.toNat ≠ d.toNat := fun hsame => h (Char.toNat_inj.mp hsame)
  have hbyte {n : Nat} (hn : n < 256) (hleast : 0x20 ≤ n) (hquote : n ≠ 0x22) (hslash : n ≠ 0x5C) :
      ¬UInt8.ofNat n < 0x20 ∧ UInt8.ofNat n ≠ 0x22 ∧ UInt8.ofNat n ≠ 0x5C := by
    have hn' : (UInt8.ofNat n).toNat = n := Utf8.toNat_ofNat_of_lt hn
    refine ⟨?_, fun h => hquote ?_, fun h => hslash ?_⟩
    · rw [UInt8.lt_iff_toNat_lt, hn']
      exact Nat.not_lt_of_le hleast
    · rw [← hn', h]
      rfl
    · rw [← hn', h]
      rfl
  have hquote' := hne hquote
  have hslash' := hne hslash
  change c.toNat ≠ 0x22 at hquote'
  change c.toNat ≠ 0x5C at hslash'
  have hvalid := Utf8.toNat_cases c
  have hsame : c.val.toNat = c.toNat := rfl
  unfold utf8EncodeChar
  dsimp only
  rw [hsame] at hvalid ⊢
  generalize c.toNat = v at *
  split_ifs with hone htwo hthree
  · exact List.forall_mem_singleton.mpr (hbyte (by omega) (by omega) hquote' hslash')
  -- The bytes of all other characters are beyond those of ASCII.
  all_goals
    simp only [List.forall_mem_cons]
    refine ⟨hbyte ?_ ?_ ?_ ?_, hbyte ?_ ?_ ?_ ?_, ?_⟩
    all_goals first | omega | skip
  · exact nofun
  · exact ⟨hbyte (by omega) (by omega) (by omega) (by omega), nofun⟩
  · exact ⟨hbyte (by omega) (by omega) (by omega) (by omega),
      hbyte (by omega) (by omega) (by omega) (by omega), nofun⟩

/-- A character spells itself. -/
theorem spells_escapeChar (c : Char) {text out : Bytes} (h : Spells text out) :
    Spells ((escapeChar c).flatMap utf8EncodeChar ++ text) (utf8EncodeChar c ++ out) := by
  unfold escapeChar
  split_ifs with hquote hslash hline hreturn htab hback hfeed hcontrol
  · subst hquote
    exact .short 0x22 0x22 text out rfl h
  · subst hslash
    exact .short 0x5C 0x5C text out rfl h
  · subst hline
    exact .short 0x6E 0x0A text out rfl h
  · subst hreturn
    exact .short 0x72 0x0D text out rfl h
  · subst htab
    exact .short 0x74 0x09 text out rfl h
  · subst hback
    exact .short 0x62 0x08 text out rfl h
  · subst hfeed
    exact .short 0x66 0x0C text out rfl h
  · have hchar : Char.ofNat c.toNat = c := Char.ofNat_toNat c
    have hdigits : ∀ n < 0x20, hexQuad? 0x30 0x30 (UInt8.ofNat (Bytes.hexDigit (n / 16)).toNat)
        (UInt8.ofNat (Bytes.hexDigit (n % 16)).toNat) = some n := by decide
    have hbytes : ∀ n < 0x20,
        (['\\', 'u', '0', '0', Bytes.hexDigit (n / 16), Bytes.hexDigit (n % 16)].flatMap utf8EncodeChar) =
          [0x5C, 0x75, 0x30, 0x30, UInt8.ofNat (Bytes.hexDigit (n / 16)).toNat,
            UInt8.ofNat (Bytes.hexDigit (n % 16)).toNat] := by decide
    have hspells := Spells.code 0x30 0x30 _ _ c.toNat text out (hdigits _ hcontrol) (by omega) h
    rw [hchar] at hspells
    rw [hbytes _ hcontrol]
    exact hspells
  · rw [List.flatMap_singleton]
    exact spells_append (bytes_of_plain hcontrol hquote hslash) h

/-- What stands between the quotes of a text that is written. -/
def spelling (s : String) : Bytes := (s.toList.flatMap escapeChar).flatMap utf8EncodeChar

/-- **A text spells itself.** -/
theorem spells_spelling (s : String) : Spells (spelling s) (Utf8.encode s) := by
  unfold spelling
  rw [Utf8.encode_eq]
  induction s.toList with
  | nil => exact .nil
  | cons c cs ih =>
      rw [List.flatMap_cons, List.flatMap_append, List.flatMap_cons]
      exact spells_escapeChar c ih

/-- Texts are encoded one after the other. -/
theorem encode_append (s t : String) : Utf8.encode (s ++ t) = Utf8.encode s ++ Utf8.encode t := by
  rw [Utf8.encode_eq, Utf8.encode_eq, Utf8.encode_eq, String.toList_append, List.flatMap_append]

/-- A text is written between quotes, spelt as it has to be. -/
theorem encode_quote (s : String) : Utf8.encode (quote s) = 0x22 :: (spelling s ++ [0x22]) := by
  have hbetween : Utf8.encode (String.ofList (s.toList.flatMap escapeChar)) = spelling s := by
    rw [Utf8.encode_eq, String.toList_ofList]
    rfl
  have hmark : Utf8.encode "\"" = [0x22] := by decide
  unfold quote
  rw [encode_append, encode_append, hbetween, hmark]
  rfl

/-- A text that is written is a value. -/
theorem text_quote (s : String) : Text .value (Utf8.encode (quote s)) := by
  rw [encode_quote]
  exact .scalar _ (.text _ (spells_spelling s).quoted)

/-- A text that is written is read. -/
theorem readText_quote (s : String) (rest : Bytes) :
    readText (Utf8.encode (quote s) ++ rest) = .ok (s, rest) := by
  rw [encode_quote, List.cons_append, List.append_assoc, readText, skipBlank_cons (by decide)]
  exact (if_pos rfl).trans (scanString_spells (spells_spelling s) rest)

/-! ## Flags -/

/-- A flag that is written is a value. -/
theorem text_flag (value : Bool) : Text .value (Utf8.encode (Json.flag value).render) := by
  cases value with
  | false => exact .scalar _ .no
  | true => exact .scalar _ .yes

/-- A flag that is written is read. -/
theorem readFlag_render (value : Bool) (rest : Bytes) :
    readFlag (Utf8.encode (Json.flag value).render ++ rest) = .ok (value, rest) := by
  cases value with
  | false => rfl
  | true => rfl

/-! ## Whole numbers -/

/-- The digits of a number, as bytes. -/
def digitBytes (n : Nat) : Bytes := (Nat.toDigits 10 n).map fun c => UInt8.ofNat c.toNat

/-- A number is written in digits. -/
theorem isDigit_of_mem {n : Nat} {c : Char} (h : c ∈ Nat.toDigits 10 n) : c.isDigit = true :=
  Nat.isDigit_of_mem_toDigits (by decide) (by decide) h

/-- The byte of a digit. -/
theorem toNat_digit {c : Char} (h : c.isDigit = true) :
    (UInt8.ofNat c.toNat).toNat = c.toNat ∧ 48 ≤ c.toNat ∧ c.toNat ≤ 57 := by
  have hrange : 48 ≤ c.toNat ∧ c.toNat ≤ 57 := Char.isDigit_iff_toNat.mp h
  obtain ⟨hleast, hmost⟩ := hrange
  exact ⟨Utf8.toNat_ofNat_of_lt (by omega), hleast, hmost⟩

/-- Digits have one byte each. -/
theorem flatMap_digits {cs : List Char} (h : ∀ c ∈ cs, c.isDigit = true) :
    cs.flatMap utf8EncodeChar = cs.map fun c => UInt8.ofNat c.toNat := by
  induction cs with
  | nil => rfl
  | cons c cs ih =>
      obtain ⟨hc, hcs⟩ := List.forall_mem_cons.mp h
      have hone : utf8EncodeChar c = [UInt8.ofNat c.toNat] := by
        obtain ⟨-, -, hmost⟩ := toNat_digit hc
        have hascii : c.val.toNat ≤ 0x7F := Nat.le_trans hmost (by decide)
        unfold utf8EncodeChar
        dsimp only
        rw [if_pos hascii]
        rfl
      rw [List.flatMap_cons, hone, ih hcs]
      rfl

/-- A number is encoded as the bytes of its digits. -/
theorem encode_repr (n : Nat) : Utf8.encode n.repr = digitBytes n := by
  rw [Utf8.encode_eq, Nat.toList_repr]
  exact flatMap_digits fun _ => isDigit_of_mem

/-- A number that is written has a whole part that begins with no zero, unless it is one. -/
theorem wholePart_digitBytes (n : Nat) : WholePart (digitBytes n) := by
  have hdigit {c : Char} (hc : c.isDigit = true) : isDigit (UInt8.ofNat c.toNat) = true := by
    obtain ⟨hbyte, hleast, hmost⟩ := toNat_digit hc
    unfold isDigit
    rw [Bool.and_eq_true, decide_eq_true_eq, decide_eq_true_eq, UInt8.le_iff_toNat_le, UInt8.le_iff_toNat_le,
      hbyte]
    exact ⟨hleast, hmost⟩
  refine ⟨⟨fun hnil => Nat.toDigits_ne_nil (List.map_eq_nil_iff.mp hnil), ?_⟩, fun hzero => ?_⟩
  · intro d hd
    obtain ⟨c, hc, rfl⟩ := List.mem_map.mp hd
    exact hdigit (isDigit_of_mem hc)
  · unfold digitBytes at hzero ⊢
    rw [List.head?_map] at hzero
    obtain ⟨c, hhead, hc⟩ := Option.map_eq_some_iff.mp hzero
    have hmem : c ∈ Nat.toDigits 10 n := List.mem_of_head? hhead
    have hbyte := (toNat_digit (isDigit_of_mem hmem)).1
    rw [hc] at hbyte
    have hchar : c = '0' := Char.toNat_inj.mp hbyte.symm
    rw [hchar] at hhead
    rw [eq_zero_of_head_toDigits hhead]
    rfl

/-- The bytes of digits count as the digits do. -/
theorem foldl_digitBytes (cs : List Char) (h : ∀ c ∈ cs, c.isDigit = true) (init : Nat) :
    (cs.map fun c => UInt8.ofNat c.toNat).foldl (fun n d => 10 * n + digitValue d) init =
      Nat.ofDigitChars 10 cs init := by
  induction cs generalizing init with
  | nil => exact Nat.ofDigitChars_nil.symm
  | cons c cs ih =>
      obtain ⟨hc, hcs⟩ := List.forall_mem_cons.mp h
      rw [List.map_cons, List.foldl_cons, ih hcs, Nat.ofDigitChars_cons, digitValue, (toNat_digit hc).1]
      rfl

/-- The digits of a number mean it. -/
theorem decimal_digitBytes (n : Nat) : decimal (digitBytes n) = n :=
  (foldl_digitBytes _ (fun _ => isDigit_of_mem) 0).trans Nat.ofDigitChars_ten_toDigits

/-- A whole number is its digits, with a minus before them if it is below zero. -/
theorem encode_int (n : Int) : Utf8.encode (Json.int n).render =
    if 0 ≤ n then digitBytes n.toNat else 0x2D :: digitBytes (-n).toNat := by
  rw [render, Int.toString_eq_repr, Int.repr_eq_if]
  split_ifs
  · exact encode_repr _
  · have hminus : Utf8.encode "-" = [0x2D] := by decide
    rw [encode_append, hminus, encode_repr]
    rfl

/-- A whole part alone is a number. -/
theorem unsigned_of_wholePart {digits : Bytes} (h : WholePart digits) : Unsigned digits := by
  have hunsigned := Unsigned.intro digits [] [] h .none .none
  rwa [List.append_nil, List.append_nil] at hunsigned

/-- A whole number that is written is a value. -/
theorem text_int (n : Int) : Text .value (Utf8.encode (Json.int n).render) := by
  rw [encode_int]
  split_ifs
  · exact .scalar _ (.number _ (unsigned_of_wholePart (wholePart_digitBytes _)))
  · exact .scalar _ (.negative _ (unsigned_of_wholePart (wholePart_digitBytes _)))

/-- The digits of a whole number are scanned up to what may come behind it. -/
theorem scanNumber_whole {digits rest : Bytes} (h : WholePart digits) (hrest : Ends rest) :
    scanNumber (digits ++ rest) = .ok (⟨digits, none, none⟩, rest) := by
  have hfraction : scanFraction rest = .ok (none, rest) := by
    have hpoint : NotBefore (· == 0x2E) rest := hrest.notBefore rfl
    rw [scanFraction.eq_def]
    split
    · exact absurd (hpoint 0x2E rfl) (by decide)
    · rfl
  have hexponent : scanExponent rest = .ok (none, rest) := by
    have hmark : NotBefore (fun b => b == 0x65 || b == 0x45) rest := hrest.notBefore rfl
    rw [scanExponent.eq_def]
    split
    · exact absurd (hmark 0x65 rfl) (by decide)
    · exact absurd (hmark 0x45 rfl) (by decide)
    · rfl
  rw [scanNumber, scanWhole_whole h (hrest.notBefore rfl)]
  change (scanFraction rest >>= _) = _
  rw [hfraction]
  change (scanExponent rest >>= _) = _
  rw [hexponent]
  rfl

/-- Further digits do not make a number smaller. -/
theorem le_foldl_digits (digits : Bytes) (n : Nat) :
    n ≤ digits.foldl (fun n d => 10 * n + digitValue d) n := by
  induction digits generalizing n with
  | nil => exact Nat.le_refl n
  | cons d digits ih => exact Nat.le_trans (show n ≤ 10 * n + digitValue d by omega) (ih _)

/-- Digits are all taken if their number is no larger than a word. -/
theorem takeDigits_of_le {digits : Bytes} {value : Nat}
    (h : digits.foldl (fun n d => 10 * n + digitValue d) value ≤ maxWord) :
    takeDigits value digits = (digits.foldl (fun n d => 10 * n + digitValue d) value, 0) := by
  induction digits generalizing value with
  | nil => rfl
  | cons d digits ih =>
      have hnext : ¬maxWord < 10 * value + digitValue d :=
        Nat.not_lt_of_le (Nat.le_trans (le_foldl_digits digits _) h)
      rw [takeDigits, if_neg hnext]
      exact ih h

/-- A whole number means that of its digits, with its sign. -/
theorem value_whole {digits : Bytes} {negative : Bool} (hlarge : decimal digits ≤ 2 ^ 63)
    (hzero : negative = true → decimal digits ≠ 0) :
    (NumberText.mk digits none none).value negative = .ok (.int (signed negative (decimal digits))) := by
  have htake : takeDigits 0 digits = (decimal digits, 0) :=
    takeDigits_of_le (Nat.le_trans hlarge (by decide))
  unfold NumberText.value
  rw [htake]
  dsimp only
  rw [if_pos rfl]
  unfold wholeOf signed
  cases negative with
  | false => rfl
  | true =>
      have hnot : ¬(decimal digits = 0 ∨ 2 ^ 63 < decimal digits) := by
        rintro (h | h)
        · exact hzero rfl h
        · omega
      rw [if_neg (by decide), if_neg hnot, if_pos rfl]

/-- The digits of a whole number mean it. -/
theorem value_digitBytes {m : Nat} {negative : Bool} {n : Int} (hsame : signed negative m = n)
    (hlarge : m ≤ 2 ^ 63) (hzero : negative = true → m ≠ 0) :
    (NumberText.mk (digitBytes m) none none).value negative = .ok (.int n) := by
  have hdecimal := decimal_digitBytes m
  rw [value_whole (by rw [hdecimal]; exact hlarge) (by rw [hdecimal]; exact hzero), hdecimal, hsame]

/-- A whole number that is written is read, if it fits. -/
theorem readWhole_int {width : Width} {n : Int} (hfits : width.fits n = true) {rest : Bytes}
    (hrest : Ends rest) :
    readWhole width (Utf8.encode (Json.int n).render ++ rest) = .ok (n, rest) := by
  have hrange : -(2 ^ 63) ≤ n ∧ n < 2 ^ 63 := by
    unfold Width.fits at hfits
    simp only [Bool.and_eq_true, decide_eq_true_eq] at hfits
    cases width <;> simp only [Width.bits] at hfits <;> omega
  have hwhole : wholeOfNumber width (.int n) = .ok n := by
    rw [wholeOfNumber, if_pos hfits]
  rw [encode_int]
  split_ifs with hsign
  · have hsame : signed false n.toNat = n := Int.toNat_of_nonneg hsign
    obtain ⟨d, ds, hds⟩ := List.exists_cons_of_ne_nil (wholePart_digitBytes n.toNat).1.1
    have hd : isDigit d = true := (wholePart_digitBytes n.toNat).1.2 d (by rw [hds]; exact List.mem_cons_self)
    rw [hds, List.cons_append, readWhole,
      skipBlank_cons (not_isBlank_of_notMem (notMem_terminators_of_isDigit hd))]
    dsimp only
    rw [if_neg (ne_of_isDigit hd rfl), if_pos hd, ← List.cons_append, ← hds,
      scanNumber_whole (wholePart_digitBytes _) hrest]
    change (NumberText.value _ false >>= _) = _
    rw [value_digitBytes hsame (by omega) nofun]
    change (wholeOfNumber width (.int n) >>= _) = _
    rw [hwhole]
    rfl
  · have hsame : signed true (-n).toNat = n := by
      rw [signed, if_pos rfl]
      omega
    rw [List.cons_append, readWhole, skipBlank_cons (by decide)]
    dsimp only
    rw [if_pos rfl, scanNumber_whole (wholePart_digitBytes _) hrest]
    change (NumberText.value _ true >>= _) = _
    rw [value_digitBytes hsame (by omega) fun _ => by omega]
    change (wholeOfNumber width (.int n) >>= _) = _
    rw [hwhole]
    rfl

/-! ## Objects -/

/-- The text of a member. -/
def Member.written (member : Member) : Bytes := Utf8.encode (quote member.1) ++ 0x3A :: member.2

/-- What stands in an object that is written, up to its end and with it. -/
def membersWritten : Bool → List Member → Bytes
  | _, [] => [0x7D]
  | true, member :: members => member.written ++ membersWritten false members
  | false, member :: members => 0x2C :: (member.written ++ membersWritten false members)

/-- The members of an object that is written. -/
def membersOf (fields : List (String × Json)) : List Member :=
  fields.map fun field => (field.1, Utf8.encode field.2.render)

/-- The fields of an object are written as its members. -/
theorem encode_fields (fields : List (String × Json)) :
    Utf8.encode (renderFields fields) ++ [0x7D] = membersWritten true (membersOf fields) := by
  have hcolon : Utf8.encode ":" = [0x3A] := by decide
  have hcomma : Utf8.encode "," = [0x2C] := by decide
  induction fields with
  | nil => rfl
  | cons field fields ih =>
      obtain ⟨name, value⟩ := field
      cases fields with
      | nil =>
          rw [renderFields, encode_append, encode_append, hcolon]
          simp [membersOf, membersWritten, Member.written]
      | cons field fields =>
          rw [renderFields.eq_def]
          dsimp only
          rw [encode_append, encode_append, encode_append, encode_append, hcolon, hcomma, List.append_assoc, ih]
          simp [membersOf, membersWritten, Member.written]

/-- An object is written as a brace and its members. -/
theorem encode_object (fields : List (String × Json)) :
    Utf8.encode (Json.object fields).render = 0x7B :: membersWritten true (membersOf fields) := by
  have hopening : Utf8.encode "\x7b" = [0x7B] := by decide
  have hclosing : Utf8.encode "\x7d" = [0x7D] := by decide
  rw [render, encode_append, encode_append, hopening, hclosing, List.append_assoc, encode_fields]
  rfl

/-- A field reads a value, whatever may come behind it. -/
def Field.Reads (field : Field) (value : Bytes) (v : field.Value) : Prop :=
  ∀ rest, Ends rest → field.read (value ++ rest) = .ok (v, rest)

/-- Each field of a row reads the member of its name, and holds what its absence means if there is none. -/
def Row.Reads (members : List Member) : (fields : List Field) → Row fields → Prop
  | [], _ => True
  | field :: fields, (v, row) =>
    ((∀ member ∈ members, member.1 = field.name → field.Reads member.2 v) ∧
      (field.name ∉ members.map Prod.fst → field.absent = .ok v)) ∧ Reads members fields row

/-- A row of which the fields with some names have been read. -/
def PartialRow.seen (names : List String) : (fields : List Field) → Row fields → PartialRow fields
  | [], _ => ()
  | field :: fields, (v, row) => (if field.name ∈ names then some v else Option.none, seen names fields row)

namespace PartialRow

variable {members : List Member} {fields : List Field} {row : Row fields} {names : List String}
  {name : String} {value rest : Bytes}

/-- Of a row from which no name has been read nothing has been seen. -/
theorem seen_nil (fields : List Field) (row : Row fields) : seen [] fields row = none fields := by
  induction fields with
  | nil => rfl
  | cons field fields ih => exact congrArg (Prod.mk Option.none) (ih row.2)

/-- A name that no field has shows nothing of a row. -/
theorem seen_append_of_notMem (h : name ∉ fields.map Field.name) :
    seen (names ++ [name]) fields row = seen names fields row := by
  induction fields with
  | nil => rfl
  | cons field fields ih =>
      rw [List.map_cons, List.mem_cons, not_or] at h
      have hsame : field.name ∈ names ++ [name] ↔ field.name ∈ names := by
        rw [List.mem_append, List.mem_singleton]
        exact or_iff_left (Ne.symm h.1)
      unfold seen
      simp only [hsame, ih h.2]

/-- A member is put into its field, or passed over. -/
theorem put_seen (hnames : (fields.map Field.name).Nodup) (hmember : (name, value) ∈ members)
    (hreads : Row.Reads members fields row) (hnew : name ∉ names) (hvalue : Text .value value)
    (hrest : Ends rest) :
    put name fields (seen names fields row) (0x3A :: (value ++ rest)) =
      .ok (seen (names ++ [name]) fields row, rest) := by
  have hcolon : skipColon (0x3A :: (value ++ rest)) = .ok (value ++ rest) :=
    skipColon_colon blanks_nil (value ++ rest)
  -- over the fields: one that has been seen already is not asked for again, and the new name fills
  -- one field at most
  induction fields with
  | nil =>
      have hskip : skipValue (value ++ rest) = .ok rest := skipValue_text blanks_nil hvalue hrest
      rw [put, hcolon]
      change (skipValue (value ++ rest) >>= _) = _
      rw [hskip]
      rfl
  | cons field fields ih =>
      obtain ⟨hother, hnames'⟩ := List.nodup_cons.mp hnames
      obtain ⟨⟨hread, -⟩, hreads'⟩ := hreads
      obtain ⟨v, row⟩ := row
      unfold seen put
      by_cases hname : field.name = name
      · subst hname
        have hsame : seen (names ++ [field.name]) fields row = seen names fields row :=
          seen_append_of_notMem hother
        rw [if_pos rfl, if_neg hnew, if_pos (List.mem_append_right _ (List.mem_singleton.mpr rfl)), hsame]
        change (skipColon (0x3A :: (value ++ rest)) >>= _) = _
        rw [hcolon]
        change (field.read (value ++ rest) >>= _) = _
        rw [hread _ hmember rfl rest hrest]
        rfl
      · have hsame : field.name ∈ names ++ [name] ↔ field.name ∈ names := by
          rw [List.mem_append, List.mem_singleton]
          exact or_iff_left hname
        rw [if_neg hname]
        simp only [hsame]
        rw [ih hnames' hreads']
        rfl

/-- A row of which all members have been read is complete. -/
theorem complete_seen (hreads : Row.Reads members fields row) :
    complete fields (seen (members.map Prod.fst) fields row) = .ok row := by
  induction fields with
  | nil => rfl
  | cons field fields ih =>
      obtain ⟨v, row⟩ := row
      obtain ⟨⟨-, habsent⟩, hreads'⟩ := hreads
      unfold complete seen
      by_cases hname : field.name ∈ members.map Prod.fst
      · rw [if_pos hname]
        change (complete fields _ >>= _) = _
        rw [ih hreads']
        rfl
      · rw [if_neg hname]
        change (field.absent >>= _) = _
        rw [habsent hname]
        change (complete fields _ >>= _) = _
        rw [ih hreads']
        rfl

end PartialRow

/-- A reader that finds a key puts the value behind it into the row and goes on. -/
theorem readMembers_of_key {fields : List Field} {row row' : PartialRow fields} {first : Bool}
    {bytes tail tail' : Bytes} {name : String} (hkey : nextKey first bytes = .ok (.key name tail))
    (hput : PartialRow.put name fields row tail = .ok (row', tail')) :
    readMembers fields row first bytes = readMembers fields row' false tail' := by
  rw [readMembers]
  split
  · rename_i fault heq
    rw [hkey] at heq
    cases heq
  · rename_i rest heq
    rw [hkey] at heq
    cases heq
  · rename_i name' rest heq
    rw [hkey] at heq
    cases heq
    split
    · rename_i fault heq'
      rw [hput] at heq'
      cases heq'
    · rename_i row₁ tail₁ heq'
      rw [hput] at heq'
      cases heq'
      rfl

/-- The key of a member that is written is found. -/
theorem nextKey_written (first : Bool) (name : String) (value rest : Bytes) (members : List Member) :
    nextKey first (membersWritten first ((name, value) :: members) ++ rest) =
      .ok (.key name (0x3A :: (value ++ (membersWritten false members ++ rest)))) := by
  have hwritten : Member.written (name, value) = 0x22 :: (spelling name ++ 0x22 :: 0x3A :: value) := by
    rw [Member.written, encode_quote]
    simp
  cases first with
  | true =>
      rw [membersWritten, hwritten]
      simpa using nextKey_first blanks_nil (spells_spelling name)
        (0x3A :: (value ++ (membersWritten false members ++ rest)))
  | false =>
      rw [membersWritten, hwritten]
      simpa using nextKey_next blanks_nil blanks_nil (spells_spelling name)
        (0x3A :: (value ++ (membersWritten false members ++ rest)))

/-- Behind a value in an object comes a comma or a brace. -/
theorem ends_membersWritten (members : List Member) (rest : Bytes) :
    Ends (membersWritten false members ++ rest) := by
  cases members with
  | nil =>
      rintro b ⟨⟩
      decide
  | cons member members =>
      rintro b ⟨⟩
      decide

/-- The members of an object that is written are read one after the other. The induction is on those that
are left; the row has the values of those that have been read. -/
theorem readMembers_written {fields : List Field} (hnames : (fields.map Field.name).Nodup)
    {members : List Member} {row : Row fields} (hreads : Row.Reads members fields row)
    (hvalues : ∀ member ∈ members, Text .value member.2) (hmembers : (members.map Prod.fst).Nodup)
    (done left : List Member) (hsplit : members = done ++ left) (first : Bool) (rest : Bytes) :
    readMembers fields (PartialRow.seen (done.map Prod.fst) fields row) first
      (membersWritten first left ++ rest) =
        .ok (PartialRow.seen (members.map Prod.fst) fields row, rest) := by
  induction left generalizing done first with
  | nil =>
      rw [List.append_nil] at hsplit
      have hclosing : membersWritten first [] = [0x7D] := by cases first <;> rfl
      have hdone : nextKey first (0x7D :: rest) = .ok (.done rest) := nextKey_done blanks_nil first rest
      rw [hclosing, ← hsplit]
      exact readMembers_of_done hdone
  | cons member left ih =>
      obtain ⟨name, value⟩ := member
      have hmem : (name, value) ∈ members := hsplit ▸ List.mem_append_right _ List.mem_cons_self
      have hnew : name ∉ done.map Prod.fst := by
        rw [hsplit, List.map_append, List.nodup_append] at hmembers
        exact fun hold => hmembers.2.2 name hold name List.mem_cons_self rfl
      have hput := PartialRow.put_seen hnames hmem hreads hnew (hvalues _ hmem)
        (ends_membersWritten left rest)
      rw [readMembers_of_key (nextKey_written first name value rest left) hput]
      have hdone : done.map Prod.fst ++ [name] = (done ++ [(name, value)]).map Prod.fst := by simp
      rw [hdone]
      exact ih (done ++ [(name, value)]) (by rw [hsplit]; simp) false

/-- **An object that is written is read**: each field gets the member of its name, and members without a
field are passed over. -/
theorem Shape.read_object_render {shape : Shape} (hnames : (shape.fields.map Field.name).Nodup)
    {fields : List (String × Json)} {row : Row shape.fields}
    (hreads : Row.Reads (membersOf fields) shape.fields row)
    (hvalues : ∀ field ∈ fields, Text .value (Utf8.encode field.2.render))
    (hmembers : (fields.map Prod.fst).Nodup) :
    shape.read (Utf8.encode (Json.object fields).render) = .ok row := by
  have hmembers' : ((membersOf fields).map Prod.fst).Nodup := by
    unfold membersOf
    rw [List.map_map]
    exact hmembers
  have hvalues' : ∀ member ∈ membersOf fields, Text .value member.2 := by
    intro member hmember
    obtain ⟨field, hfield, rfl⟩ := List.mem_map.mp hmember
    exact hvalues field hfield
  have hread := readMembers_written hnames hreads hvalues' hmembers' [] (membersOf fields) rfl true []
  rw [List.map_nil, PartialRow.seen_nil, List.append_nil] at hread
  have hvalue : shape.readValue (Utf8.encode (Json.object fields).render) = .ok (row, []) := by
    rw [encode_object, Shape.readValue, skipBlank_cons (by decide)]
    dsimp only
    rw [if_pos rfl, hread]
    change (PartialRow.complete shape.fields _ >>= _) = _
    rw [PartialRow.complete_seen hreads]
    rfl
  unfold Shape.read
  rw [hvalue]
  rfl

/-- A value that is kept as it is written. -/
theorem readRaw_text {value rest : Bytes} (hvalue : Text .value value) (hrest : Ends rest) :
    readRaw (value ++ rest) = .ok (value, rest) := by
  have hskip : skipValue (value ++ rest) = .ok rest := skipValue_text blanks_nil hvalue hrest
  have hlength : (value ++ rest).length - rest.length = value.length := by simp
  rw [readRaw, hskip]
  change Except.ok ((value ++ rest).take ((value ++ rest).length - rest.length), rest) = _
  rw [hlength, List.take_left]

end Fostering.Json
