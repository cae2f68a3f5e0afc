import Mathlib.Data.List.Basic
import Fostering.Password
import Fostering.Proofs.Codec.Base64

/-!
# Passwords that were stored by the service

The text that `Password.hash` makes of a password and a salt of the service is one that
`Password.verify` can take apart, field by field: none of the refusals of `verify` is for it. What is
left is whether two digests agree.

* `length_digest`: a digest has the length that was asked for.
* `parse_written`: the fields of a text are the ones that it was written with.
* `verify_hash`: a password is held against a text that the service made.
-/

namespace Fostering

/-! ## Splitting a text -/

namespace Text

variable {mark : Char} {piece : List Char}

/-- Up to its first mark a text is one piece. -/
theorem splitOnChar_append (h : mark ∉ piece) (rest : List Char) :
    splitOnChar mark (piece ++ mark :: rest) = piece :: splitOnChar mark rest := by
  induction piece with
  | nil => simp [splitOnChar]
  | cons c piece ih =>
      rw [List.mem_cons, not_or] at h
      rw [List.cons_append, splitOnChar, if_neg (Ne.symm h.1), ih h.2]

/-- A text without the mark is one piece. -/
theorem splitOnChar_of_not_mem (h : mark ∉ piece) : splitOnChar mark piece = [piece] := by
  induction piece with
  | nil => rfl
  | cons c piece ih =>
      rw [List.mem_cons, not_or] at h
      rw [splitOnChar, if_neg (Ne.symm h.1), ih h.2]

end Text

/-! ## Lengths of digests -/

namespace Blake2b

/-- A compression leaves a state of eight words. -/
theorem length_compress {state : List UInt64} (h : state.length = 8) (words : List UInt64) (taken : Nat)
    (last : Bool) : (compress state words taken last).length = 8 := by
  unfold compress
  simp [WordRow.toList, h]

theorem length_absorb {state : List UInt64} (h : state.length = 8) (taken : Nat) (blocks : List Bytes) :
    (absorb state taken blocks).length = 8 := by
  fun_induction absorb state taken blocks with
  | case1 => exact h
  | case2 => exact length_compress h _ _ _
  | case3 state taken block blocks _ ih => exact ih (length_compress h _ _ _)

/-- A word is eight bytes. -/
theorem length_bytesOf (words : List UInt64) : (bytesOf words).length = 8 * words.length := by
  unfold bytesOf
  induction words with
  | nil => rfl
  | cons w words ih =>
      rw [List.flatMap_cons, List.length_append, Bytes.length_ofNatLow, ih, List.length_cons]
      omega

/-- A digest has the length that was asked for. -/
theorem length_digest {length : Nat} (h : length ≤ 64) (message : Bytes) :
    (digest length message).length = length := by
  unfold digest
  rw [List.length_take, length_bytesOf, length_absorb rfl]
  omega

end Blake2b

namespace Argon2

/-- A digest has the length that was asked for, as long as it is made in one part. -/
theorem length_digest {length : Nat} (h : length ≤ 64) (p : Params) (password salt : Bytes) :
    (digest p password salt length).length = length := by
  unfold digest longDigest
  rw [if_pos h]
  exact Blake2b.length_digest h _

end Argon2

/-! ## Texts with digests -/

namespace Password

open Base64 (encodeChars)

variable {salt output : Bytes}

/-- What the characters of the common alphabet are: one byte each, and no mark of a text. -/
theorem ofAlphabet : ∀ n < 64, isValueChar (Base64.Alphabet.standard.char n) = true ∧
    (Base64.Alphabet.standard.char n).utf8Size = 1 ∧ Base64.Alphabet.standard.char n ≠ '$' := by
  decide

/-- A salt is written in characters that values may have. -/
theorem isValueChar_of_mem {c : Char} (h : c ∈ encodeChars .standard salt) : isValueChar c = true := by
  obtain ⟨n, hn, rfl⟩ := Base64.exists_of_mem_encodeChars h
  exact (ofAlphabet n hn).1

/-- The mark between the parts of a digest is no digit. -/
theorem not_mem_encodeChars (bytes : Bytes) : '$' ∉ encodeChars .standard bytes := by
  intro h
  obtain ⟨n, hn, heq⟩ := Base64.exists_of_mem_encodeChars h
  exact (ofAlphabet n hn).2.2 heq.symm

/-- Every character takes one byte. -/
theorem byteLength_encodeChars (bytes : Bytes) :
    byteLength (encodeChars .standard bytes) = (4 * bytes.length + 2) / 3 := by
  have hsize : ∀ cs : List Char, (∀ c ∈ cs, c.utf8Size = 1) → byteLength cs = cs.length := by
    intro cs
    unfold byteLength
    induction cs with
    | nil => exact fun _ => rfl
    | cons c cs ih =>
        intro h
        rw [List.forall_mem_cons] at h
        rw [String.ofList_cons, String.utf8ByteSize_append, String.utf8ByteSize_singleton, h.1, ih h.2,
          List.length_cons, Nat.add_comm]
  rw [hsize, Base64.length_encodeChars]
  intro c hc
  obtain ⟨n, hn, rfl⟩ := Base64.exists_of_mem_encodeChars hc
  exact (ofAlphabet n hn).2.1

/-- Bytes that are not too many are read as they were written. -/
theorem readBytes_encodeChars {limit : Nat} {bytes : Bytes} (h : bytes.length ≤ limit) :
    readBytes limit (encodeChars .standard bytes) = .ok bytes := by
  have hshort : ¬limit < Base64.decodedLength (byteLength (encodeChars .standard bytes)) := by
    rw [byteLength_encodeChars]
    unfold Base64.decodedLength
    omega
  have hdecode : Base64.decode? .standard (String.ofList (encodeChars .standard bytes)) = some bytes :=
    Base64.decode?_encode Base64.Alphabet.isReadable_standard bytes
  unfold readBytes
  rw [if_neg hshort, hdecode]

/-- A salt of a length that the rules allow is taken. -/
theorem checkSalt_encodeChars (h : 3 ≤ salt.length ∧ salt.length ≤ 48) :
    checkSalt (encodeChars .standard salt) = .ok () := by
  have hnone : (encodeChars .standard salt).find? (fun c => !isValueChar c) = none := by
    rw [List.find?_eq_none]
    intro c hc
    rw [isValueChar_of_mem hc]
    exact Bool.false_ne_true
  unfold checkSalt
  rw [byteLength_encodeChars, if_neg (by omega), if_neg (by omega), hnone]

theorem readOutput_encodeChars (h : 10 ≤ output.length ∧ output.length ≤ 64) :
    readOutput (encodeChars .standard output) = .ok output := by
  unfold readOutput
  rw [readBytes_encodeChars h.2]
  exact if_neg (Nat.not_lt_of_le h.1)

/-- The parameters in the texts that the service makes. -/
def standardParams : List (String × List Char) := [("m", "19456".toList), ("t", ['2']), ("p", ['1'])]

/-- The start of a text is four fields. -/
theorem splitOnChar_standardStart (rest : List Char) :
    Text.splitOnChar '$' (standardStart.toList ++ rest) =
      [] :: "argon2id".toList :: "v=19".toList :: "m=19456,t=2,p=1".toList ::
        Text.splitOnChar '$' rest := rfl

/-- **The fields of a text are the ones that it was written with.** -/
theorem parse_written (hsalt : 3 ≤ salt.length ∧ salt.length ≤ 48)
    (houtput : 10 ≤ output.length ∧ output.length ≤ 64) :
    parse (standardStart ++ Base64.encode .standard salt ++ "$" ++ Base64.encode .standard output) =
      .ok ⟨"argon2id", some 19, standardParams, some (encodeChars .standard salt), some output⟩ := by
  have hend : Text.splitOnChar '$' (encodeChars .standard salt ++ '$' :: encodeChars .standard output) =
      [encodeChars .standard salt, encodeChars .standard output] := by
    rw [Text.splitOnChar_append (not_mem_encodeChars salt),
      Text.splitOnChar_of_not_mem (not_mem_encodeChars output)]
  have hchars :
      (standardStart ++ Base64.encode .standard salt ++ "$" ++ Base64.encode .standard output).toList =
        standardStart.toList ++ (encodeChars .standard salt ++ '$' :: encodeChars .standard output) := by
    unfold Base64.encode
    simp only [String.toList_append, String.toList_ofList, List.append_assoc]
    rfl
  have hread : readEnd [encodeChars .standard salt, encodeChars .standard output] =
      .ok (some (encodeChars .standard salt), some output) := by
    rw [readEnd, checkSalt_encodeChars hsalt]
    change (readOutput (encodeChars .standard output) >>= _) = _
    rw [readOutput_encodeChars houtput]
    rfl
  have hversion (fields : List (List Char)) :
      readVersion ("v=19".toList :: fields) = .ok (some 19, fields) := rfl
  have hparams (fields : List (List Char)) :
      readParamField ("m=19456,t=2,p=1".toList :: fields) = .ok (standardParams, fields) := rfl
  have hname : checkName "argon2id".toList = .ok () := rfl
  unfold parse
  rw [hchars, splitOnChar_standardStart, hend]
  simp only [hname, hversion, hparams, hread, bind, Except.bind]
  rfl

/-- **A password is held against a text that the service made: nothing but the digests decides.** -/
theorem verify_hash (hsalt : salt.length = saltLength) (password stored : String) :
    verify password (hash salt stored) =
      .ok (Argon2.digest {} (Utf8.encode password) salt outputLength ==
        Argon2.digest {} (Utf8.encode stored) salt outputLength) := by
  let output : Bytes := Argon2.digest {} (Utf8.encode stored) salt outputLength
  have houtput : output.length = outputLength := Argon2.length_digest (by decide) _ _ _
  have hparse : parse (hash salt stored) =
      .ok ⟨"argon2id", some 19, standardParams, some (encodeChars .standard salt), some output⟩ := by
    refine parse_written ?_ ?_
    · rw [hsalt]
      decide
    · rw [houtput]
      decide
  have hparams : standardParams.foldlM applyParam ({} : Argon2.Params) = .ok {} := rfl
  have hcheck : checkParams {} = .ok () := rfl
  have hbytes : readBytes 64 (encodeChars .standard salt) = .ok salt := by
    refine readBytes_encodeChars ?_
    rw [hsalt]
    decide
  have hlong : ¬salt.length < 8 := by
    rw [hsalt]
    decide
  have hvariant : variantOf "argon2id" = .ok .id := rfl
  have hversion : versionOf (some 19) = .ok 19 := rfl
  unfold verify
  simp only [hparse, hparams, hcheck, hvariant, hversion, hbytes, bind, Except.bind, if_neg hlong]
  rw [houtput]

end Password

end Fostering
