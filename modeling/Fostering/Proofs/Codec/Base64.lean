import Mathlib.Data.List.Basic
import Fostering.Codec.Base64

/-!
# Reading back what was written in base 64

Between bytes and characters stand numbers below sixty-four (`sextets`). Writing puts a character for
each of them, and both alphabets tell all sixty-four apart (`Alphabet.IsReadable`); so the numbers are
read back, and four of them make three bytes again.

* `decode?_encode`: bytes that are written are read back.
* `length_encodeChars`: how many characters they take.
-/

namespace Fostering.Base64

/-- An alphabet whose characters can be told apart. -/
def Alphabet.IsReadable (a : Alphabet) : Prop := ∀ n < 64, a.value? (a.char n) = some n

/-- The digits of the standard alphabet are told apart. -/
theorem Alphabet.isReadable_standard : Alphabet.standard.IsReadable := by
  unfold IsReadable
  decide

theorem Alphabet.isReadable_url : Alphabet.url.IsReadable := by
  unfold IsReadable
  decide

/-- The numbers below sixty-four that bytes are written with. -/
def sextets : Bytes → List Nat
  | x :: y :: z :: rest =>
    let n := 65536 * x.toNat + 256 * y.toNat + z.toNat
    n / 262144 :: n / 4096 % 64 :: n / 64 % 64 :: n % 64 :: sextets rest
  | [x, y] =>
    let n := 1024 * x.toNat + 4 * y.toNat
    [n / 4096, n / 64 % 64, n % 64]
  | [x] => [x.toNat / 4, 16 * (x.toNat % 4)]
  | [] => []

/-- Each number is written as a character. -/
theorem encodeChars_eq (a : Alphabet) (bytes : Bytes) : encodeChars a bytes = (sextets bytes).map a.char := by
  fun_induction sextets bytes with
  | case1 x y z rest n ih =>
      rw [encodeChars, ih]
      rfl
  | case2 | case3 | case4 => rfl

/-- Six bits make a digit. -/
theorem sextets_lt (bytes : Bytes) : ∀ n ∈ sextets bytes, n < 64 := by
  fun_induction sextets bytes with
  | case1 x y z rest n ih =>
      have hx := x.toNat_lt
      have hy := y.toNat_lt
      have hz := z.toNat_lt
      simp only [List.forall_mem_cons]
      refine ⟨?_, ?_, ?_, ?_, ih⟩ <;> omega
  | case2 x y n =>
      have hx := x.toNat_lt
      have hy := y.toNat_lt
      simp only [List.forall_mem_cons]
      refine ⟨?_, ?_, ?_, List.forall_mem_nil _⟩ <;> omega
  | case3 x =>
      have hx := x.toNat_lt
      simp only [List.forall_mem_cons]
      refine ⟨?_, ?_, List.forall_mem_nil _⟩ <;> omega
  | case4 => exact List.forall_mem_nil _

/-- The characters that bytes are written with. -/
theorem exists_of_mem_encodeChars {a : Alphabet} {bytes : Bytes} {c : Char}
    (h : c ∈ encodeChars a bytes) : ∃ n < 64, c = a.char n := by
  rw [encodeChars_eq] at h
  obtain ⟨n, hn, rfl⟩ := List.mem_map.mp h
  exact ⟨n, sextets_lt bytes n hn, rfl⟩

/-- Three bytes take four characters, and a rest as many as it needs. -/
theorem length_encodeChars (a : Alphabet) (bytes : Bytes) :
    (encodeChars a bytes).length = (4 * bytes.length + 2) / 3 := by
  rw [encodeChars_eq, List.length_map]
  fun_induction sextets bytes with
  | case1 x y z rest n ih =>
      simp only [List.length_cons, ih]
      omega
  | case2 | case3 | case4 => simp

/-- Numbers that are written as characters are read back. -/
theorem valuesOf?_map {a : Alphabet} (ha : a.IsReadable) {ns : List Nat} (hns : ∀ n ∈ ns, n < 64) :
    valuesOf? a (ns.map a.char) = some ns := by
  induction ns with
  | nil => rfl
  | cons n ns ih =>
      rw [List.forall_mem_cons] at hns
      rw [List.map_cons, valuesOf?, ha n hns.1, ih hns.2]
      rfl

/-- Four numbers below sixty-four make three bytes again. -/
theorem joinValues_sextets (bytes : Bytes) : joinValues (sextets bytes) = some bytes := by
  have hbyte {n : Nat} {b : UInt8} (h : n = b.toNat) : UInt8.ofNat n = b := by
    rw [h, UInt8.ofNat_toNat]
  fun_induction sextets bytes with
  | case1 x y z rest n ih =>
      have hx := x.toNat_lt
      have hy := y.toNat_lt
      have hz := z.toNat_lt
      have hsum : 262144 * (n / 262144) + 4096 * (n / 4096 % 64) + 64 * (n / 64 % 64) + n % 64 = n := by
        omega
      rw [joinValues, ih, hsum, hbyte (b := x) (by omega), hbyte (b := y) (by omega),
        hbyte (b := z) (by omega)]
      rfl
  | case2 x y n =>
      have hx := x.toNat_lt
      have hy := y.toNat_lt
      have hsum : 4096 * (n / 4096) + 64 * (n / 64 % 64) + n % 64 = n := by omega
      have hend : n % 64 % 4 = 0 := by omega
      rw [joinValues, if_pos hend, hsum]
      change some [UInt8.ofNat (n / 1024), UInt8.ofNat (n / 4 % 256)] = some [x, y]
      rw [hbyte (b := x) (by omega), hbyte (b := y) (by omega)]
  | case3 x =>
      have hx := x.toNat_lt
      have hend : 16 * (x.toNat % 4) % 16 = 0 := by omega
      rw [joinValues, if_pos hend, hbyte (b := x) (by omega)]
  | case4 => rfl

/-- **Bytes that are written are read back.** -/
theorem decode?_encode {a : Alphabet} (ha : a.IsReadable) (bytes : Bytes) :
    decode? a (encode a bytes) = some bytes := by
  unfold decode? encode
  rw [String.toList_ofList, encodeChars_eq, valuesOf?_map ha (sextets_lt bytes)]
  exact joinValues_sextets bytes

end Fostering.Base64
