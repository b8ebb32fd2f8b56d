import CHeaders.Text.Encoding
import Mathlib.Tactic.IntervalCases

/-!
# Digits and bytes that are found again

A number that is written to a fixed number of places is found again from its digits. As there are
two digits for each byte, bytes are found again from their digits as well. A text that has bytes is
found again from them: it is made of characters, and no two lists of characters have the same bytes.

## Main results

* `CHeaders.Text.Hex.value?_digit`: the value of a digit.
* `CHeaders.Text.Hex.number?_padded`: the number that padded digits stand for.
* `CHeaders.Text.Hex.padded_inj`, `CHeaders.Text.Hex.ofBytes_inj`: numbers and bytes have digits of
  their own.
* `CHeaders.Text.Utf8.encode_inj`: texts with the same bytes are the same.
* `CHeaders.Text.Utf8.eq_of_encode`: the bytes of a text that has bytes are those of its letters.
-/

namespace CHeaders.Text

/-! ## Hexadecimal digits -/

namespace Hex

/-- The value of the digit for a number is its last digit. -/
theorem value?_digit (letters : Letters) (n : Nat) : value? (digit letters n) = some (n % 16) := by
  have hmod : n % 16 < 16 := Nat.mod_lt n (by decide)
  simp only [digit]
  generalize n % 16 = d at hmod
  cases letters <;> interval_cases d <;> rfl

/-- The number of places is the number of digits. -/
theorem length_padded (letters : Letters) (places n : Nat) :
    (padded letters places n).length = places := by
  induction places generalizing n with
  | zero => rfl
  | succ places ih => rw [padded, List.length_append, ih, List.length_singleton]

/-- Padded digits stand for the number, as far as there are places for it. -/
theorem number?_padded (letters : Letters) (places n : Nat) :
    number? (padded letters places n) = some (n % 16 ^ places) := by
  induction places generalizing n with
  | zero => simp [padded, number?, Nat.mod_one]
  | succ places ih =>
    have hsplit : n % 16 ^ (places + 1) = n / 16 % 16 ^ places * 16 + n % 16 := by
      rw [Nat.pow_succ', Nat.mod_mul]
      omega
    have hinit := ih (n / 16)
    rw [number?] at hinit ⊢
    simp only [padded, List.foldl_append, hinit, List.foldl_cons, List.foldl_nil, value?_digit,
      hsplit]
    rfl

/-- A number to four places is written by four digits. -/
theorem padded_four (letters : Letters) (n : Nat) :
    padded letters 4 n = [digit letters (n / 16 / 16 / 16), digit letters (n / 16 / 16),
      digit letters (n / 16), digit letters n] := rfl

/-- Different numbers have different digits, if there are places enough. -/
theorem padded_inj {places n m : Nat} (hn : n < 16 ^ places) (hm : m < 16 ^ places)
    (h : padded .small places n = padded .small places m) : n = m := by
  have hnumbers := congrArg number? h
  rw [number?_padded, number?_padded, Nat.mod_eq_of_lt hn, Nat.mod_eq_of_lt hm] at hnumbers
  exact Option.some.inj hnumbers

/-- Bytes are found again from their digits. -/
theorem ofBytes_inj {bytes bytes' : List UInt8} (h : ofBytes bytes = ofBytes bytes') :
    bytes = bytes' := by
  induction bytes generalizing bytes' with
  | nil =>
    cases bytes' with
    | nil => rfl
    | cons b' rest' => simp [ofBytes, padded] at h
  | cons b rest ih =>
    cases bytes' with
    | nil => simp [ofBytes, padded] at h
    | cons b' rest' =>
      rw [ofBytes, ofBytes, List.flatMap_cons, List.flatMap_cons] at h
      obtain ⟨hb, hrest⟩ := List.append_inj h (by rw [length_padded, length_padded])
      rw [UInt8.toNat_inj.mp (padded_inj b.toNat_lt b'.toNat_lt hb), ih hrest]

/-- Padded digits are digits. -/
theorem mem_padded {places n : Nat} {c : Char} (h : c ∈ padded .small places n) :
    ∃ m, c = digit .small m := by
  induction places generalizing n with
  | zero => simp [padded] at h
  | succ places ih =>
    rw [padded, List.mem_append] at h
    rcases h with h | h
    · exact ih h
    · exact ⟨n, List.mem_singleton.mp h⟩

/-- A digit is an ASCII letter or an ASCII digit. -/
theorem isAlphanum_digit (n : Nat) : (digit .small n).isAlphanum = true := by
  have hmod : n % 16 < 16 := Nat.mod_lt n (by decide)
  simp only [digit]
  generalize n % 16 = d at hmod
  interval_cases d <;> rfl

/-- No digit is an underscore. -/
theorem digit_ne_underscore (n : Nat) : digit .small n ≠ '_' := by
  intro h
  cases h ▸ isAlphanum_digit n

/-- The digits of bytes are ASCII letters and digits. -/
theorem isAlphanum_of_mem_ofBytes {bytes : List UInt8} {c : Char} (h : c ∈ ofBytes bytes) :
    c.isAlphanum = true := by
  obtain ⟨b, -, hb⟩ := List.mem_flatMap.mp h
  obtain ⟨m, rfl⟩ := mem_padded hb
  exact isAlphanum_digit m

/-- There is no underscore among the digits of bytes. -/
theorem underscore_not_mem_ofBytes (bytes : List UInt8) : '_' ∉ ofBytes bytes := by
  intro h
  cases isAlphanum_of_mem_ofBytes h

end Hex

/-! ## UTF-8 -/

namespace Utf8

/-- A text without a gap is made of characters. -/
theorem exists_chars_of_gapFrom? {ls : List Letter} {position : Nat}
    (h : gapFrom? position ls = none) : ∃ cs : List Char, ls = cs.map .char := by
  induction ls generalizing position with
  | nil => exact ⟨[], rfl⟩
  | cons l ls ih =>
    cases l with
    | char c =>
      have hrest : gapFrom? (position + 1) ls = none := h
      obtain ⟨cs, rfl⟩ := ih hrest
      exact ⟨c :: cs, rfl⟩
    | half n => cases h

/-- The bytes of a text that has bytes are those of its letters. -/
theorem eq_of_encode {t : Text} {bytes : List UInt8} (h : encode t = .ok bytes) :
    bytes = t.letters.flatMap letterBytes := by
  rw [encode] at h
  split at h
  · cases h
  · exact (Except.ok.inj h).symm

/-- A text that has bytes is made of characters, and the bytes are those of the characters. -/
theorem exists_chars_of_encode {t : Text} {bytes : List UInt8} (h : encode t = .ok bytes) :
    ∃ cs, t = ofChars cs ∧ bytes = cs.flatMap String.utf8EncodeChar := by
  have hgap : gapFrom? 0 t.letters = none := by
    rw [encode, gap?] at h
    split at h
    · cases h
    · assumption
  obtain ⟨cs, hcs⟩ := exists_chars_of_gapFrom? hgap
  refine ⟨cs, congrArg Text.mk hcs, ?_⟩
  rw [eq_of_encode h, hcs, List.flatMap_map]
  rfl

/-- Characters are found again from their bytes. -/
theorem flatMap_utf8EncodeChar_inj {cs ds : List Char}
    (h : cs.flatMap String.utf8EncodeChar = ds.flatMap String.utf8EncodeChar) : cs = ds := by
  have hbytes : cs.utf8Encode = ds.utf8Encode := congrArg List.toByteArray h
  rw [← String.toByteArray_ofList, ← String.toByteArray_ofList, String.toByteArray_inj] at hbytes
  exact String.ofList_inj.mp hbytes

/-- A text that has bytes is found again from them. -/
theorem encode_inj {s t : Text} {bytes : List UInt8} (hs : encode s = .ok bytes)
    (ht : encode t = .ok bytes) : s = t := by
  obtain ⟨cs, rfl, hcs⟩ := exists_chars_of_encode hs
  obtain ⟨ds, rfl, hds⟩ := exists_chars_of_encode ht
  rw [flatMap_utf8EncodeChar_inj (hcs.symm.trans hds)]

end Utf8

end CHeaders.Text
