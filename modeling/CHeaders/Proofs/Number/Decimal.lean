import CHeaders.Number.Decimal

/-!
# Reading decimal digits

A number is found again from its decimal digits. The first digit is a zero only if the number is,
and a number that can be written has no more digits than are read.

## Main results

* `CHeaders.Decimal.digitsValue_digits`: the value of the digits of a number.
* `CHeaders.Decimal.head?_digits_ne`: the first digit of a positive number is no zero.
* `CHeaders.Decimal.length_digits_le`: the length of a number that can be written.
-/

namespace CHeaders.Decimal

/-- The digits of a number are digits. -/
theorem isDigit_of_mem_digits {n : Nat} {c : Char} (h : c ∈ digits n) : c.isDigit = true :=
  Nat.isDigit_of_mem_toDigits (by decide) (by decide) h

/-- A number has a digit. -/
theorem digits_ne_nil (n : Nat) : digits n ≠ [] :=
  Nat.toDigits_ne_nil

/-- The value of a decimal digit. -/
theorem digitValue?_of_isDigit {c : Char} (h : c.isDigit = true) :
    digitValue? c = some (c.toNat - '0'.toNat) := by
  have hrange : '0'.toNat ≤ c.toNat ∧ c.toNat ≤ '9'.toNat := by
    simpa [Char.isDigit, UInt32.le_iff_toNat_le] using h
  simp only [digitValue?, hrange.1, hrange.2, decide_true, Bool.and_self, if_true]

/-- The digits of a number stand for it. -/
theorem digitsValue_digits (n : Nat) : digitsValue 10 (digits n) = n := by
  have hfold : ∀ (cs : List Char) (acc : Nat), (∀ c ∈ cs, c.isDigit = true) →
      cs.foldl (fun acc c => acc * 10 + (digitValue? c).getD 0) acc =
        Nat.ofDigitChars 10 cs acc := by
    intro cs
    induction cs with
    | nil => exact fun _ _ => rfl
    | cons c cs ih =>
      intro acc h
      obtain ⟨hc, hcs⟩ := List.forall_mem_cons.mp h
      rw [List.foldl_cons, ih _ hcs, Nat.ofDigitChars_cons, digitValue?_of_isDigit hc,
        Option.getD_some, Nat.mul_comm]
  rw [digitsValue, hfold _ _ fun c hc => isDigit_of_mem_digits hc]
  exact Nat.ofDigitChars_ten_toDigits

/-- Different numbers have different digits. -/
theorem digits_injective : digits.Injective :=
  Function.LeftInverse.injective digitsValue_digits

/-- The first digit of a positive number is no zero. -/
theorem head?_digits_ne {n : Nat} (h : 0 < n) : (digits n).head? ≠ some '0' := by
  induction n using Nat.strongRecOn with
  | ind n ih =>
    by_cases hsmall : n < 10
    · rw [digits, Nat.toDigits_of_lt_base hsmall]
      have hdigit : ∀ m, m < 10 → 0 < m → [m.digitChar].head? ≠ some '0' := by decide
      exact hdigit n hsmall h
    · have hne : digits (n / 10) ≠ [] := digits_ne_nil _
      have hhead := ih (n / 10) (by omega) (by omega)
      rw [digits, Nat.toDigits_of_base_le (by decide) (by omega)]
      rw [digits] at hhead hne
      obtain ⟨d, ds, hds⟩ := List.exists_cons_of_ne_nil hne
      rwa [hds] at hhead ⊢

/-- A number that can be written has no more digits than are read. -/
theorem length_digits_le {n : Nat} (h : isWritable n = true) : (digits n).length ≤ mostDigits := by
  have hbound {k : Nat} (hk : 0 < k) (hlt : n < Nat.pow 10 k) : (digits n).length ≤ k :=
    (Nat.length_toDigits_le_iff (by decide) hk).mpr hlt
  unfold isWritable leastUnwritable at h
  rw [Int.natAbs_natCast, decide_eq_true_eq] at h
  exact hbound (by decide) h

/-- The text of a whole number holds digits and minus signs. -/
theorem mem_ofInt {n : Int} {c : Char} (h : c ∈ (ofInt n).toList) : c.isDigit = true ∨ c = '-' := by
  cases n with
  | ofNat n =>
    rw [ofInt, ofNat, String.toList_ofList] at h
    exact .inl (isDigit_of_mem_digits h)
  | negSucc n =>
    rw [ofInt, String.toList_ofList] at h
    rcases List.mem_cons.mp h with rfl | h
    · exact .inr rfl
    · exact .inl (isDigit_of_mem_digits h)

end CHeaders.Decimal
