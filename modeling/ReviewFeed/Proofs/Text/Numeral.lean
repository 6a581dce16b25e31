import ReviewFeed.Text.Numeral

/-!
# Numerals of numbers

The digits written for a number are digits, stand for that number and start with a
zero for zero only.
-/

namespace ReviewFeed.Text

theorem digits_ne_nil (n : Nat) : digits n ≠ [] :=
  Nat.toDigits_ne_nil

theorem isDigit_of_mem_digits {n : Nat} {c : Char} (member : c ∈ digits n) :
    c.isDigit = true :=
  Nat.isDigit_of_mem_toDigits (by decide) (by decide) member

theorem digitsValue_digits (n : Nat) : digitsValue (digits n) = n := by
  have counted : Nat.ofDigitChars 10 (digits n) 0 = n := Nat.ofDigitChars_ten_toDigits
  rw [Nat.ofDigitChars_eq_foldl] at counted
  exact counted

theorem digits_zero : digits 0 = ['0'] :=
  Nat.toDigits_zero 10

theorem digits_of_pos {n : Nat} (positive : 0 < n) :
    ∃ first rest, digits n = first :: rest ∧ first ≠ '0' := by
  induction n using Nat.strongRecOn with
  | ind n induction =>
      by_cases small : n < 10
      · refine ⟨Nat.digitChar n, [], Nat.toDigits_of_lt_base small, ?_⟩
        intro same
        have zero := Nat.digitChar_eq_zero.mp same
        omega
      · obtain ⟨first, rest, shorter, nonzero⟩ := induction (n / 10) (by omega) (by omega)
        refine ⟨first, rest ++ [Nat.digitChar (n % 10)], ?_, nonzero⟩
        rw [digits, Nat.toDigits_of_base_le (by decide) (by omega), ← digits, shorter,
          List.cons_append]

end ReviewFeed.Text
