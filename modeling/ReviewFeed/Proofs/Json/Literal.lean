import ReviewFeed.Json.Reader
import ReviewFeed.Proofs.Text.DigitRow

/-!
# The text of a number

A number that was read has its text in front of what is left: a sign or none, a row of
digits, and behind it the fraction and the exponent, each of which has a mark that is no
digit.  So its text shows whether it is an integer, which is a number without both.
-/

namespace ReviewFeed.Json

variable {chars rest : List Char}

/-- In front of what is left there is the text of a part that was found, with a character
that is no digit, or nothing if it was not. -/
def IsPart {α : Type} (rest : List Char) (found : Option α) (chars : List Char) : Prop :=
  ∃ part, chars = part ++ rest ∧
    (found.isNone = true ∧ part = [] ∨ found.isNone = false ∧ ∃ c ∈ part, c.isDigit = false)

theorem IsPart.absent {α : Type} : IsPart rest (none : Option α) rest :=
  ⟨[], rfl, .inl ⟨rfl, rfl⟩⟩

theorem readDigitRow_eq_some {row : List Char} (read : readDigitRow chars = some (row, rest)) :
    row ≠ [] ∧ (∀ c ∈ row, c.isDigit = true) ∧ chars = row ++ rest := by
  rw [readDigitRow] at read
  split at read
  · cases read
  · rename_i filled
    cases read
    refine ⟨by simpa using filled, fun c member => List.mem_takeWhile_imp member, ?_⟩
    exact List.takeWhile_append_dropWhile.symm

theorem readWhole_eq_some {whole : List Char} (read : readWhole chars = some (whole, rest)) :
    whole ≠ [] ∧ (∀ c ∈ whole, c.isDigit = true) ∧ chars = whole ++ rest := by
  unfold readWhole at read
  split at read
  · cases read
    refine ⟨List.cons_ne_nil '0' [], ?_, rfl⟩
    intro c member
    cases List.mem_singleton.mp member
    decide
  · exact readDigitRow_eq_some read

/-- A part is a mark, perhaps a sign, and digits. -/
theorem isPart_of_readDigitRow {α : Type} {mark : Char} (sign : List Char) {behind : List Char}
    {make : List Char × List Char → Option α × List Char} {found : Option α}
    (noDigit : mark.isDigit = false)
    (made : ∀ digits, ∃ value, make digits = (some value, digits.2))
    (read : (readDigitRow behind).map make = some (found, rest)) :
    IsPart rest found (mark :: sign ++ behind) := by
  obtain ⟨⟨row, left⟩, digits, same⟩ := Option.map_eq_some_iff.mp read
  obtain ⟨-, -, rfl⟩ := readDigitRow_eq_some digits
  obtain ⟨value, whole⟩ := made (row, left)
  cases whole.symm.trans same
  refine ⟨mark :: sign ++ row, (List.append_assoc _ _ _).symm, .inr ⟨rfl, mark, ?_, noDigit⟩⟩
  exact List.mem_cons_self

theorem readFraction_isPart {fraction : Option (List Char)}
    (read : readFraction chars = some (fraction, rest)) : IsPart rest fraction chars := by
  unfold readFraction at read
  split at read
  · rename_i behind
    exact isPart_of_readDigitRow [] (by decide) (fun _ => ⟨_, rfl⟩) read
  · cases read
    exact .absent

theorem readExponent_isPart {exponent : Option Int}
    (read : readExponent chars = some (exponent, rest)) : IsPart rest exponent chars := by
  unfold readExponent at read
  split at read
  · rename_i mark behind
    split at read
    · rename_i isMark
      have noDigit : mark.isDigit = false := by
        rcases (Bool.or_eq_true _ _).mp isMark with small | capital
        · cases eq_of_beq small
          decide
        · cases eq_of_beq capital
          decide
      split at read
      · exact isPart_of_readDigitRow ['-'] noDigit (fun _ => ⟨_, rfl⟩) read
      · exact isPart_of_readDigitRow ['+'] noDigit (fun _ => ⟨_, rfl⟩) read
      · exact isPart_of_readDigitRow [] noDigit (fun _ => ⟨_, rfl⟩) read
    · cases read
      exact .absent
  · cases read
    exact .absent

/-- The text of a sign: only a minus is written. -/
def signChars (negative : Bool) : List Char :=
  if negative then ['-'] else []

theorem signChars_append (chars : List Char) :
    signChars (chars.head? == some '-') ++
      (if chars.head? == some '-' then chars.drop 1 else chars) = chars := by
  cases chars with
  | nil => rfl
  | cons c chars =>
      by_cases minus : c = '-'
      · rw [minus]
        rfl
      · simp [signChars, minus]

/-- What a number was read from. -/
theorem readNumber_eq_some {number : JsonNumber}
    (read : readNumber chars = some (number, rest)) :
    ∃ (literal : NumberText) (row : List (Fin 10)) (behind : List Char),
      literal.value? = some number ∧ literal.whole = Text.rowChars row ∧ row ≠ [] ∧
      chars = signChars literal.negative ++ Text.rowChars row ++ behind ++ rest ∧
      (literal.isInteger = true ∧ behind = [] ∨
        literal.isInteger = false ∧ ∃ c ∈ behind, c.isDigit = false) := by
  simp only [readNumber, Option.bind_eq_bind, Option.bind_eq_some_iff, Prod.exists,
    Option.some.injEq, Prod.mk.injEq] at read
  obtain ⟨whole, left, wholeRead, fraction, last, fractionRead, exponent, rest', exponentRead,
    number', value, rfl, rfl⟩ := read
  obtain ⟨filled, digits, spelled⟩ := readWhole_eq_some wholeRead
  obtain ⟨row, rfl⟩ := Text.exists_rowChars digits
  obtain ⟨front, rfl, ofFraction⟩ := readFraction_isPart fractionRead
  obtain ⟨back, rfl, ofExponent⟩ := readExponent_isPart exponentRead
  refine ⟨_, row, front ++ back, value, rfl, mt Text.rowChars_eq_nil_iff.mpr filled, ?_, ?_⟩
  · have whole := signChars_append chars
    rw [spelled] at whole
    simpa using whole.symm
  · simp only [Bool.and_eq_true, Bool.and_eq_false_iff, List.append_eq_nil_iff, List.mem_append]
    rcases ofFraction with ⟨noFraction, rfl⟩ | ⟨fractional, c, member, noDigit⟩
    · rcases ofExponent with ⟨noExponent, rfl⟩ | ⟨exponential, c, member, noDigit⟩
      · exact .inl ⟨⟨noFraction, noExponent⟩, rfl, rfl⟩
      · exact .inr ⟨.inr exponential, c, .inr member, noDigit⟩
    · exact .inr ⟨.inl fractional, c, .inl member, noDigit⟩

theorem rowChars_append_ne_minus {row : List (Fin 10)} (filled : row ≠ [])
    (behind other : List Char) : Text.rowChars row ++ behind ≠ '-' :: other := by
  intro same
  cases row with
  | nil => exact filled rfl
  | cons digit row =>
      have minus : (Nat.digitChar digit).isDigit = ('-').isDigit :=
        congrArg Char.isDigit (List.cons.inj same).1
      rw [Text.isDigit_digitChar] at minus
      cases minus

/-- A text that is spelled as an integer is so in one way only. -/
theorem integer_spelled_once {negative minus : Bool} {row other : List (Fin 10)}
    {behind : List Char} (filled : row ≠ []) (otherFilled : other ≠ [])
    (ends : behind = [] ∨ ∃ c ∈ behind, c.isDigit = false)
    (same : signChars negative ++ Text.rowChars row ++ behind =
      signChars minus ++ Text.rowChars other) :
    negative = minus ∧ behind = [] ∧ Text.rowValue row = Text.rowValue other := by
  have signs : negative = minus := by
    cases negative <;> cases minus
    · rfl
    · exact absurd same (rowChars_append_ne_minus filled behind _)
    · have turned := same.symm
      rw [← List.append_nil (Text.rowChars other)] at turned
      exact absurd turned (rowChars_append_ne_minus otherFilled [] _)
    · rfl
  subst signs
  rw [List.append_assoc, List.append_cancel_left_eq] at same
  have none : behind = [] := by
    rcases ends with none | ⟨c, member, noDigit⟩
    · exact none
    · have digit := Text.isDigit_of_mem_rowChars (same ▸ List.mem_append_right _ member)
      rw [digit] at noDigit
      cases noDigit
  refine ⟨rfl, none, ?_⟩
  rw [none, List.append_nil] at same
  rw [← Text.digitsValue_rowChars, same, Text.digitsValue_rowChars]

end ReviewFeed.Json
