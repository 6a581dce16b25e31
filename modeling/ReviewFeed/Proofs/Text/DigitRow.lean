import Mathlib.Data.List.Induction
import Mathlib.Data.List.TakeWhile
import Mathlib.Data.Nat.Digits.Lemmas
import ReviewFeed.Proofs.Text.Numeral
import ReviewFeed.Text.Blank

/-!
# Rows of digits

A row of decimal digits stands for a number by the places of its digits, however many
there are and whether or not zeros are in front.  The readers of numerals accept the rows
with at least one digit and give the numbers that they stand for, so that the numeral
written for an integer is read as that integer.  Blanks around a numeral are what trimming
takes away.
-/

namespace ReviewFeed.Text

/-- The text of a row of digits. -/
def rowChars (row : List (Fin 10)) : List Char :=
  row.map (fun digit : Fin 10 => Nat.digitChar digit)

/-- The number that a row of digits stands for: the last digit counts once, each other ten
times as much as the one behind it. -/
def rowValue (row : List (Fin 10)) : Nat :=
  Nat.ofDigits 10 (row.reverse.map Fin.val)

/-- The texts of an integer: a row of at least one digit, with or without a sign. -/
inductive Numeral : List Char → Int → Prop
  | unsigned {row : List (Fin 10)} (filled : row ≠ []) :
      Numeral (rowChars row) (rowValue row)
  | plus {row : List (Fin 10)} (filled : row ≠ []) :
      Numeral ('+' :: rowChars row) (rowValue row)
  | minus {row : List (Fin 10)} (filled : row ≠ []) :
      Numeral ('-' :: rowChars row) (-(rowValue row : Int))

section Rows

variable {row : List (Fin 10)} {chars : List Char}

theorem isDigit_digitChar (digit : Fin 10) : (Nat.digitChar digit).isDigit = true := by
  revert digit
  decide

theorem digitValue_digitChar (digit : Fin 10) : digitValue (Nat.digitChar digit) = digit := by
  revert digit
  decide

theorem exists_digitChar {c : Char} (digit : c.isDigit = true) :
    ∃ value : Fin 10, Nat.digitChar value = c := by
  have range := Char.isDigit_iff_toNat.mp digit
  have small : c.toNat - 48 < 10 := by
    have below : c.toNat ≤ 57 := range.2
    omega
  refine ⟨⟨c.toNat - 48, small⟩, ?_⟩
  apply Char.toNat_inj.mp
  have above : 48 ≤ c.toNat := range.1
  rw [Nat.toNat_digitChar_of_lt_ten small]
  exact Nat.add_sub_cancel' above

theorem isDigit_of_mem_rowChars {c : Char} (member : c ∈ rowChars row) : c.isDigit = true := by
  obtain ⟨digit, -, rfl⟩ := List.mem_map.mp member
  exact isDigit_digitChar digit

theorem exists_rowChars (digits : ∀ c ∈ chars, c.isDigit = true) :
    ∃ row, rowChars row = chars := by
  induction chars with
  | nil => exact ⟨[], rfl⟩
  | cons c chars ih =>
      obtain ⟨digit, rfl⟩ := exists_digitChar (digits c List.mem_cons_self)
      obtain ⟨row, rfl⟩ := ih fun other member => digits other (List.mem_cons_of_mem _ member)
      exact ⟨digit :: row, rfl⟩

theorem rowChars_eq_nil_iff : rowChars row = [] ↔ row = [] :=
  List.map_eq_nil_iff

theorem rowValue_concat (row : List (Fin 10)) (digit : Fin 10) :
    rowValue (row ++ [digit]) = 10 * rowValue row + digit := by
  rw [rowValue, List.reverse_concat, List.map_cons, Nat.ofDigits_cons, rowValue, Nat.add_comm]

/-- Adding up from the left comes to the same, without a bound. -/
theorem digitsValue_rowChars (row : List (Fin 10)) : digitsValue (rowChars row) = rowValue row := by
  induction row using List.reverseRecOn with
  | nil => rfl
  | append_singleton row digit ih =>
      rw [digitsValue] at ih
      rw [rowChars, List.map_append, List.map_singleton, digitsValue, List.foldl_concat,
        digitValue_digitChar, rowValue_concat, ← ih]
      rfl

theorem readDigits?_eq_some_iff {n : Nat} :
    readDigits? chars = some n ↔ ∃ row, row ≠ [] ∧ rowChars row = chars ∧ rowValue row = n := by
  constructor
  · intro read
    rw [readDigits?] at read
    split at read
    · rename_i accepted
      rw [Bool.and_eq_true, Bool.not_eq_true', List.isEmpty_eq_false_iff, List.all_eq_true]
        at accepted
      obtain ⟨row, rfl⟩ := exists_rowChars accepted.2
      refine ⟨row, mt rowChars_eq_nil_iff.mpr accepted.1, rfl, ?_⟩
      rw [← digitsValue_rowChars]
      exact Option.some.inj read
    · cases read
  · rintro ⟨row, filled, rfl, rfl⟩
    have accepted : (!(rowChars row).isEmpty && (rowChars row).all Char.isDigit) = true := by
      rw [Bool.and_eq_true, Bool.not_eq_true', List.isEmpty_eq_false_iff, List.all_eq_true]
      exact ⟨mt rowChars_eq_nil_iff.mp filled, fun _ => isDigit_of_mem_rowChars⟩
    rw [readDigits?, if_pos accepted, digitsValue_rowChars]

theorem readSigned?_eq_some_iff {n : Int} : readSigned? chars = some n ↔ Numeral chars n := by
  constructor
  · intro read
    unfold readSigned? at read
    split at read
    all_goals
      obtain ⟨value, digits, rfl⟩ := Option.map_eq_some_iff.mp read
      obtain ⟨row, filled, rfl, rfl⟩ := readDigits?_eq_some_iff.mp digits
    · exact .plus filled
    · exact .minus filled
    · exact .unsigned filled
  · intro numeral
    cases numeral with
    | @unsigned row filled =>
        have digits := readDigits?_eq_some_iff.mpr ⟨row, filled, rfl, rfl⟩
        have notSign : ∀ sign rest, rowChars row = sign :: rest → sign.isDigit = true := by
          intro sign rest spelled
          exact isDigit_of_mem_rowChars (spelled ▸ List.mem_cons_self)
        unfold readSigned?
        split
        · rename_i rest spelled
          cases notSign '+' rest spelled
        · rename_i rest spelled
          cases notSign '-' rest spelled
        · rw [digits]
          rfl
    | @plus row filled | @minus row filled =>
        rw [readSigned?, readDigits?_eq_some_iff.mpr ⟨row, filled, rfl, rfl⟩]
        rfl

/-- The numeral written for an integer is one of its texts. -/
theorem numeral_signedDigits (n : Int) : Numeral (signedDigits n) n := by
  have spelled : ∀ n : Nat, ∃ row, row ≠ [] ∧ rowChars row = digits n ∧ rowValue row = n := by
    intro n
    obtain ⟨row, chars⟩ := exists_rowChars fun c (member : c ∈ digits n) =>
      isDigit_of_mem_digits member
    refine ⟨row, ?_, chars, ?_⟩
    · rintro rfl
      exact digits_ne_nil n chars.symm
    · rw [← digitsValue_rowChars, chars, digitsValue_digits]
  cases n with
  | ofNat n =>
      obtain ⟨row, filled, chars, value⟩ := spelled n
      rw [signedDigits, ← chars, ← value]
      exact .unsigned filled
  | negSucc n =>
      obtain ⟨row, filled, chars, value⟩ := spelled (n + 1)
      rw [signedDigits, ← chars, Int.negSucc_eq, ← Int.natCast_add_one, ← value]
      exact .minus filled

theorem isBlank_of_isDigit {c : Char} (digit : c.isDigit = true) : isBlank c = false := by
  have range : 48 ≤ c.toNat ∧ c.toNat ≤ 57 := by
    simpa [Char.isDigit, UInt32.le_iff_toNat_le] using digit
  simp [isBlank]
  omega

theorem Numeral.visible {n : Int} (numeral : Numeral chars n) :
    ∀ c ∈ chars, isBlank c = false := by
  have rows : ∀ row, ∀ c ∈ rowChars row, isBlank c = false := fun row c member =>
    isBlank_of_isDigit (isDigit_of_mem_rowChars member)
  intro c member
  cases numeral with
  | @unsigned row _ => exact rows row c member
  | @plus row _ | @minus row _ =>
      rcases List.mem_cons.mp member with rfl | digit
      · rfl
      · exact rows row c digit

end Rows

section Trimming

variable {front chars back : List Char}

/-- Trimming takes away blanks, from the two ends. -/
theorem exists_trimList (chars : List Char) :
    ∃ front back, (∀ c ∈ front, isBlank c = true) ∧ (∀ c ∈ back, isBlank c = true) ∧
      chars = front ++ trimList chars ++ back := by
  let behind := chars.dropWhile isBlank
  refine ⟨chars.takeWhile isBlank, (behind.reverse.takeWhile isBlank).reverse, ?_, ?_, ?_⟩
  · intro c member
    exact List.mem_takeWhile_imp member
  · intro c member
    exact List.mem_takeWhile_imp (List.mem_reverse.mp member)
  · have split : behind = trimList chars ++ (behind.reverse.takeWhile isBlank).reverse := by
      rw [trimList, ← List.reverse_append, List.takeWhile_append_dropWhile, List.reverse_reverse]
    rw [List.append_assoc, ← split, List.takeWhile_append_dropWhile]

theorem dropWhile_visible (visible : ∀ c ∈ chars, isBlank c = false) :
    chars.dropWhile isBlank = chars := by
  cases chars with
  | nil => rfl
  | cons first rest =>
      rw [List.dropWhile_cons_of_neg]
      rw [visible first List.mem_cons_self]
      exact Bool.false_ne_true

theorem dropWhile_blank (blank : ∀ c ∈ front, isBlank c = true) (rest : List Char) :
    (front ++ rest).dropWhile isBlank = rest.dropWhile isBlank :=
  List.dropWhile_append_of_pos blank

/-- Blanks around what has none are taken away. -/
theorem trimList_between (blankFront : ∀ c ∈ front, isBlank c = true)
    (blankBack : ∀ c ∈ back, isBlank c = true) (visible : ∀ c ∈ chars, isBlank c = false) :
    trimList (front ++ chars ++ back) = chars := by
  have reversedBack : ∀ c ∈ back.reverse, isBlank c = true := fun c member =>
    blankBack c (List.mem_reverse.mp member)
  have reversed : ∀ c ∈ chars.reverse, isBlank c = false := fun c member =>
    visible c (List.mem_reverse.mp member)
  cases chars with
  | nil =>
      have none : back.dropWhile isBlank = [] := by
        have dropped := dropWhile_blank blankBack []
        rwa [List.append_nil] at dropped
      rw [trimList, List.append_nil, dropWhile_blank blankFront, none]
      rfl
  | cons c chars =>
      have kept : (c :: chars ++ back).dropWhile isBlank = c :: chars ++ back := by
        rw [List.cons_append, List.dropWhile_cons_of_neg]
        rw [visible c List.mem_cons_self]
        exact Bool.false_ne_true
      rw [trimList, List.append_assoc, dropWhile_blank blankFront, kept, List.reverse_append,
        dropWhile_blank reversedBack, dropWhile_visible reversed, List.reverse_reverse]

end Trimming

end ReviewFeed.Text
