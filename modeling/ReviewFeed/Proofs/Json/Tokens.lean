import ReviewFeed.Json.Reader
import ReviewFeed.Json.Writer
import ReviewFeed.Proofs.Text.Numeral

/-!
# Written strings and integers read back

Each is read up to its end, whatever follows.  Only a number needs to know that what
follows is not part of it.
-/

namespace ReviewFeed.Json

/-- Text that follows a value: none, or the comma or bracket that ends it. -/
inductive Ends : List Char → Prop
  | nothing : Ends []
  | comma (rest : List Char) : Ends (',' :: rest)
  | bracket (rest : List Char) : Ends (']' :: rest)
  | brace (rest : List Char) : Ends ('\x7d' :: rest)

section Strings

/-- A character is read from itself, a control character also from its number. -/
inductive Piece.Stands : Piece → Char → Prop
  | char (c : Char) : Stands (.char c) c
  | unit {c : Char} (control : c.toNat < 0x20) : Stands (.unit c.toNat) c

theorem readHex?_control {n : Nat} (control : n < 0x20) :
    Text.readHex? ['0', '0', Text.hexDigit (n / 16), Text.hexDigit (n % 16)] = some n := by
  have all : ∀ n, n < 0x20 →
      Text.readHex? ['0', '0', Text.hexDigit (n / 16), Text.hexDigit (n % 16)] = some n := by
    decide
  exact all n control

theorem pieces_backslash {e c : Char} (notUnit : e ≠ 'u') (escaped : escaped? e = some c)
    (rest : List Char) :
    pieces ('\\' :: e :: rest) =
      (pieces rest).map (fun (more, rest) => (.char c :: more, rest)) := by
  rw [pieces, escaped]
  · cases pieces rest <;> rfl
  · intro _ _ _ _ _ isUnit
    exact absurd isUnit notUnit

theorem pieces_plain {c : Char} (quote : c ≠ '\x22') (backslash : c ≠ '\\')
    (printable : ¬ c.toNat < 0x20) (rest : List Char) :
    pieces (c :: rest) = (pieces rest).map (fun (more, rest) => (.char c :: more, rest)) := by
  rw [pieces, if_neg (by simpa [backslash] using printable)]
  · cases pieces rest <;> rfl
  · exact quote
  · intro _ _ _ _ _ isBackslash
    exact absurd isBackslash backslash
  · intro _ _ isBackslash
    exact absurd isBackslash backslash

theorem pieces_escape (c : Char) : ∃ piece : Piece, piece.Stands c ∧ ∀ rest,
    pieces (escape c ++ rest) =
      (pieces rest).map (fun (more, rest) => (piece :: more, rest)) := by
  unfold escape
  split
  -- All cases but the last are the short escapes.
  case h_8 quote backslash _ _ _ _ _ =>
    split
    · rename_i control
      refine ⟨.unit c.toNat, .unit control, ?_⟩
      intro rest
      simp only [List.cons_append, List.nil_append, pieces, readHex?_control control]
      cases pieces rest <;> rfl
    · rename_i printable
      exact ⟨.char c, .char c, pieces_plain quote backslash printable⟩
  all_goals
    exact ⟨_, .char _, pieces_backslash (by decide) rfl⟩

theorem joinPieces_cons {piece : Piece} {c : Char} (stands : piece.Stands c)
    (more : List Piece) : joinPieces (piece :: more) = (joinPieces more).map (c :: ·) := by
  cases stands with
  | char => rfl
  | unit control =>
      have notLeading : isLeading c.toNat = false := by
        simp only [isLeading, Bool.and_eq_false_iff, decide_eq_false_iff_not]
        omega
      have notTrailing : isTrailing c.toNat = false := by
        simp only [isTrailing, Bool.and_eq_false_iff, decide_eq_false_iff_not]
        omega
      cases more with
      | nil => simp [joinPieces, notLeading, notTrailing]
      | cons next more => cases next <;> simp [joinPieces, notLeading, notTrailing]

theorem pieces_flatMap_escape (chars rest : List Char) : ∃ found,
    pieces (chars.flatMap escape ++ '\x22' :: rest) = some (found, rest) ∧
      joinPieces found = some chars := by
  induction chars with
  | nil => exact ⟨[], by rw [List.flatMap_nil, List.nil_append, pieces], rfl⟩
  | cons c chars induction =>
      obtain ⟨found, read, joined⟩ := induction
      obtain ⟨piece, stands, step⟩ := pieces_escape c
      refine ⟨piece :: found, ?_, ?_⟩
      · rw [List.flatMap_cons, List.append_assoc, step, read, Option.map_some]
      · rw [joinPieces_cons stands, joined, Option.map_some]

theorem readString_flatMap_escape (text : String) (rest : List Char) :
    readString (text.toList.flatMap escape ++ '\x22' :: rest) = some (text, rest) := by
  obtain ⟨found, read, joined⟩ := pieces_flatMap_escape text.toList rest
  simp only [readString, read, joined, Option.bind_eq_bind, Option.bind_some,
    String.ofList_toList]

end Strings

section Numbers

variable {rest : List Char}

theorem Ends.takeWhile_digit (ends : Ends rest) : rest.takeWhile Char.isDigit = [] := by
  cases ends <;> rfl

theorem Ends.dropWhile_digit (ends : Ends rest) : rest.dropWhile Char.isDigit = rest := by
  cases ends <;> rfl

theorem readDigitRow_digits (n : Nat) (ends : Ends rest) :
    readDigitRow (Text.digits n ++ rest) = some (Text.digits n, rest) := by
  have all : ∀ c ∈ Text.digits n, c.isDigit = true := fun _ => Text.isDigit_of_mem_digits
  rw [readDigitRow, List.takeWhile_append_of_pos all, List.dropWhile_append_of_pos all,
    ends.takeWhile_digit, ends.dropWhile_digit, List.append_nil]
  exact if_neg (by simpa using Text.digits_ne_nil n)

theorem readWhole_digits (n : Nat) (ends : Ends rest) :
    readWhole (Text.digits n ++ rest) = some (Text.digits n, rest) := by
  by_cases positive : 0 < n
  · obtain ⟨first, more, written, nonzero⟩ := Text.digits_of_pos positive
    have row := readDigitRow_digits n ends
    rw [written, List.cons_append] at row ⊢
    unfold readWhole
    split
    · rename_i same
      exact absurd (List.cons.inj same).1 nonzero
    · exact row
  · obtain rfl : n = 0 := by omega
    rw [Text.digits_zero]
    rfl

theorem Ends.readFraction (ends : Ends rest) : readFraction rest = some (none, rest) := by
  cases ends <;> rfl

theorem Ends.readExponent (ends : Ends rest) : readExponent rest = some (none, rest) := by
  cases ends <;> rfl

/-- The parts of the text of an integer. -/
def integerText (negative : Bool) (n : Nat) : NumberText :=
  { negative, whole := Text.digits n, fraction := [], exponent := 0, isInteger := true }

theorem integerText_value? (negative : Bool) {n : Nat}
    (word : if negative then 0 < n ∧ n ≤ 9223372036854775808 else n ≤ 18446744073709551615) :
    (integerText negative n).value? = some (.integer (if negative then -(n : Int) else n)) := by
  cases negative with
  | false =>
      have below : n ≤ 18446744073709551615 := word
      simp [NumberText.value?, integerText, Text.digitsValue_digits, below]
  | true =>
      have inWord : 0 < n ∧ n ≤ 9223372036854775808 := word
      simp [NumberText.value?, integerText, Text.digitsValue_digits, inWord]

theorem readNumber_digits {n : Nat} (word : n ≤ 18446744073709551615) (ends : Ends rest) :
    readNumber (Text.digits n ++ rest) = some (.integer n, rest) := by
  have unsigned : ((Text.digits n ++ rest).head? == some '-') = false := by
    cases written : Text.digits n with
    | nil => exact absurd written (Text.digits_ne_nil n)
    | cons first more =>
        have digit : first.isDigit = true :=
          Text.isDigit_of_mem_digits (n := n) (written ▸ List.mem_cons_self)
        rw [List.cons_append, List.head?_cons, beq_eq_false_iff_ne]
        intro minus
        rw [Option.some.inj minus] at digit
        exact absurd digit (by decide)
  have value := integerText_value? false word
  simp only [readNumber, unsigned, Bool.false_eq_true, if_false, readWhole_digits n ends,
    ends.readFraction, ends.readExponent, Option.bind_eq_bind, Option.bind_some]
  exact congrArg (Option.bind · _) value

theorem readNumber_minus_digits {n : Nat} (word : 0 < n ∧ n ≤ 9223372036854775808)
    (ends : Ends rest) :
    readNumber ('-' :: Text.digits n ++ rest) = some (.integer (-(n : Int)), rest) := by
  have value := integerText_value? true word
  simp only [readNumber, List.cons_append, List.head?_cons, beq_self_eq_true, if_true,
    List.drop_one, List.tail_cons, readWhole_digits n ends, ends.readFraction,
    ends.readExponent, Option.bind_eq_bind, Option.bind_some]
  exact congrArg (Option.bind · _) value

theorem readNumber_signedDigits {n : Int}
    (word : -9223372036854775808 ≤ n ∧ n ≤ 18446744073709551615) (ends : Ends rest) :
    readNumber (Text.signedDigits n ++ rest) = some (.integer n, rest) := by
  cases n with
  | ofNat n =>
      rw [Int.ofNat_eq_natCast] at word
      exact readNumber_digits (by omega) ends
  | negSucc n =>
      have read := readNumber_minus_digits (n := n + 1) (by omega) ends
      rw [Text.signedDigits, read]
      rfl

end Numbers

end ReviewFeed.Json
