import ReviewFeed.Proofs.Json.Literal
import ReviewFeed.Time.Timestamp

/-!
# Which values are timestamps

A value states a number of seconds if it is an integer or a text that holds the numeral of
one between blanks.  It is read as a timestamp if the calendar has these seconds, which
are far within 64 bits, and is unset otherwise.  Of the numbers in a JSON text the
timestamps are those written as integers, except the negative zero.
-/

namespace ReviewFeed

namespace Timestamp

/-- The value states a number of seconds. -/
inductive States : Json → Int → Prop
  | integer (n : Int) : States (.number (.integer n)) n
  | text {front numeral back : List Char} {n : Int}
      (blankFront : ∀ c ∈ front, Text.isBlank c = true)
      (blankBack : ∀ c ∈ back, Text.isBlank c = true) (spelled : Text.Numeral numeral n) :
      States (.string (String.ofList (front ++ numeral ++ back))) n

theorem statedSeconds?_eq_some_iff {value : Json} {n : Int} :
    statedSeconds? value = some n ↔ States value n := by
  constructor
  · intro stated
    unfold statedSeconds? at stated
    split at stated
    · cases stated
      exact .integer n
    · rename_i text
      obtain ⟨front, back, blankFront, blankBack, split⟩ := Text.exists_trimList text.toList
      have whole : text = String.ofList (front ++ Text.trimList text.toList ++ back) := by
        rw [← split, String.ofList_toList]
      rw [whole]
      exact .text blankFront blankBack (Text.readSigned?_eq_some_iff.mp stated)
    · cases stated
  · rintro (_ | ⟨blankFront, blankBack, spelled⟩)
    · rfl
    · rw [statedSeconds?, String.toList_ofList,
        Text.trimList_between blankFront blankBack spelled.visible]
      exact Text.readSigned?_eq_some_iff.mpr spelled

theorem ofSeconds?_eq_some_iff {n : Int} {time : Timestamp} :
    ofSeconds? n = some time ↔ time.seconds = n := by
  constructor
  · intro found
    rw [ofSeconds?] at found
    split at found
    · cases found
      rfl
    · cases found
  · rintro rfl
    exact dif_pos time.inCalendar

/-- Of the seconds that a value states, the calendar decides: the word that they are read
into is wider. -/
theorem read?_eq_some_iff {value : Json} {time : Timestamp} :
    read? value = some time ↔ statedSeconds? value = some time.seconds := by
  constructor
  · intro found
    rw [read?] at found
    split at found
    · rename_i n stated
      split at found
      · rw [stated, ofSeconds?_eq_some_iff.mp found]
      · cases found
    · cases found
  · intro stated
    have inCalendar := time.inCalendar
    have inWord : fitsWord time.seconds = true := by
      simp only [fitsWord, Bool.and_eq_true, decide_eq_true_eq]
      omega
    simp only [read?, stated, inWord, if_true]
    exact ofSeconds?_eq_some_iff.mpr rfl

theorem read?_eq_some_iff_states {value : Json} {time : Timestamp} :
    read? value = some time ↔ States value time.seconds :=
  read?_eq_some_iff.trans statedSeconds?_eq_some_iff

theorem read?_ofInt (n : Int) : read? (.ofInt n) = ofSeconds? n := by
  ext time
  have stated : statedSeconds? (.ofInt n) = some n := rfl
  rw [read?_eq_some_iff, stated, ofSeconds?_eq_some_iff, Option.some.injEq, eq_comm]

theorem read?_toJson (time : Timestamp) : read? time.toJson = some time :=
  read?_eq_some_iff.mpr rfl

theorem read?_numeral (n : Int) :
    read? (.string (String.ofList (Text.signedDigits n))) = read? (.ofInt n) := by
  have stated : statedSeconds? (.string (String.ofList (Text.signedDigits n))) = some n := by
    have numeral := States.text (List.forall_mem_nil _) (List.forall_mem_nil _)
      (Text.numeral_signedDigits n)
    rw [List.nil_append, List.append_nil] at numeral
    exact statedSeconds?_eq_some_iff.mpr numeral
  rw [read?, read?, stated]
  rfl

/-- Numbers are read by the parts of their texts. -/
theorem read?_value? {literal : Json.NumberText} {number : JsonNumber}
    (value : literal.value? = some number) {time : Timestamp} :
    read? (.number number) = some time ↔
      literal.isInteger = true ∧
        ¬(literal.negative = true ∧ Text.digitsValue literal.whole = 0) ∧
        time.seconds = if literal.negative then -(Text.digitsValue literal.whole : Int)
          else Text.digitsValue literal.whole := by
  have inCalendar := time.inCalendar
  have ofInteger : ∀ n : Int, read? (.number (.integer n)) = some time ↔ time.seconds = n := by
    intro n
    exact (Eq.congr_left (read?_ofInt n)).trans ofSeconds?_eq_some_iff
  simp only [Json.NumberText.value?, Bool.and_eq_true, Bool.not_eq_true', decide_eq_true_eq]
    at value
  -- The cases are an unsigned word, a negative word and a floating-point number.
  split_ifs at value with unsigned negative
  · obtain ⟨⟨isInteger, positive⟩, -⟩ := unsigned
    cases value
    simp [ofInteger, isInteger, positive]
  · obtain ⟨⟨⟨isInteger, minus⟩, nonzero⟩, -⟩ := negative
    cases value
    simp [ofInteger, isInteger, minus, Nat.pos_iff_ne_zero.mp nonzero]
  · obtain ⟨float, -, rfl⟩ := Option.map_eq_some_iff.mp value
    constructor
    · intro found
      cases read?_eq_some_iff.mp found
    · rintro ⟨isInteger, notZero, same⟩
      cases minus : literal.negative with
      | false =>
          rw [minus, if_neg Bool.false_ne_true] at same
          exact absurd ⟨⟨isInteger, minus⟩, by omega⟩ unsigned
      | true =>
          rw [minus, if_pos rfl] at same
          have nonzero : Text.digitsValue literal.whole ≠ 0 := fun zero => notZero ⟨minus, zero⟩
          exact absurd ⟨⟨⟨isInteger, minus⟩, by omega⟩, by omega⟩ negative

/-- A number in a JSON text is a timestamp if it is written as an integer that the calendar
has, and not as the negative zero. -/
theorem read?_readNumber {chars rest : List Char} {number : JsonNumber}
    (read : Json.readNumber chars = some (number, rest)) {time : Timestamp} :
    read? (.number number) = some time ↔ ∃ (negative : Bool) (row : List (Fin 10)),
      row ≠ [] ∧ chars = Json.signChars negative ++ Text.rowChars row ++ rest ∧
      ¬(negative = true ∧ Text.rowValue row = 0) ∧
      time.seconds = if negative then -(Text.rowValue row : Int) else Text.rowValue row := by
  obtain ⟨literal, row, behind, value, whole, filled, spelled, integer⟩ :=
    Json.readNumber_eq_some read
  rw [read?_value? value, whole, Text.digitsValue_rowChars]
  constructor
  · rintro ⟨isInteger, notZero, seconds⟩
    rcases integer with ⟨-, rfl⟩ | ⟨notInteger, -⟩
    · rw [List.append_nil] at spelled
      exact ⟨literal.negative, row, filled, spelled, notZero, seconds⟩
    · rw [isInteger] at notInteger
      cases notInteger
  · rintro ⟨negative, other, otherFilled, written, notZero, seconds⟩
    have same := List.append_cancel_right (spelled.symm.trans written)
    obtain ⟨rfl, none, values⟩ :=
      Json.integer_spelled_once filled otherFilled (integer.imp And.right And.right) same
    rcases integer with ⟨isInteger, -⟩ | ⟨-, c, member, -⟩
    · rw [values]
      exact ⟨isInteger, notZero, seconds⟩
    · rw [none] at member
      cases member

end Timestamp

end ReviewFeed
