import Mathlib.Data.List.Basic
import ReviewFeed.Json.Writer
import ReviewFeed.Proofs.Text.Numeral

/-!
# Values on one line

Nothing that is written for a value is a control character below the space: those of its
strings are escaped, and everything else consists of digits, letters and signs.  So a
written value is one line.
-/

namespace ReviewFeed

/-- Text without control characters below the space. -/
def Unbroken (chars : List Char) : Prop :=
  ∀ c ∈ chars, 0x20 ≤ c.toNat

namespace Unbroken

@[simp]
theorem nil : Unbroken [] :=
  fun _ member => absurd member List.not_mem_nil

@[simp]
theorem cons_iff {c : Char} {chars : List Char} :
    Unbroken (c :: chars) ↔ 0x20 ≤ c.toNat ∧ Unbroken chars :=
  List.forall_mem_cons

@[simp]
theorem append_iff {front back : List Char} :
    Unbroken (front ++ back) ↔ Unbroken front ∧ Unbroken back :=
  List.forall_mem_append

theorem sublist {chars part : List Char} (unbroken : Unbroken chars) (below : part.Sublist chars) :
    Unbroken part :=
  fun c member => unbroken c (below.mem member)

theorem take {chars : List Char} (unbroken : Unbroken chars) (count : Nat) :
    Unbroken (chars.take count) :=
  unbroken.sublist (List.take_sublist count chars)

theorem drop {chars : List Char} (unbroken : Unbroken chars) (count : Nat) :
    Unbroken (chars.drop count) :=
  unbroken.sublist (List.drop_sublist count chars)

theorem replicate (count : Nat) {c : Char} (visible : 0x20 ≤ c.toNat) :
    Unbroken (List.replicate count c) := by
  intro other member
  rwa [(List.mem_replicate.mp member).2]

theorem digits (n : Nat) : Unbroken (Text.digits n) := by
  intro c member
  have digit := Text.isDigit_of_mem_digits member
  rw [Char.isDigit_iff_toNat] at digit
  have zero : '0'.toNat = 0x30 := rfl
  omega

theorem lineFeed_not_mem {chars : List Char} (unbroken : Unbroken chars) : '\n' ∉ chars :=
  fun member => absurd (unbroken '\n' member) (by decide)

end Unbroken

namespace Binary64

theorem unbroken_positional {digits : List Char} (unbroken : Unbroken digits) (leading : Int) :
    Unbroken (positional digits leading) := by
  have zeros := fun count => Unbroken.replicate count (c := '0') (by decide)
  unfold positional
  dsimp only
  split
  · simp [zeros, unbroken]
  · split
    · -- The point stands between the whole digits and at least one more.
      have padded := fun count => Unbroken.append_iff.mpr ⟨unbroken, zeros count⟩
      refine Unbroken.append_iff.mpr ⟨(padded _).take _, Unbroken.cons_iff.mpr ⟨by decide, ?_⟩⟩
      split
      · simp
      · exact (padded _).drop _
    · have fraction : Unbroken (if (digits.drop 1).isEmpty then [] else '.' :: digits.drop 1) := by
        split
        · exact .nil
        · exact Unbroken.cons_iff.mpr ⟨by decide, unbroken.drop 1⟩
      have sign : 0x20 ≤ (if leading < 0 then '-' else '+').toNat := by split <;> decide
      have power : Unbroken (Nat.toDigits 10 leading.natAbs) := .digits leading.natAbs
      refine Unbroken.append_iff.mpr ⟨Unbroken.append_iff.mpr ⟨unbroken.take 1, fraction⟩, ?_⟩
      exact Unbroken.cons_iff.mpr ⟨by decide, Unbroken.cons_iff.mpr ⟨sign, power⟩⟩

theorem unbroken_text (number : Binary64) : Unbroken number.text := by
  have sign : Unbroken (if number.negative then ['-'] else []) := by
    split <;> simp
  have some (value : Nat) : Unbroken (dropTrailingZeros (Nat.toDigits 10 value)) := by
    intro c member
    have inside := (List.dropWhile_sublist _).mem (List.mem_reverse.mp member)
    exact Unbroken.digits value c (List.mem_reverse.mp inside)
  unfold text
  dsimp only
  split
  · exact Unbroken.append_iff.mpr ⟨sign, by simp⟩
  · exact Unbroken.append_iff.mpr ⟨sign, unbroken_positional (some _) _⟩

end Binary64

namespace Json

theorem unbroken_number (number : JsonNumber) : Unbroken number.text := by
  cases number with
  | integer value =>
      cases value with
      | ofNat n => exact .digits n
      | negSucc n => exact Unbroken.cons_iff.mpr ⟨by decide, .digits (n + 1)⟩
  | float value => exact value.unbroken_text

theorem hexDigit_visible {n : Nat} (hex : n < 0x10) : 0x20 ≤ (Text.hexDigit n).toNat := by
  have all : ∀ n, n < 0x10 → 0x20 ≤ (Text.hexDigit n).toNat := by decide
  exact all n hex

theorem unbroken_escape (c : Char) : Unbroken (escape c) := by
  unfold escape
  split
  -- All cases but the last are the short escapes.
  case h_8 =>
    split
    · rename_i control
      simp [hexDigit_visible (n := c.toNat / 16) (by omega),
        hexDigit_visible (n := c.toNat % 16) (by omega)]
    · rename_i visible
      simpa using visible
  all_goals simp

theorem unbroken_writeString (text : String) : Unbroken (writeString text) := by
  have each : Unbroken (text.toList.flatMap escape) := by
    intro c member
    obtain ⟨of, -, written⟩ := List.mem_flatMap.mp member
    exact unbroken_escape of c written
  simp [writeString, each]

mutual

theorem unbroken_write (value : Json) : Unbroken (write value) := by
  cases value with
  | null => simp [write]
  | bool value => cases value <;> simp [write]
  | number value => exact unbroken_number value
  | string text => exact unbroken_writeString text
  | array items => simp [write, unbroken_writeItems items]
  | object members => simp [write, unbroken_writeMembers members]

theorem unbroken_writeItems (items : List Json) : Unbroken (writeItems items) := by
  match items with
  | [] => simp [writeItems]
  | [item] => exact unbroken_write item
  | item :: next :: more =>
      simp [writeItems, unbroken_write item, unbroken_writeItems (next :: more)]

theorem unbroken_writeMembers (members : List (String × Json)) :
    Unbroken (writeMembers members) := by
  match members with
  | [] => simp [writeMembers]
  | [(key, value)] => simp [writeMembers, unbroken_writeString key, unbroken_write value]
  | (key, value) :: next :: more =>
      simp [writeMembers, unbroken_writeString key, unbroken_write value,
        unbroken_writeMembers (next :: more)]

end

/-- A rendered value is one line. -/
theorem lineFeed_not_mem_render (value : Json) : '\n' ∉ value.render.toList := by
  rw [render, String.toList_ofList]
  exact (unbroken_write value).lineFeed_not_mem

end Json

end ReviewFeed
