import Mathlib.Data.List.Forall2
import ReviewFeed.Query.Record

/-!
# Which lines are records

A line is a data record, or there is one error that it stands for: the message of an
error record, or that it is no JSON object.
-/

namespace ReviewFeed

namespace Text

theorem toNat_toLower (c : Char) :
    c.toLower.toNat = if 65 ≤ c.toNat ∧ c.toNat ≤ 90 then c.toNat + 32 else c.toNat := by
  have upperA : 'A'.val.toNat = 65 := rfl
  have upperZ : 'Z'.val.toNat = 90 := rfl
  have shift : ('a'.val - 'A'.val).toNat = 32 := rfl
  unfold Char.toLower Char.toNat
  simp only [ge_iff_le, UInt32.le_iff_toNat_le, upperA, upperZ]
  split
  · rw [UInt32.toNat_add, shift]
    omega
  · rfl

theorem toNat_toUpper (c : Char) :
    c.toUpper.toNat = if 97 ≤ c.toNat ∧ c.toNat ≤ 122 then c.toNat - 32 else c.toNat := by
  have lowerA : 'a'.val.toNat = 97 := rfl
  have lowerZ : 'z'.val.toNat = 122 := rfl
  have shift : ('A'.val - 'a'.val).toNat = 2 ^ 32 - 32 := rfl
  unfold Char.toUpper Char.toNat
  simp only [UInt32.le_iff_toNat_le, lowerA, lowerZ]
  split
  · rw [UInt32.toNat_add, shift]
    omega
  · rfl

theorem toLower_eq_iff {c letter : Char} (lower : 97 ≤ letter.toNat ∧ letter.toNat ≤ 122) :
    c.toLower = letter ↔ c = letter ∨ c = letter.toUpper := by
  simp only [← Char.toNat_inj, toNat_toLower, toNat_toUpper]
  split <;> omega

/-- A word in lower case is met by the texts with each letter in either case. -/
theorem map_toLower_eq_iff {chars letters : List Char}
    (lower : ∀ letter ∈ letters, 97 ≤ letter.toNat ∧ letter.toNat ≤ 122) :
    chars.map Char.toLower = letters ↔
      List.Forall₂ (fun c letter => c = letter ∨ c = letter.toUpper) chars letters := by
  induction letters generalizing chars with
  | nil => rw [List.map_eq_nil_iff, List.forall₂_nil_right_iff]
  | cons letter letters ih =>
      have head := lower letter List.mem_cons_self
      have tail := fun other member => lower other (List.mem_cons_of_mem letter member)
      cases chars with
      | nil => simp
      | cons c chars =>
          rw [List.map_cons, List.cons.injEq, List.forall₂_cons, toLower_eq_iff head, ih tail]

end Text

namespace QueryRecord

/-- A name that reads `error`, each letter of it in either case. -/
def NamesError (name : String) : Prop :=
  List.Forall₂ (fun c letter => c = letter ∨ c = letter.toUpper) name.toList "error".toList

/-- An object whose type reads `error`. -/
def IsError (members : Members) : Prop :=
  ∃ name, members.lookup "type" = some (.string name) ∧ NamesError name

theorem isError_iff {members : Members} : isError members = true ↔ IsError members := by
  unfold isError IsError
  split
  · rename_i name found
    have lower : ∀ letter ∈ "error".toList, 97 ≤ letter.toNat ∧ letter.toNat ≤ 122 := by
      have letters : "error".toList = ['e', 'r', 'r', 'o', 'r'] := rfl
      simp only [letters, List.forall_mem_cons, List.not_mem_nil, false_implies,
        implies_true, and_true]
      exact ⟨by decide, by decide, by decide, by decide, by decide⟩
    rw [found, lowerCase, beq_iff_eq, Text.map_toLower_eq_iff lower]
    constructor
    · intro named
      exact ⟨name, rfl, named⟩
    · rintro ⟨other, same, named⟩
      cases same
      exact named
  · rename_i noName
    constructor
    · intro impossible
      cases impossible
    · rintro ⟨name, found, -⟩
      exact absurd found (noName name)

/-- The error for which a line stands that is no data record. -/
inductive Rejected (line : String) : QueryError → Prop
  /-- An error record without a message has the empty one. -/
  | remote {members : Members} : Json.read? line = some (.object members) → IsError members →
      Rejected line (.remote (((members.lookup "message").bind Json.string?).getD ""))
  | notObject {value : Json} : Json.read? line = some value → value.isObject = false →
      Rejected line (.malformed line (.notObject value))
  | notJson : Json.read? line = none → Rejected line (.malformed line .notJson)

/-- The members of a data record.  Any other line is an error. -/
def members (line : String) : Except QueryError Members :=
  match ofLine line with
  | .ok (.data members) => .ok members
  | .ok (.error message) => .error (.remote message)
  | .error fault => .error fault

theorem members_eq_ok_iff {line : String} {found : Members} :
    members line = .ok found ↔ ofLine line = .ok (.data found) := by
  unfold members
  cases ofLine line with
  | error fault => simp
  | ok record => cases record <;> simp

theorem members_of_object {line : String} {found : Members}
    (read : Json.read? line = some (.object found)) :
    members line =
      if isError found then
        .error (.remote (((found.lookup "message").bind Json.string?).getD ""))
      else .ok found := by
  simp only [members, ofLine, read, ofMembers]
  cases isError found <;> rfl

theorem members_of_notObject {line : String} {value : Json} (read : Json.read? line = some value)
    (noObject : value.isObject = false) :
    members line = .error (.malformed line (.notObject value)) := by
  simp only [members, ofLine, read]
  cases value with
  | object _ => cases noObject
  | null | bool _ | number _ | string _ | array _ => rfl

theorem members_of_notJson {line : String} (read : Json.read? line = none) :
    members line = .error (.malformed line .notJson) := by
  simp only [members, ofLine, read]

theorem members_eq_error_iff {line : String} {error : QueryError} :
    members line = .error error ↔ Rejected line error := by
  constructor
  · intro refused
    cases read : Json.read? line with
    | none =>
        rw [members_of_notJson read] at refused
        cases refused
        exact .notJson read
    | some value =>
        cases object : value.isObject with
        | false =>
            rw [members_of_notObject read object] at refused
            cases refused
            exact .notObject read object
        | true =>
            cases value with
            | null | bool _ | number _ | string _ | array _ => cases object
            | object found =>
                rw [members_of_object read] at refused
                cases named : isError found with
                | true =>
                    rw [named] at refused
                    cases refused
                    exact .remote read (isError_iff.mp named)
                | false =>
                    rw [named] at refused
                    cases refused
  · intro rejected
    cases rejected with
    | remote read named =>
        rw [members_of_object read, isError_iff.mpr named]
        rfl
    | notObject read object => exact members_of_notObject read object
    | notJson read => exact members_of_notJson read

end QueryRecord

end ReviewFeed
