import ReviewFeed.Json.Value
import ReviewFeed.Proofs.Association

/-!
# The order of members

Members are written in the order of a record's fields and read in the order of their
keys.  A value in which every object is in that order is the same value to everyone
who looks members up by key.
-/

namespace ReviewFeed.Json

mutual

/-- The value with the members of every object in the order of their keys. -/
def sorted : Json → Json
  | .array items => .array (sortedItems items)
  | .object members => .object (Association.ofPairs (sortedMembers members))
  | .null => .null
  | .bool value => .bool value
  | .number value => .number value
  | .string text => .string text

def sortedItems : List Json → List Json
  | [] => []
  | item :: more => item.sorted :: sortedItems more

def sortedMembers : Members → Members
  | [] => []
  | (key, value) :: more => (key, value.sorted) :: sortedMembers more

end

theorem sortedItems_eq (items : List Json) : sortedItems items = items.map sorted := by
  induction items with
  | nil => rfl
  | cons item more induction => rw [sortedItems, induction, List.map_cons]

theorem sortedMembers_eq (members : Members) :
    sortedMembers members = members.map (fun member => (member.1, member.2.sorted)) := by
  induction members with
  | nil => rfl
  | cons member more induction =>
      obtain ⟨key, value⟩ := member
      rw [sortedMembers, induction, List.map_cons]

theorem sorted_array (items : List Json) :
    (Json.array items).sorted = .array (items.map sorted) := by
  rw [sorted, sortedItems_eq]

theorem sorted_object (members : Members) :
    (Json.object members).sorted =
      .object (Association.ofPairs
        (members.map (fun member => (member.1, member.2.sorted)))) := by
  rw [sorted, sortedMembers_eq]

/-- Looking up a key in the sorted members. -/
theorem lookup_sorted {members : Members} (distinct : (members.map Prod.fst).Nodup)
    (key : String) :
    (Association.ofPairs (members.map (fun member => (member.1, member.2.sorted)))).lookup key =
      (members.lookup key).map sorted := by
  rw [Association.lookup_ofPairs]
  · exact Association.lookup_map (fun _ value => value.sorted) members key
  · rw [List.map_map]
    exact distinct

/-- The values that can be told from their text: integers fit into 64 bits, no key
occurs twice in an object, and nothing nests too deep. -/
inductive Legible : Nat → Json → Prop
  | null (depth : Nat) : Legible depth .null
  | bool (depth : Nat) (value : Bool) : Legible depth (.bool value)
  | integer (depth : Nat) {n : Int}
      (word : -9223372036854775808 ≤ n ∧ n ≤ 18446744073709551615) : Legible depth (.ofInt n)
  | string (depth : Nat) (text : String) : Legible depth (.string text)
  | array {depth : Nat} {items : List Json} (each : ∀ item ∈ items, Legible depth item) :
      Legible (depth + 1) (.array items)
  | object {depth : Nat} {members : Members} (distinct : (members.map Prod.fst).Nodup)
      (each : ∀ member ∈ members, Legible depth member.2) :
      Legible (depth + 1) (.object members)

theorem Legible.mono {value : Json} {depth deeper : Nat} (legible : Legible depth value)
    (below : depth ≤ deeper) : Legible deeper value := by
  induction legible generalizing deeper with
  | null => exact .null deeper
  | bool depth value => exact .bool deeper value
  | integer depth word => exact .integer deeper word
  | string depth text => exact .string deeper text
  | array each induction =>
      obtain ⟨deeper, rfl⟩ := Nat.exists_eq_add_of_lt below
      exact .array (fun item member => induction item member (by omega))
  | object distinct each induction =>
      obtain ⟨deeper, rfl⟩ := Nat.exists_eq_add_of_lt below
      exact .object distinct (fun entry member => induction entry member (by omega))

end ReviewFeed.Json
