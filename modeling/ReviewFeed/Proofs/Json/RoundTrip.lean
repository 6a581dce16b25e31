import ReviewFeed.Proofs.Json.Order
import ReviewFeed.Proofs.Json.Tokens

/-!
# Written values read back

Reading what was written for a legible value gives that value, with the members of
its objects in the order of their keys.
-/

namespace ReviewFeed.Json

/-- The characters that an integer starts with. -/
def StartsInteger (c : Char) : Prop :=
  c = '-' ∨ c.isDigit = true

theorem StartsInteger.ne {c : Char} (starts : StartsInteger c) (other : Char)
    (notMinus : other ≠ '-') (notDigit : other.isDigit = false) : c ≠ other := by
  rintro rfl
  rcases starts with minus | digit
  · exact notMinus minus
  · rw [digit] at notDigit
    cases notDigit

theorem StartsInteger.not_isSpace {c : Char} (starts : StartsInteger c) :
    isSpace c = false := by
  simp only [isSpace, Bool.or_eq_false_iff, beq_eq_false_iff_ne]
  exact ⟨⟨⟨starts.ne ' ' (by decide) rfl, starts.ne '\t' (by decide) rfl⟩,
    starts.ne '\n' (by decide) rfl⟩, starts.ne '\r' (by decide) rfl⟩

theorem signedDigits_eq_cons (n : Int) :
    ∃ first more, Text.signedDigits n = first :: more ∧ StartsInteger first := by
  cases n with
  | ofNat n =>
      cases written : Text.digits n with
      | nil => exact absurd written (Text.digits_ne_nil n)
      | cons first more =>
          have digit := Text.isDigit_of_mem_digits (n := n) (written ▸ List.mem_cons_self)
          exact ⟨first, more, written, .inr digit⟩
  | negSucc n => exact ⟨'-', _, rfl, .inl rfl⟩

/-- No legible value starts with a blank or the end of an array. -/
theorem write_eq_cons {depth : Nat} {value : Json} (legible : Legible depth value) :
    ∃ first more, write value = first :: more ∧ isSpace first = false ∧ first ≠ ']' := by
  cases legible with
  | null => exact ⟨'n', _, rfl, rfl, by decide⟩
  | bool depth value => cases value <;> exact ⟨_, _, rfl, rfl, by decide⟩
  | @integer depth n word =>
      obtain ⟨first, more, written, starts⟩ := signedDigits_eq_cons n
      exact ⟨first, more, written, starts.not_isSpace, starts.ne ']' (by decide) rfl⟩
  | string depth text => exact ⟨'\x22', _, rfl, rfl, by decide⟩
  | array each => exact ⟨'[', _, rfl, rfl, by decide⟩
  | object distinct each => exact ⟨'\x7b', _, rfl, rfl, by decide⟩

theorem skipSpace_cons {first : Char} (solid : isSpace first = false) (more : List Char) :
    skipSpace (first :: more) = first :: more := by
  rw [skipSpace, List.dropWhile_cons, solid]
  rfl

theorem Ends.skipSpace {rest : List Char} (ends : Ends rest) : skipSpace rest = rest := by
  cases ends <;> rfl

/-- What starts with no bracket is a scalar, at every depth. -/
theorem readValue_scalar (depth : Nat) {first : Char} {more : List Char}
    (solid : isSpace first = false) (noArray : first ≠ '[') (noObject : first ≠ '\x7b') :
    readValue depth (first :: more) = readScalar (first :: more) := by
  cases depth with
  | zero =>
      rw [readValue, skipSpace_cons solid]
      split
      · rename_i same
        exact absurd (List.cons.inj same).1 noArray
      · rename_i same
        exact absurd (List.cons.inj same).1 noObject
      · rfl
  | succ depth =>
      rw [readValue, skipSpace_cons solid]
      split
      · rename_i same
        exact absurd (List.cons.inj same).1 noArray
      · rename_i same
        exact absurd (List.cons.inj same).1 noObject
      · rfl

theorem readScalar_number {first : Char} {more : List Char} (starts : StartsInteger first) :
    readScalar (first :: more) =
      (readNumber (first :: more)).map (fun (value, rest) => (.number value, rest)) := by
  unfold readScalar
  split
  case h_5 => rfl
  case h_1 same => exact absurd (List.cons.inj same).1 (starts.ne '\x22' (by decide) rfl)
  case h_2 same => exact absurd (List.cons.inj same).1 (starts.ne 'n' (by decide) rfl)
  case h_3 same => exact absurd (List.cons.inj same).1 (starts.ne 't' (by decide) rfl)
  case h_4 same => exact absurd (List.cons.inj same).1 (starts.ne 'f' (by decide) rfl)

theorem readValue_signedDigits (depth : Nat) {n : Int} {rest : List Char}
    (word : -9223372036854775808 ≤ n ∧ n ≤ 18446744073709551615) (ends : Ends rest) :
    readValue depth (Text.signedDigits n ++ rest) = some (.ofInt n, rest) := by
  have number := readNumber_signedDigits word ends
  obtain ⟨first, more, written, starts⟩ := signedDigits_eq_cons n
  rw [written, List.cons_append] at number ⊢
  rw [readValue_scalar depth starts.not_isSpace (starts.ne '[' (by decide) rfl)
    (starts.ne '\x7b' (by decide) rfl), readScalar_number starts, number]
  rfl

theorem readValue_writeString (depth : Nat) (text : String) (rest : List Char) :
    readValue depth (writeString text ++ rest) = some (.string text, rest) := by
  rw [writeString, List.cons_append, List.append_assoc, List.singleton_append,
    readValue_scalar depth rfl (by decide) (by decide), readScalar,
    readString_flatMap_escape]
  rfl

section Nested

variable {item : List Char → Option (Json × List Char)}

/-- A reader of items reads a value that was written, up to whatever ends it. -/
def Reads (item : List Char → Option (Json × List Char)) (value : Json) : Prop :=
  ∀ rest, Ends rest → item (write value ++ rest) = some (value.sorted, rest)

theorem writeItems_cons_cons (value next : Json) (more : List Json) :
    writeItems (value :: next :: more) = write value ++ ',' :: writeItems (next :: more) := by
  rw [writeItems]
  exact List.cons_ne_nil next more

/-- Items that are read one by one are read together, given fuel for each. -/
theorem readItems_writeItems {items : List Json} (each : ∀ value ∈ items, Reads item value)
    (present : items ≠ []) (fuel : Nat) (enough : items.length ≤ fuel) (rest : List Char) :
    readItems item fuel (writeItems items ++ ']' :: rest) = some (items.map sorted, rest) := by
  induction items generalizing fuel with
  | nil => exact absurd rfl present
  | cons value more induction =>
      rw [List.forall_mem_cons] at each
      obtain ⟨first, others⟩ := each
      cases fuel with
      | zero => cases enough
      | succ fuel =>
          cases more with
          | nil =>
              rw [readItems, writeItems, first _ (.bracket rest)]
              rfl
          | cons next more =>
              have remaining := induction others (List.cons_ne_nil next more) fuel
                (Nat.le_of_succ_le_succ enough)
              rw [readItems, writeItems_cons_cons, List.append_assoc, List.cons_append,
                first _ (.comma _)]
              simp only [Option.bind_eq_bind, Option.bind_some, (Ends.comma _).skipSpace,
                remaining, List.map_cons]

/-- The members written from some member on. -/
theorem writeMembers_cons (key : String) (value : Json) (more : Members) :
    writeMembers ((key, value) :: more) =
      writeString key ++ ':' :: (write value ++
        match more with
        | [] => []
        | next :: more => ',' :: writeMembers (next :: more)) := by
  cases more with
  | nil => rw [writeMembers, List.append_nil]
  | cons next more =>
      rw [writeMembers]
      exact List.cons_ne_nil next more

theorem readMembers_comma {key : String} {value : Json} (reads : Reads item value)
    (fuel : Nat) (rest : List Char) :
    readMembers item (fuel + 1) (writeString key ++ ':' :: (write value ++ ',' :: rest)) =
      (readMembers item fuel rest).map
        (fun (more, rest) => ((key, value.sorted) :: more, rest)) := by
  rw [readMembers, writeString, List.cons_append, skipSpace_cons rfl, List.append_assoc,
    List.singleton_append]
  simp only [readString_flatMap_escape, Option.bind_eq_bind, Option.bind_some,
    skipSpace_cons (show isSpace ':' = false from rfl), reads _ (.comma rest),
    (Ends.comma rest).skipSpace]
  cases readMembers item fuel rest <;> rfl

theorem readMembers_last {key : String} {value : Json} (reads : Reads item value)
    (fuel : Nat) (rest : List Char) :
    readMembers item (fuel + 1) (writeString key ++ ':' :: (write value ++ '\x7d' :: rest)) =
      some ([(key, value.sorted)], rest) := by
  rw [readMembers, writeString, List.cons_append, skipSpace_cons rfl, List.append_assoc,
    List.singleton_append]
  simp only [readString_flatMap_escape, Option.bind_eq_bind, Option.bind_some,
    skipSpace_cons (show isSpace ':' = false from rfl), reads _ (.brace rest),
    (Ends.brace rest).skipSpace]

/-- Members whose values are read one by one are read together, given fuel for each. -/
theorem readMembers_writeMembers {members : Members}
    (each : ∀ member ∈ members, Reads item member.2)
    (present : members ≠ []) (fuel : Nat) (enough : members.length ≤ fuel) (rest : List Char) :
    readMembers item fuel (writeMembers members ++ '\x7d' :: rest) =
      some (members.map (fun member => (member.1, member.2.sorted)), rest) := by
  induction members generalizing fuel with
  | nil => exact absurd rfl present
  | cons member more induction =>
      obtain ⟨key, value⟩ := member
      rw [List.forall_mem_cons] at each
      obtain ⟨first, others⟩ := each
      cases fuel with
      | zero => cases enough
      | succ fuel =>
          rw [writeMembers_cons, List.append_assoc, List.cons_append, List.append_assoc]
          cases more with
          | nil => exact readMembers_last first fuel rest
          | cons next more =>
              have remaining := induction others (List.cons_ne_nil next more) fuel
                (Nat.le_of_succ_le_succ enough)
              rw [List.cons_append, readMembers_comma first, remaining]
              rfl

end Nested

theorem length_le_writeItems (items : List Json) (each : ∀ value ∈ items, write value ≠ []) :
    items.length ≤ (writeItems items).length := by
  induction items with
  | nil => exact Nat.zero_le _
  | cons value more induction =>
      rw [List.forall_mem_cons] at each
      have first := List.length_pos_iff.mpr each.1
      cases more with
      | nil => exact first
      | cons next more =>
          have others := induction each.2
          rw [writeItems_cons_cons]
          simp only [List.length_cons, List.length_append] at others ⊢
          omega

theorem length_le_writeMembers (members : Members) :
    members.length ≤ (writeMembers members).length := by
  induction members with
  | nil => exact Nat.zero_le _
  | cons member more induction =>
      obtain ⟨key, value⟩ := member
      rw [writeMembers_cons]
      cases more with
      | nil => simp only [List.length_cons, List.length_append, List.length_nil]; omega
      | cons next more =>
          simp only [List.length_cons, List.length_append] at induction ⊢
          omega

theorem readValue_array {depth : Nat} {items : List Json}
    (legible : ∀ value ∈ items, Legible depth value)
    (each : ∀ value ∈ items, Reads (readValue depth) value) (rest : List Char) :
    readValue (depth + 1) ('[' :: (writeItems items ++ ']' :: rest)) =
      some (.array (items.map sorted), rest) := by
  rw [readValue, skipSpace_cons rfl]
  cases items with
  | nil => rfl
  | cons value more =>
      obtain ⟨first, others, written, solid, notEnd⟩ :=
        write_eq_cons (legible value List.mem_cons_self)
      obtain ⟨tail, start⟩ : ∃ tail, writeItems (value :: more) = first :: tail := by
        cases more with
        | nil => exact ⟨others, by rw [writeItems, written]⟩
        | cons next more => exact ⟨_, by rw [writeItems_cons_cons, written, List.cons_append]⟩
      have enough := length_le_writeItems (value :: more) (by
        intro item member
        obtain ⟨first, others, written, _⟩ := write_eq_cons (legible item member)
        rw [written]
        exact List.cons_ne_nil first others)
      have read := readItems_writeItems each (List.cons_ne_nil value more)
        (writeItems (value :: more) ++ ']' :: rest).length
        (by rw [List.length_append]; omega) rest
      rw [start, List.cons_append] at read ⊢
      simp only [skipSpace_cons solid]
      split
      · rename_i same
        exact absurd (List.cons.inj same).1 notEnd
      · rw [read]
        rfl

theorem readValue_object {depth : Nat} {members : Members}
    (each : ∀ member ∈ members, Reads (readValue depth) member.2) (rest : List Char) :
    readValue (depth + 1) ('\x7b' :: (writeMembers members ++ '\x7d' :: rest)) =
      some ((Json.object members).sorted, rest) := by
  rw [readValue, skipSpace_cons rfl, sorted_object]
  cases members with
  | nil => rfl
  | cons member more =>
      have enough := length_le_writeMembers (member :: more)
      have read := readMembers_writeMembers each (List.cons_ne_nil member more)
        (writeMembers (member :: more) ++ '\x7d' :: rest).length
        (by rw [List.length_append]; omega) rest
      rw [writeMembers_cons, writeString, List.cons_append, List.cons_append] at read ⊢
      simp only [skipSpace_cons (show isSpace '\x22' = false from rfl)]
      exact congrArg
        (Option.map (fun (pairs, rest) => (Json.object (Association.ofPairs pairs), rest))) read

/-- A legible value is read from its text, up to whatever ends it. -/
theorem readValue_write {depth : Nat} {value : Json} (legible : Legible depth value) :
    Reads (readValue depth) value := by
  -- Along the value: what is inside an array or object is read one level less deep.
  induction legible with
  | null depth =>
      intro rest _
      exact readValue_scalar depth rfl (by decide) (by decide)
  | bool depth value =>
      intro rest _
      cases value <;> exact readValue_scalar depth rfl (by decide) (by decide)
  | integer depth word =>
      intro rest ends
      exact readValue_signedDigits depth word ends
  | string depth text =>
      intro rest _
      exact readValue_writeString depth text rest
  | array each induction =>
      intro rest _
      rw [write, List.cons_append, List.append_assoc, List.singleton_append,
        readValue_array each induction, sorted_array]
  | object distinct each induction =>
      intro rest _
      rw [write, List.cons_append, List.append_assoc, List.singleton_append,
        readValue_object induction]

/-- A legible value is read from its text alone. -/
theorem read?_render {value : Json} (legible : Legible deepest value) :
    read? value.render = some value.sorted := by
  have read := readValue_write legible [] .nothing
  rw [List.append_nil] at read
  simp only [read?, render, String.toList_ofList, read, Option.bind_eq_bind, Option.bind_some,
    List.all_nil, if_true]

end ReviewFeed.Json
