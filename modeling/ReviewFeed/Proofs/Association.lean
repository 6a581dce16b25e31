import ReviewFeed.Association

/-!
# Looking up in associations

What is found under a key, in pairs with distinct keys and in the association
made of them.  The keys of an association are in order, which makes it the only
one with what is found in it.
-/

namespace ReviewFeed.Association

theorem lookup_cons_eq_if (key present : String) (value : α) (rest : List (String × α)) :
    ((present, value) :: rest).lookup key =
      if key = present then some value else rest.lookup key := by
  rw [List.lookup_cons]
  by_cases same : key = present
  · rw [beq_iff_eq.mpr same, if_pos same]
  · rw [beq_eq_false_iff_ne.mpr same, if_neg same]

theorem lookup_map (write : String → α → β) (pairs : List (String × α)) (key : String) :
    (pairs.map (fun pair => (pair.1, write pair.1 pair.2))).lookup key =
      (pairs.lookup key).map (write key) := by
  induction pairs with
  | nil => rfl
  | cons pair rest induction =>
      rw [List.map_cons, List.lookup_cons, List.lookup_cons]
      cases same : key == pair.1 with
      | true => rw [eq_of_beq same, Option.map_some]
      | false => exact induction

theorem lookup_eq_none_of_not_mem {pairs : List (String × α)} {key : String}
    (fresh : key ∉ pairs.map Prod.fst) : pairs.lookup key = none := by
  rw [List.lookup_eq_none_iff]
  intro pair member
  have different : key ≠ pair.1 := by
    intro same
    exact fresh (same ▸ List.mem_map_of_mem member)
  simpa using different

theorem lookup_eq_some_of_mem {pairs : List (String × α)}
    (distinct : (pairs.map Prod.fst).Nodup) {key : String} {value : α}
    (member : (key, value) ∈ pairs) : pairs.lookup key = some value := by
  obtain ⟨before, after, rfl⟩ := List.append_of_mem member
  have fresh : key ∉ before.map Prod.fst := by
    intro early
    rw [List.map_append, List.nodup_append] at distinct
    exact distinct.2.2 key early key List.mem_cons_self rfl
  rw [List.lookup_append, lookup_eq_none_of_not_mem fresh, List.lookup_cons_self]
  rfl

theorem mem_of_lookup_eq_some {pairs : List (String × α)} {key : String} {value : α}
    (found : pairs.lookup key = some value) : (key, value) ∈ pairs := by
  obtain ⟨before, after, rfl, _⟩ := List.lookup_eq_some_iff.mp found
  exact List.mem_append_right before List.mem_cons_self

/-- The order of pairs with distinct keys does not matter. -/
theorem lookup_perm {pairs others : List (String × α)}
    (distinct : (pairs.map Prod.fst).Nodup) (same : others.Perm pairs) (key : String) :
    others.lookup key = pairs.lookup key := by
  cases found : pairs.lookup key with
  | some value =>
      refine lookup_eq_some_of_mem ((same.map Prod.fst).nodup_iff.mpr distinct) ?_
      exact same.mem_iff.mpr (mem_of_lookup_eq_some found)
  | none =>
      apply lookup_eq_none_of_not_mem
      intro present
      obtain ⟨pair, member, rfl⟩ := List.mem_map.mp present
      have bound := lookup_eq_some_of_mem distinct (same.mem_iff.mp member)
      cases found.symm.trans bound

/-- Values that are given to keys in order are found under the keys at their places. -/
theorem lookup_zip {keys : List String} (distinct : keys.Nodup) (values : List α)
    {place : Nat} {key : String} (placed : keys[place]? = some key) :
    (keys.zip values).lookup key = values[place]? := by
  induction keys generalizing values place with
  | nil => cases placed
  | cons first keys induction =>
      obtain ⟨fresh, distinct⟩ := List.nodup_cons.mp distinct
      cases values with
      | nil => rfl
      | cons value values =>
          rw [List.zip_cons_cons, lookup_cons_eq_if]
          cases place with
          | zero =>
              cases placed
              rw [if_pos rfl]
              rfl
          | succ place =>
              have later : keys[place]? = some key := placed
              have different : key ≠ first := by
                rintro rfl
                exact fresh (List.mem_of_getElem? later)
              rw [if_neg different, induction distinct values later]
              rfl

theorem zip_distinct {keys : List String} (distinct : keys.Nodup) (values : List α) :
    ((keys.zip values).map Prod.fst).Nodup := by
  induction keys generalizing values with
  | nil => exact List.nodup_nil
  | cons first keys induction =>
      obtain ⟨fresh, distinct⟩ := List.nodup_cons.mp distinct
      cases values with
      | nil => exact List.nodup_nil
      | cons value values =>
          refine List.nodup_cons.mpr ⟨?_, induction distinct values⟩
          intro again
          obtain ⟨⟨key, other⟩, member, rfl⟩ := List.mem_map.mp again
          exact fresh (List.of_mem_zip member).1

/-- Leaving out the bindings of one key hides no other key. -/
theorem lookup_filter_ne (key other : String) (pairs : List (String × α)) :
    (pairs.filter (fun pair => pair.1 != key)).lookup other =
      if other = key then none else pairs.lookup other := by
  induction pairs with
  | nil => simp
  | cons pair rest induction =>
      rw [List.filter_cons, lookup_cons_eq_if]
      by_cases dropped : pair.1 = key
      · rw [if_neg (by simp [dropped]), induction, dropped]
        by_cases same : other = key
        · rw [if_pos same, if_pos same]
        · rw [if_neg same, if_neg same, if_neg same]
      · rw [if_pos (by simp [dropped]), lookup_cons_eq_if, induction]
        by_cases same : other = pair.1
        · rw [if_pos same, if_neg (same ▸ dropped), if_pos same]
        · rw [if_neg same, if_neg same]

/-- The last binding of a key is found, and it hides no other key. -/
theorem lookup_bind (key other : String) (value : α) (entries : Association α) :
    (bind key value entries).lookup other =
      if other = key then some value else entries.lookup other := by
  induction entries with
  | nil => rw [bind, lookup_cons_eq_if]
  | cons entry rest induction =>
      obtain ⟨present, old⟩ := entry
      rw [bind, lookup_cons_eq_if]
      by_cases replaced : key = present
      · rw [if_pos replaced, lookup_cons_eq_if, replaced]
        by_cases same : other = present <;> simp only [same, if_true, if_false]
      · rw [if_neg replaced]
        split
        · rw [lookup_cons_eq_if, lookup_cons_eq_if]
        · rw [lookup_cons_eq_if, induction]
          by_cases same : other = present
          · rw [if_pos same, if_neg (same ▸ Ne.symm replaced), if_pos same]
          · rw [if_neg same, if_neg same]

/-- Putting pairs in order changes nothing that is looked up in them. -/
theorem lookup_ofPairs {pairs : List (String × α)} (distinct : (pairs.map Prod.fst).Nodup)
    (key : String) : (ofPairs pairs).lookup key = pairs.lookup key := by
  -- Pairs that are still to come hide what was bound before them.
  have folded : ∀ entries : Association α,
      (pairs.foldl (fun entries pair => bind pair.1 pair.2 entries) entries).lookup key =
        (pairs.lookup key).or (entries.lookup key) := by
    induction pairs with
    | nil => intro entries; rfl
    | cons pair rest induction =>
        intro entries
        rw [List.map_cons, List.nodup_cons] at distinct
        rw [List.foldl_cons, induction distinct.2, lookup_bind, lookup_cons_eq_if]
        by_cases same : key = pair.1
        · rw [if_pos same, if_pos same, same, lookup_eq_none_of_not_mem distinct.1]
          rfl
        · rw [if_neg same, if_neg same]
  refine (folded []).trans ?_
  rw [List.lookup_nil, Option.or_none]

/-- The keys come in ascending order, each of them once. -/
def InOrder (entries : Association α) : Prop :=
  (entries.map Prod.fst).Pairwise (· < ·)

theorem inOrder_cons {entry : String × α} {rest : Association α} :
    InOrder (entry :: rest) ↔ (∀ key ∈ rest.map Prod.fst, entry.1 < key) ∧ InOrder rest := by
  rw [InOrder, List.map_cons, List.pairwise_cons]
  rfl

theorem mem_keys_bind {key other : String} {value : α} {entries : Association α} :
    other ∈ (bind key value entries).map Prod.fst ↔
      other = key ∨ other ∈ entries.map Prod.fst := by
  induction entries with
  | nil => simp [bind]
  | cons entry rest induction =>
      obtain ⟨present, old⟩ := entry
      rw [bind]
      split
      · rename_i same
        simp [same]
      · split
        · simp
        · rw [List.map_cons, List.mem_cons, induction, List.map_cons, List.mem_cons,
            or_left_comm]

theorem inOrder_bind {key : String} {value : α} {entries : Association α}
    (ordered : InOrder entries) : InOrder (bind key value entries) := by
  induction entries with
  | nil => exact List.pairwise_singleton _ _
  | cons entry rest induction =>
      obtain ⟨present, old⟩ := entry
      obtain ⟨above, restOrdered⟩ := inOrder_cons.mp ordered
      rw [bind]
      split
      · rename_i same
        apply inOrder_cons.mpr
        exact ⟨same ▸ above, restOrdered⟩
      · rename_i different
        split
        · rename_i below
          apply inOrder_cons.mpr
          refine ⟨?_, ordered⟩
          intro other member
          rcases List.mem_cons.mp member with rfl | later
          · exact below
          · exact String.lt_trans below (above other later)
        · rename_i notBelow
          have behind : present < key :=
            Std.lt_of_le_of_ne (String.not_lt.mp notBelow) (Ne.symm different)
          apply inOrder_cons.mpr
          refine ⟨?_, induction restOrdered⟩
          intro other member
          rcases mem_keys_bind.mp member with rfl | later
          · exact behind
          · exact above other later

theorem InOrder.distinct {entries : Association α} (ordered : InOrder entries) :
    (entries.map Prod.fst).Nodup := by
  apply List.Pairwise.imp _ ordered
  rintro key _ below rfl
  exact String.lt_irrefl key below

/-- A member of an association is the one last bound or an earlier one. -/
theorem eq_or_mem_of_mem_bind {key : String} {value : α} {entries : Association α}
    (ordered : InOrder entries) {entry : String × α} (held : entry ∈ bind key value entries) :
    entry = (key, value) ∨ entry ∈ entries := by
  have found := lookup_eq_some_of_mem (inOrder_bind ordered).distinct held
  rw [lookup_bind] at found
  split at found
  · rename_i same
    exact .inl (Prod.ext same (Option.some.inj found).symm)
  · exact .inr (mem_of_lookup_eq_some found)

theorem isSome_lookup_iff {entries : List (String × α)} {key : String} :
    (entries.lookup key).isSome = true ↔ key ∈ entries.map Prod.fst := by
  induction entries with
  | nil => simp
  | cons entry rest induction =>
      rw [lookup_cons_eq_if, List.map_cons, List.mem_cons, ← induction]
      split
      · rename_i same
        simp [same]
      · rename_i different
        exact (or_iff_right different).symm

namespace InOrder

variable {entry other : String × α} {rest others : Association α}

/-- The first key is not found behind it. -/
theorem lookup_rest (ordered : InOrder (entry :: rest)) (key : String) :
    rest.lookup key = if key = entry.1 then none else (entry :: rest).lookup key := by
  rw [lookup_cons_eq_if]
  split
  · rename_i first
    apply lookup_eq_none_of_not_mem
    intro again
    exact String.lt_irrefl key (first ▸ (inOrder_cons.mp ordered).1 key again)
  · rfl

theorem first_eq (ordered : InOrder (entry :: rest)) (othersOrdered : InOrder (other :: others))
    (agree : ∀ key, (entry :: rest).lookup key = (other :: others).lookup key) :
    entry.1 = other.1 := by
  have keys : ∀ key, key ∈ (entry :: rest).map Prod.fst ↔ key ∈ (other :: others).map Prod.fst := by
    intro key
    rw [← isSome_lookup_iff, ← isSome_lookup_iff, agree key]
  rcases List.mem_cons.mp ((keys entry.1).mp List.mem_cons_self) with same | later
  · exact same
  rcases List.mem_cons.mp ((keys other.1).mpr List.mem_cons_self) with same | early
  · exact same.symm
  -- Each of the two would be below the other.
  have above := (inOrder_cons.mp ordered).1 _ early
  have below := (inOrder_cons.mp othersOrdered).1 _ later
  exact absurd below (String.lt_asymm above)

/-- Two associations in which the same is found are one. -/
theorem ext {entries others : Association α} (ordered : InOrder entries)
    (othersOrdered : InOrder others) (agree : ∀ key, entries.lookup key = others.lookup key) :
    entries = others := by
  induction entries generalizing others with
  | nil =>
      cases others with
      | nil => rfl
      | cons other others =>
          have found := agree other.1
          rw [List.lookup_cons_self] at found
          cases found
  | cons entry entries induction =>
      cases others with
      | nil =>
          have found := agree entry.1
          rw [List.lookup_cons_self] at found
          cases found
      | cons other others =>
          have sameKey := ordered.first_eq othersOrdered agree
          have values := agree entry.1
          rw [List.lookup_cons_self, sameKey, List.lookup_cons_self] at values
          have same : entry = other := Prod.ext sameKey (Option.some.inj values)
          subst same
          apply congrArg (entry :: ·)
          apply induction (inOrder_cons.mp ordered).2 (inOrder_cons.mp othersOrdered).2
          intro key
          rw [ordered.lookup_rest, othersOrdered.lookup_rest, agree key]

end InOrder

theorem inOrder_ofPairs (pairs : List (String × α)) : InOrder (ofPairs pairs) := by
  have folded : ∀ entries : Association α, InOrder entries →
      InOrder (pairs.foldl (fun entries pair => bind pair.1 pair.2 entries) entries) := by
    induction pairs with
    | nil => exact fun entries ordered => ordered
    | cons pair rest induction =>
        intro entries ordered
        exact induction _ (inOrder_bind ordered)
  exact folded [] List.Pairwise.nil

theorem InOrder.ofPairs_eq_self {entries : Association α} (ordered : InOrder entries) :
    ofPairs entries = entries :=
  (inOrder_ofPairs entries).ext ordered (lookup_ofPairs ordered.distinct)

end ReviewFeed.Association
