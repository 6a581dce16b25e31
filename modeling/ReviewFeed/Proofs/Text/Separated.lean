import Mathlib.Data.List.Basic

/-!
# Cut at the first separator

What stands in front of the first separator of a list, and what stands behind it, can be
told from the list.
-/

namespace ReviewFeed.Separated

variable {α : Type} [BEq α] [LawfulBEq α] {separator : α} {front back other rest : List α}

theorem bne_of_mem (absent : separator ∉ front) :
    ∀ item ∈ front, (item != separator) = true := by
  intro item member
  rw [bne_iff_ne]
  rintro rfl
  exact absent member

theorem takeWhile_front (absent : separator ∉ front) :
    (front ++ separator :: back).takeWhile (· != separator) = front := by
  rw [List.takeWhile_append_of_pos (bne_of_mem absent), List.takeWhile_cons_of_neg (by simp),
    List.append_nil]

theorem dropWhile_front (absent : separator ∉ front) :
    (front ++ separator :: back).dropWhile (· != separator) = separator :: back := by
  rw [List.dropWhile_append_of_pos (bne_of_mem absent), List.dropWhile_cons_of_neg (by simp)]

theorem unique (absent : separator ∉ front) (missing : separator ∉ other)
    (same : front ++ separator :: back = other ++ separator :: rest) :
    front = other ∧ back = rest := by
  have fronts := congrArg (List.takeWhile (· != separator)) same
  have backs := congrArg (List.dropWhile (· != separator)) same
  rw [takeWhile_front absent, takeWhile_front missing] at fronts
  rw [dropWhile_front absent, dropWhile_front missing] at backs
  exact ⟨fronts, (List.cons.inj backs).2⟩

end ReviewFeed.Separated
