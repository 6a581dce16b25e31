import ReviewFeed.Proofs.Text.Utf8
import ReviewFeed.Text.Blank
import ReviewFeed.Text.Lines

/-!
# One line of text after the other

Bytes are cut into the same lines whether all at once or one line at a time.  Line feeds
are only at the ends of these lines, so that their texts have none, and neither has what
is left of a text without its blank ends.
-/

namespace ReviewFeed

namespace Lines

theorem split_cut {bytes : List UInt8} (some : bytes ≠ []) :
    split bytes = (cut bytes).1 :: split (cut bytes).2 := by
  induction bytes with
  | nil => exact absurd rfl some
  | cons byte rest ih =>
      by_cases feed : byte = lineFeed
      · rw [split, if_pos feed, cut, if_pos feed]
      · rw [split, if_neg feed, cut, if_neg feed]
        cases rest with
        | nil => rfl
        | cons next rest => rw [ih (List.cons_ne_nil next rest)]

theorem cut_isEmpty (bytes : List UInt8) : (cut bytes).1.isEmpty = bytes.isEmpty := by
  cases bytes with
  | nil => rfl
  | cons byte rest =>
      rw [cut]
      split <;> rfl

/-- The first line of some bytes is read first, and then the lines behind it. -/
theorem read_cut {bytes : List UInt8} (some : bytes ≠ []) :
    read bytes = decode (cut bytes).1 :: read (cut bytes).2 := by
  rw [read, split_cut some]
  rfl

/-- A line feed ends its line. -/
theorem split_feeds {bytes line : List UInt8} (member : line ∈ split bytes) :
    ∃ text, lineFeed ∉ text ∧ (line = text ∨ line = text ++ [lineFeed]) := by
  induction bytes generalizing line with
  | nil => cases member
  | cons byte rest ih =>
      rw [split] at member
      split_ifs at member with feed
      · rcases List.mem_cons.mp member with rfl | behind
        · exact ⟨[], List.not_mem_nil, .inr (by rw [feed]; rfl)⟩
        · exact ih behind
      · have other : lineFeed ≠ byte := fun same => feed same.symm
        cases found : split rest with
        | nil =>
            rw [found, List.mem_singleton] at member
            exact ⟨[byte], by simpa using other, .inl member⟩
        | cons first more =>
            rw [found] at member
            rcases List.mem_cons.mp member with rfl | behind
            · obtain ⟨text, without, shape⟩ := ih (found ▸ List.mem_cons_self)
              refine ⟨byte :: text, by simp [other, without], ?_⟩
              rcases shape with rfl | rfl
              · exact .inl rfl
              · exact .inr rfl
            · exact ih (found ▸ List.mem_cons_of_mem first behind)

theorem mem_of_mem_dropEnd {byte other : UInt8} {bytes : List UInt8}
    (member : other ∈ dropEnd byte bytes) : other ∈ bytes := by
  rw [dropEnd] at member
  split at member
  · exact (List.dropLast_sublist bytes).mem member
  · exact member

theorem lineFeed_not_mem_decode {bytes line : List UInt8} (member : line ∈ split bytes) :
    '\n' ∉ (decode line).toList := by
  obtain ⟨text, without, shape⟩ := split_feeds member
  have dropped : dropEnd lineFeed line = text := by
    rcases shape with rfl | rfl
    · refine if_neg fun last => without ?_
      exact List.mem_of_getLast? last
    · simp [dropEnd]
  have bare : 10 ∉ dropEnd carriageReturn (dropEnd lineFeed line) := by
    rw [dropped]
    exact fun inside => without (mem_of_mem_dropEnd inside)
  simpa [decode] using Utf8.lineFeed_not_mem_decodeLossy bare

/-- The text of a line has no line feed. -/
theorem lineFeed_not_mem_read {bytes : List UInt8} {line : String} (member : line ∈ read bytes) :
    '\n' ∉ line.toList := by
  obtain ⟨split, inside, rfl⟩ := List.mem_map.mp member
  exact lineFeed_not_mem_decode inside

end Lines

namespace Text

theorem mem_of_mem_trimList {c : Char} {chars : List Char} (member : c ∈ trimList chars) :
    c ∈ chars := by
  have front := (List.dropWhile_sublist isBlank).mem (List.mem_reverse.mp member)
  exact (List.dropWhile_sublist isBlank).mem (List.mem_reverse.mp front)

theorem mem_of_mem_trim {c : Char} {text : String} (member : c ∈ (trim text).toList) :
    c ∈ text.toList := by
  rw [trim, String.toList_ofList] at member
  exact mem_of_mem_trimList member

end Text

end ReviewFeed
