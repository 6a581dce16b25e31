import Mathlib.Data.List.Basic
import Mathlib.Data.List.Induction
import ReviewFeed.Text.Utf8

/-!
# UTF-8 read back

The bytes of a character are decoded to that character, whatever follows.  Inside of a
character the bits already read leave no room for an ASCII character, so that a line
feed in a text comes from the byte of a line feed and from nothing else.  Nor has any
other character a byte of the ASCII range.
-/

namespace ReviewFeed.Utf8

theorem scan_cons (state : State) (byte : UInt8) (rest : List UInt8) :
    scan state (byte :: rest) =
      (advance state byte.toNat).1 ++ scan (advance state byte.toNat).2 rest := by
  cases state <;> rfl

section Encoded

theorem begin_ascii {code : Nat} (ascii : code ≤ 0x7F) :
    begin code = ([some (Char.ofNat code)], .between) := by
  unfold begin
  rw [if_pos (by omega)]

theorem begin_two {bits : Nat} (atLeast : 2 ≤ bits) (atMost : bits < 0x20) :
    begin (bits + 0xC0) = ([], .inside 1 0x80 0xBF bits) := by
  simp only [begin, Bool.and_eq_true, decide_eq_true_eq]
  rw [if_neg (by omega), if_pos (by omega), Nat.add_sub_cancel]

/-- The second byte of three is bounded so as to keep out what is shorter and the
surrogates. -/
theorem begin_three {code : Nat} (atLeast : 0x800 ≤ code) (atMost : code ≤ 0xFFFF)
    (scalar : code < 0xD800 ∨ 0xDFFF < code) :
    ∃ low high, begin (code / 4096 + 0xE0) = ([], .inside 2 low high (code / 4096)) ∧
      low ≤ code / 64 % 64 + 0x80 ∧ code / 64 % 64 + 0x80 ≤ high := by
  simp only [begin, Bool.and_eq_true, decide_eq_true_eq, beq_iff_eq]
  rw [if_neg (by omega), if_neg (by omega)]
  by_cases first : code / 4096 = 0
  · exact ⟨0xA0, 0xBF, by simp [first], by omega, by omega⟩
  by_cases last : code / 4096 = 0xD
  · exact ⟨0x80, 0x9F, by simp [last], by omega, by omega⟩
  refine ⟨0x80, 0xBF, ?_, by omega, by omega⟩
  rw [if_neg (by omega), if_neg (by omega), if_pos (by omega), Nat.add_sub_cancel]

/-- The second byte of four is bounded so as to keep out what is shorter and what is
beyond the last character. -/
theorem begin_four {code : Nat} (atLeast : 0x10000 ≤ code) (atMost : code < 0x110000) :
    ∃ low high, begin (code / 262144 + 0xF0) = ([], .inside 3 low high (code / 262144)) ∧
      low ≤ code / 4096 % 64 + 0x80 ∧ code / 4096 % 64 + 0x80 ≤ high := by
  simp only [begin, Bool.and_eq_true, decide_eq_true_eq, beq_iff_eq]
  rw [if_neg (by omega), if_neg (by omega), if_neg (by omega), if_neg (by omega),
    if_neg (by omega)]
  by_cases first : code / 262144 = 0
  · exact ⟨0x90, 0xBF, by simp [first], by omega, by omega⟩
  by_cases last : code / 262144 = 4
  · exact ⟨0x80, 0x8F, by simp [last], by omega, by omega⟩
  refine ⟨0x80, 0xBF, ?_, by omega, by omega⟩
  rw [if_neg (by omega), if_pos (by omega), Nat.add_sub_cancel]

theorem advance_last {low high bits byte : Nat} (atLeast : low ≤ byte) (atMost : byte ≤ high) :
    advance (.inside 1 low high bits) byte =
      ([some (Char.ofNat (bits * 0x40 + (byte - 0x80)))], .between) := by
  simp [advance, atLeast, atMost]

theorem advance_more {owed low high bits byte : Nat} (several : 1 < owed) (atLeast : low ≤ byte)
    (atMost : byte ≤ high) :
    advance (.inside owed low high bits) byte =
      ([], .inside (owed - 1) 0x80 0xBF (bits * 0x40 + (byte - 0x80))) := by
  have notLast : owed ≠ 1 := by omega
  simp [advance, atLeast, atMost, notLast]

theorem scan_ascii {code : Nat} (ascii : code ≤ 0x7F) (rest : List UInt8) :
    scan .between (UInt8.ofNat code :: rest) = some (Char.ofNat code) :: scan .between rest := by
  have byte : (UInt8.ofNat code).toNat = code := by simp; omega
  rw [scan_cons, byte, advance, begin_ascii ascii]
  rfl

theorem scan_two {code : Nat} (atLeast : 0x80 ≤ code) (atMost : code ≤ 0x7FF)
    (rest : List UInt8) :
    scan .between (UInt8.ofNat (code / 64 % 32 + 192) :: UInt8.ofNat (code % 64 + 128) :: rest) =
      some (Char.ofNat code) :: scan .between rest := by
  have first : (UInt8.ofNat (code / 64 % 32 + 192)).toNat = code / 64 + 0xC0 := by simp; omega
  have second : (UInt8.ofNat (code % 64 + 128)).toNat = code % 64 + 0x80 := by simp; omega
  have whole : code / 64 * 0x40 + (code % 64 + 0x80 - 0x80) = code := by omega
  rw [scan_cons, first, advance, begin_two (by omega) (by omega), scan_cons, second,
    advance_last (by omega) (by omega), whole]
  rfl

theorem scan_three {code : Nat} (atLeast : 0x800 ≤ code) (atMost : code ≤ 0xFFFF)
    (scalar : code < 0xD800 ∨ 0xDFFF < code) (rest : List UInt8) :
    scan .between (UInt8.ofNat (code / 4096 % 16 + 224) :: UInt8.ofNat (code / 64 % 64 + 128) ::
        UInt8.ofNat (code % 64 + 128) :: rest) =
      some (Char.ofNat code) :: scan .between rest := by
  have first : (UInt8.ofNat (code / 4096 % 16 + 224)).toNat = code / 4096 + 0xE0 := by
    simp; omega
  have second : (UInt8.ofNat (code / 64 % 64 + 128)).toNat = code / 64 % 64 + 0x80 := by
    simp; omega
  have third : (UInt8.ofNat (code % 64 + 128)).toNat = code % 64 + 0x80 := by simp; omega
  have whole : (code / 4096 * 0x40 + (code / 64 % 64 + 0x80 - 0x80)) * 0x40 +
      (code % 64 + 0x80 - 0x80) = code := by omega
  obtain ⟨low, high, begun, above, below⟩ := begin_three atLeast atMost scalar
  rw [scan_cons, first, advance, begun, scan_cons, second,
    advance_more (by decide) above below, scan_cons, third,
    advance_last (by omega) (by omega), whole]
  rfl

theorem scan_four {code : Nat} (atLeast : 0x10000 ≤ code) (atMost : code < 0x110000)
    (rest : List UInt8) :
    scan .between (UInt8.ofNat (code / 262144 % 8 + 240) ::
        UInt8.ofNat (code / 4096 % 64 + 128) :: UInt8.ofNat (code / 64 % 64 + 128) ::
        UInt8.ofNat (code % 64 + 128) :: rest) =
      some (Char.ofNat code) :: scan .between rest := by
  have first : (UInt8.ofNat (code / 262144 % 8 + 240)).toNat = code / 262144 + 0xF0 := by
    simp; omega
  have second : (UInt8.ofNat (code / 4096 % 64 + 128)).toNat = code / 4096 % 64 + 0x80 := by
    simp; omega
  have third : (UInt8.ofNat (code / 64 % 64 + 128)).toNat = code / 64 % 64 + 0x80 := by
    simp; omega
  have fourth : (UInt8.ofNat (code % 64 + 128)).toNat = code % 64 + 0x80 := by simp; omega
  have whole : ((code / 262144 * 0x40 + (code / 4096 % 64 + 0x80 - 0x80)) * 0x40 +
      (code / 64 % 64 + 0x80 - 0x80)) * 0x40 + (code % 64 + 0x80 - 0x80) = code := by omega
  obtain ⟨low, high, begun, above, below⟩ := begin_four atLeast atMost
  rw [scan_cons, first, advance, begun, scan_cons, second,
    advance_more (by decide) above below, scan_cons, third,
    advance_more (by decide) (by omega) (by omega), scan_cons, fourth,
    advance_last (by omega) (by omega), whole]
  rfl

/-- The bytes of a character are one character, whatever follows. -/
theorem scan_char (c : Char) (rest : List UInt8) :
    scan .between (String.utf8EncodeChar c ++ rest) = some c :: scan .between rest := by
  have scalar : c.toNat < 0xD800 ∨ 0xDFFF < c.toNat ∧ c.toNat < 0x110000 := c.valid
  have code : c.val.toNat = c.toNat := rfl
  have same : Char.ofNat c.toNat = c := Char.ofNat_toNat c
  simp only [String.utf8EncodeChar, code]
  -- The cases are the lengths of the sequence.
  split_ifs with one two three
  · rw [List.singleton_append, scan_ascii one, same]
  · exact (scan_two (by omega) two rest).trans (by rw [same])
  · exact (scan_three (by omega) three (by omega) rest).trans (by rw [same])
  · exact (scan_four (by omega) (by omega) rest).trans (by rw [same])

theorem scan_encode (chars : List Char) : scan .between (encode chars) = chars.map some := by
  induction chars with
  | nil => rfl
  | cons c chars ih =>
      rw [encode, List.flatMap_cons, scan_char, List.map_cons]
      exact congrArg (some c :: ·) ih

/-- What is encoded is decoded. -/
theorem decode?_encode (chars : List Char) : decode? (encode chars) = some chars := by
  rw [decode?, scan_encode, List.mapM_map]
  exact List.mapM_pure.trans (congrArg some (List.map_id chars))

/-- Nothing of it is replaced. -/
theorem decodeLossy_encode (chars : List Char) : decodeLossy (encode chars) = chars := by
  rw [decodeLossy, scan_encode, List.map_map]
  exact List.map_id chars

end Encoded

section AsciiBytes

/-- A byte of the ASCII range is all that there is of its character. -/
theorem toNat_of_mem_encodeChar {c : Char} {byte : UInt8} (ascii : byte.toNat < 0x80)
    (member : byte ∈ String.utf8EncodeChar c) : c.toNat = byte.toNat := by
  have code : c.val.toNat = c.toNat := rfl
  simp only [String.utf8EncodeChar, code] at member
  split_ifs at member with one two three
  · cases List.mem_singleton.mp member
    simp
    omega
  all_goals
    simp only [List.mem_cons, List.not_mem_nil, or_false] at member
    rcases member with rfl | rfl | rfl | rfl
    all_goals
      simp at ascii
      omega

theorem eq_of_mem_encodeChar {c : Char} {byte : UInt8} (ascii : byte.toNat < 0x80)
    (member : byte ∈ String.utf8EncodeChar c) : c = Char.ofNat byte.toNat := by
  rw [← toNat_of_mem_encodeChar ascii member, Char.ofNat_toNat]

theorem mem_of_mem_encode {chars : List Char} {byte : UInt8} (ascii : byte.toNat < 0x80)
    (member : byte ∈ encode chars) : Char.ofNat byte.toNat ∈ chars := by
  obtain ⟨c, inside, part⟩ := List.mem_flatMap.mp member
  rw [← eq_of_mem_encodeChar ascii part]
  exact inside

theorem getLast?_of_getLast?_encode {chars : List Char} {byte : UInt8}
    (ascii : byte.toNat < 0x80) (last : (encode chars).getLast? = some byte) :
    chars.getLast? = some (Char.ofNat byte.toNat) := by
  cases chars using List.reverseRecOn with
  | nil => cases last
  | append_singleton chars c =>
      rw [encode, List.flatMap_append, List.flatMap_singleton,
        List.getLast?_append_of_ne_nil _ String.utf8EncodeChar_ne_nil] at last
      rw [List.getLast?_concat, eq_of_mem_encodeChar ascii (List.mem_of_getLast? last)]

end AsciiBytes

section LineFeed

/-- No character under way is an ASCII character, whatever follows: the bits that it
has, or will have before its last byte, are at least those of the first other one. -/
def State.IsBeyondAscii : State → Prop
  | .between => True
  | .inside owed low _ bits => 0x80 ≤ low ∧ (2 ≤ bits ∨ 2 ≤ owed ∧ (0 < bits ∨ 0x82 ≤ low))

theorem ofNat_ne_lineFeed {code : Nat} (other : code ≠ 10) : Char.ofNat code ≠ '\n' := by
  intro same
  by_cases valid : code.isValidChar
  · have code_eq := congrArg Char.toNat same
    rw [Char.ofNat, dif_pos valid] at code_eq
    exact other code_eq
  · rw [Char.ofNat, dif_neg valid] at same
    exact absurd same (by decide)

theorem begin_beyond {byte : Nat} (other : byte ≠ 10) :
    some '\n' ∉ (begin byte).1 ∧ (begin byte).2.IsBeyondAscii := by
  unfold begin
  simp only [Bool.and_eq_true, decide_eq_true_eq, beq_iff_eq]
  -- The cases are those of the first byte.
  split_ifs with ascii
  · exact ⟨by simpa using (ofNat_ne_lineFeed other).symm, trivial⟩
  case neg => exact ⟨by simp, trivial⟩
  all_goals
    refine ⟨List.not_mem_nil, by decide, ?_⟩
    omega

theorem advance_beyond {state : State} (beyond : state.IsBeyondAscii) {byte : Nat}
    (other : byte ≠ 10) :
    some '\n' ∉ (advance state byte).1 ∧ (advance state byte).2.IsBeyondAscii := by
  cases state with
  | between => exact begin_beyond other
  | inside owed low high bits =>
      obtain ⟨above, enough⟩ := beyond
      simp only [advance, Bool.and_eq_true, decide_eq_true_eq, beq_iff_eq]
      split_ifs with continues last
      · have high : bits * 0x40 + (byte - 0x80) ≠ 10 := by omega
        have distinct := ofNat_ne_lineFeed high
        exact ⟨by simpa using distinct.symm, trivial⟩
      · exact ⟨List.not_mem_nil, Nat.le_refl _, by omega⟩
      · obtain ⟨found, next⟩ := begin_beyond other
        exact ⟨by simpa using found, next⟩

theorem lineFeed_not_mem_scan (state : State) (beyond : state.IsBeyondAscii)
    {bytes : List UInt8} (without : 10 ∉ bytes) : some '\n' ∉ scan state bytes := by
  induction bytes generalizing state with
  | nil => cases state <;> simp [scan]
  | cons byte rest ih =>
      rw [List.mem_cons, not_or] at without
      obtain ⟨here, behind⟩ := without
      have other : byte.toNat ≠ 10 := fun same => here (UInt8.toNat_inj.mp same.symm)
      obtain ⟨found, next⟩ := advance_beyond beyond other
      rw [scan_cons, List.mem_append]
      exact fun member => member.elim found (ih _ next behind)

/-- Bytes without a line feed have a text without one. -/
theorem lineFeed_not_mem_decodeLossy {bytes : List UInt8} (without : 10 ∉ bytes) :
    '\n' ∉ decodeLossy bytes := by
  have scanned := lineFeed_not_mem_scan .between trivial without
  rw [decodeLossy, List.mem_map]
  rintro ⟨found, member, same⟩
  cases found with
  | none => exact absurd same (by decide)
  | some c =>
      cases same
      exact scanned member

end LineFeed

end ReviewFeed.Utf8
