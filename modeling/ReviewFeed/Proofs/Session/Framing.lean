import ReviewFeed.Proofs.Session.Stream

/-!
# Lines written and read

A text is written as a line with one of two terminators behind it, and the last text may
go without.  What is read are the texts again: the terminator is dropped, and the bytes of
a text hold none.  A line feed ends its line whatever the bytes around it are, so that no
line depends on another.
-/

namespace ReviewFeed

namespace Lines

/-- What is written behind the text of a line. -/
inductive Terminator
  | lineFeed
  | carriageReturnLineFeed
  deriving DecidableEq, Repr

def Terminator.bytes : Terminator → List UInt8
  | .lineFeed => [Lines.lineFeed]
  | .carriageReturnLineFeed => [carriageReturn, Lines.lineFeed]

/-- A text that can be told from its terminator. -/
structure IsLineText (text : String) : Prop where
  withoutLineFeed : '\n' ∉ text.toList
  notReturning : text.toList.getLast? ≠ some '\r'

/-- The bytes of texts written as lines, and of a last one without a terminator. -/
def write (lines : List (String × Terminator)) (last : Option String) : List UInt8 :=
  lines.flatMap (fun line => Utf8.encode line.1.toList ++ line.2.bytes) ++
    last.toList.flatMap (fun text => Utf8.encode text.toList)

section Split

variable {text front : List UInt8}

theorem split_feed (rest : List UInt8) : split (lineFeed :: rest) = [lineFeed] :: split rest := by
  rw [split, if_pos rfl]

theorem split_other {byte : UInt8} {rest line : List UInt8} {more : List (List UInt8)}
    (other : lineFeed ≠ byte) (found : split rest = line :: more) :
    split (byte :: rest) = (byte :: line) :: more := by
  rw [split, if_neg (Ne.symm other), found]

theorem split_row (without : lineFeed ∉ text) (rest : List UInt8) :
    split (text ++ lineFeed :: rest) = (text ++ [lineFeed]) :: split rest := by
  induction text with
  | nil => exact split_feed rest
  | cons byte text ih =>
      obtain ⟨other, without⟩ := List.ne_and_not_mem_of_not_mem_cons without
      exact split_other other (ih without)

theorem split_open (without : lineFeed ∉ text) (filled : text ≠ []) : split text = [text] := by
  induction text with
  | nil => exact absurd rfl filled
  | cons byte text ih =>
      obtain ⟨other, without⟩ := List.ne_and_not_mem_of_not_mem_cons without
      cases text with
      | nil => rw [split, if_neg (Ne.symm other), split]
      | cons next text => exact split_other other (ih without (List.cons_ne_nil next text))

/-- Behind a line feed the lines are those of the bytes there. -/
theorem split_append (ends : front.getLast? = some lineFeed) (back : List UInt8) :
    split (front ++ back) = split front ++ split back := by
  induction front with
  | nil => cases ends
  | cons byte front ih =>
      cases front with
      | nil =>
          rw [List.getLast?_singleton, Option.some.injEq] at ends
          rw [ends]
          exact split_row List.not_mem_nil back
      | cons next front =>
          have behind := ih (by rw [← ends, List.getLast?_cons_cons])
          have first := split_cut (List.cons_ne_nil next front)
          by_cases feed : lineFeed = byte
          · rw [← feed, List.cons_append, split_feed, behind, split_feed, List.cons_append]
          · rw [first] at behind
            exact (split_other feed behind).trans
              (congrArg (· ++ split back) (split_other feed first)).symm

theorem read_append (ends : front.getLast? = some lineFeed) (back : List UInt8) :
    read (front ++ back) = read front ++ read back := by
  rw [read, split_append ends, List.map_append]
  rfl

/-- The bytes of one line decide what is read of it, and nothing else. -/
theorem read_between {before : List UInt8}
    (ends : before = [] ∨ before.getLast? = some lineFeed) (without : lineFeed ∉ text)
    (after : List UInt8) :
    read (before ++ text ++ lineFeed :: after) =
      read before ++ decode (text ++ [lineFeed]) :: read after := by
  have row : read (text ++ lineFeed :: after) = decode (text ++ [lineFeed]) :: read after := by
    rw [read, split_row without]
    rfl
  rw [List.append_assoc]
  rcases ends with rfl | ends
  · exact row
  · rw [read_append ends, row]

end Split

section Texts

variable {text : String}

theorem IsLineText.lineFeed_not_mem (isText : IsLineText text) :
    lineFeed ∉ Utf8.encode text.toList := by
  intro member
  exact isText.withoutLineFeed (Utf8.mem_of_mem_encode (by decide) member)

theorem IsLineText.getLast?_ne (isText : IsLineText text) :
    (Utf8.encode text.toList).getLast? ≠ some carriageReturn := by
  intro last
  exact isText.notReturning (Utf8.getLast?_of_getLast?_encode (by decide) last)

theorem dropEnd_concat (byte : UInt8) (bytes : List UInt8) :
    dropEnd byte (bytes ++ [byte]) = bytes := by
  rw [dropEnd, if_pos List.getLast?_concat, List.dropLast_concat]

theorem dropEnd_other {byte : UInt8} {bytes : List UInt8} (other : bytes.getLast? ≠ some byte) :
    dropEnd byte bytes = bytes :=
  if_neg other

theorem IsLineText.decode (isText : IsLineText text) :
    Lines.decode (Utf8.encode text.toList) = text := by
  have noFeed : (Utf8.encode text.toList).getLast? ≠ some lineFeed := fun last =>
    isText.lineFeed_not_mem (List.mem_of_getLast? last)
  rw [Lines.decode, dropEnd_other noFeed, dropEnd_other isText.getLast?_ne,
    Utf8.decodeLossy_encode, String.ofList_toList]

/-- A terminator ends in a line feed, and before it there is what leaves the text. -/
theorem IsLineText.terminated (isText : IsLineText text) (terminator : Terminator) :
    ∃ row, lineFeed ∉ row ∧ dropEnd carriageReturn row = Utf8.encode text.toList ∧
      Utf8.encode text.toList ++ terminator.bytes = row ++ [lineFeed] := by
  have without := isText.lineFeed_not_mem
  cases terminator with
  | lineFeed => exact ⟨_, without, dropEnd_other isText.getLast?_ne, rfl⟩
  | carriageReturnLineFeed =>
      refine ⟨Utf8.encode text.toList ++ [carriageReturn], ?_, dropEnd_concat _ _, ?_⟩
      · rw [List.mem_append, List.mem_singleton]
        exact fun member => member.elim without (by decide)
      · rw [Terminator.bytes, List.append_assoc, List.singleton_append]

theorem IsLineText.read_row (isText : IsLineText text) (terminator : Terminator)
    (rest : List UInt8) :
    read (Utf8.encode text.toList ++ terminator.bytes ++ rest) = text :: read rest := by
  obtain ⟨row, without, stripped, ended⟩ := isText.terminated terminator
  have decoded : Lines.decode (row ++ [lineFeed]) = text := by
    rw [Lines.decode, dropEnd_concat, stripped, Utf8.decodeLossy_encode, String.ofList_toList]
  rw [ended, List.append_assoc, List.singleton_append, read, split_row without, List.map_cons,
    decoded]
  rfl

theorem IsLineText.read_open (isText : IsLineText text) (filled : text ≠ "") :
    read (Utf8.encode text.toList) = [text] := by
  have bytes : Utf8.encode text.toList ≠ [] := by
    intro none
    have chars := Utf8.decodeLossy_encode text.toList
    rw [none] at chars
    exact filled (String.toList_eq_nil_iff.mp chars.symm)
  rw [read, split_open isText.lineFeed_not_mem bytes, List.map_singleton, isText.decode]

/-- What was written is read. -/
theorem read_write {lines : List (String × Terminator)} {last : Option String}
    (texts : ∀ text ∈ lines.map Prod.fst ++ last.toList, IsLineText text)
    (filled : ∀ text ∈ last, text ≠ "") :
    read (write lines last) = lines.map Prod.fst ++ last.toList := by
  induction lines with
  | nil =>
      cases last with
      | none => rfl
      | some text =>
          have isText := texts text (List.mem_singleton.mpr rfl)
          rw [write, List.flatMap_nil, List.nil_append, Option.toList_some,
            List.flatMap_singleton, isText.read_open (filled text rfl)]
          rfl
  | cons line lines ih =>
      have isText := texts line.1 List.mem_cons_self
      have others := ih fun text member => texts text (List.mem_cons_of_mem line.1 member)
      rw [write, List.flatMap_cons, List.append_assoc, isText.read_row]
      exact congrArg (line.1 :: ·) others

end Texts

end Lines

namespace Reading

/-- Whether a read found a line. -/
def isLine : Reading → Bool
  | .line _ => true
  | _ => false

/-- The output is over, well or not. -/
def IsOver (reading : Reading) : Prop :=
  reading = .ended ∨ ∃ error, reading = .failed error

theorem IsOver.not_line {reading : Reading} (isOver : reading.IsOver) : reading.isLine = false := by
  rcases isOver with rfl | ⟨error, rfl⟩ <;> rfl

end Reading

theorem ExitStatus.ending_isOver (status : ExitStatus) (diagnostics : List UInt8) :
    (status.ending diagnostics).IsOver := by
  cases status with
  | code value =>
      rw [ending]
      split
      · exact .inr ⟨_, rfl⟩
      · exact .inl rfl
  | signal => exact .inl rfl

namespace ProcessStream

/-- Read to its end, a stream gives these lines. -/
def Finds (stream : ProcessStream) (lines : List String) : Prop :=
  ∃ ending : Reading, ending.IsOver ∧
    stream.answers (List.replicate (lines.length + 1) .nextLine) = lines.map .line ++ [ending]

theorem takeWhile_isLine {ending : Reading} (isOver : ending.IsOver) (lines : List String)
    (rest : List Reading) :
    (lines.map Reading.line ++ ending :: rest).takeWhile Reading.isLine =
      lines.map Reading.line := by
  have allLines : ∀ reading ∈ lines.map Reading.line, reading.isLine = true := by
    intro reading member
    obtain ⟨line, -, rfl⟩ := List.mem_map.mp member
    rfl
  rw [List.takeWhile_append_of_pos allLines, List.takeWhile_cons_of_neg (by simp [isOver.not_line]),
    List.append_nil]

/-- A stream of a child that ends gives the lines that its output is cut into. -/
theorem IsOpen.finds_iff {stream : ProcessStream} {status : ExitStatus}
    {diagnostics : List UInt8} (opened : stream.IsOpen status diagnostics)
    {lines : List String} : stream.Finds lines ↔ lines = Lines.read stream.unread := by
  have endingOver := status.ending_isOver diagnostics
  constructor
  · rintro ⟨ending, isOver, found⟩
    rw [opened.answers_reads] at found
    -- The answers are the first of those that a longer reading finds.
    have whole := List.take_append_drop (lines.length + 1)
      ((Lines.read stream.unread).map Reading.line ++
        status.ending diagnostics :: List.replicate (lines.length + 1) .ended)
    rw [found, List.append_assoc, List.singleton_append] at whole
    have fronts := congrArg (List.takeWhile Reading.isLine) whole
    rw [takeWhile_isLine isOver, takeWhile_isLine endingOver] at fronts
    exact List.map_injective_iff.mpr (fun _ _ same => Reading.line.inj same) fronts
  · rintro rfl
    exact ⟨_, endingOver, opened.answers_past 0⟩

/-- The output of a child that ends is read as the lines that it is cut into.  These are
the texts that were written, each with either terminator and the last perhaps with none.
What stands behind a line feed is read as if nothing were before it, so that the bytes of
a line, valid or not, are read into that line alone. -/
theorem lines_invert_writing :
    (∀ (child : Child) (status : ExitStatus), child.status = some status →
      (∀ lines, (start child).Finds lines ↔ lines = Lines.read child.output) ∧
      ∀ (rows : List (String × Lines.Terminator)) (last : Option String),
        (∀ text ∈ rows.map Prod.fst ++ last.toList, Lines.IsLineText text) →
        (∀ text ∈ last, text ≠ "") → child.output = Lines.write rows last →
        (start child).Finds (rows.map Prod.fst ++ last.toList)) ∧
    (∀ front back : List UInt8, front.getLast? = some Lines.lineFeed →
      Lines.read (front ++ back) = Lines.read front ++ Lines.read back) ∧
    ∀ before line after : List UInt8,
      before = [] ∨ before.getLast? = some Lines.lineFeed → Lines.lineFeed ∉ line →
      Lines.read (before ++ line ++ Lines.lineFeed :: after) =
        Lines.read before ++ Lines.decode (line ++ [Lines.lineFeed]) :: Lines.read after := by
  refine ⟨?_, fun front back ends => Lines.read_append ends back, ?_⟩
  · intro child status ends
    have opened := IsOpen.start ends
    refine ⟨fun lines => opened.finds_iff, ?_⟩
    intro rows last texts filled written
    rw [opened.finds_iff, start, written, Lines.read_write texts filled]
  · intro before line after ends without
    exact Lines.read_between ends without after

/-- Lines with both terminators, an empty one among them, and a last one without. -/
def mixedRows : List (String × Lines.Terminator) :=
  [("ä\rb", .carriageReturnLineFeed), ("", .lineFeed), ("c", .lineFeed)]

def mixedChild : Child :=
  { output := Lines.write mixedRows (some "d"), diagnostics := [], status := some .signal }

theorem lines_invert_writing_mixed :
    (start mixedChild).Finds ["ä\rb", "", "c", "d"] ∧
      Lines.read ([97, 10] ++ [0xC3, 10]) = Lines.read [97, 10] ++ Lines.read [0xC3, 10] ∧
      Lines.read ([97, 10] ++ [0xC3] ++ 10 :: [0xA4]) = ["a", "\uFFFD", "\uFFFD"] := by
  obtain ⟨written, apart, between⟩ := lines_invert_writing
  refine ⟨?_, apart [97, 10] [0xC3, 10] rfl, ?_⟩
  · apply (written mixedChild .signal rfl).2 mixedRows (some "d")
    · intro text member
      have each : text = "ä\rb" ∨ text = "" ∨ text = "c" ∨ text = "d" := by
        simpa [mixedRows] using member
      rcases each with rfl | rfl | rfl | rfl <;> exact ⟨by decide, by decide⟩
    · rintro text ⟨⟩
      decide
    · rfl
  · exact (between [97, 10] [0xC3] [0xA4] (.inr rfl) (by decide)).trans (by decide +kernel)

end ProcessStream

end ReviewFeed
