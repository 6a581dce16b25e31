import Mathlib.Data.List.Basic
import ReviewFeed.Query.Command
import ReviewFeed.Text.Blank

/-!
# Commands split into words

The server splits a command into words again.  It finds those that come before the text
of the query for every text.  The text itself is found exactly if there is no backslash
in it: commands put a backslash before quotes only, and the server takes a backslash of
the text for one of these.
-/

namespace ReviewFeed

namespace Text

/-- The words from some place of a line on: whether double quotes are open there, and
what has been read of the word under way, if there is one. -/
def wordsFrom (quoted : Bool) (word : Option (List Char)) : List Char → List String
  | [] => (word.map String.ofList).toList
  | '\\' :: c :: rest => wordsFrom quoted (some (word.getD [] ++ [c])) rest
  | c :: rest =>
      if c = '\x22' then wordsFrom (!quoted) (some (word.getD [])) rest
      else if isBlank c && !quoted then
        (word.map String.ofList).toList ++ wordsFrom quoted none rest
      else wordsFrom quoted (some (word.getD [] ++ [c])) rest

/-- The words of a line.  Blanks outside of quotes separate words, double quotes group
characters into one word, which may be empty, and are dropped, and a backslash is
dropped and takes the next character as it is. -/
def words (line : String) : List String :=
  wordsFrom false none line.toList

variable {quoted : Bool} {word : Option (List Char)} {read rest : List Char}

theorem wordsFrom_quote :
    wordsFrom quoted word ('\x22' :: rest) =
      wordsFrom (!quoted) (some (word.getD [])) rest := by
  cases rest <;> rfl

theorem wordsFrom_separator :
    wordsFrom false (some read) (' ' :: rest) =
      String.ofList read :: wordsFrom false none rest := by
  cases rest <;> rfl

/-- A character that stands for itself goes to the word under way. -/
theorem wordsFrom_other {c : Char} (noBackslash : c ≠ '\\') (noQuote : c ≠ '\x22')
    (inside : quoted = true ∨ isBlank c = false) :
    wordsFrom quoted word (c :: rest) =
      wordsFrom quoted (some (word.getD [] ++ [c])) rest := by
  have noSeparator : (isBlank c && !quoted) = false := by
    rcases inside with rfl | visible
    · simp
    · simp [visible]
  rw [wordsFrom]
  · rw [if_neg noQuote, if_neg (by simp [noSeparator])]
  · rintro next more rfl
    exact absurd rfl noBackslash

/-- Characters that stand for themselves also outside of quotes. -/
def isBare (c : Char) : Bool :=
  c != '\\' && c != '\x22' && !isBlank c

theorem isBare_iff {c : Char} :
    isBare c = true ↔ c ≠ '\\' ∧ c ≠ '\x22' ∧ isBlank c = false := by
  simp only [isBare, Bool.and_eq_true, bne_iff_ne, Bool.not_eq_true', and_assoc]

/-- Such characters make up a word, or are added to the one under way. -/
theorem wordsFrom_bare {first : Char} {more : List Char}
    (bare : ∀ c ∈ first :: more, isBare c = true) :
    wordsFrom false word (first :: more ++ rest) =
      wordsFrom false (some (word.getD [] ++ first :: more)) rest := by
  induction more generalizing word first with
  | nil =>
      obtain ⟨noBackslash, noQuote, visible⟩ := isBare_iff.mp (bare first List.mem_cons_self)
      exact wordsFrom_other noBackslash noQuote (.inr visible)
  | cons second more induction =>
      rw [List.forall_mem_cons] at bare
      obtain ⟨noBackslash, noQuote, visible⟩ := isBare_iff.mp bare.1
      rw [List.cons_append, wordsFrom_other noBackslash noQuote (.inr visible),
        induction bare.2, Option.getD_some, List.append_assoc, List.singleton_append]

/-- Words of such characters, each with a space behind it, are found again. -/
theorem wordsFrom_row {row : List String}
    (bare : ∀ word ∈ row, word.toList ≠ [] ∧ ∀ c ∈ word.toList, isBare c = true) :
    wordsFrom false none (row.flatMap (fun word => word.toList ++ [' ']) ++ rest) =
      row ++ wordsFrom false none rest := by
  induction row with
  | nil => rfl
  | cons word row induction =>
      rw [List.forall_mem_cons] at bare
      obtain ⟨⟨notEmpty, chars⟩, others⟩ := bare
      obtain ⟨first, more, spelled⟩ := List.exists_cons_of_ne_nil notEmpty
      rw [spelled] at chars
      rw [List.flatMap_cons, List.append_assoc, List.append_assoc, spelled,
        wordsFrom_bare chars, List.singleton_append, wordsFrom_separator, induction others,
        Option.getD_none, List.nil_append, ← spelled, String.ofList_toList, List.cons_append]

/-- How many backslashes it takes to have these characters as they are: one for each
quote, and two for each backslash, itself among them. -/
def backslashesFor (chars : List Char) : Nat :=
  chars.count '\x22' + 2 * chars.count '\\'

theorem backslashesFor_append (early late : List Char) :
    backslashesFor (early ++ late) = backslashesFor early + backslashesFor late := by
  simp only [backslashesFor, List.count_append]
  omega

/-- To have one character, one more backslash is enough. -/
theorem backslashesFor_singleton_le (c : Char) :
    backslashesFor [c] ≤ [c].count '\\' + 1 := by
  by_cases quote : c = '\x22'
  · subst quote
    decide
  · have noQuotes : [c].count '\x22' = 0 := List.count_eq_zero.mpr (by simpa using Ne.symm quote)
    have once := List.count_le_length (a := '\\') (l := [c])
    rw [List.length_singleton] at once
    rw [backslashesFor, noQuotes]
    omega

theorem backslashesFor_singleton_other {c : Char} (noBackslash : c ≠ '\\')
    (noQuote : c ≠ '\x22') : backslashesFor [c] = 0 := by
  simp [backslashesFor, noBackslash, noQuote]

theorem complete_tail {first : Char} (complete : (first :: rest).getLast? ≠ some '\\') :
    rest.getLast? ≠ some '\\' := by
  intro last
  rw [List.getLast?_cons, last] at complete
  exact complete rfl

/-- A line holds the backslashes that it takes to have the quotes and backslashes in its
words, unless it breaks off behind one. -/
theorem backslashesFor_words_le (quoted : Bool) (word : Option (List Char))
    (line : List Char) (complete : line.getLast? ≠ some '\\') :
    backslashesFor ((wordsFrom quoted word line).flatMap String.toList) ≤
      backslashesFor (word.getD []) + line.count '\\' := by
  fun_induction wordsFrom quoted word line with
  | case1 quoted word =>
      cases word with
      | none => exact Nat.zero_le _
      | some read => simp
  | case2 quoted word c rest induction =>
      have later := induction (complete_tail (complete_tail complete))
      have taken := backslashesFor_singleton_le c
      have counted : (c :: rest).count '\\' = [c].count '\\' + rest.count '\\' := by
        rw [← List.count_append, List.singleton_append]
      rw [Option.getD_some, backslashesFor_append] at later
      rw [List.count_cons_self, counted]
      omega
  | case3 quoted word rest _ induction =>
      have later := induction (complete_tail complete)
      rw [List.count_cons_of_ne (by decide)]
      exact later
  | case4 quoted word c rest _ noQuote separates induction =>
      have later : _ ≤ 0 + rest.count '\\' := induction (complete_tail complete)
      have done : ((word.map String.ofList).toList).flatMap String.toList = word.getD [] := by
        cases word <;> simp
      have counted := List.count_le_count_cons (a := '\\') (b := c) (l := rest)
      rw [List.flatMap_append, done, backslashesFor_append]
      omega
  | case5 quoted word c rest notEscape noQuote inside induction =>
      have later := induction (complete_tail complete)
      -- A backslash that takes nothing would be the last character.
      have noBackslash : c ≠ '\\' := by
        rintro rfl
        cases rest with
        | nil => exact complete rfl
        | cons next more => exact notEscape next more rfl rfl
      rw [Option.getD_some, backslashesFor_append,
        backslashesFor_singleton_other noBackslash noQuote] at later
      rwa [List.count_cons_of_ne noBackslash]

end Text

namespace Query

open Text

variable {quoted : Bool} {read rest : List Char}

theorem quoteEscaped_cons (c : Char) (text : List Char) :
    quoteEscaped (c :: text) =
      (if c = '\x22' then ['\\', '\x22'] else [c]) ++ quoteEscaped text :=
  List.flatMap_cons

/-- A text without backslashes is read inside of quotes as it was before it was escaped. -/
theorem wordsFrom_quoteEscaped {text : List Char} (clean : '\\' ∉ text) :
    wordsFrom true (some read) (quoteEscaped text ++ rest) =
      wordsFrom true (some (read ++ text)) rest := by
  induction text generalizing read with
  | nil => rw [List.append_nil]; rfl
  | cons c text induction =>
      rw [List.mem_cons, not_or] at clean
      have again : wordsFrom true (some (read ++ [c])) (quoteEscaped text ++ rest) =
          wordsFrom true (some (read ++ c :: text)) rest := by
        rw [induction clean.2, List.append_assoc, List.singleton_append]
      rw [quoteEscaped_cons]
      split
      · rename_i quote
        subst quote
        exact again
      · rename_i noQuote
        exact (wordsFrom_other (Ne.symm clean.1) noQuote (.inl rfl)).trans again

/-- Escaping adds one backslash for each quote and none for a backslash. -/
theorem count_quoteEscaped (text : List Char) :
    (quoteEscaped text).count '\\' = text.count '\x22' + text.count '\\' := by
  induction text with
  | nil => rfl
  | cons c text induction =>
      rw [quoteEscaped_cons, List.count_append, induction, List.count_cons, List.count_cons]
      by_cases quote : c = '\x22'
      · subst quote
        simp
        omega
      · simp [quote, List.count_singleton]
        omega

/-- The words before the text have no special characters. -/
theorem words_bare (query : Query) :
    ∀ word ∈ query.words, word.toList ≠ [] ∧ ∀ c ∈ word.toList, isBare c = true := by
  have fixed : (["gerrit", "query", "--format=JSON"] ++ Section.all.map Section.option).all
      (fun word => !word.toList.isEmpty && word.toList.all isBare) = true := by decide
  intro word member
  have among : word ∈ ["gerrit", "query", "--format=JSON"] ++ Section.all.map Section.option := by
    rcases List.mem_append.mp member with base | chosen
    · exact List.mem_append_left _ base
    · obtain ⟨part, inside, rfl⟩ := List.mem_map.mp chosen
      exact List.mem_append_right _ (List.mem_map_of_mem (List.mem_of_mem_filter inside))
  have bare := List.all_eq_true.mp fixed word among
  rwa [Bool.and_eq_true, Bool.not_eq_true', List.isEmpty_eq_false_iff, List.all_eq_true] at bare

/-- Whatever its text is, a command begins with the words for the query and its sections.
What follows is the text, as one word, exactly if there is no backslash in it. -/
theorem text_survives_iff (query : Query) :
    ∃ last, Text.words query.command =
        ["gerrit", "query", "--format=JSON"] ++
          (Section.all.filter query.includes).map Section.option ++ last ∧
      (last = [query.text] ↔ '\\' ∉ query.text.toList) := by
  refine ⟨wordsFrom true (some []) (quoteEscaped query.text.toList ++ ['\x22']), ?_, ?_⟩
  · rw [Text.words, command, String.toList_ofList, wordsFrom_row query.words_bare,
      wordsFrom_quote]
    rfl
  · constructor
    · intro survives
      have paid := backslashesFor_words_le true (some [])
        (quoteEscaped query.text.toList ++ ['\x22']) (by simp)
      rw [survives, List.flatMap_singleton, List.count_append, count_quoteEscaped] at paid
      have free : query.text.toList.count '\\' = 0 := by
        simp [backslashesFor] at paid
        omega
      exact List.count_eq_zero.mp free
    · intro clean
      rw [wordsFrom_quoteEscaped clean, wordsFrom_quote, List.nil_append]
      simp [wordsFrom]

/-- One text loses its backslash, and another one gets out of its quotes and adds an
option to the command. -/
theorem backslash_not_escaped :
    Text.words (ofText "a\\b").command ≠ (ofText "a\\b").words ++ ["a\\b"] ∧
      Text.words (ofText "\\\" --comments \\").command =
        (ofText "").words ++ ["\\", "--comments", "\""] := by
  decide

end Query

end ReviewFeed
