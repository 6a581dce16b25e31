import Mathlib.Data.List.DropRight
import ReviewFeed.Proofs.Query.Words
import ReviewFeed.Proofs.Text.Separated

/-!
# Queries recovered from commands

A command keeps all of its query.  No word in front of the text has a quote in it, and
escaping puts a backslash before each quote of the text, so that the text is what stands
between the first quote and the last one, with these backslashes taken out again.  What
stands in front of the first quote are the words for the sections.
-/

namespace ReviewFeed

namespace Text

/-- What lies between the first and the last double quote. -/
def betweenQuotes (line : List Char) : List Char :=
  ((line.dropWhile (· != '\x22')).tail.rdropWhile (· != '\x22')).dropLast

/-- Replaces each backslash with a quote behind it, from left to right, by the quote. -/
def unescapeQuotes : List Char → List Char
  | [] => []
  | '\\' :: '\x22' :: rest => '\x22' :: unescapeQuotes rest
  | c :: rest => c :: unescapeQuotes rest

theorem betweenQuotes_quoted {before inner : List Char} (unquoted : '\x22' ∉ before) :
    betweenQuotes (before ++ '\x22' :: (inner ++ ['\x22'])) = inner := by
  rw [betweenQuotes, Separated.dropWhile_front unquoted, List.tail_cons,
    List.rdropWhile_concat_neg _ _ _ (by decide), List.dropLast_concat]

theorem unescapeQuotes_other {c : Char} {rest : List Char}
    (noEscape : c = '\\' → rest.head? ≠ some '\x22') :
    unescapeQuotes (c :: rest) = c :: unescapeQuotes rest := by
  rw [unescapeQuotes]
  rintro more rfl rfl
  exact noEscape rfl rfl

end Text

namespace Query

open Text

/-- Escaped texts begin with no quote. -/
theorem head?_quoteEscaped (text : List Char) :
    (quoteEscaped text).head? ≠ some '\x22' := by
  cases text with
  | nil => decide
  | cons c text =>
      rw [quoteEscaped_cons]
      split
      · rw [List.cons_append, List.head?_cons]
        decide
      · rename_i noQuote
        simpa using noQuote

theorem unescapeQuotes_quoteEscaped (text : List Char) :
    unescapeQuotes (quoteEscaped text) = text := by
  induction text with
  | nil => rfl
  | cons c text induction =>
      rw [quoteEscaped_cons]
      split
      · rename_i quote
        subst quote
        exact congrArg ('\x22' :: ·) induction
      · -- A quote behind this character has its own backslash, which this character is not.
        rw [List.singleton_append, unescapeQuotes_other (fun _ => head?_quoteEscaped text),
          induction]

/-- The part of a command before its text. -/
def row (query : Query) : List Char :=
  query.words.flatMap (fun word => word.toList ++ [' '])

theorem toList_command (query : Query) :
    query.command.toList =
      query.row ++ '\x22' :: (quoteEscaped query.text.toList ++ ['\x22']) := by
  rw [command, String.toList_ofList, row]

theorem quote_not_mem_row (query : Query) : '\x22' ∉ query.row := by
  intro quoted
  obtain ⟨word, member, inside⟩ := List.mem_flatMap.mp quoted
  rcases List.mem_append.mp inside with spelled | separator
  · have bare := (query.words_bare word member).2 _ spelled
    exact absurd bare (by decide)
  · exact absurd separator (by decide)

/-- The text of a query, taken from its command. -/
def recoveredText (command : String) : String :=
  String.ofList (unescapeQuotes (betweenQuotes command.toList))

theorem recoveredText_command (query : Query) : recoveredText query.command = query.text := by
  rw [recoveredText, toList_command, betweenQuotes_quoted query.quote_not_mem_row,
    unescapeQuotes_quoteEscaped, String.ofList_toList]

theorem row_eq_of_command_eq {query other : Query} (same : query.command = other.command) :
    query.row = other.row := by
  have chars := congrArg String.toList same
  rw [toList_command, toList_command] at chars
  exact (Separated.unique query.quote_not_mem_row other.quote_not_mem_row chars).1

/-- The words of a row are found by splitting it again. -/
theorem words_eq_of_row_eq {query other : Query} (same : query.row = other.row) :
    query.words = other.words := by
  have split : ∀ query : Query, wordsFrom false none query.row = query.words := by
    intro query
    have found : wordsFrom false none (query.row ++ []) =
        query.words ++ wordsFrom false none [] := wordsFrom_row query.words_bare
    rwa [List.append_nil, wordsFrom, Option.map_none, Option.toList_none, List.append_nil]
      at found
  rw [← split query, ← split other, same]

theorem option_injective : Function.Injective Section.option := by
  intro part other same
  cases part <;> cases other <;> first | rfl | exact absurd same (by decide)

theorem includes_eq_of_words_eq {query other : Query} (same : query.words = other.words)
    (part : Section) : query.includes part = other.includes part := by
  have chosen : Section.all.filter query.includes = Section.all.filter other.includes := by
    rw [words, words, List.append_cancel_left_eq] at same
    exact List.map_injective_iff.mpr option_injective same
  have listed : part ∈ Section.all := by cases part <;> decide
  have member : ∀ query : Query,
      part ∈ Section.all.filter query.includes ↔ query.includes part = true := by
    intro query
    rw [List.mem_filter]
    exact and_iff_right listed
  rw [Bool.eq_iff_iff, ← member query, ← member other, chosen]

theorem command_congr {query other : Query} (texts : query.text = other.text)
    (parts : ∀ part, query.includes part = other.includes part) :
    query.command = other.command := by
  have same : query.includes = other.includes := funext parts
  rw [command, command, words, words, texts, same]

/-- Sets sections one after the other. -/
def setAll (settings : List (Section × Bool)) (query : Query) : Query :=
  settings.foldl (fun query setting => query.set setting.1 setting.2) query

/-- The last value that settings give to a section. -/
def lastGiven? (part : Section) (settings : List (Section × Bool)) : Option Bool :=
  settings.reverse.lookup part

theorem setAll_concat (settings : List (Section × Bool)) (part : Section) (enabled : Bool)
    (query : Query) :
    query.setAll (settings ++ [(part, enabled)]) = (query.setAll settings).set part enabled := by
  rw [setAll, List.foldl_concat]
  rfl

theorem text_setAll (settings : List (Section × Bool)) (query : Query) :
    (query.setAll settings).text = query.text := by
  induction settings using List.reverseRecOn with
  | nil => rfl
  | append_singleton settings setting induction =>
      rw [setAll_concat]
      exact induction

theorem includes_setAll (settings : List (Section × Bool)) (query : Query) (part : Section) :
    (query.setAll settings).includes part =
      (lastGiven? part settings).getD (query.includes part) := by
  induction settings using List.reverseRecOn with
  | nil => rfl
  | append_singleton settings setting induction =>
      rw [setAll_concat, lastGiven?, List.reverse_concat, List.lookup_cons]
      by_cases same : part = setting.1
      · rw [beq_iff_eq.mpr same]
        exact if_pos same
      · rw [beq_eq_false_iff_ne.mpr same]
        exact (if_neg same).trans induction

/-- However a query was set up, its command depends on the text and on the value last
given to each section, none counting as off.  Different queries have different commands,
and the text is what lies between the first and the last quote of the command, with the
backslashes before quotes taken out. -/
theorem command_canonical :
    (∀ text settings part, ((ofText text).setAll settings).text = text ∧
      ((ofText text).setAll settings).includes part = (lastGiven? part settings).getD false) ∧
    (∀ text settings others, (∀ part, lastGiven? part settings = lastGiven? part others) →
      ((ofText text).setAll settings).command = ((ofText text).setAll others).command) ∧
    (∀ query other : Query, query.command = other.command ↔
      query.text = other.text ∧ ∀ part, query.includes part = other.includes part) ∧
    ∀ query : Query, recoveredText query.command = query.text := by
  refine ⟨?_, ?_, ?_, recoveredText_command⟩
  · intro text settings part
    exact ⟨text_setAll settings (ofText text), includes_setAll settings (ofText text) part⟩
  · intro text settings others agree
    apply command_congr
    · rw [text_setAll, text_setAll]
    · intro part
      rw [includes_setAll, includes_setAll, agree part]
  · intro query other
    constructor
    · intro same
      have texts := congrArg recoveredText same
      rw [recoveredText_command, recoveredText_command] at texts
      exact ⟨texts, includes_eq_of_words_eq (words_eq_of_row_eq (row_eq_of_command_eq same))⟩
    · rintro ⟨texts, parts⟩
      exact command_congr texts parts

/-- Two ways to ask for the comments only, with a text that looks like options, ends with
a backslash and has one in front of a quote. -/
theorem command_canonical_alike :
    let text := " --files\\\" \"--comments\" \\"
    let settings := [(Section.files, true), (.comments, true), (.files, false)]
    let others := [(Section.comments, false), (.files, false), (.comments, true)]
    (∀ part, lastGiven? part settings = lastGiven? part others) ∧
      ((ofText text).setAll settings).command = ((ofText text).setAll others).command ∧
      recoveredText ((ofText text).setAll settings).command = text := by
  have agree : ∀ part,
      lastGiven? part [(Section.files, true), (.comments, true), (.files, false)] =
        lastGiven? part [(Section.comments, false), (.files, false), (.comments, true)] := by
    intro part
    cases part <;> rfl
  obtain ⟨-, last, -, recovered⟩ := command_canonical
  exact ⟨agree, last _ _ _ agree, recovered _⟩

end Query

end ReviewFeed
