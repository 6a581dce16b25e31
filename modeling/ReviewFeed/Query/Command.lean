/-!
# Query commands

A query has a text and a choice of optional sections of its result.  Its command
names the chosen sections in a fixed order and then the text in double quotes.
-/

namespace ReviewFeed

inductive Section
  | patchSets
  | currentPatchSet
  | files
  | comments
  | commitMessage
  deriving DecidableEq, Repr

namespace Section

/-- Every section, in the order in which commands name them. -/
def all : List Section :=
  [.patchSets, .currentPatchSet, .files, .comments, .commitMessage]

def option : Section → String
  | .patchSets => "--patch-sets"
  | .currentPatchSet => "--current-patch-set"
  | .files => "--files"
  | .comments => "--comments"
  | .commitMessage => "--commit-message"

end Section

/-- A query: its text and the sections that it asks for. -/
structure Query where
  text : String
  includes : Section → Bool

namespace Query

def ofText (text : String) : Query :=
  { text, includes := fun _ => false }

/-- Asks for a section, or no longer asks for it. -/
def set (part : Section) (enabled : Bool) (query : Query) : Query :=
  { query with includes := fun other => if other = part then enabled else query.includes other }

def asking (text : String) (parts : List Section) : Query :=
  parts.foldl (fun query part => query.set part true) (ofText text)

/-- A text with a backslash before every double quote. -/
def quoteEscaped (text : List Char) : List Char :=
  text.flatMap (fun c => if c = '\x22' then ['\\', '\x22'] else [c])

/-- The words of a command before its text. -/
def words (query : Query) : List String :=
  ["gerrit", "query", "--format=JSON"] ++
    (Section.all.filter query.includes).map Section.option

/-- The command that runs a query on the server. -/
def command (query : Query) : String :=
  String.ofList
    ((query.words.flatMap (fun word => word.toList ++ [' '])) ++
      '\x22' :: (quoteEscaped query.text.toList ++ ['\x22']))

end Query

end ReviewFeed
