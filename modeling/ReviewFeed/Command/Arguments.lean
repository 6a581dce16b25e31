import ReviewFeed.Query.Command

/-!
# Command line arguments

A command line has options, the name of a command, and the options and values of
that command.  An option may be given once; only the settings file may be named
both before and behind the command's name, and the latter counts.  A value does
not begin with a hyphen, but a double hyphen takes all that follows as values.
-/

namespace ReviewFeed

/-- What a command line asks for. -/
inductive Command
  | query (query : Query) (raw : Bool)
  | files (change : String)
  | listen

/-- A command with the settings file to use and how much to log. -/
structure Invocation where
  settingsPath : Option String
  verbosity : Nat
  command : Command

inductive Request
  | run (invocation : Invocation)
  | version
  | help

namespace Arguments

/-- An option, with the value joined to it if there is one. -/
inductive Word
  | long (name : String) (value : Option String)
  /-- Options of one letter, written together. -/
  | short (letters : List Char)
  | value (text : String)
  | values

def Word.ofText (text : String) : Word :=
  match text.toList with
  | ['-', '-'] => .values
  | '-' :: '-' :: rest =>
      let name := rest.takeWhile (· != '=')
      match rest.dropWhile (· != '=') with
      | [] => .long (String.ofList name) none
      | _ :: joined => .long (String.ofList name) (some (String.ofList joined))
  | ['-'] => .value text
  | '-' :: letters => .short letters
  | _ => .value text

/-- What has been found so far of the arguments at one place of a command line. -/
structure Found where
  settingsPath : Option String
  verbosity : Nat
  flags : List String
  values : List String

def Found.nothing : Found :=
  { settingsPath := none, verbosity := 0, flags := [], values := [] }

/-- Which options a place of a command line knows. -/
structure Place where
  /-- Options without a value. -/
  flags : List String
  /-- How many values there may be. -/
  values : Nat
  /-- Whether it is the place before the command's name. -/
  isOuter : Bool

/-- What the arguments up to the name of a command, or up to the end, come to. -/
inductive Outcome
  | found (found : Found)
  | command (found : Found) (name : String) (rest : List String)
  | version
  | help

/-- Names the settings file, once and not by the empty text. -/
def Found.setPath? (found : Found) (path : String) : Option Found :=
  if found.settingsPath.isSome || path.isEmpty then none
  else some { found with settingsPath := some path }

/-- The value that an option takes from the next argument. -/
def takeValue? : List String → Option (String × List String)
  | [] => none
  | text :: rest =>
      match Word.ofText text with
      | .value text => some (text, rest)
      | _ => none

/-- Options of one letter, written together: what was found, what is left of the
arguments, and whether the version or the help was asked for. -/
def readLetters (place : Place) : List Char → Found → List String →
    Option (Found × List String × Option Outcome)
  | [], found, rest => some (found, rest, none)
  | 'c' :: value, found, rest => do
      let (path, rest) ←
        match value with
        | [] => takeValue? rest
        | '=' :: value => some (String.ofList value, rest)
        | value => some (String.ofList value, rest)
      let found ← found.setPath? path
      some (found, rest, none)
  | 'h' :: _, found, rest => some (found, rest, some .help)
  | 'v' :: letters, found, rest =>
      if place.isOuter then
        readLetters place letters { found with verbosity := found.verbosity + 1 } rest
      else none
  | 'V' :: _, found, rest => if place.isOuter then some (found, rest, some .version) else none
  | _ :: _, _, _ => none

/-- A value of a command, if it may have one more. -/
def addValue? (place : Place) (found : Found) (text : String) : Option Found :=
  if found.values.length < place.values then
    some { found with values := found.values ++ [text] }
  else none

/-- Reads the arguments at one place of a command line; `none` if they are wrong. -/
def read (place : Place) : Nat → Found → List String → Option Outcome
  | 0, _, _ => none
  | _ + 1, found, [] => some (.found found)
  | fuel + 1, found, text :: rest =>
      match Word.ofText text with
      | .values => (rest.foldlM (addValue? place) found).map .found
      | .value text =>
          if place.isOuter then some (.command found text rest)
          else do
            let found ← addValue? place found text
            read place fuel found rest
      | .short letters => do
          let (found, rest, outcome) ← readLetters place letters found rest
          match outcome with
          | some outcome => some outcome
          | none => read place fuel found rest
      | .long "config" value => do
          let (path, rest) ←
            match value with
            | some path => some (path, rest)
            | none => takeValue? rest
          let found ← found.setPath? path
          read place fuel found rest
      | .long _ (some _) => none
      | .long "help" none => some .help
      | .long "version" none => if place.isOuter then some .version else none
      | .long "verbose" none =>
          if place.isOuter then
            read place fuel { found with verbosity := found.verbosity + 1 } rest
          else none
      | .long name none =>
          if place.flags.contains name && !found.flags.contains name then
            read place fuel { found with flags := found.flags ++ [name] } rest
          else none

def readAt (place : Place) (arguments : List String) : Option Outcome :=
  read place (arguments.length + 1) .nothing arguments

def outer : Place :=
  { flags := [], values := 0, isOuter := true }

/-- The option of a query that keeps its lines as they are. -/
def rawFlag : String := "raw"

/-- The name of the option that asks for a section. -/
def flagOf (part : Section) : String :=
  String.ofList (part.option.toList.drop 2)

/-- The place behind the name of a command. -/
def place? : String → Option Place
  | "query" => some { flags := rawFlag :: Section.all.map flagOf, values := 1, isOuter := false }
  | "files" => some { flags := [], values := 1, isOuter := false }
  | "listen" => some { flags := [], values := 0, isOuter := false }
  | _ => none

/-- The command of a name with what was found behind it. -/
def command? (name : String) (found : Found) : Option Command :=
  match name, found.values with
  | "query", [text] =>
      let parts := Section.all.filter (fun part => found.flags.contains (flagOf part))
      some (.query (.asking text parts) (found.flags.contains rawFlag))
  | "files", [change] => some (.files change)
  | "listen", [] => some .listen
  | _, _ => none

/-- Whether help can be asked for by these names. -/
def isTopic : List String → Bool
  | [] => true
  | [name] => (place? name).isSome || name == "help"
  | _ => false

end Arguments

open Arguments in
/-- The request of a command line, or `none` if it is wrong. -/
def Request.ofArguments? (arguments : List String) : Option Request :=
  match readAt outer arguments with
  | none => none
  | some (.found _) => none
  | some .version => some .version
  | some .help => some .help
  | some (.command before name rest) =>
      if name = "help" then if isTopic rest then some .help else none
      else do
        let place ← place? name
        let outcome ← readAt place rest
        match outcome with
        | .found found =>
            let command ← command? name found
            some (.run
              { settingsPath := found.settingsPath.or before.settingsPath
                verbosity := before.verbosity
                command })
        | .version => some .version
        | .help => some .help
        | .command .. => none

end ReviewFeed
