import ReviewFeed.Command.Arguments
import ReviewFeed.Dispatch.Rehearsal
import ReviewFeed.Query.Files
import ReviewFeed.Session.Process
import ReviewFeed.Settings.File

/-!
# Running commands

A query prints all of its result or nothing.  The files of a change are printed as
far as they are known.  Listening prints the events of the stream until it ends,
and only then says how it ended.
-/

namespace ReviewFeed

/-- What a command prints, line by line, and how it ends.  A command whose session
never ends has no outcome. -/
structure CommandRun where
  printed : List String
  outcome : Option (Except String Unit)

namespace CommandRun

/-- A query prints its records, or its lines as they are. -/
def query (source : Source) (search : Query) (raw : Bool) : CommandRun :=
  let (lines, outcome) :=
    if raw then
      let run := search.strings source
      (run.state, run.outcome)
    else
      let run := search.objects source
      (run.state.map (fun members => (Json.object members).render), run.outcome)
  match outcome with
  | some (.ok ()) => { printed := lines, outcome := some (.ok ()) }
  | some (.error error) => { printed := [], outcome := some (.error error.message) }
  | none => { printed := [], outcome := none }

/-- The files of a change are printed one a line. -/
def files (source : Source) (change : String) : CommandRun :=
  let run := (Query.ofChange change).objects source
  { printed := run.paths, outcome := run.outcome.map (fun _ => .ok ()) }

/-- The event that a printing listener has printed when it returns. -/
def printedEvent? : Entry → Option Event
  | .worked _ _ (.returned event _ false) => some event
  | _ => none

/-- What listening comes to on a feed: its listener has printed an event a line, and
when the dispatcher is shut down, the reader says how the stream ended. -/
def ofFeed (feed : Feed) : CommandRun :=
  let outcome : Option (Except String Unit) :=
    feed.readers.head?.bind (fun reader =>
      match reader.phase with
      | .ended (.ok _) => some (.ok ())
      | .ended (.error error) => some (.error error.message)
      | _ => none)
  { printed := (feed.dispatcher.journal.filterMap printedEvent?).map Event.render
    outcome := if feed.dispatcher.isOver then outcome else none }

/-- The stream is read to its end with one printing listener, and then the
dispatcher is shut down. -/
def listen (source : Source) (settings : Settings) (now : Instant) : CommandRun :=
  let dispatch := settings.dispatch
  let idle := Rehearsal.start dispatch.queueCapacity dispatch.workers String.length now
  let read := (idle.addListener (.plain "printer")).startReader source
    (some settings.ssh.provider) false
  .ofFeed read.shutdown.feed

def ofCommand (source : Source) (settings : Settings) (now : Instant) : Command → CommandRun
  | .query search raw => query source search raw
  | .files change => files source change
  | .listen => listen source settings now

end CommandRun

/-- Whether a command can be run with settings.  Listening takes a dispatcher, and there
are settings that are valid and too large for one. -/
def Command.canRun (settings : Settings) : Command → Bool
  | .query _ _ | .files _ => true
  | .listen => Dispatcher.canStart settings.dispatch.queueCapacity settings.dispatch.workers

/-- The text by which a command asks the server. -/
def Command.remote : Command → String
  | .query search _ => search.command
  | .files change => (Query.ofChange change).command
  | .listen => streamCommand

/-- What a program finds around it: files, the user's directory for settings, the
child that comes of starting a session with some arguments, and the time. -/
structure Surroundings where
  files : String → FileContent
  directory : Option String
  launch : List String → Except SpawnFault Child
  now : Instant

/-- How a program ended: its exit code, its output line by line, its error message,
and the arguments with which it started a session. -/
structure ProgramResult where
  code : Nat
  printed : List String
  error : Option String
  session : Option (List String)
  deriving DecidableEq, Repr

/-- How a program ends with a command; `none` if the command never does. -/
def ProgramResult.ofRun? (session : Option (List String)) (run : CommandRun) :
    Option ProgramResult :=
  run.outcome.map (fun
    | .ok () => { code := 0, printed := run.printed, error := none, session }
    | .error message => { code := 1, printed := run.printed, error := some message, session })

/-- How a program ends that panics before it starts a session: it prints nothing, and what
it says is no error message of its own. -/
def ProgramResult.panicked : ProgramResult :=
  { code := 101, printed := [], error := none, session := none }

/-- The name and the version of the program. -/
def versionLine : String := "gerrit-events 0.1.0"

namespace Surroundings

def source (surroundings : Surroundings) (ssh : SshSettings) : Source :=
  fun command =>
    match surroundings.launch (ssh.arguments ++ [command]) with
    | .ok child => .ok child.session
    | .error fault => .error (fault.error SshSettings.program)

/-- The arguments of the session that a command starts, if it can be started. -/
def started (surroundings : Surroundings) (ssh : SshSettings) (command : Command) :
    Option (List String) :=
  let arguments := ssh.arguments ++ [command.remote]
  match surroundings.launch arguments with
  | .ok _ => some arguments
  | .error _ => none

/-- The settings that an invocation finds: in the file that it names, or in one of
the usual places. -/
def settings (surroundings : Surroundings) (invocation : Invocation) :
    Except LoadError Settings :=
  Settings.load surroundings.files
    (match invocation.settingsPath with
    | some path => [path]
    | none => Settings.searchPaths surroundings.directory)

/-- Runs a command with its settings; `none` if it never ends. -/
def invoke (surroundings : Surroundings) (invocation : Invocation) : Option ProgramResult :=
  match surroundings.settings invocation with
  | .error error => some { code := 1, printed := [], error := some error.message, session := none }
  | .ok settings =>
      if invocation.command.canRun settings then
        ProgramResult.ofRun? (surroundings.started settings.ssh invocation.command)
          (CommandRun.ofCommand (surroundings.source settings.ssh) settings surroundings.now
            invocation.command)
      else some .panicked

/-- Runs the program with its arguments; `none` if it never ends. -/
def run (surroundings : Surroundings) (arguments : List String) : Option ProgramResult :=
  match Request.ofArguments? arguments with
  | none => some { code := 2, printed := [], error := none, session := none }
  | some .help => some { code := 0, printed := [], error := none, session := none }
  | some .version => some { code := 0, printed := [versionLine], error := none, session := none }
  | some (.run invocation) => surroundings.invoke invocation

end Surroundings

end ReviewFeed
