import ReviewFeed.Session.Source
import ReviewFeed.Text.Blank
import ReviewFeed.Text.Lines

/-!
# Child processes as sessions

A session may be the output of a child process.  Its lines come in order; when
they are used up, the exit status decides once whether the connection had failed,
and from then on, or once the stream is closed, there is only the end.
-/

namespace ReviewFeed

/-- Why a program could not be started. -/
inductive SpawnFault
  | notFound
  | permissionDenied
  | other (reason : String)
  deriving DecidableEq, Repr

def SpawnFault.error (program : String) : SpawnFault → SessionError
  | .notFound => .programNotFound program
  | .permissionDenied => .permissionDenied program
  | .other reason => .io reason

/-- How a child process ended. -/
inductive ExitStatus
  | code (value : Nat)
  | signal
  deriving DecidableEq, Repr

/-- The exit code that reports a failed connection. -/
def connectionFailureCode : Nat := 255

/-- The text of some diagnostics; there is none if they are not UTF-8. -/
def diagnosticText (diagnostics : List UInt8) : String :=
  String.ofList (Text.trimList ((Utf8.decode? diagnostics).getD []))

/-- What a read finds when the output of a child that ended like this is used up. -/
def ExitStatus.ending (diagnostics : List UInt8) : ExitStatus → Reading
  | .code value =>
      if value = connectionFailureCode then
        .failed (.connectionFailed (diagnosticText diagnostics))
      else .ended
  | .signal => .ended

/-- What a child process writes to its output and to its diagnostics, and how it
ends, unless it runs for ever. -/
structure Child where
  output : List UInt8
  diagnostics : List UInt8
  status : Option ExitStatus
  deriving DecidableEq, Repr

namespace Child

/-- The lines of the output.  A child that never ends leaves its last line open. -/
def lines (child : Child) : List String :=
  match child.status with
  | some _ => Lines.read child.output
  | none => Lines.read (Lines.terminated child.output)

/-- What a read finds when the output is used up. -/
def ending (child : Child) : Reading :=
  match child.status with
  | some status => status.ending child.diagnostics
  | none => .pending

/-- The reads of a stream that is never closed. -/
def session (child : Child) : Session :=
  child.lines.map Read.ofLine ++ [{ reading := child.ending, cancels := false }]

end Child

/-- The stream of a child's output: how the child ends, the bytes not yet read, the
diagnostics until they are fetched, and whether only the end is left. -/
structure ProcessStream where
  status : Option ExitStatus
  unread : List UInt8
  diagnostics : Option (List UInt8)
  finished : Bool
  deriving DecidableEq, Repr

namespace ProcessStream

/-- The stream of a child that was just started. -/
def start (child : Child) : ProcessStream :=
  { status := child.status, unread := child.output, diagnostics := some child.diagnostics
    finished := false }

/-- The output is used up: the exit status and the diagnostics say what that means.
Whoever asks again finds only the end. -/
def finish (stream : ProcessStream) (status : ExitStatus) : Reading × ProcessStream :=
  (status.ending (stream.diagnostics.getD []),
    { stream with diagnostics := none, finished := true })

/-- Reads up to the next line feed, or to the end of what a child wrote that has
ended. -/
def nextLine (stream : ProcessStream) : Reading × ProcessStream :=
  if stream.finished then (.ended, stream)
  else
    let (line, unread) := Lines.cut stream.unread
    let found := (.line (Lines.decode line), { stream with unread })
    match stream.status with
    | some status => if line.isEmpty then stream.finish status else found
    | none => if Lines.isTerminated line then found else (.pending, stream)

/-- Closes the stream; the child is made to end, and its diagnostics are given up. -/
def close (stream : ProcessStream) : ProcessStream :=
  { stream with diagnostics := none, finished := true }

end ProcessStream

end ReviewFeed
