import ReviewFeed.Session.Error

/-!
# Line sources

A source starts a command and hands back a session, whose output is read line by
line.  A session is given by what its reads do, one after the other; reads beyond
these find the end of the output.  A read may also be the moment at which the
reader's cancellation token fires.
-/

namespace ReviewFeed

/-- What a read finds. -/
inductive Reading
  | line (text : String)
  | ended
  | failed (error : SessionError)
  /-- Nothing comes, so the read goes on until the reader is cancelled. -/
  | pending
  deriving DecidableEq, Repr

/-- One read of a session, and whether the reader's token fires during it. -/
structure Read where
  reading : Reading
  cancels : Bool
  deriving DecidableEq, Repr

def Read.ofLine (text : String) : Read :=
  { reading := .line text, cancels := false }

/-- The reads of a session, in order. -/
abbrev Session := List Read

/-- How the start of a command goes, by its text. -/
abbrev Source := String → Except SessionError Session

/-- The same session for a reader that nobody can cancel. -/
def Session.uncancellable (session : Session) : Session :=
  session.map (fun read => { read with cancels := false })

/-- The same source for a reader that nobody can cancel. -/
def Source.uncancellable (source : Source) : Source :=
  fun command => (source command).map Session.uncancellable

end ReviewFeed
