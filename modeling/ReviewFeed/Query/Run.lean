import ReviewFeed.Query.Command
import ReviewFeed.Query.Record
import ReviewFeed.Session.Source
import ReviewFeed.Text.Blank

/-!
# Running queries

A run starts the command, hands each line that is not blank to a visitor and
closes the session, however it ends.  It stops at the first visit that fails, at
a read that fails, at the end of the output, or when it is cancelled: before each
read it looks whether its token has fired, and a read that finds nothing is
given up when the token fires.
-/

namespace ReviewFeed

/-- What a visitor makes of a line: its new state, the error with which it ends
the run, and whether it fires the token of the run. -/
structure Visit (σ : Type) where
  state : σ
  error : Option QueryError
  cancels : Bool

/-- What is done with the lines of a result. -/
abbrev Visitor (σ : Type) := σ → String → Visit σ

namespace Visitor

/-- The same visitor without a token to fire. -/
def uncancellable (visitor : Visitor σ) : Visitor σ :=
  fun state line => { visitor state line with cancels := false }

/-- Collects every line as a JSON object; an error record ends the run. -/
def objects : Visitor (List Members) := fun records line =>
  match QueryRecord.ofLine (Text.trim line) with
  | .ok (.data members) => { state := records ++ [members], error := none, cancels := false }
  | .ok (.error message) => { state := records, error := some (.remote message), cancels := false }
  | .error error => { state := records, error := some error, cancels := false }

/-- Collects every line without its blank ends, error records too. -/
def strings : Visitor (List String) := fun lines line =>
  { state := lines ++ [Text.trim line], error := none, cancels := false }

end Visitor

/-- What a run does, in order. -/
inductive QueryAct
  | opened (command : String)
  /-- A read begins. -/
  | read
  | visited (line : String)
  | closed
  deriving DecidableEq, Repr

/-- A run of a query: what it did, the state of its visitor, and how it ended.
A run that waits for a read for ever has no outcome. -/
structure QueryRun (σ : Type) where
  acts : List QueryAct
  state : σ
  outcome : Option (Except QueryError Unit)

namespace QueryRun

def after (acts : List QueryAct) (run : QueryRun σ) : QueryRun σ :=
  { run with acts := acts ++ run.acts }

def visited (run : QueryRun σ) : List String :=
  run.acts.filterMap (fun | .visited line => some line | _ => none)

end QueryRun

namespace Query

/-- Reads a session to its end, with the token fired already or not. -/
def drain (visitor : Visitor σ) : Session → Bool → σ → QueryRun σ
  | _, true, state => { acts := [], state, outcome := some (.error .cancelled) }
  | [], false, state => { acts := [.read], state, outcome := some (.ok ()) }
  | read :: session, false, state =>
      match read.reading with
      | .line line =>
          if Text.isBlankLine line then
            (drain visitor session read.cancels state).after [.read]
          else
            let visit := visitor state line
            match visit.error with
            | some error =>
                { acts := [.read, .visited line], state := visit.state
                  outcome := some (.error error) }
            | none =>
                (drain visitor session (read.cancels || visit.cancels) visit.state).after
                  [.read, .visited line]
      | .ended => { acts := [.read], state, outcome := some (.ok ()) }
      | .failed error =>
          { acts := [.read], state, outcome := some (.error (.session error)) }
      | .pending =>
          { acts := [.read], state
            outcome := if read.cancels then some (.error .cancelled) else none }

/-- Runs a query until it ends or its token fires, which it may have done before
the start. -/
def runUntil (source : Source) (query : Query) (visitor : Visitor σ) (start : σ)
    (cancelled : Bool) : QueryRun σ :=
  let opening : List QueryAct := [.opened query.command]
  match source query.command with
  | .error error =>
      { acts := opening, state := start, outcome := some (.error (.session error)) }
  | .ok session =>
      let run := drain visitor session cancelled start
      let closing : List QueryAct := if run.outcome.isSome then [.closed] else []
      { run with acts := opening ++ run.acts ++ closing }

/-- Runs a query that nobody can cancel. -/
def run (source : Source) (query : Query) (visitor : Visitor σ) (start : σ) : QueryRun σ :=
  query.runUntil source.uncancellable visitor.uncancellable start false

def objects (source : Source) (query : Query) : QueryRun (List Members) :=
  query.run source Visitor.objects []

def strings (source : Source) (query : Query) : QueryRun (List String) :=
  query.run source Visitor.strings []

/-- All patch sets and the current one. -/
def allPatchSets (text : String) : Query :=
  asking text [.patchSets, .currentPatchSet]

def currentFiles (text : String) : Query :=
  asking text [.currentPatchSet, .files]

def currentPatchSets (text : String) : Query :=
  asking text [.currentPatchSet]

end Query

end ReviewFeed
