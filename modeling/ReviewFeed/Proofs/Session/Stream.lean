import ReviewFeed.Proofs.Query.Course
import ReviewFeed.Proofs.Text.Lines
import ReviewFeed.Proofs.Text.Utf8
import ReviewFeed.Session.Process

/-!
# The stream of a child process

An open stream gives the lines of the output one by one.  When none is left it says once
how the child ended, and by that it is finished, as it is by closing it.  A finished
stream has nothing but the end, so that a query over it succeeds only past the last line
and the exit status.
-/

namespace ReviewFeed

/-- What may be asked of a stream. -/
inductive StreamCall
  | nextLine
  | close
  deriving DecidableEq, Repr

namespace ProcessStream

/-- The stream after some calls. -/
def after (stream : ProcessStream) : List StreamCall → ProcessStream
  | [] => stream
  | .nextLine :: calls => stream.nextLine.2.after calls
  | .close :: calls => stream.close.after calls

/-- What the reads among some calls find, in order. -/
def answers (stream : ProcessStream) : List StreamCall → List Reading
  | [] => []
  | .nextLine :: calls => stream.nextLine.1 :: stream.nextLine.2.answers calls
  | .close :: calls => stream.close.answers calls

theorem answers_append (stream : ProcessStream) (before calls : List StreamCall) :
    stream.answers (before ++ calls) =
      stream.answers before ++ (stream.after before).answers calls := by
  induction before generalizing stream with
  | nil => rfl
  | cons call before ih =>
      cases call with
      | nextLine => exact congrArg (stream.nextLine.1 :: ·) (ih stream.nextLine.2)
      | close => exact ih stream.close

theorem length_answers (stream : ProcessStream) (calls : List StreamCall) :
    (stream.answers calls).length = calls.count .nextLine := by
  induction calls generalizing stream with
  | nil => rfl
  | cons call calls ih =>
      cases call with
      | nextLine => rw [answers, List.length_cons, ih, List.count_cons_self]
      | close => rw [answers, ih, List.count_cons_of_ne (by decide)]

section Finished

variable {stream : ProcessStream}

theorem nextLine_finished (finished : stream.finished = true) :
    stream.nextLine = (.ended, stream) := by
  rw [nextLine, if_pos finished]

/-- A finished stream has nothing but the end. -/
theorem answers_finished (finished : stream.finished = true) (calls : List StreamCall) :
    stream.answers calls = List.replicate (calls.count .nextLine) .ended := by
  induction calls generalizing stream with
  | nil => rfl
  | cons call calls ih =>
      cases call with
      | nextLine =>
          rw [answers, nextLine_finished finished, ih finished, List.count_cons_self,
            List.replicate_succ]
      | close => rw [answers, ih rfl, List.count_cons_of_ne (by decide)]

end Finished

/-- An open stream of a child that ends: its diagnostics are still there. -/
structure IsOpen (stream : ProcessStream) (status : ExitStatus) (diagnostics : List UInt8) :
    Prop where
  ends : stream.status = some status
  kept : stream.diagnostics = some diagnostics
  unfinished : stream.finished = false

namespace IsOpen

variable {stream : ProcessStream} {status : ExitStatus} {diagnostics : List UInt8}

theorem start {child : Child} (ends : child.status = some status) :
    (start child).IsOpen status child.diagnostics where
  ends := ends
  kept := rfl
  unfinished := rfl

/-- As long as there is output, a read finds its first line and leaves the stream open. -/
theorem nextLine_some (opened : stream.IsOpen status diagnostics) (some : stream.unread ≠ []) :
    stream.nextLine = (.line (Lines.decode (Lines.cut stream.unread).1),
      { stream with unread := (Lines.cut stream.unread).2 }) := by
  have filled : (Lines.cut stream.unread).1.isEmpty = false := by
    rw [Lines.cut_isEmpty, List.isEmpty_eq_false_iff]
    exact some
  simp [nextLine, opened.unfinished, opened.ends, filled]

/-- When the output is used up, a read finds how the child ended and finishes the
stream. -/
theorem nextLine_none (opened : stream.IsOpen status diagnostics) (none : stream.unread = []) :
    stream.nextLine.1 = status.ending diagnostics ∧ stream.nextLine.2.finished = true := by
  simp [nextLine, opened.unfinished, opened.ends, opened.kept, none, Lines.cut, finish]

/-- The reads of an open stream find its lines, then how the child ended, and then the
end. -/
theorem answers_past (opened : stream.IsOpen status diagnostics) (beyond : Nat) :
    stream.answers (List.replicate ((Lines.read stream.unread).length + 1 + beyond) .nextLine) =
      (Lines.read stream.unread).map .line ++
        status.ending diagnostics :: List.replicate beyond .ended := by
  -- The induction is on the lines that are left.
  generalize left : Lines.read stream.unread = lines
  induction lines generalizing stream with
  | nil =>
      have none : stream.unread = [] := by
        by_contra some
        rw [Lines.read_cut some] at left
        cases left
      obtain ⟨found, finished⟩ := opened.nextLine_none none
      rw [List.length_nil, Nat.zero_add, Nat.add_comm, List.replicate_succ, answers, found,
        answers_finished finished, List.count_replicate_self]
      rfl
  | cons line lines ih =>
      have some : stream.unread ≠ [] := by
        intro none
        rw [none] at left
        cases left
      rw [Lines.read_cut some] at left
      obtain ⟨rfl, rest⟩ := List.cons.inj left
      have open' : ({ stream with unread := (Lines.cut stream.unread).2 } :
          ProcessStream).IsOpen status diagnostics :=
        ⟨opened.ends, opened.kept, opened.unfinished⟩
      have one : (Lines.decode (Lines.cut stream.unread).1 :: lines).length + 1 + beyond =
          lines.length + 1 + beyond + 1 := by
        rw [List.length_cons]
        omega
      rw [one, List.replicate_succ, answers, opened.nextLine_some some]
      exact congrArg (Reading.line (Lines.decode (Lines.cut stream.unread).1) :: ·)
        (ih open' rest)

/-- Any number of reads finds that many of these. -/
theorem answers_reads (opened : stream.IsOpen status diagnostics) (count : Nat) :
    stream.answers (List.replicate count .nextLine) =
      ((Lines.read stream.unread).map Reading.line ++
        status.ending diagnostics :: List.replicate count .ended).take count := by
  have more : List.replicate ((Lines.read stream.unread).length + 1 + count) StreamCall.nextLine =
      List.replicate count .nextLine ++
        List.replicate ((Lines.read stream.unread).length + 1) .nextLine := by
    rw [← List.replicate_add, Nat.add_comm]
  have length := stream.length_answers (List.replicate count .nextLine)
  rw [List.count_replicate_self] at length
  rw [← opened.answers_past count, more, answers_append, List.take_left' length]

end IsOpen

end ProcessStream

theorem diagnosticText_encode (text : String) :
    diagnosticText (Utf8.encode text.toList) = Text.trim text := by
  rw [diagnosticText, Utf8.decode?_encode]
  rfl

/-- How a read ends that comes behind the last line. -/
theorem ExitStatus.ending_encode (status : ExitStatus) (text : String) :
    status.ending (Utf8.encode text.toList) =
      if status = .code connectionFailureCode then
        .failed (.connectionFailed (Text.trim text))
      else .ended := by
  cases status with
  | code value => simp [ending, diagnosticText_encode]
  | signal => rfl

namespace Read

/-- Whether a read finds a line. -/
def isLine (read : Read) : Bool :=
  match read.reading with
  | .line _ => true
  | _ => false

theorem isLine_iff {read : Read} : read.isLine = true ↔ ∃ line, read.reading = .line line := by
  rw [isLine]
  cases read.reading <;> simp

end Read

namespace Query

/-- A query that succeeds has made all reads up to one that finds the end. -/
theorem reads_of_ok {source : Source} {query : Query} {visitor : Visitor σ} {start : σ}
    {cancelled : Bool} {session : Session} (opened : source query.command = .ok session)
    (succeeded : (query.runUntil source visitor start cancelled).outcome = some (.ok ())) :
    ∃ passed last unread, session ++ [.atEnd] = passed ++ last :: unread ∧
      (∀ read ∈ passed, read.isLine = true) ∧ last.reading = .ended ∧
      (query.runUntil source visitor start cancelled).acts =
        .opened query.command :: (passed ++ [last]).flatMap Read.acts ++ [.closed] := by
  rw [runUntil_of_ok opened] at succeeded ⊢
  obtain ⟨passed, last, unread, course⟩ := drain_course ⟨start, cancelled⟩ succeeded
  cases course.stops with
  | @ended read _ found =>
      refine ⟨passed, read, unread, ?_, ?_, found, ?_⟩
      · rw [course.whole, List.append_assoc, List.singleton_append]
      · intro earlier member
        obtain ⟨before, behind, split⟩ := List.append_of_mem member
        exact Read.isLine_iff.mpr (course.goesOn before earlier behind split).2.1
      · rw [succeeded, course.acts]
        rfl

end Query

namespace Child

/-- How a read ends that comes behind the last line of a child that ends. -/
theorem ending_eq {child : Child} {status : ExitStatus} (ends : child.status = some status) :
    child.ending =
      if status = .code 255 then
        .failed (.connectionFailed (diagnosticText child.diagnostics))
      else .ended := by
  rw [ending, ends]
  cases status with
  | code value =>
      by_cases failed : value = 255
      · simp [failed, ExitStatus.ending, connectionFailureCode]
      · simp [failed, ExitStatus.ending, connectionFailureCode]
  | signal => rfl

theorem isLine_ending {child : Child} {status : ExitStatus} (ends : child.status = some status) :
    ({ reading := child.ending, cancels := false } : Read).isLine = false := by
  rw [ending_eq ends]
  split <;> rfl

/-- The first read of a child's session that finds no line comes behind all lines. -/
theorem split_session {child : Child} {status : ExitStatus} (ends : child.status = some status)
    {passed unread : Session} {last : Read}
    (whole : child.session ++ [.atEnd] = passed ++ last :: unread)
    (lines : ∀ read ∈ passed, read.isLine = true) (notLine : last.isLine = false) :
    passed = child.lines.map Read.ofLine ∧
      last = { reading := child.ending, cancels := false } := by
  have allLines : ∀ read ∈ child.lines.map Read.ofLine, read.isLine = true := by
    intro read member
    obtain ⟨line, -, rfl⟩ := List.mem_map.mp member
    rfl
  rw [session, List.append_assoc, List.singleton_append] at whole
  -- Both ways of writing the reads split them at the first one that finds no line.
  have front := congrArg (List.takeWhile Read.isLine) whole
  rw [List.takeWhile_append_of_pos allLines, List.takeWhile_append_of_pos lines,
    List.takeWhile_cons_of_neg (by simp [isLine_ending ends]),
    List.takeWhile_cons_of_neg (by simp [notLine]), List.append_nil, List.append_nil] at front
  subst front
  exact ⟨rfl, (List.cons.inj (List.append_cancel_left whole)).1.symm⟩

/-- A query over the output of a child that succeeds has read every line, and the child
has not ended in failure. -/
theorem query_ok {child : Child} {status : ExitStatus} (ends : child.status = some status)
    {source : Source} {query : Query} (opened : source query.command = .ok child.session)
    {visitor : Visitor σ} {start : σ} {cancelled : Bool}
    (succeeded : (query.runUntil source visitor start cancelled).outcome = some (.ok ())) :
    child.ending = .ended ∧
      (query.runUntil source visitor start cancelled).acts =
        .opened query.command :: (child.lines.map Read.ofLine ++ [Read.atEnd]).flatMap Read.acts ++
          [.closed] := by
  obtain ⟨passed, last, unread, whole, lines, found, acts⟩ :=
    Query.reads_of_ok opened succeeded
  obtain ⟨rfl, rfl⟩ := split_session ends whole lines (by rw [Read.isLine, found])
  have atEnd : ({ reading := child.ending, cancels := false } : Read) = .atEnd :=
    congrArg (Read.mk · false) found
  exact ⟨found, atEnd ▸ acts⟩

theorem uncancellable_session (child : Child) : child.session.uncancellable = child.session := by
  rw [Session.uncancellable, session, List.map_append, List.map_map]
  rfl

theorem visitLine?_lines (lines : List String) :
    (lines.map Read.ofLine).filterMap Read.visitLine? =
      lines.filter (fun line => !Text.isBlankLine line) := by
  rw [List.filterMap_map, ← List.filterMap_eq_filter]
  congr 1
  funext line
  cases blank : Text.isBlankLine line <;>
    simp [Read.visitLine?, Read.ofLine, Option.guard, blank]

end Child

/-- The reads of a child's stream find the lines of its output in order, then once how
the child ended, and then the end for ever; behind a close they find only the end.  The
session of the child is what they find.  So a query over it succeeds only if the
child did not report a failed connection, and by then it has read every line and visited
those that are not blank. -/
theorem Child.lines_then_one_ending (child : Child) {status : ExitStatus} {text : String}
    (ends : child.status = some status)
    (readable : child.diagnostics = Utf8.encode text.toList) :
    (∀ count, (ProcessStream.start child).answers (List.replicate count .nextLine) =
      ((Lines.read child.output).map Reading.line ++
        (if status = ExitStatus.code 255 then Reading.failed (.connectionFailed (Text.trim text))
          else .ended) :: List.replicate count .ended).take count) ∧
    (∀ before calls, (ProcessStream.start child).answers (before ++ .close :: calls) =
      (ProcessStream.start child).answers before ++
        List.replicate (calls.count .nextLine) .ended) ∧
    child.session.map Read.reading =
      (ProcessStream.start child).answers
        (List.replicate ((Lines.read child.output).length + 1) .nextLine) ∧
    ∀ (σ : Type) (query : Query) (visitor : Visitor σ) (start : σ),
      (query.run (fun _ => .ok child.session) visitor start).outcome = some (.ok ()) →
        status ≠ .code 255 ∧
        (query.run (fun _ => .ok child.session) visitor start).acts =
          .opened query.command ::
            ((Lines.read child.output).map Read.ofLine ++ [Read.atEnd]).flatMap Read.acts ++
              [.closed] ∧
        (query.run (fun _ => .ok child.session) visitor start).visited =
          (Lines.read child.output).filter (fun line => !Text.isBlankLine line) := by
  have opened := ProcessStream.IsOpen.start ends
  have lines : child.lines = Lines.read child.output := by rw [Child.lines, ends]
  have ending : child.ending = if status = .code 255 then
      .failed (.connectionFailed (Text.trim text)) else .ended := by
    rw [Child.ending, ends, readable]
    exact status.ending_encode text
  have asked : status.ending child.diagnostics = child.ending := by rw [Child.ending, ends]
  refine ⟨?_, ?_, ?_, ?_⟩
  · intro count
    rw [opened.answers_reads, asked, ending]
    rfl
  · intro before calls
    rw [ProcessStream.answers_append]
    exact congrArg (_ ++ ·) (ProcessStream.answers_finished rfl calls)
  · rw [← Nat.add_zero ((Lines.read child.output).length + 1)]
    refine Eq.trans ?_ (opened.answers_past 0).symm
    rw [Child.session, lines, asked, List.map_append, List.map_map]
    rfl
  · intro σ query visitor start succeeded
    have source : (Source.uncancellable fun _ => .ok child.session) query.command =
        .ok child.session := congrArg Except.ok child.uncancellable_session
    obtain ⟨found, acts⟩ := Child.query_ok ends source succeeded
    rw [lines] at acts
    refine ⟨?_, acts, ?_⟩
    · intro failed
      rw [ending, if_pos failed] at found
      cases found
    · refine (Query.visited_of_acts acts).trans ?_
      rw [List.filterMap_append, Child.visitLine?_lines]
      exact List.append_nil _

/-- The lines "a", "" and "b", and a connection that was lost. -/
def Child.lost : Child :=
  { output := [97, 13, 10, 10, 98], diagnostics := Utf8.encode " no route\n".toList
    status := some (.code 255) }

/-- The same lines, and a signal. -/
def Child.killed : Child :=
  { Child.lost with status := some .signal }

theorem Child.lines_then_one_ending_lost :
    (ProcessStream.start .lost).answers (List.replicate 5 .nextLine) =
        [.line "a", .line "", .line "b", .failed (.connectionFailed "no route"), .ended] ∧
      (ProcessStream.start .lost).answers [.nextLine, .close, .nextLine, .close, .nextLine] =
        [.line "a", .ended, .ended] ∧
      ((Query.ofText "q").run (fun _ => .ok Child.killed.session) Visitor.strings []).visited =
        ["a", "b"] := by
  have lost : Child.lost.status = some (.code 255) := rfl
  have killed : Child.killed.status = some .signal := rfl
  have readable : Child.lost.diagnostics = Utf8.encode " no route\n".toList := rfl
  obtain ⟨reads, closed, -, -⟩ := Child.lost.lines_then_one_ending lost readable
  obtain ⟨-, -, -, succeeds⟩ := Child.killed.lines_then_one_ending killed readable
  refine ⟨?_, ?_, ?_⟩
  · exact (reads 5).trans (by decide +kernel)
  · exact (closed [.nextLine] [.nextLine, .close, .nextLine]).trans (by decide +kernel)
  · exact (succeeds _ (Query.ofText "q") Visitor.strings [] (by rfl)).2.2.trans (by decide +kernel)

end ReviewFeed
