import ReviewFeed.Query.Run

/-!
# The course of a query

A run that returns has made some reads after which it went on, and at most one more,
at which it stopped.  Its visits are those of the lines of these reads, its result is
that of the stop, and the session is closed behind the last of them.
-/

namespace ReviewFeed

/-- The read that finds the end of the output. -/
def Read.atEnd : Read :=
  { reading := .ended, cancels := false }

/-- The line that a read hands to the visitor. -/
def Read.visitLine? (read : Read) : Option String :=
  match read.reading with
  | .line line => if Text.isBlankLine line then none else some line
  | _ => none

/-- What a run does about a read. -/
def Read.acts (read : Read) : List QueryAct :=
  .read :: (read.visitLine?.map QueryAct.visited).toList

theorem Read.visitLine?_eq_some {read : Read} {line : String} :
    read.visitLine? = some line ↔
      read.reading = .line line ∧ Text.isBlankLine line = false := by
  unfold visitLine?
  cases read.reading with
  | line text =>
      simp only [Option.ite_none_left_eq_some, Bool.not_eq_true, Option.some.injEq,
        Reading.line.injEq]
      constructor
      · rintro ⟨notBlank, rfl⟩
        exact ⟨rfl, notBlank⟩
      · rintro ⟨rfl, notBlank⟩
        exact ⟨notBlank, rfl⟩
  | ended | failed _ | pending => simp

theorem Read.visitLine?_blank {read : Read} {line : String} (found : read.reading = .line line)
    (blank : Text.isBlankLine line = true) : read.visitLine? = none := by
  rw [visitLine?, found]
  exact if_pos blank

theorem Read.visitLine?_no_line (read : Read) (noLine : ∀ line, read.reading ≠ .line line) :
    read.visitLine? = none := by
  rw [Option.eq_none_iff_forall_ne_some]
  intro line visited
  exact noLine line (visitLine?_eq_some.mp visited).1

theorem Read.acts_unvisited {read : Read} (unvisited : read.visitLine? = none) :
    read.acts = [.read] := by
  rw [acts, unvisited]
  rfl

theorem Read.acts_visited {read : Read} {line : String} (visited : read.visitLine? = some line) :
    read.acts = [.read, .visited line] := by
  rw [acts, visited]
  rfl

/-- How a run stands between two reads: the state of its visitor, and whether its
token has fired. -/
structure Standing (σ : Type) where
  state : σ
  fired : Bool

namespace Standing

/-- The standing after one more read and its visit.  Both may fire the token. -/
def next (visitor : Visitor σ) (standing : Standing σ) (read : Read) : Standing σ :=
  match read.visitLine? with
  | none => { standing with fired := standing.fired || read.cancels }
  | some line =>
      let visit := visitor standing.state line
      { state := visit.state, fired := standing.fired || read.cancels || visit.cancels }

def after (visitor : Visitor σ) (standing : Standing σ) (reads : List Read) : Standing σ :=
  reads.foldl (next visitor) standing

theorem next_unvisited {visitor : Visitor σ} {standing : Standing σ} {read : Read}
    (unvisited : read.visitLine? = none) :
    standing.next visitor read = ⟨standing.state, standing.fired || read.cancels⟩ := by
  rw [next, unvisited]

theorem next_visited {visitor : Visitor σ} {standing : Standing σ} {read : Read} {line : String}
    (visited : read.visitLine? = some line) :
    standing.next visitor read =
      ⟨(visitor standing.state line).state,
        standing.fired || read.cancels || (visitor standing.state line).cancels⟩ := by
  rw [next, visited]

/-- A read after which a run goes on: it begins before the token has fired and finds
a line that is blank or visited without an error. -/
def GoesOn (visitor : Visitor σ) (standing : Standing σ) (read : Read) : Prop :=
  standing.fired = false ∧ (∃ line, read.reading = .line line) ∧
    ∀ line, read.visitLine? = some line → (visitor standing.state line).error = none

/-- How a run stops: with the read that it makes then, if any, and with a result. -/
inductive Stops (visitor : Visitor σ) (standing : Standing σ) :
    List Read → Except QueryError Unit → Prop
  /-- The token has fired before the next read. -/
  | cancelled : standing.fired = true → Stops visitor standing [] (.error .cancelled)
  /-- The token fires while a read waits for ever. -/
  | givenUp {read : Read} : standing.fired = false → read.reading = .pending →
      read.cancels = true → Stops visitor standing [read] (.error .cancelled)
  | ended {read : Read} : standing.fired = false → read.reading = .ended →
      Stops visitor standing [read] (.ok ())
  | failed {read : Read} {error : SessionError} : standing.fired = false →
      read.reading = .failed error → Stops visitor standing [read] (.error (.session error))
  | refused {read : Read} {line : String} {error : QueryError} : standing.fired = false →
      read.visitLine? = some line → (visitor standing.state line).error = some error →
      Stops visitor standing [read] (.error error)

theorem Stops.not_fired {visitor : Visitor σ} {standing : Standing σ} {last : List Read}
    {result : Except QueryError Unit} (stops : standing.Stops visitor last result)
    (reads : last ≠ []) : standing.fired = false := by
  cases stops with
  | cancelled _ => exact absurd rfl reads
  | givenUp unfired _ _ | ended unfired _ | failed unfired _ | refused unfired _ _ =>
      exact unfired

theorem Stops.length_le {visitor : Visitor σ} {standing : Standing σ} {last : List Read}
    {result : Except QueryError Unit} (stops : standing.Stops visitor last result) :
    last.length ≤ 1 := by
  cases stops with
  | cancelled _ => exact Nat.zero_le 1
  | givenUp _ _ _ | ended _ _ | failed _ _ | refused _ _ _ => exact Nat.le_refl 1

end Standing

/-- The course of a run that returned: the reads after which it went on, those with
which it stopped, and the ones that it never made. -/
structure Course (visitor : Visitor σ) (standing : Standing σ) (session : Session)
    (run : QueryRun σ) (result : Except QueryError Unit) (passed last unread : List Read) :
    Prop where
  whole : session ++ [.atEnd] = passed ++ last ++ unread
  acts : run.acts = (passed ++ last).flatMap Read.acts
  state : run.state = (standing.after visitor (passed ++ last)).state
  goesOn : ∀ before read behind, passed = before ++ read :: behind →
    (standing.after visitor before).GoesOn visitor read
  stops : (standing.after visitor passed).Stops visitor last result

namespace Course

variable {visitor : Visitor σ} {standing : Standing σ} {session : Session}
variable {run : QueryRun σ} {result : Except QueryError Unit} {passed last unread : List Read}

/-- A run that stops at its first read, or before it. -/
theorem stop (stops : standing.Stops visitor last result)
    (whole : session ++ [.atEnd] = last ++ unread) (acts : run.acts = last.flatMap Read.acts)
    (state : run.state = (standing.after visitor last).state) :
    Course visitor standing session run result [] last unread where
  whole := whole
  acts := acts
  state := state
  goesOn := by
    intro before read behind split
    cases before <;> cases split
  stops := stops

/-- One more read in front, after which the run went on. -/
theorem cons {read : Read} (goesOn : standing.GoesOn visitor read)
    (course : Course visitor (standing.next visitor read) session run result passed last unread) :
    Course visitor standing (read :: session) (run.after read.acts) result (read :: passed) last
      unread where
  whole := by
    rw [List.cons_append, course.whole]
    rfl
  acts := by
    rw [QueryRun.after, course.acts]
    rfl
  state := course.state
  goesOn := by
    intro before other behind split
    cases before with
    | nil =>
        cases split
        exact goesOn
    | cons first before =>
        cases split
        exact course.goesOn before other behind rfl
  stops := course.stops

/-- No read begins once the token has fired. -/
theorem unfired (course : Course visitor standing session run result passed last unread)
    (before : List Read) (read : Read) (behind : List Read)
    (split : passed ++ last = before ++ read :: behind) :
    (standing.after visitor before).fired = false := by
  rcases List.append_eq_append_iff.mp split with
    ⟨rest, before_eq, last_eq⟩ | ⟨rest, passed_eq, rest_eq⟩
  · -- The read is the last one.
    have short := course.stops.length_le
    have nothing : rest = [] := by
      rw [last_eq, List.length_append, List.length_cons] at short
      exact List.eq_nil_of_length_eq_zero (by omega)
    subst nothing
    rw [List.append_nil] at before_eq
    subst before_eq
    exact course.stops.not_fired (by simp [last_eq])
  · cases rest with
    | nil =>
        rw [List.append_nil] at passed_eq
        subst passed_eq
        have last_eq : last = read :: behind := rest_eq.symm
        exact course.stops.not_fired (by simp [last_eq])
    | cons first rest =>
        cases rest_eq
        exact (course.goesOn before read rest passed_eq).1

end Course

namespace Query

/-- After a read after which a run goes on, it reads the rest of the session. -/
theorem drain_goesOn {visitor : Visitor σ} {standing : Standing σ} {read : Read}
    (goesOn : standing.GoesOn visitor read) (session : Session) :
    drain visitor (read :: session) standing.fired standing.state =
      (drain visitor session (standing.next visitor read).fired
        (standing.next visitor read).state).after read.acts := by
  obtain ⟨unfired, ⟨line, found⟩, accepted⟩ := goesOn
  rw [unfired, drain]
  simp only [found]
  cases blank : Text.isBlankLine line with
  | true =>
      have unvisited := Read.visitLine?_blank found blank
      rw [Standing.next_unvisited unvisited, Read.acts_unvisited unvisited, unfired]
      rfl
  | false =>
      have visited := Read.visitLine?_eq_some.mpr ⟨found, blank⟩
      rw [Standing.next_visited visited, Read.acts_visited visited, unfired]
      simp only [accepted line visited]
      rfl

/-- The read at which a run stops is its last one. -/
theorem drain_stops {visitor : Visitor σ} {standing : Standing σ} {read : Read}
    {result : Except QueryError Unit} (stops : standing.Stops visitor [read] result)
    (session : Session) :
    drain visitor (read :: session) standing.fired standing.state =
      { acts := read.acts, state := (standing.next visitor read).state
        outcome := some result } := by
  rw [stops.not_fired (List.cons_ne_nil _ _), drain]
  cases stops with
  | givenUp _ found fires =>
      have unvisited := read.visitLine?_no_line (by simp [found])
      rw [Standing.next_unvisited unvisited, Read.acts_unvisited unvisited]
      simp [found, fires]
  | ended _ found =>
      have unvisited := read.visitLine?_no_line (by simp [found])
      rw [Standing.next_unvisited unvisited, Read.acts_unvisited unvisited]
      simp [found]
  | failed _ found =>
      have unvisited := read.visitLine?_no_line (by simp [found])
      rw [Standing.next_unvisited unvisited, Read.acts_unvisited unvisited]
      simp [found]
  | refused _ visited refused =>
      obtain ⟨found, notBlank⟩ := Read.visitLine?_eq_some.mp visited
      rw [Standing.next_visited visited, Read.acts_visited visited]
      simp [found, notBlank, refused]

/-- A read that neither goes on nor stops is one that waits for ever. -/
theorem goesOn_or_stops_or_waits {visitor : Visitor σ} {standing : Standing σ}
    (unfired : standing.fired = false) (read : Read) :
    standing.GoesOn visitor read ∨ (∃ result, standing.Stops visitor [read] result) ∨
      (read.reading = .pending ∧ read.cancels = false) := by
  cases found : read.reading with
  | ended => exact .inr (.inl ⟨_, .ended unfired found⟩)
  | failed error => exact .inr (.inl ⟨_, .failed unfired found⟩)
  | pending =>
      cases fires : read.cancels with
      | true => exact .inr (.inl ⟨_, .givenUp unfired found fires⟩)
      | false => exact .inr (.inr ⟨rfl, rfl⟩)
  | line line =>
      cases visited : read.visitLine? with
      | none => exact .inl ⟨unfired, ⟨line, found⟩, by simp [visited]⟩
      | some visitedLine =>
          cases verdict : (visitor standing.state visitedLine).error with
          | some error => exact .inr (.inl ⟨_, .refused unfired visited verdict⟩)
          | none =>
              refine .inl ⟨unfired, ⟨line, found⟩, ?_⟩
              intro other same
              cases visited.symm.trans same
              exact verdict

/-- Every way of reading a session that returns has a course. -/
theorem drain_course {visitor : Visitor σ} {session : Session} (standing : Standing σ)
    {result : Except QueryError Unit}
    (returned : (drain visitor session standing.fired standing.state).outcome = some result) :
    ∃ passed last unread, Course visitor standing session
      (drain visitor session standing.fired standing.state) result passed last unread := by
  -- The recursion goes along the session; a fired token stops it before the next read.
  induction session generalizing standing with
  | nil =>
      cases fired : standing.fired with
      | true =>
          rw [fired] at returned
          cases returned
          exact ⟨[], [], _, .stop (.cancelled fired) rfl rfl rfl⟩
      | false =>
          rw [fired] at returned
          cases returned
          exact ⟨[], [.atEnd], [], .stop (.ended fired rfl) rfl rfl rfl⟩
  | cons read session ih =>
      cases fired : standing.fired with
      | true =>
          rw [fired] at returned
          cases returned
          exact ⟨[], [], _, .stop (.cancelled fired) rfl rfl rfl⟩
      | false =>
          rcases goesOn_or_stops_or_waits fired read with
            goesOn | ⟨stopped, stops⟩ | ⟨found, silent⟩
          · rw [← fired, drain_goesOn goesOn]
            rw [drain_goesOn goesOn] at returned
            obtain ⟨passed, last, unread, course⟩ := ih _ returned
            exact ⟨read :: passed, last, unread, course.cons goesOn⟩
          · rw [← fired, drain_stops stops]
            rw [drain_stops stops] at returned
            cases returned
            exact ⟨[], [read], _, .stop stops rfl (List.flatMap_singleton _ _).symm rfl⟩
          · rw [fired, drain] at returned
            simp [found, silent] at returned

theorem filterMap_acts (reads : List Read) :
    (reads.flatMap Read.acts).filterMap
        (fun | QueryAct.visited line => some line | _ => none) =
      reads.filterMap Read.visitLine? := by
  induction reads with
  | nil => rfl
  | cons read reads ih =>
      rw [List.flatMap_cons, List.filterMap_append, ih]
      cases visited : read.visitLine? with
      | none =>
          rw [Read.acts_unvisited visited, List.filterMap_cons_none visited]
          rfl
      | some line =>
          rw [Read.acts_visited visited, List.filterMap_cons_some visited]
          rfl

theorem visited_of_acts {run : QueryRun σ} {command : String} {reads : List Read}
    (acts : run.acts = .opened command :: reads.flatMap Read.acts ++ [.closed]) :
    run.visited = reads.filterMap Read.visitLine? := by
  rw [QueryRun.visited, acts, List.cons_append, List.filterMap_cons_none rfl,
    List.filterMap_append, List.filterMap_cons_none rfl, List.filterMap_nil, List.append_nil]
  exact filterMap_acts reads

theorem runUntil_of_error {source : Source} {query : Query} {error : SessionError}
    (failed : source query.command = .error error) (visitor : Visitor σ) (start : σ)
    (cancelled : Bool) :
    query.runUntil source visitor start cancelled =
      { acts := [.opened query.command], state := start
        outcome := some (.error (.session error)) } := by
  rw [runUntil, failed]

theorem runUntil_of_ok {source : Source} {query : Query} {session : Session}
    (opened : source query.command = .ok session) (visitor : Visitor σ) (start : σ)
    (cancelled : Bool) :
    query.runUntil source visitor start cancelled =
      { drain visitor session cancelled start with
        acts := .opened query.command :: (drain visitor session cancelled start).acts ++
          if (drain visitor session cancelled start).outcome.isSome then [.closed] else [] } := by
  rw [runUntil, opened]
  rfl

theorem closed_not_mem_acts (reads : List Read) : QueryAct.closed ∉ reads.flatMap Read.acts := by
  intro member
  obtain ⟨read, -, inside⟩ := List.mem_flatMap.mp member
  rw [Read.acts] at inside
  cases read.visitLine? <;> simp at inside

/-- Nothing is closed that was not opened. -/
theorem acts_of_unopened {source : Source} {query : Query} {error : SessionError}
    (failed : source query.command = .error error) (visitor : Visitor σ) (start : σ) :
    (query.run source visitor start).acts = [.opened query.command] := by
  have refused : source.uncancellable query.command = .error error := by
    rw [Source.uncancellable, failed]
    rfl
  rw [run, runUntil_of_error refused]

/-- A session that was opened is closed once, as the last act. -/
theorem acts_of_opened {source : Source} {query : Query} {session : Session}
    (opened : source query.command = .ok session) (visitor : Visitor σ) (start : σ)
    (returned : (query.run source visitor start).outcome.isSome = true) :
    ∃ acts, (query.run source visitor start).acts =
        .opened query.command :: acts ++ [.closed] ∧ QueryAct.closed ∉ acts := by
  have started : source.uncancellable query.command = .ok session.uncancellable := by
    rw [Source.uncancellable, opened]
    rfl
  rw [run, runUntil_of_ok started] at returned ⊢
  obtain ⟨result, ended⟩ := Option.isSome_iff_exists.mp returned
  obtain ⟨passed, last, unread, course⟩ := drain_course ⟨start, false⟩ ended
  refine ⟨(passed ++ last).flatMap Read.acts, ?_, closed_not_mem_acts _⟩
  rw [if_pos returned, course.acts]

/-- A run that returns has opened its source once.  If that failed, nothing else was
done.  Otherwise the reads of the session were made one after the other, none of them
with the token fired, each line that is not blank was visited as it was read, and the
session was closed once, after all of this.  The run went on after every read but the
last one, and its result is what it stopped with: the token fired before the next read
or while one waited, the end, a failed read or a failed visit. -/
theorem lines_visited_and_session_closed (source : Source) (query : Query)
    (visitor : Visitor σ) (start : σ) (cancelled : Bool) {result : Except QueryError Unit}
    (returned : (query.runUntil source visitor start cancelled).outcome = some result) :
    (∀ error, source query.command = .error error →
      (query.runUntil source visitor start cancelled).acts = [.opened query.command] ∧
        result = .error (.session error)) ∧
    ∀ session, source query.command = .ok session →
      ∃ passed last unread, session ++ [.atEnd] = passed ++ last ++ unread ∧
        (query.runUntil source visitor start cancelled).acts =
          .opened query.command :: (passed ++ last).flatMap Read.acts ++ [.closed] ∧
        (query.runUntil source visitor start cancelled).visited =
          (passed ++ last).filterMap Read.visitLine? ∧
        (query.runUntil source visitor start cancelled).state =
          (Standing.after visitor ⟨start, cancelled⟩ (passed ++ last)).state ∧
        (∀ before read behind, passed ++ last = before ++ read :: behind →
          (Standing.after visitor ⟨start, cancelled⟩ before).fired = false) ∧
        (∀ before read behind, passed = before ++ read :: behind →
          (Standing.after visitor ⟨start, cancelled⟩ before).GoesOn visitor read) ∧
        (Standing.after visitor ⟨start, cancelled⟩ passed).Stops visitor last result := by
  constructor
  · intro error failed
    rw [runUntil_of_error failed] at returned ⊢
    cases returned
    exact ⟨rfl, rfl⟩
  · intro session opened
    rw [runUntil_of_ok opened] at returned ⊢
    obtain ⟨passed, last, unread, course⟩ := drain_course ⟨start, cancelled⟩ returned
    have acts : .opened query.command :: (drain visitor session cancelled start).acts ++
        (if (drain visitor session cancelled start).outcome.isSome then [.closed] else []) =
        .opened query.command :: (passed ++ last).flatMap Read.acts ++ [QueryAct.closed] := by
      rw [returned, course.acts]
      rfl
    exact ⟨passed, last, unread, course.whole, acts, visited_of_acts acts, course.state,
      course.unfired, course.goesOn, course.stops⟩

/-- Counts the lines, and fires the token on one of them. -/
def firingAt (trigger : String) : Visitor Nat := fun count line =>
  { state := count + 1, error := none, cancels := line == trigger }

/-- A blank line, a line to visit, one whose read fires the token, and one behind it. -/
def fourLines : Session :=
  [.ofLine " ", .ofLine " a", { reading := .line "b", cancels := true }, .ofLine "c"]

/-- The line of the read that fires the token is visited; the next read is not made. -/
theorem lines_visited_and_session_closed_fired :
    let run := (ofText "q").runUntil (fun _ => .ok fourLines) (firingAt "") 0 false
    run.outcome = some (.error .cancelled) ∧ run.visited = [" a", "b"] ∧ run.state = 2 ∧
      ∃ passed last unread, fourLines ++ [.atEnd] = passed ++ last ++ unread ∧
        run.acts = .opened (ofText "q").command :: (passed ++ last).flatMap Read.acts ++
          [.closed] ∧
        (Standing.after (firingAt "") ⟨0, false⟩ passed).Stops (firingAt "") last
          (.error .cancelled) := by
  refine ⟨rfl, rfl, rfl, ?_⟩
  have returned : ((ofText "q").runUntil (fun _ => .ok fourLines) (firingAt "") 0
      false).outcome = some (.error .cancelled) := rfl
  obtain ⟨-, opened⟩ := lines_visited_and_session_closed (fun _ => .ok fourLines) (ofText "q")
    (firingAt "") 0 false returned
  obtain ⟨passed, last, unread, whole, acts, -, -, -, -, stops⟩ := opened fourLines rfl
  exact ⟨passed, last, unread, whole, acts, stops⟩

end Query

end ReviewFeed
