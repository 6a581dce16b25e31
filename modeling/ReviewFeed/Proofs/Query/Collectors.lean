import ReviewFeed.Proofs.Query.Records
import ReviewFeed.Query.Run

/-!
# Collecting records and collecting lines

Both collectors look at the same lines of a session.  The one for lines keeps each of
them; the one for records stops at the first line that is no data record.  So the two
agree but for that line, and a failure of the session counts only when every line in
front of it was a data record.
-/

namespace ReviewFeed

namespace Session

/-- The lines of the reads in front of the first one that finds no line. -/
def lines : Session → List String
  | [] => []
  | read :: session =>
      match read.reading with
      | .line line => line :: lines session
      | _ => []

/-- How the reads end: at the end of the output, with a failure, or never. -/
def ending? : Session → Option (Except SessionError Unit)
  | [] => some (.ok ())
  | read :: session =>
      match read.reading with
      | .line _ => ending? session
      | .ended => some (.ok ())
      | .failed error => some (.error error)
      | .pending => none

def filledLines (session : Session) : List String :=
  session.lines.filter (fun line => !Text.isBlankLine line)

end Session

namespace Source

/-- The lines that a source has for a command, without the blank ones and without
their blank ends. -/
def results (source : Source) (command : String) : List String :=
  match source command with
  | .ok session => session.filledLines.map Text.trim
  | .error _ => []

/-- How a command ends, if it does; it may fail before it begins. -/
def ending? (source : Source) (command : String) : Option (Except SessionError Unit) :=
  match source command with
  | .ok session => session.ending?
  | .error error => some (.error error)

end Source

/-- What a run that collects has to say when it returns. -/
def QueryRun.answer? (run : QueryRun σ) : Option (Except QueryError σ) :=
  run.outcome.map (fun outcome => outcome.map (fun _ => run.state))

namespace QueryRun

theorem answer?_eq_ok {run : QueryRun σ} {state : σ} :
    run.answer? = some (.ok state) ↔ run.outcome = some (.ok ()) ∧ run.state = state := by
  rw [answer?]
  cases run.outcome with
  | none => simp
  | some outcome => cases outcome <;> simp [Except.map]

theorem answer?_eq_error {run : QueryRun σ} {error : QueryError} :
    run.answer? = some (.error error) ↔ run.outcome = some (.error error) := by
  rw [answer?]
  cases run.outcome with
  | none => simp
  | some outcome => cases outcome <;> simp [Except.map]

end QueryRun

/-- The answer of a run with whose lines nothing was wrong. -/
def answerAt (items : α) : Except SessionError Unit → Except QueryError α
  | .ok () => .ok items
  | .error error => .error (.session error)

/-- The answer to what was made of the lines.  A line that was refused comes before
the end of the source. -/
def answerOf? (collected : Except QueryError α) (ending? : Option (Except SessionError Unit)) :
    Option (Except QueryError α) :=
  match collected with
  | .ok items => ending?.map (answerAt items)
  | .error error => some (.error error)

namespace Visitor

/-- Collects what is read from each line, up to the first line that cannot be read. -/
def collecting (reader : String → Except QueryError α) : Visitor (List α) := fun found line =>
  match reader line with
  | .ok item => { state := found ++ [item], error := none, cancels := false }
  | .error error => { state := found, error := some error, cancels := false }

theorem strings_eq_collecting :
    strings = collecting (fun line => .ok (Text.trim line)) := rfl

theorem objects_eq_collecting :
    objects = collecting (fun line => QueryRecord.members (Text.trim line)) := by
  funext records line
  simp only [objects, collecting, QueryRecord.members]
  cases QueryRecord.ofLine (Text.trim line) with
  | error fault => rfl
  | ok record =>
      cases record with
      | data members => rfl
      | error message => rfl

end Visitor

namespace Query

theorem answer?_after (acts : List QueryAct) (run : QueryRun σ) :
    (run.after acts).answer? = run.answer? := rfl

/-- A run that collects answers with the first line that cannot be read, if there is
one, and else with how the session ends. -/
theorem drain_collecting (reader : String → Except QueryError α) (session : Session)
    (found : List α) :
    (drain (Visitor.collecting reader).uncancellable session.uncancellable false found).answer? =
      answerOf? ((session.filledLines.mapM reader).map (found ++ ·)) session.ending? := by
  induction session generalizing found with
  | nil =>
      simp only [Session.filledLines, Session.lines, List.filter_nil, List.mapM_nil, pure,
        Except.pure, Except.map, List.append_nil]
      rfl
  | cons read session ih =>
      rw [Session.uncancellable, List.map_cons, drain, Session.filledLines, Session.lines,
        Session.ending?]
      cases read.reading with
      | ended | failed _ | pending =>
          simp only [List.filter_nil, List.mapM_nil, pure, Except.pure, Except.map,
            List.append_nil]
          rfl
      | line line =>
          cases blank : Text.isBlankLine line with
          | true =>
              simp only [blank, if_true, answer?_after]
              rw [List.filter_cons_of_neg (by simp [blank])]
              exact ih found
          | false =>
              simp only [blank, Bool.false_eq_true, if_false, Visitor.uncancellable,
                Visitor.collecting]
              rw [List.filter_cons_of_pos (by simp [blank]), List.mapM_cons]
              cases reader line with
              | error error => rfl
              | ok item =>
                  refine (ih (found ++ [item])).trans ?_
                  rw [Session.filledLines]
                  simp only [bind, Except.bind]
                  cases (List.filter (fun line => !Text.isBlankLine line)
                      (Session.lines session)).mapM reader with
                  | error error => rfl
                  | ok items =>
                      simp only [Except.map, pure, Except.pure, List.append_assoc]
                      rfl

/-- A collecting run answers by the result lines of its source and by how that ends. -/
theorem run_collecting (source : Source) (query : Query)
    (reader : String → Except QueryError α) :
    (query.run source (Visitor.collecting (fun line => reader (Text.trim line))) []).answer? =
      answerOf? ((source.results query.command).mapM reader) (source.ending? query.command) := by
  rw [run, runUntil, Source.uncancellable, Source.results, Source.ending?]
  cases source query.command with
  | error error => rfl
  | ok session =>
      refine (drain_collecting (fun line => reader (Text.trim line)) session []).trans ?_
      have unchanged : ∀ collected : Except QueryError (List α),
          collected.map ([] ++ ·) = collected := by
        intro collected
        cases collected <;> rfl
      rw [unchanged, List.mapM_map]
      rfl

end Query

theorem mapM_eq_ok_iff {reader : α → Except ε β} {lines : List α} {items : List β} :
    lines.mapM reader = .ok items ↔
      List.Forall₂ (fun line item => reader line = .ok item) lines items := by
  induction lines generalizing items with
  | nil =>
      rw [List.mapM_nil, List.forall₂_nil_left_iff]
      simp [pure, Except.pure, eq_comm]
  | cons line lines ih =>
      rw [List.mapM_cons, List.forall₂_cons_left_iff]
      cases reader line with
      | error error => simp [bind, Except.bind]
      | ok item =>
          cases rest : lines.mapM reader with
          | error error => simp [bind, Except.bind, ← ih, rest]
          | ok more => simp [bind, Except.bind, pure, Except.pure, ← ih, rest, eq_comm]

/-- The first line that is refused decides. -/
theorem mapM_eq_error_iff {reader : α → Except ε β} {lines : List α} {error : ε} :
    lines.mapM reader = .error error ↔
      ∃ before line behind, lines = before ++ line :: behind ∧
        (∀ earlier ∈ before, ∃ item, reader earlier = .ok item) ∧
        reader line = .error error := by
  induction lines with
  | nil => simp [pure, Except.pure]
  | cons first lines ih =>
      rw [List.mapM_cons]
      cases found : reader first with
      | error fault =>
          constructor
          · intro same
            cases same
            exact ⟨[], first, lines, rfl, by simp, found⟩
          · rintro ⟨before, line, behind, split, accepted, refused⟩
            cases before with
            | nil =>
                cases split
                cases found.symm.trans refused
                rfl
            | cons other before =>
                cases split
                obtain ⟨item, read⟩ := accepted first List.mem_cons_self
                cases found.symm.trans read
      | ok item =>
          have rest : (do let more ← lines.mapM reader; pure (item :: more)) = .error error ↔
              lines.mapM reader = .error error := by
            cases lines.mapM reader <;> simp [bind, Except.bind, pure, Except.pure]
          refine rest.trans (ih.trans ?_)
          constructor
          · rintro ⟨before, line, behind, rfl, accepted, refused⟩
            refine ⟨first :: before, line, behind, rfl, ?_, refused⟩
            rintro earlier (_ | ⟨_, member⟩)
            · exact ⟨item, found⟩
            · exact accepted earlier member
          · rintro ⟨before, line, behind, split, accepted, refused⟩
            cases before with
            | nil =>
                cases split
                cases found.symm.trans refused
            | cons other before =>
                cases split
                exact ⟨before, line, behind, rfl,
                  fun earlier member => accepted earlier (List.mem_cons_of_mem _ member), refused⟩

theorem exists_forall₂_iff {related : α → β → Prop} {lines : List α} :
    (∃ items, List.Forall₂ related lines items) ↔ ∀ line ∈ lines, ∃ item, related line item := by
  constructor
  · rintro ⟨items, pairs⟩
    induction pairs with
    | nil => simp
    | cons first _ ih =>
        rintro line (_ | ⟨_, member⟩)
        · exact ⟨_, first⟩
        · exact ih line member
  · intro each
    induction lines with
    | nil => exact ⟨[], .nil⟩
    | cons line lines ih =>
        obtain ⟨item, first⟩ := each line List.mem_cons_self
        obtain ⟨items, rest⟩ := ih (fun other member => each other (List.mem_cons_of_mem _ member))
        exact ⟨item :: items, .cons first rest⟩

namespace QueryRecord

/-- The error of the first line that is no data record. -/
def FirstRejected (lines : List String) (error : QueryError) : Prop :=
  ∃ before line behind, lines = before ++ line :: behind ∧
    (∀ earlier ∈ before, ∃ members, ofLine earlier = .ok (.data members)) ∧
    Rejected line error

theorem mapM_members_eq_ok_iff {lines : List String} {records : List Members} :
    lines.mapM members = .ok records ↔
      List.Forall₂ (fun line record => ofLine line = .ok (.data record)) lines records := by
  simp only [mapM_eq_ok_iff, members_eq_ok_iff]

theorem mapM_members_eq_error_iff {lines : List String} {error : QueryError} :
    lines.mapM members = .error error ↔ FirstRejected lines error := by
  simp only [mapM_eq_error_iff, members_eq_ok_iff, members_eq_error_iff, FirstRejected]

end QueryRecord

namespace Query

theorem strings_answer? (source : Source) (query : Query) :
    (query.strings source).answer? =
      (source.ending? query.command).map (answerAt (source.results query.command)) := by
  rw [strings, Visitor.strings_eq_collecting]
  refine (run_collecting source query .ok).trans ?_
  have kept : (source.results query.command).mapM (m := Except QueryError) .ok =
      .ok (source.results query.command) := by
    rw [mapM_eq_ok_iff, List.forall₂_same]
    exact fun line _ => rfl
  rw [kept]
  rfl

theorem objects_answer? (source : Source) (query : Query) :
    (query.objects source).answer? =
      answerOf? ((source.results query.command).mapM QueryRecord.members)
        (source.ending? query.command) := by
  rw [objects, Visitor.objects_eq_collecting]
  exact run_collecting source query QueryRecord.members

theorem strings_ok_iff {source : Source} {query : Query} {lines : List String} :
    (query.strings source).answer? = some (.ok lines) ↔
      lines = source.results query.command ∧ source.ending? query.command = some (.ok ()) := by
  rw [strings_answer?]
  cases source.ending? query.command with
  | none => simp
  | some ending => cases ending <;> simp [answerAt, eq_comm]

theorem strings_error_iff {source : Source} {query : Query} {failure : QueryError} :
    (query.strings source).answer? = some (.error failure) ↔
      ∃ error, failure = .session error ∧
        source.ending? query.command = some (.error error) := by
  rw [strings_answer?]
  cases source.ending? query.command with
  | none => simp
  | some ending => cases ending <;> simp [answerAt, eq_comm]

theorem objects_ok_iff {source : Source} {query : Query} {records : List Members} :
    (query.objects source).answer? = some (.ok records) ↔
      source.ending? query.command = some (.ok ()) ∧
        List.Forall₂ (fun line record => QueryRecord.ofLine line = .ok (.data record))
          (source.results query.command) records := by
  rw [objects_answer?, ← QueryRecord.mapM_members_eq_ok_iff]
  cases (source.results query.command).mapM QueryRecord.members with
  | error error => simp [answerOf?]
  | ok found =>
      cases source.ending? query.command with
      | none => simp [answerOf?]
      | some ending => cases ending <;> simp [answerOf?, answerAt]

theorem objects_error_iff {source : Source} {query : Query} {failure : QueryError} :
    (query.objects source).answer? = some (.error failure) ↔
      QueryRecord.FirstRejected (source.results query.command) failure ∨
        ((∃ records, List.Forall₂
            (fun line record => QueryRecord.ofLine line = .ok (.data record))
            (source.results query.command) records) ∧
          ∃ error, failure = .session error ∧
            source.ending? query.command = some (.error error)) := by
  simp only [objects_answer?, ← QueryRecord.mapM_members_eq_ok_iff,
    ← QueryRecord.mapM_members_eq_error_iff]
  cases (source.results query.command).mapM QueryRecord.members with
  | error error => simp [answerOf?]
  | ok found =>
      cases source.ending? query.command with
      | none => simp [answerOf?]
      | some ending => cases ending <;> simp [answerOf?, answerAt, eq_comm]

/-- A query for records fails when its source does, if not before. -/
theorem objects_fail_with_source {source : Source} {query : Query} {error : SessionError}
    (failed : source.ending? query.command = some (.error error)) :
    ∃ failure, (query.objects source).answer? = some (.error failure) := by
  rw [objects_answer?, failed]
  cases (source.results query.command).mapM QueryRecord.members with
  | error failure => exact ⟨failure, rfl⟩
  | ok records => exact ⟨.session error, rfl⟩

/-- A query for records fails on a line that is none, however its source ends. -/
theorem objects_fail_on_line {source : Source} {query : Query} {line : String}
    (found : line ∈ source.results query.command)
    (noRecord : ∀ record, QueryRecord.ofLine line ≠ .ok (.data record)) :
    ∃ failure, (query.objects source).answer? = some (.error failure) := by
  rw [objects_answer?]
  cases collected : (source.results query.command).mapM QueryRecord.members with
  | error failure => exact ⟨failure, rfl⟩
  | ok records =>
      have each := QueryRecord.mapM_members_eq_ok_iff.mp collected
      obtain ⟨record, read⟩ := exists_forall₂_iff.mp ⟨records, each⟩ line found
      exact absurd read (noRecord record)

/-- A query for records returns if its source comes to an end. -/
theorem objects_returns {source : Source} {query : Query} {ending : Except SessionError Unit}
    (ended : source.ending? query.command = some ending) :
    (query.objects source).outcome.isSome = true := by
  have answered : (query.objects source).answer?.isSome = true := by
    rw [objects_answer?, ended]
    cases (source.results query.command).mapM QueryRecord.members <;> rfl
  rwa [QueryRun.answer?, Option.isSome_map] at answered

/-- A query for lines fails only as its source does, and else has all result lines.
When it has them, a query for records has the records of these lines, if all are data
records, and else fails with the error of the first that is none.  When it fails, so
does a query for records: with the first line of those read before that is no data
record, and if there is none with the same failure. -/
theorem records_agree_with_lines (source : Source) (query : Query) :
    (query.strings source).answer? =
        (source.ending? query.command).map (answerAt (source.results query.command)) ∧
      (∀ lines, (query.strings source).answer? = some (.ok lines) →
        (∀ records, (query.objects source).answer? = some (.ok records) ↔
          List.Forall₂ (fun line record => QueryRecord.ofLine line = .ok (.data record))
            lines records) ∧
        (∀ error, (query.objects source).answer? = some (.error error) ↔
          QueryRecord.FirstRejected lines error) ∧
        (query.objects source).answer?.isSome) ∧
      ∀ failure, (query.strings source).answer? = some (.error failure) →
        (∀ error, (query.objects source).answer? = some (.error error) ↔
          QueryRecord.FirstRejected (source.results query.command) error ∨
            (∀ line ∈ source.results query.command,
              ∃ record, QueryRecord.ofLine line = .ok (.data record)) ∧ error = failure) ∧
        ∃ error, (query.objects source).answer? = some (.error error) := by
  refine ⟨strings_answer? source query, ?_, ?_⟩
  · intro lines answered
    obtain ⟨rfl, ended⟩ := strings_ok_iff.mp answered
    refine ⟨fun records => ?_, fun error => ?_, ?_⟩
    · rw [objects_ok_iff]
      exact and_iff_right ended
    · rw [objects_error_iff]
      refine or_iff_left ?_
      rintro ⟨-, cause, -, failed⟩
      cases ended.symm.trans failed
    · rw [objects_answer?, ended]
      cases (source.results query.command).mapM QueryRecord.members <;> rfl
  · intro failure answered
    obtain ⟨cause, rfl, failed⟩ := strings_error_iff.mp answered
    refine ⟨fun error => ?_, ?_⟩
    · rw [objects_error_iff, exists_forall₂_iff]
      refine or_congr_right (and_congr_right fun _ => ?_)
      constructor
      · rintro ⟨other, rfl, ended⟩
        cases failed.symm.trans ended
        rfl
      · rintro rfl
        exact ⟨cause, rfl, failed⟩
    · rw [objects_answer?, failed]
      cases (source.results query.command).mapM QueryRecord.members with
      | error error => exact ⟨error, rfl⟩
      | ok records => exact ⟨.session cause, rfl⟩

/-- A record, a blank line, an error record and another record. -/
def recordsAndError : Session :=
  [.ofLine " \x7b\"number\":1\x7d", .ofLine "",
    .ofLine "\x7b\"type\":\"Error\",\"message\":\"denied\"\x7d ",
    .ofLine "\x7b\"number\":2\x7d"]

/-- One record, and then the session breaks off. -/
def recordAndFailure : Session :=
  [.ofLine "\x7b\"number\":1\x7d", { reading := .failed .closed, cancels := false }]

theorem records_agree_with_lines_both :
    ((ofText "q").strings (fun _ => .ok recordsAndError)).answer? =
        some (.ok ["\x7b\"number\":1\x7d",
          "\x7b\"type\":\"Error\",\"message\":\"denied\"\x7d", "\x7b\"number\":2\x7d"]) ∧
      ((ofText "q").objects (fun _ => .ok recordsAndError)).answer? =
        some (.error (.remote "denied")) ∧
      ((ofText "q").strings (fun _ => .ok recordAndFailure)).answer? =
        some (.error (.session .closed)) ∧
      ((ofText "q").objects (fun _ => .ok recordAndFailure)).answer? =
        some (.error (.session .closed)) := by
  have kept : ((ofText "q").strings (fun _ => .ok recordsAndError)).answer? = some (.ok _) := rfl
  have broken : ((ofText "q").strings (fun _ => .ok recordAndFailure)).answer? =
      some (.error (.session .closed)) := rfl
  obtain ⟨-, whenKept, -⟩ := records_agree_with_lines (fun _ => .ok recordsAndError) (ofText "q")
  obtain ⟨-, -, whenBroken⟩ :=
    records_agree_with_lines (fun _ => .ok recordAndFailure) (ofText "q")
  refine ⟨kept, ((whenKept _ kept).2.1 _).mpr ?_, broken, ((whenBroken _ broken).1 _).mpr ?_⟩
  · have isError : QueryRecord.IsError
        [("message", .string "denied"), ("type", .string "Error")] :=
      QueryRecord.isError_iff.mp rfl
    have rejected : QueryRecord.Rejected "\x7b\"type\":\"Error\",\"message\":\"denied\"\x7d"
        (.remote "denied") := .remote rfl isError
    refine ⟨["\x7b\"number\":1\x7d"], _, _, rfl, ?_, rejected⟩
    simp only [List.mem_singleton, forall_eq]
    exact ⟨_, rfl⟩
  · have data : ∀ line ∈ ["\x7b\"number\":1\x7d"],
        ∃ record, QueryRecord.ofLine line = .ok (.data record) := by
      simp only [List.mem_singleton, forall_eq]
      exact ⟨_, rfl⟩
    exact .inr ⟨data, rfl⟩

end Query

end ReviewFeed
