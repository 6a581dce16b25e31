import ReviewFeed.Command.Run
import ReviewFeed.Proofs.Json.OneLine
import ReviewFeed.Proofs.Query.Collectors
import ReviewFeed.Proofs.Session.Stream

/-!
# What a query prints

The lines that a child leaves for a query are those of its output that are not blank,
without their blank ends.  Nothing is printed before the collector has them all and the
child has ended well, so that the program prints every record, or every line, or nothing.
-/

namespace ReviewFeed

namespace Session

theorem lines_append (lines : List String) (session : Session) :
    Session.lines (lines.map Read.ofLine ++ session) = lines ++ Session.lines session := by
  induction lines with
  | nil => rfl
  | cons line lines ih => exact congrArg (line :: ·) ih

theorem ending?_append (lines : List String) (session : Session) :
    Session.ending? (lines.map Read.ofLine ++ session) = Session.ending? session := by
  induction lines with
  | nil => rfl
  | cons line lines ih => exact ih

end Session

namespace Child

/-- The lines of the output that a query looks at. -/
def resultLines (child : Child) : List String :=
  (child.lines.filter (fun line => !Text.isBlankLine line)).map Text.trim

variable {child : Child} {status : ExitStatus}

theorem ending?_session (ends : child.status = some status) :
    child.session.ending? =
      if status = .code 255 then
        some (.error (.connectionFailed (diagnosticText child.diagnostics)))
      else some (.ok ()) := by
  rw [session, Session.ending?_append, ending_eq ends]
  split <;> rfl

theorem lines_session (ends : child.status = some status) :
    Session.lines child.session = child.lines := by
  have last : Session.lines [{ reading := child.ending, cancels := false }] = [] := by
    rw [ending_eq ends]
    split <;> rfl
  rw [session, Session.lines_append, last, List.append_nil]

theorem lineFeed_not_mem_resultLines {line : String} (member : line ∈ child.resultLines) :
    '\n' ∉ line.toList := by
  obtain ⟨whole, inside, rfl⟩ := List.mem_map.mp member
  have read : whole ∈ child.lines := (List.mem_filter.mp inside).1
  have without : '\n' ∉ whole.toList := by
    rw [lines] at read
    split at read <;> exact Lines.lineFeed_not_mem_read read
  exact fun feed => without (Text.mem_of_mem_trim feed)

end Child

namespace CommandRun

variable {source : Source} {search : Query}

theorem query_lines {lines : List String}
    (answered : (search.strings source).answer? = some (.ok lines)) :
    query source search true = { printed := lines, outcome := some (.ok ()) } := by
  obtain ⟨succeeded, collected⟩ := QueryRun.answer?_eq_ok.mp answered
  simp [query, succeeded, collected]

theorem query_records {records : List Members}
    (answered : (search.objects source).answer? = some (.ok records)) :
    query source search false =
      { printed := records.map (fun members => (Json.object members).render)
        outcome := some (.ok ()) } := by
  obtain ⟨succeeded, collected⟩ := QueryRun.answer?_eq_ok.mp answered
  simp [query, succeeded, collected]

theorem query_lines_failed {error : QueryError}
    (answered : (search.strings source).answer? = some (.error error)) :
    query source search true = { printed := [], outcome := some (.error error.message) } := by
  have failed := QueryRun.answer?_eq_error.mp answered
  simp [query, failed]

theorem query_records_failed {error : QueryError}
    (answered : (search.objects source).answer? = some (.error error)) :
    query source search false = { printed := [], outcome := some (.error error.message) } := by
  have failed := QueryRun.answer?_eq_error.mp answered
  simp [query, failed]

end CommandRun

namespace Surroundings

/-- What an invocation of a query comes to once its settings are loaded. -/
theorem invoke_query {surroundings : Surroundings} {invocation : Invocation}
    {settings : Settings} {search : Query} {raw : Bool}
    (loaded : surroundings.settings invocation = .ok settings)
    (asked : invocation.command = .query search raw) :
    surroundings.invoke invocation =
      ProgramResult.ofRun? (surroundings.started settings.ssh (.query search raw))
        (CommandRun.query (surroundings.source settings.ssh) search raw) := by
  rw [invoke, loaded, asked]
  rfl

section Sessions

variable {surroundings : Surroundings} {ssh : SshSettings} {text : String}

theorem source_of_ok {child : Child}
    (launched : surroundings.launch (ssh.arguments ++ [text]) = .ok child) :
    surroundings.source ssh text = .ok child.session := by
  rw [source, launched]

theorem source_of_error {fault : SpawnFault}
    (launched : surroundings.launch (ssh.arguments ++ [text]) = .error fault) :
    surroundings.source ssh text = .error (fault.error SshSettings.program) := by
  rw [source, launched]

theorem results_of_ok {child : Child} {status : ExitStatus}
    (launched : surroundings.launch (ssh.arguments ++ [text]) = .ok child)
    (ends : child.status = some status) :
    (surroundings.source ssh).results text = child.resultLines := by
  rw [Source.results, source_of_ok launched]
  simp only [Session.filledLines, child.lines_session ends]
  rfl

theorem ending?_of_ok {child : Child} {status : ExitStatus}
    (launched : surroundings.launch (ssh.arguments ++ [text]) = .ok child)
    (ends : child.status = some status) :
    (surroundings.source ssh).ending? text =
      if status = .code 255 then
        some (.error (.connectionFailed (diagnosticText child.diagnostics)))
      else some (.ok ()) := by
  rw [Source.ending?, source_of_ok launched]
  exact child.ending?_session ends

end Sessions

/-- Whether a program ends in failure and prints nothing. -/
def FailsSilently (surroundings : Surroundings) (invocation : Invocation) : Prop :=
  ∃ error session, surroundings.invoke invocation =
    some { code := 1, printed := [], error := some error, session }

section Printing

variable {surroundings : Surroundings} {invocation : Invocation} {settings : Settings}
variable {search : Query}

theorem failsSilently_of_lines {error : QueryError}
    (loaded : surroundings.settings invocation = .ok settings)
    (asked : invocation.command = .query search true)
    (answered : (search.strings (surroundings.source settings.ssh)).answer? =
      some (.error error)) :
    surroundings.FailsSilently invocation :=
  ⟨_, _, by rw [invoke_query loaded asked, CommandRun.query_lines_failed answered]; rfl⟩

theorem failsSilently_of_records {error : QueryError}
    (loaded : surroundings.settings invocation = .ok settings)
    (asked : invocation.command = .query search false)
    (answered : (search.objects (surroundings.source settings.ssh)).answer? =
      some (.error error)) :
    surroundings.FailsSilently invocation :=
  ⟨_, _, by rw [invoke_query loaded asked, CommandRun.query_records_failed answered]; rfl⟩

theorem failsSilently_of_source {raw : Bool} {error : SessionError}
    (loaded : surroundings.settings invocation = .ok settings)
    (asked : invocation.command = .query search raw)
    (failed : (surroundings.source settings.ssh).ending? search.command = some (.error error)) :
    surroundings.FailsSilently invocation := by
  cases raw with
  | true =>
      exact failsSilently_of_lines loaded asked
        (Query.strings_error_iff.mpr ⟨error, rfl, failed⟩)
  | false =>
      obtain ⟨failure, answered⟩ := Query.objects_fail_with_source failed
      exact failsSilently_of_records loaded asked answered

end Printing

section Children

variable {surroundings : Surroundings} {invocation : Invocation} {settings : Settings}
variable {search : Query} {child : Child} {status : ExitStatus}

theorem started_of_ok {raw : Bool}
    (launched : surroundings.launch (settings.ssh.arguments ++ [search.command]) = .ok child) :
    surroundings.started settings.ssh (.query search raw) =
      some (settings.ssh.arguments ++ [search.command]) := by
  rw [started, Command.remote, launched]

/-- A failed connection spoils every query. -/
theorem failsSilently_of_connection {raw : Bool}
    (loaded : surroundings.settings invocation = .ok settings)
    (asked : invocation.command = .query search raw)
    (launched : surroundings.launch (settings.ssh.arguments ++ [search.command]) = .ok child)
    (ends : child.status = some (.code 255)) : surroundings.FailsSilently invocation :=
  failsSilently_of_source loaded asked ((ending?_of_ok launched ends).trans (if_pos rfl))

/-- A line that is no record spoils a query for records. -/
theorem failsSilently_of_line
    (loaded : surroundings.settings invocation = .ok settings)
    (asked : invocation.command = .query search false)
    (launched : surroundings.launch (settings.ssh.arguments ++ [search.command]) = .ok child)
    (ends : child.status = some status)
    (unfit : ∃ line ∈ child.resultLines, ∀ record, QueryRecord.ofLine line ≠ .ok (.data record)) :
    surroundings.FailsSilently invocation := by
  obtain ⟨line, found, noRecord⟩ := unfit
  rw [← results_of_ok launched ends] at found
  obtain ⟨failure, answered⟩ := Query.objects_fail_on_line found noRecord
  exact failsSilently_of_records loaded asked answered

theorem invoke_lines
    (loaded : surroundings.settings invocation = .ok settings)
    (asked : invocation.command = .query search true)
    (launched : surroundings.launch (settings.ssh.arguments ++ [search.command]) = .ok child)
    (ends : child.status = some status) (well : status ≠ .code 255) :
    surroundings.invoke invocation =
      some { code := 0, printed := child.resultLines, error := none
             session := some (settings.ssh.arguments ++ [search.command]) } := by
  have ending := (ending?_of_ok launched ends).trans (if_neg well)
  have answered := Query.strings_ok_iff.mpr ⟨(results_of_ok launched ends).symm, ending⟩
  rw [invoke_query loaded asked, started_of_ok launched, CommandRun.query_lines answered]
  rfl

theorem invoke_records
    (loaded : surroundings.settings invocation = .ok settings)
    (asked : invocation.command = .query search false)
    (launched : surroundings.launch (settings.ssh.arguments ++ [search.command]) = .ok child)
    (ends : child.status = some status) (well : status ≠ .code 255) {records : List Members}
    (each : List.Forall₂ (fun line record => QueryRecord.ofLine line = .ok (.data record))
      child.resultLines records) :
    surroundings.invoke invocation =
      some { code := 0, printed := records.map (fun members => (Json.object members).render)
             error := none, session := some (settings.ssh.arguments ++ [search.command]) } := by
  have ending := (ending?_of_ok launched ends).trans (if_neg well)
  rw [← results_of_ok launched ends] at each
  have answered := Query.objects_ok_iff.mpr ⟨ending, each⟩
  rw [invoke_query loaded asked, started_of_ok launched, CommandRun.query_records answered]
  rfl

/-- No printed line has a line feed inside. -/
theorem lineFeed_not_mem_printed {raw : Bool}
    (loaded : surroundings.settings invocation = .ok settings)
    (asked : invocation.command = .query search raw)
    (launched : surroundings.launch (settings.ssh.arguments ++ [search.command]) = .ok child)
    (ends : child.status = some status) {result : ProgramResult}
    (invoked : surroundings.invoke invocation = some result) {line : String}
    (member : line ∈ result.printed) : '\n' ∉ line.toList := by
  have silent (fails : surroundings.FailsSilently invocation) : '\n' ∉ line.toList := by
    obtain ⟨error, session, same⟩ := fails
    cases invoked.symm.trans same
    cases member
  by_cases lost : status = .code 255
  · exact silent (failsSilently_of_connection loaded asked launched (lost ▸ ends))
  cases raw with
  | true =>
      cases invoked.symm.trans (invoke_lines loaded asked launched ends lost)
      exact child.lineFeed_not_mem_resultLines member
  | false =>
      by_cases each : ∀ line ∈ child.resultLines,
          ∃ record, QueryRecord.ofLine line = .ok (.data record)
      · obtain ⟨records, pairs⟩ := exists_forall₂_iff.mpr each
        cases invoked.symm.trans (invoke_records loaded asked launched ends lost pairs)
        obtain ⟨members, -, rfl⟩ := List.mem_map.mp member
        exact Json.lineFeed_not_mem_render (.object members)
      · push Not at each
        exact silent (failsSilently_of_line loaded asked launched ends each)

end Children

/-- A query prints its lines, or one line for each record, if its child was started and
has ended without a failed connection; for records every line must be one.  Otherwise it
prints nothing and fails. -/
theorem query_prints_all_or_nothing {surroundings : Surroundings} {invocation : Invocation}
    {settings : Settings} {search : Query} {raw : Bool}
    (loaded : surroundings.settings invocation = .ok settings)
    (asked : invocation.command = .query search raw) :
    (∀ fault, surroundings.launch (settings.ssh.arguments ++ [search.command]) = .error fault →
      surroundings.FailsSilently invocation) ∧
    ∀ child status,
      surroundings.launch (settings.ssh.arguments ++ [search.command]) = .ok child →
      child.status = some status →
      (status = .code 255 → surroundings.FailsSilently invocation) ∧
      (status ≠ .code 255 → raw = true →
        surroundings.invoke invocation =
          some { code := 0, printed := child.resultLines, error := none
                 session := some (settings.ssh.arguments ++ [search.command]) }) ∧
      (status ≠ .code 255 → raw = false → ∀ records,
        List.Forall₂ (fun line record => QueryRecord.ofLine line = .ok (.data record))
          child.resultLines records →
        surroundings.invoke invocation =
          some { code := 0
                 printed := records.map (fun members => (Json.object members).render)
                 error := none
                 session := some (settings.ssh.arguments ++ [search.command]) }) ∧
      (raw = false → (∃ line ∈ child.resultLines,
          ∀ record, QueryRecord.ofLine line ≠ .ok (.data record)) →
        surroundings.FailsSilently invocation) ∧
      ∀ result, surroundings.invoke invocation = some result →
        ∀ line ∈ result.printed, '\n' ∉ line.toList := by
  refine ⟨?_, ?_⟩
  · intro fault launched
    have source : (surroundings.source settings.ssh).ending? search.command =
        some (.error (fault.error SshSettings.program)) := by
      rw [Source.ending?, source_of_error launched]
    exact failsSilently_of_source loaded asked source
  intro child status launched ends
  refine ⟨fun lost => ?_, fun well isRaw => ?_, fun well isRaw records each => ?_,
    fun isRaw unfit => ?_, fun result invoked line member => ?_⟩
  · exact failsSilently_of_connection loaded asked launched (lost ▸ ends)
  · exact invoke_lines loaded (isRaw ▸ asked) launched ends well
  · exact invoke_records loaded (isRaw ▸ asked) launched ends well each
  · exact failsSilently_of_line loaded (isRaw ▸ asked) launched ends unfit
  · exact lineFeed_not_mem_printed loaded asked launched ends invoked member

/-- No settings file, and the same child whatever is started. -/
def launching (child : Child) : Surroundings :=
  { files := fun _ => .missing, directory := none, launch := fun _ => .ok child
    now := .epoch }

/-- A record, a blank line, and a record without a line feed. -/
def recordsChild : Child :=
  { output := Utf8.encode "\x7b\"a\":1\x7d\n \n \x7b\"b\":2\x7d".toList, diagnostics := []
    status := some (.code 1) }

/-- A record and an error record. -/
def errorChild : Child :=
  { output := Utf8.encode "\x7b\"a\":1\x7d\n\x7b\"type\":\"error\"\x7d\n".toList
    diagnostics := [], status := some (.code 0) }

def queryInvocation (raw : Bool) : Invocation :=
  { settingsPath := none, verbosity := 0, command := .query (.ofText "q") raw }

/-- The arguments with which the default settings start the query. -/
def queryArguments : List String :=
  SshSettings.default.arguments ++ [(Query.ofText "q").command]

theorem query_prints_all_or_nothing_children :
    (launching recordsChild).invoke (queryInvocation false) =
        some { code := 0, printed := ["\x7b\"a\":1\x7d", "\x7b\"b\":2\x7d"], error := none
               session := some queryArguments } ∧
      (launching errorChild).invoke (queryInvocation true) =
        some { code := 0, printed := ["\x7b\"a\":1\x7d", "\x7b\"type\":\"error\"\x7d"]
               error := none, session := some queryArguments } ∧
      (launching errorChild).FailsSilently (queryInvocation false) := by
  have loaded (child : Child) (raw : Bool) :
      (launching child).settings (queryInvocation raw) = .ok .default := rfl
  have kept : recordsChild.resultLines = ["\x7b\"a\":1\x7d", "\x7b\"b\":2\x7d"] := by
    decide +kernel
  have bothKept : errorChild.resultLines =
      ["\x7b\"a\":1\x7d", "\x7b\"type\":\"error\"\x7d"] := by
    decide +kernel
  obtain ⟨-, records⟩ := query_prints_all_or_nothing (loaded recordsChild false) rfl
  obtain ⟨-, lines⟩ := query_prints_all_or_nothing (loaded errorChild true) rfl
  obtain ⟨-, rejected⟩ := query_prints_all_or_nothing (loaded errorChild false) rfl
  obtain ⟨-, -, printed, -⟩ := records recordsChild _ rfl rfl
  obtain ⟨-, printedLines, -⟩ := lines errorChild _ rfl rfl
  obtain ⟨-, -, -, refused, -⟩ := rejected errorChild _ rfl rfl
  refine ⟨?_, ?_, ?_⟩
  · refine (printed (by decide) rfl
      [[("a", .number (.integer 1))], [("b", .number (.integer 2))]] ?_).trans (by rfl)
    rw [kept]
    exact .cons rfl (.cons rfl .nil)
  · rw [printedLines (by decide) rfl, bothKept]
    rfl
  · have isError : QueryRecord.ofLine "\x7b\"type\":\"error\"\x7d" = .ok (.error "") := rfl
    refine refused rfl ⟨"\x7b\"type\":\"error\"\x7d", ?_, ?_⟩
    · rw [bothKept]
      exact List.mem_cons_of_mem _ List.mem_cons_self
    · rw [isError]
      simp

end Surroundings

end ReviewFeed
