import ReviewFeed.Proofs.Query.Collectors
import ReviewFeed.Proofs.Query.Course
import ReviewFeed.Query.Files

/-!
# Where the file list of a change comes from

The list is read off one record, the first that is no statistics and has a current patch
set, whatever the records around it hold.  It counts only when the whole result was read:
a line that is no data record, or a failure of the source, leaves the empty list, also
when the list had come before.
-/

namespace ReviewFeed

/-- An object that binds `file` to a text. -/
def Json.NamesFile (entry : Json) (path : String) : Prop :=
  ∃ members, entry = .object members ∧ members.lookup "file" = some (.string path)

/-- The paths named in a file list, in order; entries that name none are left out. -/
inductive PathsNamed : List Json → List String → Prop
  | nil : PathsNamed [] []
  | named {entry : Json} {path : String} {entries : List Json} {paths : List String} :
      entry.NamesFile path → PathsNamed entries paths →
      PathsNamed (entry :: entries) (path :: paths)
  | unnamed {entry : Json} {entries : List Json} {paths : List String} :
      (∀ path, ¬ entry.NamesFile path) → PathsNamed entries paths →
      PathsNamed (entry :: entries) paths

theorem filePath?_eq_some_iff {entry : Json} {path : String} :
    filePath? entry = some path ↔ entry.NamesFile path := by
  rw [filePath?, Option.bind_eq_some_iff]
  constructor
  · rintro ⟨value, found, text⟩
    cases entry with
    | object members =>
        cases value with
        | string name =>
            cases text
            exact ⟨members, rfl, found⟩
        | null | bool _ | number _ | array _ | object _ => cases text
    | null | bool _ | number _ | string _ | array _ => cases found
  · rintro ⟨members, rfl, found⟩
    exact ⟨.string path, found, rfl⟩

theorem pathsNamed_filterMap (entries : List Json) :
    PathsNamed entries (entries.filterMap filePath?) := by
  induction entries with
  | nil => exact .nil
  | cons entry entries induction =>
      cases found : filePath? entry with
      | none =>
          rw [List.filterMap_cons_none found]
          apply PathsNamed.unnamed _ induction
          intro path named
          cases found.symm.trans (filePath?_eq_some_iff.mpr named)
      | some path =>
          rw [List.filterMap_cons_some found]
          exact .named (filePath?_eq_some_iff.mp found) induction

theorem patchSetPaths_of_files {patchSet : Members} {entries : List Json}
    (listed : patchSet.lookup "files" = some (.array entries)) :
    PathsNamed entries (patchSetPaths patchSet) := by
  rw [patchSetPaths, listed]
  exact pathsNamed_filterMap entries

theorem patchSetPaths_of_no_files {patchSet : Members}
    (unlisted : ∀ entries, patchSet.lookup "files" ≠ some (.array entries)) :
    patchSetPaths patchSet = [] := by
  have none : (patchSet.lookup "files").bind Json.items? = none := by
    rw [Option.bind_eq_none_iff]
    intro value found
    cases value with
    | array entries => exact absurd found (unlisted entries)
    | null | bool _ | number _ | string _ | object _ => rfl
  rw [patchSetPaths, none]
  rfl

namespace QueryRecord

/-- A record whose type is exactly `stats`. -/
def OfStatistics (record : Members) : Prop :=
  record.lookup "type" = some (.string "stats")

/-- A record with an object as its current patch set. -/
def HasPatchSet (record patchSet : Members) : Prop :=
  record.lookup "currentPatchSet" = some (.object patchSet)

theorem isStatistics_iff {record : Members} :
    isStatistics record = true ↔ OfStatistics record := by
  unfold isStatistics OfStatistics
  split
  · rename_i name found
    simp [found]
  · rename_i noName
    constructor
    · intro impossible
      cases impossible
    · intro found
      exact absurd found (noName "stats")

theorem currentPatchSet?_eq_some_iff {record patchSet : Members} :
    currentPatchSet? record = some patchSet ↔ HasPatchSet record patchSet := by
  rw [currentPatchSet?, HasPatchSet, Option.bind_eq_some_iff]
  constructor
  · rintro ⟨value, found, object⟩
    cases value with
    | object members =>
        cases object
        exact found
    | null | bool _ | number _ | string _ | array _ => cases object
  · intro found
    exact ⟨.object patchSet, found, rfl⟩

/-- A record that has no say in the file list. -/
def PassedOver (record : Members) : Prop :=
  OfStatistics record ∨ ∀ patchSet, ¬ HasPatchSet record patchSet

/-- The patch set that counts, if a record has it. -/
def considered? (record : Members) : Option Members :=
  if isStatistics record then none else currentPatchSet? record

theorem considered?_eq_none_iff {record : Members} :
    considered? record = none ↔ PassedOver record := by
  rw [considered?, PassedOver, ← isStatistics_iff]
  split
  · rename_i statistics
    simp [statistics]
  · rename_i other
    simp only [other, Option.eq_none_iff_forall_ne_some, Bool.false_eq_true, false_or, ne_eq,
      currentPatchSet?_eq_some_iff]

theorem considered?_eq_some {record patchSet : Members} (other : ¬ OfStatistics record)
    (found : HasPatchSet record patchSet) : considered? record = some patchSet := by
  rw [← isStatistics_iff] at other
  rw [considered?, if_neg other]
  exact currentPatchSet?_eq_some_iff.mpr found

end QueryRecord

open QueryRecord

theorem findSome?_considered (records : List Members) :
    (records.filter (fun record => !isStatistics record)).findSome? currentPatchSet? =
      records.findSome? considered? := by
  induction records with
  | nil => rfl
  | cons record records induction =>
      rw [List.findSome?_cons, considered?]
      cases statistics : isStatistics record with
      | true => rw [List.filter_cons_of_neg (by simp [statistics]), induction, if_pos rfl]
      | false =>
          rw [List.filter_cons_of_pos (by simp [statistics]), List.findSome?_cons, induction,
            if_neg (by decide)]

theorem findSome?_passedOver {records : List Members}
    (passed : ∀ record ∈ records, PassedOver record) :
    records.findSome? considered? = none := by
  rw [List.findSome?_eq_none_iff]
  intro record member
  exact considered?_eq_none_iff.mpr (passed record member)

theorem currentPatchSetPaths_passedOver {records : List Members}
    (passed : ∀ record ∈ records, PassedOver record) : currentPatchSetPaths records = [] := by
  simp only [currentPatchSetPaths, findSome?_considered, findSome?_passedOver passed]

/-- The records in front are passed over, and those behind are not looked at. -/
theorem currentPatchSetPaths_first {before behind : List Members} {record patchSet : Members}
    (passed : ∀ earlier ∈ before, PassedOver earlier) (other : ¬ OfStatistics record)
    (found : HasPatchSet record patchSet) :
    currentPatchSetPaths (before ++ record :: behind) = patchSetPaths patchSet := by
  simp only [currentPatchSetPaths, findSome?_considered, List.findSome?_append,
    findSome?_passedOver passed, Option.none_or, List.findSome?_cons,
    considered?_eq_some other found]

namespace QueryRun

theorem paths_of_ok {run : QueryRun (List Members)} {records : List Members}
    (answered : run.answer? = some (.ok records)) :
    run.paths = currentPatchSetPaths records := by
  obtain ⟨ended, rfl⟩ := answer?_eq_ok.mp answered
  rw [paths, ended]

theorem paths_of_error {run : QueryRun (List Members)} {error : QueryError}
    (answered : run.answer? = some (.error error)) : run.paths = [] := by
  rw [paths, answer?_eq_error.mp answered]

end QueryRun

namespace Query

/-- The file list is that of the first record that is no statistics and has a current
patch set: the paths in its file list, and none if it has no such list or if there is no
such record.  A query for it that is answered with records gives their list, and any
line that is no data record and any failure of the source give the empty list.  It
returns whenever the source comes to an end, and has closed the session once if there
was one. -/
theorem files_of_first_patch_set :
    (∀ (before : List Members) (record : Members) (behind : List Members) (patchSet : Members),
      (∀ earlier ∈ before, PassedOver earlier) → ¬ OfStatistics record →
      HasPatchSet record patchSet →
      (∀ entries, patchSet.lookup "files" = some (.array entries) →
        PathsNamed entries (currentPatchSetPaths (before ++ record :: behind))) ∧
      ((∀ entries, patchSet.lookup "files" ≠ some (.array entries)) →
        currentPatchSetPaths (before ++ record :: behind) = [])) ∧
    (∀ records : List Members, (∀ record ∈ records, PassedOver record) →
      currentPatchSetPaths records = []) ∧
    ∀ (source : Source) (change : String),
      let query := ofChange change
      let run := query.objects source
      (∀ ending, source.ending? query.command = some ending → run.outcome.isSome) ∧
      (∀ records, run.answer? = some (.ok records) ↔
        source.ending? query.command = some (.ok ()) ∧
          List.Forall₂ (fun line record => QueryRecord.ofLine line = .ok (.data record))
            (source.results query.command) records) ∧
      (∀ records, run.answer? = some (.ok records) → run.paths = currentPatchSetPaths records) ∧
      (∀ line ∈ source.results query.command, ∀ error, Rejected line error → run.paths = []) ∧
      (∀ error, source.ending? query.command = some (.error error) → run.paths = []) ∧
      (∀ error, source query.command = .error error → run.acts = [.opened query.command]) ∧
      ∀ session, source query.command = .ok session → run.outcome.isSome →
        ∃ acts, run.acts = .opened query.command :: acts ++ [.closed] ∧
          QueryAct.closed ∉ acts := by
  refine ⟨?_, fun records => currentPatchSetPaths_passedOver, ?_⟩
  · intro before record behind patchSet passed other found
    rw [currentPatchSetPaths_first passed other found]
    exact ⟨fun entries => patchSetPaths_of_files, patchSetPaths_of_no_files⟩
  · intro source change
    refine ⟨fun ending => objects_returns, fun records => objects_ok_iff,
      fun records => QueryRun.paths_of_ok, ?_, ?_,
      fun error failed => acts_of_unopened failed _ _,
      fun session opened => acts_of_opened opened _ _⟩
    · intro line member error rejected
      have noRecord : ∀ record, QueryRecord.ofLine line ≠ .ok (.data record) := by
        intro record read
        have refused := members_eq_error_iff.mpr rejected
        cases refused.symm.trans (members_eq_ok_iff.mpr read)
      obtain ⟨failure, answered⟩ := objects_fail_on_line member noRecord
      exact QueryRun.paths_of_error answered
    · intro error failed
      obtain ⟨failure, answered⟩ := objects_fail_with_source failed
      exact QueryRun.paths_of_error answered

/-- A list with a path twice, and with entries that name none. -/
def fileEntries : List Json :=
  [.object [("file", .string "a")], .object [("file", .ofNat 3)], .string "b",
    .object [("file", .string "a")]]

def listedPatchSet : Members :=
  [("files", .array fileEntries)]

/-- Statistics that carry a patch set, and a record without one. -/
def recordsInFront : List Members :=
  [[("currentPatchSet", .object listedPatchSet), ("type", .string "stats")],
    [("currentPatchSet", .null)]]

/-- The file list of a change, and an error of the query behind it. -/
def listAndError : Session :=
  [.ofLine "\x7b\"currentPatchSet\":\x7b\"files\":[\x7b\"file\":\"a\"\x7d]\x7d\x7d",
    .ofLine "\x7b\"type\":\"error\"\x7d"]

theorem files_of_first_patch_set_late :
    (∀ earlier ∈ recordsInFront, PassedOver earlier) ∧
      PathsNamed fileEntries (currentPatchSetPaths
        (recordsInFront ++ [("currentPatchSet", .object listedPatchSet)] :: recordsInFront)) ∧
      Rejected "\x7b\"type\":\"error\"\x7d" (.remote "") ∧
      ((ofChange "1").objects (fun _ => .ok listAndError)).paths = [] ∧
      ∃ acts, ((ofChange "1").objects (fun _ => .ok listAndError)).acts =
        .opened (ofChange "1").command :: acts ++ [.closed] ∧ QueryAct.closed ∉ acts := by
  have passed : ∀ earlier ∈ recordsInFront, PassedOver earlier := by
    intro earlier member
    rcases List.mem_cons.mp member with rfl | rest
    · exact .inl rfl
    · cases List.mem_singleton.mp rest
      apply Or.inr
      intro patchSet found
      cases found
  have other : ¬ OfStatistics [("currentPatchSet", .object listedPatchSet)] := by
    intro found
    cases found
  have isError : IsError [("type", .string "error")] := isError_iff.mp rfl
  have rejected : Rejected "\x7b\"type\":\"error\"\x7d" (.remote "") := .remote rfl isError
  obtain ⟨first, -, looked⟩ := files_of_first_patch_set
  obtain ⟨listed, -⟩ := first recordsInFront _ recordsInFront listedPatchSet passed other rfl
  obtain ⟨-, -, -, refused, -, -, closed⟩ := looked (fun _ => .ok listAndError) "1"
  exact ⟨passed, listed _ rfl, rejected,
    refused _ (List.mem_cons_of_mem _ List.mem_cons_self) _ rejected, closed _ rfl rfl⟩

end Query

end ReviewFeed
