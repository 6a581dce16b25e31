import ReviewFeed.Query.Run

/-!
# The files of a change

The file list of a change is that of the first record with a current patch set.
Statistics records do not count.  A query that fails gives the empty list.
-/

namespace ReviewFeed

/-- Whether a record holds the statistics of the query. -/
def QueryRecord.isStatistics (record : Members) : Bool :=
  match record.lookup "type" with
  | some (.string name) => name == "stats"
  | _ => false

/-- The members of the current patch set of a record. -/
def QueryRecord.currentPatchSet? (record : Members) : Option Members :=
  (record.lookup "currentPatchSet").bind Json.members?

def filePath? (entry : Json) : Option String :=
  (entry.get? "file").bind Json.string?

/-- The paths in the file list of a patch set. -/
def patchSetPaths (patchSet : Members) : List String :=
  (((patchSet.lookup "files").bind Json.items?).getD []).filterMap filePath?

/-- The paths of the files of the current patch set. -/
def currentPatchSetPaths (records : List Members) : List String :=
  let considered := records.filter (fun record => !QueryRecord.isStatistics record)
  match considered.findSome? QueryRecord.currentPatchSet? with
  | some patchSet => patchSetPaths patchSet
  | none => []

/-- The query for the files of a change. -/
def Query.ofChange (change : String) : Query :=
  .currentFiles ("change:" ++ change)

/-- The paths found by a query for the files of a change. -/
def QueryRun.paths (run : QueryRun (List Members)) : List String :=
  match run.outcome with
  | some (.ok ()) => currentPatchSetPaths run.state
  | _ => []

end ReviewFeed
