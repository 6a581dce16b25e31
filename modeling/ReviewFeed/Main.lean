import ReviewFeed.Command.Run
import Std.Time.DateTime.Timestamp

/-!
# The command line program

The session with the server is opened outside of the program: what it writes is
given on standard input.
-/

namespace ReviewFeed.Program

partial def readToEnd (stream : IO.FS.Stream) (found : ByteArray) : IO ByteArray := do
  let chunk ← stream.read 65536
  if chunk.isEmpty then return found
  readToEnd stream (found ++ chunk)

def readFile (path : String) : IO FileContent := do
  try
    let content ← IO.FS.readBinFile path
    return .bytes content.toList
  catch error =>
    match error with
    | .noFileOrDirectory .. => return .missing
    | error => return .unreadable (toString error)

def settingsDirectory : IO (Option String) := do
  match ← IO.getEnv "XDG_CONFIG_HOME" with
  | some directory =>
      if directory.startsWith "/" then return some directory
      return (← IO.getEnv "HOME").map (· ++ "/.config")
  | none => return (← IO.getEnv "HOME").map (· ++ "/.config")

def presentTime : IO Instant := do
  let nanoseconds := (← Std.Time.Timestamp.now).toNanosecondsSinceUnixEpoch.val
  return (Instant.ofParts? (nanoseconds.fdiv 1000000000)
    (nanoseconds.fmod 1000000000).toNat).getD .epoch

/-- Reads what a request needs: the settings files it may use and the session. -/
def surroundingsOf (request : Option Request) : IO Surroundings := do
  let directory ← settingsDirectory
  let now ← presentTime
  match request with
  | some (.run invocation) =>
      let paths :=
        match invocation.settingsPath with
        | some path => [path]
        | none => Settings.searchPaths directory
      let contents ← paths.mapM readFile
      let output ← readToEnd (← IO.getStdin) .empty
      let child : Child :=
        { output := output.toList, diagnostics := [], status := some (.code 0) }
      return { files := fun path => ((paths.zip contents).lookup path).getD .missing
               directory, launch := fun _ => .ok child, now }
  | _ =>
      return { files := fun _ => .missing, directory, launch := fun _ => .error .notFound, now }

def usage : String :=
  "Usage: gerrit-events [-v] [-c FILE] query|files|listen ..."

end ReviewFeed.Program

open ReviewFeed ReviewFeed.Program

def main (arguments : List String) : IO UInt32 := do
  let request := Request.ofArguments? arguments
  let surroundings ← surroundingsOf request
  match request with
  | none => IO.eprintln usage
  | some .help => IO.println usage
  | some _ => pure ()
  match surroundings.run arguments with
  | none => return 0
  | some result =>
      for line in result.printed do IO.println line
      for message in result.error.toList do IO.eprintln ("Error: " ++ message)
      return result.code.toUInt32
