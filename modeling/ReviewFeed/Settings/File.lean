import ReviewFeed.Settings.Reader
import ReviewFeed.Text.Utf8

/-!
# Settings files

Settings come from the first file that exists among the places where one may be.
Without any file they are the defaults.
-/

namespace ReviewFeed

/-- What is found under the path of a file. -/
inductive FileContent
  | missing
  | unreadable (reason : String)
  | bytes (content : List UInt8)
  deriving DecidableEq, Repr

/-- Why settings could not be loaded from a file. -/
inductive LoadError
  | unreadable (path reason : String)
  | malformed (path : String)
  | invalid (path : String) (fault : SettingsFault)
  deriving DecidableEq, Repr

def LoadError.message : LoadError → String
  | .unreadable path reason => "Failed to read config file " ++ path ++ ": " ++ reason
  | .malformed path => "Failed to parse config file " ++ path
  | .invalid path fault => "Invalid config file " ++ path ++ ": " ++ fault.message

namespace Settings

def loadFile (path : String) (content : FileContent) : Except LoadError Settings :=
  match content with
  | .missing => .ok default
  | .unreadable reason => .error (.unreadable path reason)
  | .bytes content =>
      match Utf8.decode? content with
      | none => .error (.unreadable path "stream did not contain valid UTF-8")
      | some text =>
          match ofToml? (String.ofList text) with
          | none => .error (.malformed path)
          | some settings =>
              match settings.validate with
              | .ok () => .ok settings
              | .error fault => .error (.invalid path fault)

/-- The first path under which there is something. -/
def find? (files : String → FileContent) (paths : List String) : Option String :=
  paths.find? (fun path => files path ≠ .missing)

/-- The settings in the first file that exists, or the defaults. -/
def load (files : String → FileContent) (paths : List String) : Except LoadError Settings :=
  match find? files paths with
  | some path => loadFile path (files path)
  | none => .ok default

/-- The places where a settings file may be: the working directory and the user's
directory for settings, if there is one. -/
def searchPaths (directory : Option String) : List String :=
  ".gerrit-events.toml" ::
    (directory.map (fun directory => directory ++ "/gerrit-events/config.toml")).toList

end Settings

end ReviewFeed
