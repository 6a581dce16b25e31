import ReviewFeed.Attribute.Fields
import ReviewFeed.Attribute.Provider
import ReviewFeed.Text.Quoted
import ReviewFeed.Url.Check

/-!
# Settings

Where the review server is reached, where reviews are posted, and how large the
queues are.  Settings have defaults for everything and are checked as a whole.
-/

namespace ReviewFeed

/-- How the server is reached for queries and events. -/
structure SshSettings where
  host : String
  port : Nat
  user : Option String
  keyFile : Option String
  connectTimeout : Nat
  deriving DecidableEq, Repr

namespace SshSettings

def default : SshSettings :=
  { host := "localhost", port := 29418, user := none, keyFile := none, connectTimeout := 10 }

def provider (ssh : SshSettings) : Provider :=
  { name := some ssh.host
    host := some ssh.host
    port := some (Text.numeral ssh.port)
    scheme := some "ssh"
    url := none
    version := none }

def program : String := "ssh"

/-- The user and the host, joined by an at sign if there is a user. -/
def destination (ssh : SshSettings) : String :=
  match ssh.user with
  | some user => user ++ "@" ++ ssh.host
  | none => ssh.host

/-- The arguments of the program before the command. -/
def arguments (ssh : SshSettings) : List String :=
  let key :=
    match ssh.keyFile with
    | some file => ["-i", file]
    | none => []
  ["-p", Text.numeral ssh.port, "-o", "BatchMode=yes", "-o",
    "ConnectTimeout=" ++ Text.numeral ssh.connectTimeout] ++ key ++ [ssh.destination]

def toJson (ssh : SshSettings) : Json :=
  .object
    [("host", .string ssh.host),
      ("port", .ofNat ssh.port),
      ("user", .ofOption .string ssh.user),
      ("key_file", .ofOption .string ssh.keyFile),
      ("connect_timeout_secs", .ofNat ssh.connectTimeout)]

end SshSettings

/-- Where reviews are posted, and as whom. -/
structure RestSettings where
  frontendUrl : String
  httpUser : Option String
  /-- The environment variable that holds the password. -/
  httpPasswordEnv : String
  proxy : Option String
  deriving DecidableEq, Repr

namespace RestSettings

def default : RestSettings :=
  { frontendUrl := "http://localhost:8080/", httpUser := none
    httpPasswordEnv := "GERRIT_HTTP_PASSWORD", proxy := none }

def toJson (rest : RestSettings) : Json :=
  .object
    [("frontend_url", .string rest.frontendUrl),
      ("http_user", .ofOption .string rest.httpUser),
      ("http_password_env", .string rest.httpPasswordEnv),
      ("proxy", .ofOption .string rest.proxy)]

end RestSettings

/-- How much work waits and how many workers there are. -/
structure DispatchSettings where
  queueCapacity : Nat
  workers : Nat
  deriving DecidableEq, Repr

namespace DispatchSettings

def default : DispatchSettings :=
  { queueCapacity := 1024, workers := 3 }

def toJson (dispatch : DispatchSettings) : Json :=
  .object [("queue_capacity", .ofNat dispatch.queueCapacity), ("workers", .ofNat dispatch.workers)]

end DispatchSettings

structure Settings where
  ssh : SshSettings
  rest : RestSettings
  dispatch : DispatchSettings
  deriving DecidableEq, Repr

/-- Why settings cannot be used. -/
inductive SettingsFault
  | blankHost
  | noPort
  | noWorkers
  | noCapacity
  | frontendUrl (url : String) (fault : UrlFault)
  deriving DecidableEq, Repr

def SettingsFault.message : SettingsFault → String
  | .blankHost => "ssh.host must not be empty"
  | .noPort => "ssh.port must not be 0"
  | .noWorkers => "dispatch.workers must be at least 1"
  | .noCapacity => "dispatch.queue_capacity must be at least 1"
  | .frontendUrl url fault =>
      "rest.frontend_url " ++ Text.quoted url ++ " is not a URL: " ++ fault.message

namespace Settings

def default : Settings :=
  { ssh := .default, rest := .default, dispatch := .default }

def validate (settings : Settings) : Except SettingsFault Unit := do
  if Text.isBlankLine settings.ssh.host then throw .blankHost
  if settings.ssh.port = 0 then throw .noPort
  if settings.dispatch.workers = 0 then throw .noWorkers
  if settings.dispatch.queueCapacity = 0 then throw .noCapacity
  match Url.check settings.rest.frontendUrl with
  | .ok () => pure ()
  | .error fault => throw (.frontendUrl settings.rest.frontendUrl fault)

def toJson (settings : Settings) : Json :=
  .object
    [("ssh", settings.ssh.toJson), ("rest", settings.rest.toJson),
      ("dispatch", settings.dispatch.toJson)]

end Settings

end ReviewFeed
