/-!
# Session errors

What can go wrong while a remote command is started or its output is read.
-/

namespace ReviewFeed

inductive SessionError
  | programNotFound (program : String)
  | permissionDenied (program : String)
  | connectionFailed (reason : String)
  | closed
  | noOutput
  | io (reason : String)
  deriving DecidableEq, Repr

def SessionError.message : SessionError → String
  | .programNotFound program => "Transport program not found: " ++ program
  | .permissionDenied program => "Permission denied spawning " ++ program
  | .connectionFailed reason => "Connection failed: " ++ reason
  | .closed => "Stream closed"
  | .noOutput => "Process stdout not available"
  | .io reason => "I/O error: " ++ reason

end ReviewFeed
