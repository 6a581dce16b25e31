import ReviewFeed.Review.Input
import ReviewFeed.Review.Status
import ReviewFeed.Review.Target
import ReviewFeed.Text.Base64

/-!
# Posting reviews

A review is posted as one request to its endpoint.  A response of any status has
a body, and a request may have no response at all; both kinds of failure are
reported in one line of the log and never raised further.
-/

namespace ReviewFeed

/-- The user name and the password, if one is known. -/
structure Credentials where
  user : String
  password : Option String
  deriving DecidableEq, Repr

/-- The value of the header that proves who one is. -/
def Credentials.authorization (credentials : Credentials) : String :=
  let pair := credentials.user ++ ":" ++ credentials.password.getD ""
  "Basic " ++ String.ofList (Base64.encode (Utf8.encode pair.toList))

structure ReviewRequest where
  url : String
  authorization : Option String
  body : String
  deriving DecidableEq, Repr

/-- The media type of the body of a request. -/
def ReviewRequest.contentType : String := "application/json"

/-- What comes of a request. -/
inductive HttpOutcome
  | response (status : Nat) (body : List UInt8)
  | failed (reason : String)
  deriving DecidableEq, Repr

/-- The text of a response body, which the server sends as UTF-8, without a byte order mark
in front. -/
def responseText (body : List UInt8) : String :=
  match Utf8.decodeLossy body with
  | '\uFEFF' :: chars => String.ofList chars
  | chars => String.ofList chars

inductive PostError
  | status (code : Nat) (body : String)
  | http (reason : String)
  deriving DecidableEq, Repr

def PostError.message : PostError → String
  | .status code body => "Gerrit response " ++ httpStatusText code ++ ": " ++ body
  | .http reason => reason

/-- The line that the log gets for a failure. -/
def PostError.report : PostError → String
  | .status code _ => "ERROR Gerrit response: " ++ httpStatusText code
  | .http reason => "ERROR Failed to submit result to Gerrit: " ++ reason

/-- Where reviews are posted, and as whom. -/
structure ReviewPoster where
  frontendUrl : String
  credentials : Option Credentials
  deriving DecidableEq, Repr

namespace ReviewPoster

def request (poster : ReviewPoster) (target : ReviewTarget) (review : ReviewInput) :
    ReviewRequest :=
  { url := target.change.endpoint target.revision poster.frontendUrl
    authorization := poster.credentials.map Credentials.authorization
    body := review.render }

/-- The body of a successful response, or why there is none. -/
def result : HttpOutcome → Except PostError String
  | .response status body =>
      if isHttpSuccess status then .ok (responseText body)
      else .error (.status status (responseText body))
  | .failed reason => .error (.http reason)

/-- The body of a response of any status, or the empty text. -/
def reply (outcome : HttpOutcome) : String :=
  match result outcome with
  | .ok body => body
  | .error (.status _ body) => body
  | .error (.http _) => ""

/-- The lines that the log gets. -/
def reports (outcome : HttpOutcome) : List String :=
  match result outcome with
  | .ok _ => []
  | .error error => [error.report]

end ReviewPoster

end ReviewFeed
