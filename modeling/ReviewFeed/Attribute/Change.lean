import ReviewFeed.Attribute.Account

/-!
# Changes
-/

namespace ReviewFeed

inductive Status
  | new
  | merged
  | abandoned
  | draft
  | unknown
  deriving DecidableEq, Repr

namespace Status

/-- The status of a name; a name of no status is the unknown one. -/
def ofName (name : String) : Status :=
  if name = "NEW" then .new
  else if name = "MERGED" then .merged
  else if name = "ABANDONED" then .abandoned
  else if name = "DRAFT" then .draft
  else .unknown

def name : Status → String
  | .new => "NEW"
  | .merged => "MERGED"
  | .abandoned => "ABANDONED"
  | .draft => "DRAFT"
  | .unknown => "UNKNOWN"

/-- A status is its name, or an object that binds only its name, to null. -/
def read? : Json → Option Status
  | .string name => some (ofName name)
  | .object [(name, .null)] => some (ofName name)
  | _ => none

def toJson (status : Status) : Json :=
  .string status.name

end Status

structure Comment where
  message : Option String
  reviewer : Option Account
  deriving DecidableEq, Repr

namespace Comment

/-- The names of the fields, in order. -/
def fieldNames : List String := ["message", "reviewer"]

def ofFields (fields : Fields) : Comment :=
  { message := fields.read "message" Json.string?
    reviewer := fields.read "reviewer" Account.read? }

def read? (value : Json) : Option Comment :=
  (Fields.ofJson? fieldNames value).map ofFields

def toJson (comment : Comment) : Json :=
  .object
    [("message", .ofOption .string comment.message),
      ("reviewer", .ofOption Account.toJson comment.reviewer)]

end Comment

/-- A change under review.  Comments are unset when they were not asked for. -/
structure Change where
  project : Option String
  branch : Option String
  id : Option String
  number : Option String
  subject : Option String
  owner : Option Account
  url : Option String
  commitMessage : Option String
  status : Option Status
  topic : Option String
  hashtags : List String
  wip : Bool
  isPrivate : Bool
  createdOn : Option Timestamp
  lastUpdated : Option Timestamp
  comments : Option (List Comment)
  deriving DecidableEq, Repr

namespace Change

/-- The names of the fields, in order. -/
def fieldNames : List String :=
  ["project", "branch", "id", "number", "subject", "owner", "url", "commitMessage",
    "status", "topic", "hashtags", "wip", "private", "createdOn", "lastUpdated", "comments"]

def ofFields (fields : Fields) : Change :=
  { project := fields.read "project" Json.string?
    branch := fields.read "branch" Json.string?
    id := fields.read "id" Json.string?
    number := fields.read "number" Json.scalarText?
    subject := fields.read "subject" Json.string?
    owner := fields.read "owner" Account.read?
    url := fields.read "url" Json.string?
    commitMessage := fields.read "commitMessage" Json.string?
    status := fields.read "status" Status.read?
    topic := fields.read "topic" Json.string?
    hashtags := fields.list "hashtags" Json.strings?
    wip := fields.flag "wip"
    isPrivate := fields.flag "private"
    createdOn := fields.read "createdOn" Timestamp.read?
    lastUpdated := fields.read "lastUpdated" Timestamp.read?
    comments := fields.read "comments" (Json.list? Comment.read?) }

def read? (value : Json) : Option Change :=
  (Fields.ofJson? fieldNames value).map ofFields

def toJson (change : Change) : Json :=
  .object
    [("project", .ofOption .string change.project),
      ("branch", .ofOption .string change.branch),
      ("id", .ofOption .string change.id),
      ("number", .ofOption .string change.number),
      ("subject", .ofOption .string change.subject),
      ("owner", .ofOption Account.toJson change.owner),
      ("url", .ofOption .string change.url),
      ("commitMessage", .ofOption .string change.commitMessage),
      ("status", .ofOption Status.toJson change.status),
      ("topic", .ofOption .string change.topic),
      ("hashtags", .ofList .string change.hashtags),
      ("wip", .bool change.wip),
      ("private", .bool change.isPrivate),
      ("createdOn", .ofOption Timestamp.toJson change.createdOn),
      ("lastUpdated", .ofOption Timestamp.toJson change.lastUpdated),
      ("comments", .ofOption (Json.ofList Comment.toJson) change.comments)]

end Change

end ReviewFeed
