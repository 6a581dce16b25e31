import ReviewFeed.Json.Reader
import ReviewFeed.Json.Writer
import ReviewFeed.Session.Error

/-!
# Query records

Each line of a query result is a JSON object.  One whose type is `error`, in any
case of its letters, reports an error of the query itself.
-/

namespace ReviewFeed

/-- Why a line is no record. -/
inductive RecordFault
  | notObject (value : Json)
  | notJson

/-- The reason in words.  The details of a text that is no JSON are not kept. -/
def RecordFault.message : RecordFault → String
  | .notObject value => "expected a JSON object, got " ++ value.render
  | .notJson => "<syntax>"

inductive QueryError
  /-- The server reported an error among the records. -/
  | remote (message : String)
  | malformed (line : String) (fault : RecordFault)
  | cancelled
  | session (error : SessionError)

def QueryError.message : QueryError → String
  | .remote message => "Gerrit query error: " ++ message
  | .malformed _ fault => "Malformed query record: " ++ fault.message
  | .cancelled => "Query cancelled"
  | .session error => "Transport error: " ++ error.message

/-- A line of a query result. -/
inductive QueryRecord
  | data (members : Members)
  | error (message : String)

namespace QueryRecord

/-- A text in lower case, as far as its letters are ASCII. -/
def lowerCase (text : String) : List Char :=
  text.toList.map Char.toLower

/-- Whether a JSON object is an error record. -/
def isError (members : Members) : Bool :=
  match members.lookup "type" with
  | some (.string name) => lowerCase name == "error".toList
  | _ => false

/-- The record of a JSON object.  An error without a text has the empty one. -/
def ofMembers (members : Members) : QueryRecord :=
  if isError members then .error (((members.lookup "message").bind Json.string?).getD "")
  else .data members

def ofLine (line : String) : Except QueryError QueryRecord :=
  match Json.read? line with
  | some (.object members) => .ok (ofMembers members)
  | some value => .error (.malformed line (.notObject value))
  | none => .error (.malformed line .notJson)

end QueryRecord

end ReviewFeed
