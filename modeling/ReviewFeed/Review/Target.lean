import ReviewFeed.Event.Basic
import ReviewFeed.Text.Form

/-!
# Review targets

A review goes to a revision of a change.  The change is named by project, branch
and identifier, each encoded and joined by tildes, which no encoded part contains.
-/

namespace ReviewFeed

structure ChangeId where
  project : String
  branch : String
  id : String
  deriving DecidableEq, Repr

namespace ChangeId

/-- The full name of a change that has all of its parts. -/
def ofChange? (change : Change) : Option ChangeId := do
  let project ← change.project
  let branch ← change.branch
  let id ← change.id
  some { project, branch, id }

/-- The name as one part of a URL. -/
def urlPart (change : ChangeId) : String :=
  String.ofList
    (Form.encode change.project ++ '~' :: (Form.encode change.branch ++
      '~' :: Form.encode change.id))

/-- A URL with a slash at its end. -/
def closedUrl (url : String) : String :=
  if url.toList.getLast? = some '/' then url else url ++ "/"

/-- The address to which reviews of a revision are posted. -/
def endpoint (change : ChangeId) (revision frontendUrl : String) : String :=
  closedUrl frontendUrl ++ "a/changes/" ++ change.urlPart ++ "/revisions/" ++ revision ++ "/review"

end ChangeId

/-- What a review is about: a change and a revision of it. -/
structure ReviewTarget where
  change : ChangeId
  revision : String
  deriving DecidableEq, Repr

/-- The target of a review of an event. -/
def Event.reviewTarget? (event : Event) : Option ReviewTarget := do
  let change ← event.change?.bind ChangeId.ofChange?
  let revision ← event.patchSet?.bind (·.revision)
  some { change, revision }

end ReviewFeed
