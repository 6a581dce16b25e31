import ReviewFeed.Json.Value

/-!
# Kinds of events

The kinds are a closed set.  Each has a type name, the attributes an event of
that kind must carry to say what it is about, and a place in or outside the
review workflow.
-/

namespace ReviewFeed

/-- An attribute that an event cannot do without, and its JSON type. -/
inductive RequiredField
  | object (key : String)
  | string (key : String)
  deriving DecidableEq, Repr

/-- Whether the members carry the attribute with the right type. -/
def RequiredField.isPresent (members : Members) : RequiredField → Bool
  | .object key => (members.lookup key).any Json.isObject
  | .string key => (members.lookup key).any Json.isString

inductive EventKind
  | patchsetCreated
  | draftPublished
  | changeAbandoned
  | changeMerged
  | changeRestored
  | changeDeleted
  | commentAdded
  | reviewerAdded
  | reviewerDeleted
  | topicChanged
  | hashtagsChanged
  | wipStateChanged
  | privateStateChanged
  | voteDeleted
  | patchsetNotified
  | refUpdated
  | refReplicated
  | refReplicationDone
  | projectCreated
  deriving DecidableEq, Repr

namespace EventKind

/-- Every kind, in order. -/
def all : List EventKind :=
  [.patchsetCreated, .draftPublished, .changeAbandoned, .changeMerged, .changeRestored,
    .changeDeleted, .commentAdded, .reviewerAdded, .reviewerDeleted, .topicChanged,
    .hashtagsChanged, .wipStateChanged, .privateStateChanged, .voteDeleted,
    .patchsetNotified, .refUpdated, .refReplicated, .refReplicationDone, .projectCreated]

/-- The type name that the server uses. -/
def typeName : EventKind → String
  | .patchsetCreated => "patchset-created"
  | .draftPublished => "draft-published"
  | .changeAbandoned => "change-abandoned"
  | .changeMerged => "change-merged"
  | .changeRestored => "change-restored"
  | .changeDeleted => "change-deleted"
  | .commentAdded => "comment-added"
  | .reviewerAdded => "reviewer-added"
  | .reviewerDeleted => "reviewer-deleted"
  | .topicChanged => "topic-changed"
  | .hashtagsChanged => "hashtags-changed"
  | .wipStateChanged => "wip-state-changed"
  | .privateStateChanged => "private-state-changed"
  | .voteDeleted => "vote-deleted"
  | .patchsetNotified => "patchset-notified"
  | .refUpdated => "ref-updated"
  | .refReplicated => "ref-replicated"
  | .refReplicationDone => "ref-replication-done"
  | .projectCreated => "project-created"

def ofTypeName? (name : String) : Option EventKind :=
  all.find? (fun kind => kind.typeName == name)

/-- Whether events of this kind take part in the review workflow. -/
def isScorable : EventKind → Bool
  | .patchsetCreated | .draftPublished | .changeMerged | .changeRestored | .commentAdded
  | .wipStateChanged | .privateStateChanged | .patchsetNotified => true
  | _ => false

/-- The attributes without which an event of this kind is of no use. -/
def requiredFields : EventKind → List RequiredField
  | .changeDeleted | .topicChanged | .hashtagsChanged => [.object "change"]
  | .refUpdated => [.object "refUpdate"]
  | .refReplicated | .refReplicationDone => [.string "project", .string "ref"]
  | .projectCreated => [.string "projectName"]
  | _ => [.object "change", .object "patchSet"]

end EventKind

end ReviewFeed
