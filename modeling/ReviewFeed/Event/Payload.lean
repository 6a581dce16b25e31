import ReviewFeed.Attribute.Change
import ReviewFeed.Attribute.PatchSet
import ReviewFeed.Attribute.RefUpdate
import ReviewFeed.Event.Kind

/-!
# Event payloads

A payload holds what an event of each kind says.  Events about a change share
the change, its patch set and the time the server created the event; they differ
in the account that acted and in what it did.
-/

namespace ReviewFeed

/-- What every event about a change says. -/
structure ChangeContext where
  change : Option Change
  patchSet : Option PatchSet
  createdOn : Option Timestamp
  deriving DecidableEq, Repr

namespace ChangeContext

def ofFields (fields : Fields) : ChangeContext :=
  { change := fields.read "change" Change.read?
    patchSet := fields.read "patchSet" PatchSet.read?
    createdOn := fields.read "eventCreatedOn" Timestamp.read? }

def members (context : ChangeContext) : Members :=
  [("change", .ofOption Change.toJson context.change),
    ("patchSet", .ofOption PatchSet.toJson context.patchSet),
    ("eventCreatedOn", .ofOption Timestamp.toJson context.createdOn)]

end ChangeContext

/-- What an event says, by kind. -/
inductive Payload
  | patchsetCreated (on : ChangeContext) (uploader : Option Account)
  | draftPublished (on : ChangeContext) (uploader : Option Account)
  | changeAbandoned (on : ChangeContext) (abandoner : Option Account) (reason : Option String)
  | changeMerged (on : ChangeContext) (submitter : Option Account) (newRev : Option String)
  | changeRestored (on : ChangeContext) (restorer : Option Account) (reason : Option String)
  | changeDeleted (on : ChangeContext) (deleter : Option Account)
  | commentAdded (on : ChangeContext) (author : Option Account) (approvals : List Approval)
      (comment : Option String)
  | reviewerAdded (on : ChangeContext) (reviewer adder : Option Account)
  | reviewerDeleted (on : ChangeContext) (reviewer remover : Option Account)
      (approvals : List Approval) (comment : Option String)
  | topicChanged (on : ChangeContext) (changer : Option Account) (oldTopic : Option String)
  | hashtagsChanged (on : ChangeContext) (editor : Option Account)
      (added removed hashtags : List String)
  | wipStateChanged (on : ChangeContext) (changer : Option Account)
  | privateStateChanged (on : ChangeContext) (changer : Option Account)
  | voteDeleted (on : ChangeContext) (reviewer remover : Option Account)
      (approvals : List Approval) (comment : Option String)
  | patchsetNotified (on : ChangeContext) (notifier : Option Account)
  | refUpdated (submitter : Option Account) (refUpdate : Option RefUpdate)
      (createdOn : Option Timestamp)
  | refReplicated (project gitRef targetNode status refStatus : Option String)
      (createdOn : Option Timestamp)
  | refReplicationDone (project gitRef : Option String) (nodesCount : Option Int)
      (createdOn : Option Timestamp)
  | projectCreated (projectName projectHead : Option String) (createdOn : Option Timestamp)
  deriving DecidableEq, Repr

namespace Payload

def kind : Payload → EventKind
  | .patchsetCreated .. => .patchsetCreated
  | .draftPublished .. => .draftPublished
  | .changeAbandoned .. => .changeAbandoned
  | .changeMerged .. => .changeMerged
  | .changeRestored .. => .changeRestored
  | .changeDeleted .. => .changeDeleted
  | .commentAdded .. => .commentAdded
  | .reviewerAdded .. => .reviewerAdded
  | .reviewerDeleted .. => .reviewerDeleted
  | .topicChanged .. => .topicChanged
  | .hashtagsChanged .. => .hashtagsChanged
  | .wipStateChanged .. => .wipStateChanged
  | .privateStateChanged .. => .privateStateChanged
  | .voteDeleted .. => .voteDeleted
  | .patchsetNotified .. => .patchsetNotified
  | .refUpdated .. => .refUpdated
  | .refReplicated .. => .refReplicated
  | .refReplicationDone .. => .refReplicationDone
  | .projectCreated .. => .projectCreated

/-- The change, patch set and creation time, for events about a change. -/
def context? : Payload → Option ChangeContext
  | .patchsetCreated on _ | .draftPublished on _ | .changeAbandoned on _ _
  | .changeMerged on _ _ | .changeRestored on _ _ | .changeDeleted on _
  | .commentAdded on _ _ _ | .reviewerAdded on _ _ | .reviewerDeleted on _ _ _ _
  | .topicChanged on _ _ | .hashtagsChanged on _ _ _ _ | .wipStateChanged on _
  | .privateStateChanged on _ | .voteDeleted on _ _ _ _ | .patchsetNotified on _ => some on
  | .refUpdated .. | .refReplicated .. | .refReplicationDone .. | .projectCreated .. => none

/-- The account that caused the event, in the role that its kind names. -/
def account? : Payload → Option Account
  | .patchsetCreated _ uploader | .draftPublished _ uploader => uploader
  | .changeAbandoned _ abandoner _ => abandoner
  | .changeMerged _ submitter _ => submitter
  | .changeRestored _ restorer _ => restorer
  | .changeDeleted _ deleter => deleter
  | .commentAdded _ author _ _ => author
  | .reviewerAdded _ _ adder => adder
  | .reviewerDeleted _ _ remover _ _ | .voteDeleted _ _ remover _ _ => remover
  | .topicChanged _ changer _ => changer
  | .hashtagsChanged _ editor _ _ _ => editor
  | .wipStateChanged _ changer | .privateStateChanged _ changer => changer
  | .patchsetNotified _ notifier => notifier
  | .refUpdated submitter _ _ => submitter
  | .refReplicated .. | .refReplicationDone .. | .projectCreated .. => none

/-- When the server created the event, if it said so. -/
def createdOn? : Payload → Option Timestamp
  | .refUpdated _ _ createdOn => createdOn
  | .refReplicated _ _ _ _ _ createdOn => createdOn
  | .refReplicationDone _ _ _ createdOn => createdOn
  | .projectCreated _ _ createdOn => createdOn
  | payload => payload.context?.bind (·.createdOn)

def ofFields (kind : EventKind) (fields : Fields) : Payload :=
  let on := ChangeContext.ofFields fields
  let account (name : String) := fields.read name Account.read?
  let text (name : String) := fields.read name Json.string?
  let approvals := fields.list "approvals" (Json.list? Approval.read?)
  let createdOn := fields.read "eventCreatedOn" Timestamp.read?
  match kind with
  | .patchsetCreated => .patchsetCreated on (account "uploader")
  | .draftPublished => .draftPublished on (account "uploader")
  | .changeAbandoned => .changeAbandoned on (account "abandoner") (text "reason")
  | .changeMerged => .changeMerged on (account "submitter") (text "newRev")
  | .changeRestored => .changeRestored on (account "restorer") (text "reason")
  | .changeDeleted => .changeDeleted on (account "deleter")
  | .commentAdded => .commentAdded on (account "author") approvals (text "comment")
  | .reviewerAdded => .reviewerAdded on (account "reviewer") (account "adder")
  | .reviewerDeleted =>
      .reviewerDeleted on (account "reviewer") (account "remover") approvals (text "comment")
  | .topicChanged => .topicChanged on (account "changer") (text "oldTopic")
  | .hashtagsChanged =>
      .hashtagsChanged on (account "editor") (fields.list "added" Json.strings?)
        (fields.list "removed" Json.strings?) (fields.list "hashtags" Json.strings?)
  | .wipStateChanged => .wipStateChanged on (account "changer")
  | .privateStateChanged => .privateStateChanged on (account "changer")
  | .voteDeleted =>
      .voteDeleted on (account "reviewer") (account "remover") approvals (text "comment")
  | .patchsetNotified => .patchsetNotified on (account "notifier")
  | .refUpdated =>
      .refUpdated (account "submitter") (fields.read "refUpdate" RefUpdate.read?) createdOn
  | .refReplicated =>
      .refReplicated (text "project") (text "ref") (text "targetNode") (text "status")
        (text "refStatus") createdOn
  | .refReplicationDone =>
      .refReplicationDone (text "project") (text "ref")
        (fields.read "nodesCount" (Json.integerIn? 0 4294967295)) createdOn
  | .projectCreated => .projectCreated (text "projectName") (text "projectHead") createdOn

/-- The members written for a payload, after its type. -/
def members : Payload → Members
  | .patchsetCreated on uploader => on.members ++ [account "uploader" uploader]
  | .draftPublished on uploader => on.members ++ [account "uploader" uploader]
  | .changeAbandoned on abandoner reason =>
      on.members ++ [account "abandoner" abandoner, text "reason" reason]
  | .changeMerged on submitter newRev =>
      on.members ++ [account "submitter" submitter, text "newRev" newRev]
  | .changeRestored on restorer reason =>
      on.members ++ [account "restorer" restorer, text "reason" reason]
  | .changeDeleted on deleter => on.members ++ [account "deleter" deleter]
  | .commentAdded on author approvals comment =>
      on.members ++ [account "author" author, votes approvals, text "comment" comment]
  | .reviewerAdded on reviewer adder =>
      on.members ++ [account "reviewer" reviewer, account "adder" adder]
  | .reviewerDeleted on reviewer remover approvals comment =>
      on.members ++ [account "reviewer" reviewer, account "remover" remover, votes approvals,
        text "comment" comment]
  | .topicChanged on changer oldTopic =>
      on.members ++ [account "changer" changer, text "oldTopic" oldTopic]
  | .hashtagsChanged on editor added removed hashtags =>
      on.members ++ [account "editor" editor, texts "added" added, texts "removed" removed,
        texts "hashtags" hashtags]
  | .wipStateChanged on changer => on.members ++ [account "changer" changer]
  | .privateStateChanged on changer => on.members ++ [account "changer" changer]
  | .voteDeleted on reviewer remover approvals comment =>
      on.members ++ [account "reviewer" reviewer, account "remover" remover, votes approvals,
        text "comment" comment]
  | .patchsetNotified on notifier => on.members ++ [account "notifier" notifier]
  | .refUpdated submitter refUpdate createdOn =>
      [account "submitter" submitter,
        ("refUpdate", .ofOption RefUpdate.toJson refUpdate), time createdOn]
  | .refReplicated project gitRef targetNode status refStatus createdOn =>
      [text "project" project, text "ref" gitRef, text "targetNode" targetNode,
        text "status" status, text "refStatus" refStatus, time createdOn]
  | .refReplicationDone project gitRef nodesCount createdOn =>
      [text "project" project, text "ref" gitRef,
        ("nodesCount", .ofOption .ofInt nodesCount), time createdOn]
  | .projectCreated projectName projectHead createdOn =>
      [text "projectName" projectName, text "projectHead" projectHead, time createdOn]
where
  account (name : String) (value : Option Account) : String × Json :=
    (name, .ofOption Account.toJson value)
  text (name : String) (value : Option String) : String × Json :=
    (name, .ofOption .string value)
  texts (name : String) (value : List String) : String × Json :=
    (name, .ofList .string value)
  votes (approvals : List Approval) : String × Json :=
    ("approvals", .ofList Approval.toJson approvals)
  time (value : Option Timestamp) : String × Json :=
    ("eventCreatedOn", .ofOption Timestamp.toJson value)

end Payload

end ReviewFeed
