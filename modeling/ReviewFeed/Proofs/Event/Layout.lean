import ReviewFeed.Event.Basic
import ReviewFeed.Proofs.Attribute.Layout

/-!
# Layouts of events

The kind of an event decides under which names its attributes are found.  Besides
those of its own, an event about a change has the attributes of its context.
-/

namespace ReviewFeed

namespace ChangeContext

def layout : Layout :=
  [("change", .record .change), ("patchSet", .record .patchSet), ("eventCreatedOn", .time)]

def attributes (context : ChangeContext) : List (String × Attribute) :=
  [("change", ⟨.record .change, context.change⟩),
    ("patchSet", ⟨.record .patchSet, context.patchSet⟩),
    ("eventCreatedOn", ⟨.time, context.createdOn⟩)]

theorem eq_iff {one other : ChangeContext} :
    one = other ↔ one.change = other.change ∧ one.patchSet = other.patchSet ∧
      one.createdOn = other.createdOn := by
  cases one
  cases other
  simp only [mk.injEq]

end ChangeContext

namespace EventKind

def layout : EventKind → Layout
  | .patchsetCreated | .draftPublished => ChangeContext.layout ++ [account "uploader"]
  | .changeAbandoned => ChangeContext.layout ++ [account "abandoner", ("reason", .text)]
  | .changeMerged => ChangeContext.layout ++ [account "submitter", ("newRev", .text)]
  | .changeRestored => ChangeContext.layout ++ [account "restorer", ("reason", .text)]
  | .changeDeleted => ChangeContext.layout ++ [account "deleter"]
  | .commentAdded =>
      ChangeContext.layout ++
        [account "author", ("approvals", .records .approval), ("comment", .text)]
  | .reviewerAdded => ChangeContext.layout ++ [account "reviewer", account "adder"]
  | .reviewerDeleted | .voteDeleted =>
      ChangeContext.layout ++
        [account "reviewer", account "remover", ("approvals", .records .approval),
          ("comment", .text)]
  | .topicChanged => ChangeContext.layout ++ [account "changer", ("oldTopic", .text)]
  | .hashtagsChanged =>
      ChangeContext.layout ++
        [account "editor", ("added", .texts), ("removed", .texts), ("hashtags", .texts)]
  | .wipStateChanged | .privateStateChanged => ChangeContext.layout ++ [account "changer"]
  | .patchsetNotified => ChangeContext.layout ++ [account "notifier"]
  | .refUpdated =>
      [account "submitter", ("refUpdate", .record .refUpdate), ("eventCreatedOn", .time)]
  | .refReplicated =>
      [("project", .text), ("ref", .text), ("targetNode", .text), ("status", .text),
        ("refStatus", .text), ("eventCreatedOn", .time)]
  | .refReplicationDone =>
      [("project", .text), ("ref", .text), ("nodesCount", .integer 0 4294967295),
        ("eventCreatedOn", .time)]
  | .projectCreated =>
      [("projectName", .text), ("projectHead", .text), ("eventCreatedOn", .time)]
where
  account (name : String) : String × Shape := (name, .record .account)

/-- Names are distinct, also from those that every written event has besides. -/
theorem layout_distinct (kind : EventKind) :
    ("type" :: kind.layout.map Prod.fst ++ ["provider", "received_on"]).Nodup := by
  cases kind <;> decide

theorem layout_names_distinct (kind : EventKind) : (kind.layout.map Prod.fst).Nodup :=
  (List.nodup_append.mp (List.nodup_cons.mp kind.layout_distinct).2).1

/-- The type is no attribute. -/
theorem type_not_in_layout (kind : EventKind) : "type" ∉ kind.layout.map Prod.fst := by
  intro member
  exact (List.nodup_cons.mp kind.layout_distinct).1 (List.mem_append_left _ member)

end EventKind

namespace Payload

/-- The attributes of a payload, by name. -/
def attributes : Payload → List (String × Attribute)
  | .patchsetCreated on uploader | .draftPublished on uploader =>
      on.attributes ++ [account "uploader" uploader]
  | .changeAbandoned on abandoner reason =>
      on.attributes ++ [account "abandoner" abandoner, text "reason" reason]
  | .changeMerged on submitter newRev =>
      on.attributes ++ [account "submitter" submitter, text "newRev" newRev]
  | .changeRestored on restorer reason =>
      on.attributes ++ [account "restorer" restorer, text "reason" reason]
  | .changeDeleted on deleter => on.attributes ++ [account "deleter" deleter]
  | .commentAdded on author approvals comment =>
      on.attributes ++ [account "author" author, votes approvals, text "comment" comment]
  | .reviewerAdded on reviewer adder =>
      on.attributes ++ [account "reviewer" reviewer, account "adder" adder]
  | .reviewerDeleted on reviewer remover approvals comment
  | .voteDeleted on reviewer remover approvals comment =>
      on.attributes ++ [account "reviewer" reviewer, account "remover" remover,
        votes approvals, text "comment" comment]
  | .topicChanged on changer oldTopic =>
      on.attributes ++ [account "changer" changer, text "oldTopic" oldTopic]
  | .hashtagsChanged on editor added removed hashtags =>
      on.attributes ++ [account "editor" editor, texts "added" added,
        texts "removed" removed, texts "hashtags" hashtags]
  | .wipStateChanged on changer | .privateStateChanged on changer =>
      on.attributes ++ [account "changer" changer]
  | .patchsetNotified on notifier => on.attributes ++ [account "notifier" notifier]
  | .refUpdated submitter refUpdate createdOn =>
      [account "submitter" submitter, ("refUpdate", ⟨.record .refUpdate, refUpdate⟩),
        time createdOn]
  | .refReplicated project gitRef targetNode status refStatus createdOn =>
      [text "project" project, text "ref" gitRef, text "targetNode" targetNode,
        text "status" status, text "refStatus" refStatus, time createdOn]
  | .refReplicationDone project gitRef nodesCount createdOn =>
      [text "project" project, text "ref" gitRef,
        ("nodesCount", ⟨.integer 0 4294967295, nodesCount⟩), time createdOn]
  | .projectCreated projectName projectHead createdOn =>
      [text "projectName" projectName, text "projectHead" projectHead, time createdOn]
where
  account (name : String) (value : Option Account) : String × Attribute :=
    (name, ⟨.record .account, value⟩)
  text (name : String) (value : Option String) : String × Attribute :=
    (name, ⟨.text, value⟩)
  texts (name : String) (value : List String) : String × Attribute :=
    (name, ⟨.texts, value⟩)
  votes (approvals : List Approval) : String × Attribute :=
    ("approvals", ⟨.records .approval, approvals⟩)
  time (value : Option Timestamp) : String × Attribute :=
    ("eventCreatedOn", ⟨.time, value⟩)

/-- Every attribute of a payload comes from the value under its own name. -/
theorem attributes_ofFields (kind : EventKind) (fields : Fields) :
    (ofFields kind fields).attributes = fields.attributes kind.layout := by
  cases kind <;> rfl

theorem members_eq (payload : Payload) :
    payload.members = payload.attributes.map (fun entry => (entry.1, entry.2.toJson)) := by
  cases payload <;> rfl

/-- No part of a payload is left out of its kind and attributes. -/
theorem eq_of_attributes_eq {one other : Payload} (sameKind : one.kind = other.kind)
    (same : one.attributes = other.attributes) : one = other := by
  cases one <;> cases other <;> simp only [kind, reduceCtorEq] at sameKind
  -- What is left are payloads of one kind, which agree in every field.
  all_goals
    simp only [attributes, attributes.account, attributes.text, attributes.texts,
      attributes.votes, attributes.time, ChangeContext.attributes, List.cons_append,
      List.nil_append, List.cons.injEq, Prod.mk.injEq, Attribute.mk.injEq, heq_eq_eq,
      true_and, and_true] at same
    simp [same, ChangeContext.eq_iff]

end Payload

end ReviewFeed
