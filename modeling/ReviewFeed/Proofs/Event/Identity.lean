import ReviewFeed.Dispatch.Work

/-!
# Usable objects become identified events

The filter looks at the types of a few members only.  Reading is lenient in every
attribute and at every depth, so an object that passes the filter always becomes an
event, and the event carries what its kind requires as it was read.
-/

namespace ReviewFeed

theorem RequiredField.isPresent_object {members : Members} {key : String} :
    (RequiredField.object key).isPresent members = true ↔
      ∃ nested, members.lookup key = some (.object nested) := by
  rw [isPresent, Option.any_eq_true]
  constructor
  · rintro ⟨value, found, isObject⟩
    cases value with
    | object nested => exact ⟨nested, found⟩
    | null | bool _ | number _ | string _ | array _ => cases isObject
  · rintro ⟨nested, found⟩
    exact ⟨_, found, rfl⟩

theorem RequiredField.isPresent_string {members : Members} {key : String} :
    (RequiredField.string key).isPresent members = true ↔
      ∃ text, members.lookup key = some (.string text) := by
  rw [isPresent, Option.any_eq_true]
  constructor
  · rintro ⟨value, found, isString⟩
    cases value with
    | string text => exact ⟨text, found⟩
    | null | bool _ | number _ | array _ | object _ => cases isString
  · rintro ⟨text, found⟩
    exact ⟨_, found, rfl⟩

/-- An object is always a record, whatever its members are.  A field that cannot be
read is unset and spoils nothing else. -/
theorem Fields.ofJson?_object (names : List String) (members : Members) :
    Fields.ofJson? names (.object members) = some (.ofMembers members) := rfl

namespace Payload

@[simp] theorem kind_ofFields (kind : EventKind) (fields : Fields) :
    (ofFields kind fields).kind = kind := by
  cases kind <;> rfl

def refUpdate? : Payload → Option RefUpdate
  | .refUpdated _ refUpdate _ => refUpdate
  | _ => none

def project? : Payload → Option String
  | .refReplicated project _ _ _ _ _ | .refReplicationDone project _ _ _ => project
  | _ => none

def gitRef? : Payload → Option String
  | .refReplicated _ gitRef _ _ _ _ | .refReplicationDone _ gitRef _ _ => gitRef
  | _ => none

def projectName? : Payload → Option String
  | .projectCreated projectName _ _ => projectName
  | _ => none

end Payload

/-- A field is set, to what a member is when it is read. -/
def Carries (members : Members) (key : String) (reader : Json → Option α)
    (field : Option α) : Prop :=
  ∃ value read, members.lookup key = some value ∧ reader value = some read ∧
    field = some read

namespace Event

/-- An event carries what events of its kind must say, as it was read from the
members. -/
def Identified (members : Members) (event : Event) : Prop :=
  match event.kind with
  | .changeDeleted | .topicChanged | .hashtagsChanged =>
      Carries members "change" Change.read? event.change?
  | .refUpdated => Carries members "refUpdate" RefUpdate.read? event.payload.refUpdate?
  | .refReplicated | .refReplicationDone =>
      Carries members "project" Json.string? event.payload.project? ∧
        Carries members "ref" Json.string? event.payload.gitRef?
  | .projectCreated =>
      Carries members "projectName" Json.string? event.payload.projectName?
  | .patchsetCreated | .draftPublished | .changeAbandoned | .changeMerged
  | .changeRestored | .commentAdded | .reviewerAdded | .reviewerDeleted
  | .wipStateChanged | .privateStateChanged | .voteDeleted | .patchsetNotified =>
      Carries members "change" Change.read? event.change? ∧
        Carries members "patchSet" PatchSet.read? event.patchSet?

end Event

/-- A member that is an object is set in every record that reads it. -/
theorem carries_of_object {members : Members} {key : String} {names : List String}
    {ofFields : Fields → α}
    (present : (RequiredField.object key).isPresent members = true) :
    Carries members key (fun value => (Fields.ofJson? names value).map ofFields)
      ((Fields.ofMembers members).read key
        (fun value => (Fields.ofJson? names value).map ofFields)) := by
  obtain ⟨nested, found⟩ := RequiredField.isPresent_object.mp present
  have read : (Fields.ofJson? names (.object nested)).map ofFields =
      some (ofFields (.ofMembers nested)) := by
    rw [Fields.ofJson?_object, Option.map_some]
  refine ⟨_, _, found, read, ?_⟩
  rw [Fields.read, Fields.ofMembers, found]
  exact read

theorem carries_of_string {members : Members} {key : String}
    (present : (RequiredField.string key).isPresent members = true) :
    Carries members key Json.string? ((Fields.ofMembers members).read key Json.string?) := by
  obtain ⟨text, found⟩ := RequiredField.isPresent_string.mp present
  refine ⟨_, text, found, rfl, ?_⟩
  rw [Fields.read, Fields.ofMembers, found]
  rfl

namespace Event

theorem identified_of_required {members : Members} {kind : EventKind}
    (required : ∀ field ∈ kind.requiredFields, field.isPresent members = true)
    (provider : Option Provider) (receivedOn : Option Instant) :
    Identified members
      { payload := .ofFields kind (.ofMembers members), provider, receivedOn } := by
  cases kind with
  | changeDeleted | topicChanged | hashtagsChanged =>
      exact carries_of_object (required (.object "change") List.mem_cons_self)
  | refUpdated => exact carries_of_object (required (.object "refUpdate") List.mem_cons_self)
  | refReplicated | refReplicationDone =>
      have project := required (.string "project") List.mem_cons_self
      have gitRef := required (.string "ref") (List.mem_cons_of_mem _ List.mem_cons_self)
      exact ⟨carries_of_string project, carries_of_string gitRef⟩
  | projectCreated =>
      exact carries_of_string (required (.string "projectName") List.mem_cons_self)
  | patchsetCreated | draftPublished | changeAbandoned | changeMerged | changeRestored
  | commentAdded | reviewerAdded | reviewerDeleted | wipStateChanged | privateStateChanged
  | voteDeleted | patchsetNotified =>
      have change := required (.object "change") List.mem_cons_self
      have patchSet :=
        required (.object "patchSet") (List.mem_cons_of_mem _ List.mem_cons_self)
      exact ⟨carries_of_object change, carries_of_object patchSet⟩

theorem isUsable_iff {members : Members} :
    isUsable members = true ↔ ∃ kind, EventKind.ofMembers? members = some kind ∧
      ∀ field ∈ kind.requiredFields, field.isPresent members = true := by
  simp only [isUsable, Option.any_eq_true, List.all_eq_true]

theorem exists_classified {members : Members} (usable : isUsable members = true) :
    ∃ event, classify? members = some event := by
  obtain ⟨kind, typed, _⟩ := isUsable_iff.mp usable
  rw [classify?, typed]
  exact ⟨_, rfl⟩

/-- A usable object is classified, with its identity set.  No unit made of it is
dropped, or delivered without that identity, whichever way it came. -/
theorem usable_is_identified {members : Members} (usable : isUsable members = true) :
    ∃ event, classify? members = some event ∧
      EventKind.ofMembers? members = some event.kind ∧
      Identified members event ∧
      ∀ (provider : Option Provider) (now : Instant),
        Identified members (event.stamp provider now) ∧
        Work.ofUsable? members provider now = some (Work.ofObject members provider now) ∧
        (Work.ofObject members provider now).event? = some (event.stamp provider now) ∧
        ∀ text, Json.read? text = some (.object members) →
          (Work.ofLine text provider now).event? = some (event.stamp provider now) := by
  obtain ⟨kind, typed, required⟩ := isUsable_iff.mp usable
  have classified : classify? members =
      some { payload := .ofFields kind (.ofMembers members), provider := none
             receivedOn := none } := by
    rw [classify?, typed]
    rfl
  refine ⟨_, classified, ?_, identified_of_required required none none, ?_⟩
  · rw [typed, Event.kind, Payload.kind_ofFields]
  · intro provider now
    have eventOf : Work.eventOfMembers? members provider now =
        some (stamp provider now
          { payload := .ofFields kind (.ofMembers members), provider := none
            receivedOn := none }) := by
      rw [Work.eventOfMembers?, if_pos usable, classified]
      rfl
    refine ⟨identified_of_required required provider (some now), if_pos usable, eventOf, ?_⟩
    intro text read
    simp only [Work.event?, Work.ofLine, read]
    exact eventOf

/-- A usable object in which nearly nothing is of the expected type. -/
def strangeMembers : Members :=
  [("approvals", .null),
    ("change", .object [("hashtags", .null), ("number", .array []), ("owner", .bool true)]),
    ("patchSet", .object [("files", .array [.null]), ("uploader", .string "nobody")]),
    ("type", .string "comment-added")]

theorem usable_is_identified_strange :
    isUsable strangeMembers = true ∧
      ∃ event, classify? strangeMembers = some event ∧ Identified strangeMembers event := by
  have usable : isUsable strangeMembers = true := by decide
  obtain ⟨event, classified, _, identified, _⟩ := usable_is_identified usable
  exact ⟨usable, event, classified, identified⟩

end Event

end ReviewFeed
