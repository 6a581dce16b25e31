import ReviewFeed.Proofs.Attribute.Readable
import ReviewFeed.Proofs.Attribute.Written
import ReviewFeed.Proofs.Event.Classification

/-!
# Reading looks no deeper than it must

Whether a value can be read as a record shows in its outermost form.  The lists of votes,
files and comments are the place where one unreadable item matters: it costs the whole
list.
-/

namespace ReviewFeed

namespace Payload

/-- The votes of an event that has votes. -/
def approvals? : Payload → Option (List Approval)
  | .commentAdded _ _ approvals _ | .reviewerDeleted _ _ _ approvals _
  | .voteDeleted _ _ _ approvals _ => some approvals
  | _ => none

theorem approvals?_ofFields (kind : EventKind) (fields : Fields) :
    (ofFields kind fields).approvals? =
      (kind.layout.lookup "approvals").map
        (fun _ => fields.list "approvals" (Json.list? Approval.read?)) := by
  cases kind <;> rfl

end Payload

namespace Event

theorem approvals_of_classified {members : Members} {event : Event}
    (classified : classify? members = some event) {approvals : List Approval}
    (held : event.payload.approvals? = some approvals) :
    approvals = (Fields.ofMembers members).list "approvals" (Json.list? Approval.read?) := by
  obtain ⟨kind, _, rfl⟩ := classify?_eq_some_iff.mp classified
  rw [Payload.approvals?_ofFields, Option.map_eq_some_iff] at held
  obtain ⟨_, _, same⟩ := held
  exact same.symm

/-- A value can be read as a record exactly if it is an object or an array with no more
items than the record has fields.  The items of an array are the values of its fields in
their order, as if they were bound to their names.  An array that is read as a list of
votes, files or comments gives one record for each item in order, or no list at all if
one of the items cannot be read. -/
theorem read_by_outer_form :
    (∀ (type : RecordType) (value : Json),
      (type.read? value).isSome = true ↔
        (∃ members, value = .object members) ∨
          ∃ items, value = .array items ∧ items.length ≤ type.fieldNames.length) ∧
    (∀ (type : RecordType) (items : List Json), items.length ≤ type.fieldNames.length →
      ∃ record, type.read? (.array items) = some record ∧
        (∀ members : Members, members.Perm (type.fieldNames.zip items) →
          type.read? (.object members) = some record) ∧
        (type.attributes record).map Prod.fst = type.fieldNames ∧
        type.attributes record =
          type.layout.mapIdx (fun place entry =>
            (entry.1, ⟨entry.2, entry.2.read items[place]?⟩))) ∧
    (∀ (members : Members) (patchSet : PatchSet),
      PatchSet.read? (.object members) = some patchSet →
        (∀ items, members.lookup "approvals" = some (.array items) →
          ∃ result, Json.ReadWhole Approval.read? items result ∧
            patchSet.approvals = result.getD []) ∧
        ∀ items, members.lookup "files" = some (.array items) →
          ∃ result, Json.ReadWhole PatchSetFile.read? items result ∧
            patchSet.files = result.getD []) ∧
    (∀ (members : Members) (change : Change),
      Change.read? (.object members) = some change →
        ∀ items, members.lookup "comments" = some (.array items) →
          Json.ReadWhole Comment.read? items change.comments) ∧
    ∀ (members : Members) (event : Event) (approvals : List Approval),
      classify? members = some event → event.payload.approvals? = some approvals →
        ∀ items, members.lookup "approvals" = some (.array items) →
          ∃ result, Json.ReadWhole Approval.read? items result ∧
            approvals = result.getD [] := by
  refine ⟨fun _ _ => RecordType.read?_isSome_iff, ?_, ?_, ?_, ?_⟩
  · intro type items fewEnough
    refine ⟨_, (type.read?_array items).trans (if_pos fewEnough), ?_, type.attributes_names _,
      type.attributes_of_items items⟩
    intro members same
    rw [type.read?_perm (Association.zip_distinct type.fieldNames_distinct items) same,
      RecordType.read?_object]
  · intro members patchSet read
    rw [← Option.some.inj ((RecordType.read?_object .patchSet members).symm.trans read)]
    exact ⟨fun _ found => Fields.list_array found _, fun _ found => Fields.list_array found _⟩
  · intro members change read items found
    rw [← Option.some.inj ((RecordType.read?_object .change members).symm.trans read)]
    exact Fields.read_array found _
  · intro members event approvals classified held items found
    rw [approvals_of_classified classified held]
    exact Fields.list_array found _

/-- Votes of which the second is no record. -/
def brokenVotes : List Json :=
  [.object [("type", .string "Code-Review"), ("value", .string "2")], .number (.integer 1)]

def brokenPatchSet : Members :=
  [("approvals", .array brokenVotes), ("files", .array [.array [.string "a.c"], .object []])]

def brokenComment : Members :=
  [("approvals", .array brokenVotes), ("type", .string "comment-added")]

theorem read_by_outer_form_broken :
    (∃ account, Account.read? (.array [.string "Ada", .null]) = some account ∧
      Account.read? (.object [("email", .null), ("name", .string "Ada")]) = some account) ∧
    (∃ patchSet, PatchSet.read? (.object brokenPatchSet) = some patchSet ∧
      patchSet.approvals = [] ∧ patchSet.files.length = 2) ∧
    (∃ change, Change.read? (.object [("comments", .array [.object [], .null])]) = some change ∧
      change.comments = none) ∧
    ∃ event, classify? brokenComment = some event ∧ event.payload.approvals? = some [] := by
  obtain ⟨_, positional, patchSets, changes, events⟩ := read_by_outer_form
  have broken : .number (.integer 1) ∈ brokenVotes := List.mem_cons_of_mem _ List.mem_cons_self
  refine ⟨?_, ?_, ?_, ?_⟩
  · obtain ⟨account, read, alike, _⟩ := positional .account [.string "Ada", .null] (by decide)
    exact ⟨account, read, alike _ (.swap _ _ _)⟩
  · have read := RecordType.read?_object .patchSet brokenPatchSet
    obtain ⟨votes, files⟩ := patchSets brokenPatchSet _ read
    refine ⟨_, read, ?_, ?_⟩
    · obtain ⟨_, whole, held⟩ := votes brokenVotes rfl
      rw [held, whole.eq_none broken rfl]
      rfl
    · obtain ⟨_, whole, held⟩ := files _ rfl
      rcases whole with ⟨values, rfl, each⟩ | ⟨⟨item, member, refused⟩, _⟩
      · rw [held]
        exact each.length_eq.symm
      · rcases List.mem_cons.mp member with rfl | member
        · cases refused
        · cases List.mem_singleton.mp member
          cases refused
  · have read := RecordType.read?_object .change [("comments", .array [.object [], .null])]
    have whole := changes _ _ read _ rfl
    exact ⟨_, read, whole.eq_none (List.mem_cons_of_mem _ List.mem_cons_self) rfl⟩
  · obtain ⟨event, classified, held⟩ :
        ∃ event, classify? brokenComment = some event ∧
          event.payload.approvals? = some
            ((Fields.ofMembers brokenComment).list "approvals" (Json.list? Approval.read?)) :=
      ⟨_, classify?_eq_some_iff.mpr ⟨.commentAdded, rfl, rfl⟩, rfl⟩
    obtain ⟨_, whole, empty⟩ := events brokenComment event _ classified held brokenVotes rfl
    rw [empty, whole.eq_none broken rfl] at held
    exact ⟨event, classified, held⟩

end Event

end ReviewFeed
