import ReviewFeed.Proofs.Attribute.Written
import ReviewFeed.Proofs.Json.RoundTrip
import ReviewFeed.Proofs.Review.Input

/-!
# The body of a posted review

The JSON of a review holds its message, the votes under the names of the labels and the
comments under the names of the files.  The review is read again from it, and from its
text.
-/

namespace ReviewFeed

namespace Json

/-- An object every member of which can be read. -/
def each? (reader : Json → Option α) : Json → Option (Association α)
  | .object members =>
      members.mapM (fun (key, value) => (reader value).map (fun found => (key, found)))
  | _ => none

theorem each?_object {reader : Json → Option α} (write : α → Json) {entries : Association α}
    (again : ∀ entry ∈ entries, reader (write entry.2) = some entry.2) :
    each? reader (.object (entries.map (fun (key, value) => (key, write value)))) =
      some entries := by
  rw [each?, List.mapM_map]
  induction entries with
  | nil => rfl
  | cons entry rest induction =>
      rw [List.forall_mem_cons] at again
      rw [List.mapM_cons, induction again.2]
      simp only [Function.comp_apply, again.1]
      rfl

theorem get?_sorted_object {members : Members} (distinct : (members.map Prod.fst).Nodup)
    (key : String) : (Json.object members).sorted.get? key = (members.lookup key).map sorted := by
  rw [sorted_object]
  exact lookup_sorted distinct key

/-- An object stays as it is if its keys are in order and its values stay as they are. -/
theorem sorted_object_eq_self {members : Members} (ordered : Association.InOrder members)
    (values : ∀ member ∈ members, member.2.sorted = member.2) :
    (Json.object members).sorted = .object members := by
  have same : members.map (fun member => (member.1, member.2.sorted)) = members := by
    refine (List.map_congr_left (fun member held => ?_)).trans (List.map_id members)
    exact Prod.ext rfl (values member held)
  rw [sorted_object, same, ordered.ofPairs_eq_self]

end Json

namespace LineComment

/-- Reads a comment on a line. -/
def read? (value : Json) : Option LineComment := do
  let line ← (value.get? "line").bind (Json.integerIn? 0 4294967295)
  let message ← (value.get? "message").bind Json.string?
  some { line := line.toNat, message }

theorem read?_toJson {comment : LineComment} (word : comment.line ≤ 4294967295) :
    read? comment.toJson = some comment := by
  have line : (comment.toJson.get? "line").bind (Json.integerIn? 0 4294967295) =
      some (comment.line : Int) :=
    Json.integerIn?_eq_some_iff.mpr ⟨rfl, Int.natCast_nonneg _, Int.ofNat_le.mpr word⟩
  rw [read?, line]
  rfl

theorem sorted_toJson (comment : LineComment) : comment.toJson.sorted = comment.toJson := by
  apply Json.sorted_object_eq_self
  · show List.Pairwise (· < ·) ["line", "message"]
    decide
  · intro member held
    rcases List.mem_pair.mp held with rfl | rfl <;> rfl

theorem toJson_legible {comment : LineComment} (word : comment.line ≤ 4294967295) :
    comment.toJson.Legible 1 := by
  apply Json.Legible.object
  · show ["line", "message"].Nodup
    decide
  · intro member held
    rcases List.mem_pair.mp held with rfl | rfl
    · exact .integer 0 (by omega)
    · exact .string 0 comment.message

end LineComment

namespace ReviewInput

/-- Reads a review.  Labels and comments may be missing. -/
def read? (value : Json) : Option ReviewInput := do
  let message ← (value.get? "message").bind Json.string?
  let labels ← ((value.get? "labels").map
    (Json.each? (Json.integerIn? (-2147483648) 2147483647))).getD (some [])
  let comments ← ((value.get? "comments").map
    (Json.each? (Json.list? LineComment.read?))).getD (some [])
  some { message, labels, comments }

/-- The names are in order, and votes and lines have 32 bits. -/
structure WellFormed (review : ReviewInput) : Prop where
  labels : Association.InOrder review.labels
  comments : Association.InOrder review.comments
  votes : ∀ entry ∈ review.labels, -2147483648 ≤ entry.2 ∧ entry.2 ≤ 2147483647
  lines : ∀ entry ∈ review.comments, ∀ comment ∈ entry.2, comment.line ≤ 4294967295

variable {review : ReviewInput}

theorem each?_labelsJson (votes : ∀ entry ∈ review.labels,
      -2147483648 ≤ entry.2 ∧ entry.2 ≤ 2147483647) :
    review.labelsJson.each? (Json.integerIn? (-2147483648) 2147483647) = some review.labels :=
  Json.each?_object Json.ofInt
    (fun entry held => Json.integerIn?_eq_some_iff.mpr ⟨rfl, votes entry held⟩)

theorem each?_commentsJson (lines : ∀ entry ∈ review.comments, ∀ comment ∈ entry.2,
      comment.line ≤ 4294967295) :
    review.commentsJson.each? (Json.list? LineComment.read?) = some review.comments :=
  Json.each?_object (fun comments => .array (comments.map LineComment.toJson))
    (fun entry held => Json.list?_ofList
      (fun comment member => LineComment.read?_toJson (lines entry held comment member)))

theorem sorted_labelsJson (ordered : Association.InOrder review.labels) :
    review.labelsJson.sorted = review.labelsJson := by
  apply Json.sorted_object_eq_self
  · rwa [Association.InOrder, List.map_map]
  · intro member held
    obtain ⟨entry, _, rfl⟩ := List.mem_map.mp held
    rfl

theorem sorted_commentsJson (ordered : Association.InOrder review.comments) :
    review.commentsJson.sorted = review.commentsJson := by
  apply Json.sorted_object_eq_self
  · rwa [Association.InOrder, List.map_map]
  · intro member held
    obtain ⟨⟨name, comments⟩, _, rfl⟩ := List.mem_map.mp held
    rw [Json.sorted_array, List.map_map]
    exact congrArg Json.array
      (List.map_congr_left (fun comment _ => comment.sorted_toJson))

/-- The members written for a review. -/
def members (review : ReviewInput) : Members :=
  ("message", .string review.message) ::
    (if review.labels.isEmpty then [] else [("labels", review.labelsJson)]) ++
    (if review.comments.isEmpty then [] else [("comments", review.commentsJson)])

theorem toJson_eq (review : ReviewInput) : review.toJson = .object review.members :=
  rfl

theorem members_distinct (review : ReviewInput) : (review.members.map Prod.fst).Nodup := by
  rw [members]
  cases review.labels.isEmpty <;> cases review.comments.isEmpty <;> simp

theorem lookup_message (review : ReviewInput) :
    review.members.lookup "message" = some (.string review.message) :=
  List.lookup_cons_self

theorem lookup_labels (review : ReviewInput) :
    review.members.lookup "labels" =
      if review.labels.isEmpty then none else some review.labelsJson := by
  rw [members]
  cases review.labels.isEmpty <;> cases review.comments.isEmpty <;> rfl

theorem lookup_comments (review : ReviewInput) :
    review.members.lookup "comments" =
      if review.comments.isEmpty then none else some review.commentsJson := by
  rw [members]
  cases review.labels.isEmpty <;> cases review.comments.isEmpty <;> rfl

/-- A review is read from whatever binds the three keys to its parts. -/
theorem WellFormed.read?_of_parts (fits : review.WellFormed) {value : Json}
    (message : value.get? "message" = some (.string review.message))
    (labels : value.get? "labels" =
      if review.labels.isEmpty then none else some review.labelsJson)
    (comments : value.get? "comments" =
      if review.comments.isEmpty then none else some review.commentsJson) :
    read? value = some review := by
  have votes : ((value.get? "labels").map
      (Json.each? (Json.integerIn? (-2147483648) 2147483647))).getD (some []) =
        some review.labels := by
    rw [labels]
    split
    · rename_i none
      rw [List.isEmpty_iff.mp none]
      rfl
    · exact each?_labelsJson fits.votes
  have remarks : ((value.get? "comments").map
      (Json.each? (Json.list? LineComment.read?))).getD (some []) = some review.comments := by
    rw [comments]
    split
    · rename_i none
      rw [List.isEmpty_iff.mp none]
      rfl
    · exact each?_commentsJson fits.lines
  rw [read?, message, votes, remarks]
  rfl

theorem WellFormed.read?_toJson (fits : review.WellFormed) :
    read? review.toJson = some review :=
  fits.read?_of_parts review.lookup_message review.lookup_labels review.lookup_comments

theorem WellFormed.read?_sorted (fits : review.WellFormed) :
    read? review.toJson.sorted = some review := by
  rw [toJson_eq]
  apply fits.read?_of_parts
  · rw [Json.get?_sorted_object review.members_distinct, lookup_message]
    rfl
  · rw [Json.get?_sorted_object review.members_distinct, lookup_labels]
    split
    · rfl
    · exact congrArg some (sorted_labelsJson fits.labels)
  · rw [Json.get?_sorted_object review.members_distinct, lookup_comments]
    split
    · rfl
    · exact congrArg some (sorted_commentsJson fits.comments)

theorem WellFormed.toJson_legible (fits : review.WellFormed) : review.toJson.Legible 4 := by
  have labels : review.labelsJson.Legible 1 := by
    apply Json.Legible.object
    · rw [List.map_map]
      exact fits.labels.distinct
    · intro member held
      obtain ⟨entry, mine, rfl⟩ := List.mem_map.mp held
      have := fits.votes entry mine
      exact .integer 0 (by omega)
  have comments : review.commentsJson.Legible 3 := by
    apply Json.Legible.object
    · rw [List.map_map]
      exact fits.comments.distinct
    · intro member held
      obtain ⟨entry, mine, rfl⟩ := List.mem_map.mp held
      apply Json.Legible.array
      intro item among
      obtain ⟨comment, written, rfl⟩ := List.mem_map.mp among
      exact LineComment.toJson_legible (fits.lines entry mine comment written)
  rw [toJson_eq]
  refine Json.Legible.object review.members_distinct (fun member held => ?_)
  simp only [members, List.cons_append, List.mem_cons, List.mem_append, List.mem_ite_nil_left,
    List.not_mem_nil, or_false] at held
  rcases held with rfl | ⟨_, rfl⟩ | ⟨_, rfl⟩
  · exact .string 3 review.message
  · exact labels.mono (by decide)
  · exact comments

/-- The text of a review tells its message, its votes and its comments. -/
theorem WellFormed.read?_render (fits : review.WellFormed) :
    (Json.read? review.render).bind read? = some review := by
  have legible := fits.toJson_legible.mono (show 4 ≤ Json.deepest by decide)
  rw [render, Json.read?_render legible, Option.bind_some, fits.read?_sorted]

end ReviewInput

/-- The numbers of a step have 32 bits. -/
def ReviewStep.Fits : ReviewStep → Prop
  | .label _ value => -2147483648 ≤ value ∧ value ≤ 2147483647
  | .file commented => ∀ comment ∈ commented.comments, comment.line ≤ 4294967295

namespace ReviewInput

variable {review : ReviewInput}

theorem WellFormed.label (fits : review.WellFormed) (name : String) {value : Int}
    (word : -2147483648 ≤ value ∧ value ≤ 2147483647) :
    (review.label name value).WellFormed where
  labels := Association.inOrder_bind fits.labels
  comments := fits.comments
  votes entry held := by
    rcases Association.eq_or_mem_of_mem_bind fits.labels held with rfl | old
    · exact word
    · exact fits.votes entry old
  lines := fits.lines

theorem WellFormed.file (fits : review.WellFormed) {file : CommentedFile}
    (words : ∀ comment ∈ file.comments, comment.line ≤ 4294967295) :
    (review.file file).WellFormed where
  labels := fits.labels
  comments := Association.inOrder_bind fits.comments
  votes := fits.votes
  lines entry held comment among := by
    rcases Association.eq_or_mem_of_mem_bind fits.comments held with rfl | old
    · rcases mem_addComments.mp among with present | new
      · cases found : review.comments.lookup file.name with
        | none =>
            rw [found] at present
            cases present
        | some comments =>
            rw [found] at present
            exact fits.lines _ (Association.mem_of_lookup_eq_some found) comment present
      · exact words comment new
    · exact fits.lines entry old comment among

theorem WellFormed.step (fits : review.WellFormed) {step : ReviewStep} (words : step.Fits) :
    (review.step step).WellFormed := by
  cases step with
  | label name value => exact fits.label name words
  | file file => exact fits.file words

/-- Every review that is built is well-formed, so it is told by its body. -/
theorem build_wellFormed (message : String) {steps : List ReviewStep}
    (words : ∀ step ∈ steps, step.Fits) : (build message steps).WellFormed := by
  induction steps using List.reverseRecOn with
  | nil =>
      constructor
      · exact List.Pairwise.nil
      · exact List.Pairwise.nil
      · exact List.forall_mem_nil _
      · exact List.forall_mem_nil _
  | append_singleton steps step induction =>
      rw [List.forall_mem_append, List.forall_mem_singleton] at words
      rw [build, List.foldl_concat]
      exact (induction words.1).step words.2

end ReviewInput

end ReviewFeed
