import Mathlib.Data.List.Induction
import Mathlib.Data.List.Nodup
import ReviewFeed.Proofs.Association
import ReviewFeed.Review.Input

/-!
# What reviews are made of

A review is built from remarks, each a vote on a label or comments on a file.  In
whatever order they come, a label has its last vote and a file has the comments of all
remarks on it, one after the other and each where it came first.  Repetitions are left
out twice, within a remark and between remarks, and this is the same as leaving them out
once, from all comments on the file.
-/

namespace ReviewFeed

section Comments

variable {comment : LineComment} {present comments : List LineComment}

theorem mem_addComment {other : LineComment} :
    other ∈ addComment present comment ↔ other ∈ present ∨ other = comment := by
  rw [addComment]
  split
  · rename_i known
    constructor
    · exact Or.inl
    · rintro (old | rfl)
      · exact old
      · exact known
  · rw [List.mem_append, List.mem_singleton]

theorem mem_addComments {other : LineComment} :
    other ∈ comments.foldl addComment present ↔ other ∈ present ∨ other ∈ comments := by
  induction comments generalizing present with
  | nil => simp
  | cons comment comments induction =>
      rw [List.foldl_cons, induction, mem_addComment, List.mem_cons, or_assoc]

theorem addComments_known (known : ∀ comment ∈ comments, comment ∈ present) :
    comments.foldl addComment present = present := by
  induction comments with
  | nil => rfl
  | cons comment comments induction =>
      rw [List.foldl_cons, addComment, if_pos (known comment List.mem_cons_self)]
      apply induction
      intro other member
      exact known other (List.mem_cons_of_mem comment member)

theorem nodup_addComment (distinct : present.Nodup) : (addComment present comment).Nodup := by
  rw [addComment]
  split
  · exact distinct
  · rename_i fresh
    rw [← List.concat_eq_append]
    exact List.Nodup.concat fresh distinct

theorem nodup_addComments (distinct : present.Nodup) :
    (comments.foldl addComment present).Nodup := by
  induction comments generalizing present with
  | nil => exact distinct
  | cons comment comments induction => exact induction (nodup_addComment distinct)

/-- Comments that were joined before are joined to others as if each of them came anew. -/
theorem addComments_addComments (comments present : List LineComment) :
    (comments.foldl addComment []).foldl addComment present =
      comments.foldl addComment present := by
  induction comments using List.reverseRecOn with
  | nil => rfl
  | append_singleton comments comment induction =>
      rw [List.foldl_concat, List.foldl_concat, ← induction, addComment]
      split
      · rename_i known
        rw [addComment, if_pos (mem_addComments.mpr (.inr known))]
      · rw [List.foldl_concat]

/-- Joined comments are the comments without repetitions, each where it came first. -/
theorem addComments_eq_eraseDups (comments : List LineComment) :
    comments.foldl addComment [] = comments.eraseDups := by
  induction comments using List.reverseRecOn with
  | nil => rfl
  | append_singleton comments comment induction =>
      rw [List.foldl_concat, induction, List.eraseDups_append, addComment, List.removeAll]
      split
      · rename_i known
        have old := List.mem_eraseDups.mp known
        simp [old]
      · rename_i fresh
        have new : comment ∉ comments := fun old => fresh (List.mem_eraseDups.mpr old)
        have alone : [comment].eraseDups = [comment] := by
          rw [List.eraseDups_cons, List.filter_nil, List.eraseDups_nil]
        simp [new, alone]

theorem nodup_eraseDups (comments : List LineComment) : comments.eraseDups.Nodup := by
  rw [← addComments_eq_eraseDups]
  exact nodup_addComments List.nodup_nil

/-- Joining more comments to joined ones. -/
theorem addComments_eraseDups (comments more : List LineComment) :
    more.eraseDups.foldl addComment comments.eraseDups = (comments ++ more).eraseDups := by
  rw [← addComments_eq_eraseDups, ← addComments_eq_eraseDups, ← addComments_eq_eraseDups,
    addComments_addComments, List.foldl_append]

theorem CommentedFile.addAll_fst (file : CommentedFile) (comments : List LineComment) :
    (file.addAll comments).1 =
      { file with comments := comments.foldl addComment file.comments } := by
  induction comments generalizing file with
  | nil => rfl
  | cons comment comments induction => exact induction (file.add comment).1

/-- The answer to an addition depends on what the file has by then. -/
theorem CommentedFile.addAll_snd_getElem? (file : CommentedFile) (before : List LineComment)
    (comment : LineComment) (behind : List LineComment) :
    (file.addAll (before ++ comment :: behind)).2[before.length]? =
      some (decide (comment ∉ (file.addAll before).1.comments)) := by
  induction before generalizing file with
  | nil => rfl
  | cons first before induction => exact induction (file.add first).1

end Comments

/-- A remark of a review: a vote, or comments that are added to a file one by one. -/
inductive Remark
  | onLabel (label : String) (value : Int)
  | onFile (file : String) (comments : List LineComment)
  deriving DecidableEq, Repr

namespace Remark

def step : Remark → ReviewStep
  | .onLabel label value => .label label value
  | .onFile file comments => .file ((CommentedFile.ofName file).addAll comments).1

/-- The vote on a label. -/
def vote? (label : String) : Remark → Option Int
  | .onLabel name value => if label = name then some value else none
  | .onFile _ _ => none

/-- The comments on a file. -/
def commentsOn? (file : String) : Remark → Option (List LineComment)
  | .onLabel _ _ => none
  | .onFile name comments => if file = name then some comments else none

/-- The label or the file that a remark is about. -/
def subject : Remark → String ⊕ String
  | .onLabel label _ => .inl label
  | .onFile file _ => .inr file

theorem vote?_eq_some_iff {label : String} {value : Int} {remark : Remark} :
    remark.vote? label = some value ↔ remark = .onLabel label value := by
  cases remark with
  | onLabel name given =>
      rw [vote?, Option.ite_none_right_eq_some, Option.some.injEq, onLabel.injEq]
      exact and_congr_left' eq_comm
  | onFile name given => simp [vote?]

theorem commentsOn?_eq_some_iff {file : String} {comments : List LineComment} {remark : Remark} :
    remark.commentsOn? file = some comments ↔ remark = .onFile file comments := by
  cases remark with
  | onLabel name given => simp [commentsOn?]
  | onFile name given =>
      rw [commentsOn?, Option.ite_none_right_eq_some, Option.some.injEq, onFile.injEq]
      exact and_congr_left' eq_comm

/-- The comments given on a file, by remark. -/
def given (file : String) (remarks : List Remark) : List (List LineComment) :=
  remarks.filterMap (commentsOn? file)

/-- The vote on a label that counts. -/
def lastVote? (label : String) (remarks : List Remark) : Option Int :=
  (remarks.filterMap (vote? label)).getLast?

theorem filterMap_concat (read : Remark → Option β) (remarks : List Remark) (remark : Remark) :
    (remarks ++ [remark]).filterMap read = remarks.filterMap read ++ (read remark).toList := by
  rw [List.filterMap_append]
  cases found : read remark with
  | none => rw [List.filterMap_cons_none found, List.filterMap_nil, Option.toList_none]
  | some value => rw [List.filterMap_cons_some found, List.filterMap_nil, Option.toList_some]

theorem mem_given_iff {file : String} {comments : List LineComment} {remarks : List Remark} :
    comments ∈ given file remarks ↔ .onFile file comments ∈ remarks := by
  rw [given, List.mem_filterMap]
  constructor
  · rintro ⟨remark, member, found⟩
    rwa [commentsOn?_eq_some_iff.mp found] at member
  · intro member
    exact ⟨_, member, commentsOn?_eq_some_iff.mpr rfl⟩

theorem isSome_lastVote?_iff {label : String} {remarks : List Remark} :
    (lastVote? label remarks).isSome = true ↔ ∃ value, .onLabel label value ∈ remarks := by
  rw [lastVote?, List.getLast?_isSome]
  constructor
  · intro voted
    obtain ⟨value, inside⟩ := List.exists_mem_of_ne_nil _ voted
    obtain ⟨remark, member, found⟩ := List.mem_filterMap.mp inside
    rw [vote?_eq_some_iff.mp found] at member
    exact ⟨value, member⟩
  · rintro ⟨value, member⟩
    apply List.ne_nil_of_mem
    exact List.mem_filterMap.mpr ⟨_, member, vote?_eq_some_iff.mpr rfl⟩

theorem subject_of_vote? {label : String} {remark : Remark} {value : Int}
    (found : remark.vote? label = some value) : remark.subject = .inl label := by
  rw [vote?_eq_some_iff.mp found, subject]

theorem subject_of_commentsOn? {file : String} {remark : Remark} {comments : List LineComment}
    (found : remark.commentsOn? file = some comments) : remark.subject = .inr file := by
  rw [commentsOn?_eq_some_iff.mp found, subject]

/-- What is read off the remarks about one thing does not depend on where remarks about
another one stand. -/
theorem filterMap_swap {read : Remark → Option β} {about : String ⊕ String}
    (reads : ∀ {remark value}, read remark = some value → remark.subject = about)
    {one other : Remark} (apart : one.subject ≠ other.subject) (before behind : List Remark) :
    (before ++ one :: other :: behind).filterMap read =
      (before ++ other :: one :: behind).filterMap read := by
  simp only [List.filterMap_append, List.filterMap_cons]
  cases found : read one with
  | none => rfl
  | some value =>
      have unread : read other = none := by
        rw [Option.eq_none_iff_forall_ne_some]
        intro more again
        exact apart ((reads found).trans (reads again).symm)
      rw [unread]

end Remark

open Remark

/-- The comments of a file to which remarks were made. -/
def joined? : List (List LineComment) → Option (List LineComment)
  | [] => none
  | given => some given.flatten.eraseDups

theorem joined?_getD (given : List (List LineComment)) :
    (joined? given).getD [] = given.flatten.eraseDups := by
  cases given with
  | nil => rfl
  | cons first more => rfl

theorem joined?_eq_some {given : List (List LineComment)} {comments : List LineComment}
    (found : joined? given = some comments) : given.flatten.eraseDups = comments := by
  rw [← joined?_getD, found, Option.getD_some]

theorem isSome_joined?_iff {file : String} {remarks : List Remark} :
    (joined? (given file remarks)).isSome = true ↔
      ∃ comments, .onFile file comments ∈ remarks := by
  cases made : given file remarks with
  | nil =>
      have none : ∀ comments, .onFile file comments ∉ remarks := by
        intro comments member
        have inside := mem_given_iff.mpr member
        rw [made] at inside
        cases inside
      simp [joined?, none]
  | cons first more =>
      have member : first ∈ given file remarks := made ▸ List.mem_cons_self
      exact iff_of_true rfl ⟨first, mem_given_iff.mp member⟩

theorem joined?_concat (given : List (List LineComment)) (comments : List LineComment) :
    joined? (given ++ [comments]) = some (given.flatten ++ comments).eraseDups := by
  cases given with
  | nil => simp [joined?]
  | cons first more => simp [joined?]

/-- Comments that a file already got add nothing to it. -/
theorem joined?_again {given : List (List LineComment)} {comments : List LineComment}
    (known : comments ∈ given) : joined? (given ++ [comments]) = joined? given := by
  have old : ∀ comment ∈ comments, comment ∈ given.flatten.eraseDups := by
    intro comment member
    apply List.mem_eraseDups.mpr
    exact List.mem_flatten.mpr ⟨comments, known, member⟩
  rw [joined?_concat, ← addComments_eq_eraseDups, List.foldl_append,
    addComments_eq_eraseDups, addComments_known old]
  cases given with
  | nil => cases known
  | cons first more => rfl

/-- A review is what remarks make of it: each label has its last vote and each file the
comments joined on it. -/
structure ReviewInput.MadeOf (message : String) (remarks : List Remark) (review : ReviewInput) :
    Prop where
  message_eq : review.message = message
  labels_inOrder : Association.InOrder review.labels
  comments_inOrder : Association.InOrder review.comments
  label : ∀ label, review.labels.lookup label = lastVote? label remarks
  comments : ∀ file, review.comments.lookup file = joined? (given file remarks)

namespace ReviewInput

variable {message : String} {remarks others : List Remark} {review : ReviewInput}

theorem madeOf_nothing (message : String) : (ofMessage message).MadeOf message [] where
  message_eq := rfl
  labels_inOrder := List.Pairwise.nil
  comments_inOrder := List.Pairwise.nil
  label _ := rfl
  comments _ := rfl

theorem MadeOf.onLabel (made : review.MadeOf message remarks) (name : String) (value : Int) :
    (review.label name value).MadeOf message (remarks ++ [.onLabel name value]) where
  message_eq := made.message_eq
  labels_inOrder := Association.inOrder_bind made.labels_inOrder
  comments_inOrder := made.comments_inOrder
  label other := by
    rw [ReviewInput.label, Association.lookup_bind, made.label, lastVote?, lastVote?,
      filterMap_concat, vote?]
    split
    · rw [Option.toList_some, List.getLast?_concat]
    · rw [Option.toList_none, List.append_nil]
  comments file := by
    rw [ReviewInput.label, made.comments, given, given, filterMap_concat, commentsOn?,
      Option.toList_none, List.append_nil]

theorem MadeOf.onFile (made : review.MadeOf message remarks) (name : String)
    (comments : List LineComment) :
    (review.file ((CommentedFile.ofName name).addAll comments).1).MadeOf message
      (remarks ++ [.onFile name comments]) where
  message_eq := made.message_eq
  labels_inOrder := made.labels_inOrder
  comments_inOrder := Association.inOrder_bind made.comments_inOrder
  label other := by
    rw [ReviewInput.file, made.label, lastVote?, lastVote?, filterMap_concat, vote?,
      Option.toList_none, List.append_nil]
  comments other := by
    rw [CommentedFile.addAll_fst, CommentedFile.ofName, ReviewInput.file,
      Association.lookup_bind, made.comments, made.comments, joined?_getD,
      addComments_eq_eraseDups, addComments_eraseDups]
    split
    · rename_i same
      rw [given, given, filterMap_concat, commentsOn?, if_pos same, Option.toList_some,
        joined?_concat, same]
    · rename_i different
      rw [given, given, filterMap_concat, commentsOn?, if_neg different, Option.toList_none,
        List.append_nil]

/-- One more remark. -/
theorem MadeOf.step (made : review.MadeOf message remarks) (remark : Remark) :
    (review.step remark.step).MadeOf message (remarks ++ [remark]) := by
  cases remark with
  | onLabel name value => exact made.onLabel name value
  | onFile name comments => exact made.onFile name comments

theorem build_madeOf (message : String) (remarks : List Remark) :
    (build message (remarks.map Remark.step)).MadeOf message remarks := by
  induction remarks using List.reverseRecOn with
  | nil => exact madeOf_nothing message
  | append_singleton remarks remark induction =>
      rw [build, List.map_append, List.foldl_append]
      exact induction.step remark

theorem eq_of_parts {other : ReviewInput} (messages : review.message = other.message)
    (labels : review.labels = other.labels) (comments : review.comments = other.comments) :
    review = other := by
  cases review
  cases other
  cases messages
  cases labels
  cases comments
  rfl

/-- What is said of labels and files determines the review. -/
theorem build_congr (votes : ∀ label, lastVote? label remarks = lastVote? label others)
    (comments : ∀ file, joined? (given file remarks) = joined? (given file others)) :
    build message (remarks.map Remark.step) = build message (others.map Remark.step) := by
  have one := build_madeOf message remarks
  have other := build_madeOf message others
  have messages := one.message_eq.trans other.message_eq.symm
  have labels := one.labels_inOrder.ext other.labels_inOrder
    (fun label => by rw [one.label, other.label, votes])
  have files := one.comments_inOrder.ext other.comments_inOrder
    (fun file => by rw [one.comments, other.comments, comments])
  exact eq_of_parts messages labels files

/-- Remarks about different things can change places. -/
theorem build_swap {one other : Remark} (apart : one.subject ≠ other.subject)
    (before behind : List Remark) :
    build message ((before ++ one :: other :: behind).map Remark.step) =
      build message ((before ++ other :: one :: behind).map Remark.step) := by
  apply build_congr
  · intro label
    rw [lastVote?, lastVote?, filterMap_swap subject_of_vote? apart]
  · intro file
    rw [given, given, filterMap_swap subject_of_commentsOn? apart]

/-- Comments on a file that were made before change nothing. -/
theorem build_again {file : String} {comments : List LineComment}
    (made : .onFile file comments ∈ remarks) :
    build message ((remarks ++ [Remark.onFile file comments]).map Remark.step) =
      build message (remarks.map Remark.step) := by
  apply build_congr
  · intro label
    rw [lastVote?, lastVote?, filterMap_concat, vote?, Option.toList_none, List.append_nil]
  · intro other
    rw [given, given, filterMap_concat, commentsOn?]
    split
    · rename_i same
      have known : comments ∈ given other remarks := mem_given_iff.mpr (same ▸ made)
      rw [Option.toList_some, ← given]
      exact joined?_again known
    · rw [Option.toList_none, List.append_nil]

/-- A review built from remarks has its message, the last vote on each label that has one,
and on each file that was named the comments of all remarks on it, without repetitions,
each where it came first; its labels and files are in order.  Adding a comment to a file
succeeds exactly if the file does not have it, and changes nothing otherwise.  Comments
made again on a file change nothing, and remarks about different labels or files can
change places. -/
theorem build_is_merged (message : String) :
    (∀ remarks : List Remark,
      let review := build message (remarks.map Remark.step)
      review.message = message ∧
      Association.InOrder review.labels ∧ Association.InOrder review.comments ∧
      (∀ label, review.labels.lookup label = (remarks.filterMap (vote? label)).getLast?) ∧
      (∀ label, label ∈ review.labels.map Prod.fst ↔
        ∃ value, .onLabel label value ∈ remarks) ∧
      (∀ file, file ∈ review.comments.map Prod.fst ↔
        ∃ comments, .onFile file comments ∈ remarks) ∧
      ∀ file comments, (file, comments) ∈ review.comments →
        comments = (remarks.filterMap (commentsOn? file)).flatten.eraseDups ∧
          comments.Nodup) ∧
    (∀ (file : CommentedFile) (comment : LineComment),
      ((file.add comment).2 = true ↔ comment ∉ file.comments) ∧
      ((file.add comment).2 = true →
        (file.add comment).1 = { file with comments := file.comments ++ [comment] }) ∧
      ((file.add comment).2 = false → (file.add comment).1 = file)) ∧
    (∀ (file : CommentedFile) (before : List LineComment) (comment : LineComment)
      (behind : List LineComment),
      (file.addAll (before ++ comment :: behind)).2[before.length]? =
        some (decide (comment ∉ (file.addAll before).1.comments))) ∧
    (∀ (remarks : List Remark) (file : String) (comments : List LineComment),
      .onFile file comments ∈ remarks →
        build message ((remarks ++ [Remark.onFile file comments]).map Remark.step) =
          build message (remarks.map Remark.step)) ∧
    ∀ (before : List Remark) (one other : Remark) (behind : List Remark),
      one.subject ≠ other.subject →
        build message ((before ++ one :: other :: behind).map Remark.step) =
          build message ((before ++ other :: one :: behind).map Remark.step) := by
  refine ⟨?_, ?_, CommentedFile.addAll_snd_getElem?, fun remarks file comments => build_again,
    fun before one other behind apart => build_swap apart before behind⟩
  · intro remarks
    have made := build_madeOf message remarks
    refine ⟨made.message_eq, made.labels_inOrder, made.comments_inOrder, made.label, ?_, ?_, ?_⟩
    · intro label
      rw [← Association.isSome_lookup_iff, made.label, isSome_lastVote?_iff]
    · intro file
      rw [← Association.isSome_lookup_iff, made.comments, isSome_joined?_iff]
    · intro file comments member
      have found := Association.lookup_eq_some_of_mem made.comments_inOrder.distinct member
      rw [made.comments] at found
      rw [← joined?_eq_some found]
      exact ⟨rfl, nodup_eraseDups _⟩
  · intro file comment
    refine ⟨decide_eq_true_iff, ?_, ?_⟩
    · intro added
      have fresh : comment ∉ file.comments := of_decide_eq_true added
      rw [CommentedFile.add, addComment, if_neg fresh]
    · intro refused
      have known : comment ∈ file.comments := by simpa [CommentedFile.add] using refused
      rw [CommentedFile.add, addComment, if_pos known]

def typo : LineComment :=
  { line := 3, message := "typo" }

def unclear : LineComment :=
  { line := 3, message := "unclear" }

/-- Two votes on one label, a file without comments, and two remarks on another file that
repeat a comment in themselves and of each other. -/
def sampleRemarks : List Remark :=
  [.onLabel "Verified" 1, .onFile "b" [typo, typo], .onFile "a" [],
    .onLabel "Verified" (-1), .onFile "b" [unclear, typo, unclear]]

theorem build_is_merged_sample :
    (("b", [typo, unclear]) ∈ (build "m" (sampleRemarks.map Remark.step)).comments ∧
      [typo, unclear] = [typo, typo, unclear, typo, unclear].eraseDups) ∧
    ({ name := "b", comments := [typo] } : CommentedFile).add typo =
      ({ name := "b", comments := [typo] }, false) ∧
    (({ name := "b", comments := [typo] } : CommentedFile).add unclear).1.comments =
      [typo, unclear] ∧
    build "m" ((sampleRemarks ++ [Remark.onFile "b" [typo, typo]]).map Remark.step) =
      build "m" (sampleRemarks.map Remark.step) ∧
    build "m" (([] ++ Remark.onFile "a" [typo] :: .onFile "b" [typo] :: sampleRemarks).map
        Remark.step) =
      build "m" (([] ++ Remark.onFile "b" [typo] :: .onFile "a" [typo] :: sampleRemarks).map
        Remark.step) := by
  obtain ⟨merged, added, -, again, swapped⟩ := build_is_merged "m"
  obtain ⟨-, -, -, -, -, -, joined⟩ := merged sampleRemarks
  have member : ("b", [typo, unclear]) ∈
      (build "m" (sampleRemarks.map Remark.step)).comments := by decide
  have refused := (added { name := "b", comments := [typo] } typo).2.2 (by decide)
  have accepted := (added { name := "b", comments := [typo] } unclear).2.1 (by decide)
  refine ⟨⟨member, (joined "b" _ member).1⟩, Prod.ext refused rfl, ?_,
    again sampleRemarks "b" [typo, typo] (by decide),
    swapped [] (.onFile "a" [typo]) (.onFile "b" [typo]) sampleRemarks (by decide)⟩
  rw [accepted]
  rfl

end ReviewInput

end ReviewFeed
