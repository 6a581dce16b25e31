import Mathlib.Data.List.Forall2
import Mathlib.Data.List.Induction
import ReviewFeed.Proofs.Review.Body
import ReviewFeed.Proofs.Text.Utf8
import ReviewFeed.Review.Listener

/-!
# What a review listener posts

An event is reviewable when it belongs to the review workflow and names a change and a
revision of it.  The builder is asked for the reviewable events only, each in its turn,
and every review that it has is posted once.  What comes of a request decides its reply
and its line in the log, and nothing about the other requests.
-/

namespace ReviewFeed

section Targets

/-- A review of the event goes to the target: the event belongs to the review workflow
and names the parts of the change and the revision. -/
structure Event.IsAbout (event : Event) (target : ReviewTarget) : Prop where
  scorable : event.isScorable = true
  change : ∃ change, event.change? = some change ∧
    change.project = some target.change.project ∧
    change.branch = some target.change.branch ∧ change.id = some target.change.id
  revision : ∃ patchSet, event.patchSet? = some patchSet ∧
    patchSet.revision = some target.revision

theorem ChangeId.ofChange?_eq_some_iff {change : Change} {name : ChangeId} :
    ofChange? change = some name ↔
      change.project = some name.project ∧ change.branch = some name.branch ∧
        change.id = some name.id := by
  cases name
  cases project : change.project <;> cases branch : change.branch <;> cases id : change.id <;>
    simp [ofChange?, project, branch, id]

theorem Event.reviewTarget?_eq_some_iff {event : Event} {target : ReviewTarget} :
    event.reviewTarget? = some target ↔
      (∃ change, event.change? = some change ∧ ChangeId.ofChange? change = some target.change) ∧
        ∃ patchSet, event.patchSet? = some patchSet ∧
          patchSet.revision = some target.revision := by
  cases target
  simp only [reviewTarget?, Option.bind_eq_bind, Option.bind_eq_some_iff, Option.some.injEq,
    ReviewTarget.mk.injEq]
  constructor
  · rintro ⟨change, named, revision, revised, rfl, rfl⟩
    exact ⟨named, revised⟩
  · rintro ⟨named, revised⟩
    exact ⟨_, named, _, revised, rfl, rfl⟩

theorem Event.isAbout_iff {event : Event} {target : ReviewTarget} :
    event.IsAbout target ↔ event.isScorable = true ∧ event.reviewTarget? = some target := by
  rw [reviewTarget?_eq_some_iff]
  simp only [ChangeId.ofChange?_eq_some_iff]
  constructor
  · intro about
    exact ⟨about.scorable, about.change, about.revision⟩
  · rintro ⟨scorable, change, revision⟩
    exact ⟨scorable, change, revision⟩

/-- There is a target to which a review of the event would go. -/
def Event.IsReviewable (event : Event) : Prop :=
  ∃ target, event.IsAbout target

theorem Event.isReviewable_iff {event : Event} :
    event.IsReviewable ↔ event.isScorable = true ∧ event.reviewTarget?.isSome = true := by
  simp only [IsReviewable, isAbout_iff, exists_and_left, Option.isSome_iff_exists]

instance Event.decidableIsReviewable : DecidablePred Event.IsReviewable :=
  fun _ => decidable_of_iff _ isReviewable_iff.symm

end Targets

section Outcomes

/-- The request came to nothing: it had no response, or one whose status says so. -/
def HttpOutcome.Fails : HttpOutcome → Prop
  | .response status _ => ¬(200 ≤ status ∧ status < 300)
  | .failed _ => True

instance HttpOutcome.decidableFails : DecidablePred HttpOutcome.Fails
  | .response status _ => inferInstanceAs (Decidable ¬(200 ≤ status ∧ status < 300))
  | .failed _ => inferInstanceAs (Decidable True)

/-- What is returned for a request: the body of its response, whatever the status. -/
inductive HttpOutcome.Replied : HttpOutcome → String → Prop
  | response (status : Nat) (body : List UInt8) :
      Replied (.response status body) (responseText body)
  | failed (reason : String) : Replied (.failed reason) ""

/-- The line of the log for a request that failed. -/
inductive HttpOutcome.Logged : HttpOutcome → String → Prop
  | response (status : Nat) (body : List UInt8) :
      Logged (.response status body) ("ERROR Gerrit response: " ++ httpStatusText status)
  | failed (reason : String) :
      Logged (.failed reason) ("ERROR Failed to submit result to Gerrit: " ++ reason)

theorem isHttpSuccess_iff {status : Nat} :
    isHttpSuccess status = true ↔ 200 ≤ status ∧ status < 300 := by
  rw [isHttpSuccess, Bool.and_eq_true, decide_eq_true_eq, decide_eq_true_eq]

namespace ReviewPoster

theorem replied_reply (outcome : HttpOutcome) : outcome.Replied (reply outcome) := by
  cases outcome with
  | response status body =>
      have whole : reply (.response status body) = responseText body := by
        rw [reply, result]
        by_cases success : isHttpSuccess status = true
        · rw [if_pos success]
        · rw [if_neg success]
      exact whole ▸ .response status body
  | failed reason => exact .failed reason

theorem reports_of_fails {outcome : HttpOutcome} (fails : outcome.Fails) :
    ∃ line, reports outcome = [line] ∧ outcome.Logged line := by
  cases outcome with
  | response status body =>
      have refused : ¬isHttpSuccess status = true := fun success =>
        fails (isHttpSuccess_iff.mp success)
      refine ⟨"ERROR Gerrit response: " ++ httpStatusText status, ?_, .response status body⟩
      rw [reports, result, if_neg refused]
      rfl
  | failed reason => exact ⟨_, rfl, .failed reason⟩

theorem reports_of_success {outcome : HttpOutcome} (success : ¬outcome.Fails) :
    reports outcome = [] := by
  cases outcome with
  | response status body =>
      have accepted : isHttpSuccess status = true :=
        isHttpSuccess_iff.mpr (Decidable.not_not.mp success)
      rw [reports, result, if_pos accepted]
  | failed reason => exact absurd trivial success

end ReviewPoster

theorem responseText_encode {text : String} (unmarked : text.toList.head? ≠ some '\uFEFF') :
    responseText (Utf8.encode text.toList) = text := by
  rw [responseText, Utf8.decodeLossy_encode]
  split
  · rename_i chars marked
    rw [marked] at unmarked
    exact absurd rfl unmarked
  · exact String.ofList_toList

theorem responseText_encode_mark (text : String) :
    responseText (Utf8.encode ('\uFEFF' :: text.toList)) = text := by
  rw [responseText, Utf8.decodeLossy_encode]
  exact String.ofList_toList

end Outcomes

/-- Events, each with those before it. -/
def Event.turnsFrom (past : List Event) : List Event → List (List Event × Event)
  | [] => []
  | event :: events => (past, event) :: turnsFrom (past ++ [event]) events

theorem Event.turnsFrom_concat (past events : List Event) (event : Event) :
    turnsFrom past (events ++ [event]) = turnsFrom past events ++ [(past ++ events, event)] := by
  induction events generalizing past with
  | nil => rw [List.append_nil]; rfl
  | cons first events ih =>
      rw [List.cons_append, turnsFrom, ih, turnsFrom, List.append_assoc, List.cons_append]
      rfl

namespace ReviewPoster

/-- The request posts the review of an event that the builder has in the event's turn.  Its
body tells the message, the votes and the comments of the review. -/
inductive Posts (poster : ReviewPoster) (build : RememberingBuilder) :
    List Event × Event → ReviewRequest → Prop
  | review {past : List Event} {event : Event} {target : ReviewTarget} {review : ReviewInput}
      {request : ReviewRequest} (about : event.IsAbout target)
      (built : build past event = some review)
      (url : request.url = target.change.endpoint target.revision poster.frontendUrl)
      (authorization : request.authorization =
        poster.credentials.map Credentials.authorization)
      (body : request.body = review.render)
      (told : review.WellFormed →
        (Json.read? request.body).bind ReviewInput.read? = some review) :
      Posts poster build (past, event) request

theorem posts_rightUnique (poster : ReviewPoster) (build : RememberingBuilder) :
    Relator.RightUnique (poster.Posts build) := by
  intro turn one other first second
  obtain ⟨about, built, url, authorization, body, _⟩ := first
  obtain ⟨about', built', url', authorization', body', _⟩ := second
  have target := (Event.isAbout_iff.mp about).2.symm.trans (Event.isAbout_iff.mp about').2
  have review := built.symm.trans built'
  cases target
  cases review
  cases one
  cases other
  rw [ReviewRequest.mk.injEq]
  exact ⟨url.trans url'.symm, authorization.trans authorization'.symm, body.trans body'.symm⟩

section OneEvent

variable {poster : ReviewPoster} {build : ReviewBuilder} {world : Nat → HttpOutcome}
  {activity : ReviewActivity} {event : Event} {target : ReviewTarget}

theorem onEvent_of_not_reviewable (unfit : ¬event.IsReviewable) :
    poster.onEvent build world activity event = activity := by
  rw [onEvent]
  split
  · rename_i scorable
    split
    · rfl
    · rename_i target found
      exact absurd ⟨target, Event.isAbout_iff.mpr ⟨scorable, found⟩⟩ unfit
  · rfl

theorem onEvent_of_declined (about : event.IsAbout target) (declined : build event = none) :
    poster.onEvent build world activity event =
      { activity with asked := activity.asked ++ [event] } := by
  obtain ⟨scorable, found⟩ := Event.isAbout_iff.mp about
  simp only [onEvent, scorable, found, declined, if_true]

theorem onEvent_of_built {review : ReviewInput} (about : event.IsAbout target)
    (built : build event = some review) :
    poster.onEvent build world activity event =
      ({ activity with asked := activity.asked ++ [event] } : ReviewActivity).send
        (poster.request target review) world := by
  obtain ⟨scorable, found⟩ := Event.isAbout_iff.mp about
  simp only [onEvent, scorable, found, built, if_true]

end OneEvent

/-- What came of the first requests. -/
def outcomes (world : Nat → HttpOutcome) (count : Nat) : List HttpOutcome :=
  (List.range count).map world

theorem outcomes_succ (world : Nat → HttpOutcome) (count : Nat) :
    outcomes world (count + 1) = outcomes world count ++ [world count] := by
  rw [outcomes, List.range_succ, List.map_append]
  rfl

/-- A listener's activity accounts for the events: the reviewable ones have been asked
for, their reviews posted, and every outcome has its reply and, if bad, its line. -/
structure Accounts (poster : ReviewPoster) (build : RememberingBuilder)
    (world : Nat → HttpOutcome) (events : List Event) (activity : ReviewActivity) : Prop where
  asked : activity.asked = events.filter (fun event => event.IsReviewable)
  requests : List.Forall₂ (poster.Posts build)
    ((Event.turnsFrom [] activity.asked).filter (fun turn => (build turn.1 turn.2).isSome))
    activity.requests
  replies : List.Forall₂ HttpOutcome.Replied (outcomes world activity.requests.length)
    activity.replies
  log : List.Forall₂ HttpOutcome.Logged
    ((outcomes world activity.requests.length).filter (fun outcome => outcome.Fails))
    activity.log

namespace Accounts

variable {poster : ReviewPoster} {build : RememberingBuilder} {world : Nat → HttpOutcome}
  {events : List Event} {activity : ReviewActivity} {event : Event}

theorem nothing : Accounts poster build world [] .none :=
  ⟨rfl, .nil, .nil, .nil⟩

/-- Events that are passed over leave no trace. -/
theorem passedOver (accounts : Accounts poster build world events activity)
    (unfit : ¬event.IsReviewable) : Accounts poster build world (events ++ [event]) activity where
  asked := by
    rw [accounts.asked, List.filter_append, List.filter_cons_of_neg (by simpa using unfit),
      List.filter_nil, List.append_nil]
  requests := accounts.requests
  replies := accounts.replies
  log := accounts.log

theorem asked_concat (accounts : Accounts poster build world events activity)
    (fit : event.IsReviewable) :
    activity.asked ++ [event] =
      (events ++ [event]).filter (fun event => event.IsReviewable) := by
  rw [accounts.asked, List.filter_append, List.filter_cons_of_pos (by simpa using fit),
    List.filter_nil]

theorem declined (accounts : Accounts poster build world events activity)
    (fit : event.IsReviewable) (none : build activity.asked event = none) :
    Accounts poster build world (events ++ [event])
      { activity with asked := activity.asked ++ [event] } where
  asked := accounts.asked_concat fit
  requests := by
    rw [Event.turnsFrom_concat, List.filter_append, List.filter_cons_of_neg (by simp [none]),
      List.filter_nil, List.append_nil]
    exact accounts.requests
  replies := accounts.replies
  log := accounts.log

theorem posted (accounts : Accounts poster build world events activity)
    {target : ReviewTarget} {review : ReviewInput} (about : event.IsAbout target)
    (built : build activity.asked event = some review) :
    Accounts poster build world (events ++ [event])
      (({ activity with asked := activity.asked ++ [event] } : ReviewActivity).send
        (poster.request target review) world) where
  asked := accounts.asked_concat ⟨target, about⟩
  requests := by
    have sent : poster.Posts build (activity.asked, event) (poster.request target review) :=
      .review about built rfl rfl rfl (fun fits => fits.read?_render)
    show List.Forall₂ _ ((Event.turnsFrom [] (activity.asked ++ [event])).filter _)
      (activity.requests ++ [_])
    rw [Event.turnsFrom_concat, List.filter_append, List.filter_cons_of_pos (by simp [built]),
      List.filter_nil]
    exact List.rel_append accounts.requests (.cons sent .nil)
  replies := by
    show List.Forall₂ _ (outcomes world (activity.requests ++ [_]).length) (_ ++ [_])
    rw [List.length_append, List.length_singleton, outcomes_succ]
    exact List.rel_append accounts.replies (.cons (replied_reply _) .nil)
  log := by
    show List.Forall₂ _ ((outcomes world (activity.requests ++ [_]).length).filter _) (_ ++ _)
    rw [List.length_append, List.length_singleton, outcomes_succ, List.filter_append]
    apply List.rel_append accounts.log
    by_cases fails : (world activity.requests.length).Fails
    · obtain ⟨line, reported, logged⟩ := reports_of_fails fails
      rw [List.filter_cons_of_pos (by simpa using fails), List.filter_nil, reported]
      exact .cons logged .nil
    · rw [List.filter_cons_of_neg (by simpa using fails), List.filter_nil,
        reports_of_success fails]
      exact .nil

theorem step (accounts : Accounts poster build world events activity) (event : Event) :
    Accounts poster build world (events ++ [event])
      (poster.onEvent (build activity.asked) world activity event) := by
  by_cases fit : event.IsReviewable
  · obtain ⟨target, about⟩ := fit
    cases found : build activity.asked event with
    | none =>
        rw [onEvent_of_declined about found]
        exact accounts.declined ⟨target, about⟩ found
    | some review =>
        rw [onEvent_of_built about found]
        exact accounts.posted about found
  · rw [onEvent_of_not_reviewable fit]
    exact accounts.passedOver fit

end Accounts

theorem onEventsInTurn_accounts (poster : ReviewPoster) (build : RememberingBuilder)
    (world : Nat → HttpOutcome) (events : List Event) :
    Accounts poster build world events (poster.onEventsInTurn build world events) := by
  induction events using List.reverseRecOn with
  | nil => exact .nothing
  | append_singleton events event ih =>
      rw [onEventsInTurn, List.foldl_concat]
      exact ih.step event

/-- The builder is asked for the reviewable events only, in order, and each review that
it has is posted once, whatever comes of the requests, in a body from which it is read
again.  The reply to a request is the body of the response, if there was one, and the log
has a line for each request that failed and for no other. -/
theorem one_request_per_reviewable_event (poster : ReviewPoster) (build : RememberingBuilder)
    (world : Nat → HttpOutcome) (events : List Event) :
    let done := poster.onEventsInTurn build world events
    done.asked = events.filter (fun event => event.IsReviewable) ∧
    List.Forall₂ (poster.Posts build)
      ((Event.turnsFrom [] done.asked).filter (fun turn => (build turn.1 turn.2).isSome))
      done.requests ∧
    (∀ other : Nat → HttpOutcome,
      (poster.onEventsInTurn build other events).asked = done.asked ∧
      (poster.onEventsInTurn build other events).requests = done.requests) ∧
    List.Forall₂ HttpOutcome.Replied (outcomes world done.requests.length) done.replies ∧
    List.Forall₂ HttpOutcome.Logged
      ((outcomes world done.requests.length).filter (fun outcome => outcome.Fails)) done.log ∧
    ∀ text : String, responseText (Utf8.encode ('\uFEFF' :: text.toList)) = text ∧
      (text.toList.head? ≠ some '\uFEFF' → responseText (Utf8.encode text.toList) = text) := by
  intro done
  have accounts := poster.onEventsInTurn_accounts build world events
  refine ⟨accounts.asked, accounts.requests, ?_, accounts.replies, accounts.log, ?_⟩
  · intro other
    have others := poster.onEventsInTurn_accounts build other events
    have asked := others.asked.trans accounts.asked.symm
    refine ⟨asked, ?_⟩
    exact List.right_unique_forall₂' (poster.posts_rightUnique build)
      (asked ▸ others.requests) accounts.requests
  · intro text
    exact ⟨responseText_encode_mark text, responseText_encode⟩

/-- An event about one change, of which a revision may be missing. -/
def eventOn (kind : EventKind) (revision : Json) : Event :=
  { payload := .ofFields kind (.ofMembers
      [("change", .object [("branch", .string "main"), ("id", .string "I1"),
        ("project", .string "a/b")]), ("patchSet", .object [("revision", revision)])])
    provider := none
    receivedOn := none }

/-- Four reviewable events, one outside of the review workflow and one without revision. -/
def mixedEvents : List Event :=
  [eventOn .patchsetCreated (.string "r1"), eventOn .changeAbandoned (.string "r1"),
    eventOn .commentAdded .null, eventOn .commentAdded (.string "r2"),
    eventOn .changeMerged (.string "r3"), eventOn .patchsetNotified (.string "r4")]

/-- Has no review the second time that it is asked, and votes and comments the third time. -/
def skippingSecond : RememberingBuilder := fun past event =>
  match past.length with
  | 1 => none
  | 2 => some (.build event.kind.typeName
      [.label "Verified" (-1), .label "Code-Review" 2,
        .file { name := "a.c", comments := [{ line := 3, message := "\"x\" is unused" }] }])
  | _ => some (.ofMessage event.kind.typeName)

/-- A success, a refusal, and no response from then on. -/
def gettingWorse : Nat → HttpOutcome
  | 0 => .response 200 (Utf8.encode "ok".toList)
  | 1 => .response 409 (Utf8.encode "change is closed".toList)
  | _ => .failed "no route"

def plainPoster : ReviewPoster :=
  { frontendUrl := "http://h", credentials := none }

theorem one_request_per_reviewable_event_mixed :
    let done := plainPoster.onEventsInTurn skippingSecond gettingWorse mixedEvents
    done.asked.map Event.kind =
        [.patchsetCreated, .commentAdded, .changeMerged, .patchsetNotified] ∧
      done.requests.map ReviewRequest.url =
        ["http://h/a/changes/a%2Fb~main~I1/revisions/r1/review",
          "http://h/a/changes/a%2Fb~main~I1/revisions/r3/review",
          "http://h/a/changes/a%2Fb~main~I1/revisions/r4/review"] ∧
      done.requests.map ReviewRequest.body =
        ["\x7b\"message\":\"patchset-created\"\x7d",
          "\x7b\"message\":\"change-merged\"," ++
            "\"labels\":\x7b\"Code-Review\":2,\"Verified\":-1\x7d," ++
            "\"comments\":\x7b\"a.c\":[" ++
            "\x7b\"line\":3,\"message\":\"\\\"x\\\" is unused\"\x7d]\x7d\x7d",
          "\x7b\"message\":\"patchset-notified\"\x7d"] ∧
      done.replies = ["ok", "change is closed", ""] ∧
      done.log = ["ERROR Gerrit response: 409 Conflict",
        "ERROR Failed to submit result to Gerrit: no route"] ∧
      (plainPoster.onEventsInTurn skippingSecond (fun _ => .failed "down") mixedEvents).requests =
        done.requests ∧
      responseText (Utf8.encode "change is closed".toList) = "change is closed" := by
  intro done
  obtain ⟨asked, -, anyhow, -, -, texts⟩ :=
    plainPoster.one_request_per_reviewable_event skippingSecond gettingWorse mixedEvents
  refine ⟨?_, by decide +kernel, by decide +kernel, by decide +kernel, by decide +kernel,
    (anyhow _).2, ?_⟩
  · rw [show done.asked = _ from asked]
    decide +kernel
  · exact (texts "change is closed").2 (by decide)

end ReviewPoster

end ReviewFeed
