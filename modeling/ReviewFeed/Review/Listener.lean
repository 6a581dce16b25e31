import ReviewFeed.Review.Poster

/-!
# The review listener

A review listener posts a review of every event that takes part in the review
workflow, names a revision, and for which its builder has a review.
-/

namespace ReviewFeed

/-- Makes the review of an event, or declines. -/
abbrev ReviewBuilder := Event → Option ReviewInput

/-- A builder that goes by what it was asked before: what it is after having been
asked for some events. -/
abbrev RememberingBuilder := List Event → ReviewBuilder

/-- What a review listener has done: the events that its builder was asked for,
the requests sent, what each of them returned, and the log. -/
structure ReviewActivity where
  asked : List Event
  requests : List ReviewRequest
  replies : List String
  log : List String

namespace ReviewActivity

/-- Nothing done yet. -/
def none : ReviewActivity :=
  { asked := [], requests := [], replies := [], log := [] }

/-- Sends a request, which comes out as the world decides for its number. -/
def send (activity : ReviewActivity) (request : ReviewRequest)
    (world : Nat → HttpOutcome) : ReviewActivity :=
  let outcome := world activity.requests.length
  { activity with
    requests := activity.requests ++ [request]
    replies := activity.replies ++ [ReviewPoster.reply outcome]
    log := activity.log ++ ReviewPoster.reports outcome }

end ReviewActivity

def ReviewPoster.onEvent (poster : ReviewPoster) (build : ReviewBuilder)
    (world : Nat → HttpOutcome) (activity : ReviewActivity) (event : Event) : ReviewActivity :=
  if event.isScorable then
    match event.reviewTarget? with
    | none => activity
    | some target =>
        let asking := { activity with asked := activity.asked ++ [event] }
        match build event with
        | none => asking
        | some review => asking.send (poster.request target review) world
  else activity

/-- What a review listener does on a sequence of events. -/
def ReviewPoster.onEventsInTurn (poster : ReviewPoster) (build : RememberingBuilder)
    (world : Nat → HttpOutcome) (events : List Event) : ReviewActivity :=
  events.foldl (fun activity => poster.onEvent (build activity.asked) world activity) .none

/-- The same with a builder that goes by the event alone. -/
def ReviewPoster.onEvents (poster : ReviewPoster) (build : ReviewBuilder)
    (world : Nat → HttpOutcome) (events : List Event) : ReviewActivity :=
  poster.onEventsInTurn (fun _ => build) world events

end ReviewFeed
