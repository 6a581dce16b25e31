import ReviewFeed.Association
import ReviewFeed.Json.Writer

/-!
# Reviews

A review is a message with votes on labels and comments on the lines of files.
It is built step by step: the last vote on a label counts, and comments on a file
are joined, each kept once.
-/

namespace ReviewFeed

/-- A comment on one line of a file. -/
structure LineComment where
  line : Nat
  message : String
  deriving DecidableEq, Repr

def LineComment.toJson (comment : LineComment) : Json :=
  .object [("line", .ofNat comment.line), ("message", .string comment.message)]

/-- Adds a comment at the end of others, unless it is among them. -/
def addComment (comments : List LineComment) (comment : LineComment) : List LineComment :=
  if comment ∈ comments then comments else comments ++ [comment]

structure CommentedFile where
  name : String
  comments : List LineComment
  deriving DecidableEq, Repr

namespace CommentedFile

def ofName (name : String) : CommentedFile :=
  { name, comments := [] }

/-- Adds a comment, and says whether it was new. -/
def add (file : CommentedFile) (comment : LineComment) : CommentedFile × Bool :=
  ({ file with comments := addComment file.comments comment }, comment ∉ file.comments)

/-- Adds comments in order, and says of each whether it was new. -/
def addAll (file : CommentedFile) : List LineComment → CommentedFile × List Bool
  | [] => (file, [])
  | comment :: more =>
      let (file, isNew) := file.add comment
      let (file, others) := file.addAll more
      (file, isNew :: others)

end CommentedFile

/-- A review: its message, the votes by label and the comments by file. -/
structure ReviewInput where
  message : String
  labels : Association Int
  comments : Association (List LineComment)
  deriving DecidableEq, Repr

inductive ReviewStep
  | label (name : String) (value : Int)
  | file (file : CommentedFile)
  deriving DecidableEq, Repr

namespace ReviewInput

/-- A review that only has a message. -/
def ofMessage (message : String) : ReviewInput :=
  { message, labels := [], comments := [] }

def label (review : ReviewInput) (name : String) (value : Int) : ReviewInput :=
  { review with labels := review.labels.bind name value }

/-- Joins the comments on a file to those that the review has on it. -/
def file (review : ReviewInput) (file : CommentedFile) : ReviewInput :=
  let present := (review.comments.lookup file.name).getD []
  { review with
    comments := review.comments.bind file.name (file.comments.foldl addComment present) }

def step (review : ReviewInput) : ReviewStep → ReviewInput
  | .label name value => review.label name value
  | .file file => review.file file

def build (message : String) (steps : List ReviewStep) : ReviewInput :=
  steps.foldl step (ofMessage message)

def labelsJson (review : ReviewInput) : Json :=
  .object (review.labels.map (fun (name, value) => (name, .ofInt value)))

def commentsJson (review : ReviewInput) : Json :=
  .object (review.comments.map (fun (name, comments) =>
    (name, .array (comments.map LineComment.toJson))))

/-- Labels and comments are left out when there are none. -/
def toJson (review : ReviewInput) : Json :=
  .object (("message", .string review.message) ::
    (if review.labels.isEmpty then [] else [("labels", review.labelsJson)]) ++
    (if review.comments.isEmpty then [] else [("comments", review.commentsJson)]))

def render (review : ReviewInput) : String :=
  review.toJson.render

end ReviewInput

end ReviewFeed
