import ReviewFeed.Proofs.Text.Form
import ReviewFeed.Proofs.Text.Separated
import ReviewFeed.Review.Target

/-!
# What an endpoint addresses

The parts of a change's name are encoded with characters that no separator is among, so
that the name in a URL can be taken apart again.  An endpoint continues with a slash
behind that name and has the revision, as it is, between two fixed texts: one endpoint
belongs to one revision of one change.
-/

namespace ReviewFeed

namespace ChangeId

/-- The parts of a name, each form-encoded. -/
def encodedParts (change : ChangeId) : List (List Char) :=
  [Form.encode change.project, Form.encode change.branch, Form.encode change.id]

theorem toList_urlPart (change : ChangeId) :
    change.urlPart.toList = ['~'].intercalate change.encodedParts := by
  rw [urlPart, String.toList_ofList]
  simp [encodedParts, List.intercalate]

theorem splitOn_urlPart (change : ChangeId) :
    change.urlPart.toList.splitOn '~' = change.encodedParts := by
  rw [toList_urlPart]
  apply List.splitOn_intercalate
  · intro part member
    rcases List.mem_cons.mp member with rfl | others
    · exact Form.not_mem_encode (by decide) change.project
    · rcases List.mem_cons.mp others with rfl | last
      · exact Form.not_mem_encode (by decide) change.branch
      · cases List.mem_singleton.mp last
        exact Form.not_mem_encode (by decide) change.id
  · exact List.cons_ne_nil _ _

theorem map_decode_encodedParts (change : ChangeId) :
    change.encodedParts.map Form.decode = [change.project, change.branch, change.id] := by
  simp only [encodedParts, List.map_cons, List.map_nil, Form.decode_encode]

theorem urlPart_injective : Function.Injective urlPart := by
  intro change other same
  have parts : change.encodedParts = other.encodedParts := by
    rw [← splitOn_urlPart, ← splitOn_urlPart, same]
  have decoded := congrArg (List.map Form.decode) parts
  rw [map_decode_encodedParts, map_decode_encodedParts] at decoded
  cases change
  cases other
  simpa using decoded

/-- Apart from the tildes there are only characters of encoded texts. -/
theorem not_mem_urlPart {c : Char} (foreign : Form.isSpelling c = false) (noTilde : c ≠ '~')
    (change : ChangeId) : c ∉ change.urlPart.toList := by
  rw [urlPart, String.toList_ofList]
  simp only [List.mem_append, List.mem_cons, not_or]
  exact ⟨Form.not_mem_encode foreign _, noTilde, Form.not_mem_encode foreign _, noTilde,
    Form.not_mem_encode foreign _⟩

theorem toList_endpoint (change : ChangeId) (revision url : String) :
    (change.endpoint revision url).toList =
      (closedUrl url ++ "a/changes/").toList ++
        (change.urlPart.toList ++
          '/' :: ("revisions/".toList ++ (revision.toList ++ "/review".toList))) := by
  simp only [endpoint, String.toList_append, List.append_assoc]
  rfl

theorem eq_of_endpoint_eq {url revision revised : String} {change other : ChangeId}
    (same : change.endpoint revision url = other.endpoint revised url) :
    change = other ∧ revision = revised := by
  have chars := congrArg String.toList same
  rw [toList_endpoint, toList_endpoint, List.append_cancel_left_eq] at chars
  have slash : ∀ change : ChangeId, '/' ∉ change.urlPart.toList :=
    not_mem_urlPart (by decide) (by decide)
  obtain ⟨names, tails⟩ := Separated.unique (slash change) (slash other) chars
  rw [List.append_cancel_left_eq, List.append_cancel_right_eq] at tails
  exact ⟨urlPart_injective (String.toList_inj.mp names), String.toList_inj.mp tails⟩

theorem closedUrl_slash {url : String} (unclosed : url.toList.getLast? ≠ some '/') :
    closedUrl (url ++ "/") = closedUrl url := by
  have last : (url ++ "/").toList.getLast? = some '/' := by
    rw [String.toList_append]
    exact List.getLast?_concat
  rw [closedUrl, if_pos last, closedUrl, if_neg unclosed]

/-- The name of a change in a URL has no character that divides a URL, and three pieces
between its tildes, which decode to project, branch and identifier.  So it names one
change, and with any front end an endpoint belongs to one revision of one change.  A
slash at the end of the front end's URL makes no difference. -/
theorem endpoint_addresses_one :
    (∀ change : ChangeId, '/' ∉ change.urlPart.toList ∧ '?' ∉ change.urlPart.toList ∧
      '#' ∉ change.urlPart.toList ∧
      (change.urlPart.toList.splitOn '~').map Form.decode =
        [change.project, change.branch, change.id]) ∧
    (∀ change other : ChangeId, change.urlPart = other.urlPart → change = other) ∧
    (∀ (url : String) (change other : ChangeId) (revision revised : String),
      change.endpoint revision url = other.endpoint revised url →
        change = other ∧ revision = revised) ∧
    ∀ url : String, url.toList.getLast? ≠ some '/' → ∀ (change : ChangeId) (revision : String),
      change.endpoint revision (url ++ "/") = change.endpoint revision url := by
  refine ⟨?_, fun change other => @urlPart_injective change other, ?_, ?_⟩
  · intro change
    refine ⟨not_mem_urlPart (by decide) (by decide) change,
      not_mem_urlPart (by decide) (by decide) change,
      not_mem_urlPart (by decide) (by decide) change, ?_⟩
    rw [splitOn_urlPart, map_decode_encodedParts]
  · intro url change other revision revised same
    exact eq_of_endpoint_eq same
  · intro url unclosed change revision
    rw [endpoint, endpoint, closedUrl_slash unclosed]

/-- A change whose parts have separators, blanks and other letters in them. -/
def oddChange : ChangeId :=
  { project := "a~b/c+ü%", branch := "refs/heads/x y?", id := "I#1" }

/-- The same change, with its identifier put together from characters. -/
def oddChangeAgain : ChangeId :=
  { oddChange with id := String.ofList ['I', '#', '1'] }

theorem endpoint_addresses_one_odd :
    oddChange.urlPart = "a%7Eb%2Fc%2B%C3%BC%25~refs%2Fheads%2Fx+y%3F~I%231" ∧
      (oddChange.urlPart.toList.splitOn '~').map Form.decode =
        ["a~b/c+ü%", "refs/heads/x y?", "I#1"] ∧
      oddChange = oddChangeAgain ∧ "1/2" = "1/" ++ "2" ∧
      oddChange.endpoint "1/2" "http://h/" = oddChange.endpoint "1/2" "http://h" := by
  obtain ⟨parts, named, address, closed⟩ := endpoint_addresses_one
  have sameEndpoint : oddChange.endpoint "1/2" "http://h" =
      oddChangeAgain.endpoint ("1/" ++ "2") "http://h" := by decide
  have addressed := address "http://h" oddChange oddChangeAgain "1/2" _ sameEndpoint
  refine ⟨by decide, (parts oddChange).2.2.2, named _ _ (by decide), addressed.2, ?_⟩
  exact closed "http://h" (by decide) oddChange "1/2"

end ChangeId

end ReviewFeed
