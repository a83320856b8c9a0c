import Deferral.Json.Decode

/-!
# Activities

What the platform has: activities, and the answers of a fetcher that is asked for them.
-/

namespace Deferral

/-! ### Activities

An activity is a submission, or a comment under a submission, in a community. -/

/-- What an activity is. -/
inductive ActivityKind where
  | submission
  | comment
deriving DecidableEq, Repr

namespace ActivityKind

/-- The word for a kind. -/
def word : ActivityKind → String
  | submission => "submission"
  | comment => "comment"

/-- The kinds by their words. -/
def words : List (String × ActivityKind) := [submission, comment].map fun k => (k.word, k)

/-- A kind as JSON. -/
def toJson (k : ActivityKind) : Json := .str k.word

/-- Reads a kind. -/
def ofJson? : Json → Option ActivityKind := Json.asWord? words

end ActivityKind

/-- An activity, by its id. -/
structure Activity where
  id : String
  kind : ActivityKind
  parentId : Option String
  subreddit : String
deriving DecidableEq, Repr

namespace Activity

/-- A submission. -/
def submission (id subreddit : String) : Activity := ⟨id, .submission, none, subreddit⟩

/-- Whether nothing stands above the activity. -/
def isRoot (a : Activity) : Bool := a.kind == .submission

/-- The submission above a comment, as far as the comment tells. -/
def parentStub? (a : Activity) : Option Activity :=
  match a.kind, a.parentId with
  | .comment, some parent => some (submission parent a.subreddit)
  | _, _ => none

/-- The activity as messages show it. -/
def display (a : Activity) : String := a.kind.word ++ " " ++ a.id ++ " (r/" ++ a.subreddit ++ ")"

/-- The fields of an activity. -/
def shape : List Json.Field :=
  [.required "id", .required "kind", .required "parent_id", .required "subreddit"]

/-- An activity as JSON. -/
def toJson (a : Activity) : Json :=
  .ofMembers [
    ("id", .str a.id), ("kind", a.kind.toJson), ("parent_id", .ofOption .str a.parentId),
    ("subreddit", .str a.subreddit)]

/-- Reads an activity. -/
def ofJson? (j : Json) : Option Activity :=
  match Json.fields? shape j with
  | some [id, kind, parentId, subreddit] => do
      some {
        id := ← Json.required Json.asString? id
        kind := ← Json.required ActivityKind.ofJson? kind
        parentId := ← Json.optional Json.asString? parentId
        subreddit := ← Json.required Json.asString? subreddit }
  | _ => none

end Activity

/-! ### Fetching activities

The platform is asked for activities through a fetcher. What was asked of it is kept as a list of
calls beside each result. -/

/-- Why a collaborator failed: the outermost reason first, then its cause, and so on. -/
structure Failure where
  texts : List String
deriving DecidableEq, Repr

/-- The reasons in one line. -/
def Failure.message (f : Failure) : String := ": ".intercalate f.texts

/-- The failure of a collaborator that panicked. Its payload may be no text. -/
def Failure.ofPanic (payload : Option String) : Failure :=
  ⟨["panicked: " ++ payload.getD "non-string panic payload"]⟩

/-- How a call of a collaborator ends. -/
inductive CallEnd (α : Type) where
  | returned (a : α)
  | failed (f : Failure)
  | panicked (payload : Option String)

/-- What the caller makes of it: a panic is a failure like any other. -/
def CallEnd.result {α : Type} : CallEnd α → Except Failure α
  | returned a => .ok a
  | failed f => .error f
  | panicked payload => .error (.ofPanic payload)

/-- What the platform answers to someone who asks. Two calls for one activity may be answered
differently, so an answer goes by the number of the calls that were made before. -/
structure Fetcher where
  /-- An activity as it is now. -/
  activity : Nat → Activity → Except Failure Activity
  /-- The submission above a comment. -/
  submissionOf : Nat → Activity → Except Failure Activity

namespace Fetcher

/-- A platform with one answer to everything. -/
def constant (answer : Except Failure Activity) : Fetcher :=
  ⟨fun _ _ => answer, fun _ _ => answer⟩

/-- The platform for someone who has made one call. -/
def later (f : Fetcher) : Fetcher :=
  ⟨fun n => f.activity (n + 1), fun n => f.submissionOf (n + 1)⟩

end Fetcher

/-- Something that was asked of the platform. -/
inductive FetchCall where
  | activity (id : String)
  | submissionOf (id : String)
deriving DecidableEq, Repr

end Deferral
