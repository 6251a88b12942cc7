import Automation.AgentExtract
import Automation.JsonReader

/-!
The review of a pull request, from the answer of the model to its comments: `llm_review_code` of
`activities/llm.py` returns the answer's `comments`, and `_handle_pr_review` of
`agent_runner_workflow.py` posts the `findings` of what it gets. A comment is posted for no answer
(`reaches_nothing`), so that the two agree exactly about the answers without one
(`posts_each_once_iff`).
-/
namespace Automation.PrReview
open Automation.AgentExtract Automation.PyText
open Automation.AgentMessages (Python)

structure ReviewOutput where
  summary : Json
  comments : Json
  approval : Json

/-- The text of `_parse_json_from_llm`, without the fence around it. -/
def unfenced (raw : String) : String :=
  let text := strip raw
  if startsWith "```".toList text.toList then
    let lines := (splitAt '\n' text.toList).drop 1
    let lines := match lines.getLast? with
      | some last => if stripBy isSpace last = "```".toList then lines.dropLast else lines
      | none => lines
    .ofList (stripBy isSpace (List.intercalate ['\n'] lines))
  else text

/-- What ends the activity: a `ValueError` or `RecursionError` of the reader, or no `get`. -/
inductive ReviewError where
  | reader (e : JsonReader.Failure)
  | AttributeError
  deriving DecidableEq

/-- `llm_review_code` with the answer of the provider. -/
def llm_review_code (limit : Nat) (raw_response : String) : Except ReviewError ReviewOutput :=
  match JsonReader.loads limit (unfenced raw_response) with
  | .ok (.obj fields) =>
    .ok ⟨getOr (.obj fields) "summary" (.str raw_response),getOr (.obj fields) "comments" (.arr []),
      getOr (.obj fields) "approval" (.str "comment")⟩
  | .ok _ => .error .AttributeError
  | .error .JSONDecodeError => .ok ⟨.str raw_response,.arr [],.str "comment"⟩
  | .error e => .error (.reader e)

/-- The result of the activity as the workflow reads it. -/
def encode (review : ReviewOutput) : Json :=
  .obj [("summary",review.summary),("comments",review.comments),("approval",review.approval)]

/-- The objects among the comments. -/
def comment_objects (comments : Json) : List Json :=
  match comments with
  | .arr comments => comments.filter (·.isObj)
  | _ => []

/-- The findings whose comment is posted, one outcome for each of them. -/
def posted : List Bool → List Json → List Json
  | outcome :: outcomes, finding :: findings => if outcome then finding :: posted outcomes findings else posted outcomes findings
  | _, _ => []

variable (py : Python)

/-- The comment is in the list that `post_findings` is given, or an earlier run has posted its hash. -/
def Reaches (previous_findings : List String) (new_findings : List Json) (comment : Json) : Prop :=
  comment ∈ new_findings ∨ ∃ key ∈ previous_findings, hash_key py (comment.get "hash") = .ok key

/-- Every comment of the review reaches the posting loop, and of the findings that are posted no
    two have the same hash. -/
def PostsEachOnce (limit : Nat) (raw_response : String) : Prop :=
  ∀ review, llm_review_code limit raw_response = .ok review →
    ∀ previous_findings : List String, ∃ new_findings,
      dedup_findings py previous_findings (extract_findings (encode review)) = .ok new_findings ∧
        (∀ comment ∈ comment_objects review.comments, Reaches py previous_findings new_findings comment) ∧
        ∀ outcomes, (posted outcomes new_findings).Pairwise fun first second =>
          hash_key py (first.get "hash") ≠ hash_key py (second.get "hash")

/-- The answer has no comment: it is no object, or its `comments` are no list with an object. -/
def NoComments (limit : Nat) (raw_response : String) : Prop :=
  ∀ fields, JsonReader.loads limit (unfenced raw_response) = .ok (.obj fields) →
    comment_objects (getOr (.obj fields) "comments" (.arr [])) = []

theorem reaches_nothing (review : ReviewOutput) (previous_findings : List String) :
    dedup_findings py previous_findings (extract_findings (encode review)) = .ok [] := rfl

theorem posts_each_once_iff (limit : Nat) (raw_response : String) :
    PostsEachOnce py limit raw_response ↔ NoComments limit raw_response := by
  constructor
  · intro posts fields read
    have answered : llm_review_code limit raw_response =
        .ok ⟨getOr (.obj fields) "summary" (.str raw_response),getOr (.obj fields) "comments" (.arr []),
          getOr (.obj fields) "approval" (.str "comment")⟩ := by
      unfold llm_review_code
      rw [read]
    obtain ⟨new_findings,reached,all,-⟩ := posts _ answered []
    rw [reaches_nothing] at reached
    cases reached
    apply List.eq_nil_iff_forall_not_mem.mpr
    intro comment member
    obtain there | ⟨key,known,-⟩ := all comment member
    · exact List.not_mem_nil there
    · exact List.not_mem_nil known
  · intro none_there review answered previous_findings
    refine ⟨[],reaches_nothing py review previous_findings,?_,fun outcomes => ?_⟩
    · have empty : comment_objects review.comments = [] := by
        unfold llm_review_code at answered
        split at answered
        · rename_i fields read
          cases answered
          exact none_there fields read
        · cases answered
        · cases answered
          rfl
        · cases answered
      rw [empty]
      exact fun comment absent => absurd absent List.not_mem_nil
    · cases outcomes <;> exact List.Pairwise.nil

def without_python : Python := ⟨fun _ => "",fun _ => "",id,fun _ => "",fun _ => none⟩

theorem comment_lost : ¬PostsEachOnce without_python 1000 "\x7b\"comments\": [\x7b\"body\": \"SQL injection\", \"hash\": \"a1\"\x7d]\x7d" := by
  intro posts
  have none_there := (posts_each_once_iff _ _ _).mp posts
  have read : JsonReader.loads 1000 (unfenced "\x7b\"comments\": [\x7b\"body\": \"SQL injection\", \"hash\": \"a1\"\x7d]\x7d") =
      .ok (.obj [("comments",.arr [.obj [("body",.str "SQL injection"),("hash",.str "a1")]])]) := by
    rfl
  have empty := none_there _ read
  cases empty

end Automation.PrReview
