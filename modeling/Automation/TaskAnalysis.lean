import Automation.AgentHandlers
import Automation.Gateway

/-!
`parse_llm_analysis`: the check of an analysis, and what becomes of its output actions
in the agent runner.

The parser lists the action types it accepts and never looks at the list, so any
nonempty type passes, and it opens `bitbucket_pr` as a draft but not
`bitbucket_create_pr`. Where neither matters, the actions can be executed
(`executable_iff`).
-/
namespace Automation.TaskAnalysis
open Automation.PyText Automation.AgentMessages
open Automation.Gateway (WORKFLOW_TYPE_CAPABILITIES output_action_kind)
open Automation.AgentHandlers (OUTPUT_ACTION_DISPATCH)

inductive Severity where
  | critical
  | best_effort
  deriving DecidableEq

/-- An action whose kind is any text. -/
structure OutputAction where
  kind : String
  severity : Severity
  payload : List (String × Json)

structure LlmAnalysisResult where
  workflow_type : String
  confidence : String
  target_repo : Option String
  target_branch : Option String
  target_space : Option String
  target_page_id : Option String
  title : String
  rationale : String
  output_actions : List OutputAction
  needs_info_questions : List String
  token_usage : Int

def CRITICAL_OUTPUT_ACTION_KINDS : List String :=
  ["jira_comment","bitbucket_commit","bitbucket_create_pr","confluence_create_page","confluence_update_page",
    "jira_transition"]

def BEST_EFFORT_OUTPUT_ACTION_KINDS : List String := ["slack_notify","email_notify","jira_attachment"]

/-- Sorted, as the message lists them. -/
def WORKFLOW_TYPES : List String :=
  ["code_change_commit_only","code_change_with_test","confluence_doc_create","confluence_doc_update","multi_step",
    "noop_test","pr_review","remote_ssh_test_only","research_basic","research_publish_confluence",
    "research_summary_jira","research_with_web","script_execute"]

/-- Sorted, as the fields are checked. -/
def TYPE_SPECIFIC_REQUIRED (workflow_type : String) : List String :=
  if ["code_change_with_test","code_change_commit_only","pr_review","remote_ssh_test_only","script_execute"].contains
    workflow_type then ["target_branch","target_repo"]
  else if ["confluence_doc_create","confluence_doc_update","research_publish_confluence"].contains workflow_type then
    ["target_lang"]
  else if workflow_type = "multi_step" then ["children"]
  else []

/-- `type(value).__name__`. -/
def type_name : Json → String
  | .null => "NoneType"
  | .bool _ => "bool"
  | .int _ => "int"
  | .float _ => "float"
  | .str _ => "str"
  | .arr _ => "list"
  | .obj _ => "dict"

def rejected {α : Type} (message : String) : Except Failure α := .error ⟨"TaskAnalysisParseError",message⟩

/-- `draft` keeps its place where the payload has it. -/
def coerce_draft_true (payload : List (String × Json)) : List (String × Json) :=
  if payload.any (·.1 == "draft") then
    payload.map fun field => if field.1 = "draft" then ("draft",.bool true) else field
  else payload ++ [("draft",.bool true)]

def severity_of (kind : String) : Severity :=
  if CRITICAL_OUTPUT_ACTION_KINDS.contains kind then .critical
  else if BEST_EFFORT_OUTPUT_ACTION_KINDS.contains kind then .best_effort
  else .critical

/-- A missing payload is an empty one. -/
def action_payload (place : String) (raw : Json) : Except Failure (List (String × Json)) :=
  match raw.get "payload" with
  | .null => .ok []
  | .obj fields => .ok fields
  | other => rejected (place ++ ": 'payload' must be a dict, got " ++ type_name other)

def parse_output_action (raw : Json) (index : Nat) : Except Failure OutputAction :=
  let place := "output_actions[" ++ toString index ++ "]"
  if !raw.isObj then rejected (place ++ ": expected dict, got " ++ type_name raw)
  else
    match (raw.get "type").asStr.filter (· ≠ "") with
    | none => rejected (place ++ ": 'type' must be a non-empty string")
    | some action_type =>
      (action_payload place raw).map fun payload =>
        { kind := action_type
          severity := severity_of action_type
          payload := if action_type = "bitbucket_pr" then coerce_draft_true payload else payload }

def listItems : Json → List Json
  | .arr items => items
  | _ => []

def optional_text (data : Json) (field_name : String) : Except Failure (Option String) :=
  match data.get field_name with
  | .null => .ok none
  | .str text => .ok (some text)
  | _ => rejected ("'" ++ field_name ++ "' must be a string or null")

/-- A field of text whose false values count as empty. -/
def text_or_empty (data : Json) (field_name : String) : Except Failure String :=
  match (data.get field_name).orElse (.str "") with
  | .str text => .ok text
  | _ => rejected ("'" ++ field_name ++ "' must be a string")

/-- A `bool` is an `int`. -/
def token_usage_of (data : Json) : Except Failure Int :=
  if !data.has "token_usage" then .ok 0
  else
    match data.get "token_usage" with
    | .int n => .ok n
    | .bool b => .ok (if b then 1 else 0)
    | _ => rejected "'token_usage' must be an integer"

section
variable (py : Python)

def require_field (workflow_type : String) (data : Json) (field_name : String) : Except Failure Unit :=
  let demand := "workflow_type " ++ quoted py workflow_type ++ " requires field "
  match data.get field_name with
  | .null => rejected (demand ++ quoted py field_name)
  | value =>
    if field_name = "children" then
      if (listItems value).isEmpty then rejected (demand ++ "'children' to be a non-empty list") else .ok ()
    else if value.asStr.any fun text => strip text ≠ "" then .ok ()
    else rejected (demand ++ quoted py field_name ++ " to be a non-empty string")

def needs_info_questions_of (confidence : String) (data : Json) : Except Failure (List String) :=
  match (data.get "needs_info_question").asStr.filter (· ≠ "") with
  | none =>
    if confidence = "low" then
      rejected "'needs_info_question' must be a non-empty string when confidence is 'low'"
    else .ok []
  | some question => .ok (if confidence = "low" ∨ strip question ≠ "" then [question] else [])

def workflow_type_of (data : Json) : Except Failure String :=
  match data.get "workflow_type" with
  | .str workflow_type =>
    if (WORKFLOW_TYPE_CAPABILITIES workflow_type).isSome then .ok workflow_type
    else rejected ("Invalid workflow_type " ++ quoted py workflow_type ++ ". Must be one of: " ++
      ", ".intercalate WORKFLOW_TYPES)
  | _ => rejected "'workflow_type' must be a string"

def confidence_of (data : Json) : Except Failure String :=
  match data.get "confidence" with
  | .str confidence =>
    if ["high","low","medium"].contains confidence then .ok confidence
    else rejected ("Invalid confidence " ++ quoted py confidence ++ ". Must be one of: high, low, medium")
  | _ => rejected "'confidence' must be a string"

def output_actions_of (data : Json) : Except Failure (List OutputAction) :=
  let items := listItems (data.get "output_actions")
  if items.isEmpty then rejected "'output_actions' must be a non-empty list"
  else items.zipIdx.mapM fun item => parse_output_action item.1 item.2

/-- What the analysis says, once it is an object. -/
def validate (data : Json) : Except Failure LlmAnalysisResult := do
  let workflow_type ← workflow_type_of py data
  let confidence ← confidence_of py data
  let output_actions ← output_actions_of data
  (TYPE_SPECIFIC_REQUIRED workflow_type).forM (require_field py workflow_type data)
  let needs_info_questions ← needs_info_questions_of confidence data
  let target_repo ← optional_text data "target_repo"
  let target_branch ← optional_text data "target_branch"
  let target_space ← optional_text data "target_space"
  let target_page_id ← optional_text data "target_page_id"
  let title ← text_or_empty data "title"
  let rationale ← text_or_empty data "rationale"
  let token_usage ← token_usage_of data
  return { workflow_type, confidence, target_repo, target_branch, target_space, target_page_id, title, rationale
           output_actions, needs_info_questions, token_usage }

/-- The document of a payload; `loads` answers with the text of its exception. A text that
    is JSON but no object has no `get`. -/
def read_document (loads : String → Except String Json) (payload : Json) : Except Failure Json :=
  match payload with
  | .str text =>
    match loads text with
    | .error reason => rejected ("Invalid JSON: " ++ reason)
    | .ok data =>
      if data.isObj then .ok data
      else .error ⟨"AttributeError","'" ++ type_name data ++ "' object has no attribute 'get'"⟩
  | .obj fields => .ok (.obj fields)
  | other => rejected ("payload must be dict or str, got " ++ type_name other)

def parse_llm_analysis (loads : String → Except String Json) (payload : Json) : Except Failure LlmAnalysisResult := do
  let data ← read_document loads payload
  validate py data

def UNCLASSIFIED_OUTPUT_ACTION_KIND_MESSAGE : String :=
  "OutputAction.kind is not classified in CRITICAL_OUTPUT_ACTION_KINDS or BEST_EFFORT_OUTPUT_ACTION_KINDS"

/-- The critical actions and the best-effort ones, each in their order. -/
def partition : List OutputAction → Except Failure (List OutputAction × List OutputAction)
  | [] => .ok ([],[])
  | action :: actions =>
    if CRITICAL_OUTPUT_ACTION_KINDS.contains action.kind then
      (partition actions).map fun parts => (action :: parts.1,parts.2)
    else if BEST_EFFORT_OUTPUT_ACTION_KINDS.contains action.kind then
      (partition actions).map fun parts => (parts.1,action :: parts.2)
    else .error ⟨"ValueError",UNCLASSIFIED_OUTPUT_ACTION_KIND_MESSAGE ++ ": " ++ quoted py action.kind⟩

/-- `_OUTPUT_ACTION_DISPATCH.get(kind)`. -/
def dispatched (kind : String) : Option String := (output_action_kind kind).bind OUTPUT_ACTION_DISPATCH

/-- The kinds of an action that opens a pull request, by either vocabulary. -/
def opens_pull_request (kind : String) : Bool := kind == "bitbucket_create_pr" || kind == "bitbucket_pr"

/-- What the agent runner asks of the actions of an analysis. -/
structure Executable (actions : List OutputAction) : Prop where
  partitioned : ∃ parts, partition py actions = .ok parts
  dispatched : ∀ action ∈ actions, (dispatched action.kind).isSome = true
  drafts : ∀ action ∈ actions, opens_pull_request action.kind = true → (Json.obj action.payload).get "draft" = .bool true

end

private theorem bind_ok {α β : Type} {first : Except Failure α} {rest : α → Except Failure β} {result : β}
    (accepted : (first >>= rest) = .ok result) : ∃ value, first = .ok value ∧ rest value = .ok result := by
  cases first with
  | error raised => cases accepted
  | ok value => exact ⟨value,rfl,accepted⟩

/-- The action of an item: its type, and its payload with the draft forced for one type. -/
structure ActionOf (raw : Json) (action : OutputAction) : Prop where
  kind : raw.get "type" = .str action.kind
  draft : (Json.obj action.payload).get "draft" =
    if action.kind = "bitbucket_pr" then .bool true else (raw.get "payload").get "draft"

private theorem draft_forced (payload : List (String × Json)) :
    (Json.obj (coerce_draft_true payload)).get "draft" = .bool true := by
  rw [coerce_draft_true]
  split
  · next present =>
    have found : ((payload.map fun field => if field.1 = "draft" then ("draft",Json.bool true) else field).lookup "draft") =
        some (Json.bool true) := by
      induction payload with
      | nil => simp at present
      | cons field fields ih =>
        by_cases here : field.1 = "draft"
        · simp [here]
        · have later : fields.any (·.1 == "draft") = true := by simpa [here] using present
          rw [List.map_cons,if_neg here,List.lookup_cons,beq_eq_false_iff_ne.mpr (Ne.symm here)]
          exact ih later
    rw [Json.get,found]
    rfl
  · next absent =>
    have found : ((payload ++ [("draft",Json.bool true)]).lookup "draft") = some (Json.bool true) := by
      induction payload with
      | nil => rfl
      | cons field fields ih =>
        have other : field.1 ≠ "draft" := by
          intro same
          exact absent (by simp [same])
        have later : ¬fields.any (·.1 == "draft") = true := by
          intro found
          exact absent (by simp [List.any_cons,found])
        rw [List.cons_append,List.lookup_cons,beq_eq_false_iff_ne.mpr (Ne.symm other)]
        exact ih later
    rw [Json.get,found]
    rfl

private theorem payload_draft {place : String} {raw : Json} {payload : List (String × Json)}
    (accepted : action_payload place raw = .ok payload) : (Json.obj payload).get "draft" = (raw.get "payload").get "draft" := by
  rw [action_payload] at accepted
  cases given : raw.get "payload" <;> simp only [given] at accepted
  case null =>
    cases accepted
    rfl
  case obj =>
    cases accepted
    rfl
  all_goals cases accepted

private theorem parse_output_action_spec {raw : Json} {index : Nat} {action : OutputAction}
    (accepted : parse_output_action raw index = .ok action) : ActionOf raw action := by
  rw [parse_output_action] at accepted
  by_cases object : (!raw.isObj) = true
  · rw [if_pos object] at accepted
    cases accepted
  · rw [if_neg object] at accepted
    cases typed : (raw.get "type").asStr.filter (· ≠ "") with
    | none =>
      rw [typed] at accepted
      cases accepted
    | some action_type =>
      simp only [typed] at accepted
      obtain ⟨text,nonempty⟩ := Option.filter_eq_some_iff.mp typed
      have kind : raw.get "type" = .str action_type := by
        cases given : raw.get "type" <;> simp only [given,Json.asStr] at text
        case str => exact congrArg _ (Option.some.inj text)
        all_goals cases text
      cases given : action_payload ("output_actions[" ++ toString index ++ "]") raw with
      | error raised =>
        rw [given] at accepted
        cases accepted
      | ok payload =>
        rw [given] at accepted
        cases accepted
        refine ⟨kind,?_⟩
        by_cases legacy : action_type = "bitbucket_pr"
        · simp only [if_pos legacy]
          exact draft_forced payload
        · simp only [if_neg legacy]
          exact payload_draft given

private theorem mapM_actions {items : List (Json × Nat)} {actions : List OutputAction}
    (accepted : (items.mapM fun item => parse_output_action item.1 item.2) = .ok actions) :
    List.Forall₂ (fun item action => ActionOf item.1 action) items actions := by
  induction items generalizing actions with
  | nil =>
    cases accepted
    exact .nil
  | cons item items ih =>
    rw [List.mapM_cons] at accepted
    obtain ⟨action,here,others⟩ := bind_ok accepted
    obtain ⟨rest,later,same⟩ := bind_ok others
    cases same
    exact .cons (parse_output_action_spec here) (ih later)

private theorem validate_actions {py : Python} {data : Json} {result : LlmAnalysisResult}
    (accepted : validate py data = .ok result) :
    output_actions_of data = .ok result.output_actions := by
  obtain ⟨workflow_type,_,rest⟩ := bind_ok accepted
  obtain ⟨confidence,_,rest⟩ := bind_ok rest
  obtain ⟨output_actions,parsed,rest⟩ := bind_ok rest
  obtain ⟨_,_,rest⟩ := bind_ok rest
  obtain ⟨_,_,rest⟩ := bind_ok rest
  obtain ⟨_,_,rest⟩ := bind_ok rest
  obtain ⟨_,_,rest⟩ := bind_ok rest
  obtain ⟨_,_,rest⟩ := bind_ok rest
  obtain ⟨_,_,rest⟩ := bind_ok rest
  obtain ⟨_,_,rest⟩ := bind_ok rest
  obtain ⟨_,_,rest⟩ := bind_ok rest
  obtain ⟨_,_,rest⟩ := bind_ok rest
  cases rest
  exact parsed

/-- The kinds of the dispatch table. -/
def DISPATCHED_KINDS : List String :=
  ["jira_comment","jira_attachment","bitbucket_create_pr","confluence_create_page","confluence_update_page",
    "slack_notify","email_notify"]

private theorem dispatched_iff (kind : String) : (dispatched kind).isSome = true ↔ kind ∈ DISPATCHED_KINDS := by
  constructor
  · intro found
    unfold dispatched output_action_kind at found
    split at found
    all_goals first | decide | cases found
  · intro member
    simp only [DISPATCHED_KINDS,List.mem_cons,List.not_mem_nil,or_false] at member
    rcases member with rfl | rfl | rfl | rfl | rfl | rfl | rfl
    all_goals rfl

private theorem partition_ok (py : Python) {actions : List OutputAction}
    (classified : ∀ action ∈ actions, action.kind ∈ DISPATCHED_KINDS) : ∃ parts, partition py actions = .ok parts := by
  induction actions with
  | nil => exact ⟨_,rfl⟩
  | cons action actions ih =>
    obtain ⟨here,later⟩ := List.forall_mem_cons.mp classified
    obtain ⟨parts,rest⟩ := ih later
    rw [partition,rest]
    by_cases critical : CRITICAL_OUTPUT_ACTION_KINDS.contains action.kind = true
    · rw [if_pos critical]
      exact ⟨_,rfl⟩
    · have best_effort : BEST_EFFORT_OUTPUT_ACTION_KINDS.contains action.kind = true := by
        simp only [DISPATCHED_KINDS,List.mem_cons,List.not_mem_nil,or_false] at here
        rcases here with same | same | same | same | same | same | same
        all_goals rw [same] at critical ⊢
        all_goals first | decide | exact absurd (by decide) critical
      rw [if_neg critical,if_pos best_effort]
      exact ⟨_,rfl⟩

/-- The item of a document whose action can be executed: its type has an activity, and a
    pull request is asked for as a draft. -/
structure ItemExecutable (raw : Json) : Prop where
  dispatched : ∃ kind ∈ DISPATCHED_KINDS, raw.get "type" = .str kind
  draft : raw.get "type" = .str "bitbucket_create_pr" → (raw.get "payload").get "draft" = .bool true

private theorem item_iff {raw : Json} {action : OutputAction} (parsed : ActionOf raw action) :
    ((dispatched action.kind).isSome = true ∧
      (opens_pull_request action.kind = true → (Json.obj action.payload).get "draft" = .bool true)) ↔
      ItemExecutable raw := by
  rw [dispatched_iff,parsed.draft]
  constructor
  · rintro ⟨member,drafted⟩
    refine ⟨⟨action.kind,member,parsed.kind⟩,fun opens => ?_⟩
    have kind : action.kind = "bitbucket_create_pr" := Json.str.inj (parsed.kind.symm.trans opens)
    have here := drafted (by rw [kind]; decide)
    rwa [if_neg (by rw [kind]; decide)] at here
  · rintro ⟨⟨kind,member,typed⟩,drafted⟩
    obtain rfl : action.kind = kind := Json.str.inj (parsed.kind.symm.trans typed)
    refine ⟨member,fun opens => ?_⟩
    split
    · rfl
    · next other =>
      rcases Bool.or_eq_true _ _ ▸ opens with create | legacy
      · exact drafted (by rw [typed,beq_iff_eq.mp create])
      · exact absurd (beq_iff_eq.mp legacy) other

private theorem forall₂_iff {α β : Type} {R : α → β → Prop} {P : α → Prop} {Q : β → Prop} {xs : List α} {ys : List β}
    (related : List.Forall₂ R xs ys) (same : ∀ {x y}, R x y → (Q y ↔ P x)) : (∀ y ∈ ys, Q y) ↔ ∀ x ∈ xs, P x := by
  induction related with
  | nil => simp
  | cons here _ ih => rw [List.forall_mem_cons,List.forall_mem_cons,same here,ih]

/-- The actions of an accepted document can be executed exactly if its items say so. -/
theorem executable_iff {py : Python} {loads : String → Except String Json} {payload : Json}
    {result : LlmAnalysisResult} (accepted : parse_llm_analysis py loads payload = .ok result) :
    Executable py result.output_actions ↔ ∃ data, read_document loads payload = .ok data ∧
      ∀ raw ∈ listItems (data.get "output_actions"), ItemExecutable raw := by
  obtain ⟨data,read,validated⟩ := bind_ok accepted
  have listed := validate_actions validated
  rw [output_actions_of] at listed
  split at listed
  · cases listed
  have items := forall₂_iff (mapM_actions listed) item_iff
  have indexed : (∀ item ∈ (listItems (data.get "output_actions")).zipIdx, ItemExecutable item.1) ↔
      ∀ raw ∈ listItems (data.get "output_actions"), ItemExecutable raw := by
    conv_rhs => rw [← List.zipIdx_map_fst 0 (listItems (data.get "output_actions"))]
    exact List.forall_mem_map.symm
  constructor
  · intro executable
    refine ⟨data,read,indexed.mp (items.mp fun action member => ⟨executable.dispatched action member,
      executable.drafts action member⟩)⟩
  · rintro ⟨data',read',each⟩
    obtain rfl : data' = data := Except.ok.inj (read'.symm.trans read)
    have here := items.mpr (indexed.mpr each)
    refine ⟨partition_ok py fun action member => (dispatched_iff _).mp (here action member).1,
      fun action member => (here action member).1,fun action member => (here action member).2⟩

def analysisWith (actions : List Json) : Json :=
  .obj [("workflow_type",.str "research_basic"),("confidence",.str "high"),("output_actions",.arr actions)]

def plainPython : Python :=
  { repr := fun _ => "", dumps := fun _ => "", sha256 := fun _ => "", isodate := fun _ => "", fromisoformat := fun _ => none }

/-- A type that nothing knows is accepted, and so is a pull request that is no draft. -/
theorem accepted_unexecutable :
    (∃ result, parse_llm_analysis plainPython (fun _ => .error "") (analysisWith [.obj [("type",.str "deploy")]]) = .ok result ∧
      ¬∃ parts, partition plainPython result.output_actions = .ok parts) ∧
    ∃ result, parse_llm_analysis plainPython (fun _ => .error "")
        (analysisWith [.obj [("type",.str "bitbucket_create_pr"),("payload",.obj [("title",.str "Fix")])]]) = .ok result ∧
      ¬Executable plainPython result.output_actions := by
  constructor
  · refine ⟨_,rfl,?_⟩
    rintro ⟨parts,partitioned⟩
    cases partitioned
  · refine ⟨_,rfl,fun executable => ?_⟩
    have draft := executable.drafts _ (List.mem_singleton.mpr rfl) rfl
    cases draft

/-- A comment, and a pull request that is asked for as a draft. -/
def commented_draft : List Json :=
  [.obj [("type",.str "jira_comment")],
    .obj [("type",.str "bitbucket_create_pr"),("payload",.obj [("title",.str "Fix"),("draft",.bool true)])]]

theorem draft_executable :
    ∃ result, parse_llm_analysis plainPython (fun _ => .error "") (analysisWith commented_draft) = .ok result ∧
      Executable plainPython result.output_actions := by
  have items : ∃ data, read_document (fun _ => .error "") (analysisWith commented_draft) = .ok data ∧
      data.get "output_actions" = .arr commented_draft := ⟨_,rfl,rfl⟩
  obtain ⟨data,read,listed⟩ := items
  have accepted : ∃ result, parse_llm_analysis plainPython (fun _ => .error "") (analysisWith commented_draft) = .ok result := ⟨_,rfl⟩
  obtain ⟨result,done⟩ := accepted
  refine ⟨result,done,(executable_iff done).mpr ⟨data,read,fun raw member => ?_⟩⟩
  rw [listed] at member
  rcases List.mem_pair.mp member with rfl | rfl
  · exact ⟨⟨"jira_comment",by decide,rfl⟩,fun opens => absurd (Json.str.inj opens) (by decide)⟩
  · exact ⟨⟨"bitbucket_create_pr",by decide,rfl⟩,fun _ => rfl⟩

end Automation.TaskAnalysis
