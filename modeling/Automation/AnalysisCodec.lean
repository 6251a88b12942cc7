import Automation.Gateway
import Automation.JsonReader
import Automation.RegexOrder

/-!
The codec of a task analysis: the check of what the model has answered, the dict of an
analysis, and the block of a description that names one without a model.

What the check returns is valid, and a valid analysis is read again from its dict
(`parse_format_iff`). The check takes what a text stands for as a dict, whatever it
is, and the block neither checks the fields that its workflow requires nor
catches the error of a malformed action. `analysis_codec_iff` says for which payloads and
descriptions this makes no difference.
-/
namespace Automation.AnalysisCodec
open Automation.PyText Automation.Regex
open Automation.Gateway (WORKFLOW_TYPE_CAPABILITIES)
open Automation.JsonReader (put)

abbrev Fields := List (String × Json)

/-- `fields.get(key)`. -/
def Fields.get (fields : Fields) (key : String) : Json := (fields.lookup key).getD .null

structure OutputAction where
  type : String
  payload : Fields

structure TaskAnalysis where
  workflow_type : String
  target_repo : Option String
  target_branch : Option String
  output_actions : List OutputAction
  confidence : String
  needs_info_question : Option String
  target_lang : Option String
  children : Option (List Fields)

/-- What the functions raise; the two last ones are those of `json.loads` that are not caught. -/
inductive Raised where
  | TaskAnalysisError (message : String)
  | AttributeError
  | ValueError
  | RecursionError

/-! ### The tables -/

/-- `_VALID_CONFIDENCES`. -/
def VALID_CONFIDENCES : List String := ["high","medium","low"]

/-- `sorted(_TYPE_SPECIFIC_REQUIRED.get(workflow_type,frozenset()))`. -/
def TYPE_SPECIFIC_REQUIRED (workflow_type : String) : List String :=
  if workflow_type ∈ ["code_change_with_test","code_change_commit_only","pr_review","remote_ssh_test_only"] then
    ["target_branch","target_repo"]
  else if workflow_type ∈ ["confluence_doc_create","confluence_doc_update"] then ["target_lang"]
  else if workflow_type = "multi_step" then ["children"]
  else []

/-- `_TASK_TYPE_TO_WORKFLOW.get(task_type,task_type)`: the other entries map a name to itself. -/
def TASK_TYPE_TO_WORKFLOW (task_type : String) : String :=
  match task_type with
  | "code_change" => "code_change_with_test"
  | other => other

/-- `type(value).__name__`. -/
def type_name : Json → String
  | .null => "NoneType"
  | .bool _ => "bool"
  | .int _ => "int"
  | .float _ => "float"
  | .str _ => "str"
  | .arr _ => "list"
  | .obj _ => "dict"

/-! ### The check of an answer -/

/-- `_coerce_draft_true`. -/
def coerce_draft_true (action_payload : Fields) : Fields := put action_payload "draft" (.bool true)

def label (index : Nat) : String := "output_actions[" ++ toString index ++ "]: "

/-- The payload of an action: a dict, or `None` for the empty one. -/
def payload_of (payload : Json) (index : Nat) : Except String Fields :=
  match payload with
  | .null => .ok []
  | .obj payload => .ok payload
  | payload => .error (label index ++ "'payload' must be a dict, got " ++ type_name payload)

/-- `_parse_output_action`; an error is a `TaskAnalysisError`. -/
def parse_output_action (raw : Json) (index : Nat) : Except String OutputAction :=
  match raw with
  | .obj raw =>
    match Fields.get raw "type" with
    | .str action_type =>
      if action_type = "" then .error (label index ++ "'type' must be a non-empty string")
      else
        match payload_of (Fields.get raw "payload") index with
        | .error message => .error message
        | .ok payload =>
          .ok { type := action_type,payload := if action_type = "bitbucket_pr" then coerce_draft_true payload else payload }
    | _ => .error (label index ++ "'type' must be a non-empty string")
  | raw => .error (label index ++ "expected dict, got " ++ type_name raw)

/-- The actions of a list, from a position on. -/
def parse_output_actions : Nat → List Json → Except String (List OutputAction)
  | _, [] => .ok []
  | index, raw :: rest =>
    match parse_output_action raw index with
    | .error message => .error message
    | .ok action => (parse_output_actions (index + 1) rest).map fun actions => action :: actions

def workflow_type_of (value : Json) : Except String String :=
  match value with
  | .str workflow_type =>
    if (WORKFLOW_TYPE_CAPABILITIES workflow_type).isSome then .ok workflow_type
    else .error ("Invalid workflow_type '" ++ workflow_type ++ "'. Must be one of: " ++
      "code_change_commit_only, code_change_with_test, confluence_doc_create, confluence_doc_update, multi_step, " ++
      "noop_test, pr_review, remote_ssh_test_only, research_basic, research_publish_confluence, research_summary_jira, " ++
      "research_with_web, script_execute")
  | _ => .error "'workflow_type' must be a string"

def confidence_of (value : Json) : Except String String :=
  match value with
  | .str confidence =>
    if confidence ∈ VALID_CONFIDENCES then .ok confidence
    else .error ("Invalid confidence '" ++ confidence ++ "'. Must be one of: high, low, medium")
  | _ => .error "'confidence' must be a string"

def needs_info_question_of (confidence : String) (value : Json) : Except String (Option String) :=
  if confidence = "low" then
    match value with
    | .str question =>
      if question = "" then .error "'needs_info_question' must be a non-empty string when confidence is 'low'"
      else .ok (some question)
    | _ => .error "'needs_info_question' must be a non-empty string when confidence is 'low'"
  else
    match value with
    | .str question => .ok (if strip question = "" then none else some question)
    | _ => .ok none

def output_actions_of (value : Json) : Except String (List OutputAction) :=
  match value with
  | .arr (first :: rest) => parse_output_actions 0 (first :: rest)
  | _ => .error "'output_actions' must be a non-empty list"

/-- A field that is a string or `None`. -/
def optional (field_name : String) (value : Json) : Except String (Option String) :=
  match value with
  | .null => .ok none
  | .str text => .ok (some text)
  | _ => .error ("'" ++ field_name ++ "' must be a string or null")

def required (workflow_type field_name : String) (value : Json) : Except String Unit :=
  let requires := "workflow_type '" ++ workflow_type ++ "' requires field '" ++ field_name ++ "'"
  match value with
  | .null => .error requires
  | .arr (_ :: _) => if field_name = "children" then .ok () else .error (requires ++ " to be a non-empty string")
  | .str text =>
    if field_name = "children" then .error (requires ++ " to be a non-empty list")
    else if strip text = "" then .error (requires ++ " to be a non-empty string")
    else .ok ()
  | _ =>
    .error (requires ++ (if field_name = "children" then " to be a non-empty list" else " to be a non-empty string"))

/-- The loop over the required fields. -/
def check_required (workflow_type : String) (data : Fields) : List String → Except String Unit
  | [] => .ok ()
  | field_name :: rest =>
    match required workflow_type field_name (data.get field_name) with
    | .error message => .error message
    | .ok () => check_required workflow_type data rest

/-- The children of a list, from a position on. -/
def dicts : Nat → List Json → Except String (List Fields)
  | _, [] => .ok []
  | idx, .obj item :: rest => (dicts (idx + 1) rest).map fun items => item :: items
  | idx, item :: _ => .error ("children[" ++ toString idx ++ "]: expected dict, got " ++ type_name item)

def children_of (value : Json) : Except String (Option (List Fields)) :=
  match value with
  | .null => .ok none
  | .arr items => (dicts 0 items).map some
  | _ => .error "'children' must be a list or null"

/-- The checks of a dict, in their order. -/
def parse_fields (data : Fields) : Except String TaskAnalysis := do
  let workflow_type ← workflow_type_of (data.get "workflow_type")
  let confidence ← confidence_of (data.get "confidence")
  let needs_info_question ← needs_info_question_of confidence (data.get "needs_info_question")
  let output_actions ← output_actions_of (data.get "output_actions")
  let target_repo ← optional "target_repo" (data.get "target_repo")
  let target_branch ← optional "target_branch" (data.get "target_branch")
  check_required workflow_type data (TYPE_SPECIFIC_REQUIRED workflow_type)
  let target_lang ← optional "target_lang" (data.get "target_lang")
  let children ← children_of (data.get "children")
  return { workflow_type,target_repo,target_branch,output_actions,confidence,needs_info_question,target_lang,children }

/-- A payload: a text, a dict, or a value of another type. -/
inductive Payload where
  | text (payload : String)
  | dict (payload : Fields)
  | other (type_name : String)

/-- The limit for recursion, and the text of a `JSONDecodeError`. -/
structure Python where
  recursion_limit : Nat
  decode_error : String → String

def checked (parsed : Except String TaskAnalysis) : Except Raised TaskAnalysis :=
  match parsed with
  | .ok analysis => .ok analysis
  | .error message => .error (.TaskAnalysisError message)

section
variable (py : Python)

/-- `parse_task_analysis`. -/
def parse_task_analysis (payload : Payload) : Except Raised TaskAnalysis :=
  match payload with
  | .text payload =>
    match JsonReader.loads py.recursion_limit payload with
    | .error .JSONDecodeError => .error (.TaskAnalysisError ("Invalid JSON: " ++ py.decode_error payload))
    | .error .ValueError => .error .ValueError
    | .error .RecursionError => .error .RecursionError
    | .ok (.obj data) => checked (parse_fields data)
    -- only a dict has `get`
    | .ok _ => .error .AttributeError
  | .dict data => checked (parse_fields data)
  | .other type_name => .error (.TaskAnalysisError ("payload must be dict or str, got " ++ type_name))

end

/-- `format_task_analysis`. -/
def format_task_analysis (t : TaskAnalysis) : Fields :=
  [("workflow_type",.str t.workflow_type),("target_repo",Json.ofOption t.target_repo),
    ("target_branch",Json.ofOption t.target_branch),
    ("output_actions",.arr (t.output_actions.map fun action => .obj [("type",.str action.type),("payload",.obj action.payload)])),
    ("confidence",.str t.confidence),("needs_info_question",Json.ofOption t.needs_info_question)] ++
  (match t.target_lang with
    | some target_lang => [("target_lang",.str target_lang)]
    | none => []) ++
  (match t.children with
    | some children => [("children",.arr (children.map .obj))]
    | none => [])

/-! ### The block of a description -/

/-- `_CONTEXT_BLOCK_RE`: `<context>\s*(.*?)\s*</context>`, where `.` is any character. -/
def CONTEXT_BLOCK_RE : List Part :=
  [greedy (literal "<context>".toList),greedy (.star (.one isSpace)),lazy (.star (.one fun _ => true)),
    greedy (.star (.one isSpace)),greedy (literal "</context>".toList)]

/-- `match.group(1)`. -/
def context_block (description : String) : Option String :=
  match searchParts CONTEXT_BLOCK_RE description.toList with
  | some ([_,_,raw_json,_,_],_) => some (.ofList raw_json)
  | _ => none

/-- The actions of a block; what is neither a name nor a dict is left out. -/
def block_actions : List OutputAction → List Json → Except String (List OutputAction)
  | output_actions, [] => .ok output_actions
  | output_actions, .str action_str :: rest =>
    if action_str = "" then block_actions output_actions rest
    else
      let payload := if action_str = "bitbucket_pr" then [("draft",Json.bool true)] else []
      block_actions (output_actions ++ [{ type := action_str,payload }]) rest
  | output_actions, .obj raw :: rest =>
    match parse_output_action (.obj raw) output_actions.length with
    | .error message => .error message
    | .ok parsed => block_actions (output_actions ++ [parsed]) rest
  | output_actions, _ :: rest => block_actions output_actions rest

/-- A text with characters. -/
def nonempty (value : Json) : Option String :=
  match value with
  | .str text => if text = "" then none else some text
  | _ => none

/-- A list with items. -/
def filled (value : Json) : Option (List Json) :=
  match value with
  | .arr (first :: rest) => some (first :: rest)
  | _ => none

/-- The fields of a block that has all that is asked for: workflow type, repository, branch and items. -/
def block_fields (data : Fields) : Option (String × String × String × List Json) := do
  let task_type ← nonempty (data.get "task_type")
  let repo ← nonempty (data.get "repo")
  let branch ← nonempty (data.get "branch")
  let output_actions_raw ← filled (data.get "output_actions")
  let workflow_type := TASK_TYPE_TO_WORKFLOW task_type
  if (WORKFLOW_TYPE_CAPABILITIES workflow_type).isSome then return (workflow_type,repo,branch,output_actions_raw) else none

/-- `language.strip()` for a text that is not blank. -/
def language_of (language : Json) : Option String :=
  match language with
  | .str language => if strip language = "" then none else some (strip language)
  | _ => none

/-- The steps of `parse_context_block` after the dict is read. -/
def parse_block (data : Fields) : Except Raised (Option TaskAnalysis) :=
  match block_fields data with
  | none => .ok none
  | some (workflow_type,repo,branch,output_actions_raw) =>
    match block_actions [] output_actions_raw with
    | .error message => .error (.TaskAnalysisError message)
    | .ok output_actions =>
      if output_actions.isEmpty then .ok none
      else .ok (some {
        workflow_type
        target_repo := some repo
        target_branch := some branch
        output_actions
        confidence := "high"
        needs_info_question := none
        target_lang := language_of (data.get "language")
        children := none })

section
variable (py : Python)

/-- `parse_context_block`. -/
def parse_context_block (description : String) : Except Raised (Option TaskAnalysis) :=
  match context_block description with
  | none => .ok none
  | some raw_json =>
    match JsonReader.loads py.recursion_limit raw_json with
    | .error .JSONDecodeError => .ok none
    | .error .ValueError => .error .ValueError
    | .error .RecursionError => .error .RecursionError
    | .ok (.obj data) => parse_block data
    | .ok _ => .ok none

end
/-! ### What is valid -/

structure OutputAction.Valid (action : OutputAction) : Prop where
  type : action.type ≠ ""
  draft : action.type = "bitbucket_pr" → coerce_draft_true action.payload = action.payload

/-- The question that goes with a confidence. -/
def Asks (confidence : String) (question : Option String) : Prop :=
  if confidence = "low" then ∃ text, question = some text ∧ text ≠ "" else ∀ text, question = some text → strip text ≠ ""

/-- A list of children that is not empty, or a text that is not blank. -/
def Given (field_name : String) (value : Json) : Prop :=
  match value with
  | .str text => field_name ≠ "children" ∧ strip text ≠ ""
  | .arr items => field_name = "children" ∧ items ≠ []
  | _ => False

/-- The value of a field that a workflow can require. -/
def field_value (t : TaskAnalysis) (field_name : String) : Json :=
  if field_name = "target_repo" then Json.ofOption t.target_repo
  else if field_name = "target_branch" then Json.ofOption t.target_branch
  else if field_name = "target_lang" then Json.ofOption t.target_lang
  else
    match t.children with
    | some children => .arr (children.map .obj)
    | none => .null

structure Valid (t : TaskAnalysis) : Prop where
  workflow_type : (WORKFLOW_TYPE_CAPABILITIES t.workflow_type).isSome = true
  confidence : t.confidence ∈ VALID_CONFIDENCES
  needs_info_question : Asks t.confidence t.needs_info_question
  output_actions : t.output_actions ≠ []
  each_action : ∀ action ∈ t.output_actions, action.Valid
  required : ∀ field_name ∈ TYPE_SPECIFIC_REQUIRED t.workflow_type, Given field_name (field_value t field_name)

/-! ### One check after the other -/

theorem bind_ok {ε α β : Type} {x : Except ε α} {f : α → Except ε β} {b : β} :
    (x >>= f) = .ok b ↔ ∃ a, x = .ok a ∧ f a = .ok b := by
  cases x with
  | error e => simp [bind,Except.bind]
  | ok a => simp [bind,Except.bind]

structure Passes (data : Fields) (t : TaskAnalysis) : Prop where
  workflow_type : workflow_type_of (data.get "workflow_type") = .ok t.workflow_type
  confidence : confidence_of (data.get "confidence") = .ok t.confidence
  needs_info_question : needs_info_question_of t.confidence (data.get "needs_info_question") = .ok t.needs_info_question
  output_actions : output_actions_of (data.get "output_actions") = .ok t.output_actions
  target_repo : optional "target_repo" (data.get "target_repo") = .ok t.target_repo
  target_branch : optional "target_branch" (data.get "target_branch") = .ok t.target_branch
  required : check_required t.workflow_type data (TYPE_SPECIFIC_REQUIRED t.workflow_type) = .ok ()
  target_lang : optional "target_lang" (data.get "target_lang") = .ok t.target_lang
  children : children_of (data.get "children") = .ok t.children

theorem parse_fields_iff {data : Fields} {t : TaskAnalysis} : parse_fields data = .ok t ↔ Passes data t := by
  simp only [parse_fields,bind_ok]
  constructor
  · rintro ⟨workflow_type,one,confidence,two,question,three,actions,four,repo,five,branch,six,⟨⟩,seven,lang,eight,children,nine,made⟩
    obtain rfl := Except.ok.inj made
    exact ⟨one,two,three,four,five,six,seven,eight,nine⟩
  · intro passes
    exact ⟨_,passes.workflow_type,_,passes.confidence,_,passes.needs_info_question,_,passes.output_actions,_,passes.target_repo,
      _,passes.target_branch,_,passes.required,_,passes.target_lang,_,passes.children,rfl⟩

variable {value : Json}

theorem workflow_type_of_iff {workflow_type : String} :
    workflow_type_of value = .ok workflow_type ↔
      value = .str workflow_type ∧ (WORKFLOW_TYPE_CAPABILITIES workflow_type).isSome = true := by
  cases value with
  | str text =>
    rw [workflow_type_of,Json.str.injEq]
    split
    · next listed =>
      rw [Except.ok.injEq]
      exact ⟨fun same => ⟨same,same ▸ listed⟩,fun both => both.1⟩
    · next absent =>
      refine ⟨fun returned => (by cases returned),fun both => absurd ?_ absent⟩
      rw [both.1]
      exact both.2
  | _ => simp [workflow_type_of]

theorem confidence_of_iff {confidence : String} :
    confidence_of value = .ok confidence ↔ value = .str confidence ∧ confidence ∈ VALID_CONFIDENCES := by
  cases value with
  | str text =>
    rw [confidence_of,Json.str.injEq]
    split
    · next listed =>
      rw [Except.ok.injEq]
      exact ⟨fun same => ⟨same,same ▸ listed⟩,fun both => both.1⟩
    · next absent =>
      refine ⟨fun returned => (by cases returned),fun both => absurd ?_ absent⟩
      rw [both.1]
      exact both.2
  | _ => simp [confidence_of]

theorem optional_iff {field_name : String} {text : Option String} :
    optional field_name value = .ok text ↔ value = Json.ofOption text := by
  cases value with
  | null => cases text <;> simp [optional,Json.ofOption]
  | str s => cases text <;> simp [optional,Json.ofOption,eq_comm]
  | _ => cases text <;> simp [optional,Json.ofOption]

theorem needs_info_question_of_asks {confidence : String} {question : Option String}
    (checked : needs_info_question_of confidence value = .ok question) : Asks confidence question := by
  unfold needs_info_question_of at checked
  unfold Asks
  by_cases low : confidence = "low"
  · rw [if_pos low] at checked ⊢
    split at checked
    · next text =>
      by_cases empty : text = ""
      · rw [if_pos empty] at checked
        cases checked
      · rw [if_neg empty] at checked
        exact ⟨text,(Except.ok.inj checked).symm,empty⟩
    · cases checked
  · rw [if_neg low] at checked ⊢
    split at checked
    · next text =>
      obtain rfl := Except.ok.inj checked
      intro other same
      by_cases blank : strip text = ""
      · rw [if_pos blank] at same
        cases same
      · rw [if_neg blank] at same
        rwa [← Option.some.inj same]
    · obtain rfl := Except.ok.inj checked
      exact fun other same => by cases same

theorem needs_info_question_of_same {confidence : String} {question : Option String} (asks : Asks confidence question) :
    needs_info_question_of confidence (Json.ofOption question) = .ok question := by
  unfold Asks at asks
  unfold needs_info_question_of
  by_cases low : confidence = "low"
  · rw [if_pos low] at asks ⊢
    obtain ⟨text,rfl,nonempty⟩ := asks
    exact if_neg nonempty
  · rw [if_neg low] at asks ⊢
    cases question with
    | none => rfl
    | some text => exact congrArg Except.ok (if_neg (asks text rfl))

theorem required_iff (workflow_type : String) {field_name : String} :
    required workflow_type field_name value = .ok () ↔ Given field_name value := by
  cases value with
  | arr items =>
    cases items with
    | nil => simp [required,Given]
    | cons first rest => by_cases children : field_name = "children" <;> simp [required,Given,children]
  | str text =>
    by_cases children : field_name = "children"
    · simp [required,Given,children]
    · by_cases blank : strip text = "" <;> simp [required,Given,children,blank]
  | _ => simp [required,Given]

theorem check_required_iff {workflow_type : String} {data : Fields} {names : List String} :
    check_required workflow_type data names = .ok () ↔ ∀ field_name ∈ names, Given field_name (data.get field_name) := by
  induction names with
  | nil => simp [check_required]
  | cons field_name rest ih =>
    rw [check_required,List.forall_mem_cons,← ih,← required_iff workflow_type]
    cases required workflow_type field_name (data.get field_name) with
    | error message => simp
    | ok passed => simp

/-! ### Actions and children -/

theorem parse_output_action_valid {raw : Json} {index : Nat} {action : OutputAction}
    (parsed : parse_output_action raw index = .ok action) : action.Valid := by
  unfold parse_output_action at parsed
  split at parsed
  · split at parsed
    · next raw action_type given =>
      by_cases empty : action_type = ""
      · rw [if_pos empty] at parsed
        cases parsed
      · rw [if_neg empty] at parsed
        split at parsed
        · cases parsed
        · next payload found =>
          obtain rfl := Except.ok.inj parsed
          refine ⟨empty,fun request => ?_⟩
          dsimp only at request ⊢
          rw [if_pos request]
          exact JsonReader.put_put payload "draft" (.bool true)
    · cases parsed
  · cases parsed

theorem parse_output_action_same {action : OutputAction} (valid : action.Valid) (index : Nat) :
    parse_output_action (.obj [("type",.str action.type),("payload",.obj action.payload)]) index = .ok action := by
  have type : Fields.get [("type",.str action.type),("payload",.obj action.payload)] "type" = .str action.type := rfl
  have payload : Fields.get [("type",.str action.type),("payload",.obj action.payload)] "payload" = .obj action.payload := rfl
  rw [parse_output_action]
  simp only [type,payload,payload_of]
  rw [if_neg valid.type]
  by_cases request : action.type = "bitbucket_pr"
  · rw [if_pos request,valid.draft request]
  · rw [if_neg request]

variable {actions : List OutputAction} {items : List Json}

theorem parse_output_actions_valid {index : Nat}
    (parsed : parse_output_actions index items = .ok actions) :
    actions.length = items.length ∧ ∀ action ∈ actions, action.Valid := by
  induction items generalizing index actions with
  | nil =>
    obtain rfl := Except.ok.inj parsed
    exact ⟨rfl,by simp⟩
  | cons raw rest ih =>
    rw [parse_output_actions] at parsed
    split at parsed
    · cases parsed
    · next action first =>
      cases later : parse_output_actions (index + 1) rest with
      | error message =>
        rw [later] at parsed
        cases parsed
      | ok others =>
        rw [later] at parsed
        obtain rfl := Except.ok.inj parsed
        obtain ⟨length,each⟩ := ih later
        exact ⟨by simp [length],List.forall_mem_cons.mpr ⟨parse_output_action_valid first,each⟩⟩

theorem parse_output_actions_same (valid : ∀ action ∈ actions, action.Valid) (index : Nat) :
    parse_output_actions index
      (actions.map fun action => .obj [("type",.str action.type),("payload",.obj action.payload)]) = .ok actions := by
  induction actions generalizing index with
  | nil => rfl
  | cons action rest ih =>
    obtain ⟨here,later⟩ := List.forall_mem_cons.mp valid
    rw [List.map_cons,parse_output_actions,parse_output_action_same here]
    dsimp only
    rw [ih later]
    rfl

theorem output_actions_of_valid (parsed : output_actions_of value = .ok actions) :
    actions ≠ [] ∧ ∀ action ∈ actions, action.Valid := by
  unfold output_actions_of at parsed
  split at parsed
  · obtain ⟨length,each⟩ := parse_output_actions_valid parsed
    refine ⟨fun empty => ?_,each⟩
    rw [empty] at length
    cases length
  · cases parsed

theorem output_actions_of_same (some_action : actions ≠ []) (valid : ∀ action ∈ actions, action.Valid) :
    output_actions_of
      (.arr (actions.map fun action => .obj [("type",.str action.type),("payload",.obj action.payload)])) = .ok actions := by
  cases actions with
  | nil => exact absurd rfl some_action
  | cons first rest => exact parse_output_actions_same valid 0

theorem dicts_iff (index : Nat) {children : List Fields} :
    dicts index items = .ok children ↔ items = children.map .obj := by
  induction items generalizing index children with
  | nil => cases children <;> simp [dicts]
  | cons item rest ih =>
    cases item with
    | obj child =>
      rw [dicts]
      cases later : dicts (index + 1) rest with
      | error message =>
        cases children with
        | nil => simp [Except.map]
        | cons first others =>
          have apart : rest ≠ others.map Json.obj := fun same => by rw [(ih (index + 1)).mpr same] at later; cases later
          simp [Except.map,apart]
      | ok found =>
        have same := (ih (index + 1)).mp later
        cases children with
        | nil => simp [Except.map]
        | cons first others =>
          have apart : found = others ↔ rest = others.map Json.obj := by
            rw [same]
            exact ⟨fun equal => by rw [equal],fun equal => (List.map_injective_iff.mpr fun _ _ => Json.obj.inj) equal⟩
          simp [Except.map,apart]
    | _ => cases children <;> simp [dicts]

theorem children_of_iff {children : Option (List Fields)} :
    children_of value = .ok children ↔ value = (match children with
      | some children => .arr (children.map .obj)
      | none => .null) := by
  cases value with
  | null => cases children <;> simp [children_of]
  | arr items =>
    rw [children_of]
    cases children with
    | none => cases dicts 0 items <;> simp [Except.map]
    | some children =>
      rw [Json.arr.injEq,← dicts_iff 0]
      cases dicts 0 items <;> simp [Except.map]
  | _ => cases children <;> simp [children_of]

/-! ### The dict of an analysis -/

theorem required_names {workflow_type field_name : String} (member : field_name ∈ TYPE_SPECIFIC_REQUIRED workflow_type) :
    field_name = "target_branch" ∨ field_name = "target_repo" ∨ field_name = "target_lang" ∨ field_name = "children" := by
  unfold TYPE_SPECIFIC_REQUIRED at member
  split_ifs at member
  · rcases List.mem_cons.mp member with branch | repo
    · exact .inl branch
    · exact .inr (.inl (List.mem_singleton.mp repo))
  · exact .inr (.inr (.inl (List.mem_singleton.mp member)))
  · exact .inr (.inr (.inr (List.mem_singleton.mp member)))
  · cases member

section
variable {t : TaskAnalysis}

theorem passes_field {data : Fields} (passes : Passes data t) {field_name : String}
    (member : field_name ∈ TYPE_SPECIFIC_REQUIRED t.workflow_type) : data.get field_name = field_value t field_name := by
  have repo := optional_iff.mp passes.target_repo
  have branch := optional_iff.mp passes.target_branch
  have lang := optional_iff.mp passes.target_lang
  have children := children_of_iff.mp passes.children
  rcases required_names member with rfl | rfl | rfl | rfl
  · exact branch
  · exact repo
  · exact lang
  · exact children

theorem valid_of_passes {data : Fields} (passes : Passes data t) : Valid t where
  workflow_type := (workflow_type_of_iff.mp passes.workflow_type).2
  confidence := (confidence_of_iff.mp passes.confidence).2
  needs_info_question := needs_info_question_of_asks passes.needs_info_question
  output_actions := (output_actions_of_valid passes.output_actions).1
  each_action := (output_actions_of_valid passes.output_actions).2
  required := fun field_name member => by
    rw [← passes_field passes member]
    exact check_required_iff.mp passes.required field_name member

theorem format_target_lang : (format_task_analysis t).get "target_lang" = Json.ofOption t.target_lang := by
  unfold format_task_analysis
  cases t.target_lang <;> cases t.children <;> rfl

theorem format_children : (format_task_analysis t).get "children" = (match t.children with
    | some children => .arr (children.map .obj)
    | none => .null) := by
  unfold format_task_analysis
  cases t.target_lang <;> cases t.children <;> rfl

theorem passes_of_valid (valid : Valid t) : Passes (format_task_analysis t) t := by
  have workflow_type : (format_task_analysis t).get "workflow_type" = .str t.workflow_type := rfl
  have confidence : (format_task_analysis t).get "confidence" = .str t.confidence := rfl
  have question : (format_task_analysis t).get "needs_info_question" = Json.ofOption t.needs_info_question := rfl
  have repo : optional "target_repo" ((format_task_analysis t).get "target_repo") = .ok t.target_repo := optional_iff.mpr rfl
  have branch : optional "target_branch" ((format_task_analysis t).get "target_branch") = .ok t.target_branch :=
    optional_iff.mpr rfl
  have lang : optional "target_lang" ((format_task_analysis t).get "target_lang") = .ok t.target_lang :=
    optional_iff.mpr format_target_lang
  have children : children_of ((format_task_analysis t).get "children") = .ok t.children := children_of_iff.mpr format_children
  have named := workflow_type_of_iff.mpr ⟨workflow_type,valid.workflow_type⟩
  have sure := confidence_of_iff.mpr ⟨confidence,valid.confidence⟩
  have asked : needs_info_question_of t.confidence ((format_task_analysis t).get "needs_info_question") =
      .ok t.needs_info_question := by
    rw [question]
    exact needs_info_question_of_same valid.needs_info_question
  have actions := output_actions_of_same valid.output_actions valid.each_action
  refine ⟨named,sure,asked,actions,repo,branch,?_,lang,children⟩
  rw [check_required_iff]
  intro field_name member
  have given := valid.required field_name member
  have same : (format_task_analysis t).get field_name = field_value t field_name := by
    rcases required_names member with rfl | rfl | rfl | rfl
    · rfl
    · rfl
    · exact format_target_lang
    · exact format_children
  rw [same]
  exact given

/-- Exactly the valid analyses are read again from their dicts. -/
theorem parse_format_iff : parse_fields (format_task_analysis t) = .ok t ↔ Valid t :=
  ⟨fun parsed => valid_of_passes (parse_fields_iff.mp parsed),fun valid => parse_fields_iff.mpr (passes_of_valid valid)⟩

theorem checked_ok {parsed : Except String TaskAnalysis} : checked parsed = .ok t ↔ parsed = .ok t := by
  cases parsed <;> simp [checked]

end

/-! ### The law of payloads -/

/-- What is parsed is read again from its dict, and nothing but a `TaskAnalysisError` is raised. -/
structure PayloadLaw (py : Python) (payload : Payload) : Prop where
  round_trip : ∀ t, parse_task_analysis py payload = .ok t → parse_task_analysis py (.dict (format_task_analysis t)) = .ok t
  errors : ∀ raised, parse_task_analysis py payload = .error raised → ∃ message, raised = .TaskAnalysisError message

/-- A text is no JSON, or that of an object. -/
def Readable (py : Python) (payload : Payload) : Prop :=
  match payload with
  | .text payload =>
    JsonReader.loads py.recursion_limit payload = .error .JSONDecodeError ∨
      ∃ data, JsonReader.loads py.recursion_limit payload = .ok (.obj data)
  | _ => True

theorem checked_error {parsed : Except String TaskAnalysis} {raised : Raised} (failed : checked parsed = .error raised) :
    ∃ message, raised = .TaskAnalysisError message := by
  cases parsed with
  | ok analysis => cases failed
  | error message => exact ⟨message,(Except.error.inj failed).symm⟩

theorem parse_task_analysis_round_trip (py : Python) {payload : Payload} {t : TaskAnalysis}
    (parsed : parse_task_analysis py payload = .ok t) : parse_task_analysis py (.dict (format_task_analysis t)) = .ok t := by
  have valid : Valid t := by
    unfold parse_task_analysis at parsed
    split at parsed
    · split at parsed
      · cases parsed
      · cases parsed
      · cases parsed
      · exact valid_of_passes (parse_fields_iff.mp (checked_ok.mp parsed))
      · cases parsed
    · exact valid_of_passes (parse_fields_iff.mp (checked_ok.mp parsed))
    · cases parsed
  exact checked_ok.mpr (parse_format_iff.mpr valid)

theorem payload_law_iff (py : Python) (payload : Payload) : PayloadLaw py payload ↔ Readable py payload := by
  have law : PayloadLaw py payload ↔
      ∀ raised, parse_task_analysis py payload = .error raised → ∃ message, raised = .TaskAnalysisError message :=
    ⟨fun both => both.errors,fun errors => ⟨fun t => parse_task_analysis_round_trip py,errors⟩⟩
  rw [law]
  cases payload with
  | text payload =>
    rw [parse_task_analysis,Readable]
    cases read : JsonReader.loads py.recursion_limit payload with
    | error failure => cases failure <;> simp
    | ok value =>
      cases value with
      | obj data => exact ⟨fun _ => .inr ⟨data,rfl⟩,fun _ raised failed => checked_error failed⟩
      | _ => simp
  | dict data => exact ⟨fun _ => trivial,fun _ raised failed => checked_error failed⟩
  | other type_name => exact ⟨fun _ => trivial,fun _ raised failed => ⟨_,(Except.error.inj failed).symm⟩⟩

/-! ### The law of blocks -/

/-- An action with a type and a payload of the right kinds. -/
def WellFormed (raw : Fields) : Prop :=
  (∃ action_type, Fields.get raw "type" = .str action_type ∧ action_type ≠ "") ∧
    (Fields.get raw "payload" = .null ∨ ∃ payload, Fields.get raw "payload" = .obj payload)

theorem payload_of_ok {payload : Json} (index : Nat) :
    (∃ fields, payload_of payload index = .ok fields) ↔ payload = .null ∨ ∃ fields, payload = .obj fields := by
  cases payload <;> simp [payload_of]

theorem parse_output_action_ok {raw : Fields} (index : Nat) :
    (∃ action, parse_output_action (.obj raw) index = .ok action) ↔ WellFormed raw := by
  rw [parse_output_action,WellFormed,← payload_of_ok index]
  cases given : Fields.get raw "type" with
  | str action_type =>
    by_cases empty : action_type = ""
    · simp [empty]
    · cases payload_of (Fields.get raw "payload") index with
      | error message => simp [empty]
      | ok payload => simp [empty]
  | _ => simp

theorem block_actions_ok (output_actions : List OutputAction) :
    (∃ actions, block_actions output_actions items = .ok actions) ↔ ∀ raw, Json.obj raw ∈ items → WellFormed raw := by
  induction items generalizing output_actions with
  | nil => simp [block_actions]
  | cons item rest ih =>
    cases item with
    | str action_str =>
      rw [block_actions]
      split <;> simp [ih]
    | obj raw =>
      rw [block_actions]
      cases parsed : parse_output_action (.obj raw) output_actions.length with
      | error message =>
        have malformed : ¬WellFormed raw := by
          rw [← parse_output_action_ok output_actions.length,parsed]
          rintro ⟨action,returned⟩
          cases returned
        constructor
        · rintro ⟨actions,returned⟩
          cases returned
        · exact fun each => absurd (each raw List.mem_cons_self) malformed
      | ok action =>
        have formed : WellFormed raw := (parse_output_action_ok _).mp ⟨action,parsed⟩
        dsimp only
        rw [ih]
        constructor
        · intro later other member
          rcases List.mem_cons.mp member with same | inside
          · rw [Json.obj.inj same]
            exact formed
          · exact later other inside
        · exact fun each other inside => each other (List.mem_cons_of_mem _ inside)
    | _ =>
      rw [block_actions]
      · simp [ih]
      all_goals simp

/-- Some item of a block names an action. -/
def Names (items : List Json) : Prop := ∃ item ∈ items, (∃ action_str, item = .str action_str ∧ action_str ≠ "") ∨ ∃ raw, item = .obj raw

theorem block_actions_valid {output_actions actions : List OutputAction}
    (built : block_actions output_actions items = .ok actions) (before : ∀ action ∈ output_actions, action.Valid) :
    (∀ action ∈ actions, action.Valid) ∧ (actions ≠ [] ↔ output_actions ≠ [] ∨ Names items) := by
  induction items generalizing output_actions with
  | nil =>
    obtain rfl := Except.ok.inj built
    exact ⟨before,by simp [Names]⟩
  | cons item rest ih =>
    have add (action : OutputAction) (valid : action.Valid) : ∀ other ∈ output_actions ++ [action], other.Valid := by
      intro other member
      rcases List.mem_append.mp member with old | new
      · exact before other old
      · rw [List.mem_singleton.mp new]
        exact valid
    cases item with
    | str action_str =>
      rw [block_actions] at built
      by_cases empty : action_str = ""
      · rw [if_pos empty] at built
        obtain ⟨each,some_action⟩ := ih built before
        exact ⟨each,by rw [some_action]; simp [Names,empty]⟩
      · rw [if_neg empty] at built
        obtain ⟨each,some_action⟩ := ih built (add _ ⟨empty,fun request => by
          dsimp only at request ⊢
          rw [if_pos request]
          rfl⟩)
        exact ⟨each,by rw [some_action]; simp [Names,empty]⟩
    | obj raw =>
      rw [block_actions] at built
      split at built
      · cases built
      · next action parsed =>
        obtain ⟨each,some_action⟩ := ih built (add action (parse_output_action_valid parsed))
        exact ⟨each,by rw [some_action]; simp [Names]⟩
    | _ =>
      rw [block_actions] at built
      · obtain ⟨each,some_action⟩ := ih built before
        exact ⟨each,by rw [some_action]; simp [Names]⟩
      all_goals simp

/-- What the workflow of a block requires is there. -/
structure Complete (workflow_type repo branch : String) (language : Json) : Prop where
  code : workflow_type ∈ ["code_change_with_test","code_change_commit_only","pr_review","remote_ssh_test_only"] →
    strip branch ≠ "" ∧ strip repo ≠ ""
  confluence : workflow_type ∈ ["confluence_doc_create","confluence_doc_update"] →
    ∃ text, language = .str text ∧ strip text ≠ ""
  no_children : workflow_type ≠ "multi_step"

def block_analysis (workflow_type repo branch : String) (output_actions : List OutputAction) (language : Json) : TaskAnalysis where
  workflow_type
  target_repo := some repo
  target_branch := some branch
  output_actions
  confidence := "high"
  needs_info_question := none
  target_lang := language_of language
  children := none

theorem given_language {language : Json} :
    Given "target_lang" (Json.ofOption (language_of language)) ↔ ∃ text, language = .str text ∧ strip text ≠ "" := by
  cases language with
  | str text =>
    by_cases blank : strip text = ""
    · simp [language_of,blank,Json.ofOption,Given]
    · simp [language_of,blank,Json.ofOption,Given,strip_strip]
  | _ => simp [language_of,Json.ofOption,Given]

section
variable {workflow_type repo branch : String} {output_actions : List OutputAction} {language : Json}

variable (output_actions) in
theorem block_required_iff :
    (∀ field_name ∈ TYPE_SPECIFIC_REQUIRED workflow_type,
      Given field_name (field_value (block_analysis workflow_type repo branch output_actions language) field_name)) ↔
    Complete workflow_type repo branch language := by
  have code_only : ∀ name ∈ ["code_change_with_test","code_change_commit_only","pr_review","remote_ssh_test_only"],
      name ∉ ["confluence_doc_create","confluence_doc_update"] ∧ name ≠ "multi_step" := by decide
  have lang_only : ∀ name ∈ ["confluence_doc_create","confluence_doc_update"], name ≠ "multi_step" := by decide
  have target_branch : Given "target_branch"
      (field_value (block_analysis workflow_type repo branch output_actions language) "target_branch") ↔ strip branch ≠ "" := by
    simp [field_value,block_analysis,Json.ofOption,Given]
  have target_repo : Given "target_repo"
      (field_value (block_analysis workflow_type repo branch output_actions language) "target_repo") ↔ strip repo ≠ "" := by
    simp [field_value,block_analysis,Json.ofOption,Given]
  have target_lang : Given "target_lang"
      (field_value (block_analysis workflow_type repo branch output_actions language) "target_lang") ↔
      ∃ text, language = .str text ∧ strip text ≠ "" := by
    rw [← given_language]
    rfl
  have children : ¬Given "children" (field_value (block_analysis workflow_type repo branch output_actions language) "children") := by
    simp [field_value,block_analysis,Given]
  unfold TYPE_SPECIFIC_REQUIRED
  by_cases code : workflow_type ∈ ["code_change_with_test","code_change_commit_only","pr_review","remote_ssh_test_only"]
  · rw [if_pos code,List.forall_mem_cons,List.forall_mem_singleton,target_branch,target_repo]
    constructor
    · exact fun both => ⟨fun _ => both,fun lang => absurd lang (code_only _ code).1,(code_only _ code).2⟩
    · exact fun complete => complete.code code
  · rw [if_neg code]
    by_cases lang : workflow_type ∈ ["confluence_doc_create","confluence_doc_update"]
    · rw [if_pos lang,List.forall_mem_singleton,target_lang]
      constructor
      · exact fun given => ⟨fun other => absurd other code,fun _ => given,lang_only _ lang⟩
      · exact fun complete => complete.confluence lang
    · rw [if_neg lang]
      by_cases multi : workflow_type = "multi_step"
      · rw [if_pos multi,List.forall_mem_singleton]
        exact ⟨fun given => absurd given children,fun complete => absurd multi complete.no_children⟩
      · rw [if_neg multi]
        refine ⟨fun _ => ⟨fun other => absurd other code,fun other => absurd other lang,multi⟩,?_⟩
        exact fun _ field_name member => absurd member List.not_mem_nil

variable (repo branch language) in
theorem block_valid_iff (known : (WORKFLOW_TYPE_CAPABILITIES workflow_type).isSome = true) (some_action : output_actions ≠ [])
    (each : ∀ action ∈ output_actions, action.Valid) :
    Valid (block_analysis workflow_type repo branch output_actions language) ↔ Complete workflow_type repo branch language := by
  rw [← block_required_iff output_actions]
  have sure : "high" ∈ VALID_CONFIDENCES := by decide
  have unasked : Asks "high" none := by simp [Asks]
  exact ⟨fun valid => valid.required,fun required => ⟨known,sure,unasked,some_action,each,required⟩⟩

end

theorem block_fields_known {data : Fields} {workflow_type repo branch : String}
    (found : block_fields data = some (workflow_type,repo,branch,items)) :
    (WORKFLOW_TYPE_CAPABILITIES workflow_type).isSome = true := by
  simp only [block_fields,Option.bind_eq_bind,Option.bind_eq_some_iff] at found
  obtain ⟨task_type,-,name,-,head,-,raw,-,last⟩ := found
  split at last
  · next known =>
    cases last
    exact known
  · cases last

/-- The dict of a block leads to an analysis that is read again from its own dict, or to none. -/
def BlockOk (data : Fields) : Prop :=
  ∀ workflow_type repo branch items, block_fields data = some (workflow_type,repo,branch,items) →
    (∀ raw, Json.obj raw ∈ items → WellFormed raw) ∧ (Names items → Complete workflow_type repo branch (data.get "language"))

theorem parse_block_iff (py : Python) (data : Fields) :
    (∃ found, parse_block data = .ok found ∧
      ∀ t, found = some t → parse_task_analysis py (.dict (format_task_analysis t)) = .ok t) ↔ BlockOk data := by
  rw [parse_block]
  unfold BlockOk
  cases fields : block_fields data with
  | none => exact ⟨fun _ workflow_type repo branch items absent => (by cases absent),fun _ => ⟨none,rfl,by simp⟩⟩
  | some all =>
    obtain ⟨workflow_type,repo,branch,items⟩ := all
    have known := block_fields_known fields
    have only {p : String → String → String → List Json → Prop} : (∀ w r b i, some (workflow_type,repo,branch,items) = some (w,r,b,i) →
        p w r b i) ↔ p workflow_type repo branch items := by
      refine ⟨fun each => each _ _ _ _ rfl,fun holds w r b i same => ?_⟩
      cases same
      exact holds
    rw [only]
    dsimp only
    cases built : block_actions [] items with
    | error message =>
      constructor
      · rintro ⟨found,returned,-⟩
        cases returned
      · rintro ⟨formed,-⟩
        obtain ⟨actions,returned⟩ := (block_actions_ok []).mpr formed
        rw [built] at returned
        cases returned
    | ok actions =>
      have formed := (block_actions_ok []).mp ⟨actions,built⟩
      obtain ⟨each,some_action⟩ := block_actions_valid built (by simp)
      have named : actions ≠ [] ↔ Names items := by simpa using some_action
      dsimp only
      by_cases empty : actions = []
      · have unnamed : ¬Names items := fun names => named.mpr names empty
        rw [if_pos (by simp [empty])]
        exact ⟨fun _ => ⟨formed,fun names => absurd names unnamed⟩,fun _ => ⟨none,rfl,by simp⟩⟩
      · rw [if_neg (by simpa using empty)]
        have valid := block_valid_iff repo branch (data.get "language") known empty each
        constructor
        · rintro ⟨found,returned,again⟩
          obtain rfl := Except.ok.inj returned
          have parsed := checked_ok.mp (again _ rfl)
          exact ⟨formed,fun _ => valid.mp (parse_format_iff.mp parsed)⟩
        · rintro ⟨-,complete⟩
          refine ⟨_,rfl,fun t same => ?_⟩
          obtain rfl := Option.some.inj same
          exact checked_ok.mpr (parse_format_iff.mpr (valid.mpr (complete (named.mp empty))))

/-- A description leads to an analysis that is read again from its dict, or to none. -/
def BlockLaw (py : Python) (description : String) : Prop :=
  ∃ found, parse_context_block py description = .ok found ∧
    ∀ t, found = some t → parse_task_analysis py (.dict (format_task_analysis t)) = .ok t

/-- The block of the description is no JSON, no object, or an object that leads so far. -/
def BlockSuits (py : Python) (description : String) : Prop :=
  ∀ raw_json, context_block description = some raw_json →
    JsonReader.loads py.recursion_limit raw_json = .error .JSONDecodeError ∨
      ∃ value, JsonReader.loads py.recursion_limit raw_json = .ok value ∧ ∀ data, value = .obj data → BlockOk data

theorem block_law_iff (py : Python) (description : String) : BlockLaw py description ↔ BlockSuits py description := by
  unfold BlockLaw BlockSuits
  rw [parse_context_block]
  cases found : context_block description with
  | none => exact ⟨fun _ raw_json absent => (by cases absent),fun _ => ⟨none,rfl,by simp⟩⟩
  | some raw_json =>
    dsimp only
    cases read : JsonReader.loads py.recursion_limit raw_json with
    | error failure => cases failure <;> simp [read]
    | ok value =>
      cases value with
      | obj data =>
        dsimp only
        rw [parse_block_iff]
        constructor
        · intro suits other same
          obtain rfl := Option.some.inj same
          refine .inr ⟨_,read,fun inner equal => ?_⟩
          rw [← Json.obj.inj equal]
          exact suits
        · intro each
          rcases each raw_json rfl with failed | ⟨value,returned,holds⟩
          · rw [read] at failed
            cases failed
          · rw [read] at returned
            exact holds data (Except.ok.inj returned).symm
      | _ => simp [read]

/-- For which payloads and descriptions the codec keeps its laws. -/
theorem analysis_codec_iff (py : Python) (payload : Payload) (description : String) :
    (PayloadLaw py payload ↔ Readable py payload) ∧ (BlockLaw py description ↔ BlockSuits py description) :=
  ⟨payload_law_iff py payload,block_law_iff py description⟩

/-! ### A list, and a block of several steps -/

def interpreter : Python := { recursion_limit := 1000,decode_error := fun _ => "Expecting value: line 1 column 1 (char 0)" }

def steps : Fields := [("task_type",.str "multi_step"),("repo",.str "r"),("branch",.str "b"),("output_actions",.arr [.str "c"])]

/-- A task of several steps, which a block cannot list. -/
def steps_json : String := "\x7b\"task_type\":\"multi_step\",\"repo\":\"r\",\"branch\":\"b\",\"output_actions\":[\"c\"]\x7d"

def steps_block : String := "<context>" ++ steps_json ++ "</context>"

theorem list_payload_and_steps_block_break :
    ¬PayloadLaw interpreter (.text "[]") ∧ ¬BlockLaw interpreter steps_block := by
  constructor
  · intro law
    have read : JsonReader.loads 1000 "[]" = .ok (.arr []) := by rfl
    have raised : parse_task_analysis interpreter (.text "[]") = .error .AttributeError := by
      rw [parse_task_analysis,interpreter]
      dsimp only
      rw [read]
    obtain ⟨message,same⟩ := law.errors _ raised
    cases same
  · have block : context_block steps_block = some steps_json := by decide +kernel
    have read : JsonReader.loads 1000 steps_json = .ok (.obj steps) := by rfl
    have fields : block_fields steps = some ("multi_step","r","b",[.str "c"]) := by rfl
    intro law
    rcases (block_law_iff interpreter steps_block).mp law steps_json block with failed | ⟨value,returned,holds⟩
    · cases read.symm.trans failed
    · have suits := holds steps (Except.ok.inj (returned.symm.trans read))
      have names : Names [.str "c"] := ⟨_,List.mem_cons_self,.inl ⟨_,rfl,by decide⟩⟩
      exact ((suits _ _ _ _ fields).2 names).no_children rfl

end Automation.AnalysisCodec
