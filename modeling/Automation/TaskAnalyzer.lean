import Automation.DescriptionParser
import Automation.Effects
import Automation.JsonReader

/-!
The analysis of a task: its front matter, the subtasks of an epic, or the answer of a
language model name a workflow, which is validated, downgraded and held against the
confidence that it needs.

The cleanup policy and the timeout are not validated, the flag for the web search
stays where the workflow is not downgraded, and a failure of the model
ends in a rejection. `analyze_task_meets_iff` says exactly when the analysis meets
what its docstrings promise.
-/
namespace Automation.TaskAnalyzer
open Automation.Effects Automation.PyText
open Automation.DescriptionParser (ParsedFrontMatter parse_description_frontmatter VALID_CLEANUP_POLICIES
  TIMEOUT_SECONDS_MIN TIMEOUT_SECONDS_MAX)

abbrev Fields := List (String × Json)

/-- `fields.get(key)`. -/
def Fields.get (fields : Fields) (key : String) : Json := (fields.lookup key).getD .null

/-! ### Constants -/

/-- `VALID_WORKFLOW_TYPES`. -/
def VALID_WORKFLOW_TYPES : List String :=
  ["code_change_with_test","code_change_commit_only","pr_review","remote_ssh_test_only","script_execute",
    "confluence_doc_create","confluence_doc_update","research_publish_confluence","research_summary_jira","research_basic",
    "research_with_web","multi_step","noop_test"]

/-- `WORKFLOW_TYPE_ALIASES.get(value,value)`. -/
def WORKFLOW_TYPE_ALIASES (value : String) : String :=
  match value with
  | "research" => "research_basic"
  | "research_web" => "research_with_web"
  | "doc_generation" => "confluence_doc_create"
  | "po_review_request" => "pr_review"
  | "test" => "remote_ssh_test_only"
  | other => other

/-- `WEB_SEARCH_WORKFLOW_TYPES`. -/
def WEB_SEARCH_WORKFLOW_TYPES : List String := ["research_with_web","research_publish_confluence"]

/-- `EXECUTION_COMMAND_WORKFLOW_TYPES`. -/
def EXECUTION_COMMAND_WORKFLOW_TYPES : List String := ["code_change_with_test","remote_ssh_test_only","script_execute"]

/-- `_OUTPUT_ACTION_TYPE_ALIASES.get(kind,kind)`. -/
def OUTPUT_ACTION_TYPE_ALIASES (kind : String) : String :=
  match kind with
  | "bitbucket_put_file" => "bitbucket_commit"
  | "bitbucket_pr" => "bitbucket_create_pr"
  | "confluence_page" => "confluence_create_page"
  | other => other

/-- `_VALID_OUTPUT_ACTION_TYPES`. -/
def VALID_OUTPUT_ACTION_TYPES : List String :=
  ["jira_comment","jira_attachment","bitbucket_commit","bitbucket_create_pr","confluence_create_page",
    "confluence_update_page","jira_transition","slack_notify","email_notify"]

/-- `CONFIDENCE_THRESHOLD`. -/
def CONFIDENCE_THRESHOLD : Binary64 := .ofQuotient false 7 10

/-! ### The data -/

structure TaskAnalysisInput where
  issue_key : String
  title : String
  description : String
  labels : List String
  custom_fields : Fields
  dept_id : String
  dept_config : Fields
  trace_id : String
  issue_meta : Fields

/-- An output action of the front matter, of the model, or the count of an epic. -/
inductive OutputAction where
  | parsed (action : DescriptionParser.Action)
  | given (type : String) (params : Fields)
  | epic (subtask_count : Nat)

inductive Source where
  | yaml_frontmatter
  | llm_analysis
  | epic_auto_detect

inductive Status where
  | ready
  | needs_info
  | rejected
  deriving DecidableEq

/-- The timeout is any value: a department's default is taken as it is. -/
structure TaskAnalysisResult where
  accepted : Bool
  workflow_type : Option String
  needs_ssh : Bool
  needs_docker : Bool
  execution_command : Option String
  repo : Option String
  branch : Option String
  cleanup_policy : String
  timeout_seconds : Json
  web_search : Bool
  output_actions : List OutputAction
  confidence : Binary64
  missing_fields : List String
  reasoning : String
  source : Source
  status : Status
  error : Option String
  downgraded : Bool

/-- The interpreter: its limit for recursion, how it writes strings, other values and a
    `JSONDecodeError`, and the YAML reader. -/
structure Python where
  recursion_limit : Nat
  parser : DescriptionParser.Python
  str : Json → String
  decode_error : String → String
  yaml : Option (String → Except Unit DescriptionParser.Tree)

/-- What `set_llm_caller` and `set_jira_commenter` have registered. -/
structure Registry where
  llm_caller : Bool
  jira_commenter : Bool

inductive Raised where
  | AttributeError
  | ValueError
  | RecursionError
  | OverflowError
  | RuntimeError (message : String)
  | prompt (message : String)

/-- How the prompt file fails to load: an `OSError` or a `UnicodeDecodeError` is not caught. -/
inductive PromptError where
  | FileNotFoundError (message : String)
  | other (message : String)

inductive Call where
  | load_prompt
  | complete (prompt dept_id : String)
  | add_comment (issue_key body dept_id : String)

/-- A call answers, or raises an exception with the given text. -/
@[reducible] def calls : Signature where
  Cmd := Call
  Res
    | .load_prompt => Except PromptError String
    | .complete .. => Except String String
    | .add_comment .. => Except String Unit

/-- `_safe_post_comment`. -/
def safe_post_comment (registry : Registry) (input : TaskAnalysisInput) (body : String) : Prog calls Raised Unit :=
  if registry.jira_commenter then do
    let _ ← command (S := calls) (.add_comment input.issue_key body input.dept_id)
    return ()
  else return ()

/-! ### The answer of the model -/

/-- `_strip_markdown_fence`. -/
def strip_markdown_fence (text : String) : String :=
  let body := strip text
  if hasPrefix body "```" then
    let lines := (splitAt '\n' body.toList).drop 1
    let lines := match lines.getLast? with
      | some last => if startsWith "```".toList (stripBy isSpace last) then lines.dropLast else lines
      | none => lines
    .ofList (stripBy isSpace (List.intercalate ['\n'] lines))
  else body

/-- `type(value).__name__`. -/
def type_name : Json → String
  | .null => "NoneType"
  | .bool _ => "bool"
  | .int _ => "int"
  | .float _ => "float"
  | .str _ => "str"
  | .arr _ => "list"
  | .obj _ => "dict"

/-- `_parse_json_response`: the fields, or the text of a `TaskAnalysisError`. -/
def parse_json_response (py : Python) (raw : String) : Except Raised (Except String Fields) :=
  let body := strip_markdown_fence raw
  match JsonReader.loads py.recursion_limit body with
  | .error .JSONDecodeError =>
    .ok (.error ("LLM returned invalid JSON: " ++ py.decode_error body ++ ". Raw response (first 200 chars): " ++
      py.parser.repr (takeChars 200 body)))
  | .error .ValueError => .error .ValueError
  | .error .RecursionError => .error .RecursionError
  | .ok (.obj fields) => .ok (.ok fields)
  | .ok parsed => .ok (.error ("LLM JSON must be an object, got " ++ type_name parsed))

/-- `_safe_dept_config_for_prompt`. -/
def safe_dept_config_for_prompt (dept_config : Fields) : Fields :=
  ["available_repos","available_spaces","available_capabilities","default_language","web_search_enabled","docker_defaults",
    "repo_mappings","approvers","max_concurrent_workflows"].filterMap fun key =>
      (dept_config.lookup key).map fun value => (key,value)

/-- `_render_prompt`. -/
def render_prompt (template : String) (input : TaskAnalysisInput) : String :=
  let context := Json.obj [("issue_key",.str input.issue_key),("title",.str input.title),("description",.str input.description),
    ("labels",.arr (input.labels.map .str)),("custom_fields",.obj input.custom_fields),("dept_id",.str input.dept_id),
    ("dept_config",.obj (safe_dept_config_for_prompt input.dept_config)),("trace_id",.str input.trace_id)]
  template ++ "\n\n## CONTEXT\n\n```json\n" ++ JsonReader.dumps context ++ "\n```\n"

section
/-! ### Department defaults -/

variable (py : Python)

structure DeptDefaults where
  web_search_enabled : Bool
  cleanup_policy : String
  default_timeout_seconds : Json

/-- `_extract_dept_defaults`. -/
def extract_dept_defaults (dept_config : Fields) : Except Raised DeptDefaults :=
  match (dept_config.get "docker_defaults").orElse (.obj []) with
  | .obj docker_defaults => .ok {
      web_search_enabled := (dept_config.get "web_search_enabled").truthy
      cleanup_policy := ((docker_defaults.lookup "cleanup_policy").getD (.str "on_success")).pyStr py.str
      default_timeout_seconds := Fields.get docker_defaults "default_timeout_seconds" }
  | _ => .error .AttributeError

/-! ### Front matter -/

/-- `_try_parse_frontmatter`. -/
def try_parse_frontmatter (description : String) : Option ParsedFrontMatter :=
  match parse_description_frontmatter py.parser py.yaml (some description) with
  | .ok parsed => parsed
  | .error _ => none

/-- `_result_from_frontmatter`, for a front matter with the given workflow type. -/
def result_from_frontmatter (parsed : ParsedFrontMatter) (workflow_type : String) (input : TaskAnalysisInput)
    (dept_defaults : DeptDefaults) : TaskAnalysisResult :=
  let task_details := FrontMatter.description_without_frontmatter input.description
  let reasoning := "Derived from YAML front-matter (deterministic path)."
  { accepted := true
    workflow_type := some workflow_type
    needs_ssh := parsed.needs_ssh.getD (workflow_type ∈ ["code_change_with_test","remote_ssh_test_only","script_execute"])
    needs_docker := parsed.needs_docker.getD false
    execution_command := parsed.execution_command
    repo := parsed.repo
    branch := parsed.branch
    cleanup_policy := (parsed.cleanup.filter (· ≠ "")).getD dept_defaults.cleanup_policy
    timeout_seconds := (parsed.timeout_seconds.map Json.int).getD dept_defaults.default_timeout_seconds
    web_search := parsed.web_search.getD false
    output_actions := (parsed.output.getD []).map .parsed
    confidence := .finite 1
    missing_fields := []
    reasoning := if task_details = "" then reasoning else reasoning ++ "\n\nTask details:\n" ++ task_details
    source := .yaml_frontmatter
    status := .ready
    error := none
    downgraded := false }

/-! ### Coercions of the model's fields -/

/-- `_CONFIDENCE_LEVELS.get`. -/
def CONFIDENCE_LEVELS (name : String) : Option Binary64 :=
  match name with
  | "high" => some (.finite 1)
  | "medium" => some (.ofQuotient false 8 10)
  | "low" => some (.ofQuotient false 3 10)
  | "none" => some (.finite 0)
  | _ => none

/-- The part of `_coerce_confidence` after the levels. An `OverflowError` is not caught. -/
def coerce_number (raw : Json) : Except Raised Binary64 :=
  match JsonReader.float_of raw with
  | .ok value => .ok (Binary64.pyMax (.finite 0) (Binary64.pyMin (.finite 1) value))
  | .error .TypeError => .ok (.finite 0)
  | .error .ValueError => .ok (.finite 0)
  | .error .OverflowError => .error .OverflowError

/-- `_coerce_confidence`. -/
def coerce_confidence (raw : Json) : Except Raised Binary64 :=
  match raw with
  | .str text =>
    match CONFIDENCE_LEVELS (lower (strip text)) with
    | some level => .ok level
    | none => coerce_number raw
  | raw => coerce_number raw

/-- `_bool`. -/
def bool_of (v : Json) (default : Bool) : Bool :=
  match v with
  | .bool b => b
  | .str text => lower (strip text) ∈ ["true","yes","1"]
  | _ => default

/-- `_str_or_none`. -/
def str_or_none (v : Json) : Option String :=
  match v with
  | .str text => if strip text = "" then none else some (strip text)
  | _ => none

/-- The command that a value is, before its characters are checked. -/
def command_of (value : Json) : Option String :=
  match value with
  | .str text => if strip text = "" then none else some (strip text)
  | .arr items =>
    let parts := items.filterMap fun part => match part with
      | .str text => some (strip text)
      | _ => none
    if parts.isEmpty || parts.length ≠ items.length then none else some (String.intercalate " && " parts)
  | _ => none

/-- `_command_or_none`. -/
def command_or_none (raw_data : Fields) (keys : List String) : Option String :=
  keys.findSome? fun key =>
    (command_of (raw_data.get key)).filter fun command =>
      command ≠ "" && !command.toList.contains '\x00' && !command.toList.contains '\r'

/-- The action of an item, with its kind before the aliases. -/
def action_of (item : Json) : Option (String × Fields) :=
  match item with
  | .str text => if strip text = "" then none else some (strip text,[])
  | .obj item =>
    match (item.lookup "type").getD (Fields.get item "kind") with
    | .str raw_kind =>
      if strip raw_kind = "" then none
      else
        let raw_params := match Fields.get item "params" with
          | .null => (item.lookup "payload").getD (.obj [])
          | raw_params => raw_params
        match raw_params with
        | .obj params => some (strip raw_kind,params)
        | _ => some (strip raw_kind,[])
    | _ => none
  | _ => none

/-- `_list_of_output_actions`. -/
def list_of_output_actions (v : Json) : List OutputAction :=
  match v with
  | .arr items => items.filterMap fun item =>
      (action_of item).bind fun action =>
        let kind := OUTPUT_ACTION_TYPE_ALIASES action.1
        if kind ∈ VALID_OUTPUT_ACTION_TYPES then some (.given kind action.2) else none
  | _ => []

/-- The timeout that the model gives; `int` refuses some of the digits of `str.isdigit`. -/
def timeout_of (timeout_raw : Json) : Except Raised (Option Int) :=
  match timeout_raw with
  | .int n => .ok (some n)
  | .str text =>
    if text ≠ "" ∧ text.toList.all isDigitChar then
      match pyInt text with
      | some n => .ok (some n)
      | none => .error .ValueError
    else .ok none
  | _ => .ok none

/-- The texts among the missing fields. -/
def missing_of (missing_raw : Json) : List String :=
  match missing_raw with
  | .arr items => items.filterMap fun m => match m with
      | .str text => if text = "" then none else some text
      | _ => none
  | _ => []

/-- `_result_from_llm`. -/
def result_from_llm (raw_data : Fields) (dept_defaults : DeptDefaults) : Except Raised TaskAnalysisResult := do
  let confidence ← coerce_confidence ((raw_data.lookup "confidence").getD (.float "0.0"))
  let timeout ← timeout_of (raw_data.get "timeout_seconds")
  return {
    accepted := true
    workflow_type := (str_or_none (raw_data.get "workflow_type")).map WORKFLOW_TYPE_ALIASES
    needs_ssh := bool_of (raw_data.get "needs_ssh") false
    needs_docker := bool_of (raw_data.get "needs_docker") false
    execution_command := command_or_none raw_data ["execution_command","test_command","command","script","commands"]
    repo := (str_or_none (raw_data.get "repo")).or (str_or_none (raw_data.get "target_repo"))
    branch := (str_or_none (raw_data.get "branch")).or (str_or_none (raw_data.get "target_branch"))
    cleanup_policy := (str_or_none (raw_data.get "cleanup_policy")).getD dept_defaults.cleanup_policy
    timeout_seconds := (timeout.map Json.int).getD dept_defaults.default_timeout_seconds
    web_search := bool_of (raw_data.get "web_search") false
    output_actions := list_of_output_actions ((raw_data.lookup "output_actions").getD (raw_data.get "output"))
    confidence
    missing_fields := missing_of (raw_data.get "missing_fields")
    reasoning := (str_or_none (raw_data.get "reasoning")).getD ""
    source := .llm_analysis
    status := .ready
    error := none
    downgraded := false }

/-! ### Validation and comments -/

/-- `text + " | " if text else ""`. -/
def reasoned (reasoning : String) : String := if reasoning = "" then "" else reasoning ++ " | "

/-- `_apply_web_search_downgrade`. -/
def apply_web_search_downgrade (result : TaskAnalysisResult) (dept_defaults : DeptDefaults) : TaskAnalysisResult :=
  if dept_defaults.web_search_enabled then result
  else
    match result.workflow_type with
    | some workflow_type =>
      if workflow_type ∈ WEB_SEARCH_WORKFLOW_TYPES then
        { result with
          workflow_type := some "research_basic"
          web_search := false
          downgraded := true
          reasoning := reasoned result.reasoning ++ "Downgraded from " ++ workflow_type ++ " to research_basic " ++
            "because the department's web_search_enabled flag is false." }
      else result
    | none => result

/-- `_build_invalid_workflow_comment`, with `", ".join(sorted(VALID_WORKFLOW_TYPES))` written out. -/
def build_invalid_workflow_comment (bad_value issue_key : String) : String :=
  let allowed := "code_change_commit_only, code_change_with_test, confluence_doc_create, confluence_doc_update, multi_step, " ++
    "noop_test, pr_review, remote_ssh_test_only, research_basic, research_publish_confluence, research_summary_jira, " ++
    "research_with_web, script_execute"
  " Görev (`" ++ issue_key ++ "`) reddedildi: geçersiz workflow_type `" ++ bad_value ++ "`.\n\n" ++
  "Geçerli değerler:\n" ++ allowed ++ "\n\n" ++
  "Lütfen task description'ını veya YAML front-matter bloğunu düzeltip yeniden atayın."

def bullets (lines : List String) : String := String.intercalate "\n" (lines.map fun line => "• " ++ line)

/-- `_build_needs_info_comment`. -/
def build_needs_info_comment (missing : List String) : String :=
  if missing.isEmpty then
    " Görev tanımı yetersiz, devam edebilmem için ek bilgi gerekiyor. Lütfen bu yorumun altına detayları yazın."
  else
    " Görevi başlatabilmem için aşağıdaki bilgilere ihtiyacım var:\n\n" ++ bullets missing ++ "\n\n" ++
    "Lütfen bu yorumun altına bilgileri yazın."

/-- `_build_missing_execution_command_comment`. -/
def build_missing_execution_command_comment (workflow_type issue_key : String) : String :=
  "Bu gorev (`" ++ issue_key ++ "`) `" ++ workflow_type ++ "` olarak calisacak, " ++
  "ama calistirilacak komut belirtilmemis.\n\n" ++
  "Lutfen task aciklamasindaki `ai-bot` bloguna su alanlardan " ++
  "birini ekleyin: `test_command`, `execution_command`, `command` veya `script`.\n\n" ++
  "Ornek:\n```yaml\nai-bot:\n  workflow_type: " ++ workflow_type ++ "\n test_command: \"pytest -q\"\n```\n" ++
  "Bu yoruma cevap geldikten sonra webhook workflow'u tekrar tetikleyecek."

/-- `_build_downgrade_comment`. -/
def build_downgrade_comment (original issue_key : String) : String :=
  "ℹ Görev (`" ++ issue_key ++ "`) `" ++ original ++ "` olarak istenmişti ancak " ++
  "departman için web araması devre dışı. Görev `research_basic` olarak çalıştırılacak (yalnızca dahili bilgi)."

/-- `_build_frontmatter_warning_comment`. -/
def build_frontmatter_warning_comment (parse_errors : List String) (issue_key : String) : String :=
  " Görev (`" ++ issue_key ++ "`) açıklamasındaki YAML override bloğunda geçersiz alanlar tespit edildi:\n\n" ++
  bullets parse_errors ++ "\n\n" ++
  "Bu alanlar yok sayılacak ve departman varsayılanları kullanılacak. Lütfen değerleri düzelterek tekrar deneyin."

/-- `_build_epic_needs_subtasks_comment`. -/
def build_epic_needs_subtasks_comment (issue_key : String) : String :=
  " Bu Epic (`" ++ issue_key ++ "`) için subtask eklemediniz - ayrı task'lara bölmek mi istersiniz?\n\n" ++
  "Lütfen Epic'e subtask ekleyin veya bu yorumun altına nasıl ilerlememi istediğinizi yazın."

/-! ### Epics -/

/-- `_is_epic_issue`. -/
def is_epic_issue (input : TaskAnalysisInput) : Bool :=
  match input.issue_meta.get "issuetype" with
  | .obj issuetype =>
    match Fields.get issuetype "name" with
    | .str name => lower (strip name) = "epic"
    | _ => false
  | _ => false

/-- `_get_epic_subtasks`, the subtasks that are dicts. -/
def get_epic_subtasks (input : TaskAnalysisInput) : List Json :=
  match input.issue_meta.get "subtasks" with
  | .arr subtasks => subtasks.filter Json.isObj
  | _ => []

/-- The fields that the results without a front matter or an answer have in common. -/
def bare_result (cleanup_policy : String) (timeout_seconds : Json) : TaskAnalysisResult where
  accepted := false
  workflow_type := none
  needs_ssh := false
  needs_docker := false
  execution_command := none
  repo := none
  branch := none
  cleanup_policy
  timeout_seconds
  web_search := false
  output_actions := []
  confidence := .finite 0
  missing_fields := []
  reasoning := ""
  source := .llm_analysis
  status := .ready
  error := none
  downgraded := false

/-- `_result_for_epic_multi_step`. -/
def result_for_epic_multi_step (input : TaskAnalysisInput) : TaskAnalysisResult :=
  { bare_result "on_success" .null with
    accepted := true
    workflow_type := some "multi_step"
    output_actions := [.epic (get_epic_subtasks input).length]
    confidence := .finite 1
    reasoning := "Epic with subtasks - deterministic multi_step assignment."
    source := .epic_auto_detect }

/-- `_result_for_epic_needs_subtasks`. -/
def result_for_epic_needs_subtasks : TaskAnalysisResult :=
  { bare_result "on_success" .null with
    workflow_type := some "multi_step"
    confidence := .finite 1
    missing_fields := ["subtasks"]
    reasoning := "Epic without subtasks - needs_info to request subtask breakdown."
    source := .epic_auto_detect
    status := .needs_info }

/-! ### The activity -/

/-- What the analysis goes on with where the model gives none. -/
def failed_result (dept_defaults : DeptDefaults) (missing reasoning error : String) : TaskAnalysisResult :=
  { bare_result dept_defaults.cleanup_policy dept_defaults.default_timeout_seconds with
    accepted := true
    missing_fields := [missing]
    reasoning
    error := some error }

/-- `_run_llm_analysis`. -/
def run_llm_analysis (registry : Registry) (input : TaskAnalysisInput) (dept_defaults : DeptDefaults) :
    Prog calls Raised TaskAnalysisResult := do
  match ← command (S := calls) .load_prompt with
  | .error (.other message) => .raise (.prompt message)
  | .error (.FileNotFoundError message) =>
    let error := "Prompt file not found: " ++ message
    return { failed_result dept_defaults "task_analysis_prompt" error error with accepted := false,status := .rejected }
  | .ok template =>
    if !registry.llm_caller then
      .raise (.RuntimeError ("task_analyzer activity: LLM caller not initialised; " ++
        "call set_llm_caller during worker startup."))
    else
      match ← command (S := calls) (.complete (render_prompt template input) input.dept_id) with
      | .error exc => return failed_result dept_defaults "llm_analysis_failed" ("LLM call failed: " ++ exc) exc
      | .ok raw_response =>
        match parse_json_response py raw_response with
        | .error raised => .raise raised
        | .ok (.error exc) => return failed_result dept_defaults "invalid_llm_json" exc exc
        | .ok (.ok parsed) =>
          match result_from_llm parsed dept_defaults with
          | .error raised => .raise raised
          | .ok result => return result

/-- Steps 3 to 5, for a result with a valid workflow type: the command and the confidence. -/
def gate (registry : Registry) (input : TaskAnalysisInput) (result : TaskAnalysisResult) (workflow_type : String) :
    Prog calls Raised TaskAnalysisResult :=
  if workflow_type ∈ EXECUTION_COMMAND_WORKFLOW_TYPES ∧ result.execution_command.getD "" = "" then do
    safe_post_comment registry input (build_missing_execution_command_comment workflow_type input.issue_key)
    return { result with
      accepted := false
      status := .needs_info
      missing_fields := (result.missing_fields ++ ["test_command"]).eraseDups
      reasoning := reasoned result.reasoning ++ "Execution workflow requires a non-empty test_command." }
  else if result.confidence.lt CONFIDENCE_THRESHOLD then do
    safe_post_comment registry input (build_needs_info_comment result.missing_fields)
    return { result with accepted := false,status := .needs_info }
  else return result

/-- Step 3 for a workflow type that is missing or not valid. -/
def reject (registry : Registry) (input : TaskAnalysisInput) (result : TaskAnalysisResult) (bad : String) :
    Prog calls Raised TaskAnalysisResult := do
  safe_post_comment registry input (build_invalid_workflow_comment bad input.issue_key)
  return { result with
    accepted := false
    status := .rejected
    error := some ("Invalid workflow_type: " ++ py.parser.repr bad) }

/-- Steps 3 to 5. -/
def validate (registry : Registry) (input : TaskAnalysisInput) (dept_defaults : DeptDefaults) (result : TaskAnalysisResult) :
    Prog calls Raised TaskAnalysisResult :=
  match result.workflow_type with
  | none => reject py registry input result "<missing>"
  | some workflow_type =>
    if workflow_type ∉ VALID_WORKFLOW_TYPES then
      reject py registry input result (if workflow_type = "" then "<missing>" else workflow_type)
    else do
      let result := apply_web_search_downgrade result dept_defaults
      if result.downgraded then safe_post_comment registry input (build_downgrade_comment workflow_type input.issue_key)
      gate registry input result (result.workflow_type.getD workflow_type)

/-- Steps 1 to 2: what the front matter, the epic or the model gives, and whether it is final. -/
def candidate (registry : Registry) (input : TaskAnalysisInput) (dept_defaults : DeptDefaults) (parsed_fm : Option ParsedFrontMatter) :
    Prog calls Raised (Bool × TaskAnalysisResult) :=
  match parsed_fm.bind fun parsed => parsed.workflow_type.map fun workflow_type => (parsed,workflow_type) with
  | some (parsed,workflow_type) => return (false,result_from_frontmatter parsed workflow_type input dept_defaults)
  | none =>
    if is_epic_issue input then
      if (get_epic_subtasks input).isEmpty then do
        safe_post_comment registry input (build_epic_needs_subtasks_comment input.issue_key)
        return (true,result_for_epic_needs_subtasks)
      else return (true,result_for_epic_multi_step input)
    else do
      let result ← run_llm_analysis py registry input dept_defaults
      return (false,result)

/-- `analyze_task`. -/
def analyze_task (registry : Registry) (input : TaskAnalysisInput) : Prog calls Raised TaskAnalysisResult :=
  match extract_dept_defaults py input.dept_config with
  | .error raised => .raise raised
  | .ok dept_defaults => do
    let parsed_fm := try_parse_frontmatter py input.description
    let fm_parse_errors := (parsed_fm.map fun parsed => parsed.parse_errors).getD []
    if !fm_parse_errors.isEmpty then
      safe_post_comment registry input (build_frontmatter_warning_comment fm_parse_errors input.issue_key)
    let (final,result) ← candidate py registry input dept_defaults parsed_fm
    if final then return result else validate py registry input dept_defaults result

/-! ### What a result promises -/

/-- `None`, or a number of seconds in the range. -/
def InRange : Json → Prop
  | .null => True
  | .int n => TIMEOUT_SECONDS_MIN ≤ n ∧ n ≤ TIMEOUT_SECONDS_MAX
  | .float text => ∃ x, Binary64.ofText text = some (.finite x) ∧ (TIMEOUT_SECONDS_MIN : Rat) ≤ x ∧ x ≤ (TIMEOUT_SECONDS_MAX : Rat)
  | _ => False

/-- The promises about a result with status `ready`. -/
structure Ready (web_search_enabled : Bool) (result : TaskAnalysisResult) : Prop where
  workflow_type : ∃ workflow_type ∈ VALID_WORKFLOW_TYPES, result.workflow_type = some workflow_type
  confidence : CONFIDENCE_THRESHOLD.le result.confidence = true
  cleanup_policy : result.cleanup_policy ∈ VALID_CLEANUP_POLICIES
  timeout_seconds : InRange result.timeout_seconds
  execution_command : ∀ workflow_type ∈ EXECUTION_COMMAND_WORKFLOW_TYPES, result.workflow_type = some workflow_type →
    result.execution_command.getD "" ≠ ""
  web_search : web_search_enabled = false → result.web_search = false ∧
    ∀ workflow_type ∈ WEB_SEARCH_WORKFLOW_TYPES, result.workflow_type ≠ some workflow_type

/-- What a front matter or an answer asks for. -/
structure Request where
  workflow_type : Option String
  confidence : Binary64
  execution_command : Option String
  cleanup_policy : Option String
  timeout_seconds : Option Int
  web_search : Bool

/-- The workflow is valid, has the command that it needs, and the confidence is high enough. -/
def Request.Proceeds (request : Request) : Prop :=
  ∃ workflow_type ∈ VALID_WORKFLOW_TYPES, request.workflow_type = some workflow_type ∧
    (workflow_type ∈ EXECUTION_COMMAND_WORKFLOW_TYPES → request.execution_command.getD "" ≠ "") ∧
    request.confidence.lt CONFIDENCE_THRESHOLD = false

/-- The cleanup policy and the timeout, its own or the department's, are valid, and no web search is
    asked for that the department has disabled, unless with a workflow that is downgraded. -/
structure Request.Fits (request : Request) (dept_defaults : DeptDefaults) : Prop where
  cleanup_policy : request.cleanup_policy.getD dept_defaults.cleanup_policy ∈ VALID_CLEANUP_POLICIES
  timeout_seconds : InRange ((request.timeout_seconds.map Json.int).getD dept_defaults.default_timeout_seconds)
  web_search : dept_defaults.web_search_enabled = false → request.web_search = true →
    ∃ workflow_type ∈ WEB_SEARCH_WORKFLOW_TYPES, request.workflow_type = some workflow_type

/-- The result is made of what is asked for, and of the defaults. -/
structure Follows (dept_defaults : DeptDefaults) (request : Request) (result : TaskAnalysisResult) : Prop where
  workflow_type : result.workflow_type = request.workflow_type
  confidence : result.confidence = request.confidence
  number : request.confidence ≠ .nan
  execution_command : result.execution_command = request.execution_command
  cleanup_policy : result.cleanup_policy = request.cleanup_policy.getD dept_defaults.cleanup_policy
  timeout_seconds : result.timeout_seconds = (request.timeout_seconds.map Json.int).getD dept_defaults.default_timeout_seconds
  web_search : result.web_search = request.web_search
  status : result.status = .ready

/-! ### Runs -/

/-- What each call comes to; every call whose result is read is made at most once. -/
abbrev Replies := (c : Call) → calls.Res c

def answering (reply : Replies) : Handler calls Unit := fun c s => (reply c,s)

variable {py}
variable {registry : Registry} {input : TaskAnalysisInput} {dept_defaults : DeptDefaults} {reply : Replies}

@[simp] theorem exec_post (body : String) :
    exec (answering reply) (safe_post_comment registry input body) () = (.ok (),()) := by
  unfold safe_post_comment
  split <;> rfl

@[simp] theorem exec_post_bind {α : Type} (body : String) (next : Unit → Prog calls Raised α) :
    exec (answering reply) (safe_post_comment registry input body >>= next) () = exec (answering reply) (next ()) () := by
  rw [exec_bind,exec_post]

theorem exec_reject (result : TaskAnalysisResult) (bad : String) :
    ∃ rejected, exec (answering reply) (reject py registry input result bad) () = (.ok rejected,()) ∧
      rejected.status = .rejected := by
  rw [reject,exec_post_bind]
  exact ⟨_,rfl,rfl⟩

variable (registry input reply) in
theorem exec_gate (result : TaskAnalysisResult) (workflow_type : String) :
    ∃ gated, exec (answering reply) (gate registry input result workflow_type) () = (.ok gated,()) ∧
      if (workflow_type ∈ EXECUTION_COMMAND_WORKFLOW_TYPES → result.execution_command.getD "" ≠ "") ∧
        result.confidence.lt CONFIDENCE_THRESHOLD = false then gated = result
      else gated.status = .needs_info := by
  unfold gate
  by_cases needed : workflow_type ∈ EXECUTION_COMMAND_WORKFLOW_TYPES ∧ result.execution_command.getD "" = ""
  · rw [if_pos needed,exec_post_bind]
    refine ⟨_,rfl,?_⟩
    rw [if_neg fun both => both.1 needed.1 needed.2]
  · rw [if_neg needed]
    have given : workflow_type ∈ EXECUTION_COMMAND_WORKFLOW_TYPES → result.execution_command.getD "" ≠ "" :=
      fun execution empty => needed ⟨execution,empty⟩
    cases low : result.confidence.lt CONFIDENCE_THRESHOLD with
    | true =>
      rw [if_pos rfl,exec_post_bind]
      refine ⟨_,rfl,?_⟩
      rw [if_neg fun both => absurd both.2 (by decide)]
    | false =>
      rw [if_neg (by decide)]
      exact ⟨result,rfl,by rw [if_pos ⟨given,rfl⟩]⟩

structure Downgraded (result after : TaskAnalysisResult) : Prop where
  workflow_type : after.workflow_type = some "research_basic"
  web_search : after.web_search = false
  confidence : after.confidence = result.confidence
  execution_command : after.execution_command = result.execution_command
  cleanup_policy : after.cleanup_policy = result.cleanup_policy
  timeout_seconds : after.timeout_seconds = result.timeout_seconds
  status : after.status = result.status

variable {result : TaskAnalysisResult}

variable (dept_defaults) in
theorem downgrade_cases {workflow_type : String} (asked : result.workflow_type = some workflow_type) :
    (dept_defaults.web_search_enabled = false ∧ workflow_type ∈ WEB_SEARCH_WORKFLOW_TYPES ∧
      Downgraded result (apply_web_search_downgrade result dept_defaults)) ∨
    ((dept_defaults.web_search_enabled = true ∨ workflow_type ∉ WEB_SEARCH_WORKFLOW_TYPES) ∧
      apply_web_search_downgrade result dept_defaults = result) := by
  unfold apply_web_search_downgrade
  cases enabled : dept_defaults.web_search_enabled with
  | true => exact .inr ⟨.inl rfl,rfl⟩
  | false =>
    rw [if_neg (by decide),asked]
    by_cases web : workflow_type ∈ WEB_SEARCH_WORKFLOW_TYPES
    · dsimp only
      rw [if_pos web]
      exact .inl ⟨rfl,web,⟨rfl,rfl,rfl,rfl,rfl,rfl,rfl⟩⟩
    · dsimp only
      rw [if_neg web]
      exact .inr ⟨.inr web,rfl⟩

theorem web_search_types : ∀ workflow_type ∈ WEB_SEARCH_WORKFLOW_TYPES, workflow_type ∉ EXECUTION_COMMAND_WORKFLOW_TYPES := by
  decide

variable (py registry input dept_defaults reply) in
theorem exec_validate_invalid
    (invalid : ∀ workflow_type ∈ VALID_WORKFLOW_TYPES, result.workflow_type ≠ some workflow_type) :
    ∃ rejected, exec (answering reply) (validate py registry input dept_defaults result) () = (.ok rejected,()) ∧
      rejected.status = .rejected := by
  unfold validate
  cases asked : result.workflow_type with
  | none => exact exec_reject result _
  | some workflow_type =>
    dsimp only
    rw [if_pos fun member => invalid workflow_type member asked]
    exact exec_reject result _

theorem exec_validate {workflow_type : String} (asked : result.workflow_type = some workflow_type)
    (valid : workflow_type ∈ VALID_WORKFLOW_TYPES) :
    exec (answering reply) (validate py registry input dept_defaults result) () =
      exec (answering reply) (gate registry input (apply_web_search_downgrade result dept_defaults)
        ((apply_web_search_downgrade result dept_defaults).workflow_type.getD workflow_type)) () := by
  rw [validate,asked]
  dsimp only
  rw [if_neg (not_not_intro valid)]
  split
  · exact exec_post_bind _ _
  · rfl

/-- What stands after the downgrade is as promised exactly if what was asked for fits. -/
theorem ready_iff {request : Request} (follows : Follows dept_defaults request result)
    (proceeds : request.Proceeds) :
    Ready dept_defaults.web_search_enabled (apply_web_search_downgrade result dept_defaults) ↔ request.Fits dept_defaults := by
  obtain ⟨workflow_type,valid,asked,command,confident⟩ := proceeds
  have named : result.workflow_type = some workflow_type := follows.workflow_type.trans asked
  have enough : CONFIDENCE_THRESHOLD.le result.confidence = true := by
    rw [follows.confidence]
    exact Binary64.le_of_not_lt follows.number (by decide +kernel) confident
  rcases downgrade_cases dept_defaults named with ⟨disabled,web,down⟩ | ⟨kept,same_result⟩
  · constructor
    · intro ready
      refine ⟨?_,?_,fun _ _ => ⟨workflow_type,web,asked⟩⟩
      · rw [← follows.cleanup_policy,← down.cleanup_policy]
        exact ready.cleanup_policy
      · rw [← follows.timeout_seconds,← down.timeout_seconds]
        exact ready.timeout_seconds
    · intro fits
      refine ⟨⟨"research_basic",by decide,down.workflow_type⟩,?_,?_,?_,?_,fun _ => ⟨down.web_search,?_⟩⟩
      · rw [down.confidence]
        exact enough
      · rw [down.cleanup_policy,follows.cleanup_policy]
        exact fits.cleanup_policy
      · rw [down.timeout_seconds,follows.timeout_seconds]
        exact fits.timeout_seconds
      · intro other execution names
        obtain rfl := Option.some.inj (down.workflow_type.symm.trans names)
        exact absurd execution (by decide)
      · intro other search names
        obtain rfl := Option.some.inj (down.workflow_type.symm.trans names)
        exact absurd search (by decide)
  · rw [same_result]
    constructor
    · intro ready
      refine ⟨?_,?_,?_⟩
      · rw [← follows.cleanup_policy]
        exact ready.cleanup_policy
      · rw [← follows.timeout_seconds]
        exact ready.timeout_seconds
      · intro disabled searches
        have off := (ready.web_search disabled).1
        rw [follows.web_search,searches] at off
        cases off
    · intro fits
      refine ⟨⟨workflow_type,valid,named⟩,enough,?_,?_,?_,?_⟩
      · rw [follows.cleanup_policy]
        exact fits.cleanup_policy
      · rw [follows.timeout_seconds]
        exact fits.timeout_seconds
      · intro other execution names
        obtain rfl := Option.some.inj (named.symm.trans names)
        rw [follows.execution_command]
        exact command execution
      · intro disabled
        have plain : workflow_type ∉ WEB_SEARCH_WORKFLOW_TYPES := by
          rcases kept with enabled | plain
          · rw [disabled] at enabled
            cases enabled
          · exact plain
        refine ⟨?_,?_⟩
        · rw [follows.web_search]
          cases searches : request.web_search with
          | false => rfl
          | true =>
            obtain ⟨other,web,names⟩ := fits.web_search disabled searches
            obtain rfl := Option.some.inj (asked.symm.trans names)
            exact absurd web plain
        · intro other web names
          obtain rfl := Option.some.inj (named.symm.trans names)
          exact plain web

variable (py registry input reply) in
theorem validate_ready_iff {request : Request} (follows : Follows dept_defaults request result) :
    ∃ validated, exec (answering reply) (validate py registry input dept_defaults result) () = (.ok validated,()) ∧
      ((validated.status = .ready → Ready dept_defaults.web_search_enabled validated) ↔
        (request.Proceeds → request.Fits dept_defaults)) := by
  by_cases valid : ∃ workflow_type ∈ VALID_WORKFLOW_TYPES, result.workflow_type = some workflow_type
  · obtain ⟨workflow_type,member,named⟩ := valid
    obtain ⟨gated,returned,stage⟩ := exec_gate registry input reply (apply_web_search_downgrade result dept_defaults)
      ((apply_web_search_downgrade result dept_defaults).workflow_type.getD workflow_type)
    refine ⟨gated,(exec_validate named member).trans returned,?_⟩
    have asked : request.workflow_type = some workflow_type := follows.workflow_type.symm.trans named
    -- the gate is passed exactly by what proceeds
    have passes : request.Proceeds ↔
        ((apply_web_search_downgrade result dept_defaults).workflow_type.getD workflow_type ∈ EXECUTION_COMMAND_WORKFLOW_TYPES →
          (apply_web_search_downgrade result dept_defaults).execution_command.getD "" ≠ "") ∧
        (apply_web_search_downgrade result dept_defaults).confidence.lt CONFIDENCE_THRESHOLD = false := by
      have unfolded : request.Proceeds ↔ (workflow_type ∈ EXECUTION_COMMAND_WORKFLOW_TYPES →
          request.execution_command.getD "" ≠ "") ∧ request.confidence.lt CONFIDENCE_THRESHOLD = false := by
        constructor
        · rintro ⟨other,-,names,both⟩
          obtain rfl := Option.some.inj (asked.symm.trans names)
          exact both
        · exact fun both => ⟨workflow_type,member,asked,both⟩
      rw [unfolded]
      rcases downgrade_cases dept_defaults named with ⟨-,web,down⟩ | ⟨-,same_result⟩
      · rw [down.workflow_type,down.confidence,follows.confidence,Option.getD_some]
        exact and_congr_left fun _ => ⟨fun _ basic => absurd basic (by decide),fun _ execution =>
          absurd execution (web_search_types workflow_type web)⟩
      · rw [same_result,named,follows.execution_command,follows.confidence,Option.getD_some]
    by_cases proceeds : request.Proceeds
    · rw [if_pos (passes.mp proceeds)] at stage
      subst stage
      have status : (apply_web_search_downgrade result dept_defaults).status = .ready := by
        rcases downgrade_cases dept_defaults named with ⟨-,-,down⟩ | ⟨-,same_result⟩
        · exact down.status.trans follows.status
        · rw [same_result]
          exact follows.status
      have fits := ready_iff follows proceeds
      exact ⟨fun promise _ => fits.mp (promise status),fun holds _ => fits.mpr (holds proceeds)⟩
    · rw [if_neg (fun both => proceeds (passes.mpr both))] at stage
      refine ⟨fun _ asks => absurd asks proceeds,fun _ ready => ?_⟩
      rw [stage] at ready
      cases ready
  · obtain ⟨rejected,returned,status⟩ := exec_validate_invalid py registry input dept_defaults reply
      fun workflow_type member named => valid ⟨workflow_type,member,named⟩
    refine ⟨rejected,returned,fun _ proceeds => ?_,fun _ ready => ?_⟩
    · obtain ⟨workflow_type,member,asked,-⟩ := proceeds
      exact absurd ⟨workflow_type,member,follows.workflow_type.trans asked⟩ valid
    · rw [status] at ready
      cases ready

/-! ### The three sources -/

variable (py)

def workflow_of (input : TaskAnalysisInput) : Option (ParsedFrontMatter × String) :=
  (try_parse_frontmatter py input.description).bind fun parsed =>
    parsed.workflow_type.map fun workflow_type => (parsed,workflow_type)

def front_matter_request (parsed : ParsedFrontMatter) (workflow_type : String) : Request where
  workflow_type := some workflow_type
  confidence := .finite 1
  execution_command := parsed.execution_command
  cleanup_policy := parsed.cleanup.filter (· ≠ "")
  timeout_seconds := parsed.timeout_seconds
  web_search := parsed.web_search.getD false

def model_request (raw_data : Fields) : Except Raised Request := do
  let confidence ← coerce_confidence ((raw_data.lookup "confidence").getD (.float "0.0"))
  let timeout_seconds ← timeout_of (raw_data.get "timeout_seconds")
  return {
    workflow_type := (str_or_none (raw_data.get "workflow_type")).map WORKFLOW_TYPE_ALIASES
    confidence
    execution_command := command_or_none raw_data ["execution_command","test_command","command","script","commands"]
    cleanup_policy := str_or_none (raw_data.get "cleanup_policy")
    timeout_seconds
    web_search := bool_of (raw_data.get "web_search") false }

/-- The model fails, or what it answers is not an object. -/
def ModelFails : Except String String → Prop
  | .error _ => True
  | .ok raw_response => ∀ fields, JsonReader.loads py.recursion_limit (strip_markdown_fence raw_response) ≠ .ok (.obj fields)

/-- The model is asked, with the prompt made of the template. -/
structure Asked (registry : Registry) (input : TaskAnalysisInput) (reply : Replies) (template : String) : Prop where
  defaults : ∃ dept_defaults, extract_dept_defaults py input.dept_config = .ok dept_defaults
  no_workflow : workflow_of py input = none
  no_epic : is_epic_issue input = false
  prompt : reply .load_prompt = .ok template
  caller : registry.llm_caller = true

/-- A ready result is as promised, and a failure of the model asks for more information. -/
structure Meets (registry : Registry) (input : TaskAnalysisInput) (reply : Replies)
    (outcome : Except Raised TaskAnalysisResult) : Prop where
  ready : ∀ result, outcome = .ok result → result.status = .ready →
    Ready (input.dept_config.get "web_search_enabled").truthy result
  fallback : ∀ template, Asked py registry input reply template →
    ModelFails py (reply (.complete (render_prompt template input) input.dept_id)) →
      ∃ result, outcome = .ok result ∧ result.status = .needs_info

/-- The front matter or the model's answer fits where it proceeds, and the model answers with an object where
    it is asked. -/
def Suits (registry : Registry) (input : TaskAnalysisInput) (reply : Replies) : Prop :=
  ∀ dept_defaults, extract_dept_defaults py input.dept_config = .ok dept_defaults →
    match workflow_of py input with
    | some (parsed,workflow_type) =>
      (front_matter_request parsed workflow_type).Proceeds → (front_matter_request parsed workflow_type).Fits dept_defaults
    | none =>
      is_epic_issue input = false → ∀ template, reply .load_prompt = .ok template → registry.llm_caller = true →
        ∃ raw_response fields, reply (.complete (render_prompt template input) input.dept_id) = .ok raw_response ∧
          JsonReader.loads py.recursion_limit (strip_markdown_fence raw_response) = .ok (.obj fields) ∧
          ∀ request, model_request fields = .ok request → request.Proceeds → request.Fits dept_defaults

variable {py}

theorem follows_front_matter (parsed : ParsedFrontMatter) (workflow_type : String) :
    Follows dept_defaults (front_matter_request parsed workflow_type)
      (result_from_frontmatter parsed workflow_type input dept_defaults) where
  workflow_type := rfl
  confidence := rfl
  number := by simp [front_matter_request]
  execution_command := rfl
  cleanup_policy := rfl
  timeout_seconds := rfl
  web_search := rfl
  status := rfl

theorem clamped_number (value : Binary64) : Binary64.pyMax (.finite 0) (Binary64.pyMin (.finite 1) value) ≠ .nan := by
  unfold Binary64.pyMax
  split
  · next below =>
    intro none_left
    rw [none_left] at below
    cases below
  · simp

theorem coerce_confidence_number {raw : Json} {confidence : Binary64} (coerced : coerce_confidence raw = .ok confidence) :
    confidence ≠ .nan := by
  have number : ∀ raw, coerce_number raw = .ok confidence → confidence ≠ .nan := by
    intro raw found
    unfold coerce_number at found
    split at found
    · obtain rfl := Except.ok.inj found
      exact clamped_number _
    · obtain rfl := Except.ok.inj found
      simp
    · obtain rfl := Except.ok.inj found
      simp
    · cases found
  unfold coerce_confidence at coerced
  split at coerced
  · split at coerced
    · next level named =>
      obtain rfl := Except.ok.inj coerced
      unfold CONFIDENCE_LEVELS at named
      split at named <;> first | cases named; decide +kernel | cases named
    · exact number _ coerced
  · exact number _ coerced

variable (dept_defaults) in
/-- The result of an answer follows what it asks for, and both are refused together. -/
theorem follows_model (raw_data : Fields) :
    (∃ raised, result_from_llm raw_data dept_defaults = .error raised ∧ model_request raw_data = .error raised) ∨
    (∃ result request, result_from_llm raw_data dept_defaults = .ok result ∧ model_request raw_data = .ok request ∧
      Follows dept_defaults request result) := by
  unfold result_from_llm model_request
  cases coerced : coerce_confidence ((raw_data.lookup "confidence").getD (.float "0.0")) with
  | error raised => exact .inl ⟨raised,rfl,rfl⟩
  | ok confidence =>
    cases given : timeout_of (raw_data.get "timeout_seconds") with
    | error raised => exact .inl ⟨raised,rfl,rfl⟩
    | ok timeout => exact .inr ⟨_,_,rfl,rfl,⟨rfl,rfl,coerce_confidence_number coerced,rfl,rfl,rfl,rfl,rfl⟩⟩

theorem web_search_flag {dept_config : Fields} (found : extract_dept_defaults py dept_config = .ok dept_defaults) :
    (dept_config.get "web_search_enabled").truthy = dept_defaults.web_search_enabled := by
  unfold extract_dept_defaults at found
  split at found
  · obtain rfl := Except.ok.inj found
    rfl
  · cases found

/-! ### The whole analysis -/

def outcome (py : Python) (registry : Registry) (input : TaskAnalysisInput) (reply : Replies) : Except Raised TaskAnalysisResult :=
  (exec (answering reply) (analyze_task py registry input) ()).1

theorem outcome_eq (found : extract_dept_defaults py input.dept_config = .ok dept_defaults) :
    outcome py registry input reply =
      match (exec (answering reply)
        (candidate py registry input dept_defaults (try_parse_frontmatter py input.description)) ()).1 with
      | .error raised => .error raised
      | .ok (true,result) => .ok result
      | .ok (false,result) => (exec (answering reply) (validate py registry input dept_defaults result) ()).1 := by
  have rest : ∀ p : Prog calls Raised (Bool × TaskAnalysisResult),
      (exec (answering reply) (p >>= fun found =>
        if found.1 then return found.2 else validate py registry input dept_defaults found.2) ()).1 =
      match (exec (answering reply) p ()).1 with
      | .error raised => .error raised
      | .ok (true,result) => .ok result
      | .ok (false,result) => (exec (answering reply) (validate py registry input dept_defaults result) ()).1 := by
    intro p
    rw [exec_bind]
    cases exec (answering reply) p () with
    | mk ended s =>
      cases ended with
      | error raised => rfl
      | ok found =>
        obtain ⟨final,result⟩ := found
        cases final <;> rfl
  rw [outcome,analyze_task,found]
  dsimp only
  split
  · rw [exec_post_bind]
    exact rest _
  · exact rest _

section
variable (found : extract_dept_defaults py input.dept_config = .ok dept_defaults)
include found

theorem outcome_front_matter {parsed : ParsedFrontMatter} {workflow_type : String}
    (given : workflow_of py input = some (parsed,workflow_type)) :
    outcome py registry input reply = (exec (answering reply) (validate py registry input dept_defaults
      (result_from_frontmatter parsed workflow_type input dept_defaults)) ()).1 := by
  rw [workflow_of] at given
  rw [outcome_eq found,candidate,given]
  rfl

variable (registry reply) in
theorem outcome_epic (none_given : workflow_of py input = none) (epic : is_epic_issue input = true) :
    outcome py registry input reply = .ok result_for_epic_needs_subtasks ∨
      outcome py registry input reply = .ok (result_for_epic_multi_step input) := by
  rw [workflow_of] at none_given
  rw [outcome_eq found,candidate,none_given]
  dsimp only
  rw [if_pos epic]
  cases (get_epic_subtasks input).isEmpty with
  | true =>
    rw [if_pos rfl,exec_post_bind]
    exact .inl rfl
  | false => exact .inr rfl

theorem outcome_model (none_given : workflow_of py input = none) (no_epic : is_epic_issue input = false) :
    outcome py registry input reply =
      match (exec (answering reply) (run_llm_analysis py registry input dept_defaults) ()).1 with
      | .error raised => .error raised
      | .ok result => (exec (answering reply) (validate py registry input dept_defaults result) ()).1 := by
  rw [workflow_of] at none_given
  rw [outcome_eq found,candidate,none_given]
  dsimp only
  rw [if_neg (by rw [no_epic]; decide),exec_bind]
  cases exec (answering reply) (run_llm_analysis py registry input dept_defaults) () with
  | mk ended s =>
    cases ended with
    | error raised => rfl
    | ok result => rfl

end

variable (py registry input dept_defaults reply) in
theorem validate_rejects (missing : result.workflow_type = none) :
    ∃ rejected, (exec (answering reply) (validate py registry input dept_defaults result) ()).1 = .ok rejected ∧
      rejected.status = .rejected := by
  have invalid : ∀ workflow_type ∈ VALID_WORKFLOW_TYPES, result.workflow_type ≠ some workflow_type := by simp [missing]
  obtain ⟨rejected,returned,status⟩ := exec_validate_invalid py registry input dept_defaults reply invalid
  exact ⟨rejected,by rw [returned],status⟩

/-! ### The model's part -/

/-- The analysis goes on to a result without a workflow type, or ends with an exception. -/
def Fruitless (ended : Except Raised TaskAnalysisResult) : Prop := ∀ result, ended = .ok result → result.workflow_type = none

theorem fruitless_raised (raised : Raised) : Fruitless (.error raised) := fun _ returned => by cases returned

theorem fruitless_ok (missing : result.workflow_type = none) : Fruitless (.ok result) := by
  intro other returned
  obtain rfl := Except.ok.inj returned
  exact missing

theorem run_llm_unasked (unasked : ∀ template, reply .load_prompt = .ok template → registry.llm_caller = false) :
    Fruitless (exec (answering reply) (run_llm_analysis py registry input dept_defaults) ()).1 := by
  rw [run_llm_analysis,command,exec_bind,exec_call,exec_ret]
  dsimp only [answering]
  cases prompt : reply .load_prompt with
  | error failure =>
    cases failure with
    | FileNotFoundError message => exact fruitless_ok rfl
    | other message => exact fruitless_raised _
  | ok template =>
    dsimp only
    rw [unasked template prompt]
    exact fruitless_raised _

variable (py registry input dept_defaults reply) in
/-- What the model is asked for comes to nothing, or to an object. -/
theorem run_llm_answer {template : String} (prompt : reply .load_prompt = .ok template) (caller : registry.llm_caller = true) :
    (ModelFails py (reply (.complete (render_prompt template input) input.dept_id)) ∧
      Fruitless (exec (answering reply) (run_llm_analysis py registry input dept_defaults) ()).1) ∨
    ∃ raw_response fields, reply (.complete (render_prompt template input) input.dept_id) = .ok raw_response ∧
      JsonReader.loads py.recursion_limit (strip_markdown_fence raw_response) = .ok (.obj fields) ∧
      (exec (answering reply) (run_llm_analysis py registry input dept_defaults) ()).1 = result_from_llm fields dept_defaults := by
  rw [run_llm_analysis,command,exec_bind,exec_call,exec_ret]
  dsimp only [answering]
  rw [prompt]
  dsimp only
  rw [caller,if_neg (by decide),command,exec_bind,exec_call,exec_ret]
  dsimp only [answering]
  cases completed : reply (.complete (render_prompt template input) input.dept_id) with
  | error exc => exact .inl ⟨trivial,fruitless_ok rfl⟩
  | ok raw_response =>
    dsimp only [parse_json_response]
    cases read : JsonReader.loads py.recursion_limit (strip_markdown_fence raw_response) with
    | error failure =>
      have fails : ModelFails py (.ok raw_response) := by
        intro fields returned
        rw [read] at returned
        cases returned
      refine .inl ⟨fails,?_⟩
      cases failure with
      | JSONDecodeError => exact fruitless_ok rfl
      | ValueError => exact fruitless_raised _
      | RecursionError => exact fruitless_raised _
    | ok parsed =>
      have no_object (apart : ∀ fields, parsed ≠ .obj fields) : ModelFails py (.ok raw_response) := by
        intro fields returned
        rw [read] at returned
        exact apart fields (Except.ok.inj returned)
      cases parsed with
      | obj fields =>
        refine .inr ⟨raw_response,fields,rfl,read,?_⟩
        dsimp only
        cases result_from_llm fields dept_defaults with
        | error raised => rfl
        | ok result => rfl
      | null => exact .inl ⟨no_object (by simp),fruitless_ok rfl⟩
      | bool b => exact .inl ⟨no_object (by simp),fruitless_ok rfl⟩
      | int n => exact .inl ⟨no_object (by simp),fruitless_ok rfl⟩
      | float text => exact .inl ⟨no_object (by simp),fruitless_ok rfl⟩
      | str text => exact .inl ⟨no_object (by simp),fruitless_ok rfl⟩
      | arr items => exact .inl ⟨no_object (by simp),fruitless_ok rfl⟩

theorem fruitless_outcome (found : extract_dept_defaults py input.dept_config = .ok dept_defaults)
    (none_given : workflow_of py input = none) (no_epic : is_epic_issue input = false)
    (fruitless : Fruitless (exec (answering reply) (run_llm_analysis py registry input dept_defaults) ()).1)
    (returned : outcome py registry input reply = .ok result) : result.status = .rejected := by
  rw [outcome_model found none_given no_epic] at returned
  cases ended : (exec (answering reply) (run_llm_analysis py registry input dept_defaults) ()).1 with
  | error raised =>
    rw [ended] at returned
    cases returned
  | ok found_result =>
    rw [ended] at returned
    obtain ⟨rejected,last,status⟩ := validate_rejects py registry input dept_defaults reply (fruitless found_result ended)
    rw [← Except.ok.inj (last.symm.trans returned)]
    exact status

/-! ### What is promised -/

theorem epic_ready (enabled : Bool) : Ready enabled (result_for_epic_multi_step input) := by
  have certain : CONFIDENCE_THRESHOLD.le (.finite 1) = true := by decide +kernel
  have policy : "on_success" ∈ VALID_CLEANUP_POLICIES := by decide
  refine ⟨⟨"multi_step",by decide,rfl⟩,certain,policy,trivial,?_,fun _ => ⟨rfl,?_⟩⟩
  · intro workflow_type execution named
    obtain rfl := Option.some.inj named
    exact absurd execution (by decide)
  · intro workflow_type web named
    obtain rfl := Option.some.inj named
    exact absurd web (by decide)

theorem meets_iff_ready (unfailing : ∀ template, Asked py registry input reply template →
      ¬ModelFails py (reply (.complete (render_prompt template input) input.dept_id)))
    {ended : Except Raised TaskAnalysisResult} :
    Meets py registry input reply ended ↔ ∀ result, ended = .ok result → result.status = .ready →
      Ready (input.dept_config.get "web_search_enabled").truthy result :=
  ⟨fun meets => meets.ready,fun ready => ⟨ready,fun template asked fails => absurd fails (unfailing template asked)⟩⟩

theorem validated_ready_iff (found : extract_dept_defaults py input.dept_config = .ok dept_defaults) {request : Request}
    (follows : Follows dept_defaults request result) :
    (∀ validated, (exec (answering reply) (validate py registry input dept_defaults result) ()).1 = .ok validated →
      validated.status = .ready → Ready (input.dept_config.get "web_search_enabled").truthy validated) ↔
    (request.Proceeds → request.Fits dept_defaults) := by
  obtain ⟨validated,returned,promise⟩ := validate_ready_iff py registry input reply follows
  rw [web_search_flag found,returned,← promise]
  constructor
  · exact fun each => each validated rfl
  · intro holds other same_result
    obtain rfl := Except.ok.inj same_result
    exact holds

section
variable (found : extract_dept_defaults py input.dept_config = .ok dept_defaults)
include found

theorem meets_front_matter_iff {parsed : ParsedFrontMatter} {workflow_type : String}
    (given : workflow_of py input = some (parsed,workflow_type)) :
    Meets py registry input reply (outcome py registry input reply) ↔
      ((front_matter_request parsed workflow_type).Proceeds → (front_matter_request parsed workflow_type).Fits dept_defaults) := by
  rw [outcome_front_matter found given,meets_iff_ready]
  · exact validated_ready_iff found (follows_front_matter parsed workflow_type)
  · intro template asked
    exact absurd (given.symm.trans asked.no_workflow) (by simp)

theorem meets_epic (none_given : workflow_of py input = none) (epic : is_epic_issue input = true) :
    Meets py registry input reply (outcome py registry input reply) := by
  rw [meets_iff_ready]
  · intro result returned ready
    rcases outcome_epic registry reply found none_given epic with waits | goes_on
    · rw [waits] at returned
      obtain rfl := Except.ok.inj returned
      cases ready
    · rw [goes_on] at returned
      obtain rfl := Except.ok.inj returned
      exact epic_ready _
  · exact fun template asked => absurd (asked.no_epic.symm.trans epic) Bool.false_ne_true

/-- Where the model is not asked there is nothing to promise. -/
theorem meets_unasked (none_given : workflow_of py input = none) (no_epic : is_epic_issue input = false)
    (unasked : ∀ template, reply .load_prompt = .ok template → registry.llm_caller = false) :
    Meets py registry input reply (outcome py registry input reply) := by
  rw [meets_iff_ready]
  · intro result returned ready
    have rejected := fruitless_outcome found none_given no_epic (run_llm_unasked unasked) returned
    rw [ready] at rejected
    cases rejected
  · exact fun template asked => absurd ((unasked template asked.prompt).symm.trans asked.caller) Bool.false_ne_true

theorem meets_answer_iff {raw_response : String} {fields : Fields} {template : String} (none_given : workflow_of py input = none)
    (no_epic : is_epic_issue input = false) (prompt : reply .load_prompt = .ok template)
    (answered : reply (.complete (render_prompt template input) input.dept_id) = .ok raw_response)
    (read : JsonReader.loads py.recursion_limit (strip_markdown_fence raw_response) = .ok (.obj fields))
    (ended : (exec (answering reply) (run_llm_analysis py registry input dept_defaults) ()).1 = result_from_llm fields dept_defaults) :
    Meets py registry input reply (outcome py registry input reply) ↔
      ∀ request, model_request fields = .ok request → request.Proceeds → request.Fits dept_defaults := by
  rw [meets_iff_ready,outcome_model found none_given no_epic,ended]
  · rcases follows_model dept_defaults fields with
      ⟨raised,refused,none_asked⟩ | ⟨result,request,made,asks,follows⟩
    · rw [refused]
      refine ⟨fun _ request asks => ?_,fun _ result returned => by cases returned⟩
      rw [none_asked] at asks
      cases asks
    · rw [made]
      refine (validated_ready_iff found follows).trans ⟨fun fits other same_request => ?_,fun each => each request asks⟩
      obtain rfl := Except.ok.inj (asks.symm.trans same_request)
      exact fits
  · intro other again
    obtain rfl := Except.ok.inj (prompt.symm.trans again.prompt)
    rw [answered]
    exact fun fails => fails fields read

end

/-- Which inputs and replies lead to a result that is as promised. -/
theorem analyze_task_meets_iff (py : Python) (registry : Registry) (input : TaskAnalysisInput) (reply : Replies) :
    Meets py registry input reply (outcome py registry input reply) ↔ Suits py registry input reply := by
  unfold Suits
  cases found : extract_dept_defaults py input.dept_config with
  | error raised =>
    have raises : outcome py registry input reply = .error raised := by
      rw [outcome,analyze_task,found]
      rfl
    refine ⟨fun _ other extracted => absurd extracted (by simp),fun _ => ⟨?_,?_⟩⟩
    · intro result returned
      rw [raises] at returned
      cases returned
    · rintro template ⟨⟨defaults,extracted⟩,-⟩
      rw [found] at extracted
      cases extracted
  | ok dept_defaults =>
    have only {p : DeptDefaults → Prop} :
        (∀ other, Except.ok dept_defaults = (.ok other : Except Raised DeptDefaults) → p other) ↔ p dept_defaults := by
      refine ⟨fun each => each _ rfl,fun holds other same_defaults => ?_⟩
      obtain rfl := Except.ok.inj same_defaults
      exact holds
    rw [only]
    cases given : workflow_of py input with
    | some both => exact meets_front_matter_iff found given
    | none =>
      dsimp only
      cases epic : is_epic_issue input with
      | true => exact ⟨fun _ no_epic => absurd no_epic.symm Bool.false_ne_true,fun _ => meets_epic found given epic⟩
      | false =>
        by_cases asked : ∃ template, reply .load_prompt = .ok template ∧ registry.llm_caller = true
        · obtain ⟨template,prompt,caller⟩ := asked
          rcases run_llm_answer py registry input dept_defaults reply prompt caller with ⟨fails,fruitless⟩ | ⟨raw_response,fields,answered,read,ended⟩
          · constructor
            · intro meets
              obtain ⟨result,returned,asks⟩ := meets.fallback template ⟨⟨dept_defaults,found⟩,given,epic,prompt,caller⟩ fails
              rw [fruitless_outcome found given epic fruitless returned] at asks
              cases asks
            · intro suits
              obtain ⟨raw_response,fields,answered,read,-⟩ := suits rfl template prompt caller
              rw [answered] at fails
              exact absurd read (fails fields)
          · rw [meets_answer_iff found given epic prompt answered read ended]
            constructor
            · intro fits _ other loaded _
              obtain rfl := Except.ok.inj (prompt.symm.trans loaded)
              exact ⟨raw_response,fields,answered,read,fits⟩
            · intro suits
              obtain ⟨raw,others,again,object,fits⟩ := suits rfl template prompt caller
              obtain rfl := Except.ok.inj (answered.symm.trans again)
              obtain rfl := Json.obj.inj (Except.ok.inj (read.symm.trans object))
              exact fits
        · have unasked : ∀ template, reply .load_prompt = .ok template → registry.llm_caller = false := by
            intro template prompt
            cases caller : registry.llm_caller with
            | false => rfl
            | true => exact absurd ⟨template,prompt,caller⟩ asked
          refine ⟨fun _ _ template prompt caller => absurd ⟨template,prompt,caller⟩ asked,fun _ => ?_⟩
          exact meets_unasked found given epic unasked

end
/-! ### A model that does not answer -/

/-- An interpreter without the YAML package. -/
def interpreter : Python where
  recursion_limit := 1000
  parser := ⟨fun text => "'" ++ text ++ "'"⟩
  str := fun _ => ""
  decode_error := fun _ => "Expecting value: line 1 column 1 (char 0)"
  yaml := none

def worker : Registry := { llm_caller := true,jira_commenter := true }

def login_task : TaskAnalysisInput where
  issue_key := "PAY-7"
  title := "Login"
  description := "Fix the login page"
  labels := []
  custom_fields := []
  dept_id := "payments"
  dept_config := []
  trace_id := ""
  issue_meta := []

/-- The call to the model times out. -/
def silent : Replies
  | .load_prompt => .ok "Analyse the task."
  | .complete .. => .error "timed out"
  | .add_comment .. => .ok ()

theorem silent_model_rejected : ¬Meets interpreter worker login_task silent (outcome interpreter worker login_task silent) := by
  intro meets
  have defaults : extract_dept_defaults interpreter login_task.dept_config =
      .ok { web_search_enabled := false,cleanup_policy := "on_success",default_timeout_seconds := .null } := rfl
  have no_workflow : workflow_of interpreter login_task = none := by
    rw [workflow_of,try_parse_frontmatter,parse_description_frontmatter]
    cases (some login_task.description).bind FrontMatter.extract_front_matter_body <;> rfl
  obtain ⟨result,returned,asks⟩ := meets.fallback "Analyse the task." ⟨⟨_,defaults⟩,no_workflow,rfl,rfl,rfl⟩ trivial
  rcases run_llm_answer interpreter worker login_task
    { web_search_enabled := false,cleanup_policy := "on_success",default_timeout_seconds := .null } silent rfl rfl with ⟨-,fruitless⟩ | ⟨raw_response,fields,answered,-⟩
  · rw [fruitless_outcome defaults no_workflow rfl fruitless returned] at asks
    cases asks
  · cases answered

end Automation.TaskAnalyzer
