import Automation.BranchRules
import Automation.NeedsInfo

/-!
`AutomationWorkflow.run`, the gateway. It analyses a task, refuses it where a capability is
missing or a rule of the department denies its branch, and dispatches it to a child
workflow. It awaits the child of a smoke test, and of a command whose output is published;
every other child is abandoned. Whatever becomes of the child, the result of the gateway
is that it was dispatched.
-/
namespace Automation.Gateway
open Automation.Effects Automation.Coroutine Automation.PyText Automation.Regex
open Automation.AgentMessages (LlmAnalysisResult OutputAction OutputActionKind AgentRunnerWorkflowInput)
open Automation.NeedsInfo (AutomationState TaskAnalysisResult DescriptionOverride)

structure AutomationWorkflowInput extends NeedsInfo.AutomationWorkflowInput where
  available_capabilities : List String
  available_repos : List String
  available_spaces : List String
  default_language : String
  iteration : Int
  trace_id : String
  notify_on_success : Bool
  notify_channels : List String
  slack_webhook : Option String
  notify_email : Option String

structure AutomationWorkflowOutput where
  decision : String
  workflow_type : Option String
  child_workflow_id : Option String
  summary : String
  failure_reason : Option String
  missing_capabilities : List String

structure AutomationStop extends NeedsInfo.AutomationStop where
  missing_capabilities : List String

inductive Confidence where
  | high
  | medium
  | low
  deriving DecidableEq

/-- The analysis that the gates read; the child gets the part it declares. -/
structure Analysis extends LlmAnalysisResult where
  workflow_type : String
  confidence : Confidence
  needs_info_questions : List String

structure ChildWorkflowSpec where
  workflow_name : String
  workflow_id : String
  task_queue : String
  parent_close_policy : String

structure ExecutionRunWorkflowInput where
  parent_workflow_id : String
  command : String
  workdir : Option String
  environment : List (String × String)
  artifact_minio_prefix : String
  department_id : String
  workflow_type : String
  start_to_close_timeout : Option Int
  trace_id : String
  needs_docker : Bool
  docker_image_tag : Option String
  docker_dockerfile_path : Option String

inductive ChildInput where
  | agent_runner (inp : AgentRunnerWorkflowInput)
  | execution_run (inp : ExecutionRunWorkflowInput)

/-- An action of the executor, by the value of its `ActionType`. -/
structure ExecutorOutputAction where
  type : String
  params : List (String × Json)
  index : Nat

structure ExecutionBatchInput where
  actions : List ExecutorOutputAction
  issue_key : String
  dept_id : String
  workflow_id : String

structure DispatchNotificationInput where
  workflow_id : String
  dept_id : String
  notify_on_success : Bool
  notify_channels : List String
  slack_webhook : Option String
  notify_email : Option String
  status : String
  summary : String
  error : Option String

/-- `hundredths / 100 <= float`, for the `repr` of the float: it has an exponent below
    `1e-4` and from `1e16` on. -/
def atLeast (hundredths : Nat) (text : String) : Bool :=
  if text = "nan" ∨ text.toList.head? = some '-' then false
  else if text = "inf" then true
  else
    match splitAt 'e' text.toList with
    | [digits] =>
      match splitAt '.' digits with
      | [whole,fraction] => hundredths * 10 ^ fraction.length ≤ natOfDigits (whole ++ fraction) * 100
      | _ => hundredths ≤ natOfDigits digits * 100
    | [_,exponent] => exponent.head? ≠ some '-'
    | _ => false

def confidence_literal (confidence : String) : Confidence :=
  if atLeast 85 confidence then .high else if atLeast 70 confidence then .medium else .low

def output_action_kind (kind : String) : Option OutputActionKind :=
  match kind with
  | "jira_comment" => some .jira_comment
  | "jira_attachment" => some .jira_attachment
  | "bitbucket_commit" => some .bitbucket_commit
  | "bitbucket_create_pr" => some .bitbucket_create_pr
  | "confluence_create_page" => some .confluence_create_page
  | "confluence_update_page" => some .confluence_update_page
  | "jira_transition" => some .jira_transition
  | "slack_notify" => some .slack_notify
  | "email_notify" => some .email_notify
  | _ => none

/-- An action of unknown kind is left out. -/
def bridged_action (raw : Json) : Option OutputAction :=
  match raw.get "type" with
  | .str kind =>
    if kind = "" then none
    else (output_action_kind (NeedsInfo.alias_map (NeedsInfo.alias_map kind))).map fun kind =>
      { kind, payload := NeedsInfo.param_pairs (raw.get "params") }
  | _ => none

def to_llm_analysis_result (analysis : TaskAnalysisResult) : Analysis where
  workflow_type := analysis.workflow_type.getD ""
  confidence := confidence_literal analysis.confidence
  target_repo := analysis.repo
  target_branch := analysis.branch
  target_space := none
  target_page_id := none
  title := ""
  rationale := analysis.reasoning
  output_actions := analysis.output_actions.filterMap bridged_action
  needs_info_questions := analysis.missing_fields
  needs_docker := analysis.needs_docker
  execution_command := analysis.execution_command

def WORKFLOW_TYPE_CAPABILITIES (workflow_type : String) : Option (List String) :=
  match workflow_type with
  | "code_change_with_test" => some ["jira_read","jira_write","bitbucket_read","bitbucket_write","execution"]
  | "code_change_commit_only" => some ["jira_read","jira_write","bitbucket_read","bitbucket_write"]
  | "pr_review" => some ["jira_read","jira_write","bitbucket_read"]
  | "confluence_doc_create" => some ["jira_read","jira_write","confluence_read","confluence_write"]
  | "confluence_doc_update" => some ["jira_read","jira_write","confluence_read","confluence_write"]
  | "research_basic" => some ["jira_read","jira_write"]
  | "research_with_web" => some ["jira_read","jira_write","web_search"]
  | "multi_step" => some ["jira_read","jira_write"]
  | "noop_test" => some ["jira_read"]
  | "remote_ssh_test_only" => some ["jira_read","execution"]
  | "script_execute" => some ["jira_read","jira_write","execution"]
  | "research_publish_confluence" => some ["jira_read","jira_write","confluence_read","confluence_write","web_search"]
  | "research_summary_jira" => some ["jira_read","jira_write"]
  | _ => none

def collapse_capability (cap : String) : String :=
  match cap with
  | "jira_read" => "jira"
  | "jira_write" => "jira"
  | "bitbucket_read" => "bitbucket"
  | "bitbucket_write" => "bitbucket"
  | "confluence_read" => "confluence"
  | "confluence_write" => "confluence"
  | cap => cap

def required_capabilities (workflow_type : String) : Option (List String) :=
  (WORKFLOW_TYPE_CAPABILITIES workflow_type).map fun split => (split.map collapse_capability).eraseDups

/-- Sorted, as the gateway uses them. -/
def missing_capabilities (required available : List String) : List String :=
  (required.filter fun cap => !available.contains cap).mergeSort fun a b => decide (a ≤ b)

def format_ack_comment : String := " Task alındı, otomasyon hattı analiz ediyor..."

def format_missing_caps_comment (workflow_type : String) (missing : List String) : String :=
  " Eksik capability - '" ++ workflow_type ++ "' iş akışı için şu servis(ler) tanımlı değil: " ++
    ", ".intercalate missing ++ ". Lütfen departman bot kimlik bilgilerini tamamladıktan sonra görevi tekrar atayın."

def format_unknown_workflow_type_comment (workflow_type : String) : String :=
  " Bilinmeyen workflow_type '" ++ workflow_type ++ "'. Görev otomasyon hattı tarafından reddedildi."

def format_branch_rule_denied_comment (workflow_type branch : String) (decision : BranchRules.RouteDecision) : String :=
  " '" ++ branch ++ "' branch'i üzerinde '" ++ workflow_type ++ "' iş akışına izin verilmiyor (kural: " ++
    AgentMessages.orText (AgentMessages.orEmpty decision.matched_glob) "?" ++ ", sebep: " ++ decision.reason ++
    "). Lütfen branch'ı veya iş akışını gözden geçirin."

def format_needs_info_comment (questions : List String) : String :=
  let bullets := "\n".intercalate ((questions.filter (· ≠ "")).map fun question => "• " ++ question)
  let body := if questions.isEmpty then "• Lütfen görevle ilgili eksik detayları belirtin."
    else AgentMessages.orText bullets "• (eksik bilgi belirtilmedi)"
  " Görevi başlatabilmem için aşağıdaki bilgilere ihtiyacım var:\n\n" ++ body ++
    "\n\nLütfen bu yorumun altına bilgileri yazın; otomatik olarak yakalanıp analiz edilecektir."

inductive Call where
  | analysis (c : NeedsInfo.Call)
  | llm_analyze_task (inp : AutomationWorkflowInput)
  | load_branch_pattern_rules (department_id : String)
  | start_child_workflow (spec : ChildWorkflowSpec) (child : ChildInput)
  | child_handle (workflow_id : String)
  | noop_test_post_result (issue_key department_id stdout : String) (exit_code : Option Int)
  | execute_output_actions (batch : ExecutionBatchInput)
  | dispatch_notification (notification : DispatchNotificationInput)

/-- What an activity or a child gives back. -/
inductive Payload where
  | analysis (payload : NeedsInfo.Payload)
  | llm (analysis : Analysis)
  | value (value : Json)

@[reducible] def gateway (repr : Json → String) : Workflow where
  Self := AutomationState
  Signal := Json
  Call := Call
  Reply := Except String Payload
  receive comment_body := NeedsInfo.info_received (NeedsInfo.comment_text repr comment_body)

def analysisReply : Except String Payload → Except String NeedsInfo.Payload
  | .ok (.analysis payload) => .ok payload
  | .ok _ => .error "Failed decoding arguments"
  | .error exc => .error exc

/-- The steps of the analyser are steps of the gateway. -/
def analyserEmbedding (repr : Json → String) :
    Embedding (acts (NeedsInfo.automation repr)) (acts (gateway repr)) where
  cmd
    | .look => .look
    | .modify f => .modify f
    | .clock => .clock
    | .await c => .await (.analysis c)
    | .wait ready => .wait ready
  back
    | .look, r => r
    | .modify _, r => r
    | .clock, r => r
    | .await _, r => analysisReply r
    | .wait _, r => r

structure Context where
  workflow_id : String
  runners_installed : Bool
  repr : Json → String

section
variable (ctx : Context)

abbrev Gate : Type → Type := Prog (acts (gateway ctx.repr)) Empty

def act (c : Act (gateway ctx.repr)) : Gate ctx ((acts (gateway ctx.repr)).Res c) :=
  command (S := acts (gateway ctx.repr)) c

def best_effort (c : Call) : Gate ctx Unit := do
  let _ ← act ctx (.await c)
  return ()

def best_effort_jira_comment (issue_key body department_id : String) : Gate ctx Unit :=
  if body = "" then pure () else best_effort ctx (.analysis (.jira_add_comment issue_key body department_id))

def best_effort_jira_transition (issue_key target_status department_id : String) : Gate ctx Unit :=
  best_effort ctx (.analysis (.jira_transition_issue issue_key target_status department_id))

variable (inp : AutomationWorkflowInput)

def stop_with_audit (decision : String) (workflow_type : Option String) (failure_reason summary jira_message : String)
    (missing_capabilities : List String) : Gate ctx AutomationStop := do
  best_effort ctx (.analysis (.audit_write (.obj [("action",.str ("automation_" ++ decision)),
    ("actor_role",.str "system"),("department_id",.str inp.department_id),("issue_key",.str inp.issue_key),
    ("workflow_type",.ofOption workflow_type),("failure_reason",.str failure_reason),("summary",.str summary),
    ("missing_capabilities",.arr (missing_capabilities.map .str))])))
  best_effort_jira_comment ctx inp.issue_key jira_message inp.department_id
  return { decision, workflow_type, summary, failure_reason, missing_capabilities }

def dispatch_notification (status summary : String) (error : Option String) : Gate ctx Unit :=
  best_effort ctx (.dispatch_notification
    { workflow_id := ctx.workflow_id, dept_id := inp.department_id, notify_on_success := inp.notify_on_success
      notify_channels := inp.notify_channels, slack_webhook := inp.slack_webhook, notify_email := inp.notify_email
      status, summary, error })

def stop_to_output (stop : AutomationStop) : AutomationWorkflowOutput where
  decision := stop.decision
  workflow_type := stop.workflow_type
  child_workflow_id := none
  summary := stop.summary
  failure_reason := some stop.failure_reason
  missing_capabilities := stop.missing_capabilities

def finalize_stop (stop : AutomationStop) : Gate ctx AutomationWorkflowOutput := do
  dispatch_notification ctx inp "failed" stop.summary (some stop.failure_reason)
  return stop_to_output stop

def Analysis.asks (analysis : Analysis) : Bool :=
  analysis.confidence = .low && !analysis.needs_info_questions.isEmpty

def decode_analysis : Except String Payload → Except String Analysis
  | .ok (.llm analysis) => .ok analysis
  | .ok _ => .error "Failed decoding arguments"
  | .error exc => .error exc

def parked_row (iteration : Nat) (analysis : Analysis) : Json :=
  .obj [("action",.str "automation_needs_info_parked"),("actor_role",.str "system"),
    ("department_id",.str inp.department_id),("issue_key",.str inp.issue_key),
    ("workflow_type",.str analysis.workflow_type),("iteration",.int (iteration + 1)),
    ("questions",.arr (analysis.needs_info_questions.map .str))]

/-- One pass: the question, the wait, and the analysis of the answer. -/
def needs_info_round (iteration : Nat) (analysis : Analysis) : Gate ctx (Except AutomationStop Analysis) := do
  best_effort_jira_comment ctx inp.issue_key (format_needs_info_comment analysis.needs_info_questions) inp.department_id
  best_effort_jira_transition ctx inp.issue_key "needs_info" inp.department_id
  best_effort ctx (.analysis (.audit_write (parked_row inp iteration analysis)))
  act ctx (.modify NeedsInfo.reset_info)
  if ← act ctx (.wait fun self => (self.info_received,self)) then
    let reply ← act ctx (.await (.llm_analyze_task inp))
    match decode_analysis reply with
    | .ok next_analysis => return .ok next_analysis
    | .error exc =>
      let stop ← stop_with_audit ctx inp "failed" (some analysis.workflow_type) "task_analysis_failed"
        ("needs_info re-analysis failed: " ++ exc) (NeedsInfo.format_analysis_failed_comment exc) []
      return .error stop
  else
    best_effort_jira_transition ctx inp.issue_key "stale" inp.department_id
    let stop ← stop_with_audit ctx inp "failed" (some analysis.workflow_type) "needs_info_timeout"
      ("needs_info timed out after 24h - issue marked stale (iteration " ++ toString (iteration + 1) ++ ")")
      NeedsInfo.format_needs_info_timeout_comment []
    return .error stop

/-- The loop with `remaining` passes to go. -/
def needs_info_loop (remaining : Nat) (analysis : Analysis) : Gate ctx (Except AutomationStop Analysis) :=
  match remaining with
  | 0 => do
    let stop ← stop_with_audit ctx inp "failed" (some analysis.workflow_type) "loop_cap_reached"
      ("needs_info loop cap reached after " ++ toString NeedsInfo.needs_info_max_iterations ++ " iterations")
      NeedsInfo.format_needs_info_loop_cap_comment []
    return .error stop
  | remaining + 1 => do
    match ← needs_info_round ctx inp (NeedsInfo.needs_info_max_iterations - (remaining + 1)) analysis with
    | .error stop => return .error stop
    | .ok next_analysis =>
      if next_analysis.asks then needs_info_loop remaining next_analysis else return .ok next_analysis

def handle_needs_info_loop (analysis : Analysis) : Gate ctx (Except AutomationStop Analysis) :=
  if analysis.asks then needs_info_loop ctx inp NeedsInfo.needs_info_max_iterations analysis else pure (.ok analysis)

def capability_gate (workflow_type : String) : Gate ctx (Option AutomationStop) := do
  match required_capabilities workflow_type with
  | none =>
    if (WORKFLOW_TYPE_CAPABILITIES workflow_type).isSome then
      let stop ← stop_with_audit ctx inp "failed" (some workflow_type) "capability_table_inconsistency"
        ("workflow_type " ++ ctx.repr (.str workflow_type) ++ " present in WORKFLOW_TYPE_CAPABILITIES but rejected by " ++
          "required_capabilities - table inconsistency.")
        (NeedsInfo.format_analysis_failed_comment "iç tutarsızlık - operatöre bildirildi") []
      return some stop
    else
      let stop ← stop_with_audit ctx inp "denied" (some workflow_type) "unknown_workflow_type"
        ("unknown workflow_type " ++ ctx.repr (.str workflow_type))
        (format_unknown_workflow_type_comment workflow_type) []
      return some stop
  | some required =>
    let missing := missing_capabilities required inp.available_capabilities
    if missing.isEmpty then return none
    else
      let stop ← stop_with_audit ctx inp "denied" (some workflow_type) "missing_capability"
        ("missing capabilities for " ++ workflow_type ++ ": " ++ ", ".intercalate missing)
        (format_missing_caps_comment workflow_type missing) missing
      return some stop

def BRANCH_AWARE_WORKFLOW_TYPES : List String := ["code_change_with_test","code_change_commit_only","pr_review"]

/-- The rules that the reply of `load_branch_pattern_rules` gives. -/
def rules_of (reply : Except String Payload) : List BranchRules.BranchPatternRule :=
  match reply with
  | .ok (.value loaded) => BranchRules.coerce_rules ctx.repr loaded
  | _ => BranchRules.DEFAULT_BRANCH_PATTERN_RULES

def evaluate_branch_pattern_rules (branch workflow_type : String) : Gate ctx BranchRules.RouteDecision := do
  let reply ← act ctx (.await (.load_branch_pattern_rules inp.department_id))
  return BranchRules.route_by_branch_pattern branch workflow_type (rules_of ctx reply)

/-- The branch is read, and the rule is asked, only where the type works on a branch. -/
def branch_gate (analysis : Analysis) : Gate ctx (Option AutomationStop) := do
  let workflow_type := analysis.workflow_type
  let branch := AgentMessages.orEmpty analysis.target_branch
  if workflow_type ∈ BRANCH_AWARE_WORKFLOW_TYPES ∧ branch ≠ "" then
    let decision ← evaluate_branch_pattern_rules ctx inp branch workflow_type
    if decision.allowed then return none
    else
      let stop ← stop_with_audit ctx inp "out_of_scope" (some workflow_type) "branch_rule_denied"
        ("branch_pattern_rules denied " ++ workflow_type ++ " on " ++ branch ++ ": " ++ decision.reason)
        (format_branch_rule_denied_comment workflow_type branch decision) []
      return some stop
  else return none

def EXECUTION_RUN_WORKFLOW_TYPES : List String := ["remote_ssh_test_only","noop_test","script_execute"]

/-- The children whose result the gateway awaits. -/
def awaits_child (analysis : Analysis) : Bool :=
  analysis.workflow_type = "noop_test" ||
    ((analysis.workflow_type = "remote_ssh_test_only" || analysis.workflow_type = "script_execute") &&
      !analysis.output_actions.isEmpty)

/-- Every other type is the agent's. -/
def build_child_spec (analysis : Analysis) : ChildWorkflowSpec :=
  let workflow_name := if analysis.workflow_type ∈ EXECUTION_RUN_WORKFLOW_TYPES then "ExecutionRunWorkflow"
    else "AgentRunnerWorkflow"
  { workflow_name
    workflow_id := workflow_name ++ "-" ++ ctx.workflow_id ++ "-iter-1"
    task_queue := if workflow_name = "ExecutionRunWorkflow" then "execution-runner-tq" else "agent-runner-tq"
    parent_close_policy := if awaits_child analysis then "TERMINATE" else "ABANDON" }

/-- `first or second` for optional strings. -/
def orOption (first second : Option String) : Option String :=
  if AgentMessages.orEmpty first = "" then second else first

/-- `^[A-Z][A-Z0-9_]*-\d+$`. -/
def ISSUE_KEY_PATTERN : Pattern :=
  concat [.one AgentMessages.isUpperAscii,.star (.one fun c => AgentMessages.isUpperAscii c || c.isDigit || c == '_'),
    .one (· == '-'),plus (.one isDecimal)]

/-- `none` where it raises, or the package is not installed. -/
def build_workspace_path (issue_key : String) (iter_n : Int) : Option String :=
  if ctx.runners_installed ∧ run ISSUE_KEY_PATTERN List.isEmpty issue_key.toList ∧ 0 ≤ iter_n ∧ iter_n ≤ 999 then
    some ("/var/ai-runner/" ++ issue_key ++ "/iter-" ++ toString iter_n)
  else none

/-- `execution_artifact_key(issue_key, "").rstrip("/")`. -/
def execution_artifact_prefix (issue_key : String) : String :=
  .ofList (("executions/" ++ issue_key ++ "/").toList.reverse.dropWhile (· == '/')).reverse

def execution_command (analysis : Analysis) (override : DescriptionOverride) : String :=
  if analysis.workflow_type = "noop_test" then "echo \"noop_test ok: " ++ inp.issue_key ++ "\""
  else AgentMessages.orEmpty (orOption analysis.execution_command override.execution_command)

def child_args (analysis : Analysis) (override : DescriptionOverride) : ChildInput :=
  let target_repo := orOption override.target_repo analysis.target_repo
  let target_branch := orOption override.target_branch analysis.target_branch
  if (build_child_spec ctx analysis).workflow_name = "AgentRunnerWorkflow" then
    .agent_runner
      { issue_key := inp.issue_key, department_id := inp.department_id, workflow_type := analysis.workflow_type
        analysis := analysis.toLlmAnalysisResult, target_repo, target_branch, iteration := inp.iteration, max_iter := 5
        default_language := inp.default_language, trace_id := inp.trace_id
        available_capabilities := inp.available_capabilities, available_repos := inp.available_repos
        available_spaces := inp.available_spaces }
  else
    .execution_run
      { parent_workflow_id := inp.issue_key
        command := execution_command inp analysis override
        workdir := build_workspace_path ctx inp.issue_key inp.iteration
        environment := [("CLEANUP_POLICY",AgentMessages.orText (AgentMessages.orEmpty override.cleanup_policy) "on_success")]
        artifact_minio_prefix := execution_artifact_prefix inp.issue_key
        department_id := inp.department_id
        workflow_type := analysis.workflow_type
        start_to_close_timeout := override.timeout_seconds
        trace_id := inp.trace_id
        needs_docker := analysis.needs_docker
        docker_image_tag := if analysis.needs_docker then
          some ("ai-bot-" ++ lower inp.issue_key ++ "-iter-" ++ toString inp.iteration ++ ":latest") else none
        docker_dockerfile_path := if analysis.needs_docker then some "Dockerfile" else none }

def extract_noop_stdout (result : Json) : String :=
  match result.get "stdout", result.get "stdout_uri" with
  | .str stdout, _ => stdout
  | _, .str stdout_uri => stdout_uri
  | _, _ => ""

/-- A `bool` is an `int`. -/
def extract_noop_exit_code (result : Json) : Option Int :=
  match result.get "exit_code" with
  | .int exit_code => some exit_code
  | .bool exit_code => some (if exit_code then 1 else 0)
  | _ => none

/-- `child_handle` gives a value, or raises. -/
def await_child (workflow_id : String) : Gate ctx (Option Json) := do
  match ← act ctx (.await (.child_handle workflow_id)) with
  | .ok (.value result) => return some result
  | .ok _ => return some .null
  | .error _ => return none

def await_noop_test_and_post_result (workflow_id : String) : Gate ctx Unit := do
  match ← await_child ctx workflow_id with
  | none => return ()
  | some result => best_effort ctx (.noop_test_post_result inp.issue_key inp.department_id (extract_noop_stdout result)
      (extract_noop_exit_code result))

def split_minio_uri (uri : Option String) (fallback_key : String) : String × String :=
  match uri with
  | none => ("ai-runs",fallback_key)
  | some uri =>
    let raw := if hasPrefix uri "s3://" then uri.toList.drop 5 else uri.toList
    match splitAt '/' (stripBy (· == '/') (stripBy isSpace raw)) with
    | bucket :: part :: parts =>
      let key := List.dropWhile (· == '/') (List.intercalate ['/'] (part :: parts))
      (AgentMessages.orText (String.ofList bucket) "ai-runs",AgentMessages.orText (String.ofList key) fallback_key)
    | _ => ("ai-runs",fallback_key)

/-- `none` where it raises. -/
def kind_to_action_type : OutputActionKind → Option String
  | .jira_comment => some "jira_comment"
  | .jira_attachment => some "jira_attachment"
  | .bitbucket_commit => some "bitbucket_commit"
  | .bitbucket_create_pr => some "bitbucket_pr"
  | .confluence_create_page => some "confluence_page"
  | .confluence_update_page => some "confluence_page"
  | .jira_transition => some "jira_transition"
  | _ => none

/-- `params.setdefault(key, value)`. -/
def setdefault (key : String) (value : Json) (params : List (String × Json)) : List (String × Json) :=
  if (params.lookup key).isSome then params else params ++ [(key,value)]

/-- `params[key] = value`. -/
def setItem (key : String) (value : Json) (params : List (String × Json)) : List (String × Json) :=
  if (params.lookup key).isSome then params.map fun entry => if entry.1 = key then (key,value) else entry
  else params ++ [(key,value)]

/-- An attachment without a source of its own gets the captured output. -/
def attachment_params (child_workflow_id : String) (result : Json) (params : List (String × Json)) : List (String × Json) :=
  if (params.lookup "file_path").isSome ∨ (params.lookup "key").isSome then params
  else
    let requested := ((params.lookup "key_name").map (Json.pyStr ctx.repr)).getD "stdout.log"
    let (bucket,key) := if hasPrefix requested "stderr" then
        split_minio_uri (result.get "stderr_uri").asStr ("executions/" ++ child_workflow_id ++ "/stderr.log")
      else split_minio_uri (result.get "stdout_uri").asStr ("executions/" ++ child_workflow_id ++ "/stdout.log")
    setdefault "file_name" (.str requested) (setItem "key" (.str key) (setItem "bucket" (.str bucket) params))

def executor_action (child_workflow_id : String) (result : Json) (action : OutputAction) (index : Nat) :
    Option ExecutorOutputAction :=
  (kind_to_action_type action.kind).map fun type =>
    let given := action.payload.filter fun entry => entry.1 ≠ ""
    let params := setdefault "dept_id" (.str inp.department_id) (setdefault "issue_key" (.str inp.issue_key) given)
    { type, index, params := if type = "jira_attachment" then attachment_params ctx child_workflow_id result params else params }

/-- A child that failed has no result, and its output is published all the same. -/
def await_execution_run_and_publish_results (child_workflow_id : String) (actions : List OutputAction) : Gate ctx Unit := do
  let result := (← await_child ctx child_workflow_id).getD .null
  let executor_actions := actions.zipIdx.filterMap fun (action,index) =>
    executor_action ctx inp child_workflow_id result action index
  if executor_actions.isEmpty then return ()
  else best_effort ctx (.execute_output_actions { actions := executor_actions, issue_key := inp.issue_key
                                                  dept_id := inp.department_id, workflow_id := child_workflow_id })

def child_dispatch_failed (workflow_type exc : String) : Gate ctx AutomationWorkflowOutput := do
  let stop ← stop_with_audit ctx inp "failed" (some workflow_type) "child_dispatch_failed"
    ("start_child_workflow failed: " ++ exc)
    (NeedsInfo.format_analysis_failed_comment ("alt iş akışı başlatılamadı: " ++ exc)) []
  finalize_stop ctx inp stop

/-- What the gateway does for the children it awaits. -/
def follow_child (analysis : Analysis) : Gate ctx Unit :=
  let child_workflow_id := (build_child_spec ctx analysis).workflow_id
  if analysis.workflow_type = "noop_test" then await_noop_test_and_post_result ctx inp child_workflow_id
  else if (analysis.workflow_type = "remote_ssh_test_only" ∨ analysis.workflow_type = "script_execute") ∧
      analysis.output_actions.isEmpty = false then
    await_execution_run_and_publish_results ctx inp child_workflow_id analysis.output_actions
  else pure ()

def dispatch (analysis : Analysis) (override : DescriptionOverride) : Gate ctx AutomationWorkflowOutput := do
  let spec := build_child_spec ctx analysis
  match ← act ctx (.await (.start_child_workflow spec (child_args ctx inp analysis override))) with
  | .error exc => child_dispatch_failed ctx inp analysis.workflow_type exc
  | .ok _ =>
    follow_child ctx inp analysis
    let summary := "Dispatched " ++ spec.workflow_name ++ " (" ++ analysis.workflow_type ++ ") for " ++ inp.issue_key
    dispatch_notification ctx inp "completed" summary none
    return { decision := "dispatched", workflow_type := some analysis.workflow_type
             child_workflow_id := some spec.workflow_id, summary, failure_reason := none, missing_capabilities := [] }

/-- The gates in their order, and the dispatch. -/
def gated_dispatch (analysis : Analysis) (override : DescriptionOverride) : Gate ctx AutomationWorkflowOutput := do
  match ← capability_gate ctx inp analysis.workflow_type with
  | some stop => finalize_stop ctx inp stop
  | none =>
    match ← branch_gate ctx inp analysis with
    | some stop => finalize_stop ctx inp stop
    | none => dispatch ctx inp analysis override

def run : Gate ctx AutomationWorkflowOutput := do
  best_effort_jira_comment ctx inp.issue_key format_ack_comment inp.department_id
  match ← (NeedsInfo.run_task_analyser ctx.repr inp.toAutomationWorkflowInput).embed (analyserEmbedding ctx.repr) with
  | .error stop => finalize_stop ctx inp { stop with missing_capabilities := [] }
  | .ok (task_result,override) =>
    match ← handle_needs_info_loop ctx inp (to_llm_analysis_result task_result) with
    | .error stop => finalize_stop ctx inp stop
    | .ok analysis => gated_dispatch ctx inp analysis override

end

section
variable {ctx : Context} {inp : AutomationWorkflowInput}

def NoStart : Call → Prop
  | .start_child_workflow _ _ => False
  | _ => True

theorem noStart_act {c : Act (gateway ctx.repr)} (other : Act.Calls NoStart c) :
    Issues (Act.Calls NoStart) (act ctx c) := ⟨other,fun _ => trivial⟩

theorem noStart_best_effort {c : Call} (other : NoStart c) :
    Issues (Act.Calls NoStart) (best_effort ctx c) := issues_bind (noStart_act other) fun _ => trivial

theorem noStart_comment (issue_key text department_id : String) :
    Issues (Act.Calls NoStart) (best_effort_jira_comment ctx issue_key text department_id) :=
  issues_ite trivial (noStart_best_effort trivial)

variable (inp) in
theorem noStart_stop (decision : String) (workflow_type : Option String)
    (failure_reason summary jira_message : String) (missing_capabilities : List String) :
    Issues (Act.Calls NoStart) (stop_with_audit ctx inp decision workflow_type failure_reason summary jira_message
      missing_capabilities) :=
  issues_bind (noStart_best_effort trivial) fun _ => issues_bind (noStart_comment _ _ _) fun _ => trivial

variable (inp) in
theorem noStart_finalize (stop : AutomationStop) :
    Issues (Act.Calls NoStart) (finalize_stop ctx inp stop) := issues_bind (noStart_best_effort trivial) fun _ => trivial

variable (inp) in
theorem noStart_round (iteration : Nat) (analysis : Analysis) :
    Issues (Act.Calls NoStart) (needs_info_round ctx inp iteration analysis) := by
  refine issues_bind (noStart_comment _ _ _) fun _ => issues_bind (noStart_best_effort trivial) fun _ => ?_
  refine issues_bind (noStart_best_effort trivial) fun _ => issues_bind (noStart_act trivial) fun _ => ?_
  refine issues_bind (noStart_act trivial) fun answered => ?_
  split
  · refine issues_bind (noStart_act trivial) fun reply => ?_
    split
    · trivial
    · exact issues_bind (noStart_stop inp _ _ _ _ _ _) fun _ => trivial
  · exact issues_bind (noStart_best_effort trivial) fun _ => issues_bind (noStart_stop inp _ _ _ _ _ _) fun _ => trivial

variable (inp) in
theorem noStart_loop (remaining : Nat) (analysis : Analysis) :
    Issues (Act.Calls NoStart) (needs_info_loop ctx inp remaining analysis) := by
  induction remaining generalizing analysis with
  | zero => exact issues_bind (noStart_stop inp _ _ _ _ _ _) fun _ => trivial
  | succ remaining ih =>
    refine issues_bind (noStart_round inp _ analysis) fun outcome => ?_
    cases outcome with
    | error stop => trivial
    | ok next_analysis => exact issues_ite (ih next_analysis) trivial

variable (inp) in
theorem noStart_handle_loop (analysis : Analysis) :
    Issues (Act.Calls NoStart) (handle_needs_info_loop ctx inp analysis) := issues_ite (noStart_loop inp _ analysis) trivial

theorem noStart_analyser {ε α : Type} (p : Prog (acts (NeedsInfo.automation ctx.repr)) ε α) :
    Issues (Act.Calls NoStart) (p.embed (analyserEmbedding ctx.repr)) :=
  issues_embed (fun c => by cases c <;> trivial) p

variable (inp) in
theorem noStart_capability_gate (workflow_type : String) :
    Issues (Act.Calls NoStart) (capability_gate ctx inp workflow_type) := by
  unfold capability_gate
  split
  · exact issues_ite (issues_bind (noStart_stop inp _ _ _ _ _ _) fun _ => trivial)
      (issues_bind (noStart_stop inp _ _ _ _ _ _) fun _ => trivial)
  · exact issues_ite trivial (issues_bind (noStart_stop inp _ _ _ _ _ _) fun _ => trivial)

variable (inp) in
theorem noStart_branch_gate (analysis : Analysis) : Issues (Act.Calls NoStart) (branch_gate ctx inp analysis) := by
  refine issues_ite (issues_bind (issues_bind (noStart_act trivial) fun _ => trivial) fun decision => ?_) trivial
  exact issues_ite trivial (issues_bind (noStart_stop inp _ _ _ _ _ _) fun _ => trivial)

theorem noStart_await_child (workflow_id : String) : Issues (Act.Calls NoStart) (await_child ctx workflow_id) := by
  refine issues_bind (noStart_act trivial) fun reply => ?_
  split
  · trivial
  · trivial
  · trivial

variable (inp) in
theorem noStart_follow (analysis : Analysis) : Issues (Act.Calls NoStart) (follow_child ctx inp analysis) := by
  refine issues_ite (issues_bind (noStart_await_child _) fun result => ?_) (issues_ite ?_ trivial)
  · cases result with
    | none => trivial
    | some result => exact noStart_best_effort trivial
  · exact issues_bind (noStart_await_child _) fun result => issues_ite trivial (noStart_best_effort trivial)

end

/-! A gateway of issue PAY-7, and what is replied to it. -/

def host : Context := { workflow_id := "automation-1", runners_installed := true, repr := NeedsInfo.noContainers }

def issue : AutomationWorkflowInput where
  issue_key := "PAY-7"
  department_id := "payments"
  available_capabilities := ["jira","bitbucket","execution"]
  available_repos := ["billing"]
  available_spaces := []
  default_language := "tr"
  iteration := 1
  trace_id := ""
  notify_on_success := false
  notify_channels := []
  slack_webhook := none
  notify_email := none

def clear (workflow_type : String) (branch : Option String) : TaskAnalysisResult :=
  { accepted := true, workflow_type := some workflow_type, execution_command := none, repo := some "billing", branch
    cleanup_policy := "on_success", timeout_seconds := none, web_search := false, output_actions := []
    confidence := "0.9", missing_fields := [], source := .llm_analysis, status := .ready, error := none }

def answering (ctx : Context) (task_result : TaskAnalysisResult) (reply : Call → Except String Payload) :
    Environment (gateway ctx.repr) where
  activity
    | _, .analysis (.prepare_task_analysis_input _ _) => ([],.ok (.analysis (.input .null)))
    | _, .analysis (.analyze_task _) => ([],.ok (.analysis (.result task_result)))
    | _, .analysis _ => ([],.ok (.analysis .done))
    | _, c => ([],reply c)
  waiting _ := []
  clock _ := 0

end Automation.Gateway
