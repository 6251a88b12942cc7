import Automation.Effects
import Automation.Json
import Automation.PyText

/-!
`WebhookDispatcher`: the routing of a webhook payload to a drop, a signal, an
iteration or a workflow start. The dispatcher is a component whose questions
are its database reads, its clock, the budget and concurrency checks, the
Temporal calls and its audit rows; every Temporal call may fail, and each
helper that makes one says what happens then.
-/
namespace Automation.Dispatcher
open Automation.Effects Automation.PyText

structure WebhookPayload where
  actor_account_id : Option String
  issue_key : String
  event_type : String
  comment_body : Option String
  assignee_account_id : Option String
  reporter_account_id : Option String
  dept_id : Option String
  trace_id : Option String

inductive DispatchAction where
  | drop
  | signaled
  | iteration_started
  | workflow_started
  | approval_forwarded
  | budget_exceeded
  | budget_configuration_error
  deriving DecidableEq

structure DispatchResult where
  action : DispatchAction
  reason : Option String := none
  trace_id : Option String := none
  dept_id : Option String := none
  status_code : Option Nat := none
  body : Option Json := none

structure DepartmentConfig where
  dept_id : String
  mode : String
  approvers : List String
  max_concurrent_workflows : Option Int

structure BotIdentityEntry where
  account_id : String
  department_id : String
  service : String

/-- A row of `automation.departments`. -/
structure DeptRow where
  id : String
  mode : String
  config_json : Json

section
-- `loads` is `json.loads`, with `none` for a text that is not JSON.
variable (loads : String → Option Json)

def decode_config_json : Json → Option Json
  | .null => none
  | .str raw => (loads raw).bind fun decoded => if decoded.isObj then some decoded else none
  | .obj fields => some (.obj fields)
  | _ => none

def extract_approvers (config_json : Json) : List String :=
  match decode_config_json loads config_json with
  | none => []
  | some decoded =>
    match decoded.get "approvers" with
    | .arr raw => raw.filterMap fun
      | .str entry => if entry ≠ "" then some entry else none
      | _ => none
    | _ => []

def extract_max_concurrent (decoded : Json) : Option Int :=
  match decoded.get "max_concurrent_workflows" with
  | .int raw => if raw < 1 then none else some raw
  | _ => none

def department_config (row : DeptRow) : DepartmentConfig :=
  { dept_id := row.id
    mode := row.mode
    approvers := extract_approvers loads row.config_json
    max_concurrent_workflows := (decode_config_json loads row.config_json).bind extract_max_concurrent }

end

inductive RpcOutcome where
  | ok
  | already_running
  | failed
  deriving DecidableEq

/-- The execution status of a workflow: an enum member or its number. -/
inductive Status where
  | named (name : String)
  | code (value : Int)

inductive BudgetScope where
  | dept_weekly
  | user_weekly
  | dept_monthly
  | user_monthly

def BudgetScope.value : BudgetScope → String
  | .dept_weekly => "dept_weekly"
  | .user_weekly => "user_weekly"
  | .dept_monthly => "dept_monthly"
  | .user_monthly => "user_monthly"

inductive BudgetAnswer where
  | unwired
  | raised
  | allowed
  | configuration_error
  | exceeded (scope : BudgetScope)

structure CapabilityRows where
  services : List String
  web_search_enabled : Bool
  runner_count : Int

structure AuditRow where
  actor_id : Json
  dept_id : Json
  action : String
  resource : String
  result : String
  payload : List (String × Json)

inductive Query where
  | monotonic
  | load_tables
  | find_bot (account_id : String)
  | find_dept (dept_id : String)
  | describe (workflow_id : String)
  | work_item_status (issue_key : String)
  | count_via_temporal (dept_id : String)
  | count_via_postgres (dept_id : String)
  | check_budget (dept_id : String) (actor : Option String) (issue_key : String)
  | capability_rows (dept_id : String)
  | environ
  | uuid4
  | post_comment (dept_id issue_key body : String)
  | audit (row : AuditRow)
  | start_workflow (workflow_type workflow_id task_queue : String) (args : Json)
  | signal_workflow (workflow_id signal : String) (payload : Json)

@[reducible] def queries : Signature where
  Cmd := Query
  Res
    | .monotonic => Int
    | .load_tables => Except Unit (List BotIdentityEntry × List DeptRow)
    | .find_bot _ => Except Unit (Option BotIdentityEntry)
    | .find_dept _ => Except Unit (Option DeptRow)
    | .describe _ => Except Unit Status
    | .work_item_status _ => Except Unit (Option String)
    | .count_via_temporal _ => Except Unit Int
    | .count_via_postgres _ => Except Unit Int
    | .check_budget _ _ _ => BudgetAnswer
    | .capability_rows _ => Except Unit CapabilityRows
    | .environ => List (String × String)
    | .uuid4 => String
    | .post_comment _ _ _ => Except Unit Unit
    | .audit _ => Unit
    | .start_workflow _ _ _ _ => RpcOutcome
    | .signal_workflow _ _ _ => RpcOutcome

/-- The dispatcher's caches, in the order of insertion, and its wiring. -/
structure DispatcherState where
  bot_identity_cache : List (String × BotIdentityEntry)
  dept_config_cache : List (String × DepartmentConfig)
  last_cache_refresh : Int
  jira_commenter : Bool

/-- The exception that leaves `dispatch`: both workflow counters failed. -/
inductive DispatchError where
  | concurrency_unavailable

abbrev Dispatch := Component DispatcherState queries DispatchError

def query (c : Query) : Dispatch (queries.Res c) := ask (E := queries) c

def audit_row (action : String) (fields : List (String × Json)) : AuditRow :=
  let given := Json.obj fields
  { actor_id := if given.has "assignee_account_id" then given.get "assignee_account_id"
      else .str "webhook-dispatcher"
    dept_id := given.get "dept_id"
    action
    resource := "issue:" ++ match given.get "issue_key" with
      | .str key => key
      | _ => "unknown"
    result := if contains action "workflow_started" || contains action "signaled" ||
        action == "approval_signal_forwarded" then "ok" else "denied"
    payload := fields.filter fun field => match field.2 with
      | .null => false
      | _ => true }

/-- Audit rows are best effort: a failed write is logged. -/
def audit (action : String) (fields : List (String × Json)) : Dispatch Unit :=
  query (.audit (audit_row action fields))

def cache_refresh_interval : Int := 300

section
variable (loads : String → Option Json)

def refresh_cache : Dispatch Unit := do
  match ← query .load_tables with
  | .error _ => return ()
  | .ok (bot_rows,dept_rows) =>
    let now : Int ← query .monotonic
    -- A later row of a key wins, as in a Python dict.
    modify fun self => { self with
      bot_identity_cache := bot_rows.reverse.map fun entry => (entry.account_id,entry)
      dept_config_cache := dept_rows.reverse.map fun row => (row.id,department_config loads row)
      last_cache_refresh := now }

def maybe_refresh_cache : Dispatch Unit := do
  let now : Int ← query .monotonic
  let self ← look
  if cache_refresh_interval ≤ now - self.last_cache_refresh then
    refresh_cache loads

def resolve_dept (account_id : String) : Dispatch (Option String) := do
  let self ← look
  match self.bot_identity_cache.lookup account_id with
  | some entry => return some entry.department_id
  | none =>
    match ← query (.find_bot account_id) with
    | .ok (some entry) =>
      modify fun self => { self with bot_identity_cache := (account_id,entry) :: self.bot_identity_cache }
      return some entry.department_id
    | _ => return none

def get_dept_config (dept_id : String) : Dispatch (Option DepartmentConfig) := do
  let self ← look
  match self.dept_config_cache.lookup dept_id with
  | some config => return some config
  | none =>
    match ← query (.find_dept dept_id) with
    | .ok (some row) =>
      let config := department_config loads row
      modify fun self => { self with dept_config_cache := (dept_id,config) :: self.dept_config_cache }
      return some config
    | _ => return none

end

def is_comment_created (event_type : String) : Bool :=
  event_type == "comment_created" || event_type == "jira:comment_created"

def iterate_pattern : List Char := "[iterate]".toList

def is_iterate_command (comment_body : String) : Bool := (searchLiteral iterate_pattern comment_body.toList).isSome

/-- `_APPROVAL_PATTERN.search`: the matched word without its brackets, lowered. -/
def approval_token (comment_body : String) : Option String :=
  search comment_body.toList
where
  search : List Char → Option String
    | [] => none
    | c :: cs =>
      if (matchLiteral "[approve]".toList (c :: cs)).isSome then some "approve"
      else if (matchLiteral "[reject]".toList (c :: cs)).isSome then some "reject"
      else search cs

def is_approval_comment (comment_body : String) : Bool := (approval_token comment_body).isSome

def is_iterate_authorized (payload : WebhookPayload) (dept_config : Option DepartmentConfig) : Bool :=
  match payload.actor_account_id with
  | none => false
  | some actor =>
    if actor = "" then false
    else if payload.reporter_account_id = some actor then true
    else
      match dept_config with
      | some config => config.approvers.contains actor
      | none => false

def is_gateway_running (issue_key : String) : Dispatch Bool := do
  match ← query (.describe ("automation-jira-" ++ issue_key)) with
  | .error _ => return false
  | .ok (.named name) => return name == "RUNNING"
  | .ok (.code value) => return value == 1

def is_needs_info (issue_key : String) : Dispatch Bool := do
  if ← is_gateway_running issue_key then return true
  match ← query (.work_item_status issue_key) with
  | .ok (some status) => return status == "needs_info"
  | _ => return false

def automation_task_queue : String := "automation-tq"

/-- A failed signal is logged. -/
def signal_workflow (issue_key signal_name : String) (payload : Option String) : Dispatch Unit := do
  let _ ← query (.signal_workflow ("automation-jira-" ++ issue_key) signal_name (.ofOption payload))
  return ()

def extract_instructions (comment_body : Option String) : Option String :=
  match comment_body with
  | none => none
  | some body =>
    match searchLiteral iterate_pattern body.toList with
    | none => none
    | some rest =>
      let remainder := strip (.ofList rest)
      if remainder ≠ "" then some remainder else none

/-- The `workflow_input` of an iteration. -/
def iteration_input (payload : WebhookPayload) (dept_id : String) : Json :=
  .obj [("trigger",.str "iterate"),("issue_key",.str payload.issue_key),("department_id",.str dept_id),
    ("extra_instructions",.ofOption (extract_instructions payload.comment_body)),
    ("comment_body",.ofOption payload.comment_body),("actor_account_id",.ofOption payload.actor_account_id)]

/-- A failed start is logged. -/
def start_iteration (payload : WebhookPayload) (dept_id : String) : Dispatch Unit := do
  let hex : String ← query .uuid4
  let workflow_id := "iteration-" ++ payload.issue_key ++ "-" ++ .ofList (hex.toList.take 8)
  let _ ← query (.start_workflow "IterationWorkflow" workflow_id automation_task_queue
    (iteration_input payload dept_id))
  return ()

def resolve_available_capabilities (dept_id : String) : Dispatch (List String) := do
  match ← query (.capability_rows dept_id) with
  | .error _ => return []
  | .ok rows =>
    let environ : List (String × String) ← query .environ
    let services := rows.services.map fun service => lower (strip service)
    let firecrawl := lower (strip ((environ.lookup "FIRECRAWL_ENABLED").getD "false"))
    let ssh_host := environ.any fun (key,value) =>
      (key == "SSH_HOST" || startsWith "SSH_HOST_".toList key.toList) && strip value != ""
    -- `sorted` of a set of these five names.
    return ["bitbucket","confluence","execution","jira","web_search"].filter fun capability =>
      match capability with
      | "execution" => decide (0 < rows.runner_count) || ssh_host
      | "web_search" => rows.web_search_enabled && ["1","true","yes","on"].contains firecrawl
      | service => services.contains service

/-- A failed start is logged. -/
def start_workflow (issue_key dept_id trace_id : String) : Dispatch Unit := do
  let capabilities ← resolve_available_capabilities dept_id
  let _ ← query (.start_workflow "AutomationWorkflow" ("automation-jira-" ++ issue_key) automation_task_queue
    (.obj [("trigger",.str "jira"),("issue_key",.str issue_key),("department_id",.str dept_id),
      ("trace_id",.str trace_id),("available_capabilities",.arr (capabilities.map .str))]))
  return ()

/-- Unlike the other helpers, this one records a failed signal in its audit row. -/
def forward_approval_signal (payload : WebhookPayload) (dept_id : String) : Dispatch Unit := do
  let child_workflow_id :=
    "ApprovalGateWorkflow-automation-jira-" ++ payload.issue_key ++ "-" ++ payload.issue_key
  let signal_payload := Json.obj [("user_id",.ofOption payload.actor_account_id),
    ("decision",.ofOption payload.comment_body)]
  let fields : List (String × Json) := [("issue_key",.str payload.issue_key),("event_type",.str payload.event_type),
    ("dept_id",.str dept_id),("decision",.str ((payload.comment_body.bind approval_token).getD "unknown")),
    ("actor_account_id",.ofOption payload.actor_account_id),("child_workflow_id",.str child_workflow_id)]
  match ← query (.signal_workflow child_workflow_id "approval_received" signal_payload) with
  | .ok => audit "approval_signal_forwarded" fields
  | _ => audit "approval_signal_forwarding_failed" fields

inductive ConcurrencyAnswer where
  | within
  | exceeded (current : Int) (source : String)

/-- `check_dept_concurrency`: the count comes from Temporal, else from Postgres. -/
def check_dept_concurrency (dept_id : String) (max_concurrent : Int) : Dispatch ConcurrencyAnswer := do
  match ← query (.count_via_temporal dept_id) with
  | .ok current => return if max_concurrent ≤ current then .exceeded current "temporal" else .within
  | .error _ =>
    match ← query (.count_via_postgres dept_id) with
    | .ok current => return if max_concurrent ≤ current then .exceeded current "postgres" else .within
    | .error _ => .raise .concurrency_unavailable

def handle_concurrency_rejection (payload : WebhookPayload) (dept_id : String) (current max_allowed : Int)
    (source : String) : Dispatch Unit := do
  audit "dispatch_concurrency_rejected" [("issue_key",.str payload.issue_key),("event_type",.str payload.event_type),
    ("dept_id",.str dept_id),("current",.int current),("max_allowed",.int max_allowed),("source",.str source)]
  let self ← look
  if self.jira_commenter && payload.issue_key != "" then
    let body := " Departman paralel iş limiti aşıldı (" ++ toString current ++ "/" ++ toString max_allowed ++
      "). Mevcut iş akışları tamamlandığında tekrar denenecek."
    let _ ← query (.post_comment dept_id payload.issue_key body)
    return ()

def check_budget_pre_start (payload : WebhookPayload) (dept_id : String) : Dispatch (Option DispatchResult) := do
  let fields : List (String × Json) := [("issue_key",.str payload.issue_key),
    ("event_type",.str payload.event_type),("dept_id",.str dept_id)]
  match ← query (.check_budget dept_id payload.actor_account_id payload.issue_key) with
  | .unwired => return none
  | .allowed => return none
  | .raised =>
    audit "dispatch_budget_check_error" fields
    return none
  | .configuration_error =>
    audit "dispatch_budget_configuration_error" fields
    return some {
      action := .budget_configuration_error
      reason := some "budget_configuration_error"
      dept_id := some dept_id
      status_code := some 422
      body := some (.obj [("error",.str "configuration_error"),
        ("message",.str ("dept_id '" ++ dept_id ++ "' is not defined in budget_caps configuration; " ++
          "verify the department exists in config/departments.json")),("dept_id",.str dept_id)]) }
  | .exceeded scope =>
    return some {
      action := .budget_exceeded
      reason := some "budget_exceeded"
      dept_id := some dept_id
      status_code := some 429
      body := some (.obj [("error",.str "budget_exceeded"),("dept_id",.str dept_id),
        ("scope",.str scope.value)]) }

/-- The `[iterate]` branch. -/
def dispatch_iterate (payload : WebhookPayload) (dept_id : String) (dept_config : Option DepartmentConfig) :
    Dispatch DispatchResult := do
  let fields : List (String × Json) := [("issue_key",.str payload.issue_key),
    ("event_type",.str payload.event_type),("dept_id",.str dept_id)]
  if is_iterate_authorized payload dept_config = false then
    audit "dispatch_iteration_unauthorized" (fields ++ [("actor_account_id",.ofOption payload.actor_account_id)])
    return { action := .drop, reason := some "iteration_unauthorized", dept_id := some dept_id }
  else
    match ← check_budget_pre_start payload dept_id with
    | some rejection => return rejection
    | none =>
      start_iteration payload dept_id
      audit "dispatch_iteration_started" fields
      return { action := .iteration_started, dept_id := some dept_id }

/-- The branch of a comment on an issue whose workflow waits for a reply. -/
def dispatch_signal (payload : WebhookPayload) (dept_id : String) : Dispatch DispatchResult := do
  signal_workflow payload.issue_key "info_received" payload.comment_body
  audit "dispatch_signaled" [("issue_key",.str payload.issue_key),("event_type",.str payload.event_type),
    ("dept_id",.str dept_id),("signal",.str "info_received")]
  return { action := .signaled, dept_id := some dept_id }

/-- `payload.trace_id or str(uuid.uuid4())`. -/
def trace_id_of (payload : WebhookPayload) : Dispatch String :=
  match payload.trace_id with
  | some given => if given ≠ "" then pure given else query .uuid4
  | none => query .uuid4

/-- The start of the main workflow, once the concurrency cap allows it. -/
def dispatch_start (payload : WebhookPayload) (dept_id : String) : Dispatch DispatchResult := do
  match ← check_budget_pre_start payload dept_id with
  | some rejection => return rejection
  | none =>
    let trace_id ← trace_id_of payload
    start_workflow payload.issue_key dept_id trace_id
    audit "dispatch_workflow_started" [("issue_key",.str payload.issue_key),("event_type",.str payload.event_type),
      ("dept_id",.str dept_id),("trace_id",.str trace_id)]
    return { action := .workflow_started, trace_id := some trace_id, dept_id := some dept_id }

/-- The normal branch: the concurrency cap, then the start. -/
def dispatch_normal (payload : WebhookPayload) (dept_id : String) (dept_config : Option DepartmentConfig) :
    Dispatch DispatchResult := do
  match dept_config.bind DepartmentConfig.max_concurrent_workflows with
  | none => dispatch_start payload dept_id
  | some max_concurrent =>
    match ← check_dept_concurrency dept_id max_concurrent with
    | .exceeded current source =>
      handle_concurrency_rejection payload dept_id current max_concurrent source
      return { action := .drop, reason := some "concurrency_limit_exceeded", dept_id := some dept_id }
    | .within => dispatch_start payload dept_id

def is_reply (payload : WebhookPayload) : Dispatch Bool :=
  if is_comment_created payload.event_type then is_needs_info payload.issue_key else pure false

/-- The branches of a payload that is assigned to a bot of an enabled department. -/
def dispatch_enabled (payload : WebhookPayload) (dept_id : String) (dept_config : Option DepartmentConfig) :
    Dispatch DispatchResult := do
  if is_comment_created payload.event_type && payload.comment_body.any is_iterate_command then
    dispatch_iterate payload dept_id dept_config
  else
    if ← is_reply payload then dispatch_signal payload dept_id
    else if is_comment_created payload.event_type && payload.comment_body.any is_approval_comment then
      forward_approval_signal payload dept_id
      return { action := .approval_forwarded, dept_id := some dept_id }
    else dispatch_normal payload dept_id dept_config

def dispatch (loads : String → Option Json) (payload : WebhookPayload) : Dispatch DispatchResult := do
  match payload.assignee_account_id with
  | none =>
    audit "dispatch_unassigned" [("issue_key",.str payload.issue_key),("event_type",.str payload.event_type)]
    return { action := .drop, reason := some "dispatch_unassigned" }
  | some assignee =>
    maybe_refresh_cache loads
    match ← resolve_dept assignee with
    | none =>
      audit "dispatch_not_bot" [("issue_key",.str payload.issue_key),("event_type",.str payload.event_type),
        ("assignee_account_id",.str assignee)]
      return { action := .drop, reason := some "not_bot" }
    | some dept_id =>
      let dept_config ← get_dept_config loads dept_id
      if (dept_config.map DepartmentConfig.mode) = some "disabled" then
        audit "webhook_dept_disabled" [("issue_key",.str payload.issue_key),("event_type",.str payload.event_type),
          ("dept_id",.str dept_id)]
        return { action := .drop, reason := some "dept_disabled", dept_id := some dept_id }
      else dispatch_enabled payload dept_id dept_config

inductive Kind where
  | workflow
  | iteration
  | signal
  deriving DecidableEq

def Kind.action : Kind → DispatchAction
  | .workflow => .workflow_started
  | .iteration => .iteration_started
  | .signal => .signaled

/-- The action of the audit row that matches the report. -/
def Kind.auditAction : Kind → String
  | .workflow => "dispatch_workflow_started"
  | .iteration => "dispatch_iteration_started"
  | .signal => "dispatch_signaled"

/-- The kind of a Temporal call that a dispatch can report, with its outcome. -/
def rpc : Entry queries → Option (Kind × RpcOutcome)
  | ⟨.start_workflow workflow_type _ _ _,outcome⟩ =>
    if workflow_type = "IterationWorkflow" then some (.iteration,outcome) else some (.workflow,outcome)
  | ⟨.signal_workflow _ signal _,outcome⟩ => if signal = "info_received" then some (.signal,outcome) else none
  | _ => none

def Audits (kind : Kind) (entry : Entry queries) : Prop :=
  ∃ row, entry.cmd = .audit row ∧ row.action = kind.auditAction

/-- Neither a call nor an audit row that a report is made of. -/
def Quiet : Query → Prop
  | .start_workflow _ _ _ _ => False
  | .signal_workflow _ signal _ => signal ≠ "info_received"
  | .audit row => ∀ kind : Kind, row.action ≠ kind.auditAction
  | _ => True

theorem rpc_quiet {entry : Entry queries} (quiet : Quiet entry.cmd) : rpc entry = none := by
  obtain ⟨cmd,res⟩ := entry
  cases cmd with
  | start_workflow => exact absurd quiet id
  | signal_workflow id signal payload => simp only [rpc,if_neg (show ¬signal = "info_received" from quiet)]
  | _ => rfl

theorem not_audits_quiet {entry : Entry queries} (quiet : Quiet entry.cmd) (kind : Kind) : ¬Audits kind entry := by
  rintro ⟨row,audits,action⟩
  rw [audits] at quiet
  exact quiet kind action

theorem audits_action {first second : Kind} {entry : Entry queries} (one : Audits first entry)
    (other : Audits second entry) : first.auditAction = second.auditAction := by
  obtain ⟨row,cmd,action⟩ := one
  obtain ⟨same,cmdSame,actionSame⟩ := other
  obtain rfl : row = same := by simpa using cmd.symm.trans cmdSame
  exact action.symm.trans actionSame

/-- One request's log and result: a call of some kind and its audit row last,
    with the report of that kind; or neither call nor report. -/
inductive Dispatched : Except DispatchError DispatchResult → List (Entry queries) → Prop
  | reported {kind outcome result log call row} (quiet : ∀ entry ∈ log, Quiet entry.cmd)
      (called : rpc call = some (kind,outcome)) (audits : Audits kind row) (reports : result.action = kind.action) :
      Dispatched (.ok result) (log ++ [call,row])
  | unreported {result log} (quiet : ∀ entry ∈ log, Quiet entry.cmd)
      (silent : ∀ kind : Kind, result.action ≠ kind.action) : Dispatched (.ok result) log
  | raised {error log} (quiet : ∀ entry ∈ log, Quiet entry.cmd) : Dispatched (.error error) log

def Dispatches (p : Dispatch DispatchResult) : Prop :=
  ∀ oracle w, ∃ added, (exec (answer oracle) p w).2.log = w.log ++ added ∧
    Dispatched (exec (answer oracle) p w).1 added

theorem Dispatched.prepend {result : Except DispatchError DispatchResult} {added before : List (Entry queries)}
    (quiet : ∀ entry ∈ before, Quiet entry.cmd) (dispatched : Dispatched result added) :
    Dispatched result (before ++ added) := by
  have both {log : List (Entry queries)} (later : ∀ entry ∈ log, Quiet entry.cmd) :
      ∀ entry ∈ before ++ log, Quiet entry.cmd := by
    intro entry member
    exact (List.mem_append.mp member).elim (quiet entry) (later entry)
  cases dispatched with
  | reported later called audits reports =>
    rw [← List.append_assoc]
    exact .reported (both later) called audits reports
  | unreported later silent => exact .unreported (both later) silent
  | raised later => exact .raised (both later)

theorem dispatches_return {result : DispatchResult} (silent : ∀ kind : Kind, result.action ≠ kind.action) :
    Dispatches (pure result) :=
  fun _ _ => ⟨[],by simp,.unreported (by simp) silent⟩

theorem dispatches_bind {α : Type} {p : Dispatch α} {f : α → Dispatch DispatchResult} (quiet : Asks Quiet p)
    (Q : α → Prop) (post : ∀ oracle w a, (exec (answer oracle) p w).1 = .ok a → Q a)
    (rest : ∀ a, Q a → Dispatches (f a)) : Dispatches (p >>= f) := by
  intro oracle w
  obtain ⟨before,log,quietBefore⟩ := exec_asks quiet oracle w
  rw [exec_bind]
  have returned := post oracle w
  generalize exec (answer oracle) p w = ran at log returned
  obtain ⟨result,after⟩ := ran
  cases result with
  | error error => exact ⟨before,log,.raised quietBefore⟩
  | ok a =>
    obtain ⟨added,logAfter,dispatched⟩ := rest a (returned a rfl) oracle after
    refine ⟨before ++ added,?_,dispatched.prepend quietBefore⟩
    rw [logAfter,show after.log = _ from log,List.append_assoc]

theorem dispatches_then {α : Type} {p : Dispatch α} {f : α → Dispatch DispatchResult} (quiet : Asks Quiet p)
    (rest : ∀ a, Dispatches (f a)) : Dispatches (p >>= f) :=
  dispatches_bind quiet (fun _ => True) (fun _ _ _ _ => trivial) fun a _ => rest a

/-- A helper whose last question is the Temporal call of a kind. -/
def Calls (kind : Kind) (p : Dispatch Unit) : Prop :=
  ∀ oracle w, ∃ before, (∀ entry ∈ before, Quiet entry.cmd) ∧
    match exec (answer oracle) p w with
    | (.ok _,after) => ∃ call outcome, after.log = w.log ++ (before ++ [call]) ∧ rpc call = some (kind,outcome)
    | (.error _,after) => after.log = w.log ++ before

theorem calls_query {kind : Kind} {c : Query} (called : ∀ res, ∃ outcome, rpc ⟨c,res⟩ = some (kind,outcome)) :
    Calls kind (do let _ ← query c; return ()) := by
  intro oracle w
  obtain ⟨outcome,call⟩ := called (oracle w.log.length c)
  exact ⟨[],by simp,_,outcome,rfl,call⟩

theorem calls_bind {α : Type} {kind : Kind} {p : Dispatch α} {f : α → Dispatch Unit} (quiet : Asks Quiet p)
    (rest : ∀ a, Calls kind (f a)) : Calls kind (p >>= f) := by
  intro oracle w
  obtain ⟨first,log,quietFirst⟩ := exec_asks quiet oracle w
  rw [exec_bind]
  generalize exec (answer oracle) p w = ran at log
  obtain ⟨value,middle⟩ := ran
  cases value with
  | error error => exact ⟨first,quietFirst,log⟩
  | ok a =>
    obtain ⟨second,quietSecond,spec⟩ := rest a oracle middle
    refine ⟨first ++ second,?_,?_⟩
    · intro entry member
      exact (List.mem_append.mp member).elim (quietFirst entry) (quietSecond entry)
    · simp only [show middle.log = _ from log,List.append_assoc] at spec ⊢
      exact spec

theorem dispatches_report {kind : Kind} {p : Dispatch Unit} (calls : Calls kind p) {action : String}
    {fields : List (String × Json)} (matching : action = kind.auditAction) {result : DispatchResult}
    (reports : result.action = kind.action) :
    Dispatches (do p; audit action fields; return result) := by
  intro oracle w
  obtain ⟨before,quiet,spec⟩ := calls oracle w
  rw [exec_bind]
  generalize exec (answer oracle) p w = ran at spec
  obtain ⟨value,after⟩ := ran
  cases value with
  | error error => exact ⟨before,spec,.raised quiet⟩
  | ok _ =>
    obtain ⟨call,outcome,log,called⟩ := spec
    refine ⟨before ++ [call,⟨.audit (audit_row action fields),()⟩],?_,?_⟩
    · simp [exec_bind,audit,query,log]
    · exact .reported quiet called ⟨_,rfl,matching⟩ reports

/-! The helpers that only read, and those that make no reported call. -/

/-- Neither a Temporal call nor an audit row. -/
def Plain : Query → Prop
  | .start_workflow _ _ _ _ => False
  | .signal_workflow _ _ _ => False
  | .audit _ => False
  | _ => True

private theorem plain_quiet (c : Query) (plain : Plain c) : Quiet c := by
  cases c with
  | start_workflow => exact plain
  | signal_workflow => exact absurd plain id
  | audit row => exact absurd plain id
  | _ => trivial

private theorem query_quiet {c : Query} (quiet : Quiet c) : Asks Quiet (query c) := asks_ask quiet

private theorem audit_quiet {action : String} (other : ∀ kind : Kind, action ≠ kind.auditAction)
    (fields : List (String × Json)) : Asks Quiet (audit action fields) :=
  query_quiet other

theorem query_plain {c : Query} (plain : Plain c) : Asks Plain (query c) := asks_ask plain

private theorem refresh_plain (loads : String → Option Json) : Asks Plain (refresh_cache loads) := by
  unfold refresh_cache
  refine asks_bind (query_plain trivial) fun loaded => ?_
  cases loaded with
  | error _ => exact asks_pure ()
  | ok tables => exact asks_bind (query_plain trivial) fun _ => asks_modify _

theorem maybe_refresh_plain (loads : String → Option Json) : Asks Plain (maybe_refresh_cache loads) := by
  unfold maybe_refresh_cache
  refine asks_bind (query_plain trivial) fun now => asks_bind asks_look fun self => ?_
  split
  · exact refresh_plain loads
  · exact asks_pure ()

theorem resolve_dept_plain (account_id : String) : Asks Plain (resolve_dept account_id) := by
  unfold resolve_dept
  refine asks_bind asks_look fun self => ?_
  split
  · exact asks_pure _
  · refine asks_bind (query_plain trivial) fun found => ?_
    split
    · exact asks_bind (asks_modify _) fun _ => asks_pure _
    · exact asks_pure _

theorem get_dept_config_plain (loads : String → Option Json) (dept_id : String) :
    Asks Plain (get_dept_config loads dept_id) := by
  unfold get_dept_config
  refine asks_bind asks_look fun self => ?_
  split
  · exact asks_pure _
  · refine asks_bind (query_plain trivial) fun found => ?_
    split
    · exact asks_bind (asks_modify _) fun _ => asks_pure _
    · exact asks_pure _

private theorem is_needs_info_plain (issue_key : String) : Asks Plain (is_needs_info issue_key) := by
  unfold is_needs_info is_gateway_running
  refine asks_bind (asks_bind (query_plain trivial) fun described => ?_) fun running => ?_
  · split <;> exact asks_pure _
  · split
    · exact asks_pure _
    · refine asks_bind (query_plain trivial) fun found => ?_
      split <;> exact asks_pure _

theorem is_reply_plain (payload : WebhookPayload) : Asks Plain (is_reply payload) := by
  unfold is_reply
  split
  · exact is_needs_info_plain payload.issue_key
  · exact asks_pure false

theorem check_dept_concurrency_plain (dept_id : String) (max_concurrent : Int) :
    Asks Plain (check_dept_concurrency dept_id max_concurrent) := by
  unfold check_dept_concurrency
  refine asks_bind (query_plain trivial) fun counted => ?_
  split
  · exact asks_pure _
  · refine asks_bind (query_plain trivial) fun fallback => ?_
    split
    · exact asks_pure _
    · exact trivial

theorem capabilities_plain (dept_id : String) : Asks Plain (resolve_available_capabilities dept_id) := by
  unfold resolve_available_capabilities
  refine asks_bind (query_plain trivial) fun rows => ?_
  split
  · exact asks_pure _
  · exact asks_bind (query_plain trivial) fun _ => asks_pure _

theorem trace_id_plain (payload : WebhookPayload) : Asks Plain (trace_id_of payload) := by
  unfold trace_id_of
  split
  · split
    · exact asks_pure _
    · exact query_plain trivial
  · exact query_plain trivial

private theorem forward_approval_quiet (payload : WebhookPayload) (dept_id : String) :
    Asks Quiet (forward_approval_signal payload dept_id) := by
  unfold forward_approval_signal
  refine asks_bind (query_quiet (show "approval_received" ≠ "info_received" by decide)) fun outcome => ?_
  split
  · exact audit_quiet (fun kind => by cases kind <;> decide) _
  · exact audit_quiet (fun kind => by cases kind <;> decide) _

private theorem concurrency_rejection_quiet (payload : WebhookPayload) (dept_id : String) (current max_allowed : Int)
    (source : String) : Asks Quiet (handle_concurrency_rejection payload dept_id current max_allowed source) := by
  unfold handle_concurrency_rejection
  refine asks_bind (audit_quiet (fun kind => by cases kind <;> decide) _) fun _ => asks_bind asks_look fun self => ?_
  split
  · exact asks_bind (query_quiet trivial) fun _ => asks_pure ()
  · exact asks_pure ()

private theorem check_budget_quiet (payload : WebhookPayload) (dept_id : String) :
    Asks Quiet (check_budget_pre_start payload dept_id) := by
  unfold check_budget_pre_start
  refine asks_bind (query_quiet trivial) fun budget => ?_
  cases budget with
  | raised => exact asks_bind (audit_quiet (fun kind => by cases kind <;> decide) _) fun _ => asks_pure none
  | configuration_error =>
    exact asks_bind (audit_quiet (fun kind => by cases kind <;> decide) _) fun _ => asks_pure _
  | _ => exact asks_pure _

private theorem check_budget_rejects (payload : WebhookPayload) (dept_id : String) (oracle : Oracle queries)
    (w : World DispatcherState queries) (answered : Option DispatchResult)
    (returned : (exec (answer oracle) (check_budget_pre_start payload dept_id) w).1 = .ok answered) :
    ∀ rejection, answered = some rejection → ∀ kind : Kind, rejection.action ≠ kind.action := by
  rintro rejection rfl kind
  simp only [check_budget_pre_start,query,ask,command,exec_bind,exec_call,exec_ret] at returned
  split at returned <;>
    simp [audit,query,exec_bind] at returned
  · subst returned; cases kind <;> simp [Kind.action]
  · subst returned; cases kind <;> simp [Kind.action]

private theorem start_iteration_calls (payload : WebhookPayload) (dept_id : String) :
    Calls .iteration (start_iteration payload dept_id) :=
  calls_bind (query_quiet trivial) fun _ => calls_query fun outcome => ⟨outcome,rfl⟩

private theorem signal_workflow_calls (issue_key : String) (payload : Option String) :
    Calls .signal (signal_workflow issue_key "info_received" payload) :=
  calls_query fun outcome => ⟨outcome,rfl⟩

private theorem start_workflow_calls (issue_key dept_id trace_id : String) :
    Calls .workflow (start_workflow issue_key dept_id trace_id) :=
  calls_bind (asks_mono plain_quiet (capabilities_plain dept_id)) fun _ => calls_query fun outcome => ⟨outcome,rfl⟩

private theorem dispatch_iterate_spec (payload : WebhookPayload) (dept_id : String)
    (dept_config : Option DepartmentConfig) : Dispatches (dispatch_iterate payload dept_id dept_config) := by
  unfold dispatch_iterate
  split
  · refine dispatches_then (audit_quiet (fun kind => by cases kind <;> decide) _) fun _ => ?_
    exact dispatches_return fun kind => by cases kind <;> simp [Kind.action]
  · refine dispatches_bind (check_budget_quiet payload dept_id) _ (check_budget_rejects payload dept_id)
      fun answered rejects => ?_
    cases answered with
    | some rejection => exact dispatches_return (rejects rejection rfl)
    | none => exact dispatches_report (start_iteration_calls payload dept_id) rfl rfl

private theorem dispatch_start_spec (payload : WebhookPayload) (dept_id : String) :
    Dispatches (dispatch_start payload dept_id) := by
  unfold dispatch_start
  refine dispatches_bind (check_budget_quiet payload dept_id) _ (check_budget_rejects payload dept_id)
    fun answered rejects => ?_
  cases answered with
  | some rejection => exact dispatches_return (rejects rejection rfl)
  | none =>
    refine dispatches_then (asks_mono plain_quiet (trace_id_plain payload)) fun trace_id => ?_
    exact dispatches_report (start_workflow_calls payload.issue_key dept_id trace_id) rfl rfl

private theorem dispatch_normal_spec (payload : WebhookPayload) (dept_id : String)
    (dept_config : Option DepartmentConfig) : Dispatches (dispatch_normal payload dept_id dept_config) := by
  unfold dispatch_normal
  split
  · exact dispatch_start_spec payload dept_id
  · refine dispatches_then (asks_mono plain_quiet (check_dept_concurrency_plain dept_id _)) fun counted => ?_
    cases counted with
    | within => exact dispatch_start_spec payload dept_id
    | exceeded current source =>
      refine dispatches_then (concurrency_rejection_quiet ..) fun _ => ?_
      exact dispatches_return fun kind => by cases kind <;> simp [Kind.action]

private theorem dispatch_enabled_spec (payload : WebhookPayload) (dept_id : String)
    (dept_config : Option DepartmentConfig) : Dispatches (dispatch_enabled payload dept_id dept_config) := by
  unfold dispatch_enabled
  split
  · exact dispatch_iterate_spec payload dept_id dept_config
  · refine dispatches_then (asks_mono plain_quiet (is_reply_plain payload)) fun reply => ?_
    split
    · exact dispatches_report (signal_workflow_calls payload.issue_key payload.comment_body) rfl rfl
    · split
      · refine dispatches_then (forward_approval_quiet payload dept_id) fun _ => ?_
        exact dispatches_return fun kind => by cases kind <;> simp [Kind.action]
      · exact dispatch_normal_spec payload dept_id dept_config

/-- Every dispatch either makes one reported call, audits it and reports it, or
    makes none and reports none. -/
theorem dispatch_spec (loads : String → Option Json) (payload : WebhookPayload) :
    Dispatches (dispatch loads payload) := by
  unfold dispatch
  split
  · refine dispatches_then (audit_quiet (fun kind => by cases kind <;> decide) _) fun _ => ?_
    exact dispatches_return fun kind => by cases kind <;> simp [Kind.action]
  · refine dispatches_then (asks_mono plain_quiet (maybe_refresh_plain loads)) fun _ =>
      dispatches_then (asks_mono plain_quiet (resolve_dept_plain _)) fun resolved => ?_
    cases resolved with
    | none =>
      refine dispatches_then (audit_quiet (fun kind => by cases kind <;> decide) _) fun _ => ?_
      exact dispatches_return fun kind => by cases kind <;> simp [Kind.action]
    | some dept_id =>
      refine dispatches_then (asks_mono plain_quiet (get_dept_config_plain loads dept_id)) fun dept_config => ?_
      by_cases disabled : dept_config.map DepartmentConfig.mode = some "disabled"
      · simp only [if_pos disabled]
        refine dispatches_then (audit_quiet (fun kind => by cases kind <;> decide) _) fun _ => ?_
        exact dispatches_return fun kind => by cases kind <;> simp [Kind.action]
      · simp only [if_neg disabled]
        exact dispatch_enabled_spec payload dept_id dept_config

end Automation.Dispatcher
