import Automation.Dispatcher

/-!
The `[iterate]` path across its two services: the dispatcher builds the input of
an `IterationWorkflow`, the workflow coerces it into the input of
`prepare_iteration`, and the activity checks the authorisation again before it
inserts a row of `shared.workflow_iterations`.

The dict that `_start_iteration` builds carries neither the reporter nor the
department configuration, so the activity refuses every actor the dispatcher
accepted (`authorisation_agrees_iff`).
-/
namespace Automation.Iteration
open Automation.Effects Automation.PyText Automation.Dispatcher

structure IterationWorkflowInput where
  trigger : String
  issue_key : String
  department_id : String
  extra_instructions : Option String
  comment_body : Option String
  actor_account_id : Option String
  issue_reporter_account_id : Option String
  dept_config : Json
  available_capabilities : List String
  available_repos : List String
  available_spaces : List String
  default_language : String
  trace_id : String

/-- What the data converter hands to the workflow: the dict, or the dataclass
    that its fields fill. -/
inductive WireInput where
  | mapping (value : Json)
  | typed (input : IterationWorkflowInput)

section
variable (repr : Json → String)

/-- `_tuple`: what is not iterable counts as empty; a text is iterated by character. -/
def tuple : Json → List String
  | .arr items => items.map (Json.pyStr repr)
  | .str s => s.toList.map fun c => .ofList [c]
  | .obj fields => fields.map Prod.fst
  | _ => []

/-- `str(_get(key, default))`. -/
def textField (value : Json) (key default : String) : String :=
  if value.has key then (value.get key).pyStr repr else default

/-- The dataclass that the fields of a dict fill, with the defaults of the rest. -/
def typedInput (value : Json) : IterationWorkflowInput :=
  { trigger := textField repr value "trigger" "iterate"
    issue_key := textField repr value "issue_key" ""
    department_id := textField repr value "department_id" ""
    extra_instructions := (value.get "extra_instructions").asStr
    comment_body := (value.get "comment_body").asStr
    actor_account_id := (value.get "actor_account_id").asStr
    issue_reporter_account_id := (value.get "issue_reporter_account_id").asStr
    dept_config := value.get "dept_config"
    available_capabilities := tuple repr (value.get "available_capabilities")
    available_repos := tuple repr (value.get "available_repos")
    available_spaces := tuple repr (value.get "available_spaces")
    default_language := textField repr value "default_language" "tr"
    trace_id := textField repr value "trace_id" "" }

def coerce_input : WireInput → IterationWorkflowInput
  | .typed input => input
  | .mapping value => { typedInput repr value with dept_config := (value.get "dept_config").orElse (.obj []) }

/-- The two ways the workflow can receive a dict. -/
def Decodes (value : Json) (wire : WireInput) : Prop :=
  wire = .mapping value ∨ wire = .typed (typedInput repr value)

end

structure IterationRecord where
  issue_key : String
  iteration_number : Int
  workflow_id : String
  previous_branch : Option String
  previous_pr_id : Option Int
  workspace_path : String
  status : String

def IterationRecord.key (row : IterationRecord) : String × Int := (row.issue_key,row.iteration_number)

/-- `shared.workflow_iterations`, unique in issue key and iteration number. -/
structure IterationTable where
  rows : List IterationRecord
  unique : (rows.map IterationRecord.key).Nodup

def IterationTable.latest (table : IterationTable) (issue_key : String) : Option IterationRecord :=
  (table.rows.filter fun row => row.issue_key == issue_key).foldl
    (fun best row => match best with
      | none => some row
      | some top => if top.iteration_number < row.iteration_number then some row else some top) none

def IterationTable.insert (table : IterationTable) (row : IterationRecord) : Option IterationTable :=
  if taken : row.key ∈ table.rows.map IterationRecord.key then none
  else some ⟨row :: table.rows,by simpa using ⟨by simpa using taken,table.unique⟩⟩

inductive WorkerQuery where
  | database
  | uuid4
  | audit_write (row : Json)
  | jira_add_comment (issue_key body department_id : String)
  | start_child (workflow_id : String) (input : Json)
  | child_result (workflow_id : String)

/-- Every statement, activity and child workflow may fail. -/
@[reducible] def workerQueries : Signature where
  Cmd := WorkerQuery
  Res
    | .database => Except Unit Unit
    | .uuid4 => String
    | .audit_write _ => Except Unit Unit
    | .jira_add_comment _ _ _ => Except Unit Unit
    | .start_child _ _ => Except Unit Unit
    | .child_result _ => Except Unit Json

abbrev Worker := Component IterationTable workerQueries Unit

def workerQuery (c : WorkerQuery) : Worker (workerQueries.Res c) := ask (E := workerQueries) c

structure PrepareIterationInput where
  issue_key : String
  comment_body : String
  comment_author_account_id : String
  issue_reporter_account_id : Option String
  dept_id : String
  dept_config : Json
  trace_id : String

structure IterationContext where
  authorized : Bool
  reason : String
  issue_key : String
  iteration_number : Int
  workflow_id : String
  workspace_path : String
  previous_branch : Option String
  previous_pr_id : Option Int
  extra_instructions : Option String
  dept_id : String
  trace_id : String
  current_count : Option Int

def max_iteration_number : Int := 999
def max_iterations_per_issue : Int := 10

def is_authorized_for_iterate (author_account_id : String) (approvers : List String)
    (issue_reporter_account_id : Option String) : Bool :=
  if author_account_id = "" then false
  else approvers.contains author_account_id || issue_reporter_account_id == some author_account_id

/-- `^[A-Z][A-Z0-9_]*-\d+$`, matched in full. -/
def issue_key_pattern (issue_key : String) : Bool :=
  match issue_key.toList with
  | [] => false
  | first :: rest =>
    match rest.dropWhile fun c => c.isUpper || ('0' ≤ c && c ≤ '9') || c == '_' with
    | '-' :: digits => first.isUpper && !digits.isEmpty && digits.all isDecimal
    | _ => false

/-- `none` stands for the `ValueError`. -/
def build_iteration_workspace_path (base issue_key : String) (iteration_number : Int) : Option String :=
  if issue_key_pattern issue_key && decide (1 ≤ iteration_number) && decide (iteration_number ≤ max_iteration_number) then
    let normalised := String.ofList (base.toList.reverse.dropWhile (· == '/')).reverse
    some (normalised ++ "/" ++ issue_key ++ "/iter-" ++ toString iteration_number)
  else none

def unauthorized_result (input : PrepareIterationInput) (reason trace_id : String) (current_count : Option Int) :
    IterationContext :=
  { authorized := false, reason, issue_key := input.issue_key, iteration_number := 0, workflow_id := ""
    workspace_path := "", previous_branch := none, previous_pr_id := none, extra_instructions := none
    dept_id := input.dept_id, trace_id, current_count }

/-- The approvers of the configuration the activity was given. -/
def activity_approvers (dept_config : Json) : List String :=
  match dept_config.get "approvers" with
  | .arr raw => raw.filterMap Json.asStr
  | _ => []

/-- The activity past its authorisation gate. -/
def prepare_authorized (base : String) (input : PrepareIterationInput) (trace_id : String) :
    Worker IterationContext := do
  match ← workerQuery .database with
  | .error e => .raise e
  | .ok _ =>
    let table ← look
    let latest := table.latest input.issue_key
    let previous := (latest.map IterationRecord.iteration_number).getD 0
    if max_iterations_per_issue ≤ previous || decide (max_iteration_number < previous + 1) then
      return unauthorized_result input "max_iteration_exceeded" trace_id (some previous)
    match build_iteration_workspace_path base input.issue_key (previous + 1) with
    | none => return unauthorized_result input "invalid_workspace_path" trace_id none
    | some workspace_path =>
      let hex : String ← workerQuery .uuid4
      let row : IterationRecord :=
        { issue_key := input.issue_key
          iteration_number := previous + 1
          workflow_id := "iteration-" ++ input.issue_key ++ "-" ++ toString (previous + 1) ++ "-" ++
            .ofList (hex.toList.take 8)
          previous_branch := latest.bind IterationRecord.previous_branch
          previous_pr_id := latest.bind IterationRecord.previous_pr_id
          workspace_path
          status := "pending" }
      let available : Except Unit Unit ← workerQuery .database
      let current ← look
      match available,current.insert row with
      | .ok _,some inserted =>
        modify fun _ => inserted
        return { authorized := true, reason := "", issue_key := input.issue_key
                 iteration_number := row.iteration_number, workflow_id := row.workflow_id, workspace_path
                 previous_branch := row.previous_branch, previous_pr_id := row.previous_pr_id
                 extra_instructions := extract_instructions (some input.comment_body)
                 dept_id := input.dept_id, trace_id, current_count := none }
      | _,_ => return unauthorized_result input "insert_failed" trace_id none

def prepare_iteration (base : String) (input : PrepareIterationInput) : Worker IterationContext := do
  let trace_id ← if input.trace_id ≠ "" then pure input.trace_id else workerQuery .uuid4
  if is_authorized_for_iterate input.comment_author_account_id (activity_approvers input.dept_config)
      input.issue_reporter_account_id = false then
    return unauthorized_result input "not_authorized" trace_id none
  else prepare_authorized base input trace_id

structure IterationWorkflowOutput where
  decision : String
  iteration_number : Int
  workspace_path : String
  reason : String
  child_workflow_id : Option String
  automation_output : Json

def prepare_input (coerced : IterationWorkflowInput) : PrepareIterationInput :=
  { issue_key := coerced.issue_key
    comment_body := coerced.comment_body.getD ""
    comment_author_account_id := coerced.actor_account_id.getD ""
    issue_reporter_account_id := coerced.issue_reporter_account_id
    dept_id := coerced.department_id
    dept_config := coerced.dept_config.orElse (.obj [])
    trace_id := coerced.trace_id }

/-- An activity under a retry policy: at most so many attempts. -/
def retried {α : Type} : Nat → Worker α → Worker α
  | 0, activity => activity
  | attempts + 1, activity => activity.attempt fun _ => retried attempts activity

def handle_max_iteration_exceeded (issue_key department_id : String) (current_count : Option Int)
    (trace_id : String) : Worker Unit := do
  let count := current_count.getD max_iterations_per_issue
  let _ ← workerQuery (.audit_write (.obj [("action",.str "iteration_max_exceeded"),("actor_role",.str "system"),
    ("department_id",.str department_id),("issue_key",.str issue_key),("trace_id",.str trace_id),
    ("payload",.obj [("issue_key",.str issue_key),("current_count",.int count),
      ("cap",.int max_iterations_per_issue)])]))
  let body := " Bu görev için maksimum " ++ toString max_iterations_per_issue ++ " iterasyon limitine ulaşıldı (mevcut: " ++
    toString count ++ "). Devam etmek için yeni bir Jira görevi açın."
  let _ ← workerQuery (.jira_add_comment issue_key body department_id)
  return ()

/-- The input of the child `AutomationWorkflow`. -/
def child_input (coerced : IterationWorkflowInput) (context : IterationContext) : Json :=
  .obj [("issue_key",.str coerced.issue_key),("department_id",.str coerced.department_id),
    ("available_capabilities",.arr (coerced.available_capabilities.map .str)),
    ("available_repos",.arr (coerced.available_repos.map .str)),
    ("available_spaces",.arr (coerced.available_spaces.map .str)),
    ("default_language",.str coerced.default_language),("trigger_event",.str "jira:iterate"),
    ("iteration",.int context.iteration_number),("raw_event",.null),("trace_id",.str context.trace_id)]

def run (repr : Json → String) (base : String) (wire : WireInput) : Worker IterationWorkflowOutput := do
  let coerced := coerce_input repr wire
  let prepared ← ((do return some (← retried 2 (prepare_iteration base (prepare_input coerced)))) :
    Worker (Option IterationContext)).attempt fun _ => pure none
  match prepared with
  | none =>
    return { decision := "failed", iteration_number := 0, workspace_path := ""
             reason := "prepare_iteration_exception", child_workflow_id := none, automation_output := .null }
  | some context =>
    if context.authorized = false then
      if context.reason = "max_iteration_exceeded" then
        handle_max_iteration_exceeded coerced.issue_key coerced.department_id context.current_count context.trace_id
      return { decision := "unauthorized", iteration_number := context.iteration_number
               workspace_path := context.workspace_path, reason := context.reason
               child_workflow_id := none, automation_output := .null }
    match ← workerQuery (.start_child context.workflow_id (child_input coerced context)) with
    | .error _ =>
      return { decision := "failed", iteration_number := context.iteration_number
               workspace_path := context.workspace_path, reason := "child_dispatch_failed"
               child_workflow_id := none, automation_output := .null }
    | .ok _ =>
      match ← workerQuery (.child_result context.workflow_id) with
      | .error _ =>
        return { decision := "failed", iteration_number := context.iteration_number
                 workspace_path := context.workspace_path, reason := "child_workflow_failed"
                 child_workflow_id := some context.workflow_id, automation_output := .null }
      | .ok output =>
        return { decision := "dispatched", iteration_number := context.iteration_number
                 workspace_path := context.workspace_path, reason := ""
                 child_workflow_id := some context.workflow_id, automation_output := output }

/-- The inputs of the iterations that a run of the dispatcher asked to start. -/
def started_iterations (log : List (Entry queries)) : List Json :=
  log.filterMap fun entry => match entry.cmd with
    | .start_workflow workflow_type _ _ args => if workflow_type = "IterationWorkflow" then some args else none
    | _ => none

/-- The table after the workflows of these inputs ran, one after the other. -/
def run_iterations (repr : Json → String) (base : String) (decode : Json → WireInput)
    (oracle : Nat → Oracle workerQueries) : List Json → IterationTable → IterationTable
  | [], table => table
  | args :: rest, table =>
    run_iterations repr base decode oracle rest
      (exec (answer (oracle rest.length)) (run repr base (decode args)) ⟨table,[]⟩).2.self

/-- What the dispatcher accepts the activity does not refuse as unauthorised,
    and what the dispatcher rejects inserts no iteration row. -/
def AuthorisationAgrees (repr : Json → String) (payload : WebhookPayload) (dept_config : Option DepartmentConfig) :
    Prop :=
  (is_iterate_authorized payload dept_config = true →
    ∀ dept_id wire base oracle table context, Decodes repr (iteration_input payload dept_id) wire →
      (exec (answer oracle) (prepare_iteration base (prepare_input (coerce_input repr wire))) ⟨table,[]⟩).1 =
        .ok context → context.reason ≠ "not_authorized") ∧
  (is_iterate_authorized payload dept_config = false →
    ∀ dept_id oracle state base decode workers table,
      run_iterations repr base decode workers
        (started_iterations (exec (answer oracle) (dispatch_iterate payload dept_id dept_config) ⟨state,[]⟩).2.log)
        table = table)

theorem prepare_input_forgets {repr : Json → String} {payload : WebhookPayload} {dept_id : String} {wire : WireInput}
    (decoded : Decodes repr (iteration_input payload dept_id) wire) :
    (prepare_input (coerce_input repr wire)).issue_reporter_account_id = none ∧
      activity_approvers (prepare_input (coerce_input repr wire)).dept_config = [] := by
  rcases decoded with rfl | rfl <;> exact ⟨rfl,rfl⟩

theorem prepare_iteration_refuses (base : String) {input : PrepareIterationInput}
    (reporter : input.issue_reporter_account_id = none) (approvers : activity_approvers input.dept_config = [])
    (oracle : Oracle workerQueries) (w : World IterationTable workerQueries) :
    ∃ trace_id, (exec (answer oracle) (prepare_iteration base input) w).1 =
      .ok (unauthorized_result input "not_authorized" trace_id none) := by
  have refused : is_authorized_for_iterate input.comment_author_account_id (activity_approvers input.dept_config)
      input.issue_reporter_account_id = false := by
    simp [is_authorized_for_iterate,reporter,approvers]
  by_cases traced : input.trace_id = ""
  · exact ⟨oracle w.log.length .uuid4,by simp [prepare_iteration,refused,traced,exec_bind,workerQuery]⟩
  · exact ⟨input.trace_id,by simp [prepare_iteration,refused,traced,exec_bind]⟩

theorem dispatch_iterate_rejects {payload : WebhookPayload} {dept_config : Option DepartmentConfig}
    (rejected : is_iterate_authorized payload dept_config = false) (dept_id : String) (oracle : Oracle queries)
    (state : DispatcherState) :
    started_iterations (exec (answer oracle) (dispatch_iterate payload dept_id dept_config) ⟨state,[]⟩).2.log = [] := by
  simp [dispatch_iterate,rejected,exec_bind,audit,query,started_iterations]

private theorem accepted_disagrees (repr : Json → String) {payload : WebhookPayload}
    {dept_config : Option DepartmentConfig} (accepted : is_iterate_authorized payload dept_config = true) :
    ¬AuthorisationAgrees repr payload dept_config := by
  intro agrees
  have decoded : Decodes repr (iteration_input payload "") (.mapping (iteration_input payload "")) := .inl rfl
  obtain ⟨reporter,approvers⟩ := prepare_input_forgets decoded
  let silent : Oracle workerQueries := fun _ c => match c with
    | .database => .ok ()
    | .uuid4 => ""
    | .audit_write _ => .ok ()
    | .jira_add_comment _ _ _ => .ok ()
    | .start_child _ _ => .ok ()
    | .child_result _ => .ok .null
  obtain ⟨trace_id,refused⟩ := prepare_iteration_refuses "" reporter approvers silent ⟨⟨[],List.nodup_nil⟩,[]⟩
  exact agrees.1 accepted "" _ "" silent ⟨[],List.nodup_nil⟩ _ decoded refused rfl

/-- The two services agree exactly on the payloads the dispatcher rejects. -/
theorem authorisation_agrees_iff (repr : Json → String) (payload : WebhookPayload)
    (dept_config : Option DepartmentConfig) :
    AuthorisationAgrees repr payload dept_config ↔ is_iterate_authorized payload dept_config = false := by
  constructor
  · intro agrees
    cases accepted : is_iterate_authorized payload dept_config with
    | false => rfl
    | true => exact absurd agrees (accepted_disagrees repr accepted)
  · intro rejected
    refine ⟨fun accepted => ?_,fun _ dept_id oracle state base decode workers table => ?_⟩
    · simp [rejected] at accepted
    · rw [dispatch_iterate_rejects rejected]
      rfl

/-- The reporter of an issue comments `[iterate]`. -/
def reporterIterates : WebhookPayload :=
  { actor_account_id := some "reporter-1", issue_key := "PAY-7", event_type := "jira:comment_created"
    comment_body := some "[iterate] use the new schema", assignee_account_id := some "bot-1"
    reporter_account_id := some "reporter-1", dept_id := none, trace_id := none }

theorem reporter_refused :
    is_iterate_authorized reporterIterates none = true ∧
      ¬AuthorisationAgrees (fun _ => "") reporterIterates none :=
  ⟨by decide,accepted_disagrees _ (by decide)⟩

end Automation.Iteration
