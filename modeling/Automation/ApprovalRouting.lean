import Automation.ApprovalGate
import Automation.Dispatcher

/-!
From an `[approve]` or `[reject]` comment to the approval gate. The dispatcher
forwards the comment to the child that `maybe_run_approval_gate` starts, as one
argument, a mapping, while the handler `approval_received` takes two. Where the
gateway of the issue runs, which is always so while the gate is open, the
comment does not come that far: it goes to the gateway as an `info_received`
signal.
-/
namespace Automation.ApprovalRouting
open Automation.Effects Automation.Dispatcher
open Automation.ApprovalGate (ApprovalReceived Decision parse_approval_decision)

/-- The id under which `maybe_run_approval_gate` starts the gate of a workflow. -/
def gate_child_id (workflow_id issue_key : String) : String :=
  "ApprovalGateWorkflow-" ++ workflow_id ++ "-" ++ issue_key

/-- `handle.signal(name,payload)`: the payload is the one argument of the signal. -/
def signal_arguments (payload : Json) : List Json := [payload]

/-- `approval_received(user_id,decision)`. A signal's arguments are passed to its
    handler by position; a call with another number of them raises. -/
def approval_received : List Json → Option ApprovalReceived
  | [.str user_id,.str decision] => some ⟨user_id,decision⟩
  | _ => none

def Decision.token : Decision → String
  | .approve => "approve"
  | .reject => "reject"

/-- The comment is sent to the open gate, its arguments decode to the author and
    the text, and the decision that the gate reads is the one that is audited. -/
def ReachesGate (payload : WebhookPayload) (log : List (Entry queries)) : Prop :=
  ∃ user_id body argument outcome row decision,
    payload.actor_account_id = some user_id ∧ payload.comment_body = some body ∧
    (⟨.signal_workflow (gate_child_id ("automation-jira-" ++ payload.issue_key) payload.issue_key)
      "approval_received" argument,outcome⟩ : Entry queries) ∈ log ∧
    approval_received (signal_arguments argument) = some ⟨user_id,body⟩ ∧
    (⟨.audit row,()⟩ : Entry queries) ∈ log ∧ row.action = "approval_signal_forwarded" ∧
    parse_approval_decision body = some decision ∧
    (Json.obj row.payload).get "decision" = .str (Decision.token decision)

/-- A signal is the reply to the gateway, or the decision to the gate's child. -/
def Signals (payload : WebhookPayload) : Query → Prop
  | .signal_workflow workflow_id signal argument =>
    (workflow_id = "automation-jira-" ++ payload.issue_key ∧ signal = "info_received" ∧
      argument = .ofOption payload.comment_body) ∨
    (workflow_id = gate_child_id ("automation-jira-" ++ payload.issue_key) payload.issue_key ∧
      signal = "approval_received" ∧ argument = .obj [("user_id",.ofOption payload.actor_account_id),
        ("decision",.ofOption payload.comment_body)])
  | _ => True

section
variable {payload : WebhookPayload}

private theorem plain_signals (c : Query) (plain : Plain c) : Signals payload c := by
  cases c with
  | signal_workflow => exact absurd plain id
  | _ => trivial

private theorem reads {α : Type} {p : Dispatch α} (plain : Asks Plain p) : Asks (Signals payload) p :=
  asks_mono plain_signals plain

private theorem audit_signals (action : String) (fields : List (String × Json)) :
    Asks (Signals payload) (audit action fields) := asks_ask trivial

private theorem check_budget_signals (dept_id : String) :
    Asks (Signals payload) (check_budget_pre_start payload dept_id) := by
  unfold check_budget_pre_start
  refine asks_bind (reads (query_plain trivial)) fun budget => ?_
  cases budget with
  | unwired => exact asks_pure _
  | allowed => exact asks_pure _
  | exceeded scope => exact asks_pure _
  | raised => exact asks_bind (audit_signals _ _) fun _ => asks_pure _
  | configuration_error => exact asks_bind (audit_signals _ _) fun _ => asks_pure _

private theorem dispatch_iterate_signals (dept_id : String) (dept_config : Option DepartmentConfig) :
    Asks (Signals payload) (dispatch_iterate payload dept_id dept_config) := by
  unfold dispatch_iterate
  split
  · exact asks_bind (audit_signals _ _) fun _ => asks_pure _
  · refine asks_bind (check_budget_signals dept_id) fun answered => ?_
    cases answered with
    | some rejection => exact asks_pure _
    | none =>
      have started : Asks (Signals payload) (start_iteration payload dept_id) := by
        refine asks_bind (reads (query_plain trivial)) fun hex => ?_
        exact asks_bind (asks_ask trivial) fun _ => asks_pure _
      exact asks_bind started fun _ => asks_bind (audit_signals _ _) fun _ => asks_pure _

private theorem dispatch_start_signals (dept_id : String) :
    Asks (Signals payload) (dispatch_start payload dept_id) := by
  unfold dispatch_start
  refine asks_bind (check_budget_signals dept_id) fun answered => ?_
  cases answered with
  | some rejection => exact asks_pure _
  | none =>
    refine asks_bind (reads (trace_id_plain payload)) fun trace_id => ?_
    have started : Asks (Signals payload) (start_workflow payload.issue_key dept_id trace_id) := by
      refine asks_bind (reads (capabilities_plain dept_id)) fun capabilities => ?_
      exact asks_bind (asks_ask trivial) fun _ => asks_pure _
    exact asks_bind started fun _ => asks_bind (audit_signals _ _) fun _ => asks_pure _

private theorem dispatch_normal_signals (dept_id : String) (dept_config : Option DepartmentConfig) :
    Asks (Signals payload) (dispatch_normal payload dept_id dept_config) := by
  unfold dispatch_normal
  split
  · exact dispatch_start_signals dept_id
  · refine asks_bind (reads (check_dept_concurrency_plain dept_id _)) fun counted => ?_
    cases counted with
    | within => exact dispatch_start_signals dept_id
    | exceeded current source =>
      refine asks_bind ?_ fun _ => asks_pure _
      unfold handle_concurrency_rejection
      refine asks_bind (audit_signals _ _) fun _ => asks_bind asks_look fun self => ?_
      split
      · exact asks_bind (reads (query_plain trivial)) fun _ => asks_pure _
      · exact asks_pure _

private theorem forward_approval_signals (dept_id : String) :
    Asks (Signals payload) (forward_approval_signal payload dept_id) := by
  unfold forward_approval_signal
  have child : "ApprovalGateWorkflow-automation-jira-" ++ payload.issue_key ++ "-" ++ payload.issue_key =
      gate_child_id ("automation-jira-" ++ payload.issue_key) payload.issue_key := by
    unfold gate_child_id
    rw [← String.append_assoc]
    rfl
  refine asks_bind (asks_ask (.inr ⟨child,rfl,rfl⟩)) fun outcome => ?_
  cases outcome with
  | ok => exact audit_signals _ _
  | already_running => exact audit_signals _ _
  | failed => exact audit_signals _ _

private theorem dispatch_enabled_signals (dept_id : String) (dept_config : Option DepartmentConfig) :
    Asks (Signals payload) (dispatch_enabled payload dept_id dept_config) := by
  unfold dispatch_enabled
  split
  · exact dispatch_iterate_signals dept_id dept_config
  · refine asks_bind (reads (is_reply_plain payload)) fun reply => ?_
    split
    · have replied : Asks (Signals payload) (signal_workflow payload.issue_key "info_received" payload.comment_body) :=
        asks_bind (asks_ask (.inl ⟨rfl,rfl,rfl⟩)) fun _ => asks_pure _
      exact asks_bind replied fun _ => asks_bind (audit_signals _ _) fun _ => asks_pure _
    · split
      · exact asks_bind (forward_approval_signals dept_id) fun _ => asks_pure _
      · exact dispatch_normal_signals dept_id dept_config

variable (payload)

theorem dispatch_signals (loads : String → Option Json) : Asks (Signals payload) (dispatch loads payload) := by
  unfold dispatch
  cases payload.assignee_account_id with
  | none => exact asks_bind (audit_signals _ _) fun _ => asks_pure _
  | some assignee =>
    refine asks_bind (reads (maybe_refresh_plain loads)) fun _ => ?_
    refine asks_bind (reads (resolve_dept_plain assignee)) fun resolved => ?_
    cases resolved with
    | none => exact asks_bind (audit_signals _ _) fun _ => asks_pure _
    | some dept_id =>
      refine asks_bind (reads (get_dept_config_plain loads dept_id)) fun dept_config => ?_
      by_cases disabled : dept_config.map DepartmentConfig.mode = some "disabled"
      · simp only [if_pos disabled]
        exact asks_bind (audit_signals _ _) fun _ => asks_pure _
      · simp only [if_neg disabled]
        exact dispatch_enabled_signals dept_id dept_config

end

/-- No comment reaches the handler of the gate, whatever it says, whoever wrote it,
    whether or not the gateway runs, and whatever the other answers are. -/
theorem approval_never_reaches (loads : String → Option Json) (payload : WebhookPayload) (oracle : Oracle queries)
    (self : DispatcherState) :
    ¬ReachesGate payload (exec (answer oracle) (dispatch loads payload) ⟨self,[]⟩).2.log := by
  rintro ⟨user_id,body,argument,outcome,row,decision,-,-,sent,decoded,-⟩
  obtain ⟨added,log,each⟩ := exec_asks (dispatch_signals payload loads) oracle ⟨self,[]⟩
  rw [log,List.nil_append] at sent
  rcases each _ sent with ⟨-,reply,-⟩ | ⟨-,-,mapping⟩
  · exact absurd reply (by decide)
  · -- The handler is called with one argument, the mapping.
    rw [mapping] at decoded
    cases decoded

/-! A comment on an issue of a bot, with the gateway running and without. -/

def decisionComment (body : String) : WebhookPayload :=
  { actor_account_id := some "approver-1", issue_key := "PAY-7", event_type := "comment_created"
    comment_body := some body, assignee_account_id := some "bot-1", reporter_account_id := none, dept_id := none
    trace_id := none }

/-- The caches know the bot and its department. -/
def warm : DispatcherState :=
  { bot_identity_cache := [("bot-1",⟨"bot-1","payments","jira"⟩)]
    dept_config_cache := [("payments",⟨"payments","active",["approver-1"],none⟩)]
    last_cache_refresh := 0, jira_commenter := false }

/-- Every call succeeds; the gateway has the status. -/
def gatewayStatus (status : String) : Oracle queries
  | _, .monotonic => 0
  | _, .load_tables => .error ()
  | _, .find_bot _ => .ok none
  | _, .find_dept _ => .ok none
  | _, .describe _ => .ok (.named status)
  | _, .work_item_status _ => .ok none
  | _, .count_via_temporal _ => .ok 0
  | _, .count_via_postgres _ => .ok 0
  | _, .check_budget _ _ _ => .allowed
  | _, .capability_rows _ => .error ()
  | _, .environ => []
  | _, .uuid4 => ""
  | _, .post_comment _ _ _ => .ok ()
  | _, .audit _ => ()
  | _, .start_workflow _ _ _ _ => .ok
  | _, .signal_workflow _ _ _ => .ok

def sentSignals (status body : String) : List (String × String) :=
  (exec (answer (gatewayStatus status)) (dispatch (fun _ => none) (decisionComment body)) ⟨warm,[]⟩).2.log.filterMap
    fun entry => match entry.cmd with
    | .signal_workflow workflow_id signal _ => some (workflow_id,signal)
    | _ => none

/-- With the gateway closed the comment is sent and not decoded; with the gateway
    running it is not sent to the gate; and where both markers stand in a comment,
    the gate may read another decision than the dispatcher audits. -/
theorem approval_lost_on_the_way :
    (sentSignals "COMPLETED" "[approve]" = [("ApprovalGateWorkflow-automation-jira-PAY-7-PAY-7","approval_received")] ∧
      ¬ReachesGate (decisionComment "[approve]") (exec (answer (gatewayStatus "COMPLETED"))
        (dispatch (fun _ => none) (decisionComment "[approve]")) ⟨warm,[]⟩).2.log) ∧
    sentSignals "RUNNING" "[approve]" = [("automation-jira-PAY-7","info_received")] ∧
    approval_token "[reject], not [approve]" = some "reject" ∧
    parse_approval_decision "[reject], not [approve]" = some .approve := by
  refine ⟨⟨by rfl,?_⟩,by rfl,by rfl,by rfl⟩
  rintro ⟨user_id,body,argument,outcome,row,decision,-,-,-,decoded,-⟩
  cases argument <;> cases decoded

end Automation.ApprovalRouting
