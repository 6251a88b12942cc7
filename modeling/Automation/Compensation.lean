import Automation.AgentCancel

/-!
The compensation chain. `compensation_chain_run` walks its steps in a fixed order,
and all but the Jira comment are skipped by design: the cancel context names the
run and the cancel, but no pull request, branch or page. So the report of a chain
is a function of its payload, and its payload one of the input and the first
cancel, whatever the run has done (`compensation_reports`).
-/
namespace Automation.Compensation
open Automation.Effects Automation.Coroutine Automation.AgentMessages Automation.AgentState Automation.AgentExtract
open Automation.AgentHandlers Automation.AgentRunner Automation.AgentCancel Automation.PyText

def COMPENSATION_STEPS : List String :=
  ["close_draft_pr_if_open","delete_ai_branch_if_unused","label_confluence_page_cancelled",
    "leave_minio_artifacts_for_retention","post_cancel_jira_comment","transition_jira_issue_if_configured"]

def SKIPPED_BY_DESIGN : List String :=
  ["close_draft_pr_if_open","delete_ai_branch_if_unused","label_confluence_page_cancelled",
    "leave_minio_artifacts_for_retention","transition_jira_issue_if_configured"]

inductive StepOutcome where
  | ok
  | failed
  | skipped
  deriving DecidableEq

structure CompensationReport where
  ok : Bool
  attempted_steps : List String
  step_results : List (String × StepOutcome)

def cancel_comment_body (reason actor_role : String) : String :=
  let actor := orText (strip (orText actor_role "system")) "system"
  let why := strip reason
  let suffix := if why = "" then "" else " Sebep: " ++ why ++ "."
  " Otomasyon iş akışı iptal edildi ve yapılan ara adımlar geri alındı (" ++ actor ++ ")." ++ suffix ++
    " Devam etmek için yeni bir yorum yazın."

section
variable (py : Python)

/-- Whether the Jira tool accepts a comment: by issue, body and department. -/
abbrev JiraComment := String → String → String → Bool

variable (jira_add_comment : JiraComment)

def post_cancel_comment (issue_key dept_id body : String) : StepOutcome :=
  if issue_key = "" then .skipped
  else if jira_add_comment issue_key body dept_id then .ok
  else .failed

/-- `str(payload.get(key) or default)`. -/
def payload_text (payload : Json) (key default : String) : String :=
  pyString py ((payload.get key).orElse (.str default))

def run_step (payload : Json) (step : String) : StepOutcome :=
  if step = "post_cancel_jira_comment" then
    post_cancel_comment jira_add_comment (payload_text py payload "issue_key" "") (payload_text py payload "dept_id" "")
      (cancel_comment_body (payload_text py payload "reason" "") (payload_text py payload "actor_role" "system"))
  else if SKIPPED_BY_DESIGN.contains step then .skipped
  else .skipped

/-- The loop over the steps, with what it has appended so far. -/
def run_steps (payload : Json) : List String → CompensationReport → CompensationReport
  | [], report => report
  | step :: rest, report => run_steps payload rest { report with
      attempted_steps := report.attempted_steps ++ [step]
      step_results := report.step_results ++ [(step,run_step py jira_add_comment payload step)] }

def compensation_chain_run (payload : Json) : CompensationReport :=
  run_steps py jira_add_comment (if payload.isObj then payload else .obj []) COMPENSATION_STEPS
    { ok := true, attempted_steps := [], step_results := [] }

end

/-- The payload as the activity receives it. -/
def toJson (payload : CompensationPayload) : Json :=
  .obj [("workflow_id",.str payload.workflow_id),("dept_id",.str payload.dept_id),("issue_key",.str payload.issue_key),
    ("actor_id",.str payload.actor_id),("actor_role",.str payload.actor_role),("reason",.str payload.reason)]

section
variable {py : Python} {jira_add_comment : JiraComment}

theorem run_steps_eq (payload : Json) (steps : List String) (report : CompensationReport) :
    run_steps py jira_add_comment payload steps report =
      { ok := report.ok
        attempted_steps := report.attempted_steps ++ steps
        step_results := report.step_results ++ steps.map fun step => (step,run_step py jira_add_comment payload step) } := by
  induction steps generalizing report with
  | nil => simp [run_steps]
  | cons step rest ih => simp [run_steps,ih]

theorem run_step_skipped (payload : Json) {step : String} (other : step ≠ "post_cancel_jira_comment") :
    run_step py jira_add_comment payload step = .skipped := by
  simp [run_step,other]

private theorem payload_text_str (payload : CompensationPayload) {key value : String} (default : String)
    (field : (toJson payload).get key = .str value) : payload_text py (toJson payload) key default = orText value default := by
  rw [payload_text,field,Json.orElse,orText]
  by_cases empty : value = ""
  · simp [empty,Json.truthy,pyString,Json.pyStr]
  · simp [empty,Json.truthy,pyString,Json.pyStr]

/-- The comment of a cancel, which is all the chain does. -/
def commentOutcome (jira_add_comment : JiraComment) (payload : CompensationPayload) : StepOutcome :=
  post_cancel_comment jira_add_comment payload.issue_key payload.dept_id
    (cancel_comment_body payload.reason (orText payload.actor_role "system"))

theorem run_step_comment (payload : CompensationPayload) :
    run_step py jira_add_comment (toJson payload) "post_cancel_jira_comment" = commentOutcome jira_add_comment payload := by
  have same : ∀ value : String, orText value "" = value := fun value => by
    by_cases empty : value = "" <;> simp [orText,empty]
  rw [run_step,if_pos rfl,payload_text_str payload "" (show _ = Json.str payload.issue_key from rfl),
    payload_text_str payload "" (show _ = Json.str payload.dept_id from rfl),
    payload_text_str payload "" (show _ = Json.str payload.reason from rfl),
    payload_text_str payload "system" (show _ = Json.str payload.actor_role from rfl),same,same,same]
  rfl

/-- The report of the chain on the payload of a run. -/
def reportOn (jira_add_comment : JiraComment) (payload : CompensationPayload) : CompensationReport where
  ok := true
  attempted_steps := COMPENSATION_STEPS
  step_results :=
    [("close_draft_pr_if_open",.skipped),("delete_ai_branch_if_unused",.skipped),
      ("label_confluence_page_cancelled",.skipped),("leave_minio_artifacts_for_retention",.skipped),
      ("post_cancel_jira_comment",commentOutcome jira_add_comment payload),
      ("transition_jira_issue_if_configured",.skipped)]

theorem chain_report (payload : CompensationPayload) :
    compensation_chain_run py jira_add_comment (toJson payload) = reportOn jira_add_comment payload := by
  have object : (toJson payload).isObj = true := rfl
  rw [compensation_chain_run,object,if_pos rfl,run_steps_eq]
  simp [COMPENSATION_STEPS,reportOn,run_step_skipped,run_step_comment]

end

section
variable (ctx : Context) (inp : AgentRunnerWorkflowInput) (env : Environment (agent ctx.py)) (pre : List Delivery)

/-- What a run sends to the chain is fixed by its input, the first cancel it saw and
    how its body ended, and the chain posts the comment and skips the rest. -/
theorem compensation_reports (jira_add_comment : JiraComment) :
    ∃ ended, (bodyEnd ctx inp env pre).1 = .ok ended ∧
      payloads (finished ctx inp env pre).2.events =
        sentAfter ctx inp (cancelledBy ctx.py (seenByBody ctx inp env pre)) ended ∧
      ∀ payload ∈ payloads (finished ctx inp env pre).2.events,
        compensation_chain_run ctx.py jira_add_comment (toJson payload) = reportOn jira_add_comment payload := by
  obtain ⟨ended,r,ran⟩ : ∃ ended r, bodyEnd ctx inp env pre = (.ok ended,r) := exec_returns _ _ _
  obtain ⟨_,_,_,sent⟩ := finished_ends ctx inp env pre ran
  have recorded := (bodyEnd_cancel ctx inp env pre).2
  rw [← recorded,ran]
  exact ⟨ended,rfl,sent,fun payload _ => chain_report payload⟩

/-- A pull request by its number. -/
def pr_name (reply : Json) : String :=
  match extract_pr_id_from_info ctx.py reply with
  | .ok (some pr_id) => toString pr_id
  | _ => ""

/-- What a successful call leaves behind: the step that should undo it, and its name. -/
def leftBehind : AgentCall → Json → Option (String × String)
  | .bitbucket_commit_via_git request, _ => some ("delete_ai_branch_if_unused",request.branch_name)
  | .body (.create_pull_request ..), reply => some ("close_draft_pr_if_open",pr_name ctx reply)
  | .body (.confluence_create_page ..), reply =>
    some ("label_confluence_page_cancelled",orEmpty (extract_confluence_page_id ctx.py reply))
  | .body (.output_action "bitbucket_open_pr" _), reply => some ("close_draft_pr_if_open",pr_name ctx reply)
  | .body (.output_action "confluence_create_page" _), reply =>
    some ("label_confluence_page_cancelled",orEmpty (extract_confluence_page_id ctx.py reply))
  | _, _ => none

/-- One of the texts of the payload mentions the name. -/
def identifies (payload : CompensationPayload) (name : String) : Bool :=
  [payload.workflow_id,payload.dept_id,payload.issue_key,payload.actor_id,payload.actor_role,payload.reason].any
    (contains · name)

/-- Whatever the run left behind is named in each payload it sent, and the chain's
    step for it is not skipped. -/
def Undone (jira_add_comment : JiraComment) : Prop :=
  ∀ (call : AgentCall) (reply : Json) step name,
    .replied call (.ok reply) ∈ (finished ctx inp env pre).2.events →
    leftBehind ctx call reply = some (step,name) →
    ∀ payload ∈ payloads (finished ctx inp env pre).2.events,
      identifies payload name = true ∧
        (step,StepOutcome.skipped) ∉ (compensation_chain_run ctx.py jira_add_comment (toJson payload)).step_results

end

/-! The user cancels while the branch of a commit is pushed. -/

def pushed_then_cancelled : Environment (agent worker.py) := replying fun
  | .body (.opencode_generate_code _ _ _) =>
    ([],.ok (.obj [("files",.arr [.obj [("path",.str "a.py"),("content",.str "x = 1")]])]))
  | .body (.precommit_scanner _) => ([],.ok (.obj [("decision",.str "allow")]))
  | .bitbucket_commit_via_git _ => ([{ kind := .cancel_requested, payload := .null, now := 0 }],.ok (.obj []))
  | _ => ([],.ok .null)

def cancelled_push : Except Empty AgentRunnerWorkflowOutput × Run (agent worker.py) :=
  finished worker (issue "code_change_commit_only") pushed_then_cancelled []

def pushes (branch_name : String) : Event (agent worker.py) → Bool
  | .replied (.bitbucket_commit_via_git request) (.ok (.obj [])) => request.branch_name = branch_name
  | _ => false

def push_context : CompensationPayload :=
  cancelContext worker (issue "code_change_commit_only") (cancelledBy worker.py [⟨.cancel_requested,.null,0⟩])

theorem branch_left_behind :
    cancelled_push.2.events.any (pushes "ai/PAY-7") = true ∧ payloads cancelled_push.2.events = [push_context] ∧
      identifies push_context "ai/PAY-7" = false ∧
      ("delete_ai_branch_if_unused",StepOutcome.skipped) ∈
        (compensation_chain_run worker.py (fun _ _ _ => true) (toJson push_context)).step_results ∧
      ¬Undone worker (issue "code_change_commit_only") pushed_then_cancelled [] fun _ _ _ => true := by
  have ran : cancelled_push.2.events.any (pushes "ai/PAY-7") = true ∧
      payloads cancelled_push.2.events = [push_context] := by decide +kernel
  have unknown : identifies push_context "ai/PAY-7" = false := by decide
  refine ⟨ran.1,ran.2,unknown,by simp [chain_report,reportOn],fun undone => ?_⟩
  rw [Undone,← cancelled_push] at undone
  obtain ⟨event,replied,pushed⟩ := List.any_eq_true.mp ran.1
  unfold pushes at pushed
  split at pushed
  · next request =>
    have behind : leftBehind worker (.bitbucket_commit_via_git request) (.obj []) =
        some ("delete_ai_branch_if_unused","ai/PAY-7") := by rw [leftBehind,of_decide_eq_true pushed]
    have sent : push_context ∈ payloads cancelled_push.2.events := by
      rw [ran.2]
      exact List.mem_singleton_self push_context
    have known := (undone _ _ _ _ replied behind push_context sent).1
    rw [unknown] at known
    cases known
  · cases pushed

end Automation.Compensation
