import Automation.AgentHandlers

/-!
`AgentRunnerWorkflow.run`: the iteration cap, the body, and what each way out of
the body ends with. The run is cut at the end of the body (`bodyEnd`), where a
pending cancel and the exception of the body meet.
-/
namespace Automation.AgentRunner
open Automation.Effects Automation.Coroutine Automation.AgentMessages Automation.AgentState Automation.AgentHandlers

section
variable (ctx : Context) (inp : AgentRunnerWorkflowInput)

abbrev Agent : Type → Type := Prog (acts (agent ctx.py)) Empty

def act (c : Act (agent ctx.py)) : Agent ctx ((acts (agent ctx.py)).Res c) := command (S := acts (agent ctx.py)) c

def build_output (status : AgentRunnerStatus) (summary : String) : Agent ctx AgentRunnerWorkflowOutput := do
  let self ← act ctx .look
  return { status, summary
           iter_count := self.notes.iteration_state.iter_count
           partial_failure_actions := self.output_actions_partial_kinds
           failure_reason := self.verdict.failure_reason
           confluence_page_id := self.notes.latest_confluence_page_id }

def audit_action_for_cancel_role (actor_role : String) : String :=
  if actor_role = "admin" ∨ actor_role = "dept_admin" then "workflow_cancelled_by_admin"
  else "workflow_cancelled_by_end_user"

def latch_compensation : Agent ctx Unit :=
  act ctx (.modify fun self => { self with cancel := { self.cancel with compensation_running := true } })

def handle_cancel : Agent ctx AgentRunnerWorkflowOutput := do
  latch_compensation ctx
  let self ← act ctx .look
  let _ ← act ctx (.await (.compensation_chain_run
    { workflow_id := ctx.workflow_id, dept_id := inp.department_id, issue_key := inp.issue_key
      actor_id := self.cancel.cancel_actor_id, actor_role := self.cancel.cancel_actor_role
      reason := self.cancel.cancel_reason }))
  let self ← act ctx .look
  (emit_audit_action ctx inp (audit_action_for_cancel_role self.cancel.cancel_actor_role)).embed (quietEmbedding ctx.py)
  build_output ctx .cancelled " Bu task iptal edildi."

def handle_output_action_critical : Agent ctx AgentRunnerWorkflowOutput := do
  latch_compensation ctx
  let _ ← act ctx (.await (.compensation_chain_run
    { workflow_id := ctx.workflow_id, dept_id := inp.department_id, issue_key := inp.issue_key
      actor_id := "", actor_role := "system", reason := "output_action_critical_failed" }))
  let self ← act ctx .look
  let log := self.notes.output_actions_log
  let summary := format_final_jira_comment log.successful_critical (log.failed_critical ++ log.failed_best_effort)
  build_output ctx .failed (orText summary " Kritik yan-aksiyon başarısız oldu.")

def OUT_OF_SCOPE_TEXT : String := " Maksimum iterasyon sayısına ulaşıldı, lütfen yeni bir task açın."

/-- `raise` of an exception that is neither of the workflow's own nor a token cap. -/
def body_error (failure_reason : Option String) : Option String :=
  some (orText (orEmpty failure_reason) "agent_runner_body_error")

def conclude_as (reason : Option String → Option String) : Agent ctx Unit :=
  act ctx (.modify fun self => { self with verdict := { self.verdict with
    failure_reason := reason self.verdict.failure_reason } })

/-- The `except` branches. -/
def after_exception (raised : Raised) : Agent ctx AgentRunnerWorkflowOutput :=
  match raised with
  | .cancelledViaSignal => handle_cancel ctx inp
  | .epicSubtaskFailed _ => build_output ctx .failed
      " Epic durduruldu: bir subtask başarısız oldu. Ayrıntılar Epic yorumlarında."
  | .outOfScope => build_output ctx .out_of_scope OUT_OF_SCOPE_TEXT
  | .outputActionCriticalFailure _ => do
    act ctx (.modify fun self => { self with
      verdict := { self.verdict with failure_reason := some "output_action_critical_failed" }
      cancel := { self.cancel with cancel_reason := "user_cancel" } })
    handle_output_action_critical ctx inp
  | .tokenCapExceeded _ input_tokens cap => do
    conclude_as ctx fun _ => some "token_cap_exceeded"
    build_output ctx .failed (" Token cap aşıldı (girdi token sayısı " ++ toString input_tokens ++ " > " ++ toString cap ++
      "); LLM çağrısı yapılmadı.")
  | .error failure => do
    conclude_as ctx body_error
    build_output ctx .failed (" Agent runner başarısız: " ++ failure.message)

/-- What follows a body that returned. -/
def after_return : Agent ctx AgentRunnerWorkflowOutput := do
  let self ← act ctx .look
  let log := self.notes.output_actions_log
  let final_summary := format_final_jira_comment log.successful_critical log.failed_best_effort
  if self.cancel.cancel_requested then handle_cancel ctx inp
  else if self.verdict.out_of_scope then build_output ctx .out_of_scope OUT_OF_SCOPE_TEXT
  else if self.output_actions_partial_kinds.isEmpty = false ∨ log.failed_best_effort.isEmpty = false then
    build_output ctx .completed_with_partial_failure (orText final_summary
      (" Tamamlandı, ancak bazı yan-aksiyonlar başarısız: " ++ ", ".intercalate self.output_actions_partial_kinds))
  else build_output ctx .completed (orText final_summary " Tamamlandı.")

/-- The exception the body ends with, if any. -/
def run_body : Agent ctx (Option Raised) :=
  ((dispatch_workflow_type ctx inp).embed (spineEmbedding ctx.py) >>= fun _ => pure none).attempt fun raised =>
    pure (some raised)

/-- The start of a run: the reason why the iteration is refused, if it is. -/
def admit_iteration : Agent ctx (Option String) := do
  let max_iter := if 0 < inp.max_iter then min inp.max_iter MAX_ITER else MAX_ITER
  act ctx (.modify fun self => { self with notes := { self.notes with
    iteration_state := { self.notes.iteration_state with iter_count := max 0 (inp.iteration - 1) } } })
  let self ← act ctx .look
  match should_advance_iter self.notes.iteration_state max_iter with
  | some reason => return some reason
  | none =>
    act ctx (.modify fun self => { self with notes := advance_iter_with_banner_check self.notes })
    return none

/-- A run until its body ends; the reason, if the iteration is refused and there is no body. -/
def until_body_end : Agent ctx (Except String (Option Raised)) := do
  match ← admit_iteration ctx inp with
  | some reason => return .error reason
  | none =>
    let ended ← run_body ctx inp
    return .ok ended

def after_body_end (ended : Except String (Option Raised)) : Agent ctx AgentRunnerWorkflowOutput :=
  match ended with
  | .error reason => do
    act ctx (.modify fun self => { self with verdict := { out_of_scope := true, failure_reason := some reason } })
    build_output ctx .out_of_scope OUT_OF_SCOPE_TEXT
  | .ok (some raised) => after_exception ctx inp raised
  | .ok none => after_return ctx inp

def run : Agent ctx AgentRunnerWorkflowOutput := until_body_end ctx inp >>= after_body_end ctx inp

variable (env : Environment (agent ctx.py)) (pre : List Delivery)

/-- A workflow whose first `pre` signals are handled before its first line. -/
def start : Run (agent ctx.py) := { self := handle (W := agent ctx.py) pre .init, turn := 0, events := [] }

def bodyEnd : Except Empty (Except String (Option Raised)) × Run (agent ctx.py) :=
  exec (suspend env) (until_body_end ctx inp) (start ctx pre)

/-- The output, with the whole run. -/
def finished : Except Empty AgentRunnerWorkflowOutput × Run (agent ctx.py) :=
  exec (suspend env) (run ctx inp) (start ctx pre)

theorem finished_eq {ended : Except String (Option Raised)} {r : Run (agent ctx.py)}
    (body : bodyEnd ctx inp env pre = (.ok ended,r)) :
    finished ctx inp env pre = exec (suspend env) (after_body_end ctx inp ended) r := by
  rw [bodyEnd] at body
  rw [finished,run,exec_bind,body]

theorem run_body_eq (r : Run (agent ctx.py)) :
    exec (suspend env) (run_body ctx inp) r =
      match exec (spineHandler env) (dispatch_workflow_type ctx inp) r with
      | (.ok _,t) => (.ok none,t)
      | (.error raised,t) => (.ok (some raised),t) := by
  rw [run_body,exec_attempt,exec_bind,exec_embed,spineHandler]
  cases exec ((spineEmbedding ctx.py).handler (suspend env)) (dispatch_workflow_type ctx inp) r with
  | mk result t => cases result <;> rfl

variable {ctx inp env pre}

variable (inp env) in
theorem admit_iteration_keeps {R : Run (agent ctx.py) → Run (agent ctx.py) → Prop} (related : QuietRelation R)
    (r : Run (agent ctx.py)) : R r (exec (suspend env) (admit_iteration ctx inp) r).2 := by
  have numbered := related.note (fun notes => { notes with
    iteration_state := { notes.iteration_state with iter_count := max 0 (inp.iteration - 1) } }) r
  simp only [admit_iteration,act,command,exec_bind,exec_call,exec_ret,suspend_modify,suspend_look]
  split
  · exact numbered
  · exact related.trans _ _ _ numbered (related.note advance_iter_with_banner_check _)

theorem bodyEnd_refused {reason : String} {r : Run (agent ctx.py)}
    (refused : exec (suspend env) (admit_iteration ctx inp) (start ctx pre) = (.ok (some reason),r)) :
    bodyEnd ctx inp env pre = (.ok (.error reason),r) := by
  rw [bodyEnd,until_body_end,exec_bind,refused]
  rfl

theorem bodyEnd_admitted {r : Run (agent ctx.py)}
    (admitted : exec (suspend env) (admit_iteration ctx inp) (start ctx pre) = (.ok none,r)) :
    bodyEnd ctx inp env pre =
      match exec (spineHandler env) (dispatch_workflow_type ctx inp) r with
      | (.ok _,t) => (.ok (.ok none),t)
      | (.error raised,t) => (.ok (.ok (some raised)),t) := by
  rw [bodyEnd,until_body_end,exec_bind,admitted]
  simp only [exec_bind,run_body_eq]
  cases exec (spineHandler env) (dispatch_workflow_type ctx inp) r with
  | mk result t => cases result <;> rfl

theorem bodyEnd_returned {t : Run (agent ctx.py)} (returned : bodyEnd ctx inp env pre = (.ok (.ok none),t)) :
    ∃ r, exec (suspend env) (admit_iteration ctx inp) (start ctx pre) = (.ok none,r) ∧
      exec (spineHandler env) (dispatch_workflow_type ctx inp) r = (.ok (),t) := by
  obtain ⟨reason,r,ran⟩ := exec_returns (suspend env) (admit_iteration ctx inp) (start ctx pre)
  cases reason with
  | some reason =>
    rw [bodyEnd_refused ran] at returned
    cases returned
  | none =>
    rw [bodyEnd_admitted ran] at returned
    refine ⟨r,ran,?_⟩
    split at returned
    · next ended =>
      cases returned
      exact ended
    · cases returned

variable (inp env pre) in
theorem bodyEnd_keeps {R : Run (agent ctx.py) → Run (agent ctx.py) → Prop} (related : SpineRelation R) :
    R (start ctx pre) (bodyEnd ctx inp env pre).2 := by
  obtain ⟨reason,r,ran⟩ := exec_returns (suspend env) (admit_iteration ctx inp) (start ctx pre)
  have admitted : R (start ctx pre) (exec (suspend env) (admit_iteration ctx inp) (start ctx pre)).2 :=
    admit_iteration_keeps inp env related.toQuietRelation (start ctx pre)
  rw [ran] at admitted
  cases reason with
  | some reason =>
    rw [bodyEnd_refused ran]
    exact admitted
  | none =>
    have ended := related.spine env (dispatch_workflow_type ctx inp) r
    rw [bodyEnd_admitted ran]
    refine related.trans _ _ _ admitted ?_
    cases outcome : exec (spineHandler env) (dispatch_workflow_type ctx inp) r with
    | mk result t =>
      rw [outcome] at ended
      cases result <;> exact ended

end

section
variable {ctx : Context}

/-- What a run does around its body: it looks, changes its state, runs the compensation
    chain and emits audits. -/
structure Around (φ : Act (agent ctx.py) → Prop) : Prop where
  look : φ .look
  modify : ∀ f, φ (.modify f)
  compensate : ∀ payload, φ (.await (.compensation_chain_run payload))
  audit : ∀ row, φ (.await (.body (.audit_emit row)))

variable (inp : AgentRunnerWorkflowInput) {φ : Act (agent ctx.py) → Prop}

private theorem issues_act {c : Act (agent ctx.py)} (holds : φ c) : Issues φ (act ctx c) := ⟨holds,fun _ => trivial⟩

private theorem build_output_issues (around : Around φ) (status : AgentRunnerStatus) (summary : String) :
    Issues φ (build_output ctx status summary) := issues_bind (issues_act around.look) fun _ => trivial

private theorem handle_cancel_issues (around : Around φ) : Issues φ (handle_cancel ctx inp) := by
  refine issues_bind (issues_act (around.modify _)) fun _ => issues_bind (issues_act around.look) fun self => ?_
  refine issues_bind (issues_act (around.compensate _)) fun _ => issues_bind (issues_act around.look) fun self => ?_
  refine issues_bind (issues_embedded ⟨around.look,fun _ => ⟨around.audit _,fun _ => trivial⟩⟩) fun _ => ?_
  exact build_output_issues around _ _

private theorem after_exception_issues (around : Around φ) (raised : Raised) : Issues φ (after_exception ctx inp raised) := by
  cases raised with
  | cancelledViaSignal => exact handle_cancel_issues inp around
  | epicSubtaskFailed child_key => exact build_output_issues around _ _
  | outOfScope => exact build_output_issues around _ _
  | outputActionCriticalFailure result =>
    refine issues_bind (issues_act (around.modify _)) fun _ => issues_bind (issues_act (around.modify _)) fun _ => ?_
    refine issues_bind (issues_act (around.compensate _)) fun _ => issues_bind (issues_act around.look) fun _ => ?_
    exact build_output_issues around _ _
  | tokenCapExceeded activity_name input_tokens cap =>
    exact issues_bind (issues_act (around.modify _)) fun _ => build_output_issues around _ _
  | error failure => exact issues_bind (issues_act (around.modify _)) fun _ => build_output_issues around _ _

theorem after_body_end_issues (around : Around φ) (ended : Except String (Option Raised)) :
    Issues φ (after_body_end ctx inp ended) := by
  match ended with
  | .error reason => exact issues_bind (issues_act (around.modify _)) fun _ => build_output_issues around _ _
  | .ok (some raised) => exact after_exception_issues inp around raised
  | .ok none =>
    refine issues_bind (issues_act around.look) fun self => ?_
    refine issues_ite (handle_cancel_issues inp around) (issues_ite (build_output_issues around _ _) ?_)
    exact issues_ite (build_output_issues around _ _) (build_output_issues around _ _)

theorem admit_iteration_issues (around : Around φ) : Issues φ (admit_iteration ctx inp) := by
  refine issues_bind (issues_act (around.modify _)) fun _ => issues_bind (issues_act around.look) fun self => ?_
  split
  · trivial
  · exact issues_bind (issues_act (around.modify _)) fun _ => trivial

theorem run_issues (around : Around φ)
    (dispatched : Issues (fun step : SpineStep => φ (step.act ctx.py)) (dispatch_workflow_type ctx inp)) : Issues φ (run ctx inp) := by
  refine issues_bind (issues_bind (admit_iteration_issues inp around) fun reason => ?_) fun ended =>
    after_body_end_issues inp around ended
  cases reason with
  | some reason => trivial
  | none =>
    refine issues_bind (issues_attempt (issues_bind (issues_embedded dispatched) fun _ => trivial) fun _ => trivial) fun _ => ?_
    trivial

end

/-! A run of issue PAY-7 of a department, whose activities reply by the call alone. -/

def worker : Context where
  workflow_id := "wf-1"
  run_id := "0123456789"
  py := { repr := fun _ => "", dumps := fun _ => "", sha256 := fun text => text, isodate := fun _ => "2026-01-01"
          fromisoformat := fun _ => none }

def issue (workflow_type : String) : AgentRunnerWorkflowInput where
  issue_key := "PAY-7"
  department_id := "payments"
  workflow_type := workflow_type
  analysis := { target_repo := none, target_branch := none, target_space := none, target_page_id := some "4711", title := "Fix"
                rationale := "", output_actions := [], needs_docker := false, execution_command := none }
  target_repo := some "billing"
  target_branch := none
  iteration := 1
  max_iter := 5
  default_language := "tr"
  trace_id := ""
  available_capabilities := []
  available_repos := []
  available_spaces := []

/-- Every activity replies, and only the wait of no handler sees a signal. -/
def replying (reply : AgentCall → List Delivery × Except Failure Json) : Environment (agent worker.py) where
  activity _ c := reply c
  waiting _ := []
  clock _ := 0

end Automation.AgentRunner
