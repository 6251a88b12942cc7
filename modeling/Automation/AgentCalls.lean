import Automation.AgentHandlers

/-!
The calls that the programs of the agent can make. What a program issues is read off its
text: one lemma for each step that the handlers share, and for the output actions the
calls that each action leads to (`calls_output_actions`).
-/
namespace Automation.AgentCalls
open Automation.Effects Automation.Coroutine Automation.AgentMessages Automation.AgentState Automation.AgentHandlers

section
variable (ψ : Call → Prop)

/-- Every call of the step is one of `ψ`. -/
def quietCalls : QuietStep → Prop
  | .await c => ψ c
  | _ => True

def bodyCalls : BodyStep → Prop
  | .quiet step => quietCalls ψ step
  | .conclude _ => True

def spineCalls : SpineStep → Prop
  | .body step => bodyCalls ψ step
  | .commit _ => True

def BodyCall : AgentCall → Prop
  | .body c => ψ c
  | _ => True

end

section
variable {ctx : Context} {inp : AgentRunnerWorkflowInput} {ψ : Call → Prop} {ε : Type}

theorem spineCalls_act {py : Python} {step : SpineStep} (calls : spineCalls ψ step) :
    Act.Calls (BodyCall ψ) (step.act py) := by
  cases step with
  | commit request => trivial
  | body step =>
    cases step with
    | conclude f => trivial
    | quiet step =>
      cases step with
      | await c => exact calls
      | look => trivial
      | note f => trivial
      | record action_kind => trivial
      | clock => trivial
      | wait ready => trivial

theorem calls_quiet {α : Type} {p : Quiet Raised α} (calls : Issues (quietCalls ψ) p) : Issues (bodyCalls ψ) (quiet p) :=
  issues_embedded calls

theorem calls_body {α : Type} {p : Body α} (calls : Issues (bodyCalls ψ) p) : Issues (spineCalls ψ) (body p) :=
  issues_embedded calls

theorem calls_fail {α : Type} (reason : String) (raised : Raised) : Issues (bodyCalls ψ) (fail reason raised : Body α) :=
  ⟨trivial,fun _ => trivial⟩

theorem calls_critical {c : Call} (called : ψ c) (reason : String) : Issues (bodyCalls ψ) (critical reason c) := by
  refine ⟨called,fun reply => ?_⟩
  cases reply with
  | ok value => trivial
  | error failure => exact calls_fail _ _

theorem calls_attempted {α : Type} (result : Except Failure α) : Issues (bodyCalls ψ) (attempted result) := by
  cases result with
  | ok value => trivial
  | error failure => trivial

theorem calls_look : Issues (bodyCalls ψ) (quiet look) := ⟨trivial,fun _ => trivial⟩

theorem calls_note (change : Notes → Notes) : Issues (bodyCalls ψ) (quiet (note change)) := ⟨trivial,fun _ => trivial⟩

theorem calls_conclude (change : Verdict → Verdict) : Issues (bodyCalls ψ) (conclude change) := ⟨trivial,fun _ => trivial⟩

theorem calls_emit (emitted : ∀ row, ψ (.audit_emit row)) (action : String) :
    Issues (quietCalls ψ) (emit_audit_action ctx inp action : Quiet ε Unit) :=
  ⟨trivial,fun _ => ⟨emitted _,fun _ => trivial⟩⟩

theorem calls_comment {text : String} (posted : ψ (.jira_add_comment inp.issue_key text inp.department_id)) :
    Issues (quietCalls ψ) (post_jira_comment_best_effort inp text : Quiet ε Unit) := by
  refine ⟨posted,fun reply => ?_⟩
  cases reply with
  | ok value => trivial
  | error failure => exact ⟨trivial,fun _ => trivial⟩

/-- The calls of the output actions that satisfy `P`: the payload is stored, the activity is
    called, and a new pull request is announced. -/
structure ActionCalls (ctx : Context) (inp : AgentRunnerWorkflowInput) (P : OutputAction → Prop) (ψ : Call → Prop) : Prop where
  store : ∀ key body, ψ (.minio_put_output_action key body)
  announce : ∀ url, ψ (.jira_add_comment inp.issue_key (" Draft PR açıldı: " ++ url) inp.department_id)
  activity : ∀ action, P action → ∀ activity_name args last_commit_branch,
    OUTPUT_ACTION_DISPATCH action.kind = some activity_name → activity_args ctx inp action last_commit_branch = .ok args →
      ψ (.output_action activity_name args)

variable {P : OutputAction → Prop} (calls : ActionCalls ctx inp P ψ)
include calls

private theorem calls_redirect (action : OutputAction) (idx : Nat) :
    Issues (quietCalls ψ) (redirect_oversized_payload ctx action idx) := by
  unfold redirect_oversized_payload
  split
  · trivial
  · simp only
    split
    · trivial
    · refine issues_bind ⟨calls.store _ _,fun reply => ?_⟩ fun _ => trivial
      cases reply with
      | error failure => trivial
      | ok uri =>
        simp only [Prog.bind]
        split
        · trivial
        · trivial

private theorem calls_redirect_all (items : List (OutputAction × Nat)) : Issues (quietCalls ψ) (redirect_all ctx items) := by
  induction items with
  | nil => trivial
  | cons item rest ih => exact issues_bind (calls_redirect calls item.1 item.2) fun _ => issues_bind ih fun _ => trivial

private theorem calls_after_create_pr (activity_result : Json) :
    Issues (quietCalls ψ) (after_create_pr ctx inp activity_result) := by
  unfold after_create_pr
  split
  · trivial
  · refine issues_bind ⟨trivial,fun _ => trivial⟩ fun _ => ?_
    exact issues_ite trivial (calls_comment (calls.announce _))

private theorem calls_apply_single {action : OutputAction} (listed : P action) :
    Issues (quietCalls ψ) (apply_single_output_action ctx inp action) := by
  unfold apply_single_output_action
  split
  · trivial
  · next activity_name dispatched =>
    refine issues_bind ⟨trivial,fun _ => trivial⟩ fun self => ?_
    split
    · trivial
    · next args arguments =>
      refine issues_bind ⟨calls.activity action listed _ _ _ dispatched arguments,fun _ => trivial⟩ fun reply => ?_
      split
      · trivial
      · exact issues_ite (issues_bind (calls_after_create_pr calls _) fun _ => trivial) trivial

private theorem calls_apply_critical {actions : List OutputAction} (each : ∀ action ∈ actions, P action)
    (result : ApplyResult) : Issues (bodyCalls ψ) (apply_critical ctx inp actions result) := by
  induction actions generalizing result with
  | nil => trivial
  | cons action rest ih =>
    obtain ⟨here,others⟩ := List.forall_mem_cons.mp each
    refine issues_bind (calls_quiet (calls_apply_single calls here)) fun reason => ?_
    cases reason with
    | none => exact ih others _
    | some reason => exact issues_bind (calls_note _) fun _ => calls_fail _ _

private theorem calls_apply_best_effort {actions : List OutputAction} (each : ∀ action ∈ actions, P action)
    (result : ApplyResult) : Issues (quietCalls ψ) (apply_best_effort ctx inp actions result) := by
  induction actions generalizing result with
  | nil => trivial
  | cons action rest ih =>
    obtain ⟨here,others⟩ := List.forall_mem_cons.mp each
    refine issues_bind (calls_apply_single calls here) fun reason => ?_
    cases reason with
    | none => exact ih others _
    | some reason => exact ⟨trivial,fun _ => ih others _⟩

theorem calls_output_actions
    (corrected : Returns (fun actions => ∀ action ∈ actions, P action) (redirect_all ctx inp.analysis.output_actions.zipIdx)) :
    Issues (bodyCalls ψ) (maybe_execute_llm_output_actions ctx inp) := by
  refine issues_ite trivial (issues_then (ψ := fun actions => ∀ action ∈ actions, P action)
    (calls_quiet (calls_redirect_all calls _)) (returns_embed corrected) fun actions each => ?_)
  have kept : ∀ test : OutputAction → Bool, ∀ action ∈ actions.filter test, P action :=
    fun test action member => each action (List.mem_of_mem_filter member)
  refine issues_bind (calls_apply_critical calls (kept _) _) fun _ => ?_
  exact issues_bind (calls_quiet (calls_apply_best_effort calls (kept _) _)) fun _ => calls_note _

end
end Automation.AgentCalls
