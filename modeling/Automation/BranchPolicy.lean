import Automation.AgentCalls
import Automation.Gateway
import Automation.OutputTargets

/-!
Which branches the pull requests of a department go to. The gateway asks the rules of the
department, before it dispatches, for the branch of the analysis; the agent asks the pinned
rules, before it changes code, for the branch it was given. A pull request then goes to the
branch the agent was given or to `main`, unless the action that opens it names another:
nothing asks a rule for that one.
-/
namespace Automation.BranchPolicy
open Automation.Effects Automation.Coroutine
open Automation.AgentMessages (AgentRunnerWorkflowInput orEmpty)
open Automation.NeedsInfo (AutomationState TaskAnalysisResult DescriptionOverride build_description_override)

section
open Automation.Gateway
variable {ctx : Gateway.Context} {inp : AutomationWorkflowInput}

abbrev GatewayEvent (ctx : Gateway.Context) := Event (gateway ctx.repr)

/-- Where the type works on a named branch, the rules that were loaded allow it there. -/
def RuleAllowed (ctx : Gateway.Context) (inp : AutomationWorkflowInput) (events : List (GatewayEvent ctx))
    (workflow_type branch : String) : Prop :=
  workflow_type ∈ BRANCH_AWARE_WORKFLOW_TYPES → branch ≠ "" →
    ∃ reply, .replied (.load_branch_pattern_rules inp.department_id) reply ∈ events ∧
      (BranchRules.route_by_branch_pattern branch workflow_type (rules_of ctx reply)).allowed = true

/-- The older analysis ran again. -/
def Reanalysed (events : List (GatewayEvent ctx)) : Prop := ∃ i, .began (.llm_analyze_task i) ∈ events

/-- What holds of the input of an agent that the gateway starts. -/
structure Vetted (ctx : Gateway.Context) (inp : AutomationWorkflowInput) (events : List (GatewayEvent ctx))
    (child : AgentRunnerWorkflowInput) : Prop where
  allowed : RuleAllowed ctx inp events child.workflow_type (orEmpty child.analysis.target_branch)
  same_branch : child.target_branch = child.analysis.target_branch ∨ Reanalysed events

def AllVetted (ctx : Gateway.Context) (inp : AutomationWorkflowInput) (events : List (GatewayEvent ctx)) : Prop :=
  ∀ spec child, .began (.start_child_workflow spec (.agent_runner child)) ∈ events → Vetted ctx inp events child

variable {events later : List (GatewayEvent ctx)}

private theorem RuleAllowed.grow {workflow_type branch : String}
    (allowed : RuleAllowed ctx inp events workflow_type branch) (grown : events <+: later) :
    RuleAllowed ctx inp later workflow_type branch := by
  intro aware named
  obtain ⟨reply,replied,holds⟩ := allowed aware named
  exact ⟨reply,grown.subset replied,holds⟩

private theorem Reanalysed.grow (reanalysed : Reanalysed events)
    (grown : events <+: later) : Reanalysed later := by
  obtain ⟨i,began⟩ := reanalysed
  exact ⟨i,grown.subset began⟩

private theorem Vetted.grow {child : AgentRunnerWorkflowInput}
    (vetted : Vetted ctx inp events child) (grown : events <+: later) : Vetted ctx inp later child :=
  ⟨vetted.allowed.grow grown,vetted.same_branch.imp_right fun again => again.grow grown⟩

section
variable {env : Environment (gateway ctx.repr)} {r : Run (gateway ctx.repr)} {α : Type}

def Unstarted (events : List (GatewayEvent ctx)) : Prop := ∀ spec child, .began (.start_child_workflow spec child) ∉ events

private theorem unstarted_exec {p : Gate ctx α} (issued : Issues (Act.Calls NoStart) p) (unstarted : Unstarted r.events) :
    Triple (suspend env) p r (fun _ t => Unstarted t.events ∧ r.events <+: t.events) fun _ _ => True := by
  refine triple_mono (triple_final (P := fun t : Run (gateway ctx.repr) => Unstarted t.events ∧ r.events <+: t.events) ?_)
    (fun _ _ kept => kept) fun _ _ _ => trivial
  refine ⟨?_,exec_grows env p r⟩
  intro spec child began
  rcases exec_event issued env r began with old | start
  · exact unstarted spec child old
  · exact start

private theorem vetted_exec {p : Gate ctx α} (issued : Issues (Act.Calls NoStart) p) (vetted : AllVetted ctx inp r.events) :
    Triple (suspend env) p r (fun _ t => AllVetted ctx inp t.events) fun _ t => AllVetted ctx inp t.events := by
  refine triple_final ?_
  intro spec child began
  rcases exec_event issued env r began with old | start
  · exact (vetted spec child old).grow (exec_grows env p r)
  · exact start.elim

private theorem unstarted_vetted {events : List (GatewayEvent ctx)} (unstarted : Unstarted events) : AllVetted ctx inp events :=
  fun spec _ began => absurd began (unstarted spec _)

private theorem stopped_vetted (stop : Gateway.AutomationStop) (unstarted : Unstarted r.events) :
    Triple (suspend env) (finalize_stop ctx inp stop) r (fun _ t => AllVetted ctx inp t.events) fun _ t =>
      AllVetted ctx inp t.events := vetted_exec (noStart_finalize inp stop) (unstarted_vetted unstarted)

/-- The override is made of the analysis it comes with. -/
def Overrides (outcome : Except NeedsInfo.AutomationStop (TaskAnalysisResult × DescriptionOverride)) : Prop :=
  ∀ task_result override, outcome = .ok (task_result,override) → override = build_description_override task_result

private theorem overrides_stop (stop : NeedsInfo.AutomationStop) : Overrides (.error stop) := fun _ _ is => nomatch is

variable (inp) in
private theorem finish_overrides (task_result : TaskAnalysisResult) :
    Returns Overrides (NeedsInfo.finish_analysis ctx.repr inp.toAutomationWorkflowInput task_result) := by
  have made : Overrides (.ok (task_result,build_description_override task_result)) := by
    rintro _ _ ⟨⟩
    rfl
  unfold NeedsInfo.finish_analysis
  split
  · exact returns_bind fun stop => overrides_stop stop
  · split
    · exact returns_bind fun _ => made
    · exact made

variable (ctx inp) in
private theorem analyser_overrides :
    Returns Overrides (NeedsInfo.run_task_analyser ctx.repr inp.toAutomationWorkflowInput) := by
  refine returns_bind fun outcome => ?_
  cases outcome with
  | error stop => exact overrides_stop stop
  | ok task_result =>
    simp only
    split
    · exact returns_bind fun stop => overrides_stop stop
    · split
      · refine returns_bind fun _ => returns_bind fun again => ?_
        cases again with
        | error stop => exact overrides_stop stop
        | ok again => exact finish_overrides inp again
      · exact finish_overrides inp task_result

private theorem round_reanalysed (iteration : Nat) (analysis : Analysis) :
    Triple (suspend env) (Gateway.needs_info_round ctx inp iteration analysis) r
      (fun outcome t => ∀ next_analysis, outcome = .ok next_analysis → Reanalysed t.events) fun _ _ => True := by
  refine triple_bind (triple_trivial _ _ _) fun _ _ _ => triple_bind (triple_trivial _ _ _) fun _ _ _ => ?_
  refine triple_bind (triple_trivial _ _ _) fun _ _ _ => triple_bind (triple_trivial _ _ _) fun _ _ _ => ?_
  refine triple_bind (triple_trivial _ _ _) fun answered s _ => ?_
  have stops : ∀ (p : Gate ctx Gateway.AutomationStop) (t : Run (gateway ctx.repr)), Triple (suspend env)
      (p >>= fun stop => pure (.error stop)) t (fun (outcome : Except Gateway.AutomationStop Analysis) t =>
        ∀ next_analysis, outcome = .ok next_analysis → Reanalysed t.events) fun _ _ => True :=
    fun p t => triple_bind (triple_trivial _ p t) fun stop _ _ => triple_pure (fun _ is => nomatch is)
  split
  · refine triple_bind (R := fun _ t => Reanalysed t.events) (triple_command ⟨inp,by simp⟩) fun reply t reanalysed => ?_
    split
    · exact triple_pure fun _ _ => reanalysed
    · exact stops _ t
  · exact triple_bind (triple_trivial _ _ _) fun _ t _ => stops _ t

private theorem loop_reanalysed (remaining : Nat) (analysis : Analysis) :
    Triple (suspend env) (Gateway.needs_info_loop ctx inp remaining analysis) r
      (fun outcome t => ∀ last_analysis, outcome = .ok last_analysis → Reanalysed t.events) fun _ _ => True := by
  induction remaining generalizing analysis r with
  | zero => exact triple_bind (triple_trivial _ _ _) fun stop _ _ => triple_pure (fun _ is => nomatch is)
  | succ remaining ih =>
    refine triple_bind (round_reanalysed _ analysis) fun outcome s reanalysed => ?_
    cases outcome with
    | error stop => exact triple_pure (fun _ is => nomatch is)
    | ok next_analysis =>
      simp only
      split
      · exact ih next_analysis
      · exact triple_pure fun _ _ => reanalysed next_analysis rfl

private theorem handle_loop_reanalysed (analysis : Analysis) :
    Triple (suspend env) (handle_needs_info_loop ctx inp analysis) r
      (fun outcome t => ∀ last_analysis, outcome = .ok last_analysis → last_analysis = analysis ∨ Reanalysed t.events)
      fun _ _ => True := by
  unfold handle_needs_info_loop
  split
  · exact triple_mono (loop_reanalysed _ analysis) (fun _ _ again last_analysis is => .inr (again last_analysis is))
      fun _ _ _ => trivial
  · refine triple_pure ?_
    rintro _ ⟨⟩
    exact .inl rfl

private theorem branch_gate_allowed (analysis : Analysis) :
    Triple (suspend env) (Gateway.branch_gate ctx inp analysis) r
      (fun stop t => stop = none → RuleAllowed ctx inp t.events analysis.workflow_type (orEmpty analysis.target_branch))
      fun _ _ => True := by
  unfold Gateway.branch_gate
  simp only
  split
  · refine triple_bind (R := fun decision t => decision.allowed = true →
      RuleAllowed ctx inp t.events analysis.workflow_type (orEmpty analysis.target_branch)) ?_ ?_
    · refine triple_bind (R := fun reply t => .replied (.load_branch_pattern_rules inp.department_id) reply ∈ t.events)
        (triple_command (by simp)) fun reply t replied => triple_pure fun allowed _ _ => ?_
      exact ⟨reply,replied,allowed⟩
    · intro decision t asked
      split
      · next allowed => exact triple_pure fun _ => asked allowed
      · exact triple_bind (triple_trivial _ _ _) fun stop _ _ => triple_pure (fun is => nomatch is)
  · next unasked => exact triple_pure fun _ aware named => absurd ⟨aware,named⟩ unasked

variable {task_result : TaskAnalysisResult}

private theorem child_branch {analysis : Analysis} {child : AgentRunnerWorkflowInput}
    (made : child_args ctx inp analysis (build_description_override task_result) = .agent_runner child) :
    child.workflow_type = analysis.workflow_type ∧ child.analysis = analysis.toLlmAnalysisResult ∧
      (analysis = to_llm_analysis_result task_result → child.target_branch = child.analysis.target_branch) := by
  unfold child_args at made
  simp only at made
  split at made
  · cases made
    refine ⟨rfl,rfl,?_⟩
    rintro rfl
    exact ite_self task_result.branch
  · cases made

private theorem dispatch_vetted {analysis : Analysis} (unstarted : Unstarted r.events)
    (allowed : RuleAllowed ctx inp r.events analysis.workflow_type (orEmpty analysis.target_branch))
    (source : analysis = to_llm_analysis_result task_result ∨ Reanalysed r.events) :
    Triple (suspend env) (Gateway.dispatch ctx inp analysis (build_description_override task_result)) r
      (fun _ t => AllVetted ctx inp t.events) fun _ t => AllVetted ctx inp t.events := by
  refine triple_bind (R := fun _ t => AllVetted ctx inp t.events) (triple_command ?_) fun reply t vetted => ?_
  · intro spec child began
    have grown := suspend_grows env (.await (.start_child_workflow (build_child_spec ctx analysis)
      (child_args ctx inp analysis (build_description_override task_result)))) r
    simp only [suspend_await,List.mem_append,List.mem_cons,List.mem_map] at began
    rcases began with (old | now | ⟨_,_,no⟩) | no | no
    · exact absurd old (unstarted spec _)
    · obtain ⟨-,made⟩ := Gateway.Call.start_child_workflow.inj (Event.began.inj now)
      obtain ⟨workflow_type,of_analysis,same⟩ := child_branch made.symm
      refine Vetted.grow ⟨?_,?_⟩ grown
      · rw [workflow_type,of_analysis]
        exact allowed
      · exact source.imp_left same
    · cases no
    · cases no
    · cases no
  · cases reply with
    | error exc =>
      exact vetted_exec (issues_bind (noStart_stop inp _ _ _ _ _ _) fun stop => noStart_finalize inp stop) vetted
    | ok payload =>
      exact vetted_exec (issues_bind (noStart_follow inp analysis) fun _ =>
        issues_bind (noStart_best_effort trivial) fun _ => trivial) vetted

private theorem gated_dispatch_vetted {analysis : Analysis} (unstarted : Unstarted r.events)
    (source : analysis = to_llm_analysis_result task_result ∨ Reanalysed r.events) :
    Triple (suspend env) (gated_dispatch ctx inp analysis (build_description_override task_result)) r
      (fun _ t => AllVetted ctx inp t.events) fun _ t => AllVetted ctx inp t.events := by
  refine triple_bind (R := fun _ t => Unstarted t.events ∧ r.events <+: t.events)
    (triple_mono (unstarted_exec (noStart_capability_gate inp _) unstarted) (fun _ _ kept => kept) (fun e => e.elim)) ?_
  rintro stop s ⟨unstarted,grown⟩
  cases stop with
  | some stop => exact stopped_vetted stop unstarted
  | none =>
    refine triple_bind (triple_mono (triple_and (unstarted_exec (noStart_branch_gate inp analysis) unstarted)
      (branch_gate_allowed analysis)) (fun _ _ kept => kept) (fun e => e.elim)) ?_
    rintro stop t ⟨⟨unstarted,later⟩,allowed⟩
    cases stop with
    | some stop => exact stopped_vetted stop unstarted
    | none => exact dispatch_vetted unstarted (allowed rfl) (source.imp_right fun again => again.grow (grown.trans later))

theorem run_vetted (inp : AutomationWorkflowInput) (unstarted : Unstarted r.events) :
    Triple (suspend env) (Gateway.run ctx inp) r (fun _ t => AllVetted ctx inp t.events) fun _ t =>
      AllVetted ctx inp t.events := by
  refine triple_bind (triple_mono (unstarted_exec (noStart_comment _ _ _) unstarted) (fun _ _ kept => kept) (fun e => e.elim)) ?_
  rintro _ s ⟨unstarted,-⟩
  refine triple_bind (triple_mono (triple_and (unstarted_exec (noStart_analyser _) unstarted)
    (triple_returned (suspend env) (returns_embed (analyser_overrides ctx inp)) s)) (fun _ _ kept => kept) (fun e => e.elim)) ?_
  rintro outcome t ⟨⟨unstarted,-⟩,overrides⟩
  cases outcome with
  | error stop => exact stopped_vetted _ unstarted
  | ok result =>
    obtain ⟨task_result,override⟩ := result
    obtain rfl := overrides task_result override rfl
    refine triple_bind (triple_mono (triple_and (unstarted_exec (noStart_handle_loop inp _) unstarted)
      (handle_loop_reanalysed _)) (fun _ _ kept => kept) (fun e => e.elim)) ?_
    rintro outcome u ⟨⟨unstarted,-⟩,source⟩
    cases outcome with
    | error stop => exact stopped_vetted stop unstarted
    | ok analysis => exact gated_dispatch_vetted unstarted (source analysis rfl)

end
end

section
open Automation.AgentMessages Automation.AgentState Automation.AgentExtract Automation.AgentHandlers Automation.AgentRunner
open Automation.AgentCalls Automation.OutputTargets

/-- The branch that a call opens a pull request to. -/
def prTarget : AgentState.Call → Option Json
  | .create_pull_request _ _ _ destination _ _ _ => some (.str destination)
  | .output_action activity_name args =>
    if OUTPUT_ACTION_DISPATCH .bitbucket_create_pr = some activity_name then some (args.getD 2 .null) else none
  | _ => none

section
variable {ctx : AgentHandlers.Context} {inp : AgentRunnerWorkflowInput} {ψ : AgentState.Call → Prop}
  (other : ∀ c, prTarget c = none → ψ c)
include other

private theorem calls_generate (prompt : String) : Issues (bodyCalls ψ) (generate ctx inp prompt) := by
  refine issues_bind (calls_quiet ?_) fun _ => calls_critical (other _ rfl) _
  unfold under_token_cap
  split
  · exact issues_bind (calls_emit (fun _ => other _ rfl) _) fun _ => trivial
  · trivial

private theorem calls_branch_gate : Issues (bodyCalls ψ) (AgentHandlers.branch_gate ctx inp) := by
  unfold AgentHandlers.branch_gate
  split
  · trivial
  · exact issues_bind (calls_conclude _) fun _ => issues_bind (calls_quiet (calls_emit (fun _ => other _ rfl) _)) fun _ => trivial

private theorem calls_prepare : Issues (bodyCalls ψ) (prepare_change ctx inp) := by
  refine issues_bind (calls_critical (other _ rfl) _) fun _ => issues_bind (calls_branch_gate other) fun _ => ?_
  refine issues_bind calls_look fun _ => issues_bind (calls_attempted _) fun _ => issues_bind ?_ fun _ => trivial
  refine issues_bind (calls_generate other _) fun _ => ?_
  split
  · trivial
  · exact issues_bind (calls_generate other _) fun _ => trivial

private theorem calls_scan_and_commit (branch_name : String) (code_output : Json) (commit_files : List CommitFile) :
    Issues (spineCalls ψ) (scan_and_commit ctx inp branch_name code_output commit_files) := by
  refine issues_bind (calls_body (issues_bind (calls_critical (other _ rfl) _) fun _ => ?_)) fun _ => ?_
  · split
    · exact calls_fail _ _
    · trivial
  · refine issues_bind (calls_body (issues_bind calls_look fun self => ?_)) fun _ => ⟨trivial,fun reply => ?_⟩
    · simp only
      generalize format_commit_message ctx.py _ _ _ _ = message
      cases message with
      | error failure => exact calls_fail _ _
      | ok message => trivial
    · cases reply with
      | ok commit_info => trivial
      | error failure => exact calls_body (calls_fail _ _)

end

section
variable {ctx : AgentHandlers.Context} {inp : AgentRunnerWorkflowInput}

def namedTarget (action : OutputAction) : Option Json := named action.payload ["target_branch","to_branch"]

/-- The branch of the run, or `main`. -/
def defaultTarget (inp : AgentRunnerWorkflowInput) : String := orText (orEmpty inp.target_branch) "main"

/-- The branches to which the pull requests of a code change can go. -/
def Targets (inp : AgentRunnerWorkflowInput) (target : Json) : Prop :=
  target = .str "main" ∨ target = .str (defaultTarget inp) ∨
    ∃ action ∈ inp.analysis.output_actions, action.kind = .bitbucket_create_pr ∧ namedTarget action = some target

/-- An action of the analysis, or the stub of one. -/
def Corrected (inp : AgentRunnerWorkflowInput) (action : OutputAction) : Prop :=
  action ∈ inp.analysis.output_actions ∨ namedTarget action = none

private theorem redirect_corrected (action : OutputAction) (idx : Nat) :
    Returns (fun corrected => corrected = action ∨ namedTarget corrected = none) (redirect_oversized_payload ctx action idx) := by
  unfold redirect_oversized_payload
  split
  · trivial
  · simp only
    split
    · exact Or.inl rfl
    · exact returns_bind fun minio_uri => Or.inr (by simp [namedTarget,named,Json.get,List.lookup_cons,Json.truthy])

private theorem redirect_all_corrected {items : List (OutputAction × Nat)}
    (listed : ∀ item ∈ items, item.1 ∈ inp.analysis.output_actions) :
    Returns (fun corrected => ∀ action ∈ corrected, Corrected inp action) (redirect_all ctx items) := by
  induction items with
  | nil => exact fun _ member => nomatch member
  | cons item rest ih =>
    obtain ⟨here,others⟩ := List.forall_mem_cons.mp listed
    refine returns_then (redirect_corrected item.1 item.2) fun first made => ?_
    refine returns_then (ih others) fun corrected each => ?_
    refine List.forall_mem_cons.mpr ⟨?_,each⟩
    rcases made with rfl | unnamed
    · exact .inl here
    · exact .inr unnamed

private theorem pr_args {action : OutputAction} {last_commit_branch : Option String} {args : List Json}
    (pr : action.kind = .bitbucket_create_pr) (arguments : activity_args ctx inp action last_commit_branch = .ok args) :
    args.getD 2 .null = (namedTarget action).getD (.str (defaultTarget inp)) := by
  have unnamed : firstTruthy [.str (orEmpty inp.target_branch),.str "main"] = .str (defaultTarget inp) := by
    unfold defaultTarget orText
    by_cases empty : orEmpty inp.target_branch = ""
    · simp [firstTruthy,Json.orElse,Json.truthy,empty]
    · simp [firstTruthy,Json.orElse,Json.truthy,empty]
  unfold activity_args at arguments
  simp only [pr,two_keys_defaults,unnamed] at arguments
  split at arguments
  · cases arguments
    rfl
  · cases arguments

private theorem dispatch_pr {kind : OutputActionKind}
    (same : OUTPUT_ACTION_DISPATCH .bitbucket_create_pr = OUTPUT_ACTION_DISPATCH kind) : kind = .bitbucket_create_pr := by
  cases kind <;> revert same <;> decide

private theorem targets_output_action {action : OutputAction} (corrected : Corrected inp action) {activity_name : String}
    {args : List Json} {last_commit_branch : Option String} (dispatched : OUTPUT_ACTION_DISPATCH action.kind = some activity_name)
    (arguments : activity_args ctx inp action last_commit_branch = .ok args) (target : Json)
    (opens : prTarget (.output_action activity_name args) = some target) : Targets inp target := by
  simp only [prTarget] at opens
  split at opens
  · next same =>
    have pr := dispatch_pr (same.trans dispatched.symm)
    have third : args.getD 2 .null = target := Option.some.inj opens
    rw [pr_args pr arguments] at third
    cases found : namedTarget action with
    | none =>
      rw [found] at third
      exact .inr (.inl third.symm)
    | some branch =>
      rw [found] at third
      rcases corrected with listed | unnamed
      · exact .inr (.inr ⟨action,listed,pr,by rw [found]; exact congrArg some third⟩)
      · rw [unnamed] at found
        cases found
  · cases opens

/-- A pull request of a run, where the pinned rules allow its type on its branch, has one of the targets. -/
def Justified (inp : AgentRunnerWorkflowInput) (c : AgentState.Call) : Prop :=
  ∀ target, prTarget c = some target →
    route_by_branch_pattern (orEmpty inp.target_branch) inp.workflow_type DEFAULT_BRANCH_PATTERN_RULES = none ∧
      Targets inp target

private theorem justified_other (c : AgentState.Call) (other : prTarget c = none) : Justified inp c := by
  intro target opens
  rw [other] at opens
  cases opens

private theorem denied_never {reason : String}
    (denied : route_by_branch_pattern (orEmpty inp.target_branch) inp.workflow_type DEFAULT_BRANCH_PATTERN_RULES =
      some reason) : Returns (fun _ => False) (prepare_change ctx inp) := by
  refine returns_bind fun _ => returns_then (ψ := fun _ => False) ?_ fun _ no => no.elim
  unfold AgentHandlers.branch_gate
  rw [denied]
  exact returns_bind fun _ => returns_bind fun _ => trivial

section
variable (allowed : route_by_branch_pattern (orEmpty inp.target_branch) inp.workflow_type DEFAULT_BRANCH_PATTERN_RULES = none)
include allowed

private theorem justified_output_actions : Issues (bodyCalls (Justified inp)) (maybe_execute_llm_output_actions ctx inp) := by
  have calls : ActionCalls ctx inp (Corrected inp) (Justified inp) := by
    refine ⟨fun _ _ => justified_other _ rfl,fun _ => justified_other _ rfl,?_⟩
    intro action corrected activity_name args last_commit_branch dispatched arguments target opens
    exact ⟨allowed,targets_output_action corrected dispatched arguments target opens⟩
  refine calls_output_actions calls (redirect_all_corrected ?_)
  intro item member
  exact (List.mem_zipIdx member).2.2 ▸ List.getElem_mem _

private theorem justified_open_pull_request (branch_name : String) :
    Issues (bodyCalls (Justified inp)) (open_pull_request ctx inp branch_name) := by
  refine issues_bind (calls_critical ?_ _) fun _ => issues_bind (calls_attempted _) fun new_pr_id => ?_
  · intro target opens
    exact ⟨allowed,.inl (Option.some.inj opens).symm⟩
  · refine issues_bind (calls_quiet (issues_bind ⟨trivial,fun _ => trivial⟩ fun self => ?_)) fun _ => ?_
    · split
      · refine issues_bind ⟨justified_other _ rfl,fun _ => trivial⟩ fun reply => ?_
        cases reply with
        | ok value => trivial
        | error failure => exact ⟨trivial,fun _ => trivial⟩
      · trivial
    · refine issues_bind (calls_note _) fun _ => issues_bind (calls_quiet (calls_comment (justified_other _ rfl))) fun _ => ?_
      exact justified_output_actions allowed

private theorem justified_after_commit (with_test : Bool) (branch_name commit_hash : String) :
    Issues (bodyCalls (Justified inp)) (after_commit ctx inp with_test branch_name commit_hash) := by
  refine issues_bind (calls_note _) fun _ => issues_ite (issues_bind (calls_quiet ?_) fun passed => ?_) ?_
  · exact ⟨trivial,fun _ => ⟨justified_other _ rfl,fun _ => ⟨trivial,fun _ => trivial⟩⟩⟩
  · refine issues_ite (justified_open_pull_request allowed _) ?_
    exact issues_bind (calls_quiet (calls_comment (justified_other _ rfl))) fun _ => calls_conclude _
  · refine issues_bind (calls_quiet ⟨trivial,fun _ => ⟨trivial,fun _ => calls_comment (justified_other _ rfl)⟩⟩) fun _ => ?_
    exact justified_output_actions allowed

end

private theorem justified_code_change (with_test : Bool) :
    Issues (spineCalls (Justified inp)) (handle_code_change_common ctx inp with_test) := by
  cases gate : route_by_branch_pattern (orEmpty inp.target_branch) inp.workflow_type DEFAULT_BRANCH_PATTERN_RULES with
  | some reason =>
    exact issues_then (calls_body (calls_prepare justified_other)) (returns_embed (denied_never gate)) fun _ no => no.elim
  | none =>
    refine issues_bind (calls_body (calls_prepare justified_other)) ?_
    rintro ⟨branch_name,code_output,commit_files⟩
    refine issues_ite (calls_body (issues_bind (calls_conclude _) fun _ => calls_quiet (calls_comment (justified_other _ rfl)))) ?_
    refine issues_bind (calls_scan_and_commit justified_other _ _ _) fun _ => calls_body ?_
    exact justified_after_commit gate with_test _ _

def CODE_CHANGE_TYPES : List String := ["code_change_with_test","code_change_commit_only"]

private theorem justified_dispatch (changes : inp.workflow_type ∈ CODE_CHANGE_TYPES) :
    Issues (spineCalls (Justified inp)) (dispatch_workflow_type ctx inp) := by
  simp only [CODE_CHANGE_TYPES,List.mem_cons,List.not_mem_nil,or_false] at changes
  unfold dispatch_workflow_type
  rcases changes with tested | untested
  · rw [tested]
    exact justified_code_change true
  · rw [untested]
    exact justified_code_change false

private theorem began_justified (changes : inp.workflow_type ∈ CODE_CHANGE_TYPES) (env : Environment (agent ctx.py))
    (pre : List Delivery) {c : AgentState.Call} (began : .began (.body c) ∈ (finished ctx inp env pre).2.events) :
    Justified inp c := by
  have around : Around (Act.Calls (BodyCall (Justified inp)) : Act (agent ctx.py) → Prop) :=
    ⟨trivial,fun _ => trivial,fun _ => trivial,fun _ => justified_other _ rfl⟩
  have dispatched : Issues (fun step : SpineStep => Act.Calls (BodyCall (Justified inp)) (step.act ctx.py))
      (dispatch_workflow_type ctx inp) := issues_mono (fun _ calls => spineCalls_act calls) (justified_dispatch changes)
  rcases exec_event (run_issues inp around dispatched) env (start ctx pre) began with none_yet | justified
  · cases none_yet
  · exact justified

private theorem main_allowed (wf_type : String) : route_by_branch_pattern "main" wf_type DEFAULT_BRANCH_PATTERN_RULES = none :=
  rfl

private theorem default_target_allowed
    (allowed : route_by_branch_pattern (orEmpty inp.target_branch) inp.workflow_type DEFAULT_BRANCH_PATTERN_RULES = none) :
    route_by_branch_pattern (defaultTarget inp) inp.workflow_type DEFAULT_BRANCH_PATTERN_RULES = none := by
  unfold defaultTarget orText
  split
  · exact main_allowed _
  · exact allowed

/-- The pinned rules allow the type on the branch of the run, and on the target of the pull
    request unless an action of the analysis names it. -/
def PullRequestAllowed (inp : AgentRunnerWorkflowInput) (target : Json) : Prop :=
  route_by_branch_pattern (orEmpty inp.target_branch) inp.workflow_type DEFAULT_BRANCH_PATTERN_RULES = none ∧
    ((∃ branch, target = .str branch ∧
        route_by_branch_pattern branch inp.workflow_type DEFAULT_BRANCH_PATTERN_RULES = none) ∨
      ∃ action ∈ inp.analysis.output_actions, action.kind = .bitbucket_create_pr ∧ namedTarget action = some target)

theorem pull_request_allowed (changes : inp.workflow_type ∈ CODE_CHANGE_TYPES) (env : Environment (agent ctx.py))
    (pre : List Delivery) {c : AgentState.Call} (began : .began (.body c) ∈ (finished ctx inp env pre).2.events)
    {target : Json} (opens : prTarget c = some target) : PullRequestAllowed inp target := by
  obtain ⟨allowed,to_main | to_default | named⟩ := began_justified changes env pre began target opens
  · exact ⟨allowed,.inl ⟨"main",to_main,main_allowed _⟩⟩
  · exact ⟨allowed,.inl ⟨_,to_default,default_target_allowed allowed⟩⟩
  · exact ⟨allowed,.inr named⟩

end
end

/-- The events of a gateway that starts with nothing done. -/
def gatewayEvents (ctx : Gateway.Context) (inp : Gateway.AutomationWorkflowInput)
    (env : Environment (Gateway.gateway ctx.repr)) (self : AutomationState) (turn : Nat) : List (GatewayEvent ctx) :=
  (exec (suspend env) (Gateway.run ctx inp) { self, turn, events := [] }).2.events

private theorem gatewayEvents_vetted (ctx : Gateway.Context) (inp : Gateway.AutomationWorkflowInput)
    (env : Environment (Gateway.gateway ctx.repr)) (self : AutomationState) (turn : Nat) :
    AllVetted ctx inp (gatewayEvents ctx inp env self turn) := by
  have vetted := @run_vetted ctx env { self, turn, events := [] } inp fun _ _ began => nomatch began
  unfold Triple at vetted
  split at vetted
  · next ended => rw [gatewayEvents,ended]; exact vetted
  · next ended => rw [gatewayEvents,ended]; exact vetted

/-- The gateway dispatches an agent to a branch only where the rules of the department, or
    the pinned ones where it has none that can be read, allow its type; the agent gets the
    branch of the analysis, unless that ran again. The agent opens a pull request for a code
    change only where the pinned rules allow it. With the pinned rules the two checks accept
    the same branches. -/
theorem branch_policy :
    (∀ (ctx : Gateway.Context) (inp : Gateway.AutomationWorkflowInput) (env : Environment (Gateway.gateway ctx.repr))
      (self : AutomationState) (turn : Nat), AllVetted ctx inp (gatewayEvents ctx inp env self turn)) ∧
    (∀ (ctx : AgentHandlers.Context) (inp : AgentRunnerWorkflowInput) (env : Environment (AgentState.agent ctx.py))
      (pre : List AgentState.Delivery), inp.workflow_type ∈ CODE_CHANGE_TYPES → ∀ c target,
        .began (.body c) ∈ (AgentRunner.finished ctx inp env pre).2.events → prTarget c = some target →
          PullRequestAllowed inp target) ∧
    ∀ branch workflow_type,
      (BranchRules.route_by_branch_pattern branch workflow_type BranchRules.DEFAULT_BRANCH_PATTERN_RULES).allowed = true ↔
        AgentMessages.route_by_branch_pattern branch workflow_type AgentMessages.DEFAULT_BRANCH_PATTERN_RULES = none := by
  refine ⟨gatewayEvents_vetted,?_,?_⟩
  · intro ctx inp env pre changes c target began opens
    exact pull_request_allowed changes env pre began opens
  · intro branch workflow_type
    rw [BranchRules.default_route,Option.isNone_iff_eq_none]

/-! A department whose rules are `loaded`, and an agent that opens a pull request. -/

def ruled (branch : String) (loaded : Json) : List (GatewayEvent Gateway.host) :=
  gatewayEvents Gateway.host Gateway.issue (Gateway.answering Gateway.host (Gateway.clear "code_change_with_test" (some branch)) fun
    | .load_branch_pattern_rules _ => .ok (.value loaded)
    | _ => .ok (.value .null)) NeedsInfo.fresh 0

def startedChild : GatewayEvent Gateway.host → Option AgentRunnerWorkflowInput
  | .began (.start_child_workflow _ (.agent_runner child)) => some child
  | _ => none

private theorem startedChild_mem {events : List (GatewayEvent Gateway.host)} {child : AgentRunnerWorkflowInput}
    (found : events.findSome? startedChild = some child) :
    ∃ spec, .began (.start_child_workflow spec (.agent_runner child)) ∈ events := by
  obtain ⟨event,member,is⟩ := List.exists_of_findSome?_eq_some found
  unfold startedChild at is
  split at is
  · next spec _ =>
    cases is
    exact ⟨spec,member⟩
  · cases is

def merging : Environment (AgentState.agent AgentRunner.worker.py) := AgentRunner.replying fun
  | .body (.opencode_generate_code _ _ _) =>
    ([],.ok (.obj [("files",.arr [.obj [("path",.str "a.py"),("content",.str "x = 1")]])]))
  | .body (.ExecutionRunWorkflow _ _) => ([],.ok (.obj [("status",.str "passed")]))
  | _ => ([],.ok .null)

def opensTo (branch : String) : Event (AgentState.agent AgentRunner.worker.py) → Bool
  | .began (.body (.create_pull_request _ _ _ destination _ _ _)) => destination == branch
  | _ => false

private theorem opensTo_mem {branch : String} {events : List (Event (AgentState.agent AgentRunner.worker.py))}
    (opened : events.any (opensTo branch) = true) : ∃ c, .began (.body c) ∈ events ∧ prTarget c = some (.str branch) := by
  obtain ⟨event,member,opens⟩ := List.any_eq_true.mp opened
  unfold opensTo at opens
  split at opens
  · obtain rfl := beq_iff_eq.mp opens
    exact ⟨_,member,rfl⟩
  · cases opens

/-- The agent that is dispatched to `develop`. -/
def developer (loaded : Json) : AgentRunnerWorkflowInput :=
  ((ruled "develop" loaded).findSome? startedChild).getD (AgentRunner.issue "")

def developed (loaded : Json) : List (Event (AgentState.agent AgentRunner.worker.py)) :=
  (AgentRunner.finished AgentRunner.worker (developer loaded) merging []).2.events

private theorem developer_started {loaded : Json} (started : ((ruled "develop" loaded).findSome? startedChild).isSome = true) :
    ∃ spec, .began (.start_child_workflow spec (.agent_runner (developer loaded))) ∈ ruled "develop" loaded := by
  obtain ⟨child,found⟩ := Option.isSome_iff_exists.mp started
  have is : developer loaded = child := by rw [developer,found,Option.getD_some]
  rw [is]
  exact startedChild_mem found

/-- A department without rules of its own. -/
theorem develop_merged :
    (∃ spec, .began (.start_child_workflow spec (.agent_runner (developer .null))) ∈ ruled "develop" .null ∧
      Vetted Gateway.host Gateway.issue (ruled "develop" .null) (developer .null)) ∧
    ∃ c, .began (.body c) ∈ developed .null ∧ prTarget c = some (.str "main") ∧
      PullRequestAllowed (developer .null) (.str "main") := by
  have ran : ((ruled "develop" .null).findSome? startedChild).isSome = true ∧
      (developed .null).any (opensTo "main") = true ∧ (developer .null).workflow_type ∈ CODE_CHANGE_TYPES := by
    decide +kernel
  obtain ⟨spec,started⟩ := developer_started ran.1
  obtain ⟨c,began,opens⟩ := opensTo_mem ran.2.1
  refine ⟨⟨spec,started,branch_policy.1 _ _ _ _ _ spec _ started⟩,c,began,opens,?_⟩
  exact branch_policy.2.1 _ _ _ _ ran.2.2 c _ began opens

/-- Code changes are denied on `main`, and nothing is on `hotfix`. -/
def main_rules : Json := .arr [.obj [("glob",.str "main"),("denied_workflow_types",.arr [.str "code_change_with_test"])]]

/-- The rules of the department allow the dispatch and deny the target of the pull request;
    and they accept a branch that the agent refuses. -/
theorem main_unguarded :
    (∃ spec, .began (.start_child_workflow spec (.agent_runner (developer main_rules))) ∈ ruled "develop" main_rules) ∧
    (∃ c, .began (.body c) ∈ developed main_rules ∧ prTarget c = some (.str "main")) ∧
    (BranchRules.route_by_branch_pattern "main" (developer main_rules).workflow_type
      (Gateway.rules_of Gateway.host (.ok (.value main_rules)))).allowed = false ∧
    (BranchRules.route_by_branch_pattern "hotfix/1" "code_change_commit_only"
      (Gateway.rules_of Gateway.host (.ok (.value main_rules)))).allowed = true ∧
    AgentMessages.route_by_branch_pattern "hotfix/1" "code_change_commit_only" AgentMessages.DEFAULT_BRANCH_PATTERN_RULES =
      some "hotfix_requires_pr" := by
  have ran : ((ruled "develop" main_rules).findSome? startedChild).isSome = true ∧
      (developed main_rules).any (opensTo "main") = true := by
    decide +kernel
  refine ⟨developer_started ran.1,opensTo_mem ran.2,?_,?_,?_⟩
  · decide +kernel
  · decide
  · decide

end Automation.BranchPolicy
