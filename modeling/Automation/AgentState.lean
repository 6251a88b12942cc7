import Automation.AgentMessages
import Automation.Coroutine

/-!
The state of `AgentRunnerWorkflow`, its signal handlers and its activities.

The state has four parts: what a cancel request and its compensation set, the
verdict (out of scope, failure reason), the partial failures, and everything else.
A handler of a workflow type is a program that cannot change the first part and
only adds to the third, and most of its steps are quiet: they cannot change the
verdict either. Only one handler can commit. The types say so, and what follows
from it for every program of a level is proved once (`QuietRelation.quiet`,
`BodyRelation.body`, `SpineRelation.spine`).
-/
namespace Automation.AgentState
open Automation.Effects Automation.Coroutine Automation.AgentMessages Automation.PyText Automation.Regex

structure CancelState where
  cancel_requested : Bool
  cancel_actor_id : String
  cancel_actor_role : String
  cancel_reason : String
  compensation_running : Bool

structure Verdict where
  out_of_scope : Bool
  failure_reason : Option String

structure Notes where
  iteration_state : IterationState
  previous_findings : List String
  confluence_section_hashes : List String
  signal_pending : Bool
  pending_fix_diff_hash : Option String
  pending_explain_diff_hash : Option String
  pending_explain_text : Option String
  latest_comment : String
  iter_warning_at_three : Bool
  iter_warning_pending : Bool
  pending_audit_actions : List String
  diff_summary_cache : List (String × String)
  previous_pr_id : Option Int
  last_commit_branch : Option String
  latest_confluence_page_id : Option String
  output_actions_log : ApplyResult

structure RunnerState where
  cancel : CancelState
  verdict : Verdict
  output_actions_partial_kinds : List String
  notes : Notes

/-- `__init__`. -/
def RunnerState.init : RunnerState where
  cancel := { cancel_requested := false, cancel_actor_id := "", cancel_actor_role := "end_user"
              cancel_reason := "user_cancel", compensation_running := false }
  verdict := { out_of_scope := false, failure_reason := none }
  output_actions_partial_kinds := []
  notes := { iteration_state := { iter_count := 0, last_fix_trigger_at := none, test_results_by_diff_hash := []
                                  explain_cache := [], needs_info_streak := 0 }
             previous_findings := [], confluence_section_hashes := [], signal_pending := false
             pending_fix_diff_hash := none, pending_explain_diff_hash := none
             pending_explain_text := none, latest_comment := "", iter_warning_at_three := false
             iter_warning_pending := false, pending_audit_actions := [], diff_summary_cache := []
             previous_pr_id := none, last_commit_branch := none, latest_confluence_page_id := none
             output_actions_log := .empty }

inductive SignalKind where
  | comment_added
  | fix_triggered
  | explain_triggered
  | cancel_requested
  deriving DecidableEq

/-- A signal with its payload, and the time at which it is handled. -/
structure Delivery where
  kind : SignalKind
  payload : Json
  now : Nat

def MAX_ITER : Int := 5
def ITER_WARNING_THRESHOLD : Int := 3

section
variable (py : Python)

/-- `str(value)`, with `""` for `None`. -/
def textOf : Json → String
  | .null => ""
  | value => value.pyStr py.repr

/-- The text and the diff hash of a comment signal; `diff_field` falls back to `diff_hash`. -/
def coerce_comment_signal (payload : Json) (diff_field : String) : String × Option String :=
  match payload with
  | .obj fields =>
    let diff_value := (Json.obj fields).get diff_field
    let diff_value := match diff_value with
      | .null => (Json.obj fields).get "diff_hash"
      | value => value
    (textOf py ((Json.obj fields).get "comment_text"),diff_value.asStr)
  | value => (textOf py value,none)

/-- `str(payload[key])`, with a default where the key is absent or `None`. -/
def cancel_field (payload : Json) (key default : String) : String :=
  match payload.get key with
  | .null => default
  | value => value.pyStr py.repr

def coerce_cancel_signal (payload : Json) : String × String × String :=
  match payload with
  | .obj fields =>
    let role := cancel_field py (.obj fields) "actor_role" "end_user"
    (cancel_field py (.obj fields) "actor_id" "",if ["admin","dept_admin","end_user"].contains role then role else "end_user",
      cancel_field py (.obj fields) "reason" "user_cancel")
  | _ => ("","end_user","user_cancel")

end

/-- `[needs_info]`, `[needs-info]` or `[needsinfo]`, in any case. -/
def NEEDS_INFO_KEYWORD_RE : Pattern :=
  concat (['[','n','e','e','d','s'].map (fun c => .one (ignoreCase c)) ++ [opt (.one fun c => c == '_' || c == '-')] ++
    ['i','n','f','o',']'].map (fun c => .one (ignoreCase c)))

def mentions (keyword text : String) : Bool := (searchLiteral keyword.toList text.toList).isSome

def advance_iter_with_banner_check (notes : Notes) : Notes :=
  let iteration_state := state_increment_iter notes.iteration_state
  { notes with
    iteration_state
    iter_warning_pending := notes.iter_warning_pending ||
      (!notes.iter_warning_at_three && decide (ITER_WARNING_THRESHOLD ≤ iteration_state.iter_count))
    signal_pending := true }

def RunnerState.closed (self : RunnerState) : Bool := self.cancel.cancel_requested || self.verdict.out_of_scope

/-- The run ends as out of scope, and whoever waits wakes up. -/
def RunnerState.terminate (self : RunnerState) (reason : String) : RunnerState :=
  { self with
    verdict := { out_of_scope := true, failure_reason := some reason }
    notes := { self.notes with signal_pending := true } }

def reset_needs_info (notes : Notes) : Notes :=
  { notes with iteration_state := state_reset_needs_info notes.iteration_state }

def apply_fix_signal (text : String) (diff_hash : Option String) (now : Nat) (self : RunnerState) : RunnerState :=
  if self.closed then self
  else
    match should_advance_iter self.notes.iteration_state MAX_ITER with
    | some reason => self.terminate reason
    | none =>
      if is_fix_debounced self.notes.iteration_state now then
        { self with notes := { self.notes with
            pending_audit_actions := self.notes.pending_audit_actions ++ ["fix_debounce_dropped"] } }
      else
        let notes := reset_needs_info self.notes
        let recorded := { notes with iteration_state := state_record_fix_trigger now notes.iteration_state }
        if fix_should_skip_retest notes.iteration_state (orEmpty diff_hash) then
          { self with notes := { recorded with
              pending_fix_diff_hash := none
              pending_audit_actions := recorded.pending_audit_actions ++ ["fix_re_test_protected"]
              signal_pending := true } }
        else
          { self with notes := advance_iter_with_banner_check { recorded with
              latest_comment := orText text recorded.latest_comment
              pending_fix_diff_hash := diff_hash } }

def apply_explain_signal (text : String) (pr_diff_hash : Option String) (now : Nat) (self : RunnerState) : RunnerState :=
  if self.closed then self
  else if explain_should_skip_llm self.notes.iteration_state (orEmpty pr_diff_hash) now then
    { self with notes := { self.notes with
        pending_explain_diff_hash := pr_diff_hash
        pending_explain_text := some text
        pending_audit_actions := self.notes.pending_audit_actions ++ ["explain_cache_hit"]
        signal_pending := true } }
  else
    let notes := reset_needs_info self.notes
    match should_advance_iter notes.iteration_state MAX_ITER with
    | some reason => { self with notes }.terminate reason
    | none =>
      { self with notes := advance_iter_with_banner_check { notes with
          pending_explain_diff_hash := pr_diff_hash
          pending_explain_text := some text } }

def apply_needs_info_signal (text : String) (self : RunnerState) : RunnerState :=
  if self.closed then self
  else
    let iteration_state := state_increment_needs_info self.notes.iteration_state
    let notes := { self.notes with latest_comment := orText text self.notes.latest_comment, iteration_state }
    if needs_info_should_terminate iteration_state then { self with notes }.terminate "needs_info_loop_cap"
    else { self with notes := { notes with signal_pending := true } }

section
variable (py : Python)

def comment_added (payload : Json) (now : Nat) (self : RunnerState) : RunnerState :=
  if self.closed then self
  else
    let (text,diff_hash) := coerce_comment_signal py payload "diff_hash"
    if mentions "[fix]" text then apply_fix_signal text diff_hash now self
    else if mentions "[explain]" text then apply_explain_signal text diff_hash now self
    else if search anywhere NEEDS_INFO_KEYWORD_RE none text.toList then apply_needs_info_signal text self
    else
      let notes := reset_needs_info self.notes
      match should_advance_iter notes.iteration_state MAX_ITER with
      | some reason => { self with notes }.terminate reason
      | none =>
        { self with notes := advance_iter_with_banner_check { notes with
            latest_comment := orText text notes.latest_comment } }

def fix_triggered (payload : Json) (now : Nat) (self : RunnerState) : RunnerState :=
  let (text,diff_hash) := coerce_comment_signal py payload "diff_hash"
  if self.closed then self else apply_fix_signal text diff_hash now self

def explain_triggered (payload : Json) (now : Nat) (self : RunnerState) : RunnerState :=
  let (text,diff_hash) := coerce_comment_signal py payload "pr_diff_hash"
  if self.closed then self else apply_explain_signal text diff_hash now self

def cancel_requested (payload : Json) (self : RunnerState) : RunnerState :=
  if self.cancel.cancel_requested || self.cancel.compensation_running then self
  else
    let (actor_id,actor_role,reason) := coerce_cancel_signal py payload
    { self with
      cancel := { self.cancel with cancel_requested := true, cancel_actor_id := actor_id, cancel_actor_role := actor_role
                                   cancel_reason := reason }
      notes := { self.notes with signal_pending := true } }

def receive (delivery : Delivery) (self : RunnerState) : RunnerState :=
  match delivery.kind with
  | .comment_added => comment_added py delivery.payload delivery.now self
  | .fix_triggered => fix_triggered py delivery.payload delivery.now self
  | .explain_triggered => explain_triggered py delivery.payload delivery.now self
  | .cancel_requested => cancel_requested py delivery.payload self

end

/-- What a signal other than a cancel changes of the state besides the notes: it may
    end the run as out of scope. -/
def Comments (self after : RunnerState) : Prop :=
  after.cancel = self.cancel ∧ after.output_actions_partial_kinds = self.output_actions_partial_kinds ∧
    (after.verdict = self.verdict ∨ after.verdict.out_of_scope = true)

private theorem comments_notes (self : RunnerState) (notes : Notes) : Comments self { self with notes } :=
  ⟨rfl,rfl,.inl rfl⟩

private theorem comments_terminate (self : RunnerState) (notes : Notes) (reason : String) :
    Comments self ({ self with notes }.terminate reason) := ⟨rfl,rfl,.inr rfl⟩

theorem apply_fix_signal_comments (text : String) (diff_hash : Option String) (now : Nat) (self : RunnerState) :
    Comments self (apply_fix_signal text diff_hash now self) := by
  unfold apply_fix_signal
  split
  · exact comments_notes self self.notes
  · split
    · exact comments_terminate self self.notes _
    · split
      · exact comments_notes self _
      · simp only
        split
        · exact comments_notes self _
        · exact comments_notes self _

theorem apply_explain_signal_comments (text : String) (pr_diff_hash : Option String) (now : Nat) (self : RunnerState) :
    Comments self (apply_explain_signal text pr_diff_hash now self) := by
  unfold apply_explain_signal
  split
  · exact comments_notes self self.notes
  · split
    · exact comments_notes self _
    · simp only
      split
      · exact comments_terminate self _ _
      · exact comments_notes self _

theorem apply_needs_info_signal_comments (text : String) (self : RunnerState) :
    Comments self (apply_needs_info_signal text self) := by
  unfold apply_needs_info_signal
  split
  · exact comments_notes self self.notes
  · simp only
    split
    · exact comments_terminate self _ _
    · exact comments_notes self _

theorem comment_added_comments (py : Python) (payload : Json) (now : Nat) (self : RunnerState) :
    Comments self (comment_added py payload now self) := by
  unfold comment_added
  split
  · exact comments_notes self self.notes
  · simp only
    split
    · exact apply_fix_signal_comments _ _ _ self
    · split
      · exact apply_explain_signal_comments _ _ _ self
      · split
        · exact apply_needs_info_signal_comments _ self
        · split
          · exact comments_terminate self _ _
          · exact comments_notes self _

theorem receive_cases (py : Python) (delivery : Delivery) (self : RunnerState) :
    (delivery.kind ≠ .cancel_requested ∧ Comments self (receive py delivery self)) ∨
      (delivery.kind = .cancel_requested ∧ receive py delivery self = cancel_requested py delivery.payload self) := by
  unfold receive
  cases kind : delivery.kind with
  | comment_added => exact .inl ⟨by simp,comment_added_comments py _ _ self⟩
  | fix_triggered =>
    refine .inl ⟨by simp,?_⟩
    simp only [fix_triggered]
    split
    · exact comments_notes self self.notes
    · exact apply_fix_signal_comments _ _ _ self
  | explain_triggered =>
    refine .inl ⟨by simp,?_⟩
    simp only [explain_triggered]
    split
    · exact comments_notes self self.notes
    · exact apply_explain_signal_comments _ _ _ self
  | cancel_requested => exact .inr ⟨rfl,rfl⟩

/-- The notes without what signals set. -/
def Notes.kept (notes : Notes) : Notes :=
  { notes with
    iteration_state := { notes.iteration_state with iter_count := 0, last_fix_trigger_at := none, needs_info_streak := 0 }
    signal_pending := false
    pending_fix_diff_hash := none
    pending_explain_diff_hash := none
    pending_explain_text := none
    latest_comment := ""
    iter_warning_pending := false
    pending_audit_actions := [] }

private theorem apply_fix_signal_kept (text : String) (diff_hash : Option String) (now : Nat) (self : RunnerState) :
    (apply_fix_signal text diff_hash now self).notes.kept = self.notes.kept := by
  unfold apply_fix_signal
  split
  · rfl
  · split
    · rfl
    · split
      · rfl
      · simp only
        split
        · rfl
        · rfl

private theorem apply_explain_signal_kept (text : String) (pr_diff_hash : Option String) (now : Nat) (self : RunnerState) :
    (apply_explain_signal text pr_diff_hash now self).notes.kept = self.notes.kept := by
  unfold apply_explain_signal
  split
  · rfl
  · split
    · rfl
    · simp only
      split
      · rfl
      · rfl

private theorem apply_needs_info_signal_kept (text : String) (self : RunnerState) :
    (apply_needs_info_signal text self).notes.kept = self.notes.kept := by
  unfold apply_needs_info_signal
  split
  · rfl
  · simp only
    split
    · rfl
    · rfl

theorem receive_kept (py : Python) (delivery : Delivery) (self : RunnerState) :
    (receive py delivery self).notes.kept = self.notes.kept := by
  unfold receive
  cases delivery.kind with
  | comment_added =>
    simp only [comment_added]
    split
    · rfl
    · split
      · exact apply_fix_signal_kept _ _ _ self
      · split
        · exact apply_explain_signal_kept _ _ _ self
        · split
          · exact apply_needs_info_signal_kept _ self
          · split
            · rfl
            · rfl
  | fix_triggered =>
    simp only [fix_triggered]
    split
    · rfl
    · exact apply_fix_signal_kept _ _ _ self
  | explain_triggered =>
    simp only [explain_triggered]
    split
    · rfl
    · exact apply_explain_signal_kept _ _ _ self
  | cancel_requested =>
    simp only [cancel_requested]
    split
    · rfl
    · rfl

structure CommitFile where
  path : String
  content : String
  action : String
  deriving DecidableEq

/-- The activities and child workflows that the handlers of the workflow types call,
    but for the commit. -/
inductive Call where
  | set_assignee_to_bot (issue_key department_id : String)
  | opencode_generate_code (issue_key prompt workspace_path : String)
  | precommit_scanner (diff_text : String)
  | ExecutionRunWorkflow (id : String) (input : Json)
  | create_pull_request (tool repo_slug branch_name destination title description department_id : String)
  | iter_advance_pr_supersede (repo_slug workflow_id : String) (old_id new_id : Int) (department_id : String)
  | jira_add_comment (issue_key body department_id : String)
  | bitbucket_fetch_pr_diff (repo_slug : String) (pr_id : Int) (department_id : String)
  | llm_review_code (args : List Json)
  | bitbucket_add_pr_comment (repo_slug : String) (pr_id : Int) (body : Json) (department_id : String)
  | jira_build_issue_link (issue_key department_id : String)
  | llm_generate_doc (request : Json)
  | confluence_create_page (space title body department_id : String)
  | confluence_get_page (page_id department_id : String)
  | confluence_update_page (page_id section_path body department_id : String)
  | firecrawl_search (query department_id : String)
  | firecrawl_scrape (url department_id : String)
  | minio_put_research_summary (request : Json)
  | minio_put_output_action (key body : String)
  | jira_list_epic_children (issue_key department_id : String)
  | AutomationWorkflow (id : String) (input : Json)
  | output_action (activity_name : String) (args : List Json)
  | audit_emit (row : Json)

/-- The arguments of `bitbucket_commit_via_git`. -/
structure CommitRequest where
  repo_slug : String
  branch_name : String
  source_branch : String
  files : List CommitFile
  message : String
  department_id : String

/-- The payload of `compensation_chain_run`. -/
structure CompensationPayload where
  workflow_id : String
  dept_id : String
  issue_key : String
  actor_id : String
  actor_role : String
  reason : String
  deriving DecidableEq

inductive AgentCall where
  | body (c : Call)
  | bitbucket_commit_via_git (request : CommitRequest)
  | compensation_chain_run (payload : CompensationPayload)

@[reducible] def agent (py : Python) : Workflow where
  Self := RunnerState
  Signal := Delivery
  Call := AgentCall
  Reply := Except Failure Json
  receive := receive py

theorem handle_kept (py : Python) (signals : List Delivery) (self : RunnerState) :
    (handle (W := agent py) signals self).notes.kept = self.notes.kept := by
  induction signals generalizing self with
  | nil => rfl
  | cons delivery rest ih =>
    rw [handle_cons,ih]
    exact receive_kept py delivery self

/-- The exceptions a body ends with. -/
inductive Raised where
  | cancelledViaSignal
  | epicSubtaskFailed (child_key : String)
  | outOfScope
  | outputActionCriticalFailure (result : ApplyResult)
  | tokenCapExceeded (activity_name : String) (input_tokens cap : Nat)
  | error (failure : Failure)

inductive QuietStep where
  | look
  | note (f : Notes → Notes)
  | record (action_kind : String)
  | clock
  | await (c : Call)
  | wait (ready : RunnerState → Bool)

@[reducible] def quietSteps : Signature where
  Cmd := QuietStep
  Res
    | .look => RunnerState
    | .note _ => Unit
    | .record _ => Unit
    | .clock => Nat
    | .await _ => Except Failure Json
    | .wait _ => Bool

/-- A step of a body may also change the verdict. -/
inductive BodyStep where
  | quiet (step : QuietStep)
  | conclude (f : Verdict → Verdict)

@[reducible] def bodySteps : Signature where
  Cmd := BodyStep
  Res
    | .quiet step => quietSteps.Res step
    | .conclude _ => Unit

/-- Only the spine of the code changes may also commit. -/
inductive SpineStep where
  | body (step : BodyStep)
  | commit (request : CommitRequest)

@[reducible] def spineSteps : Signature where
  Cmd := SpineStep
  Res
    | .body step => bodySteps.Res step
    | .commit _ => Except Failure Json

abbrev Quiet (ε : Type) : Type → Type := Prog quietSteps ε
abbrev Body : Type → Type := Prog bodySteps Raised
abbrev Spine : Type → Type := Prog spineSteps Raised

def quietToBody : Embedding quietSteps bodySteps where
  cmd := .quiet
  back _ r := r

def bodyToSpine : Embedding bodySteps spineSteps where
  cmd := .body
  back _ r := r

def quiet {α : Type} (p : Quiet Raised α) : Body α := p.embed quietToBody
def body {α : Type} (p : Body α) : Spine α := p.embed bodyToSpine

section
variable (py : Python)

def QuietStep.act : QuietStep → Act (agent py)
  | .look => .look
  | .note f => .modify fun self => { self with notes := f self.notes }
  | .record action_kind => .modify fun self =>
      { self with output_actions_partial_kinds := self.output_actions_partial_kinds ++ [action_kind] }
  | .clock => .clock
  | .await c => .await (.body c)
  | .wait ready => .wait fun self => (ready self,self)

def BodyStep.act : BodyStep → Act (agent py)
  | .quiet step => step.act py
  | .conclude f => .modify fun self => { self with verdict := f self.verdict }

def SpineStep.act : SpineStep → Act (agent py)
  | .body step => step.act py
  | .commit request => .await (.bitbucket_commit_via_git request)

def quietEmbedding : Embedding quietSteps (acts (agent py)) where
  cmd := QuietStep.act py
  back
    | .look, r => r
    | .note _, r => r
    | .record _, r => r
    | .clock, r => r
    | .await _, r => r
    | .wait _, r => r

def bodyEmbedding : Embedding bodySteps (acts (agent py)) where
  cmd := BodyStep.act py
  back
    | .quiet step, r => (quietEmbedding py).back step r
    | .conclude _, r => r

def spineEmbedding : Embedding spineSteps (acts (agent py)) where
  cmd := SpineStep.act py
  back
    | .body step, r => (bodyEmbedding py).back step r
    | .commit _, r => r

end

section
variable {py : Python}

/-- The run after an activity, by the signals handled meanwhile and its reply. -/
def awaited (r : Run (agent py)) (c : AgentCall) (signals : List Delivery) (reply : Except Failure Json) (turn : Nat) :
    Run (agent py) :=
  { self := handle (W := agent py) signals r.self
    turn
    events := r.events ++ .began c :: signals.map (Event.handled (W := agent py)) ++ [.replied c reply] }

/-- The run after a wait. -/
def waited (r : Run (agent py)) (signals : List Delivery) (ended : Bool) (turn : Nat) : Run (agent py) :=
  { self := handle (W := agent py) signals r.self
    turn
    events := r.events ++ signals.map (Event.handled (W := agent py)) ++ [.waited ended] }

/-- A relation between the runs before and after a step, for every quiet step. -/
structure QuietRelation (R : Run (agent py) → Run (agent py) → Prop) : Prop where
  refl : ∀ r, R r r
  trans : ∀ a b c, R a b → R b c → R a c
  note : ∀ (f : Notes → Notes) r, R r { r with self := { r.self with notes := f r.self.notes } }
  record : ∀ action_kind r, R r { r with self := { r.self with
    output_actions_partial_kinds := r.self.output_actions_partial_kinds ++ [action_kind] } }
  activity : ∀ c signals reply turn r, R r (awaited r (.body c) signals reply turn)
  wait : ∀ signals ended turn r, R r (waited r signals ended turn)

structure BodyRelation (R : Run (agent py) → Run (agent py) → Prop) : Prop extends QuietRelation R where
  conclude : ∀ (f : Verdict → Verdict) r, R r { r with self := { r.self with verdict := f r.self.verdict } }

structure SpineRelation (R : Run (agent py) → Run (agent py) → Prop) : Prop extends BodyRelation R where
  commit : ∀ request signals reply turn r, R r (awaited r (.bitbucket_commit_via_git request) signals reply turn)

variable (env : Environment (agent py)) {R : Run (agent py) → Run (agent py) → Prop} {ε α : Type}

def quietHandler : Handler quietSteps (Run (agent py)) := (quietEmbedding py).handler (suspend env)
def bodyHandler : Handler bodySteps (Run (agent py)) := (bodyEmbedding py).handler (suspend env)
def spineHandler : Handler spineSteps (Run (agent py)) := (spineEmbedding py).handler (suspend env)

private theorem quiet_step (related : QuietRelation R) (step : QuietStep) (r : Run (agent py)) :
    R r (quietHandler env step r).2 := by
  cases step with
  | look => exact related.refl r
  | note f => exact related.note f r
  | record action_kind => exact related.record action_kind r
  | clock => exact related.refl r
  | await c => exact related.activity c _ _ _ r
  | wait ready =>
    have reads : Reads (W := agent py) fun self => (ready self,self) := fun _ => rfl
    obtain ⟨signals,ended,turn,ran⟩ := suspend_wait_reads env reads r
    change R r (suspend env (.wait fun self => (ready self,self)) r).2
    rw [ran]
    exact related.wait signals ended turn r

theorem QuietRelation.quiet (related : QuietRelation R) (p : Quiet ε α) (r : Run (agent py)) :
    R r (exec (quietHandler env) p r).2 :=
  exec_keeps related.refl related.trans _ (quiet_step env related) p r

theorem SpineRelation.spine (related : SpineRelation R) (p : Prog spineSteps ε α) (r : Run (agent py)) :
    R r (exec (spineHandler env) p r).2 := by
  refine exec_keeps related.refl related.trans _ (fun step r => ?_) p r
  cases step with
  | body step =>
    cases step with
    | quiet step => exact quiet_step env related.toQuietRelation step r
    | conclude f => exact related.conclude f r
  | commit request => exact related.commit request _ _ _ r

end
end Automation.AgentState
