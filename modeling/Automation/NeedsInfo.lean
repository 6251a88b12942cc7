import Mathlib.Data.List.Induction
import Automation.Coroutine
import Automation.Json

/-!
`AutomationWorkflow._run_task_analyser`: the first analysis of a task, and the
rounds in which the gateway waits for an `info_received` signal and analyses the
task again with the comment of the signal.

A round writes its audit row, resets the two fields that the signal handler sets
and only then waits. A signal that is handled while the issue is transitioned or
the audit row is written is therefore forgotten, and the wait can time out though
the user has answered. `round_answered_iff` says exactly which rounds answer the
signals they handle, in every run.
-/
namespace Automation.NeedsInfo
open Automation.Effects Automation.Coroutine

/-- What the gateway's input has for the analysis. -/
structure AutomationWorkflowInput where
  issue_key : String
  department_id : String

inductive Status where
  | ready
  | needs_info
  | rejected
  deriving DecidableEq

def Status.text : Status → String
  | .ready => "ready"
  | .needs_info => "needs_info"
  | .rejected => "rejected"

inductive Source where
  | yaml_frontmatter
  | llm_analysis
  | epic_auto_detect
  deriving DecidableEq

def Source.text : Source → String
  | .yaml_frontmatter => "yaml_frontmatter"
  | .llm_analysis => "llm_analysis"
  | .epic_auto_detect => "epic_auto_detect"

/-- `confidence` is carried as the text of the number. -/
structure TaskAnalysisResult where
  accepted : Bool
  workflow_type : Option String
  execution_command : Option String
  repo : Option String
  branch : Option String
  cleanup_policy : String
  timeout_seconds : Option Int
  web_search : Bool
  output_actions : List Json
  confidence : String
  missing_fields : List String
  source : Source
  status : Status
  error : Option String
  needs_docker : Bool := false
  reasoning : String := ""

structure AutomationStop where
  decision : String
  workflow_type : Option String
  summary : String
  failure_reason : String
  deriving DecidableEq

structure DescriptionOverride where
  workflow_type : String
  cleanup_policy : Option String
  timeout_seconds : Option Int
  web_search : Bool
  target_repo : Option String
  target_branch : Option String
  output_actions : List (String × List (String × Json))
  execution_command : Option String

def alias_map (kind : String) : String :=
  match kind with
  | "bitbucket_put_file" => "bitbucket_commit"
  | "bitbucket_pr" => "bitbucket_create_pr"
  | "confluence_page" => "confluence_create_page"
  | kind => kind

/-- The parameters of an action, sorted by key. -/
def param_pairs : Json → List (String × Json)
  | .obj fields => fields.mergeSort fun a b => decide (a.1 ≤ b.1)
  | _ => []

def override_action (raw : Json) : Option (String × List (String × Json)) :=
  match raw.get "type" with
  | .str kind => if kind = "" then none else some (alias_map kind,param_pairs (raw.get "params"))
  | _ => none

def build_description_override (analysis : TaskAnalysisResult) : DescriptionOverride where
  workflow_type := analysis.workflow_type.getD ""
  cleanup_policy := if analysis.cleanup_policy = "" then none else some analysis.cleanup_policy
  timeout_seconds := analysis.timeout_seconds
  web_search := analysis.web_search
  target_repo := analysis.repo
  target_branch := analysis.branch
  output_actions := analysis.output_actions.filterMap override_action
  execution_command := analysis.execution_command

def format_analysis_failed_comment (reason : String) : String :=
  " Görev analizi başarısız: " ++ reason ++ ". Lütfen issue açıklamasını netleştirip yeniden atayın."

def format_needs_info_timeout_comment : String :=
  "⌛ 7 gün içinde yanıt alınamadı, görev `stale` durumuna alındı ve otomatik işleme kapatıldı. " ++
    "Tekrar başlatmak için görevi yeniden atayın."

def format_needs_info_loop_cap_comment : String :=
  " Görev analizi birkaç iterasyon sonra hâlâ düşük güven üretti, otomatik işleme kapatıldı. " ++
    "Lütfen görev tanımını netleştirip yeniden atayın."

structure AutomationState where
  info_received : Bool
  pending_comment_body : Option String
  info_received_history : List String

inductive Call where
  | prepare_task_analysis_input (inp : AutomationWorkflowInput) (comment_body : String)
  | analyze_task (analysis_input : Json)
  | jira_add_comment (issue_key body department_id : String)
  | jira_transition_issue (issue_key target_status department_id : String)
  | audit_write (row : Json)

/-- What an activity gives back, decoded into the type its caller names. -/
inductive Payload where
  | input (analysis_input : Json)
  | result (task_result : TaskAnalysisResult)
  | done

/-- The text that the handler takes from its argument. -/
def comment_text (repr : Json → String) : Json → String
  | .str text => text
  | .obj fields => ((Json.obj fields).get "comment_body" |>.orElse (.str "")).pyStr repr
  | .null => ""
  | value => value.pyStr repr

def info_received (text : String) (self : AutomationState) : AutomationState :=
  { info_received := true
    pending_comment_body := some text
    info_received_history := if text = "" then self.info_received_history else self.info_received_history ++ [text] }

/-- A signal is the argument of `info_received`; `repr` is Python's, of lists and dicts. -/
@[reducible] def automation (repr : Json → String) : Workflow where
  Self := AutomationState
  Signal := Json
  Call := Call
  Reply := Except String Payload
  receive comment_body := info_received (comment_text repr comment_body)

section
variable (repr : Json → String)

abbrev Analyser := Prog (acts (automation repr)) Empty

def act (c : Act (automation repr)) : Analyser repr ((acts (automation repr)).Res c) :=
  command (S := acts (automation repr)) c

/-- An activity whose failure is logged and ignored. -/
def best_effort (c : Call) : Analyser repr Unit := do
  let _ ← act repr (.await c)
  return ()

def best_effort_jira_comment (issue_key body department_id : String) : Analyser repr Unit :=
  if body = "" then pure () else best_effort repr (.jira_add_comment issue_key body department_id)

def best_effort_jira_transition (issue_key target_status department_id : String) : Analyser repr Unit :=
  best_effort repr (.jira_transition_issue issue_key target_status department_id)

def stop_with_audit (inp : AutomationWorkflowInput) (decision : String) (workflow_type : Option String)
    (failure_reason summary jira_message : String) : Analyser repr AutomationStop := do
  best_effort repr (.audit_write (.obj [("action",.str ("automation_" ++ decision)),("actor_role",.str "system"),
    ("department_id",.str inp.department_id),("issue_key",.str inp.issue_key),
    ("workflow_type",.ofOption workflow_type),("failure_reason",.str failure_reason),("summary",.str summary),
    ("missing_capabilities",.arr [])]))
  best_effort_jira_comment repr inp.issue_key jira_message inp.department_id
  return { decision, workflow_type, summary, failure_reason }

/-- A reply of another shape fails to decode, as an activity that raises does. -/
def decode_input : Except String Payload → Except String Json
  | .ok (.input analysis_input) => .ok analysis_input
  | .ok _ => .error "Failed decoding arguments"
  | .error exc => .error exc

def decode_result : Except String Payload → Except String TaskAnalysisResult
  | .ok (.result task_result) => .ok task_result
  | .ok _ => .error "Failed decoding arguments"
  | .error exc => .error exc

def prepare_and_analyse (inp : AutomationWorkflowInput) (comment_body : Option String) :
    Analyser repr (Except AutomationStop TaskAnalysisResult) := do
  let prepared ← act repr (.await (.prepare_task_analysis_input inp (comment_body.getD "")))
  match decode_input prepared with
  | .error exc =>
    let stop ← stop_with_audit repr inp "failed" none "task_analysis_failed"
      ("prepare_task_analysis_input failed: " ++ exc)
      (format_analysis_failed_comment ("görev bilgisi yüklenemedi: " ++ exc))
    return .error stop
  | .ok analysis_input =>
    let analysed ← act repr (.await (.analyze_task analysis_input))
    match decode_result analysed with
    | .error exc =>
      let stop ← stop_with_audit repr inp "failed" none "task_analysis_failed" ("analyze_task failed: " ++ exc)
        (format_analysis_failed_comment exc)
      return .error stop
    | .ok task_result => return .ok task_result

/-- `task_result.error or default`. -/
def error_or (task_result : TaskAnalysisResult) (default : String) : String :=
  match task_result.error with
  | some error => if error = "" then default else error
  | none => default

def parked_row (inp : AutomationWorkflowInput) (iteration : Nat) (task_result : TaskAnalysisResult) : Json :=
  .obj [("action",.str "task_analyser_needs_info_parked"),("actor_role",.str "system"),
    ("department_id",.str inp.department_id),("issue_key",.str inp.issue_key),
    ("workflow_type",.ofOption task_result.workflow_type),("iteration",.int (iteration + 1)),
    ("missing_fields",.arr (task_result.missing_fields.map .str)),("confidence",.float task_result.confidence),
    ("source",.str task_result.source.text)]

def reset_info (self : AutomationState) : AutomationState :=
  { self with info_received := false, pending_comment_body := none }

/-- The condition of the wait. -/
def flagged : Condition (automation repr) := fun self => (self.info_received,self)

/-- One pass of the loop: the new analysis, and whether the loop breaks with it. -/
def needs_info_round (inp : AutomationWorkflowInput) (iteration : Nat) (task_result : TaskAnalysisResult) :
    Analyser repr (Except AutomationStop (Bool × TaskAnalysisResult)) := do
  best_effort repr (.audit_write (parked_row inp iteration task_result))
  act repr (.modify reset_info)
  if ← act repr (.wait (flagged repr)) then
    let self ← act repr .look
    match ← prepare_and_analyse repr inp (some (self.pending_comment_body.getD "")) with
    | .error stop => return .error stop
    | .ok again =>
      if again.accepted = false ∧ again.status = .rejected then
        let stop ← stop_with_audit repr inp "denied" again.workflow_type "task_analysis_rejected"
          (error_or again "task analyzer rejected after re-analysis") ""
        return .error stop
      else return .ok (again.status = .ready,again)
  else
    best_effort_jira_transition repr inp.issue_key "stale" inp.department_id
    let stop ← stop_with_audit repr inp "failed" task_result.workflow_type "needs_info_timeout"
      ("task_analyser needs_info timed out after 24h (iteration " ++ toString (iteration + 1) ++ ")")
      format_needs_info_timeout_comment
    return .error stop

def needs_info_max_iterations : Nat := 3

/-- The loop with `remaining` passes to go; it breaks at the first ready analysis. -/
def needs_info_loop (inp : AutomationWorkflowInput) (remaining : Nat) (task_result : TaskAnalysisResult) :
    Analyser repr (Except AutomationStop TaskAnalysisResult) :=
  match remaining with
  | 0 => do
    let stop ← stop_with_audit repr inp "failed" task_result.workflow_type "loop_cap_reached"
      ("task_analyser needs_info loop cap reached after " ++ toString needs_info_max_iterations ++ " iterations")
      format_needs_info_loop_cap_comment
    return .error stop
  | remaining + 1 => do
    match ← needs_info_round repr inp (needs_info_max_iterations - (remaining + 1)) task_result with
    | .error stop => return .error stop
    | .ok (true,again) => return .ok again
    | .ok (false,again) => needs_info_loop inp remaining again

/-- The number of subtasks in the metadata entry of an Epic. -/
def subtask_count (output_actions : List Json) : Json :=
  match output_actions.find? fun action => action.isObj && (action.get "_meta").asStr = some "epic_auto_detect" with
  | some action => if action.has "subtask_count" then action.get "subtask_count" else .int 0
  | none => .int 0

/-- What follows the loop: the guard against other statuses, and the audit of an Epic. -/
def finish_analysis (inp : AutomationWorkflowInput) (task_result : TaskAnalysisResult) :
    Analyser repr (Except AutomationStop (TaskAnalysisResult × DescriptionOverride)) := do
  if task_result.status ≠ .ready then
    let stop ← stop_with_audit repr inp "failed" task_result.workflow_type "task_analysis_failed"
      ("task analyzer returned unexpected status '" ++ task_result.status.text ++ "'")
      (format_analysis_failed_comment ("beklenmeyen analiz durumu: " ++ task_result.status.text))
    return .error stop
  if task_result.source = .epic_auto_detect then
    best_effort repr (.audit_write (.obj [("action",.str "epic_auto_detected_multi_step"),
      ("actor_role",.str "system"),("department_id",.str inp.department_id),("issue_key",.str inp.issue_key),
      ("payload",.obj [("issue_key",.str inp.issue_key),("subtask_count",subtask_count task_result.output_actions)])]))
  return .ok (task_result,build_description_override task_result)

def run_task_analyser (inp : AutomationWorkflowInput) :
    Analyser repr (Except AutomationStop (TaskAnalysisResult × DescriptionOverride)) := do
  match ← prepare_and_analyse repr inp none with
  | .error stop => return .error stop
  | .ok task_result =>
    if task_result.accepted = false ∧ task_result.status = .rejected then
      let stop ← stop_with_audit repr inp "denied" task_result.workflow_type "task_analysis_rejected"
        (error_or task_result "task analyzer rejected the request") ""
      return .error stop
    else if task_result.status = .needs_info then
      best_effort_jira_transition repr inp.issue_key "needs_info" inp.department_id
      match ← needs_info_loop repr inp needs_info_max_iterations task_result with
      | .error stop => return .error stop
      | .ok again => finish_analysis repr inp again
    else finish_analysis repr inp task_result

end

/-- The signals a round handled before and during its wait, whether a signal ended
    the wait, and the activity that followed. -/
structure Round where
  before : List Json
  during : List Json
  ended : Bool
  next : Call

/-- Where a run stands: outside of a round, in one that is open since the analysis
    with the signals handled until the last activity ended and since then, or in
    one whose wait is over. -/
inductive Phase where
  | idle
  | opened (before during : List Json)
  | closed (before during : List Json) (ended : Bool)

structure Watch where
  phase : Phase
  rounds : List Round

section
variable (repr : Json → String)

/-- Reads the rounds off the events of a run. -/
def watch (w : Watch) : Event (automation repr) → Watch
  | .replied (.analyze_task _) reply =>
    match decode_result reply with
    | .ok task_result => { w with phase := if task_result.status = .needs_info then .opened [] [] else .idle }
    | .error _ => { w with phase := .idle }
  | .replied _ _ =>
    match w.phase with
    | .opened before during => { w with phase := .opened (before ++ during) [] }
    | _ => w
  | .handled s =>
    match w.phase with
    | .opened before during => { w with phase := .opened before (during ++ [s]) }
    | _ => w
  | .waited ended =>
    match w.phase with
    | .opened before during => { w with phase := .closed before during ended }
    | _ => w
  | .began c =>
    match w.phase with
    | .idle => w
    | .opened before during => { w with phase := .opened (before ++ during) [] }
    | .closed before during ended => { phase := .idle, rounds := w.rounds ++ [⟨before,during,ended,c⟩] }

def observe (events : List (Event (automation repr))) : Watch := events.foldl (watch repr) { phase := .idle, rounds := [] }

end

section
variable {repr : Json → String}

/-- The events of the analysis of a workflow in the state `self`, whose suspensions
    so far were `turn`. -/
def analysisEvents (env : Environment (automation repr)) (inp : AutomationWorkflowInput) (self : AutomationState)
    (turn : Nat) : List (Event (automation repr)) :=
  (exec (suspend env) (run_task_analyser repr inp) { self, turn, events := [] }).2.events

def analysisResult (env : Environment (automation repr)) (inp : AutomationWorkflowInput) (self : AutomationState)
    (turn : Nat) : Except Empty (Except AutomationStop (TaskAnalysisResult × DescriptionOverride)) :=
  (exec (suspend env) (run_task_analyser repr inp) { self, turn, events := [] }).1

end

section
variable (repr : Json → String) (inp : AutomationWorkflowInput)

/-- The wait did not time out, and the next analysis has the comment of the signal. -/
def Answered (round : Round) (s : Json) : Prop :=
  round.ended = true ∧ round.next = .prepare_task_analysis_input inp (comment_text repr s)

def Round.signals (round : Round) : List Json := round.before ++ round.during

/-- What a round does: it ends with the comment of the last signal its wait
    handled, and times out without one. -/
def FollowsLast (round : Round) : Prop :=
  match round.during.getLast? with
  | some last => Answered repr inp round last
  | none => round.ended = false

end

section
variable {repr : Json → String} {inp : AutomationWorkflowInput}

theorem answered_iff {round : Round} (follows : FollowsLast repr inp round) (s : Json) :
    Answered repr inp round s ↔ ∃ last, round.during.getLast? = some last ∧ comment_text repr last = comment_text repr s := by
  unfold FollowsLast at follows
  cases found : round.during.getLast? with
  | none =>
    rw [found] at follows
    constructor
    · intro answered
      cases follows.symm.trans answered.1
    · rintro ⟨last,none_eq,_⟩
      cases none_eq
  | some last =>
    rw [found] at follows
    obtain ⟨ended,next⟩ := follows
    constructor
    · rintro ⟨_,body⟩
      rw [next] at body
      injection body with _ same
      exact ⟨last,rfl,same⟩
    · rintro ⟨other,found_eq,same⟩
      cases found_eq
      exact ⟨ended,by rw [next,same]⟩

theorem handle_last (repr : Json → String) (signals : List Json) (self : AutomationState) :
    match signals.getLast? with
    | some last => (handle (W := automation repr) signals self).info_received = true ∧
        (handle (W := automation repr) signals self).pending_comment_body = some (comment_text repr last)
    | none => handle (W := automation repr) signals self = self := by
  induction signals using List.reverseRecOn with
  | nil => rfl
  | append_singleton first last _ =>
    rw [List.getLast?_concat,handle_append]
    exact ⟨rfl,rfl⟩

/-- A wait that handled signals was ended by them and leaves the comment of the
    last one; one that handled none timed out. -/
def EndedByLast (repr : Json → String) (waited : Bool × AutomationState × List Json) : Prop :=
  match waited.2.2.getLast? with
  | some last => waited.1 = true ∧ waited.2.1.pending_comment_body = some (comment_text repr last)
  | none => waited.1 = false

theorem wait_last (repr : Json → String) (batches : List (List Json)) {self : AutomationState}
    (reset : self.info_received = false) : EndedByLast repr (waitBatches (flagged repr) batches self) := by
  induction batches with
  | nil => rfl
  | cons batch rest ih =>
    have handled := handle_last repr batch self
    cases found : batch.getLast? with
    | some last =>
      rw [found] at handled
      simp only [EndedByLast,waitBatches,flagged,handled.1,if_true,found,true_and]
      exact handled.2
    | none =>
      obtain rfl : batch = [] := List.getLast?_eq_none_iff.mp found
      simpa [EndedByLast,waitBatches,flagged,handle_nil (W := automation repr),reset] using ih

private theorem watch_handled (repr : Json → String) (signals : List Json) (w : Watch) :
    (signals.map (Event.handled (W := automation repr))).foldl (watch repr) w =
      match w.phase with
      | .opened before during => { w with phase := .opened before (during ++ signals) }
      | _ => w := by
  induction signals generalizing w with
  | nil => cases phase : w.phase <;> simp [← phase]
  | cons s rest ih =>
    rw [List.map_cons,List.foldl_cons,ih]
    cases phase : w.phase <;> simp [watch,phase]

private theorem observe_append (first second : List (Event (automation repr))) :
    observe repr (first ++ second) = second.foldl (watch repr) (observe repr first) := List.foldl_append

private theorem observe_wait (events : List (Event (automation repr))) (signals : List Json) (ended : Bool) :
    observe repr (events ++ signals.map (Event.handled (W := automation repr)) ++ [.waited ended]) =
      match (observe repr events).phase with
      | .opened before during => { observe repr events with phase := .closed before (during ++ signals) ended }
      | _ => observe repr events := by
  rw [observe_append,observe_append,watch_handled]
  cases phase : (observe repr events).phase <;> simp [watch,phase]

/-- No wait is just over. -/
def Phase.Rests (phase : Phase) : Prop := phase = .idle ∨ ∃ before, phase = .opened before []

private theorem watch_replied (repr : Json → String) (c : Call) (reply : Except String Payload) {w : Watch}
    (going : ∀ before during ended, w.phase ≠ .closed before during ended) :
    (watch repr w (.replied c reply)).rounds = w.rounds ∧
      (watch repr w (.replied c reply)).phase.Rests := by
  have others : (match w.phase with
      | .opened before during => { w with phase := .opened (before ++ during) [] }
      | _ => w : Watch).rounds = w.rounds ∧
      (match w.phase with
      | .opened before during => { w with phase := .opened (before ++ during) [] }
      | _ => w : Watch).phase.Rests := by
    cases phase : w.phase with
    | idle => exact ⟨rfl,.inl phase⟩
    | opened before during => exact ⟨rfl,.inr ⟨_,rfl⟩⟩
    | closed before during ended => exact absurd phase (going before during ended)
  cases c with
  | analyze_task analysis_input =>
    simp only [watch]
    split
    · refine ⟨rfl,?_⟩
      split
      · exact .inr ⟨[],rfl⟩
      · exact .inl rfl
    · exact ⟨rfl,.inl rfl⟩
  | prepare_task_analysis_input inp comment_body => exact others
  | jira_add_comment issue_key body department_id => exact others
  | jira_transition_issue issue_key target_status department_id => exact others
  | audit_write row => exact others

end

section
variable {repr : Json → String} (inp : AutomationWorkflowInput)

/-- Every round so far follows its last signal, and no wait is just over. -/
def Rested (r : Run (automation repr)) : Prop :=
  (∀ round ∈ (observe repr r.events).rounds, FollowsLast repr inp round) ∧ (observe repr r.events).phase.Rests

/-- As `Rested`, but the wait of a round may be over: then its last signal asks for
    the activity `c`. -/
def Owes (c : Call) (r : Run (automation repr)) : Prop :=
  (∀ round ∈ (observe repr r.events).rounds, FollowsLast repr inp round) ∧
    ((observe repr r.events).phase.Rests ∨ ∃ before during ended,
      (observe repr r.events).phase = .closed before during ended ∧ FollowsLast repr inp ⟨before,during,ended,c⟩)

variable {inp} {r : Run (automation repr)}

private theorem Rested.owes (rested : Rested inp r) (c : Call) : Owes inp c r :=
  ⟨rested.1,.inl rested.2⟩

private theorem watch_began {c : Call} (owes : Owes inp c r) :
    (∀ round ∈ (watch repr (observe repr r.events) (.began c)).rounds, FollowsLast repr inp round) ∧
      (watch repr (observe repr r.events) (.began c)).phase.Rests := by
  obtain ⟨good,(idle | ⟨before,opened⟩) | ⟨before,during,ended,closed,follows⟩⟩ := owes
  · simp only [watch,idle]
    exact ⟨good,.inl rfl⟩
  · simp only [watch,opened]
    exact ⟨good,.inr ⟨_,rfl⟩⟩
  · simp only [watch,closed]
    refine ⟨fun round member => ?_,.inl rfl⟩
    rcases List.mem_append.mp member with earlier | last
    · exact good round earlier
    · rw [List.mem_singleton.mp last]
      exact follows

variable (env : Environment (automation repr))

theorem await_rests {c : Call} (owes : Owes inp c r) :
    Rested inp (suspend env (.await c) r).2 := by
  obtain ⟨good,rests⟩ := watch_began owes
  have going : ∀ before during ended, ((env.activity r.turn c).1.map
      (Event.handled (W := automation repr)) |>.foldl (watch repr) (watch repr (observe repr r.events) (.began c))).phase ≠
        .closed before during ended := by
    intro before during ended
    rw [watch_handled]
    rcases rests with idle | ⟨_,opened⟩
    · simp [idle]
    · simp [opened]
  have rounds : ((env.activity r.turn c).1.map (Event.handled (W := automation repr)) |>.foldl (watch repr)
      (watch repr (observe repr r.events) (.began c))).rounds = (watch repr (observe repr r.events) (.began c)).rounds := by
    rw [watch_handled]
    rcases rests with idle | ⟨_,opened⟩
    · simp [idle]
    · simp [opened]
  obtain ⟨kept,after⟩ := watch_replied repr c (env.activity r.turn c).2 going
  rw [Rested,suspend_await]
  simp only [List.append_assoc,List.cons_append,observe_append,List.foldl_cons,List.foldl_append,List.foldl_nil]
  rw [kept,rounds]
  exact ⟨good,after⟩

/-- The activity that follows a wait. -/
def followUp (inp : AutomationWorkflowInput) (ended : Bool) (self : AutomationState) : Call :=
  if ended then .prepare_task_analysis_input inp (self.pending_comment_body.getD "")
  else .jira_transition_issue inp.issue_key "stale" inp.department_id

private theorem followUp_follows {waited : Bool × AutomationState × List Json} (before : List Json)
    (ended : EndedByLast repr waited) :
    FollowsLast repr inp ⟨before,waited.2.2,waited.1,followUp inp waited.1 waited.2.1⟩ := by
  unfold EndedByLast at ended
  unfold FollowsLast
  cases found : waited.2.2.getLast? with
  | some last =>
    rw [found] at ended
    exact ⟨ended.1,by simp [followUp,ended.1,ended.2]⟩
  | none =>
    rw [found] at ended
    exact ended

private theorem owes_followUp (rested : Rested inp r)
    {waited : Bool × AutomationState × List Json} (ended : EndedByLast repr waited) (turn : Nat) :
    Owes inp (followUp inp waited.1 waited.2.1)
      { self := waited.2.1, turn
        events := r.events ++ waited.2.2.map (Event.handled (W := automation repr)) ++ [.waited waited.1] } := by
  unfold Owes
  rw [observe_wait]
  obtain ⟨good,idle | ⟨before,opened⟩⟩ := rested
  · rw [idle]
    exact ⟨good,.inl (.inl idle)⟩
  · rw [opened]
    exact ⟨good,.inr ⟨before,waited.2.2,waited.1,rfl,followUp_follows before ended⟩⟩

theorem wait_owes (rested : Rested inp r) (reset : r.self.info_received = false) :
    Owes inp (followUp inp (suspend env (.wait (flagged repr)) r).1 (suspend env (.wait (flagged repr)) r).2.self)
      (suspend env (.wait (flagged repr)) r).2 := by
  rw [suspend_wait reset]
  exact owes_followUp rested (wait_last repr (env.waiting r.turn) reset) (r.turn + 1)

/-- The program leaves a run rested. -/
def Rests (inp : AutomationWorkflowInput) (env : Environment (automation repr)) {α : Type} (p : Analyser repr α)
    (r : Run (automation repr)) : Prop :=
  Triple (suspend env) p r (fun _ t => Rested inp t) fun _ _ => True

private theorem act_await_rests {c : Call} (owes : Owes inp c r) :
    Rests inp env (act repr (.await c)) r := triple_command (await_rests env owes)

private theorem best_effort_rests {c : Call} (owes : Owes inp c r) :
    Rests inp env (best_effort repr c) r :=
  triple_bind (act_await_rests env owes) fun _ _ rested => triple_pure rested

private theorem best_effort_jira_comment_rests (issue_key body department_id : String)
    (rested : Rested inp r) : Rests inp env (best_effort_jira_comment repr issue_key body department_id) r := by
  unfold best_effort_jira_comment
  split
  · exact triple_pure rested
  · exact best_effort_rests env (rested.owes _)

private theorem stop_with_audit_rests (decision : String) (workflow_type : Option String)
    (failure_reason summary jira_message : String) (rested : Rested inp r) :
    Rests inp env (stop_with_audit repr inp decision workflow_type failure_reason summary jira_message) r := by
  unfold stop_with_audit
  refine triple_bind (best_effort_rests env (rested.owes _)) fun _ _ audited => ?_
  exact triple_bind (best_effort_jira_comment_rests env _ _ _ audited) fun _ _ posted => triple_pure posted

private theorem stopped_rests {α : Type} (decision : String) (workflow_type : Option String)
    (failure_reason summary jira_message : String) (rested : Rested inp r) :
    Rests inp env (do
      let stop ← stop_with_audit repr inp decision workflow_type failure_reason summary jira_message
      return (.error stop : Except AutomationStop α)) r :=
  triple_bind (stop_with_audit_rests env _ _ _ _ _ rested) fun _ _ stopped => triple_pure stopped

private theorem prepare_and_analyse_rests {comment_body : Option String}
    (owes : Owes inp (.prepare_task_analysis_input inp (comment_body.getD "")) r) :
    Rests inp env (prepare_and_analyse repr inp comment_body) r := by
  unfold prepare_and_analyse
  refine triple_bind (act_await_rests env owes) fun prepared t rested => ?_
  split
  · exact stopped_rests env _ _ _ _ _ rested
  · refine triple_bind (act_await_rests env (rested.owes _)) fun analysed u again => ?_
    split
    · exact stopped_rests env _ _ _ _ _ again
    · exact triple_pure again

private theorem needs_info_round_rests (iteration : Nat) (task_result : TaskAnalysisResult) (rested : Rested inp r) :
    Rests inp env (needs_info_round repr inp iteration task_result) r := by
  unfold needs_info_round
  refine triple_bind (best_effort_rests env (rested.owes _)) fun _ parked audited => ?_
  -- The reset leaves the events as they are, and the flag down.
  refine triple_bind (R := fun _ t => Rested inp t ∧ t.self.info_received = false) (triple_command ⟨audited,rfl⟩)
    fun _ reset ready => ?_
  refine triple_bind (R := fun ended t => Owes inp (followUp inp ended t.self) t)
    (triple_command (wait_owes env ready.1 ready.2)) fun ended waited owes => ?_
  cases ended with
  | true =>
    refine triple_bind (R := fun self t => Owes inp (followUp inp true self) t) (triple_command owes)
      fun self looked owes => ?_
    refine triple_bind (prepare_and_analyse_rests env owes) fun analysed u again => ?_
    split
    · exact triple_pure again
    · split
      · exact stopped_rests env _ _ _ _ _ again
      · exact triple_pure again
  | false =>
    refine triple_bind (best_effort_rests env owes) fun _ _ stale => ?_
    exact stopped_rests env _ _ _ _ _ stale

private theorem needs_info_loop_rests (remaining : Nat) (task_result : TaskAnalysisResult) (rested : Rested inp r) :
    Rests inp env (needs_info_loop repr inp remaining task_result) r := by
  induction remaining generalizing task_result r with
  | zero => exact stopped_rests env _ _ _ _ _ rested
  | succ remaining ih =>
    unfold needs_info_loop
    refine triple_bind (needs_info_round_rests env _ _ rested) fun outcome t after => ?_
    split
    · exact triple_pure after
    · exact triple_pure after
    · exact ih _ after

private theorem finish_analysis_rests (task_result : TaskAnalysisResult)
    (rested : Rested inp r) : Rests inp env (finish_analysis repr inp task_result) r := by
  unfold finish_analysis
  split
  · exact stopped_rests env _ _ _ _ _ rested
  · split
    · exact triple_bind (best_effort_rests env (rested.owes _)) fun _ _ audited => triple_pure audited
    · exact triple_pure rested

private theorem run_task_analyser_rests (rested : Rested inp r) :
    Rests inp env (run_task_analyser repr inp) r := by
  unfold run_task_analyser
  refine triple_bind (prepare_and_analyse_rests env (rested.owes _)) fun analysed t first => ?_
  split
  · exact triple_pure first
  · split
    · exact stopped_rests env _ _ _ _ _ first
    · split
      · refine triple_bind (best_effort_rests env (first.owes _)) fun _ _ parked => ?_
        refine triple_bind (needs_info_loop_rests env _ _ parked) fun again u after => ?_
        split
        · exact triple_pure after
        · exact finish_analysis_rests env _ after
      · exact finish_analysis_rests env _ first

/-- Every round of a run ends with the comment of the last signal of its wait, or
    times out. -/
theorem rounds_follow_last (inp : AutomationWorkflowInput) (self : AutomationState) (turn : Nat) :
    ∀ round ∈ (observe repr (analysisEvents env inp self turn)).rounds, FollowsLast repr inp round := by
  have start : Rested inp ({ self, turn, events := [] } : Run (automation repr)) := ⟨by simp [observe],.inl rfl⟩
  have rests := run_task_analyser_rests env start
  unfold Rests Triple at rests
  unfold analysisEvents
  split at rests
  · next result t ended => rw [ended]; exact rests.1
  · next impossible _ _ => exact impossible.elim

end

/-- In every run, a round answers each signal it handles exactly when the last
    signal of its wait has the comment of each of them. It answers one of them
    exactly when it handled none before its wait, or one in it. -/
theorem round_answered_iff (repr : Json → String) (env : Environment (automation repr))
    (inp : AutomationWorkflowInput) (self : AutomationState) (turn : Nat) :
    ∀ round ∈ (observe repr (analysisEvents env inp self turn)).rounds,
      ((∀ s ∈ round.signals, Answered repr inp round s) ↔
        ∀ s ∈ round.signals, ∃ last, round.during.getLast? = some last ∧ comment_text repr last = comment_text repr s) ∧
      ((round.signals ≠ [] → ∃ s ∈ round.signals, Answered repr inp round s) ↔
        round.before = [] ∨ round.during ≠ []) := by
  intro round member
  have answered := answered_iff (rounds_follow_last env inp self turn round member)
  refine ⟨by simp only [answered],?_⟩
  constructor
  · intro some_answered
    by_cases quiet : round.before = []
    · exact .inl quiet
    · right
      obtain ⟨s,_,reply⟩ := some_answered (by simp [Round.signals,quiet])
      obtain ⟨last,found,_⟩ := (answered s).mp reply
      exact List.ne_nil_of_mem (List.mem_of_getLast? found)
  · intro heard handled
    have waited : round.during ≠ [] := by
      rcases heard with quiet | waited
      · simpa [Round.signals,quiet] using handled
      · exact waited
    have last := List.getLast?_eq_some_getLast waited
    refine ⟨round.during.getLast waited,List.mem_append_right _ (List.getLast_mem waited),?_⟩
    exact (answered _).mpr ⟨_,last,rfl⟩

/-! The user answers while the audit row of the first round is written, and once
more while the gateway waits. -/

def task : AutomationWorkflowInput := { issue_key := "PAY-7", department_id := "payments" }

def unclear : TaskAnalysisResult :=
  { accepted := false, workflow_type := some "bug_fix", execution_command := none, repo := none, branch := none
    cleanup_policy := "on_success", timeout_seconds := none, web_search := false, output_actions := []
    confidence := "0.4", missing_fields := ["repo"], source := .llm_analysis, status := .needs_info, error := none }

def analysing (status : Nat → Status) : Nat → Call → Except String Payload
  | _, .prepare_task_analysis_input _ comment_body => .ok (.input (.str comment_body))
  | turn, .analyze_task _ => .ok (.result { unclear with status := status turn })
  | _, _ => .ok .done

def fresh : AutomationState := { info_received := false, pending_comment_body := none, info_received_history := [] }

def noContainers (_ : Json) : String := ""

/-- The third activity is the transition, the fourth the audit row. -/
def forgetful : Environment (automation noContainers) where
  activity turn c := (if turn = 3 then [.str "repo is billing"] else [],analysing (fun _ => .needs_info) turn c)
  waiting _ := []
  clock _ := 0

theorem answer_forgotten :
    ∃ round ∈ (observe noContainers (analysisEvents forgetful task fresh 0)).rounds,
      .str "repo is billing" ∈ round.signals ∧ (∀ s ∈ round.signals, ¬ Answered noContainers task round s) ∧
        ∃ stop, analysisResult forgetful task fresh 0 = .ok (.error stop) ∧
          stop.failure_reason = "needs_info_timeout" := by
  refine ⟨⟨[.str "repo is billing"],[],false,.jira_transition_issue "PAY-7" "stale" "payments"⟩,?_,?_,?_,?_⟩
  · exact List.mem_singleton.mpr rfl
  · exact List.mem_singleton.mpr rfl
  · rintro s _ ⟨ended,_⟩
    cases ended
  · exact ⟨_,rfl,rfl⟩

def attentive : Environment (automation noContainers) where
  activity turn c := ([],analysing (fun turn => if turn < 4 then .needs_info else .ready) turn c)
  waiting _ := [[],[.str "repo is billing"]]
  clock _ := 0

theorem attentive_answers :
    ∃ round ∈ (observe noContainers (analysisEvents attentive task fresh 0)).rounds,
      round.signals = [.str "repo is billing"] ∧ ∀ s ∈ round.signals, Answered noContainers task round s := by
  have member : (⟨[],[.str "repo is billing"],true,.prepare_task_analysis_input task "repo is billing"⟩ : Round) ∈
      (observe noContainers (analysisEvents attentive task fresh 0)).rounds := List.mem_singleton.mpr rfl
  refine ⟨_,member,rfl,(round_answered_iff noContainers attentive task fresh 0 _ member).1.mpr ?_⟩
  intro s handled
  exact ⟨.str "repo is billing",rfl,by rw [List.mem_singleton.mp handled]⟩

end Automation.NeedsInfo
