import Automation.ExecutionRun
import Automation.Gateway

/-!
The artifacts of an execution, from its upload to its publication. The runner stores an
artifact below a place that the issue names, the child returns its URI, and the gateway
splits the URI, or makes up a key of its own where there is none. An attachment is the
execution's own output exactly if the URI arrives, the key of the issue does not begin
with a slash, and no execution of another iteration stores the same artifact
(`own_output_iff`).
-/
namespace Automation.PublishedArtifacts
open Automation.Effects Automation.PyText Automation.RunnerActivities
open Automation.AgentMessages (Failure)

/-! ### The place of an execution -/

/-- What the key of an issue comes to: its end without slashes, then without white space,
    then without slashes again. -/
def directory (issue_key : String) : List Char :=
  List.rdropWhile (· == '/') (List.rdropWhile isSpace (List.rdropWhile (· == '/') issue_key.toList))

/-- The name of the bucket that the place of every execution begins with. -/
def executions : List Char := "executions".toList

theorem drop_slashes (key : List Char) :
    List.rdropWhile (· == '/') (executions ++ '/' :: key) =
      if List.rdropWhile (· == '/') key = [] then executions
      else executions ++ '/' :: List.rdropWhile (· == '/') key := by
  have alone : List.rdropWhile (· == '/') (executions ++ ['/']) = executions := by decide
  rw [List.append_cons,rdropWhile_append,alone]
  simp only [List.append_assoc,List.singleton_append]

theorem drop_spaces (key : List Char) :
    List.rdropWhile isSpace (executions ++ '/' :: key) = executions ++ '/' :: List.rdropWhile isSpace key := by
  have alone : List.rdropWhile isSpace (executions ++ ['/']) = executions ++ ['/'] := by decide
  rw [List.append_cons,rdropWhile_append,alone]
  by_cases gone : List.rdropWhile isSpace key = []
  · rw [if_pos gone,gone]
  · rw [if_neg gone]
    simp only [List.append_assoc,List.singleton_append]

/-- The text of a place begins with the name of the bucket. -/
theorem dropWhile_executions {drop : Char → Bool} (kept : drop 'e' = false) (rest : List Char) :
    (executions ++ rest).dropWhile drop = executions ++ rest := by
  change ('e' :: ("xecutions".toList ++ rest)).dropWhile drop = 'e' :: ("xecutions".toList ++ rest)
  rw [List.dropWhile_cons_of_neg (by rw [kept]; decide)]

theorem prefix_toList (issue_key : String) :
    (Gateway.execution_artifact_prefix issue_key).toList =
      List.rdropWhile (· == '/') (executions ++ '/' :: issue_key.toList) := by
  have front : "executions/".toList = executions ++ ['/'] := rfl
  have back : "/".toList = ['/'] := rfl
  have ended : List.rdropWhile (· == '/') (executions ++ ['/'] ++ issue_key.toList ++ ['/']) =
      List.rdropWhile (· == '/') (executions ++ ['/'] ++ issue_key.toList) := List.rdropWhile_concat_pos _ _ _ rfl
  rw [ Gateway.execution_artifact_prefix,String.toList_ofList,String.toList_append,String.toList_append,front,back]
  refine ended.trans ?_
  rw [List.append_assoc,List.singleton_append]

theorem trimmed_place (issue_key : String) :
    trimmed (Gateway.execution_artifact_prefix issue_key) =
      if directory issue_key = [] then executions else executions ++ '/' :: directory issue_key := by
  have unmarked : hasPrefix (Gateway.execution_artifact_prefix issue_key) "s3://" = false := by
    rw [hasPrefix,prefix_toList,drop_slashes]
    split <;> rfl
  have alone : stripBy (· == '/') (stripBy isSpace executions) = executions := by decide
  rw [trimmed,unmarked,if_neg (by decide),prefix_toList,drop_slashes]
  by_cases bare : List.rdropWhile (· == '/') issue_key.toList = []
  · have empty : directory issue_key = [] := by rw [directory,bare]; rfl
    rw [if_pos bare,if_pos empty,alone]
  · rw [if_neg bare,stripBy_eq isSpace,dropWhile_executions (by decide),drop_spaces,stripBy_eq,
      dropWhile_executions (by decide),drop_slashes,directory]

theorem directory_kept (issue_key : String) : List.rdropWhile (· == '/') (directory issue_key) = directory issue_key :=
  List.rdropWhile_idempotent ..

theorem place (issue_key : String) :
    bucket_and_key_from_prefix (Gateway.execution_artifact_prefix issue_key) = ("executions",.ofList (directory issue_key)) := by
  have plain : ∀ c ∈ executions, (decide (c ≠ '/')) = true := List.all_eq_true.mp (by decide)
  have bucket : String.ofList executions = "executions" := by decide
  have nonempty : executions ≠ [] := by decide
  have taken : (executions ++ '/' :: directory issue_key).takeWhile (· ≠ '/') = executions := by
    rw [List.takeWhile_append_of_pos plain]
    simp
  have dropped : (executions ++ '/' :: directory issue_key).dropWhile (· ≠ '/') = '/' :: directory issue_key := by
    rw [List.dropWhile_append_of_pos plain]
    simp
  have stripped : rstripChar '/' (.ofList (directory issue_key)) = .ofList (directory issue_key) := by
    rw [rstripChar,String.toList_ofList]
    exact congrArg String.ofList (directory_kept issue_key)
  rw [ bucket_and_key_from_prefix,trimmed_place]
  by_cases empty : directory issue_key = []
  · rw [if_pos empty,empty,if_neg nonempty]
    rfl
  · rw [if_neg empty,if_neg (by simp),taken,dropped,bucket,List.drop_one,List.tail_cons,stripped]

/-! ### Artifacts -/

inductive Artifact where
  | stdout
  | stderr
  deriving DecidableEq

def Artifact.name : Artifact → String
  | .stdout => "stdout.txt"
  | .stderr => "stderr.txt"

/-- The key of an artifact in the bucket of the executions. -/
def artifact_path (issue_key : String) (artifact : Artifact) : List Char :=
  if directory issue_key = [] then artifact.name.toList else directory issue_key ++ '/' :: artifact.name.toList

theorem artifact_key_path (issue_key : String) (artifact : Artifact) :
    artifact_key (.ofList (directory issue_key)) artifact.name = .ofList (artifact_path issue_key artifact) := by
  rw [artifact_key,artifact_path]
  by_cases empty : directory issue_key = []
  · rw [if_pos empty,empty,if_pos (by rfl),String.ofList_toList]
  · have named : String.ofList (directory issue_key) ≠ "" := mt String.ofList_eq_empty_iff.mp empty
    have slash : ("/" : String).toList = ['/'] := rfl
    rw [if_neg empty,if_neg named,← String.toList_inj]
    simp only [String.toList_append,String.toList_ofList,slash,List.append_assoc,List.singleton_append]

theorem artifact_path_inj {issue_key : String} {first second : Artifact}
    (same : artifact_path issue_key first = artifact_path issue_key second) : first = second := by
  have names : first.name.toList = second.name.toList → first = second := by
    intro equal
    cases first <;> cases second <;> first | rfl | exact absurd equal (by decide)
  unfold artifact_path at same
  by_cases empty : directory issue_key = []
  · rw [if_pos empty,if_pos empty] at same
    exact names same
  · rw [if_neg empty,if_neg empty] at same
    have tails := List.append_cancel_left same
    injection tails with _ equal
    exact names equal

theorem artifact_path_last (issue_key : String) (artifact : Artifact) :
    (artifact_path issue_key artifact).getLast? = some 't' := by
  have last : artifact.name.toList.getLast? = some 't' := by cases artifact <;> rfl
  have nonempty : artifact.name.toList ≠ [] := by cases artifact <;> decide
  rw [artifact_path]
  by_cases empty : directory issue_key = []
  · rw [if_pos empty,last]
  · rw [if_neg empty,List.append_cons,List.getLast?_append_of_ne_nil _ nonempty,last]

theorem artifact_path_head (issue_key : String) (artifact : Artifact) :
    (artifact_path issue_key artifact).head? = some '/' ↔ (directory issue_key).head? = some '/' := by
  rw [artifact_path]
  cases whole : directory issue_key with
  | nil =>
    rw [if_pos rfl]
    cases artifact <;> decide
  | cons c rest => rw [if_neg (by simp),List.cons_append,List.head?_cons,List.head?_cons]

theorem uri_toList (key : List Char) :
    (build_artifact_uri "executions" (.ofList key)).toList = "s3://".toList ++ (executions ++ '/' :: key) := by
  have front : ("s3://" ++ "executions" ++ "/").toList = "s3://".toList ++ (executions ++ ['/']) := rfl
  rw [build_artifact_uri,String.toList_append,String.toList_ofList,front,List.append_assoc,List.append_assoc]
  rfl

/-- Nothing is stripped from a place and a key that ends as those of the artifacts do. -/
theorem uri_stripped {key : List Char} (last : key.getLast? = some 't') {drop : Char → Bool} (first : drop 'e' = false)
    (final : drop 't' = false) : stripBy drop (executions ++ '/' :: key) = executions ++ '/' :: key := by
  have nonempty : key ≠ [] := by
    rintro rfl
    cases last
  have ends : (executions ++ '/' :: key).getLast? = some 't' := by
    rw [List.append_cons,List.getLast?_append_of_ne_nil _ nonempty,last]
  refine stripBy_kept ?_ ?_
  · intro c head
    cases head
    exact first
  · intro c tail
    rw [ends] at tail
    cases tail
    exact final

theorem split_uri (issue_key fallback_key : String) (artifact : Artifact) :
    Gateway.split_minio_uri (some (build_artifact_uri "executions" (.ofList (artifact_path issue_key artifact)))) fallback_key =
      ("executions",.ofList ((artifact_path issue_key artifact).dropWhile (· == '/'))) := by
  generalize path : artifact_path issue_key artifact = key
  have last : key.getLast? = some 't' := path ▸ artifact_path_last issue_key artifact
  have marked : hasPrefix (build_artifact_uri "executions" (.ofList key)) "s3://" = true := by
    rw [hasPrefix,startsWith_iff,uri_toList]
    exact List.prefix_append ..
  have absent : '/' ∉ executions := by decide
  have bucket : String.ofList executions = "executions" := by decide
  have joined : List.intercalate ['/'] (splitAt '/' key) = key := by
    rw [splitAt_eq_splitOn]
    exact List.intercalate_splitOn '/'
  have remaining : key.dropWhile (· == '/') ≠ [] := by
    intro gone
    have slashes := List.dropWhile_eq_nil_iff.mp gone 't' (List.mem_of_getLast? last)
    exact absurd slashes (by decide)
  have named : String.ofList (key.dropWhile (· == '/')) ≠ "" := mt String.ofList_eq_empty_iff.mp remaining
  simp only [Gateway.split_minio_uri,if_pos marked]
  rw [uri_toList,List.drop_left' (by rfl),uri_stripped last (by decide) (by decide),uri_stripped last (by decide) (by decide),
    splitAt_eq_splitOn,List.splitOn_append_cons_self,List.splitOn_eq_singleton absent,List.singleton_append,
    ← splitAt_eq_splitOn]
  cases parts : splitAt '/' key with
  | nil =>
    rw [parts] at joined
    rw [← joined] at last
    cases last
  | cons part others =>
    rw [parts] at joined
    dsimp only
    rw [joined,AgentMessages.orText,AgentMessages.orText,if_neg named,bucket,if_neg (by decide)]

/-! ### Executions -/

def child_message (inp : Gateway.ExecutionRunWorkflowInput) : ExecutionRun.ExecutionRunWorkflowInput where
  parent_workflow_id := inp.parent_workflow_id
  runner_id := none
  command := inp.command
  workdir := inp.workdir
  environment := inp.environment
  artifact_minio_prefix := some inp.artifact_minio_prefix
  start_to_close_timeout := inp.start_to_close_timeout.map fun seconds => .number seconds
  heartbeat_timeout := none
  department_id := inp.department_id
  workflow_type := some inp.workflow_type
  trace_id := inp.trace_id
  workspace_quota_mb := none
  needs_docker := inp.needs_docker
  docker_image_tag := inp.docker_image_tag
  docker_dockerfile_path := inp.docker_dockerfile_path

def status_value : ExecutionRunStatus → String
  | .passed => "passed"
  | .failed => "failed"
  | .timeout => "timeout"

/-- The result of the child as the gateway has it. -/
def child_result (out : ExecutionRunWorkflowOutput) : Json :=
  .obj [("status",.str (status_value out.status)),("exit_code",(out.exit_code.map .int).getD .null),("stdout_uri",.ofOption out.stdout_uri),
    ("stderr_uri",.ofOption out.stderr_uri),("duration_seconds",.float out.duration_seconds),
    ("runner_id",.ofOption out.runner_id),("failure_reason",.ofOption out.failure_reason)]

/-- A gateway that has come to its dispatch, what its child meets, whether the result of the
    child is lost, and how everything else that the gateway asks for is answered. -/
structure Execution where
  ctx : Gateway.Context
  inp : Gateway.AutomationWorkflowInput
  analysis : Gateway.Analysis
  override : NeedsInfo.DescriptionOverride
  w : ExecutionRun.Outside
  lost : Option String
  others : List (Coroutine.Act (Gateway.gateway ctx.repr)) →
    (c : Coroutine.Act (Gateway.gateway ctx.repr)) → (Coroutine.acts (Gateway.gateway ctx.repr)).Res c

section
variable (e : Execution)

def Execution.child_workflow_id : String := (Gateway.build_child_spec e.ctx e.analysis).workflow_id

def Execution.message : Option ExecutionRun.ExecutionRunWorkflowInput :=
  match Gateway.child_args e.ctx e.inp e.analysis e.override with
  | .execution_run inp => some (child_message inp)
  | .agent_runner _ => none

/-- How the child ends for the gateway. -/
def Execution.reply : Except String Gateway.Payload :=
  match e.lost, e.message with
  | some loss, _ => .error loss
  | none, none => .ok (.value .null)
  | none, some message =>
    match (ExecutionRun.outcome e.w message).1 with
    | .ok out => .ok (.value (child_result out))
    | .error failure => .error failure.message

def Execution.answers (log : List (Coroutine.Act (Gateway.gateway e.ctx.repr)))
    (c : Coroutine.Act (Gateway.gateway e.ctx.repr)) : (Coroutine.acts (Gateway.gateway e.ctx.repr)).Res c :=
  match c with
  | .await (.start_child_workflow _ _) => .ok (.value .null)
  | .await (.child_handle _) => e.reply
  | c => e.others log c

/-- What the gateway asks for from its dispatch on. -/
def Execution.record : List (Coroutine.Act (Gateway.gateway e.ctx.repr)) :=
  (exec (recording e.answers) (Gateway.dispatch e.ctx e.inp e.analysis e.override) []).2

def Execution.Hands (batch : Gateway.ExecutionBatchInput) : Prop := .await (.execute_output_actions batch) ∈ e.record

/-- An attempt of `ssh_run_test` stores the artifact; stderr is uploaded after stdout. -/
def Stores (session : SshSession) : Artifact → Prop
  | .stdout => session.stdout_upload = .stored
  | .stderr => session.stdout_upload.raises = false ∧ session.stderr_upload = .stored

/-- The arguments of `ssh_run_test`, if an execution comes to it. -/
def Execution.Runs (input : SshRunTestInput) : Prop :=
  ∃ message resolution, e.message = some message ∧ message.needs_docker = false ∧
    ExecutionRun.Reaches e.w message resolution ∧ input = ExecutionRun.ssh_arguments message resolution

def Execution.Uploads (artifact : Artifact) (object : String × String) : Prop :=
  ∃ input, e.Runs input ∧ ∃ i ≤ lastAttempt (fun i => !(ExecutionRun.ssh_attempt e.w input i).isOk) 2 0,
    ∃ session, e.w.ssh_session i = .ok session ∧ (session_command e.w.py e.w.environ input session).isSome = true ∧
      Stores session artifact ∧ object = artifact_object input artifact.name

/-- The result reaches the gateway, and its attempt has stored the artifact. -/
def Execution.Arrives (artifact : Artifact) : Prop :=
  e.lost = none ∧ ∃ input, e.Runs input ∧ ∃ session, ExecutionRun.last_session e.w input = .ok session ∧
    (session_command e.w.py e.w.environ input session).isSome = true ∧
    (session.stdout_upload.raises || session.stderr_upload.raises) = false ∧ Stores session artifact

end

/-! ### Attachments -/

/-- The parameters of an action before the gateway adds to them. -/
def given (action : AgentMessages.OutputAction) : List (String × Json) := action.payload.filter fun entry => entry.1 ≠ ""

/-- An attachment without a file or a key of its own. -/
def Unsourced (action : AgentMessages.OutputAction) : Prop :=
  action.kind = .jira_attachment ∧ (given action).lookup "file_path" = none ∧ (given action).lookup "key" = none

/-- The output that the parameters of an attachment ask for. -/
def wanted (repr : Json → String) (params : List (String × Json)) : Artifact :=
  if hasPrefix (((params.lookup "key_name").map (Json.pyStr repr)).getD "stdout.log") "stderr" then .stderr else .stdout

/-- The output that an attachment asks for. -/
def requested (repr : Json → String) (action : AgentMessages.OutputAction) : Artifact := wanted repr (given action)

/-- The object that the parameters of an action name. -/
def reference (action : Gateway.ExecutorOutputAction) : Option (Json × Json) := do
  let bucket ← action.params.lookup "bucket"
  let key ← action.params.lookup "key"
  return (bucket,key)

def OtherIteration (e other : Execution) : Prop :=
  other.inp.issue_key = e.inp.issue_key ∧ other.inp.iteration ≠ e.inp.iteration

def Execution.Stored (e : Execution) (artifact : Artifact) : Prop := ∃ object, e.Uploads artifact object

/-- Every attachment that is handed over names what the execution has stored, and no
    other iteration stores to it. -/
def OwnOutput (e : Execution) (others : List Execution) : Prop :=
  ∀ batch, e.Hands batch → ∀ handed ∈ batch.actions, ∀ action, e.analysis.output_actions[handed.index]? = some action →
    Unsourced action → ∀ object, e.Uploads (requested e.ctx.repr action) object →
      reference handed = some (.str object.1,.str object.2) ∧
        ∀ other ∈ others, OtherIteration e other → ∀ artifact, ¬other.Uploads artifact object

/-! ### The batch -/

section
variable (e : Execution)

/-- What the gateway gets from its child. -/
def Execution.received : Option Json :=
  match e.reply with
  | .ok (.value result) => some result
  | .ok _ => some .null
  | .error _ => none

/-- The batch of an execution, if there is anything in it. -/
def Execution.batch : Gateway.ExecutionBatchInput where
  actions := e.analysis.output_actions.zipIdx.filterMap fun item =>
    Gateway.executor_action e.ctx e.inp e.child_workflow_id (e.received.getD .null) item.1 item.2
  issue_key := e.inp.issue_key
  dept_id := e.inp.department_id
  workflow_id := e.child_workflow_id

/-- The gateway publishes the output of a child. -/
def Execution.publishes : Bool :=
  (e.analysis.workflow_type = "remote_ssh_test_only" || e.analysis.workflow_type = "script_execute") &&
    !e.analysis.output_actions.isEmpty

theorem exec_act {α : Type} (c : Coroutine.Act (Gateway.gateway e.ctx.repr))
    (rest : (Coroutine.acts (Gateway.gateway e.ctx.repr)).Res c → Gateway.Gate e.ctx α)
    (log : List (Coroutine.Act (Gateway.gateway e.ctx.repr))) :
    exec (recording e.answers) (Gateway.act e.ctx c >>= rest) log =
      exec (recording e.answers) (rest (e.answers log c)) (log ++ [c]) := rfl

theorem exec_await_child (workflow_id : String) (log : List (Coroutine.Act (Gateway.gateway e.ctx.repr))) :
    exec (recording e.answers) (Gateway.await_child e.ctx workflow_id) log =
      (.ok e.received,log ++ [.await (.child_handle workflow_id)]) := by
  rw [Gateway.await_child,exec_act]
  have answer : e.answers log (.await (.child_handle workflow_id)) = e.reply := rfl
  rw [answer,Execution.received]
  cases e.reply with
  | error exc => rfl
  | ok payload => cases payload <;> rfl

theorem exec_publish (log : List (Coroutine.Act (Gateway.gateway e.ctx.repr))) :
    (exec (recording e.answers) (Gateway.await_execution_run_and_publish_results e.ctx e.inp e.child_workflow_id
        e.analysis.output_actions) log).2 =
      log ++ [.await (.child_handle e.child_workflow_id)] ++
        (if e.batch.actions.isEmpty then [] else [.await (.execute_output_actions e.batch)]) := by
  rw [Gateway.await_execution_run_and_publish_results,exec_bind,exec_await_child]
  change (exec (recording e.answers) (if e.batch.actions.isEmpty then pure ()
    else Gateway.best_effort e.ctx (.execute_output_actions e.batch)) _).2 = _
  by_cases empty : e.batch.actions.isEmpty = true
  · rw [if_pos empty,if_pos empty,List.append_nil]
    rfl
  · rw [if_neg empty,if_neg empty]
    rfl

/-- Every command but a batch of actions. -/
def NoBatch : Gateway.Call → Prop
  | .execute_output_actions _ => False
  | _ => True

theorem record_follows : ∃ start notification,
    e.record = (exec (recording e.answers) (Gateway.follow_child e.ctx e.inp e.analysis)
      [.await (.start_child_workflow start (Gateway.child_args e.ctx e.inp e.analysis e.override))]).2 ++
        [.await (.dispatch_notification notification)] := by
  let start := Gateway.build_child_spec e.ctx e.analysis
  let child := Gateway.child_args e.ctx e.inp e.analysis e.override
  have started : e.answers [] (.await (.start_child_workflow start child)) = .ok (.value .null) := rfl
  obtain ⟨_,log,followed⟩ := exec_returns (recording e.answers) (Gateway.follow_child e.ctx e.inp e.analysis)
    [.await (.start_child_workflow start child)]
  refine ⟨start,?notification,?same⟩
  case same =>
    rw [Execution.record,Gateway.dispatch,exec_act,started]
    dsimp only
    rw [List.nil_append,exec_bind,followed]
    rfl

theorem follow_publishes (log : List (Coroutine.Act (Gateway.gateway e.ctx.repr))) (publishes : e.publishes = true) :
    (exec (recording e.answers) (Gateway.follow_child e.ctx e.inp e.analysis) log).2 =
      log ++ [.await (.child_handle e.child_workflow_id)] ++
        (if e.batch.actions.isEmpty then [] else [.await (.execute_output_actions e.batch)]) := by
  simp only [Execution.publishes,Bool.and_eq_true,Bool.or_eq_true,decide_eq_true_eq,Bool.not_eq_true'] at publishes
  obtain ⟨type,some_action⟩ := publishes
  have other : e.analysis.workflow_type ≠ "noop_test" := by
    rintro noop
    rw [noop] at type
    revert type
    decide
  rw [Gateway.follow_child,if_neg other,if_pos ⟨type,some_action⟩]
  exact exec_publish e log

theorem follow_silent (publishes : e.publishes = false) :
    Issues (Coroutine.Act.Calls NoBatch) (Gateway.follow_child e.ctx e.inp e.analysis) := by
  have idle : ¬((e.analysis.workflow_type = "remote_ssh_test_only" ∨ e.analysis.workflow_type = "script_execute") ∧
      e.analysis.output_actions.isEmpty = false) := by
    rintro ⟨type,some_action⟩
    have does : e.publishes = true := by
      simp only [Execution.publishes,some_action,Bool.not_false,Bool.and_true,Bool.or_eq_true,decide_eq_true_eq]
      exact type
    rw [publishes] at does
    cases does
  rw [Gateway.follow_child,if_neg idle]
  refine issues_ite (issues_bind (issues_bind ⟨trivial,fun _ => trivial⟩ ?_) ?_) trivial
  · intro reply
    split
    · trivial
    · trivial
    · trivial
  · intro result
    cases result with
    | none => trivial
    | some result => exact issues_bind ⟨trivial,fun _ => trivial⟩ fun _ => trivial

theorem hands_iff (batch : Gateway.ExecutionBatchInput) :
    e.Hands batch ↔ e.publishes = true ∧ e.batch.actions ≠ [] ∧ batch = e.batch := by
  obtain ⟨start,notification,record⟩ := record_follows e
  rw [Execution.Hands,record]
  by_cases publishes : e.publishes = true
  · rw [follow_publishes e _ publishes]
    by_cases empty : e.batch.actions = []
    · simp [empty]
    · simp [empty,publishes]
  · have started : ∀ c : Coroutine.Act (Gateway.gateway e.ctx.repr), c ∈ [.await (.start_child_workflow start
        (Gateway.child_args e.ctx e.inp e.analysis e.override))] → Coroutine.Act.Calls NoBatch c := by
      intro c member
      rw [List.mem_singleton.mp member]
      trivial
    have silent := exec_recorded e.answers (follow_silent e (by simpa using publishes)) started
    constructor
    · intro member
      rcases List.mem_append.mp member with early | last
      · exact (silent _ early).elim
      · cases List.mem_singleton.mp last
    · rintro ⟨does,_⟩
      exact absurd does publishes

end

/-! ### Parameters -/

section
variable {key name : String} {value : Json} {params : List (String × Json)}

theorem lookup_added (other : name ≠ key) : (params ++ [(key,value)]).lookup name = params.lookup name := by
  have different : (name == key) = false := by simpa using other
  rw [List.lookup_append,List.lookup_cons,different]
  exact Option.or_none

theorem lookup_setdefault (other : name ≠ key) : (Gateway.setdefault key value params).lookup name = params.lookup name := by
  unfold Gateway.setdefault
  by_cases present : (params.lookup key).isSome = true
  · rw [if_pos present]
  · rw [if_neg present,lookup_added other]

theorem lookup_setItem_other (other : name ≠ key) : (Gateway.setItem key value params).lookup name = params.lookup name := by
  unfold Gateway.setItem
  by_cases present : (params.lookup key).isSome = true
  · rw [if_pos present]
    clear present
    induction params with
    | nil => rfl
    | cons entry rest ih =>
      obtain ⟨own,content⟩ := entry
      rw [List.map_cons]
      by_cases here : own = key
      · have different : (name == key) = false := by simpa using other
        rw [if_pos here,List.lookup_cons,List.lookup_cons,here,different,ih]
      · rw [if_neg here,List.lookup_cons,List.lookup_cons,ih]
  · rw [if_neg present,lookup_added other]

theorem lookup_setItem_same : (Gateway.setItem key value params).lookup key = some value := by
  unfold Gateway.setItem
  by_cases present : (params.lookup key).isSome = true
  · rw [if_pos present]
    induction params with
    | nil => cases present
    | cons entry rest ih =>
      obtain ⟨own,content⟩ := entry
      rw [List.map_cons]
      by_cases here : own = key
      · rw [if_pos here,List.lookup_cons_self]
      · have different : (key == own) = false := by simpa using Ne.symm here
        rw [List.lookup_cons,different] at present
        rw [if_neg here,List.lookup_cons,different]
        exact ih present
  · have absent : params.lookup key = none := Option.not_isSome_iff_eq_none.mp present
    rw [if_neg present,List.lookup_append,absent,List.lookup_cons_self]
    rfl

end

/-! ### References -/

/-- The URI that the child gives for an artifact. -/
def uri_of (result : Json) : Artifact → Option String
  | .stdout => (result.get "stdout_uri").asStr
  | .stderr => (result.get "stderr_uri").asStr

/-- The key that the gateway makes up for the output of a child. -/
def fallback_key (child_workflow_id : String) : Artifact → String
  | .stdout => "executions/" ++ child_workflow_id ++ "/stdout.log"
  | .stderr => "executions/" ++ child_workflow_id ++ "/stderr.log"

theorem reference_of {handed : Gateway.ExecutorOutputAction} {bucket key : Json}
    (first : handed.params.lookup "bucket" = some bucket) (second : handed.params.lookup "key" = some key) :
    reference handed = some (bucket,key) := by
  rw [reference,first,second]
  rfl

theorem attachment_reference (ctx : Gateway.Context) (child_workflow_id : String) (result : Json)
    {params : List (String × Json)} (file : params.lookup "file_path" = none) (own : params.lookup "key" = none) :
    let target := Gateway.split_minio_uri (uri_of result (wanted ctx.repr params))
      (fallback_key child_workflow_id (wanted ctx.repr params))
    (Gateway.attachment_params ctx child_workflow_id result params).lookup "bucket" = some (.str target.1) ∧
      (Gateway.attachment_params ctx child_workflow_id result params).lookup "key" = some (.str target.2) := by
  have unsourced : ¬((params.lookup "file_path").isSome = true ∨ (params.lookup "key").isSome = true) := by
    rw [file,own]
    decide
  have bucket_key : ("bucket" : String) ≠ "key" := by decide
  have bucket_file : ("bucket" : String) ≠ "file_name" := by decide
  have key_file : ("key" : String) ≠ "file_name" := by decide
  rw [Gateway.attachment_params,if_neg unsourced]
  unfold wanted
  by_cases errors : hasPrefix (((params.lookup "key_name").map (Json.pyStr ctx.repr)).getD "stdout.log") "stderr" = true
  · simp only [if_pos errors]
    exact ⟨by rw [lookup_setdefault bucket_file,lookup_setItem_other bucket_key,lookup_setItem_same]; rfl,
      by rw [lookup_setdefault key_file,lookup_setItem_same]; rfl⟩
  · simp only [if_neg errors]
    exact ⟨by rw [lookup_setdefault bucket_file,lookup_setItem_other bucket_key,lookup_setItem_same]; rfl,
      by rw [lookup_setdefault key_file,lookup_setItem_same]; rfl⟩

/-- What an attachment without a source of its own refers to. -/
theorem reference_split {ctx : Gateway.Context} {inp : Gateway.AutomationWorkflowInput} {child_workflow_id : String}
    {result : Json} {action : AgentMessages.OutputAction} {index : Nat} {handed : Gateway.ExecutorOutputAction}
    (unsourced : Unsourced action) (made : Gateway.executor_action ctx inp child_workflow_id result action index = some handed) :
    reference handed = some (.str (Gateway.split_minio_uri (uri_of result (requested ctx.repr action))
        (fallback_key child_workflow_id (requested ctx.repr action))).1,
      .str (Gateway.split_minio_uri (uri_of result (requested ctx.repr action))
        (fallback_key child_workflow_id (requested ctx.repr action))).2) := by
  obtain ⟨attachment,no_file,no_key⟩ := unsourced
  have kind : Gateway.kind_to_action_type action.kind = some "jira_attachment" := by rw [attachment]; rfl
  simp only [Gateway.executor_action,kind,Option.map_some,if_true,Option.some.injEq] at made
  have kept : ∀ name, name ≠ "dept_id" → name ≠ "issue_key" → (Gateway.setdefault "dept_id" (.str inp.department_id)
      (Gateway.setdefault "issue_key" (.str inp.issue_key) (given action))).lookup name = (given action).lookup name := by
    intro name dept issue
    rw [lookup_setdefault dept,lookup_setdefault issue]
  obtain ⟨bucket,key⟩ := attachment_reference ctx child_workflow_id result
    ((kept "file_path" (by decide) (by decide)).trans no_file) ((kept "key" (by decide) (by decide)).trans no_key)
  have same : wanted ctx.repr (Gateway.setdefault "dept_id" (.str inp.department_id)
      (Gateway.setdefault "issue_key" (.str inp.issue_key) (given action))) = requested ctx.repr action := by
    rw [wanted,kept "key_name" (by decide) (by decide)]
    rfl
  rw [same] at bucket key
  rw [← made]
  exact reference_of bucket key

/-! ### Results -/

/-- The upload of an artifact in an attempt. -/
def Artifact.upload (session : SshSession) : Artifact → Upload
  | .stdout => session.stdout_upload
  | .stderr => session.stderr_upload

theorem uri_unreachable (runner_id : Option String) (artifact : Artifact) :
    uri_of (child_result (unreachable runner_id)) artifact = none := by
  cases artifact <;> rfl

theorem uri_session (input : SshRunTestInput) (session : SshSession) (command : RemoteCommand) (artifact : Artifact) :
    uri_of (child_result (session_result input session command)) artifact =
      artifact_uri input artifact.name (artifact.upload session) := by
  cases artifact with
  | stdout =>
    change (Json.ofOption (artifact_uri input "stdout.txt" session.stdout_upload)).asStr = _
    cases upload : session.stdout_upload <;> simp only [Artifact.upload,upload] <;> rfl
  | stderr =>
    change (Json.ofOption (artifact_uri input "stderr.txt" session.stderr_upload)).asStr = _
    cases upload : session.stderr_upload <;> simp only [Artifact.upload,upload] <;> rfl

theorem stores_iff {session : SshSession} (returns : (session.stdout_upload.raises || session.stderr_upload.raises) = false)
    (artifact : Artifact) : Stores session artifact ↔ artifact.upload session = .stored := by
  have first : session.stdout_upload.raises = false := (Bool.or_eq_false_iff.mp returns).1
  cases artifact with
  | stdout => exact Iff.rfl
  | stderr => exact ⟨fun stored => stored.2,fun stored => ⟨first,stored⟩⟩

section
variable {e : Execution} {input : SshRunTestInput}

theorem runs_place (runs : e.Runs input) :
    input.artifact_minio_prefix = some (Gateway.execution_artifact_prefix e.inp.issue_key) := by
  obtain ⟨message,resolution,sent,_,_,rfl⟩ := runs
  cases started : Gateway.child_args e.ctx e.inp e.analysis e.override with
  | agent_runner inp =>
    rw [Execution.message,started] at sent
    cases sent
  | execution_run inp =>
    rw [Execution.message,started] at sent
    cases sent
    unfold Gateway.child_args at started
    by_cases agent : (Gateway.build_child_spec e.ctx e.analysis).workflow_name = "AgentRunnerWorkflow"
    · rw [if_pos agent] at started
      cases started
    · rw [if_neg agent] at started
      cases started
      rfl

theorem runs_object (runs : e.Runs input) (artifact : Artifact) :
    artifact_object input artifact.name = ("executions",.ofList (artifact_path e.inp.issue_key artifact)) := by
  have target : bucket_and_key_from_prefix (input.artifact_minio_prefix.getD "") =
      ("executions",.ofList (directory e.inp.issue_key)) := by
    rw [runs_place runs]
    exact place e.inp.issue_key
  rw [artifact_object,target]
  exact congrArg (Prod.mk "executions") (artifact_key_path e.inp.issue_key artifact)

theorem uploads_object {artifact : Artifact} {object : String × String} (uploads : e.Uploads artifact object) :
    object = ("executions",.ofList (artifact_path e.inp.issue_key artifact)) := by
  obtain ⟨input,runs,_,_,_,_,_,_,same⟩ := uploads
  rw [same,runs_object runs]

theorem runs_ends {message : ExecutionRun.ExecutionRunWorkflowInput} {resolution : Option ExecutionRun.RunnerResolution}
    (bare : message.needs_docker = false) (reaches : ExecutionRun.Reaches e.w message resolution) :
    (ExecutionRun.outcome e.w message).1 =
      ExecutionRun.retried (ExecutionRun.ssh_attempt e.w (ExecutionRun.ssh_arguments message resolution)) := by
  obtain ⟨_,calls,_,_,executes⟩ := ExecutionRun.outcome_commands reaches
  generalize (ExecutionRun.outcome e.w message).1 = ended at executes
  have on : ∀ docker : (ExecutionRun.run_input message resolution).needs_docker = true, False :=
    fun docker => absurd (bare.symm.trans docker) (by decide)
  cases executes with
  | ssh _ => rfl
  | no_daemon docker _ => exact (on docker).elim
  | build_raised docker _ _ => exact (on docker).elim
  | build_failed docker _ _ _ => exact (on docker).elim
  | container docker _ _ _ => exact (on docker).elim

theorem received_runs (runs : e.Runs input) (delivered : e.lost = none) :
    e.received = (ExecutionRun.retried (ExecutionRun.ssh_attempt e.w input)).toOption.map child_result := by
  obtain ⟨message,resolution,sent,bare,reaches,rfl⟩ := runs
  rw [Execution.received,Execution.reply,delivered,sent]
  dsimp only
  rw [runs_ends bare reaches]
  cases ExecutionRun.retried (ExecutionRun.ssh_attempt e.w (ExecutionRun.ssh_arguments message resolution)) with
  | ok out => rfl
  | error failure => rfl

theorem retried_session (e : Execution) (input : SshRunTestInput) :
    ExecutionRun.retried (ExecutionRun.ssh_attempt e.w input) =
      (ExecutionRun.last_session e.w input >>= ssh_run_test e.w.py e.w.environ input) := rfl

theorem uri_arrives {artifact : Artifact} (arrives : e.Arrives artifact) :
    uri_of (e.received.getD .null) artifact =
      some (build_artifact_uri "executions" (.ofList (artifact_path e.inp.issue_key artifact))) := by
  obtain ⟨delivered,input,runs,session,last,ran,returns,stored⟩ := arrives
  obtain ⟨command,sent⟩ := Option.isSome_iff_exists.mp ran
  obtain ⟨raised,_⟩ | ⟨_,ended⟩ := ssh_run_test_runs sent
  · exact absurd (returns.symm.trans raised) (by decide)
  · have uploaded := (stores_iff returns artifact).mp stored
    have object := runs_object runs artifact
    rw [received_runs runs delivered,retried_session,last]
    change uri_of (((ssh_run_test e.w.py e.w.environ input session).toOption.map child_result).getD .null) artifact = _
    rw [ended]
    refine (uri_session input session command artifact).trans ?_
    rw [uploaded,artifact_uri,object]

/-- There is no URI in a result that does not arrive, or whose attempt has not stored the
    artifact. -/
theorem uri_missing (runs : e.Runs input) {artifact : Artifact} (missing : ¬e.Arrives artifact) :
    uri_of (e.received.getD .null) artifact = none := by
  have nothing : uri_of (Option.getD none .null) artifact = none := by cases artifact <;> rfl
  cases lost : e.lost with
  | some loss =>
    have unreceived : e.received = none := by rw [Execution.received,Execution.reply,lost]
    rw [unreceived]
    exact nothing
  | none =>
    rw [received_runs runs lost,retried_session]
    cases last : ExecutionRun.last_session e.w input with
    | error failure => exact nothing
    | ok session =>
      change uri_of (((ssh_run_test e.w.py e.w.environ input session).toOption.map child_result).getD .null) artifact = none
      cases sent : session_command e.w.py e.w.environ input session with
      | none =>
        obtain ⟨failure,ended⟩ | ended := ssh_run_test_idle sent
        · rw [ended]
          exact nothing
        · rw [ended]
          exact uri_unreachable input.runner_id artifact
      | some command =>
        obtain ⟨_,failure,ended⟩ | ⟨returns,ended⟩ := ssh_run_test_runs sent
        · rw [ended]
          exact nothing
        · have unstored : artifact.upload session ≠ .stored := by
            intro stored
            exact missing ⟨lost,input,runs,session,last,by rw [sent]; rfl,returns,(stores_iff returns artifact).mpr stored⟩
          rw [ended]
          refine (uri_session input session command artifact).trans ?_
          exact Option.isNone_iff_eq_none.mp ((artifact_uri_isNone _ _).mpr unstored)

end

/-! ### Own output -/

/-- What is stored for an attachment arrives, under a key that does not begin with a slash,
    and no other iteration stores such an artifact. -/
def Keeps (e : Execution) (others : List Execution) : Prop :=
  e.publishes = true → ∀ action ∈ e.analysis.output_actions, Unsourced action → e.Stored (requested e.ctx.repr action) →
    e.Arrives (requested e.ctx.repr action) ∧ (directory e.inp.issue_key).head? ≠ some '/' ∧
      ∀ other ∈ others, OtherIteration e other → ¬other.Stored (requested e.ctx.repr action)

section
variable {e : Execution} {action : AgentMessages.OutputAction}

variable {handed : Gateway.ExecutorOutputAction}

theorem made_index {ctx : Gateway.Context} {inp : Gateway.AutomationWorkflowInput} {child_workflow_id : String} {result : Json} {index : Nat}
    (made : Gateway.executor_action ctx inp child_workflow_id result action index = some handed) : handed.index = index := by
  obtain ⟨type,_,same⟩ := Option.map_eq_some_iff.mp made
  rw [← same]

theorem batch_action
    (member : handed ∈ e.batch.actions) (listed : e.analysis.output_actions[handed.index]? = some action) :
    Gateway.executor_action e.ctx e.inp e.child_workflow_id (e.received.getD .null) action handed.index = some handed := by
  obtain ⟨⟨own,index⟩,paired,made⟩ := List.mem_filterMap.mp member
  have here := made_index made
  have there : e.analysis.output_actions[index]? = some own := by simpa using List.mk_mem_zipIdx_iff_getElem?.mp paired
  rw [here] at listed
  cases there.symm.trans listed
  rw [here]
  exact made

theorem attachment_handed (publishes : e.publishes = true)
    (member : action ∈ e.analysis.output_actions) (unsourced : Unsourced action) :
    e.Hands e.batch ∧ ∃ handed ∈ e.batch.actions, e.analysis.output_actions[handed.index]? = some action := by
  obtain ⟨index,listed⟩ := List.mem_iff_getElem?.mp member
  have kind : Gateway.kind_to_action_type action.kind = some "jira_attachment" := by rw [unsourced.1]; rfl
  have made : ∃ handed, Gateway.executor_action e.ctx e.inp e.child_workflow_id (e.received.getD .null) action index =
      some handed := by
    rw [Gateway.executor_action,kind]
    exact ⟨_,rfl⟩
  obtain ⟨handed,made⟩ := made
  have inside : handed ∈ e.batch.actions :=
    List.mem_filterMap.mpr ⟨(action,index),List.mk_mem_zipIdx_iff_getElem?.mpr listed,made⟩
  refine ⟨(hands_iff e e.batch).mpr ⟨publishes,List.ne_nil_of_mem inside,rfl⟩,handed,inside,?_⟩
  rw [made_index made]
  exact listed

theorem dropWhile_slash {text : List Char} : text.dropWhile (· == '/') = text ↔ text.head? ≠ some '/' := by
  rw [dropWhile_kept]
  constructor
  · intro kept head
    exact absurd (kept '/' head) (by decide)
  · intro other c head
    refine beq_eq_false_iff_ne.mpr ?_
    rintro rfl
    exact other head

theorem reference_iff {object : String × String}
    (unsourced : Unsourced action) (uploads : e.Uploads (requested e.ctx.repr action) object)
    (made : Gateway.executor_action e.ctx e.inp e.child_workflow_id (e.received.getD .null) action handed.index = some handed) :
    reference handed = some (.str object.1,.str object.2) ↔
      e.Arrives (requested e.ctx.repr action) ∧ (directory e.inp.issue_key).head? ≠ some '/' := by
  rw [reference_split unsourced made,uploads_object uploads]
  by_cases arrives : e.Arrives (requested e.ctx.repr action)
  · have plain : (directory e.inp.issue_key).head? ≠ some '/' ↔
        (artifact_path e.inp.issue_key (requested e.ctx.repr action)).dropWhile (· == '/') =
          artifact_path e.inp.issue_key (requested e.ctx.repr action) :=
      (not_congr (artifact_path_head ..)).symm.trans dropWhile_slash.symm
    rw [uri_arrives arrives,split_uri,plain]
    simp only [arrives,true_and,Option.some.injEq,Prod.mk.injEq,Json.str.injEq]
    exact ⟨fun same => String.ofList_injective same,fun same => congrArg String.ofList same⟩
  · obtain ⟨_,runs,_⟩ := uploads
    rw [uri_missing runs arrives]
    refine iff_of_false ?_ fun both => arrives both.1
    intro same
    have buckets := congrArg (fun pair => pair.map Prod.fst) same
    simp [Gateway.split_minio_uri] at buckets

end

/-- The attachments of an execution are its own output exactly under the condition. -/
theorem own_output_iff (e : Execution) (others : List Execution) : OwnOutput e others ↔ Keeps e others := by
  constructor
  · intro own publishes action member unsourced stored
    obtain ⟨object,uploads⟩ := stored
    obtain ⟨hands,handed,inside,listed⟩ := attachment_handed publishes member unsourced
    obtain ⟨named,alone⟩ := own e.batch hands handed inside action listed unsourced object uploads
    obtain ⟨arrives,plain⟩ := (reference_iff unsourced uploads (batch_action inside listed)).mp named
    refine ⟨arrives,plain,?_⟩
    rintro other among iteration ⟨second,also⟩
    have same : second = object := by rw [uploads_object also,uploads_object uploads,iteration.1]
    exact alone other among iteration _ (same ▸ also)
  · intro keeps batch hands handed inside action listed unsourced object uploads
    obtain ⟨publishes,_,rfl⟩ := (hands_iff e batch).mp hands
    obtain ⟨arrives,plain,alone⟩ := keeps publishes action (List.mem_of_getElem? listed) unsourced ⟨object,uploads⟩
    refine ⟨(reference_iff unsourced uploads (batch_action inside listed)).mpr ⟨arrives,plain⟩,?_⟩
    intro other among iteration artifact also
    have objects := (uploads_object uploads).symm.trans (uploads_object also)
    rw [iteration.1] at objects
    have paths := String.ofList_injective (Prod.mk.inj objects).2
    exact alone other among iteration ⟨object,artifact_path_inj paths ▸ also⟩

/-! ### Samples -/

def attachment : AgentMessages.OutputAction where
  kind := .jira_attachment
  payload := []

/-- An iteration of issue PAY-7 whose command goes well, and whose output is to be attached. -/
def sampleExecution (iteration : Int) (lost : Option String) : Execution where
  ctx := Gateway.host
  inp := { Gateway.issue with iteration }
  analysis :=
    { workflow_type := "remote_ssh_test_only", confidence := .high, target_repo := none, target_branch := none
      target_space := none, target_page_id := none, title := "", rationale := "", output_actions := [attachment]
      needs_info_questions := [], needs_docker := false, execution_command := some "make test" }
  override :=
    { workflow_type := "remote_ssh_test_only", cleanup_policy := none, timeout_seconds := none, web_search := false
      target_repo := none, target_branch := none, output_actions := [], execution_command := none }
  w := ExecutionRun.smooth
  lost := lost
  others := fun _ c => match c with
    | .look => { info_received := false, pending_comment_body := none, info_received_history := [] }
    | .modify _ => ()
    | .clock => (0 : Nat)
    | .await _ => .ok (.value .null)
    | .wait _ => false

theorem sample_stored (iteration : Int) (lost : Option String) : (sampleExecution iteration lost).Stored .stdout := by
  have environment : ∀ py, shell_quote_environment py [("CLEANUP_POLICY","on_success")] =
      .ok "CLEANUP_POLICY=on_success " := by
    intro py
    have valid : invalid_name "CLEANUP_POLICY" = false := by decide
    have word : shlex_quote "on_success" = "on_success" := by decide
    simp only [shell_quote_environment,List.mergeSort_singleton,List.find?_cons,valid,List.find?_nil,List.isEmpty_cons,
      Bool.false_eq_true,if_false,List.map_cons,List.map_nil,word]
    decide
  have commanded : ∀ input session cred, input.env = [("CLEANUP_POLICY","on_success")] → session.credentials = .ok cred →
      (session_command ExecutionRun.smooth.py ExecutionRun.smooth.environ input session).isSome = true := by
    intro input session cred own credentials
    simp only [session_command,ssh_remote_command,credentials,own,environment,Option.isSome_some]
  refine ⟨_,_,⟨_,some ExecutionRun.sampleRunner,rfl,rfl,⟨rfl,rfl,rfl⟩,rfl⟩,0,Nat.zero_le _,_,rfl,?_,rfl,rfl⟩
  exact commanded _ _ ⟨"10.0.0.5",22,"ci","key"⟩ rfl rfl

/-- A result that is lost after the upload is published under a key that holds nothing; a
    second iteration stores its output over that of the first. -/
theorem not_own_output :
    ¬OwnOutput (sampleExecution 1 (some "terminated")) [] ∧ ¬OwnOutput (sampleExecution 1 none) [sampleExecution 2 none] := by
  have unsourced : Unsourced attachment := ⟨rfl,rfl,rfl⟩
  have publishes : ∀ iteration lost, (sampleExecution iteration lost).publishes = true := fun _ _ => rfl
  constructor
  · intro own
    obtain ⟨object,uploads⟩ := sample_stored 1 (some "terminated")
    obtain ⟨hands,handed,inside,listed⟩ := attachment_handed (publishes 1 (some "terminated")) List.mem_cons_self unsourced
    obtain ⟨named,_⟩ := own _ hands handed inside attachment listed unsourced object uploads
    have arrives := ((reference_iff unsourced uploads (batch_action inside listed)).mp named).1
    exact absurd arrives.1 (by decide)
  · intro own
    obtain ⟨object,uploads⟩ := sample_stored 1 none
    obtain ⟨second,also⟩ := sample_stored 2 none
    obtain ⟨hands,handed,inside,listed⟩ := attachment_handed (publishes 1 none) List.mem_cons_self unsourced
    obtain ⟨_,alone⟩ := own _ hands handed inside attachment listed unsourced object uploads
    have same : second = object := by rw [uploads_object also,uploads_object uploads]; rfl
    exact alone _ List.mem_cons_self ⟨rfl,by decide⟩ .stdout (same ▸ also)

end Automation.PublishedArtifacts
