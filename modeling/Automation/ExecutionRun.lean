import Automation.Dict
import Automation.Effects
import Automation.Regex
import Automation.RunnerActivities

/-!
`ExecutionRunWorkflow.run`: it selects a runner of the department, probes it until it is
healthy, holds the workspace against the quota, runs the command over SSH or in a
container, and applies the cleanup policy. The outside says what each activity meets; a
run is the result with the record of the activities it has called.
-/
namespace Automation.ExecutionRun
open Automation.Effects Automation.PyText Automation.Regex Automation.RunnerActivities
open Automation.AgentMessages (Failure Python orText)

/-- A timeout as the message carries it, in seconds. -/
inductive Timeout where
  | timedelta (seconds : Rat)
  | number (seconds : Rat)
  | bool (value : Bool)

structure ExecutionRunWorkflowInput where
  parent_workflow_id : String
  runner_id : Option String
  command : String
  workdir : Option String
  environment : List (String × String)
  artifact_minio_prefix : Option String
  start_to_close_timeout : Option Timeout
  heartbeat_timeout : Option Timeout
  department_id : String
  workflow_type : Option String
  trace_id : String
  workspace_quota_mb : Option String
  needs_docker : Bool
  docker_image_tag : Option String
  docker_dockerfile_path : Option String

structure RunnerResolution where
  runner_id : String
  host : String
  port : Int
  username : String
  base_path : String
  vault_path : String

structure DiskQuotaInput where
  dept_id : String
  workspace_base : String
  quota_mb : Option String

structure DiskQuotaResult where
  allowed : Bool
  usage_mb : String
  quota_mb : Option String
  error : Option String
  warning_sent : Bool
  cleanup_candidates : List String

/-- The arguments of `apply_cleanup_policy`. -/
structure CleanupPolicyInput where
  policy : String
  exit_code : Option Int
  workspace_path : String
  container_id : Option String
  image_id : Option String
  workflow_id : String
  department_id : String
  vault_path : Option String

/-- `path.replace("\\","/").rstrip("/")`. -/
def slashed (path : String) : String := rstripChar '/' (replaceChar (Char.ofNat 0x5c) '/' path)

/-- The base of the workspaces: the iteration and the issue are dropped. -/
def quota_base (normalised : String) : String :=
  let parts := (splitAt '/' normalised.toList).map String.ofList
  let parts := if hasPrefix (parts.getLast?.getD "") "iter-" then parts.dropLast else parts
  let parts := if 2 ≤ parts.length then parts.dropLast else parts
  let base := "/".intercalate parts
  orText (if hasPrefix normalised "/" ∧ hasPrefix base "/" = false then "/" ++ base else base) normalised

def resolve_quota_base (workdir : Option String) : String :=
  if slashed (workdir.getD "") = "" then "" else quota_base (slashed (workdir.getD ""))

def iteration_from_workdir (workdir : Option String) : Int :=
  let tail := String.ofList (((splitAt '/' (slashed (workdir.getD "")).toList).getLast?).getD [])
  if hasPrefix tail "iter-" then
    match pyInt (dropChars 5 tail) with
    | some value => if 0 ≤ value then value else 0
    | none => 0
  else 0

/-- `^[A-Z][A-Z0-9_]*-\d+$`. -/
def ISSUE_KEY_PATTERN : Pattern :=
  concat [.one AgentMessages.isUpperAscii,.star (.one fun c => AgentMessages.isUpperAscii c || c.isDigit || c == '_'),
    .one (· == '-'),plus (.one isDecimal)]

/-- `none` where it raises. -/
def build_workspace_path (base issue_key : String) (iter_n : Int) : Option String :=
  if run ISSUE_KEY_PATTERN List.isEmpty issue_key.toList ∧ 0 ≤ iter_n ∧ iter_n ≤ 999 then
    some (rstripChar '/' base ++ "/" ++ issue_key ++ "/iter-" ++ toString iter_n)
  else none

def derive_workdir (inp : ExecutionRunWorkflowInput) (resolved_base_path : Option String) : Option String :=
  match resolved_base_path with
  | none => inp.workdir
  | some base =>
    if base = "" ∨ inp.parent_workflow_id = "" then inp.workdir
    else (build_workspace_path base inp.parent_workflow_id (iteration_from_workdir inp.workdir)).or inp.workdir

def coerce_timeout (value : Option Timeout) : Option Rat :=
  match value with
  | some (.timedelta seconds) => some seconds
  | some (.number seconds) => if seconds ≤ 0 then none else some seconds
  | _ => none

/-- `override or default`: an empty `timedelta` is false. -/
def orTimeout (override : Option Rat) (default : Rat) : Rat :=
  match override with
  | some seconds => if seconds = 0 then default else seconds
  | none => default

/-- `dict(environment)`. -/
def env_dict (environment : List (String × String)) : Dict String String :=
  environment.foldl (fun dict item => dict.set item.1 item.2) Dict.empty

inductive Call where
  | resolve_runner (dept_id : String)
  | ssh_healthcheck (input : SSHHealthcheckInput)
  | sleep (seconds : Nat)
  | check_disk_quota (input : DiskQuotaInput)
  | ssh_run_test (input : SshRunTestInput) (start_to_close heartbeat : Rat)
  | docker_daemon_healthcheck (input : DockerHealthcheckInput)
  | docker_build_image (input : DockerBuildInput)
  | docker_run_container (input : DockerRunInput)
  | docker_cleanup_container (input : DockerCleanupInput)
  | apply_cleanup_policy (input : CleanupPolicyInput)

/-- The results; what the cleanup reports is not read. -/
@[reducible] def activities : Signature where
  Cmd := Call
  Res
    | .resolve_runner _ => Except Failure RunnerResolution
    | .ssh_healthcheck _ => Except Failure SSHHealthcheckResult
    | .sleep _ => Unit
    | .check_disk_quota _ => Except Failure DiskQuotaResult
    | .ssh_run_test _ _ _ => Except Failure ExecutionRunWorkflowOutput
    | .docker_daemon_healthcheck _ => Except Failure Bool
    | .docker_build_image _ => Except Failure DockerBuildResult
    | .docker_run_container _ => Except Failure DockerRunResult
    | .docker_cleanup_container _ => Except Failure Unit
    | .apply_cleanup_policy _ => Except Failure Unit

abbrev Exec : Type → Type := Prog activities Failure

def act (c : Call) : Exec (activities.Res c) := command (S := activities) c

/-- A runner is resolved for a department, unless the message names one. -/
def resolves_runner (inp : ExecutionRunWorkflowInput) : Bool :=
  inp.department_id ≠ "" && (inp.runner_id.getD "") = ""

/-- Only the answer that the department has no runner ends the run. -/
def resolve_runner (dept_id : String) : Exec (Option RunnerResolution) := do
  match ← act (.resolve_runner dept_id) with
  | .ok resolution => return some resolution
  | .error failure => if failure.type_name = "RunnerResolutionError" then .raise failure else return none

/-- The host of the next probe, which is the one that was probed. -/
def probed_host : Except Failure SSHHealthcheckResult → String
  | .ok result => result.host
  | .error _ => "unknown"

def reports_healthy : Except Failure SSHHealthcheckResult → Bool
  | .ok result => result.healthy
  | .error _ => false

/-- With the probes that may follow this one, its host, and the pause after it. -/
def wait_for_healthy_runner (runner_id : Option String) (port : Option Int) : Nat → Option String → Nat → Exec Bool
  | 0, host, _ => do return reports_healthy (← act (.ssh_healthcheck { host, port, runner_id }))
  | retries + 1, host, backoff => do
    let hc_result ← act (.ssh_healthcheck { host, port, runner_id })
    if reports_healthy hc_result then return true
    else
      let _ ← act (.sleep backoff)
      wait_for_healthy_runner runner_id port retries (some (probed_host hc_result)) (min (backoff * 2) 1800)

def quota_exceeded (inp : ExecutionRunWorkflowInput) (result : DiskQuotaResult) : Failure :=
  ⟨"DiskQuotaExceeded","workspace disk quota exceeded: usage=" ++ result.usage_mb ++ "MB cap=" ++
    result.quota_mb.getD "None" ++ "MB dept=" ++ inp.department_id⟩

def disk_quota_input (inp : ExecutionRunWorkflowInput) : DiskQuotaInput where
  dept_id := inp.department_id
  workspace_base := resolve_quota_base inp.workdir
  quota_mb := inp.workspace_quota_mb

def enforce_disk_quota (inp : ExecutionRunWorkflowInput) : Exec Unit := do
  if inp.workspace_quota_mb.isNone ∨ inp.department_id = "" then return ()
  else
    match ← act (.check_disk_quota (disk_quota_input inp)) with
    | .error _ => return ()
    | .ok result => if result.allowed then return () else .raise (quota_exceeded inp result)

section
variable (inp : ExecutionRunWorkflowInput) (command : String) (runner_id vault_path : Option String)

/-- A result of the chain that ends before its container. -/
def chain_failed (duration_seconds failure_reason : String) : ExecutionRunWorkflowOutput where
  status := .failed
  exit_code := none
  stdout_uri := none
  stderr_uri := none
  duration_seconds := duration_seconds
  runner_id := runner_id
  failure_reason := some failure_reason

def image_tag : String :=
  orText (inp.docker_image_tag.getD "") ("ai-bot-" ++ lower inp.parent_workflow_id ++ ":latest")

def docker_build_input : DockerBuildInput where
  dockerfile_path := orText (inp.docker_dockerfile_path.getD "") "Dockerfile"
  image_tag := image_tag inp
  workspace_path := inp.workdir.getD ""
  build_timeout_seconds := 300
  workflow_id := inp.parent_workflow_id
  runner_id := runner_id
  vault_path := vault_path

def docker_run_input : DockerRunInput where
  image := image_tag inp
  command := orText command "echo \"no command supplied\""
  workspace_path := inp.workdir.getD ""
  environment := (env_dict inp.environment).items
  cpu_limit := "2.0"
  memory_limit_mb := 2048
  timeout_seconds := 1800
  max_timeout_seconds := 7200
  workflow_id := inp.parent_workflow_id
  runner_id := runner_id
  vault_path := vault_path

def container_policy : String := ((env_dict inp.environment).get? "CLEANUP_POLICY").getD "on_success"

/-- The `finally` of the chain. -/
def docker_cleanup (container_id : String) (image_id : Option String) (task_succeeded : Bool) : Exec Unit := do
  let _ ← act (.docker_cleanup_container
    { container_id, image_id, policy := container_policy inp, task_succeeded
      workflow_id := inp.parent_workflow_id, runner_id := runner_id, vault_path := vault_path })
  return ()

def docker_output (build_result : DockerBuildResult) (run_result : DockerRunResult) : ExecutionRunWorkflowOutput where
  status := if run_result.exit_code = 0 then .passed else .failed
  exit_code := some run_result.exit_code
  stdout_uri := run_result.log_artifact_uri
  stderr_uri := run_result.log_artifact_uri
  duration_seconds := build_result.duration_seconds
  runner_id := runner_id
  failure_reason := if run_result.exit_code = 0 then none else some "non_zero_exit"

/-- The container of a built image, and its cleanup however it ends. -/
def run_container (build_result : DockerBuildResult) : Exec ExecutionRunWorkflowOutput := do
  match ← act (.docker_run_container (docker_run_input inp command runner_id vault_path)) with
  | .error failure =>
    docker_cleanup inp runner_id vault_path "" build_result.image_id false
    .raise failure
  | .ok run_result =>
    docker_cleanup inp runner_id vault_path run_result.container_id build_result.image_id (run_result.exit_code = 0)
    return docker_output runner_id build_result run_result

def run_docker_chain : Exec ExecutionRunWorkflowOutput := do
  match ← act (.docker_daemon_healthcheck { workflow_id := inp.parent_workflow_id, runner_id, vault_path }) with
  | .ok true =>
    match ← act (.docker_build_image (docker_build_input inp runner_id vault_path)) with
    | .error failure => .raise failure
    | .ok build_result =>
      if build_result.success then run_container inp command runner_id vault_path build_result
      else return chain_failed runner_id build_result.duration_seconds "docker_build_failed"
  | _ => return chain_failed runner_id "0.0" "docker_daemon_unavailable"

/-- The policy for the workspace: the other spelling of its key is read, too. -/
def workspace_policy : String :=
  ((env_dict inp.environment).get? "CLEANUP_POLICY").getD
    (((env_dict inp.environment).get? "cleanup_policy").getD "on_success")

def apply_cleanup_policy (exit_code : Option Int) : Exec Unit := do
  let _ ← act (.apply_cleanup_policy
    { policy := workspace_policy inp, exit_code, workspace_path := inp.workdir.getD ""
      container_id := (env_dict inp.environment).get? "CONTAINER_ID"
      image_id := (env_dict inp.environment).get? "IMAGE_ID"
      workflow_id := inp.parent_workflow_id, department_id := inp.department_id, vault_path })
  return ()

def ssh_run_input : SshRunTestInput where
  runner_id := runner_id
  command := command
  env := inp.environment
  artifact_minio_prefix := inp.artifact_minio_prefix
  workdir := inp.workdir
  parent_workflow_id := inp.parent_workflow_id
  vault_path := vault_path

/-- The command, on the path that the message asks for. -/
def execute (start_to_close heartbeat : Rat) : Exec ExecutionRunWorkflowOutput := do
  if inp.needs_docker then run_docker_chain inp command runner_id vault_path
  else
    match ← act (.ssh_run_test (ssh_run_input inp command runner_id vault_path) start_to_close heartbeat) with
    | .error failure => .raise failure
    | .ok result => return result

end

/-- The command of a smoke test that names none. -/
def effective_command (inp : ExecutionRunWorkflowInput) : String :=
  if inp.workflow_type = some "noop_test" ∧ inp.command = "" then "echo \"ok\"" else inp.command

/-- Half a minute for a smoke test that names no timeout. -/
def start_to_close_override (inp : ExecutionRunWorkflowInput) : Option Rat :=
  if inp.workflow_type = some "noop_test" then (coerce_timeout inp.start_to_close_timeout).or (some 30)
  else coerce_timeout inp.start_to_close_timeout

/-- The message with the workspace on the runner. -/
def run_input (inp : ExecutionRunWorkflowInput) (resolution : Option RunnerResolution) : ExecutionRunWorkflowInput :=
  { inp with workdir := derive_workdir inp (resolution.map (·.base_path)) }

def resolved_runner_id (inp : ExecutionRunWorkflowInput) (resolution : Option RunnerResolution) : Option String :=
  match resolution with
  | some runner => some runner.runner_id
  | none => inp.runner_id

/-- The command, and the cleanup of its workspace. -/
def run_command (inp : ExecutionRunWorkflowInput) (resolution : Option RunnerResolution) : Exec ExecutionRunWorkflowOutput := do
  let vault_path := resolution.map (·.vault_path)
  let result ← execute (run_input inp resolution) (effective_command inp) (resolved_runner_id inp resolution) vault_path
    (orTimeout (start_to_close_override inp) 1800) (orTimeout (coerce_timeout inp.heartbeat_timeout) 90)
  apply_cleanup_policy (run_input inp resolution) vault_path result.exit_code
  return result

def run_healthy (inp : ExecutionRunWorkflowInput) (resolution : Option RunnerResolution) : Exec ExecutionRunWorkflowOutput := do
  enforce_disk_quota (run_input inp resolution)
  run_command inp resolution

def run_on (inp : ExecutionRunWorkflowInput) (resolution : Option RunnerResolution) : Exec ExecutionRunWorkflowOutput := do
  let runner_healthy ← wait_for_healthy_runner (resolved_runner_id inp resolution) (resolution.map (·.port)) 6
    (resolution.map (·.host)) 60
  if runner_healthy then run_healthy inp resolution
  else return unreachable (resolved_runner_id inp resolution)

def execution_run (inp : ExecutionRunWorkflowInput) : Exec ExecutionRunWorkflowOutput := do
  if resolves_runner inp then run_on inp (← resolve_runner inp.department_id)
  else run_on inp none

/-- What the outside does: the database, each probe of the host, and each attempt of the
    other activities. A lost attempt ends with the failure that Temporal reports. -/
structure Outside where
  py : Python
  environ : Environ
  resolution : Except Failure RunnerResolution
  probe : Nat → Except Failure (Option String)
  quota : Except Failure DiskQuotaResult
  ssh_session : Nat → Except Failure SshSession
  daemon : Except Failure Bool
  build : Except Failure DockerBuildResult
  docker_session : Nat → Except Failure DockerSession
  docker_cleanup : Except Failure Unit
  cleanup : Except Failure Unit

/-- An activity of three attempts at most. -/
def retried {α : Type} (attempt : Nat → Except Failure α) : Except Failure α :=
  attempt (lastAttempt (fun i => !(attempt i).isOk) 2 0)

section
variable (w : Outside)

def ssh_attempt (input : SshRunTestInput) (i : Nat) : Except Failure ExecutionRunWorkflowOutput :=
  w.ssh_session i >>= RunnerActivities.ssh_run_test w.py w.environ input

def docker_attempt (input : DockerRunInput) (i : Nat) : Except Failure DockerRunResult :=
  w.docker_session i >>= RunnerActivities.docker_run_container input

/-- The session of the attempt that `ssh_run_test` ends with. -/
def last_session (input : SshRunTestInput) : Except Failure SshSession :=
  w.ssh_session (lastAttempt (fun i => !(ssh_attempt w input i).isOk) 2 0)

/-- The session of the attempt that `docker_run_container` ends with. -/
def last_container (input : DockerRunInput) : Except Failure DockerSession :=
  w.docker_session (lastAttempt (fun i => !(docker_attempt w input i).isOk) 2 0)

def isProbe : Call → Bool
  | .ssh_healthcheck _ => true
  | _ => false

def reply (log : List Call) : (c : Call) → activities.Res c
  | .resolve_runner _ => w.resolution
  | .ssh_healthcheck input => (w.probe (log.countP isProbe)).map (RunnerActivities.ssh_healthcheck w.environ input)
  | .sleep _ => ()
  | .check_disk_quota _ => w.quota
  | .ssh_run_test input _ _ => retried (ssh_attempt w input)
  | .docker_daemon_healthcheck _ => w.daemon
  | .docker_build_image _ => w.build
  | .docker_run_container input => retried (docker_attempt w input)
  | .docker_cleanup_container _ => w.docker_cleanup
  | .apply_cleanup_policy _ => w.cleanup

/-- The run: its end, and the activities it has called. -/
def outcome (inp : ExecutionRunWorkflowInput) : Except Failure ExecutionRunWorkflowOutput × List Call :=
  exec (recording (reply w)) (execution_run inp) []

end

/-- The probe is answered, and the host accepts it. -/
def answered : Except Failure (Option String) → Bool
  | .ok none => true
  | _ => false

/-- One of the probes from `attempt` on finds the runner healthy. -/
def recovers (w : Outside) : Nat → Nat → Bool
  | 0, attempt => answered (w.probe attempt)
  | retries + 1, attempt => answered (w.probe attempt) || recovers w retries (attempt + 1)

section
variable {w : Outside}

theorem exec_act {α : Type} (w : Outside) (c : Call) (rest : activities.Res c → Exec α) (log : List Call) :
    exec (recording (reply w)) (act c >>= rest) log =
      exec (recording (reply w)) (rest (reply w log c)) (log ++ [c]) := rfl

theorem reports_probe (w : Outside) (log : List Call) (input : SSHHealthcheckInput) :
    reports_healthy (reply w log (.ssh_healthcheck input)) = answered (w.probe (log.countP isProbe)) := by
  rw [reply]
  cases w.probe (log.countP isProbe) with
  | error failure => rfl
  | ok error => cases error <;> rfl

/-- The number of a probe is the number of those before it. -/
theorem count_probe (log : List Call) (input : SSHHealthcheckInput) :
    (log ++ [Call.ssh_healthcheck input]).countP isProbe = log.countP isProbe + 1 := by
  rw [List.countP_append]
  rfl

theorem count_sleep (log : List Call) (seconds : Nat) : (log ++ [Call.sleep seconds]).countP isProbe = log.countP isProbe := by
  rw [List.countP_append]
  rfl

theorem wait_result (runner_id : Option String) (port : Option Int) (retries : Nat) (host : Option String) (backoff : Nat)
    (log : List Call) :
    (exec (recording (reply w)) (wait_for_healthy_runner runner_id port retries host backoff) log).1 =
      .ok (recovers w retries (log.countP isProbe)) := by
  induction retries generalizing host backoff log with
  | zero =>
    rw [wait_for_healthy_runner,exec_act,exec_pure,recovers]
    exact congrArg Except.ok (reports_probe w log _)
  | succ retries ih =>
    rw [wait_for_healthy_runner,exec_act,recovers]
    have healthy := reports_probe w log { host, port, runner_id }
    by_cases found : answered (w.probe (log.countP isProbe)) = true
    · rw [found] at healthy ⊢
      rw [if_pos healthy]
      rfl
    · rw [Bool.not_eq_true] at found
      rw [found] at healthy ⊢
      rw [if_neg (by rw [healthy]; exact Bool.false_ne_true),exec_act,ih,count_sleep,count_probe,Bool.false_or]

/-- The record once the wait is over. -/
def waited (w : Outside) (inp : ExecutionRunWorkflowInput) (resolution : Option RunnerResolution) (log : List Call) : List Call :=
  (exec (recording (reply w)) (wait_for_healthy_runner (resolved_runner_id inp resolution) (resolution.map (·.port)) 6
    (resolution.map (·.host)) 60) log).2

theorem exec_run_on (w : Outside) (inp : ExecutionRunWorkflowInput) (resolution : Option RunnerResolution) (log : List Call) :
    exec (recording (reply w)) (run_on inp resolution) log =
      if recovers w 6 (log.countP isProbe) = true then
        exec (recording (reply w)) (run_healthy inp resolution) (waited w inp resolution log)
      else (.ok (unreachable (resolved_runner_id inp resolution)),waited w inp resolution log) := by
  have result := wait_result (w := w) (resolved_runner_id inp resolution) (resolution.map (·.port)) 6
    (resolution.map (·.host)) 60 log
  rw [run_on,exec_bind,waited]
  generalize exec (recording (reply w)) (wait_for_healthy_runner (resolved_runner_id inp resolution)
    (resolution.map (·.port)) 6 (resolution.map (·.host)) 60) log = ended at result
  obtain ⟨healthy,after⟩ := ended
  cases result
  by_cases recovered : recovers w 6 (log.countP isProbe) = true
  · rw [if_pos recovered]
    simp only [recovered,if_true]
  · rw [if_neg recovered]
    simp only [recovered]
    rfl

/-- The calls before the command. -/
def Preliminary : Call → Prop
  | .resolve_runner _ => True
  | .ssh_healthcheck _ => True
  | .sleep _ => True
  | .check_disk_quota _ => True
  | _ => False

/-- The runner a run goes on with; `none` where its department has none. -/
def selected (w : Outside) (inp : ExecutionRunWorkflowInput) : Option (Option RunnerResolution) :=
  if resolves_runner inp then
    match w.resolution with
    | .ok runner => some (some runner)
    | .error failure => if failure.type_name = "RunnerResolutionError" then none else some none
  else some none

def checks_quota (inp : ExecutionRunWorkflowInput) : Bool := inp.workspace_quota_mb.isSome && inp.department_id ≠ ""

/-- The workspace is within its quota, as far as it is known. -/
def quota_passes (w : Outside) (inp : ExecutionRunWorkflowInput) : Bool :=
  match w.quota with
  | .ok result => result.allowed || !checks_quota inp
  | .error _ => true

/-- The run comes to its command, on this runner. -/
structure Reaches (w : Outside) (inp : ExecutionRunWorkflowInput) (resolution : Option RunnerResolution) : Prop where
  runner : selected w inp = some resolution
  healthy : recovers w 6 0 = true
  quota : quota_passes w inp = true

theorem issues_act {α : Type} {φ : Call → Prop} {c : Call} {rest : activities.Res c → Exec α} (issued : φ c)
    (others : ∀ answer, Issues φ (rest answer)) : Issues φ (act c >>= rest) := ⟨issued,others⟩

theorem issues_wait (runner_id : Option String) (port : Option Int) (retries : Nat) (host : Option String) (backoff : Nat) :
    Issues Preliminary (wait_for_healthy_runner runner_id port retries host backoff) := by
  induction retries generalizing host backoff with
  | zero => exact issues_act trivial fun _ => trivial
  | succ retries ih => exact issues_act trivial fun _ => issues_ite trivial (issues_act trivial fun _ => ih _ _)

theorem issues_quota (inp : ExecutionRunWorkflowInput) : Issues Preliminary (enforce_disk_quota inp) := by
  refine issues_ite trivial (issues_act trivial fun answer => ?_)
  cases answer with
  | error failure => trivial
  | ok result => exact issues_ite trivial trivial

theorem quota_ends (w : Outside) (inp : ExecutionRunWorkflowInput) (log : List Call) :
    (quota_passes w inp = true ∧ (exec (recording (reply w)) (enforce_disk_quota inp) log).1 = .ok ()) ∨
      (quota_passes w inp = false ∧ ∃ failure, (exec (recording (reply w)) (enforce_disk_quota inp) log).1 = .error failure) := by
  unfold enforce_disk_quota quota_passes
  by_cases unchecked : inp.workspace_quota_mb.isNone = true ∨ inp.department_id = ""
  · left
    rw [if_pos unchecked]
    refine ⟨?_,rfl⟩
    have skips : checks_quota inp = false := by
      simp only [checks_quota,Bool.and_eq_false_iff]
      rcases unchecked with absent | unnamed
      · exact Or.inl (by simpa using absent)
      · exact Or.inr (by simp [unnamed])
    cases w.quota with
    | error failure => rfl
    | ok result => simp [skips]
  · rw [if_neg unchecked,exec_act,reply]
    have checks : checks_quota inp = true := by
      simpa [checks_quota,not_or,Option.isSome_iff_ne_none] using unchecked
    cases w.quota with
    | error failure => exact Or.inl ⟨rfl,rfl⟩
    | ok result =>
      by_cases allowed : result.allowed = true
      · left
        simp [allowed]
      · right
        simp [allowed,checks]

theorem outcome_resolved {inp : ExecutionRunWorkflowInput} {r : RunnerResolution} (resolves : resolves_runner inp = true)
    (resolved : w.resolution = .ok r) :
    outcome w inp = exec (recording (reply w)) (run_on inp (some r)) [.resolve_runner inp.department_id] := by
  have found : exec (recording (reply w)) (resolve_runner inp.department_id) [] =
      (.ok (some r),[.resolve_runner inp.department_id]) := by
    rw [resolve_runner,exec_act,reply,resolved]
    rfl
  rw [outcome,execution_run,if_pos resolves,exec_bind,found]

theorem outcome_selected (w : Outside) (inp : ExecutionRunWorkflowInput) :
    ∃ log, (∀ c ∈ log, Preliminary c) ∧ log.countP isProbe = 0 ∧
      ((∃ resolution, selected w inp = some resolution ∧
          outcome w inp = exec (recording (reply w)) (run_on inp resolution) log) ∨
        (selected w inp = none ∧ ∃ failure, outcome w inp = (.error failure,log))) := by
  by_cases resolves : resolves_runner inp = true
  · refine ⟨[.resolve_runner inp.department_id],?_,rfl,?_⟩
    · intro c member
      rw [List.mem_singleton.mp member]
      trivial
    · cases resolved : w.resolution with
      | ok runner =>
        left
        exact ⟨some runner,by rw [selected,if_pos resolves,resolved],outcome_resolved resolves resolved⟩
      | error failure =>
        have ended : outcome w inp = exec (recording (reply w))
            ((if failure.type_name = "RunnerResolutionError" then .raise failure else pure none) >>= run_on inp)
            [.resolve_runner inp.department_id] := by
          rw [outcome,execution_run,if_pos resolves,resolve_runner,exec_bind,exec_act,reply,resolved,exec_bind]
          rfl
        by_cases assigned : failure.type_name = "RunnerResolutionError"
        · right
          refine ⟨by rw [selected,if_pos resolves,resolved]; exact if_pos assigned,failure,?_⟩
          rw [ended,if_pos assigned]
          rfl
        · left
          refine ⟨none,by rw [selected,if_pos resolves,resolved]; exact if_neg assigned,?_⟩
          rw [ended,if_neg assigned]
          rfl
  · refine ⟨[],fun c member => absurd member List.not_mem_nil,rfl,Or.inl ⟨none,?_,?_⟩⟩
    · rw [selected,if_neg resolves]
    · rw [outcome,execution_run,if_neg resolves]

theorem waited_preliminary (w : Outside) (inp : ExecutionRunWorkflowInput) (resolution : Option RunnerResolution)
    {log : List Call} (before : ∀ c ∈ log, Preliminary c) : ∀ c ∈ waited w inp resolution log, Preliminary c := by
  unfold waited
  exact exec_recorded (reply w) (issues_wait ..) before

theorem outcome_reached {inp : ExecutionRunWorkflowInput} {resolution : Option RunnerResolution}
    (reaches : Reaches w inp resolution) :
    ∃ log, (∀ c ∈ log, Preliminary c) ∧ outcome w inp = exec (recording (reply w)) (run_command inp resolution) log := by
  obtain ⟨log,before,unprobed,⟨chosen,runner,ended⟩ | ⟨nobody,_⟩⟩ := outcome_selected w inp
  · have same : chosen = resolution := Option.some.inj (runner.symm.trans reaches.runner)
    rw [exec_run_on,unprobed,if_pos reaches.healthy,same,run_healthy,exec_bind] at ended
    have gate := exec_recorded (reply w) (issues_quota (run_input inp resolution)) (waited_preliminary w inp resolution before)
    obtain ⟨_,passes⟩ | ⟨blocked,_⟩ := quota_ends w (run_input inp resolution) (waited w inp resolution log)
    · generalize exec (recording (reply w)) (enforce_disk_quota (run_input inp resolution)) (waited w inp resolution log) =
        checked at ended gate passes
      obtain ⟨result,after⟩ := checked
      cases passes
      exact ⟨after,gate,ended⟩
    · exact absurd (blocked.symm.trans reaches.quota) (by decide)
  · exact absurd (nobody.symm.trans reaches.runner) (by simp)

/-- A run that does not come to its command does nothing else, and does not pass. -/
theorem outcome_unreached {inp : ExecutionRunWorkflowInput} (stops : ∀ resolution, ¬Reaches w inp resolution) :
    (∀ c ∈ (outcome w inp).2, Preliminary c) ∧ ∀ out, (outcome w inp).1 = .ok out → out.status = .failed := by
  obtain ⟨log,before,unprobed,⟨chosen,runner,ended⟩ | ⟨_,failure,ended⟩⟩ := outcome_selected w inp
  · rw [exec_run_on,unprobed] at ended
    by_cases healthy : recovers w 6 0 = true
    · rw [if_pos healthy,run_healthy,exec_bind] at ended
      have gate := exec_recorded (reply w) (issues_quota (run_input inp chosen)) (waited_preliminary w inp chosen before)
      obtain ⟨passes,_⟩ | ⟨_,failure,blocked⟩ := quota_ends w (run_input inp chosen) (waited w inp chosen log)
      · exact absurd ⟨runner,healthy,passes⟩ (stops chosen)
      · generalize exec (recording (reply w)) (enforce_disk_quota (run_input inp chosen)) (waited w inp chosen log) =
          checked at ended gate blocked
        obtain ⟨result,after⟩ := checked
        cases blocked
        rw [ended]
        exact ⟨gate,fun out passed => absurd passed (by simp)⟩
    · rw [if_neg healthy] at ended
      rw [ended]
      refine ⟨waited_preliminary w inp chosen before,?_⟩
      intro out returned
      cases returned
      rfl
  · rw [ended]
    exact ⟨before,fun out passed => absurd passed (by simp)⟩

end

section
variable (w : Outside) (inp : ExecutionRunWorkflowInput) (command : String) (runner_id vault_path : Option String)
  (start_to_close heartbeat : Rat)

def daemon_call : Call := .docker_daemon_healthcheck { workflow_id := inp.parent_workflow_id, runner_id, vault_path }

def build_call : Call := .docker_build_image (docker_build_input inp runner_id vault_path)

/-- How the container of a run ends. -/
def container_answer : Except Failure DockerRunResult :=
  retried (docker_attempt w (docker_run_input inp command runner_id vault_path))

/-- The container has ended with exit code 0. -/
def succeeded : Except Failure DockerRunResult → Bool
  | .ok result => result.exit_code = 0
  | .error _ => false

def known_container : Except Failure DockerRunResult → String
  | .ok result => result.container_id
  | .error _ => ""

def container_calls (build_result : DockerBuildResult) : List Call :=
  let answer := container_answer w inp command runner_id vault_path
  [daemon_call inp runner_id vault_path,build_call inp runner_id vault_path,
    .docker_run_container (docker_run_input inp command runner_id vault_path),
    .docker_cleanup_container
      { container_id := known_container answer, image_id := build_result.image_id, policy := container_policy inp
        task_succeeded := succeeded answer, workflow_id := inp.parent_workflow_id, runner_id, vault_path }]

inductive Executes : List Call → Except Failure ExecutionRunWorkflowOutput → Prop
  | ssh (bare : inp.needs_docker = false) :
      Executes [.ssh_run_test (ssh_run_input inp command runner_id vault_path) start_to_close heartbeat]
        (retried (ssh_attempt w (ssh_run_input inp command runner_id vault_path)))
  | no_daemon (docker : inp.needs_docker = true) (unavailable : w.daemon ≠ .ok true) :
      Executes [daemon_call inp runner_id vault_path] (.ok (chain_failed runner_id "0.0" "docker_daemon_unavailable"))
  | build_raised (docker : inp.needs_docker = true) (available : w.daemon = .ok true) {failure : Failure}
      (raised : w.build = .error failure) :
      Executes [daemon_call inp runner_id vault_path,build_call inp runner_id vault_path] (.error failure)
  | build_failed (docker : inp.needs_docker = true) (available : w.daemon = .ok true) {build_result : DockerBuildResult}
      (built : w.build = .ok build_result) (failed : build_result.success = false) :
      Executes [daemon_call inp runner_id vault_path,build_call inp runner_id vault_path]
        (.ok (chain_failed runner_id build_result.duration_seconds "docker_build_failed"))
  | container (docker : inp.needs_docker = true) (available : w.daemon = .ok true) {build_result : DockerBuildResult}
      (built : w.build = .ok build_result) (success : build_result.success = true) :
      Executes (container_calls w inp command runner_id vault_path build_result)
        ((container_answer w inp command runner_id vault_path).map (docker_output runner_id build_result))

theorem exec_cleanup (container_id : String) (image_id : Option String) (task_succeeded : Bool) (log : List Call) :
    exec (recording (reply w)) (docker_cleanup inp runner_id vault_path container_id image_id task_succeeded) log =
      (.ok (),log ++ [.docker_cleanup_container
        { container_id, image_id, policy := container_policy inp, task_succeeded
          workflow_id := inp.parent_workflow_id, runner_id := runner_id, vault_path := vault_path }]) := rfl

theorem exec_container (build_result : DockerBuildResult) (log : List Call) :
    exec (recording (reply w)) (run_container inp command runner_id vault_path build_result)
        (log ++ [daemon_call inp runner_id vault_path,build_call inp runner_id vault_path]) =
      ((container_answer w inp command runner_id vault_path).map (docker_output runner_id build_result),
        log ++ container_calls w inp command runner_id vault_path build_result) := by
  rw [run_container,exec_act,reply,container_calls,container_answer]
  cases retried (docker_attempt w (docker_run_input inp command runner_id vault_path)) with
  | error failure =>
    rw [exec_bind,exec_cleanup,List.append_assoc,List.append_assoc]
    rfl
  | ok result =>
    rw [exec_bind,exec_cleanup,List.append_assoc,List.append_assoc]
    rfl

theorem exec_chain (docker : inp.needs_docker = true) (log : List Call) :
    ∃ calls result, exec (recording (reply w)) (run_docker_chain inp command runner_id vault_path) log =
        (result,log ++ calls) ∧
      Executes w inp command runner_id vault_path start_to_close heartbeat calls result := by
  rw [run_docker_chain,exec_act,reply]
  by_cases available : w.daemon = .ok true
  · rw [available]
    dsimp only
    rw [exec_act,reply,List.append_assoc]
    cases built : w.build with
    | error failure => exact ⟨_,_,rfl,.build_raised docker available built⟩
    | ok build_result =>
      dsimp only
      by_cases success : build_result.success = true
      · refine ⟨_,_,?_,.container docker available built success⟩
        rw [if_pos success]
        exact exec_container w inp command runner_id vault_path build_result log
      · refine ⟨_,_,?_,.build_failed docker available built (by simpa using success)⟩
        rw [if_neg success]
        rfl
  · refine ⟨_,_,?_,.no_daemon docker available⟩
    cases answer : w.daemon with
    | error failure => rfl
    | ok running =>
      cases running with
      | true => exact absurd answer available
      | false => rfl

theorem exec_execute (log : List Call) :
    ∃ calls result, exec (recording (reply w)) (execute inp command runner_id vault_path start_to_close heartbeat) log =
        (result,log ++ calls) ∧
      Executes w inp command runner_id vault_path start_to_close heartbeat calls result := by
  unfold execute
  by_cases docker : inp.needs_docker = true
  · rw [if_pos docker]
    exact exec_chain w inp command runner_id vault_path start_to_close heartbeat docker log
  · rw [if_neg docker,exec_act,reply]
    refine ⟨_,_,?_,.ssh (by simpa using docker)⟩
    cases retried (ssh_attempt w (ssh_run_input inp command runner_id vault_path)) with
    | error failure => rfl
    | ok result => rfl

end

section
variable (w : Outside) (inp : ExecutionRunWorkflowInput) (resolution : Option RunnerResolution)

/-- How the command of a run is executed on the runner that it has selected. -/
def Commands : List Call → Except Failure ExecutionRunWorkflowOutput → Prop :=
  Executes w (run_input inp resolution) (effective_command inp) (resolved_runner_id inp resolution)
    (resolution.map (·.vault_path)) (orTimeout (start_to_close_override inp) 1800)
    (orTimeout (coerce_timeout inp.heartbeat_timeout) 90)

/-- The arguments of `ssh_run_test` and `docker_run_container` in a run. -/
def ssh_arguments : SshRunTestInput :=
  ssh_run_input (run_input inp resolution) (effective_command inp) (resolved_runner_id inp resolution)
    (resolution.map (·.vault_path))

def docker_arguments : DockerRunInput :=
  docker_run_input (run_input inp resolution) (effective_command inp) (resolved_runner_id inp resolution)
    (resolution.map (·.vault_path))

/-- The call for the workspace after the result. -/
def workspace_calls : Except Failure ExecutionRunWorkflowOutput → List Call
  | .error _ => []
  | .ok out =>
    [.apply_cleanup_policy
      { policy := workspace_policy inp, exit_code := out.exit_code
        workspace_path := (run_input inp resolution).workdir.getD ""
        container_id := (env_dict inp.environment).get? "CONTAINER_ID"
        image_id := (env_dict inp.environment).get? "IMAGE_ID"
        workflow_id := inp.parent_workflow_id, department_id := inp.department_id
        vault_path := resolution.map (·.vault_path) }]

theorem exec_command (log : List Call) :
    ∃ calls result, exec (recording (reply w)) (run_command inp resolution) log =
        (result,log ++ calls ++ workspace_calls inp resolution result) ∧ Commands w inp resolution calls result := by
  obtain ⟨calls,result,ended,executes⟩ := exec_execute w (run_input inp resolution) (effective_command inp)
    (resolved_runner_id inp resolution) (resolution.map (·.vault_path)) (orTimeout (start_to_close_override inp) 1800)
    (orTimeout (coerce_timeout inp.heartbeat_timeout) 90) log
  refine ⟨calls,result,?_,executes⟩
  simp only [run_command]
  rw [exec_bind,ended]
  cases result with
  | error failure => simp only [workspace_calls,List.append_nil]
  | ok out => rfl

theorem outcome_commands {w : Outside} {inp : ExecutionRunWorkflowInput} {resolution : Option RunnerResolution}
    (reaches : Reaches w inp resolution) :
    ∃ log calls, (∀ c ∈ log, Preliminary c) ∧
      (outcome w inp).2 = log ++ calls ++ workspace_calls inp resolution (outcome w inp).1 ∧
      Commands w inp resolution calls (outcome w inp).1 := by
  obtain ⟨log,before,ended⟩ := outcome_reached reaches
  obtain ⟨calls,result,executed,commands⟩ := exec_command w inp resolution log
  rw [executed] at ended
  rw [ended]
  exact ⟨log,calls,before,rfl,commands⟩

end

/-- A runner as the API writes it. -/
def sampleRunner : RunnerResolution where
  runner_id := "runner-01"
  host := "10.0.0.5"
  port := 22
  username := "ci"
  base_path := "/var/ai-runner"
  vault_path := "vault:ssh/runners/runner-01/active"

/-- The message of a gateway for one issue. -/
def sampleInput : ExecutionRunWorkflowInput where
  parent_workflow_id := "PAY-1"
  runner_id := none
  command := "make test"
  workdir := none
  environment := []
  artifact_minio_prefix := some "executions/PAY-1"
  start_to_close_timeout := none
  heartbeat_timeout := none
  department_id := "payments"
  workflow_type := some "script_execute"
  trace_id := ""
  workspace_quota_mb := none
  needs_docker := false
  docker_image_tag := none
  docker_dockerfile_path := none

/-- An outside where everything goes well on the sample runner. -/
def smooth : Outside where
  py := { repr := fun _ => "", dumps := fun _ => "", sha256 := id, isodate := fun _ => "", fromisoformat := fun _ => none }
  environ := fun _ => none
  resolution := .ok sampleRunner
  probe := fun _ => .ok none
  quota := .ok { allowed := true, usage_mb := "1.0", quota_mb := none, error := none, warning_sent := false
                 cleanup_candidates := [] }
  ssh_session := fun _ => .ok { credentials := .ok ⟨"10.0.0.5",22,"ci","key"⟩, remote := .exited "" "" 0
                                stdout_upload := .stored, stderr_upload := .stored, duration_seconds := "1.0" }
  daemon := .ok true
  build := .ok { success := true, image_id := some "sha256:1", error := none, duration_seconds := "1.0" }
  docker_session := fun _ => .ok { credentials := .ok ⟨"10.0.0.5",22,"ci","key"⟩, remote := .exited "" "" 0
                                   query := .exited "c1" "" 0, log_stored := true, timestamp := 0 }
  docker_cleanup := .ok ()
  cleanup := .ok ()

end Automation.ExecutionRun
