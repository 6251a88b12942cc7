import Automation.AgentMessages

/-!
The activities of the execution runner, each as a function of what it meets: the
environment of the worker, the answer of the vault, what becomes of the session on the
runner's host, and what the object store does with the artifacts. Floats are carried as
their `repr`.
-/
namespace Automation.RunnerActivities
open Automation.PyText
open Automation.AgentMessages (Failure Python)

/-- `os.environ.get`. -/
abbrev Environ := String → Option String

structure SSHCred where
  host : String
  port : Int
  user : String
  private_key : String

def ssh_secret_path (environ : Environ) : String := (environ "VAULT_SSH_SECRET_PATH").getD "ssh/runner/current"

/-- The path of a secret, as the API writes it or bare. -/
def bare_path (vault_path : String) : String :=
  lstripChar '/' (strip (if hasPrefix vault_path "vault:" then dropChars 6 vault_path else vault_path))

/-- The path that `vault_fetch_ssh_credentials` reads. -/
def credential_path (environ : Environ) (vault_path : Option String) : String :=
  match vault_path with
  | some path => if path = "" then ssh_secret_path environ else bare_path path
  | none => ssh_secret_path environ

structure SSHHealthcheckInput where
  host : Option String
  port : Option Int
  runner_id : Option String

structure SSHHealthcheckResult where
  healthy : Bool
  host : String
  port : Int
  error : Option String

/-- `os.environ.get(name, "").strip()`. -/
def stripped (environ : Environ) (name : String) : String := strip ((environ name).getD "")

/-- The host that the environment names. -/
def default_host (environ : Environ) : String :=
  if stripped environ "SSH_HOST" ≠ "" then stripped environ "SSH_HOST"
  else if stripped environ "SSH_HOST_1" ≠ "" then stripped environ "SSH_HOST_1"
  else "localhost"

def default_port (environ : Environ) : Int := (pyInt ((environ "SSH_PORT_DEFAULT").getD "22")).getD 22

def resolve_ssh_host (environ : Environ) (input : SSHHealthcheckInput) : String × Int :=
  match input.host with
  | some host => if host = "" then (default_host environ,default_port environ) else (strip host,input.port.getD 22)
  | none => (default_host environ,default_port environ)

/-- `error` is what `_tcp_probe` answers. -/
def ssh_healthcheck (environ : Environ) (input : SSHHealthcheckInput) (error : Option String) : SSHHealthcheckResult where
  healthy := error.isNone
  host := (resolve_ssh_host environ input).1
  port := (resolve_ssh_host environ input).2
  error := error

/-- The exceptions that a session ends with. -/
inductive SessionError where
  | authentication (message : String)
  | ssh (message : String)
  | timeout (message : String)
  | network (message : String)

/-- One session: the key, the connection, and the remote command. -/
inductive Remote where
  | unparsable_key (message : String)
  | not_connected (error : SessionError)
  | interrupted (error : SessionError)
  | exited (stdout stderr : String) (exit_code : Int)

/-- A command as `exec_command` gets it. -/
structure RemoteCommand where
  text : String
  timeout_seconds : Int

structure RunResult where
  stdout : String
  stderr : String
  exit_code : Int

def SessionError.cause (timeout_seconds : Int) : SessionError → String
  | .authentication message => "authentication failed: " ++ message
  | .ssh message => "SSH error: " ++ message
  | .timeout _ => "connection or command timed out after " ++ toString timeout_seconds ++ "s"
  | .network message => "network error: " ++ message

/-- The result, or the cause of the `SSHActivityError`. -/
def ssh_execute_command (timeout_seconds : Int) : Remote → Except String RunResult
  | .unparsable_key message => .error ("unable to parse private key: " ++ message)
  | .not_connected error => .error (error.cause timeout_seconds)
  | .interrupted error => .error (error.cause timeout_seconds)
  | .exited stdout stderr exit_code => .ok { stdout, stderr, exit_code }

def SessionError.failure : SessionError → Failure
  | .authentication message => ⟨"AuthenticationException",message⟩
  | .ssh message => ⟨"SSHException",message⟩
  | .timeout message => ⟨"TimeoutError",message⟩
  | .network message => ⟨"OSError",message⟩

/-- The `RuntimeError` that `_ssh_exec` makes of it. -/
def SessionError.runtime (timeout_seconds : Int) : SessionError → String
  | .authentication message => "SSH error: " ++ message
  | .ssh message => "SSH error: " ++ message
  | .timeout _ => "Command timed out after " ++ toString timeout_seconds ++ "s"
  | .network message => "Network error: " ++ message

inductive ExecError where
  | runtime (message : String)
  | raised (failure : Failure)

/-- The connection is made outside of the `try`. -/
def ssh_exec (timeout_seconds : Int) : Remote → Except ExecError RunResult
  | .unparsable_key _ => .error (.runtime "Unable to parse SSH private key")
  | .not_connected error => .error (.raised error.failure)
  | .interrupted error => .error (.runtime (error.runtime timeout_seconds))
  | .exited stdout stderr exit_code => .ok { stdout, stderr, exit_code }

/-- A character that `shlex.quote` leaves alone. -/
def isShellSafe (c : Char) : Bool := c.isAlphanum || "_@%+=:,./-".toList.contains c

def shlex_quote (text : String) : String :=
  let quote := Char.ofNat 0x27
  if text = "" then .ofList [quote,quote]
  else if text.toList.all isShellSafe then text
  else .ofList (quote :: (text.toList.flatMap fun c => if c = quote then [quote,'"',quote,'"',quote] else [c]) ++ [quote])

/-- A key that no assignment of the shell may have. -/
def invalid_name (key : String) : Bool :=
  key = "" || key.toList.any fun c => c = '=' || c = ' ' || c = '\t' || c = '\n' || c = '"' || c = Char.ofNat 0x27

def shell_quote_environment (py : Python) (env : List (String × String)) : Except Failure String :=
  let items := env.mergeSort fun a b => decide (a.1 ≤ b.1)
  match items.find? fun item => invalid_name item.1 with
  | some item => .error ⟨"ValueError","invalid environment variable name: " ++ AgentMessages.quoted py item.1⟩
  | none =>
    if env.isEmpty then .ok ""
    else .ok (" ".intercalate (items.map fun item => item.1 ++ "=" ++ shlex_quote item.2) ++ " ")

def build_full_command (command : String) (workdir : Option String) (assignments : String) : String :=
  let body := assignments ++ command
  match workdir with
  | none => body
  | some dir =>
    if dir = "" then body
    else "mkdir -p " ++ shlex_quote dir ++ " && cd " ++ shlex_quote dir ++ " && " ++ body

def resolve_command_timeout_seconds (environ : Environ) : Int :=
  match pyInt ((environ "SSH_COMMAND_TIMEOUT_S").getD "") with
  | none => 1800
  | some value => if value ≤ 0 then 1800 else value

structure SshRunTestInput where
  runner_id : Option String
  command : String
  env : List (String × String)
  artifact_minio_prefix : Option String
  workdir : Option String
  parent_workflow_id : String
  vault_path : Option String

/-- The remote command of `ssh_run_test`, or the `ValueError` of a name. -/
def ssh_remote_command (py : Python) (environ : Environ) (input : SshRunTestInput) : Except Failure RemoteCommand :=
  match shell_quote_environment py input.env with
  | .error failure => .error failure
  | .ok assignments => .ok ⟨build_full_command input.command input.workdir assignments,resolve_command_timeout_seconds environ⟩

def DEFAULT_BUCKET : String := "ai-runs"

/-- `raw.strip().strip("/")`. -/
def trimmed (raw : String) : List Char :=
  stripBy (· == '/') (stripBy isSpace (if hasPrefix raw "s3://" then dropChars 5 raw else raw).toList)

def bucket_and_key_from_prefix (location : String) : String × String :=
  let raw := trimmed location
  if raw = [] then (DEFAULT_BUCKET,"")
  else (.ofList (raw.takeWhile (· ≠ '/')),rstripChar '/' (.ofList ((raw.dropWhile (· ≠ '/')).drop 1)))

def build_artifact_uri (bucket key : String) : String := "s3://" ++ bucket ++ "/" ++ key

/-- The key of an artifact under the prefix of the run. -/
def artifact_key (directory name : String) : String := if directory = "" then name else directory ++ "/" ++ name

/-- What becomes of one upload; it is refused where credentials are missing, too. -/
inductive Upload where
  | stored
  | refused
  | raised (failure : Failure)

def upload_text_artifact (bucket key : String) : Upload → Except Failure (Option String)
  | .stored => .ok (some (build_artifact_uri bucket key))
  | .refused => .ok none
  | .raised failure => .error failure

inductive ExecutionRunStatus where
  | passed
  | failed
  | timeout
  deriving DecidableEq

structure ExecutionRunWorkflowOutput where
  status : ExecutionRunStatus
  exit_code : Option Int
  stdout_uri : Option String
  stderr_uri : Option String
  duration_seconds : String
  runner_id : Option String
  failure_reason : Option String
  deriving DecidableEq

/-- What one attempt of the activity meets. -/
structure SshSession where
  credentials : Except Failure SSHCred
  remote : Remote
  stdout_upload : Upload
  stderr_upload : Upload
  duration_seconds : String

/-- The status, the exit code and the reason that a session gives. -/
def session_status : Except String RunResult → ExecutionRunStatus × Option Int × Option String
  | .ok result =>
    if result.exit_code = 0 then (.passed,some result.exit_code,none)
    else (.failed,some result.exit_code,some "non_zero_exit")
  | .error cause =>
    if contains (lower cause) "timed out" then (.timeout,none,some "timeout")
    else (.failed,none,some "runner_unreachable")

def unreachable (runner_id : Option String) : ExecutionRunWorkflowOutput where
  status := .failed
  exit_code := none
  stdout_uri := none
  stderr_uri := none
  duration_seconds := "0.0"
  runner_id := runner_id
  failure_reason := some "runner_unreachable"

/-- The result, once the artifacts are uploaded: a run that passed fails without them. -/
def with_artifacts (input : SshRunTestInput) (session : SshSession) (outcome : ExecutionRunStatus × Option Int × Option String)
    (stdout_uri stderr_uri : Option String) : ExecutionRunWorkflowOutput :=
  let missing := (stdout_uri.isNone || stderr_uri.isNone) && outcome.1 == .passed
  { status := if missing then .failed else outcome.1
    exit_code := outcome.2.1
    stdout_uri, stderr_uri
    duration_seconds := session.duration_seconds
    runner_id := input.runner_id
    failure_reason := if missing then some "artifact_upload_failed" else outcome.2.2 }

def artifact_object (input : SshRunTestInput) (name : String) : String × String :=
  let target := bucket_and_key_from_prefix (input.artifact_minio_prefix.getD "")
  (target.1,artifact_key target.2 name)

def upload_artifact (input : SshRunTestInput) (name : String) (upload : Upload) : Except Failure (Option String) :=
  upload_text_artifact (artifact_object input name).1 (artifact_object input name).2 upload

def ssh_run_test (py : Python) (environ : Environ) (input : SshRunTestInput) (session : SshSession) :
    Except Failure ExecutionRunWorkflowOutput :=
  match session.credentials with
  | .error _ => .ok (unreachable input.runner_id)
  | .ok _ => do
    let command ← ssh_remote_command py environ input
    let outcome := session_status (ssh_execute_command command.timeout_seconds session.remote)
    let stdout_uri ← upload_artifact input "stdout.txt" session.stdout_upload
    let stderr_uri ← upload_artifact input "stderr.txt" session.stderr_upload
    return with_artifacts input session outcome stdout_uri stderr_uri

/-- The command that an attempt runs, if it comes to that. -/
def session_command (py : Python) (environ : Environ) (input : SshRunTestInput) (session : SshSession) : Option RemoteCommand :=
  match session.credentials, ssh_remote_command py environ input with
  | .ok _, .ok command => some command
  | _, _ => none

def Upload.raises : Upload → Bool
  | .raised _ => true
  | _ => false

/-- The URI of an artifact that does not fail. -/
def artifact_uri (input : SshRunTestInput) (name : String) : Upload → Option String
  | .stored => some (build_artifact_uri (artifact_object input name).1 (artifact_object input name).2)
  | _ => none

/-- The result of an attempt that has run its command and whose uploads do not raise. -/
def session_result (input : SshRunTestInput) (session : SshSession) (command : RemoteCommand) : ExecutionRunWorkflowOutput :=
  with_artifacts input session (session_status (ssh_execute_command command.timeout_seconds session.remote))
    (artifact_uri input "stdout.txt" session.stdout_upload) (artifact_uri input "stderr.txt" session.stderr_upload)

section
variable {py : Python} {environ : Environ} {input : SshRunTestInput} {session : SshSession}

theorem ssh_run_test_runs {command : RemoteCommand} (runs : session_command py environ input session = some command) :
    ((session.stdout_upload.raises || session.stderr_upload.raises) = true ∧
        ∃ failure, ssh_run_test py environ input session = .error failure) ∨
      ((session.stdout_upload.raises || session.stderr_upload.raises) = false ∧
        ssh_run_test py environ input session = .ok (session_result input session command)) := by
  unfold session_command at runs
  unfold ssh_run_test
  cases credentials : session.credentials with
  | error exc => simp [credentials] at runs
  | ok cred =>
    cases remote_command : ssh_remote_command py environ input with
    | error failure => simp [credentials,remote_command] at runs
    | ok sent =>
      have same : sent = command := by simpa [credentials,remote_command] using runs
      subst same
      cases stdout : session.stdout_upload with
      | raised failure => exact Or.inl ⟨rfl,failure,rfl⟩
      | stored =>
        cases stderr : session.stderr_upload with
        | raised failure => exact Or.inl ⟨rfl,failure,rfl⟩
        | stored => exact Or.inr ⟨rfl,by simp only [session_result,stdout,stderr]; rfl⟩
        | refused => exact Or.inr ⟨rfl,by simp only [session_result,stdout,stderr]; rfl⟩
      | refused =>
        cases stderr : session.stderr_upload with
        | raised failure => exact Or.inl ⟨rfl,failure,rfl⟩
        | stored => exact Or.inr ⟨rfl,by simp only [session_result,stdout,stderr]; rfl⟩
        | refused => exact Or.inr ⟨rfl,by simp only [session_result,stdout,stderr]; rfl⟩

theorem session_status_error (cause : String) :
    (session_status (.error cause)).1 ≠ .passed ∧ (session_status (.error cause)).2.1 = none := by
  unfold session_status
  by_cases late : contains (lower cause) "timed out" = true
  · simp [late]
  · simp [late]

/-- The command has ended with exit code 0. -/
def Remote.Succeeds (remote : Remote) : Prop := ∃ stdout stderr, remote = .exited stdout stderr 0

theorem execute_error_or_exited (timeout_seconds : Int) (remote : Remote) :
    (∃ cause, ssh_execute_command timeout_seconds remote = .error cause ∧ ¬remote.Succeeds) ∨
      ∃ stdout stderr exit_code, remote = .exited stdout stderr exit_code := by
  cases remote with
  | unparsable_key message => exact Or.inl ⟨_,rfl,by rintro ⟨_,_,same⟩; cases same⟩
  | not_connected error => exact Or.inl ⟨_,rfl,by rintro ⟨_,_,same⟩; cases same⟩
  | interrupted error => exact Or.inl ⟨_,rfl,by rintro ⟨_,_,same⟩; cases same⟩
  | exited stdout stderr exit_code => exact Or.inr ⟨_,_,_,rfl⟩

theorem succeeds_exited (stdout stderr : String) (exit_code : Int) :
    (Remote.exited stdout stderr exit_code).Succeeds ↔ exit_code = 0 := by
  constructor
  · rintro ⟨_,_,same⟩
    cases same
    rfl
  · intro zero
    rw [zero]
    exact ⟨stdout,stderr,rfl⟩

theorem session_exit_zero {command : RemoteCommand} :
    (session_result input session command).exit_code = some 0 ↔ session.remote.Succeeds := by
  obtain ⟨cause,failed,unsuccessful⟩ | ⟨stdout,stderr,exit_code,exited⟩ :=
    execute_error_or_exited command.timeout_seconds session.remote
  · have no_code : (session_result input session command).exit_code = none := by
      rw [session_result,failed]
      exact (session_status_error cause).2
    simp only [no_code,unsuccessful]
    simp
  · rw [session_result,exited,succeeds_exited]
    by_cases zero : exit_code = 0
    · simp [with_artifacts,ssh_execute_command,session_status,zero]
    · simp [with_artifacts,ssh_execute_command,session_status,zero]

theorem artifact_uri_isNone (name : String) (upload : Upload) :
    (artifact_uri input name upload).isNone = true ↔ upload ≠ .stored := by
  cases upload <;> simp [artifact_uri]

theorem session_passes {command : RemoteCommand} :
    (session_result input session command).status = .passed ↔
      session.remote.Succeeds ∧ session.stdout_upload = .stored ∧ session.stderr_upload = .stored := by
  have uris : ∀ name upload, (artifact_uri input name upload).isNone = true ↔ upload ≠ .stored := artifact_uri_isNone
  obtain ⟨cause,failed,unsuccessful⟩ | ⟨stdout,stderr,exit_code,exited⟩ :=
    execute_error_or_exited command.timeout_seconds session.remote
  · have unpassed := (session_status_error cause).1
    rw [session_result,failed]
    simp [with_artifacts,unsuccessful,unpassed]
  · rw [session_result,exited,succeeds_exited]
    by_cases zero : exit_code = 0
    · by_cases stored : session.stdout_upload = .stored ∧ session.stderr_upload = .stored
      · simp [with_artifacts,ssh_execute_command,session_status,zero,stored,artifact_uri]
      · have missing : (artifact_uri input "stdout.txt" session.stdout_upload).isNone = true ∨
            (artifact_uri input "stderr.txt" session.stderr_upload).isNone = true := by
          rw [uris,uris]
          exact not_and_or.mp stored
        rcases missing with out | err
        · simp [with_artifacts,ssh_execute_command,session_status,zero,stored,out]
        · simp [with_artifacts,ssh_execute_command,session_status,zero,stored,err]
    · simp [with_artifacts,ssh_execute_command,session_status,zero]

theorem ssh_run_test_idle (idle : session_command py environ input session = none) :
    (∃ failure, ssh_run_test py environ input session = .error failure) ∨
      ssh_run_test py environ input session = .ok (unreachable input.runner_id) := by
  unfold session_command at idle
  unfold ssh_run_test
  cases credentials : session.credentials with
  | error exc => exact Or.inr rfl
  | ok cred =>
    left
    cases remote_command : ssh_remote_command py environ input with
    | error failure => exact ⟨failure,rfl⟩
    | ok command => simp [credentials,remote_command] at idle

end

structure DockerBuildInput where
  dockerfile_path : String
  image_tag : String
  workspace_path : String
  build_timeout_seconds : Int
  workflow_id : String
  runner_id : Option String
  vault_path : Option String

structure DockerBuildResult where
  success : Bool
  image_id : Option String
  error : Option String
  duration_seconds : String

structure DockerRunInput where
  image : String
  command : String
  workspace_path : String
  environment : List (String × String)
  cpu_limit : String
  memory_limit_mb : Int
  timeout_seconds : Int
  max_timeout_seconds : Int
  workflow_id : String
  runner_id : Option String
  vault_path : Option String

structure DockerRunResult where
  container_id : String
  exit_code : Int
  stdout : String
  stderr : String
  log_artifact_uri : Option String

structure DockerCleanupInput where
  container_id : String
  image_id : Option String
  policy : String
  task_succeeded : Bool
  workflow_id : String
  runner_id : Option String
  vault_path : Option String

structure DockerHealthcheckInput where
  workflow_id : String
  runner_id : Option String
  vault_path : Option String

def docker_remote_command (input : DockerRunInput) : RemoteCommand where
  text := " ".intercalate (
    ["docker run","--cpus=" ++ input.cpu_limit,"--memory=" ++ toString input.memory_limit_mb ++ "m",
      "-v " ++ shlex_quote input.workspace_path ++ ":" ++ shlex_quote input.workspace_path ++ ":rw",
      "-w " ++ shlex_quote input.workspace_path] ++
    (input.environment.map fun item => "--env " ++ shlex_quote (item.1 ++ "=" ++ item.2)) ++
    ["--rm=false",shlex_quote input.image,"sh -c " ++ shlex_quote input.command])
  timeout_seconds := min input.timeout_seconds input.max_timeout_seconds

/-- What one attempt of the activity meets: the session of the container, and that of
    the host-wide query for the container created last. -/
structure DockerSession where
  credentials : Except Failure SSHCred
  remote : Remote
  query : Remote
  log_stored : Bool
  timestamp : Nat

/-- The container that `docker ps -lq` names; a `RuntimeError` is passed over. -/
def queried_container : Except ExecError RunResult → Except Failure String
  | .ok result => .ok (if result.exit_code = 0 then strip result.stdout else "")
  | .error (.runtime _) => .ok ""
  | .error (.raised failure) => .error failure

def upload_logs_to_minio (logs workflow_id container_id : String) (session : DockerSession) : Option String :=
  let key_id := AgentMessages.orText (AgentMessages.orText container_id workflow_id) "unknown"
  if logs = "" ∨ session.log_stored = false then none
  else some ("s3://" ++ DEFAULT_BUCKET ++ "/docker-logs/" ++ key_id ++ "/" ++ toString session.timestamp ++ "/container.log")

/-- A run without a container that it knows of. -/
def no_container (stderr : String) : DockerRunResult where
  container_id := ""
  exit_code := -1
  stdout := ""
  stderr := stderr
  log_artifact_uri := none

def docker_run_container (input : DockerRunInput) (session : DockerSession) : Except Failure DockerRunResult :=
  match session.credentials with
  | .error exc => .ok (no_container ("SSH credential fetch failed: " ++ exc.message))
  | .ok _ =>
    match ssh_exec (docker_remote_command input).timeout_seconds session.remote with
    | .error (.runtime message) => .ok (no_container message)
    | .error (.raised failure) => .error failure
    | .ok result => do
      let container_id ← queried_container (ssh_exec 30 session.query)
      return { container_id, exit_code := result.exit_code, stdout := result.stdout, stderr := result.stderr
               log_artifact_uri := upload_logs_to_minio result.stdout input.workflow_id container_id session }

def should_perform_cleanup (policy : String) (task_succeeded : Bool) : Bool :=
  if policy = "always" then true else if policy = "on_success" then task_succeeded else false

def normalize_policy (policy : String) : String :=
  if lower (strip policy) = "delete_on_success" then "on_success" else lower (strip policy)

/-- The decision, and the reason why not. -/
def should_cleanup (policy : String) (exit_code : Option Int) : Bool × Option String :=
  let shown := match exit_code with
    | some code => toString code
    | none => "None"
  if policy = "always" then (true,none)
  else if policy = "on_success" then
    if exit_code = some 0 then (true,none) else (false,some ("policy=on_success,exit_code=" ++ shown))
  else if policy = "never" then (false,some "policy=never")
  else (false,some ("unknown_policy=" ++ policy))

/-- The attempt that an activity ends with: the first that does not raise, or the last
    that its policy allows. -/
def lastAttempt (raises : Nat → Bool) : Nat → Nat → Nat
  | 0, attempt => attempt
  | retries + 1, attempt => if raises attempt then lastAttempt raises retries (attempt + 1) else attempt

end Automation.RunnerActivities
