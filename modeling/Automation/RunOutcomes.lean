import Automation.ExecutionRun

/-!
The two paths of a run beside the mapping that is documented for both. Over SSH the
command gets the limit of the worker's environment, a container the default of its
message, and neither the one that the run asks for. The SSH path knows a timeout by the
text of its cause, and gives a passed run away with its artifacts; the Docker path knows
nothing but exit codes. `alike_iff` says what it takes for a run to keep to the mapping.
-/
namespace Automation.RunOutcomes
open Automation.Effects Automation.PyText Automation.RunnerActivities Automation.ExecutionRun
open Automation.AgentMessages (Failure)

inductive RemoteOutcome where
  | exit (exit_code : Int)
  | command_timeout
  | connection_failure

/-- What becomes of a remote command. -/
def remote_outcome : Remote → RemoteOutcome
  | .exited _ _ exit_code => .exit exit_code
  | .interrupted (.timeout _) => .command_timeout
  | _ => .connection_failure

/-- The mapping that is documented for the result of a run. -/
def Documented : RemoteOutcome → ExecutionRunWorkflowOutput → Prop
  | .exit exit_code, out =>
    if exit_code = 0 then out.status = .passed
    else out.status = .failed ∧ out.failure_reason = some "non_zero_exit"
  | .command_timeout, out => out.status = .timeout
  | .connection_failure, out => out.failure_reason = some "runner_unreachable"

/-- The run has come to its remote command: its end, and the limit that it was given. -/
def Ran (w : Outside) (inp : ExecutionRunWorkflowInput) (resolution : Option RunnerResolution) (remote : Remote)
    (limit : Int) : Prop :=
  if inp.needs_docker = true then
    w.daemon = .ok true ∧ (∃ build_result, w.build = .ok build_result ∧ build_result.success = true) ∧
      (∃ session cred, last_container w (docker_arguments inp resolution) = .ok session ∧
        session.credentials = .ok cred ∧ session.remote = remote) ∧
      limit = (docker_remote_command (docker_arguments inp resolution)).timeout_seconds
  else
    ∃ session command, last_session w (ssh_arguments inp resolution) = .ok session ∧
      session_command w.py w.environ (ssh_arguments inp resolution) session = some command ∧
      session.remote = remote ∧ limit = command.timeout_seconds

/-- The run keeps to the mapping, and its limit is the one that is asked for. -/
def Keeps (w : Outside) (inp : ExecutionRunWorkflowInput) (t : Rat) (remote : Remote) (limit : Int) : Prop :=
  (limit : Rat) = t ∧ ∃ out, (outcome w inp).1 = .ok out ∧ Documented (remote_outcome remote) out

/-- For every timeout that is asked for, and every end of the remote command. -/
def Alike (w : Outside) (inp : ExecutionRunWorkflowInput) : Prop :=
  ∀ t, coerce_timeout inp.start_to_close_timeout = some t → 0 < t →
    ∀ resolution remote limit, Reaches w inp resolution → Ran w inp resolution remote limit → Keeps w inp t remote limit

/-- No upload raises; a success has both its artifacts; and the text of a failed
    connection does not read like a timeout. -/
def SshKeeps (session : SshSession) (limit : Int) : Prop :=
  (session.stdout_upload.raises || session.stderr_upload.raises) = false ∧
    (session.remote.Succeeds → session.stdout_upload = .stored ∧ session.stderr_upload = .stored) ∧
    ∀ cause, ssh_execute_command limit session.remote = .error cause → remote_outcome session.remote = .connection_failure →
      contains (lower cause) "timed out" = false

theorem lower_append (first second : String) : lower (first ++ second) = lower first ++ lower second := by
  simp only [lower,String.toList_append,List.flatMap_append,String.ofList_append]

theorem timed_out_text : "connection or command timed out after " = "connection or command " ++ ("timed out" ++ " after ") := by
  decide

theorem timeout_known (limit : Int) (message : String) :
    contains (lower ((SessionError.timeout message).cause limit)) "timed out" = true := by
  have kept : lower "timed out" = "timed out" := by decide
  have parts : (SessionError.timeout message).cause limit =
      "connection or command " ++ ("timed out" ++ " after ") ++ toString limit ++ "s" := by
    rw [← timed_out_text]
    rfl
  simp only [parts,lower_append,kept,String.append_assoc]
  rw [contains,occurs_iff]
  simp only [String.toList_append]
  exact List.infix_append' _ _ _

section
variable {input : SshRunTestInput} {session : SshSession} {command : RemoteCommand}

theorem session_failed (input : SshRunTestInput) {cause : String}
    (failed : ssh_execute_command command.timeout_seconds session.remote = .error cause) :
    (contains (lower cause) "timed out" = true ∧ (session_result input session command).status = .timeout ∧
        (session_result input session command).failure_reason = some "timeout") ∨
      (contains (lower cause) "timed out" = false ∧
        (session_result input session command).failure_reason = some "runner_unreachable") := by
  rw [session_result,failed]
  by_cases late : contains (lower cause) "timed out" = true
  · left
    simp [with_artifacts,session_status,late]
  · right
    rw [Bool.not_eq_true] at late
    simp [with_artifacts,session_status,late]

theorem session_exited {stdout stderr : String} {exit_code : Int} (exited : session.remote = .exited stdout stderr exit_code)
    (nonzero : exit_code ≠ 0) :
    (session_result input session command).status = .failed ∧
      (session_result input session command).failure_reason = some "non_zero_exit" := by
  rw [session_result,exited]
  simp [with_artifacts,ssh_execute_command,session_status,nonzero]

theorem failure_documented {remote : Remote} {cause : String}
    (failed : ssh_execute_command command.timeout_seconds session.remote = .error cause) (same : session.remote = remote)
    (connection : remote_outcome remote = .connection_failure) :
    Documented (remote_outcome remote) (session_result input session command) ↔
      (remote.Succeeds → session.stdout_upload = .stored ∧ session.stderr_upload = .stored) ∧
        ∀ cause, ssh_execute_command command.timeout_seconds remote = .error cause →
          remote_outcome remote = .connection_failure → contains (lower cause) "timed out" = false := by
  have unsuccessful : ¬remote.Succeeds := by
    rintro ⟨_,_,exited⟩
    rw [same,exited] at failed
    cases failed
  rw [connection]
  obtain ⟨late,_,reason⟩ | ⟨unread,reason⟩ := session_failed input failed
  · refine iff_of_false ?_ ?_
    · intro documented
      rw [Documented,reason] at documented
      exact absurd documented (by decide)
    · rintro ⟨_,unread⟩
      rw [same] at failed
      exact absurd (late.symm.trans (unread cause failed rfl)) (by decide)
  · refine iff_of_true reason ⟨fun succeeds => absurd succeeds unsuccessful,?_⟩
    intro other again _
    rw [same] at failed
    cases failed.symm.trans again
    exact unread

theorem session_documented (returns : (session.stdout_upload.raises || session.stderr_upload.raises) = false) :
    Documented (remote_outcome session.remote) (session_result input session command) ↔
      SshKeeps session command.timeout_seconds := by
  rw [SshKeeps,returns]
  simp only [true_and]
  cases remote : session.remote with
  | exited stdout stderr exit_code =>
    have no_cause : ∀ cause, ssh_execute_command command.timeout_seconds (.exited stdout stderr exit_code) ≠ .error cause := by
      intro cause same
      cases same
    simp only [remote_outcome,Documented,no_cause,false_implies,forall_const,and_true]
    by_cases zero : exit_code = 0
    · rw [if_pos zero,session_passes,remote,succeeds_exited]
      simp only [zero,true_and,forall_const]
    · rw [if_neg zero,succeeds_exited]
      simp only [zero,false_implies,iff_true]
      exact session_exited remote zero
  | unparsable_key message =>
    have failed : ssh_execute_command command.timeout_seconds session.remote =
        .error ("unable to parse private key: " ++ message) := by rw [remote]; rfl
    exact failure_documented failed remote rfl
  | not_connected error =>
    have failed : ssh_execute_command command.timeout_seconds session.remote =
        .error (error.cause command.timeout_seconds) := by rw [remote]; rfl
    exact failure_documented failed remote rfl
  | interrupted error =>
    cases error with
    | authentication message => exact failure_documented (by rw [remote]; rfl) remote rfl
    | ssh message => exact failure_documented (by rw [remote]; rfl) remote rfl
    | network message => exact failure_documented (by rw [remote]; rfl) remote rfl
    | timeout message =>
      have failed : ssh_execute_command command.timeout_seconds session.remote =
          .error ((SessionError.timeout message).cause command.timeout_seconds) := by rw [remote]; rfl
      obtain ⟨_,status,_⟩ | ⟨unknown,_⟩ := session_failed input failed
      · refine iff_of_true status ⟨?_,fun cause _ connection => ?_⟩
        · rintro ⟨_,_,same⟩
          cases same
        · cases connection
      · exact absurd ((timeout_known command.timeout_seconds message).symm.trans unknown) (by decide)

end

theorem session_command_limit {w : Outside} {input : SshRunTestInput} {session : SshSession} {command : RemoteCommand}
    (runs : session_command w.py w.environ input session = some command) :
    command.timeout_seconds = resolve_command_timeout_seconds w.environ := by
  unfold session_command ssh_remote_command at runs
  cases credentials : session.credentials with
  | error exc => simp [credentials] at runs
  | ok cred =>
    cases quoted : shell_quote_environment w.py input.env with
    | error failure => simp [credentials,quoted] at runs
    | ok assignments =>
      simp only [credentials,quoted,Option.some.injEq] at runs
      rw [← runs]

section
variable {w : Outside} {inp : ExecutionRunWorkflowInput} {resolution : Option RunnerResolution}

theorem outcome_ssh (reaches : Reaches w inp resolution) (bare : ¬inp.needs_docker = true) :
    (outcome w inp).1 = (last_session w (ssh_arguments inp resolution) >>=
      ssh_run_test w.py w.environ (ssh_arguments inp resolution)) := by
  obtain ⟨_,_,_,_,commands⟩ := outcome_commands reaches
  generalize (outcome w inp).1 = ended at commands
  cases commands with
  | ssh _ => rfl
  | no_daemon docker _ => exact absurd docker bare
  | build_raised docker _ _ => exact absurd docker bare
  | build_failed docker _ _ _ => exact absurd docker bare
  | container docker _ _ _ => exact absurd docker bare

theorem ssh_keeps (reaches : Reaches w inp resolution) (bare : ¬inp.needs_docker = true) {session : SshSession}
    {command : RemoteCommand} (found : last_session w (ssh_arguments inp resolution) = .ok session)
    (runs : session_command w.py w.environ (ssh_arguments inp resolution) session = some command) :
    (∃ out, (outcome w inp).1 = .ok out ∧ Documented (remote_outcome session.remote) out) ↔
      SshKeeps session (resolve_command_timeout_seconds w.environ) := by
  rw [outcome_ssh reaches bare,found,← session_command_limit runs]
  change (∃ out, ssh_run_test w.py w.environ (ssh_arguments inp resolution) session = .ok out ∧ _) ↔ _
  obtain ⟨raises,failure,failed⟩ | ⟨returns,result⟩ := ssh_run_test_runs runs
  · rw [failed]
    refine iff_of_false ?_ fun keeps => ?_
    · rintro ⟨out,ok,_⟩
      cases ok
    · exact absurd (raises.symm.trans keeps.1) (by decide)
  · rw [result,← session_documented returns]
    constructor
    · rintro ⟨out,ok,documented⟩
      cases ok
      exact documented
    · intro documented
      exact ⟨_,rfl,documented⟩

/-- The command exits, and the query for its container connects. -/
def DockerKeeps (session : DockerSession) : Prop :=
  (∃ stdout stderr exit_code, session.remote = .exited stdout stderr exit_code) ∧ ∀ error, session.query ≠ .not_connected error

theorem outcome_docker (reaches : Reaches w inp resolution) (docker : inp.needs_docker = true) (available : w.daemon = .ok true)
    {build_result : DockerBuildResult} (built : w.build = .ok build_result) (success : build_result.success = true) :
    (outcome w inp).1 = (last_container w (docker_arguments inp resolution) >>=
      docker_run_container (docker_arguments inp resolution)).map
        (docker_output (resolved_runner_id inp resolution) build_result) := by
  obtain ⟨_,_,_,_,commands⟩ := outcome_commands reaches
  generalize (outcome w inp).1 = ended at commands
  cases commands with
  | ssh bare => exact absurd (docker.symm.trans bare) (by decide)
  | no_daemon _ unavailable => exact absurd available unavailable
  | build_raised _ _ raised => cases built.symm.trans raised
  | build_failed _ _ other failed =>
    cases built.symm.trans other
    exact absurd (success.symm.trans failed) (by decide)
  | container _ _ other _ =>
    cases built.symm.trans other
    rfl

theorem no_container_undocumented (runner_id : Option String) (build_result : DockerBuildResult) (stderr : String)
    {remote : Remote} (unexited : ∀ stdout stderr exit_code, remote ≠ .exited stdout stderr exit_code) :
    ¬Documented (remote_outcome remote) (docker_output runner_id build_result (no_container stderr)) := by
  have status : (docker_output runner_id build_result (no_container stderr)).status = .failed := rfl
  have reason : (docker_output runner_id build_result (no_container stderr)).failure_reason = some "non_zero_exit" := rfl
  cases outcome : remote_outcome remote with
  | exit exit_code =>
    cases remote with
    | exited stdout stderr code => exact absurd rfl (unexited stdout stderr code)
    | unparsable_key message => cases outcome
    | not_connected error => cases outcome
    | interrupted error => cases error <;> cases outcome
  | command_timeout =>
    rw [Documented,status]
    decide
  | connection_failure =>
    rw [Documented,reason]
    decide

theorem docker_documented (runner_id : Option String) (build_result : DockerBuildResult) {result : DockerRunResult}
    {exit_code : Int} (exited : result.exit_code = exit_code) :
    Documented (.exit exit_code) (docker_output runner_id build_result result) := by
  rw [Documented,docker_output,exited]
  by_cases zero : exit_code = 0
  · simp [zero]
  · simp [zero]

theorem attempt_documented (input : DockerRunInput) (runner_id : Option String) (build_result : DockerBuildResult)
    {session : DockerSession} {cred : SSHCred} (credentials : session.credentials = .ok cred) :
    (∃ out, (docker_run_container input session).map (docker_output runner_id build_result) = .ok out ∧
        Documented (remote_outcome session.remote) out) ↔ DockerKeeps session := by
  unfold docker_run_container DockerKeeps
  rw [credentials]
  cases remote : session.remote with
  | unparsable_key message =>
    refine iff_of_false ?_ (by rintro ⟨⟨_,_,_,same⟩,_⟩; cases same)
    rintro ⟨out,ok,documented⟩
    cases ok
    exact no_container_undocumented _ _ _ (by intro _ _ _ same; cases same) documented
  | not_connected error =>
    refine iff_of_false ?_ (by rintro ⟨⟨_,_,_,same⟩,_⟩; cases same)
    rintro ⟨out,ok,documented⟩
    cases ok
  | interrupted error =>
    refine iff_of_false ?_ (by rintro ⟨⟨_,_,_,same⟩,_⟩; cases same)
    rintro ⟨out,ok,documented⟩
    cases ok
    exact no_container_undocumented _ _ _ (by intro _ _ _ same; cases same) documented
  | exited stdout stderr exit_code =>
    cases query : session.query with
    | not_connected error =>
      refine iff_of_false ?_ fun keeps => keeps.2 error rfl
      rintro ⟨out,ok,_⟩
      cases ok
    | unparsable_key message =>
      exact iff_of_true ⟨_,rfl,docker_documented _ _ rfl⟩ ⟨⟨_,_,_,rfl⟩,by intro _ same; cases same⟩
    | interrupted error =>
      exact iff_of_true ⟨_,rfl,docker_documented _ _ rfl⟩ ⟨⟨_,_,_,rfl⟩,by intro _ same; cases same⟩
    | exited _ _ _ =>
      exact iff_of_true ⟨_,rfl,docker_documented _ _ rfl⟩ ⟨⟨_,_,_,rfl⟩,by intro _ same; cases same⟩

/-- What a run must meet to keep to the mapping with the limit `t`. -/
def KeepsWhen (w : Outside) (inp : ExecutionRunWorkflowInput) (t : Rat) (resolution : Option RunnerResolution) : Prop :=
  if inp.needs_docker = true then
    ∀ build_result session cred, w.daemon = .ok true → w.build = .ok build_result → build_result.success = true →
      last_container w (docker_arguments inp resolution) = .ok session → session.credentials = .ok cred →
      t = 1800 ∧ DockerKeeps session
  else
    ∀ session command, last_session w (ssh_arguments inp resolution) = .ok session →
      session_command w.py w.environ (ssh_arguments inp resolution) session = some command →
      (resolve_command_timeout_seconds w.environ : Rat) = t ∧ SshKeeps session (resolve_command_timeout_seconds w.environ)

/-- A run that comes to its command keeps to the mapping exactly under `KeepsWhen`. -/
theorem run_keeps (reaches : Reaches w inp resolution) (t : Rat) :
    (∀ remote limit, Ran w inp resolution remote limit → Keeps w inp t remote limit) ↔ KeepsWhen w inp t resolution := by
  by_cases docker : inp.needs_docker = true
  · simp only [Ran,KeepsWhen,if_pos docker]
    have limit : ((docker_remote_command (docker_arguments inp resolution)).timeout_seconds : Rat) = 1800 := rfl
    constructor
    · intro all build_result session cred available built success found credentials
      obtain ⟨asked,documented⟩ := all session.remote _
        ⟨available,⟨build_result,built,success⟩,⟨session,cred,found,credentials,rfl⟩,rfl⟩
      rw [outcome_docker reaches docker available built success,found] at documented
      exact ⟨asked.symm.trans limit,(attempt_documented _ _ build_result credentials).mp documented⟩
    · rintro all remote _ ⟨available,⟨build_result,built,success⟩,⟨session,cred,found,credentials,rfl⟩,rfl⟩
      obtain ⟨asked,keeps⟩ := all build_result session cred available built success found credentials
      refine ⟨limit.trans asked.symm,?_⟩
      rw [outcome_docker reaches docker available built success,found]
      exact (attempt_documented _ _ build_result credentials).mpr keeps
  · simp only [Ran,KeepsWhen,if_neg docker]
    constructor
    · intro all session command found runs
      obtain ⟨asked,documented⟩ := all session.remote _ ⟨session,command,found,runs,rfl,rfl⟩
      rw [session_command_limit runs] at asked
      exact ⟨asked,(ssh_keeps reaches docker found runs).mp documented⟩
    · rintro all remote _ ⟨session,command,found,runs,rfl,rfl⟩
      obtain ⟨asked,keeps⟩ := all session command found runs
      rw [Keeps,session_command_limit runs]
      exact ⟨asked,(ssh_keeps reaches docker found runs).mpr keeps⟩

end

theorem quote_no_environment (py : AgentMessages.Python) : shell_quote_environment py [] = .ok "" := by
  simp [shell_quote_environment]

theorem bare_runs {py : AgentMessages.Python} {environ : Environ} {input : SshRunTestInput} {session : SshSession}
    {cred : SSHCred} (credentials : session.credentials = .ok cred) (bare : input.env = []) :
    session_command py environ input session =
      some ⟨build_full_command input.command input.workdir "",resolve_command_timeout_seconds environ⟩ := by
  simp only [session_command,ssh_remote_command,credentials,bare,quote_no_environment]

end Automation.RunOutcomes
