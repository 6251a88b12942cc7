import Automation.ExecutionRun

/-!
The cleanup after a run. It is decided twice: for the container and its image from the
status and the policy as the environment has it, and for the workspace from the exit code
and the policy under either key, in its normal form. The two are one decision exactly if
they agree on the run's end (`one_decision_iff`).
-/
namespace Automation.CleanupDecision
open Automation.Effects Automation.RunnerActivities Automation.ExecutionRun
open Automation.AgentMessages (Failure)

/-- Whether a call removes the container and its image. -/
def container_decision : Call → Option Bool
  | .docker_cleanup_container input => some (should_perform_cleanup input.policy input.task_succeeded)
  | _ => none

/-- Whether a call removes the workspace. -/
def workspace_decision : Call → Option Bool
  | .apply_cleanup_policy input => some (should_cleanup (normalize_policy input.policy) input.exit_code).1
  | _ => none

def containers (log : List Call) : List Bool := log.filterMap container_decision

def removes_workspace (log : List Call) : Bool := (log.filterMap workspace_decision).any id

/-- The policy of a run, in its normal form. -/
def policy (inp : ExecutionRunWorkflowInput) : String := normalize_policy (workspace_policy inp)

/-- The run ends with the status `passed`. -/
def Passes (ended : Except Failure ExecutionRunWorkflowOutput) : Prop := ∃ out, ended = .ok out ∧ out.status = .passed

/-- The container and the image go with the workspace, and after a success they all go
    exactly if the run has passed. -/
structure OneDecision (w : Outside) (inp : ExecutionRunWorkflowInput) : Prop where
  together : ∀ removed ∈ containers (outcome w inp).2, removed = removes_workspace (outcome w inp).2
  on_success : policy inp = "on_success" → (removes_workspace (outcome w inp).2 = true ↔ Passes (outcome w inp).1)

theorem containers_append (first second : List Call) : containers (first ++ second) = containers first ++ containers second :=
  List.filterMap_append

theorem removes_append (first second : List Call) :
    removes_workspace (first ++ second) = (removes_workspace first || removes_workspace second) := by
  simp only [removes_workspace,List.filterMap_append,List.any_append]

theorem containers_preliminary {log : List Call} (before : ∀ c ∈ log, Preliminary c) : containers log = [] := by
  rw [containers,List.filterMap_eq_nil_iff]
  intro c member
  have preliminary := before c member
  cases c <;> first | rfl | exact preliminary.elim

theorem removes_preliminary {log : List Call} (before : ∀ c ∈ log, Preliminary c) : removes_workspace log = false := by
  have none_decided : log.filterMap workspace_decision = [] := by
    rw [List.filterMap_eq_nil_iff]
    intro c member
    have preliminary := before c member
    cases c <;> first | rfl | exact preliminary.elim
  rw [removes_workspace,none_decided]
  rfl

/-- The container goes whenever it is asked for, and after a success for `on_success`, too. -/
theorem should_perform_iff (policy : String) (task_succeeded : Bool) :
    should_perform_cleanup policy task_succeeded = true ↔
      policy = "always" ∨ policy = "on_success" ∧ task_succeeded = true := by
  unfold should_perform_cleanup
  by_cases always : policy = "always"
  · simp [always]
  · by_cases success : policy = "on_success"
    · simp [success]
    · simp [always,success]

theorem should_cleanup_iff (policy : String) (exit_code : Option Int) :
    (should_cleanup policy exit_code).1 = true ↔ policy = "always" ∨ policy = "on_success" ∧ exit_code = some 0 := by
  unfold should_cleanup
  by_cases always : policy = "always"
  · simp [always]
  · by_cases success : policy = "on_success"
    · by_cases zero : exit_code = some 0
      · simp [success,zero]
      · simp [success,zero]
    · by_cases never : policy = "never"
      · simp [never]
      · simp [always,success,never]

theorem removes_workspace_calls (inp : ExecutionRunWorkflowInput) (resolution : Option RunnerResolution)
    (ended : Except Failure ExecutionRunWorkflowOutput) :
    removes_workspace (workspace_calls inp resolution ended) = true ↔
      ∃ out, ended = .ok out ∧ (policy inp = "always" ∨ policy inp = "on_success" ∧ out.exit_code = some 0) := by
  cases ended with
  | error failure => simp [workspace_calls,removes_workspace]
  | ok out =>
    have decided : removes_workspace (workspace_calls inp resolution (.ok out)) =
        (should_cleanup (policy inp) out.exit_code).1 := by
      simp only [workspace_calls,removes_workspace,List.filterMap_cons,workspace_decision,List.filterMap_nil,
        List.any_cons,List.any_nil,Bool.or_false,id_eq]
      rfl
    rw [decided,should_cleanup_iff]
    constructor
    · intro removes
      exact ⟨out,rfl,removes⟩
    · rintro ⟨_,same,removes⟩
      cases same
      exact removes

/-- The command has ended with exit code 0, and an artifact of it is refused. -/
def LostArtifact (w : Outside) (input : SshRunTestInput) : Prop :=
  ∃ session, last_session w input = .ok session ∧ (session_command w.py w.environ input session).isSome = true ∧
    session.remote.Succeeds ∧ (session.stdout_upload.raises || session.stderr_upload.raises) = false ∧
    ¬(session.stdout_upload = .stored ∧ session.stderr_upload = .stored)

/-- What the two policies must be for the end of a container. -/
def ContainerAgrees (inp : ExecutionRunWorkflowInput) : Except Failure DockerRunResult → Prop
  | .error _ => container_policy inp ≠ "always"
  | .ok result =>
    if result.exit_code = 0 then
      (container_policy inp = "always" ∨ container_policy inp = "on_success") ↔ (policy inp = "always" ∨ policy inp = "on_success")
    else container_policy inp = "always" ↔ policy inp = "always"

/-- What the run must be for its decisions to agree. -/
def Agrees (w : Outside) (inp : ExecutionRunWorkflowInput) (resolution : Option RunnerResolution) : Prop :=
  if inp.needs_docker = true then
    ∀ build_result, w.daemon = .ok true → w.build = .ok build_result → build_result.success = true →
      ContainerAgrees inp (retried (docker_attempt w (docker_arguments inp resolution)))
  else policy inp = "on_success" → ¬LostArtifact w (ssh_arguments inp resolution)

section
variable {w : Outside} {inp : ExecutionRunWorkflowInput} {resolution : Option RunnerResolution}

theorem ssh_exit_iff {input : SshRunTestInput} {out : ExecutionRunWorkflowOutput}
    (ended : retried (ssh_attempt w input) = .ok out) :
    (out.exit_code = some 0 ↔ out.status = .passed) ↔ ¬LostArtifact w input := by
  have attempted : (last_session w input >>= ssh_run_test w.py w.environ input) = .ok out := ended
  cases found : last_session w input with
  | error failure =>
    rw [found] at attempted
    cases attempted
  | ok session =>
    rw [found] at attempted
    have ran : ssh_run_test w.py w.environ input session = .ok out := attempted
    have lost : LostArtifact w input ↔ (session_command w.py w.environ input session).isSome = true ∧
        session.remote.Succeeds ∧ (session.stdout_upload.raises || session.stderr_upload.raises) = false ∧
        ¬(session.stdout_upload = .stored ∧ session.stderr_upload = .stored) := by
      constructor
      · rintro ⟨other,same,rest⟩
        cases found.symm.trans same
        exact rest
      · intro rest
        exact ⟨session,found,rest⟩
    rw [lost]
    cases command : session_command w.py w.environ input session with
    | none =>
      obtain ⟨failure,failed⟩ | idle := ssh_run_test_idle command
      · cases failed.symm.trans ran
      · cases idle.symm.trans ran
        simp [unreachable]
    | some sent =>
      obtain ⟨_,failure,failed⟩ | ⟨returns,result⟩ := ssh_run_test_runs command
      · cases failed.symm.trans ran
      · cases result.symm.trans ran
        rw [session_exit_zero,session_passes,returns]
        by_cases stored : session.stdout_upload = .stored ∧ session.stderr_upload = .stored
        · simp [stored]
        · simp [stored]

variable {ended : Except Failure ExecutionRunWorkflowOutput}

theorem commands_keep_workspace {calls : List Call}
    (commands : Commands w inp resolution calls ended) : removes_workspace calls = false := by
  cases commands <;> rfl

theorem lost_returns {input : SshRunTestInput} (lost : LostArtifact w input) :
    ∃ out, retried (ssh_attempt w input) = .ok out := by
  obtain ⟨session,found,runs,_,returns,_⟩ := lost
  obtain ⟨sent,command⟩ := Option.isSome_iff_exists.mp runs
  obtain ⟨raises,_⟩ | ⟨_,result⟩ := ssh_run_test_runs command
  · rw [returns] at raises
    cases raises
  · refine ⟨session_result input session sent,?_⟩
    change (last_session w input >>= ssh_run_test w.py w.environ input) = _
    rw [found]
    exact result

/-- The decisions of a run that comes to its command. -/
theorem decided (reaches : Reaches w inp resolution) :
    ∃ calls, Commands w inp resolution calls (outcome w inp).1 ∧
      containers (outcome w inp).2 = containers calls ∧
      removes_workspace (outcome w inp).2 = removes_workspace (workspace_calls inp resolution (outcome w inp).1) := by
  obtain ⟨log,calls,before,record,commands⟩ := outcome_commands reaches
  have no_container : containers (workspace_calls inp resolution (outcome w inp).1) = [] := by
    cases (outcome w inp).1 with
    | error failure => rfl
    | ok out => rfl
  have no_workspace := commands_keep_workspace commands
  refine ⟨calls,commands,?_,?_⟩
  · rw [record,containers_append,containers_append,containers_preliminary before,no_container,List.nil_append,List.append_nil]
  · rw [record,removes_append,removes_append,removes_preliminary before,no_workspace,Bool.false_or,Bool.false_or]

theorem no_container_decided {calls : List Call}
    (none_decided : containers calls = []) (fits : ∀ out, ended = .ok out → (out.exit_code = some 0 ↔ out.status = .passed)) :
    (∀ removed ∈ containers calls, removed = removes_workspace (workspace_calls inp resolution ended)) ∧
      (policy inp = "on_success" →
        (removes_workspace (workspace_calls inp resolution ended) = true ↔ Passes ended)) := by
  rw [none_decided]
  refine ⟨fun removed member => absurd member List.not_mem_nil,fun success => ?_⟩
  rw [removes_workspace_calls,success]
  constructor
  · rintro ⟨out,ok,always | ⟨_,zero⟩⟩
    · exact absurd always (by decide)
    · exact ⟨out,ok,(fits out ok).mp zero⟩
  · rintro ⟨out,ok,passed⟩
    exact ⟨out,ok,Or.inr ⟨rfl,(fits out ok).mpr passed⟩⟩

theorem ssh_agrees_iff {input : SshRunTestInput} (success : policy inp = "on_success") :
    (removes_workspace (workspace_calls inp resolution (retried (ssh_attempt w input))) = true ↔
      Passes (retried (ssh_attempt w input))) ↔ ¬LostArtifact w input := by
  constructor
  · intro decides lost
    obtain ⟨out,ended⟩ := lost_returns lost
    refine (ssh_exit_iff ended).mp ?_ lost
    rw [removes_workspace_calls,success] at decides
    constructor
    · intro zero
      obtain ⟨same,ok,passed⟩ := decides.mp ⟨out,ended,Or.inr ⟨rfl,zero⟩⟩
      cases ended.symm.trans ok
      exact passed
    · intro passed
      obtain ⟨same,ok,always | ⟨_,zero⟩⟩ := decides.mpr ⟨out,ended,passed⟩
      · exact absurd always (by decide)
      · cases ended.symm.trans ok
        exact zero
  · intro kept
    have undecided : containers [] = [] := rfl
    refine (no_container_decided undecided ?_).2 success
    intro out ended
    exact (ssh_exit_iff ended).mpr kept

theorem container_removed (build_result : DockerBuildResult) (runner_id vault_path : Option String) :
    containers (container_calls w (run_input inp resolution) (effective_command inp) runner_id vault_path build_result) =
      [should_perform_cleanup (container_policy inp)
        (succeeded (container_answer w (run_input inp resolution) (effective_command inp) runner_id vault_path))] := rfl

theorem container_agrees_iff (answer : Except Failure DockerRunResult) (runner_id : Option String)
    (build_result : DockerBuildResult) :
    (should_perform_cleanup (container_policy inp) (succeeded answer) =
        removes_workspace (workspace_calls inp resolution (answer.map (docker_output runner_id build_result)))) ↔
      ContainerAgrees inp answer := by
  rw [Bool.eq_iff_iff,should_perform_iff,removes_workspace_calls]
  cases answer with
  | error failure =>
    simp [Except.map,succeeded,ContainerAgrees]
  | ok result =>
    by_cases zero : result.exit_code = 0
    · simp [Except.map,succeeded,ContainerAgrees,docker_output,zero]
    · simp [Except.map,succeeded,ContainerAgrees,docker_output,zero]

theorem container_passes (answer : Except Failure DockerRunResult) (runner_id : Option String) (build_result : DockerBuildResult)
    (success : policy inp = "on_success") :
    removes_workspace (workspace_calls inp resolution (answer.map (docker_output runner_id build_result))) = true ↔
      Passes (answer.map (docker_output runner_id build_result)) := by
  rw [removes_workspace_calls,success]
  cases answer with
  | error failure => simp [Except.map,Passes]
  | ok result =>
    by_cases zero : result.exit_code = 0
    · simp [Except.map,Passes,docker_output,zero]
    · simp [Except.map,Passes,docker_output,zero]

theorem commands_agree_iff {calls : List Call}
    (commands : Commands w inp resolution calls ended) :
    ((∀ removed ∈ containers calls, removed = removes_workspace (workspace_calls inp resolution ended)) ∧
      (policy inp = "on_success" →
        (removes_workspace (workspace_calls inp resolution ended) = true ↔ Passes ended))) ↔ Agrees w inp resolution := by
  cases commands with
  | ssh bare =>
    have off : ¬inp.needs_docker = true := by simpa [run_input] using bare
    rw [Agrees,if_neg off]
    constructor
    · rintro ⟨_,decides⟩ success
      exact (ssh_agrees_iff success).mp (decides success)
    · intro kept
      exact ⟨fun removed member => absurd member List.not_mem_nil,fun success => (ssh_agrees_iff success).mpr (kept success)⟩
  | no_daemon docker unavailable =>
    have on : inp.needs_docker = true := docker
    rw [Agrees,if_pos on]
    refine iff_of_true (no_container_decided rfl ?_) fun _ available => absurd available unavailable
    intro out same
    cases same
    simp [chain_failed]
  | build_raised docker available raised =>
    have on : inp.needs_docker = true := docker
    rw [Agrees,if_pos on]
    refine iff_of_true (no_container_decided rfl ?_) fun _ _ built => ?_
    · intro out same
      cases same
    · cases raised.symm.trans built
  | build_failed docker available built failed =>
    have on : inp.needs_docker = true := docker
    rw [Agrees,if_pos on]
    refine iff_of_true (no_container_decided rfl ?_) fun _ _ other success => ?_
    · intro out same
      cases same
      simp [chain_failed]
    · cases built.symm.trans other
      exact absurd (failed.symm.trans success) (by decide)
  | @container docker available build_result built success =>
    have on : inp.needs_docker = true := docker
    rw [Agrees,if_pos on,container_removed]
    have agrees : (_ = removes_workspace (workspace_calls inp resolution _)) ↔ ContainerAgrees inp _ := container_agrees_iff
      (retried (docker_attempt w (docker_arguments inp resolution))) (resolved_runner_id inp resolution) build_result
    constructor
    · rintro ⟨together,_⟩ _ _ _ _
      exact agrees.mp (together _ (List.mem_singleton.mpr rfl))
    · intro kept
      refine ⟨?_,fun success => container_passes _ _ build_result success⟩
      intro removed member
      rw [List.mem_singleton.mp member]
      exact agrees.mpr (kept build_result available built success)

end

/-- A run decides once exactly if, where it comes to its command, the policies agree on the
    end of its container, and no artifact of a success is lost under `on_success`. -/
theorem one_decision_iff (w : Outside) (inp : ExecutionRunWorkflowInput) :
    OneDecision w inp ↔ ∀ resolution, Reaches w inp resolution → Agrees w inp resolution := by
  by_cases stops : ∀ resolution, ¬Reaches w inp resolution
  · refine iff_of_true ?_ fun resolution reaches => absurd reaches (stops resolution)
    obtain ⟨preliminary,failed⟩ := outcome_unreached stops
    constructor
    · intro removed member
      rw [containers_preliminary preliminary] at member
      exact absurd member List.not_mem_nil
    · intro _
      rw [removes_preliminary preliminary]
      refine iff_of_false (by decide) ?_
      rintro ⟨out,ok,passed⟩
      cases (failed out ok).symm.trans passed
  · rw [not_forall] at stops
    obtain ⟨resolution,reached⟩ := stops
    have reaches := not_not.mp reached
    obtain ⟨calls,commands,same_containers,same_workspace⟩ := decided reaches
    have agree := commands_agree_iff commands
    constructor
    · rintro ⟨together,on_success⟩ other others
      have same : other = resolution := Option.some.inj (others.runner.symm.trans reaches.runner)
      rw [same_workspace] at together on_success
      rw [same_containers] at together
      rw [same]
      exact agree.mp ⟨together,on_success⟩
    · intro agrees
      obtain ⟨together,on_success⟩ := agree.mpr (agrees resolution reaches)
      constructor
      · rw [same_containers,same_workspace]
        exact together
      · rw [same_workspace]
        exact on_success

/-- The accepted spelling `delete_on_success` keeps the container of a run that passes, and
    removes its workspace. -/
theorem spelling_parts : ¬OneDecision smooth
    { sampleInput with needs_docker := true, environment := [("CLEANUP_POLICY","delete_on_success")] } := by
  rintro ⟨together,_⟩
  exact absurd (together false (by decide)) (by decide)

end Automation.CleanupDecision
