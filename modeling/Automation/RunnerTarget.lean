import Automation.ExecutionRun

/-!
The machine that a run touches. Every activity that connects has its own fallback: the
probe to the host that the environment names, the others to the secret that it names. A
run stays on the runner that was resolved exactly if no probe is lost before another one,
and the secret of the quota check, which is never told the runner's, is the runner's
(`one_runner_iff`).
-/
namespace Automation.RunnerTarget
open Automation.Effects Automation.PyText Automation.RunnerActivities Automation.ExecutionRun
open Automation.AgentMessages (Failure)

/-- The probe goes to the runner's address. A blank host names no machine. -/
def AtHost (environ : Environ) (r : RunnerResolution) (input : SSHHealthcheckInput) : Prop :=
  strip r.host ≠ "" ∧ resolve_ssh_host environ input = (strip r.host,r.port)

/-- The secret that is read is the runner's. -/
def WithSecret (environ : Environ) (r : RunnerResolution) (vault_path : Option String) : Prop :=
  credential_path environ vault_path = bare_path r.vault_path

/-- The activities that connect; the quota check reads a secret without a path of its own. -/
def Targets (environ : Environ) (r : RunnerResolution) : Call → Prop
  | .ssh_healthcheck input => AtHost environ r input
  | .check_disk_quota _ => WithSecret environ r none
  | .ssh_run_test input _ _ => WithSecret environ r input.vault_path
  | .docker_daemon_healthcheck input => WithSecret environ r input.vault_path
  | .docker_build_image input => WithSecret environ r input.vault_path
  | .docker_run_container input => WithSecret environ r input.vault_path
  | .docker_cleanup_container input => WithSecret environ r input.vault_path
  | .apply_cleanup_policy input => WithSecret environ r input.vault_path
  | .resolve_runner _ => True
  | .sleep _ => True

/-- Every call on record stays on the runner. -/
def OnRunner (environ : Environ) (r : RunnerResolution) (log : List Call) : Prop := ∀ c ∈ log, Targets environ r c

theorem onRunner_snoc (environ : Environ) (r : RunnerResolution) (log : List Call) (c : Call) :
    OnRunner environ r (log ++ [c]) ↔ OnRunner environ r log ∧ Targets environ r c := by
  simp only [OnRunner,List.mem_append,List.mem_singleton,or_imp,forall_and,forall_eq]

theorem onRunner_before {environ : Environ} {r : RunnerResolution} {before after : List Call} (extends_log : before <+: after)
    (all : OnRunner environ r after) : OnRunner environ r before := fun c member => all c (extends_log.subset member)

/-- Before that, a probe from `attempt` on fails to answer and is followed by another. -/
def probe_lost (w : Outside) : Nat → Nat → Bool
  | 0, _ => false
  | retries + 1, attempt =>
    match w.probe attempt with
    | .ok none => false
    | .ok (some _) => probe_lost w retries (attempt + 1)
    | .error _ => true

section
variable {w : Outside} {r : RunnerResolution} {log : List Call} {environ : Environ}

theorem atHost_stripped (named : strip r.host ≠ "") (runner_id : Option String) :
    AtHost environ r { host := some (strip r.host), port := some r.port, runner_id } :=
  ⟨named,by simp only [resolve_ssh_host,if_neg named,strip_strip,Option.getD_some]⟩

theorem atHost_first (named : strip r.host ≠ "") (runner_id : Option String) :
    AtHost environ r { host := some r.host, port := some r.port, runner_id } := by
  have given : r.host ≠ "" := by
    intro empty
    rw [empty] at named
    exact named (by decide)
  exact ⟨named,by simp only [resolve_ssh_host,if_neg given,Option.getD_some]⟩

theorem atHost_unknown (named : strip r.host ≠ "") (runner_id : Option String) :
    AtHost environ r { host := some "unknown", port := some r.port, runner_id } ↔ strip r.host = "unknown" := by
  have address : resolve_ssh_host environ { host := some "unknown", port := some r.port, runner_id } = ("unknown",r.port) := by
    have stripped : strip "unknown" = "unknown" := by decide
    simp only [resolve_ssh_host,if_neg (show ("unknown" : String) ≠ "" by decide),stripped,Option.getD_some]
  rw [AtHost,address]
  constructor
  · rintro ⟨_,same⟩
    exact (congrArg Prod.fst same).symm
  · intro same
    exact ⟨named,by rw [same]⟩

theorem onRunner_sleep (log : List Call) (seconds : Nat) :
    OnRunner environ r (log ++ [.sleep seconds]) ↔ OnRunner environ r log := by
  rw [onRunner_snoc]
  exact and_iff_left trivial

theorem onRunner_probe {log : List Call} {input : SSHHealthcheckInput} (here : AtHost environ r input) :
    OnRunner environ r (log ++ [.ssh_healthcheck input]) ↔ OnRunner environ r log := by
  rw [onRunner_snoc]
  exact and_iff_left here

theorem wait_probes (w : Outside) (runner_id : Option String) (port : Option Int) (retries : Nat) (host : Option String)
    (backoff : Nat) (log : List Call) :
    log ++ [.ssh_healthcheck { host, port, runner_id }] <+:
      (exec (recording (reply w)) (wait_for_healthy_runner runner_id port retries host backoff) log).2 := by
  cases retries with
  | zero =>
    rw [wait_for_healthy_runner,exec_act]
    exact exec_extends _ _ _
  | succ retries =>
    rw [wait_for_healthy_runner,exec_act]
    exact exec_extends _ _ _

/-- The wait stays on the runner exactly if no probe is lost before another, or the runner
    goes by the name that stands for a lost one. -/
theorem wait_onRunner (runner_id : Option String) (retries : Nat) (host : Option String) (backoff : Nat) (log : List Call)
    (here : AtHost w.environ r { host, port := some r.port, runner_id }) :
    OnRunner w.environ r
        (exec (recording (reply w)) (wait_for_healthy_runner runner_id (some r.port) retries host backoff) log).2 ↔
      OnRunner w.environ r log ∧ (strip r.host = "unknown" ∨ probe_lost w retries (log.countP isProbe) = false) := by
  induction retries generalizing host backoff log with
  | zero =>
    rw [wait_for_healthy_runner,exec_act,exec_pure,onRunner_snoc]
    simp only [probe_lost,or_true,and_true,Targets,here]
  | succ retries ih =>
    rw [wait_for_healthy_runner,exec_act]
    cases probe : w.probe (log.countP isProbe) with
    | ok error =>
      cases error with
      | none =>
        have healthy : reports_healthy (reply w log (.ssh_healthcheck { host, port := some r.port, runner_id })) = true := by
          rw [reports_probe,probe]
          rfl
        rw [if_pos healthy,exec_pure,onRunner_probe here]
        simp only [probe_lost,probe,or_true,and_true]
      | some error =>
        have ailing : ¬reports_healthy (reply w log (.ssh_healthcheck { host, port := some r.port, runner_id })) = true := by
          rw [reports_probe,probe]
          exact Bool.false_ne_true
        have next : probed_host (reply w log (.ssh_healthcheck { host, port := some r.port, runner_id })) = strip r.host := by
          rw [reply,probe]
          exact congrArg Prod.fst here.2
        rw [if_neg ailing,exec_act,next,ih _ _ _ (atHost_stripped here.1 runner_id),onRunner_sleep,onRunner_probe here,
          count_sleep,count_probe]
        simp only [probe_lost,probe]
    | error failure =>
      have ailing : ¬reports_healthy (reply w log (.ssh_healthcheck { host, port := some r.port, runner_id })) = true := by
        rw [reports_probe,probe]
        exact Bool.false_ne_true
      have lost : probe_lost w (retries + 1) (log.countP isProbe) = true := by simp only [probe_lost,probe]
      have next : probed_host (reply w log (.ssh_healthcheck { host, port := some r.port, runner_id })) = "unknown" := by
        rw [reply,probe]
        rfl
      rw [if_neg ailing,exec_act,next,lost]
      by_cases same : strip r.host = "unknown"
      · rw [ih _ _ _ ((atHost_unknown here.1 runner_id).mpr same),onRunner_sleep,onRunner_probe here]
        simp only [same,true_or,and_true]
      · -- The next probe goes to the host `unknown`, and stays on record.
        constructor
        · intro all
          have probed := onRunner_before (wait_probes w runner_id _ retries _ _ _) all
          rw [onRunner_snoc] at probed
          exact absurd ((atHost_unknown here.1 runner_id).mp probed.2) same
        · rintro ⟨_,known | unlost⟩
          · exact absurd known same
          · exact absurd unlost (by decide)

/-- The path that every activity is told is the runner's. -/
def KnownSecret (environ : Environ) (r : RunnerResolution) : Prop := WithSecret environ r (some r.vault_path)

theorem knownSecret_iff (environ : Environ) (r : RunnerResolution) :
    KnownSecret environ r ↔ r.vault_path ≠ "" ∨ ssh_secret_path environ = "" := by
  unfold KnownSecret WithSecret credential_path
  by_cases empty : r.vault_path = ""
  · simp only [empty,if_true,ne_eq,not_true,false_or]
    exact Iff.rfl
  · have given : r.vault_path ≠ "" ∨ ssh_secret_path environ = "" := Or.inl empty
    simp only [if_neg empty,given]

theorem issues_cleanup (known : KnownSecret environ r) (inp : ExecutionRunWorkflowInput)
    (runner_id : Option String) (container_id : String) (image_id : Option String) (task_succeeded : Bool) :
    Issues (Targets environ r) (docker_cleanup inp runner_id (some r.vault_path) container_id image_id task_succeeded) :=
  ⟨known,fun _ => trivial⟩

theorem issues_chain (known : KnownSecret environ r) (inp : ExecutionRunWorkflowInput) (command : String)
    (runner_id : Option String) :
    Issues (Targets environ r) (run_docker_chain inp command runner_id (some r.vault_path)) := by
  have container : ∀ build_result,
      Issues (Targets environ r) (run_container inp command runner_id (some r.vault_path) build_result) := by
    intro build_result
    refine issues_act known fun answer => ?_
    cases answer with
    | error failure => exact issues_bind (issues_cleanup known ..) fun _ => trivial
    | ok run_result => exact issues_bind (issues_cleanup known ..) fun _ => trivial
  refine issues_act known fun daemon => ?_
  cases daemon with
  | error failure => trivial
  | ok running =>
    cases running with
    | false => trivial
    | true =>
      refine issues_act known fun built => ?_
      cases built with
      | error failure => trivial
      | ok build_result => exact issues_ite (container build_result) trivial

theorem issues_execute (known : KnownSecret environ r) (inp : ExecutionRunWorkflowInput) (command : String)
    (runner_id : Option String) (start_to_close heartbeat : Rat) :
    Issues (Targets environ r) (execute inp command runner_id (some r.vault_path) start_to_close heartbeat) := by
  refine issues_ite (issues_chain known inp command runner_id) (issues_act known fun answer => ?_)
  cases answer with
  | error failure => trivial
  | ok result => trivial

theorem issues_checked (inp : ExecutionRunWorkflowInput)
    (quota : checks_quota inp = true → WithSecret environ r none) : Issues (Targets environ r) (enforce_disk_quota inp) := by
  unfold enforce_disk_quota
  split
  · trivial
  · next checked =>
    rw [not_or] at checked
    have checks : checks_quota inp = true := by simpa [checks_quota,Option.isSome_iff_ne_none] using checked
    refine issues_act (quota checks) fun answer => ?_
    cases answer with
    | error failure => trivial
    | ok result => exact issues_ite trivial trivial

theorem issues_healthy (known : KnownSecret environ r) (inp : ExecutionRunWorkflowInput)
    (quota : checks_quota inp = true → WithSecret environ r none) : Issues (Targets environ r) (run_healthy inp (some r)) :=
  issues_bind (issues_checked (run_input inp (some r)) quota) fun _ =>
    issues_bind (issues_execute known ..) fun _ => issues_bind (issues_act known fun _ => trivial) fun _ => trivial

theorem first_issued {α β : Type} (w : Outside) (c : Call) (rest : activities.Res c → Exec α) (next : α → Exec β)
    (log : List Call) : log ++ [c] <+: (exec (recording (reply w)) ((act c >>= rest) >>= next) log).2 :=
  exec_extends (reply w) (rest (reply w log c) >>= next) (log ++ [c])

theorem quota_first (w : Outside) (inp : ExecutionRunWorkflowInput) (resolution : Option RunnerResolution) (log : List Call)
    (checks : checks_quota inp = true) :
    log ++ [.check_disk_quota (disk_quota_input (run_input inp resolution))] <+:
      (exec (recording (reply w)) (run_healthy inp resolution) log).2 := by
  have checked : ¬((run_input inp resolution).workspace_quota_mb.isNone = true ∨ (run_input inp resolution).department_id = "") := by
    simpa [checks_quota,run_input,Option.isSome_iff_ne_none] using checks
  rw [run_healthy,enforce_disk_quota,if_neg checked]
  exact first_issued w _ _ _ log

theorem execute_first (w : Outside) (inp : ExecutionRunWorkflowInput) (log : List Call) (checks : ¬checks_quota inp = true) :
    ∃ c, log ++ [c] <+: (exec (recording (reply w)) (run_healthy inp (some r)) log).2 ∧
      (Targets w.environ r c → KnownSecret w.environ r) := by
  have unchecked : (run_input inp (some r)).workspace_quota_mb.isNone = true ∨ (run_input inp (some r)).department_id = "" := by
    simp only [checks_quota,Bool.and_eq_true,not_and_or,decide_eq_true_eq,not_not] at checks
    simpa [run_input] using checks
  rw [run_healthy,enforce_disk_quota,if_pos unchecked]
  simp only [run_command,execute]
  by_cases docker : (run_input inp (some r)).needs_docker = true
  · refine ⟨.docker_daemon_healthcheck ⟨inp.parent_workflow_id,resolved_runner_id inp (some r),some r.vault_path⟩,?_,id⟩
    rw [if_pos docker]
    exact first_issued w _ _ _ log
  · refine ⟨.ssh_run_test (ssh_run_input (run_input inp (some r)) (effective_command inp) (resolved_runner_id inp (some r))
      (some r.vault_path)) (orTimeout (start_to_close_override inp) 1800) (orTimeout (coerce_timeout inp.heartbeat_timeout) 90),
      ?_,id⟩
    rw [if_neg docker]
    exact first_issued w _ _ _ log

theorem healthy_secrets (w : Outside) (inp : ExecutionRunWorkflowInput)
    (stays : OnRunner w.environ r (exec (recording (reply w)) (run_healthy inp (some r)) log).2) :
    KnownSecret w.environ r ∧ (checks_quota inp = true → WithSecret w.environ r none) := by
  by_cases checks : checks_quota inp = true
  · have checked := onRunner_before (quota_first w inp (some r) log checks) stays
    rw [onRunner_snoc] at checked
    have quota : WithSecret w.environ r none := checked.2
    refine ⟨?_,fun _ => quota⟩
    rw [knownSecret_iff]
    by_cases empty : r.vault_path = ""
    · right
      rw [WithSecret,empty] at quota
      exact quota
    · exact Or.inl empty
  · obtain ⟨c,first,known⟩ := execute_first w inp log checks
    have issued := onRunner_before first stays
    rw [onRunner_snoc] at issued
    exact ⟨known issued.2,fun checked => absurd checked checks⟩

/-- The runner has an address and a secret of its own, no probe of it is lost before another
    one, and a quota is checked only where the environment names the same secret. -/
def Stays (w : Outside) (inp : ExecutionRunWorkflowInput) (r : RunnerResolution) : Prop :=
  strip r.host ≠ "" ∧ (strip r.host = "unknown" ∨ probe_lost w 6 0 = false) ∧
    (recovers w 6 0 = true → (r.vault_path ≠ "" ∨ ssh_secret_path w.environ = "") ∧
      (checks_quota inp = true → ssh_secret_path w.environ = bare_path r.vault_path))

theorem waited_onRunner (w : Outside) (inp : ExecutionRunWorkflowInput) (named : strip r.host ≠ "") (log : List Call) :
    OnRunner w.environ r (waited w inp (some r) log) ↔
      OnRunner w.environ r log ∧ (strip r.host = "unknown" ∨ probe_lost w 6 (log.countP isProbe) = false) :=
  wait_onRunner _ 6 _ 60 log (atHost_first named _)

theorem waited_named (w : Outside) (inp : ExecutionRunWorkflowInput) (log : List Call)
    (stays : OnRunner w.environ r (waited w inp (some r) log)) : strip r.host ≠ "" := by
  have probed := onRunner_before (wait_probes w _ _ 6 _ 60 log) stays
  rw [onRunner_snoc] at probed
  exact probed.2.1

theorem healthy_onRunner (w : Outside) (inp : ExecutionRunWorkflowInput) (log : List Call) :
    OnRunner w.environ r (exec (recording (reply w)) (run_healthy inp (some r)) log).2 ↔
      OnRunner w.environ r log ∧ KnownSecret w.environ r ∧ (checks_quota inp = true → WithSecret w.environ r none) := by
  constructor
  · intro stays
    exact ⟨onRunner_before (exec_extends (reply w) (run_healthy inp (some r)) log) stays,healthy_secrets w inp stays⟩
  · rintro ⟨before,known,quota⟩
    exact exec_recorded (reply w) (issues_healthy known inp quota) before

theorem run_on_onRunner (w : Outside) (inp : ExecutionRunWorkflowInput) {log : List Call} (unprobed : log.countP isProbe = 0)
    (before : OnRunner w.environ r log) :
    OnRunner w.environ r (exec (recording (reply w)) (run_on inp (some r)) log).2 ↔ Stays w inp r := by
  rw [exec_run_on,unprobed,Stays,← knownSecret_iff]
  by_cases named : strip r.host = ""
  · -- A runner without an address is left by the first probe.
    refine iff_of_false ?_ fun stays => stays.1 named
    intro stays
    refine waited_named w inp log ?_ named
    split at stays
    · exact onRunner_before (exec_extends (reply w) (run_healthy inp (some r)) _) stays
    · exact stays
  · have waits := waited_onRunner w inp named log
    rw [unprobed] at waits
    by_cases recovered : recovers w 6 0 = true
    · rw [if_pos recovered,healthy_onRunner,waits]
      simp only [before,true_and,named,not_false_iff,recovered,forall_true_left,ne_eq]
      exact Iff.rfl
    · rw [if_neg recovered,waits]
      simp only [before,true_and,named,not_false_iff,recovered,ne_eq,Bool.false_eq_true,false_implies,and_true]

end

/-- A run for which a runner was resolved stays on that runner exactly under `Stays`. -/
theorem one_runner_iff (w : Outside) (inp : ExecutionRunWorkflowInput) {r : RunnerResolution}
    (resolves : resolves_runner inp = true) (resolved : w.resolution = .ok r) :
    OnRunner w.environ r (outcome w inp).2 ↔ Stays w inp r := by
  rw [outcome_resolved resolves resolved]
  refine run_on_onRunner w inp rfl ?_
  intro c member
  rw [List.mem_singleton.mp member]
  trivial

theorem one_runner_sample : OnRunner smooth.environ sampleRunner (outcome smooth sampleInput).2 ↔ Stays smooth sampleInput sampleRunner :=
  one_runner_iff smooth sampleInput rfl rfl

/-- Even where everything goes well, the quota is measured on the runner of the environment. -/
theorem quota_elsewhere : resolves_runner { sampleInput with workspace_quota_mb := some "1024.0" } = true ∧
    smooth.resolution = .ok sampleRunner ∧
    ¬OnRunner smooth.environ sampleRunner (outcome smooth { sampleInput with workspace_quota_mb := some "1024.0" }).2 := by
  refine ⟨rfl,rfl,?_⟩
  rw [outcome_resolved (r := sampleRunner) rfl rfl]
  rw [run_on_onRunner smooth _ rfl fun c member => by rw [List.mem_singleton.mp member]; trivial]
  rintro ⟨_,_,secrets⟩
  exact absurd ((secrets rfl).2 rfl) (by decide)

end Automation.RunnerTarget
