import Automation.ExecutionRun
import Mathlib.Algebra.BigOperators.Group.List.Basic
import Mathlib.Algebra.Ring.Nat

/-!
The wait for a runner, with the target of each probe and the pauses between them. The loop
probes next the host that its last result reports, on the port it was given, and doubles
its pause up to the bound that is meant for their sum. What is claimed of it holds exactly
where the runner recovers by the fifth probe and no probe before moves the target
(`runner_wait_iff`).
-/
namespace Automation.RunnerWait
open Automation.Effects Automation.RunnerActivities Automation.ExecutionRun
open Automation.AgentMessages (Failure)

def HEALTHCHECK_MAX_WAIT : Nat := 1800

/-- What a probe of a target comes to, by its number: the activity fails, the probe answers
    an error, or the host accepts it. -/
abbrev Probes := Nat → String × Int → Except Failure (Option String)

section
variable (w : Outside) (probe : Probes)

/-- The outside, with probes that depend on their target. -/
def seeing (log : List Call) : (c : Call) → activities.Res c
  | .ssh_healthcheck input =>
    (probe (log.countP isProbe) (resolve_ssh_host w.environ input)).map (ssh_healthcheck w.environ input)
  | c => reply w log c

/-- The targets of the probes in a record. -/
def probed (log : List Call) : List (String × Int) :=
  log.filterMap fun
    | .ssh_healthcheck input => some (resolve_ssh_host w.environ input)
    | _ => none

/-- The pauses in a record. -/
def slept (log : List Call) : List Nat :=
  log.filterMap fun
    | .sleep seconds => some seconds
    | _ => none

variable (runner_id host : Option String) (port : Option Int)

/-- `_wait_for_healthy_runner`: its result, and the record of its calls. -/
def wait : Except Failure Bool × List Call :=
  exec (recording (seeing w probe)) (wait_for_healthy_runner runner_id port 6 host 60) []

/-- The runner that the workflow asks for. -/
def runner : String × Int := resolve_ssh_host w.environ { host, port, runner_id }

/-- Every probe is of the runner; the wait is true where a probe has found that runner healthy;
    and the pauses stay within the bound. -/
structure WaitsForRunner : Prop where
  same : ∀ target ∈ probed w (wait w probe runner_id host port).2, target = runner w runner_id host port
  healthy : (wait w probe runner_id host port).1 = .ok true ↔
    ∃ i, (probed w (wait w probe runner_id host port).2)[i]? = some (runner w runner_id host port) ∧
      probe i (runner w runner_id host port) = .ok none
  bounded : (slept (wait w probe runner_id host port).2).sum ≤ HEALTHCHECK_MAX_WAIT

/-- After this outcome the next probe is of the same target. An unhealthy probe reports its
    host, and a failed activity none. -/
def Steady (target : String × Int) : Except Failure (Option String) → Prop
  | .ok none => True
  | .ok (some _) => resolve_ssh_host w.environ { host := some target.1, port, runner_id } = target
  | .error _ => resolve_ssh_host w.environ { host := some "unknown", port, runner_id } = target

/-- The runner is found healthy by the fifth probe, and no probe before moves the target. -/
def Recovers : Prop :=
  ∃ k ≤ 4, probe k (runner w runner_id host port) = .ok none ∧
    ∀ i < k, Steady w runner_id port (runner w runner_id host port) (probe i (runner w runner_id host port))

end

/-- The targets and the pauses of a wait, and its result. -/
structure Trace where
  targets : List (String × Int)
  pauses : List Nat
  healthy : Bool

section
variable (w : Outside) (probe : Probes) (runner_id : Option String) (port : Option Int)

/-- The host that the next probe is given. -/
def next_host (target : String × Int) : Except Failure (Option String) → String
  | .ok _ => target.1
  | .error _ => "unknown"

def trace : Nat → Nat → Option String → Nat → Trace
  | 0, attempt, host, _ =>
    let target := resolve_ssh_host w.environ { host, port, runner_id }
    ⟨[target],[],answered (probe attempt target)⟩
  | retries + 1, attempt, host, backoff =>
    let target := resolve_ssh_host w.environ { host, port, runner_id }
    if answered (probe attempt target) then ⟨[target],[],true⟩
    else
      let rest := trace retries (attempt + 1) (some (next_host target (probe attempt target))) (min (backoff * 2) 1800)
      ⟨target :: rest.targets,backoff :: rest.pauses,rest.healthy⟩

/-- The pauses of a wait that never ends early. -/
def schedule : Nat → Nat → List Nat
  | 0, _ => []
  | retries + 1, backoff => backoff :: schedule retries (min (backoff * 2) 1800)

theorem reports_seen (w : Outside) (probe : Probes) (log : List Call) (input : SSHHealthcheckInput) :
    reports_healthy (seeing w probe log (.ssh_healthcheck input)) =
        answered (probe (log.countP isProbe) (resolve_ssh_host w.environ input)) ∧
      probed_host (seeing w probe log (.ssh_healthcheck input)) =
        next_host (resolve_ssh_host w.environ input) (probe (log.countP isProbe) (resolve_ssh_host w.environ input)) := by
  rw [seeing]
  cases probe (log.countP isProbe) (resolve_ssh_host w.environ input) with
  | error failure => exact ⟨rfl,rfl⟩
  | ok error => cases error <;> exact ⟨rfl,rfl⟩

theorem exec_call_seen {α : Type} (w : Outside) (probe : Probes) (c : Call) (rest : activities.Res c → Exec α)
    (log : List Call) :
    exec (recording (seeing w probe)) (act c >>= rest) log =
      exec (recording (seeing w probe)) (rest (seeing w probe log c)) (log ++ [c]) := rfl

theorem exec_wait (retries : Nat) (host : Option String) (backoff : Nat) (log : List Call) :
    ∃ calls, exec (recording (seeing w probe)) (wait_for_healthy_runner runner_id port retries host backoff) log =
        (.ok (trace w probe runner_id port retries (log.countP isProbe) host backoff).healthy,log ++ calls) ∧
      probed w calls = (trace w probe runner_id port retries (log.countP isProbe) host backoff).targets ∧
      slept calls = (trace w probe runner_id port retries (log.countP isProbe) host backoff).pauses := by
  induction retries generalizing host backoff log with
  | zero =>
    refine ⟨[.ssh_healthcheck { host, port, runner_id }],?_,rfl,rfl⟩
    rw [wait_for_healthy_runner,exec_call_seen,exec_pure,(reports_seen w probe log _).1]
    rfl
  | succ retries ih =>
    obtain ⟨healthy,next⟩ := reports_seen w probe log { host, port, runner_id }
    rw [wait_for_healthy_runner,exec_call_seen,healthy,next,trace]
    by_cases found : answered (probe (log.countP isProbe) (resolve_ssh_host w.environ { host, port, runner_id })) = true
    · rw [if_pos found,if_pos found]
      exact ⟨[.ssh_healthcheck { host, port, runner_id }],rfl,rfl,rfl⟩
    · rw [if_neg found,if_neg found,exec_call_seen]
      obtain ⟨calls,ended,targets,pauses⟩ := ih
        (some (next_host (resolve_ssh_host w.environ { host, port, runner_id })
          (probe (log.countP isProbe) (resolve_ssh_host w.environ { host, port, runner_id }))))
        (min (backoff * 2) 1800) (log ++ [.ssh_healthcheck { host, port, runner_id }] ++ [.sleep backoff])
      rw [count_sleep,count_probe] at ended targets pauses
      refine ⟨.ssh_healthcheck { host, port, runner_id } :: .sleep backoff :: calls,?_,?_,?_⟩
      · rw [ended]
        simp
      · exact congrArg (resolve_ssh_host w.environ { host, port, runner_id } :: ·) targets
      · exact congrArg (backoff :: ·) pauses

theorem trace_healthy (retries attempt : Nat) (host : Option String) (backoff : Nat) :
    (trace w probe runner_id port retries attempt host backoff).healthy = true ↔
      ∃ i target, (trace w probe runner_id port retries attempt host backoff).targets[i]? = some target ∧
        answered (probe (attempt + i) target) = true := by
  induction retries generalizing attempt host backoff with
  | zero =>
    simp only [trace]
    constructor
    · intro found
      exact ⟨0,_,rfl,found⟩
    · rintro ⟨i,target,present,found⟩
      cases i with
      | zero =>
        cases present
        exact found
      | succ i => cases present
  | succ retries ih =>
    rw [trace]
    by_cases found : answered (probe attempt (resolve_ssh_host w.environ { host, port, runner_id })) = true
    · simp only [if_pos found,true_iff]
      exact ⟨0,_,rfl,found⟩
    · simp only [if_neg found,ih]
      constructor
      · rintro ⟨i,target,present,accepted⟩
        exact ⟨i + 1,target,present,by rwa [Nat.add_comm i,← Nat.add_assoc]⟩
      · rintro ⟨i,target,present,accepted⟩
        cases i with
        | zero =>
          cases present
          exact absurd accepted found
        | succ i => exact ⟨i,target,present,by rwa [Nat.add_comm i,← Nat.add_assoc] at accepted⟩

theorem trace_targets (retries attempt : Nat) (host : Option String) (backoff : Nat) :
    ∃ rest, (trace w probe runner_id port retries attempt host backoff).targets =
      resolve_ssh_host w.environ { host, port, runner_id } :: rest := by
  cases retries with
  | zero => exact ⟨[],rfl⟩
  | succ retries =>
    rw [trace]
    by_cases found : answered (probe attempt (resolve_ssh_host w.environ { host, port, runner_id })) = true
    · rw [if_pos found]
      exact ⟨[],rfl⟩
    · rw [if_neg found]
      exact ⟨_,rfl⟩

/-- There is one pause less than there are probes. -/
theorem trace_pauses (retries attempt : Nat) (host : Option String) (backoff : Nat) :
    (trace w probe runner_id port retries attempt host backoff).targets.length ≤ retries + 1 ∧
      (trace w probe runner_id port retries attempt host backoff).pauses =
        (schedule retries backoff).take ((trace w probe runner_id port retries attempt host backoff).targets.length - 1) := by
  induction retries generalizing attempt host backoff with
  | zero => exact ⟨le_refl _,rfl⟩
  | succ retries ih =>
    rw [trace]
    by_cases found : answered (probe attempt (resolve_ssh_host w.environ { host, port, runner_id })) = true
    · rw [if_pos found]
      exact ⟨by simp,rfl⟩
    · rw [if_neg found]
      obtain ⟨few,pauses⟩ := ih (attempt + 1)
        (some (next_host (resolve_ssh_host w.environ { host, port, runner_id })
          (probe attempt (resolve_ssh_host w.environ { host, port, runner_id })))) (min (backoff * 2) 1800)
      obtain ⟨others,targets⟩ := trace_targets w probe runner_id port
        retries (attempt + 1) (some (next_host (resolve_ssh_host w.environ { host, port, runner_id })
          (probe attempt (resolve_ssh_host w.environ { host, port, runner_id })))) (min (backoff * 2) 1800)
      rw [targets] at few pauses
      refine ⟨Nat.succ_le_succ (targets ▸ few),?_⟩
      simp only [schedule,List.length_cons,Nat.add_sub_cancel,pauses,targets,List.take_succ_cons]

theorem answered_iff (outcome : Except Failure (Option String)) : answered outcome = true ↔ outcome = .ok none := by
  cases outcome with
  | error failure => simp [answered]
  | ok error => cases error <;> simp [answered]

variable {w runner_id port} in
theorem steady_iff {target : String × Int} {outcome : Except Failure (Option String)} (lost : outcome ≠ .ok none) :
    Steady w runner_id port target outcome ↔
      resolve_ssh_host w.environ { host := some (next_host target outcome), port, runner_id } = target := by
  cases outcome with
  | error failure => exact Iff.rfl
  | ok error =>
    cases error with
    | none => exact absurd rfl lost
    | some error => exact Iff.rfl

theorem trace_recovers {target : String × Int} (n retries attempt : Nat) (host : Option String) (backoff : Nat)
    (first : resolve_ssh_host w.environ { host, port, runner_id } = target) (short : n < retries) :
    ((trace w probe runner_id port retries attempt host backoff).targets.length ≤ n + 1 ∧
        ∀ other ∈ (trace w probe runner_id port retries attempt host backoff).targets, other = target) ↔
      ∃ k ≤ n, probe (attempt + k) target = .ok none ∧
        ∀ i < k, Steady w runner_id port target (probe (attempt + i) target) := by
  induction n generalizing retries attempt host backoff with
  | zero =>
    obtain ⟨retries,rfl⟩ : ∃ m, retries = m + 1 := ⟨retries - 1,by omega⟩
    rw [trace,first]
    by_cases found : answered (probe attempt target) = true
    · simp only [if_pos found]
      constructor
      · intro _
        exact ⟨0,le_refl _,(answered_iff _).mp found,fun i below => absurd below (Nat.not_lt_zero i)⟩
      · intro _
        simp
    · simp only [if_neg found]
      constructor
      · rintro ⟨few,_⟩
        obtain ⟨others,targets⟩ := trace_targets w probe runner_id port
          retries (attempt + 1) (some (next_host target (probe attempt target))) (min (backoff * 2) 1800)
        simp [targets] at few
      · rintro ⟨k,low,accepted,_⟩
        obtain rfl : k = 0 := by omega
        exact absurd ((answered_iff _).mpr accepted) found
  | succ n ih =>
    obtain ⟨retries,rfl⟩ : ∃ m, retries = m + 1 := ⟨retries - 1,by omega⟩
    rw [trace,first]
    by_cases found : answered (probe attempt target) = true
    · simp only [if_pos found]
      constructor
      · intro _
        exact ⟨0,Nat.zero_le _,(answered_iff _).mp found,fun i below => absurd below (Nat.not_lt_zero i)⟩
      · intro _
        simp
    · simp only [if_neg found]
      have lost : probe attempt target ≠ .ok none := fun accepted => found ((answered_iff _).mpr accepted)
      by_cases steady : Steady w runner_id port target (probe attempt target)
      · have rest := ih retries (attempt + 1) (some (next_host target (probe attempt target)))
          (min (backoff * 2) 1800) ((steady_iff lost).mp steady) (by omega)
        simp only [List.length_cons,Nat.add_le_add_iff_right,List.forall_mem_cons,true_and] at rest ⊢
        rw [rest]
        constructor
        · rintro ⟨k,low,accepted,before⟩
          refine ⟨k + 1,by omega,by rwa [Nat.add_comm k,← Nat.add_assoc],?_⟩
          intro i below
          cases i with
          | zero => exact steady
          | succ i =>
            have := before i (by omega)
            rwa [Nat.add_comm i,← Nat.add_assoc]
        · rintro ⟨k,low,accepted,before⟩
          cases k with
          | zero => exact absurd accepted lost
          | succ k =>
            refine ⟨k,by omega,by rwa [Nat.add_comm k,← Nat.add_assoc] at accepted,?_⟩
            intro i below
            have := before (i + 1) (by omega)
            rwa [Nat.add_comm i,← Nat.add_assoc] at this
      · constructor
        · rintro ⟨_,same⟩
          obtain ⟨others,targets⟩ := trace_targets w probe runner_id port
            retries (attempt + 1) (some (next_host target (probe attempt target))) (min (backoff * 2) 1800)
          refine absurd ((steady_iff lost).mpr (same _ ?_)) steady
          rw [targets]
          simp
        · rintro ⟨k,low,accepted,before⟩
          cases k with
          | zero => exact absurd accepted lost
          | succ k => exact absurd (before 0 (Nat.succ_pos k)) steady

/-- The pauses before the seventh probe: their sum passes the bound with the fifth. -/
theorem pauses_within {probes : Nat} (few : probes ≤ 7) :
    ((schedule 6 60).take (probes - 1)).sum ≤ HEALTHCHECK_MAX_WAIT ↔ probes ≤ 5 := by
  have each : ∀ p < 8, ((schedule 6 60).take (p - 1)).sum ≤ HEALTHCHECK_MAX_WAIT ↔ p ≤ 5 := by decide
  exact each probes (by omega)

end

section
variable (w : Outside) (probe : Probes) (runner_id host : Option String) (port : Option Int)

theorem runner_wait_iff :
    WaitsForRunner w probe runner_id host port ↔ Recovers w probe runner_id host port := by
  obtain ⟨calls,ended,targets,pauses⟩ := exec_wait w probe runner_id port
    6 host 60 []
  obtain ⟨few,sleeps⟩ := trace_pauses w probe runner_id port 6 0 host 60
  have recovery := trace_recovers w probe runner_id port 4 6 0 host 60 (Eq.refl (runner w runner_id host port))
    (by decide)
  have healthy := trace_healthy w probe runner_id port 6 0 host 60
  have made : (wait w probe runner_id host port) = (.ok (trace w probe runner_id port 6 0 host 60).healthy,calls) := ended
  have aimed : probed w (wait w probe runner_id host port).2 = (trace w probe runner_id port 6 0 host 60).targets := by
    rw [made]
    exact targets
  have paused : slept (wait w probe runner_id host port).2 = (trace w probe runner_id port 6 0 host 60).pauses := by
    rw [made]
    exact pauses
  simp only [Nat.zero_add] at recovery healthy
  constructor
  · intro law
    have within := law.bounded
    rw [paused,sleeps,pauses_within few] at within
    exact recovery.mp ⟨within,fun other present => law.same other (aimed ▸ present)⟩
  · intro recovers
    obtain ⟨within,same⟩ := recovery.mpr recovers
    refine ⟨fun other present => same other (aimed ▸ present),?_,?_⟩
    · rw [aimed,made,Except.ok.injEq,healthy]
      constructor
      · rintro ⟨i,target,present,accepted⟩
        obtain rfl := same target (List.mem_of_getElem? present)
        exact ⟨i,present,(answered_iff _).mp accepted⟩
      · rintro ⟨i,present,accepted⟩
        exact ⟨i,_,present,(answered_iff _).mpr accepted⟩
    · rw [paused,sleeps,pauses_within few]
      exact within

end

/-- No probe answers. -/
def silent : Probes := fun _ _ => .ok (some "timed out")

/-- The first probe is lost with its worker, and every host is up. -/
def recovering : Probes := fun attempt _ => if attempt = 0 then .error ⟨"ActivityError","worker crashed"⟩ else .ok none

/-- A wait whose probes all fail lasts 3660 seconds; and after a lost probe, the workflow is told
    that its runner is healthy by the host `unknown`. -/
theorem runner_unwaited :
    (slept (wait smooth silent none (some "10.0.0.5") (some 22)).2).sum = 3660 ∧
      ¬WaitsForRunner smooth silent none (some "10.0.0.5") (some 22) ∧
      probed smooth (wait smooth recovering none (some "10.0.0.5") (some 22)).2 = [("10.0.0.5",22),("unknown",22)] ∧
      ¬WaitsForRunner smooth recovering none (some "10.0.0.5") (some 22) := by
  have slow : (slept (wait smooth silent none (some "10.0.0.5") (some 22)).2).sum = 3660 := by decide
  have moved : probed smooth (wait smooth recovering none (some "10.0.0.5") (some 22)).2 =
      [("10.0.0.5",22),("unknown",22)] := by decide
  refine ⟨slow,?_,moved,?_⟩
  · intro law
    have within := law.bounded
    rw [slow] at within
    exact absurd within (by decide)
  · intro law
    have same := law.same ("unknown",22)
    rw [moved] at same
    exact absurd (same (by simp)) (by decide)

end Automation.RunnerWait
