import Automation.WorkspacePrune
import Mathlib.Algebra.Order.Ring.Rat
import Mathlib.Algebra.BigOperators.Group.List.Basic
import Mathlib.Data.Int.ConditionallyCompleteOrder
import Mathlib.Tactic.Linarith

/-!
One run of the eviction of workspaces. From a probe that is at the threshold it removes the
directories of a list in order until its estimate of the usage is below the threshold. The
report is truthful in every run whose removals are honest: a reply with exit code 0 comes
exactly from a directory that is gone, and what the reply or the list credits was released
(`eviction_truthful`). The script answers so for a removal that failed as well.
-/
namespace Automation.Eviction
open Automation.PyText Automation.WorkspacePrune
open Automation.RunnerActivities (Environ stripped)

def DEFAULT_WARN_PCT : Int := 80
def DEFAULT_EVICT_PCT : Int := 90
def MAX_PRUNES_PER_TICK : Nat := 50

/-- The inner function `_parse` of `_resolve_thresholds`. -/
def parse_threshold (environ : Environ) (name : String) (default : Int) : Int :=
  match pyInt (stripped environ name) with
  | some value => if value < 1 ∨ 99 < value then default else value
  | none => default

def resolve_thresholds (environ : Environ) : Int × Int :=
  let warn := parse_threshold environ "RUNNER_DISK_WARN_PCT" DEFAULT_WARN_PCT
  let evict := parse_threshold environ "RUNNER_DISK_EVICT_PCT" DEFAULT_EVICT_PCT
  if evict ≤ warn then (DEFAULT_WARN_PCT,DEFAULT_EVICT_PCT) else (warn,evict)

structure WorkspaceDiskSnapshot where
  total_mb : Int
  used_mb : Int
  usage_pct : Rat
  warn_pct : Int
  evict_pct : Int
  error : Option String

/-- What becomes of the probe: the activity fails, it reports an error, or it reads numbers. -/
inductive Probe
  | failed (message : String)
  | error (message : String)
  | df (total_mb used_mb : Int)

/-- `percent used total` is `round((used / total) * 100, 1)`. -/
abbrev Percent := Int → Int → Rat

section
variable (percent : Percent)

def usage (used total : Int) : Rat := if 0 < total then percent used total else 0

def probe_workspace_disk_usage (environ : Environ) : Probe → Except String WorkspaceDiskSnapshot
  | .failed message => .error message
  | .error message => .ok ⟨0,0,0,(resolve_thresholds environ).1,(resolve_thresholds environ).2,some message⟩
  | .df total used =>
    .ok ⟨total,used,usage percent used total,(resolve_thresholds environ).1,(resolve_thresholds environ).2,none⟩

end

/-- What becomes of the activity for one directory. Attempts of it whose worker was lost have
    run their script before. -/
inductive Outcome
  | failed (message : String) (before : List Removal)
  | ended (before : List Removal) (session : Session)

def Outcome.before : Outcome → List Removal
  | .failed _ before => before
  | .ended before _ => before

section
variable (repr : String → String) (base : String)

def directory (entry : WorkspaceIterEntry) : String := strip entry.path

/-- The disk after the attempts that were lost. -/
def lost_disk (path : String) (removals : List Removal) (disk : Disk) : Disk :=
  if safe_to_prune path base = false then disk
  else removals.foldl (fun disk removal => (run_script path removal disk).1) disk

/-- The activity as the workflow calls it. -/
def execute_prune (entry : WorkspaceIterEntry) (outcome : Outcome) (disk : Disk) :
    Except String WorkspacePruneResult × Disk :=
  let disk := lost_disk base (directory entry) outcome.before disk
  match outcome with
  | .failed message _ => (.error message,disk)
  | .ended _ session =>
    let result := prune_workspace_iter repr base entry.path entry.size_mb session disk
    (.ok result.1,result.2)

/-- An attempt as it was made: what it found, the estimate and the count before it. -/
structure Attempt where
  entry : WorkspaceIterEntry
  outcome : Outcome
  before : Disk
  after : Disk
  estimate : Rat
  count : Nat
  success : Bool

structure Progress where
  pruned_paths : List String
  errors : List WorkspacePruneResult
  freed_mb_total : Int
  running_used_mb : Int
  running_pct : Rat
  pruned_count : Nat
  disk : Disk
  attempts : List Attempt

variable (percent : Percent) (total_mb evict_pct : Int)

/-- The body of the loop, for an entry that is attempted. -/
def attempt (entry : WorkspaceIterEntry) (outcome : Outcome) (s : Progress) : Progress :=
  let after := (execute_prune repr base entry outcome s.disk).2
  let made (success : Bool) : Attempt := ⟨entry,outcome,s.disk,after,s.running_pct,s.pruned_count,success⟩
  match (execute_prune repr base entry outcome s.disk).1 with
  | .error message =>
    { s with errors := s.errors ++ [⟨entry.path,false,0,some message⟩], disk := after, attempts := s.attempts ++ [made false] }
  | .ok result =>
    if result.success then
      { s with
        pruned_paths := s.pruned_paths ++ [result.path]
        pruned_count := s.pruned_count + 1
        freed_mb_total := s.freed_mb_total + result.freed_mb
        running_used_mb := max 0 (s.running_used_mb - result.freed_mb)
        running_pct := percent (max 0 (s.running_used_mb - result.freed_mb)) total_mb
        disk := after
        attempts := s.attempts ++ [made true] }
    else { s with errors := s.errors ++ [result], disk := after, attempts := s.attempts ++ [made false] }

/-- The loop, with the outcome of each attempt by its number. -/
def evict (outcomes : Nat → Outcome) : List WorkspaceIterEntry → Progress → Progress
  | [], s => s
  | entry :: entries, s =>
    if s.running_pct < evict_pct then s
    else if MAX_PRUNES_PER_TICK ≤ s.pruned_count then s
    else evict outcomes entries (attempt repr base percent total_mb entry (outcomes s.attempts.length) s)

end

structure WorkspaceCleanupReport where
  probed : Bool
  initial_usage_pct : Rat
  final_usage_pct : Rat
  warned : Bool
  pruned_paths : List String
  pruned_count : Nat
  freed_mb_total : Int
  errors : List WorkspacePruneResult
  snapshot_error : Option String

/-- What one run of the workflow meets. -/
structure Tick where
  environ : Environ
  probe : Probe
  warning : Except String Unit
  listing : Except String (List WorkspaceIterEntry)
  outcomes : Nat → Outcome
  disk : Disk

/-- The report of a run, the attempts it made and the disk behind it. -/
structure Ran where
  report : WorkspaceCleanupReport
  attempts : List Attempt
  disk : Disk

section
variable (repr : String → String) (percent : Percent) (tick : Tick)

def unprobed (message : String) : WorkspaceCleanupReport := ⟨false,0,0,false,[],0,0,[],some message⟩

def idle (usage_pct : Rat) (warned : Bool) : WorkspaceCleanupReport := ⟨true,usage_pct,usage_pct,warned,[],0,0,[],none⟩

def started (snapshot : WorkspaceDiskSnapshot) : Progress := ⟨[],[],0,snapshot.used_mb,snapshot.usage_pct,0,tick.disk,[]⟩

def warned : Bool := tick.warning matches .ok _

/-- The entries of the list, none where the activity failed. -/
def Tick.entries : List WorkspaceIterEntry :=
  match tick.listing with
  | .ok entries => entries
  | .error _ => []

/-- The loop with a snapshot at the threshold. -/
def evicted (snapshot : WorkspaceDiskSnapshot) : Progress :=
  evict repr (resolve_runner_base_path tick.environ) percent (if 0 < snapshot.total_mb then snapshot.total_mb else 1)
    snapshot.evict_pct tick.outcomes tick.entries (started tick snapshot)

def run : Ran :=
  match probe_workspace_disk_usage percent tick.environ tick.probe with
  | .error message => ⟨unprobed ("probe_failed: " ++ message),[],tick.disk⟩
  | .ok snapshot =>
    match snapshot.error with
    | some message => ⟨unprobed message,[],tick.disk⟩
    | none =>
      if snapshot.usage_pct < snapshot.warn_pct then ⟨idle snapshot.usage_pct false,[],tick.disk⟩
      else if snapshot.usage_pct < snapshot.evict_pct then ⟨idle snapshot.usage_pct (warned tick),[],tick.disk⟩
      else if tick.entries = [] then ⟨idle snapshot.usage_pct (warned tick),[],tick.disk⟩
      else
        let s := evicted repr percent tick snapshot
        ⟨⟨true,snapshot.usage_pct,s.running_pct,warned tick,s.pruned_paths,s.pruned_count,s.freed_mb_total,s.errors,none⟩,
          s.attempts,s.disk⟩

end

def Attempt.released (a : Attempt) : Int := a.before.size (directory a.entry) - a.after.size (directory a.entry)

/-- The MB that the attempts released. -/
def released (attempts : List Attempt) : Int := (attempts.map Attempt.released).sum

section
variable (percent : Percent) (tick : Tick) (ran : Ran)

structure Truthful : Prop where
  oldest_first : ran.attempts.map Attempt.entry <+: tick.entries
  needed : ∀ a ∈ ran.attempts, (resolve_thresholds tick.environ).2 ≤ a.estimate ∧ a.count < MAX_PRUNES_PER_TICK
  stops : ran.report.probed → ran.attempts.length < tick.entries.length →
    ran.report.final_usage_pct < (resolve_thresholds tick.environ).2 ∨ MAX_PRUNES_PER_TICK ≤ ran.report.pruned_count
  gone : ∀ path, path ∈ ran.report.pruned_paths ↔
    (∃ a ∈ ran.attempts, directory a.entry = path) ∧ ran.disk path = none
  freed : ran.report.freed_mb_total ≤ released (ran.attempts.filter Attempt.success)
  truly_used : ran.report.probed → ∀ total used, tick.probe = .df total used →
    usage percent (used - released ran.attempts) total ≤ ran.report.final_usage_pct

end

section
variable (base : String)

/-- The script was let through and its session ended with exit code 0. -/
def Acknowledged (entry : WorkspaceIterEntry) : Outcome → Prop
  | .ended _ (.exited 0 _ _) => safe_to_prune (directory entry) base = true
  | _ => False

/-- What the script printed in the session. -/
def stdout_of (path : String) (disk : Disk) : Outcome → Option String
  | .ended before (.exited _ _ removal) => some (run_script path removal (lost_disk base path before disk)).2
  | _ => none

/-- The reply tells what became of the directory, and neither it nor the list credits more
    than was released. -/
structure Honest (a : Attempt) : Prop where
  answered : Acknowledged base a.entry a.outcome ↔ a.after (directory a.entry) = none
  shrinks : a.after.size (directory a.entry) ≤ a.before.size (directory a.entry)
  credited : ∀ stdout ∈ stdout_of base (directory a.entry) a.before a.outcome, freed_mb_of stdout ≤ a.released ∧
    (freed_mb_of stdout = 0 → a.entry.size_mb ≤ a.released)

end

section
variable {repr : String → String} {base : String} {percent : Percent} {total_mb evict_pct : Int}
  {entry : WorkspaceIterEntry} {outcome : Outcome} {s : Progress}

theorem lost_disk_other {path other : String} {disk : Disk} (apart : other ≠ path) (removals : List Removal) :
    lost_disk base path removals disk other = disk other := by
  unfold lost_disk
  split
  · rfl
  · induction removals generalizing disk with
    | nil => rfl
    | cons removal removals ih => rw [List.foldl_cons,ih,run_script_other apart]

theorem lost_disk_gone {path : String} {disk : Disk} (gone : disk path = none) (removals : List Removal) :
    lost_disk base path removals disk = disk := by
  unfold lost_disk
  split
  · rfl
  · induction removals with
    | nil => rfl
    | cons removal removals ih => rw [List.foldl_cons,run_script_gone gone,ih]

theorem execute_prune_failed (message : String) (before : List Removal) (disk : Disk) :
    execute_prune repr base entry (.failed message before) disk =
      (.error message,lost_disk base (directory entry) before disk) := rfl

theorem execute_prune_ended (before : List Removal) (session : Session) (disk : Disk) :
    execute_prune repr base entry (.ended before session) disk =
      (.ok (prune_workspace_iter repr base entry.path entry.size_mb session (lost_disk base (directory entry) before disk)).1,
        (prune_workspace_iter repr base entry.path entry.size_mb session (lost_disk base (directory entry) before disk)).2) :=
  rfl

theorem execute_prune_other {other : String} (apart : other ≠ directory entry) (disk : Disk) :
    (execute_prune repr base entry outcome disk).2 other = disk other := by
  cases outcome with
  | failed message before =>
    rw [execute_prune_failed]
    exact lost_disk_other apart before
  | ended before session =>
    rw [execute_prune_ended]
    obtain same | ran := prune_disk repr base entry.path entry.size_mb session (lost_disk base (directory entry) before disk)
    · rw [same]
      exact lost_disk_other apart before
    · rw [ran]
      exact (Session.disk_other apart).trans (lost_disk_other apart before)

theorem execute_prune_gone {disk : Disk} (gone : disk (directory entry) = none) :
    (execute_prune repr base entry outcome disk).2 = disk := by
  cases outcome with
  | failed message before =>
    rw [execute_prune_failed]
    exact lost_disk_gone gone before
  | ended before session =>
    rw [execute_prune_ended,lost_disk_gone gone before]
    obtain same | ran := prune_disk repr base entry.path entry.size_mb session disk
    · exact same
    · exact ran.trans (Session.disk_gone gone)

/-- It succeeds exactly with a reply of exit code 0, for what that reply credits. -/
theorem execute_prune_result (disk : Disk) :
    (Acknowledged base entry outcome ∧ ∃ stdout ∈ stdout_of base (directory entry) disk outcome,
      (execute_prune repr base entry outcome disk).1 = .ok ⟨directory entry,true,credit stdout entry.size_mb,none⟩) ∨
    (¬ Acknowledged base entry outcome ∧ ((∃ message, (execute_prune repr base entry outcome disk).1 = .error message) ∨
      ∃ error, (execute_prune repr base entry outcome disk).1 = .ok ⟨directory entry,false,0,error⟩)) := by
  cases outcome with
  | failed message before => exact .inr ⟨fun ack => ack,.inl ⟨message,rfl⟩⟩
  | ended before session =>
    rw [execute_prune_ended]
    cases safe : safe_to_prune (directory entry) base with
    | false =>
      obtain ⟨error,same⟩ := prune_unsafe repr base entry.path entry.size_mb (lost_disk base (directory entry) before disk)
        session safe
      rw [same]
      refine .inr ⟨fun ack => ?_,.inr ⟨error,rfl⟩⟩
      unfold Acknowledged at ack
      split at ack
      · rw [safe] at ack
        cases ack
      · exact ack
    | true =>
      cases session with
      | refused cause =>
        rw [prune_refused repr base entry.path entry.size_mb _ safe cause]
        exact .inr ⟨fun ack => ack,.inr ⟨some cause,rfl⟩⟩
      | lost cause removal =>
        rw [prune_lost repr base entry.path entry.size_mb _ safe cause]
        exact .inr ⟨fun ack => ack,.inr ⟨some cause,rfl⟩⟩
      | exited code stderr removal =>
        by_cases zero : code = 0
        · subst zero
          rw [prune_exited repr base entry.path entry.size_mb _ safe stderr]
          exact .inl ⟨safe,_,rfl,rfl⟩
        · obtain ⟨error,same⟩ := prune_aborted repr base entry.path entry.size_mb
            (lost_disk base (directory entry) before disk) safe stderr removal zero
          rw [same]
          refine .inr ⟨fun ack => ?_,.inr ⟨error,rfl⟩⟩
          unfold Acknowledged at ack
          split at ack
          · next eq => cases eq; exact zero rfl
          · exact ack

structure Attempted (repr : String → String) (base : String) (percent : Percent) (total_mb : Int) (s s' : Progress)
    (a : Attempt) : Prop where
  attempts : s'.attempts = s.attempts ++ [a]
  before : a.before = s.disk
  after : a.after = s'.disk
  estimate : a.estimate = s.running_pct
  count : a.count = s.pruned_count
  disk : s'.disk = (execute_prune repr base a.entry a.outcome s.disk).2
  result : (a.success = true ∧ Acknowledged base a.entry a.outcome ∧
      (∃ stdout ∈ stdout_of base (directory a.entry) s.disk a.outcome,
        s'.freed_mb_total = s.freed_mb_total + credit stdout a.entry.size_mb ∧
        s'.running_used_mb = max 0 (s.running_used_mb - credit stdout a.entry.size_mb)) ∧
      s'.running_pct = percent s'.running_used_mb total_mb ∧
      s'.pruned_paths = s.pruned_paths ++ [directory a.entry]) ∨
    (a.success = false ∧ ¬ Acknowledged base a.entry a.outcome ∧ s'.freed_mb_total = s.freed_mb_total ∧
      s'.running_used_mb = s.running_used_mb ∧ s'.running_pct = s.running_pct ∧ s'.pruned_paths = s.pruned_paths)

theorem attempt_attempted : ∃ a, a.entry = entry ∧ a.outcome = outcome ∧
    Attempted repr base percent total_mb s (attempt repr base percent total_mb entry outcome s) a := by
  have outcomes := @execute_prune_result repr base entry outcome s.disk
  unfold attempt
  cases ran : execute_prune repr base entry outcome s.disk with
  | mk prune_result after =>
    rw [ran] at outcomes
    have disk : after = (execute_prune repr base entry outcome s.disk).2 := by rw [ran]
    dsimp only at outcomes ⊢
    obtain ⟨ack,stdout,printed,same⟩ | ⟨refused,⟨message,same⟩ | ⟨error,same⟩⟩ := outcomes
    · subst same
      dsimp only
      rw [if_pos rfl]
      refine ⟨⟨entry,outcome,s.disk,after,s.running_pct,s.pruned_count,true⟩,rfl,rfl,rfl,rfl,rfl,rfl,rfl,disk,?_⟩
      exact .inl ⟨rfl,ack,⟨stdout,printed,rfl,rfl⟩,rfl,rfl⟩
    · subst same
      refine ⟨⟨entry,outcome,s.disk,after,s.running_pct,s.pruned_count,false⟩,rfl,rfl,rfl,rfl,rfl,rfl,rfl,disk,?_⟩
      exact .inr ⟨rfl,refused,rfl,rfl,rfl,rfl⟩
    · subst same
      dsimp only
      rw [if_neg (by decide)]
      refine ⟨⟨entry,outcome,s.disk,after,s.running_pct,s.pruned_count,false⟩,rfl,rfl,rfl,rfl,rfl,rfl,rfl,disk,?_⟩
      exact .inr ⟨rfl,refused,rfl,rfl,rfl,rfl⟩

end

section
variable {repr : String → String} {base : String} {percent : Percent} {total used evict_pct : Int} {s s' : Progress}
  {a : Attempt} {outcomes : Nat → Outcome}

theorem released_append (attempts others : List Attempt) :
    released (attempts ++ others) = released attempts + released others := by
  rw [released,List.map_append,List.sum_append]
  rfl

theorem released_filter_le (keep : Attempt → Bool) : ∀ {attempts : List Attempt}, (∀ a ∈ attempts, 0 ≤ a.released) →
    released (attempts.filter keep) ≤ released attempts
  | [], _ => le_refl _
  | a :: attempts, nonneg => by
    have here := nonneg a List.mem_cons_self
    have rest := released_filter_le keep fun b member => nonneg b (List.mem_cons_of_mem _ member)
    by_cases kept : keep a = true
    · rw [List.filter_cons_of_pos kept]
      simp only [released,List.map_cons,List.sum_cons] at rest ⊢
      omega
    · rw [List.filter_cons_of_neg kept]
      simp only [released,List.map_cons,List.sum_cons] at rest ⊢
      omega

/-- What holds of the progress while its attempts are honest. -/
structure Inv (percent : Percent) (total used : Int) (s : Progress) : Prop where
  gone : ∀ path, path ∈ s.pruned_paths ↔ (∃ a ∈ s.attempts, directory a.entry = path) ∧ s.disk path = none
  freed : s.freed_mb_total ≤ released (s.attempts.filter Attempt.success)
  shrinks : ∀ a ∈ s.attempts, 0 ≤ a.released
  left : used - s.freed_mb_total ≤ s.running_used_mb
  pct : s.running_pct = percent s.running_used_mb total

theorem Honest.credit_le (honest : Honest base a) {stdout : String}
    (printed : stdout ∈ stdout_of base (directory a.entry) a.before a.outcome) : credit stdout a.entry.size_mb ≤ a.released := by
  obtain ⟨measured,expected⟩ := honest.credited stdout printed
  unfold credit
  dsimp only
  split
  · next missing => exact expected missing.1
  · exact measured

theorem Honest.released_nonneg (honest : Honest base a) : 0 ≤ a.released := by
  have fewer := honest.shrinks
  unfold Attempt.released
  omega

theorem Attempted.gone (made : Attempted repr base percent total s s' a) (inv : Inv percent total used s)
    (honest : Honest base a) (path : String) :
    path ∈ s'.pruned_paths ↔ (∃ b ∈ s'.attempts, directory b.entry = path) ∧ s'.disk path = none := by
  have answered := honest.answered
  rw [made.after] at answered
  rw [made.attempts]
  by_cases here : path = directory a.entry
  · subst here
    have tried : ∃ b ∈ s.attempts ++ [a], directory b.entry = directory a.entry := ⟨a,by simp,rfl⟩
    obtain ⟨_,ack,_,_,paths⟩ | ⟨_,refused,_,_,_,paths⟩ := made.result
    · rw [paths]
      exact ⟨fun _ => ⟨tried,answered.mp ack⟩,fun _ => by simp⟩
    · rw [paths]
      refine ⟨fun listed => ?_,fun both => absurd (answered.mpr both.2) refused⟩
      -- a directory that was gone before is still gone, and the reply would say so
      have before := ((inv.gone _).mp listed).2
      have still : s'.disk = s.disk := made.disk.trans (execute_prune_gone before)
      rw [still] at answered
      exact absurd (answered.mpr before) refused
  · have same : s'.disk path = s.disk path := by
      rw [made.disk]
      exact execute_prune_other here s.disk
    have listed : path ∈ s'.pruned_paths ↔ path ∈ s.pruned_paths := by
      obtain ⟨_,_,_,_,paths⟩ | ⟨_,_,_,_,_,paths⟩ := made.result
      · rw [paths]
        simp [here]
      · rw [paths]
    have tried : (∃ b ∈ s.attempts ++ [a], directory b.entry = path) ↔ ∃ b ∈ s.attempts, directory b.entry = path := by
      constructor
      · rintro ⟨b,member,rfl⟩
        obtain old | new := List.mem_append.mp member
        · exact ⟨b,old,rfl⟩
        · exact absurd (by rw [List.mem_singleton.mp new]) here
      · rintro ⟨b,member,same⟩
        exact ⟨b,List.mem_append_left _ member,same⟩
    rw [listed,tried,same]
    exact inv.gone path

theorem Attempted.inv (made : Attempted repr base percent total s s' a) (inv : Inv percent total used s)
    (honest : Honest base a) : Inv percent total used s' := by
  refine ⟨made.gone inv honest,?_,?_,?_,?_⟩
  · have before := inv.freed
    rw [made.attempts,List.filter_append,released_append]
    obtain ⟨success,_,⟨stdout,printed,freed,_⟩,_⟩ | ⟨failure,_,freed,_⟩ := made.result
    · rw [← made.before] at printed
      have most := honest.credit_le printed
      have one : released ([a].filter Attempt.success) = a.released := by simp [released,success]
      omega
    · have none_more : released ([a].filter Attempt.success) = 0 := by simp [released,failure]
      omega
  · intro b member
    rw [made.attempts] at member
    obtain old | new := List.mem_append.mp member
    · exact inv.shrinks b old
    · rw [List.mem_singleton.mp new]
      exact honest.released_nonneg
  · have before := inv.left
    obtain ⟨_,_,⟨stdout,_,freed,used⟩,_⟩ | ⟨_,_,freed,used,_⟩ := made.result
    · rw [freed,used]
      omega
    · rw [freed,used]
      exact before
  · obtain ⟨_,_,_,pct,_⟩ | ⟨_,_,_,used,pct,_⟩ := made.result
    · exact pct
    · rw [pct,used]
      exact inv.pct

theorem evict_attempts : ∀ (entries : List WorkspaceIterEntry) (s : Progress), ∀ a ∈ s.attempts,
    a ∈ (evict repr base percent total evict_pct outcomes entries s).attempts
  | [], s, a, member => member
  | entry :: entries, s, a, member => by
    rw [evict]
    split
    · exact member
    · split
      · exact member
      · apply evict_attempts entries
        obtain ⟨b,_,_,made⟩ := @attempt_attempted repr base percent total entry (outcomes s.attempts.length) s
        rw [made.attempts]
        exact List.mem_append_left _ member

theorem evict_inv : ∀ (entries : List WorkspaceIterEntry) (s : Progress), Inv percent total used s →
    (∀ a ∈ (evict repr base percent total evict_pct outcomes entries s).attempts, Honest base a) →
    Inv percent total used (evict repr base percent total evict_pct outcomes entries s)
  | [], s, inv, _ => inv
  | entry :: entries, s, inv, honest => by
    rw [evict] at honest ⊢
    split
    · exact inv
    · next busy =>
      rw [if_neg busy] at honest
      split
      · exact inv
      · next few =>
        rw [if_neg few] at honest
        obtain ⟨a,_,_,made⟩ := @attempt_attempted repr base percent total entry (outcomes s.attempts.length) s
        have last : a ∈ (attempt repr base percent total entry (outcomes s.attempts.length) s).attempts := by
          rw [made.attempts]
          simp
        exact evict_inv entries _ (made.inv inv (honest a (evict_attempts entries _ a last))) honest

/-- The entries that are attempted stand first, each with an estimate at the threshold; an entry
    is left for an estimate below it or for the number of removals. -/
theorem evict_order : ∀ (entries : List WorkspaceIterEntry) (s : Progress), ∃ consumed, consumed <+: entries ∧
    (evict repr base percent total evict_pct outcomes entries s).attempts.map Attempt.entry =
      s.attempts.map Attempt.entry ++ consumed ∧
    (consumed.length < entries.length →
      (evict repr base percent total evict_pct outcomes entries s).running_pct < evict_pct ∨
        MAX_PRUNES_PER_TICK ≤ (evict repr base percent total evict_pct outcomes entries s).pruned_count) ∧
    ∀ a ∈ (evict repr base percent total evict_pct outcomes entries s).attempts,
      a ∈ s.attempts ∨ evict_pct ≤ a.estimate ∧ a.count < MAX_PRUNES_PER_TICK
  | [], s => ⟨[],List.prefix_rfl,by rw [evict,List.append_nil],fun short => absurd short (Nat.lt_irrefl _),
      fun a member => .inl member⟩
  | entry :: entries, s => by
    rw [evict]
    split
    · next low => exact ⟨[],List.nil_prefix,by rw [List.append_nil],fun _ => .inl low,fun a member => .inl member⟩
    · next busy =>
      split
      · next full => exact ⟨[],List.nil_prefix,by rw [List.append_nil],fun _ => .inr full,fun a member => .inl member⟩
      · next few =>
        obtain ⟨b,same,_,made⟩ := @attempt_attempted repr base percent total entry (outcomes s.attempts.length) s
        obtain ⟨consumed,first,order,stops,needed⟩ := evict_order entries
          (attempt repr base percent total entry (outcomes s.attempts.length) s)
        refine ⟨entry :: consumed,List.cons_prefix_cons.mpr ⟨rfl,first⟩,?_,fun short => stops ?_,fun a member => ?_⟩
        · rw [order,made.attempts,List.map_append,List.append_assoc,← same]
          rfl
        · simp only [List.length_cons] at short
          omega
        · obtain old | new := needed a member
          · rw [made.attempts] at old
            obtain old | last := List.mem_append.mp old
            · exact .inl old
            · rw [List.mem_singleton.mp last,made.estimate,made.count]
              exact .inr ⟨not_lt.mp busy,Nat.lt_of_not_le few⟩
          · exact .inr new

end

section
variable {repr : String → String} {percent : Percent} {tick : Tick}

theorem parse_threshold_pos (environ : Environ) (name : String) {default : Int} (positive : 0 < default) :
    0 < parse_threshold environ name default := by
  unfold parse_threshold
  split
  · split
    · exact positive
    · omega
  · exact positive

theorem resolve_thresholds_ordered (environ : Environ) :
    0 < (resolve_thresholds environ).1 ∧ (resolve_thresholds environ).1 < (resolve_thresholds environ).2 := by
  have positive : 0 < parse_threshold environ "RUNNER_DISK_WARN_PCT" DEFAULT_WARN_PCT :=
    parse_threshold_pos environ _ (by decide)
  unfold resolve_thresholds
  generalize parse_threshold environ "RUNNER_DISK_WARN_PCT" DEFAULT_WARN_PCT = warn at positive ⊢
  generalize parse_threshold environ "RUNNER_DISK_EVICT_PCT" DEFAULT_EVICT_PCT = evict
  dsimp only
  split
  · decide
  · exact ⟨positive,by omega⟩

/-- The loop as a run starts it. -/
def loop (repr : String → String) (percent : Percent) (tick : Tick) (total used : Int) : Progress :=
  evict repr (resolve_runner_base_path tick.environ) percent total (resolve_thresholds tick.environ).2 tick.outcomes
    tick.entries ⟨[],[],0,used,percent used total,0,tick.disk,[]⟩

/-- The run behind the loop. -/
def finished (repr : String → String) (percent : Percent) (tick : Tick) (total used : Int) : Ran :=
  let s := loop repr percent tick total used
  ⟨⟨true,percent used total,s.running_pct,warned tick,s.pruned_paths,s.pruned_count,s.freed_mb_total,s.errors,none⟩,
    s.attempts,s.disk⟩

theorem evicted_loop {total used warn : Int} (positive : 0 < total) :
    evicted repr percent tick ⟨total,used,percent used total,warn,(resolve_thresholds tick.environ).2,none⟩ =
      loop repr percent tick total used := by
  unfold evicted loop started
  dsimp only
  rw [if_pos positive]

theorem run_evicted {total used : Int} (df : tick.probe = .df total used) (positive : 0 < total)
    (high : ¬ percent used total < (resolve_thresholds tick.environ).2) (nonempty : tick.entries ≠ []) :
    run repr percent tick = finished repr percent tick total used := by
  obtain ⟨_,ordered⟩ := resolve_thresholds_ordered tick.environ
  have pct : usage percent used total = percent used total := if_pos positive
  have warn : ¬ percent used total < (resolve_thresholds tick.environ).1 := by
    intro low
    apply high
    exact low.trans (by exact_mod_cast ordered)
  unfold run
  rw [df]
  dsimp only [probe_workspace_disk_usage]
  split
  · next low => exact absurd (pct ▸ low) warn
  · split
    · next low => exact absurd (pct ▸ low) high
    · have same := @evicted_loop repr percent tick total used (resolve_thresholds tick.environ).1 positive
      simp only [pct,same,finished]

/-- A run without a probe, one that attempts nothing, or the loop from a probe. -/
inductive Course (repr : String → String) (percent : Percent) (tick : Tick) : Ran → Prop
  | unprobed (message : String) : Course repr percent tick ⟨unprobed message,[],tick.disk⟩
  | idle (total used : Int) (warned : Bool) (df : tick.probe = .df total used)
      (enough : usage percent used total < (resolve_thresholds tick.environ).2 ∨ tick.entries = []) :
      Course repr percent tick ⟨idle (usage percent used total) warned,[],tick.disk⟩
  | finished (total used : Int) (df : tick.probe = .df total used) (positive : 0 < total) :
      Course repr percent tick (finished repr percent tick total used)

theorem run_course : Course repr percent tick (run repr percent tick) := by
  obtain ⟨positive,ordered⟩ := resolve_thresholds_ordered tick.environ
  cases df : tick.probe with
  | failed message =>
    unfold run
    rw [df]
    exact .unprobed _
  | error message =>
    unfold run
    rw [df]
    exact .unprobed _
  | df total used =>
    by_cases low : usage percent used total < (resolve_thresholds tick.environ).2
    · unfold run
      rw [df]
      dsimp only [probe_workspace_disk_usage]
      split
      · exact .idle total used false df (.inl low)
      · exact .idle total used _ df (.inl low)
    · have large : 0 < total := by
        by_contra small
        apply low
        rw [usage,if_neg small]
        exact_mod_cast positive.trans ordered
      by_cases nothing : tick.entries = []
      · have warn : ¬ usage percent used total < (resolve_thresholds tick.environ).1 :=
          fun less => low (less.trans (by exact_mod_cast ordered))
        unfold run
        rw [df]
        dsimp only [probe_workspace_disk_usage]
        rw [if_neg warn,if_neg low,if_pos nothing]
        exact .idle total used _ df (.inr nothing)
      · rw [usage,if_pos large] at low
        rw [run_evicted df large low nothing]
        exact .finished total used df large

/-- In a run whose attempts are honest the report is truthful, for a percentage that does not
    fall where the space in use grows. -/
theorem eviction_truthful (repr : String → String) (percent : Percent)
    (percent_mono : ∀ total, 0 < total → Monotone fun used => percent used total) (tick : Tick)
    (honest : ∀ a ∈ (run repr percent tick).attempts, Honest (resolve_runner_base_path tick.environ) a) :
    Truthful percent tick (run repr percent tick) := by
  have course := @run_course repr percent tick
  generalize run repr percent tick = ran at course honest ⊢
  cases course with
  | unprobed message =>
    exact ⟨List.nil_prefix,fun a member => absurd member List.not_mem_nil,nofun,
      fun path => by simp [unprobed],le_refl _,nofun⟩
  | idle total used warned df enough =>
    refine ⟨List.nil_prefix,fun a member => absurd member List.not_mem_nil,fun _ some_left => ?_,
      fun path => by simp [idle],le_refl _,fun _ total' used' df' => ?_⟩
    · obtain low | nothing := enough
      · exact .inl low
      · simp [nothing] at some_left
    · rw [df] at df'
      cases df'
      simp [released,idle]
  | finished total used df positive =>
    obtain ⟨consumed,first,order,stops,needed⟩ := @evict_order repr (resolve_runner_base_path tick.environ)
      percent total (resolve_thresholds tick.environ).2 tick.outcomes tick.entries
      ⟨[],[],0,used,percent used total,0,tick.disk,[]⟩
    have start : Inv percent total used ⟨[],[],0,used,percent used total,0,tick.disk,[]⟩ :=
      ⟨fun path => by simp,le_refl _,fun a member => absurd member List.not_mem_nil,by simp,rfl⟩
    have inv : Inv percent total used (loop repr percent tick total used) := evict_inv tick.entries _ start honest
    have listed : (loop repr percent tick total used).attempts.map Attempt.entry = consumed := order
    refine ⟨listed ▸ first,fun a member => ?_,fun _ short => stops ?_,inv.gone,inv.freed,fun _ total' used' df' => ?_⟩
    · exact (needed a member).resolve_left List.not_mem_nil
    · rw [← listed,List.length_map]
      exact short
    · rw [df] at df'
      cases df'
      have fewer := released_filter_le Attempt.success inv.shrinks
      have freed := inv.freed
      have left := inv.left
      rw [usage,if_pos positive]
      refine (percent_mono total positive ?_).trans (le_of_eq inv.pct.symm)
      show used - released (loop repr percent tick total used).attempts ≤ (loop repr percent tick total used).running_used_mb
      omega

end

/-- The percentage of numbers that need no rounding. -/
def exactly (used total : Int) : Rat := used * 100 / total

def iteration : WorkspaceIterEntry := ⟨"/var/ai-runner/PAY-1/iter-1","PAY-1",1,0,100⟩

/-- A disk of 1000 MB with 950 in use, 100 of them in one directory. -/
def full (leaves : Option Nat) : Tick where
  environ _ := none
  probe := .df 1000 950
  warning := .ok ()
  listing := .ok [iteration]
  outcomes _ := .ended [] (.exited 0 "" ⟨"100",leaves⟩)
  disk path := if path = iteration.path then some 100 else none

theorem exactly_mono (total : Int) (positive : 0 < total) : Monotone fun used => exactly used total := by
  intro less more le
  have large : (0 : Rat) < total := by exact_mod_cast positive
  have order : (less : Rat) ≤ more := by exact_mod_cast le
  show (less : Rat) * 100 / total ≤ more * 100 / total
  apply div_le_div_of_nonneg_right _ large.le
  linarith

/-- A second directory, which was used later. -/
def later_iteration : WorkspaceIterEntry := ⟨"/var/ai-runner/PAY-2/iter-1","PAY-2",1,5,120⟩

/-- A disk of 2000 MB that is below the threshold when both directories are removed. -/
def crowded : Tick where
  environ _ := none
  probe := .df 2000 1950
  warning := .ok ()
  listing := .ok [iteration,later_iteration]
  outcomes n := .ended [] (.exited 0 "" ⟨if n = 0 then "100" else "120",none⟩)
  disk path := if path = iteration.path then some 100 else if path = later_iteration.path then some 120 else none

instance (base : String) (entry : WorkspaceIterEntry) : (outcome : Outcome) → Decidable (Acknowledged base entry outcome)
  | .ended _ (.exited 0 _ _) => inferInstanceAs (Decidable (_ = true))
  | .ended _ (.exited (.ofNat (_ + 1)) _ _) => isFalse id
  | .ended _ (.exited (.negSucc _) _ _) => isFalse id
  | .ended _ (.refused _) => isFalse id
  | .ended _ (.lost _ _) => isFalse id
  | .failed _ _ => isFalse id

instance (base : String) (a : Attempt) : Decidable (Honest base a) :=
  decidable_of_iff ((Acknowledged base a.entry a.outcome ↔ a.after (directory a.entry) = none) ∧
      a.after.size (directory a.entry) ≤ a.before.size (directory a.entry) ∧
      ∀ stdout ∈ stdout_of base (directory a.entry) a.before a.outcome, freed_mb_of stdout ≤ a.released ∧
        (freed_mb_of stdout = 0 → a.entry.size_mb ≤ a.released))
    ⟨fun ⟨answered,shrinks,credited⟩ => ⟨answered,shrinks,credited⟩,fun honest => ⟨honest.answered,honest.shrinks,honest.credited⟩⟩

/-- Two directories that are removed. -/
theorem removals_reported : (run (fun text => text) exactly crowded).report.pruned_paths = [iteration.path,later_iteration.path] ∧
    Truthful exactly crowded (run (fun text => text) exactly crowded) :=
  ⟨by decide +kernel,eviction_truthful (fun text => text) exactly exactly_mono crowded (by decide +kernel)⟩

/-- The removal fails, and the directory is listed as pruned with its size as freed. -/
theorem failed_removal_reported :
    ¬ Truthful exactly (full (some 100)) (run (fun text => text) exactly (full (some 100))) := by
  intro truthful
  have listed : iteration.path ∈ (run (fun text => text) exactly (full (some 100))).report.pruned_paths := by decide +kernel
  have stays : (run (fun text => text) exactly (full (some 100))).disk iteration.path = some 100 := by decide +kernel
  have missing := ((truthful.gone iteration.path).mp listed).2
  rw [stays] at missing
  cases missing

end Automation.Eviction
