import Automation.RunnerActivities
import Mathlib.Logic.Function.Basic

/-!
The activity that removes one `iter-N` directory of the runner. It guards the path, has a
script measure and remove the directory, and credits the size that the script reports, or
the size that was expected where the script reports none.
-/
namespace Automation.WorkspacePrune
open Automation.PyText
open Automation.RunnerActivities (Environ stripped)

structure WorkspaceIterEntry where
  path : String
  issue_key : String
  iter_n : Int
  mtime_epoch : Int
  size_mb : Int

structure WorkspacePruneResult where
  path : String
  success : Bool
  freed_mb : Int
  error : Option String

def resolve_runner_base_path (environ : Environ) : String :=
  rstripChar '/' (if stripped environ "RUNNER_BASE_PATH" ≠ "" then stripped environ "RUNNER_BASE_PATH"
    else if stripped environ "SSH_BASE_PATH" ≠ "" then stripped environ "SSH_BASE_PATH" else "/var/ai-runner")

def safe_to_prune (path base : String) : Bool :=
  path ≠ "" && base ≠ "" && !(splitAt '/' path.toList).contains "..".toList &&
    hasPrefix path (rstripChar '/' base ++ "/") && contains path "/iter-"

/-- The number of the last line `FREED=`. -/
def freed_mb_of (stdout : String) : Int :=
  ((splitlines (strip stdout)).map strip).foldl
    (fun freed line => if hasPrefix line "FREED=" then (pyInt (dropChars 6 line)).getD 0 else freed) 0

/-- The directories of the host, with their MB. -/
abbrev Disk := String → Option Nat

def Disk.size (disk : Disk) (path : String) : Nat := (disk path).getD 0

/-- What the script meets at a directory: the text that `du` gives, and the MB that `rm -rf`
    leaves, nothing where it succeeds. -/
structure Removal where
  measured : String
  leaves : Option Nat

/-- The script of the activity at a path that is one plain word, with what it prints. It
    ends with the exit code of an `echo`. -/
def run_script (path : String) (removal : Removal) (disk : Disk) : Disk × String :=
  match disk path,removal.leaves with
  | none,_ => (disk,"FREED=0\n")
  | some _,none => (Function.update disk path none,"FREED=" ++ removal.measured ++ "\n")
  | some _,some mb => (Function.update disk path (some mb),"FREED=0\n")

/-- What becomes of the SSH session: it is refused, it is lost after the script has run, or it
    ends with an exit code. -/
inductive Session
  | refused (cause : String)
  | lost (cause : String) (removal : Removal)
  | exited (code : Int) (stderr : String) (removal : Removal)

def Session.disk (path : String) (disk : Disk) : Session → Disk
  | .refused _ => disk
  | .lost _ removal => (run_script path removal disk).1
  | .exited _ _ removal => (run_script path removal disk).1

/-- What the activity credits where its script printed `stdout`. -/
def credit (stdout : String) (expected_size_mb : Int) : Int :=
  let freed_mb := freed_mb_of stdout
  if freed_mb = 0 ∧ 0 < expected_size_mb then expected_size_mb else freed_mb

/-- The result, and the disk behind it. -/
def prune_workspace_iter (repr : String → String) (base payload_path : String) (expected_size_mb : Int) (session : Session) (disk : Disk) :
    WorkspacePruneResult × Disk :=
  let path := strip payload_path
  if safe_to_prune path base = false then
    (⟨path,false,0,some ("refused unsafe prune path=" ++ repr path ++ " (outside base=" ++ repr base ++
      " or missing /iter- segment)")⟩,disk)
  else
    match session with
    | .refused cause => (⟨path,false,0,some cause⟩,disk)
    | .lost cause removal => (⟨path,false,0,some cause⟩,(run_script path removal disk).1)
    | .exited code stderr removal =>
      let (after,stdout) := run_script path removal disk
      if code ≠ 0 then (⟨path,false,0,some ("rm -rf exit_code=" ++ toString code ++ ": " ++ takeChars 200 stderr)⟩,after)
      else (⟨path,true,credit stdout expected_size_mb,none⟩,after)

section
variable {path other : String} {removal : Removal} {disk : Disk}

theorem run_script_other (apart : other ≠ path) : (run_script path removal disk).1 other = disk other := by
  unfold run_script
  split
  · rfl
  · exact Function.update_of_ne apart ..
  · exact Function.update_of_ne apart ..

theorem run_script_gone (gone : disk path = none) : (run_script path removal disk).1 = disk := by
  unfold run_script
  rw [gone]

theorem Session.disk_other {session : Session} (apart : other ≠ path) : session.disk path disk other = disk other := by
  cases session with
  | refused cause => rfl
  | lost cause removal => exact run_script_other apart
  | exited code stderr removal => exact run_script_other apart

theorem Session.disk_gone {session : Session} (gone : disk path = none) : session.disk path disk = disk := by
  cases session with
  | refused cause => rfl
  | lost cause removal => exact run_script_gone gone
  | exited code stderr removal => exact run_script_gone gone

variable (repr : String → String) (base payload_path : String) (expected_size_mb : Int) (disk : Disk)

theorem prune_unsafe (session : Session) (bad : safe_to_prune (strip payload_path) base = false) :
    ∃ error, prune_workspace_iter repr base payload_path expected_size_mb session disk =
      (⟨strip payload_path,false,0,error⟩,disk) := by
  unfold prune_workspace_iter
  exact ⟨_,if_pos bad⟩

variable (safe : safe_to_prune (strip payload_path) base = true)
include safe

theorem prune_refused (cause : String) :
    prune_workspace_iter repr base payload_path expected_size_mb (.refused cause) disk =
      (⟨strip payload_path,false,0,some cause⟩,disk) := by
  unfold prune_workspace_iter
  exact if_neg (by simp [safe])

theorem prune_lost (cause : String) :
    prune_workspace_iter repr base payload_path expected_size_mb (.lost cause removal) disk =
      (⟨strip payload_path,false,0,some cause⟩,(run_script (strip payload_path) removal disk).1) := by
  unfold prune_workspace_iter
  exact if_neg (by simp [safe])

theorem prune_aborted {code : Int} (stderr : String) (removal : Removal) (other : code ≠ 0) :
    ∃ error, prune_workspace_iter repr base payload_path expected_size_mb (.exited code stderr removal) disk =
      (⟨strip payload_path,false,0,error⟩,(run_script (strip payload_path) removal disk).1) := by
  unfold prune_workspace_iter
  exact ⟨_,(if_neg (by simp [safe])).trans (if_pos other)⟩

theorem prune_exited (stderr : String) (removal : Removal) :
    prune_workspace_iter repr base payload_path expected_size_mb (.exited 0 stderr removal) disk =
      (⟨strip payload_path,true,credit (run_script (strip payload_path) removal disk).2 expected_size_mb,none⟩,
        (run_script (strip payload_path) removal disk).1) := by
  unfold prune_workspace_iter
  exact (if_neg (by simp [safe])).trans (if_neg (by simp))

end

/-- The directory of the activity has the disk as it was or as its script leaves it. -/
theorem prune_disk (repr : String → String) (base payload_path : String) (expected_size_mb : Int) (session : Session)
    (disk : Disk) : (prune_workspace_iter repr base payload_path expected_size_mb session disk).2 = disk ∨
      (prune_workspace_iter repr base payload_path expected_size_mb session disk).2 =
        session.disk (strip payload_path) disk := by
  cases safe : safe_to_prune (strip payload_path) base with
  | false =>
    obtain ⟨error,same⟩ := prune_unsafe repr base payload_path expected_size_mb disk session safe
    exact .inl (by rw [same])
  | true =>
    cases session with
    | refused cause => exact .inl (by rw [prune_refused repr base payload_path expected_size_mb disk safe cause])
    | lost cause removal =>
      refine .inr ?_
      rw [prune_lost repr base payload_path expected_size_mb disk safe cause]
      rfl
    | exited code stderr removal =>
      refine .inr ?_
      by_cases zero : code = 0
      · subst zero
        rw [prune_exited repr base payload_path expected_size_mb disk safe stderr]
        rfl
      · obtain ⟨error,same⟩ := prune_aborted repr base payload_path expected_size_mb disk safe stderr removal zero
        rw [same]
        rfl

end Automation.WorkspacePrune
