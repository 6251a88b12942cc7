import Automation.WebhookSecrets

/-!
The cron that ends the overlap of rotated webhook secrets. It reads the attributes of the
entries that the listing answers, where the converter delivers an object of JSON as a
dictionary, which has none of them: a tick with an entry stops at the first
(`closes_iff`). Entries that are instances it would take as it should, up to the rotations
that open a window while it is at work (`closes_typed_iff`).
-/
namespace Automation.RotationFinalize
open Automation.Calendar Automation.WebhookSecrets

structure WebhookOverlapEntry where
  dept_id : String
  provider : String
  overlap_until : String
  deriving DecidableEq

/-- What the workflow gets for an entry. -/
inductive Delivered where
  | dict (fields : Dict String String)
  | typed (entry : WebhookOverlapEntry)

/-- The converter writes the fields of a dataclass as an object, and reads an object as a
    dictionary where no type is named. -/
def deliver (entry : WebhookOverlapEntry) : Delivered :=
  .dict (.ofItems [("dept_id",entry.dept_id),("provider",entry.provider),("overlap_until",entry.overlap_until)])

/-- `overlap_until > now`, where a malformed timestamp counts as `now`. -/
def window_active (now : Datetime) (overlap_until : String) : Bool :=
  match fromisoformat overlap_until with
  | some overlap_until => now.instant < (ensure_aware overlap_until).instant
  | none => false

/-- An attempt of `finalize_webhook_rotation`: what happens to the vault before it, and when
    and whether it clears the slot. -/
structure Attempt where
  between : List Call
  clock : Datetime
  effective : Bool

/-- The name of its type and its text. -/
structure Failure where
  type : String
  text : String

/-- How the activity answers a call. -/
structure Answer where
  attempts : List Attempt
  failure : Option Failure

structure WebhookFinalizeError where
  dept_id : String
  provider : String
  error : String

/-- A slot that was cleared, with what was in it. -/
structure Clearing where
  clock : Datetime
  payload : Option Payload

/-- The vault, with the slots that were cleared. -/
structure World where
  store : Store
  clearings : List Clearing

/-- A call that raises leaves the vault as it is. -/
def settle (store : Store) (call : Call) : Store :=
  match perform HashicorpBackend.client store call with
  | .ok (store,_) => store
  | .error _ => store

def World.attempt (dept_id provider : String) (w : World) (attempt : Attempt) : World :=
  let store := attempt.between.foldl settle w.store
  if attempt.effective then
    match previous provider dept_id, finalize HashicorpBackend.client store dept_id provider with
    | .ok previous_path, .ok cleared => ⟨cleared,w.clearings ++ [⟨attempt.clock,store previous_path⟩]⟩
    | _, _ => { w with store := store }
  else { w with store := store }

/-- The counters of the workflow, the calls that it made, and the vault. -/
structure Tick where
  finalized : Nat
  skipped : Nat
  errors : List WebhookFinalizeError
  calls : List (String × String)
  world : World

def Tick.called (t : Tick) (entry : WebhookOverlapEntry) (answer : Answer) : Tick :=
  { t with
    calls := t.calls ++ [(entry.dept_id,entry.provider)]
    world := answer.attempts.foldl (World.attempt entry.dept_id entry.provider) t.world }

def Tick.answered (t : Tick) (entry : WebhookOverlapEntry) : Option Failure → Tick
  | none => { t with finalized := t.finalized + 1 }
  | some failure => { t with errors := t.errors ++ [⟨entry.dept_id,entry.provider,failure.type ++ ": " ++ failure.text⟩] }

def finalize_entry (answers : Nat → Answer) (t : Tick) (entry : WebhookOverlapEntry) : Tick :=
  let answer := answers t.calls.length
  (t.called entry answer).answered entry answer.failure

/-- An entry with its attributes. -/
def visit (now : Datetime) (answers : Nat → Answer) (t : Tick) (entry : WebhookOverlapEntry) : Tick :=
  if window_active now entry.overlap_until then { t with skipped := t.skipped + 1 } else finalize_entry answers t entry

/-- What the workflow does not catch. -/
inductive Uncaught where
  | AttributeError (name : String)
  deriving DecidableEq

/-- The loop, up to an exception. -/
def loop (now : Datetime) (answers : Nat → Answer) : Tick → List Delivered → Tick × Option Uncaught
  | t, [] => (t,none)
  | t, .dict _ :: _ => (t,some (.AttributeError "overlap_until"))
  | t, .typed entry :: rest => loop now answers (visit now answers t entry) rest

structure WebhookRotationFinalizeReport where
  scanned : Nat
  finalized : Nat
  skipped : Nat
  errors : List WebhookFinalizeError

/-- What comes of a tick. With an exception there is no report: the task of the workflow
    fails, and is tried again. -/
structure Outcome where
  report : Except Uncaught WebhookRotationFinalizeReport
  calls : List (String × String)
  clearings : List Clearing

def run (entries : List Delivered) (now : Datetime) (answers : Nat → Answer) (store : Store) : Outcome :=
  let (t,uncaught) := loop now answers ⟨0,0,[],[],⟨store,[]⟩⟩ entries
  { report :=
      match uncaught with
      | some raised => .error raised
      | none => .ok ⟨entries.length,t.finalized,t.skipped,t.errors⟩
    calls := t.calls
    clearings := t.world.clearings }

/-- The window of an entry ended at the clock or before. -/
def Expired (now : Datetime) (entry : WebhookOverlapEntry) : Prop :=
  ∃ overlap_until, fromisoformat entry.overlap_until = some overlap_until ∧ (ensure_aware overlap_until).instant ≤ now.instant

/-- No secret was cleared whose window was open. -/
def Spares (clearings : List Clearing) : Prop := ∀ c ∈ clearings, open_secret c.clock c.payload = none

structure Closes (entries : List WebhookOverlapEntry) (now : Datetime) (o : Outcome) : Prop where
  expired : ∀ entry ∈ entries, Expired now entry → (entry.dept_id,entry.provider) ∈ o.calls
  spares : Spares o.clearings
  counts : ∃ report, o.report = .ok report ∧ report.scanned = entries.length ∧
    report.scanned = report.finalized + report.skipped + report.errors.length

section
variable (now : Datetime) (answers : Nat → Answer) (store : Store)

theorem run_nil : run [] now answers store = ⟨.ok ⟨0,0,0,[]⟩,[],[]⟩ := rfl

/-- The first entry ends the tick before any call. -/
theorem run_delivered (entry : WebhookOverlapEntry) (entries : List WebhookOverlapEntry) :
    run ((entry :: entries).map deliver) now answers store = ⟨.error (.AttributeError "overlap_until"),[],[]⟩ := rfl

/-- Delivered entries are closed as they should be only where there are none. -/
theorem closes_iff (entries : List WebhookOverlapEntry) :
    Closes entries now (run (entries.map deliver) now answers store) ↔ entries = [] := by
  constructor
  · intro closes
    cases entries with
    | nil => rfl
    | cons entry entries =>
      obtain ⟨report,returned,-⟩ := closes.counts
      rw [run_delivered] at returned
      cases returned
  · rintro rfl
    rw [List.map_nil,run_nil]
    exact ⟨fun _ member => (nomatch member),fun _ member => (nomatch member),⟨0,0,0,[]⟩,rfl,rfl,rfl⟩

/-- The entries that the workflow takes for expired. -/
def due (entries : List WebhookOverlapEntry) : List WebhookOverlapEntry :=
  entries.filter fun entry => !window_active now entry.overlap_until

theorem loop_typed (t : Tick) (entries : List WebhookOverlapEntry) :
    loop now answers t (entries.map .typed) = (entries.foldl (visit now answers) t,none) := by
  induction entries generalizing t with
  | nil => rfl
  | cons entry entries ih => exact ih (visit now answers t entry)

/-- The entries that were counted. -/
def Tick.counted (t : Tick) : Nat := t.finalized + t.skipped + t.errors.length

theorem answered_counted (t : Tick) (entry : WebhookOverlapEntry) (failure : Option Failure) :
    (t.answered entry failure).counted = t.counted + 1 := by
  cases failure with
  | none =>
    show t.finalized + 1 + t.skipped + t.errors.length = t.finalized + t.skipped + t.errors.length + 1
    omega
  | some failure =>
    show t.finalized + t.skipped + (t.errors ++ [_]).length = t.finalized + t.skipped + t.errors.length + 1
    rw [List.length_append,List.length_singleton]
    omega

theorem answered_calls (t : Tick) (entry : WebhookOverlapEntry) (failure : Option Failure) :
    (t.answered entry failure).calls = t.calls := by
  cases failure with
  | none => rfl
  | some failure => rfl

theorem visit_counted (t : Tick) (entry : WebhookOverlapEntry) : (visit now answers t entry).counted = t.counted + 1 := by
  unfold visit
  split
  · show t.finalized + (t.skipped + 1) + t.errors.length = t.finalized + t.skipped + t.errors.length + 1
    omega
  · exact answered_counted (t.called entry (answers t.calls.length)) entry _

theorem visits_counted (t : Tick) (entries : List WebhookOverlapEntry) :
    (entries.foldl (visit now answers) t).counted = t.counted + entries.length := by
  induction entries generalizing t with
  | nil => rfl
  | cons entry entries ih =>
    rw [List.foldl_cons,ih,visit_counted,List.length_cons]
    omega

theorem visit_calls (t : Tick) (entry : WebhookOverlapEntry) :
    (visit now answers t entry).calls =
      t.calls ++ if window_active now entry.overlap_until then [] else [(entry.dept_id,entry.provider)] := by
  unfold visit
  split
  · rw [List.append_nil]
  · exact answered_calls (t.called entry (answers t.calls.length)) entry _

theorem visits_calls (t : Tick) (entries : List WebhookOverlapEntry) :
    (entries.foldl (visit now answers) t).calls = t.calls ++ (due now entries).map fun entry => (entry.dept_id,entry.provider) := by
  induction entries generalizing t with
  | nil => exact (List.append_nil _).symm
  | cons entry entries ih =>
    rw [List.foldl_cons,ih,visit_calls]
    unfold due
    by_cases still : window_active now entry.overlap_until = true
    · rw [if_pos still,List.append_nil,List.filter_cons_of_neg (by simp [still])]
    · rw [if_neg still,List.filter_cons_of_pos (by simp [still]),List.map_cons,List.append_assoc,List.singleton_append]

theorem expired_due {entry : WebhookOverlapEntry} (expired : Expired now entry) : window_active now entry.overlap_until = false := by
  obtain ⟨overlap_until,parsed,before⟩ := expired
  unfold window_active
  rw [parsed]
  simp only [decide_eq_false_iff_not]
  omega

/-- Instances are closed as they should be just where nothing that is cleared has been
    opened anew. -/
theorem closes_typed_iff (entries : List WebhookOverlapEntry) :
    Closes entries now (run (entries.map .typed) now answers store) ↔
      Spares (run (entries.map .typed) now answers store).clearings := by
  constructor
  · intro closes
    exact closes.spares
  · intro spares
    refine ⟨?_,spares,?_⟩
    · intro entry member expired
      have calls : (run (entries.map .typed) now answers store).calls = (due now entries).map fun entry => (entry.dept_id,entry.provider) := by
        unfold run
        rw [loop_typed]
        exact visits_calls now answers _ entries
      rw [calls]
      refine List.mem_map_of_mem (f := fun entry : WebhookOverlapEntry => (entry.dept_id,entry.provider)) (List.mem_filter.mpr ⟨member,?_⟩)
      rw [expired_due now expired]
      rfl
    · have counted := visits_counted now answers ⟨0,0,[],[],⟨store,[]⟩⟩ entries
      unfold run
      rw [loop_typed,List.length_map]
      exact ⟨_,rfl,rfl,(counted.trans (Nat.zero_add _)).symm⟩

end

def expired_entry : WebhookOverlapEntry := ⟨"payments","jira","2026-01-01T00:00:00+00:00"⟩

/-- An hour later. -/
def tick_time : Datetime := ⟨739616 * DAY + 3600000000,some 0,by decide⟩

/-- An entry that expired is delivered, and its window is not closed. -/
theorem stays_open : Expired tick_time expired_entry ∧
    ¬Closes [expired_entry] tick_time (run ([expired_entry].map deliver) tick_time (fun _ => ⟨[],none⟩) fun _ => none) := by
  have parsed : fromisoformat expired_entry.overlap_until = some ⟨739616 * DAY,some 0,by decide⟩ := by decide +kernel
  refine ⟨⟨_,parsed,by decide⟩,fun closes => ?_⟩
  exact absurd ((closes_iff ..).mp closes) (by decide)

end Automation.RotationFinalize
