import Automation.Streaks
import Mathlib.Logic.Function.Basic
import Mathlib.Tactic.Common

/-!
The audit rows of the external providers. Any number of viewers list the providers, each in
order; a viewer waits while a probe is under way and while a row is written, and the others
go on meanwhile. The rows count the failed probes and the streaks of three in every run in
which no failed result comes from the cache, no probe of a provider ends while a row of that
provider is being written, and no write fails (`alerts_exact`).
-/
namespace Automation.ExternalAlerts
open Automation.Streaks

inductive ExternalProbeStatus
  | ok | unreachable | unauthorized | rate_limited
  deriving DecidableEq

/-- How long a result is kept, in microseconds. -/
def CACHE_TTL_SECONDS : Nat := 30 * 1000000
def EXTERNAL_PROVIDER_STREAK_THRESHOLD : Nat := 3

structure CacheEntry where
  result : ExternalProbeStatus
  expires_at : Nat

structure StreakState where
  consecutive_failures : Nat
  streak_alert_emitted : Bool

/-- Where a viewer waits, and for what. -/
inductive Stage
  | next
  | probing (name : String)
  | row (name : String) (status : ExternalProbeStatus) (streak : Nat)
  | alert (name : String) (status : ExternalProbeStatus) (consecutive_failures : Nat)

/-- A call of `list_external_services`, with the entries that are left. -/
structure Viewer where
  bypass_cache : Bool
  entries : List String
  stage : Stage

/-- A probe has ended, or a row is written. -/
inductive Event
  | probed (name : String) (status : ExternalProbeStatus)
  | external_provider_probe_failed (name : String) (status : ExternalProbeStatus) (streak : Nat)
  | external_provider_streak_alert (name : String) (status : ExternalProbeStatus) (consecutive_failures : Nat)

/-- The process; `monotonic` is its clock in microseconds, and the log has its last event first. -/
structure State where
  monotonic : Nat
  cache : String → Option CacheEntry
  streak_state : String → StreakState
  viewers : Nat → Viewer
  log : List Event

/-! ### The parts of a call -/

/-- `_get_cached`, with the cache behind it. -/
def get_cached (s : State) (name : String) : Option ExternalProbeStatus × (String → Option CacheEntry) :=
  match s.cache name with
  | none => (none,s.cache)
  | some entry =>
    if entry.expires_at < s.monotonic then (none,Function.update s.cache name none) else (some entry.result,s.cache)

def set_cached (name : String) (result : ExternalProbeStatus) (s : State) : State :=
  { s with cache := Function.update s.cache name (some ⟨result,s.monotonic + CACHE_TTL_SECONDS⟩) }

def State.keep (s : State) (cache : String → Option CacheEntry) : State := { s with cache }

def State.put (s : State) (v : Nat) (viewer : Viewer) : State := { s with viewers := Function.update s.viewers v viewer }

def State.go (s : State) (v : Nat) (stage : Stage) : State := s.put v { s.viewers v with stage }

/-- `emit_probe_audit` up to its first write. -/
def emit_probe_audit (v : Nat) (name : String) (status : ExternalProbeStatus) (s : State) : State :=
  let state := s.streak_state name
  if status = .ok then
    { s with streak_state := Function.update s.streak_state name ⟨0,false⟩ }.go v .next
  else
    { s with streak_state := Function.update s.streak_state name { state with consecutive_failures := state.consecutive_failures + 1 } }.go v
      (.row name status (state.consecutive_failures + 1))

/-- Behind the first write: the alert is due, or the viewer goes on. -/
def emit_streak_alert (v : Nat) (name : String) (status : ExternalProbeStatus) (s : State) : State :=
  let state := s.streak_state name
  if EXTERNAL_PROVIDER_STREAK_THRESHOLD ≤ state.consecutive_failures ∧ state.streak_alert_emitted = false then
    s.go v (.alert name status state.consecutive_failures)
  else s.go v .next

/-! ### Steps -/

/-- Time passes, a call comes in at a viewer that is idle, a viewer takes its next entry, its
    probe ends, with a status or in an exception that ends the call, or its write ends, with a
    row or in an exception. -/
inductive Act
  | tick (microseconds : Nat)
  | call (v : Nat) (bypass_cache : Bool) (entries : List String)
  | begin (v : Nat)
  | probed (v : Nat) (status : ExternalProbeStatus)
  | raised (v : Nat)
  | written (v : Nat) (row : Bool)

def step (s : State) : Act → Option State
  | .tick microseconds => some { s with monotonic := s.monotonic + microseconds }
  | .call v bypass_cache entries =>
    match s.viewers v with
    | ⟨_,[],.next⟩ => some (s.put v ⟨bypass_cache,entries,.next⟩)
    | _ => none
  | .begin v =>
    match s.viewers v with
    | ⟨bypass_cache,name :: entries,.next⟩ =>
      let s := s.put v ⟨bypass_cache,entries,.next⟩
      if bypass_cache then some (s.go v (.probing name))
      else
        let (cached,cache) := get_cached s name
        match cached with
        | some status => some (emit_probe_audit v name status (s.keep cache))
        | none => some ((s.keep cache).go v (.probing name))
    | _ => none
  | .probed v status =>
    match (s.viewers v).stage with
    | .probing name =>
      some (emit_probe_audit v name status (set_cached name status { s with log := .probed name status :: s.log }))
    | _ => none
  | .raised v =>
    match (s.viewers v).stage with
    | .probing _ => some (s.put v ⟨false,[],.next⟩)
    | _ => none
  | .written v row =>
    match (s.viewers v).stage with
    | .row name status streak =>
      if row then
        some (emit_streak_alert v name status { s with log := .external_provider_probe_failed name status streak :: s.log })
      else some (s.go v .next)
    | .alert name status consecutive_failures =>
      if row then
        some ({ s with
          streak_state := Function.update s.streak_state name { s.streak_state name with streak_alert_emitted := true }
          log := .external_provider_streak_alert name status consecutive_failures :: s.log }.go v .next)
      else some (s.go v .next)
    | _ => none

def run (s : State) : List Act → Option State
  | [] => some s
  | act :: acts => (step s act).bind fun next => run next acts

def initial : State := ⟨0,fun _ => none,fun _ => ⟨0,false⟩,fun _ => ⟨false,[],.next⟩,[]⟩

/-! ### What the rows count -/

section
variable (name : String)

/-- The outcomes of the probes of a provider, the last one first. -/
def outcomes (log : List Event) : List Bool :=
  log.filterMap fun
    | .probed n status => if n = name then some (status = .ok) else none
    | _ => none

def failures (log : List Event) : Nat := (outcomes name log).count false

def rows (log : List Event) : Nat :=
  log.countP fun
    | .external_provider_probe_failed n _ _ => n = name
    | _ => false

def alerts (log : List Event) : Nat :=
  log.countP fun
    | .external_provider_streak_alert n _ _ => n = name
    | _ => false

/-- The provider whose row a viewer waits for. -/
def Stage.writes : Stage → Option String
  | .row name _ _ => some name
  | .alert name _ _ => some name
  | _ => none

def Writing (s : State) : Prop := ∃ v, (s.viewers v).stage.writes = some name

/-- One row for each failed probe, one alert for each streak that reaches the threshold. -/
def Exact (s : State) : Prop :=
  rows name s.log = failures name s.log ∧
    alerts name s.log = reaching EXTERNAL_PROVIDER_STREAK_THRESHOLD (outcomes name s.log)

end

/-- A cached result is not a failed one, a probe does not end while a row of its provider is
    written, and a write does not fail. -/
def Allowed (s : State) : Act → Prop
  | .begin v => ∀ bypass_cache name entries, s.viewers v = ⟨bypass_cache,name :: entries,.next⟩ →
      bypass_cache = true ∨ ∀ status, (get_cached s name).1 = some status → status = .ok
  | .probed v _ => ∀ name, (s.viewers v).stage = .probing name → ¬ Writing name s
  | .written _ row => row = true
  | _ => True

/-- All steps of a run are allowed. -/
def AllAllowed (s : State) : List Act → Prop
  | [] => True
  | act :: acts => Allowed s act ∧ ∀ next, step s act = some next → AllAllowed next acts

/-! ### One provider -/

section
variable {name : String} {s s' : State} {v : Nat}

@[simp] theorem go_log (stage : Stage) : (s.go v stage).log = s.log := rfl
@[simp] theorem go_streak (stage : Stage) : (s.go v stage).streak_state = s.streak_state := rfl

@[simp] theorem put_viewer (viewer : Viewer) : (s.put v viewer).viewers v = viewer := by
  simp [State.put]

@[simp] theorem go_stage (stage : Stage) : ((s.go v stage).viewers v).stage = stage := by
  simp [State.go]

theorem put_other {other : Nat} (apart : other ≠ v) (viewer : Viewer) : (s.put v viewer).viewers other = s.viewers other :=
  Function.update_of_ne apart ..

theorem go_other {other : Nat} (apart : other ≠ v) (stage : Stage) : (s.go v stage).viewers other = s.viewers other :=
  put_other apart _

/-- How far the rows of a provider have come: they are exact, or one viewer writes the row of the
    last probe, or the alert of the streak that this probe made long enough. -/
inductive Phase (name : String) (s : State) : Prop
  | still (quiet : ∀ v, (s.viewers v).stage.writes ≠ some name)
      (rows : rows name s.log = failures name s.log)
      (alerts : alerts name s.log = reaching EXTERNAL_PROVIDER_STREAK_THRESHOLD (outcomes name s.log))
      (emitted : (s.streak_state name).streak_alert_emitted = true ↔
        EXTERNAL_PROVIDER_STREAK_THRESHOLD ≤ current (outcomes name s.log))
  | row (v : Nat) (status : ExternalProbeStatus) (streak : Nat) (before : List Bool)
      (writer : (s.viewers v).stage = .row name status streak)
      (only : ∀ v', (s.viewers v').stage.writes = some name → v' = v)
      (last : outcomes name s.log = false :: before)
      (rows : rows name s.log + 1 = failures name s.log)
      (alerts : alerts name s.log = reaching EXTERNAL_PROVIDER_STREAK_THRESHOLD before)
      (emitted : (s.streak_state name).streak_alert_emitted = true ↔ EXTERNAL_PROVIDER_STREAK_THRESHOLD ≤ current before)
  | alert (v : Nat) (status : ExternalProbeStatus) (consecutive_failures : Nat)
      (writer : (s.viewers v).stage = .alert name status consecutive_failures)
      (only : ∀ v', (s.viewers v').stage.writes = some name → v' = v)
      (rows : rows name s.log = failures name s.log)
      (alerts : alerts name s.log + 1 = reaching EXTERNAL_PROVIDER_STREAK_THRESHOLD (outcomes name s.log))
      (reached : current (outcomes name s.log) = EXTERNAL_PROVIDER_STREAK_THRESHOLD)

/-- A state that differs in nothing that concerns the provider. -/
structure Aside (name : String) (s s' : State) : Prop where
  stages : ∀ v, (s.viewers v).stage.writes = some name ∨ (s'.viewers v).stage.writes = some name →
    (s'.viewers v).stage = (s.viewers v).stage
  streak : s'.streak_state name = s.streak_state name
  outcomes : outcomes name s'.log = outcomes name s.log
  rows : rows name s'.log = rows name s.log
  alerts : alerts name s'.log = alerts name s.log

theorem Aside.phase (aside : Aside name s s') (phase : Phase name s) : Phase name s' := by
  have fails : failures name s'.log = failures name s.log := by rw [failures,aside.outcomes,failures]
  have back : ∀ v, (s'.viewers v).stage.writes = some name → (s.viewers v).stage.writes = some name :=
    fun v writes => aside.stages v (.inr writes) ▸ writes
  cases phase with
  | still quiet rows alerts emitted =>
    refine .still (fun v writes => quiet v (back v writes)) ?_ ?_ ?_
    · rw [aside.rows,fails,rows]
    · rw [aside.alerts,aside.outcomes,alerts]
    · rw [aside.streak,aside.outcomes,emitted]
  | row v status streak before writer only last rows alerts emitted =>
    have here : (s.viewers v).stage.writes = some name := by rw [writer]; rfl
    refine .row v status streak before ?_ (fun v' writes => only v' (back v' writes)) ?_ ?_ ?_ ?_
    · rw [aside.stages v (.inl here),writer]
    · rw [aside.outcomes,last]
    · rw [aside.rows,fails,rows]
    · rw [aside.alerts,alerts]
    · rw [aside.streak,emitted]
  | alert v status consecutive_failures writer only rows alerts reached =>
    have here : (s.viewers v).stage.writes = some name := by rw [writer]; rfl
    refine .alert v status consecutive_failures ?_ (fun v' writes => only v' (back v' writes)) ?_ ?_ ?_
    · rw [aside.stages v (.inl here),writer]
    · rw [aside.rows,fails,rows]
    · rw [aside.alerts,aside.outcomes,alerts]
    · rw [aside.outcomes,reached]

theorem stages_aside (others : ∀ v', v' ≠ v → s'.viewers v' = s.viewers v')
    (old : (s.viewers v).stage.writes ≠ some name) (new : (s'.viewers v).stage.writes ≠ some name) (v' : Nat)
    (writes : (s.viewers v').stage.writes = some name ∨ (s'.viewers v').stage.writes = some name) :
    (s'.viewers v').stage = (s.viewers v').stage := by
  by_cases same : v' = v
  · subst same
    obtain before | after := writes
    · exact absurd before old
    · exact absurd after new
  · rw [others v' same]

structure Inv (name : String) (s : State) : Prop where
  count : (s.streak_state name).consecutive_failures = current (outcomes name s.log)
  cached : ∀ entry, s.cache name = some entry → (outcomes name s.log).head? = some (decide (entry.result = .ok))
  phase : Phase name s

theorem Aside.inv (aside : Aside name s s')
    (cached : ∀ entry, s'.cache name = some entry → s.cache name = some entry) (inv : Inv name s) : Inv name s' where
  count := by rw [aside.streak,aside.outcomes,inv.count]
  cached entry found := by rw [aside.outcomes,inv.cached entry (cached entry found)]
  phase := aside.phase inv.phase

/-- No success is counted where a row is being written. -/
theorem Phase.quiet_of_ok (phase : Phase name s) {rest : List Bool} (last : outcomes name s.log = true :: rest) :
    ∀ v, (s.viewers v).stage.writes ≠ some name := by
  cases phase with
  | still quiet _ _ _ => exact quiet
  | row _ _ _ before _ _ failed _ _ _ =>
    rw [last] at failed
    cases failed
  | alert _ _ _ _ _ _ _ reached =>
    rw [last,current_true] at reached
    cases reached

end

/-! ### The audit of a result -/

section
variable {name other : String} {s s' : State} {v : Nat} {status : ExternalProbeStatus}

theorem emit_log : (emit_probe_audit v name status s).log = s.log := by
  unfold emit_probe_audit
  dsimp only
  split <;> rfl

theorem emit_cache : (emit_probe_audit v name status s).cache = s.cache := by
  unfold emit_probe_audit
  dsimp only
  split <;> rfl

theorem emit_viewers {other : Nat} (apart : other ≠ v) :
    (emit_probe_audit v name status s).viewers other = s.viewers other := by
  unfold emit_probe_audit
  dsimp only
  split
  · exact go_other apart _
  · exact go_other apart _

theorem emit_aside (apart : other ≠ name) (idle : (s.viewers v).stage.writes ≠ some other) :
    Aside other s (emit_probe_audit v name status s) := by
  have streak : (emit_probe_audit v name status s).streak_state other = s.streak_state other := by
    unfold emit_probe_audit
    dsimp only
    split
    · exact Function.update_of_ne apart ..
    · exact Function.update_of_ne apart ..
  have new : ((emit_probe_audit v name status s).viewers v).stage.writes ≠ some other := by
    unfold emit_probe_audit
    dsimp only
    split
    · rw [go_stage]
      nofun
    · rw [go_stage]
      exact fun same => apart (Option.some.inj same).symm
  exact ⟨stages_aside (fun _ => emit_viewers) idle new,streak,by rw [emit_log],by rw [emit_log],by rw [emit_log]⟩

variable (cached : ∀ entry, s.cache name = some entry → (outcomes name s.log).head? = some (decide (entry.result = .ok)))
  (quiet : ∀ v, (s.viewers v).stage.writes ≠ some name)
include cached quiet

theorem emit_ok_inv {rest : List Bool} (last : outcomes name s.log = true :: rest)
    (counted : rows name s.log = failures name s.log)
    (alerted : alerts name s.log = reaching EXTERNAL_PROVIDER_STREAK_THRESHOLD (outcomes name s.log)) :
    Inv name (emit_probe_audit v name .ok s) := by
  have streak : (emit_probe_audit v name .ok s).streak_state name = ⟨0,false⟩ := by simp [emit_probe_audit]
  have next : ((emit_probe_audit v name .ok s).viewers v).stage = .next := by simp [emit_probe_audit]
  refine ⟨?_,by rw [emit_log,emit_cache]; exact cached,.still (fun v' => ?_) ?_ ?_ ?_⟩
  · rw [streak,emit_log,last,current_true]
  · by_cases same : v' = v
    · rw [same,next]
      nofun
    · rw [emit_viewers same]
      exact quiet v'
  · rw [emit_log,counted]
  · rw [emit_log,alerted]
  · rw [streak,emit_log,last,current_true]
    decide

/-- A failure makes it longer, and its row is to be written. -/
theorem emit_failed_inv {before : List Bool} (failed : status ≠ .ok) (last : outcomes name s.log = false :: before)
    (count : (s.streak_state name).consecutive_failures = current before)
    (counted : rows name s.log + 1 = failures name s.log)
    (alerted : alerts name s.log = reaching EXTERNAL_PROVIDER_STREAK_THRESHOLD before)
    (emitted : (s.streak_state name).streak_alert_emitted = true ↔ EXTERNAL_PROVIDER_STREAK_THRESHOLD ≤ current before) :
    Inv name (emit_probe_audit v name status s) := by
  have streak : (emit_probe_audit v name status s).streak_state name =
      { s.streak_state name with consecutive_failures := (s.streak_state name).consecutive_failures + 1 } := by
    simp [emit_probe_audit,failed]
  have writer : ((emit_probe_audit v name status s).viewers v).stage =
      .row name status ((s.streak_state name).consecutive_failures + 1) := by simp [emit_probe_audit,failed]
  refine ⟨?_,by rw [emit_log,emit_cache]; exact cached,.row v status _ before writer (fun v' writes => ?_) ?_ ?_ ?_ ?_⟩
  · rw [streak,emit_log,last,current_false,count]
  · by_contra apart
    rw [emit_viewers apart] at writes
    exact quiet v' writes
  · rw [emit_log,last]
  · rw [emit_log,counted]
  · rw [emit_log,alerted]
  · rw [streak]
    exact emitted

end

/-! ### One step -/

section
variable {name : String} {s s' : State} {v : Nat}

theorem inv_tick {microseconds : Nat} (inv : Inv name s) (moved : step s (.tick microseconds) = some s') : Inv name s' := by
  cases moved
  have aside : Aside name s { s with monotonic := s.monotonic + microseconds } := ⟨fun _ _ => rfl,rfl,rfl,rfl,rfl⟩
  exact aside.inv (fun _ found => found) inv

theorem writes_next : Stage.next.writes ≠ some name := nofun
variable {n : String}

theorem writes_alert {status : ExternalProbeStatus} {failures : Nat} (apart : n ≠ name) :
    (Stage.alert n status failures).writes ≠ some name := fun same => apart (Option.some.inj same)
theorem writes_probing : (Stage.probing n).writes ≠ some name := nofun

theorem keep_aside {cache : String → Option CacheEntry} : Aside name s (s.keep cache) := ⟨fun _ _ => rfl,rfl,rfl,rfl,rfl⟩

/-- A viewer that waits for no row is put to a place where it waits for none. -/
theorem put_aside {viewer : Viewer} (old : (s.viewers v).stage.writes ≠ some name) (new : viewer.stage.writes ≠ some name) :
    Aside name s (s.put v viewer) := by
  refine ⟨stages_aside (fun _ apart => put_other apart _) old ?_,rfl,rfl,rfl,rfl⟩
  rw [put_viewer]
  exact new

theorem inv_call {bypass_cache : Bool} {entries : List String} (inv : Inv name s)
    (moved : step s (.call v bypass_cache entries) = some s') : Inv name s' := by
  dsimp only [step] at moved
  split at moved
  · next flag idle =>
    cases moved
    exact (put_aside (by rw [idle]; exact writes_next) writes_next).inv (fun _ found => found) inv
  · cases moved

theorem inv_raised (inv : Inv name s) (moved : step s (.raised v) = some s') : Inv name s' := by
  dsimp only [step] at moved
  split at moved
  · next n probing =>
    cases moved
    exact (put_aside (by rw [probing]; exact writes_probing) writes_next).inv (fun _ found => found) inv
  · cases moved

theorem get_cached_some {status : ExternalProbeStatus} (hit : (get_cached s n).1 = some status) :
    ∃ entry, s.cache n = some entry ∧ entry.result = status := by
  unfold get_cached at hit
  split at hit
  · cases hit
  · next entry found =>
    split at hit
    · cases hit
    · exact ⟨entry,found,Option.some.inj hit⟩

/-- A lookup only deletes. -/
theorem get_cached_sub : ∀ entry, (get_cached s n).2 name = some entry → s.cache name = some entry := by
  intro entry found
  unfold get_cached at found
  split at found
  · exact found
  · split at found
    · by_cases same : name = n
      · subst same
        simp at found
      · exact (Function.update_of_ne same ..).symm.trans found
    · exact found

theorem inv_begin (inv : Inv name s) (allowed : Allowed s (.begin v)) (moved : step s (.begin v) = some s') :
    Inv name s' := by
  dsimp only [step] at moved
  split at moved
  · next bypass_cache n entries here =>
    have idle : (s.viewers v).stage.writes ≠ some name := by
      rw [here]
      nofun
    have taken : Aside name s (s.put v ⟨bypass_cache,entries,.next⟩) := put_aside idle writes_next
    have waits : ((s.put v ⟨bypass_cache,entries,.next⟩).viewers v).stage.writes ≠ some name := by
      rw [put_viewer]
      nofun
    have inv' := taken.inv (fun _ found => found) inv
    split at moved
    · cases moved
      exact (put_aside waits writes_probing).inv (fun _ found => found) inv'
    · next direct =>
      have allowed := (allowed bypass_cache n entries here).resolve_left direct
      have same : get_cached (s.put v ⟨bypass_cache,entries,.next⟩) n = get_cached s n := rfl
      rw [same] at moved
      -- the state behind the lookup, whose cache has at most lost the entry
      generalize middle : (s.put v ⟨bypass_cache,entries,.next⟩).keep (get_cached s n).2 = looked at moved
      have looked_inv : Inv name looked := by
        subst middle
        exact keep_aside.inv get_cached_sub inv'
      have waits : (looked.viewers v).stage.writes ≠ some name := by
        subst middle
        exact waits
      cases hit : (get_cached s n).1 with
      | none =>
        rw [hit] at moved
        cases moved
        exact (put_aside waits writes_probing).inv (fun _ found => found) looked_inv
      | some status =>
        rw [hit] at moved
        have fine := allowed status hit
        subst fine
        cases moved
        by_cases apart : name = n
        · subst apart
          obtain ⟨entry,found,ok⟩ := get_cached_some hit
          have head := inv.cached entry found
          rw [ok] at head
          obtain ⟨rest,last⟩ := List.head?_eq_some_iff.mp head
          have last : outcomes name looked.log = true :: rest := by
            subst middle
            exact last
          have quiet := looked_inv.phase.quiet_of_ok last
          cases looked_inv.phase with
          | still _ counted alerted _ => exact emit_ok_inv looked_inv.cached quiet last counted alerted
          | row v' _ _ _ writer _ _ _ _ _ => exact absurd (by rw [writer]; rfl) (quiet v')
          | alert v' _ _ writer _ _ _ _ => exact absurd (by rw [writer]; rfl) (quiet v')
        · refine (emit_aside apart waits).inv (fun _ found => ?_) looked_inv
          rw [emit_cache] at found
          exact found
  · cases moved

/-- A probe that ends is the last outcome of its provider. -/
theorem outcomes_probed (n : String) (status : ExternalProbeStatus) (log : List Event) :
    outcomes name (.probed n status :: log) = if n = name then decide (status = .ok) :: outcomes name log else outcomes name log := by
  unfold outcomes
  rw [List.filterMap_cons]
  by_cases same : n = name
  · simp [same]
  · simp [same]

theorem inv_probed {status : ExternalProbeStatus} (inv : Inv name s) (allowed : Allowed s (.probed v status))
    (moved : step s (.probed v status) = some s') : Inv name s' := by
  dsimp only [step] at moved
  split at moved
  · next n probing =>
    cases moved
    have waits : ∀ other, (s.viewers v).stage.writes ≠ some other := by
      intro other
      rw [probing]
      exact writes_probing
    generalize middle : set_cached n status { s with log := .probed n status :: s.log } = logged
    have log : logged.log = .probed n status :: s.log := by rw [← middle]; rfl
    have viewers : logged.viewers = s.viewers := by rw [← middle]; rfl
    have streak : logged.streak_state = s.streak_state := by rw [← middle]; rfl
    have cache : logged.cache = Function.update s.cache n (some ⟨status,s.monotonic + CACHE_TTL_SECONDS⟩) := by
      rw [← middle]
      rfl
    have same_rows : rows name logged.log = rows name s.log := by rw [log]; rfl
    have same_alerts : alerts name logged.log = alerts name s.log := by rw [log]; rfl
    by_cases apart : name = n
    · subst apart
      have quiet : ∀ v, (logged.viewers v).stage.writes ≠ some name := by
        intro v writes
        rw [viewers] at writes
        exact allowed name probing ⟨v,writes⟩
      have seen : outcomes name logged.log = decide (status = .ok) :: outcomes name s.log := by
        rw [log,outcomes_probed,if_pos rfl]
      have cached : ∀ entry, logged.cache name = some entry →
          (outcomes name logged.log).head? = some (decide (entry.result = .ok)) := by
        intro entry found
        rw [cache,Function.update_self] at found
        cases found
        rw [seen]
        rfl
      cases inv.phase with
      | still _ counted alerted emitted =>
        by_cases fine : status = .ok
        · subst fine
          have last : outcomes name logged.log = true :: outcomes name s.log := seen
          refine emit_ok_inv cached quiet last ?_ ?_
          · rw [same_rows,counted,failures,failures,last]
            simp
          · rw [same_alerts,alerted,last,reaching_true (by decide)]
        · have last : outcomes name logged.log = false :: outcomes name s.log := by simpa [fine] using seen
          refine emit_failed_inv cached quiet fine last ?_ ?_ ?_ ?_
          · rw [streak,inv.count]
          · rw [same_rows,counted,failures,failures,last]
            simp
          · rw [same_alerts,alerted]
          · rw [streak,emitted]
      | row v' _ _ _ writer _ _ _ _ _ => exact absurd ⟨v',by rw [writer]; rfl⟩ (allowed name probing)
      | alert v' _ _ writer _ _ _ _ => exact absurd ⟨v',by rw [writer]; rfl⟩ (allowed name probing)
    · have same : outcomes name logged.log = outcomes name s.log := by
        rw [log,outcomes_probed,if_neg (Ne.symm apart)]
      have aside : Aside name s logged :=
        ⟨fun v' _ => by rw [viewers],by rw [streak],same,same_rows,same_alerts⟩
      have logged_inv : Inv name logged := by
        refine aside.inv (fun entry found => ?_) inv
        rw [cache,Function.update_of_ne apart] at found
        exact found
      refine (emit_aside apart (by rw [viewers]; exact waits name)).inv (fun entry found => ?_) logged_inv
      rw [emit_cache] at found
      exact found
  · cases moved

theorem rows_failed (n : String) (status : ExternalProbeStatus) (streak : Nat) (log : List Event) :
    rows name (.external_provider_probe_failed n status streak :: log) = rows name log + if n = name then 1 else 0 := by
  unfold rows
  rw [List.countP_cons]
  simp only [decide_eq_true_eq]

theorem alerts_alert (n : String) (status : ExternalProbeStatus) (failures : Nat) (log : List Event) :
    alerts name (.external_provider_streak_alert n status failures :: log) = alerts name log + if n = name then 1 else 0 := by
  unfold alerts
  rw [List.countP_cons]
  simp only [decide_eq_true_eq]

theorem quiet_done {logged : State} (viewers : logged.viewers = s.viewers)
    (only : ∀ v', (s.viewers v').stage.writes = some name → v' = v) (v' : Nat) :
    ((logged.go v .next).viewers v').stage.writes ≠ some name := by
  intro writes
  by_cases same : v' = v
  · subst same
    rw [go_stage] at writes
    exact writes_next writes
  · rw [go_other same,viewers] at writes
    exact same (only v' writes)

/-- The row of another provider is written, and its viewer goes on. -/
theorem Aside.written {logged : State} {n : String} {stage : Stage} (aside : Aside name s logged) (viewers : logged.viewers = s.viewers)
    (cache : logged.cache = s.cache) (inv : Inv name s) (writes : (s.viewers v).stage.writes = some n) (apart : n ≠ name)
    (harmless : stage.writes ≠ some name) : Inv name (logged.go v stage) := by
  have logged_inv : Inv name logged := aside.inv (by rw [cache]; exact fun _ found => found) inv
  have waits : (logged.viewers v).stage.writes ≠ some name := by
    rw [viewers,writes]
    exact fun same => apart (Option.some.inj same)
  exact (put_aside waits harmless).inv (fun _ found => found) logged_inv

theorem inv_row {status : ExternalProbeStatus} {streak : Nat} (inv : Inv name s)
    (here : (s.viewers v).stage = .row n status streak) :
    Inv name (emit_streak_alert v n status { s with log := .external_provider_probe_failed n status streak :: s.log }) := by
  generalize middle : { s with log := .external_provider_probe_failed n status streak :: s.log } = logged
  have log : logged.log = .external_provider_probe_failed n status streak :: s.log := by rw [← middle]
  have viewers : logged.viewers = s.viewers := by rw [← middle]
  have streaks : logged.streak_state = s.streak_state := by rw [← middle]
  have cache : logged.cache = s.cache := by rw [← middle]
  have same_outcomes : outcomes name logged.log = outcomes name s.log := by rw [log]; rfl
  have same_alerts : alerts name logged.log = alerts name s.log := by rw [log]; rfl
  have same_failures : failures name logged.log = failures name s.log := by rw [failures,same_outcomes,failures]
  have count : ∀ stage, ((logged.go v stage).streak_state name).consecutive_failures = current (outcomes name logged.log) := by
    intro stage
    rw [go_streak,streaks,same_outcomes,inv.count]
  have cached : ∀ entry, logged.cache name = some entry →
      (outcomes name logged.log).head? = some (decide (entry.result = .ok)) := by
    rw [cache,same_outcomes]
    exact inv.cached
  have writes : (s.viewers v).stage.writes = some n := by
    rw [here]
    rfl
  by_cases apart : n = name
  · subst apart
    have one_more : rows n logged.log = rows n s.log + 1 := by rw [log,rows_failed,if_pos rfl]
    cases inv.phase with
    | still quiet _ _ _ => exact absurd writes (quiet v)
    | alert v' _ _ writer only _ _ _ =>
      rw [only v writes,writer] at here
      cases here
    | row v' status' streak' before writer only last counted alerted emitted =>
      have same := only v writes
      subst same
      have long : (logged.streak_state n).consecutive_failures = current before + 1 := by
        rw [streaks,inv.count,last,current_false]
      have grown : reaching EXTERNAL_PROVIDER_STREAK_THRESHOLD (outcomes n logged.log) =
          reaching EXTERNAL_PROVIDER_STREAK_THRESHOLD before +
            if current before + 1 = EXTERNAL_PROVIDER_STREAK_THRESHOLD then 1 else 0 := by
        rw [same_outcomes,last,reaching_false]
      unfold emit_streak_alert
      dsimp only
      split
      · next due =>
        rw [long,streaks] at due
        have below : ¬ EXTERNAL_PROVIDER_STREAK_THRESHOLD ≤ current before := by
          intro reached
          rw [emitted.mpr reached] at due
          cases due.2
        have exact_length : current before + 1 = EXTERNAL_PROVIDER_STREAK_THRESHOLD := by
          have least := due.1
          omega
        refine ⟨count _,cached,.alert v status _ (go_stage _) (fun v' at_row => ?_) ?_ ?_ ?_⟩
        · by_contra different
          rw [go_other different,viewers] at at_row
          exact different (only v' at_row)
        · show rows n logged.log = failures n logged.log
          rw [one_more,same_failures,counted]
        · show alerts n logged.log + 1 = _
          rw [same_alerts,alerted,go_log,grown,if_pos exact_length]
        · rw [go_log,same_outcomes,last,current_false,exact_length]
      · next undue =>
        rw [long,streaks] at undue
        refine ⟨count _,cached,.still (quiet_done viewers only) ?_ ?_ ?_⟩
        · show rows n logged.log = failures n logged.log
          rw [one_more,same_failures,counted]
        · have short : current before + 1 ≠ EXTERNAL_PROVIDER_STREAK_THRESHOLD := by
            intro exact_length
            have flag : (s.streak_state n).streak_alert_emitted = true := by
              by_contra no
              exact undue ⟨Nat.le_of_eq exact_length.symm,by simpa using no⟩
            have reached := emitted.mp flag
            omega
          rw [go_log,same_alerts,alerted,grown,if_neg short,Nat.add_zero]
        · rw [go_streak,streaks,go_log,same_outcomes,last,current_false,emitted]
          constructor
          · omega
          · intro reached
            by_contra below
            have flag : (s.streak_state n).streak_alert_emitted = true := by
              by_contra no
              exact undue ⟨reached,by simpa using no⟩
            exact below (emitted.mp flag)
  · have same_rows : rows name logged.log = rows name s.log := by rw [log,rows_failed,if_neg apart]; rfl
    have aside : Aside name s logged :=
      ⟨fun v' _ => by rw [viewers],by rw [streaks],same_outcomes,same_rows,same_alerts⟩
    unfold emit_streak_alert
    dsimp only
    split
    · exact aside.written viewers cache inv writes apart (writes_alert apart)
    · exact aside.written viewers cache inv writes apart writes_next

theorem inv_alert {status : ExternalProbeStatus} {consecutive_failures : Nat} (inv : Inv name s)
    (here : (s.viewers v).stage = .alert n status consecutive_failures) :
    Inv name ({ s with
      streak_state := Function.update s.streak_state n { s.streak_state n with streak_alert_emitted := true }
      log := .external_provider_streak_alert n status consecutive_failures :: s.log }.go v .next) := by
  generalize middle : { s with
      streak_state := Function.update s.streak_state n { s.streak_state n with streak_alert_emitted := true }
      log := .external_provider_streak_alert n status consecutive_failures :: s.log } = logged
  have log : logged.log = .external_provider_streak_alert n status consecutive_failures :: s.log := by rw [← middle]
  have viewers : logged.viewers = s.viewers := by rw [← middle]
  have streaks : logged.streak_state =
      Function.update s.streak_state n { s.streak_state n with streak_alert_emitted := true } := by rw [← middle]
  have cache : logged.cache = s.cache := by rw [← middle]
  have same_outcomes : outcomes name logged.log = outcomes name s.log := by rw [log]; rfl
  have same_rows : rows name logged.log = rows name s.log := by rw [log]; rfl
  have same_failures : failures name logged.log = failures name s.log := by rw [failures,same_outcomes,failures]
  have cached : ∀ entry, logged.cache name = some entry →
      (outcomes name logged.log).head? = some (decide (entry.result = .ok)) := by
    rw [cache,same_outcomes]
    exact inv.cached
  have writes : (s.viewers v).stage.writes = some n := by
    rw [here]
    rfl
  by_cases apart : n = name
  · subst apart
    cases inv.phase with
    | still quiet _ _ _ => exact absurd writes (quiet v)
    | row v' _ _ _ writer only _ _ _ _ =>
      rw [only v writes,writer] at here
      cases here
    | alert v' status' failures' writer only counted alerted reached =>
      have same := only v writes
      subst same
      refine ⟨?_,cached,.still (quiet_done viewers only) ?_ ?_ ?_⟩
      · rw [go_streak,streaks,Function.update_self,go_log,same_outcomes]
        exact inv.count
      · rw [go_log,same_rows,same_failures,counted]
      · rw [go_log,log,alerts_alert,if_pos rfl,alerted]
        rfl
      · rw [go_streak,streaks,Function.update_self,go_log,same_outcomes,reached]
        exact ⟨fun _ => Nat.le_refl _,fun _ => rfl⟩
  · have same_alerts : alerts name logged.log = alerts name s.log := by rw [log,alerts_alert,if_neg apart]; rfl
    have aside : Aside name s logged :=
      ⟨fun v' _ => by rw [viewers],by rw [streaks,Function.update_of_ne (Ne.symm apart)],same_outcomes,same_rows,same_alerts⟩
    exact aside.written viewers cache inv writes apart writes_next

theorem inv_written {row : Bool} (inv : Inv name s) (allowed : Allowed s (.written v row))
    (moved : step s (.written v row) = some s') : Inv name s' := by
  have done : row = true := allowed
  subst done
  dsimp only [step] at moved
  split at moved
  · next n status streak here =>
    cases moved
    exact inv_row inv here
  · next n status failures here =>
    cases moved
    exact inv_alert inv here
  · cases moved

/-! ### Runs -/

theorem inv_step {act : Act} (inv : Inv name s) (allowed : Allowed s act) (moved : step s act = some s') : Inv name s' := by
  cases act with
  | tick microseconds => exact inv_tick inv moved
  | call v bypass_cache entries => exact inv_call inv moved
  | begin v => exact inv_begin inv allowed moved
  | probed v status => exact inv_probed inv allowed moved
  | raised v => exact inv_raised inv moved
  | written v row => exact inv_written inv allowed moved

theorem inv_run : ∀ (acts : List Act) (s : State), Inv name s → AllAllowed s acts → run s acts = some s' → Inv name s'
  | [], s, inv, _, ran => by
    cases ran
    exact inv
  | act :: acts, s, inv, allowed, ran => by
    obtain ⟨next,moved,rest⟩ := Option.bind_eq_some_iff.mp ran
    exact inv_run acts next (inv_step inv allowed.1 moved) (allowed.2 next moved) rest

theorem inv_initial : Inv name initial where
  count := rfl
  cached entry found := by cases found
  phase := .still (fun _ => writes_next) rfl rfl ⟨nofun,nofun⟩

/-- In a run of allowed steps the rows of every provider are exact whenever none is being written. -/
theorem alerts_exact (acts : List Act) (allowed : AllAllowed initial acts) (s : State) (ran : run initial acts = some s)
    (name : String) (still : ¬ Writing name s) : Exact name s := by
  have inv : Inv name s := inv_run acts initial inv_initial allowed ran
  cases inv.phase with
  | still _ counted alerted _ => exact ⟨counted,alerted⟩
  | row v _ _ _ writer _ _ _ _ _ => exact absurd ⟨v,by rw [writer]; rfl⟩ still
  | alert v _ _ writer _ _ _ _ => exact absurd ⟨v,by rw [writer]; rfl⟩ still

end

/-! ### Runs with one provider -/

/-- One failed probe, and two further viewers within the time of the cache. -/
def three_refreshes : List Act :=
  [.call 0 false ["vllm"],.begin 0,.probed 0 .unreachable,.written 0 true,
    .call 1 false ["vllm"],.begin 1,.written 1 true,
    .call 2 false ["vllm"],.begin 2,.written 2 true,.written 2 true]

/-- Four forced probes fail, the last two of them while the rows are being written. -/
def overlapping : List Act :=
  [.call 0 true ["vllm"],.begin 0,.probed 0 .unreachable,.written 0 true,
    .call 0 true ["vllm"],.begin 0,.probed 0 .unreachable,.written 0 true,
    .call 0 true ["vllm"],.call 1 true ["vllm"],.begin 0,.begin 1,.probed 0 .unreachable,.probed 1 .unreachable,
    .written 0 true,.written 1 true,.written 0 true,.written 1 true]

/-- The failed probes, the rows, the streaks and the alerts of a provider behind a run. -/
def counts (acts : List Act) : Option (Nat × Nat × Nat × Nat) :=
  (run initial acts).map fun s => (failures "vllm" s.log,rows "vllm" s.log,
    reaching EXTERNAL_PROVIDER_STREAK_THRESHOLD (outcomes "vllm" s.log),alerts "vllm" s.log)

/-- One viewer forces three probes that fail, each with its row, and the third with an alert. -/
def forced : List Act :=
  [.call 0 true ["vllm"],.begin 0,.probed 0 .unreachable,.written 0 true,
    .call 0 true ["vllm"],.begin 0,.probed 0 .unreachable,.written 0 true,
    .call 0 true ["vllm"],.begin 0,.probed 0 .unreachable,.written 0 true,.written 0 true]

private theorem allowed_cons {s t : State} {act : Act} {acts : List Act} (here : Allowed s act) (moved : step s act = some t)
    (rest : AllAllowed t acts) : AllAllowed s (act :: acts) := by
  refine ⟨here,fun next stepped => ?_⟩
  rw [moved] at stepped
  cases stepped
  exact rest

private theorem forced_begin {s : State} {v : Nat} (bypassed : (s.viewers v).bypass_cache = true) : Allowed s (.begin v) :=
  fun _ _ _ viewer => .inl (by rwa [viewer] at bypassed)

private theorem alone_probed {s : State} {n : String} {status : ExternalProbeStatus} (probing : (s.viewers 0).stage = .probing n)
    (others : ∀ v, (s.viewers (v + 1)).stage = .next) : Allowed s (.probed 0 status) := by
  rintro name - ⟨v,writes⟩
  cases v with
  | zero =>
    rw [probing] at writes
    exact writes_probing writes
  | succ v =>
    rw [others v] at writes
    exact writes_next writes

theorem forced_allowed : AllAllowed initial forced := by
  refine allowed_cons trivial rfl (allowed_cons (forced_begin rfl) rfl ?_)
  refine allowed_cons (alone_probed rfl fun _ => rfl) rfl (allowed_cons rfl rfl ?_)
  refine allowed_cons trivial rfl (allowed_cons (forced_begin rfl) rfl ?_)
  refine allowed_cons (alone_probed rfl fun _ => rfl) rfl (allowed_cons rfl rfl ?_)
  refine allowed_cons trivial rfl (allowed_cons (forced_begin rfl) rfl ?_)
  refine allowed_cons (alone_probed rfl fun _ => rfl) rfl (allowed_cons rfl rfl ?_)
  exact allowed_cons rfl rfl trivial

/-- Three failed probes, three rows and one alert. -/
theorem forced_refreshes_exact : counts forced = some (3,3,1,1) ∧ ∃ s, run initial forced = some s ∧ Exact "vllm" s := by
  refine ⟨by decide,_,rfl,alerts_exact forced forced_allowed _ rfl "vllm" ?_⟩
  rintro ⟨v,writes⟩
  cases v with
  | zero => exact writes_next writes
  | succ v => exact writes_next writes

theorem inexact {acts : List Act} {fails row_count due alert_count : Nat}
    (counted : counts acts = some (fails,row_count,due,alert_count)) (wrong : row_count ≠ fails ∨ alert_count ≠ due) :
    ∃ s, run initial acts = some s ∧ ¬ Exact "vllm" s := by
  obtain ⟨s,ran,same⟩ := Option.map_eq_some_iff.mp counted
  cases same
  refine ⟨s,ran,fun exact_rows => ?_⟩
  obtain rows | alerts := wrong
  · exact rows exact_rows.1
  · exact alerts exact_rows.2

/-- One failed probe gives three rows and an alert, and one streak of four gives two alerts. -/
theorem refreshes_counted : (∃ s, run initial three_refreshes = some s ∧ ¬ Exact "vllm" s) ∧
    ∃ s, run initial overlapping = some s ∧ ¬ Exact "vllm" s := by
  have cached : counts three_refreshes = some (1,3,0,1) := by decide
  have overlapped : counts overlapping = some (4,4,1,2) := by decide
  exact ⟨inexact cached (by decide),inexact overlapped (by decide)⟩

end Automation.ExternalAlerts
