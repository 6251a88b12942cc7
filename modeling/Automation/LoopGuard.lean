import Automation.Dict
import Automation.PyText

/-!
`LoopGuard`: the stage that drops what the bots write themselves, with its cache
of bot accounts, its rows in `loop_guard_drops` and the blocks of storming issues.
An arrival is a payload with everything its check meets: the clocks it reads and
which statements succeed. Every statement is best effort.

`storm_blocks` says when an issue is blocked, for every run. A failed fetch of the
bot accounts is cached as long as a successful one, so an outage that meets an
empty cache lets the bots through for five minutes (`bot_known_iff`).
-/
namespace Automation.LoopGuard
open Automation.PyText

/-- Times are in microseconds. -/
def seconds (n : Int) : Int := n * 1000000

def STORM_THRESHOLD : Nat := 3
def STORM_WINDOW_SECONDS : Int := 60
def STORM_BLOCK_SECONDS : Int := 300
def bot_ids_cache_ttl : Int := seconds 300

structure WebhookPayload where
  actor_account_id : Option String
  issue_key : String
  event_type : String
  comment_body : Option String
  assignee_account_id : Option String
  dept_id : Option String

inductive StageAction where
  | drop
  | pass
  deriving DecidableEq

structure StageResult where
  action : StageAction
  reason : String
  deriving DecidableEq

/-! ### The tables -/

structure DropRow where
  issue_key : String
  dept_id : Option String
  event_type : String
  actor_account_id : String
  dropped_at : Int

structure BlockRow where
  blocked_until : Int
  reason : String
  created_at : Int

/-- `shared.loop_guard_drops`, and `shared.loop_guard_blocks` by issue key. -/
structure Database where
  drops : List DropRow
  blocks : Dict String BlockRow

/-- The issue has a block that ends after the time. -/
def Database.blocked (db : Database) (issue_key : String) (now : Int) : Bool :=
  (db.blocks.get? issue_key).any fun row => now < row.blocked_until

def Database.drop_count (db : Database) (issue_key : String) (window_start : Int) : Nat :=
  (db.drops.filter fun row => row.issue_key = issue_key && window_start ≤ row.dropped_at).length

/-- `INSERT … ON CONFLICT (issue_key) DO UPDATE`: the time of the first block stays. -/
def Database.upsert_block (db : Database) (issue_key : String) (row : BlockRow) : Database :=
  let created_at := ((db.blocks.get? issue_key).map (·.created_at)).getD row.created_at
  { db with blocks := db.blocks.set issue_key { row with created_at } }

/-! ### One check -/

/-- How the guard was built: with a pool, with a provider of the bot accounts, with
    an audit logger and with a notifier. -/
structure Config where
  connected : Bool
  provider : Bool
  audited : Bool
  notified : Bool

structure AuditEvent where
  actor_id : String
  dept_id : Option String
  action : String
  resource : String
  timestamp : Int
  event_type : String
  issue_key : String
  actor_account_id : Option String

structure Notice where
  event_name : String
  issue_key : String
  detail : String

/-- A payload, the clock as `check`, `_get_bot_ids` and `_audit_drop` read it, the
    accounts of the provider and the rows of `department_bots`, `none` where reading
    them raises, and whether each statement and message goes through. -/
structure Arrival where
  payload : WebhookPayload
  now : Int
  lookup_now : Int
  audit_now : Int
  provided : Option (List String)
  department_bots : Option (List (Option String))
  select_block : Bool
  insert_drop : Bool
  count_drops : Bool
  upsert_block : Bool
  write_audit : Bool
  notify : Bool

structure State where
  bot_ids_cache : Option (List String)
  bot_ids_cache_at : Option Int
  db : Database
  audits : List AuditEvent
  notices : List Notice

def State.start : State :=
  { bot_ids_cache := none, bot_ids_cache_at := none, db := ⟨[],.empty⟩, audits := [], notices := [] }

/-- `\[(?:approve|reject)\]` under `re.IGNORECASE`. -/
def approval_gate_pattern (text : String) : Bool :=
  ["[approve]","[reject]"].any fun signal => (searchLiteral signal.toList text.toList).isSome

def is_approval_gate_exempt (payload : WebhookPayload) : Bool :=
  payload.event_type = "jira:comment_created" && payload.comment_body.any approval_gate_pattern &&
    !(payload.actor_account_id.any (· ≠ "") && payload.assignee_account_id.any (· ≠ "") &&
      payload.actor_account_id = payload.assignee_account_id)

section
variable (config : Config)

def is_blocked (a : Arrival) (db : Database) (issue_key : String) : Bool :=
  config.connected && a.select_block && db.blocked issue_key a.now

def fetch_bot_ids_from_db (a : Arrival) (s : State) : List String :=
  match if config.connected then a.department_bots else none with
  | some rows => rows.filterMap fun account_id => account_id.filter (· ≠ "")
  | none => s.bot_ids_cache.getD []

/-- The cached accounts, where they are younger than the TTL. -/
def cached_bot_ids (a : Arrival) (s : State) : Option (List String) :=
  match s.bot_ids_cache,s.bot_ids_cache_at with
  | some bot_ids,some at_ => if a.lookup_now - at_ < bot_ids_cache_ttl then some bot_ids else none
  | _,_ => none

/-- `none` stands for the exception of the provider, which goes on. -/
def get_bot_ids (a : Arrival) (s : State) : Option (List String) × State :=
  match cached_bot_ids a s with
  | some bot_ids => (some bot_ids,s)
  | none =>
    match if config.provider then a.provided else some (fetch_bot_ids_from_db config a s) with
    | none => (none,s)
    | some bot_ids => (some bot_ids,{ s with bot_ids_cache := some bot_ids, bot_ids_cache_at := some a.lookup_now })

def record_drop (a : Arrival) (db : Database) : Database :=
  if config.connected && a.insert_drop then
    { db with drops := db.drops ++ [
      { issue_key := a.payload.issue_key, dept_id := a.payload.dept_id, event_type := a.payload.event_type
        actor_account_id := a.payload.actor_account_id.getD "", dropped_at := a.now }] }
  else db

def is_storm (a : Arrival) (db : Database) (issue_key : String) : Bool :=
  config.connected && a.count_drops &&
    STORM_THRESHOLD ≤ db.drop_count issue_key (a.now - seconds STORM_WINDOW_SECONDS)

def block_issue (a : Arrival) (db : Database) (issue_key : String) : Database :=
  if config.connected && a.upsert_block then
    db.upsert_block issue_key
      { blocked_until := a.now + seconds STORM_BLOCK_SECONDS, reason := "loop_storm_detected", created_at := a.now }
  else db

def notify_admin (a : Arrival) (event_name issue_key : String) (s : State) : State :=
  if config.notified && a.notify then
    let detail := "Issue " ++ issue_key ++ " blocked for " ++ toString STORM_BLOCK_SECONDS ++ "s due to loop storm (" ++
      toString STORM_THRESHOLD ++ "+ drops in " ++ toString STORM_WINDOW_SECONDS ++ "s)."
    { s with notices := s.notices ++ [{ event_name, issue_key, detail }] }
  else s

def audit_drop (a : Arrival) (reason : String) (s : State) : State :=
  if config.audited && a.write_audit then
    let actor_id := (a.payload.actor_account_id.filter (· ≠ "")).getD "unknown"
    { s with audits := s.audits ++ [
      { actor_id, dept_id := a.payload.dept_id, action := reason, resource := "webhook:" ++ a.payload.issue_key
        timestamp := a.audit_now, event_type := a.payload.event_type, issue_key := a.payload.issue_key
        actor_account_id := a.payload.actor_account_id }] }
  else s

def drop_bot (a : Arrival) (s : State) : StageResult × State :=
  let recorded := audit_drop config a "loop_guard_dropped" { s with db := record_drop config a s.db }
  if a.payload.issue_key ≠ "" && is_storm config a recorded.db a.payload.issue_key then
    let blocked := { recorded with db := block_issue config a recorded.db a.payload.issue_key }
    (⟨.drop,"loop_guard"⟩,notify_admin config a "loop_storm_detected" a.payload.issue_key blocked)
  else (⟨.drop,"loop_guard"⟩,recorded)

def check (a : Arrival) (s : State) : Option StageResult × State :=
  if a.payload.issue_key ≠ "" && is_blocked config a s.db a.payload.issue_key then
    (some ⟨.drop,"loop_guard_blocked"⟩,audit_drop config a "loop_guard_blocked_issue" s)
  else
    match get_bot_ids config a s with
    | (none,s) => (none,s)
    | (some bot_ids,s) =>
      if !a.payload.actor_account_id.any bot_ids.contains then (some ⟨.pass,""⟩,s)
      else if is_approval_gate_exempt a.payload then (some ⟨.pass,""⟩,s)
      else
        let (result,s) := drop_bot config a s
        (some result,s)

end

/-! ### Runs -/

structure Entry where
  arrival : Arrival
  before : State
  result : Option StageResult
  after : State

/-- The checks of a run, each with the states before and after it. -/
def run (config : Config) (s : State) : List Arrival → List Entry × State
  | [] => ([],s)
  | a :: arrivals =>
    let (result,after) := check config a s
    let (history,final) := run config after arrivals
    (⟨a,s,result,after⟩ :: history,final)

/-- A drop on the issue because a bot wrote the event. -/
def Entry.dropped (issue_key : String) (e : Entry) : Bool :=
  e.arrival.payload.issue_key = issue_key && e.result = some ⟨.drop,"loop_guard"⟩

/-- Such a drop that is counted, because its row was inserted. -/
def Entry.recorded (config : Config) (issue_key : String) (e : Entry) : Bool :=
  e.dropped issue_key && config.connected && e.arrival.insert_drop

/-- The drops of the issue since the time that were recorded. -/
def recordedSince (config : Config) (issue_key : String) (start : Int) (history : List Entry) : Nat :=
  (history.filter fun e => e.recorded config issue_key && start ≤ e.arrival.now).length

/-- The drop that comes after the history storms: with it at least three were recorded
    in the window before it, and its own statements succeed. -/
def stormsNext (config : Config) (issue_key : String) (history : List Entry) (e : Entry) : Bool :=
  e.dropped issue_key && config.connected && e.arrival.count_drops && e.arrival.upsert_block &&
    STORM_THRESHOLD ≤
      recordedSince config issue_key (e.arrival.now - seconds STORM_WINDOW_SECONDS) (history ++ [e])

/-- The time of the drop at the position, where it storms. -/
def storms (config : Config) (issue_key : String) (history : List Entry) (i : Nat) : Option Int :=
  history[i]?.bind fun e => if stormsNext config issue_key (history.take i) e then some e.arrival.now else none

/-- The times of the drops that storm, in their order. -/
def stormTimes (config : Config) (issue_key : String) (history : List Entry) : List Int :=
  (List.range history.length).filterMap (storms config issue_key history)

/-! ### What one check does -/

/-- The actor is among the accounts that the check looks up. -/
def BotAuthored (config : Config) (a : Arrival) (s : State) : Prop :=
  ∃ bot_ids actor, (get_bot_ids config a s).1 = some bot_ids ∧ a.payload.actor_account_id = some actor ∧ actor ∈ bot_ids

section
variable (config : Config)

@[simp] theorem audit_drop_db (a : Arrival) (reason : String) (s : State) : (audit_drop config a reason s).db = s.db := by
  unfold audit_drop
  split <;> rfl

@[simp] theorem notify_admin_db (a : Arrival) (event_name issue_key : String) (s : State) :
    (notify_admin config a event_name issue_key s).db = s.db := by
  unfold notify_admin
  split <;> rfl

@[simp] theorem get_bot_ids_db (a : Arrival) (s : State) : (get_bot_ids config a s).2.db = s.db := by
  unfold get_bot_ids
  split
  · rfl
  · split <;> rfl

/-- The tables after the drop of a bot's event. -/
def droppedDb (a : Arrival) (db : Database) : Database :=
  let recorded := record_drop config a db
  if a.payload.issue_key ≠ "" && is_storm config a recorded a.payload.issue_key then
    block_issue config a recorded a.payload.issue_key
  else recorded

theorem drop_bot_spec (a : Arrival) (s : State) :
    (drop_bot config a s).1 = ⟨.drop,"loop_guard"⟩ ∧ (drop_bot config a s).2.db = droppedDb config a s.db := by
  simp only [drop_bot,droppedDb,audit_drop_db]
  split
  · exact ⟨rfl,by simp⟩
  · exact ⟨rfl,by simp⟩

/-- What a check does: it drops the events of blocked issues and those of bots, and
    only the latter touch the tables. -/
inductive Checks (a : Arrival) (s : State) : Option StageResult → State → Prop
  | blocked {after} (keyed : a.payload.issue_key ≠ "") (found : s.db.blocked a.payload.issue_key a.now = true)
    (same : after.db = s.db) : Checks a s (some ⟨.drop,"loop_guard_blocked"⟩) after
  | raised {after} (same : after.db = s.db) : Checks a s none after
  | passed {after} (same : after.db = s.db) : Checks a s (some ⟨.pass,""⟩) after
  | dropped {after} (bot : BotAuthored config a s) (tables : after.db = droppedDb config a s.db) :
    Checks a s (some ⟨.drop,"loop_guard"⟩) after

theorem check_checks (a : Arrival) (s : State) : Checks config a s (check config a s).1 (check config a s).2 := by
  unfold check
  split
  · next blocks =>
    simp only [Bool.and_eq_true,decide_eq_true_eq,is_blocked] at blocks
    exact .blocked blocks.1 blocks.2.2 (audit_drop_db config a _ s)
  · have looked := get_bot_ids_db config a s
    cases found : get_bot_ids config a s with
    | mk ids after =>
    rw [found] at looked
    cases ids with
    | none => exact .raised looked
    | some bot_ids =>
      simp only
      split
      · exact .passed looked
      · next listed =>
        split
        · exact .passed looked
        · obtain ⟨result,tables⟩ := drop_bot_spec config a after
          rw [result]
          have bot : BotAuthored config a s := by
            cases known : a.payload.actor_account_id with
            | none => simp [known] at listed
            | some actor => exact ⟨bot_ids,actor,by rw [found],known,by simpa [known] using listed⟩
          exact .dropped bot (by rw [tables,looked])

end

/-! ### The tables of a run -/

section
variable (config : Config) (issue_key : String)

theorem recordedSince_append (start : Int) (history : List Entry) (e : Entry) :
    recordedSince config issue_key start (history ++ [e]) =
      recordedSince config issue_key start history +
        if e.recorded config issue_key && start ≤ e.arrival.now then 1 else 0 := by
  simp only [recordedSince,List.filter_append,List.length_append,List.filter_cons,List.filter_nil]
  cases e.recorded config issue_key && decide (start ≤ e.arrival.now) <;> rfl

theorem storms_append {history : List Entry} {i : Nat} (inside : i < history.length) (e : Entry) :
    storms config issue_key (history ++ [e]) i = storms config issue_key history i := by
  have shorter : (history ++ [e]).take i = history.take i := List.take_append_of_le_length (Nat.le_of_lt inside)
  simp only [storms,List.getElem?_append_left inside,shorter]

theorem storms_last (history : List Entry) (e : Entry) :
    storms config issue_key (history ++ [e]) history.length =
      if stormsNext config issue_key history e then some e.arrival.now else none := by
  simp only [storms,List.getElem?_concat_length,List.take_left,Option.bind_some]

theorem stormTimes_append (history : List Entry) (e : Entry) :
    stormTimes config issue_key (history ++ [e]) =
      stormTimes config issue_key history ++ if stormsNext config issue_key history e then [e.arrival.now] else [] := by
  have last : [history.length].filterMap (storms config issue_key (history ++ [e])) =
      if stormsNext config issue_key history e then [e.arrival.now] else [] := by
    rw [List.filterMap_cons,List.filterMap_nil,storms_last]
    cases stormsNext config issue_key history e <;> rfl
  rw [stormTimes,List.length_append,List.length_singleton,List.range_succ,List.filterMap_append,last]
  congr 1
  exact List.filterMap_congr fun i inside => storms_append config issue_key (List.mem_range.mp inside) e

end

/-- The tables hold what the history says. -/
structure Ledger (config : Config) (history : List Entry) (db : Database) : Prop where
  counted : ∀ issue_key start, db.drop_count issue_key start = recordedSince config issue_key start history
  blocks : ∀ issue_key, issue_key ≠ "" → (db.blocks.get? issue_key).map (·.blocked_until) =
    (stormTimes config issue_key history).getLast?.map (· + seconds STORM_BLOCK_SECONDS)

section
variable {config : Config} {history : List Entry} {a : Arrival} {s after : State} {result : Option StageResult}

theorem ledger_other (ledger : Ledger config history s.db) (same : after.db = s.db)
    (other : result ≠ some ⟨.drop,"loop_guard"⟩) : Ledger config (history ++ [⟨a,s,result,after⟩]) after.db := by
  have kept : ∀ issue_key, Entry.dropped issue_key ⟨a,s,result,after⟩ = false := by
    intro issue_key
    simp [Entry.dropped,other]
  rw [same]
  refine ⟨fun issue_key start => ?_,fun issue_key keyed => ?_⟩
  · rw [recordedSince_append,ledger.counted]
    simp [Entry.recorded,kept]
  · rw [stormTimes_append,ledger.blocks issue_key keyed]
    simp [stormsNext,kept]

theorem record_drop_count (config : Config) (a : Arrival) (db : Database) (issue_key : String) (start : Int) :
    (record_drop config a db).drop_count issue_key start = db.drop_count issue_key start +
      if config.connected && a.insert_drop && a.payload.issue_key = issue_key && start ≤ a.now then 1 else 0 := by
  unfold record_drop
  cases written : config.connected && a.insert_drop with
  | false => simp
  | true =>
    simp only [if_true,Database.drop_count,List.filter_append,List.length_append,List.filter_cons,List.filter_nil,
      Bool.true_and]
    cases decide (a.payload.issue_key = issue_key) && decide (start ≤ a.now) <;> rfl

@[simp] theorem record_drop_blocks (config : Config) (a : Arrival) (db : Database) :
    (record_drop config a db).blocks = db.blocks := by
  unfold record_drop
  split <;> rfl

theorem droppedDb_count (config : Config) (a : Arrival) (db : Database) (issue_key : String) (start : Int) :
    (droppedDb config a db).drop_count issue_key start = (record_drop config a db).drop_count issue_key start := by
  simp only [droppedDb,block_issue]
  split
  · split <;> rfl
  · rfl

theorem droppedDb_own (config : Config) (a : Arrival) (db : Database) (keyed : a.payload.issue_key ≠ "") :
    ((droppedDb config a db).blocks.get? a.payload.issue_key).map (·.blocked_until) =
      if config.connected && a.count_drops && a.upsert_block && STORM_THRESHOLD ≤
          (record_drop config a db).drop_count a.payload.issue_key (a.now - seconds STORM_WINDOW_SECONDS) then
        some (a.now + seconds STORM_BLOCK_SECONDS)
      else (db.blocks.get? a.payload.issue_key).map (·.blocked_until) := by
  simp only [droppedDb,is_storm,block_issue,keyed,ne_eq,not_false_eq_true,decide_true,Bool.true_and]
  cases config.connected with
  | false => simp
  | true =>
    cases a.count_drops with
    | false => simp
    | true =>
      by_cases third : STORM_THRESHOLD ≤
          (record_drop config a db).drop_count a.payload.issue_key (a.now - seconds STORM_WINDOW_SECONDS)
      · cases a.upsert_block with
        | false => simp [third]
        | true => simp [third,Database.upsert_block,Dict.get?_set]
      · simp [third]

theorem droppedDb_other (config : Config) (a : Arrival) (db : Database) {issue_key : String}
    (other : issue_key ≠ a.payload.issue_key) : (droppedDb config a db).blocks.get? issue_key = db.blocks.get? issue_key := by
  simp only [droppedDb,block_issue]
  split
  · split
    · simp [Database.upsert_block,Dict.get?_set,other]
    · simp
  · simp

theorem ledger_dropped (ledger : Ledger config history s.db) (tables : after.db = droppedDb config a s.db) :
    Ledger config (history ++ [⟨a,s,some ⟨.drop,"loop_guard"⟩,after⟩]) after.db := by
  have counts : ∀ issue_key start, after.db.drop_count issue_key start =
      recordedSince config issue_key start (history ++ [⟨a,s,some ⟨.drop,"loop_guard"⟩,after⟩]) := by
    intro issue_key start
    rw [tables,droppedDb_count,record_drop_count,recordedSince_append,ledger.counted]
    congr 2
    simp [Entry.recorded,Entry.dropped,and_assoc,and_left_comm]
  refine ⟨counts,fun issue_key keyed => ?_⟩
  rw [stormTimes_append]
  by_cases own : issue_key = a.payload.issue_key
  · subst own
    have counted := counts a.payload.issue_key (a.now - seconds STORM_WINDOW_SECONDS)
    rw [tables,droppedDb_count] at counted
    rw [tables,droppedDb_own config a s.db keyed,counted,ledger.blocks _ keyed]
    simp only [stormsNext,Entry.dropped,decide_true,Bool.true_and]
    split
    · simp
    · simp
  · have absent : stormsNext config issue_key history ⟨a,s,some ⟨.drop,"loop_guard"⟩,after⟩ = false := by
      have differ : a.payload.issue_key ≠ issue_key := fun same => own same.symm
      simp [stormsNext,Entry.dropped,differ]
    rw [tables,droppedDb_other config a s.db own,ledger.blocks issue_key keyed,absent]
    simp

theorem ledger_step (ledger : Ledger config history s.db) (checks : Checks config a s result after) :
    Ledger config (history ++ [⟨a,s,result,after⟩]) after.db := by
  cases checks with
  | blocked keyed found same => exact ledger_other ledger same (by simp)
  | raised same => exact ledger_other ledger same nofun
  | passed same => exact ledger_other ledger same (by simp)
  | dropped bot tables => exact ledger_dropped ledger tables

theorem ledger_run (history : List Entry) (s : State) (ledger : Ledger config history s.db) (arrivals : List Arrival) :
    Ledger config (history ++ (run config s arrivals).1) (run config s arrivals).2.db := by
  induction arrivals generalizing history s with
  | nil => simpa [run] using ledger
  | cons a arrivals ih =>
    have next := ih _ _ (ledger_step ledger (check_checks config a s))
    simpa [run] using next

end

/-! ### Storms -/

section
variable (config : Config)

theorem run_arrivals (s : State) (arrivals : List Arrival) : (run config s arrivals).1.map (·.arrival) = arrivals := by
  induction arrivals generalizing s with
  | nil => rfl
  | cons a arrivals ih => simp only [run,List.map_cons,ih]

theorem run_checks (s : State) (arrivals : List Arrival) :
    ∀ e ∈ (run config s arrivals).1, Checks config e.arrival e.before e.result e.after := by
  induction arrivals generalizing s with
  | nil =>
    intro e member
    cases member
  | cons a arrivals ih =>
    intro e member
    simp only [run,List.mem_cons] at member
    rcases member with rfl | later
    · exact check_checks config a s
    · exact ih _ e later

theorem mem_stormTimes (issue_key : String) (history : List Entry) (s : Int) :
    s ∈ stormTimes config issue_key history ↔ ∃ i, storms config issue_key history i = some s := by
  constructor
  · intro member
    obtain ⟨i,-,storm⟩ := List.mem_filterMap.mp member
    exact ⟨i,storm⟩
  · rintro ⟨i,storm⟩
    have present : i < history.length := by
      by_contra beyond
      simp [storms,List.getElem?_eq_none (Nat.not_lt.mp beyond)] at storm
    exact List.mem_filterMap.mpr ⟨i,List.mem_range.mpr present,storm⟩

theorem blocked_same {a : Arrival} {s after : State} {result : Option StageResult}
    (checks : Checks config a s result after) (drops : result = some ⟨.drop,"loop_guard_blocked"⟩) : after.db = s.db := by
  cases checks with
  | blocked keyed found same => exact same
  | raised same => exact same
  | passed same => exact same
  | dropped bot tables => simp at drops

theorem stormTimes_sublist (issue_key : String) (history : List Entry) :
    (stormTimes config issue_key history).Sublist (history.map (·.arrival.now)) := by
  induction history using List.reverseRecOn with
  | nil => exact List.Sublist.refl []
  | append_singleton history e ih =>
    rw [stormTimes_append,List.map_append]
    refine ih.append ?_
    split
    · exact List.Sublist.refl _
    · exact List.nil_sublist _

theorem last_storm {times : List Int} (ordered : times.Pairwise (· ≤ ·)) {t : Int} (past : ∀ s ∈ times, s ≤ t) (length : Int) :
    (times.getLast?.map (· + length)).any (t < ·) = true ↔ ∃ s ∈ times, s ≤ t ∧ t < s + length := by
  cases last : times.getLast? with
  | none =>
    rw [List.getLast?_eq_none_iff] at last
    simp [last]
  | some latest =>
    obtain ⟨earlier,rfl⟩ := List.getLast?_eq_some_iff.mp last
    simp only [Option.map_some,Option.any_some,decide_eq_true_eq]
    constructor
    · intro before
      exact ⟨latest,by simp,past latest (by simp),before⟩
    · rintro ⟨s,member,-,before⟩
      have order : s ≤ latest := by
        rcases List.mem_append.mp member with old | new
        · exact (List.pairwise_append.mp ordered).2.2 s old latest (by simp)
        · exact Int.le_of_eq (List.mem_singleton.mp new)
      omega

/-- The statements of the check go through. -/
structure Arrival.Succeeds (a : Arrival) : Prop where
  select_block : a.select_block = true
  insert_drop : a.insert_drop = true
  count_drops : a.count_drops = true
  upsert_block : a.upsert_block = true

def windowDrops (issue_key : String) (history : List Entry) (e : Entry) : Nat :=
  (history.filter fun d => d.dropped issue_key && e.arrival.now - seconds STORM_WINDOW_SECONDS ≤ d.arrival.now &&
    d.arrival.now ≤ e.arrival.now).length

/-- What a run makes of storms. An issue is blocked exactly while some drop has stormed
    less than five minutes ago; an event that is dropped is a bot's or finds its issue
    blocked, and then leaves the tables as they are. -/
structure StormBlocks (arrivals : List Arrival) (history : List Entry) (final : State) : Prop where
  blocked : arrivals.Pairwise (·.now ≤ ·.now) → ∀ issue_key t, issue_key ≠ "" → (∀ a ∈ arrivals, a.now ≤ t) →
    (final.db.blocked issue_key t = true ↔
      ∃ i s, storms config issue_key history i = some s ∧ s ≤ t ∧ t < s + seconds STORM_BLOCK_SECONDS)
  reliable : config.connected = true → (∀ a ∈ arrivals, a.Succeeds) → arrivals.Pairwise (·.now ≤ ·.now) →
    ∀ issue_key t, issue_key ≠ "" → (∀ a ∈ arrivals, a.now ≤ t) →
    (final.db.blocked issue_key t = true ↔
      ∃ i e, history[i]? = some e ∧ e.dropped issue_key = true ∧ e.arrival.now ≤ t ∧
        t < e.arrival.now + seconds STORM_BLOCK_SECONDS ∧
        STORM_THRESHOLD ≤ windowDrops issue_key (history.take (i + 1)) e)
  dropped : ∀ e ∈ history, ∀ reason, e.result = some ⟨.drop,reason⟩ →
    BotAuthored config e.arrival e.before ∨ e.before.db.blocked e.arrival.payload.issue_key e.arrival.now = true
  unextended : ∀ e ∈ history, e.result = some ⟨.drop,"loop_guard_blocked"⟩ → e.after.db = e.before.db

theorem blocked_iff (arrivals : List Arrival) (ordered : arrivals.Pairwise (·.now ≤ ·.now)) {issue_key : String}
    (keyed : issue_key ≠ "") {t : Int} (past : ∀ a ∈ arrivals, a.now ≤ t) :
    (run config .start arrivals).2.db.blocked issue_key t = true ↔
      ∃ i s, storms config issue_key (run config .start arrivals).1 i = some s ∧ s ≤ t ∧
        t < s + seconds STORM_BLOCK_SECONDS := by
  have ledger : Ledger config (run config .start arrivals).1 (run config .start arrivals).2.db :=
    ledger_run [] .start ⟨fun _ _ => rfl,fun _ _ => rfl⟩ arrivals
  let history := (run config .start arrivals).1
  have times : history.map (·.arrival.now) = arrivals.map (·.now) := by
    rw [← run_arrivals config .start arrivals,List.map_map]
    rfl
  have sublist := stormTimes_sublist config issue_key history
  rw [times] at sublist
  have sorted : (stormTimes config issue_key history).Pairwise (· ≤ ·) := (List.pairwise_map.mpr ordered).sublist sublist
  have bounded : ∀ s ∈ stormTimes config issue_key history, s ≤ t := by
    intro s member
    obtain ⟨a,present,rfl⟩ := List.mem_map.mp (sublist.subset member)
    exact past a present
  have row : (run config .start arrivals).2.db.blocked issue_key t =
      ((stormTimes config issue_key history).getLast?.map (· + seconds STORM_BLOCK_SECONDS)).any (t < ·) := by
    rw [← ledger.blocks issue_key keyed,Database.blocked,Option.any_map]
  rw [row,last_storm sorted bounded]
  constructor
  · rintro ⟨s,member,inside⟩
    obtain ⟨i,storm⟩ := (mem_stormTimes config issue_key history s).mp member
    exact ⟨i,s,storm,inside⟩
  · rintro ⟨i,s,storm,inside⟩
    exact ⟨s,(mem_stormTimes config issue_key history s).mpr ⟨i,storm⟩,inside⟩

theorem reliable_storms {history : List Entry} (connected : config.connected = true)
    (succeeds : ∀ e ∈ history, e.arrival.Succeeds)
    (ordered : history.Pairwise (·.arrival.now ≤ ·.arrival.now)) (issue_key : String) (i : Nat) (s : Int) :
    storms config issue_key history i = some s ↔
      ∃ e, history[i]? = some e ∧ e.dropped issue_key = true ∧ e.arrival.now = s ∧
        STORM_THRESHOLD ≤ windowDrops issue_key (history.take (i + 1)) e := by
  cases present : history[i]? with
  | none => simp [storms,present]
  | some e =>
    have inside := (List.getElem?_eq_some_iff.mp present).1
    have member : e ∈ history := List.mem_of_getElem? present
    obtain ⟨-,-,counts,upserts⟩ := succeeds e member
    have prefixed : history.take i ++ [e] = history.take (i + 1) := by
      rw [List.take_add_one,present]
      rfl
    have before : ∀ d ∈ history.take (i + 1), d.arrival.now ≤ e.arrival.now := by
      intro d earlier
      rw [← prefixed] at earlier
      have pairs := ordered.sublist (List.take_sublist (i + 1) history)
      rw [← prefixed] at pairs
      rcases List.mem_append.mp earlier with old | last
      · exact (List.pairwise_append.mp pairs).2.2 d old e (by simp)
      · have itself : d = e := List.mem_singleton.mp last
        exact Int.le_of_eq (congrArg (·.arrival.now) itself)
    have same : recordedSince config issue_key (e.arrival.now - seconds STORM_WINDOW_SECONDS) (history.take (i + 1)) =
        windowDrops issue_key (history.take (i + 1)) e := by
      unfold recordedSince windowDrops
      congr 1
      refine List.filter_congr fun d earlier => ?_
      have inserted := (succeeds d (List.mem_of_mem_take earlier)).insert_drop
      simp [Entry.recorded,connected,inserted,before d earlier]
    simp [storms,present,stormsNext,connected,counts,upserts,prefixed,same,and_assoc,and_comm,and_left_comm]

/-- For every run, whatever fails. -/
theorem storm_blocks (arrivals : List Arrival) :
    StormBlocks config arrivals (run config .start arrivals).1 (run config .start arrivals).2 := by
  refine ⟨fun ordered issue_key t keyed past => blocked_iff config arrivals ordered keyed past,?_,?_,?_⟩
  · intro connected succeeds ordered issue_key t keyed past
    have arrived := run_arrivals config .start arrivals
    have goes : ∀ e ∈ (run config .start arrivals).1, e.arrival.Succeeds := by
      intro e member
      refine succeeds e.arrival ?_
      rw [← arrived]
      exact List.mem_map_of_mem member
    have sorted : (run config .start arrivals).1.Pairwise (·.arrival.now ≤ ·.arrival.now) := by
      rw [← arrived,List.pairwise_map] at ordered
      exact ordered
    rw [blocked_iff config arrivals ordered keyed past]
    simp only [reliable_storms config connected goes sorted]
    constructor
    · rintro ⟨i,s,⟨e,present,drops,rfl,third⟩,since,before⟩
      exact ⟨i,e,present,drops,since,before,third⟩
    · rintro ⟨i,e,present,drops,since,before,third⟩
      exact ⟨i,e.arrival.now,⟨e,present,drops,rfl,third⟩,since,before⟩
  · intro e member reason drops
    have checks := run_checks config .start arrivals e member
    rw [drops] at checks
    cases checks with
    | blocked keyed found same => exact .inr found
    | dropped bot tables => exact .inl bot
  · intro e member drops
    exact blocked_same config (run_checks config .start arrivals e member) drops

end

/-! Three comments of a bot, the row of the second of which is lost. -/

/-- A bot's guard with a database. -/
def guarded : Config := { connected := true, provider := false, audited := false, notified := false }

/-- An event of the actor, `n` seconds after the start. -/
def written (actor : String) (n : Int) : Arrival :=
  { payload := { actor_account_id := some actor, issue_key := "PAY-7", event_type := "jira:issue_updated"
                 comment_body := none, assignee_account_id := none, dept_id := none }
    now := seconds n, lookup_now := seconds n, audit_now := seconds n, provided := none
    department_bots := some [some "bot-1"], select_block := true, insert_drop := true, count_drops := true
    upsert_block := true, write_audit := true, notify := true }

theorem lost_row_unblocked :
    let (history,final) := run guarded .start [written "bot-1" 0,{ written "bot-1" 1 with insert_drop := false },
      written "bot-1" 2]
    history.all (Entry.dropped "PAY-7") = true ∧ (history[2]?).map (windowDrops "PAY-7" history) = some 3 ∧
      final.db.blocked "PAY-7" (seconds 3) = false := by
  decide

/-! ### The cache of bot accounts -/

section
variable (config : Config)

/-- The check comes to its lookup. -/
def looksUp (a : Arrival) (s : State) : Bool := !(a.payload.issue_key ≠ "" && is_blocked config a s.db a.payload.issue_key)

/-- The accounts that the database lists, where it answers. -/
def listing (a : Arrival) : Option (List String) :=
  (if config.connected then a.department_bots else none).map fun rows =>
    rows.filterMap fun account_id => account_id.filter (· ≠ "")

/-- The refresh of the cache that the check attempts: its time and what the database lists. -/
def Entry.refresh (e : Entry) : Option (Int × Option (List String)) :=
  if looksUp config e.arrival e.before && (cached_bot_ids e.arrival e.before).isNone then
    some (e.arrival.lookup_now,listing config e.arrival)
  else none

def refreshes (history : List Entry) : List (Int × Option (List String)) := history.filterMap (Entry.refresh config)

/-- What the last successful refresh listed. -/
def lastListing (attempts : List (Int × Option (List String))) : Option (List String) :=
  (attempts.filterMap Prod.snd).getLast?

/-- The cache holds what the last successful refresh listed, under the time of the last attempt. -/
structure Cached (attempts : List (Int × Option (List String))) (s : State) : Prop where
  stamped : s.bot_ids_cache_at = attempts.getLast?.map Prod.fst
  kept : s.bot_ids_cache = if attempts.isEmpty then none else some ((lastListing attempts).getD [])

theorem lastListing_append (attempts : List (Int × Option (List String))) (time : Int) (listed : Option (List String)) :
    lastListing (attempts ++ [(time,listed)]) = listed.or (lastListing attempts) := by
  cases listed <;> simp [lastListing]

/-- The states have the same cache. -/
def SameCache (s s' : State) : Prop :=
  s'.bot_ids_cache = s.bot_ids_cache ∧ s'.bot_ids_cache_at = s.bot_ids_cache_at

theorem audit_drop_cache (a : Arrival) (reason : String) (s : State) : SameCache s (audit_drop config a reason s) := by
  unfold audit_drop
  split <;> exact ⟨rfl,rfl⟩

theorem notify_admin_cache (a : Arrival) (event_name issue_key : String) (s : State) :
    SameCache s (notify_admin config a event_name issue_key s) := by
  unfold notify_admin
  split <;> exact ⟨rfl,rfl⟩

theorem drop_bot_cache (a : Arrival) (s : State) : SameCache s (drop_bot config a s).2 := by
  have audited := audit_drop_cache config a "loop_guard_dropped" { s with db := record_drop config a s.db }
  unfold drop_bot
  simp only
  split
  · obtain ⟨cache,stamp⟩ := notify_admin_cache config a "loop_storm_detected" a.payload.issue_key _
    exact ⟨cache.trans audited.1,stamp.trans audited.2⟩
  · exact audited

theorem check_cache (a : Arrival) (s : State) :
    SameCache (if looksUp config a s then (get_bot_ids config a s).2 else s) (check config a s).2 := by
  cases blocks : decide (a.payload.issue_key ≠ "") && is_blocked config a s.db a.payload.issue_key with
  | true =>
    simp only [check,looksUp,blocks,Bool.not_true,Bool.false_eq_true,if_false,if_true]
    exact audit_drop_cache config a _ s
  | false =>
    simp only [check,looksUp,blocks,Bool.not_false,Bool.false_eq_true,if_false,if_true]
    cases get_bot_ids config a s with
    | mk ids after =>
    cases ids with
    | none => exact ⟨rfl,rfl⟩
    | some bot_ids =>
      simp only
      split
      · exact ⟨rfl,rfl⟩
      · split
        · exact ⟨rfl,rfl⟩
        · exact drop_bot_cache config a after

end

section
variable {config : Config} (database : config.provider = false)
include database

theorem lookup_missed (a : Arrival) {s : State} (missed : cached_bot_ids a s = none) :
    get_bot_ids config a s =
      (some ((listing config a).getD (s.bot_ids_cache.getD [])),
        { s with bot_ids_cache := some ((listing config a).getD (s.bot_ids_cache.getD []))
                 bot_ids_cache_at := some a.lookup_now }) := by
  have fetched : fetch_bot_ids_from_db config a s = (listing config a).getD (s.bot_ids_cache.getD []) := by
    unfold fetch_bot_ids_from_db listing
    cases if config.connected then a.department_bots else none <;> rfl
  simp [get_bot_ids,missed,database,fetched]

theorem cached_step {attempts : List (Int × Option (List String))} {s : State} (cached : Cached attempts s) (a : Arrival) :
    Cached (attempts ++ (Entry.refresh config ⟨a,s,(check config a s).1,(check config a s).2⟩).toList)
      (check config a s).2 := by
  obtain ⟨cache,stamp⟩ := check_cache config a s
  cases looks : looksUp config a s with
  | false =>
    simp only [looks,Bool.false_eq_true,if_false] at cache stamp
    simp only [Entry.refresh,looks,Bool.false_and,Bool.false_eq_true,if_false,Option.toList_none,List.append_nil]
    exact ⟨stamp.trans cached.stamped,cache.trans cached.kept⟩
  | true =>
    simp only [looks,if_true] at cache stamp
    cases hit : cached_bot_ids a s with
    | some bot_ids =>
      simp only [get_bot_ids,hit] at cache stamp
      simp only [Entry.refresh,hit,Option.isNone_some,Bool.and_false,Bool.false_eq_true,if_false,Option.toList_none,
        List.append_nil]
      exact ⟨stamp.trans cached.stamped,cache.trans cached.kept⟩
    | none =>
      rw [lookup_missed database a hit] at cache stamp
      simp only [Entry.refresh,looks,hit,Option.isNone_none,Bool.and_self,if_true,Option.toList_some]
      refine ⟨?_,?_⟩
      · rw [stamp]
        simp
      · have earlier : s.bot_ids_cache.getD [] = (lastListing attempts).getD [] := by
          rw [cached.kept]
          cases attempts <;> rfl
        rw [cache,lastListing_append,earlier]
        cases listing config a <;> simp

theorem cached_run (history : List Entry) (s : State) (cached : Cached (refreshes config history) s)
    (arrivals : List Arrival) :
    Cached (refreshes config (history ++ (run config s arrivals).1)) (run config s arrivals).2 := by
  induction arrivals generalizing history s with
  | nil => simpa [run] using cached
  | cons a arrivals ih =>
    have step := cached_step database cached a
    have next := ih (history ++ [⟨a,s,(check config a s).1,(check config a s).2⟩]) (check config a s).2 (by
      rw [refreshes,List.filterMap_append]
      cases refresh : Entry.refresh config ⟨a,s,(check config a s).1,(check config a s).2⟩ <;>
        simpa [refresh,refreshes] using step)
    simpa [run] using next

end

/-- The last refresh failed, its stamp is still fresh, and no refresh before it listed the account. -/
def Forgotten (attempts : List (Int × Option (List String))) (account : String) (now : Int) : Prop :=
  ∃ time, attempts.getLast? = some (time,none) ∧ now - time < bot_ids_cache_ttl ∧
    account ∉ (lastListing attempts).getD []

theorem lastListing_last {attempts : List (Int × Option (List String))} {time : Int} {ids : List String}
    (last : attempts.getLast? = some (time,some ids)) : lastListing attempts = some ids := by
  obtain ⟨earlier,rfl⟩ := List.getLast?_eq_some_iff.mp last
  rw [lastListing_append]
  rfl

theorem lookup_known {config : Config} (database : config.provider = false)
    {attempts : List (Int × Option (List String))} {s : State} (cached : Cached attempts s) {a : Arrival} {account : String}
    (listed : ∃ ids, listing config a = some ids ∧ account ∈ ids)
    (known : ∀ time ids, attempts.getLast? = some (time,some ids) → account ∈ ids) :
    (∃ bot_ids, (get_bot_ids config a s).1 = some bot_ids ∧ account ∈ bot_ids) ↔
      ¬Forgotten attempts account a.lookup_now := by
  have refreshed : cached_bot_ids a s = none →
      ∃ bot_ids, (get_bot_ids config a s).1 = some bot_ids ∧ account ∈ bot_ids := by
    intro missed
    obtain ⟨ids,lists,member⟩ := listed
    exact ⟨ids,by rw [lookup_missed database a missed,lists]; rfl,member⟩
  cases last : attempts.getLast? with
  | none =>
    have stamp : s.bot_ids_cache_at = none := by rw [cached.stamped,last]; rfl
    have missed : cached_bot_ids a s = none := by cases cache : s.bot_ids_cache <;> simp [cached_bot_ids,stamp,cache]
    simp [refreshed missed,Forgotten,last]
  | some attempt =>
    obtain ⟨time,answer⟩ := attempt
    have stamp : s.bot_ids_cache_at = some time := by rw [cached.stamped,last]; rfl
    have cache : s.bot_ids_cache = some ((lastListing attempts).getD []) := by
      rw [cached.kept]
      cases attempts with
      | nil => cases last
      | cons first rest => rfl
    by_cases fresh : a.lookup_now - time < bot_ids_cache_ttl
    · have hit : cached_bot_ids a s = some ((lastListing attempts).getD []) := by
        simp [cached_bot_ids,cache,stamp,fresh]
      have found : (∃ bot_ids, (get_bot_ids config a s).1 = some bot_ids ∧ account ∈ bot_ids) ↔
          account ∈ (lastListing attempts).getD [] := by
        simp [get_bot_ids,hit]
      rw [found]
      cases answer with
      | none => simp [Forgotten,last,fresh]
      | some ids =>
        have member : account ∈ (lastListing attempts).getD [] := by
          rw [lastListing_last last]
          exact known time ids last
        simp [Forgotten,last,member]
    · have missed : cached_bot_ids a s = none := by simp [cached_bot_ids,cache,stamp,fresh]
      simp only [refreshed missed,true_iff]
      rintro ⟨time',same,young,-⟩
      rw [last] at same
      cases same
      exact fresh young

theorem check_drops_iff {config : Config} {a : Arrival} {s : State} (looks : looksUp config a s = true)
    (plain : is_approval_gate_exempt a.payload = false) :
    (check config a s).1 = some ⟨.drop,"loop_guard"⟩ ↔ BotAuthored config a s := by
  have opens : (decide (a.payload.issue_key ≠ "") && is_blocked config a s.db a.payload.issue_key) = false := by
    rw [looksUp,Bool.not_eq_true'] at looks
    exact looks
  simp only [check,opens,Bool.false_eq_true,if_false,BotAuthored]
  cases get_bot_ids config a s with
  | mk ids after =>
  cases ids with
  | none => simp
  | some bot_ids =>
    simp only [plain,Bool.false_eq_true,if_false,(drop_bot_spec config a after).1]
    cases known : a.payload.actor_account_id with
    | none => simp
    | some actor => by_cases member : actor ∈ bot_ids <;> simp [member]

/-- An account that the database lists, and listed at the last refresh that
    succeeded, is known as a bot's exactly where no failed refresh stands between. -/
theorem bot_known_iff (config : Config) (arrivals : List Arrival) (a : Arrival) (account : String)
    (database : config.provider = false) (listed : ∃ ids, listing config a = some ids ∧ account ∈ ids)
    (known : ∀ time ids, (refreshes config (run config .start arrivals).1).getLast? = some (time,some ids) → account ∈ ids)
    (author : a.payload.actor_account_id = some account) :
    (BotAuthored config a (run config .start arrivals).2 ↔
        ¬Forgotten (refreshes config (run config .start arrivals).1) account a.lookup_now) ∧
      (looksUp config a (run config .start arrivals).2 = true → is_approval_gate_exempt a.payload = false →
        ((check config a (run config .start arrivals).2).1 = some ⟨.drop,"loop_guard"⟩ ↔
          ¬Forgotten (refreshes config (run config .start arrivals).1) account a.lookup_now)) := by
  have cached : Cached (refreshes config (run config .start arrivals).1) (run config .start arrivals).2 :=
    cached_run database [] .start ⟨rfl,rfl⟩ arrivals
  have authored : BotAuthored config a (run config .start arrivals).2 ↔
      ¬Forgotten (refreshes config (run config .start arrivals).1) account a.lookup_now := by
    rw [← lookup_known database cached listed known]
    simp [BotAuthored,author]
  refine ⟨authored,fun looks plain => ?_⟩
  rw [check_drops_iff looks plain,authored]

/-! A user's event while the database is away, and then a bot's. -/

def outage : Arrival := { written "ada" 0 with department_bots := none }

theorem outage_refresh : (refreshes guarded (run guarded .start [outage]).1).getLast? = some (0,none) := by
  decide

theorem bot_known_later :
    (check guarded (written "bot-1" 300) (run guarded .start [outage]).2).1 = some ⟨.drop,"loop_guard"⟩ := by
  have known : ∀ time ids,
      (refreshes guarded (run guarded .start [outage]).1).getLast? = some (time,some ids) → "bot-1" ∈ ids := by
    intro time ids last
    rw [outage_refresh] at last
    cases last
  have young : ¬Forgotten (refreshes guarded (run guarded .start [outage]).1) "bot-1" (seconds 300) := by
    rintro ⟨time,last,fresh,-⟩
    rw [outage_refresh] at last
    cases last
    exact absurd fresh (by decide)
  exact ((bot_known_iff guarded [outage] (written "bot-1" 300) "bot-1" rfl ⟨["bot-1"],by decide,by decide⟩ known
    rfl).2 (by decide) (by decide)).mpr young

theorem bot_forgotten :
    listing guarded (written "bot-1" 10) = some ["bot-1"] ∧
      (check guarded (written "bot-1" 10) (run guarded .start [outage]).2).1 = some ⟨.pass,""⟩ := by
  decide

end Automation.LoopGuard
