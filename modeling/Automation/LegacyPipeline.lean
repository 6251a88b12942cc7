import Automation.EventDedup
import Automation.Dispatcher

/-!
The legacy webhook pipeline: event dedup, loop guard and dispatcher as stages
of `WebhookPipeline.process`, which turns an exception of a stage into a pass.

The dedup row is written before the dispatch, and the dispatcher's helpers log
a failed Temporal call and go on. So a request is reported truthfully and can
be redelivered exactly when no start, iteration or signal call of it failed
(`truthful_and_retryable_iff`).
-/
namespace Automation.LegacyPipeline
open Automation.Effects Automation.PyText

structure LoopGuardState where
  bot_ids_cache : Option (List String)
  bot_ids_cache_at : Option Int

inductive GuardQuery where
  | clock
  | blocked (issue_key : String) (now : Int)
  | fetch_bot_ids
  | record_drop (issue_key event_type : String) (dept_id : Option String) (actor_account_id : String) (now : Int)
  | drop_count (issue_key : String) (window_start : Int)
  | block_issue (issue_key : String) (blocked_until now : Int)
  | notify (event_name issue_key : String)
  | audit_drop (reason : String) (payload : Dispatcher.WebhookPayload)

@[reducible] def guardQueries : Signature where
  Cmd := GuardQuery
  Res
    | .clock => Int
    | .blocked _ _ => Except Unit Bool
    | .fetch_bot_ids => Except Unit (List String)
    | .record_drop _ _ _ _ _ => Except Unit Unit
    | .drop_count _ _ => Except Unit Nat
    | .block_issue _ _ _ => Except Unit Unit
    | .notify _ _ => Except Unit Unit
    | .audit_drop _ _ => Except Unit Unit

abbrev Guard := Component LoopGuardState guardQueries String

def guardQuery (c : GuardQuery) : Guard (guardQueries.Res c) := ask (E := guardQueries) c

def storm_threshold : Nat := 3
def storm_window_seconds : Int := 60
def storm_block_seconds : Int := 300
def bot_ids_cache_ttl : Int := 300

def is_blocked (issue_key : String) (now : Int) : Guard Bool := do
  match ← guardQuery (.blocked issue_key now) with
  | .ok blocked => return blocked
  | .error _ => return false

/-- A failed read keeps the identities read before, and counts as a refresh. -/
def get_bot_ids : Guard (List String) := do
  let now : Int ← guardQuery .clock
  let self ← look
  match self.bot_ids_cache,self.bot_ids_cache_at with
  | some cached,some cached_at =>
    if now - cached_at < bot_ids_cache_ttl then return cached else fetch now self
  | _,_ => fetch now self
where
  fetch (now : Int) (self : LoopGuardState) : Guard (List String) := do
    let bot_ids ← match ← guardQuery .fetch_bot_ids with
      | .ok fetched => pure fetched
      | .error _ => pure (self.bot_ids_cache.getD [])
    modify fun _ => { bot_ids_cache := some bot_ids, bot_ids_cache_at := some now }
    return bot_ids

/-- Approval comments are let through, unless the bot approves its own issue. -/
def is_approval_gate_exempt (payload : Dispatcher.WebhookPayload) : Bool :=
  payload.event_type == "jira:comment_created" && payload.comment_body.any Dispatcher.is_approval_comment &&
    !(payload.actor_account_id.any (· ≠ "") && payload.actor_account_id == payload.assignee_account_id)

def is_storm (issue_key : String) (now : Int) : Guard Bool := do
  match ← guardQuery (.drop_count issue_key (now - storm_window_seconds)) with
  | .ok count => return decide (storm_threshold ≤ count)
  | .error _ => return false

def drop_bot_event (payload : Dispatcher.WebhookPayload) (now : Int) : Guard EventDedup.StageResult := do
  let _ ← guardQuery (.record_drop payload.issue_key payload.event_type payload.dept_id
    (payload.actor_account_id.getD "") now)
  let _ ← guardQuery (.audit_drop "loop_guard_dropped" payload)
  if payload.issue_key ≠ "" then
    if ← is_storm payload.issue_key now then
      let _ ← guardQuery (.block_issue payload.issue_key (now + storm_block_seconds) now)
      let _ ← guardQuery (.notify "loop_storm_detected" payload.issue_key)
  return { action := .drop, reason := some "loop_guard" }

def guard_check (payload : Dispatcher.WebhookPayload) : Guard EventDedup.StageResult := do
  let now : Int ← guardQuery .clock
  let blocked ← if payload.issue_key ≠ "" then is_blocked payload.issue_key now else pure false
  if blocked then
    let _ ← guardQuery (.audit_drop "loop_guard_blocked_issue" payload)
    return { action := .drop, reason := some "loop_guard_blocked" }
  let bot_ids ← get_bot_ids
  match payload.actor_account_id with
  | none => return { action := .pass, reason := none }
  | some actor =>
    if bot_ids.contains actor = false then return { action := .pass, reason := none }
    else if is_approval_gate_exempt payload then return { action := .pass, reason := none }
    else drop_bot_event payload now

inductive StageAction where
  | pass
  | drop
  | signaled
  | workflow_started
  | iteration_started
  | budget_exceeded
  | budget_configuration_error
  | approval_forwarded
  deriving DecidableEq

structure StageResult where
  action : StageAction
  reason : Option String := none
  trace_id : Option String := none
  metadata : List (String × Json) := []

structure PipelineResult where
  final_action : StageAction
  stage_results : List (String × StageResult)
  dropped_at : Option String
  trace_id : Option String

structure WebhookPayload where
  event_id : Option String
  event_type : String
  issue_key : String
  actor_account_id : Option String
  assignee_account_id : Option String
  reporter_account_id : Option String
  comment_body : Option String
  trace_id : Option String
  raw_payload : Json
  headers : List (String × String)

/-- A stage reads and changes the state `σ`; its exception is named by its type. -/
structure Stage (σ : Type) where
  name : String
  check : WebhookPayload → σ → Except String StageResult × σ

/-- An exception of a stage passes the request on. -/
def settle : Except String StageResult → StageResult
  | .ok result => result
  | .error error_type => { action := .pass, reason := some ("stage_error: " ++ error_type) }

section
variable {σ : Type}

/-- The loop of `process`, with the results and the trace id so far. -/
def process_stages (payload : WebhookPayload) :
    List (Stage σ) → List (String × StageResult) → Option String → σ → PipelineResult × σ
  | [], results, trace_id, s =>
    ({ final_action := (results.getLast?.map fun entry => entry.2.action).getD .pass
       stage_results := results, dropped_at := none, trace_id },s)
  | stage :: rest, results, trace_id, s =>
    let checked := stage.check payload s
    let result := settle checked.1
    let trace_id := if result.trace_id.any (· ≠ "") then result.trace_id else trace_id
    let results := results ++ [(stage.name,result)]
    if result.action ≠ .pass then
      ({ final_action := result.action, stage_results := results, dropped_at := some stage.name, trace_id },checked.2)
    else process_stages payload rest results trace_id checked.2

def process (stages : List (Stage σ)) (payload : WebhookPayload) (s : σ) : PipelineResult × σ :=
  process_stages payload stages [] payload.trace_id s

end

/-- What the outside answers during one request: the time and availability of the
    dedup table, and the answers to the loop guard and to the dispatcher. -/
structure Environment where
  now : Nat
  readable : Bool
  writable : Bool
  guard : Oracle guardQueries
  dispatcher : Oracle Dispatcher.queries

/-- The state behind the stages; `log` holds what the dispatcher asked during the
    request. -/
structure PipelineState where
  table : EventDedup.Table
  guard : LoopGuardState
  dispatcher : Dispatcher.DispatcherState
  log : List (Entry Dispatcher.queries)

def dedup_database (env : Environment) : Handler EventDedup.statements EventDedup.Table
  | .exists_ event_id, table => (if env.readable then .ok (table.live env.now event_id) else .error (),table)
  | .insert event_id issue_key event_type, table =>
    if env.writable then (.ok (),table.insert env.now event_id issue_key event_type) else (.error (),table)

def dispatcher_payload (payload : WebhookPayload) : Dispatcher.WebhookPayload :=
  { actor_account_id := payload.actor_account_id, issue_key := payload.issue_key
    event_type := payload.event_type, comment_body := payload.comment_body
    assignee_account_id := payload.assignee_account_id, reporter_account_id := payload.reporter_account_id
    dept_id := none, trace_id := payload.trace_id }

def stage_action : Dispatcher.DispatchAction → StageAction
  | .drop => .drop
  | .signaled => .signaled
  | .workflow_started => .workflow_started
  | .iteration_started => .iteration_started
  | .approval_forwarded => .approval_forwarded
  | .budget_exceeded => .budget_exceeded
  | .budget_configuration_error => .budget_configuration_error

def dispatch_metadata (result : Dispatcher.DispatchResult) : List (String × Json) :=
  (match result.dept_id with
    | some dept_id => if dept_id ≠ "" then [("dept_id",.str dept_id)] else []
    | none => []) ++
  (match result.status_code with
    | some code => [("status_code",.int code)]
    | none => []) ++
  match result.body with
    | some body => [("body",body)]
    | none => []

def gate_result (reason : String) (result : EventDedup.StageResult) : StageResult :=
  match result.action with
  | .drop => { action := .drop, reason := some (result.reason.getD reason) }
  | .pass => { action := .pass }

section
variable (repr : Json → String) (sha256 : String → String) (loads : String → Option Json)

def dedup_payload (payload : WebhookPayload) : EventDedup.WebhookPayload := ⟨payload.headers,payload.raw_payload⟩

def dedup_stage (env : Environment) : Stage PipelineState where
  name := "dedup"
  check payload s :=
    match exec (dedup_database env) (EventDedup.check repr sha256 (dedup_payload payload)) s.table with
    | (.ok result,table) => (.ok (gate_result "duplicate" result),{ s with table })
    | (.error impossible,_) => impossible.elim

def loop_guard_stage (env : Environment) : Stage PipelineState where
  name := "loop_guard"
  check payload s :=
    match exec (answer env.guard) (guard_check (dispatcher_payload payload)) ⟨s.guard,[]⟩ with
    | (.ok result,w) => (.ok (gate_result "loop_guard" result),{ s with guard := w.self })
    | (.error error_type,w) => (.error error_type,{ s with guard := w.self })

def dispatcher_stage (env : Environment) : Stage PipelineState where
  name := "dispatcher"
  check payload s :=
    let ran :=
      exec (answer env.dispatcher) (Dispatcher.dispatch loads (dispatcher_payload payload)) ⟨s.dispatcher,[]⟩
    (match ran.1 with
      | .ok result => .ok { action := stage_action result.action, reason := result.reason
                            trace_id := result.trace_id, metadata := dispatch_metadata result }
      | .error _ => .error "Exception",{ s with dispatcher := ran.2.self, log := ran.2.log })

def build_webhook_pipeline (env : Environment) : List (Stage PipelineState) :=
  [dedup_stage repr sha256 env,loop_guard_stage env,dispatcher_stage loads env]

/-- One request: the log of the dispatcher starts empty. -/
def request (env : Environment) (payload : WebhookPayload) (s : PipelineState) : PipelineResult × PipelineState :=
  process (build_webhook_pipeline repr sha256 loads env) payload { s with log := [] }

end

section
open Automation.Dispatcher (Kind RpcOutcome rpc Audits Quiet Dispatched)

/-- The request reports the kind, in its result or in an audit row. -/
def Reports (kind : Kind) (ran : PipelineResult × PipelineState) : Prop :=
  ran.1.final_action = stage_action kind.action ∨ ∃ entry ∈ ran.2.log, Audits kind entry

/-- The request made a Temporal call of the kind, with this outcome. -/
def Answered (kind : Kind) (outcome : RpcOutcome) (ran : PipelineResult × PipelineState) : Prop :=
  ∃ entry ∈ ran.2.log, rpc entry = some (kind,outcome)

/-- What is reported succeeded, or its workflow was running already. -/
def Truthful (ran : PipelineResult × PipelineState) : Prop :=
  ∀ kind, Reports kind ran → Answered kind .ok ran ∨ Answered kind .already_running ran

/-- No start, iteration or signal call of the request failed. -/
def NoCallFailed (ran : PipelineResult × PipelineState) : Prop := ∀ kind, ¬Answered kind .failed ran

variable (repr : Json → String) (sha256 : String → String) (loads : String → Option Json)

/-- After a failed call the dedup stage lets a redelivery of the event through. -/
def Retryable (payload : WebhookPayload) (ran : PipelineResult × PipelineState) : Prop :=
  ¬NoCallFailed ran → ∀ env again, EventDedup.derive_event_id repr sha256 (dedup_payload again) =
    EventDedup.derive_event_id repr sha256 (dedup_payload payload) →
      ∀ result, ((dedup_stage repr sha256 env).check again ran.2).1 = .ok result → result.action ≠ .drop

/-- The log and result of a request: stopped before the dispatcher with an empty
    log, or those of the dispatch. -/
inductive Requested (ran : PipelineResult × PipelineState) : Prop
  | stopped (log : ran.2.log = []) (action : ran.1.final_action = .drop)
  | failed {error} (dispatched : Dispatched (.error error) ran.2.log) (action : ran.1.final_action = .pass)
  | dispatched {result} (dispatched : Dispatched (.ok result) ran.2.log)
      (action : ran.1.final_action = stage_action result.action)

private theorem gate_result_action (reason : String) (result : EventDedup.StageResult) :
    (gate_result reason result).action = .pass ∨ (gate_result reason result).action = .drop := by
  unfold gate_result
  split
  · exact .inr rfl
  · exact .inl rfl

/-- A stage that leaves the log as it is and only passes or drops. -/
def Gates (stage : Stage PipelineState) : Prop :=
  ∀ payload s, (stage.check payload s).2.log = s.log ∧
    ∀ result, (stage.check payload s).1 = .ok result → result.action = .pass ∨ result.action = .drop

private theorem dedup_stage_gates (env : Environment) : Gates (dedup_stage repr sha256 env) := by
  intro payload s
  simp only [dedup_stage]
  split
  · exact ⟨rfl,fun result same => by cases same; exact gate_result_action ..⟩
  · exact Empty.elim ‹_›

private theorem loop_guard_stage_gates (env : Environment) : Gates (loop_guard_stage env) := by
  intro payload s
  simp only [loop_guard_stage]
  split
  · exact ⟨rfl,fun result same => by cases same; exact gate_result_action ..⟩
  · exact ⟨rfl,nofun⟩

private theorem requested_gate {stage : Stage PipelineState} (gates : Gates stage) (payload : WebhookPayload)
    (rest : List (Stage PipelineState)) (results : List (String × StageResult)) (trace_id : Option String)
    (s : PipelineState) (fresh : s.log = [])
    (others : ∀ results trace_id next, next.log = [] → Requested (process_stages payload rest results trace_id next)) :
    Requested (process_stages payload (stage :: rest) results trace_id s) := by
  obtain ⟨kept,acts⟩ := gates payload s
  simp only [process_stages]
  by_cases passes : (settle (stage.check payload s).1).action = .pass
  · simp only [passes,ne_eq,not_true_eq_false,if_false]
    exact others _ _ _ (kept.trans fresh)
  · simp only [passes,ne_eq,not_false_eq_true,if_true]
    refine .stopped (kept.trans fresh) ?_
    cases checked : (stage.check payload s).1 with
    | error error_type => simp [checked,settle] at passes
    | ok result => exact (acts result checked).resolve_left (by simpa [checked,settle] using passes)

private theorem process_last {σ : Type} (stage : Stage σ) (payload : WebhookPayload)
    (results : List (String × StageResult)) (trace_id : Option String) (s : σ) :
    (process_stages payload [stage] results trace_id s).1.final_action = (settle (stage.check payload s).1).action ∧
      (process_stages payload [stage] results trace_id s).2 = (stage.check payload s).2 := by
  simp only [process_stages]
  split <;> simp

private theorem requested_dispatcher (env : Environment) (payload : WebhookPayload)
    (results : List (String × StageResult)) (trace_id : Option String) (s : PipelineState) :
    Requested (process_stages payload [dispatcher_stage loads env] results trace_id s) := by
  obtain ⟨added,log,dispatched⟩ :=
    Dispatcher.dispatch_spec loads (dispatcher_payload payload) env.dispatcher ⟨s.dispatcher,[]⟩
  obtain ⟨action,state⟩ := process_last (dispatcher_stage loads env) payload results trace_id s
  have logged : (process_stages payload [dispatcher_stage loads env] results trace_id s).2.log = added := by
    rw [state]
    exact log
  rw [← logged] at dispatched
  simp only [dispatcher_stage] at action
  generalize (exec (answer env.dispatcher) (Dispatcher.dispatch loads (dispatcher_payload payload))
    ⟨s.dispatcher,[]⟩).1 = returned at action dispatched
  cases returned with
  | ok result => exact .dispatched dispatched action
  | error error => exact .failed dispatched action

theorem request_spec (env : Environment) (payload : WebhookPayload) (s : PipelineState) :
    Requested (request repr sha256 loads env payload s) := by
  refine requested_gate (dedup_stage_gates repr sha256 env) payload _ _ _ _ rfl fun results trace_id next fresh => ?_
  refine requested_gate (loop_guard_stage_gates env) payload _ _ _ next fresh fun results trace_id last _ => ?_
  exact requested_dispatcher loads env payload results trace_id last

private theorem rpc_audits {kind : Kind} {entry : Entry Dispatcher.queries} (audits : Audits kind entry) :
    rpc entry = none := by
  obtain ⟨row,cmd,-⟩ := audits
  obtain ⟨c,res⟩ := entry
  obtain rfl : c = .audit row := cmd
  rfl

private theorem auditAction_injective {first second : Kind} (same : first.auditAction = second.auditAction) :
    first = second := by
  cases first <;> cases second <;> first | rfl | exact absurd same (by decide)

private theorem stage_action_injective {first second : Kind}
    (same : stage_action first.action = stage_action second.action) : first = second := by
  cases first <;> cases second <;> first | rfl | exact absurd same (by decide)

private theorem reported_call {log : List (Entry Dispatcher.queries)} {call row entry : Entry Dispatcher.queries}
    {kind : Kind} (quiet : ∀ entry ∈ log, Quiet entry.cmd) (audits : Audits kind row)
    (member : entry ∈ log ++ [call,row]) {found : Kind × RpcOutcome} (called : rpc entry = some found) :
    entry = call := by
  simp only [List.mem_append,List.mem_cons,List.not_mem_nil,or_false] at member
  rcases member with earlier | same | rfl
  · simp [Dispatcher.rpc_quiet (quiet entry earlier)] at called
  · exact same
  · simp [rpc_audits audits] at called

theorem requested_cases {ran : PipelineResult × PipelineState} (requested : Requested ran) :
    (∀ kind, ¬Reports kind ran ∧ ∀ outcome, ¬Answered kind outcome ran) ∨
      ∃ kind outcome, (∀ other, Reports other ran ↔ other = kind) ∧
        ∀ other found, Answered other found ran ↔ other = kind ∧ found = outcome := by
  have silent (quiet : ∀ entry ∈ ran.2.log, Quiet entry.cmd)
      (unreported : ∀ kind : Kind, ran.1.final_action ≠ stage_action kind.action) :
      ∀ kind, ¬Reports kind ran ∧ ∀ outcome, ¬Answered kind outcome ran := by
    intro kind
    constructor
    · rintro (action | ⟨entry,member,audits⟩)
      · exact unreported kind action
      · exact Dispatcher.not_audits_quiet (quiet entry member) kind audits
    · rintro outcome ⟨entry,member,called⟩
      simp [Dispatcher.rpc_quiet (quiet entry member)] at called
  cases requested with
  | stopped log action => exact .inl (silent (by simp [log]) fun kind => by rw [action]; cases kind <;> decide)
  | failed dispatched action =>
    cases dispatched with
    | raised quiet => exact .inl (silent quiet fun kind => by rw [action]; cases kind <;> decide)
  | @dispatched result dispatched action =>
    generalize logged : ran.2.log = entries at dispatched
    cases dispatched with
    | unreported quiet unreported =>
      refine .inl (silent (logged ▸ quiet) fun kind same => unreported kind ?_)
      have injective : ∀ first second : Dispatcher.DispatchAction, stage_action first = stage_action second →
          first = second := by
        intro first second; cases first <;> cases second <;> decide
      exact injective _ _ (action.symm.trans same)
    | @reported kind outcome _ log call row quiet called audits reports =>
      have final : ran.1.final_action = stage_action kind.action := action.trans (congrArg stage_action reports)
      refine .inr ⟨kind,outcome,fun other => ⟨?_,?_⟩,fun other found => ⟨?_,?_⟩⟩
      · rintro (same | ⟨entry,member,audited⟩)
        · exact stage_action_injective (same.symm.trans final)
        · rw [logged] at member
          simp only [List.mem_append,List.mem_cons,List.not_mem_nil,or_false] at member
          rcases member with earlier | rfl | rfl
          · exact absurd audited (Dispatcher.not_audits_quiet (quiet entry earlier) other)
          · simp [rpc_audits audited] at called
          · exact auditAction_injective (Dispatcher.audits_action audited audits)
      · rintro rfl
        exact .inl final
      · rintro ⟨entry,member,answered⟩
        rw [logged] at member
        obtain rfl := reported_call quiet audits member answered
        simpa using answered.symm.trans called
      · rintro ⟨rfl,rfl⟩
        exact ⟨call,by simp [logged],called⟩

private theorem failed_not_truthful {ran : PipelineResult × PipelineState} (requested : Requested ran) {kind : Kind}
    (failed : Answered kind .failed ran) : ¬Truthful ran := by
  intro truthful
  rcases requested_cases requested with silent | ⟨reported,outcome,reports,answered⟩
  · exact (silent kind).2 _ failed
  · obtain ⟨rfl,rfl⟩ := (answered kind .failed).mp failed
    rcases truthful kind ((reports kind).mpr rfl) with ok | running
    · cases ((answered kind .ok).mp ok).2
    · cases ((answered kind .already_running).mp running).2

/-- A request is truthful and can be retried exactly when none of its start,
    iteration and signal calls failed. -/
theorem truthful_and_retryable_iff (env : Environment) (payload : WebhookPayload) (s : PipelineState) :
    Truthful (request repr sha256 loads env payload s) ∧
        Retryable repr sha256 payload (request repr sha256 loads env payload s) ↔
      NoCallFailed (request repr sha256 loads env payload s) := by
  have requested := request_spec repr sha256 loads env payload s
  generalize request repr sha256 loads env payload s = ran at requested
  constructor
  · rintro ⟨truthful,-⟩ kind failed
    exact failed_not_truthful requested failed truthful
  · intro succeeded
    refine ⟨fun kind reports => ?_,fun failed => absurd succeeded failed⟩
    rcases requested_cases requested with silent | ⟨reported,outcome,reported_iff,answered⟩
    · exact absurd reports (silent kind).1
    · obtain rfl := (reported_iff kind).mp reports
      cases outcome with
      | ok => exact .inl ((answered kind .ok).mpr ⟨rfl,rfl⟩)
      | already_running => exact .inr ((answered kind .already_running).mpr ⟨rfl,rfl⟩)
      | failed => exact absurd ((answered kind .failed).mpr ⟨rfl,rfl⟩) (succeeded kind)

end

/-! A bot is assigned an issue while Temporal is unreachable. -/

def assigned : WebhookPayload :=
  { event_id := some "evt-9", event_type := "jira:issue_updated", issue_key := "PAY-7"
    actor_account_id := some "user-1", assignee_account_id := some "bot-1", reporter_account_id := none
    comment_body := none, trace_id := some "trace-1", raw_payload := .obj []
    headers := [("x-atlassian-webhook-identifier","evt-9")] }

def temporalDown : Environment :=
  { now := 0, readable := true, writable := true
    guard := fun _ c => match c with
      | .clock => 0
      | .blocked _ _ => .ok false
      | .fetch_bot_ids => .ok ["bot-1"]
      | .record_drop _ _ _ _ _ => .ok ()
      | .drop_count _ _ => .ok 0
      | .block_issue _ _ _ => .ok ()
      | .notify _ _ => .ok ()
      | .audit_drop _ _ => .ok ()
    dispatcher := fun _ c => match c with
      | .monotonic => 0
      | .load_tables => .error ()
      | .find_bot account_id => .ok (some ⟨account_id,"payments","jira"⟩)
      | .find_dept dept_id => .ok (some ⟨dept_id,"active",.obj []⟩)
      | .describe _ => .error ()
      | .work_item_status _ => .ok none
      | .count_via_temporal _ => .error ()
      | .count_via_postgres _ => .ok 0
      | .check_budget _ _ _ => .unwired
      | .capability_rows _ => .ok ⟨["jira"],false,0⟩
      | .environ => []
      | .uuid4 => "3f2c9a10"
      | .post_comment _ _ _ => .ok ()
      | .audit _ => ()
      | .start_workflow _ _ _ _ => .failed
      | .signal_workflow _ _ _ => .failed }

def emptyPipeline : PipelineState :=
  { table := .empty, guard := ⟨none,none⟩, dispatcher := ⟨[],[],0,false⟩, log := [] }

def unreachable : PipelineResult × PipelineState :=
  request (fun _ => "") id (fun _ => none) temporalDown assigned emptyPipeline

private theorem unreachable_answered : Answered .workflow .failed unreachable :=
  ⟨_,List.mem_append_left _ (List.mem_append_right _ (List.mem_cons_self ..)),rfl⟩

theorem failed_start_reported_and_lost :
    unreachable.1.final_action = .workflow_started ∧ ¬Truthful unreachable ∧
      ¬Retryable (fun _ => "") id assigned unreachable := by
  refine ⟨rfl,failed_not_truthful (request_spec ..) unreachable_answered,fun retryable => ?_⟩
  exact retryable (fun succeeded => succeeded .workflow unreachable_answered) temporalDown assigned rfl _ rfl rfl

end Automation.LegacyPipeline
