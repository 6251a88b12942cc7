import Automation.AgentMessages
import Automation.Sha256

/-!
`NotificationService` over its log. A row goes into the log before the adapter is called,
under a key of the workflow id (for the alarm of the audit prune, of its cron run), the
channel and the kind; a dispatch whose key has a row is skipped.

So the adapter is called for the first dispatch under a key and for no other, whatever
came of it (`notification_log`). A failure alarm is delivered once and repeated until then
exactly where the first dispatch under its key is its own and the adapter takes it
(`alarmsDelivered_iff`).
-/
namespace Automation.Notifications
open Automation.AgentMessages (Python)
open Automation.Sha256 (hexdigest utf8)

inductive WorkflowStatus where
  | completed
  | failed
  | partial_
  deriving DecidableEq

inductive NotificationChannel where
  | slack
  | email
  | teams
  deriving DecidableEq

inductive NotificationKind where
  | workflow_completion
  | audit_prune_failed
  deriving DecidableEq

inductive NotificationStatus where
  | sent
  | failed
  | retrying
  deriving DecidableEq

def NotificationChannel.text : NotificationChannel → String
  | .slack => "slack"
  | .email => "email"
  | .teams => "teams"

def NotificationKind.text : NotificationKind → String
  | .workflow_completion => "workflow_completion"
  | .audit_prune_failed => "audit_prune_failed"

structure DeptConfigView where
  notify_on_success : Bool
  notify_channels : List NotificationChannel
  slack_webhook : Option String
  notify_email : Option String

structure NotificationLogEntry where
  dedup_key : String
  channel : NotificationChannel
  kind : NotificationKind
  target : String
  body_hash : String
  status : NotificationStatus
  error : Option String
  deriving DecidableEq

structure NotificationOutcome where
  slack_sent : Bool
  email_sent : Bool
  slack_skipped_dedup : Bool
  email_skipped_dedup : Bool
  slack_failed : Bool
  email_failed : Bool
  deriving DecidableEq

def NotificationOutcome.none : NotificationOutcome := ⟨false,false,false,false,false,false⟩

inductive Error where
  | template_render (message : String)
  | notification (message : String)

def FAILURE_TEMPLATE : String := "notifications/workflow_failed"
def SUCCESS_TEMPLATE : String := "notifications/workflow_succeeded"
def HASH_SEP : String := ":"
def AUDIT_PRUNE_FAILED_TEMPLATE : String := "notifications/audit_prune_failed"
def AUDIT_PRUNE_FAILED_ALERT_TYPE : String := "audit_prune_failed"
def AUDIT_PRUNE_FAILED_DEFAULT_RUN_ID : String := "audit-prune-cron"
def ADMIN_CHANNEL_TARGET : String := "admin-channel"

def sha256_hex (value : String) : String := hexdigest (utf8 value)

def dedup_key (workflow_id : String) (channel : NotificationChannel) (kind : NotificationKind) : String :=
  sha256_hex (workflow_id ++ HASH_SEP ++ channel.text ++ HASH_SEP ++ kind.text)

def outcome_with_sent (outcome : NotificationOutcome) : NotificationChannel → NotificationOutcome
  | .slack => { outcome with slack_sent := true }
  | .email => { outcome with email_sent := true }
  | .teams => outcome

def outcome_with_dedup (outcome : NotificationOutcome) : NotificationChannel → NotificationOutcome
  | .slack => { outcome with slack_skipped_dedup := true }
  | .email => { outcome with email_skipped_dedup := true }
  | .teams => outcome

def outcome_with_failure (outcome : NotificationOutcome) : NotificationChannel → NotificationOutcome
  | .slack => { outcome with slack_failed := true }
  | .email => { outcome with email_failed := true }
  | .teams => outcome

/-! ### The calls -/

/-- What an adapter is called with. -/
inductive Send where
  | slack (body webhook : String)
  | admin (body alert_type : String)
  | email (body address : String)

def Send.channel : Send → NotificationChannel
  | .slack _ _ | .admin _ _ => .slack
  | .email _ _ => .email

inductive Request where
  | workflow_completion (workflow_id : String) (dept : DeptConfigView) (status : WorkflowStatus) (prompt_vars : Json)
  | audit_prune_failed (error : String) (run_id : Option String)

/-- A call: which run of its workflow or cron job it is made for, its arguments, the
    renderer, and whether the adapters take what they get, or raise. -/
structure Call where
  run : Nat
  request : Request
  render : String → Json → Except String String
  adapter : Send → Except String Unit

abbrev Log := List NotificationLogEntry

/-- `INSERT … ON CONFLICT (dedup_key) DO NOTHING RETURNING id`: whether a row was inserted. -/
def insert (log : Log) (entry : NotificationLogEntry) : Bool × Log :=
  if log.any fun row => row.dedup_key = entry.dedup_key then (false,log) else (true,log ++ [entry])

/-- What a call leaves and returns, and the adapter calls it made. -/
structure Reply where
  log : Log
  sends : List Send
  answer : Except Error NotificationOutcome

/-- The adapter that serves a channel. -/
def send_on (body target : String) : NotificationChannel → Option Send
  | .slack => some (.slack body target)
  | .email => some (.email body target)
  | .teams => none

/-- The row that `_dispatch_one` inserts. -/
def entry_sent (workflow_id : String) (channel : NotificationChannel) (target body_hash : String) : NotificationLogEntry where
  dedup_key := dedup_key workflow_id channel .workflow_completion
  channel := channel
  kind := .workflow_completion
  target := sha256_hex target
  body_hash := body_hash
  status := .sent
  error := none

/-- The outcome, the log and the adapter calls after `_dispatch_one`. -/
def dispatch_one (adapter : Send → Except String Unit) (log : Log) (workflow_id : String) (channel : NotificationChannel)
    (target body body_hash : String) (outcome : NotificationOutcome) : NotificationOutcome × Log × List Send :=
  let (inserted,log) := insert log (entry_sent workflow_id channel target body_hash)
  if !inserted then (outcome_with_dedup outcome channel,log,[])
  else
    match send_on body target channel with
    | none => (outcome_with_failure outcome channel,log,[])
    | some send =>
      match adapter send with
      | .error _ => (outcome_with_failure outcome channel,log,[send])
      | .ok () => (outcome_with_sent outcome channel,log,[send])

/-- `_dispatch_one` if the channel is eligible and has a target. -/
def dispatch_eligible (eligible : Bool) (target : Option String) (adapter : Send → Except String Unit) (log : Log)
    (workflow_id : String) (channel : NotificationChannel) (body body_hash : String) (outcome : NotificationOutcome) :
    NotificationOutcome × Log × List Send :=
  match eligible,target with
  | true,some target => dispatch_one adapter log workflow_id channel target body body_hash outcome
  | _,_ => (outcome,log,[])

def channel_error (py : Python) (failed : Bool) (channel : NotificationChannel) (workflow_id : String) : Option String :=
  if failed then some (channel.text ++ " dispatch failed for workflow " ++ py.repr (.str workflow_id)) else none

/-- A failure notification raises the error of its channels, Slack's before that of email. -/
def raise_or_return (is_failure : Bool) (error : Option String) (outcome : NotificationOutcome) : Except Error NotificationOutcome :=
  match is_failure,error with
  | true,some primary => .error (.notification primary)
  | _,_ => .ok outcome

def notify_workflow_completion (py : Python) (call : Call) (log : Log) (workflow_id : String) (dept : DeptConfigView)
    (status : WorkflowStatus) (prompt_vars : Json) : Reply :=
  let is_failure := status == .failed
  if !is_failure && !dept.notify_on_success then ⟨log,[],.ok .none⟩
  else
    let template_name := if is_failure then FAILURE_TEMPLATE else SUCCESS_TEMPLATE
    match call.render template_name prompt_vars with
    | .error exc =>
      ⟨log,[],.error (.template_render ("failed to render notification template '" ++ template_name ++ "': " ++ exc))⟩
    | .ok body =>
      let body_hash := sha256_hex body
      let slack_eligible := is_failure || dept.notify_channels.contains .slack
      let email_eligible := dept.notify_channels.contains .email || (is_failure && dept.notify_email.isSome)
      let (outcome,log,slack_sends) :=
        dispatch_eligible slack_eligible dept.slack_webhook call.adapter log workflow_id .slack body body_hash .none
      let slack_error := channel_error py outcome.slack_failed .slack workflow_id
      let (outcome,log,email_sends) :=
        dispatch_eligible email_eligible dept.notify_email call.adapter log workflow_id .email body body_hash outcome
      let email_error := channel_error py outcome.email_failed .email workflow_id
      ⟨log,slack_sends ++ email_sends,raise_or_return is_failure (slack_error.or email_error) outcome⟩

/-- `run_id or _AUDIT_PRUNE_FAILED_DEFAULT_RUN_ID` -/
def cron_run (run_id : Option String) : String :=
  let given := run_id.getD ""
  if given = "" then AUDIT_PRUNE_FAILED_DEFAULT_RUN_ID else given

def notify_audit_prune_failed (call : Call) (log : Log) (error : String) (run_id : Option String) : Reply :=
  match call.render AUDIT_PRUNE_FAILED_TEMPLATE (.obj [("error",.str error)]) with
  | .error exc =>
    ⟨log,[],.error (.template_render
      ("failed to render notification template '" ++ AUDIT_PRUNE_FAILED_TEMPLATE ++ "': " ++ exc))⟩
  | .ok body =>
    let body_hash := sha256_hex body
    let key := dedup_key (cron_run run_id) .slack .audit_prune_failed
    let (inserted,log) := insert log ⟨key,.slack,.audit_prune_failed,ADMIN_CHANNEL_TARGET,body_hash,.sent,none⟩
    if !inserted then ⟨log,[],.ok (outcome_with_dedup .none .slack)⟩
    else
      let send := Send.admin body AUDIT_PRUNE_FAILED_ALERT_TYPE
      match call.adapter send with
      | .error exc => ⟨log,[send],.error (.notification ("audit_prune_failed admin alarm dispatch failed: " ++ exc))⟩
      | .ok () => ⟨log,[send],.ok (outcome_with_sent .none .slack)⟩

def serve (py : Python) (log : Log) (call : Call) : Reply :=
  match call.request with
  | .workflow_completion workflow_id dept status prompt_vars =>
    notify_workflow_completion py call log workflow_id dept status prompt_vars
  | .audit_prune_failed error run_id => notify_audit_prune_failed call log error run_id

def run (py : Python) (calls : List Call) : Log := calls.foldl (fun log call => (serve py log call).log) []

/-! ### First ones by a key -/

section firsts
variable {α κ : Type} [DecidableEq κ] (key : α → κ)

/-- The items whose key is new, each adding its key to those seen. -/
def firsts (seen : List κ) : List α → List α
  | [] => []
  | item :: rest => if key item ∈ seen then firsts seen rest else item :: firsts (key item :: seen) rest

variable {key} {seen : List κ}
attribute [local simp] firsts

theorem firsts_congr {other : List κ} (same : ∀ k, k ∈ seen ↔ k ∈ other) (items : List α) :
    firsts key seen items = firsts key other items := by
  induction items generalizing seen other with
  | nil => rfl
  | cons item rest ih =>
    simp only [firsts,same (key item)]
    split
    · exact ih same
    · have grown : ∀ k, k ∈ key item :: seen ↔ k ∈ key item :: other := fun k => by simp [same k]
      rw [ih grown]

theorem firsts_append (front back : List α) :
    firsts key seen (front ++ back) = firsts key seen front ++ firsts key (front.map key ++ seen) back := by
  induction front generalizing seen with
  | nil => rfl
  | cons item rest ih =>
    simp only [List.cons_append,firsts]
    have reordered : ∀ k, k ∈ rest.map key ++ key item :: seen ↔ k ∈ key item :: (rest.map key ++ seen) := by
      intro k
      simp only [List.mem_append,List.mem_cons]
      tauto
    by_cases known : key item ∈ seen
    · have grown : ∀ k, k ∈ rest.map key ++ seen ↔ k ∈ key item :: (rest.map key ++ seen) := by
        intro k
        by_cases same : k = key item
        · simp [same,known]
        · simp [same]
      rw [if_pos known,if_pos known,ih,firsts_congr grown]
      rfl
    · rw [if_neg known,if_neg known,ih,List.cons_append,firsts_congr reordered]
      rfl

theorem firsts_sublist (items : List α) : (firsts key seen items).Sublist items := by
  induction items generalizing seen with
  | nil => exact .slnil
  | cons item rest ih =>
    simp only [firsts]
    split
    · exact ih.cons _
    · exact ih.cons_cons _

theorem firsts_new {items : List α} {item : α} (member : item ∈ firsts key seen items) : key item ∉ seen := by
  induction items generalizing seen with
  | nil => simp [firsts] at member
  | cons first rest ih =>
    simp only [firsts] at member
    split at member
    · exact ih member
    · rcases List.mem_cons.mp member with rfl | later
      · assumption
      · exact fun known => ih later (List.mem_cons_of_mem _ known)

theorem firsts_keys (items : List α) : ((firsts key seen items).map key).Nodup := by
  induction items generalizing seen with
  | nil => exact .nil
  | cons item rest ih =>
    simp only [firsts]
    split
    · exact ih
    · refine List.nodup_cons.mpr ⟨fun again => ?_,ih⟩
      obtain ⟨other,member,same⟩ := List.mem_map.mp again
      exact firsts_new member (by simp [same])

theorem mem_firsts_iff {items : List α} {item : α} :
    item ∈ firsts key [] items ↔ items.find? (fun other => key other = key item) = some item := by
  induction items using List.reverseRecOn with
  | nil => simp [firsts]
  | append_singleton front last ih =>
    rw [firsts_append,List.mem_append,ih,List.find?_append]
    cases found : front.find? fun other => key other = key item with
    | none =>
      have absent : ∀ other ∈ front, key other ≠ key item := by simpa using found
      by_cases same : key last = key item
      · have unseen : key item ∉ front.map key := by simpa using absent
        simp [firsts,same,unseen,eq_comm]
      · have other : last ≠ item := fun equal => same (by rw [equal])
        simp [firsts,same]
        intro _
        exact other.symm
    | some first =>
      have same : key first = key item := by simpa using List.find?_some found
      have member : first ∈ front := List.mem_of_find?_eq_some found
      have known : key item ∈ front.map key := List.mem_map.mpr ⟨first,member,same⟩
      simp only [Option.some.injEq,Option.some_or,or_iff_left_iff_imp]
      intro last_item
      exact absurd (by simpa using known) (firsts_new last_item)

end firsts

/-! ### What a call dispatches -/

structure Alarm where
  subject : String
  kind : NotificationKind
  run : Nat
  channel : NotificationChannel
  deriving DecidableEq

/-- What a call is to send on a channel, the failure alarm that it is, if it is one, and
    whether the adapter takes it. -/
structure Dispatch where
  key : String
  send : Send
  alarm : Option Alarm
  accepted : Bool

def Dispatch.channel (d : Dispatch) : NotificationChannel := d.send.channel

def accepts (adapter : Send → Except String Unit) (send : Send) : Bool :=
  match adapter send with
  | .ok () => true
  | .error _ => false

def Call.alarm (call : Call) (channel : NotificationChannel) : Option Alarm :=
  match call.request with
  | .workflow_completion workflow_id _ .failed _ => some ⟨workflow_id,.workflow_completion,call.run,channel⟩
  | .workflow_completion _ _ _ _ => none
  | .audit_prune_failed _ run_id => some ⟨cron_run run_id,.audit_prune_failed,call.run,channel⟩

def Call.dispatch (call : Call) (workflow_id : String) (kind : NotificationKind) (send : Send) : Dispatch where
  key := dedup_key workflow_id send.channel kind
  send := send
  alarm := call.alarm send.channel
  accepted := accepts call.adapter send

def Call.dispatches (call : Call) : List Dispatch :=
  match call.request with
  | .workflow_completion workflow_id dept status prompt_vars =>
    let is_failure := status == .failed
    if !is_failure && !dept.notify_on_success then []
    else
      match call.render (if is_failure then FAILURE_TEMPLATE else SUCCESS_TEMPLATE) prompt_vars with
      | .error _ => []
      | .ok body =>
        let slack := if is_failure || dept.notify_channels.contains .slack then dept.slack_webhook.toList else []
        let email := if is_failure || dept.notify_channels.contains .email then dept.notify_email.toList else []
        slack.map (fun webhook => call.dispatch workflow_id .workflow_completion (.slack body webhook)) ++
          email.map fun address => call.dispatch workflow_id .workflow_completion (.email body address)
  | .audit_prune_failed error run_id =>
    match call.render AUDIT_PRUNE_FAILED_TEMPLATE (.obj [("error",.str error)]) with
    | .error _ => []
    | .ok body => [call.dispatch (cron_run run_id) .audit_prune_failed (.admin body AUDIT_PRUNE_FAILED_ALERT_TYPE)]

def Log.keys (log : Log) : List String := log.map NotificationLogEntry.dedup_key

def NotificationOutcome.sent_on (outcome : NotificationOutcome) : NotificationChannel → Bool
  | .slack => outcome.slack_sent
  | .email => outcome.email_sent
  | .teams => false

def NotificationOutcome.skipped_on (outcome : NotificationOutcome) : NotificationChannel → Bool
  | .slack => outcome.slack_skipped_dedup
  | .email => outcome.email_skipped_dedup
  | .teams => false

def NotificationOutcome.failed_on (outcome : NotificationOutcome) : NotificationChannel → Bool
  | .slack => outcome.slack_failed
  | .email => outcome.email_failed
  | .teams => false

/-! ### One call -/

/-- What the outcome of a call says of its channels, where the keys seen have rows: the first
    dispatches under their keys are sent, the others are skipped. -/
structure Told (seen : List String) (dispatches : List Dispatch) (outcome : NotificationOutcome) : Prop where
  sent : ∀ channel, outcome.sent_on channel =
    (firsts Dispatch.key seen dispatches).any fun d => d.channel = channel && d.accepted
  failed : ∀ channel, outcome.failed_on channel =
    (firsts Dispatch.key seen dispatches).any fun d => d.channel = channel && !d.accepted
  skipped : ∀ channel, outcome.skipped_on channel = ((dispatches.any fun d => d.channel = channel) &&
    !(firsts Dispatch.key seen dispatches).any fun d => d.channel = channel)

/-- What a call does, where the keys seen have rows: it sends the first dispatches under
    their keys, and raises where a failure alarm among them is not taken. -/
structure Answers (seen : List String) (call : Call) (reply : Reply) : Prop where
  sends : reply.sends = (firsts Dispatch.key seen call.dispatches).map Dispatch.send
  told : ∀ outcome, reply.answer = .ok outcome → Told seen call.dispatches outcome
  raises : (∃ message, reply.answer = .error (.notification message)) ↔
    ∃ d ∈ firsts Dispatch.key seen call.dispatches, d.alarm.isSome = true ∧ d.accepted = false

/-- And it leaves a row for each dispatch. -/
structure Performs (log : Log) (call : Call) (reply : Reply) : Prop extends Answers log.keys call reply where
  keys : ∀ k, k ∈ reply.log.keys ↔ k ∈ log.keys ∨ ∃ d ∈ call.dispatches, d.key = k

variable {call : Call}

theorem Answers.congr {seen other : List String} {reply : Reply} (answers : Answers seen call reply)
    (same : ∀ k, k ∈ seen ↔ k ∈ other) : Answers other call reply := by
  have equal : firsts Dispatch.key seen call.dispatches = firsts Dispatch.key other call.dispatches := firsts_congr same _
  refine ⟨equal ▸ answers.sends,fun outcome answered => ?_,equal ▸ answers.raises⟩
  have told := answers.told outcome answered
  exact ⟨equal ▸ told.sent,equal ▸ told.failed,equal ▸ told.skipped⟩

theorem insert_known {log : Log} {entry : NotificationLogEntry} (known : entry.dedup_key ∈ log.keys) :
    insert log entry = (false,log) := by
  have found : log.any (fun row => row.dedup_key = entry.dedup_key) = true := by
    simpa [Log.keys] using known
  rw [insert,if_pos found]

theorem insert_new {log : Log} {entry : NotificationLogEntry} (new : entry.dedup_key ∉ log.keys) :
    insert log entry = (true,log ++ [entry]) := by
  have missing : ¬(log.any (fun row => row.dedup_key = entry.dedup_key) = true) := by
    simpa [Log.keys] using new
  rw [insert,if_neg missing]

variable {workflow_id : String}

theorem dispatch_one_known (adapter : Send → Except String Unit) {log : Log} {channel : NotificationChannel}
    (known : dedup_key workflow_id channel .workflow_completion ∈ log.keys) (target body body_hash : String)
    (outcome : NotificationOutcome) :
    dispatch_one adapter log workflow_id channel target body body_hash outcome = (outcome_with_dedup outcome channel,log,[]) := by
  have skipped : insert log (entry_sent workflow_id channel target body_hash) = (false,log) := insert_known known
  simp [dispatch_one,skipped]

theorem dispatch_one_new (adapter : Send → Except String Unit) {log : Log} {channel : NotificationChannel}
    (new : dedup_key workflow_id channel .workflow_completion ∉ log.keys) (target body body_hash : String)
    (outcome : NotificationOutcome) {send : Send} (served : send_on body target channel = some send) :
    dispatch_one adapter log workflow_id channel target body body_hash outcome =
      (if accepts adapter send then outcome_with_sent outcome channel else outcome_with_failure outcome channel,
        log ++ [entry_sent workflow_id channel target body_hash],[send]) := by
  have inserted : insert log (entry_sent workflow_id channel target body_hash) =
      (true,log ++ [entry_sent workflow_id channel target body_hash]) := insert_new new
  cases answered : adapter send with
  | error exc => simp [dispatch_one,inserted,served,accepts,answered]
  | ok sent => simp [dispatch_one,inserted,served,accepts,answered]

section flags
variable (outcome : NotificationOutcome) {channel : NotificationChannel}

theorem with_sent (served : channel ≠ .teams) (other : NotificationChannel) :
    (outcome_with_sent outcome channel).sent_on other = (outcome.sent_on other || channel = other) ∧
    (outcome_with_sent outcome channel).failed_on other = outcome.failed_on other ∧
    (outcome_with_sent outcome channel).skipped_on other = outcome.skipped_on other := by
  cases channel <;> cases other <;> simp_all [outcome_with_sent,NotificationOutcome.sent_on,NotificationOutcome.failed_on,
    NotificationOutcome.skipped_on]

theorem with_failure (served : channel ≠ .teams) (other : NotificationChannel) :
    (outcome_with_failure outcome channel).sent_on other = outcome.sent_on other ∧
    (outcome_with_failure outcome channel).failed_on other = (outcome.failed_on other || channel = other) ∧
    (outcome_with_failure outcome channel).skipped_on other = outcome.skipped_on other := by
  cases channel <;> cases other <;> simp_all [outcome_with_failure,NotificationOutcome.sent_on,NotificationOutcome.failed_on,
    NotificationOutcome.skipped_on]

theorem with_dedup (served : channel ≠ .teams) (other : NotificationChannel) :
    (outcome_with_dedup outcome channel).sent_on other = outcome.sent_on other ∧
    (outcome_with_dedup outcome channel).failed_on other = outcome.failed_on other ∧
    (outcome_with_dedup outcome channel).skipped_on other = (outcome.skipped_on other || channel = other) := by
  cases channel <;> cases other <;> simp_all [outcome_with_dedup,NotificationOutcome.sent_on,NotificationOutcome.failed_on,
    NotificationOutcome.skipped_on]

end flags

theorem Send.served (send : Send) : send.channel ≠ .teams := by cases send <;> simp [Send.channel]

theorem Dispatch.served (d : Dispatch) : d.channel ≠ .teams := d.send.served

/-- A call between two of its dispatches: the outcome, the log and the adapter calls so far. -/
structure Progress (log : Log) (dispatches : List Dispatch) (outcome : NotificationOutcome) (now : Log) (sends : List Send) :
    Prop where
  told : Told log.keys dispatches outcome
  keys : ∀ k, k ∈ now.keys ↔ k ∈ log.keys ∨ ∃ d ∈ dispatches, d.key = k
  sends : sends = (firsts Dispatch.key log.keys dispatches).map Dispatch.send

theorem progress_start (log : Log) : Progress log [] .none log [] where
  told := { sent := fun channel => by cases channel <;> rfl
            failed := fun channel => by cases channel <;> rfl
            skipped := fun channel => by cases channel <;> rfl }
  keys := by simp
  sends := rfl

variable {log now : Log} {dispatches : List Dispatch} {outcome : NotificationOutcome} {sends : List Send}

variable {d : Dispatch}

theorem firsts_snoc (progress : Progress log dispatches outcome now sends) :
    firsts Dispatch.key log.keys (dispatches ++ [d]) =
      firsts Dispatch.key log.keys dispatches ++ if d.key ∈ now.keys then [] else [d] := by
  have known : d.key ∈ dispatches.map Dispatch.key ++ log.keys ↔ d.key ∈ now.keys := by
    rw [progress.keys]
    simp [or_comm]
  simp [firsts_append,firsts,known]

theorem Progress.skip (progress : Progress log dispatches outcome now sends) (known : d.key ∈ now.keys)
    (untouched : ∀ e ∈ dispatches, e.channel ≠ d.channel) :
    Progress log (dispatches ++ [d]) (outcome_with_dedup outcome d.channel) now sends := by
  have grown := firsts_snoc (d := d) progress
  rw [if_pos known,List.append_nil] at grown
  refine ⟨⟨?_,?_,?_⟩,?_,?_⟩
  · intro channel
    rw [(with_dedup outcome d.served channel).1,grown,progress.told.sent]
  · intro channel
    rw [(with_dedup outcome d.served channel).2.1,grown,progress.told.failed]
  · intro channel
    rw [(with_dedup outcome d.served channel).2.2,grown,progress.told.skipped]
    by_cases own : d.channel = channel
    · have nothing : (firsts Dispatch.key log.keys dispatches).any (fun e => e.channel = channel) = false := by
        simp only [List.any_eq_false,decide_eq_true_eq]
        intro e member
        rw [← own]
        exact untouched e ((firsts_sublist dispatches).subset member)
      simp [nothing,own]
    · simp [own]
  · intro k
    rw [progress.keys]
    simp only [List.mem_append,List.mem_singleton]
    constructor
    · rintro (old | ⟨e,member,same⟩)
      · exact .inl old
      · exact .inr ⟨e,.inl member,same⟩
    · rintro (old | ⟨e,member | rfl,same⟩)
      · exact .inl old
      · exact .inr ⟨e,member,same⟩
      · exact (progress.keys k).mp (same ▸ known)
  · rw [grown,progress.sends]

theorem Progress.send (progress : Progress log dispatches outcome now sends) (new : d.key ∉ now.keys)
    (untouched : ∀ e ∈ dispatches, e.channel ≠ d.channel) (row : NotificationLogEntry) (keyed : row.dedup_key = d.key) :
    Progress log (dispatches ++ [d])
      (if d.accepted then outcome_with_sent outcome d.channel else outcome_with_failure outcome d.channel)
      (now ++ [row]) (sends ++ [d.send]) := by
  have grown := firsts_snoc (d := d) progress
  rw [if_neg new] at grown
  refine ⟨⟨?_,?_,?_⟩,?_,?_⟩
  · intro channel
    rw [grown,List.any_append,← progress.told.sent]
    cases taken : d.accepted
    · simp [(with_failure outcome d.served channel).1,taken]
    · simp [(with_sent outcome d.served channel).1,taken]
  · intro channel
    rw [grown,List.any_append,← progress.told.failed]
    cases taken : d.accepted
    · simp [(with_failure outcome d.served channel).2.1,taken]
    · simp [(with_sent outcome d.served channel).2.1,taken]
  · intro channel
    have flag : (if d.accepted then outcome_with_sent outcome d.channel else outcome_with_failure outcome d.channel).skipped_on
        channel = outcome.skipped_on channel := by
      cases d.accepted
      · exact (with_failure outcome d.served channel).2.2
      · exact (with_sent outcome d.served channel).2.2
    rw [flag,grown,progress.told.skipped]
    by_cases own : d.channel = channel
    · have nothing : dispatches.any (fun e => e.channel = channel) = false := by
        simp only [List.any_eq_false,decide_eq_true_eq]
        intro e member
        rw [← own]
        exact untouched e member
      simp [nothing,own]
    · simp [own]
  · intro k
    have row_keys : Log.keys (now ++ [row]) = now.keys ++ [d.key] := by simp [Log.keys,keyed]
    rw [row_keys,List.mem_append,progress.keys]
    simp only [List.mem_append,List.mem_singleton]
    constructor
    · rintro ((old | ⟨e,member,same⟩) | rfl)
      · exact .inl old
      · exact .inr ⟨e,.inl member,same⟩
      · exact .inr ⟨d,.inr rfl,rfl⟩
    · rintro (old | ⟨e,member | rfl,same⟩)
      · exact .inl (.inl old)
      · exact .inl (.inr ⟨e,member,same⟩)
      · exact .inr same.symm
  · rw [grown,List.map_append,← progress.sends]
    rfl

theorem Progress.eligible (call : Call) (progress : Progress log dispatches outcome now sends) (workflow_id : String)
    {channel : NotificationChannel} {send : String → Send} {body : String} (served : ∀ target, send_on body target channel = some (send target))
    (on_channel : ∀ target, (send target).channel = channel) (untouched : ∀ e ∈ dispatches, e.channel ≠ channel)
    (eligible : Bool) (target : Option String) (body_hash : String) :
    Progress log
      (dispatches ++ (if eligible then target.toList else []).map fun target =>
        call.dispatch workflow_id .workflow_completion (send target))
      (dispatch_eligible eligible target call.adapter now workflow_id channel body body_hash outcome).1
      (dispatch_eligible eligible target call.adapter now workflow_id channel body body_hash outcome).2.1
      (sends ++ (dispatch_eligible eligible target call.adapter now workflow_id channel body body_hash outcome).2.2) := by
  match eligible,target with
  | false,_ => simpa [dispatch_eligible] using progress
  | true,none => simpa [dispatch_eligible] using progress
  | true,some target =>
    have own : (call.dispatch workflow_id .workflow_completion (send target)).channel = channel := on_channel target
    have key : (call.dispatch workflow_id .workflow_completion (send target)).key =
        dedup_key workflow_id channel .workflow_completion := by simp [Call.dispatch,on_channel]
    simp only [dispatch_eligible,if_true,Option.toList_some,List.map_cons,List.map_nil]
    by_cases known : dedup_key workflow_id channel .workflow_completion ∈ now.keys
    · rw [dispatch_one_known call.adapter known,List.append_nil]
      have skipped := progress.skip (key ▸ known) (own ▸ untouched)
      rwa [own] at skipped
    · rw [dispatch_one_new call.adapter known target body body_hash outcome (served target)]
      have sent := progress.send (key ▸ known) (own ▸ untouched)
        (entry_sent workflow_id channel target body_hash) key.symm
      rwa [own] at sent

theorem performs_nothing (nothing : call.dispatches = []) {answer : Except Error NotificationOutcome}
    (told : ∀ outcome, answer = .ok outcome → outcome = .none) (raised : ∀ message, answer ≠ .error (.notification message)) :
    Performs log call ⟨log,[],answer⟩ where
  keys := by simp [nothing]
  sends := by simp [nothing,firsts]
  told := fun outcome answered => by
    rw [told outcome answered,nothing]
    exact (progress_start log).told
  raises := by simp [nothing,firsts,raised]

theorem dispatch_channels (call : Call) : (call.dispatches.map Dispatch.channel).Nodup := by
  unfold Call.dispatches
  cases call.request with
  | workflow_completion workflow_id dept status prompt_vars =>
    simp only
    split
    · exact .nil
    · split
      · exact .nil
      · simp only [List.map_append,List.map_map]
        rw [List.nodup_append]
        refine ⟨?_,?_,?_⟩
        · split <;> cases dept.slack_webhook <;> simp
        · split <;> cases dept.notify_email <;> simp
        · intro a first b second
          obtain ⟨webhook,-,rfl⟩ := List.mem_map.mp first
          obtain ⟨address,-,rfl⟩ := List.mem_map.mp second
          simp [Call.dispatch,Dispatch.channel,Send.channel]
  | audit_prune_failed error run_id =>
    simp only
    split <;> simp

theorem dispatch_alarm (member : d ∈ call.dispatches) : d.alarm = call.alarm d.channel := by
  unfold Call.dispatches at member
  cases request : call.request with
  | workflow_completion workflow_id dept status prompt_vars =>
    simp only [request] at member
    split at member
    · simp at member
    · split at member
      · simp at member
      · rcases List.mem_append.mp member with first | second
        · obtain ⟨webhook,-,rfl⟩ := List.mem_map.mp first
          rfl
        · obtain ⟨address,-,rfl⟩ := List.mem_map.mp second
          rfl
  | audit_prune_failed error run_id =>
    simp only [request] at member
    split at member
    · simp at member
    · obtain rfl := List.mem_singleton.mp member
      rfl

theorem failed_iff (progress : Progress log dispatches outcome now sends) :
    (outcome.slack_failed = true ∨ outcome.email_failed = true) ↔
      ∃ d ∈ firsts Dispatch.key log.keys dispatches, d.accepted = false := by
  have slack := progress.told.failed .slack
  have email := progress.told.failed .email
  simp only [NotificationOutcome.failed_on] at slack email
  rw [slack,email]
  simp only [List.any_eq_true,Bool.and_eq_true,decide_eq_true_eq,Bool.not_eq_true']
  constructor
  · rintro (⟨d,member,-,refused⟩ | ⟨d,member,-,refused⟩)
    · exact ⟨d,member,refused⟩
    · exact ⟨d,member,refused⟩
  · rintro ⟨d,member,refused⟩
    cases on : d.channel with
    | slack => exact .inl ⟨d,member,on,refused⟩
    | email => exact .inr ⟨d,member,on,refused⟩
    | teams => exact absurd on d.served

theorem channel_error_isSome (py : Python) (failed : Bool) (channel : NotificationChannel) (workflow_id : String) :
    (channel_error py failed channel workflow_id).isSome = failed := by
  cases failed <;> rfl

theorem email_eligible_iff (is_failure listed : Bool) (target : Option String) (adapter : Send → Except String Unit) (log : Log)
    (workflow_id : String) (channel : NotificationChannel) (body body_hash : String) (outcome : NotificationOutcome) :
    dispatch_eligible (listed || (is_failure && target.isSome)) target adapter log workflow_id channel body body_hash outcome =
      dispatch_eligible (is_failure || listed) target adapter log workflow_id channel body body_hash outcome := by
  cases target <;> cases is_failure <;> cases listed <;> rfl

theorem dispatches_rendered {workflow_id body : String} {dept : DeptConfigView} {status : WorkflowStatus}
    {prompt_vars : Json} (request : call.request = .workflow_completion workflow_id dept status prompt_vars)
    (due : ¬(!(status == .failed) && !dept.notify_on_success) = true)
    (rendered : call.render (if (status == .failed) = true then FAILURE_TEMPLATE else SUCCESS_TEMPLATE) prompt_vars = .ok body) :
    call.dispatches =
      ((if (status == .failed || dept.notify_channels.contains .slack) = true then dept.slack_webhook.toList else []).map
        fun webhook => call.dispatch workflow_id .workflow_completion (.slack body webhook)) ++
      (if (status == .failed || dept.notify_channels.contains .email) = true then dept.notify_email.toList else []).map
        fun address => call.dispatch workflow_id .workflow_completion (.email body address) := by
  simp only [Call.dispatches,request]
  rw [if_neg due,rendered]

theorem completion_alarm {dept : DeptConfigView} {status : WorkflowStatus}
    {prompt_vars : Json} (request : call.request = .workflow_completion workflow_id dept status prompt_vars)
    (channel : NotificationChannel) : (call.alarm channel).isSome = (status == .failed) := by
  cases status <;> simp [Call.alarm,request]

/-- A further dispatch on another channel does not change what is said of this one. -/
theorem Told.failed_append {log : Log} {front back : List Dispatch} {before after : NotificationOutcome}
    (first : Told log.keys front before) (second : Told log.keys (front ++ back) after) (channel : NotificationChannel)
    (others : ∀ e ∈ back, e.channel ≠ channel) : after.failed_on channel = before.failed_on channel := by
  have none_later : (firsts Dispatch.key (front.map Dispatch.key ++ log.keys) back).any
      (fun d => d.channel = channel && !d.accepted) = false := by
    simp only [List.any_eq_false,Bool.and_eq_true,decide_eq_true_eq,not_and]
    intro e member on_channel
    exact absurd on_channel (others e ((firsts_sublist back).subset member))
  rw [second.failed,first.failed,firsts_append,List.any_append,none_later,Bool.or_false]

theorem performs_answer {log now : Log} {outcome : NotificationOutcome} {sends : List Send}
    (progress : Progress log call.dispatches outcome now sends) (is_failure : Bool) (error : Option String)
    (failing : ∀ d ∈ call.dispatches, d.alarm.isSome = is_failure)
    (errors : error.isSome = (outcome.slack_failed || outcome.email_failed)) :
    Performs log call ⟨now,sends,raise_or_return is_failure error outcome⟩ := by
  have failed := failed_iff progress
  rw [← Bool.or_eq_true,← errors] at failed
  have told : ∀ returned, (Except.ok outcome : Except Error NotificationOutcome) = .ok returned → Told log.keys call.dispatches returned :=
    fun returned same => Except.ok.inj same ▸ progress.told
  match is_failure,error with
  | true,some message =>
    obtain ⟨d,member,refused⟩ := failed.mp rfl
    exact ⟨⟨progress.sends,by simp [raise_or_return],
      ⟨fun _ => ⟨d,member,failing d ((firsts_sublist _).subset member),refused⟩,fun _ => ⟨message,rfl⟩⟩⟩,progress.keys⟩
  | true,none =>
    have quiet : ∀ d ∈ firsts Dispatch.key log.keys call.dispatches, d.accepted ≠ false :=
      fun d member refused => by simpa using failed.mpr ⟨d,member,refused⟩
    refine ⟨⟨progress.sends,told,⟨by simp [raise_or_return],?_⟩⟩,progress.keys⟩
    rintro ⟨d,member,-,refused⟩
    exact absurd refused (quiet d member)
  | false,error =>
    refine ⟨⟨progress.sends,told,⟨by simp [raise_or_return],?_⟩⟩,progress.keys⟩
    rintro ⟨d,member,alarm,-⟩
    rw [failing d ((firsts_sublist _).subset member)] at alarm
    exact absurd alarm (by simp)

theorem completion_performs (py : Python) (call : Call) (log : Log) {dept : DeptConfigView}
    {status : WorkflowStatus} {prompt_vars : Json}
    (request : call.request = .workflow_completion workflow_id dept status prompt_vars) :
    Performs log call (notify_workflow_completion py call log workflow_id dept status prompt_vars) := by
  unfold notify_workflow_completion
  simp only
  by_cases gated : (!(status == .failed) && !dept.notify_on_success) = true
  · rw [if_pos gated]
    apply performs_nothing
    · simp only [Call.dispatches,request]
      rw [if_pos gated]
    · exact fun outcome answered => (Except.ok.inj answered).symm
    · simp
  rw [if_neg gated]
  cases rendered : call.render (if (status == .failed) = true then FAILURE_TEMPLATE else SUCCESS_TEMPLATE) prompt_vars with
  | error exc =>
    apply performs_nothing
    · simp only [Call.dispatches,request]
      rw [if_neg gated,rendered]
    · simp
    · simp
  | ok body =>
    have dispatches := dispatches_rendered request gated rendered
    simp only [email_eligible_iff]
    -- the state after the dispatch on Slack, and after the one by email
    have on_slack : ∀ target, send_on body target .slack = some (.slack body target) := fun _ => rfl
    have on_email : ∀ target, send_on body target .email = some (.email body target) := fun _ => rfl
    have first := (progress_start log).eligible call workflow_id on_slack (fun _ => rfl) (by simp)
      (status == .failed || dept.notify_channels.contains .slack) dept.slack_webhook (sha256_hex body)
    generalize dispatch_eligible (status == .failed || dept.notify_channels.contains .slack) dept.slack_webhook call.adapter log
      workflow_id .slack body (sha256_hex body) .none = slack at first ⊢
    obtain ⟨slack_outcome,slack_log,slack_sends⟩ := slack
    have slack_only : ∀ e ∈ [] ++ (if (status == .failed || dept.notify_channels.contains .slack) = true then
        dept.slack_webhook.toList else []).map (fun webhook => call.dispatch workflow_id .workflow_completion (.slack body webhook)),
        e.channel ≠ .email := by
      intro e member
      obtain ⟨webhook,-,rfl⟩ := List.mem_map.mp member
      simp [Call.dispatch,Dispatch.channel,Send.channel]
    have second := first.eligible call workflow_id on_email (fun _ => rfl) slack_only
      (status == .failed || dept.notify_channels.contains .email) dept.notify_email (sha256_hex body)
    simp only
    generalize dispatch_eligible (status == .failed || dept.notify_channels.contains .email) dept.notify_email call.adapter
      slack_log workflow_id .email body (sha256_hex body) slack_outcome = email at second ⊢
    obtain ⟨outcome,now,email_sends⟩ := email
    simp only [List.nil_append] at second ⊢
    rw [← dispatches] at second
    have same_slack : outcome.slack_failed = slack_outcome.slack_failed := by
      rw [dispatches] at second
      refine Told.failed_append first.told second.told .slack ?_
      intro e member
      obtain ⟨address,-,rfl⟩ := List.mem_map.mp member
      simp [Call.dispatch,Dispatch.channel,Send.channel]
    refine performs_answer second _ _ ?_ ?_
    · intro d member
      rw [dispatch_alarm member,completion_alarm request]
    · rw [Option.isSome_or,channel_error_isSome,channel_error_isSome,same_slack]

theorem audit_performs (call : Call) (log : Log) {error : String} {run_id : Option String}
    (request : call.request = .audit_prune_failed error run_id) :
    Performs log call (notify_audit_prune_failed call log error run_id) := by
  unfold notify_audit_prune_failed
  cases rendered : call.render AUDIT_PRUNE_FAILED_TEMPLATE (.obj [("error",.str error)]) with
  | error exc =>
    apply performs_nothing
    · simp only [Call.dispatches,request,rendered]
    · simp
    · simp
  | ok body =>
    have dispatches : call.dispatches =
        [call.dispatch (cron_run run_id) .audit_prune_failed (.admin body AUDIT_PRUNE_FAILED_ALERT_TYPE)] := by
      simp only [Call.dispatches,request,rendered]
    generalize sending : Send.admin body AUDIT_PRUNE_FAILED_ALERT_TYPE = send at dispatches
    have on_slack : send.channel = .slack := by rw [← sending]; rfl
    generalize made : call.dispatch (cron_run run_id) .audit_prune_failed send = d at dispatches
    have key : d.key = dedup_key (cron_run run_id) .slack .audit_prune_failed := by rw [← made,← on_slack]; rfl
    have own : d.channel = .slack := by rw [← made,← on_slack]; rfl
    have alarm : d.alarm.isSome = true := by rw [← made]; simp [Call.dispatch,Call.alarm,request]
    simp only
    generalize row : (⟨dedup_key (cron_run run_id) .slack .audit_prune_failed,.slack,.audit_prune_failed,ADMIN_CHANNEL_TARGET,
      sha256_hex body,.sent,none⟩ : NotificationLogEntry) = entry
    have keyed : entry.dedup_key = d.key := by rw [← row,key]
    have untouched : ∀ e ∈ ([] : List Dispatch), e.channel ≠ d.channel := by simp
    have failing : ∀ e ∈ call.dispatches, e.alarm.isSome = true := by
      intro e member
      rw [dispatches] at member
      rw [List.mem_singleton.mp member,alarm]
    by_cases known : d.key ∈ log.keys
    · rw [insert_known (keyed ▸ known)]
      have skipped := (progress_start log).skip known untouched
      rw [List.nil_append,← dispatches,own] at skipped
      exact performs_answer skipped true none failing rfl
    · rw [insert_new (keyed ▸ known)]
      have sent := (progress_start log).send known untouched entry keyed
      rw [List.nil_append,List.nil_append,← dispatches,own] at sent
      have taken : d.accepted = accepts call.adapter send := by rw [← made]; rfl
      have same : d.send = send := by rw [← made]; rfl
      rw [taken,same] at sent
      cases answered : call.adapter send with
      | error exc =>
        simp only [accepts,answered] at sent
        rw [sending]
        simp only [answered]
        exact performs_answer sent true (some ("audit_prune_failed admin alarm dispatch failed: " ++ exc)) failing rfl
      | ok taken =>
        simp only [accepts,answered] at sent
        rw [sending]
        simp only [answered]
        exact performs_answer sent true none failing rfl

theorem serve_performs (py : Python) (log : Log) (call : Call) : Performs log call (serve py log call) := by
  unfold serve
  cases request : call.request with
  | workflow_completion workflow_id dept status prompt_vars => exact completion_performs py call log request
  | audit_prune_failed error run_id => exact audit_performs call log request

/-! ### Runs -/

theorem run_append (py : Python) (earlier : List Call) (call : Call) :
    run py (earlier ++ [call]) = (serve py (run py earlier) call).log := by
  simp [run]

def seen (calls : List Call) : List String := (calls.flatMap Call.dispatches).map Dispatch.key

theorem run_keys (py : Python) (calls : List Call) (k : String) : k ∈ (run py calls).keys ↔ k ∈ seen calls := by
  induction calls using List.reverseRecOn with
  | nil => simp [run,Log.keys,seen]
  | append_singleton earlier call ih =>
    rw [run_append,(serve_performs py (run py earlier) call).keys,ih]
    simp [seen]

def delivered (py : Python) (log : Log) (call : Call) : List Alarm :=
  ((serve py log call).sends.filter (accepts call.adapter)).filterMap fun send => call.alarm send.channel

/-- The failure alarms that are delivered in a run. -/
def deliveries (py : Python) : Log → List Call → List Alarm
  | _, [] => []
  | log, call :: later => delivered py log call ++ deliveries py (serve py log call).log later

/-- The law of the log: in every run a call answers by the first dispatches under their
    keys, and no failure alarm is delivered twice. -/
structure Deduplicated (py : Python) (calls : List Call) : Prop where
  answers : ∀ earlier call later, calls = earlier ++ call :: later →
    Answers (seen earlier) call (serve py (run py earlier) call)
  once : (deliveries py [] calls).Nodup

/-- Every failure alarm is sent again until it is delivered, it is reported as skipped only
    after that, and it is delivered once. -/
structure AlarmsDelivered (py : Python) (calls : List Call) : Prop where
  sends_again : ∀ earlier call later, calls = earlier ++ call :: later → ∀ d ∈ call.dispatches, ∀ alarm,
    d.alarm = some alarm → d.send ∈ (serve py (run py earlier) call).sends ∨ alarm ∈ deliveries py [] earlier
  skipped : ∀ earlier call later, calls = earlier ++ call :: later → ∀ outcome,
    (serve py (run py earlier) call).answer = .ok outcome → ∀ channel alarm, call.alarm channel = some alarm →
      outcome.skipped_on channel = true → alarm ∈ deliveries py [] earlier
  once : (deliveries py [] calls).Nodup

/-- Where a failure alarm is not the first dispatch under its key, that one was made for the
    same alarm, and the adapter took it. -/
def FirstTaken (calls : List Call) : Prop :=
  ∀ front d back, calls.flatMap Call.dispatches = front ++ d :: back → ∀ alarm, d.alarm = some alarm →
    ∀ first, front.find? (fun other => other.key = d.key) = some first → first.alarm = some alarm ∧ first.accepted = true

theorem dispatch_fields (member : d ∈ call.dispatches) :
    d.accepted = accepts call.adapter d.send ∧ ∀ alarm, d.alarm = some alarm →
      d.key = dedup_key alarm.subject alarm.channel alarm.kind := by
  unfold Call.dispatches at member
  cases request : call.request with
  | workflow_completion workflow_id dept status prompt_vars =>
    have key : ∀ (send : Send) (alarm : Alarm), call.alarm send.channel = some alarm →
        dedup_key workflow_id send.channel .workflow_completion = dedup_key alarm.subject alarm.channel alarm.kind := by
      intro send alarm made
      unfold Call.alarm at made
      rw [request] at made
      cases status with
      | failed =>
        obtain rfl := Option.some.inj made
        rfl
      | completed => simp at made
      | partial_ => simp at made
    simp only [request] at member
    split at member
    · simp at member
    · split at member
      · simp at member
      · rcases List.mem_append.mp member with first | second
        · obtain ⟨webhook,-,rfl⟩ := List.mem_map.mp first
          exact ⟨rfl,key _⟩
        · obtain ⟨address,-,rfl⟩ := List.mem_map.mp second
          exact ⟨rfl,key _⟩
  | audit_prune_failed error run_id =>
    simp only [request] at member
    split at member
    · simp at member
    · obtain rfl := List.mem_singleton.mp member
      refine ⟨rfl,fun alarm made => ?_⟩
      unfold Call.dispatch Call.alarm at made
      rw [request] at made
      obtain rfl := Option.some.inj made
      rfl

variable {calls : List Call}

theorem mem_dispatches (member : d ∈ calls.flatMap Call.dispatches) {alarm : Alarm}
    (made : d.alarm = some alarm) : d.key = dedup_key alarm.subject alarm.channel alarm.kind ∧ d.channel = alarm.channel := by
  obtain ⟨call,-,inside⟩ := List.mem_flatMap.mp member
  refine ⟨(dispatch_fields inside).2 alarm made,?_⟩
  rw [dispatch_alarm inside] at made
  unfold Call.alarm at made
  split at made
  · rw [← Option.some.inj made]
  · simp at made
  · rw [← Option.some.inj made]

theorem delivered_eq (py : Python) (log : Log) (call : Call) :
    delivered py log call =
      ((firsts Dispatch.key log.keys call.dispatches).filter Dispatch.accepted).filterMap Dispatch.alarm := by
  have inside : ∀ d ∈ firsts Dispatch.key log.keys call.dispatches, d ∈ call.dispatches :=
    fun d member => (firsts_sublist _).subset member
  rw [delivered,(serve_performs py log call).sends,List.filter_map,List.filterMap_map]
  have taken : (firsts Dispatch.key log.keys call.dispatches).filter (accepts call.adapter ∘ Dispatch.send) =
      (firsts Dispatch.key log.keys call.dispatches).filter Dispatch.accepted :=
    List.filter_congr fun d member => (dispatch_fields (inside d member)).1.symm
  rw [taken]
  exact List.filterMap_congr fun d member => (dispatch_alarm (inside d (List.mem_of_mem_filter member))).symm

theorem deliveries_eq (py : Python) (log : Log) (calls : List Call) :
    deliveries py log calls =
      ((firsts Dispatch.key log.keys (calls.flatMap Call.dispatches)).filter Dispatch.accepted).filterMap Dispatch.alarm := by
  induction calls generalizing log with
  | nil => rfl
  | cons call later ih =>
    have grown : ∀ k, k ∈ (serve py log call).log.keys ↔ k ∈ call.dispatches.map Dispatch.key ++ log.keys := by
      intro k
      rw [(serve_performs py log call).keys,List.mem_append,List.mem_map,or_comm]
    rw [deliveries,delivered_eq,ih,List.flatMap_cons,firsts_append,List.filter_append,List.filterMap_append,firsts_congr grown]

theorem mem_deliveries (py : Python) {alarm : Alarm} :
    alarm ∈ deliveries py [] calls ↔
      ∃ d ∈ firsts Dispatch.key [] (calls.flatMap Call.dispatches), d.accepted = true ∧ d.alarm = some alarm := by
  rw [deliveries_eq]
  simp [Log.keys,and_assoc]

theorem deliveries_nodup (py : Python) (calls : List Call) : (deliveries py [] calls).Nodup := by
  rw [deliveries_eq]
  have keys : (firsts Dispatch.key (Log.keys []) (calls.flatMap Call.dispatches)).Pairwise fun d e => d.key ≠ e.key :=
    List.pairwise_map.mp (firsts_keys _)
  have members : ∀ d ∈ firsts Dispatch.key (Log.keys []) (calls.flatMap Call.dispatches), d ∈ calls.flatMap Call.dispatches :=
    fun d member => (firsts_sublist _).subset member
  refine List.pairwise_filterMap.mpr ((keys.filter _).imp_of_mem ?_)
  intro d e first second different alarm made other same equal
  subst equal
  refine different ?_
  rw [(mem_dispatches (members d (List.mem_of_mem_filter first)) made).1,
    (mem_dispatches (members e (List.mem_of_mem_filter second)) same).1]

theorem deduplicated (py : Python) (calls : List Call) : Deduplicated py calls where
  answers earlier call _ _ := (serve_performs py (run py earlier) call).toAnswers.congr (run_keys py earlier)
  once := deliveries_nodup py calls

theorem dispatch_of_call {front back : List Dispatch}
    (at_d : calls.flatMap Call.dispatches = front ++ d :: back) :
    ∃ earlier call later f b, calls = earlier ++ call :: later ∧ call.dispatches = f ++ d :: b ∧
      front = earlier.flatMap Call.dispatches ++ f := by
  induction calls generalizing front with
  | nil => simp at at_d
  | cons call later ih =>
    rw [List.flatMap_cons] at at_d
    rcases List.append_eq_append_iff.mp at_d with ⟨rest,front_eq,rest_eq⟩ | ⟨rest,own,rest_eq⟩
    · obtain ⟨earlier,other,after,f,b,split_calls,split_own,front_rest⟩ := ih rest_eq
      refine ⟨call :: earlier,other,after,f,b,by rw [split_calls]; rfl,split_own,?_⟩
      rw [front_eq,front_rest,List.flatMap_cons,List.append_assoc]
    · cases rest with
      | nil =>
        simp only [List.nil_append] at rest_eq
        have next : later.flatMap Call.dispatches = [] ++ d :: back := by simpa using rest_eq.symm
        obtain ⟨earlier,other,after,f,b,split_calls,split_own,front_rest⟩ := ih next
        refine ⟨call :: earlier,other,after,f,b,by rw [split_calls]; rfl,split_own,?_⟩
        rw [List.append_nil] at own
        rw [List.flatMap_cons,List.append_assoc,← front_rest,List.append_nil,own]
      | cons e b =>
        obtain ⟨rfl,-⟩ := List.cons.inj (List.cons_append .. ▸ rest_eq)
        exact ⟨[],call,later,front,b,rfl,own,by simp⟩

theorem sent_or_known {seen : List String} {reply : Reply} (answers : Answers seen call reply)
    {f b : List Dispatch} (own : call.dispatches = f ++ d :: b) :
    d.send ∈ reply.sends ↔ d.key ∉ f.map Dispatch.key ++ seen := by
  rw [answers.sends,own,firsts_append]
  have nodup := dispatch_channels call
  rw [own,List.map_append,List.map_cons] at nodup
  have before : ∀ e ∈ f, e.send ≠ d.send := by
    intro e member same
    have on : d.channel ∈ f.map Dispatch.channel := List.mem_map.mpr ⟨e,member,congrArg Send.channel same⟩
    exact (List.nodup_append.mp nodup).2.2 _ on _ (List.mem_cons_self ..) rfl
  have after : ∀ e ∈ b, e.send ≠ d.send := by
    intro e member same
    have on : d.channel ∈ b.map Dispatch.channel := List.mem_map.mpr ⟨e,member,congrArg Send.channel same⟩
    exact (List.nodup_cons.mp (List.nodup_append.mp nodup).2.1).1 on
  have not_front : ∀ e ∈ firsts Dispatch.key seen f, e.send ≠ d.send := fun e member => before e ((firsts_sublist f).subset member)
  have not_back : ∀ known, ∀ e ∈ firsts Dispatch.key known b, e.send ≠ d.send :=
    fun known e member => after e ((firsts_sublist b).subset member)
  rw [List.map_append,List.mem_append]
  by_cases known : d.key ∈ f.map Dispatch.key ++ seen
  · simp only [firsts,if_pos known,List.mem_map]
    constructor
    · rintro (⟨e,member,same⟩ | ⟨e,member,same⟩)
      · exact absurd same (not_front e member)
      · exact absurd same (not_back _ e member)
    · exact fun new => absurd known new
  · simp only [firsts,if_neg known,List.map_cons]
    exact ⟨fun _ => known,fun _ => .inr (List.mem_cons_self ..)⟩

theorem find_first {f : List Dispatch} {d first : Dispatch}
    (found : (calls.flatMap Call.dispatches ++ f).find? (fun other => other.key = d.key) = some first)
    (outside : first ∉ f) : first ∈ firsts Dispatch.key [] (calls.flatMap Call.dispatches) := by
  have key : first.key = d.key := by simpa using List.find?_some found
  rw [mem_firsts_iff,key]
  rw [List.find?_append] at found
  cases early : (calls.flatMap Call.dispatches).find? fun other => other.key = d.key with
  | some other =>
    rw [early] at found
    simpa using found
  | none =>
    rw [early,Option.none_or] at found
    exact absurd (List.mem_of_find?_eq_some found) outside

theorem sent_or_delivered (py : Python) {calls earlier later : List Call} (taken : FirstTaken calls)
    (at_call : calls = earlier ++ call :: later) (member : d ∈ call.dispatches) {alarm : Alarm}
    (made : d.alarm = some alarm) :
    d.send ∈ (serve py (run py earlier) call).sends ∨ alarm ∈ deliveries py [] earlier := by
  obtain ⟨f,b,own⟩ := List.append_of_mem member
  rw [sent_or_known ((deduplicated py calls).answers earlier call later at_call) own,or_iff_not_imp_left,not_not]
  intro known
  have split : calls.flatMap Call.dispatches = (earlier.flatMap Call.dispatches ++ f) ++ d :: (b ++ later.flatMap Call.dispatches) := by
    rw [at_call,List.flatMap_append,List.flatMap_cons,own]
    simp
  have found : ((earlier.flatMap Call.dispatches ++ f).find? fun other => other.key = d.key).isSome = true := by
    rw [List.find?_isSome]
    obtain ⟨other,inside,same⟩ : ∃ other ∈ earlier.flatMap Call.dispatches ++ f, other.key = d.key := by
      rw [seen,← List.map_append,List.mem_map] at known
      obtain ⟨other,inside,same⟩ := known
      exact ⟨other,List.mem_append.mpr (List.mem_append.mp inside).symm,same⟩
    exact ⟨other,inside,by simpa using same⟩
  obtain ⟨first,found⟩ := Option.isSome_iff_exists.mp found
  obtain ⟨same,accepted⟩ := taken _ d _ split alarm made first found
  -- the first one is not of this call: that has one dispatch on each channel
  have outside : first ∉ f := by
    intro inside
    have nodup := dispatch_channels call
    rw [own,List.map_append,List.map_cons] at nodup
    have first_own : first ∈ call.dispatches := own ▸ List.mem_append_left _ inside
    have one : ∀ e ∈ call.dispatches, e.alarm = some alarm → e.channel = alarm.channel := by
      intro e member made
      have listed : e ∈ [call].flatMap Call.dispatches := by simpa using member
      exact (mem_dispatches listed made).2
    have on : d.channel ∈ f.map Dispatch.channel :=
      List.mem_map.mpr ⟨first,inside,(one first first_own same).trans (one d member made).symm⟩
    exact (List.nodup_append.mp nodup).2.2 _ on _ (List.mem_cons_self ..) rfl
  exact (mem_deliveries py).mpr ⟨first,find_first found outside,accepted,same⟩

theorem alarmsDelivered_iff (py : Python) (calls : List Call) : AlarmsDelivered py calls ↔ FirstTaken calls := by
  constructor
  · intro delivers front d back at_d alarm made first found
    obtain ⟨earlier,call,later,f,b,at_call,own,front_eq⟩ := dispatch_of_call at_d
    have key : first.key = d.key := by simpa using List.find?_some found
    have known : d.key ∈ f.map Dispatch.key ++ seen earlier := by
      have member := List.mem_of_find?_eq_some found
      rw [front_eq,List.mem_append] at member
      rw [← key,List.mem_append]
      rcases member with early | inside
      · exact .inr (List.mem_map.mpr ⟨first,early,rfl⟩)
      · exact .inl (List.mem_map.mpr ⟨first,inside,rfl⟩)
    have unsent : d.send ∉ (serve py (run py earlier) call).sends := by
      rw [sent_or_known ((deduplicated py calls).answers earlier call later at_call) own]
      exact not_not.mpr known
    have member : d ∈ call.dispatches := by simp [own]
    obtain ⟨e,e_first,accepted,same⟩ := (mem_deliveries py).mp
      ((delivers.sends_again earlier call later at_call d member alarm made).resolve_left unsent)
    have run_members : ∀ e ∈ calls.flatMap Call.dispatches, e.alarm = some alarm →
        e.key = dedup_key alarm.subject alarm.channel alarm.kind := fun e inside made => (mem_dispatches inside made).1
    have e_inside : e ∈ calls.flatMap Call.dispatches := by
      rw [at_call,List.flatMap_append]
      exact List.mem_append_left _ ((firsts_sublist _).subset e_first)
    have d_inside : d ∈ calls.flatMap Call.dispatches := by simp [at_d]
    have e_key : e.key = d.key := (run_members e e_inside same).trans (run_members d d_inside made).symm
    rw [mem_firsts_iff,e_key] at e_first
    rw [front_eq,List.find?_append,e_first,Option.some_or] at found
    obtain rfl := Option.some.inj found
    exact ⟨same,accepted⟩
  · intro taken
    refine ⟨fun earlier call later at_call d member alarm made => sent_or_delivered py taken at_call member made,?_,
      deliveries_nodup py calls⟩
    intro earlier call later at_call outcome answered channel alarm made skipped
    have answers := (deduplicated py calls).answers earlier call later at_call
    rw [(answers.told outcome answered).skipped,Bool.and_eq_true,List.any_eq_true] at skipped
    obtain ⟨⟨d,member,on⟩,unsent⟩ := skipped
    have on : d.channel = channel := by simpa using on
    have d_made : d.alarm = some alarm := by rw [dispatch_alarm member,on,made]
    refine (sent_or_delivered py taken at_call member d_made).resolve_left fun sent => ?_
    rw [answers.sends,List.mem_map] at sent
    obtain ⟨e,e_first,same⟩ := sent
    have e_on : e.channel = channel := (congrArg Send.channel same).trans on
    simp only [Bool.not_eq_true',List.any_eq_false,decide_eq_true_eq] at unsent
    exact unsent e e_first e_on

/-- The log lets one dispatch through under each key, and delivers every failure alarm
    exactly where these are theirs and are taken. -/
theorem notification_log (py : Python) (calls : List Call) :
    Deduplicated py calls ∧ (AlarmsDelivered py calls ↔ FirstTaken calls) :=
  ⟨deduplicated py calls,alarmsDelivered_iff py calls⟩

/-- The alarm of an audit prune: Slack does not take it, or takes it. -/
def audit_alarm (taken : Bool) : Call where
  run := 1
  request := .audit_prune_failed "disk full" none
  render := fun _ _ => .ok "audit prune failed: disk full"
  adapter := fun _ => if taken then .ok () else .error "503"

def plainPython : Python where
  repr := fun _ => ""
  dumps := fun _ => ""
  sha256 := id
  isodate := fun _ => ""
  fromisoformat := fun _ => none

/-- Slack is down when the alarm is raised. The retry is skipped; nobody hears of it. -/
theorem retry_skipped : ¬AlarmsDelivered plainPython [audit_alarm false,audit_alarm true] := by
  rw [alarmsDelivered_iff]
  intro taken
  let dispatch (taken : Bool) : Dispatch := (audit_alarm taken).dispatch AUDIT_PRUNE_FAILED_DEFAULT_RUN_ID .audit_prune_failed
    (.admin "audit prune failed: disk full" AUDIT_PRUNE_FAILED_ALERT_TYPE)
  have same : [dispatch false].find? (fun other => other.key = (dispatch true).key) = some (dispatch false) := by
    rw [List.find?_cons_of_pos]
    exact decide_eq_true rfl
  have accepted := (taken [dispatch false] (dispatch true) [] rfl _ rfl _ same).2
  exact absurd accepted (by decide)

end Automation.Notifications
