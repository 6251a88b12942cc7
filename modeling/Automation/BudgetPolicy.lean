import Automation.Decimal
import Automation.Effects
import Automation.Json

/-!
The budget gates: `BudgetCapPolicy.enforce` with its threshold alarms,
`check_budget` and `pre_llm_budget_guard`. The services they call answer as
they like; what the gates read of them, caps and recorded usage, is a `Ledger`.

The gates are written apart. `check_budget` skips a cap of zero, which the
other two treat as reached, and looks at the monthly cap of the department
before the weekly cap of the user (`gates_agree_iff`).
-/
namespace Automation.BudgetPolicy
open Automation.Effects

inductive DenyScope where
  | dept_weekly
  | user_weekly
  | dept_monthly
  | user_monthly
  deriving DecidableEq

def DenyScope.text : DenyScope → String
  | .dept_weekly => "dept_weekly"
  | .user_weekly => "user_weekly"
  | .dept_monthly => "dept_monthly"
  | .user_monthly => "user_monthly"

def SCOPE_ORDER : List DenyScope := [.dept_weekly,.user_weekly,.dept_monthly,.user_monthly]

structure BudgetCaps where
  weekly_usd_dept : Decimal
  weekly_usd_user : Decimal
  monthly_usd_dept : Decimal
  monthly_usd_user : Decimal

structure BudgetUsage where
  dept_weekly_usd : Decimal
  user_weekly_usd : Decimal
  dept_monthly_usd : Decimal
  user_monthly_usd : Decimal

/-- A decision names a scope just where it denies. -/
structure BudgetDecision where
  allowed : Bool
  deny_scope : Option DenyScope
  consistent : allowed = deny_scope.isNone

def BudgetDecision.allow : BudgetDecision := ⟨true,none,rfl⟩
def BudgetDecision.deny (scope : DenyScope) : BudgetDecision := ⟨false,some scope,rfl⟩

structure BudgetCheckResult where
  allowed : Bool
  exceeded_scope : Option String
  warning_scopes : List DenyScope
  current_usage : List (String × String)

inductive Period where
  | weekly
  | monthly
  deriving DecidableEq

inductive AlarmScope where
  | user
  | dept
  deriving DecidableEq

inductive NotifyChannel where
  | slack
  | email
  | teams
  deriving DecidableEq

def Period.text : Period → String
  | .weekly => "weekly"
  | .monthly => "monthly"

def AlarmScope.text : AlarmScope → String
  | .user => "user"
  | .dept => "dept"

def NotifyChannel.text : NotifyChannel → String
  | .slack => "slack"
  | .email => "email"
  | .teams => "teams"

/-- A row of `automation.budget_alarm_thresholds`. Times are in microseconds. -/
structure AlarmThreshold where
  id : String
  dept_id : String
  period : Period
  scope : AlarmScope
  threshold_pct : Nat
  notify_channel : NotifyChannel
  last_alarmed_at : Option Int
  deriving DecidableEq

structure BudgetAlarm where
  channel : NotifyChannel
  dept_id : String
  period : Period
  scope : AlarmScope
  current_usd : Decimal
  cap_usd : Decimal
  threshold_pct : Nat
  pct_used : Decimal

structure AuditEvent where
  actor_id : String
  actor_role : String
  dept_id : String
  action : String
  resource : String
  result : String
  timestamp : Int
  payload : List (String × Json)

/-- The arguments of `_SQL_USAGE_DEPT` and `_SQL_USAGE_USER`. -/
inductive UsageQuery where
  | dept (dept_id interval : String)
  | user (dept_id interval user_id : String)

inductive Request where
  | caps_get (dept_id : String)
  | fetchval (query : UsageQuery)
  | audit_write (event : AuditEvent)
  | clock
  | get_thresholds (dept_id : String)
  | send_budget_alarm (alarm : BudgetAlarm)
  | update_last_alarmed_at (threshold_id : String) (alarmed_at : Int)
  | jira_comment (issue_key body : String)

/-- Every service but the clock can raise; the caps provider raises `KeyError`
    for a department it does not know. -/
@[reducible] def requests : Signature where
  Cmd := Request
  Res
    | .caps_get _ => Option BudgetCaps
    | .fetchval _ => Except String (Option Decimal)
    | .audit_write _ => Except String Unit
    | .clock => Int
    | .get_thresholds _ => Except String (List AlarmThreshold)
    | .send_budget_alarm _ => Except String Unit
    | .update_last_alarmed_at _ _ => Except String Unit
    | .jira_comment _ _ => Except String Unit

inductive Error where
  | value_error (message : String)
  | key_error (dept_id : String)
  | service (message : String)

abbrev Budget := Prog requests Error

def perform (c : Request) : Budget (requests.Res c) := command (S := requests) c

/-- The exception of a service that the caller does not catch. -/
def propagate {α : Type} : Except String α → Budget α
  | .ok a => pure a
  | .error message => .raise (.service message)

def zero : Decimal := .ofNat 0

def WEEKLY_INTERVAL : Nat := 7
def MONTHLY_INTERVAL : Nat := 30

def interval_str (days : Nat) : String := toString days ++ " days"

/-- `_to_decimal` of a query result: `NULL` is zero. -/
def to_decimal (value : Option Decimal) : Decimal := value.getD zero

def fetch (query : UsageQuery) : Budget Decimal := do
  let value ← propagate (← perform (.fetchval query))
  return to_decimal value

def usage (dept_id : String) (user_id : Option String) : Budget BudgetUsage := do
  let dept_weekly ← fetch (.dept dept_id (interval_str WEEKLY_INTERVAL))
  let dept_monthly ← fetch (.dept dept_id (interval_str MONTHLY_INTERVAL))
  match user_id with
  | none => return ⟨dept_weekly,zero,dept_monthly,zero⟩
  | some user =>
    let user_weekly ← fetch (.user dept_id (interval_str WEEKLY_INTERVAL) user)
    let user_monthly ← fetch (.user dept_id (interval_str MONTHLY_INTERVAL) user)
    return ⟨dept_weekly,user_weekly,dept_monthly,user_monthly⟩

def get_cap_for_scope (caps : BudgetCaps) : DenyScope → Decimal
  | .dept_weekly => caps.weekly_usd_dept
  | .user_weekly => caps.weekly_usd_user
  | .dept_monthly => caps.monthly_usd_dept
  | .user_monthly => caps.monthly_usd_user

def get_usage_for_scope (usage : BudgetUsage) : DenyScope → Decimal
  | .dept_weekly => usage.dept_weekly_usd
  | .user_weekly => usage.user_weekly_usd
  | .dept_monthly => usage.dept_monthly_usd
  | .user_monthly => usage.user_monthly_usd

def emit_denied (dept_id : String) (user_id : Option String) (scope : DenyScope) (limit usage_value : Decimal) :
    Budget Unit := do
  let now ← perform .clock
  let written ← perform (.audit_write
    { actor_id := if user_id.getD "" ≠ "" then user_id.getD "" else "system"
      actor_role := "system", dept_id, action := "budget_exceeded"
      resource := "department:" ++ dept_id, result := "denied", timestamp := now
      payload := [("scope",.str scope.text),("limit",.str limit.text),("usage",.str usage_value.text)] ++
        (user_id.map fun user => ("user_id",Json.str user)).toList })
  propagate written

def resolve_threshold_usage_and_cap (threshold : AlarmThreshold) (caps : BudgetCaps) (usage : BudgetUsage)
    (user_id : Option String) : Option (Decimal × Decimal) :=
  match threshold.period, threshold.scope with
  | .weekly, .dept => some (usage.dept_weekly_usd,caps.weekly_usd_dept)
  | .weekly, .user => if user_id.isNone then none else some (usage.user_weekly_usd,caps.weekly_usd_user)
  | .monthly, .dept => some (usage.dept_monthly_usd,caps.monthly_usd_dept)
  | .monthly, .user => if user_id.isNone then none else some (usage.user_monthly_usd,caps.monthly_usd_user)

def day : Int := 24 * 3600 * 1000000

def Period.length : Period → Int
  | .weekly => 7 * day
  | .monthly => 30 * day

def already_alarmed_in_period (last_alarmed_at : Option Int) (period : Period) (now : Int) : Bool :=
  match last_alarmed_at with
  | none => false
  | some last => decide (now - period.length ≤ last)

def percent_used (usage_val cap_val : Decimal) : Decimal := (usage_val.div cap_val).mul (.ofNat 100)

/-- The alarm a threshold calls for: its usage has reached it, whether or not
    the alarm was sent before. -/
def due (threshold : AlarmThreshold) (dept_id : String) (user_id : Option String) (caps : BudgetCaps)
    (usage : BudgetUsage) : Option BudgetAlarm :=
  match resolve_threshold_usage_and_cap threshold caps usage user_id with
  | none => none
  | some (usage_val,cap_val) =>
    if cap_val.le zero then none
    else
      let pct_used := percent_used usage_val cap_val
      if pct_used.lt (.ofNat threshold.threshold_pct) then none
      else some ⟨threshold.notify_channel,dept_id,threshold.period,threshold.scope,usage_val,cap_val,
        threshold.threshold_pct,pct_used⟩

/-- The body of the loop over the thresholds. -/
def check_alarm_threshold (dept_id : String) (user_id : Option String) (caps : BudgetCaps) (usage : BudgetUsage)
    (now : Int) (threshold : AlarmThreshold) : Budget Unit :=
  match due threshold dept_id user_id caps usage with
  | none => return ()
  | some alarm =>
    if already_alarmed_in_period threshold.last_alarmed_at threshold.period now then return ()
    else do
      match ← perform (.send_budget_alarm alarm) with
      | .error _ => return ()
      | .ok () =>
        -- neither a failed update nor a failed audit is raised
        let _ ← perform (.update_last_alarmed_at threshold.id now)
        let _ ← perform (.audit_write
          { actor_id := "system", actor_role := "system", dept_id, action := "budget_alarm_triggered"
            resource := "department:" ++ dept_id, result := "success", timestamp := now
            payload := [("period",.str alarm.period.text),("scope",.str alarm.scope.text),
              ("threshold_pct",.int alarm.threshold_pct),("current_usd",.str alarm.current_usd.text),
              ("cap_usd",.str alarm.cap_usd.text),("pct_used",.str alarm.pct_used.text),
              ("notify_channel",.str alarm.channel.text)] })
        return ()

def each_threshold (dept_id : String) (user_id : Option String) (caps : BudgetCaps) (usage : BudgetUsage) (now : Int) :
    List AlarmThreshold → Budget Unit
  | [] => return ()
  | threshold :: rest => do
    check_alarm_threshold dept_id user_id caps usage now threshold
    each_threshold dept_id user_id caps usage now rest

def check_alarm_thresholds (dept_id : String) (user_id : Option String) (caps : BudgetCaps) (usage : BudgetUsage) :
    Budget Unit := do
  match ← perform (.get_thresholds dept_id) with
  | .error _ => return ()
  | .ok thresholds =>
    let now ← perform .clock
    each_threshold dept_id user_id caps usage now thresholds

def empty_dept : Error := .value_error "dept_id must be a non-empty string"

/-- `alarms`: both the threshold store and the notification dispatcher are wired. -/
def enforce (alarms : Bool) (dept_id : String) (user_id : Option String) : Budget BudgetDecision :=
  if dept_id = "" then .raise empty_dept
  else do
    match ← perform (.caps_get dept_id) with
    | none => .raise (.key_error dept_id)
    | some caps =>
      let usage ← usage dept_id user_id
      if caps.weekly_usd_dept.le usage.dept_weekly_usd then
        emit_denied dept_id user_id .dept_weekly caps.weekly_usd_dept usage.dept_weekly_usd
        return .deny .dept_weekly
      else if user_id.isSome && caps.weekly_usd_user.le usage.user_weekly_usd then
        emit_denied dept_id user_id .user_weekly caps.weekly_usd_user usage.user_weekly_usd
        return .deny .user_weekly
      else if caps.monthly_usd_dept.le usage.dept_monthly_usd then
        emit_denied dept_id user_id .dept_monthly caps.monthly_usd_dept usage.dept_monthly_usd
        return .deny .dept_monthly
      else if user_id.isSome && caps.monthly_usd_user.le usage.user_monthly_usd then
        emit_denied dept_id user_id .user_monthly caps.monthly_usd_user usage.user_monthly_usd
        return .deny .user_monthly
      else
        if alarms then check_alarm_thresholds dept_id user_id caps usage
        return .allow

def WARNING_THRESHOLD : Decimal := ⟨9,-1⟩

def scope_checks (caps : BudgetCaps) (usage : BudgetUsage) (user_id : Option String) :
    List (DenyScope × Decimal × Decimal) :=
  [(.dept_weekly,usage.dept_weekly_usd,caps.weekly_usd_dept),
    (.dept_monthly,usage.dept_monthly_usd,caps.monthly_usd_dept)] ++
  if user_id.isSome then
    [(.user_weekly,usage.user_weekly_usd,caps.weekly_usd_user),
      (.user_monthly,usage.user_monthly_usd,caps.monthly_usd_user)]
  else []

def current_usage (usage : BudgetUsage) (user_id : Option String) : List (String × String) :=
  [("dept_weekly",usage.dept_weekly_usd.text),("dept_monthly",usage.dept_monthly_usd.text)] ++
  if user_id.isSome then
    [("user_weekly",usage.user_weekly_usd.text),("user_monthly",usage.user_monthly_usd.text)]
  else []

def exceeds (check : DenyScope × Decimal × Decimal) : Bool := zero.lt check.2.2 && check.2.2.le check.2.1

def nears (check : DenyScope × Decimal × Decimal) : Bool :=
  zero.lt check.2.2 && (check.2.2.mul WARNING_THRESHOLD).le check.2.1

def denial_comment (scope : DenyScope) (caps : BudgetCaps) (usage : BudgetUsage) : String :=
  " Bütçe limiti aşıldı - iş akışı reddedildi.\n\nAşılan kapsam: **" ++ scope.text ++ "**\nMevcut kullanım: $" ++
    (get_usage_for_scope usage scope).text ++ "\nLimit: $" ++ (get_cap_for_scope caps scope).text

def warning_comment (scopes : List DenyScope) : String :=
  " Bütçe uyarısı - aşağıdaki kapsam(lar) %90 eşiğine ulaştı:\n\n**" ++
    String.intercalate ", " (scopes.map DenyScope.text) ++
    "**\n\nİş akışı başlatıldı ancak bütçe limitine yaklaşılıyor."

/-- A comment is best-effort, and sent only where a callback is given. -/
def comment (callback : Bool) (issue_key body : String) : Budget Unit := do
  if callback then
    let _ ← perform (.jira_comment issue_key body)

def check_budget (callback : Bool) (dept_id : String) (user_id : Option String) (issue_key : String) :
    Budget BudgetCheckResult :=
  if dept_id = "" then .raise empty_dept
  else do
    match ← perform (.caps_get dept_id) with
    | none => return ⟨false,some "configuration_error",[],[]⟩
    | some caps =>
      let usage ← usage dept_id user_id
      let checks := scope_checks caps usage user_id
      match checks.find? exceeds with
      | some (scope,_) =>
        emit_denied dept_id user_id scope (get_cap_for_scope caps scope) (get_usage_for_scope usage scope)
        comment callback issue_key (denial_comment scope caps usage)
        return ⟨false,some scope.text,[],current_usage usage user_id⟩
      | none =>
        let warning_scopes := (checks.filter nears).map Prod.fst
        comment (callback && !warning_scopes.isEmpty) issue_key (warning_comment warning_scopes)
        return ⟨true,none,warning_scopes,current_usage usage user_id⟩

def pre_llm_budget_guard (dept_id : String) (user_id : Option String) : Budget Bool :=
  if dept_id = "" then return false
  else do
    match ← perform (.caps_get dept_id) with
    | none => return false
    | some caps =>
      let usage ← usage dept_id user_id
      if caps.weekly_usd_dept.le usage.dept_weekly_usd then return false
      else if user_id.isSome && caps.weekly_usd_user.le usage.user_weekly_usd then return false
      else if caps.monthly_usd_dept.le usage.dept_monthly_usd then return false
      else if user_id.isSome && caps.monthly_usd_user.le usage.user_monthly_usd then return false
      else return true

/-- What the gates read: the caps of the departments and the recorded usage. -/
structure Ledger where
  caps : String → Option BudgetCaps
  recorded : UsageQuery → Option Decimal

def Ledger.usage (ledger : Ledger) (dept_id : String) (user_id : Option String) : BudgetUsage :=
  { dept_weekly_usd := to_decimal (ledger.recorded (.dept dept_id (interval_str WEEKLY_INTERVAL)))
    user_weekly_usd :=
      user_id.elim zero fun user => to_decimal (ledger.recorded (.user dept_id (interval_str WEEKLY_INTERVAL) user))
    dept_monthly_usd := to_decimal (ledger.recorded (.dept dept_id (interval_str MONTHLY_INTERVAL)))
    user_monthly_usd :=
      user_id.elim zero fun user => to_decimal (ledger.recorded (.user dept_id (interval_str MONTHLY_INTERVAL) user)) }

/-- The audit log takes every event. The clock, the threshold store, the
    dispatcher and the issue tracker answer as `others` does. -/
def Ledger.reply (ledger : Ledger) (others : Oracle requests) (n : Nat) : (c : Request) → requests.Res c
  | .caps_get dept_id => ledger.caps dept_id
  | .fetchval query => .ok (ledger.recorded query)
  | .audit_write _ => .ok ()
  | .clock => others n .clock
  | .get_thresholds dept_id => others n (.get_thresholds dept_id)
  | .send_budget_alarm alarm => others n (.send_budget_alarm alarm)
  | .update_last_alarmed_at threshold_id alarmed_at => others n (.update_last_alarmed_at threshold_id alarmed_at)
  | .jira_comment issue_key body => others n (.jira_comment issue_key body)

def Ledger.serve (ledger : Ledger) (others : Oracle requests) : Handler requests (List (Entry requests)) :=
  fun c log => (ledger.reply others log.length c,log ++ [⟨c,ledger.reply others log.length c⟩])

def DenyScope.applies (user_id : Option String) : DenyScope → Bool
  | .dept_weekly => true
  | .user_weekly => user_id.isSome
  | .dept_monthly => true
  | .user_monthly => user_id.isSome

def reached (caps : BudgetCaps) (usage : BudgetUsage) (user_id : Option String) (scope : DenyScope) : Bool :=
  scope.applies user_id && (get_cap_for_scope caps scope).le (get_usage_for_scope usage scope)

def positive (caps : BudgetCaps) (scope : DenyScope) : Bool := zero.lt (get_cap_for_scope caps scope)

section
variable (ledger : Ledger) (others : Oracle requests) (dept_id : String) (user_id : Option String)

theorem usage_spec (log : List (Entry requests)) :
    Triple (ledger.serve others) (usage dept_id user_id) log (fun usage _ => usage = ledger.usage dept_id user_id)
      fun _ _ => False := by
  cases user_id with
  | none => rfl
  | some user => rfl

theorem emit_denied_spec (scope : DenyScope) (limit usage_value : Decimal) (log : List (Entry requests)) :
    Triple (ledger.serve others) (emit_denied dept_id user_id scope limit usage_value) log (fun _ _ => True)
      fun _ _ => False := trivial

/-- A loop over thresholds never raises. -/
theorem each_threshold_spec (caps : BudgetCaps) (usage : BudgetUsage) (now : Int) (thresholds : List AlarmThreshold)
    (log : List (Entry requests)) :
    Triple (ledger.serve others) (each_threshold dept_id user_id caps usage now thresholds) log (fun _ _ => True)
      fun _ _ => False := by
  induction thresholds generalizing log with
  | nil => trivial
  | cons threshold rest ih =>
    refine triple_bind (R := fun _ _ => True) ?_ fun _ t _ => ih t
    unfold check_alarm_threshold
    cases due threshold dept_id user_id caps usage with
    | none => trivial
    | some alarm =>
      refine triple_ite (fun _ => trivial) fun _ => ?_
      refine triple_bind (triple_command (Q := fun _ _ => True) trivial) fun sent t _ => ?_
      cases sent with
      | error message => trivial
      | ok _ => trivial

theorem check_alarm_thresholds_spec (caps : BudgetCaps) (usage : BudgetUsage) (log : List (Entry requests)) :
    Triple (ledger.serve others) (check_alarm_thresholds dept_id user_id caps usage) log (fun _ _ => True)
      fun _ _ => False := by
  refine triple_bind (triple_command (Q := fun _ _ => True) trivial) fun fetched t _ => ?_
  cases fetched with
  | error message => trivial
  | ok thresholds =>
    refine triple_bind (triple_command (Q := fun _ _ => True) trivial) fun now t _ => ?_
    exact each_threshold_spec ledger others dept_id user_id caps usage now thresholds t

theorem comment_spec (callback : Bool) (issue_key body : String) (log : List (Entry requests)) :
    Triple (ledger.serve others) (comment callback issue_key body) log (fun _ _ => True) fun _ _ => False := by
  cases callback with
  | false => trivial
  | true => trivial

variable {ledger dept_id} {caps : BudgetCaps}

/-- The first scope reached, as `enforce` and `pre_llm_budget_guard` look for it. -/
theorem find_reached (caps : BudgetCaps) (usage : BudgetUsage) (user_id : Option String) :
    SCOPE_ORDER.find? (reached caps usage user_id) =
      if caps.weekly_usd_dept.le usage.dept_weekly_usd then some .dept_weekly
      else if user_id.isSome && caps.weekly_usd_user.le usage.user_weekly_usd then some .user_weekly
      else if caps.monthly_usd_dept.le usage.dept_monthly_usd then some .dept_monthly
      else if user_id.isSome && caps.monthly_usd_user.le usage.user_monthly_usd then some .user_monthly
      else none := by
  simp only [SCOPE_ORDER,List.find?,reached,DenyScope.applies,get_cap_for_scope,get_usage_for_scope,Bool.true_and]
  cases caps.weekly_usd_dept.le usage.dept_weekly_usd with
  | true => rfl
  | false =>
    cases user_id.isSome && caps.weekly_usd_user.le usage.user_weekly_usd with
    | true => rfl
    | false =>
      cases caps.monthly_usd_dept.le usage.dept_monthly_usd with
      | true => rfl
      | false => cases user_id.isSome && caps.monthly_usd_user.le usage.user_monthly_usd <;> rfl

/-- The walk of `enforce` and `pre_llm_budget_guard` through the scopes stops at the first one reached. -/
theorem triple_walk {α σ : Type} {H : Handler requests σ} {s : σ} {Q : α → σ → Prop} {X : Error → σ → Prop}
    {usage : BudgetUsage} (deny : DenyScope → Budget α) {allow : Budget α}
    (denied : ∀ scope, SCOPE_ORDER.find? (reached caps usage user_id) = some scope → Triple H (deny scope) s Q X)
    (allowed : SCOPE_ORDER.find? (reached caps usage user_id) = none → Triple H allow s Q X) :
    Triple H (if caps.weekly_usd_dept.le usage.dept_weekly_usd then deny .dept_weekly
      else if user_id.isSome && caps.weekly_usd_user.le usage.user_weekly_usd then deny .user_weekly
      else if caps.monthly_usd_dept.le usage.dept_monthly_usd then deny .dept_monthly
      else if user_id.isSome && caps.monthly_usd_user.le usage.user_monthly_usd then deny .user_monthly
      else allow) s Q X := by
  rw [find_reached] at denied allowed
  split
  · next week => exact denied _ (if_pos week)
  next week =>
  rw [if_neg week] at denied allowed
  split
  · next user_week => exact denied _ (if_pos user_week)
  next user_week =>
  rw [if_neg user_week] at denied allowed
  split
  · next month => exact denied _ (if_pos month)
  next month =>
  rw [if_neg month] at denied allowed
  split
  · next user_month => exact denied _ (if_pos user_month)
  · next user_month => exact allowed (if_neg user_month)

/-- The denial of `enforce` on a scope. -/
def deny_on (dept_id : String) (user_id : Option String) (caps : BudgetCaps) (usage : BudgetUsage) (scope : DenyScope) :
    Budget BudgetDecision := do
  emit_denied dept_id user_id scope (get_cap_for_scope caps scope) (get_usage_for_scope usage scope)
  return .deny scope

theorem enforce_spec (named : dept_id ≠ "") (known : ledger.caps dept_id = some caps) (alarms : Bool)
    (log : List (Entry requests)) :
    Triple (ledger.serve others) (enforce alarms dept_id user_id) log
      (fun decision _ => decision.deny_scope = SCOPE_ORDER.find? (reached caps (ledger.usage dept_id user_id) user_id))
      fun _ _ => False := by
  unfold enforce
  rw [if_neg named]
  refine triple_bind (triple_command (Q := fun (answer : Option BudgetCaps) _ => answer = some caps) known) ?_
  rintro _ t rfl
  refine triple_bind (usage_spec ledger others dept_id user_id t) ?_
  rintro _ t rfl
  refine triple_walk user_id (deny_on dept_id user_id caps (ledger.usage dept_id user_id)) (fun scope first => ?_)
    fun first => ?_
  · exact triple_bind (emit_denied_spec ..) fun _ t _ => triple_pure first.symm
  · -- the alarms of an allowed start do not touch the decision
    refine triple_ite (fun _ => ?_) fun _ => triple_pure first.symm
    exact triple_bind (check_alarm_thresholds_spec ..) fun _ t _ => triple_pure first.symm

theorem pre_llm_budget_guard_spec (named : dept_id ≠ "") (known : ledger.caps dept_id = some caps)
    (log : List (Entry requests)) :
    Triple (ledger.serve others) (pre_llm_budget_guard dept_id user_id) log
      (fun allowed _ => allowed = (SCOPE_ORDER.find? (reached caps (ledger.usage dept_id user_id) user_id)).isNone)
      fun _ _ => False := by
  unfold pre_llm_budget_guard
  rw [if_neg named]
  refine triple_bind (triple_command (Q := fun (answer : Option BudgetCaps) _ => answer = some caps) known) ?_
  rintro _ t rfl
  refine triple_bind (usage_spec ledger others dept_id user_id t) ?_
  rintro _ t rfl
  refine triple_walk user_id (fun _ => pure false) (fun scope first => ?_) fun first => ?_
  · rw [first]
    exact triple_pure rfl
  · rw [first]
    exact triple_pure rfl

/-- The order in which `check_budget` looks at the scopes. -/
def CHECK_ORDER : List DenyScope := [.dept_weekly,.dept_monthly,.user_weekly,.user_monthly]

/-- What `check_budget` counts as exceeded. -/
def counted (caps : BudgetCaps) (usage : BudgetUsage) (user_id : Option String) (scope : DenyScope) : Bool :=
  positive caps scope && reached caps usage user_id scope

theorem find_exceeds (caps : BudgetCaps) (usage : BudgetUsage) (user_id : Option String) :
    ((scope_checks caps usage user_id).find? exceeds).map Prod.fst = CHECK_ORDER.find? (counted caps usage user_id) := by
  cases user_id with
  | none =>
    simp only [scope_checks,CHECK_ORDER,List.find?,exceeds,counted,positive,reached,DenyScope.applies,get_cap_for_scope,
      get_usage_for_scope,Option.isSome_none,Bool.false_and,Bool.and_false,Bool.true_and,List.append_nil,
      Bool.false_eq_true,if_false]
    cases zero.lt caps.weekly_usd_dept && caps.weekly_usd_dept.le usage.dept_weekly_usd with
    | true => rfl
    | false => cases zero.lt caps.monthly_usd_dept && caps.monthly_usd_dept.le usage.dept_monthly_usd <;> rfl
  | some user =>
    simp only [scope_checks,CHECK_ORDER,List.find?,exceeds,counted,positive,reached,DenyScope.applies,get_cap_for_scope,
      get_usage_for_scope,Option.isSome_some,Bool.true_and,List.cons_append,List.nil_append,if_true]
    cases zero.lt caps.weekly_usd_dept && caps.weekly_usd_dept.le usage.dept_weekly_usd with
    | true => rfl
    | false =>
      cases zero.lt caps.monthly_usd_dept && caps.monthly_usd_dept.le usage.dept_monthly_usd with
      | true => rfl
      | false =>
        cases zero.lt caps.weekly_usd_user && caps.weekly_usd_user.le usage.user_weekly_usd with
        | true => rfl
        | false => cases zero.lt caps.monthly_usd_user && caps.monthly_usd_user.le usage.user_monthly_usd <;> rfl

theorem check_budget_spec (named : dept_id ≠ "") (known : ledger.caps dept_id = some caps) (callback : Bool)
    (issue_key : String) (log : List (Entry requests)) :
    Triple (ledger.serve others) (check_budget callback dept_id user_id issue_key) log
      (fun result _ =>
        result.allowed = (CHECK_ORDER.find? (counted caps (ledger.usage dept_id user_id) user_id)).isNone ∧
        result.exceeded_scope =
          (CHECK_ORDER.find? (counted caps (ledger.usage dept_id user_id) user_id)).map DenyScope.text)
      fun _ _ => False := by
  unfold check_budget
  rw [if_neg named,← find_exceeds]
  refine triple_bind (triple_command (Q := fun (answer : Option BudgetCaps) _ => answer = some caps) known) ?_
  rintro _ t rfl
  refine triple_bind (usage_spec ledger others dept_id user_id t) ?_
  rintro _ t rfl
  dsimp only
  cases (scope_checks caps (ledger.usage dept_id user_id) user_id).find? exceeds with
  | some check =>
    refine triple_bind (emit_denied_spec ..) fun _ t _ => ?_
    exact triple_bind (comment_spec ..) fun _ t _ => triple_pure ⟨rfl,rfl⟩
  | none => exact triple_bind (comment_spec ..) fun _ t _ => triple_pure ⟨rfl,rfl⟩

end

/-- The gates reach one verdict, and a denial of `enforce` and `check_budget` names one scope. -/
def Agree (enforced : Except Error BudgetDecision) (checked : Except Error BudgetCheckResult)
    (guarded : Except Error Bool) : Prop :=
  ∃ decision result allowed, enforced = .ok decision ∧ checked = .ok result ∧ guarded = .ok allowed ∧
    decision.allowed = result.allowed ∧ result.allowed = allowed ∧
    (decision.allowed = false → result.exceeded_scope = decision.deny_scope.map DenyScope.text)

/-- Every scope reached at a cap that is not positive comes, in `SCOPE_ORDER`,
    after one reached at a positive cap, and the weekly cap of the user is not
    reached together with a positive monthly cap of the department unless the
    weekly cap of the department is. -/
structure Aligned (reached positive : DenyScope → Bool) : Prop where
  shadowed : ∀ scope, reached scope = true → positive scope = false →
    ∃ earlier ∈ SCOPE_ORDER.takeWhile (· ≠ scope), reached earlier = true ∧ positive earlier = true
  ordered : reached .user_weekly = true → reached .dept_monthly = true → positive .dept_monthly = true →
    reached .dept_weekly = true

theorem SCOPE_ORDER_all (scope : DenyScope) : scope ∈ SCOPE_ORDER := by cases scope <;> decide

theorem find_eq_iff (reached positive : DenyScope → Bool) :
    SCOPE_ORDER.find? reached = CHECK_ORDER.find? (fun scope => positive scope && reached scope) ↔
      Aligned reached positive := by
  constructor
  · intro same
    refine ⟨fun scope hit flat => ?_,fun user month cap => ?_⟩
    · obtain ⟨first,found⟩ := Option.isSome_iff_exists.mp (List.find?_isSome.mpr ⟨scope,SCOPE_ORDER_all scope,hit⟩)
      have counted := List.find?_some (same ▸ found)
      simp only [Bool.and_eq_true] at counted
      refine ⟨first,?_,counted.2,counted.1⟩
      obtain ⟨-,before,after,order,missed⟩ := List.find?_eq_some_iff_append.mp found
      have outside : scope ∉ before := fun inside => by simpa [hit] using missed scope inside
      have other : first ≠ scope := by
        rintro rfl
        rw [flat] at counted
        exact absurd counted.1 (by decide)
      have passed : ∀ s ∈ before, decide (s ≠ scope) = true := by
        intro s inside
        rw [decide_eq_true_eq]
        rintro rfl
        exact outside inside
      rw [order,List.takeWhile_append_of_pos passed]
      simp [other]
    · cases week : reached .dept_weekly with
      | true => rfl
      | false => simp [SCOPE_ORDER,CHECK_ORDER,week,user,month,cap] at same
  · rintro ⟨shadowed,ordered⟩
    cases found : SCOPE_ORDER.find? reached with
    | none =>
      symm
      rw [List.find?_eq_none] at found ⊢
      intro scope _
      simp [found scope (SCOPE_ORDER_all scope)]
    | some first =>
      -- the first scope reached has a positive cap, and no scope that `check_budget` counts comes before it
      have cap := shadowed first
      cases first with
      | dept_weekly =>
        simp [SCOPE_ORDER] at found cap
        simp [CHECK_ORDER,found,cap found]
      | user_weekly =>
        simp [SCOPE_ORDER] at found cap
        obtain ⟨week,user⟩ := found
        have month : positive .dept_monthly = true → reached .dept_monthly = false := by
          intro above
          simpa [week,user,above] using ordered
        have above : positive .user_weekly = true := by simpa [week,user] using cap
        cases monthly : positive .dept_monthly with
        | true => simp [CHECK_ORDER,week,user,month monthly,above]
        | false => simp [CHECK_ORDER,week,user,monthly,above]
      | dept_monthly =>
        simp [SCOPE_ORDER] at found cap
        obtain ⟨week,user,month⟩ := found
        have above : positive .dept_monthly = true := by simpa [week,user,month] using cap
        simp [CHECK_ORDER,week,month,above]
      | user_monthly =>
        simp [SCOPE_ORDER] at found cap
        obtain ⟨week,user,month,user_month⟩ := found
        have above : positive .user_monthly = true := by simpa [week,user,month,user_month] using cap
        simp [CHECK_ORDER,week,user,month,user_month,above]

theorem DenyScope.text_injective : Function.Injective DenyScope.text := by
  intro a b same
  cases a <;> cases b <;> first | rfl | exact absurd same (by decide)

theorem returned_of_triple {α σ : Type} {H : Handler requests σ} {p : Budget α} {s : σ} {Q : α → Prop}
    (triple : Triple H p s (fun a _ => Q a) fun _ _ => False) : ∃ a, (exec H p s).1 = .ok a ∧ Q a := by
  unfold Triple at triple
  split at triple
  · next a t ended => exact ⟨a,by rw [ended],triple⟩
  · exact triple.elim

/-- The three gates agree when they run on one ledger. -/
def GatesAgree (ledger : Ledger) (others : Oracle requests) (alarms callback : Bool) (dept_id : String)
    (user_id : Option String) (issue_key : String) (log : List (Entry requests)) : Prop :=
  Agree (exec (ledger.serve others) (enforce alarms dept_id user_id) log).1
    (exec (ledger.serve others) (check_budget callback dept_id user_id issue_key) log).1
    (exec (ledger.serve others) (pre_llm_budget_guard dept_id user_id) log).1

/-- The gates agree exactly on the departments that have caps, where the caps
    reached are aligned. -/
theorem gates_agree_iff (ledger : Ledger) (others : Oracle requests) (alarms callback : Bool) (dept_id : String)
    (user_id : Option String) (issue_key : String) (log : List (Entry requests)) :
    GatesAgree ledger others alarms callback dept_id user_id issue_key log ↔
      dept_id ≠ "" ∧ ∃ caps, ledger.caps dept_id = some caps ∧
        Aligned (reached caps (ledger.usage dept_id user_id) user_id) (positive caps) := by
  by_cases named : dept_id = ""
  · refine ⟨?_,fun holds => absurd named holds.1⟩
    rintro ⟨decision,result,allowed,enforced,-⟩
    rw [enforce,if_pos named] at enforced
    cases enforced
  cases known : ledger.caps dept_id with
  | none =>
    refine ⟨?_,by simp⟩
    rintro ⟨decision,result,allowed,enforced,-⟩
    have raised : (exec (ledger.serve others) (enforce alarms dept_id user_id) log).1 = .error (.key_error dept_id) := by
      rw [enforce,if_neg named,exec_bind]
      simp [perform,Ledger.serve,Ledger.reply,known]
    rw [raised] at enforced
    cases enforced
  | some caps =>
    obtain ⟨decision,enforced,denied⟩ := returned_of_triple (enforce_spec others user_id named known alarms log)
    obtain ⟨result,checked,verdict,scope⟩ :=
      returned_of_triple (check_budget_spec others user_id named known callback issue_key log)
    obtain ⟨allowed,guarded,passed⟩ := returned_of_triple (pre_llm_budget_guard_spec others user_id named known log)
    have consistent := decision.consistent
    rw [denied] at consistent
    have agree : GatesAgree ledger others alarms callback dept_id user_id issue_key log ↔
        SCOPE_ORDER.find? (reached caps (ledger.usage dept_id user_id) user_id) =
          CHECK_ORDER.find? (counted caps (ledger.usage dept_id user_id) user_id) := by
      constructor
      · rintro ⟨d,r,a,enforced',checked',guarded',same,-,names⟩
        cases enforced.symm.trans enforced'
        cases checked.symm.trans checked'
        cases first : SCOPE_ORDER.find? (reached caps (ledger.usage dept_id user_id) user_id) with
        | none =>
          rw [consistent,verdict,first] at same
          exact (Option.isNone_iff_eq_none.mp same.symm).symm
        | some f =>
          have named := names (by rw [consistent,first]; rfl)
          rw [scope,denied] at named
          rw [← first]
          exact (Option.map_injective DenyScope.text_injective named).symm
      · intro same
        refine ⟨decision,result,allowed,enforced,checked,guarded,?_,?_,fun _ => ?_⟩
        · rw [consistent,verdict,same]
        · rw [verdict,passed,same]
        · rw [scope,denied,same]
    rw [agree]
    refine (find_eq_iff _ _).trans ⟨fun aligned => ⟨named,caps,rfl,aligned⟩,?_⟩
    rintro ⟨-,others',same,aligned⟩
    cases same
    exact aligned

/-- A department whose weekly cap is zero, with nothing recorded. -/
def frozen : Ledger where
  caps _ := some ⟨zero,.ofNat 50,.ofNat 1800,.ofNat 150⟩
  recorded _ := none

/-- Services without thresholds that never fail. -/
def quiet : Oracle requests
  | _, .caps_get _ => none
  | _, .fetchval _ => .ok none
  | _, .audit_write _ => .ok ()
  | _, .clock => 0
  | _, .get_thresholds _ => .ok []
  | _, .send_budget_alarm _ => .ok ()
  | _, .update_last_alarmed_at _ _ => .ok ()
  | _, .jira_comment _ _ => .ok ()

/-- `enforce` and the guard deny at a weekly cap of zero, `check_budget` allows. -/
theorem zero_cap_splits : ¬ GatesAgree frozen quiet false false "payment" none "PAY-1" [] := by
  rintro ⟨decision,result,allowed,enforced,checked,-,same,-⟩
  have denies : (exec (frozen.serve quiet) (enforce false "payment" none) []).1 = .ok (.deny .dept_weekly) := rfl
  have admits : ∃ warnings usage,
      (exec (frozen.serve quiet) (check_budget false "payment" none "PAY-1") []).1 = .ok ⟨true,none,warnings,usage⟩ :=
    ⟨_,_,rfl⟩
  obtain ⟨warnings,usage,admits⟩ := admits
  rw [denies] at enforced
  rw [admits] at checked
  cases enforced
  cases checked
  cases same

end Automation.BudgetPolicy
