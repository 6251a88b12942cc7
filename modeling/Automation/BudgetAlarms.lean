import Automation.BudgetPolicy
import Mathlib.Data.List.Nodup

/-!
Threshold alarms over runs of `enforce`: the table
`automation.budget_alarm_thresholds` remembers of each row when its alarm was
last sent, and every call of a department reads and writes its rows.

A row belongs to a department, a period and a scope, and to no user. An alarm
is therefore never repeated within its period (`alarm_rate`), and what keeps an
alarm from being sent is an earlier one of the same row, whichever user it was
for: the first crossing of one user is silent after the alarm of another
(`second_user_silent`).
-/
namespace Automation.BudgetAlarms
open Automation.Effects Automation.BudgetPolicy

/-- What a threshold is configured for. -/
abbrev Key := String × Period × AlarmScope

def key (row : AlarmThreshold) : Key := (row.dept_id,row.period,row.scope)

/-- `automation.budget_alarm_thresholds`, with its primary key and its unique constraint. -/
structure Table where
  rows : List AlarmThreshold
  keyed : (rows.map AlarmThreshold.id).Nodup
  unique : (rows.map key).Nodup

def Table.get_thresholds (table : Table) (dept_id : String) : List AlarmThreshold :=
  table.rows.filter fun row => row.dept_id = dept_id

def stamp (threshold_id : String) (alarmed_at : Int) (row : AlarmThreshold) : AlarmThreshold :=
  if row.id = threshold_id then { row with last_alarmed_at := some alarmed_at } else row

@[simp] theorem stamp_id (threshold_id : String) (alarmed_at : Int) (row : AlarmThreshold) :
    (stamp threshold_id alarmed_at row).id = row.id := by unfold stamp; split <;> rfl

@[simp] theorem stamp_key (threshold_id : String) (alarmed_at : Int) (row : AlarmThreshold) :
    key (stamp threshold_id alarmed_at row) = key row := by unfold stamp; split <;> rfl

theorem stamp_other {threshold_id : String} {row : AlarmThreshold} (other : row.id ≠ threshold_id) (alarmed_at : Int) :
    stamp threshold_id alarmed_at row = row := if_neg other

def Table.update_last_alarmed_at (table : Table) (threshold_id : String) (alarmed_at : Int) : Table where
  rows := table.rows.map (stamp threshold_id alarmed_at)
  keyed := by simpa [Function.comp_def] using table.keyed
  unique := by simpa [Function.comp_def] using table.unique

theorem Table.eq_of_key {table : Table} {a b : AlarmThreshold} (left : a ∈ table.rows) (right : b ∈ table.rows)
    (same : key a = key b) : a = b := List.inj_on_of_nodup_map table.unique left right same

theorem Table.eq_of_id {table : Table} {a b : AlarmThreshold} (left : a ∈ table.rows) (right : b ∈ table.rows)
    (same : a.id = b.id) : a = b := List.inj_on_of_nodup_map table.keyed left right same

/-- An alarm handed to the dispatcher, for the user of the call. -/
structure Sent where
  alarm : BudgetAlarm
  user_id : Option String
  sent_at : Int
  delivered : Bool

def Sent.key (sent : Sent) : Key := (sent.alarm.dept_id,sent.alarm.period,sent.alarm.scope)

structure State where
  table : Table
  now : Int
  sent : List Sent

/-- A call of `enforce` with what the services answer during it. The clock has
    advanced by `elapsed` when it is read; the threshold store works. -/
structure Call where
  dept_id : String
  user_id : Option String
  caps : String → Option BudgetCaps
  recorded : UsageQuery → Except String (Option Decimal)
  audited : AuditEvent → Except String Unit
  delivers : BudgetAlarm → Except String Unit
  elapsed : Nat

def Call.serve (call : Call) : Handler requests State
  | .caps_get dept_id, s => (call.caps dept_id,s)
  | .fetchval query, s => (call.recorded query,s)
  | .audit_write event, s => (call.audited event,s)
  | .clock, s => (s.now + call.elapsed,{ s with now := s.now + call.elapsed })
  | .get_thresholds dept_id, s => (.ok (s.table.get_thresholds dept_id),s)
  | .send_budget_alarm alarm, s =>
    (call.delivers alarm,
      { s with sent := s.sent ++ [⟨alarm,call.user_id,s.now,(call.delivers alarm).isOk⟩] })
  | .update_last_alarmed_at threshold_id alarmed_at, s =>
    (.ok (),{ s with table := s.table.update_last_alarmed_at threshold_id alarmed_at })
  | .jira_comment _ _, s => (.ok (),s)

def step (s : State) (call : Call) : State := (exec call.serve (enforce true call.dept_id call.user_id) s).2

def run (table : Table) (start : Int) (calls : List Call) : State := calls.foldl step ⟨table,start,[]⟩

/-- The usage a call reads. -/
def Call.usage (call : Call) : Except String BudgetUsage := do
  let dept_weekly ← call.recorded (.dept call.dept_id (interval_str WEEKLY_INTERVAL))
  let dept_monthly ← call.recorded (.dept call.dept_id (interval_str MONTHLY_INTERVAL))
  match call.user_id with
  | none => return ⟨to_decimal dept_weekly,zero,to_decimal dept_monthly,zero⟩
  | some user =>
    let user_weekly ← call.recorded (.user call.dept_id (interval_str WEEKLY_INTERVAL) user)
    let user_monthly ← call.recorded (.user call.dept_id (interval_str MONTHLY_INTERVAL) user)
    return ⟨to_decimal dept_weekly,to_decimal user_weekly,to_decimal dept_monthly,to_decimal user_monthly⟩

/-- The loop body on the state: an alarm that is due and was not sent in its
    period is handed over, and the row is stamped where it was delivered. -/
def settle (call : Call) (caps : BudgetCaps) (usage : BudgetUsage) (s : State) (threshold : AlarmThreshold) : State :=
  match due threshold call.dept_id call.user_id caps usage with
  | none => s
  | some alarm =>
    if already_alarmed_in_period threshold.last_alarmed_at threshold.period s.now then s
    else
      { s with
        table := if (call.delivers alarm).isOk then s.table.update_last_alarmed_at threshold.id s.now else s.table
        sent := s.sent ++ [⟨alarm,call.user_id,s.now,(call.delivers alarm).isOk⟩] }

/-- The clock is read. -/
def State.tick (s : State) (call : Call) : State := { s with now := s.now + call.elapsed }

section
variable (call : Call) (caps : BudgetCaps) (usage : BudgetUsage)

@[simp] theorem settle_now (s : State) (threshold : AlarmThreshold) : (settle call caps usage s threshold).now = s.now := by
  unfold settle
  split
  · rfl
  · split <;> rfl

theorem check_alarm_threshold_exec (s : State) (threshold : AlarmThreshold) :
    exec call.serve (check_alarm_threshold call.dept_id call.user_id caps usage s.now threshold) s =
      (.ok (),settle call caps usage s threshold) := by
  unfold check_alarm_threshold settle
  cases due threshold call.dept_id call.user_id caps usage with
  | none => rfl
  | some alarm =>
    by_cases alarmed : already_alarmed_in_period threshold.last_alarmed_at threshold.period s.now = true
    · simp [alarmed]
    · simp only [alarmed,if_false,Bool.false_eq_true]
      cases sent : call.delivers alarm with
      | error message => simp [exec_bind,perform,Call.serve,sent,Except.isOk,Except.toBool]
      | ok _ => simp [exec_bind,perform,Call.serve,sent,Except.isOk,Except.toBool]

theorem each_threshold_exec (thresholds : List AlarmThreshold) (s : State) :
    exec call.serve (each_threshold call.dept_id call.user_id caps usage s.now thresholds) s =
      (.ok (),thresholds.foldl (settle call caps usage) s) := by
  induction thresholds generalizing s with
  | nil => rfl
  | cons threshold rest ih =>
    rw [each_threshold,exec_bind,check_alarm_threshold_exec]
    have later := ih (settle call caps usage s threshold)
    rw [settle_now] at later
    exact later

theorem check_alarm_thresholds_exec (s : State) :
    exec call.serve (check_alarm_thresholds call.dept_id call.user_id caps usage) s =
      (.ok (),(s.table.get_thresholds call.dept_id).foldl (settle call caps usage) (s.tick call)) :=
  each_threshold_exec call caps usage (s.table.get_thresholds call.dept_id) (s.tick call)

theorem fetch_exec (query : UsageQuery) (s : State) :
    exec call.serve (fetch query) s =
      match call.recorded query with
      | .ok value => (.ok (to_decimal value),s)
      | .error message => (.error (.service message),s) := by
  cases read : call.recorded query with
  | ok value => simp [fetch,exec_bind,perform,Call.serve,read,propagate]
  | error message => simp [fetch,exec_bind,perform,Call.serve,read,propagate]

theorem usage_exec (s : State) :
    exec call.serve (BudgetPolicy.usage call.dept_id call.user_id) s =
      match call.usage with
      | .ok usage => (.ok usage,s)
      | .error message => (.error (.service message),s) := by
  rw [BudgetPolicy.usage,Call.usage,exec_bind,fetch_exec]
  cases call.recorded (.dept call.dept_id (interval_str WEEKLY_INTERVAL)) with
  | error message => rfl
  | ok weekly =>
    simp only [exec_bind,fetch_exec]
    cases call.recorded (.dept call.dept_id (interval_str MONTHLY_INTERVAL)) with
    | error message => rfl
    | ok monthly =>
      cases call.user_id with
      | none => rfl
      | some user =>
        simp only [exec_bind,fetch_exec]
        cases call.recorded (.user call.dept_id (interval_str WEEKLY_INTERVAL) user) with
        | error message => rfl
        | ok user_weekly =>
          simp only
          cases call.recorded (.user call.dept_id (interval_str MONTHLY_INTERVAL) user) <;> rfl

structure Call.Allowed (call : Call) (caps : BudgetCaps) (usage : BudgetUsage) : Prop where
  named : call.dept_id ≠ ""
  known : call.caps call.dept_id = some caps
  reads : call.usage = .ok usage
  below : SCOPE_ORDER.find? (reached caps usage call.user_id) = none

/-- No alarm is sent; the clock may have been read. -/
structure Unalarmed (s t : State) : Prop where
  table : t.table = s.table
  sent : t.sent = s.sent
  now : s.now ≤ t.now

/-- A call that is allowed goes through the thresholds of its department, any other leaves them alone. -/
def Outcome (call : Call) (s t : State) : Prop :=
  (∃ caps usage, call.Allowed caps usage ∧
    t = (s.table.get_thresholds call.dept_id).foldl (settle call caps usage) (s.tick call)) ∨
  ((∀ caps usage, ¬ call.Allowed caps usage) ∧ Unalarmed s t)

theorem unalarmed_refl (s : State) : Unalarmed s s := ⟨rfl,rfl,Int.le_refl _⟩

theorem unalarmed_tick (s : State) : Unalarmed s (s.tick call) := by
  refine ⟨rfl,rfl,?_⟩
  simp only [State.tick]
  omega

variable {call caps usage}

/-- A denial reads the clock, for its audit event. -/
theorem emit_denied_unalarmed (scope : DenyScope) (limit usage_value : Decimal) (s : State) :
    Triple call.serve (emit_denied call.dept_id call.user_id scope limit usage_value) s (fun _ t => Unalarmed s t)
      fun _ t => Unalarmed s t := by
  refine triple_bind (triple_command (Q := fun _ t => t = s.tick call) rfl) ?_
  rintro now _ rfl
  refine triple_bind (triple_command (Q := fun _ t => t = s.tick call) rfl) ?_
  rintro written _ rfl
  cases written with
  | ok _ => exact triple_pure (unalarmed_tick call s)
  | error message => exact triple_raise (unalarmed_tick call s)

theorem denied_outcome (known : call.caps call.dept_id = some caps) (reads : call.usage = .ok usage) {scope : DenyScope}
    (beyond : SCOPE_ORDER.find? (reached caps usage call.user_id) = some scope) (s : State) :
    Triple call.serve (deny_on call.dept_id call.user_id caps usage scope) s (fun _ t => Outcome call s t)
      fun _ t => Outcome call s t := by
  have denied : ∀ caps usage, ¬ call.Allowed caps usage := by
    intro caps' usage' allowed
    cases known.symm.trans allowed.known
    cases reads.symm.trans allowed.reads
    cases beyond.symm.trans allowed.below
  refine triple_bind (R := fun _ t => Unalarmed s t) ?_ fun _ t same => triple_pure (.inr ⟨denied,same⟩)
  exact triple_mono (emit_denied_unalarmed scope _ _ s) (fun _ _ same => same) fun _ t same => .inr ⟨denied,same⟩

theorem usage_outcome (call : Call) (s : State) :
    Triple call.serve (BudgetPolicy.usage call.dept_id call.user_id) s (fun usage t => call.usage = .ok usage ∧ t = s)
      fun _ t => Outcome call s t := by
  unfold Triple
  rw [usage_exec]
  cases reads : call.usage with
  | ok usage => exact ⟨rfl,rfl⟩
  | error message =>
    refine .inr ⟨fun caps usage allowed => ?_,unalarmed_refl s⟩
    cases reads.symm.trans allowed.reads

theorem enforce_outcome (call : Call) (s : State) :
    Triple call.serve (enforce true call.dept_id call.user_id) s (fun _ t => Outcome call s t)
      fun _ t => Outcome call s t := by
  unfold enforce
  refine triple_ite (fun empty => triple_raise (.inr ⟨fun _ _ allowed => allowed.named empty,unalarmed_refl s⟩))
    fun named => ?_
  refine triple_bind (triple_command (Q := fun (answer : Option BudgetCaps) t => answer = call.caps call.dept_id ∧ t = s)
    ⟨rfl,rfl⟩) ?_
  rintro answer _ ⟨known,rfl⟩
  cases answer with
  | none =>
    refine triple_raise (.inr ⟨fun _ _ allowed => ?_,unalarmed_refl _⟩)
    cases known.trans allowed.known
  | some caps =>
    have known := known.symm
    refine triple_bind (usage_outcome call _) ?_
    rintro usage _ ⟨reads,rfl⟩
    refine triple_walk call.user_id (deny_on call.dept_id call.user_id caps usage)
      (fun scope first => denied_outcome known reads first _) fun first => ?_
    refine triple_ite (fun _ => ?_) fun off => absurd rfl off
    unfold Triple
    rw [exec_bind,check_alarm_thresholds_exec]
    exact .inl ⟨caps,usage,⟨named,known,reads,first⟩,rfl⟩

theorem step_outcome (s : State) (call : Call) : Outcome call s (step s call) := by
  have outcome := enforce_outcome call s
  unfold Triple at outcome
  unfold step
  split at outcome
  · next ended => rw [ended]; exact outcome
  · next ended => rw [ended]; exact outcome

end

/-- Two alarms of one key are more than a period apart. -/
def Spaced (a b : Sent) : Prop := a.key = b.key → a.sent_at + a.alarm.period.length < b.sent_at

/-- What the table knows of the alarms of a run that began with `first`. -/
structure Sound (first : Table) (s : State) : Prop where
  aged : ∀ sent ∈ s.sent, sent.sent_at ≤ s.now
  stamped : ∀ sent ∈ s.sent, sent.delivered = true →
    ∃ row ∈ s.table.rows, key row = sent.key ∧ ∃ last, row.last_alarmed_at = some last ∧ sent.sent_at ≤ last
  spaced : (s.sent.filter Sent.delivered).Pairwise Spaced
  origin : ∀ row ∈ s.table.rows, ∀ last, row.last_alarmed_at = some last →
    (∃ old ∈ first.rows, key old = key row ∧ old.last_alarmed_at = some last) ∨
    ∃ sent ∈ s.sent, sent.delivered = true ∧ sent.key = key row ∧ sent.sent_at = last

theorem due_key {threshold : AlarmThreshold} {dept_id : String} {user_id : Option String} {caps : BudgetCaps}
    {usage : BudgetUsage} {alarm : BudgetAlarm} (reached : due threshold dept_id user_id caps usage = some alarm) :
    alarm.dept_id = dept_id ∧ alarm.period = threshold.period ∧ alarm.scope = threshold.scope := by
  unfold due at reached
  split at reached
  · cases reached
  · split at reached
    · cases reached
    · dsimp only at reached
      split at reached
      · cases reached
      · cases reached
        exact ⟨rfl,rfl,rfl⟩

theorem not_alarmed {last_alarmed_at : Option Int} {period : Period} {now last : Int}
    (quiet : ¬ already_alarmed_in_period last_alarmed_at period now = true) (stamped : last_alarmed_at = some last) :
    last + period.length < now := by
  subst stamped
  simp only [already_alarmed_in_period,decide_eq_true_eq] at quiet
  omega

theorem alarmed_since {last_alarmed_at : Option Int} {period : Period} {now : Int}
    (alarmed : already_alarmed_in_period last_alarmed_at period now = true) :
    ∃ last, last_alarmed_at = some last ∧ now ≤ last + period.length := by
  cases last_alarmed_at with
  | none => cases alarmed
  | some last =>
    have recent : now - period.length ≤ last := of_decide_eq_true alarmed
    exact ⟨last,rfl,by omega⟩

section
variable {first : Table} {call : Call} {caps : BudgetCaps} {usage : BudgetUsage} {s : State} {threshold : AlarmThreshold}

theorem settle_cases (call : Call) (caps : BudgetCaps) (usage : BudgetUsage) (s : State) (threshold : AlarmThreshold) :
    settle call caps usage s threshold = s ∨
    ∃ alarm, due threshold call.dept_id call.user_id caps usage = some alarm ∧
      ¬ already_alarmed_in_period threshold.last_alarmed_at threshold.period s.now = true ∧
      settle call caps usage s threshold =
        { s with
          table := if (call.delivers alarm).isOk then s.table.update_last_alarmed_at threshold.id s.now else s.table
          sent := s.sent ++ [⟨alarm,call.user_id,s.now,(call.delivers alarm).isOk⟩] } := by
  unfold settle
  cases reached : due threshold call.dept_id call.user_id caps usage with
  | none => exact .inl rfl
  | some alarm =>
    by_cases alarmed : already_alarmed_in_period threshold.last_alarmed_at threshold.period s.now = true
    · exact .inl (if_pos alarmed)
    · exact .inr ⟨alarm,rfl,alarmed,if_neg alarmed⟩

theorem settle_sent {sent : Sent} (member : sent ∈ s.sent) : sent ∈ (settle call caps usage s threshold).sent := by
  obtain same | ⟨alarm,-,-,same⟩ := settle_cases call caps usage s threshold
  · rw [same]; exact member
  · rw [same]; exact List.mem_append_left _ member

theorem settle_row {row : AlarmThreshold} (member : row ∈ s.table.rows) (other : row.id ≠ threshold.id) :
    row ∈ (settle call caps usage s threshold).table.rows := by
  obtain same | ⟨alarm,-,-,same⟩ := settle_cases call caps usage s threshold
  · rw [same]; exact member
  · rw [same]
    dsimp only
    split
    · exact List.mem_map.mpr ⟨row,member,stamp_other other _⟩
    · exact member

theorem aged_append (sound : Sound first s) {sent : Sent} (time : sent.sent_at = s.now) :
    ∀ a ∈ s.sent ++ [sent], a.sent_at ≤ s.now := by
  intro a member
  rcases List.mem_append.mp member with old | new
  · exact sound.aged a old
  · rw [List.mem_singleton.mp new]
    exact Int.le_of_eq time

theorem refused_sound (sound : Sound first s) {sent : Sent} (refused : sent.delivered = false) (time : sent.sent_at = s.now) :
    Sound first { s with sent := s.sent ++ [sent] } where
  aged := aged_append sound time
  stamped := by
    intro a member delivered
    rcases List.mem_append.mp member with old | new
    · exact sound.stamped a old delivered
    · rw [List.mem_singleton.mp new,refused] at delivered
      cases delivered
  spaced := by simpa [refused] using sound.spaced
  origin := by
    intro row member last stamped
    rcases sound.origin row member last stamped with old | ⟨a,inside,rest⟩
    · exact .inl old
    · exact .inr ⟨a,List.mem_append_left _ inside,rest⟩

theorem delivered_sound (sound : Sound first s) (member : threshold ∈ s.table.rows)
    (quiet : ¬ already_alarmed_in_period threshold.last_alarmed_at threshold.period s.now = true) {sent : Sent}
    (delivered : sent.delivered = true) (time : sent.sent_at = s.now) (same : sent.key = key threshold) :
    Sound first
      { s with table := s.table.update_last_alarmed_at threshold.id s.now, sent := s.sent ++ [sent] } where
  aged := aged_append sound time
  stamped := by
    have fresh : stamp threshold.id s.now threshold ∈ (s.table.update_last_alarmed_at threshold.id s.now).rows :=
      List.mem_map_of_mem member
    have now : (stamp threshold.id s.now threshold).last_alarmed_at = some s.now := by simp [stamp]
    intro a inside sent_out
    rcases List.mem_append.mp inside with old | new
    · obtain ⟨row,listed,keys,last,stamped,before⟩ := sound.stamped a old sent_out
      by_cases this : row.id = threshold.id
      · cases Table.eq_of_id listed member this
        exact ⟨_,fresh,by rw [stamp_key,keys],s.now,now,sound.aged a old⟩
      · exact ⟨row,List.mem_map.mpr ⟨row,listed,stamp_other this _⟩,keys,last,stamped,before⟩
    · rw [List.mem_singleton.mp new]
      exact ⟨_,fresh,by rw [stamp_key,same],s.now,now,Int.le_of_eq time⟩
  spaced := by
    rw [List.filter_append,List.pairwise_append]
    refine ⟨sound.spaced,List.Pairwise.filter _ (List.pairwise_singleton _ _),?_⟩
    intro a inside b new keys
    obtain ⟨old,sent_out⟩ := List.mem_filter.mp inside
    have last_one : b = sent := by simpa using (List.mem_filter.mp new).1
    subst last_one
    -- the row that remembers `a` is the row of the new alarm
    obtain ⟨row,listed,row_key,last,stamped,before⟩ := sound.stamped a old sent_out
    cases Table.eq_of_key listed member (row_key.trans (keys.trans same))
    have apart := not_alarmed quiet stamped
    have period : a.alarm.period = threshold.period := (congrArg (fun k => k.2.1) row_key).symm
    rw [time,period]
    omega
  origin := by
    intro row inside last stamped
    obtain ⟨old,listed,rfl⟩ := List.mem_map.mp inside
    by_cases this : old.id = threshold.id
    · cases Table.eq_of_id listed member this
      have now : last = s.now := by simpa [stamp,eq_comm] using stamped
      exact .inr ⟨sent,by simp,delivered,by rw [stamp_key,same],by rw [time,now]⟩
    · rw [stamp_other this] at stamped ⊢
      rcases sound.origin old listed last stamped with origin | ⟨a,member,rest⟩
      · exact .inl origin
      · exact .inr ⟨a,List.mem_append_left _ member,rest⟩

theorem settle_sound (sound : Sound first s) (member : threshold ∈ s.table.rows)
    (own : threshold.dept_id = call.dept_id) : Sound first (settle call caps usage s threshold) := by
  obtain same | ⟨alarm,reached,quiet,same⟩ := settle_cases call caps usage s threshold
  · rw [same]; exact sound
  obtain ⟨dept,period,scope⟩ := due_key reached
  rw [same]
  cases delivered : (call.delivers alarm).isOk with
  | false => exact refused_sound sound rfl rfl
  | true =>
    refine delivered_sound sound member quiet rfl rfl ?_
    simp only [Sent.key,key,dept,period,scope,own]

theorem fold_sound (thresholds : List AlarmThreshold) (distinct : (thresholds.map AlarmThreshold.id).Nodup) :
    ∀ s, Sound first s → (∀ row ∈ thresholds, row ∈ s.table.rows ∧ row.dept_id = call.dept_id) →
      Sound first (thresholds.foldl (settle call caps usage) s) := by
  induction thresholds with
  | nil => intro s sound _; exact sound
  | cons threshold rest ih =>
    intro s sound listed
    obtain ⟨absent,distinct⟩ := List.nodup_cons.mp (List.map_cons ▸ distinct)
    obtain ⟨member,own⟩ := listed threshold List.mem_cons_self
    refine ih distinct _ (settle_sound sound member own) fun row inside => ?_
    obtain ⟨kept,own⟩ := listed row (List.mem_cons_of_mem _ inside)
    refine ⟨settle_row kept ?_,own⟩
    intro equal
    exact absent (equal ▸ List.mem_map_of_mem inside)

theorem tick_sound (sound : Sound first s) : Sound first (s.tick call) where
  aged := by
    intro sent member
    have before := sound.aged sent member
    simp only [State.tick]
    omega
  stamped := sound.stamped
  spaced := sound.spaced
  origin := sound.origin

theorem step_sound (sound : Sound first s) (call : Call) : Sound first (step s call) := by
  obtain ⟨caps,usage,-,same⟩ | ⟨-,table,sent,now⟩ := step_outcome s call
  · rw [same]
    refine fold_sound _ ?_ _ (tick_sound sound) fun row member => ?_
    · exact s.table.keyed.sublist (List.filter_sublist.map _)
    · obtain ⟨listed,own⟩ := List.mem_filter.mp member
      exact ⟨listed,by simpa using own⟩
  · refine ⟨?_,?_,?_,?_⟩
    · rw [sent]
      intro a member
      exact Int.le_trans (sound.aged a member) now
    · rw [sent,table]; exact sound.stamped
    · rw [sent]; exact sound.spaced
    · rw [sent,table]; exact sound.origin

theorem run_sound (table : Table) (start : Int) (calls : List Call) : Sound table (run table start calls) := by
  unfold run
  have initial : Sound table ⟨table,start,[]⟩ :=
    ⟨by simp,by simp,List.Pairwise.nil,fun row member last stamped => .inl ⟨row,member,rfl,stamped⟩⟩
  generalize State.mk table start [] = s at initial
  induction calls generalizing s with
  | nil => exact initial
  | cons call rest ih => exact ih (step s call) (step_sound initial call)

theorem fold_sent {sent : Sent} (thresholds : List AlarmThreshold) :
    ∀ s : State, sent ∈ s.sent → sent ∈ (thresholds.foldl (settle call caps usage) s).sent := by
  induction thresholds with
  | nil => intro s member; exact member
  | cons threshold rest ih => intro s member; exact ih _ (settle_sent member)

theorem fold_reaches {row : AlarmThreshold} {alarm : BudgetAlarm}
    (reached : due row call.dept_id call.user_id caps usage = some alarm) (thresholds : List AlarmThreshold) :
    ∀ s : State, row ∈ thresholds →
      (∃ delivered, ⟨alarm,call.user_id,s.now,delivered⟩ ∈ (thresholds.foldl (settle call caps usage) s).sent) ∨
      already_alarmed_in_period row.last_alarmed_at row.period s.now = true := by
  induction thresholds with
  | nil => intro s member; cases member
  | cons threshold rest ih =>
    intro s member
    rcases List.mem_cons.mp member with rfl | later
    · by_cases alarmed : already_alarmed_in_period row.last_alarmed_at row.period s.now = true
      · exact .inr alarmed
      · refine .inl ⟨(call.delivers alarm).isOk,fold_sent rest _ ?_⟩
        simp [settle,reached,alarmed]
    · have ahead := ih (settle call caps usage s threshold) later
      rw [settle_now] at ahead
      exact ahead

end

/-- A call that is allowed hands over the alarm of every row its usage has
    reached, unless an alarm of the row's department, period and scope was
    delivered at most one period before: in the run, or before it, as the table
    of its start remembers. -/
def CrossingHeard (first : Table) (s : State) (call : Call) : Prop :=
  ∀ caps usage row alarm, call.Allowed caps usage → row ∈ s.table.rows → row.dept_id = call.dept_id →
    due row call.dept_id call.user_id caps usage = some alarm →
    (∃ delivered, ⟨alarm,call.user_id,s.now + call.elapsed,delivered⟩ ∈ (step s call).sent) ∨
    (∃ earlier ∈ s.sent, earlier.delivered = true ∧ earlier.key = key row ∧
      s.now + call.elapsed ≤ earlier.sent_at + row.period.length) ∨
    ∃ old ∈ first.rows, key old = key row ∧
      ∃ last, old.last_alarmed_at = some last ∧ s.now + call.elapsed ≤ last + row.period.length

theorem sound_heard {first : Table} {s : State} (sound : Sound first s) (call : Call) : CrossingHeard first s call := by
  intro caps usage row alarm allowed member own reached
  obtain ⟨caps',usage',allowed',same⟩ | ⟨refused,-⟩ := step_outcome s call
  · cases allowed.known.symm.trans allowed'.known
    cases allowed.reads.symm.trans allowed'.reads
    rw [same]
    have listed : row ∈ s.table.get_thresholds call.dept_id := List.mem_filter.mpr ⟨member,by simpa using own⟩
    rcases fold_reaches reached _ (s.tick call) listed with heard | alarmed
    · exact .inl heard
    · refine .inr ?_
      obtain ⟨last,stamped,recent⟩ := alarmed_since alarmed
      rcases sound.origin row member last stamped with ⟨old,inside,keys,remembered⟩ | ⟨sent,inside,out,keys,time⟩
      · exact .inr ⟨old,inside,keys,last,remembered,recent⟩
      · exact .inl ⟨sent,inside,out,keys,by rw [time]; exact recent⟩
  · exact absurd allowed (refused caps usage)

/-- In every run of `enforce` calls, two delivered alarms of one department,
    period and scope are more than a period apart, and only such an earlier
    alarm keeps a crossing from being heard. -/
theorem alarm_rate (table : Table) (start : Int) (calls : List Call) :
    ((run table start calls).sent.filter Sent.delivered).Pairwise Spaced ∧
      ∀ call, CrossingHeard table (run table start calls) call :=
  ⟨(run_sound table start calls).spaced,sound_heard (run_sound table start calls)⟩

/-- The first crossing of a user-scoped threshold by one user is heard, whatever
    alarms other users had. -/
def FirstCrossingHeard (s : State) (call : Call) : Prop :=
  ∀ caps usage row alarm, call.Allowed caps usage → row ∈ s.table.rows → row.dept_id = call.dept_id →
    row.scope = .user → due row call.dept_id call.user_id caps usage = some alarm →
    (∀ earlier ∈ s.sent, earlier.key = key row → earlier.user_id ≠ call.user_id) →
    ∃ delivered, ⟨alarm,call.user_id,s.now + call.elapsed,delivered⟩ ∈ (step s call).sent

def payment_row : AlarmThreshold := ⟨"t1","payment",.weekly,.user,70,.slack,none⟩

def payment_table : Table := ⟨[payment_row],by decide,by decide⟩

/-- A call of a user who has spent 40 of 50 dollars this week. -/
def spender (user : String) : Call where
  dept_id := "payment"
  user_id := some user
  caps _ := some ⟨.ofNat 500,.ofNat 50,.ofNat 1800,.ofNat 150⟩
  recorded _ := .ok (some (.ofNat 40))
  audited _ := .ok ()
  delivers _ := .ok ()
  elapsed := 1000000

/-- The alarm of the first user silences the crossing of the second. -/
theorem second_user_silent : ¬ FirstCrossingHeard (run payment_table 0 [spender "ayse"]) (spender "mehmet") := by
  intro heard
  have others : ∀ earlier ∈ (run payment_table 0 [spender "ayse"]).sent, earlier.key = key payment_row →
      earlier.user_id ≠ some "mehmet" := by
    have sent : (run payment_table 0 [spender "ayse"]).sent.map Sent.user_id = [some "ayse"] := by decide
    intro earlier member _ same
    have listed := List.mem_map_of_mem (f := Sent.user_id) member
    rw [sent,same] at listed
    exact absurd listed (by decide)
  have stamped : (run payment_table 0 [spender "ayse"]).table.rows = [stamp "t1" 1000000 payment_row] := by
    decide
  obtain ⟨delivered,member⟩ := heard ⟨.ofNat 500,.ofNat 50,.ofNat 1800,.ofNat 150⟩
    ⟨.ofNat 40,.ofNat 40,.ofNat 40,.ofNat 40⟩ (stamp "t1" 1000000 payment_row) _ ⟨by decide,rfl,rfl,by decide⟩
    (by rw [stamped]; exact List.mem_singleton_self _) (by decide) (by decide) rfl others
  have silent : (step (run payment_table 0 [spender "ayse"]) (spender "mehmet")).sent.map Sent.user_id = [some "ayse"] := by
    decide
  have listed : some "mehmet" ∈ [some "ayse"] := silent ▸ List.mem_map_of_mem (f := Sent.user_id) member
  exact absurd listed (by decide)

end Automation.BudgetAlarms
