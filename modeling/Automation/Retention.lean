import Automation.BudgetPolicy
import Automation.Calendar
import Automation.PyText

/-!
The retention of the cost rows. Pruning deletes what is older than a number of days that an
operator sets; the budget gates sum the production costs of the last seven and thirty days.
The sums stay the same just where no row of the last thirty days that costs something is
deleted (`usage_kept_iff`).
-/
namespace Automation.Retention
open Automation.BudgetPolicy Automation.Calendar Automation.PyText

def DEFAULT_RETENTION_DAYS : Int := 90

/-- A source of the setting: it may not be wired, and it may raise. -/
inductive Source (α : Type) where
  | unwired
  | raises
  | answers (a : α)

inductive Value where
  | int (n : Int)
  | text (s : String)

/-- A row of `shared.feature_flags`. -/
structure FeatureFlag where
  description : Option String
  enabled : Bool

structure Settings where
  provider : Source (Option Int)
  /-- `RETENTION_DAYS`. -/
  environ : Option String
  feature_flags : Source (Option FeatureFlag)

/-- `int(value)`; `none` where it raises. -/
def int_of : Value → Option Int
  | .int n => some n
  | .text s => pyInt s

def parse_positive_int (value : Option Value) : Option Int :=
  match value.bind int_of with
  | none => none
  | some n => if n ≤ 0 then none else some n

def provided (s : Settings) : Option Int :=
  match s.provider with
  | .answers value => parse_positive_int (value.map .int)
  | _ => none

def flagged (s : Settings) : Option Int :=
  match s.feature_flags with
  | .answers (some row) => if row.enabled then parse_positive_int (row.description.map .text) else none
  | _ => none

def get_retention_setting (s : Settings) : Int :=
  (((provided s).or (parse_positive_int (s.environ.map .text))).or (flagged s)).getD DEFAULT_RETENTION_DAYS

/-- A row of `shared.cost_tracking`: its cost in millionths, its time in microseconds of the calendar. -/
structure CostRow where
  dept_id : String
  user_id : Option String
  cost_tag : String
  cost_usd : Nat
  created_at : Int
  deriving DecidableEq

/-- What happens to the table: a row comes in, or an attempt to delete ends, whose
    transaction may have committed. -/
inductive Event where
  | insert (row : CostRow)
  | attempt (committed : Bool)

/-- A run of the workflow. It comes to the deletion where the setting was read and the
    archive was written. -/
structure Run where
  /-- `workflow.now()`, which is in UTC. -/
  now : Datetime
  utc : now.utcoffset = some 0
  archived : Bool
  events : List Event

/-- The days that the workflow takes, which falls back to the default itself. -/
def retention_days (s : Settings) : Int :=
  let raw := get_retention_setting s
  if 0 < raw then raw else DEFAULT_RETENTION_DAYS

/-- The point before which rows are deleted, if the run comes to that. -/
def cutoff (s : Settings) (run : Run) : Option Int :=
  if run.archived then (run.now.add (-(retention_days s * DAY))).map Datetime.instant else none

def delete_older_than (cutoff : Option Int) (rows : List CostRow) : List CostRow :=
  match cutoff with
  | none => rows
  | some cutoff => rows.filter fun row => !decide (row.created_at < cutoff)

/-- The table after the events of a run. -/
def after (cutoff : Option Int) : List CostRow → List Event → List CostRow
  | rows, [] => rows
  | rows, .insert row :: events => after cutoff (rows ++ [row]) events
  | rows, .attempt committed :: events => after cutoff (if committed then delete_older_than cutoff rows else rows) events

def inserted : List Event → List CostRow
  | [] => []
  | .insert row :: events => row :: inserted events
  | .attempt _ :: events => inserted events

/-- The microseconds of an interval such as `7 days`. -/
def interval_length (interval : String) : Int :=
  (pyInt (.ofList (interval.toList.takeWhile (· ≠ ' ')))).getD 0 * DAY

/-- The rows that a query sums at a time. -/
def counted (now : Int) : UsageQuery → CostRow → Bool
  | .dept dept_id interval, row =>
    row.dept_id = dept_id && row.cost_tag = "production" && now - interval_length interval ≤ row.created_at
  | .user dept_id interval user_id, row =>
    row.dept_id = dept_id && row.cost_tag = "production" && row.user_id = some user_id &&
      now - interval_length interval ≤ row.created_at

/-- `COALESCE(SUM(cost_usd), 0)`, with the six places of the column. -/
def total (rows : List CostRow) : Decimal := if rows = [] then ⟨0,0⟩ else ⟨((rows.map CostRow.cost_usd).sum : Nat),-6⟩

def cost_ledger (rows : List CostRow) (now : Int) : Ledger where
  caps _ := none
  recorded query := some (total (rows.filter (counted now query)))

/-- What the budget policy computes from the rows at a time. -/
def usage_at (rows : List CostRow) (now : Int) (dept_id : String) (user_id : Option String) : BudgetUsage :=
  (cost_ledger rows now).usage dept_id user_id

/-- `==` of two decimals, which compares their values. -/
def same (a b : Decimal) : Prop := a.le b = true ∧ b.le a = true

def SameUsage (u v : BudgetUsage) : Prop :=
  same u.dept_weekly_usd v.dept_weekly_usd ∧ same u.user_weekly_usd v.user_weekly_usd ∧
    same u.dept_monthly_usd v.dept_monthly_usd ∧ same u.user_monthly_usd v.user_monthly_usd

/-- The sums right after a run are those without it. -/
def UsageKept (s : Settings) (run : Run) (rows : List CostRow) (now : Int) : Prop :=
  ∀ dept_id user_id,
    SameUsage (usage_at (after (cutoff s run) rows run.events) now dept_id user_id)
      (usage_at (rows ++ inserted run.events) now dept_id user_id)

/-- No deletion that commits finds a production row from before the cutoff that is of the
    last thirty days and costs something. -/
def Spared (s : Settings) (run : Run) (rows : List CostRow) (now : Int) : Prop :=
  ∀ cut ∈ cutoff s run, ∀ front back, run.events = front ++ .attempt true :: back →
    ∀ row ∈ rows ++ inserted front, row.created_at < cut → row.cost_tag = "production" → now - 30 * DAY ≤ row.created_at →
      row.cost_usd = 0

theorem parse_positive_int_pos {value : Option Value} {n : Int} (parsed : parse_positive_int value = some n) : 0 < n := by
  unfold parse_positive_int at parsed
  split at parsed
  · cases parsed
  · split at parsed
    · cases parsed
    · next positive =>
      obtain rfl := Option.some.inj parsed
      omega

theorem flagged_pos {s : Settings} {n : Int} (found : flagged s = some n) : 0 < n := by
  unfold flagged at found
  split at found
  · split at found
    · exact parse_positive_int_pos found
    · cases found
  · cases found

theorem provided_pos {s : Settings} {n : Int} (found : provided s = some n) : 0 < n := by
  unfold provided at found
  split at found
  · exact parse_positive_int_pos found
  · cases found

/-- Whatever the sources say, the setting is a day at least. -/
theorem get_retention_setting_pos (s : Settings) : 0 < get_retention_setting s := by
  unfold get_retention_setting
  cases found : ((provided s).or (parse_positive_int (s.environ.map .text))).or (flagged s) with
  | none => decide
  | some n =>
    show 0 < n
    rw [Option.or_eq_some_iff,Option.or_eq_some_iff] at found
    obtain (provider | ⟨-,environ⟩) | ⟨-,flag⟩ := found
    · exact provided_pos provider
    · exact parse_positive_int_pos environ
    · exact flagged_pos flag

theorem retention_days_eq (s : Settings) : retention_days s = get_retention_setting s := if_pos (get_retention_setting_pos s)

/-- The rows that the deletions of a run find and remove. -/
def removed (cutoff : Option Int) : List CostRow → List Event → List CostRow
  | _, [] => []
  | rows, .insert row :: events => removed cutoff (rows ++ [row]) events
  | rows, .attempt committed :: events =>
    if committed then
      (match cutoff with
        | none => []
        | some cutoff => rows.filter fun row => row.created_at < cutoff) ++ removed cutoff (delete_older_than cutoff rows) events
    else removed cutoff rows events

/-- The cost of the rows that are counted. -/
def weigh (keep : CostRow → Bool) (rows : List CostRow) : Nat := ((rows.filter keep).map CostRow.cost_usd).sum

section
variable (keep : CostRow → Bool)

theorem weigh_append (rows more : List CostRow) : weigh keep (rows ++ more) = weigh keep rows + weigh keep more := by
  rw [weigh,List.filter_append,List.map_append,List.sum_append]
  rfl

theorem weigh_cons (row : CostRow) (rows : List CostRow) :
    weigh keep (row :: rows) = (if keep row then row.cost_usd else 0) + weigh keep rows := by
  unfold weigh
  by_cases kept : keep row = true
  · rw [List.filter_cons_of_pos kept,if_pos kept,List.map_cons,List.sum_cons]
  · rw [List.filter_cons_of_neg kept,if_neg kept,Nat.zero_add]

theorem weigh_split (old : CostRow → Bool) (rows : List CostRow) :
    weigh keep rows = weigh keep (rows.filter old) + weigh keep (rows.filter fun row => !old row) := by
  induction rows with
  | nil => rfl
  | cons row rows ih =>
    cases gone : old row with
    | true =>
      rw [List.filter_cons_of_pos gone,List.filter_cons_of_neg (by simp [gone]),weigh_cons,weigh_cons,ih]
      omega
    | false =>
      rw [List.filter_cons_of_neg (by simp [gone]),List.filter_cons_of_pos (by simp [gone]),weigh_cons,weigh_cons,ih]
      omega

theorem weigh_after (cutoff : Option Int) (rows : List CostRow) (events : List Event) :
    weigh keep (rows ++ inserted events) = weigh keep (after cutoff rows events) + weigh keep (removed cutoff rows events) := by
  induction events generalizing rows with
  | nil =>
    show weigh keep (rows ++ []) = weigh keep rows + weigh keep []
    rw [weigh_append]
  | cons event events ih =>
    cases event with
    | insert row =>
      have step := ih (rows ++ [row])
      rw [List.append_assoc] at step
      exact step
    | attempt committed =>
      cases committed with
      | false => exact ih rows
      | true =>
        cases cutoff with
        | none => exact ih rows
        | some cutoff =>
          have step := ih (delete_older_than (some cutoff) rows)
          have split := weigh_split keep (fun row => row.created_at < cutoff) rows
          show weigh keep (rows ++ inserted events) =
            weigh keep (after (some cutoff) (delete_older_than (some cutoff) rows) events) +
              weigh keep ((rows.filter fun row => row.created_at < cutoff) ++
                removed (some cutoff) (delete_older_than (some cutoff) rows) events)
          rw [weigh_append] at step ⊢
          rw [weigh_append,split]
          rw [delete_older_than] at step ⊢
          omega

theorem weigh_eq_zero_iff (rows : List CostRow) : weigh keep rows = 0 ↔ ∀ row ∈ rows, keep row = true → row.cost_usd = 0 := by
  rw [weigh,List.sum_eq_zero_iff_forall_eq_nat]
  constructor
  · intro zero row member kept
    exact zero _ (List.mem_map_of_mem (List.mem_filter.mpr ⟨member,kept⟩))
  · intro zero cost member
    obtain ⟨row,found,rfl⟩ := List.mem_map.mp member
    obtain ⟨present,kept⟩ := List.mem_filter.mp found
    exact zero row present kept

end

/-- A removed row is older than the cutoff, and in the table before a deletion that commits. -/
theorem mem_removed (cut : Int) (rows : List CostRow) (events : List Event) (row : CostRow) :
    row ∈ removed (some cut) rows events ↔
      row.created_at < cut ∧ ∃ front back, events = front ++ .attempt true :: back ∧ row ∈ rows ++ inserted front := by
  induction events generalizing rows with
  | nil =>
    constructor
    · intro member
      cases member
    · rintro ⟨-,front,back,split,-⟩
      simp at split
  | cons event events ih =>
    cases event with
    | insert new =>
      refine (ih (rows ++ [new])).trans (and_congr_right fun _ => ?_)
      constructor
      · rintro ⟨front,back,rfl,member⟩
        refine ⟨.insert new :: front,back,rfl,?_⟩
        show row ∈ rows ++ new :: inserted front
        rw [List.append_assoc] at member
        exact member
      · rintro ⟨front,back,split,member⟩
        cases front with
        | nil => cases split
        | cons first front =>
          obtain ⟨rfl,rest⟩ := List.cons.inj split
          refine ⟨front,back,rest,?_⟩
          rw [List.append_assoc]
          exact member
    | attempt committed =>
      cases committed with
      | false =>
        refine (ih rows).trans (and_congr_right fun _ => ?_)
        constructor
        · rintro ⟨front,back,rfl,member⟩
          exact ⟨.attempt false :: front,back,rfl,member⟩
        · rintro ⟨front,back,split,member⟩
          cases front with
          | nil => cases split
          | cons first front =>
            obtain ⟨rfl,rest⟩ := List.cons.inj split
            exact ⟨front,back,rest,member⟩
      | true =>
        show row ∈ (rows.filter fun row => row.created_at < cut) ++ removed (some cut) (delete_older_than (some cut) rows) events ↔ _
        rw [List.mem_append,ih,List.mem_filter,decide_eq_true_eq]
        constructor
        · rintro (⟨member,old⟩ | ⟨old,front,back,rfl,member⟩)
          · exact ⟨old,[],events,rfl,List.mem_append_left _ member⟩
          · refine ⟨old,.attempt true :: front,back,rfl,?_⟩
            show row ∈ rows ++ inserted front
            obtain kept | later := List.mem_append.mp member
            · exact List.mem_append_left _ (List.mem_of_mem_filter kept)
            · exact List.mem_append_right _ later
        · rintro ⟨old,front,back,split,member⟩
          cases front with
          | nil =>
            obtain present | impossible := List.mem_append.mp member
            · exact Or.inl ⟨present,old⟩
            · cases impossible
          | cons first front =>
            obtain ⟨rfl,rest⟩ := List.cons.inj split
            obtain present | later := List.mem_append.mp member
            · exact Or.inl ⟨present,old⟩
            · exact Or.inr ⟨old,front,back,rest,List.mem_append_right _ later⟩

theorem removed_none (rows : List CostRow) (events : List Event) : removed none rows events = [] := by
  induction events generalizing rows with
  | nil => rfl
  | cons event events ih =>
    cases event with
    | insert row => exact ih _
    | attempt committed =>
      cases committed with
      | false => exact ih _
      | true => exact ih _

theorem same_total (rows others : List CostRow) :
    same (total rows) (total others) ↔ (rows.map CostRow.cost_usd).sum = (others.map CostRow.cost_usd).sum := by
  have worth : ∀ rows : List CostRow, ∃ exponent : Int, (exponent = 0 ∧ (rows.map CostRow.cost_usd).sum = 0 ∨ exponent = -6) ∧
      total rows = ⟨((rows.map CostRow.cost_usd).sum : Nat),exponent⟩ := by
    intro rows
    by_cases empty : rows = []
    · rw [total,if_pos empty,empty]
      exact ⟨0,Or.inl ⟨rfl,rfl⟩,rfl⟩
    · rw [total,if_neg empty]
      exact ⟨-6,Or.inr rfl,rfl⟩
  obtain ⟨exponent,left,equal⟩ := worth rows
  obtain ⟨exponent',right,equal'⟩ := worth others
  rw [equal,equal',same,Decimal.le,Decimal.le,decide_eq_true_eq,decide_eq_true_eq]
  generalize (rows.map CostRow.cost_usd).sum = m at left ⊢
  generalize (others.map CostRow.cost_usd).sum = n at right ⊢
  obtain ⟨rfl,rfl⟩ | rfl := left
  · obtain ⟨rfl,rfl⟩ | rfl := right
    · simp
    · simp
      omega
  · obtain ⟨rfl,rfl⟩ | rfl := right
    · simp
    · simp
      omega

theorem interval_week : interval_length (interval_str WEEKLY_INTERVAL) = 7 * DAY := by decide

theorem interval_month : interval_length (interval_str MONTHLY_INTERVAL) = 30 * DAY := by decide

section
variable (s : Settings) (run : Run) (rows : List CostRow) (now : Int)

theorem same_after (query : UsageQuery) :
    same (total ((after (cutoff s run) rows run.events).filter (counted now query)))
        (total ((rows ++ inserted run.events).filter (counted now query))) ↔
      ∀ row ∈ removed (cutoff s run) rows run.events, counted now query row = true → row.cost_usd = 0 := by
  have split := weigh_after (counted now query) (cutoff s run) rows run.events
  rw [← weigh_eq_zero_iff,same_total]
  unfold weigh at split ⊢
  omega

theorem spared_iff : Spared s run rows now ↔
    ∀ row ∈ removed (cutoff s run) rows run.events, row.cost_tag = "production" → now - 30 * DAY ≤ row.created_at → row.cost_usd = 0 := by
  unfold Spared
  cases found : cutoff s run with
  | none =>
    rw [removed_none]
    simp
  | some cut =>
    constructor
    · intro spared row member
      obtain ⟨old,front,back,split,present⟩ := (mem_removed ..).mp member
      exact spared cut rfl front back split row present old
    · intro spared cut' same front back split row present old
      obtain rfl := Option.some.inj same
      exact spared row ((mem_removed ..).mpr ⟨old,front,back,split,present⟩)

def interval_of : UsageQuery → String
  | .dept _ interval => interval
  | .user _ interval _ => interval

theorem counted_window {query : UsageQuery} {row : CostRow} (short : interval_length (interval_of query) ≤ 30 * DAY)
    (here : counted now query row = true) : row.cost_tag = "production" ∧ now - 30 * DAY ≤ row.created_at := by
  cases query with
  | dept dept_id interval =>
    simp only [counted,Bool.and_eq_true,decide_eq_true_eq] at here
    obtain ⟨⟨-,production⟩,recent⟩ := here
    simp only [interval_of] at short
    exact ⟨production,by omega⟩
  | user dept_id interval user_id =>
    simp only [counted,Bool.and_eq_true,decide_eq_true_eq] at here
    obtain ⟨⟨⟨-,production⟩,-⟩,recent⟩ := here
    simp only [interval_of] at short
    exact ⟨production,by omega⟩

theorem same_refl (d : Decimal) : same d d := by simp [same,Decimal.le]

variable {s run rows now}

theorem kept_of_spared (spared : Spared s run rows now) (dept_id : String) (user_id : Option String) :
    SameUsage (usage_at (after (cutoff s run) rows run.events) now dept_id user_id)
      (usage_at (rows ++ inserted run.events) now dept_id user_id) := by
  have cheap := (spared_iff s run rows now).mp spared
  have each : ∀ query : UsageQuery, interval_length (interval_of query) ≤ 30 * DAY →
      same (total ((after (cutoff s run) rows run.events).filter (counted now query)))
        (total ((rows ++ inserted run.events).filter (counted now query))) := by
    intro query short
    rw [same_after]
    intro row member here
    obtain ⟨production,recent⟩ := counted_window now short here
    exact cheap row member production recent
  have week : interval_length (interval_str WEEKLY_INTERVAL) ≤ 30 * DAY := by
    rw [interval_week]
    decide
  have month : interval_length (interval_str MONTHLY_INTERVAL) ≤ 30 * DAY := by rw [interval_month]
  cases user_id with
  | none =>
    exact ⟨each (.dept dept_id _) week,same_refl _,each (.dept dept_id _) month,same_refl _⟩
  | some user =>
    exact ⟨each (.dept dept_id _) week,each (.user dept_id _ user) week,each (.dept dept_id _) month,each (.user dept_id _ user) month⟩

theorem spared_of_kept (kept : UsageKept s run rows now) : Spared s run rows now := by
  rw [spared_iff]
  intro row member production recent
  obtain ⟨-,-,monthly,-⟩ := kept row.dept_id none
  have cheap := (same_after s run rows now (.dept row.dept_id (interval_str MONTHLY_INTERVAL))).mp monthly row member
  apply cheap
  simp only [counted,interval_month,Bool.and_eq_true,decide_eq_true_eq]
  exact ⟨⟨trivial,production⟩,recent⟩

end

/-- The sums right after a run are those without it if and only if no deletion finds a
    production row of the last thirty days that costs something. -/
theorem usage_kept_iff (s : Settings) (run : Run) (rows : List CostRow) (now : Int) :
    UsageKept s run rows now ↔ Spared s run rows now :=
  ⟨spared_of_kept,fun spared dept_id user_id => kept_of_spared spared dept_id user_id⟩

def week_setting : Settings := ⟨.unwired,some "7",.unwired⟩

/-- The first of January 1970, at midnight. -/
def week_run : Run where
  now := ⟨719162 * DAY,some 0,by decide⟩
  utc := rfl
  archived := true
  events := [.attempt true]

/-- A cost of a dollar, ten days before. -/
def old_cost : CostRow := ⟨"payments",none,"production",1000000,719152 * DAY⟩

/-- A retention of a week takes a dollar out of the monthly sum. -/
theorem week_frees : ¬∀ (s : Settings) (run : Run) (rows : List CostRow) (now : Int),
    run.now.instant ≤ now → UsageKept s run rows now := by
  intro always
  have kept := always week_setting week_run [old_cost] week_run.now.instant (le_refl _)
  have spared := (usage_kept_iff ..).mp kept
  have cut : cutoff week_setting week_run = some (719155 * DAY) := by decide
  have free := spared _ cut [] [] rfl old_cost (List.mem_singleton.mpr rfl) (by decide) rfl (by decide)
  exact absurd free (by decide)

end Automation.Retention
