import Automation.Effects
import Automation.PyText
import Mathlib.Data.List.Sort
import Mathlib.Data.Rat.Floor

/-!
The output actions of an issue: entries in several wire shapes, the cap of a
batch, and the actions one after the other in the order of their indices.

An entry that is not well-formed is left out with a warning, and the cap takes
the first entries of the list, not those with the lowest indices; the result
speaks of the others only. Every entry is accounted for exactly where all are
well-formed and fit into one batch (`execute_output_actions_accounts_iff`).
-/
namespace Automation.ActionBatch
open Automation.Effects

/-- `MAX_ACTIONS_PER_BATCH`. -/
def MAX_ACTIONS_PER_BATCH : Nat := 20

inductive ActionType where
  | JIRA_COMMENT
  | JIRA_ATTACHMENT
  | BITBUCKET_COMMIT
  | BITBUCKET_PR
  | CONFLUENCE_PAGE
  | JIRA_TRANSITION
  deriving DecidableEq

def ActionType.value : ActionType → String
  | .JIRA_COMMENT => "jira_comment"
  | .JIRA_ATTACHMENT => "jira_attachment"
  | .BITBUCKET_COMMIT => "bitbucket_commit"
  | .BITBUCKET_PR => "bitbucket_pr"
  | .CONFLUENCE_PAGE => "confluence_page"
  | .JIRA_TRANSITION => "jira_transition"

/-- `ActionType(value)`; `none` where it raises. -/
def ActionType.of_value (value : String) : Option ActionType :=
  [ActionType.JIRA_COMMENT,.JIRA_ATTACHMENT,.BITBUCKET_COMMIT,.BITBUCKET_PR,.CONFLUENCE_PAGE,.JIRA_TRANSITION].find?
    fun t => t.value = value

inductive Float where
  | finite (value : Rat)
  | infinite (negative : Bool)
  | nan

/-- What an entry is made of: JSON, and members of the enumeration where the
    activity is called in its own process. A tuple is a list. -/
inductive Value where
  | none
  | bool (b : Bool)
  | int (n : Int)
  | float (x : Float)
  | str (s : String)
  | member (t : ActionType)
  | list (items : List Value)
  | dict (fields : List (String × Value))

abbrev Fields := List (String × Value)

namespace Value

/-- `bool(value)`. -/
def truthy : Value → Bool
  | .none => false
  | .bool b => b
  | .int n => n != 0
  | .float (.finite x) => x != 0
  | .float _ => true
  | .str s => s != ""
  | .member _ => true
  | .list items => !items.isEmpty
  | .dict fields => !fields.isEmpty

/-- `left or right`. -/
def orElse (left right : Value) : Value := if left.truthy then left else right

/-- The characters of a value for which `isinstance(value,str)` holds. -/
def text? : Value → Option String
  | .str s => some s
  | .member t => some t.value
  | _ => Option.none

/-- `str(value)`; `repr` writes floats, lists, dicts and members. -/
def pyStr (repr : Value → String) : Value → String
  | .none => "None"
  | .bool true => "True"
  | .bool false => "False"
  | .int n => toString n
  | .str s => s
  | value => repr value

end Value

/-- `fields.get(key)`. -/
def Fields.get (fields : Fields) (key : String) : Value := (fields.lookup key).getD .none

/-- `fields.get(key,default)`. -/
def Fields.getOr (fields : Fields) (key : String) (default : Value) : Value := (fields.lookup key).getD default

def Fields.has (fields : Fields) (key : String) : Bool := (fields.lookup key).isSome

/-- `fields[key] = value`. -/
def Fields.set (fields : Fields) (key : String) (value : Value) : Fields :=
  if fields.has key then fields.map fun field => if field.1 = key then (key,value) else field else fields ++ [(key,value)]

/-- `fields.pop(key,None)`, without its value. -/
def Fields.erase (fields : Fields) (key : String) : Fields := fields.filter fun field => field.1 ≠ key

/-! ### The entries of a batch -/

structure OutputAction where
  type : ActionType
  params : Fields
  index : Int

/-- An entry of `ExecutionBatchInput.actions`: a decoded dataclass, whose type may
    still be what the converter made of the enumeration, or any value. -/
inductive RawAction where
  | action (type : Value) (params : Fields) (index : Int)
  | value (v : Value)

/-- The aliases of the action types. -/
def aliases (candidate : String) : String :=
  match candidate with
  | "bitbucket_create_pr" => ActionType.BITBUCKET_PR.value
  | "confluence_create_page" => ActionType.CONFLUENCE_PAGE.value
  | "confluence_update_page" => ActionType.CONFLUENCE_PAGE.value
  | other => other

/-- The type that a candidate names; what `str` makes of a value that is no
    string (`None`, `ActionType.JIRA_COMMENT`, `['…']`) names none. -/
def named : Value → Option ActionType
  | .str s => ActionType.of_value (aliases s)
  | _ => none

/-- `"".join(raw)` where all items are strings and there is one. -/
def joined (items : List Value) : Option String :=
  if items.isEmpty then none else (items.mapM Value.text?).map fun texts => String.join texts

mutual
/-- `_coerce_action_type`. -/
def coerce_action_type : Value → Option ActionType
  | .member t => some t
  | .str s => named (.str s)
  | .dict fields =>
    named (((Fields.get fields "value").orElse (Fields.get fields "type")).orElse (Fields.get fields "name"))
  | .list items =>
    match (joined items).bind fun text => named (.str text) with
    | some t => some t
    | none => coerce_items items
  | _ => none

/-- The first item of a list that names a type. -/
def coerce_items : List Value → Option ActionType
  | [] => none
  | item :: rest =>
    match coerce_action_type item with
    | some t => some t
    | none => coerce_items rest
end

/-- What `int(value)` does: a number, a `TypeError` or `ValueError`, or the
    `OverflowError` of an infinite float. -/
inductive IntOf where
  | number (n : Int)
  | refused
  | overflow

def int_of : Value → IntOf
  | .bool b => .number b.toInt
  | .int n => .number n
  -- `int` drops the fraction
  | .float (.finite x) => .number (if 0 ≤ x then x.floor else x.ceil)
  | .float (.infinite _) => .overflow
  | .str s =>
    match PyText.pyInt s with
    | some n => .number n
    | none => .refused
  | _ => .refused

/-- The exceptions that leave the activity. -/
inductive Raised where
  | OverflowError
  | RuntimeError (message : String)

/-- `_normalise_action`. -/
def normalise_action (raw : RawAction) (fallback_index : Nat) : Except Raised (Option OutputAction) :=
  match raw with
  | .action type params index =>
    match coerce_action_type type with
    | none => .ok none
    | some action_type => .ok (some { type := action_type,params,index })
  | .value (.dict fields) =>
    match coerce_action_type (Fields.get fields "type") with
    | none => .ok none
    | some action_type =>
      let params := match Fields.get fields "params" with
        | .dict params => params
        | _ => []
      match int_of (Fields.getOr fields "index" (.int fallback_index)) with
      | .number n => .ok (some { type := action_type,params,index := n })
      | .refused => .ok (some { type := action_type,params,index := fallback_index })
      | .overflow => .error .OverflowError
  | .value _ => .ok none

/-! ### The handlers -/

/-- How a call, or the wait for it, ends otherwise than by a reply. -/
inductive Failure where
  | TimeoutError
  | Exception (message : String)

inductive Call where
  | call_tool (tool_name : String) (params : Fields) (dept_id : String)
  | now

/-- A tool replies or fails; every call has `ACTION_TIMEOUT_SECONDS`, and so has the
    wait for a handler, which ends during one of its calls. -/
@[reducible] def calls : Signature where
  Cmd := Call
  Res
    | .call_tool .. => Except Failure Value
    | .now => Nat

/-- `caller.call_tool`. -/
def call_tool (tool_name : String) (params : Fields) (dept_id : String) : Prog calls Failure Value := do
  match ← command (S := calls) (.call_tool tool_name params dept_id) with
  | .ok reply => return reply
  | .error failure => .raise failure

/-- `_drop_control_params`. -/
def drop_control_params (params : Fields) (keep_issue_key : Bool) : Fields :=
  params.filter fun field => field.1 ≠ "dept_id" && (keep_issue_key || field.1 ≠ "issue_key")

/-- `if key not in fields and alternative in fields: fields[key] = fields[alternative]`. -/
def fill (fields : Fields) (key alternative : String) : Fields :=
  if !fields.has key && fields.has alternative then fields.set key (fields.get alternative) else fields

/-- `_handle_jira_comment`. -/
def handle_jira_comment (params : Fields) (dept_id : String) : Prog calls Failure Value :=
  call_tool "jira_add_comment" (drop_control_params params true) dept_id

/-- `_handle_jira_attachment`. -/
def handle_jira_attachment (params : Fields) (dept_id : String) : Prog calls Failure Value :=
  let normalized := drop_control_params params true
  if normalized.has "bucket" && normalized.has "key" then call_tool "upload_artifact_to_jira" normalized dept_id
  else call_tool "jira_add_attachment" normalized dept_id

/-- `_handle_bitbucket_pr`. -/
def handle_bitbucket_pr (params : Fields) (dept_id : String) : Prog calls Failure Value :=
  let normalized := drop_control_params params false
  let normalized := fill normalized "from_branch" "source"
  let normalized := fill normalized "to_branch" "target"
  call_tool "bitbucket_create_pr" normalized dept_id

/-- `_handle_bitbucket_commit`. -/
def handle_bitbucket_commit (params : Fields) (dept_id : String) : Prog calls Failure Value :=
  let normalized := drop_control_params params false
  let normalized := fill normalized "file_path" "path"
  let normalized := fill normalized "message" "commit_message"
  let normalized := fill normalized "branch" "target_branch"
  call_tool "bitbucket_put_file_content" normalized dept_id

/-- `_handle_confluence_page`. -/
def handle_confluence_page (params : Fields) (dept_id : String) : Prog calls Failure Value :=
  let normalized := drop_control_params params false
  let tool_name := if (normalized.get "page_id").truthy then "confluence_update_page" else "confluence_create_page"
  call_tool tool_name normalized dept_id

/-- `_LOGICAL_STATUS_ALIASES.get`. -/
def LOGICAL_STATUS_ALIASES (status : String) : List String :=
  match status with
  | "todo" => ["To Do","Yapılacaklar","Open","Backlog"]
  | "in_progress" => ["In Progress","Devam Ediyor","Başladı"]
  | "review" => ["In Review","Review","İncelemede","Code Review"]
  | "done" => ["Done","Tamam","Tamamlandı","Closed","Resolved"]
  | "stale" => ["Stale","Bayat","On Hold","Beklemede"]
  | "needs_info" => ["Needs Info","Bilgi Bekleniyor","Waiting for support"]
  | _ => []

/-- `_candidate_status_names`. -/
def candidate_status_names (target_status : String) : List String :=
  let raw := PyText.strip target_status
  let candidates := if raw = "" then [] else [raw]
  candidates ++ (LOGICAL_STATUS_ALIASES (PyText.lower raw)).filter fun name => !candidates.contains name

/-- What the worker process holds: the registered caller, and how Python writes values. -/
structure Worker where
  mcp_caller : Bool
  repr : Value → String

section
variable (w : Worker)

/-- `_match_transition_id`; a later transition of a name replaces an earlier one. -/
def match_transition_id (transitions : List Fields) (target_status : String) : Option String :=
  let by_name := transitions.filterMap fun entry =>
    let name := PyText.lower (PyText.strip ((entry.getOr "name" (.str "")).pyStr w.repr))
    match entry.get "id" with
    | .none => none
    | tid => if name = "" then none else some (name,tid.pyStr w.repr)
  (candidate_status_names target_status).findSome? fun candidate =>
    by_name.reverse.lookup (PyText.lower (PyText.strip candidate))

def dicts (items : List Value) : List Fields :=
  items.filterMap fun item => match item with
    | .dict fields => some fields
    | _ => none

/-- `_coerce_transitions`. -/
def coerce_transitions : Value → List Fields
  | .list items => dicts items
  | .dict fields =>
    (["transitions","result","values"].findSome? fun key => match Fields.get fields key with
      | .list items => some (dicts items)
      | _ => none).getD []
  | _ => []

/-- `_resolve_transition_id`. -/
def resolve_transition_id (issue_key target_status dept_id : String) : Prog calls Failure (Option String) := do
  let result ← call_tool "jira_get_transitions" [("issue_key",.str issue_key)] dept_id
  return match_transition_id w (coerce_transitions result) target_status

/-- `_handle_jira_transition`. -/
def handle_jira_transition (params : Fields) (dept_id : String) : Prog calls Failure Value := do
  let call_params := drop_control_params params true
  let issue_key := (call_params.getOr "issue_key" (.str "")).pyStr w.repr
  if (call_params.get "transition_id").truthy then
    call_tool "jira_transition_issue" ((call_params.erase "target_status").erase "status") dept_id
  else
    let target_status :=
      ((call_params.getOr "target_status" (.str "")).orElse (call_params.getOr "status" (.str ""))).pyStr w.repr
    match ← resolve_transition_id w issue_key target_status dept_id with
    | none => return .dict [("skipped",.bool true),("reason",.str "no_matching_transition")]
    | some transition_id =>
      let call_params := call_params.set "transition_id" (.str transition_id)
      call_tool "jira_transition_issue" ((call_params.erase "target_status").erase "status") dept_id

/-- `_ACTION_HANDLERS`: every type has a handler, so no action is skipped for want of one. -/
def ACTION_HANDLERS : ActionType → Fields → String → Prog calls Failure Value
  | .JIRA_COMMENT => handle_jira_comment
  | .JIRA_ATTACHMENT => handle_jira_attachment
  | .BITBUCKET_COMMIT => handle_bitbucket_commit
  | .BITBUCKET_PR => handle_bitbucket_pr
  | .CONFLUENCE_PAGE => handle_confluence_page
  | .JIRA_TRANSITION => handle_jira_transition w

/-! ### The activity -/

inductive Status where
  | success
  | failed
  | skipped
  | timeout
  deriving DecidableEq

structure ActionResult where
  action_type : ActionType
  index : Int
  status : Status
  error : Option String
  timestamp : Nat
  deriving DecidableEq

def action_label (action : OutputAction) : String :=
  "Action " ++ action.type.value ++ " at index " ++ toString action.index

/-- `_execute_single_action`. -/
def execute_single_action {ε : Type} (action : OutputAction) (dept_id : String) : Prog calls ε ActionResult :=
  (do
    let _ ← ACTION_HANDLERS w action.type action.params dept_id
    let timestamp ← command (S := calls) .now
    return { action_type := action.type,index := action.index,status := .success,error := none,timestamp }
    : Prog calls Failure ActionResult).attempt fun
    | .TimeoutError => do
      let error := action_label action ++ " timed out after 30.0s"
      let timestamp ← command (S := calls) .now
      return { action_type := action.type,index := action.index,status := .timeout,error := some error,timestamp }
    | .Exception exc => do
      let error := action_label action ++ " failed: " ++ exc
      let timestamp ← command (S := calls) .now
      return { action_type := action.type,index := action.index,status := .failed,error := some error,timestamp }

/-- `_build_failure_comment`. -/
def build_failure_comment (failed_actions : List ActionResult) : String :=
  let lines := failed_actions.map fun result =>
    let status_label := if result.status = .timeout then "timeout" else "hata"
    let error := match result.error with
      | some text => if text = "" then "bilinmeyen hata" else text
      | none => "bilinmeyen hata"
    "• [" ++ toString result.index ++ "] " ++ result.action_type.value ++ " - " ++ status_label ++ ": " ++ error
  String.intercalate "\n" (" Aşağıdaki output action'lar başarısız oldu:\n" :: lines)

structure ExecutionBatchInput where
  actions : List RawAction
  issue_key : String
  dept_id : String

structure ExecutionBatchResult where
  results : List ActionResult
  all_succeeded : Bool
  failed_actions : List ActionResult
  deriving DecidableEq

/-- The loop over the entries with their positions. -/
def normalised : List (RawAction × Nat) → Except Raised (List OutputAction)
  | [] => .ok []
  | (raw_action,fallback_index) :: rest =>
    match normalise_action raw_action fallback_index with
    | .error raised => .error raised
    -- a malformed action is logged and left out
    | .ok none => normalised rest
    | .ok (some action) => (normalised rest).map fun actions => action :: actions

/-- The loop over the sorted actions. -/
def execute_all {ε : Type} (dept_id : String) : List OutputAction → Prog calls ε (List ActionResult)
  | [] => return []
  | action :: rest => do
    let result ← execute_single_action w action dept_id
    let results ← execute_all dept_id rest
    return result :: results

/-- The comment with the failed actions; its own failure is logged. -/
def post_failure_summary {ε : Type} (input : ExecutionBatchInput) (failed_actions : List ActionResult) : Prog calls ε Unit :=
  if failed_actions.isEmpty then return ()
  else
    (do
      let body := build_failure_comment failed_actions
      let _ ← call_tool "jira_add_comment" [("issue_key",.str input.issue_key),("body",.str body)] input.dept_id
      return ()).attempt fun _ => return ()

/-- The actions of a batch in the order of their execution. -/
def sorted_actions (normalised_actions : List OutputAction) : List OutputAction :=
  (normalised_actions.take MAX_ACTIONS_PER_BATCH).insertionSort fun a b => a.index ≤ b.index

/-- `execute_output_actions`; a list of `None` counts as the empty list. -/
def execute_output_actions (input : ExecutionBatchInput) : Prog calls Raised ExecutionBatchResult :=
  if input.actions.isEmpty then return { results := [],all_succeeded := true,failed_actions := [] }
  else
    match normalised input.actions.zipIdx with
    | .error raised => .raise raised
    | .ok normalised_actions =>
      if !w.mcp_caller then
        .raise (.RuntimeError ("output_actions activity: MCP caller not initialised; " ++
          "call set_mcp_caller during worker startup."))
      else do
        let results ← execute_all w input.dept_id (sorted_actions normalised_actions)
        let failed_actions := results.filter fun r => r.status ≠ .success
        post_failure_summary input failed_actions
        return { results,all_succeeded := failed_actions.length = 0,failed_actions }

end

/-! ### What a run executes -/

/-- One execution: what the handler of an action came to, and when. -/
structure Execution where
  action : OutputAction
  outcome : Except Failure Value
  timestamp : Nat

def Execution.completed (run : Execution) : Prop := ∃ reply, run.outcome = .ok reply

def report (run : Execution) : ActionResult :=
  let result (status : Status) (error : Option String) : ActionResult :=
    { action_type := run.action.type,index := run.action.index,status,error,timestamp := run.timestamp }
  match run.outcome with
  | .ok _ => result .success none
  | .error .TimeoutError => result .timeout (some (action_label run.action ++ " timed out after 30.0s"))
  | .error (.Exception exc) => result .failed (some (action_label run.action ++ " failed: " ++ exc))

theorem report_success (run : Execution) : (report run).status = .success ↔ run.completed := by
  cases outcome : run.outcome with
  | ok reply => simp [report,Execution.completed,outcome]
  | error failure =>
    cases failure with
    | TimeoutError => simp [report,Execution.completed,outcome]
    | Exception exc => simp [report,Execution.completed,outcome]

section
variable {σ ε : Type} (w : Worker) (H : Handler calls σ)

/-- The handler of an action run from a state, and the clock read after it. -/
def execute (dept_id : String) (action : OutputAction) (s : σ) : Execution × σ :=
  let ended := exec H (ACTION_HANDLERS w action.type action.params dept_id) s
  ({ action,outcome := ended.1,timestamp := (H .now ended.2).1 },(H .now ended.2).2)

/-- The actions executed one after the other. -/
def executions (dept_id : String) : List OutputAction → σ → List Execution × σ
  | [], s => ([],s)
  | action :: rest, s =>
    let first := execute w H dept_id action s
    let others := executions dept_id rest first.2
    (first.1 :: others.1,others.2)

/-- The state after the comment with the failed actions. -/
def summarised (input : ExecutionBatchInput) (failed_actions : List ActionResult) (s : σ) : σ :=
  (exec H (post_failure_summary input failed_actions : Prog calls Empty Unit) s).2

theorem executions_actions (dept_id : String) (actions : List OutputAction) (s : σ) :
    (executions w H dept_id actions s).1.map Execution.action = actions := by
  induction actions generalizing s with
  | nil => rfl
  | cons action rest ih => simp [executions,execute,ih]

theorem exec_execute_single_action (dept_id : String) (action : OutputAction) (s : σ) :
    exec H (execute_single_action w action dept_id : Prog calls ε ActionResult) s =
      (.ok (report (execute w H dept_id action s).1),(execute w H dept_id action s).2) := by
  unfold execute_single_action execute
  rw [exec_attempt,exec_bind]
  cases ended : exec H (ACTION_HANDLERS w action.type action.params dept_id) s with
  | mk outcome t =>
    cases outcome with
    | ok reply => rfl
    | error failure =>
      cases failure with
      | TimeoutError => rfl
      | Exception exc => rfl

theorem exec_execute_all (dept_id : String) (actions : List OutputAction) (s : σ) :
    exec H (execute_all w dept_id actions : Prog calls ε (List ActionResult)) s =
      (.ok ((executions w H dept_id actions s).1.map report),(executions w H dept_id actions s).2) := by
  induction actions generalizing s with
  | nil => rfl
  | cons action rest ih =>
    rw [execute_all,exec_bind,exec_execute_single_action]
    dsimp only
    rw [exec_bind,ih]
    rfl

theorem exec_post_failure_summary (input : ExecutionBatchInput) (failed_actions : List ActionResult) (s : σ) :
    exec H (post_failure_summary input failed_actions : Prog calls ε Unit) s =
      (.ok (),summarised H input failed_actions s) := by
  unfold summarised post_failure_summary
  by_cases none_failed : failed_actions.isEmpty
  · simp [none_failed]
  · simp only [if_neg none_failed,exec_attempt]
    cases exec H (do
      let body := build_failure_comment failed_actions
      let _ ← call_tool "jira_add_comment" [("issue_key",.str input.issue_key),("body",.str body)] input.dept_id
      return ()) s with
    | mk outcome t =>
      cases outcome with
      | ok _ => rfl
      | error failure => rfl

/-- What the activity returns once its entries are decoded. -/
def batch_result (runs : List Execution) : ExecutionBatchResult :=
  let failed_actions := (runs.map report).filter fun r => r.status ≠ .success
  { results := runs.map report,all_succeeded := failed_actions.length = 0,failed_actions }

theorem batch_succeeded (runs : List Execution) :
    (batch_result runs).all_succeeded = true ↔ ∀ run ∈ runs, run.completed := by
  simp only [batch_result,decide_eq_true_eq,List.length_eq_zero_iff,List.filter_eq_nil_iff,List.mem_map]
  constructor
  · intro none_failed run member
    have status := none_failed (report run) ⟨run,member,rfl⟩
    exact (report_success run).mp (by simpa using status)
  · rintro completed r ⟨run,member,rfl⟩
    simpa using (report_success run).mpr (completed run member)

/-- The executions of a batch, of the first actions in the order of their indices. -/
def batch_runs (input : ExecutionBatchInput) (normalised_actions : List OutputAction) (s : σ) : List Execution × σ :=
  executions w H input.dept_id (sorted_actions normalised_actions) s

variable {input : ExecutionBatchInput}

/-- The activity with entries executes the first actions in order, and comments. -/
theorem exec_execute_output_actions {normalised_actions : List OutputAction}
    (filled : input.actions ≠ []) (decoded : normalised input.actions.zipIdx = .ok normalised_actions)
    (registered : w.mcp_caller = true) (s : σ) :
    exec H (execute_output_actions w input) s =
      (.ok (batch_result (batch_runs w H input normalised_actions s).1),
        summarised H input (batch_result (batch_runs w H input normalised_actions s).1).failed_actions
          (batch_runs w H input normalised_actions s).2) := by
  have entries : input.actions.isEmpty = false := by simpa using filled
  unfold execute_output_actions
  rw [entries,decoded]
  simp only [registered,Bool.not_true,Bool.false_eq_true,if_false]
  rw [exec_bind,exec_execute_all]
  dsimp only
  rw [exec_bind,exec_post_failure_summary]
  rfl

theorem exec_undecoded {raised : Raised} (filled : input.actions ≠ [])
    (undecoded : normalised input.actions.zipIdx = .error raised) (s : σ) :
    exec H (execute_output_actions w input) s = (.error raised,s) := by
  have entries : input.actions.isEmpty = false := by simpa using filled
  unfold execute_output_actions
  rw [entries,undecoded]
  rfl

theorem exec_unregistered (filled : input.actions ≠ []) (unregistered : w.mcp_caller = false)
    (s : σ) : ∃ raised, exec H (execute_output_actions w input) s = (.error raised,s) := by
  cases decoded : normalised input.actions.zipIdx with
  | error raised => exact ⟨raised,exec_undecoded w H filled decoded s⟩
  | ok normalised_actions =>
    have entries : input.actions.isEmpty = false := by simpa using filled
    unfold execute_output_actions
    rw [entries,decoded,unregistered]
    exact ⟨_,rfl⟩

end

/-! ### The entries that are well-formed -/

/-- An entry that names an action, and has no infinite index. -/
def RawAction.WellFormed : RawAction → Prop
  | .action type _ _ => coerce_action_type type ≠ none
  | .value (.dict fields) =>
    coerce_action_type (Fields.get fields "type") ≠ none ∧
      ∀ negative, fields.lookup "index" ≠ some (.float (.infinite negative))
  | .value _ => False

theorem overflow_iff (v : Value) : int_of v = .overflow ↔ ∃ negative, v = .float (.infinite negative) := by
  cases v with
  | float x =>
    cases x with
    | finite x => simp [int_of]
    | infinite negative => simp [int_of]
    | nan => simp [int_of]
  | str s => cases number : PyText.pyInt s <;> simp [int_of,number]
  | none => simp [int_of]
  | bool b => simp [int_of]
  | int n => simp [int_of]
  | member t => simp [int_of]
  | list items => simp [int_of]
  | dict fields => simp [int_of]

theorem wellFormed_iff (raw : RawAction) (i : Nat) : raw.WellFormed ↔ ∃ action, normalise_action raw i = .ok (some action) := by
  cases raw with
  | action type params index =>
    cases coerced : coerce_action_type type with
    | none => simp [RawAction.WellFormed,normalise_action,coerced]
    | some t => simp [RawAction.WellFormed,normalise_action,coerced]
  | value v =>
    cases v with
    | dict fields =>
      have overflows := overflow_iff (Fields.getOr fields "index" (.int i))
      have infinite : (∃ negative, Fields.getOr fields "index" (.int i) = .float (.infinite negative)) ↔
          ∃ negative, fields.lookup "index" = some (.float (.infinite negative)) := by
        cases stored : fields.lookup "index" with
        | none => simp [Fields.getOr,stored]
        | some index => simp [Fields.getOr,stored]
      rw [infinite] at overflows
      cases coerced : coerce_action_type (Fields.get fields "type") with
      | none => simp [RawAction.WellFormed,normalise_action,coerced]
      | some t =>
        cases parsed : int_of (Fields.getOr fields "index" (.int i)) with
        | overflow =>
          obtain ⟨negative,stored⟩ := overflows.mp parsed
          simp [RawAction.WellFormed,normalise_action,coerced,parsed,stored]
        | number n =>
          have finite : ¬∃ negative, fields.lookup "index" = some (.float (.infinite negative)) := fun found => by
            rw [overflows.mpr found] at parsed
            cases parsed
          simpa [RawAction.WellFormed,normalise_action,coerced,parsed] using finite
        | refused =>
          have finite : ¬∃ negative, fields.lookup "index" = some (.float (.infinite negative)) := fun found => by
            rw [overflows.mpr found] at parsed
            cases parsed
          simpa [RawAction.WellFormed,normalise_action,coerced,parsed] using finite
    | none => simp [RawAction.WellFormed,normalise_action]
    | bool b => simp [RawAction.WellFormed,normalise_action]
    | int n => simp [RawAction.WellFormed,normalise_action]
    | float x => simp [RawAction.WellFormed,normalise_action]
    | str s => simp [RawAction.WellFormed,normalise_action]
    | member t => simp [RawAction.WellFormed,normalise_action]
    | list items => simp [RawAction.WellFormed,normalise_action]

variable {actions : List OutputAction} {entries : List (RawAction × Nat)}

theorem normalised_placed
    (decoded : normalised entries = .ok actions) :
    ∃ placed : List (Nat × OutputAction), placed.map Prod.snd = actions ∧
      (placed.map Prod.fst).Sublist (entries.map Prod.snd) ∧
      ∀ p ∈ placed, ∃ raw, (raw,p.1) ∈ entries ∧ normalise_action raw p.1 = .ok (some p.2) := by
  induction entries generalizing actions with
  | nil =>
    cases decoded
    exact ⟨[],rfl,List.Sublist.refl _,fun p absurd_member => by cases absurd_member⟩
  | cons entry rest ih =>
    obtain ⟨raw,i⟩ := entry
    rw [normalised] at decoded
    cases first : normalise_action raw i with
    | error raised =>
      rw [first] at decoded
      cases decoded
    | ok action? =>
      rw [first] at decoded
      cases action? with
      | none =>
        obtain ⟨placed,same,positions,each⟩ := ih decoded
        refine ⟨placed,same,positions.cons _,?_⟩
        intro p member
        obtain ⟨raw',inside,named⟩ := each p member
        exact ⟨raw',List.mem_cons_of_mem _ inside,named⟩
      | some action =>
        cases others : normalised rest with
        | error raised =>
          simp only [others] at decoded
          cases decoded
        | ok later =>
          simp only [others] at decoded
          cases decoded
          obtain ⟨placed,same,positions,each⟩ := ih others
          refine ⟨(i,action) :: placed,by simp [same],positions.cons_cons i,?_⟩
          intro p member
          rcases List.mem_cons.mp member with rfl | member
          · exact ⟨raw,List.mem_cons_self,first⟩
          · obtain ⟨raw',inside,named⟩ := each p member
            exact ⟨raw',List.mem_cons_of_mem _ inside,named⟩

theorem normalised_wellFormed (formed : ∀ entry ∈ entries, entry.1.WellFormed) :
    ∃ actions, normalised entries = .ok actions ∧ actions.length = entries.length := by
  induction entries with
  | nil => exact ⟨[],rfl,rfl⟩
  | cons entry rest ih =>
    obtain ⟨raw,i⟩ := entry
    obtain ⟨here,later⟩ := List.forall_mem_cons.mp formed
    obtain ⟨action,named⟩ := (wellFormed_iff raw i).mp here
    obtain ⟨actions,decoded,length⟩ := ih later
    exact ⟨action :: actions,by rw [normalised,named,decoded]; rfl,by simp [length]⟩

theorem normalised_length
    (decoded : normalised entries = .ok actions) : actions.length ≤ entries.length := by
  obtain ⟨placed,rfl,positions,-⟩ := normalised_placed decoded
  simpa using positions.length_le

theorem wellFormed_of_length
    (decoded : normalised entries = .ok actions) (full : entries.length ≤ actions.length) :
    ∀ entry ∈ entries, entry.1.WellFormed := by
  induction entries generalizing actions with
  | nil => exact fun entry absurd_member => by cases absurd_member
  | cons entry rest ih =>
    obtain ⟨raw,i⟩ := entry
    rw [normalised] at decoded
    cases first : normalise_action raw i with
    | error raised =>
      rw [first] at decoded
      cases decoded
    | ok action? =>
      rw [first] at decoded
      cases action? with
      | none =>
        have short := normalised_length decoded
        rw [List.length_cons] at full
        omega
      | some action =>
        cases others : normalised rest with
        | error raised =>
          simp only [others] at decoded
          cases decoded
        | ok later =>
          simp only [others] at decoded
          cases decoded
          have rest_full : rest.length ≤ later.length := by simpa using full
          exact List.forall_mem_cons.mpr ⟨(wellFormed_iff raw i).mpr ⟨action,first⟩,ih others rest_full⟩

/-! ### The accounting -/

/-- The action of the entry at a position. -/
def entry_at (input : ExecutionBatchInput) (i : Nat) : Option OutputAction :=
  match input.actions[i]? with
  | none => none
  | some raw =>
    match normalise_action raw i with
    | .ok action => action
    | .error _ => none

section
variable {σ : Type} (w : Worker) (H : Handler calls σ)

/-- The activity executes the entries of `ran` one after the other, each at most once,
    reports each, and ends after the comment with those that failed. -/
structure Executes (input : ExecutionBatchInput) (s : σ) (ran : List (Nat × OutputAction)) (result : ExecutionBatchResult) :
    Prop where
  placed : ∀ p ∈ ran, entry_at input p.1 = some p.2
  once : (ran.map Prod.fst).Nodup
  ended : exec H (execute_output_actions w input) s =
    (.ok result,summarised H input result.failed_actions (executions w H input.dept_id (ran.map Prod.snd) s).2)
  reported : ((executions w H input.dept_id (ran.map Prod.snd) s).1.map report).Sublist result.results

structure Accounts (input : ExecutionBatchInput) (s : σ) (ran : List (Nat × OutputAction)) (result : ExecutionBatchResult) :
    Prop extends Executes w H input s ran result where
  succeeded : result.all_succeeded = true ↔
    (∀ i < input.actions.length, i ∈ ran.map Prod.fst) ∧
      ∀ run ∈ (executions w H input.dept_id (ran.map Prod.snd) s).1, run.completed
  one_each : result.results.length = input.actions.length
  ordered : ran.Pairwise fun p q => p.2.index ≤ q.2.index
  capped : ran.length ≤ 20
  lowest : ∀ i action, entry_at input i = some action → i ∉ ran.map Prod.fst → ∀ p ∈ ran, p.2.index ≤ action.index

/-- What the accounting takes: every entry names an action, all fit into one batch,
    and a caller is registered for those there are. -/
def Accountable (input : ExecutionBatchInput) : Prop :=
  (∀ raw ∈ input.actions, raw.WellFormed) ∧ input.actions.length ≤ 20 ∧ (input.actions = [] ∨ w.mcp_caller = true)

variable {input : ExecutionBatchInput}

theorem entry_at_zipIdx {raw : RawAction} {i : Nat} {action : OutputAction}
    (member : (raw,i) ∈ input.actions.zipIdx) (named : normalise_action raw i = .ok (some action)) :
    entry_at input i = some action := by
  have stored : input.actions[i]? = some raw := List.mem_zipIdx_iff_getElem?.mp member
  rw [entry_at,stored]
  simp only [named]

/-- The entries that are executed, with their positions, in the order of execution. -/
theorem sorted_placed {actions : List OutputAction}
    (decoded : normalised input.actions.zipIdx = .ok actions) :
    ∃ ran : List (Nat × OutputAction), ran.map Prod.snd = sorted_actions actions ∧ (ran.map Prod.fst).Nodup ∧
      (∀ p ∈ ran, entry_at input p.1 = some p.2) ∧ ran.Pairwise (fun p q => p.2.index ≤ q.2.index) := by
  obtain ⟨placed,rfl,positions,each⟩ := normalised_placed decoded
  have numbered : (input.actions.zipIdx.map Prod.snd).Nodup := by
    rw [List.zipIdx_map_snd]
    exact List.nodup_range'
  refine ⟨(placed.take MAX_ACTIONS_PER_BATCH).insertionSort fun p q => p.2.index ≤ q.2.index,?_,?_,?_,?_⟩
  · rw [sorted_actions,← List.map_take]
    exact List.map_insertionSort _ _ _ _ fun p _ q _ => Iff.rfl
  · have perm := List.perm_insertionSort (fun p q : Nat × OutputAction => p.2.index ≤ q.2.index)
      (placed.take MAX_ACTIONS_PER_BATCH)
    rw [(perm.map Prod.fst).nodup_iff]
    exact (numbered.sublist positions).sublist ((List.take_sublist _ _).map _)
  · intro p member
    rw [List.mem_insertionSort] at member
    obtain ⟨raw,inside,named⟩ := each p (List.mem_of_mem_take member)
    exact entry_at_zipIdx inside named
  · exact List.pairwise_insertionSort _ _

/-- Whatever is left out, what is executed is reported, in the order of the indices. -/
theorem executes_decoded {actions : List OutputAction} (filled : input.actions ≠ [])
    (decoded : normalised input.actions.zipIdx = .ok actions) (registered : w.mcp_caller = true) (s : σ) :
    ∃ ran, Executes w H input s ran (batch_result (executions w H input.dept_id (ran.map Prod.snd) s).1) ∧
      ran.Pairwise (fun p q => p.2.index ≤ q.2.index) ∧ ran.length = min 20 actions.length := by
  obtain ⟨ran,same,once,placed,ordered⟩ := sorted_placed decoded
  refine ⟨ran,⟨placed,once,?_,List.Sublist.refl _⟩,ordered,?_⟩
  · rw [exec_execute_output_actions w H filled decoded registered s,same]
    rfl
  · have length : (ran.map Prod.snd).length = (sorted_actions actions).length := by rw [same]
    simpa [sorted_actions,MAX_ACTIONS_PER_BATCH] using length

theorem covers {positions : List Nat} {n : Nat} (once : positions.Nodup) (bounded : ∀ i ∈ positions, i < n)
    (full : n ≤ positions.length) {i : Nat} (below : i < n) : i ∈ positions := by
  have subset : positions ⊆ List.range n := fun j member => List.mem_range.mpr (bounded j member)
  have perm : positions.Perm (List.range n) :=
    (List.subperm_of_subset once subset).perm_of_length_le (by simpa using full)
  exact perm.mem_iff.mpr (List.mem_range.mpr below)

theorem entry_at_lt {i : Nat} {action : OutputAction} (placed : entry_at input i = some action) :
    i < input.actions.length := by
  by_contra beyond
  rw [entry_at,List.getElem?_eq_none (by omega)] at placed
  cases placed

theorem accounts_of_accountable (accountable : Accountable w input) (s : σ) :
    ∃ ran result, Accounts w H input s ran result := by
  obtain ⟨formed,short,registered⟩ := accountable
  by_cases filled : input.actions = []
  · refine ⟨[],{ results := [],all_succeeded := true,failed_actions := [] },⟨?_,?_,?_,?_⟩,?_,?_,?_,?_,?_⟩
    · intro p absurd_member
      cases absurd_member
    · exact List.nodup_nil
    · simp [execute_output_actions,filled,summarised,post_failure_summary,executions]
    · exact List.Sublist.refl _
    · simp [filled,executions]
    · simp [filled]
    · exact List.Pairwise.nil
    · exact Nat.zero_le _
    · intro i action _ _ p absurd_member
      cases absurd_member
  · have caller : w.mcp_caller = true := registered.resolve_left filled
    have entries : ∀ entry ∈ input.actions.zipIdx, entry.1.WellFormed := fun entry member =>
      formed entry.1 (List.fst_mem_of_mem_zipIdx member)
    obtain ⟨actions,decoded,all⟩ := normalised_wellFormed entries
    rw [List.length_zipIdx] at all
    obtain ⟨ran,executes,ordered,count⟩ := executes_decoded w H filled decoded caller s
    rw [all,Nat.min_eq_right short] at count
    have every : ∀ i < input.actions.length, i ∈ ran.map Prod.fst := by
      intro i below
      refine covers executes.once (fun j member => ?_) (by rw [List.length_map,count]) below
      obtain ⟨p,inside,rfl⟩ := List.mem_map.mp member
      exact entry_at_lt (executes.placed p inside)
    refine ⟨ran,_,⟨executes,?_,?_,ordered,by omega,?_⟩⟩
    · rw [batch_succeeded]
      exact ⟨fun completed => ⟨every,completed⟩,fun both => both.2⟩
    · have runs := congrArg List.length (executions_actions w H input.dept_id (ran.map Prod.snd) s)
      simp only [List.length_map] at runs
      rw [batch_result,List.length_map,runs,count]
    · intro i action placed absent
      exact absurd (every i (entry_at_lt placed)) absent

/-- A result with one report for each entry has left nothing out. -/
theorem accountable_of_length {s t : σ} {result : ExecutionBatchResult}
    (ended : exec H (execute_output_actions w input) s = (.ok result,t))
    (one_each : result.results.length = input.actions.length) : Accountable w input := by
  by_cases filled : input.actions = []
  · exact ⟨by simp [filled],by simp [filled],.inl filled⟩
  · cases registered : w.mcp_caller with
    | false =>
      obtain ⟨raised,stopped⟩ := exec_unregistered w H filled registered s
      rw [stopped] at ended
      cases ended
    | true =>
      cases decoded : normalised input.actions.zipIdx with
      | error raised =>
        rw [exec_undecoded w H filled decoded s] at ended
        cases ended
      | ok actions =>
        rw [exec_execute_output_actions w H filled decoded registered s] at ended
        cases ended
        have runs := congrArg List.length (executions_actions w H input.dept_id (sorted_actions actions) s)
        have sorted : (sorted_actions actions).length = min 20 actions.length := by
          simp [sorted_actions,MAX_ACTIONS_PER_BATCH]
        have total := normalised_length decoded
        rw [List.length_zipIdx] at total
        simp only [batch_result,batch_runs,List.length_map] at one_each runs
        rw [one_each,sorted] at runs
        refine ⟨?_,by omega,.inr registered⟩
        intro raw member
        obtain ⟨i,stored⟩ := List.mem_iff_getElem?.mp member
        exact wellFormed_of_length decoded (by rw [List.length_zipIdx]; omega) (raw,i) (List.mem_zipIdx_iff_getElem?.mpr stored)

end

/-- The activity accounts for every entry exactly if all are well-formed, fit into
    one batch, and a caller is registered for them. -/
theorem execute_output_actions_accounts_iff {σ : Type} (w : Worker) (H : Handler calls σ) (input : ExecutionBatchInput) (s : σ) :
    (∃ ran result, Accounts w H input s ran result) ↔ Accountable w input := by
  constructor
  · rintro ⟨ran,result,accounts⟩
    exact accountable_of_length w H accounts.ended accounts.one_each
  · intro accountable
    exact accounts_of_accountable w H accountable s

/-- A worker whose tools answer with nothing. -/
def worker : Worker := ⟨true,fun _ => ""⟩

def silent : Handler calls Unit := fun c s =>
  match c with
  | .call_tool .. => (.ok .none,s)
  | .now => (0,s)

/-- One entry, whose type is misspelt. -/
def misspelt : ExecutionBatchInput where
  actions := [.value (.dict [("type",.str "jira_coment"),("params",.dict [("body",.str "done")]),("index",.int 0)])]
  issue_key := "OPS-1"
  dept_id := "ops"

/-- The entry is left out, and the batch has succeeded. -/
theorem misspelt_succeeds :
    (exec silent (execute_output_actions worker misspelt) ()).1 =
        .ok { results := [],all_succeeded := true,failed_actions := [] } ∧
      ¬∃ ran result, Accounts worker silent misspelt () ran result := by
  have ended : exec silent (execute_output_actions worker misspelt) () =
      (.ok { results := [],all_succeeded := true,failed_actions := [] },()) := rfl
  refine ⟨by rw [ended],?_⟩
  rintro ⟨ran,result,accounts⟩
  have same := accounts.ended
  rw [ended] at same
  cases same
  exact absurd accounts.one_each (by decide)

end Automation.ActionBatch
