import Automation.Dispatcher
import Automation.Monitor

/-!
The concurrency cap of a department over interleaved dispatches. Dispatches are
suspended programs that share the dispatcher's caches; Temporal keeps the
running executions and refuses a workflow id that runs.

The gate counts and then starts, and reserves nothing in between. Two
dispatches that count before either starts exceed the cap
(`overlapping_starts`), and so does a counter that answers too low, which is
what Temporal does while `DeptId` is no search attribute, or a configuration
that cannot be read. Runs without the three keep the cap (`cap_respected`).
-/
namespace Automation.ConcurrencyCap
open Automation.Effects Automation.Dispatcher

def AUTOMATION_WORKFLOW_TYPE : String := "AutomationWorkflow"

/-- The department of a workflow input. -/
def department (args : Json) : String :=
  match args.get "department_id" with
  | .str dept_id => dept_id
  | _ => ""

/-- A dispatch under way. `counted` is the department of its last count, with
    the number of workflows the department had started until then. -/
structure Flight where
  program : Dispatch DispatchResult
  counted : Option (String × Nat)

/-- `running` holds the ids of the running `AutomationWorkflow` executions with
    their departments, `started` the department of every one that was started. -/
structure System where
  self : DispatcherState
  running : List (String × String)
  started : List String
  flights : List Flight

def System.active (s : System) (dept_id : String) : Nat := s.running.countP fun execution => execution.2 = dept_id

def System.starts (s : System) (dept_id : String) : Nat := s.started.count dept_id

/-- The answer to a question, where `reply` is what the outside would say:
    Temporal starts no second execution of a workflow id. -/
def answered (s : System) : (c : Query) → queries.Res c → queries.Res c × System
  | .start_workflow workflow_type workflow_id _ args, outcome =>
    if outcome = .ok ∧ workflow_type = AUTOMATION_WORKFLOW_TYPE then
      if workflow_id ∈ s.running.map Prod.fst then (.already_running,s)
      else (.ok,{ s with
        running := (workflow_id,department args) :: s.running
        started := department args :: s.started })
    else (outcome,s)
  | _, r => (r,s)

def noted (s : System) (counted : Option (String × Nat)) : (c : Query) → queries.Res c → Option (String × Nat)
  | .count_via_temporal dept_id, .ok _ => some (dept_id,s.starts dept_id)
  | .count_via_postgres dept_id, .ok _ => some (dept_id,s.starts dept_id)
  | _, _ => counted

inductive Action where
  | arrive (payload : WebhookPayload)
  | advance (flight : Nat) (outside : (c : Query) → queries.Res c)
  | complete (workflow_id : String)

def step (loads : String → Option Json) (s : System) : Action → System
  | .arrive payload => { s with flights := s.flights ++ [⟨dispatch loads payload,none⟩] }
  | .complete workflow_id => { s with running := s.running.filter fun execution => execution.1 ≠ workflow_id }
  | .advance i outside =>
    match s.flights[i]? with
    | some ⟨.call .look k,counted⟩ => { s with flights := s.flights.set i ⟨k s.self,counted⟩ }
    | some ⟨.call (.modify f) k,counted⟩ => { s with self := f s.self, flights := s.flights.set i ⟨k (),counted⟩ }
    | some ⟨.call (.ask c) k,counted⟩ =>
      let (r,t) := answered s c (outside c)
      { t with flights := t.flights.set i ⟨k r,noted s counted c r⟩ }
    | _ => s

/-- The caches know the department, if at all, with its cap. -/
def Capped (dept_id : String) (cap : Int) (self : DispatcherState) : Prop :=
  ∀ config, self.dept_config_cache.lookup dept_id = some config → config.max_concurrent_workflows = some cap

def starts_for (dept_id : String) : Query → Bool
  | .start_workflow workflow_type _ _ args =>
    workflow_type == AUTOMATION_WORKFLOW_TYPE && department args == dept_id
  | _ => false

/-- The rows of the department that are read carry its cap, and a row that is
    asked for is found. -/
def Readable (loads : String → Option Json) (dept_id : String) (cap : Int) : (c : Query) → queries.Res c → Prop
  | .load_tables, .ok (_,rows) =>
    ∀ row ∈ rows, row.id = dept_id → (department_config loads row).max_concurrent_workflows = some cap
  | .find_dept asked, found =>
    asked = dept_id → ∃ row, found = .ok (some row) ∧ (department_config loads row).max_concurrent_workflows = some cap
  | _, _ => True

/-- Whether the last count of the department was below the cap. -/
def cleared (dept_id : String) (cap : Int) (φ : Bool) : (c : Query) → queries.Res c → Bool
  | .count_via_temporal asked, .ok current => if asked = dept_id then decide (current < cap) else false
  | .count_via_postgres asked, .ok current => if asked = dept_id then decide (current < cap) else false
  | .start_workflow workflow_type workflow_id task_queue args, _ =>
    φ && !starts_for dept_id (.start_workflow workflow_type workflow_id task_queue args)
  | _, _ => φ

/-- A workflow of the department is started only after a count below the cap. -/
def gate (loads : String → Option Json) (dept_id : String) (cap : Int) :
    Monitor (opSignature DispatcherState queries) Bool where
  allowed
    | _, .look => True
    | _, .modify f => ∀ self, Capped dept_id cap self → Capped dept_id cap (f self)
    | φ, .ask c => starts_for dept_id c = true → φ = true
  admits
    | .look, self => Capped dept_id cap self
    | .modify _, _ => True
    | .ask c, r => Readable loads dept_id cap c r
  next
    | φ, .look, _ => φ
    | φ, .modify _, _ => φ
    | φ, .ask c, r => cleared dept_id cap φ c r

section
variable {loads : String → Option Json} {dept_id : String} {cap : Int} {φ : Bool}

/-- Questions that neither count nor start. -/
def Idle : Query → Prop
  | .start_workflow workflow_type _ _ _ => workflow_type ≠ AUTOMATION_WORKFLOW_TYPE
  | .count_via_temporal _ => False
  | .count_via_postgres _ => False
  | _ => True

theorem idle_allowed {c : Query} (idle : Idle c) : starts_for dept_id c = false := by
  cases c with
  | start_workflow workflow_type workflow_id task_queue args => simp [starts_for,show workflow_type ≠ _ from idle]
  | _ => rfl

theorem idle_cleared {c : Query} (idle : Idle c) (r : queries.Res c) : cleared dept_id cap φ c r = φ := by
  cases c with
  | start_workflow workflow_type workflow_id task_queue args =>
    rw [cleared,idle_allowed idle]
    simp
  | count_via_temporal asked => exact absurd idle id
  | count_via_postgres asked => exact absurd idle id
  | _ => rfl

theorem leads_query {c : Query} (idle : Idle c) :
    Leads (gate loads dept_id cap) φ (query c) fun r ψ => ψ = φ ∧ Readable loads dept_id cap c r := by
  refine leads_command (S := opSignature DispatcherState queries) ?_ fun r admitted => ⟨idle_cleared idle r,admitted⟩
  intro starts
  rw [idle_allowed idle] at starts
  cases starts

theorem leads_look :
    Leads (gate loads dept_id cap) φ (look : Dispatch DispatcherState) fun self ψ => ψ = φ ∧ Capped dept_id cap self :=
  ⟨trivial,fun _ admitted => ⟨rfl,admitted⟩⟩

theorem leads_modify {f : DispatcherState → DispatcherState}
    (keeps : ∀ self, Capped dept_id cap self → Capped dept_id cap (f self)) :
    Leads (gate loads dept_id cap) φ (modify f : Dispatch Unit) fun _ ψ => ψ = φ :=
  ⟨keeps,fun _ _ => rfl⟩

/-! Most helpers of a dispatch neither count nor start nor touch the caches. -/

def Still : Op DispatcherState queries → Prop
  | .look => True
  | .modify _ => False
  | .ask c => Idle c

abbrev Idles {α : Type} (p : Dispatch α) : Prop := Issues (S := opSignature DispatcherState queries) Still p

theorem leads_idle {α : Type} {p : Dispatch α} (idles : Idles p) :
    Leads (gate loads dept_id cap) φ p fun _ ψ => ψ = φ := by
  refine leads_issues (issues_mono ?_ idles)
  intro c still
  cases c with
  | look => exact ⟨trivial,fun _ => rfl⟩
  | modify f => exact absurd still id
  | ask c =>
    refine ⟨fun starts => ?_,fun r => idle_cleared still r⟩
    rw [idle_allowed still] at starts
    cases starts

theorem idles_pure {α : Type} (a : α) : Idles (pure a : Dispatch α) := trivial

theorem idles_look : Idles (look : Dispatch DispatcherState) := ⟨trivial,fun _ => trivial⟩

theorem idles_query {c : Query} (idle : Idle c) : Idles (query c) := ⟨idle,fun _ => trivial⟩

theorem idles_audit (action : String) (fields : List (String × Json)) : Idles (audit action fields) :=
  idles_query trivial

theorem is_reply_idles (payload : WebhookPayload) : Idles (is_reply payload) := by
  unfold is_reply
  refine issues_ite ?_ (idles_pure false)
  unfold is_needs_info is_gateway_running
  refine issues_bind (issues_bind (idles_query trivial) fun described => ?_) fun running => ?_
  · cases described with
    | error _ => exact idles_pure false
    | ok status => cases status <;> exact idles_pure _
  · refine issues_ite (idles_pure true) (issues_bind (idles_query trivial) fun found => ?_)
    split <;> exact idles_pure _

theorem check_budget_idles (payload : WebhookPayload) (dept_id : String) :
    Idles (check_budget_pre_start payload dept_id) := by
  unfold check_budget_pre_start
  refine issues_bind (idles_query trivial) fun budget => ?_
  cases budget with
  | raised => exact issues_bind (idles_audit _ _) fun _ => idles_pure none
  | configuration_error => exact issues_bind (idles_audit _ _) fun _ => idles_pure _
  | _ => exact idles_pure _

theorem trace_id_idles (payload : WebhookPayload) : Idles (trace_id_of payload) := by
  unfold trace_id_of
  split
  · exact issues_ite (idles_pure _) (idles_query trivial)
  · exact idles_query trivial

theorem capabilities_idles (dept_id : String) : Idles (resolve_available_capabilities dept_id) := by
  unfold resolve_available_capabilities
  refine issues_bind (idles_query trivial) fun rows => ?_
  cases rows with
  | error _ => exact idles_pure []
  | ok rows => exact issues_bind (idles_query trivial) fun _ => idles_pure _

theorem start_iteration_idles (payload : WebhookPayload) (dept_id : String) :
    Idles (start_iteration payload dept_id) := by
  unfold start_iteration
  refine issues_bind (idles_query trivial) fun hex => ?_
  refine issues_bind (idles_query ?_) fun _ => idles_pure ()
  change "IterationWorkflow" ≠ "AutomationWorkflow"
  decide

theorem forward_approval_idles (payload : WebhookPayload) (dept_id : String) :
    Idles (forward_approval_signal payload dept_id) := by
  unfold forward_approval_signal
  refine issues_bind (idles_query trivial) fun outcome => ?_
  cases outcome <;> exact idles_audit _ _

theorem rejection_idles (payload : WebhookPayload) (dept_id : String) (current max_allowed : Int) (source : String) :
    Idles (handle_concurrency_rejection payload dept_id current max_allowed source) := by
  unfold handle_concurrency_rejection
  refine issues_bind (idles_audit _ _) fun _ => issues_bind idles_look fun self => ?_
  exact issues_ite (issues_bind (idles_query trivial) fun _ => idles_pure ()) (idles_pure ())

/-! The caches stay capped. -/

theorem lookup_map_config (rows : List DeptRow) (dept_id : String) {config : DepartmentConfig}
    (found : (rows.map fun row => (row.id,department_config loads row)).lookup dept_id = some config) :
    ∃ row ∈ rows, row.id = dept_id ∧ config = department_config loads row := by
  induction rows with
  | nil => cases found
  | cons row rest ih =>
    rw [List.map_cons,List.lookup_cons] at found
    split at found
    · next same =>
      exact ⟨row,List.mem_cons_self,(beq_iff_eq.mp same).symm,(Option.some.inj found).symm⟩
    · obtain ⟨row',member,rest⟩ := ih found
      exact ⟨row',List.mem_cons_of_mem _ member,rest⟩

theorem refresh_leads :
    Leads (gate loads dept_id cap) φ (refresh_cache loads) fun _ ψ => ψ = φ := by
  unfold refresh_cache
  refine leads_bind (leads_query trivial) ?_
  rintro loaded _ ⟨rfl,readable⟩
  cases loaded with
  | error _ => exact leads_pure rfl
  | ok tables =>
    obtain ⟨bots,rows⟩ := tables
    refine leads_bind (leads_query trivial) ?_
    rintro now _ ⟨rfl,-⟩
    refine leads_modify fun self capped config found => ?_
    obtain ⟨row,member,id,rfl⟩ := lookup_map_config rows.reverse dept_id found
    exact readable row (List.mem_reverse.mp member) id

theorem maybe_refresh_leads :
    Leads (gate loads dept_id cap) φ (maybe_refresh_cache loads) fun _ ψ => ψ = φ := by
  unfold maybe_refresh_cache
  refine leads_bind (leads_query trivial) ?_
  rintro now _ ⟨rfl,-⟩
  refine leads_bind leads_look ?_
  rintro self _ ⟨rfl,-⟩
  exact leads_ite (fun _ => refresh_leads) fun _ => leads_pure rfl

theorem resolve_dept_leads (account_id : String) :
    Leads (gate loads dept_id cap) φ (resolve_dept account_id) fun _ ψ => ψ = φ := by
  unfold resolve_dept
  refine leads_bind leads_look ?_
  rintro self _ ⟨rfl,-⟩
  cases self.bot_identity_cache.lookup account_id with
  | some entry => exact leads_pure rfl
  | none =>
    refine leads_bind (leads_query trivial) ?_
    rintro found _ ⟨rfl,-⟩
    split
    · refine leads_bind (leads_modify fun self capped => capped) ?_
      rintro _ _ rfl
      exact leads_pure rfl
    · exact leads_pure rfl

theorem get_dept_config_leads (asked : String) :
    Leads (gate loads dept_id cap) φ (get_dept_config loads asked) fun config ψ =>
      ψ = φ ∧ (asked = dept_id → config.bind DepartmentConfig.max_concurrent_workflows = some cap) := by
  unfold get_dept_config
  refine leads_bind leads_look ?_
  rintro self _ ⟨rfl,capped⟩
  cases cached : self.dept_config_cache.lookup asked with
  | some config =>
    refine leads_pure ⟨rfl,?_⟩
    rintro rfl
    exact capped config cached
  | none =>
    refine leads_bind (leads_query trivial) ?_
    rintro found _ ⟨rfl,readable⟩
    split
    · next row =>
      have stored : asked = dept_id → (department_config loads row).max_concurrent_workflows = some cap := by
        intro same
        obtain ⟨row',equal,stored⟩ := readable same
        cases equal
        exact stored
      refine leads_bind (leads_modify ?_) ?_
      · intro self capped config
        rw [List.lookup_cons]
        split
        · next same =>
          intro equal
          cases equal
          exact stored (beq_iff_eq.mp same).symm
        · exact capped config
      · rintro _ _ rfl
        exact leads_pure ⟨rfl,stored⟩
    · next missing =>
      refine leads_pure ⟨rfl,fun same => ?_⟩
      obtain ⟨row,equal,-⟩ := readable same
      exact absurd equal (missing row)

/-! The count and the start. -/

/-- A count of the department that lets the dispatch through was below the cap. -/
theorem check_dept_concurrency_leads (asked : String) (max_concurrent : Int)
    (own : asked = dept_id → max_concurrent = cap) :
    Leads (gate loads dept_id cap) φ (check_dept_concurrency asked max_concurrent) fun answer ψ =>
      match answer with
      | .within => asked = dept_id → ψ = true
      | .exceeded _ _ => True := by
  have counts (current : Int) (source : String) (ψ : Bool) (phase : asked = dept_id → ψ = decide (current < cap)) :
      Leads (gate loads dept_id cap) ψ
        (pure (if max_concurrent ≤ current then .exceeded current source else .within) : Dispatch ConcurrencyAnswer)
        fun answer ψ =>
          match answer with
          | .within => asked = dept_id → ψ = true
          | .exceeded _ _ => True := by
    refine leads_pure ?_
    by_cases beyond : max_concurrent ≤ current
    · simp only [if_pos beyond]
    · simp only [if_neg beyond]
      intro same
      rw [phase same,decide_eq_true_eq]
      have := own same
      omega
  unfold check_dept_concurrency
  refine leads_bind (R := fun answer ψ => ∀ current, answer = .ok current → asked = dept_id → ψ = decide (current < cap))
    ?_ fun answer ψ phase => ?_
  · refine leads_command (S := opSignature DispatcherState queries) (fun starts => by cases starts) ?_
    rintro answer - current rfl same
    exact if_pos same
  cases answer with
  | ok current => exact counts current "temporal" ψ (phase current rfl)
  | error _ =>
    refine leads_bind
      (R := fun answer ψ => ∀ current, answer = .ok current → asked = dept_id → ψ = decide (current < cap)) ?_
      fun answer ψ phase => ?_
    · refine leads_command (S := opSignature DispatcherState queries) (fun starts => by cases starts) ?_
      rintro answer - current rfl same
      exact if_pos same
    cases answer with
    | ok current => exact counts current "postgres" ψ (phase current rfl)
    | error _ => trivial

theorem dispatch_start_leads (payload : WebhookPayload) (asked : String) (clear : asked = dept_id → φ = true) :
    Leads (gate loads dept_id cap) φ (dispatch_start payload asked) fun _ _ => True := by
  unfold dispatch_start
  refine leads_bind (leads_idle (check_budget_idles payload asked)) ?_
  rintro rejection _ rfl
  cases rejection with
  | some rejection => exact leads_pure trivial
  | none =>
    refine leads_bind (leads_idle (trace_id_idles payload)) ?_
    rintro trace_id _ rfl
    refine leads_bind (R := fun _ _ => True) ?_ fun _ ψ _ => ?_
    · unfold start_workflow
      refine leads_bind (leads_idle (capabilities_idles asked)) ?_
      rintro capabilities _ rfl
      refine leads_bind (leads_command (S := opSignature DispatcherState queries) (Q := fun _ _ => True) ?_
        fun _ _ => trivial) fun _ _ _ => leads_pure trivial
      intro starts
      simp only [starts_for,Bool.and_eq_true,beq_iff_eq] at starts
      exact clear starts.2
    · refine leads_bind (leads_idle (idles_audit _ _)) fun _ _ _ => leads_pure trivial

theorem dispatch_normal_leads (payload : WebhookPayload) (asked : String) (config : Option DepartmentConfig)
    (capped : asked = dept_id → config.bind DepartmentConfig.max_concurrent_workflows = some cap) :
    Leads (gate loads dept_id cap) φ (dispatch_normal payload asked config) fun _ _ => True := by
  unfold dispatch_normal
  cases limit : config.bind DepartmentConfig.max_concurrent_workflows with
  | none =>
    refine dispatch_start_leads payload asked fun same => ?_
    rw [limit] at capped
    cases capped same
  | some max_concurrent =>
    rw [limit] at capped
    refine leads_bind (check_dept_concurrency_leads asked max_concurrent fun same => Option.some.inj (capped same)) ?_
    intro answer ψ clear
    cases answer with
    | exceeded current source => exact leads_bind (leads_idle (rejection_idles ..)) fun _ _ _ => leads_pure trivial
    | within => exact dispatch_start_leads payload asked clear

theorem dispatch_enabled_leads (payload : WebhookPayload) (asked : String) (config : Option DepartmentConfig)
    (capped : asked = dept_id → config.bind DepartmentConfig.max_concurrent_workflows = some cap) :
    Leads (gate loads dept_id cap) φ (dispatch_enabled payload asked config) fun _ _ => True := by
  unfold dispatch_enabled
  refine leads_ite (fun _ => ?_) fun _ => ?_
  · unfold dispatch_iterate
    refine leads_ite (fun _ => leads_bind (leads_idle (idles_audit _ _)) fun _ _ _ => leads_pure trivial) fun _ => ?_
    refine leads_bind (leads_idle (check_budget_idles payload asked)) fun rejection ψ _ => ?_
    cases rejection with
    | some rejection => exact leads_pure trivial
    | none =>
      refine leads_bind (leads_idle (start_iteration_idles payload asked)) fun _ ψ _ => ?_
      exact leads_bind (leads_idle (idles_audit _ _)) fun _ _ _ => leads_pure trivial
  · refine leads_bind (leads_idle (is_reply_idles payload)) fun reply ψ _ => ?_
    refine leads_ite (fun _ => ?_) fun _ => leads_ite (fun _ => ?_) fun _ => dispatch_normal_leads payload asked config capped
    · have signals : Idles (signal_workflow payload.issue_key "info_received" payload.comment_body) :=
        issues_bind (idles_query trivial) fun _ => idles_pure ()
      refine leads_bind (leads_idle signals) fun _ ψ _ => ?_
      exact leads_bind (leads_idle (idles_audit _ _)) fun _ _ _ => leads_pure trivial
    · exact leads_bind (leads_idle (forward_approval_idles payload asked)) fun _ _ _ => leads_pure trivial

theorem dispatch_leads (payload : WebhookPayload) :
    Leads (gate loads dept_id cap) φ (dispatch loads payload) fun _ _ => True := by
  unfold dispatch
  cases payload.assignee_account_id with
  | none => exact leads_bind (leads_idle (idles_audit _ _)) fun _ _ _ => leads_pure trivial
  | some assignee =>
    refine leads_bind maybe_refresh_leads fun _ _ _ => ?_
    refine leads_bind (resolve_dept_leads assignee) fun resolved _ _ => ?_
    cases resolved with
    | none => exact leads_bind (leads_idle (idles_audit _ _)) fun _ _ _ => leads_pure trivial
    | some asked =>
      refine leads_bind (get_dept_config_leads asked) ?_
      rintro config ψ ⟨-,capped⟩
      refine leads_ite (fun _ => ?_) fun _ => dispatch_enabled_leads payload asked config capped
      exact leads_bind (leads_idle (idles_audit _ _)) fun _ _ _ => leads_pure trivial

end

/-- What a step must not do to a department: a counter answers at least the
    number of its running executions; its configuration is read with its cap;
    and where a dispatch starts a workflow of the department, none was started
    since the dispatch counted. -/
def fair (loads : String → Option Json) (dept_id : String) (cap : Int) (s : System) (counted : Option (String × Nat)) :
    (c : Query) → queries.Res c → Bool
  | .count_via_temporal asked, .ok current => asked != dept_id || decide ((s.active dept_id : Int) ≤ current)
  | .count_via_postgres asked, .ok current => asked != dept_id || decide ((s.active dept_id : Int) ≤ current)
  | .load_tables, .ok (_,rows) =>
    rows.all fun row => row.id != dept_id || (department_config loads row).max_concurrent_workflows == some cap
  | .find_dept asked, .ok (some row) =>
    asked != dept_id || (department_config loads row).max_concurrent_workflows == some cap
  | .find_dept asked, _ => asked != dept_id
  | .start_workflow workflow_type workflow_id task_queue args, _ =>
    !starts_for dept_id (.start_workflow workflow_type workflow_id task_queue args) ||
      counted.all fun count => count.1 != dept_id || s.starts dept_id == count.2
  | _, _ => true

def fairly (loads : String → Option Json) (dept_id : String) (cap : Int) (s : System) : Action → Bool
  | .advance i outside =>
    match s.flights[i]? with
    | some ⟨.call (.ask c) _,counted⟩ => fair loads dept_id cap s counted c (outside c)
    | _ => true
  | _ => true

def Fair (loads : String → Option Json) (dept_id : String) (cap : Int) (s : System) (action : Action) : Prop :=
  fairly loads dept_id cap s action = true

instance (loads : String → Option Json) (dept_id : String) (cap : Int) (s : System) (action : Action) :
    Decidable (Fair loads dept_id cap s action) := inferInstanceAs (Decidable (_ = true))

/-- A dispatch in the cleared phase has counted below the cap, and unless a
    workflow of the department was started since, there is room for one. -/
def Ready (loads : String → Option Json) (dept_id : String) (cap : Int) (s : System) (flight : Flight) : Prop :=
  ∃ φ, Leads (gate loads dept_id cap) φ flight.program (fun _ _ => True) ∧
    (φ = true → ∃ k, flight.counted = some (dept_id,k) ∧ k ≤ s.starts dept_id ∧
      (s.starts dept_id = k → (s.active dept_id : Int) < cap))

structure Bounded (loads : String → Option Json) (dept_id : String) (cap : Int) (s : System) : Prop where
  capped : Capped dept_id cap s.self
  within : (s.active dept_id : Int) ≤ cap
  ready : ∀ flight ∈ s.flights, Ready loads dept_id cap s flight

section
variable {loads : String → Option Json} {dept_id : String} {cap : Int} {s t : System} {flight : Flight}

theorem ready_fewer (ready : Ready loads dept_id cap s flight) (starts : t.starts dept_id = s.starts dept_id)
    (fewer : t.active dept_id ≤ s.active dept_id) : Ready loads dept_id cap t flight := by
  obtain ⟨φ,leads,room⟩ := ready
  refine ⟨φ,leads,fun clear => ?_⟩
  obtain ⟨k,counted,past,below⟩ := room clear
  refine ⟨k,counted,by omega,fun since => ?_⟩
  have := below (by omega)
  omega

theorem ready_overtaken (ready : Ready loads dept_id cap s flight) (more : s.starts dept_id < t.starts dept_id) :
    Ready loads dept_id cap t flight := by
  obtain ⟨φ,leads,room⟩ := ready
  refine ⟨φ,leads,fun clear => ?_⟩
  obtain ⟨k,counted,past,-⟩ := room clear
  exact ⟨k,counted,by omega,fun since => by omega⟩

variable {c : Query} {counted : Option (String × Nat)}

variable {r : queries.Res c}

theorem fair_readable
    (holds : fair loads dept_id cap s counted c r = true) : Readable loads dept_id cap c r := by
  cases c with
  | load_tables =>
    cases r with
    | error _ => trivial
    | ok tables =>
      intro row member same
      have each := List.all_eq_true.mp holds row member
      simpa [same] using each
  | find_dept asked =>
    rintro rfl
    cases r with
    | error _ => simp [fair] at holds
    | ok found =>
      cases found with
      | none => simp [fair] at holds
      | some row => exact ⟨row,rfl,by simpa [fair] using holds⟩
  | _ => trivial

/-- A question that is no start leaves Temporal alone. -/
theorem answered_idle (r : queries.Res c) (other : starts_for dept_id c = false) :
    (answered s c r).2.starts dept_id = s.starts dept_id ∧ (answered s c r).2.active dept_id = s.active dept_id ∧
      (answered s c r).2.self = s.self ∧ (answered s c r).2.flights = s.flights := by
  cases c with
  | start_workflow workflow_type workflow_id task_queue args =>
    simp only [answered]
    by_cases started : r = .ok ∧ workflow_type = AUTOMATION_WORKFLOW_TYPE
    · have foreign : department args ≠ dept_id := by
        intro same
        simp [starts_for,started.2,same] at other
      rw [if_pos started]
      split
      · exact ⟨rfl,rfl,rfl,rfl⟩
      · simp [System.starts,System.active,foreign]
    · rw [if_neg started]
      exact ⟨rfl,rfl,rfl,rfl⟩
  | _ => exact ⟨rfl,rfl,rfl,rfl⟩

theorem answered_start (r : queries.Res c) (own : starts_for dept_id c = true) :
    (answered s c r).2 = s ∨
    ((answered s c r).2.starts dept_id = s.starts dept_id + 1 ∧
      (answered s c r).2.active dept_id = s.active dept_id + 1 ∧
      (answered s c r).2.self = s.self ∧ (answered s c r).2.flights = s.flights) := by
  cases c with
  | start_workflow workflow_type workflow_id task_queue args =>
    simp only [starts_for,Bool.and_eq_true,beq_iff_eq] at own
    simp only [answered]
    split
    · split
      · exact .inl rfl
      · exact .inr ⟨by simp [System.starts,own.2],by simp [System.active,own.2],rfl,rfl⟩
    · exact .inl rfl
  | _ => cases own

theorem answered_readable
    (holds : fair loads dept_id cap s counted c r = true) : Readable loads dept_id cap c (answered s c r).1 := by
  cases c with
  | start_workflow => trivial
  | _ => exact fair_readable holds

theorem ready_answered {k : queries.Res c → Dispatch DispatchResult}
    (ready : Ready loads dept_id cap s ⟨.call (.ask c) k,counted⟩)
    (holds : fair loads dept_id cap s counted c r = true) (other : starts_for dept_id c = false) :
    Ready loads dept_id cap s ⟨k (answered s c r).1,noted s counted c (answered s c r).1⟩ := by
  obtain ⟨φ,⟨-,leads⟩,room⟩ := ready
  refine ⟨_,leads _ (answered_readable holds),?_⟩
  have counts (asked : String) (current : Int)
      (enough : (asked != dept_id || decide ((s.active dept_id : Int) ≤ current)) = true)
      (clear : (if asked = dept_id then decide (current < cap) else false) = true) :
      ∃ k, some (asked,s.starts asked) = some (dept_id,k) ∧ k ≤ s.starts dept_id ∧
        (s.starts dept_id = k → (s.active dept_id : Int) < cap) := by
    by_cases same : asked = dept_id
    · subst same
      simp only [if_true,decide_eq_true_eq] at clear
      simp only [bne_self_eq_false,Bool.false_or,decide_eq_true_eq] at enough
      exact ⟨_,rfl,Nat.le_refl _,fun _ => by omega⟩
    · simp [same] at clear
  cases c with
  | count_via_temporal asked =>
    cases r with
    | ok current => exact counts asked current holds
    | error _ => exact room
  | count_via_postgres asked =>
    cases r with
    | ok current => exact counts asked current holds
    | error _ => exact room
  | start_workflow workflow_type workflow_id task_queue args =>
    intro clear
    have kept : (φ && !starts_for dept_id (.start_workflow workflow_type workflow_id task_queue args)) = true := clear
    rw [other,Bool.not_false,Bool.and_true] at kept
    exact room kept
  | _ => exact room

theorem ready_set {i : Nat} (others : ∀ flight ∈ s.flights, Ready loads dept_id cap t flight)
    (mine : Ready loads dept_id cap t flight) :
    ∀ other ∈ s.flights.set i flight, Ready loads dept_id cap t other := by
  intro other member
  rcases List.mem_or_eq_of_mem_set member with old | rfl
  · exact others other old
  · exact mine

theorem bounded_flights {flights : List Flight} (capped : Capped dept_id cap t.self)
    (within : (t.active dept_id : Int) ≤ cap) (ready : ∀ flight ∈ flights, Ready loads dept_id cap t flight) :
    Bounded loads dept_id cap { t with flights } := ⟨capped,within,ready⟩

theorem ask_bounded {i : Nat} {k : queries.Res c → Dispatch DispatchResult} (bounded : Bounded loads dept_id cap s)
    (member : (⟨.call (.ask c) k,counted⟩ : Flight) ∈ s.flights) (holds : fair loads dept_id cap s counted c r = true) :
    Bounded loads dept_id cap
      { (answered s c r).2 with
        flights := (answered s c r).2.flights.set i ⟨k (answered s c r).1,noted s counted c (answered s c r).1⟩ } := by
  have ready := bounded.ready _ member
  have within := bounded.within
  cases own : starts_for dept_id c with
  | false =>
    obtain ⟨starts,active,self,flights⟩ := answered_idle (s := s) r own
    rw [flights]
    refine bounded_flights (self ▸ bounded.capped) (by omega) (ready_set (fun flight inside => ?_) ?_)
    · exact ready_fewer (bounded.ready flight inside) starts (Nat.le_of_eq active)
    · exact ready_fewer (ready_answered ready holds own) starts (Nat.le_of_eq active)
  | true =>
    -- the dispatch is cleared, and nothing was started since its count
    obtain ⟨φ,⟨allowed,leads⟩,room⟩ := ready
    obtain ⟨seen,mine,-,below⟩ := room (allowed own)
    have since : s.starts dept_id = seen := by
      cases c with
      | start_workflow workflow_type workflow_id task_queue args =>
        rw [fair,own,show counted = some (dept_id,seen) from mine] at holds
        simpa using holds
      | _ => cases own
    have space := below since
    have after : Ready loads dept_id cap (answered s c r).2
        ⟨k (answered s c r).1,noted s counted c (answered s c r).1⟩ := by
      refine ⟨_,leads _ (answered_readable holds),fun cleared_again => ?_⟩
      cases c with
      | start_workflow workflow_type workflow_id task_queue args =>
        have kept : (φ && !starts_for dept_id (.start_workflow workflow_type workflow_id task_queue args)) = true :=
          cleared_again
        simp [own] at kept
      | _ => cases own
    rcases answered_start (s := s) r own with same | ⟨starts,active,self,flights⟩
    · rw [same] at after ⊢
      exact ⟨bounded.capped,within,ready_set bounded.ready after⟩
    · rw [flights]
      refine bounded_flights (self ▸ bounded.capped) (by omega) (ready_set (fun flight inside => ?_) after)
      exact ready_overtaken (bounded.ready flight inside) (by omega)

theorem step_bounded (bounded : Bounded loads dept_id cap s) (action : Action) (ok : Fair loads dept_id cap s action) :
    Bounded loads dept_id cap (step loads s action) := by
  cases action with
  | arrive payload =>
    refine ⟨bounded.capped,bounded.within,fun flight member => ?_⟩
    rcases List.mem_append.mp member with old | new
    · exact bounded.ready flight old
    · rw [List.mem_singleton.mp new]
      exact ⟨false,dispatch_leads payload,fun clear => by cases clear⟩
  | complete workflow_id =>
    have fewer : (step loads s (.complete workflow_id)).active dept_id ≤ s.active dept_id := by
      simp only [step,System.active]
      exact List.Sublist.countP_le List.filter_sublist
    refine ⟨bounded.capped,?_,fun flight member => ready_fewer (bounded.ready flight member) rfl fewer⟩
    have within := bounded.within
    omega
  | advance i outside =>
    cases found : s.flights[i]? with
    | none => simpa only [step,found] using bounded
    | some flight =>
      have member := List.mem_of_getElem? found
      obtain ⟨program,counted⟩ := flight
      cases program with
      | ret a => simpa only [step,found] using bounded
      | raise e => simpa only [step,found] using bounded
      | call c k =>
        cases c with
        | look =>
          simp only [step,found]
          obtain ⟨φ,leads,room⟩ := bounded.ready _ member
          exact bounded_flights bounded.capped bounded.within
            (ready_set bounded.ready ⟨φ,leads.2 _ bounded.capped,room⟩)
        | modify f =>
          simp only [step,found]
          obtain ⟨φ,leads,room⟩ := bounded.ready _ member
          exact ⟨leads.1 _ bounded.capped,bounded.within,ready_set bounded.ready ⟨φ,leads.2 _ trivial,room⟩⟩
        | ask c =>
          simp only [Fair,fairly,found] at ok
          simp only [step,found]
          exact ask_bounded bounded member ok

end

/-- In every run of dispatches and completions whose steps are fair to a
    department, the department stays within its cap. -/
theorem cap_respected (loads : String → Option Json) (dept_id : String) (cap : Int) (s : System)
    (idle : s.flights = []) (capped : Capped dept_id cap s.self) (within : (s.active dept_id : Int) ≤ cap)
    (actions : List Action) (admitted : Admitted (step loads) (Fair loads dept_id cap) s actions) :
    ((actions.foldl (step loads) s).active dept_id : Int) ≤ cap := by
  have start : Bounded loads dept_id cap s := by
    refine ⟨capped,within,fun flight member => ?_⟩
    rw [idle] at member
    cases member
  have last := admitted_invariant (I := Bounded loads dept_id cap)
    (fun s action bounded ok => step_bounded bounded action ok) actions s start admitted
  exact last.within

/-! A department with a cap of one, its bot and an assigned issue. -/

def payment : System where
  self := { bot_identity_cache := [], dept_config_cache := [], last_cache_refresh := 0, jira_commenter := false }
  running := []
  started := []
  flights := []

def assigned (issue_key : String) : WebhookPayload where
  actor_account_id := none
  issue_key := issue_key
  event_type := "jira:issue_updated"
  comment_body := none
  assignee_account_id := some "bot"
  reporter_account_id := none
  dept_id := none
  trace_id := some "trace"

/-- Services that work, before any execution runs. -/
def outside : (c : Query) → queries.Res c
  | .monotonic => (10 : Int)
  | .load_tables => .error ()
  | .find_bot account_id => .ok (some ⟨account_id,"payment","jira"⟩)
  | .find_dept dept_id => .ok (some ⟨dept_id,"active",.obj [("max_concurrent_workflows",.int 1)]⟩)
  | .describe _ => .error ()
  | .work_item_status _ => .ok none
  | .count_via_temporal _ => .ok 0
  | .count_via_postgres _ => .ok 0
  | .check_budget _ _ _ => .unwired
  | .capability_rows _ => .ok ⟨[],false,0⟩
  | .environ => ([] : List (String × String))
  | .uuid4 => ("" : String)
  | .post_comment _ _ _ => .ok ()
  | .audit _ => ()
  | .start_workflow _ _ _ _ => .ok
  | .signal_workflow _ _ _ => .ok

def advances (flight steps : Nat) : List Action := List.replicate steps (.advance flight outside)

/-- The same services, once the first execution runs. -/
def counted : (c : Query) → queries.Res c
  | .count_via_temporal _ => .ok 1
  | c => outside c

/-- A dispatch, and then one that the gate refuses. -/
def successive : List Action :=
  [.arrive (assigned "PAY-1")] ++ advances 0 14 ++ [.arrive (assigned "PAY-2")] ++ .replicate 14 (.advance 1 counted)

theorem one_start_within :
    (successive.foldl (step fun _ => none) payment).active "payment" = 1 ∧
      ((successive.foldl (step fun _ => none) payment).active "payment" : Int) ≤ 1 :=
  ⟨by decide,
    cap_respected (fun _ => none) "payment" 1 payment rfl (fun _ found => by cases found) (by decide) successive
      (by decide)⟩

/-- Two dispatches that both count before either starts, with a cap of one. -/
def overlap : List Action :=
  [.arrive (assigned "PAY-1"),.arrive (assigned "PAY-2")] ++ advances 0 9 ++ advances 1 5 ++ advances 0 5 ++ advances 1 5

theorem overlapping_starts :
    (payment.active "payment" : Int) ≤ 1 ∧ ¬ ((overlap.foldl (step fun _ => none) payment).active "payment" : Int) ≤ 1 := by
  decide

end Automation.ConcurrencyCap
