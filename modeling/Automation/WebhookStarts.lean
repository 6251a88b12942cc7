import Automation.WebhookClaim
import Mathlib.Logic.Function.Basic

/-!
Webhook deliveries that share the Temporal server. `_dispatch_pass` promises
`signalWithStart` semantics, but `start_workflow_idempotent` only starts: where
an execution of the workflow id is open it reports the open one and sends no
signal. A delivery answered 202 there leaves nothing behind.
-/
namespace Automation.WebhookStarts
open Automation.Effects Automation.WebhookClaim

/-- An execution of `AutomationWorkflow`, the request that started it and the
    events signalled to it. -/
structure Execution where
  workflow_id : String
  starter : Nat
  input : AutomationWorkflowInput
  signals : List WebhookEvent
  running : Bool

def Execution.OpenAs (e : Execution) (workflow_id : String) : Prop :=
  e.workflow_id = workflow_id ∧ e.running = true

instance (e : Execution) (workflow_id : String) : Decidable (e.OpenAs workflow_id) :=
  inferInstanceAs (Decidable (_ ∧ _))

/-- Temporal keeps at most one execution of a workflow id open. -/
structure Executions where
  list : List Execution
  single : list.Pairwise fun e f => ¬∃ workflow_id, e.OpenAs workflow_id ∧ f.OpenAs workflow_id

def Executions.empty : Executions := ⟨[],.nil⟩

def Executions.running (s : Executions) (workflow_id : String) : Bool :=
  s.list.any fun e => e.OpenAs workflow_id

theorem Executions.running_iff (s : Executions) (workflow_id : String) :
    s.running workflow_id = true ↔ ∃ e ∈ s.list, e.OpenAs workflow_id := by
  simp [Executions.running]

/-- `start_workflow` under the default id policies: a closed execution's id may be
    used again, an open one raises `WorkflowAlreadyStartedError`. -/
def Executions.start_workflow (s : Executions) (k : Nat) (workflow_id : String) (input : AutomationWorkflowInput) :
    StartOutcome × Executions :=
  if taken : s.running workflow_id = true then (.already_started,s)
  else (.started,
    { list := { workflow_id, starter := k, input, signals := [], running := true } :: s.list
      single := by
        refine .cons ?_ s.single
        rintro e member ⟨other,⟨rfl,-⟩,opened⟩
        exact taken ((s.running_iff workflow_id).mpr ⟨e,member,opened⟩) })

/-- An update of the executions that opens none. -/
def Executions.map (s : Executions) (f : Execution → Execution)
    (keeps : ∀ e workflow_id, (f e).OpenAs workflow_id → e.OpenAs workflow_id) : Executions where
  list := s.list.map f
  single := by
    refine List.pairwise_map.mpr (s.single.imp ?_)
    rintro e g apart ⟨workflow_id,first,second⟩
    exact apart ⟨workflow_id,keeps e workflow_id first,keeps g workflow_id second⟩

def Executions.close (s : Executions) (workflow_id : String) : Executions :=
  s.map (fun e => if e.OpenAs workflow_id then { e with running := false } else e) (by
    intro e other opened
    split at opened
    · cases opened.2
    · exact opened)

def Executions.signal (s : Executions) (workflow_id : String) (event : WebhookEvent) : Executions :=
  s.map (fun e => if e.OpenAs workflow_id then { e with signals := e.signals ++ [event] } else e) (by
    intro e other opened
    split at opened
    · exact opened
    · exact opened)

/-- A call of the server: answered, acted upon but with the answer lost, or not
    sent. The last two raise. -/
inductive Rpc where
  | answered
  | lost
  | unsent
  deriving DecidableEq

/-- The state that the requests share. -/
structure Shared where
  requests : RequestState
  executions : Executions

/-- A step of request `k`: Temporal answers the starts, and the other steps have
    the outcomes `out`. -/
def endpoint (k : Nat) (out : Outcomes) (rpc : Rpc) : Handler steps Shared
  | .start workflow_id input, s =>
    match rpc with
    | .unsent => (.failed,s)
    | .lost => (.failed,{ s with executions := (s.executions.start_workflow k workflow_id input).2 })
    | .answered =>
      ((s.executions.start_workflow k workflow_id input).1,
        { s with executions := (s.executions.start_workflow k workflow_id input).2 })
  | c, s => ((respond out c s.requests).1,{ s with requests := (respond out c s.requests).2 })

structure Delivery where
  args : Arguments
  thread : Request Response

structure System where
  shared : Shared
  deliveries : Nat → Option Delivery

inductive Action where
  | receive (k : Nat) (args : Arguments)
  | resume (k : Nat) (out : Outcomes) (rpc : Rpc)
  | close (workflow_id : String)
  /-- A signal by another sender. -/
  | signal (workflow_id : String) (event : WebhookEvent)

/-- No delivery has been received yet. -/
def System.start (shared : Shared) : System := ⟨shared,fun _ => none⟩

def System.withExecutions (s : System) (executions : Executions) : System :=
  { s with shared := { s.shared with executions } }

section
variable (repr : Json → String)

def step (s : System) : Action → System
  | .receive k args =>
    match s.deliveries k with
    | some _ => s
    | none => { s with deliveries := Function.update s.deliveries k (some ⟨args,dispatch_pass repr args⟩) }
  | .resume k out rpc =>
    match s.deliveries k with
    | none => s
    | some d =>
      let next := advance (endpoint k out rpc) d.thread s.shared
      { shared := next.2, deliveries := Function.update s.deliveries k (some { d with thread := next.1 }) }
  | .close workflow_id => s.withExecutions (s.shared.executions.close workflow_id)
  | .signal workflow_id event => s.withExecutions (s.shared.executions.signal workflow_id event)

/-- The input is the one that `_dispatch_pass` builds for the delivery. -/
def OwnInput (args : Arguments) (input : AutomationWorkflowInput) : Prop :=
  ∃ departments environ,
    workflow_input_for_event repr departments environ args.event args.dept_id args.event.delivery_id = some input

/-- The delivery started an execution with its own input, or was signalled to one. -/
def Delivered (executions : Executions) (k : Nat) (args : Arguments) : Prop :=
  ∃ e ∈ executions.list, e.workflow_id = args.workflow_id ∧
    (e.starter = k ∧ OwnInput repr args e.input ∨ args.event ∈ e.signals)

def NoAcceptedLost (s : System) : Prop :=
  ∀ k d response, s.deliveries k = some d → d.thread = .ret response → response.status_code = 202 →
    Delivered repr s.shared.executions k d.args

end

/-- The workflow id that the request is about to start. -/
def Delivery.starting (d : Delivery) : Option String :=
  match d.thread with
  | .call (.start workflow_id _) _ => some workflow_id
  | _ => none

/-- No start is answered while an execution of its workflow id is open. -/
def Unoccupied (s : System) : Action → Prop
  | .resume k _ rpc => rpc = .answered → ∀ d ∈ s.deliveries k, ∀ workflow_id ∈ d.starting,
      s.shared.executions.running workflow_id = false
  | _ => True

instance (s : System) : ∀ a, Decidable (Unoccupied s a)
  | .receive _ _ => isTrue trivial
  | .resume _ _ _ => inferInstanceAs (Decidable (_ → _))
  | .close _ => isTrue trivial
  | .signal _ _ => isTrue trivial

/-- Every execution stays, with its start and at least its signals. -/
def Grows (before after : Executions) : Prop :=
  ∀ e ∈ before.list, ∃ f ∈ after.list, f.workflow_id = e.workflow_id ∧ f.starter = e.starter ∧
    f.input = e.input ∧ ∀ event ∈ e.signals, event ∈ f.signals

private theorem grows_refl (s : Executions) : Grows s s := by
  intro e member
  exact ⟨e,member,rfl,rfl,rfl,fun _ signalled => signalled⟩

private theorem grows_map {s : Executions} {f : Execution → Execution}
    {keeps : ∀ e workflow_id, (f e).OpenAs workflow_id → e.OpenAs workflow_id}
    (same : ∀ e, (f e).workflow_id = e.workflow_id ∧ (f e).starter = e.starter ∧ (f e).input = e.input ∧
      ∀ event ∈ e.signals, event ∈ (f e).signals) : Grows s (s.map f keeps) := by
  intro e member
  exact ⟨f e,List.mem_map_of_mem member,same e⟩

private theorem grows_close (s : Executions) (workflow_id : String) : Grows s (s.close workflow_id) := by
  apply grows_map
  intro e
  split
  · exact ⟨rfl,rfl,rfl,fun _ signalled => signalled⟩
  · exact ⟨rfl,rfl,rfl,fun _ signalled => signalled⟩

private theorem grows_signal (s : Executions) (workflow_id : String) (event : WebhookEvent) :
    Grows s (s.signal workflow_id event) := by
  apply grows_map
  intro e
  split
  · exact ⟨rfl,rfl,rfl,fun _ signalled => List.mem_append_left _ signalled⟩
  · exact ⟨rfl,rfl,rfl,fun _ signalled => signalled⟩

private theorem grows_start (s : Executions) (k : Nat) (workflow_id : String) (input : AutomationWorkflowInput) :
    Grows s (s.start_workflow k workflow_id input).2 := by
  intro e member
  unfold Executions.start_workflow
  split
  · exact grows_refl s e member
  · exact ⟨e,List.mem_cons_of_mem _ member,rfl,rfl,rfl,fun _ signalled => signalled⟩

private theorem grows_endpoint (k : Nat) (out : Outcomes) (rpc : Rpc) (c : Step) (s : Shared) :
    Grows s.executions (endpoint k out rpc c s).2.executions := by
  cases c with
  | start workflow_id input =>
    cases rpc with
    | unsent => exact grows_refl _
    | lost => exact grows_start s.executions k workflow_id input
    | answered => exact grows_start s.executions k workflow_id input
  | _ => exact grows_refl _

section
variable {repr : Json → String}

private theorem delivered_grows {before after : Executions} (grows : Grows before after) {k : Nat}
    {args : Arguments} (delivered : Delivered repr before k args) : Delivered repr after k args := by
  obtain ⟨e,member,target,reached⟩ := delivered
  obtain ⟨f,later,sameId,sameStarter,sameInput,signals⟩ := grows e member
  refine ⟨f,later,sameId.trans target,?_⟩
  rcases reached with ⟨own,input⟩ | signalled
  · exact .inl ⟨sameStarter.trans own,sameInput ▸ input⟩
  · exact .inr (signals _ signalled)

private theorem start_delivers {s : Executions} {args : Arguments} {input : AutomationWorkflowInput}
    (free : s.running args.workflow_id = false) (own : OwnInput repr args input) (k : Nat) :
    Delivered repr (s.start_workflow k args.workflow_id input).2 k args := by
  have untaken : ¬s.running args.workflow_id = true := by simp [free]
  simp only [Executions.start_workflow,dif_neg untaken]
  exact ⟨_,List.mem_cons_self,rfl,.inl ⟨rfl,own⟩⟩

variable (repr)

/-- The program is not accepted before it starts its workflow, with its own input,
    and not where the start fails. -/
def Unaccepted (args : Arguments) : Request Response → Prop
  | .ret response => response.status_code ≠ 202
  | .raise _ => True
  | .call (.start workflow_id input) k =>
    workflow_id = args.workflow_id ∧ OwnInput repr args input ∧ Unaccepted args (k .failed)
  | .call _ k => ∀ r, Unaccepted args (k r)

variable {repr} {args : Arguments}

private theorem unaccepted_start {input : AutomationWorkflowInput} (own : OwnInput repr args input) :
    Unaccepted repr args (start_claimed args input) := by
  refine ⟨rfl,own,?_⟩
  intro released audited
  trivial

private theorem unaccepted_claim : Unaccepted repr args (claim_and_start repr args) := by
  intro claimed
  rcases claimed with error | claimed
  · trivial
  · cases claimed with
    | false =>
      intro audited
      change duplicate_response.status_code ≠ 202
      decide
    | true =>
      intro departments environ
      simp only [Prog.bind]
      split
      · trivial
      · next input built => exact unaccepted_start ⟨departments,environ,built⟩

private theorem unaccepted_reject (cap : LicenseCap) :
    Unaccepted repr args (reject_for_license_cap repr args cap) := by
  have refused : (429 : Nat) ≠ 202 := by decide
  intro audited
  by_cases keyed : args.event.issue_key.any (· ≠ "")
  · simp only [keyed,if_true]
    intro commented
    exact refused
  · simp only [keyed]
    exact refused

private theorem unaccepted_dispatch : Unaccepted repr args (dispatch_pass repr args) := by
  intro license
  cases license with
  | raised => trivial
  | capped cap => exact unaccepted_reject cap
  | unwired => exact unaccepted_claim
  | allowed => exact unaccepted_claim

variable (repr)

/-- Every request is not accepted yet or is delivered. -/
def Accounted (s : System) : Prop :=
  ∀ k d, s.deliveries k = some d → Unaccepted repr d.args d.thread ∨ Delivered repr s.shared.executions k d.args

variable {repr}

private theorem advance_accounted {d : Delivery} (waiting : Unaccepted repr d.args d.thread) {s : Shared} {k : Nat}
    {out : Outcomes} {rpc : Rpc}
    (free : rpc = .answered → ∀ workflow_id ∈ d.starting, s.executions.running workflow_id = false) :
    Unaccepted repr d.args (advance (endpoint k out rpc) d.thread s).1 ∨
      Delivered repr (advance (endpoint k out rpc) d.thread s).2.executions k d.args := by
  obtain ⟨args,thread⟩ := d
  cases thread with
  | ret response => exact .inl waiting
  | raise error => exact .inl waiting
  | call c rest =>
    cases c with
    | start workflow_id input =>
      obtain ⟨target,own,failed⟩ := waiting
      change workflow_id = args.workflow_id at target
      subst target
      cases rpc with
      | unsent => exact .inl failed
      | lost => exact .inl failed
      | answered => exact .inr (start_delivers (free rfl _ rfl) own k)
    | _ => exact .inl (waiting _)

private theorem accounted_executions {s : System} (accounted : Accounted repr s) {executions : Executions}
    (grows : Grows s.shared.executions executions) : Accounted repr (s.withExecutions executions) := by
  intro k d held
  rcases accounted k d held with waiting | delivered
  · exact .inl waiting
  · exact .inr (delivered_grows grows delivered)

private theorem accounted_step (s : System) (a : Action) (accounted : Accounted repr s) (free : Unoccupied s a) :
    Accounted repr (step repr s a) := by
  cases a with
  | close workflow_id => exact accounted_executions accounted (grows_close _ _)
  | signal workflow_id event => exact accounted_executions accounted (grows_signal _ _ _)
  | receive k args =>
    cases taken : s.deliveries k with
    | some d => simpa only [step,taken] using accounted
    | none =>
      intro j d held
      simp only [step,taken] at held ⊢
      by_cases same : j = k
      · subst same
        rw [Function.update_self,Option.some.injEq] at held
        subst held
        exact .inl unaccepted_dispatch
      · rw [Function.update_of_ne same] at held
        exact accounted j d held
  | resume k out rpc =>
    cases held : s.deliveries k with
    | none => simpa only [step,held] using accounted
    | some current =>
      have grows : Grows s.shared.executions (advance (endpoint k out rpc) current.thread s.shared).2.executions := by
        cases current.thread with
        | ret response => exact grows_refl _
        | raise error => exact grows_refl _
        | call c rest => exact grows_endpoint k out rpc c s.shared
      intro j d resumed
      simp only [step,held] at resumed ⊢
      by_cases same : j = k
      · subst same
        rw [Function.update_self,Option.some.injEq] at resumed
        subst resumed
        rcases accounted j current held with waiting | delivered
        · exact advance_accounted waiting fun answered => free answered current held
        · exact .inr (delivered_grows grows delivered)
      · rw [Function.update_of_ne same] at resumed
        rcases accounted j d resumed with waiting | delivered
        · exact .inl waiting
        · exact .inr (delivered_grows grows delivered)

/-- Runs in which no start is answered while an execution of its workflow id is
    open lose no accepted delivery, in every state they reach. -/
theorem no_accepted_lost (shared : Shared) (actions : List Action)
    (free : Admitted (step repr) Unoccupied (.start shared) actions) :
    NoAcceptedLost repr (actions.foldl (step repr) (.start shared)) := by
  have accounted : Accounted repr (actions.foldl (step repr) (.start shared)) := by
    refine admitted_invariant accounted_step actions _ ?_ free
    intro k d held
    cases held
  intro k d response held returned accepted
  rcases accounted k d held with waiting | delivered
  · rw [returned] at waiting
    exact absurd accepted waiting
  · exact delivered

end

/-! Two comments on one issue. -/

/-- A comment on the issue, delivered as `delivery_id`. -/
def commented (delivery_id body_text : String) : Arguments :=
  { assignedEvent with
    event := { assignedEvent.event with
      event_type := "jira:issue_commented", delivery_id, body_text := some body_text } }

/-- The steps of a request whose start is answered. -/
def processed (k : Nat) (delivery_id body_text : String) : List Action :=
  .receive k (commented delivery_id body_text) ::
    List.replicate 7 (.resume k { outage with start := .started, releasable := true } .answered)

def firstRequests : Shared := ⟨⟨⟨[],List.nodup_nil⟩,[]⟩,.empty⟩

def runFromFirst (actions : List Action) : System :=
  actions.foldl (step fun _ => "") (.start firstRequests)

/-- The second comment arrives while the execution of the first is open. -/
def overlapping : List Action :=
  processed 0 "d-1" "please add a test" ++ processed 1 "d-2" "use the new schema"

theorem accepted_delivery_lost : ¬NoAcceptedLost (fun _ => "") (runFromFirst overlapping) := by
  intro kept
  obtain ⟨e,member,-,reached⟩ := kept 1 _ _ rfl rfl rfl
  rcases List.mem_singleton.mp member with rfl
  rcases reached with ⟨own,-⟩ | signalled
  · cases own
  · cases signalled

/-- The second comment arrives when the execution of the first has closed. -/
def successive : List Action :=
  processed 0 "d-1" "please add a test" ++ .close "automation-jira-PAY-7" ::
    processed 1 "d-2" "use the new schema"

theorem successive_delivered :
    Admitted (step fun _ => "") Unoccupied (.start firstRequests) successive ∧
      (∃ d response, (runFromFirst successive).deliveries 1 = some d ∧ d.thread = .ret response ∧
        response.status_code = 202) ∧
      NoAcceptedLost (fun _ => "") (runFromFirst successive) := by
  have free : Admitted (step fun _ => "") Unoccupied (.start firstRequests) successive := by decide
  exact ⟨free,⟨_,_,rfl,rfl,rfl⟩,no_accepted_lost firstRequests successive free⟩

end Automation.WebhookStarts
