import Automation.AgentRunner

/-!
Cancelling an `AgentRunnerWorkflow`: a cancel is a latched flag that `run` reads
when the body has returned, while each exception of the body has its own way out.
So a cancel is compensated exactly once if the body returns or notices the cancel
itself, and is forgotten if the body fails with any other exception or the
iteration is refused (`cancel_compensated_iff`).
-/
namespace Automation.AgentCancel
open Automation.Effects Automation.Coroutine Automation.AgentMessages Automation.AgentState Automation.AgentHandlers
open Automation.AgentRunner

section
variable {py : Python}

/-- The payloads given to `compensation_chain_run`, in order. -/
def payloads (events : List (Event (agent py))) : List CompensationPayload :=
  events.filterMap fun
    | .began (.compensation_chain_run payload) => some payload
    | _ => none

theorem payloads_append (first second : List (Event (agent py))) :
    payloads (first ++ second) = payloads first ++ payloads second := List.filterMap_append

variable (py) in
theorem payloads_handled (signals : List Delivery) :
    payloads (signals.map (Event.handled (W := agent py))) = [] := by
  simp [payloads,List.filterMap_map]

def isCancel (delivery : Delivery) : Bool := delivery.kind = .cancel_requested

/-- The signals that the events handle. -/
def deliveries (events : List (Event (agent py))) : List Delivery :=
  events.filterMap fun
    | .handled delivery => some delivery
    | _ => none

theorem deliveries_append (first second : List (Event (agent py))) :
    deliveries (first ++ second) = deliveries first ++ deliveries second := List.filterMap_append

theorem deliveries_handled (signals : List Delivery) :
    deliveries (signals.map (Event.handled (W := agent py))) = signals := by
  simp [deliveries,List.filterMap_map]

variable (py) in
/-- What the first cancel among the signals seen leaves in the state. -/
def cancelledBy (seen : List Delivery) : CancelState :=
  match seen.find? isCancel with
  | none => RunnerState.init.cancel
  | some delivery =>
    let (actor_id,actor_role,reason) := coerce_cancel_signal py delivery.payload
    { cancel_requested := true, cancel_actor_id := actor_id, cancel_actor_role := actor_role, cancel_reason := reason
      compensation_running := false }

private theorem cancelledBy_idle (seen : List Delivery) : (cancelledBy py seen).compensation_running = false := by
  unfold cancelledBy
  split <;> rfl

theorem cancelledBy_requested (seen : List Delivery) : (cancelledBy py seen).cancel_requested = seen.any isCancel := by
  rw [cancelledBy,← List.isSome_find?]
  cases seen.find? isCancel <;> rfl

private theorem receive_cancelledBy {self : RunnerState} {seen : List Delivery} (recorded : self.cancel = cancelledBy py seen)
    (delivery : Delivery) : (receive py delivery self).cancel = cancelledBy py (seen ++ [delivery]) := by
  rcases receive_cases py delivery self with ⟨other,kept,_⟩ | ⟨cancels,received⟩
  · have ignored : isCancel delivery = false := by simp [isCancel,other]
    rw [kept,recorded]
    simp [cancelledBy,List.find?_append,ignored]
  · have asked : isCancel delivery = true := by simp [isCancel,cancels]
    have refuses : (self.cancel.cancel_requested || self.cancel.compensation_running) = (seen.find? isCancel).isSome := by
      rw [recorded,cancelledBy_requested,cancelledBy_idle,Bool.or_false,List.isSome_find?]
    rw [received,cancel_requested,refuses]
    cases first : seen.find? isCancel with
    | some earlier => simp [recorded,cancelledBy,List.find?_append,first]
    | none => simp [recorded,cancelledBy,List.find?_append,first,asked,RunnerState.init]

private theorem handle_cancelledBy (signals : List Delivery) {self : RunnerState} {seen : List Delivery}
    (recorded : self.cancel = cancelledBy py seen) :
    (handle (W := agent py) signals self).cancel = cancelledBy py (seen ++ signals) := by
  induction signals generalizing self seen with
  | nil => rw [handle_nil,List.append_nil,recorded]
  | cons delivery rest ih =>
    rw [handle_cons,ih (receive_cancelledBy recorded delivery),List.append_assoc,List.singleton_append]

/-- From `r` to `t` nothing is compensated, and the first cancel handled is recorded. -/
def CancelKept (r t : Run (agent py)) : Prop :=
  ∃ added, t.events = r.events ++ added ∧ payloads added = [] ∧
    ∀ seen, r.self.cancel = cancelledBy py seen → t.self.cancel = cancelledBy py (seen ++ deliveries added)

private theorem CancelKept.ofCancel {r : Run (agent py)} {self : RunnerState} (same : self.cancel = r.self.cancel) :
    CancelKept r { r with self } := by
  refine ⟨[],by simp,rfl,fun seen recorded => ?_⟩
  rw [same,recorded]
  simp [deliveries]

private theorem CancelKept.trans {a b c : Run (agent py)} (first : CancelKept a b) (second : CancelKept b c) :
    CancelKept a c := by
  obtain ⟨added,events,none_added,records⟩ := first
  obtain ⟨more,moreEvents,none_more,moreRecords⟩ := second
  refine ⟨added ++ more,by rw [moreEvents,events,List.append_assoc],?_,fun seen recorded => ?_⟩
  · rw [payloads_append,none_added,none_more,List.append_nil]
  · rw [moreRecords _ (records seen recorded),deliveries_append,List.append_assoc]

private theorem CancelKept.ofSignals (r : Run (agent py)) (signals : List Delivery) (turn : Nat)
    (before after : List (Event (agent py))) (quietBefore : payloads before = []) (quietAfter : payloads after = [])
    (unhandled : deliveries before = [] ∧ deliveries after = []) :
    CancelKept r { self := handle (W := agent py) signals r.self, turn
                   events := r.events ++ (before ++ signals.map (Event.handled (W := agent py)) ++ after) } := by
  refine ⟨_,rfl,?_,fun seen recorded => ?_⟩
  · rw [payloads_append,payloads_append,payloads_handled py,quietBefore,quietAfter]
    rfl
  · rw [deliveries_append,deliveries_append,deliveries_handled,unhandled.1,unhandled.2,List.nil_append,List.append_nil]
    exact handle_cancelledBy signals recorded

private theorem CancelKept.ofActivity (r : Run (agent py)) (c : AgentCall) (signals : List Delivery)
    (reply : Except Failure Json) (turn : Nat) (other : payloads [(.began c : Event (agent py))] = []) :
    CancelKept r (awaited r c signals reply turn) := by
  have kept := CancelKept.ofSignals r signals turn [.began c] [.replied c reply] other rfl ⟨rfl,rfl⟩
  simpa [awaited] using kept

theorem cancelKept_spine : SpineRelation (@CancelKept py) where
  refl r := CancelKept.ofCancel rfl
  trans _ _ _ := CancelKept.trans
  note f r := CancelKept.ofCancel rfl
  record action_kind r := CancelKept.ofCancel rfl
  conclude f r := CancelKept.ofCancel rfl
  activity c signals reply turn r := CancelKept.ofActivity r (.body c) signals reply turn rfl
  commit request signals reply turn r := CancelKept.ofActivity r (.bitbucket_commit_via_git request) signals reply turn rfl
  wait signals ended turn r := by
    have kept := CancelKept.ofSignals r signals turn [] [.waited ended] rfl rfl ⟨rfl,rfl⟩
    simpa [waited] using kept

section
variable {ctx : Context} {inp : AgentRunnerWorkflowInput} {env : Environment (agent ctx.py)}

/-- The program returns an output with the status, and the payloads were sent then. -/
def EndsWith (env : Environment (agent ctx.py)) (p : Agent ctx AgentRunnerWorkflowOutput) (r : Run (agent ctx.py))
    (sent : List CompensationPayload) (status : AgentRunnerStatus) : Prop :=
  Triple (suspend env) p r (fun output t => output.status = status ∧ payloads t.events = sent) fun _ _ => False

variable {r : Run (agent ctx.py)} {sent : List CompensationPayload}

theorem build_output_ends (status : AgentRunnerStatus) (summary : String) (before : payloads r.events = sent) :
    EndsWith env (build_output ctx status summary) r sent status :=
  triple_bind (triple_command (Q := fun _ t => payloads t.events = sent) before) fun _ _ still =>
    triple_pure ⟨rfl,still⟩

private theorem modify_sends (f : RunnerState → RunnerState)
    (before : payloads r.events = sent) :
    Triple (suspend env) (act ctx (.modify f)) r (fun _ t => t.self = f r.self ∧ payloads t.events = sent)
      fun _ _ => False :=
  triple_command ⟨rfl,before⟩

private theorem look_sends (before : payloads r.events = sent) :
    Triple (suspend env) (act ctx .look) r (fun self t => self = r.self ∧ payloads t.events = sent) fun _ _ => False :=
  triple_command ⟨rfl,before⟩

private theorem compensation_sends (payload : CompensationPayload) (before : payloads r.events = sent) :
    Triple (suspend env) (act ctx (.await (.compensation_chain_run payload))) r
      (fun _ t => payloads t.events = sent ++ [payload]) fun _ _ => False := by
  refine triple_command ?_
  have signals := payloads_handled ctx.py (env.activity r.turn (.compensation_chain_run payload)).1
  rw [suspend_await,payloads_append,payloads_append,before]
  change sent ++ payload :: payloads (List.map _ _) ++ [] = sent ++ [payload]
  rw [signals,List.append_nil]

private theorem audit_sends (action : String)
    (before : payloads r.events = sent) :
    Triple (suspend env) ((emit_audit_action ctx inp action).embed (quietEmbedding ctx.py)) r
      (fun _ t => payloads t.events = sent) fun (_ : Empty) _ => False := by
  obtain ⟨added,events,none_added,_⟩ :=
    cancelKept_spine.quiet env (emit_audit_action (ε := Empty) ctx inp action) r
  have still : payloads (exec (quietHandler env) (emit_audit_action (ε := Empty) ctx inp action) r).2.events = sent := by
    rw [events,payloads_append,none_added,before,List.append_nil]
  refine triple_embed (triple_mono (triple_final (P := fun t => payloads t.events = sent) still) (fun _ _ => id) ?_)
  exact fun impossible => impossible.elim

variable (ctx inp) in
/-- What a cancel gives to the chain: the run, and who cancelled it and why. -/
def cancelContext (cancel : CancelState) : CompensationPayload :=
  { workflow_id := ctx.workflow_id, dept_id := inp.department_id, issue_key := inp.issue_key
    actor_id := cancel.cancel_actor_id, actor_role := cancel.cancel_actor_role, reason := cancel.cancel_reason }

variable (ctx inp) in
/-- What a failed critical output action gives to the chain. -/
def criticalContext : CompensationPayload :=
  { workflow_id := ctx.workflow_id, dept_id := inp.department_id, issue_key := inp.issue_key
    actor_id := "", actor_role := "system", reason := "output_action_critical_failed" }

theorem handle_cancel_ends
    (before : payloads r.events = sent) :
    EndsWith env (handle_cancel ctx inp) r (sent ++ [cancelContext ctx inp r.self.cancel]) .cancelled := by
  unfold handle_cancel latch_compensation
  refine triple_bind (modify_sends _ before) fun _ latched still => ?_
  refine triple_bind (look_sends still.2) fun self _ looked => ?_
  have same : cancelContext ctx inp self.cancel = cancelContext ctx inp r.self.cancel := by rw [looked.1,still.1]; rfl
  refine triple_bind (compensation_sends _ looked.2) fun _ _ compensated => ?_
  refine triple_bind (look_sends compensated) fun self _ again => ?_
  refine triple_bind (audit_sends _ again.2) fun _ _ audited => ?_
  rw [← same]
  exact build_output_ends _ _ audited

theorem handle_output_action_critical_ends
    (before : payloads r.events = sent) :
    EndsWith env (handle_output_action_critical ctx inp) r (sent ++ [criticalContext ctx inp]) .failed := by
  unfold handle_output_action_critical latch_compensation
  refine triple_bind (modify_sends _ before) fun _ _ still => ?_
  refine triple_bind (compensation_sends _ still.2) fun _ _ compensated => ?_
  refine triple_bind (look_sends compensated) fun self _ looked => ?_
  exact build_output_ends _ _ looked.2

variable (ctx inp) in
/-- The payloads that follow the end of the body. -/
def sentAfter (cancel : CancelState) : Except String (Option Raised) → List CompensationPayload
  | .ok none => if cancel.cancel_requested then [cancelContext ctx inp cancel] else []
  | .ok (some .cancelledViaSignal) => [cancelContext ctx inp cancel]
  | .ok (some (.outputActionCriticalFailure _)) => [criticalContext ctx inp]
  | _ => []

/-- The status of a run whose body returned. -/
def statusOf (self : RunnerState) : AgentRunnerStatus :=
  if self.cancel.cancel_requested then .cancelled
  else if self.verdict.out_of_scope then .out_of_scope
  else if self.output_actions_partial_kinds.isEmpty = false ∨
      self.notes.output_actions_log.failed_best_effort.isEmpty = false then .completed_with_partial_failure
  else .completed

/-- The status that follows the end of the body. -/
def statusAfter (self : RunnerState) : Except String (Option Raised) → AgentRunnerStatus
  | .error _ => .out_of_scope
  | .ok none => statusOf self
  | .ok (some .cancelledViaSignal) => .cancelled
  | .ok (some .outOfScope) => .out_of_scope
  | .ok (some _) => .failed

variable (inp env) in
private theorem after_exception_ends (raised : Raised) (before : payloads r.events = []) :
    EndsWith env (after_exception ctx inp raised) r (sentAfter ctx inp r.self.cancel (.ok (some raised)))
      (statusAfter r.self (.ok (some raised))) := by
  cases raised with
  | cancelledViaSignal => exact handle_cancel_ends before
  | epicSubtaskFailed child_key => exact build_output_ends _ _ before
  | outOfScope => exact build_output_ends _ _ before
  | outputActionCriticalFailure result =>
    refine triple_bind (modify_sends _ before) fun _ _ still => ?_
    exact handle_output_action_critical_ends still.2
  | tokenCapExceeded activity_name input_tokens cap =>
    exact triple_bind (modify_sends _ before) fun _ _ still => build_output_ends _ _ still.2
  | error failure => exact triple_bind (modify_sends _ before) fun _ _ still => build_output_ends _ _ still.2

variable (inp env) in
private theorem after_return_ends (before : payloads r.events = []) :
    EndsWith env (after_return ctx inp) r (sentAfter ctx inp r.self.cancel (.ok none)) (statusAfter r.self (.ok none)) := by
  have looked : Triple (suspend env) (act ctx .look) r (fun self t => self = r.self ∧ t = r) fun _ _ => False :=
    triple_command ⟨rfl,rfl⟩
  refine triple_bind looked fun self t same => ?_
  rw [same.1,same.2]
  simp only [sentAfter,statusAfter,statusOf]
  by_cases requested : r.self.cancel.cancel_requested = true
  · simp only [requested,if_true]
    exact handle_cancel_ends before
  · by_cases out : r.self.verdict.out_of_scope = true
    · simp only [requested,out,Bool.false_eq_true,if_false,if_true]
      exact build_output_ends _ _ before
    · by_cases partly : r.self.output_actions_partial_kinds.isEmpty = false ∨
        r.self.notes.output_actions_log.failed_best_effort.isEmpty = false
      · simp only [requested,out,partly,Bool.false_eq_true,if_false,if_true]
        exact build_output_ends _ _ before
      · simp only [requested,out,partly,Bool.false_eq_true,if_false]
        exact build_output_ends _ _ before

variable (inp env) in
theorem after_body_end_ends (ended : Except String (Option Raised))
    (before : payloads r.events = []) :
    EndsWith env (after_body_end ctx inp ended) r (sentAfter ctx inp r.self.cancel ended) (statusAfter r.self ended) := by
  match ended with
  | .error reason => exact triple_bind (modify_sends _ before) fun _ _ still => build_output_ends _ _ still.2
  | .ok none => exact after_return_ends inp env before
  | .ok (some raised) => exact after_exception_ends inp env raised before

end
end

section
variable (ctx : Context) (inp : AgentRunnerWorkflowInput) (env : Environment (agent ctx.py)) (pre : List Delivery)

/-- The signals handled until the body ended, those before the first line included. -/
def seenByBody : List Delivery := pre ++ deliveries (bodyEnd ctx inp env pre).2.events

theorem bodyEnd_cancel :
    payloads (bodyEnd ctx inp env pre).2.events = [] ∧
      (bodyEnd ctx inp env pre).2.self.cancel = cancelledBy ctx.py (seenByBody ctx inp env pre) := by
  obtain ⟨added,events,none_added,records⟩ := bodyEnd_keeps inp env pre (@cancelKept_spine ctx.py)
  have recorded : (start ctx pre).self.cancel = cancelledBy ctx.py pre := by
    have fresh : RunnerState.init.cancel = cancelledBy ctx.py [] := rfl
    exact handle_cancelledBy pre fresh
  have seen : added = (bodyEnd ctx inp env pre).2.events := events.symm
  rw [records pre recorded,← seen]
  exact ⟨none_added,by rw [seen,seenByBody]⟩

theorem finished_ends {ended : Except String (Option Raised)} {r : Run (agent ctx.py)}
    (ran : bodyEnd ctx inp env pre = (.ok ended,r)) :
    ∃ output, (finished ctx inp env pre).1 = .ok output ∧ output.status = statusAfter r.self ended ∧
      payloads (finished ctx inp env pre).2.events = sentAfter ctx inp r.self.cancel ended := by
  obtain ⟨clean,_⟩ := bodyEnd_cancel ctx inp env pre
  rw [ran] at clean
  have ends := after_body_end_ends inp env ended clean
  obtain ⟨output,t,result⟩ := exec_returns (suspend env) (after_body_end ctx inp ended) r
  unfold EndsWith Triple at ends
  rw [result] at ends
  rw [finished_eq ctx inp env pre ran,result]
  exact ⟨output,rfl,ends⟩

/-- How often `compensation_chain_run` was executed. -/
def compensations (events : List (Event (agent ctx.py))) : Nat := (payloads events).length

/-- A cancel was handled before the body ended. -/
def CancelHandled : Prop := (seenByBody ctx inp env pre).any isCancel = true

/-- The chain runs at most once, and once in a run that ends as cancelled if a
    cancel was handled before the body ended. -/
def CancelCompensated : Prop :=
  compensations ctx (finished ctx inp env pre).2.events ≤ 1 ∧
    (CancelHandled ctx inp env pre →
      compensations ctx (finished ctx inp env pre).2.events = 1 ∧
        ∃ output, (finished ctx inp env pre).1 = .ok output ∧ output.status = .cancelled)

/-- The body returned, or raised because it noticed the cancel itself. -/
def BodyYields : Prop :=
  ∃ ended, (bodyEnd ctx inp env pre).1 = .ok (.ok ended) ∧ (ended = none ∨ ended = some .cancelledViaSignal)

private theorem sentAfter_length (cancel : CancelState) (ended : Except String (Option Raised)) :
    (sentAfter ctx inp cancel ended).length ≤ 1 := by
  unfold sentAfter
  split
  · split <;> simp
  all_goals simp

private theorem cancelled_iff {self : RunnerState} (requested : self.cancel.cancel_requested = true)
    (ended : Except String (Option Raised)) :
    statusAfter self ended = .cancelled ↔ ended = .ok none ∨ ended = .ok (some .cancelledViaSignal) := by
  match ended with
  | .error reason => simp [statusAfter]
  | .ok none => simp [statusAfter,statusOf,requested]
  | .ok (some raised) => cases raised <;> simp [statusAfter]

private theorem sentAfter_once {cancel : CancelState} (requested : cancel.cancel_requested = true)
    {ended : Except String (Option Raised)} (yields : ended = .ok none ∨ ended = .ok (some .cancelledViaSignal)) :
    (sentAfter ctx inp cancel ended).length = 1 := by
  rcases yields with rfl | rfl
  · simp [sentAfter,requested]
  · rfl

/-- In every run, a cancel is compensated as it should be exactly when, if one was
    handled before the body ended, the body ended by returning or by the cancel. -/
theorem cancel_compensated_iff (ctx : Context) (inp : AgentRunnerWorkflowInput) (env : Environment (agent ctx.py))
    (pre : List Delivery) :
    CancelCompensated ctx inp env pre ↔ (CancelHandled ctx inp env pre → BodyYields ctx inp env pre) := by
  obtain ⟨ended,r,ran⟩ : ∃ ended r, bodyEnd ctx inp env pre = (.ok ended,r) := exec_returns _ _ _
  obtain ⟨output,result,status,sent⟩ := finished_ends ctx inp env pre ran
  have latched : CancelHandled ctx inp env pre → r.self.cancel.cancel_requested = true := by
    intro handled
    have recorded := (bodyEnd_cancel ctx inp env pre).2
    rw [ran] at recorded
    rw [recorded,cancelledBy_requested]
    exact handled
  unfold CancelCompensated compensations BodyYields
  rw [result,sent,ran]
  constructor
  · rintro ⟨_,answers⟩ handled
    obtain ⟨_,_,same,cancelled⟩ := answers handled
    cases same
    rcases (cancelled_iff (latched handled) ended).mp (status.symm.trans cancelled) with rfl | rfl
    · exact ⟨none,rfl,.inl rfl⟩
    · exact ⟨_,rfl,.inr rfl⟩
  · intro yields
    refine ⟨sentAfter_length ctx inp _ ended,fun handled => ?_⟩
    have either : ended = .ok none ∨ ended = .ok (some .cancelledViaSignal) := by
      obtain ⟨_,same,yielded⟩ := yields handled
      cases same
      exact yielded.imp (congrArg _) (congrArg _)
    exact ⟨sentAfter_once ctx inp (latched handled) either,output,rfl,
      status.trans ((cancelled_iff (latched handled) _).mpr either)⟩

end

/-! A reviewer cancels while the diff of the pull request is fetched, and the fetch fails. -/

def cancelled_fetch : Environment (agent worker.py) := replying fun
  | .body (.bitbucket_fetch_pr_diff _ _ _) =>
    ([{ kind := .cancel_requested, payload := .null, now := 0 }],.error ⟨"ActivityError","Activity task failed"⟩)
  | _ => ([],.ok .null)

theorem cancel_forgotten :
    CancelHandled worker (issue "pr_review") cancelled_fetch [] ∧
      compensations worker (finished worker (issue "pr_review") cancelled_fetch []).2.events = 0 ∧
      (∃ output, (finished worker (issue "pr_review") cancelled_fetch []).1 = .ok output ∧ output.status = .failed) ∧
      ¬CancelCompensated worker (issue "pr_review") cancelled_fetch [] := by
  have handled : CancelHandled worker (issue "pr_review") cancelled_fetch [] := rfl
  refine ⟨handled,rfl,⟨_,rfl,rfl⟩,fun compensated => ?_⟩
  have once : (0 : Nat) = 1 := (compensated.2 handled).1
  cases once

end Automation.AgentCancel
