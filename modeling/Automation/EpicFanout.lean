import Automation.AgentCalls
import Automation.AgentFrame
import Automation.AgentRunner
import Automation.Gateway

/-!
The fan-out of an Epic over two levels of workflows. `_handle_multi_step` awaits the
gateway of each subtask in turn, and posts how many are completed. The gateway answers
once it has dispatched the work of the subtask, and only where it awaits that work does
its answer come after it: then the subtasks are worked on one after the other, and the
tallies count what succeeded, as long as the work does succeed (`fanout_faithful`).
-/
namespace Automation.EpicFanout
open Automation.Effects Automation.Coroutine

/-! ### What the answer of a gateway means -/

section
open Automation.Gateway
open Automation.NeedsInfo (TaskAnalysisResult)
variable {ctx : Gateway.Context} {inp : AutomationWorkflowInput}

def Dispatched (events : List (Event (gateway ctx.repr))) : Prop :=
  ∃ spec child payload, .replied (.start_child_workflow spec child) (.ok payload) ∈ events

/-- The decisions on which the Epic stops. -/
def STOPS : List String := ["denied","failed","out_of_scope"]

/-- The answer is that a child was dispatched, and one was; or it is a stop. -/
def Decided (output : AutomationWorkflowOutput) (events : List (Event (gateway ctx.repr))) : Prop :=
  (output.decision = "dispatched" ∧ Dispatched events) ∨ (output.decision ∈ STOPS ∧ ¬Dispatched events)

def StopsOnly {σ α : Type} (decision : σ → String) (outcome : Except σ α) : Prop :=
  ∀ stop, outcome = .error stop → decision stop ∈ STOPS

private theorem stopsOnly_ok {σ α : Type} {decision : σ → String} (value : α) : StopsOnly decision (.ok value) :=
  fun _ is => nomatch is

private theorem stopsOnly_error {σ α : Type} {decision : σ → String} {stop : σ} (listed : decision stop ∈ STOPS) :
    StopsOnly decision (.error stop : Except σ α) := by
  rintro _ ⟨⟩
  exact listed

/-! #### The analyser -/

section
variable {repr : Json → String} {task : NeedsInfo.AutomationWorkflowInput} {α : Type}

abbrev AnalyserStops (outcome : Except NeedsInfo.AutomationStop α) : Prop := StopsOnly NeedsInfo.AutomationStop.decision outcome

private theorem analyser_stopped {decision : String} (listed : decision ∈ STOPS) (workflow_type : Option String)
    (failure_reason summary jira_message : String) :
    Returns (AnalyserStops (α := α)) (NeedsInfo.stop_with_audit repr task decision workflow_type failure_reason summary
      jira_message >>= fun stop => pure (.error stop)) := by
  refine returns_then (ψ := fun stop => stop.decision ∈ STOPS) ?_ fun stop listed => stopsOnly_error listed
  exact returns_bind fun _ => returns_bind fun _ => listed

variable (repr task)

private theorem prepare_stops (comment_body : Option String) :
    Returns AnalyserStops (NeedsInfo.prepare_and_analyse repr task comment_body) := by
  refine returns_bind fun prepared => ?_
  split
  · exact analyser_stopped (by decide) _ _ _ _
  · refine returns_bind fun analysed => ?_
    split
    · exact analyser_stopped (by decide) _ _ _ _
    · exact stopsOnly_ok _

private theorem analyser_round_stops (iteration : Nat) (task_result : TaskAnalysisResult) :
    Returns AnalyserStops (NeedsInfo.needs_info_round repr task iteration task_result) := by
  refine returns_bind fun _ => returns_bind fun _ => returns_bind fun answered => ?_
  split
  · refine returns_bind fun self => returns_then (prepare_stops repr task _) fun outcome stops => ?_
    cases outcome with
    | error stop => exact stopsOnly_error (stops stop rfl)
    | ok again =>
      simp only
      split
      · exact analyser_stopped (by decide) _ _ _ _
      · exact stopsOnly_ok _
  · exact returns_bind fun _ => analyser_stopped (by decide) _ _ _ _

private theorem analyser_loop_stops (remaining : Nat) (task_result : TaskAnalysisResult) :
    Returns AnalyserStops (NeedsInfo.needs_info_loop repr task remaining task_result) := by
  induction remaining generalizing task_result with
  | zero => exact analyser_stopped (by decide) _ _ _ _
  | succ remaining ih =>
    refine returns_then (analyser_round_stops repr task _ task_result) fun outcome stops => ?_
    match outcome with
    | .error stop => exact stopsOnly_error (stops stop rfl)
    | .ok (true,again) => exact stopsOnly_ok _
    | .ok (false,again) => exact ih again

private theorem finish_stops (task_result : TaskAnalysisResult) :
    Returns AnalyserStops (NeedsInfo.finish_analysis repr task task_result) := by
  unfold NeedsInfo.finish_analysis
  split
  · exact analyser_stopped (by decide) _ _ _ _
  · split
    · exact returns_bind fun _ => stopsOnly_ok _
    · exact stopsOnly_ok _

private theorem analyser_stops : Returns AnalyserStops (NeedsInfo.run_task_analyser repr task) := by
  refine returns_then (prepare_stops repr task none) fun outcome stops => ?_
  cases outcome with
  | error stop => exact stopsOnly_error (stops stop rfl)
  | ok task_result =>
    simp only
    split
    · exact analyser_stopped (by decide) _ _ _ _
    · split
      · refine returns_bind fun _ => returns_then (analyser_loop_stops repr task _ task_result) fun outcome stops => ?_
        cases outcome with
        | error stop => exact stopsOnly_error (stops stop rfl)
        | ok again => exact finish_stops repr task again
      · exact finish_stops repr task task_result

end

/-! #### The gateway -/

abbrev GatewayStops {α : Type} (outcome : Except Gateway.AutomationStop α) : Prop :=
  StopsOnly (fun stop : Gateway.AutomationStop => stop.decision) outcome

private theorem stop_returns {decision : String} (listed : decision ∈ STOPS) (workflow_type : Option String)
    (failure_reason summary jira_message : String) (missing_capabilities : List String) :
    Returns (fun stop : Gateway.AutomationStop => stop.decision ∈ STOPS) (Gateway.stop_with_audit ctx inp decision workflow_type
      failure_reason summary jira_message missing_capabilities) := returns_bind fun _ => returns_bind fun _ => listed

private theorem stopped_returns {α : Type} {decision : String} (listed : decision ∈ STOPS) (workflow_type : Option String)
    (failure_reason summary jira_message : String) (missing_capabilities : List String) :
    Returns (GatewayStops (α := α)) (Gateway.stop_with_audit ctx inp decision workflow_type failure_reason summary jira_message
      missing_capabilities >>= fun stop => pure (.error stop)) :=
  returns_then (stop_returns listed _ _ _ _ _) fun _ listed => stopsOnly_error listed

variable (inp) in
private theorem round_stops (iteration : Nat) (analysis : Analysis) :
    Returns GatewayStops (Gateway.needs_info_round ctx inp iteration analysis) := by
  refine returns_bind fun _ => returns_bind fun _ => returns_bind fun _ => returns_bind fun _ => returns_bind fun answered => ?_
  split
  · refine returns_bind fun reply => ?_
    split
    · exact stopsOnly_ok _
    · exact stopped_returns (by decide) _ _ _ _ _
  · exact returns_bind fun _ => stopped_returns (by decide) _ _ _ _ _

variable (inp) in
private theorem loop_stops (remaining : Nat) (analysis : Analysis) :
    Returns GatewayStops (Gateway.needs_info_loop ctx inp remaining analysis) := by
  induction remaining generalizing analysis with
  | zero => exact stopped_returns (by decide) _ _ _ _ _
  | succ remaining ih =>
    refine returns_then (round_stops inp _ analysis) fun outcome stops => ?_
    cases outcome with
    | error stop => exact stopsOnly_error (stops stop rfl)
    | ok next_analysis =>
      simp only
      split
      · exact ih next_analysis
      · exact stopsOnly_ok _

variable (inp) in
private theorem handle_loop_stops (analysis : Analysis) :
    Returns GatewayStops (handle_needs_info_loop ctx inp analysis) := by
  unfold handle_needs_info_loop
  split
  · exact loop_stops inp _ analysis
  · exact stopsOnly_ok _

/-- Where a gate gives a stop, the Epic stops on its decision. -/
def GateStops (outcome : Option Gateway.AutomationStop) : Prop := ∀ stop, outcome = some stop → stop.decision ∈ STOPS

private theorem gateStops_some {decision : String} (listed : decision ∈ STOPS) (workflow_type : Option String)
    (failure_reason summary jira_message : String) (missing_capabilities : List String) :
    Returns GateStops (Gateway.stop_with_audit ctx inp decision workflow_type failure_reason summary jira_message
      missing_capabilities >>= fun stop => pure (some stop)) := by
  refine returns_then (stop_returns listed _ _ _ _ _) ?_
  rintro _ listed _ ⟨⟩
  exact listed

private theorem gateStops_none : GateStops none := fun _ is => nomatch is

variable (inp) in
private theorem capability_gate_stops (workflow_type : String) : Returns GateStops (capability_gate ctx inp workflow_type) := by
  unfold capability_gate
  split
  · split
    · exact gateStops_some (by decide) _ _ _ _ _
    · exact gateStops_some (by decide) _ _ _ _ _
  · simp only
    split
    · exact gateStops_none
    · exact gateStops_some (by decide) _ _ _ _ _

variable (inp) in
private theorem branch_gate_stops (analysis : Analysis) : Returns GateStops (Gateway.branch_gate ctx inp analysis) := by
  unfold Gateway.branch_gate
  simp only
  split
  · refine returns_bind fun decision => ?_
    split
    · exact gateStops_none
    · exact gateStops_some (by decide) _ _ _ _ _
  · exact gateStops_none

/-! #### The run -/

section
variable {env : Environment (gateway ctx.repr)} {r : Run (gateway ctx.repr)} {α : Type}

private theorem undispatched_exec {p : Gate ctx α} (issued : Issues (Act.Calls NoStart) p) (undispatched : ¬Dispatched r.events) :
    Triple (suspend env) p r (fun _ t => ¬Dispatched t.events) fun _ _ => True := by
  refine triple_mono (triple_final (P := fun t : Run (gateway ctx.repr) => ¬Dispatched t.events) ?_) (fun _ _ kept => kept)
    fun _ _ _ => trivial
  rintro ⟨spec,child,payload,replied⟩
  rcases exec_event issued env r replied with old | start
  · exact undispatched ⟨spec,child,payload,old⟩
  · exact start

private theorem undispatched_returns {φ : α → Prop} {p : Gate ctx α} (issued : Issues (Act.Calls NoStart) p) (returns : Returns φ p)
    (undispatched : ¬Dispatched r.events) :
    Triple (suspend env) p r (fun a t => ¬Dispatched t.events ∧ φ a) fun e _ => e.elim :=
  triple_mono (triple_and (undispatched_exec issued undispatched) (triple_returned (suspend env) returns r))
    (fun _ _ both => both) fun e => e.elim

private theorem finalize_decided {stop : Gateway.AutomationStop} (listed : stop.decision ∈ STOPS)
    (undispatched : ¬Dispatched r.events) :
    Triple (suspend env) (finalize_stop ctx inp stop) r (fun output t => Decided output t.events) fun e _ => e.elim := by
  refine triple_bind (R := fun _ t => ¬Dispatched t.events) (triple_mono (undispatched_exec (noStart_best_effort trivial)
    undispatched) (fun _ _ kept => kept) (fun e => e.elim)) fun _ t undispatched => triple_pure (.inr ⟨listed,undispatched⟩)

private theorem start_dispatches (spec : ChildWorkflowSpec) (child : ChildInput) (undispatched : ¬Dispatched r.events) :
    Triple (suspend env) (Gateway.act ctx (.await (.start_child_workflow spec child))) r
      (fun reply t => Dispatched t.events ↔ ∃ payload, reply = .ok payload) fun e _ => e.elim := by
  refine triple_command ⟨?_,?_⟩
  · rintro ⟨spec',child',payload,replied⟩
    simp only [suspend_await,List.mem_append,List.mem_cons,List.mem_map,List.not_mem_nil,or_false] at replied
    rcases replied with (old | no | ⟨_,_,no⟩) | now
    · exact absurd ⟨spec',child',payload,old⟩ undispatched
    · cases no
    · cases no
    · obtain ⟨-,reply⟩ := Event.replied.inj now
      exact ⟨payload,reply.symm⟩
  · rintro ⟨payload,is⟩
    refine ⟨spec,child,payload,?_⟩
    rw [← is]
    simp

private theorem Dispatched.grow {events later : List (Event (gateway ctx.repr))} (dispatched : Dispatched events)
    (grown : events <+: later) : Dispatched later := by
  obtain ⟨spec,child,payload,replied⟩ := dispatched
  exact ⟨spec,child,payload,grown.subset replied⟩

private theorem dispatch_decided (analysis : Analysis) (override : NeedsInfo.DescriptionOverride)
    (undispatched : ¬Dispatched r.events) :
    Triple (suspend env) (Gateway.dispatch ctx inp analysis override) r (fun output t => Decided output t.events)
      fun e _ => e.elim := by
  refine triple_bind (start_dispatches _ _ undispatched) fun reply t started => ?_
  cases reply with
  | error exc =>
    have refused : ¬Dispatched t.events := by
      intro dispatched
      obtain ⟨payload,is⟩ := started.mp dispatched
      cases is
    have listed : "failed" ∈ STOPS := by decide
    refine triple_bind (undispatched_returns (noStart_stop inp _ _ _ _ _ _) (stop_returns listed _ _ _ _ _) refused) ?_
    rintro stop u ⟨undispatched,listed⟩
    exact finalize_decided listed undispatched
  | ok payload =>
    have dispatched : Dispatched t.events := started.mpr ⟨payload,rfl⟩
    refine triple_bind (R := fun _ u => Dispatched u.events) ?_ fun _ u dispatched => ?_
    · exact triple_mono (triple_final (P := fun u : Run (gateway ctx.repr) => Dispatched u.events)
        (dispatched.grow (exec_grows env _ t))) (fun _ _ kept => kept) fun e => e.elim
    · refine triple_bind (R := fun _ u => Dispatched u.events) ?_ fun _ u dispatched => triple_pure (.inl ⟨rfl,dispatched⟩)
      exact triple_mono (triple_final (P := fun u : Run (gateway ctx.repr) => Dispatched u.events)
        (dispatched.grow (exec_grows env _ u))) (fun _ _ kept => kept) fun e => e.elim

private theorem gated_dispatch_decided (analysis : Analysis) (override : NeedsInfo.DescriptionOverride)
    (undispatched : ¬Dispatched r.events) :
    Triple (suspend env) (gated_dispatch ctx inp analysis override) r (fun output t => Decided output t.events)
      fun e _ => e.elim := by
  refine triple_bind (undispatched_returns (noStart_capability_gate inp _) (capability_gate_stops inp _) undispatched) ?_
  rintro stop s ⟨undispatched,stops⟩
  cases stop with
  | some stop => exact finalize_decided (stops stop rfl) undispatched
  | none =>
    refine triple_bind (undispatched_returns (noStart_branch_gate inp analysis) (branch_gate_stops inp analysis) undispatched) ?_
    rintro stop t ⟨undispatched,stops⟩
    cases stop with
    | some stop => exact finalize_decided (stops stop rfl) undispatched
    | none => exact dispatch_decided analysis override undispatched

variable (inp) in
theorem run_decided (undispatched : ¬Dispatched r.events) :
    Triple (suspend env) (Gateway.run ctx inp) r (fun output t => Decided output t.events) fun e _ => e.elim := by
  refine triple_bind (undispatched_returns (noStart_comment _ _ _) (returns_all (fun _ => trivial) _) undispatched) ?_
  rintro _ s ⟨undispatched,-⟩
  refine triple_bind (undispatched_returns (noStart_analyser _) (returns_embed (analyser_stops ctx.repr _)) undispatched) ?_
  rintro outcome t ⟨undispatched,stops⟩
  match outcome with
  | .error stop => exact finalize_decided (stops stop rfl) undispatched
  | .ok (task_result,override) =>
    refine triple_bind (undispatched_returns (noStart_handle_loop inp _) (handle_loop_stops inp _) undispatched) ?_
    rintro outcome u ⟨undispatched,stops⟩
    cases outcome with
    | error stop => exact finalize_decided (stops stop rfl) undispatched
    | ok analysis => exact gated_dispatch_decided analysis override undispatched

end
end

/-! ### The gateways of the subtasks -/

section
open Automation.Gateway
open Automation.AgentMessages (Failure)

/-- A whole run of a gateway, with its answer. -/
def gatewayRun (ctx : Gateway.Context) (inp : AutomationWorkflowInput) (env : Environment (gateway ctx.repr))
    (self : NeedsInfo.AutomationState) : AutomationWorkflowOutput × Run (gateway ctx.repr) :=
  match exec (suspend env) (Gateway.run ctx inp) { self, turn := 0, events := [] } with
  | (.ok output,t) => (output,t)
  | (.error e,_) => e.elim

theorem gatewayRun_decided (ctx : Gateway.Context) (inp : AutomationWorkflowInput) (env : Environment (gateway ctx.repr))
    (self : NeedsInfo.AutomationState) : Decided (gatewayRun ctx inp env self).1 (gatewayRun ctx inp env self).2.events := by
  have nothing : ¬Dispatched ([] : List (Event (gateway ctx.repr))) := fun ⟨_,_,_,replied⟩ => nomatch replied
  have decided := @run_decided ctx inp env { self, turn := 0, events := [] } nothing
  unfold Triple at decided
  unfold gatewayRun
  split at decided
  · next ended => rw [ended]; exact decided
  · next e _ _ => exact e.elim

/-- The answer as it crosses the boundary. -/
def outputJson (output : AutomationWorkflowOutput) : Json :=
  .obj [("decision",.str output.decision),("workflow_type",.ofOption output.workflow_type),
    ("child_workflow_id",.ofOption output.child_workflow_id),("summary",.str output.summary),
    ("failure_reason",.ofOption output.failure_reason),("missing_capabilities",.arr (output.missing_capabilities.map .str))]

/-- What serves the call of a subtask: a gateway that ran, or one that raised or timed out. -/
inductive Service where
  | failed (failure : Failure)
  | ran (ctx : Gateway.Context) (inp : AutomationWorkflowInput) (env : Environment (gateway ctx.repr))
    (self : NeedsInfo.AutomationState)

def Service.reply : Service → Except Failure Json
  | .failed failure => .error failure
  | .ran ctx inp env self => .ok (outputJson (gatewayRun ctx inp env self).1)

/-- The gateway ran to its end, and dispatched no work. -/
def Service.Idle : Service → Prop
  | .failed _ => False
  | .ran ctx inp env self => ¬Dispatched (gatewayRun ctx inp env self).2.events

/-- The gateway awaited the work that it dispatched, and this is what it got. -/
def Service.Awaited (service : Service) (result : Except String Payload) : Prop :=
  match service with
  | .failed _ => False
  | .ran ctx inp env self => ∃ workflow_id, .replied (.child_handle workflow_id) result ∈ (gatewayRun ctx inp env self).2.events

/-- The `status` of an `ExecutionRunWorkflowOutput`. -/
def passed : Except String Payload → Bool
  | .ok (.value result) => (result.get "status").asStr = some "passed"
  | _ => false

/-- When the work of a subtask ended, by the number of events until then, and whether it
    was successful. -/
structure WorkEnd where
  position : Nat
  succeeded : Bool

/-- What the run of the gateway says of the end of the work: work that was awaited has
    ended, and there is none where none was dispatched. -/
structure Service.Explains (service : Service) (ended : Option WorkEnd) (now : Nat) : Prop where
  awaited : ∀ result, service.Awaited result → ∃ position ≤ now, ended = some { position, succeeded := passed result }
  idle : service.Idle → ended = none

/-- The work that a gateway dispatched was awaited and passed; a gateway that failed leaves
    no work that succeeds. -/
def Service.Sound (service : Service) (ended : Option WorkEnd) : Prop :=
  match service with
  | .failed _ => ∀ work, ended = some work → work.succeeded = false
  | .ran _ _ _ _ => service.Idle ∨ ∃ result, service.Awaited result ∧ passed result = true

end

/-! ### Tallies -/

section
open Automation.AgentMessages Automation.AgentState Automation.AgentExtract Automation.AgentHandlers Automation.AgentCalls
open Automation.AgentFrame

def progress_text (child_key : String) (completed total : Nat) : String :=
  " " ++ progress completed total ++ " subtask tamamlandı (`" ++ child_key ++ "`)."

def raised_text (child_key : String) (completed total skipped : Nat) : String :=
  " Subtask " ++ child_key ++ " başarısız oldu - Epic durduruldu (" ++ progress completed total ++ " tamamlandı, " ++
    toString skipped ++ " atlandı)."

def refused_text (child_key decision : String) (completed total skipped : Nat) : String :=
  " Subtask " ++ child_key ++ " işlenemedi (sonuç: " ++ decision ++ ") - Epic durduruldu (" ++ progress completed total ++
    " tamamlandı, " ++ toString skipped ++ " atlandı)."

def final_text (completed total : Nat) : String := " Epic tamamlandı - " ++ progress completed total ++ " subtask işlendi."

/-- The comment gives the numbers of the completed subtasks and of all; a stop gives the
    number of the skipped ones too. -/
inductive Posts (completed total : Nat) : Option Nat → String → Prop
  | progress (child_key : String) : Posts completed total none (progress_text child_key completed total)
  | final : Posts completed total none (final_text completed total)
  | raised (child_key : String) (skipped : Nat) : Posts completed total (some skipped) (raised_text child_key completed total skipped)
  | refused (child_key decision : String) (skipped : Nat) :
    Posts completed total (some skipped) (refused_text child_key decision completed total skipped)

def IsTally (text : String) : Prop := ∃ completed total skipped, Posts completed total skipped text

private theorem begins_second {first text : String} (begins : Begins first text) {c : Char}
    (second : first.toList[1]? = some c) : text.toList[1]? = some c := by
  obtain ⟨rest,shape⟩ := begins
  have inside : 1 < first.toList.length := (List.getElem?_eq_some_iff.mp second).1
  rw [← shape,List.getElem?_append_left inside]
  exact second

private theorem second_digit (n : Nat) : ∃ c : Char, (" " ++ toString n).toList[1]? = some c ∧ c.isDigit = true := by
  obtain ⟨digit,digits,is⟩ := List.exists_cons_of_ne_nil (@Nat.toDigits_ne_nil n 10)
  refine ⟨digit,?_,Nat.isDigit_of_mem_toDigits (b := 10) (n := n) (by decide) (by decide) (by simp [is])⟩
  rw [Nat.toString_eq_repr,String.toList_append,Nat.toList_repr,is]
  rfl

private theorem tally_second {text : String} (tally : IsTally text) :
    ∃ c, text.toList[1]? = some c ∧ (c.isDigit = true ∨ c = 'S' ∨ c = 'E') := by
  obtain ⟨completed,total,skipped,posts⟩ := tally
  cases posts with
  | progress child_key =>
    obtain ⟨digit,second,is⟩ := second_digit completed
    have begins : Begins (" " ++ toString completed) (progress_text child_key completed total) := by
      unfold progress_text AgentHandlers.progress
      rw [← String.append_assoc,← String.append_assoc]
      exact ((((((begins_self _).append _).append _).append _).append _).append _)
    exact ⟨digit,begins_second begins second,.inl is⟩
  | final =>
    exact ⟨'E',begins_second (((begins_self " Epic tamamlandı - ").append _).append _) (by decide),.inr (.inr rfl)⟩
  | raised child_key skipped =>
    have begins : Begins " Subtask " (raised_text child_key completed total skipped) :=
      (((((((begins_self _).append _).append _).append _).append _).append _).append _)
    exact ⟨'S',begins_second begins (by decide),.inr (.inl rfl)⟩
  | refused child_key decision skipped =>
    have begins : Begins " Subtask " (refused_text child_key decision completed total skipped) :=
      (((((((((begins_self _).append _).append _).append _).append _).append _).append _).append _).append _)
    exact ⟨'S',begins_second begins (by decide),.inr (.inl rfl)⟩

private theorem no_tally {first text : String} (begins : Begins first text) {c : Char} (second : first.toList[1]? = some c)
    (other : c.isDigit = false ∧ c ≠ 'S' ∧ c ≠ 'E') : ¬IsTally text := by
  intro tally
  obtain ⟨found,same,is⟩ := tally_second tally
  rw [begins_second begins second] at same
  obtain rfl := Option.some.inj same
  rcases is with digit | s | e
  · rw [other.1] at digit
    cases digit
  · exact other.2.1 s
  · exact other.2.2 e

private theorem guidance_no_tally : ¬IsTally
    " Bu Epic için işlenecek subtask bulunamadı. Epic'e subtask ekleyip yorum yazarak yeniden tetikleyin." :=
  no_tally (begins_self _) (c := 'B') (by decide) (by decide)

private theorem draft_no_tally (url : String) : ¬IsTally (" Draft PR açıldı: " ++ url) :=
  no_tally ((begins_self " Draft PR açıldı: ").append url) (c := 'D') (by decide) (by decide)

/-! ### The fan-out -/

section
variable {py : Python}

/-- The subtask whose automation the event starts, by the id of its gateway. -/
def startOf : Event (agent py) → Option String
  | .began (.body (.AutomationWorkflow id _)) => some id
  | _ => none

def started (events : List (Event (agent py))) : List String := events.filterMap startOf

section
variable (ended : String → Option WorkEnd)

def succeededBy (now : Nat) (id : String) : Bool :=
  match ended id with
  | some work => work.succeeded && decide (work.position ≤ now)
  | none => false

/-- The number of the subtasks whose work has succeeded. -/
def succeeded (events : List (Event (agent py))) : Nat := (started events).countP (succeededBy ended events.length)

/-- No subtask is started before the work of all earlier ones succeeded, and a tally counts
    what has succeeded and, on a stop, what is skipped. -/
def FaithfulAt (total : Nat) (before : List (Event (agent py))) (e : Event (agent py)) : Prop :=
  match e with
  | .began (.body (.AutomationWorkflow _ _)) => ∀ id ∈ started before, succeededBy ended before.length id = true
  | .began (.body (.jira_add_comment _ text _)) => IsTally text →
    ∃ skipped, Posts (succeeded ended before) total skipped text ∧
      ∀ n, skipped = some n → succeeded ended before + 1 + n = total
  | _ => True

def Faithful (total : Nat) (events : List (Event (agent py))) : Prop := Throughout (FaithfulAt ended total) events

variable (services : String → Service)

/-- Every answer is that of the service. -/
def Served (events : List (Event (agent py))) : Prop :=
  ∀ id input reply, .replied (.body (.AutomationWorkflow id input)) reply ∈ events → reply = (services id).reply

/-- The works end as the runs of the gateways say. -/
def Consistent (events : List (Event (agent py))) : Prop :=
  Throughout (fun before e => ∀ id input reply, e = .replied (.body (.AutomationWorkflow id input)) reply →
    (services id).Explains (ended id) before.length) events

/-- Every gateway that answered is sound. -/
def AllSound (events : List (Event (agent py))) : Prop :=
  ∀ id input reply, .replied (.body (.AutomationWorkflow id input)) reply ∈ events → (services id).Sound (ended id)

/-- What is supposed of a run. -/
structure Supposed (events : List (Event (agent py))) : Prop where
  served : Served services events
  consistent : Consistent ended services events
  sound : AllSound ended services events

end

/-! #### Growth -/

variable {ended : String → Option WorkEnd} {services : String → Service} {total : Nat}

private theorem succeededBy_grow {now later : Nat} {id : String} (done : succeededBy ended now id = true) (grown : now ≤ later) :
    succeededBy ended later id = true := by
  unfold succeededBy at done ⊢
  split at done
  · simp only [Bool.and_eq_true,decide_eq_true_eq] at done ⊢
    exact ⟨done.1,done.2.trans grown⟩
  · cases done

private theorem Supposed.initial {events later : List (Event (agent py))} (supposed : Supposed ended services later)
    (grown : events <+: later) : Supposed ended services events where
  served id input reply member := supposed.served id input reply (grown.subset member)
  consistent := supposed.consistent.initial grown
  sound id input reply member := supposed.sound id input reply (grown.subset member)

/-- The events of an activity. -/
def spanned (c : AgentState.Call) (signals : List Delivery) (reply : Except Failure Json) : List (Event (agent py)) :=
  .began (.body c) :: (signals.map (Event.handled (W := agent py)) ++ [.replied (.body c) reply])

private theorem started_spanned (events : List (Event (agent py))) (c : AgentState.Call) (signals : List Delivery)
    (reply : Except Failure Json) :
    started (events ++ spanned c signals reply) = started events ++ (@startOf py (.began (.body c))).toList := by
  have handled : (signals.map (Event.handled (W := agent py))).filterMap startOf = [] := by
    rw [List.filterMap_map,List.filterMap_eq_nil_iff]
    exact fun _ _ => rfl
  have last : [Event.replied (AgentCall.body c) reply].filterMap (@startOf py) = [] := rfl
  unfold started spanned
  rw [List.filterMap_append,List.filterMap_cons,List.filterMap_append,handled,last]
  cases @startOf py (.began (.body c)) <;> rfl

private theorem faithful_spanned {events : List (Event (agent py))} (faithful : Faithful ended total events)
    {c : AgentState.Call} (here : FaithfulAt ended total events (.began (.body c))) (signals : List Delivery)
    (reply : Except Failure Json) : Faithful ended total (events ++ spanned c signals reply) := by
  refine throughout_append faithful ?_
  intro before e after split
  unfold spanned at split
  cases before with
  | nil =>
    obtain ⟨rfl,-⟩ := List.cons.inj split
    simpa using here
  | cons first before =>
    have member : e ∈ signals.map (Event.handled (W := agent py)) ++ [.replied (.body c) reply] := by
      obtain ⟨-,rest⟩ := List.cons.inj split
      rw [rest]
      simp
    rcases List.mem_append.mp member with handled | last
    · obtain ⟨signal,-,rfl⟩ := List.mem_map.mp handled
      trivial
    · obtain rfl := List.mem_singleton.mp last
      trivial

end

/-! #### Calls that neither start a subtask nor post a tally -/

def Plain : AgentState.Call → Prop
  | .AutomationWorkflow _ _ => False
  | .jira_add_comment _ text _ => ¬IsTally text
  | _ => True

section
variable {ctx : AgentHandlers.Context} {inp : AgentRunnerWorkflowInput} {env : Environment (agent ctx.py)} {r : Run (agent ctx.py)}
  {ended : String → Option WorkEnd} {services : String → Service} {total : Nat} {α β : Type}

private theorem plain_faithful {c : AgentState.Call} (plain : Plain c) (before : List (Event (agent ctx.py))) :
    FaithfulAt ended total before (.began (.body c)) := by
  unfold FaithfulAt
  split
  · next is => cases is; exact plain.elim
  · next is => cases is; exact fun tally => absurd tally plain
  · trivial

private theorem assign_plain : Plain (.set_assignee_to_bot inp.issue_key inp.department_id) := trivial

private theorem list_plain : Plain (.jira_list_epic_children inp.issue_key inp.department_id) := trivial

private theorem plain_step {step : BodyStep} (plain : bodyCalls Plain step) (r : Run (agent ctx.py))
    (faithful : Faithful ended total r.events) : Faithful ended total (bodyHandler env step r).2.events := by
  cases step with
  | conclude f => exact faithful
  | quiet step =>
    cases step with
    | look => exact faithful
    | note f => exact faithful
    | record action_kind => exact faithful
    | clock => exact faithful
    | await c =>
      have spans := faithful_spanned faithful (plain_faithful plain _) (env.activity r.turn (.body c)).1
        (env.activity r.turn (.body c)).2
      change Faithful ended total (r.events ++ .began (.body c) :: _ ++ _)
      rw [List.append_assoc]
      exact spans
    | wait ready =>
      have reads : Reads (W := agent ctx.py) fun self => (ready self,self) := fun _ => rfl
      obtain ⟨signals,result,turn,ran⟩ := suspend_wait_reads env reads r
      change Faithful ended total (suspend env (.wait fun self => (ready self,self)) r).2.events
      rw [ran]
      simp only [List.append_assoc]
      refine throughout_append faithful (throughout_of fun before e member => ?_)
      rcases List.mem_append.mp member with handled | last
      · obtain ⟨signal,-,rfl⟩ := List.mem_map.mp handled
        trivial
      · obtain rfl := List.mem_singleton.mp last
        trivial

private theorem exec_plain {p : Body α} (issued : Issues (bodyCalls Plain) p) (faithful : Faithful ended total r.events) :
    Faithful ended total (exec (bodyHandler env) p r).2.events :=
  exec_issues (R := fun r t : Run (agent ctx.py) => Faithful ended total r.events → Faithful ended total t.events)
    (fun _ holds => holds) (fun _ _ _ one two holds => two (one holds)) _ (fun _ r plain => plain_step plain r) issued r faithful

private theorem body_grows (p : Body α) (r : Run (agent ctx.py)) : r.events <+: (exec (bodyHandler env) p r).2.events := by
  rw [bodyHandler,← exec_embed]
  exact exec_grows env _ r

private theorem triple_body_await {c : AgentState.Call} {f : Except Failure Json → Body β} {Q : β → Run (agent ctx.py) → Prop}
    {X : Raised → Run (agent ctx.py) → Prop}
    (each : ∀ signals reply turn, Triple (bodyHandler env) (f reply) (awaited r (.body c) signals reply turn) Q X) :
    Triple (bodyHandler env) (quiet (await c) >>= f) r Q X := each _ _ _

private theorem plain_output_actions : Issues (bodyCalls Plain) (maybe_execute_llm_output_actions ctx inp) := by
  have calls : ActionCalls ctx inp (fun _ => True) Plain :=
    ⟨fun _ _ => trivial,fun url => draft_no_tally url,fun _ _ _ _ _ _ _ => trivial⟩
  exact calls_output_actions calls (returns_all (fun _ _ _ => trivial) _)

/-! #### One subtask after the other -/

/-- The number of subtasks that the Epic was found to have. -/
def listed (ctx : AgentHandlers.Context) (events : List (Event (agent ctx.py))) : Option Nat :=
  events.findSome? fun
    | .replied (.body (.jira_list_epic_children _ _)) (.ok children) => some (normalise_epic_children ctx.py children).length
    | _ => none

private theorem listed_grow {events later : List (Event (agent ctx.py))} (is : listed ctx events = some total)
    (grown : events <+: later) : listed ctx later = some total := by
  obtain ⟨rest,rfl⟩ := grown
  unfold listed at is ⊢
  rw [List.findSome?_append,is,Option.some_or]

/-- The fan-out has been through `n` of the subtasks. -/
structure Stage (ctx : AgentHandlers.Context) (ended : String → Option WorkEnd) (services : String → Service) (n total : Nat)
    (events : List (Event (agent ctx.py))) : Prop where
  listed : listed ctx events = some total
  count : (started events).length = n
  faithful : Supposed ended services events → Faithful ended total events
  done : Supposed ended services events → ∀ id ∈ started events, succeededBy ended events.length id = true

/-- What the end of the fan-out has to show. -/
def Concluded (ended : String → Option WorkEnd) (services : String → Service) (t : Run (agent ctx.py)) : Prop :=
  Supposed ended services t.events → Faithful ended ((EpicFanout.listed ctx t.events).getD 0) t.events

private theorem concluded_of {t : Run (agent ctx.py)} (is : listed ctx t.events = some total)
    (faithful : Supposed ended services t.events → Faithful ended total t.events) : Concluded ended services t := by
  intro supposed
  rw [is]
  exact faithful supposed

private theorem awaited_events (c : AgentState.Call) (signals : List Delivery) (reply : Except Failure Json) (turn : Nat) :
    (awaited r (.body c) signals reply turn).events = r.events ++ spanned c signals reply := by
  rw [awaited,spanned,List.append_assoc]
  rfl

private theorem comment_posts (text : String) :
    Triple (bodyHandler env) (quiet (post_jira_comment_best_effort inp text)) r
      (fun _ t => ∃ signals reply,
        t.events = r.events ++ spanned (.jira_add_comment inp.issue_key text inp.department_id) signals reply)
      fun _ _ => False := by
  refine triple_quiet (triple_await fun signals reply turn => ?_)
  have posted := @awaited_events ctx r (.jira_add_comment inp.issue_key text inp.department_id) signals reply turn
  cases reply with
  | ok value => exact triple_pure ⟨signals,_,posted⟩
  | error failure => exact triple_command ⟨signals,_,posted⟩

/-- The gateway of the subtask `id`, after `n` others, has just answered. -/
structure Answered (ctx : AgentHandlers.Context) (ended : String → Option WorkEnd) (services : String → Service) (n total : Nat)
    (events : List (Event (agent ctx.py))) (id : String) (reply : Except Failure Json) : Prop where
  listed : listed ctx events = some total
  starts : ∃ earlier, started events = earlier ++ [id] ∧ earlier.length = n ∧
    (Supposed ended services events → ∀ other ∈ earlier, succeededBy ended events.length other = true)
  faithful : Supposed ended services events → Faithful ended total events
  served : Supposed ended services events → reply = (services id).reply
  explained : Supposed ended services events → (services id).Explains (ended id) events.length
  sound : Supposed ended services events → (services id).Sound (ended id)

private theorem Service.Explains.later {service : Service} {work : Option WorkEnd} {now later : Nat}
    (explained : service.Explains work now) (grown : now ≤ later) : service.Explains work later := by
  refine ⟨?_,explained.idle⟩
  intro result awaited
  obtain ⟨position,past,is⟩ := explained.awaited result awaited
  exact ⟨position,past.trans grown,is⟩

private theorem Stage.answered {n : Nat} {events : List (Event (agent ctx.py))} (stage : Stage ctx ended services n total events)
    (id : String) (input : Json) (signals : List Delivery) (reply : Except Failure Json) :
    Answered ctx ended services n total (events ++ spanned (.AutomationWorkflow id input) signals reply) id reply := by
  have grown : events <+: events ++ spanned (.AutomationWorkflow id input) signals reply := List.prefix_append _ _
  have split : events ++ spanned (.AutomationWorkflow id input) signals reply =
      (events ++ .began (.body (.AutomationWorkflow id input)) :: signals.map (Event.handled (W := agent ctx.py))) ++
        .replied (.body (.AutomationWorkflow id input)) reply :: [] := by
    simp [spanned]
  have member : .replied (.body (.AutomationWorkflow id input)) reply ∈
      events ++ spanned (.AutomationWorkflow id input) signals reply := by
    rw [split]
    exact List.mem_append_right _ (List.mem_cons_self ..)
  constructor
  · exact listed_grow stage.listed grown
  · refine ⟨started events,started_spanned _ _ _ _,stage.count,fun supposed other early => ?_⟩
    exact succeededBy_grow (stage.done (supposed.initial grown) other early) grown.length_le
  · intro supposed
    have here : FaithfulAt ended total events (.began (.body (.AutomationWorkflow id input))) :=
      stage.done (supposed.initial grown)
    exact faithful_spanned (stage.faithful (supposed.initial grown)) here signals reply
  · exact fun supposed => supposed.served id input reply member
  · intro supposed
    refine (supposed.consistent _ _ _ split id input reply rfl).later ?_
    rw [split]
    exact (List.prefix_append _ _).length_le
  · exact fun supposed => supposed.sound id input reply member

/-! #### What the answer means for the tally -/

section
variable {n : Nat} {events : List (Event (agent ctx.py))} {id : String} {reply : Except Failure Json}

private theorem succeeded_all (count : (started events).length = n)
    (done : ∀ id ∈ started events, succeededBy ended events.length id = true) : succeeded ended events = n := by
  unfold succeeded
  rw [List.countP_eq_length.mpr done,count]

private theorem Answered.counts (answered : Answered ctx ended services n total events id reply)
    (supposed : Supposed ended services events) :
    succeeded ended events = n + (succeededBy ended events.length id).toNat := by
  obtain ⟨earlier,shape,count,done⟩ := answered.starts
  unfold succeeded
  rw [shape,List.countP_append,List.countP_eq_length.mpr (done supposed),count,List.countP_singleton]
  cases succeededBy ended events.length id <;> rfl

private theorem Answered.raised {failure : Failure} (answered : Answered ctx ended services n total events id (.error failure))
    (supposed : Supposed ended services events) : succeededBy ended events.length id = false := by
  have served := answered.served supposed
  have sound := answered.sound supposed
  cases service : services id with
  | ran ctx inp env self =>
    rw [service] at served
    cases served
  | failed failure =>
    rw [service] at sound
    unfold succeededBy
    split
    · next work is => rw [sound work is,Bool.false_and]
    · rfl

private theorem decision_read (py : Python) {output : Gateway.AutomationWorkflowOutput}
    (known : output.decision = "dispatched" ∨ output.decision ∈ STOPS) :
    extract_child_decision py (outputJson output) = output.decision := by
  have plain : ∀ decision ∈ "dispatched" :: STOPS, PyText.lower (PyText.strip decision) = decision ∧ decision ≠ "" := by
    decide
  obtain ⟨lowered,named⟩ := plain output.decision (List.mem_cons.mpr known)
  have found : ((outputJson output).get "decision").orElse (.str "dispatched") = .str output.decision :=
    if_pos (bne_iff_ne.mpr named)
  unfold extract_child_decision pyString
  rw [found]
  exact lowered

private theorem Answered.decided {output : Json} (answered : Answered ctx ended services n total events id (.ok output))
    (supposed : Supposed ended services events) :
    succeededBy ended events.length id = !STOPS.contains (extract_child_decision ctx.py output) := by
  have served := answered.served supposed
  have sound := answered.sound supposed
  have explained := answered.explained supposed
  cases service : services id with
  | failed failure =>
    rw [service] at served
    cases served
  | ran gateway_ctx inp env self =>
    rw [service] at served sound explained
    obtain rfl := Except.ok.inj served
    have decided := gatewayRun_decided gateway_ctx inp env self
    rw [decision_read ctx.py (decided.imp And.left And.left)]
    rcases decided with ⟨is,dispatched⟩ | ⟨stops,undispatched⟩
    · rcases sound with idle | ⟨result,awaited,pass⟩
      · exact absurd dispatched idle
      · obtain ⟨position,past,work⟩ := explained.awaited result awaited
        rw [is,succeededBy,work,pass]
        simp [STOPS,past]
    · have none_ended := explained.idle undispatched
      rw [succeededBy,none_ended,List.contains_iff_mem.mpr stops]
      rfl

private theorem Answered.all_done {output : Json} (answered : Answered ctx ended services n total events id (.ok output))
    (goes_on : STOPS.contains (extract_child_decision ctx.py output) = false) (supposed : Supposed ended services events) :
    ∀ other ∈ started events, succeededBy ended events.length other = true := by
  obtain ⟨earlier,shape,-,done⟩ := answered.starts
  intro other member
  rw [shape] at member
  rcases List.mem_append.mp member with early | last
  · exact done supposed other early
  · rw [List.mem_singleton.mp last,answered.decided supposed,goes_on]
    rfl

end

/-! #### The loop -/

section
variable {n : Nat} {id : String} {reply : Except Failure Json}

private theorem Answered.posted (answered : Answered ctx ended services n total r.events id reply) {text : String}
    (counts : Supposed ended services r.events → ∃ skipped, Posts (succeeded ended r.events) total skipped text ∧
      ∀ m, skipped = some m → succeeded ended r.events + 1 + m = total) :
    Triple (bodyHandler env) (quiet (post_jira_comment_best_effort inp text)) r
      (fun _ t => r.events <+: t.events ∧ started t.events = started r.events ∧
        (Supposed ended services t.events → Faithful ended total t.events)) fun _ _ => False := by
  refine triple_mono (comment_posts text) ?_ fun _ _ no => no
  rintro _ t ⟨signals,posted_reply,events⟩
  rw [events]
  have grown : r.events <+: r.events ++ spanned (.jira_add_comment inp.issue_key text inp.department_id) signals posted_reply :=
    List.prefix_append _ _
  refine ⟨grown,(started_spanned _ _ _ _).trans (List.append_nil _),fun supposed => ?_⟩
  have early := supposed.initial grown
  have here : FaithfulAt ended total r.events (.began (.body (.jira_add_comment inp.issue_key text inp.department_id))) :=
    fun _ => counts early
  exact faithful_spanned (answered.faithful early) here signals posted_reply

private theorem stop_concludes (answered : Answered ctx ended services n total r.events id reply) {child_key text : String}
    (counts : Supposed ended services r.events → ∃ skipped, Posts (succeeded ended r.events) total skipped text ∧
      ∀ m, skipped = some m → succeeded ended r.events + 1 + m = total) {Q : Unit → Run (agent ctx.py) → Prop} :
    Triple (bodyHandler env) (stop_epic inp child_key text) r Q fun _ t => Concluded ended services t := by
  refine triple_bind (R := fun _ t => t.events = r.events) (triple_command rfl) fun _ s same => ?_
  rw [← same] at answered counts
  refine triple_bind (triple_mono (answered.posted counts) (fun _ _ posted => posted) fun _ _ no => no.elim) ?_
  rintro _ t ⟨grown,-,faithful⟩
  exact triple_raise (concluded_of (listed_grow answered.listed grown) faithful)

variable (ctx inp env) in
private theorem run_subtasks_stages (keys : List String) :
    ∀ (n : Nat) (r : Run (agent ctx.py)), Stage ctx ended services n total r.events → n + keys.length = total →
      Triple (bodyHandler env) (run_subtasks ctx inp total (keys.zipIdx n)) r
        (fun _ t => Stage ctx ended services total total t.events) fun _ t => Concluded ended services t := by
  induction keys with
  | nil =>
    intro n r stage all
    obtain rfl : n = total := all
    exact triple_pure stage
  | cons child_key rest ih =>
    intro n r stage all
    have skipped : n + 1 + (total - (n + 1)) = total := by
      rw [List.length_cons] at all
      omega
    refine triple_body_await fun signals reply turn => ?_
    have answered := stage.answered ("multi-step-" ++ inp.issue_key ++ "-" ++ child_key ++ "-" ++ toString n ++ "-" ++
      PyText.takeChars 8 ctx.run_id) (build_subtask_child_input inp child_key) signals reply
    rw [← @awaited_events ctx r _ signals reply turn] at answered
    cases reply with
    | error failure =>
      refine stop_concludes answered fun supposed => ?_
      rw [answered.counts supposed,answered.raised supposed]
      refine ⟨some (total - (n + 1)),.raised child_key _,?_⟩
      rintro m ⟨⟩
      exact skipped
    | ok output =>
      cases stops : STOPS.contains (extract_child_decision ctx.py output) with
      | true =>
        have branch : ["denied","failed","out_of_scope"].contains (extract_child_decision ctx.py output) = true := stops
        simp only [if_pos branch]
        refine stop_concludes answered fun supposed => ?_
        rw [answered.counts supposed,answered.decided supposed,stops]
        refine ⟨some (total - (n + 1)),.refused child_key _ _,?_⟩
        rintro m ⟨⟩
        exact skipped
      | false =>
        have branch : ¬["denied","failed","out_of_scope"].contains (extract_child_decision ctx.py output) = true :=
          Bool.eq_false_iff.mp stops
        simp only [if_neg branch]
        refine triple_bind (triple_mono (answered.posted fun supposed => ?_) (fun _ _ posted => posted) fun _ _ no => no.elim) ?_
        · refine ⟨none,?_,fun m no => nomatch no⟩
          rw [answered.counts supposed,answered.decided supposed,stops]
          exact .progress child_key
        · rintro _ t ⟨grown,same,faithful⟩
          obtain ⟨earlier,shape,count,-⟩ := answered.starts
          refine ih (n + 1) t ⟨listed_grow answered.listed grown,?_,faithful,?_⟩ ?_
          · rw [same,shape,List.length_append,count]
            rfl
          · intro supposed id member
            rw [same] at member
            exact succeededBy_grow (answered.all_done stops (supposed.initial grown) id member) grown.length_le
          · rw [List.length_cons] at all
            omega

end

/-! #### The whole handler -/

private theorem plain_concludes {p : Body α} (issued : Issues (bodyCalls Plain) p) (is : listed ctx r.events = some total)
    (faithful : Supposed ended services r.events → Faithful ended total r.events) :
    Triple (bodyHandler env) p r (fun _ t => Concluded ended services t) fun _ t => Concluded ended services t := by
  refine triple_final (concluded_of (listed_grow is (body_grows p r)) fun supposed => ?_)
  exact exec_plain issued (faithful (supposed.initial (body_grows p r)))

private theorem critical_spans (reason : String) (c : AgentState.Call) :
    Triple (bodyHandler env) (critical reason c) r (fun value t => ∃ signals, t.events = r.events ++ spanned c signals (.ok value))
      fun _ t => ∃ signals reply, t.events = r.events ++ spanned c signals reply := by
  refine triple_body_await fun signals reply turn => ?_
  have events := @awaited_events ctx r c signals reply turn
  cases reply with
  | ok value => exact triple_pure ⟨signals,events⟩
  | error failure => exact ⟨signals,_,events⟩

private theorem listed_spanned (c : AgentState.Call) (signals : List Delivery) (reply : Except Failure Json) :
    listed ctx (spanned c signals reply) = listed ctx [.replied (.body c) reply] := by
  have handled : (signals.map (Event.handled (W := agent ctx.py))).findSome? (fun
      | .replied (.body (.jira_list_epic_children _ _)) (.ok children) => some (normalise_epic_children ctx.py children).length
      | _ => none) = none := by
    rw [List.findSome?_eq_none_iff]
    intro e member
    obtain ⟨signal,-,rfl⟩ := List.mem_map.mp member
    rfl
  unfold listed spanned
  rw [List.findSome?_cons,List.findSome?_append,handled]
  rfl

private theorem first_stage {events : List (Event (agent ctx.py))} {value children : Json} {first second : List Delivery}
    (shape : events = spanned (.set_assignee_to_bot inp.issue_key inp.department_id) first (.ok value) ++
      spanned (.jira_list_epic_children inp.issue_key inp.department_id) second (.ok children)) :
    Stage ctx ended services 0 (normalise_epic_children ctx.py children).length events := by
  subst shape
  have unstarted : started (spanned (.set_assignee_to_bot inp.issue_key inp.department_id) first (.ok value) ++
      spanned (.jira_list_epic_children inp.issue_key inp.department_id) second (.ok children) :
        List (Event (agent ctx.py))) = [] := by
    rw [started_spanned]
    exact congrArg (· ++ []) (started_spanned [] _ first _)
  constructor
  · have unlisted : listed ctx (spanned (.set_assignee_to_bot inp.issue_key inp.department_id) first (.ok value)) = none :=
      listed_spanned _ _ _
    have found : listed ctx (spanned (.jira_list_epic_children inp.issue_key inp.department_id) second (.ok children)) =
        some (normalise_epic_children ctx.py children).length := listed_spanned _ _ _
    unfold listed at unlisted found ⊢
    rw [List.findSome?_append,unlisted,found]
    rfl
  · rw [unstarted]
    rfl
  · intro _
    have nothing : Faithful ended (normalise_epic_children ctx.py children).length ([] : List (Event (agent ctx.py))) :=
      throughout_of fun _ _ member => nomatch member
    exact faithful_spanned (faithful_spanned nothing (plain_faithful assign_plain _) first _) (plain_faithful list_plain _) second _
  · intro _ id member
    rw [unstarted] at member
    cases member

private theorem spans_conclude {t : Run (agent ctx.py)} {c : AgentState.Call} (plain : Plain c)
    {events : List (Event (agent ctx.py))} (faithful : ∀ total, Faithful ended total events) {signals : List Delivery}
    {reply : Except Failure Json} (shape : t.events = events ++ spanned c signals reply) : Concluded ended services t := by
  intro _
  rw [shape]
  exact faithful_spanned (faithful _) (plain_faithful plain _) signals reply

private theorem ends_concluded (stage : Stage ctx ended services total total r.events) :
    Triple (bodyHandler env) (quiet (post_jira_comment_best_effort inp (final_text total total)) >>= fun _ =>
      maybe_execute_llm_output_actions ctx inp) r (fun _ t => Concluded ended services t) fun _ t => Concluded ended services t := by
  refine triple_bind (triple_mono (comment_posts _) (fun _ _ posted => posted) fun _ _ no => no.elim) ?_
  rintro _ t ⟨signals,reply,shape⟩
  have grown : r.events <+: t.events := by
    rw [shape]
    exact List.prefix_append _ _
  refine plain_concludes plain_output_actions (listed_grow stage.listed grown) fun supposed => ?_
  have early := supposed.initial grown
  have here : FaithfulAt ended total r.events
      (.began (.body (.jira_add_comment inp.issue_key (final_text total total) inp.department_id))) := by
    refine fun _ => ⟨none,?_,fun m no => nomatch no⟩
    rw [succeeded_all stage.count (stage.done early)]
    exact .final
  rw [shape]
  exact faithful_spanned (stage.faithful early) here signals reply

private theorem multi_step_concludes (r : Run (agent ctx.py)) (fresh : r.events = []) :
    Triple (bodyHandler env) (handle_multi_step ctx inp) r (fun _ t => Concluded ended services t) fun _ t =>
      Concluded ended services t := by
  have nothing : ∀ total, Faithful ended total r.events := fun total => by
    rw [fresh]
    exact throughout_of fun _ _ member => nomatch member
  refine triple_bind (triple_mono (critical_spans _ _) (fun _ _ spans => spans) ?_) ?_
  · rintro _ t ⟨signals,reply,shape⟩
    exact spans_conclude assign_plain nothing shape
  · rintro value s ⟨first,assigned⟩
    have faithful : ∀ total, Faithful ended total s.events := fun total => by
      rw [assigned]
      exact faithful_spanned (nothing total) (plain_faithful assign_plain _) first _
    refine triple_bind (triple_mono (critical_spans _ _) (fun _ _ spans => spans) ?_) ?_
    · rintro _ t ⟨signals,reply,shape⟩
      exact spans_conclude list_plain faithful shape
    · rintro children t ⟨second,shape⟩
      rw [assigned,fresh,List.nil_append] at shape
      have stage : Stage ctx ended services 0 _ t.events := first_stage shape
      refine triple_ite ?_ ?_
      · intro _
        refine plain_concludes ?_ stage.listed stage.faithful
        exact issues_bind (calls_conclude _) fun _ => calls_quiet (calls_comment guidance_no_tally)
      · intro _
        refine triple_bind (run_subtasks_stages ctx inp env _ 0 t stage (Nat.zero_add _)) fun _ u stage => ?_
        exact ends_concluded stage

end

def fanout (ctx : AgentHandlers.Context) (inp : AgentRunnerWorkflowInput) (env : Environment (agent ctx.py)) (self : RunnerState)
    (turn : Nat) : List (Event (agent ctx.py)) :=
  (exec (bodyHandler env) (handle_multi_step ctx inp) { self, turn, events := [] }).2.events

/-- Where every gateway that dispatched work awaited it and the work passed, and none that
    failed left work that succeeds, each subtask is started after the work of the earlier
    ones succeeded, and the tallies are right. -/
theorem fanout_faithful (ctx : AgentHandlers.Context) (inp : AgentRunnerWorkflowInput) (env : Environment (agent ctx.py))
    (self : RunnerState) (turn : Nat) (services : String → Service) (ended : String → Option WorkEnd)
    (served : Served services (fanout ctx inp env self turn)) (consistent : Consistent ended services (fanout ctx inp env self turn))
    (sound : AllSound ended services (fanout ctx inp env self turn)) :
    Faithful ended ((listed ctx (fanout ctx inp env self turn)).getD 0) (fanout ctx inp env self turn) := by
  have concluded := @multi_step_concludes ctx inp env ended services { self, turn, events := [] } rfl
  unfold Triple at concluded
  unfold fanout at served consistent sound ⊢
  split at concluded
  · next ran =>
    rw [ran] at served consistent sound ⊢
    exact concluded ⟨served,consistent,sound⟩
  · next ran =>
    rw [ran] at served consistent sound ⊢
    exact concluded ⟨served,consistent,sound⟩

/-! An Epic with its subtasks, and the gateways that serve them. -/

def subtask_input (inp : AgentRunnerWorkflowInput) (child_key : String) : Gateway.AutomationWorkflowInput where
  issue_key := child_key
  department_id := inp.department_id
  available_capabilities := inp.available_capabilities
  available_repos := inp.available_repos
  available_spaces := inp.available_spaces
  default_language := inp.default_language
  iteration := 1
  trace_id := inp.trace_id
  notify_on_success := false
  notify_channels := []
  slack_webhook := none
  notify_email := none

def epic : AgentRunnerWorkflowInput :=
  { AgentRunner.issue "multi_step" with
    available_capabilities := ["jira","bitbucket","execution"], available_repos := ["billing"] }

/-- The gateway of a subtask of one type, and what it gets from the work it awaits. -/
def subtask (child_key workflow_type : String) (result : Json) : Service :=
  .ran Gateway.host (subtask_input epic child_key) (Gateway.answering Gateway.host (Gateway.clear workflow_type none)
    fun _ => .ok (.value result)) NeedsInfo.fresh

def serving (children : List String) (services : String → Service) : Environment (agent AgentRunner.worker.py) :=
  AgentRunner.replying fun
    | .body (.jira_list_epic_children _ _) => ([],.ok (.arr (children.map fun key => .obj [("key",.str key)])))
    | .body (.AutomationWorkflow id _) => ([],(services id).reply)
    | _ => ([],.ok .null)

def fannedOut (children : List String) (services : String → Service) : List (Event (agent AgentRunner.worker.py)) :=
  fanout AgentRunner.worker epic (serving children services) .init 0

private theorem fannedOut_served (children : List String) (services : String → Service) :
    Served services (fannedOut children services) := by
  intro id input reply member
  unfold fannedOut fanout at member
  rw [bodyHandler,← exec_embed] at member
  rcases exec_replied (serving children services) _ _ member with old | ⟨turn,is⟩
  · cases old
  · exact is

def awaitedResults (child_key workflow_type : String) (result : Json) : List (Except String Gateway.Payload) :=
  (gatewayRun Gateway.host (subtask_input epic child_key) (Gateway.answering Gateway.host (Gateway.clear workflow_type none)
    fun _ => .ok (.value result)) NeedsInfo.fresh).2.events.filterMap fun
      | .replied (.child_handle _) result => some result
      | _ => none

private theorem awaited_listed {child_key workflow_type : String} {result : Json} {got : Except String Gateway.Payload} :
    (subtask child_key workflow_type result).Awaited got ↔ got ∈ awaitedResults child_key workflow_type result := by
  unfold awaitedResults
  rw [List.mem_filterMap]
  constructor
  · rintro ⟨workflow_id,replied⟩
    exact ⟨_,replied,rfl⟩
  · rintro ⟨event,member,is⟩
    split at is
    · cases is
      exact ⟨_,member⟩
    · cases is

/-- The smoke tests of both subtasks, which are awaited. -/
def smoke (id : String) : Service :=
  subtask (if id = "multi-step-PAY-7-PAY-8-0-01234567" then "PAY-8" else "PAY-9") "noop_test" (.obj [("status",.str "passed")])

/-- Each test ends just before its gateway answers. -/
def smoked (id : String) : Option WorkEnd := some ⟨if id = "multi-step-PAY-7-PAY-8-0-01234567" then 5 else 9,true⟩

def answersLate (placed : Event (agent AgentRunner.worker.py) × Nat) : Bool :=
  match placed.1 with
  | .replied (.body (.AutomationWorkflow id _)) _ => succeededBy smoked placed.2 id
  | _ => true

private theorem subtask_busy {child_key workflow_type : String} {result : Json}
    (awaited : (awaitedResults child_key workflow_type result).isEmpty = false)
    (dispatched : (gatewayRun Gateway.host (subtask_input epic child_key) (Gateway.answering Gateway.host
      (Gateway.clear workflow_type none) fun _ => .ok (.value result)) NeedsInfo.fresh).1.decision ∉ STOPS)
    (pass : (awaitedResults child_key workflow_type result).all passed = true) :
    ¬(subtask child_key workflow_type result).Idle ∧
      ∃ got, (subtask child_key workflow_type result).Awaited got ∧ passed got = true := by
  constructor
  · intro idle
    rcases gatewayRun_decided _ _ _ _ with ⟨-,started⟩ | ⟨stops,-⟩
    · exact idle started
    · exact dispatched stops
  · obtain ⟨got,others,shape⟩ := List.exists_cons_of_ne_nil (List.isEmpty_eq_false_iff.mp awaited)
    have member : got ∈ awaitedResults child_key workflow_type result := by
      rw [shape]
      exact List.mem_cons_self ..
    exact ⟨got,awaited_listed.mpr member,List.all_eq_true.mp pass got member⟩

private theorem smoke_busy (id : String) :
    (¬(smoke id).Idle ∧ ∃ got, (smoke id).Awaited got ∧ passed got = true) ∧
      ∀ result, (smoke id).Awaited result → passed result = true := by
  unfold smoke
  split
  · have pass : (awaitedResults "PAY-8" "noop_test" (.obj [("status",.str "passed")])).all passed = true := by decide +kernel
    exact ⟨subtask_busy (by decide +kernel) (by decide +kernel) pass,fun result awaited =>
      List.all_eq_true.mp pass result (awaited_listed.mp awaited)⟩
  · have pass : (awaitedResults "PAY-9" "noop_test" (.obj [("status",.str "passed")])).all passed = true := by decide +kernel
    exact ⟨subtask_busy (by decide +kernel) (by decide +kernel) pass,fun result awaited =>
      List.all_eq_true.mp pass result (awaited_listed.mp awaited)⟩

theorem smoke_counted : Faithful smoked 2 (fannedOut ["PAY-8","PAY-9"] smoke) := by
  have ran : (listed AgentRunner.worker (fannedOut ["PAY-8","PAY-9"] smoke)).getD 0 = 2 ∧
      (fannedOut ["PAY-8","PAY-9"] smoke).zipIdx.all answersLate = true := by
    decide +kernel
  have faithful := fanout_faithful AgentRunner.worker epic (serving ["PAY-8","PAY-9"] smoke) .init 0 smoke smoked
    (fannedOut_served ["PAY-8","PAY-9"] smoke) ?_ fun id _ _ _ => .inr (smoke_busy id).1.2
  · rw [← ran.1]
    exact faithful
  · intro before e after split id input reply is
    refine ⟨?_,fun idle => absurd idle (smoke_busy id).1.1⟩
    intro result awaited
    have placed : (e,before.length) ∈ (fannedOut ["PAY-8","PAY-9"] smoke).zipIdx := by
      refine List.mem_zipIdx_iff_getElem?.mpr ?_
      change (fanout _ _ _ _ _)[before.length]? = some e
      rw [split]
      simp
    have late := List.all_eq_true.mp ran.2 _ placed
    rw [is] at late
    rw [(smoke_busy id).2 result awaited]
    exact ⟨_,of_decide_eq_true late,rfl⟩

/-- A change of code, which is abandoned. -/
def change (id : String) : Service :=
  subtask (if id = "multi-step-PAY-7-PAY-8-0-01234567" then "PAY-8" else "PAY-9") "code_change_commit_only" .null

private theorem unended_started {events : List (Event (agent AgentRunner.worker.py))} {total : Nat}
    (faithful : Faithful (fun _ => none) total events) : (started events).length ≤ 1 := by
  match ids : started events with
  | [] => exact Nat.zero_le 1
  | [_] => exact Nat.le_refl 1
  | first :: second :: others =>
    obtain ⟨early,start,later,rfl,-,is_first,rest⟩ := List.filterMap_eq_cons_iff.mp ids
    obtain ⟨between,next,last,rfl,-,is_second,-⟩ := List.filterMap_eq_cons_iff.mp rest
    have here := faithful (early ++ start :: between) next last (by simp)
    unfold startOf at is_second
    split at is_second
    · have member : first ∈ started (early ++ start :: between) := by
        unfold started
        rw [List.filterMap_append,List.filterMap_cons,is_first]
        exact List.mem_append_right _ (List.mem_cons_self ..)
      cases here first member
    · cases is_second

/-- The work of both subtasks is dispatched and never ends; the second is started, and the
    first is tallied. -/
theorem change_overtaken :
    Served change (fannedOut ["PAY-8","PAY-9"] change) ∧ Consistent (fun _ => none) change (fannedOut ["PAY-8","PAY-9"] change) ∧
      ¬Faithful (fun _ => none) ((listed AgentRunner.worker (fannedOut ["PAY-8","PAY-9"] change)).getD 0)
        (fannedOut ["PAY-8","PAY-9"] change) := by
  have ran : (started (fannedOut ["PAY-8","PAY-9"] change)).length = 2 ∧
      (awaitedResults "PAY-8" "code_change_commit_only" .null).isEmpty = true ∧
        (awaitedResults "PAY-9" "code_change_commit_only" .null).isEmpty = true := by
    decide +kernel
  refine ⟨fannedOut_served _ _,?_,?_⟩
  · intro before e after _ id input reply _
    refine ⟨?_,fun _ => rfl⟩
    intro result awaited
    unfold change at awaited
    rw [awaited_listed] at awaited
    split at awaited
    · rw [List.isEmpty_iff.mp ran.2.1] at awaited
      cases awaited
    · rw [List.isEmpty_iff.mp ran.2.2] at awaited
      cases awaited
  · intro faithful
    have few := unended_started faithful
    rw [ran.1] at few
    exact absurd few (by decide)

end
end Automation.EpicFanout
