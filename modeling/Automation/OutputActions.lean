import Automation.AgentRunner

/-!
The output actions of a run: the size cap, the critical actions in order until
one fails, the best-effort actions, and the log.

An activity that replies counts as a success, whatever it replies;
`upload_artifact_to_jira` reports its failures in the reply. And an exception of
the offload, or of the pull request's id, leaves the loop without a log. Where
neither happens, the lists tell the truth (`faithful_iff`).
-/
namespace Automation.OutputActions
open Automation.Effects Automation.Coroutine Automation.AgentMessages Automation.AgentState Automation.AgentExtract
open Automation.AgentHandlers

section
variable (ctx : Context) (inp : AgentRunnerWorkflowInput)

/-- `_execute_output_actions`. -/
def execute_output_actions (actions : List OutputAction) : Body ApplyResult := do
  if actions.isEmpty then return .empty
  else
    let cap_corrected ← quiet (redirect_all ctx actions.zipIdx)
    let result ← apply_critical ctx inp (cap_corrected.filter (·.kind.critical)) .empty
    let result ← quiet (apply_best_effort ctx inp (cap_corrected.filter (!·.kind.critical)) result)
    quiet (merge_output_actions_into_log result)
    return result

theorem maybe_execute_eq {σ : Type} (H : Handler bodySteps σ) (s : σ) :
    exec H (maybe_execute_llm_output_actions ctx inp) s =
      exec H (do let _ ← execute_output_actions ctx inp inp.analysis.output_actions; return ()) s := by
  unfold maybe_execute_llm_output_actions execute_output_actions
  cases inp.analysis.output_actions.isEmpty with
  | true => rfl
  | false =>
    simp only [Bool.false_eq_true,if_false,exec_bind]
    cases exec H (quiet (redirect_all ctx inp.analysis.output_actions.zipIdx)) s with
    | mk result t =>
      cases result with
      | error raised => rfl
      | ok cap_corrected =>
        simp only
        cases exec H (apply_critical ctx inp (cap_corrected.filter (·.kind.critical)) .empty) t with
        | mk result t =>
          cases result with
          | error raised => rfl
          | ok result =>
            simp only
            cases exec H (quiet (apply_best_effort ctx inp (cap_corrected.filter (!·.kind.critical)) result)) t with
            | mk result t =>
              cases result with
              | error raised => rfl
              | ok result =>
                simp only
                cases exec H (quiet (merge_output_actions_into_log result)) t with
                | mk result t =>
                  cases result with
                  | error raised => rfl
                  | ok _ => rfl

/-! ### Applications -/

inductive Attempt where
  | refused (reason : String)
  | called (activity_name : String) (args : List Json) (reply : Except Failure Json)

/-- An action that was applied. -/
structure Application where
  action : OutputAction
  attempt : Attempt

/-- The action is refused, or its activity is called once with its arguments. -/
def Attempted (last_commit_branch : Option String) (a : Application) : Prop :=
  match OUTPUT_ACTION_DISPATCH a.action.kind with
  | none => a.attempt = .refused ("no_dispatch_for_kind:" ++ a.action.kind.text)
  | some activity_name =>
    match activity_args ctx inp a.action last_commit_branch with
    | .error reason => a.attempt = .refused reason
    | .ok args => ∃ reply, a.attempt = .called activity_name args reply

end

/-- The reply says `success=False`. -/
def reportsFailure (reply : Json) : Bool :=
  match reply.get "success" with
  | .bool false => true
  | _ => false

/-- The activity neither raised nor reported a failure. -/
def Application.succeeded (a : Application) : Bool :=
  match a.attempt with
  | .called _ _ (.ok reply) => !reportsFailure reply
  | _ => false

/-- The activity did not raise. -/
def Application.replied (a : Application) : Bool :=
  match a.attempt with
  | .called _ _ (.ok _) => true
  | _ => false

def Application.call (a : Application) : Option (String × List Json × Except Failure Json) :=
  match a.attempt with
  | .called activity_name args reply => some (activity_name,args,reply)
  | .refused _ => none

def kindsOf (apps : List Application) (p : Application → Bool) : List String :=
  (apps.filter p).map fun a => a.action.kind.text

/-- The four lists of a result, with the failed actions by name. -/
def ApplyResult.kinds (result : ApplyResult) : List String × List String × List String × List String :=
  (result.successful_critical,result.failed_critical.map Prod.fst,result.successful_best_effort,
    result.failed_best_effort.map Prod.fst)

/-- The applied actions by class and by `success`. -/
def tally (success : Application → Bool) (apps : List Application) :
    List String × List String × List String × List String :=
  (kindsOf apps fun a => a.action.kind.critical && success a,kindsOf apps fun a => a.action.kind.critical && !success a,
    kindsOf apps fun a => !a.action.kind.critical && success a,kindsOf apps fun a => !a.action.kind.critical && !success a)

/-! ### The run -/

section
variable {py : Python}

/-- The output actions' activities of a part of a run, with their replies. -/
def outputCalls (events : List (Event (agent py))) : List (String × List Json × Except Failure Json) :=
  events.filterMap fun
    | .replied (.body (.output_action activity_name args)) reply => some (activity_name,args,reply)
    | _ => none

end

section
variable (ctx : Context) (inp : AgentRunnerWorkflowInput)

/-- The stub that replaces an offloaded payload. -/
def offloaded (action : OutputAction) (minio_uri : String) : OutputAction :=
  { action with payload := [("summary",.str (PyText.takeChars 256 (ctx.py.dumps action.payload))),
    ("minio_uri",.str minio_uri),("size_bytes",.int (ctx.py.dumps action.payload).utf8ByteSize)] }

/-- The actions after the size cap, in their order. -/
def Corrected (actions corrected : List OutputAction) : Prop :=
  List.Forall₂ (fun action c => c = action ∨ ∃ minio_uri, c = offloaded ctx action minio_uri) actions corrected

/-- The order of the applications, by what counts as a success: the critical actions
    until one fails; if none does, then the best-effort actions. -/
def Ordered (success : Application → Bool) (corrected : List OutputAction) (apps : List Application)
    (outcome : Except Raised ApplyResult) (result : ApplyResult) : Prop :=
  (outcome = .ok result ∧
    apps.map Application.action = corrected.filter (·.kind.critical) ++ corrected.filter (!·.kind.critical) ∧
    ∀ a ∈ apps, a.action.kind.critical = true → success a = true) ∨
  (outcome = .error (.outputActionCriticalFailure result) ∧
    ∃ before failing, apps = before ++ [failing] ∧ (∀ a ∈ before, success a = true) ∧ success failing = false ∧
      apps.map Application.action <+: corrected.filter (·.kind.critical))

variable (env : Environment (agent ctx.py))

def addedEvents (r t : Run (agent ctx.py)) : List (Event (agent ctx.py)) := t.events.drop r.events.length

/-- The actions are applied in order and the result and the log record each
    application, by what counts as a success. -/
def Recorded (success : Application → Bool) (actions : List OutputAction) (r : Run (agent ctx.py)) : Prop :=
  let ran := exec (bodyHandler env) (execute_output_actions ctx inp actions) r
  ∃ corrected apps result, Corrected ctx actions corrected ∧ Ordered success corrected apps ran.1 result ∧
    (∀ a ∈ apps, Attempted ctx inp r.self.notes.last_commit_branch a) ∧
    outputCalls (addedEvents ctx r ran.2) = apps.filterMap Application.call ∧
    ApplyResult.kinds result = tally success apps ∧
    ran.2.self.notes.output_actions_log = r.self.notes.output_actions_log.extend result

/-- The property, with the true outcome of each application. -/
def Faithful (actions : List OutputAction) (r : Run (agent ctx.py)) : Prop :=
  Recorded ctx inp env Application.succeeded actions r

/-- A reply after which the loop goes on. -/
def Handled : Call → Except Failure Json → Prop
  | .minio_put_output_action _ _, reply => ∃ minio_uri, reply = .ok (.str minio_uri) ∧ minio_uri ≠ ""
  | .output_action activity_name _, .ok pr_info =>
    activity_name = "bitbucket_open_pr" → ∃ pr_id, extract_pr_id_from_info ctx.py pr_info = .ok pr_id
  | _, _ => True

/-- A reply of an output action's activity that does not report a failure. -/
def Honest : Call → Except Failure Json → Prop
  | .output_action _ _, .ok reply => reportsFailure reply = false
  | _, _ => True

/-- Every reply that the run meets. -/
def Replies (φ : Call → Except Failure Json → Prop) (events : List (Event (agent ctx.py))) : Prop :=
  ∀ c reply, .replied (.body c) reply ∈ events → φ c reply

end

/-! ### What one application does -/

section
variable {ctx : Context} {inp : AgentRunnerWorkflowInput} {env : Environment (agent ctx.py)}
  {r s t : Run (agent ctx.py)}

/-- From `r` to `t` exactly the activities of the applications were called, the other
    replies were handled, and neither the log nor the last commit changed. -/
structure Spent (r t : Run (agent ctx.py)) (apps : List Application) : Prop where
  events : ∃ added, t.events = r.events ++ added ∧ outputCalls added = apps.filterMap Application.call ∧
    Replies ctx (Handled ctx) added
  last_commit_branch : t.self.notes.last_commit_branch = r.self.notes.last_commit_branch
  output_actions_log : t.self.notes.output_actions_log = r.self.notes.output_actions_log

/-- An exception left the loop, after a reply that it does not handle. -/
def Escaped (r t : Run (agent ctx.py)) (raised : Raised) : Prop :=
  (∃ failure, raised = .error failure) ∧
    ∃ added, t.events = r.events ++ added ∧ ¬Replies ctx (Handled ctx) added

private theorem Spent.refl (r : Run (agent ctx.py)) : Spent r r [] where
  events := ⟨[],by simp,rfl,fun c reply member => by cases member⟩
  last_commit_branch := rfl
  output_actions_log := rfl

private theorem replies_append {φ : Call → Except Failure Json → Prop} {first second : List (Event (agent ctx.py))} :
    Replies ctx φ (first ++ second) ↔ Replies ctx φ first ∧ Replies ctx φ second := by
  constructor
  · intro all
    refine ⟨fun c reply member => ?_,fun c reply member => ?_⟩
    · exact all c reply (List.mem_append_left _ member)
    · exact all c reply (List.mem_append_right _ member)
  · rintro ⟨one,two⟩ c reply member
    rcases List.mem_append.mp member with earlier | later
    · exact one c reply earlier
    · exact two c reply later

private theorem Spent.trans {first second : List Application} (one : Spent r s first) (two : Spent s t second) :
    Spent r t (first ++ second) := by
  obtain ⟨added,events,calls,handled⟩ := one.events
  obtain ⟨later,events',calls',handled'⟩ := two.events
  refine ⟨⟨added ++ later,?_,?_,replies_append.mpr ⟨handled,handled'⟩⟩,?_,?_⟩
  · rw [events',events,List.append_assoc]
  · rw [outputCalls,List.filterMap_append,List.filterMap_append]
    exact congrArg₂ _ calls calls'
  · exact two.last_commit_branch.trans one.last_commit_branch
  · exact two.output_actions_log.trans one.output_actions_log

private theorem Spent.escaped {apps : List Application} (one : Spent r s apps) {raised : Raised} (two : Escaped s t raised) :
    Escaped r t raised := by
  obtain ⟨added,events,-,-⟩ := one.events
  obtain ⟨failed,later,events',unhandled⟩ := two
  refine ⟨failed,added ++ later,by rw [events',events,List.append_assoc],?_⟩
  intro handled
  exact unhandled (replies_append.mp handled).2

variable {reply : Except Failure Json}

private theorem replies_awaited {φ : Call → Except Failure Json → Prop} {c : Call} {signals : List Delivery} :
    Replies ctx φ (.began (.body c) :: signals.map (Event.handled (W := agent ctx.py)) ++ [.replied (.body c) reply]) ↔
      φ c reply := by
  constructor
  · intro all
    exact all c reply (by simp)
  · intro holds c' reply' member
    rcases List.mem_append.mp member with earlier | last
    · rcases List.mem_cons.mp earlier with began | signalled
      · cases began
      · obtain ⟨delivery,-,other⟩ := List.mem_map.mp signalled
        cases other
    · rcases List.mem_singleton.mp last with ⟨⟩
      exact holds

theorem outputCalls_awaited (c : Call) (signals : List Delivery) (reply : Except Failure Json) :
    outputCalls (.began (.body c) :: signals.map (Event.handled (W := agent ctx.py)) ++ [.replied (.body c) reply]) =
      match c with
      | .output_action activity_name args => [(activity_name,args,reply)]
      | _ => [] := by
  have silent : outputCalls (signals.map (Event.handled (W := agent ctx.py))) = [] := by
    simp [outputCalls,List.filterMap_map]
  simp only [outputCalls] at silent ⊢
  rw [List.filterMap_append,List.filterMap_cons_none rfl,silent,List.nil_append]
  cases c with
  | output_action activity_name args => rfl
  | _ => rfl

theorem Spent.awaited {c : Call} (other : ∀ activity_name args, c ≠ .output_action activity_name args)
    (signals : List Delivery) (handled : Handled ctx c reply) (turn : Nat) :
    Spent r (awaited r (.body c) signals reply turn) [] := by
  have branch := congrArg Notes.last_commit_branch (handle_kept ctx.py signals r.self)
  have log := congrArg Notes.output_actions_log (handle_kept ctx.py signals r.self)
  refine ⟨⟨_,List.append_assoc _ _ _,?_,replies_awaited.mpr handled⟩,?_,?_⟩
  · refine (outputCalls_awaited c signals reply).trans ?_
    cases c with
    | output_action activity_name args => exact absurd rfl (other activity_name args)
    | _ => rfl
  · exact branch
  · exact log

theorem Spent.called (action : OutputAction) (activity_name : String) (args : List Json)
    (signals : List Delivery)
    (handled : Handled ctx (.output_action activity_name args) reply) (turn : Nat) :
    Spent r (AgentState.awaited r (.body (.output_action activity_name args)) signals reply turn)
      [⟨action,.called activity_name args reply⟩] := by
  have branch := congrArg Notes.last_commit_branch (handle_kept ctx.py signals r.self)
  have log := congrArg Notes.output_actions_log (handle_kept ctx.py signals r.self)
  refine ⟨⟨_,List.append_assoc _ _ _,?_,replies_awaited.mpr handled⟩,?_,?_⟩
  · exact outputCalls_awaited (.output_action activity_name args) signals reply
  · exact branch
  · exact log

private theorem escaped_awaited {c : Call} (signals : List Delivery)
    (unhandled : ¬Handled ctx c reply) (turn : Nat) (failure : Failure) :
    Escaped r (awaited r (.body c) signals reply turn) (.error failure) :=
  ⟨⟨failure,rfl⟩,_,List.append_assoc _ _ _,fun handled => unhandled (replies_awaited.mp handled)⟩

private theorem Spent.updated {self : RunnerState}
    (branch : self.notes.last_commit_branch = r.self.notes.last_commit_branch)
    (log : self.notes.output_actions_log = r.self.notes.output_actions_log) : Spent r { r with self } [] where
  events := ⟨[],by simp,rfl,fun c reply member => by cases member⟩
  last_commit_branch := branch
  output_actions_log := log

private theorem post_comment_spent (text : String) :
    Triple (quietHandler env) (post_jira_comment_best_effort inp text : Quiet Raised Unit) r
      (fun _ t => Spent r t []) fun _ _ => False := by
  refine triple_await fun signals reply turn => ?_
  have handled : Handled ctx (.jira_add_comment inp.issue_key text inp.department_id) reply := trivial
  have spent : Spent r (awaited r _ signals reply turn) [] :=
    Spent.awaited (by intro _ _ same; cases same) signals handled turn
  cases reply with
  | ok value => exact triple_pure spent
  | error failure => exact spent.trans (Spent.updated rfl rfl)

private theorem handled_other {activity_name : String} (other : activity_name ≠ "bitbucket_open_pr") (args : List Json)
    (reply : Except Failure Json) : Handled ctx (.output_action activity_name args) reply := by
  cases reply with
  | error failure => trivial
  | ok pr_info => exact fun same => absurd same other

private theorem dispatch_pr {kind : OutputActionKind} {activity_name : String}
    (dispatched : OUTPUT_ACTION_DISPATCH kind = some activity_name) :
    kind = .bitbucket_create_pr ↔ activity_name = "bitbucket_open_pr" := by
  cases kind <;> simp_all [OUTPUT_ACTION_DISPATCH] <;> subst dispatched <;> decide

/-- The pull request's id is read, or its exception leaves the loop. -/
theorem after_create_pr_spent (pr_info : Json) :
    Triple (quietHandler env) (after_create_pr ctx inp pr_info) r
      (fun _ t => Spent r t [] ∧ ∃ pr_id, extract_pr_id_from_info ctx.py pr_info = .ok pr_id)
      fun raised t => t = r ∧ (∃ failure, raised = .error failure) ∧
        ¬∃ pr_id, extract_pr_id_from_info ctx.py pr_info = .ok pr_id := by
  unfold after_create_pr
  cases extracted : extract_pr_id_from_info ctx.py pr_info with
  | error failure => exact triple_raise ⟨rfl,⟨failure,rfl⟩,by simp⟩
  | ok pr_id =>
    refine triple_note ?_
    have noted : Spent r { r with self := { r.self with
        notes := { r.self.notes with previous_pr_id := pr_id.or r.self.notes.previous_pr_id } } } [] :=
      Spent.updated rfl rfl
    split
    · exact triple_pure ⟨noted,pr_id,rfl⟩
    · refine triple_mono (post_comment_spent _) (fun _ t spent => ?_) fun _ _ never => never.elim
      exact ⟨noted.trans spent,pr_id,rfl⟩

private theorem apply_single_spec (action : OutputAction) :
    Triple (quietHandler env) (apply_single_output_action ctx inp action) r
      (fun reason t => ∃ a : Application, a.action = action ∧ Attempted ctx inp r.self.notes.last_commit_branch a ∧
        Spent r t [a] ∧ reason.isNone = a.replied)
      fun raised t => Escaped r t raised := by
  have refused : ∀ reason, Spent r r [⟨action,.refused reason⟩] := fun _ => ⟨(Spent.refl r).events,rfl,rfl⟩
  unfold apply_single_output_action
  cases dispatched : OUTPUT_ACTION_DISPATCH action.kind with
  | none =>
    have attempted : Attempted ctx inp r.self.notes.last_commit_branch
        ⟨action,.refused ("no_dispatch_for_kind:" ++ action.kind.text)⟩ := by
      simp [Attempted,dispatched]
    exact triple_pure ⟨_,rfl,attempted,refused _,rfl⟩
  | some activity_name =>
    refine triple_look ?_
    cases arguments : activity_args ctx inp action r.self.notes.last_commit_branch with
    | error reason =>
      exact triple_pure ⟨⟨action,.refused reason⟩,rfl,by simp [Attempted,dispatched,arguments],refused _,rfl⟩
    | ok args =>
      refine triple_await fun signals reply turn => ?_
      have attempted : Attempted ctx inp r.self.notes.last_commit_branch ⟨action,.called activity_name args reply⟩ := by
        simp [Attempted,dispatched,arguments]
      cases reply with
      | error failure =>
        have spent := Spent.called (r := r) action activity_name args signals
          (show Handled ctx _ (.error failure) from trivial) turn
        exact triple_pure ⟨_,rfl,attempted,spent,rfl⟩
      | ok activity_result =>
        by_cases pr : action.kind = .bitbucket_create_pr
        · have opens := (dispatch_pr dispatched).mp pr
          subst opens
          simp only [pr,if_true]
          refine triple_bind (triple_mono (after_create_pr_spent activity_result) (fun _ t done => done) ?_) ?_
          · rintro raised t ⟨rfl,⟨failure,rfl⟩,unreadable⟩
            have unhandled : ¬Handled ctx (.output_action "bitbucket_open_pr" args) (.ok activity_result) :=
              fun handled => unreadable (handled rfl)
            exact escaped_awaited signals unhandled turn failure
          · rintro _ t ⟨spent,readable⟩
            have called := Spent.called (r := r) action "bitbucket_open_pr" args signals
              (show Handled ctx _ (.ok activity_result) from fun _ => readable) turn
            exact triple_pure ⟨_,rfl,attempted,called.trans spent,rfl⟩
        · have other : activity_name ≠ "bitbucket_open_pr" := fun opens => pr ((dispatch_pr dispatched).mpr opens)
          simp only [pr,if_false]
          have called := Spent.called (r := r) action activity_name args signals
            (handled_other other args (.ok activity_result)) turn
          exact triple_pure ⟨_,rfl,attempted,called,rfl⟩

/-! ### The loops -/

private theorem kindsOf_append (first second : List Application) (p : Application → Bool) :
    kindsOf (first ++ second) p = kindsOf first p ++ kindsOf second p := by
  simp [kindsOf]

private theorem kinds_concat {result result' : ApplyResult} {success : Application → Bool} {done : List Application}
    {a : Application} (same : ApplyResult.kinds result = tally success done)
    (added : ApplyResult.kinds result' = ((ApplyResult.kinds result).1 ++ (tally success [a]).1,
      (ApplyResult.kinds result).2.1 ++ (tally success [a]).2.1, (ApplyResult.kinds result).2.2.1 ++ (tally success [a]).2.2.1,
      (ApplyResult.kinds result).2.2.2 ++ (tally success [a]).2.2.2)) :
    ApplyResult.kinds result' = tally success (done ++ [a]) := by
  rw [added,same]
  simp only [tally,kindsOf_append]

private theorem apply_critical_spec (actions : List OutputAction) (critical : ∀ action ∈ actions, action.kind.critical = true)
    (result : ApplyResult) (done : List Application) (same : ApplyResult.kinds result = tally Application.replied done) :
    Triple (bodyHandler env) (apply_critical ctx inp actions result) r
      (fun result' t => ∃ apps : List Application, apps.map Application.action = actions ∧
        (∀ a ∈ apps, Attempted ctx inp r.self.notes.last_commit_branch a ∧ a.replied = true) ∧ Spent r t apps ∧
        ApplyResult.kinds result' = tally Application.replied (done ++ apps))
      fun raised t => Escaped r t raised ∨ ∃ before failing result', raised = .outputActionCriticalFailure result' ∧
        (before ++ [failing]).map Application.action <+: actions ∧
        (∀ a ∈ before ++ [failing], Attempted ctx inp r.self.notes.last_commit_branch a) ∧
        (∀ a ∈ before, a.replied = true) ∧ failing.replied = false ∧
        ApplyResult.kinds result' = tally Application.replied (done ++ (before ++ [failing])) ∧
        ∃ s, Spent r s (before ++ [failing]) ∧ t.events = s.events ∧
          t.self.notes.output_actions_log = s.self.notes.output_actions_log.extend result' := by
  induction actions generalizing r result done with
  | nil => exact triple_pure ⟨[],rfl,by simp,Spent.refl r,by simpa using same⟩
  | cons action rest ih =>
    obtain ⟨first,others⟩ := List.forall_mem_cons.mp critical
    refine triple_bind (triple_quiet (triple_mono (apply_single_spec action) (fun _ _ applied => applied)
      fun _ _ escaped => .inl escaped)) ?_
    rintro reason s ⟨a,rfl,attempted,spent,replied⟩
    cases reason with
    | none =>
      -- The rest of the list starts from a result that counts this action.
      have counted : ApplyResult.kinds { result with
          successful_critical := result.successful_critical ++ [a.action.kind.text] } = tally Application.replied (done ++ [a]) :=
        kinds_concat same (by simp [ApplyResult.kinds,tally,kindsOf,first,← replied])
      refine triple_mono (ih others _ (done ++ [a]) counted) ?_ ?_
      · rintro result' t ⟨apps,actions,each,spent',kinds⟩
        rw [spent.last_commit_branch] at each
        refine ⟨a :: apps,by simp [actions],?_,spent.trans spent',by simpa using kinds⟩
        intro b member
        rcases List.mem_cons.mp member with rfl | later
        · exact ⟨attempted,replied.symm⟩
        · exact each b later
      · rintro raised t (escaped | ⟨before,failing,result',rfl,order,each,succeeded,failed,kinds,u,spent',events,log⟩)
        · exact .inl (spent.escaped escaped)
        · rw [spent.last_commit_branch] at each
          refine .inr ⟨a :: before,failing,result',rfl,?_,?_,?_,failed,by simpa using kinds,u,spent.trans spent',events,log⟩
          · simpa using order
          · intro b member
            rcases List.mem_cons.mp member with rfl | later
            · exact attempted
            · exact each b later
          · intro b member
            rcases List.mem_cons.mp member with rfl | later
            · exact replied.symm
            · exact succeeded b later
    | some reason =>
      have counted : ApplyResult.kinds { result with
          failed_critical := result.failed_critical ++ [(a.action.kind.text,reason)] } = tally Application.replied (done ++ [a]) :=
        kinds_concat same (by simp [ApplyResult.kinds,tally,kindsOf,first,← replied])
      refine .inr ⟨[],a,_,rfl,?_,?_,?_,replied.symm,counted,s,spent,rfl,rfl⟩
      · simp
      · intro b member
        rcases List.mem_singleton.mp member with rfl
        exact attempted
      · intro b member
        cases member

private theorem apply_best_effort_spec (actions : List OutputAction)
    (optional : ∀ action ∈ actions, action.kind.critical = false) (result : ApplyResult) (done : List Application)
    (same : ApplyResult.kinds result = tally Application.replied done) :
    Triple (quietHandler env) (apply_best_effort ctx inp actions result) r
      (fun result' t => ∃ apps : List Application, apps.map Application.action = actions ∧
        (∀ a ∈ apps, Attempted ctx inp r.self.notes.last_commit_branch a) ∧ Spent r t apps ∧
        ApplyResult.kinds result' = tally Application.replied (done ++ apps))
      fun raised t => Escaped r t raised := by
  induction actions generalizing r result done with
  | nil => exact triple_pure ⟨[],rfl,by simp,Spent.refl r,by simpa using same⟩
  | cons action rest ih =>
    obtain ⟨first,others⟩ := List.forall_mem_cons.mp optional
    refine triple_bind (apply_single_spec action) ?_
    rintro reason s ⟨a,rfl,attempted,spent,replied⟩
    -- Both branches go on with the rest, from a run that has spent this action.
    have continued : ∀ result' (u : Run (agent ctx.py)), Spent r u [a] →
        ApplyResult.kinds result' = tally Application.replied (done ++ [a]) →
        Triple (quietHandler env) (apply_best_effort ctx inp rest result') u
          (fun result' t => ∃ apps : List Application, apps.map Application.action = a.action :: rest ∧
            (∀ a ∈ apps, Attempted ctx inp r.self.notes.last_commit_branch a) ∧ Spent r t apps ∧
            ApplyResult.kinds result' = tally Application.replied (done ++ apps))
          fun raised t => Escaped r t raised := by
      intro result' u spent counted
      refine triple_mono (ih others result' (done ++ [a]) counted) ?_ fun raised t escaped => spent.escaped escaped
      rintro result'' t ⟨apps,actions,each,spent',kinds⟩
      rw [spent.last_commit_branch] at each
      refine ⟨a :: apps,by simp [actions],?_,spent.trans spent',by simpa using kinds⟩
      intro b member
      rcases List.mem_cons.mp member with rfl | later
      · exact attempted
      · exact each b later
    cases reason with
    | none => exact continued _ s spent (kinds_concat same (by simp [ApplyResult.kinds,tally,kindsOf,first,← replied]))
    | some reason =>
      have recorded : Spent s { s with self := { s.self with
          output_actions_partial_kinds := s.self.output_actions_partial_kinds ++ [a.action.kind.text] } } [] :=
        Spent.updated rfl rfl
      refine triple_record (continued _ _ (spent.trans recorded) (kinds_concat same ?_))
      simp [ApplyResult.kinds,tally,kindsOf,first,← replied]

theorem minio_offload_spec (key text : String) :
    Triple (quietHandler env) (minio_offload key text) r (fun _ t => Spent r t []) fun raised t => Escaped r t raised := by
  refine triple_await fun signals reply turn => ?_
  cases reply with
  | error failure =>
    have unhandled : ¬Handled ctx (.minio_put_output_action key text) (.error failure) := by
      rintro ⟨minio_uri,replied,-⟩
      cases replied
    exact triple_raise (escaped_awaited signals unhandled turn failure)
  | ok uri =>
    simp only
    split
    · next empty =>
      have unhandled : ¬Handled ctx (.minio_put_output_action key text) (.ok uri) := by
        rintro ⟨minio_uri,replied,named⟩
        cases replied
        exact named empty
      exact triple_raise (escaped_awaited signals unhandled turn _)
    · next named =>
      have handled : Handled ctx (.minio_put_output_action key text) (.ok uri) := by
        cases uri with
        | str minio_uri => exact ⟨minio_uri,rfl,named⟩
        | _ => exact absurd rfl named
      exact triple_pure (Spent.awaited (by intro _ _ same; cases same) signals handled turn)

private theorem redirect_spec (action : OutputAction) (idx : Nat) :
    Triple (quietHandler env) (redirect_oversized_payload ctx action idx) r
      (fun c t => (c = action ∨ ∃ minio_uri, c = offloaded ctx action minio_uri) ∧ Spent r t [] ∧ ctx.workflow_id ≠ "")
      fun raised t => (∃ failure, raised = .error failure) ∧ (ctx.workflow_id = "" ∨ Escaped r t raised) := by
  unfold redirect_oversized_payload
  split
  · next unnamed => exact triple_raise ⟨⟨_,rfl⟩,.inl unnamed⟩
  · next named =>
    simp only
    split
    · exact triple_pure ⟨.inl rfl,Spent.refl r,named⟩
    · refine triple_bind (triple_mono (minio_offload_spec _ _) (fun _ _ spent => spent) ?_) ?_
      · intro raised t escaped
        exact ⟨escaped.1,.inr escaped⟩
      · intro minio_uri t spent
        exact triple_pure ⟨.inr ⟨minio_uri,rfl⟩,spent,named⟩

private theorem redirect_all_spec (items : List (OutputAction × Nat)) :
    Triple (quietHandler env) (redirect_all ctx items) r
      (fun corrected t => Corrected ctx (items.map Prod.fst) corrected ∧ Spent r t [] ∧
        (items = [] ∨ ctx.workflow_id ≠ ""))
      fun raised t => (∃ failure, raised = .error failure) ∧ (ctx.workflow_id = "" ∨ Escaped r t raised) := by
  induction items generalizing r with
  | nil => exact triple_pure ⟨.nil,Spent.refl r,.inl rfl⟩
  | cons item rest ih =>
    obtain ⟨action,idx⟩ := item
    refine triple_bind (redirect_spec action idx) ?_
    rintro c s ⟨redirected,spent,named⟩
    refine triple_bind (triple_mono ih (fun _ _ done => done) ?_) ?_
    · rintro raised t ⟨failed,unnamed | escaped⟩
      · exact ⟨failed,.inl unnamed⟩
      · exact ⟨failed,.inr (spent.escaped escaped)⟩
    · rintro corrected t ⟨others,spent',-⟩
      exact triple_pure ⟨.cons redirected others,spent.trans spent',.inr named⟩

end

/-! ### The whole step -/

section
variable {ctx : Context} {inp : AgentRunnerWorkflowInput} {env : Environment (agent ctx.py)} {r : Run (agent ctx.py)}

theorem addedEvents_append {t : Run (agent ctx.py)} {added : List (Event (agent ctx.py))}
    (events : t.events = r.events ++ added) : addedEvents ctx r t = added := by
  rw [addedEvents,events,List.drop_left]

private theorem filter_critical (corrected : List OutputAction) :
    ∀ action ∈ corrected.filter (·.kind.critical), action.kind.critical = true := by
  intro action member
  exact (List.mem_filter.mp member).2

private theorem filter_optional (corrected : List OutputAction) :
    ∀ action ∈ corrected.filter (!·.kind.critical), action.kind.critical = false := by
  intro action member
  simpa using (List.mem_filter.mp member).2

/-- The lists and the log after an outcome that carries a result. -/
def Concluded (inp : AgentRunnerWorkflowInput) (actions : List OutputAction) (r : Run (agent ctx.py)) (outcome : Except Raised ApplyResult)
    (result : ApplyResult) (t : Run (agent ctx.py)) : Prop :=
  ctx.workflow_id ≠ "" ∧ ∃ corrected apps, Corrected ctx actions corrected ∧
    Ordered Application.replied corrected apps outcome result ∧
    (∀ a ∈ apps, Attempted ctx inp r.self.notes.last_commit_branch a) ∧
    ApplyResult.kinds result = tally Application.replied apps ∧
    ∃ s, Spent r s apps ∧ t.events = s.events ∧
      t.self.notes.output_actions_log = s.self.notes.output_actions_log.extend result

variable {actions : List OutputAction}

private theorem execute_triple (nonempty : actions ≠ []) :
    Triple (bodyHandler env) (execute_output_actions ctx inp actions) r
      (fun result t => Concluded inp actions r (.ok result) result t)
      fun raised t => ((∃ failure, raised = .error failure) ∧ (ctx.workflow_id = "" ∨ Escaped r t raised)) ∨
        ∃ result, Concluded inp actions r (.error raised) result t := by
  have some_ : actions.isEmpty = false := by simpa using nonempty
  simp only [execute_output_actions,some_,Bool.false_eq_true,if_false]
  refine triple_bind (triple_quiet (triple_mono (redirect_all_spec actions.zipIdx) (fun _ _ done => done)
    fun _ _ failed => .inl failed)) ?_
  rintro corrected s ⟨order,spent,named⟩
  rw [List.zipIdx_map_fst] at order
  have named : ctx.workflow_id ≠ "" := named.resolve_left (by simpa using nonempty)
  refine triple_bind (triple_mono (apply_critical_spec _ (filter_critical corrected) .empty [] rfl) (fun _ _ done => done) ?_) ?_
  · rintro raised t (escaped | ⟨before,failing,result,rfl,listed,each,succeeded,failed,kinds,u,spent',events,log⟩)
    · exact .inl ⟨escaped.1,.inr (spent.escaped escaped)⟩
    · rw [spent.last_commit_branch] at each
      refine .inr ⟨result,named,corrected,before ++ [failing],order,?_,each,by simpa using kinds,u,?_,events,log⟩
      · exact .inr ⟨rfl,before,failing,rfl,succeeded,failed,listed⟩
      · simpa using spent.trans spent'
  · rintro result t ⟨apps,listed,each,spent',kinds⟩
    rw [spent.last_commit_branch] at each
    rw [List.nil_append] at kinds
    have upto : Spent r t apps := by simpa using spent.trans spent'
    refine triple_bind (triple_quiet (triple_mono
      (apply_best_effort_spec _ (filter_optional corrected) result apps kinds) (fun _ _ done => done) ?_)) ?_
    · intro raised u escaped
      exact .inl ⟨escaped.1,.inr (upto.escaped escaped)⟩
    · rintro result' u ⟨others,listed',each',spent'',kinds'⟩
      rw [upto.last_commit_branch] at each'
      refine ⟨named,corrected,apps ++ others,order,.inl ⟨rfl,?_,?_⟩,?_,kinds',u,upto.trans spent'',rfl,rfl⟩
      · rw [List.map_append,listed,listed']
      · intro a member critical
        rcases List.mem_append.mp member with first | second
        · exact (each a first).2
        · have optional := filter_optional corrected a.action (listed' ▸ List.mem_map_of_mem second)
          rw [critical] at optional
          cases optional
      · intro a member
        rcases List.mem_append.mp member with first | second
        · exact (each a first).1
        · exact each' a second

private theorem execute_spec (nonempty : actions ≠ []) :
    (Recorded ctx inp env Application.replied actions r ∧ ctx.workflow_id ≠ "" ∧
      Replies ctx (Handled ctx)
        (addedEvents ctx r (exec (bodyHandler env) (execute_output_actions ctx inp actions) r).2)) ∨
    ((∃ failure, (exec (bodyHandler env) (execute_output_actions ctx inp actions) r).1 = .error (.error failure)) ∧
      (ctx.workflow_id = "" ∨ ¬Replies ctx (Handled ctx)
        (addedEvents ctx r (exec (bodyHandler env) (execute_output_actions ctx inp actions) r).2))) := by
  have triple := @execute_triple ctx inp env r actions nonempty
  have concluded : ∀ outcome result t,
      exec (bodyHandler env) (execute_output_actions ctx inp actions) r = (outcome,t) →
      Concluded inp actions r outcome result t →
      Recorded ctx inp env Application.replied actions r ∧ ctx.workflow_id ≠ "" ∧
        Replies ctx (Handled ctx) (addedEvents ctx r t) := by
    rintro outcome result t ran ⟨named,corrected,apps,order,ordered,each,kinds,s,spent,events,log⟩
    obtain ⟨added,grown,calls,handled⟩ := spent.events
    rw [grown] at events
    rw [addedEvents_append events]
    refine ⟨⟨corrected,apps,result,order,?_,each,?_,kinds,?_⟩,named,handled⟩
    · rw [ran]
      exact ordered
    · rw [ran,addedEvents_append events]
      exact calls
    · rw [ran]
      exact log.trans (by rw [spent.output_actions_log])
  unfold Triple at triple
  generalize ran : exec (bodyHandler env) (execute_output_actions ctx inp actions) r = outcome at triple ⊢
  obtain ⟨outcome,t⟩ := outcome
  cases outcome with
  | ok result => exact .inl (concluded _ _ _ ran triple)
  | error raised =>
    rcases triple with ⟨⟨failure,rfl⟩,unnamed | ⟨-,added,events,unhandled⟩⟩ | ⟨result,done⟩
    · exact .inr ⟨⟨failure,rfl⟩,.inl unnamed⟩
    · refine .inr ⟨⟨failure,rfl⟩,.inr ?_⟩
      rw [addedEvents_append events]
      exact unhandled
    · exact .inl (concluded _ _ _ ran done)

/-! ### Counting the successes -/

/-- A reply that the loop counts as a success, and one that is a success. -/
def okCall : String × List Json × Except Failure Json → Bool
  | (_,_,.ok _) => true
  | _ => false

def honestCall : String × List Json × Except Failure Json → Bool
  | (_,_,.ok reply) => !reportsFailure reply
  | _ => false

private theorem count_calls (counts : String × List Json × Except Failure Json → Bool) (success : Application → Bool)
    (refused : ∀ action reason, success ⟨action,.refused reason⟩ = false)
    (called : ∀ action activity_name args reply,
      success ⟨action,.called activity_name args reply⟩ = counts (activity_name,args,reply)) (apps : List Application) :
    (apps.filterMap Application.call).countP counts = apps.countP success := by
  induction apps with
  | nil => rfl
  | cons a rest ih =>
    obtain ⟨action,attempt⟩ := a
    cases attempt with
    | refused reason => rw [List.filterMap_cons_none rfl,List.countP_cons_of_neg (by simp [refused]),ih]
    | called activity_name args reply =>
      have call : Application.call ⟨action,.called activity_name args reply⟩ = some (activity_name,args,reply) := rfl
      rw [List.filterMap_cons_some call,List.countP_cons,List.countP_cons,ih,called]

variable {apps : List Application}

private theorem count_tally {result : ApplyResult} {success : Application → Bool}
    (kinds : ApplyResult.kinds result = tally success apps) :
    result.successful_critical.length + result.successful_best_effort.length = apps.countP success := by
  simp only [ApplyResult.kinds,tally,Prod.mk.injEq] at kinds
  obtain ⟨critical,-,optional,-⟩ := kinds
  rw [critical,optional]
  simp only [kindsOf,List.length_map,← List.countP_eq_length_filter]
  clear critical optional
  induction apps with
  | nil => rfl
  | cons a rest ih =>
    simp only [List.countP_cons]
    rw [← ih]
    cases a.action.kind.critical <;> cases success a <;> simp <;> omega

private theorem honest_of_count {calls : List (String × List Json × Except Failure Json)}
    (same : calls.countP okCall = calls.countP honestCall) : ∀ call ∈ calls, okCall call = true → honestCall call = true := by
  have weaker : ∀ call, honestCall call = true → okCall call = true := by
    rintro ⟨activity_name,args,reply⟩ honest
    cases reply with
    | error failure => cases honest
    | ok value => rfl
  have split := List.countP_eq_countP_filter_add calls okCall honestCall
  have honest : (calls.filter honestCall).countP okCall = calls.countP honestCall := by
    rw [List.countP_eq_length_filter,List.filter_eq_self.mpr,List.countP_eq_length_filter]
    intro call member
    exact weaker call (List.mem_filter.mp member).2
  have none_left : (calls.filter fun call => !honestCall call).countP okCall = 0 := by omega
  intro call member counted
  by_contra dishonest
  rw [Bool.not_eq_true] at dishonest
  refine List.countP_eq_zero.mp none_left call (List.mem_filter.mpr ⟨member,?_⟩) counted
  simp [dishonest]

/-! ### The lists tell the truth -/

private theorem Ordered.congr {success success' : Application → Bool} {corrected : List OutputAction}
    {outcome : Except Raised ApplyResult} {result : ApplyResult}
    (same : ∀ a ∈ apps, success a = success' a) (ordered : Ordered success corrected apps outcome result) :
    Ordered success' corrected apps outcome result := by
  rcases ordered with ⟨returned,order,critical⟩ | ⟨raised,before,failing,rfl,succeeded,failed,listed⟩
  · refine .inl ⟨returned,order,fun a member kind => ?_⟩
    rw [← same a member]
    exact critical a member kind
  · refine .inr ⟨raised,before,failing,rfl,fun a member => ?_,?_,listed⟩
    · rw [← same a (List.mem_append_left _ member)]
      exact succeeded a member
    · rw [← same failing (by simp)]
      exact failed

private theorem tally_congr {success success' : Application → Bool}
    (same : ∀ a ∈ apps, success a = success' a) : tally success apps = tally success' apps := by
  have filtered : ∀ critical negated : Bool → Bool,
      kindsOf apps (fun a => critical a.action.kind.critical && negated (success a)) =
        kindsOf apps fun a => critical a.action.kind.critical && negated (success' a) := by
    intro critical negated
    unfold kindsOf
    congr 1
    refine List.filter_congr fun a member => ?_
    rw [same a member]
  simp only [tally,Prod.mk.injEq]
  exact ⟨filtered id id,filtered id not,filtered not id,filtered not not⟩

variable {events : List (Event (agent ctx.py))}

private theorem mem_outputCalls {activity_name : String} {args : List Json}
    {reply : Except Failure Json} (member : .replied (.body (.output_action activity_name args)) reply ∈ events) :
    (activity_name,args,reply) ∈ outputCalls events :=
  List.mem_filterMap.mpr ⟨_,member,rfl⟩

private theorem of_mem_outputCalls {activity_name : String} {args : List Json}
    {reply : Except Failure Json} (member : (activity_name,args,reply) ∈ outputCalls events) :
    .replied (.body (.output_action activity_name args)) reply ∈ events := by
  obtain ⟨event,held,shown⟩ := List.mem_filterMap.mp member
  split at shown
  · cases shown
    exact held
  · cases shown

private theorem replied_succeeded
    (calls : outputCalls events = apps.filterMap Application.call) (honest : Replies ctx Honest events) :
    ∀ a ∈ apps, a.replied = a.succeeded := by
  rintro ⟨action,attempt⟩ member
  cases attempt with
  | refused reason => rfl
  | called activity_name args reply =>
    cases reply with
    | error failure => rfl
    | ok value =>
      have called : (activity_name,args,.ok value) ∈ outputCalls events := by
        rw [calls]
        exact List.mem_filterMap.mpr ⟨_,member,rfl⟩
      have silent : reportsFailure value = false := honest _ _ (of_mem_outputCalls called)
      simp [Application.replied,Application.succeeded,silent]

private theorem honest_of_recorded
    (faithful : Faithful ctx inp env actions r) (recorded : Recorded ctx inp env Application.replied actions r) :
    Replies ctx Honest (addedEvents ctx r (exec (bodyHandler env) (execute_output_actions ctx inp actions) r).2) := by
  obtain ⟨_,apps,result,-,ordered,-,calls,kinds,-⟩ := faithful
  obtain ⟨_,apps',result',-,ordered',-,calls',kinds',-⟩ := recorded
  have same : result = result' := by
    rcases ordered with ⟨returned,-⟩ | ⟨failed,-⟩
    · rcases ordered' with ⟨returned',-⟩ | ⟨failed',-⟩
      · rw [returned] at returned'
        exact Except.ok.inj returned'
      · rw [returned] at failed'
        cases failed'
    · rcases ordered' with ⟨returned',-⟩ | ⟨failed',-⟩
      · rw [failed] at returned'
        cases returned'
      · rw [failed] at failed'
        cases failed'
        rfl
  subst same
  have counts := (count_tally kinds).symm.trans (count_tally kinds')
  rw [← count_calls honestCall Application.succeeded (fun _ _ => rfl) fun _ _ _ reply => by cases reply <;> rfl,
    ← count_calls okCall Application.replied (fun _ _ => rfl) fun _ _ _ reply => by cases reply <;> rfl,← calls,← calls'] at counts
  intro c reply member
  cases c with
  | output_action activity_name args =>
    cases reply with
    | error failure => trivial
    | ok value =>
      have honest := honest_of_count counts.symm _ (mem_outputCalls member) rfl
      exact Bool.not_eq_true' _ |>.mp honest
  | _ => trivial

/-- The actions are applied in order and recorded with their true outcome exactly
    where the workflow has an id, every offload replies with a location, every new
    pull request has a readable id, and no activity reports a failure in its reply. -/
theorem faithful_iff (ctx : Context) (inp : AgentRunnerWorkflowInput) (env : Environment (agent ctx.py))
    (actions : List OutputAction) (r : Run (agent ctx.py)) :
    Faithful ctx inp env actions r ↔
      (actions = [] ∨ ctx.workflow_id ≠ "") ∧
        Replies ctx (fun c reply => Handled ctx c reply ∧ Honest c reply)
          (addedEvents ctx r (exec (bodyHandler env) (execute_output_actions ctx inp actions) r).2) := by
  by_cases nonempty : actions = []
  · subst nonempty
    have nothing : exec (bodyHandler env) (execute_output_actions ctx inp []) r = (.ok .empty,r) := rfl
    have added : addedEvents ctx r r = [] := List.drop_length
    rw [nothing,added]
    refine iff_of_true ⟨[],[],.empty,.nil,?_,by simp,?_,rfl,?_⟩ ⟨.inl rfl,fun _ _ member => by cases member⟩
    · exact .inl ⟨rfl,rfl,by simp⟩
    · rw [nothing,added]
      rfl
    · rw [nothing]
      simp [ApplyResult.extend,ApplyResult.empty]
  · constructor
    · intro faithful
      rcases @execute_spec ctx inp env r actions nonempty with ⟨recorded,named,handled⟩ | ⟨⟨failure,escaped⟩,-⟩
      · refine ⟨.inr named,fun c reply member => ⟨handled c reply member,?_⟩⟩
        exact honest_of_recorded faithful recorded c reply member
      · -- An exception that escapes is neither of the two ends of a faithful run.
        obtain ⟨corrected,apps,result,-,⟨returned,-⟩ | ⟨failed,-⟩,-⟩ := faithful
        · rw [escaped] at returned
          cases returned
        · rw [escaped] at failed
          cases failed
    · rintro ⟨named,replies⟩
      have handled : Replies ctx (Handled ctx) _ := fun c reply member => (replies c reply member).1
      have honest : Replies ctx Honest _ := fun c reply member => (replies c reply member).2
      rcases @execute_spec ctx inp env r actions nonempty with ⟨recorded,-,-⟩ | ⟨-,unnamed | unhandled⟩
      · obtain ⟨corrected,apps,result,order,ordered,each,calls,kinds,log⟩ := recorded
        have same := replied_succeeded calls honest
        exact ⟨corrected,apps,result,order,ordered.congr same,each,calls,kinds.trans (tally_congr same),log⟩
      · exact absurd unnamed (named.resolve_left nonempty)
      · exact absurd handled unhandled

end

/-! A worker that writes payloads of plain strings with sorted keys, and an attachment
that is too large: the activity says so in its reply. -/

def dumps_plain (payload : List (String × Json)) : String :=
  "\x7b" ++ ",".intercalate (payload.map fun item => "\"" ++ item.1 ++ "\":\"" ++ orEmpty item.2.asStr ++ "\"") ++ "\x7d"

def writer : Context := { AgentRunner.worker with py := { AgentRunner.worker.py with dumps := dumps_plain } }

def attachment : OutputAction :=
  { kind := .jira_attachment
    payload := [("file_name",.str "report.pdf"),("key",.str "ai-runs/wf-1/report.pdf")] }

def too_large : Json :=
  .obj [("success",.bool false),("error_code",.str "file_too_large"),("error",.str "15728640 bytes")]

def rejecting : Environment (agent writer.py) where
  activity _ _ := ([],.ok too_large)
  waiting _ := []
  clock _ := 0

theorem failed_upload_recorded :
    let ran := exec (bodyHandler rejecting)
      (execute_output_actions writer (AgentRunner.issue "research_only") [attachment]) (AgentRunner.start writer [])
    ran.1 = .ok ⟨[],[],["jira_attachment"],[]⟩ ∧
      outputCalls ran.2.events = [("upload_artifact_to_jira",
        [.str "PAY-7",.str "ai-runs",.str "ai-runs/wf-1/report.pdf",.str "report.pdf",.str "payments"],.ok too_large)] ∧
      ¬Faithful writer (AgentRunner.issue "research_only") rejecting [attachment] (AgentRunner.start writer []) := by
  refine ⟨rfl,rfl,fun faithful => ?_⟩
  have member : .replied (.body (.output_action "upload_artifact_to_jira"
      [.str "PAY-7",.str "ai-runs",.str "ai-runs/wf-1/report.pdf",.str "report.pdf",.str "payments"])) (.ok too_large) ∈
      addedEvents writer (AgentRunner.start writer []) (exec (bodyHandler rejecting)
        (execute_output_actions writer (AgentRunner.issue "research_only") [attachment])
        (AgentRunner.start writer [])).2 := .tail _ (.head _)
  rcases execute_spec (List.cons_ne_nil attachment []) with ⟨recorded,-,-⟩ | ⟨⟨failure,escaped⟩,-⟩
  · have honest := honest_of_recorded faithful recorded _ _ member
    cases honest
  · cases escaped

end Automation.OutputActions
