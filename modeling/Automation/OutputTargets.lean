import Automation.OutputActions

/-!
Where an output action goes. The leading arguments of its activity name the target;
each is read from the payload under one of its keys, with a default of the run. The
size cap replaces the payload by a stub that has none of the keys, so an oversized
action goes to the defaults (`target_kept_iff`).
-/
namespace Automation.OutputTargets
open Automation.Effects Automation.Coroutine Automation.AgentMessages Automation.AgentState Automation.AgentExtract
open Automation.AgentHandlers Automation.OutputActions

/-- How many leading arguments of the activity identify the target: the issue key; the
    issue key, bucket and key; the space and title; the page id and title; the
    repository, source and target branch. -/
def targetArity : OutputActionKind → Nat
  | .jira_comment => 1
  | .jira_attachment => 3
  | .confluence_create_page => 2
  | .confluence_update_page => 2
  | .bitbucket_create_pr => 3
  | _ => 0

section
variable (ctx : Context) (inp : AgentRunnerWorkflowInput)

/-- The activity of an action with its arguments; nothing where the action is refused. -/
def requested (action : OutputAction) (last_commit_branch : Option String) : List (String × List Json) :=
  match OUTPUT_ACTION_DISPATCH action.kind, activity_args ctx inp action last_commit_branch with
  | some activity_name, .ok args => [(activity_name,args)]
  | _, _ => []

/-- The targets of the activities that applying the action calls. -/
def appliedTargets (env : Environment (agent ctx.py)) (action : OutputAction) (r : Run (agent ctx.py)) : List (List Json) :=
  (outputCalls (addedEvents ctx r (exec (quietHandler env) (apply_single_output_action ctx inp action) r).2)).map
    fun called => called.2.1.take (targetArity action.kind)

end

section
variable {ctx : Context} {inp : AgentRunnerWorkflowInput} {env : Environment (agent ctx.py)} {r : Run (agent ctx.py)}

private theorem apply_single_requests (action : OutputAction) :
    Triple (quietHandler env) (apply_single_output_action ctx inp action) r
      (fun _ t => ∃ added, t.events = r.events ++ added ∧
        (outputCalls added).map (fun called => (called.1,called.2.1)) =
          requested ctx inp action r.self.notes.last_commit_branch)
      fun _ t => ∃ added, t.events = r.events ++ added ∧
        (outputCalls added).map (fun called => (called.1,called.2.1)) =
          requested ctx inp action r.self.notes.last_commit_branch := by
  unfold apply_single_output_action
  cases dispatched : OUTPUT_ACTION_DISPATCH action.kind with
  | none => exact triple_pure ⟨[],by simp,by simp [requested,dispatched,outputCalls]⟩
  | some activity_name =>
    refine triple_look ?_
    cases arguments : activity_args ctx inp action r.self.notes.last_commit_branch with
    | error reason => exact triple_pure ⟨[],by simp,by simp [requested,dispatched,arguments,outputCalls]⟩
    | ok args =>
      refine triple_await fun signals reply turn => ?_
      have calls := @outputCalls_awaited ctx (.output_action activity_name args) signals reply
      have asked : (outputCalls (.began (.body (.output_action activity_name args)) ::
          signals.map (Event.handled (W := agent ctx.py)) ++ [.replied (.body (.output_action activity_name args)) reply])).map
            (fun called => (called.1,called.2.1)) = requested ctx inp action r.self.notes.last_commit_branch := by
        rw [calls]
        simp [requested,dispatched,arguments]
      have here : ∃ added, (awaited r (.body (.output_action activity_name args)) signals reply turn).events =
          r.events ++ added ∧ (outputCalls added).map (fun called => (called.1,called.2.1)) =
            requested ctx inp action r.self.notes.last_commit_branch := ⟨_,List.append_assoc _ _ _,asked⟩
      cases reply with
      | error failure => exact triple_pure here
      | ok activity_result =>
        simp only
        split
        · refine triple_bind (triple_mono (after_create_pr_spent activity_result) (fun _ _ done => done) ?_) ?_
          · rintro _ t ⟨rfl,-⟩
            exact here
          · -- The comment that follows a new pull request is no output action.
            rintro _ t ⟨spent,-⟩
            obtain ⟨later,grown,silent,-⟩ := spent.events
            obtain ⟨added,events,asked⟩ := here
            refine triple_pure ⟨added ++ later,by rw [grown,events,List.append_assoc],?_⟩
            have none_later : outputCalls later = [] := silent
            unfold outputCalls at none_later asked ⊢
            rw [List.filterMap_append,none_later,List.append_nil]
            exact asked
        · exact triple_pure here

theorem appliedTargets_eq (action : OutputAction) :
    appliedTargets ctx inp env action r =
      (requested ctx inp action r.self.notes.last_commit_branch).map fun called =>
        called.2.take (targetArity action.kind) := by
  have requests := @apply_single_requests ctx inp env r action
  have grown : ∃ added, (exec (quietHandler env) (apply_single_output_action ctx inp action) r).2.events =
      r.events ++ added ∧ (outputCalls added).map (fun called => (called.1,called.2.1)) =
        requested ctx inp action r.self.notes.last_commit_branch := by
    unfold Triple at requests
    split at requests
    · next ended => rw [ended]; exact requests
    · next ended => rw [ended]; exact requests
  obtain ⟨added,events,asked⟩ := grown
  rw [appliedTargets,addedEvents_append events,← asked,List.map_map]
  rfl

end

/-- The first of the keys under which the payload has a value. -/
def named (payload : List (String × Json)) (keys : List String) : Option Json :=
  (keys.map (Json.obj payload.reverse).get).find? Json.truthy

/-- The keys of each field of the target, with the value the run has for it. -/
def targetFields (inp : AgentRunnerWorkflowInput) (last_commit_branch : Option String) :
    OutputActionKind → List (List String × Json)
  | .jira_comment => [(["issue_key"],.str inp.issue_key)]
  | .jira_attachment => [(["issue_key"],.str inp.issue_key),(["bucket"],.str "ai-runs"),(["key","minio_key"],.str "")]
  | .confluence_create_page => [(["space_key","space"],.str ""),
      (["title"],firstTruthy [.str inp.analysis.title,.str inp.issue_key])]
  | .confluence_update_page => [(["page_id","id"],.str ""),
      (["title"],firstTruthy [.str inp.analysis.title,.str inp.issue_key])]
  | .bitbucket_create_pr => [(["workspace","project_key"],.str ""),
      (["repo_slug","repository"],.str (orEmpty inp.target_repo)),
      (["source_branch","from_branch"],.str (orEmpty last_commit_branch)),
      (["target_branch","to_branch"],firstTruthy [.str (orEmpty inp.target_branch),.str "main"])]
  | _ => []

/-- The payload names no target but the one of the run. -/
def NamesDefault (inp : AgentRunnerWorkflowInput) (last_commit_branch : Option String) (action : OutputAction) : Prop :=
  ∀ field ∈ targetFields inp last_commit_branch action.kind, ∀ value,
    named action.payload field.1 = some value → value = field.2

/-- A pull request without a source branch, which is not opened. -/
def Sourceless (last_commit_branch : Option String) (action : OutputAction) : Prop :=
  action.kind = .bitbucket_create_pr ∧ named action.payload ["source_branch","from_branch"] = none ∧
    orEmpty last_commit_branch = ""

section
variable {ctx : Context} {inp : AgentRunnerWorkflowInput}

private theorem firstTruthy_named (payload : List (String × Json)) (keys : List String) {defaults : List Json}
    (some_ : defaults ≠ []) :
    firstTruthy (keys.map (Json.obj payload.reverse).get ++ defaults) = (named payload keys).getD (firstTruthy defaults) := by
  induction keys with
  | nil => rfl
  | cons key rest ih =>
    have step : firstTruthy ((key :: rest).map (Json.obj payload.reverse).get ++ defaults) =
        ((Json.obj payload.reverse).get key).orElse
          (firstTruthy (rest.map (Json.obj payload.reverse).get ++ defaults)) := by
      obtain ⟨next,others,shape⟩ := List.exists_cons_of_ne_nil
        (List.append_ne_nil_of_right_ne_nil (rest.map (Json.obj payload.reverse).get) some_)
      rw [List.map_cons,List.cons_append,shape]
      rfl
    rw [step,ih,Json.orElse,named,named,List.map_cons,List.find?_cons]
    cases truthy : ((Json.obj payload.reverse).get key).truthy with
    | true => rfl
    | false => rfl

private theorem getD_eq_iff (found : Option Json) (default : Json) :
    default = found.getD default ↔ ∀ value, found = some value → value = default := by
  cases found with
  | none => simp
  | some value => simp [eq_comm]

private theorem named_offloaded {action : OutputAction} {minio_uri : String} {keys : List String}
    (other : ∀ key ∈ keys, key ≠ "summary" ∧ key ≠ "minio_uri" ∧ key ≠ "size_bytes") :
    named (offloaded ctx action minio_uri).payload keys = none := by
  rw [named,List.find?_eq_none]
  intro value member
  obtain ⟨key,listed,rfl⟩ := List.mem_map.mp member
  obtain ⟨summary,uri,size⟩ := other key listed
  simp [offloaded,Json.get,List.lookup_cons,summary,uri,size,beq_eq_false_iff_ne.mpr,Json.truthy]

private theorem one_key (payload : List (String × Json)) (key : String) (default : Json) :
    ((Json.obj payload.reverse).get key).orElse default = (named payload [key]).getD default :=
  firstTruthy_named payload [key] (List.cons_ne_nil default [])

private theorem two_keys (payload : List (String × Json)) (key other : String) (default : Json) :
    firstTruthy [(Json.obj payload.reverse).get key,(Json.obj payload.reverse).get other,default] =
      (named payload [key,other]).getD default :=
  firstTruthy_named payload [key,other] (List.cons_ne_nil default [])

private theorem title_or (payload : List (String × Json)) (first second : Json) :
    firstTruthy [(Json.obj payload.reverse).get "title",first,second] =
      (named payload ["title"]).getD (firstTruthy [first,second]) :=
  firstTruthy_named payload ["title"] (List.cons_ne_nil first [second])

theorem two_keys_defaults (payload : List (String × Json)) (key other : String) (first second : Json) :
    firstTruthy [(Json.obj payload.reverse).get key,(Json.obj payload.reverse).get other,first,second] =
      (named payload [key,other]).getD (firstTruthy [first,second]) :=
  firstTruthy_named payload [key,other] (List.cons_ne_nil first [second])

variable (ctx inp) in
def requestedTargets (action : OutputAction) (last_commit_branch : Option String) : List (List Json) :=
  (requested ctx inp action last_commit_branch).map fun called => called.2.take (targetArity action.kind)

private theorem pr_targets (payload : List (String × Json)) (last_commit_branch : Option String) :
    requestedTargets ctx inp ⟨.bitbucket_create_pr,payload⟩ last_commit_branch =
      if ((named payload ["source_branch","from_branch"]).getD (.str (orEmpty last_commit_branch))).truthy then
        [[.obj [("workspace",(named payload ["workspace","project_key"]).getD (.str "")),
          ("repo_slug",(named payload ["repo_slug","repository"]).getD (.str (orEmpty inp.target_repo)))],
          (named payload ["source_branch","from_branch"]).getD (.str (orEmpty last_commit_branch)),
          (named payload ["target_branch","to_branch"]).getD (firstTruthy [.str (orEmpty inp.target_branch),.str "main"])]]
      else [] := by
  simp only [requestedTargets,requested,OUTPUT_ACTION_DISPATCH,activity_args,two_keys,two_keys_defaults]
  split
  · next arguments =>
    split at arguments
    · next sourced =>
      cases arguments
      rw [if_pos sourced]
      rfl
    · cases arguments
  · next refused =>
    split
    · next sourced =>
      rw [if_pos sourced] at refused
      exact absurd rfl (refused _ _ rfl)
    · rfl

/-- The stub of an action requests the same target exactly where the payload names no
    target of its own, or where neither opens a pull request. -/
private theorem offloaded_target_iff (action : OutputAction) (minio_uri : String) (last_commit_branch : Option String) :
    requestedTargets ctx inp (offloaded ctx action minio_uri) last_commit_branch =
        requestedTargets ctx inp action last_commit_branch ↔
      NamesDefault inp last_commit_branch action ∨ Sourceless last_commit_branch action := by
  obtain ⟨kind,payload⟩ := action
  have stub_unnamed : ∀ keys : List String,
      (∀ key ∈ keys, key ≠ "summary" ∧ key ≠ "minio_uri" ∧ key ≠ "size_bytes") →
      named (offloaded ctx ⟨kind,payload⟩ minio_uri).payload keys = none := fun _ => named_offloaded
  have shape : offloaded ctx ⟨kind,payload⟩ minio_uri = ⟨kind,(offloaded ctx ⟨kind,payload⟩ minio_uri).payload⟩ := rfl
  rw [shape]
  generalize (offloaded ctx ⟨kind,payload⟩ minio_uri).payload = stub at stub_unnamed
  cases kind with
  | jira_comment =>
    simp only [requestedTargets,requested,OUTPUT_ACTION_DISPATCH,activity_args,one_key,stub_unnamed ["issue_key"] (by simp)]
    simp [targetArity,NamesDefault,targetFields,Sourceless,getD_eq_iff]
  | jira_attachment =>
    simp only [requestedTargets,requested,OUTPUT_ACTION_DISPATCH,activity_args,one_key,two_keys,
      stub_unnamed ["issue_key"] (by simp),stub_unnamed ["bucket"] (by simp),stub_unnamed ["key","minio_key"] (by simp)]
    simp [targetArity,NamesDefault,targetFields,Sourceless,getD_eq_iff]
  | confluence_create_page =>
    simp only [requestedTargets,requested,OUTPUT_ACTION_DISPATCH,activity_args,two_keys,title_or,
      stub_unnamed ["space_key","space"] (by simp),stub_unnamed ["title"] (by simp)]
    simp [targetArity,NamesDefault,targetFields,Sourceless,getD_eq_iff]
  | confluence_update_page =>
    simp only [requestedTargets,requested,OUTPUT_ACTION_DISPATCH,activity_args,two_keys,title_or,
      stub_unnamed ["page_id","id"] (by simp),stub_unnamed ["title"] (by simp)]
    simp [targetArity,NamesDefault,targetFields,Sourceless,getD_eq_iff]
  | bitbucket_create_pr =>
    rw [pr_targets,pr_targets,stub_unnamed ["source_branch","from_branch"] (by simp),
      stub_unnamed ["workspace","project_key"] (by simp),stub_unnamed ["repo_slug","repository"] (by simp),
      stub_unnamed ["target_branch","to_branch"] (by simp)]
    have found_truthy : ∀ value, named payload ["source_branch","from_branch"] = some value → value.truthy = true :=
      fun value found => by simpa using List.find?_some found
    by_cases committed : orEmpty last_commit_branch = ""
    · cases found : named payload ["source_branch","from_branch"] with
      | none => simp [Sourceless,found,committed,Json.truthy]
      | some source =>
        -- Only the action itself opens a pull request: its branch is no empty text.
        have truthy := found_truthy source found
        have other : source ≠ .str "" := by
          rintro rfl
          cases truthy
        have empty : (Json.str "").truthy = false := rfl
        simp [Sourceless,NamesDefault,targetFields,found,committed,truthy,other,empty]
    · have sourced : (Json.str (orEmpty last_commit_branch)).truthy = true := by simpa [Json.truthy] using committed
      have sourced' : ((named payload ["source_branch","from_branch"]).getD (.str (orEmpty last_commit_branch))).truthy =
          true := by
        cases found : named payload ["source_branch","from_branch"] with
        | none => exact sourced
        | some source => exact found_truthy source found
      rw [if_pos sourced',Option.getD_none,if_pos sourced]
      simp [Sourceless,NamesDefault,targetFields,committed,getD_eq_iff,and_assoc]
  | _ => simp [requestedTargets,requested,OUTPUT_ACTION_DISPATCH,activity_args,targetArity,NamesDefault,targetFields]

private theorem redirect_spec {env : Environment (agent ctx.py)} (action : OutputAction) (idx : Nat) (r : Run (agent ctx.py)) :
    Triple (quietHandler env) (redirect_oversized_payload ctx action idx) r
      (fun corrected s => s.self.notes.last_commit_branch = r.self.notes.last_commit_branch ∧
        ((ctx.py.dumps action.payload).utf8ByteSize ≤ MAX_OUTPUT_BYTES ∧ corrected = action ∨
          MAX_OUTPUT_BYTES < (ctx.py.dumps action.payload).utf8ByteSize ∧
            ∃ minio_uri, corrected = offloaded ctx action minio_uri))
      fun _ _ => True := by
  unfold redirect_oversized_payload
  split
  · exact triple_raise trivial
  · simp only
    split
    · next small => exact triple_pure ⟨rfl,.inl ⟨small,rfl⟩⟩
    · next large =>
      refine triple_bind (triple_mono (minio_offload_spec _ _) (fun _ _ spent => spent) fun _ _ _ => trivial) ?_
      intro minio_uri s spent
      exact triple_pure ⟨spent.last_commit_branch,.inr ⟨Nat.lt_of_not_le large,minio_uri,rfl⟩⟩

end

/-- The size cap keeps the target of an action exactly where the payload is not over the
    cap, names no target but the run's own, or opens no pull request for want of a source. -/
theorem target_kept_iff (ctx : Context) (inp : AgentRunnerWorkflowInput) (env : Environment (agent ctx.py))
    (action corrected : OutputAction) (idx : Nat) (r s : Run (agent ctx.py))
    (redirected : exec (quietHandler env) (redirect_oversized_payload ctx action idx) r = (.ok corrected,s)) :
    appliedTargets ctx inp env corrected s = appliedTargets ctx inp env action r ↔
      (ctx.py.dumps action.payload).utf8ByteSize ≤ MAX_OUTPUT_BYTES ∨
        NamesDefault inp r.self.notes.last_commit_branch action ∨ Sourceless r.self.notes.last_commit_branch action := by
  have spec := @redirect_spec ctx env action idx r
  unfold Triple at spec
  rw [redirected] at spec
  obtain ⟨branch,⟨small,rfl⟩ | ⟨large,minio_uri,rfl⟩⟩ := spec
  · rw [appliedTargets_eq,appliedTargets_eq,branch]
    simp [small]
  · have beyond : ¬(ctx.py.dumps action.payload).utf8ByteSize ≤ MAX_OUTPUT_BYTES := Nat.not_le.mpr large
    rw [appliedTargets_eq,appliedTargets_eq,branch,or_iff_right beyond]
    exact offloaded_target_iff action minio_uri _

/-! A comment and a page of more than a mebibyte, and the bucket that takes them. -/

def long_text : String := String.ofList (List.replicate MAX_OUTPUT_BYTES 'a')

def comment (body : String) : OutputAction := { kind := .jira_comment, payload := [("body",.str body)] }

def page (content : String) : OutputAction :=
  { kind := .confluence_create_page
    payload := [("content",.str content),("space_key",.str "DOCS"),("title",.str "Release notes")] }

def storing : Environment (agent writer.py) where
  activity _ _ := ([],.ok (.str "s3://ai-runs/wf-1/output-0.json"))
  waiting _ := []
  clock _ := 0

private theorem long_text_size : long_text.utf8ByteSize = MAX_OUTPUT_BYTES := by
  unfold long_text
  generalize MAX_OUTPUT_BYTES = n
  have one : (String.singleton 'a').utf8ByteSize = 1 := by decide
  induction n with
  | zero => rfl
  | succ n ih =>
    rw [List.replicate_succ,String.ofList_cons,String.utf8ByteSize_append,ih]
    omega

private theorem comment_over : MAX_OUTPUT_BYTES < (writer.py.dumps (comment long_text).payload).utf8ByteSize := by
  have text : writer.py.dumps (comment long_text).payload = "\x7b" ++ ("\"body\":\"" ++ long_text ++ "\"") ++ "\x7d" := rfl
  have brace : 0 < ("\x7b" : String).utf8ByteSize := by decide
  simp only [text,String.utf8ByteSize_append,long_text_size]
  omega

private theorem page_over : MAX_OUTPUT_BYTES < (writer.py.dumps (page long_text).payload).utf8ByteSize := by
  have text : writer.py.dumps (page long_text).payload = "\x7b" ++ ("\"content\":\"" ++ long_text ++ "\"" ++ "," ++
      "\"space_key\":\"DOCS\"" ++ "," ++ "\"title\":\"Release notes\"") ++ "\x7d" := rfl
  have brace : 0 < ("\x7b" : String).utf8ByteSize := by decide
  simp only [text,String.utf8ByteSize_append,long_text_size]
  omega

/-- The run after the offload. -/
def stored (action : OutputAction) : Run (agent writer.py) :=
  awaited (AgentRunner.start writer []) (.body (.minio_put_output_action "ai-runs/wf-1/output-0.json"
    (writer.py.dumps action.payload))) [] (.ok (.str "s3://ai-runs/wf-1/output-0.json")) 1

private theorem storing_redirects {action : OutputAction}
    (beyond : MAX_OUTPUT_BYTES < (writer.py.dumps action.payload).utf8ByteSize) :
    exec (quietHandler storing) (redirect_oversized_payload writer action 0) (AgentRunner.start writer []) =
      (.ok (offloaded writer action "s3://ai-runs/wf-1/output-0.json"),stored action) := by
  have large : ¬(writer.py.dumps action.payload).utf8ByteSize ≤ MAX_OUTPUT_BYTES := Nat.not_le.mpr beyond
  have id : writer.workflow_id ≠ "" := by decide
  simp only [redirect_oversized_payload,if_neg large,if_neg id]
  rfl

theorem long_comment_kept :
    appliedTargets writer (AgentRunner.issue "research_only") storing
        (offloaded writer (comment long_text) "s3://ai-runs/wf-1/output-0.json") (stored (comment long_text)) =
      appliedTargets writer (AgentRunner.issue "research_only") storing (comment long_text) (AgentRunner.start writer []) := by
  refine (target_kept_iff writer _ storing (comment long_text) _ 0 _ _ (storing_redirects comment_over)).mpr (.inr (.inl ?_))
  intro field member value found
  rcases List.mem_singleton.mp member with rfl
  cases found

/-- The page is created in no space, under the title of the run. -/
theorem long_page_misplaced :
    exec (quietHandler storing) (redirect_oversized_payload writer (page long_text) 0) (AgentRunner.start writer []) =
      (.ok (offloaded writer (page long_text) "s3://ai-runs/wf-1/output-0.json"),stored (page long_text)) ∧
    appliedTargets writer (AgentRunner.issue "research_only") storing (page long_text) (AgentRunner.start writer []) =
      [[.str "DOCS",.str "Release notes"]] ∧
    appliedTargets writer (AgentRunner.issue "research_only") storing
        (offloaded writer (page long_text) "s3://ai-runs/wf-1/output-0.json") (stored (page long_text)) =
      [[.str "",.str "Fix"]] ∧
    appliedTargets writer (AgentRunner.issue "research_only") storing
        (offloaded writer (page long_text) "s3://ai-runs/wf-1/output-0.json") (stored (page long_text)) ≠
      appliedTargets writer (AgentRunner.issue "research_only") storing (page long_text) (AgentRunner.start writer []) := by
  have asked : appliedTargets writer (AgentRunner.issue "research_only") storing (page long_text)
      (AgentRunner.start writer []) = [[.str "DOCS",.str "Release notes"]] := rfl
  have went : appliedTargets writer (AgentRunner.issue "research_only") storing
      (offloaded writer (page long_text) "s3://ai-runs/wf-1/output-0.json") (stored (page long_text)) =
        [[.str "",.str "Fix"]] := rfl
  refine ⟨storing_redirects page_over,asked,went,?_⟩
  rw [asked,went]
  simp

end Automation.OutputTargets
