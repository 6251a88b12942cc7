import Automation.AgentCancel

/-!
What the terminal status of an `AgentRunnerWorkflow` says. A handler that returns
has done what its workflow type is for, or has an excuse that the run reports: a
page it must not touch, no finding to post, no source to cite. Its failures end
the run, but for three that a handler keeps in the state and returns with.
-/
namespace Automation.AgentStatus
open Automation.Effects Automation.Coroutine Automation.AgentMessages Automation.AgentState Automation.AgentExtract
open Automation.AgentHandlers Automation.AgentRunner Automation.AgentCancel

section
variable (ctx : Context) (inp : AgentRunnerWorkflowInput)

/-- Neither generation gave a file. -/
def NoFiles (events : List (Event (agent ctx.py))) : Prop :=
  ∃ output, .replied (.body (.opencode_generate_code inp.issue_key (build_code_generation_retry_prompt inp) "/tmp/workspace"))
    (.ok output) ∈ events ∧ extract_commit_files ctx.py output = []

/-- The child that tests the commit did not pass. -/
def TestsFailed (events : List (Event (agent ctx.py))) : Prop :=
  ∃ id input reply, .replied (.body (.ExecutionRunWorkflow id input)) reply ∈ events ∧
    (child_status reply).asStr ≠ some "passed"

def NoSubtasks (events : List (Event (agent ctx.py))) : Prop :=
  ∃ children, .replied (.body (.jira_list_epic_children inp.issue_key inp.department_id)) (.ok children) ∈ events ∧
    normalise_epic_children ctx.py children = []

/-- The failures that a handler keeps in the state and returns with. -/
def FailureReturned (events : List (Event (agent ctx.py))) : Prop :=
  NoFiles ctx inp events ∨ TestsFailed ctx events ∨ NoSubtasks ctx inp events

def Honest (r : Run (agent ctx.py)) : Prop :=
  r.self.verdict.out_of_scope = true ∨ r.self.verdict.failure_reason = none ∨ FailureReturned ctx inp r.events

/-- From `r` to `t` events and partial failures are only added, and the run stays honest. -/
structure Goes (r t : Run (agent ctx.py)) : Prop where
  events : r.events <+: t.events
  recorded : r.self.output_actions_partial_kinds <+: t.self.output_actions_partial_kinds
  honest : Honest ctx inp r → Honest ctx inp t

variable {ctx inp} {r t u : Run (agent ctx.py)}

theorem FailureReturned.grows {before after : List (Event (agent ctx.py))} (grown : before <+: after)
    (returned : FailureReturned ctx inp before) : FailureReturned ctx inp after := by
  rcases returned with ⟨output,replied,empty⟩ | ⟨id,input,reply,replied,failed⟩ | ⟨children,replied,empty⟩
  · exact .inl ⟨output,grown.subset replied,empty⟩
  · exact .inr (.inl ⟨id,input,reply,grown.subset replied,failed⟩)
  · exact .inr (.inr ⟨children,grown.subset replied,empty⟩)

theorem Goes.refl (r : Run (agent ctx.py)) : Goes ctx inp r r :=
  ⟨List.prefix_refl _,List.prefix_refl _,id⟩

theorem Goes.trans (first : Goes ctx inp r t) (second : Goes ctx inp t u) : Goes ctx inp r u :=
  ⟨first.events.trans second.events,first.recorded.trans second.recorded,second.honest ∘ first.honest⟩

theorem Goes.mem (goes : Goes ctx inp r t) {event : Event (agent ctx.py)} (member : event ∈ r.events) :
    event ∈ t.events := goes.events.subset member

theorem Goes.noted (goes : Goes ctx inp r t) {action_kind : String}
    (member : action_kind ∈ r.self.output_actions_partial_kinds) : action_kind ∈ t.self.output_actions_partial_kinds :=
  goes.recorded.subset member

/-! ### Signals and quiet steps -/

variable (ctx) in
private theorem receive_verdict (delivery : Delivery) (self : RunnerState) :
    (receive ctx.py delivery self).output_actions_partial_kinds = self.output_actions_partial_kinds ∧
      ((receive ctx.py delivery self).verdict = self.verdict ∨
        (receive ctx.py delivery self).verdict.out_of_scope = true) := by
  rcases receive_cases ctx.py delivery self with ⟨_,_,recorded,verdict⟩ | ⟨_,cancels⟩
  · exact ⟨recorded,verdict⟩
  · rw [cancels,cancel_requested]
    split
    · exact ⟨rfl,.inl rfl⟩
    · exact ⟨rfl,.inl rfl⟩

variable (ctx) in
private theorem handle_verdict (signals : List Delivery) (self : RunnerState) :
    (handle (W := agent ctx.py) signals self).output_actions_partial_kinds = self.output_actions_partial_kinds ∧
      (self.verdict.out_of_scope = true ∨ self.verdict.failure_reason = none →
        (handle (W := agent ctx.py) signals self).verdict.out_of_scope = true ∨
          (handle (W := agent ctx.py) signals self).verdict.failure_reason = none) := by
  induction signals generalizing self with
  | nil => exact ⟨rfl,id⟩
  | cons delivery rest ih =>
    obtain ⟨recorded,verdict⟩ := receive_verdict ctx delivery self
    obtain ⟨kept,clean⟩ := ih (receive ctx.py delivery self)
    rw [handle_cons]
    refine ⟨kept.trans recorded,fun before => clean ?_⟩
    rcases verdict with same | out
    · rwa [same]
    · exact .inl out

variable (inp r) in
private theorem goes_signals (signals : List Delivery) (turn : Nat) (added : List (Event (agent ctx.py))) :
    Goes ctx inp r { self := handle (W := agent ctx.py) signals r.self, turn, events := r.events ++ added } := by
  obtain ⟨kept,clean⟩ := handle_verdict ctx signals r.self
  refine ⟨List.prefix_append _ _,by rw [kept],fun honest => ?_⟩
  rcases honest with out | none_ | returned
  · exact (clean (.inl out)).imp_right .inl
  · exact (clean (.inr none_)).imp_right .inl
  · exact .inr (.inr (returned.grows (List.prefix_append _ _)))

variable (inp r) in
private theorem goes_awaited (c : AgentCall) (signals : List Delivery) (reply : Except Failure Json) (turn : Nat) :
    Goes ctx inp r (awaited r c signals reply turn) := by
  have goes := goes_signals inp r signals turn
    (.began c :: signals.map (Event.handled (W := agent ctx.py)) ++ [.replied c reply])
  rwa [← List.append_assoc] at goes

theorem goes_quiet : QuietRelation (Goes ctx inp) where
  refl := Goes.refl
  trans _ _ _ := Goes.trans
  note f r := ⟨List.prefix_refl _,List.prefix_refl _,id⟩
  record action_kind r := ⟨List.prefix_refl _,List.prefix_append _ _,id⟩
  activity c signals reply turn r := goes_awaited inp r (.body c) signals reply turn
  wait signals ended turn r := by
    have goes := goes_signals inp r signals turn
      (signals.map (Event.handled (W := agent ctx.py)) ++ [.waited ended])
    rwa [← List.append_assoc] at goes

variable {S : Signature} {H : Handler S (Run (agent ctx.py))} {ε α β : Type}

/-! ### Programs that return -/

variable (inp) in
/-- If the program returns, the run has gone there honestly and `Q` holds. A structure,
    so that no goal about a program is reduced to a run of it. -/
structure Leads (H : Handler S (Run (agent ctx.py))) (p : Prog S ε α) (r : Run (agent ctx.py))
    (Q : α → Run (agent ctx.py) → Prop) : Prop where
  triple : Triple H p r (fun a t => Goes ctx inp r t ∧ Q a t) fun _ _ => True

variable {Q : α → Run (agent ctx.py) → Prop}

theorem leads_pure {a : α} (holds : Q a r) :
    Leads inp H (pure a : Prog S ε α) r Q := ⟨triple_pure ⟨Goes.refl r,holds⟩⟩

theorem leads_mono {p : Prog S ε α} {P Q : α → Run (agent ctx.py) → Prop} (leads : Leads inp H p r P)
    (weaker : ∀ a t, Goes ctx inp r t → P a t → Q a t) : Leads inp H p r Q :=
  ⟨triple_mono leads.triple (fun a t ⟨goes,holds⟩ => ⟨goes,weaker a t goes holds⟩) fun _ _ _ => trivial⟩

theorem leads_bind {p : Prog S ε α} {f : α → Prog S ε β} {P : α → Run (agent ctx.py) → Prop}
    {Q : β → Run (agent ctx.py) → Prop} (first : Leads inp H p r P)
    (rest : ∀ a t, Goes ctx inp r t → P a t → Leads inp H (f a) t Q) : Leads inp H (p >>= f) r Q := by
  refine ⟨triple_bind first.triple fun a t ⟨goes,holds⟩ => ?_⟩
  exact triple_mono (rest a t goes holds).triple (fun _ _ ⟨later,done⟩ => ⟨goes.trans later,done⟩) fun _ _ _ => trivial

/-- A program that only raises returns nowhere. -/
theorem leads_raise {e : ε} : Leads inp H (.raise e : Prog S ε α) r Q :=
  ⟨triple_raise trivial⟩

theorem leads_then_raise {p : Prog S ε α} {e : ε} {Q : β → Run (agent ctx.py) → Prop} :
    Leads inp H (p >>= fun _ => (.raise e : Prog S ε β)) r Q :=
  ⟨triple_bind (triple_trivial H p r) fun _ _ _ => triple_raise trivial⟩

variable (env : Environment (agent ctx.py))

theorem leads_any (p : Quiet ε α) : Leads inp (quietHandler env) p r fun _ _ => True := by
  have goes := (@goes_quiet ctx inp).quiet env p r
  exact ⟨triple_mono (triple_final goes) (fun _ _ gone => ⟨gone,trivial⟩) fun _ _ _ => trivial⟩

variable {env}

theorem leads_quiet {p : Quiet Raised α} (leads : Leads inp (quietHandler env) p r Q) :
    Leads inp (bodyHandler env) (quiet p) r Q := ⟨triple_embed leads.triple⟩

theorem leads_body {p : Body α} (leads : Leads inp (bodyHandler env) p r Q) :
    Leads inp (spineHandler env) (body p) r Q := ⟨triple_embed leads.triple⟩

theorem leads_quiet_any (p : Quiet Raised α) : Leads inp (bodyHandler env) (quiet p) r fun _ _ => True :=
  leads_quiet (leads_any env p)

theorem leads_await_reply (c : Call) :
    Leads inp (quietHandler env) (await c : Quiet ε _) r fun reply t =>
      .replied (.body c) reply ∈ t.events ∧ ∃ turn, (env.activity turn (.body c)).2 = reply :=
  ⟨triple_command ⟨goes_quiet.activity c _ _ _ r,
    by simp [quietHandler,Embedding.handler,quietEmbedding,QuietStep.act],r.turn,rfl⟩⟩

theorem leads_await (c : Call) :
    Leads inp (quietHandler env) (await c : Quiet ε _) r fun reply t => .replied (.body c) reply ∈ t.events :=
  leads_mono (leads_await_reply c) fun _ _ _ replied => replied.1

theorem leads_record (action_kind : String) :
    Leads inp (quietHandler env) (record_partial_failure action_kind : Quiet ε _) r fun _ t =>
      action_kind ∈ t.self.output_actions_partial_kinds :=
  ⟨triple_command ⟨goes_quiet.record action_kind r,
    by simp [quietHandler,Embedding.handler,quietEmbedding,QuietStep.act]⟩⟩

theorem leads_conclude {f : Verdict → Verdict}
    (excused : (f r.self.verdict).out_of_scope = true ∨ FailureReturned ctx inp r.events) :
    Leads inp (bodyHandler env) (conclude f) r fun _ _ => True :=
  ⟨triple_command ⟨⟨List.prefix_refl _,List.prefix_refl _,fun _ => excused.imp_right .inr⟩,trivial⟩⟩

theorem leads_attempted (outcome : Except Failure α) :
    Leads inp (bodyHandler env) (attempted outcome) r fun a _ => outcome = .ok a := by
  cases outcome with
  | ok a => exact leads_pure rfl
  | error failure => exact leads_raise

theorem leads_critical_reply (reason : String) (c : Call) :
    Leads inp (bodyHandler env) (critical reason c) r fun value t =>
      .replied (.body c) (.ok value) ∈ t.events ∧ ∃ turn, (env.activity turn (.body c)).2 = .ok value := by
  refine leads_bind (leads_quiet (leads_await_reply c)) fun reply t _ replied => ?_
  cases reply with
  | ok value => exact leads_pure replied
  | error failure => exact leads_then_raise

theorem leads_critical (reason : String) (c : Call) :
    Leads inp (bodyHandler env) (critical reason c) r fun value t => .replied (.body c) (.ok value) ∈ t.events :=
  leads_mono (leads_critical_reply reason c) fun _ _ _ replied => replied.1

theorem leads_llm_critical (reason activity_name : String) (c : Call) (input_tokens : Nat) :
    Leads inp (bodyHandler env) (llm_critical ctx inp reason activity_name c input_tokens) r fun value t =>
      .replied (.body c) (.ok value) ∈ t.events :=
  leads_bind (leads_quiet_any _) fun _ _ _ _ => leads_critical reason c

/-! ### Output actions -/

private theorem leads_apply_critical (actions : List OutputAction) (result : ApplyResult) :
    Leads inp (bodyHandler env) (apply_critical ctx inp actions result) r fun _ _ => True := by
  induction actions generalizing r result with
  | nil => exact leads_pure trivial
  | cons action rest ih =>
    refine leads_bind (leads_quiet_any _) fun failed t _ _ => ?_
    cases failed with
    | none => exact ih _
    | some reason => exact leads_bind (leads_quiet_any _) fun _ _ _ _ => leads_then_raise

theorem leads_output_actions :
    Leads inp (bodyHandler env) (maybe_execute_llm_output_actions ctx inp) r fun _ _ => True := by
  unfold maybe_execute_llm_output_actions
  split
  · exact leads_pure trivial
  · refine leads_bind (leads_quiet_any _) fun cap_corrected _ _ _ => ?_
    refine leads_bind (leads_apply_critical _ _) fun result _ _ _ => ?_
    refine leads_bind (leads_quiet_any _) fun result _ _ _ => ?_
    exact leads_quiet_any _

end

/-! ### What a workflow type is for -/

section
variable (ctx : Context) (inp : AgentRunnerWorkflowInput) (events : List (Event (agent ctx.py)))

def Committed (branch_name : String) : Prop :=
  ∃ request value, .replied (.bitbucket_commit_via_git request) (.ok value) ∈ events ∧
    request.branch_name = branch_name ∧ request.files ≠ []

def TestsPassed : Prop :=
  ∃ id input reply, .replied (.body (.ExecutionRunWorkflow id input)) reply ∈ events ∧
    (child_status reply).asStr = some "passed"

def PullRequestOpened (branch_name : String) : Prop :=
  ∃ title description value, .replied (.body (.create_pull_request pr_tool (orEmpty inp.target_repo) branch_name "main" title
    description inp.department_id)) (.ok value) ∈ events

def ReviewPosted : Prop :=
  ∃ text value, .replied (.body (.bitbucket_add_pr_comment (orEmpty inp.target_repo) (extract_pr_id inp) text
    inp.department_id)) (.ok value) ∈ events

def PageCreated : Prop :=
  ∃ title text value, .replied (.body (.confluence_create_page (orEmpty inp.analysis.target_space) title text
    inp.department_id)) (.ok value) ∈ events

def PageUpdated : Prop :=
  ∃ section_path text value, .replied (.body (.confluence_update_page (orEmpty inp.analysis.target_page_id) section_path
    text inp.department_id)) (.ok value) ∈ events

/-- The comment that sums up at least one source, with a link to the rest. -/
def ResearchPosted : Prop :=
  ∃ (found : List (String × ResearchSource)) (link : String) (value : Json), found ≠ [] ∧
    .replied (.body (.jira_add_comment inp.issue_key ((format_research_summary_jira_comment
      (PyText.strip ("\n\n".intercalate (found.map Prod.fst))) (found.map Prod.snd) 500 5).1 ++ link)
      inp.department_id)) (.ok value) ∈ events

def SubtaskDone (child_key : String) : Prop :=
  ∃ id output, .replied (.body (.AutomationWorkflow id (build_subtask_child_input inp child_key))) (.ok output) ∈ events ∧
    ["denied","failed","out_of_scope"].contains (extract_child_decision ctx.py output) = false

def SubtasksDone : Prop :=
  ∃ children, .replied (.body (.jira_list_epic_children inp.issue_key inp.department_id)) (.ok children) ∈ events ∧
    normalise_epic_children ctx.py children ≠ [] ∧
    ∀ child_key ∈ normalise_epic_children ctx.py children, SubtaskDone ctx inp events child_key

/-- The primary side effect of the workflow type. -/
def Performed : Prop :=
  match inp.workflow_type with
  | "code_change_with_test" => ∃ branch_name, Committed ctx events branch_name ∧ TestsPassed ctx events ∧
      PullRequestOpened ctx inp events branch_name
  | "code_change_commit_only" => ∃ branch_name, Committed ctx events branch_name
  | "pr_review" => ReviewPosted ctx inp events
  | "confluence_doc_create" => PageCreated ctx inp events
  | "confluence_doc_update" => PageUpdated ctx inp events
  | "research_publish_confluence" => PageCreated ctx inp events
  | "research_summary_jira" => ResearchPosted ctx inp events
  | "multi_step" => SubtasksDone ctx inp events
  | _ => False

/-! ### Where there is nothing to do -/

def isReply : Event (agent ctx.py) → Bool
  | .replied .. => true
  | _ => false

/-- How often the run has been suspended, where it has not waited. -/
def suspensions : Nat := events.countP (isReply ctx)

variable (env : Environment (agent ctx.py)) (recorded : List String)

/-- The review of the diff has no finding to post, where a run has none from before its
    one review; or the comment that failed is recorded. -/
def ReviewExcused : Prop :=
  (∃ diff issue_data review,
    .replied (.body (.bitbucket_fetch_pr_diff (orEmpty inp.target_repo) (extract_pr_id inp) inp.department_id)) (.ok diff) ∈
      events ∧
    .replied (.body (.llm_review_code [diff,issue_data])) (.ok review) ∈ events ∧
    dedup_findings ctx.py [] (extract_findings review) = .ok []) ∨
  "bitbucket_add_pr_comment" ∈ recorded

/-- The section is as it was written before, and the audit says so. -/
def SectionUnchanged : Prop :=
  ∃ row reply, .replied (.body (.audit_emit row)) reply ∈ events ∧
    row.get "action" = .str "confluence_section_dedup_skip"

/-- The page is a probe, was edited a moment ago by the clock after its reply, or has no
    section to update; or each section is unchanged or its failure is recorded. -/
def UpdateExcused : Prop :=
  ∃ before page_meta after, events = before ++ .replied (.body (.confluence_get_page
      (orEmpty inp.analysis.target_page_id) inp.department_id)) (.ok page_meta) :: after ∧
    (is_probe_page (page_meta.get "title") = true ∨
      should_skip_overwrite (page_meta.get "last_editor_account_id")
        (extract_confluence_datetime ctx.py page_meta "last_edit_at") (env.clock (suspensions ctx before + 1)) = .ok true ∨
      extract_confluence_sections ctx.py page_meta inp = [] ∨
      SectionUnchanged ctx events ∨
      ∃ part ∈ extract_confluence_sections ctx.py page_meta inp,
        "confluence_update_page:" ++ part.section_path ∈ recorded)

/-- The reasons not to act that a handler accepts. -/
def Excused : Prop :=
  match inp.workflow_type with
  | "code_change_with_test" => False
  | "code_change_commit_only" => False
  | "pr_review" => ReviewExcused ctx inp events recorded
  | "confluence_doc_create" => False
  | "confluence_doc_update" => UpdateExcused ctx inp events env recorded
  | "research_publish_confluence" => "research_no_sources" ∈ recorded
  | "research_summary_jira" => "research_no_sources" ∈ recorded
  | "multi_step" => False
  | _ => True

end

/-! ### The handlers -/

section
variable {ctx : Context} {inp : AgentRunnerWorkflowInput} {r t : Run (agent ctx.py)} {env : Environment (agent ctx.py)}

/-- A run that has not waited and remembers no finding. -/
structure Fresh (r : Run (agent ctx.py)) : Prop where
  turn : r.turn = suspensions ctx r.events
  findings : r.self.notes.previous_findings = []

private theorem suspensions_replied (events : List (Event (agent ctx.py))) (c : AgentCall) (reply : Except Failure Json) :
    suspensions ctx (events ++ [.replied c reply]) = suspensions ctx events + 1 := List.countP_append

private theorem suspensions_began (events : List (Event (agent ctx.py))) (c : AgentCall) (signals : List Delivery) :
    suspensions ctx (events ++ .began c :: signals.map (Event.handled (W := agent ctx.py))) = suspensions ctx events := by
  have none_replies : (.began c :: signals.map (Event.handled (W := agent ctx.py))).countP (isReply ctx) = 0 := by
    rw [List.countP_eq_zero]
    intro event member replies
    rcases List.mem_cons.mp member with rfl | handled
    · cases replies
    · obtain ⟨_,_,rfl⟩ := List.mem_map.mp handled
      cases replies
  rw [suspensions,List.countP_append,none_replies,Nat.add_zero,suspensions]

private theorem Fresh.awaited (fresh : Fresh r) (c : AgentCall) (signals : List Delivery) (reply : Except Failure Json) :
    Fresh (awaited r c signals reply (r.turn + 1)) where
  turn := by
    change r.turn + 1 = suspensions ctx (r.events ++ .began c :: signals.map (Event.handled (W := agent ctx.py)) ++
      [.replied c reply])
    rw [suspensions_replied,suspensions_began,fresh.turn]
  findings := (congrArg Notes.previous_findings (handle_kept ctx.py signals r.self)).trans fresh.findings

private theorem leads_critical_fresh (fresh : Fresh r) (reason : String) (c : Call) :
    Leads inp (bodyHandler env) (critical reason c) r fun value t =>
      Fresh t ∧ ∃ before, t.events = before ++ [.replied (.body c) (.ok value)] := by
  have awaits : Leads inp (quietHandler env) (await c : Quiet Raised _) r fun reply t =>
      Fresh t ∧ ∃ before, t.events = before ++ [.replied (.body c) reply] :=
    ⟨triple_command ⟨goes_quiet.activity c _ _ _ r,fresh.awaited (.body c) _ _,_,rfl⟩⟩
  refine leads_bind (leads_quiet awaits) fun reply _ _ replied => ?_
  cases reply with
  | ok value => exact leads_pure replied
  | error failure => exact leads_then_raise

private theorem leads_llm_critical_fresh (fresh : Fresh r) (reason activity_name : String) (c : Call) (input_tokens : Nat) :
    Leads inp (bodyHandler env) (llm_critical ctx inp reason activity_name c input_tokens) r fun value t =>
      Fresh t ∧ ∃ before, t.events = before ++ [.replied (.body c) (.ok value)] := by
  have capped : Leads inp (quietHandler env) (under_token_cap ctx inp activity_name input_tokens) r fun _ t => Fresh t := by
    unfold under_token_cap
    split
    · exact leads_then_raise
    · exact leads_pure fresh
  exact leads_bind (leads_quiet capped) fun _ _ _ fresh => leads_critical_fresh fresh reason c

private theorem last_mem {before events : List (Event (agent ctx.py))} {last : Event (agent ctx.py)}
    (ends : events = before ++ [last]) : last ∈ events := by
  rw [ends]
  exact List.mem_concat_self

private theorem leads_look : Leads inp (bodyHandler env) (quiet look) r fun self t => self = r.self ∧ r = t :=
  leads_quiet ⟨triple_command ⟨Goes.refl r,rfl,rfl⟩⟩

private theorem leads_now : Leads inp (bodyHandler env) (quiet now) r fun at_ _ => at_ = env.clock r.turn :=
  leads_quiet ⟨triple_command ⟨Goes.refl r,rfl⟩⟩

private theorem Goes.committed {branch_name : String} (goes : Goes ctx inp r t)
    (committed : Committed ctx r.events branch_name) : Committed ctx t.events branch_name := by
  obtain ⟨request,value,replied,named,files⟩ := committed
  exact ⟨request,value,goes.mem replied,named,files⟩

/-! Code changes. -/

/-- The result is one that the model gave, with its files. -/
def Generated (ctx : Context) (inp : AgentRunnerWorkflowInput) (events : List (Event (agent ctx.py))) (code_output : Json)
    (commit_files : List CommitFile) : Prop :=
  (∃ prompt, .replied (.body (.opencode_generate_code inp.issue_key prompt "/tmp/workspace")) (.ok code_output) ∈ events) ∧
    commit_files = extract_commit_files ctx.py code_output

theorem leads_generate_files :
    Leads inp (bodyHandler env) (generate_files ctx inp) r fun made t =>
      Generated ctx inp t.events made.1 made.2 ∧ (made.2 = [] → NoFiles ctx inp t.events) := by
  refine leads_bind (leads_llm_critical _ _ _ _) fun code_output _ _ generated => ?_
  by_cases files : (extract_commit_files ctx.py code_output).isEmpty = false
  · rw [if_pos files]
    refine leads_pure ⟨⟨⟨_,generated⟩,rfl⟩,fun empty => ?_⟩
    change extract_commit_files ctx.py code_output = [] at empty
    rw [empty] at files
    cases files
  · rw [if_neg files]
    refine leads_bind (leads_llm_critical _ _ _ _) fun retry_output _ retrying replied => leads_pure ⟨?_,fun empty => ?_⟩
    · -- without files in the retry the first result stays, and it has none either
      by_cases empty : (extract_commit_files ctx.py retry_output).isEmpty = true
      · have first : extract_commit_files ctx.py code_output = [] := by simpa using files
        rw [if_pos empty,Generated,first]
        exact ⟨⟨_,retrying.mem generated⟩,List.isEmpty_iff.mp empty⟩
      · rw [if_neg empty]
        exact ⟨⟨_,replied⟩,rfl⟩
    · exact ⟨retry_output,replied,empty⟩

theorem leads_prepare_change :
    Leads inp (bodyHandler env) (prepare_change ctx inp) r fun made t =>
      Generated ctx inp t.events made.2.1 made.2.2 ∧ (made.2.2 = [] → NoFiles ctx inp t.events) := by
  refine leads_bind (leads_critical _ _) fun _ _ _ _ => ?_
  have gate : ∀ {t}, Leads inp (bodyHandler env) (branch_gate ctx inp) t fun _ _ => True := by
    intro t
    unfold branch_gate
    split
    · exact leads_pure trivial
    · exact leads_bind (leads_conclude (.inl rfl)) fun _ _ _ _ => leads_then_raise
  refine leads_bind gate fun _ _ _ _ => ?_
  refine leads_bind (leads_quiet_any _) fun self _ _ _ => ?_
  refine leads_bind (leads_attempted _) fun branch_name _ _ _ => ?_
  exact leads_bind leads_generate_files fun made _ _ generated => leads_pure generated

private theorem leads_no_files (none_made : NoFiles ctx inp r.events) :
    Leads inp (bodyHandler env) (no_files inp) r fun _ _ => True :=
  leads_bind (leads_conclude (.inr (.inl none_made))) fun _ _ _ _ => leads_quiet_any _

theorem leads_scan (code_output : Json) (commit_files : List CommitFile) :
    Leads inp (bodyHandler env) (scan ctx code_output commit_files) r fun _ t =>
      ∃ scan_result turn,
        .replied (.body (.precommit_scanner (extract_code_diff_text ctx.py code_output commit_files))) (.ok scan_result) ∈
          t.events ∧
        (env.activity turn (.body (.precommit_scanner (extract_code_diff_text ctx.py code_output commit_files)))).2 =
          .ok scan_result ∧
        extract_precommit_decision ctx.py scan_result ≠ "block" := by
  refine leads_bind (leads_critical_reply _ _) fun scan_result _ _ replied => ?_
  obtain ⟨member,turn,reply⟩ := replied
  split
  · exact leads_then_raise
  · next passed => exact leads_pure ⟨scan_result,turn,member,reply,passed⟩

theorem leads_commit_request (branch_name : String) (commit_files : List CommitFile) :
    Leads inp (bodyHandler env) (commit_request ctx inp branch_name commit_files) r fun request _ =>
      request.branch_name = branch_name ∧ request.files = commit_files := by
  refine leads_bind (leads_quiet_any _) fun self _ _ _ => ?_
  split
  · exact leads_then_raise
  · exact leads_pure ⟨rfl,rfl⟩

private theorem leads_commit (request : CommitRequest) :
    Leads inp (spineHandler env) (commit request) r fun reply t =>
      .replied (.bitbucket_commit_via_git request) reply ∈ t.events :=
  ⟨triple_command ⟨goes_awaited inp r (.bitbucket_commit_via_git request) _ _ _,
    by simp [spineHandler,Embedding.handler,spineEmbedding,SpineStep.act]⟩⟩

private theorem leads_scan_and_commit (branch_name : String) (code_output : Json) {commit_files : List CommitFile}
    (files : commit_files ≠ []) :
    Leads inp (spineHandler env) (scan_and_commit ctx inp branch_name code_output commit_files) r fun _ t =>
      Committed ctx t.events branch_name := by
  refine leads_bind (leads_body (leads_scan _ _)) fun _ _ _ _ => ?_
  refine leads_bind (leads_body (leads_commit_request _ _)) fun request _ _ made => ?_
  refine leads_bind (leads_commit request) fun reply _ _ replied => ?_
  cases reply with
  | ok commit_info => exact leads_pure ⟨request,commit_info,replied,made.1,by rw [made.2]; exact files⟩
  | error failure => exact leads_body leads_then_raise

private theorem leads_execution_child (commit_hash : String) :
    Leads inp (quietHandler env) (run_execution_child ctx inp commit_hash) r fun passed t =>
      if passed then TestsPassed ctx t.events else TestsFailed ctx t.events := by
  refine leads_bind (leads_any env _) fun self _ _ _ => ?_
  refine leads_bind (leads_await _) fun reply _ _ replied => ?_
  refine leads_bind (leads_any env _) fun _ _ goes _ => leads_pure ?_
  by_cases passed : (child_status reply).asStr = some "passed"
  · rw [if_pos (decide_eq_true passed)]
    exact ⟨_,_,reply,goes.mem replied,passed⟩
  · rw [if_neg (by simpa using passed)]
    exact ⟨_,_,reply,goes.mem replied,passed⟩

private theorem leads_open_pull_request (branch_name : String) :
    Leads inp (bodyHandler env) (open_pull_request ctx inp branch_name) r fun _ t =>
      PullRequestOpened ctx inp t.events branch_name := by
  refine leads_bind (leads_critical _ _) fun pr_info opened _ replied => ?_
  refine leads_mono (Q := fun _ t => PullRequestOpened ctx inp t.events branch_name) (P := fun _ _ => True) ?_
    fun _ t goes _ => ⟨_,_,pr_info,goes.mem replied⟩
  refine leads_bind (leads_attempted _) fun new_pr_id _ _ _ => ?_
  refine leads_bind (leads_quiet_any _) fun _ _ _ _ => ?_
  refine leads_bind (leads_quiet_any _) fun _ _ _ _ => ?_
  refine leads_bind (leads_quiet_any _) fun _ _ _ _ => ?_
  exact leads_output_actions

private theorem leads_after_commit_tested (branch_name commit_hash : String) :
    Leads inp (bodyHandler env) (after_commit ctx inp true branch_name commit_hash) r fun _ t =>
      FailureReturned ctx inp t.events ∨
        TestsPassed ctx t.events ∧ PullRequestOpened ctx inp t.events branch_name := by
  refine leads_bind (leads_quiet_any _) fun _ _ _ _ => ?_
  rw [if_pos rfl]
  refine leads_bind (leads_quiet (leads_execution_child commit_hash)) fun passed tested _ outcome => ?_
  cases passed with
  | true =>
    obtain ⟨id,input,reply,replied,passed⟩ := outcome
    exact leads_mono (leads_open_pull_request branch_name) fun _ t goes opened =>
      .inr ⟨⟨id,input,reply,goes.mem replied,passed⟩,opened⟩
  | false =>
    have returned : FailureReturned ctx inp tested.events := .inr (.inl outcome)
    refine leads_bind (leads_quiet_any _) fun _ commented goes _ => ?_
    refine leads_mono (leads_conclude (.inr (returned.grows goes.events))) fun _ t later _ => ?_
    exact .inl ((returned.grows goes.events).grows later.events)

private theorem leads_after_commit (branch_name commit_hash : String) :
    Leads inp (bodyHandler env) (after_commit ctx inp false branch_name commit_hash) r fun _ _ => True := by
  refine leads_bind (leads_quiet_any _) fun _ _ _ _ => ?_
  rw [if_neg Bool.false_ne_true]
  exact leads_bind (leads_quiet_any _) fun _ _ _ _ => leads_output_actions

private theorem leads_code_change (with_test : Bool) :
    Leads inp (spineHandler env) (handle_code_change_common ctx inp with_test) r fun _ t =>
      FailureReturned ctx inp t.events ∨ ∃ branch_name, Committed ctx t.events branch_name ∧
        (with_test = true → TestsPassed ctx t.events ∧ PullRequestOpened ctx inp t.events branch_name) := by
  refine leads_bind (leads_body leads_prepare_change) fun made _ _ files => ?_
  obtain ⟨branch_name,code_output,commit_files⟩ := made
  by_cases empty : commit_files = []
  · have none_made := files.2 empty
    subst empty
    refine leads_mono (leads_body (leads_no_files none_made)) fun _ t goes _ => ?_
    exact .inl (.inl (by obtain ⟨output,replied,empty⟩ := none_made; exact ⟨output,goes.mem replied,empty⟩))
  · have some_made : commit_files.isEmpty = false := by simpa using empty
    simp only [some_made,Bool.false_eq_true,if_false]
    refine leads_bind (leads_scan_and_commit branch_name code_output empty) fun commit_info _ _ committed => ?_
    cases with_test with
    | true =>
      refine leads_mono (leads_body (leads_after_commit_tested branch_name _)) fun _ t goes after => ?_
      exact after.imp_right fun done => ⟨branch_name,goes.committed committed,fun _ => done⟩
    | false =>
      refine leads_mono (leads_body (leads_after_commit branch_name _)) fun _ t goes _ => ?_
      exact .inr ⟨branch_name,goes.committed committed,fun tested => absurd tested Bool.false_ne_true⟩

/-! Reviews. -/

private theorem leads_post_findings (findings : List Json) :
    Leads inp (quietHandler env) (post_findings ctx inp (extract_pr_id inp) findings) r fun _ t =>
      findings = [] ∨ ReviewPosted ctx inp t.events ∨ "bitbucket_add_pr_comment" ∈ t.self.output_actions_partial_kinds := by
  cases findings with
  | nil => exact leads_pure (.inl rfl)
  | cons finding rest =>
    refine leads_bind (leads_await _) fun reply _ _ replied => ?_
    cases reply with
    | error failure =>
      refine leads_bind (leads_record "bitbucket_add_pr_comment") fun _ _ _ noted => ?_
      exact leads_mono (leads_any env _) fun _ t goes _ => .inr (.inr (goes.noted noted))
    | ok value => exact leads_mono (leads_any env _) fun _ t goes _ => .inr (.inl ⟨_,value,goes.mem replied⟩)

private theorem leads_pr_review (fresh : Fresh r) :
    Leads inp (bodyHandler env) (handle_pr_review ctx inp) r fun _ t =>
      ReviewPosted ctx inp t.events ∨ ReviewExcused ctx inp t.events t.self.output_actions_partial_kinds := by
  refine leads_bind (leads_critical_fresh fresh _ _) fun diff _ _ ⟨fresh,_,fetched⟩ => ?_
  refine leads_bind (leads_llm_critical_fresh fresh _ _ _ _) fun review answered reviewing ⟨fresh,_,reviewed⟩ => ?_
  refine leads_bind leads_look fun self _ _ ⟨seen,same⟩ => ?_
  subst seen same
  refine leads_bind (leads_attempted _) fun new_findings _ tried kept => ?_
  rw [fresh.findings] at kept
  refine leads_bind (leads_quiet (leads_post_findings new_findings)) fun _ _ posting posted => ?_
  refine leads_mono (leads_quiet_any _) fun _ t goes _ => ?_
  have later : Goes ctx inp answered t := tried.trans (posting.trans goes)
  rcases posted with rfl | ⟨text,value,replied⟩ | noted
  · exact .inr (.inl ⟨diff,_,review,later.mem (reviewing.mem (last_mem fetched)),later.mem (last_mem reviewed),kept⟩)
  · exact .inl ⟨text,value,goes.mem replied⟩
  · exact .inr (.inr (goes.noted noted))

/-! Pages. -/

private theorem leads_publish_page (title text announcement : String) :
    Leads inp (bodyHandler env) (publish_page ctx inp title text announcement) r fun _ t => PageCreated ctx inp t.events := by
  refine leads_bind (leads_critical _ _) fun page_info _ _ replied => ?_
  refine leads_mono (P := fun _ _ => True) ?_ fun _ t goes _ => ⟨title,text,page_info,goes.mem replied⟩
  refine leads_bind (leads_quiet_any _) fun _ _ _ _ => ?_
  exact leads_bind (leads_quiet_any _) fun _ _ _ _ => leads_output_actions

private theorem leads_page_title (today : String) :
    Leads inp (bodyHandler env) (page_title ctx inp today) r fun _ _ => True := by
  unfold page_title
  split
  · exact leads_pure trivial
  · exact leads_then_raise

private theorem leads_doc_create :
    Leads inp (bodyHandler env) (handle_confluence_doc_create ctx inp) r fun _ t => PageCreated ctx inp t.events := by
  refine leads_bind (leads_critical _ _) fun _ _ _ _ => ?_
  refine leads_bind (leads_quiet_any _) fun jira_issue_link _ _ _ => ?_
  refine leads_bind (leads_quiet_any _) fun at_ _ _ _ => ?_
  refine leads_bind (leads_page_title _) fun title _ _ _ => ?_
  dsimp only
  refine leads_bind (leads_llm_critical _ _ _ _) fun body_response _ _ _ => ?_
  exact leads_publish_page _ _ _

private theorem leads_audit (action : String) :
    Leads inp (quietHandler env) (emit_audit_action ctx inp action : Quiet Raised Unit) r fun _ t =>
      ∃ row reply, .replied (.body (.audit_emit row)) reply ∈ t.events ∧ row.get "action" = .str action := by
  refine leads_bind (leads_any env _) fun self _ _ _ => ?_
  refine leads_bind (leads_await _) fun reply _ _ replied => ?_
  exact leads_pure ⟨_,reply,replied,rfl⟩

private theorem leads_update_sections (link : Option String) (sections : List Section) :
    Leads inp (quietHandler env) (update_sections ctx inp (orEmpty inp.analysis.target_page_id) link sections) r fun _ t =>
      sections = [] ∨ PageUpdated ctx inp t.events ∨ SectionUnchanged ctx t.events ∨
        ∃ part ∈ sections, "confluence_update_page:" ++ part.section_path ∈ t.self.output_actions_partial_kinds := by
  cases sections with
  | nil => exact leads_pure (.inl rfl)
  | cons part rest =>
    refine leads_bind (leads_any env _) fun self _ _ _ => ?_
    dsimp only
    split
    · exact leads_raise
    · refine leads_bind (leads_audit _) fun _ _ _ audited => ?_
      obtain ⟨row,reply,replied,action⟩ := audited
      exact leads_mono (leads_any env _) fun _ t goes _ => .inr (.inr (.inl ⟨row,reply,goes.mem replied,action⟩))
    · refine leads_bind (leads_await _) fun reply _ _ replied => ?_
      cases reply with
      | error failure =>
        refine leads_bind (leads_record _) fun _ _ _ noted => ?_
        exact leads_mono (leads_any env _) fun _ t goes _ =>
          .inr (.inr (.inr ⟨part,List.mem_cons_self,goes.noted noted⟩))
      | ok value =>
        exact leads_mono (leads_any env _) fun _ t goes _ => .inr (.inl ⟨_,_,value,goes.mem replied⟩)

private theorem leads_update_page (fresh : Fresh r) {page_meta : Json} {before : List (Event (agent ctx.py))}
    (read : r.events = before ++ [.replied (.body (.confluence_get_page (orEmpty inp.analysis.target_page_id)
      inp.department_id)) (.ok page_meta)]) :
    Leads inp (bodyHandler env) (update_page ctx inp (orEmpty inp.analysis.target_page_id) page_meta) r fun _ t =>
      PageUpdated ctx inp t.events ∨ UpdateExcused ctx inp t.events env t.self.output_actions_partial_kinds := by
  have since : ∀ {t}, Goes ctx inp r t → ∃ after, t.events = before ++ .replied (.body (.confluence_get_page
      (orEmpty inp.analysis.target_page_id) inp.department_id)) (.ok page_meta) :: after := by
    intro t goes
    obtain ⟨after,grown⟩ := goes.events
    exact ⟨after,by rw [← grown,read,List.append_assoc,List.singleton_append]⟩
  unfold update_page
  split
  · next probe =>
    refine leads_mono (leads_bind (leads_quiet_any _) fun _ _ _ _ => leads_quiet_any _) fun _ t goes _ => ?_
    obtain ⟨after,still⟩ := since goes
    exact .inr ⟨before,page_meta,after,still,.inl probe⟩
  · refine leads_bind leads_now fun at_ _ clocked read_clock => ?_
    rw [fresh.turn,read,suspensions_replied] at read_clock
    refine leads_bind (leads_attempted _) fun protected_ _ checked outcome => ?_
    rw [read_clock] at outcome
    split
    · next recent =>
      refine leads_mono (leads_bind (leads_quiet_any _) fun _ _ _ _ => leads_quiet_any _) fun _ t goes _ => ?_
      obtain ⟨after,still⟩ := since (clocked.trans (checked.trans goes))
      exact .inr ⟨before,page_meta,after,still,.inr (.inl (by rw [outcome,recent]))⟩
    · split
      · next none_found =>
        refine leads_mono (leads_quiet_any _) fun _ t goes _ => ?_
        obtain ⟨after,still⟩ := since (clocked.trans (checked.trans goes))
        exact .inr ⟨before,page_meta,after,still,.inr (.inr (.inl (List.isEmpty_iff.mp none_found)))⟩
      · next some_found =>
        refine leads_bind (leads_quiet_any _) fun link _ linked _ => ?_
        refine leads_bind (leads_quiet (leads_update_sections link _)) fun _ _ updating outcome => ?_
        refine leads_mono (leads_bind (leads_quiet_any _) fun _ _ _ _ => leads_output_actions) fun _ t goes _ => ?_
        obtain ⟨after,still⟩ := since (clocked.trans (checked.trans (linked.trans (updating.trans goes))))
        rcases outcome with empty | ⟨section_path,text,value,replied⟩ | ⟨row,reply,replied,action⟩ | ⟨part,member,noted⟩
        · exact absurd (List.isEmpty_iff.mpr empty) some_found
        · exact .inl ⟨section_path,text,value,goes.mem replied⟩
        · exact .inr ⟨before,page_meta,after,still,.inr (.inr (.inr (.inl ⟨row,reply,goes.mem replied,action⟩)))⟩
        · exact .inr ⟨before,page_meta,after,still,.inr (.inr (.inr (.inr ⟨part,member,goes.noted noted⟩)))⟩

private theorem leads_doc_update (fresh : Fresh r) :
    Leads inp (bodyHandler env) (handle_confluence_doc_update ctx inp) r fun _ t =>
      PageUpdated ctx inp t.events ∨ UpdateExcused ctx inp t.events env t.self.output_actions_partial_kinds := by
  refine leads_bind (leads_critical_fresh fresh _ _) fun _ _ _ ⟨fresh,_⟩ => ?_
  dsimp only
  split
  · exact leads_then_raise
  · exact leads_bind (leads_critical_fresh fresh _ _) fun page_meta _ _ ⟨fresh,_,read⟩ => leads_update_page fresh read

/-! Research. -/

private theorem leads_search_sources :
    Leads inp (bodyHandler env) (search_sources ctx inp) r fun _ _ => True :=
  leads_bind (leads_critical _ _) fun _ _ _ _ => leads_quiet_any _

private theorem leads_no_sources :
    Leads inp (quietHandler env) (no_sources inp) r fun _ t => "research_no_sources" ∈ t.self.output_actions_partial_kinds := by
  refine leads_bind (leads_record _) fun _ _ _ noted => ?_
  exact leads_mono (leads_any env _) fun _ t goes _ => goes.noted noted

private theorem leads_research_publish :
    Leads inp (bodyHandler env) (handle_research_publish_confluence ctx inp) r fun _ t =>
      PageCreated ctx inp t.events ∨ "research_no_sources" ∈ t.self.output_actions_partial_kinds := by
  refine leads_bind (leads_critical _ _) fun _ _ _ _ => ?_
  refine leads_bind (leads_quiet_any _) fun jira_issue_link _ _ _ => ?_
  refine leads_bind leads_search_sources fun found _ _ _ => ?_
  split
  · exact leads_mono (leads_quiet leads_no_sources) fun _ _ _ noted => .inr noted
  · dsimp only
    refine leads_bind (leads_quiet_any _) fun at_ _ _ _ => ?_
    refine leads_bind (leads_page_title _) fun title _ _ _ => ?_
    exact leads_mono (leads_publish_page _ _ _) fun _ _ _ created => .inl created

private theorem leads_summary_comment (found : List (String × ResearchSource)) :
    Leads inp (quietHandler env) (summary_comment ctx inp found) r fun text _ =>
      ∃ link, text = (format_research_summary_jira_comment (PyText.strip ("\n\n".intercalate (found.map Prod.fst)))
        (found.map Prod.snd) 500 5).1 ++ link := by
  unfold summary_comment
  dsimp only
  split
  · refine leads_bind (leads_any env _) fun stored_uri _ _ _ => leads_pure ?_
    split
    · exact ⟨"",(String.append_empty).symm⟩
    · exact ⟨"\n\n Tam içerik: " ++ stored_uri,by rw [String.append_assoc]⟩
  · exact leads_pure ⟨"",(String.append_empty).symm⟩

private theorem leads_research_summary :
    Leads inp (bodyHandler env) (handle_research_summary_jira ctx inp) r fun _ t =>
      ResearchPosted ctx inp t.events ∨ "research_no_sources" ∈ t.self.output_actions_partial_kinds := by
  refine leads_bind (leads_critical _ _) fun _ _ _ _ => ?_
  refine leads_bind leads_search_sources fun found _ _ _ => ?_
  split
  · exact leads_mono (leads_quiet leads_no_sources) fun _ _ _ noted => .inr noted
  · next some_found =>
    refine leads_bind (leads_quiet (leads_summary_comment found)) fun comment_text _ _ made => ?_
    obtain ⟨link,rfl⟩ := made
    refine leads_bind (leads_critical _ _) fun value _ _ replied => ?_
    refine leads_mono leads_output_actions fun _ t goes _ => .inl ⟨found,link,value,?_,goes.mem replied⟩
    rintro rfl
    exact some_found rfl

/-! Epics. -/

private theorem Goes.subtask {child_key : String} (goes : Goes ctx inp r t) (done : SubtaskDone ctx inp r.events child_key) :
    SubtaskDone ctx inp t.events child_key := by
  obtain ⟨id,output,replied,decision⟩ := done
  exact ⟨id,output,goes.mem replied,decision⟩

private theorem leads_stop_epic (child_key text : String) {Q : Unit → Run (agent ctx.py) → Prop} :
    Leads inp (bodyHandler env) (stop_epic inp child_key text) r Q :=
  ⟨triple_bind (triple_trivial _ _ _) fun _ _ _ => triple_bind (triple_trivial _ _ _) fun _ _ _ => triple_raise trivial⟩

private theorem leads_run_subtasks (total : Nat) (children : List (String × Nat)) :
    Leads inp (bodyHandler env) (run_subtasks ctx inp total children) r fun _ t =>
      ∀ child ∈ children, SubtaskDone ctx inp t.events child.1 := by
  induction children generalizing r with
  | nil => exact leads_pure fun _ absurd_member => absurd absurd_member List.not_mem_nil
  | cons child rest ih =>
    obtain ⟨child_key,index⟩ := child
    refine leads_bind (leads_quiet (leads_await _)) fun reply _ _ replied => ?_
    cases reply with
    | error failure => exact leads_stop_epic _ _
    | ok child_output =>
      dsimp only
      split
      · exact leads_stop_epic _ _
      · next decided =>
        refine leads_bind (leads_quiet_any _) fun _ _ commented _ => ?_
        refine leads_mono ih fun _ t goes done child member => ?_
        rcases List.mem_cons.mp member with rfl | later
        · exact ⟨_,child_output,goes.mem (commented.mem replied),by simpa using decided⟩
        · exact done child later

private theorem leads_multi_step :
    Leads inp (bodyHandler env) (handle_multi_step ctx inp) r fun _ t =>
      FailureReturned ctx inp t.events ∨ SubtasksDone ctx inp t.events := by
  refine leads_bind (leads_critical _ _) fun _ _ _ _ => ?_
  refine leads_bind (leads_critical _ _) fun children listed _ replied => ?_
  dsimp only
  split
  · next empty =>
    have returned : FailureReturned ctx inp listed.events := .inr (.inr ⟨children,replied,List.isEmpty_iff.mp empty⟩)
    refine leads_bind (leads_conclude (.inr returned)) fun _ _ concluded _ => ?_
    refine leads_mono (leads_quiet_any _) fun _ t goes _ => ?_
    exact .inl ((returned.grows concluded.events).grows goes.events)
  · next some_found =>
    refine leads_bind (leads_run_subtasks _ _) fun _ _ ran done => ?_
    refine leads_bind (leads_quiet_any _) fun _ _ commented _ => ?_
    refine leads_mono leads_output_actions fun _ t goes _ => .inr ⟨children,?_,?_,fun child_key member => ?_⟩
    · exact goes.mem (commented.mem (ran.mem replied))
    · exact fun empty => some_found (List.isEmpty_iff.mpr empty)
    · obtain ⟨index,_,found⟩ := List.mem_iff_getElem.mp member
      have numbered : (child_key,index) ∈ (normalise_epic_children ctx.py children).zipIdx := by
        rw [List.mem_zipIdx_iff_getElem?,List.getElem?_eq_some_iff]
        exact ⟨_,found⟩
      exact goes.subtask (commented.subtask (done _ numbered))

/-! The other types. -/

private theorem leads_wait_for_signal :
    Leads inp (bodyHandler env) (wait_for_signal ctx inp) r fun _ _ => True := by
  refine leads_bind (leads_quiet_any _) fun _ _ _ _ => ?_
  refine leads_bind (leads_quiet_any _) fun _ _ _ _ => ?_
  refine leads_bind (leads_quiet_any _) fun woken _ _ _ => ?_
  split
  · refine leads_bind (leads_quiet_any _) fun _ _ _ _ => ?_
    refine leads_bind (leads_quiet_any _) fun _ _ _ _ => ?_
    refine leads_bind (leads_quiet_any _) fun _ _ _ _ => ?_
    refine leads_bind (leads_quiet_any _) fun self _ _ _ => ?_
    split
    · exact leads_raise
    · split
      · exact leads_raise
      · exact leads_pure trivial
  · exact leads_conclude (.inl rfl)

variable (inp env) in
/-- A body that returns failed for good, or did what it is for, or has an excuse. -/
theorem leads_dispatch (fresh : Fresh r) :
    Leads inp (spineHandler env) (dispatch_workflow_type ctx inp) r fun _ t =>
      FailureReturned ctx inp t.events ∨ Performed ctx inp t.events ∨
        Excused ctx inp t.events env t.self.output_actions_partial_kinds := by
  unfold dispatch_workflow_type
  split
  · next type =>
    refine leads_mono (leads_code_change true) fun _ t _ done => done.imp_right ?_
    rintro ⟨branch_name,committed,tested⟩
    simp only [Performed,type]
    exact .inl ⟨branch_name,committed,tested rfl⟩
  · next type =>
    refine leads_mono (leads_code_change false) fun _ t _ done => done.imp_right ?_
    rintro ⟨branch_name,committed,_⟩
    simp only [Performed,type]
    exact .inl ⟨branch_name,committed⟩
  · next type =>
    refine leads_mono (leads_body (leads_pr_review fresh)) fun _ t _ done => .inr ?_
    simpa only [Performed,Excused,type] using done
  · next type =>
    refine leads_mono (leads_body leads_doc_create) fun _ t _ done => .inr (.inl ?_)
    simpa only [Performed,type] using done
  · next type =>
    refine leads_mono (leads_body (leads_doc_update fresh)) fun _ t _ done => .inr ?_
    simpa only [Performed,Excused,type] using done
  · next type =>
    refine leads_mono (leads_body leads_research_publish) fun _ t _ done => .inr ?_
    simpa only [Performed,Excused,type] using done
  · next type =>
    refine leads_mono (leads_body leads_research_summary) fun _ t _ done => .inr ?_
    simpa only [Performed,Excused,type] using done
  · next type =>
    refine leads_mono (leads_body leads_multi_step) fun _ t _ done => done.imp_right ?_
    intro performed
    simp only [Performed,type]
    exact .inl performed
  · refine leads_mono (leads_body leads_wait_for_signal) fun _ t _ done => .inr (.inr ?_)
    unfold Excused
    split <;> trivial

end

/-! ### The status of a run -/

section
variable {ctx : Context} {inp : AgentRunnerWorkflowInput} {env : Environment (agent ctx.py)} {pre : List Delivery}

private theorem completed_inv {self : RunnerState} {ended : Except String (Option Raised)}
    (completed : statusAfter self ended = .completed ∨ statusAfter self ended = .completed_with_partial_failure) :
    ended = .ok none ∧ self.cancel.cancel_requested = false ∧ self.verdict.out_of_scope = false := by
  match ended with
  | .error reason => simp [statusAfter] at completed
  | .ok (some raised) => cases raised <;> simp [statusAfter] at completed
  | .ok none =>
    cases requested : self.cancel.cancel_requested with
    | true => simp [statusAfter,statusOf,requested] at completed
    | false =>
      cases out : self.verdict.out_of_scope with
      | true => simp [statusAfter,statusOf,requested,out] at completed
      | false => exact ⟨rfl,rfl,rfl⟩

variable (inp env) in
private theorem after_return_output {r : Run (agent ctx.py)} (undisturbed : r.self.cancel.cancel_requested = false)
    (inside : r.self.verdict.out_of_scope = false) :
    ∃ output, exec (suspend env) (after_return ctx inp) r = (.ok output,r) ∧
      output.failure_reason = r.self.verdict.failure_reason ∧
      output.partial_failure_actions = r.self.output_actions_partial_kinds := by
  simp only [after_return,act,command,exec_bind,exec_call,exec_ret,suspend_look,undisturbed,inside,Bool.false_eq_true,
    if_false]
  split
  · exact ⟨_,rfl,rfl,rfl⟩
  · exact ⟨_,rfl,rfl,rfl⟩

private theorem start_honest : Honest ctx inp (start ctx pre) :=
  ((handle_verdict ctx pre .init).2 (.inr rfl)).imp_right .inl

private theorem admitted_fresh {reason : Option String} {r : Run (agent ctx.py)}
    (admitted : exec (suspend env) (admit_iteration ctx inp) (start ctx pre) = (.ok reason,r)) : Fresh r := by
  have none_yet : (start ctx pre).self.notes.previous_findings = [] :=
    congrArg Notes.previous_findings (handle_kept ctx.py pre .init)
  simp only [admit_iteration,act,command,exec_bind,exec_call,exec_ret,suspend_modify,suspend_look] at admitted
  split at admitted
  · cases admitted
    exact ⟨rfl,none_yet⟩
  · cases admitted
    exact ⟨rfl,none_yet⟩

end

/-- A run that says completed, with or without partial failures, has no failure
    reason and did what its workflow type is for or has an excuse, unless a handler
    returned with a failure. -/
def Truthful (ctx : Context) (inp : AgentRunnerWorkflowInput) (env : Environment (agent ctx.py)) (pre : List Delivery) :
    Prop :=
  ∀ output, (finished ctx inp env pre).1 = .ok output →
    output.status = .completed ∨ output.status = .completed_with_partial_failure →
      FailureReturned ctx inp (finished ctx inp env pre).2.events ∨
        output.failure_reason = none ∧
          (Performed ctx inp (finished ctx inp env pre).2.events ∨
            Excused ctx inp (finished ctx inp env pre).2.events env output.partial_failure_actions)

theorem status_truthful (ctx : Context) (inp : AgentRunnerWorkflowInput) (env : Environment (agent ctx.py))
    (pre : List Delivery) : Truthful ctx inp env pre := by
  intro output result completed
  obtain ⟨ended,t,ran⟩ : ∃ ended t, bodyEnd ctx inp env pre = (.ok ended,t) := exec_returns _ _ _
  obtain ⟨_,same,status,_⟩ := finished_ends ctx inp env pre ran
  rw [result] at same
  cases same
  rw [status] at completed
  obtain ⟨rfl,undisturbed,inside⟩ := completed_inv completed
  obtain ⟨_,returned,reason,recorded⟩ := after_return_output inp env undisturbed inside
  have finish : finished ctx inp env pre = (.ok _,t) := (finished_eq ctx inp env pre ran).trans returned
  rw [finish] at result ⊢
  cases result
  rw [reason,recorded]
  obtain ⟨r,admitted,dispatched⟩ := bodyEnd_returned ran
  -- the verdict at the end of the body is honest, and the body did what its type says
  have kept : Goes ctx inp (start ctx pre) r := by
    have goes := admit_iteration_keeps inp env (@goes_quiet ctx inp) (start ctx pre)
    rwa [admitted] at goes
  have led := (leads_dispatch inp env (admitted_fresh admitted)).triple
  unfold Triple at led
  rw [dispatched] at led
  obtain ⟨goes,done⟩ := led
  rcases goes.honest (kept.honest start_honest) with out | clean | failure
  · rw [inside] at out
    cases out
  · exact done.imp_right fun performed => ⟨clean,performed⟩
  · exact .inl failure

/-! The page to update is a probe of the platform itself, which the handler leaves alone. -/

def probed : Environment (agent worker.py) := replying fun
  | .body (.confluence_get_page _ _) => ([],.ok (.obj [("title",.str "_AI_PROBE_1")]))
  | _ => ([],.ok .null)

def isUpdate : Event (agent worker.py) → Bool
  | .replied (.body (.confluence_update_page ..)) _ => true
  | _ => false

theorem probe_page_completed :
    ∃ output, (finished worker (issue "confluence_doc_update") probed []).1 = .ok output ∧ output.status = .completed ∧
      ¬Performed worker (issue "confluence_doc_update")
        (finished worker (issue "confluence_doc_update") probed []).2.events := by
  refine ⟨_,rfl,rfl,fun performed => ?_⟩
  have untouched : (finished worker (issue "confluence_doc_update") probed []).2.events.any isUpdate = false := by
    decide
  obtain ⟨_,_,_,replied⟩ : PageUpdated worker (issue "confluence_doc_update") _ := performed
  have touched := List.any_eq_true.mpr ⟨_,replied,(rfl : isUpdate _ = true)⟩
  rw [untouched] at touched
  cases touched

end Automation.AgentStatus
