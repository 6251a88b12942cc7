import Automation.AgentRunner
import Automation.Moves

/-!
What the handlers of the workflow types leave alone. The count of the iterations, the
debounce and the streak, the queue of audits and the two flags of the warning banner
are the ledger of the signals: no handler changes it, emits one of the queued audits or
posts the banner, but for the path that waits for a signal (`dispatch_framed`).
-/
namespace Automation.AgentFrame
open Automation.Effects Automation.Coroutine Automation.AgentMessages Automation.AgentState Automation.AgentExtract
open Automation.AgentHandlers Automation.AgentRunner Automation.Moves Automation.PyText

structure Ledger where
  iter_count : Int
  last_fix_trigger_at : Option Nat
  needs_info_streak : Nat
  pending_audit_actions : List String
  iter_warning_at_three : Bool
  iter_warning_pending : Bool

def ledger (notes : Notes) : Ledger where
  iter_count := notes.iteration_state.iter_count
  last_fix_trigger_at := notes.iteration_state.last_fix_trigger_at
  needs_info_streak := notes.iteration_state.needs_info_streak
  pending_audit_actions := notes.pending_audit_actions
  iter_warning_at_three := notes.iter_warning_at_three
  iter_warning_pending := notes.iter_warning_pending

/-- The audit actions that signal handlers queue. -/
def QUEUED_AUDIT_ACTIONS : List String := ["fix_debounce_dropped","fix_re_test_protected","explain_cache_hit"]

def audited : Call → Option String
  | .audit_emit row => (row.get "action").asStr
  | _ => none

def isBanner : Call → Bool
  | .jira_add_comment _ body _ => body = ITER_WARNING_BANNER_TEXT
  | _ => false

/-- A call that neither emits a queued audit nor posts the banner. -/
def Silent (c : Call) : Prop := isBanner c = false ∧ ∀ action ∈ QUEUED_AUDIT_ACTIONS, audited c ≠ some action

/-- Only the path that waits for a signal waits. -/
def quietFramed : QuietStep → Prop
  | .note f => ∀ notes, ledger (f notes) = ledger notes
  | .await c => Silent c
  | .wait _ => False
  | _ => True

/-- A verdict never goes back into scope. -/
def bodyFramed : BodyStep → Prop
  | .quiet step => quietFramed step
  | .conclude f => ∀ verdict, verdict.out_of_scope = true → (f verdict).out_of_scope = true

def spineFramed : SpineStep → Prop
  | .body step => bodyFramed step
  | .commit _ => True

/-! ### Texts that are not the banner -/

def Begins (first text : String) : Prop := first.toList <+: text.toList

theorem begins_self (text : String) : Begins text text := List.prefix_rfl

variable {first text : String}

theorem Begins.append (begins : Begins first text) (rest : String) : Begins first (text ++ rest) := by
  unfold Begins
  rw [String.toList_append]
  exact begins.trans (List.prefix_append _ _)

theorem Begins.intercalate (begins : Begins first text) (separator : String) (rest : List String) :
    Begins first (separator.intercalate (text :: rest)) := by
  cases rest with
  | nil =>
    rw [String.intercalate_singleton]
    exact begins
  | cons next rest =>
    rw [String.intercalate_cons_cons]
    exact (begins.append _).append _

theorem Begins.rstrip (begins : Begins first text) {last : Char}
    (solid : first.toList.getLast? = some last) (no_space : isSpace last = false) : Begins first (rstrip text) := by
  obtain ⟨others,shape⟩ := begins
  obtain ⟨before,split⟩ := List.getLast?_eq_some_iff.mp solid
  unfold Begins PyText.rstrip
  rw [String.toList_ofList,← shape,List.reverse_append,split]
  rw [List.reverse_append,List.reverse_singleton,List.dropWhile_append]
  split
  · rw [List.singleton_append,List.dropWhile_cons_of_neg (by simp [no_space])]
    simp
  · simp

instance (first text : String) : Decidable (Begins first text) := inferInstanceAs (Decidable (_ <+: _))

private theorem banner_begins : Begins " Bu g" ITER_WARNING_BANNER_TEXT := by
  unfold ITER_WARNING_BANNER_TEXT
  exact Begins.append (by decide +kernel) _

private theorem banner_ends : "r.".toList <:+ ITER_WARNING_BANNER_TEXT.toList := by
  unfold ITER_WARNING_BANNER_TEXT
  rw [String.toList_append]
  exact List.IsSuffix.trans (by decide) (List.suffix_append _ _)

/-- A text that begins otherwise than the banner. -/
def Differs (first : String) : Prop := first.toList.take 5 ≠ " Bu g".toList ∧ 5 ≤ first.toList.length

instance (first : String) : Decidable (Differs first) := inferInstanceAs (Decidable (_ ∧ _))

private theorem begins_other (begins : Begins first text) (differs : Differs first) :
    text ≠ ITER_WARNING_BANNER_TEXT := by
  rintro rfl
  refine differs.1 ?_
  have five : " Bu g".toList.length = 5 := by decide
  have head : " Bu g".toList <+: first.toList :=
    List.prefix_of_prefix_length_le banner_begins begins (five.trans_le differs.2)
  have taken := List.prefix_iff_eq_take.mp head
  rw [five] at taken
  exact taken.symm

private theorem ends_other {text last : String} (differs : ¬"r.".toList <:+ last.toList)
    (long : 2 ≤ last.toList.length) : text ++ last ≠ ITER_WARNING_BANNER_TEXT := by
  intro same
  refine differs (List.suffix_of_suffix_length_le banner_ends ?_ long)
  rw [← same,String.toList_append]
  exact List.suffix_append _ _

private theorem silent_comment {issue_key body department_id : String} (other : body ≠ ITER_WARNING_BANNER_TEXT) :
    Silent (.jira_add_comment issue_key body department_id) :=
  ⟨by simpa [isBanner] using other,by simp [audited]⟩

/-! ### Steps -/

section
variable {ctx : Context} {inp : AgentRunnerWorkflowInput} {α : Type}

private theorem framed_quiet {p : Quiet Raised α} (framed : Issues quietFramed p) :
    Issues bodyFramed (quiet p) := issues_embedded framed

private theorem framed_body {p : Body α} (framed : Issues bodyFramed p) : Issues spineFramed (body p) :=
  issues_embedded framed

private theorem framed_look {f : RunnerState → Body α} (rest : ∀ self, Issues bodyFramed (f self)) :
    Issues bodyFramed (quiet look >>= f) := ⟨trivial,rest⟩

private theorem framed_note {change : Notes → Notes} {f : Unit → Body α}
    (kept : ∀ notes, ledger (change notes) = ledger notes) (rest : Issues bodyFramed (f ())) :
    Issues bodyFramed (quiet (note change) >>= f) := ⟨kept,fun _ => rest⟩

private theorem framed_conclude {change : Verdict → Verdict} {f : Unit → Body α}
    (latched : ∀ verdict, verdict.out_of_scope = true → (change verdict).out_of_scope = true)
    (rest : Issues bodyFramed (f ())) : Issues bodyFramed (conclude change >>= f) := ⟨latched,fun _ => rest⟩

private theorem emit_audit_framed {ε : Type} {action : String} (other : action ∉ QUEUED_AUDIT_ACTIONS) :
    Issues quietFramed (emit_audit_action ctx inp action : Quiet ε Unit) := by
  refine ⟨trivial,fun self => ⟨⟨rfl,?_⟩,fun _ => trivial⟩⟩
  intro queued member emitted
  have same : action = queued := by simpa [audited,Json.get,List.lookup_cons,Json.asStr] using emitted
  exact other (same ▸ member)

private theorem post_comment_framed {ε : Type} {text : String} (other : text ≠ ITER_WARNING_BANNER_TEXT) :
    Issues quietFramed (post_jira_comment_best_effort inp text : Quiet ε Unit) := by
  refine ⟨silent_comment other,fun reply => ?_⟩
  cases reply with
  | ok value => trivial
  | error failure => exact ⟨trivial,fun _ => trivial⟩

private theorem fail_framed (reason : String) (raised : Raised) :
    Issues bodyFramed (fail reason raised : Body α) := ⟨fun _ => id,fun _ => trivial⟩

private theorem critical_framed {c : Call} (silent : Silent c) (reason : String) :
    Issues bodyFramed (critical reason c) := by
  refine ⟨silent,fun reply => ?_⟩
  cases reply with
  | ok value => trivial
  | error failure => exact fail_framed _ _

private theorem attempted_framed (result : Except Failure α) : Issues bodyFramed (attempted result) := by
  cases result with
  | ok value => trivial
  | error failure => trivial

private theorem under_token_cap_framed (activity_name : String) (input_tokens : Nat) :
    Issues quietFramed (under_token_cap ctx inp activity_name input_tokens) := by
  unfold under_token_cap
  split
  · exact issues_bind (emit_audit_framed (by decide)) fun _ => trivial
  · trivial

private theorem llm_critical_framed {c : Call} (silent : Silent c) (reason activity_name : String) (input_tokens : Nat) :
    Issues bodyFramed (llm_critical ctx inp reason activity_name c input_tokens) :=
  issues_bind (framed_quiet (under_token_cap_framed _ _)) fun _ => critical_framed silent _

private theorem silent_other {c : Call} (no_comment : isBanner c = false) (no_audit : audited c = none) : Silent c :=
  ⟨no_comment,by simp [no_audit]⟩

/-! ### Output actions -/

private theorem after_create_pr_framed (activity_result : Json) :
    Issues quietFramed (after_create_pr ctx inp activity_result) := by
  unfold after_create_pr
  cases extract_pr_id_from_info ctx.py activity_result with
  | error failure => trivial
  | ok pr_id =>
    refine ⟨fun _ => rfl,fun _ => ?_⟩
    simp only [Prog.bind]
    split
    · trivial
    · exact post_comment_framed (begins_other ((begins_self " Draft PR açıldı: ").append _) (by decide))

private theorem apply_single_framed (action : OutputAction) :
    Issues quietFramed (apply_single_output_action ctx inp action) := by
  unfold apply_single_output_action
  cases OUTPUT_ACTION_DISPATCH action.kind with
  | none => trivial
  | some activity_name =>
    refine ⟨trivial,fun self => ?_⟩
    simp only [Prog.bind]
    cases activity_args ctx inp action self.notes.last_commit_branch with
    | error reason => trivial
    | ok args =>
      refine ⟨silent_other rfl rfl,fun reply => ?_⟩
      cases reply with
      | error failure => trivial
      | ok activity_result =>
        simp only [Prog.bind]
        split
        · exact issues_bind (after_create_pr_framed _) fun _ => trivial
        · trivial

private theorem redirect_framed (action : OutputAction) (idx : Nat) :
    Issues quietFramed (redirect_oversized_payload ctx action idx) := by
  unfold redirect_oversized_payload
  split
  · trivial
  · simp only
    split
    · trivial
    · refine issues_bind ⟨silent_other rfl rfl,fun reply => ?_⟩ fun _ => trivial
      cases reply with
      | error failure => trivial
      | ok uri =>
        simp only [Prog.bind]
        split
        · trivial
        · trivial

private theorem redirect_all_framed (items : List (OutputAction × Nat)) :
    Issues quietFramed (redirect_all ctx items) := by
  induction items with
  | nil => trivial
  | cons item rest ih =>
    exact issues_bind (redirect_framed item.1 item.2) fun _ => issues_bind ih fun _ => trivial

private theorem merge_framed (result : ApplyResult) : Issues quietFramed (merge_output_actions_into_log result) :=
  ⟨fun _ => rfl,fun _ => trivial⟩

private theorem apply_critical_framed (actions : List OutputAction) (result : ApplyResult) :
    Issues bodyFramed (apply_critical ctx inp actions result) := by
  induction actions generalizing result with
  | nil => trivial
  | cons action rest ih =>
    refine issues_bind (framed_quiet (apply_single_framed action)) fun reason => ?_
    cases reason with
    | none => exact ih _
    | some reason => exact issues_bind (framed_quiet (merge_framed _)) fun _ => fail_framed _ _

private theorem apply_best_effort_framed (actions : List OutputAction) (result : ApplyResult) :
    Issues quietFramed (apply_best_effort ctx inp actions result) := by
  induction actions generalizing result with
  | nil => trivial
  | cons action rest ih =>
    refine issues_bind (apply_single_framed action) fun reason => ?_
    cases reason with
    | none => exact ih _
    | some reason => exact ⟨trivial,fun _ => ih _⟩

private theorem output_actions_framed : Issues bodyFramed (maybe_execute_llm_output_actions ctx inp) := by
  unfold maybe_execute_llm_output_actions
  split
  · trivial
  · refine issues_bind (framed_quiet (redirect_all_framed _)) fun _ => ?_
    refine issues_bind (apply_critical_framed _ _) fun _ => ?_
    exact issues_bind (framed_quiet (apply_best_effort_framed _ _)) fun _ => framed_quiet (merge_framed _)

/-! ### Code changes -/

private theorem set_assignee_framed : Issues bodyFramed (set_assignee inp) :=
  critical_framed (silent_other rfl rfl) _

private theorem generate_framed (prompt : String) : Issues bodyFramed (generate ctx inp prompt) :=
  llm_critical_framed (silent_other rfl rfl) _ _ _

private theorem generate_files_framed : Issues bodyFramed (generate_files ctx inp) := by
  refine issues_bind (generate_framed _) fun _ => ?_
  split
  · trivial
  · exact issues_bind (generate_framed _) fun _ => trivial

private theorem scan_framed (code_output : Json) (commit_files : List CommitFile) :
    Issues bodyFramed (scan ctx code_output commit_files) := by
  refine issues_bind (critical_framed (silent_other rfl rfl) _) fun _ => ?_
  split
  · exact fail_framed _ _
  · trivial

private theorem commit_request_framed (branch_name : String) (commit_files : List CommitFile) :
    Issues bodyFramed (commit_request ctx inp branch_name commit_files) := by
  refine framed_look fun self => ?_
  simp only
  generalize format_commit_message ctx.py _ _ _ _ = message
  cases message with
  | error failure => exact fail_framed _ _
  | ok message => trivial

private theorem scan_and_commit_framed (branch_name : String) (code_output : Json) (commit_files : List CommitFile) :
    Issues spineFramed (scan_and_commit ctx inp branch_name code_output commit_files) := by
  refine issues_bind (framed_body (scan_framed _ _)) fun _ => ?_
  refine issues_bind (framed_body (commit_request_framed _ _)) fun _ => ?_
  refine ⟨trivial,fun reply => ?_⟩
  cases reply with
  | ok commit_info => trivial
  | error failure => exact framed_body (fail_framed _ _)

private theorem record_test_result_ledger (diff_hash status : String) (notes : Notes) :
    ledger { notes with iteration_state := state_record_test_result diff_hash status notes.iteration_state } =
      ledger notes := by
  unfold state_record_test_result
  split
  · rfl
  · rfl

private theorem run_execution_child_framed (commit_hash : String) :
    Issues quietFramed (run_execution_child ctx inp commit_hash) :=
  ⟨trivial,fun _ => ⟨silent_other rfl rfl,fun _ => ⟨record_test_result_ledger _ _,fun _ => trivial⟩⟩⟩

private theorem supersede_framed (new_pr_id : Option Int) : Issues quietFramed (supersede ctx inp new_pr_id) := by
  refine ⟨trivial,fun self => ?_⟩
  simp only [Prog.bind]
  split
  · refine ⟨silent_other rfl rfl,fun reply => ?_⟩
    cases reply with
    | ok value => trivial
    | error failure => exact ⟨trivial,fun _ => trivial⟩
  · trivial

private theorem open_pull_request_framed (branch_name : String) :
    Issues bodyFramed (open_pull_request ctx inp branch_name) := by
  refine issues_bind (critical_framed (silent_other rfl rfl) _) fun _ => ?_
  refine issues_bind (attempted_framed _) fun _ => ?_
  refine issues_bind (framed_quiet (supersede_framed _)) fun _ => ?_
  refine framed_note (fun _ => rfl) ?_
  have text := (begins_self " Draft PR açıldı: ").append
  exact issues_bind (framed_quiet (post_comment_framed (begins_other (text _) (by decide))))
    fun _ => output_actions_framed

private theorem route_reason {branch_name wf_type reason : String}
    (denied : route_by_branch_pattern branch_name wf_type DEFAULT_BRANCH_PATTERN_RULES = some reason) :
    reason ∉ QUEUED_AUDIT_ACTIONS := by
  unfold route_by_branch_pattern at denied
  split at denied
  · next rule found =>
    have listed := List.mem_of_find?_eq_some found
    split at denied
    · cases denied
    · cases denied
      simp only [DEFAULT_BRANCH_PATTERN_RULES,List.mem_cons,List.not_mem_nil,or_false] at listed
      rcases listed with rfl | rfl
      · decide
      · decide
  · cases denied

private theorem branch_gate_framed : Issues bodyFramed (branch_gate ctx inp) := by
  unfold branch_gate
  cases denied : route_by_branch_pattern (orEmpty inp.target_branch) inp.workflow_type DEFAULT_BRANCH_PATTERN_RULES with
  | none => trivial
  | some reason =>
    refine framed_conclude (fun _ _ => rfl) ?_
    exact issues_bind (framed_quiet (emit_audit_framed (route_reason denied))) fun _ => trivial

private theorem announce_branch_framed (branch_name commit_hash : String) :
    Issues quietFramed (announce_branch inp branch_name commit_hash) := by
  refine ⟨trivial,fun _ => ⟨fun _ => rfl,fun _ => ?_⟩⟩
  have text := (((begins_self " Branch hazır: `").append branch_name).append "` - ").append
  exact post_comment_framed (begins_other (text _) (by decide))

private theorem after_commit_framed (with_test : Bool) (branch_name commit_hash : String) :
    Issues bodyFramed (after_commit ctx inp with_test branch_name commit_hash) := by
  refine framed_note (fun _ => rfl) ?_
  split
  · refine issues_bind (framed_quiet (run_execution_child_framed _)) fun passed => ?_
    split
    · exact open_pull_request_framed _
    · have text := ((begins_self " Testler başarısız: branch `").append branch_name).append
        "`. Detay için Temporal UI'sini kontrol edin."
      exact issues_bind (framed_quiet (post_comment_framed (begins_other text (by decide))))
        fun _ => ⟨fun _ => id,fun _ => trivial⟩
  · exact issues_bind (framed_quiet (announce_branch_framed _ _)) fun _ => output_actions_framed

private theorem prepare_change_framed : Issues bodyFramed (prepare_change ctx inp) := by
  refine issues_bind set_assignee_framed fun _ => ?_
  refine issues_bind branch_gate_framed fun _ => ?_
  refine framed_look fun _ => ?_
  refine issues_bind (attempted_framed _) fun _ => ?_
  exact issues_bind generate_files_framed fun _ => trivial

private theorem no_files_framed : Issues bodyFramed (no_files inp) := by
  have begins : Begins "Kod d" NO_FILES_TEXT := Begins.append (by decide) _
  exact framed_conclude (fun _ => id) (framed_quiet (post_comment_framed (begins_other begins (by decide))))

private theorem code_change_framed (with_test : Bool) : Issues spineFramed (handle_code_change_common ctx inp with_test) := by
  refine issues_bind (framed_body prepare_change_framed) ?_
  rintro ⟨branch_name,code_output,commit_files⟩
  simp only
  split
  · exact framed_body no_files_framed
  · exact issues_bind (scan_and_commit_framed _ _ _) fun _ => framed_body (after_commit_framed _ _ _)

/-! ### Pull request reviews -/

private theorem post_findings_framed (pr_id : Int) (findings : List Json) :
    Issues quietFramed (post_findings ctx inp pr_id findings) := by
  induction findings with
  | nil => trivial
  | cons finding rest ih =>
    refine ⟨silent_other rfl rfl,fun reply => ?_⟩
    cases reply with
    | error failure => exact ⟨trivial,fun _ => ih⟩
    | ok value => exact ⟨fun _ => rfl,fun _ => ih⟩

private theorem explain_answer_framed (diff_hash prompt_text : String) (cached : Option ExplainCacheEntry) :
    Issues quietFramed (explain_answer ctx inp diff_hash prompt_text cached) := by
  cases cached with
  | some entry => trivial
  | none =>
    refine issues_bind (under_token_cap_framed _ _) fun _ => ⟨silent_other rfl rfl,fun reply => ?_⟩
    cases reply with
    | error failure => exact ⟨trivial,fun _ => trivial⟩
    | ok response => exact ⟨trivial,fun _ => ⟨fun _ => rfl,fun _ => trivial⟩⟩

private theorem maybe_handle_explain_framed : Issues quietFramed (maybe_handle_explain ctx inp) := by
  refine ⟨trivial,fun self => ?_⟩
  simp only [Prog.bind]
  split
  · trivial
  · refine issues_bind ⟨fun _ => rfl,fun _ => trivial⟩ fun _ => ?_
    refine issues_bind (explain_answer_framed _ _ _) fun answer => ?_
    cases answer with
    | none => trivial
    | some answer =>
      exact post_comment_framed (begins_other ((begins_self " [explain]\n\n").append _) (by decide))

private theorem pr_review_framed : Issues bodyFramed (handle_pr_review ctx inp) := by
  refine issues_bind (critical_framed (silent_other rfl rfl) _) fun _ => ?_
  refine issues_bind (llm_critical_framed (silent_other rfl rfl) _ _ _) fun _ => ?_
  refine framed_look fun _ => ?_
  refine issues_bind (attempted_framed _) fun _ => ?_
  exact issues_bind (framed_quiet (post_findings_framed _ _)) fun _ => framed_quiet maybe_handle_explain_framed

-- The texts of the comments are not computed while the steps are followed.
attribute [local irreducible] format_page_title format_research_summary_jira_comment extract_child_decision

/-! ### Confluence pages -/

private theorem resolve_link_framed : Issues quietFramed (resolve_jira_issue_link inp) := by
  refine ⟨silent_other rfl rfl,fun reply => ?_⟩
  cases reply with
  | ok link => trivial
  | error failure => trivial

private theorem now_framed : Issues quietFramed (now : Quiet Raised Nat) := ⟨trivial,fun _ => trivial⟩

private theorem page_title_framed (today : String) : Issues bodyFramed (page_title ctx inp today) := by
  unfold page_title
  split
  · trivial
  · exact fail_framed _ _

private theorem publish_page_framed (title text : String) {announcement : String}
    (differs : Differs announcement) :
    Issues bodyFramed (publish_page ctx inp title text announcement) := by
  refine issues_bind (critical_framed (silent_other rfl rfl) _) fun _ => ?_
  refine framed_note (fun _ => rfl) ?_
  have begins := fun url => ((begins_self announcement).append url).append "`"
  exact issues_bind (framed_quiet (post_comment_framed (begins_other (begins _) differs))) fun _ => output_actions_framed

private theorem doc_create_framed : Issues bodyFramed (handle_confluence_doc_create ctx inp) := by
  refine issues_bind set_assignee_framed fun _ => ?_
  refine issues_bind (framed_quiet resolve_link_framed) fun _ => ?_
  refine issues_bind (framed_quiet now_framed) fun at_ => ?_
  refine issues_bind (page_title_framed _) fun title => ?_
  simp only
  refine issues_bind (llm_critical_framed (silent_other rfl rfl) _ _ _) fun _ => ?_
  exact publish_page_framed _ _ (by decide)

private theorem update_sections_framed (page_id : String) (jira_issue_link : Option String) (sections : List Section) :
    Issues quietFramed (update_sections ctx inp page_id jira_issue_link sections) := by
  induction sections with
  | nil => trivial
  | cons part rest ih =>
    refine issues_bind ⟨trivial,fun _ => trivial⟩ fun self => ?_
    simp only
    split
    · trivial
    · refine issues_bind (emit_audit_framed (by decide)) fun _ => ?_
      exact issues_bind ih fun _ => trivial
    · refine issues_bind ⟨silent_other rfl rfl,fun _ => trivial⟩ fun reply => ?_
      cases reply with
      | error failure => exact issues_bind ⟨trivial,fun _ => trivial⟩ fun _ => ih
      | ok value =>
        refine issues_bind ⟨fun _ => rfl,fun _ => trivial⟩ fun _ => ?_
        exact issues_bind ih fun _ => trivial

private theorem update_summary_other (updated skipped : List String) :
    update_summary updated skipped ≠ ITER_WARNING_BANNER_TEXT := by
  have begins : Begins " Confluence güncellemesi tamamlandı:" (update_summary updated skipped) := by
    unfold update_summary
    rw [List.append_assoc,List.singleton_append]
    exact (begins_self _).intercalate _ _
  exact begins_other begins (by decide)

private theorem update_page_framed (page_id : String) (page_meta : Json) :
    Issues bodyFramed (update_page ctx inp page_id page_meta) := by
  have other : ∀ {text : String}, Begins " Conf" text → text ≠ ITER_WARNING_BANNER_TEXT :=
    fun begins => begins_other begins (by decide)
  unfold update_page
  split
  · refine issues_bind (framed_quiet (emit_audit_framed (by decide))) fun _ => ?_
    exact framed_quiet (post_comment_framed (other (by decide)))
  · refine issues_bind (framed_quiet now_framed) fun at_ => ?_
    refine issues_bind (attempted_framed _) fun protected_ => ?_
    split
    · refine issues_bind (framed_quiet (emit_audit_framed (by decide))) fun _ => ?_
      exact framed_quiet (post_comment_framed (other (by decide)))
    · split
      · have begins : Begins "ℹ Con" "ℹ Confluence güncellemesi atlandı: güncellenecek bölüm bulunamadı." := by decide
        exact framed_quiet (post_comment_framed (begins_other begins (by decide)))
      · refine issues_bind (framed_quiet resolve_link_framed) fun _ => ?_
        refine issues_bind (framed_quiet (update_sections_framed _ _ _)) ?_
        rintro ⟨updated,skipped⟩
        exact issues_bind (framed_quiet (post_comment_framed (update_summary_other _ _))) fun _ => output_actions_framed

private theorem doc_update_framed : Issues bodyFramed (handle_confluence_doc_update ctx inp) := by
  refine issues_bind set_assignee_framed fun _ => ?_
  simp only
  split
  · exact fail_framed _ _
  · exact issues_bind (critical_framed (silent_other rfl rfl) _) fun _ => update_page_framed _ _

/-! ### Research -/

private theorem scrape_framed (url : String) : Issues quietFramed (firecrawl_scrape_with_grace ctx inp url) := by
  refine issues_bind ⟨silent_other rfl rfl,fun _ => trivial⟩ fun reply => ?_
  cases reply with
  | error failure => exact ⟨trivial,fun _ => trivial⟩
  | ok outcome =>
    simp only
    split
    · refine issues_bind (post_comment_framed (ends_other (by decide) (by decide))) fun _ => ?_
      exact ⟨trivial,fun _ => trivial⟩
    · split
      · trivial
      · exact ⟨trivial,fun _ => trivial⟩

private theorem scrape_all_framed (urls : List String) : Issues quietFramed (scrape_all ctx inp urls) := by
  induction urls with
  | nil => trivial
  | cons url rest ih => exact issues_bind (scrape_framed url) fun _ => issues_bind ih fun _ => trivial

private theorem search_sources_framed : Issues bodyFramed (search_sources ctx inp) :=
  issues_bind (critical_framed (silent_other rfl rfl) _) fun _ => framed_quiet (scrape_all_framed _)

private theorem no_sources_framed : Issues quietFramed (no_sources inp) := by
  refine issues_bind ⟨trivial,fun _ => trivial⟩ fun _ => ?_
  exact post_comment_framed (begins_other (by decide : Begins " Araş" _) (by decide))

private theorem research_publish_framed : Issues bodyFramed (handle_research_publish_confluence ctx inp) := by
  refine issues_bind set_assignee_framed fun _ => ?_
  refine issues_bind (framed_quiet resolve_link_framed) fun _ => ?_
  refine issues_bind search_sources_framed fun found => issues_ite (framed_quiet no_sources_framed) ?_
  refine issues_bind (framed_quiet now_framed) fun at_ => ?_
  refine issues_bind (page_title_framed _) fun title => ?_
  exact publish_page_framed _ _ (by decide)

private theorem summary_text_begins (summary : String) (sources : List ResearchSource) (max_words max_sources : Nat) :
    Begins " Araştırma" (format_research_summary_jira_comment summary sources max_words max_sources).1 := by
  unfold format_research_summary_jira_comment
  simp only
  split
  · exact (begins_self " Araştırma").append " sonucu boş döndü."
  · have title : Begins " Araştırma" " Araştırma özeti" := (begins_self " Araştırma").append " özeti"
    rw [List.append_assoc,List.append_assoc,List.singleton_append]
    have last : " Araştırma".toList.getLast? = some 'a' := by decide
    exact (title.intercalate _ _).rstrip last (by decide)

private theorem offload_summary_framed (summary_text : String) (sources : List ResearchSource) :
    Issues quietFramed (offload_summary ctx inp summary_text sources) := by
  refine issues_bind ⟨silent_other rfl rfl,fun _ => trivial⟩ fun reply => ?_
  cases reply with
  | ok stored_uri => trivial
  | error failure => exact ⟨trivial,fun _ => trivial⟩

private theorem summary_comment_framed (found : List (String × ResearchSource)) :
    Issues quietFramed (summary_comment ctx inp found) := by
  unfold summary_comment
  simp only
  generalize format_research_summary_jira_comment _ _ _ _ = comment
  obtain ⟨comment_text,overflow⟩ := comment
  exact issues_ite (issues_bind (offload_summary_framed _ _) fun _ => trivial) trivial

private theorem summary_comment_begins (found : List (String × ResearchSource)) :
    Returns (Begins " Araştırma") (summary_comment ctx inp found) := by
  have text := summary_text_begins (strip ("\n\n".intercalate (found.map Prod.fst))) (found.map Prod.snd) 500 5
  unfold summary_comment
  simp only
  generalize format_research_summary_jira_comment _ _ _ _ = comment at text ⊢
  obtain ⟨comment_text,overflow⟩ := comment
  cases overflow with
  | false => exact text
  | true =>
    have linked : ∀ stored_uri, Begins " Araştırma"
        (if stored_uri = "" then comment_text else comment_text ++ "\n\n Tam içerik: " ++ stored_uri) := by
      intro stored_uri
      split
      · exact text
      · exact (text.append _).append _
    intro reply
    cases reply with
    | ok stored_uri => exact linked _
    | error failure => exact fun _ => linked ""

private theorem research_summary_framed : Issues bodyFramed (handle_research_summary_jira ctx inp) := by
  refine issues_bind set_assignee_framed fun _ => ?_
  refine issues_bind search_sources_framed fun found => issues_ite (framed_quiet no_sources_framed) ?_
  · refine issues_then (framed_quiet (summary_comment_framed found)) (returns_embed (summary_comment_begins found)) ?_
    intro comment_text begins
    have other := begins_other begins (by decide)
    exact issues_bind (critical_framed (silent_comment other) _) fun _ => output_actions_framed

/-! ### Epics -/

private theorem stop_epic_framed (child_key : String) {text : String} (other : text ≠ ITER_WARNING_BANNER_TEXT) :
    Issues bodyFramed (stop_epic inp child_key text) :=
  framed_conclude (fun _ => id) (issues_bind (framed_quiet (post_comment_framed other)) fun _ => trivial)

private theorem run_subtasks_framed (total : Nat) (items : List (String × Nat)) :
    Issues bodyFramed (run_subtasks ctx inp total items) := by
  induction items with
  | nil => trivial
  | cons item rest ih =>
    obtain ⟨child_key,index⟩ := item
    refine issues_bind (framed_quiet ⟨silent_other rfl rfl,fun _ => trivial⟩) fun reply => ?_
    cases reply with
    | error failure => exact stop_epic_framed _ (ends_other (by decide) (by decide))
    | ok child_output =>
      refine issues_ite (stop_epic_framed _ (ends_other (by decide) (by decide))) ?_
      exact issues_bind (framed_quiet (post_comment_framed (ends_other (by decide) (by decide)))) fun _ => ih

private theorem multi_step_framed : Issues bodyFramed (handle_multi_step ctx inp) := by
  refine issues_bind set_assignee_framed fun _ => ?_
  refine issues_bind (critical_framed (silent_other rfl rfl) _) fun _ => ?_
  simp only
  split
  · refine framed_conclude (fun _ => id) (framed_quiet (post_comment_framed ?_))
    exact begins_other (by decide : Begins " Bu E" _) (by decide)
  · refine issues_bind (run_subtasks_framed _ _) fun _ => ?_
    exact issues_bind (framed_quiet (post_comment_framed (ends_other (by decide) (by decide)))) fun _ => output_actions_framed

/-! ### Dispatch -/

/-- The workflow types with a handler of their own. -/
def HANDLED_TYPES : List String :=
  ["code_change_with_test","code_change_commit_only","pr_review","confluence_doc_create","confluence_doc_update",
    "research_publish_confluence","research_summary_jira","multi_step"]

theorem dispatch_framed (handled : inp.workflow_type ∈ HANDLED_TYPES) :
    Issues spineFramed (dispatch_workflow_type ctx inp) := by
  unfold dispatch_workflow_type
  split
  · exact code_change_framed true
  · exact code_change_framed false
  · exact framed_body pr_review_framed
  · exact framed_body doc_create_framed
  · exact framed_body doc_update_framed
  · exact framed_body research_publish_framed
  · exact framed_body research_summary_framed
  · exact framed_body multi_step_framed
  · simp_all [HANDLED_TYPES]

theorem dispatch_waits (unhandled : inp.workflow_type ∉ HANDLED_TYPES) :
    dispatch_workflow_type ctx inp = body (wait_for_signal ctx inp) := by
  unfold dispatch_workflow_type
  split
  case h_9 => rfl
  all_goals simp_all [HANDLED_TYPES]

end

/-! ### The whole run -/

section
variable {py : Python}

def actFramed : Act (agent py) → Prop
  | .modify f => ∀ self : RunnerState, ledger (f self).notes = ledger self.notes ∧
      (self.closed = true → (f self).closed = true)
  | .await (.body c) => Silent c
  | .wait _ => False
  | _ => True

theorem actFramed_quiet (step : QuietStep) (framed : quietFramed step) : actFramed (step.act py) := by
  cases step with
  | note f => exact fun self => ⟨framed self.notes,id⟩
  | record action_kind => exact fun _ => ⟨rfl,id⟩
  | await c => exact framed
  | wait ready => exact framed
  | _ => trivial

private theorem actFramed_body (step : BodyStep) (framed : bodyFramed step) : actFramed (step.act py) := by
  cases step with
  | quiet step => exact actFramed_quiet step framed
  | conclude f =>
    intro self
    refine ⟨rfl,fun closed => ?_⟩
    simp only [RunnerState.closed,Bool.or_eq_true] at closed ⊢
    exact closed.imp_right (framed self.verdict)

theorem actFramed_spine (step : SpineStep) (framed : spineFramed step) : actFramed (step.act py) := by
  cases step with
  | body step => exact actFramed_body step framed
  | commit request => trivial

/-- The three numbers that only signals change: the count, the debounce and the streak. -/
def counts (self : RunnerState) : Int × Option Nat × Nat :=
  (self.notes.iteration_state.iter_count,self.notes.iteration_state.last_fix_trigger_at,
    self.notes.iteration_state.needs_info_streak)

/-- A change that keeps the counts, and the run closed. -/
def Counted (before after : RunnerState) : Prop :=
  counts after = counts before ∧ (before.closed = true → after.closed = true)

private theorem counts_of_ledger {before after : RunnerState} (same : ledger after.notes = ledger before.notes) :
    counts after = counts before := by
  have iter_count := congrArg Ledger.iter_count same
  have last_fix := congrArg Ledger.last_fix_trigger_at same
  have streak := congrArg Ledger.needs_info_streak same
  exact Prod.ext iter_count (Prod.ext last_fix streak)

private theorem changes_of_framed (c : Act (agent py)) (framed : actFramed c) :
    Act.Changes (W := agent py) Counted c := by
  cases c with
  | modify f => exact fun self => ⟨counts_of_ledger (framed self).1,(framed self).2⟩
  | wait ready => exact framed.elim
  | _ => trivial

variable (py) in
def quietCounted (step : QuietStep) : Prop := Act.Changes (W := agent py) Counted (step.act py)

variable (py) in
def bodyCounted (step : BodyStep) : Prop := Act.Changes (W := agent py) Counted (step.act py)

end

section
variable (ctx : Context) (inp : AgentRunnerWorkflowInput)

private theorem act_framed {c : Act (agent ctx.py)} (framed : actFramed c) : Issues actFramed (act ctx c) :=
  ⟨framed,fun _ => trivial⟩

private theorem build_output_framed (status : AgentRunnerStatus) (summary : String) :
    Issues actFramed (build_output ctx status summary) := ⟨trivial,fun _ => trivial⟩

private theorem audit_role_other (actor_role : String) : audit_action_for_cancel_role actor_role ∉ QUEUED_AUDIT_ACTIONS := by
  unfold audit_action_for_cancel_role
  split
  · decide
  · decide

private theorem handle_cancel_framed : Issues actFramed (handle_cancel ctx inp) := by
  refine issues_bind (act_framed ctx fun _ => ⟨rfl,id⟩) fun _ => ?_
  refine issues_bind (act_framed ctx trivial) fun self => ?_
  refine issues_bind (act_framed ctx trivial) fun _ => ?_
  refine issues_bind (act_framed ctx trivial) fun self => ?_
  refine issues_bind (issues_embedded (issues_mono actFramed_quiet (emit_audit_framed (audit_role_other _)))) fun _ => ?_
  exact build_output_framed ctx _ _

private theorem handle_critical_framed : Issues actFramed (handle_output_action_critical ctx inp) := by
  refine issues_bind (act_framed ctx fun _ => ⟨rfl,id⟩) fun _ => ?_
  refine issues_bind (act_framed ctx trivial) fun _ => ?_
  refine issues_bind (act_framed ctx trivial) fun self => ?_
  exact build_output_framed ctx _ _

private theorem after_exception_framed (raised : Raised) : Issues actFramed (after_exception ctx inp raised) := by
  have concluded : ∀ reason, Issues actFramed (conclude_as ctx reason) := fun _ => act_framed ctx fun _ => ⟨rfl,id⟩
  cases raised with
  | cancelledViaSignal => exact handle_cancel_framed ctx inp
  | epicSubtaskFailed child_key => exact build_output_framed ctx _ _
  | outOfScope => exact build_output_framed ctx _ _
  | outputActionCriticalFailure result =>
    exact issues_bind (act_framed ctx fun _ => ⟨rfl,id⟩) fun _ => handle_critical_framed ctx inp
  | tokenCapExceeded activity_name input_tokens cap => exact issues_bind (concluded _) fun _ => build_output_framed ctx _ _
  | error failure => exact issues_bind (concluded _) fun _ => build_output_framed ctx _ _

private theorem after_return_framed : Issues actFramed (after_return ctx inp) := by
  refine issues_bind (act_framed ctx trivial) fun self => ?_
  refine issues_ite (handle_cancel_framed ctx inp) (issues_ite (build_output_framed ctx _ _) ?_)
  exact issues_ite (build_output_framed ctx _ _) (build_output_framed ctx _ _)

theorem after_body_end_framed (ended : Except String (Option Raised)) : Issues actFramed (after_body_end ctx inp ended) := by
  cases ended with
  | error reason =>
    exact issues_bind (act_framed ctx fun _ => ⟨rfl,fun _ => Bool.or_true _⟩) fun _ => build_output_framed ctx _ _
  | ok ended =>
    cases ended with
    | none => exact after_return_framed ctx inp
    | some raised => exact after_exception_framed ctx inp raised

/-! ### Moves -/

private theorem banner_counted : Issues (quietCounted ctx.py) (maybe_post_iter_warning_banner ctx inp) := by
  refine issues_bind ⟨trivial,fun _ => trivial⟩ fun self => ?_
  refine issues_ite ⟨fun _ => ⟨rfl,id⟩,fun _ => trivial⟩ (issues_ite trivial (issues_ite ⟨fun _ => ⟨rfl,id⟩,fun _ => trivial⟩ ?_))
  refine issues_bind ⟨fun _ => ⟨rfl,id⟩,fun _ => trivial⟩ fun _ => ?_
  exact issues_bind ⟨trivial,fun _ => trivial⟩ fun _ => ⟨trivial,fun _ => ⟨trivial,fun _ => trivial⟩⟩

private theorem emit_all_counted (actions : List String) : Issues (quietCounted ctx.py) (emit_all ctx inp actions) := by
  induction actions with
  | nil => trivial
  | cons action rest ih => exact issues_bind ⟨trivial,fun _ => ⟨trivial,fun _ => trivial⟩⟩ fun _ => ih

private theorem drain_counted : Issues (quietCounted ctx.py) (drain_pending_audits ctx inp) := by
  refine issues_bind ⟨trivial,fun _ => trivial⟩ fun self => ?_
  exact issues_bind ⟨fun _ => ⟨rfl,id⟩,fun _ => trivial⟩ fun _ => emit_all_counted ctx inp _

private theorem wait_for_signal_counted : Issues (bodyCounted ctx.py) (wait_for_signal ctx inp) := by
  have quieted : ∀ {α : Type} {p : Quiet Raised α}, Issues (quietCounted ctx.py) p → Issues (bodyCounted ctx.py) (quiet p) :=
    fun counted => issues_embedded counted
  refine issues_bind (quieted (banner_counted ctx inp)) fun _ => ?_
  refine issues_bind (quieted (drain_counted ctx inp)) fun _ => ?_
  have timed_out : ∀ self : RunnerState, self.closed = true → (self.cancel.cancel_requested || true) = true :=
    fun _ _ => Bool.or_true _
  refine issues_bind (quieted ⟨fun _ => ⟨rfl,id⟩,fun _ => trivial⟩) fun ended =>
    issues_ite ?_ ⟨fun self => ⟨rfl,timed_out self⟩,fun _ => trivial⟩
  refine issues_bind (quieted ⟨fun _ => ⟨rfl,id⟩,fun _ => trivial⟩) fun _ => ?_
  refine issues_bind (quieted (banner_counted ctx inp)) fun _ => ?_
  refine issues_bind (quieted (drain_counted ctx inp)) fun _ => ?_
  refine issues_bind (quieted ⟨trivial,fun _ => trivial⟩) fun self => ?_
  exact issues_ite trivial (issues_ite trivial trivial)

theorem run_body_counted : Issues (Act.Changes (W := agent ctx.py) Counted) (run_body ctx inp) := by
  refine issues_attempt (issues_bind ?_ fun _ => trivial) fun _ => trivial
  by_cases handled : inp.workflow_type ∈ HANDLED_TYPES
  · refine issues_embedded (issues_mono ?_ (dispatch_framed handled))
    intro step framed
    exact changes_of_framed _ (actFramed_spine step framed)
  · rw [dispatch_waits handled]
    exact issues_embedded (issues_embedded (wait_for_signal_counted ctx inp))

theorem after_body_end_counted (ended : Except String (Option Raised)) :
    Issues (Act.Changes (W := agent ctx.py) Counted) (after_body_end ctx inp ended) :=
  issues_mono changes_of_framed (after_body_end_framed ctx inp ended)

/-- The cap of the input. -/
def iterCap : Int := if 0 < inp.max_iter then min inp.max_iter MAX_ITER else MAX_ITER

/-- The first change of a run. -/
def seeded (self : RunnerState) : RunnerState :=
  { self with notes := { self.notes with
      iteration_state := { self.notes.iteration_state with iter_count := max 0 (inp.iteration - 1) } } }

def advanced (self : RunnerState) : RunnerState := { self with notes := advance_iter_with_banner_check self.notes }

variable (env : Environment (agent ctx.py)) (pre : List Delivery)

/-- The moves of a run, with the signals that come before its first line. -/
def runMoves : List (Move (agent ctx.py)) :=
  signalMoves pre RunnerState.init ++ moves env (run ctx inp) (start ctx pre)

theorem runMoves_linked : Linked (W := agent ctx.py) RunnerState.init (runMoves ctx inp env pre)
    (finished ctx inp env pre).2.self :=
  linked_append (signalMoves_linked (W := agent ctx.py) pre RunnerState.init) (moves_linked env (run ctx inp) (start ctx pre))

/-- What follows the first change, by the decision. -/
private def admit_rest (decision : Option String) : Agent ctx (Option String) :=
  match decision with
  | some reason => return some reason
  | none => do
    act ctx (.modify fun self => { self with notes := advance_iter_with_banner_check self.notes })
    return none

private theorem admit_eq (r : Run (agent ctx.py)) :
    exec (suspend env) (admit_iteration ctx inp) r =
        exec (suspend env) (admit_rest ctx (should_advance_iter (seeded inp r.self).notes.iteration_state (iterCap inp)))
          { r with self := seeded inp r.self } ∧
      moves env (admit_iteration ctx inp) r = .changed r.self (seeded inp r.self) ::
        moves env (admit_rest ctx (should_advance_iter (seeded inp r.self).notes.iteration_state (iterCap inp)))
          { r with self := seeded inp r.self } :=
  ⟨rfl,rfl⟩

theorem refused_moves {reason : String}
    (refused : should_advance_iter (seeded inp (start ctx pre).self).notes.iteration_state (iterCap inp) = some reason) :
    ∃ rest, moves env (run ctx inp) (start ctx pre) =
        .changed (start ctx pre).self (seeded inp (start ctx pre).self) :: rest ∧
      Changed (W := agent ctx.py) Counted rest := by
  obtain ⟨ran,moved⟩ := admit_eq ctx inp env (start ctx pre)
  rw [refused] at ran moved
  refine ⟨moves env (after_body_end ctx inp (.error reason)) { start ctx pre with self := seeded inp (start ctx pre).self },
    ?_,moves_changed (after_body_end_counted ctx inp _) env _⟩
  rw [run,moves_bind,until_body_end,moves_bind,exec_bind,ran,moved]
  rfl

theorem admitted_moves
    (admitted : should_advance_iter (seeded inp (start ctx pre).self).notes.iteration_state (iterCap inp) = none) :
    ∃ rest, moves env (run ctx inp) (start ctx pre) =
        .changed (start ctx pre).self (seeded inp (start ctx pre).self) ::
          .changed (seeded inp (start ctx pre).self) (advanced (seeded inp (start ctx pre).self)) :: rest ∧
      Changed (W := agent ctx.py) Counted rest := by
  obtain ⟨ran,moved⟩ := admit_eq ctx inp env (start ctx pre)
  rw [admitted] at ran moved
  -- The body, from the state in which its iteration is counted.
  let counted : Run (agent ctx.py) := { start ctx pre with self := advanced (seeded inp (start ctx pre).self) }
  let bodied : Agent ctx (Except String (Option Raised)) := run_body ctx inp >>= fun ended => return .ok ended
  have body_issues : Issues (Act.Changes (W := agent ctx.py) Counted) bodied := by
    refine issues_bind (run_body_counted ctx inp) fun ended => ?_
    trivial
  have body_moves : Changed (W := agent ctx.py) Counted (moves env bodied counted) := moves_changed body_issues env counted
  have ran : exec (suspend env) (admit_iteration ctx inp) (start ctx pre) = (.ok none,counted) := ran
  have moved : moves env (admit_iteration ctx inp) (start ctx pre) =
      [.changed (start ctx pre).self (seeded inp (start ctx pre).self),
        .changed (seeded inp (start ctx pre).self) (advanced (seeded inp (start ctx pre).self))] := moved
  rw [run,moves_bind,until_body_end,moves_bind,exec_bind,ran,moved,List.append_assoc]
  simp only [List.cons_append,List.nil_append]
  refine ⟨_,rfl,changed_append body_moves ?_⟩
  split
  · exact moves_changed (after_body_end_counted ctx inp _) env _
  · intro before after member
    cases member

end

end Automation.AgentFrame
