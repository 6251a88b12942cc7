import Automation.AgentExtract

/-!
The handlers of the workflow types: code changes, pull request reviews, Confluence
pages, research and Epics, with the steps they share.
-/
namespace Automation.AgentHandlers
open Automation.Effects Automation.Coroutine Automation.AgentMessages Automation.AgentState Automation.AgentExtract
open Automation.PyText

/-- `workflow.info()`, with Python's functions. -/
structure Context where
  workflow_id : String
  run_id : String
  py : Python

section
variable {ε : Type}

def look : Quiet ε RunnerState := command (S := quietSteps) .look
def note (f : Notes → Notes) : Quiet ε Unit := command (S := quietSteps) (.note f)
def record_partial_failure (action_kind : String) : Quiet ε Unit := command (S := quietSteps) (.record action_kind)
def now : Quiet ε Nat := command (S := quietSteps) .clock
def await (c : Call) : Quiet ε (Except Failure Json) := command (S := quietSteps) (.await c)
def wait (ready : RunnerState → Bool) : Quiet ε Bool := command (S := quietSteps) (.wait ready)

end

def conclude (f : Verdict → Verdict) : Body Unit := command (S := bodySteps) (.conclude f)
def commit (request : CommitRequest) : Spine (Except Failure Json) := command (S := spineSteps) (.commit request)

section
variable {py : Python} {env : Environment (agent py)} {r : Run (agent py)} {ε β : Type}
  {Q : β → Run (agent py) → Prop} {X : ε → Run (agent py) → Prop}

theorem triple_look {f : RunnerState → Quiet ε β} (rest : Triple (quietHandler env) (f r.self) r Q X) :
    Triple (quietHandler env) (look >>= f) r Q X := rest

theorem triple_note {change : Notes → Notes} {f : Unit → Quiet ε β}
    (rest : Triple (quietHandler env) (f ()) { r with self := { r.self with notes := change r.self.notes } } Q X) :
    Triple (quietHandler env) (note change >>= f) r Q X := rest

theorem triple_record {action_kind : String} {f : Unit → Quiet ε β}
    (rest : Triple (quietHandler env) (f ()) { r with self := { r.self with
      output_actions_partial_kinds := r.self.output_actions_partial_kinds ++ [action_kind] } } Q X) :
    Triple (quietHandler env) (record_partial_failure action_kind >>= f) r Q X := rest

/-- Whatever signals arrive and whatever the activity replies. -/
theorem triple_await {c : Call} {f : Except Failure Json → Quiet ε β}
    (each : ∀ signals reply turn, Triple (quietHandler env) (f reply) (awaited r (.body c) signals reply turn) Q X) :
    Triple (quietHandler env) (await c >>= f) r Q X := each _ _ _

theorem triple_quiet {α : Type} {p : Quiet Raised α} {Q : α → Run (agent py) → Prop}
    {X : Raised → Run (agent py) → Prop} (triple : Triple (quietHandler env) p r Q X) :
    Triple (bodyHandler env) (quiet p) r Q X := triple_embed triple

end

/-- `self._failure_reason = reason`, and the exception. -/
def fail {α : Type} (reason : String) (raised : Raised) : Body α := do
  conclude fun verdict => { verdict with failure_reason := some reason }
  .raise raised

/-- An activity whose failure ends the run with the reason. -/
def critical (reason : String) (c : Call) : Body Json := do
  match ← quiet (await c) with
  | .ok value => return value
  | .error failure => fail reason (.error failure)

/-- A library function that may raise. -/
def attempted {α : Type} : Except Failure α → Body α
  | .ok value => .ret value
  | .error failure => .raise (.error failure)

def MAX_ACTIVITY_TOKEN_CAP : Nat := 8000

/-- `max(1, len(text) // 4)`. -/
def estimate (length : Nat) : Nat := max 1 (length / 4)

section
variable (ctx : Context) (inp : AgentRunnerWorkflowInput)

def emit_audit_action {ε : Type} (action : String) : Quiet ε Unit := do
  let self ← look
  let _ ← await (.audit_emit (.obj [("action",.str action),("workflow_id",.str ctx.workflow_id),
    ("dept_id",.str inp.department_id),("issue_key",.str inp.issue_key),
    ("iter_count",.int self.notes.iteration_state.iter_count)]))
  return ()

def post_jira_comment_best_effort {ε : Type} (body : String) : Quiet ε Unit := do
  match ← await (.jira_add_comment inp.issue_key body inp.department_id) with
  | .ok _ => return ()
  | .error _ => record_partial_failure "jira_comment"

/-- The call is not made where its input is too large. -/
def under_token_cap (activity_name : String) (input_tokens : Nat) : Quiet Raised Unit := do
  if MAX_ACTIVITY_TOKEN_CAP < input_tokens then
    emit_audit_action ctx inp "token_cap_exceeded"
    .raise (.tokenCapExceeded activity_name input_tokens MAX_ACTIVITY_TOKEN_CAP)
  else return ()

/-- `_execute_llm_activity` whose failure ends the run with the reason. -/
def llm_critical (reason activity_name : String) (c : Call) (input_tokens : Nat) : Body Json := do
  quiet (under_token_cap ctx inp activity_name input_tokens)
  critical reason c

def ITER_WARNING_BANNER_TEXT : String :=
  " Bu görev şu ana kadar 3 iterasyon sürdü. Yeni bir task açmayı düşünün - devam ederseniz iterasyon sayısı 5'i " ++
    "bulduğunda iş otomatik olarak kapatılacaktır."

def maybe_post_iter_warning_banner : Quiet Raised Unit := do
  let self ← look
  if self.notes.iter_warning_at_three then note fun notes => { notes with iter_warning_pending := false }
  else if self.notes.iter_warning_pending = false then return ()
  else if self.notes.iteration_state.iter_count < ITER_WARNING_THRESHOLD then
    note fun notes => { notes with iter_warning_pending := false }
  else
    note fun notes => { notes with iter_warning_at_three := true, iter_warning_pending := false }
    let _ ← await (.jira_add_comment inp.issue_key ITER_WARNING_BANNER_TEXT inp.department_id)
    emit_audit_action ctx inp "iter_warning_at_three_posted"

def emit_all : List String → Quiet Raised Unit
  | [] => return ()
  | action :: rest => do
    emit_audit_action ctx inp action
    emit_all rest

def drain_pending_audits : Quiet Raised Unit := do
  let self ← look
  note fun notes => { notes with pending_audit_actions := [] }
  emit_all ctx inp self.notes.pending_audit_actions

def set_assignee : Body Json := critical "jira_assignee_failed" (.set_assignee_to_bot inp.issue_key inp.department_id)

def OUTPUT_ACTION_DISPATCH : OutputActionKind → Option String
  | .jira_comment => some "jira_add_comment"
  | .jira_attachment => some "upload_artifact_to_jira"
  | .bitbucket_create_pr => some "bitbucket_open_pr"
  | .confluence_create_page => some "confluence_create_page"
  | .confluence_update_page => some "confluence_update_page"
  | .slack_notify => some "slack_notify"
  | .email_notify => some "email_notify"
  | .bitbucket_commit => none
  | .jira_transition => none

/-- The arguments of the activity, or why the action cannot be applied. -/
def activity_args (action : OutputAction) (last_commit_branch : Option String) : Except String (List Json) :=
  let payload := Json.obj action.payload.reverse
  let dept := Json.str inp.department_id
  let title := firstTruthy [payload.get "title",.str inp.analysis.title,.str inp.issue_key]
  let content := firstTruthy [payload.get "content",payload.get "body",payload.get "text",.str ""]
  match action.kind with
  | .jira_comment =>
    let body := firstTruthy [payload.get "body",payload.get "comment",payload.get "text",payload.get "content",
      payload.get "summary",.str ""]
    let body := pyString ctx.py body ++
      if (payload.get "minio_uri").truthy ∧ (payload.get "summary").truthy then
        "\n\nArtifact: " ++ pyString ctx.py (payload.get "minio_uri") else ""
    .ok [(payload.get "issue_key").orElse (.str inp.issue_key),.str body,dept]
  | .jira_attachment => .ok [(payload.get "issue_key").orElse (.str inp.issue_key),
      (payload.get "bucket").orElse (.str "ai-runs"),firstTruthy [payload.get "key",payload.get "minio_key",.str ""],
      firstTruthy [payload.get "file_name",payload.get "filename",.str "result.md"],dept]
  | .confluence_create_page =>
    .ok [firstTruthy [payload.get "space_key",payload.get "space",.str ""],title,content,dept,payload.get "parent_id"]
  | .confluence_update_page => .ok [firstTruthy [payload.get "page_id",payload.get "id",.str ""],title,content,dept]
  | .bitbucket_create_pr =>
    let repo := Json.obj [("workspace",firstTruthy [payload.get "workspace",payload.get "project_key",.str ""]),
      ("repo_slug",firstTruthy [payload.get "repo_slug",payload.get "repository",.str (orEmpty inp.target_repo)])]
    let pr_source_branch := firstTruthy [payload.get "source_branch",payload.get "from_branch",
      .str (orEmpty last_commit_branch)]
    if pr_source_branch.truthy then
      .ok [repo,pr_source_branch,firstTruthy [payload.get "target_branch",payload.get "to_branch",
        .str (orEmpty inp.target_branch),.str "main"],title,
        firstTruthy [payload.get "description",payload.get "body",.str ""],dept]
    else .error "bitbucket_create_pr_no_source_branch"
  | _ => .ok [payload,dept]

/-- The first line of `str(exc)`, or of the name of its type. -/
def failure_line (failure : Failure) : String :=
  takeChars 200 ((splitlines (orText failure.message failure.type_name)).headD "")

/-- What a new pull request leaves in the state and on the issue. -/
def after_create_pr (activity_result : Json) : Quiet Raised Unit := do
  match extract_pr_id_from_info ctx.py activity_result with
  | .error failure => .raise (.error failure)
  | .ok pr_id =>
    note fun notes => { notes with previous_pr_id := pr_id.or notes.previous_pr_id }
    if orEmpty (extract_pr_url ctx.py activity_result) = "" then return ()
    else post_jira_comment_best_effort inp (" Draft PR açıldı: " ++ orEmpty (extract_pr_url ctx.py activity_result))

/-- `none` for a success, else the reason. -/
def apply_single_output_action (action : OutputAction) : Quiet Raised (Option String) := do
  match OUTPUT_ACTION_DISPATCH action.kind with
  | none => return some ("no_dispatch_for_kind:" ++ action.kind.text)
  | some activity_name =>
    let self ← look
    match activity_args ctx inp action self.notes.last_commit_branch with
    | .error reason => return some reason
    | .ok args =>
      match ← await (.output_action activity_name args) with
      | .error failure => return some (failure_line failure)
      | .ok activity_result =>
        if action.kind = .bitbucket_create_pr then
          after_create_pr ctx inp activity_result
          return none
        else return none

def minio_offload (key body : String) : Quiet Raised String := do
  match ← await (.minio_put_output_action key body) with
  | .error failure => .raise (.error failure)
  | .ok uri =>
    if orEmpty uri.asStr = "" then
      .raise (.error ⟨"TypeError","minio_put_output_action must return a non-empty string"⟩)
    else return orEmpty uri.asStr

def redirect_oversized_payload (action : OutputAction) (idx : Nat) : Quiet Raised OutputAction := do
  if ctx.workflow_id = "" then .raise (.error ⟨"ValueError","workflow_id must not be empty"⟩)
  else
    let encoded := ctx.py.dumps action.payload
    if encoded.utf8ByteSize ≤ MAX_OUTPUT_BYTES then return action
    else
      let minio_uri ← minio_offload ("ai-runs/" ++ ctx.workflow_id ++ "/output-" ++ toString idx ++ ".json") encoded
      return { action with payload := [("summary",.str (takeChars 256 encoded)),("minio_uri",.str minio_uri),
        ("size_bytes",.int encoded.utf8ByteSize)] }

def redirect_all : List (OutputAction × Nat) → Quiet Raised (List OutputAction)
  | [] => return []
  | (action,idx) :: rest => do
    let corrected ← redirect_oversized_payload ctx action idx
    let others ← redirect_all rest
    return corrected :: others

def merge_output_actions_into_log (result : ApplyResult) : Quiet Raised Unit :=
  note fun notes => { notes with output_actions_log := notes.output_actions_log.extend result }

def apply_critical : List OutputAction → ApplyResult → Body ApplyResult
  | [], result => return result
  | action :: rest, result => do
    match ← quiet (apply_single_output_action ctx inp action) with
    | none => apply_critical rest { result with successful_critical := result.successful_critical ++ [action.kind.text] }
    | some reason =>
      let result := { result with failed_critical := result.failed_critical ++ [(action.kind.text,reason)] }
      quiet (merge_output_actions_into_log result)
      fail "output_action_critical_failed" (.outputActionCriticalFailure result)

def apply_best_effort : List OutputAction → ApplyResult → Quiet Raised ApplyResult
  | [], result => return result
  | action :: rest, result => do
    match ← apply_single_output_action ctx inp action with
    | none => apply_best_effort rest { result with
        successful_best_effort := result.successful_best_effort ++ [action.kind.text] }
    | some reason =>
      record_partial_failure action.kind.text
      apply_best_effort rest { result with
        failed_best_effort := result.failed_best_effort ++ [(action.kind.text,reason)] }

/-- `_execute_output_actions`. The kinds are a closed vocabulary, so `partition` accepts them all. -/
def maybe_execute_llm_output_actions : Body Unit := do
  if inp.analysis.output_actions.isEmpty then return ()
  else
    let cap_corrected ← quiet (redirect_all ctx inp.analysis.output_actions.zipIdx)
    let result ← apply_critical ctx inp (cap_corrected.filter (·.kind.critical)) .empty
    let result ← quiet (apply_best_effort ctx inp (cap_corrected.filter (!·.kind.critical)) result)
    quiet (merge_output_actions_into_log result)

def generate (prompt : String) : Body Json :=
  llm_critical ctx inp "opencode_generate_code_failed" "opencode_generate_code"
    (.opencode_generate_code inp.issue_key prompt "/tmp/workspace") (estimate prompt.length)

/-- The result to commit with its files; one retry asks for files explicitly. -/
def generate_files : Body (Json × List CommitFile) := do
  let code_output ← generate ctx inp (build_code_generation_prompt inp)
  if (extract_commit_files ctx.py code_output).isEmpty = false then
    return (code_output,extract_commit_files ctx.py code_output)
  else
    let retry_output ← generate ctx inp (build_code_generation_retry_prompt inp)
    return (if (extract_commit_files ctx.py retry_output).isEmpty then code_output else retry_output,
      extract_commit_files ctx.py retry_output)

def NO_FILES_TEXT : String :=
  "Kod degisikligi icin commit edilebilir dosya uretilemedi. Lutfen task aciklamasina hedef dosya(lar), beklenen " ++
    "degisiklik ve varsa ornek davranisi ekleyip tekrar yorum yazin; yorum geldikten sonra workflow yeniden tetiklenir."

/-- The scan, which ends the run if it blocks. -/
def scan (code_output : Json) (commit_files : List CommitFile) : Body Unit := do
  let scan_result ← critical "precommit_scan_failed"
    (.precommit_scanner (extract_code_diff_text ctx.py code_output commit_files))
  if extract_precommit_decision ctx.py scan_result = "block" then
    fail "precommit_secret_leak_blocked"
      (.error ⟨"ApplicationError","precommit_scanner blocked the commit (secret leak)"⟩)
  else return ()

/-- The commit. Its message is built inside the `try` of the activity. -/
def commit_request (branch_name : String) (commit_files : List CommitFile) : Body CommitRequest := do
  let self ← quiet look
  let target_branch := orEmpty inp.target_branch
  let source_branch := if target_branch = "" ∨ target_branch = "auto" ∨ hasPrefix target_branch "ai/" = true
    then "develop" else target_branch
  match format_commit_message ctx.py (orText inp.analysis.title "AI-generated change") inp.issue_key
      (max 1 self.notes.iteration_state.iter_count) ("ai-bot@" ++ inp.department_id ++ ".local") with
  | .error failure => fail "bitbucket_commit_failed" (.error failure)
  | .ok message => return { repo_slug := orEmpty inp.target_repo, branch_name, source_branch, files := commit_files, message
                            department_id := inp.department_id }

def scan_and_commit (branch_name : String) (code_output : Json) (commit_files : List CommitFile) : Spine Json := do
  body (scan ctx code_output commit_files)
  let request ← body (commit_request ctx inp branch_name commit_files)
  match ← commit request with
  | .ok commit_info => return commit_info
  | .error failure => body (fail "bitbucket_commit_failed" (.error failure))

/-- The status that the child reports; a child that raises has failed. -/
def child_status (reply : Except Failure Json) : Json :=
  match reply with
  | .ok output => getOr output "status" (.str "failed")
  | .error _ => .str "failed"

def run_execution_child (commit_hash : String) : Quiet Raised Bool := do
  let self ← look
  let reply ← await (.ExecutionRunWorkflow
    ("execution-" ++ inp.issue_key ++ "-iter" ++ toString self.notes.iteration_state.iter_count)
    (.obj [("parent_workflow_id",.str ctx.workflow_id),("runner_id",.null),
      ("command",.str (orEmpty inp.analysis.execution_command)),("workdir",.null),("environment",.arr []),
      ("artifact_minio_prefix",.null),("start_to_close_timeout",.null),("heartbeat_timeout",.null),
      ("department_id",.str inp.department_id),
      ("workflow_type",.str inp.workflow_type),("trace_id",.str inp.trace_id),
      ("needs_docker",.bool inp.analysis.needs_docker)]))
  note fun notes => { notes with
    iteration_state := state_record_test_result commit_hash (pyString ctx.py (child_status reply)) notes.iteration_state }
  return (child_status reply).asStr = some "passed"

/-- The pull request of an earlier iteration is closed in favour of the new one. -/
def supersede (new_pr_id : Option Int) : Quiet Raised Unit := do
  let self ← look
  match new_pr_id, self.notes.previous_pr_id with
  | some new_id, some old_id =>
    match ← await (.iter_advance_pr_supersede (orEmpty inp.target_repo) ctx.workflow_id old_id new_id inp.department_id) with
    | .ok _ => return ()
    | .error _ => record_partial_failure "iter_advance_pr_supersede"
  | _, _ => return ()

/-- `select_pr_create_tool("cloud")`. -/
def pr_tool : String := "bitbucket_create_pull_request_cloud"

def open_pull_request (branch_name : String) : Body Unit := do
  let pr_info ← critical "bitbucket_open_pr_failed" (.create_pull_request pr_tool (orEmpty inp.target_repo) branch_name
    "main" ("[bot] " ++ orText inp.analysis.title inp.issue_key) (orText inp.analysis.rationale "AI-generated change.")
    inp.department_id)
  let new_pr_id ← attempted (extract_pr_id_from_info ctx.py pr_info)
  quiet (supersede ctx inp new_pr_id)
  quiet (note fun notes => { notes with previous_pr_id := new_pr_id.or notes.previous_pr_id })
  quiet (post_jira_comment_best_effort inp
    (" Draft PR açıldı: " ++ orText (orEmpty (extract_pr_url ctx.py pr_info)) branch_name))
  maybe_execute_llm_output_actions ctx inp

def branch_gate : Body Unit := do
  match route_by_branch_pattern (orEmpty inp.target_branch) inp.workflow_type DEFAULT_BRANCH_PATTERN_RULES with
  | none => return ()
  | some reason =>
    conclude fun _ => { out_of_scope := true, failure_reason := some reason }
    quiet (emit_audit_action ctx inp reason)
    .raise .outOfScope

def announce_branch (branch_name commit_hash : String) : Quiet Raised Unit := do
  let self ← look
  let diff_summary := (self.notes.diff_summary_cache.lookup commit_hash).getD
    (orText inp.analysis.title "Değişiklik özeti üretilemedi.")
  note fun notes => { notes with diff_summary_cache := (commit_hash,diff_summary) :: notes.diff_summary_cache }
  post_jira_comment_best_effort inp (" Branch hazır: `" ++ branch_name ++ "` - " ++ diff_summary)

/-- What follows the commit. -/
def after_commit (with_test : Bool) (branch_name commit_hash : String) : Body Unit := do
  quiet (note fun notes => { notes with last_commit_branch := some branch_name })
  if with_test then
    if ← quiet (run_execution_child ctx inp commit_hash) then open_pull_request ctx inp branch_name
    else
      quiet (post_jira_comment_best_effort inp (" Testler başarısız: branch `" ++ branch_name ++
        "`. Detay için Temporal UI'sini kontrol edin."))
      conclude fun verdict => { verdict with failure_reason := some "execution_run_failed" }
  else
    quiet (announce_branch inp branch_name commit_hash)
    maybe_execute_llm_output_actions ctx inp

/-- What comes before the scan: the name of the branch, the result and its files. -/
def prepare_change : Body (String × Json × List CommitFile) := do
  let _ ← set_assignee inp
  branch_gate ctx inp
  let self ← quiet look
  let branch_name ← attempted (compute_branch_name ctx.py inp.issue_key self.notes.iteration_state.iter_count)
  let (code_output,commit_files) ← generate_files ctx inp
  return (branch_name,code_output,commit_files)

def no_files : Body Unit := do
  conclude fun verdict => { verdict with failure_reason := some "code_generation_no_files" }
  quiet (post_jira_comment_best_effort inp NO_FILES_TEXT)

def handle_code_change_common (with_test : Bool) : Spine Unit := do
  let (branch_name,code_output,commit_files) ← body (prepare_change ctx inp)
  if commit_files.isEmpty then body (no_files inp)
  else
    let commit_info ← scan_and_commit ctx inp branch_name code_output commit_files
    body (after_commit ctx inp with_test branch_name
      (orText (orEmpty (extract_commit_hash ctx.py commit_info)) branch_name))

def post_findings (pr_id : Int) : List Json → Quiet Raised Unit
  | [] => return ()
  | finding :: rest => do
    let body := firstTruthy [finding.get "body",finding.get "message",.str "(boş bulgu)"]
    match ← await (.bitbucket_add_pr_comment (orEmpty inp.target_repo) pr_id body inp.department_id) with
    | .error _ =>
      record_partial_failure "bitbucket_add_pr_comment"
      post_findings pr_id rest
    | .ok _ =>
      note fun notes => { notes with
        previous_findings := notes.previous_findings ++ (hash_key ctx.py (finding.get "hash")).toOption.toList }
      post_findings pr_id rest

/-- The cached answer, or a new one; `none` where the model failed. -/
def explain_answer (diff_hash prompt_text : String) (cached : Option ExplainCacheEntry) : Quiet Raised (Option String) := do
  match cached with
  | some entry => return some entry.answer
  | none =>
    under_token_cap ctx inp "llm_review_code" (estimate prompt_text.length)
    match ← await (.llm_review_code [.obj [("prompt_template",.str "explain.md"),("diff_hash",.str diff_hash),
        ("prompt",.str prompt_text),("max_words",.int 200)]]) with
    | .error _ =>
      record_partial_failure "explain_llm"
      return none
    | .ok response =>
      let answer := extract_explain_answer ctx.py response
      let at_ ← now
      note fun notes => { notes with
        iteration_state := state_record_explain_answer diff_hash answer at_ notes.iteration_state }
      return some answer

def maybe_handle_explain : Quiet Raised Unit := do
  let self ← look
  let diff_hash := orEmpty self.notes.pending_explain_diff_hash
  if diff_hash = "" then return ()
  else
    note fun notes => { notes with pending_explain_diff_hash := none, pending_explain_text := none }
    match ← explain_answer ctx inp diff_hash (orEmpty self.notes.pending_explain_text)
        (self.notes.iteration_state.explain_cache.lookup diff_hash) with
    | none => return ()
    | some answer => post_jira_comment_best_effort inp (" [explain]\n\n" ++ answer)

def handle_pr_review : Body Unit := do
  let pr_id := extract_pr_id inp
  let diff ← critical "bitbucket_fetch_pr_diff_failed"
    (.bitbucket_fetch_pr_diff (orEmpty inp.target_repo) pr_id inp.department_id)
  let issue_data := Json.obj [("issue_key",.str inp.issue_key),("summary",.str (orText inp.analysis.title inp.issue_key)),
    ("description",.str inp.analysis.rationale),("issue_type",.str "Task"),
    ("project_key",.str (if inp.issue_key.toList.contains '-' then .ofList (inp.issue_key.toList.takeWhile (· ≠ '-'))
      else ""))]
  let review ← llm_critical ctx inp "llm_review_code_failed" "llm_review_code" (.llm_review_code [diff,issue_data])
    (estimate (extract_diff_text ctx.py diff).length)
  let self ← quiet look
  let new_findings ← attempted (dedup_findings ctx.py self.notes.previous_findings (extract_findings review))
  quiet (post_findings ctx inp pr_id new_findings)
  quiet (maybe_handle_explain ctx inp)

def resolve_jira_issue_link : Quiet Raised (Option String) := do
  match ← await (.jira_build_issue_link inp.issue_key inp.department_id) with
  | .ok link => return issue_link link
  | .error _ => return none

def page_topic : String := orText (strip (orText inp.analysis.title inp.issue_key)) inp.issue_key

def page_title (today : String) : Body String :=
  match format_page_title ctx.py (page_topic inp) today with
  | .ok title => return title
  | .error failure => fail "confluence_title_invalid" (.error failure)

def publish_page (title body announcement : String) : Body Unit := do
  let page_info ← critical "confluence_create_page_failed"
    (.confluence_create_page (orEmpty inp.analysis.target_space) title body inp.department_id)
  quiet (note fun notes => { notes with
    latest_confluence_page_id :=
      match extract_confluence_page_id ctx.py page_info with
      | some page_id => if page_id = "" then notes.latest_confluence_page_id else some page_id
      | none => notes.latest_confluence_page_id })
  quiet (post_jira_comment_best_effort inp
    (announcement ++ orText (orEmpty (extract_confluence_page_url page_info)) title ++ "`"))
  maybe_execute_llm_output_actions ctx inp

def handle_confluence_doc_create : Body Unit := do
  let _ ← set_assignee inp
  let jira_issue_link ← quiet (resolve_jira_issue_link inp)
  let at_ ← quiet now
  let title ← page_title ctx inp (ctx.py.isodate at_)
  let topic := page_topic inp
  let target_lang := if inp.default_language = "en" then "en" else "tr"
  let body_response ← llm_critical ctx inp "llm_generate_doc_failed" "llm_generate_doc"
    (.llm_generate_doc (.obj [("topic",.str topic),("target_lang",.str target_lang),
      ("context",.str inp.analysis.rationale),("issue_key",.str inp.issue_key)]))
    (max 1 (inp.analysis.rationale.length / 4 + topic.length / 4))
  publish_page ctx inp title (with_footer (extract_doc_body ctx.py body_response) jira_issue_link)
    " Confluence sayfası oluşturuldu: `"

/-- The sections in turn; the paths of those updated and of those skipped. -/
def update_sections (page_id : String) (jira_issue_link : Option String) :
    List Section → Quiet Raised (List String × List String)
  | [] => return ([],[])
  | part :: rest => do
    let self ← look
    let content_hash := orText part.content_hash (hash_section ctx.py part.section_path part.content)
    match should_skip_section_update ctx.workflow_id content_hash self.notes.confluence_section_hashes with
    | .error failure => .raise (.error failure)
    | .ok true =>
      emit_audit_action ctx inp "confluence_section_dedup_skip"
      let (updated,skipped) ← update_sections page_id jira_issue_link rest
      return (updated,part.section_path :: skipped)
    | .ok false =>
      match ← await (.confluence_update_page page_id part.section_path (with_footer part.content jira_issue_link)
          inp.department_id) with
      | .error _ =>
        record_partial_failure ("confluence_update_page:" ++ part.section_path)
        update_sections page_id jira_issue_link rest
      | .ok _ =>
        note fun notes => { notes with
          confluence_section_hashes := notes.confluence_section_hashes ++ [content_hash] }
        let (updated,skipped) ← update_sections page_id jira_issue_link rest
        return (part.section_path :: updated,skipped)

def update_summary (updated skipped : List String) : String :=
  "\n".intercalate ([" Confluence güncellemesi tamamlandı:"] ++
    (if updated.isEmpty then [] else ["  • Güncellenen bölümler: " ++ ", ".intercalate updated]) ++
    (if skipped.isEmpty then [] else ["  • Atlanan bölümler (içerik aynı): " ++ ", ".intercalate skipped]))

/-- The guards before the sections, and the sections. -/
def update_page (page_id : String) (page_meta : Json) : Body Unit := do
  if is_probe_page (page_meta.get "title") then
    quiet (emit_audit_action ctx inp "confluence_probe_page_skipped")
    quiet (post_jira_comment_best_effort inp
      " Confluence güncellemesi atlandı: hedef sayfa bir doğrulama (probe) artefaktı.")
  else
    let at_ ← quiet now
    let protected_ ← attempted (should_skip_overwrite (page_meta.get "last_editor_account_id")
      (extract_confluence_datetime ctx.py page_meta "last_edit_at") at_)
    if protected_ then
      quiet (emit_audit_action ctx inp "confluence_overwrite_protected")
      quiet (post_jira_comment_best_effort inp
        " Confluence sayfası son 5 dakika içinde başka bir kullanıcı tarafından düzenlendi; güncelleme atlandı.")
    else if (extract_confluence_sections ctx.py page_meta inp).isEmpty then
      quiet (post_jira_comment_best_effort inp "ℹ Confluence güncellemesi atlandı: güncellenecek bölüm bulunamadı.")
    else
      let jira_issue_link ← quiet (resolve_jira_issue_link inp)
      let (updated,skipped) ← quiet (update_sections ctx inp page_id jira_issue_link
        (extract_confluence_sections ctx.py page_meta inp))
      quiet (post_jira_comment_best_effort inp (update_summary updated skipped))
      maybe_execute_llm_output_actions ctx inp

def handle_confluence_doc_update : Body Unit := do
  let _ ← set_assignee inp
  let page_id := orEmpty inp.analysis.target_page_id
  if page_id = "" then
    fail "confluence_page_id_missing"
      (.error ⟨"ApplicationError","confluence_doc_update requires analysis.target_page_id"⟩)
  else
    let page_meta ← critical "confluence_get_page_failed" (.confluence_get_page page_id inp.department_id)
    update_page ctx inp page_id page_meta

/-- `none` for a URL that gives nothing to cite. -/
def firecrawl_scrape_with_grace (url : String) : Quiet Raised (Option (String × ResearchSource)) := do
  match ← await (.firecrawl_scrape url inp.department_id) with
  | .error _ =>
    record_partial_failure ("firecrawl_scrape:" ++ url)
    return none
  | .ok outcome =>
    if extract_firecrawl_kind ctx.py outcome = "egress_blocked" then
      post_jira_comment_best_effort inp
        (" " ++ url ++ " domain'i araştırma için izinli değil; admin'den eklenmesini isteyin.")
      record_partial_failure ("firecrawl_blocked:" ++ url)
      return none
    else if extract_firecrawl_kind ctx.py outcome ≠ "success" then return none
    else
      let at_ ← now
      return some (extract_firecrawl_content outcome,
        { title := orText (extract_firecrawl_title outcome) url, url
          accessed_at := extract_firecrawl_accessed_at ctx.py outcome at_ })

def scrape_all : List String → Quiet Raised (List (String × ResearchSource))
  | [] => return []
  | url :: rest => do
    let outcome ← firecrawl_scrape_with_grace ctx inp url
    let others ← scrape_all rest
    return outcome.toList ++ others

def search_sources : Body (List (String × ResearchSource)) := do
  let search_result ← critical "firecrawl_search_failed" (.firecrawl_search (extract_research_query inp) inp.department_id)
  quiet (scrape_all ctx inp (extract_firecrawl_urls ctx.py search_result))

def no_sources : Quiet Raised Unit := do
  record_partial_failure "research_no_sources"
  post_jira_comment_best_effort inp
    " Araştırma için kullanılabilir bir kaynak bulunamadı; konuyu daraltarak yeniden deneyin."

def handle_research_publish_confluence : Body Unit := do
  let _ ← set_assignee inp
  let jira_issue_link ← quiet (resolve_jira_issue_link inp)
  let found ← search_sources ctx inp
  if found.isEmpty then quiet (no_sources inp)
  else
    let joined_content := strip ("\n\n".intercalate (found.map Prod.fst))
    let body_text := format_research_publish_confluence_body joined_content (found.map Prod.snd)
    let at_ ← quiet now
    let title ← page_title ctx inp (ctx.py.isodate at_)
    publish_page ctx inp title (with_footer body_text jira_issue_link) " Araştırma yayınlandı: `"

/-- The link to the full content, where it was stored. -/
def offload_summary (summary_text : String) (sources : List ResearchSource) : Quiet Raised String := do
  match ← await (.minio_put_research_summary (.obj [("workflow_id",.str ctx.workflow_id),("issue_key",.str inp.issue_key),
      ("department_id",.str inp.department_id),("content",.str summary_text),
      ("sources",.arr (sources.map fun source => .obj [("title",.str source.title),("url",.str source.url),
        ("accessed_at",.str source.accessed_at)]))])) with
  | .ok stored_uri => return orEmpty stored_uri.asStr
  | .error _ =>
    record_partial_failure "research_minio_offload"
    return ""

def summary_comment (found : List (String × ResearchSource)) : Quiet Raised String := do
  let summary_text := strip ("\n\n".intercalate (found.map Prod.fst))
  let (comment_text,overflow) := format_research_summary_jira_comment summary_text (found.map Prod.snd) 500 5
  if overflow then
    let stored_uri ← offload_summary ctx inp summary_text (found.map Prod.snd)
    return if stored_uri = "" then comment_text else comment_text ++ "\n\n Tam içerik: " ++ stored_uri
  else return comment_text

def handle_research_summary_jira : Body Unit := do
  let _ ← set_assignee inp
  let found ← search_sources ctx inp
  if found.isEmpty then quiet (no_sources inp)
  else
    let comment_text ← quiet (summary_comment ctx inp found)
    let _ ← critical "jira_comment_failed" (.jira_add_comment inp.issue_key comment_text inp.department_id)
    maybe_execute_llm_output_actions ctx inp

def progress (completed total : Nat) : String := toString completed ++ "/" ++ toString total

def stop_epic (child_key text : String) : Body Unit := do
  conclude fun verdict => { verdict with failure_reason := some "epic_subtask_failed" }
  quiet (post_jira_comment_best_effort inp text)
  .raise (.epicSubtaskFailed child_key)

def run_subtasks (total : Nat) : List (String × Nat) → Body Unit
  | [] => return ()
  | (child_key,index) :: rest => do
    let id := "multi-step-" ++ inp.issue_key ++ "-" ++ child_key ++ "-" ++ toString index ++ "-" ++ takeChars 8 ctx.run_id
    match ← quiet (await (.AutomationWorkflow id (build_subtask_child_input inp child_key))) with
    | .error _ => stop_epic inp child_key (" Subtask " ++ child_key ++ " başarısız oldu - Epic durduruldu (" ++
        progress index total ++ " tamamlandı, " ++ toString (total - (index + 1)) ++ " atlandı).")
    | .ok child_output =>
      let decision := extract_child_decision ctx.py child_output
      if ["denied","failed","out_of_scope"].contains decision then
        stop_epic inp child_key (" Subtask " ++ child_key ++ " işlenemedi (sonuç: " ++ decision ++
          ") - Epic durduruldu (" ++ progress index total ++ " tamamlandı, " ++ toString (total - (index + 1)) ++
          " atlandı).")
      else
        quiet (post_jira_comment_best_effort inp (" " ++ progress (index + 1) total ++ " subtask tamamlandı (`" ++
          child_key ++ "`)."))
        run_subtasks total rest

def handle_multi_step : Body Unit := do
  let _ ← set_assignee inp
  let children ← critical "epic_children_lookup_failed" (.jira_list_epic_children inp.issue_key inp.department_id)
  let child_items := normalise_epic_children ctx.py children
  if child_items.isEmpty then
    conclude fun verdict => { verdict with failure_reason := some "epic_no_subtasks" }
    quiet (post_jira_comment_best_effort inp
      " Bu Epic için işlenecek subtask bulunamadı. Epic'e subtask ekleyip yorum yazarak yeniden tetikleyin.")
  else
    run_subtasks ctx inp child_items.length child_items.zipIdx
    quiet (post_jira_comment_best_effort inp (" Epic tamamlandı - " ++ progress child_items.length child_items.length ++
      " subtask işlendi."))
    maybe_execute_llm_output_actions ctx inp

/-- The path of the other workflow types: wait for a signal, and end. -/
def wait_for_signal : Body Unit := do
  quiet (maybe_post_iter_warning_banner ctx inp)
  quiet (drain_pending_audits ctx inp)
  if ← quiet (wait fun self => self.closed || self.notes.signal_pending) then
    quiet (note fun notes => { notes with signal_pending := false })
    quiet (maybe_post_iter_warning_banner ctx inp)
    quiet (drain_pending_audits ctx inp)
    let self ← quiet look
    if self.cancel.cancel_requested then .raise .cancelledViaSignal
    else if self.verdict.out_of_scope then .raise .outOfScope
    else return ()
  else conclude fun _ => { out_of_scope := true, failure_reason := some "signal_wait_timeout" }

def dispatch_workflow_type : Spine Unit :=
  match inp.workflow_type with
  | "code_change_with_test" => handle_code_change_common ctx inp true
  | "code_change_commit_only" => handle_code_change_common ctx inp false
  | "pr_review" => body (handle_pr_review ctx inp)
  | "confluence_doc_create" => body (handle_confluence_doc_create ctx inp)
  | "confluence_doc_update" => body (handle_confluence_doc_update ctx inp)
  | "research_publish_confluence" => body (handle_research_publish_confluence ctx inp)
  | "research_summary_jira" => body (handle_research_summary_jira ctx inp)
  | "multi_step" => body (handle_multi_step ctx inp)
  | _ => body (wait_for_signal ctx inp)

end
end Automation.AgentHandlers
