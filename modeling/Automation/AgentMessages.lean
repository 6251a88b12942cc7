import Automation.Json
import Automation.PyText
import Automation.Regex

/-!
The messages of `AgentRunnerWorkflow` and the pure functions it shares with the
other workers: the iteration counters, the rules for branches, the texts of
commits, pages and comments, and the partition of output actions.
-/
namespace Automation.AgentMessages
open Automation.PyText Automation.Regex

/-- Python's functions on values that the model leaves open. Times are microseconds. -/
structure Python where
  repr : Json → String
  dumps : List (String × Json) → String
  sha256 : String → String
  isodate : Nat → String
  fromisoformat : String → Option Nat

/-- An exception that an activity or a library function raised. -/
structure Failure where
  type_name : String
  message : String
  deriving DecidableEq

inductive OutputActionKind where
  | jira_comment
  | jira_attachment
  | bitbucket_commit
  | bitbucket_create_pr
  | confluence_create_page
  | confluence_update_page
  | jira_transition
  | slack_notify
  | email_notify
  deriving DecidableEq

def OutputActionKind.text : OutputActionKind → String
  | .jira_comment => "jira_comment"
  | .jira_attachment => "jira_attachment"
  | .bitbucket_commit => "bitbucket_commit"
  | .bitbucket_create_pr => "bitbucket_create_pr"
  | .confluence_create_page => "confluence_create_page"
  | .confluence_update_page => "confluence_update_page"
  | .jira_transition => "jira_transition"
  | .slack_notify => "slack_notify"
  | .email_notify => "email_notify"

/-- Membership in `CRITICAL_OUTPUT_ACTION_KINDS`; the other kinds are best effort. -/
def OutputActionKind.critical : OutputActionKind → Bool
  | .slack_notify => false
  | .email_notify => false
  | .jira_attachment => false
  | _ => true

structure OutputAction where
  kind : OutputActionKind
  payload : List (String × Json)

structure LlmAnalysisResult where
  target_repo : Option String
  target_branch : Option String
  target_space : Option String
  target_page_id : Option String
  title : String
  rationale : String
  output_actions : List OutputAction
  needs_docker : Bool
  execution_command : Option String

structure AgentRunnerWorkflowInput where
  issue_key : String
  department_id : String
  workflow_type : String
  analysis : LlmAnalysisResult
  target_repo : Option String
  target_branch : Option String
  iteration : Int
  max_iter : Int
  default_language : String
  trace_id : String
  available_capabilities : List String
  available_repos : List String
  available_spaces : List String

inductive AgentRunnerStatus where
  | completed
  | completed_with_partial_failure
  | needs_info
  | out_of_scope
  | cancelled
  | failed
  deriving DecidableEq

structure AgentRunnerWorkflowOutput where
  status : AgentRunnerStatus
  iter_count : Int
  summary : String
  partial_failure_actions : List String
  failure_reason : Option String
  confluence_page_id : Option String
  deriving DecidableEq

/-- `value or ""` for an optional string. -/
def orEmpty (value : Option String) : String := value.getD ""

/-- `first or second` for strings. -/
def orText (first second : String) : String := if first = "" then second else first

structure ExplainCacheEntry where
  answer : String
  issued_at : Nat

structure IterationState where
  iter_count : Int
  last_fix_trigger_at : Option Nat
  test_results_by_diff_hash : List (String × String)
  explain_cache : List (String × ExplainCacheEntry)
  needs_info_streak : Nat

/-- `none` advances; otherwise the reason why not. -/
def should_advance_iter (state : IterationState) (max_iter : Int) : Option String :=
  if max_iter ≤ 0 then some "non_positive_max_iter"
  else if max_iter ≤ state.iter_count then some "max_iter_reached"
  else none

def FIX_DEBOUNCE_WINDOW : Int := 60000000
def EXPLAIN_CACHE_TTL : Int := 300000000
def NEEDS_INFO_MAX_STREAK : Nat := 3

def is_fix_debounced (state : IterationState) (now : Nat) : Bool :=
  match state.last_fix_trigger_at with
  | none => false
  | some last => (now : Int) - last < FIX_DEBOUNCE_WINDOW

def fix_should_skip_retest (state : IterationState) (current_diff_hash : String) : Bool :=
  current_diff_hash ≠ "" ∧ (state.test_results_by_diff_hash.lookup current_diff_hash).isSome = true

def explain_should_skip_llm (state : IterationState) (pr_diff_hash : String) (now : Nat) : Bool :=
  match state.explain_cache.lookup pr_diff_hash with
  | some entry => pr_diff_hash ≠ "" ∧ (now : Int) - entry.issued_at < EXPLAIN_CACHE_TTL
  | none => false

def needs_info_should_terminate (state : IterationState) : Bool := NEEDS_INFO_MAX_STREAK ≤ state.needs_info_streak

def state_increment_iter (state : IterationState) : IterationState :=
  { state with iter_count := state.iter_count + 1 }

def state_record_fix_trigger (now : Nat) (state : IterationState) : IterationState :=
  { state with last_fix_trigger_at := some now }

def state_record_explain_answer (pr_diff_hash answer : String) (now : Nat) (state : IterationState) : IterationState :=
  { state with explain_cache := (pr_diff_hash,⟨answer,now⟩) :: state.explain_cache }

def state_increment_needs_info (state : IterationState) : IterationState :=
  { state with needs_info_streak := state.needs_info_streak + 1 }

def state_reset_needs_info (state : IterationState) : IterationState := { state with needs_info_streak := 0 }

def state_record_test_result (diff_hash status : String) (state : IterationState) : IterationState :=
  if diff_hash = "" then state
  else { state with test_results_by_diff_hash := (diff_hash,status) :: state.test_results_by_diff_hash }

/-- What a rule says of a workflow type on a branch under its prefix. -/
structure BranchPatternRule where
  folder : String
  allows : String → Bool
  reason : String

/-- The globs are `hotfix/*` and `release/*`, and `*` also matches a slash. -/
def DEFAULT_BRANCH_PATTERN_RULES : List BranchPatternRule :=
  [{ folder := "hotfix/", allows := fun wf_type => wf_type ≠ "code_change_commit_only", reason := "hotfix_requires_pr" },
    { folder := "release/", allows := fun wf_type => wf_type = "pr_review" ∨ wf_type = "confluence_doc_update"
      reason := "release_branch_restricted" }]

/-- The reason of the first matching rule, if it denies the workflow type. -/
def route_by_branch_pattern (branch_name wf_type : String) (rules : List BranchPatternRule) : Option String :=
  match rules.find? fun rule => hasPrefix branch_name rule.folder with
  | some rule => if rule.allows wf_type then none else some rule.reason
  | none => none

def isUpperAscii (c : Char) : Bool := 'A' ≤ c && c ≤ 'Z'

/-- `^[A-Z][A-Z0-9_]+-[1-9][0-9]*$`. -/
def ISSUE_KEY_RE : Pattern :=
  concat [.one isUpperAscii,plus (.one fun c => isUpperAscii c || c.isDigit || c == '_'),.one (· == '-'),
    .one (fun c => c.isDigit && c != '0'),.star (.one Char.isDigit)]

/-- `^[A-Za-z0-9._%+-]+@[A-Za-z0-9.-]+\.[A-Za-z]\x7b2,\x7d$`. -/
def BOT_EMAIL_RE : Pattern :=
  concat [plus (.one fun c => c.isAlphanum || ['.','_','%','+','-'].contains c),.one (· == '@'),
    plus (.one fun c => c.isAlphanum || c == '.' || c == '-'),.one (· == '.'),.one Char.isAlpha,plus (.one Char.isAlpha)]

section
variable (py : Python)

/-- `f"{text!r}"`. -/
def quoted (text : String) : String := py.repr (.str text)

def validate_issue_key (issue_key : String) : Except Failure Unit :=
  if matchLine ISSUE_KEY_RE issue_key.toList then .ok ()
  else .error ⟨"InvalidIssueKeyError","Invalid issue_key " ++ quoted py issue_key ++
    ": must match ^[A-Z][A-Z0-9_]+-[1-9][0-9]*$"⟩

def validate_iteration (iteration : Int) : Except Failure Unit :=
  if 1 ≤ iteration then .ok ()
  else .error ⟨"InvalidIterationError","Invalid iteration " ++ toString iteration ++ ": must be a positive int (>= 1)"⟩

def validate_bot_email (bot_email : String) : Except Failure Unit :=
  if matchLine BOT_EMAIL_RE bot_email.toList then .ok ()
  else .error ⟨"InvalidBotEmailError","Invalid bot_email " ++ quoted py bot_email ++
    ": must match ^[A-Za-z0-9._%+-]+@[A-Za-z0-9.-]+\\.[A-Za-z]\x7b2,\x7d$"⟩

/-- The workflow passes no existing branches. -/
def compute_branch_name (issue_key : String) (iteration : Int) : Except Failure String := do
  validate_issue_key py issue_key
  validate_iteration iteration
  if iteration = 1 then return "ai/" ++ issue_key
  return "ai/" ++ issue_key ++ "-iter" ++ toString iteration

def format_commit_message (message issue_key : String) (iteration : Int) (bot_email : String) : Except Failure String := do
  validate_issue_key py issue_key
  validate_iteration iteration
  validate_bot_email py bot_email
  return "[bot] " ++ rstrip message ++ "\n\nCo-authored-by: ai-bot <" ++ bot_email ++ ">"

/-- `[\x00-\x1f\x7f<>&\"]`. -/
def isDisallowed (c : Char) : Bool := c.toNat < 0x20 || c.toNat == 0x7f || ['<','>','&','"'].contains c

def invalid_topic (topic reason : String) : Failure :=
  ⟨"InvalidTopicError","Invalid topic " ++ quoted py topic ++ ": " ++ reason⟩

def format_page_title (topic formatted_date : String) : Except Failure String :=
  let cleaned := strip topic
  let title := cleaned ++ " - " ++ formatted_date
  if cleaned = "" then .error (invalid_topic py topic "topic is empty after stripping whitespace")
  else if cleaned.toList.any isDisallowed then
    .error (invalid_topic py topic ("topic contains control or XML-reserved characters " ++
      "(C0 controls, '<', '>', '&', '\"')"))
  else if 255 < title.length then
    .error (invalid_topic py topic ("composed title length " ++ toString title.length ++ " exceeds limit 255"))
  else .ok title

end

/-- The link regex, for a text without white space:
    `https://host(:port)?(/path)?/browse/KEY-n([/?#]rest)?`. -/
def JIRA_ISSUE_LINK_RE : Pattern :=
  concat [literal "https://".toList,plus (.one fun c => c.isAlphanum || c == '.' || c == '-'),
    opt (.seq (.one (· == ':')) (plus (.one isDecimal))),opt (.seq (.one (· == '/')) (.star (.one fun c => !isSpace c))),
    literal "/browse/".toList,.one isUpperAscii,plus (.one fun c => isUpperAscii c || c.isDigit || c == '_'),
    .one (· == '-'),plus (.one isDecimal),
    opt (.seq (.one fun c => ['/','?','#'].contains c) (.star (.one fun c => !isSpace c)))]

/-- `none` where the link is rejected; the caller then writes no footer. -/
def compute_provenance_footer (jira_issue_link : String) : Option String :=
  let cleaned := strip jira_issue_link
  if cleaned = "" ∨ cleaned.toList.any (fun c => isSpace c || isDisallowed c) = true ∨
      matchLine JIRA_ISSUE_LINK_RE cleaned.toList = false then none
  else some ("<details>\n<summary> AI provenance</summary>\n\n>  Bu sayfa AI asistanı yardımıyla yazılmıştır. Kaynak: " ++
    cleaned ++ "\n\n</details>\n")

def with_footer (body : String) (jira_issue_link : Option String) : String :=
  match jira_issue_link.bind compute_provenance_footer with
  | some footer => body ++ "\n\n" ++ footer
  | none => body

def OVERWRITE_FRESHNESS : Int := 300000000

def unhashable : Failure := ⟨"TypeError","unhashable type"⟩

/-- The workflow knows no account of the bot, so the editor is only looked up in
    an empty set. -/
def should_skip_overwrite (last_editor : Json) (last_edit_at : Option Nat) (now : Nat) : Except Failure Bool :=
  match last_editor, last_edit_at with
  | .null, _ => .ok false
  | _, none => .ok false
  | .arr _, _ => .error unhashable
  | .obj _, _ => .error unhashable
  | _, some edited => .ok ((now : Int) - edited < OVERWRITE_FRESHNESS ∧ 0 ≤ (now : Int) - edited)

def is_probe_page (page_title : Json) : Bool :=
  match page_title with
  | .str title => hasPrefix title "_AI_PROBE_"
  | _ => false

structure ApplyResult where
  successful_critical : List String
  failed_critical : List (String × String)
  successful_best_effort : List String
  failed_best_effort : List (String × String)

def ApplyResult.empty : ApplyResult := ⟨[],[],[],[]⟩

def ApplyResult.extend (log result : ApplyResult) : ApplyResult where
  successful_critical := log.successful_critical ++ result.successful_critical
  failed_critical := log.failed_critical ++ result.failed_critical
  successful_best_effort := log.successful_best_effort ++ result.successful_best_effort
  failed_best_effort := log.failed_best_effort ++ result.failed_best_effort

def format_final_jira_comment (critical_done : List String) (best_effort_failed : List (String × String)) : String :=
  let critical_filtered := critical_done.filter (· ≠ "")
  let failed_filtered := best_effort_failed.filter (·.1 ≠ "")
  let done := if critical_filtered.isEmpty then []
    else ["✅ Tamamlanan kritik adımlar: " ++ ", ".intercalate critical_filtered]
  let failed := if failed_filtered.isEmpty then []
    else ["⚠️ Başarısız yan-aksiyonlar: " ++
      ", ".intercalate (failed_filtered.map fun item => item.1 ++ " (" ++ item.2 ++ ")")]
  "\n".intercalate (done ++ failed)

def MAX_OUTPUT_BYTES : Nat := 1024 * 1024

structure ResearchSource where
  title : String
  url : String
  accessed_at : String

def source_line (numbered : ResearchSource × Nat) : Option String :=
  let (source,index) := numbered
  let url := strip source.url
  if url = "" then none
  else
    let accessed := strip source.accessed_at
    some (toString (index + 1) ++ ". " ++ orText (strip source.title) url ++ " - " ++ url ++
      if accessed = "" then "" else " - erişim tarihi " ++ accessed)

def format_research_publish_confluence_body (content : String) (sources : List ResearchSource) : String :=
  let rendered_sources := sources.zipIdx.filterMap source_line
  if rendered_sources.isEmpty then rstrip content
  else rstrip content ++ "\n\n## Kaynaklar\n\n" ++ "\n".intercalate rendered_sources

/-- The comment, and whether the full content goes to the object store. -/
def format_research_summary_jira_comment (summary : String) (sources : List ResearchSource)
    (max_words max_sources : Nat) : String × Bool :=
  let all_words := words (strip summary)
  let truncated_summary := " ".intercalate (all_words.take max_words)
  let lines := sources.zipIdx.filterMap source_line
  let rendered_sources := lines.take max_sources
  if truncated_summary = "" ∧ lines.isEmpty = true then (" Araştırma sonucu boş döndü.",false)
  else
    let has_overflow := max_words < all_words.length ∨ max_sources < lines.length
    let parts := [" Araştırma özeti"] ++ (if truncated_summary = "" then [] else ["",truncated_summary]) ++
      (if rendered_sources.isEmpty then [] else ["","## Kaynaklar",""] ++ rendered_sources) ++
      (if has_overflow then ["","ℹ Tam içerik uzun olduğu için MinIO'ya yazıldı; aşağıdaki bağlantıdan inceleyebilirsiniz."]
      else [])
    (rstrip ("\n".intercalate parts),has_overflow)

end Automation.AgentMessages
