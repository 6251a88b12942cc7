import Automation.AgentState

/-!
What `AgentRunnerWorkflow` reads out of the replies of its activities, and the
prompts it writes. The replies are plain JSON: a key that is missing, or a reply
of another shape, reads as the default that the source names.
-/
namespace Automation.AgentExtract
open Automation.AgentMessages Automation.AgentState Automation.PyText

/-- `a or b or …` over values. -/
def firstTruthy : List Json → Json
  | [] => .null
  | [last] => last
  | value :: rest => value.orElse (firstTruthy rest)

/-- The first of the keys that holds a non-empty string. -/
def firstText (value : Json) (keys : List String) : Option String :=
  keys.findSome? fun key => (value.get key).asStr.filter (· ≠ "")

section
variable (py : Python)

def pyString (value : Json) : String := value.pyStr py.repr

/-- `str(value) if value is not None else None`. -/
def optionText : Json → Option String
  | .null => none
  | value => some (pyString py value)

def build_code_generation_prompt (inp : AgentRunnerWorkflowInput) : String :=
  "\n".intercalate (["Issue: " ++ inp.issue_key,"Workflow: " ++ inp.workflow_type,
    "Repository: " ++ orText (orEmpty inp.target_repo) (orEmpty inp.analysis.target_repo),
    "Branch: " ++ orText (orEmpty inp.target_branch) (orEmpty inp.analysis.target_branch),
    "Title: " ++ inp.analysis.title,"Task details:",inp.analysis.rationale] ++
    (if orEmpty inp.analysis.execution_command = "" then []
      else ["Test command:",orEmpty inp.analysis.execution_command]) ++
    ["Return JSON with files: [\x7bpath, content, action\x7d], where action is create, update, or delete. " ++
      "Do not omit file contents for create/update."])

def build_code_generation_retry_prompt (inp : AgentRunnerWorkflowInput) : String :=
  build_code_generation_prompt inp ++ "\n\n" ++
    "IMPORTANT: A previous attempt returned no files. You MUST now return at least one file. Do not return an empty " ++
    "list and do not ask for clarification. Infer the most reasonable change from the task details above. For a simple " ++
    "request (for example adding a README, a config file, or a small helper), create the file at a conventional " ++
    "repository-relative path with sensible, self-contained default content derived from the issue title and task " ++
    "details. Provide the full file content for every entry."

def normalise_commit_action (value : Json) : String :=
  let action := lower (strip (pyString py (value.orElse (.str "update"))))
  if ["created","add","added","new"].contains action then "create"
  else if ["modified","modify","changed","change"].contains action then "update"
  else if ["deleted","remove","removed"].contains action then "delete"
  else if ["create","update","delete"].contains action then action
  else "update"

/-- `raw.get(key, default)`. -/
def getOr (raw : Json) (key : String) (default : Json) : Json := if raw.has key then raw.get key else default

def commit_file (raw : Json) : Option CommitFile :=
  let path := replaceChar '\\' '/' (strip (pyString py
    (firstTruthy [raw.get "path",raw.get "file",raw.get "filename",.str ""])))
  if raw.isObj = false ∨ path = "" ∨ hasPrefix path "/" = true ∨ (splitAt '/' path.toList).contains ['.','.'] = true then
    none
  else
    let action := normalise_commit_action py (raw.get "action")
    let content := textOf py (getOr raw "content" (getOr raw "code" (.str "")))
    if action ≠ "delete" ∧ content = "" then none else some { path, content, action }

def extract_commit_files (code_output : Json) : List CommitFile :=
  match getOr code_output "files" (getOr code_output "files_changed" (.arr [])) with
  | .arr raw_files => raw_files.filterMap (commit_file py)
  | _ => []

def file_text (file : CommitFile) : String := file.action ++ " " ++ file.path ++ "\n" ++ file.content

/-- The text that is scanned: the diff of the result if it has one, else its
    explanation and its files. -/
def extract_code_diff_text (code_output : Json) (files : List CommitFile) : String :=
  match ["diff_content","diff","patch"].find? fun key => (code_output.get key).truthy with
  | some key => pyString py (code_output.get key)
  | none =>
    let explanation := pyString py (getOr code_output "explanation" (.str ""))
    let summary := "\n".intercalate (files.map file_text)
    "\n".intercalate ([explanation,summary].filter (· ≠ ""))

def extract_precommit_decision (scan_result : Json) : String := pyString py (getOr scan_result "decision" (.str "pass"))

def extract_commit_hash (commit_info : Json) : Option String := optionText py (commit_info.get "commit_hash")

def extract_pr_url (pr_info : Json) : Option String := optionText py (pr_info.get "url")

/-- `none` goes on with the next key; a digit that is no decimal one is not a number. -/
def pr_id_value : Json → Except Failure (Option Int)
  | .int n => .ok (some n)
  | .str value =>
    if value = "" ∨ value.toList.all isDigitChar = false then .ok none
    else if value.toList.all isDecimal then .ok (some (natOfDigits value.toList))
    else .error ⟨"ValueError","invalid literal for int() with base 10: " ++ py.repr (.str value)⟩
  | _ => .ok none

def extract_pr_id_from_info (pr_info : Json) : Except Failure (Option Int) := do
  match ← pr_id_value py (pr_info.get "pr_id") with
  | some n => return some n
  | none => pr_id_value py (pr_info.get "id")

def extract_diff_text (diff : Json) : String := pyString py (getOr diff "diff_content" (.str ""))

def extract_findings (review : Json) : List Json :=
  match review.get "findings" with
  | .arr findings => findings.filter (·.isObj)
  | _ => []

/-- A value as a member of a set of hashes; a list or a dict is not hashable. -/
def hash_key : Json → Except Failure String
  | .arr _ => .error unhashable
  | .obj _ => .error unhashable
  | .str value => .ok ("s" ++ value)
  | value => .ok ("n" ++ pyString py value)

/-- The findings whose hash is new. -/
def dedup_findings (previous_hashes : List String) : List Json → Except Failure (List Json)
  | [] => .ok []
  | finding :: rest => do
    if (finding.get "hash").truthy = false then dedup_findings previous_hashes rest
    else
      let key ← hash_key py (finding.get "hash")
      let others ← dedup_findings previous_hashes rest
      return if previous_hashes.contains key then others else finding :: others

def extract_pr_id (inp : AgentRunnerWorkflowInput) : Int :=
  natOfDigits (((inp.analysis.rationale.toList.dropWhile fun c => !isDecimal c).takeWhile isDecimal).take 9)

def extract_explain_answer (response : Json) : String :=
  if response.isObj then
    pyString py (firstTruthy [response.get "answer",response.get "text",response.get "content",.str ""])
  else ""

def issue_link : Json → Option String
  | .str link => if hasPrefix link "https://" then some link else none
  | link =>
    match (link.get "url").orElse (link.get "link") with
    | .str value => if hasPrefix value "https://" then some value else none
    | _ => none

/-- An aware time; `Z` is read as `+00:00`. -/
def extract_confluence_datetime (page_meta : Json) (field : String) : Option Nat :=
  match page_meta.get field with
  | .str value => py.fromisoformat (.ofList (value.toList.flatMap fun c => if c = 'Z' then "+00:00".toList else [c]))
  | _ => none

structure Section where
  section_path : String
  content : String
  content_hash : String

def section_of (item : Json) : Option Section :=
  if item.isObj then
    let section_path := pyString py (firstTruthy [item.get "section_path",item.get "title",.str ""])
    if section_path = "" then none
    else some { section_path, content := pyString py (firstTruthy [item.get "content",item.get "body",.str ""])
                content_hash := pyString py ((item.get "content_hash").orElse (.str "")) }
  else none

def extract_confluence_sections (page_meta : Json) (inp : AgentRunnerWorkflowInput) : List Section :=
  match page_meta.get "sections" with
  | .arr (item :: items) => (item :: items).filterMap (section_of py)
  | _ =>
    if inp.analysis.rationale = "" then []
    else [{ section_path := orText inp.analysis.title "Section", content := inp.analysis.rationale, content_hash := "" }]

def hash_section (section_path content : String) : String := py.sha256 (section_path ++ "\x00" ++ content)

def should_skip_section_update (workflow_id content_hash : String) (hashes : List String) : Except Failure Bool :=
  if workflow_id = "" then .error ⟨"ValueError","workflow_id must not be empty"⟩
  else if content_hash = "" then .error ⟨"ValueError","content_hash must not be empty"⟩
  else .ok (hashes.contains content_hash)

def extract_doc_body (response : Json) : String :=
  if response.isObj then (firstText response ["body","content","text","answer"]).getD "" else textOf py response

def extract_confluence_page_url (page_info : Json) : Option String :=
  ((page_info.get "url").orElse (page_info.get "link")).asStr

def extract_confluence_page_id (page_info : Json) : Option String :=
  optionText py ((page_info.get "page_id").orElse (page_info.get "id"))

def extract_research_query (inp : AgentRunnerWorkflowInput) : String :=
  let title := strip inp.analysis.title
  let rationale := strip inp.analysis.rationale
  if title ≠ "" then title else if rationale ≠ "" then takeChars 500 rationale else inp.issue_key

def candidate_url : Json → String
  | .str candidate => strip candidate
  | candidate =>
    let raw := (candidate.get "url").orElse (candidate.get "href")
    if raw.truthy then strip (pyString py raw) else ""

def isList : Json → Bool
  | .arr _ => true
  | _ => false

def extract_firecrawl_urls (search_result : Json) : List String :=
  let body := ((["results","urls","items"].map search_result.get).find? isList).getD search_result
  let candidates := match body with
    | .arr entries => entries
    | .str value => [.str value]
    | _ => []
  ((candidates.map (candidate_url py)).filter (· ≠ "")).foldl
    (fun ordered value => if ordered.contains value then ordered else ordered ++ [value]) []

def extract_firecrawl_kind (outcome : Json) : String := pyString py ((outcome.get "kind").orElse (.str "success"))

def firecrawl_body (outcome : Json) : Json := getOr outcome "body" (outcome.get "content")

def extract_firecrawl_content (outcome : Json) : String :=
  match firecrawl_body outcome with
  | .str body => body
  | body => (firstText body ["markdown","content","text","html"]).getD ""

def extract_firecrawl_title (outcome : Json) : String :=
  (firstText (firecrawl_body outcome) ["title","page_title","name"]).getD ""

def extract_firecrawl_accessed_at (outcome : Json) (now : Nat) : String :=
  let body := firecrawl_body outcome
  match (body.get "accessed_at").orElse (body.get "date") with
  | .str value => orText (strip value) (py.isodate now)
  | _ => py.isodate now

def normalise_epic_children (children : Json) : List String :=
  match children with
  | .arr items => (items.map fun child => strip (pyString py ((child.get "key").orElse (.str "")))).filter (· ≠ "")
  | _ => []

def extract_child_decision (child_output : Json) : String :=
  lower (strip (pyString py ((child_output.get "decision").orElse (.str "dispatched"))))

def build_subtask_child_input (inp : AgentRunnerWorkflowInput) (child_key : String) : Json :=
  .obj [("issue_key",.str child_key),("department_id",.str inp.department_id),
    ("available_capabilities",.arr (inp.available_capabilities.map .str)),
    ("available_repos",.arr (inp.available_repos.map .str)),("available_spaces",.arr (inp.available_spaces.map .str)),
    ("default_language",.str inp.default_language),("trigger_event",.str "jira:issue_assigned"),("iteration",.int 1),
    ("trace_id",.str inp.trace_id)]

end
end Automation.AgentExtract
