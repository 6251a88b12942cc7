import Automation.Json
import Automation.PyText

/-!
`opencode_generate_code`: the session with the OpenCode sidecar, and how the
files and the diff of a result are read from its answers. The files come from the
message, else from the diff, else from the workspace; the diff text is the body
of the diff response in any case.
-/
namespace Automation.OpenCode
open Automation.PyText

structure CodePlan where
  issue_key : String
  prompt : String
  model : Option String

structure FileChange where
  path : String
  action : String
  content : String
  deriving DecidableEq

/-- `diff_content` is a string, or what the diff response has as its `diff`. -/
structure CodeResult where
  files_changed : List FileChange
  diff_content : Json
  session_id : Json
  files : List FileChange

/-- `json` is `none` where the body is not JSON. -/
structure Response where
  status_code : Int
  text : String
  json : Option Json
  content_type : String

/-- The outside of the activity: the sidecar, the workspace on disk and the
    environment, with `repr` and `json.loads`. -/
structure Sidecar where
  session : Json → Except String Response
  message : Json → Json → Except String Response
  diff : Json → Except String Response
  read_text : String → Option String
  recent : List String
  OPENCODE_MODEL : String
  repr : Json → String
  loads : String → Option Json

section
variable (sidecar : Sidecar)

def pyString (value : Json) : String := value.pyStr sidecar.repr

def safe_relative_path (value : Json) : String :=
  let path := replaceChar '\\' '/' (strip (pyString sidecar (value.orElse (.str ""))))
  if path = "" ∨ hasPrefix path "/" = true ∨ (splitAt '/' path.toList).contains ['.','.'] = true then "" else path

def normalise_action (value : Json) : String :=
  let action := lower (strip (pyString sidecar (value.orElse (.str "modified"))))
  if ["created","create","added","add"].contains action then "create"
  else if ["deleted","delete","remove","removed"].contains action then "delete"
  else "update"

def paths_from_unified_diff (diff_text : String) : List String :=
  let paths := ((splitlines diff_text).filter fun line => hasPrefix line "+++ b/").map fun line =>
    safe_relative_path sidecar (.str (.ofList (line.toList.drop 6)))
  (paths.filter (· ≠ "")).foldl (fun seen path => if seen.contains path then seen else seen ++ [path]) []

def read_workspace_file (rel_path : String) : String :=
  if rel_path = "" then "" else (sidecar.read_text rel_path).getD ""

def modified (path : String) : Json := .obj [("path",.str path),("action",.str "modified")]

def recent_workspace_entries : List Json :=
  (((sidecar.recent.map fun path => safe_relative_path sidecar (.str path)).filter (· ≠ "")).take 50).map modified

def assistant_text (payload : Json) : String :=
  match payload.get "parts" with
  | .arr parts => "\n".intercalate (parts.filterMap fun part =>
      match (part.get "type").asStr, (part.get "text").asStr with
      | some "text", some value => if value = "" then none else some value
      | _, _ => none)
  | _ => ""

def json_candidates (text : String) : List String :=
  let stripped := strip text
  let whole := if stripped = "" then [] else [stripped]
  let chars := text.toList
  match chars.findIdx? (· == '\x7b'), chars.reverse.findIdx? (· == '\x7d') with
  | some start, some back =>
    if start < chars.length - 1 - back then
      whole ++ [.ofList ((chars.take (chars.length - back)).drop start)]
    else whole
  | _, _ => whole

/-- The objects of `files` or `files_changed`, where that is a list. -/
def file_entries (item : Json) : Option (List Json) :=
  match (item.get "files").orElse (item.get "files_changed") with
  | .arr files => some (files.filter (·.isObj))
  | _ => none

def entries_of_blob (parsed : Json) : Option (List Json) :=
  match parsed with
  | .obj fields => file_entries (.obj fields)
  | .arr items => if (items.filter (·.isObj)).isEmpty then none else some (items.filter (·.isObj))
  | _ => none

def files_from_text (text : String) : List Json :=
  ((json_candidates text).findSome? fun blob => (sidecar.loads blob).bind entries_of_blob).getD []

def message_entries (payload : Json) : List Json :=
  if payload.isObj = false then []
  else
    let candidates := payload :: (["result","message","data","output"].map payload.get).filter (·.isObj)
    match candidates.findSome? file_entries with
    | some files => files
    | none => if assistant_text payload = "" then [] else files_from_text sidecar (assistant_text payload)

def model_payload (model : Option String) : Option (String × String) :=
  let value := strip (if model.getD "" = "" then sidecar.OPENCODE_MODEL else model.getD "")
  match value.toList.findIdx? (· == '/') with
  | some at_ =>
    let provider_id := String.ofList (value.toList.take at_)
    let model_id := String.ofList (value.toList.drop (at_ + 1))
    if provider_id = "" ∨ model_id = "" then none else some (provider_id,model_id)
  | none => none

def JSON_CONTRACT : String :=
  "You are a non-interactive code generator. Produce the complete file contents for the requested change and reply " ++
    "with a SINGLE JSON object ONLY - no prose, no explanation, no Markdown fences, no plan. The object must have the " ++
    "exact shape: \x7b\"files\": [\x7b\"path\": \"<repo-relative path>\", \"content\": \"<full file content>\", " ++
    "\"action\": \"create|update|delete\"\x7d]\x7d. Include the entire file content for every create/update entry " ++
    "(never a diff or a placeholder). If nothing should change, reply with \x7b\"files\": []\x7d. Do not attempt to " ++
    "read or edit files on disk."

def wrap_prompt (prompt : String) : String := JSON_CONTRACT ++ "\n\n---\n\n" ++ prompt

def session_request (plan : CodePlan) : Json :=
  .obj ([("title",.str plan.issue_key),
    ("permission",.arr [.obj [("permission",.str "*"),("pattern",.str "*"),("action",.str "allow")]])] ++
    match model_payload sidecar plan.model with
    | some (provider_id,model_id) => [("model",.obj [("id",.str model_id),("providerID",.str provider_id)])]
    | none => [])

def message_request (plan : CodePlan) : Json :=
  .obj ([("parts",.arr [.obj [("type",.str "text"),("text",.str (wrap_prompt plan.prompt))]]),
    ("agent",.str "general")] ++
    match model_payload sidecar plan.model with
    | some (provider_id,model_id) => [("model",.obj [("providerID",.str provider_id),("modelID",.str model_id)])]
    | none => [])

/-- An HTTP answer that the activity accepts. -/
def expect_ok (what : String) (answer : Except String Response) : Except String Response :=
  match answer with
  | .error exc => .error ("HTTP error communicating with OpenCode sidecar: " ++ exc)
  | .ok response => if response.status_code = 200 then .ok response else .error (what ++ ": " ++ response.text)

/-- The entries that iterating `files` of the diff gives; `none` raises. -/
def iterate_files : Json → Option (List Json)
  | .arr items => some (items.filter (·.isObj))
  | .str _ => some []
  | .obj _ => some []
  | _ => none

def raw_entries (message_data : Json) (diff_text : String) (diff_data : Json) : Except String (List Json × Json) :=
  let entries := message_entries sidecar message_data
  if entries.isEmpty = false then .ok (entries,.str diff_text)
  else if diff_data.truthy = false then .ok ([],.str diff_text)
  else
    match diff_data with
    | .arr items => .ok (items.filter (·.isObj),.str diff_text)
    | .obj fields =>
      let files := if (Json.obj fields).has "files" then (Json.obj fields).get "files" else .arr []
      match iterate_files files with
      | some entries =>
        .ok (entries,if (Json.obj fields).has "diff" then (Json.obj fields).get "diff" else .str diff_text)
      | none => .error "object is not iterable"
    | _ => .ok ([],.str diff_text)

/-- The fallbacks for a session without entries: the paths of the diff, then the
    files that were written since. -/
def fallback_entries (entries : List Json) (diff_content : Json) : Except String (List Json) :=
  if entries.isEmpty = false then .ok entries
  else
    match diff_content with
    | .str diff_text =>
      let paths := paths_from_unified_diff sidecar diff_text
      .ok (if paths.isEmpty then recent_workspace_entries sidecar else paths.map modified)
    | _ => .error "object has no attribute 'splitlines'"

def file_change (entry : Json) : Option FileChange :=
  let path := safe_relative_path sidecar (entry.get "path")
  if path = "" then none
  else
    let action := normalise_action sidecar (if entry.has "action" then entry.get "action" else .str "modified")
    let content := pyString sidecar ((entry.get "content").orElse ((entry.get "code").orElse (.str "")))
    some { path, action
           content := if action ≠ "delete" ∧ content = "" then read_workspace_file sidecar path else content }

def code_result (session_id : Json) (entries : List Json) (diff_content : Json) : CodeResult :=
  let files_changed := entries.filterMap (file_change sidecar)
  { files_changed, diff_content, session_id
    files := files_changed.filter fun file => file.action = "delete" ∨ file.content ≠ "" }

def opencode_generate_code (plan : CodePlan) : Except String CodeResult := do
  let session_resp ← expect_ok "Failed to create session" (sidecar.session (session_request sidecar plan))
  let session_id ← match session_resp.json with
    | some session_data => if session_data.has "id" then .ok (session_data.get "id") else .error "'id'"
    | none => .error "Expecting value"
  let message_resp ← expect_ok "Failed to send message" (sidecar.message session_id (message_request sidecar plan))
  let diff_resp ← expect_ok "Failed to retrieve diff" (sidecar.diff session_id)
  let diff_data := if hasPrefix diff_resp.content_type "application/json" then diff_resp.json.getD .null else .null
  let (entries,diff_content) ← raw_entries sidecar (message_resp.json.getD .null) diff_resp.text diff_data
  let entries ← fallback_entries sidecar entries diff_content
  return code_result sidecar session_id entries diff_content

end

def FileChange.toJson (file : FileChange) : Json :=
  .obj [("path",.str file.path),("action",.str file.action),("content",.str file.content)]

/-- The result as the workflow receives it. -/
def CodeResult.toJson (result : CodeResult) : Json :=
  .obj [("files_changed",.arr (result.files_changed.map FileChange.toJson)),("diff_content",result.diff_content),
    ("session_id",result.session_id),("files",.arr (result.files.map FileChange.toJson))]

end Automation.OpenCode
