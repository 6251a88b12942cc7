import Automation.FrontMatter

/-!
The overrides that a description gives in its front matter: the fields of the
`ai-bot` mapping, each with its own validation, over whatever tree the YAML
reader returns.

Several keys can name one field: keys that Jira's markup has mangled are
restored, a command has five names, the output two. The parser reads one of
them for each field, and says nothing of the others. Every value is accounted for
exactly if no value is hidden by another one (`frontmatter_kept_iff`).
-/
namespace Automation.DescriptionParser
open Automation.PyText

/-- A key of a mapping: a string, or another hashable value. -/
inductive Key where
  | str (s : String)
  | other (id : Nat)
  deriving DecidableEq

/-- What `yaml.safe_load` returns: `other` is a value of another type, such as a date or bytes. -/
inductive Tree where
  | none
  | bool (b : Bool)
  | int (n : Int)
  | float (text : String)
  | str (s : String)
  | list (items : List Tree)
  | dict (items : List (Key × Tree))
  | other (type_name : String) (id : Nat)

abbrev Mapping := List (Key × Tree)

/-- `type(value).__name__`. -/
def Tree.type_name : Tree → String
  | .none => "NoneType"
  | .bool _ => "bool"
  | .int _ => "int"
  | .float _ => "float"
  | .str _ => "str"
  | .list _ => "list"
  | .dict _ => "dict"
  | .other type_name _ => type_name

def Mapping.get? (m : Mapping) (name : String) : Option Tree := m.lookup (.str name)

/-- `mapping.get(name)`. -/
def Mapping.get (m : Mapping) (name : String) : Tree := (m.get? name).getD .none

/-- `mapping[key] = value`. -/
def Mapping.put (m : Mapping) (key : Key) (value : Tree) : Mapping :=
  if (m.lookup key).isSome then m.map fun item => if item.1 = key then (key,value) else item else m ++ [(key,value)]

/-! ### Vocabularies -/

def VALID_WORKFLOW_TYPES : List String :=
  ["code_change_with_test","code_change_commit_only","pr_review","remote_ssh_test_only","script_execute",
    "confluence_doc_create","confluence_doc_update","research_publish_confluence","research_summary_jira","research_basic",
    "research_with_web","multi_step","noop_test"]

/-- `WORKFLOW_TYPE_ALIASES.get(name,name)`. -/
def WORKFLOW_TYPE_ALIASES (name : String) : String :=
  match name with
  | "research" => "research_basic"
  | "research_web" => "research_with_web"
  | "doc_generation" => "confluence_doc_create"
  | "po_review_request" => "pr_review"
  | "test" => "remote_ssh_test_only"
  | other => other

def VALID_CLEANUP_POLICIES : List String := ["on_success","always","never"]

def TIMEOUT_SECONDS_MIN : Int := 60

def TIMEOUT_SECONDS_MAX : Int := 7200

/-- `_VALID_OUTPUT_TYPES`. -/
def VALID_OUTPUT_TYPES : List String :=
  ["jira_comment","jira_attachment","bitbucket_commit","bitbucket_create_pr","confluence_create_page",
    "confluence_update_page","jira_transition"]

/-- `_OUTPUT_TYPE_ALIASES.get(name,name)`. -/
def OUTPUT_TYPE_ALIASES (name : String) : String :=
  match name with
  | "bitbucket_put_file" => "bitbucket_commit"
  | "bitbucket_pr" => "bitbucket_create_pr"
  | "confluence_page" => "confluence_create_page"
  | other => other

/-- `_COMMAND_FIELDS`. -/
def COMMAND_FIELDS : List String := ["execution_command","test_command","command","script","commands"]

def COMMAND_LENGTH_MAX : Nat := 8000

/-- `_IDENTIFIER_PARAM_KEYS`. -/
def IDENTIFIER_PARAM_KEYS : List String :=
  ["project_key","repo_slug","workspace","space_key","branch","source_branch","target_branch","from_branch","to_branch"]

/-- `f"{sorted(names)}"` for names without quotes, given in their order. -/
def listed (names : List String) : String :=
  "[" ++ String.intercalate ", " (names.map fun name => "'" ++ name ++ "'") ++ "]"

def sorted_workflow_types : String :=
  listed ["code_change_commit_only","code_change_with_test","confluence_doc_create","confluence_doc_update","multi_step",
    "noop_test","pr_review","remote_ssh_test_only","research_basic","research_publish_confluence","research_summary_jira",
    "research_with_web","script_execute"]

def sorted_output_types : String :=
  listed ["bitbucket_commit","bitbucket_create_pr","bitbucket_pr","bitbucket_put_file","confluence_create_page",
    "confluence_page","confluence_update_page","jira_attachment","jira_comment","jira_transition"]

/-! ### Jira's markup -/

/-- `re.sub(r"(?<=[A-Za-z0-9])\*(?=[A-Za-z0-9])","_",…)`, after the character `previous`. -/
def restore_from : Option Char → List Char → List Char
  | _, [] => []
  | previous, c :: cs =>
    (if c = '*' ∧ previous.any Char.isAlphanum ∧ cs.head?.any Char.isAlphanum then '_' else c) :: restore_from (some c) cs

/-- `_restore_jira_identifier_markup`. -/
def restore_jira_identifier_markup (value : String) : String := .ofList (restore_from none value.toList)

/-- `_JIRA_IDENTIFIER_VALUE_RE.fullmatch(value)`. -/
def looks_like_identifier (value : String) : Bool :=
  match value.toList with
  | [] => false
  | c :: cs => c.isAlphanum && cs.all fun d => d.isAlphanum || d ∈ ['*','.','_','/','-']

/-- `_restore_jira_identifier_value`. -/
def restore_jira_identifier_value (value : String) : String :=
  if !value.toList.contains '*' || !looks_like_identifier value then value else restore_jira_identifier_markup value

def Key.restored : Key → Key
  | .str s => .str (restore_jira_identifier_markup s)
  | .other id => .other id

mutual
/-- `_normalise_mapping_keys`; where two keys are restored to one, the later value stays. -/
def normalise_mapping_keys : Tree → Tree
  | .dict items => .dict (normalise_items [] items)
  | .list items => .list (normalise_list items)
  | value => value

/-- The items of a dict, put after those of `done`. -/
def normalise_items (done : List (Key × Tree)) : List (Key × Tree) → List (Key × Tree)
  | [] => done
  | (key,item) :: rest => normalise_items (Mapping.put done key.restored (normalise_mapping_keys item)) rest

def normalise_list : List Tree → List Tree
  | [] => []
  | item :: rest => normalise_mapping_keys item :: normalise_list rest
end

/-- `_normalise_identifier_params`. -/
def normalise_identifier_params (params : Mapping) : Mapping :=
  params.map fun item =>
    match item with
    | (.str key,.str value) => if key ∈ IDENTIFIER_PARAM_KEYS then (.str key,.str (restore_jira_identifier_value value)) else item
    | _ => item

/-! ### Coercions

The pair of a coerced value and an error is an error, or a value that is `none`
where the field was omitted. -/

abbrev Coerced (α : Type) := Except String (Option α)

def Coerced.value {α : Type} : Coerced α → Option α
  | .ok value => value
  | .error _ => none

def Coerced.errors {α : Type} : Coerced α → List String
  | .ok _ => []
  | .error err => [err]

/-- `_coerce_str`; no caller allows empty strings. -/
def coerce_str (value : Tree) (field_name : String) : Coerced String :=
  match value with
  | .none => .ok none
  | .str s =>
    let stripped := strip s
    if stripped = "" then .error (field_name ++ ": empty string is not allowed")
    else if field_name ∈ ["repo","branch"] then .ok (some (restore_jira_identifier_value stripped))
    else .ok (some stripped)
  | value => .error (field_name ++ ": expected string, got " ++ value.type_name)

/-- `_coerce_bool`. -/
def coerce_bool (value : Tree) (field_name : String) : Coerced Bool :=
  match value with
  | .none => .ok none
  | .bool b => .ok (some b)
  | value => .error (field_name ++ ": expected boolean, got " ++ value.type_name)

/-- How Python writes a string in a message, and the limit of `str(int)`. -/
structure Python where
  repr : String → String

section
variable (py : Python)

/-- `_coerce_workflow_type`. -/
def coerce_workflow_type (value : Tree) : Coerced String :=
  match coerce_str value "workflow_type" with
  | .error err => .error err
  | .ok none => .ok none
  | .ok (some coerced) =>
    let coerced := WORKFLOW_TYPE_ALIASES (restore_jira_identifier_markup coerced)
    if coerced ∈ VALID_WORKFLOW_TYPES then .ok (some coerced)
    else .error ("workflow_type" ++ ": " ++ py.repr coerced ++ " is not a valid workflow_type (allowed: " ++
      sorted_workflow_types ++ ")")

/-- `_coerce_cleanup`. -/
def coerce_cleanup (value : Tree) : Coerced String :=
  match coerce_str value "cleanup" with
  | .error err => .error err
  | .ok none => .ok none
  | .ok (some coerced) =>
    if coerced ∈ VALID_CLEANUP_POLICIES then .ok (some coerced)
    else .error ("cleanup" ++ ": " ++ py.repr coerced ++ " is not valid (allowed: " ++
      listed ["always","never","on_success"] ++ ")")

end

/-- The `ValueError` of `str` for an integer of more than 4300 digits. -/
inductive Raised where
  | ValueError

/-- `str(n)`. -/
def str_int (n : Int) : Except Raised String :=
  if (Nat.toDigits 10 n.natAbs).length ≤ 4300 then .ok (toString n) else .error .ValueError

/-- `_coerce_timeout_seconds`. -/
def coerce_timeout_seconds (value : Tree) : Except Raised (Coerced Int) :=
  match value with
  | .none => .ok (.ok none)
  | .int n =>
    if n < TIMEOUT_SECONDS_MIN ∨ n > TIMEOUT_SECONDS_MAX then
      match str_int n with
      | .error raised => .error raised
      | .ok text => .ok (.error ("timeout_seconds" ++ ": " ++ text ++ " out of range [60, 7200]"))
    else .ok (.ok (some n))
  | value => .ok (.error ("timeout_seconds" ++ ": expected integer, got " ++ value.type_name))

def command_parts (field_name : String) : List (Tree × Nat) → Except String (List String)
  | [] => .ok []
  | (.str item,index) :: rest =>
    let part := strip item
    if part = "" then .error (field_name ++ "[" ++ toString index ++ "]: empty string is not allowed")
    else (command_parts field_name rest).map fun parts => part :: parts
  | (item,index) :: _ => .error (field_name ++ "[" ++ toString index ++ "]: expected string, got " ++ item.type_name)

/-- The text of a command, before its characters and its length are checked. -/
def command_text (value : Tree) (field_name : String) : Coerced String :=
  match value with
  | .none => .ok none
  | .str s =>
    let command := strip s
    if command = "" then .error (field_name ++ ": empty string is not allowed") else .ok (some command)
  | .list items =>
    match command_parts field_name items.zipIdx with
    | .error err => .error err
    | .ok parts =>
      let command := String.intercalate " && " parts
      if command = "" then .error (field_name ++ ": empty list is not allowed") else .ok (some command)
  | value => .error (field_name ++ ": expected string or list, got " ++ value.type_name)

/-- `_coerce_command`. -/
def coerce_command (value : Tree) (field_name : String) : Coerced String :=
  match command_text value field_name with
  | .error err => .error err
  | .ok none => .ok none
  | .ok (some command) =>
    if '\x00' ∈ command.toList ∨ '\r' ∈ command.toList then .error (field_name ++ ": NUL/CR characters are not allowed")
    else if command.length > COMMAND_LENGTH_MAX then
      .error (field_name ++ ": command length " ++ toString command.length ++ " exceeds 8000")
    else .ok (some command)

structure Action where
  type : String
  params : Mapping

/-- One entry of the `output` list: an action, or its error. -/
def coerce_action (py : Python) (raw : Tree) (index : Nat) : Except String Action :=
  let label := "output" ++ "[" ++ toString index ++ "]"
  let raw := match raw with
    | .str s => Tree.dict [(.str "type",.str (strip s)),(.str "params",.dict [])]
    | raw => raw
  match raw with
  | .dict fields =>
    match Mapping.get fields "type" with
    | .str action_type =>
      if strip action_type = "" then .error (label ++ ": missing or invalid 'type' field")
      else
        let canonical_type := OUTPUT_TYPE_ALIASES (restore_jira_identifier_markup (strip action_type))
        if canonical_type ∈ VALID_OUTPUT_TYPES then
          match Mapping.get fields "params" with
          | .none => .ok { type := canonical_type,params := [] }
          | .dict params => .ok { type := canonical_type,params := normalise_identifier_params params }
          | params => .error (label ++ ": 'params' must be a mapping, got " ++ params.type_name)
        else .error (label ++ ": type " ++ py.repr action_type ++ " is not valid (allowed: " ++ sorted_output_types ++ ")")
    | _ => .error (label ++ ": missing or invalid 'type' field")
  | raw => .error (label ++ ": expected mapping, got " ++ raw.type_name)

/-- The loop over the entries: the actions and the errors, in order. -/
def coerce_actions (py : Python) : List (Tree × Nat) → List Action × List String
  | [] => ([],[])
  | (raw,index) :: rest =>
    let (coerced,errors) := coerce_actions py rest
    match coerce_action py raw index with
    | .ok action => (action :: coerced,errors)
    | .error err => (coerced,err :: errors)

/-- `_coerce_output`. -/
def coerce_output (py : Python) (value : Tree) : Option (List Action) × List String :=
  match value with
  | .none => (none,[])
  | .list items =>
    let (coerced,errors) := coerce_actions py items.zipIdx
    (some coerced,errors)
  | value => (none,["output" ++ ": expected list, got " ++ value.type_name])

/-! ### The parser -/

structure ParsedFrontMatter where
  workflow_type : Option String
  repo : Option String
  branch : Option String
  needs_ssh : Option Bool
  needs_docker : Option Bool
  execution_command : Option String
  cleanup : Option String
  timeout_seconds : Option Int
  web_search : Option Bool
  output : Option (List Action)
  parse_errors : List String

/-- The first of the command names that is a key; it ends the loop, also with `None`. -/
def coerce_execution_command (ai_bot : Mapping) : Coerced String :=
  match COMMAND_FIELDS.find? fun field_name => (ai_bot.get? field_name).isSome with
  | none => .ok none
  | some field_name => coerce_command (ai_bot.get field_name) field_name

/-- `ai_bot.get("output",ai_bot.get("output_actions"))`. -/
def output_value (ai_bot : Mapping) : Tree := (ai_bot.get? "output").getD (ai_bot.get "output_actions")

/-- The fields of an `ai-bot` mapping with restored keys. -/
def parse_mapping (py : Python) (ai_bot : Mapping) : Except Raised ParsedFrontMatter := do
  let workflow_type := coerce_workflow_type py (ai_bot.get "workflow_type")
  let repo := coerce_str (ai_bot.get "repo") "repo"
  let branch := coerce_str (ai_bot.get "branch") "branch"
  let needs_ssh := coerce_bool (ai_bot.get "needs_ssh") "needs_ssh"
  let needs_docker := coerce_bool (ai_bot.get "needs_docker") "needs_docker"
  let execution_command := coerce_execution_command ai_bot
  let cleanup := coerce_cleanup py (ai_bot.get "cleanup")
  let timeout_seconds ← coerce_timeout_seconds (ai_bot.get "timeout_seconds")
  let web_search := coerce_bool (ai_bot.get "web_search") "web_search"
  let (output,output_errors) := coerce_output py (output_value ai_bot)
  return {
    workflow_type := workflow_type.value
    repo := repo.value
    branch := branch.value
    needs_ssh := needs_ssh.value
    needs_docker := needs_docker.value
    execution_command := execution_command.value
    cleanup := cleanup.value
    timeout_seconds := timeout_seconds.value
    web_search := web_search.value
    output
    parse_errors := workflow_type.errors ++ repo.errors ++ branch.errors ++ needs_ssh.errors ++ needs_docker.errors ++
      execution_command.errors ++ cleanup.errors ++ timeout_seconds.errors ++ web_search.errors ++ output_errors }

/-- The mapping under `ai-bot`, or under `ai_bot` where that is `None`. -/
def ai_bot_of (parsed : Mapping) : Option Mapping :=
  let ai_bot := match parsed.get "ai-bot" with
    | .none => parsed.get "ai_bot"
    | ai_bot => ai_bot
  match ai_bot with
  | .dict items => some items
  | _ => none

/-- `parse_description_frontmatter`; `yaml` is what the reader makes of a text, `none`
    where PyYAML is not installed. -/
def parse_description_frontmatter (py : Python) (yaml : Option (String → Except Unit Tree)) (description : Option String) :
    Except Raised (Option ParsedFrontMatter) :=
  match description.bind FrontMatter.extract_front_matter_body with
  | none => .ok none
  | some body =>
    match yaml with
    | none => .ok none
    | some safe_load =>
      match safe_load body with
      -- a `YAMLError`
      | .error _ => .ok none
      | .ok (.dict parsed) =>
        match ai_bot_of (normalise_items [] parsed) with
        | none => .ok none
        | some ai_bot => (parse_mapping py ai_bot).map some
      | .ok _ => .ok none

/-! ### The keys of a mapping -/

theorem lookup_map_put (m : Mapping) (key other : Key) (value : Tree) :
    (m.map fun item => if item.1 = key then (key,value) else item).lookup other =
      if other = key then (m.lookup key).map fun _ => value else m.lookup other := by
  induction m with
  | nil => simp
  | cons item rest ih =>
    obtain ⟨k,v⟩ := item
    by_cases first : other = k
    · subst first
      by_cases here : other = key
      · subst here
        simp
      · simp [here]
    · have apart : (other == k) = false := by simpa using first
      by_cases here : k = key
      · subst here
        simp [List.lookup_cons,apart,ih,first]
      · have stays : (key == k) = false := by simpa using Ne.symm here
        simp [List.lookup_cons,apart,stays,here,ih]

theorem lookup_put (m : Mapping) (key other : Key) (value : Tree) :
    (m.put key value).lookup other = if other = key then some value else m.lookup other := by
  unfold Mapping.put
  cases stored : m.lookup key with
  | some old => simp [lookup_map_put,stored]
  | none =>
    rw [Option.isSome_none,if_neg Bool.false_ne_true,List.lookup_append]
    by_cases same : other = key
    · subst same
      simp [stored]
    · have apart : (other == key) = false := by simpa using same
      simp [List.lookup_cons,apart,same]

/-- The value that stays under a name: the last of those whose keys are restored to it. -/
def last (m : Mapping) (name : Key) : Option Tree :=
  match m with
  | [] => none
  | (key,value) :: rest => (last rest name).or (if key.restored = name then some value else none)

theorem lookup_normalise_items (done m : Mapping) (name : Key) :
    (normalise_items done m).lookup name = ((last m name).map normalise_mapping_keys).or (done.lookup name) := by
  induction m generalizing done with
  | nil => simp [normalise_items,last]
  | cons item rest ih =>
    obtain ⟨key,value⟩ := item
    rw [normalise_items,ih,lookup_put,last]
    by_cases here : key.restored = name
    · cases later : last rest name <;> simp [here]
    · have apart : name ≠ key.restored := fun same => here same.symm
      cases later : last rest name <;> simp [here,apart]

/-- The mapping as the parser reads it. -/
def restored (m : Mapping) : Mapping := normalise_items [] m

theorem get?_restored (m : Mapping) (name : String) :
    (restored m).get? name = (last m (.str name)).map normalise_mapping_keys := by
  rw [Mapping.get?,restored,lookup_normalise_items]
  simp

theorem last_other {key : Key} {name : Key} (apart : key.restored ≠ name) (front back : Mapping) (value value' : Tree) :
    last (front ++ (key,value) :: back) name = last (front ++ (key,value') :: back) name := by
  induction front with
  | nil => simp [last,apart]
  | cons item front ih =>
    obtain ⟨k,v⟩ := item
    rw [List.cons_append,List.cons_append,last,last,ih]

/-! ### The fields -/

inductive Slot where
  | workflow_type
  | repo
  | branch
  | needs_ssh
  | needs_docker
  | execution_command
  | cleanup
  | timeout_seconds
  | web_search
  | output
  deriving DecidableEq

/-- The field that a recognised key names. -/
def slot_of (name : String) : Option Slot :=
  match name with
  | "workflow_type" => some .workflow_type
  | "repo" => some .repo
  | "branch" => some .branch
  | "needs_ssh" => some .needs_ssh
  | "needs_docker" => some .needs_docker
  | "execution_command" => some .execution_command
  | "test_command" => some .execution_command
  | "command" => some .execution_command
  | "script" => some .execution_command
  | "commands" => some .execution_command
  | "cleanup" => some .cleanup
  | "timeout_seconds" => some .timeout_seconds
  | "web_search" => some .web_search
  | "output" => some .output
  | "output_actions" => some .output
  | _ => none

inductive FieldValue where
  | text (s : String)
  | flag (b : Bool)
  | number (n : Int)
  | actions (l : List Action)

def ParsedFrontMatter.field (r : ParsedFrontMatter) : Slot → Option FieldValue
  | .workflow_type => r.workflow_type.map .text
  | .repo => r.repo.map .text
  | .branch => r.branch.map .text
  | .needs_ssh => r.needs_ssh.map .flag
  | .needs_docker => r.needs_docker.map .flag
  | .execution_command => r.execution_command.map .text
  | .cleanup => r.cleanup.map .text
  | .timeout_seconds => r.timeout_seconds.map .number
  | .web_search => r.web_search.map .flag
  | .output => r.output.map .actions

/-- The validated form of a value, and its errors. -/
structure Outcome where
  value : Option FieldValue
  errors : List String

def Coerced.outcome {α : Type} (form : α → FieldValue) (c : Coerced α) : Outcome := ⟨c.value.map form,c.errors⟩

section
variable (py : Python)

/-- What the validation makes of a value under a name of the field. -/
def outcome (slot : Slot) (name : String) (value : Tree) : Except Raised Outcome :=
  match slot with
  | .workflow_type => .ok ((coerce_workflow_type py value).outcome .text)
  | .repo => .ok ((coerce_str value "repo").outcome .text)
  | .branch => .ok ((coerce_str value "branch").outcome .text)
  | .needs_ssh => .ok ((coerce_bool value "needs_ssh").outcome .flag)
  | .needs_docker => .ok ((coerce_bool value "needs_docker").outcome .flag)
  | .execution_command => .ok ((coerce_command value name).outcome .text)
  | .cleanup => .ok ((coerce_cleanup py value).outcome .text)
  | .timeout_seconds => (coerce_timeout_seconds value).map fun c => c.outcome .number
  | .web_search => .ok ((coerce_bool value "web_search").outcome .flag)
  | .output => .ok ⟨(coerce_output py value).1.map .actions,(coerce_output py value).2⟩

/-- The name and the value that the parser reads for a field. -/
def read (m : Mapping) : Slot → String × Tree
  | .workflow_type => ("workflow_type",m.get "workflow_type")
  | .repo => ("repo",m.get "repo")
  | .branch => ("branch",m.get "branch")
  | .needs_ssh => ("needs_ssh",m.get "needs_ssh")
  | .needs_docker => ("needs_docker",m.get "needs_docker")
  | .execution_command =>
    match COMMAND_FIELDS.find? fun field_name => (m.get? field_name).isSome with
    | some field_name => (field_name,m.get field_name)
    | none => ("execution_command",.none)
  | .cleanup => ("cleanup",m.get "cleanup")
  | .timeout_seconds => ("timeout_seconds",m.get "timeout_seconds")
  | .web_search => ("web_search",m.get "web_search")
  | .output => ("output",output_value m)

/-- The validation of what is read for a field. -/
def read_outcome (m : Mapping) (slot : Slot) : Except Raised Outcome := outcome py slot (read m slot).1 (read m slot).2

theorem read_command (m : Mapping) :
    coerce_command (read m .execution_command).2 (read m .execution_command).1 = coerce_execution_command m := by
  unfold read coerce_execution_command
  cases COMMAND_FIELDS.find? fun field_name => (m.get? field_name).isSome with
  | none => rfl
  | some field_name => rfl

/-- The fields in the order in which they are checked. -/
def SLOTS : List Slot :=
  [.workflow_type,.repo,.branch,.needs_ssh,.needs_docker,.execution_command,.cleanup,.timeout_seconds,.web_search,.output]

theorem mem_slots (slot : Slot) : slot ∈ SLOTS := by
  cases slot <;> decide

/-- The outcomes of the fields make up the result. -/
theorem parse_mapping_ok {m : Mapping} {r : ParsedFrontMatter} (parsed : parse_mapping py m = .ok r) :
    ∃ o : Slot → Outcome, (∀ slot, read_outcome py m slot = .ok (o slot) ∧ r.field slot = (o slot).value) ∧
      r.parse_errors = SLOTS.flatMap fun slot => (o slot).errors := by
  cases timed : coerce_timeout_seconds (m.get "timeout_seconds") with
  | error raised =>
    rw [parse_mapping,timed] at parsed
    cases parsed
  | ok timeout_seconds =>
    rw [parse_mapping,timed] at parsed
    cases parsed
    let o : Slot → Outcome := fun slot =>
      match read_outcome py m slot with
      | .ok o => o
      | .error _ => ⟨none,[]⟩
    have command : read_outcome py m .execution_command = .ok ((coerce_execution_command m).outcome .text) := by
      rw [read_outcome,outcome,read_command]
    have timeout : read_outcome py m .timeout_seconds = .ok (timeout_seconds.outcome .number) := by
      rw [read_outcome,outcome,read,timed]
      rfl
    have command_errors : (o .execution_command).errors = (coerce_execution_command m).errors := by
      simp only [o,command]
      rfl
    have timeout_errors : (o .timeout_seconds).errors = timeout_seconds.errors := by
      simp only [o,timeout]
      rfl
    refine ⟨o,?_,?_⟩
    · intro slot
      cases slot with
      | workflow_type => exact ⟨rfl,rfl⟩
      | repo => exact ⟨rfl,rfl⟩
      | branch => exact ⟨rfl,rfl⟩
      | needs_ssh => exact ⟨rfl,rfl⟩
      | needs_docker => exact ⟨rfl,rfl⟩
      | execution_command =>
        simp only [o,command]
        exact ⟨trivial,rfl⟩
      | cleanup => exact ⟨rfl,rfl⟩
      | timeout_seconds =>
        simp only [o,timeout]
        exact ⟨trivial,rfl⟩
      | web_search => exact ⟨rfl,rfl⟩
      | output => exact ⟨rfl,rfl⟩
    · simp only [SLOTS,List.flatMap_cons,List.flatMap_nil,List.append_nil,command_errors,timeout_errors,List.append_assoc]
      rfl

end

/-! ### The errors -/

/-- An error begins with a label, and a colon or a bracket. -/
def Labelled (label err : String) : Prop :=
  ∃ c rest, (c = ':' ∨ c = '[') ∧ err.toList = label.toList ++ c :: rest

theorem labelled_start (label : String) {text : String} {c : Char} (first : text.toList.head? = some c)
    (mark : c = ':' ∨ c = '[') : Labelled label (label ++ text) := by
  cases chars : text.toList with
  | nil =>
    rw [chars] at first
    cases first
  | cons d ds =>
    rw [chars] at first
    cases Option.some.inj first
    exact ⟨_,ds,mark,by rw [String.toList_append,chars]⟩

theorem Labelled.append {label err : String} (labelled : Labelled label err) (more : String) : Labelled label (err ++ more) := by
  obtain ⟨c,rest,mark,split⟩ := labelled
  exact ⟨c,rest ++ more.toList,mark,by rw [String.toList_append,split]; simp⟩

theorem mem_errors {α : Type} {c : Coerced α} {err : String} : err ∈ c.errors ↔ c = .error err := by
  cases c with
  | ok value => simp [Coerced.errors]
  | error e => simp [Coerced.errors,eq_comm]

variable {field_name err : String} {value : Tree}

theorem coerce_str_error (failed : coerce_str value field_name = .error err) :
    Labelled field_name err := by
  unfold coerce_str at failed
  split at failed
  · cases failed
  · next s =>
    dsimp only at failed
    split at failed
    · cases failed
      exact labelled_start field_name rfl (.inl rfl)
    · split at failed
      · cases failed
      · cases failed
  · cases failed
    exact (labelled_start field_name rfl (.inl rfl)).append _

theorem coerce_bool_error (failed : coerce_bool value field_name = .error err) :
    Labelled field_name err := by
  unfold coerce_bool at failed
  split at failed
  · cases failed
  · cases failed
  · cases failed
    exact (labelled_start field_name rfl (.inl rfl)).append _

theorem coerce_workflow_type_error {py : Python} {err : String}
    (failed : coerce_workflow_type py value = .error err) : Labelled "workflow_type" err := by
  unfold coerce_workflow_type at failed
  cases text : coerce_str value "workflow_type" with
  | error e =>
    rw [text] at failed
    cases failed
    exact coerce_str_error text
  | ok coerced =>
    rw [text] at failed
    cases coerced with
    | none => cases failed
    | some s =>
      dsimp only at failed
      split at failed
      · cases failed
      · cases failed
        exact (((((labelled_start "workflow_type" rfl (.inl rfl)).append _).append _).append _).append _)

theorem coerce_cleanup_error {py : Python} {err : String} (failed : coerce_cleanup py value = .error err) :
    Labelled "cleanup" err := by
  unfold coerce_cleanup at failed
  cases text : coerce_str value "cleanup" with
  | error e =>
    rw [text] at failed
    cases failed
    exact coerce_str_error text
  | ok coerced =>
    rw [text] at failed
    cases coerced with
    | none => cases failed
    | some s =>
      dsimp only at failed
      split at failed
      · cases failed
      · cases failed
        exact (((((labelled_start "cleanup" rfl (.inl rfl)).append _).append _).append _).append _)

theorem coerce_timeout_seconds_error {err : String} (failed : coerce_timeout_seconds value = .ok (.error err)) :
    Labelled "timeout_seconds" err := by
  unfold coerce_timeout_seconds at failed
  split at failed
  · cases failed
  · next n =>
    split at failed
    · cases text : str_int n with
      | error raised =>
        rw [text] at failed
        cases failed
      | ok digits =>
        rw [text] at failed
        cases failed
        exact ((labelled_start "timeout_seconds" rfl (.inl rfl)).append _).append _
    · cases failed
  · cases failed
    exact (labelled_start "timeout_seconds" rfl (.inl rfl)).append _

theorem command_parts_error {items : List (Tree × Nat)}
    (failed : command_parts field_name items = .error err) : Labelled field_name err := by
  fun_induction command_parts field_name items with
  | case1 => cases failed
  | case2 item index rest part empty =>
    cases failed
    exact ((labelled_start field_name rfl (.inr rfl)).append _).append _
  | case3 item index rest part filled ih =>
    cases later : command_parts field_name rest with
    | error e =>
      rw [later] at failed
      cases failed
      exact ih later
    | ok parts =>
      rw [later] at failed
      cases failed
  | case4 item index rest other =>
    cases failed
    exact (((labelled_start field_name rfl (.inr rfl)).append _).append _).append _

theorem command_text_error (failed : command_text value field_name = .error err) :
    Labelled field_name err := by
  unfold command_text at failed
  split at failed
  · cases failed
  · dsimp only at failed
    split at failed
    · cases failed
      exact labelled_start field_name rfl (.inl rfl)
    · cases failed
  · next items =>
    cases parts : command_parts field_name items.zipIdx with
    | error e =>
      rw [parts] at failed
      cases failed
      exact command_parts_error parts
    | ok list =>
      rw [parts] at failed
      dsimp only at failed
      split at failed
      · cases failed
        exact labelled_start field_name rfl (.inl rfl)
      · cases failed
  · cases failed
    exact (labelled_start field_name rfl (.inl rfl)).append _

theorem coerce_command_error (failed : coerce_command value field_name = .error err) :
    Labelled field_name err := by
  unfold coerce_command at failed
  cases text : command_text value field_name with
  | error e =>
    rw [text] at failed
    cases failed
    exact command_text_error text
  | ok coerced =>
    rw [text] at failed
    cases coerced with
    | none => cases failed
    | some command =>
      dsimp only at failed
      split at failed
      · cases failed
        exact labelled_start field_name rfl (.inl rfl)
      · split at failed
        · cases failed
          exact ((labelled_start field_name rfl (.inl rfl)).append _).append _
        · cases failed

theorem coerce_action_error {py : Python} {raw : Tree} {index : Nat} {err : String}
    (failed : coerce_action py raw index = .error err) : Labelled "output" err := by
  have label : Labelled "output" ("output" ++ "[" ++ toString index ++ "]") :=
    ((labelled_start "output" rfl (.inr rfl)).append _).append _
  unfold coerce_action at failed
  dsimp only at failed
  split at failed
  · split at failed
    · split at failed
      · cases failed
        exact label.append _
      · split at failed
        · split at failed
          · cases failed
          · cases failed
          · cases failed
            exact (label.append _).append _
        · cases failed
          exact ((((label.append _).append _).append _).append _).append _
    · cases failed
      exact label.append _
  · cases failed
    exact (label.append _).append _

/-- And there are no others. -/
theorem coerce_actions_only (py : Python) (items : List (Tree × Nat)) :
    (∀ action ∈ (coerce_actions py items).1, ∃ item ∈ items, coerce_action py item.1 item.2 = .ok action) ∧
      ∀ err ∈ (coerce_actions py items).2, ∃ item ∈ items, coerce_action py item.1 item.2 = .error err := by
  induction items with
  | nil => simp [coerce_actions]
  | cons first rest ih =>
    obtain ⟨raw,index⟩ := first
    obtain ⟨actions,errors⟩ := ih
    have old_action : ∀ action ∈ (coerce_actions py rest).1,
        ∃ item ∈ (raw,index) :: rest, coerce_action py item.1 item.2 = .ok action := fun action member => by
      obtain ⟨item,inside,same⟩ := actions action member
      exact ⟨item,List.mem_cons_of_mem _ inside,same⟩
    have old_error : ∀ err ∈ (coerce_actions py rest).2,
        ∃ item ∈ (raw,index) :: rest, coerce_action py item.1 item.2 = .error err := fun err member => by
      obtain ⟨item,inside,same⟩ := errors err member
      exact ⟨item,List.mem_cons_of_mem _ inside,same⟩
    rw [coerce_actions]
    cases here : coerce_action py raw index with
    | ok action => exact ⟨List.forall_mem_cons.mpr ⟨⟨_,List.mem_cons_self,here⟩,old_action⟩,old_error⟩
    | error err => exact ⟨old_action,List.forall_mem_cons.mpr ⟨⟨_,List.mem_cons_self,here⟩,old_error⟩⟩

theorem coerce_output_error {py : Python} {err : String} (member : err ∈ (coerce_output py value).2) :
    Labelled "output" err := by
  unfold coerce_output at member
  split at member
  · cases member
  · next items =>
    obtain ⟨item,-,failed⟩ := (coerce_actions_only py items.zipIdx).2 err member
    exact coerce_action_error failed
  · rw [List.mem_singleton.mp member]
    exact (labelled_start "output" rfl (.inl rfl)).append _

/-- The name with which the errors of a field begin; a command is reported under its own. -/
def Slot.label (slot : Slot) (name : String) : String :=
  match slot with
  | .workflow_type => "workflow_type"
  | .repo => "repo"
  | .branch => "branch"
  | .needs_ssh => "needs_ssh"
  | .needs_docker => "needs_docker"
  | .execution_command => name
  | .cleanup => "cleanup"
  | .timeout_seconds => "timeout_seconds"
  | .web_search => "web_search"
  | .output => "output"

variable {name : String}

theorem slot_of_label {slot : Slot} (names : slot_of name = some slot) :
    slot_of (slot.label name) = some slot := by
  cases slot with
  | execution_command => exact names
  | workflow_type => rfl
  | repo => rfl
  | branch => rfl
  | needs_ssh => rfl
  | needs_docker => rfl
  | cleanup => rfl
  | timeout_seconds => rfl
  | web_search => rfl
  | output => rfl

theorem outcome_labelled {py : Python} {slot : Slot} {o : Outcome}
    (checked : outcome py slot name value = .ok o) : ∀ err ∈ o.errors, Labelled (slot.label name) err := by
  intro err member
  cases slot with
  | workflow_type =>
    cases checked
    exact coerce_workflow_type_error (mem_errors.mp member)
  | repo =>
    cases checked
    exact coerce_str_error (mem_errors.mp member)
  | branch =>
    cases checked
    exact coerce_str_error (mem_errors.mp member)
  | needs_ssh =>
    cases checked
    exact coerce_bool_error (mem_errors.mp member)
  | needs_docker =>
    cases checked
    exact coerce_bool_error (mem_errors.mp member)
  | execution_command =>
    cases checked
    exact coerce_command_error (mem_errors.mp member)
  | cleanup =>
    cases checked
    exact coerce_cleanup_error (mem_errors.mp member)
  | timeout_seconds =>
    cases timed : coerce_timeout_seconds value with
    | error raised =>
      rw [outcome,timed] at checked
      cases checked
    | ok c =>
      rw [outcome,timed] at checked
      cases checked
      rw [mem_errors.mp member] at timed
      exact coerce_timeout_seconds_error timed
  | web_search =>
    cases checked
    exact coerce_bool_error (mem_errors.mp member)
  | output =>
    cases checked
    exact coerce_output_error member

theorem slot_of_plain {slot : Slot} (names : slot_of name = some slot) :
    ∀ c ∈ name.toList, (c != ':' && c != '[') = true := by
  unfold slot_of at names
  split at names
  all_goals first
    | exact List.all_eq_true.mp (by decide)
    | cases names

/-- Errors of two fields differ. -/
theorem labelled_slot {label label' err : String} {slot slot' : Slot} (labelled : Labelled label err)
    (labelled' : Labelled label' err) (names : slot_of label = some slot) (names' : slot_of label' = some slot') :
    slot = slot' := by
  obtain ⟨c,rest,mark,split⟩ := labelled
  obtain ⟨c',rest',mark',split'⟩ := labelled'
  have stops {d : Char} {ds : List Char} (mark : d = ':' ∨ d = '[') :
      ∀ e ∈ (d :: ds).head?, (e != ':' && e != '[') = false := by
    intro e first
    cases Option.some.inj first
    rcases mark with rfl | rfl <;> decide
  have same := (FrontMatter.run_eq (split.symm.trans split') (slot_of_plain names) (slot_of_plain names') (stops mark)
    (stops mark')).1
  rw [String.toList_inj.mp same,names'] at names
  exact (Option.some.inj names).symm

/-! ### The values -/

theorem restore_from_length (previous : Option Char) (text : List Char) : (restore_from previous text).length = text.length := by
  induction text generalizing previous with
  | nil => rfl
  | cons c cs ih => simp [restore_from,ih]

/-- Only stars are replaced, by what is no white space either. -/
theorem restore_from_space (previous : Option Char) (text : List Char) :
    (restore_from previous text).map isSpace = text.map isSpace := by
  induction text generalizing previous with
  | nil => rfl
  | cons c cs ih =>
    rw [restore_from,List.map_cons,List.map_cons,ih]
    congr 1
    split
    · next star =>
      rw [star.1]
      decide
    · rfl

theorem stripBy_same {text text' : List Char} (stripped : stripBy isSpace text = text)
    (spaces : text'.map isSpace = text.map isSpace) : stripBy isSpace text' = text' := by
  apply stripBy_kept
  · intro c first
    have heads : (text'.map isSpace).head? = some (isSpace c) := by simp [Option.mem_def.mp first]
    rw [spaces] at heads
    cases chars : text with
    | nil =>
      rw [chars] at heads
      cases heads
    | cons d ds =>
      have ink := stripBy_head (stripped.trans chars)
      rw [chars] at heads
      rw [← Option.some.inj heads,ink]
  · intro c last
    have lasts : (text'.map isSpace).getLast? = some (isSpace c) := by simp [Option.mem_def.mp last]
    rw [spaces] at lasts
    cases text using List.reverseRecOn with
    | nil => cases lasts
    | append_singleton ds d =>
      have ink := stripBy_last stripped
      rw [List.map_append,List.map_singleton,List.getLast?_concat] at lasts
      rw [← Option.some.inj lasts,ink]

theorem restore_stripped {text : String} (stripped : strip text = text) (filled : text ≠ "") :
    strip (restore_jira_identifier_value text) = restore_jira_identifier_value text ∧
      restore_jira_identifier_value text ≠ "" := by
  unfold restore_jira_identifier_value
  split
  · exact ⟨stripped,filled⟩
  · have chars : stripBy isSpace text.toList = text.toList := by
      have same := congrArg String.toList stripped
      rwa [strip,String.toList_ofList] at same
    constructor
    · rw [strip,restore_jira_identifier_markup,String.toList_ofList,stripBy_same chars (restore_from_space none text.toList)]
    · intro empty
      have length := restore_from_length none text.toList
      have nothing := congrArg String.toList empty
      rw [restore_jira_identifier_markup,String.toList_ofList] at nothing
      rw [nothing] at length
      exact filled (String.toList_eq_nil_iff.mp (List.length_eq_zero_iff.mp length.symm))

/-- What the validator of a field accepts. -/
def Validates : Slot → FieldValue → Prop
  | .workflow_type, .text s => s ∈ VALID_WORKFLOW_TYPES
  | .repo, .text s => s ≠ "" ∧ strip s = s
  | .branch, .text s => s ≠ "" ∧ strip s = s
  | .needs_ssh, .flag _ => True
  | .needs_docker, .flag _ => True
  | .execution_command, .text s => s ≠ "" ∧ '\x00' ∉ s.toList ∧ '\r' ∉ s.toList ∧ s.length ≤ COMMAND_LENGTH_MAX
  | .cleanup, .text s => s ∈ VALID_CLEANUP_POLICIES
  | .timeout_seconds, .number n => TIMEOUT_SECONDS_MIN ≤ n ∧ n ≤ TIMEOUT_SECONDS_MAX
  | .web_search, .flag _ => True
  | .output, .actions l => ∀ action ∈ l, action.type ∈ VALID_OUTPUT_TYPES
  | _, _ => False

theorem coerce_str_some {field_name s : String} (named : field_name ∈ ["repo","branch"])
    (coerced : coerce_str value field_name = .ok (some s)) : s ≠ "" ∧ strip s = s := by
  unfold coerce_str at coerced
  split at coerced
  · cases coerced
  · dsimp only at coerced
    split at coerced
    · cases coerced
    · next filled =>
      cases coerced
      obtain ⟨stripped,nonempty⟩ := restore_stripped (strip_strip _) filled
      exact ⟨nonempty,stripped⟩
  · cases coerced

theorem coerce_workflow_type_some {py : Python} {s : String}
    (coerced : coerce_workflow_type py value = .ok (some s)) : s ∈ VALID_WORKFLOW_TYPES := by
  unfold coerce_workflow_type at coerced
  split at coerced
  · cases coerced
  · cases coerced
  · dsimp only at coerced
    split at coerced
    · next valid =>
      cases coerced
      exact valid
    · cases coerced

theorem coerce_cleanup_some {py : Python} {s : String} (coerced : coerce_cleanup py value = .ok (some s)) :
    s ∈ VALID_CLEANUP_POLICIES := by
  unfold coerce_cleanup at coerced
  split at coerced
  · cases coerced
  · cases coerced
  · split at coerced
    · next valid =>
      cases coerced
      exact valid
    · cases coerced

theorem coerce_timeout_seconds_some {n : Int} (coerced : coerce_timeout_seconds value = .ok (.ok (some n))) :
    TIMEOUT_SECONDS_MIN ≤ n ∧ n ≤ TIMEOUT_SECONDS_MAX := by
  unfold coerce_timeout_seconds at coerced
  split at coerced
  · cases coerced
  · next k =>
    split at coerced
    · cases text : str_int k with
      | error raised =>
        rw [text] at coerced
        cases coerced
      | ok digits =>
        rw [text] at coerced
        cases coerced
    · next inside =>
      cases coerced
      omega
  · cases coerced

theorem command_text_filled {field_name s : String} (coerced : command_text value field_name = .ok (some s)) :
    s ≠ "" := by
  unfold command_text at coerced
  split at coerced
  · cases coerced
  · dsimp only at coerced
    split at coerced
    · cases coerced
    · next filled =>
      cases coerced
      exact filled
  · split at coerced
    · cases coerced
    · dsimp only at coerced
      split at coerced
      · cases coerced
      · next filled =>
        cases coerced
        exact filled
  · cases coerced

theorem coerce_command_some {field_name s : String} (coerced : coerce_command value field_name = .ok (some s)) :
    s ≠ "" ∧ '\x00' ∉ s.toList ∧ '\r' ∉ s.toList ∧ s.length ≤ COMMAND_LENGTH_MAX := by
  unfold coerce_command at coerced
  split at coerced
  · cases coerced
  · cases coerced
  · next command text =>
    split at coerced
    · cases coerced
    · next clean =>
      split at coerced
      · cases coerced
      · next short =>
        cases coerced
        exact ⟨command_text_filled text,fun nul => clean (.inl nul),fun cr => clean (.inr cr),by omega⟩

theorem coerce_action_valid {py : Python} {raw : Tree} {index : Nat} {action : Action}
    (coerced : coerce_action py raw index = .ok action) : action.type ∈ VALID_OUTPUT_TYPES := by
  unfold coerce_action at coerced
  dsimp only at coerced
  split at coerced
  · split at coerced
    · split at coerced
      · cases coerced
      · split at coerced
        · next valid =>
          split at coerced
          · simp only [Except.ok.injEq] at coerced
            subst coerced
            dsimp only
            exact valid
          · simp only [Except.ok.injEq] at coerced
            subst coerced
            dsimp only
            exact valid
          · cases coerced
        · cases coerced
    · cases coerced
  · cases coerced

theorem outcome_valid {py : Python} {slot : Slot} {o : Outcome}
    (checked : outcome py slot name value = .ok o) {x : FieldValue} (validated : o.value = some x) : Validates slot x := by
  have got {α : Type} {form : α → FieldValue} {c : Coerced α} (value : (c.outcome form).value = some x) :
      ∃ a, c = .ok (some a) ∧ form a = x := by
    cases c with
    | error err => cases value
    | ok coerced =>
      cases coerced with
      | none => cases value
      | some a => exact ⟨a,rfl,Option.some.inj value⟩
  cases slot with
  | workflow_type =>
    cases checked
    obtain ⟨s,coerced,rfl⟩ := got validated
    exact coerce_workflow_type_some coerced
  | repo =>
    cases checked
    obtain ⟨s,coerced,rfl⟩ := got validated
    exact coerce_str_some (by decide) coerced
  | branch =>
    cases checked
    obtain ⟨s,coerced,rfl⟩ := got validated
    exact coerce_str_some (by decide) coerced
  | needs_ssh =>
    cases checked
    obtain ⟨b,-,rfl⟩ := got validated
    trivial
  | needs_docker =>
    cases checked
    obtain ⟨b,-,rfl⟩ := got validated
    trivial
  | execution_command =>
    cases checked
    obtain ⟨s,coerced,rfl⟩ := got validated
    exact coerce_command_some coerced
  | cleanup =>
    cases checked
    obtain ⟨s,coerced,rfl⟩ := got validated
    exact coerce_cleanup_some coerced
  | timeout_seconds =>
    cases timed : coerce_timeout_seconds value with
    | error raised =>
      rw [outcome,timed] at checked
      cases checked
    | ok c =>
      rw [outcome,timed] at checked
      cases checked
      obtain ⟨n,rfl,rfl⟩ := got validated
      exact coerce_timeout_seconds_some timed
  | web_search =>
    cases checked
    obtain ⟨b,-,rfl⟩ := got validated
    trivial
  | output =>
    cases checked
    dsimp only at validated
    obtain ⟨actions,coerced,rfl⟩ := Option.map_eq_some_iff.mp validated
    intro action member
    unfold coerce_output at coerced
    split at coerced
    · cases coerced
    · next items =>
      cases coerced
      obtain ⟨item,-,valid⟩ := (coerce_actions_only py items.zipIdx).1 action member
      exact coerce_action_valid valid
    · cases coerced

theorem outcome_some {py : Python} {slot : Slot} {o : Outcome} (present : value ≠ .none)
    (checked : outcome py slot name value = .ok o) : o.value ≠ none ∨ o.errors ≠ [] := by
  have either {α : Type} {form : α → FieldValue} {c : Coerced α} (filled : c ≠ .ok none) :
      (c.outcome form).value ≠ none ∨ (c.outcome form).errors ≠ [] := by
    cases c with
    | error err => exact .inr (by simp [Coerced.outcome,Coerced.errors])
    | ok coerced =>
      cases coerced with
      | none => exact absurd rfl filled
      | some a => exact .inl (by simp [Coerced.outcome,Coerced.value])
  have text {field_name : String} : coerce_str value field_name ≠ .ok none := by
    intro omitted
    unfold coerce_str at omitted
    split at omitted
    · exact present rfl
    · dsimp only at omitted
      split at omitted
      · cases omitted
      · split at omitted
        · cases omitted
        · cases omitted
    · cases omitted
  have flag {field_name : String} : coerce_bool value field_name ≠ .ok none := by
    intro omitted
    unfold coerce_bool at omitted
    split at omitted
    · exact present rfl
    · cases omitted
    · cases omitted
  cases slot with
  | workflow_type =>
    cases checked
    refine either fun omitted => ?_
    unfold coerce_workflow_type at omitted
    split at omitted
    · cases omitted
    · next none_read => exact text none_read
    · dsimp only at omitted
      split at omitted
      · cases omitted
      · cases omitted
  | repo =>
    cases checked
    exact either text
  | branch =>
    cases checked
    exact either text
  | needs_ssh =>
    cases checked
    exact either flag
  | needs_docker =>
    cases checked
    exact either flag
  | execution_command =>
    cases checked
    refine either fun omitted => ?_
    unfold coerce_command at omitted
    split at omitted
    · cases omitted
    · next none_read =>
      unfold command_text at none_read
      split at none_read
      · exact present rfl
      · dsimp only at none_read
        split at none_read
        · cases none_read
        · cases none_read
      · split at none_read
        · cases none_read
        · dsimp only at none_read
          split at none_read
          · cases none_read
          · cases none_read
      · cases none_read
    · split at omitted
      · cases omitted
      · split at omitted
        · cases omitted
        · cases omitted
  | cleanup =>
    cases checked
    refine either fun omitted => ?_
    unfold coerce_cleanup at omitted
    split at omitted
    · cases omitted
    · next none_read => exact text none_read
    · split at omitted
      · cases omitted
      · cases omitted
  | timeout_seconds =>
    cases timed : coerce_timeout_seconds value with
    | error raised =>
      rw [outcome,timed] at checked
      cases checked
    | ok c =>
      rw [outcome,timed] at checked
      cases checked
      refine either fun omitted => ?_
      rw [omitted] at timed
      unfold coerce_timeout_seconds at timed
      split at timed
      · exact present rfl
      · next n =>
        split at timed
        · cases digits : str_int n with
          | error raised =>
            rw [digits] at timed
            cases timed
          | ok shown =>
            rw [digits] at timed
            cases timed
        · cases timed
      · cases timed
  | web_search =>
    cases checked
    exact either flag
  | output =>
    cases checked
    dsimp only
    unfold coerce_output
    split
    · exact absurd rfl present
    · exact .inl (by simp)
    · exact .inr (by simp)

/-! ### Nothing is dropped -/

section
variable (py : Python)

/-- A value under a recognised name is reflected in its field in validated form, and its
    errors are reported; there is one or the other. -/
def Accounted (r : ParsedFrontMatter) (slot : Slot) (name : String) (value : Tree) : Prop :=
  ∃ o, outcome py slot name value = .ok o ∧ (o.value ≠ none ∨ o.errors ≠ []) ∧
    (∀ x, o.value = some x → r.field slot = some x) ∧ ∀ err ∈ o.errors, err ∈ r.parse_errors

/-- The overrides of a mapping are all accounted for, each field holds what its
    validator accepts, and the other fields are what they are with any other value. -/
structure Kept (m : Mapping) (r : ParsedFrontMatter) : Prop where
  accounted : ∀ key value name slot, (key,value) ∈ m → key.restored = .str name → slot_of name = some slot →
    value ≠ .none → Accounted py r slot name (normalise_mapping_keys value)
  valid : ∀ slot x, r.field slot = some x → Validates slot x
  apart : ∀ front key name value value' back r', m = front ++ (key,value) :: back → key.restored = .str name →
    parse_mapping py (restored (front ++ (key,value') :: back)) = .ok r' →
      ∀ slot, slot_of name ≠ some slot → r'.field slot = r.field slot

/-- No value is hidden: each that is not null comes to nothing that the value which the
    parser reads for the field does not come to. -/
def Visible (m : Mapping) : Prop :=
  (∃ c, coerce_timeout_seconds ((restored m).get "timeout_seconds") = .ok c) ∧
    ∀ key value name slot, (key,value) ∈ m → key.restored = .str name → slot_of name = some slot → value ≠ .none →
      ∃ o o', outcome py slot name (normalise_mapping_keys value) = .ok o ∧ read_outcome py (restored m) slot = .ok o' ∧
        (∀ x, o.value = some x → o'.value = some x) ∧ ∀ err ∈ o.errors, err ∈ o'.errors

theorem command_names : ∀ name ∈ COMMAND_FIELDS, slot_of name = some .execution_command := by
  simp [COMMAND_FIELDS,slot_of]

theorem slot_of_read (m : Mapping) (slot : Slot) : slot_of (read m slot).1 = some slot := by
  cases slot with
  | execution_command =>
    rw [read]
    split
    · next field_name found =>
      have member := List.mem_of_find?_eq_some found
      exact command_names field_name member
    · rfl
  | workflow_type => rfl
  | repo => rfl
  | branch => rfl
  | needs_ssh => rfl
  | needs_docker => rfl
  | cleanup => rfl
  | timeout_seconds => rfl
  | web_search => rfl
  | output => rfl

/-- What is read for a field depends on the values under its names alone. -/
theorem read_congr {m m' : Mapping} {slot : Slot} (same : ∀ name, slot_of name = some slot → m.get? name = m'.get? name) :
    read m slot = read m' slot := by
  cases slot with
  | execution_command =>
    have first := same "execution_command" rfl
    have second := same "test_command" rfl
    have third := same "command" rfl
    have fourth := same "script" rfl
    have fifth := same "commands" rfl
    have found : (COMMAND_FIELDS.find? fun field_name => (m.get? field_name).isSome) =
        COMMAND_FIELDS.find? fun field_name => (m'.get? field_name).isSome := by
      simp only [COMMAND_FIELDS,List.find?_cons,List.find?_nil,first,second,third,fourth,fifth]
    rw [read,read,found]
    split
    · next field_name here =>
      have member := List.mem_of_find?_eq_some here
      rw [Mapping.get,Mapping.get,same field_name (command_names field_name member)]
    · rfl
  | output => simp only [read,output_value,Mapping.get,same "output" rfl,same "output_actions" rfl]
  | workflow_type => simp only [read,Mapping.get,same "workflow_type" rfl]
  | repo => simp only [read,Mapping.get,same "repo" rfl]
  | branch => simp only [read,Mapping.get,same "branch" rfl]
  | needs_ssh => simp only [read,Mapping.get,same "needs_ssh" rfl]
  | needs_docker => simp only [read,Mapping.get,same "needs_docker" rfl]
  | cleanup => simp only [read,Mapping.get,same "cleanup" rfl]
  | timeout_seconds => simp only [read,Mapping.get,same "timeout_seconds" rfl]
  | web_search => simp only [read,Mapping.get,same "web_search" rfl]

theorem field_apart {front back : Mapping} {key : Key} {name : String} {value value' : Tree} {r r' : ParsedFrontMatter}
    (named : key.restored = .str name) (parsed : parse_mapping py (restored (front ++ (key,value) :: back)) = .ok r)
    (parsed' : parse_mapping py (restored (front ++ (key,value') :: back)) = .ok r') {slot : Slot}
    (other : slot_of name ≠ some slot) : r'.field slot = r.field slot := by
  have same : read (restored (front ++ (key,value) :: back)) slot = read (restored (front ++ (key,value') :: back)) slot := by
    refine read_congr fun name' names => ?_
    have apart : key.restored ≠ .str name' := by
      rw [named]
      intro equal
      cases equal
      exact other names
    rw [get?_restored,get?_restored,last_other apart front back value value']
  obtain ⟨o,each,-⟩ := parse_mapping_ok py parsed
  obtain ⟨o',each',-⟩ := parse_mapping_ok py parsed'
  obtain ⟨checked,field⟩ := each slot
  obtain ⟨checked',field'⟩ := each' slot
  rw [read_outcome,same] at checked
  rw [read_outcome,checked] at checked'
  rw [field,field',Except.ok.inj checked']

theorem error_of_field {m : Mapping} {r : ParsedFrontMatter} (parsed : parse_mapping py m = .ok r) {slot : Slot} {label err : String}
    (labelled : Labelled label err) (names : slot_of label = some slot) (member : err ∈ r.parse_errors) :
    ∃ o, read_outcome py m slot = .ok o ∧ err ∈ o.errors := by
  obtain ⟨o,each,errors⟩ := parse_mapping_ok py parsed
  rw [errors] at member
  obtain ⟨slot',-,inside⟩ := List.mem_flatMap.mp member
  obtain ⟨checked,-⟩ := each slot'
  have labelled' := outcome_labelled checked err inside
  have same := labelled_slot labelled labelled' names (slot_of_label (slot_of_read m slot'))
  subst same
  exact ⟨o slot,checked,inside⟩

theorem parse_mapping_total {m : Mapping} (timed : ∃ c, coerce_timeout_seconds (m.get "timeout_seconds") = .ok c) :
    ∃ r, parse_mapping py m = .ok r := by
  obtain ⟨c,timed⟩ := timed
  rw [parse_mapping,timed]
  exact ⟨_,rfl⟩

theorem kept_iff (m : Mapping) : (∃ r, parse_mapping py (restored m) = .ok r ∧ Kept py m r) ↔ Visible py m := by
  constructor
  · rintro ⟨r,parsed,kept⟩
    obtain ⟨o,each,-⟩ := parse_mapping_ok py parsed
    constructor
    · obtain ⟨timed,-⟩ := each .timeout_seconds
      cases checked : coerce_timeout_seconds ((restored m).get "timeout_seconds") with
      | ok c => exact ⟨c,rfl⟩
      | error raised =>
        rw [read_outcome,outcome,read,checked] at timed
        cases timed
    · intro key value name slot member named names present
      obtain ⟨found,checked,-,reflected,reported⟩ := kept.accounted key value name slot member named names present
      obtain ⟨read_ok,field⟩ := each slot
      refine ⟨found,o slot,checked,read_ok,?_,?_⟩
      · intro x validated
        rw [← field]
        exact reflected x validated
      · intro err inside
        have labelled := outcome_labelled checked err inside
        obtain ⟨o',read_ok',inside'⟩ := error_of_field py parsed labelled (slot_of_label names) (reported err inside)
        rw [read_ok] at read_ok'
        rw [Except.ok.inj read_ok']
        exact inside'
  · rintro ⟨timed,visible⟩
    obtain ⟨r,parsed⟩ := parse_mapping_total py timed
    obtain ⟨o,each,errors⟩ := parse_mapping_ok py parsed
    refine ⟨r,parsed,?_,?_,?_⟩
    · intro key value name slot member named names present
      obtain ⟨found,read_found,checked,read_ok,shown,told⟩ := visible key value name slot member named names present
      obtain ⟨read_ok',field⟩ := each slot
      rw [read_ok] at read_ok'
      have same := Except.ok.inj read_ok'
      have filled : normalise_mapping_keys value ≠ .none := by
        cases value with
        | none => exact absurd rfl present
        | dict items => simp [normalise_mapping_keys]
        | list items => simp [normalise_mapping_keys]
        | bool b => simp [normalise_mapping_keys]
        | int n => simp [normalise_mapping_keys]
        | float text => simp [normalise_mapping_keys]
        | str s => simp [normalise_mapping_keys]
        | other type_name id => simp [normalise_mapping_keys]
      refine ⟨found,checked,outcome_some filled checked,?_,?_⟩
      · intro x validated
        rw [field,← same]
        exact shown x validated
      · intro err inside
        rw [errors]
        exact List.mem_flatMap.mpr ⟨slot,mem_slots slot,same ▸ told err inside⟩
    · intro slot x validated
      obtain ⟨checked,field⟩ := each slot
      rw [field] at validated
      exact outcome_valid checked validated
    · rintro front key name value value' back r' rfl named parsed' slot other
      exact field_apart py named parsed parsed' other

/-- The `ai-bot` mapping of a block, as it is written. -/
def raw_ai_bot (parsed : Mapping) : Option Mapping :=
  let ai_bot := match (last parsed (.str "ai-bot")).getD .none with
    | .none => (last parsed (.str "ai_bot")).getD .none
    | ai_bot => ai_bot
  match ai_bot with
  | .dict items => some items
  | _ => none

theorem get_restored (m : Mapping) (name : String) :
    (restored m).get name = normalise_mapping_keys ((last m (.str name)).getD .none) := by
  rw [Mapping.get,get?_restored]
  cases last m (.str name) with
  | none => simp [normalise_mapping_keys]
  | some value => rfl

theorem ai_bot_of_restored (parsed : Mapping) : ai_bot_of (restored parsed) = (raw_ai_bot parsed).map restored := by
  have mapping (value : Tree) : (match normalise_mapping_keys value with
      | .dict items => some items
      | _ => none) = (match value with
      | .dict items => some items
      | _ => none).map restored := by
    cases value <;> simp [normalise_mapping_keys,restored]
  rw [ai_bot_of,raw_ai_bot,get_restored,get_restored]
  cases (last parsed (.str "ai-bot")).getD .none with
  | none => exact mapping _
  | dict items => exact mapping (.dict items)
  | bool b => exact mapping (.bool b)
  | int n => exact mapping (.int n)
  | float text => exact mapping (.float text)
  | str s => exact mapping (.str s)
  | list items => exact mapping (.list items)
  | other type_name id => exact mapping (.other type_name id)

variable {py} {safe_load : String → Except Unit Tree} {description body : String} {parsed m : Mapping}

theorem parse_description_eq (extracted : FrontMatter.extract_front_matter_body description = some body)
    (loaded : safe_load body = .ok (.dict parsed)) (found : raw_ai_bot parsed = some m) :
    parse_description_frontmatter py (some safe_load) (some description) = (parse_mapping py (restored m)).map some := by
  have mapping : ai_bot_of (normalise_items [] parsed) = some (restored m) := by
    have both := ai_bot_of_restored parsed
    rw [found] at both
    exact both
  unfold parse_description_frontmatter
  rw [Option.bind_some,extracted]
  dsimp only
  rw [loaded]
  dsimp only
  rw [mapping]

theorem parse_description_ok (extracted : FrontMatter.extract_front_matter_body description = some body)
    (loaded : safe_load body = .ok (.dict parsed)) (found : raw_ai_bot parsed = some m) :
    (∃ r, parse_description_frontmatter py (some safe_load) (some description) = .ok (some r) ∧ Kept py m r) ↔
      ∃ r, parse_mapping py (restored m) = .ok r ∧ Kept py m r := by
  rw [parse_description_eq extracted loaded found]
  cases parse_mapping py (restored m) with
  | error raised => simp [Except.map]
  | ok r => simp [Except.map]

/-- The overrides of a block are all accounted for exactly if none is hidden. -/
theorem frontmatter_kept_iff (py : Python) (safe_load : String → Except Unit Tree) (description body : String)
    (parsed m : Mapping) (extracted : FrontMatter.extract_front_matter_body description = some body)
    (loaded : safe_load body = .ok (.dict parsed)) (found : raw_ai_bot parsed = some m) :
    (∃ r, parse_description_frontmatter py (some safe_load) (some description) = .ok (some r) ∧ Kept py m r) ↔
      Visible py m := by
  rw [parse_description_ok extracted loaded found]
  exact kept_iff py m

end

def quoting : Python := ⟨fun s => "'" ++ s ++ "'"⟩

/-- The tree of a block with one `ai-bot` mapping. -/
def block_of (m : Mapping) : Tree := .dict [(.str "ai-bot",.dict m)]

/-- A repository, a key that Jira has marked up and a branch that is no text. -/
def repository : Mapping := [(.str "repo",.str "platform"),(.str "needs*docker",.bool true),(.str "branch",.int 7)]

theorem repository_visible : Visible quoting repository := by
  have restored_keys : Key.restored (.str "repo") = .str "repo" ∧ Key.restored (.str "needs*docker") = .str "needs_docker" ∧
      Key.restored (.str "branch") = .str "branch" := by decide
  refine ⟨⟨.ok none,rfl⟩,?_⟩
  intro key value name slot member named names _
  simp only [repository,List.mem_cons,Prod.mk.injEq,List.not_mem_nil,or_false] at member
  obtain ⟨rfl,rfl⟩ | ⟨rfl,rfl⟩ | ⟨rfl,rfl⟩ := member
  · rw [restored_keys.1] at named
    cases named
    cases names
    exact ⟨_,_,rfl,rfl,fun _ same => same,fun _ same => same⟩
  · rw [restored_keys.2.1] at named
    cases named
    cases names
    exact ⟨_,_,rfl,rfl,fun _ same => same,fun _ same => same⟩
  · rw [restored_keys.2.2] at named
    cases named
    cases names
    exact ⟨_,_,rfl,rfl,fun _ same => same,fun _ same => same⟩

theorem repository_kept :
    ∃ r, parse_description_frontmatter quoting (some fun _ => .ok (block_of repository))
      (some "---\nai-bot:\n  repo: platform\n  needs*docker: true\n  branch: 7\n---\nBuild it") = .ok (some r) ∧
        Kept quoting repository r :=
  (frontmatter_kept_iff quoting (fun _ => .ok (block_of repository))
    "---\nai-bot:\n  repo: platform\n  needs*docker: true\n  branch: 7\n---\nBuild it"
    "ai-bot:\n  repo: platform\n  needs*docker: true\n  branch: 7" _ repository (by decide +kernel) rfl rfl).mpr repository_visible

def two_commands : Mapping := [(.str "test_command",.none),(.str "command",.str "make")]

/-- The command that is omitted hides the one that is given. -/
theorem command_hidden :
    ¬∃ r, parse_description_frontmatter quoting (some fun _ => .ok (block_of two_commands))
      (some "---\nai-bot:\n  test_command: null\n  command: make\n---\nBuild it") = .ok (some r) ∧
        Kept quoting two_commands r := by
  have extracted : FrontMatter.extract_front_matter_body "---\nai-bot:\n  test_command: null\n  command: make\n---\nBuild it" =
      some "ai-bot:\n  test_command: null\n  command: make" := by decide
  rw [parse_description_ok extracted rfl rfl,kept_iff]
  rintro ⟨-,visible⟩
  obtain ⟨o,o',checked,read_ok,shown,-⟩ := visible (.str "command") (.str "make") "command" .execution_command (by simp [two_commands])
    (by decide) rfl (by simp)
  have given : o.value = some (.text "make") := by
    have value : (outcome quoting .execution_command "command" (normalise_mapping_keys (.str "make"))).map Outcome.value =
        .ok (some (.text "make")) := by rfl
    rw [checked] at value
    exact Except.ok.inj value
  have omitted : o'.value = none := by
    have value : (read_outcome quoting (restored two_commands) .execution_command).map Outcome.value = .ok none := by rfl
    rw [read_ok] at value
    exact Except.ok.inj value
  have field := shown _ given
  rw [omitted] at field
  cases field

end Automation.DescriptionParser
