import Automation.Effects
import Automation.PyText
import Automation.Regex
import Automation.Sha256

/-!
Drafts of prompts, their sandbox tests and their promotion. A promotion names a test, a
branch and a path, and the endpoint looks only whether the test passed; a promotion of a
run is one of what was tested where the test was one of its path on its branch and the file
has stayed as it was (`promoted_tested`).
-/
namespace Automation.PromptPromotion
open Automation.Effects Automation.PyText Automation.Regex
open Automation.Sha256 (utf8 hexdigest)

/-- A field of a template, between its braces. -/
structure Field where
  field_name : List Char
  format_spec : List Char

/-- The name of a field, the character behind it and the rest. Brackets hide what is inside. -/
def scan_name : Bool → List Char → Option (List Char × Char × List Char)
  | _, [] => none
  | true, c :: cs => (scan_name (c ≠ ']') cs).map fun (name,stop,rest) => (c :: name,stop,rest)
  | false, c :: cs =>
    if c = '{' then none
    else if c = '}' ∨ c = ':' ∨ c = '!' then some ([],c,cs)
    else (scan_name (c = '[') cs).map fun (name,stop,rest) => (c :: name,stop,rest)

/-- A format specification up to its brace; braces inside are counted. -/
def scan_spec : Nat → List Char → Option (List Char × List Char)
  | _, [] => none
  | count, c :: cs =>
    if c = '}' ∧ count = 1 then some ([],cs)
    else
      let count := if c = '{' then count + 1 else if c = '}' then count - 1 else count
      (scan_spec count cs).map fun (spec,rest) => (c :: spec,rest)

/-- A field behind its opening brace. -/
def parse_field (text : List Char) : Option (Field × List Char) :=
  match scan_name false text with
  | none => none
  | some (field_name,'}',rest) => some (⟨field_name,[]⟩,rest)
  | some (field_name,':',rest) => (scan_spec 1 rest).map fun (format_spec,rest) => (⟨field_name,format_spec⟩,rest)
  | some (field_name,_,_ :: '}' :: rest) => some (⟨field_name,[]⟩,rest)
  | some (field_name,_,_ :: ':' :: rest) => (scan_spec 1 rest).map fun (format_spec,rest) => (⟨field_name,format_spec⟩,rest)
  | some _ => none

/-- The fields of `string.Formatter().parse(text)`; `none` where it raises `ValueError`. -/
def parse_fields : Nat → List Char → Option (List Field)
  | 0, _ => some []
  | _ + 1, [] => some []
  | _ + 1, ['{'] => none
  | _ + 1, ['}'] => none
  | n + 1, '{' :: '{' :: rest => parse_fields n rest
  | n + 1, '}' :: '}' :: rest => parse_fields n rest
  | _ + 1, '}' :: _ => none
  | n + 1, '{' :: rest =>
    match parse_field rest with
    | none => none
    | some (field,rest) => (parse_fields n rest).map fun fields => field :: fields
  | n + 1, _ :: rest => parse_fields n rest

def formatter_parse (text : List Char) : Option (List Field) := parse_fields (text.length + 1) text

def TEMPLATE_VARIABLE_NAMES : List String :=
  ["department_id","department_repos","capabilities","default_language","bot_username"]

/-- What comes before the first `.` or `[`. -/
def root_name (field_name : List Char) : String := .ofList ((field_name.takeWhile (· ≠ '.')).takeWhile (· ≠ '['))

def valid_nested (field : Field) : Bool :=
  let nested_root := root_name field.field_name
  nested_root = "" || TEMPLATE_VARIABLE_NAMES.contains nested_root

def valid_field (field : Field) : Bool :=
  if field.field_name.isEmpty || field.field_name.all Char.isDigit then false
  else if !TEMPLATE_VARIABLE_NAMES.contains (root_name field.field_name) then false
  else if field.format_spec.isEmpty then true
  else
    match formatter_parse field.format_spec with
    | none => false
    | some nested => nested.all valid_nested

/-- Whether `validate_template_format` returns. -/
def validate_template_format (body : String) : Bool :=
  match formatter_parse body.toList with
  | none => false
  | some fields => fields.all valid_field

inductive Refusal where
  | path_empty
  | path_not_relative
  | path_traversal
  | path_empty_after_normalisation
  | body_too_large
  | template_invalid
  | prompt_not_found
  | main_not_found
  | draft_branch_exists
  | commit_failed
  | body_or_branch
  | branch_shape
  | branch_not_found
  | sandbox_failed
  | pg_pool_unavailable
  | lookup_failed
  | sandbox_run_not_found
  | sandbox_not_passed
  | merge_conflict
  | merge_tree_failed
  | description_failed
  | pull_request_failed
  deriving DecidableEq

def Refusal.status_code : Refusal → Nat
  | .path_empty | .path_not_relative | .path_traversal | .path_empty_after_normalisation => 400
  | .body_or_branch | .branch_shape => 400
  | .prompt_not_found | .branch_not_found | .sandbox_run_not_found => 404
  | .draft_branch_exists | .merge_conflict => 409
  | .body_too_large => 413
  | .template_invalid | .sandbox_not_passed => 422
  | .main_not_found | .commit_failed | .sandbox_failed | .merge_tree_failed | .description_failed => 500
  | .lookup_failed | .pull_request_failed => 502
  | .pg_pool_unavailable => 503

/-- `raise` under a condition. -/
def refuse (condition : Bool) (refusal : Refusal) : Except Refusal Unit := if condition then .error refusal else .ok ()

/-- `PurePosixPath(text).parts`: the root, two slashes being one of their own, and the segments. -/
def posix_parts (text : List Char) : List (List Char) :=
  let root := match text with
    | '/' :: '/' :: '/' :: _ => [['/']]
    | '/' :: '/' :: _ => [['/','/']]
    | '/' :: _ => [['/']]
    | _ => []
  root ++ (splitAt '/' text).filter fun part => part ≠ [] ∧ part ≠ ['.']

def safe_relative_path (raw : String) : Except Refusal String :=
  if raw = "" then .error .path_empty
  else if hasPrefix raw "/" ∨ raw.toList[1]? = some ':' then .error .path_not_relative
  else
    let cleaned := posix_parts (replaceChar '\\' '/' raw).toList
    if ['.','.'] ∈ cleaned then .error .path_traversal
    else if cleaned = [] then .error .path_empty_after_normalisation
    else .ok (.ofList (['/'].intercalate cleaned))

/-- `^draft/[A-Za-z0-9_.@:+\-]+$`. -/
def DRAFT_BRANCH_RE : Pattern :=
  concat [literal "draft/".toList,
    plus (.one fun c => ('A' ≤ c && c ≤ 'Z') || ('a' ≤ c && c ≤ 'z') || ('0' ≤ c && c ≤ '9') || "_.@:+-".toList.contains c)]

def draft_branch_name (actor_id : String) (clock : Int) : String :=
  let plain := fun c : Char => ('A' ≤ c && c ≤ 'Z') || ('a' ≤ c && c ≤ 'z') || ('0' ≤ c && c ≤ '9') || "._-".toList.contains c
  "draft/" ++ .ofList (actor_id.toList.map fun c => if plain c then c else '_') ++ "-" ++ toString clock

/-- The files of a commit. -/
abbrev Tree := String → Option String

/-- A row of `automation.prompt_sandbox_runs`. -/
structure Run where
  id : Nat
  prompt_path : String
  draft_branch : String
  sample_input : String
  prompt_body_hash : String
  passed : Bool
  actor_id : String
  /-- The body came with the request; this is no column. -/
  inline : Bool
  deriving DecidableEq

structure State where
  /-- The branches of the repository, by their last commit. -/
  heads : String → Option Tree
  runs : List Run

def State.start (heads : String → Option Tree) : State := ⟨heads,[]⟩

def State.put (s : State) (branch : String) (tree : Option Tree) : State :=
  { s with heads := Function.update s.heads branch tree }

/-- `repo.read_file`, with what the caller makes of a missing branch and of a missing file. -/
def read_file (s : State) (path branch : String) (no_branch no_file : Refusal) : Except Refusal String :=
  match s.heads branch with
  | none => .error no_branch
  | some tree =>
    match tree path with
    | none => .error no_file
    | some body => .ok body

def MAX_DRAFT_BODY_BYTES : Nat := 64 * 1024

structure PromptDraftRequest where
  body : String

structure PromptDraftResponse where
  path : String
  branch : String
  deriving DecidableEq

/-- The name for a new branch: the second one where the first is taken. -/
def fresh_branch (s : State) (name : String) : Option String :=
  if s.heads name = none then some name
  else if s.heads (name ++ "-1") = none then some (name ++ "-1")
  else none

section
variable (main_branch : String)

/-- The draft up to its branch, which may stay without the commit. -/
def create_prompt_draft (s : State) (path : String) (payload : PromptDraftRequest) (actor : String) (clock : Int) (commits : Bool) :
    Except Refusal PromptDraftResponse × State :=
  let checked : Except Refusal String := do
    let safe_path ← safe_relative_path path
    refuse (MAX_DRAFT_BODY_BYTES < payload.body.utf8ByteSize) .body_too_large
    refuse (!validate_template_format payload.body) .template_invalid
    let _ ← read_file s safe_path main_branch .main_not_found .prompt_not_found
    pure safe_path
  match checked with
  | .error refusal => (.error refusal,s)
  | .ok safe_path =>
    match fresh_branch s (draft_branch_name actor clock),s.heads main_branch with
    | none,_ => (.error .draft_branch_exists,s)
    | some _,none => (.error .main_not_found,s)
    | some branch,some tree =>
      if commits then (.ok ⟨safe_path,branch⟩,s.put branch (some (Function.update tree safe_path (some payload.body))))
      else (.error .commit_failed,s.put branch (some tree))

def INLINE_BODY_BRANCH_SENTINEL : String := "__inline_body__"

def hash_prompt_body (body : String) : String := hexdigest (utf8 body)

structure PromptSandboxRequest where
  sample_input : String
  body : Option String
  branch : Option String

/-- Whether the call of the model returns, and the id that the database gives to the row,
    if it takes it. -/
structure SandboxAnswers where
  returns : Bool
  stored : Option Nat

/-- The body of a test; whether it came with the request. -/
def resolve_body (s : State) (safe_path : String) (payload : PromptSandboxRequest) : Except Refusal (String × String × Bool) :=
  match payload.body,payload.branch with
  | some body,none => .ok (body,INLINE_BODY_BRANCH_SENTINEL,true)
  | none,some branch =>
    if matchLine DRAFT_BRANCH_RE branch.toList then
      (read_file s safe_path branch .branch_not_found .prompt_not_found).map fun body => (body,branch,false)
    else .error .branch_shape
  | _,_ => .error .body_or_branch

/-- The row of a test that passed, if the database takes it under its new id. -/
def record_sandbox_run (s : State) (run : Nat → Run) : Option Nat → Option Nat × State
  | none => (none,s)
  | some id => if ∃ row ∈ s.runs, row.id = id then (none,s) else (some id,{ s with runs := run id :: s.runs })

/-- The answer has the id of the row. -/
def sandbox_test_prompt (s : State) (path : String) (payload : PromptSandboxRequest) (actor : String) (answers : SandboxAnswers) :
    Except Refusal (Option Nat) × State :=
  let resolved : Except Refusal (Nat → Run) := do
    let safe_path ← safe_relative_path path
    let (body,draft_branch,inline) ← resolve_body s safe_path payload
    refuse (!validate_template_format body) .template_invalid
    refuse (!answers.returns) .sandbox_failed
    pure fun id => ⟨id,safe_path,draft_branch,payload.sample_input,hash_prompt_body body,true,actor,inline⟩
  match resolved with
  | .error refusal => (.error refusal,s)
  | .ok run =>
    let (sandbox_run_id,s) := record_sandbox_run s run answers.stored
    (.ok sandbox_run_id,s)

structure PromoteRequest where
  draft_branch : String
  sandbox_run_id : String
  target_branch : Option String
  title : String
  description : Option String

inductive Lookup where
  | unavailable
  | fails
  | answers

inductive Merge where
  | clean
  | conflict
  | fails

inductive Opener where
  | opens (url : String)
  | conflict
  | fails

structure PromoteAnswers where
  lookup : Lookup
  merge : Merge
  /-- The description that is rendered where the request has none. -/
  rendered : Option String
  opener : Opener

structure PullRequest where
  source_branch : String
  target_branch : String
  title : String
  description : String
  url : String

variable (uuid : String → Option Nat)

/-- `SELECT … WHERE id = $1::uuid`. -/
def select_sandbox_run (s : State) (sandbox_run_id : String) : Lookup → Except Refusal Run
  | .unavailable => .error .pg_pool_unavailable
  | .fails => .error .lookup_failed
  | .answers =>
    match uuid sandbox_run_id with
    | none => .error .lookup_failed
    | some id =>
      match s.runs.find? fun row => row.id = id with
      | none => .error .sandbox_run_not_found
      | some row => .ok row

def target_branch (payload : PromoteRequest) : String := (payload.target_branch.filter (· ≠ "")).getD main_branch

/-- `repo.detect_merge_conflict`, and what becomes of its answer. -/
def detect_merge_conflict (s : State) (target : String) (merge : Merge) : Except Refusal Unit :=
  if (s.heads target).isNone then .error .branch_not_found
  else
    match merge with
    | .clean => .ok ()
    | .conflict => .error .merge_conflict
    | .fails => .error .merge_tree_failed

def describe (payload : PromoteRequest) (rendered : Option String) : Except Refusal String :=
  match payload.description.or rendered with
  | some description => .ok description
  | none => .error .description_failed

/-- `opener.open`, and what becomes of its answer. -/
def open_ : Opener → Except Refusal String
  | .opens url => .ok url
  | .conflict => .error .merge_conflict
  | .fails => .error .pull_request_failed

def promote_prompt (s : State) (path : String) (payload : PromoteRequest) (answers : PromoteAnswers) : Except Refusal PullRequest := do
  let _ ← safe_relative_path path
  let sandbox_row ← select_sandbox_run uuid s payload.sandbox_run_id answers.lookup
  refuse (!sandbox_row.passed) .sandbox_not_passed
  refuse (!matchLine DRAFT_BRANCH_RE payload.draft_branch.toList) .branch_shape
  refuse (s.heads payload.draft_branch).isNone .branch_not_found
  detect_merge_conflict s (target_branch main_branch payload) answers.merge
  let description ← describe payload answers.rendered
  let url ← open_ answers.opener
  pure ⟨payload.draft_branch,target_branch main_branch payload,payload.title,description,url⟩

/-- A request of an admin, or a push from elsewhere that moves, makes or deletes a branch. -/
inductive Action where
  | draft (path : String) (payload : PromptDraftRequest) (actor : String) (clock : Int) (commits : Bool)
  | sandbox_test (path : String) (payload : PromptSandboxRequest) (actor : String) (answers : SandboxAnswers)
  | promote (path : String) (payload : PromoteRequest) (answers : PromoteAnswers)
  | push (branch : String) (tree : Option Tree)

def step (s : State) : Action → State
  | .draft path payload actor clock commits => (create_prompt_draft main_branch s path payload actor clock commits).2
  | .sandbox_test path payload actor answers => (sandbox_test_prompt s path payload actor answers).2
  | .promote _ _ _ => s
  | .push branch tree => s.put branch tree

/-- The hash of a test is that of the file on the branch. -/
def Run.Hashes (run : Run) (s : State) (path branch : String) : Prop :=
  ∃ tree body, s.heads branch = some tree ∧ tree path = some body ∧ run.prompt_body_hash = hash_prompt_body body

/-- What a promotion opens has been tested: the named test passed, for the same path, with a
    body from a branch, which is the one that is promoted now. -/
def Tested (s : State) (path : String) (payload : PromoteRequest) (answers : PromoteAnswers) : Prop :=
  ∃ safe_path run, safe_relative_path path = .ok safe_path ∧
    select_sandbox_run uuid s payload.sandbox_run_id answers.lookup = .ok run ∧
    run.passed = true ∧ run.prompt_path = safe_path ∧ run.inline = false ∧ run.Hashes s safe_path payload.draft_branch

/-- Every promotion that opens a pull request is one of what was tested. -/
def Promoted (s : State) : Action → Prop
  | .promote path payload answers =>
    ∀ opened, promote_prompt main_branch uuid s path payload answers = .ok opened → Tested uuid s path payload answers
  | _ => True

/-- Nothing refuses the promotion: the path, the row, the branches, the merge, the description or the opener. -/
structure Admits (s : State) (path : String) (payload : PromoteRequest) (answers : PromoteAnswers) (safe_path : String) (run : Run) :
    Prop where
  path : safe_relative_path path = .ok safe_path
  found : select_sandbox_run uuid s payload.sandbox_run_id answers.lookup = .ok run
  passed : run.passed = true
  shape : matchLine DRAFT_BRANCH_RE payload.draft_branch.toList = true
  exists_ : (s.heads payload.draft_branch).isSome = true
  target : (s.heads (target_branch main_branch payload)).isSome = true
  merges : answers.merge = .clean
  described : (payload.description.or answers.rendered).isSome = true
  opens : ∃ url, answers.opener = .opens url

def State.file (s : State) (branch path : String) : Option String := (s.heads branch).bind fun tree => tree path

def Spares (branch path : String) (s : State) : Action → Prop
  | .push pushed tree => pushed = branch → (tree.bind fun tree => tree path) = s.file branch path
  | _ => True

/-- The promotion names the answer to an earlier test of its path on its branch, and no push has
    changed the file on the branch since. -/
structure Follows (heads : String → Option Tree) (path : String) (payload : PromoteRequest) (before after : List Action)
    (test_path sample_input actor : String) (test : SandboxAnswers) (id : Nat) : Prop where
  answered : (sandbox_test_prompt (before.foldl (step main_branch) (.start heads)) test_path
    ⟨sample_input,none,some payload.draft_branch⟩ actor test).1 = .ok (some id)
  named : uuid payload.sandbox_run_id = some id
  same_path : safe_relative_path test_path = safe_relative_path path
  spared : ∀ safe_path, safe_relative_path path = .ok safe_path →
    Admitted (step main_branch) (Spares payload.draft_branch safe_path)
      (sandbox_test_prompt (before.foldl (step main_branch) (.start heads)) test_path
        ⟨sample_input,none,some payload.draft_branch⟩ actor test).2 after

/-- A promotion follows a test of what it promotes. -/
def Known (heads : String → Option Tree) (front : List Action) : Action → Prop
  | .promote path payload _ => ∃ before after test_path sample_input actor test id,
      front = before ++ .sandbox_test test_path ⟨sample_input,none,some payload.draft_branch⟩ actor test :: after ∧
        Follows main_branch uuid heads path payload before after test_path sample_input actor test id
  | _ => True

end

theorem bind_ok_iff {α β : Type} {first : Except Refusal α} {rest : α → Except Refusal β} {result : β} :
    (first >>= rest) = .ok result ↔ ∃ value, first = .ok value ∧ rest value = .ok result := by
  cases first with
  | error refusal =>
    constructor
    · intro impossible
      cases impossible
    · rintro ⟨_,impossible,_⟩
      cases impossible
  | ok value =>
    constructor
    · intro done
      exact ⟨value,rfl,done⟩
    · rintro ⟨_,same,done⟩
      cases same
      exact done

@[simp] theorem refuse_ok_iff {condition : Bool} {refusal : Refusal} : refuse condition refusal = .ok () ↔ condition = false := by
  cases condition <;> simp [refuse]

section
variable {main_branch : String} {uuid : String → Option Nat} {s : State} {path : String} {payload : PromoteRequest} {answers : PromoteAnswers}

theorem detect_merge_conflict_ok_iff {target : String} {merge : Merge} :
    detect_merge_conflict s target merge = .ok () ↔ (s.heads target).isSome = true ∧ merge = .clean := by
  unfold detect_merge_conflict
  cases s.heads target with
  | none => simp
  | some tree => cases merge <;> simp

theorem describe_ok_iff {rendered : Option String} :
    (∃ description, describe payload rendered = .ok description) ↔ (payload.description.or rendered).isSome = true := by
  unfold describe
  cases payload.description.or rendered with
  | none => simp
  | some description => simp

theorem open_ok_iff {opener : Opener} {url : String} : open_ opener = .ok url ↔ opener = .opens url := by
  cases opener <;> simp [open_]

/-- A promotion opens a pull request just where nothing refuses it. -/
theorem promote_prompt_ok_iff :
    (∃ opened, promote_prompt main_branch uuid s path payload answers = .ok opened) ↔
      ∃ safe_path run, Admits main_branch uuid s path payload answers safe_path run := by
  unfold promote_prompt
  constructor
  · rintro ⟨opened,done⟩
    obtain ⟨safe_path,safe,done⟩ := bind_ok_iff.mp done
    obtain ⟨run,found,done⟩ := bind_ok_iff.mp done
    obtain ⟨⟨⟩,passed,done⟩ := bind_ok_iff.mp done
    obtain ⟨⟨⟩,shape,done⟩ := bind_ok_iff.mp done
    obtain ⟨⟨⟩,exists_,done⟩ := bind_ok_iff.mp done
    obtain ⟨⟨⟩,merges,done⟩ := bind_ok_iff.mp done
    obtain ⟨description,described,done⟩ := bind_ok_iff.mp done
    obtain ⟨url,opens,-⟩ := bind_ok_iff.mp done
    obtain ⟨target,clean⟩ := detect_merge_conflict_ok_iff.mp merges
    simp only [refuse_ok_iff,Bool.not_eq_false'] at passed shape
    refine ⟨safe_path,run,safe,found,passed,shape,?_,target,clean,describe_ok_iff.mp ⟨description,described⟩,url,open_ok_iff.mp opens⟩
    simpa [Option.isSome_iff_ne_none] using exists_
  · rintro ⟨safe_path,run,admits⟩
    obtain ⟨url,opens⟩ := admits.opens
    obtain ⟨description,described⟩ := describe_ok_iff.mpr admits.described
    have passed : refuse (!run.passed) .sandbox_not_passed = .ok () := by simp [admits.passed]
    have shape : refuse (!matchLine DRAFT_BRANCH_RE payload.draft_branch.toList) .branch_shape = .ok () := by simp [admits.shape]
    have exists_ : refuse (s.heads payload.draft_branch).isNone .branch_not_found = .ok () := by
      simpa [Option.isSome_iff_ne_none] using admits.exists_
    have merges := detect_merge_conflict_ok_iff.mpr ⟨admits.target,admits.merges⟩
    refine ⟨⟨payload.draft_branch,target_branch main_branch payload,payload.title,description,url⟩,?_⟩
    refine bind_ok_iff.mpr ⟨safe_path,admits.path,?_⟩
    refine bind_ok_iff.mpr ⟨run,admits.found,?_⟩
    refine bind_ok_iff.mpr ⟨(),passed,?_⟩
    refine bind_ok_iff.mpr ⟨(),shape,?_⟩
    refine bind_ok_iff.mpr ⟨(),exists_,?_⟩
    refine bind_ok_iff.mpr ⟨(),merges,?_⟩
    refine bind_ok_iff.mpr ⟨description,described,?_⟩
    exact bind_ok_iff.mpr ⟨url,open_ok_iff.mpr opens,rfl⟩

end

/-- What a test that is answered with an id has written, and what it has read. -/
structure Stored (s : State) (id : Nat) (branch path : String) (run : Run) (body : String) : Prop where
  found : (s.runs.find? fun row => row.id = id) = some run
  file : s.file branch path = some body
  passed : run.passed = true
  path : run.prompt_path = path
  not_inline : run.inline = false
  hashed : run.prompt_body_hash = hash_prompt_body body

section
variable {main_branch : String} {s : State} {id : Nat} {branch path body : String} {run : Run}

theorem file_put (pushed : String) (tree : Option Tree) :
    (s.put pushed tree).file branch path = if branch = pushed then tree.bind fun tree => tree path else s.file branch path := by
  unfold State.file State.put
  dsimp only
  split
  · next own =>
    subst own
    rw [Function.update_self]
  · next other => rw [Function.update_of_ne other]

theorem read_file_ok {no_branch no_file : Refusal} (read : read_file s path branch no_branch no_file = .ok body) :
    s.file branch path = some body := by
  unfold read_file at read
  unfold State.file
  cases head : s.heads branch with
  | none =>
    rw [head] at read
    cases read
  | some tree =>
    rw [head] at read
    dsimp only at read
    rw [Option.bind_some]
    cases here : tree path with
    | none =>
      rw [here] at read
      cases read
    | some text =>
      rw [here] at read
      exact congrArg some (Except.ok.inj read)

theorem sandbox_test_stored {test_path sample_input actor : String} {answers : SandboxAnswers} {safe_path : String}
    (safe : safe_relative_path test_path = .ok safe_path)
    (answered : (sandbox_test_prompt s test_path ⟨sample_input,none,some branch⟩ actor answers).1 = .ok (some id)) :
    ∃ run body, Stored (sandbox_test_prompt s test_path ⟨sample_input,none,some branch⟩ actor answers).2 id branch safe_path run body := by
  unfold sandbox_test_prompt at answered ⊢
  dsimp only at answered ⊢
  split at answered
  · cases answered
  · next made resolved =>
    obtain ⟨_,again,resolved⟩ := bind_ok_iff.mp resolved
    cases safe.symm.trans again
    obtain ⟨⟨body,draft_branch,inline⟩,found,resolved⟩ := bind_ok_iff.mp resolved
    obtain ⟨⟨⟩,-,resolved⟩ := bind_ok_iff.mp resolved
    obtain ⟨⟨⟩,-,resolved⟩ := bind_ok_iff.mp resolved
    obtain rfl := Except.ok.inj resolved
    unfold resolve_body at found
    dsimp only at found
    split at found
    · cases file : read_file s safe_path branch .branch_not_found .prompt_not_found with
      | error refusal =>
        rw [file] at found
        cases found
      | ok text =>
        rw [file] at found
        cases found
        have here := read_file_ok file
        unfold record_sandbox_run at answered ⊢
        cases stored : answers.stored with
        | none =>
          rw [stored] at answered
          cases answered
        | some new =>
          rw [stored] at answered
          dsimp only at answered ⊢
          split at answered
          · cases answered
          · next fresh =>
            obtain rfl : new = id := Option.some.inj (Except.ok.inj answered)
            rw [if_neg fresh]
            exact ⟨_,body,by rw [List.find?_cons_of_pos (by simp)],here,rfl,rfl,rfl,rfl⟩
    · cases found

theorem sandbox_test_kept (stored : Stored s id branch path run body) (test_path : String) (payload : PromptSandboxRequest)
    (actor : String) (answers : SandboxAnswers) :
    Stored (sandbox_test_prompt s test_path payload actor answers).2 id branch path run body := by
  unfold sandbox_test_prompt
  dsimp only
  split
  · exact stored
  · next made resolved =>
    obtain ⟨safe_path,-,resolved⟩ := bind_ok_iff.mp resolved
    obtain ⟨⟨body,draft_branch,inline⟩,-,resolved⟩ := bind_ok_iff.mp resolved
    obtain ⟨⟨⟩,-,resolved⟩ := bind_ok_iff.mp resolved
    obtain ⟨⟨⟩,-,resolved⟩ := bind_ok_iff.mp resolved
    obtain rfl := Except.ok.inj resolved
    unfold record_sandbox_run
    cases answers.stored with
    | none => exact stored
    | some new =>
      dsimp only
      split
      · exact stored
      · next fresh =>
        have other : new ≠ id := by
          rintro rfl
          exact fresh ⟨run,List.mem_of_find?_eq_some stored.found,by simpa using List.find?_some stored.found⟩
        exact { stored with found := (List.find?_cons_of_neg (by simpa using other)).trans stored.found }

theorem create_prompt_draft_kept (stored : Stored s id branch path run body) (draft_path : String) (payload : PromptDraftRequest)
    (actor : String) (clock : Int) (commits : Bool) :
    Stored (create_prompt_draft main_branch s draft_path payload actor clock commits).2 id branch path run body := by
  unfold create_prompt_draft
  dsimp only
  split
  · exact stored
  · split
    · exact stored
    · exact stored
    · next fresh_name _ free _ =>
      have apart : branch ≠ fresh_name := by
        rintro rfl
        have missing : s.heads branch = none := by
          unfold fresh_branch at free
          split_ifs at free with first second
          · exact Option.some.inj free ▸ first
          · exact Option.some.inj free ▸ second
        have file := stored.file
        rw [State.file,missing] at file
        cases file
      have same (tree : Option Tree) : (s.put fresh_name tree).file branch path = s.file branch path := by
        rw [file_put,if_neg apart]
      split
      · exact { stored with file := (same _).trans stored.file }
      · exact { stored with file := (same _).trans stored.file }

theorem stored_step (stored : Stored s id branch path run body) {action : Action} (spares : Spares branch path s action) :
    Stored (step main_branch s action) id branch path run body := by
  cases action with
  | draft draft_path payload actor clock commits => exact create_prompt_draft_kept stored ..
  | sandbox_test test_path payload actor answers => exact sandbox_test_kept stored ..
  | promote promoted payload answers => exact stored
  | push pushed tree =>
    refine { stored with file := ?_ }
    by_cases own : pushed = branch
    · rw [step,file_put,if_pos own.symm]
      exact (spares own).trans stored.file
    · rw [step,file_put,if_neg (Ne.symm own)]
      exact stored.file

theorem select_stored {uuid : String → Option Nat} (stored : Stored s id branch path run body) {sandbox_run_id : String}
    (named : uuid sandbox_run_id = some id) {lookup : Lookup} {row : Run}
    (found : select_sandbox_run uuid s sandbox_run_id lookup = .ok row) : row = run := by
  unfold select_sandbox_run at found
  rw [named] at found
  cases lookup with
  | unavailable => cases found
  | fails => cases found
  | answers =>
    dsimp only at found
    rw [stored.found] at found
    exact (Except.ok.inj found).symm

end

/-- Whatever the requests and the pushes between them: a promotion that names an earlier test of
    its path on its branch, where no push has changed the file since, is one of what was tested. -/
theorem promoted_tested (main_branch : String) (uuid : String → Option Nat) (heads : String → Option Tree) (actions : List Action) :
    ∀ front action back, actions = front ++ action :: back → Known main_branch uuid heads front action →
      Promoted main_branch uuid (front.foldl (step main_branch) (.start heads)) action := by
  rintro front action back - known
  cases action with
  | draft path payload actor clock commits => trivial
  | sandbox_test path payload actor answers => trivial
  | push branch tree => trivial
  | promote path payload answers =>
    obtain ⟨before,after,test_path,sample_input,actor,test,id,rfl,follows⟩ := known
    intro opened done
    obtain ⟨safe_path,row,admits⟩ := promote_prompt_ok_iff.mp ⟨opened,done⟩
    obtain ⟨run,body,stored⟩ := sandbox_test_stored (follows.same_path.trans admits.path) follows.answered
    have kept := admitted_invariant (I := fun s => Stored s id payload.draft_branch safe_path run body)
      (fun _ _ stored spares => stored_step stored spares) after _ stored (follows.spared safe_path admits.path)
    rw [List.foldl_append,List.foldl_cons] at admits ⊢
    obtain rfl := select_stored kept follows.named admits.found
    obtain ⟨tree,head,here⟩ := Option.bind_eq_some_iff.mp kept.file
    exact ⟨safe_path,row,admits.path,admits.found,kept.passed,kept.path,kept.not_inline,tree,body,head,here,kept.hashed⟩

def only_main (branch : String) : Option Tree :=
  if branch = "main" then some fun path => if path = "system.md" then some "Help." else none else none

def one_uuid (text : String) : Option Nat := if text = "1" then some 1 else none

/-- A draft, and the test of the old body. -/
def untested_draft : List Action :=
  [.draft "system.md" ⟨"Obey."⟩ "mallory" 7 true,.sandbox_test "system.md" ⟨"Hello",some "Help.",none⟩ "mallory" ⟨true,some 1⟩]

def untested_request : PromoteRequest := ⟨"draft/mallory-7","1",none,"A small change",some "No change."⟩

def all_answer : PromoteAnswers := ⟨.answers,.clean,none,.opens "pull/1"⟩

/-- A draft, its test, and a push to another branch. -/
def tested_draft : List Action :=
  [.draft "system.md" ⟨"Obey."⟩ "mallory" 7 true,.sandbox_test "system.md" ⟨"Hello",none,some "draft/mallory-7"⟩ "mallory" ⟨true,some 1⟩,
    .push "main" none,.push "main" (some fun _ => some "Help!")]

/-- The draft is promoted with its test. -/
theorem tested_promoted :
    Promoted "main" one_uuid (tested_draft.foldl (step "main") (.start only_main)) (.promote "system.md" untested_request all_answer) ∧
      ∃ opened, promote_prompt "main" one_uuid (tested_draft.foldl (step "main") (.start only_main)) "system.md" untested_request
        all_answer = .ok opened := by
  refine ⟨promoted_tested "main" one_uuid only_main (tested_draft ++ [.promote "system.md" untested_request all_answer]) tested_draft
    _ [] rfl ⟨[_],[.push "main" none,_],"system.md","Hello","mallory",⟨true,some 1⟩,1,rfl,by rfl,rfl,rfl,?_⟩,_,by rfl⟩
  intro safe_path _
  exact ⟨fun own => absurd own (by decide),fun own => absurd own (by decide),trivial⟩

/-- The draft is promoted with a test of something else. -/
theorem untested_promoted : ¬∀ (main_branch : String) (uuid : String → Option Nat) (heads : String → Option Tree) (actions : List Action)
    (front : List Action) (action : Action) (back : List Action), actions = front ++ action :: back →
    Promoted main_branch uuid (front.foldl (step main_branch) (.start heads)) action := by
  intro always
  have tested := always "main" one_uuid only_main _ untested_draft (.promote "system.md" untested_request all_answer) [] rfl
    ⟨"draft/mallory-7","main","A small change","No change.","pull/1"⟩ (by rfl)
  obtain ⟨safe_path,run,-,found,-,-,branch,-⟩ := tested
  have inline : (select_sandbox_run one_uuid (untested_draft.foldl (step "main") (.start only_main)) "1" .answers).map Run.inline =
      .ok true := by rfl
  rw [show untested_request.sandbox_run_id = "1" by rfl,show all_answer.lookup = .answers by rfl] at found
  rw [found] at inline
  obtain same := Except.ok.inj inline
  rw [branch] at same
  cases same

end Automation.PromptPromotion
