import Automation.DescriptionParser
import Automation.Effects
import Automation.JsonReader

/-!
The repository of a task: the structured field, a label, the description, the
only repository of the department, or what a parser makes of the description,
held against the entries of `repo_mappings`.

The list of allowed repositories leaves out entries without a value; the test of
a name against the entries strips each of them, and fails on one that is no text. It
takes an absent entry for the empty name. `resolve_repo_field_sound_iff` says
exactly which inputs and answers lead to a sound result.
-/
namespace Automation.RepoResolver
open Automation.Effects Automation.PyText Automation.Regex
open Automation.JsonReader (FloatError float_of)

abbrev Mapping := List (String × Json)

/-- What the functions take from the interpreter: `repr` of a list or a dict, `str.lower`, which
    leaves no text empty, and the YAML reader. -/
structure Python where
  repr : Json → String
  lower : String → String
  lower_nonempty : ∀ text, lower text = lower "" → text = ""
  parser : DescriptionParser.Python
  yaml : Option (String → Except Unit DescriptionParser.Tree)

/-- What `set_llm_parser`, `set_jira_commenter` and `set_jira_transitioner` have registered. -/
structure Registry where
  llm_parser_set : Bool
  jira_commenter : Bool
  jira_transitioner : Bool

structure RepoResolveInput where
  issue_key : String
  dept_id : String
  structured_field_value : Option String
  description : String
  repo_mappings : List Mapping
  labels : List Json

structure RepoResolveResult where
  resolved : Bool
  repo_url : Json
  confidence : Binary64
  needs_user_input : Bool
  error : Option String

inductive Raised where
  | AttributeError
  | TypeError
  | float (error : FloatError)
  | RuntimeError (message : String)

/-- `CONFIDENCE_THRESHOLD`. -/
def CONFIDENCE_THRESHOLD : Binary64 := .ofQuotient false 8 10

/-- `hash(value)` is defined. -/
def hashable : Json → Bool
  | .arr _ => false
  | .obj _ => false
  | _ => true

/-- The number that a value is equal to. -/
def number : Json → Option Binary64
  | .bool b => some (.finite (if b then 1 else 0))
  | .int n => some (.finite n)
  | .float text => Binary64.ofText text
  | _ => none

/-- `left == right` for hashable values. -/
def same : Json → Json → Bool
  | .str a, .str b => a == b
  | .null, .null => true
  | a, b =>
    match number a,number b with
    | some x, some y => x == y && x != .nan
    | _, _ => false

/-- The loop of `_extract_allowed_repos`. -/
def extract_from (repos : List Json) : List Json → Except Raised (List Json)
  | [] => .ok repos
  | repo :: rest =>
    if !repo.truthy then extract_from repos rest
    else if !hashable repo then .error .TypeError
    else if repos.any (same repo) then extract_from repos rest
    else extract_from (repos ++ [repo]) rest

/-- `_extract_allowed_repos`. -/
def extract_allowed_repos (repo_mappings : List Mapping) : Except Raised (List Json) :=
  extract_from [] (repo_mappings.map fun mapping => (mapping.lookup "bitbucket_repo").getD .null)

/-- `mapping.get("bitbucket_repo","")`. -/
def entry (mapping : Mapping) : Json := (mapping.lookup "bitbucket_repo").getD (.str "")

section
variable (py : Python)

/-- `text.strip().lower()`. -/
def fold (text : String) : String := py.lower (strip text)

/-- The loop of `_is_repo_in_allowed_list`. -/
def allowed_from (repo_lower : String) : List Mapping → Except Raised Bool
  | [] => .ok false
  | mapping :: rest =>
    match entry mapping with
    | .str allowed => if fold py allowed = repo_lower then .ok true else allowed_from repo_lower rest
    | _ => .error .AttributeError

/-- `_is_repo_in_allowed_list`. -/
def is_repo_in_allowed_list (repo_url : Json) (repo_mappings : List Mapping) : Except Raised Bool :=
  match repo_url with
  | .str repo_url => allowed_from py (fold py repo_url) repo_mappings
  | _ => .error .AttributeError

/-- `label.partition(":")`, where there is a colon. -/
def partition (label : List Char) : Option (List Char × List Char) :=
  if ':' ∈ label then some (label.takeWhile (· ≠ ':'),(label.dropWhile (· ≠ ':')).tail) else none

/-- `_repo_from_labels`. -/
def repo_from_labels (labels : List Json) : Option String :=
  labels.findSome? fun label =>
    match label with
    | .str label =>
      match partition label.toList with
      | some (name,value) =>
        if py.lower (strip (.ofList name)) ∈ ["repo","repository","bitbucket_repo","target_repo"] then
          let repo := strip (.ofList value)
          if repo = "" then none else some repo
        else none
      | none => none
    | _ => none

/-- `(?:repo|repository|bitbucket_repo|target_repo)`, whatever the case. -/
def field_name : Part := fun text =>
  ["repo","repository","bitbucket_repo","target_repo"].filterMap fun name =>
    (matchLiteral name.toList text).map fun rest => (text.take name.length,rest)

/-- `$` with `re.MULTILINE`. -/
def lineEnd : Part := fun text => if text.head?.all (· = '\n') then [([],text)] else []

/-- `_REPO_LINE_RE` after its `^`. -/
def REPO_LINE_RE : List Part :=
  [greedy (.star (.one isSpace)),field_name,greedy (.star (.one isSpace)),greedy (.one (· == ':')),
    greedy (.star (.one isSpace)),greedy (plus (.one fun c => !isSpace c)),greedy (.star (.one isSpace)),lineEnd]

/-- The text after each line feed. -/
def line_starts : List Char → List (List Char)
  | [] => []
  | c :: cs => if c = '\n' then cs :: line_starts cs else line_starts cs

/-- `_REPO_LINE_RE.search(description)`: the group `repo`. -/
def repo_line (description : List Char) : Option (List Char) :=
  (description :: line_starts description).findSome? fun text =>
    match matchParts REPO_LINE_RE text with
    | some ([_,_,_,_,_,repo,_,_],_) => some repo
    | _ => none

/-- `parsed.repo`; every exception of the parser is swallowed. -/
def front_matter_repo (description : String) : Option String :=
  match DescriptionParser.parse_description_frontmatter py.parser py.yaml (some description) with
  | .ok (some parsed) => parsed.repo
  | _ => none

/-- `_repo_from_description`. -/
def repo_from_description (description : String) : Option String :=
  match (front_matter_repo py description).filter fun repo => strip repo ≠ "" with
  | some repo => some (strip repo)
  | none => (repo_line description.toList).map fun repo => strip (.ofList repo)

/-- `_build_repo_ask_comment`. -/
def build_repo_ask_comment : String :=
  " Görev açıklamasından repository bilgisi yeterli güvenle " ++
  "belirlenemedi.\n\n" ++
  "Lütfen görevin ilişkili olduğu repository'yi belirtiniz. " ++
  "Bunu yapılandırılmış \"Repository\" alanını doldurarak veya " ++
  "bu comment'e yanıt vererek yapabilirsiniz."

/-- `_build_repo_rejected_comment`. -/
def build_repo_rejected_comment (repo_value : String) (allowed_repos : List Json) : String :=
  let allowed_list := String.intercalate "\n" (allowed_repos.map fun repo => "• " ++ repo.pyStr py.repr)
  " Belirtilen repository (`" ++ repo_value ++ "`) bu departman için " ++
  "izin verilen repo listesinde bulunamadı.\n\n" ++
  "İzin verilen repository'ler:\n" ++ allowed_list ++ "\n\n" ++
  "Lütfen yukarıdaki listeden bir repository seçiniz."

inductive Call where
  | parse_repo_from_description (description : String) (repo_mappings : List Mapping)
  | add_comment (issue_key body dept_id : String)
  | transition_issue (issue_key target_status dept_id : String)

/-- A call answers, or raises an exception with the given text. -/
@[reducible] def calls : Signature where
  Cmd := Call
  Res
    | .parse_repo_from_description .. => Except String Json
    | .add_comment .. => Except String Unit
    | .transition_issue .. => Except String Unit

/-- A comment, whose failure is logged. -/
def post_comment (input : RepoResolveInput) (body : String) : Prog calls Raised Unit := do
  let _ ← command (S := calls) (.add_comment input.issue_key body input.dept_id)
  return ()

/-- A name that is none of the entries. -/
def reject (input : RepoResolveInput) (allowed_repos : List Json) (repo_value : String) (confidence : Binary64) :
    Prog calls Raised RepoResolveResult := do
  post_comment input (build_repo_rejected_comment py repo_value allowed_repos)
  return {
    resolved := false
    repo_url := .null
    confidence
    needs_user_input := true
    error := some ("Repository '" ++ repo_value ++ "' is not in the allowed repo_mappings for department '" ++
      input.dept_id ++ "'.") }

/-- The name is accepted or rejected. -/
def settle (input : RepoResolveInput) (allowed_repos : List Json) (repo_value : String) (confidence : Binary64) :
    Prog calls Raised RepoResolveResult :=
  match is_repo_in_allowed_list py (.str repo_value) input.repo_mappings with
  | .error raised => .raise raised
  | .ok true => return { resolved := true,repo_url := .str repo_value,confidence,needs_user_input := false,error := none }
  | .ok false => reject py input allowed_repos repo_value confidence

/-- The structured field where it is not blank, or else a label or the description. -/
def proposed (input : RepoResolveInput) : Option String :=
  match (input.structured_field_value.map strip).filter (· ≠ "") with
  | some repo_value => some repo_value
  | none => ((repo_from_labels py input.labels).or (repo_from_description py input.description)).filter (· ≠ "")

/-- `parse_result.get("repo_url")` and `float(parse_result.get("confidence",0.0))`. -/
def read_answer (parse_result : Json) : Except Raised (Json × Binary64) :=
  match parse_result with
  | .obj fields =>
    match float_of ((fields.lookup "confidence").getD (.float "0.0")) with
    | .ok confidence => .ok ((fields.lookup "repo_url").getD .null,confidence)
    | .error error => .error (.float error)
  | _ => .error .AttributeError

/-- `not parsed_repo or confidence < CONFIDENCE_THRESHOLD`. -/
def unsure (parsed_repo : Json) (confidence : Binary64) : Bool := !parsed_repo.truthy || confidence.lt CONFIDENCE_THRESHOLD

def not_initialised (what setter : String) : Raised :=
  .RuntimeError ("repo_resolver activity: " ++ what ++ " not initialised; call " ++ setter ++ " during worker startup.")

/-- The comment and the transition to `needs_info`, whose failure is logged. -/
def ask_user (registry : Registry) (input : RepoResolveInput) (parsed_repo : Json) (confidence : Binary64) :
    Prog calls Raised RepoResolveResult := do
  post_comment input build_repo_ask_comment
  if !registry.jira_transitioner then .raise (not_initialised "Jira transitioner" "set_jira_transitioner")
  else
    let _ ← command (S := calls) (.transition_issue input.issue_key "needs_info" input.dept_id)
    return { resolved := false,repo_url := parsed_repo,confidence,needs_user_input := true,error := none }

/-- The steps after the parser has answered. -/
def use_answer (registry : Registry) (input : RepoResolveInput) (allowed_repos : List Json) (parse_result : Json) :
    Prog calls Raised RepoResolveResult :=
  match read_answer parse_result with
  | .error raised => .raise raised
  | .ok (parsed_repo,confidence) =>
    if unsure parsed_repo confidence then ask_user registry input parsed_repo confidence
    else
      match parsed_repo with
      | .str repo_value => settle py input allowed_repos repo_value confidence
      | _ => .raise .AttributeError

/-- Step 3. -/
def parse_with_llm (registry : Registry) (input : RepoResolveInput) (allowed_repos : List Json) :
    Prog calls Raised RepoResolveResult :=
  if !registry.llm_parser_set then .raise (not_initialised "LLM parser" "set_llm_parser")
  else do
    match ← command (S := calls) (.parse_repo_from_description input.description input.repo_mappings) with
    | .error exc =>
      post_comment input build_repo_ask_comment
      return {
        resolved := false
        repo_url := .null
        confidence := .finite 0
        needs_user_input := true
        error := some ("LLM parsing failed: " ++ exc) }
    | .ok parse_result => use_answer py registry input allowed_repos parse_result

/-- `resolve_repo_field`. -/
def resolve_repo_field (registry : Registry) (input : RepoResolveInput) : Prog calls Raised RepoResolveResult :=
  match extract_allowed_repos input.repo_mappings with
  | .error raised => .raise raised
  | .ok allowed_repos =>
    if !registry.jira_commenter then .raise (not_initialised "Jira commenter" "set_jira_commenter")
    else
      match proposed py input with
      | some repo_value => settle py input allowed_repos repo_value (.finite 1)
      | none =>
        match allowed_repos with
        | [only] =>
          return {
            resolved := true
            repo_url := only
            confidence := .ofQuotient false 9 10
            needs_user_input := false
            error := none }
        | _ => parse_with_llm py registry input allowed_repos

/-- The name is a text, and but for case and the blanks around it one of the entries with characters. -/
def Listed (repo_mappings : List Mapping) (repo_url : Json) : Prop :=
  ∃ repo, repo_url = .str repo ∧ ∃ mapping ∈ repo_mappings, ∃ allowed,
    mapping.lookup "bitbucket_repo" = some (.str allowed) ∧ allowed ≠ "" ∧ fold py repo = fold py allowed

/-- The entries are texts up to the first that is the name. -/
def Readable (repo : String) : List Mapping → Prop
  | [] => True
  | mapping :: rest => ∃ allowed, entry mapping = .str allowed ∧ (fold py allowed = fold py repo ∨ Readable repo rest)

/-- Where a blank name meets an empty or an absent entry, there is also one of blanks. -/
def Named (repo : String) (repo_mappings : List Mapping) : Prop :=
  strip repo = "" → (∃ mapping ∈ repo_mappings, entry mapping = .str "") →
    ∃ mapping ∈ repo_mappings, ∃ allowed, mapping.lookup "bitbucket_repo" = some (.str allowed) ∧ allowed ≠ "" ∧
      strip allowed = ""

variable {py}

theorem fold_empty {text : String} : fold py text = py.lower "" ↔ strip text = "" :=
  ⟨py.lower_nonempty (strip text),fun blank => by rw [fold,blank]⟩

theorem entry_nonempty {mapping : Mapping} {allowed : String} (stored : entry mapping = .str allowed) (nonempty : allowed ≠ "") :
    mapping.lookup "bitbucket_repo" = some (.str allowed) := by
  unfold entry at stored
  cases found : mapping.lookup "bitbucket_repo" with
  | none =>
    rw [found,Option.getD_none,Json.str.injEq] at stored
    exact absurd stored.symm nonempty
  | some value =>
    rw [found,Option.getD_some] at stored
    rw [stored]

theorem allowed_from_returns (repo : String) (mappings : List Mapping) :
    (∃ answer, allowed_from py (fold py repo) mappings = .ok answer) ↔ Readable py repo mappings := by
  induction mappings with
  | nil => exact ⟨fun _ => trivial,fun _ => ⟨false,rfl⟩⟩
  | cons mapping rest ih =>
    cases stored : entry mapping with
    | str allowed =>
      rw [allowed_from,stored,Readable,stored]
      by_cases equal : fold py allowed = fold py repo
      · exact ⟨fun _ => ⟨allowed,rfl,.inl equal⟩,fun _ => ⟨true,if_pos equal⟩⟩
      · simp only [if_neg equal,ih]
        constructor
        · exact fun readable => ⟨allowed,rfl,.inr readable⟩
        · rintro ⟨other,named,either⟩
          obtain rfl := Json.str.inj named
          exact either.resolve_left equal
    | null => simp [allowed_from,Readable,stored]
    | bool b => simp [allowed_from,Readable,stored]
    | int n => simp [allowed_from,Readable,stored]
    | float text => simp [allowed_from,Readable,stored]
    | arr items => simp [allowed_from,Readable,stored]
    | obj fields => simp [allowed_from,Readable,stored]

theorem allowed_from_answer {repo_lower : String} {mappings : List Mapping} {answer : Bool}
    (tested : allowed_from py repo_lower mappings = .ok answer) :
    if answer then ∃ mapping ∈ mappings, ∃ allowed, entry mapping = .str allowed ∧ fold py allowed = repo_lower
    else ∀ mapping ∈ mappings, ∃ allowed, entry mapping = .str allowed ∧ fold py allowed ≠ repo_lower := by
  induction mappings with
  | nil =>
    obtain rfl := Except.ok.inj tested
    exact fun mapping member => absurd member List.not_mem_nil
  | cons mapping rest ih =>
    rw [allowed_from] at tested
    split at tested
    · next allowed stored =>
      by_cases equal : fold py allowed = repo_lower
      · rw [if_pos equal] at tested
        obtain rfl := Except.ok.inj tested
        exact ⟨mapping,List.mem_cons_self,allowed,stored,equal⟩
      · rw [if_neg equal] at tested
        have others := ih tested
        cases answer with
        | true =>
          obtain ⟨found,member,holds⟩ := others
          exact ⟨found,List.mem_cons_of_mem _ member,holds⟩
        | false => exact List.forall_mem_cons.mpr ⟨⟨allowed,stored,equal⟩,others⟩
    · cases tested

theorem listed_of_match {repo : String} {mappings : List Mapping} (named : Named repo mappings) {mapping : Mapping}
    (member : mapping ∈ mappings) {allowed : String} (stored : entry mapping = .str allowed)
    (equal : fold py allowed = fold py repo) : Listed py mappings (.str repo) := by
  by_cases empty : allowed = ""
  · subst empty
    have blank : strip repo = "" := py.lower_nonempty _ equal.symm
    obtain ⟨other,inside,spaces,found,nonempty,none_left⟩ := named blank ⟨mapping,member,stored⟩
    refine ⟨repo,rfl,other,inside,spaces,found,nonempty,?_⟩
    rw [fold,fold,blank,none_left]
  · exact ⟨repo,rfl,mapping,member,allowed,entry_nonempty stored empty,empty,equal.symm⟩

/-- A listed name is not blank, or there is a blank entry. -/
theorem named_of_listed {repo : String} {mappings : List Mapping} (listed : Listed py mappings (.str repo)) :
    Named repo mappings := by
  obtain ⟨name,same_name,mapping,member,allowed,found,nonempty,equal⟩ := listed
  obtain rfl := Json.str.inj same_name
  intro blank _
  have empty : fold py allowed = py.lower "" := equal.symm.trans (fold_empty.mpr blank)
  exact ⟨mapping,member,allowed,found,nonempty,fold_empty.mp empty⟩

variable (py)

/-- The activity returns, a resolved name is listed, and otherwise the user is asked. -/
def Sound (input : RepoResolveInput) (outcome : Except Raised RepoResolveResult) : Prop :=
  ∃ result, outcome = .ok result ∧ (result.resolved = true → Listed py input.repo_mappings result.repo_url) ∧
    (result.resolved = false → result.needs_user_input = true)

variable {py}
variable {σ : Type} {H : Handler calls σ} {s : σ} {registry : Registry} {input : RepoResolveInput}

theorem sound_raised (raised : Raised) : ¬Sound py input (.error raised) := by
  rintro ⟨result,returned,-⟩
  cases returned

theorem sound_raised_iff {raised : Raised} {conditions : Prop} (fail : ¬conditions) :
    Sound py input (.error raised) ↔ conditions :=
  ⟨fun sound => absurd sound (sound_raised raised),fun holds => absurd holds fail⟩

theorem sound_unresolved {result : RepoResolveResult} (unresolved : result.resolved = false)
    (asked : result.needs_user_input = true) : Sound py input (.ok result) :=
  ⟨result,rfl,fun resolved => absurd (unresolved.symm.trans resolved) Bool.false_ne_true,fun _ => asked⟩

theorem sound_resolved {result : RepoResolveResult} (resolved : result.resolved = true) :
    Sound py input (.ok result) ↔ Listed py input.repo_mappings result.repo_url := by
  constructor
  · rintro ⟨same_result,returned,listed,-⟩
    obtain rfl := Except.ok.inj returned
    exact listed resolved
  · exact fun listed => ⟨result,rfl,fun _ => listed,fun unresolved => absurd (unresolved.symm.trans resolved) Bool.false_ne_true⟩

/-- Accepting or rejecting a name. -/
theorem settle_sound_iff (allowed_repos : List Json) (repo : String) (confidence : Binary64) :
    Sound py input (exec H (settle py input allowed_repos repo confidence) s).1 ↔
      Readable py repo input.repo_mappings ∧ Named repo input.repo_mappings := by
  rw [settle,is_repo_in_allowed_list,← allowed_from_returns]
  cases tested : allowed_from py (fold py repo) input.repo_mappings with
  | error raised =>
    refine sound_raised_iff ?_
    rintro ⟨⟨answer,returned⟩,-⟩
    cases returned
  | ok answer =>
    have entries := allowed_from_answer tested
    cases answer with
    | true =>
      obtain ⟨mapping,member,allowed,stored,equal⟩ := entries
      dsimp only
      rw [exec_pure,sound_resolved rfl]
      exact ⟨fun listed => ⟨⟨true,rfl⟩,named_of_listed listed⟩,fun both => listed_of_match both.2 member stored equal⟩
    | false =>
      refine ⟨fun _ => ⟨⟨false,rfl⟩,?_⟩,fun _ => sound_unresolved rfl rfl⟩
      -- no entry is the name, so none is empty where the name is blank
      rintro blank ⟨mapping,member,stored⟩
      obtain ⟨allowed,named,apart⟩ := entries mapping member
      rw [stored] at named
      obtain rfl := Json.str.inj named
      refine absurd ?_ apart
      rw [fold,fold,blank]
      exact congrArg py.lower (by decide)

/-- The values under `bitbucket_repo`, with `None` for an absent one. -/
def values (repo_mappings : List Mapping) : List Json :=
  repo_mappings.map fun mapping => (mapping.lookup "bitbucket_repo").getD .null

/-- The values that count as true, each once. -/
def distinct (repos : List Json) : List Json → List Json
  | [] => repos
  | repo :: rest =>
    if !repo.truthy || repos.any (same repo) then distinct repos rest else distinct (repos ++ [repo]) rest

/-- No list and no dict is among the values, an empty one apart. -/
def Hashable (repo_mappings : List Mapping) : Prop :=
  ∀ value ∈ values repo_mappings, value.truthy = true → hashable value = true

theorem extract_from_distinct (repos found : List Json) (plain : ∀ value ∈ found, value.truthy = true → hashable value = true) :
    extract_from repos found = .ok (distinct repos found) := by
  induction found generalizing repos with
  | nil => rfl
  | cons repo rest ih =>
    obtain ⟨here,later⟩ := List.forall_mem_cons.mp plain
    rw [extract_from,distinct]
    by_cases truthy : repo.truthy = true
    · by_cases known : repos.any (same repo) = true
      · simp [truthy,here truthy,known,ih repos later]
      · simp [truthy,here truthy,known,ih (repos ++ [repo]) later]
    · simp [truthy,ih repos later]

theorem extract_from_plain {repos found allowed_repos : List Json} (extracted : extract_from repos found = .ok allowed_repos) :
    ∀ value ∈ found, value.truthy = true → hashable value = true := by
  induction found generalizing repos with
  | nil => exact fun value member => absurd member List.not_mem_nil
  | cons repo rest ih =>
    rw [extract_from] at extracted
    by_cases truthy : repo.truthy = true
    · by_cases plain : hashable repo = true
      · by_cases known : repos.any (same repo) = true
        · rw [if_neg (by simp [truthy]),if_neg (by simp [plain]),if_pos known] at extracted
          exact List.forall_mem_cons.mpr ⟨fun _ => plain,ih extracted⟩
        · rw [if_neg (by simp [truthy]),if_neg (by simp [plain]),if_neg known] at extracted
          exact List.forall_mem_cons.mpr ⟨fun _ => plain,ih extracted⟩
      · rw [if_neg (by simp [truthy]),if_pos (by simp [plain])] at extracted
        cases extracted
    · rw [if_pos (by simp [truthy])] at extracted
      exact List.forall_mem_cons.mpr ⟨fun holds => absurd holds truthy,ih extracted⟩

theorem mem_distinct {repo : Json} {repos found : List Json} (member : repo ∈ distinct repos found) :
    repo ∈ repos ∨ (repo ∈ found ∧ repo.truthy = true) := by
  induction found generalizing repos with
  | nil => exact .inl member
  | cons first rest ih =>
    rw [distinct] at member
    split at member
    · exact (ih member).imp_right fun both => ⟨List.mem_cons_of_mem _ both.1,both.2⟩
    · next kept =>
      have truthy : first.truthy = true := by
        cases here : first.truthy with
        | true => rfl
        | false => simp [here] at kept
      rcases ih member with old | later
      · rcases List.mem_append.mp old with before | last
        · exact .inl before
        · obtain rfl := List.mem_singleton.mp last
          exact .inr ⟨List.mem_cons_self,truthy⟩
      · exact .inr ⟨List.mem_cons_of_mem _ later.1,later.2⟩

theorem listed_only {only : Json} {repo_mappings : List Mapping} (single : distinct [] (values repo_mappings) = [only]) :
    Listed py repo_mappings only ↔ ∃ text, only = .str text := by
  constructor
  · rintro ⟨repo,text,-⟩
    exact ⟨repo,text⟩
  · rintro ⟨text,rfl⟩
    have member : Json.str text ∈ distinct [] (values repo_mappings) := by rw [single]; exact List.mem_cons_self
    obtain ⟨stored,truthy⟩ := (mem_distinct member).resolve_left List.not_mem_nil
    obtain ⟨mapping,inside,value⟩ := List.mem_map.mp stored
    refine ⟨text,rfl,mapping,inside,text,?_,by simpa [Json.truthy] using truthy,rfl⟩
    cases found : mapping.lookup "bitbucket_repo" with
    | none =>
      rw [found] at value
      cases value
    | some stored_value =>
      rw [found] at value
      exact congrArg some value

theorem proposed_nonblank {repo : String} (found : proposed py input = some repo) : strip repo ≠ "" := by
  have stripped : strip repo = repo ∧ repo ≠ "" := by
    unfold proposed at found
    split at found
    · next field given =>
      obtain rfl := Option.some.inj found
      obtain ⟨some_field,nonempty⟩ := Option.filter_eq_some_iff.mp given
      obtain ⟨raw,-,rfl⟩ := Option.map_eq_some_iff.mp some_field
      exact ⟨strip_strip raw,by simpa using nonempty⟩
    · obtain ⟨either,nonempty⟩ := Option.filter_eq_some_iff.mp found
      refine ⟨?_,by simpa using nonempty⟩
      rcases Option.or_eq_some_iff.mp either with label | ⟨-,described⟩
      · obtain ⟨value,-,read⟩ := List.exists_of_findSome?_eq_some label
        grind [strip_strip]
      · unfold repo_from_description at described
        split at described
        · obtain rfl := Option.some.inj described
          exact strip_strip _
        · obtain ⟨line,-,rfl⟩ := Option.map_eq_some_iff.mp described
          exact strip_strip _
  rw [stripped.1]
  exact stripped.2

variable (py)

/-- What the parser answers can be used: a dict with a confidence that is a number, and where that
    is high enough a name that can be held against the entries. -/
def Usable (registry : Registry) (input : RepoResolveInput) (parse_result : Json) : Prop :=
  ∃ fields confidence, parse_result = .obj fields ∧
    float_of ((fields.lookup "confidence").getD (.float "0.0")) = .ok confidence ∧
    if unsure ((fields.lookup "repo_url").getD .null) confidence then registry.jira_transitioner = true
    else ∃ repo, fields.lookup "repo_url" = some (.str repo) ∧ Readable py repo input.repo_mappings ∧
      Named repo input.repo_mappings

/-- The inputs, and the answers of the parser, that lead to a sound result. -/
def Settles (registry : Registry) (input : RepoResolveInput) (parsed : Except String Json) : Prop :=
  Hashable input.repo_mappings ∧ registry.jira_commenter = true ∧
    match proposed py input with
    | some repo => Readable py repo input.repo_mappings
    | none =>
      match distinct [] (values input.repo_mappings) with
      | [only] => ∃ text, only = .str text
      | _ => registry.llm_parser_set = true ∧ ∀ parse_result, parsed = .ok parse_result → Usable py registry input parse_result

variable {py}

theorem not_usable {parse_result : Json} (no_dict : ∀ fields, parse_result ≠ .obj fields) :
    ¬Usable py registry input parse_result := by
  rintro ⟨fields,confidence,dict,-⟩
  exact no_dict fields dict

theorem use_answer_sound_iff (allowed_repos : List Json) (parse_result : Json) :
    Sound py input (exec H (use_answer py registry input allowed_repos parse_result) s).1 ↔
      Usable py registry input parse_result := by
  cases parse_result with
  | obj fields =>
    rw [use_answer,read_answer]
    cases number : float_of ((fields.lookup "confidence").getD (.float "0.0")) with
    | error raised =>
      refine sound_raised_iff ?_
      rintro ⟨same_fields,confidence,equal,converted,-⟩
      obtain rfl := Json.obj.inj equal
      rw [number] at converted
      cases converted
    | ok confidence =>
      have usable : Usable py registry input (.obj fields) ↔
          if unsure ((fields.lookup "repo_url").getD .null) confidence then registry.jira_transitioner = true
          else ∃ repo, fields.lookup "repo_url" = some (.str repo) ∧ Readable py repo input.repo_mappings ∧
            Named repo input.repo_mappings := by
        constructor
        · rintro ⟨same_fields,other,equal,converted,holds⟩
          obtain rfl := Json.obj.inj equal
          rw [number] at converted
          obtain rfl := Except.ok.inj converted
          exact holds
        · exact fun holds => ⟨fields,confidence,rfl,number,holds⟩
      rw [usable]
      dsimp only
      by_cases doubt : unsure ((fields.lookup "repo_url").getD .null) confidence = true
      · rw [if_pos doubt,if_pos doubt,ask_user]
        cases registered : registry.jira_transitioner with
        | true => exact ⟨fun _ => rfl,fun _ => sound_unresolved rfl rfl⟩
        | false => exact sound_raised_iff Bool.false_ne_true
      · rw [if_neg doubt,if_neg doubt]
        cases named : fields.lookup "repo_url" with
        | none => exact absurd (by simp [unsure,named,Json.truthy]) doubt
        | some repo_url =>
          cases repo_url with
          | str repo =>
            rw [Option.getD_some]
            refine (settle_sound_iff allowed_repos repo confidence).trans ⟨fun both => ⟨repo,rfl,both⟩,?_⟩
            rintro ⟨same_repo,equal,both⟩
            cases equal
            exact both
          | null => exact sound_raised_iff (by simp)
          | bool b => exact sound_raised_iff (by simp)
          | int n => exact sound_raised_iff (by simp)
          | float text => exact sound_raised_iff (by simp)
          | arr items => exact sound_raised_iff (by simp)
          | obj inner => exact sound_raised_iff (by simp)
  | null => exact sound_raised_iff (not_usable fun _ => by simp)
  | bool b => exact sound_raised_iff (not_usable fun _ => by simp)
  | int n => exact sound_raised_iff (not_usable fun _ => by simp)
  | float text => exact sound_raised_iff (not_usable fun _ => by simp)
  | str text => exact sound_raised_iff (not_usable fun _ => by simp)
  | arr items => exact sound_raised_iff (not_usable fun _ => by simp)

theorem parse_with_llm_sound_iff (allowed_repos : List Json) :
    Sound py input (exec H (parse_with_llm py registry input allowed_repos) s).1 ↔
      registry.llm_parser_set = true ∧
        ∀ parse_result, (H (.parse_repo_from_description input.description input.repo_mappings) s).1 = .ok parse_result →
          Usable py registry input parse_result := by
  rw [parse_with_llm]
  cases registered : registry.llm_parser_set with
  | false => exact sound_raised_iff fun both => absurd both.1 Bool.false_ne_true
  | true =>
    rw [if_neg (by decide),command,exec_bind,exec_call,exec_ret]
    cases answered : (H (.parse_repo_from_description input.description input.repo_mappings) s).1 with
    | error exc => exact ⟨fun _ => ⟨rfl,fun _ returned => by cases returned⟩,fun _ => sound_unresolved rfl rfl⟩
    | ok parse_result =>
      refine (use_answer_sound_iff allowed_repos parse_result).trans ⟨fun usable => ⟨rfl,?_⟩,fun both => both.2 _ rfl⟩
      intro other returned
      obtain rfl := Except.ok.inj returned
      exact usable

/-- Which inputs and answers of the parser lead to a sound result. -/
theorem resolve_repo_field_sound_iff (py : Python) (registry : Registry) (input : RepoResolveInput) {σ : Type}
    (H : Handler calls σ) (s : σ) :
    Sound py input (exec H (resolve_repo_field py registry input) s).1 ↔
      Settles py registry input (H (.parse_repo_from_description input.description input.repo_mappings) s).1 := by
  rw [resolve_repo_field,Settles]
  cases extracted : extract_allowed_repos input.repo_mappings with
  | error raised =>
    refine sound_raised_iff ?_
    rintro ⟨plain,-⟩
    have returned : extract_allowed_repos input.repo_mappings = .ok (distinct [] (values input.repo_mappings)) :=
      extract_from_distinct [] _ plain
    rw [extracted] at returned
    cases returned
  | ok allowed_repos =>
    have plain : Hashable input.repo_mappings := extract_from_plain extracted
    have same_repos : allowed_repos = distinct [] (values input.repo_mappings) :=
      Except.ok.inj (extracted.symm.trans (extract_from_distinct [] _ plain))
    subst same_repos
    dsimp only
    cases registered : registry.jira_commenter with
    | false => exact sound_raised_iff fun conditions => absurd conditions.2.1 Bool.false_ne_true
    | true =>
      rw [if_neg (by decide)]
      refine Iff.trans ?_ ⟨fun holds => ⟨plain,rfl,holds⟩,fun conditions => conditions.2.2⟩
      cases found : proposed py input with
      | some repo =>
        have nonblank : Named repo input.repo_mappings := fun blank => absurd blank (proposed_nonblank found)
        exact (settle_sound_iff _ repo _).trans ⟨fun both => both.1,fun readable => ⟨readable,nonblank⟩⟩
      | none =>
        dsimp only
        cases allowed : distinct [] (values input.repo_mappings) with
        | nil => exact parse_with_llm_sound_iff []
        | cons only others =>
          cases others with
          | nil => exact (sound_resolved rfl).trans (listed_only allowed)
          | cons second more => exact parse_with_llm_sound_iff (only :: second :: more)

end

theorem lower_nonempty (text : String) (same_text : lower text = lower "") : text = "" := by
  have chars : (lower text).toList = [] := by rw [same_text]; rfl
  rw [lower,String.toList_ofList,List.flatMap_eq_nil_iff] at chars
  cases whole : text.toList with
  | nil => rw [← String.ofList_toList (s := text),whole]
  | cons c cs =>
    have none_left := chars c (by rw [whole]; exact List.mem_cons_self)
    split_ifs at none_left

/-- An interpreter for texts in ASCII, without the YAML package. -/
def interpreter : Python where
  repr := fun _ => ""
  lower := lower
  lower_nonempty := lower_nonempty
  parser := ⟨fun text => "'" ++ text ++ "'"⟩
  yaml := none

def worker : Registry := { llm_parser_set := true,jira_commenter := true,jira_transitioner := true }

/-- The first of two mappings has `null` for its repository. -/
def unset_entry : RepoResolveInput where
  issue_key := "PAY-1"
  dept_id := "payments"
  structured_field_value := some "org/app"
  description := ""
  repo_mappings := [[("bitbucket_repo",.null)],[("bitbucket_repo",.str "org/app")]]
  labels := []

/-- Comments and transitions succeed; the parser fails. -/
def quiet : Handler calls Unit
  | .parse_repo_from_description .., s => (.error "unreachable",s)
  | .add_comment .., s => (.ok (),s)
  | .transition_issue .., s => (.ok (),s)

theorem unset_entry_raises :
    ¬Sound interpreter unset_entry (exec quiet (resolve_repo_field interpreter worker unset_entry) ()).1 := by
  have raised : (exec quiet (resolve_repo_field interpreter worker unset_entry) ()).1 = .error .AttributeError := by
    have extracted : extract_allowed_repos unset_entry.repo_mappings = .ok [.str "org/app"] := rfl
    have field : proposed interpreter unset_entry = some "org/app" := by decide
    rw [resolve_repo_field,extracted,field]
    rfl
  rw [raised]
  exact sound_raised _

end Automation.RepoResolver
