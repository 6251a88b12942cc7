import Automation.AgentMessages

/-!
`branch_rules`: what the rules of a department say of the workflow types on a branch. A
rule names its branches by a glob, and denies or allows a set of workflow types; the
first rule whose glob matches decides. A rule carries the checks of its constructor, so
there is none without a decision. Rules that cannot be read from the configuration of a
department are replaced by the pinned defaults, which decide as the child's do
(`default_route`).
-/
namespace Automation.BranchRules
open Automation.PyText Automation.Regex

/-- The ranges of a character class; a character alone is one of its own. -/
def classRanges : List Char → List (Char × Char)
  | lo :: '-' :: hi :: rest => (lo,hi) :: classRanges rest
  | c :: rest => (c,c) :: classRanges rest
  | [] => []

def inRanges (ranges : List (Char × Char)) (c : Char) : Bool := ranges.any fun range => range.1 ≤ c && c ≤ range.2

/-- `[seq]` and `[!seq]`. -/
def charClass : List Char → Pattern
  | '!' :: seq => .one fun c => !inRanges (classRanges seq) c
  | seq => .one (inRanges (classRanges seq))

/-- What stands before the next closing bracket, and after it. -/
def untilBracket : List Char → Option (List Char × List Char)
  | [] => none
  | ']' :: rest => some ([],rest)
  | c :: cs => (untilBracket cs).map fun (seq,rest) => (c :: seq,rest)

/-- The class that an opening bracket begins; a bracket at its front does not close it. -/
def classAt : List Char → Option (List Char × List Char)
  | '!' :: ']' :: cs => (untilBracket cs).map fun (seq,rest) => ('!' :: ']' :: seq,rest)
  | '!' :: cs => (untilBracket cs).map fun (seq,rest) => ('!' :: seq,rest)
  | ']' :: cs => (untilBracket cs).map fun (seq,rest) => (']' :: seq,rest)
  | cs => untilBracket cs

/-- `fnmatch.translate`; a bracket that nothing closes stands for itself. -/
def translate : Nat → List Char → Pattern
  | 0, _ => .eps
  | _ + 1, [] => .eps
  | fuel + 1, c :: cs =>
    if c = '*' then .seq (.star (.one fun _ => true)) (translate fuel cs)
    else if c = '?' then .seq (.one fun _ => true) (translate fuel cs)
    else if c = '[' then
      match classAt cs with
      | some (seq,rest) => .seq (charClass seq) (translate fuel rest)
      | none => .seq (.one (· == c)) (translate fuel cs)
    else .seq (.one (· == c)) (translate fuel cs)

/-- `fnmatch.fnmatchcase`. -/
def fnmatchcase (name glob : String) : Bool :=
  run (translate glob.toList.length glob.toList) List.isEmpty name.toList

/-- The members of the two sets are what the configuration lists; only a string is the
    name of a workflow type. -/
structure BranchPatternRule where
  glob : String
  denied_workflow_types : List Json
  allowed_workflow_types : List Json
  reason : String
  named : glob ≠ ""
  one_sided : denied_workflow_types.isEmpty ≠ allowed_workflow_types.isEmpty

/-- `__post_init__`; `none` where it raises. -/
def BranchPatternRule.make (glob : String) (denied_workflow_types allowed_workflow_types : List Json) (reason : String) :
    Option BranchPatternRule :=
  if valid : glob ≠ "" ∧ denied_workflow_types.isEmpty ≠ allowed_workflow_types.isEmpty then
    some { glob, denied_workflow_types, allowed_workflow_types
           reason := if reason = "" then
               if denied_workflow_types.isEmpty then "branch_pattern_not_in_allowlist" else "branch_pattern_denied"
             else reason
           named := valid.1
           one_sided := valid.2 }
  else none

def DEFAULT_HOTFIX_RULE : BranchPatternRule where
  glob := "hotfix/*"
  denied_workflow_types := [.str "code_change_commit_only"]
  allowed_workflow_types := []
  reason := "hotfix_requires_pr"
  named := by decide
  one_sided := by decide

def DEFAULT_RELEASE_RULE : BranchPatternRule where
  glob := "release/*"
  denied_workflow_types := []
  allowed_workflow_types := [.str "pr_review",.str "confluence_doc_update"]
  reason := "release_branch_restricted"
  named := by decide
  one_sided := by decide

def DEFAULT_BRANCH_PATTERN_RULES : List BranchPatternRule := [DEFAULT_HOTFIX_RULE,DEFAULT_RELEASE_RULE]

structure RouteDecision where
  allowed : Bool
  reason : String
  matched_glob : Option String
  deriving DecidableEq

/-- `workflow_type in members`. -/
def isMember (workflow_type : String) (members : List Json) : Bool :=
  members.any fun member => member.asStr = some workflow_type

/-- What a rule says once its glob matched. -/
def BranchPatternRule.decide (rule : BranchPatternRule) (workflow_type : String) : RouteDecision :=
  if rule.denied_workflow_types.isEmpty = false then
    if isMember workflow_type rule.denied_workflow_types then
      { allowed := false, reason := rule.reason, matched_glob := some rule.glob }
    else { allowed := true, reason := "branch_pattern_passthrough", matched_glob := some rule.glob }
  else if isMember workflow_type rule.allowed_workflow_types then
    { allowed := true, reason := "matched_allowlist", matched_glob := some rule.glob }
  else { allowed := false, reason := rule.reason, matched_glob := some rule.glob }

def no_rule_matched : RouteDecision := { allowed := true, reason := "no_rule_matched", matched_glob := none }

def route_by_branch_pattern (branch_name workflow_type : String) (rules : List BranchPatternRule) : RouteDecision :=
  if branch_name = "" then no_rule_matched
  else
    match rules.find? fun rule => fnmatchcase branch_name rule.glob with
    | some rule => rule.decide workflow_type
    | none => no_rule_matched

/-- What a `for` loop takes from the value; `none` where it raises. -/
def iterated : Json → Option (List Json)
  | .arr items => some items
  | .str text => some (text.toList.map fun c => .str (String.singleton c))
  | .obj fields => some (fields.map fun field => .str field.1)
  | _ => none

def hashable : Json → Bool
  | .arr _ => false
  | .obj _ => false
  | _ => true

/-- `frozenset(value or ())`; `none` where it raises. -/
def frozenset (value : Json) : Option (List Json) :=
  if value.truthy = false then some []
  else (iterated value).filter fun items => items.all hashable

section
variable (repr : Json → String)

/-- `str(item.get(key, ""))`. -/
def fieldText (item : Json) (key : String) : String := if item.has key then (item.get key).pyStr repr else ""

def coerce_rule (item : Json) : Option BranchPatternRule :=
  if item.isObj then do
    let denied ← frozenset (item.get "denied_workflow_types")
    let allowed ← frozenset (item.get "allowed_workflow_types")
    BranchPatternRule.make (fieldText repr item "glob") denied allowed (fieldText repr item "reason")
  else none

/-- Rules cross the activity boundary as dicts. No list is honoured in part. -/
def coerce_rules (loaded : Json) : List BranchPatternRule :=
  match loaded with
  | .null => DEFAULT_BRANCH_PATTERN_RULES
  | _ => ((iterated loaded).bind fun items => items.mapM (coerce_rule repr)).getD DEFAULT_BRANCH_PATTERN_RULES

end

private theorem star_any (text : List Char) : run (.seq (.star (.one fun _ => true)) .eps) List.isEmpty text = true := by
  refine (run_iff _ _ _).mpr ⟨text,[],(List.append_nil _).symm,?_,rfl⟩
  refine Language.mem_mul.mpr ⟨text,?_,[],rfl,List.append_nil _⟩
  refine Language.mem_kstar.mpr ⟨text.map ([·]),?_,?_⟩
  · induction text with
    | nil => rfl
    | cons c cs ih => simp [← ih]
  · intro chunk member
    obtain ⟨c,-,rfl⟩ := List.mem_map.mp member
    exact ⟨c,rfl,rfl⟩

/-- A character that is no part of a glob's syntax. -/
def Plain (c : Char) : Prop := c ≠ '*' ∧ c ≠ '?' ∧ c ≠ '['

instance (c : Char) : Decidable (Plain c) := inferInstanceAs (Decidable (_ ∧ _))

theorem fnmatch_folder {folder : List Char} (plain : ∀ c ∈ folder, Plain c) (text : List Char) :
    run (translate (folder ++ ['*']).length (folder ++ ['*'])) List.isEmpty text = startsWith folder text := by
  induction folder generalizing text with
  | nil => exact star_any text
  | cons p ps ih =>
    obtain ⟨⟨no_star,no_any,no_class⟩,others⟩ := List.forall_mem_cons.mp plain
    simp only [List.cons_append,List.length_cons,translate,no_star,no_any,no_class,if_false,run]
    cases text with
    | nil => rfl
    | cons c cs =>
      simp only [run,startsWith]
      rw [ih others cs,Bool.beq_comm]

private theorem fnmatch_hotfix (branch : String) : fnmatchcase branch "hotfix/*" = hasPrefix branch "hotfix/" :=
  @fnmatch_folder "hotfix/".toList (by simp [Plain]) branch.toList

private theorem fnmatch_release (branch : String) : fnmatchcase branch "release/*" = hasPrefix branch "release/" :=
  @fnmatch_folder "release/".toList (by simp [Plain]) branch.toList

private theorem isMember_str (workflow_type name : String) (rest : List Json) :
    isMember workflow_type (.str name :: rest) = (decide (workflow_type = name) || isMember workflow_type rest) := by
  have same : decide (some name = some workflow_type) = decide (workflow_type = name) :=
    decide_eq_decide.mpr ⟨fun is => (Option.some.inj is).symm,fun is => is ▸ rfl⟩
  exact congrArg (· || isMember workflow_type rest) same

private theorem isMember_nil (workflow_type : String) : isMember workflow_type [] = false := rfl

/-- The defaults decide as those that the child has pinned. -/
theorem default_route (branch workflow_type : String) :
    (route_by_branch_pattern branch workflow_type DEFAULT_BRANCH_PATTERN_RULES).allowed =
      (AgentMessages.route_by_branch_pattern branch workflow_type AgentMessages.DEFAULT_BRANCH_PATTERN_RULES).isNone := by
  by_cases unnamed : branch = ""
  · subst unnamed
    rfl
  · have hotfix : fnmatchcase branch DEFAULT_HOTFIX_RULE.glob = hasPrefix branch "hotfix/" := fnmatch_hotfix branch
    have release : fnmatchcase branch DEFAULT_RELEASE_RULE.glob = hasPrefix branch "release/" := fnmatch_release branch
    unfold route_by_branch_pattern AgentMessages.route_by_branch_pattern DEFAULT_BRANCH_PATTERN_RULES
      AgentMessages.DEFAULT_BRANCH_PATTERN_RULES
    rw [if_neg unnamed]
    simp only [List.find?_cons,List.find?_nil,hotfix,release]
    cases hasPrefix branch "hotfix/" with
    | true =>
      by_cases commit_only : workflow_type = "code_change_commit_only"
      · simp [BranchPatternRule.decide,DEFAULT_HOTFIX_RULE,isMember_str,isMember_nil,commit_only]
      · simp [BranchPatternRule.decide,DEFAULT_HOTFIX_RULE,isMember_str,isMember_nil,commit_only]
    | false =>
      cases hasPrefix branch "release/" with
      | true =>
        by_cases allowed : workflow_type = "pr_review" ∨ workflow_type = "confluence_doc_update"
        · simp [BranchPatternRule.decide,DEFAULT_RELEASE_RULE,isMember_str,isMember_nil,allowed]
        · simp [BranchPatternRule.decide,DEFAULT_RELEASE_RULE,isMember_str,isMember_nil,allowed]
      | false => rfl

end Automation.BranchRules
