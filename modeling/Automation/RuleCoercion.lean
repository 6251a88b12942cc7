import Automation.BranchRules

/-!
Loaded branch rules as the configuration lists them, beside what `_coerce_rules` makes of
them. A set of workflow types may be spelled as a single string, which the coercion takes
for the set of its letters; a branch whose first rule is spelled so loses its gate
(`coercion_never_weakens_iff`).
-/
namespace Automation.RuleCoercion
open Automation.BranchRules

/-- The workflow types that a field lists; a single string stands for the list of itself. -/
def listed : Json → List Json
  | .str text => if text = "" then [] else [.str text]
  | value => (frozenset value).getD []

structure Reading where
  glob : String
  denied_workflow_types : List Json
  allowed_workflow_types : List Json

def Reading.denies (rule : Reading) (workflow_type : String) : Bool :=
  if rule.denied_workflow_types.isEmpty = false then isMember workflow_type rule.denied_workflow_types
  else rule.allowed_workflow_types.isEmpty = false && !isMember workflow_type rule.allowed_workflow_types

section
variable (repr : Json → String)

def read_rule (item : Json) : Reading where
  glob := fieldText repr item "glob"
  denied_workflow_types := listed (item.get "denied_workflow_types")
  allowed_workflow_types := listed (item.get "allowed_workflow_types")

/-- Whether the configuration denies the pair: the first rule whose glob matches decides. -/
def config_denies (items : List Json) (branch workflow_type : String) : Bool :=
  if branch = "" then false
  else
    match items.find? fun item => BranchRules.fnmatchcase branch (fieldText repr item "glob") with
    | some item => (read_rule repr item).denies workflow_type
    | none => false

/-- The rules are the pinned defaults, or deny every pair that the configuration denies. -/
def NeverWeakens (loaded : Json) : Prop :=
  coerce_rules repr loaded = DEFAULT_BRANCH_PATTERN_RULES ∨
    ∀ branch workflow_type, config_denies repr ((iterated loaded).getD []) branch workflow_type = true →
      (route_by_branch_pattern branch workflow_type (coerce_rules repr loaded)).allowed = false

/-- An item that is a rule: a dict with a glob and workflow types in one of the two fields. -/
structure IsRule (item : Json) : Prop where
  dict : item.isObj = true
  denied : (frozenset (item.get "denied_workflow_types")).isSome = true
  allowed : (frozenset (item.get "allowed_workflow_types")).isSome = true
  named : fieldText repr item "glob" ≠ ""
  one_sided : (item.get "denied_workflow_types").truthy ≠ (item.get "allowed_workflow_types").truthy

/-- A field that is a string of two or more letters. -/
def Spelled (value : Json) : Prop := ∃ text : String, value = .str text ∧ 2 ≤ text.toList.length

/-- No branch has a first rule with a set of workflow types spelled as a string. -/
def Listed (items : List Json) : Prop :=
  ∀ branch item, branch ≠ "" →
    (items.find? fun item => BranchRules.fnmatchcase branch (fieldText repr item "glob")) = some item →
      ¬Spelled (item.get "denied_workflow_types") ∧ ¬Spelled (item.get "allowed_workflow_types")

/-- When the coercion keeps the gate: the value is no list of rules, and the defaults apply,
    or the deciding rules list their workflow types. -/
def Kept (loaded : Json) : Prop :=
  loaded = .null ∨ ∀ items, iterated loaded = some items → (∀ item ∈ items, IsRule repr item) → Listed repr items

theorem frozenset_isEmpty {value : Json} {types : List Json} (read : frozenset value = some types) :
    types.isEmpty = !value.truthy := by
  unfold frozenset at read
  by_cases empty : value.truthy = false
  · rw [if_pos empty] at read
    obtain rfl := Option.some.inj read
    rw [empty]
    rfl
  · rw [if_neg empty] at read
    obtain ⟨found,-⟩ := Option.filter_eq_some_iff.mp read
    cases value with
    | null => exact absurd rfl empty
    | bool b => cases found
    | int n => cases found
    | float text => cases found
    | str text =>
      obtain rfl := Option.some.inj found
      cases letters : text.toList with
      | nil =>
        have blank : text = "" := String.toList_eq_nil_iff.mp letters
        simp [Json.truthy,blank] at empty
      | cons c cs =>
        have filled : text ≠ "" := by
          intro blank
          rw [blank] at letters
          cases letters
        simp [Json.truthy,filled]
    | arr items =>
      obtain rfl := Option.some.inj found
      simp [Json.truthy]
    | obj fields =>
      obtain rfl := Option.some.inj found
      simp [Json.truthy]

/-- A string is read as its letters, and each of them is a workflow type. -/
theorem frozenset_str {text : String} (filled : text ≠ "") :
    frozenset (.str text) = some (text.toList.map fun c => .str (String.singleton c)) := by
  have truthy : (Json.str text).truthy = true := by simpa [Json.truthy] using filled
  unfold frozenset
  rw [if_neg (by rw [truthy]; decide)]
  refine Option.filter_eq_some_iff.mpr ⟨rfl,?_⟩
  simp [hashable]

theorem isMember_letters (workflow_type : String) (letters : List Char) :
    isMember workflow_type (letters.map fun c => .str (String.singleton c)) = true ↔
      ∃ c ∈ letters, workflow_type = String.singleton c := by
  simp only [isMember,List.any_map,List.any_eq_true,Function.comp_apply,Json.asStr,Option.some.injEq,decide_eq_true_eq]
  constructor
  · rintro ⟨c,member,same⟩
    exact ⟨c,member,same.symm⟩
  · rintro ⟨c,member,same⟩
    exact ⟨c,member,same.symm⟩

theorem isMember_alone (workflow_type text : String) : isMember workflow_type [.str text] = decide (text = workflow_type) := by
  simp [isMember,Json.asStr]

theorem ne_letter {text : String} (long : 2 ≤ text.toList.length) (c : Char) : text ≠ String.singleton c := by
  intro same
  rw [same,String.toList_singleton] at long
  simp at long

theorem listed_eq {value : Json} {types : List Json} (read : frozenset value = some types) (plain : ¬Spelled value) :
    listed value = types := by
  cases value with
  | str text =>
    by_cases blank : text = ""
    · subst blank
      obtain rfl := Option.some.inj read
      rfl
    · rw [frozenset_str blank] at read
      obtain rfl := Option.some.inj read
      cases letters : text.toList with
      | nil => exact absurd (String.toList_eq_nil_iff.mp letters) blank
      | cons c rest =>
        cases rest with
        | nil =>
          have single : text = String.singleton c := by
            rw [← String.toList_inj,letters,String.toList_singleton]
          simp [listed,single]
        | cons d rest =>
          refine absurd ⟨text,rfl,?_⟩ plain
          rw [letters]
          simp
  | null => simp [listed,read]
  | bool b => simp [listed,read]
  | int n => simp [listed,read]
  | float text => simp [listed,read]
  | arr items => simp [listed,read]
  | obj fields => simp [listed,read]

variable {repr : Json → String} {item : Json} {rule : BranchPatternRule}

theorem coerce_rule_some (made : coerce_rule repr item = some rule) :
    item.isObj = true ∧ frozenset (item.get "denied_workflow_types") = some rule.denied_workflow_types ∧
      frozenset (item.get "allowed_workflow_types") = some rule.allowed_workflow_types ∧
      rule.glob = fieldText repr item "glob" := by
  unfold coerce_rule at made
  split at made
  · next dict =>
    simp only [Option.bind_eq_bind,Option.bind_eq_some_iff] at made
    obtain ⟨denied,read_denied,allowed,read_allowed,made⟩ := made
    unfold BranchPatternRule.make at made
    split at made
    · obtain rfl := Option.some.inj made
      exact ⟨dict,read_denied,read_allowed,rfl⟩
    · cases made
  · cases made

theorem coerce_rule_isSome : (coerce_rule repr item).isSome = true ↔ IsRule repr item := by
  constructor
  · intro made
    obtain ⟨rule,made⟩ := Option.isSome_iff_exists.mp made
    obtain ⟨dict,denied,allowed,glob⟩ := coerce_rule_some made
    refine ⟨dict,by rw [denied]; rfl,by rw [allowed]; rfl,glob ▸ rule.named,?_⟩
    have sides := rule.one_sided
    rw [frozenset_isEmpty denied,frozenset_isEmpty allowed] at sides
    intro same
    exact sides (congrArg (!·) same)
  · rintro ⟨dict,denied,allowed,named,sides⟩
    obtain ⟨denied_types,read_denied⟩ := Option.isSome_iff_exists.mp denied
    obtain ⟨allowed_types,read_allowed⟩ := Option.isSome_iff_exists.mp allowed
    have one_sided : denied_types.isEmpty ≠ allowed_types.isEmpty := by
      rw [frozenset_isEmpty read_denied,frozenset_isEmpty read_allowed]
      intro same
      exact sides (Bool.not_inj same)
    unfold coerce_rule
    rw [if_pos dict,read_denied,read_allowed]
    simp only [Option.bind_eq_bind,Option.bind_some,BranchPatternRule.make]
    rw [dif_pos ⟨named,one_sided⟩]
    rfl

theorem decide_allowed (rule : BranchPatternRule) (workflow_type : String) :
    (rule.decide workflow_type).allowed =
      if rule.denied_workflow_types.isEmpty = false then !isMember workflow_type rule.denied_workflow_types
      else isMember workflow_type rule.allowed_workflow_types := by
  unfold BranchPatternRule.decide
  split
  · cases isMember workflow_type rule.denied_workflow_types <;> rfl
  · cases isMember workflow_type rule.allowed_workflow_types <;> rfl

theorem rule_keeps (made : coerce_rule repr item = some rule) (denied_listed : ¬Spelled (item.get "denied_workflow_types"))
    (allowed_listed : ¬Spelled (item.get "allowed_workflow_types")) {workflow_type : String}
    (denies : (read_rule repr item).denies workflow_type = true) : (rule.decide workflow_type).allowed = false := by
  obtain ⟨-,denied,allowed,-⟩ := coerce_rule_some made
  rw [decide_allowed]
  simp only [Reading.denies,read_rule,listed_eq denied denied_listed,listed_eq allowed allowed_listed] at denies
  split
  · next filled =>
    rw [if_pos filled] at denies
    rw [denies]
    rfl
  · next empty =>
    rw [if_neg empty,Bool.and_eq_true] at denies
    simpa using denies.2

theorem rule_weakens (made : coerce_rule repr item = some rule)
    (spelled : Spelled (item.get "denied_workflow_types") ∨ Spelled (item.get "allowed_workflow_types")) :
    ∃ workflow_type, (read_rule repr item).denies workflow_type = true ∧ (rule.decide workflow_type).allowed = true := by
  obtain ⟨-,denied,allowed,-⟩ := coerce_rule_some made
  have sides := rule.one_sided
  have filled {text : String} (long : 2 ≤ text.toList.length) : text ≠ "" := by
    intro blank
    rw [blank] at long
    simp at long
  rcases spelled with ⟨text,spells,long⟩ | ⟨text,spells,long⟩
  · rw [spells,frozenset_str (filled long)] at denied
    have letters := Option.some.inj denied
    refine ⟨text,?_,?_⟩
    · simp [Reading.denies,read_rule,spells,listed,filled long,isMember_alone]
    · have some_denied : rule.denied_workflow_types.isEmpty = false := by
        rw [← letters]
        cases chars : text.toList with
        | nil => simp [chars] at long
        | cons c cs => rfl
      have other : isMember text rule.denied_workflow_types = false := by
        rw [← letters,Bool.eq_false_iff,ne_eq,isMember_letters]
        rintro ⟨c,-,same⟩
        exact ne_letter long c same
      rw [decide_allowed,if_pos some_denied,other]
      rfl
  · rw [spells,frozenset_str (filled long)] at allowed
    have letters := Option.some.inj allowed
    cases chars : text.toList with
    | nil => simp [chars] at long
    | cons c cs =>
      have some_allowed : rule.allowed_workflow_types.isEmpty = false := by
        rw [← letters,chars]
        rfl
      have none_denied : rule.denied_workflow_types.isEmpty = true := by
        rw [some_allowed] at sides
        simpa using sides
      have blank : (item.get "denied_workflow_types").truthy = false := by
        have empty := frozenset_isEmpty denied
        rw [none_denied] at empty
        simpa using empty.symm
      have unlisted : listed (item.get "denied_workflow_types") = [] := by
        have plain : ¬Spelled (item.get "denied_workflow_types") := by
          rintro ⟨other,is,wide⟩
          rw [is] at blank
          simp [Json.truthy,filled wide] at blank
        rw [listed_eq denied plain]
        exact List.isEmpty_iff.mp none_denied
      refine ⟨String.singleton c,?_,?_⟩
      · have other : text ≠ String.singleton c := ne_letter long c
        have single : listed (item.get "allowed_workflow_types") = [.str text] := by
          rw [spells]
          simp [listed,filled long]
        simp only [Reading.denies,read_rule,unlisted,single,isMember_alone]
        simp [other]
      · have member : isMember (String.singleton c) rule.allowed_workflow_types = true := by
          rw [← letters,isMember_letters]
          exact ⟨c,by rw [chars]; exact List.mem_cons_self,rfl⟩
        rw [decide_allowed,none_denied,if_neg (by decide)]
        exact member

theorem spelled_not_default (made : coerce_rule repr item = some rule)
    (spelled : Spelled (item.get "denied_workflow_types") ∨ Spelled (item.get "allowed_workflow_types")) :
    rule ∉ DEFAULT_BRANCH_PATTERN_RULES := by
  obtain ⟨-,denied,allowed,-⟩ := coerce_rule_some made
  -- A spelled set has at least two members, all of a single letter.
  have members {value : Json} {types : List Json} (is : Spelled value) (read : frozenset value = some types) :
      2 ≤ types.length ∧ ∀ member ∈ types, ∃ c, member = .str (String.singleton c) := by
    obtain ⟨text,rfl,long⟩ := is
    have filled : text ≠ "" := by
      intro blank
      rw [blank] at long
      simp at long
    rw [frozenset_str filled] at read
    obtain rfl := Option.some.inj read
    refine ⟨by simpa using long,fun member found => ?_⟩
    obtain ⟨c,-,rfl⟩ := List.mem_map.mp found
    exact ⟨c,rfl⟩
  intro default
  rcases List.mem_cons.mp default with hotfix | default
  · subst hotfix
    rcases spelled with spelled | spelled
    · exact absurd (members spelled denied).1 (by decide)
    · exact absurd (members spelled allowed).1 (by decide)
  · obtain rfl := List.mem_singleton.mp default
    rcases spelled with spelled | spelled
    · exact absurd (members spelled denied).1 (by decide)
    · obtain ⟨c,letter⟩ := (members spelled allowed).2 (.str "pr_review") List.mem_cons_self
      exact ne_letter (by decide) c (Json.str.inj letter)

theorem coerced_find {items : List Json} {rules : List BranchPatternRule} (branch : String)
    (coerced : items.mapM (coerce_rule repr) = some rules) :
    match items.find? fun item => BranchRules.fnmatchcase branch (fieldText repr item "glob") with
    | some item => ∃ rule, coerce_rule repr item = some rule ∧
        (rules.find? fun rule => BranchRules.fnmatchcase branch rule.glob) = some rule
    | none => (rules.find? fun rule => BranchRules.fnmatchcase branch rule.glob) = none := by
  induction items generalizing rules with
  | nil =>
    obtain rfl : [] = rules := Option.some.inj coerced
    rfl
  | cons item items ih =>
    simp only [List.mapM_cons,Option.bind_eq_bind,Option.bind_eq_some_iff] at coerced
    obtain ⟨rule,made,rest,others,same⟩ := coerced
    obtain rfl : rule :: rest = rules := Option.some.inj same
    obtain ⟨-,-,-,glob⟩ := coerce_rule_some made
    simp only [List.find?_cons]
    rw [← glob]
    cases BranchRules.fnmatchcase branch rule.glob with
    | true => exact ⟨rule,made,rfl⟩
    | false => exact ih others

theorem coerced_iff {items : List Json} :
    (items.mapM (coerce_rule repr)).isSome = true ↔ ∀ item ∈ items, IsRule repr item := by
  induction items with
  | nil => simp
  | cons item items ih =>
    rw [List.forall_mem_cons,← ih,← coerce_rule_isSome]
    cases made : coerce_rule repr item with
    | none => simp [List.mapM_cons,made]
    | some rule =>
      cases others : items.mapM (coerce_rule repr) with
      | none => simp [List.mapM_cons,made,others]
      | some rest => simp [List.mapM_cons,made,others]

theorem coerce_rules_cases (repr : Json → String) (loaded : Json) :
    (coerce_rules repr loaded = DEFAULT_BRANCH_PATTERN_RULES ∧
      (loaded = .null ∨ ∀ items, iterated loaded = some items → ¬∀ item ∈ items, IsRule repr item)) ∨
    ∃ items rules, loaded ≠ .null ∧ iterated loaded = some items ∧ items.mapM (coerce_rule repr) = some rules ∧
      coerce_rules repr loaded = rules := by
  by_cases null : loaded = .null
  · subst null
    exact .inl ⟨rfl,.inl rfl⟩
  · have unfolded : coerce_rules repr loaded =
        ((iterated loaded).bind fun items => items.mapM (coerce_rule repr)).getD DEFAULT_BRANCH_PATTERN_RULES := by
      cases loaded with
      | null => exact absurd rfl null
      | _ => rfl
    rw [unfolded]
    cases read : iterated loaded with
    | none => exact .inl ⟨rfl,.inr fun items found => by cases found⟩
    | some items =>
      cases coerced : items.mapM (coerce_rule repr) with
      | none =>
        left
        refine ⟨by simp [coerced],.inr fun others found each => ?_⟩
        obtain rfl := Option.some.inj found
        have all := coerced_iff.mpr each
        rw [coerced] at all
        cases all
      | some rules => exact .inr ⟨items,rules,null,rfl,coerced,by simp [coerced]⟩

end

/-- The coercion keeps the gate exactly where the defaults apply or no branch has a deciding
    rule with a set spelled as a string. -/
theorem coercion_never_weakens_iff (repr : Json → String) (loaded : Json) :
    NeverWeakens repr loaded ↔ Kept repr loaded := by
  rcases coerce_rules_cases repr loaded with ⟨defaults,unread⟩ | ⟨items,rules,filled,read,coerced,same⟩
  · refine ⟨fun _ => ?_,fun _ => .inl defaults⟩
    rcases unread with null | unread
    · exact .inl null
    · exact .inr fun items found each => absurd each (unread items found)
  · have each : ∀ item ∈ items, IsRule repr item := coerced_iff.mp (by rw [coerced]; rfl)
    unfold NeverWeakens Kept
    rw [same,read,Option.getD_some]
    constructor
    · intro law
      right
      intro others found _ branch item named first
      obtain rfl := Option.some.inj found
      have find := coerced_find branch coerced
      rw [first] at find
      obtain ⟨rule,made,decides⟩ := find
      rw [← not_or]
      intro spelled
      rcases law with defaults | law
      · have member := List.mem_of_find?_eq_some decides
        rw [defaults] at member
        exact spelled_not_default made spelled member
      · obtain ⟨workflow_type,denies,allowed⟩ := rule_weakens made spelled
        have denied : config_denies repr items branch workflow_type = true := by
          unfold config_denies
          rw [if_neg named,first]
          exact denies
        have kept := law branch workflow_type denied
        unfold route_by_branch_pattern at kept
        rw [if_neg named,decides] at kept
        exact absurd (allowed.symm.trans kept) (by decide)
    · intro kept
      right
      intro branch workflow_type denied
      have listed := (kept.resolve_left filled) items rfl each
      unfold config_denies at denied
      unfold route_by_branch_pattern
      by_cases named : branch = ""
      · rw [if_pos named] at denied
        cases denied
      · rw [if_neg named] at denied ⊢
        have find := coerced_find branch coerced
        split at denied
        · next item first =>
          rw [first] at find
          obtain ⟨rule,made,decides⟩ := find
          obtain ⟨denied_listed,allowed_listed⟩ := listed branch item named first
          rw [decides]
          exact rule_keeps made denied_listed allowed_listed denied
        · cases denied

def spelled_rule : Json :=
  .obj [("glob",.str "hotfix/*"),("denied_workflow_types",.str "code_change_commit_only")]

theorem spelled_rule_weakens : ¬NeverWeakens (fun _ => "") (.arr [spelled_rule]) := by
  rintro (defaults | law)
  · have reason := congrArg (List.map BranchPatternRule.reason) defaults
    exact absurd reason (by decide)
  · have kept := law "hotfix/PAY-1" "code_change_commit_only" (by decide)
    exact absurd kept (by decide)

end Automation.RuleCoercion
