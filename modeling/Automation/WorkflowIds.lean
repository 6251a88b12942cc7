import Automation.WebhookEndpoint

/-!
The workflow ids of issues and pull requests.

`parse_workflow_id` is to invert the two formatters. `$` matches before a trailing
line end and `\d` matches the decimal digits of every script, so it does so for
components without a line end and for ASCII ids (`codec_iff`). The webhook makes
one slug of workspace and repository, which does not tell `a-b/c` from `a/b-c`
(`ids_differ_iff`). Numbers stay below the 4300 digits that `int` and `str` convert.
-/
namespace Automation.WorkflowIds
open Automation.PyText Automation.Regex Automation.WebhookClaim Automation.WebhookEndpoint
open Automation.AgentMessages (isUpperAscii)

def isKeyChar (c : Char) : Bool := isUpperAscii c || c.isDigit || c == '_'

/-- `[A-Z][A-Z0-9_]\x7b1,9\x7d`. -/
def PROJECT_KEY : Pattern :=
  .seq (.one isUpperAscii) (.seq (.one isKeyChar) (times 8 (opt (.one isKeyChar))))

/-- `none` where the formatter raises `InvalidIssueKeyError`. -/
def jira_workflow_id (project_key : String) (issue_num : Int) : Option String :=
  if matchLine PROJECT_KEY project_key.toList && decide (1 ≤ issue_num) then
    some ("automation-jira-" ++ project_key ++ "-" ++ toString issue_num)
  else none

/-- One of the two groups of fields is populated, as the provider says. -/
inductive WorkflowIdRef where
  | jira (project_key : String) (issue_num : Int)
  | bitbucket (repo_slug : String) (pr_id : Int)
  deriving DecidableEq

structure InvalidWorkflowIdError where
  value : String
  reason : String
  deriving DecidableEq

/-- A name and a number between literals, up to the end. -/
def numbered (front : String) (name : Pattern) (separator : String) : List Pattern :=
  [literal front.toList,name,literal separator.toList,plus (.one isDecimal)]

/-- `^automation-jira-([A-Z][A-Z0-9_]\x7b1,9\x7d)-(\d+)$`. -/
def JIRA_WF_ID_RE : List Pattern := numbered "automation-jira-" PROJECT_KEY "-"

/-- `^automation-bb-([a-z0-9-]+)-pr-(\d+)$`. -/
def BB_WF_ID_RE : List Pattern :=
  numbered "automation-bb-" (plus (.one fun c => isSlugChar c || c == '-')) "-pr-"

/-- The number of a component; the error is the reason. -/
def positive_number (name : String) (digits : List Char) : Except String Int :=
  if digits ≠ ['0'] ∧ digits.head? = some '0' then .error (name ++ " must not have leading zeros")
  else if natOfDigits digits < 1 then .error (name ++ " must be positive")
  else .ok (natOfDigits digits)

def parse_workflow_id (s : String) : Except InvalidWorkflowIdError WorkflowIdRef :=
  match groups JIRA_WF_ID_RE s.toList with
  | some [_,project_key,_,issue_num] =>
    ((positive_number "issue_num" issue_num).map (.jira (.ofList project_key))).mapError (⟨s,·⟩)
  | _ =>
    match groups BB_WF_ID_RE s.toList with
    | some [_,repo_slug,_,pr_id] =>
      if !matchLine REPO_SLUG_RE repo_slug || contains (.ofList repo_slug) "--" then
        .error ⟨s,"invalid repo_slug '" ++ .ofList repo_slug ++ "'"⟩
      else ((positive_number "pr_id" pr_id).map (.bitbucket (.ofList repo_slug))).mapError (⟨s,·⟩)
    | _ => .error ⟨s,"unknown format"⟩

/-- The formatter of the provider. -/
def WorkflowIdRef.format : WorkflowIdRef → Option String
  | .jira project_key issue_num => jira_workflow_id project_key issue_num
  | .bitbucket repo_slug pr_id => bitbucket_pr_workflow_id repo_slug pr_id

def WorkflowIdRef.name : WorkflowIdRef → String
  | .jira project_key _ => project_key
  | .bitbucket repo_slug _ => repo_slug

/-- A separator is found from the end, where what follows it does not contain it. -/
theorem split_last {c : Char} {xs ys xs' ys' : List Char} (absent : c ∉ ys) (absent' : c ∉ ys')
    (same : xs ++ c :: ys = xs' ++ c :: ys') : xs = xs' ∧ ys = ys' := by
  rcases List.append_eq_append_iff.mp same with ⟨between,rfl,rest⟩ | ⟨between,rfl,rest⟩
  · cases between with
    | nil => exact ⟨by simp,(List.cons.inj rest).2⟩
    | cons d ds =>
      obtain ⟨_,tail⟩ := List.cons.inj rest
      exact absurd (by simp [tail]) absent
  · cases between with
    | nil => exact ⟨by simp,(List.cons.inj rest).2.symm⟩
    | cons d ds =>
      obtain ⟨_,tail⟩ := List.cons.inj rest
      exact absurd (by simp [tail]) absent'

/-- The digits of a number and the line end that `$` allows. -/
structure Digits (digits rest : List Char) : Prop where
  nonempty : digits ≠ []
  decimal : ∀ c ∈ digits, isDecimal c = true
  ends : rest = [] ∨ rest = ['\n']

private theorem Digits.no_dash {digits rest : List Char} (valid : Digits digits rest) : '-' ∉ digits ++ rest := by
  intro member
  rcases List.mem_append.mp member with inDigits | inRest
  · exact absurd (valid.decimal _ inDigits) (by decide)
  · rcases valid.ends with rfl | rfl
    · cases inRest
    · exact absurd inRest (by decide)

private theorem Digits.unique {digits rest digits' rest' : List Char} (valid : Digits digits rest)
    (valid' : Digits digits' rest') (same : digits ++ rest = digits' ++ rest') : digits = digits' := by
  have lineEnd : isDecimal '\n' = false := by decide
  have no_end : ∀ {digits rest}, Digits digits rest → '\n' ∉ digits := fun valid member =>
    absurd (valid.decimal _ member) (by simp [lineEnd])
  rcases valid.ends with rfl | rfl <;> rcases valid'.ends with rfl | rfl
  · simpa using same
  · rw [List.append_nil] at same
    exact absurd (by simp [same]) (no_end valid)
  · rw [List.append_nil] at same
    exact absurd (by simp [← same]) (no_end valid')
  · exact List.append_cancel_right same

/-- The text of the pattern with these groups. -/
structure Reads (front : String) (name : Pattern) (separator : String) (text key digits rest : List Char) : Prop where
  split : text = front.toList ++ key ++ separator.toList ++ digits ++ rest
  member : key ∈ denote name
  number : Digits digits rest

private theorem grouped_numbered {front : String} {name : Pattern} {separator : String} {text rest : List Char}
    {words : List (List Char)} (fit : Grouped (numbered front name separator) text words rest) :
    ∃ key digits, words = [front.toList,key,separator.toList,digits] ∧ Reads front name separator text key digits rest := by
  obtain ⟨split,each,ends⟩ := fit
  rcases each with _ | ⟨isFront,_ | ⟨isName,_ | ⟨isSeparator,_ | ⟨isNumber,_ | _⟩⟩⟩⟩
  rename_i key _ digits
  rw [denote_literal] at isFront isSeparator
  obtain ⟨nonempty,decimal⟩ := (denote_plus_one isDecimal digits).mp isNumber
  subst isFront isSeparator
  exact ⟨key,digits,rfl,by simp [split],isName,nonempty,decimal,ends⟩

private theorem numbered_iff (front : String) (name : Pattern) (before : String) (text : List Char)
    (words : List (List Char)) :
    groups (numbered front name (before ++ "-")) text = some words ↔
      ∃ key digits rest, words = [front.toList,key,(before ++ "-").toList,digits] ∧
        Reads front name (before ++ "-") text key digits rest := by
  constructor
  · intro found
    obtain ⟨rest,fit⟩ := groups_sound found
    obtain ⟨key,digits,split,reads⟩ := grouped_numbered fit
    exact ⟨key,digits,rest,split,reads⟩
  · rintro ⟨key,digits,rest,rfl,reads⟩
    have number := (denote_plus_one isDecimal digits).mpr ⟨reads.number.nonempty,reads.number.decimal⟩
    have fit : Grouped (numbered front name (before ++ "-")) text
        [front.toList,key,(before ++ "-").toList,digits] rest :=
      ⟨by simp [reads.split],.cons ((denote_literal _ _).mpr rfl) (.cons reads.member
        (.cons ((denote_literal _ _).mpr rfl) (.cons number .nil))),reads.number.ends⟩
    refine groups_eq fit fun words' rest' fit' => ?_
    obtain ⟨key',digits',rfl,reads'⟩ := grouped_numbered fit'
    have same := reads.split.symm.trans reads'.split
    simp only [String.toList_append,List.append_assoc,List.append_cancel_left_eq] at same
    have dash : "-".toList = ['-'] := rfl
    rw [dash,List.singleton_append,List.singleton_append,← List.append_assoc,← List.append_assoc] at same
    obtain ⟨keys,numbers⟩ := split_last reads.number.no_dash reads'.number.no_dash same
    rw [List.append_cancel_right keys,reads.number.unique reads'.number numbers]

namespace WorkflowIdRef

def front : WorkflowIdRef → String
  | .jira .. => "automation-jira-"
  | .bitbucket .. => "automation-bb-"

/-- What stands between name and number, before its dash. -/
def beforeDash : WorkflowIdRef → String
  | .jira .. => ""
  | .bitbucket .. => "-pr"

def separator (ref : WorkflowIdRef) : String := ref.beforeDash ++ "-"

def number : WorkflowIdRef → Int
  | .jira _ issue_num => issue_num
  | .bitbucket _ pr_id => pr_id

/-- The group of the name. -/
def pattern : WorkflowIdRef → Pattern
  | .jira .. => PROJECT_KEY
  | .bitbucket .. => plus (.one fun c => isSlugChar c || c == '-')

/-- What the formatter checks of the name. -/
def Accepted : WorkflowIdRef → Prop
  | .jira project_key _ => matchLine PROJECT_KEY project_key.toList = true
  | .bitbucket repo_slug _ => matchLine REPO_SLUG_RE repo_slug.toList = true ∧ contains repo_slug "--" = false

theorem format_iff (ref : WorkflowIdRef) (s : String) :
    ref.format = some s ↔ ref.Accepted ∧ 1 ≤ ref.number ∧
      s = ref.front ++ ref.name ++ ref.separator ++ toString ref.number := by
  cases ref with
  | jira project_key issue_num =>
    simp only [format,jira_workflow_id,Accepted,number,front,name,separator,beforeDash]
    constructor
    · intro formatted
      split at formatted
      · next accepted => simp_all
      · cases formatted
    · rintro ⟨accepted,positive,rfl⟩
      simp [accepted,positive]
  | bitbucket repo_slug pr_id =>
    simp only [format,bitbucket_pr_workflow_id,Accepted,number,front,name,separator,beforeDash]
    constructor
    · intro formatted
      split at formatted
      · next accepted => simp_all [String.append_assoc]
      · cases formatted
    · rintro ⟨accepted,positive,rfl⟩
      simp [accepted,positive,String.append_assoc]

end WorkflowIdRef

private theorem positive_number_iff (name : String) (digits : List Char) (n : Int) :
    positive_number name digits = .ok n ↔
      (digits = ['0'] ∨ digits.head? ≠ some '0') ∧ 1 ≤ natOfDigits digits ∧ n = natOfDigits digits := by
  by_cases leading : digits ≠ ['0'] ∧ digits.head? = some '0'
  · rw [positive_number,if_pos leading]
    simp [leading]
  · have canonical : digits = ['0'] ∨ digits.head? ≠ some '0' := by
      by_contra neither
      exact leading (by simpa [not_or] using neither)
    by_cases small : natOfDigits digits < 1
    · rw [positive_number,if_neg leading,if_pos small]
      simp
      omega
    · rw [positive_number,if_neg leading,if_neg small]
      simp [canonical,eq_comm]
      omega

/-- What a string is that names the components. -/
structure Parsed (s : String) (ref : WorkflowIdRef) (digits rest : List Char) : Prop where
  reads : Reads ref.front ref.pattern ref.separator s.toList ref.name.toList digits rest
  accepted : ref.Accepted
  canonical : digits = ['0'] ∨ digits.head? ≠ some '0'
  positive : 1 ≤ natOfDigits digits
  number : ref.number = natOfDigits digits

private theorem parse_jira {s : String} {key digits : List Char}
    (found : groups JIRA_WF_ID_RE s.toList = some ["automation-jira-".toList,key,"-".toList,digits]) (ref : WorkflowIdRef) :
    parse_workflow_id s = .ok ref ↔ ∃ n, positive_number "issue_num" digits = .ok n ∧ ref = .jira (.ofList key) n := by
  rw [parse_workflow_id,found]
  simp only
  cases positive_number "issue_num" digits with
  | error reason => simp [Except.map,Except.mapError]
  | ok n => simp [Except.map,Except.mapError,eq_comm]

private theorem parse_bitbucket {s : String} {slug digits : List Char} (other : groups JIRA_WF_ID_RE s.toList = none)
    (found : groups BB_WF_ID_RE s.toList = some ["automation-bb-".toList,slug,"-pr-".toList,digits]) (ref : WorkflowIdRef) :
    parse_workflow_id s = .ok ref ↔ (matchLine REPO_SLUG_RE slug = true ∧ contains (.ofList slug) "--" = false) ∧
      ∃ n, positive_number "pr_id" digits = .ok n ∧ ref = .bitbucket (.ofList slug) n := by
  rw [parse_workflow_id,other,found]
  simp only
  by_cases accepted : matchLine REPO_SLUG_RE slug = true ∧ contains (.ofList slug) "--" = false
  · rw [if_neg (by simp [accepted])]
    cases positive_number "pr_id" digits with
    | error reason => simp [Except.map,Except.mapError]
    | ok n => simp [accepted,Except.map,Except.mapError,eq_comm]
  · have refused : (!matchLine REPO_SLUG_RE slug || contains (.ofList slug) "--") = true := by
      cases named : matchLine REPO_SLUG_RE slug with
      | false => rfl
      | true => simpa [named] using accepted
    rw [if_pos refused]
    constructor
    · intro parsed
      cases parsed
    · rintro ⟨accepts,_⟩
      exact absurd accepts accepted

private theorem jira_iff (text : List Char) (words : List (List Char)) :
    groups JIRA_WF_ID_RE text = some words ↔ ∃ key digits rest,
      words = ["automation-jira-".toList,key,"-".toList,digits] ∧
        Reads "automation-jira-" PROJECT_KEY "-" text key digits rest :=
  numbered_iff "automation-jira-" PROJECT_KEY "" text words

private theorem bitbucket_iff (text : List Char) (words : List (List Char)) :
    groups BB_WF_ID_RE text = some words ↔ ∃ slug digits rest,
      words = ["automation-bb-".toList,slug,"-pr-".toList,digits] ∧
        Reads "automation-bb-" (plus (.one fun c => isSlugChar c || c == '-')) "-pr-" text slug digits rest :=
  numbered_iff "automation-bb-" _ "-pr" text words

private theorem not_jira {text slug digits rest : List Char} {name : Pattern} {separator : String}
    (reads : Reads "automation-bb-" name separator text slug digits rest) : groups JIRA_WF_ID_RE text = none := by
  refine Option.eq_none_iff_forall_ne_some.mpr fun words found => ?_
  obtain ⟨_,_,_,_,other⟩ := (jira_iff text words).mp found
  have same := reads.split.symm.trans other.split
  simp at same

theorem parse_iff (s : String) (ref : WorkflowIdRef) :
    parse_workflow_id s = .ok ref ↔ ∃ digits rest, Parsed s ref digits rest := by
  constructor
  · intro parsed
    cases jira : groups JIRA_WF_ID_RE s.toList with
    | some words =>
      obtain ⟨key,digits,rest,rfl,reads⟩ := (jira_iff _ _).mp jira
      obtain ⟨n,counted,rfl⟩ := (parse_jira jira ref).mp parsed
      obtain ⟨canonical,positive,rfl⟩ := (positive_number_iff _ _ _).mp counted
      have accepted : matchLine PROJECT_KEY key = true :=
        (matchLine_iff _ _).mpr ⟨key,[],by simp,reads.member,.inl rfl⟩
      exact ⟨digits,rest,by rwa [WorkflowIdRef.name,String.toList_ofList],
        by rwa [WorkflowIdRef.Accepted,String.toList_ofList],canonical,positive,rfl⟩
    | none =>
      cases bitbucket : groups BB_WF_ID_RE s.toList with
      | some words =>
        obtain ⟨slug,digits,rest,rfl,reads⟩ := (bitbucket_iff _ _).mp bitbucket
        obtain ⟨accepted,n,counted,rfl⟩ := (parse_bitbucket jira bitbucket ref).mp parsed
        obtain ⟨canonical,positive,rfl⟩ := (positive_number_iff _ _ _).mp counted
        exact ⟨digits,rest,by rwa [WorkflowIdRef.name,String.toList_ofList],
        by rwa [WorkflowIdRef.Accepted,String.toList_ofList],canonical,positive,rfl⟩
      | none =>
        rw [parse_workflow_id,jira,bitbucket] at parsed
        cases parsed
  · rintro ⟨digits,rest,reads,accepted,canonical,positive,number⟩
    cases ref with
    | jira project_key issue_num =>
      have found := (jira_iff s.toList _).mpr ⟨project_key.toList,digits,rest,rfl,reads⟩
      refine (parse_jira found _).mpr ⟨issue_num,?_,by rw [String.ofList_toList]⟩
      exact (positive_number_iff _ _ _).mpr ⟨canonical,positive,number⟩
    | bitbucket repo_slug pr_id =>
      have found := (bitbucket_iff s.toList _).mpr ⟨repo_slug.toList,digits,rest,rfl,reads⟩
      refine (parse_bitbucket (not_jira reads) found _).mpr ⟨by rwa [String.ofList_toList],pr_id,?_,by rw [String.ofList_toList]⟩
      exact (positive_number_iff _ _ _).mpr ⟨canonical,positive,number⟩

private theorem isUpper_ascii {c : Char} (upper : isUpperAscii c = true) : 65 ≤ c.toNat ∧ c.toNat ≤ 90 := by
  simpa [isUpperAscii,Char.le_def,UInt32.le_iff_toNat_le] using upper

private theorem isSlugChar_ascii {c : Char} (slug : isSlugChar c = true) : 48 ≤ c.toNat ∧ c.toNat < 128 := by
  rcases Bool.or_eq_true _ _ ▸ slug with letter | digit
  · have range : 97 ≤ c.toNat ∧ c.toNat ≤ 122 := by
      simpa [Char.le_def,UInt32.le_iff_toNat_le] using letter
    omega
  · have range := isDigit_iff.mp digit
    omega

/-- What the characters of a name are to either pattern. -/
def Printable (c : Char) : Prop := 32 < c.toNat ∧ c.toNat < 128

private theorem project_key_printable : Within Printable PROJECT_KEY := by
  have upper : ∀ c, isUpperAscii c = true → Printable c := by
    intro c upper
    have range := isUpper_ascii upper
    exact ⟨by omega,by omega⟩
  have key : ∀ c, isKeyChar c = true → Printable c := by
    intro c accepts
    rcases Bool.or_eq_true _ _ ▸ accepts with letter | underscore
    · rcases Bool.or_eq_true _ _ ▸ letter with letter | digit
      · exact upper c letter
      · have range := isDigit_iff.mp digit
        exact ⟨by omega,by omega⟩
    · rw [beq_iff_eq.mp underscore]
      exact ⟨by decide,by decide⟩
  simp only [PROJECT_KEY,times,opt,Within]
  exact ⟨upper,key,⟨key,trivial⟩,⟨key,trivial⟩,⟨key,trivial⟩,⟨key,trivial⟩,⟨key,trivial⟩,⟨key,trivial⟩,⟨key,trivial⟩,
    ⟨key,trivial⟩,trivial⟩

private theorem slug_dash_printable (c : Char) (accepts : (isSlugChar c || c == '-') = true) : Printable c := by
  rcases Bool.or_eq_true _ _ ▸ accepts with slug | dash
  · have range := isSlugChar_ascii slug
    exact ⟨by omega,by omega⟩
  · rw [beq_iff_eq.mp dash]
    exact ⟨by decide,by decide⟩

private theorem pattern_printable (ref : WorkflowIdRef) : Within Printable ref.pattern := by
  cases ref with
  | jira => exact project_key_printable
  | bitbucket => exact ⟨slug_dash_printable,slug_dash_printable⟩

theorem whole_of_matchLine {r : Pattern} {text : List Char} (accepted : matchLine r text = true)
    (clean : text.getLast? ≠ some '\n') : text ∈ denote r := by
  obtain ⟨word,rest,rfl,member,rfl | rfl⟩ := (matchLine_iff _ _).mp accepted
  · simpa using member
  · simp at clean

private theorem slug_in_group {slug : List Char} (member : slug ∈ denote REPO_SLUG_RE) :
    slug ∈ denote (plus (.one fun c => isSlugChar c || c == '-')) := by
  rw [denote_plus_one]
  have within : Within (fun c => (isSlugChar c || c == '-') = true) REPO_SLUG_RE := by
    simp only [REPO_SLUG_RE,opt,Within]
    have slug : ∀ c, isSlugChar c = true → (isSlugChar c || c == '-') = true := fun c accepts => by simp [accepts]
    exact ⟨slug,⟨fun _ accepts => accepts,slug⟩,trivial⟩
  refine ⟨?_,denote_within within member⟩
  obtain ⟨front,⟨c,rfl,_⟩,rest,_,rfl⟩ := Language.mem_mul.mp member
  simp

private theorem toString_number {n : Int} (positive : 1 ≤ n) : (toString n).toList = Nat.toDigits 10 n.toNat := by
  obtain ⟨m,rfl⟩ := Int.eq_ofNat_of_zero_le (by omega : 0 ≤ n)
  have written : toString (m : Int) = toString m := rfl
  rw [Int.toNat_natCast,written,Nat.toString_eq_repr,Nat.toList_repr]

theorem parse_format_iff {ref : WorkflowIdRef} {s : String} (formatted : ref.format = some s) :
    parse_workflow_id s = .ok ref ↔ ref.name.toList.getLast? ≠ some '\n' := by
  obtain ⟨accepted,positive,rfl⟩ := (WorkflowIdRef.format_iff _ _).mp formatted
  constructor
  · intro parsed ends
    obtain ⟨digits,rest,valid⟩ := (parse_iff _ _).mp parsed
    have printable := denote_within (pattern_printable ref) valid.reads.member '\n' (List.mem_of_getLast? ends)
    exact absurd printable.1 (by decide)
  · intro clean
    refine (parse_iff _ _).mpr ⟨Nat.toDigits 10 ref.number.toNat,[],⟨?_,?_,?_⟩,accepted,?_,?_,?_⟩
    · simp only [String.toList_append,toString_number positive,List.append_nil]
    · cases ref with
      | jira => exact whole_of_matchLine accepted clean
      | bitbucket => exact slug_in_group (whole_of_matchLine accepted.1 clean)
    · exact ⟨Nat.toDigits_ne_nil,fun c member =>
        isDecimal_of_isDigit (toDigits_isDigit member),.inl rfl⟩
    · exact .inr (head_toDigits (by omega))
    · rw [natOfDigits_toDigits]
      omega
    · rw [natOfDigits_toDigits]
      omega

private theorem literals_ascii (ref : WorkflowIdRef) : ∀ c ∈ ref.front.toList ++ ref.separator.toList, c.toNat < 128 := by
  cases ref with
  | jira =>
    have all : ("automation-jira-".toList ++ ("" ++ "-").toList).all (fun c => decide (c.toNat < 128)) = true := by decide
    exact fun c member => of_decide_eq_true (List.all_eq_true.mp all c member)
  | bitbucket =>
    have all : ("automation-bb-".toList ++ ("-pr" ++ "-").toList).all (fun c => decide (c.toNat < 128)) = true := by decide
    exact fun c member => of_decide_eq_true (List.all_eq_true.mp all c member)

/-- An ASCII id without a line end is written back as it was. -/
theorem format_parse_iff {ref : WorkflowIdRef} {s : String} (parsed : parse_workflow_id s = .ok ref) :
    ref.format = some s ↔ (∀ c ∈ s.toList, c.toNat < 128) ∧ s.toList.getLast? ≠ some '\n' := by
  obtain ⟨digits,rest,reads,accepted,canonical,positive,number⟩ := (parse_iff _ _).mp parsed
  have above : 1 ≤ ref.number := by omega
  have written : (toString ref.number).toList = Nat.toDigits 10 (natOfDigits digits) := by
    rw [toString_number above,number,Int.toNat_natCast]
  have same : s = ref.front ++ ref.name ++ ref.separator ++ toString ref.number ↔
      digits ++ rest = Nat.toDigits 10 (natOfDigits digits) := by
    rw [← String.toList_inj,reads.split]
    simp only [String.toList_append,List.append_assoc,List.append_cancel_left_eq,written]
  rw [WorkflowIdRef.format_iff,same]
  constructor
  · rintro ⟨_,_,canon⟩
    have ascii : ∀ c ∈ digits ++ rest, c.isDigit = true := by
      rw [canon]
      exact fun c member => toDigits_isDigit member
    constructor
    · intro c member
      rw [reads.split,List.append_assoc] at member
      have literals := literals_ascii ref
      have name := denote_within (pattern_printable ref) reads.member
      rcases List.mem_append.mp member with inFront | inDigits
      · simp only [List.mem_append] at inFront literals
        rcases inFront with (inFront | inName) | inSeparator
        · exact literals c (.inl inFront)
        · exact (name c inName).2
        · exact literals c (.inr inSeparator)
      · have range := isDigit_iff.mp (ascii c inDigits)
        omega
    · intro ends
      rw [reads.split,List.append_assoc,List.getLast?_append_of_ne_nil _ (by simp [reads.number.nonempty])] at ends
      exact absurd (ascii _ (List.mem_of_getLast? ends)) (by decide)
  · rintro ⟨ascii,clean⟩
    refine ⟨accepted,above,?_⟩
    rcases reads.number.ends with rfl | rfl
    · have digit : ∀ c ∈ digits, c.isDigit = true := fun c member =>
        isDigit_of_isDecimal (reads.number.decimal c member) (ascii c (by simp [reads.split,member]))
      rw [List.append_nil,toDigits_natOfDigits digit reads.number.nonempty]
      rcases canonical with rfl | canonical
      · exact absurd positive (by decide)
      · exact canonical
    · exact absurd (by rw [reads.split,List.getLast?_concat]) clean

/-- Formatting and parsing are inverse on names without a line end and on ASCII ids
    without one, and on these alone. -/
theorem codec_iff (ref : WorkflowIdRef) (s : String) :
    (ref.format = some s → (parse_workflow_id s = .ok ref ↔ ref.name.toList.getLast? ≠ some '\n')) ∧
    (parse_workflow_id s = .ok ref →
      (ref.format = some s ↔ (∀ c ∈ s.toList, c.toNat < 128) ∧ s.toList.getLast? ≠ some '\n')) :=
  ⟨parse_format_iff,format_parse_iff⟩

/-- A line end is in no component, and `٣` counts as a digit. -/
theorem codec_broken :
    (jira_workflow_id "PAY\n" 3).isSome = true ∧
      (∀ s, jira_workflow_id "PAY\n" 3 = some s → parse_workflow_id s ≠ .ok (.jira "PAY\n" 3)) ∧
    parse_workflow_id "automation-jira-PAY-٣" = .ok (.jira "PAY" 3) ∧
      WorkflowIdRef.format (.jira "PAY" 3) = some "automation-jira-PAY-3" := by
  have accepted : jira_workflow_id "PAY\n" 3 = some "automation-jira-PAY\n-3" := by decide
  refine ⟨by rw [accepted]; rfl,?_,by decide,by decide⟩
  intro s formatted parsed
  have read_back : WorkflowIdRef.format (.jira "PAY\n" 3) = some s := formatted
  exact (parse_format_iff read_back).mp parsed (by decide)

/-- Both round trips, of a plain key. -/
theorem codec_iff_pay :
    (parse_workflow_id "automation-jira-PAY-3" = .ok (.jira "PAY" 3) ↔ "PAY".toList.getLast? ≠ some '\n') ∧
    (jira_workflow_id "PAY" 3 = some "automation-jira-PAY-3" ↔
      (∀ c ∈ "automation-jira-PAY-3".toList, c.toNat < 128) ∧
        "automation-jira-PAY-3".toList.getLast? ≠ some '\n') :=
  ⟨(codec_iff (.jira "PAY" 3) "automation-jira-PAY-3").1 (by decide),
    (codec_iff (.jira "PAY" 3) "automation-jira-PAY-3").2 (by decide)⟩

/-- The words of a text: what stands between its dashes. -/
def dashWords (text : List Char) : List (List Char) := (text.splitOn '-').filter (!·.isEmpty)

/-- The words of a repository name, in lower case, where a slash is a dash. -/
def nameWords (repo_slug : String) : List (List Char) := dashWords (lower (replaceChar '/' '-' repo_slug)).toList

private theorem dashWords_append (xs ys : List Char) : dashWords (xs ++ '-' :: ys) = dashWords xs ++ dashWords ys := by
  rw [dashWords,List.splitOn_append_cons_of_beq xs ys (by decide),List.filter_append]
  rfl

private theorem dashWords_nil : dashWords [] = [] := by
  rw [dashWords,List.splitOn_nil]
  rfl

private theorem dashWords_dropWhile (text : List Char) : dashWords (text.dropWhile (· == '-')) = dashWords text := by
  induction text with
  | nil => rfl
  | cons c cs ih =>
    by_cases dash : c = '-'
    · subst dash
      rw [List.dropWhile_cons_of_pos (by decide),ih,← List.nil_append ('-' :: cs),dashWords_append,dashWords_nil,
        List.nil_append]
    · rw [List.dropWhile_cons_of_neg (by simpa using dash)]

private theorem dashWords_rdrop (text : List Char) :
    dashWords (text.reverse.dropWhile (· == '-')).reverse = dashWords text := by
  induction text using List.reverseRecOn with
  | nil => rfl
  | append_singleton cs c ih =>
    rw [List.reverse_append,List.reverse_singleton,List.singleton_append]
    by_cases dash : c = '-'
    · subst dash
      rw [List.dropWhile_cons_of_pos (by decide),ih,dashWords_append,dashWords_nil,List.append_nil]
    · rw [List.dropWhile_cons_of_neg (by simpa using dash),List.reverse_cons,List.reverse_reverse]

private theorem dashWords_collapse (text : List Char) :
    ∀ before, dashWords (before ++ collapseDashes text) = dashWords (before ++ text) := by
  induction text using collapseDashes.induct with
  | case1 cs ih =>
    intro before
    have single : '-' :: '-' :: cs = ['-'] ++ '-' :: cs := rfl
    rw [collapseDashes,ih before,dashWords_append,single,← List.append_assoc,dashWords_append,dashWords_append,
      dashWords_nil,List.append_nil]
  | case2 c cs other ih =>
    intro before
    rw [collapseDashes.eq_2 c cs other,List.append_cons,ih,List.append_cons before c cs]
  | case3 =>
    intro before
    rfl

private theorem slug_words (repo_slug : String) :
    dashWords (collapseDashes (stripBy (· == '-') (lower (replaceChar '/' '-' repo_slug)).toList)) =
      nameWords repo_slug := by
  have collapsed := dashWords_collapse (stripBy (· == '-') (lower (replaceChar '/' '-' repo_slug)).toList) []
  rw [List.nil_append,List.nil_append] at collapsed
  rw [collapsed,stripBy,dashWords_rdrop,dashWords_dropWhile]
  rfl

private theorem pieces_nonempty (text : List Char) (single : ¬['-','-'] <:+: text) (last : text.getLast? ≠ some '-') :
    (∀ before, '-' ∉ before → before ≠ [] → ∀ piece ∈ (before ++ text).splitOn '-', piece ≠ []) ∧
    (text ≠ [] → text.head? ≠ some '-' → ∀ piece ∈ text.splitOn '-', piece ≠ []) := by
  induction text with
  | nil =>
    refine ⟨fun before absent nonempty => ?_,fun nonempty => absurd rfl nonempty⟩
    rw [List.append_nil,List.splitOn_eq_singleton absent]
    simpa using nonempty
  | cons c cs ih =>
    have tail_last : cs.getLast? ≠ some '-' := by
      intro ends
      apply last
      rw [List.getLast?_cons,ends]
      rfl
    obtain ⟨continued,begun⟩ := ih (fun inner => single (inner.trans (List.suffix_cons c cs).isInfix)) tail_last
    constructor
    · intro before absent nonempty
      by_cases dash : c = '-'
      · subst dash
        rw [List.splitOn_append_cons_of_beq before cs (by decide),List.splitOn_eq_singleton absent]
        have more : cs ≠ [] := by
          rintro rfl
          exact last rfl
        have other : cs.head? ≠ some '-' := by
          intro starts
          obtain ⟨ds,rfl⟩ := List.head?_eq_some_iff.mp starts
          exact single ⟨[],ds,rfl⟩
        rintro piece (_ | ⟨_,member⟩)
        · exact nonempty
        · exact begun more other piece member
      · rw [List.append_cons]
        exact continued (before ++ [c]) (by simp [absent,Ne.symm dash]) (by simp)
    · intro _ starts
      exact continued [c] (by simpa [eq_comm] using starts) (by simp)

private theorem slug_ends {slug : List Char} (named : matchLine REPO_SLUG_RE slug = true) :
    slug ≠ [] ∧ slug.head? ≠ some '-' ∧ slug.getLast? ≠ some '-' := by
  obtain ⟨word,rest,split,member,ends⟩ := (matchLine_iff _ _).mp named
  obtain ⟨front,⟨c,rfl,first⟩,back,inBack,rfl⟩ := Language.mem_mul.mp member
  have dash : isSlugChar '-' = false := by decide
  have not_dash : ∀ d, isSlugChar d = true → d ≠ '-' := by
    rintro d accepts rfl
    rw [dash] at accepts
    cases accepts
  refine ⟨by rw [split]; simp,?_,?_⟩
  · intro opens
    rw [split] at opens
    simp at opens
    exact not_dash c first opens
  · intro closes
    rcases ends with rfl | rfl
    · rcases inBack with ⟨middle,_,final,⟨d,rfl,slugChar⟩,rfl⟩ | empty
      · have final : slug = ([c] ++ middle) ++ [d] := by simpa using split
        rw [final,List.getLast?_concat] at closes
        exact not_dash d slugChar (Option.some.inj closes)
      · rw [split,(Language.mem_one back).mp empty] at closes
        simp at closes
        exact not_dash c first closes
    · rw [split,List.getLast?_concat] at closes
      exact absurd closes (by decide)

private theorem intercalate_words {slug : List Char} (named : matchLine REPO_SLUG_RE slug = true)
    (single : contains (.ofList slug) "--" = false) : ['-'].intercalate (dashWords slug) = slug := by
  have no_double : ¬['-','-'] <:+: slug := by
    rw [← occurs_iff,← String.toList_ofList (l := slug)]
    exact ne_true_of_eq_false single
  obtain ⟨nonempty,start,last⟩ := slug_ends named
  have pieces := (pieces_nonempty slug no_double last).2 nonempty start
  rw [dashWords,List.filter_eq_self.mpr (fun piece member => by simpa using pieces piece member)]
  exact List.intercalate_splitOn '-'

private theorem named_id {event : WebhookEvent} {id : String} (bitbucket : event.provider = "bitbucket")
    (named : workflow_id_for event = some id) :
    ∃ repo_slug pr_id slug, event.repo_slug = some repo_slug ∧ event.pr_id = some pr_id ∧ 1 ≤ pr_id ∧
      ['-'].intercalate (dashWords slug) = slug ∧ dashWords slug = nameWords repo_slug ∧
      id = "automation-bb-" ++ .ofList slug ++ "-pr-" ++ toString pr_id := by
  rw [workflow_id_for,if_neg (by rw [bitbucket]; decide)] at named
  cases slugged : event.repo_slug with
  | none => simp [slugged] at named
  | some repo_slug =>
    cases numbered : event.pr_id with
    | none => simp [slugged,numbered] at named
    | some pr_id =>
      simp only [slugged,numbered] at named
      split at named
      · cases named
      · rw [bitbucket_pr_workflow_id] at named
        split at named
        · next accepted =>
          cases named
          simp only [Bool.and_eq_true,decide_eq_true_eq,Bool.not_eq_true',String.toList_ofList] at accepted
          obtain ⟨⟨matched,single⟩,positive⟩ := accepted
          exact ⟨repo_slug,pr_id,_,rfl,rfl,positive,intercalate_words matched single,slug_words repo_slug,rfl⟩
        · cases named

/-- The ids of two pull requests differ exactly if their numbers differ or the words
    of the names of their repositories do. -/
theorem ids_differ_iff {first second : WebhookEvent} {id id' : String}
    (bitbucket : first.provider = "bitbucket") (bitbucket' : second.provider = "bitbucket")
    (named : workflow_id_for first = some id) (named' : workflow_id_for second = some id') :
    id ≠ id' ↔ first.pr_id ≠ second.pr_id ∨ first.repo_slug.map nameWords ≠ second.repo_slug.map nameWords := by
  obtain ⟨repo,pr,slug,hasRepo,hasPr,positive,whole,words,rfl⟩ := named_id bitbucket named
  obtain ⟨repo',pr',slug',hasRepo',hasPr',positive',whole',words',rfl⟩ := named_id bitbucket' named'
  rw [hasRepo,hasPr,hasRepo',hasPr',← not_and_or,not_iff_not]
  simp only [Option.map_some,Option.some.injEq]
  constructor
  · intro same
    have texts := congrArg String.toList same
    simp only [String.toList_append,toString_number positive,toString_number positive',String.toList_ofList,
      List.append_assoc,List.append_cancel_left_eq] at texts
    have separator : "-pr-".toList = ['-','p','r'] ++ ['-'] := rfl
    have no_dash : ∀ n, '-' ∉ Nat.toDigits 10 n := fun n member => absurd (toDigits_isDigit member) (by decide)
    rw [separator,List.append_assoc,List.append_assoc,List.singleton_append,List.singleton_append,
      ← List.append_assoc,← List.append_assoc] at texts
    obtain ⟨slugs,numbers⟩ := split_last (no_dash _) (no_dash _) texts
    have slug_same := List.append_cancel_right slugs
    have number_same := congrArg natOfDigits numbers
    rw [natOfDigits_toDigits,natOfDigits_toDigits] at number_same
    exact ⟨by omega,by rw [← words,← words',slug_same]⟩
  · rintro ⟨rfl,same⟩
    rw [← whole,← whole',words,words',same]

def pullRequest (repo_slug : String) (pr_id : Int) : WebhookEvent :=
  { provider := "bitbucket", event_type := "pullrequest:commented", delivery_id := "d-1"
    actor_account_id := some "alice", body_text := some "@bot review", project_key := none
    repo_slug := some repo_slug, issue_key := none, pr_id := some pr_id, raw_payload := [] }

/-- Two repositories of different workspaces share an id. -/
theorem ids_collide :
    workflow_id_for (pullRequest "a-b/c" 1) = some "automation-bb-a-b-c-pr-1" ∧
      workflow_id_for (pullRequest "a/b-c" 1) = some "automation-bb-a-b-c-pr-1" := by
  constructor <;> decide

theorem ids_differ_iff_pay :
    ("automation-bb-team-pay-pr-1" : String) ≠ "automation-bb-team-bill-pr-1" ↔
      (pullRequest "team/pay" 1).pr_id ≠ (pullRequest "team/bill" 1).pr_id ∨
        (pullRequest "team/pay" 1).repo_slug.map nameWords ≠ (pullRequest "team/bill" 1).repo_slug.map nameWords :=
  ids_differ_iff (by decide) (by decide) (by decide) (by decide)

end Automation.WorkflowIds
