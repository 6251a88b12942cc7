import Automation.StrFormat
import Mathlib.Data.Finset.Sort
import Mathlib.Data.String.Basic

/-!
Prompt bodies: `validate_template_format` of `validate.py` reads the names of a body's fields, and
`PromptLoader.render` of `loader.py` formats the body. What the validator rejects is never formatted
(`format_ok_valid`); what it accepts is rendered for every `PromptVars` where its fields suit all
of them (`agree_iff`).
-/
namespace Automation.PromptTemplates
open Automation.StrFormat Automation.PyText

inductive PromptLanguage where
  | tr
  | en
  deriving DecidableEq

def PromptLanguage.text : PromptLanguage → String
  | .tr => "tr"
  | .en => "en"

structure PromptVars where
  department_id : String
  department_repos : List String
  capabilities : Finset String
  default_language : PromptLanguage
  bot_username : String

/-- `sorted(TEMPLATE_VARIABLE_NAMES)`. -/
def KNOWN_TEMPLATE_VARS : List String :=
  ["bot_username","capabilities","default_language","department_id","department_repos"]

def known (name : List Char) : Bool := KNOWN_TEMPLATE_VARS.any fun var => var.toList == name

/-- `_root_name`. -/
def root_name (field_name : List Char) : List Char := (field_name.takeWhile (· != '.')).takeWhile (· != '[')

/-- `field_name.isdigit()`. -/
def isdigit (name : List Char) : Bool := !name.isEmpty && name.all isDigitChar

def unknown_placeholder (name : List Char) : String := "unknown placeholder: \x7b" ++ String.ofList name ++ "\x7d"

def check_nested (nested : Field) : Except String Unit :=
  if root_name nested.name ≠ [] ∧ known (root_name nested.name) = false then .error (unknown_placeholder nested.name)
  else .ok ()

def check_field (f : Field) : Except String Unit :=
  if f.name = [] ∨ isdigit f.name = true then
    .error ("positional placeholder is not allowed in prompt template; use a named variable from " ++
      "['bot_username', 'capabilities', 'default_language', 'department_id', 'department_repos']")
  else if known (root_name f.name) = false then .error (unknown_placeholder f.name)
  else if f.spec = [] then .ok ()
  else
    match (parse f.spec).2 with
    | some exc =>
      .error ("unbalanced or unescaped brace in format spec for \x7b" ++ String.ofList f.name ++ "\x7d: " ++ exc)
    | none => (fields (parse f.spec).1).forM check_nested

/-- `validate_template_format`; an error is the message of the `PromptTemplateError`. -/
def validate_template_format (body : String) : Except String Unit :=
  match (parse body.toList).2 with
  | some exc => .error ("unbalanced or unescaped brace in prompt template: " ++ exc)
  | none => (fields (parse body.toList).1).forM check_field

/-- `render_vars`. -/
def render_vars (vars : PromptVars) : List (String × String) :=
  [("department_id",vars.department_id),
    ("department_repos",", ".intercalate vars.department_repos),
    ("capabilities",", ".intercalate (vars.capabilities.sort (· ≤ ·))),
    ("default_language",vars.default_language.text),
    ("bot_username",vars.bot_username)]

def kwargs (vars : PromptVars) (name : List Char) : Option (List Char) :=
  ((render_vars vars).find? fun var => var.1.toList == name).map fun var => var.2.toList

inductive RenderError where
  | PromptTemplateError (message : List Char)
  | raised (e : Raised)

section
variable {ω : Type} (objects : Objects ω)

/-- `PromptLoader.render` with the body that is loaded. -/
def render (name body : String) (vars : PromptVars) : Except RenderError String :=
  match format objects (kwargs vars) body.toList with
  | .ok text => .ok (String.ofList text)
  | .error (.KeyError missing) =>
    .error (.PromptTemplateError ("prompt ".toList ++ objects.repr_str name.toList ++ " references unknown placeholder ".toList ++
      objects.repr_str missing ++ "; every placeholder must match a PromptVars field".toList))
  | .error .IndexError =>
    .error (.PromptTemplateError ("prompt ".toList ++ objects.repr_str name.toList ++
      " contains positional placeholder; only named PromptVars fields are allowed".toList))
  | .error e => .error (.raised e)

theorem render_ok {name body : String} {vars : PromptVars} :
    (∃ text, render objects name body vars = .ok text) ↔ ∃ text, format objects (kwargs vars) body.toList = .ok text := by
  unfold render
  cases format objects (kwargs vars) body.toList with
  | ok text => exact ⟨fun _ => ⟨text,rfl⟩,fun _ => ⟨_,rfl⟩⟩
  | error e =>
    constructor
    · rintro ⟨text,done⟩
      cases e <;> cases done
    · rintro ⟨text,done⟩
      cases done

theorem root_name_eq (name : List Char) : root_name name = name.takeWhile not_access := by
  rw [root_name,List.takeWhile_takeWhile]
  congr 1
  funext c
  rw [not_access,Bool.and_comm,Bool.decide_and,Bool.decide_eq_true,Bool.decide_eq_true]

private theorem regroup : ∀ b c l d r : Bool, (d || (r || (c || (l || (b || false))))) = (b || (c || (l || (d || (r || false))))) := by
  decide

theorem kwargs_known (vars : PromptVars) (name : List Char) : (kwargs vars name).isSome = known name := by
  have found : ((render_vars vars).find? fun var => var.1.toList == name).isSome =
      (render_vars vars).any fun var => var.1.toList == name := by
    rw [Bool.eq_iff_iff,List.find?_isSome,List.any_eq_true]
  rw [kwargs,Option.isSome_map,found]
  exact regroup _ _ _ _ _

theorem known_letter {name : List Char} (is_known : known name = true) : ∃ c ∈ name, isDigitChar c = false := by
  obtain ⟨var,member,same⟩ := List.any_eq_true.mp is_known
  rw [← eq_of_beq same]
  simp only [KNOWN_TEMPLATE_VARS,List.mem_cons,List.not_mem_nil,or_false] at member
  rcases member with rfl | rfl | rfl | rfl | rfl
  · exact ⟨'b',List.mem_cons_self,by decide⟩
  · exact ⟨'c',List.mem_cons_self,by decide⟩
  · exact ⟨'d',List.mem_cons_self,by decide⟩
  · exact ⟨'d',List.mem_cons_self,by decide⟩
  · exact ⟨'d',List.mem_cons_self,by decide⟩

section
variable {objects : Objects ω} {vars : PromptVars} {name : List Char} {value : Value ω}

theorem resolve_known (reached : resolve objects (kwargs vars) name = .ok value) : known (root_name name) = true := by
  unfold resolve at reached
  obtain ⟨index,-,reached⟩ := bind_ok.mp reached
  rw [root_name_eq,← kwargs_known vars]
  split at reached
  · cases reached
  · cases looked : kwargs vars (name.takeWhile not_access) with
    | none =>
      rw [looked] at reached
      cases reached
    | some text => rfl

theorem resolve_named (reached : resolve objects (kwargs vars) name = .ok value) : ¬ (name = [] ∨ isdigit name = true) := by
  obtain ⟨c,member,letter⟩ := known_letter (resolve_known reached)
  rw [root_name_eq] at member
  have inside : c ∈ name := (List.takeWhile_prefix not_access).subset member
  rintro (rfl | digits)
  · cases inside
  · rw [isdigit,Bool.and_eq_true] at digits
    rw [List.all_eq_true.mp digits.2 c inside] at letter
    cases letter

end

theorem forM_ok {α : Type} {f : α → Except String Unit} {items : List α} :
    items.forM f = .ok () ↔ ∀ item ∈ items, f item = .ok () := by
  induction items with
  | nil => exact ⟨fun _ item absent => absurd absent List.not_mem_nil,fun _ => rfl⟩
  | cons item items ih =>
    rw [List.forall_mem_cons,← ih]
    change (f item >>= fun _ => items.forM f) = _ ↔ _
    cases f item with
    | error message =>
      constructor
      · intro same
        cases same
      · rintro ⟨same,-⟩
        cases same
    | ok done => exact ⟨fun same => ⟨rfl,same⟩,And.right⟩

section
variable {objects : Objects ω} {vars : PromptVars}

theorem check_nested_ok {expand : List Char → Except Raised (List Char)} {f : Field}
    (done : ∃ part, evaluate objects (kwargs vars) expand f = .ok part) : check_nested f = .ok () := by
  obtain ⟨value,-,-,reached,-⟩ := evaluate_ok.mp done
  have is_known := resolve_known reached
  rw [check_nested,if_neg]
  rintro ⟨-,unknown⟩
  rw [is_known] at unknown
  cases unknown

theorem check_field_ok {depth : Nat} {f : Field} (plain : '\x7b' ∉ f.spec → '\x7d' ∉ f.spec)
    (done : ∃ part, evaluate objects (kwargs vars) (build_string objects (kwargs vars) (depth + 1)) f = .ok part) :
    check_field f = .ok () := by
  obtain ⟨value,-,spec,reached,-,expanded,-⟩ := evaluate_ok.mp done
  rw [check_field,if_neg (resolve_named reached),if_neg (by rw [resolve_known reached]; exact Bool.noConfusion)]
  by_cases empty : f.spec = []
  · exact if_pos empty
  · rw [if_neg empty]
    by_cases opens : '\x7b' ∈ f.spec
    · rw [expand_spec,if_pos opens] at expanded
      obtain ⟨read,nested⟩ := build_string_ok.mp ⟨spec,expanded⟩
      rw [read]
      exact forM_ok.mpr fun g member => check_nested_ok (nested g member)
    · rw [parse_plain opens (plain opens)]
      dsimp only
      rw [fields_literal]
      rfl

theorem format_ok_valid {body : String} (done : ∃ text, format objects (kwargs vars) body.toList = .ok text) :
    validate_template_format body = .ok () := by
  obtain ⟨read,each⟩ := build_string_ok.mp done
  rw [validate_template_format,read]
  exact forM_ok.mpr fun f member => check_field_ok (spec_plain member) (each f member)

end

/-- The field's value is reached, converted, and takes the spec that its own fields give. -/
def Fits (vars : PromptVars) (f : Field) : Prop :=
  ∃ value shown spec, resolve objects (kwargs vars) f.name = .ok value ∧ do_conversion objects value f.conversion = .ok shown ∧
    expand_spec (build_string objects (kwargs vars) 1) f.spec = .ok spec ∧ Accepts objects shown spec

theorem format_ok_iff {body : String} {vars : PromptVars} :
    (∃ text, format objects (kwargs vars) body.toList = .ok text) ↔
      validate_template_format body = .ok () ∧ ∀ f ∈ fields (parse body.toList).1, Fits objects vars f := by
  constructor
  · intro done
    exact ⟨format_ok_valid done,fun f member => evaluate_ok.mp ((build_string_ok.mp done).2 f member)⟩
  · rintro ⟨valid,fits⟩
    have read : (parse body.toList).2 = none := by
      cases mistake : (parse body.toList).2 with
      | none => rfl
      | some exc =>
        rw [validate_template_format,mistake] at valid
        cases valid
    exact build_string_ok.mpr ⟨read,fun f member => evaluate_ok.mpr (fits f member)⟩

/-- The accesses to items, as they are written. -/
def written (indices : List (List Char)) : List Char := indices.flatMap fun index => '[' :: index ++ [']']

theorem written_cons (index : List Char) (indices : List (List Char)) :
    written (index :: indices) = '[' :: (index ++ ']' :: written indices) := by
  simp [written]

/-- Indices that exist in every string of at least such a length; each leads to a single character. -/
def Exist : Nat → List (List Char) → Prop
  | _, [] => True
  | length, index :: indices => ']' ∉ index ∧ (∃ n < length, get_integer index = .ok (some n)) ∧ Exist 1 indices

/-- The length of the shortest text of a variable: a language has two letters, the others may be empty. -/
def least_length (root : List Char) : Nat := if root = "default_language".toList then 2 else 0

theorem exist_mono {less more : Nat} (few : less ≤ more) {indices : List (List Char)} (exist : Exist less indices) :
    Exist more indices := by
  cases indices with
  | nil => trivial
  | cons index indices =>
    obtain ⟨closed,⟨n,small,number⟩,behind⟩ := exist
    exact ⟨closed,⟨n,small.trans_le few,number⟩,behind⟩

theorem brackets {index : List Char} (closed : ']' ∉ index) (rest : List Char) :
    (index ++ ']' :: rest).takeWhile (· != ']') = index ∧ (index ++ ']' :: rest).dropWhile (· != ']') = ']' :: rest := by
  have inside : ∀ c ∈ index, (c != ']') = true := fun c member => bne_iff_ne.mpr fun same => closed (same ▸ member)
  constructor
  · rw [List.takeWhile_append_of_pos inside]
    exact List.append_nil _
  · rw [List.dropWhile_append_of_pos inside]
    rfl

section
variable {objects : Objects ω}

variable (objects) in
theorem follow_exist {turns : Nat} {text : List Char} {indices : List (List Char)} (exist : Exist text.length indices)
    (enough : (written indices).length ≤ turns) :
    ∃ reached, follow objects turns (.str text) (written indices) = .ok (.str reached) := by
  induction turns generalizing text indices with
  | zero =>
    cases indices with
    | nil => exact ⟨text,rfl⟩
    | cons index indices => cases enough
  | succ turns ih =>
    cases indices with
    | nil => exact ⟨text,rfl⟩
    | cons index indices =>
      obtain ⟨closed,⟨n,small,number⟩,behind⟩ := exist
      obtain ⟨taken,dropped⟩ := brackets closed (written indices)
      have filled : index ≠ [] := by
        rintro rfl
        cases number
      rw [written_cons] at enough ⊢
      simp only [List.length_cons,List.length_append] at enough
      have shorter : (written indices).length ≤ turns := by omega
      obtain ⟨reached,done⟩ := ih (show Exist [text[n]].length indices from behind) shorter
      refine ⟨reached,?_⟩
      rw [follow,if_neg (by decide),if_pos rfl,taken,dropped]
      simp only [number,bind,Except.bind,if_neg filled,getitem,List.getElem?_eq_getElem small]
      exact done

theorem getitem_ok {text : List Char} {n : Nat} {next : Value ω} (item : getitem objects (.str text) (.inl n) = .ok next) :
    ∃ c, text[n]? = some c ∧ next = .str [c] := by
  cases looked : text[n]? with
  | none => simp [getitem,looked] at item
  | some c =>
    simp only [getitem,looked] at item
    cases item
    exact ⟨c,rfl,rfl⟩

theorem exist_of_follow {turns : Nat} {text rest : List Char} {value : Value ω} (items : '.' ∉ rest)
    (reached : follow objects turns (.str text) rest = .ok value) :
    ∃ indices, rest = written indices ∧ Exist text.length indices := by
  induction turns generalizing text rest with
  | zero =>
    cases rest with
    | nil => exact ⟨[],rfl,trivial⟩
    | cons c cs => cases reached
  | succ turns ih =>
    cases rest with
    | nil => exact ⟨[],rfl,trivial⟩
    | cons c cs =>
      obtain ⟨other,inside⟩ := List.ne_and_not_mem_of_not_mem_cons items
      rw [follow,if_neg (Ne.symm other)] at reached
      by_cases opens : c = '['
      · subst opens
        rw [if_pos rfl] at reached
        have split_at := List.takeWhile_append_dropWhile (p := (· != ']')) (l := cs)
        have first := List.head?_dropWhile_not (· != ']') cs
        cases dropped : cs.dropWhile (· != ']') with
        | nil =>
          rw [dropped] at reached
          cases reached
        | cons d rest =>
          rw [dropped] at reached split_at first
          obtain rfl : d = ']' := by simpa using first
          have closed : ']' ∉ cs.takeWhile (· != ']') := by
            intro member
            have := List.mem_takeWhile_imp member
            simp at this
          obtain ⟨index,number,reached⟩ := bind_ok.mp reached
          split at reached
          · cases reached
          · obtain ⟨next,item,reached⟩ := bind_ok.mp reached
            cases index with
            | none => cases item
            | some n =>
              obtain ⟨c,looked,rfl⟩ := getitem_ok item
              have small : n < text.length := (List.getElem?_eq_some_iff.mp looked).1
              have later : '.' ∉ rest := fun member => inside (split_at ▸ List.mem_append_right _ (List.mem_cons_of_mem _ member))
              obtain ⟨indices,spelled,behind⟩ := ih later reached
              refine ⟨cs.takeWhile (· != ']') :: indices,?_,closed,⟨n,small,number⟩,behind⟩
              rw [written_cons,← spelled,split_at]
      · rw [if_neg opens] at reached
        cases reached

end

theorem known_root {root : List Char} (is_known : known root = true) :
    (∀ c ∈ root, not_access c = true) ∧ get_integer root = .ok none ∧ root ≠ [] := by
  obtain ⟨var,member,same⟩ := List.any_eq_true.mp is_known
  rw [← eq_of_beq same]
  simp only [KNOWN_TEMPLATE_VARS,List.mem_cons,List.not_mem_nil,or_false] at member
  rcases member with rfl | rfl | rfl | rfl | rfl
  · exact ⟨List.all_eq_true.mp (by decide),rfl,List.cons_ne_nil _ _⟩
  · exact ⟨List.all_eq_true.mp (by decide),rfl,List.cons_ne_nil _ _⟩
  · exact ⟨List.all_eq_true.mp (by decide),rfl,List.cons_ne_nil _ _⟩
  · exact ⟨List.all_eq_true.mp (by decide),rfl,List.cons_ne_nil _ _⟩
  · exact ⟨List.all_eq_true.mp (by decide),rfl,List.cons_ne_nil _ _⟩

theorem least_kwargs {vars : PromptVars} {root text : List Char} (given : kwargs vars root = some text) :
    least_length root ≤ text.length := by
  unfold least_length
  split
  · next language =>
    subst language
    have two : kwargs vars "default_language".toList = some vars.default_language.text.toList := by
      have first : ("department_id".toList == "default_language".toList) = false := by decide
      have second : ("department_repos".toList == "default_language".toList) = false := by decide
      have third : ("capabilities".toList == "default_language".toList) = false := by decide
      simp only [kwargs,render_vars,List.find?_cons,first,second,third,beq_self_eq_true,Option.map_some]
    rw [two] at given
    cases given
    cases vars.default_language with
    | tr => exact le_rfl
    | en => exact le_rfl
  · exact Nat.zero_le _

/-- A `PromptVars` whose texts are as short as they can be. -/
def shortest : PromptVars := ⟨"",[],∅,.tr,""⟩

theorem shortest_kwargs {root : List Char} (is_known : known root = true) :
    ∃ text, kwargs shortest root = some text ∧ text.length = least_length root := by
  obtain ⟨var,member,same⟩ := List.any_eq_true.mp is_known
  rw [← eq_of_beq same]
  simp only [KNOWN_TEMPLATE_VARS,List.mem_cons,List.not_mem_nil,or_false] at member
  rcases member with rfl | rfl | rfl | rfl | rfl
  · exact ⟨_,rfl,rfl⟩
  · exact ⟨_,rfl,by simp [shortest,least_length]⟩
  · exact ⟨_,rfl,rfl⟩
  · exact ⟨_,rfl,rfl⟩
  · exact ⟨_,rfl,rfl⟩

/-- A known name behind which only indices are read that every text of the variable has, with a
    conversion that exists and a spec that is one of a string. -/
structure Suits (f : Field) : Prop where
  reached : ∃ root indices, known root = true ∧ f.name = root ++ written indices ∧ Exist (least_length root) indices
  converted : f.conversion ∈ [none,some (Char.ofNat 0),some 'r',some 's',some 'a']
  plain : '\x7b' ∉ f.spec
  accepted : StringSpec f.spec

/-- No attribute is read, and no field stands in the spec. -/
def Simple (f : Field) : Prop := '.' ∉ f.name ∧ '\x7b' ∉ f.spec

section
variable {objects : Objects ω} {vars : PromptVars} {f : Field}

theorem split_name {root rest : List Char} (is_known : known root = true) (access : rest.takeWhile not_access = []) :
    (root ++ rest).takeWhile not_access = root ∧ (root ++ rest).dropWhile not_access = rest := by
  obtain ⟨inside,-,-⟩ := known_root is_known
  rw [List.takeWhile_append_of_pos inside,List.dropWhile_append_of_pos inside,access,List.append_nil]
  refine ⟨rfl,?_⟩
  have whole := List.takeWhile_append_dropWhile (p := not_access) (l := rest)
  rwa [access,List.nil_append] at whole

variable (objects vars) in
theorem resolve_exist {root : List Char} {indices : List (List Char)} (is_known : known root = true)
    (exist : Exist (least_length root) indices) :
    ∃ text, resolve objects (kwargs vars) (root ++ written indices) = .ok (.str text) := by
  have access : (written indices).takeWhile not_access = [] := by
    cases indices with
    | nil => rfl
    | cons index indices => rfl
  obtain ⟨first,behind⟩ := split_name is_known access
  obtain ⟨-,number,filled⟩ := known_root is_known
  obtain ⟨value,looked⟩ := Option.isSome_iff_exists.mp ((kwargs_known vars root).trans is_known)
  have enough : (written indices).length ≤ (root ++ written indices).length := by simp
  obtain ⟨text,done⟩ := follow_exist objects (exist_mono (least_kwargs looked) exist) enough
  refine ⟨text,bind_ok.mpr ⟨none,first.symm ▸ number,?_⟩⟩
  rw [first,behind,if_neg (by rintro (empty | ⟨⟨⟩⟩); exact filled empty),looked]
  exact done

theorem exist_of_resolve {name : List Char} {value : Value ω} (items : '.' ∉ name)
    (reached : resolve objects (kwargs shortest) name = .ok value) :
    ∃ root indices, known root = true ∧ name = root ++ written indices ∧ Exist (least_length root) indices := by
  have is_known := resolve_known reached
  rw [root_name_eq] at is_known
  obtain ⟨text,given,short⟩ := shortest_kwargs is_known
  obtain ⟨index,-,done⟩ := bind_ok.mp reached
  split at done
  · cases done
  · rw [given] at done
    have later : '.' ∉ name.dropWhile not_access := fun member => items ((List.dropWhile_suffix _).subset member)
    obtain ⟨indices,spelled,exist⟩ := exist_of_follow later done
    refine ⟨_,indices,is_known,?_,short ▸ exist⟩
    rw [← spelled,List.takeWhile_append_dropWhile]

theorem convert_str {text : List Char} {conversion : Option Char} :
    (∃ other, do_conversion objects (.str text) conversion = .ok (.str other)) ↔
      conversion ∈ [none,some (Char.ofNat 0),some 'r',some 's',some 'a'] := by
  cases conversion with
  | none => exact iff_of_true ⟨text,rfl⟩ List.mem_cons_self
  | some c =>
    simp only [do_conversion]
    split_ifs with nul r s a
    · exact iff_of_true ⟨_,rfl⟩ (by simp [nul])
    · exact iff_of_true ⟨_,rfl⟩ (by simp [r])
    · exact iff_of_true ⟨_,rfl⟩ (by simp [s])
    · exact iff_of_true ⟨_,rfl⟩ (by simp [a])
    · exact iff_of_false (fun ⟨_,done⟩ => nomatch done) (by simp [nul,r,s,a])

theorem converted_str {text : List Char} {conversion : Option Char} {shown : Value ω}
    (done : do_conversion objects (.str text) conversion = .ok shown) : ∃ other, shown = .str other := by
  unfold do_conversion at done
  split at done
  · cases done
    exact ⟨_,rfl⟩
  · split_ifs at done <;> cases done <;> exact ⟨_,rfl⟩

theorem fits_of_suits (suits : Suits f) : Fits objects vars f := by
  obtain ⟨root,indices,is_known,spelled,exist⟩ := suits.reached
  obtain ⟨text,reached⟩ := resolve_exist objects vars is_known exist
  obtain ⟨other,converted⟩ := convert_str.mpr suits.converted
  exact ⟨_,_,f.spec,spelled ▸ reached,converted,if_neg suits.plain,(string_spec_iff f.spec).mpr suits.accepted⟩

theorem suits_of_fits (simple : Simple f) (fits : Fits objects shortest f) : Suits f := by
  obtain ⟨value,shown,spec,reached,converted,expanded,accepts⟩ := fits
  obtain ⟨root,indices,is_known,spelled,exist⟩ := exist_of_resolve simple.1 reached
  obtain ⟨text,same⟩ := resolve_exist objects shortest is_known exist
  rw [← spelled,reached] at same
  cases same
  obtain ⟨other,rfl⟩ := converted_str converted
  cases (if_neg simple.2).symm.trans expanded
  exact ⟨⟨root,indices,is_known,spelled,exist⟩,convert_str.mp ⟨other,converted⟩,simple.2,(string_spec_iff f.spec).mp accepts⟩

end

/-- The validator and the renderer agree about the body. -/
def Agree (name body : String) : Prop :=
  (validate_template_format body = .ok () → ∀ vars, ∃ text, render objects name body vars = .ok text) ∧
    ∀ message, validate_template_format body = .error message →
      ∀ vars, ∃ e, format objects (kwargs vars) body.toList = .error e

/-- They agree about a body that is rejected or whose fields suit all values, and about no other
    body that reads no attribute and has no field in a spec. -/
theorem agree_iff (name body : String) :
    ((validate_template_format body = .ok () → ∀ f ∈ fields (parse body.toList).1, Suits f) → Agree objects name body) ∧
      ((∀ f ∈ fields (parse body.toList).1, Simple f) → Agree objects name body →
        validate_template_format body = .ok () → ∀ f ∈ fields (parse body.toList).1, Suits f) := by
  constructor
  · intro suits
    constructor
    · intro valid vars
      have fits : ∀ f ∈ fields (parse body.toList).1, Fits objects vars f := fun f member => fits_of_suits (suits valid f member)
      exact (render_ok objects).mpr ((format_ok_iff objects).mpr ⟨valid,fits⟩)
    · intro message invalid vars
      cases done : format objects (kwargs vars) body.toList with
      | error e => exact ⟨e,rfl⟩
      | ok text =>
        have valid := format_ok_valid ⟨text,done⟩
        rw [invalid] at valid
        cases valid
  · intro simple agree valid f member
    have fits := (format_ok_iff objects).mp ((render_ok objects).mp (agree.1 valid shortest))
    exact suits_of_fits (simple f member) (fits.2 f member)

end

def no_objects : Objects Empty where
  getattr _ _ := .error (.other "AttributeError")
  getitem o _ := o.elim
  str o := o.elim
  repr o := o.elim
  ascii o := o.elim
  format o _ := o.elim
  repr_str text := '\'' :: text ++ ['\'']
  ascii_str text := '\'' :: text ++ ['\'']

def payment : PromptVars := ⟨"payment",[],∅,.tr,""⟩

/-- A spec that no string takes, and an index that an empty string has not, are accepted. -/
theorem accepted_raises :
    (validate_template_format "\x7bdepartment_id:d\x7d" = .ok () ∧
        render no_objects "system" "\x7bdepartment_id:d\x7d" payment = .error (.raised .ValueError)) ∧
      (validate_template_format "\x7bbot_username[0]\x7d" = .ok () ∧
        render no_objects "system" "\x7bbot_username[0]\x7d" payment = .error (.PromptTemplateError
          "prompt 'system' contains positional placeholder; only named PromptVars fields are allowed".toList)) := by
  exact ⟨⟨rfl,rfl⟩,rfl,rfl⟩

end Automation.PromptTemplates
