import Automation.ShellCommands
import Mathlib.Data.List.Sort

/-!
The command that a runner is sent over SSH: the directory is made and entered, and the
variables of the environment stand in front of the command. The shell that reads it does what
the command does in a shell that has the variables exactly where the command is one simple
command that expands none of them, each name is one of a variable, and the directory does not
read as an option (`full_command_faithful`). A command outside of what `PosixShell` reads counts
as not faithful.
-/
namespace Automation.RemoteCommand
open Automation.PosixShell Automation.ShellCommands

def rejected (key : String) : Bool := key = "" || key.toList.any fun ch => ch ∈ ['=',' ','\t','\n','\'','"']

def env_part (item : String × String) : List Char := item.1.toList ++ '=' :: quote item.2.toList

/-- The parts of the prefix; `repr` is what a name is printed as. -/
def env_parts (repr : String → String) : List (String × String) → Except String (List (List Char))
  | [] => .ok []
  | item :: items =>
    if rejected item.1 then .error ("invalid environment variable name: " ++ repr item.1)
    else (env_parts repr items).map fun parts => env_part item :: parts

def sorted (env : List (String × String)) : List (String × String) := env.insertionSort fun a b => a.1 ≤ b.1

def shell_quote_environment (repr : String → String) (env : List (String × String)) : Except String String :=
  if env = [] then .ok ""
  else (env_parts repr (sorted env)).map fun parts => .ofList (List.intercalate [' '] parts ++ [' '])

def build_full_command (command : String) (workdir : Option String) ( env_prefix : String) : String :=
  let body := env_prefix ++ command
  match workdir with
  | none => body
  | some workdir =>
    if workdir = "" then body
    else
      let quoted_workdir := String.ofList (quote workdir.toList)
      "mkdir -p " ++ quoted_workdir ++ " && cd " ++ quoted_workdir ++ " && " ++ body

def variable_of (item : String × String) : List Char × List Char := (item.1.toList,item.2.toList)

/-- The directory, where one is given. -/
def directory (workdir : Option String) : Option (List Char) :=
  match workdir with
  | none => none
  | some workdir => if workdir = "" then none else some workdir.toList

def plain_word (text : List Char) : Part := .word (text.map fun c => (c,false)) []

def setup : Option (List Char) → List Part
  | none => []
  | some workdir =>
    [plain_word "mkdir".toList,plain_word "-p".toList,plain_word workdir,.control "&&".toList,
      plain_word "cd".toList,plain_word workdir,.control "&&".toList]

/-- What a utility's arguments are behind its options. -/
def operands : List (List Char) → List (List Char)
  | [] => []
  | argument :: rest =>
    if argument = "--".toList then rest
    else if argument.head? = some '-' ∧ argument ≠ "-".toList then operands rest
    else argument :: rest

/-- `mkdir -p` and `cd` take the directory as it is; `cd -` is the previous one. -/
def Entered (workdir : List Char) : Prop :=
  operands ["-p".toList,workdir] = [workdir] ∧ operands [workdir] = [workdir] ∧ workdir ≠ "-".toList

/-- The command can be read, and the shell makes and enters the directory and then does what the
    command does where each variable is set and exported with its value. -/
def Faithful (workdir : Option String) (env : List (String × String)) (command full_command : String) : Prop :=
  ∃ given tokens settings, lex command = some given ∧
    lex full_command = some tokens ∧ settings.Perm (env.map variable_of) ∧
    (∀ item ∈ env, value settings item.1.toList = some item.2.toList) ∧
    parts [] .command tokens = setup (directory workdir) ++ parts settings .command given ∧
    (env ≠ [] → 0 < starts .command given) ∧
    ∀ w ∈ directory workdir, Entered w ∧ ∃ token ∈ given, token ≠ .operator ['\n']

/-- What the rendering relies on. -/
structure Renders (workdir : Option String) (env : List (String × String)) (given : List Token) : Prop where
  directories : ∀ w ∈ directory workdir, w.head? ≠ some '-' ∧ '\x00' ∉ w ∧ ∃ token ∈ given, token ≠ .operator ['\n']
  names : ∀ item ∈ env, Identifier item.1.toList ∧ '\x00' ∉ item.2.toList
  agree : ∀ item ∈ env, ∀ other ∈ env, item.1 = other.1 → item.2 = other.2
  simple : env ≠ [] → Simple (env.map variable_of) given

section
variable {repr : String → String} {env items : List (String × String)} { env_prefix : String}

def env_text (items : List (String × String)) : List Char := items.flatMap fun item => env_part item ++ [' ']

theorem env_parts_text {parts : List (List Char)} (quoted : env_parts repr items = .ok parts) (filled : items ≠ []) :
    List.intercalate [' '] parts ++ [' '] = env_text items := by
  induction items generalizing parts with
  | nil => exact absurd rfl filled
  | cons item items ih =>
    unfold env_parts at quoted
    split at quoted
    · cases quoted
    · cases rest : env_parts repr items with
      | error error => rw [rest] at quoted; cases quoted
      | ok others =>
        rw [rest] at quoted
        obtain rfl := Except.ok.inj quoted
        cases items with
        | nil =>
          obtain rfl := Except.ok.inj rest
          simp [env_text,List.intercalate]
        | cons next items =>
          have more := ih rest (List.cons_ne_nil _ _)
          cases others with
          | nil =>
            unfold env_parts at rest
            split at rest
            · cases rest
            · cases again : env_parts repr items with
              | error error => rw [again] at rest; cases rest
              | ok parts => rw [again] at rest; cases rest
          | cons part others =>
            have joined : List.intercalate [' '] (env_part item :: part :: others) =
                env_part item ++ [' '] ++ List.intercalate [' '] (part :: others) := by
              simp [List.intercalate]
            rw [joined,List.append_assoc,more]
            simp [env_text]

theorem sorted_perm (env : List (String × String)) : (sorted env).Perm env := List.perm_insertionSort _ env

theorem prefix_text (accepted : shell_quote_environment repr env = .ok env_prefix) : env_prefix.toList = env_text (sorted env) := by
  unfold shell_quote_environment at accepted
  split at accepted
  · next none =>
    subst none
    obtain rfl := Except.ok.inj accepted
    rfl
  · next filled =>
    cases quoted : env_parts repr (sorted env) with
    | error error => rw [quoted] at accepted; cases accepted
    | ok parts =>
      rw [quoted] at accepted
      obtain rfl := Except.ok.inj accepted
      have some : sorted env ≠ [] := fun none => filled (List.Perm.eq_nil (none ▸ (sorted_perm env).symm))
      rw [String.toList_ofList,env_parts_text quoted some]

def setting_token (item : String × String) : Token :=
  .word (item.1.toList.map .bare ++ .bare '=' :: quoted_word item.2.toList)

theorem name_ordinary {c : Char} (name : NameChar c) : kind c = .ordinary := by
  refine safe_ordinary ?_
  rcases name with rfl | letter
  · decide
  · exact .inl letter

theorem run_part {item : String × String} (identifier : Identifier item.1.toList) (whole : '\x00' ∉ item.2.toList)
    (T : List Token) : run ⟨.plain,none,T⟩ (env_part item ++ [' ']) = ⟨.plain,none,T ++ [setting_token item]⟩ := by
  obtain ⟨filled,_,names⟩ := identifier
  obtain ⟨c,name,same⟩ := List.exists_cons_of_ne_nil filled
  rw [same] at names
  have first : kind c = .ordinary := name_ordinary (names c List.mem_cons_self)
  have inert : ∀ d ∈ name, Inert d := fun d member => .inl (name_ordinary (names d (List.mem_cons_of_mem _ member)))
  have equals : run ⟨.plain,some ((c :: name).map .bare),T⟩ ['='] = ⟨.plain,some ((c :: name).map .bare ++ [.bare '=']),T⟩ :=
    run_inert ['='] (by simpa using (by decide : Inert '=')) _ T
  have parts : env_part item ++ [' '] = (c :: name) ++ (['='] ++ (quote item.2.toList ++ [' '])) := by
    simp [env_part,same]
  rw [parts,run_append,run_bare first inert,run_append,equals,run_append,run_quote_behind _ whole]
  show State.mk _ _ _ = _
  simp [setting_token,same]

theorem run_environment (identifiers : ∀ item ∈ items, Identifier item.1.toList ∧ '\x00' ∉ item.2.toList) (T : List Token) :
    run ⟨.plain,none,T⟩ (env_text items) = ⟨.plain,none,T ++ items.map setting_token⟩ := by
  induction items generalizing T with
  | nil => simp [env_text]
  | cons item items ih =>
    obtain ⟨identifier,whole⟩ := identifiers item List.mem_cons_self
    have rest := ih fun other member => identifiers other (List.mem_cons_of_mem _ member)
    have split : env_text (item :: items) = (env_part item ++ [' ']) ++ env_text items := List.flatMap_cons
    rw [split,run_append,run_part identifier whole,rest]
    simp

theorem plain_quoted (text : List Char) : ShellCommands.plain (quoted_word text) = text.map fun c => (c,false) := by
  unfold quoted_word
  split <;> simp [ShellCommands.plain,Piece.char,Piece.isActive,Function.comp_def]

theorem setting_ordinary (item : String × String) : ¬ Reserved (item.1.toList.map .bare ++ .bare '=' :: quoted_word item.2.toList) := by
  have opened : ∀ w ∈ opening, Piece.bare '=' ∉ w := by decide
  have closed : ∀ w ∈ closing, Piece.bare '=' ∉ w := by decide
  rintro (member | member)
  · exact opened _ member (by simp)
  · exact closed _ member (by simp)

theorem part_setting {item : String × String} (identifier : Identifier item.1.toList) {position : Position}
    (front : position = .command ∨ position = .assigned) :
    part [] position (setting_token item) = .assignment item.1.toList (item.2.toList.map fun c => (c,false)) ∧
      next position (setting_token item) = .assigned := by
  have assigned := assigns_bare identifier (quoted_word item.2.toList)
  have ordinary := setting_ordinary item
  have not_opening : (item.1.toList.map .bare ++ .bare '=' :: quoted_word item.2.toList) ∉ opening := fun member =>
    ordinary (.inl member)
  have not_closing : (item.1.toList.map .bare ++ .bare '=' :: quoted_word item.2.toList) ∉ closing := fun member =>
    ordinary (.inr member)
  rcases front with rfl | rfl
  · simp [part,next,setting_token,word_part,word_next,assigned,ordinary,not_opening,not_closing,plain_quoted]
  · simp [part,next,setting_token,word_part,word_next,assigned,plain_quoted]

theorem parts_settings (identifiers : ∀ item ∈ items, Identifier item.1.toList ∧ '\x00' ∉ item.2.toList) {position : Position}
    (front : position = .command ∨ position = .assigned) (rest : List Token) :
    parts [] position (items.map setting_token ++ rest) =
      assignments (items.map variable_of) ++ parts [] (if items = [] then position else .assigned) rest := by
  induction items generalizing position with
  | nil => rfl
  | cons item items ih =>
    obtain ⟨here,follows⟩ := part_setting (identifiers item List.mem_cons_self).1 front
    have behind := ih (fun other member => identifiers other (List.mem_cons_of_mem _ member))
      (.inr rfl : Position.assigned = .command ∨ Position.assigned = .assigned)
    have none : (if position = .command ∧ begins (setting_token item) then assignments [] else []) = [] := by split <;> rfl
    rw [List.map_cons,List.cons_append,parts,none,here,follows,behind]
    simp [assignments,variable_of]

def setup_text : Option (List Char) → List Char
  | none => []
  | some workdir => "mkdir -p ".toList ++ (quote workdir ++ (" && cd ".toList ++ (quote workdir ++ " && ".toList)))

def bare_word (text : List Char) : Token := .word (text.map .bare)

def setup_tokens : Option (List Char) → List Token
  | none => []
  | some workdir =>
    [bare_word "mkdir".toList,bare_word "-p".toList,.word (quoted_word workdir),.operator "&&".toList,
      bare_word "cd".toList,.word (quoted_word workdir),.operator "&&".toList]

private theorem regroup (make workdir enter follow body : List Char) :
    make ++ workdir ++ enter ++ workdir ++ follow ++ body = make ++ (workdir ++ (enter ++ (workdir ++ follow))) ++ body := by
  simp

theorem full_text (command : String) (workdir : Option String) ( env_prefix : String) :
    (build_full_command command workdir env_prefix).toList =
      setup_text (directory workdir) ++ ( env_prefix.toList ++ command.toList) := by
  unfold build_full_command directory
  cases workdir with
  | none => exact String.toList_append
  | some workdir =>
    by_cases empty : workdir = ""
    · dsimp only
      rw [if_pos empty,if_pos empty]
      exact String.toList_append
    · dsimp only
      rw [if_neg empty,if_neg empty]
      have quoted : (String.ofList (quote workdir.toList)).toList = quote workdir.toList := String.toList_ofList
      rw [String.toList_append,String.toList_append,String.toList_append,String.toList_append,String.toList_append,
        String.toList_append,quoted]
      exact regroup _ _ _ _ _

theorem run_behind (mode : Mode) (word : Option Word) (T : List Token) (text : List Char) :
    run ⟨mode,word,T⟩ text = (run ⟨mode,word,[]⟩ text).behind T := by
  rw [← behind_run]
  simp [State.behind]

theorem run_make : run start "mkdir -p ".toList = ⟨.plain,none,[bare_word "mkdir".toList,bare_word "-p".toList]⟩ := by decide

theorem run_enter (w : Word) (T : List Token) : run ⟨.plain,some w,T⟩ " && cd ".toList =
    ⟨.plain,none,T ++ [.word w,.operator "&&".toList,bare_word "cd".toList]⟩ := by
  rw [run_behind]
  rfl

theorem run_follow (w : Word) (T : List Token) :
    run ⟨.plain,some w,T⟩ " && ".toList = ⟨.plain,none,T ++ [.word w,.operator "&&".toList]⟩ := by
  rw [run_behind]
  rfl

theorem run_setup {workdir : Option (List Char)} (whole : ∀ w ∈ workdir, '\x00' ∉ w) (rest : List Char) :
    run start (setup_text workdir ++ rest) = (run start rest).behind (setup_tokens workdir) := by
  cases workdir with
  | none => rfl
  | some workdir =>
    have quoted := whole workdir rfl
    have entered : run start (setup_text (some workdir)) = ⟨.plain,none,setup_tokens (some workdir)⟩ := by
      show run start ("mkdir -p ".toList ++ (quote workdir ++ (" && cd ".toList ++ (quote workdir ++ " && ".toList)))) = _
      rw [run_append,run_make,run_append,run_quote workdir quoted,run_append,run_enter,
        run_append,run_quote workdir quoted,run_follow]
      rfl
    rw [run_append,entered,run_behind]
    rfl

/-- The directory in front of a text. -/
theorem parts_setup (workdir : Option (List Char)) (rest : List Token) :
    parts [] .command (setup_tokens workdir ++ rest) = setup workdir ++ parts [] .command rest := by
  cases workdir with
  | none => rfl
  | some workdir =>
    have front : parts [] .command (setup_tokens (some workdir)) =
        [plain_word "mkdir".toList,plain_word "-p".toList,
          .word (ShellCommands.plain (quoted_word workdir)) (known [] (quoted_word workdir)),.control "&&".toList,
          plain_word "cd".toList,.word (ShellCommands.plain (quoted_word workdir)) (known [] (quoted_word workdir)),
          .control "&&".toList] := rfl
    have ends : (setup_tokens (some workdir)).foldl next .command = .command := rfl
    rw [parts_append,front,ends,plain_quoted,known_unset]
    rfl

theorem entered_iff {workdir : List Char} : Entered workdir ↔ workdir.head? ≠ some '-' := by
  have made : operands ["-p".toList,workdir] = operands [workdir] := rfl
  unfold Entered
  rw [made]
  constructor
  · rintro ⟨same,_,other⟩ dash
    unfold operands at same
    split at same
    · cases same
    · rw [if_pos ⟨dash,other⟩] at same
      cases same
  · intro first
    have apart : ∀ other : List Char, other.head? = some '-' → workdir ≠ other := fun other dash same => first (same ▸ dash)
    have same : operands [workdir] = [workdir] := by
      unfold operands
      rw [if_neg (apart "--".toList rfl),if_neg fun option => first option.1]
    exact ⟨same,same,apart "-".toList rfl⟩

theorem mem_quote {c : Char} {text : List Char} (member : c ∈ text) : c ∈ quote text := by
  unfold quote
  split
  · exact member
  · refine List.mem_append_left _ (List.mem_cons_of_mem _ (List.mem_flatMap.mpr ⟨c,member,?_⟩))
    unfold quote_char
    split
    · next mark => rw [mark]; decide
    · exact List.mem_singleton_self c

theorem value_none {settings : Settings} {name : List Char} :
    value settings name = none ↔ ∀ setting ∈ settings, setting.1 ≠ name := by
  simp only [value,List.lookup_eq_none_iff,List.mem_reverse,bne_iff_ne]
  exact ⟨fun apart setting member same => apart setting member same.symm,fun apart setting member same => apart setting member same.symm⟩

theorem simple_perm {left right : Settings} {given : List Token} (perm : left.Perm right) (simple : Simple left given) :
    Simple right given where
  begins := simple.begins
  once := simple.once
  apart name member := value_none.mpr fun setting listed => value_none.mp (simple.apart name member) setting (perm.mem_iff.mpr listed)

theorem value_agree {settings : Settings} (perm : settings.Perm (env.map variable_of))
    (agree : ∀ item ∈ env, ∀ other ∈ env, item.1 = other.1 → item.2 = other.2) :
    ∀ item ∈ env, value settings item.1.toList = some item.2.toList := by
  intro item member
  cases found : value settings item.1.toList with
  | none =>
    have listed : variable_of item ∈ settings := perm.mem_iff.mpr (List.mem_map_of_mem member)
    exact absurd rfl (value_none.mp found _ listed)
  | some text =>
    obtain ⟨before,after,split,_⟩ := List.lookup_eq_some_iff.mp found
    have listed : (item.1.toList,text) ∈ settings := List.mem_reverse.mp (split ▸ List.mem_append_right _ List.mem_cons_self)
    obtain ⟨other,known,same⟩ := List.mem_map.mp (perm.mem_iff.mp listed)
    obtain ⟨names,rfl⟩ := Prod.mk.inj same
    rw [agree item member other known (String.toList_inj.mp names.symm)]

theorem agree_value {settings : Settings}
    (values : ∀ item ∈ env, value settings item.1.toList = some item.2.toList) :
    ∀ item ∈ env, ∀ other ∈ env, item.1 = other.1 → item.2 = other.2 := by
  intro item member other known same
  have first := values item member
  have second := values other known
  rw [same] at first
  exact String.toList_inj.mp (Option.some.inj (first.symm.trans second))

variable {workdir : Option String} {command : String} {given : List Token}

theorem lex_full (accepted : shell_quote_environment repr env = .ok env_prefix) (whole : ∀ w ∈ directory workdir, '\x00' ∉ w) :
    lex (build_full_command command workdir env_prefix) =
      (finish (run start (env_text (sorted env) ++ command.toList))).map (setup_tokens (directory workdir) ++ ·) := by
  rw [lex,full_text,prefix_text accepted,run_setup whole,behind_finish]

theorem lex_command (identifiers : ∀ item ∈ env, Identifier item.1.toList ∧ '\x00' ∉ item.2.toList)
    (read : lex command = some given) :
    finish (run start (env_text (sorted env) ++ command.toList)) = some ((sorted env).map setting_token ++ given) := by
  have sorted_identifiers : ∀ item ∈ sorted env, Identifier item.1.toList ∧ '\x00' ∉ item.2.toList :=
    fun item member => identifiers item ((sorted_perm env).mem_iff.mp member)
  rw [run_append,start,run_environment sorted_identifiers,List.nil_append,run_behind,behind_finish]
  have same : finish (run ⟨.plain,none,[]⟩ command.toList) = some given := read
  rw [same]
  rfl

theorem parts_body (identifiers : ∀ item ∈ env, Identifier item.1.toList ∧ '\x00' ∉ item.2.toList) (filled : env ≠ []) :
    parts [] .command ((sorted env).map setting_token ++ given) =
      assignments ((sorted env).map variable_of) ++ parts [] .assigned given := by
  have some : sorted env ≠ [] := fun none => filled (List.Perm.eq_nil (none ▸ (sorted_perm env).symm))
  rw [parts_settings (fun item member => identifiers item ((sorted_perm env).mem_iff.mp member)) (.inl rfl),if_neg some]

theorem renders_faithful (accepted : shell_quote_environment repr env = .ok env_prefix)
    (read : lex command = some given) (renders : Renders workdir env given) :
    Faithful workdir env command (build_full_command command workdir env_prefix) := by
  obtain ⟨directories,names,agree,simple⟩ := renders
  have perm : ((sorted env).map variable_of).Perm (env.map variable_of) := (sorted_perm env).map _
  refine ⟨given,setup_tokens (directory workdir) ++ ((sorted env).map setting_token ++ given),(sorted env).map variable_of,read,?_,perm,value_agree perm agree,?_,?_,?_⟩
  · rw [lex_full accepted fun w given_dir => (directories w given_dir).2.1,lex_command names read]
    rfl
  · rw [parts_setup]
    by_cases none : env = []
    · subst none
      rfl
    · have once := simple_perm perm.symm (simple none)
      have some : (sorted env).map variable_of ≠ [] := fun empty =>
        none (List.Perm.eq_nil (List.map_eq_nil_iff.mp empty ▸ (sorted_perm env).symm))
      rw [parts_body names none,(assigned_same some rfl (by rw [once.once]; exact Nat.one_pos)).mpr ⟨rfl,once⟩]
  · intro filled
    rw [(simple filled).once]
    exact Nat.one_pos
  · intro w given_dir
    obtain ⟨first,_,something⟩ := directories w given_dir
    exact ⟨entered_iff.mpr first,something⟩

theorem faithful_renders (accepted : shell_quote_environment repr env = .ok env_prefix)
    (faithful : Faithful workdir env command (build_full_command command workdir env_prefix)) :
    ∃ given, lex command = some given ∧ Renders workdir env given := by
  obtain ⟨given,tokens,settings,read,full,perm,values,same,started,entered⟩ := faithful
  have text := full_text command workdir env_prefix
  rw [prefix_text accepted] at text
  have no_null : '\x00' ∉ setup_text (directory workdir) ++ (env_text (sorted env) ++ command.toList) :=
    text ▸ whole_of_finish full
  have whole : ∀ w ∈ directory workdir, '\x00' ∉ w := by
    intro w given_dir member
    refine no_null (List.mem_append_left _ ?_)
    rw [Option.mem_def.mp given_dir]
    exact List.mem_append_right _ (List.mem_append_left _ (mem_quote member))
  have values_whole : ∀ item ∈ env, '\x00' ∉ item.2.toList := by
    intro item listed member
    refine no_null (List.mem_append_right _ (List.mem_append_left _ ?_))
    refine List.mem_flatMap.mpr ⟨item,(sorted_perm env).mem_iff.mpr listed,?_⟩
    exact List.mem_append_left _ (List.mem_append_right _ (List.mem_cons_of_mem _ (mem_quote member)))
  rw [lex_full accepted whole] at full
  obtain ⟨body,read_body,rfl⟩ := Option.map_eq_some_iff.mp full
  rw [parts_setup] at same
  have body_same := List.append_cancel_left same
  have names : ∀ item ∈ env, Identifier item.1.toList ∧ '\x00' ∉ item.2.toList := by
    intro item listed
    have filled : env ≠ [] := List.ne_nil_of_mem listed
    have among : variable_of item ∈ settings := perm.mem_iff.mpr (List.mem_map_of_mem listed)
    have assigned := assignments_subset (started filled) (List.mem_map_of_mem among)
    rw [← body_same] at assigned
    exact ⟨parts_identifier assigned,values_whole item listed⟩
  refine ⟨given,read,fun w given_dir => ?_,names,agree_value values,fun filled => ?_⟩
  · obtain ⟨enters,something⟩ := entered w given_dir
    exact ⟨entered_iff.mp enters,whole w given_dir,something⟩
  · rw [lex_command names read] at read_body
    obtain rfl := Option.some.inj read_body
    rw [parts_body names filled] at body_same
    have some : (sorted env).map variable_of ≠ [] := fun empty =>
      filled (List.Perm.eq_nil (List.map_eq_nil_iff.mp empty ▸ (sorted_perm env).symm))
    have lengths : ((sorted env).map variable_of).length = settings.length :=
      (((sorted_perm env).map variable_of).trans perm.symm).length_eq
    exact simple_perm perm ((assigned_same some lengths (started filled)).mp body_same).2

end

private theorem lex_make_test : lex "make test" = some [bare_word "make".toList,bare_word "test".toList] := rfl

private theorem lex_npm : lex "npm ci && npm test" = some [bare_word "npm".toList,bare_word "ci".toList,
    .operator "&&".toList,bare_word "npm".toList,bare_word "test".toList] := rfl

private theorem full_npm_count :
    (lex (build_full_command "npm ci && npm test" (some "/srv/run") "CI=1 ")).map List.length = some 13 := rfl

end Automation.RemoteCommand
