import Automation.PosixShell

/-!
What a shell makes of the words and operators of a text: where its simple commands begin, the
variables that are assigned in front of one, and the variables that a word expands. In a shell
that has variables set and exported each simple command has them in its environment, and the
words that expand one of them have its value.
-/
namespace Automation.ShellCommands
open Automation.PosixShell

/-- Variables with their values, in the order in which they were set. -/
abbrev Settings := List (List Char × List Char)

/-- The value of a variable is the last that it was given. -/
def value (settings : Settings) (name : List Char) : Option (List Char) := settings.reverse.lookup name

/-- A word without its quotes: its characters, with whether they are active. -/
def plain (w : Word) : List (Char × Bool) := w.map fun p => (p.char,p.isActive)

/-- The name of a variable. -/
def Identifier (name : List Char) : Prop := name ≠ [] ∧ (∀ c ∈ name.head?, c.isDigit = false) ∧ ∀ c ∈ name, NameChar c

instance (name : List Char) : Decidable (Identifier name) :=
  @instDecidableAnd _ _ inferInstance
    (@instDecidableAnd _ _ (Option.decidableForallMem name.head?) (List.decidableBAll NameChar name))

def bare_name : Piece → Bool
  | .bare c => decide (NameChar c)
  | _ => false

/-- The variable that a word assigns to, with the value. -/
def assigns (w : Word) : Option (List Char × Word) :=
  let name := (w.takeWhile bare_name).map Piece.char
  match w.dropWhile bare_name with
  | .bare '=' :: rest => if Identifier name then some (name,rest) else none
  | _ => none

/-- The words that a command follows. -/
def opening : List Word := ["!","\x7b","if","then","else","elif","while","until","do"].map fun s => s.toList.map .bare

/-- The words of the shell that no command follows at once. -/
def closing : List Word := ["\x7d","fi","done","esac","for","case","in"].map fun s => s.toList.map .bare

def Reserved (w : Word) : Prop := w ∈ opening ∨ w ∈ closing

instance (w : Word) : Decidable (Reserved w) := inferInstanceAs (Decidable (_ ∨ _))

/-- What is within the braces of a parameter, if it has some. -/
def unbraced : Word → Word
  | [] => []
  | p :: rest => if p = .active '\x7b' then rest else p :: rest

def name_piece (p : Piece) : Bool := p.isActive && decide (NameChar p.char)

/-- The name of a parameter behind its `$`. -/
def parameter (rest : Word) : List Char := ((unbraced rest).takeWhile name_piece).map Piece.char

/-- The variables that a word expands. -/
def uses : Word → List (List Char)
  | [] => []
  | .active c :: rest =>
    if c = '$' then parameter rest :: uses rest else if c = '~' then "HOME".toList :: uses rest else uses rest
  | _ :: rest => uses rest

/-- The variables with their values that a word's expansion meets. -/
def known (settings : Settings) (w : Word) : Settings :=
  (uses w).filterMap fun name => (value settings name).map fun text => (name,text)

/-- Where in a command: where one may begin, behind assignments or redirections, among its
    words, or before the file of a redirection. -/
inductive Position
  | command
  | assigned
  | arguments
  | target (assigned : Bool)
  deriving DecidableEq

inductive Part
  | assignment (name : List Char) (text : List (Char × Bool))
  | word (text : List (Char × Bool)) (known : Settings)
  | reserved (w : Word)
  | number (w : Word)
  | redirection (text : List Char)
  | control (text : List Char)
  deriving DecidableEq

def Redirection (text : List Char) : Prop := text.head? = some '<' ∨ text.head? = some '>'

instance (text : List Char) : Decidable (Redirection text) := inferInstanceAs (Decidable (_ ∨ _))

/-- A word where an assignment may stand. -/
def word_part (settings : Settings) (w : Word) : Part :=
  match assigns w with
  | some (name,rest) => .assignment name (plain rest)
  | none => .word (plain w) (known settings w)

/-- What a token is in a shell that has `settings`. -/
def part (settings : Settings) (position : Position) : Token → Part
  | .operator text => if Redirection text then .redirection text else .control text
  | .number w => .number w
  | .word w =>
    match position with
    | .command => if Reserved w then .reserved w else word_part settings w
    | .assigned => word_part settings w
    | _ => .word (plain w) (known settings w)

def word_next (w : Word) : Position := if (assigns w).isSome then .assigned else .arguments

def next (position : Position) : Token → Position
  | .operator text =>
    if Redirection text then
      match position with
      | .arguments => .target false
      | .target assigned => .target assigned
      | _ => .target true
    else .command
  | .number _ => if position = .command then .assigned else position
  | .word w =>
    match position with
    | .command => if w ∈ opening then .command else if w ∈ closing then .arguments else word_next w
    | .assigned => word_next w
    | .arguments => .arguments
    | .target true => .assigned
    | .target false => .arguments

/-- Whether a simple command begins with a token, where one may begin. -/
def begins : Token → Bool
  | .operator text => decide (Redirection text)
  | .number _ => true
  | .word w => !decide (Reserved w)

def assignments (settings : Settings) : List Part :=
  settings.map fun setting => .assignment setting.1 (setting.2.map fun c => (c,false))

/-- What the tokens are in a shell that has `settings`, which each simple command is given. -/
def parts (settings : Settings) (position : Position) : List Token → List Part
  | [] => []
  | token :: tokens =>
    (if position = .command ∧ begins token then assignments settings else []) ++
      part settings position token :: parts settings (next position token) tokens

/-- The number of simple commands that begin. -/
def starts (position : Position) : List Token → Nat
  | [] => 0
  | token :: tokens => (if position = .command ∧ begins token then 1 else 0) + starts (next position token) tokens

/-- The variables that a word expands where it is read as `p`, which may be an assignment. -/
def word_uses (w : Word) (p : Part) : List (List Char) :=
  match p with
  | .word _ _ => uses w
  | _ => []

def token_uses (position : Position) : Token → List (List Char)
  | .word w => word_uses w (part [] position (.word w))
  | _ => []

/-- The variables that the words expand, assignments apart. -/
def expanded (position : Position) : List Token → List (List Char)
  | [] => []
  | token :: tokens => token_uses position token ++ expanded (next position token) tokens

section
variable {settings : Settings} {position : Position} {token : Token} {tokens : List Token}

theorem parts_append (settings : Settings) (position : Position) (front rest : List Token) :
    parts settings position (front ++ rest) =
      parts settings position front ++ parts settings (front.foldl next position) rest := by
  induction front generalizing position with
  | nil => rfl
  | cons token front ih => simp only [List.cons_append,parts,List.foldl_cons,ih,List.append_assoc]

theorem parts_length (settings : Settings) (position : Position) (tokens : List Token) :
    (parts settings position tokens).length = tokens.length + settings.length * starts position tokens := by
  induction tokens generalizing position with
  | nil => rfl
  | cons token tokens ih =>
    simp only [parts,starts,List.length_append,List.length_cons,ih,Nat.mul_add]
    split <;> simp [assignments] <;> omega

theorem assigns_identifier {w rest : Word} {name : List Char} (read : assigns w = some (name,rest)) : Identifier name := by
  unfold assigns at read
  dsimp only at read
  split at read
  · split at read
    · next identifier =>
      obtain ⟨rfl,_⟩ := Prod.mk.inj (Option.some.inj read)
      exact identifier
    · cases read
  · cases read

theorem assigns_bare {name : List Char} (identifier : Identifier name) (rest : Word) :
    assigns (name.map .bare ++ .bare '=' :: rest) = some (name,rest) := by
  have all : ∀ p ∈ name.map Piece.bare, bare_name p = true := by
    intro p member
    obtain ⟨c,known,rfl⟩ := List.mem_map.mp member
    exact decide_eq_true (identifier.2.2 c known)
  have stop : bare_name (.bare '=') = false := by decide
  have name_is : (name.map Piece.bare ++ .bare '=' :: rest).takeWhile bare_name = name.map .bare := by
    rw [List.takeWhile_append_of_pos all,List.takeWhile_cons_of_neg (by simp [stop]),List.append_nil]
  have rest_is : (name.map Piece.bare ++ .bare '=' :: rest).dropWhile bare_name = .bare '=' :: rest := by
    rw [List.dropWhile_append_of_pos all,List.dropWhile_cons_of_neg (by simp [stop])]
  have chars : (name.map Piece.bare).map Piece.char = name := by simp [Piece.char,Function.comp_def]
  simp only [assigns,name_is,rest_is,chars,if_pos identifier]

theorem parts_identifier {name : List Char} {text : List (Char × Bool)}
    (member : .assignment name text ∈ parts [] position tokens) : Identifier name := by
  have word : ∀ {w : Word}, .assignment name text = word_part [] w → Identifier name := by
    intro w same
    unfold word_part at same
    split at same
    · next found =>
      obtain ⟨rfl,_⟩ := Part.assignment.inj same
      exact assigns_identifier found
    · cases same
  induction tokens generalizing position with
  | nil => cases member
  | cons token tokens ih =>
    have none : (if position = .command ∧ begins token then assignments [] else []) = [] := by split <;> rfl
    rw [parts,none,List.nil_append] at member
    rcases List.mem_cons.mp member with same | member
    · cases token with
      | operator text => simp only [part] at same; split at same <;> cases same
      | number w => cases same
      | word w =>
        cases position with
        | command =>
          simp only [part] at same
          split at same
          · cases same
          · exact word same
        | assigned => exact word same
        | arguments => cases same
        | target assigned => cases same
    · exact ih member

theorem assignments_subset (started : 0 < starts position tokens) :
    assignments settings ⊆ parts settings position tokens := by
  induction tokens generalizing position with
  | nil => cases started
  | cons token tokens ih =>
    unfold starts at started
    unfold parts
    by_cases first : position = .command ∧ begins token
    · rw [if_pos first]
      exact fun p member => List.mem_append_left _ member
    · rw [if_neg first] at started
      exact fun p member => List.mem_append_right _ (List.mem_cons_of_mem _ (ih (by omega) member))

theorem part_assigned (begin : begins token = true) : part settings .assigned token = part settings .command token := by
  cases token with
  | word w =>
    have ordinary : ¬ Reserved w := by simpa [begins] using begin
    simp only [part,if_neg ordinary]
  | number w => rfl
  | operator text => rfl

theorem next_assigned (begin : begins token = true) : next .assigned token = next .command token := by
  cases token with
  | word w =>
    have ordinary : ¬ Reserved w := by simpa [begins] using begin
    simp only [next,if_neg (fun member => ordinary (.inl member)),if_neg (fun member => ordinary (.inr member))]
  | number w => rfl
  | operator text => rfl

theorem known_nil {w : Word} : known settings w = [] ↔ ∀ name ∈ uses w, value settings name = none := by
  simp [known,List.filterMap_eq_nil_iff]

theorem known_unset (w : Word) : known [] w = [] := known_nil.mpr fun _ _ => rfl

theorem word_same {w : Word} : Part.word (plain w) (known [] w) = .word (plain w) (known settings w) ↔
    ∀ name ∈ uses w, value settings name = none := by
  rw [known_unset,← known_nil]
  exact ⟨fun same => (Part.word.inj same).2.symm,fun none => by rw [none]⟩

theorem word_part_same {w : Word} : word_part [] w = word_part settings w ↔
    ∀ name ∈ word_uses w (word_part [] w), value settings name = none := by
  unfold word_part
  cases assigns w with
  | some read => simp [word_uses]
  | none => exact word_same

/-- A token is read alike whether variables are set or not, where it expands none of them. -/
theorem part_same : part [] position token = part settings position token ↔
    ∀ name ∈ token_uses position token, value settings name = none := by
  cases token with
  | operator text => simp [part,token_uses]
  | number w => simp [part,token_uses]
  | word w =>
    cases position with
    | command =>
      by_cases reserved : Reserved w
      · simp [part,token_uses,word_uses,reserved]
      · simp only [part,token_uses,if_neg reserved]
        exact word_part_same
    | assigned => exact word_part_same
    | arguments => exact word_same
    | target assigned => exact word_same

/-- Where no further simple command begins. -/
theorem parts_same (none_starts : starts position tokens = 0) : parts [] position tokens = parts settings position tokens ↔
    ∀ name ∈ expanded position tokens, value settings name = none := by
  induction tokens generalizing position with
  | nil => simp [parts,expanded]
  | cons token tokens ih =>
    unfold starts at none_starts
    have stays : ¬ (position = .command ∧ begins token = true) := fun first => by simp [first] at none_starts
    rw [if_neg stays] at none_starts
    simp only [parts,if_neg stays,List.nil_append,List.cons.injEq,expanded,List.forall_mem_append]
    rw [part_same,ih (by omega)]

/-- A text is one simple command that expands none of the variables. -/
structure Simple (settings : Settings) (tokens : List Token) : Prop where
  begins : ∃ first rest, tokens = first :: rest ∧ begins first = true
  once : starts .command tokens = 1
  apart : ∀ name ∈ expanded .command tokens, value settings name = none

theorem assignments_injective {left right : Settings} (same : assignments left = assignments right) : left = right := by
  refine List.map_injective_iff.mpr ?_ same
  rintro ⟨name,text⟩ ⟨name',text'⟩ equal
  obtain ⟨rfl,texts⟩ := Part.assignment.inj equal
  exact congrArg (Prod.mk name) (List.map_injective_iff.mpr (fun c d pairs => (Prod.mk.inj pairs).1) texts)

theorem part_ends (closed : begins token = false) (name : List Char) (text : List (Char × Bool)) :
    part settings .command token ≠ .assignment name text := by
  cases token with
  | operator text =>
    have other : ¬ Redirection text := by simpa [begins] using closed
    simp [part,other]
  | number w => cases closed
  | word w =>
    have reserved : Reserved w := by simpa [begins] using closed
    simp [part,reserved]

/-- Behind the assignments a text is read as a command of a shell that has the variables set,
    exactly where it is one simple command and expands none of them. -/
theorem assigned_same {given : Settings} (filled : given ≠ []) (length : given.length = settings.length)
    (started : 0 < starts .command tokens) :
    assignments given ++ parts [] .assigned tokens = parts settings .command tokens ↔
      given = settings ∧ Simple settings tokens := by
  cases tokens with
  | nil => cases started
  | cons first rest =>
    cases begin : begins first with
    | false =>
      obtain ⟨⟨name,text⟩,more,rfl⟩ := List.exists_cons_of_ne_nil filled
      constructor
      · intro same
        simp only [parts,begin] at same
        exact absurd (List.cons.inj same).1.symm (part_ends begin name _)
      · rintro ⟨_,simple⟩
        obtain ⟨_,_,same,begins_first⟩ := simple.begins
        obtain ⟨rfl,rfl⟩ := List.cons.inj same
        exact absurd begins_first (by simp [begin])
    | true =>
      have alone : parts [] .assigned (first :: rest) = part [] .command first :: parts [] (next .command first) rest := by
        simp [parts,part_assigned begin,next_assigned begin]
      have spec : parts settings .command (first :: rest) =
          assignments settings ++ part settings .command first :: parts settings (next .command first) rest := by
        simp [parts,begin]
      have count : starts .command (first :: rest) = 1 + starts (next .command first) rest := by simp [starts,begin]
      have uses_split : (∀ name ∈ expanded .command (first :: rest), value settings name = none) ↔
          (∀ name ∈ token_uses .command first, value settings name = none) ∧
            ∀ name ∈ expanded (next .command first) rest, value settings name = none := List.forall_mem_append
      rw [alone,spec]
      constructor
      · intro same
        obtain ⟨given_same,same⟩ := List.append_inj same (by simpa [assignments] using length)
        obtain ⟨first_same,rest_same⟩ := List.cons.inj same
        obtain rfl := assignments_injective given_same
        have lengths := congrArg List.length rest_same
        rw [parts_length,parts_length] at lengths
        have none_starts : starts (next .command first) rest = 0 := by simpa [filled] using lengths
        exact ⟨rfl,⟨first,rest,rfl,begin⟩,by omega,uses_split.mpr ⟨part_same.mp first_same,(parts_same none_starts).mp rest_same⟩⟩
      · rintro ⟨rfl,simple⟩
        have none_starts : starts (next .command first) rest = 0 := by have := simple.once; omega
        obtain ⟨first_apart,rest_apart⟩ := uses_split.mp simple.apart
        rw [part_same.mpr first_apart,(parts_same none_starts).mpr rest_apart]

end

end Automation.ShellCommands
