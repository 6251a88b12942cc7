import Mathlib.Algebra.Order.Ring.Nat
import Mathlib.Algebra.BigOperators.Group.List.Basic

/-!
How a POSIX shell divides a text into words and operators, one character at a time: quotes,
escapes, comments, parameters and patterns. A here-document, a backquote, an arithmetic
expansion and a command substitution within double quotes are outside of what is read.
-/
namespace Automation.PosixShell

/-- A character of a word: as it stands, out of quotes or behind a backslash, or active,
    where the shell puts the value of a parameter, a home directory or the names of files. -/
inductive Piece
  | bare (c : Char)
  | quoted (c : Char)
  | active (c : Char)
  deriving DecidableEq

abbrev Word := List Piece

def Piece.char : Piece → Char
  | .bare c => c
  | .quoted c => c
  | .active c => c

def Piece.isActive : Piece → Bool
  | .active _ => true
  | _ => false

/-- The text of a word in which nothing is active. -/
def literal (w : Word) : Option (List Char) :=
  if w.any Piece.isActive then none else some (w.map Piece.char)

/-- A token: a word, a descriptor's number before a redirection, or an operator. -/
inductive Token
  | word (w : Word)
  | number (w : Word)
  | operator (text : List Char)
  deriving DecidableEq

inductive Mode
  | plain
  | escape
  | single
  | double
  | double_escape
  | dollar (inside : Bool)
  | name (inside : Bool)
  | brace (inside : Bool)
  | comment
  | operator (first : Char)
  | broken
  deriving DecidableEq

/-- The word that is being read, if any, and the tokens before it. -/
structure State where
  mode : Mode
  word : Option Word
  tokens : List Token
  deriving DecidableEq

def start : State := ⟨.plain,none,[]⟩

namespace State
variable (s : State)

def enter (mode : Mode) : State := ⟨mode,s.word,s.tokens⟩

/-- A quote begins a word that may stay empty. -/
def opened (mode : Mode) : State := ⟨mode,some (s.word.getD []),s.tokens⟩

def push (piece : Piece) (mode : Mode) : State := ⟨mode,some (s.word.getD [] ++ [piece]),s.tokens⟩

def flush (mode : Mode) : State := ⟨mode,none,s.tokens ++ (s.word.map Token.word).toList⟩

def emit (text : List Char) (mode : Mode) : State :=
  ⟨mode,none,s.tokens ++ (s.word.map Token.word).toList ++ [.operator text]⟩

def Numeric : Piece → Bool
  | .bare c => c.isDigit
  | _ => false

/-- The word before a redirection, which is a descriptor's number where it has only digits. -/
def described (w : Word) : Token := if w ≠ [] ∧ w.all Numeric then .number w else .word w

def flush_number (mode : Mode) : State := ⟨mode,none,s.tokens ++ (s.word.map described).toList⟩

end State

/-- What a character is for the shell outside of quotes. -/
inductive Kind
  | blank
  | newline
  | single
  | double
  | escape
  | dollar
  | control
  | redirection
  | parenthesis
  | pattern
  | comment
  | tilde
  | foreign
  | ordinary
  deriving DecidableEq

/-- The characters that have a meaning outside of quotes. -/
def kinds : List (Char × Kind) :=
  [(' ',.blank),('\t',.blank),('\n',.newline),('\'',.single),('"',.double),('\\',.escape),('$',.dollar),
    (';',.control),('&',.control),('|',.control),('<',.redirection),('>',.redirection),('(',.parenthesis),
    (')',.parenthesis),('*',.pattern),('?',.pattern),('[',.pattern),('#',.comment),('~',.tilde),('`',.foreign),
    ('\x00',.foreign)]

def kind (c : Char) : Kind := (kinds.lookup c).getD .ordinary

/-- A character outside of quotes. A `#` or a `~` has its meaning only where a word begins. -/
def plain_step (s : State) (c : Char) : State :=
  match kind c with
  | .blank => s.flush .plain
  | .newline => s.emit [c] .plain
  | .single => s.opened .single
  | .double => s.opened .double
  | .escape => s.enter .escape
  | .dollar => s.enter (.dollar false)
  | .control => s.flush (.operator c)
  | .redirection => s.flush_number (.operator c)
  | .parenthesis => s.emit [c] .plain
  | .pattern => s.push (.active c) .plain
  | .comment => if s.word = none then s.enter .comment else s.push (.bare c) .plain
  | .tilde => if s.word = none then s.push (.active c) .plain else s.push (.bare c) .plain
  | .foreign => s.enter .broken
  | .ordinary => s.push (.bare c) .plain

/-- A character within double quotes. -/
def double_step (s : State) (c : Char) : State :=
  if c = '"' then s.enter .plain
  else if c = '\\' then s.enter .double_escape
  else if c = '$' then s.enter (.dollar true)
  else if c = '`' ∨ c = '\x00' then s.enter .broken
  else s.push (.quoted c) .double

def base_step (inside : Bool) (s : State) (c : Char) : State :=
  if inside then double_step s c else plain_step s c

def base (inside : Bool) : Mode := if inside then .double else .plain

def NameChar (c : Char) : Prop := c = '_' ∨ c.isAlphanum = true

instance : DecidablePred NameChar := fun _ => inferInstanceAs (Decidable (_ ∨ _))

/-- The parameters that are named by one character. -/
def Special (c : Char) : Prop := c ∈ ['@','*','#','?','-','$','!'] ∨ c.isDigit = true

instance : DecidablePred Special := fun _ => inferInstanceAs (Decidable (_ ∨ _))

/-- The character behind a `$`. -/
def dollar_step (inside : Bool) (s : State) (c : Char) : State :=
  if c = '(' then if inside then s.enter .broken else s.flush (.operator '$')
  else if c = '{' then (s.push (.active '$') .broken).push (.active c) (.brace inside)
  else if Special c then (s.push (.active '$') .broken).push (.active c) (base inside)
  else if NameChar c then (s.push (.active '$') .broken).push (.active c) (.name inside)
  else if (c = '\'' ∨ c = '"') ∧ inside = false then s.enter .broken
  else base_step inside (s.push (if inside then .quoted '$' else .bare '$') (base inside)) c

def name_step (inside : Bool) (s : State) (c : Char) : State :=
  if NameChar c then s.push (.active c) (.name inside) else base_step inside s c

/-- The characters that a parameter in braces may have besides those of names. -/
def brace_chars : List Char := "@*#?-!:=+%,./^".toList

def brace_step (inside : Bool) (s : State) (c : Char) : State :=
  if c = '\x7d' then s.push (.active c) (base inside)
  else if NameChar c ∨ c ∈ brace_chars then s.push (.active c) (.brace inside)
  else s.enter .broken

def pairs : List (Char × Char) :=
  [('&','&'),('|','|'),(';',';'),('>','>'),('<','&'),('>','&'),('<','>'),('>','|')]

/-- The text of an operator of one character, `$(` where it is a `$`. -/
def operator_text (first : Char) : List Char := if first = '$' then ['$','('] else [first]

/-- The character behind an operator's first. `<<` and `$((` are not read. -/
def operator_step (first : Char) (s : State) (c : Char) : State :=
  if (first,c) ∈ pairs then s.emit [first,c] .plain
  else if (first,c) = ('<','<') ∨ (first,c) = ('$','(') then s.enter .broken
  else plain_step (s.emit (operator_text first) .plain) c

def step (s : State) (c : Char) : State :=
  match s.mode with
  | .plain => plain_step s c
  | .escape =>
    if c = '\n' then s.enter .plain else if c = '\x00' then s.enter .broken else s.push (.quoted c) .plain
  | .single =>
    if c = '\'' then s.enter .plain else if c = '\x00' then s.enter .broken else s.push (.quoted c) .single
  | .double => double_step s c
  | .double_escape =>
    if c = '$' ∨ c = '`' ∨ c = '"' ∨ c = '\\' then s.push (.quoted c) .double
    else if c = '\n' then s.enter .double
    else if c = '\x00' then s.enter .broken
    else (s.push (.quoted '\\') .broken).push (.quoted c) .double
  | .dollar inside => dollar_step inside s c
  | .name inside => name_step inside s c
  | .brace inside => brace_step inside s c
  | .comment =>
    if c = '\n' then s.emit [c] .plain else if c = '\x00' then s.enter .broken else s.enter .comment
  | .operator first => operator_step first s c
  | .broken => s.enter .broken

def run (s : State) (text : List Char) : State := text.foldl step s

/-- The tokens of a text that has come to its end, where no quote is open. -/
def finish (s : State) : Option (List Token) :=
  match s.mode with
  | .plain => some (s.flush .plain).tokens
  | .comment => some (s.flush .plain).tokens
  | .operator first => some (s.emit (operator_text first) .plain).tokens
  | .name false => some (s.flush .plain).tokens
  | .dollar false => some ((s.push (.bare '$') .plain).flush .plain).tokens
  | _ => none

def lex (text : String) : Option (List Token) := finish (run start text.toList)

/-- A token in which nothing is expanded. -/
inductive Item
  | word (text : List Char)
  | operator (text : List Char)
  deriving DecidableEq

def Token.item : Token → Option Item
  | .word w => (literal w).map .word
  | .number _ => none
  | .operator text => some (.operator text)

/-- The words and operators of a text that the shell carries out as it stands. -/
def read (text : String) : Option (List Item) := (lex text).bind fun tokens => tokens.mapM Token.item

example : lex "echo 'a b'\"c\" > \"$out\" # note" = some [.word ("echo".toList.map .bare),
    .word ("a bc".toList.map .quoted),.operator ['>'],.word ("$out".toList.map .active)] := by
  decide

theorem run_append (s : State) (left right : List Char) : run s (left ++ right) = run (run s left) right :=
  List.foldl_append

theorem run_cons (s : State) (c : Char) (text : List Char) : run s (c :: text) = run (step s c) text := rfl

@[simp] theorem run_nil (s : State) : run s [] = s := rfl

def State.behind (before : List Token) (s : State) : State := ⟨s.mode,s.word,before ++ s.tokens⟩

section
variable (before : List Token) (s : State) (mode : Mode) (piece : Piece) (text : List Char)

@[simp] theorem behind_mode : (s.behind before).mode = s.mode := rfl

@[simp] theorem behind_word : (s.behind before).word = s.word := rfl

@[simp] theorem behind_enter : (s.behind before).enter mode = (s.enter mode).behind before := rfl

@[simp] theorem behind_opened : (s.behind before).opened mode = (s.opened mode).behind before := rfl

@[simp] theorem behind_push : (s.behind before).push piece mode = (s.push piece mode).behind before := rfl

@[simp] theorem behind_flush : (s.behind before).flush mode = (s.flush mode).behind before := by
  simp [State.flush,State.behind]

@[simp] theorem behind_flush_number : (s.behind before).flush_number mode = (s.flush_number mode).behind before := by
  simp [State.flush_number,State.behind]

@[simp] theorem behind_emit : (s.behind before).emit text mode = (s.emit text mode).behind before := by
  simp [State.emit,State.behind]

@[simp] theorem behind_plain_step (c : Char) : plain_step (s.behind before) c = (plain_step s c).behind before := by
  unfold plain_step
  cases kind c <;> simp only [behind_word,behind_enter,behind_opened,behind_push,behind_flush,behind_flush_number,behind_emit]
  all_goals exact (apply_ite (State.behind before) ..).symm

@[simp] theorem behind_double_step (c : Char) : double_step (s.behind before) c = (double_step s c).behind before := by
  simp only [double_step,behind_enter,behind_push]
  split_ifs <;> rfl

@[simp] theorem behind_base_step (inside : Bool) (c : Char) :
    base_step inside (s.behind before) c = (base_step inside s c).behind before := by
  cases inside
  · exact behind_plain_step before s c
  · exact behind_double_step before s c

theorem behind_step (c : Char) : step (s.behind before) c = (step s c).behind before := by
  unfold step
  simp only [behind_mode]
  cases s.mode with
  | plain => simp
  | escape => dsimp only; split_ifs <;> simp
  | single => dsimp only; split_ifs <;> simp
  | double => simp
  | double_escape => dsimp only; split_ifs <;> simp
  | dollar inside => simp only [dollar_step,behind_enter,behind_push,behind_flush,behind_base_step]; split_ifs <;> rfl
  | name inside => simp only [name_step,behind_push,behind_base_step]; split_ifs <;> rfl
  | brace inside => simp only [brace_step,behind_enter,behind_push]; split_ifs <;> rfl
  | comment => dsimp only; split_ifs <;> simp
  | operator first => simp only [operator_step,behind_enter,behind_emit,behind_plain_step]; split_ifs <;> rfl
  | broken => rfl

theorem behind_run : run (s.behind before) text = (run s text).behind before := by
  induction text generalizing s with
  | nil => rfl
  | cons c text ih => rw [run_cons,run_cons,behind_step,ih]

/-- What is read after other tokens is read as it is alone. -/
theorem behind_finish : finish (s.behind before) = (finish s).map (before ++ ·) := by
  obtain ⟨mode,word,tokens⟩ := s
  cases mode with
  | plain => exact congrArg (fun s => some s.tokens) (behind_flush before _ _)
  | comment => exact congrArg (fun s => some s.tokens) (behind_flush before _ _)
  | operator first => exact congrArg (fun s => some s.tokens) (behind_emit before _ _ _)
  | name inside =>
    cases inside
    · exact congrArg (fun s => some s.tokens) (behind_flush before _ _)
    · rfl
  | dollar inside =>
    cases inside
    · exact congrArg (fun s => some s.tokens)
        (behind_flush before ((⟨.dollar false,word,tokens⟩ : State).push (.bare '$') .plain) .plain)
    · rfl
  | _ => rfl

end

theorem plain_null (s : State) : (plain_step s '\x00').mode = .broken := rfl

theorem base_null (inside : Bool) (s : State) : (base_step inside s '\x00').mode = .broken := by
  cases inside <;> rfl

theorem step_null (s : State) : (step s '\x00').mode = .broken := by
  unfold step
  cases s.mode with
  | dollar inside => exact base_null inside _
  | name inside => exact base_null inside _
  | operator first =>
    have alone : (first,'\x00') ∉ pairs := by simp [pairs]
    have other : ¬ ((first,'\x00') = ('<','<') ∨ (first,'\x00') = ('$','(')) := by simp
    dsimp only [operator_step]
    rw [if_neg alone,if_neg other]
    exact plain_null _
  | _ => rfl

theorem run_broken {s : State} (broken : s.mode = .broken) (text : List Char) : (run s text).mode = .broken := by
  induction text generalizing s with
  | nil => exact broken
  | cons c text ih => exact ih (by simp [step,broken,State.enter])

theorem finish_broken {s : State} (broken : s.mode = .broken) : finish s = none := by
  simp [finish,broken]

theorem whole_of_finish {s : State} {text : List Char} {tokens : List Token}
    (read : finish (run s text) = some tokens) : '\x00' ∉ text := by
  intro member
  obtain ⟨before,rest,rfl⟩ := List.append_of_mem member
  rw [run_append,run_cons,finish_broken (run_broken (step_null _) rest)] at read
  cases read

/-- A character that is itself within a word. -/
def Inert (c : Char) : Prop := kind c = .ordinary ∨ kind c = .comment ∨ kind c = .tilde

instance : DecidablePred Inert := fun _ => inferInstanceAs (Decidable (_ ∨ _ ∨ _))

theorem plain_inert {w : Word} {T : List Token} {c : Char} (inert : Inert c) :
    step ⟨.plain,some w,T⟩ c = ⟨.plain,some (w ++ [.bare c]),T⟩ := by
  show plain_step _ c = _
  rcases inert with ordinary | comment | tilde
  · simp [plain_step,ordinary,State.push]
  · simp [plain_step,comment,State.push]
  · simp [plain_step,tilde,State.push]

theorem run_inert (text : List Char) (inert : ∀ c ∈ text, Inert c) (w : Word) (T : List Token) :
    run ⟨.plain,some w,T⟩ text = ⟨.plain,some (w ++ text.map .bare),T⟩ := by
  induction text generalizing w with
  | nil => simp
  | cons c text ih =>
    rw [run_cons,plain_inert (inert c List.mem_cons_self),ih fun c member => inert c (List.mem_cons_of_mem _ member)]
    simp

/-- A word of inert characters, where its first is one at the beginning of a word too. -/
theorem run_bare {c : Char} {text : List Char} (first : kind c = .ordinary) (inert : ∀ c ∈ text, Inert c) (T : List Token) :
    run ⟨.plain,none,T⟩ (c :: text) = ⟨.plain,some ((c :: text).map .bare),T⟩ := by
  have opened : step ⟨.plain,none,T⟩ c = ⟨.plain,some [.bare c],T⟩ := by
    show plain_step _ c = _
    simp [plain_step,first,State.push]
  rw [run_cons,opened,run_inert text inert]
  rfl

/-- A character that single quotes keep. -/
def Kept (c : Char) : Prop := c ≠ '\'' ∧ c ≠ '\x00'

instance : DecidablePred Kept := fun _ => inferInstanceAs (Decidable (_ ∧ _))

/-- Whether quotes keep a text is read off it. -/
theorem kept_of_all {text : List Char} (all : (text.all fun c => decide (Kept c)) = true) : ∀ c ∈ text, Kept c :=
  fun c member => of_decide_eq_true (List.all_eq_true.mp all c member)

theorem run_single (text : List Char) (kept : ∀ c ∈ text, Kept c) (w : Word) (T : List Token) :
    run ⟨.single,some w,T⟩ text = ⟨.single,some (w ++ text.map .quoted),T⟩ := by
  induction text generalizing w with
  | nil => simp
  | cons c text ih =>
    have one : step ⟨.single,some w,T⟩ c = ⟨.single,some (w ++ [.quoted c]),T⟩ := by
      have := kept c List.mem_cons_self
      simp [step,this.1,this.2,State.push]
    rw [run_cons,one,ih fun c member => kept c (List.mem_cons_of_mem _ member)]
    simp

/-- The characters that need no quotes. -/
def Safe (c : Char) : Prop := c.isAlphanum = true ∨ c ∈ "_@%+=:,./-".toList

instance : DecidablePred Safe := fun _ => inferInstanceAs (Decidable (_ ∨ _))

def quote_char (c : Char) : List Char := if c = '\'' then "'\"'\"'".toList else [c]

/-- A text that needs no quotes. -/
def Unquoted (text : List Char) : Prop := text ≠ [] ∧ ∀ c ∈ text, Safe c

instance (text : List Char) : Decidable (Unquoted text) :=
  @instDecidableAnd _ _ inferInstance (List.decidableBAll Safe text)

/-- `shlex.quote`. -/
def quote (text : List Char) : List Char :=
  if Unquoted text then text else '\'' :: text.flatMap quote_char ++ ['\'']

def quoted_word (text : List Char) : Word :=
  if Unquoted text then text.map .bare else text.map .quoted

theorem safe_ordinary {c : Char} (safe : Safe c) : kind c = .ordinary := by
  have meant : ∀ p ∈ kinds, ¬ Safe p.1 := by decide
  have missing : kinds.lookup c = none := by
    rw [List.lookup_eq_none_iff]
    intro p member
    exact bne_iff_ne.mpr fun same => meant p member (same ▸ safe)
  rw [kind,missing]
  rfl

theorem run_quote_chars (text : List Char) (whole : '\x00' ∉ text) (w : Word) (T : List Token) :
    run ⟨.single,some w,T⟩ (text.flatMap quote_char) = ⟨.single,some (w ++ text.map .quoted),T⟩ := by
  induction text generalizing w with
  | nil => simp
  | cons c text ih =>
    have one : run ⟨.single,some w,T⟩ (quote_char c) = ⟨.single,some (w ++ [.quoted c]),T⟩ := by
      by_cases mark : c = '\''
      · subst mark
        rfl
      · have kept : Kept c := ⟨mark,fun same => whole (same ▸ List.mem_cons_self)⟩
        rw [quote_char,if_neg mark]
        exact run_single [c] (by simpa using kept) w T
    rw [List.flatMap_cons,run_append,one,ih fun member => whole (List.mem_cons_of_mem _ member)]
    simp

theorem run_quote (text : List Char) (whole : '\x00' ∉ text) (T : List Token) :
    run ⟨.plain,none,T⟩ (quote text) = ⟨.plain,some (quoted_word text),T⟩ := by
  unfold quote quoted_word
  split
  · next safe =>
    obtain ⟨c,rest,rfl⟩ := List.exists_cons_of_ne_nil safe.1
    have all := fun c member => safe_ordinary (safe.2 c member)
    exact run_bare (all c List.mem_cons_self) (fun c member => .inl (all c (List.mem_cons_of_mem _ member))) T
  · have opened : step ⟨.plain,none,T⟩ '\'' = ⟨.single,some [],T⟩ := rfl
    rw [List.cons_append,run_cons,opened,run_append,run_quote_chars text whole]
    rfl

theorem run_quote_behind (text : List Char) (whole : '\x00' ∉ text) (w : Word) (T : List Token) :
    run ⟨.plain,some w,T⟩ (quote text) = ⟨.plain,some (w ++ quoted_word text),T⟩ := by
  unfold quote quoted_word
  split
  · next safe => exact run_inert text (fun c member => .inl (safe_ordinary (safe.2 c member))) w T
  · have opened : step ⟨.plain,some w,T⟩ '\'' = ⟨.single,some w,T⟩ := rfl
    rw [List.cons_append,run_cons,opened,run_append,run_quote_chars text whole]
    rfl

/-- The weight of a text whose characters have weights. -/
def weight (f : Char → Nat) (text : List Char) : Nat := (text.map f).sum

@[simp] theorem weight_nil (f : Char → Nat) : weight f [] = 0 := rfl

@[simp] theorem weight_cons (f : Char → Nat) (c : Char) (text : List Char) : weight f (c :: text) = f c + weight f text := by
  simp [weight]

@[simp] theorem weight_append (f : Char → Nat) (left right : List Char) :
    weight f (left ++ right) = weight f left + weight f right := by
  simp [weight]

def Token.chars : Token → List Char
  | .word w => w.map Piece.char
  | .number w => w.map Piece.char
  | .operator _ => []

/-- The characters of the words that a state has. -/
def State.chars (s : State) : List Char := s.tokens.flatMap Token.chars ++ (s.word.getD []).map Piece.char

/-- What a mode holds back: the quote that it is in, and a character before its meaning is known. -/
def pending (f : Char → Nat) : Mode → Nat
  | .single => f '\''
  | .double => f '"'
  | .double_escape => f '"' + f '\\'
  | .dollar inside => f '$' + if inside then f '"' else 0
  | .name inside => if inside then f '"' else 0
  | .brace inside => if inside then f '"' else 0
  | _ => 0

section
variable (f : Char → Nat) (s : State) (mode : Mode) (c : Char)

@[simp] theorem weight_enter : weight f (s.enter mode).chars = weight f s.chars := rfl

@[simp] theorem weight_opened : weight f (s.opened mode).chars = weight f s.chars := rfl

@[simp] theorem weight_push (piece : Piece) :
    weight f (s.push piece mode).chars = weight f s.chars + f piece.char := by
  simp [State.push,State.chars]
  omega

@[simp] theorem weight_flush : weight f (s.flush mode).chars = weight f s.chars := by
  obtain ⟨_,word,tokens⟩ := s
  cases word <;> simp [State.flush,State.chars,Token.chars]

@[simp] theorem weight_flush_number : weight f (s.flush_number mode).chars = weight f s.chars := by
  obtain ⟨_,word,tokens⟩ := s
  cases word with
  | none => simp [State.flush_number,State.chars]
  | some w =>
    have same : (State.described w).chars = w.map Piece.char := by unfold State.described; split <;> rfl
    simp [State.flush_number,State.chars,same]

@[simp] theorem weight_emit (text : List Char) : weight f (s.emit text mode).chars = weight f s.chars := by
  obtain ⟨_,word,tokens⟩ := s
  cases word <;> simp [State.emit,State.chars,Token.chars]

@[simp] theorem mode_enter : (s.enter mode).mode = mode := rfl

@[simp] theorem mode_opened : (s.opened mode).mode = mode := rfl

@[simp] theorem mode_push (piece : Piece) : (s.push piece mode).mode = mode := rfl

@[simp] theorem mode_flush : (s.flush mode).mode = mode := rfl

@[simp] theorem mode_flush_number : (s.flush_number mode).mode = mode := rfl

@[simp] theorem mode_emit (text : List Char) : (s.emit text mode).mode = mode := rfl

@[simp] theorem pending_base (inside : Bool) : pending f (base inside) = if inside then f '"' else 0 := by
  cases inside <;> rfl

/-- The weight of what a state has and holds back. -/
def State.load : Nat := weight f s.chars + pending f s.mode

theorem kind_mem {c : Char} {k : Kind} (known : kind c = k) (meant : k ≠ .ordinary) : (c,k) ∈ kinds := by
  unfold kind at known
  cases found : kinds.lookup c with
  | none => rw [found] at known; exact absurd known.symm meant
  | some other =>
    rw [found] at known
    obtain ⟨before,rest,split,_⟩ := List.lookup_eq_some_iff.mp found
    rw [split]
    exact List.mem_append_right _ (known ▸ List.mem_cons_self)

theorem kind_single {c : Char} (known : kind c = .single) : c = '\'' := by
  simpa [kinds] using kind_mem known (by decide)

theorem kind_double {c : Char} (known : kind c = .double) : c = '"' := by
  simpa [kinds] using kind_mem known (by decide)

theorem kind_dollar {c : Char} (known : kind c = .dollar) : c = '$' := by
  simpa [kinds] using kind_mem known (by decide)

theorem load_plain_step : (plain_step s c).load f ≤ weight f s.chars + f c := by
  unfold plain_step State.load
  cases known : kind c with
  | single => simp [pending,kind_single known]
  | double => simp [pending,kind_double known]
  | dollar => simp [pending,kind_dollar known]
  | comment => dsimp only; split <;> simp [pending,Piece.char]
  | tilde => dsimp only; split <;> simp [pending,Piece.char]
  | _ => simp [pending,Piece.char]

theorem load_double_step : (double_step s c).load f ≤ weight f s.chars + f '"' + f c := by
  unfold double_step State.load
  split_ifs with quote escape dollar broken
  · simp [pending]; omega
  · simp [pending,escape]; omega
  · simp [pending,dollar]; omega
  · simp [pending]; omega
  · simp [pending,Piece.char]; omega

/-- What the quotes of a base mode hold back. -/
theorem load_base_step (inside : Bool) :
    (base_step inside s c).load f ≤ weight f s.chars + (if inside then f '"' else 0) + f c := by
  cases inside
  · exact load_plain_step f s c
  · exact load_double_step f s c

theorem load_dollar_step (inside : Bool) :
    (dollar_step inside s c).load f ≤ weight f s.chars + pending f (.dollar inside) + f c := by
  unfold dollar_step
  split_ifs
  · simp [State.load,pending]; omega
  · simp [State.load,pending]; omega
  · simp [State.load,pending,Piece.char]; omega
  · cases inside <;> simp [State.load,Piece.char,pending,base]; omega
  · simp [State.load,pending,Piece.char]; omega
  · simp [State.load,pending]; omega
  · refine (load_base_step f _ c inside).trans ?_
    cases inside <;> simp [pending,Piece.char]; omega
  · refine (load_base_step f _ c inside).trans ?_
    cases inside <;> simp [pending,Piece.char]; omega

/-- A step adds no more than the weight of its character. -/
theorem load_step : (step s c).load f ≤ s.load f + f c := by
  have held : s.load f = weight f s.chars + pending f s.mode := rfl
  rw [held]
  unfold step
  cases s.mode with
  | plain => exact load_plain_step f s c
  | escape =>
    dsimp only
    split_ifs <;> simp [State.load,pending,Piece.char]
  | single =>
    dsimp only
    split_ifs <;> simp [State.load,pending,Piece.char] <;> omega
  | double => exact load_double_step f s c
  | double_escape =>
    dsimp only
    split_ifs <;> simp [State.load,pending,Piece.char] <;> omega
  | dollar inside => exact load_dollar_step f s c inside
  | name inside =>
    dsimp only [name_step]
    split_ifs
    · simp [State.load,pending,Piece.char]; omega
    · exact load_base_step f s c inside
  | brace inside =>
    dsimp only [brace_step]
    split_ifs
    · cases inside <;> simp [State.load,pending,Piece.char,base]; omega
    · simp [State.load,pending,Piece.char]; omega
    · simp [State.load,pending]; omega
  | comment =>
    dsimp only
    split_ifs <;> simp [State.load,pending]
  | operator first =>
    dsimp only [operator_step]
    split_ifs
    · simp [State.load,pending]
    · simp [State.load,pending]
    · refine (load_plain_step f _ c).trans ?_
      simp
  | broken => exact Nat.le_add_right _ _

theorem load_run (text : List Char) : (run s text).load f ≤ s.load f + weight f text := by
  induction text generalizing s with
  | nil => exact Nat.le_add_right _ _
  | cons c text ih =>
    have one := load_step f s c
    have rest := ih (step s c)
    rw [run_cons,weight_cons]
    omega

end

end Automation.PosixShell
