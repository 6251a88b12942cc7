import Automation.PosixShell
import Mathlib.Data.List.Induction

/-!
What the POSIX utility `printf` prints for a format without operands: the text of the format
with its escapes and conversions carried out. What POSIX leaves open is none: another escape,
or a format that ends within one.
-/
namespace Automation.Printf
open Automation.PosixShell (weight weight_nil weight_cons weight_append)

/-- The characters that a format or a line of its output gives a meaning to, and the quote. -/
def Marked (c : Char) : Prop := c = '\'' ∨ c = '%' ∨ c = '\\' ∨ c = '\n'

instance : DecidablePred Marked := fun _ => inferInstanceAs (Decidable (_ ∨ _ ∨ _ ∨ _))

/-- What the conversions print where there is no operand: blanks, digits and signs. -/
structure Conversions where
  print : List Char → Option (List Char)
  unmarked : ∀ conversion text, print conversion = some text → ∀ c ∈ text, ¬ Marked c

/-- Where in a format: between its escapes and conversions, behind a backslash, behind the
    digits of a character's number, within a conversion, or where it means nothing. -/
inductive Place
  | text
  | escape
  | octal (value digits : Nat)
  | conversion (read : List Char)
  | failed
  deriving DecidableEq

structure State where
  place : Place
  written : List Char
  deriving DecidableEq

def start : State := ⟨.text,[]⟩

/-- The escapes of one letter. -/
def escapes : List (Char × Char) :=
  [('\\','\\'),('a','\x07'),('b','\x08'),('f','\x0c'),('n','\n'),('r','\r'),('t','\t'),('v','\x0b')]

def octal_digit (c : Char) : Option Nat := if '0' ≤ c ∧ c ≤ '7' then some (c.toNat - 48) else none

/-- The one byte of a character's number. -/
def octal_char (value : Nat) : Char := Char.ofNat (value % 256)

/-- The characters before the letter of a conversion. -/
def Flag (c : Char) : Prop := c ∈ "-+ #.".toList ∨ c.isDigit = true

instance : DecidablePred Flag := fun _ => inferInstanceAs (Decidable (_ ∨ _))

def conversion_letters : List Char := "diouxXaAeEfFgGcsb".toList

def text_step (written : List Char) (c : Char) : State :=
  if c = '%' then ⟨.conversion [],written⟩
  else if c = '\\' then ⟨.escape,written⟩
  else ⟨.text,written ++ [c]⟩

def escape_step (written : List Char) (c : Char) : State :=
  match escapes.lookup c,octal_digit c with
  | some printed,_ => ⟨.text,written ++ [printed]⟩
  | none,some digit => ⟨.octal digit 1,written⟩
  | none,none => ⟨.failed,written⟩

def octal_step (written : List Char) (value digits : Nat) (c : Char) : State :=
  match octal_digit c with
  | some digit =>
    if digits < 3 then ⟨.octal (8 * value + digit) (digits + 1),written⟩
    else text_step (written ++ [octal_char value]) c
  | none => text_step (written ++ [octal_char value]) c

def conversion_step (conversions : Conversions) (written read : List Char) (c : Char) : State :=
  if c = '%' ∧ read = [] then ⟨.text,written ++ [c]⟩
  else if Flag c then ⟨.conversion (read ++ [c]),written⟩
  else if c ∈ conversion_letters then
    match conversions.print (read ++ [c]) with
    | some printed => ⟨.text,written ++ printed⟩
    | none => ⟨.failed,written⟩
  else ⟨.failed,written⟩

def step (conversions : Conversions) (s : State) (c : Char) : State :=
  match s.place with
  | .text => text_step s.written c
  | .escape => escape_step s.written c
  | .octal value digits => octal_step s.written value digits c
  | .conversion read => conversion_step conversions s.written read c
  | .failed => s

def run (conversions : Conversions) (s : State) (format : List Char) : State := format.foldl (step conversions) s

def finish (s : State) : Option (List Char) :=
  match s.place with
  | .text => some s.written
  | .octal value _ => some (s.written ++ [octal_char value])
  | _ => none

/-- `printf format`. -/
def printf (conversions : Conversions) (format : List Char) : Option (List Char) :=
  finish (run conversions start format)

section
variable {conversions : Conversions}

theorem run_append (s : State) (left right : List Char) :
    run conversions s (left ++ right) = run conversions (run conversions s left) right := List.foldl_append

theorem run_cons (s : State) (c : Char) (format : List Char) :
    run conversions s (c :: format) = run conversions (step conversions s c) format := rfl

theorem plain_of_all {text : List Char} (all : (text.all fun c => decide (c ≠ '%' ∧ c ≠ '\\')) = true) :
    ∀ c ∈ text, c ≠ '%' ∧ c ≠ '\\' :=
  fun c member => of_decide_eq_true (List.all_eq_true.mp all c member)

theorem run_text (text : List Char) (plain : ∀ c ∈ text, c ≠ '%' ∧ c ≠ '\\') (written : List Char) :
    run conversions ⟨.text,written⟩ text = ⟨.text,written ++ text⟩ := by
  induction text generalizing written with
  | nil => simp [run]
  | cons c text ih =>
    have one : step conversions ⟨.text,written⟩ c = ⟨.text,written ++ [c]⟩ := by
      have := plain c List.mem_cons_self
      simp [step,text_step,this.1,this.2]
    rw [run_cons,one,ih fun c member => plain c (List.mem_cons_of_mem _ member)]
    simp

theorem run_newline (written : List Char) :
    run conversions ⟨.text,written⟩ ['\\','n'] = ⟨.text,written ++ ['\n']⟩ := rfl

theorem run_line (text : List Char) (plain : ∀ c ∈ text, c ≠ '%' ∧ c ≠ '\\') (written : List Char) :
    run conversions ⟨.text,written⟩ (text ++ ['\\','n']) = ⟨.text,written ++ (text ++ ['\n'])⟩ := by
  rw [run_append,run_text text plain,run_newline,List.append_assoc]

end

def mark (c : Char) : Nat := if Marked c then 1 else 0

/-- The number of marked characters. -/
def marks (text : List Char) : Nat := weight mark text

@[simp] theorem marks_nil : marks [] = 0 := rfl

@[simp] theorem marks_append (left right : List Char) : marks (left ++ right) = marks left + marks right :=
  weight_append mark left right

theorem marks_singleton (c : Char) : marks [c] = mark c := rfl

theorem mark_le (c : Char) : mark c ≤ 1 := by
  unfold mark
  split <;> simp

theorem marks_unmarked {text : List Char} (unmarked : ∀ c ∈ text, ¬ Marked c) : marks text = 0 := by
  induction text with
  | nil => rfl
  | cons c text ih =>
    have first : mark c = 0 := if_neg (unmarked c List.mem_cons_self)
    rw [marks,weight_cons,first]
    exact (Nat.zero_add _).trans (ih fun c member => unmarked c (List.mem_cons_of_mem _ member))

/-- The mark that a place has read and not written. -/
def held : Place → Nat
  | .escape => 1
  | .octal _ _ => 1
  | .conversion _ => 1
  | _ => 0

/-- The character that a place is still to write. -/
def owed : Place → Nat
  | .octal _ _ => 1
  | _ => 0

def sign : Place → Nat
  | .conversion _ => 1
  | _ => 0

/-- What is written has no more marks than what was read. Where it has as many, no conversion
    was carried out, and each escape made its text shorter. -/
structure Kept (text : List Char) (s : State) : Prop where
  le : marks s.written + held s.place ≤ marks text
  exact : marks s.written + held s.place = marks text →
    text.count '%' = sign s.place ∧ s.written.length + text.count '\\' + owed s.place ≤ text.length

section
variable {conversions : Conversions} {text written : List Char}

theorem text_kept (kept : Kept text ⟨.text,written⟩) (c : Char) : Kept (text ++ [c]) (text_step written c) := by
  obtain ⟨le,exact⟩ := kept
  simp only [held,sign,owed,Nat.add_zero] at le exact
  unfold text_step
  split_ifs with percent escape
  · subst percent
    have one : mark '%' = 1 := rfl
    constructor
    · simp [held,marks_singleton,one]; omega
    · simp [held,sign,owed,marks_singleton,one]; omega
  · subst escape
    have one : mark '\\' = 1 := rfl
    constructor
    · simp [held,marks_singleton,one]; omega
    · simp [held,sign,owed,marks_singleton,one]; omega
  · constructor
    · simp [held]; omega
    · simp [held,sign,owed,percent,escape]; omega

theorem octal_written {value digits : Nat} (kept : Kept text ⟨.octal value digits,written⟩) :
    Kept text ⟨.text,written ++ [octal_char value]⟩ := by
  obtain ⟨le,exact⟩ := kept
  simp only [held,sign,owed] at le exact
  have small := mark_le (octal_char value)
  constructor
  · simp [held,marks_singleton]; omega
  · simp [held,sign,owed,marks_singleton]; omega

theorem octal_unmarked {c : Char} {digit : Nat} (known : octal_digit c = some digit) : ¬ Marked c := by
  have range : '0' ≤ c ∧ c ≤ '7' := by
    unfold octal_digit at known
    split at known
    · assumption
    · cases known
  intro marked
  rcases marked with rfl | rfl | rfl | rfl <;> exact absurd range (by decide)

theorem unmarked_ne {c : Char} (unmarked : ¬ Marked c) : c ≠ '%' ∧ c ≠ '\\' :=
  ⟨fun same => unmarked (.inr (.inl same)),fun same => unmarked (.inr (.inr (.inl same)))⟩

/-- A letter of an escape has no mark, but for the backslash, which stands for itself. -/
theorem escapes_mark {c printed : Char} (known : escapes.lookup c = some printed) :
    (c = '\\' ∧ printed = '\\') ∨ ¬ Marked c := by
  obtain ⟨before,rest,split,_⟩ := List.lookup_eq_some_iff.mp known
  have member : (c,printed) ∈ escapes := split ▸ List.mem_append_right _ List.mem_cons_self
  have each : ∀ p ∈ escapes, (p.1 = '\\' ∧ p.2 = '\\') ∨ ¬ Marked p.1 := by decide
  exact each _ member

theorem escape_kept (kept : Kept text ⟨.escape,written⟩) (c : Char) (whole : (escape_step written c).place ≠ .failed) :
    Kept (text ++ [c]) (escape_step written c) := by
  obtain ⟨le,exact⟩ := kept
  simp only [held,sign,owed,Nat.add_zero] at le exact
  unfold escape_step at whole ⊢
  split
  · next printed known =>
    obtain ⟨rfl,rfl⟩ | unmarked := escapes_mark known
    · have one : mark '\\' = 1 := rfl
      constructor
      · simp [held,marks_singleton,one]; omega
      · simp [held,sign,owed,marks_singleton,one]; omega
    · have none : mark c = 0 := if_neg unmarked
      have := unmarked_ne unmarked
      have small := mark_le printed
      constructor
      · simp [held,marks_singleton,none]; omega
      · simp [held,sign,owed,marks_singleton,none,this.1,this.2]; omega
  · next digit _ known =>
    have none : mark c = 0 := if_neg (octal_unmarked known)
    have := unmarked_ne (octal_unmarked known)
    constructor
    · simp [held,marks_singleton,none]; omega
    · simp [held,sign,owed,marks_singleton,none,this.1,this.2]; omega
  · next lost lost' =>
    rw [lost,lost'] at whole
    exact absurd rfl whole

theorem octal_kept {value digits : Nat} (kept : Kept text ⟨.octal value digits,written⟩) (c : Char) :
    Kept (text ++ [c]) (octal_step written value digits c) := by
  unfold octal_step
  split
  · next digit known =>
    split
    · obtain ⟨le,exact⟩ := kept
      simp only [held,sign,owed] at le exact
      have none : mark c = 0 := if_neg (octal_unmarked known)
      have := unmarked_ne (octal_unmarked known)
      constructor
      · simp [held,marks_singleton,none]; omega
      · simp [held,sign,owed,marks_singleton,none,this.1,this.2]; omega
    · exact text_kept (octal_written kept) c
  · exact text_kept (octal_written kept) c

theorem flag_unmarked {c : Char} (flag : Flag c) : ¬ Marked c := by
  intro marked
  rcases marked with rfl | rfl | rfl | rfl <;> exact absurd flag (by decide)

theorem letter_unmarked {c : Char} (letter : c ∈ conversion_letters) : ¬ Marked c := by
  intro marked
  rcases marked with rfl | rfl | rfl | rfl <;> exact absurd letter (by decide)

theorem conversion_kept {read : List Char} (kept : Kept text ⟨.conversion read,written⟩) (c : Char)
    (whole : (conversion_step conversions written read c).place ≠ .failed) :
    Kept (text ++ [c]) (conversion_step conversions written read c) := by
  obtain ⟨le,exact⟩ := kept
  simp only [held,sign,owed] at le exact
  unfold conversion_step at whole ⊢
  split_ifs at whole ⊢ with percent flag letter
  · have one : mark c = 1 := by rw [percent.1]; rfl
    constructor
    · simp [held,marks_singleton,one]; omega
    · simp [held,sign,owed,marks_singleton,one]; omega
  · have none : mark c = 0 := if_neg (flag_unmarked flag)
    have := unmarked_ne (flag_unmarked flag)
    constructor
    · simp [held,marks_singleton,none]; omega
    · simp [held,sign,owed,marks_singleton,none,this.1,this.2]; omega
  · have none : mark c = 0 := if_neg (letter_unmarked letter)
    cases known : conversions.print (read ++ [c]) with
    | none => rw [known] at whole; exact absurd rfl whole
    | some printed =>
      have blank := marks_unmarked (conversions.unmarked _ _ known)
      constructor
      · simp [held,marks_singleton,none,blank]; omega
      · simp [held,sign,owed,marks_singleton,none,blank]; omega
  · exact absurd rfl whole

theorem step_kept {s : State} (kept : s.place ≠ .failed → Kept text s) (c : Char)
    (whole : (step conversions s c).place ≠ .failed) : Kept (text ++ [c]) (step conversions s c) := by
  obtain ⟨place,written⟩ := s
  cases place with
  | text => exact text_kept (kept nofun) c
  | escape => exact escape_kept (kept nofun) c whole
  | octal value digits => exact octal_kept (kept nofun) c
  | conversion read => exact conversion_kept (kept nofun) c whole
  | failed => exact absurd rfl whole

theorem run_kept (conversions : Conversions) (format : List Char) (whole : (run conversions start format).place ≠ .failed) :
    Kept format (run conversions start format) := by
  induction format using List.reverseRecOn with
  | nil => exact ⟨Nat.le_refl _,fun _ => ⟨rfl,Nat.le_refl _⟩⟩
  | append_singleton format c ih =>
    have last : run conversions start (format ++ [c]) = step conversions (run conversions start format) c :=
      run_append start format [c]
    rw [last] at whole ⊢
    exact step_kept ih c whole

theorem text_escape {c : Char} (escape : (text_step written c).place = .escape) : c = '\\' := by
  unfold text_step at escape
  split_ifs at escape with _ same
  exact same

theorem step_escape {s : State} {c : Char} (escape : (step conversions s c).place = .escape) : c = '\\' := by
  obtain ⟨place,written⟩ := s
  cases place with
  | text => exact text_escape escape
  | escape =>
    simp only [step,escape_step] at escape
    split at escape <;> cases escape
  | octal value digits =>
    simp only [step,octal_step] at escape
    split at escape
    · split at escape
      · cases escape
      · exact text_escape escape
    · exact text_escape escape
  | conversion read =>
    simp only [step,conversion_step] at escape
    split_ifs at escape
    split at escape <;> cases escape
  | failed => cases escape

theorem escape_last {format : List Char} (escape : (run conversions start format).place = .escape) :
    format.getLast? = some '\\' := by
  rcases List.eq_nil_or_concat' format with rfl | ⟨front,c,rfl⟩
  · cases escape
  · rw [run_append] at escape
    rw [step_escape escape,List.getLast?_concat]

theorem printf_kept {format out : List Char} (printed : printf conversions format = some out) :
    marks out ≤ marks format ∧ (marks out = marks format →
      format.count '%' = 0 ∧ out.length + format.count '\\' ≤ format.length) := by
  unfold printf at printed
  have kept := run_kept conversions format
  generalize run conversions start format = s at printed kept
  obtain ⟨place,written⟩ := s
  cases place with
  | text =>
    cases printed
    obtain ⟨le,exact⟩ := kept nofun
    exact ⟨le,exact⟩
  | octal value digits =>
    cases printed
    obtain ⟨le,exact⟩ := octal_written (kept nofun)
    exact ⟨le,exact⟩
  | _ => cases printed

end

end Automation.Printf
