import Automation.PyText

/-!
`str.format` and `string.Formatter.parse` of Python: a text is read as literal characters and
replacement fields (`parse`), a field is evaluated against keyword arguments that are strings
(`evaluate`), and a text is formatted exactly where it can be read to its end and every field can be
evaluated (`format_ok_iff`). What is reached from a string through an attribute is up to the object.
-/
namespace Automation.StrFormat
open Automation.PyText

inductive Raised where
  | KeyError (key : List Char)
  | IndexError
  | ValueError
  | TypeError
  | other (name : String)
  deriving DecidableEq

/-- A replacement field; without a `:` its format spec is empty. -/
structure Field where
  name : List Char
  spec : List Char
  conversion : Option Char
  deriving DecidableEq

inductive Piece where
  | literal (c : Char)
  | field (f : Field)
  deriving DecidableEq

/-- The name up to the character that ends it; between brackets none does. -/
def read_name : Bool → List Char → Except String (List Char × Char × List Char)
  | _, [] => .error "expected '\x7d' before end of string"
  | true, c :: cs => (read_name (c != ']') cs).map fun read => (c :: read.1,read.2)
  | false, c :: cs =>
    if c = '\x7b' then .error "unexpected '\x7b' in field name"
    else if c = '\x7d' ∨ c = ':' ∨ c = '!' then .ok ([],c,cs)
    else (read_name (c == '[') cs).map fun read => (c :: read.1,read.2)

/-- The format spec up to its brace; the number counts the other open ones. -/
def read_spec : Nat → List Char → Except String (List Char × List Char)
  | _, [] => .error "unmatched '\x7b' in format spec"
  | depth, c :: cs =>
    if c = '\x7d' then
      match depth with
      | 0 => .ok ([],cs)
      | depth + 1 => (read_spec depth cs).map fun read => (c :: read.1,read.2)
    else if c = '\x7b' then (read_spec (depth + 1) cs).map fun read => (c :: read.1,read.2)
    else (read_spec depth cs).map fun read => (c :: read.1,read.2)

def read_conversion (name : List Char) : List Char → Except String (Field × List Char)
  | [] => .error "end of string while looking for conversion specifier"
  | [_] => .error "unmatched '\x7b' in format spec"
  | conversion :: c :: cs =>
    if c = '\x7d' then .ok (⟨name,[],some conversion⟩,cs)
    else if c = ':' then (read_spec 0 cs).map fun read => (⟨name,read.1,some conversion⟩,read.2)
    else .error "expected ':' after conversion specifier"

/-- What stands behind an open brace. -/
def read_field (cs : List Char) : Except String (Field × List Char) := do
  let (name,mark,rest) ← read_name false cs
  if mark = '\x7d' then .ok (⟨name,[],none⟩,rest)
  else if mark = ':' then (read_spec 0 rest).map fun read => (⟨name,read.1,none⟩,read.2)
  else read_conversion name rest

/-- The pieces up to the first mistake. Each takes a character, so that as many turns as characters
    are enough. -/
def parseFrom : Nat → List Char → List Piece × Option String
  | _, [] => ([],none)
  | 0, _ => ([],none)
  | turns + 1, c :: cs =>
    if c = '\x7b' then
      match cs with
      | [] => ([],some "Single '\x7b' encountered in format string")
      | d :: ds =>
        if d = '\x7b' then (.literal c :: (parseFrom turns ds).1,(parseFrom turns ds).2)
        else
          match read_field cs with
          | .ok (f,rest) => (.field f :: (parseFrom turns rest).1,(parseFrom turns rest).2)
          | .error message => ([],some message)
    else if c = '\x7d' then
      match cs with
      | [] => ([],some "Single '\x7d' encountered in format string")
      | d :: ds =>
        if d = '\x7d' then (.literal c :: (parseFrom turns ds).1,(parseFrom turns ds).2)
        else ([],some "Single '\x7d' encountered in format string")
    else (.literal c :: (parseFrom turns cs).1,(parseFrom turns cs).2)

/-- `string.Formatter.parse`. -/
def parse (text : List Char) : List Piece × Option String := parseFrom text.length text

theorem map_ok {ε α β : Type} {f : α → β} {outcome : Except ε α} {b : β} (mapped : outcome.map f = .ok b) :
    ∃ a, outcome = .ok a ∧ f a = b := by
  cases outcome with
  | error e => cases mapped
  | ok a =>
    cases mapped
    exact ⟨a,rfl,rfl⟩

theorem read_name_length {inside : Bool} {cs name rest : List Char} {mark : Char} (read : read_name inside cs = .ok (name,mark,rest)) :
    rest.length < cs.length := by
  fun_induction read_name inside cs generalizing name mark rest with
  | case1 | case3 => cases read
  | case4 =>
    cases read
    exact Nat.lt_succ_self _
  | case2 c cs ih | case5 c cs _ _ ih =>
    obtain ⟨⟨before,sign,left⟩,later,same⟩ := map_ok read
    cases same
    exact Nat.lt_succ_of_lt (ih later)

theorem read_spec_length {depth : Nat} {cs spec rest : List Char} (read : read_spec depth cs = .ok (spec,rest)) :
    rest.length < cs.length := by
  fun_induction read_spec depth cs generalizing spec rest with
  | case1 => cases read
  | case2 =>
    cases read
    exact Nat.lt_succ_self _
  | case3 cs _ ih | case4 _ cs _ ih | case5 _ c cs _ _ ih =>
    obtain ⟨⟨before,left⟩,later,same⟩ := map_ok read
    cases same
    exact Nat.lt_succ_of_lt (ih later)

/-- A spec that opens no brace closes none. -/
theorem read_spec_plain {cs spec rest : List Char} (read : read_spec 0 cs = .ok (spec,rest)) (plain : '\x7b' ∉ spec) :
    '\x7d' ∉ spec := by
  induction cs generalizing spec with
  | nil => cases read
  | cons c cs ih =>
    rw [read_spec] at read
    by_cases closes : c = '\x7d'
    · rw [if_pos closes] at read
      cases read
      exact List.not_mem_nil
    · rw [if_neg closes] at read
      by_cases opens : c = '\x7b'
      · rw [if_pos opens] at read
        obtain ⟨⟨before,left⟩,-,same⟩ := map_ok read
        cases same
        exact absurd (opens ▸ List.mem_cons_self) plain
      · rw [if_neg opens] at read
        obtain ⟨⟨before,left⟩,later,same⟩ := map_ok read
        cases same
        have others := ih later fun member => plain (List.mem_cons_of_mem c member)
        intro member
        rcases List.mem_cons.mp member with same | member
        · exact closes same.symm
        · exact others member

theorem read_field_facts {cs rest : List Char} {f : Field} (read : read_field cs = .ok (f,rest)) :
    rest.length < cs.length ∧ ('\x7b' ∉ f.spec → '\x7d' ∉ f.spec) := by
  unfold read_field at read
  cases named : read_name false cs with
  | error message =>
    rw [named] at read
    cases read
  | ok all =>
    obtain ⟨name,mark,left⟩ := all
    have shorter := read_name_length named
    rw [named] at read
    change (if mark = '\x7d' then _ else if mark = ':' then _ else _) = _ at read
    by_cases ends : mark = '\x7d'
    · rw [if_pos ends] at read
      cases read
      exact ⟨shorter,fun _ => List.not_mem_nil⟩
    · rw [if_neg ends] at read
      by_cases colon : mark = ':'
      · rw [if_pos colon] at read
        obtain ⟨⟨spec,last⟩,later,same⟩ := map_ok read
        cases same
        exact ⟨Nat.lt_trans (read_spec_length later) shorter,read_spec_plain later⟩
      · rw [if_neg colon] at read
        match left, read with
        | [], read => cases read
        | [_], read => cases read
        | conversion :: c :: left, read =>
          rw [read_conversion] at read
          by_cases ends : c = '\x7d'
          · rw [if_pos ends] at read
            cases read
            refine ⟨?_,fun _ => List.not_mem_nil⟩
            simp only [List.length_cons] at shorter
            omega
          · rw [if_neg ends] at read
            by_cases colon : c = ':'
            · rw [if_pos colon] at read
              obtain ⟨⟨spec,last⟩,later,same⟩ := map_ok read
              cases same
              have last_shorter : last.length < left.length := read_spec_length later
              refine ⟨?_,read_spec_plain later⟩
              simp only [List.length_cons] at shorter
              show last.length < cs.length
              omega
            · rw [if_neg colon] at read
              cases read

def fields (pieces : List Piece) : List Field :=
  pieces.filterMap fun
    | .literal _ => none
    | .field f => some f

/-- The value of a number, `none` where a character is no decimal digit. -/
def number_from : Nat → List Char → Except Raised (Option Nat)
  | value, [] => .ok (some value)
  | value, c :: cs =>
    if isDecimal c then
      if value * 10 + digitValue c ≤ 9223372036854775807 then number_from (value * 10 + digitValue c) cs
      else .error .ValueError
    else .ok none

def get_integer (text : List Char) : Except Raised (Option Nat) := if text = [] then .ok none else number_from 0 text

inductive Value (ω : Type) where
  | str (text : List Char)
  | object (o : ω)

/-- What is reached from a string, and how it is written. -/
structure Objects (ω : Type) where
  getattr : Value ω → List Char → Except Raised (Value ω)
  getitem : ω → Nat ⊕ List Char → Except Raised (Value ω)
  str : ω → Except Raised (List Char)
  repr : ω → Except Raised (List Char)
  ascii : ω → Except Raised (List Char)
  format : ω → List Char → Except Raised (List Char)
  repr_str : List Char → List Char
  ascii_str : List Char → List Char

section
variable {ω : Type} (objects : Objects ω)

/-- `value[index]`. -/
def getitem (value : Value ω) (index : Nat ⊕ List Char) : Except Raised (Value ω) :=
  match value with
  | .object o => objects.getitem o index
  | .str text =>
    match index with
    | .inl n =>
      match text[n]? with
      | some c => .ok (.str [c])
      | none => .error .IndexError
    | .inr _ => .error .TypeError

def not_access (c : Char) : Bool := c != '.' && c != '['

/-- The attributes and items behind the first part of a field's name. -/
def follow : Nat → Value ω → List Char → Except Raised (Value ω)
  | _, value, [] => .ok value
  | 0, _, _ => .error .ValueError
  | turns + 1, value, c :: cs =>
    if c = '.' then
      let name := cs.takeWhile not_access
      if name = [] then .error .ValueError
      else do
        let next ← objects.getattr value name
        follow turns next (cs.dropWhile not_access)
    else if c = '[' then
      let name := cs.takeWhile (· != ']')
      match cs.dropWhile (· != ']') with
      | [] => .error .ValueError
      | _ :: rest => do
        let index ← get_integer name
        if name = [] then .error .ValueError
        else
          let next ← getitem objects value (match index with
            | some n => .inl n
            | none => .inr name)
          follow turns next rest
    else .error .ValueError

/-- The value of a field's name; there are no positional arguments. -/
def resolve (kwargs : List Char → Option (List Char)) (name : List Char) : Except Raised (Value ω) := do
  let first := name.takeWhile not_access
  let index ← get_integer first
  if first = [] ∨ index.isSome then .error .IndexError
  else
    match kwargs first with
    | none => .error (.KeyError first)
    | some text => follow objects name.length (.str text) (name.dropWhile not_access)

/-- The character NUL is the sign of no conversion. -/
def do_conversion (value : Value ω) (conversion : Option Char) : Except Raised (Value ω) :=
  match conversion with
  | none => .ok value
  | some c =>
    if c = Char.ofNat 0 then .ok value
    else if c = 'r' then
      match value with
      | .str text => .ok (.str (objects.repr_str text))
      | .object o => (objects.repr o).map .str
    else if c = 's' then
      match value with
      | .str text => .ok (.str text)
      | .object o => (objects.str o).map .str
    else if c = 'a' then
      match value with
      | .str text => .ok (.str (objects.ascii_str text))
      | .object o => (objects.ascii o).map .str
    else .error .ValueError

structure Spec where
  fill : Char
  align : Char
  width : Option Nat
  precision : Option Nat
  deriving DecidableEq

def is_align (c : Char) : Bool := c == '<' || c == '>' || c == '=' || c == '^'

/-- The fill and alignment in front, and what follows. -/
def read_align : List Char → Option Char × Option Char × List Char
  | c :: d :: cs => if is_align d then (some c,some d,cs) else if is_align c then (none,some c,d :: cs) else (none,none,c :: d :: cs)
  | [c] => if is_align c then (none,some c,[]) else (none,none,[c])
  | [] => (none,none,[])

/-- The digits in front, `none` where there are too many. -/
def read_digits (cs : List Char) : Option (Option Nat × List Char) :=
  match get_integer (cs.takeWhile isDecimal) with
  | .ok n => some (n,cs.dropWhile isDecimal)
  | .error _ => none

/-- A dot has digits behind it. -/
def read_precision : List Char → Option (Option Nat × List Char)
  | '.' :: cs => (read_digits cs).filter fun read => read.1.isSome
  | cs => some (none,cs)

/-- `[[fill]<>^][0][width][.precision][s]`, which are the specs a string accepts. -/
def string_spec (spec : List Char) : Option Spec := do
  let (fill,align,cs) := read_align spec
  if align = some '=' then none
  let zero := fill.isNone && cs.head? == some '0'
  let (width,cs) ← read_digits cs
  let (precision,cs) ← read_precision cs
  if cs = [] ∨ cs = ['s'] then
    return ⟨fill.getD (if zero then '0' else ' '),align.getD '<',width,precision⟩
  else none

/-- `[[fill]<>^]`. -/
def Alignment (cs : List Char) : Prop := cs = [] ∨ ∃ fill c, fill.length ≤ 1 ∧ c ∈ ['<','>','^'] ∧ cs = fill ++ [c]

/-- Digits of a number that is not too large, or none. -/
def Number (cs : List Char) : Prop := (∀ c ∈ cs, isDecimal c = true) ∧ ∃ n, get_integer cs = .ok n

def Precision (cs : List Char) : Prop := cs = [] ∨ ∃ digits, cs = '.' :: digits ∧ digits ≠ [] ∧ Number digits

/-- `[[fill]<>^][width][.precision][s]`; a zero in front of the width is one of its digits. -/
def StringSpec (spec : List Char) : Prop :=
  ∃ align width precision type, spec = align ++ (width ++ (precision ++ type)) ∧
    Alignment align ∧ Number width ∧ Precision precision ∧ type ∈ [[],['s']]

theorem decimal_not_align {c : Char} (decimal : isDecimal c = true) : is_align c = false := by
  cases aligned : is_align c with
  | false => rfl
  | true =>
    have cases_of : ((c = '<' ∨ c = '>') ∨ c = '=') ∨ c = '^' := by simpa [is_align] using aligned
    rcases cases_of with ((rfl | rfl) | rfl) | rfl <;> exact absurd decimal (by decide)

theorem read_align_spec (spec : List Char) :
    ∃ front, spec = front ++ (read_align spec).2.2 ∧ ((read_align spec).2.1 ≠ some '=' → Alignment front) := by
  have one {c : Char} (aligned : is_align c = true) (allowed : some c ≠ some '=') : c ∈ ['<','>','^'] := by
    have cases_of : ((c = '<' ∨ c = '>') ∨ c = '=') ∨ c = '^' := by simpa [is_align] using aligned
    rcases cases_of with ((rfl | rfl) | rfl) | rfl <;> simp_all
  fun_cases read_align spec with
  | case1 c d cs second => exact ⟨[c,d],rfl,fun allowed => .inr ⟨[c],d,le_rfl,one second allowed,rfl⟩⟩
  | case2 c d cs _ first => exact ⟨[c],rfl,fun allowed => .inr ⟨[],c,Nat.zero_le _,one first allowed,rfl⟩⟩
  | case3 c d cs => exact ⟨[],rfl,fun _ => .inl rfl⟩
  | case4 c first => exact ⟨[c],rfl,fun allowed => .inr ⟨[],c,Nat.zero_le _,one first allowed,rfl⟩⟩
  | case5 c => exact ⟨[],rfl,fun _ => .inl rfl⟩
  | case6 => exact ⟨[],rfl,fun _ => .inl rfl⟩

theorem read_align_append {align rest : List Char} (alignment : Alignment align) (none_left : ∀ c ∈ rest, is_align c = false) :
    (read_align (align ++ rest)).2.2 = rest ∧ (read_align (align ++ rest)).2.1 ≠ some '=' := by
  rcases alignment with rfl | ⟨fill,c,short,allowed,rfl⟩
  · match rest with
    | [] => exact ⟨rfl,nofun⟩
    | [d] => simp [read_align,none_left d List.mem_cons_self]
    | d :: e :: rest =>
      simp [read_align,none_left d List.mem_cons_self,none_left e (List.mem_cons_of_mem _ List.mem_cons_self)]
  · have aligned : is_align c = true ∧ c ≠ '=' := by
      simp only [List.mem_cons,List.not_mem_nil,or_false] at allowed
      rcases allowed with rfl | rfl | rfl <;> decide
    match fill with
    | [] =>
      match rest with
      | [] => simp [read_align,aligned]
      | d :: rest => simp [read_align,aligned,none_left d List.mem_cons_self]
    | [f] => simp [read_align,aligned]

theorem read_digits_spec {cs rest : List Char} {n : Option Nat} (read : read_digits cs = some (n,rest)) :
    cs = cs.takeWhile isDecimal ++ rest ∧ Number (cs.takeWhile isDecimal) ∧ get_integer (cs.takeWhile isDecimal) = .ok n := by
  unfold read_digits at read
  cases number : get_integer (cs.takeWhile isDecimal) with
  | error e =>
    rw [number] at read
    cases read
  | ok m =>
    rw [number] at read
    cases read
    exact ⟨List.takeWhile_append_dropWhile.symm,⟨fun c member => List.mem_takeWhile_imp member,_,number⟩,rfl⟩

theorem read_digits_append {digits rest : List Char} (number : Number digits) (ends : rest.takeWhile isDecimal = []) :
    ∃ n, read_digits (digits ++ rest) = some (n,rest) ∧ get_integer digits = .ok n := by
  obtain ⟨all,n,value⟩ := number
  have whole := List.takeWhile_append_dropWhile (p := isDecimal) (l := rest)
  rw [ends,List.nil_append] at whole
  refine ⟨n,?_,value⟩
  rw [read_digits,List.takeWhile_append_of_pos all,List.dropWhile_append_of_pos all,ends,List.append_nil,value,whole]

theorem number_some {digits : List Char} {n : Option Nat} (all : ∀ c ∈ digits, isDecimal c = true) (some_digit : digits ≠ [])
    (read : get_integer digits = .ok n) : n.isSome = true := by
  rw [get_integer,if_neg some_digit] at read
  have from_value : ∀ (value : Nat), number_from value digits = .ok n → n.isSome = true := by
    clear read some_digit
    induction digits with
    | nil =>
      intro value read
      cases read
      rfl
    | cons c cs ih =>
      intro value read
      rw [number_from,if_pos (all c List.mem_cons_self)] at read
      split at read
      · exact ih (fun d member => all d (List.mem_cons_of_mem c member)) _ read
      · cases read
  exact from_value 0 read

theorem read_precision_spec {cs rest : List Char} {n : Option Nat} (read : read_precision cs = some (n,rest)) :
    ∃ precision, cs = precision ++ rest ∧ Precision precision := by
  unfold read_precision at read
  split at read
  · next cs =>
    obtain ⟨taken,given⟩ := Option.filter_eq_some_iff.mp read
    obtain ⟨split_at,number,value⟩ := read_digits_spec taken
    refine ⟨'.' :: cs.takeWhile isDecimal,congrArg _ split_at,.inr ⟨_,rfl,?_,number⟩⟩
    intro empty
    rw [empty] at value
    cases value
    cases given
  · cases read
    exact ⟨[],rfl,.inl rfl⟩

theorem read_precision_append {precision type : List Char} (valid : Precision precision) (ends : type ∈ [[],['s']]) :
    ∃ n, read_precision (precision ++ type) = some (n,type) := by
  have stop : type.takeWhile isDecimal = [] := by
    simp only [List.mem_cons,List.not_mem_nil,or_false] at ends
    rcases ends with rfl | rfl <;> decide
  rcases valid with rfl | ⟨digits,rfl,filled,number⟩
  · refine ⟨none,?_⟩
    simp only [List.mem_cons,List.not_mem_nil,or_false] at ends
    rcases ends with rfl | rfl <;> rfl
  · obtain ⟨n,read,value⟩ := read_digits_append number stop
    exact ⟨n,Option.filter_eq_some_iff.mpr ⟨read,number_some number.1 filled value⟩⟩

theorem string_spec_iff (spec : List Char) : (string_spec spec).isSome = true ↔ StringSpec spec := by
  constructor
  · intro given
    obtain ⟨s,read⟩ := Option.isSome_iff_exists.mp given
    obtain ⟨front,split_at,allowed⟩ := read_align_spec spec
    unfold string_spec at read
    dsimp only at read
    split at read
    · cases read
    · next other =>
      obtain ⟨⟨width,cs⟩,digits,read⟩ := Option.bind_eq_some_iff.mp read
      obtain ⟨⟨precision,type⟩,dotted,read⟩ := Option.bind_eq_some_iff.mp read
      obtain ⟨width_at,number,-⟩ := read_digits_spec digits
      obtain ⟨point,point_at,valid⟩ := read_precision_spec dotted
      refine ⟨front,_,point,type,?_,allowed other,number,valid,?_⟩
      · rw [← point_at,← width_at]
        exact split_at
      · dsimp only at read
        split at read
        · next ends => simpa using ends
        · cases read
  · rintro ⟨align,width,precision,type,rfl,alignment,number,valid,ends⟩
    have no_align : ∀ c ∈ width ++ (precision ++ type), is_align c = false := by
      intro c member
      simp only [List.mem_append] at member
      rcases member with digit | point | last
      · exact decimal_not_align (number.1 c digit)
      · rcases valid with rfl | ⟨digits,rfl,-,others⟩
        · cases point
        · rcases List.mem_cons.mp point with rfl | digit
          · rfl
          · exact decimal_not_align (others.1 c digit)
      · simp only [List.mem_cons,List.not_mem_nil,or_false] at ends
        rcases ends with rfl | rfl
        · cases last
        · cases List.mem_singleton.mp last
          rfl
    have stop : (precision ++ type).takeWhile isDecimal = [] := by
      simp only [List.mem_cons,List.not_mem_nil,or_false] at ends
      rcases valid with rfl | ⟨digits,rfl,-,-⟩
      · rcases ends with rfl | rfl <;> decide
      · exact List.takeWhile_cons_of_neg (by decide)
    obtain ⟨behind,allowed⟩ := read_align_append alignment no_align
    obtain ⟨n,digits,-⟩ := read_digits_append number stop
    obtain ⟨m,dotted⟩ := read_precision_append valid ends
    unfold string_spec
    dsimp only
    rw [if_neg allowed,behind,digits]
    simp only [Option.bind_eq_bind,Option.bind_some,dotted]
    rw [if_pos (by simpa using ends)]
    rfl

/-- The text cut to the precision and filled up to the width. -/
def lay_out (text : List Char) (spec : Spec) : List Char :=
  let shown := match spec.precision with
    | some n => text.take n
    | none => text
  let blanks := spec.width.getD 0 - shown.length
  let before := if spec.align = '>' then blanks else if spec.align = '^' then blanks / 2 else 0
  List.replicate before spec.fill ++ shown ++ List.replicate (blanks - before) spec.fill

/-- `format(value, spec)`. -/
def format_value (value : Value ω) (spec : List Char) : Except Raised (List Char) :=
  match value with
  | .object o => objects.format o spec
  | .str text =>
    match string_spec spec with
    | some s => .ok (lay_out text s)
    | none => .error .ValueError

/-- A spec is expanded where it holds a brace. -/
def expand_spec (expand : List Char → Except Raised (List Char)) (spec : List Char) : Except Raised (List Char) :=
  if '\x7b' ∈ spec then expand spec else .ok spec

/-- What a field is replaced by. -/
def evaluate (kwargs : List Char → Option (List Char)) (expand : List Char → Except Raised (List Char)) (f : Field) :
    Except Raised (List Char) := do
  let value ← resolve objects kwargs f.name
  let shown ← do_conversion objects value f.conversion
  let spec ← expand_spec expand f.spec
  format_value objects shown spec

def write_piece (write : Field → Except Raised (List Char)) : Piece → Except Raised (List Char)
  | .literal c => .ok [c]
  | .field f => write f

/-- A text within so many levels of format specs. -/
def build_string (kwargs : List Char → Option (List Char)) : Nat → List Char → Except Raised (List Char)
  | 0, _ => .error .ValueError
  | depth + 1, text => do
    let parts ← (parse text).1.mapM (write_piece (evaluate objects kwargs (build_string kwargs depth)))
    match (parse text).2 with
    | some _ => .error .ValueError
    | none => return parts.flatten

/-- `text.format(**kwargs)`. -/
def format (kwargs : List Char → Option (List Char)) (text : List Char) : Except Raised (List Char) :=
  build_string objects kwargs 2 text

/-- The value can be written with the spec. -/
def Accepts (value : Value ω) (spec : List Char) : Prop :=
  match value with
  | .str _ => (string_spec spec).isSome = true
  | .object o => ∃ text, objects.format o spec = .ok text

section
variable {objects : Objects ω} {kwargs : List Char → Option (List Char)}

theorem format_value_ok {value : Value ω} {spec : List Char} :
    (∃ text, format_value objects value spec = .ok text) ↔ Accepts objects value spec := by
  cases value with
  | object o => exact Iff.rfl
  | str text =>
    unfold format_value Accepts
    dsimp only
    cases string_spec spec with
    | none =>
      constructor
      · rintro ⟨_,same⟩
        cases same
      · intro same
        cases same
    | some s => exact ⟨fun _ => rfl,fun _ => ⟨_,rfl⟩⟩

theorem bind_ok {ε α β : Type} {outcome : Except ε α} {next : α → Except ε β} {b : β} :
    (outcome >>= next) = .ok b ↔ ∃ a, outcome = .ok a ∧ next a = .ok b := by
  cases outcome with
  | error e =>
    constructor
    · intro same
      cases same
    · rintro ⟨_,same,-⟩
      cases same
  | ok a =>
    constructor
    · exact fun same => ⟨a,rfl,same⟩
    · rintro ⟨_,⟨⟩,same⟩
      exact same

theorem evaluate_ok {expand : List Char → Except Raised (List Char)} {f : Field} :
    (∃ text, evaluate objects kwargs expand f = .ok text) ↔
      ∃ value shown spec, resolve objects kwargs f.name = .ok value ∧ do_conversion objects value f.conversion = .ok shown ∧
        expand_spec expand f.spec = .ok spec ∧ Accepts objects shown spec := by
  constructor
  · rintro ⟨text,done⟩
    obtain ⟨value,reached,done⟩ := bind_ok.mp done
    obtain ⟨shown,converted,done⟩ := bind_ok.mp done
    obtain ⟨spec,expanded,done⟩ := bind_ok.mp done
    exact ⟨value,shown,spec,reached,converted,expanded,format_value_ok.mp ⟨text,done⟩⟩
  · rintro ⟨value,shown,spec,reached,converted,expanded,accepts⟩
    obtain ⟨text,done⟩ := format_value_ok.mpr accepts
    exact ⟨text,bind_ok.mpr ⟨value,reached,bind_ok.mpr ⟨shown,converted,bind_ok.mpr ⟨spec,expanded,done⟩⟩⟩⟩

theorem mapM_ok {α β : Type} {f : α → Except Raised β} {items : List α} :
    (∃ parts, items.mapM f = .ok parts) ↔ ∀ item ∈ items, ∃ part, f item = .ok part := by
  induction items with
  | nil => exact ⟨fun _ item absent => absurd absent List.not_mem_nil,fun _ => ⟨[],rfl⟩⟩
  | cons item items ih =>
    rw [List.forall_mem_cons,← ih]
    simp only [List.mapM_cons]
    constructor
    · rintro ⟨parts,done⟩
      obtain ⟨part,here,done⟩ := bind_ok.mp done
      obtain ⟨others,later,-⟩ := bind_ok.mp done
      exact ⟨⟨part,here⟩,others,later⟩
    · rintro ⟨⟨part,here⟩,others,later⟩
      exact ⟨part :: others,bind_ok.mpr ⟨part,here,bind_ok.mpr ⟨others,later,rfl⟩⟩⟩

theorem mem_fields {f : Field} {pieces : List Piece} : f ∈ fields pieces ↔ .field f ∈ pieces := by
  rw [fields,List.mem_filterMap]
  constructor
  · rintro ⟨piece,member,same⟩
    cases piece with
    | literal c => cases same
    | field g =>
      cases same
      exact member
  · exact fun member => ⟨_,member,rfl⟩

/-- The fields of what is read behind the first characters. -/
theorem mem_fields_cons {f : Field} {piece : Piece} {pieces : List Piece} :
    f ∈ fields (piece :: pieces) ↔ piece = .field f ∨ f ∈ fields pieces := by
  rw [mem_fields,mem_fields,List.mem_cons]
  exact or_congr_left ⟨Eq.symm,Eq.symm⟩

theorem spec_plain {text : List Char} {f : Field} (member : f ∈ fields (parse text).1) (plain : '\x7b' ∉ f.spec) :
    '\x7d' ∉ f.spec := by
  have each : ∀ {turns : Nat} {text : List Char}, f ∈ fields (parseFrom turns text).1 → '\x7d' ∉ f.spec := by
    intro turns
    induction turns with
    | zero =>
      intro text member
      cases text <;> cases member
    | succ turns ih =>
      intro text member
      cases text with
      | nil => cases member
      | cons c cs =>
        rw [parseFrom.eq_def] at member
        dsimp only at member
        by_cases opens : c = '\x7b'
        · rw [if_pos opens] at member
          cases cs with
          | nil => cases member
          | cons d ds =>
            dsimp only at member
            by_cases twice : d = '\x7b'
            · rw [if_pos twice] at member
              exact ih ((mem_fields_cons.mp member).resolve_left Piece.noConfusion)
            · rw [if_neg twice] at member
              cases read : read_field (d :: ds) with
              | error message =>
                rw [read] at member
                cases member
              | ok taken =>
                obtain ⟨g,rest⟩ := taken
                rw [read] at member
                rcases mem_fields_cons.mp member with same | later
                · cases same
                  exact (read_field_facts read).2 plain
                · exact ih later
        · rw [if_neg opens] at member
          by_cases closes : c = '\x7d'
          · rw [if_pos closes] at member
            cases cs with
            | nil => cases member
            | cons d ds =>
              dsimp only at member
              by_cases twice : d = '\x7d'
              · rw [if_pos twice] at member
                exact ih ((mem_fields_cons.mp member).resolve_left Piece.noConfusion)
              · rw [if_neg twice] at member
                cases member
          · rw [if_neg closes] at member
            exact ih ((mem_fields_cons.mp member).resolve_left Piece.noConfusion)
  exact each member

/-- A text without braces is read as it stands. -/
theorem parse_plain {text : List Char} (opens : '\x7b' ∉ text) (closes : '\x7d' ∉ text) :
    parse text = (text.map .literal,none) := by
  unfold parse
  induction text with
  | nil => rfl
  | cons c cs ih =>
    obtain ⟨other,opens⟩ := List.ne_and_not_mem_of_not_mem_cons opens
    obtain ⟨another,closes⟩ := List.ne_and_not_mem_of_not_mem_cons closes
    rw [List.length_cons,parseFrom.eq_def]
    dsimp only
    rw [if_neg (Ne.symm other),if_neg (Ne.symm another),ih opens closes]
    rfl

theorem fields_literal (text : List Char) : fields (text.map .literal) = [] := by
  induction text with
  | nil => rfl
  | cons c cs ih => exact ih

/-- A text is formatted exactly where it is read to its end and every field can be evaluated. -/
theorem build_string_ok {depth : Nat} {text : List Char} :
    (∃ written, build_string objects kwargs (depth + 1) text = .ok written) ↔
      (parse text).2 = none ∧
        ∀ f ∈ fields (parse text).1, ∃ part, evaluate objects kwargs (build_string objects kwargs depth) f = .ok part := by
  have each : (∃ parts, (parse text).1.mapM (write_piece (evaluate objects kwargs (build_string objects kwargs depth))) = .ok parts) ↔
      ∀ f ∈ fields (parse text).1, ∃ part, evaluate objects kwargs (build_string objects kwargs depth) f = .ok part := by
    rw [mapM_ok]
    constructor
    · exact fun all f member => all (.field f) (mem_fields.mp member)
    · intro all piece member
      cases piece with
      | literal c => exact ⟨[c],rfl⟩
      | field f => exact all f (mem_fields.mpr member)
  rw [← each]
  constructor
  · rintro ⟨written,done⟩
    obtain ⟨parts,mapped,done⟩ := bind_ok.mp done
    cases mistake : (parse text).2 with
    | some message =>
      rw [mistake] at done
      cases done
    | none => exact ⟨rfl,parts,mapped⟩
  · rintro ⟨read,parts,mapped⟩
    refine ⟨parts.flatten,bind_ok.mpr ⟨parts,mapped,?_⟩⟩
    rw [read]
    rfl

end

end

end Automation.StrFormat
