/-!
The operator `%` of Python's strings: a format is read as text and conversions (`segments`), each
conversion is given its arguments (`actions`), and these are carried out up to the first exception
(`perform`). What a conversion makes of a value that is no string is up to the value. The arguments
may be replaced by others of their kind before or after they are given out (`actions_map`).
-/
namespace Automation.PercentFormat

inductive Raised where
  | TypeError
  | ValueError
  | KeyError
  | other (name : String)
  deriving DecidableEq

/-- A width or a precision. -/
inductive Count where
  | absent
  | number (n : Nat)
  | too_big
  | star
  deriving DecidableEq

/-- What stands behind a `%`. A key that is not closed is `some none`, and there is no letter where
    the format ends. -/
structure Conversion where
  key : Option (Option (List Char))
  flags : List Char
  width : Count
  precision : Count
  letter : Option Char
  deriving DecidableEq

inductive Segment where
  | literal (c : Char)
  | conversion (c : Conversion)
  deriving DecidableEq

/-- The key up to its parenthesis, and what follows. -/
def read_key : Nat → List Char → Option (List Char × List Char)
  | _, [] => none
  | depth, ')' :: cs =>
    match depth with
    | 0 => some ([],cs)
    | depth + 1 => (read_key depth cs).map fun key => (')' :: key.1,key.2)
  | depth, '(' :: cs => (read_key (depth + 1) cs).map fun key => ('(' :: key.1,key.2)
  | depth, c :: cs => (read_key depth cs).map fun key => (c :: key.1,key.2)

def number_of (digits : List Char) : Nat := digits.foldl (fun value c => value * 10 + (c.toNat - 48)) 0

def read_count (limit : Nat) : List Char → Count × List Char
  | '*' :: cs => (.star,cs)
  | cs =>
    let digits := cs.takeWhile Char.isDigit
    if digits = [] then (.absent,cs)
    else (if number_of digits ≤ limit then .number (number_of digits) else .too_big,cs.dropWhile Char.isDigit)

/-- `.` alone is the precision 0. -/
def read_precision : List Char → Count × List Char
  | '.' :: cs =>
    match read_count 2147483647 cs with
    | (.absent,rest) => (.number 0,rest)
    | read => read
  | cs => (.absent,cs)

def skip_length : List Char → List Char
  | c :: cs => if c = 'h' ∨ c = 'l' ∨ c = 'L' then cs else c :: cs
  | [] => []

def is_flag (c : Char) : Bool := c == '-' || c == '+' || c == ' ' || c == '#' || c == '0'

/-- What stands behind the key of a conversion. -/
def read_rest (key : Option (Option (List Char))) (cs : List Char) : Conversion × List Char :=
  let width := read_count 9223372036854775807 (cs.dropWhile is_flag)
  let precision := read_precision width.2
  match skip_length precision.2 with
  | letter :: rest => (⟨key,cs.takeWhile is_flag,width.1,precision.1,some letter⟩,rest)
  | [] => (⟨key,cs.takeWhile is_flag,width.1,precision.1,none⟩,[])

def read_conversion : List Char → Conversion × List Char
  | '(' :: cs =>
    match read_key 0 cs with
    | some (key,rest) => read_rest (some (some key)) rest
    | none => (⟨some none,[],.absent,.absent,none⟩,[])
  | cs => read_rest none cs

/-- Every conversion takes at least its `%`, so that as many turns as characters are enough. -/
def segmentsFrom : Nat → List Char → List Segment
  | _, [] => []
  | 0, _ => []
  | turns + 1, '%' :: cs => .conversion (read_conversion cs).1 :: segmentsFrom turns (read_conversion cs).2
  | turns + 1, c :: cs => .literal c :: segmentsFrom turns cs

def segments (format : List Char) : List Segment := segmentsFrom format.length format

theorem read_key_length {depth : Nat} {cs key rest : List Char} (read : read_key depth cs = some (key,rest)) :
    rest.length < cs.length := by
  fun_induction read_key depth cs generalizing key rest with
  | case1 => cases read
  | case2 cs =>
    cases read
    exact Nat.lt_succ_self _
  | case3 _ cs ih | case4 _ cs ih | case5 _ _ cs _ _ ih =>
    obtain ⟨⟨name,left⟩,later,same⟩ := Option.map_eq_some_iff.mp read
    cases same
    exact Nat.lt_succ_of_lt (ih later)

theorem length_dropWhile_le (p : Char → Bool) (cs : List Char) : (cs.dropWhile p).length ≤ cs.length :=
  (List.dropWhile_suffix p).length_le

theorem read_count_length (limit : Nat) (cs : List Char) : (read_count limit cs).2.length ≤ cs.length := by
  unfold read_count
  split
  · exact Nat.le_succ _
  · dsimp only
    split
    · exact Nat.le_refl _
    · exact length_dropWhile_le _ _

theorem read_precision_length (cs : List Char) : (read_precision cs).2.length ≤ cs.length := by
  unfold read_precision
  split
  · rename_i cs
    have shorter := read_count_length 2147483647 cs
    split
    · rename_i rest same
      rw [same] at shorter
      exact Nat.le_succ_of_le shorter
    · exact Nat.le_succ_of_le shorter
  · exact Nat.le_refl _

theorem skip_length_length (cs : List Char) : (skip_length cs).length ≤ cs.length := by
  cases cs with
  | nil => exact Nat.le_refl _
  | cons c cs =>
    rw [skip_length]
    split
    · exact Nat.le_succ _
    · exact Nat.le_refl _

theorem read_rest_length (key : Option (Option (List Char))) (cs : List Char) : (read_rest key cs).2.length ≤ cs.length := by
  have parts := skip_length_length (read_precision (read_count 9223372036854775807 (cs.dropWhile is_flag)).2).2
  have precision := read_precision_length (read_count 9223372036854775807 (cs.dropWhile is_flag)).2
  have width := read_count_length 9223372036854775807 (cs.dropWhile is_flag)
  have flags := length_dropWhile_le is_flag cs
  unfold read_rest
  dsimp only
  split
  · rename_i letter rest same
    rw [same,List.length_cons] at parts
    show rest.length ≤ cs.length
    omega
  · exact Nat.zero_le _

theorem read_conversion_length (cs : List Char) : (read_conversion cs).2.length ≤ cs.length := by
  unfold read_conversion
  split
  · rename_i cs
    split
    · rename_i key rest read
      have shorter := read_key_length read
      have later := read_rest_length (some (some key)) rest
      rw [List.length_cons]
      omega
    · exact Nat.zero_le _
  · exact read_rest_length none _

/-- More turns than characters change nothing. -/
theorem segmentsFrom_turns {turns : Nat} {format : List Char} (enough : format.length ≤ turns) :
    segmentsFrom turns format = segments format := by
  have agree : ∀ {n m : Nat} {format : List Char}, format.length ≤ n → format.length ≤ m →
      segmentsFrom n format = segmentsFrom m format := by
    intro n
    induction n with
    | zero =>
      intro m format none_left _
      rw [List.length_eq_zero_iff.mp (Nat.le_zero.mp none_left)]
      cases m <;> rfl
    | succ n ih =>
      intro m format left right
      cases format with
      | nil => cases m <;> rfl
      | cons c cs =>
        cases m with
        | zero => cases right
        | succ m =>
          have fits : cs.length ≤ n := Nat.le_of_succ_le_succ left
          have room : cs.length ≤ m := Nat.le_of_succ_le_succ right
          have shorter := read_conversion_length cs
          by_cases sign : c = '%'
          · subst sign
            rw [segmentsFrom,segmentsFrom,ih (Nat.le_trans shorter fits) (Nat.le_trans shorter room)]
          · rw [segmentsFrom,segmentsFrom,ih fits room]
            · exact sign
            · exact sign
  exact agree enough (Nat.le_refl _)

section
variable {ω : Type}

/-- An argument. A `str` of a subclass with its own `__str__`, and a dict of one with
    `__missing__`, is none. -/
inductive Value (ω : Type) where
  | str (text : String)
  | int (n : Int)
  | object (o : ω)

/-- A dict, or another mapping that has a text of its own. -/
structure Mapping (ω : Type) where
  items : List (Value ω × Value ω)
  other : Option ω

inductive Arguments (ω : Type) where
  | positional (values : List (Value ω))
  | mapping (m : Mapping ω)

/-- What a conversion may take: a mapping counts as one argument, too. -/
inductive Argument (ω : Type) where
  | value (v : Value ω)
  | whole (m : Mapping ω)

structure Spec where
  flags : List Char
  width : Option Int
  precision : Option Int
  letter : Char

inductive Action (ω : Type) where
  | text (c : Char)
  | convert (spec : Spec) (argument : Argument ω)

def Value.isText (name : List Char) : Value ω → Bool
  | .str text => text.toList == name
  | _ => false

def Mapping.get? (m : Mapping ω) (name : List Char) : Option (Value ω) :=
  (m.items.find? fun item => item.1.isText name).map Prod.snd

/-- The arguments that are left once the key is looked up. -/
def take_key (mapping : Option (Mapping ω)) (key : Option (Option (List Char))) (pending : List (Argument ω)) :
    Except Raised (List (Argument ω)) :=
  match key with
  | none => .ok pending
  | some key =>
    match mapping with
    | none => .error .TypeError
    | some m =>
      match key with
      | none => .error .ValueError
      | some name =>
        match m.get? name with
        | some v => .ok [.value v]
        | none => .error .KeyError

def take_count (limit : Int) (count : Count) (pending : List (Argument ω)) : Except Raised (Option Int × List (Argument ω)) :=
  match count with
  | .absent => .ok (none,pending)
  | .number n => .ok (some n,pending)
  | .too_big => .error .ValueError
  | .star =>
    match pending with
    | .value (.int n) :: rest => if -limit ≤ n + 1 ∧ n ≤ limit then .ok (some n,rest) else .error (.other "OverflowError")
    | _ => .error .TypeError

/-- What a conversion is to do, and the arguments that are left. -/
def prepare (mapping : Option (Mapping ω)) (c : Conversion) (pending : List (Argument ω)) :
    Except Raised (Action ω × List (Argument ω)) := do
  let pending ← take_key mapping c.key pending
  let width ← take_count 9223372036854775807 c.width pending
  let precision ← take_count 2147483647 c.precision width.2
  match c.letter with
  | none => .error .ValueError
  | some letter =>
    if letter = '%' then .ok (.text '%',precision.2)
    else
      match precision.2 with
      | argument :: rest => .ok (.convert ⟨c.flags,width.1,precision.1,letter⟩ argument,rest)
      | [] => .error .TypeError

/-- What there is to do, up to the exception that ends it. -/
def actions (mapping : Option (Mapping ω)) : List Segment → List (Argument ω) → List (Action ω) × Option Raised
  | [], pending => ([],if mapping.isNone && !pending.isEmpty then some .TypeError else none)
  | .literal c :: rest, pending => (.text c :: (actions mapping rest pending).1,(actions mapping rest pending).2)
  | .conversion c :: rest, pending =>
    match prepare mapping c pending with
    | .ok (action,left) => (action :: (actions mapping rest left).1,(actions mapping rest left).2)
    | .error e => ([],some e)

def Arguments.mapping? : Arguments ω → Option (Mapping ω)
  | .positional _ => none
  | .mapping m => some m

def Arguments.pending : Arguments ω → List (Argument ω)
  | .positional values => values.map .value
  | .mapping m => [.whole m]

def Arguments.actions (format : String) (args : Arguments ω) : List (Action ω) × Option Raised :=
  PercentFormat.actions args.mapping? (segments format.toList) args.pending

def Mapping.map (g : Value ω → Value ω) (m : Mapping ω) : Mapping ω := ⟨m.items.map fun item => (item.1,g item.2),m.other⟩

def Argument.map (g : Value ω → Value ω) : Argument ω → Argument ω
  | .value v => .value (g v)
  | .whole m => .whole (m.map g)

def Arguments.map (g : Value ω → Value ω) : Arguments ω → Arguments ω
  | .positional values => .positional (values.map g)
  | .mapping m => .mapping (m.map g)

def Action.map (g : Value ω → Value ω) : Action ω → Action ω
  | .text c => .text c
  | .convert spec argument => .convert spec (argument.map g)

section
variable {g : Value ω → Value ω} (ints : ∀ v n, g v = .int n ↔ v = .int n)

theorem get?_map (m : Mapping ω) (name : List Char) : (m.map g).get? name = (m.get? name).map g := by
  have same : ((fun item : Value ω × Value ω => item.1.isText name) ∘ fun item : Value ω × Value ω => (item.1,g item.2)) =
      fun item : Value ω × Value ω => item.1.isText name := rfl
  rw [Mapping.get?,Mapping.get?,Mapping.map,List.find?_map,same,Option.map_map,Option.map_map]
  rfl

theorem take_key_map (mapping : Option (Mapping ω)) (key : Option (Option (List Char))) (pending : List (Argument ω)) :
    take_key (mapping.map (Mapping.map g)) key (pending.map (Argument.map g)) =
      (take_key mapping key pending).map (List.map (Argument.map g)) := by
  cases key with
  | none => rfl
  | some key =>
    cases mapping with
    | none => rfl
    | some m =>
      cases key with
      | none => rfl
      | some name =>
        simp only [take_key,Option.map_some,get?_map]
        cases m.get? name <;> rfl

include ints in
theorem take_count_map (limit : Int) (count : Count) (pending : List (Argument ω)) :
    take_count limit count (pending.map (Argument.map g)) =
      (take_count limit count pending).map fun taken => (taken.1,taken.2.map (Argument.map g)) := by
  cases count with
  | absent | number | too_big => rfl
  | star =>
    cases pending with
    | nil => rfl
    | cons argument pending =>
      cases argument with
      | whole m => rfl
      | value v =>
        cases v with
        | int n =>
          have same : g (.int n) = .int n := (ints _ _).mpr rfl
          simp only [take_count,List.map_cons,Argument.map,same]
          split <;> rfl
        | str text =>
          cases new : g (.str text) with
          | int n => cases (ints _ _).mp new
          | str | object => simp only [take_count,List.map_cons,Argument.map,new,Except.map]
        | object o =>
          cases new : g (.object o) with
          | int n => cases (ints _ _).mp new
          | str | object => simp only [take_count,List.map_cons,Argument.map,new,Except.map]

include ints in
theorem prepare_map (mapping : Option (Mapping ω)) (c : Conversion) (pending : List (Argument ω)) :
    prepare (mapping.map (Mapping.map g)) c (pending.map (Argument.map g)) =
      (prepare mapping c pending).map fun taken => (taken.1.map g,taken.2.map (Argument.map g)) := by
  unfold prepare
  rw [take_key_map]
  cases take_key mapping c.key pending with
  | error e => rfl
  | ok pending =>
    simp only [Except.map,bind,Except.bind,take_count_map ints]
    cases take_count 9223372036854775807 c.width pending with
    | error e => rfl
    | ok width =>
      simp only [Except.map,take_count_map ints]
      cases take_count 2147483647 c.precision width.2 with
      | error e => rfl
      | ok precision =>
        cases c.letter with
        | none => rfl
        | some letter =>
          dsimp only
          split
          · rfl
          · cases precision.2 <;> rfl

include ints in
/-- The arguments are given out alike, whatever strings they are. -/
theorem actions_map (mapping : Option (Mapping ω)) (segments : List Segment) (pending : List (Argument ω)) :
    PercentFormat.actions (mapping.map (Mapping.map g)) segments (pending.map (Argument.map g)) =
      ((PercentFormat.actions mapping segments pending).1.map (Action.map g),(PercentFormat.actions mapping segments pending).2) := by
  induction segments generalizing pending with
  | nil =>
    simp only [PercentFormat.actions,Option.isNone_map,List.isEmpty_map]
    rfl
  | cons segment segments ih =>
    cases segment with
    | literal c =>
      simp only [PercentFormat.actions,ih,List.map_cons]
      rfl
    | conversion c =>
      rw [PercentFormat.actions,PercentFormat.actions,prepare_map ints]
      cases prepare mapping c pending with
      | error e => rfl
      | ok taken =>
        simp only [Except.map,ih]
        rfl

include ints in
theorem Arguments.actions_map (format : String) (args : Arguments ω) :
    (args.map g).actions format = ((args.actions format).1.map (Action.map g),(args.actions format).2) := by
  unfold Arguments.actions
  rw [← PercentFormat.actions_map ints]
  cases args with
  | positional values => simp [Arguments.map,Arguments.mapping?,Arguments.pending,Function.comp_def,Argument.map]
  | mapping m => rfl

end

/-- How values other than strings are written, and what strings look like when they are quoted. -/
structure Objects (ω : Type) where
  str : Value ω → Except Raised (List Char)
  repr : Value ω → Except Raised (List Char)
  ascii : Value ω → Except Raised (List Char)
  number : Spec → Value ω → Except Raised (List Char)

variable (objects : Objects ω)

/-- Parts with `, ` between them. -/
def commas (parts : List (List Char)) : List Char := (parts.intersperse [',',' ']).flatten

/-- `repr` of a tuple. -/
def repr_tuple (values : List (Value ω)) : Except Raised (List Char) := do
  let parts ← values.mapM objects.repr
  return '(' :: commas parts ++ if parts.length = 1 then [',',')'] else [')']

/-- `repr` of a dict. -/
def repr_dict (items : List (Value ω × Value ω)) : Except Raised (List Char) := do
  let parts ← items.mapM fun item => do
    let key ← objects.repr item.1
    let value ← objects.repr item.2
    return key ++ ':' :: ' ' :: value
  return '\x7b' :: commas parts ++ ['\x7d']

def str_mapping (m : Mapping ω) : Except Raised (List Char) :=
  match m.other with
  | some o => objects.str (.object o)
  | none => repr_dict objects m.items

def repr_mapping (m : Mapping ω) : Except Raised (List Char) :=
  match m.other with
  | some o => objects.repr (.object o)
  | none => repr_dict objects m.items

/-- `repr` of the arguments. -/
def Arguments.repr : Arguments ω → Except Raised (List Char)
  | .positional values => repr_tuple objects values
  | .mapping m => repr_mapping objects m

def to_str : Argument ω → Except Raised (List Char)
  | .value (.str text) => .ok text.toList
  | .value v => objects.str v
  | .whole m => str_mapping objects m

def to_repr : Argument ω → Except Raised (List Char)
  | .value v => objects.repr v
  | .whole m => repr_mapping objects m

def to_ascii : Argument ω → Except Raised (List Char)
  | .value v => objects.ascii v
  | .whole m => repr_mapping objects m

/-- Blanks up to the width; a negative one is from the left, like the flag `-`. -/
def pad (spec : Spec) (text : List Char) : List Char :=
  let width := spec.width.getD 0
  let blanks := List.replicate (width.natAbs - text.length) ' '
  if width < 0 ∨ '-' ∈ spec.flags then text ++ blanks else blanks ++ text

/-- As much of the text as the precision leaves. -/
def cut (spec : Spec) (text : List Char) : List Char :=
  match spec.precision with
  | some n => text.take n.toNat
  | none => text

def number_letters : List Char := "diouxXeEfFgG".toList

def convert_argument (spec : Spec) (argument : Argument ω) : Except Raised (List Char) :=
  let written := fun text => pad spec (cut spec text)
  if spec.letter = 's' then (to_str objects argument).map written
  else if spec.letter = 'r' then (to_repr objects argument).map written
  else if spec.letter = 'a' then (to_ascii objects argument).map written
  else if spec.letter ∈ number_letters then
    match argument with
    | .value (.str _) => .error .TypeError
    | .value v => objects.number spec v
    | .whole _ => .error .TypeError
  else if spec.letter = 'c' then
    match argument with
    | .value (.str text) => if text.toList.length = 1 then .ok (pad spec text.toList) else .error .TypeError
    | .value v => objects.number spec v
    | .whole _ => .error .TypeError
  else .error .ValueError

def Action.run : Action ω → Except Raised (List Char)
  | .text c => .ok [c]
  | .convert spec argument => convert_argument objects spec argument

def perform (todo : List (Action ω) × Option Raised) : Except Raised String := do
  let parts ← todo.1.mapM (Action.run objects)
  match todo.2 with
  | some e => .error e
  | none => return String.ofList parts.flatten

/-- `format % args`. -/
def percent (format : String) (args : Arguments ω) : Except Raised String := perform objects (args.actions format)

theorem run_all {f : Action ω → Action ω} {todo : List (Action ω)}
    (alike : ∀ action ∈ todo, (f action).run objects = action.run objects) :
    (todo.map f).mapM (Action.run objects) = todo.mapM (Action.run objects) := by
  induction todo with
  | nil => rfl
  | cons action todo ih =>
    obtain ⟨here,later⟩ := List.forall_mem_cons.mp alike
    rw [List.map_cons,List.mapM_cons,List.mapM_cons,here,ih later]

/-- Where every conversion writes the other argument as it writes the first, the text is the same. -/
theorem percent_map {g : Value ω → Value ω} (ints : ∀ v n, g v = .int n ↔ v = .int n) (format : String) (args : Arguments ω)
    (alike : ∀ action ∈ (args.actions format).1, (action.map g).run objects = action.run objects) :
    percent objects format (args.map g) = percent objects format args := by
  unfold percent perform
  rw [Arguments.actions_map ints]
  dsimp only
  rw [run_all objects alike]

end

end Automation.PercentFormat
