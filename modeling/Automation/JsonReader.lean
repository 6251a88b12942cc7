import Automation.Binary64
import Automation.Json
import Automation.JsonText

/-!
What `json.loads` makes of a text, and which exception it raises: it reads an object or
a list within as many others as the recursion limit allows, and an integer of at
most 4300 digits. A float keeps its spelling, unless it is a zero. `dumps` writes a
value with indentation.
-/
namespace Automation.JsonReader
open Automation.JsonText (code skip)

/-- The two last ones are no `JSONDecodeError`. -/
inductive Failure where
  | JSONDecodeError
  | ValueError
  | RecursionError
  deriving DecidableEq

abbrev Read (α : Type) := Except Failure (α × List Char)

/-- The character of a code point; a surrogate alone is replaced. -/
def charOf (n : Nat) : Char := if n.isValidChar then .ofNat n else Char.ofNat 0xfffd

/-- What follows `\u`. Two surrogates are one character. -/
def unicode (text : List Char) : Option (Char × List Char) :=
  (code text).bind fun high =>
    let rest := text.drop 4
    if 0xd800 ≤ high ∧ high ≤ 0xdbff ∧ rest.take 2 = ['\\','u'] then
      (code (rest.drop 2)).map fun low =>
        if 0xdc00 ≤ low ∧ low ≤ 0xdfff then (charOf (0x10000 + (high - 0xd800) * 1024 + (low - 0xdc00)),rest.drop 6)
        else (charOf high,rest)
    else some (charOf high,rest)

/-- The character after a backslash. -/
def unescape : List Char → Option (Char × List Char)
  | 'u' :: rest => unicode rest
  | c :: rest => (JsonText.unescape (c :: rest))
  | [] => none

/-- The characters up to the quote, and what is behind it; each pass takes one. -/
def scan : Nat → List Char → Read (List Char)
  | 0, _ => .error .JSONDecodeError
  | _ + 1, [] => .error .JSONDecodeError
  | n + 1, c :: rest =>
    if c = '"' then .ok ([],rest)
    else if c = '\\' then
      match unescape rest with
      | none => .error .JSONDecodeError
      | some (first,behind) => (scan n behind).map fun found => (first :: found.1,found.2)
    else if c.toNat < 32 then .error .JSONDecodeError
    else (scan n rest).map fun found => (c :: found.1,found.2)

/-- A string, behind its first quote. -/
def string (text : List Char) : Read String :=
  (scan (text.length + 1) text).map fun found => (.ofList found.1,found.2)

/-- A float by its spelling; a zero as `repr` writes it. -/
def spelled (spelling : String) : Json :=
  if Binary64.ofText spelling = some (.finite 0) then .float (if PyText.hasPrefix spelling "-" then "-0.0" else "0.0")
  else .float spelling

/-- The digits after a mark; without a digit the mark is not part of the number. -/
def fraction : List Char → List Char
  | '.' :: rest =>
    let digits := rest.takeWhile Char.isDigit
    if digits.isEmpty then [] else '.' :: digits
  | _ => []

def exponent : List Char → List Char
  | c :: rest =>
    if c = 'e' ∨ c = 'E' then
      let sign := (rest.take 1).filter fun d => d == '-' || d == '+'
      let digits := (rest.drop sign.length).takeWhile Char.isDigit
      if digits.isEmpty then [] else c :: sign ++ digits
    else []
  | [] => []

/-- A number without its sign. -/
def magnitude (negative : Bool) (text : List Char) : Read Json :=
  let whole := if text.head? = some '0' then ['0'] else text.takeWhile Char.isDigit
  if whole.isEmpty then .error .JSONDecodeError
  else
    let rest := text.drop whole.length
    let frac := fraction rest
    let power := exponent (rest.drop frac.length)
    let behind := rest.drop (frac.length + power.length)
    if frac.isEmpty && power.isEmpty then
      if 4300 < whole.length then .error .ValueError
      else .ok (.int (if negative then -(PyText.natOfDigits whole : Int) else PyText.natOfDigits whole),behind)
    else .ok (spelled (.ofList ((if negative then ['-'] else []) ++ whole ++ frac ++ power)),behind)

/-- The words that stand for a value. -/
def words : List (String × Json) :=
  [("null",.null),("true",.bool true),("false",.bool false),("NaN",.float "nan"),("Infinity",.float "inf"),
    ("-Infinity",.float "-inf")]

/-- A word or a number. -/
def scalar (text : List Char) : Read Json :=
  match words.find? fun word => PyText.startsWith word.1.toList text with
  | some (word,value) => .ok (value,text.drop word.length)
  | none =>
    match text with
    | '-' :: rest => magnitude true rest
    | text => magnitude false text

/-- `d[key] = value`. -/
def put (fields : List (String × Json)) (key : String) (value : Json) : List (String × Json) :=
  if (fields.lookup key).isSome then fields.map fun field => if field.1 = key then (key,value) else field
  else fields ++ [(key,value)]

theorem mem_put {fields : List (String × Json)} {key : String} {value : Json} {field : String × Json}
    (member : field ∈ put fields key value) (here : field.1 = key) : field = (key,value) := by
  unfold put at member
  split at member
  · obtain ⟨old,-,rfl⟩ := List.mem_map.mp member
    by_cases same : old.1 = key
    · rw [if_pos same]
    · rw [if_neg same] at here
      exact absurd here same
  · next absent =>
    rcases List.mem_append.mp member with before | last
    · refine absurd ?_ absent
      exact List.lookup_isSome_iff.mpr ⟨field,before,beq_iff_eq.mpr here.symm⟩
    · exact List.mem_singleton.mp last

theorem lookup_put (fields : List (String × Json)) (key : String) (value : Json) :
    ((put fields key value).lookup key).isSome = true := by
  refine List.lookup_isSome_iff.mpr ⟨(key,value),?_,beq_self_eq_true key⟩
  unfold put
  split
  · next present =>
    obtain ⟨old,member,same⟩ := List.lookup_isSome_iff.mp present
    exact List.mem_map.mpr ⟨old,member,by rw [if_pos (beq_iff_eq.mp same).symm]⟩
  · exact List.mem_append.mpr (.inr List.mem_cons_self)

/-- An assignment made twice is made once. -/
theorem put_put (fields : List (String × Json)) (key : String) (value : Json) :
    put (put fields key value) key value = put fields key value := by
  conv_lhs => rw [put,if_pos (lookup_put fields key value)]
  conv_rhs => rw [← List.map_id (put fields key value)]
  refine List.map_congr_left fun field member => ?_
  by_cases here : field.1 = key
  · rw [if_pos here,mem_put member here]
    rfl
  · rw [if_neg here]
    rfl

/-- The items of a list that is not empty; each pass takes one. -/
def items (value : List Char → Read Json) : Nat → List Json → List Char → Except Failure (List Json × List Char)
  | 0, _, _ => .error .JSONDecodeError
  | n + 1, done, text => do
    let (item,behind) ← value text
    match skip behind with
    | ']' :: rest => return (done ++ [item],rest)
    | ',' :: rest => items value n (done ++ [item]) (skip rest)
    | _ => .error .JSONDecodeError

/-- The fields of an object that is not empty; each pass takes one. -/
def fields (value : List Char → Read Json) : Nat → List (String × Json) → List Char →
    Except Failure (List (String × Json) × List Char)
  | 0, _, _ => .error .JSONDecodeError
  | n + 1, done, '"' :: text => do
    let (key,behind) ← string text
    match skip behind with
    | ':' :: rest =>
      let (item,behind) ← value (skip rest)
      match skip behind with
      | '}' :: rest => return (put done key item,rest)
      | ',' :: rest => fields value n (put done key item) (skip rest)
      | _ => .error .JSONDecodeError
    | _ => .error .JSONDecodeError
  | _, _, _ => .error .JSONDecodeError

/-- A value within so many lists and objects at most. -/
def value : Nat → List Char → Read Json
  | _, '"' :: text => (string text).map fun found => (.str found.1,found.2)
  | 0, '[' :: _ => .error .RecursionError
  | 0, '{' :: _ => .error .RecursionError
  | depth + 1, '[' :: text =>
    match skip text with
    | ']' :: rest => .ok (.arr [],rest)
    | behind => (items (value depth) text.length [] behind).map fun found => (.arr found.1,found.2)
  | depth + 1, '{' :: text =>
    match skip text with
    | '}' :: rest => .ok (.obj [],rest)
    | behind => (fields (value depth) text.length [] behind).map fun found => (.obj found.1,found.2)
  | _, text => scalar text

/-- `json.loads`. -/
def loads (limit : Nat) (text : String) : Except Failure Json :=
  if text.toList.head? = some '\uFEFF' then .error .JSONDecodeError
  else
    match value limit (skip text.toList) with
    | .error failure => .error failure
    | .ok (found,behind) => if (skip behind).isEmpty then .ok found else .error .JSONDecodeError

def newline (level : Nat) : List Char := '\n' :: List.replicate (2 * level) ' '

/-- A float, which `repr` writes otherwise where it is not finite. -/
def floatText (text : String) : String :=
  match text with
  | "nan" => "NaN"
  | "inf" => "Infinity"
  | "-inf" => "-Infinity"
  | text => text

mutual
/-- A value whose items stand one level deeper. -/
def indented (level : Nat) : Json → List Char
  | .null => "null".toList
  | .bool b => (if b then "true" else "false").toList
  | .int n => (toString n).toList
  | .float text => (floatText text).toList
  | .str text => JsonText.dumpsString text
  | .arr [] => ['[',']']
  | .arr (item :: rest) =>
    '[' :: newline (level + 1) ++ indented (level + 1) item ++ indentedItems (level + 1) rest ++ newline level ++ [']']
  | .obj [] => ['{','}']
  | .obj ((key,item) :: rest) =>
    '{' :: newline (level + 1) ++ JsonText.dumpsString key ++ ':' :: ' ' :: indented (level + 1) item ++
      indentedFields (level + 1) rest ++ newline level ++ ['}']

/-- The items after the first. -/
def indentedItems (level : Nat) : List Json → List Char
  | [] => []
  | item :: rest => ',' :: newline level ++ indented level item ++ indentedItems level rest

def indentedFields (level : Nat) : List (String × Json) → List Char
  | [] => []
  | (key,item) :: rest =>
    ',' :: newline level ++ JsonText.dumpsString key ++ ':' :: ' ' :: indented level item ++ indentedFields level rest
end

/-- `json.dumps(value,ensure_ascii=False,indent=2)`. -/
def dumps (value : Json) : String := .ofList (indented 0 value)

inductive FloatError where
  | TypeError
  | ValueError
  | OverflowError

/-- `float(value)`. -/
def float_of : Json → Except FloatError Binary64
  | .bool b => .ok (.finite (if b then 1 else 0))
  | .int n =>
    match Binary64.ofInt n with
    | some x => .ok x
    | none => .error .OverflowError
  | .float text => .ok ((Binary64.ofText text).getD .nan)
  | .str text =>
    match Binary64.ofText text with
    | some x => .ok x
    | none => .error .ValueError
  | _ => .error .TypeError

end Automation.JsonReader
