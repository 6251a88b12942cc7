import Automation.CodePoints
import Automation.JsonText

/-!
The values of Python's `json` module over texts of code points, and the compact text that
`json.dumps` writes of them with `ensure_ascii=False` and `separators=(",",":")`.
-/
namespace Automation.JsonDumps
open Automation.CodePoints

inductive Value where
  | null
  | bool (b : Bool)
  | int (n : Int)
  /-- A float is carried as the text that is written of it. -/
  | float (text : Text)
  | str (s : Text)
  | arr (items : List Value)
  | obj (fields : List (Text × Value))

/-- `sys.int_info.default_max_str_digits`. -/
def max_str_digits : Nat := 4300

/-- `int.__repr__`, `none` for the `ValueError` of a number with too many digits. -/
def int_text (n : Int) : Option Text :=
  if max_str_digits < (toString n.natAbs).length then none else some (ofString (toString n))

/-- What a code point becomes inside of quotes. -/
def escape (p : CodePoint) : Text := if isSurrogate p then [p] else (JsonText.escape (.ofNat p.val)).map point

def quoted (s : Text) : Text := point '"' :: s.flatMap escape ++ [point '"']

def joined (parts : List Text) : Text := [point ','].intercalate parts

mutual

/-- `json.dumps(value, ensure_ascii=False, separators=(",",":"))`, `none` for a `ValueError`. -/
def dumps : Value → Option Text
  | .null => some (ofString "null")
  | .bool true => some (ofString "true")
  | .bool false => some (ofString "false")
  | .int n => int_text n
  | .float text => some text
  | .str s => some (quoted s)
  | .arr items => (dumps_items items).map fun parts => point '[' :: joined parts ++ [point ']']
  | .obj fields => (dumps_fields fields).map fun parts => point '\x7b' :: joined parts ++ [point '\x7d']

def dumps_items : List Value → Option (List Text)
  | [] => some []
  | value :: items => (dumps value).bind fun text => (dumps_items items).map fun parts => text :: parts

def dumps_fields : List (Text × Value) → Option (List Text)
  | [] => some []
  | (key,value) :: fields =>
    (dumps value).bind fun text => (dumps_fields fields).map fun parts => (quoted key ++ point ':' :: text) :: parts

end

/-- `type(value).__name__`. -/
def type_name : Value → String
  | .null => "NoneType"
  | .bool _ => "bool"
  | .int _ => "int"
  | .float _ => "float"
  | .str _ => "str"
  | .arr _ => "list"
  | .obj _ => "dict"

/-- `text.encode("utf-8", errors="replace")`: a surrogate becomes a question mark. -/
def encode_replace (text : Text) : List UInt8 :=
  Sha256.utf8 (.ofList (text.map fun p => if isSurrogate p then '?' else .ofNat p.val))

/-- The JSON text of a value in UTF-8. A value that holds a surrogate has none. -/
def encoding (value : Value) : Option (List UInt8) := (dumps value).bind encode

end Automation.JsonDumps
