import Automation.Dict
import Automation.Sha256

/-!
The text of strings and objects as `json.dumps` writes it with `ensure_ascii=False`, and
as `json.loads` reads it. The writer and the reader of an object are built from those of
its values, so that objects nest. What is written is read again (`loads_dumps`).
-/
namespace Automation.JsonText
open Automation.Sha256 (hexDigit)

/-- What a character becomes inside of quotes. -/
def escape (c : Char) : List Char :=
  if c = '"' then ['\\','"']
  else if c = '\\' then ['\\','\\']
  else if c = '\n' then ['\\','n']
  else if c = '\r' then ['\\','r']
  else if c = '\t' then ['\\','t']
  else if c = '\x08' then ['\\','b']
  else if c = '\x0c' then ['\\','f']
  else if c.toNat < 32 then ['\\','u','0','0',hexDigit (c.toNat / 16),hexDigit (c.toNat % 16)]
  else [c]

def dumpsString (text : String) : List Char := '"' :: text.toList.flatMap escape ++ ['"']

def hexValue (c : Char) : Option Nat :=
  if '0' ≤ c ∧ c ≤ '9' then some (c.toNat - '0'.toNat)
  else if 'a' ≤ c ∧ c ≤ 'f' then some (c.toNat - 'a'.toNat + 10)
  else if 'A' ≤ c ∧ c ≤ 'F' then some (c.toNat - 'A'.toNat + 10)
  else none

/-- The number of four hexadecimal digits. -/
def code (text : List Char) : Option Nat :=
  if text.length < 4 then none
  else (text.take 4).foldlM (fun value c => (hexValue c).map fun digit => 16 * value + digit) 0

/-- The character of a code point. A surrogate is none. -/
def charOf (n : Nat) : Option Char := if n.isValidChar then some (.ofNat n) else none

/-- What follows `\u`. Two surrogates are one character. -/
def unicode (text : List Char) : Option (Char × List Char) :=
  (code text).bind fun high =>
    let rest := text.drop 4
    if 0xd800 ≤ high ∧ high ≤ 0xdbff ∧ rest.take 2 = ['\\','u'] then
      (code (rest.drop 2)).bind fun low =>
        if 0xdc00 ≤ low ∧ low ≤ 0xdfff then
          (charOf (0x10000 + (high - 0xd800) * 1024 + (low - 0xdc00))).map fun c => (c,rest.drop 6)
        else none
    else (charOf high).map fun c => (c,rest)

/-- The character after a backslash. -/
def unescape : List Char → Option (Char × List Char)
  | [] => none
  | c :: rest =>
    if c = 'u' then unicode rest
    else if c = '"' ∨ c = '\\' ∨ c = '/' then some (c,rest)
    else if c = 'n' then some ('\n',rest)
    else if c = 'r' then some ('\r',rest)
    else if c = 't' then some ('\t',rest)
    else if c = 'b' then some ('\x08',rest)
    else if c = 'f' then some ('\x0c',rest)
    else none

/-- The characters up to the quote, and what is behind it. -/
def scan : Nat → List Char → Option (List Char × List Char)
  | 0, _ => none
  | _ + 1, [] => none
  | n + 1, c :: rest =>
    if c = '"' then some ([],rest)
    else if c = '\\' then
      (unescape rest).bind fun first => (scan n first.2).map fun found => (first.1 :: found.1,found.2)
    else if c.toNat < 32 then none
    else (scan n rest).map fun found => (c :: found.1,found.2)

def loadsString : List Char → Option (String × List Char)
  | [] => none
  | c :: rest => if c = '"' then (scan (rest.length + 1) rest).map fun found => (.ofList found.1,found.2) else none

section
variable {ν : Type}

def isSpace (c : Char) : Bool := c = ' ' || c = '\t' || c = '\n' || c = '\r'

def skip (text : List Char) : List Char := text.dropWhile isSpace

def dumpsItem (value : ν → List Char) (item : String × ν) : List Char := dumpsString item.1 ++ ':' :: ' ' :: value item.2

/-- What follows the brace. -/
def dumpsItems (value : ν → List Char) : List (String × ν) → List Char
  | [] => ['}']
  | [item] => dumpsItem value item ++ ['}']
  | item :: next :: items => dumpsItem value item ++ ',' :: ' ' :: dumpsItems value (next :: items)

def dumpsDict (value : ν → List Char) (d : Dict String ν) : List Char := '{' :: dumpsItems value d.items

/-- The text behind the given character. -/
def expect (c : Char) (text : List Char) : Option (List Char) := if text.head? = some c then some text.tail else none

/-- The items up to the brace, assigned to those that are read. -/
def loadsItems (value : List Char → Option (ν × List Char)) : Nat → Dict String ν → List Char →
    Option (Dict String ν × List Char)
  | 0, _, _ => none
  | n + 1, items, text =>
    (loadsString text).bind fun key => (expect ':' (skip key.2)).bind fun behind => (value (skip behind)).bind fun found =>
      let items := items.set key.1 found.1
      let text := skip found.2
      if text.head? = some '}' then some (items,text.tail)
      else (expect ',' text).bind fun behind => loadsItems value n items (skip behind)

def loadsDict (value : List Char → Option (ν × List Char)) (text : List Char) : Option (Dict String ν × List Char) :=
  (expect '{' text).bind fun behind =>
    let text := skip behind
    if text.head? = some '}' then some (.empty,text.tail) else loadsItems value text.length .empty text

/-- `json.loads`, where the whole text is a value. -/
def loads {α : Type} (value : List Char → Option (α × List Char)) (text : String) : Option α :=
  (value (skip text.toList)).bind fun found => if skip found.2 = [] then some found.1 else none

end

/-- The reader takes what the writer has written for a value, and finds another in its place. -/
structure Reads {α : Type} (value : List Char → Option (α × List Char)) (written : α → List Char) (norm : α → α) : Prop where
  /-- No space stands in front. -/
  bare : ∀ a rest, skip (written a ++ rest) = written a ++ rest
  reads : ∀ a rest, value (written a ++ rest) = some (norm a,rest)

theorem hexValue_hexDigit : ∀ n < 16, hexValue (hexDigit n) = some n := by decide

theorem unicode_control {c : Char} (control : c.toNat < 32) (rest : List Char) :
    unicode ('0' :: '0' :: hexDigit (c.toNat / 16) :: hexDigit (c.toNat % 16) :: rest) = some (c,rest) := by
  have high := hexValue_hexDigit (c.toNat / 16) (by omega)
  have low := hexValue_hexDigit (c.toNat % 16) (by omega)
  have zero : hexValue '0' = some 0 := by decide
  have value : 16 * (c.toNat / 16) + c.toNat % 16 = c.toNat := Nat.div_add_mod _ _
  have number : code ('0' :: '0' :: hexDigit (c.toNat / 16) :: hexDigit (c.toNat % 16) :: rest) = some c.toNat := by
    simp [code,zero,high,low,value]
  have char : charOf c.toNat = some c := by
    have valid : c.toNat.isValidChar := c.valid
    rw [charOf,if_pos valid,Char.ofNat_toNat]
  have below : ¬0xd800 ≤ c.toNat := by omega
  simp [unicode,number,char,below]

theorem scan_escape (c : Char) (n : Nat) (rest : List Char) :
    scan (n + 1) (escape c ++ rest) = (scan n rest).map fun found => (c :: found.1,found.2) := by
  unfold escape
  split_ifs with quote slash newline ret tab back feed control
  · simp [scan,unescape,quote]
  · simp [scan,unescape,slash]
  · simp [scan,unescape,newline]
  · simp [scan,unescape,ret]
  · simp [scan,unescape,tab]
  · simp [scan,unescape,back]
  · simp [scan,unescape,feed]
  · simp [scan,unescape,unicode_control control]
  · simp [scan,quote,slash,control]

theorem scan_string (chars rest : List Char) {n : Nat} (enough : chars.length < n) :
    scan n (chars.flatMap escape ++ '"' :: rest) = some (chars,rest) := by
  induction chars generalizing n with
  | nil =>
    obtain ⟨n,rfl⟩ := Nat.exists_eq_add_of_lt enough
    simp [scan]
  | cons c chars ih =>
    cases n with
    | zero => exact absurd enough (Nat.not_lt_zero _)
    | succ n =>
      rw [List.flatMap_cons,List.append_assoc,scan_escape,ih (Nat.lt_of_succ_lt_succ enough)]
      rfl

theorem escape_ne_nil (c : Char) : escape c ≠ [] := by
  unfold escape
  split_ifs <;> exact List.cons_ne_nil _ _

theorem length_le_escaped (chars : List Char) : chars.length ≤ (chars.flatMap escape).length := by
  induction chars with
  | nil => exact Nat.le_refl _
  | cons c chars ih =>
    have one := List.length_pos_iff.mpr (escape_ne_nil c)
    rw [List.flatMap_cons,List.length_append,List.length_cons]
    omega

theorem loadsString_dumps (text : String) (rest : List Char) : loadsString (dumpsString text ++ rest) = some (text,rest) := by
  have enough : text.toList.length < (text.toList.flatMap escape ++ '"' :: rest).length + 1 := by
    have short := length_le_escaped text.toList
    rw [List.length_append]
    omega
  have found := scan_string text.toList rest enough
  rw [dumpsString,List.cons_append,List.cons_append,List.append_assoc,List.singleton_append,loadsString,if_pos rfl,found]
  simp

theorem reads_string : Reads loadsString dumpsString id where
  bare text rest := by simp [dumpsString,skip,isSpace]
  reads := loadsString_dumps

section
variable {ν : Type} {value : List Char → Option (ν × List Char)} {written : ν → List Char} {norm : ν → ν}

theorem skip_cons {c : Char} (bare : isSpace c = false) (rest : List Char) : skip (c :: rest) = c :: rest := by
  simp [skip,bare]

theorem skip_blank (rest : List Char) : skip (' ' :: rest) = skip rest := by simp [skip,isSpace]

theorem loadsItems_item (reads : Reads value written norm) (n : Nat) (items : Dict String ν) (item : String × ν) (rest : List Char) :
    loadsItems value (n + 1) items (dumpsItem written item ++ rest) =
      if (skip rest).head? = some '}' then some (items.set item.1 (norm item.2),(skip rest).tail)
      else (expect ',' (skip rest)).bind fun behind => loadsItems value n (items.set item.1 (norm item.2)) (skip behind) := by
  have key : loadsString (dumpsItem written item ++ rest) = some (item.1,':' :: ' ' :: (written item.2 ++ rest)) := by
    rw [dumpsItem,List.append_assoc,loadsString_dumps]
    simp
  have colon : skip (':' :: ' ' :: (written item.2 ++ rest)) = ':' :: ' ' :: (written item.2 ++ rest) := skip_cons (by decide) _
  have blank : skip (' ' :: (written item.2 ++ rest)) = written item.2 ++ rest := by
    rw [skip_blank,reads.bare]
  rw [loadsItems,key]
  simp only [Option.bind_some,colon,expect,List.head?_cons,if_true,List.tail_cons,blank,reads.reads]

theorem loadsItems_dumps (reads : Reads value written norm) (d : Dict String ν) (item : String × ν) (items : List (String × ν))
    (rest : List Char) {n : Nat} (enough : items.length < n) :
    loadsItems value n d (dumpsItems written (item :: items) ++ rest) =
      some ((item :: items).foldl (fun d item => d.set item.1 (norm item.2)) d,rest) := by
  induction items generalizing d item n with
  | nil =>
    obtain ⟨n,rfl⟩ := Nat.exists_eq_add_of_lt enough
    have brace : skip ('}' :: rest) = '}' :: rest := skip_cons (by decide) _
    rw [dumpsItems,List.append_assoc,loadsItems_item reads,List.singleton_append,brace]
    rfl
  | cons next items ih =>
    cases n with
    | zero => exact absurd enough (Nat.not_lt_zero _)
    | succ n =>
      have comma : skip (',' :: ' ' :: (dumpsItems written (next :: items) ++ rest)) =
          ',' :: ' ' :: (dumpsItems written (next :: items) ++ rest) := skip_cons (by decide) _
      have bare : skip (' ' :: (dumpsItems written (next :: items) ++ rest)) = dumpsItems written (next :: items) ++ rest := by
        cases items <;> simp [dumpsItems,dumpsItem,dumpsString,skip,isSpace]
      rw [dumpsItems,List.append_assoc,loadsItems_item reads,List.cons_append,List.cons_append,comma,if_neg (by simp)]
      simp only [expect,List.head?_cons,if_true,Option.bind_some,List.tail_cons,bare]
      rw [ih _ next (Nat.lt_of_succ_lt_succ enough)]
      rfl

theorem length_le_items (written : ν → List Char) (items : List (String × ν)) : items.length < (dumpsItems written items).length := by
  induction items using dumpsItems.induct with
  | case1 => exact Nat.zero_lt_one
  | case2 item =>
    simp only [dumpsItems,dumpsItem,List.length_append,List.length_cons,List.length_nil]
    omega
  | case3 item next items ih =>
    simp only [dumpsItems,List.length_append,List.length_cons] at ih ⊢
    omega

theorem loadsDict_dumps (reads : Reads value written norm) (d : Dict String ν) (rest : List Char) :
    loadsDict value (dumpsDict written d ++ rest) = some (d.map norm,rest) := by
  have pairs : ∀ (items : List (String × ν)) (e : Dict String ν), items.foldl (fun d item => d.set item.1 (norm item.2)) e =
      (items.map fun item => (item.1,norm item.2)).foldl (fun d item => d.set item.1 item.2) e := by
    intro items e
    rw [List.foldl_map]
  have whole : d.items.foldl (fun d item => d.set item.1 (norm item.2)) .empty = d.map norm := by
    rw [pairs]
    exact Dict.ofItems_items (d.map norm)
  rw [loadsDict,dumpsDict,expect,List.cons_append,List.head?_cons,if_pos rfl,Option.bind_some,List.tail_cons]
  cases items : d.items with
  | nil =>
    have brace : skip ('}' :: rest) = '}' :: rest := skip_cons (by decide) _
    rw [items] at whole
    simp only [dumpsItems,List.singleton_append,brace,List.head?_cons,if_true,List.tail_cons]
    rw [← whole]
    rfl
  | cons item items' =>
    have quote : ∃ behind, dumpsItems written (item :: items') ++ rest = '"' :: behind := by
      cases items' <;> exact ⟨_,rfl⟩
    obtain ⟨behind,starts⟩ := quote
    have bare : skip (dumpsItems written (item :: items') ++ rest) = dumpsItems written (item :: items') ++ rest := by
      rw [starts]
      exact skip_cons (by decide) _
    have enough : items'.length < (dumpsItems written (item :: items') ++ rest).length := by
      have short := length_le_items written (item :: items')
      rw [List.length_append]
      rw [List.length_cons] at short
      omega
    rw [items] at whole
    have other : ¬(dumpsItems written (item :: items') ++ rest).head? = some '}' := by simp [starts]
    simp only [bare]
    rw [if_neg other,loadsItems_dumps reads _ _ _ _ enough,whole]

theorem reads_dict (reads : Reads value written norm) : Reads (loadsDict value) (dumpsDict written) (Dict.map norm) where
  bare d rest := by simp [dumpsDict,skip,isSpace]
  reads := loadsDict_dumps reads

end

/-- What is prepared before it is written, as with `sort_keys`, is found so. -/
theorem Reads.comp {α : Type} {value : List Char → Option (α × List Char)} {written : α → List Char} {norm : α → α}
    (reads : Reads value written norm) (prepare : α → α) : Reads value (written ∘ prepare) (norm ∘ prepare) where
  bare a rest := reads.bare (prepare a) rest
  reads a rest := reads.reads (prepare a) rest

theorem loads_dumps {α : Type} {value : List Char → Option (α × List Char)} {written : α → List Char} {norm : α → α}
    (reads : Reads value written norm) (a : α) : loads value (.ofList (written a)) = some (norm a) := by
  have whole := reads.reads a []
  have bare := reads.bare a []
  rw [List.append_nil] at whole bare
  rw [loads,String.toList_ofList,bare,whole]
  rfl

end Automation.JsonText
