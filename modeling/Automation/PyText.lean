import Mathlib.Data.List.DropRight
import Mathlib.Data.List.Infix

/-!
Python's text operations on the characters of a string: white space and
`strip`, substring tests, and the search for a literal that ignores case.
-/
namespace Automation.PyText

/-- The characters `str.isspace` accepts, which are those `\s` matches. -/
def isSpace (c : Char) : Bool :=
  c.toNat ∈ [0x09,0x0a,0x0b,0x0c,0x0d,0x1c,0x1d,0x1e,0x1f,0x20,0x85,0xa0,0x1680,
    0x2000,0x2001,0x2002,0x2003,0x2004,0x2005,0x2006,0x2007,0x2008,0x2009,0x200a,
    0x2028,0x2029,0x202f,0x205f,0x3000]

/-- The digits zero of the Unicode decimal digits, each followed by its nine others. -/
def decimalZeros : List Nat :=
  [0x30,0x660,0x6f0,0x7c0,0x966,0x9e6,0xa66,0xae6,0xb66,0xbe6,0xc66,0xce6,0xd66,0xde6,0xe50,0xed0,0xf20,0x1040,
    0x1090,0x17e0,0x1810,0x1946,0x19d0,0x1a80,0x1a90,0x1b50,0x1bb0,0x1c40,0x1c50,0xa620,0xa8d0,0xa900,0xa9d0,0xa9f0,
    0xaa50,0xabf0,0xff10,0x104a0,0x10d30,0x11066,0x110f0,0x11136,0x111d0,0x112f0,0x11450,0x114d0,0x11650,0x116c0,
    0x11730,0x118e0,0x11950,0x11c50,0x11d50,0x11da0,0x11f50,0x16a60,0x16ac0,0x16b50,0x1d7ce,0x1d7d8,0x1d7e2,0x1d7ec,
    0x1d7f6,0x1e140,0x1e2f0,0x1e4f0,0x1e950,0x1fbf0]

/-- The characters `\d` matches. -/
def isDecimal (c : Char) : Bool := decimalZeros.any fun first => first ≤ c.toNat && c.toNat ≤ first + 9

def digitValue (c : Char) : Nat :=
  match decimalZeros.find? fun first => first ≤ c.toNat && c.toNat ≤ first + 9 with
  | some first => c.toNat - first
  | none => 0

/-- `int(text)` for decimal digits. -/
def natOfDigits (digits : List Char) : Nat := digits.foldl (fun value c => value * 10 + digitValue c) 0

/-- The digits of `str.isdigit()` that `int` rejects, as first and last of each run. -/
def otherDigits : List (Nat × Nat) :=
  [(0xb2,0xb3),(0xb9,0xb9),(0x1369,0x1371),(0x19da,0x19da),(0x2070,0x2070),(0x2074,0x2079),(0x2080,0x2089),
    (0x2460,0x2468),(0x2474,0x247c),(0x2488,0x2490),(0x24ea,0x24ea),(0x24f5,0x24fd),(0x24ff,0x24ff),(0x2776,0x277e),
    (0x2780,0x2788),(0x278a,0x2792),(0x10a40,0x10a43),(0x10e60,0x10e68),(0x11052,0x1105a),(0x1f100,0x1f10a)]

/-- A character of `str.isdigit()`. -/
def isDigitChar (c : Char) : Bool := isDecimal c || otherDigits.any fun run => run.1 ≤ c.toNat && c.toNat ≤ run.2

def stripBy (drop : Char → Bool) (text : List Char) : List Char :=
  ((text.dropWhile drop).reverse.dropWhile drop).reverse

/-- `str.strip()`. -/
def strip (text : String) : String := .ofList (stripBy isSpace text.toList)

def startsWith : List Char → List Char → Bool
  | [], _ => true
  | _ :: _, [] => false
  | p :: ps, c :: cs => p == c && startsWith ps cs

/-- `needle in text`. -/
def occurs (needle : List Char) : List Char → Bool
  | [] => needle.isEmpty
  | c :: cs => startsWith needle (c :: cs) || occurs needle cs

def contains (text needle : String) : Bool := occurs needle.toList text.toList

theorem startsWith_iff (needle text : List Char) : startsWith needle text = true ↔ needle <+: text := by
  induction needle generalizing text with
  | nil => simp [startsWith]
  | cons p ps ih =>
    cases text with
    | nil => simp [startsWith]
    | cons c cs => simp [startsWith,ih,List.cons_prefix_cons]

/-- The executable test agrees with the substring relation. -/
theorem occurs_iff (needle text : List Char) : occurs needle text = true ↔ needle <:+: text := by
  induction text with
  | nil => simp [occurs]
  | cons c cs ih => simp [occurs,startsWith_iff,ih,List.infix_cons_iff]

theorem infix_intercalate {part : String} {parts : List String} (separator : String) (member : part ∈ parts) :
    part.toList <:+: (separator.intercalate parts).toList := by
  induction parts with
  | nil => cases member
  | cons first rest ih =>
    rcases List.mem_cons.mp member with rfl | later
    · cases rest with
      | nil => rw [String.intercalate_singleton]
      | cons second others =>
        rw [String.intercalate_cons_cons,String.append_assoc,String.toList_append]
        exact (List.prefix_append _ _).isInfix
    · cases rest with
      | nil => cases later
      | cons second others =>
        rw [String.intercalate_cons_cons,String.toList_append]
        exact (ih later).trans (List.suffix_append _ _).isInfix

/-- `str.lower()` as far as an ASCII text can tell: of the other letters only the Kelvin
    sign and the dotted capital I, which lower to something ASCII, do not stay as they are. -/
def lower (text : String) : String :=
  .ofList (text.toList.flatMap fun c =>
    if c = Char.ofNat 0x212a then ['k'] else if c = 'İ' then ['i',Char.ofNat 0x307] else [c.toLower])

/-- The characters a letter of a pattern matches under `re.IGNORECASE`: both
    ASCII cases, and the letters whose simple case folding meets it. -/
def ignoreCase (letter : Char) (c : Char) : Bool :=
  c.toLower == letter || (letter == 'i' && (c == 'İ' || c == 'ı')) ||
    (letter == 's' && c == 'ſ') || (letter == 'k' && c == Char.ofNat 0x212a)

/-- A literal matched at the front of a text; what follows the match. -/
def matchLiteral : List Char → List Char → Option (List Char)
  | [], text => some text
  | _ :: _, [] => none
  | p :: ps, c :: cs => if ignoreCase p c then matchLiteral ps cs else none

/-- The leftmost match of a literal; what follows it. -/
def searchLiteral (literal : List Char) : List Char → Option (List Char)
  | [] => matchLiteral literal []
  | c :: cs =>
    match matchLiteral literal (c :: cs) with
    | some rest => some rest
    | none => searchLiteral literal cs

/-- `str.split(separator)` for one character. -/
def splitAt (separator : Char) : List Char → List (List Char)
  | [] => [[]]
  | c :: cs =>
    if c = separator then [] :: splitAt separator cs
    else
      match splitAt separator cs with
      | [] => [[c]]
      | part :: parts => (c :: part) :: parts

theorem splitAt_eq_splitOn (separator : Char) (text : List Char) : splitAt separator text = text.splitOn separator := by
  induction text with
  | nil => rfl
  | cons c cs ih =>
    rw [splitAt,List.splitOn_cons_eq_if_modifyHead,ih]
    by_cases here : c = separator
    · rw [if_pos here,if_pos (beq_iff_eq.mpr here)]
    · rw [if_neg here,if_neg (by simpa using here)]
      cases parts : cs.splitOn separator with
      | nil => exact absurd parts (List.splitOn_ne_nil separator cs)
      | cons part others => rfl

/-- The line breaks of `str.splitlines()`, `\r\n` being one. -/
def isLineBreak (c : Char) : Bool := c.toNat ∈ [0x0a,0x0b,0x0c,0x0d,0x1c,0x1d,0x1e,0x85,0x2028,0x2029]

/-- `str.splitlines()`, with the line read so far in reverse. -/
def splitLines : List Char → List Char → List (List Char)
  | [], [] => []
  | line, [] => [line.reverse]
  | line, '\r' :: '\n' :: cs => line.reverse :: splitLines [] cs
  | line, c :: cs => if isLineBreak c then line.reverse :: splitLines [] cs else splitLines (c :: line) cs

def splitlines (text : String) : List String := (splitLines [] text.toList).map .ofList

/-- `str.split()`: the words between runs of white space. -/
def splitWords : List Char → List Char → List (List Char)
  | [], [] => []
  | word, [] => [word.reverse]
  | word, c :: cs =>
    if isSpace c then (if word.isEmpty then splitWords [] cs else word.reverse :: splitWords [] cs)
    else splitWords (c :: word) cs

def words (text : String) : List String := (splitWords [] text.toList).map .ofList

/-- `str.replace(old,new)` for one character. -/
def replaceChar (old new : Char) (text : String) : String :=
  .ofList (text.toList.map fun c => if c = old then new else c)

/-- `str.rstrip()`. -/
def rstrip (text : String) : String := .ofList (text.toList.reverse.dropWhile isSpace).reverse

def hasPrefix (text start : String) : Bool := startsWith start.toList text.toList

/-- `text[:n]`. -/
def takeChars (n : Nat) (text : String) : String := .ofList (text.toList.take n)

/-- `text.lstrip(drop)` for one character. -/
def lstripChar (drop : Char) (text : String) : String := .ofList (text.toList.dropWhile (· == drop))

/-- `text.rstrip(drop)` for one character. -/
def rstripChar (drop : Char) (text : String) : String := .ofList (text.toList.reverse.dropWhile (· == drop)).reverse

/-- `text[n:]`. -/
def dropChars (n : Nat) (text : String) : String := .ofList (text.toList.drop n)

/-- Digits, with single underscores between them; `int` refuses more than 4300. -/
def unsignedInt (numeral : List Char) : Option Nat :=
  let groups := splitAt '_' numeral
  if groups.all (fun group => !group.isEmpty && group.all isDecimal) ∧ groups.flatten.length ≤ 4300 then
    some (natOfDigits groups.flatten)
  else none

/-- `int(text)`; `none` where it raises. -/
def pyInt (text : String) : Option Int :=
  match stripBy isSpace text.toList with
  | '-' :: numeral => (unsignedInt numeral).map fun n => -(n : Int)
  | '+' :: numeral => (unsignedInt numeral).map fun n => (n : Int)
  | numeral => (unsignedInt numeral).map fun n => (n : Int)

theorem dropWhile_kept {drop : Char → Bool} {text : List Char} :
    text.dropWhile drop = text ↔ ∀ c ∈ text.head?, drop c = false := by
  rw [List.dropWhile_eq_self_iff]
  cases text with
  | nil => simp
  | cons c rest => simp

/-- What is dropped from the end of a text is dropped from its end alone, unless that is all. -/
theorem rdropWhile_append {α : Type} (p : α → Bool) (front back : List α) :
    List.rdropWhile p (front ++ back) =
      if List.rdropWhile p back = [] then List.rdropWhile p front else front ++ List.rdropWhile p back := by
  unfold List.rdropWhile
  rw [List.reverse_append,List.dropWhile_append]
  by_cases gone : back.reverse.dropWhile p = []
  · simp [gone]
  · simp [gone]

theorem stripBy_eq (drop : Char → Bool) (text : List Char) :
    stripBy drop text = List.rdropWhile drop (text.dropWhile drop) := rfl

theorem stripBy_kept {drop : Char → Bool} {text : List Char} (first : ∀ c ∈ text.head?, drop c = false)
    (last : ∀ c ∈ text.getLast?, drop c = false) : stripBy drop text = text := by
  have back : ∀ c ∈ text.reverse.head?, drop c = false := by
    rw [List.head?_reverse]
    exact last
  rw [stripBy,dropWhile_kept.mpr first,dropWhile_kept.mpr back,List.reverse_reverse]

theorem stripBy_stripBy (drop : Char → Bool) (text : List Char) : stripBy drop (stripBy drop text) = stripBy drop text := by
  simp only [stripBy_eq]
  have kept : (List.rdropWhile drop (text.dropWhile drop)).dropWhile drop = List.rdropWhile drop (text.dropWhile drop) := by
    rw [List.dropWhile_eq_self_iff]
    intro nonempty
    obtain ⟨dropped,whole⟩ := List.rdropWhile_prefix drop (text.dropWhile drop)
    have long : 0 < (text.dropWhile drop).length := by rw [← whole,List.length_append]; omega
    have first : (List.rdropWhile drop (text.dropWhile drop))[0] = (text.dropWhile drop)[0] := by
      rw [List.getElem_of_eq whole.symm long,List.getElem_append_left nonempty]
    have refused := List.dropWhile_get_zero_not drop text long
    rw [first]
    exact refused
  rw [kept,List.rdropWhile_idempotent]

theorem strip_strip (text : String) : strip (strip text) = strip text := by
  simp only [strip,String.toList_ofList,stripBy_stripBy]

theorem strip_line {text : String} (clean : ∀ c ∈ text.toList, isSpace c = false) : strip (text ++ "\n") = text := by
  have newline : isSpace '\n' = true := by decide
  cases whole : text.toList with
  | nil =>
    have empty : text = "" := by rw [← String.ofList_toList (s := text),whole]
    rw [empty]
    decide
  | cons c rest =>
    rw [whole] at clean
    have first : isSpace c = false := clean c List.mem_cons_self
    have front : (c :: rest ++ "\n".toList).dropWhile isSpace = c :: rest ++ ['\n'] :=
      dropWhile_kept.mpr fun d same => by cases same; exact first
    have back : (c :: rest).reverse.dropWhile isSpace = (c :: rest).reverse := by
      refine dropWhile_kept.mpr fun d head => clean d ?_
      exact List.mem_reverse.mp (List.mem_of_mem_head? head)
    rw [strip,String.toList_append,whole,stripBy,front,List.reverse_append,List.reverse_singleton,List.singleton_append,
      List.dropWhile_cons_of_pos newline,back,List.reverse_reverse,← whole,String.ofList_toList]

theorem isDigit_iff {c : Char} : c.isDigit = true ↔ 48 ≤ c.toNat ∧ c.toNat ≤ 57 := Char.isDigit_iff_toNat

theorem toDigits_isDigit {n : Nat} {c : Char} (member : c ∈ Nat.toDigits 10 n) : c.isDigit = true :=
  Nat.isDigit_of_mem_toDigits (by decide) (by decide) member

theorem digitValue_digitChar {d : Nat} (small : d < 10) : digitValue d.digitChar = d := by
  have value : ∀ d : Fin 10, digitValue d.val.digitChar = d.val := by decide
  exact value ⟨d,small⟩

private theorem digitChar_of_isDigit {c : Char} (digit : c.isDigit = true) :
    digitValue c < 10 ∧ (digitValue c).digitChar = c := by
  have range := isDigit_iff.mp digit
  have same : (c.toNat - 48).digitChar = c := by
    apply Char.toNat_inj.mp
    rw [Nat.toNat_digitChar_of_lt_ten (by omega)]
    omega
  have value : digitValue c = c.toNat - 48 := by
    conv_lhs => rw [← same]
    exact digitValue_digitChar (by omega)
  rw [value]
  exact ⟨by omega,same⟩

theorem isDecimal_of_isDigit {c : Char} (digit : c.isDigit = true) : isDecimal c = true := by
  have range := isDigit_iff.mp digit
  exact List.any_eq_true.mpr ⟨0x30,by decide,by simp [range]⟩

theorem isDigit_of_isDecimal {c : Char} (decimal : isDecimal c = true) (ascii : c.toNat < 128) : c.isDigit = true := by
  obtain ⟨first,member,range⟩ := List.any_eq_true.mp decimal
  have low : first ≤ c.toNat ∧ c.toNat ≤ first + 9 := by simpa using range
  have least : ∀ first ∈ decimalZeros, first = 48 ∨ 128 ≤ first := by decide
  refine isDigit_iff.mpr ?_
  rcases least first member with same | large <;> omega

private theorem toDigits_foldl (digits : List Char) (ascii : ∀ c ∈ digits, c.isDigit = true) (value : Nat)
    (positive : 0 < value) :
    Nat.toDigits 10 value ++ digits = Nat.toDigits 10 (digits.foldl (fun value c => value * 10 + digitValue c) value) := by
  induction digits generalizing value with
  | nil => simp
  | cons c cs ih =>
    obtain ⟨here,later⟩ := List.forall_mem_cons.mp ascii
    obtain ⟨small,same⟩ := digitChar_of_isDigit here
    have shifted : Nat.toDigits 10 value ++ [c] = Nat.toDigits 10 (value * 10 + digitValue c) := by
      rw [Nat.mul_comm,← Nat.toDigits_append_toDigits (by decide) positive small,Nat.toDigits_of_lt_base small,same]
    rw [List.foldl_cons,← ih later _ (by omega),← shifted,List.append_assoc,List.singleton_append]

theorem toDigits_natOfDigits {digits : List Char} (ascii : ∀ c ∈ digits, c.isDigit = true) (nonempty : digits ≠ [])
    (canonical : digits.head? ≠ some '0') : Nat.toDigits 10 (natOfDigits digits) = digits := by
  cases digits with
  | nil => exact absurd rfl nonempty
  | cons c cs =>
    obtain ⟨here,later⟩ := List.forall_mem_cons.mp ascii
    obtain ⟨small,same⟩ := digitChar_of_isDigit here
    have positive : 0 < digitValue c := by
      refine Nat.pos_of_ne_zero fun zero => canonical ?_
      rw [zero] at same
      simp [← same,Nat.digitChar]
    rw [natOfDigits,List.foldl_cons,Nat.zero_mul,Nat.zero_add,← toDigits_foldl cs later _ positive,
      Nat.toDigits_of_lt_base small,same,List.singleton_append]

@[simp] theorem natOfDigits_toDigits (n : Nat) : natOfDigits (Nat.toDigits 10 n) = n := by
  induction n using Nat.strongRecOn with
  | ind n ih =>
    by_cases small : n < 10
    · rw [Nat.toDigits_of_lt_base small]
      simp [natOfDigits,digitValue_digitChar small]
    · have rest : n % 10 < 10 := Nat.mod_lt _ (by decide)
      rw [Nat.toDigits_of_base_le (by decide) (by omega),natOfDigits,List.foldl_append]
      have front : (Nat.toDigits 10 (n / 10)).foldl (fun value c => value * 10 + digitValue c) 0 = n / 10 :=
        ih (n / 10) (by omega)
      rw [front]
      simp [digitValue_digitChar rest]
      omega

theorem head_toDigits {n : Nat} (positive : 0 < n) : (Nat.toDigits 10 n).head? ≠ some '0' := by
  induction n using Nat.strongRecOn with
  | ind n ih =>
    by_cases small : n < 10
    · rw [Nat.toDigits_of_lt_base small]
      have digit : ∀ d : Fin 10, 0 < d.val → d.val.digitChar ≠ '0' := by decide
      simpa using digit ⟨n,small⟩ positive
    · rw [Nat.toDigits_of_base_le (by decide) (by omega),List.head?_append_of_ne_nil _ Nat.toDigits_ne_nil]
      exact ih (n / 10) (by omega) (by omega)

private theorem digit_plain {c : Char} (digit : c.isDigit = true) : isSpace c = false ∧ c ≠ '_' ∧ c ≠ '-' ∧ c ≠ '+' := by
  have range := isDigit_iff.mp digit
  refine ⟨?_,?_,?_,?_⟩
  · simp only [isSpace,List.mem_cons,List.not_mem_nil,or_false,decide_eq_false_iff_not]
    omega
  · rintro rfl
    exact absurd range (by decide)
  · rintro rfl
    exact absurd range (by decide)
  · rintro rfl
    exact absurd range (by decide)

private theorem unsignedInt_toDigits {n : Nat} (short : (Nat.toDigits 10 n).length ≤ 4300) :
    unsignedInt (Nat.toDigits 10 n) = some n := by
  have plain : '_' ∉ Nat.toDigits 10 n := fun member => (digit_plain (toDigits_isDigit member)).2.1 rfl
  have decimals : (Nat.toDigits 10 n).all isDecimal = true :=
    List.all_eq_true.mpr fun c member => isDecimal_of_isDigit (toDigits_isDigit member)
  have nonempty : (Nat.toDigits 10 n).isEmpty = false := List.isEmpty_eq_false_iff.mpr Nat.toDigits_ne_nil
  simp only [unsignedInt,splitAt_eq_splitOn,List.splitOn_eq_singleton plain,List.flatten_singleton,natOfDigits_toDigits,
    List.all_cons,List.all_nil,nonempty,decimals]
  rw [if_pos ⟨rfl,short⟩]

theorem pyInt_toString {n : Nat} (short : (Nat.toDigits 10 n).length ≤ 4300) : pyInt (toString n) = some (n : Int) := by
  have unsigned := unsignedInt_toDigits short
  have kept : stripBy isSpace (Nat.toDigits 10 n) = Nat.toDigits 10 n := by
    apply stripBy_kept
    · intro c first
      exact (digit_plain (toDigits_isDigit (List.mem_of_mem_head? first))).1
    · intro c last
      exact (digit_plain (toDigits_isDigit (List.mem_of_getLast? last))).1
  rw [pyInt,Nat.toString_eq_repr,Nat.toList_repr,kept]
  cases whole : Nat.toDigits 10 n with
  | nil => exact absurd whole Nat.toDigits_ne_nil
  | cons c cs =>
    have plain : isSpace c = false ∧ c ≠ '_' ∧ c ≠ '-' ∧ c ≠ '+' :=
      digit_plain (toDigits_isDigit (n := n) (by rw [whole]; exact List.mem_cons_self))
    rw [whole] at unsigned
    -- a numeral has no sign
    split
    · rename_i same
      cases same
      exact absurd rfl plain.2.2.1
    · rename_i same
      cases same
      exact absurd rfl plain.2.2.2
    · rw [unsigned]
      rfl

end Automation.PyText
