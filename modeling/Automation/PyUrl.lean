import Automation.PyText

/-!
`urllib.parse`: the parts of a URL, their assembly, and percent-encoding. What the checks
of a netloc ask of Unicode's tables and of IP addresses is left to the interpreter.
-/
namespace Automation.PyUrl
open Automation.PyText

/-- The characters of `_ALWAYS_SAFE`. -/
def isUnreserved (c : Char) : Bool := c.isAlphanum || c == '_' || c == '.' || c == '-' || c == '~'

def hexDigit (n : Nat) : Char := if n < 10 then .ofNat (48 + n) else .ofNat (55 + n)

/-- `%{:02X}`. -/
def percent (byte : UInt8) : List Char := ['%',hexDigit (byte.toNat / 16),hexDigit (byte.toNat % 16)]

def quoteChar (c : Char) : List Char := if isUnreserved c then [c] else (String.utf8EncodeChar c).flatMap percent

/-- `quote(text, safe="")`. -/
def quote (text : String) : String := .ofList (text.toList.flatMap quoteChar)

theorem hexDigit_unreserved {n : Nat} (small : n < 16) : isUnreserved (hexDigit n) = true := by
  have all : ∀ n < 16, isUnreserved (hexDigit n) = true := by decide
  exact all n small

theorem percent_unreserved {byte : UInt8} {c : Char} (member : c ∈ percent byte) : isUnreserved c = true ∨ c = '%' := by
  have small : byte.toNat < 256 := byte.toNat_lt
  simp only [percent,List.mem_cons,List.not_mem_nil,or_false] at member
  rcases member with rfl | rfl | rfl
  · exact .inr rfl
  · exact .inl (hexDigit_unreserved (by omega))
  · exact .inl (hexDigit_unreserved (by omega))

/-- What is quoted has unreserved characters and percent signs only. -/
theorem quote_unreserved {text : String} {c : Char} (member : c ∈ (quote text).toList) :
    isUnreserved c = true ∨ c = '%' := by
  rw [quote,String.toList_ofList,List.mem_flatMap] at member
  obtain ⟨d,-,member⟩ := member
  rw [quoteChar] at member
  by_cases plain : isUnreserved d = true
  · rw [if_pos plain,List.mem_singleton] at member
    exact .inl (member ▸ plain)
  · rw [if_neg plain,List.mem_flatMap] at member
    obtain ⟨byte,-,member⟩ := member
    exact percent_unreserved member

structure SplitResult where
  scheme : String
  netloc : String
  path : String
  query : String
  fragment : String
deriving DecidableEq

/-- Whether what a netloc has in brackets is an address, and whether its NFKC form is as
    harmless as itself. -/
structure NetlocChecks where
  bracketed : String → Bool
  normal : String → Bool

def isSchemeChar (c : Char) : Bool := c.isAlphanum || c == '+' || c == '-' || c == '.'

/-- The text before the first separator and the text after it. -/
def cut (separator : Char) (text : List Char) : List Char × List Char :=
  (text.takeWhile (· != separator),(text.dropWhile (· != separator)).drop 1)

/-- The controls that the parser drops from the front, and those it drops from everywhere. -/
def cleaned (url : List Char) : List Char :=
  (url.dropWhile fun c => c.toNat ≤ 0x20).filter fun c => c != '\t' && c != '\r' && c != '\n'

def splitscheme (url : List Char) : List Char × List Char :=
  let front := url.takeWhile (· != ':')
  if (front.head?.any (·.isAlpha)) && front.all isSchemeChar && url.contains ':' then
    ((lower (.ofList front)).toList,url.drop (front.length + 1))
  else ([],url)

def splitnetloc (url : List Char) : List Char × List Char :=
  if startsWith ['/','/'] url then
    let rest := url.drop 2
    let inside := fun c => c != '/' && c != '?' && c != '#'
    (rest.takeWhile inside,rest.dropWhile inside)
  else ([],url)

def checknetloc (checks : NetlocChecks) (netloc : List Char) : Bool :=
  (netloc.contains '[' == netloc.contains ']') && (!netloc.contains '[' || checks.bracketed (.ofList netloc)) &&
    (netloc.all (fun c => c.toNat < 128) || checks.normal (.ofList netloc))

/-- `urlsplit`. None where it raises ValueError. -/
def urlsplit (checks : NetlocChecks) (url : String) : Option SplitResult :=
  let (scheme,rest) := splitscheme (cleaned url.toList)
  let (netloc,rest) := splitnetloc rest
  if checknetloc checks netloc then
    let (rest,fragment) := cut '#' rest
    let (path,query) := cut '?' rest
    some ⟨.ofList scheme,.ofList netloc,.ofList path,.ofList query,.ofList fragment⟩
  else none

/-- `urlunsplit` of parts with a netloc. -/
def urlunsplit (parts : SplitResult) : String :=
  let path := if parts.path = "" ∨ hasPrefix parts.path "/" then parts.path else "/" ++ parts.path
  (if parts.scheme = "" then "" else parts.scheme ++ ":") ++ "//" ++ parts.netloc ++ path ++
    (if parts.query = "" then "" else "?" ++ parts.query) ++
    (if parts.fragment = "" then "" else "#" ++ parts.fragment)

theorem netloc_in_url (parts : SplitResult) : parts.netloc.toList <:+: (urlunsplit parts).toList := by
  simp only [urlunsplit,String.toList_append,List.append_assoc]
  refine List.infix_append_of_infix_right (List.infix_append_of_infix_right ?_)
  exact List.infix_append_left

end Automation.PyUrl
