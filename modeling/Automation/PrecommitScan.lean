import Automation.PyText
import Automation.Regex

/-!
`scan_diff` of the pre-commit scanner: a text is blocked if one of the secret
patterns occurs in it. A text that is blocked on its own is blocked at the start
of a line of any other text (`scan_diff_context`).
-/
namespace Automation.PrecommitScan
open Automation.PyText Automation.Regex

section
variable (letters : Char → Bool)

/-- `\w`; `letters` are the alphanumeric characters beyond ASCII. -/
def isWord (c : Char) : Bool := c.isAlphanum || c == '_' || (128 ≤ c.toNat && letters c)

structure SecretPattern where
  name : String
  start : Start
  pattern : Pattern

def aws_access_key : SecretPattern where
  name := "aws_access_key"
  start := anywhere
  pattern := .seq (literal ['A','K','I','A']) (times 16 (.one fun c => c.isDigit || c.isUpper))

def atlassian_api_token : SecretPattern where
  name := "atlassian_api_token"
  start := anywhere
  pattern := .seq (literal ['A','T','A','T','T','3','x']) (plus (.one fun c => c.isAlphanum || c == '_' || c == '-'))

def bearer_token : SecretPattern where
  name := "bearer_token"
  start := wordBoundary (isWord letters)
  pattern := .seq (literal ['B','e','a','r','e','r']) (.seq (plus (.one isSpace))
    (plus (.one fun c => c.isAlphanum || c == '.' || c == '_' || c == '-')))

def isQuote (c : Char) : Bool := c == '\'' || c == '"'

def generic_password : SecretPattern where
  name := "generic_password"
  start := anywhere
  pattern := concat (['p','a','s','s','w','o','r','d'].map (fun c => .one (ignoreCase c)) ++
    [.star (.one isSpace),.one (· == '='),.star (.one isSpace),.one isQuote,plus (.one fun c => !isQuote c),.one isQuote])

def SECRET_PATTERNS : List SecretPattern :=
  [aws_access_key,atlassian_api_token,bearer_token letters,generic_password]

inductive ScanDecision where
  | pass
  | block
  deriving DecidableEq

structure ScanResult where
  decision : ScanDecision
  matched_patterns : List String
  deriving DecidableEq

def SecretPattern.found (secret : SecretPattern) (diff : List Char) : Bool := search secret.start secret.pattern none diff

def scan_diff (diff : String) : ScanResult :=
  match (SECRET_PATTERNS letters).filter fun secret => secret.found diff.toList with
  | [] => { decision := .pass, matched_patterns := [] }
  | matched => { decision := .block, matched_patterns := (matched.map (·.name)).mergeSort fun a b => decide (a ≤ b) }

variable {letters}

theorem scan_diff_block_iff (diff : String) :
    (scan_diff letters diff).decision = .block ↔ ∃ secret ∈ SECRET_PATTERNS letters, secret.found diff.toList = true := by
  unfold scan_diff
  cases matched : (SECRET_PATTERNS letters).filter fun secret => secret.found diff.toList with
  | nil =>
    simp only [List.filter_eq_nil_iff] at matched
    simp only [reduceCtorEq,false_iff,not_exists,not_and]
    exact fun secret member => matched secret member
  | cons secret rest =>
    have member : secret ∈ (SECRET_PATTERNS letters).filter fun secret => secret.found diff.toList := by simp [matched]
    simp only [true_iff]
    exact ⟨secret,(List.mem_filter.mp member).1,(List.mem_filter.mp member).2⟩

private theorem found_context {secret : SecretPattern} (known : secret ∈ SECRET_PATTERNS letters) {text : List Char}
    (found : secret.found text = true) (left right : List Char) :
    secret.found (left ++ '\n' :: text ++ right) = true := by
  simp only [SECRET_PATTERNS,List.mem_cons,List.not_mem_nil,or_false] at known
  rcases known with rfl | rfl | rfl | rfl
  · refine search_context rfl (fun next starts => ?_) found none left right
    rfl
  · refine search_context rfl (fun next starts => ?_) found none left right
    rfl
  · refine search_context rfl (fun next starts => ?_) found none left right
    simpa [bearer_token,wordBoundary,isWord] using starts
  · refine search_context rfl (fun next starts => ?_) found none left right
    rfl

theorem scan_diff_context {content diff : String} (line : '\n' :: content.toList <:+: diff.toList)
    (blocked : (scan_diff letters content).decision = .block) : (scan_diff letters diff).decision = .block := by
  obtain ⟨secret,known,found⟩ := (scan_diff_block_iff content).mp blocked
  obtain ⟨left,right,split⟩ := line
  refine (scan_diff_block_iff diff).mpr ⟨secret,known,?_⟩
  rw [← split]
  exact found_context known found left right

end
end Automation.PrecommitScan
