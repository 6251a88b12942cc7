import Automation.Json
import Automation.Printf
import Automation.PyText

/-!
The script that hands the credentials of a department to git on the runner. The values that
Vault returned stand in a quoted format of `printf`, whose output is the record that
`git credential approve` reads. They arrive as they are exactly where they have no quote, no
percent sign, no backslash, no newline and no null character (`script_verbatim`).
-/
namespace Automation.CredentialScript
open Automation.PosixShell
open Automation.Printf (Conversions Marked mark marks marks_append printf)

/-! ### The credentials -/

def VAULT_MAX_RETRIES : Nat := 2

/-- What becomes of one request: it timed out, its transport failed, or it was answered with
    a status and a body, none where that is no JSON. -/
inductive VaultReply
  | timeout
  | transport (cause : String)
  | response (status_code : Int) (payload : Option Json)

/-- What one request comes to: the credentials, a reason to try again or to stop, or an
    exception that is not caught. -/
inductive Attempt
  | credentials (username app_password : String)
  | again (last_error : String)
  | stop (last_error : String)
  | raised

/-- The names of the fields that are missing, as a list is printed. -/
def missing (username app_password : Json) : String :=
  let names := (if username.truthy then [] else ["'username'"]) ++ if app_password.truthy then [] else ["'app_password'"]
  "[" ++ ", ".intercalate names ++ "]"

section
variable (repr : Json → String) (path : String)

def read_credentials (payload : Json) : Attempt :=
  if ¬ (payload.get "data").isObj then .again "Vault response missing 'data' envelope"
  else if ¬ ((payload.get "data").get "data").isObj then .again "Vault response missing 'data.data' payload"
  else
    let inner_data := (payload.get "data").get "data"
    let username := inner_data.get "username"
    let app_password := inner_data.get "app_password"
    if ¬ username.truthy ∨ ¬ app_password.truthy then
      .again ("incomplete Bitbucket credential: missing " ++ missing username app_password)
    else .credentials (username.pyStr repr) (app_password.pyStr repr)

def attempt (number : Nat) : VaultReply → Attempt
  | .timeout => .again ("Vault request timed out after 30.0s (attempt " ++ toString (number + 1) ++ "/" ++
      toString (1 + VAULT_MAX_RETRIES) ++ ")")
  | .transport cause => .again ("Vault transport error: " ++ cause)
  | .response status_code payload =>
    if status_code = 404 then .stop ("credential not found at vault path: " ++ path)
    else if ¬ (200 ≤ status_code ∧ status_code < 300) then
      .again ("Vault returned HTTP " ++ toString status_code ++ " for path=" ++ path)
    else match payload with
      | none => .raised
      | some payload => read_credentials repr payload

/-- The attempts that are left, after `last_error`. -/
def attempts (replies : Nat → VaultReply) (number : Nat) : Nat → String → Option (Except String (String × String))
  | 0,last_error => some (.error ("all Vault credential fetch attempts failed: " ++ last_error))
  | left + 1,_ =>
    match attempt repr path number (replies number) with
    | .credentials username app_password => some (.ok (username,app_password))
    | .again last_error => attempts replies (number + 1) left last_error
    | .stop last_error => some (.error ("all Vault credential fetch attempts failed: " ++ last_error))
    | .raised => none

/-- `path` is the path below the mount. An exception that is not caught is none. -/
def fetch_credential_from_vault (vault_token : String) (replies : Nat → VaultReply) :
    Option (Except String (String × String)) :=
  if vault_token = "" then some (.error "VAULT_TOKEN environment variable is empty or not set")
  else attempts repr path replies 0 (1 + VAULT_MAX_RETRIES) ""

end

section
variable {repr : Json → String} {path username app_password : String}

/-- A payload that has the two values, neither of them empty. -/
structure Holds (repr : Json → String) (username app_password : String) (payload : Json) : Prop where
  username_truthy : (((payload.get "data").get "data").get "username").truthy = true
  app_password_truthy : (((payload.get "data").get "data").get "app_password").truthy = true
  username_is : username = (((payload.get "data").get "data").get "username").pyStr repr
  app_password_is : app_password = (((payload.get "data").get "data").get "app_password").pyStr repr

theorem read_credentials_holds {payload : Json} (read : read_credentials repr payload = .credentials username app_password) :
    Holds repr username app_password payload := by
  simp only [read_credentials] at read
  split at read
  · cases read
  · split at read
    · cases read
    · split at read
      · cases read
      · next filled =>
        obtain ⟨rfl,rfl⟩ := Attempt.credentials.inj read
        simp only [not_or,not_not] at filled
        exact ⟨filled.1,filled.2,rfl,rfl⟩

theorem attempt_holds {number : Nat} {reply : VaultReply} (read : attempt repr path number reply = .credentials username app_password) :
    ∃ status_code payload, reply = .response status_code (some payload) ∧ Holds repr username app_password payload := by
  cases reply with
  | timeout => cases read
  | transport cause => cases read
  | response status_code payload =>
    simp only [attempt] at read
    split at read
    · cases read
    · split at read
      · cases read
      · cases payload with
        | none => cases read
        | some payload => exact ⟨status_code,payload,rfl,read_credentials_holds read⟩

/-- The credentials are those of one of the answers. -/
theorem attempts_hold {replies : Nat → VaultReply} {number left : Nat} {last_error : String}
    (returned : attempts repr path replies number left last_error = some (.ok (username,app_password))) :
    ∃ m status_code payload, replies m = .response status_code (some payload) ∧ Holds repr username app_password payload := by
  induction left generalizing number last_error with
  | zero => cases returned
  | succ left ih =>
    unfold attempts at returned
    split at returned
    · next known =>
      cases returned
      exact ⟨number,attempt_holds known⟩
    · exact ih returned
    · cases returned
    · cases returned

theorem fetched {vault_token : String} {replies : Nat → VaultReply}
    (returned : fetch_credential_from_vault repr path vault_token replies = some (.ok (username,app_password))) :
    ∃ m status_code payload, replies m = .response status_code (some payload) ∧ Holds repr username app_password payload := by
  unfold fetch_credential_from_vault at returned
  split at returned
  · cases returned
  · exact attempts_hold returned

end

/-! ### The script -/

def build_credential_helper_script (username app_password : String) (ttl_minutes : Int) : String :=
  "git config --global credential.helper " ++
    "'cache --timeout=" ++ toString (ttl_minutes * 60) ++ "' && " ++
    "printf 'protocol=https\\nhost=bitbucket.org\\n" ++
    "username=" ++ username ++ "\\npassword=" ++ app_password ++ "\\n\\n' | " ++
    "git credential approve"

/-! ### What git reads -/

/-- A line of a record, a key and a value with a `=` between them. -/
def read_line : List Char → Option (List Char × List Char)
  | [] => none
  | c :: rest => if c = '=' then some ([],rest) else (read_line rest).map fun pair => (c :: pair.1,pair.2)

/-- The lines up to a blank one, `line` being what has been read of the first. -/
def read_from (line : List Char) : List Char → Option (List (List Char × List Char))
  | [] => if line = [] then some [] else (read_line line).map fun pair => [pair]
  | c :: rest =>
    if c = '\n' then
      if line = [] then some []
      else match read_line line,read_from [] rest with
        | some pair,some pairs => some (pair :: pairs)
        | _,_ => none
    else read_from (line ++ [c]) rest

/-- The attributes of the record that `git credential approve` is given. -/
def read_record (record : List Char) : Option (List (List Char × List Char)) := read_from [] record

/-- The script is read as two commands of git and the `printf` between them, and what that
    prints is a record with exactly the values. -/
def Verbatim (conversions : Conversions) (username app_password script : String) : Prop :=
  ∃ helper format record,
    read script = some [.word "git".toList,.word "config".toList,.word "--global".toList,.word "credential.helper".toList,
      .word helper,.operator "&&".toList,.word "printf".toList,.word format,.operator "|".toList,.word "git".toList,
      .word "credential".toList,.word "approve".toList] ∧
    printf conversions format = some record ∧
    read_record record = some [("protocol".toList,"https".toList),("host".toList,"bitbucket.org".toList),
      ("username".toList,username.toList),("password".toList,app_password.toList)]

/-- A text that a quoted format keeps. -/
def Plain (value : String) : Prop := ∀ c ∈ value.toList, ¬ Marked c ∧ c ≠ '\x00'

instance (value : String) : Decidable (Plain value) := List.decidableBAll (fun c => ¬ Marked c ∧ c ≠ '\x00') value.toList

/-! ### Up to the format -/

/-- The format of the script, up to the two newlines that end it. -/
def format_text (username app_password : String) : List Char :=
  "protocol=https\\nhost=bitbucket.org\\n".toList ++ ("username=".toList ++ (username.toList ++
    ("\\npassword=".toList ++ app_password.toList)))

def helper_text (ttl_minutes : Int) : List Char := "cache --timeout=".toList ++ (toString (ttl_minutes * 60)).toList

def head_tokens (helper : List Char) : List Token :=
  [.word ("git".toList.map .bare),.word ("config".toList.map .bare),.word ("--global".toList.map .bare),
    .word ("credential.helper".toList.map .bare),.word (helper.map .quoted),.operator "&&".toList,
    .word ("printf".toList.map .bare)]

/-- What follows the values. -/
def tail_text : List Char := "\\n\\n' | ".toList ++ "git credential approve".toList

theorem digits_kept (n : Nat) : ∀ c ∈ (toString n).toList, Kept c := by
  intro c member
  rw [Nat.toString_eq_repr,Nat.toList_repr] at member
  have digit := PyText.toDigits_isDigit member
  constructor <;> rintro rfl <;> exact absurd digit (by decide)

theorem number_kept (n : Int) : ∀ c ∈ (toString n).toList, Kept c := by
  cases n with
  | ofNat m => exact digits_kept m
  | negSucc m =>
    have written : toString (Int.negSucc m) = "-" ++ toString (m + 1) := rfl
    rw [written,String.toList_append]
    intro c member
    rcases List.mem_append.mp member with minus | digit
    · have same : c = '-' := by simpa using minus
      subst same
      decide
    · exact digits_kept (m + 1) c digit

theorem helper_kept (ttl_minutes : Int) : ∀ c ∈ helper_text ttl_minutes, Kept c := by
  intro c member
  rcases List.mem_append.mp member with fixed | number
  · exact kept_of_all (by decide) c fixed
  · exact number_kept _ c number

private theorem regroup {a b c d A B C D : List Char} (n e u f p g h : List Char) (front : a ++ b = A ++ B)
    (middle : c ++ d = C ++ D) : a ++ b ++ n ++ c ++ d ++ e ++ u ++ f ++ p ++ g ++ h =
      A ++ (B ++ n ++ (C ++ (D ++ (e ++ (u ++ (f ++ p))) ++ (g ++ h)))) := by
  have joined : c ++ (d ++ (e ++ (u ++ (f ++ (p ++ (g ++ h)))))) = C ++ (D ++ (e ++ (u ++ (f ++ (p ++ (g ++ h)))))) := by
    rw [← List.append_assoc,middle,List.append_assoc]
  rw [front]
  simp only [List.append_assoc,joined]

theorem script_parts (username app_password : String) (ttl_minutes : Int) :
    (build_credential_helper_script username app_password ttl_minutes).toList =
      "git config --global credential.helper '".toList ++ (helper_text ttl_minutes ++ ("' && printf '".toList ++
        (format_text username app_password ++ tail_text))) := by
  unfold build_credential_helper_script
  rw [String.toList_append,String.toList_append,String.toList_append,String.toList_append,String.toList_append,
    String.toList_append,String.toList_append,String.toList_append,String.toList_append,String.toList_append]
  exact regroup _ _ _ _ _ _ _ (by decide) (by decide)

theorem run_head (ttl_minutes : Int) (rest : List Char) :
    run start ("git config --global credential.helper '".toList ++ (helper_text ttl_minutes ++ ("' && printf '".toList ++ rest))) =
      (run ⟨.single,some [],[]⟩ rest).behind (head_tokens (helper_text ttl_minutes)) := by
  have opened : run start "git config --global credential.helper '".toList =
      ⟨.single,some [],(head_tokens []).take 4⟩ := by decide
  rw [run_append,opened,run_append,run_single _ (helper_kept ttl_minutes),run_append,← behind_run]
  rfl

/-! ### Behind the format -/

/-- Outside of single quotes the last quote of the script opens one that stays open, and only
    a comment ends well. -/
theorem tail_modes {s : State} {tokens : List Token} (read : finish (run s tail_text) = some tokens) :
    s.mode = .single ∨ (s.mode = .comment ∧ tokens = (s.flush .plain).tokens) := by
  obtain ⟨mode,word,before⟩ := s
  cases mode with
  | single => exact .inl rfl
  | comment => exact .inr ⟨rfl,(Option.some.inj read).symm⟩
  | dollar inside => cases inside <;> exact nomatch (show none = some tokens from read)
  | name inside => cases inside <;> exact nomatch (show none = some tokens from read)
  | brace inside => cases inside <;> exact nomatch (show none = some tokens from read)
  | operator first =>
    have passed : step ⟨.operator first,word,before⟩ '\\' =
        ((⟨.operator first,word,before⟩ : State).emit (operator_text first) .plain).enter .escape := by
      have alone : (first,'\\') ∉ pairs := by simp [pairs]
      have other : ¬ ((first,'\\') = ('<','<') ∨ (first,'\\') = ('$','(')) := by simp
      show operator_step first _ '\\' = _
      rw [operator_step,if_neg alone,if_neg other]
      rfl
    have parts : tail_text = '\\' :: tail_text.tail := by decide
    rw [parts,run_cons,passed] at read
    exact nomatch (show none = some tokens from read)
  | _ => exact nomatch (show none = some tokens from read)

theorem tail_single (w : Word) (before : List Token) :
    finish (run ⟨.single,some w,before⟩ tail_text) =
      some (before ++ [.word (w ++ "\\n\\n".toList.map .quoted),.operator "|".toList,.word ("git".toList.map .bare),
        .word ("credential".toList.map .bare),.word ("approve".toList.map .bare)]) := by
  have behind : (⟨.single,some w,before⟩ : State) = State.behind before ⟨.single,some w,[]⟩ := by simp [State.behind]
  have parts : tail_text = "\\n\\n".toList ++ "' | git credential approve".toList := by decide
  rw [behind,behind_run,behind_finish,parts,run_append,run_single _ (kept_of_all (by decide))]
  rfl

theorem tail_any (word : Option Word) (before : List Token) :
    run ⟨.single,word,before⟩ tail_text = run ⟨.single,some (word.getD []),before⟩ tail_text := by
  cases word <;> rfl

/-! ### The items of the script -/

theorem item_quoted (text : List Char) : Token.item (.word (text.map .quoted)) = some (.word text) := by
  simp [Token.item,literal,Piece.isActive,Piece.char,Function.comp_def]

theorem item_bare (text : List Char) : Token.item (.word (text.map .bare)) = some (.word text) := by
  simp [Token.item,literal,Piece.isActive,Piece.char,Function.comp_def]

theorem item_chars {w : Word} {text : List Char} (known : Token.item (.word w) = some (.word text)) :
    text = w.map Piece.char := by
  simp only [Token.item,literal] at known
  split at known
  · cases known
  · cases known
    rfl

def head_items (helper : List Char) : List Item :=
  [.word "git".toList,.word "config".toList,.word "--global".toList,.word "credential.helper".toList,.word helper,
    .operator "&&".toList,.word "printf".toList]

theorem head_read (helper : List Char) : (head_tokens helper).mapM Token.item = some (head_items helper) := by
  simp only [head_tokens,head_items,List.mapM_cons,List.mapM_nil,item_bare,item_quoted]
  rfl

def tail_items (format : List Char) : List Item :=
  [.word format,.operator "|".toList,.word "git".toList,.word "credential".toList,.word "approve".toList]

/-- The reading of the script is that of what stands between its first quote and its end. -/
theorem read_script (username app_password : String) (ttl_minutes : Int) :
    read (build_credential_helper_script username app_password ttl_minutes) =
      ((finish (run ⟨.single,some [],[]⟩ (format_text username app_password ++ tail_text))).bind
        fun rest => rest.mapM Token.item).map (head_items (helper_text ttl_minutes) ++ ·) := by
  unfold PosixShell.read lex
  rw [script_parts,run_head,behind_finish]
  cases finish (run ⟨.single,some [],[]⟩ (format_text username app_password ++ tail_text)) with
  | none => rfl
  | some rest =>
    simp only [Option.map_some,Option.bind_some,List.mapM_append,head_read]
    cases rest.mapM Token.item <;> rfl

/-! ### The record -/

/-- The record that the script is to print, up to where it ends. -/
def record_text (username app_password : String) : List Char :=
  "protocol=https\nhost=bitbucket.org\n".toList ++ ("username=".toList ++ (username.toList ++
    ("\npassword=".toList ++ app_password.toList)))

theorem read_line_some {line key value : List Char} (read : read_line line = some (key,value)) : line = key ++ '=' :: value := by
  induction line generalizing key with
  | nil => cases read
  | cons c line ih =>
    unfold read_line at read
    split at read
    · next same =>
      obtain ⟨rfl,rfl⟩ := Prod.mk.inj (Option.some.inj read)
      rw [same,List.nil_append]
    · obtain ⟨⟨front,back⟩,found,same⟩ := Option.map_eq_some_iff.mp read
      obtain ⟨rfl,rfl⟩ := Prod.mk.inj same
      rw [ih found,List.cons_append]

theorem read_line_key {key : List Char} (plain : '=' ∉ key) (value : List Char) :
    read_line (key ++ '=' :: value) = some (key,value) := by
  induction key with
  | nil => exact if_pos rfl
  | cons c key ih =>
    have other : c ≠ '=' := fun same => plain (same ▸ List.mem_cons_self)
    rw [List.cons_append,read_line,if_neg other,ih fun member => plain (List.mem_cons_of_mem _ member)]
    rfl

variable {pairs : List (List Char × List Char)}

theorem read_from_cons {line text key value : List Char}
    (read : read_from line text = some ((key,value) :: pairs)) :
    ∃ front, line ++ front = key ++ '=' :: value ∧ '\n' ∉ front ∧
      ((text = front ∧ pairs = []) ∨ ∃ rest, text = front ++ '\n' :: rest ∧ read_from [] rest = some pairs) := by
  induction text generalizing line with
  | nil =>
    unfold read_from at read
    split at read
    · cases read
    · obtain ⟨pair,found,same⟩ := Option.map_eq_some_iff.mp read
      obtain ⟨rfl,rfl⟩ := List.cons.inj same
      exact ⟨[],by rw [List.append_nil,read_line_some found],List.not_mem_nil,.inl ⟨rfl,rfl⟩⟩
  | cons c text ih =>
    unfold read_from at read
    split at read
    · next newline =>
      split at read
      · cases read
      · split at read
        · next first others found behind =>
          obtain ⟨rfl,rfl⟩ := List.cons.inj (Option.some.inj read)
          refine ⟨[],by rw [List.append_nil,read_line_some found],List.not_mem_nil,.inr ⟨text,?_,behind⟩⟩
          rw [newline,List.nil_append]
        · cases read
    · next other =>
      obtain ⟨front,same,plain,ended⟩ := ih read
      refine ⟨c :: front,by simpa using same,?_,?_⟩
      · intro member
        rcases List.mem_cons.mp member with same | member
        · exact other same.symm
        · exact plain member
      · rcases ended with ⟨rfl,none⟩ | ⟨rest,rfl,behind⟩
        · exact .inl ⟨rfl,none⟩
        · exact .inr ⟨rest,rfl,behind⟩

theorem read_from_line {front : List Char} (plain : '\n' ∉ front) (line rest : List Char) (filled : line ++ front ≠ []) :
    read_from line (front ++ '\n' :: rest) = (match read_line (line ++ front),read_from [] rest with
      | some pair,some pairs => some (pair :: pairs)
      | _,_ => none) := by
  induction front generalizing line with
  | nil =>
    rw [List.append_nil] at filled ⊢
    rw [List.nil_append,read_from,if_pos rfl,if_neg filled]
  | cons c front ih =>
    have other : c ≠ '\n' := fun same => plain (same ▸ List.mem_cons_self)
    have joined : line ++ [c] ++ front = line ++ c :: front := by simp
    rw [List.cons_append,read_from,if_neg other,ih (fun member => plain (List.mem_cons_of_mem _ member)) _ (by simp),joined]

theorem read_record_line {key value : List Char} (key_plain : '=' ∉ key ∧ '\n' ∉ key) (value_plain : '\n' ∉ value)
    {rest : List Char} (behind : read_record rest = some pairs) :
    read_record (key ++ '=' :: value ++ '\n' :: rest) = some ((key,value) :: pairs) := by
  have plain : '\n' ∉ key ++ '=' :: value := by simp [key_plain.2,value_plain]
  unfold read_record at behind ⊢
  rw [read_from_line plain [] rest (by simp),List.nil_append,read_line_key key_plain.1,behind]

/-! ### Values that arrive -/

section
variable {username app_password : String}

theorem plain_kept (plain : Plain username) : ∀ c ∈ username.toList, Kept c := fun c member =>
  ⟨fun same => (plain c member).1 (.inl same),(plain c member).2⟩

theorem plain_text (plain : Plain username) : ∀ c ∈ username.toList, c ≠ '%' ∧ c ≠ '\\' := fun c member =>
  Printf.unmarked_ne (plain c member).1

theorem plain_line (plain : Plain username) : '\n' ∉ username.toList := fun member =>
  (plain _ member).1 (.inr (.inr (.inr rfl)))

private theorem append_kept {left right : List Char} (front : ∀ c ∈ left, Kept c) (back : ∀ c ∈ right, Kept c) :
    ∀ c ∈ left ++ right, Kept c := fun c member =>
  (List.mem_append.mp member).elim (front c) (back c)

theorem format_kept (plain : Plain username) (plain' : Plain app_password) :
    ∀ c ∈ format_text username app_password, Kept c := by
  have fixed : ∀ c ∈ "protocol=https\\nhost=bitbucket.org\\n".toList, Kept c := kept_of_all (by decide)
  have key : ∀ c ∈ "username=".toList, Kept c := kept_of_all (by decide)
  have between : ∀ c ∈ "\\npassword=".toList, Kept c := kept_of_all (by decide)
  exact append_kept fixed (append_kept key (append_kept (plain_kept plain) (append_kept between (plain_kept plain'))))

private theorem printf_parts (conversions : Conversions) {fixed printed key between between' closing closed : List Char}
    (first : Printf.run conversions Printf.start fixed = ⟨.text,printed⟩) (plain_key : ∀ c ∈ key, c ≠ '%' ∧ c ≠ '\\')
    (second : ∀ written, Printf.run conversions ⟨.text,written⟩ between = ⟨.text,written ++ between'⟩)
    (third : ∀ written, Printf.run conversions ⟨.text,written⟩ closing = ⟨.text,written ++ closed⟩)
    (plain : Plain username) (plain' : Plain app_password) :
    printf conversions (fixed ++ (key ++ (username.toList ++ (between ++ app_password.toList))) ++ closing) =
      some (printed ++ (key ++ (username.toList ++ (between' ++ app_password.toList))) ++ closed) := by
  rw [printf,Printf.run_append,Printf.run_append,first,Printf.run_append,Printf.run_text _ plain_key,Printf.run_append,
    Printf.run_text _ (plain_text plain),Printf.run_append,second,Printf.run_text _ (plain_text plain'),third]
  simp only [Printf.finish,List.append_assoc]

theorem printf_plain (conversions : Conversions) (plain : Plain username) (plain' : Plain app_password) :
    printf conversions (format_text username app_password ++ "\\n\\n".toList) =
      some (record_text username app_password ++ "\n\n".toList) := by
  have first : Printf.run conversions Printf.start "protocol=https\\nhost=bitbucket.org\\n".toList =
      ⟨.text,"protocol=https\nhost=bitbucket.org\n".toList⟩ := by
    have parts : "protocol=https\\nhost=bitbucket.org\\n".toList =
        ("protocol=https".toList ++ ['\\','n']) ++ ("host=bitbucket.org".toList ++ ['\\','n']) := by decide
    have joined : "protocol=https\nhost=bitbucket.org\n".toList =
        ("protocol=https".toList ++ ['\n']) ++ ("host=bitbucket.org".toList ++ ['\n']) := by decide
    rw [parts,joined,Printf.run_append,Printf.start,Printf.run_line _ (Printf.plain_of_all (by decide)),Printf.run_line _ (Printf.plain_of_all (by decide))]
    rfl
  have second : ∀ written, Printf.run conversions ⟨.text,written⟩ "\\npassword=".toList =
      ⟨.text,written ++ "\npassword=".toList⟩ := by
    intro written
    have parts : "\\npassword=".toList = ['\\','n'] ++ "password=".toList := by decide
    have joined : "\npassword=".toList = ['\n'] ++ "password=".toList := by decide
    rw [parts,joined,Printf.run_append,Printf.run_newline,Printf.run_text _ (Printf.plain_of_all (by decide)),List.append_assoc]
  have third : ∀ written, Printf.run conversions ⟨.text,written⟩ "\\n\\n".toList =
      ⟨.text,written ++ "\n\n".toList⟩ := by
    intro written
    have parts : "\\n\\n".toList = ['\\','n'] ++ ['\\','n'] := by decide
    have joined : "\n\n".toList = ['\n'] ++ ['\n'] := by decide
    rw [parts,joined,Printf.run_append,Printf.run_newline,Printf.run_newline,List.append_assoc]
  unfold format_text record_text
  exact printf_parts conversions first (Printf.plain_of_all (by decide)) second third plain plain'

private theorem record_parts {fixed key between closed k₁ v₁ k₂ v₂ k₃ k₄ : List Char} (user password : List Char)
    (first : fixed = k₁ ++ '=' :: v₁ ++ '\n' :: (k₂ ++ '=' :: v₂ ++ ['\n'])) (second : key = k₃ ++ ['='])
    (third : between = '\n' :: (k₄ ++ ['='])) (last : closed = ['\n','\n']) :
    fixed ++ (key ++ (user ++ (between ++ password))) ++ closed = k₁ ++ '=' :: v₁ ++ '\n' ::
      (k₂ ++ '=' :: v₂ ++ '\n' :: (k₃ ++ '=' :: user ++ '\n' :: (k₄ ++ '=' :: password ++ '\n' :: ['\n']))) := by
  subst first second third last
  simp

theorem record_plain (plain : Plain username) (plain' : Plain app_password) :
    read_record (record_text username app_password ++ "\n\n".toList) =
      some [("protocol".toList,"https".toList),("host".toList,"bitbucket.org".toList),("username".toList,username.toList),
        ("password".toList,app_password.toList)] := by
  have parts : record_text username app_password ++ "\n\n".toList = "protocol".toList ++ '=' :: "https".toList ++ '\n' ::
      ("host".toList ++ '=' :: "bitbucket.org".toList ++ '\n' :: ("username".toList ++ '=' :: username.toList ++ '\n' ::
        ("password".toList ++ '=' :: app_password.toList ++ '\n' :: ['\n']))) := by
    exact record_parts username.toList app_password.toList (by decide) (by decide) (by decide) (by decide)
  rw [parts]
  refine read_record_line (by decide) (by decide) (read_record_line (by decide) (by decide) (read_record_line (by decide)
    (plain_line plain) (read_record_line (by decide) (plain_line plain') ?_)))
  rfl

theorem plain_verbatim (conversions : Conversions) (plain : Plain username) (plain' : Plain app_password) (ttl_minutes : Int) :
    Verbatim conversions username app_password (build_credential_helper_script username app_password ttl_minutes) := by
  refine ⟨helper_text ttl_minutes,format_text username app_password ++ "\\n\\n".toList,_,?_,
    printf_plain conversions plain plain',record_plain plain plain'⟩
  rw [read_script,run_append,run_single _ (format_kept plain plain'),tail_single,Option.bind_some,List.nil_append,
    List.nil_append,← List.map_append]
  simp only [List.mapM_cons,List.mapM_nil,item_quoted,item_bare]
  rfl

end

/-! ### Values that do not -/

theorem read_record_cons {record key value : List Char} {pair : List Char × List Char}
    (read : read_record record = some ((key,value) :: pair :: pairs)) :
    ∃ rest, record = key ++ '=' :: value ++ '\n' :: rest ∧ '\n' ∉ value ∧ read_record rest = some (pair :: pairs) := by
  obtain ⟨front,same,plain,ended⟩ := read_from_cons read
  rw [List.nil_append] at same
  rw [same] at plain
  rcases ended with ⟨_,none⟩ | ⟨rest,parts,behind⟩
  · cases none
  · exact ⟨rest,by rw [parts,same],fun member => plain (by simp [member]),behind⟩

theorem read_record_last {record key value : List Char} (read : read_record record = some [(key,value)]) :
    ∃ rest, record = key ++ '=' :: value ++ rest ∧ '\n' ∉ value ∧ (rest = [] ∨ ∃ after, rest = '\n' :: after) := by
  obtain ⟨front,same,plain,ended⟩ := read_from_cons read
  rw [List.nil_append] at same
  rw [same] at plain
  have line : '\n' ∉ value := fun member => plain (by simp [member])
  rcases ended with ⟨parts,_⟩ | ⟨rest,parts,_⟩
  · exact ⟨[],by rw [parts,same,List.append_nil],line,.inl rfl⟩
  · exact ⟨'\n' :: rest,by rw [parts,same],line,.inr ⟨rest,rfl⟩⟩

section
variable {username app_password : String}

private theorem record_front {fixed key between k₁ v₁ k₂ v₂ k₃ k₄ : List Char} (user password rest : List Char)
    (first : fixed = k₁ ++ '=' :: v₁ ++ '\n' :: (k₂ ++ '=' :: v₂ ++ ['\n'])) (second : key = k₃ ++ ['='])
    (third : between = '\n' :: (k₄ ++ ['='])) :
    k₁ ++ '=' :: v₁ ++ '\n' :: (k₂ ++ '=' :: v₂ ++ '\n' :: (k₃ ++ '=' :: user ++ '\n' :: (k₄ ++ '=' :: password ++ rest))) =
      fixed ++ (key ++ (user ++ (between ++ password))) ++ rest := by
  subst first second third
  simp

theorem record_known {record : List Char} (recorded : read_record record = some [("protocol".toList,"https".toList),
      ("host".toList,"bitbucket.org".toList),("username".toList,username.toList),("password".toList,app_password.toList)]) :
    ∃ rest, record = record_text username app_password ++ rest ∧ '\n' ∉ username.toList ∧ '\n' ∉ app_password.toList ∧
      (rest = [] ∨ ∃ after, rest = '\n' :: after) := by
  obtain ⟨_,parts₁,_,recorded⟩ := read_record_cons recorded
  obtain ⟨_,parts₂,_,recorded⟩ := read_record_cons recorded
  obtain ⟨_,parts₃,user_line,recorded⟩ := read_record_cons recorded
  obtain ⟨rest,parts₄,password_line,ended⟩ := read_record_last recorded
  refine ⟨rest,?_,user_line,password_line,ended⟩
  rw [parts₁,parts₂,parts₃,parts₄]
  exact record_front username.toList app_password.toList rest (by decide) (by decide) (by decide)

/-! #### The marks of the texts -/

theorem format_marks (username app_password : String) :
    marks (format_text username app_password) = 3 + marks username.toList + marks app_password.toList := by
  have fixed : marks "protocol=https\\nhost=bitbucket.org\\n".toList = 2 := by decide
  have key : marks "username=".toList = 0 := by decide
  have between : marks "\\npassword=".toList = 1 := by decide
  unfold format_text
  rw [marks_append,marks_append,marks_append,marks_append,fixed,key,between]
  omega

theorem record_marks (username app_password : String) :
    marks (record_text username app_password) = 3 + marks username.toList + marks app_password.toList := by
  have fixed : marks "protocol=https\nhost=bitbucket.org\n".toList = 2 := by decide
  have key : marks "username=".toList = 0 := by decide
  have between : marks "\npassword=".toList = 1 := by decide
  unfold record_text
  rw [marks_append,marks_append,marks_append,marks_append,fixed,key,between]
  omega

theorem format_length (username app_password : String) :
    (format_text username app_password).length = (record_text username app_password).length + 3 := by
  have fixed : "protocol=https\\nhost=bitbucket.org\\n".toList.length = "protocol=https\nhost=bitbucket.org\n".toList.length + 2 := by
    decide
  have between : "\\npassword=".toList.length = "\npassword=".toList.length + 1 := by decide
  unfold format_text record_text
  simp only [List.length_append,fixed,between]
  omega

theorem format_backslashes (username app_password : String) :
    (format_text username app_password).count '\\' = 3 + username.toList.count '\\' + app_password.toList.count '\\' := by
  have fixed : "protocol=https\\nhost=bitbucket.org\\n".toList.count '\\' = 2 := by decide
  have key : "username=".toList.count '\\' = 0 := by decide
  have between : "\\npassword=".toList.count '\\' = 1 := by decide
  unfold format_text
  rw [List.count_append,List.count_append,List.count_append,List.count_append,fixed,key,between]
  omega

theorem format_values {c : Char} (absent : c ∉ format_text username app_password) :
    c ∉ username.toList ∧ c ∉ app_password.toList := by
  unfold format_text at absent
  exact ⟨fun member => absent (List.mem_append_right _ (List.mem_append_right _ (List.mem_append_left _ member))),
    fun member => absent (List.mem_append_right _ (List.mem_append_right _ (List.mem_append_right _
      (List.mem_append_right _ member))))⟩

theorem texts_last (username app_password : String) :
    (format_text username app_password).getLast? = ("password=".toList ++ app_password.toList).getLast? ∧
      (record_text username app_password).getLast? = ("password=".toList ++ app_password.toList).getLast? := by
  have filled : "password=".toList ++ app_password.toList ≠ [] := fun empty => nomatch (List.append_eq_nil_iff.mp empty).1
  have format : "\\npassword=".toList = "\\n".toList ++ "password=".toList := by decide
  have record : "\npassword=".toList = "\n".toList ++ "password=".toList := by decide
  unfold format_text record_text
  rw [format,record,List.append_assoc,List.append_assoc]
  constructor
  · rw [← List.append_assoc,← List.append_assoc,← List.append_assoc]
    exact List.getLast?_append_of_ne_nil _ filled
  · rw [← List.append_assoc,← List.append_assoc,← List.append_assoc]
    exact List.getLast?_append_of_ne_nil _ filled

/-! #### The format that is read -/

theorem mapM_length {α β : Type} {f : α → Option β} {items : List α} {values : List β} (known : items.mapM f = some values) :
    values.length = items.length := by
  induction items generalizing values with
  | nil => cases known; rfl
  | cons item items ih =>
    rw [List.mapM_cons] at known
    obtain ⟨value,_,known⟩ := Option.bind_eq_some_iff.mp known
    obtain ⟨rest,found,known⟩ := Option.bind_eq_some_iff.mp known
    cases known
    rw [List.length_cons,List.length_cons,ih found]

theorem mapM_first {α β : Type} {f : α → Option β} {items : List α} {value : β} {values : List β}
    (known : items.mapM f = some (value :: values)) : ∃ item rest, items = item :: rest ∧ f item = some value := by
  cases items with
  | nil => cases known
  | cons item items =>
    rw [List.mapM_cons] at known
    obtain ⟨first,found,known⟩ := Option.bind_eq_some_iff.mp known
    obtain ⟨rest,_,known⟩ := Option.bind_eq_some_iff.mp known
    cases known
    exact ⟨item,items,rfl,found⟩

theorem item_word {token : Token} {text : List Char} (known : token.item = some (.word text)) : text = token.chars := by
  cases token with
  | word w => exact item_chars known
  | number w => cases known
  | operator other => cases known

theorem weight_member (f : Char → Nat) {token : Token} {tokens : List Token} (member : token ∈ tokens) :
    weight f token.chars ≤ weight f (tokens.flatMap Token.chars) := by
  obtain ⟨before,after,rfl⟩ := List.append_of_mem member
  simp only [List.flatMap_append,List.flatMap_cons,weight_append]
  omega

/-- What is read behind the first quote, by whether a quote ends it: it is the text itself, or
    at least one quote of the text is lost. -/
theorem load_quoted {text : List Char} (whole : '\x00' ∉ text) :
    ('\'' ∉ text ∧ run ⟨.single,some [],[]⟩ text = ⟨.single,some (text.map .quoted),[]⟩) ∨
      (run ⟨.single,some [],[]⟩ text).load mark + 1 ≤ marks text := by
  by_cases quote : '\'' ∈ text
  · obtain ⟨front,rest,rfl,plain⟩ := List.eq_append_cons_of_mem quote
    have kept : ∀ c ∈ front, Kept c := fun c member =>
      ⟨fun same => plain (same ▸ member),fun same => whole (List.mem_append_left _ (same ▸ member))⟩
    have closed : step ⟨.single,some ([] ++ front.map .quoted),[]⟩ '\'' = ⟨.plain,some (front.map .quoted),[]⟩ := rfl
    have held : (⟨.plain,some (front.map .quoted),[]⟩ : State).load mark = marks front := by
      simp [State.load,State.chars,pending,marks,Piece.char,Function.comp_def]
    have bound := load_run mark ⟨.plain,some (front.map .quoted),[]⟩ rest
    have one : mark '\'' = 1 := rfl
    rw [held] at bound
    refine .inr ?_
    rw [run_append,run_single _ kept,run_cons,closed]
    unfold marks at bound ⊢
    rw [weight_append,weight_cons,one]
    omega
  · have kept : ∀ c ∈ text, Kept c := fun c member =>
      ⟨fun same => quote (same ▸ member),fun same => whole (same ▸ member)⟩
    exact .inl ⟨quote,run_single text kept [] []⟩

/-- The format that the shell reads: the text with its two newlines, a text that has lost two
    marks besides, or one that ends before and has lost one. -/
theorem format_read {text format : List Char} {tokens : List Token}
    (read : finish (run ⟨.single,some [],[]⟩ (text ++ tail_text)) = some tokens)
    (items : tokens.mapM Token.item = some (tail_items format)) :
    ('\'' ∉ text ∧ format = text ++ "\\n\\n".toList) ∨
      (∃ front, format = front ++ "\\n\\n".toList ∧ marks format ≤ marks text) ∨ marks format + 1 ≤ marks text := by
  have whole : '\x00' ∉ text := fun member => whole_of_finish read (List.mem_append_left _ member)
  have lost := load_quoted whole
  rw [run_append] at read
  generalize run ⟨.single,some [],[]⟩ text = s at read lost
  obtain ⟨token,others,first,is_format⟩ := mapM_first items
  obtain ⟨mode,word,before⟩ := s
  rcases tail_modes read with single | ⟨comment,same⟩
  · obtain rfl : mode = .single := single
    rw [tail_any,tail_single] at read
    obtain rfl := Option.some.inj read
    have alone : before = [] := by
      have lengths := mapM_length items
      simp [tail_items] at lengths
      exact lengths
    subst alone
    obtain ⟨rfl,_⟩ := List.cons.inj first
    have known : format = (word.getD []).map Piece.char ++ "\\n\\n".toList := by
      rw [item_chars is_format,List.map_append]
      rfl
    rcases lost with ⟨plain,same⟩ | lost
    · obtain ⟨_,rfl,_⟩ := State.mk.inj same
      refine .inl ⟨plain,?_⟩
      rw [known]
      simp [Piece.char,Function.comp_def]
    · refine .inr (.inl ⟨_,known,?_⟩)
      have two : marks "\\n\\n".toList = 2 := by decide
      have held : State.load mark ⟨.single,word,[]⟩ = marks ((word.getD []).map Piece.char) + 1 := rfl
      rw [known,marks_append,two]
      omega
  · obtain rfl : mode = .comment := comment
    rcases lost with ⟨_,same⟩ | lost
    · cases (State.mk.inj same).1
    · refine .inr (.inr ?_)
      have part := weight_member mark (first ▸ List.mem_cons_self : token ∈ tokens)
      have all : weight mark (tokens.flatMap Token.chars) = State.load mark ⟨.comment,word,before⟩ := by
        have flushed := weight_flush mark ⟨.comment,word,before⟩ .plain
        rw [State.chars,← same] at flushed
        simpa [State.flush,State.load,pending] using flushed
      rw [all,← item_word is_format] at part
      exact (Nat.succ_le_succ part).trans lost

/-! #### Where the record ends -/

theorem printf_ends {conversions : Conversions} {front out : List Char}
    (printed : printf conversions (front ++ "\\n\\n".toList) = some out) :
    (∃ written, out = written ++ ['\n','\n']) ∨
      (front.getLast? = some '\\' ∧ (∃ written, out = written ++ ['\\','n','\n']) ∧ marks out ≤ marks front + 1) := by
  rw [printf,Printf.run_append] at printed
  have kept := Printf.run_kept conversions front
  have last := @Printf.escape_last conversions front
  generalize Printf.run conversions Printf.start front = s at printed kept last
  obtain ⟨place,written⟩ := s
  cases place with
  | text =>
    have out_is : some (written ++ ['\n'] ++ ['\n']) = some out := printed
    exact .inl ⟨written,(Option.some.inj out_is).symm.trans (List.append_assoc ..)⟩
  | octal value digits =>
    have out_is : some (written ++ [Printf.octal_char value] ++ ['\n'] ++ ['\n']) = some out := printed
    exact .inl ⟨_,(Option.some.inj out_is).symm.trans (List.append_assoc ..)⟩
  | escape =>
    have carried : some (written ++ ['\\'] ++ ['n'] ++ ['\n']) = some out := printed
    have out_is : out = written ++ ['\\','n','\n'] := (Option.some.inj carried).symm.trans (by simp)
    refine .inr ⟨last rfl,⟨written,out_is⟩,?_⟩
    have le := (kept nofun).le
    have two : marks ['\\','n','\n'] = 2 := by decide
    simp only [Printf.held] at le
    rw [out_is,marks_append,two]
    omega
  | conversion read => cases (show none = some out from printed)
  | failed => cases (show none = some out from printed)

theorem record_open (password_line : '\n' ∉ app_password.toList) : (record_text username app_password).getLast? ≠ some '\n' := by
  intro newline
  rw [(texts_last username app_password).2] at newline
  rcases List.mem_append.mp (List.mem_of_getLast? newline) with fixed | member
  · exact absurd fixed (by decide)
  · exact password_line member

theorem marks_pos {rest : List Char} (newline : ∃ after, rest = '\n' :: after) : 1 ≤ marks rest := by
  obtain ⟨after,rfl⟩ := newline
  have one : mark '\n' = 1 := rfl
  rw [marks,weight_cons,one]
  omega

theorem two_newlines {text rest written : List Char} (open_text : text.getLast? ≠ some '\n')
    (same : text ++ rest = written ++ ['\n','\n']) : 2 ≤ marks rest ∧ 2 ≤ rest.length := by
  have two : marks ['\n','\n'] = 2 := by decide
  rcases List.append_eq_append_iff.mp same with ⟨more,_,rfl⟩ | ⟨part,rfl,split⟩
  · simp [two]
  · match part,split with
    | [],split => rw [List.nil_append] at split; subst split; exact ⟨two.ge,le_rfl⟩
    | [c],split =>
      obtain ⟨rfl,_⟩ := List.cons.inj split
      exact absurd List.getLast?_concat open_text
    | [c,d],split =>
      obtain ⟨_,split⟩ := List.cons.inj split
      obtain ⟨rfl,_⟩ := List.cons.inj split
      exact absurd (by simp) open_text
    | c :: d :: e :: more,split => exact nomatch (List.cons.inj (List.cons.inj split).2).2

theorem backslash_newline {text rest written : List Char} (last : text.getLast? = some '\\')
    (ended : rest = [] ∨ ∃ after, rest = '\n' :: after) (same : text ++ rest = written ++ ['\\','n','\n']) : 2 ≤ marks rest := by
  have two : marks ['\\','n','\n'] = 2 := by decide
  rcases List.append_eq_append_iff.mp same with ⟨more,_,rfl⟩ | ⟨part,rfl,split⟩
  · simp [two]
  · match part,split with
    | [],split => rw [List.nil_append] at split; subst split; exact two.ge
    | [c],split =>
      obtain ⟨_,rfl⟩ := List.cons.inj split
      rcases ended with none | ⟨_,newline⟩
      · cases none
      · exact nomatch (List.cons.inj newline).1
    | [c,d],split =>
      obtain ⟨_,split⟩ := List.cons.inj split
      obtain ⟨rfl,_⟩ := List.cons.inj split
      exact absurd last (by simp)
    | [c,d,e],split =>
      obtain ⟨_,split⟩ := List.cons.inj split
      obtain ⟨_,split⟩ := List.cons.inj split
      obtain ⟨rfl,_⟩ := List.cons.inj split
      exact absurd last (by simp)
    | c :: d :: e :: f :: more,split => exact nomatch (List.cons.inj (List.cons.inj (List.cons.inj split).2).2).2

theorem plain_of_absent {value : String} (quote : '\'' ∉ value.toList) (percent : '%' ∉ value.toList)
    (backslash : '\\' ∉ value.toList) (newline : '\n' ∉ value.toList) (null : '\x00' ∉ value.toList) : Plain value := by
  intro c member
  refine ⟨?_,fun same => null (same ▸ member)⟩
  rintro (rfl | rfl | rfl | rfl)
  · exact quote member
  · exact percent member
  · exact backslash member
  · exact newline member

theorem verbatim_plain {conversions : Conversions} {ttl_minutes : Int}
    (verbatim : Verbatim conversions username app_password (build_credential_helper_script username app_password ttl_minutes)) :
    Plain username ∧ Plain app_password := by
  obtain ⟨helper,format,record,reads,printed,recorded⟩ := verbatim
  obtain ⟨rest,rfl,user_line,password_line,ended⟩ := record_known recorded
  rw [read_script] at reads
  obtain ⟨items,known,joined⟩ := Option.map_eq_some_iff.mp reads
  obtain ⟨tokens,read,items_known⟩ := Option.bind_eq_some_iff.mp known
  obtain ⟨_,rfl⟩ : head_items (helper_text ttl_minutes) = head_items helper ∧ items = tail_items format :=
    List.append_inj joined rfl
  have whole : '\x00' ∉ format_text username app_password := fun member =>
    whole_of_finish read (List.mem_append_left _ member)
  have still := @record_open username _ password_line
  obtain ⟨le,exact⟩ := Printf.printf_kept printed
  rw [marks_append,record_marks] at le exact
  have all := format_marks username app_password
  have two : marks "\\n\\n".toList = 2 := by decide
  rcases format_read read items_known with ⟨quote,rfl⟩ | ⟨front,rfl,lost⟩ | lost
  · rcases printf_ends printed with ⟨written,same⟩ | ⟨last,⟨written,same⟩,short⟩
    · obtain ⟨more,long⟩ := two_newlines still same
      rw [marks_append,two] at le exact
      obtain ⟨percent,length⟩ := exact (by omega)
      have backslashes := format_backslashes username app_password
      have lengths := format_length username app_password
      have closing : "\\n\\n".toList.length = 4 ∧ "\\n\\n".toList.count '\\' = 2 := by decide
      rw [List.length_append,List.length_append,List.count_append,closing.1,closing.2] at length
      have no_percent := format_values fun member =>
        absurd percent (List.count_pos_iff.mpr (List.mem_append_left _ member)).ne'
      have no_quote := format_values quote
      have no_null := format_values whole
      have user_bare : username.toList.count '\\' = 0 := by omega
      have password_bare : app_password.toList.count '\\' = 0 := by omega
      exact ⟨plain_of_absent no_quote.1 no_percent.1 (List.count_eq_zero.mp user_bare) user_line no_null.1,
        plain_of_absent no_quote.2 no_percent.2 (List.count_eq_zero.mp password_bare) password_line no_null.2⟩
    · rw [marks_append,record_marks] at short
      rw [(texts_last username app_password).1] at last
      have more := backslash_newline ((texts_last username app_password).2.trans last) ended same
      omega
  · have none : rest = [] := by
      rcases ended with none | newline
      · exact none
      · have := marks_pos newline
        omega
    subst none
    rw [List.append_nil] at printed
    rcases printf_ends printed with ⟨written,same⟩ | ⟨_,⟨written,same⟩,_⟩
    · exact absurd (by rw [same]; simp) still
    · exact absurd (by rw [same]; simp) still
  · omega

end

/-! ### The script -/

/-- For all values and whatever the conversions print: the values arrive verbatim exactly
    where they are plain. -/
theorem script_verbatim (conversions : Conversions) (username app_password : String) (ttl_minutes : Int) :
    Verbatim conversions username app_password (build_credential_helper_script username app_password ttl_minutes) ↔
      Plain username ∧ Plain app_password :=
  ⟨verbatim_plain,fun plain => plain_verbatim conversions plain.1 plain.2 ttl_minutes⟩

/-- Without flags: a text prints nothing, a number prints `0`. -/
def print_unpadded (conversion : List Char) : Option (List Char) :=
  if [['s'],['b'],['c']].contains conversion then some []
  else if [['d'],['i'],['o'],['u'],['x'],['X']].contains conversion then some ['0'] else none

theorem unpadded_unmarked (conversion text : List Char) (printed : print_unpadded conversion = some text) :
    ∀ c ∈ text, ¬ Marked c := by
  unfold print_unpadded at printed
  split_ifs at printed
  · cases printed
    exact fun c member => absurd member List.not_mem_nil
  · cases printed
    intro c member
    rw [List.mem_singleton.mp member]
    decide

def unpadded : Conversions := ⟨print_unpadded,unpadded_unmarked⟩

set_option maxRecDepth 4000 in
/-- A password with a quote: the shell reads nothing of the script. -/
theorem quoted_password :
    ¬ Verbatim unpadded "build-bot" "it's" (build_credential_helper_script "build-bot" "it's" 15) := by
  have lost : read (build_credential_helper_script "build-bot" "it's" 15) = none := by decide
  rintro ⟨helper,format,record,reads,_⟩
  rw [lost] at reads
  cases reads

end Automation.CredentialScript
