import Automation.Masking
import Automation.PyText

/-!
`redaction.py`: credentials are masked in log texts by eleven patterns, one after the other. Each
substitution hides what it found behind a mark that no pattern reads past, and no pattern begins
within what another one has written, so none of them brings back a match of an earlier one
(`redact_text_clean`).
-/
namespace Automation.Redaction
open Automation.Masking Automation.PyText Automation.Substitution

def REDACTION_PLACEHOLDER : String := "***REDACTED***"

/-- A pattern without a group, or `((?i:KEY))=[^\s&,;]+`. -/
inductive RedactionPattern where
  | plain (pieces : List Piece)
  | keyed (key : String)

/-- `(?i:text)`. -/
def ignoring (text : String) : List Piece := text.toList.map fun letter => .once (ignoreCase letter.toLower)

def literal (text : String) : List Piece := text.toList.map fun letter => .once (· == letter)

/-- `[^\s&,;]`. -/
def value_char (c : Char) : Bool := !(isSpace c || c == '&' || c == ',' || c == ';')

/-- `[A-Za-z0-9_\-]`. -/
def token_char (c : Char) : Bool := c.isAlphanum || c == '_' || c == '-'

def RedactionPattern.pieces : RedactionPattern → List Piece
  | .plain pieces => pieces
  | .keyed key => ignoring key ++ literal "=" ++ [.atLeast 1 value_char]

def RedactionPattern.groups : RedactionPattern → Nat
  | .plain _ => 0
  | .keyed _ => 1

def kv_pattern (key : String) : RedactionPattern := .keyed key

/-- `sk-ant-[A-Za-z0-9_\-]{16,}` and its like. -/
def key_pattern (head : String) (tail : Piece) : RedactionPattern := .plain (literal head ++ [tail])

def REDACTION_PATTERNS : List RedactionPattern :=
  [.plain (ignoring "Authorization" ++ literal ":" ++ [.atLeast 0 isSpace] ++ ignoring "Basic" ++
      [.atLeast 1 isSpace] ++ [.atLeast 1 fun c => !isSpace c]),
    .plain (ignoring "Bearer" ++ [.atLeast 1 isSpace] ++ [.atLeast 1 fun c => !isSpace c]),
    kv_pattern "api_token",
    kv_pattern "password",
    kv_pattern "secret",
    key_pattern "sk-ant-" (.atLeast 16 token_char),
    key_pattern "sk-proj-" (.atLeast 16 token_char),
    key_pattern "sk-live-" (.atLeast 16 token_char),
    key_pattern "sk-test-" (.atLeast 16 token_char),
    key_pattern "sk-" (.atLeast 20 Char.isAlphanum),
    key_pattern "AIza" (.atLeast 30 token_char)]

/-- What is written for a match: the placeholder, after `\1=` where the pattern has a group. -/
def RedactionPattern.write : RedactionPattern → List (List Char) → List Char
  | .plain _, _ => REDACTION_PLACEHOLDER.toList
  | .keyed key, words => (words.take key.toList.length).flatten ++ '=' :: REDACTION_PLACEHOLDER.toList

/-- `pattern.match(text)`. -/
def RedactionPattern.search (pattern : RedactionPattern) : List Char → Option (List (List Char) × List Char) :=
  Masking.search pattern.pieces

/-- `pattern.sub(replacement, text)`. -/
def RedactionPattern.sub (pattern : RedactionPattern) : List Char → List Char :=
  Substitution.sub (pattern.pieces.map Piece.pattern) pattern.write

def redact_text (text : String) : String :=
  if text.isEmpty then text
  else .ofList (REDACTION_PATTERNS.foldl (fun out pattern => pattern.sub out) text.toList)

/-- The characters a letter of a key matches. -/
def variants (letter : Char) : List Char :=
  [letter,letter.toUpper] ++ (if letter = 'i' then ['İ','ı'] else []) ++ (if letter = 's' then ['ſ'] else []) ++
    (if letter = 'k' then [Char.ofNat 0x212a] else [])

/-- What a replacement consists of. -/
def RedactionPattern.shape : RedactionPattern → List (List Char)
  | .plain _ => REDACTION_PLACEHOLDER.toList.map fun c => [c]
  | .keyed key => (key.toList.map fun letter => variants letter.toLower) ++ ['='] :: REDACTION_PLACEHOLDER.toList.map fun c => [c]

/-- A capital letter is that of its small one. -/
theorem upper_of_lower {c : Char} (upper : c.val ≥ 'A'.val ∧ c.val ≤ 'Z'.val) : c = c.toLower.toUpper := by
  have first : 65 ≤ c.val.toNat := UInt32.le_iff_toNat_le.mp upper.1
  have last : c.val.toNat ≤ 90 := UInt32.le_iff_toNat_le.mp upper.2
  have lowered : c.toLower.val = c.val + 32 := by
    delta Char.toLower
    rw [dif_pos upper]
    rfl
  have number : c.toLower.val.toNat = c.val.toNat + 32 := by
    rw [lowered,UInt32.toNat_add]
    show (c.val.toNat + 32) % 2 ^ 32 = _
    omega
  have small : 'a'.val ≤ c.toLower.val ∧ c.toLower.val ≤ 'z'.val := by
    rw [UInt32.le_iff_toNat_le,UInt32.le_iff_toNat_le,number]
    show 97 ≤ _ ∧ _ ≤ 122
    omega
  have raised : c.toLower.toUpper.val = c.toLower.val + ('A'.val - 'a'.val) := by
    delta Char.toUpper
    rw [dif_pos small]
  apply Char.ext
  apply UInt32.toNat_inj.mp
  rw [raised,UInt32.toNat_add,number]
  show _ = (c.val.toNat + 32 + 4294967264) % 2 ^ 32
  omega

theorem mem_variants {letter c : Char} (same : ignoreCase letter c = true) : c ∈ variants letter := by
  have lowered : c.toLower = letter → c = letter ∨ c = letter.toUpper := by
    rintro rfl
    by_cases upper : c.val ≥ 'A'.val ∧ c.val ≤ 'Z'.val
    · exact .inr (upper_of_lower upper)
    · exact .inl (dif_neg upper : c.toLower = c).symm
  simp only [ignoreCase,Bool.or_eq_true,Bool.and_eq_true,beq_iff_eq] at same
  rcases same with ((same | ⟨rfl,same⟩) | ⟨rfl,rfl⟩) | ⟨rfl,rfl⟩
  · rcases lowered same with rfl | rfl
    · exact List.mem_cons_self
    · simp [variants]
  · rcases same with rfl | rfl <;> decide
  · decide
  · decide

theorem placeholder_nonempty : REDACTION_PLACEHOLDER.toList ≠ [] := by
  decide

theorem placeholder_value : ∀ c ∈ REDACTION_PLACEHOLDER.toList, value_char c = true := List.all_eq_true.mp rfl

/-- What a match begins with is no separator. -/
def Starts (pieces : List Piece) : Prop :=
  ∃ letter p rest, pieces = .once p :: rest ∧ (∀ c, p c = true → c ∈ variants letter) ∧
    ∀ c ∈ variants letter, value_char c = true

theorem starts_ignoring (letter : Char) (rest : List Piece) (inside : (variants letter).all value_char = true) :
    Starts (.once (ignoreCase letter) :: rest) := ⟨letter,_,rest,rfl,fun _ => mem_variants,List.all_eq_true.mp inside⟩

theorem starts_literal (letter : Char) (rest : List Piece) (inside : (variants letter).all value_char = true) :
    Starts (.once (· == letter) :: rest) := by
  refine ⟨letter,_,rest,rfl,fun c same => ?_,List.all_eq_true.mp inside⟩
  rw [eq_of_beq same]
  exact List.mem_cons_self

theorem patterns_start : ∀ pattern ∈ REDACTION_PATTERNS, Starts pattern.pieces := by
  have a rest := starts_ignoring 'a' rest (by decide)
  have p rest := starts_ignoring 'p' rest (by decide)
  have s rest := starts_ignoring 's' rest (by decide)
  have sk rest := starts_literal 's' rest (by decide)
  intro pattern member
  simp only [REDACTION_PATTERNS,List.mem_cons,List.not_mem_nil,or_false] at member
  rcases member with rfl | rfl | rfl | rfl | rfl | rfl | rfl | rfl | rfl | rfl | rfl
  · exact a _
  · exact starts_ignoring 'b' _ (by decide)
  · exact a _
  · exact p _
  · exact s _
  · exact sk _
  · exact sk _
  · exact sk _
  · exact sk _
  · exact sk _
  · exact starts_literal 'A' _ (by decide)

/-- A run reads past the placeholder only where it reads past every value. -/
theorem patterns_blind : ∀ pattern ∈ REDACTION_PATTERNS, Blind '*' value_char pattern.pieces := by
  have spaces : ∀ d, value_char d = true → (!isSpace d) = true := by
    intro d value
    cases space : isSpace d with
    | false => rfl
    | true =>
      rw [value_char,space] at value
      cases value
  have header {front} (refuses : ∀ piece ∈ front, piece.test '*' = false) :
      Blind '*' value_char (front ++ [.atLeast 1 fun c => !isSpace c]) :=
    blind_append refuses (.inr ⟨spaces,Nat.le_refl 1,rfl⟩)
  have keyed {front} (refuses : ∀ piece ∈ front, piece.test '*' = false) :
      Blind '*' value_char (front ++ [.atLeast 1 value_char]) :=
    blind_append refuses (.inr ⟨fun _ value => value,Nat.le_refl 1,rfl⟩)
  intro pattern member
  simp only [REDACTION_PATTERNS,List.mem_cons,List.not_mem_nil,or_false] at member
  rcases member with rfl | rfl | rfl | rfl | rfl | rfl | rfl | rfl | rfl | rfl | rfl
  · exact header (by decide)
  · exact header (by decide)
  · exact keyed (by decide)
  · exact keyed (by decide)
  · exact keyed (by decide)
  · exact blind_of_refuses (by decide)
  · exact blind_of_refuses (by decide)
  · exact blind_of_refuses (by decide)
  · exact blind_of_refuses (by decide)
  · exact blind_of_refuses (by decide)
  · exact blind_of_refuses (by decide)

/-- No pattern begins behind the first character of what another one, or itself, has written. -/
theorem excludes_tails : ∀ p ∈ REDACTION_PATTERNS, ∀ q ∈ REDACTION_PATTERNS,
    ∀ tail ∈ p.shape.tails.tail, tail = [] ∨ excludes q.pieces tail = true := by
  decide

theorem excludes_placeholder : ∀ p ∈ REDACTION_PATTERNS, p.groups = 0 → excludes p.pieces p.shape = true := by
  decide

theorem excludes_keys : REDACTION_PATTERNS.Pairwise fun q p => q.groups = 1 → excludes p.pieces q.shape = true := by
  decide

variable {text rest : List Char} {words : List (List Char)}

theorem search_ignoring {letters : List Char} {pieces : List Piece} :
    Masking.search (letters.map (fun letter => .once (ignoreCase letter.toLower)) ++ pieces) text = some (words,rest) ↔
      ∃ name after others, text = name ++ after ∧
        List.Forall₂ (fun c letter => ignoreCase (Char.toLower letter) c = true) name letters ∧
        Masking.search pieces after = some (others,rest) ∧ words = name.map (fun c => [c]) ++ others := by
  induction letters generalizing text words with
  | nil =>
    constructor
    · intro found
      exact ⟨[],text,words,rfl,.nil,found,rfl⟩
    · rintro ⟨name,after,others,rfl,each,found,rfl⟩
      cases each
      exact found
  | cons letter letters ih =>
    rw [List.map_cons,List.cons_append,search_once]
    constructor
    · rintro ⟨c,cs,others,rfl,accepts,found,rfl⟩
      obtain ⟨name,after,last,rfl,each,later,rfl⟩ := ih.mp found
      exact ⟨c :: name,after,last,rfl,.cons accepts each,later,rfl⟩
    · rintro ⟨name,after,others,rfl,each,found,rfl⟩
      cases each with
      | @cons c _ name _ accepts each =>
        exact ⟨c,name ++ after,_,rfl,accepts,ih.mpr ⟨name,after,others,rfl,each,found,rfl⟩,rfl⟩

theorem search_keyed {key : String} :
    (RedactionPattern.keyed key).search text = some (words,rest) ↔
      ∃ name value, text = name ++ '=' :: (value ++ rest) ∧ words = name.map (fun c => [c]) ++ [['='],value] ∧
        List.Forall₂ (fun c letter => ignoreCase (Char.toLower letter) c = true) name key.toList ∧
        value ≠ [] ∧ (∀ c ∈ value, value_char c = true) ∧ Stops value_char rest := by
  rw [RedactionPattern.search,RedactionPattern.pieces,List.append_assoc,ignoring,search_ignoring]
  change (∃ name after others, text = name ++ after ∧ _ ∧
    Masking.search (.once (· == '=') :: [.atLeast 1 value_char]) after = some (others,rest) ∧ _) ↔ _
  constructor
  · rintro ⟨name,after,others,rfl,each,found,rfl⟩
    obtain ⟨c,cs,last,rfl,sign,behind,rfl⟩ := search_once.mp found
    obtain ⟨value,rfl,rfl,some_value,all,stops⟩ := search_last.mp behind
    rw [eq_of_beq sign]
    exact ⟨name,value,rfl,rfl,each,List.length_pos_iff.mp some_value,all,stops⟩
  · rintro ⟨name,value,rfl,rfl,each,some_value,all,stops⟩
    refine ⟨name,_,_,rfl,each,search_once.mpr ⟨'=',value ++ rest,[value],rfl,rfl,?_,rfl⟩,rfl⟩
    exact search_last.mpr ⟨value,rfl,rfl,List.length_pos_iff.mpr some_value,all,stops⟩

theorem letters_flatten (name : List Char) : (name.map fun c => [c]).flatten = name := by
  induction name with
  | nil => rfl
  | cons c name ih => rw [List.map_cons,List.flatten_cons,ih]; rfl

theorem write_keyed {key : String} {name value : List Char} (length : name.length = key.toList.length) :
    (RedactionPattern.keyed key).write (name.map (fun c => [c]) ++ [['='],value]) =
      name ++ '=' :: REDACTION_PLACEHOLDER.toList := by
  have front : (name.map (fun c => [c]) ++ [['='],value]).take key.toList.length = name.map fun c => [c] := by
    rw [← length,← List.length_map (fun c => [c]),List.take_left]
  rw [RedactionPattern.write,front,letters_flatten]

theorem made_of_itself (word : List Char) : Of (word.map fun c => [c]) word := by
  induction word with
  | nil => exact .nil
  | cons c word ih => exact .cons List.mem_cons_self ih

theorem made_of_key {key : String} {name : List Char}
    (each : List.Forall₂ (fun c letter => ignoreCase (Char.toLower letter) c = true) name key.toList) :
    Of (RedactionPattern.keyed key).shape (name ++ '=' :: REDACTION_PLACEHOLDER.toList) := by
  change Of (key.toList.map (fun letter => variants letter.toLower) ++ _) _
  generalize key.toList = letters at each
  induction each with
  | nil => exact .cons List.mem_cons_self (made_of_itself _)
  | cons same each ih => exact .cons (mem_variants same) ih

theorem write_shape {pattern : RedactionPattern}
    (found : pattern.search text = some (words,rest)) : Of pattern.shape (pattern.write words) := by
  cases pattern with
  | plain pieces => exact made_of_itself _
  | keyed key =>
    obtain ⟨name,value,-,rfl,each,-,-,-⟩ := search_keyed.mp found
    rw [write_keyed each.length_eq]
    exact made_of_key each

/-- A match keeps its key, if there is one, and hides a character that is no separator. -/
theorem conceals {pattern : RedactionPattern} (starts : Starts pattern.pieces)
    (found : pattern.search text = some (words,rest)) :
    ∃ kept d taken more, words.flatten = kept ++ d :: taken ∧ value_char d = true ∧ pattern.write words = kept ++ '*' :: more := by
  cases pattern with
  | plain pieces =>
    obtain ⟨letter,p,others,same,reads,inside⟩ := starts
    change pieces = .once p :: others at same
    subst same
    obtain ⟨c,cs,last,-,accepts,-,rfl⟩ := search_once.mp found
    exact ⟨[],c,last.flatten,_,rfl,inside c (reads c accepts),rfl⟩
  | keyed key =>
    obtain ⟨name,value,-,rfl,each,some_value,all,-⟩ := search_keyed.mp found
    cases value with
    | nil => exact absurd rfl some_value
    | cons d value =>
      refine ⟨name ++ ['='],d,value,"**REDACTED***".toList,?_,all d List.mem_cons_self,?_⟩
      · rw [List.flatten_append,letters_flatten]
        simp
      · rw [write_keyed each.length_eq,List.append_assoc]
        rfl

/-- The match is of a key whose value is the placeholder. -/
def RedactionPattern.Redacted : RedactionPattern → List (List Char) → Prop
  | .plain _, _ => False
  | .keyed _, words => words.getLast? = some REDACTION_PLACEHOLDER.toList

/-- Wherever the pattern matches in the text, the value has been redacted. -/
def RedactionPattern.Clean (pattern : RedactionPattern) (text : List Char) : Prop :=
  ∀ after words rest, after <:+ text → pattern.search after = some (words,rest) → pattern.Redacted words

section
variable {p q : RedactionPattern}

theorem search_nonempty (starts : Starts p.pieces) (text : List Char) (words : List (List Char)) (rest : List Char)
    (found : p.search text = some (words,rest)) : words.flatten ≠ [] := by
  obtain ⟨kept,d,taken,more,same,-,-⟩ := conceals starts found
  rw [same]
  exact List.append_ne_nil_of_right_ne_nil kept (List.cons_ne_nil d taken)

theorem search_separator (starts : Starts p.pieces) {c : Char} (separator : value_char c = false) (cs : List Char) :
    p.search (c :: cs) = none := by
  obtain ⟨letter,test,others,same,reads,inside⟩ := starts
  refine search_none.mpr fun front => ?_
  rw [same] at front
  cases front with
  | once accepts later =>
    rw [inside c (reads c accepts)] at separator
    cases separator

theorem stops_sub (starts : Starts p.pieces) {text : List Char} (stops : Stops value_char text) :
    Stops value_char (p.sub text) := by
  cases text with
  | nil => exact stops
  | cons c cs =>
    have kept : p.sub (c :: cs) = c :: p.sub cs := sub_kept (search_separator starts (stops c rfl) cs)
    rw [kept]
    exact stops

theorem sub_masked (starts : Starts p.pieces) (text : List Char) : Masked '*' value_char (p.sub text) text :=
  masked_sub (fun _ _ _ => conceals starts) text

/-- Behind its first character no pattern begins in what is written. -/
theorem none_within (tails : ∀ tail ∈ p.shape.tails.tail, tail = [] ∨ excludes q.pieces tail = true)
    {kept part : List Char} (made : Of p.shape (kept ++ part)) (some_kept : kept ≠ []) (some_part : part ≠ [])
    (after : List Char) : q.search (part ++ after) = none := by
  refine search_none.mpr ?_
  have made_part := List.forall₂_drop kept.length made
  rw [List.drop_left] at made_part
  have inner : p.shape.drop kept.length ∈ p.shape.tails.tail := by
    cases kept with
    | nil => exact absurd rfl some_kept
    | cons c kept =>
      cases sets : p.shape with
      | nil =>
        rw [sets] at made
        cases made
      | cons set others => exact (List.mem_tails _ _).mpr (List.drop_suffix kept.length others)
  rcases tails _ inner with empty | excluded
  · rw [empty] at made_part
    cases made_part
    exact absurd rfl some_part
  · exact not_front after excluded made_part

theorem redacted_keyed {key : String} {name value : List Char} :
    (RedactionPattern.keyed key).Redacted (name.map (fun c => [c]) ++ [['='],value]) ↔
      value = REDACTION_PLACEHOLDER.toList := by
  simp [RedactionPattern.Redacted]

/-- A substitution leaves no match of its own pattern, its own placeholders apart. -/
theorem clean_sub (member : p ∈ REDACTION_PATTERNS) (text : List Char) : p.Clean (p.sub text) := by
  have starts := patterns_start p member
  intro after words rest ending found
  rcases suffix_sub (search_nonempty starts) ending with ⟨place,inside,rfl⟩ | ⟨place,before,left,kept,part,inside,known,some_kept,some_part,written,rfl⟩
  · have front := front_masked (sub_masked starts place) (patterns_blind p member) (front_of_search found)
    obtain ⟨⟨before,left⟩,known⟩ := Option.isSome_iff_exists.mp (search_isSome.mpr front)
    have replaced : p.sub place = p.write before ++ p.sub left := sub_found (search_nonempty starts) known
    change p.search (p.sub place) = some (words,rest) at found
    rw [replaced] at found
    cases p with
    | plain pieces =>
      exact absurd (front_of_search found) (not_front _ (excludes_placeholder _ member rfl) (write_shape known))
    | keyed key =>
      obtain ⟨name,value,-,rfl,each,-,-,stops⟩ := search_keyed.mp known
      have again : (RedactionPattern.keyed key).search
          (name ++ '=' :: (REDACTION_PLACEHOLDER.toList ++ (RedactionPattern.keyed key).sub left)) =
          some (name.map (fun c => [c]) ++ [['='],REDACTION_PLACEHOLDER.toList],_) :=
        search_keyed.mpr ⟨name,_,rfl,rfl,each,placeholder_nonempty,placeholder_value,stops_sub starts stops⟩
      rw [write_keyed each.length_eq,List.append_assoc,List.cons_append,again] at found
      cases found
      exact redacted_keyed.mpr rfl
  · have none_here : p.search (part ++ Substitution.sub (p.pieces.map Piece.pattern) p.write left) = none :=
      none_within (excludes_tails p member p member) (written ▸ write_shape known) some_kept some_part _
    rw [none_here] at found
    cases found

/-- It brings back no match of a pattern before it. -/
theorem clean_later (memberp : p ∈ REDACTION_PATTERNS) (memberq : q ∈ REDACTION_PATTERNS)
    (apart : q.groups = 1 → excludes p.pieces q.shape = true) {text : List Char} (clean : q.Clean text) : q.Clean (p.sub text) := by
  have starts := patterns_start p memberp
  intro after words rest ending found
  rcases suffix_sub (search_nonempty starts) ending with ⟨place,inside,rfl⟩ | ⟨place,before,left,kept,part,inside,known,some_kept,some_part,written,rfl⟩
  · have front := front_masked (sub_masked starts place) (patterns_blind q memberq) (front_of_search found)
    obtain ⟨⟨before,left⟩,known⟩ := Option.isSome_iff_exists.mp (search_isSome.mpr front)
    have redacted := clean place before left inside known
    cases q with
    | plain pieces => exact absurd redacted id
    | keyed key =>
      obtain ⟨name,value,rfl,rfl,each,-,-,stops⟩ := search_keyed.mp known
      obtain rfl := redacted_keyed.mp redacted
      have made := made_of_key each
      have kept : p.sub (name ++ '=' :: REDACTION_PLACEHOLDER.toList ++ left) =
          name ++ '=' :: REDACTION_PLACEHOLDER.toList ++ p.sub left := by
        refine sub_append fun part ⟨front,split⟩ some_part => ?_
        by_cases whole : front = []
        · subst whole
          rw [List.nil_append] at split
          rw [split]
          exact search_none.mpr (not_front left (apart rfl) made)
        · exact none_within (excludes_tails _ memberq p memberp) (split ▸ made) whole some_part left
      rw [List.append_assoc,List.append_assoc,List.cons_append] at kept
      have again : (RedactionPattern.keyed key).search (name ++ '=' :: (REDACTION_PLACEHOLDER.toList ++ p.sub left)) =
          some (name.map (fun c => [c]) ++ [['='],REDACTION_PLACEHOLDER.toList],_) :=
        search_keyed.mpr ⟨name,_,rfl,rfl,each,placeholder_nonempty,placeholder_value,stops_sub starts stops⟩
      change (RedactionPattern.keyed key).search (p.sub _) = _ at found
      rw [kept,List.cons_append,again] at found
      cases found
      exact redacted_keyed.mpr rfl
  · have none_here : q.search (part ++ Substitution.sub (p.pieces.map Piece.pattern) p.write left) = none :=
      none_within (excludes_tails p memberp q memberq) (written ▸ write_shape known) some_kept some_part _
    rw [none_here] at found
    cases found

end

theorem clean_foldl {before later : List RedactionPattern} (whole : before ++ later = REDACTION_PATTERNS) {text : List Char}
    (clean : ∀ pattern ∈ before, pattern.Clean text) :
    ∀ pattern ∈ REDACTION_PATTERNS, pattern.Clean (later.foldl (fun out pattern => pattern.sub out) text) := by
  induction later generalizing before text with
  | nil =>
    rw [← whole,List.append_nil]
    exact clean
  | cons p later ih =>
    have member : p ∈ REDACTION_PATTERNS := by
      rw [← whole]
      exact List.mem_append_right _ List.mem_cons_self
    refine ih (by rw [List.append_assoc]; exact whole : (before ++ [p]) ++ later = REDACTION_PATTERNS) ?_
    intro q inside
    rcases List.mem_append.mp inside with earlier | last
    · have pairs := excludes_keys
      rw [← whole,List.pairwise_append] at pairs
      have memberq : q ∈ REDACTION_PATTERNS := by
        rw [← whole]
        exact List.mem_append_left _ earlier
      exact clean_later member memberq (pairs.2.2 q earlier p List.mem_cons_self) (clean q earlier)
    · rw [List.mem_singleton.mp last]
      exact clean_sub member text

theorem redact_text_toList (text : String) :
    (redact_text text).toList = REDACTION_PATTERNS.foldl (fun out pattern => pattern.sub out) text.toList := by
  by_cases empty : text.isEmpty = true
  · rw [redact_text,if_pos empty,String.isEmpty_iff.mp empty]
    rfl
  · rw [redact_text,if_neg empty,String.toList_ofList]

theorem redacted_clean (text : String) : ∀ pattern ∈ REDACTION_PATTERNS, pattern.Clean (redact_text text).toList := by
  rw [redact_text_toList]
  exact clean_foldl (List.nil_append _) fun _ absent => absurd absent List.not_mem_nil

/-- Where only placeholders are matched, nothing changes. -/
theorem sub_clean {pattern : RedactionPattern} (starts : Starts pattern.pieces) {text : List Char} (clean : pattern.Clean text) :
    pattern.sub text = text := by
  refine sub_self (search_nonempty starts) fun after words rest ending found => ?_
  have redacted := clean after words rest ending found
  cases pattern with
  | plain pieces => exact absurd redacted id
  | keyed key =>
    obtain ⟨name,value,-,rfl,each,-,-,-⟩ := search_keyed.mp found
    obtain rfl := redacted_keyed.mp redacted
    rw [write_keyed each.length_eq,List.flatten_append,letters_flatten]
    rfl

theorem foldl_clean {text : List Char} {patterns : List RedactionPattern} (starts : ∀ pattern ∈ patterns, Starts pattern.pieces)
    (clean : ∀ pattern ∈ patterns, pattern.Clean text) :
    patterns.foldl (fun out pattern => pattern.sub out) text = text := by
  induction patterns with
  | nil => rfl
  | cons pattern patterns ih =>
    obtain ⟨starts_here,starts⟩ := List.forall_mem_cons.mp starts
    obtain ⟨clean_here,clean⟩ := List.forall_mem_cons.mp clean
    rw [List.foldl_cons,sub_clean starts_here clean_here]
    exact ih starts clean

/-- `redact_text` is idempotent, and wherever one of its patterns matches in what it returns, it
    matches a key whose value is the placeholder. -/
theorem redact_text_clean (text : String) :
    redact_text (redact_text text) = redact_text text ∧
      ∀ pattern ∈ REDACTION_PATTERNS, ∀ before after words rest, (redact_text text).toList = before ++ after →
        pattern.search after = some (words,rest) →
        ∃ key, pattern = .keyed key ∧ words.getLast? = some REDACTION_PLACEHOLDER.toList := by
  constructor
  · apply String.toList_inj.mp
    rw [redact_text_toList (redact_text text)]
    exact foldl_clean patterns_start (redacted_clean text)
  · intro pattern member before after words rest split found
    have redacted := redacted_clean text pattern member after words rest ⟨before,split.symm⟩ found
    cases pattern with
    | plain pieces => exact absurd redacted id
    | keyed key => exact ⟨key,rfl,redacted⟩

example : (kv_pattern "secret").sub "Secret=a&b".toList = "Secret=***REDACTED***&b".toList := by
  decide

end Automation.Redaction
