import Mathlib.Computability.Language

/-!
Regular expressions without groups or lookaround, as Python's `re` searches them.
`run` is the executable matcher, with a continuation for what follows;
`run_iff` relates it to the language of the expression, and `search_iff` does so
for a search. A search that succeeds in a text succeeds wherever the text stands,
if what comes before it makes no difference (`search_context`). `groups` matches a
sequence of parts and tells what each of them took.
-/
namespace Automation.Regex
open scoped Computability

inductive Pattern where
  | eps
  | one (p : Char → Bool)
  | seq (first second : Pattern)
  | alt (left right : Pattern)
  | star (inner : Pattern)

def literal : List Char → Pattern
  | [] => .eps
  | c :: cs => .seq (.one (· == c)) (literal cs)

def plus (inner : Pattern) : Pattern := .seq inner (.star inner)

def opt (inner : Pattern) : Pattern := .alt inner .eps

def times : Nat → Pattern → Pattern
  | 0, _ => .eps
  | n + 1, inner => .seq inner (times n inner)

/-- The parts one after the other. -/
def concat : List Pattern → Pattern
  | [] => .eps
  | [last] => last
  | first :: rest => .seq first (concat rest)

def denote : Pattern → Language Char
  | .eps => 1
  | .one p => {word | ∃ c, word = [c] ∧ p c = true}
  | .seq first second => denote first * denote second
  | .alt left right => denote left + denote right
  | .star inner => (denote inner)∗

/-- At most `fuel` passes of `step`, and then the continuation. -/
def iterate (step : (List Char → Bool) → List Char → Bool) : Nat → (List Char → Bool) → List Char → Bool
  | 0, follow, text => follow text
  | fuel + 1, follow, text => follow text || step (iterate step fuel follow) text

/-- Some prefix of the text is in the language, and `follow` accepts the rest. A
    repetition of more passes than characters has an empty pass. -/
def run : Pattern → (List Char → Bool) → List Char → Bool
  | .eps, follow, text => follow text
  | .one _, _, [] => false
  | .one p, follow, c :: cs => p c && follow cs
  | .seq first second, follow, text => run first (run second follow) text
  | .alt left right, follow, text => run left follow text || run right follow text
  | .star inner, follow, text => iterate (run inner) text.length follow text

/-- `pattern.match(text)`. -/
def matchPrefix (r : Pattern) (text : List Char) : Bool := run r (fun _ => true) text

/-- `pattern.match(text)` where the pattern ends with `$`. -/
def matchLine (r : Pattern) (text : List Char) : Bool := run r (fun rest => rest.isEmpty || rest == ['\n']) text

section
variable {step : (List Char → Bool) → List Char → Bool} {language : Language Char}

/-- What a matcher of the language decides. -/
def Decides (step : (List Char → Bool) → List Char → Bool) (language : Language Char) : Prop :=
  ∀ follow text, step follow text = true ↔
    ∃ word rest, text = word ++ rest ∧ word ∈ language ∧ follow rest = true

private theorem iterate_sound (decides : Decides step language) (fuel : Nat) (follow : List Char → Bool) (text : List Char)
    (found : iterate step fuel follow text = true) :
    ∃ word rest, text = word ++ rest ∧ word ∈ language∗ ∧ follow rest = true := by
  induction fuel generalizing text with
  | zero => exact ⟨[],text,rfl,Language.nil_mem_kstar language,found⟩
  | succ fuel ih =>
    rcases Bool.or_eq_true _ _ ▸ found with now | later
    · exact ⟨[],text,rfl,Language.nil_mem_kstar language,now⟩
    · obtain ⟨first,middle,rfl,member,others⟩ := (decides _ _).mp later
      obtain ⟨word,rest,rfl,members,accepted⟩ := ih _ others
      refine ⟨first ++ word,rest,by simp,?_,accepted⟩
      obtain ⟨chunks,rfl,each⟩ := Language.mem_kstar.mp members
      refine Language.mem_kstar.mpr ⟨first :: chunks,rfl,?_⟩
      rintro chunk (_ | ⟨_,later⟩)
      · exact member
      · exact each chunk later

private theorem iterate_complete (decides : Decides step language) (follow : List Char → Bool) (rest : List Char)
    (accepted : follow rest = true) (chunks : List (List Char)) (each : ∀ chunk ∈ chunks, chunk ∈ language ∧ chunk ≠ []) :
    ∀ fuel, chunks.flatten.length ≤ fuel → iterate step fuel follow (chunks.flatten ++ rest) = true := by
  induction chunks with
  | nil =>
    intro fuel _
    cases fuel with
    | zero => exact accepted
    | succ fuel => simp [iterate,accepted]
  | cons chunk others ih =>
    obtain ⟨⟨member,nonempty⟩,rest_each⟩ := List.forall_mem_cons.mp each
    have positive : 0 < chunk.length := List.length_pos_iff.mpr nonempty
    intro fuel enough
    rw [List.flatten_cons,List.length_append] at enough
    cases fuel with
    | zero => omega
    | succ fuel =>
      rw [iterate,Bool.or_eq_true]
      right
      rw [List.flatten_cons,List.append_assoc]
      exact (decides _ _).mpr ⟨chunk,others.flatten ++ rest,rfl,member,ih rest_each fuel (by omega)⟩

private theorem iterate_decides (decides : Decides step language) :
    Decides (fun follow text => iterate step text.length follow text) language∗ := by
  intro follow text
  constructor
  · exact iterate_sound decides text.length follow text
  · rintro ⟨word,rest,rfl,member,accepted⟩
    obtain ⟨chunks,rfl,each⟩ := Language.mem_kstar_iff_exists_nonempty.mp member
    exact iterate_complete decides follow rest accepted chunks each _ (by simp)

end

/-- The matcher finds exactly the prefixes in the language. -/
theorem run_iff (r : Pattern) : Decides (run r) (denote r) := by
  induction r with
  | eps =>
    intro follow text
    simp [run,denote,Language.mem_one]
  | one p =>
    intro follow text
    cases text with
    | nil =>
      constructor
      · intro found
        cases found
      · rintro ⟨_,rest,same,⟨d,rfl,_⟩,_⟩
        cases same
    | cons c cs =>
      constructor
      · intro found
        obtain ⟨accepts,follows⟩ := Bool.and_eq_true _ _ ▸ found
        exact ⟨[c],cs,rfl,⟨c,rfl,accepts⟩,follows⟩
      · rintro ⟨_,rest,same,⟨d,rfl,accepts⟩,follows⟩
        obtain ⟨rfl,rfl⟩ := List.cons.inj same
        simp [run,accepts,follows]
  | seq first second ihFirst ihSecond =>
    intro follow text
    constructor
    · intro found
      obtain ⟨left,middle,rfl,inFirst,others⟩ := (ihFirst _ _).mp found
      obtain ⟨right,rest,rfl,inSecond,follows⟩ := (ihSecond _ _).mp others
      exact ⟨left ++ right,rest,by simp,Language.append_mem_mul inFirst inSecond,follows⟩
    · rintro ⟨_,rest,rfl,member,follows⟩
      obtain ⟨left,inFirst,right,inSecond,rfl⟩ := Language.mem_mul.mp member
      rw [List.append_assoc]
      exact (ihFirst _ _).mpr ⟨left,_,rfl,inFirst,(ihSecond _ _).mpr ⟨right,rest,rfl,inSecond,follows⟩⟩
  | alt left right ihLeft ihRight =>
    intro follow text
    rw [run,Bool.or_eq_true,ihLeft,ihRight]
    constructor
    · rintro (⟨word,rest,split,member,follows⟩ | ⟨word,rest,split,member,follows⟩)
      · exact ⟨word,rest,split,.inl member,follows⟩
      · exact ⟨word,rest,split,.inr member,follows⟩
    · rintro ⟨word,rest,split,member | member,follows⟩
      · exact .inl ⟨word,rest,split,member,follows⟩
      · exact .inr ⟨word,rest,split,member,follows⟩
  | star inner ih => exact iterate_decides ih

theorem matchPrefix_iff (r : Pattern) (text : List Char) :
    matchPrefix r text = true ↔ ∃ word rest, text = word ++ rest ∧ word ∈ denote r := by
  simp [matchPrefix,run_iff r (fun _ => true) text]

/-- What a match may require of the characters around its start. -/
abbrev Start := Option Char → Option Char → Bool

def anywhere : Start := fun _ _ => true

/-- `\b`. -/
def wordBoundary (isWord : Char → Bool) : Start := fun previous next => previous.any isWord != next.any isWord

/-- `pattern.search(text)`, after the character `previous`. -/
def search (start : Start) (r : Pattern) : Option Char → List Char → Bool
  | previous, [] => start previous none && matchPrefix r []
  | previous, c :: cs => (start previous (some c) && matchPrefix r (c :: cs)) || search start r (some c) cs

private theorem last_cons (c : Char) (cs : List Char) (previous : Option Char) :
    (c :: cs).getLast?.or previous = cs.getLast?.or (some c) := by
  cases cs with
  | nil => rfl
  | cons d ds => simp [List.getLast?_cons]

theorem search_iff (start : Start) (r : Pattern) (previous : Option Char) (text : List Char) :
    search start r previous text = true ↔ ∃ before word after, text = before ++ word ++ after ∧
      word ∈ denote r ∧ start (before.getLast?.or previous) (word ++ after).head? = true := by
  induction text generalizing previous with
  | nil =>
    simp only [search,Bool.and_eq_true,matchPrefix_iff]
    constructor
    · rintro ⟨starts,word,after,same,member⟩
      exact ⟨[],word,after,same,member,by rw [← same]; exact starts⟩
    · rintro ⟨before,word,after,same,member,starts⟩
      obtain ⟨first,rfl⟩ := List.append_eq_nil_iff.mp same.symm
      obtain ⟨rfl,rfl⟩ := List.append_eq_nil_iff.mp first
      exact ⟨starts,[],[],rfl,member⟩
  | cons c cs ih =>
    simp only [search,Bool.or_eq_true,Bool.and_eq_true,matchPrefix_iff,ih]
    constructor
    · rintro (⟨starts,word,after,same,member⟩ | ⟨before,word,after,same,member,starts⟩)
      · exact ⟨[],word,after,same,member,by rw [← same]; exact starts⟩
      · exact ⟨c :: before,word,after,by simp [same],member,by rw [last_cons]; exact starts⟩
    · rintro ⟨before,word,after,same,member,starts⟩
      cases before with
      | nil =>
        left
        refine ⟨?_,word,after,same,member⟩
        rw [List.nil_append] at same
        rw [← same] at starts
        exact starts
      | cons d ds =>
        right
        obtain ⟨rfl,rest⟩ := List.cons.inj same
        exact ⟨ds,word,after,rest,member,by rw [← last_cons _ _ previous]; exact starts⟩

variable {text : List Char}

theorem search_context {start : Start} {r : Pattern} {c : Char} (nonempty : matchPrefix r [] = false)
    (front : ∀ next, start none next = true → start (some c) next = true)
    (found : search start r none text = true) (previous : Option Char) (left right : List Char) :
    search start r previous (left ++ c :: text ++ right) = true := by
  obtain ⟨before,word,after,rfl,member,starts⟩ := (search_iff start r none text).mp found
  refine (search_iff start r previous _).mpr ⟨left ++ c :: before,word,after ++ right,by simp,member,?_⟩
  have head : (word ++ (after ++ right)).head? = (word ++ after).head? := by
    cases word with
    | nil => simp [(matchPrefix_iff r []).mpr ⟨[],[],rfl,member⟩] at nonempty
    | cons d ds => rfl
  rw [head]
  cases before using List.reverseRecOn with
  | nil => simpa using front _ starts
  | append_singleton first last =>
    rw [← List.cons_append,← List.append_assoc,List.getLast?_concat]
    simpa using starts

/-- The ways to cut a text in two, the longest front first. -/
def cuts : List Char → List (List Char × List Char)
  | [] => [([],[])]
  | c :: cs => (cuts cs).map (fun cut => (c :: cut.1,cut.2)) ++ [([],c :: cs)]

theorem mem_cuts {cut : List Char × List Char} : cut ∈ cuts text ↔ cut.1 ++ cut.2 = text := by
  induction text generalizing cut with
  | nil =>
    obtain ⟨left,right⟩ := cut
    simp [cuts]
  | cons c cs ih =>
    obtain ⟨left,right⟩ := cut
    cases left with
    | nil => simp [cuts]
    | cons d ds =>
      simp only [cuts,List.mem_append,List.mem_map,List.mem_singleton]
      constructor
      · rintro (⟨shorter,member,same⟩ | same)
        · have joined := ih.mp member
          cases same
          simp [joined]
        · cases same
      · intro joined
        obtain ⟨rfl,rest⟩ := List.cons.inj joined
        exact .inl ⟨(ds,right),ih.mpr rest,rfl⟩

/-- `pattern.match(text)` of the parts one after the other, as what each of them
    took: a part takes as much as the others can spare. The pattern ends with `$`. -/
def groups : List Pattern → List Char → Option (List (List Char))
  | [], text => if text.isEmpty || text == ['\n'] then some [] else none
  | part :: parts, text =>
    (cuts text).findSome? fun cut =>
      if run part List.isEmpty cut.1 then (groups parts cut.2).map (cut.1 :: ·) else none

theorem run_isEmpty (r : Pattern) (word : List Char) : run r List.isEmpty word = true ↔ word ∈ denote r := by
  rw [run_iff r List.isEmpty word]
  simp

theorem matchLine_iff (r : Pattern) (text : List Char) :
    matchLine r text = true ↔ ∃ word rest, text = word ++ rest ∧ word ∈ denote r ∧ (rest = [] ∨ rest = ['\n']) := by
  rw [matchLine,run_iff r _ text]
  simp

/-- What a match consists of. -/
def Grouped (parts : List Pattern) (text : List Char) (words : List (List Char)) (rest : List Char) : Prop :=
  text = words.flatten ++ rest ∧ List.Forall₂ (fun word part => word ∈ denote part) words parts ∧
    (rest = [] ∨ rest = ['\n'])

theorem groups_sound {parts : List Pattern} {words : List (List Char)}
    (found : groups parts text = some words) : ∃ rest, Grouped parts text words rest := by
  induction parts generalizing text words with
  | nil =>
    by_cases ends : text.isEmpty || text == ['\n']
    · rw [groups,if_pos ends] at found
      cases found
      exact ⟨text,rfl,.nil,by simpa using ends⟩
    · rw [groups,if_neg ends] at found
      cases found
  | cons part parts ih =>
    rw [groups] at found
    obtain ⟨cut,member,taken⟩ := List.exists_of_findSome?_eq_some found
    by_cases fits : run part List.isEmpty cut.1 = true
    · rw [if_pos fits,Option.map_eq_some_iff] at taken
      obtain ⟨others,later,rfl⟩ := taken
      obtain ⟨rest,split,fit,ends⟩ := ih later
      refine ⟨rest,?_,.cons ((run_isEmpty _ _).mp fits) fit,ends⟩
      rw [← mem_cuts.mp member,split]
      simp
    · rw [if_neg fits] at taken
      cases taken

theorem groups_complete {parts : List Pattern} {words : List (List Char)} {rest : List Char}
    (fit : Grouped parts text words rest) : (groups parts text).isSome = true := by
  induction parts generalizing text words with
  | nil =>
    obtain ⟨split,each,ends⟩ := fit
    cases each
    rw [groups,if_pos (by rcases ends with rfl | rfl <;> simp [split])]
    rfl
  | cons part parts ih =>
    obtain ⟨split,each,ends⟩ := fit
    cases each with
    | cons member others =>
      rename_i word words
      have later : (groups parts (words.flatten ++ rest)).isSome = true := ih ⟨rfl,others,ends⟩
      obtain ⟨taken,found⟩ := Option.isSome_iff_exists.mp later
      rw [groups,List.findSome?_isSome_iff]
      refine ⟨(word,words.flatten ++ rest),mem_cuts.mpr (by simp [split]),?_⟩
      rw [if_pos ((run_isEmpty _ _).mpr member),found]
      rfl

theorem groups_eq {parts : List Pattern} {words : List (List Char)} {rest : List Char}
    (fit : Grouped parts text words rest)
    (unique : ∀ words' rest', Grouped parts text words' rest' → words' = words) : groups parts text = some words := by
  obtain ⟨taken,found⟩ := Option.isSome_iff_exists.mp (groups_complete fit)
  obtain ⟨rest',fit'⟩ := groups_sound found
  rw [found,unique taken rest' fit']

/-- Every character the pattern takes has the property. -/
def Within (p : Char → Prop) : Pattern → Prop
  | .eps => True
  | .one q => ∀ c, q c = true → p c
  | .seq first second => Within p first ∧ Within p second
  | .alt left right => Within p left ∧ Within p right
  | .star inner => Within p inner

theorem denote_within {p : Char → Prop} {r : Pattern} (within : Within p r) {word : List Char}
    (member : word ∈ denote r) : ∀ c ∈ word, p c := by
  induction r generalizing word with
  | eps =>
    rw [denote,Language.mem_one] at member
    simp [member]
  | one q =>
    obtain ⟨c,rfl,accepts⟩ := member
    simpa using within c accepts
  | seq first second ihFirst ihSecond =>
    obtain ⟨left,inFirst,right,inSecond,rfl⟩ := Language.mem_mul.mp member
    intro c inWord
    rcases List.mem_append.mp inWord with inLeft | inRight
    · exact ihFirst within.1 inFirst c inLeft
    · exact ihSecond within.2 inSecond c inRight
  | alt left right ihLeft ihRight =>
    rcases member with inLeft | inRight
    · exact ihLeft within.1 inLeft
    · exact ihRight within.2 inRight
  | star inner ih =>
    obtain ⟨chunks,rfl,each⟩ := Language.mem_kstar.mp member
    intro c inWord
    obtain ⟨chunk,inChunks,inChunk⟩ := List.mem_flatten.mp inWord
    exact ih within (each chunk inChunks) c inChunk

theorem denote_literal (chars word : List Char) : word ∈ denote (literal chars) ↔ word = chars := by
  induction chars generalizing word with
  | nil => exact Language.mem_one word
  | cons c cs ih =>
    rw [literal,denote,Language.mem_mul]
    constructor
    · rintro ⟨front,⟨d,rfl,same⟩,rest,inRest,rfl⟩
      rw [(ih rest).mp inRest]
      simpa using same
    · rintro rfl
      exact ⟨[c],⟨c,rfl,by simp⟩,cs,(ih cs).mpr rfl,rfl⟩

theorem denote_plus_one (p : Char → Bool) (word : List Char) :
    word ∈ denote (plus (.one p)) ↔ word ≠ [] ∧ ∀ c ∈ word, p c = true := by
  constructor
  · intro member
    have within : Within (fun c => p c = true) (plus (.one p)) := ⟨fun _ accepts => accepts,fun _ accepts => accepts⟩
    refine ⟨?_,denote_within within member⟩
    obtain ⟨front,⟨c,rfl,_⟩,rest,_,rfl⟩ := Language.mem_mul.mp member
    simp
  · rintro ⟨nonempty,all⟩
    cases word with
    | nil => exact absurd rfl nonempty
    | cons c cs =>
      obtain ⟨here,later⟩ := List.forall_mem_cons.mp all
      refine Language.mem_mul.mpr ⟨[c],⟨c,rfl,here⟩,cs,?_,rfl⟩
      refine Language.mem_kstar.mpr ⟨cs.map fun d => [d],List.flatMap_singleton' cs |>.symm,?_⟩
      intro chunk inChunks
      obtain ⟨d,inRest,rfl⟩ := List.mem_map.mp inChunks
      exact ⟨d,rfl,later d inRest⟩

end Automation.Regex
