import Automation.Substitution

/-!
Secrets that are masked: a pattern is a sequence of single characters and of runs of a class. A
text whose hidden parts are replaced by words with a mark in front (`Masked`) matches no pattern
where the old one did not, if the pattern is blind to the mark: only its last class accepts it,
and that class accepts everything that is hidden as well (`front_masked`).
-/
namespace Automation.Masking
open Automation.Regex Automation.Substitution

/-- One character of a class, or at least so many, as many as there are. -/
inductive Piece where
  | once (p : Char → Bool)
  | atLeast (n : Nat) (p : Char → Bool)

def Piece.pattern : Piece → Pattern
  | .once p => .one p
  | .atLeast n p => Regex.atLeast n p

def Piece.test : Piece → Char → Bool
  | .once p => p
  | .atLeast _ p => p

/-- How many characters it takes at least. -/
def Piece.least : Piece → Nat
  | .once _ => 1
  | .atLeast n _ => n

/-- `pattern.match(text)`. -/
def search (pieces : List Piece) : List Char → Option (List (List Char) × List Char) := find (pieces.map Piece.pattern)

/-- Some word of the pattern is a front of the text. -/
inductive Front : List Piece → List Char → Prop
  | nil {text : List Char} : Front [] text
  | once {p : Char → Bool} {pieces : List Piece} {c : Char} {cs : List Char} (accepts : p c = true)
      (later : Front pieces cs) : Front (.once p :: pieces) (c :: cs)
  | stop {p : Char → Bool} {pieces : List Piece} {text : List Char} (later : Front pieces text) :
      Front (.atLeast 0 p :: pieces) text
  | more {n : Nat} {p : Char → Bool} {pieces : List Piece} {c : Char} {cs : List Char} (accepts : p c = true)
      (later : Front (.atLeast (n - 1) p :: pieces) cs) : Front (.atLeast n p :: pieces) (c :: cs)

section
variable {pieces : List Piece} {text : List Char}

theorem front_atLeast {n : Nat} {p : Char → Bool} :
    Front (.atLeast n p :: pieces) text ↔
      ∃ word after, text = word ++ after ∧ n ≤ word.length ∧ (∀ c ∈ word, p c = true) ∧ Front pieces after := by
  constructor
  · intro front
    generalize whole : Piece.atLeast n p :: pieces = all at front
    induction front generalizing n with
    | nil => cases whole
    | once accepts later => cases whole
    | stop later =>
      cases whole
      exact ⟨[],_,rfl,Nat.le_refl 0,fun c member => absurd member List.not_mem_nil,later⟩
    | @more _ _ _ c cs accepts later ih =>
      cases whole
      obtain ⟨word,after,rfl,enough,all,later⟩ := ih rfl
      refine ⟨c :: word,after,rfl,?_,List.forall_mem_cons.mpr ⟨accepts,all⟩,later⟩
      rw [List.length_cons]
      omega
  · rintro ⟨word,after,rfl,enough,all,later⟩
    induction word generalizing n with
    | nil =>
      obtain rfl : n = 0 := Nat.le_zero.mp enough
      exact .stop later
    | cons c word ih =>
      obtain ⟨accepts,all⟩ := List.forall_mem_cons.mp all
      refine .more accepts (ih ?_ all)
      rw [List.length_cons] at enough
      omega

theorem search_isSome : (search pieces text).isSome = true ↔ Front pieces text := by
  induction pieces generalizing text with
  | nil => exact ⟨fun _ => .nil,fun _ => rfl⟩
  | cons piece pieces ih =>
    rw [search,List.map_cons,find_cons_isSome]
    cases piece with
    | once p =>
      constructor
      · rintro ⟨word,after,rfl,⟨c,rfl,accepts⟩,later⟩
        exact .once accepts (ih.mp later)
      · intro front
        cases front with
        | @once _ _ c cs accepts later => exact ⟨[c],cs,rfl,⟨c,rfl,accepts⟩,ih.mpr later⟩
    | atLeast n p =>
      rw [front_atLeast]
      constructor
      · rintro ⟨word,after,rfl,inside,later⟩
        obtain ⟨enough,all⟩ := (denote_atLeast n p word).mp inside
        exact ⟨word,after,rfl,enough,all,ih.mp later⟩
      · rintro ⟨word,after,rfl,enough,all,later⟩
        exact ⟨word,after,rfl,(denote_atLeast n p word).mpr ⟨enough,all⟩,ih.mpr later⟩

theorem search_none : search pieces text = none ↔ ¬ Front pieces text := by
  rw [← search_isSome,Option.isSome_iff_ne_none,not_not]

theorem front_of_search {words : List (List Char)} {rest : List Char} (found : search pieces text = some (words,rest)) :
    Front pieces text := search_isSome.mp (by rw [found]; rfl)

/-- A single character is taken where it is accepted. -/
theorem search_once {p : Char → Bool} {words : List (List Char)} {rest : List Char} :
    search (.once p :: pieces) text = some (words,rest) ↔
      ∃ c cs others, text = c :: cs ∧ p c = true ∧ search pieces cs = some (others,rest) ∧ words = [c] :: others := by
  constructor
  · intro found
    obtain ⟨word,after,others,rfl,⟨c,rfl,accepts⟩,later,rfl,-⟩ := find_cons found
    exact ⟨c,after,others,rfl,accepts,later,rfl⟩
  · rintro ⟨c,cs,others,rfl,accepts,later,rfl⟩
    have some_match : (search (.once p :: pieces) (c :: cs)).isSome = true :=
      search_isSome.mpr (.once accepts (front_of_search later))
    obtain ⟨⟨words,left⟩,found⟩ := Option.isSome_iff_exists.mp some_match
    obtain ⟨word,after,taken,split,⟨d,rfl,-⟩,known,rfl,-⟩ := find_cons found
    obtain ⟨rfl,rfl⟩ := List.cons.inj split
    have same : search pieces cs = some (taken,left) := known
    rw [later] at same
    cases same
    exact found

/-- A text in front of which a class accepts nothing. -/
def Stops (p : Char → Bool) (text : List Char) : Prop := ∀ c ∈ text.head?, p c = false

/-- A run at the end takes all there is. -/
theorem search_last {n : Nat} {p : Char → Bool} {words : List (List Char)} {rest : List Char} :
    search [.atLeast n p] text = some (words,rest) ↔
      ∃ word, text = word ++ rest ∧ words = [word] ∧ n ≤ word.length ∧ (∀ c ∈ word, p c = true) ∧ Stops p rest := by
  have taken : ∀ {words rest}, search [.atLeast n p] text = some (words,rest) →
      ∃ word, text = word ++ rest ∧ words = [word] ∧ n ≤ word.length ∧ (∀ c ∈ word, p c = true) ∧ Stops p rest := by
    intro words rest found
    obtain ⟨word,after,others,rfl,inside,last,rfl,longest⟩ := find_cons found
    cases last
    obtain ⟨enough,all⟩ := (denote_atLeast n p word).mp inside
    refine ⟨word,rfl,rfl,enough,all,fun c head => ?_⟩
    cases rest with
    | nil => cases head
    | cons d ds =>
      cases head
      cases accepts : p c with
      | false => rfl
      | true =>
        have longer : word ++ [c] ∈ denote (Regex.atLeast n p) := by
          refine (denote_atLeast n p _).mpr ⟨?_,?_⟩
          · rw [List.length_append]
            omega
          · intro d member
            rcases List.mem_append.mp member with first | last
            · exact all d first
            · rw [List.mem_singleton.mp last]
              exact accepts
        have failed := longest (word ++ [c]) ds (by simp) longer (by simp)
        cases failed
  refine ⟨taken,?_⟩
  rintro ⟨word,rfl,rfl,enough,all,stops⟩
  have some_match : (search [.atLeast n p] (word ++ rest)).isSome = true :=
    search_isSome.mpr (front_atLeast.mpr ⟨word,rest,rfl,enough,all,.nil⟩)
  obtain ⟨⟨words,left⟩,found⟩ := Option.isSome_iff_exists.mp some_match
  obtain ⟨other,split,rfl,-,same_class,ends⟩ := taken found
  -- both words are the longest front of the class
  have longest : ∀ {word rest : List Char}, (∀ c ∈ word, p c = true) → Stops p rest → (word ++ rest).takeWhile p = word := by
    intro word rest all stops
    rw [List.takeWhile_append_of_pos all]
    cases rest with
    | nil => exact List.append_nil word
    | cons d ds => rw [List.takeWhile_cons_of_neg (by rw [stops d rfl]; exact Bool.false_ne_true),List.append_nil]
  have same : word = other := by rw [← longest all stops,split,longest same_class ends]
  subst same
  rw [found,List.append_cancel_left split]

/-- Words that are made of a choice of each set. -/
abbrev Of (sets : List (List Char)) (word : List Char) : Prop := List.Forall₂ (fun c set => c ∈ set) word sets

/-- Some character of such a word is refused where the pattern is at that character. -/
def excludes : List Piece → List (List Char) → Bool
  | .once p :: pieces, set :: sets => set.all (fun c => !p c) || excludes pieces sets
  | _, _ => false

theorem not_front {sets : List (List Char)} {word : List Char} (rest : List Char) (excluded : excludes pieces sets = true)
    (made : Of sets word) : ¬ Front pieces (word ++ rest) := by
  induction made generalizing pieces with
  | nil =>
    cases pieces with
    | nil => cases excluded
    | cons piece pieces => cases piece <;> cases excluded
  | @cons c set word sets member made ih =>
    intro front
    cases front with
    | nil => cases excluded
    | once accepts later =>
      rw [excludes,Bool.or_eq_true] at excluded
      rcases excluded with refused | excluded
      · have none_here := List.all_eq_true.mp refused c member
        rw [accepts] at none_here
        cases none_here
      · exact ih excluded later
    | stop later => cases excluded
    | more accepts later => cases excluded

end

section
variable (mark : Char) (hidden : Char → Bool)

/-- The first text is the second with hidden parts replaced by words that begin with the mark. -/
inductive Masked : List Char → List Char → Prop
  | nil : Masked [] []
  | keep {out text : List Char} (c : Char) (later : Masked out text) : Masked (c :: out) (c :: text)
  | mask {d : Char} (out text : List Char) (secret : hidden d = true) : Masked (mark :: out) (d :: text)

/-- Only the last class accepts the mark, and it accepts what is hidden as well. -/
def Blind : List Piece → Prop
  | [] => True
  | piece :: pieces =>
    piece.test mark = false ∧ Blind pieces ∨
      (∀ d, hidden d = true → piece.test d = true) ∧ piece.least ≤ 1 ∧ pieces = []

variable {mark hidden}

theorem blind_of_refuses {pieces : List Piece} (refuses : ∀ piece ∈ pieces, piece.test mark = false) :
    Blind mark hidden pieces := by
  induction pieces with
  | nil => trivial
  | cons piece pieces ih =>
    obtain ⟨here,later⟩ := List.forall_mem_cons.mp refuses
    exact .inl ⟨here,ih later⟩

theorem blind_append {front pieces : List Piece} (refuses : ∀ piece ∈ front, piece.test mark = false)
    (blind : Blind mark hidden pieces) : Blind mark hidden (front ++ pieces) := by
  induction front with
  | nil => exact blind
  | cons piece front ih =>
    obtain ⟨here,later⟩ := List.forall_mem_cons.mp refuses
    exact .inl ⟨here,ih later⟩

theorem front_masked {pieces : List Piece} {out text : List Char} (masked : Masked mark hidden out text)
    (blind : Blind mark hidden pieces) (front : Front pieces out) : Front pieces text := by
  induction front generalizing text with
  | nil => exact .nil
  | once accepts later ih =>
    cases masked with
    | keep c masked =>
      rcases blind with ⟨-,blind⟩ | ⟨-,-,rfl⟩
      · exact .once accepts (ih masked blind)
      · exact .once accepts .nil
    | mask out text secret =>
      rcases blind with ⟨refused,-⟩ | ⟨all,-,rfl⟩
      · exact absurd (accepts.symm.trans refused) Bool.noConfusion
      · exact .once (all _ secret) .nil
  | stop later ih =>
    rcases blind with ⟨-,blind⟩ | ⟨-,-,rfl⟩
    · exact .stop (ih masked blind)
    · exact .stop .nil
  | @more n p pieces c cs accepts later ih =>
    cases masked with
    | keep c masked =>
      rcases blind with ⟨refused,blind⟩ | ⟨all,few,rfl⟩
      · exact .more accepts (ih masked (.inl ⟨refused,blind⟩))
      · refine .more accepts (ih masked (.inr ⟨all,?_,rfl⟩))
        have bound : n ≤ 1 := few
        show n - 1 ≤ 1
        omega
    | mask out text secret =>
      rcases blind with ⟨refused,-⟩ | ⟨all,few,rfl⟩
      · exact absurd (accepts.symm.trans refused) Bool.noConfusion
      · have bound : n ≤ 1 := few
        have last : n - 1 = 0 := by omega
        refine .more (all _ secret) ?_
        rw [last]
        exact .stop .nil

theorem masked_append {out text : List Char} (kept : List Char) (masked : Masked mark hidden out text) :
    Masked mark hidden (kept ++ out) (kept ++ text) := by
  induction kept with
  | nil => exact masked
  | cons c kept ih => exact .keep c ih

theorem masked_sub {pattern : List Pattern} {write : List (List Char) → List Char}
    (conceals : ∀ text words rest, find pattern text = some (words,rest) →
      ∃ kept d taken more, words.flatten = kept ++ d :: taken ∧ hidden d = true ∧ write words = kept ++ mark :: more)
    (text : List Char) : Masked mark hidden (sub pattern write text) text := by
  have nonempty : ∀ text words rest, find pattern text = some (words,rest) → words.flatten ≠ [] := by
    intro text words rest found
    obtain ⟨kept,d,taken,more,same,-,-⟩ := conceals text words rest found
    rw [same]
    exact List.append_ne_nil_of_right_ne_nil kept (List.cons_ne_nil d taken)
  induction text using sub_induction nonempty with
  | nil => exact .nil
  | found text words rest here ih =>
    obtain ⟨kept,d,taken,more,same,secret,written⟩ := conceals text words rest here
    have split := find_split here
    rw [same,List.append_assoc] at split
    rw [sub_found nonempty here,written,List.append_assoc,split]
    exact masked_append kept (.mask _ _ secret)
  | kept c cs other ih =>
    rw [sub_kept other]
    exact .keep c ih

end

end Automation.Masking
