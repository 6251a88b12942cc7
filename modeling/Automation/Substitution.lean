import Automation.RegexOrder

/-!
`re.sub` with a pattern whose parts are all greedy and that takes at least one character: the
matches are found from left to right, none begins within the one before it, and each is replaced
by what is written for its groups. A text is cut by its matches (`sub_induction`); what follows
some place of the new text begins at a place of the old one or within a replacement
(`suffix_sub`).
-/
namespace Automation.Substitution
open Automation.Regex

/-- `pattern.match(text)`: what each part took, and what follows the match. -/
def find (pattern : List Pattern) (text : List Char) : Option (List (List Char) × List Char) :=
  matchParts (pattern.map greedy) text

section
variable {r : Pattern} {pattern : List Pattern} {text rest : List Char} {words : List (List Char)}

theorem find_cons (found : find (r :: pattern) text = some (words,rest)) :
    ∃ word after others, text = word ++ after ∧ word ∈ denote r ∧ find pattern after = some (others,rest) ∧
      words = word :: others ∧
      ∀ longer left, text = longer ++ left → longer ∈ denote r → word.length < longer.length → find pattern left = none :=
  matchParts_greedy found

theorem find_cons_isSome :
    (find (r :: pattern) text).isSome = true ↔
      ∃ word after, text = word ++ after ∧ word ∈ denote r ∧ (find pattern after).isSome = true := by
  constructor
  · intro found
    obtain ⟨⟨words,rest⟩,known⟩ := Option.isSome_iff_exists.mp found
    obtain ⟨word,after,others,split,inside,later,-,-⟩ := find_cons known
    exact ⟨word,after,split,inside,by rw [later]; rfl⟩
  · rintro ⟨word,after,split,inside,later⟩
    exact matchParts_greedy_isSome word after split inside later

theorem find_split (found : find pattern text = some (words,rest)) : text = words.flatten ++ rest := by
  induction pattern generalizing text words with
  | nil =>
    cases found
    rfl
  | cons r pattern ih =>
    obtain ⟨word,after,others,rfl,-,later,rfl,-⟩ := find_cons found
    rw [List.flatten_cons,List.append_assoc,← ih later]

end

section
variable (pattern : List Pattern) (write : List (List Char) → List Char)

/-- The number counts what is left of a match that has been replaced. -/
def subFrom : Nat → List Char → List Char
  | _, [] => []
  | left + 1, _ :: cs => subFrom left cs
  | 0, c :: cs =>
    match find pattern (c :: cs) with
    | some (words,_) => write words ++ subFrom (words.flatten.length - 1) cs
    | none => c :: subFrom 0 cs

/-- `pattern.sub(write, text)`. -/
def sub (text : List Char) : List Char := subFrom pattern write 0 text

variable {pattern write}

theorem subFrom_drop (left : Nat) (text : List Char) :
    subFrom pattern write left text = sub pattern write (text.drop left) := by
  induction left generalizing text with
  | zero => rfl
  | succ left ih =>
    cases text with
    | nil => rfl
    | cons c cs => exact ih cs

@[simp] theorem sub_nil : sub pattern write [] = [] := rfl

theorem sub_kept {c : Char} {cs : List Char} (other : find pattern (c :: cs) = none) :
    sub pattern write (c :: cs) = c :: sub pattern write cs := by
  change subFrom pattern write 0 (c :: cs) = _
  rw [subFrom,other]
  rfl

variable (nonempty : ∀ text words rest, find pattern text = some (words,rest) → words.flatten ≠ [])

include nonempty in
/-- A match at the front is replaced. -/
theorem sub_found {text rest : List Char} {words : List (List Char)} (found : find pattern text = some (words,rest)) :
    sub pattern write text = write words ++ sub pattern write rest := by
  have split := find_split found
  cases front : words.flatten with
  | nil => exact absurd front (nonempty text words rest found)
  | cons d ds =>
    rw [front,List.cons_append] at split
    subst split
    change subFrom pattern write 0 (d :: (ds ++ rest)) = _
    rw [subFrom,found]
    dsimp only
    rw [subFrom_drop,front,List.length_cons,Nat.add_sub_cancel,List.drop_left]

include nonempty in
theorem sub_induction {motive : List Char → Prop} (nil : motive [])
    (found : ∀ text words rest, find pattern text = some (words,rest) → motive rest → motive text)
    (kept : ∀ c cs, find pattern (c :: cs) = none → motive cs → motive (c :: cs)) (text : List Char) : motive text := by
  induction h : text.length using Nat.strong_induction_on generalizing text with
  | _ n ih =>
    subst h
    cases text with
    | nil => exact nil
    | cons c cs =>
      cases here : find pattern (c :: cs) with
      | none => exact kept c cs here (ih cs.length (by simp) cs rfl)
      | some matched =>
        obtain ⟨words,rest⟩ := matched
        have shorter : rest.length < (c :: cs).length := by
          have positive := List.length_pos_iff.mpr (nonempty _ _ _ here)
          rw [find_split here,List.length_append]
          omega
        exact found _ words rest here (ih rest.length shorter rest rfl)

include nonempty in
/-- What follows a place of the new text: the place is one of the old text where a match was
    looked for, or it is within a replacement. -/
theorem suffix_sub {after text : List Char} (ending : after <:+ sub pattern write text) :
    (∃ place, place <:+ text ∧ after = sub pattern write place) ∨
      ∃ place words rest kept part, place <:+ text ∧ find pattern place = some (words,rest) ∧ kept ≠ [] ∧ part ≠ [] ∧
        write words = kept ++ part ∧ after = part ++ sub pattern write rest := by
  induction text using sub_induction nonempty generalizing after with
  | nil => exact .inl ⟨[],List.suffix_refl [],List.suffix_nil.mp ending⟩
  | found text words rest here ih =>
    have later : rest <:+ text := ⟨words.flatten,(find_split here).symm⟩
    have whole := ending
    rw [sub_found nonempty here] at ending
    obtain ⟨front,split⟩ := ending
    rcases List.append_eq_append_iff.mp split with ⟨part,same,rfl⟩ | ⟨more,-,same⟩
    · by_cases none_left : part = []
      · subst none_left
        exact .inl ⟨rest,later,rfl⟩
      · by_cases none_kept : front = []
        · subst none_kept
          refine .inl ⟨text,List.suffix_refl text,?_⟩
          rw [sub_found nonempty here,same]
          rfl
        · exact .inr ⟨text,words,rest,front,part,List.suffix_refl text,here,none_kept,none_left,same,rfl⟩
    · rcases ih ⟨more,same.symm⟩ with ⟨place,inside,rfl⟩ | ⟨place,words,left,kept,part,inside,known,rest_facts⟩
      · exact .inl ⟨place,inside.trans later,rfl⟩
      · exact .inr ⟨place,words,left,kept,part,inside.trans later,known,rest_facts⟩
  | kept c cs other ih =>
    have later : cs <:+ c :: cs := List.suffix_cons c cs
    rw [sub_kept other] at ending
    rcases List.suffix_cons_iff.mp ending with same | inner
    · refine .inl ⟨c :: cs,List.suffix_refl _,?_⟩
      rw [same,sub_kept other]
    · rcases ih inner with ⟨place,inside,rfl⟩ | ⟨place,words,left,kept,part,inside,known,rest_facts⟩
      · exact .inl ⟨place,inside.trans later,rfl⟩
      · exact .inr ⟨place,words,left,kept,part,inside.trans later,known,rest_facts⟩

/-- A word within which no match begins is kept. -/
theorem sub_append {word rest : List Char}
    (none_inside : ∀ part, part <:+ word → part ≠ [] → find pattern (part ++ rest) = none) :
    sub pattern write (word ++ rest) = word ++ sub pattern write rest := by
  induction word with
  | nil => rfl
  | cons c cs ih =>
    have here : find pattern (c :: (cs ++ rest)) = none := none_inside (c :: cs) (List.suffix_refl _) (List.cons_ne_nil c cs)
    rw [List.cons_append,sub_kept here,ih fun part inner => none_inside part (inner.trans (List.suffix_cons c cs))]
    rfl

include nonempty in
/-- A text is kept whose matches are replaced by themselves. -/
theorem sub_self {text : List Char}
    (fixed : ∀ after words rest, after <:+ text → find pattern after = some (words,rest) → write words = words.flatten) :
    sub pattern write text = text := by
  induction text using sub_induction nonempty with
  | nil => rfl
  | found text words rest here ih =>
    have later : rest <:+ text := ⟨words.flatten,(find_split here).symm⟩
    rw [sub_found nonempty here,fixed text words rest (List.suffix_refl text) here,
      ih fun after words left inner => fixed after words left (inner.trans later),← find_split here]
  | kept c cs other ih =>
    rw [sub_kept other,ih fun after words left inner => fixed after words left (inner.trans (List.suffix_cons c cs))]

end

end Automation.Substitution
