import Mathlib.Data.List.Infix

/-!
`str.replace` on lists: the occurrences of `old` are replaced from left to right, and none
overlaps the one before it. A text whose replacements share nothing with `old` holds no
occurrence of `old` (`replace_clean`).
-/
namespace Automation.Replace

section
variable {α : Type} [DecidableEq α] (old new : List α)

/-- The number counts what is left of an occurrence that has been replaced. -/
def replaceFrom : Nat → List α → List α
  | _, [] => []
  | left + 1, _ :: cs => replaceFrom left cs
  | 0, c :: cs =>
    if old.isPrefixOf (c :: cs) then new ++ replaceFrom (old.length - 1) cs
    else c :: replaceFrom 0 cs

/-- `text.replace(old, new)` where `old` is not empty. -/
def replace (text : List α) : List α := replaceFrom old new 0 text

variable {old new}

theorem replaceFrom_drop (left : Nat) (text : List α) :
    replaceFrom old new left text = replace old new (text.drop left) := by
  induction left generalizing text with
  | zero => rfl
  | succ left ih =>
    cases text with
    | nil => rfl
    | cons c cs => exact ih cs

@[simp] theorem replace_nil : replace old new [] = [] := rfl

/-- An occurrence at the front is replaced. -/
theorem replace_found (nonempty : old ≠ []) (rest : List α) :
    replace old new (old ++ rest) = new ++ replace old new rest := by
  cases old with
  | nil => exact absurd rfl nonempty
  | cons p ps =>
    have front : (p :: ps).isPrefixOf (p :: (ps ++ rest)) = true :=
      List.isPrefixOf_iff_prefix.mpr (List.prefix_append (p :: ps) rest)
    change replaceFrom (p :: ps) new 0 (p :: (ps ++ rest)) = _
    rw [replaceFrom,if_pos front,replaceFrom_drop]
    simp

theorem replace_kept {c : α} {cs : List α} (other : ¬old <+: c :: cs) :
    replace old new (c :: cs) = c :: replace old new cs := by
  have front : ¬old.isPrefixOf (c :: cs) = true := fun found => other (List.isPrefixOf_iff_prefix.mp found)
  change replaceFrom old new 0 (c :: cs) = _
  rw [replaceFrom,if_neg front]
  rfl

theorem replace_induction (nonempty : old ≠ []) {motive : List α → Prop} (nil : motive [])
    (found : ∀ rest, motive rest → motive (old ++ rest))
    (kept : ∀ c cs, ¬old <+: c :: cs → motive cs → motive (c :: cs)) (text : List α) : motive text := by
  induction h : text.length using Nat.strong_induction_on generalizing text with
  | _ n ih =>
    subst h
    cases text with
    | nil => exact nil
    | cons c cs =>
      by_cases front : old <+: c :: cs
      · obtain ⟨rest,same⟩ := front
        have shorter : rest.length < (c :: cs).length := by
          have positive := List.length_pos_iff.mpr nonempty
          rw [← same,List.length_append]
          omega
        rw [← same]
        exact found rest (ih rest.length shorter rest rfl)
      · exact kept c cs front (ih cs.length (by simp) cs rfl)

theorem replace_absent {text : List α} (absent : ¬old <:+: text) : replace old new text = text := by
  induction text with
  | nil => rfl
  | cons c cs ih =>
    have front : ¬old <+: c :: cs := fun found => absent found.isInfix
    rw [replace_kept front,ih fun found => absent (List.infix_cons found)]

theorem prefix_of_replace (nonempty : old ≠ []) (written : new ≠ []) {front text : List α}
    (apart : ∀ c ∈ front, c ∉ new) (found : front <+: replace old new text) : front <+: text := by
  induction text using replace_induction nonempty generalizing front with
  | nil => simpa using found
  | found rest _ =>
    rw [replace_found nonempty] at found
    cases front with
    | nil => exact List.nil_prefix
    | cons p ps =>
      cases new with
      | nil => exact absurd rfl written
      | cons n ns =>
        rw [List.cons_append,List.cons_prefix_cons] at found
        obtain ⟨rfl,-⟩ := found
        exact absurd List.mem_cons_self (apart p List.mem_cons_self)
  | kept c cs other ih =>
    rw [replace_kept other] at found
    cases front with
    | nil => exact List.nil_prefix
    | cons p ps =>
      rw [List.cons_prefix_cons] at found ⊢
      exact ⟨found.1,ih (fun c member => apart c (List.mem_cons_of_mem p member)) found.2⟩

omit [DecidableEq α] in
/-- An occurrence that shares nothing with the text before it is in what follows. -/
theorem infix_of_append {part before after : List α} (nonempty : part ≠ []) (apart : ∀ c ∈ part, c ∉ before)
    (found : part <:+: before ++ after) : part <:+: after := by
  induction before with
  | nil => exact found
  | cons b bs ih =>
    rw [List.cons_append,List.infix_cons_iff] at found
    rcases found with front | later
    · cases part with
      | nil => exact absurd rfl nonempty
      | cons p ps =>
        rw [List.cons_prefix_cons] at front
        obtain ⟨rfl,-⟩ := front
        exact absurd List.mem_cons_self (apart p List.mem_cons_self)
    · exact ih (fun c member inside => apart c member (List.mem_cons_of_mem b inside)) later

theorem replace_clean (nonempty : old ≠ []) (written : new ≠ []) (apart : ∀ c ∈ old, c ∉ new) (text : List α) :
    ¬old <:+: replace old new text := by
  induction text using replace_induction nonempty with
  | nil => simpa using nonempty
  | found rest ih =>
    rw [replace_found nonempty]
    exact fun found => ih (infix_of_append nonempty apart found)
  | kept c cs other ih =>
    rw [replace_kept other]
    intro found
    rcases List.infix_cons_iff.mp found with front | later
    · cases old with
      | nil => exact absurd rfl nonempty
      | cons p ps =>
        rw [List.cons_prefix_cons] at front
        refine other (List.cons_prefix_cons.mpr ⟨front.1,?_⟩)
        exact prefix_of_replace nonempty written (fun c member => apart c (List.mem_cons_of_mem p member)) front.2
    · exact ih later

end

end Automation.Replace
