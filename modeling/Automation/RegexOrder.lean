import Automation.Regex

/-!
Which match `re` finds, where there are several: a pattern as a sequence of
parts, each with its ways to match at the front of a text, the preferred one
first. A greedy part prefers to take more and a lazy one to take less
(`matchParts_greedy`, `matchParts_lazy`); the matcher gives up a way only where
the parts after it fail.
-/
namespace Automation.Regex

/-- The ways to match at the front of a text: what is taken, and the rest. -/
abbrev Part := List Char → List (List Char × List Char)

def greedy (r : Pattern) : Part := fun text => (cuts text).filter fun cut => run r List.isEmpty cut.1

def lazy (r : Pattern) : Part := fun text => (greedy r text).reverse

/-- `(?:\n|$)`; `$` is before a last line feed too. -/
def newlineOrEnd : Part
  | [] => [([],[])]
  | c :: cs => if c = '\n' then (['\n'],cs) :: (if cs.isEmpty then [([],['\n'])] else []) else []

/-- `pattern.match(text)`: what each part took, and what follows the match. -/
def matchParts : List Part → List Char → Option (List (List Char) × List Char)
  | [], text => some ([],text)
  | part :: parts, text =>
    (part text).findSome? fun cut => (matchParts parts cut.2).map fun matched => (cut.1 :: matched.1,matched.2)

/-- `pattern.search(text)`: the leftmost match. -/
def searchParts (parts : List Part) : List Char → Option (List (List Char) × List Char)
  | [] => matchParts parts []
  | c :: cs => (matchParts parts (c :: cs)).or (searchParts parts cs)

theorem cuts_longest_first (text : List Char) : (cuts text).Pairwise fun a b => b.1.length < a.1.length := by
  induction text with
  | nil => exact List.pairwise_singleton _ _
  | cons c cs ih =>
    rw [cuts,List.pairwise_append]
    refine ⟨?_,List.pairwise_singleton _ _,?_⟩
    · rw [List.pairwise_map]
      exact ih.imp fun shorter => by simpa using shorter
    · intro cut member last single
      obtain ⟨shorter,-,rfl⟩ := List.mem_map.mp member
      rw [List.mem_singleton.mp single]
      simp

theorem findSome?_first {α β : Type} {R : α → α → Prop} (asymm : ∀ a b, R a b → ¬R b a) {items : List α} (ordered : items.Pairwise R)
    {f : α → Option β} {b : β} (found : items.findSome? f = some b) :
    ∃ a ∈ items, f a = some b ∧ ∀ c ∈ items, R c a → f c = none := by
  obtain ⟨before,a,after,rfl,here,failed⟩ := List.findSome?_eq_some_iff.mp found
  refine ⟨a,by simp,here,?_⟩
  intro c member earlier
  rcases List.mem_append.mp member with first | rest
  · exact failed c first
  · obtain ⟨-,later,-⟩ := List.pairwise_append.mp ordered
    rcases List.mem_cons.mp rest with rfl | last
    · exact absurd earlier (asymm c c earlier)
    · exact absurd earlier (asymm a c ((List.pairwise_cons.mp later).1 c last))

section
variable {r : Pattern} {parts : List Part} {text rest : List Char} {words : List (List Char)}

variable {cut : List Char × List Char}

theorem mem_greedy : cut ∈ greedy r text ↔ cut.1 ++ cut.2 = text ∧ cut.1 ∈ denote r := by
  simp [greedy,mem_cuts,run_isEmpty]

theorem mem_lazy : cut ∈ lazy r text ↔ cut.1 ++ cut.2 = text ∧ cut.1 ∈ denote r := by
  rw [lazy,List.mem_reverse,mem_greedy]

theorem matched_after :
    ((matchParts parts cut.2).map fun matched => (cut.1 :: matched.1,matched.2)) = some (words,rest) ↔
      ∃ others, matchParts parts cut.2 = some (others,rest) ∧ words = cut.1 :: others := by
  rw [Option.map_eq_some_iff]
  constructor
  · rintro ⟨matched,found,same⟩
    cases same
    exact ⟨matched.1,found,rfl⟩
  · rintro ⟨others,found,rfl⟩
    exact ⟨(others,rest),found,rfl⟩

theorem matchParts_greedy (found : matchParts (greedy r :: parts) text = some (words,rest)) :
    ∃ word after others, text = word ++ after ∧ word ∈ denote r ∧ matchParts parts after = some (others,rest) ∧
      words = word :: others ∧
      ∀ longer left, text = longer ++ left → longer ∈ denote r → word.length < longer.length →
        matchParts parts left = none := by
  have ordered : (greedy r text).Pairwise fun a b => b.1.length < a.1.length := (cuts_longest_first text).filter _
  obtain ⟨cut,member,here,failed⟩ := findSome?_first (fun a b => Nat.lt_asymm) ordered found
  obtain ⟨split,inside⟩ := mem_greedy.mp member
  obtain ⟨others,matched,same⟩ := matched_after.mp here
  refine ⟨cut.1,cut.2,others,split.symm,inside,matched,same,?_⟩
  intro longer left splits language exceeds
  exact Option.map_eq_none_iff.mp (failed (longer,left) (mem_greedy.mpr ⟨splits.symm,language⟩) exceeds)

theorem matchParts_lazy (found : matchParts (lazy r :: parts) text = some (words,rest)) :
    ∃ word after others, text = word ++ after ∧ word ∈ denote r ∧ matchParts parts after = some (others,rest) ∧
      words = word :: others ∧
      ∀ shorter left, text = shorter ++ left → shorter ∈ denote r → shorter.length < word.length →
        matchParts parts left = none := by
  have ordered : (lazy r text).Pairwise fun a b => a.1.length < b.1.length := by
    rw [lazy,List.pairwise_reverse]
    exact (cuts_longest_first text).filter _
  obtain ⟨cut,member,here,failed⟩ := findSome?_first (fun a b => Nat.lt_asymm) ordered found
  obtain ⟨split,inside⟩ := mem_lazy.mp member
  obtain ⟨others,matched,same⟩ := matched_after.mp here
  refine ⟨cut.1,cut.2,others,split.symm,inside,matched,same,?_⟩
  intro shorter left splits language less
  exact Option.map_eq_none_iff.mp (failed (shorter,left) (mem_lazy.mpr ⟨splits.symm,language⟩) less)

theorem matchParts_of_mem {part : Part} (cut : List Char × List Char) (member : cut ∈ part text)
    (matched : (matchParts parts cut.2).isSome = true) : (matchParts (part :: parts) text).isSome = true := by
  rw [matchParts,List.findSome?_isSome_iff]
  exact ⟨cut,member,by simpa using matched⟩

theorem matchParts_greedy_isSome (word after : List Char) (split : text = word ++ after) (inside : word ∈ denote r)
    (matched : (matchParts parts after).isSome = true) : (matchParts (greedy r :: parts) text).isSome = true :=
  matchParts_of_mem (word,after) (mem_greedy.mpr ⟨split.symm,inside⟩) matched

theorem matchParts_lazy_isSome (word after : List Char) (split : text = word ++ after) (inside : word ∈ denote r)
    (matched : (matchParts parts after).isSome = true) : (matchParts (lazy r :: parts) text).isSome = true :=
  matchParts_of_mem (word,after) (mem_lazy.mpr ⟨split.symm,inside⟩) matched

end

theorem denote_star_one (p : Char → Bool) (word : List Char) : word ∈ denote (.star (.one p)) ↔ ∀ c ∈ word, p c = true := by
  constructor
  · exact denote_within (r := .star (.one p)) (p := fun c => p c = true) fun _ accepts => accepts
  · intro all
    cases word with
    | nil => exact Language.nil_mem_kstar _
    | cons c cs =>
      have some_more := (denote_plus_one p (c :: cs)).mpr ⟨List.cons_ne_nil c cs,all⟩
      obtain ⟨front,inFront,back,inBack,same⟩ := Language.mem_mul.mp some_more
      obtain ⟨chunks,rfl,each⟩ := Language.mem_kstar.mp inBack
      refine Language.mem_kstar.mpr ⟨front :: chunks,by rw [← same,List.flatten_cons],?_⟩
      intro chunk member
      rcases List.mem_cons.mp member with rfl | member
      · exact inFront
      · exact each chunk member

/-- `[p]{n,}`. -/
def atLeast (n : Nat) (p : Char → Bool) : Pattern := .seq (times n (.one p)) (.star (.one p))

theorem denote_times_one (p : Char → Bool) (n : Nat) (word : List Char) :
    word ∈ denote (times n (.one p)) ↔ word.length = n ∧ ∀ c ∈ word, p c = true := by
  induction n generalizing word with
  | zero =>
    rw [times,denote,Language.mem_one]
    constructor
    · rintro rfl
      exact ⟨rfl,fun c absurd_member => by cases absurd_member⟩
    · exact fun both => List.eq_nil_of_length_eq_zero both.1
  | succ n ih =>
    rw [times,denote,Language.mem_mul]
    constructor
    · rintro ⟨front,⟨c,rfl,accepts⟩,back,inBack,rfl⟩
      obtain ⟨length,all⟩ := (ih back).mp inBack
      refine ⟨by simp [length],?_⟩
      intro d member
      rcases List.mem_cons.mp member with rfl | member
      · exact accepts
      · exact all d member
    · rintro ⟨length,all⟩
      cases word with
      | nil => cases length
      | cons c cs =>
        obtain ⟨here,later⟩ := List.forall_mem_cons.mp all
        exact ⟨[c],⟨c,rfl,here⟩,cs,(ih cs).mpr ⟨by simpa using length,later⟩,rfl⟩

theorem denote_atLeast (n : Nat) (p : Char → Bool) (word : List Char) :
    word ∈ denote (atLeast n p) ↔ n ≤ word.length ∧ ∀ c ∈ word, p c = true := by
  rw [atLeast,denote,Language.mem_mul]
  constructor
  · rintro ⟨front,inFront,back,inBack,rfl⟩
    obtain ⟨length,all⟩ := (denote_times_one p n front).mp inFront
    have more := (denote_star_one p back).mp inBack
    refine ⟨by rw [List.length_append]; omega,?_⟩
    intro c member
    rcases List.mem_append.mp member with first | last
    · exact all c first
    · exact more c last
  · rintro ⟨enough,all⟩
    refine ⟨word.take n,(denote_times_one p n _).mpr ⟨by rw [List.length_take]; omega,?_⟩,word.drop n,
      (denote_star_one p _).mpr ?_,List.take_append_drop n word⟩
    · exact fun c member => all c (List.mem_of_mem_take member)
    · exact fun c member => all c (List.mem_of_mem_drop member)

end Automation.Regex
