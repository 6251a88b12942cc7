import Automation.PyText

/-!
The lines of `str.splitlines()` with the line breaks that end them (`pieces`):
together they are the text again, and those after a line are the pieces of the
text after it. Joined by line feeds and stripped, the lines are the stripped text
exactly if it has no other line breaks (`strip_join_iff`).
-/
namespace Automation.PyText

/-- Lines with what ends each; the last may have no line break. -/
def pieces : List Char → List Char → List (List Char × List Char)
  | [], [] => []
  | line, [] => [(line.reverse,[])]
  | line, '\r' :: '\n' :: cs => (line.reverse,['\r','\n']) :: pieces [] cs
  | line, c :: cs => if isLineBreak c then (line.reverse,[c]) :: pieces [] cs else pieces (c :: line) cs

/-- The text of the pieces. -/
def glue (ps : List (List Char × List Char)) : List Char := ps.flatMap fun p => p.1 ++ p.2

@[simp] theorem glue_nil : glue [] = [] := rfl

@[simp] theorem glue_cons (p : List Char × List Char) (ps : List (List Char × List Char)) :
    glue (p :: ps) = p.1 ++ p.2 ++ glue ps := rfl

theorem glue_append (ps qs : List (List Char × List Char)) : glue (ps ++ qs) = glue ps ++ glue qs :=
  List.flatMap_append

variable {c : Char}

theorem isSpace_of_isLineBreak (ends : isLineBreak c = true) : isSpace c = true := by
  simp only [isLineBreak,List.mem_cons,List.not_mem_nil,or_false,decide_eq_true_eq] at ends
  simp only [isSpace,List.mem_cons,List.not_mem_nil,or_false,decide_eq_true_eq]
  omega

theorem not_isLineBreak (ink : isSpace c = false) : isLineBreak c = false := by
  by_contra ends
  rw [isSpace_of_isLineBreak (by simpa using ends)] at ink
  cases ink

attribute [local simp] pieces splitLines

theorem pieces_end (line : List Char) : pieces line [] = if line = [] then [] else [(line.reverse,[])] := by
  cases line with
  | nil => rfl
  | cons c cs => rfl

theorem pieces_crlf (line cs : List Char) : pieces line ('\r' :: '\n' :: cs) = (line.reverse,['\r','\n']) :: pieces [] cs := by
  cases line with
  | nil => rfl
  | cons c cs => rfl

theorem pieces_break (line : List Char) {cs : List Char} (ends : isLineBreak c = true)
    (single : c = '\r' → cs.head? ≠ some '\n') : pieces line (c :: cs) = (line.reverse,[c]) :: pieces [] cs := by
  rw [pieces]
  · rw [if_pos ends]
  · intro rest first second
    exact single first (by rw [second]; rfl)

theorem pieces_char (line : List Char) (cs : List Char) (inside : isLineBreak c = false) :
    pieces line (c :: cs) = pieces (c :: line) cs := by
  rw [pieces]
  · rw [if_neg (by simp [inside])]
  · intro rest first _
    rw [first] at inside
    exact absurd inside (by decide)

theorem break_cases {motive : List Char → Prop} (empty : motive [])
    (crlf : ∀ cs, motive cs → motive ('\r' :: '\n' :: cs))
    (single : ∀ c cs, isLineBreak c = true → (c = '\r' → cs.head? ≠ some '\n') → motive cs → motive (c :: cs))
    (inside : ∀ c cs, isLineBreak c = false → motive cs → motive (c :: cs)) (text : List Char) : motive text := by
  induction length : text.length using Nat.strong_induction_on generalizing text with
  | _ n ih =>
    subst length
    cases text with
    | nil => exact empty
    | cons c cs =>
      have rest : motive cs := ih cs.length (by simp) cs rfl
      by_cases ends : isLineBreak c = true
      · by_cases joined : c = '\r' ∧ cs.head? = some '\n'
        · obtain ⟨rfl,second⟩ := joined
          cases cs with
          | nil => cases second
          | cons d ds =>
            cases Option.some.inj second
            exact crlf ds (ih ds.length (by rw [List.length_cons,List.length_cons]; omega) ds rfl)
        · exact single c cs ends (fun first second => joined ⟨first,second⟩) rest
      · exact inside c cs (by simpa using ends) rest

theorem splitLines_char (line : List Char) (cs : List Char) (inside : isLineBreak c = false) :
    splitLines line (c :: cs) = splitLines (c :: line) cs := by
  rw [splitLines]
  · rw [if_neg (by simp [inside])]
  · intro rest first _
    rw [first] at inside
    exact absurd inside (by decide)

theorem pieces_lines (line text : List Char) : (pieces line text).map Prod.fst = splitLines line text := by
  induction text using break_cases generalizing line with
  | empty =>
    cases line with
    | nil => rfl
    | cons c cs => rfl
  | crlf cs ih =>
    rw [pieces_crlf,List.map_cons,ih]
    cases line with
    | nil => rfl
    | cons c cs => rfl
  | single c cs ends alone ih =>
    rw [pieces_break line ends alone,List.map_cons,ih,splitLines]
    · rw [if_pos ends]
    · intro rest first second
      exact alone first (by rw [second]; rfl)
  | inside c cs inside ih =>
    rw [pieces_char line cs inside,ih,splitLines_char line cs inside]

theorem glue_pieces (line text : List Char) : glue (pieces line text) = line.reverse ++ text := by
  induction text using break_cases generalizing line with
  | empty =>
    rw [pieces_end]
    by_cases none_read : line = []
    · simp [none_read]
    · simp [none_read]
  | crlf cs ih =>
    rw [pieces_crlf,glue_cons,ih]
    simp
  | single c cs ends alone ih =>
    rw [pieces_break line ends alone,glue_cons,ih]
    simp
  | inside c cs inside ih =>
    rw [pieces_char line cs inside,ih]
    simp

theorem pieces_tail {line text : List Char} {p : List Char × List Char} {ps : List (List Char × List Char)}
    (cut : pieces line text = p :: ps) : ps = pieces [] (glue ps) := by
  induction text using break_cases generalizing line with
  | empty =>
    rw [pieces_end] at cut
    by_cases none_read : line = []
    · rw [if_pos none_read] at cut
      cases cut
    · rw [if_neg none_read] at cut
      cases cut
      rfl
  | crlf cs ih =>
    rw [pieces_crlf] at cut
    cases cut
    rw [glue_pieces]
    rfl
  | single c cs ends alone ih =>
    rw [pieces_break line ends alone] at cut
    cases cut
    rw [glue_pieces]
    rfl
  | inside c cs inside ih =>
    rw [pieces_char line cs inside] at cut
    exact ih cut

theorem pieces_suffix (line text : List Char) (p : List Char × List Char) (ps : List (List Char × List Char))
    {qs : List (List Char × List Char)} (cut : pieces line text = p :: ps ++ qs) : qs = pieces [] (glue qs) := by
  induction ps generalizing line text p with
  | nil => exact pieces_tail cut
  | cons next ps ih =>
    have rest := pieces_tail cut
    exact ih [] _ next rest.symm

theorem pieces_append_newline (line front back : List Char) :
    pieces line (front ++ '\n' :: back) = pieces line (front ++ ['\n']) ++ pieces [] back := by
  induction front using break_cases generalizing line with
  | empty =>
    have feed (others : List Char) : pieces line ('\n' :: others) = (line.reverse,['\n']) :: pieces [] others :=
      pieces_break line (by decide) fun impossible => absurd impossible (by decide)
    rw [List.nil_append,List.nil_append,feed,feed]
    rfl
  | crlf cs ih => simp only [List.cons_append,pieces_crlf,ih]
  | single c cs ends alone ih =>
    rw [List.cons_append,List.cons_append]
    by_cases joined : c = '\r' ∧ cs = []
    · obtain ⟨rfl,rfl⟩ := joined
      simp only [List.nil_append,pieces_crlf]
      rfl
    · have apart (others : List Char) : c = '\r' → (cs ++ '\n' :: others).head? ≠ some '\n' := by
        intro first
        cases cs with
        | nil => exact absurd ⟨first,rfl⟩ joined
        | cons d ds => exact alone first
      rw [pieces_break line ends (apart back),pieces_break line ends (apart []),ih,List.cons_append]
  | inside c cs inside ih =>
    rw [List.cons_append,List.cons_append,pieces_char line _ inside,pieces_char line _ inside,ih]

theorem pieces_clean (line text : List Char) (clean : ∀ c ∈ line, isLineBreak c = false) :
    ∀ p ∈ pieces line text, ∀ c ∈ p.1, isLineBreak c = false := by
  induction text using break_cases generalizing line with
  | empty =>
    rw [pieces_end]
    by_cases none_read : line = []
    · simp [none_read]
    · simpa [none_read] using clean
  | crlf cs ih =>
    rw [pieces_crlf]
    exact List.forall_mem_cons.mpr ⟨by simpa using clean,ih [] (by simp)⟩
  | single c cs ends alone ih =>
    rw [pieces_break line ends alone]
    exact List.forall_mem_cons.mpr ⟨by simpa using clean,ih [] (by simp)⟩
  | inside c cs inside ih =>
    rw [pieces_char line cs inside]
    exact ih (c :: line) (List.forall_mem_cons.mpr ⟨inside,clean⟩)

theorem ends_cons {first : List Char × List Char} {others : List (List Char × List Char)}
    (breaks : ∀ c ∈ first.2, isLineBreak c = true) (there : first.2 ≠ [])
    (rest : (∀ p ∈ others, ∀ c ∈ p.2, isLineBreak c = true) ∧
      ∀ ps q qs, others = ps ++ q :: qs → qs ≠ [] → q.2 ≠ []) :
    (∀ p ∈ first :: others, ∀ c ∈ p.2, isLineBreak c = true) ∧
      ∀ ps q qs, first :: others = ps ++ q :: qs → qs ≠ [] → q.2 ≠ [] := by
  refine ⟨List.forall_mem_cons.mpr ⟨breaks,rest.1⟩,?_⟩
  intro ps q qs split more
  cases ps with
  | nil =>
    cases split
    exact there
  | cons p ps => exact rest.2 ps q qs (List.cons.inj split).2 more

theorem pieces_ends (line text : List Char) :
    (∀ p ∈ pieces line text, ∀ c ∈ p.2, isLineBreak c = true) ∧
      ∀ ps q qs, pieces line text = ps ++ q :: qs → qs ≠ [] → q.2 ≠ [] := by
  induction text using break_cases generalizing line with
  | empty =>
    rw [pieces_end]
    by_cases none_read : line = []
    · simp [none_read]
    · rw [if_neg none_read]
      refine ⟨by simp,?_⟩
      intro ps q qs split more
      have length := congrArg List.length split
      have positive := List.length_pos_iff.mpr more
      simp only [List.length_append,List.length_cons,List.length_nil] at length
      omega
  | crlf cs ih =>
    rw [pieces_crlf]
    exact ends_cons (List.all_eq_true.mp (by decide : ['\r','\n'].all isLineBreak = true)) (by simp) (ih [])
  | single c cs ends alone ih =>
    rw [pieces_break line ends alone]
    exact ends_cons (by simpa using ends) (by simp) (ih [])
  | inside c cs inside ih =>
    rw [pieces_char line cs inside]
    exact ih (c :: line)

theorem pieces_run (line : List Char) {run : List Char} (clean : ∀ c ∈ run, isLineBreak c = false) (text : List Char) :
    pieces line (run ++ text) = pieces (run.reverse ++ line) text := by
  induction run generalizing line with
  | nil => rfl
  | cons c cs ih =>
    obtain ⟨here,later⟩ := List.forall_mem_cons.mp clean
    rw [List.cons_append,pieces_char line _ here,ih (c :: line) later]
    simp

theorem mem_glue {ps : List (List Char × List Char)} {p : List Char × List Char} (member : p ∈ ps)
    (inside : c ∈ p.1) : c ∈ glue ps :=
  List.mem_flatMap.mpr ⟨p,member,List.mem_append_left _ inside⟩

theorem pieces_blank (line : List Char) {blank : List Char} (all : ∀ c ∈ blank, isSpace c = true) (nonempty : line ≠ [] ∨ blank ≠ []) :
    ∃ spaces ends ps, pieces line blank = (line.reverse ++ spaces,ends) :: ps ∧ (∀ c ∈ spaces, isSpace c = true) ∧
      ∀ p ∈ ps, ∀ c ∈ p.1, isSpace c = true := by
  have rest {cs : List Char} (blanks : ∀ c ∈ cs, isSpace c = true) : ∀ p ∈ pieces [] cs, ∀ c ∈ p.1, isSpace c = true := by
    intro p member c inside
    have stands := mem_glue member inside
    rw [glue_pieces] at stands
    exact blanks c (by simpa using stands)
  induction blank using break_cases generalizing line with
  | empty =>
    have some_line : line ≠ [] := nonempty.resolve_right (by simp)
    exact ⟨[],[],[],by rw [pieces_end,if_neg some_line,List.append_nil],by simp,by simp⟩
  | crlf cs ih =>
    refine ⟨[],['\r','\n'],pieces [] cs,by rw [pieces_crlf,List.append_nil],by simp,rest ?_⟩
    exact fun c member => all c (List.mem_cons_of_mem _ (List.mem_cons_of_mem _ member))
  | single c cs ends alone ih =>
    refine ⟨[],[c],pieces [] cs,by rw [pieces_break line ends alone,List.append_nil],by simp,rest ?_⟩
    exact fun d member => all d (List.mem_cons_of_mem _ member)
  | inside c cs inside ih =>
    obtain ⟨here,later⟩ := List.forall_mem_cons.mp all
    obtain ⟨spaces,ends,ps,cut,blanks,others⟩ := ih (c :: line) later (.inl (List.cons_ne_nil c line))
    refine ⟨c :: spaces,ends,ps,?_,List.forall_mem_cons.mpr ⟨here,blanks⟩,others⟩
    rw [pieces_char line _ inside,cut]
    simp

section
variable {drop : Char → Bool}

theorem stripBy_append_dropped (front : List Char) {back : List Char} (dropped : ∀ c ∈ back, drop c = true) :
    stripBy drop (front ++ back) = stripBy drop front := by
  have gone : List.rdropWhile drop back = [] := by
    rw [List.rdropWhile_eq_nil_iff]
    exact dropped
  rw [stripBy_eq,stripBy_eq,List.dropWhile_append]
  split
  · next none_left =>
    rw [List.isEmpty_iff] at none_left
    rw [none_left,List.dropWhile_eq_nil_iff.mpr dropped]
  · rw [rdropWhile_append,if_pos gone]

theorem stripBy_dropped_append {front : List Char} (dropped : ∀ c ∈ front, drop c = true) (back : List Char) :
    stripBy drop (front ++ back) = stripBy drop back := by
  have gone : (front ++ back).dropWhile drop = back.dropWhile drop := by
    rw [List.dropWhile_append,List.dropWhile_eq_nil_iff.mpr dropped]
    rfl
  rw [stripBy_eq,stripBy_eq,gone]

/-- A text is what its ends lose around what stays. -/
theorem stripBy_split (drop : Char → Bool) (text : List Char) :
    ∃ front back, text = front ++ stripBy drop text ++ back ∧ (∀ c ∈ front, drop c = true) ∧ ∀ c ∈ back, drop c = true := by
  refine ⟨text.takeWhile drop,List.rtakeWhile drop (text.dropWhile drop),?_,?_,?_⟩
  · rw [stripBy_eq,List.append_assoc,List.rdropWhile_append_rtakeWhile,List.takeWhile_append_dropWhile]
  · intro c member
    exact List.mem_takeWhile_imp member
  · intro c member
    exact List.mem_rtakeWhile_imp member

theorem stripBy_head {text : List Char} {c : Char} {cs : List Char} (kept : stripBy drop text = c :: cs) : drop c = false := by
  have twice := stripBy_stripBy drop text
  rw [kept,stripBy_eq] at twice
  by_contra dropped
  have drops : drop c = true := by simpa using dropped
  have shorter : (List.rdropWhile drop ((c :: cs).dropWhile drop)).length ≤ cs.length := by
    rw [List.dropWhile_cons_of_pos drops]
    exact (List.rdropWhile_prefix drop _).length_le.trans (List.dropWhile_suffix drop).length_le
  rw [twice,List.length_cons] at shorter
  omega

theorem stripBy_last {text : List Char} {c : Char} {cs : List Char} (kept : stripBy drop text = cs ++ [c]) : drop c = false := by
  have twice := stripBy_stripBy drop text
  rw [kept,stripBy_eq] at twice
  by_contra dropped
  have drops : drop c = true := by simpa using dropped
  have last_drops : ∀ d ∈ [c], drop d = true := by simpa using drops
  have same := stripBy_append_dropped cs last_drops
  rw [stripBy_eq,twice] at same
  have shorter : (stripBy drop cs).length ≤ cs.length := by
    rw [stripBy_eq]
    exact (List.rdropWhile_prefix drop _).length_le.trans (List.dropWhile_suffix drop).length_le
  rw [← same,List.length_append,List.length_singleton] at shorter
  omega

end

/-- Every line break is replaced by a line feed. -/
def unixLines : List Char → List Char
  | [] => []
  | '\r' :: '\n' :: cs => '\n' :: unixLines cs
  | c :: cs => (if isLineBreak c then '\n' else c) :: unixLines cs

attribute [local simp] unixLines

theorem unixLines_single {cs : List Char} (single : c = '\r' → cs.head? ≠ some '\n') :
    unixLines (c :: cs) = (if isLineBreak c then '\n' else c) :: unixLines cs := by
  rw [unixLines]
  intro rest first second
  exact single first (by rw [second]; rfl)

theorem unixLines_char (cs : List Char) (inside : isLineBreak c = false) :
    unixLines (c :: cs) = c :: unixLines cs := by
  rw [unixLines_single (fun first => by rw [first] at inside; exact absurd inside (by decide)),inside]
  rfl

theorem splitLines_eq_nil {text : List Char} : splitLines [] text = [] ↔ text = [] := by
  constructor
  · intro none_left
    rw [← pieces_lines,List.map_eq_nil_iff] at none_left
    have glued := glue_pieces [] text
    rw [none_left] at glued
    simpa using glued.symm
  · rintro rfl
    rfl

theorem intercalate_splitLines (line text : List Char) :
    ∃ last, (last = [] ∨ last = ['\n']) ∧
      List.intercalate ['\n'] (splitLines line text) ++ last = line.reverse ++ unixLines text := by
  have ended {line cs : List Char} (ih : ∃ last, (last = [] ∨ last = ['\n']) ∧
      List.intercalate ['\n'] (splitLines [] cs) ++ last = [].reverse ++ unixLines cs) :
      ∃ last, (last = [] ∨ last = ['\n']) ∧
        List.intercalate ['\n'] (line.reverse :: splitLines [] cs) ++ last = line.reverse ++ '\n' :: unixLines cs := by
    obtain ⟨last,short,same⟩ := ih
    cases rest : splitLines [] cs with
    | nil =>
      rw [splitLines_eq_nil.mp rest]
      exact ⟨['\n'],.inr rfl,by simp [unixLines,List.intercalate]⟩
    | cons next others =>
      rw [rest] at same
      refine ⟨last,short,?_⟩
      rw [List.intercalate_cons_cons,List.append_assoc,List.append_assoc,same]
      simp
  rw [← pieces_lines]
  induction text using break_cases generalizing line with
  | empty =>
    rw [pieces_end]
    split
    · next none_read => exact ⟨[],.inl rfl,by simp [none_read,unixLines,List.intercalate]⟩
    · exact ⟨[],.inl rfl,by simp [unixLines,List.intercalate]⟩
  | crlf cs ih =>
    rw [pieces_crlf,List.map_cons,pieces_lines]
    exact ended (by rw [← pieces_lines]; exact ih [])
  | single c cs ends alone ih =>
    rw [pieces_break line ends alone,List.map_cons,pieces_lines,unixLines_single alone,if_pos ends]
    exact ended (by rw [← pieces_lines]; exact ih [])
  | inside c cs inside ih =>
    rw [pieces_char line _ inside,unixLines_char cs inside]
    simpa using ih (c :: line)

theorem strip_joined (text : List Char) :
    stripBy isSpace (List.intercalate ['\n'] (splitLines [] text)) = stripBy isSpace (unixLines text) := by
  obtain ⟨last,short,same⟩ := intercalate_splitLines [] text
  have feeds : ∀ c ∈ last, isSpace c = true := by
    rcases short with rfl | rfl
    · simp
    · exact List.all_eq_true.mp (by decide : ['\n'].all isSpace = true)
  rw [← stripBy_append_dropped _ feeds,same]
  rfl

theorem unixLines_append {front back : List Char} (apart : front.getLast? = some '\r' → back.head? ≠ some '\n') :
    unixLines (front ++ back) = unixLines front ++ unixLines back := by
  induction front using break_cases with
  | empty => rfl
  | crlf cs ih =>
    rw [List.cons_append,List.cons_append,unixLines,unixLines,List.cons_append,ih ?_]
    intro last
    refine apart ?_
    cases cs with
    | nil => cases last
    | cons d ds => simpa [List.getLast?_cons_cons] using last
  | single c cs ends alone ih =>
    have together : c = '\r' → (cs ++ back).head? ≠ some '\n' := by
      intro first
      cases cs with
      | nil => exact apart (by rw [first]; rfl)
      | cons d ds => exact alone first
    rw [List.cons_append,unixLines_single together,unixLines_single alone,List.cons_append,ih ?_]
    intro last
    refine apart ?_
    cases cs with
    | nil => cases last
    | cons d ds => simpa [List.getLast?_cons_cons] using last
  | inside c cs inside ih =>
    rw [List.cons_append,unixLines_char _ inside,unixLines_char _ inside,List.cons_append,ih ?_]
    intro last
    refine apart ?_
    cases cs with
    | nil => cases last
    | cons d ds => simpa [List.getLast?_cons_cons] using last

theorem unixLines_space {blank : List Char} (all : ∀ c ∈ blank, isSpace c = true) : ∀ c ∈ unixLines blank, isSpace c = true := by
  have feed : isSpace '\n' = true := by decide
  induction blank using break_cases with
  | empty => simp [unixLines]
  | crlf cs ih =>
    exact List.forall_mem_cons.mpr ⟨feed,ih fun c member => all c (List.mem_cons_of_mem _ (List.mem_cons_of_mem _ member))⟩
  | single c cs ends alone ih =>
    rw [unixLines_single alone,if_pos ends]
    exact List.forall_mem_cons.mpr ⟨feed,ih (List.forall_mem_cons.mp all).2⟩
  | inside c cs inside ih =>
    obtain ⟨here,later⟩ := List.forall_mem_cons.mp all
    rw [unixLines_char cs inside]
    exact List.forall_mem_cons.mpr ⟨here,ih later⟩

theorem stripBy_unixLines (text : List Char) : stripBy isSpace (unixLines text) = unixLines (stripBy isSpace text) := by
  obtain ⟨front,back,split,before,after⟩ := stripBy_split isSpace text
  cases core : stripBy isSpace text with
  | nil =>
    have blank : ∀ c ∈ text, isSpace c = true := by
      intro c member
      rw [split,core] at member
      rcases List.mem_append.mp member with first | last
      · exact before c (by simpa using first)
      · exact after c last
    have gone := stripBy_dropped_append (unixLines_space blank) []
    rw [List.append_nil] at gone
    rw [gone]
    rfl
  | cons c cs =>
    have ink : isSpace c = false := stripBy_head core
    obtain ⟨init,d,ends⟩ : ∃ init d, c :: cs = init ++ [d] := ⟨_,_,(List.dropLast_append_getLast (List.cons_ne_nil c cs)).symm⟩
    have last_ink : isSpace d = false := stripBy_last (core.trans ends)
    -- the ends of what stays are no part of a line break
    have head_ne : c ≠ '\n' := fun same => by rw [same] at ink; exact absurd ink (by decide)
    have last_ne : d ≠ '\r' := fun same => by rw [same] at last_ink; exact absurd last_ink (by decide)
    have parts : unixLines text = unixLines front ++ unixLines (c :: cs) ++ unixLines back := by
      conv_lhs => rw [split,core]
      rw [unixLines_append,unixLines_append]
      · intro _ feed
        exact head_ne (by simpa using feed)
      · intro last
        rw [ends,← List.append_assoc,List.getLast?_concat] at last
        exact absurd (Option.some.inj last) last_ne
    rw [parts,stripBy_append_dropped _ (unixLines_space after),stripBy_dropped_append (unixLines_space before)]
    apply stripBy_kept
    · intro e first
      rw [unixLines_char cs (not_isLineBreak ink)] at first
      cases Option.some.inj first
      exact ink
    · intro e last
      have single : unixLines [d] = [d] := unixLines_char [] (not_isLineBreak last_ink)
      rw [ends,unixLines_append (fun _ feed => by
        cases Option.some.inj feed
        exact absurd last_ink (by decide)),single,List.getLast?_concat] at last
      cases Option.some.inj last
      exact last_ink

def Plain (text : List Char) : Prop := ∀ c ∈ text, isLineBreak c = true → c = '\n'

theorem unixLines_eq_iff (text : List Char) : unixLines text = text ↔ Plain text := by
  induction text using break_cases with
  | empty => simp [unixLines,Plain]
  | crlf cs ih =>
    constructor
    · intro same
      rw [unixLines] at same
      exact absurd (List.cons.inj same).1 (by decide)
    · intro plain
      exact absurd (plain '\r' List.mem_cons_self (by decide)) (by decide)
  | single c cs ends alone ih =>
    rw [unixLines_single alone,if_pos ends,Plain,List.forall_mem_cons]
    constructor
    · intro same
      obtain ⟨first,rest⟩ := List.cons.inj same
      exact ⟨fun _ => first.symm,ih.mp rest⟩
    · rintro ⟨first,rest⟩
      rw [first ends,ih.mpr rest]
  | inside c cs inside ih =>
    rw [unixLines_char cs inside,Plain,List.forall_mem_cons]
    constructor
    · intro same
      have never : isLineBreak c = true → c = '\n' := fun ends => absurd ends (by simp [inside])
      exact ⟨never,ih.mp (List.cons.inj same).2⟩
    · rintro ⟨-,rest⟩
      rw [ih.mpr rest]

theorem strip_join_iff (text : List Char) :
    stripBy isSpace (List.intercalate ['\n'] (splitLines [] text)) = stripBy isSpace text ↔ Plain (stripBy isSpace text) := by
  rw [strip_joined,stripBy_unixLines,unixLines_eq_iff]

end Automation.PyText
