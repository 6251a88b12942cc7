import Automation.PyLines
import Automation.RegexOrder

/-!
The YAML front matter of a task's description: what the parser's expression
takes for the block, and what the analyser's scan of the lines takes for the text
after it.

The expression allows blank lines before the block, more than three dashes and
indented text behind the line feed that it needs before the closing dashes; the
scan wants the first line and a later one to be `---` but for blanks, and joins
the lines by line feeds. `front_matter_agrees_iff` says for which descriptions they
agree.
-/
namespace Automation.FrontMatter
open Automation.Regex Automation.PyText

def isDash (c : Char) : Bool := c == '-'

def newline : Part := greedy (.one (· == '\n'))

/-- `(?:\n|$)` after `-{3,}\s*`. -/
def closing : List Part := [greedy (atLeast 3 isDash),greedy (.star (.one isSpace)),newlineOrEnd]

/-- `_FRONT_MATTER_RE`: `\A\s*-{3,}\s*\n(?P<body>.*?)\n-{3,}\s*(?:\n|$)`, where `.` is any character. -/
def FRONT_MATTER_RE : List Part :=
  greedy (.star (.one isSpace)) :: greedy (atLeast 3 isDash) :: greedy (.star (.one isSpace)) :: newline ::
    lazy (.star (.one fun _ => true)) :: newline :: closing

/-- The match of the expression: the group `body`, and the text after the match. -/
def front_matter (description : List Char) : Option (List Char × List Char) :=
  match matchParts FRONT_MATTER_RE description with
  | some ([_,_,_,_,body,_,_,_,_],following) => some (body,following)
  | _ => none

/-- `_extract_front_matter_body`. -/
def extract_front_matter_body (description : String) : Option String :=
  if description = "" then none else (front_matter description.toList).map fun block => .ofList block.1

/-- `line.strip() == "---"`. -/
def isFence (line : List Char) : Bool := stripBy isSpace line == ['-','-','-']

def after_fence : List (List Char) → Option (List (List Char))
  | [] => none
  | line :: lines => if isFence line then some lines else after_fence lines

/-- The lines after the block that the scan finds. -/
def scan (lines : List (List Char)) : Option (List (List Char)) :=
  match lines with
  | [] => none
  | first :: rest => if isFence first then after_fence rest else none

def without_frontmatter (description : List Char) : List Char :=
  match scan (splitLines [] description) with
  | some lines => stripBy isSpace (List.intercalate ['\n'] lines)
  | none => stripBy isSpace description

/-- `_description_without_frontmatter`. -/
def description_without_frontmatter (description : String) : String := .ofList (without_frontmatter description.toList)

/-! ### What the expression matches -/

def Blank (text : List Char) : Prop := ∀ c ∈ text, isSpace c = true

def Dashes (text : List Char) : Prop := 3 ≤ text.length ∧ ∀ c ∈ text, isDash c = true

/-- `\s*(?:\n|$)` matches at the front of the text. -/
def Ends (text : List Char) : Prop := Blank text ∨ ∃ blank rest, text = blank ++ '\n' :: rest ∧ Blank blank

/-- `-{3,}\s*(?:\n|$)` matches at the front of the text. -/
def Closes (text : List Char) : Prop := ∃ dashes after, text = dashes ++ after ∧ Dashes dashes ∧ Ends after

/-- No line feed of the text is followed by closing dashes. -/
def Unclosed (text : List Char) : Prop := ∀ front back, text = front ++ '\n' :: back → ¬Closes back

/-- A match of the expression, wherever it ends its repetitions. -/
structure Block (text lead opening gap body close after : List Char) : Prop where
  split : text = lead ++ (opening ++ (gap ++ '\n' :: (body ++ '\n' :: (close ++ after))))
  lead_blank : Blank lead
  opened : Dashes opening
  gap_blank : Blank gap
  closed : Dashes close
  ends : Ends after

/-- The match that `re` finds: the gap is as long as it can be, and then the body as short. -/
structure Match (text lead opening gap body close after : List Char) : Prop
    extends Block text lead opening gap body close after where
  shortest : ∀ front back, body ++ '\n' :: (close ++ after) = front ++ '\n' :: back → front.length < body.length →
    ¬Closes back
  longest : ∀ longer left, gap ++ '\n' :: (body ++ '\n' :: (close ++ after)) = longer ++ '\n' :: left →
    Blank longer → gap.length < longer.length → Unclosed left

theorem matchParts_newline {parts : List Part} {text rest : List Char} {words : List (List Char)}
    (found : matchParts (newline :: parts) text = some (words,rest)) :
    ∃ after others, text = '\n' :: after ∧ matchParts parts after = some (others,rest) ∧ words = ['\n'] :: others := by
  obtain ⟨word,after,others,rfl,⟨c,rfl,feed⟩,matched,rfl,-⟩ := matchParts_greedy found
  have same : c = '\n' := by simpa using feed
  subst same
  exact ⟨after,others,rfl,matched,rfl⟩

variable {after : List Char}

theorem matchParts_newline_isSome {parts : List Part} (matched : (matchParts parts after).isSome = true) :
    (matchParts (newline :: parts) ('\n' :: after)).isSome = true :=
  matchParts_greedy_isSome ['\n'] after rfl ⟨'\n',rfl,rfl⟩ matched

theorem ends_isSome {text : List Char} (ends : Ends text) :
    (matchParts [greedy (.star (.one isSpace)),newlineOrEnd] text).isSome = true := by
  rcases ends with blank | ⟨blank,rest,rfl,spaces⟩
  · refine matchParts_greedy_isSome text [] (by simp) ((denote_star_one _ _).mpr blank) ?_
    exact matchParts_of_mem ([],[]) (by simp [newlineOrEnd]) rfl
  · refine matchParts_greedy_isSome blank _ rfl ((denote_star_one _ _).mpr spaces) ?_
    exact matchParts_of_mem (['\n'],rest) (by simp [newlineOrEnd]) rfl

theorem closing_isSome {text : List Char} (closes : Closes text) : (matchParts closing text).isSome = true := by
  obtain ⟨dashes,after,rfl,three,ends⟩ := closes
  exact matchParts_greedy_isSome dashes after rfl ((denote_atLeast 3 isDash dashes).mpr three) (ends_isSome ends)

theorem mem_newlineOrEnd {text : List Char} {cut : List Char × List Char} (member : cut ∈ newlineOrEnd text) :
    text = cut.1 ++ cut.2 ∧ Blank cut.1 ∧ (text = [] ∨ ∃ rest, text = '\n' :: rest) := by
  have feed : Blank ['\n'] := List.all_eq_true.mp (by decide : ['\n'].all isSpace = true)
  cases text with
  | nil =>
    have same : cut = ([],[]) := by simpa [newlineOrEnd] using member
    rw [same]
    exact ⟨rfl,by simp [Blank],.inl rfl⟩
  | cons c cs =>
    by_cases here : c = '\n'
    · subst here
      rw [newlineOrEnd,if_pos rfl] at member
      rcases List.mem_cons.mp member with rfl | last
      · exact ⟨rfl,feed,.inr ⟨cs,rfl⟩⟩
      · by_cases none_left : cs.isEmpty = true
        · rw [if_pos none_left] at last
          rw [List.isEmpty_iff.mp none_left,List.mem_singleton.mp last]
          exact ⟨rfl,by simp [Blank],.inr ⟨[],rfl⟩⟩
        · rw [if_neg none_left] at last
          cases last
    · rw [newlineOrEnd,if_neg here] at member
      cases member

theorem closing_some {text following : List Char} {words : List (List Char)}
    (found : matchParts closing text = some (words,following)) :
    ∃ dashes after blank, text = dashes ++ after ∧ Dashes dashes ∧ Ends after ∧ after = blank ++ following ∧ Blank blank ∧
      ∃ second third, words = [dashes,second,third] := by
  obtain ⟨dashes,after,others,rfl,inside,matched,rfl,-⟩ := matchParts_greedy found
  obtain ⟨spaces,left,more,rfl,blanks,last,rfl,-⟩ := matchParts_greedy matched
  rw [denote_star_one] at blanks
  rw [matchParts] at last
  obtain ⟨cut,member,taken⟩ := List.exists_of_findSome?_eq_some last
  simp only [matchParts,Option.map_some,Option.some.injEq,Prod.mk.injEq] at taken
  obtain ⟨rfl,rfl⟩ := taken
  obtain ⟨same,blank,end_or_feed⟩ := mem_newlineOrEnd member
  have all_blank : Blank (spaces ++ cut.1) := by
    intro c stands
    rcases List.mem_append.mp stands with first | second
    · exact blanks c first
    · exact blank c second
  refine ⟨dashes,spaces ++ left,spaces ++ cut.1,rfl,(denote_atLeast 3 isDash dashes).mp inside,?_,?_,all_blank,spaces,cut.1,rfl⟩
  · rcases end_or_feed with rfl | ⟨rest,rfl⟩
    · exact .inl (by simpa [Blank] using blanks)
    · exact .inr ⟨spaces,rest,rfl,blanks⟩
  · rw [List.append_assoc,← same]

/-- The body and the closing part, after the line feed of the opening. -/
def rest_parts : List Part := lazy (.star (.one fun _ => true)) :: newline :: closing

theorem rest_isSome (front : List Char) {back : List Char} (closes : Closes back) :
    (matchParts rest_parts (front ++ '\n' :: back)).isSome = true :=
  matchParts_lazy_isSome _ _ rfl ((denote_star_one _ _).mpr fun _ _ => rfl) (matchParts_newline_isSome (closing_isSome closes))

theorem rest_none {text : List Char} (failed : matchParts rest_parts text = none) : Unclosed text := by
  rintro front back rfl closes
  have found := rest_isSome front closes
  rw [failed] at found
  cases found

/-- The expression finds a match of the kind, and nothing but white space is between it and what follows. -/
theorem front_matter_some {text body following : List Char} (found : front_matter text = some (body,following)) :
    ∃ lead opening gap close after blank, Match text lead opening gap body close after ∧ after = blank ++ following ∧
      Blank blank := by
  cases matched : matchParts FRONT_MATTER_RE text with
  | none =>
    rw [front_matter,matched] at found
    cases found
  | some result =>
    obtain ⟨words,last⟩ := result
    have whole := matched
    obtain ⟨lead,text₁,words₁,rfl,leads,matched₁,rfl,-⟩ := matchParts_greedy matched
    obtain ⟨opening,text₂,words₂,rfl,opens,matched₂,rfl,-⟩ := matchParts_greedy matched₁
    obtain ⟨gap,text₃,words₃,rfl,gaps,matched₃,rfl,longest⟩ := matchParts_greedy matched₂
    obtain ⟨text₄,words₄,rfl,matched₄,rfl⟩ := matchParts_newline matched₃
    obtain ⟨body',text₅,words₅,rfl,-,matched₅,rfl,shortest⟩ := matchParts_lazy matched₄
    obtain ⟨text₆,words₆,rfl,matched₆,rfl⟩ := matchParts_newline matched₅
    obtain ⟨dashes,after,blank,rfl,three,ends,split,blanks,second,third,rfl⟩ := closing_some matched₆
    rw [front_matter,whole] at found
    cases found
    have block : Block _ lead opening gap body dashes after :=
      ⟨rfl,(denote_star_one _ _).mp leads,(denote_atLeast 3 isDash opening).mp opens,(denote_star_one _ _).mp gaps,three,ends⟩
    refine ⟨lead,opening,gap,dashes,after,blank,⟨block,?_,?_⟩,split,blanks⟩
    · intro front back splits less closes
      have failed := shortest front ('\n' :: back) splits ((denote_star_one _ _).mpr fun _ _ => rfl) less
      have works := matchParts_newline_isSome (closing_isSome closes)
      rw [failed] at works
      cases works
    · intro longer left splits spaces exceeds
      have failed := longest longer ('\n' :: left) splits ((denote_star_one _ _).mpr spaces) exceeds
      apply rest_none
      by_contra works
      have some_rest : (matchParts rest_parts left).isSome = true := Option.isSome_iff_ne_none.mpr works
      have more := matchParts_newline_isSome some_rest
      rw [rest_parts,failed] at more
      cases more

theorem front_matter_isSome {text lead opening gap body close after : List Char}
    (block : Block text lead opening gap body close after) : ∃ found, front_matter text = some found := by
  have works : (matchParts FRONT_MATTER_RE text).isSome = true := by
    rw [block.split]
    refine matchParts_greedy_isSome _ _ rfl ((denote_star_one _ _).mpr block.lead_blank) ?_
    refine matchParts_greedy_isSome _ _ rfl ((denote_atLeast 3 isDash _).mpr block.opened) ?_
    refine matchParts_greedy_isSome _ _ rfl ((denote_star_one _ _).mpr block.gap_blank) ?_
    exact matchParts_newline_isSome (rest_isSome _ ⟨close,after,rfl,block.closed,block.ends⟩)
  obtain ⟨⟨words,last⟩,matched⟩ := Option.isSome_iff_exists.mp works
  have whole := matched
  obtain ⟨lead',text₁,words₁,-,-,matched₁,rfl,-⟩ := matchParts_greedy matched
  obtain ⟨opening',text₂,words₂,rfl,-,matched₂,rfl,-⟩ := matchParts_greedy matched₁
  obtain ⟨gap',text₃,words₃,rfl,-,matched₃,rfl,-⟩ := matchParts_greedy matched₂
  obtain ⟨text₄,words₄,rfl,matched₄,rfl⟩ := matchParts_newline matched₃
  obtain ⟨body',text₅,words₅,rfl,-,matched₅,rfl,-⟩ := matchParts_lazy matched₄
  obtain ⟨text₆,words₆,rfl,matched₆,rfl⟩ := matchParts_newline matched₅
  obtain ⟨dashes,after',blank,rfl,-,-,-,-,second,third,rfl⟩ := closing_some matched₆
  exact ⟨(body',last),by rw [front_matter,whole]⟩

/-! ### Runs of characters -/

variable {front front' back back' : List Char}

theorem run_eq {p : Char → Bool} (same : front ++ back = front' ++ back')
    (inside : ∀ c ∈ front, p c = true) (inside' : ∀ c ∈ front', p c = true) (stops : ∀ c ∈ back.head?, p c = false)
    (stops' : ∀ c ∈ back'.head?, p c = false) : front = front' ∧ back = back' := by
  rcases List.append_eq_append_iff.mp same with ⟨more,rfl,rfl⟩ | ⟨more,rfl,rfl⟩
  · cases more with
    | nil => simp
    | cons c cs =>
      have out := stops c (by simp)
      rw [inside' c (by simp)] at out
      cases out
  · cases more with
    | nil => simp
    | cons c cs =>
      have out := stops' c (by simp)
      rw [inside c (by simp)] at out
      cases out

theorem last_run_eq {p : Char → Bool} {c d : Char}
    (same : front ++ c :: back = front' ++ d :: back') (inside : ∀ e ∈ back, p e = true) (inside' : ∀ e ∈ back', p e = true)
    (stops : p c = false) (stops' : p d = false) : front = front' ∧ c = d ∧ back = back' := by
  rcases List.append_eq_append_iff.mp same with ⟨more,rfl,rest⟩ | ⟨more,rfl,rest⟩
  · cases more with
    | nil =>
      obtain ⟨rfl,rfl⟩ := List.cons.inj rest
      exact ⟨by simp,rfl,rfl⟩
    | cons e es =>
      obtain ⟨rfl,rfl⟩ := List.cons.inj rest
      rw [inside d (by simp)] at stops'
      cases stops'
  · cases more with
    | nil =>
      obtain ⟨rfl,rfl⟩ := List.cons.inj rest
      exact ⟨by simp,rfl,rfl⟩
    | cons e es =>
      obtain ⟨rfl,rfl⟩ := List.cons.inj rest
      rw [inside' c (by simp)] at stops
      cases stops

def fence : List Char := ['-','-','-']

theorem mem_fence {c : Char} (member : c ∈ fence) : c = '-' := by simpa [fence] using member

theorem dashes_fence : Dashes fence := ⟨by decide,fun c member => by rw [mem_fence member]; decide⟩

theorem dash_not_space {c : Char} (dash : isDash c = true) : isSpace c = false := by
  have same : c = '-' := by simpa [isDash] using dash
  rw [same]
  decide

theorem space_not_dash {c : Char} (space : isSpace c = true) : isDash c = false := by
  by_contra dash
  rw [dash_not_space (by simpa using dash)] at space
  cases space

theorem feed_not_dash : isDash '\n' = false := by decide

theorem Dashes.cons {dashes : List Char} (three : Dashes dashes) : ∃ more, dashes = '-' :: more := by
  obtain ⟨long,all⟩ := three
  cases dashes with
  | nil => exact absurd long (by decide)
  | cons c cs =>
    have dash : c = '-' := by simpa [isDash] using all c List.mem_cons_self
    exact ⟨cs,by rw [dash]⟩

theorem Ends.head (ends : Ends after) : ∀ c ∈ after.head?, isDash c = false := by
  intro c first
  rcases ends with blank | ⟨blank,rest,rfl,spaces⟩
  · exact space_not_dash (blank c (List.mem_of_mem_head? first))
  · cases blank with
    | nil =>
      cases Option.some.inj first
      exact feed_not_dash
    | cons d ds =>
      cases Option.some.inj first
      exact space_not_dash (spaces _ List.mem_cons_self)

theorem blank_head {gap after : List Char} (blank : Blank gap) : ∀ c ∈ (gap ++ '\n' :: after).head?, isDash c = false := by
  intro c first
  cases gap with
  | nil =>
    cases Option.some.inj first
    exact feed_not_dash
  | cons d ds =>
    cases Option.some.inj first
    exact space_not_dash (blank _ List.mem_cons_self)

theorem opening_head {dashes after : List Char} (three : Dashes dashes) :
    ∀ c ∈ (dashes ++ after).head?, isSpace c = false := by
  obtain ⟨more,rfl⟩ := three.cons
  intro c first
  cases Option.some.inj first
  decide

/-! ### The characters that are not white space -/

def ink (text : List Char) : Nat := text.countP fun c => !isSpace c

theorem ink_append (front back : List Char) : ink (front ++ back) = ink front + ink back := List.countP_append

theorem ink_cons (c : Char) (cs : List Char) : ink (c :: cs) = ink [c] + ink cs := ink_append [c] cs

theorem ink_feed (cs : List Char) : ink ('\n' :: cs) = ink cs := by
  have feed : ink ['\n'] = 0 := by decide
  rw [ink_cons,feed,Nat.zero_add]

theorem ink_blank {text : List Char} (blank : Blank text) : ink text = 0 := by
  rw [ink,List.countP_eq_zero]
  intro c member
  simp [blank c member]

theorem ink_dashes {text : List Char} (three : Dashes text) : 3 ≤ ink text := by
  have all : ink text = text.length := by
    rw [ink,List.countP_eq_length]
    intro c member
    simp [dash_not_space (three.2 c member)]
  rw [all]
  exact three.1

theorem ink_strip (text : List Char) : ink (stripBy isSpace text) = ink text := by
  obtain ⟨front,back,split,before,after⟩ := stripBy_split isSpace text
  conv_rhs => rw [split]
  rw [ink_append,ink_append,ink_blank before,ink_blank after,Nat.zero_add,Nat.add_zero]

theorem ink_unixLines (text : List Char) : ink (unixLines text) = ink text := by
  induction text using break_cases with
  | empty => rfl
  | crlf cs ih =>
    have feeds : ink ['\r'] = 0 ∧ ink ['\n'] = 0 := by decide
    rw [unixLines,ink_cons,ink_cons '\r',ink_cons '\n' cs,ih,feeds.1,feeds.2,Nat.zero_add,Nat.zero_add]
  | single c cs ends alone ih =>
    rw [unixLines_single alone,if_pos ends,ink_cons,ink_cons c cs,ih]
    have blank : Blank [c] := by simpa [Blank] using isSpace_of_isLineBreak ends
    have space := ink_blank blank
    have feed : ink ['\n'] = 0 := by decide
    rw [space,feed]
  | inside c cs inside ih => rw [unixLines_char cs inside,ink_cons,ink_cons c cs,ih]

theorem ink_joined (text : List Char) :
    ink (stripBy isSpace (List.intercalate ['\n'] (splitLines [] text))) = ink text := by
  rw [strip_joined,ink_strip,ink_unixLines]

theorem same_cut (same : front ++ '-' :: back = front' ++ '-' :: back')
    (inks : ink back = ink back') : front = front' ∧ back = back' := by
  have dash : ink ['-'] = 1 := by decide
  rcases List.append_eq_append_iff.mp same with ⟨more,rfl,rest⟩ | ⟨more,rfl,rest⟩
  · cases more with
    | nil => exact ⟨by simp,(List.cons.inj rest).2⟩
    | cons c cs =>
      have tail : back = cs ++ '-' :: back' := (List.cons.inj rest).2
      rw [tail,ink_append,ink_cons '-',dash] at inks
      omega
  · cases more with
    | nil => exact ⟨by simp,(List.cons.inj rest).2.symm⟩
    | cons c cs =>
      have tail : back' = cs ++ '-' :: back := (List.cons.inj rest).2
      rw [tail,ink_append,ink_cons '-',dash] at inks
      omega

/-! ### What the scan finds -/

theorem isFence_iff (line : List Char) : isFence line = true ↔ stripBy isSpace line = fence := by
  rw [isFence,beq_iff_eq]
  rfl

theorem isFence_split {line : List Char} (fenced : isFence line = true) :
    ∃ front back, line = front ++ (fence ++ back) ∧ Blank front ∧ Blank back := by
  obtain ⟨front,back,split,before,after⟩ := stripBy_split isSpace line
  rw [(isFence_iff line).mp fenced,List.append_assoc] at split
  exact ⟨front,back,split,before,after⟩

theorem isFence_around {front back : List Char} (before : Blank front) (after : Blank back) :
    isFence (front ++ (fence ++ back)) = true := by
  rw [isFence_iff,stripBy_dropped_append before,stripBy_append_dropped _ after]
  decide

theorem blank_not_fence {line : List Char} (blank : Blank line) : isFence line = false := by
  have gone := stripBy_dropped_append blank []
  rw [List.append_nil] at gone
  rw [isFence,gone]
  decide

theorem after_fence_eq {lines : List (List Char)} (clear : ∀ line ∈ lines, isFence line = false) {line : List Char}
    (fenced : isFence line = true) (rest : List (List Char)) : after_fence (lines ++ line :: rest) = some rest := by
  induction lines with
  | nil => rw [List.nil_append,after_fence,if_pos fenced]
  | cons first lines ih =>
    obtain ⟨here,later⟩ := List.forall_mem_cons.mp clear
    rw [List.cons_append,after_fence,if_neg (by simp [here]),ih later]

theorem after_fence_some {lines rest : List (List Char)} (found : after_fence lines = some rest) :
    ∃ before line, lines = before ++ line :: rest ∧ isFence line = true ∧ ∀ line ∈ before, isFence line = false := by
  induction lines with
  | nil => cases found
  | cons first lines ih =>
    rw [after_fence] at found
    split at found
    · next fenced =>
      cases found
      exact ⟨[],first,rfl,fenced,by simp⟩
    · next clear =>
      obtain ⟨before,line,rfl,fenced,others⟩ := ih found
      exact ⟨first :: before,line,rfl,fenced,List.forall_mem_cons.mpr ⟨by simpa using clear,others⟩⟩

def HasFences (text : List Char) : Prop :=
  ∃ first rest, splitLines [] text = first :: rest ∧ isFence first = true ∧ ∃ line ∈ rest, isFence line = true

theorem after_fence_isSome {lines : List (List Char)} : (after_fence lines).isSome = true ↔ ∃ line ∈ lines, isFence line = true := by
  induction lines with
  | nil => simp [after_fence]
  | cons first lines ih =>
    rw [after_fence]
    by_cases fenced : isFence first = true
    · simp [fenced]
    · simp [fenced,ih]

theorem hasFences_iff (text : List Char) : HasFences text ↔ (scan (splitLines [] text)).isSome = true := by
  constructor
  · rintro ⟨first,rest,lines,fenced,more⟩
    rw [lines,scan,if_pos fenced]
    exact after_fence_isSome.mpr more
  · intro found
    cases lines : splitLines [] text with
    | nil =>
      rw [lines] at found
      cases found
    | cons first rest =>
      rw [lines,scan] at found
      by_cases fenced : isFence first = true
      · rw [if_pos fenced] at found
        exact ⟨first,rest,lines,fenced,after_fence_isSome.mp found⟩
      · rw [if_neg fenced] at found
        cases found

/-- The pieces of a text in which the scan finds a block. -/
structure Scanned (text : List Char) (first last : List Char × List Char) (between rest : List (List Char × List Char)) : Prop where
  cut : pieces [] text = first :: between ++ last :: rest
  first_fence : isFence first.1 = true
  last_fence : isFence last.1 = true
  clear : ∀ p ∈ between, isFence p.1 = false

theorem scan_some {text : List Char} {lines : List (List Char)} (found : scan (splitLines [] text) = some lines) :
    ∃ first last between rest, Scanned text first last between rest ∧ lines = splitLines [] (glue rest) := by
  rw [← pieces_lines] at found
  cases cut : pieces [] text with
  | nil =>
    rw [cut] at found
    cases found
  | cons first others =>
    rw [cut,List.map_cons,scan] at found
    by_cases fenced : isFence first.1 = true
    · rw [if_pos fenced] at found
      obtain ⟨before,line,split,fenced_line,clear⟩ := after_fence_some found
      obtain ⟨between,more,rfl,rfl,rest_lines⟩ := List.map_eq_append_iff.mp split
      obtain ⟨last,rest,rfl,rfl,rfl⟩ := List.map_eq_cons_iff.mp rest_lines
      refine ⟨first,last,between,rest,⟨cut,fenced,fenced_line,?_⟩,?_⟩
      · intro p member
        exact clear p.1 (List.mem_map_of_mem member)
      · have suffix : rest = pieces [] (glue rest) := by
          apply pieces_suffix [] text first (between ++ [last])
          rw [cut]
          simp
        rw [← pieces_lines,← suffix]
    · rw [if_neg fenced] at found
      cases found

variable {between rest : List (List Char × List Char)} {first last : List Char × List Char}

theorem Scanned.text {text : List Char}
    (scanned : Scanned text first last between rest) :
    text = glue (first :: between) ++ (last.1 ++ (last.2 ++ glue rest)) := by
  have glued := glue_pieces [] text
  rw [scanned.cut,glue_append,glue_cons last rest,List.append_assoc] at glued
  simpa using glued.symm

theorem Scanned.last_blank {text : List Char} (scanned : Scanned text first last between rest) : Blank last.2 := by
  intro c member
  refine isSpace_of_isLineBreak ((pieces_ends [] text).1 last ?_ c member)
  rw [scanned.cut]
  simp

theorem Scanned.before {text : List Char} (scanned : Scanned text first last between rest) :
    ∃ front c, glue (first :: between) = front ++ [c] ∧ isLineBreak c = true := by
  obtain ⟨ps,q,split⟩ : ∃ ps q, first :: between = ps ++ [q] :=
    ⟨_,_,(List.dropLast_append_getLast (List.cons_ne_nil first between)).symm⟩
  have cut : pieces [] text = ps ++ q :: (last :: rest) := by
    rw [scanned.cut,split]
    simp
  obtain ⟨ends,some_break⟩ := pieces_ends [] text
  have nonempty : q.2 ≠ [] := some_break ps q (last :: rest) cut (List.cons_ne_nil last rest)
  obtain ⟨front,c,breaks⟩ : ∃ front c, q.2 = front ++ [c] := ⟨_,_,(List.dropLast_append_getLast nonempty).symm⟩
  refine ⟨glue ps ++ (q.1 ++ front),c,?_,ends q (by rw [cut]; simp) c (by rw [breaks]; simp)⟩
  rw [split,glue_append,glue_cons,breaks]
  simp

/-! ### Where they agree -/

/-- A block that both recognise, and of which they think the same: its opening is the
    first line, exactly three dashes but for blanks; no line of its body is a fence or
    could be closing dashes; the closing is exactly three dashes right after a line feed,
    with white space up to a line feed or the end; after a blank body no more closing
    dashes follow, for the expression would take these; and the text after the block,
    stripped, has no other line breaks than line feeds. -/
structure Framed (text lead gap body after : List Char) : Prop where
  split : text = lead ++ (fence ++ (gap ++ '\n' :: (body ++ '\n' :: (fence ++ after))))
  lead_blank : Blank lead
  lead_clean : ∀ c ∈ lead, isLineBreak c = false
  gap_blank : Blank gap
  ends : Ends after
  unfenced : ∀ line ∈ splitLines [] (body ++ ['\n']), isFence line = false
  unclosed : ∀ front back, body ++ '\n' :: (fence ++ after) = front ++ '\n' :: back → front.length < body.length → ¬Closes back
  blank_body : Blank body → Unclosed after
  plain : Plain (stripBy isSpace after)

theorem Framed.block {text lead gap body after : List Char} (framed : Framed text lead gap body after) :
    Block text lead fence gap body fence after :=
  ⟨framed.split,framed.lead_blank,dashes_fence,framed.gap_blank,dashes_fence,framed.ends⟩

theorem closes_fence (ends : Ends after) : Closes (fence ++ after) := ⟨fence,after,rfl,dashes_fence,ends⟩

theorem fence_feed {after front back : List Char} (split : fence ++ after = front ++ '\n' :: back) :
    ∃ more, after = more ++ '\n' :: back := by
  rcases List.append_eq_append_iff.mp split with ⟨more,-,rest⟩ | ⟨more,dashes,rest⟩
  · exact ⟨more,rest⟩
  · cases more with
    | nil => exact ⟨[],by simpa using rest.symm⟩
    | cons c cs =>
      obtain ⟨rfl,-⟩ := List.cons.inj rest
      have member : '\n' ∈ fence := by rw [dashes]; simp
      exact absurd member (by decide)

theorem Framed.after_eq {text lead gap body after : List Char} (framed : Framed text lead gap body after)
    {lead' opening' gap' body' close' after' : List Char} (found : Match text lead' opening' gap' body' close' after') :
    after' = after := by
  have whole := found.split
  rw [framed.split] at whole
  obtain ⟨-,opened⟩ := run_eq whole framed.lead_blank found.lead_blank (opening_head dashes_fence) (opening_head found.opened)
  obtain ⟨-,inner⟩ := run_eq opened dashes_fence.2 found.opened.2 (blank_head framed.gap_blank) (blank_head found.gap_blank)
  have closes : Closes (fence ++ after) := closes_fence framed.ends
  have closes' : Closes (close' ++ after') := ⟨close',after',rfl,found.closed,found.ends⟩
  have finish (same : fence ++ after = close' ++ after') : after' = after :=
    (run_eq same dashes_fence.2 found.closed.2 framed.ends.head found.ends.head).2.symm
  -- the same line feed ends both bodies, for neither has an earlier one that would do
  have bodies {front front' : List Char} (same : front ++ '\n' :: (fence ++ after) = front' ++ '\n' :: (close' ++ after'))
      (first : ¬front.length < front'.length) (first' : ¬front'.length < front.length) : after' = after := by
    have length : front.length = front'.length := by omega
    obtain ⟨-,rest⟩ := List.append_inj same length
    exact finish (List.cons.inj rest).2
  rcases List.append_eq_append_iff.mp inner with ⟨more,gaps,rest⟩ | ⟨more,gaps,rest⟩
  · cases more with
    | nil =>
      have same : body ++ '\n' :: (fence ++ after) = body' ++ '\n' :: (close' ++ after') := (List.cons.inj rest).2
      exact bodies same (fun less => found.shortest _ _ same.symm less closes) fun less =>
        framed.unclosed _ _ same less closes'
    | cons c more =>
      obtain ⟨rfl,inside⟩ := List.cons.inj rest
      have more_blank : Blank more := fun d member => found.gap_blank d (by rw [gaps]; simp [member])
      have over_body (blank : Blank body) (left : fence ++ after = body' ++ '\n' :: (close' ++ after')) : after' = after := by
        obtain ⟨others,split⟩ := fence_feed left
        exact absurd closes' (framed.blank_body blank others _ split)
      rcases List.append_eq_append_iff.mp inside with ⟨others,longer,left⟩ | ⟨others,longer,left⟩
      · cases others with
        | nil =>
          rw [List.append_nil] at longer
          exact over_body (longer ▸ more_blank) (List.cons.inj left).2
        | cons d others =>
          -- the longer gap would run into the dashes
          have dashes : fence ++ after = others ++ '\n' :: (body' ++ '\n' :: (close' ++ after')) := (List.cons.inj left).2
          cases others with
          | nil => exact absurd (List.cons.inj dashes).1 (by decide)
          | cons e others =>
            obtain ⟨same,-⟩ := List.cons.inj dashes
            have space := more_blank e (by rw [longer]; simp)
            rw [← same] at space
            exact absurd space (by decide)
      · cases others with
        | nil =>
          rw [List.append_nil] at longer
          exact over_body (longer ▸ more_blank) (List.cons.inj left).2.symm
        | cons d others =>
          obtain ⟨rfl,-⟩ := List.cons.inj left
          have later : body' ++ '\n' :: (close' ++ after') = others ++ '\n' :: (fence ++ after) := (List.cons.inj left).2
          refine bodies later.symm (fun less => found.shortest _ _ later less closes) fun less => ?_
          refine framed.unclosed (more ++ '\n' :: body') _ ?_ ?_ closes'
          · rw [longer,List.append_assoc,List.append_assoc,List.cons_append,List.cons_append,← later]
          · rw [longer,List.length_append,List.length_append,List.length_cons,List.length_cons]
            omega
  · cases more with
    | nil =>
      have same : body ++ '\n' :: (fence ++ after) = body' ++ '\n' :: (close' ++ after') := (List.cons.inj rest).2.symm
      exact bodies same (fun less => found.shortest _ _ same.symm less closes) fun less =>
        framed.unclosed _ _ same less closes'
    | cons c more =>
      -- the gap of the frame would have done
      have longer : gap'.length < gap.length := by
        rw [gaps,List.length_append,List.length_cons]
        omega
      exact absurd closes (found.longest gap _ inner.symm framed.gap_blank longer body _ rfl)

theorem fence_clean : ∀ c ∈ fence, isLineBreak c = false := by
  intro c member
  rw [mem_fence member]
  decide

/-- A line of dashes that the expression can close with is a fence, and the text after
    it is the text after the dashes but for white space. -/
theorem pieces_closing (ends : Ends after) :
    ∃ first rest, pieces [] (fence ++ after) = first :: rest ∧ isFence first.1 = true ∧
      stripBy isSpace after = stripBy isSpace (glue rest) := by
  have read : pieces [] (fence ++ after) = pieces fence.reverse after := pieces_run [] fence_clean after
  have cut : ∃ spaces ends rest, pieces fence.reverse after = (fence ++ spaces,ends) :: rest ∧ Blank spaces := by
    rcases ends with blank | ⟨blank,rest,rfl,spaces⟩
    · obtain ⟨spaces,ends,rest,cut,blanks,-⟩ := pieces_blank fence.reverse blank (.inl (by decide))
      exact ⟨spaces,ends,rest,cut,blanks⟩
    · have feed : Blank (blank ++ ['\n']) := by
        intro c member
        rcases List.mem_append.mp member with first | last
        · exact spaces c first
        · rw [List.mem_singleton.mp last]
          decide
      obtain ⟨more,ends,others,cut,blanks,-⟩ := pieces_blank fence.reverse feed (.inl (by decide))
      exact ⟨more,ends,others ++ pieces [] rest,by rw [pieces_append_newline,cut]; rfl,blanks⟩
  obtain ⟨spaces,breaks,rest,cut,blanks⟩ := cut
  have no_front : Blank [] := by simp [Blank]
  refine ⟨_,rest,read.trans cut,isFence_around no_front blanks,?_⟩
  have glued := glue_pieces fence.reverse after
  rw [cut,glue_cons,List.reverse_reverse,List.append_assoc,List.append_assoc] at glued
  have split := List.append_cancel_left glued
  have break_blank : Blank breaks := by
    intro c member
    refine isSpace_of_isLineBreak ((pieces_ends fence.reverse after).1 (fence ++ spaces,breaks) ?_ c member)
    rw [cut]
    exact List.mem_cons_self
  rw [← split,stripBy_dropped_append blanks,stripBy_dropped_append break_blank]

theorem Framed.without_eq {text lead gap body after : List Char} (framed : Framed text lead gap body after) :
    without_frontmatter text = stripBy isSpace after := by
  obtain ⟨last,rest,closing_cut,last_fence,stripped⟩ := pieces_closing framed.ends
  have clean : ∀ c ∈ lead ++ fence, isLineBreak c = false := by
    intro c member
    rcases List.mem_append.mp member with first | dash
    · exact framed.lead_clean c first
    · exact fence_clean c dash
  have gap_feed : Blank (gap ++ ['\n']) := by
    intro c member
    rcases List.mem_append.mp member with first | feed
    · exact framed.gap_blank c first
    · rw [List.mem_singleton.mp feed]
      decide
  obtain ⟨spaces,breaks,blanks,opening_cut,spaces_blank,blank_lines⟩ :=
    pieces_blank (lead ++ fence).reverse gap_feed (.inl (by simp [fence]))
  have whole : text = (lead ++ fence ++ gap) ++ '\n' :: (body ++ '\n' :: (fence ++ after)) := by
    rw [framed.split]
    simp
  have opening : pieces [] (lead ++ fence ++ gap ++ ['\n']) = (lead ++ (fence ++ spaces),breaks) :: blanks := by
    rw [List.append_assoc _ gap,pieces_run [] clean,List.append_nil,opening_cut]
    simp
  have cut : pieces [] text =
      (lead ++ (fence ++ spaces),breaks) :: (blanks ++ pieces [] (body ++ ['\n'])) ++ last :: rest := by
    rw [whole,pieces_append_newline,pieces_append_newline [] body,opening,closing_cut]
    simp
  have later : rest = pieces [] (glue rest) := by
    apply pieces_suffix [] text (lead ++ (fence ++ spaces),breaks) (blanks ++ pieces [] (body ++ ['\n']) ++ [last])
    rw [cut]
    simp
  have clear : ∀ line ∈ (blanks ++ pieces [] (body ++ ['\n'])).map Prod.fst, isFence line = false := by
    intro line member
    obtain ⟨p,inside,rfl⟩ := List.mem_map.mp member
    rcases List.mem_append.mp inside with blank | inner
    · exact blank_not_fence (blank_lines p blank)
    · refine framed.unfenced p.1 ?_
      rw [← pieces_lines]
      exact List.mem_map_of_mem inner
  have scanned : scan (splitLines [] text) = some (splitLines [] (glue rest)) := by
    rw [← pieces_lines,cut,List.cons_append,List.map_cons,List.map_append,List.map_cons,scan,
      if_pos (isFence_around framed.lead_blank spaces_blank),after_fence_eq clear last_fence,← pieces_lines,← later]
  rw [without_frontmatter,scanned]
  have plain := framed.plain
  rw [stripped] at plain ⊢
  exact (strip_join_iff (glue rest)).mpr plain

theorem break_not_dash {c : Char} (ends : isLineBreak c = true) : isDash c = false :=
  space_not_dash (isSpace_of_isLineBreak ends)

/-- The dashes of the last fence are those of the expression, right after a line feed. -/
theorem Scanned.closes {text lead opening gap body close after : List Char} (scanned : Scanned text first last between rest)
    (found : Match text lead opening gap body close after) (inks : ink (glue rest) = ink after) :
    close = fence ∧ glue (first :: between) = (lead ++ (opening ++ (gap ++ '\n' :: body))) ++ ['\n'] ∧
      ∃ behind, Blank behind ∧ last.1 = fence ++ behind ∧ after = behind ++ (last.2 ++ glue rest) := by
  obtain ⟨before,behind,last_split,before_blank,behind_blank⟩ := isFence_split scanned.last_fence
  obtain ⟨some_dashes,dash,close_split⟩ : ∃ ds d, close = ds ++ [d] := by
    obtain ⟨more,rfl⟩ := found.closed.cons
    exact ⟨_,_,(List.dropLast_append_getLast (List.cons_ne_nil '-' more)).symm⟩
  have dash_eq : dash = '-' := by simpa [isDash] using found.closed.2 dash (by rw [close_split]; simp)
  have dashes : ∀ c ∈ some_dashes, isDash c = true := fun c member => found.closed.2 c (by rw [close_split]; simp [member])
  -- both cut the text behind the last dash
  have cuts : (glue (first :: between) ++ (before ++ ['-','-'])) ++ '-' :: (behind ++ (last.2 ++ glue rest)) =
      (lead ++ (opening ++ (gap ++ '\n' :: body)) ++ '\n' :: some_dashes) ++ '-' :: after := by
    have left : text = (glue (first :: between) ++ (before ++ ['-','-'])) ++ '-' :: (behind ++ (last.2 ++ glue rest)) := by
      rw [scanned.text,last_split]
      simp [fence]
    have right : text = (lead ++ (opening ++ (gap ++ '\n' :: body)) ++ '\n' :: some_dashes) ++ '-' :: after := by
      rw [found.split,close_split,dash_eq]
      simp
    rw [← left,← right]
  have left_ink : ink (behind ++ (last.2 ++ glue rest)) = ink after := by
    rw [ink_append,ink_append,ink_blank behind_blank,ink_blank scanned.last_blank,inks]
    omega
  obtain ⟨fronts,backs⟩ := same_cut cuts left_ink
  have two : ∀ c ∈ ['-','-'], isDash c = true := List.all_eq_true.mp (by decide : ['-','-'].all isDash = true)
  have before_nil : before = [] := by
    cases before using List.reverseRecOn with
    | nil => rfl
    | append_singleton front c =>
      have space : isSpace c = true := before_blank c (by simp)
      have ends : (glue (first :: between) ++ front) ++ c :: ['-','-'] =
          (lead ++ (opening ++ (gap ++ '\n' :: body))) ++ '\n' :: some_dashes := by
        rw [← fronts]
        simp
      obtain ⟨-,rfl,-⟩ := last_run_eq ends two dashes (space_not_dash space) feed_not_dash
      have clean := pieces_clean [] text (by simp) last (by rw [scanned.cut]; simp) '\n'
        (by rw [last_split]; simp)
      exact absurd clean (by decide)
  subst before_nil
  obtain ⟨front,c,glued,breaks⟩ := scanned.before
  have ends : front ++ c :: ['-','-'] = (lead ++ (opening ++ (gap ++ '\n' :: body))) ++ '\n' :: some_dashes := by
    rw [← fronts,glued]
    simp
  obtain ⟨same_front,rfl,rfl⟩ := last_run_eq ends two dashes (break_not_dash breaks) feed_not_dash
  refine ⟨by rw [close_split,dash_eq]; rfl,by rw [glued,same_front],behind,behind_blank,last_split,backs.symm⟩

theorem Scanned.opens {text lead opening gap body : List Char} (scanned : Scanned text first last between rest)
    (lead_blank : Blank lead) (opened : Dashes opening) (gap_blank : Blank gap)
    (glued : glue (first :: between) = (lead ++ (opening ++ (gap ++ '\n' :: body))) ++ ['\n']) :
    opening = fence ∧ ∀ c ∈ lead, isLineBreak c = false := by
  obtain ⟨start,behind,first_split,start_blank,behind_blank⟩ := isFence_split scanned.first_fence
  obtain ⟨ends,some_break⟩ := pieces_ends [] text
  have nonempty : first.2 ≠ [] :=
    some_break [] first (between ++ last :: rest) (by rw [scanned.cut]; rfl) (by simp)
  have breaks : ∀ c ∈ first.2, isLineBreak c = true := ends first (by rw [scanned.cut]; simp)
  have both : start ++ (fence ++ (behind ++ (first.2 ++ glue between))) =
      lead ++ (opening ++ (gap ++ '\n' :: (body ++ ['\n']))) := by
    have left : glue (first :: between) = start ++ (fence ++ (behind ++ (first.2 ++ glue between))) := by
      rw [glue_cons,first_split]
      simp
    rw [← left,glued]
    simp
  obtain ⟨rfl,opened_both⟩ := run_eq both start_blank lead_blank (opening_head dashes_fence) (opening_head opened)
  have head : ∀ c ∈ (behind ++ (first.2 ++ glue between)).head?, isDash c = false := by
    intro c here
    cases behind with
    | nil =>
      cases broken : first.2 with
      | nil => exact absurd broken nonempty
      | cons d ds =>
        rw [broken] at here
        cases Option.some.inj here
        exact break_not_dash (breaks _ (by rw [broken]; exact List.mem_cons_self))
    | cons d ds =>
      cases Option.some.inj here
      exact space_not_dash (behind_blank _ List.mem_cons_self)
  obtain ⟨same,-⟩ := run_eq opened_both dashes_fence.2 opened.2 head (blank_head gap_blank)
  refine ⟨same.symm,?_⟩
  intro c member
  exact pieces_clean [] text (by simp) first (by rw [scanned.cut]; simp) c
    (by rw [first_split]; simp [member])

theorem framed_of_agree {text lead opening gap body close after : List Char}
    (found : Match text lead opening gap body close after) (agree : without_frontmatter text = stripBy isSpace after) :
    ∃ lead gap body after, Framed text lead gap body after := by
  have total : ink text = ink opening + ink body + ink close + ink after := by
    rw [found.split]
    simp only [ink_append,ink_feed,ink_blank found.lead_blank,ink_blank found.gap_blank]
    omega
  have opening_ink := ink_dashes found.opened
  cases scanned? : scan (splitLines [] text) with
  | none =>
    -- the whole description has the dashes, and what follows them has not
    rw [without_frontmatter,scanned?] at agree
    have inks := congrArg ink agree
    rw [ink_strip,ink_strip] at inks
    omega
  | some lines =>
    obtain ⟨first,last,between,rest,scanned,rfl⟩ := scan_some scanned?
    rw [without_frontmatter,scanned?] at agree
    have inks := congrArg ink agree
    rw [ink_joined,ink_strip] at inks
    obtain ⟨rfl,glued,behind,behind_blank,last_split,rfl⟩ := scanned.closes found inks
    obtain ⟨rfl,lead_clean⟩ := scanned.opens found.lead_blank found.opened found.gap_blank glued
    have stripped : stripBy isSpace (behind ++ (last.2 ++ glue rest)) = stripBy isSpace (glue rest) := by
      rw [stripBy_dropped_append behind_blank,stripBy_dropped_append scanned.last_blank]
    refine ⟨lead,gap,body,_,found.split,found.lead_blank,lead_clean,found.gap_blank,found.ends,?_,found.shortest,?_,?_⟩
    · have suffix : last :: rest = pieces [] (glue (last :: rest)) :=
        pieces_suffix [] text first between scanned.cut
      have tail : glue (last :: rest) = fence ++ (behind ++ (last.2 ++ glue rest)) := by
        rw [glue_cons,last_split]
        simp
      have whole : text = (lead ++ (fence ++ (gap ++ '\n' :: body))) ++ '\n' :: (fence ++ (behind ++ (last.2 ++ glue rest))) := by
        rw [found.split]
        simp
      have heads : pieces [] ((lead ++ (fence ++ (gap ++ '\n' :: body))) ++ ['\n']) = first :: between := by
        have cut := scanned.cut
        rw [whole,pieces_append_newline,← tail,← suffix] at cut
        exact List.append_cancel_right cut
      have inner : pieces [] (lead ++ (fence ++ gap) ++ ['\n']) ++ pieces [] (body ++ ['\n']) = first :: between := by
        rw [← heads,← pieces_append_newline]
        simp
      intro line member
      rw [← pieces_lines] at member
      obtain ⟨p,inside,rfl⟩ := List.mem_map.mp member
      refine scanned.clear p ?_
      cases opening_pieces : pieces [] (lead ++ (fence ++ gap) ++ ['\n']) with
      | nil =>
        have nothing := glue_pieces [] (lead ++ (fence ++ gap) ++ ['\n'])
        rw [opening_pieces] at nothing
        simp at nothing
      | cons q qs =>
        rw [opening_pieces] at inner
        rw [← (List.cons.inj inner).2]
        exact List.mem_append_right _ inside
    · rintro blank front back split
      refine found.longest (gap ++ '\n' :: body) (fence ++ (behind ++ (last.2 ++ glue rest))) (by simp) ?_ (by simp)
        (fence ++ front) back (by rw [split]; simp)
      intro c member
      rcases List.mem_append.mp member with first | later
      · exact found.gap_blank c first
      · rcases List.mem_cons.mp later with rfl | later
        · decide
        · exact blank c later
    · rw [stripped] at agree ⊢
      exact (strip_join_iff (glue rest)).mp agree

/-- The text can be matched by the expression. -/
def HasBlock (text : List Char) : Prop := ∃ lead opening gap body close after, Block text lead opening gap body close after

theorem front_matter_none_iff (text : List Char) : front_matter text = none ↔ ¬HasBlock text := by
  constructor
  · rintro none_found ⟨lead,opening,gap,body,close,after,block⟩
    obtain ⟨found,matched⟩ := front_matter_isSome block
    rw [none_found] at matched
    cases matched
  · intro unmatched
    cases matched : front_matter text with
    | none => rfl
    | some found =>
      obtain ⟨lead,opening,gap,close,after,-,found,-⟩ := front_matter_some matched
      exact absurd ⟨lead,opening,gap,_,close,after,found.toBlock⟩ unmatched

theorem extract_front_matter_body_eq (description : String) :
    extract_front_matter_body description = (front_matter description.toList).map fun block => .ofList block.1 := by
  rw [extract_front_matter_body]
  split
  · next empty =>
    subst empty
    have unmatched : front_matter "".toList = none := by
      rw [front_matter_none_iff]
      rintro ⟨lead,opening,gap,body,close,after,block⟩
      have split := congrArg List.length block.split
      simp at split
    rw [unmatched]
    rfl
  · rfl

/-- What the two make of a description: the text after the block that the expression
    recognises, or all of it where it recognises none. -/
def Agrees (description : String) : Prop :=
  match extract_front_matter_body description with
  | some body => ∃ following, front_matter description.toList = some (body.toList,following) ∧
      description_without_frontmatter description = strip (.ofList following)
  | none => description_without_frontmatter description = strip description

/-- Both recognise no block, or a block of which they think the same. -/
def Framable (text : List Char) : Prop :=
  (¬HasBlock text ∧ ¬HasFences text) ∨ ∃ lead gap body after, Framed text lead gap body after

theorem without_frontmatter_none {text : List Char} :
    without_frontmatter text = stripBy isSpace text ↔ ¬HasFences text := by
  constructor
  · intro same fenced
    obtain ⟨lines,scanned?⟩ := Option.isSome_iff_exists.mp ((hasFences_iff text).mp fenced)
    obtain ⟨first,last,between,rest,scanned,rfl⟩ := scan_some scanned?
    rw [without_frontmatter,scanned?] at same
    have inks := congrArg ink same
    rw [ink_joined,ink_strip] at inks
    -- the dashes of the last fence are in the description
    obtain ⟨before,behind,last_split,-,-⟩ := isFence_split scanned.last_fence
    have total := congrArg ink scanned.text
    have dashes := ink_dashes dashes_fence
    rw [ink_append,ink_append,ink_append,last_split,ink_append,ink_append] at total
    omega
  · intro unfenced
    have none_found : scan (splitLines [] text) = none := by
      rw [hasFences_iff] at unfenced
      simpa using unfenced
    rw [without_frontmatter,none_found]

/-- The recognisers agree exactly on the descriptions without a block for either, and
    on those with a block that is framed. -/
theorem front_matter_agrees_iff (description : String) : Agrees description ↔ Framable description.toList := by
  have strings (front back : List Char) : String.ofList front = .ofList back ↔ front = back := String.ofList_inj
  rw [Agrees,extract_front_matter_body_eq,Framable]
  cases matched : front_matter description.toList with
  | none =>
    have unmatched := (front_matter_none_iff description.toList).mp matched
    have unframed : ¬∃ lead gap body after, Framed description.toList lead gap body after := by
      rintro ⟨lead,gap,body,after,framed⟩
      exact unmatched ⟨lead,fence,gap,body,fence,after,framed.block⟩
    simp only [Option.map_none,description_without_frontmatter,strip,strings,without_frontmatter_none,unmatched,
      unframed,not_false_eq_true,true_and,or_false]
  | some block =>
    obtain ⟨body,following⟩ := block
    obtain ⟨lead,opening,gap,close,after,blank,found,split,blanks⟩ := front_matter_some matched
    have stripped : stripBy isSpace following = stripBy isSpace after := by
      rw [split,stripBy_dropped_append blanks]
    have agree_iff : (∃ rest, some (body,following) = some (body,rest) ∧
        description_without_frontmatter description = strip (.ofList rest)) ↔
        without_frontmatter description.toList = stripBy isSpace after := by
      constructor
      · rintro ⟨rest,same,agree⟩
        cases same
        rw [description_without_frontmatter,strip,strings,String.toList_ofList,stripped] at agree
        exact agree
      · intro agree
        refine ⟨following,rfl,?_⟩
        rw [description_without_frontmatter,agree,strip,String.toList_ofList,stripped]
    simp only [Option.map_some,String.toList_ofList]
    rw [agree_iff]
    constructor
    · intro agree
      exact .inr (framed_of_agree found agree)
    · rintro (⟨unmatched,-⟩ | ⟨lead',gap',body',after',framed⟩)
      · exact absurd ⟨lead,opening,gap,body,close,after,found.toBlock⟩ unmatched
      · rw [framed.after_eq found]
        exact framed.without_eq

/-- A line feed before the block is white space for the expression; for the scan the first line is no fence. -/
theorem blank_line_before_block :
    extract_front_matter_body "\n---\nrepo: a\n---\nFix the build" = some "repo: a" ∧
      ¬Agrees "\n---\nrepo: a\n---\nFix the build" := by
  have body : extract_front_matter_body "\n---\nrepo: a\n---\nFix the build" = some "repo: a" := by decide
  have block : front_matter "\n---\nrepo: a\n---\nFix the build".toList =
      some ("repo: a".toList,"Fix the build".toList) := by decide
  refine ⟨body,?_⟩
  rw [Agrees,body]
  rintro ⟨following,same,agree⟩
  rw [block] at same
  obtain rfl := (Prod.mk.inj (Option.some.inj same)).2
  exact absurd agree (by decide)

end Automation.FrontMatter
