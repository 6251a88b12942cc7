import Automation.AgentFrame

/-!
The signals of `AgentRunnerWorkflow` as a state machine. Each signal has one effect on
the counts (`received_counts`), and only signals and the start of a run change them, so
the laws of whole runs follow by induction on their moves.

The handlers compare the count with `MAX_ITER` and not with the cap of the input, so
the cap of the input holds of every run only where it is no smaller and the seed
of the run is within it (`iter_cap_iff`). And a comment that the cap refuses has already
reset the streak; where that does not happen the machine keeps all its laws
(`signal_machine_iff`).
-/
namespace Automation.AgentSignals
open Automation.Effects Automation.Coroutine Automation.Moves Automation.AgentMessages Automation.AgentState
open Automation.AgentHandlers (Context)
open Automation.AgentRunner Automation.AgentFrame Automation.Regex

/-- Where a signal is routed to. -/
inductive Route where
  | fix (text : String) (diff_hash : Option String)
  | explain (text : String) (pr_diff_hash : Option String)
  | needs_info (text : String)
  | plain (text : String)
  | cancel

section
variable (py : Python)

def route (delivery : Delivery) : Route :=
  match delivery.kind with
  | .comment_added =>
    let (text,diff_hash) := coerce_comment_signal py delivery.payload "diff_hash"
    if mentions "[fix]" text then .fix text diff_hash
    else if mentions "[explain]" text then .explain text diff_hash
    else if search anywhere NEEDS_INFO_KEYWORD_RE none text.toList then .needs_info text
    else .plain text
  | .fix_triggered =>
    let (text,diff_hash) := coerce_comment_signal py delivery.payload "diff_hash"
    .fix text diff_hash
  | .explain_triggered =>
    let (text,diff_hash) := coerce_comment_signal py delivery.payload "pr_diff_hash"
    .explain text diff_hash
  | .cancel_requested => .cancel

/-- The path of a plain comment. -/
def apply_plain (text : String) (self : RunnerState) : RunnerState :=
  let notes := reset_needs_info self.notes
  match should_advance_iter notes.iteration_state MAX_ITER with
  | some reason => { self with notes }.terminate reason
  | none =>
    { self with notes := advance_iter_with_banner_check { notes with
        latest_comment := orText text notes.latest_comment } }

/-- What an open run does with a signal. -/
def applied (delivery : Delivery) (self : RunnerState) : RunnerState :=
  match route py delivery with
  | .fix text diff_hash => apply_fix_signal text diff_hash delivery.now self
  | .explain text pr_diff_hash => apply_explain_signal text pr_diff_hash delivery.now self
  | .needs_info text => apply_needs_info_signal text self
  | .plain text => apply_plain text self
  | .cancel => cancel_requested py delivery.payload self

end

section
variable {py : Python} {delivery : Delivery} {self : RunnerState}

theorem receive_closed (closed : self.closed = true) (comment : delivery.kind ≠ .cancel_requested) :
    receive py delivery self = self := by
  unfold receive
  cases kind : delivery.kind with
  | cancel_requested => exact absurd kind comment
  | comment_added => simp [comment_added,closed]
  | fix_triggered => simp [fix_triggered,closed]
  | explain_triggered => simp [explain_triggered,closed]

theorem receive_open (opened : self.closed = false) : receive py delivery self = applied py delivery self := by
  unfold receive applied route
  cases kind : delivery.kind with
  | cancel_requested => rfl
  | comment_added =>
    simp only [comment_added,opened,Bool.false_eq_true,if_false]
    split
    · rfl
    · split
      · rfl
      · split
        · rfl
        · rfl
  | fix_triggered => simp [fix_triggered,opened]
  | explain_triggered => simp [explain_triggered,opened]

theorem receive_cancel (cancel : delivery.kind = .cancel_requested) :
    receive py delivery self = cancel_requested py delivery.payload self := by
  simp [receive,cancel]

end

/-- `nothing`: the signal is ignored, refused, debounced, answered from the cache, or a
    cancel. `advance`: an accepted plain comment or cold explanation. `fix`: a fix that
    is not debounced, and whether it advances. `refused`: a plain comment or cold
    explanation that the cap refuses. -/
inductive Effect where
  | nothing
  | advance
  | fix (advances : Bool)
  | needs_info
  | refused
  deriving DecidableEq

def iter_count (self : RunnerState) : Int := self.notes.iteration_state.iter_count
def last_fix_trigger_at (self : RunnerState) : Option Nat := self.notes.iteration_state.last_fix_trigger_at
def needs_info_streak (self : RunnerState) : Nat := self.notes.iteration_state.needs_info_streak

section
variable (py : Python)

def effect (delivery : Delivery) (self : RunnerState) : Effect :=
  if self.closed then .nothing
  else
    let capped := (should_advance_iter self.notes.iteration_state MAX_ITER).isSome
    match route py delivery with
    | .cancel => .nothing
    | .needs_info _ => .needs_info
    | .plain _ => if capped then .refused else .advance
    | .explain _ pr_diff_hash =>
      if explain_should_skip_llm self.notes.iteration_state (orEmpty pr_diff_hash) delivery.now then .nothing
      else if capped then .refused else .advance
    | .fix _ diff_hash =>
      if capped then .nothing
      else if is_fix_debounced self.notes.iteration_state delivery.now then .nothing
      else .fix !fix_should_skip_retest self.notes.iteration_state (orEmpty diff_hash)

def countsAfter (effect : Effect) (now : Nat) (self : RunnerState) : Int × Option Nat × Nat :=
  match effect with
  | .nothing => counts self
  | .advance => (iter_count self + 1,last_fix_trigger_at self,0)
  | .fix advances => (if advances then iter_count self + 1 else iter_count self,some now,0)
  | .needs_info => (iter_count self,last_fix_trigger_at self,needs_info_streak self + 1)
  | .refused => (iter_count self,last_fix_trigger_at self,0)

variable {py}

private theorem cancel_counts (payload : Json) (self : RunnerState) :
    counts (cancel_requested py payload self) = counts self := by
  unfold cancel_requested
  split
  · rfl
  · rfl

theorem received_counts (delivery : Delivery) (self : RunnerState) :
    counts (receive py delivery self) = countsAfter (effect py delivery self) delivery.now self := by
  cases opened : self.closed with
  | true =>
    have nothing : effect py delivery self = .nothing := by simp [effect,opened]
    rw [nothing]
    by_cases cancel : delivery.kind = .cancel_requested
    · rw [receive_cancel cancel]
      exact cancel_counts _ _
    · rw [receive_closed opened cancel]
      rfl
  | false =>
    rw [receive_open opened,applied,effect,opened]
    simp only [Bool.false_eq_true,if_false]
    cases route py delivery with
    | cancel => exact cancel_counts _ _
    | needs_info text =>
      simp only [apply_needs_info_signal,opened,Bool.false_eq_true,if_false]
      split
      · rfl
      · rfl
    | plain text =>
      have same : should_advance_iter (reset_needs_info self.notes).iteration_state MAX_ITER =
        should_advance_iter self.notes.iteration_state MAX_ITER := rfl
      simp only [apply_plain,same]
      cases should_advance_iter self.notes.iteration_state MAX_ITER with
      | some reason => rfl
      | none => rfl
    | explain text pr_diff_hash =>
      have same : should_advance_iter (reset_needs_info self.notes).iteration_state MAX_ITER =
        should_advance_iter self.notes.iteration_state MAX_ITER := rfl
      simp only [apply_explain_signal,opened,Bool.false_eq_true,if_false,same]
      cases explain_should_skip_llm self.notes.iteration_state (orEmpty pr_diff_hash) delivery.now with
      | true => rfl
      | false =>
        cases should_advance_iter self.notes.iteration_state MAX_ITER with
        | some reason => rfl
        | none => rfl
    | fix text diff_hash =>
      have same : fix_should_skip_retest (reset_needs_info self.notes).iteration_state (orEmpty diff_hash) =
        fix_should_skip_retest self.notes.iteration_state (orEmpty diff_hash) := rfl
      simp only [apply_fix_signal,opened,Bool.false_eq_true,if_false,same]
      cases should_advance_iter self.notes.iteration_state MAX_ITER with
      | some reason => rfl
      | none =>
        cases is_fix_debounced self.notes.iteration_state delivery.now with
        | true => rfl
        | false =>
          cases fix_should_skip_retest self.notes.iteration_state (orEmpty diff_hash) with
          | true => rfl
          | false => rfl

theorem received_closed (delivery : Delivery) {self : RunnerState} (closed : self.closed = true) :
    (receive py delivery self).closed = true := by
  by_cases cancel : delivery.kind = .cancel_requested
  · rw [receive_cancel cancel,cancel_requested]
    split
    · exact closed
    · rfl
  · rw [receive_closed closed cancel]
    exact closed

theorem needs_info_closes {delivery : Delivery} {self : RunnerState} (asked : effect py delivery self = .needs_info)
    (third : NEEDS_INFO_MAX_STREAK ≤ needs_info_streak self + 1) : (receive py delivery self).closed = true := by
  have opened : self.closed = false := by
    by_contra closed
    rw [Bool.not_eq_false] at closed
    simp [effect,closed] at asked
  rw [receive_open opened,applied]
  rw [effect,opened] at asked
  simp only [Bool.false_eq_true,if_false] at asked
  split at asked
  · cases asked
  · next text routed =>
    have terminates : needs_info_should_terminate (state_increment_needs_info self.notes.iteration_state) = true :=
      decide_eq_true third
    simp only [routed,apply_needs_info_signal,opened,Bool.false_eq_true,if_false,terminates,if_true]
    exact Bool.or_true _
  · split at asked <;> cases asked
  · split at asked
    · cases asked
    · split at asked <;> cases asked
  · split at asked
    · cases asked
    · split at asked <;> cases asked

theorem below_cap {delivery : Delivery} {self : RunnerState}
    (accepted : effect py delivery self = .advance ∨ ∃ advances, effect py delivery self = .fix advances) :
    iter_count self < MAX_ITER := by
  by_contra capped
  have refused : (should_advance_iter self.notes.iteration_state MAX_ITER).isSome = true := by
    have reached : MAX_ITER ≤ self.notes.iteration_state.iter_count := Int.not_lt.mp capped
    have positive : ¬MAX_ITER ≤ 0 := by decide
    simp only [should_advance_iter,positive,reached,if_false,if_true]
    rfl
  unfold effect at accepted
  simp only [refused,if_true] at accepted
  split at accepted
  · simp at accepted
  · split at accepted <;> simp at accepted
    split at accepted <;> simp at accepted

end
/-- A change of the body: it keeps the debounce, the streak and the run closed, and it
    lowers the count only where it sets the seed. -/
def Tame (inp : AgentRunnerWorkflowInput) (before after : RunnerState) : Prop :=
  last_fix_trigger_at after = last_fix_trigger_at before ∧ needs_info_streak after = needs_info_streak before ∧
    (before.closed = true → after.closed = true) ∧ (after = seeded inp before ∨ iter_count before ≤ iter_count after)

section
variable (ctx : Context) (inp : AgentRunnerWorkflowInput)

private theorem tame_counted {before after : RunnerState} (counted : Counted before after) : Tame inp before after := by
  obtain ⟨same,closed⟩ := counted
  obtain ⟨iter,others⟩ := Prod.ext_iff.mp same
  obtain ⟨last,streak⟩ := Prod.ext_iff.mp others
  exact ⟨last,streak,closed,.inr (le_of_eq iter.symm)⟩

private theorem tame_seeded (self : RunnerState) : Tame inp self (seeded inp self) := ⟨rfl,rfl,id,.inl rfl⟩

private theorem tame_advanced (self : RunnerState) : Tame inp self (advanced self) :=
  ⟨rfl,rfl,id,.inr (Int.le_add_one (le_refl _))⟩

theorem runMoves_tame (env : Environment (agent ctx.py)) (pre : List Delivery) :
    Changed (W := agent ctx.py) (Tame inp) (runMoves ctx inp env pre) := by
  refine changed_append (changed_signalMoves _ _ _) ?_
  have weaker : ∀ {ms : List (Move (agent ctx.py))}, Changed (W := agent ctx.py) Counted ms →
      Changed (W := agent ctx.py) (Tame inp) ms := fun counted b a member => tame_counted inp (counted b a member)
  cases decision : should_advance_iter (seeded inp (start ctx pre).self).notes.iteration_state (iterCap inp) with
  | some reason =>
    obtain ⟨rest,moved,counted⟩ := refused_moves ctx inp env pre decision
    rw [moved]
    exact changed_cons (tame_seeded inp _) (weaker counted)
  | none =>
    obtain ⟨rest,moved,counted⟩ := admitted_moves ctx inp env pre decision
    rw [moved]
    exact changed_cons (tame_seeded inp _) (changed_cons (tame_advanced inp _) (weaker counted))

end

section
variable (py : Python)

/-- The accepted requests for information since the last accepted comment, fix or cold
    explanation. -/
def tallied (count : Nat) : Move (agent py) → Nat
  | .changed _ _ => count
  | .received delivery before =>
    match effect py delivery before with
    | .advance => 0
    | .fix _ => 0
    | .needs_info => count + 1
    | _ => count

/-- After each move the streak is the tally of the moves so far. -/
def Tallies : Nat → List (Move (agent py)) → Prop
  | _, [] => True
  | count, m :: rest => needs_info_streak m.after = tallied py count m ∧ Tallies (tallied py count m) rest

/-- The times of the fixes that set `last_fix_trigger_at`. -/
def triggers (ms : List (Move (agent py))) : List Nat :=
  ms.filterMap fun
    | .received delivery before =>
      match effect py delivery before with
      | .fix _ => some delivery.now
      | _ => none
    | .changed _ _ => none

/-- A cancel that no other came before. -/
def FirstCancel (delivery : Delivery) (before : RunnerState) : Prop :=
  delivery.kind = .cancel_requested ∧ before.cancel.cancel_requested = false

/-- The laws of the signals over the moves of a run. -/
structure SignalMachine (inp : AgentRunnerWorkflowInput) (ms : List (Move (agent py))) : Prop where
  grows : ∀ delivery before, .received delivery before ∈ ms →
    iter_count before ≤ iter_count (receive py delivery before) ∧
      iter_count (receive py delivery before) ≤ iter_count before + 1
  monotone : ∀ before after, .changed before after ∈ ms → after = seeded inp before ∨ iter_count before ≤ iter_count after
  spaced : (triggers py ms).Pairwise fun earlier later : Nat => FIX_DEBOUNCE_WINDOW ≤ (later : Int) - earlier
  tallies : Tallies py 0 ms
  bounded : ∀ m ∈ ms, needs_info_streak m.after ≤ NEEDS_INFO_MAX_STREAK
  latched : ∀ delivery before, .received delivery before ∈ ms → before.closed = true → ¬FirstCancel delivery before →
    receive py delivery before = before

end

section
variable {py : Python} {inp : AgentRunnerWorkflowInput}

private theorem received_iter (delivery : Delivery) (self : RunnerState) :
    iter_count (receive py delivery self) = (countsAfter (effect py delivery self) delivery.now self).1 :=
  congrArg Prod.fst (received_counts delivery self)

private theorem received_last (delivery : Delivery) (self : RunnerState) :
    last_fix_trigger_at (receive py delivery self) = (countsAfter (effect py delivery self) delivery.now self).2.1 :=
  congrArg (fun counted => counted.2.1) (received_counts delivery self)

private theorem received_streak (delivery : Delivery) (self : RunnerState) :
    needs_info_streak (receive py delivery self) = (countsAfter (effect py delivery self) delivery.now self).2.2 :=
  congrArg (fun counted => counted.2.2) (received_counts delivery self)

theorem received_grows (delivery : Delivery) (self : RunnerState) :
    iter_count self ≤ iter_count (receive py delivery self) ∧
      iter_count (receive py delivery self) ≤ iter_count self + 1 := by
  rw [received_iter]
  cases effect py delivery self with
  | fix advances =>
    cases advances with
    | true => exact ⟨Int.le_add_one (le_refl _),le_refl _⟩
    | false => exact ⟨le_refl _,Int.le_add_one (le_refl _)⟩
  | advance => exact ⟨Int.le_add_one (le_refl _),le_refl _⟩
  | _ => exact ⟨le_refl _,Int.le_add_one (le_refl _)⟩

private theorem received_latched {delivery : Delivery} {before : RunnerState} (closed : before.closed = true)
    (other : ¬FirstCancel delivery before) : receive py delivery before = before := by
  by_cases cancel : delivery.kind = .cancel_requested
  · have requested : before.cancel.cancel_requested = true := by
      by_contra idle
      exact other ⟨cancel,Bool.eq_false_of_not_eq_true idle⟩
    rw [receive_cancel cancel,cancel_requested]
    simp [requested]
  · exact receive_closed closed cancel

private theorem fix_spaced {delivery : Delivery} {before : RunnerState} {advances : Bool}
    (fixed : effect py delivery before = .fix advances) {last : Nat} (triggered : last_fix_trigger_at before = some last) :
    FIX_DEBOUNCE_WINDOW ≤ (delivery.now : Int) - last := by
  by_contra close
  have debounced : is_fix_debounced before.notes.iteration_state delivery.now = true := by
    have held : before.notes.iteration_state.last_fix_trigger_at = some last := triggered
    simp only [is_fix_debounced,held]
    exact decide_eq_true (Int.not_le.mp close)
  unfold effect at fixed
  simp only [debounced,if_true] at fixed
  split at fixed
  · cases fixed
  · split at fixed
    · cases fixed
    · cases fixed
    · split at fixed <;> cases fixed
    · split at fixed
      · cases fixed
      · split at fixed <;> cases fixed
    · split at fixed <;> cases fixed

variable {ms : List (Move (agent py))}

private theorem triggers_spaced {first last : RunnerState}
    (linked : Linked (W := agent py) first ms last) (tame : Changed (W := agent py) (Tame inp) ms) :
    ((triggers py ms).Pairwise fun earlier later : Nat => FIX_DEBOUNCE_WINDOW ≤ (later : Int) - earlier) ∧
      ∀ time, last_fix_trigger_at first = some time → ∀ later ∈ triggers py ms, FIX_DEBOUNCE_WINDOW ≤ (later : Int) - time := by
  have window : (0 : Int) ≤ FIX_DEBOUNCE_WINDOW := by decide
  induction ms generalizing first with
  | nil => exact ⟨.nil,fun _ _ later member => by cases member⟩
  | cons m rest ih =>
    obtain ⟨rfl,linked⟩ := linked
    obtain ⟨pairwise,spaced⟩ := ih linked fun b a member => tame b a (List.mem_cons_of_mem _ member)
    cases m with
    | changed before after =>
      have kept : last_fix_trigger_at after = last_fix_trigger_at before := (tame before after (by simp)).1
      refine ⟨pairwise,fun time held later member => spaced time ?_ later member⟩
      exact kept.trans held
    | received delivery before =>
      by_cases fixed : ∃ advances, effect py delivery before = .fix advances
      · obtain ⟨advances,fixed⟩ := fixed
        have listed : triggers py (.received delivery before :: rest) = delivery.now :: triggers py rest := by
          simp [triggers,fixed]
        have set_now : last_fix_trigger_at (receive py delivery before) = some delivery.now := by
          rw [received_last,fixed]
          rfl
        have after_now := spaced delivery.now set_now
        rw [listed]
        refine ⟨List.pairwise_cons.mpr ⟨after_now,pairwise⟩,?_⟩
        intro time held later member
        have gap := fix_spaced fixed held
        rcases List.mem_cons.mp member with rfl | later_member
        · exact gap
        · have next := after_now later later_member
          omega
      · have unlisted : triggers py (.received delivery before :: rest) = triggers py rest := by
          cases effected : effect py delivery before with
          | fix advances => exact absurd ⟨advances,effected⟩ fixed
          | _ => simp [triggers,effected]
        have kept : last_fix_trigger_at (receive py delivery before) = last_fix_trigger_at before := by
          rw [received_last]
          cases effected : effect py delivery before with
          | fix advances => exact absurd ⟨advances,effected⟩ fixed
          | _ => rfl
        rw [unlisted]
        refine ⟨pairwise,fun time held later member => spaced time ?_ later member⟩
        exact kept.trans held

private theorem received_tallied (delivery : Delivery) (before : RunnerState) :
    needs_info_streak (receive py delivery before) =
        tallied py (needs_info_streak before) (.received delivery before) ↔
      (effect py delivery before = .refused → needs_info_streak before = 0) := by
  rw [received_streak,tallied]
  cases effected : effect py delivery before with
  | refused => simp [countsAfter,eq_comm]
  | nothing => simp [countsAfter,counts,needs_info_streak]
  | advance => simp [countsAfter]
  | fix advances => simp [countsAfter]
  | needs_info => simp [countsAfter]

private theorem tallies_iff {first last : RunnerState}
    (linked : Linked (W := agent py) first ms last) (tame : Changed (W := agent py) (Tame inp) ms) :
    Tallies py (needs_info_streak first) ms ↔
      ∀ delivery before, .received delivery before ∈ ms → effect py delivery before = .refused →
        needs_info_streak before = 0 := by
  induction ms generalizing first with
  | nil => simp [Tallies]
  | cons m rest ih =>
    obtain ⟨rfl,linked⟩ := linked
    have later := ih linked fun b a member => tame b a (List.mem_cons_of_mem _ member)
    cases m with
    | changed before after =>
      have kept : needs_info_streak after = needs_info_streak before := (tame before after (by simp)).2.1
      have counted : Tallies py (needs_info_streak before) (.changed before after :: rest) ↔
          Tallies py (needs_info_streak after) rest := by
        rw [Tallies,tallied,← kept]
        exact and_iff_right rfl
      refine (counted.trans later).trans ?_
      simp
    | received delivery before =>
      have here := @received_tallied py delivery before
      constructor
      · rintro ⟨same,others⟩ d b member refused
        rw [← same] at others
        rcases List.mem_cons.mp member with this | there
        · cases this
          exact here.mp same refused
        · exact later.mp others d b there refused
      · intro harmless
        have same := here.mpr (harmless delivery before (by simp))
        have others := later.mpr fun d b member => harmless d b (List.mem_cons_of_mem _ member)
        refine ⟨same,?_⟩
        change Tallies py (tallied py (needs_info_streak before) (.received delivery before)) rest
        rw [← same]
        exact others

/-- The streak of an open run is below the bound, and that of a closed one within it. -/
def Bounded (self : RunnerState) : Prop :=
  needs_info_streak self ≤ NEEDS_INFO_MAX_STREAK ∧ (self.closed = false → needs_info_streak self < NEEDS_INFO_MAX_STREAK)

private theorem bounded_changed {before after : RunnerState} (tame : Tame inp before after) (bounded : Bounded before) :
    Bounded after := by
  obtain ⟨-,streak,closed,-⟩ := tame
  rw [Bounded,streak]
  refine ⟨bounded.1,fun opened => bounded.2 ?_⟩
  by_contra shut
  rw [closed (Bool.eq_true_of_not_eq_false shut)] at opened
  cases opened

private theorem bounded_received (delivery : Delivery) {before : RunnerState} (bounded : Bounded before) :
    Bounded (receive py delivery before) := by
  have reset : (0 : Nat) ≤ NEEDS_INFO_MAX_STREAK ∧ (0 : Nat) < NEEDS_INFO_MAX_STREAK := by decide
  rw [Bounded,received_streak]
  cases effected : effect py delivery before with
  | nothing =>
    refine ⟨bounded.1,fun opened => bounded.2 ?_⟩
    by_contra shut
    rw [received_closed delivery (Bool.eq_true_of_not_eq_false shut)] at opened
    cases opened
  | needs_info =>
    have was_open : before.closed = false := by
      by_contra closed
      simp [effect,Bool.eq_true_of_not_eq_false closed] at effected
    have below := bounded.2 was_open
    refine ⟨below,fun opened => ?_⟩
    by_contra third
    rw [needs_info_closes effected (Nat.not_lt.mp third)] at opened
    cases opened
  | advance => exact ⟨reset.1,fun _ => reset.2⟩
  | fix advances => exact ⟨reset.1,fun _ => reset.2⟩
  | refused => exact ⟨reset.1,fun _ => reset.2⟩

private theorem moves_bounded {first last : RunnerState}
    (linked : Linked (W := agent py) first ms last) (tame : Changed (W := agent py) (Tame inp) ms)
    (bounded : Bounded first) : ∀ m ∈ ms, Bounded m.after := by
  have keep : ∀ m ∈ ms, Bounded m.before → Bounded m.after := by
    intro m member held
    cases m with
    | changed before after => exact bounded_changed (tame before after member) held
    | received delivery before => exact bounded_received delivery held
  intro m member
  exact ((linked_keeps keep linked bounded).1 m member).2

end

/-- The signals keep all their laws in a run exactly where no plain comment or cold
    explanation meets the cap while there is a streak. -/
theorem signal_machine_iff (ctx : Context) (inp : AgentRunnerWorkflowInput) (env : Environment (agent ctx.py))
    (pre : List Delivery) :
    SignalMachine ctx.py inp (runMoves ctx inp env pre) ↔
      ∀ delivery before, .received delivery before ∈ runMoves ctx inp env pre →
        effect ctx.py delivery before = .refused → needs_info_streak before = 0 := by
  have linked := runMoves_linked ctx inp env pre
  have tame := runMoves_tame ctx inp env pre
  have tallies := tallies_iff linked tame
  constructor
  · intro machine
    exact tallies.mp machine.tallies
  · intro harmless
    have start_bounded : Bounded RunnerState.init := ⟨by decide,fun _ => by decide⟩
    exact { grows := fun delivery before _ => received_grows delivery before
            monotone := fun before after member => (tame before after member).2.2.2
            spaced := (triggers_spaced linked tame).1
            tallies := tallies.mpr harmless
            bounded := fun m member => (moves_bounded linked tame start_bounded m member).1
            latched := fun delivery before _ closed other => received_latched closed other }

/-! Four comments use up the iterations; then a request for information and one more
comment, which the cap refuses. -/

def comment_of (text : String) (now : Nat) : Delivery := { kind := .comment_added, payload := .str text, now }

def six_comments : List Delivery :=
  [comment_of "devam" 1000000,comment_of "devam" 2000000,comment_of "devam" 3000000,comment_of "devam" 4000000,comment_of "[needs_info]" 5000000,
    comment_of "devam" 6000000]

/-- Every activity replies, and the first one sees the signals. -/
def interrupted (signals : List Delivery) : Environment (agent worker.py) where
  activity turn _ := (if turn = 0 then signals else [],.ok .null)
  waiting _ := []
  clock _ := 0

def refusedStreak : Move (agent worker.py) → Bool
  | .received delivery before => effect worker.py delivery before = .refused ∧ needs_info_streak before = 1 ∧
      needs_info_streak (receive worker.py delivery before) = 0
  | .changed _ _ => false

theorem refused_comment_resets_streak :
    (six_comments.map Delivery.now).Pairwise (· ≤ ·) ∧
      (∃ delivery before, .received delivery before ∈ runMoves worker (issue "pr_review") (interrupted six_comments) [] ∧
        effect worker.py delivery before = .refused ∧ needs_info_streak before = 1 ∧
        needs_info_streak (receive worker.py delivery before) = 0) ∧
      ¬SignalMachine worker.py (issue "pr_review") (runMoves worker (issue "pr_review") (interrupted six_comments) []) := by
  have found : (runMoves worker (issue "pr_review") (interrupted six_comments) []).any refusedStreak = true := by
    decide
  obtain ⟨m,member,shown⟩ := List.any_eq_true.mp found
  cases m with
  | changed before after => cases shown
  | received delivery before =>
    obtain ⟨refused,one,reset⟩ := of_decide_eq_true shown
    refine ⟨by decide,⟨delivery,before,member,refused,one,reset⟩,fun machine => ?_⟩
    have tallies := tallies_iff (runMoves_linked worker (issue "pr_review") (interrupted six_comments) [])
      (runMoves_tame worker (issue "pr_review") (interrupted six_comments) [])
    have zero := tallies.mp machine.tallies delivery before member refused
    rw [one] at zero
    cases zero

def CapKept (ctx : Context) (inp : AgentRunnerWorkflowInput) (env : Environment (agent ctx.py)) (pre : List Delivery) : Prop :=
  iter_count RunnerState.init ≤ iterCap inp ∧ ∀ m ∈ runMoves ctx inp env pre, iter_count m.after ≤ iterCap inp

section
variable {ctx : Context} {inp : AgentRunnerWorkflowInput}

private theorem received_capped (delivery : Delivery) {self : RunnerState} (capped : iter_count self ≤ MAX_ITER) :
    iter_count (receive ctx.py delivery self) ≤ MAX_ITER := by
  rw [received_iter]
  cases effected : effect ctx.py delivery self with
  | advance => exact below_cap (.inl effected)
  | fix advances =>
    have below := below_cap (.inr ⟨advances,effected⟩)
    cases advances with
    | true => exact below
    | false => exact capped
  | _ => exact capped

private theorem moves_capped {first last : RunnerState} {ms : List (Move (agent ctx.py))}
    (linked : Linked (W := agent ctx.py) first ms last) (counted : Changed (W := agent ctx.py) Counted ms)
    (capped : iter_count first ≤ MAX_ITER) : ∀ m ∈ ms, iter_count m.after ≤ MAX_ITER := by
  have keep : ∀ m ∈ ms, iter_count m.before ≤ MAX_ITER → iter_count m.after ≤ MAX_ITER := by
    intro m member held
    cases m with
    | changed before after =>
      have same : iter_count after = iter_count before := congrArg Prod.fst (counted before after member).1
      exact same.le.trans held
    | received delivery before => exact received_capped delivery held
  intro m member
  have I : ∀ m ∈ ms, iter_count m.before ≤ MAX_ITER ∧ iter_count m.after ≤ MAX_ITER :=
    (linked_keeps (I := fun self => iter_count self ≤ MAX_ITER) keep linked capped).1
  exact (I m member).2

private theorem cap_kept (cap : iterCap inp = MAX_ITER) (seed : inp.iteration ≤ MAX_ITER + 1)
    (env : Environment (agent ctx.py)) (pre : List Delivery) : CapKept ctx inp env pre := by
  have five : MAX_ITER = 5 := rfl
  rw [CapKept,cap]
  refine ⟨by decide,fun m member => ?_⟩
  have seeded_capped : ∀ self, iter_count (seeded inp self) ≤ MAX_ITER := by
    intro self
    change max 0 (inp.iteration - 1) ≤ MAX_ITER
    omega
  rcases List.mem_append.mp member with before | within
  · exact moves_capped (signalMoves_linked (W := agent ctx.py) pre RunnerState.init) (changed_signalMoves _ _ _)
      (by decide) m before
  · have linked := moves_linked env (run ctx inp) (start ctx pre)
    cases decision : should_advance_iter (seeded inp (start ctx pre).self).notes.iteration_state (iterCap inp) with
    | some reason =>
      obtain ⟨rest,moved,counted⟩ := refused_moves ctx inp env pre decision
      rw [moved] at linked within
      rcases List.mem_cons.mp within with rfl | later
      · exact seeded_capped _
      · exact moves_capped linked.2 counted (seeded_capped _) m later
    | none =>
      obtain ⟨rest,moved,counted⟩ := admitted_moves ctx inp env pre decision
      have advanced_capped : iter_count (advanced (seeded inp (start ctx pre).self)) ≤ MAX_ITER := by
        rw [cap] at decision
        unfold should_advance_iter at decision
        split at decision
        · cases decision
        · split at decision
          · cases decision
          · next below => exact Int.not_le.mp below
      rw [moved] at linked within
      rcases List.mem_cons.mp within with rfl | later
      · exact seeded_capped _
      · rcases List.mem_cons.mp later with rfl | rest_member
        · exact advanced_capped
        · exact moves_capped linked.2.2 counted advanced_capped m rest_member

private theorem comment_advances (py : Python) {self : RunnerState} (opened : self.closed = false)
    (below : iter_count self < MAX_ITER) :
    iter_count (receive py (comment_of "devam" 0) self) = iter_count self + 1 ∧
      (receive py (comment_of "devam" 0) self).closed = false := by
  have fix : mentions "[fix]" "devam" = false := by decide
  have explain : mentions "[explain]" "devam" = false := by decide
  have info : search anywhere NEEDS_INFO_KEYWORD_RE none ['d','e','v','a','m'] = false := by decide
  have routed : route py (comment_of "devam" 0) = .plain "devam" := by
    simp [route,comment_of,coerce_comment_signal,textOf,Json.pyStr,fix,explain,info]
  have advances : should_advance_iter (reset_needs_info self.notes).iteration_state MAX_ITER = none := by
    have allowed : ¬MAX_ITER ≤ (reset_needs_info self.notes).iteration_state.iter_count := Int.not_le.mpr below
    have positive : ¬MAX_ITER ≤ 0 := by decide
    simp only [should_advance_iter,positive,allowed,if_false]
  rw [receive_open opened,applied,routed]
  simp only [apply_plain,advances]
  exact ⟨rfl,opened⟩

private theorem comments_counted (py : Python) (n : Nat) {self : RunnerState} (opened : self.closed = false)
    (within : iter_count self + n = MAX_ITER) (some_ : 0 < n) :
    ∃ m ∈ signalMoves (W := agent py) (List.replicate n (comment_of "devam" 0)) self, iter_count m.after = MAX_ITER := by
  induction n generalizing self with
  | zero => cases some_
  | succ n ih =>
    have below : iter_count self < MAX_ITER := by omega
    obtain ⟨counted,still_open⟩ := comment_advances py opened below
    rw [List.replicate_succ,signalMoves]
    by_cases last : n = 0
    · refine ⟨_,List.mem_cons_self,?_⟩
      change iter_count (receive py (comment_of "devam" 0) self) = MAX_ITER
      omega
    · obtain ⟨m,member,reached⟩ := ih still_open (by omega) (Nat.pos_of_ne_zero last)
      exact ⟨m,List.mem_cons_of_mem _ member,reached⟩

end

/-- The count is within the cap of the input in every run exactly where the cap is no
    smaller than `MAX_ITER`, or none, and the seed is within it. -/
theorem iter_cap_iff (ctx : Context) (inp : AgentRunnerWorkflowInput) :
    (∀ env pre, CapKept ctx inp env pre) ↔
      (inp.max_iter ≤ 0 ∨ MAX_ITER ≤ inp.max_iter) ∧ inp.iteration ≤ MAX_ITER + 1 := by
  have five : MAX_ITER = 5 := rfl
  constructor
  · intro kept
    let idle : Environment (agent ctx.py) := { activity := fun _ _ => ([],.ok .null), waiting := fun _ => [], clock := fun _ => 0 }
    constructor
    · -- Signals alone take the count to the constant.
      obtain ⟨m,member,reached⟩ := @comments_counted ctx.py 5 RunnerState.init rfl rfl (by decide)
      have capped := (kept idle (List.replicate 5 (comment_of "devam" 0))).2 m (List.mem_append_left _ member)
      rw [reached,iterCap] at capped
      split at capped
      · omega
      · omega
    · -- The first change of a run sets the seed.
      have seed : .changed RunnerState.init (seeded inp RunnerState.init) ∈ runMoves ctx inp idle [] := .head _
      have capped := (kept idle []).2 _ seed
      have bounded : iterCap inp ≤ MAX_ITER := by
        unfold iterCap
        split
        · omega
        · omega
      change max 0 (inp.iteration - 1) ≤ iterCap inp at capped
      omega
  · rintro ⟨cap,seed⟩ env pre
    refine cap_kept ?_ seed env pre
    unfold iterCap
    split
    · omega
    · rfl

/-! A run that may take two iterations takes three, when two comments arrive in its first activity. -/

def capped_issue : AgentRunnerWorkflowInput := { issue "pr_review" with max_iter := 2 }

def two_comments : List Delivery := [comment_of "devam" 1000000,comment_of "devam" 2000000]

theorem third_iteration_taken :
    iterCap capped_issue = 2 ∧
      (∃ m ∈ runMoves worker capped_issue (interrupted two_comments) [], iter_count m.after = 3) ∧
      ¬CapKept worker capped_issue (interrupted two_comments) [] := by
  have found : (runMoves worker capped_issue (interrupted two_comments) []).any (fun m => iter_count m.after = 3) = true := by
    decide
  obtain ⟨m,member,three⟩ := List.any_eq_true.mp found
  have three := of_decide_eq_true three
  have cap : iterCap capped_issue = 2 := by decide
  refine ⟨cap,⟨m,member,three⟩,fun kept => ?_⟩
  have within := kept.2 m member
  rw [three,cap] at within
  omega

end Automation.AgentSignals
