import Automation.ToolLoop
import Mathlib.Data.List.DropRight
import Mathlib.Data.List.Flatten

/-!
What the consumer of the tool loop sees of its retries. Chunks are forwarded as they
arrive and a retry starts the stream anew; so a retry is invisible where the streams that
were cut off had given nothing. Rate limits are counted over the whole run.
-/
namespace Automation.ToolRetries
open Automation.ToolLoop

/-! ### What is delivered -/

/-- Token text and tool calls, as the consumer gets them. -/
inductive Delivery where
  | text (text : String)
  | call (call : ToolCall)

def delivery : SseEvent → Option Delivery
  | .token text _ => some (.text text)
  | .tool_call call _ => some (.call call)
  | _ => none

def deliveries (events : List SseEvent) : List Delivery := events.filterMap delivery

def is_result : SseEvent → Bool
  | .tool_result _ _ => true
  | _ => false

def is_exhausted : SseEvent → Bool
  | .rate_limit_exhausted _ => true
  | _ => false

/-- The calls that are dispatched to `on_tool_call`. -/
def dispatched (steps : List Step) : List ToolCall := steps.filterMap fun
  | .on_tool_call call => some call
  | _ => none

/-- The calls that are forwarded to the consumer. -/
def called (events : List SseEvent) : List ToolCall := events.filterMap fun
  | .tool_call call _ => some call
  | _ => none

def events (a : Attempt) : List SseEvent := emitted a.steps

/-- The attempt ended in `RateLimitError`. -/
def limited (a : Attempt) : Bool :=
  match a.stream_end with
  | .raised exc => is_rate_limit exc
  | _ => false

/-- The attempt ended in `RateLimitError` or `ProviderUnavailable`. -/
def cut_off (a : Attempt) : Bool :=
  match a.stream_end with
  | .raised exc => is_rate_limit exc || is_provider_unavailable exc
  | _ => false

def answered (a : Attempt) : Bool := (events a).any is_result

def exhausts (a : Attempt) : Bool := (events a).any is_exhausted

/-- The events since the last tool result. -/
def sinceResult {ι : Type} (tagged : List (ι × SseEvent)) : List (ι × SseEvent) := tagged.rtakeWhile fun e => !is_result e.2

/-- What an attempt forwards after its last tool result, or from its start. -/
def trailing (a : Attempt) : List Delivery := deliveries ((events a).rtakeWhile fun e => !is_result e)

def numbered : Nat → List Attempt → List (Nat × SseEvent)
  | _, [] => []
  | number, a :: rest => (events a).map (fun e => (number,e)) ++ numbered (number + 1) rest

/-- What is delivered after the last tool result comes from a single attempt. -/
def SingleAttempt (run : Run) : Prop :=
  ∀ x ∈ sinceResult (numbered 0 run.attempts), ∀ y ∈ sinceResult (numbered 0 run.attempts),
    (delivery x.2).isSome = true → (delivery y.2).isSome = true → x.1 = y.1

instance (run : Run) : Decidable (SingleAttempt run) := by unfold SingleAttempt; infer_instance

/-- `rate_limit_exhausted` comes after three rate-limited attempts in a row. -/
def ConsecutiveLimits (run : Run) : Prop :=
  ∀ front a back, run.attempts = front ++ a :: back → exhausts a = true →
    ∃ before b c, front = before ++ [b,c] ∧ limited b = true ∧ limited c = true ∧ limited a = true

/-! ### What the providers gave -/

/-- An attempt with the state that it started from and the stream that it read. -/
structure Made where
  state : LoopState
  script : Script
  attempt : Attempt

/-- The attempts of a run, as `loop` makes them. -/
def trace (w : Providers) (token_cap : Int) : Nat → Nat → LoopState → List Made
  | 0, _, _ => []
  | fuel + 1, number, s =>
    let (a,next) := attempt w token_cap number s
    ⟨s,w.stream number s.on_fallback s.working_history,a⟩ ::
      match a.verdict with
      | .again => trace w token_cap fuel (number + 1) next
      | _ => []

/-- The first chunk is one that is forwarded. -/
def gives (token_cap : Int) (s : LoopState) : List ProviderChunk → Bool
  | [] => false
  | chunk :: _ => s.used_tokens + chunk.token_count ≤ token_cap &&
    if chunk.kind = "tool_call" then s.tool_iterations < TOOL_LOOP_LIMIT else chunk.kind ≠ "final"

/-- The result of the call can be written. -/
def answers (w : Providers) (iteration : Nat) (call : ToolCall) : Bool :=
  match w.on_tool_call iteration call with
  | .error _ => false
  | .ok result => (serialize_tool_result result).toOption.isSome

/-- A stream ends with a chunk that is no call with an answer; or what came before it did. -/
def leaves (w : Providers) : Nat → Bool → List ProviderChunk → Bool
  | _, before, [] => before
  | iterations, _, chunk :: rest =>
    if chunk.kind = "tool_call" then !answers w (iterations + 1) chunk.call || leaves w (iterations + 1) false rest
    else leaves w iterations true rest

/-! ### Since the last tool result -/

section sinceLast
variable {α : Type} {p : α → Bool}

theorem rtakeWhile_append (front back : List α) :
    (front ++ back).rtakeWhile p = if back.all p then front.rtakeWhile p ++ back else back.rtakeWhile p := by
  induction back using List.reverseRecOn with
  | nil => simp
  | append_singleton back last ih =>
    rw [← List.append_assoc]
    by_cases holds : p last = true
    · rw [List.rtakeWhile_concat_pos _ _ _ holds,List.rtakeWhile_concat_pos _ _ _ holds,ih]
      by_cases all : back.all p = true
      · simp [all,holds]
      · simp [all]
    · rw [List.rtakeWhile_concat_neg _ _ _ holds,List.rtakeWhile_concat_neg _ _ _ holds]
      simp [holds]

theorem rtakeWhile_map {β : Type} (f : β → α) (items : List β) :
    (items.map f).rtakeWhile p = (items.rtakeWhile (p ∘ f)).map f := by
  induction items using List.reverseRecOn with
  | nil => simp
  | append_singleton front last ih =>
    rw [List.map_append,List.map_singleton]
    by_cases holds : p (f last) = true
    · rw [List.rtakeWhile_concat_pos _ _ _ holds,ih,List.rtakeWhile_concat_pos (p ∘ f) _ _ holds]
      simp
    · rw [List.rtakeWhile_concat_neg _ _ _ holds,List.rtakeWhile_concat_neg (p ∘ f) _ _ holds]
      rfl

end sinceLast

theorem answered_numbered (number : Nat) (attempts : List Attempt) :
    ((numbered number attempts).all fun e => !is_result e.2) = !attempts.any answered := by
  induction attempts generalizing number with
  | nil => rfl
  | cons a rest ih =>
    rw [numbered,List.all_append,ih,List.all_map,List.any_cons,Bool.not_or]
    congr 1
    rw [answered,List.not_any_eq_all_not]
    rfl

theorem mem_sinceResult {number i : Nat} {attempts : List Attempt} {e : SseEvent} :
    (i,e) ∈ sinceResult (numbered number attempts) ↔
      ∃ front a back, attempts = front ++ a :: back ∧ i = number + front.length ∧
        e ∈ (events a).rtakeWhile (fun e => !is_result e) ∧ back.any answered = false := by
  induction attempts generalizing number with
  | nil => simp [numbered,sinceResult]
  | cons a rest ih =>
    unfold sinceResult at ih ⊢
    rw [numbered,rtakeWhile_append,answered_numbered]
    by_cases later : rest.any answered = true
    · rw [later,Bool.not_true,if_neg (by simp),ih]
      constructor
      · rintro ⟨front,b,back,split,place,member,quiet⟩
        exact ⟨a :: front,b,back,by rw [split]; rfl,by simp [place]; omega,member,quiet⟩
      · rintro ⟨front,b,back,split,place,member,quiet⟩
        cases front with
        | nil =>
          obtain ⟨rfl,rfl⟩ := List.cons.inj split
          rw [later] at quiet
          exact absurd quiet (by simp)
        | cons first front =>
          obtain ⟨rfl,rest_split⟩ := List.cons.inj split
          exact ⟨front,b,back,rest_split,by simp [place]; omega,member,quiet⟩
    · have none_later : rest.any answered = false := Bool.eq_false_iff.mpr later
      have all_after : (numbered (number + 1) rest).rtakeWhile (fun e => !is_result e.2) = numbered (number + 1) rest := by
        rw [List.rtakeWhile_eq_self_iff]
        have all := answered_numbered (number + 1) rest
        rw [none_later,Bool.not_false,List.all_eq_true] at all
        exact all
      rw [none_later,Bool.not_false,if_pos rfl,rtakeWhile_map,List.mem_append]
      have in_rest := @ih (number + 1)
      rw [all_after] at in_rest
      rw [in_rest]
      constructor
      · rintro (own | ⟨front,b,back,split,place,member,quiet⟩)
        · obtain ⟨e',member,same⟩ := List.mem_map.mp own
          obtain ⟨rfl,rfl⟩ := Prod.mk.inj same
          exact ⟨[],a,rest,rfl,by simp,member,none_later⟩
        · exact ⟨a :: front,b,back,by rw [split]; rfl,by simp [place]; omega,member,quiet⟩
      · rintro ⟨front,b,back,split,place,member,quiet⟩
        cases front with
        | nil =>
          obtain ⟨rfl,rfl⟩ := List.cons.inj split
          exact .inl (List.mem_map.mpr ⟨e,member,by simp [place]⟩)
        | cons first front =>
          obtain ⟨rfl,rest_split⟩ := List.cons.inj split
          exact .inr ⟨front,b,back,rest_split,by simp [place]; omega,member,quiet⟩

/-- Of two attempts that forwarded something after their last tool results, a tool result
    has come after the first. -/
def Superseded (run : Run) : Prop :=
  ∀ front a mid b back, run.attempts = front ++ a :: mid ++ b :: back → trailing a ≠ [] → trailing b ≠ [] →
    (mid ++ b :: back).any answered = true

theorem trailing_ne {a : Attempt} : trailing a ≠ [] ↔ ∃ e ∈ (events a).rtakeWhile (fun e => !is_result e), (delivery e).isSome = true := by
  rw [trailing,deliveries,ne_eq,List.filterMap_eq_nil_iff]
  simp only [not_forall,Option.isSome_iff_ne_none,exists_prop]

theorem between {attempts front front' back back' : List Attempt} {a b : Attempt} (first : attempts = front ++ a :: back)
    (second : attempts = front' ++ b :: back') (before : front.length < front'.length) :
    ∃ mid, attempts = front ++ a :: mid ++ b :: back' ∧ back = mid ++ b :: back' := by
  rcases List.append_eq_append_iff.mp (first.symm.trans second) with ⟨rest,longer,split⟩ | ⟨rest,shorter,-⟩
  · cases rest with
    | nil =>
      rw [longer] at before
      simp at before
    | cons c mid =>
      obtain ⟨rfl,rest⟩ := List.cons.inj split
      exact ⟨mid,by rw [first,rest]; simp,rest⟩
  · rw [shorter,List.length_append] at before
    omega

theorem single_iff (run : Run) : SingleAttempt run ↔ Superseded run := by
  constructor
  · intro single front a mid b back split trailing_a trailing_b
    by_contra none_later
    rw [Bool.not_eq_true] at none_later
    obtain ⟨x,x_own,x_delivers⟩ := trailing_ne.mp trailing_a
    obtain ⟨y,y_own,y_delivers⟩ := trailing_ne.mp trailing_b
    have quiet_after : back.any answered = false := by
      rw [List.any_append,List.any_cons,Bool.or_eq_false_iff,Bool.or_eq_false_iff] at none_later
      exact none_later.2.2
    have x_since : (0 + front.length,x) ∈ sinceResult (numbered 0 run.attempts) :=
      mem_sinceResult.mpr ⟨front,a,mid ++ b :: back,by rw [split]; simp,rfl,x_own,none_later⟩
    have y_since : (0 + (front ++ a :: mid).length,y) ∈ sinceResult (numbered 0 run.attempts) :=
      mem_sinceResult.mpr ⟨front ++ a :: mid,b,back,split,rfl,y_own,quiet_after⟩
    have same := single _ x_since _ y_since x_delivers y_delivers
    simp at same
  · intro superseded
    -- an attempt before another one is none of those since the last tool result
    have ordered : ∀ (x y : Nat × SseEvent), x ∈ sinceResult (numbered 0 run.attempts) → y ∈ sinceResult (numbered 0 run.attempts) →
        (delivery x.2).isSome = true → (delivery y.2).isSome = true → ¬x.1 < y.1 := by
      rintro ⟨i,x⟩ ⟨j,y⟩ x_since y_since x_delivers y_delivers before
      obtain ⟨front,a,back,split_a,place_a,x_own,quiet⟩ := mem_sinceResult.mp x_since
      obtain ⟨front',b,back',split_b,place_b,y_own,-⟩ := mem_sinceResult.mp y_since
      simp only at before
      obtain ⟨mid,split,rest⟩ := between split_a split_b (by omega)
      have later := superseded front a mid b back' split (trailing_ne.mpr ⟨x,x_own,x_delivers⟩) (trailing_ne.mpr ⟨y,y_own,y_delivers⟩)
      rw [← rest,quiet] at later
      exact absurd later (by simp)
    intro x x_since y y_since x_delivers y_delivers
    have not_before := ordered x y x_since y_since x_delivers y_delivers
    have not_after := ordered y x y_since x_since y_delivers x_delivers
    omega

/-! ### What an attempt forwards -/

theorem called_append (front back : List SseEvent) : called (front ++ back) = called front ++ called back := List.filterMap_append

theorem dispatched_append (front back : List Step) : dispatched (front ++ back) = dispatched front ++ dispatched back :=
  List.filterMap_append

/-- The tool calls that are forwarded are those that are dispatched, and the rate limit is not reported. -/
structure Forwards (steps : List Step) : Prop where
  dispatched : dispatched steps = called (emitted steps)
  reported : (emitted steps).any is_exhausted = false

theorem Forwards.append {front back : List Step} (first : Forwards front) (second : Forwards back) : Forwards (front ++ back) where
  dispatched := by rw [dispatched_append,emitted_append,called_append,first.dispatched,second.dispatched]
  reported := by rw [emitted_append,List.any_append,first.reported,second.reported]; rfl

theorem consume_forwards (w : Providers) (token_cap : Int) (ending : Option Raised) (chunks : List ProviderChunk) (s : LoopState)
    (yielded : Bool) : Forwards (consume w token_cap ending chunks s yielded).steps := by
  induction chunks generalizing s yielded with
  | nil =>
    unfold consume
    cases ending with
    | none => exact ⟨rfl,rfl⟩
    | some exc => exact ⟨rfl,rfl⟩
  | cons chunk rest ih =>
    unfold consume
    simp only
    split
    · exact ⟨rfl,rfl⟩
    · split
      · split
        · exact ⟨rfl,rfl⟩
        · cases w.on_tool_call (s.tool_iterations + 1) chunk.call with
          | error exc => exact ⟨rfl,rfl⟩
          | ok result =>
            simp only
            cases serialize_tool_result result with
            | error exc => exact ⟨rfl,rfl⟩
            | ok text => exact Forwards.append ⟨rfl,rfl⟩ (ih _ true)
      · split
        · exact ⟨rfl,rfl⟩
        · split
          · exact ⟨rfl,rfl⟩
          · exact Forwards.append ⟨rfl,rfl⟩ (ih _ yielded)

/-- What an attempt forwards, and what it says of the rate limit. -/
structure Counts (s : LoopState) (a : Attempt) (next : LoopState) : Prop where
  dispatched : dispatched a.steps = called (events a)
  counted : next.attempts_429 = s.attempts_429 + if limited a then 1 else 0
  reported : exhausts a = true ↔ limited a = true ∧ MAX_429_ATTEMPTS ≤ s.attempts_429 + 1

theorem exhausts_append (steps last : List Step) (stream_end : StreamEnd) (verdict : Verdict) (forwards : Forwards steps) :
    exhausts ⟨steps ++ last,stream_end,verdict⟩ = (emitted last).any is_exhausted := by
  simp only [exhausts,events,emitted_append,List.any_append]
  rw [forwards.reported,Bool.false_or]

theorem conclude_counts (w : Providers) (number : Nat) (out : Streamed) (forwards : Forwards out.steps) :
    Counts out.state (conclude w number out).1 (conclude w number out).2 := by
  obtain ⟨steps,state,ending⟩ := out
  have own : ∀ stream_end verdict, exhausts ⟨steps,stream_end,verdict⟩ = false := fun _ _ => forwards.reported
  have last : ∀ e stream_end verdict, exhausts ⟨steps ++ [.event e],stream_end,verdict⟩ = is_exhausted e := by
    intro e stream_end verdict
    rw [exhausts_append _ _ _ _ forwards]
    simp [emitted,Step.emitted]
  have calls : ∀ step : Step, dispatched [step] = called (emitted [step]) → ∀ stream_end verdict,
      dispatched (steps ++ [step]) = called (events ⟨steps ++ [step],stream_end,verdict⟩) := by
    intro step same stream_end verdict
    rw [events,dispatched_append,emitted_append,called_append,forwards.dispatched,same]
  unfold conclude
  simp only
  cases ending with
  | returned => exact ⟨forwards.dispatched,rfl,by simp [own,limited]⟩
  | finished yielded =>
    cases yielded with
    | true => exact ⟨forwards.dispatched,rfl,by simp [own,limited]⟩
    | false => exact ⟨calls _ rfl _ _,rfl,by simp [last,is_exhausted,limited]⟩
  | raised exc =>
    simp only
    by_cases rate : is_rate_limit exc = true
    · rw [if_pos rate]
      by_cases third : MAX_429_ATTEMPTS ≤ state.attempts_429 + 1
      · rw [if_pos third]
        exact ⟨calls _ rfl _ _,by simp [limited,rate],by simp [last,is_exhausted,limited,rate,third]⟩
      · rw [if_neg third]
        refine ⟨calls _ rfl _ _,by simp [limited,rate],?_⟩
        rw [exhausts_append _ _ _ _ forwards]
        simp [emitted,Step.emitted,third]
    · have other : ∀ s v, limited ⟨s,.raised exc,v⟩ = false := fun _ _ => by simpa [limited] using rate
      rw [if_neg rate]
      by_cases unavailable : is_provider_unavailable exc = true
      · rw [if_pos unavailable]
        cases w.fallback with
        | none => exact ⟨forwards.dispatched,by simp [other],by simp [own,other]⟩
        | some provider =>
          simp only
          split
          · exact ⟨calls _ rfl _ _,by simp [other],by simp [last,is_exhausted,other]⟩
          · exact ⟨forwards.dispatched,by simp [other],by simp [own,other]⟩
      · rw [if_neg unavailable]
        exact ⟨calls _ rfl _ _,by simp [other],by simp [last,is_exhausted,other]⟩

theorem attempt_counts (w : Providers) (token_cap : Int) (number : Nat) {s : LoopState} (bounds : InBounds token_cap s) :
    Counts s (attempt w token_cap number s).1 (attempt w token_cap number s).2 := by
  let script := w.stream number s.on_fallback s.working_history
  have counts := conclude_counts w number (consume w token_cap script.ending script.chunks s false) (consume_forwards ..)
  have same := (consume_spec w script.ending script.chunks s false bounds.limit bounds.cap).attempts_429
  exact ⟨counts.dispatched,same ▸ counts.counted,same ▸ counts.reported⟩

/-! ### Runs -/

/-- The rate limit is reported by the third attempt that it ends, wherever the others were. -/
theorem loop_counts (w : Providers) (token_cap : Int) (fuel number : Nat) (s : LoopState) (bounds : InBounds token_cap s) :
    ∀ front a back, (loop w token_cap fuel number s).attempts = front ++ a :: back →
      dispatched a.steps = called (events a) ∧
        (exhausts a = true ↔ limited a = true ∧ s.attempts_429 + front.countP limited + 1 = MAX_429_ATTEMPTS) := by
  induction fuel generalizing number s with
  | zero => simp [loop]
  | succ fuel ih =>
    have counts := attempt_counts w token_cap number bounds
    have iterates := attempt_spec w number s bounds
    have few := bounds.attempts
    unfold loop
    generalize attempt w token_cap number s = made at counts iterates ⊢
    obtain ⟨first,next⟩ := made
    simp only at counts iterates ⊢
    have first_counts : dispatched first.steps = called (events first) ∧
        (exhausts first = true ↔ limited first = true ∧ s.attempts_429 + ([] : List Attempt).countP limited + 1 = MAX_429_ATTEMPTS) := by
      refine ⟨counts.dispatched,?_⟩
      rw [counts.reported,List.countP_nil]
      exact and_congr_right fun _ => by omega
    have alone : ∀ front a back, [first] = front ++ a :: back → dispatched a.steps = called (events a) ∧
        (exhausts a = true ↔ limited a = true ∧ s.attempts_429 + front.countP limited + 1 = MAX_429_ATTEMPTS) := by
      intro front a back split
      cases front with
      | nil =>
        obtain ⟨rfl,-⟩ := List.cons.inj split
        exact first_counts
      | cons b front => simp at split
    cases verdict : first.verdict with
    | returned => exact alone
    | raised exc => exact alone
    | again =>
      intro front a back split
      cases front with
      | nil =>
        obtain ⟨rfl,-⟩ := List.cons.inj split
        exact first_counts
      | cons b front =>
        obtain ⟨rfl,rest⟩ := List.cons.inj split
        obtain ⟨calls,reported⟩ := ih (number + 1) next (iterates.inBounds verdict) front a back rest
        refine ⟨calls,?_⟩
        rw [reported,counts.counted,List.countP_cons]
        exact and_congr_right fun _ => by omega

/-- The attempts that were not cut off deliver everything exactly where the others deliver nothing. -/
theorem invisible_iff (attempts : List Attempt) :
    attempts.flatMap (fun a => deliveries (events a)) =
        (attempts.filter fun a => !cut_off a).flatMap (fun a => deliveries (events a)) ↔
      ∀ a ∈ attempts, cut_off a = true → deliveries (events a) = [] := by
  induction attempts with
  | nil => simp
  | cons a rest ih =>
    rw [List.flatMap_cons,List.forall_mem_cons,← ih]
    cases cut : cut_off a with
    | false =>
      rw [List.filter_cons_of_pos (by simp [cut]),List.flatMap_cons,List.append_cancel_left_eq]
      simp
    | true =>
      rw [List.filter_cons_of_neg (by simp [cut])]
      constructor
      · intro same
        have longer : ((rest.filter fun a => !cut_off a).flatMap fun a => deliveries (events a)).length ≤
            (rest.flatMap fun a => deliveries (events a)).length := by
          exact ((List.filter_sublist (p := fun a => !cut_off a)).flatMap _).length_le
        have lengths := congrArg List.length same
        rw [List.length_append] at lengths
        have nothing : deliveries (events a) = [] := List.length_eq_zero_iff.mp (by omega)
        rw [nothing,List.nil_append] at same
        exact ⟨fun _ => nothing,same⟩
      · rintro ⟨nothing,same⟩
        rw [nothing rfl,List.nil_append,same]

/-! ### Attempts and their streams -/

/-- What is delivered after the last tool result, or was before the events. -/
def dangling : Bool → List SseEvent → Bool
  | before, [] => before
  | before, e :: rest => dangling (!is_result e && (before || (delivery e).isSome)) rest

theorem dangling_append (before : Bool) (front back : List SseEvent) :
    dangling before (front ++ back) = dangling (dangling before front) back := by
  induction front generalizing before with
  | nil => rfl
  | cons e front ih => exact ih _

theorem trailing_dangling (a : Attempt) : trailing a ≠ [] ↔ dangling false (events a) = true := by
  unfold trailing
  generalize events a = es
  induction es using List.reverseRecOn with
  | nil => simp [deliveries,dangling]
  | append_singleton front last ih =>
    rw [dangling_append]
    cases result : is_result last with
    | true => simp [dangling,result,deliveries]
    | false =>
      have split_at : deliveries (front.rtakeWhile (fun e => !is_result e) ++ [last]) =
          deliveries (front.rtakeWhile fun e => !is_result e) ++ (delivery last).toList := by
        rw [deliveries,List.filterMap_append]
        cases given : delivery last <;> simp [deliveries,given]
      rw [List.rtakeWhile_concat_pos _ _ _ (by simp [result]),split_at,dangling,dangling,result]
      cases delivery last with
      | none => rwa [Option.toList_none,List.append_nil,Option.isSome_none,Bool.or_false]
      | some d => simp

section
variable (w : Providers) (token_cap : Int)

/-- Where the stream is read to its end, or to a call without an answer. -/
theorem consume_leaves (ending : Option Raised) (chunks : List ProviderChunk) (s : LoopState) (yielded before : Bool)
    (goes_on : (consume w token_cap ending chunks s yielded).ending ≠ .returned) :
    dangling before (emitted (consume w token_cap ending chunks s yielded).steps) = leaves w s.tool_iterations before chunks := by
  induction chunks generalizing s yielded before with
  | nil =>
    unfold consume
    cases ending with
    | none => rfl
    | some exc => rfl
  | cons chunk rest ih =>
    unfold consume at goes_on ⊢
    unfold leaves answers
    simp only at goes_on ⊢
    split
    · next spent => exact absurd rfl (by rwa [if_pos spent] at goes_on)
    · next within =>
      rw [if_neg within] at goes_on
      split
      · next is_call =>
        rw [if_pos is_call] at goes_on
        split
        · next exceeded => exact absurd rfl (by rwa [if_pos exceeded] at goes_on)
        · next room =>
          rw [if_neg room] at goes_on
          cases called : w.on_tool_call (s.tool_iterations + 1) chunk.call with
          | error exc =>
            rw [called] at goes_on
            exact absurd rfl goes_on
          | ok result =>
            rw [called] at goes_on
            simp only at goes_on ⊢
            cases wrote : serialize_tool_result result with
            | error exc => cases before <;> rfl
            | ok text =>
              rw [wrote] at goes_on
              simp only [Streamed.after,emitted_append,dangling_append]
              exact ih _ true false goes_on
      · next no_call =>
        rw [if_neg no_call] at goes_on
        split
        · next last => exact absurd rfl (by rwa [if_pos last] at goes_on)
        · next other =>
          rw [if_neg other] at goes_on
          split
          · next final => exact absurd rfl (by rwa [if_pos final] at goes_on)
          · next open_end =>
            rw [if_neg open_end] at goes_on
            simp only [Streamed.after,emitted_append,dangling_append]
            have one : dangling before (emitted [.event (.token chunk.text chunk.token_count)]) = true := by
              simp [emitted,Step.emitted,dangling,delivery,is_result]
            rw [one]
            exact ih _ yielded true goes_on

/-- Something is delivered exactly where the first chunk is forwarded. -/
theorem consume_gives (ending : Option Raised) (chunks : List ProviderChunk) (s : LoopState) (yielded : Bool) :
    deliveries (emitted (consume w token_cap ending chunks s yielded).steps) ≠ [] ↔ gives token_cap s chunks = true := by
  cases chunks with
  | nil =>
    unfold consume
    cases ending <;> simp [emitted,deliveries,gives]
  | cons chunk rest =>
    unfold consume gives
    simp only
    split
    · next spent => simp [emitted,Step.emitted,deliveries,delivery,Int.not_le.mpr spent]
    · next within =>
      have fits : s.used_tokens + chunk.token_count ≤ token_cap := Int.not_lt.mp within
      split
      · next is_call =>
        split
        · next exceeded =>
          have full : ¬s.tool_iterations < TOOL_LOOP_LIMIT := by omega
          simp [emitted,Step.emitted,deliveries,delivery,full]
        · next room =>
          have free : s.tool_iterations < TOOL_LOOP_LIMIT := by omega
          cases w.on_tool_call (s.tool_iterations + 1) chunk.call with
          | error exc => simp [emitted,Step.emitted,deliveries,delivery,fits,free]
          | ok result =>
            simp only
            cases serialize_tool_result result with
            | error exc => simp [emitted,Step.emitted,deliveries,delivery,fits,free]
            | ok text => simp [Streamed.after,emitted,Step.emitted,deliveries,delivery,fits,free]
      · next no_call =>
        split
        · next last => simp [emitted,Step.emitted,deliveries,delivery,last]
        · next other =>
          split
          · simp [emitted,Step.emitted,deliveries,delivery,fits,other]
          · simp [Streamed.after,emitted,Step.emitted,deliveries,delivery,fits,other]

/-- A stream that goes on, or is cut off, has forwarded what it was given first. -/
theorem consume_first (ending : Option Raised) (chunks : List ProviderChunk) (s : LoopState) (yielded : Bool)
    (goes_on : (consume w token_cap ending chunks s yielded).ending ≠ .returned) : gives token_cap s chunks = true ↔ chunks ≠ [] := by
  cases chunks with
  | nil => simp [gives]
  | cons chunk rest =>
    refine iff_of_true ?_ (List.cons_ne_nil _ _)
    unfold consume at goes_on
    unfold gives
    simp only at goes_on
    split at goes_on
    · exact absurd rfl goes_on
    · next within =>
      have fits : s.used_tokens + chunk.token_count ≤ token_cap := Int.not_lt.mp within
      split at goes_on
      · next is_call =>
        split at goes_on
        · exact absurd rfl goes_on
        · next room =>
          have free : s.tool_iterations < TOOL_LOOP_LIMIT := by omega
          simp [fits,free,is_call]
      · next no_call =>
        split at goes_on
        · exact absurd rfl goes_on
        · next other => simp [fits,no_call,other]

theorem conclude_events (number : Nat) (out : Streamed) : ∃ last : List SseEvent,
    events (conclude w number out).1 = emitted out.steps ++ last ∧ (∀ e ∈ last, delivery e = none ∧ is_result e = false) ∧
      (conclude w number out).1.stream_end = out.ending := by
  obtain ⟨steps,state,ending⟩ := out
  have same : ∀ stream_end verdict, events ⟨steps,stream_end,verdict⟩ = emitted steps ++ [] := fun _ _ => (List.append_nil _).symm
  have one : ∀ e stream_end verdict, events ⟨steps ++ [.event e],stream_end,verdict⟩ = emitted steps ++ [e] := fun _ _ _ => emitted_append ..
  unfold conclude
  simp only
  cases ending with
  | returned => exact ⟨[],same _ _,by simp,rfl⟩
  | finished yielded =>
    cases yielded with
    | true => exact ⟨[],same _ _,by simp,rfl⟩
    | false => exact ⟨[.done],one _ _ _,by simp [delivery,is_result],rfl⟩
  | raised exc =>
    simp only
    split
    · split
      · exact ⟨[.rate_limit_exhausted _],one _ _ _,by simp [delivery,is_result],rfl⟩
      · refine ⟨[],?_,by simp,rfl⟩
        simp [events,emitted,Step.emitted]
    · split
      · cases w.fallback with
        | none => exact ⟨[],same _ _,by simp,rfl⟩
        | some provider =>
          simp only
          split
          · exact ⟨[.fallback_provider_active provider],one _ _ _,by simp [delivery,is_result],rfl⟩
          · exact ⟨[],same _ _,by simp,rfl⟩
      · exact ⟨[.error _ _],one _ _ _,by simp [delivery,is_result],rfl⟩

theorem conclude_again (number : Nat) {out : Streamed} (again : (conclude w number out).1.verdict = .again) :
    out.ending ≠ .returned := by
  intro returned
  rw [conclude,returned] at again
  cases again

/-- What an attempt delivers, by the stream that it read. -/
structure Read (m : Made) : Prop where
  cut : cut_off m.attempt = true → (deliveries (events m.attempt) = [] ↔ m.script.chunks = [])
  left : m.attempt.verdict = .again → (trailing m.attempt ≠ [] ↔ leaves w m.state.tool_iterations false m.script.chunks = true)
  given : answered m.attempt = false → (trailing m.attempt ≠ [] ↔ gives token_cap m.state m.script.chunks = true)

theorem attempt_read (number : Nat) (s : LoopState) :
    Read w token_cap ⟨s,w.stream number s.on_fallback s.working_history,(attempt w token_cap number s).1⟩ := by
  let script := w.stream number s.on_fallback s.working_history
  let out := consume w token_cap script.ending script.chunks s false
  obtain ⟨last,told,silent,ended⟩ := conclude_events w number out
  have delivered : deliveries (events (conclude w number out).1) = deliveries (emitted out.steps) := by
    have nothing : deliveries last = [] := List.filterMap_eq_nil_iff.mpr fun e member => (silent e member).1
    rw [told,deliveries,List.filterMap_append]
    exact (congrArg _ nothing).trans (List.append_nil _)
  have kept : ∀ before, dangling before last = before := by
    clear told delivered
    induction last with
    | nil => exact fun _ => rfl
    | cons e rest ih =>
      intro before
      obtain ⟨none,other⟩ := silent e List.mem_cons_self
      rw [dangling,none,other]
      simpa using ih (fun e member => silent e (List.mem_cons_of_mem _ member)) before
  refine ⟨fun cut => ?_,fun again => ?_,fun unanswered => ?_⟩
  · have goes_on : out.ending ≠ .returned := by
      intro returned
      rw [returned] at ended
      change cut_off (conclude w number out).1 = true at cut
      rw [cut_off,ended] at cut
      cases cut
    have some_given := (consume_gives w token_cap script.ending script.chunks s false).trans
      (consume_first w token_cap script.ending script.chunks s false goes_on)
    change deliveries (events (conclude w number out).1) = [] ↔ script.chunks = []
    rw [delivered]
    exact not_iff_not.mp some_given
  · rw [trailing_dangling]
    change dangling false (events (conclude w number out).1) = true ↔ _
    rw [told,dangling_append,kept,consume_leaves w token_cap script.ending script.chunks s false false (conclude_again w number again)]
  · change answered (conclude w number out).1 = false at unanswered
    have all : ∀ e ∈ events (conclude w number out).1, (!is_result e) = true := by
      intro e member
      rw [Bool.not_eq_true']
      exact Bool.eq_false_iff.mpr fun result => by
        rw [answered,List.any_eq_false] at unanswered
        exact unanswered e member result
    change trailing (conclude w number out).1 ≠ [] ↔ gives token_cap s script.chunks = true
    rw [trailing,List.rtakeWhile_eq_self_iff.mpr all,delivered]
    exact consume_gives ..

theorem trace_attempts (fuel number : Nat) (s : LoopState) :
    (trace w token_cap fuel number s).map Made.attempt = (loop w token_cap fuel number s).attempts := by
  induction fuel generalizing number s with
  | zero => rfl
  | succ fuel ih =>
    unfold trace loop
    simp only
    split
    · next again =>
      rw [again,List.map_cons,ih]
      rfl
    · next other =>
      cases verdict : (attempt w token_cap number s).1.verdict with
      | again => exact absurd verdict other
      | returned => rfl
      | raised exc => rfl

theorem trace_read (fuel number : Nat) (s : LoopState) : ∀ m ∈ trace w token_cap fuel number s, Read w token_cap m := by
  induction fuel generalizing number s with
  | zero => exact fun m absent => absurd absent List.not_mem_nil
  | succ fuel ih =>
    intro m member
    unfold trace at member
    rcases List.mem_cons.mp member with rfl | later
    · exact attempt_read w token_cap number s
    · split at later
      · exact ih _ _ m later
      · cases later

theorem trace_again (fuel number : Nat) (s : LoopState) :
    ∀ front m next back, trace w token_cap fuel number s = front ++ m :: next :: back → m.attempt.verdict = .again := by
  induction fuel generalizing number s with
  | zero => simp [trace]
  | succ fuel ih =>
    intro front m next back split_at
    unfold trace at split_at
    simp only at split_at
    cases front with
    | nil =>
      obtain ⟨rfl,rest⟩ := List.cons.inj split_at
      split at rest
      · next again => exact again
      · cases rest
    | cons first front =>
      have rest := (List.cons.inj split_at).2
      split at rest
      · exact ih _ _ front m next back rest
      · simp at rest

end

/-- What the consumer sees of the retries of a run, by the streams that its attempts read. -/
structure Retries (w : Providers) (token_cap : Int) (made : List Made) (run : Run) : Prop where
  attempts : made.map Made.attempt = run.attempts
  invisible : run.attempts.flatMap (fun a => deliveries (events a)) =
      (run.attempts.filter fun a => !cut_off a).flatMap (fun a => deliveries (events a)) ↔
    ∀ m ∈ made, cut_off m.attempt = true → m.script.chunks = []
  single : SingleAttempt run ↔
    ∀ front x mid y back, made = front ++ x :: mid ++ y :: back →
      leaves w x.state.tool_iterations false x.script.chunks = true → gives token_cap y.state y.script.chunks = true →
        (mid ++ y :: back).any (fun m => answered m.attempt) = true
  dispatched : ∀ a ∈ run.attempts, dispatched a.steps = called (events a)
  exhausted : ∀ front a back, run.attempts = front ++ a :: back →
    (exhausts a = true ↔ limited a = true ∧ front.countP limited + 1 = MAX_429_ATTEMPTS)

section
variable {w : Providers} {token_cap : Int} {made : List Made} {run : Run}

theorem invisible_made (attempts : made.map Made.attempt = run.attempts) (reads : ∀ m ∈ made, Read w token_cap m) :
    (∀ a ∈ run.attempts, cut_off a = true → deliveries (events a) = []) ↔
      ∀ m ∈ made, cut_off m.attempt = true → m.script.chunks = [] := by
  rw [← attempts,List.forall_mem_map]
  exact forall_congr' fun m => forall_congr' fun member => forall_congr' fun cut => (reads m member).cut cut

theorem superseded_made (attempts : made.map Made.attempt = run.attempts) (reads : ∀ m ∈ made, Read w token_cap m)
    (again : ∀ front m next back, made = front ++ m :: next :: back → m.attempt.verdict = .again) :
    Superseded run ↔ ∀ front x mid y back, made = front ++ x :: mid ++ y :: back →
      leaves w x.state.tool_iterations false x.script.chunks = true → gives token_cap y.state y.script.chunks = true →
        (mid ++ y :: back).any (fun m => answered m.attempt) = true := by
  have opens : ∀ front x mid y back, made = front ++ x :: mid ++ y :: back →
      (trailing x.attempt ≠ [] ↔ leaves w x.state.tool_iterations false x.script.chunks = true) := by
    intro front x mid y back split_at
    have member : x ∈ made := by rw [split_at]; simp
    refine (reads x member).left ?_
    cases mid with
    | nil => exact again front x y back (by rw [split_at]; simp)
    | cons z mid => exact again front x z (mid ++ y :: back) (by rw [split_at]; simp)
  constructor
  · intro superseded front x mid y back split_at opened given
    by_contra none_later
    rw [Bool.not_eq_true] at none_later
    have member : y ∈ made := by rw [split_at]; simp
    have unanswered : answered y.attempt = false := by
      rw [List.any_append,List.any_cons,Bool.or_eq_false_iff,Bool.or_eq_false_iff] at none_later
      exact none_later.2.1
    have later := superseded (front.map Made.attempt) x.attempt (mid.map Made.attempt) y.attempt (back.map Made.attempt)
      (by rw [← attempts,split_at]; simp) ((opens _ _ _ _ _ split_at).mpr opened) (((reads y member).given unanswered).mpr given)
    have same : (mid ++ y :: back).any (fun m => answered m.attempt) =
        (mid.map Made.attempt ++ y.attempt :: back.map Made.attempt).any answered := by
      simp [List.any_map,Function.comp_def]
    rw [same,later] at none_later
    cases none_later
  · intro followed front a mid b back split_at opened given
    rw [← attempts] at split_at
    obtain ⟨before,last,rfl,before_same,last_same⟩ := List.map_eq_append_iff.mp split_at
    obtain ⟨first,rest,rfl,first_same,rest_same⟩ := List.map_eq_append_iff.mp before_same
    obtain ⟨x,others,rfl,rfl,rfl⟩ := List.map_eq_cons_iff.mp rest_same
    obtain ⟨y,behind,rfl,rfl,rfl⟩ := List.map_eq_cons_iff.mp last_same
    by_contra none_later
    rw [Bool.not_eq_true] at none_later
    have unanswered : answered y.attempt = false := by
      rw [List.any_append,List.any_cons,Bool.or_eq_false_iff,Bool.or_eq_false_iff] at none_later
      exact none_later.2.1
    have later := followed first x others y behind rfl ((opens _ _ _ _ _ rfl).mp opened)
      (((reads y (by simp)).given unanswered).mp given)
    have same : (others ++ y :: behind).any (fun m => answered m.attempt) =
        (others.map Made.attempt ++ y.attempt :: behind.map Made.attempt).any answered := by
      simp [List.any_map,Function.comp_def]
    rw [← same,later] at none_later
    cases none_later

end

theorem tool_loop_retries (w : Providers) (token_cap : Int) (positive : 0 < token_cap) (history : List Message) (fuel : Nat) :
    ∃ run, stream_with_tool_loop w token_cap history fuel = .ok run ∧
      Retries w token_cap (trace w token_cap fuel 0 (.start history)) run := by
  refine ⟨loop w token_cap fuel 0 (.start history),by rw [stream_with_tool_loop,if_neg (Int.not_le.mpr positive)],?_⟩
  have counts := loop_counts w token_cap fuel 0 (.start history) (start_inBounds positive history)
  have attempts := trace_attempts w token_cap fuel 0 (.start history)
  have reads := trace_read w token_cap fuel 0 (.start history)
  refine ⟨attempts,(invisible_iff _).trans (invisible_made attempts reads),
    (single_iff _).trans (superseded_made attempts reads (trace_again w token_cap fuel 0 _)),?_,?_⟩
  · intro a member
    obtain ⟨front,back,split⟩ := List.append_of_mem member
    exact (counts front a back split).1
  · intro front a back split
    rw [(counts front a back split).2]
    simp [LoopState.start]

theorem tool_loop_retries_limited : ∃ run, stream_with_tool_loop limitedOnce 10 [] 12 = .ok run ∧
    Retries limitedOnce 10 (trace limitedOnce 10 12 0 (.start [])) run :=
  tool_loop_retries limitedOnce 10 (by decide) [] 12

def noCall : ToolCall := ⟨none,none,.null⟩

/-- A provider that is limited after a token, and answers when it is asked again. -/
def stutters : Providers where
  stream := fun number _ _ =>
    match number with
    | 0 => ⟨[⟨"token",1,"Hello",noCall,false⟩],some ⟨["RateLimitError"],"429"⟩⟩
    | _ => ⟨[⟨"token",1,"Hello",noCall,false⟩,⟨"final",0,"",noCall,true⟩],none⟩
  downtime := fun _ => 0
  fallback := none
  on_tool_call := fun _ _ => .ok .none

def scattered : Providers where
  stream := fun number _ _ =>
    if number % 2 = 0 then ⟨[],some ⟨["RateLimitError"],"429"⟩⟩ else ⟨[⟨"tool_call",1,"",noCall,false⟩],none⟩
  downtime := fun _ => 0
  fallback := none
  on_tool_call := fun _ _ => .ok .none

/-- The text of an attempt that was cut off is delivered again, and three rate limits that
    are apart end a run. -/
theorem retry_repeats : ¬SingleAttempt (loop stutters 100 12 0 (.start [])) ∧
    ¬ConsecutiveLimits (loop scattered 100 12 0 (.start [])) := by
  refine ⟨by decide,fun consecutive => ?_⟩
  let rate : StreamEnd := .raised ⟨["RateLimitError"],"429"⟩
  let called : Attempt := ⟨[.event (.tool_call noCall 1),.on_tool_call noCall,.event (.tool_result "" none)],.finished true,.again⟩
  let last : Attempt := ⟨[.event (.rate_limit_exhausted 3)],rate,.returned⟩
  have five : (loop scattered 100 12 0 (.start [])).attempts =
      [⟨[.sleep 2],rate,.again⟩,called,⟨[.sleep 4],rate,.again⟩,called] ++ last :: [] := by rfl
  obtain ⟨before,b,c,split,-,limited_c,-⟩ := consecutive _ last [] five rfl
  have same : some called = some c := by
    have ends := congrArg List.getLast? split
    simpa using ends
  obtain rfl := Option.some.inj same
  exact absurd limited_c (by decide)

end Automation.ToolRetries
