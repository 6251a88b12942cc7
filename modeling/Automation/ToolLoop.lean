import Automation.Json
import Mathlib.Algebra.BigOperators.Group.List.Basic
import Mathlib.Algebra.Ring.Int.Defs
import Mathlib.Tactic.Common

/-!
`LlmOrchestrator.stream_with_tool_loop`: the stream of a provider is forwarded chunk by
chunk; it is started anew after tool calls, after a rate limit and on the fallback
provider. The measure of a state is what is left of the three counters, so that some
fuel suffices (`tool_loop_protocol`); a run ends in one terminal event or raises
`ProviderUnavailable`, and keeps its bounds.
-/
namespace Automation.ToolLoop

/-- An instance of `Exception`: the names of its classes, its own first, and its text. A
    `CancelledError` is none. -/
structure Raised where
  mro : List String
  text : String

def Raised.class_name (exc : Raised) : String := exc.mro.headD ""

def exc_name_matches (exc : Raised) (target_name : String) : Bool :=
  exc.mro.any fun cls_name => cls_name = target_name || cls_name = "_" ++ target_name

def is_rate_limit (exc : Raised) : Bool := exc_name_matches exc "RateLimitError"

def is_provider_unavailable (exc : Raised) : Bool := exc_name_matches exc "ProviderUnavailable"

structure ToolCall where
  intent : Option String
  tool_name : Option String
  arguments : Json

structure ProviderChunk where
  kind : String
  token_count : Int
  text : String
  call : ToolCall
  is_final : Bool

/-- A finite stream: its chunks, and the exception that ends it, if one does. -/
structure Script where
  chunks : List ProviderChunk
  ending : Option Raised

structure Message where
  role : String
  text : String

/-- What a tool returns. An object may have a `serialize`, which may raise or return
    something else than a string. -/
inductive ToolResult where
  | none
  | str (text : String)
  | object (serialize : Option (Except Raised (Option String))) (repr : Except Raised String)

def serialize_tool_result : ToolResult → Except Raised String
  | .none => .ok ""
  | .str text => .ok text
  | .object (some (.ok (some value))) _ => .ok value
  | .object _ repr => repr

inductive ErrorDetail where
  | limit (n : Nat)
  | error (text : String)

inductive SseEvent where
  | token (text : String) (token_in : Int)
  | tool_call (call : ToolCall) (token_in : Int)
  | tool_result (result : String) (tool_name : Option String)
  | fallback_provider_active (provider : String)
  | done
  | token_cap_exceeded (limit used : Int)
  | rate_limit_exhausted (attempts : Nat)
  | error (reason : String) (detail : ErrorDetail)

/-- What a run does that can be seen: it emits events, calls `on_tool_call` and sleeps. -/
inductive Step where
  | event (e : SseEvent)
  | on_tool_call (call : ToolCall)
  | sleep (seconds : Nat)

def MAX_429_ATTEMPTS : Nat := 3
def PRIMARY_DOWNTIME_FALLBACK_S : Int := 60
def TOOL_LOOP_LIMIT : Nat := 8

/-- The providers, by the number of the attempt, and the tools, by the number of the
    call; the fallback provider's name, if there is one. -/
structure Providers where
  stream : Nat → Bool → List Message → Script
  downtime : Nat → Int
  fallback : Option String
  on_tool_call : Nat → ToolCall → Except Raised ToolResult

structure LoopState where
  on_fallback : Bool
  used_tokens : Int
  attempts_429 : Nat
  tool_iterations : Nat
  working_history : List Message

/-- How the stream of an attempt ends: the loop returned, the chunks are used up, or an
    exception was raised. -/
inductive StreamEnd where
  | returned
  | finished (yielded_tool_call : Bool)
  | raised (exc : Raised)

structure Streamed where
  steps : List Step
  state : LoopState
  ending : StreamEnd

def Streamed.after (steps : List Step) (streamed : Streamed) : Streamed := { streamed with steps := steps ++ streamed.steps }

variable (w : Providers) (token_cap : Int)

/-- The `async for` over the chunks. -/
def consume (ending : Option Raised) : List ProviderChunk → LoopState → Bool → Streamed
  | [], s, yielded_tool_call =>
    match ending with
    | none => ⟨[],s,.finished yielded_tool_call⟩
    | some exc => ⟨[],s,.raised exc⟩
  | chunk :: rest, s, yielded_tool_call =>
    let s := { s with used_tokens := s.used_tokens + chunk.token_count }
    if token_cap < s.used_tokens then ⟨[.event (.token_cap_exceeded token_cap s.used_tokens)],s,.returned⟩
    else if chunk.kind = "tool_call" then
      let s := { s with tool_iterations := s.tool_iterations + 1 }
      if TOOL_LOOP_LIMIT < s.tool_iterations then
        ⟨[.event (.error "tool_loop_limit_exceeded" (.limit TOOL_LOOP_LIMIT))],s,.returned⟩
      else
        let called : List Step := [.event (.tool_call chunk.call chunk.token_count),.on_tool_call chunk.call]
        match w.on_tool_call s.tool_iterations chunk.call with
        | .error exc => ⟨called ++ [.event (.error "tool_dispatch_failed" (.error exc.text))],s,.returned⟩
        | .ok result =>
          match serialize_tool_result result with
          | .error exc => ⟨called,s,.raised exc⟩
          | .ok text =>
            let s := { s with working_history := s.working_history ++ [⟨"tool",text⟩] }
            (consume ending rest s true).after (called ++ [.event (.tool_result text chunk.call.tool_name)])
    else if chunk.kind = "final" then ⟨[.event .done],s,.returned⟩
    else if chunk.is_final then ⟨[.event (.token chunk.text chunk.token_count),.event .done],s,.returned⟩
    else (consume ending rest s yielded_tool_call).after [.event (.token chunk.text chunk.token_count)]

/-- How an iteration of the loop ends. -/
inductive Verdict where
  | returned
  | again
  | raised (exc : Raised)

structure Attempt where
  steps : List Step
  stream_end : StreamEnd
  verdict : Verdict

/-- The body of the loop after its stream: the end of the stream and the handler of its exceptions. -/
def conclude (number : Nat) (streamed : Streamed) : Attempt × LoopState :=
  let s := streamed.state
  match streamed.ending with
  | .returned => (⟨streamed.steps,streamed.ending,.returned⟩,s)
  | .finished true => (⟨streamed.steps,streamed.ending,.again⟩,s)
  | .finished false => (⟨streamed.steps ++ [.event .done],streamed.ending,.returned⟩,s)
  | .raised exc =>
    if is_rate_limit exc then
      let s := { s with attempts_429 := s.attempts_429 + 1 }
      if MAX_429_ATTEMPTS ≤ s.attempts_429 then
        (⟨streamed.steps ++ [.event (.rate_limit_exhausted s.attempts_429)],streamed.ending,.returned⟩,s)
      else (⟨streamed.steps ++ [.sleep (2 ^ s.attempts_429)],streamed.ending,.again⟩,s)
    else if is_provider_unavailable exc then
      match w.fallback with
      | some provider =>
        if s.on_fallback = false ∧ PRIMARY_DOWNTIME_FALLBACK_S ≤ w.downtime number then
          (⟨streamed.steps ++ [.event (.fallback_provider_active provider)],streamed.ending,.again⟩,
            { s with on_fallback := true })
        else (⟨streamed.steps,streamed.ending,.raised exc⟩,s)
      | none => (⟨streamed.steps,streamed.ending,.raised exc⟩,s)
    else (⟨streamed.steps ++ [.event (.error exc.class_name (.error exc.text))],streamed.ending,.returned⟩,s)

/-- One iteration of the loop. -/
def attempt (number : Nat) (s : LoopState) : Attempt × LoopState :=
  let script := w.stream number s.on_fallback s.working_history
  conclude w number (consume w token_cap script.ending script.chunks s false)

/-- How a run ends; it is `running` where the fuel runs out. -/
inductive Ended where
  | running
  | returned
  | raised (exc : Raised)

structure Run where
  attempts : List Attempt
  ended : Ended

def Run.after (a : Attempt) (run : Run) : Run := { run with attempts := a :: run.attempts }

def Run.steps (run : Run) : List Step := run.attempts.flatMap Attempt.steps

/-- `while True`, for so many iterations. -/
def loop : Nat → Nat → LoopState → Run
  | 0, _, _ => ⟨[],.running⟩
  | fuel + 1, number, s =>
    let (a,s) := attempt w token_cap number s
    match a.verdict with
    | .again => (loop fuel (number + 1) s).after a
    | .returned => ⟨[a],.returned⟩
    | .raised exc => ⟨[a],.raised exc⟩

def LoopState.start (history : List Message) : LoopState where
  on_fallback := false
  used_tokens := 0
  attempts_429 := 0
  tool_iterations := 0
  working_history := history

/-- The run of `stream_with_tool_loop`, or the text of its `ValueError`. -/
def stream_with_tool_loop (history : List Message) (fuel : Nat) : Except String Run :=
  if token_cap ≤ 0 then .error "token_cap must be > 0" else .ok (loop w token_cap fuel 0 (.start history))

def SseEvent.terminal : SseEvent → Bool
  | .done | .token_cap_exceeded _ _ | .rate_limit_exhausted _ | .error _ _ => true
  | _ => false

def Step.emitted : Step → Option SseEvent
  | .event e => some e
  | _ => none

def emitted (steps : List Step) : List SseEvent := steps.filterMap Step.emitted

/-- The tokens that an event carries. -/
def SseEvent.token_in : SseEvent → Int
  | .token _ token_in | .tool_call _ token_in => token_in
  | _ => 0

def Step.token_in : Step → Int
  | .event e => e.token_in
  | _ => 0

def tokens (steps : List Step) : Int := (steps.map Step.token_in).sum

def Step.is_tool_call : Step → Bool
  | .on_tool_call _ => true
  | _ => false

def Step.is_fallback : Step → Bool
  | .event (.fallback_provider_active _) => true
  | _ => false

def tool_calls (steps : List Step) : Nat := steps.countP Step.is_tool_call

def fallbacks (steps : List Step) : Nat := steps.countP Step.is_fallback

/-- No event is terminal. -/
def Quiet (steps : List Step) : Prop := ∀ e ∈ emitted steps, e.terminal = false

/-- The last event is terminal, and no other. -/
def Closed (steps : List Step) : Prop :=
  ∃ front last, emitted steps = front ++ [last] ∧ last.terminal = true ∧ ∀ e ∈ front, e.terminal = false

@[simp] theorem emitted_append (front back : List Step) : emitted (front ++ back) = emitted front ++ emitted back :=
  List.filterMap_append

@[simp] theorem tokens_append (front back : List Step) : tokens (front ++ back) = tokens front + tokens back := by
  simp [tokens]

@[simp] theorem tool_calls_append (front back : List Step) : tool_calls (front ++ back) = tool_calls front + tool_calls back :=
  List.countP_append

@[simp] theorem fallbacks_append (front back : List Step) : fallbacks (front ++ back) = fallbacks front + fallbacks back :=
  List.countP_append

theorem Quiet.append {front back : List Step} (first : Quiet front) (second : Quiet back) : Quiet (front ++ back) := by
  intro e member
  rw [emitted_append,List.mem_append] at member
  exact member.elim (first e) (second e)

theorem Quiet.closed {front back : List Step} (quiet : Quiet front) (closed : Closed back) : Closed (front ++ back) := by
  obtain ⟨before,last,split,terminal,others⟩ := closed
  refine ⟨emitted front ++ before,last,by rw [emitted_append,split,List.append_assoc],terminal,?_⟩
  intro e member
  exact (List.mem_append.mp member).elim (quiet e) (others e)

theorem quiet_one {step : Step} (quiet : ∀ e, step.emitted = some e → e.terminal = false) : Quiet [step] := by
  intro e member
  rw [emitted,List.mem_filterMap] at member
  obtain ⟨other,own,made⟩ := member
  rw [List.mem_singleton.mp own] at made
  exact quiet e made

theorem closed_one {e : SseEvent} (terminal : e.terminal = true) : Closed [.event e] :=
  ⟨[],e,rfl,terminal,by simp⟩

/-- What a stream does from a state that keeps the bounds. -/
structure Consumes (s : LoopState) (yielded_tool_call : Bool) (out : Streamed) : Prop where
  on_fallback : out.state.on_fallback = s.on_fallback
  attempts_429 : out.state.attempts_429 = s.attempts_429
  limit : s.tool_iterations + tool_calls out.steps ≤ TOOL_LOOP_LIMIT
  cap : s.used_tokens + tokens out.steps ≤ token_cap
  no_switch : fallbacks out.steps = 0
  closed : out.ending = .returned → Closed out.steps
  quiet : out.ending ≠ .returned → Quiet out.steps
  tool_iterations : out.ending ≠ .returned → out.state.tool_iterations = s.tool_iterations + tool_calls out.steps
  used_tokens : out.ending ≠ .returned → out.state.used_tokens = s.used_tokens + tokens out.steps
  yielded : out.ending = .finished true → yielded_tool_call = true ∨ 0 < tool_calls out.steps

variable {w : Providers} {token_cap : Int} {out : Streamed}

theorem Consumes.after {s now : LoopState} {yielded later : Bool} {front : List Step}
    (consumes : Consumes token_cap now later out) (on_fallback : now.on_fallback = s.on_fallback)
    (attempts_429 : now.attempts_429 = s.attempts_429) (iterations : now.tool_iterations = s.tool_iterations + tool_calls front)
    (used : now.used_tokens = s.used_tokens + tokens front) (quiet : Quiet front) (no_switch : fallbacks front = 0)
    (known : later = true → yielded = true ∨ 0 < tool_calls front) : Consumes token_cap s yielded (out.after front) where
  on_fallback := consumes.on_fallback.trans on_fallback
  attempts_429 := consumes.attempts_429.trans attempts_429
  limit := by
    have bound := consumes.limit
    simp only [Streamed.after,tool_calls_append]
    omega
  cap := by
    have bound := consumes.cap
    simp only [Streamed.after,tokens_append]
    omega
  no_switch := by simp [Streamed.after,no_switch,consumes.no_switch]
  closed := fun returned => quiet.closed (consumes.closed returned)
  quiet := fun goes_on => quiet.append (consumes.quiet goes_on)
  tool_iterations := fun goes_on => by
    have count := consumes.tool_iterations goes_on
    simp only [Streamed.after,tool_calls_append]
    omega
  used_tokens := fun goes_on => by
    have sum := consumes.used_tokens goes_on
    simp only [Streamed.after,tokens_append]
    omega
  yielded := fun finished => by
    simp only [Streamed.after,tool_calls_append]
    rcases consumes.yielded finished with told | called
    · rcases known told with told | called
      · exact .inl told
      · exact .inr (by omega)
    · exact .inr (by omega)

theorem consumes_returned {s state : LoopState} {yielded : Bool} {steps : List Step} (closed : Closed steps)
    (on_fallback : state.on_fallback = s.on_fallback) (attempts_429 : state.attempts_429 = s.attempts_429)
    (limit : s.tool_iterations + tool_calls steps ≤ TOOL_LOOP_LIMIT) (cap : s.used_tokens + tokens steps ≤ token_cap)
    (no_switch : fallbacks steps = 0) : Consumes token_cap s yielded ⟨steps,state,.returned⟩ where
  on_fallback := on_fallback
  attempts_429 := attempts_429
  limit := limit
  cap := cap
  no_switch := no_switch
  closed := fun _ => closed
  quiet := fun goes_on => absurd rfl goes_on
  tool_iterations := fun goes_on => absurd rfl goes_on
  used_tokens := fun goes_on => absurd rfl goes_on
  yielded := fun finished => by simp at finished

theorem consumes_open {s state : LoopState} {yielded : Bool} {steps : List Step} {ending : StreamEnd} (quiet : Quiet steps)
    (goes_on : ending ≠ .returned) (on_fallback : state.on_fallback = s.on_fallback)
    (attempts_429 : state.attempts_429 = s.attempts_429) (iterations : state.tool_iterations = s.tool_iterations + tool_calls steps)
    (used : state.used_tokens = s.used_tokens + tokens steps) (limit : state.tool_iterations ≤ TOOL_LOOP_LIMIT)
    (cap : state.used_tokens ≤ token_cap) (no_switch : fallbacks steps = 0)
    (known : ending = .finished true → yielded = true ∨ 0 < tool_calls steps) : Consumes token_cap s yielded ⟨steps,state,ending⟩ where
  on_fallback := on_fallback
  attempts_429 := attempts_429
  limit := iterations ▸ limit
  cap := used ▸ cap
  no_switch := no_switch
  closed := fun returned => absurd returned goes_on
  quiet := fun _ => quiet
  tool_iterations := fun _ => iterations
  used_tokens := fun _ => used
  yielded := known

theorem quiet_token (text : String) (n : Int) : Quiet [.event (.token text n)] := quiet_one (by
  rintro e made
  obtain rfl := Option.some.inj made
  rfl)

theorem quiet_called (call : ToolCall) (n : Int) : Quiet [.event (.tool_call call n),.on_tool_call call] := by
  simp [Quiet,emitted,Step.emitted,SseEvent.terminal]

theorem quiet_result (text : String) (name : Option String) : Quiet [.event (.tool_result text name)] := by
  simp [Quiet,emitted,Step.emitted,SseEvent.terminal]

theorem consume_spec (w : Providers) (ending : Option Raised) (chunks : List ProviderChunk) (s : LoopState) (yielded : Bool)
    (limit : s.tool_iterations ≤ TOOL_LOOP_LIMIT) (cap : s.used_tokens ≤ token_cap) :
    Consumes token_cap s yielded (consume w token_cap ending chunks s yielded) := by
  induction chunks generalizing s yielded with
  | nil =>
    have nothing : Quiet [] := fun e member => by simp [emitted] at member
    unfold consume
    cases ending with
    | none =>
      refine consumes_open nothing (by simp) rfl rfl rfl (by simp [tokens]) limit cap rfl ?_
      intro finished
      exact .inl (by simpa using finished)
    | some exc => exact consumes_open nothing (by simp) rfl rfl rfl (by simp [tokens]) limit cap rfl (by simp)
  | cons chunk rest ih =>
    unfold consume
    simp only
    by_cases spent : token_cap < s.used_tokens + chunk.token_count
    · rw [if_pos spent]
      exact consumes_returned (closed_one rfl) rfl rfl limit (by simpa [tokens,Step.token_in,SseEvent.token_in] using cap) rfl
    rw [if_neg spent]
    have within : s.used_tokens + chunk.token_count ≤ token_cap := Int.not_lt.mp spent
    by_cases is_call : chunk.kind = "tool_call"
    · rw [if_pos is_call]
      by_cases exceeded : TOOL_LOOP_LIMIT < s.tool_iterations + 1
      · rw [if_pos exceeded]
        exact consumes_returned (closed_one rfl) rfl rfl limit (by simpa [tokens,Step.token_in,SseEvent.token_in] using cap) rfl
      rw [if_neg exceeded]
      have room : s.tool_iterations + 1 ≤ TOOL_LOOP_LIMIT := Nat.not_lt.mp exceeded
      have called := quiet_called chunk.call chunk.token_count
      cases w.on_tool_call (s.tool_iterations + 1) chunk.call with
      | error exc =>
        refine consumes_returned (called.closed (closed_one rfl)) rfl rfl ?_ ?_ rfl
        · exact room
        · simpa [tokens,Step.token_in,SseEvent.token_in] using within
      | ok result =>
        simp only
        cases serialize_tool_result result with
        | error exc =>
          refine consumes_open called (by simp) rfl rfl rfl ?_ room within rfl (by simp)
          simp [tokens,Step.token_in,SseEvent.token_in]
        | ok text =>
          refine Consumes.after (ih _ true room within) rfl rfl rfl ?_ (called.append (quiet_result text chunk.call.tool_name)) rfl ?_
          · simp [tokens,Step.token_in,SseEvent.token_in]
          · exact fun _ => .inr Nat.zero_lt_one
    rw [if_neg is_call]
    by_cases is_last : chunk.kind = "final"
    · rw [if_pos is_last]
      exact consumes_returned (closed_one rfl) rfl rfl limit (by simpa [tokens,Step.token_in,SseEvent.token_in] using cap) rfl
    rw [if_neg is_last]
    by_cases is_final : chunk.is_final = true
    · rw [if_pos is_final]
      refine consumes_returned ((quiet_token chunk.text chunk.token_count).closed (closed_one rfl)) rfl rfl limit ?_ rfl
      simpa [tokens,Step.token_in,SseEvent.token_in] using within
    rw [if_neg is_final]
    refine Consumes.after (ih _ yielded limit within) rfl rfl rfl ?_ (quiet_token chunk.text chunk.token_count) rfl .inl
    simp [tokens,Step.token_in,SseEvent.token_in]

def switched (s : LoopState) : Nat := if s.on_fallback then 1 else 0

/-- What is left of the three counters. -/
def LoopState.left (s : LoopState) : Nat :=
  (TOOL_LOOP_LIMIT - s.tool_iterations) + (MAX_429_ATTEMPTS - 1 - s.attempts_429) + (1 - switched s)

structure InBounds (token_cap : Int) (s : LoopState) : Prop where
  limit : s.tool_iterations ≤ TOOL_LOOP_LIMIT
  cap : s.used_tokens ≤ token_cap
  attempts : s.attempts_429 < MAX_429_ATTEMPTS

/-- What an iteration does from a state that keeps the bounds. -/
structure Iterates (token_cap : Int) (s : LoopState) (a : Attempt) (next : LoopState) : Prop where
  limit : s.tool_iterations + tool_calls a.steps ≤ TOOL_LOOP_LIMIT
  cap : s.used_tokens + tokens a.steps ≤ token_cap
  once : switched s + fallbacks a.steps ≤ 1
  returned : a.verdict = .returned → Closed a.steps
  raised : ∀ exc, a.verdict = .raised exc → is_provider_unavailable exc = true ∧ Quiet a.steps
  quiet : a.verdict = .again → Quiet a.steps
  tool_iterations : a.verdict = .again → next.tool_iterations = s.tool_iterations + tool_calls a.steps
  used_tokens : a.verdict = .again → next.used_tokens = s.used_tokens + tokens a.steps
  on_fallback : a.verdict = .again → switched next = switched s + fallbacks a.steps
  attempts_429 : a.verdict = .again → next.attempts_429 < MAX_429_ATTEMPTS
  left : a.verdict = .again → next.left < s.left

theorem switched_le (s : LoopState) : switched s ≤ 1 := by
  unfold switched
  split <;> simp

theorem iterates_closing {s : LoopState} {e : SseEvent} {next : LoopState}
    (consumes : Consumes token_cap s false out) (goes_on : out.ending ≠ .returned) (terminal : e.terminal = true)
    (untold : e.token_in = 0) :
    Iterates token_cap s ⟨out.steps ++ [.event e],out.ending,.returned⟩ next where
  limit := by simpa [tool_calls,Step.is_tool_call] using consumes.limit
  cap := by simpa [tokens,Step.token_in,untold] using consumes.cap
  once := by
    have no_switch : Step.is_fallback (.event e) = false := by
      cases e <;> simp_all [Step.is_fallback,SseEvent.terminal]
    have within := switched_le s
    have none_before := consumes.no_switch
    simp only [fallbacks_append]
    simp only [fallbacks,List.countP_cons,no_switch,List.countP_nil,Bool.false_eq_true,if_false] at none_before ⊢
    omega
  returned := fun _ => (consumes.quiet goes_on).closed (closed_one terminal)
  raised := by simp
  quiet := by simp
  tool_iterations := by simp
  used_tokens := by simp
  on_fallback := by simp
  attempts_429 := by simp
  left := by simp

theorem iterates_returned {s : LoopState} {next : LoopState} (consumes : Consumes token_cap s false out)
    (returned : out.ending = .returned) : Iterates token_cap s ⟨out.steps,out.ending,.returned⟩ next where
  limit := consumes.limit
  cap := consumes.cap
  once := by
    rw [consumes.no_switch]
    exact switched_le s
  returned := fun _ => consumes.closed returned
  raised := by simp
  quiet := by simp
  tool_iterations := by simp
  used_tokens := by simp
  on_fallback := by simp
  attempts_429 := by simp
  left := by simp

theorem iterates_raising {s : LoopState} {exc : Raised} {next : LoopState}
    (consumes : Consumes token_cap s false out) (goes_on : out.ending ≠ .returned)
    (unavailable : is_provider_unavailable exc = true) :
    Iterates token_cap s ⟨out.steps,out.ending,.raised exc⟩ next where
  limit := consumes.limit
  cap := consumes.cap
  once := by
    rw [consumes.no_switch]
    exact switched_le s
  returned := by simp
  raised := fun other same => by
    obtain rfl := Verdict.raised.inj same
    exact ⟨unavailable,consumes.quiet goes_on⟩
  quiet := by simp
  tool_iterations := by simp
  used_tokens := by simp
  on_fallback := by simp
  attempts_429 := by simp
  left := by simp

theorem iterates_again {s next : LoopState} {last : List Step} (consumes : Consumes token_cap s false out)
    (goes_on : out.ending ≠ .returned) (quiet : Quiet last) (no_call : tool_calls last = 0) (free : tokens last = 0)
    (iterations : next.tool_iterations = out.state.tool_iterations) (used : next.used_tokens = out.state.used_tokens)
    (switch : switched next = switched s + fallbacks last) (attempts : next.attempts_429 < MAX_429_ATTEMPTS)
    (left : next.left < s.left) : Iterates token_cap s ⟨out.steps ++ last,out.ending,.again⟩ next where
  limit := by
    have bound := consumes.limit
    simp only [tool_calls_append]
    omega
  cap := by
    have bound := consumes.cap
    simp only [tokens_append]
    omega
  once := by
    have bound := switched_le next
    have none_before := consumes.no_switch
    simp only [fallbacks_append]
    omega
  returned := by simp
  raised := by simp
  quiet := fun _ => (consumes.quiet goes_on).append quiet
  tool_iterations := fun _ => by
    have count := consumes.tool_iterations goes_on
    simp only [tool_calls_append]
    omega
  used_tokens := fun _ => by
    have sum := consumes.used_tokens goes_on
    simp only [tokens_append]
    omega
  on_fallback := fun _ => by
    have none_before := consumes.no_switch
    simp only [fallbacks_append]
    omega
  attempts_429 := fun _ => attempts
  left := fun _ => left

theorem quiet_sleep (seconds : Nat) : Quiet [.sleep seconds] := quiet_one fun e made => by simp [Step.emitted] at made

theorem quiet_switch (provider : String) : Quiet [.event (.fallback_provider_active provider)] := quiet_one (by
  rintro e made
  obtain rfl := Option.some.inj made
  rfl)

theorem quiet_nil : Quiet [] := fun e member => by simp [emitted] at member

theorem attempt_spec (w : Providers) (number : Nat) (s : LoopState) (bounds : InBounds token_cap s) :
    Iterates token_cap s (attempt w token_cap number s).1 (attempt w token_cap number s).2 := by
  unfold attempt
  simp only
  have consumes := consume_spec w (w.stream number s.on_fallback s.working_history).ending
    (w.stream number s.on_fallback s.working_history).chunks s false bounds.limit bounds.cap
  generalize consume w token_cap (w.stream number s.on_fallback s.working_history).ending
    (w.stream number s.on_fallback s.working_history).chunks s false = out at consumes ⊢
  obtain ⟨steps,state,ending⟩ := out
  have same_switch : switched state = switched s := by
    unfold switched
    rw [consumes.on_fallback]
  have few := bounds.attempts
  have counted : state.attempts_429 = s.attempts_429 := consumes.attempts_429
  have bound : s.tool_iterations + tool_calls steps ≤ TOOL_LOOP_LIMIT := consumes.limit
  unfold conclude
  simp only
  cases ending with
  | returned =>
    exact iterates_returned consumes rfl
  | finished yielded =>
    have goes_on : StreamEnd.finished yielded ≠ .returned := by simp
    cases yielded with
    | false => exact iterates_closing consumes goes_on rfl rfl
    | true =>
      have called : 0 < tool_calls steps := (consumes.yielded rfl).resolve_left (by simp)
      have count : state.tool_iterations = s.tool_iterations + tool_calls steps := consumes.tool_iterations goes_on
      have fewer : state.left < s.left := by
        simp only [LoopState.left,same_switch]
        omega
      have again := iterates_again consumes goes_on quiet_nil rfl rfl rfl rfl same_switch (consumes.attempts_429 ▸ few) fewer
      simpa using again
  | raised exc =>
    have goes_on : StreamEnd.raised exc ≠ .returned := by simp
    have count : state.tool_iterations = s.tool_iterations + tool_calls steps := consumes.tool_iterations goes_on
    simp only
    by_cases limited : is_rate_limit exc = true
    · rw [if_pos limited]
      by_cases exhausted : MAX_429_ATTEMPTS ≤ state.attempts_429 + 1
      · rw [if_pos exhausted]
        exact iterates_closing consumes goes_on rfl rfl
      · rw [if_neg exhausted]
        refine iterates_again consumes goes_on (quiet_sleep _) rfl rfl rfl rfl same_switch (Nat.not_le.mp exhausted) ?_
        simp only [LoopState.left,switched] at same_switch ⊢
        omega
    rw [if_neg limited]
    by_cases unavailable : is_provider_unavailable exc = true
    · rw [if_pos unavailable]
      cases w.fallback with
      | none => exact iterates_raising consumes goes_on unavailable
      | some provider =>
        simp only
        by_cases switch : state.on_fallback = false ∧ PRIMARY_DOWNTIME_FALLBACK_S ≤ w.downtime number
        · rw [if_pos switch]
          have before : switched s = 0 := by rw [← same_switch,switched,switch.1]; rfl
          refine iterates_again consumes goes_on (quiet_switch provider) rfl rfl rfl rfl ?_ (consumes.attempts_429 ▸ few) ?_
          · rw [before]
            rfl
          · simp only [LoopState.left,before]
            simp only [switched,if_true]
            omega
        · rw [if_neg switch]
          exact iterates_raising consumes goes_on unavailable
    · rw [if_neg unavailable]
      exact iterates_closing consumes goes_on rfl rfl

structure Keeps (token_cap : Int) (s : LoopState) (run : Run) : Prop where
  limit : s.tool_iterations + tool_calls run.steps ≤ TOOL_LOOP_LIMIT
  cap : s.used_tokens + tokens run.steps ≤ token_cap
  once : switched s + fallbacks run.steps ≤ 1
  returned : run.ended = .returned → Closed run.steps
  raised : ∀ exc, run.ended = .raised exc → is_provider_unavailable exc = true ∧ Quiet run.steps

theorem Iterates.inBounds {s next : LoopState} {a : Attempt} (iterates : Iterates token_cap s a next) (again : a.verdict = .again) :
    InBounds token_cap next where
  limit := iterates.tool_iterations again ▸ iterates.limit
  cap := iterates.used_tokens again ▸ iterates.cap
  attempts := iterates.attempts_429 again

theorem loop_keeps (w : Providers) (fuel number : Nat) (s : LoopState) (bounds : InBounds token_cap s) :
    Keeps token_cap s (loop w token_cap fuel number s) := by
  induction fuel generalizing number s with
  | zero =>
    refine ⟨bounds.limit,?_,switched_le s,by simp [loop],by simp [loop]⟩
    simpa [loop,Run.steps,tokens] using bounds.cap
  | succ fuel ih =>
    have iterates := attempt_spec w number s bounds
    unfold loop
    generalize attempt w token_cap number s = made at iterates ⊢
    obtain ⟨a,next⟩ := made
    simp only at iterates ⊢
    cases verdict : a.verdict with
    | returned =>
      have steps : (⟨[a],.returned⟩ : Run).steps = a.steps := by simp [Run.steps]
      exact ⟨steps ▸ iterates.limit,steps ▸ iterates.cap,steps ▸ iterates.once,fun _ => steps ▸ iterates.returned verdict,by simp⟩
    | raised exc =>
      have steps : (⟨[a],.raised exc⟩ : Run).steps = a.steps := by simp [Run.steps]
      refine ⟨steps ▸ iterates.limit,steps ▸ iterates.cap,steps ▸ iterates.once,by simp,?_⟩
      intro other same
      obtain rfl := Ended.raised.inj same
      exact steps ▸ iterates.raised _ verdict
    | again =>
      have keeps := ih (number + 1) next (iterates.inBounds verdict)
      have steps : ((loop w token_cap fuel (number + 1) next).after a).steps =
          a.steps ++ (loop w token_cap fuel (number + 1) next).steps := by simp [Run.steps,Run.after]
      have iterations := iterates.tool_iterations verdict
      have used := iterates.used_tokens verdict
      have switch := iterates.on_fallback verdict
      have limit := keeps.limit
      have cap := keeps.cap
      have once := keeps.once
      refine ⟨?_,?_,?_,?_,?_⟩
      · rw [steps,tool_calls_append]
        omega
      · rw [steps,tokens_append]
        omega
      · rw [steps,fallbacks_append]
        omega
      · intro returned
        rw [steps]
        exact (iterates.quiet verdict).closed (keeps.returned returned)
      · intro exc raised
        rw [steps]
        exact ⟨(keeps.raised exc raised).1,(iterates.quiet verdict).append (keeps.raised exc raised).2⟩

theorem loop_ends (w : Providers) (fuel number : Nat) (s : LoopState) (bounds : InBounds token_cap s) (enough : s.left < fuel) :
    (loop w token_cap fuel number s).ended ≠ .running := by
  induction fuel generalizing number s with
  | zero => omega
  | succ fuel ih =>
    have iterates := attempt_spec w number s bounds
    unfold loop
    generalize attempt w token_cap number s = made at iterates ⊢
    obtain ⟨a,next⟩ := made
    simp only at iterates ⊢
    cases verdict : a.verdict with
    | returned => simp
    | raised exc => simp
    | again =>
      have less := iterates.left verdict
      exact ih (number + 1) next (iterates.inBounds verdict) (by omega)

theorem loop_more (w : Providers) (fuel number : Nat) (s : LoopState) (ends : (loop w token_cap fuel number s).ended ≠ .running)
    (more : Nat) : loop w token_cap (fuel + more) number s = loop w token_cap fuel number s := by
  induction fuel generalizing number s with
  | zero => simp [loop] at ends
  | succ fuel ih =>
    rw [Nat.add_right_comm]
    unfold loop at ends ⊢
    generalize attempt w token_cap number s = made at ends ⊢
    obtain ⟨a,next⟩ := made
    simp only at ends ⊢
    cases verdict : a.verdict with
    | returned => rfl
    | raised exc => rfl
    | again =>
      rw [verdict] at ends
      simp only
      rw [ih (number + 1) next ends]

theorem start_left (history : List Message) : (LoopState.start history).left = 11 := rfl

theorem start_inBounds (positive : 0 < token_cap) (history : List Message) : InBounds token_cap (.start history) where
  limit := Nat.zero_le _
  cap := Int.le_of_lt positive
  attempts := Nat.succ_pos 2

/-- The iterations that a run can make: eight for the tools, two for rate limits, one for
    the fallback provider, and the last. -/
def MAX_ITERATIONS : Nat := 12

/-- A run ends within its iterations. It ends in one terminal event, or raises
    `ProviderUnavailable` without one; it forwards at most `token_cap` tokens, calls at most
    eight tools and switches once. -/
structure Protocol (token_cap : Int) (run : Run) : Prop where
  ends : run.ended = .returned ∧ Closed run.steps ∨
    ∃ exc, run.ended = .raised exc ∧ is_provider_unavailable exc = true ∧ Quiet run.steps
  tokens : tokens run.steps ≤ token_cap
  tool_calls : tool_calls run.steps ≤ TOOL_LOOP_LIMIT
  fallbacks : fallbacks run.steps ≤ 1

theorem tool_loop_protocol (w : Providers) (token_cap : Int) (positive : 0 < token_cap) (history : List Message) :
    ∃ run, (∀ fuel, MAX_ITERATIONS ≤ fuel → stream_with_tool_loop w token_cap history fuel = .ok run) ∧ Protocol token_cap run := by
  have bounds := start_inBounds positive history
  have ends := loop_ends w MAX_ITERATIONS 0 (.start history) bounds (by rw [start_left]; decide)
  have keeps := loop_keeps w MAX_ITERATIONS 0 (.start history) bounds
  refine ⟨loop w token_cap MAX_ITERATIONS 0 (.start history),?_,?_⟩
  · intro fuel enough
    obtain ⟨more,rfl⟩ := Nat.exists_eq_add_of_le enough
    rw [stream_with_tool_loop,if_neg (Int.not_le.mpr positive),loop_more w _ _ _ ends]
  · generalize loop w token_cap MAX_ITERATIONS 0 (.start history) = run at ends keeps ⊢
    have cap := keeps.cap
    have limit := keeps.limit
    have once := keeps.once
    simp only [LoopState.start,switched,Bool.false_eq_true,if_false] at cap limit once
    refine ⟨?_,by omega,by omega,by omega⟩
    cases ended : run.ended with
    | running => exact absurd ended ends
    | returned => exact .inl ⟨rfl,keeps.returned ended⟩
    | raised exc => exact .inr ⟨exc,rfl,keeps.raised exc ended⟩

def limitedOnce : Providers where
  stream := fun number _ _ =>
    match number with
    | 0 => ⟨[⟨"tool_call",3,"",⟨none,some "search",.null⟩,false⟩],none⟩
    | 1 => ⟨[],some ⟨["RateLimitError"],"429"⟩⟩
    | _ => ⟨[⟨"token",5,"found",⟨none,none,.null⟩,false⟩,⟨"final",0,"",⟨none,none,.null⟩,true⟩],none⟩
  downtime := fun _ => 0
  fallback := none
  on_tool_call := fun _ _ => .ok (.str "hit")

theorem tool_loop_protocol_limited : ∃ run, (∀ fuel, MAX_ITERATIONS ≤ fuel →
    stream_with_tool_loop limitedOnce 10 [] fuel = .ok run) ∧ Protocol 10 run :=
  tool_loop_protocol limitedOnce 10 (by decide) []

end Automation.ToolLoop
