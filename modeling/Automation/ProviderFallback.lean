import Automation.Effects
import Automation.Json
import Automation.PyText

/-!
`FallbackLLMProviderFactory` on an event loop: complete calls, health probes and resets
share the flag `using_fallback`. A call tries the primary up to three times and the
fallback once (`wellFormed_run`). It ends in the text of its last attempt or in
`LLMUnavailableError`, and an event is recorded for each switch, exactly where no attempt
ends in another exception than a timeout or a 5xx, and no call switches after another one
has (`fallback_iff`).
-/
namespace Automation.ProviderFallback
open Automation.Effects Automation.PyText

structure LLMProviderConfig where
  name : String
  base_url : String
  api_key : String
  timeout_seconds : String

/-- How a call of a provider ends, with `asyncio.wait_for` around it. -/
inductive Outcome where
  | text (value : Json)
  | timeout
  | server_error (message : String) (status_code : Nat)
  | other (exc : String)

/-- What the HTTP client does: it answers, with JSON or without, or raises. -/
inductive HttpReply where
  | response (status_code : Nat) (body : Option Json)
  | raised (exc : String)

structure HttpRequest where
  url : String
  payload : Json
  headers : List (String × String)

abbrev Kwargs := List (String × Json)

def kwarg (kwargs : Kwargs) (key : String) (default : Json) : Json := (kwargs.lookup key).getD default

def is_openai (config : LLMProviderConfig) : Bool :=
  lower (strip config.name) = "openai" || contains (lower config.base_url) "api.openai.com"

def http_request (config : LLMProviderConfig) (prompt : String) (kwargs : Kwargs) : HttpRequest :=
  let headers := [("Content-Type","application/json"),("Authorization","Bearer " ++ config.api_key)]
  let base := rstripChar '/' config.base_url
  let model := kwarg kwargs "model" (.str "default")
  let max_tokens := kwarg kwargs "max_tokens" (.int 2048)
  let temperature := kwarg kwargs "temperature" (.float "0.2")
  if is_openai config then
    { url := if base ≠ "" then base ++ "/responses" else "https://api.openai.com/v1/responses"
      payload := .obj [("model",model),("input",.str prompt),("max_output_tokens",max_tokens),("temperature",temperature)]
      headers }
  else
    { url := base ++ "/chat/completions"
      payload := .obj [("model",model),("messages",.arr [.obj [("role",.str "user"),("content",.str prompt)]]),
        ("max_tokens",max_tokens),("temperature",temperature)]
      headers }

/-- `for item in value or []`: the items that can be dicts. -/
def items_of : Json → Except String (List Json)
  | .arr items => .ok items
  | .str _ | .obj _ => .ok []
  | value => if value.truthy then .error "TypeError" else .ok []

def is_str (value : Json) (text : String) : Bool := value.asStr = some text

def text_parts (content : List Json) : List String :=
  content.filterMap fun part =>
    if is_str (part.get "type") "output_text" || is_str (part.get "type") "text" then (part.get "text").asStr else none

/-- The texts of the assistant messages among the items. -/
def message_texts : List Json → Except String (List String)
  | [] => .ok []
  | item :: rest =>
    if is_str (item.get "type") "message" then do
      let content ← items_of (item.get "content")
      let texts ← message_texts rest
      .ok (text_parts content ++ texts)
    else message_texts rest

def joined_strings (parts : List Json) : String := String.join (parts.filterMap Json.asStr)

def extract_responses_text (data : Json) : Except String String :=
  if !data.isObj then .ok ""
  else
    let walked := (items_of (data.get "output")).bind fun output => (message_texts output).map String.join
    match data.get "output_text" with
    | .str output_text => if output_text ≠ "" then .ok output_text else walked
    | .arr parts => if joined_strings parts ≠ "" then .ok (joined_strings parts) else walked
    | _ => walked

/-- `value.get(key, default)` -/
def dict_get (value : Json) (key : String) (default : Json) : Except String Json :=
  if !value.isObj then .error "AttributeError" else .ok (if value.has key then value.get key else default)

/-- `choices[0]` -/
def first_choice : Json → Except String Json
  | .arr (choice :: _) => .ok choice
  | .str text => .ok (.str (takeChars 1 text))
  | .obj _ => .error "KeyError"
  | _ => .error "TypeError"

def chat_content (data : Json) : Except String Json := do
  let choices ← dict_get data "choices" (.arr [])
  if choices.truthy then
    let choice ← first_choice choices
    let message ← dict_get choice "message" (.obj [])
    dict_get message "content" (.str "")
  else .ok (.str "")

/-- `_HttpLLMProvider.complete`, once the client is done. -/
def http_outcome (config : LLMProviderConfig) : HttpReply → Outcome
  | .raised exc => .other exc
  | .response status_code body =>
    if 500 ≤ status_code then .server_error (config.name ++ " server error: " ++ toString status_code) status_code
    -- `response.raise_for_status()`
    else if status_code < 200 ∨ 300 ≤ status_code then .other "HTTPStatusError"
    else
      match body with
      | none => .other "JSONDecodeError"
      | some data =>
        match if is_openai config then (extract_responses_text data).map Json.str else chat_content data with
        | .ok value => .text value
        | .error exc => .other exc

structure FallbackEvent where
  timestamp : String
  failed_provider : String
  error_reason : String
  switched_to : String

/-- What a complete call raises. -/
inductive Error where
  | unavailable (message dept_id primary_provider fallback_provider fallback_error : String)
  | other (exc : String)

inductive Which where
  | primary
  | fallback
  deriving DecidableEq

/-- A call of a provider that a complete call has made. -/
structure Attempt where
  provider : Which
  prompt : String
  kwargs : Kwargs

/-- A complete call between two steps: it awaits the primary or the fallback, the interval
    before the next attempt, or the notification callback. -/
inductive Phase where
  | unstarted
  | primary (attempt : Nat)
  | sleeping (attempt : Nat)
  | notifying
  | fallback
  | ended (answer : Except Error Json)

structure Call where
  prompt : String
  dept_id : String
  kwargs : Kwargs
  phase : Phase
  attempts : List Attempt
  outcomes : List Outcome

inductive Probe where
  | waiting
  | probing
  | done
  deriving DecidableEq

structure Settings where
  primary_config : LLMProviderConfig
  fallback_config : LLMProviderConfig
  notifies : Bool

def MAX_5XX_RETRIES : Nat := 3

/-- The factory: its flag, its events, its probe task and all those that it has created;
    the calls, and the forced probes that await the primary. -/
structure Factory (κ : Type) where
  using_fallback : Bool
  fallback_events : List FallbackEvent
  health_probe_task : Option Nat
  probes : Nat → Probe
  next_probe : Nat
  calls : κ → Call
  forced : Nat → Bool

inductive Action (κ : Type) where
  | complete (k : κ) (prompt dept_id : String) (kwargs : Kwargs)
  | reply (k : κ) (outcome : Outcome) (now : String)
  | wake (k : κ)
  | notified (k : κ)
  | probe_wake (task : Nat)
  | probe_reply (task : Nat) (outcome : Outcome)
  | force_health_probe (n : Nat)
  | force_reply (n : Nat) (outcome : Outcome)
  | reset

section
variable {κ : Type} [DecidableEq κ] (settings : Settings)

def Factory.set (s : Factory κ) (k : κ) (c : Call) : Factory κ := { s with calls := Function.update s.calls k c }

def Call.ask (c : Call) (provider : Which) (phase : Phase) : Call :=
  { c with phase := phase, attempts := c.attempts ++ [⟨provider,c.prompt,c.kwargs⟩] }

def Call.hear (c : Call) (outcome : Outcome) : Call := { c with outcomes := c.outcomes ++ [outcome] }

def Call.close (c : Call) (answer : Except Error Json) : Call := { c with phase := .ended answer }

/-- `task.cancel()` if it is not done. -/
def Factory.cancel_probe (s : Factory κ) : Factory κ :=
  match s.health_probe_task with
  | some task => { s with probes := Function.update s.probes task .done }
  | none => s

def Factory.schedule_health_probe (s : Factory κ) : Factory κ :=
  let s := s.cancel_probe
  { s with health_probe_task := some s.next_probe, probes := Function.update s.probes s.next_probe .waiting
           next_probe := s.next_probe + 1 }

/-- `_switch_to_fallback` up to its notification. -/
def Factory.switch (s : Factory κ) (now error_reason : String) : Factory κ :=
  { s with using_fallback := true
           fallback_events := s.fallback_events ++
             [⟨now,settings.primary_config.name,error_reason,settings.fallback_config.name⟩] }

/-- The rest of `_switch_to_fallback`, and the call of the fallback. -/
def Factory.proceed (s : Factory κ) (k : κ) : Factory κ := s.schedule_health_probe.set k ((s.calls k).ask .fallback .fallback)

/-- The primary has failed for good. -/
def Factory.give_up (s : Factory κ) (k : κ) (now error_reason : String) : Factory κ :=
  let s := s.switch settings now error_reason
  if settings.notifies then s.set k { s.calls k with phase := .notifying } else s.proceed k

/-- Why a call switches after this attempt, if it does. -/
def switch_reason (attempt : Nat) : Outcome → Option String
  | .timeout =>
    some ("Timeout after " ++ settings.primary_config.timeout_seconds ++ "s" ++
      if attempt = 1 then "" else " on retry attempt " ++ toString attempt)
  | .server_error _ status_code =>
    if MAX_5XX_RETRIES ≤ attempt then
      some ("HTTP " ++ toString status_code ++ " after " ++ toString MAX_5XX_RETRIES ++ " attempts")
    else none
  | _ => none

def unavailable (dept_id problem fallback_error : String) : Error :=
  .unavailable ("Both primary and fallback providers unavailable: fallback '" ++ settings.fallback_config.name ++ "' " ++ problem)
    dept_id settings.primary_config.name settings.fallback_config.name fallback_error

/-- The primary ends its attempt. -/
def primary_reply (s : Factory κ) (k : κ) (attempt : Nat) (outcome : Outcome) (now : String) : Factory κ :=
  let c := (s.calls k).hear outcome
  match switch_reason settings attempt outcome with
  | some error_reason => (s.set k c).give_up settings k now error_reason
  | none =>
    match outcome with
    | .text value => s.set k (c.close (.ok value))
    | .other exc => s.set k (c.close (.error (.other exc)))
    | _ => s.set k { c with phase := .sleeping attempt }

/-- What a call returns or raises when the fallback ends its attempt. -/
def fallback_answer (dept_id : String) : Outcome → Except Error Json
  | .text value => .ok value
  | .timeout =>
    .error (unavailable settings dept_id ("timed out after " ++ settings.fallback_config.timeout_seconds ++ "s") "timeout")
  | .server_error _ status_code =>
    .error (unavailable settings dept_id ("returned HTTP " ++ toString status_code) ("HTTP " ++ toString status_code))
  | .other exc => .error (.other exc)

def is_text : Outcome → Bool
  | .text _ => true
  | _ => false

/-- One step of the loop. A step that does not fit the state does nothing. -/
def step (s : Factory κ) : Action κ → Factory κ
  | .complete k prompt dept_id kwargs =>
    match (s.calls k).phase with
    | .unstarted =>
      let c : Call := ⟨prompt,dept_id,kwargs,.unstarted,[],[]⟩
      s.set k (if s.using_fallback then c.ask .fallback .fallback else c.ask .primary (.primary 1))
    | _ => s
  | .reply k outcome now =>
    match (s.calls k).phase with
    | .primary attempt => primary_reply settings s k attempt outcome now
    | .fallback => s.set k (((s.calls k).hear outcome).close (fallback_answer settings (s.calls k).dept_id outcome))
    | _ => s
  | .wake k =>
    match (s.calls k).phase with
    | .sleeping attempt => s.set k ((s.calls k).ask .primary (.primary (attempt + 1)))
    | _ => s
  | .notified k =>
    match (s.calls k).phase with
    | .notifying => s.proceed k
    | _ => s
  | .probe_wake task => if s.probes task = .waiting then { s with probes := Function.update s.probes task .probing } else s
  | .probe_reply task outcome =>
    if s.probes task = .probing then
      { s with probes := Function.update s.probes task .done, using_fallback := s.using_fallback && !is_text outcome }
    else s
  | .force_health_probe n => { s with forced := Function.update s.forced n true }
  | .force_reply n outcome =>
    if s.forced n then
      { s with forced := Function.update s.forced n false, using_fallback := s.using_fallback && !is_text outcome }
    else s
  | .reset =>
    match s.health_probe_task with
    | some task =>
      if s.probes task = .done then { s with using_fallback := false }
      else { s.cancel_probe with using_fallback := false, health_probe_task := none }
    | none => { s with using_fallback := false }

def Factory.start : Factory κ where
  using_fallback := false
  fallback_events := []
  health_probe_task := none
  probes := fun _ => .done
  next_probe := 0
  calls := fun _ => ⟨"","",[],.unstarted,[],[]⟩
  forced := fun _ => false

end

def Call.tries (c : Call) (provider : Which) : Nat := c.attempts.countP fun a => a.provider = provider

structure Bounded (c : Call) : Prop where
  primary : c.tries .primary ≤ MAX_5XX_RETRIES
  fallback : c.tries .fallback ≤ 1
  original : ∀ a ∈ c.attempts, a.prompt = c.prompt ∧ a.kwargs = c.kwargs

def Outcome.refused : Outcome → Bool
  | .timeout | .server_error _ _ => true
  | _ => false

/-- A call that has ended returned the text of its last attempt, or raised
    `LLMUnavailableError` after the fallback failed; it has not given up on the primary. -/
structure Answered (c : Call) : Prop where
  text : ∀ value, c.phase = .ended (.ok value) → c.outcomes.getLast? = some (.text value)
  unavailable : ∀ error, c.phase = .ended (.error error) →
    (∃ message dept_id primary fallback cause, error = .unavailable message dept_id primary fallback cause) ∧
      c.tries .fallback = 1 ∧ ∃ outcome, c.outcomes.getLast? = some outcome ∧ outcome.refused = true
  fallback_tried : ∀ answer, c.phase = .ended answer → c.tries .fallback = 0 →
    ∃ value, c.outcomes.getLast? = some (.text value)

section
variable {κ : Type} [DecidableEq κ] (settings : Settings)

/-- An event is recorded exactly where the flag is raised. -/
def Recorded (s t : Factory κ) : Prop :=
  (∃ event, t.fallback_events = s.fallback_events ++ [event] ∧ s.using_fallback = false ∧ t.using_fallback = true) ∨
    (t.fallback_events = s.fallback_events ∧ ¬(s.using_fallback = false ∧ t.using_fallback = true))

/-- In every state that a run reaches, each call is within its bounds and answered well if it
    has ended; and an event is recorded exactly where the flag is raised. -/
structure Switching (actions : List (Action κ)) : Prop where
  bounded : ∀ front back, actions = front ++ back → ∀ k, Bounded ((front.foldl (step settings) Factory.start).calls k)
  answered : ∀ front back, actions = front ++ back → ∀ k, Answered ((front.foldl (step settings) Factory.start).calls k)
  recorded : ∀ front a back, actions = front ++ a :: back →
    Recorded (front.foldl (step settings) Factory.start) (step settings (front.foldl (step settings) Factory.start) a)

def Phase.awaits_provider : Phase → Bool
  | .primary _ | .fallback => true
  | _ => false

def Phase.primary_attempt : Phase → Option Nat
  | .primary attempt => some attempt
  | _ => none

/-- The condition on the step to come: no attempt of a complete call ends in another
    exception than a timeout or a 5xx, and a call that switches is the first to do so. -/
def Clear (s : Factory κ) : Action κ → Prop
  | .reply k (.other _) _ => (s.calls k).phase.awaits_provider = false
  | .reply k outcome _ => ∀ attempt ∈ (s.calls k).phase.primary_attempt,
      (switch_reason settings attempt outcome).isSome = true → s.using_fallback = false
  | _ => True

/-- The attempts of a call: the primary so many times, and then perhaps the fallback. -/
structure Tried (c : Call) (n : Nat) (last : List Which) : Prop where
  few : n ≤ MAX_5XX_RETRIES
  attempts : c.attempts = (List.replicate n Which.primary ++ last).map fun provider => ⟨provider,c.prompt,c.kwargs⟩

/-- What is known of a call by its phase. -/
def Shape (c : Call) : Prop :=
  match c.phase with
  | .unstarted => c.attempts = []
  | .primary attempt => Tried c attempt []
  | .sleeping attempt => Tried c attempt [] ∧ attempt < MAX_5XX_RETRIES
  | .notifying => ∃ n, Tried c n []
  | .fallback => ∃ n, Tried c n [.fallback]
  | .ended (.ok value) => (∃ n last, last.length ≤ 1 ∧ (∀ w ∈ last, w = .fallback) ∧ Tried c n last) ∧
      c.outcomes.getLast? = some (.text value)
  | .ended (.error (.unavailable _ _ _ _ _)) => (∃ n, Tried c n [.fallback]) ∧
      ∃ outcome, c.outcomes.getLast? = some outcome ∧ outcome.refused = true
  | .ended (.error (.other exc)) => (∃ n last, last.length ≤ 1 ∧ (∀ w ∈ last, w = .fallback) ∧ Tried c n last) ∧
      c.outcomes.getLast? = some (.other exc)

variable {c : Call}

theorem Tried.tries {n : Nat} {last : List Which} (tried : Tried c n last) (provider : Which) :
    c.tries provider = (if provider = .primary then n else 0) + last.countP fun w => w = provider := by
  unfold Call.tries
  rw [tried.attempts,List.countP_map,List.countP_append,List.countP_replicate]
  cases provider <;> rfl

theorem Tried.bounded {n : Nat} {last : List Which} (tried : Tried c n last) (short : last.length ≤ 1)
    (fallback : ∀ w ∈ last, w = .fallback) : Bounded c where
  primary := by
    have nothing : last.countP (fun w => w = Which.primary) = 0 := by
      rw [List.countP_eq_zero]
      intro w member
      simp [fallback w member]
    rw [tried.tries,nothing]
    simpa using tried.few
  fallback := by
    have at_most := List.countP_le_length (p := fun w => decide (w = Which.fallback)) (l := last)
    rw [tried.tries]
    simp only [reduceCtorEq,if_false]
    omega
  original := by
    intro a member
    rw [tried.attempts] at member
    obtain ⟨provider,-,rfl⟩ := List.mem_map.mp member
    exact ⟨rfl,rfl⟩

theorem Shape.bounded (shape : Shape c) : Bounded c := by
  have alone : ∀ n, Tried c n [] → Bounded c := fun n tried => tried.bounded (by simp) (by simp)
  have followed : ∀ n, Tried c n [.fallback] → Bounded c := fun n tried => tried.bounded (by simp) (by simp)
  unfold Shape at shape
  split at shape
  · exact ⟨by simp [Call.tries,shape],by simp [Call.tries,shape],by simp [shape]⟩
  · exact alone _ shape
  · exact alone _ shape.1
  · exact shape.elim alone
  · exact shape.elim followed
  · obtain ⟨⟨n,last,short,fallback,tried⟩,-⟩ := shape
    exact tried.bounded short fallback
  · exact shape.1.elim followed
  · obtain ⟨⟨n,last,short,fallback,tried⟩,-⟩ := shape
    exact tried.bounded short fallback

theorem Shape.answered_iff (shape : Shape c) :
    Answered c ↔ ∀ exc, c.phase ≠ .ended (.error (.other exc)) := by
  constructor
  · intro answered exc ended
    obtain ⟨⟨message,dept_id,primary,fallback,cause,same⟩,-⟩ := answered.unavailable _ ended
    cases same
  · intro not_other
    unfold Shape at shape
    cases phase : c.phase with
    | ended answer =>
      rw [phase] at shape
      match answer with
      | .ok value =>
        refine ⟨fun other same => ?_,by simp [phase],fun _ _ _ => ⟨value,shape.2⟩⟩
        obtain rfl := Except.ok.inj (Phase.ended.inj (phase.symm.trans same))
        exact shape.2
      | .error (.unavailable message dept_id primary fallback cause) =>
        obtain ⟨⟨n,tried⟩,refused⟩ := shape
        have once : c.tries .fallback = 1 := by rw [tried.tries]; rfl
        refine ⟨by simp [phase],fun error same => ?_,fun _ _ none_tried => by omega⟩
        obtain rfl := Except.error.inj (Phase.ended.inj (phase.symm.trans same))
        exact ⟨⟨_,_,_,_,_,rfl⟩,once,refused⟩
      | .error (.other exc) => exact absurd phase (not_other exc)
    | unstarted => exact ⟨by simp [phase],by simp [phase],by simp [phase]⟩
    | primary attempt => exact ⟨by simp [phase],by simp [phase],by simp [phase]⟩
    | sleeping attempt => exact ⟨by simp [phase],by simp [phase],by simp [phase]⟩
    | notifying => exact ⟨by simp [phase],by simp [phase],by simp [phase]⟩
    | fallback => exact ⟨by simp [phase],by simp [phase],by simp [phase]⟩

variable {settings : Settings} {s : Factory κ}

@[simp] theorem set_calls_same (k : κ) (c : Call) : (s.set k c).calls k = c := Function.update_self ..

omit [DecidableEq κ] in
theorem cancel_frame : s.cancel_probe.calls = s.calls ∧ s.cancel_probe.using_fallback = s.using_fallback ∧
    s.cancel_probe.fallback_events = s.fallback_events := by
  unfold Factory.cancel_probe
  cases s.health_probe_task <;> exact ⟨rfl,rfl,rfl⟩

theorem proceed_frame (k : κ) : (s.proceed k).calls = Function.update s.calls k ((s.calls k).ask .fallback .fallback) ∧
    (s.proceed k).using_fallback = s.using_fallback ∧ (s.proceed k).fallback_events = s.fallback_events := by
  obtain ⟨calls,flag,events⟩ := cancel_frame (s := s)
  refine ⟨?_,flag,events⟩
  show Function.update s.cancel_probe.calls k ((s.calls k).ask .fallback .fallback) = _
  rw [calls]

/-- The call after it has given up on the primary. -/
def given_up (settings : Settings) (c : Call) : Call :=
  if settings.notifies then { c with phase := .notifying } else c.ask .fallback .fallback

theorem give_up_frame (k : κ) (now error_reason : String) :
    (s.give_up settings k now error_reason).calls = Function.update s.calls k (given_up settings (s.calls k)) ∧
      (s.give_up settings k now error_reason).using_fallback = true ∧
      (s.give_up settings k now error_reason).fallback_events =
        s.fallback_events ++ [⟨now,settings.primary_config.name,error_reason,settings.fallback_config.name⟩] := by
  unfold Factory.give_up given_up
  cases settings.notifies with
  | true => exact ⟨rfl,rfl,rfl⟩
  | false => exact proceed_frame (s := s.switch settings now error_reason) k

theorem tried_ask {n : Nat} (tried : Tried c n []) (phase : Phase) :
    Tried (c.ask .fallback phase) n [.fallback] where
  few := tried.few
  attempts := by simp [Call.ask,tried.attempts]

theorem tried_again {n : Nat} (tried : Tried c n []) (room : n < MAX_5XX_RETRIES) (phase : Phase) :
    Tried (c.ask .primary phase) (n + 1) [] where
  few := room
  attempts := by simp [Call.ask,tried.attempts,List.replicate_succ']

theorem shape_given_up {n : Nat} (tried : Tried c n []) : Shape (given_up settings c) := by
  unfold given_up
  cases settings.notifies with
  | true => exact ⟨n,tried.few,tried.attempts⟩
  | false => exact ⟨n,tried_ask tried .fallback⟩

theorem getLast_hear (c : Call) (outcome : Outcome) : (c.hear outcome).outcomes.getLast? = some outcome := by
  simp [Call.hear]

/-- The call after the primary has ended its attempt without a switch. -/
def heard (c : Call) (attempt : Nat) : Outcome → Call
  | .text value => (c.hear (.text value)).close (.ok value)
  | .other exc => (c.hear (.other exc)).close (.error (.other exc))
  | outcome => { c.hear outcome with phase := .sleeping attempt }

theorem shape_heard {attempt : Nat} (tried : Tried c attempt []) {outcome : Outcome}
    (stays : switch_reason settings attempt outcome = none) : Shape (heard c attempt outcome) := by
  cases outcome with
  | text value => exact ⟨⟨attempt,[],by simp,by simp,tried.few,tried.attempts⟩,getLast_hear c (.text value)⟩
  | timeout => simp [switch_reason] at stays
  | server_error message status_code =>
    have room : attempt < MAX_5XX_RETRIES := by
      by_contra full
      simp [switch_reason,Nat.not_lt.mp full] at stays
    exact ⟨⟨tried.few,tried.attempts⟩,room⟩
  | other exc => exact ⟨⟨attempt,[],by simp,by simp,tried.few,tried.attempts⟩,getLast_hear c (.other exc)⟩

theorem shape_fallback_answer {n : Nat} (tried : Tried c n [.fallback]) (outcome : Outcome) :
    Shape ((c.hear outcome).close (fallback_answer settings c.dept_id outcome)) := by
  have same : ∀ answer, Tried ((c.hear outcome).close answer) n [.fallback] := fun _ => ⟨tried.few,tried.attempts⟩
  cases outcome with
  | text value => exact ⟨⟨n,[.fallback],by simp,by simp,same _⟩,getLast_hear c (.text value)⟩
  | timeout => exact ⟨⟨n,same _⟩,.timeout,getLast_hear c .timeout,rfl⟩
  | server_error message status_code =>
    exact ⟨⟨n,same _⟩,_,getLast_hear c (.server_error message status_code),rfl⟩
  | other exc => exact ⟨⟨n,[.fallback],by simp,by simp,same _⟩,getLast_hear c (.other exc)⟩

def Shaped (s : Factory κ) : Prop := ∀ k, Shape (s.calls k)

/-- No call was ended by another exception. -/
def Orderly (s : Factory κ) : Prop := ∀ k exc, (s.calls k).phase ≠ .ended (.error (.other exc))

/-- What a step that meets the condition does, and one that does not. -/
structure Steps (settings : Settings) (s t : Factory κ) (a : Action κ) : Prop where
  shaped : Shaped s → Shaped t
  clear : Clear settings s a → Recorded s t ∧ (Orderly s → Orderly t)
  unclear : ¬Clear settings s a → ¬Recorded s t ∨ ¬Orderly t

variable {t : Factory κ}

omit [DecidableEq κ] in
theorem steps_rest {a : Action κ} (calls : t.calls = s.calls) (events : t.fallback_events = s.fallback_events)
    (flag : t.using_fallback = true → s.using_fallback = true) (clear : Clear settings s a) : Steps settings s t a where
  shaped := fun shaped k => calls ▸ shaped k
  clear := fun _ => ⟨.inr ⟨events,fun raised => by simp [flag raised.2] at raised⟩,fun orderly k => calls ▸ orderly k⟩
  unclear := fun unclear => absurd clear unclear

variable {k : κ}

theorem shaped_update (calls : t.calls = Function.update s.calls k c) (shaped : Shaped s)
    (shape : Shape c) : Shaped t := by
  intro j
  rw [calls]
  by_cases same : j = k
  · rw [same,Function.update_self]
    exact shape
  · rw [Function.update_of_ne same]
    exact shaped j

theorem orderly_update (calls : t.calls = Function.update s.calls k c) (orderly : Orderly s)
    (own : ∀ exc, c.phase ≠ .ended (.error (.other exc))) : Orderly t := by
  intro j
  rw [calls]
  by_cases same : j = k
  · rw [same,Function.update_self]
    exact own
  · rw [Function.update_of_ne same]
    exact orderly j

theorem steps_call {a : Action κ} (calls : t.calls = Function.update s.calls k c)
    (events : t.fallback_events = s.fallback_events) (flag : t.using_fallback = s.using_fallback)
    (shape : Shape (s.calls k) → Shape c) (own : ∀ exc, c.phase ≠ .ended (.error (.other exc)))
    (clear : Clear settings s a) : Steps settings s t a where
  shaped := fun shaped => shaped_update calls shaped (shape (shaped k))
  clear := fun _ => ⟨.inr ⟨events,fun raised => by simp [flag,raised.1] at raised⟩,fun orderly => orderly_update calls orderly own⟩
  unclear := fun unclear => absurd clear unclear

theorem steps_other {a : Action κ} {exc : String}
    (calls : t.calls = Function.update s.calls k c) (shape : Shape (s.calls k) → Shape c)
    (own : c.phase = .ended (.error (.other exc))) (unclear : ¬Clear settings s a) : Steps settings s t a where
  shaped := fun shaped => shaped_update calls shaped (shape (shaped k))
  clear := fun clear => absurd clear unclear
  unclear := fun _ => .inr fun orderly => orderly k exc (by rw [calls,Function.update_self]; exact own)

theorem steps_switch {a : Action κ} {event : FallbackEvent}
    (calls : t.calls = Function.update s.calls k c) (events : t.fallback_events = s.fallback_events ++ [event])
    (flag : t.using_fallback = true) (shape : Shape (s.calls k) → Shape c) (own : ∀ exc, c.phase ≠ .ended (.error (.other exc)))
    (first : Clear settings s a ↔ s.using_fallback = false) : Steps settings s t a where
  shaped := fun shaped => shaped_update calls shaped (shape (shaped k))
  clear := fun clear => ⟨.inl ⟨event,events,first.mp clear,flag⟩,fun orderly => orderly_update calls orderly own⟩
  unclear := fun unclear => .inl (by
    rintro (⟨other,-,before,-⟩ | ⟨same,-⟩)
    · exact unclear (first.mpr before)
    · rw [events] at same
      simp at same)

omit [DecidableEq κ] in
theorem clear_reply {outcome : Outcome} {now : String} (regular : ∀ exc, outcome ≠ .other exc) :
    Clear settings s (.reply k outcome now) ↔ ∀ attempt ∈ (s.calls k).phase.primary_attempt,
      (switch_reason settings attempt outcome).isSome = true → s.using_fallback = false := by
  cases outcome with
  | other exc => exact absurd rfl (regular exc)
  | _ => rfl

theorem primary_steps {attempt : Nat} (phase : (s.calls k).phase = .primary attempt) (outcome : Outcome) (now : String) :
    Steps settings s (primary_reply settings s k attempt outcome now) (.reply k outcome now) := by
  have tried : Shape (s.calls k) → Tried (s.calls k) attempt [] := fun shape => by
    unfold Shape at shape
    rw [phase] at shape
    exact shape
  have awaited : (s.calls k).phase.primary_attempt = some attempt := by rw [phase]; rfl
  unfold primary_reply
  simp only
  cases reason : switch_reason settings attempt outcome with
  | some error_reason =>
    have regular : ∀ exc, outcome ≠ .other exc := by
      rintro exc rfl
      simp [switch_reason] at reason
    obtain ⟨calls,flag,events⟩ := @give_up_frame _ _ settings (s.set k ((s.calls k).hear outcome)) k now error_reason
    simp only [set_calls_same] at calls
    refine steps_switch (calls.trans (Function.update_idem ..)) events flag (fun shape => ?_) ?_ ?_
    · exact shape_given_up ⟨(tried shape).few,(tried shape).attempts⟩
    · intro exc
      unfold given_up
      cases settings.notifies <;> simp [Call.ask]
    · rw [clear_reply regular,awaited]
      simp [reason]
  | none =>
    cases outcome with
    | text value =>
      refine steps_call (c := heard (s.calls k) attempt (.text value)) rfl rfl rfl (fun shape => shape_heard (tried shape) reason) ?_ ?_
      · simp [heard,Call.close]
      · rw [clear_reply (by simp),awaited]
        simp [reason]
    | timeout => simp [switch_reason] at reason
    | server_error message status_code =>
      refine steps_call (c := heard (s.calls k) attempt (.server_error message status_code)) rfl rfl rfl
        (fun shape => shape_heard (tried shape) reason) ?_ ?_
      · simp [heard]
      · rw [clear_reply (by simp),awaited]
        simp [reason]
    | other exc =>
      refine steps_other (c := heard (s.calls k) attempt (.other exc)) rfl (fun shape => shape_heard (tried shape) reason) rfl ?_
      simp [Clear,phase,Phase.awaits_provider]

theorem fallback_steps (phase : (s.calls k).phase = .fallback) (outcome : Outcome) (now : String) :
    Steps settings s (s.set k (((s.calls k).hear outcome).close (fallback_answer settings (s.calls k).dept_id outcome)))
      (.reply k outcome now) := by
  have shape : Shape (s.calls k) →
      Shape (((s.calls k).hear outcome).close (fallback_answer settings (s.calls k).dept_id outcome)) := fun shape => by
    unfold Shape at shape
    rw [phase] at shape
    obtain ⟨n,tried⟩ := shape
    exact shape_fallback_answer tried outcome
  have awaited : (s.calls k).phase.primary_attempt = none := by rw [phase]; rfl
  cases outcome with
  | other exc => exact steps_other rfl shape rfl (by simp [Clear,phase,Phase.awaits_provider])
  | text value =>
    refine steps_call rfl rfl rfl shape (by simp [Call.close,fallback_answer]) ?_
    simp [clear_reply,awaited]
  | timeout =>
    refine steps_call rfl rfl rfl shape (by simp [Call.close,fallback_answer,unavailable]) ?_
    simp [clear_reply,awaited]
  | server_error message status_code =>
    refine steps_call rfl rfl rfl shape (by simp [Call.close,fallback_answer,unavailable]) ?_
    simp [clear_reply,awaited]

omit [DecidableEq κ] in
theorem idle_steps (idle : (s.calls k).phase.awaits_provider = false) (outcome : Outcome) (now : String) :
    Steps settings s s (.reply k outcome now) := by
  refine steps_rest rfl rfl id ?_
  cases outcome with
  | other exc => exact idle
  | _ =>
    cases phase : (s.calls k).phase <;> simp_all [Clear,Phase.awaits_provider,Phase.primary_attempt]

theorem step_steps (settings : Settings) (s : Factory κ) (a : Action κ) : Steps settings s (step settings s a) a := by
  cases a with
  | complete k prompt dept_id kwargs =>
    unfold step
    simp only
    cases phase : (s.calls k).phase with
    | unstarted =>
      have fresh : Tried ⟨prompt,dept_id,kwargs,.unstarted,[],[]⟩ 0 [] := ⟨by decide,rfl⟩
      cases s.using_fallback with
      | true => exact steps_call rfl rfl rfl (fun _ => ⟨0,tried_ask fresh .fallback⟩) (by simp [Call.ask]) trivial
      | false => exact steps_call rfl rfl rfl (fun _ => tried_again fresh (by decide) (.primary 1)) (by simp [Call.ask]) trivial
    | _ => exact steps_rest rfl rfl id trivial
  | reply k outcome now =>
    unfold step
    simp only
    cases phase : (s.calls k).phase with
    | primary attempt => exact primary_steps phase outcome now
    | fallback => exact fallback_steps phase outcome now
    | _ => exact idle_steps (by rw [phase]; rfl) outcome now
  | wake k =>
    unfold step
    simp only
    cases phase : (s.calls k).phase with
    | sleeping attempt =>
      refine steps_call rfl rfl rfl (fun shape => ?_) (by simp [Call.ask]) trivial
      unfold Shape at shape
      rw [phase] at shape
      exact tried_again shape.1 shape.2 (.primary (attempt + 1))
    | _ => exact steps_rest rfl rfl id trivial
  | notified k =>
    unfold step
    simp only
    cases phase : (s.calls k).phase with
    | notifying =>
      obtain ⟨calls,flag,events⟩ := proceed_frame (s := s) k
      refine steps_call calls events flag (fun shape => ?_) (by simp [Call.ask]) trivial
      unfold Shape at shape
      rw [phase] at shape
      obtain ⟨n,tried⟩ := shape
      exact ⟨n,tried_ask tried .fallback⟩
    | _ => exact steps_rest rfl rfl id trivial
  | probe_wake task =>
    unfold step
    simp only
    split
    · exact steps_rest rfl rfl id trivial
    · exact steps_rest rfl rfl id trivial
  | probe_reply task outcome =>
    unfold step
    simp only
    split
    · exact steps_rest rfl rfl (fun raised => (Bool.and_eq_true .. ▸ raised).1) trivial
    · exact steps_rest rfl rfl id trivial
  | force_health_probe n => exact steps_rest rfl rfl id trivial
  | force_reply n outcome =>
    unfold step
    simp only
    split
    · exact steps_rest rfl rfl (fun raised => (Bool.and_eq_true .. ▸ raised).1) trivial
    · exact steps_rest rfl rfl id trivial
  | reset =>
    unfold step
    cases s.health_probe_task with
    | none => exact steps_rest rfl rfl (by simp) trivial
    | some task =>
      simp only
      split
      · exact steps_rest rfl rfl (by simp) trivial
      · obtain ⟨calls,-,events⟩ := cancel_frame (s := s)
        exact steps_rest calls events (by simp) trivial

omit [DecidableEq κ] in
theorem start_shaped : Shaped (Factory.start : Factory κ) := fun _ => rfl

omit [DecidableEq κ] in
theorem start_orderly : Orderly (Factory.start : Factory κ) := fun _ _ ended => by cases ended

theorem shaped_run (settings : Settings) (actions : List (Action κ)) : Shaped (actions.foldl (step settings) Factory.start) := by
  induction actions using List.reverseRecOn with
  | nil => exact start_shaped
  | append_singleton front a ih =>
    rw [List.foldl_append]
    exact (step_steps settings _ a).shaped ih

/-- In every run a call tries the primary three times at most and the fallback once, with
    the prompt and the arguments that it was given. -/
theorem wellFormed_run (settings : Settings) (actions : List (Action κ)) (k : κ) :
    Bounded ((actions.foldl (step settings) Factory.start).calls k) := (shaped_run settings actions k).bounded

/-- What a step does that keeps the switching in order. -/
def Regular (settings : Settings) (s : Factory κ) (a : Action κ) : Prop :=
  Recorded s (step settings s a) ∧ Orderly (step settings s a)

theorem regular_iff (settings : Settings) {s : Factory κ} (orderly : Orderly s) (a : Action κ) :
    Regular settings s a ↔ Clear settings s a := by
  have steps := step_steps settings s a
  constructor
  · rintro ⟨recorded,still⟩
    by_contra unclear
    rcases steps.unclear unclear with not_recorded | not_orderly
    · exact not_recorded recorded
    · exact not_orderly still
  · intro clear
    exact ⟨(steps.clear clear).1,(steps.clear clear).2 orderly⟩

theorem orderly_iff (settings : Settings) (actions : List (Action κ)) :
    Orderly (actions.foldl (step settings) Factory.start) ↔ ∀ k, Answered ((actions.foldl (step settings) Factory.start).calls k) :=
  forall_congr' fun k => ((shaped_run settings actions k).answered_iff).symm

/-- A run switches as it should exactly if all its steps meet the condition. -/
theorem fallback_iff (settings : Settings) (actions : List (Action κ)) :
    Switching settings actions ↔ Admitted (step settings) (Clear settings) Factory.start actions := by
  have steps : (∀ front a back, actions = front ++ a :: back → Regular settings (front.foldl (step settings) Factory.start) a) ↔
      Admitted (step settings) (Clear settings) Factory.start actions :=
    admitted_steps_iff (W := fun _ => True) (I := Orderly) (fun _ _ _ => trivial)
      (fun s a _ orderly => regular_iff settings orderly a) (fun _ _ regular => regular.2) actions Factory.start trivial start_orderly
  rw [← steps]
  constructor
  · intro switching front a back split
    refine ⟨switching.recorded front a back split,?_⟩
    have answered := switching.answered (front ++ [a]) back (by rw [split]; simp)
    rw [← orderly_iff,List.foldl_append] at answered
    exact answered
  · intro each
    refine ⟨fun front _ _ k => wellFormed_run settings front k,fun front => ?_,fun front a back split => (each front a back split).1⟩
    intro back split
    rw [← orderly_iff]
    induction front using List.reverseRecOn with
    | nil => exact start_orderly
    | append_singleton front a _ =>
      rw [List.foldl_append]
      exact (each front a back (by rw [split]; simp)).2

end

def sampleSettings : Settings where
  primary_config := ⟨"vllm","http://vllm:8000/v1","key","30.0"⟩
  fallback_config := ⟨"openai","https://api.openai.com/v1","key","30.0"⟩
  notifies := false

/-- The HTTP client raises: the primary cannot be reached, or the client's own timeout is over. -/
def unreachable (exc : String) : List (Action Bool) :=
  [.complete true "prompt" "payment" [],.reply true (http_outcome sampleSettings.primary_config (.raised exc)) "t1"]

/-- Two calls wait for the primary, and both time out. -/
def both_time_out : List (Action Bool) :=
  [.complete true "prompt" "payment" [],.complete false "prompt" "legal" [],.reply true .timeout "t1",.reply false .timeout "t2"]

/-- A connection failure, or a timeout of the client, ends a call without the fallback; two
    calls in flight record two events for one switch. -/
theorem gives_up : ¬Switching sampleSettings (unreachable "ConnectError") ∧ ¬Switching sampleSettings (unreachable "ReadTimeout") ∧
    ¬Switching sampleSettings both_time_out := by
  rw [fallback_iff,fallback_iff,fallback_iff]
  refine ⟨?_,?_,?_⟩
  · rintro ⟨-,clear,-⟩
    cases clear
  · rintro ⟨-,clear,-⟩
    cases clear
  · rintro ⟨-,-,-,clear,-⟩
    exact absurd (clear 1 rfl rfl) (by decide)

end Automation.ProviderFallback
