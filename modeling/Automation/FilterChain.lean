import Automation.WebhookEndpoint

/-!
`WebhookFilterChain.evaluate` with its callbacks as commands, so that what it
consults is part of its meaning. The chain is specified by a table: stages in
the order of their priority, each with what it decides and what it consults.
`chain_table` says that the chain is the table, that a bot's event never passes
and that the burst window hears of exactly the events no earlier stage has
decided; `endpoint_verdict` that the endpoint runs it.

The bypass comes before the `replay_dedup` stage so that a redelivered reply is
not swallowed. The claim of `_dispatch_pass` decides on the delivery id once
more, for bypassed events too, and swallows it (`bypass_redelivery_iff`).
-/
namespace Automation.FilterChain
open Automation.Effects Automation.PyText Automation.Regex
open Automation.WebhookClaim (WebhookEvent FilterDecision ProcessedEvents Outcomes Arguments RequestState RequestError
  Response Licensed Dispatched workflow_input_for_event duplicate_response serve_dispatched_iff)
open Automation.WebhookEndpoint (Verdict BurstRegisterResult BOT_PREFIX_REGEX has_streamlit_bypass_tag bot_prefixed
  Deps Refusal HttpRequest audited_dept workflow_id_for process_event process_webhook receive_event Deduplicated
  bad_request drop_response serve_deduplicated_iff commentBody commentJson accepting served emptyTable)

inductive Callback where
  | verify_hmac (event : WebhookEvent)
  | resolve_dept (event : WebhookEvent)
  | bot_account_ids
  | is_processed (delivery_id : String)
  | iter_count_for (issue_key : String)
  | reporter_for (issue_key : String)
  | mention_set_for (issue_key : String)
  | burst_register (event : WebhookEvent)

@[reducible] def Callback.Answer : Callback → Type
  | .verify_hmac _ => Bool
  | .resolve_dept _ => Option String
  | .bot_account_ids => List String
  | .is_processed _ => Bool
  | .iter_count_for _ => Int
  | .reporter_for _ => String
  | .mention_set_for _ => List String
  | .burst_register _ => Option BurstRegisterResult

/-- A callback answers or raises. -/
@[reducible] def callbacks : Signature where
  Cmd := Callback
  Res c := Except String c.Answer

inductive ChainError where
  | hmac_invalid
  | dept_unresolved
  | raised (message : String)

abbrev Chain := Prog callbacks ChainError

/-- The exception of a callback goes on. -/
def consult (c : Callback) : Chain c.Answer := do
  match ← command (S := callbacks) c with
  | .ok answer => return answer
  | .error message => .raise (.raised message)

def drop (reason : String) : Option Verdict := some (.drop { reason, coalesced_with := [] })

def pass (reason : String) : Option Verdict := some (.pass { reason, coalesced_with := [] })

def stage_verify_hmac (event : WebhookEvent) : Chain Unit := do
  let verified ← consult (.verify_hmac event)
  if verified then return () else .raise .hmac_invalid

def stage_resolve_dept (event : WebhookEvent) : Chain Unit := do
  let dept_id ← consult (.resolve_dept event)
  if dept_id.isNone then .raise .dept_unresolved else return ()

def stage_loop_guard (event : WebhookEvent) : Chain (Option Verdict) :=
  match event.actor_account_id with
  | some actor => do
    let bots ← consult .bot_account_ids
    return if bots.contains actor then drop "loop_guard_dropped" else none
  | none =>
    if event.body_text.any fun text => matchPrefix BOT_PREFIX_REGEX text.toList then
      return drop "loop_guard_regex_dropped"
    else return none

def stage_streamlit_bypass (event : WebhookEvent) : Chain (Option Verdict) :=
  return if has_streamlit_bypass_tag event.body_text then pass "streamlit_inline_reply_with_bypass" else none

def stage_replay_dedup (event : WebhookEvent) : Chain (Option Verdict) := do
  let processed ← consult (.is_processed event.delivery_id)
  return if processed then drop "duplicate_event_dropped" else none

/-- The mention set is read from the second iteration on. -/
def mention_rule (event : WebhookEvent) (issue_key : String) (iter_count : Int) : Chain (Option Verdict) :=
  if 1 < iter_count then do
    let mention_set ← consult (.mention_set_for issue_key)
    return if event.actor_account_id.any mention_set.contains then none else drop "comment_ignored_unauthorized_actor"
  else return none

def stage_mention_filter (event : WebhookEvent) : Chain (Option Verdict) :=
  if event.event_type ≠ "jira:issue_commented" then return none
  else
    match event.issue_key with
    | none => return none
    | some issue_key => do
      let iter_count ← consult (.iter_count_for issue_key)
      if iter_count ≤ 1 ∧ event.actor_account_id.isSome then
        let reporter ← consult (.reporter_for issue_key)
        if event.actor_account_id = some reporter then return pass "mention_filter_first_iter_exception"
        else mention_rule event issue_key iter_count
      else mention_rule event issue_key iter_count

/-- `wired`: the chain has a `burst_register` callback. -/
def stage_burst_debounce (wired : Bool) (event : WebhookEvent) : Chain (Option Verdict) :=
  if wired then do
    match ← consult (.burst_register event) with
    | some (.coalesce_dropped coalesced_with) => return some (.drop { reason := "burst_coalesced", coalesced_with })
    | _ => return none
  else return none

def filter_chain_pass : Verdict := .pass { reason := "filter_chain_pass", coalesced_with := [] }

def evaluate (wired : Bool) (event : WebhookEvent) : Chain Verdict := do
  stage_verify_hmac event
  stage_resolve_dept event
  match ← stage_loop_guard event with
  | some decision => return decision
  | none =>
    match ← stage_streamlit_bypass event with
    | some decision => return decision
    | none =>
      match ← stage_replay_dedup event with
      | some decision => return decision
      | none =>
        match ← stage_mention_filter event with
        | some decision => return decision
        | none =>
          match ← stage_burst_debounce wired event with
          | some decision => return decision
          | none => return filter_chain_pass

/-- What the callbacks answer during one evaluation. -/
abbrev Answers := (c : Callback) → callbacks.Res c

/-- The callbacks that were invoked, in order. -/
def recording (answers : Answers) : Handler callbacks (List Callback) := fun c log => (answers c,log ++ [c])

inductive Stage where
  | verify_hmac
  | resolve_dept
  | loop_guard
  | streamlit_bypass
  | replay_dedup
  | mention_filter
  | burst_debounce
  deriving DecidableEq

def PRIORITY : List Stage :=
  [.verify_hmac,.resolve_dept,.loop_guard,.streamlit_bypass,.replay_dedup,.mention_filter,.burst_debounce]

/-- A stage decides with a verdict or with an exception, or leaves the event to the next. -/
abbrev Decision := Option (Except ChainError Verdict)

/-- A callback that raises decides. -/
def onAnswer {α : Type} (answer : Except String α) (decide : α → Decision) : Decision :=
  match answer with
  | .error message => some (.error (.raised message))
  | .ok a => decide a

def commented (event : WebhookEvent) : Option String :=
  if event.event_type = "jira:issue_commented" then event.issue_key else none

def decides (answers : Answers) (wired : Bool) (event : WebhookEvent) : Stage → Decision
  | .verify_hmac => onAnswer (answers (.verify_hmac event)) fun verified =>
    if verified then none else some (.error .hmac_invalid)
  | .resolve_dept => onAnswer (answers (.resolve_dept event)) fun dept_id =>
    if dept_id.isSome then none else some (.error .dept_unresolved)
  | .loop_guard =>
    match event.actor_account_id with
    | some actor => onAnswer (answers .bot_account_ids) fun bots =>
      if bots.contains actor then (drop "loop_guard_dropped").map .ok else none
    | none => if bot_prefixed event then (drop "loop_guard_regex_dropped").map .ok else none
  | .streamlit_bypass =>
    if has_streamlit_bypass_tag event.body_text then (pass "streamlit_inline_reply_with_bypass").map .ok else none
  | .replay_dedup => onAnswer (answers (.is_processed event.delivery_id)) fun processed =>
    if processed then (drop "duplicate_event_dropped").map .ok else none
  | .mention_filter =>
    match commented event with
    | none => none
    | some issue_key => onAnswer (answers (.iter_count_for issue_key)) fun iter_count =>
      if 1 < iter_count then
        onAnswer (answers (.mention_set_for issue_key)) fun mention_set =>
          if event.actor_account_id.any mention_set.contains then none
          else (drop "comment_ignored_unauthorized_actor").map .ok
      else if event.actor_account_id.isNone then none
      else onAnswer (answers (.reporter_for issue_key)) fun reporter =>
        if event.actor_account_id = some reporter then (pass "mention_filter_first_iter_exception").map .ok else none
  | .burst_debounce =>
    if wired then
      onAnswer (answers (.burst_register event)) fun registered =>
        match registered with
        | some (.coalesce_dropped coalesced_with) => some (.ok (.drop { reason := "burst_coalesced", coalesced_with }))
        | _ => none
    else none

/-- The callbacks that a stage invokes when the event comes to it. -/
def consults (answers : Answers) (wired : Bool) (event : WebhookEvent) : Stage → List Callback
  | .verify_hmac => [.verify_hmac event]
  | .resolve_dept => [.resolve_dept event]
  | .loop_guard => if event.actor_account_id.isSome then [.bot_account_ids] else []
  | .streamlit_bypass => []
  | .replay_dedup => [.is_processed event.delivery_id]
  | .mention_filter =>
    match commented event with
    | none => []
    | some issue_key =>
      .iter_count_for issue_key ::
        match answers (.iter_count_for issue_key) with
        | .error _ => []
        | .ok iter_count =>
          if 1 < iter_count then [.mention_set_for issue_key]
          else if event.actor_account_id.isSome then [.reporter_for issue_key]
          else []
  | .burst_debounce => if wired then [.burst_register event] else []

/-- The first stage that decides wins. -/
def verdict (answers : Answers) (wired : Bool) (event : WebhookEvent) : Except ChainError Verdict :=
  (PRIORITY.findSome? (decides answers wired event)).getD (.ok filter_chain_pass)

/-- The stages that an event comes to: those before the first that decides, and that one. -/
def visits (decides : Stage → Decision) : List Stage → List Stage
  | [] => []
  | stage :: rest => stage :: if (decides stage).isNone then visits decides rest else []

def visited (answers : Answers) (wired : Bool) (event : WebhookEvent) : List Stage :=
  visits (decides answers wired event) PRIORITY

/-- The end of a stage that decides so. -/
def ended : Decision → Except ChainError (Option Verdict)
  | none => .ok none
  | some (.ok decision) => .ok (some decision)
  | some (.error error) => .error error

/-- A stage that decides with exceptions only. -/
def checked : Decision → Except ChainError Unit
  | some (.error error) => .error error
  | _ => .ok ()

section
variable (answers : Answers) (wired : Bool) (event : WebhookEvent) (log : List Callback)
attribute [local simp] decides consults

theorem exec_consult {β : Type} (c : Callback) (rest : c.Answer → Chain β) :
    exec (recording answers) (consult c >>= rest) log =
      match answers c with
      | .ok answer => exec (recording answers) (rest answer) (log ++ [c])
      | .error message => (.error (.raised message),log ++ [c]) := by
  have asked : exec (recording answers) (consult c) log =
      match answers c with
      | .ok answer => (.ok answer,log ++ [c])
      | .error message => (.error (.raised message),log ++ [c]) := by
    rw [consult,exec_bind]
    cases heard : answers c with
    | ok answer => simp [recording,heard]
    | error message => simp [recording,heard]
  rw [exec_bind,asked]
  cases answers c <;> rfl

theorem verify_hmac_exec :
    exec (recording answers) (stage_verify_hmac event) log =
      (checked (decides answers wired event .verify_hmac),log ++ consults answers wired event .verify_hmac) := by
  rw [stage_verify_hmac,exec_consult,decides,consults]
  cases answers (.verify_hmac event) with
  | error message => rfl
  | ok verified => cases verified <;> rfl

theorem resolve_dept_exec :
    exec (recording answers) (stage_resolve_dept event) log =
      (checked (decides answers wired event .resolve_dept),log ++ consults answers wired event .resolve_dept) := by
  rw [stage_resolve_dept,exec_consult,decides,consults]
  cases answers (.resolve_dept event) with
  | error message => rfl
  | ok dept_id => cases dept_id <;> rfl

theorem loop_guard_exec :
    exec (recording answers) (stage_loop_guard event) log =
      (ended (decides answers wired event .loop_guard),log ++ consults answers wired event .loop_guard) := by
  cases known : event.actor_account_id with
  | none =>
    simp only [stage_loop_guard,decides,consults,bot_prefixed,known,Option.isNone_none,Bool.true_and,Option.isSome_none,
      Bool.false_eq_true,if_false,List.append_nil]
    cases event.body_text.any fun text => matchPrefix BOT_PREFIX_REGEX text.toList <;> rfl
  | some actor =>
    simp only [stage_loop_guard,decides,consults,known]
    rw [exec_consult]
    cases answers .bot_account_ids with
    | error message => rfl
    | ok bots =>
      simp only [onAnswer,Option.isSome_some,if_true]
      cases List.contains bots actor <;> rfl

theorem streamlit_bypass_exec :
    exec (recording answers) (stage_streamlit_bypass event) log =
      (ended (decides answers wired event .streamlit_bypass),log ++ consults answers wired event .streamlit_bypass) := by
  simp only [stage_streamlit_bypass,decides,consults,List.append_nil]
  cases has_streamlit_bypass_tag event.body_text <;> rfl

theorem replay_dedup_exec :
    exec (recording answers) (stage_replay_dedup event) log =
      (ended (decides answers wired event .replay_dedup),log ++ consults answers wired event .replay_dedup) := by
  rw [stage_replay_dedup,exec_consult,decides,consults]
  cases answers (.is_processed event.delivery_id) with
  | error message => rfl
  | ok processed => cases processed <;> rfl

theorem mention_rule_exec (issue_key : String) {iter_count : Int} (later : 1 < iter_count) :
    exec (recording answers) (mention_rule event issue_key iter_count) log =
      (ended (onAnswer (answers (.mention_set_for issue_key)) fun mention_set =>
        if event.actor_account_id.any mention_set.contains then none
        else (drop "comment_ignored_unauthorized_actor").map .ok),log ++ [.mention_set_for issue_key]) := by
  rw [mention_rule,if_pos later,exec_consult]
  cases answers (.mention_set_for issue_key) with
  | error message => rfl
  | ok mention_set =>
    cases member : event.actor_account_id.any (List.contains mention_set) <;> simp [onAnswer,member,ended,drop]

theorem mention_filter_exec :
    exec (recording answers) (stage_mention_filter event) log =
      (ended (decides answers wired event .mention_filter),log ++ consults answers wired event .mention_filter) := by
  by_cases comment : event.event_type = "jira:issue_commented"
  · cases keyed : event.issue_key with
    | none => simp [stage_mention_filter,decides,consults,commented,comment,keyed,ended]
    | some issue_key =>
      simp only [stage_mention_filter,decides,consults,commented,comment,keyed,ne_eq,not_true_eq_false,if_false,if_true]
      rw [exec_consult]
      cases answers (.iter_count_for issue_key) with
      | error message => rfl
      | ok iter_count =>
        by_cases later : 1 < iter_count
        · have past : ¬ (iter_count ≤ 1 ∧ event.actor_account_id.isSome = true) := fun both => Int.not_lt.mpr both.1 later
          simp only [if_neg past,mention_rule_exec answers event _ issue_key later,onAnswer,if_pos later]
          simp
        · have early : iter_count ≤ 1 := Int.not_lt.mp later
          have unread : mention_rule event issue_key iter_count = pure none := if_neg later
          cases known : event.actor_account_id with
          | none => simp [unread,onAnswer,later,ended]
          | some actor =>
            simp only [early,Option.isSome_some,and_self,if_true,unread]
            rw [exec_consult]
            cases answers (.reporter_for issue_key) with
            | error message => simp [onAnswer,later,ended]
            | ok reporter =>
              by_cases same : actor = reporter
              · simp [onAnswer,later,same,ended,pass]
              · simp [onAnswer,later,same,ended]
  · simp [stage_mention_filter,decides,consults,commented,comment,ended]

theorem burst_debounce_exec :
    exec (recording answers) (stage_burst_debounce wired event) log =
      (ended (decides answers wired event .burst_debounce),log ++ consults answers wired event .burst_debounce) := by
  cases wired with
  | false => simp [stage_burst_debounce,decides,consults,ended]
  | true =>
    simp only [stage_burst_debounce,decides,consults,if_true]
    rw [exec_consult]
    cases answers (.burst_register event) with
    | error message => rfl
    | ok registered =>
      cases registered with
      | none => rfl
      | some result => cases result <;> rfl

end

section
variable {answers : Answers} {wired : Bool} {event : WebhookEvent}

/-- The program is the rest of the chain from the first of the stages on. -/
def Follows (answers : Answers) (wired : Bool) (event : WebhookEvent) (p : Chain Verdict) (stages : List Stage) : Prop :=
  ∀ log, exec (recording answers) p log =
    ((stages.findSome? (decides answers wired event)).getD (.ok filter_chain_pass),
      log ++ (visits (decides answers wired event) stages).flatMap (consults answers wired event))

theorem follows_nil : Follows answers wired event (pure filter_chain_pass) [] := by
  intro log
  simp [visits]

theorem follows_stage {stage : Stage} {stages : List Stage} {p : Chain (Option Verdict)} {rest : Chain Verdict}
    (first : ∀ log, exec (recording answers) p log =
      (ended (decides answers wired event stage),log ++ consults answers wired event stage))
    (later : Follows answers wired event rest stages) :
    Follows answers wired event
      (do match ← p with
          | some decision => return decision
          | none => rest) (stage :: stages) := by
  intro log
  rw [exec_bind,first]
  cases decided : decides answers wired event stage with
  | none =>
    simp only [ended,List.findSome?_cons,decided,visits,Option.isNone_none,if_true,List.flatMap_cons,← List.append_assoc]
    exact later _
  | some decision => cases decision <;> simp [ended,decided,visits]

theorem follows_check {stage : Stage} {stages : List Stage} {p : Chain Unit} {rest : Chain Verdict}
    (first : ∀ log, exec (recording answers) p log =
      (checked (decides answers wired event stage),log ++ consults answers wired event stage))
    (silent : ∀ decision, decides answers wired event stage ≠ some (.ok decision))
    (later : Follows answers wired event rest stages) :
    Follows answers wired event (do p; rest) (stage :: stages) := by
  intro log
  rw [exec_bind,first]
  cases decided : decides answers wired event stage with
  | none =>
    simp only [checked,List.findSome?_cons,decided,visits,Option.isNone_none,if_true,List.flatMap_cons,← List.append_assoc]
    exact later _
  | some decision =>
    cases decision with
    | ok decision => exact absurd decided (silent decision)
    | error error => simp [checked,decided,visits]

theorem verify_hmac_silent (decision : Verdict) : decides answers wired event .verify_hmac ≠ some (.ok decision) := by
  simp only [decides]
  cases answers (.verify_hmac event) with
  | error message => exact nofun
  | ok verified => cases verified <;> exact nofun

theorem resolve_dept_silent (decision : Verdict) : decides answers wired event .resolve_dept ≠ some (.ok decision) := by
  simp only [decides]
  cases answers (.resolve_dept event) with
  | error message => exact nofun
  | ok dept_id => cases dept_id <;> exact nofun

theorem evaluate_follows : Follows answers wired event (evaluate wired event) PRIORITY := by
  refine follows_check (verify_hmac_exec answers wired event) verify_hmac_silent ?_
  refine follows_check (resolve_dept_exec answers wired event) resolve_dept_silent ?_
  refine follows_stage (loop_guard_exec answers wired event) ?_
  refine follows_stage (streamlit_bypass_exec answers wired event) ?_
  refine follows_stage (replay_dedup_exec answers wired event) ?_
  refine follows_stage (mention_filter_exec answers wired event) ?_
  exact follows_stage (burst_debounce_exec answers wired event) follows_nil

end

/-- The chain ends as the first stage that decides does, and consults exactly
    what the visited stages consult, in their order. -/
theorem evaluate_refines (answers : Answers) (wired : Bool) (event : WebhookEvent) :
    exec (recording answers) (evaluate wired event) [] =
      (verdict answers wired event,(visited answers wired event).flatMap (consults answers wired event)) := by
  rw [evaluate_follows]
  rfl

/-- Written by a bot: under an account that is registered as one, or without an
    account and in the bot's own form. -/
def BotAuthored (answers : Answers) (event : WebhookEvent) : Prop :=
  (∃ actor bots, event.actor_account_id = some actor ∧ answers .bot_account_ids = .ok bots ∧ actor ∈ bots) ∨
    bot_prefixed event = true

/-- No stage before the burst window decides. -/
def survives (answers : Answers) (wired : Bool) (event : WebhookEvent) : Bool :=
  (PRIORITY.takeWhile (· ≠ .burst_debounce)).all fun stage => (decides answers wired event stage).isNone

/-- The events that the burst window was told of. -/
def registrations (calls : List Callback) : List WebhookEvent :=
  calls.filterMap fun
    | .burst_register event => some event
    | _ => none

structure Tabled (answers : Answers) (wired : Bool) (event : WebhookEvent) : Prop where
  refines : exec (recording answers) (evaluate wired event) [] =
    (verdict answers wired event,(visited answers wired event).flatMap (consults answers wired event))
  guarded : BotAuthored answers event →
    ∀ decision, (exec (recording answers) (evaluate wired event) []).1 ≠ .ok (.pass decision)
  registered : registrations (exec (recording answers) (evaluate wired event) []).2 =
    if wired && survives answers wired event then [event] else []

section
variable {answers : Answers} {wired : Bool} {event : WebhookEvent}

theorem loop_guard_drops (wired : Bool) (authored : BotAuthored answers event) :
    ∃ decision, decides answers wired event .loop_guard = some (.ok (.drop decision)) := by
  rcases authored with ⟨actor,bots,known,answered,member⟩ | botlike
  · exact ⟨_,by simp [decides,known,answered,onAnswer,member,drop]; rfl⟩
  · have unknown : event.actor_account_id = none := by
      simp only [bot_prefixed,Bool.and_eq_true,Option.isNone_iff_eq_none] at botlike
      exact botlike.1
    exact ⟨_,by simp [decides,unknown,botlike,drop]; rfl⟩

theorem guarded_verdict {dropped : FilterDecision}
    (drops : decides answers wired event .loop_guard = some (.ok (.drop dropped))) (decision : FilterDecision) :
    verdict answers wired event ≠ .ok (.pass decision) := by
  simp only [verdict,PRIORITY,List.findSome?_cons]
  cases verified : decides answers wired event .verify_hmac with
  | some ended =>
    rintro rfl
    exact verify_hmac_silent _ verified
  | none =>
    cases resolved : decides answers wired event .resolve_dept with
    | some ended =>
      rintro rfl
      exact resolve_dept_silent _ resolved
    | none => simp [drops]

theorem consults_registrations (stage : Stage) :
    registrations (consults answers wired event stage) = if wired && stage = .burst_debounce then [event] else [] := by
  cases stage with
  | verify_hmac => simp [registrations,consults]
  | resolve_dept => simp [registrations,consults]
  | loop_guard => cases known : event.actor_account_id <;> simp [registrations,consults,known]
  | streamlit_bypass => simp [registrations,consults]
  | replay_dedup => simp [registrations,consults]
  | mention_filter =>
    simp only [consults,registrations]
    cases commented event with
    | none => simp
    | some issue_key =>
      simp only
      split
      · simp
      · split
        · simp
        · split <;> simp
  | burst_debounce => cases wired <;> simp [registrations,consults]

theorem visits_last (decides : Stage → Decision) (last : Stage) {before : List Stage} (earlier : last ∉ before) :
    (visits decides (before ++ [last])).filter (· = last) =
      if before.all fun stage => (decides stage).isNone then [last] else [] := by
  induction before with
  | nil => simp [visits]
  | cons stage before ih =>
    obtain ⟨other,rest⟩ := not_or.mp (List.mem_cons.not.mp earlier)
    have different : stage ≠ last := fun same => other same.symm
    cases undecided : (decides stage).isNone with
    | true => simp [visits,undecided,different,ih rest]
    | false => simp [visits,undecided,different]

theorem visited_registrations :
    registrations ((visited answers wired event).flatMap (consults answers wired event)) =
      if wired && survives answers wired event then [event] else [] := by
  have ordered : PRIORITY = PRIORITY.takeWhile (· ≠ .burst_debounce) ++ [.burst_debounce] := by decide
  have last : (visited answers wired event).filter (· = .burst_debounce) =
      if survives answers wired event then [.burst_debounce] else [] := by
    rw [visited,ordered]
    exact visits_last (decides answers wired event) .burst_debounce (by decide)
  have heard : ∀ stages : List Stage, registrations (stages.flatMap (consults answers wired event)) =
      (stages.filter (· = .burst_debounce)).flatMap fun _ => if wired then [event] else [] := by
    intro stages
    induction stages with
    | nil => rfl
    | cons stage stages ih =>
      have split : registrations ((stage :: stages).flatMap (consults answers wired event)) =
          registrations (consults answers wired event stage) ++
            registrations (stages.flatMap (consults answers wired event)) := by
        simp [registrations]
      rw [split,ih,consults_registrations]
      by_cases window : stage = .burst_debounce <;> simp [window]
  rw [heard,last]
  cases survives answers wired event <;> cases wired <;> rfl

end

/-- The chain is its table; a bot's event never passes it, and the burst window
    hears of the events that no earlier stage has decided, once, and of no other. -/
theorem chain_table (answers : Answers) (wired : Bool) (event : WebhookEvent) : Tabled answers wired event := by
  refine ⟨evaluate_refines answers wired event,?_,?_⟩
  · intro authored decision
    obtain ⟨dropped,drops⟩ := loop_guard_drops wired authored
    rw [evaluate_refines]
    exact guarded_verdict drops decision
  · rw [evaluate_refines]
    exact visited_registrations

/-- The collaborators of the endpoint as callbacks. -/
def answersOf (deps : Deps) (table : ProcessedEvents) (raw_body : List UInt8) : Answers
  | .verify_hmac event => .ok (deps.verify_hmac raw_body event)
  | .resolve_dept event => .ok (deps.resolve_dept event)
  | .bot_account_ids => .ok deps.bot_account_ids
  | .is_processed delivery_id => .ok (deps.is_processed.is_processed table delivery_id)
  | .iter_count_for issue_key => .ok (deps.iter_count_for issue_key)
  | .reporter_for issue_key => .ok (deps.reporter_for issue_key)
  | .mention_set_for issue_key => .ok (deps.mention_set_for issue_key)
  | .burst_register event => .ok (deps.burst_register.bind fun register => register event)

def ChainError.ofRefusal : Refusal → ChainError
  | .hmac_invalid => .hmac_invalid
  | .dept_unresolved => .dept_unresolved

section
variable (deps : Deps) (table : ProcessedEvents) (raw_body : List UInt8) (event : WebhookEvent)

theorem loop_guard_endpoint :
    decides (answersOf deps table raw_body) deps.burst_register.isSome event .loop_guard =
      (WebhookEndpoint.stage_loop_guard deps event).map .ok := by
  simp only [decides,WebhookEndpoint.stage_loop_guard]
  cases known : event.actor_account_id with
  | none => cases bot_prefixed event <;> rfl
  | some actor => by_cases listed : actor ∈ deps.bot_account_ids <;> simp [onAnswer,answersOf,listed,drop]

theorem streamlit_bypass_endpoint :
    decides (answersOf deps table raw_body) deps.burst_register.isSome event .streamlit_bypass =
      (WebhookEndpoint.stage_streamlit_bypass event).map .ok := by
  simp only [decides,WebhookEndpoint.stage_streamlit_bypass]
  cases has_streamlit_bypass_tag event.body_text <;> rfl

theorem replay_dedup_endpoint :
    decides (answersOf deps table raw_body) deps.burst_register.isSome event .replay_dedup =
      (WebhookEndpoint.stage_replay_dedup deps table event).map .ok := by
  simp only [decides,WebhookEndpoint.stage_replay_dedup,answersOf,onAnswer]
  cases deps.is_processed.is_processed table event.delivery_id <;> rfl

theorem mention_filter_endpoint :
    decides (answersOf deps table raw_body) deps.burst_register.isSome event .mention_filter =
      (WebhookEndpoint.stage_mention_filter deps event).map .ok := by
  simp only [decides,WebhookEndpoint.stage_mention_filter,commented]
  by_cases comment : event.event_type = "jira:issue_commented"
  · cases keyed : event.issue_key with
    | none => simp [comment]
    | some issue_key =>
      simp only [comment,if_true,ne_eq,not_true_eq_false,if_false,answersOf,onAnswer]
      by_cases later : 1 < deps.iter_count_for issue_key
      · have past : ¬ deps.iter_count_for issue_key ≤ 1 := Int.not_le.mpr later
        cases event.actor_account_id.any (deps.mention_set_for issue_key).contains <;> simp [later,past,drop]
      · have early : deps.iter_count_for issue_key ≤ 1 := Int.not_lt.mp later
        cases known : event.actor_account_id with
        | none => simp [later]
        | some actor => by_cases same : actor = deps.reporter_for issue_key <;> simp [later,early,same,pass]
  · simp [comment]

theorem burst_debounce_endpoint :
    decides (answersOf deps table raw_body) deps.burst_register.isSome event .burst_debounce =
      (WebhookEndpoint.stage_burst_debounce deps event).map .ok := by
  simp only [decides,WebhookEndpoint.stage_burst_debounce,answersOf,onAnswer]
  cases deps.burst_register with
  | none => rfl
  | some register =>
    simp only [Option.isSome_some,if_true,Option.bind_some]
    cases register event with
    | none => rfl
    | some result => cases result <;> rfl

theorem endpoint_verdict :
    (WebhookEndpoint.evaluate deps table raw_body event).mapError ChainError.ofRefusal =
      verdict (answersOf deps table raw_body) deps.burst_register.isSome event := by
  have verify : decides (answersOf deps table raw_body) deps.burst_register.isSome event .verify_hmac =
      if deps.verify_hmac raw_body event then none else some (.error .hmac_invalid) := rfl
  have resolve : decides (answersOf deps table raw_body) deps.burst_register.isSome event .resolve_dept =
      if (deps.resolve_dept event).isSome then none else some (.error .dept_unresolved) := rfl
  simp only [verdict,PRIORITY,List.findSome?_cons,List.findSome?_nil,verify,resolve,loop_guard_endpoint,
    streamlit_bypass_endpoint,replay_dedup_endpoint,mention_filter_endpoint,burst_debounce_endpoint,
    WebhookEndpoint.evaluate]
  cases deps.verify_hmac raw_body event with
  | false => rfl
  | true =>
  cases deps.resolve_dept event with
  | none => rfl
  | some dept_id =>
  cases WebhookEndpoint.stage_loop_guard deps event with
  | some decision => rfl
  | none =>
  cases WebhookEndpoint.stage_streamlit_bypass event with
  | some decision => rfl
  | none =>
  cases WebhookEndpoint.stage_replay_dedup deps table event with
  | some decision => rfl
  | none =>
  cases WebhookEndpoint.stage_mention_filter deps event with
  | some decision => rfl
  | none => cases WebhookEndpoint.stage_burst_debounce deps event <;> rfl

end

/-- The decision of the `[bot:hear]` bypass. -/
def bypassed : FilterDecision := { reason := "streamlit_inline_reply_with_bypass", coalesced_with := [] }

/-- The arguments that the endpoint dispatches a passed event with. -/
def argumentsOf (deps : Deps) (request : HttpRequest) (event : WebhookEvent) (decision : FilterDecision)
    (workflow_id : String) : Arguments :=
  { event, decision, workflow_id, dept_id := audited_dept deps request event
    audit_resource := "webhook:" ++ request.provider.name, started_at_monotonic := deps.monotonic_clock }

/-- A passed event comes to its claim. -/
def Claimed (out : Outcomes) (event : WebhookEvent) : Prop :=
  (workflow_id_for event).isSome = true ∧ Licensed out.license ∧ out.claimable = true

def Started (deps : Deps) (request : HttpRequest) (event : WebhookEvent) (decision : FilterDecision)
    (result : Except RequestError Response) : Prop :=
  ∃ workflow_id, workflow_id_for event = some workflow_id ∧
    Dispatched (argumentsOf deps request event decision workflow_id) result

/-- The input of the event's workflow can be built. -/
def Buildable (repr : Json → String) (deps : Deps) (out : Outcomes) (request : HttpRequest) (event : WebhookEvent) : Prop :=
  (workflow_input_for_event repr out.departments out.environ event (audited_dept deps request event)
    event.delivery_id).isSome = true

section
variable {repr : Json → String} {loads : List UInt8 → Option Json} {deps : Deps} {out : Outcomes} {request : HttpRequest}
  {event : WebhookEvent} {s : RequestState} {decision : FilterDecision}

theorem passed_deduplicated_iff
    (passed : WebhookEndpoint.evaluate deps s.table request.raw_body event = .ok (.pass decision)) :
    Deduplicated (process_event repr deps out request event s).1 ↔
      Claimed out event ∧ s.table.is_processed event.delivery_id = true := by
  simp only [process_event,passed,Claimed]
  cases routed : workflow_id_for event with
  | none => simp [Deduplicated,bad_request,duplicate_response,drop_response]
  | some workflow_id =>
    simp only [Option.isSome_some,true_and,and_assoc]
    exact serve_deduplicated_iff _ out s

theorem passed_started_iff
    (passed : WebhookEndpoint.evaluate deps s.table request.raw_body event = .ok (.pass decision)) :
    Started deps request event decision (process_event repr deps out request event s).1 ↔
      Claimed out event ∧ s.table.is_processed event.delivery_id = false ∧ Buildable repr deps out request event := by
  simp only [process_event,passed,Claimed,Started]
  cases routed : workflow_id_for event with
  | none => simp
  | some workflow_id =>
    simp only [Option.some.injEq,exists_eq_left',Option.isSome_some,true_and,and_assoc]
    exact serve_dispatched_iff repr (argumentsOf deps request event decision workflow_id) out s

end

/-- An event that the bypass passes is answered as a duplicate exactly where it
    comes to its claim with a delivery id that is claimed, and its workflow is
    started exactly where it comes to its claim with one that is not. -/
theorem bypass_redelivery_iff (repr : Json → String) (loads : List UInt8 → Option Json) (deps : Deps) (out : Outcomes)
    (request : HttpRequest) (event : WebhookEvent) (s : RequestState) (received : receive_event loads request = .ok event)
    (passed : WebhookEndpoint.evaluate deps s.table request.raw_body event = .ok (.pass bypassed)) :
    (¬Deduplicated (process_webhook repr loads (some deps) out request s).1 ↔
        s.table.is_processed event.delivery_id = false ∨ ¬Claimed out event) ∧
      (Started deps request event bypassed (process_webhook repr loads (some deps) out request s).1 ↔
        s.table.is_processed event.delivery_id = false ∧ Claimed out event ∧ Buildable repr deps out request event) := by
  simp only [process_webhook,received]
  constructor
  · rw [passed_deduplicated_iff passed,not_and_or,Bool.not_eq_true]
    exact or_comm
  · rw [passed_started_iff passed]
    exact and_left_comm

/-! A reply with the tag, delivered twice under one identifier. -/

def heardReply : HttpRequest :=
  { provider := .jira, headers := [("X-Atlassian-Webhook-Identifier","d-1")]
    raw_body := commentBody "PAY-7" "yes [bot:hear]" }

/-- Parses the body of the reply. -/
def heardLoads (raw : List UInt8) : Option Json :=
  [(commentBody "PAY-7" "yes [bot:hear]",commentJson "PAY-7" "yes [bot:hear]")].lookup raw

def heardEvent : WebhookEvent :=
  { provider := "jira", event_type := "jira:issue_commented", delivery_id := "d-1", actor_account_id := none
    body_text := some "yes [bot:hear]", project_key := none, repo_slug := none, issue_key := some "PAY-7", pr_id := none
    raw_payload := [("webhookEvent",.str "jira:issue_commented"),("comment",.obj [("body",.str "yes [bot:hear]")]),
      ("issue",.obj [("key",.str "PAY-7")]),("__webhook_signature__",.str "")] }

/-- What one delivery of the reply leaves behind. -/
def afterReply : RequestState :=
  (process_webhook (fun _ => "") heardLoads (some (accepting .table)) served heardReply emptyTable).2

theorem reply_started :
    Started (accepting .table) heardReply heardEvent bypassed
      (process_webhook (fun _ => "") heardLoads (some (accepting .table)) served heardReply emptyTable).1 :=
  (bypass_redelivery_iff (fun _ => "") heardLoads (accepting .table) served heardReply heardEvent emptyTable
    rfl rfl).2.mpr ⟨rfl,⟨rfl,trivial,rfl⟩,rfl⟩

theorem reply_swallowed :
    receive_event heardLoads heardReply = .ok heardEvent ∧
      WebhookEndpoint.evaluate (accepting .table) afterReply.table heardReply.raw_body heardEvent = .ok (.pass bypassed) ∧
      (process_webhook (fun _ => "") heardLoads (some (accepting .table)) served heardReply afterReply).1 =
        .ok duplicate_response := by
  exact ⟨rfl,rfl,rfl⟩

end Automation.FilterChain
