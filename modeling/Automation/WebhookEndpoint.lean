import Automation.WebhookClaim
import Automation.AgentMessages

/-!
`POST /webhooks/jira` and `POST /webhooks/bitbucket`: the event of a request, the
filter chain and the dispatch of the events that pass it.

The delivery id is the idempotency key of two places: the `replay_dedup` stage
of the chain and the claim in `processed_events`. `_resolve_delivery_id` promises
a fallback derived from the payload where the header is missing, but gives the
empty id, so requests without the header share one key (`independent_iff`).
-/
namespace Automation.WebhookEndpoint
open Automation.Effects Automation.PyText Automation.Regex Automation.WebhookClaim
open Automation.AgentMessages (ISSUE_KEY_RE)

inductive Provider where
  | jira
  | bitbucket
  deriving DecidableEq

def Provider.name : Provider → String
  | .jira => "jira"
  | .bitbucket => "bitbucket"

/-- `_HEADER_HMAC_BY_PROVIDER`. -/
def Provider.hmacHeader : Provider → String
  | .jira => "X-Atlassian-Webhook-Signature"
  | .bitbucket => "X-Hub-Signature"

/-- `_HEADER_DELIVERY_BY_PROVIDER`. -/
def Provider.deliveryHeader : Provider → String
  | .jira => "X-Atlassian-Webhook-Identifier"
  | .bitbucket => "X-Request-UUID"

/-- A request to the endpoint of the provider. -/
structure HttpRequest where
  provider : Provider
  headers : List (String × String)
  raw_body : List UInt8

/-- `request.headers.get(name) or ""`; the names of headers ignore case. -/
def HttpRequest.header (request : HttpRequest) (name : String) : String :=
  ((request.headers.find? fun field => lower field.1 == lower name).map Prod.snd).getD ""

def resolve_delivery_id (request : HttpRequest) : String := request.header request.provider.deliveryHeader

def JIRA_SUPPORTED_EVENTS : List String :=
  ["jira:issue_created","jira:issue_assigned","jira:issue_updated","jira:issue_commented"]

def BITBUCKET_SUPPORTED_EVENTS : List String :=
  ["pullrequest:created","pullrequest:commented","pullrequest:updated"]

def BITBUCKET_LOOP_GUARD_EVENTS : List String := ["pullrequest:fulfilled"]

def event_type_of (request : HttpRequest) (payload : Json) : String :=
  match request.provider with
  | .jira => (payload.get "webhookEvent").asStr.getD ""
  | .bitbucket =>
    let key := request.header "X-Event-Key"
    if key ≠ "" then key else ((payload.get "event").orElse (payload.get "eventKey")).asStr.getD ""

def coerce_str (value : Json) : Option String := value.asStr.filter (· ≠ "")

/-- A `bool` is an `int` to Python and is rejected; here it is a value of its own. -/
def coerce_int : Json → Option Int
  | .int n => some n
  | _ => none

def normalize_jira_event (raw_payload : List (String × Json)) (delivery_id event_type : String) : WebhookEvent :=
  let payload := Json.obj raw_payload
  let comment := payload.get "comment"
  let issue := payload.get "issue"
  { provider := "jira"
    event_type := if event_type ≠ "" then event_type else (coerce_str (payload.get "webhookEvent")).getD ""
    delivery_id
    actor_account_id := (coerce_str ((payload.get "user").get "accountId")).or
      (coerce_str ((comment.get "author").get "accountId"))
    body_text := coerce_str (comment.get "body")
    project_key := (coerce_str (((issue.get "fields").get "project").get "key")).or
      (coerce_str ((payload.get "project").get "key"))
    repo_slug := none
    issue_key := coerce_str (issue.get "key")
    pr_id := none
    raw_payload }

def normalize_bitbucket_event (raw_payload : List (String × Json)) (delivery_id event_type : String) : WebhookEvent :=
  let payload := Json.obj raw_payload
  let actor := payload.get "actor"
  let pr := payload.get "pullrequest"
  let repo := payload.get "repository"
  { provider := "bitbucket"
    event_type
    delivery_id
    actor_account_id := (coerce_str (actor.get "account_id")).or (coerce_str (actor.get "uuid"))
    body_text := (coerce_str (((payload.get "comment").get "content").get "raw")).or (coerce_str (pr.get "title"))
    project_key := none
    repo_slug := (coerce_str (repo.get "full_name")).or (coerce_str (repo.get "slug"))
    issue_key := none
    pr_id := coerce_int (pr.get "id")
    raw_payload }

def bad_request (reason : String) : Response :=
  { status_code := 400, body := .obj [("status",.str "bad_request"),("reason",.str reason)] }

/-- The signature is stored with the payload. The body is stored there too; its
    bytes are no JSON value and stay with the request. -/
def augment_payload_with_hmac (payload : List (String × Json)) (signature : String) : List (String × Json) :=
  payload.filter (fun field => field.1 ≠ "__webhook_signature__") ++ [("__webhook_signature__",.str signature)]

section
variable (loads : List UInt8 → Option Json)

/-- `loads` decodes and parses a body; `none` stands for either exception. -/
def safe_json_loads (raw : List UInt8) : Option (List (String × Json)) :=
  if raw.isEmpty then some []
  else
    match loads raw with
    | some (.obj fields) => some fields
    | _ => none

/-- The event of a request, or the answer to a request without one and its audit. -/
def receive_event (request : HttpRequest) : Except (Response × AuditEvent) WebhookEvent :=
  let resource := "webhook:" ++ request.provider.name
  let delivery_id := resolve_delivery_id request
  match safe_json_loads loads request.raw_body with
  | none => .error (bad_request "invalid_json",
      { action := "webhook_bad_request", resource, result := "denied", dept_id := none
        payload := [("reason",.str "invalid_json"),("delivery_id",.str delivery_id)] })
  | some payload =>
    let event_type := event_type_of request (.obj payload)
    let ignored := ({ status_code := 200
                      body := .obj [("status",.str "ignored"),("reason",.str "webhook_event_ignored"),
                        ("event_type",.str event_type)] },
      { action := "webhook_event_ignored", resource, result := "ok", dept_id := none
        payload := [("delivery_id",.str delivery_id),("event_type",.str event_type),
          ("provider",.str request.provider.name)] })
    let augmented := augment_payload_with_hmac payload (request.header request.provider.hmacHeader)
    match request.provider with
    | .jira =>
      if JIRA_SUPPORTED_EVENTS.contains event_type then .ok (normalize_jira_event augmented delivery_id event_type)
      else .error ignored
    | .bitbucket =>
      if BITBUCKET_LOOP_GUARD_EVENTS.contains event_type then
        .error ({ status_code := 200
                  body := .obj [("status",.str "dropped"),("reason",.str "loop_guard_dropped"),
                    ("event_type",.str event_type)] },
          { action := "loop_guard_dropped", resource, result := "ok", dept_id := none
            payload := [("delivery_id",.str delivery_id),("event_type",.str event_type),
              ("reason_detail",.str "bitbucket_pullrequest_fulfilled")] })
      else if BITBUCKET_SUPPORTED_EVENTS.contains event_type then
        .ok (normalize_bitbucket_event augmented delivery_id event_type)
      else .error ignored

end

def automation_workflow_id_jira (issue_key : String) : Option String :=
  if matchLine ISSUE_KEY_RE issue_key.toList then some ("automation-jira-" ++ issue_key) else none

def isSlugChar (c : Char) : Bool := ('a' ≤ c && c ≤ 'z') || c.isDigit

/-- `^[a-z0-9](?:[a-z0-9-]*[a-z0-9])?$`. -/
def REPO_SLUG_RE : Pattern :=
  .seq (.one isSlugChar) (opt (.seq (.star (.one fun c => isSlugChar c || c == '-')) (.one isSlugChar)))

def bitbucket_pr_workflow_id (repo_slug : String) (pr_id : Int) : Option String :=
  if matchLine REPO_SLUG_RE repo_slug.toList && !contains repo_slug "--" && decide (1 ≤ pr_id) then
    some ("automation-bb-" ++ repo_slug ++ "-pr-" ++ toString pr_id)
  else none

/-- `while "--" in slug: slug = slug.replace("--","-")`, after which every run of
    dashes is one dash. -/
def collapseDashes : List Char → List Char
  | '-' :: '-' :: cs => collapseDashes ('-' :: cs)
  | c :: cs => c :: collapseDashes cs
  | [] => []

def workflow_id_for (event : WebhookEvent) : Option String :=
  if event.provider = "jira" then event.issue_key.bind automation_workflow_id_jira
  else
    match event.repo_slug, event.pr_id with
    | some repo_slug, some pr_id =>
      let slug := collapseDashes (stripBy (· == '-') (lower (replaceChar '/' '-' repo_slug)).toList)
      if slug.isEmpty then none else bitbucket_pr_workflow_id (.ofList slug) pr_id
    | _, _ => none

inductive BurstRegisterResult where
  | coalesce_emit
  | coalesce_dropped (coalesced_with : List String)

/-- The probe that the chain is wired with: of the table, or the placeholder that
    leaves all deduplication to the claim. -/
inductive Probe where
  | table
  | deferred

def Probe.is_processed (probe : Probe) (table : ProcessedEvents) (delivery_id : String) : Bool :=
  match probe with
  | .table => table.is_processed delivery_id
  | .deferred => false

/-- The collaborators as they answer one request: the callbacks of the chain, and
    the resolvers of the audited department, `none` also where one is not wired or raises. -/
structure Deps where
  verify_hmac : List UInt8 → WebhookEvent → Bool
  resolve_dept : WebhookEvent → Option String
  bot_account_ids : List String
  is_processed : Probe
  mention_set_for : String → List String
  iter_count_for : String → Int
  reporter_for : String → String
  burst_register : Option (WebhookEvent → Option BurstRegisterResult)
  jira_dept_resolver : String → Option String
  bitbucket_dept_resolver : String → Option String
  monotonic_clock : Int

inductive Verdict where
  | drop (decision : FilterDecision)
  | pass (decision : FilterDecision)

/-- `^\s*\[bot:`. -/
def BOT_PREFIX_REGEX : Pattern := .seq (.star (.one isSpace)) (literal "[bot:".toList)

def has_streamlit_bypass_tag (body_text : Option String) : Bool :=
  body_text.any fun text => (searchLiteral "[bot:hear]".toList text.toList).isSome

/-- The event has no actor and reads like the bot's own output. -/
def bot_prefixed (event : WebhookEvent) : Bool :=
  event.actor_account_id.isNone && event.body_text.any fun text => matchPrefix BOT_PREFIX_REGEX text.toList

def REASON_DUPLICATE_EVENT_DROPPED : String := "duplicate_event_dropped"

def duplicate_dropped : FilterDecision := { reason := REASON_DUPLICATE_EVENT_DROPPED, coalesced_with := [] }

inductive Refusal where
  | hmac_invalid
  | dept_unresolved

section
variable (deps : Deps)

def stage_loop_guard (event : WebhookEvent) : Option Verdict :=
  match event.actor_account_id with
  | some actor =>
    if deps.bot_account_ids.contains actor then some (.drop { reason := "loop_guard_dropped", coalesced_with := [] })
    else none
  | none =>
    if bot_prefixed event then some (.drop { reason := "loop_guard_regex_dropped", coalesced_with := [] }) else none

def stage_streamlit_bypass (event : WebhookEvent) : Option Verdict :=
  if has_streamlit_bypass_tag event.body_text then
    some (.pass { reason := "streamlit_inline_reply_with_bypass", coalesced_with := [] })
  else none

def stage_replay_dedup (table : ProcessedEvents) (event : WebhookEvent) : Option Verdict :=
  if deps.is_processed.is_processed table event.delivery_id then some (.drop duplicate_dropped) else none

def stage_mention_filter (event : WebhookEvent) : Option Verdict :=
  if event.event_type ≠ "jira:issue_commented" then none
  else
    match event.issue_key with
    | none => none
    | some issue_key =>
      let iter_count := deps.iter_count_for issue_key
      if iter_count ≤ 1 ∧ event.actor_account_id = some (deps.reporter_for issue_key) then
        some (.pass { reason := "mention_filter_first_iter_exception", coalesced_with := [] })
      else if 1 < iter_count ∧ ¬event.actor_account_id.any (deps.mention_set_for issue_key).contains then
        some (.drop { reason := "comment_ignored_unauthorized_actor", coalesced_with := [] })
      else none

def stage_burst_debounce (event : WebhookEvent) : Option Verdict :=
  match deps.burst_register.bind fun register => register event with
  | some (.coalesce_dropped coalesced_with) => some (.drop { reason := "burst_coalesced", coalesced_with })
  | _ => none

def evaluate (table : ProcessedEvents) (raw_body : List UInt8) (event : WebhookEvent) : Except Refusal Verdict :=
  if !deps.verify_hmac raw_body event then .error .hmac_invalid
  else if (deps.resolve_dept event).isNone then .error .dept_unresolved
  else
    match stage_loop_guard deps event with
    | some verdict => .ok verdict
    | none =>
      match stage_streamlit_bypass event with
      | some verdict => .ok verdict
      | none =>
        match stage_replay_dedup deps table event with
        | some verdict => .ok verdict
        | none =>
          match stage_mention_filter deps event with
          | some verdict => .ok verdict
          | none =>
            match stage_burst_debounce deps event with
            | some verdict => .ok verdict
            | none => .ok (.pass { reason := "filter_chain_pass", coalesced_with := [] })

end

def drop_response (decision : FilterDecision) : Response :=
  { status_code := 200
    body := .obj ([("status",.str "dropped"),("reason",.str decision.reason)] ++
      if decision.coalesced_with.isEmpty then []
      else [("coalesced_with",.arr (decision.coalesced_with.map .str))]) }

def noted (s : RequestState) (event : AuditEvent) : RequestState :=
  { s with audits := s.audits ++ [event] }

/-- The department for the audit rows, best effort. -/
def audited_dept (deps : Deps) (request : HttpRequest) (event : WebhookEvent) : Option String :=
  match request.provider with
  | .jira => event.project_key.bind deps.jira_dept_resolver
  | .bitbucket => event.repo_slug.bind deps.bitbucket_dept_resolver

section
variable (repr : Json → String) (loads : List UInt8 → Option Json)

/-- From the normalised event on. -/
def process_event (deps : Deps) (out : Outcomes) (request : HttpRequest) (event : WebhookEvent) (s : RequestState) :
    Except RequestError Response × RequestState :=
  let dept_id := audited_dept deps request event
  let resource := "webhook:" ++ request.provider.name
  let named := [("delivery_id",Json.str event.delivery_id),("event_type",.str event.event_type)]
  match evaluate deps s.table request.raw_body event with
  | .error .hmac_invalid =>
    (.ok { status_code := 401
           body := .obj [("status",.str "unauthorized"),("reason",.str "webhook_hmac_invalid")] },
      noted s { action := "webhook_hmac_invalid", resource, result := "denied", dept_id, payload := named })
  | .error .dept_unresolved =>
    (.ok (bad_request "webhook_dept_unresolved"),
      noted s
        { action := "webhook_dept_unresolved", resource, result := "denied", dept_id
          payload := named ++ [("project_key",.ofOption event.project_key),("repo_slug",.ofOption event.repo_slug)] })
  | .ok (.drop decision) =>
    (.ok (drop_response decision),
      noted s
        { action := decision.reason, resource, result := "ok", dept_id
          payload := named ++ [("coalesced_with",.arr (decision.coalesced_with.map .str))] })
  | .ok (.pass decision) =>
    match workflow_id_for event with
    | none =>
      (.ok (bad_request "missing_workflow_id_inputs"),
        noted s
          { action := "webhook_bad_request", resource, result := "denied", dept_id
            payload := ("reason",.str "missing_workflow_id_inputs") :: named ++
              [("issue_key",.ofOption event.issue_key),("repo_slug",.ofOption event.repo_slug),
                ("pr_id",(event.pr_id.map Json.int).getD .null)] })
    | some workflow_id =>
      serve repr { event, decision, workflow_id, dept_id, audit_resource := resource
                   started_at_monotonic := deps.monotonic_clock } out s

/-- The endpoint answers 503 until it is wired. -/
def process_webhook (wired : Option Deps) (out : Outcomes) (request : HttpRequest) (s : RequestState) :
    Except RequestError Response × RequestState :=
  match wired with
  | none =>
    (.ok { status_code := 503
           body := .obj [("status",.str "service_unavailable"),("reason",.str "webhooks_not_wired")] },s)
  | some deps =>
    match receive_event loads request with
    | .error (response,audit) => (.ok response,noted s audit)
    | .ok event => process_event repr deps out request event s

end

/-- Answered as a duplicate, by the claim or by the `replay_dedup` stage. -/
def Deduplicated (result : Except RequestError Response) : Prop :=
  result = .ok duplicate_response ∨ result = .ok (drop_response duplicate_dropped)

section
variable (repr : Json → String) (loads : List UInt8 → Option Json)

/-- Whatever the collaborators and the steps answer, and from every state: the
    second request is a duplicate after the first only where it is one without it. -/
def Independent (first second : HttpRequest) : Prop :=
  ∀ deps out deps' out' s,
    Deduplicated (process_webhook repr loads deps' out' second (process_webhook repr loads deps out first s).2).1 →
    Deduplicated (process_webhook repr loads deps' out' second s).1

/-- The request has an event that can come to its claim. -/
def Claims (request : HttpRequest) : Prop :=
  ∃ event, receive_event loads request = .ok event ∧ bot_prefixed event = false ∧
    (workflow_id_for event).isSome = true

/-- The request has an event that can come to the `replay_dedup` stage or to its claim. -/
def Deduplicable (request : HttpRequest) : Prop :=
  ∃ event, receive_event loads request = .ok event ∧ bot_prefixed event = false ∧
    (has_streamlit_bypass_tag event.body_text = false ∨ (workflow_id_for event).isSome = true)

end

section
variable {loads : List UInt8 → Option Json} {request : HttpRequest} {event : WebhookEvent}

private theorem received_delivery_id (received : receive_event loads request = .ok event) :
    event.delivery_id = resolve_delivery_id request := by
  revert received
  simp only [receive_event]
  cases safe_json_loads loads request.raw_body with
  | none => exact nofun
  | some payload =>
    cases request.provider with
    | jira =>
      simp only
      split
      · rintro ⟨⟩
        rfl
      · exact nofun
    | bitbucket =>
      simp only
      split
      · exact nofun
      · split
        · rintro ⟨⟩
          rfl
        · exact nofun

private theorem loop_guard_prefixed {deps : Deps} (botlike : bot_prefixed event = true) :
    stage_loop_guard deps event = some (.drop { reason := "loop_guard_regex_dropped", coalesced_with := [] }) := by
  have unknown : event.actor_account_id = none := by
    simp only [bot_prefixed,Bool.and_eq_true,Option.isNone_iff_eq_none] at botlike
    exact botlike.1
  simp [stage_loop_guard,unknown,botlike]

private theorem evaluate_agree (deps : Deps) {table other : ProcessedEvents} (raw_body : List UInt8)
    (same : table.is_processed event.delivery_id = other.is_processed event.delivery_id) :
    evaluate deps table raw_body event = evaluate deps other raw_body event := by
  have probed : stage_replay_dedup deps table event = stage_replay_dedup deps other event := by
    unfold stage_replay_dedup Probe.is_processed
    cases deps.is_processed with
    | table => simp only [same]
    | deferred => rfl
  simp only [evaluate,probed]

private theorem evaluate_checked {deps : Deps} (table : ProcessedEvents) (raw_body : List UInt8)
    (verified : deps.verify_hmac raw_body event = true) (resolved : (deps.resolve_dept event).isNone = false)
    (unguarded : stage_loop_guard deps event = none) (untagged : has_streamlit_bypass_tag event.body_text = false) :
    evaluate deps table raw_body event =
      match stage_replay_dedup deps table event with
      | some verdict => .ok verdict
      | none =>
        match stage_mention_filter deps event with
        | some verdict => .ok verdict
        | none =>
          match stage_burst_debounce deps event with
          | some verdict => .ok verdict
          | none => .ok (.pass { reason := "filter_chain_pass", coalesced_with := [] }) := by
  simp [evaluate,verified,resolved,unguarded,stage_streamlit_bypass,untagged]

private theorem evaluate_tagged {deps : Deps} (table : ProcessedEvents) (raw_body : List UInt8)
    (verified : deps.verify_hmac raw_body event = true) (resolved : (deps.resolve_dept event).isNone = false)
    (unguarded : stage_loop_guard deps event = none) (tagged : has_streamlit_bypass_tag event.body_text = true) :
    evaluate deps table raw_body event =
      .ok (.pass { reason := "streamlit_inline_reply_with_bypass", coalesced_with := [] }) := by
  simp [evaluate,verified,resolved,unguarded,stage_streamlit_bypass,tagged]

private theorem loop_guard_reason {deps : Deps} {verdict : Verdict} (guarded : stage_loop_guard deps event = some verdict) :
    ∃ decision, verdict = .drop decision ∧ decision.reason ≠ REASON_DUPLICATE_EVENT_DROPPED := by
  revert guarded
  unfold stage_loop_guard
  split
  · split
    · rintro ⟨⟩
      exact ⟨_,rfl,by decide⟩
    · exact nofun
  · split
    · rintro ⟨⟩
      exact ⟨_,rfl,by decide⟩
    · exact nofun

private theorem mention_filter_reason {deps : Deps} {decision : FilterDecision}
    (dropped : stage_mention_filter deps event = some (.drop decision)) :
    decision.reason ≠ REASON_DUPLICATE_EVENT_DROPPED := by
  revert dropped
  unfold stage_mention_filter
  split
  · exact nofun
  · split
    · exact nofun
    · simp only
      split
      · exact nofun
      · split
        · rintro ⟨⟩
          decide
        · exact nofun

private theorem burst_debounce_reason {deps : Deps} {verdict : Verdict}
    (coalesced : stage_burst_debounce deps event = some verdict) :
    ∃ decision, verdict = .drop decision ∧ decision.reason ≠ REASON_DUPLICATE_EVENT_DROPPED := by
  revert coalesced
  unfold stage_burst_debounce
  split
  · rintro ⟨⟩
    exact ⟨_,rfl,by simp [REASON_DUPLICATE_EVENT_DROPPED]⟩
  · exact nofun

private theorem evaluate_drop {deps : Deps} {table : ProcessedEvents} {raw_body : List UInt8} {decision : FilterDecision}
    (dropped : evaluate deps table raw_body event = .ok (.drop decision))
    (duplicate : decision.reason = REASON_DUPLICATE_EVENT_DROPPED) :
    bot_prefixed event = false ∧ has_streamlit_bypass_tag event.body_text = false ∧
      table.is_processed event.delivery_id = true := by
  cases verified : deps.verify_hmac raw_body event with
  | false => simp [evaluate,verified] at dropped
  | true =>
  cases resolved : (deps.resolve_dept event).isNone with
  | true => simp [evaluate,verified,resolved] at dropped
  | false =>
  cases guarded : stage_loop_guard deps event with
  | some verdict =>
    obtain ⟨other,rfl,different⟩ := loop_guard_reason guarded
    simp [evaluate,verified,resolved,guarded] at dropped
    subst dropped
    exact absurd duplicate different
  | none =>
  have heard : bot_prefixed event = false := by
    rw [← Bool.not_eq_true]
    intro botlike
    simp [loop_guard_prefixed botlike] at guarded
  cases tagged : has_streamlit_bypass_tag event.body_text with
  | true => simp [evaluate_tagged table raw_body verified resolved guarded tagged] at dropped
  | false =>
  refine ⟨heard,rfl,?_⟩
  rw [evaluate_checked table raw_body verified resolved guarded tagged] at dropped
  cases replayed : stage_replay_dedup deps table event with
  | some verdict =>
    revert replayed
    unfold stage_replay_dedup Probe.is_processed
    cases deps.is_processed with
    | deferred => exact nofun
    | table =>
      simp only
      split
      · next processed => exact fun _ => processed
      · exact nofun
  | none =>
    rw [replayed] at dropped
    cases mentioned : stage_mention_filter deps event with
    | some verdict =>
      simp only [mentioned,Except.ok.injEq] at dropped
      subst dropped
      exact absurd duplicate (mention_filter_reason mentioned)
    | none =>
      cases coalesced : stage_burst_debounce deps event with
      | none => simp [mentioned,coalesced] at dropped
      | some verdict =>
        obtain ⟨other,rfl,different⟩ := burst_debounce_reason coalesced
        simp only [mentioned,coalesced,Except.ok.injEq,Verdict.drop.injEq] at dropped
        subst dropped
        exact absurd duplicate different

private theorem evaluate_pass {deps : Deps} {table : ProcessedEvents} {raw_body : List UInt8} {decision : FilterDecision}
    (passed : evaluate deps table raw_body event = .ok (.pass decision)) : bot_prefixed event = false := by
  rw [← Bool.not_eq_true]
  intro botlike
  revert passed
  unfold evaluate
  split
  · exact nofun
  · split
    · exact nofun
    · rw [loop_guard_prefixed botlike]
      exact nofun

end

section
variable {repr : Json → String} {loads : List UInt8 → Option Json} {request : HttpRequest}

private theorem drop_reason {decision : FilterDecision} (same : drop_response decision = drop_response duplicate_dropped) :
    decision.reason = REASON_DUPLICATE_EVENT_DROPPED := by
  simp only [drop_response,Response.mk.injEq,Json.obj.injEq,true_and] at same
  injection same with _ rest
  injection rest with reason _
  simpa [duplicate_dropped] using reason

private theorem drop_not_claimed (decision : FilterDecision) : drop_response decision ≠ duplicate_response := by
  simp [drop_response,duplicate_response]

theorem serve_deduplicated_iff (args : Arguments) (out : Outcomes) (s : RequestState) :
    Deduplicated (serve repr args out s).1 ↔
      Licensed out.license ∧ out.claimable = true ∧ s.table.is_processed args.event.delivery_id = true := by
  rw [← serve_duplicate_iff repr args out s]
  constructor
  · rintro (claimed | dropped)
    · exact claimed
    · rcases serve_response repr dropped with same | other
      · exact absurd same (drop_not_claimed _)
      · exact absurd rfl other
  · exact .inl

section
variable {deps : Deps} {out : Outcomes} {event : WebhookEvent} {s : RequestState}

private theorem deduplicated_claimed (deduplicated : Deduplicated (process_event repr deps out request event s).1) :
    s.table.is_processed event.delivery_id = true ∧ bot_prefixed event = false ∧
      (has_streamlit_bypass_tag event.body_text = false ∨ (workflow_id_for event).isSome = true) := by
  revert deduplicated
  unfold process_event
  cases verdict : evaluate deps s.table request.raw_body event with
  | error refusal =>
    cases refusal with
    | hmac_invalid => simp [Deduplicated,duplicate_response,drop_response]
    | dept_unresolved => simp [Deduplicated,duplicate_response,drop_response,bad_request]
  | ok verdict' =>
    cases verdict' with
    | drop decision =>
      rintro (claimed | dropped)
      · simp only [Except.ok.injEq] at claimed
        exact absurd claimed (drop_not_claimed decision)
      · simp only [Except.ok.injEq] at dropped
        obtain ⟨heard,untagged,processed⟩ := evaluate_drop verdict (drop_reason dropped)
        exact ⟨processed,heard,.inl untagged⟩
    | pass decision =>
      cases id : workflow_id_for event with
      | none => simp [Deduplicated,duplicate_response,drop_response,bad_request]
      | some workflow_id =>
        intro deduplicated
        obtain ⟨-,-,processed⟩ := (serve_deduplicated_iff _ out s).mp deduplicated
        exact ⟨processed,evaluate_pass verdict,.inr rfl⟩

private theorem deduplicated_agree {t : RequestState}
    (same : s.table.is_processed event.delivery_id = t.table.is_processed event.delivery_id)
    (deduplicated : Deduplicated (process_event repr deps out request event s).1) :
    Deduplicated (process_event repr deps out request event t).1 := by
  revert deduplicated
  unfold process_event
  rw [evaluate_agree deps request.raw_body same]
  cases evaluate deps t.table request.raw_body event with
  | error refusal =>
    cases refusal with
    | hmac_invalid => exact id
    | dept_unresolved => exact id
  | ok verdict =>
    cases verdict with
    | drop decision => exact id
    | pass decision =>
      cases workflow_id_for event with
      | none => exact id
      | some workflow_id =>
        simp only [serve_deduplicated_iff,same]
        exact id

private theorem unclaimed_table (never : ¬(bot_prefixed event = false ∧ (workflow_id_for event).isSome = true)) :
    (process_event repr deps out request event s).2.table = s.table := by
  unfold process_event
  cases verdict : evaluate deps s.table request.raw_body event with
  | error refusal =>
    cases refusal with
    | hmac_invalid => rfl
    | dept_unresolved => rfl
  | ok verdict' =>
    cases verdict' with
    | drop decision => rfl
    | pass decision =>
      cases id : workflow_id_for event with
      | none => rfl
      | some workflow_id => exact absurd ⟨evaluate_pass verdict,by rw [id]; rfl⟩ never

private theorem process_other {other : String} (distinct : other ≠ event.delivery_id) :
    (process_event repr deps out request event s).2.table.is_processed other = s.table.is_processed other := by
  unfold process_event
  cases evaluate deps s.table request.raw_body event with
  | error refusal =>
    cases refusal with
    | hmac_invalid => rfl
    | dept_unresolved => rfl
  | ok verdict =>
    cases verdict with
    | drop decision => rfl
    | pass decision =>
      cases workflow_id_for event with
      | none => rfl
      | some workflow_id => exact serve_other repr _ out s distinct

end

/-- Collaborators that accept every event that they can. -/
def accepting (probe : Probe) : Deps :=
  { verify_hmac := fun _ _ => true, resolve_dept := fun _ => some "payments", bot_account_ids := []
    is_processed := probe, mention_set_for := fun _ => [], iter_count_for := fun _ => 0, reporter_for := fun _ => ""
    burst_register := none, jira_dept_resolver := fun _ => none, bitbucket_dept_resolver := fun _ => none
    monotonic_clock := 0 }

/-- Steps that all succeed. -/
def served : Outcomes := { outage with start := .started, releasable := true }

def emptyTable : RequestState := ⟨⟨[],List.nodup_nil⟩,[]⟩

section
variable {event : WebhookEvent}

private theorem accepting_unguarded (probe : Probe) (heard : bot_prefixed event = false) :
    stage_loop_guard (accepting probe) event = none := by
  unfold stage_loop_guard
  split
  · simp [accepting]
  · simp [heard]

private theorem accepting_mentions (probe : Probe) :
    stage_mention_filter (accepting probe) event = none ∨
      ∃ decision, stage_mention_filter (accepting probe) event = some (.pass decision) := by
  unfold stage_mention_filter
  split
  · exact .inl rfl
  · split
    · exact .inl rfl
    · by_cases reporter : event.actor_account_id = some ""
      · right
        exact ⟨_,by simp [accepting,reporter]; rfl⟩
      · left
        simp [accepting,reporter]

private theorem accepting_passes (heard : bot_prefixed event = false) (table : ProcessedEvents) (raw_body : List UInt8) :
    ∃ decision, evaluate (accepting .deferred) table raw_body event = .ok (.pass decision) := by
  have unguarded := accepting_unguarded .deferred heard
  cases tagged : has_streamlit_bypass_tag event.body_text with
  | true => exact ⟨_,evaluate_tagged table raw_body rfl rfl unguarded tagged⟩
  | false =>
    have unprobed : stage_replay_dedup (accepting .deferred) table event = none := rfl
    rw [evaluate_checked table raw_body rfl rfl unguarded tagged,unprobed]
    have mentions : stage_mention_filter (accepting .deferred) event = none ∨ _ := accepting_mentions .deferred
    rcases mentions with silent | ⟨decision,passed⟩
    · rw [silent]
      exact ⟨_,rfl⟩
    · rw [passed]
      exact ⟨decision,rfl⟩

private theorem accepting_drops (heard : bot_prefixed event = false)
    (untagged : has_streamlit_bypass_tag event.body_text = false) {table : ProcessedEvents} (raw_body : List UInt8)
    (processed : table.is_processed event.delivery_id = true) :
    evaluate (accepting .table) table raw_body event = .ok (.drop duplicate_dropped) := by
  have replayed : stage_replay_dedup (accepting .table) table event = some (.drop duplicate_dropped) := by
    simp [stage_replay_dedup,accepting,Probe.is_processed,processed]
  rw [evaluate_checked table raw_body rfl rfl (accepting_unguarded .table heard) untagged,replayed]

private theorem served_builds (repr : Json → String) (args : Arguments) : ∃ input, inputOf repr args served = some input := by
  cases dept : args.dept_id with
  | none => exact ⟨_,by simp [inputOf,dept,workflow_input_for_event,served,outage,departments_config,tupleOr,Json.get,Json.truthy]; rfl⟩
  | some id => exact ⟨_,by simp [inputOf,dept,workflow_input_for_event,served,outage,departments_config,tupleOr,Json.get,Json.truthy]; rfl⟩

variable {repr : Json → String} {request : HttpRequest}

private theorem accepting_claims (heard : bot_prefixed event = false) (routed : (workflow_id_for event).isSome = true) :
    (process_event repr (accepting .deferred) served request event emptyTable).2.table.is_processed event.delivery_id
      = true := by
  obtain ⟨decision,passed⟩ := accepting_passes heard emptyTable.table request.raw_body
  obtain ⟨workflow_id,id⟩ := Option.isSome_iff_exists.mp routed
  simp only [process_event,passed,id]
  obtain ⟨input,built⟩ := served_builds repr
    { event, decision, workflow_id, dept_id := audited_dept (accepting .deferred) request event
      audit_resource := "webhook:" ++ request.provider.name, started_at_monotonic := (accepting .deferred).monotonic_clock }
  exact serve_claims repr rfl rfl rfl built rfl

private theorem accepting_deduplicates {s : RequestState} (processed : s.table.is_processed event.delivery_id = true)
    (heard : bot_prefixed event = false)
    (reaches : has_streamlit_bypass_tag event.body_text = false ∨ (workflow_id_for event).isSome = true) :
    ∃ probe, Deduplicated (process_event repr (accepting probe) served request event s).1 := by
  rcases reaches with untagged | routed
  · refine ⟨.table,.inr ?_⟩
    simp only [process_event,accepting_drops heard untagged request.raw_body processed]
  · refine ⟨.deferred,?_⟩
    obtain ⟨decision,passed⟩ := accepting_passes heard s.table request.raw_body
    obtain ⟨workflow_id,id⟩ := Option.isSome_iff_exists.mp routed
    simp only [process_event,passed,id]
    exact (serve_deduplicated_iff _ served s).mpr ⟨trivial,rfl,processed⟩

end

/-- Processing one request makes no duplicate of another exactly where their
    delivery ids differ, or the first cannot come to its claim, or the second
    cannot come to the stage or to its claim. -/
theorem independent_iff (repr : Json → String) (loads : List UInt8 → Option Json) (first second : HttpRequest) :
    Independent repr loads first second ↔
      resolve_delivery_id first ≠ resolve_delivery_id second ∨ ¬Claims loads first ∨ ¬Deduplicable loads second := by
  constructor
  · intro independent
    by_contra shared
    push Not at shared
    obtain ⟨same,⟨event,received,heard,routed⟩,⟨event',received',heard',reaches⟩⟩ := shared
    have ids : event.delivery_id = event'.delivery_id := by
      rw [received_delivery_id received,received_delivery_id received',same]
    let after := process_event repr (accepting .deferred) served first event emptyTable
    have processed : after.2.table.is_processed event'.delivery_id = true := by
      rw [← ids]
      exact accepting_claims heard routed
    have reached : ∃ probe, Deduplicated (process_event repr (accepting probe) served second event' after.2).1 :=
      accepting_deduplicates processed heard' reaches
    obtain ⟨probe,deduplicated⟩ := reached
    have alone := independent (some (accepting .deferred)) served (some (accepting probe)) served emptyTable
    simp only [process_webhook,received,received'] at alone
    obtain ⟨claimed,-,-⟩ := deduplicated_claimed (alone deduplicated)
    simp [emptyTable,ProcessedEvents.is_processed] at claimed
  · intro apart deps out deps' out' s
    cases deps' with
    | none => exact id
    | some deps' =>
    cases received' : receive_event loads second with
    | error refusal =>
      simp only [process_webhook,received']
      exact id
    | ok event' =>
    simp only [process_webhook,received']
    cases deps with
    | none => exact id
    | some deps =>
    cases received : receive_event loads first with
    | error refusal =>
      simp only
      exact deduplicated_agree rfl
    | ok event =>
    simp only
    intro deduplicated
    rcases apart with differ | unclaimed | never
    · refine deduplicated_agree (process_other ?_) deduplicated
      rw [received_delivery_id received,received_delivery_id received']
      exact differ.symm
    · refine deduplicated_agree ?_ deduplicated
      rw [unclaimed_table fun comes => unclaimed ⟨event,received,comes.1,comes.2⟩]
    · obtain ⟨-,heard,reaches⟩ := deduplicated_claimed deduplicated
      exact absurd ⟨event',received',heard,reaches⟩ never

end

/-! Two comments on different issues, delivered without the identifier header. -/

/-- A comment on the issue, as text and as the parsed value. -/
def commentText (issue_key body : String) : String :=
  "\x7b\"webhookEvent\":\"jira:issue_commented\",\"comment\":\x7b\"body\":\"" ++ body ++
    "\"\x7d,\"issue\":\x7b\"key\":\"" ++ issue_key ++ "\"\x7d\x7d"

def commentJson (issue_key body : String) : Json :=
  .obj [("webhookEvent",.str "jira:issue_commented"),("comment",.obj [("body",.str body)]),
    ("issue",.obj [("key",.str issue_key)])]

/-- The body of a request with a comment of ASCII characters. -/
def commentBody (issue_key body : String) : List UInt8 :=
  (commentText issue_key body).toList.map Char.toUInt8

def unidentified (issue_key body : String) : HttpRequest :=
  { provider := .jira, headers := [], raw_body := commentBody issue_key body }

/-- Parses the bodies of the two requests. -/
def twoComments (raw : List UInt8) : Option Json :=
  [(commentBody "PAY-7" "add a test",commentJson "PAY-7" "add a test"),
    (commentBody "OPS-3" "retry",commentJson "OPS-3" "retry")].lookup raw

theorem unidentified_deduplicated :
    (unidentified "PAY-7" "add a test").raw_body ≠ (unidentified "OPS-3" "retry").raw_body ∧
      ¬Independent (fun _ => "") twoComments (unidentified "PAY-7" "add a test") (unidentified "OPS-3" "retry") := by
  refine ⟨by decide,fun independent => ?_⟩
  have alone := independent (some (accepting .deferred)) served (some (accepting .deferred)) served emptyTable (.inl rfl)
  rcases alone with claimed | dropped
  · cases claimed
  · cases dropped

end Automation.WebhookEndpoint
