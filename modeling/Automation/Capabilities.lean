import Automation.Gateway
import Automation.WebhookEndpoint

/-!
The capabilities of a department. They are derived four times: from a department
object by `derive_capabilities`, from the rows of the database by the dispatcher,
and from `departments.json` by the webhook (`capabilities`) and by the worker. Each set is of
one shape, so they are the same exactly if they agree on the services, on execution
and on web search (`derivations_agree_iff`).
-/
namespace Automation.Capabilities
open Automation.PyText Automation.WebhookClaim Automation.WebhookEndpoint Automation.Gateway

abbrev Environ := List (String × String)

/-- The services with bots. -/
inductive Service where
  | jira
  | bitbucket
  | confluence
  deriving DecidableEq

def Service.name : Service → String
  | .jira => "jira"
  | .bitbucket => "bitbucket"
  | .confluence => "confluence"

/-- A runner is assigned, as the flags of the environment say. -/
def runner_assigned (env : Environ) : Bool :=
  ["EXECUTION_RUNNER_ASSIGNED","EXECUTION_RUNNER_AVAILABLE"].any fun key => switchedOn ((env.lookup key).getD "")

def legacy_ssh (env : Environ) : Bool :=
  env.any fun item => (item.1 == "SSH_HOST" || hasPrefix item.1 "SSH_HOST_") && strip item.2 != ""

/-- `os.environ.get("SSH_HOST")` counts as true. -/
def ssh_host_set (env : Environ) : Bool := (env.lookup "SSH_HOST").any (· ≠ "")

def firecrawl_enabled (env : Environ) : String := (env.lookup "FIRECRAWL_ENABLED").getD "false"

/-- The entries of the bots, as their `has_credential()` answers, and the opt-in. -/
structure SupportsDepartment where
  web_search_enabled : Bool
  bot : Service → Option Bool

def SupportsDepartment.has_credential (dept : SupportsDepartment) (service : Service) : Bool :=
  (dept.bot service).getD false

def derive_capabilities (dept : SupportsDepartment) (env : Environ) : List String :=
  (if dept.has_credential .jira then ["jira_read","jira_write"] else []) ++
  (if dept.has_credential .bitbucket then ["bitbucket_read","bitbucket_write"] else []) ++
  (if dept.has_credential .confluence then ["confluence_read","confluence_write"] else []) ++
  (if runner_assigned env || legacy_ssh env then ["execution"] else []) ++
  (if dept.web_search_enabled && firecrawl_enabled env == "true" then ["web_search"] else [])

/-- The set in the vocabulary of the services. -/
def collapsed_capabilities (dept : SupportsDepartment) (env : Environ) : List String :=
  (derive_capabilities dept env).map collapse_capability

structure GateDecision where
  allowed : Bool
  missing : List String

/-- `none` stands for the `KeyError` of an unknown workflow type. -/
def gate (workflow_type : String) (dept : SupportsDepartment) (env : Environ) : Option GateDecision :=
  (WORKFLOW_TYPE_CAPABILITIES workflow_type).map fun required =>
    let missing := required.filter fun cap => !(derive_capabilities dept env).contains cap
    { allowed := missing.isEmpty, missing }

/-- What the three queries answer: the services of bots with a credential, the
    opt-in of the department's row, and the count of its active runners. -/
structure DeptRows where
  services : List String
  web_search_enabled : Option Bool
  runner_count : Nat

/-- `none` stands for a query that raises. -/
def resolve_available_capabilities (db : Option DeptRows) (environ : Environ) : List String :=
  match db with
  | none => []
  | some rows =>
    ["bitbucket","confluence","execution","jira","web_search"].filter fun capability =>
      if capability = "execution" then decide (0 < rows.runner_count) || legacy_ssh environ
      else if capability = "web_search" then
        rows.web_search_enabled.getD false && switchedOn (firecrawl_enabled environ)
      else (rows.services.map fun service => lower (strip service)).contains capability

/-- `_derive_capabilities` of the worker. -/
def derive_config_capabilities (config : Json) (environ : Environ) : List String :=
  let bot := if (config.get "bot").isObj then config.get "bot" else .obj []
  ["bitbucket","confluence","execution","jira","web_search"].filter fun capability =>
    if capability = "execution" then runner_assigned environ || ssh_host_set environ
    else if capability = "web_search" then
      (config.get "web_search_enabled").truthy && firecrawl_enabled environ == "true"
    else ((bot.get capability).get "credential_ref").truthy

/-- A department with the references of its bots' credentials and its active runners. -/
structure Record where
  credential_ref : Service → Option String
  web_search_enabled : Bool
  active_runners : Nat

namespace Record

def credentialed (record : Record) (service : Service) : Bool := (record.credential_ref service).any (· ≠ "")

def object (record : Record) : SupportsDepartment :=
  { web_search_enabled := record.web_search_enabled
    bot := fun service => (record.credential_ref service).map (· ≠ "") }

def rows (record : Record) : DeptRows :=
  { services := ([.jira,.bitbucket,.confluence].filter record.credentialed).map Service.name
    web_search_enabled := some record.web_search_enabled
    runner_count := record.active_runners }

def bot_entry : Option String → Json
  | none => .null
  | some credential_ref => .obj [("credential_ref",.str credential_ref)]

/-- The entry of the department in `departments.json`. -/
def config (record : Record) : Json :=
  .obj [("bot",.obj [("jira",bot_entry (record.credential_ref .jira)),
      ("bitbucket",bot_entry (record.credential_ref .bitbucket)),
      ("confluence",bot_entry (record.credential_ref .confluence))]),
    ("web_search_enabled",.bool record.web_search_enabled)]

end Record

/-- A set with these services, with execution or not, and with web search or not. -/
def Granted (services : Service → Bool) (execution web : Bool) (capability : String) : Prop :=
  (∃ service, capability = service.name ∧ services service = true) ∨
    (capability = "execution" ∧ execution = true) ∨ (capability = "web_search" ∧ web = true)

private theorem granted_service (services : Service → Bool) (execution web : Bool) (service : Service) :
    Granted services execution web service.name ↔ services service = true := by
  constructor
  · rintro (⟨other,same,granted⟩ | ⟨same,_⟩ | ⟨same,_⟩)
    · have equal : service = other := by
        revert same
        cases service <;> cases other <;> simp [Service.name]
      rw [equal]
      exact granted
    · cases service <;> simp [Service.name] at same
    · cases service <;> simp [Service.name] at same
  · intro granted
    exact .inl ⟨service,rfl,granted⟩

private theorem granted_execution (services : Service → Bool) (execution web : Bool) :
    Granted services execution web "execution" ↔ execution = true := by
  constructor
  · rintro (⟨service,same,_⟩ | ⟨_,granted⟩ | ⟨same,_⟩)
    · cases service <;> simp [Service.name] at same
    · exact granted
    · simp at same
  · intro granted
    exact .inr (.inl ⟨rfl,granted⟩)

private theorem granted_web (services : Service → Bool) (execution web : Bool) :
    Granted services execution web "web_search" ↔ web = true := by
  constructor
  · rintro (⟨service,same,_⟩ | ⟨same,_⟩ | ⟨_,granted⟩)
    · cases service <;> simp [Service.name] at same
    · simp at same
    · exact granted
  · intro granted
    exact .inr (.inr ⟨rfl,granted⟩)

/-- Sets are the same exactly if their parts are. -/
theorem granted_congr_iff {services services' : Service → Bool} {execution execution' web web' : Bool} :
    (∀ capability, Granted services execution web capability ↔ Granted services' execution' web' capability) ↔
      services = services' ∧ execution = execution' ∧ web = web' := by
  constructor
  · intro same
    refine ⟨funext fun service => ?_,?_,?_⟩
    · have here := same service.name
      rw [granted_service,granted_service] at here
      exact Bool.eq_iff_iff.mpr here
    · have here := same "execution"
      rw [granted_execution,granted_execution] at here
      exact Bool.eq_iff_iff.mpr here
    · have here := same "web_search"
      rw [granted_web,granted_web] at here
      exact Bool.eq_iff_iff.mpr here
  · rintro ⟨rfl,rfl,rfl⟩ capability
    rfl

private theorem mem_sorted {capability : String} {kept : String → Bool} :
    capability ∈ ["bitbucket","confluence","execution","jira","web_search"].filter kept ↔
      Granted (fun service => kept service.name) (kept "execution") (kept "web_search") capability := by
  rw [List.mem_filter]
  constructor
  · rintro ⟨member,keep⟩
    simp only [List.mem_cons,List.not_mem_nil,or_false] at member
    rcases member with rfl | rfl | rfl | rfl | rfl
    · exact .inl ⟨.bitbucket,rfl,keep⟩
    · exact .inl ⟨.confluence,rfl,keep⟩
    · exact .inr (.inl ⟨rfl,keep⟩)
    · exact .inl ⟨.jira,rfl,keep⟩
    · exact .inr (.inr ⟨rfl,keep⟩)
  · rintro (⟨service,rfl,keep⟩ | ⟨rfl,keep⟩ | ⟨rfl,keep⟩)
    · cases service <;> exact ⟨by simp [Service.name],keep⟩
    · exact ⟨by simp,keep⟩
    · exact ⟨by simp,keep⟩

theorem mem_collapsed (dept : SupportsDepartment) (env : Environ) (capability : String) :
    capability ∈ collapsed_capabilities dept env ↔
      Granted dept.has_credential (runner_assigned env || legacy_ssh env)
        (dept.web_search_enabled && firecrawl_enabled env == "true") capability := by
  have pair : ∀ (granted : Bool) (read write name : String), collapse_capability read = name → collapse_capability write = name →
      (capability ∈ (if granted then [read,write] else []).map collapse_capability ↔ capability = name ∧ granted = true) := by
    intro granted read write name reads writes
    cases granted <;> simp [reads,writes]
  have single : ∀ (granted : Bool) (name : String), collapse_capability name = name →
      (capability ∈ (if granted then [name] else []).map collapse_capability ↔ capability = name ∧ granted = true) := by
    intro granted name simple
    cases granted <;> simp [simple]
  rw [collapsed_capabilities,derive_capabilities]
  simp only [List.map_append,List.mem_append]
  rw [pair _ _ _ "jira" (by decide) (by decide),pair _ _ _ "bitbucket" (by decide) (by decide),
    pair _ _ _ "confluence" (by decide) (by decide),single _ "execution" (by decide),single _ "web_search" (by decide)]
  constructor
  · rintro ((((granted | granted) | granted) | granted) | granted)
    · exact .inl ⟨.jira,granted⟩
    · exact .inl ⟨.bitbucket,granted⟩
    · exact .inl ⟨.confluence,granted⟩
    · exact .inr (.inl granted)
    · exact .inr (.inr granted)
  · rintro (⟨service,granted⟩ | granted | granted)
    · cases service with
      | jira => exact .inl (.inl (.inl (.inl granted)))
      | bitbucket => exact .inl (.inl (.inl (.inr granted)))
      | confluence => exact .inl (.inl (.inr granted))
    · exact .inl (.inr granted)
    · exact .inr granted

namespace Record
variable (record : Record) (env : Environ)

private theorem object_has_credential : record.object.has_credential = record.credentialed := by
  funext service
  have answer : record.object.bot service = (record.credential_ref service).map fun ref => decide (ref ≠ "") := rfl
  rw [SupportsDepartment.has_credential,answer,credentialed]
  cases record.credential_ref service with
  | none => rfl
  | some ref => rfl

private theorem row_contains (service : Service) :
    (([.jira,.bitbucket,.confluence].filter record.credentialed).map Service.name).contains service.name =
      record.credentialed service := by
  rw [Bool.eq_iff_iff,List.contains_iff_mem,List.mem_map]
  constructor
  · rintro ⟨other,member,same⟩
    have equal : other = service := by
      revert same
      cases other <;> cases service <;> simp [Service.name]
    rw [← equal]
    exact (List.mem_filter.mp member).2
  · intro granted
    exact ⟨service,List.mem_filter.mpr ⟨by cases service <;> simp,granted⟩,rfl⟩

private theorem row_service (service : Service) :
    (record.rows.services.map fun name => lower (strip name)).contains service.name = record.credentialed service := by
  have plain : ∀ service : Service, lower (strip service.name) = service.name := by
    intro service
    cases service <;> decide
  have names : record.rows.services.map (fun name => lower (strip name)) = record.rows.services := by
    rw [rows,List.map_map]
    exact List.map_congr_left fun service _ => plain service
  rw [names]
  exact record.row_contains service

private theorem entry_truthy (credential_ref : Option String) :
    ((bot_entry credential_ref).get "credential_ref").truthy = credential_ref.any (· ≠ "") := by
  cases credential_ref with
  | none => rfl
  | some text =>
    have found : (bot_entry (some text)).get "credential_ref" = .str text := rfl
    rw [found,Json.truthy,Option.any_some,bne,beq_eq_decide,decide_not]

private theorem config_service (service : Service) :
    (((record.config.get "bot").get service.name).get "credential_ref").truthy = record.credentialed service := by
  have found : (record.config.get "bot").get service.name = bot_entry (record.credential_ref service) := by
    cases service <;> rfl
  rw [found,entry_truthy]
  rfl

private theorem config_bot : (record.config.get "bot").isObj = true := rfl

theorem mem_resolved (capability : String) :
    capability ∈ resolve_available_capabilities (some record.rows) env ↔
      Granted record.credentialed (decide (0 < record.active_runners) || legacy_ssh env)
        (record.web_search_enabled && switchedOn (firecrawl_enabled env)) capability := by
  rw [resolve_available_capabilities,mem_sorted]
  have services : (fun service : Service => if service.name = "execution" then
        decide (0 < record.rows.runner_count) || legacy_ssh env
      else if service.name = "web_search" then
        record.rows.web_search_enabled.getD false && switchedOn (firecrawl_enabled env)
      else (record.rows.services.map fun service => lower (strip service)).contains service.name) =
      record.credentialed := by
    funext service
    rw [row_service,if_neg (by cases service <;> decide),if_neg (by cases service <;> decide)]
  rw [services]
  rfl

/-- What the worker reads from the configuration of the department. -/
theorem mem_config (capability : String) :
    capability ∈ derive_config_capabilities record.config env ↔
      Granted record.credentialed (runner_assigned env || ssh_host_set env)
        (record.web_search_enabled && firecrawl_enabled env == "true") capability := by
  rw [derive_config_capabilities,mem_sorted]
  have services : (fun service : Service => if service.name = "execution" then runner_assigned env || ssh_host_set env
      else if service.name = "web_search" then
        (record.config.get "web_search_enabled").truthy && firecrawl_enabled env == "true"
      else (((if (record.config.get "bot").isObj then record.config.get "bot" else .obj []).get service.name).get
        "credential_ref").truthy) = record.credentialed := by
    funext service
    rw [if_pos (config_bot record),config_service,if_neg (by cases service <;> decide),
      if_neg (by cases service <;> decide)]
  rw [services]
  rfl

theorem mem_object (capability : String) :
    capability ∈ collapsed_capabilities record.object env ↔
      Granted record.credentialed (runner_assigned env || legacy_ssh env)
        (record.web_search_enabled && firecrawl_enabled env == "true") capability := by
  rw [mem_collapsed,object_has_credential]
  rfl

theorem agrees_iff {derived : List String} {services : Service → Bool} {execution web : Bool}
    (shape : ∀ capability, capability ∈ derived ↔ Granted services execution web capability) :
    (∀ capability, capability ∈ collapsed_capabilities record.object env ↔ capability ∈ derived) ↔
      record.credentialed = services ∧ (runner_assigned env || legacy_ssh env) = execution ∧
        (record.web_search_enabled && firecrawl_enabled env == "true") = web := by
  rw [← granted_congr_iff]
  exact forall_congr' fun capability => by rw [mem_object,shape]

/-- The services the webhook grants: the one of the event, where no bot has a credential. -/
def routed (record : Record) (provider : Provider) (service : Service) : Bool :=
  if [Service.jira,.bitbucket,.confluence].any record.credentialed then record.credentialed service
  else service.name == provider.name

theorem mem_webhook (provider : Provider) (capability : String) :
    capability ∈ capabilities provider.name record.config env ↔
      Granted (record.routed provider) (runner_assigned env || ssh_host_set env)
        (record.web_search_enabled && firecrawl_enabled env == "true") capability := by
  have names : ["jira","bitbucket","confluence"].filter (fun service =>
        ((record.config.get "bot").get service).get "credential_ref" |>.truthy) =
      ([.jira,.bitbucket,.confluence].filter record.credentialed).map Service.name := by
    have mapped : ["jira","bitbucket","confluence"] = [Service.jira,.bitbucket,.confluence].map Service.name := rfl
    rw [mapped,List.filter_map]
    exact congrArg _ (List.filter_congr fun service _ => config_service record service)
  have granted : ∀ service : Service, (if (([.jira,.bitbucket,.confluence].filter record.credentialed).map
        Service.name).isEmpty then [provider.name]
      else ([.jira,.bitbucket,.confluence].filter record.credentialed).map Service.name).contains service.name =
        record.routed provider service := by
    intro service
    rw [routed]
    by_cases some_bot : [Service.jira,.bitbucket,.confluence].any record.credentialed = true
    · obtain ⟨first,member,granted⟩ := List.any_eq_true.mp some_bot
      have nonempty : ¬(([.jira,.bitbucket,.confluence].filter record.credentialed).map Service.name).isEmpty = true := by
        rw [List.isEmpty_iff,List.map_eq_nil_iff]
        exact List.ne_nil_of_mem (List.mem_filter.mpr ⟨member,granted⟩)
      rw [if_neg nonempty,if_pos some_bot]
      exact record.row_contains service
    · have empty : [Service.jira,.bitbucket,.confluence].filter record.credentialed = [] := by
        refine List.filter_eq_nil_iff.mpr fun other member granted => some_bot ?_
        exact List.any_eq_true.mpr ⟨other,member,granted⟩
      rw [if_neg some_bot,empty,List.map_nil,if_pos (by rfl)]
      simp [beq_eq_decide]
  rw [capabilities,mem_sorted]
  simp only [config_bot,if_true,names]
  refine Iff.of_eq (congrArg (fun services => Granted services _ _ capability) (funext fun service => ?_))
  rw [← granted service]
  cases service <;> rfl

end Record

/-- The four sets of a department are the same, and the gate in the split vocabulary
    allows what the collapsed set covers. -/
structure Agreement (record : Record) (env : Environ) (readable : Bool) (provider : Provider) : Prop where
  dispatcher : ∀ capability, capability ∈ collapsed_capabilities record.object env ↔
    capability ∈ resolve_available_capabilities (if readable then some record.rows else none) env
  webhook : ∀ capability, capability ∈ collapsed_capabilities record.object env ↔
    capability ∈ capabilities provider.name record.config env
  worker : ∀ capability, capability ∈ collapsed_capabilities record.object env ↔
    capability ∈ derive_config_capabilities record.config env
  gate : ∀ workflow_type, (gate workflow_type record.object env).map GateDecision.allowed =
    (required_capabilities workflow_type).map fun required =>
      required.all (collapsed_capabilities record.object env).contains

/-- The split vocabulary. -/
def SPLIT_CAPABILITIES : List String :=
  ["jira_read","jira_write","bitbucket_read","bitbucket_write","confluence_read","confluence_write","execution","web_search"]

private theorem mem_split (dept : SupportsDepartment) (env : Environ) {cap : String} (split : cap ∈ SPLIT_CAPABILITIES) :
    cap ∈ derive_capabilities dept env ↔ collapse_capability cap ∈ collapsed_capabilities dept env := by
  have service : ∀ (cap : String) (service : Service), collapse_capability cap = service.name →
      (cap ∈ derive_capabilities dept env ↔ dept.has_credential service = true) →
      (cap ∈ derive_capabilities dept env ↔ collapse_capability cap ∈ collapsed_capabilities dept env) := by
    intro cap service collapsed held
    rw [mem_collapsed,collapsed,granted_service,held]
  simp only [SPLIT_CAPABILITIES,List.mem_cons,List.not_mem_nil,or_false] at split
  rcases split with rfl | rfl | rfl | rfl | rfl | rfl | rfl | rfl
  · exact service _ .jira rfl (by simp [derive_capabilities])
  · exact service _ .jira rfl (by simp [derive_capabilities])
  · exact service _ .bitbucket rfl (by simp [derive_capabilities])
  · exact service _ .bitbucket rfl (by simp [derive_capabilities])
  · exact service _ .confluence rfl (by simp [derive_capabilities])
  · exact service _ .confluence rfl (by simp [derive_capabilities])
  · have collapsed : collapse_capability "execution" = "execution" := rfl
    rw [mem_collapsed,collapsed,granted_execution]
    simp [derive_capabilities]
  · have collapsed : collapse_capability "web_search" = "web_search" := rfl
    rw [mem_collapsed,collapsed,granted_web]
    simp [derive_capabilities]

private theorem table_split {workflow_type : String} {required : List String}
    (listed : WORKFLOW_TYPE_CAPABILITIES workflow_type = some required) : ∀ cap ∈ required, cap ∈ SPLIT_CAPABILITIES := by
  unfold WORKFLOW_TYPE_CAPABILITIES at listed
  split at listed
  all_goals cases listed
  all_goals decide

theorem gate_collapsed (dept : SupportsDepartment) (env : Environ) (workflow_type : String) :
    (gate workflow_type dept env).map GateDecision.allowed =
      (required_capabilities workflow_type).map fun required =>
        required.all (collapsed_capabilities dept env).contains := by
  rw [gate,required_capabilities]
  cases listed : WORKFLOW_TYPE_CAPABILITIES workflow_type with
  | none => rfl
  | some required =>
    have held : ∀ cap ∈ required, cap ∈ derive_capabilities dept env ↔
        collapse_capability cap ∈ collapsed_capabilities dept env :=
      fun cap member => mem_split dept env (table_split listed cap member)
    refine congrArg some (Bool.eq_iff_iff.mpr ?_)
    rw [List.isEmpty_iff,List.filter_eq_nil_iff,List.all_eq_true]
    constructor
    · intro none_missing cap member
      obtain ⟨split,inRequired,rfl⟩ := List.mem_map.mp (List.mem_eraseDups.mp member)
      rw [List.contains_iff_mem,← held split inRequired]
      simpa using none_missing split inRequired
    · intro covered split inRequired
      have here := covered (collapse_capability split) (List.mem_eraseDups.mpr (List.mem_map_of_mem inRequired))
      rw [List.contains_iff_mem,← held split inRequired] at here
      simpa using here

/-- Where the sets differ in nothing: the rows can be read, some bot has a credential,
    the three tests for a runner agree, and the flag of web search is spelled `true`. -/
def Consistent (record : Record) (env : Environ) (readable : Bool) : Prop :=
  readable = true ∧ (∃ service, record.credentialed service = true) ∧
    (runner_assigned env || legacy_ssh env) = (decide (0 < record.active_runners) || legacy_ssh env) ∧
    (runner_assigned env || legacy_ssh env) = (runner_assigned env || ssh_host_set env) ∧
    (record.web_search_enabled = true → switchedOn (firecrawl_enabled env) = true → firecrawl_enabled env = "true")

private theorem web_iff (record : Record) (flag : String) :
    (record.web_search_enabled && flag == "true") = (record.web_search_enabled && switchedOn flag) ↔
      (record.web_search_enabled = true → switchedOn flag = true → flag = "true") := by
  have spelled : switchedOn "true" = true := by decide
  cases record.web_search_enabled with
  | false => simp
  | true =>
    simp only [Bool.true_and,true_implies]
    by_cases plain : flag = "true"
    · simp [plain,spelled]
    · rw [beq_eq_false_iff_ne.mpr plain]
      cases switchedOn flag <;> simp [plain]

private theorem routed_iff (record : Record) (provider : Provider) :
    record.routed provider = record.credentialed ↔ ∃ service, record.credentialed service = true := by
  constructor
  · intro same
    by_contra none
    have absent : ∀ service, record.credentialed service = false := by
      intro service
      by_contra held
      exact none ⟨service,by simpa using held⟩
    have granted : ∀ service : Service, service.name = provider.name → False := by
      intro service named
      have here := congrFun same service
      rw [Record.routed,if_neg (by simp [absent]),absent,named] at here
      simp at here
    cases provider with
    | jira => exact granted .jira rfl
    | bitbucket => exact granted .bitbucket rfl
  · rintro ⟨service,held⟩
    funext other
    rw [Record.routed,if_pos (List.any_eq_true.mpr ⟨service,by cases service <;> simp,held⟩)]

/-- The derivations agree on a department exactly if it is consistent with its environment. -/
theorem derivations_agree_iff (record : Record) (env : Environ) (readable : Bool) (provider : Provider) :
    Agreement record env readable provider ↔ Consistent record env readable := by
  have webhook := record.agrees_iff env (record.mem_webhook env provider)
  have worker := record.agrees_iff env (record.mem_config env)
  have dispatcher := record.agrees_iff env (record.mem_resolved env)
  constructor
  · intro agree
    obtain ⟨services,hosts,_⟩ := webhook.mp agree.webhook
    obtain ⟨service,held⟩ := (routed_iff record provider).mp services.symm
    have reads : readable = true := by
      by_contra unreadable
      have member : service.name ∈ collapsed_capabilities record.object env := by
        rw [record.mem_object,granted_service]
        exact held
      have nothing := (agree.dispatcher service.name).mp member
      rw [if_neg unreadable] at nothing
      cases nothing
    have rows := agree.dispatcher
    rw [if_pos reads] at rows
    obtain ⟨_,runners,web⟩ := dispatcher.mp rows
    exact ⟨reads,⟨service,held⟩,runners,hosts,(web_iff record _).mp web⟩
  · rintro ⟨reads,bots,runners,hosts,web⟩
    refine ⟨?_,webhook.mpr ⟨((routed_iff record provider).mpr bots).symm,hosts,rfl⟩,worker.mpr ⟨rfl,hosts,rfl⟩,
      gate_collapsed record.object env⟩
    rw [if_pos reads]
    exact dispatcher.mpr ⟨rfl,runners,(web_iff record _).mpr web⟩

/-- Web search is on for the dispatcher and off for the others, where the flag is `1`. -/
theorem web_search_differs :
    let record : Record := ⟨fun service => if service = .jira then some "atlassian/pay/jira" else none,true,0⟩
    let env : Environ := [("FIRECRAWL_ENABLED","1")]
    collapsed_capabilities record.object env = ["jira","jira"] ∧
      resolve_available_capabilities (some record.rows) env = ["jira","web_search"] ∧
      capabilities "jira" record.config env = ["jira"] ∧ derive_config_capabilities record.config env = ["jira"] := by
  decide

end Automation.Capabilities
