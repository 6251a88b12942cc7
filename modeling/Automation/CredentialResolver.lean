import Automation.Dict
import Automation.PyText

/-!
`CredentialResolver` on an event loop. A call suspends where it waits for Postgres,
for Vault or for the audit logger, and between two suspensions it is one step. What a
store answers and when the answer arrives are two steps, so the secrets, the rows and
the clock may change in between, and other calls may run.

`credentials_fresh_and_isolated` traces every credential that a run returns back to
the read of Vault it came from. The TTL bounds the age of what the cache serves; a
call that reads Vault itself returns what it read, however long its answer and its
audit took.
-/
namespace Automation.CredentialResolver
open Automation.PyText

/-- Times are in microseconds. -/
def CACHE_TTL : Int := 300 * 1000000

def USER_PATH_INFIX : String := "atlassian/_user"

inductive Scope where
  | org
  | user
  deriving DecidableEq

def Scope.value : Scope → String
  | .org => "org"
  | .user => "user"

structure AtlassianCredential where
  url : String
  username : String
  personal_token : String
  deriving DecidableEq

structure CachedEntry where
  credential : AtlassianCredential
  cached_at : Int
  vault_created_time : Option String

/-- The canonical scope, the department or the session, and the service. -/
structure CacheKey where
  scope : Scope
  cache_id : String
  service : String
  deriving DecidableEq

structure Request where
  dept_id : String
  service : String
  scope : String
  session_id : Option String
  deriving DecidableEq

/-- A version of a secret; `created_time` is that of its metadata, where it is a string. -/
structure Version where
  data : Dict String String
  created_time : Option String

inductive GetError where
  | ValueError (message : String)
  | CredentialResolutionError (dept_id service message : String)
  | CredentialScopeViolationError (scope attempted_path dept_id service message : String)
  /-- What Postgres or Vault raised. -/
  | propagated

structure AuditEvent where
  actor_id : String
  actor_role : String
  dept_id : Option String
  action : String
  resource : String
  result : String
  timestamp : Int
  payload : List (String × String)

/-! ### A call and what it waits for -/

inductive Method where
  | read_with_metadata
  | read_secret

/-- What is left to do after an audit. -/
inductive Next where
  | raise (error : GetError)
  | store (credential : AtlassianCredential) (now : Int) (vault_created_time : Option String)

/-- Where a call is suspended, with its variables: it has asked Postgres, or the row is
    on its way; it has asked Vault, or the secret is on its way; it writes an audit. -/
inductive Phase where
  | looking
  | located (row : Option String)
  | reading (method : Method) (path : String) (now : Int) (cached : Option CachedEntry)
  | answered (method : Method) (path : String) (now : Int) (cached : Option CachedEntry) (result : Option Version)
  | auditing (event : AuditEvent) (next : Next)

structure Call where
  request : Request
  key : CacheKey
  phase : Phase

/-- Whether the credential came out of the cache or was read by the call itself. -/
inductive Source where
  | cached
  | fetched
  deriving DecidableEq

structure Return where
  call : Nat
  request : Request
  credential : AtlassianCredential
  returned_at : Int
  source : Source

/-- The resolver's cache and its calls in flight, the secrets of Vault by path and the
    column `credential_ref` of `department_bots` by department and service, the clock,
    and what the calls came to. -/
structure State where
  cred_cache : Dict CacheKey CachedEntry
  calls : Dict Nat Call
  next_call : Nat
  vault : Dict String Version
  department_bots : Dict (String × String) String
  clock : Int
  returned : List Return
  raised : List (Nat × GetError)
  audits : List AuditEvent

def State.start (vault : Dict String Version) (department_bots : Dict (String × String) String) (clock : Int) : State :=
  { cred_cache := .empty, calls := .empty, next_call := 0, vault, department_bots, clock, returned := [], raised := []
    audits := [] }

/-- Whether the Vault client has `read_with_metadata` at all, and whether there is an
    audit logger. -/
structure Config where
  with_metadata : Bool
  audited : Bool

namespace State

def suspend (s : State) (id : Nat) (call : Call) : State := { s with calls := s.calls.set id call }

def raise (s : State) (id : Nat) (error : GetError) : State :=
  { s with calls := s.calls.erase id, raised := s.raised ++ [(id,error)] }

def give (s : State) (id : Nat) (request : Request) (credential : AtlassianCredential) (source : Source) : State :=
  { s with
    calls := s.calls.erase id
    returned := s.returned ++ [{ call := id, request, credential, returned_at := s.clock, source }] }

def store (s : State) (key : CacheKey) (entry : CachedEntry) : State := { s with cred_cache := s.cred_cache.set key entry }

def forget (s : State) (key : CacheKey) : State := { s with cred_cache := s.cred_cache.erase key }

end State

/-! ### `get` -/

def build_user_session_path (session_id service : String) : String :=
  "secret/atlassian/_user_session/" ++ session_id ++ "/" ++ service

def REQUIRED_FIELDS : List String := ["url","username","personal_token"]

/-- `secret.get(name,"")`. -/
def field (secret : Dict String String) (name : String) : String := (secret.get? name).getD ""

def missing_fields (secret : Dict String String) : List String := REQUIRED_FIELDS.filter fun name => field secret name = ""

/-- The credential of a complete secret. -/
def credential_of (secret : Dict String String) : Option AtlassianCredential :=
  if missing_fields secret = [] then
    some { url := field secret "url", username := field secret "username", personal_token := field secret "personal_token" }
  else none

/-- A list of field names, as Python prints it. -/
def printed (names : List String) : String := "[" ++ ", ".intercalate (names.map fun name => "'" ++ name ++ "'") ++ "]"

section
variable (repr : String → String)

/-- The cache key of a request, or the `ValueError` that refuses it. -/
def cache_key (r : Request) : Except GetError CacheKey :=
  let scope := if r.scope = "bot" then "org" else r.scope
  if scope ≠ "org" ∧ scope ≠ "user" then
    .error (.ValueError ("scope must be 'org' or 'user' (or deprecated 'bot'); got " ++ repr scope))
  else if scope = "user" then
    match r.session_id.filter (· ≠ "") with
    | none => .error (.ValueError "scope='user' requires a non-empty session_id")
    | some session_id => .ok ⟨.user,session_id,r.service⟩
  else .ok ⟨.org,r.dept_id,r.service⟩

def resolution_error (dept_id service cause : String) : GetError :=
  .CredentialResolutionError dept_id service ("resolve " ++ service ++ " for dept=" ++ dept_id ++ ": " ++ cause)

def scope_violation (scope : Scope) (attempted_path dept_id service : String) : GetError :=
  .CredentialScopeViolationError scope.value attempted_path dept_id service
    ("credential_scope_violation: scope=" ++ repr scope.value ++ " attempted to read path=" ++ repr attempted_path ++
      " (dept=" ++ repr dept_id ++ " service=" ++ repr service ++ ")")

def scope_violation_event (scope : Scope) (attempted_path dept_id service : String) (now : Int) : AuditEvent :=
  { actor_id := "automation-service.credential_resolver", actor_role := "system"
    dept_id := if dept_id ≠ "" ∧ dept_id ≠ "_unknown" then some dept_id else none
    action := "credential_scope_violation_attempt", resource := "vault:" ++ attempted_path, result := "denied"
    timestamp := now
    payload := [("scope",scope.value),("attempted_path",attempted_path),("service",service),("dept_id",dept_id)] }

def credential_refreshed_event (scope : Scope) (dept_id service prev_created_time new_created_time : String) (now : Int) :
    AuditEvent :=
  { actor_id := "automation-service.credential_resolver", actor_role := "system"
    dept_id := if dept_id ≠ "" then some dept_id else none
    action := "vault_credential_refreshed", resource := "vault:" ++ scope.value ++ "/" ++ dept_id ++ "/" ++ service
    result := "ok", timestamp := now
    payload := [("scope",scope.value),("dept_id",dept_id),("service",service),("prev_created_time",prev_created_time),
      ("new_created_time",new_created_time)] }

/-- The two creation times where the second is there and later: the secret was rotated. -/
def drift (cached : Option CachedEntry) (vault_created_time : Option String) : Option (String × String) :=
  match (cached.bind (·.vault_created_time)).filter (· ≠ ""),vault_created_time.filter (· ≠ "") with
  | some prev,some new => if prev < new then some (prev,new) else none
  | _,_ => none

variable (config : Config)

def proceed (id : Nat) (call : Call) (s : State) : Next → State
  | .raise error => s.raise id error
  | .store credential now vault_created_time =>
    (s.store call.key { credential, cached_at := now, vault_created_time }).give id call.request credential .fetched

/-- An audit, and what follows it. Without a logger nothing is awaited. -/
def audit (id : Nat) (call : Call) (event : AuditEvent) (next : Next) (s : State) : State :=
  if config.audited then s.suspend id { call with phase := .auditing event next } else proceed id call s next

def refuse_scope (id : Nat) (call : Call) (attempted_path dept_id : String) (s : State) : State :=
  audit config id call (scope_violation_event call.key.scope attempted_path dept_id call.request.service s.clock)
    (.raise (scope_violation repr call.key.scope attempted_path dept_id call.request.service)) s

/-- From the lookup in the cache to the read of Vault. -/
def serve (id : Nat) (call : Call) (path : String) (s : State) : State :=
  let cached := s.cred_cache.get? call.key
  match cached.filter fun entry => s.clock - entry.cached_at < CACHE_TTL with
  | some entry => s.give id call.request entry.credential .cached
  | none =>
    let method := if config.with_metadata then .read_with_metadata else .read_secret
    s.suspend id { call with phase := .reading method path s.clock cached }

/-- From the call to its first suspension. -/
def get (r : Request) (s : State) : State :=
  let id := s.next_call
  let s := { s with next_call := s.next_call + 1 }
  match cache_key repr r with
  | .error error => s.raise id error
  | .ok key =>
    let call : Call := { request := r, key, phase := .looking }
    match key.scope with
    | .user =>
      let path := build_user_session_path key.cache_id r.service
      if !contains path USER_PATH_INFIX then
        refuse_scope repr config id call path (if r.dept_id = "" then "_unknown" else r.dept_id) s
      else serve config id call path s
    | .org => s.suspend id call

/-- The row of `department_bots` arrives. -/
def lookup_credential_ref (id : Nat) (call : Call) (row : Option String) (s : State) : State :=
  let r := call.request
  match row with
  | none =>
    s.raise id (resolution_error r.dept_id r.service
      ("no bot registration for dept=" ++ repr r.dept_id ++ " service=" ++ repr r.service))
  | some path =>
    if contains path USER_PATH_INFIX then refuse_scope repr config id call path r.dept_id s
    else serve config id call path s

/-- The creation time that a read returns with the secret. -/
def created_time : Method → Version → Option String
  | .read_with_metadata,version => version.created_time.filter (· ≠ "")
  | .read_secret,_ => none

/-- The answer of Vault arrives. -/
def refresh (id : Nat) (call : Call) (method : Method) (path : String) (now : Int) (cached : Option CachedEntry)
    (result : Option Version) (s : State) : State :=
  let r := call.request
  match result with
  | none => (s.forget call.key).raise id (resolution_error r.dept_id r.service ("Vault path not found: " ++ path))
  | some version =>
    match credential_of version.data with
    | none =>
      s.raise id (resolution_error r.dept_id r.service
        ("incomplete secret at " ++ path ++ ": missing " ++ printed (missing_fields version.data)))
    | some credential =>
      let vault_created_time := created_time method version
      let next := Next.store credential now vault_created_time
      match drift cached vault_created_time with
      | some (prev,new) =>
        audit config id call (credential_refreshed_event call.key.scope r.dept_id r.service prev new s.clock) next s
      | none => proceed id call s next

/-! ### The steps of a run -/

inductive Failure where
  | NotImplementedError
  | other

/-- A call is made; the store that a call waits for answers, the answer arrives, or the
    read raises; an audit was written or has failed; a call is cancelled; a secret or a
    row changes; time passes. -/
inductive Event where
  | call (request : Request)
  | answer (id : Nat)
  | deliver (id : Nat)
  | fail (id : Nat) (failure : Failure)
  | audited (id : Nat) (written : Bool)
  | cancel (id : Nat)
  | put_secret (path : String) (version : Version)
  | delete_secret (path : String)
  | put_bot (dept_id service credential_ref : String)
  | delete_bot (dept_id service : String)
  | tick (elapsed : Nat)

def answer (id : Nat) (call : Call) (s : State) : State :=
  match call.phase with
  | .looking =>
    s.suspend id { call with phase := .located (s.department_bots.get? (call.request.dept_id,call.request.service)) }
  | .reading method path now cached =>
    s.suspend id { call with phase := .answered method path now cached (s.vault.get? path) }
  | _ => s

def deliver (id : Nat) (call : Call) (s : State) : State :=
  match call.phase with
  | .located row => lookup_credential_ref repr config id call row s
  | .answered method path now cached result => refresh config id call method path now cached result s
  | _ => s

/-- `NotImplementedError` sends the call to `read_secret`; everything else goes on to the caller. -/
def fail (id : Nat) (call : Call) (failure : Failure) (s : State) : State :=
  match call.phase,failure with
  | .reading .read_with_metadata path now cached,.NotImplementedError
  | .answered .read_with_metadata path now cached _,.NotImplementedError =>
    s.suspend id { call with phase := .reading .read_secret path now cached }
  | .auditing _ _,_ => s
  | _,_ => s.raise id .propagated

def audited (id : Nat) (call : Call) (written : Bool) (s : State) : State :=
  match call.phase with
  | .auditing event next => proceed id call { s with audits := s.audits ++ if written then [event] else [] } next
  | _ => s

/-- A step of the call, where it is in flight. -/
def onCall (id : Nat) (f : Call → State → State) (s : State) : State :=
  match s.calls.get? id with
  | some call => f call s
  | none => s

def step (s : State) : Event → State
  | .call r => get repr config r s
  | .answer id => onCall id (answer id) s
  | .deliver id => onCall id (deliver repr config id) s
  | .fail id failure => onCall id (fun call => fail id call failure) s
  | .audited id written => onCall id (fun call => audited id call written) s
  | .cancel id => { s with calls := s.calls.erase id }
  | .put_secret path version => { s with vault := s.vault.set path version }
  | .delete_secret path => { s with vault := s.vault.erase path }
  | .put_bot dept_id service credential_ref =>
    { s with department_bots := s.department_bots.set (dept_id,service) credential_ref }
  | .delete_bot dept_id service => { s with department_bots := s.department_bots.erase (dept_id,service) }
  | .tick elapsed => { s with clock := s.clock + elapsed }

def run (s : State) (events : List Event) : State := events.foldl (step repr config) s

/-! ### Where a credential comes from -/

variable (start : State) (events : List Event)

/-- In the run of the events Vault answers a call after `before`: it holds the version
    at the path that the call has asked for. -/
structure ReadAt (before : List Event) (id : Nat) (key : CacheKey) (path : String) (version : Version) : Prop where
  happens : before ++ [.answer id] <+: events
  asked : ∃ request method now cached, cache_key repr request = .ok key ∧
    (run repr config start before).calls.get? id = some ⟨request,key,.reading method path now cached⟩
  held : (run repr config start before).vault.get? path = some version

/-- In the run Postgres answers a call with the path: it is in the row of the call's
    department and service. -/
def Looked (id : Nat) (key : CacheKey) (path : String) : Prop :=
  ∃ before, before ++ [.answer id] <+: events ∧
    (∃ request, (run repr config start before).calls.get? id = some ⟨request,key,.looking⟩) ∧
    (run repr config start before).department_bots.get? (key.cache_id,key.service) = some path

/-- The path is the one of the key: the path of the session and the service, or what the
    call has found in the row of the department and the service, outside the paths of users. -/
def Addressed (id : Nat) (key : CacheKey) (path : String) : Prop :=
  match key.scope with
  | .user => path = build_user_session_path key.cache_id key.service
  | .org => contains path USER_PATH_INFIX = false ∧ Looked repr config start events id key path

/-- The cache held the credential under the key when it was returned. -/
def HeldAt (key : CacheKey) (r : Return) : Prop :=
  ∃ before event entry, before ++ [event] <+: events ∧ (run repr config start before).clock = r.returned_at ∧
    (run repr config start before).cred_cache.get? key = some entry ∧ entry.credential = r.credential

/-- The returned credential is what Vault answered after `before`, for the key of the
    request: to the call itself, or to a call that left it in the cache under this key,
    less than the TTL before the return. -/
structure Served (r : Return) (key : CacheKey) (before : List Event) (id : Nat) (path : String) (version : Version) :
    Prop where
  keyed : cache_key repr r.request = .ok key
  read : ReadAt repr config start events before id key path version
  addressed : Addressed repr config start before id key path
  credential : credential_of version.data = some r.credential
  past : (run repr config start before).clock ≤ r.returned_at
  fresh : match r.source with
    | .fetched => id = r.call
    | .cached => r.returned_at < (run repr config start before).clock + CACHE_TTL ∧
        HeldAt repr config start events key r

/-! ### The invariant -/

/-- The call `id` has read the credential for the key, not before `since`. -/
def Sourced (id : Nat) (key : CacheKey) (credential : AtlassianCredential) (since : Int) : Prop :=
  ∃ before path version, ReadAt repr config start events before id key path version ∧
    Addressed repr config start before id key path ∧ credential_of version.data = some credential ∧
    since ≤ (run repr config start before).clock

/-- What a suspended call knows. -/
def Pending (now : Int) (id : Nat) (call : Call) : Prop :=
  cache_key repr call.request = .ok call.key ∧
    match call.phase with
    | .looking => call.key.scope = .org
    | .located row => call.key.scope = .org ∧ ∀ path, row = some path → Looked repr config start events id call.key path
    | .reading _ path asked _ => Addressed repr config start events id call.key path ∧ asked ≤ now
    | .answered _ path asked _ result => Addressed repr config start events id call.key path ∧ asked ≤ now ∧
        ∀ version, result = some version → ∀ credential, credential_of version.data = some credential →
          Sourced repr config start events id call.key credential asked
    | .auditing _ (.raise _) => True
    | .auditing _ (.store credential asked _) => Sourced repr config start events id call.key credential asked

structure Inv (s : State) : Prop where
  calls : ∀ id call, s.calls.get? id = some call → Pending repr config start events s.clock id call
  cache : ∀ key entry, s.cred_cache.get? key = some entry →
    ∃ id, Sourced repr config start events id key entry.credential entry.cached_at
  returned : ∀ r ∈ s.returned, ∃ key before id path version, Served repr config start events r key before id path version

end

theorem cache_key_ok {repr : String → String} {r : Request} {key : CacheKey} (keyed : cache_key repr r = .ok key) :
    (r.scope = "org" ∨ r.scope = "bot") ∧ key = ⟨.org,r.dept_id,r.service⟩ ∨
      ∃ session_id, r.scope = "user" ∧ r.session_id = some session_id ∧ session_id ≠ "" ∧
        key = ⟨.user,session_id,r.service⟩ := by
  by_cases bot : r.scope = "bot"
  · simp [cache_key,bot] at keyed
    exact .inl ⟨.inr bot,keyed.symm⟩
  by_cases org : r.scope = "org"
  · simp [cache_key,org] at keyed
    exact .inl ⟨.inl org,keyed.symm⟩
  by_cases user : r.scope = "user"
  · cases session : r.session_id.filter (· ≠ "") with
    | none =>
      have refused : cache_key repr r = .error (.ValueError "scope='user' requires a non-empty session_id") := by
        rw [cache_key,session]
        simp [user]
      rw [refused] at keyed
      cases keyed
    | some session_id =>
      have accepted : cache_key repr r = .ok ⟨.user,session_id,r.service⟩ := by
        rw [cache_key,session]
        simp [user]
      rw [accepted] at keyed
      cases keyed
      simp only [Option.filter_eq_some_iff,decide_eq_true_eq] at session
      exact .inr ⟨session_id,user,session.1,session.2,rfl⟩
  · simp [cache_key,bot,org,user] at keyed

theorem cache_key_service {repr : String → String} {r : Request} {key : CacheKey} (keyed : cache_key repr r = .ok key) :
    key.service = r.service := by
  obtain ⟨-,rfl⟩ | ⟨session_id,-,-,-,rfl⟩ := cache_key_ok keyed
  · rfl
  · rfl

theorem cache_key_org {repr : String → String} {r : Request} {key : CacheKey} (keyed : cache_key repr r = .ok key)
    (org : key.scope = .org) : key.cache_id = r.dept_id := by
  obtain ⟨-,rfl⟩ | ⟨session_id,-,-,-,rfl⟩ := cache_key_ok keyed
  · rfl
  · cases org

section
variable {repr : String → String} {config : Config} {start : State} {events later : List Event}
variable {id : Nat} {key : CacheKey} {path : String} {credential : AtlassianCredential} {s : State}

theorem run_snoc (event : Event) :
    run repr config start (events ++ [event]) = step repr config (run repr config start events) event := by
  simp [run,List.foldl_append]

/-! What has happened stays so in every longer run. -/

theorem ReadAt.mono {before : List Event} {version : Version} (sub : events <+: later)
    (read : ReadAt repr config start events before id key path version) :
    ReadAt repr config start later before id key path version :=
  { read with happens := read.happens.trans sub }

theorem Looked.mono (sub : events <+: later) (looked : Looked repr config start events id key path) :
    Looked repr config start later id key path := by
  obtain ⟨before,happens,rest⟩ := looked
  exact ⟨before,happens.trans sub,rest⟩

theorem Addressed.mono (sub : events <+: later) (addressed : Addressed repr config start events id key path) :
    Addressed repr config start later id key path := by
  obtain ⟨scope,cache_id,service⟩ := key
  cases scope with
  | user => exact addressed
  | org => exact ⟨addressed.1,addressed.2.mono sub⟩

theorem Sourced.mono {since : Int} (sub : events <+: later)
    (sourced : Sourced repr config start events id key credential since) :
    Sourced repr config start later id key credential since := by
  obtain ⟨before,path,version,read,rest⟩ := sourced
  exact ⟨before,path,version,read.mono sub,rest⟩

theorem HeldAt.mono {r : Return} (sub : events <+: later) (held : HeldAt repr config start events key r) :
    HeldAt repr config start later key r := by
  obtain ⟨before,event,entry,happens,rest⟩ := held
  exact ⟨before,event,entry,happens.trans sub,rest⟩

theorem Served.mono {r : Return} {before : List Event} {version : Version} (sub : events <+: later)
    (served : Served repr config start events r key before id path version) :
    Served repr config start later r key before id path version := by
  refine { served with read := served.read.mono sub, fresh := ?_ }
  have fresh := served.fresh
  cases source : r.source with
  | fetched =>
    rw [source] at fresh
    exact fresh
  | cached =>
    rw [source] at fresh
    exact ⟨fresh.1,fresh.2.mono sub⟩

variable {call : Call}

theorem Pending.mono {now then_ : Int} (sub : events <+: later) (passes : now ≤ then_)
    (pending : Pending repr config start events now id call) : Pending repr config start later then_ id call := by
  obtain ⟨request,key,phase⟩ := call
  obtain ⟨keyed,known⟩ := pending
  refine ⟨keyed,?_⟩
  cases phase with
  | looking => exact known
  | located row => exact ⟨known.1,fun path found => (known.2 path found).mono sub⟩
  | reading method path asked cached => exact ⟨known.1.mono sub,Int.le_trans known.2 passes⟩
  | answered method path asked cached result =>
    obtain ⟨addressed,earlier,sourced⟩ := known
    refine ⟨addressed.mono sub,Int.le_trans earlier passes,?_⟩
    intro version found credential complete
    exact (sourced version found credential complete).mono sub
  | auditing event next =>
    cases next with
    | raise error => trivial
    | store credential asked created => exact known.mono sub

theorem Inv.mono (sub : events <+: later) (inv : Inv repr config start events s) : Inv repr config start later s where
  calls id call found := (inv.calls id call found).mono sub (Int.le_refl _)
  cache key entry found := by
    obtain ⟨id,sourced⟩ := inv.cache key entry found
    exact ⟨id,sourced.mono sub⟩
  returned r member := by
    obtain ⟨key,before,id,path,version,served⟩ := inv.returned r member
    exact ⟨key,before,id,path,version,served.mono sub⟩

/-! The changes of the state, one at a time. -/

theorem Inv.suspend (inv : Inv repr config start events s)
    (pending : Pending repr config start events s.clock id call) : Inv repr config start events (s.suspend id call) where
  calls other found := by
    intro held
    simp only [State.suspend,Dict.get?_set] at held
    split at held
    · next same =>
      cases held
      rw [same]
      exact pending
    · exact inv.calls other found held
  cache := inv.cache
  returned := inv.returned

theorem Inv.erase (inv : Inv repr config start events s) :
    Inv repr config start events { s with calls := s.calls.erase id } where
  calls other call := by
    intro held
    simp only [Dict.get?_erase] at held
    split at held
    · cases held
    · exact inv.calls other call held
  cache := inv.cache
  returned := inv.returned

theorem Inv.raise {error : GetError} (inv : Inv repr config start events s) :
    Inv repr config start events (s.raise id error) :=
  ⟨inv.erase.calls,inv.cache,inv.returned⟩

theorem Inv.give {request : Request} {source : Source} (inv : Inv repr config start events s)
    (served : ∃ key before reader path version,
      Served repr config start events ⟨id,request,credential,s.clock,source⟩ key before reader path version) :
    Inv repr config start events (s.give id request credential source) where
  calls := inv.erase.calls
  cache := inv.cache
  returned r member := by
    simp only [State.give,List.mem_append,List.mem_singleton] at member
    obtain earlier | rfl := member
    · exact inv.returned r earlier
    · exact served

theorem Inv.store {entry : CachedEntry} (inv : Inv repr config start events s)
    (sourced : ∃ id, Sourced repr config start events id key entry.credential entry.cached_at) :
    Inv repr config start events (s.store key entry) where
  calls := inv.calls
  cache other found := by
    intro held
    simp only [State.store,Dict.get?_set] at held
    split at held
    · next same =>
      cases held
      rw [same]
      exact sourced
    · exact inv.cache other found held
  returned := inv.returned

theorem Inv.forget (inv : Inv repr config start events s) : Inv repr config start events (s.forget key) where
  calls := inv.calls
  cache other entry := by
    intro held
    simp only [State.forget,Dict.get?_erase] at held
    split at held
    · cases held
    · exact inv.cache other entry held
  returned := inv.returned

/-! The clock. -/

@[simp] theorem suspend_clock (call : Call) : (s.suspend id call).clock = s.clock := rfl

@[simp] theorem raise_clock (error : GetError) : (s.raise id error).clock = s.clock := rfl

@[simp] theorem give_clock (request : Request) (source : Source) :
    (s.give id request credential source).clock = s.clock := rfl

@[simp] theorem proceed_clock (call : Call) (next : Next) : (proceed id call s next).clock = s.clock := by
  cases next <;> rfl

@[simp] theorem audit_clock (call : Call) (event : AuditEvent) (next : Next) :
    (audit config id call event next s).clock = s.clock := by
  unfold audit
  split <;> simp

@[simp] theorem refuse_scope_clock (call : Call) (dept_id : String) :
    (refuse_scope repr config id call path dept_id s).clock = s.clock := by
  simp [refuse_scope]

@[simp] theorem serve_clock (call : Call) : (serve config id call path s).clock = s.clock := by
  simp only [serve]
  split <;> simp

theorem get_clock (request : Request) : (get repr config request s).clock = s.clock := by
  simp only [get]
  split
  · rfl
  · split
    · split <;> simp
    · rfl

theorem deliver_clock (call : Call) : (deliver repr config id call s).clock = s.clock := by
  unfold deliver
  split
  · simp only [lookup_credential_ref]
    split
    · rfl
    · split <;> simp
  · simp only [refresh]
    split
    · rfl
    · split
      · rfl
      · split <;> simp
  · rfl

theorem answer_clock (call : Call) : (answer id call s).clock = s.clock := by
  unfold answer
  split <;> rfl

theorem fail_clock (call : Call) (failure : Failure) : (fail id call failure s).clock = s.clock := by
  unfold fail
  split <;> rfl

theorem audited_clock (call : Call) (written : Bool) : (audited id call written s).clock = s.clock := by
  unfold audited
  split <;> simp

theorem onCall_clock {f : Call → State → State} (keeps : ∀ call, (f call s).clock = s.clock) :
    (onCall id f s).clock = s.clock := by
  unfold onCall
  split
  · exact keeps _
  · rfl

theorem step_clock (s : State) (event : Event) : s.clock ≤ (step repr config s event).clock := by
  have same : ∀ {t : State}, t.clock = s.clock → s.clock ≤ t.clock := fun eq => Int.le_of_eq eq.symm
  cases event with
  | call request => exact same (get_clock request)
  | answer id => exact same (onCall_clock answer_clock)
  | deliver id => exact same (onCall_clock deliver_clock)
  | fail id failure => exact same (onCall_clock fun call => fail_clock call failure)
  | audited id written => exact same (onCall_clock fun call => audited_clock call written)
  | tick elapsed =>
    simp only [step]
    omega
  | _ => exact same rfl

theorem run_clock (s : State) (events : List Event) : s.clock ≤ (run repr config s events).clock := by
  induction events generalizing s with
  | nil => exact Int.le_refl _
  | cons event events ih => exact Int.le_trans (step_clock s event) (ih _)

theorem clock_mono {before : List Event} (sub : before <+: events) :
    (run repr config start before).clock ≤ (run repr config start events).clock := by
  obtain ⟨more,rfl⟩ := sub
  have split : run repr config start (before ++ more) = run repr config (run repr config start before) more := by
    simp [run,List.foldl_append]
  rw [split]
  exact run_clock _ more

/-! ### The invariant in every run -/

theorem Sourced.served {r : Return} {since : Int} (sourced : Sourced repr config start events id key r.credential since)
    (keyed : cache_key repr r.request = .ok key) (now : r.returned_at = (run repr config start events).clock)
    (fresh : ∀ at_, since ≤ at_ → match r.source with
      | .fetched => id = r.call
      | .cached => r.returned_at < at_ + CACHE_TTL ∧ HeldAt repr config start later key r)
    (sub : events <+: later) :
    ∃ key before id path version, Served repr config start later r key before id path version := by
  obtain ⟨before,path,version,read,addressed,complete,since_⟩ := sourced
  have past : (run repr config start before).clock ≤ r.returned_at := by
    rw [now]
    exact clock_mono ((List.prefix_append before _).trans read.happens)
  exact ⟨key,before,id,path,version,
    { keyed, read := read.mono sub, addressed, credential := complete, past, fresh := fresh _ since_ }⟩

theorem Inv.proceed {next : Next} (inv : Inv repr config start events s)
    (keyed : cache_key repr call.request = .ok call.key) (now : s.clock = (run repr config start events).clock)
    (known : ∀ credential asked created, next = .store credential asked created →
      Sourced repr config start events id call.key credential asked) :
    Inv repr config start events (proceed id call s next) := by
  cases next with
  | raise error => exact inv.raise
  | store credential asked created =>
    have sourced := known credential asked created rfl
    refine Inv.give (inv.store ⟨id,sourced⟩) ?_
    exact sourced.served keyed now (fun _ _ => rfl) List.prefix_rfl

theorem Inv.audit {event : AuditEvent} {next : Next} (inv : Inv repr config start events s)
    (keyed : cache_key repr call.request = .ok call.key) (now : s.clock = (run repr config start events).clock)
    (known : ∀ credential asked created, next = .store credential asked created →
      Sourced repr config start events id call.key credential asked) :
    Inv repr config start events (audit config id call event next s) := by
  unfold CredentialResolver.audit
  split
  · refine inv.suspend ⟨keyed,?_⟩
    cases next with
    | raise error => trivial
    | store credential asked created => exact known credential asked created rfl
  · exact inv.proceed keyed now known

theorem Inv.refuse_scope {dept_id : String} (inv : Inv repr config start events s)
    (keyed : cache_key repr call.request = .ok call.key) (now : s.clock = (run repr config start events).clock) :
    Inv repr config start events (refuse_scope repr config id call path dept_id s) := by
  refine inv.audit keyed now ?_
  intro credential asked created impossible
  cases impossible

theorem Inv.serve (event : Event) (inv : Inv repr config start events s)
    (keyed : cache_key repr call.request = .ok call.key) (now : s.clock = (run repr config start events).clock)
    (cache : s.cred_cache = (run repr config start events).cred_cache)
    (addressed : Addressed repr config start events id call.key path) :
    Inv repr config start (events ++ [event]) (serve config id call path s) := by
  have sub : events <+: events ++ [event] := List.prefix_append events [event]
  simp only [CredentialResolver.serve]
  split
  · next entry found =>
    simp only [Option.filter_eq_some_iff,decide_eq_true_eq] at found
    obtain ⟨held,young⟩ := found
    obtain ⟨reader,sourced⟩ := inv.cache call.key entry held
    refine (inv.mono sub).give (sourced.served keyed now ?_ sub)
    intro at_ since
    have fresh : s.clock < at_ + CACHE_TTL := by omega
    rw [cache] at held
    exact ⟨fresh,events,event,entry,List.prefix_rfl,now.symm,held,rfl⟩
  · refine Inv.mono sub (inv.suspend ?_)
    exact ⟨keyed,addressed,Int.le_refl _⟩

theorem inv_get (request : Request) (inv : Inv repr config start events (run repr config start events)) :
    Inv repr config start (events ++ [.call request]) (get repr config request (run repr config start events)) := by
  have sub : events <+: events ++ [.call request] := List.prefix_append events _
  have numbered : Inv repr config start events
      { run repr config start events with next_call := (run repr config start events).next_call + 1 } :=
    ⟨inv.calls,inv.cache,inv.returned⟩
  simp only [get]
  split
  · exact numbered.raise.mono sub
  · next key keyed =>
    split
    · next user =>
      split
      · exact (numbered.refuse_scope keyed rfl).mono sub
      · refine numbered.serve (.call request) keyed rfl rfl ?_
        simp only [Addressed,user]
        rw [cache_key_service keyed]
    · next org => exact Inv.mono sub (numbered.suspend ⟨keyed,org⟩)

theorem inv_answer (inv : Inv repr config start events (run repr config start events))
    (found : (run repr config start events).calls.get? id = some call) :
    Inv repr config start (events ++ [.answer id]) (answer id call (run repr config start events)) := by
  have sub : events <+: events ++ [.answer id] := List.prefix_append events _
  obtain ⟨request,key,phase⟩ := call
  obtain ⟨keyed,known⟩ := inv.calls id _ found
  cases phase with
  | looking =>
    refine (inv.mono sub).suspend ⟨keyed,known,?_⟩
    intro path row
    refine ⟨events,List.prefix_rfl,⟨request,found⟩,?_⟩
    rw [cache_key_org keyed known,cache_key_service keyed]
    exact row
  | reading method path asked cached =>
    obtain ⟨addressed,earlier⟩ := known
    refine (inv.mono sub).suspend ⟨keyed,addressed.mono sub,earlier,?_⟩
    intro version held credential complete
    have read : ReadAt repr config start (events ++ [.answer id]) events id key path version :=
      { happens := List.prefix_rfl, asked := ⟨request,method,asked,cached,keyed,found⟩, held }
    exact ⟨events,path,version,read,addressed,complete,earlier⟩
  | _ => exact inv.mono sub

theorem inv_lookup (call : Call) {row : Option String} (event : Event)
    (inv : Inv repr config start events (run repr config start events))
    (pending : Pending repr config start events (run repr config start events).clock id { call with phase := .located row }) :
    Inv repr config start (events ++ [event])
      (lookup_credential_ref repr config id call row (run repr config start events)) := by
  have sub : events <+: events ++ [event] := List.prefix_append events _
  obtain ⟨keyed,org,looked⟩ := pending
  simp only [lookup_credential_ref]
  split
  · exact inv.raise.mono sub
  · next path =>
    split
    · exact (inv.refuse_scope keyed rfl).mono sub
    · next outside =>
      have addressed : Addressed repr config start events id call.key path := by
        have department : call.key.scope = .org := org
        simp only [Addressed,department]
        exact ⟨by simpa using outside,looked path rfl⟩
      exact inv.serve event keyed rfl rfl addressed

theorem inv_refresh (call : Call) {method : Method} {asked : Int} {cached : Option CachedEntry} {result : Option Version}
    (inv : Inv repr config start events (run repr config start events))
    (pending : Pending repr config start events (run repr config start events).clock id
      { call with phase := .answered method path asked cached result }) :
    Inv repr config start events
      (refresh config id call method path asked cached result (run repr config start events)) := by
  obtain ⟨keyed,-,-,sourced⟩ := pending
  simp only [refresh]
  split
  · exact inv.forget.raise
  · next version =>
    split
    · exact inv.raise
    · next credential complete =>
      have known : ∀ kept since created,
          Next.store credential asked (created_time method version) = .store kept since created →
          Sourced repr config start events id call.key kept since := by
        intro kept since created stored
        cases stored
        exact sourced version rfl credential complete
      split
      · exact inv.audit keyed rfl known
      · exact inv.proceed keyed rfl known

theorem inv_deliver (inv : Inv repr config start events (run repr config start events))
    (found : (run repr config start events).calls.get? id = some call) :
    Inv repr config start (events ++ [.deliver id]) (deliver repr config id call (run repr config start events)) := by
  have sub : events <+: events ++ [.deliver id] := List.prefix_append events _
  obtain ⟨request,key,phase⟩ := call
  have pending := inv.calls id _ found
  cases phase with
  | located row => exact inv_lookup ⟨request,key,.located row⟩ (.deliver id) inv pending
  | answered method path asked cached result =>
    exact (inv_refresh ⟨request,key,.answered method path asked cached result⟩ inv pending).mono sub
  | _ => exact inv.mono sub

theorem inv_fail (failure : Failure) (inv : Inv repr config start events (run repr config start events))
    (found : (run repr config start events).calls.get? id = some call) :
    Inv repr config start events (fail id call failure (run repr config start events)) := by
  obtain ⟨request,key,phase⟩ := call
  obtain ⟨keyed,known⟩ := inv.calls id _ found
  unfold fail
  split
  · next waits =>
    change phase = _ at waits
    subst waits
    refine inv.suspend ⟨keyed,?_⟩
    exact known
  · next waits =>
    change phase = _ at waits
    subst waits
    refine inv.suspend ⟨keyed,?_⟩
    exact ⟨known.1,known.2.1⟩
  · exact inv
  · exact inv.raise

theorem inv_audited (written : Bool) (inv : Inv repr config start events (run repr config start events))
    (found : (run repr config start events).calls.get? id = some call) :
    Inv repr config start events (audited id call written (run repr config start events)) := by
  obtain ⟨request,key,phase⟩ := call
  obtain ⟨keyed,known⟩ := inv.calls id _ found
  cases phase with
  | auditing event next =>
    have logged : ∀ audits, Inv repr config start events { run repr config start events with audits := audits } :=
      fun audits => ⟨inv.calls,inv.cache,inv.returned⟩
    refine (logged _).proceed keyed rfl ?_
    intro credential asked created stored
    subst stored
    exact known
  | _ => exact inv

theorem inv_onCall {f : Call → State → State} (sub : events <+: later)
    (inv : Inv repr config start events (run repr config start events))
    (keeps : ∀ call, (run repr config start events).calls.get? id = some call →
      Inv repr config start later (f call (run repr config start events))) :
    Inv repr config start later (onCall id f (run repr config start events)) := by
  unfold onCall
  split
  · next call found => exact keeps call found
  · exact inv.mono sub

theorem inv_step (event : Event) (inv : Inv repr config start events (run repr config start events)) :
    Inv repr config start (events ++ [event]) (step repr config (run repr config start events) event) := by
  have sub : events <+: events ++ [event] := List.prefix_append events _
  cases event with
  | call request => exact inv_get request inv
  | answer id => exact inv_onCall sub inv fun call found => inv_answer inv found
  | deliver id => exact inv_onCall sub inv fun call found => inv_deliver inv found
  | fail id failure => exact inv_onCall sub inv fun call found => (inv_fail failure inv found).mono sub
  | audited id written => exact inv_onCall sub inv fun call found => (inv_audited written inv found).mono sub
  | cancel id => exact inv.erase.mono sub
  | tick elapsed =>
    refine ⟨fun id call found => ?_,(inv.mono sub).cache,(inv.mono sub).returned⟩
    have passes : (run repr config start events).clock ≤
        (step repr config (run repr config start events) (.tick elapsed)).clock := step_clock _ _
    exact (inv.calls id call found).mono sub passes
  | _ => exact ⟨(inv.mono sub).calls,(inv.mono sub).cache,(inv.mono sub).returned⟩

theorem inv_run (vault : Dict String Version) (department_bots : Dict (String × String) String) (clock : Int)
    (events : List Event) :
    Inv repr config (.start vault department_bots clock) events
      (run repr config (.start vault department_bots clock) events) := by
  induction events using List.reverseRecOn with
  | nil =>
    refine ⟨?_,?_,?_⟩
    · intro id call found
      cases found
    · intro key entry found
      cases found
    · intro r member
      cases member
  | append_singleton events event ih =>
    rw [run_snoc]
    exact inv_step event ih

end

/-- Every credential of every run was read from Vault for the key of the request it is
    returned to, by the call itself or less than the TTL before, and no call of the org
    scope asks Vault for a path of users. -/
theorem credentials_fresh_and_isolated (repr : String → String) (config : Config) (vault : Dict String Version)
    (department_bots : Dict (String × String) String) (clock : Int) (events : List Event) :
    (∀ r ∈ (run repr config (.start vault department_bots clock) events).returned, ∃ key before id path version,
      Served repr config (.start vault department_bots clock) events r key before id path version) ∧
    ∀ before id request key method path now cached, before ++ [.answer id] <+: events →
      (run repr config (.start vault department_bots clock) before).calls.get? id =
        some ⟨request,key,.reading method path now cached⟩ →
      cache_key repr request = .ok key ∧ (key.scope = .org → contains path USER_PATH_INFIX = false) := by
  refine ⟨(inv_run vault department_bots clock events).returned,?_⟩
  intro before id request key method path now cached _ found
  obtain ⟨keyed,addressed,-⟩ := (inv_run vault department_bots clock before).calls id _ found
  refine ⟨keyed,fun org => ?_⟩
  have scope : key.scope = .org := org
  simp only [Addressed,scope] at addressed
  exact addressed.1

/-! ### What the TTL does not bound -/

/-- The credential was read within the TTL, by a call for the same key and the same department. -/
def ReadWithinTtl (repr : String → String) (config : Config) (start : State) (events : List Event) (r : Return) : Prop :=
  ∃ before id request key method path now cached version, before ++ [.answer id] <+: events ∧
    (run repr config start before).calls.get? id = some ⟨request,key,.reading method path now cached⟩ ∧
    (run repr config start before).vault.get? path = some version ∧
    credential_of version.data = some r.credential ∧
    cache_key repr r.request = .ok key ∧ request.dept_id = r.request.dept_id ∧
    (run repr config start before).clock ≤ r.returned_at ∧
    r.returned_at ≤ (run repr config start before).clock + CACHE_TTL

def sampleVersion (personal_token created_time : String) : Version :=
  { data := ((Dict.empty.set "url" "https://jira").set "username" "ada").set "personal_token" personal_token
    created_time := some created_time }

def sampleRequest (dept_id : String) : Request :=
  { dept_id, service := "jira", scope := "user", session_id := some "s1" }

def samplePath : String := "secret/atlassian/_user_session/s1/jira"

/-- A session is resolved for one department and then for another; when the TTL has
    passed its secret is rotated, and the audit of the rotation takes 301 seconds. -/
def sampleEvents : List Event :=
  [.call (sampleRequest "payment"),.answer 0,.deliver 0,.call (sampleRequest "hr"),.tick 300000000,
    .put_secret samplePath (sampleVersion "new" "2026-01-02"),.call (sampleRequest "payment"),.answer 2,.deliver 2,
    .tick 301000000,.audited 2 true]

def sampleStart : State := .start (Dict.empty.set samplePath (sampleVersion "old" "2026-01-01")) .empty 0

/-- Vault is read twice, for the department "payment" each time. -/
theorem sample_reads {before : List Event} {id : Nat} (happens : before ++ [.answer id] <+: sampleEvents) :
    before = sampleEvents.take 1 ∧ id = 0 ∨ before = sampleEvents.take 7 ∧ id = 2 := by
  obtain ⟨rest,split⟩ := happens
  have taken : before = sampleEvents.take before.length := by simp [← split]
  have next : sampleEvents[before.length]? = some (.answer id) := by simp [← split]
  have bound : before.length < 11 := by
    have total := congrArg List.length split
    simp only [List.length_append,List.length_singleton,show sampleEvents.length = 11 from rfl] at total
    omega
  generalize before.length = n at taken next bound
  match n,bound with
  | 1,_ =>
    cases next
    exact .inl ⟨taken,rfl⟩
  | 7,_ =>
    cases next
    exact .inr ⟨taken,rfl⟩
  | 0,_ | 2,_ | 3,_ | 4,_ | 5,_ | 6,_ | 8,_ | 9,_ | 10,_ => cases next

def sampleReturn (call : Nat) (dept_id personal_token : String) (returned_at : Int) (source : Source) : Return :=
  { call, request := sampleRequest dept_id, credential := ⟨"https://jira","ada",personal_token⟩, returned_at, source }

/-- The department of a session's request is not consulted, and an audit is awaited as
    long as it takes. -/
theorem session_shared_and_audit_awaited :
    (run id ⟨true,true⟩ sampleStart sampleEvents).returned =
      [sampleReturn 0 "payment" "old" 0 .fetched,sampleReturn 1 "hr" "old" 0 .cached,
        sampleReturn 2 "payment" "new" 601000000 .fetched] ∧
    ¬ReadWithinTtl id ⟨true,true⟩ sampleStart sampleEvents (sampleReturn 1 "hr" "old" 0 .cached) ∧
    ¬ReadWithinTtl id ⟨true,true⟩ sampleStart sampleEvents (sampleReturn 2 "payment" "new" 601000000 .fetched) := by
  refine ⟨rfl,?_,?_⟩
  · rintro ⟨before,reader,request,key,method,path,now,cached,version,happens,found,-,-,-,same,-⟩
    have other : ((run id ⟨true,true⟩ sampleStart before).calls.get? reader).map (·.request.dept_id) = some "payment" := by
      obtain ⟨rfl,rfl⟩ | ⟨rfl,rfl⟩ := sample_reads happens
      · rfl
      · rfl
    rw [found] at other
    have department : request.dept_id = "payment" := by simpa using other
    rw [department] at same
    exact absurd same (by decide)
  · rintro ⟨before,reader,request,key,method,path,now,cached,version,happens,-,-,-,-,-,-,fresh⟩
    have read : (run id ⟨true,true⟩ sampleStart before).clock ≤ 300000000 := by
      obtain ⟨rfl,rfl⟩ | ⟨rfl,rfl⟩ := sample_reads happens
      · decide
      · decide
    have late : (sampleReturn 2 "payment" "new" 601000000 .fetched).returned_at = 601000000 := rfl
    simp only [CACHE_TTL,late] at fresh
    omega

end Automation.CredentialResolver
