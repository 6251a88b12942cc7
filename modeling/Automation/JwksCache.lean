import Automation.Dict
import Automation.Json
import Mathlib.Algebra.Order.Ring.Rat
import Mathlib.Data.List.Induction

/-!
The validator of OIDC tokens and its cache of signing keys. `jwks_cache_sound`: in every run
a token is verified with a key that the document listed under its `kid` less than the lifetime
of the cache ago, a `kid` that is listed now is not unknown, and a fetch that fails leaves the
cache; the errors are those of the validator where the documents are objects and jose accepts
the keys they list.
-/
namespace Automation.JwksCache

abbrev Fields := List (String × Json)

inductive AuthMode where
  | dev
  | production
  deriving DecidableEq

structure Config where
  issuer : String
  audience : String
  auth_mode : AuthMode
  /-- The lifetime that the validator is built with. -/
  cache_ttl_seconds : Int

def min_jwks_cache_ttl_seconds : Int := 300

def Config.jwks_cache_ttl_seconds (config : Config) : Int := max config.cache_ttl_seconds min_jwks_cache_ttl_seconds

/-- Why a token is invalid. -/
inductive Reason where
  | empty_token
  | invalid_header (error : String)
  | missing_kid
  | unsupported_alg (alg : Json)
  | fetch_failed (error : String)
  | parse_failed (error : String)
  | no_keys_array
  | unknown_key (kid : String)
  | invalid (error : String)
  | issuer_mismatch

def Reason.message (str : Json → String) : Reason → String
  | .empty_token => "empty token"
  | .invalid_header error => "invalid token header: " ++ error
  | .missing_kid => "token header missing 'kid'"
  | .unsupported_alg alg => "unsupported alg '" ++ str alg ++ "'"
  | .fetch_failed error => "jwks fetch failed: " ++ error
  | .parse_failed error => "jwks parse failed: " ++ error
  | .no_keys_array => "jwks document has no 'keys' array"
  | .unknown_key kid => "unknown signing key '" ++ kid ++ "'"
  | .invalid error => "invalid token: " ++ error
  | .issuer_mismatch => "issuer mismatch"

inductive Error where
  | invalid_token (reason : Reason)
  /-- The document is no dict and has no `get`. -/
  | attribute_error
  /-- An error of jose that is no `JWTError`. -/
  | jose_error
  /-- What a fetch raises besides `HTTPError` and `ValueError`. -/
  | other

inductive Decoded where
  | claims (fields : Fields)
  | jwt_error (error : String)
  | jose_error

structure Jose where
  /-- The header of a token, or the text of a `JWTError`. -/
  get_unverified_header : String → Except String Fields
  /-- `jwt.decode` of a token with a key, an audience and an issuer, at a time of the wall clock. -/
  decode : String → Fields → String → String → Rat → Decoded

inductive Failure where
  | http_error (error : String)
  | value_error (error : String)
  | other

/-- A token, and what the world holds for it: the document that is published and how a fetch of
    it fails, if it does. -/
structure Call where
  token : String
  published : Json
  failure : Option Failure
  /-- The monotonic clock at the start, and behind a fetch. -/
  now : Rat
  fetched_at : Rat
  wall : Rat

structure Cache where
  keys : Dict String Fields
  fetched_at : Rat

def Cache.empty : Cache := ⟨.empty,0⟩

def Cache.is_fresh (cache : Cache) (now : Rat) (ttl_seconds : Int) : Bool :=
  cache.fetched_at != 0 && decide (now - cache.fetched_at < ttl_seconds)

/-- The `kid` of an entry that is indexed. -/
def entry_kid : Json → Option (String × Fields)
  | .obj fields =>
    match (Json.obj fields).get "kid" with
    | .str kid => if kid = "" then none else some (kid,fields)
    | _ => none
  | _ => none

def index_entry (keys : Dict String Fields) (entry : Json) : Dict String Fields :=
  match entry_kid entry with
  | some (kid,fields) => keys.set kid fields
  | none => keys

def indexed (entries : List Json) : Dict String Fields := entries.foldl index_entry .empty

def fetch_jwks (call : Call) : Except Error (Dict String Fields) :=
  match call.failure with
  | some (.http_error error) => .error (.invalid_token (.fetch_failed error))
  | some (.value_error error) => .error (.invalid_token (.parse_failed error))
  | some .other => .error .other
  | none =>
    match call.published with
    | .obj fields =>
      match (Json.obj fields).get "keys" with
      | .arr entries => .ok (indexed entries)
      | _ => .error (.invalid_token .no_keys_array)
    | _ => .error .attribute_error

/-- The key of a `kid`, whether the document was fetched for it, and the cache behind. -/
structure Lookup where
  key : Except Error (Option Fields)
  fetched : Bool
  cache : Cache

def get_signing_key (config : Config) (cache : Cache) (call : Call) (kid : String) : Lookup :=
  let cached := if cache.is_fresh call.now config.jwks_cache_ttl_seconds then cache.keys.get? kid else none
  match cached with
  | some key => ⟨.ok (some key),false,cache⟩
  | none =>
    match fetch_jwks call with
    | .error error => ⟨.error error,true,cache⟩
    | .ok keys => ⟨.ok (keys.get? kid),true,⟨keys,call.fetched_at⟩⟩

/-- A call that has been answered: the caches around it, and the key that has verified the token. -/
structure Turn where
  call : Call
  given : Cache
  outcome : Except Error Fields
  verified : Option (String × Fields)
  fetched : Bool
  cache : Cache

variable (jose : Jose) (config : Config)

def refuse (cache : Cache) (call : Call) (reason : Reason) : Turn :=
  ⟨call,cache,.error (.invalid_token reason),none,false,cache⟩

/-- What is made of a token with its key. -/
def decode_claims (call : Call) (jwk : Fields) : Except Error Fields :=
  match jose.decode call.token jwk config.audience config.issuer call.wall with
  | .jose_error => .error .jose_error
  | .jwt_error error => .error (.invalid_token (.invalid error))
  | .claims claims =>
    match (Json.obj claims).get "iss" with
    | .str iss => if iss = config.issuer then .ok claims else .error (.invalid_token .issuer_mismatch)
    | _ => .error (.invalid_token .issuer_mismatch)

def validate_key (cache : Cache) (call : Call) (kid : String) : Turn :=
  let found := get_signing_key config cache call kid
  match found.key with
  | .error error => ⟨call,cache,.error error,none,found.fetched,found.cache⟩
  | .ok none => ⟨call,cache,.error (.invalid_token (.unknown_key kid)),none,found.fetched,found.cache⟩
  | .ok (some jwk) => ⟨call,cache,decode_claims jose config call jwk,some (kid,jwk),found.fetched,found.cache⟩

def is_rs256 : Json → Bool
  | .str alg => alg == "RS256"
  | _ => false

def validate_production (cache : Cache) (call : Call) : Turn :=
  if call.token = "" then refuse cache call .empty_token
  else
    match jose.get_unverified_header call.token with
    | .error error => refuse cache call (.invalid_header error)
    | .ok header =>
      match (Json.obj header).get "kid" with
      | .str kid =>
        if kid = "" then refuse cache call .missing_kid
        else if is_rs256 ((Json.obj header).get "alg") then validate_key jose config cache call kid
        else refuse cache call (.unsupported_alg ((Json.obj header).get "alg"))
      | _ => refuse cache call .missing_kid

def validate_dev (cache : Cache) (call : Call) : Turn :=
  if call.token = "" then refuse cache call .empty_token
  else ⟨call,cache,.ok [("sub",.str "dev-admin"),("role",.str "admin"),("groups",.arr [.str "admin"])],none,false,cache⟩

def validate (cache : Cache) (call : Call) : Turn :=
  match config.auth_mode with
  | .dev => validate_dev cache call
  | .production => validate_production jose config cache call

def run (cache : Cache) : List Call → List Turn
  | [] => []
  | call :: calls =>
    let turn := validate jose config cache call
    turn :: run turn.cache calls

/-- The document lists the key under the `kid`. -/
def Lists (document : Json) (kid : String) (jwk : Fields) : Prop :=
  ∃ fields entries, document = .obj fields ∧ (Json.obj fields).get "keys" = .arr entries ∧ .obj jwk ∈ entries ∧
    (Json.obj jwk).get "kid" = .str kid

/-- The `kid` of a token. -/
def TokenKid (call : Call) (kid : String) : Prop :=
  ∃ header, jose.get_unverified_header call.token = .ok header ∧ (Json.obj header).get "kid" = .str kid ∧ kid ≠ ""

/-- The turn has fetched a document that lists the key. -/
def Fetched (turn : Turn) (kid : String) (jwk : Fields) : Prop :=
  turn.fetched = true ∧ turn.call.failure = none ∧ Lists turn.call.published kid jwk

/-- No keys come from the fetch of the call. -/
def Fails (call : Call) : Prop :=
  call.failure = none → ∀ fields entries, call.published = .obj fields → (Json.obj fields).get "keys" ≠ .arr entries

/-- What holds of the cache in a run. -/
structure Cached (turns : List Turn) : Prop where
  /-- The key of a token was fetched in its call, or less than the lifetime before. -/
  current : ∀ before turn after, turns = before ++ turn :: after → ∀ kid jwk, turn.verified = some (kid,jwk) →
    TokenKid jose turn.call kid ∧ (Fetched turn kid jwk ∨ ∃ earlier ∈ before, Fetched earlier kid jwk ∧
      earlier.call.fetched_at ≤ turn.call.now ∧ turn.call.now - earlier.call.fetched_at < config.jwks_cache_ttl_seconds)
  /-- A token is not rejected for a key that is published. -/
  known : ∀ turn ∈ turns, ∀ kid jwk other, TokenKid jose turn.call kid → Lists turn.call.published kid jwk →
    turn.outcome ≠ .error (.invalid_token (.unknown_key other))
  kept : ∀ turn ∈ turns, turn.fetched = true → Fails turn.call → turn.cache = turn.given

/-- Every error is one of the validator. -/
def Translated (turns : List Turn) : Prop :=
  ∀ turn ∈ turns, ∀ error, turn.outcome = .error error → ∃ reason, error = .invalid_token reason

/-- The readings of the clock do not decrease. -/
structure Clocked (calls : List Call) : Prop where
  within : ∀ call ∈ calls, call.now ≤ call.fetched_at
  between : calls.Pairwise fun call next => call.fetched_at ≤ next.now

structure Orderly (calls : List Call) : Prop where
  /-- What is published is an object. -/
  document : ∀ call ∈ calls, call.failure = none → ∃ fields, call.published = .obj fields
  failure : ∀ call ∈ calls, call.failure ≠ some .other
  /-- jose takes the keys that are published for keys. -/
  keys : ∀ call ∈ calls, ∀ other ∈ calls, ∀ kid jwk, Lists other.published kid jwk →
    jose.decode call.token jwk config.audience config.issuer call.wall ≠ .jose_error

theorem entry_kid_some {entry : Json} {kid : String} {fields : Fields} (found : entry_kid entry = some (kid,fields)) :
    entry = .obj fields ∧ (Json.obj fields).get "kid" = .str kid ∧ kid ≠ "" := by
  unfold entry_kid at found
  split at found
  · rename_i given
    split at found
    · rename_i kid' known
      by_cases blank : kid' = ""
      · rw [if_pos blank] at found
        cases found
      · rw [if_neg blank] at found
        cases found
        exact ⟨rfl,known,blank⟩
    · cases found
  · cases found

theorem entry_kid_obj {kid : String} {fields : Fields} (known : (Json.obj fields).get "kid" = .str kid) (filled : kid ≠ "") :
    entry_kid (.obj fields) = some (kid,fields) := by
  unfold entry_kid
  dsimp only
  rw [known]
  exact if_neg filled

theorem indexed_concat (entries : List Json) (entry : Json) : indexed (entries ++ [entry]) = index_entry (indexed entries) entry := by
  simp [indexed]

theorem indexed_listed {entries : List Json} {kid : String} {jwk : Fields} (found : (indexed entries).get? kid = some jwk) :
    .obj jwk ∈ entries ∧ (Json.obj jwk).get "kid" = .str kid := by
  induction entries using List.reverseRecOn with
  | nil => cases found
  | append_singleton entries entry ih =>
    rw [indexed_concat,index_entry] at found
    cases indexes : entry_kid entry with
    | none =>
      rw [indexes] at found
      obtain ⟨member,known⟩ := ih found
      exact ⟨List.mem_append_left _ member,known⟩
    | some item =>
      obtain ⟨kid',fields⟩ := item
      obtain ⟨rfl,known,-⟩ := entry_kid_some indexes
      rw [indexes] at found
      dsimp only at found
      rw [Dict.get?_set] at found
      by_cases same : kid = kid'
      · rw [if_pos same] at found
        cases found
        exact ⟨List.mem_append_right _ List.mem_cons_self,same ▸ known⟩
      · rw [if_neg same] at found
        obtain ⟨member,known⟩ := ih found
        exact ⟨List.mem_append_left _ member,known⟩

theorem listed_indexed {entries : List Json} {kid : String} {jwk : Fields} (member : .obj jwk ∈ entries)
    (known : (Json.obj jwk).get "kid" = .str kid) (filled : kid ≠ "") : ∃ key, (indexed entries).get? kid = some key := by
  induction entries using List.reverseRecOn with
  | nil => cases member
  | append_singleton entries entry ih =>
    rw [indexed_concat,index_entry]
    rcases List.mem_append.mp member with earlier | last
    · obtain ⟨key,found⟩ := ih earlier
      cases entry_kid entry with
      | none => exact ⟨key,found⟩
      | some item =>
        dsimp only
        rw [Dict.get?_set]
        by_cases same : kid = item.1
        · exact ⟨item.2,if_pos same⟩
        · exact ⟨key,by rw [if_neg same,found]⟩
    · obtain rfl := List.mem_singleton.mp last
      rw [entry_kid_obj known filled]
      dsimp only
      rw [Dict.get?_set,if_pos rfl]
      exact ⟨jwk,rfl⟩

section
variable {call : Call} {keys : Dict String Fields}

theorem fetch_ok (fetched : fetch_jwks call = .ok keys) : call.failure = none ∧
    ∃ fields entries, call.published = .obj fields ∧ (Json.obj fields).get "keys" = .arr entries ∧ keys = indexed entries := by
  unfold fetch_jwks at fetched
  split at fetched
  · cases fetched
  · cases fetched
  · cases fetched
  · rename_i clear
    split at fetched
    · rename_i fields document
      split at fetched
      · rename_i entries listed
        cases fetched
        exact ⟨clear,fields,entries,document,listed,rfl⟩
      · cases fetched
    · cases fetched

theorem fetch_listed {kid : String} {jwk : Fields} (clear : call.failure = none) (lists : Lists call.published kid jwk)
    (filled : kid ≠ "") : ∃ keys key, fetch_jwks call = .ok keys ∧ keys.get? kid = some key := by
  obtain ⟨fields,entries,document,listed,member,known⟩ := lists
  obtain ⟨key,found⟩ := listed_indexed member known filled
  refine ⟨indexed entries,key,?_,found⟩
  unfold fetch_jwks
  rw [clear,document]
  dsimp only
  rw [listed]

theorem fetch_fails {error : Error} (failed : fetch_jwks call = .error error) :
    ∀ kid, error ≠ .invalid_token (.unknown_key kid) := by
  unfold fetch_jwks at failed
  split at failed
  · cases failed
    exact nofun
  · cases failed
    exact nofun
  · cases failed
    exact nofun
  · split at failed
    · split at failed
      · cases failed
      · cases failed
        exact nofun
    · cases failed
      exact nofun

theorem fetch_translated {error : Error} (failed : fetch_jwks call = .error error)
    (document : call.failure = none → ∃ fields, call.published = .obj fields) (failure : call.failure ≠ some .other) :
    ∃ reason, error = .invalid_token reason := by
  unfold fetch_jwks at failed
  split at failed
  · cases failed
    exact ⟨_,rfl⟩
  · cases failed
    exact ⟨_,rfl⟩
  · rename_i raised
    exact absurd raised failure
  · rename_i clear
    obtain ⟨fields,object⟩ := document clear
    rw [object] at failed
    dsimp only at failed
    split at failed
    · cases failed
    · cases failed
      exact ⟨_,rfl⟩

end

/-- What a call can do with the cache. -/
inductive Step (cache : Cache) (call : Call) : Turn → Prop where
  | refused (reason : Reason) (plain : ∀ kid, reason ≠ .unknown_key kid) : Step cache call (refuse cache call reason)
  | cached (kid : String) (jwk : Fields) (token : TokenKid jose call kid)
      (fresh : cache.is_fresh call.now config.jwks_cache_ttl_seconds = true) (found : cache.keys.get? kid = some jwk) :
      Step cache call ⟨call,cache,decode_claims jose config call jwk,some (kid,jwk),false,cache⟩
  | failed (error : Error) (fetch : fetch_jwks call = .error error) : Step cache call ⟨call,cache,.error error,none,true,cache⟩
  | unknown (kid : String) (keys : Dict String Fields) (token : TokenKid jose call kid) (fetch : fetch_jwks call = .ok keys)
      (missing : keys.get? kid = none) :
      Step cache call ⟨call,cache,.error (.invalid_token (.unknown_key kid)),none,true,⟨keys,call.fetched_at⟩⟩
  | loaded (kid : String) (jwk : Fields) (keys : Dict String Fields) (token : TokenKid jose call kid)
      (fetch : fetch_jwks call = .ok keys) (found : keys.get? kid = some jwk) :
      Step cache call ⟨call,cache,decode_claims jose config call jwk,some (kid,jwk),true,⟨keys,call.fetched_at⟩⟩

section
variable {jose config} {cache : Cache} {call : Call} {turn : Turn} {past : List Turn}

theorem validate_key_step {kid : String} (token : TokenKid jose call kid) :
    Step jose config cache call (validate_key jose config cache call kid) := by
  have absent : (if cache.is_fresh call.now config.jwks_cache_ttl_seconds = true then cache.keys.get? kid else none) = none →
      Step jose config cache call (validate_key jose config cache call kid) := by
    intro none_cached
    unfold validate_key get_signing_key
    rw [none_cached]
    dsimp only
    cases fetch : fetch_jwks call with
    | error error => exact .failed error fetch
    | ok keys =>
      dsimp only
      cases found : keys.get? kid with
      | none => exact .unknown kid keys token fetch found
      | some jwk => exact .loaded kid jwk keys token fetch found
  by_cases fresh : cache.is_fresh call.now config.jwks_cache_ttl_seconds = true
  · cases found : cache.keys.get? kid with
    | none => exact absent (by rw [if_pos fresh,found])
    | some jwk =>
      unfold validate_key get_signing_key
      rw [if_pos fresh,found]
      exact .cached kid jwk token fresh found
  · exact absent (if_neg fresh)

theorem validate_step (production : config.auth_mode = .production) (cache : Cache) (call : Call) :
    Step jose config cache call (validate jose config cache call) := by
  unfold validate
  rw [production]
  dsimp only
  unfold validate_production
  by_cases blank : call.token = ""
  · rw [if_pos blank]
    exact .refused .empty_token nofun
  · rw [if_neg blank]
    split
    · exact .refused _ nofun
    · rename_i header read
      split
      · rename_i kid known
        by_cases filled : kid = ""
        · rw [if_pos filled]
          exact .refused .missing_kid nofun
        · rw [if_neg filled]
          by_cases rs256 : is_rs256 ((Json.obj header).get "alg") = true
          · rw [if_pos rs256]
            exact validate_key_step ⟨header,read,known,filled⟩
          · rw [if_neg rs256]
            exact .refused _ nofun
      · exact .refused .missing_kid nofun

theorem Step.same_call (step : Step jose config cache call turn) : turn.call = call ∧ turn.given = cache := by
  cases step <;> exact ⟨rfl,rfl⟩

theorem Step.known (step : Step jose config cache call turn) {kid other : String} {jwk : Fields}
    (token : TokenKid jose call kid) (lists : Lists call.published kid jwk) :
    turn.outcome ≠ .error (.invalid_token (.unknown_key other)) := by
  intro rejected
  cases step with
  | refused reason plain =>
    cases rejected
    exact plain other rfl
  | cached kid jwk | loaded kid jwk =>
    dsimp only [decode_claims] at rejected
    split at rejected
    · cases rejected
    · cases rejected
    · split at rejected
      · split at rejected
        · cases rejected
        · cases rejected
      · cases rejected
  | failed error fetch =>
    cases rejected
    exact fetch_fails fetch other rfl
  | unknown kid' keys token' fetch missing =>
    obtain ⟨header,read,known,filled⟩ := token
    obtain ⟨header',read',known',-⟩ := token'
    rw [read] at read'
    cases read'
    rw [known] at known'
    cases known'
    obtain ⟨keys',key,fetch',found⟩ := fetch_listed (fetch_ok fetch).1 lists filled
    rw [fetch] at fetch'
    cases fetch'
    rw [missing] at found
    cases found

theorem Step.kept (step : Step jose config cache call turn) (fetched : turn.fetched = true) (fails : Fails call) :
    turn.cache = turn.given := by
  cases step with
  | refused | cached | failed => rfl
  | unknown kid keys token fetch | loaded kid jwk keys token fetch =>
    obtain ⟨clear,fields,entries,document,listed,-⟩ := fetch_ok fetch
    exact absurd listed (fails clear fields entries document)

/-- The keys of the cache are those of a document that was fetched at its time. -/
def Backed (past : List Turn) (cache : Cache) : Prop :=
  cache.fetched_at = 0 ∨ ∃ earlier ∈ past, earlier.fetched = true ∧ fetch_jwks earlier.call = .ok cache.keys ∧
    cache.fetched_at = earlier.call.fetched_at

theorem Step.backed (step : Step jose config cache call turn) (backed : Backed past cache) :
    Backed (past ++ [turn]) turn.cache := by
  have older : Backed (past ++ [turn]) cache := by
    rcases backed with uncached | ⟨earlier,member,held⟩
    · exact .inl uncached
    · exact .inr ⟨earlier,List.mem_append_left _ member,held⟩
  cases step with
  | refused | cached | failed => exact older
  | unknown kid keys token fetch | loaded kid jwk keys token fetch =>
    exact .inr ⟨_,List.mem_append_right _ List.mem_cons_self,rfl,fetch,rfl⟩

theorem fetched_lists {keys : Dict String Fields} {kid : String} {jwk : Fields} (fetched : turn.fetched = true)
    (fetch : fetch_jwks turn.call = .ok keys) (found : keys.get? kid = some jwk) : Fetched turn kid jwk := by
  obtain ⟨clear,fields,entries,document,listed,rfl⟩ := fetch_ok fetch
  obtain ⟨member,known⟩ := indexed_listed found
  exact ⟨fetched,clear,fields,entries,document,listed,member,known⟩

theorem Step.current (step : Step jose config cache call turn) (backed : Backed past cache)
    (clock : ∀ earlier ∈ past, earlier.call.fetched_at ≤ call.now) {kid : String} {jwk : Fields}
    (verified : turn.verified = some (kid,jwk)) :
    TokenKid jose turn.call kid ∧ (Fetched turn kid jwk ∨ ∃ earlier ∈ past, Fetched earlier kid jwk ∧
      earlier.call.fetched_at ≤ turn.call.now ∧ turn.call.now - earlier.call.fetched_at < config.jwks_cache_ttl_seconds) := by
  cases step with
  | refused | failed | unknown => cases verified
  | loaded kid' jwk' keys token fetch found =>
    cases verified
    exact ⟨token,.inl (fetched_lists rfl fetch found)⟩
  | cached kid' jwk' token fresh found =>
    cases verified
    refine ⟨token,.inr ?_⟩
    obtain ⟨stamped,young⟩ := Bool.and_eq_true_iff.mp fresh
    rcases backed with uncached | ⟨earlier,member,fetched,fetch,stamp⟩
    · rw [uncached] at stamped
      cases stamped
    · rw [stamp] at young
      exact ⟨earlier,member,fetched_lists fetched fetch found,clock earlier member,of_decide_eq_true young⟩

end

section
variable {jose config} {cache : Cache} {calls : List Call}

theorem run_steps (production : config.auth_mode = .production) (calls : List Call) (cache : Cache) :
    ∀ turn ∈ run jose config cache calls, turn.call ∈ calls ∧ Step jose config turn.given turn.call turn := by
  induction calls generalizing cache with
  | nil => exact fun turn member => absurd member List.not_mem_nil
  | cons call calls ih =>
    intro turn member
    rcases List.mem_cons.mp member with here | later
    · have step : Step jose config cache call turn := by
        rw [here]
        exact validate_step production cache call
      obtain ⟨same,given⟩ := step.same_call
      rw [same,given]
      exact ⟨List.mem_cons_self,step⟩
    · obtain ⟨listed,step⟩ := ih _ turn later
      exact ⟨List.mem_cons_of_mem _ listed,step⟩

theorem run_current (production : config.auth_mode = .production) {past : List Turn} (backed : Backed past cache)
    (clock : ∀ earlier ∈ past, ∀ call ∈ calls, earlier.call.fetched_at ≤ call.now)
    (between : calls.Pairwise fun call next => call.fetched_at ≤ next.now) {before after : List Turn} {turn : Turn}
    (same : run jose config cache calls = before ++ turn :: after) {kid : String} {jwk : Fields}
    (verified : turn.verified = some (kid,jwk)) :
    TokenKid jose turn.call kid ∧ (Fetched turn kid jwk ∨ ∃ earlier ∈ past ++ before, Fetched earlier kid jwk ∧
      earlier.call.fetched_at ≤ turn.call.now ∧ turn.call.now - earlier.call.fetched_at < config.jwks_cache_ttl_seconds) := by
  induction calls generalizing cache past before with
  | nil =>
    cases before with
    | nil => cases same
    | cons first before => cases same
  | cons call calls ih =>
    have step : Step jose config cache call _ := validate_step production cache call
    have here := step.same_call.1
    cases before with
    | nil =>
      obtain ⟨rfl,-⟩ := List.cons.inj same
      rw [List.append_nil]
      exact step.current backed (fun earlier member => clock earlier member call List.mem_cons_self) verified
    | cons first before =>
      obtain ⟨rfl,rest⟩ := List.cons.inj same
      have onward := ih (step.backed backed) ?_ between.of_cons rest
      · rwa [List.append_assoc,List.singleton_append] at onward
      · intro earlier member next listed
        rcases List.mem_append.mp member with old | new
        · exact clock earlier old next (List.mem_cons_of_mem _ listed)
        · rw [List.mem_singleton.mp new,here]
          exact List.rel_of_pairwise_cons between listed

theorem run_cached (production : config.auth_mode = .production) (clocked : Clocked calls) :
    Cached jose config (run jose config .empty calls) := by
  refine ⟨fun before turn after same kid jwk verified => ?_,fun turn member kid jwk other token lists => ?_,
    fun turn member fetched fails => ?_⟩
  · have unbacked : Backed [] .empty := .inl rfl
    have current := run_current production unbacked (fun earlier member => absurd member List.not_mem_nil) clocked.between same
      verified
    rwa [List.nil_append] at current
  · exact (run_steps production calls .empty turn member).2.known token lists
  · exact (run_steps production calls .empty turn member).2.kept fetched fails

theorem decode_translated {call : Call} {jwk : Fields}
    (accepted : jose.decode call.token jwk config.audience config.issuer call.wall ≠ .jose_error) {error : Error}
    (raised : decode_claims jose config call jwk = .error error) : ∃ reason, error = .invalid_token reason := by
  unfold decode_claims at raised
  split at raised
  · rename_i refused
    exact absurd refused accepted
  · cases raised
    exact ⟨_,rfl⟩
  · split at raised
    · split at raised
      · cases raised
      · cases raised
        exact ⟨_,rfl⟩
    · cases raised
      exact ⟨_,rfl⟩

theorem run_translated (production : config.auth_mode = .production) (clocked : Clocked calls)
    (orderly : Orderly jose config calls) : Translated (run jose config .empty calls) := by
  intro turn member error raised
  obtain ⟨listed,step⟩ := run_steps production calls .empty turn member
  have accepted : ∀ kid jwk, turn.verified = some (kid,jwk) →
      jose.decode turn.call.token jwk config.audience config.issuer turn.call.wall ≠ .jose_error := by
    intro kid jwk verified
    obtain ⟨before,after,same⟩ := List.append_of_mem member
    rcases ((run_cached production clocked).current before turn after same kid jwk verified).2 with
      ⟨-,-,lists⟩ | ⟨earlier,found,⟨-,-,lists⟩,-⟩
    · exact orderly.keys turn.call listed turn.call listed kid jwk lists
    · have source := (run_steps production calls .empty earlier (same ▸ List.mem_append_left _ found)).1
      exact orderly.keys turn.call listed earlier.call source kid jwk lists
  generalize turn.given = given,turn.call = call at step listed accepted
  cases step with
  | refused reason =>
    cases raised
    exact ⟨reason,rfl⟩
  | cached kid jwk | loaded kid jwk => exact decode_translated (accepted kid jwk rfl) raised
  | failed error fetch =>
    cases raised
    exact fetch_translated fetch (orderly.document call listed) (orderly.failure call listed)
  | unknown kid =>
    cases raised
    exact ⟨_,rfl⟩

end

/-- In every run on a clock that does not go back the cache is sound. Where the documents that
    arrive are objects, fetches fail as `httpx` says and jose accepts the keys that are listed,
    every error is an invalid token. -/
theorem jwks_cache_sound (jose : Jose) (config : Config) (calls : List Call) (production : config.auth_mode = .production)
    (clocked : Clocked calls) : Cached jose config (run jose config .empty calls) ∧
      (Orderly jose config calls → Translated (run jose config .empty calls)) :=
  ⟨run_cached production clocked,run_translated production clocked⟩

/-- A token of the key `k1`; every signature is good. -/
def one_token : Jose :=
  ⟨fun token => if token = "k1.payload" then .ok [("alg",.str "RS256"),("kid",.str "k1")] else .error "Error decoding token headers.",
    fun _ _ _ issuer _ => .claims [("iss",.str issuer)]⟩

def dashboard : Config := ⟨"https://idp","dashboard",.production,300⟩

def first_call (published : Json) : Call := ⟨"k1.payload",published,none,10,11,0⟩

theorem first_clocked (published : Json) : Clocked [first_call published] := by
  refine ⟨fun call listed => ?_,List.pairwise_singleton _ _⟩
  rw [List.mem_singleton.mp listed]
  change (10 : Rat) ≤ 11
  decide

/-- A document with the key, and a later call that needs no fetch; one would fail. -/
def two_calls : List Call :=
  [first_call (.obj [("keys",.arr [.obj [("kid",.str "k1"),("kty",.str "RSA")]])]),
    ⟨"k1.payload",.null,some (.http_error "down"),20,20,10⟩]

theorem two_calls_clocked : Clocked two_calls := by
  constructor
  · refine List.forall_mem_cons.mpr ⟨(first_clocked _).within _ List.mem_cons_self,?_⟩
    exact List.forall_mem_cons.mpr ⟨le_refl _,fun _ absent => absurd absent List.not_mem_nil⟩
  · refine List.pairwise_pair.mpr ?_
    change (11 : Rat) ≤ 20
    decide

theorem two_calls_sound :
    (run one_token dashboard .empty two_calls).map (fun turn => turn.fetched) = [true,false] ∧
      Cached one_token dashboard (run one_token dashboard .empty two_calls) ∧
        Translated (run one_token dashboard .empty two_calls) := by
  have sound := jwks_cache_sound one_token dashboard two_calls rfl two_calls_clocked
  refine ⟨by decide +kernel,sound.1,sound.2 ⟨fun call listed arrived => ?_,fun call listed => ?_,fun call _ other _ kid jwk _ => nofun⟩⟩
  · rcases List.mem_pair.mp listed with rfl | rfl
    · exact ⟨_,rfl⟩
    · cases arrived
  · rcases List.mem_pair.mp listed with rfl | rfl
    · exact nofun
    · exact nofun

theorem array_outcome : (validate one_token dashboard .empty (first_call (.arr []))).outcome = .error .attribute_error := rfl

/-- A document that is an array: the fetch asks it for its `keys`. -/
theorem array_document_escapes : Clocked [first_call (.arr [])] ∧
    ¬ Translated (run one_token dashboard .empty [first_call (.arr [])]) := by
  refine ⟨first_clocked _,fun translated => ?_⟩
  obtain ⟨reason,same⟩ := translated _ List.mem_cons_self _ array_outcome
  cases same

end Automation.JwksCache
