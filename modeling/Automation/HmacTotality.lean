import Automation.CodePoints
import Automation.WebhookAcceptance

/-!
`verify_webhook_hmac` on every text that Python can hold: header, secrets and time stamps are
sequences of code points. On strings it is the verification that rotations are proved about
(`verify_strings`). It answers, and answers `true` only for the digest of a valid secret, unless
a valid secret cannot be encoded or the header has a code point after `sha256=` that is not
ASCII: `compare_digest` then raises (`hmac_total_iff`).
-/
namespace Automation.HmacTotality
open Automation.Calendar Automation.CodePoints
open Automation.RunnerRecords (isPathChar)
open Automation.WebhookSecrets (Raised orRaise active previous slot ALGORITHM_PREFIX ALLOWED_PROVIDERS validate_provider)

/-- The fields of a secret. -/
abbrev Payload := Text → Option Text

def coerce_secret (value : Text) : Except Raised (List UInt8) := orRaise .ValueError (encode value)

def hmac_hexdigest (secret body : List UInt8) : Text := ofString (Sha256.hex (Sha256.hmac secret body))

/-- Both texts have to be ASCII. -/
def compare_digest (expected received : Text) : Except Raised Bool :=
  if expected.all isAscii ∧ received.all isAscii then .ok (expected == received) else .error .TypeError

def signature_matches (secret body : List UInt8) (signature_header : Text) : Except Raised Bool :=
  if signature_header = [] ∨ (ofString ALGORITHM_PREFIX).isPrefixOf signature_header = false then .ok false
  else
    let received_hex := signature_header.drop ALGORITHM_PREFIX.length
    if received_hex = [] then .ok false else compare_digest (hmac_hexdigest secret body) received_hex

/-- A stamp with a surrogate is no stamp: `fromisoformat` raises a `ValueError`. -/
def parse_overlap_until (payload : Payload) : Option Datetime :=
  match payload (ofString "overlap_until") with
  | none => none
  | some raw => if raw = [] then none else (string? raw).bind fromisoformat

def still_open (now : Datetime) (payload : Payload) : Bool :=
  match parse_overlap_until payload with
  | none => false
  | some overlap_until => (ensure_aware now).instant < (ensure_aware overlap_until).instant

def secret_of (payload : Option Payload) : Option Text := payload.bind fun data => data (ofString "secret")

/-- The secret of the previous slot, as long as its window is open. -/
def open_secret (now : Datetime) (payload : Option Payload) : Option Text :=
  if payload.any (still_open now) then secret_of payload else none

/-- A slot that has no secret to try does not match. -/
def tried (secret : Option Text) (body : List UInt8) (signature : Text) : Except Raised Bool :=
  match secret with
  | none => pure false
  | some secret => do
    let key ← coerce_secret secret
    signature_matches key body signature

def verify_webhook_hmac (vault : String → Option Payload) (provider dept_id : String) (body : List UInt8) (signature : Text)
    (now : Datetime) : Except Raised Bool := do
  validate_provider provider
  let active_path ← active provider dept_id
  let previous_path ← previous provider dept_id
  let active_match ← tried (secret_of (vault active_path)) body signature
  let previous_match ← tried (open_secret now (vault previous_path)) body signature
  pure (active_match || previous_match)

/-- A payload of strings. -/
def texts (data : WebhookSecrets.Payload) : Payload := fun key =>
  (string? key).bind fun name => (data.get? name).map ofString

theorem texts_get (data : WebhookSecrets.Payload) (name : String) : texts data (ofString name) = (data.get? name).map ofString := by
  rw [texts,string?_ofString]
  rfl

theorem ascii_ofString (text : String) : (ofString text).all isAscii = text.toList.all (·.toNat < 128) := by
  rw [ofString,List.all_map]
  rfl

theorem prefix_ofString (first text : String) : (ofString first).isPrefixOf (ofString text) = PyText.hasPrefix text first := by
  have iff : (ofString first).isPrefixOf (ofString text) = true ↔ PyText.hasPrefix text first = true := by
    rw [List.isPrefixOf_iff_prefix,PyText.hasPrefix,PyText.startsWith_iff]
    constructor
    · rintro ⟨rest,same⟩
      have taken := congrArg (List.take (ofString first).length) same
      rw [List.take_left,ofString,ofString,List.length_map,← List.map_take] at taken
      have head := ofString_inj (s := first) (t := .ofList (text.toList.take first.toList.length))
        (by rw [ofString,ofString,String.toList_ofList]; exact taken)
      rw [head,String.toList_ofList]
      exact List.take_prefix _ _
    · rintro ⟨rest,same⟩
      rw [ofString,ofString,← same,List.map_append]
      exact List.prefix_append _ _
  exact Bool.eq_iff_iff.mpr iff

theorem signature_matches_ofString (secret : String) (body : List UInt8) (header : String) :
    signature_matches (Sha256.utf8 secret) body (ofString header) = WebhookSecrets.signature_matches secret body header := by
  have empty : ∀ text : String, ofString text = [] ↔ text = "" := fun text => by
    rw [ofString,List.map_eq_nil_iff,String.toList_eq_nil_iff]
  have dropped : (ofString header).drop ALGORITHM_PREFIX.length = ofString (PyText.dropChars ALGORITHM_PREFIX.length header) := by
    rw [ofString,ofString,PyText.dropChars,String.toList_ofList,List.map_drop]
  have equal : ∀ s t : String, (ofString s == ofString t) = (s == t) := fun s t => by
    rw [Bool.eq_iff_iff,beq_iff_eq,beq_iff_eq]
    exact ⟨ofString_inj,congrArg ofString⟩
  rw [signature_matches,WebhookSecrets.signature_matches,prefix_ofString,dropped]
  simp only [empty,compare_digest,WebhookSecrets.compare_digest,hmac_hexdigest,WebhookSecrets.hmac_hexdigest,ascii_ofString,equal]
  rfl

theorem tried_ofString (secret : Option String) (body : List UInt8) (signature : String) :
    tried (secret.map ofString) body (ofString signature) = WebhookSecrets.tried secret body signature := by
  cases secret with
  | none => rfl
  | some secret =>
    simp only [tried,Option.map_some,coerce_secret,encode_ofString,orRaise,bind,Except.bind]
    exact signature_matches_ofString secret body signature

theorem still_open_texts (now : Datetime) (data : WebhookSecrets.Payload) :
    still_open now (texts data) = WebhookSecrets.still_open now data := by
  have stamp : parse_overlap_until (texts data) = WebhookSecrets.parse_overlap_until data := by
    rw [parse_overlap_until,WebhookSecrets.parse_overlap_until,texts_get]
    cases data.get? "overlap_until" with
    | none => rfl
    | some raw =>
      have empty : ofString raw = [] ↔ raw = "" := by rw [ofString,List.map_eq_nil_iff,String.toList_eq_nil_iff]
      simp only [Option.map_some,empty,string?_ofString,Option.bind_some]
  rw [still_open,stamp]
  rfl

theorem verify_strings (store : WebhookSecrets.Store) (provider dept_id : String) (body : List UInt8) (signature : String)
    (now : Datetime) :
    verify_webhook_hmac (fun path => (store path).map texts) provider dept_id body (ofString signature) now =
      WebhookSecrets.verify_webhook_hmac WebhookSecrets.HashicorpBackend.client store provider dept_id body signature now := by
  have secret : ∀ payload : Option WebhookSecrets.Payload,
      secret_of (payload.map texts) = (WebhookSecrets.secret_of payload).map ofString := fun payload => by
    cases payload with
    | none => rfl
    | some data => exact texts_get data "secret"
  have opened : ∀ payload : Option WebhookSecrets.Payload,
      open_secret now (payload.map texts) = (WebhookSecrets.open_secret now payload).map ofString := fun payload => by
    cases payload with
    | none => rfl
    | some data =>
      simp only [open_secret,WebhookSecrets.open_secret,Option.map_some,Option.any_some,still_open_texts]
      split
      · exact secret (some data)
      · rfl
  simp only [verify_webhook_hmac,WebhookSecrets.verify_webhook_hmac,WebhookAcceptance.read_or_none_store,secret,opened,tried_ofString]
  rfl

/-- The header goes on behind `sha256=` with a text that is not ASCII. -/
def Foreign (signature : Text) : Prop := ∃ rest, signature = ofString ALGORITHM_PREFIX ++ rest ∧ rest.all isAscii = false

/-- `sha256=` and the digest of the secret. -/
def SignedWith (secret : Text) (body : List UInt8) (signature : Text) : Prop :=
  ∃ key, encode secret = some key ∧ signature = ofString ALGORITHM_PREFIX ++ hmac_hexdigest key body

section
variable {secret body : List UInt8}

theorem hexdigest_ascii : (hmac_hexdigest secret body).all isAscii = true := by
  rw [hmac_hexdigest,ascii_ofString,List.all_eq_true]
  exact fun c member => decide_eq_true (Sha256.hex_ascii _ member)

theorem signature_matches_marked (rest : Text) :
    signature_matches secret body (ofString ALGORITHM_PREFIX ++ rest) =
      if rest = [] then .ok false else compare_digest (hmac_hexdigest secret body) rest := by
  have filled : ofString ALGORITHM_PREFIX ++ rest ≠ [] := List.append_ne_nil_of_left_ne_nil (by decide) _
  have marked : (ofString ALGORITHM_PREFIX).isPrefixOf (ofString ALGORITHM_PREFIX ++ rest) = true :=
    List.isPrefixOf_iff_prefix.mpr (List.prefix_append _ _)
  have taken : (ofString ALGORITHM_PREFIX ++ rest).drop ALGORITHM_PREFIX.length = rest := List.drop_left' (by decide)
  simp only [signature_matches,filled,marked,taken,Bool.true_eq_false,or_self,if_false]

theorem signature_matches_unmarked {signature : Text} (unmarked : ¬ofString ALGORITHM_PREFIX <+: signature) :
    signature_matches secret body signature = .ok false := by
  have other : (ofString ALGORITHM_PREFIX).isPrefixOf signature = false := by
    rw [Bool.eq_false_iff]
    exact fun marked => unmarked (List.isPrefixOf_iff_prefix.mp marked)
  rw [signature_matches,if_pos (.inr other)]

/-- A header is compared unless what it goes on with is not ASCII. -/
theorem signature_matches_ok (signature : Text) :
    (∃ answer, signature_matches secret body signature = .ok answer) ↔ ¬Foreign signature := by
  by_cases marked : ofString ALGORITHM_PREFIX <+: signature
  · obtain ⟨rest,rfl⟩ := marked
    have foreign : Foreign (ofString ALGORITHM_PREFIX ++ rest) ↔ rest.all isAscii = false :=
      ⟨fun ⟨other,same,odd⟩ => by rwa [List.append_cancel_left same],fun odd => ⟨rest,rfl,odd⟩⟩
    rw [foreign,signature_matches_marked,compare_digest,hexdigest_ascii]
    by_cases empty : rest = []
    · rw [if_pos empty,empty]
      simp
    · rw [if_neg empty]
      cases rest.all isAscii with
      | false => simp
      | true => simp
  · rw [signature_matches_unmarked marked]
    refine ⟨fun _ foreign => ?_,fun _ => ⟨false,rfl⟩⟩
    obtain ⟨rest,rfl,-⟩ := foreign
    exact marked (List.prefix_append _ _)

theorem signature_matches_true {signature : Text} (accepted : signature_matches secret body signature = .ok true) :
    signature = ofString ALGORITHM_PREFIX ++ hmac_hexdigest secret body := by
  by_cases marked : ofString ALGORITHM_PREFIX <+: signature
  · obtain ⟨rest,rfl⟩ := marked
    rw [signature_matches_marked] at accepted
    split at accepted
    · cases accepted
    · unfold compare_digest at accepted
      split at accepted
      · rw [← eq_of_beq (Except.ok.inj accepted)]
      · cases accepted
  · rw [signature_matches_unmarked marked] at accepted
    cases accepted

end

section
variable {body : List UInt8} {signature : Text}

theorem tried_ok (secret : Option Text) :
    (∃ answer, tried secret body signature = .ok answer) ↔
      ∀ value ∈ secret, value.any isSurrogate = false ∧ ¬Foreign signature := by
  cases secret with
  | none =>
    refine ⟨fun _ value member => ?_,fun _ => ⟨false,rfl⟩⟩
    cases member
  | some value =>
    simp only [Option.mem_some_iff,forall_eq',tried,coerce_secret]
    have encodes := encode_isSome value
    cases encoded : encode value with
    | none =>
      rw [encoded] at encodes
      simp only [Option.isSome_none,Bool.false_eq,Bool.not_eq_false'] at encodes
      simp [orRaise,bind,Except.bind,encodes]
    | some key =>
      rw [encoded] at encodes
      simp only [Option.isSome_some,Bool.true_eq,Bool.not_eq_true'] at encodes
      simp only [orRaise,bind,Except.bind,encodes,true_and]
      exact signature_matches_ok signature

theorem tried_true {secret : Option Text} (accepted : tried secret body signature = .ok true) :
    ∃ value ∈ secret, SignedWith value body signature := by
  cases secret with
  | none => cases accepted
  | some value =>
    simp only [tried,coerce_secret] at accepted
    cases encoded : encode value with
    | none =>
      rw [encoded] at accepted
      cases accepted
    | some key =>
      rw [encoded] at accepted
      exact ⟨value,rfl,key,encoded,signature_matches_true accepted⟩

end

theorem parse_path {path : String} (filled : path ≠ "") :
    WebhookSecrets.parse ("vault:" ++ path) = if path.toList.all isPathChar then .ok path else .error .ValueError := by
  have scheme : PyText.hasPrefix ("vault:" ++ path) "vault:" = true := by
    rw [PyText.hasPrefix,PyText.startsWith_iff,String.toList_append]
    exact List.prefix_append ..
  have taken : PyText.dropChars 6 ("vault:" ++ path) = path := by
    rw [PyText.dropChars,String.toList_append,List.drop_left' (by decide),String.ofList_toList]
  rw [WebhookSecrets.parse,RunnerRecords.VaultPath.parse,taken]
  simp only [scheme,filled,ne_eq,not_false_eq_true,true_and]
  cases path.toList.all isPathChar with
  | false => rfl
  | true => rfl

section
variable {provider : String} (allowed : provider ∈ ALLOWED_PROVIDERS) (dept_id : String)
include allowed

theorem slot_characters : (slot provider dept_id).toList.all isPathChar = dept_id.toList.all isPathChar := by
  have front : "webhooks/".toList.all isPathChar = true := by decide
  have name : provider.toList.all isPathChar = true :=
    (by decide : ∀ name ∈ ALLOWED_PROVIDERS, name.toList.all isPathChar = true) provider allowed
  have separator : "/".toList.all isPathChar = true := by decide
  simp only [slot,String.toList_append,List.all_append,front,name,separator,Bool.true_and]

theorem active_path : active provider dept_id =
    if dept_id.toList.all isPathChar then .ok (slot provider dept_id) else .error .ValueError := by
  have filled : slot provider dept_id ≠ "" := by
    rw [ne_eq,← String.toList_eq_nil_iff,slot]
    simp
  rw [active,parse_path filled,slot_characters allowed]

theorem previous_path : previous provider dept_id =
    if dept_id.toList.all isPathChar then .ok (slot provider dept_id ++ "/previous") else .error .ValueError := by
  have filled : slot provider dept_id ++ "/previous" ≠ "" := by
    rw [ne_eq,← String.toList_eq_nil_iff]
    simp
  have last : "/previous".toList.all isPathChar = true := by decide
  have characters : (slot provider dept_id ++ "/previous").toList.all isPathChar = dept_id.toList.all isPathChar := by
    rw [String.toList_append,List.all_append,slot_characters allowed,last,Bool.and_true]
  rw [previous,String.append_assoc,parse_path filled,characters]

end

section
variable (vault : String → Option Payload) (provider dept_id : String) (now : Datetime)

/-- The secrets that are valid at the time. -/
def valid_secrets : List Text :=
  (secret_of (vault (slot provider dept_id))).toList ++
    (open_secret now (vault (slot provider dept_id ++ "/previous"))).toList

/-- The slots can be addressed, the valid secrets encoded, and the header compared with them. -/
structure Answerable (signature : Text) : Prop where
  named : dept_id.toList.all isPathChar = true
  encodable : ∀ secret ∈ valid_secrets vault provider dept_id now, secret.any isSurrogate = false
  comparable : valid_secrets vault provider dept_id now = [] ∨ ¬Foreign signature

variable {provider}

theorem verify_slots (allowed : provider ∈ ALLOWED_PROVIDERS) (body : List UInt8) (signature : Text) :
    verify_webhook_hmac vault provider dept_id body signature now =
      if dept_id.toList.all isPathChar then do
        let active_match ← tried (secret_of (vault (slot provider dept_id))) body signature
        let previous_match ← tried (open_secret now (vault (slot provider dept_id ++ "/previous"))) body signature
        pure (active_match || previous_match)
      else .error .ValueError := by
  simp only [verify_webhook_hmac,validate_provider,if_pos allowed,active_path allowed,previous_path allowed]
  cases dept_id.toList.all isPathChar with
  | false => rfl
  | true => rfl

/-- The verification answers, and accepts the digests of valid secrets only, if and only if the
    valid secrets can be encoded and no text that is not ASCII is compared with them. -/
theorem hmac_total_iff (allowed : provider ∈ ALLOWED_PROVIDERS) (body : List UInt8) (signature : Text) :
    (∃ answer, verify_webhook_hmac vault provider dept_id body signature now = .ok answer ∧
      (answer = true → ∃ secret ∈ valid_secrets vault provider dept_id now, SignedWith secret body signature)) ↔
      Answerable vault provider dept_id now signature := by
  rw [verify_slots vault dept_id now allowed]
  have active_ok : (∃ answer, tried (secret_of (vault (slot provider dept_id))) body signature = .ok answer) ↔ _ :=
    tried_ok _
  have previous_ok :
      (∃ answer, tried (open_secret now (vault (slot provider dept_id ++ "/previous"))) body signature = .ok answer) ↔ _ :=
    tried_ok _
  constructor
  · rintro ⟨answer,done,-⟩
    split at done
    · next named =>
      cases active_done : tried (secret_of (vault (slot provider dept_id))) body signature with
      | error raised =>
        rw [active_done] at done
        cases done
      | ok active_match =>
        rw [active_done] at done
        cases previous_done : tried (open_secret now (vault (slot provider dept_id ++ "/previous"))) body signature with
        | error raised =>
          rw [previous_done] at done
          cases done
        | ok previous_match =>
          have both : ∀ secret ∈ valid_secrets vault provider dept_id now,
              secret.any isSurrogate = false ∧ ¬Foreign signature := by
            intro secret member
            rcases List.mem_append.mp member with here | here
            · exact active_ok.mp ⟨_,active_done⟩ secret (Option.mem_toList.mp here)
            · exact previous_ok.mp ⟨_,previous_done⟩ secret (Option.mem_toList.mp here)
          refine ⟨named,fun secret member => (both secret member).1,?_⟩
          by_cases none_valid : valid_secrets vault provider dept_id now = []
          · exact .inl none_valid
          · obtain ⟨secret,member⟩ := List.exists_mem_of_ne_nil _ none_valid
            exact .inr (both secret member).2
    · cases done
  · rintro ⟨named,encodable,comparable⟩
    have both : ∀ secret ∈ valid_secrets vault provider dept_id now, secret.any isSurrogate = false ∧ ¬Foreign signature := by
      intro secret member
      refine ⟨encodable secret member,?_⟩
      rcases comparable with none_valid | plain
      · rw [none_valid] at member
        cases member
      · exact plain
    obtain ⟨active_match,active_done⟩ := active_ok.mpr fun secret member =>
      both secret (List.mem_append_left _ (Option.mem_toList.mpr member))
    obtain ⟨previous_match,previous_done⟩ := previous_ok.mpr fun secret member =>
      both secret (List.mem_append_right _ (Option.mem_toList.mpr member))
    rw [if_pos named,active_done,previous_done]
    refine ⟨active_match || previous_match,rfl,fun accepted => ?_⟩
    rcases Bool.or_eq_true_iff.mp accepted with rfl | rfl
    · obtain ⟨secret,member,signed⟩ := tried_true active_done
      exact ⟨secret,List.mem_append_left _ (Option.mem_toList.mpr member),signed⟩
    · obtain ⟨secret,member,signed⟩ := tried_true previous_done
      exact ⟨secret,List.mem_append_right _ (Option.mem_toList.mpr member),signed⟩

end

/-- A vault with the current secret of one department. -/
def one_secret : String → Option Payload := fun path =>
  if path = "webhooks/jira/payments" then some (texts (WebhookSecrets.fresh "first")) else none

theorem epoch_inside : 719162 * DAY + 0 * 1000000 < MAXORDINAL * DAY := by decide

def epoch : Datetime := (WebhookAcceptance.seconds 0 epoch_inside).1

/-- A plain header with a wrong digest is answered. -/
theorem plain_header_answered :
    ∃ answer, verify_webhook_hmac one_secret "jira" "payments" [123,125] (ofString "sha256=00") epoch = .ok answer ∧
      (answer = true → ∃ secret ∈ valid_secrets one_secret "jira" "payments" epoch,
        SignedWith secret [123,125] (ofString "sha256=00")) := by
  refine (hmac_total_iff one_secret "payments" epoch (by decide) [123,125] (ofString "sha256=00")).mpr ⟨by decide,?_,.inr ?_⟩
  · intro secret member
    have only : valid_secrets one_secret "jira" "payments" epoch = [ofString "first"] := by decide
    rw [only] at member
    rw [List.mem_singleton.mp member]
    decide
  · rintro ⟨rest,same,odd⟩
    have plain : (ofString ALGORITHM_PREFIX ++ rest).all isAscii = true := by
      rw [← same]
      decide
    rw [List.all_append,odd,Bool.and_false] at plain
    cases plain

/-- One letter that is not ASCII makes it raise. -/
theorem odd_header_raises :
    verify_webhook_hmac one_secret "jira" "payments" [123,125] (ofString "sha256=é") epoch = .error .TypeError := by
  have stored : secret_of (one_secret (slot "jira" "payments")) = some (ofString "first") := by decide
  have marked : ofString "sha256=é" = ofString ALGORITHM_PREFIX ++ ofString "é" := by decide
  have odd : (ofString "é").all isAscii = false := by decide
  have filled : ofString "é" ≠ [] := by decide
  rw [verify_slots one_secret "payments" epoch (by decide) [123,125],stored,marked,if_pos (by decide)]
  simp only [tried,coerce_secret,encode_ofString,orRaise,bind,Except.bind,signature_matches_marked,compare_digest,odd,filled,
    Bool.false_eq_true,and_false,if_false]

end Automation.HmacTotality
