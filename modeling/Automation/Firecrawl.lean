import Automation.Dict
import Automation.JsonDumps
import Mathlib.Data.List.Basic
import Std.Data.String.ToNat

/-!
The client of the firecrawl service: hosts are checked against the allowlist of the
department, and a body above the cap of its call is written to the object store. The key of
an object names the URL and the length of the body, so a later body of the same URL and
length takes the place of an earlier one. `overflow_preserved_iff` says in which runs every
object still holds the body of its own call.
-/
namespace Automation.Firecrawl
open Automation.CodePoints Automation.JsonDumps

abbrev Bytes := List UInt8

/-- The functions of Python that the client calls on texts and values. -/
structure Py where
  strip : Text → Text
  lower : Text → Text
  /-- The scheme and the host name (empty for `None`) of a URL, `none` for a `ValueError`. -/
  urlparse : Text → Option (Text × Text)
  /-- `none` for the `ValueError` of a number with too many digits. -/
  repr : Value → Option Text

structure Override where
  allow : List Text
  deny : List Text

structure Client where
  allowlist_global : List Text
  dept_overrides : Dict Text Override
  /-- The bucket of the writer, `none` where there is no writer. -/
  minio_writer : Option String

variable (py : Py) (client : Client)

def normalise_hosts (value : List Text) : List Text :=
  (value.map fun raw => py.lower (py.strip raw)).filter fun host => !host.isEmpty

def effective_allowlist (global : List Text) (dept_override : Option Override) : List Text :=
  let base := normalise_hosts py global
  match dept_override with
  | none => base
  | some override =>
    let deny := normalise_hosts py override.deny
    (base ++ normalise_hosts py override.allow).filter fun host => !deny.contains host

def effective_allowlist_for (dept_id : Text) : List Text :=
  effective_allowlist py client.allowlist_global (client.dept_overrides.get? dept_id)

def host_matches (host : Text) (allowlist : List Text) : Bool :=
  !host.isEmpty && !allowlist.isEmpty &&
    allowlist.any fun entry => host == entry || (point '.' :: entry).isSuffixOf host

def extract_host (url : Text) : Text :=
  match py.urlparse (py.strip url) with
  | none => []
  | some parsed => py.lower parsed.2

inductive Fault where
  /-- `urlparse` has raised. -/
  | bad_url
  /-- The transport has raised. -/
  | upstream
  | transport (operation : String) (status : Int)
  /-- Neither the body nor its `repr` is a text. -/
  | body
  /-- The URL has no encoding. -/
  | url

inductive Outcome where
  | success (url : Text) (body : Value) (bytes_len : Nat)
  | blocked (url host : Text) (reason : String) (dept_id : Text)
  | overflow (url : Text) (bytes_len : Nat) (max_bytes : Int) (storage_uri : String) (summary : Text)
  | raised (fault : Fault)

inductive Request where
  | search (query : Text)
  | scrape (url : Text)

structure Call where
  request : Request
  dept_id : Text
  max_bytes : Int
  /-- The status and the body that the transport returns, `none` where it raises. -/
  response : Option (Int × Value)

/-- The URL of a call, which is made up for a search. -/
def Call.url (call : Call) : Text :=
  match call.request with
  | .search query => ofString "firecrawl-search:" ++ query
  | .scrape url => url

/-- The outcome of a denied URL, `none` where it may be fetched. -/
def check_allowlist (url dept_id : Text) : Option Outcome :=
  if (py.strip url).isEmpty then some (.blocked url [] "invalid_url" dept_id)
  else
    match py.urlparse (py.strip url) with
    | none => some (.raised .bad_url)
    | some (scheme,hostname) =>
      if py.lower scheme ≠ ofString "http" ∧ py.lower scheme ≠ ofString "https" then
        some (.blocked url [] "invalid_url" dept_id)
      else
        let host := py.lower hostname
        if host.isEmpty then some (.blocked url [] "missing_host" dept_id)
        else
          let allowlist := effective_allowlist_for py client dept_id
          if allowlist.isEmpty then some (.blocked url host "empty_allowlist" dept_id)
          else if host_matches host allowlist then none
          else some (.blocked url host "not_in_allowlist" dept_id)

/-- The JSON text of the body, or its `repr` where there is none. -/
def encode_body (body : Value) : Option Bytes :=
  match encoding body with
  | some bytes => some bytes
  | none => (py.repr body).map encode_replace

/-- `sha256(url)[:16]`, `none` for a `UnicodeEncodeError`. -/
def url_digest (url : Text) : Option String :=
  (encode url).map fun bytes => .ofList ((Sha256.hexdigest bytes).toList.take 16)

def overflow_key (digest : String) (bytes_len : Nat) : String :=
  "firecrawl/overflow/" ++ digest ++ "-" ++ toString bytes_len ++ ".json"

def build_overflow_key (url : Text) (bytes_len : Nat) : Option String :=
  (url_digest url).map fun digest => overflow_key digest bytes_len

def summary_max_chars : Nat := 500

/-- Texts are compared by their code points. -/
def text_le (a b : Text) : Bool := !List.lex b a fun p q => decide (p.val < q.val)

/-- `sorted(keys)[:5]`, joined. -/
def summary_keys (fields : List (Text × Value)) : Text :=
  (ofString ", ").intercalate (((fields.map Prod.fst).mergeSort text_le).take 5)

def build_summary (body : Value) (bytes_len : Nat) (max_bytes : Int) : Text :=
  let sizes := toString bytes_len ++ " bytes > cap " ++ toString max_bytes ++ ")."
  let head :=
    match body with
    | .arr items => ofString ("Search returned " ++ toString items.length ++ " results (" ++ sizes)
    | .obj fields => ofString "Scrape returned dict with keys [" ++ summary_keys fields ++ ofString ("] (" ++ sizes)
    | value => ofString ("Firecrawl payload (" ++ type_name value ++ ", " ++ sizes)
  if summary_max_chars < head.length then head.take (summary_max_chars - 1) ++ ofString "…" else head

def storage_uri (bucket key : String) : String := "s3://" ++ bucket ++ "/" ++ key

abbrev Objects := Dict String Bytes

def wrap_payload (objects : Objects) (url : Text) (body : Value) (max_bytes : Int) : Outcome × Objects :=
  match encode_body py body with
  | none => (.raised .body,objects)
  | some encoded =>
    let bytes_len := encoded.length
    if (bytes_len : Int) ≤ max_bytes then (.success url body bytes_len,objects)
    else
      let summary := build_summary body bytes_len max_bytes
      match client.minio_writer with
      | none => (.overflow url bytes_len max_bytes "" summary,objects)
      | some bucket =>
        match build_overflow_key url bytes_len with
        | none => (.raised .url,objects)
        | some key =>
          (.overflow url bytes_len max_bytes (storage_uri bucket key) summary,objects.set key encoded)

/-- What follows the allowlist: the two operations differ in the host that a 403 names. -/
def fetch (operation : String) (host : Text) (call : Call) (objects : Objects) : Outcome × Objects :=
  match call.response with
  | none => (.raised .upstream,objects)
  | some (status,body) =>
    if status = 403 then (.blocked call.url host "upstream_403" call.dept_id,objects)
    else if status < 200 ∨ 300 ≤ status then (.raised (.transport operation status),objects)
    else wrap_payload py client objects call.url body call.max_bytes

def perform (call : Call) (objects : Objects) : Outcome × Objects :=
  match call.request with
  | .search _ => fetch py client "search" [] call objects
  | .scrape url =>
    match check_allowlist py client url call.dept_id with
    | some decision => (decision,objects)
    | none => fetch py client "scrape" (extract_host py url) call objects

/-- A call that has been made, and the objects behind it. -/
structure Turn where
  call : Call
  outcome : Outcome
  objects : Objects

def run (objects : Objects) : List Call → List Turn
  | [] => []
  | call :: calls =>
    let done := perform py client call objects
    ⟨call,done.1,done.2⟩ :: run done.2 calls

/-- The body of a response that is no fault. -/
def accepted : Option (Int × Value) → Option Value
  | none => none
  | some (status,body) => if 200 ≤ status ∧ status < 300 then some body else none

/-- The body that a call gets to wrap. -/
def Call.body (call : Call) : Option Value :=
  match call.request with
  | .search _ => accepted call.response
  | .scrape url => if (check_allowlist py client url call.dept_id).isNone then accepted call.response else none

/-- The body of the call is longer than its cap. -/
def Exceeds (call : Call) : Prop :=
  ∃ body bytes, call.body py client = some body ∧ encode_body py body = some bytes ∧ call.max_bytes < bytes.length

def Names (bucket : String) (objects : Objects) (uri : String) (payload : Bytes) : Prop :=
  ∃ key, uri = storage_uri bucket key ∧ objects.get? key = some payload

/-- The object of the overflow holds the JSON encoding of the body of its call. -/
def Held (bucket : String) (objects : Objects) (turn : Turn) : Prop :=
  ∀ url bytes_len max_bytes uri summary, turn.outcome = .overflow url bytes_len max_bytes uri summary →
    ∃ body payload, turn.call.body py client = some body ∧ encoding body = some payload ∧
      Names bucket objects uri payload

def Offloaded (bucket : String) (turn : Turn) : Prop :=
  ∃ url bytes_len max_bytes uri summary bytes, turn.outcome = .overflow url bytes_len max_bytes uri summary ∧
    (turn.call.body py client).bind (encode_body py) = some bytes ∧ Names bucket turn.objects uri bytes

structure Preserved (bucket : String) (turns : List Turn) : Prop where
  /-- Each object holds its body behind the call and behind each later call. -/
  held : ∀ before turn after, turns = before ++ turn :: after → ∀ later ∈ turn :: after,
    Held py client bucket later.objects turn
  offloaded : ∀ turn ∈ turns, Offloaded py client bucket turn ↔ Exceeds py client turn.call

/-- The body's JSON text in UTF-8. -/
def Call.payload (call : Call) : Option Bytes := (call.body py client).bind encoding

structure Distinct (calls : List Call) : Prop where
  url : ∀ call ∈ calls, Exceeds py client call → (encode call.url).isSome
  body : ∀ call ∈ calls, Exceeds py client call → (call.payload py client).isSome
  /-- Later bodies of the same URL and length are the same. -/
  later : calls.Pairwise fun call next => Exceeds py client call → Exceeds py client next → next.url = call.url →
    ∀ p q, call.payload py client = some p → next.payload py client = some q → q.length = p.length → q = p

/-- The digests of the URLs do not collide. -/
def NoCollision (calls : List Call) : Prop :=
  ∀ call ∈ calls, ∀ next ∈ calls, ∀ digest, url_digest call.url = some digest → url_digest next.url = some digest →
    next.url = call.url

private theorem hex_bare (digest : List UInt8) : '-' ∉ (Sha256.hex digest).toList := by
  have digit : ∀ n < 16, Sha256.hexDigit n ≠ '-' := by decide
  intro member
  rw [Sha256.hex,String.toList_ofList,List.mem_flatMap] at member
  obtain ⟨byte,-,here⟩ := member
  have small := byte.toNat_lt
  rcases List.mem_cons.mp here with high | low
  · exact digit _ (by omega) high.symm
  · exact digit _ (by omega) (List.mem_singleton.mp low).symm

private theorem digest_bare {url : Text} {digest : String} (known : url_digest url = some digest) : '-' ∉ digest.toList := by
  obtain ⟨bytes,-,rfl⟩ := Option.map_eq_some_iff.mp known
  rw [String.toList_ofList]
  intro member
  exact hex_bare _ (List.mem_of_mem_take member)

private theorem number_bare (n : Nat) : '-' ∉ (toString n).toList ++ ".json".toList := by
  intro member
  rcases List.mem_append.mp member with digit | extension
  · have bare := Nat.isDigit_of_mem_toDigits (by decide) (by decide) (show '-' ∈ Nat.toDigits 10 n by simpa using digit)
    exact absurd bare (by decide)
  · exact absurd extension (by decide)

private theorem regroup (start digest dash number extension : String) (mark : dash.toList = ['-']) :
    (start ++ digest ++ dash ++ number ++ extension).toList =
      start.toList ++ (digest.toList ++ '-' :: (number.toList ++ extension.toList)) := by
  rw [String.toList_append,String.toList_append,String.toList_append,String.toList_append,mark]
  rw [List.append_assoc,List.append_assoc,List.append_assoc,List.singleton_append]

private theorem key_chars (digest : String) (bytes_len : Nat) : (overflow_key digest bytes_len).toList =
    "firecrawl/overflow/".toList ++ (digest.toList ++ '-' :: ((toString bytes_len).toList ++ ".json".toList)) :=
  regroup "firecrawl/overflow/" digest "-" (toString bytes_len) ".json" (by decide)

theorem overflow_key_inj {digest other : String} {m n : Nat} (bare : '-' ∉ digest.toList)
    (same : overflow_key digest m = overflow_key other n) : digest = other ∧ m = n := by
  have chars := congrArg String.toList same
  rw [key_chars,key_chars,List.append_cancel_left_eq] at chars
  obtain ⟨left,-,right⟩ := (List.append_cons_inj_of_notMem bare (number_bare m)).mp chars
  refine ⟨String.toList_inj.mp left,?_⟩
  have digits := String.toList_inj.mp (List.append_cancel_right right)
  exact Nat.repr_injective digits

theorem storage_uri_inj {bucket key other : String} (same : storage_uri bucket key = storage_uri bucket other) :
    key = other := by
  have chars := congrArg String.toList same
  simp only [storage_uri,String.toList_append,List.append_assoc,List.append_cancel_left_eq] at chars
  exact String.toList_inj.mp chars

section
variable {py client} {bucket : String} {call next : Call} {objects : Objects}

/-- The call writes the object. -/
def Writes (py : Py) (client : Client) (call : Call) (key : String) (bytes : Bytes) : Prop :=
  ∃ body, call.body py client = some body ∧ encode_body py body = some bytes ∧ call.max_bytes < bytes.length ∧
    build_overflow_key call.url bytes.length = some key

theorem Writes.exceeds {key : String} {bytes : Bytes} (writes : Writes py client call key bytes) : Exceeds py client call := by
  obtain ⟨body,got,encoded,large,-⟩ := writes
  exact ⟨body,bytes,got,encoded,large⟩

/-- Behind the call no object has changed, and it names none. -/
def Idle (objects : Objects) (done : Outcome × Objects) : Prop :=
  done.2 = objects ∧ ∀ url bytes_len max_bytes uri summary, done.1 ≠ .overflow url bytes_len max_bytes uri summary

theorem check_allowlist_idle {url dept_id : Text} {decision : Outcome}
    (decided : check_allowlist py client url dept_id = some decision) : Idle objects (decision,objects) := by
  refine ⟨rfl,fun url' bytes_len max_bytes uri summary same => ?_⟩
  rw [show decision = _ from same] at decided
  simp only [check_allowlist] at decided
  split at decided
  · cases decided
  · split at decided
    · cases decided
    · split at decided
      · cases decided
      · split at decided
        · cases decided
        · split at decided
          · cases decided
          · split at decided
            · cases decided
            · cases decided

theorem fetch_accepted (operation : String) (host : Text) (call : Call) (objects : Objects) :
    (∃ body, accepted call.response = some body ∧
      fetch py client operation host call objects = wrap_payload py client objects call.url body call.max_bytes) ∨
    (accepted call.response = none ∧ Idle objects (fetch py client operation host call objects)) := by
  unfold fetch
  cases call.response with
  | none => exact .inr ⟨rfl,rfl,nofun⟩
  | some answer =>
    obtain ⟨status,body⟩ := answer
    dsimp only [accepted]
    by_cases denied : status = 403
    · rw [if_pos denied,if_neg (by omega)]
      exact .inr ⟨rfl,rfl,nofun⟩
    · rw [if_neg denied]
      by_cases fault : status < 200 ∨ 300 ≤ status
      · rw [if_pos fault,if_neg (by omega)]
        exact .inr ⟨rfl,rfl,nofun⟩
      · rw [if_neg fault,if_pos (by omega)]
        exact .inl ⟨body,rfl,rfl⟩

theorem perform_body (call : Call) (objects : Objects) :
    (∃ body, call.body py client = some body ∧
      perform py client call objects = wrap_payload py client objects call.url body call.max_bytes) ∨
    (call.body py client = none ∧ Idle objects (perform py client call objects)) := by
  unfold Call.body perform
  cases call.request with
  | search query => exact fetch_accepted "search" [] call objects
  | scrape url =>
    dsimp only
    cases decided : check_allowlist py client url call.dept_id with
    | none => exact fetch_accepted "scrape" (extract_host py url) call objects
    | some decision => exact .inr ⟨rfl,check_allowlist_idle decided⟩

theorem perform_cases (writer : client.minio_writer = some bucket) (call : Call) (objects : Objects) :
    (∃ key bytes summary, Writes py client call key bytes ∧ perform py client call objects =
      (.overflow call.url bytes.length call.max_bytes (storage_uri bucket key) summary,objects.set key bytes)) ∨
    ((Exceeds py client call → encode call.url = none) ∧ Idle objects (perform py client call objects)) := by
  rcases @perform_body py client call objects with ⟨body,got,same⟩ | ⟨missing,idle⟩
  · rw [same,wrap_payload]
    cases encoded : encode_body py body with
    | none =>
      refine .inr ⟨fun large => ?_,rfl,nofun⟩
      obtain ⟨body',bytes,got',encoded',-⟩ := large
      rw [got] at got'
      cases got'
      rw [encoded] at encoded'
      cases encoded'
    | some bytes =>
      dsimp only
      by_cases fits : (bytes.length : Int) ≤ call.max_bytes
      · rw [if_pos fits]
        refine .inr ⟨fun large => ?_,rfl,nofun⟩
        obtain ⟨body',bytes',got',encoded',large⟩ := large
        rw [got] at got'
        cases got'
        rw [encoded] at encoded'
        cases encoded'
        omega
      · rw [if_neg fits,writer]
        dsimp only
        cases built : build_overflow_key call.url bytes.length with
        | none =>
          refine .inr ⟨fun _ => ?_,rfl,nofun⟩
          exact Option.map_eq_none_iff.mp (Option.map_eq_none_iff.mp built)
        | some key => exact .inl ⟨key,bytes,_,⟨body,got,encoded,by omega,built⟩,rfl⟩
  · refine .inr ⟨fun large => ?_,idle⟩
    obtain ⟨body,bytes,got,-⟩ := large
    rw [missing] at got
    cases got

/-- A body that has a JSON text is written as that text. -/
theorem Writes.payload {key : String} {bytes : Bytes} (writes : Writes py client call key bytes)
    (encodable : (call.payload py client).isSome) : call.payload py client = some bytes := by
  obtain ⟨body,got,encoded,-⟩ := writes
  rw [Call.payload,got,Option.bind_some] at encodable ⊢
  obtain ⟨text,known⟩ := Option.isSome_iff_exists.mp encodable
  rw [encode_body,known] at encoded
  rw [known,Option.some.inj encoded]

variable {calls : List Call}

theorem run_keeps (writer : client.minio_writer = some bucket) {key : String} {bytes : Bytes}
    (same : ∀ call ∈ calls, ∀ other, Writes py client call key other → other = bytes)
    (held : objects.get? key = some bytes) : ∀ turn ∈ run py client objects calls, turn.objects.get? key = some bytes := by
  induction calls generalizing objects with
  | nil => nofun
  | cons call calls ih =>
    have kept : (perform py client call objects).2.get? key = some bytes := by
      rcases perform_cases writer call objects with ⟨key',other,summary,writes,made⟩ | ⟨-,unchanged,-⟩
      · rw [made,Dict.get?_set]
        by_cases here : key = key'
        · rw [if_pos here,same call List.mem_cons_self other (here ▸ writes)]
        · rw [if_neg here]
          exact held
      · rw [unchanged]
        exact held
    intro turn member
    rcases List.mem_cons.mp member with rfl | later
    · exact kept
    · exact ih (fun next listed => same next (List.mem_cons_of_mem _ listed)) kept turn later

theorem preserved_cons (turn : Turn) (turns : List Turn) : Preserved py client bucket (turn :: turns) ↔
    (∀ later ∈ turn :: turns, Held py client bucket later.objects turn) ∧
      (Offloaded py client bucket turn ↔ Exceeds py client turn.call) ∧ Preserved py client bucket turns := by
  constructor
  · intro preserved
    refine ⟨preserved.held [] turn turns rfl,preserved.offloaded turn List.mem_cons_self,?_,?_⟩
    · rintro before other after rfl
      exact preserved.held (turn :: before) other after rfl
    · exact fun other listed => preserved.offloaded other (List.mem_cons_of_mem _ listed)
  · rintro ⟨held,offloaded,rest⟩
    refine ⟨fun before other after same => ?_,fun other listed => ?_⟩
    · cases before with
      | nil =>
        obtain ⟨rfl,rfl⟩ := List.cons.inj same
        exact held
      | cons first before =>
        exact rest.held before other after (List.cons.inj same).2
    · rcases List.mem_cons.mp listed with rfl | later
      · exact offloaded
      · exact rest.offloaded other later

theorem mem_run (calls : List Call) (objects : Objects) {call : Call} (member : call ∈ calls) :
    ∃ before, ⟨call,(perform py client call before).1,(perform py client call before).2⟩ ∈ run py client objects calls := by
  induction calls generalizing objects with
  | nil => cases member
  | cons first calls ih =>
    rcases List.mem_cons.mp member with rfl | later
    · exact ⟨objects,List.mem_cons_self⟩
    · obtain ⟨before,found⟩ := ih (perform py client first objects).2 later
      exact ⟨before,List.mem_cons_of_mem _ found⟩

theorem Distinct.tail (distinct : Distinct py client (call :: calls)) : Distinct py client calls :=
  ⟨fun next listed => distinct.url next (List.mem_cons_of_mem _ listed),
    fun next listed => distinct.body next (List.mem_cons_of_mem _ listed),distinct.later.of_cons⟩

theorem NoCollision.tail (clear : NoCollision (call :: calls)) : NoCollision calls :=
  fun first listed next found => clear first (List.mem_cons_of_mem _ listed) next (List.mem_cons_of_mem _ found)

theorem Writes.same_key {key : String} {p q : Bytes} (writes : Writes py client call key p) (other : Writes py client next key q)
    (clear : ∀ digest, url_digest call.url = some digest → url_digest next.url = some digest → next.url = call.url) :
    next.url = call.url ∧ q.length = p.length := by
  obtain ⟨-,-,-,-,built⟩ := writes
  obtain ⟨-,-,-,-,built'⟩ := other
  obtain ⟨digest,known,rfl⟩ := Option.map_eq_some_iff.mp built
  obtain ⟨digest',known',same⟩ := Option.map_eq_some_iff.mp built'
  obtain ⟨rfl,lengths⟩ := overflow_key_inj (digest_bare known') same
  exact ⟨clear digest' known known',lengths⟩

theorem distinct_preserved (writer : client.minio_writer = some bucket) (clear : NoCollision calls)
    (distinct : Distinct py client calls) (objects : Objects) : Preserved py client bucket (run py client objects calls) := by
  induction calls generalizing objects with
  | nil =>
    refine ⟨fun before turn after same => ?_,nofun⟩
    cases before with
    | nil => cases same
    | cons first before => cases same
  | cons call calls ih =>
    have rest := ih clear.tail distinct.tail (perform py client call objects).2
    refine (preserved_cons _ _).mpr ⟨?_,?_,rest⟩
    · rcases perform_cases writer call objects with ⟨key,bytes,summary,writes,made⟩ | ⟨-,-,idle⟩
      · have text := writes.payload (distinct.body call List.mem_cons_self writes.exceeds)
        have others : ∀ next ∈ calls, ∀ other, Writes py client next key other → other = bytes := by
          intro next listed other written
          have shared := writes.same_key written (clear call List.mem_cons_self next (List.mem_cons_of_mem _ listed))
          have encodable := distinct.body next (List.mem_cons_of_mem _ listed) written.exceeds
          exact List.rel_of_pairwise_cons distinct.later listed writes.exceeds written.exceeds shared.1 bytes other text
            (written.payload encodable) shared.2
        have first : (perform py client call objects).2.get? key = some bytes := by
          rw [made,Dict.get?_set,if_pos rfl]
        intro later member url bytes_len max_bytes uri shown same
        rw [made] at same
        cases same
        obtain ⟨body,got,encoded⟩ := Option.bind_eq_some_iff.mp text
        refine ⟨body,bytes,got,encoded,key,rfl,?_⟩
        rcases List.mem_cons.mp member with rfl | behind
        · exact first
        · exact run_keeps writer others first later behind
      · intro later _ url bytes_len max_bytes uri summary same
        exact absurd same (idle url bytes_len max_bytes uri summary)
    · rcases perform_cases writer call objects with ⟨key,bytes,summary,writes,made⟩ | ⟨failed,-,idle⟩
      · refine ⟨fun _ => writes.exceeds,fun _ => ?_⟩
        obtain ⟨body,got,encoded,-⟩ := writes
        refine ⟨call.url,bytes.length,call.max_bytes,storage_uri bucket key,summary,bytes,congrArg Prod.fst made,?_,key,rfl,?_⟩
        · exact Option.bind_eq_some_iff.mpr ⟨body,got,encoded⟩
        · rw [made,Dict.get?_set,if_pos rfl]
      · constructor
        · rintro ⟨url,bytes_len,max_bytes,uri,summary,bytes,same,-⟩
          exact absurd same (idle url bytes_len max_bytes uri summary)
        · intro large
          have encodable := distinct.url call List.mem_cons_self large
          rw [failed large] at encodable
          cases encodable

theorem offloaded_writes (writer : client.minio_writer = some bucket)
    (done : Offloaded py client bucket ⟨call,(perform py client call objects).1,(perform py client call objects).2⟩) :
    ∃ key bytes summary, Writes py client call key bytes ∧ perform py client call objects =
      (.overflow call.url bytes.length call.max_bytes (storage_uri bucket key) summary,objects.set key bytes) := by
  obtain ⟨url,bytes_len,max_bytes,uri,summary,bytes,same,-⟩ := done
  rcases perform_cases writer call objects with written | ⟨-,-,idle⟩
  · exact written
  · exact absurd same (idle url bytes_len max_bytes uri summary)

theorem preserved_distinct (writer : client.minio_writer = some bucket) {objects : Objects}
    (preserved : Preserved py client bucket (run py client objects calls)) : Distinct py client calls := by
  induction calls generalizing objects with
  | nil => exact ⟨nofun,nofun,.nil⟩
  | cons call calls ih =>
    obtain ⟨held,offloaded,rest⟩ := (preserved_cons _ _).mp preserved
    have tail := ih rest
    have named : Exceeds py client call → ∃ key bytes, Writes py client call key bytes ∧
        ∀ later ∈ run py client objects (call :: calls), ∃ p, call.payload py client = some p ∧
          later.objects.get? key = some p := by
      intro large
      obtain ⟨key,bytes,summary,writes,made⟩ := offloaded_writes writer (offloaded.mpr large)
      refine ⟨key,bytes,writes,fun later member => ?_⟩
      obtain ⟨body,payload,got,encoded,key',same,found⟩ := held later member _ _ _ _ _ (congrArg Prod.fst made)
      obtain rfl := storage_uri_inj same
      exact ⟨payload,Option.bind_eq_some_iff.mpr ⟨body,got,encoded⟩,found⟩
    refine ⟨fun next listed large => ?_,fun next listed large => ?_,List.pairwise_cons.mpr ⟨?_,tail.later⟩⟩
    · rcases List.mem_cons.mp listed with rfl | behind
      · obtain ⟨key,bytes,⟨body,-,-,-,built⟩,-⟩ := named large
        obtain ⟨digest,known,-⟩ := Option.map_eq_some_iff.mp built
        obtain ⟨encoded,known,-⟩ := Option.map_eq_some_iff.mp known
        exact Option.isSome_of_eq_some known
      · exact tail.url next behind large
    · rcases List.mem_cons.mp listed with rfl | behind
      · obtain ⟨key,bytes,-,reads⟩ := named large
        obtain ⟨p,known,-⟩ := reads _ List.mem_cons_self
        exact Option.isSome_of_eq_some known
      · exact tail.body next behind large
    · intro next listed large large' same p q first second lengths
      obtain ⟨key,bytes,writes,reads⟩ := named large
      obtain ⟨before,found⟩ := mem_run calls (perform py client call objects).2 listed
      obtain ⟨key',bytes',summary',writes',made'⟩ := offloaded_writes writer ((rest.offloaded _ found).mpr large')
      obtain ⟨p',known,got⟩ := reads _ (List.mem_cons_of_mem _ found)
      rw [first] at known
      obtain rfl := Option.some.inj known
      have text := writes.payload (Option.isSome_of_eq_some first)
      have text' := writes'.payload (Option.isSome_of_eq_some second)
      rw [first] at text
      rw [second] at text'
      obtain rfl := Option.some.inj text
      obtain rfl := Option.some.inj text'
      have keys : key' = key := by
        obtain ⟨-,-,-,-,built⟩ := writes
        obtain ⟨-,-,-,-,built'⟩ := writes'
        rw [same,lengths,built] at built'
        exact (Option.some.inj built').symm
      rw [made',Dict.get?_set,if_pos keys.symm] at got
      exact Option.some.inj got

/-- Where no digests collide: in exactly the runs whose overflowing calls have URLs and bodies
    that can be encoded, and of which no later one brings another body of the same URL and
    length, each overflow is offloaded and its object keeps the JSON text of its own body. -/
theorem overflow_preserved_iff (py : Py) (client : Client) (bucket : String) (objects : Objects) (calls : List Call)
    (writer : client.minio_writer = some bucket) (clear : NoCollision calls) :
    Preserved py client bucket (run py client objects calls) ↔ Distinct py client calls :=
  ⟨preserved_distinct writer,fun distinct => distinct_preserved writer clear distinct objects⟩

end

/-- A value is shown by its JSON text, as Python does with the lists below. -/
def plain_py : Py := ⟨id,id,fun _ => none,dumps⟩

def open_client : Client := ⟨[ofString "docs.example.com"],.empty,some "research"⟩

/-- A search whose results are one text, above a cap of four bytes. -/
def found_text (text : String) : Call :=
  ⟨.search (ofString "release notes"),ofString "payment",4,some (200,.arr [.str (ofString text)])⟩

theorem found_clear (texts : List String) : NoCollision (texts.map found_text) := by
  intro call listed next listed' _ _ _
  obtain ⟨text,-,rfl⟩ := List.mem_map.mp listed
  obtain ⟨text',-,rfl⟩ := List.mem_map.mp listed'
  rfl

theorem found_encoding (text : String) (bytes : Bytes)
    (solid : (point '[' :: joined [quoted (ofString text)] ++ [point ']']).any isSurrogate = false)
    (encoded : (point '[' :: joined [quoted (ofString text)] ++ [point ']']).flatMap (fun p => String.utf8EncodeChar (.ofNat p.val)) = bytes) :
    encoding (.arr [.str (ofString text)]) = some bytes := by
  rw [← encoded]
  exact encode_points solid

/-- Two searches of one text, with results of different lengths, both keep their objects. -/
theorem two_searches_preserved : Preserved plain_py open_client "research"
    (run plain_py open_client .empty [found_text "old",found_text "newer"]) := by
  have old := found_encoding "old" [0x5b,0x22,0x6f,0x6c,0x64,0x22,0x5d] (by decide) (by decide)
  have newer := found_encoding "newer" [0x5b,0x22,0x6e,0x65,0x77,0x65,0x72,0x22,0x5d] (by decide) (by decide)
  refine (overflow_preserved_iff plain_py open_client "research" .empty [found_text "old",found_text "newer"] rfl
    (found_clear ["old","newer"])).mpr ⟨fun call listed _ => ?_,fun call listed _ => ?_,?_⟩
  · rcases List.mem_pair.mp listed with rfl | rfl
    · rfl
    · rfl
  · rcases List.mem_pair.mp listed with rfl | rfl
    · rfl
    · rfl
  · refine List.pairwise_pair.mpr fun _ _ _ p q first second lengths => ?_
    cases old.symm.trans first
    cases newer.symm.trans second
    exact absurd lengths (by decide)

theorem found_exceeds {text : String} {bytes : Bytes} (known : encoding (.arr [.str (ofString text)]) = some bytes)
    (long : 4 < bytes.length) : Exceeds plain_py open_client (found_text text) := by
  refine ⟨.arr [.str (ofString text)],bytes,rfl,?_,?_⟩
  · rw [encode_body,known]
  · change (4 : Int) < (bytes.length : Int)
    omega

/-- The second search of a text takes the object of the first. -/
theorem second_search_overwrites : NoCollision [found_text "old",found_text "new"] ∧
    ¬ Preserved plain_py open_client "research" (run plain_py open_client .empty [found_text "old",found_text "new"]) := by
  refine ⟨found_clear ["old","new"],fun preserved => ?_⟩
  have distinct := preserved_distinct rfl preserved
  have old := found_encoding "old" [0x5b,0x22,0x6f,0x6c,0x64,0x22,0x5d] (by decide) (by decide)
  have new := found_encoding "new" [0x5b,0x22,0x6e,0x65,0x77,0x22,0x5d] (by decide) (by decide)
  have same := List.rel_of_pairwise_cons distinct.later List.mem_cons_self (found_exceeds old (by decide))
    (found_exceeds new (by decide)) rfl _ _ old new rfl
  exact absurd same (by decide)

end Automation.Firecrawl
