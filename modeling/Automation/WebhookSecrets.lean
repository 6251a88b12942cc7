import Mathlib.Logic.Function.Basic
import Automation.Calendar
import Automation.JsonText
import Automation.RunnerRecords
import Automation.SecretBox

/-!
The secrets that sign webhooks, on either backend of the vault. A rotation moves the
current secret to the previous slot, where it stays valid for an hour; a verification
tries both. The backend for development keeps its secrets in an encrypted file: it answers
every sequence of calls as the vault does (`run_local`).
-/
namespace Automation.WebhookSecrets
open Automation.Calendar Automation.PyText Automation.RunnerRecords
open Automation.Sha256 (utf8)

/-- The fields of a secret. -/
abbrev Payload := Dict String String

inductive Raised where
  | ValueError | KeyError | OverflowError | TypeError | RuntimeError
  deriving DecidableEq

/-- A reading of `datetime.now(timezone.utc)`. -/
abbrev Utc := {time : Datetime // time.utcoffset = some 0}

/-- The protocol of the backends. A path is relative to `vault:`. -/
structure VaultClient (σ : Type) where
  read : σ → String → Except Raised Payload
  write : σ → String → Payload → Except Raised σ
  delete : σ → String → Except Raised σ
  rotate_webhook_secret : σ → (provider dept_id new_secret : String) → Utc → Except Raised σ

/-- A result, or what is raised instead. -/
def orRaise {α : Type} (raised : Raised) : Option α → Except Raised α
  | some a => .ok a
  | none => .error raised

def parse (reference : String) : Except Raised String := orRaise .ValueError (VaultPath.parse reference)

/-- The path of the active secret. -/
def slot (provider dept_id : String) : String := "webhooks/" ++ provider ++ "/" ++ dept_id

def active (provider dept_id : String) : Except Raised String := parse ("vault:" ++ slot provider dept_id)

def previous (provider dept_id : String) : Except Raised String := parse ("vault:" ++ slot provider dept_id ++ "/previous")

def rotation_meta (provider dept_id : String) : Except Raised String := parse ("vault:" ++ slot provider dept_id ++ "/meta")

/-- An hour, in microseconds. -/
def WEBHOOK_ROTATION_OVERLAP : Int := 3600000000

def overlap_end (rotated_at : Utc) : Except Raised Datetime := orRaise .OverflowError (rotated_at.1.add WEBHOOK_ROTATION_OVERLAP)

/-- `{"secret": new_secret}`. -/
def fresh (new_secret : String) : Payload := .ofItems [("secret",new_secret)]

/-- `{**current, "overlap_until": …}`. -/
def stashed (current : Payload) (overlap_until : Datetime) : Payload := current.set "overlap_until" (isoformat overlap_until)

/-- The secrets of the mount by their paths. -/
abbrev Store := String → Option Payload

namespace HashicorpBackend

def read (store : Store) (path : String) : Except Raised Payload :=
  match store path with
  | some data => .ok data
  | none => .error .KeyError

def write (store : Store) (path : String) (data : Payload) : Except Raised Store := .ok (Function.update store path (some data))

def delete (store : Store) (path : String) : Except Raised Store := .ok (Function.update store path none)

/-- The current secret goes to the previous slot. -/
def stash (store : Store) (previous : String) (now : Utc) : Option Payload → Except Raised Store
  | none => pure store
  | some current => do
    let overlap_until ← overlap_end now
    write store previous (stashed current overlap_until)

def rotate_webhook_secret (store : Store) (provider dept_id new_secret : String) (now : Utc) : Except Raised Store := do
  let active ← active provider dept_id
  let previous ← previous provider dept_id
  let store' ← stash store previous now (store active)
  write store' active (fresh new_secret)

def client : VaultClient Store := ⟨read,write,delete,rotate_webhook_secret⟩

end HashicorpBackend

/-- The ciphertext of the file, if there is one, and the nonces that will be drawn. -/
structure Disk where
  file : Option (List UInt8)
  random : Nat → SecretBox.Nonce

namespace LocalDevBackend

/-- The secrets of the file by their references. -/
abbrev Contents := Dict String Payload

/-- `json.dumps` with `sort_keys`. -/
def dumps (contents : Contents) : String :=
  .ofList (JsonText.dumpsDict (JsonText.dumpsDict JsonText.dumpsString ∘ Dict.sorted) contents.sorted)

def loads (text : String) : Option Contents := JsonText.loads (JsonText.loadsDict (JsonText.loadsDict JsonText.loadsString)) text

/-- `text.encode("utf-8")`. -/
def encode (text : String) : List UInt8 := text.toUTF8.data.toList

/-- `plaintext.decode("utf-8")`. -/
def decode (plaintext : List UInt8) : Option String := String.fromUTF8? ⟨plaintext.toArray⟩

def load (key : List UInt8) (disk : Disk) : Except Raised Contents :=
  match disk.file with
  | none => .ok .empty
  | some ciphertext =>
    if ciphertext = [] then .ok .empty
    else
      match SecretBox.decrypt key ciphertext with
      | none => .error .RuntimeError
      | some plaintext =>
        match (decode plaintext).bind loads with
        | some contents => .ok contents
        | none => .error .ValueError

def save (key : List UInt8) (disk : Disk) (contents : Contents) : Disk where
  file := some (SecretBox.encrypt key (encode (dumps contents)) (disk.random 0))
  random n := disk.random (n + 1)

def read (key : List UInt8) (disk : Disk) (path : String) : Except Raised Payload := do
  let contents ← load key disk
  match contents.get? ("vault:" ++ path) with
  | some data => pure data
  | none => throw .KeyError

def write (key : List UInt8) (disk : Disk) (path : String) (data : Payload) : Except Raised Disk := do
  let contents ← load key disk
  pure (save key disk (contents.set ("vault:" ++ path) data))

def delete (key : List UInt8) (disk : Disk) (path : String) : Except Raised Disk := do
  let contents ← load key disk
  if (contents.get? ("vault:" ++ path)).isSome then pure (save key disk (contents.erase ("vault:" ++ path)))
  else pure disk

def stash (contents : Contents) (previous : String) (now : Utc) : Option Payload → Except Raised Contents
  | none => pure contents
  | some current => do
    let overlap_until ← overlap_end now
    pure (contents.set ("vault:" ++ previous) (stashed current overlap_until))

def rotate_webhook_secret (key : List UInt8) (disk : Disk) (provider dept_id new_secret : String) (now : Utc) :
    Except Raised Disk := do
  let active ← active provider dept_id
  let previous ← previous provider dept_id
  let contents ← load key disk
  let contents' ← stash contents previous now (contents.get? ("vault:" ++ active))
  pure (save key disk (contents'.set ("vault:" ++ active) (fresh new_secret)))

def client (key : List UInt8) : VaultClient Disk := ⟨read key,write key,delete key,rotate_webhook_secret key⟩

end LocalDevBackend

def ALLOWED_PROVIDERS : List String := ["jira","bitbucket","confluence"]

def validate_provider (provider : String) : Except Raised Unit :=
  if provider ∈ ALLOWED_PROVIDERS then .ok () else .error .ValueError

def ALGORITHM_PREFIX : String := "sha256="

def hmac_hexdigest (secret : String) (body : List UInt8) : String := Sha256.hex (Sha256.hmac (utf8 secret) body)

/-- A well-formed signature. -/
def signature_of (secret : String) (body : List UInt8) : String := ALGORITHM_PREFIX ++ hmac_hexdigest secret body

/-- `hmac.compare_digest` raises for a text that is not ASCII. -/
def compare_digest (expected received : String) : Except Raised Bool :=
  if expected.toList.all (·.toNat < 128) ∧ received.toList.all (·.toNat < 128) then .ok (expected == received) else .error .TypeError

def signature_matches (secret : String) (body : List UInt8) (signature_header : String) : Except Raised Bool :=
  if signature_header = "" ∨ hasPrefix signature_header ALGORITHM_PREFIX = false then .ok false
  else
    let received_hex := dropChars ALGORITHM_PREFIX.length signature_header
    if received_hex = "" then .ok false else compare_digest (hmac_hexdigest secret body) received_hex

def parse_overlap_until (payload : Payload) : Option Datetime :=
  match payload.get? "overlap_until" with
  | none => none
  | some raw => if raw = "" then none else fromisoformat raw

def still_open (now : Datetime) (payload : Payload) : Bool :=
  match parse_overlap_until payload with
  | none => false
  | some overlap_until => (ensure_aware now).instant < (ensure_aware overlap_until).instant

section
variable {σ : Type}

/-- The payload at a path, `None` for a `KeyError`. -/
def read_or_none (client : VaultClient σ) (s : σ) (path : String) : Except Raised (Option Payload) :=
  match client.read s path with
  | .ok data => .ok (some data)
  | .error .KeyError => .ok none
  | .error raised => .error raised

def secret_of (payload : Option Payload) : Option String := payload.bind fun data => data.get? "secret"

/-- A slot that has no secret to try does not match. -/
def tried (secret : Option String) (body : List UInt8) (signature : String) : Except Raised Bool :=
  match secret with
  | some secret => signature_matches secret body signature
  | none => pure false

/-- The secret of the previous slot, as long as its window is open. -/
def open_secret (now : Datetime) (payload : Option Payload) : Option String :=
  if payload.any (still_open now) then secret_of payload else none

def verify_webhook_hmac (client : VaultClient σ) (s : σ) (provider dept_id : String) (body : List UInt8) (signature : String)
    (now : Datetime) : Except Raised Bool := do
  validate_provider provider
  let active_path ← active provider dept_id
  let previous_path ← previous provider dept_id
  let active_payload ← read_or_none client s active_path
  let active_match ← tried (secret_of active_payload) body signature
  let previous_payload ← read_or_none client s previous_path
  let previous_match ← tried (open_secret now previous_payload) body signature
  pure (active_match || previous_match)

/-- A rotation with the secret that is drawn. The second reading of the clock goes to `meta`. -/
def rotate (client : VaultClient σ) (s : σ) (dept_id provider new_secret : String) (now later : Utc) : Except Raised σ := do
  validate_provider provider
  let s ← client.rotate_webhook_secret s provider dept_id new_secret now
  let meta_path ← rotation_meta provider dept_id
  client.write s meta_path (.ofItems [("rotated_at",isoformat later.1)])

def finalize (client : VaultClient σ) (s : σ) (dept_id provider : String) : Except Raised σ := do
  validate_provider provider
  let previous_path ← previous provider dept_id
  client.delete s previous_path

/-- A provider or the id of a department: it has no slash in it. -/
abbrev Segment := {text : String // '/' ∉ text.toList}

inductive Call where
  | rotate_webhook_secret (provider dept_id : Segment) (new_secret : String) (now : Utc)
  | rotate (dept_id provider : Segment) (new_secret : String) (now later : Utc)
  | finalize (dept_id provider : Segment)
  | verify_webhook_hmac (provider dept_id : Segment) (body : List UInt8) (signature : String) (now : Datetime)

/-- The state after a call, with the answer of a verification. -/
def perform (client : VaultClient σ) (s : σ) : Call → Except Raised (σ × List Bool)
  | .rotate_webhook_secret provider dept_id new_secret now => do
    let s ← client.rotate_webhook_secret s provider dept_id new_secret now
    pure (s,[])
  | .rotate dept_id provider new_secret now later => do
    let s ← rotate client s dept_id provider new_secret now later
    pure (s,[])
  | .finalize dept_id provider => do
    let s ← finalize client s dept_id provider
    pure (s,[])
  | .verify_webhook_hmac provider dept_id body signature now => do
    let answer ← verify_webhook_hmac client s provider dept_id body signature now
    pure (s,[answer])

/-- A sequence of calls up to the first that raises. -/
def run (client : VaultClient σ) : σ → List Call → Except Raised (σ × List Bool)
  | s, [] => pure (s,[])
  | s, call :: calls => do
    let first ← perform client s call
    let rest ← run client first.1 calls
    pure (rest.1,first.2 ++ rest.2)

end

/-- Both raise the same, or end with related results. -/
inductive Same {α β : Type} (R : α → β → Prop) : Except Raised α → Except Raised β → Prop where
  | error (raised : Raised) : Same R (.error raised) (.error raised)
  | ok {a : α} {b : β} (related : R a b) : Same R (.ok a) (.ok b)

section
variable {α β γ δ σ τ : Type} {R : σ → τ → Prop}

theorem Same.bind {P : α → β → Prop} {Q : γ → δ → Prop} {x : Except Raised α} {y : Except Raised β}
    {f : α → Except Raised γ} {g : β → Except Raised δ} (first : Same P x y) (next : ∀ a b, P a b → Same Q (f a) (g b)) :
    Same Q (x >>= f) (y >>= g) := by
  cases first with
  | error raised => exact .error raised
  | ok related => exact next _ _ related

theorem Same.refl (x : Except Raised α) : Same Eq x x := by
  cases x with
  | error raised => exact .error raised
  | ok a => exact .ok rfl

theorem Same.eq {x y : Except Raised α} (same : Same Eq x y) : x = y := by
  cases same with
  | error raised => rfl
  | ok related => rw [related]

/-- The operations of both clients on related states. Their payloads may differ in the order of the fields. -/
structure Simulates (R : σ → τ → Prop) (c : VaultClient σ) (d : VaultClient τ) : Prop where
  read : ∀ {s t}, R s t → ∀ path, Same (fun a b => a.get? = b.get?) (c.read s path) (d.read t path)
  write : ∀ {s t}, R s t → ∀ path data, Same R (c.write s path data) (d.write t path data)
  delete : ∀ {s t}, R s t → ∀ path, Same R (c.delete s path) (d.delete t path)
  rotates : ∀ {s t}, R s t → ∀ provider dept_id new_secret now,
    Same R (c.rotate_webhook_secret s provider dept_id new_secret now) (d.rotate_webhook_secret t provider dept_id new_secret now)

variable {c : VaultClient σ} {d : VaultClient τ} (simulates : Simulates R c d) {s : σ} {t : τ} (related : R s t)
include simulates related

theorem read_or_none_same (path : String) :
    Same (fun a b => a.map Dict.get? = b.map Dict.get?) (read_or_none c s path) (read_or_none d t path) := by
  unfold read_or_none
  generalize left : c.read s path = x
  generalize right : d.read t path = y
  have same := simulates.read related path
  rw [left,right] at same
  cases same with
  | error raised =>
    cases raised with
    | KeyError => exact .ok rfl
    | _ => exact .error _
  | ok fields => exact .ok (congrArg some fields)

omit simulates related in
theorem secret_of_same {a b : Option Payload} (fields : a.map Dict.get? = b.map Dict.get?) : secret_of a = secret_of b := by
  have secret : ∀ p : Option Payload, secret_of p = (p.map Dict.get?).bind fun get => get "secret" := by
    intro p
    cases p <;> rfl
  rw [secret,secret,fields]

omit simulates related in
theorem open_secret_same {a b : Option Payload} (fields : a.map Dict.get? = b.map Dict.get?) (now : Datetime) :
    open_secret now a = open_secret now b := by
  cases a with
  | none =>
    cases b with
    | none => rfl
    | some _ => cases fields
  | some a =>
    cases b with
    | none => cases fields
    | some b =>
      have get : a.get? = b.get? := Option.some.inj fields
      have opens : still_open now a = still_open now b := by simp only [still_open,parse_overlap_until,get]
      simp only [open_secret,Option.any_some,opens,secret_of_same fields]

theorem verify_same (provider dept_id : String) (body : List UInt8) (signature : String) (now : Datetime) :
    verify_webhook_hmac c s provider dept_id body signature now = verify_webhook_hmac d t provider dept_id body signature now := by
  apply Same.eq
  unfold verify_webhook_hmac
  refine (Same.refl _).bind fun _ _ _ => (Same.refl _).bind fun active_path _ here => ?_
  subst here
  refine (Same.refl _).bind fun previous_path _ here => ?_
  subst here
  refine (read_or_none_same simulates related active_path).bind fun current _ fields => ?_
  rw [secret_of_same fields]
  refine (Same.refl _).bind fun active_match _ here => ?_
  subst here
  refine (read_or_none_same simulates related previous_path).bind fun replaced _ fields => ?_
  rw [open_secret_same fields now]
  exact (Same.refl _).bind fun _ _ here => here ▸ Same.refl _

theorem rotate_same (dept_id provider new_secret : String) (now later : Utc) :
    Same R (rotate c s dept_id provider new_secret now later) (rotate d t dept_id provider new_secret now later) := by
  unfold rotate
  refine (Same.refl _).bind fun _ _ _ => (simulates.rotates related ..).bind fun _ _ rotated => ?_
  refine (Same.refl _).bind fun path _ here => ?_
  subst here
  exact simulates.write rotated ..

theorem finalize_same (dept_id provider : String) : Same R (finalize c s dept_id provider) (finalize d t dept_id provider) := by
  unfold finalize
  refine (Same.refl _).bind fun _ _ _ => (Same.refl _).bind fun path _ here => ?_
  subst here
  exact simulates.delete related ..

theorem perform_same (call : Call) : Same (fun a b => R a.1 b.1 ∧ a.2 = b.2) (perform c s call) (perform d t call) := by
  cases call with
  | rotate_webhook_secret provider dept_id new_secret now =>
    exact (simulates.rotates related ..).bind fun _ _ rotated => .ok ⟨rotated,rfl⟩
  | rotate dept_id provider new_secret now later =>
    exact (rotate_same simulates related ..).bind fun _ _ rotated => .ok ⟨rotated,rfl⟩
  | finalize dept_id provider => exact (finalize_same simulates related ..).bind fun _ _ finalized => .ok ⟨finalized,rfl⟩
  | verify_webhook_hmac provider dept_id body signature now =>
    simp only [perform]
    rw [verify_same simulates related]
    exact (Same.refl _).bind fun _ _ answer => .ok ⟨related,by rw [answer]⟩

/-- Sequences of calls that start with related states answer the same. -/
theorem run_same (calls : List Call) : Same (fun a b => R a.1 b.1 ∧ a.2 = b.2) (run c s calls) (run d t calls) := by
  induction calls generalizing s t with
  | nil => exact .ok ⟨related,rfl⟩
  | cons call calls ih =>
    refine (perform_same simulates related call).bind fun first first' both => ?_
    obtain ⟨after,answers⟩ := both
    refine (ih after).bind fun rest rest' both => ?_
    obtain ⟨final,later⟩ := both
    exact .ok ⟨final,by rw [answers,later]⟩

end

namespace LocalDevBackend
variable {key : List UInt8}

theorem decode_encode (text : String) : decode (encode text) = some text := by
  have bytes : (⟨(encode text).toArray⟩ : ByteArray) = text.toByteArray := by simp [encode]
  rw [decode,bytes]
  simp [String.fromUTF8?,String.fromUTF8,text.isValidUTF8]

theorem loads_dumps (contents : Contents) : loads (dumps contents) = some (contents.sorted.map Dict.sorted) := by
  have reads := JsonText.reads_dict ((JsonText.reads_dict JsonText.reads_string).comp Dict.sorted)
  have plain : Dict.map id ∘ Dict.sorted = (Dict.sorted : Payload → Payload) := funext fun payload => Dict.map_id _
  rw [loads,dumps,JsonText.loads_dumps reads,plain]

/-- What is saved is loaded again, in the order of its keys. -/
theorem load_save (disk : Disk) (contents : Contents) :
    load key (save key disk contents) = .ok (contents.sorted.map Dict.sorted) := by
  have opened := SecretBox.decrypt_encrypt key (encode (dumps contents)) (disk.random 0)
  have full := SecretBox.encrypt_ne_nil key (encode (dumps contents)) (disk.random 0)
  simp only [load,save,if_neg full,opened,decode_encode,Option.bind_some,loads_dumps]

/-- The contents have the secrets of the store. -/
def Agrees (contents : Contents) (store : Store) : Prop :=
  ∀ path, (contents.get? ("vault:" ++ path)).map Dict.get? = (store path).map Dict.get?

/-- The file can be opened and has the secrets of the store. -/
def Mirrors (key : List UInt8) (disk : Disk) (store : Store) : Prop :=
  ∃ contents, load key disk = .ok contents ∧ Agrees contents store

theorem reference_inj {path other : String} : "vault:" ++ path = "vault:" ++ other ↔ path = other := by
  refine ⟨fun same => ?_,fun same => by rw [same]⟩
  have texts := congrArg String.toList same
  rw [String.toList_append,String.toList_append] at texts
  exact String.toList_inj.mp (List.append_cancel_left texts)

section
variable {contents : Contents} {store : Store} (agrees : Agrees contents store)
include agrees

theorem mirrors_save (disk : Disk) : Mirrors key (save key disk contents) store := by
  refine ⟨_,load_save disk contents,fun path => ?_⟩
  have sorted : Dict.get? ∘ Dict.sorted = (Dict.get? : Payload → String → Option String) :=
    funext fun payload => funext (Dict.get?_sorted payload)
  rw [Dict.get?_map,Dict.get?_sorted,Option.map_map,sorted]
  exact agrees path

theorem agrees_set (path : String) {data data' : Payload} (fields : data.get? = data'.get?) :
    Agrees (contents.set ("vault:" ++ path) data) (Function.update store path (some data')) := by
  intro other
  rw [Dict.get?_set]
  by_cases same : other = path
  · rw [if_pos (by rw [same]),same,Function.update_self,Option.map_some,Option.map_some,fields]
  · rw [if_neg (by rw [reference_inj]; exact same),Function.update_of_ne same]
    exact agrees other

theorem agrees_erase (path : String) : Agrees (contents.erase ("vault:" ++ path)) (Function.update store path none) := by
  intro other
  rw [Dict.get?_erase]
  by_cases same : other = path
  · rw [if_pos (by rw [same]),same,Function.update_self]
  · rw [if_neg (by rw [reference_inj]; exact same),Function.update_of_ne same]
    exact agrees other

theorem agrees_cases (path : String) :
    (contents.get? ("vault:" ++ path) = none ∧ store path = none) ∨
      ∃ data data', contents.get? ("vault:" ++ path) = some data ∧ store path = some data' ∧ data.get? = data'.get? := by
  have here := agrees path
  cases left : contents.get? ("vault:" ++ path) with
  | none =>
    rw [left] at here
    exact Or.inl ⟨rfl,Option.map_eq_none_iff.mp here.symm⟩
  | some data =>
    rw [left] at here
    obtain ⟨data',right,fields⟩ := Option.map_eq_some_iff.mp here.symm
    exact Or.inr ⟨data,data',rfl,right,fields.symm⟩

theorem stash_same (path : String) (now : Utc) (here : String) :
    Same Agrees (stash contents path now (contents.get? ("vault:" ++ here))) (HashicorpBackend.stash store path now (store here)) := by
  obtain ⟨left,right⟩ | ⟨current,current',left,right,fields⟩ := agrees_cases agrees here
  · rw [left,right]
    exact .ok agrees
  · rw [left,right]
    refine (Same.refl _).bind fun overlap_until _ same => ?_
    subst same
    refine .ok (agrees_set agrees path ?_)
    funext field
    rw [stashed,stashed,Dict.get?_set,Dict.get?_set,fields]

end

/-- The file stays a mirror of the store under every operation. -/
theorem simulates (key : List UInt8) : Simulates (Mirrors key) (client key) HashicorpBackend.client where
  read := by
    rintro disk store ⟨contents,loaded,agrees⟩ path
    obtain ⟨left,right⟩ | ⟨data,data',left,right,fields⟩ := agrees_cases agrees path
    · simp only [client,HashicorpBackend.client,read,HashicorpBackend.read,loaded,right]
      simp only [bind,Except.bind,left]
      exact .error _
    · simp only [client,HashicorpBackend.client,read,HashicorpBackend.read,loaded,right]
      simp only [bind,Except.bind,left]
      exact .ok fields
  write := by
    rintro disk store ⟨contents,loaded,agrees⟩ path data
    simp only [client,HashicorpBackend.client,write,HashicorpBackend.write,loaded]
    exact .ok (mirrors_save (agrees_set agrees path rfl) disk)
  delete := by
    rintro disk store ⟨contents,loaded,agrees⟩ path
    simp only [client,HashicorpBackend.client,delete,HashicorpBackend.delete,loaded]
    have erased := agrees_erase agrees path
    simp only [bind,Except.bind]
    split
    · exact .ok (mirrors_save erased disk)
    · next absent =>
      obtain ⟨-,right⟩ | ⟨data,-,left,-,-⟩ := agrees_cases agrees path
      · have kept : Function.update store path none = store := by rw [← right,Function.update_eq_self]
        rw [kept]
        exact .ok ⟨contents,loaded,agrees⟩
      · rw [left] at absent
        exact absurd rfl absent
  rotates := by
    rintro disk store ⟨contents,loaded,agrees⟩ provider dept_id new_secret now
    simp only [client,HashicorpBackend.client,rotate_webhook_secret,HashicorpBackend.rotate_webhook_secret,loaded]
    refine (Same.refl _).bind fun active _ same => ?_
    subst same
    refine (Same.refl _).bind fun previous _ same => ?_
    subst same
    refine (stash_same agrees previous now active).bind fun contents' store' stashed => ?_
    exact .ok (mirrors_save (agrees_set stashed active rfl) disk)

/-- Both backends answer a sequence of calls the same. -/
theorem run_local {key : List UInt8} {disk : Disk} {store : Store} (mirrors : Mirrors key disk store) (calls : List Call) :
    Same (fun a b => Mirrors key a.1 b.1 ∧ a.2 = b.2) (run (client key) disk calls) (run HashicorpBackend.client store calls) :=
  run_same (simulates key) mirrors calls

end LocalDevBackend

end Automation.WebhookSecrets
