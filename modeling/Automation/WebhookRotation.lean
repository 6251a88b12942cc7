import Automation.Effects
import Automation.WebhookAcceptance

/-!
The rotation of a webhook secret by the admin API. Its three writes go to the previous
slot, the current one and the metadata, and each may fail, with or without an effect. What
an interrupted rotation leaves in the current slot has been returned to nobody; the next
attempt moves it over the secret that the provider still signs with. That secret stays
accepted in every run where such an attempt succeeds, or ends before its first write takes
effect (`returned_accepted`).
-/
namespace Automation.WebhookRotation
open Automation.Calendar Automation.Effects Automation.WebhookSecrets Automation.WebhookAcceptance

/-- How a write ends. A failed one may have taken effect. -/
inductive Outcome where
  | done | refused | lost
  deriving DecidableEq

def Outcome.succeeds (outcome : Outcome) : Bool := outcome = .done

def Outcome.effective (outcome : Outcome) : Bool := outcome ≠ .refused

/-- How the reading of the current secret ends; it may raise a `ValueError` or another exception. -/
inductive Reading where
  | answered | invalid | failed
  deriving DecidableEq

/-- The pattern of the schema: a small letter, and from one to thirty of small letters, digits and dashes. -/
def isDepartmentId (id : String) : Bool :=
  match id.toList with
  | [] => false
  | c :: rest =>
    c.isLower && 1 ≤ rest.length && rest.length ≤ 30 && rest.all fun c => c.isLower || c.isDigit || c = '-'

abbrev DepartmentId := {id : String // isDepartmentId id = true}

abbrev Provider := {name : String // name ∈ ALLOWED_PROVIDERS}

/-- A request with the secret that is drawn for it and the reading of the clock. -/
structure Request where
  dept_id : String
  provider : String
  new_secret : String
  now : Utc
  reading : Reading
  previous_write : Outcome
  current_write : Outcome
  meta_write : Outcome

inductive Response where
  | rotated (new_secret rotated_at : String)
  | failed (status : Nat)

def write (store : Store) (path : String) (data : Payload) (outcome : Outcome) : Store :=
  if outcome.effective then Function.update store path (some data) else store

def previous_data (secret : String) (overlap_until : Datetime) : Payload :=
  .ofItems [("secret",secret),("overlap_until",isoformat overlap_until)]

/-- What becomes of the current secret: there is none to move, the end of its window cannot
    be computed, or this is written to the previous slot. -/
inductive Demotion where
  | skipped
  | impossible
  | stashed (data : Payload)

def demotion (overlap_s : Int) (now : Utc) : Option String → Demotion
  | none => .skipped
  | some secret =>
    if secret = "" then .skipped
    else
      match now.1.add (overlap_s * 1000000) with
      | none => .impossible
      | some overlap_until => .stashed (previous_data secret overlap_until)

section
variable (overlap_s : Int)

/-- The store after the first write, and whether the rotation goes on. -/
def demote (store : Store) (req : Request) : Store × Bool :=
  match demotion overlap_s req.now (secret_of (store (slot req.provider req.dept_id))) with
  | .skipped => (store,true)
  | .impossible => (store,false)
  | .stashed data => (write store (slot req.provider req.dept_id ++ "/previous") data req.previous_write,req.previous_write.succeeds)

def rotate_webhook_secret (store : Store) (req : Request) : Store × Response :=
  let demoted := demote overlap_s store req
  if demoted.2 then
    let current := write demoted.1 (slot req.provider req.dept_id) (fresh req.new_secret) req.current_write
    if req.current_write.succeeds then
      let rotated_at := isoformat req.now.1
      let noted := write current (slot req.provider req.dept_id ++ "/meta") (.ofItems [("rotated_at",rotated_at)]) req.meta_write
      if req.meta_write.succeeds then (noted,.rotated req.new_secret rotated_at) else (noted,.failed 502)
    else (current,.failed 502)
  else (demoted.1,.failed 502)

variable (dept_ids : List DepartmentId)

/-- The provider is one of the three, and the department is in the configuration. -/
def valid (req : Request) : Bool := req.provider ∈ ALLOWED_PROVIDERS && dept_ids.any fun id => id.1 = req.dept_id

def rotate_webhook (store : Store) (req : Request) : Store × Response :=
  if req.provider ∉ ALLOWED_PROVIDERS then (store,.failed 400)
  else if !dept_ids.any fun id => id.1 = req.dept_id then (store,.failed 404)
  else
    match req.reading with
    | .invalid => (store,.failed 400)
    | .failed => (store,.failed 502)
    | .answered => rotate_webhook_secret overlap_s store req

/-- The vault, with the secret that was returned last, the time when it left the current
    slot, and the latest reading of the clock. -/
structure Desk where
  store : Store
  returned : Option String
  demoted : Option Utc
  clock : Int

variable (provider : Provider) (dept_id : DepartmentId)

/-- Before the first request the provider signs with the current secret. -/
def initial (store : Store) (clock : Int) : Desk := ⟨store,secret_of (store (slot provider dept_id)),none,clock⟩

/-- The secret has left the current slot, now if not before. -/
def demoted_after (s : Desk) (store : Store) (now : Utc) : Option Utc :=
  match s.demoted with
  | some demoted => some demoted
  | none => if secret_of (store (slot provider dept_id)) = s.returned then none else some now

def step (s : Desk) (req : Request) : Desk :=
  let result := rotate_webhook overlap_s dept_ids s.store req
  let clock := max s.clock req.now.1.instant
  if req.provider = provider.1 ∧ req.dept_id = dept_id.1 then
    match result.2 with
    | .rotated new_secret _ => ⟨result.1,some new_secret,none,clock⟩
    | .failed _ => ⟨result.1,s.returned,demoted_after provider dept_id s result.1 req.now,clock⟩
  else { s with store := result.1, clock := clock }

/-- The secret that was returned last is accepted from now on: always while it is the current
    one, and for the length of the window from the time when it left. -/
def Accepts (s : Desk) : Prop :=
  ∀ secret ∈ s.returned, ∀ (body : List UInt8) (now : Datetime), s.clock ≤ now.instant →
    (∀ demoted ∈ s.demoted, now.instant < demoted.1.instant + overlap_s * 1000000) →
    verify_webhook_hmac HashicorpBackend.client s.store provider dept_id body (signature_of secret body) now = .ok true

/-- The first write takes effect. -/
def writes_previous (store : Store) (req : Request) : Bool :=
  req.reading = .answered &&
    match demotion overlap_s req.now (secret_of (store (slot req.provider req.dept_id))) with
    | .stashed _ => req.previous_write.effective
    | _ => false

/-- The request comes to its second write. -/
def passes (store : Store) (req : Request) : Bool :=
  req.reading = .answered &&
    match demotion overlap_s req.now (secret_of (store (slot req.provider req.dept_id))) with
    | .skipped => true
    | .impossible => false
    | .stashed _ => req.previous_write.succeeds

def writes_current (store : Store) (req : Request) : Bool := passes overlap_s store req && req.current_write.effective

def completes (store : Store) (req : Request) : Bool :=
  passes overlap_s store req && req.current_write.succeeds && req.meta_write.succeeds

/-- A request that fails after it has put something else into the place of the last returned
    secret: into the current slot where that secret is empty, into the previous slot where it
    stands there and its window is open. -/
def strands (s : Desk) (req : Request) : Bool :=
  req.provider = provider.1 && req.dept_id = dept_id.1 && valid dept_ids req && !completes overlap_s s.store req &&
    match s.returned with
    | none => false
    | some secret =>
      match s.demoted with
      | none => secret = "" && writes_current overlap_s s.store req
      | some demoted =>
        writes_previous overlap_s s.store req &&
          max s.clock req.now.1.instant < demoted.1.instant + overlap_s * 1000000

def Keeps (s : Desk) (req : Request) : Prop := strands overlap_s dept_ids provider dept_id s req = false

instance (s : Desk) (req : Request) : Decidable (Keeps overlap_s dept_ids provider dept_id s req) :=
  inferInstanceAs (Decidable (_ = false))

end

theorem append_ne (path : String) {suffix : String} (some : suffix ≠ "") : path ≠ path ++ suffix := by
  intro same
  have texts := congrArg String.toList same
  rw [String.toList_append] at texts
  have empty : suffix.toList = [] := List.append_cancel_left ((List.append_nil path.toList).trans texts).symm
  exact some (String.toList_eq_nil_iff.mp empty)

theorem append_inj_ne (path : String) {suffix other : String} (different : suffix ≠ other) : path ++ suffix ≠ path ++ other := by
  intro same
  have texts := congrArg String.toList same
  rw [String.toList_append,String.toList_append] at texts
  exact different (String.toList_inj.mp (List.append_cancel_left texts))

theorem write_same (store : Store) (path : String) (data : Payload) (outcome : Outcome) :
    write store path data outcome path = if outcome.effective then some data else store path := by
  unfold write
  split
  · exact Function.update_self ..
  · rfl

theorem write_other (store : Store) {path other : String} (data : Payload) (outcome : Outcome) (different : other ≠ path) :
    write store path data outcome other = store other := by
  unfold write
  split
  · exact Function.update_of_ne different ..
  · rfl

section
variable {overlap_s : Int} {dept_ids : List DepartmentId} {store : Store} {req : Request}

theorem demote_other {path : String} (different : path ≠ slot req.provider req.dept_id ++ "/previous") :
    (demote overlap_s store req).1 path = store path := by
  unfold demote
  split
  · rfl
  · rfl
  · exact write_other store _ _ different

/-- A rotation writes to the three paths of its pair only. -/
theorem rotate_secret_other {path : String} (active : path ≠ slot req.provider req.dept_id)
    (previous : path ≠ slot req.provider req.dept_id ++ "/previous") (noted : path ≠ slot req.provider req.dept_id ++ "/meta") :
    (rotate_webhook_secret overlap_s store req).1 path = store path := by
  have demoted : (demote overlap_s store req).1 path = store path := demote_other previous
  unfold rotate_webhook_secret
  simp only
  split
  · have current : write (demote overlap_s store req).1 (slot req.provider req.dept_id) (fresh req.new_secret) req.current_write path =
        store path := by rw [write_other _ _ _ active,demoted]
    split
    · split
      · show write _ _ _ _ path = store path
        rw [write_other _ _ _ noted,current]
      · show write _ _ _ _ path = store path
        rw [write_other _ _ _ noted,current]
    · exact current
  · exact demoted

/-- What a request does that is not turned down. -/
theorem rotate_valid (accepted : valid dept_ids req = true) (answered : req.reading = .answered) :
    rotate_webhook overlap_s dept_ids store req = rotate_webhook_secret overlap_s store req := by
  unfold valid at accepted
  rw [Bool.and_eq_true,decide_eq_true_eq] at accepted
  rw [rotate_webhook,if_neg (not_not.mpr accepted.1),accepted.2]
  simp [answered]

theorem rotate_unanswered (silent : valid dept_ids req = false ∨ req.reading ≠ .answered) :
    (rotate_webhook overlap_s dept_ids store req).1 = store ∧ ∃ status, (rotate_webhook overlap_s dept_ids store req).2 = .failed status := by
  unfold rotate_webhook
  split
  · exact ⟨rfl,_,rfl⟩
  · next known =>
    split
    · exact ⟨rfl,_,rfl⟩
    · next listed =>
      have accepted : valid dept_ids req = true := by
        rw [valid,Bool.and_eq_true,decide_eq_true_eq]
        exact ⟨not_not.mp known,by simpa using listed⟩
      obtain refused | other := silent
      · rw [accepted] at refused
        cases refused
      · cases reading : req.reading with
        | answered => exact absurd reading other
        | invalid => exact ⟨rfl,_,rfl⟩
        | failed => exact ⟨rfl,_,rfl⟩

theorem rotate_secret_previous :
    (rotate_webhook_secret overlap_s store req).1 (slot req.provider req.dept_id ++ "/previous") =
      (demote overlap_s store req).1 (slot req.provider req.dept_id ++ "/previous") := by
  have apart : slot req.provider req.dept_id ++ "/previous" ≠ slot req.provider req.dept_id := (append_ne _ (by decide)).symm
  have apart' : slot req.provider req.dept_id ++ "/previous" ≠ slot req.provider req.dept_id ++ "/meta" :=
    append_inj_ne _ (by decide)
  unfold rotate_webhook_secret
  simp only
  split
  · split
    · split
      · show write _ _ _ _ _ = _
        rw [write_other _ _ _ apart',write_other _ _ _ apart]
      · show write _ _ _ _ _ = _
        rw [write_other _ _ _ apart',write_other _ _ _ apart]
    · show write _ _ _ _ _ = _
      rw [write_other _ _ _ apart]
  · rfl

section answered
variable (answered : req.reading = .answered)
include answered

theorem passes_demote : passes overlap_s store req = (demote overlap_s store req).2 := by
  unfold passes demote
  rw [answered]
  split <;> simp

theorem rotate_secret_current :
    (rotate_webhook_secret overlap_s store req).1 (slot req.provider req.dept_id) =
      if writes_current overlap_s store req then some (fresh req.new_secret) else store (slot req.provider req.dept_id) := by
  have apart : slot req.provider req.dept_id ≠ slot req.provider req.dept_id ++ "/previous" := append_ne _ (by decide)
  have apart' : slot req.provider req.dept_id ≠ slot req.provider req.dept_id ++ "/meta" := append_ne _ (by decide)
  have kept : (demote overlap_s store req).1 (slot req.provider req.dept_id) = store (slot req.provider req.dept_id) := demote_other apart
  unfold rotate_webhook_secret writes_current
  rw [passes_demote answered]
  simp only
  split
  · next goes =>
    have current : write (demote overlap_s store req).1 (slot req.provider req.dept_id) (fresh req.new_secret) req.current_write
        (slot req.provider req.dept_id) =
          if req.current_write.effective then some (fresh req.new_secret) else store (slot req.provider req.dept_id) := by
      rw [write_same,kept]
    rw [goes,Bool.true_and]
    split
    · split
      · show write _ _ _ _ _ = _
        rw [write_other _ _ _ apart',current]
      · show write _ _ _ _ _ = _
        rw [write_other _ _ _ apart',current]
    · exact current
  · next stops =>
    rw [Bool.eq_false_iff.mpr stops,Bool.false_and,if_neg Bool.false_ne_true]
    exact kept

theorem rotate_secret_response :
    (rotate_webhook_secret overlap_s store req).2 =
      if completes overlap_s store req then .rotated req.new_secret (isoformat req.now.1) else .failed 502 := by
  unfold rotate_webhook_secret completes
  rw [passes_demote answered]
  simp only
  cases (demote overlap_s store req).2 <;> cases req.current_write.succeeds <;> cases req.meta_write.succeeds <;> rfl

theorem demote_kept (silent : writes_previous overlap_s store req = false) :
    (demote overlap_s store req).1 (slot req.provider req.dept_id ++ "/previous") = store (slot req.provider req.dept_id ++ "/previous") := by
  unfold writes_previous at silent
  rw [answered] at silent
  unfold demote
  split
  · rfl
  · rfl
  · next data stashed =>
    rw [stashed] at silent
    have refused : req.previous_write.effective = false := by simpa using silent
    show write _ _ _ _ _ = _
    rw [write_same,refused]
    rfl

/-- A rotation that comes to its second write has moved a secret that is not empty. -/
theorem demote_stashed {secret : String} (here : secret_of (store (slot req.provider req.dept_id)) = some secret) (some : secret ≠ "")
    (goes : passes overlap_s store req = true) :
    ∃ overlap_until, req.now.1.add (overlap_s * 1000000) = .some overlap_until ∧
      (demote overlap_s store req).1 (slot req.provider req.dept_id ++ "/previous") = .some (previous_data secret overlap_until) := by
  unfold passes at goes
  unfold demote
  rw [here,demotion,if_neg some] at goes ⊢
  cases added : req.now.1.add (overlap_s * 1000000) with
  | none =>
    rw [added] at goes
    simp at goes
  | some overlap_until =>
    rw [added] at goes
    have done : req.previous_write = .done := by
      have succeeds : req.previous_write.succeeds = true := by simpa [answered] using goes
      simpa [Outcome.succeeds] using succeeds
    refine ⟨overlap_until,rfl,?_⟩
    show write _ _ _ _ _ = _
    rw [write_same,done]
    rfl

end answered

end

theorem isDepartmentId_chars {id : String} (valid : isDepartmentId id = true) {c : Char} (member : c ∈ id.toList) :
    c.isLower = true ∨ c.isDigit = true ∨ c = '-' := by
  unfold isDepartmentId at valid
  cases chars : id.toList with
  | nil =>
    rw [chars] at valid
    cases valid
  | cons first rest =>
    rw [chars] at valid member
    simp only [Bool.and_eq_true,List.all_eq_true,Bool.or_eq_true,decide_eq_true_eq] at valid
    obtain ⟨⟨⟨lower,-⟩,-⟩,others⟩ := valid
    obtain rfl | member := List.mem_cons.mp member
    · exact Or.inl lower
    · obtain (lower | digit) | dash := others c member
      · exact Or.inl lower
      · exact Or.inr (Or.inl digit)
      · exact Or.inr (Or.inr dash)

theorem isDepartmentId_path {id : String} (valid : isDepartmentId id = true) : id.toList.all RunnerRecords.isPathChar = true := by
  rw [List.all_eq_true]
  intro c member
  obtain lower | digit | rfl := isDepartmentId_chars valid member
  · have alpha : c.isAlpha = true := by
      show (c.isUpper || c.isLower) = true
      rw [lower,Bool.or_true]
    simp [RunnerRecords.isPathChar,Char.isAlphanum,alpha]
  · simp [RunnerRecords.isPathChar,Char.isAlphanum,digit]
  · rfl

theorem isDepartmentId_slash {id : String} (valid : isDepartmentId id = true) : '/' ∉ id.toList := by
  intro member
  obtain lower | digit | dash := isDepartmentId_chars valid member
  · exact absurd lower (by decide)
  · exact absurd digit (by decide)
  · exact absurd dash (by decide)

/-- A pair has no slash in its names. -/
def Provider.segment (provider : Provider) : Segment :=
  ⟨provider.1,(by decide : ∀ name ∈ ALLOWED_PROVIDERS, '/' ∉ name.toList) provider.1 provider.2⟩

def DepartmentId.segment (dept_id : DepartmentId) : Segment := ⟨dept_id.1,isDepartmentId_slash dept_id.2⟩

section
variable {provider : Provider} {dept_id : DepartmentId}

theorem slot_path : (slot provider dept_id).toList.all RunnerRecords.isPathChar = true := by
  have front : "webhooks/".toList.all RunnerRecords.isPathChar = true := by decide
  have name : provider.1.toList.all RunnerRecords.isPathChar = true :=
    (by decide : ∀ name ∈ ALLOWED_PROVIDERS, name.toList.all RunnerRecords.isPathChar = true) provider.1 provider.2
  have separator : RunnerRecords.isPathChar '/' = true := by decide
  rw [slot_toList,List.all_append,List.all_append,List.all_cons,front,name,separator,isDepartmentId_path dept_id.2]
  rfl

theorem parse_slot {suffix : String} (plain : suffix.toList.all RunnerRecords.isPathChar = true) :
    parse ("vault:" ++ (slot provider dept_id ++ suffix)) = .ok (slot provider dept_id ++ suffix) := by
  have chars : (slot provider dept_id ++ suffix).toList.all RunnerRecords.isPathChar = true := by
    rw [String.toList_append,List.all_append,slot_path,plain]
    rfl
  have filled : slot provider dept_id ++ suffix ≠ "" := by
    rw [ne_eq,← String.toList_eq_nil_iff,String.toList_append,slot_toList]
    simp
  have accepted : RunnerRecords.VaultPath.parse ("vault:" ++ (slot provider dept_id ++ suffix)) = some (slot provider dept_id ++ suffix) := by
    simp only [RunnerRecords.VaultPath.parse,RunnerRecords.reference_prefixed,RunnerRecords.reference_path]
    rw [if_pos ⟨trivial,filled,chars⟩]
  rw [parse,accepted]
  rfl

theorem active_slot : active provider dept_id = .ok (slot provider dept_id) := by
  have parsed : parse ("vault:" ++ (slot provider dept_id ++ "")) = .ok (slot provider dept_id ++ "") := parse_slot rfl
  rwa [String.append_empty] at parsed

theorem previous_slot : previous provider dept_id = .ok (slot provider dept_id ++ "/previous") := by
  rw [previous,String.append_assoc]
  exact parse_slot (by decide)

theorem verify_slots (store : Store) (secret : String) (body : List UInt8) (now : Datetime) :
    verify_webhook_hmac HashicorpBackend.client store provider dept_id body (signature_of secret body) now =
      .ok (((secret_of (store (slot provider dept_id))).any fun other => hmac_hexdigest other body == hmac_hexdigest secret body) ||
        ((open_secret now (store (slot provider dept_id ++ "/previous"))).any fun other =>
          hmac_hexdigest other body == hmac_hexdigest secret body)) := by
  have known : validate_provider provider = .ok () := if_pos provider.2
  simp only [verify_webhook_hmac,known,active_slot,previous_slot,read_or_none_store,tried_signature,bind,Except.bind,pure,Except.pure]

variable {overlap_s : Int} {dept_ids : List DepartmentId}

/-- The secret stands in the current slot, or in the previous one until its window ends. -/
def Holds (overlap_s : Int) (provider : Provider) (dept_id : DepartmentId) (s : Desk) : Prop :=
  ∀ secret ∈ s.returned,
    match s.demoted with
    | none => secret_of (s.store (slot provider dept_id)) = some secret
    | some demoted => ∀ now : Datetime, s.clock ≤ now.instant → now.instant < demoted.1.instant + overlap_s * 1000000 →
        open_secret now (s.store (slot provider dept_id ++ "/previous")) = some secret

theorem Holds.accepts {s : Desk} (holds : Holds overlap_s provider dept_id s) : Accepts overlap_s provider dept_id s := by
  intro secret returned body now later inside
  rw [verify_slots]
  have kept := holds secret returned
  cases demoted : s.demoted with
  | none =>
    rw [demoted] at kept
    rw [show secret_of (s.store (slot provider dept_id)) = some secret from kept,Option.any_some,beq_self_eq_true,Bool.true_or]
  | some time =>
    rw [demoted] at kept
    rw [kept now later (inside time demoted),Option.any_some,beq_self_eq_true,Bool.or_true]

theorem holds_initial (store : Store) (clock : Int) : Holds overlap_s provider dept_id (initial provider dept_id store clock) :=
  fun _ returned => returned

theorem Holds.congr {s : Desk} (holds : Holds overlap_s provider dept_id s) {store : Store} {clock : Int}
    (here : store (slot provider dept_id) = s.store (slot provider dept_id))
    (behind : store (slot provider dept_id ++ "/previous") = s.store (slot provider dept_id ++ "/previous")) (later : s.clock ≤ clock) :
    Holds overlap_s provider dept_id { s with store := store, clock := clock } := by
  intro secret returned
  have kept := holds secret returned
  cases demoted : s.demoted with
  | none =>
    rw [demoted] at kept
    show secret_of (store (slot provider dept_id)) = some secret
    rw [here]
    exact kept
  | some time =>
    rw [demoted] at kept
    intro now after inside
    show open_secret now (store (slot provider dept_id ++ "/previous")) = some secret
    rw [behind]
    exact kept now (le_trans later after) inside

theorem rotate_cases (overlap_s : Int) (dept_ids : List DepartmentId) (store : Store) (req : Request) :
    ((rotate_webhook overlap_s dept_ids store req).1 = store ∧ ∃ status, (rotate_webhook overlap_s dept_ids store req).2 = .failed status) ∨
      (valid dept_ids req = true ∧ req.reading = .answered ∧
        rotate_webhook overlap_s dept_ids store req = rotate_webhook_secret overlap_s store req) := by
  by_cases answered : req.reading = .answered
  · cases accepted : valid dept_ids req with
    | false => exact Or.inl (rotate_unanswered (Or.inl accepted))
    | true => exact Or.inr ⟨rfl,answered,rotate_valid accepted answered⟩
  · exact Or.inl (rotate_unanswered (Or.inr answered))

theorem valid_segments {req : Request} (accepted : valid dept_ids req = true) :
    ∃ (provider' : Provider) (dept_id' : DepartmentId), req.provider = provider'.1 ∧ req.dept_id = dept_id'.1 := by
  rw [valid,Bool.and_eq_true,decide_eq_true_eq,List.any_eq_true] at accepted
  obtain ⟨known,id,-,listed⟩ := accepted
  exact ⟨⟨req.provider,known⟩,id,rfl,(of_decide_eq_true listed).symm⟩

theorem rotate_other_pair (store : Store) {req : Request} (other : ¬(req.provider = provider.1 ∧ req.dept_id = dept_id.1)) :
    (rotate_webhook overlap_s dept_ids store req).1 (slot provider dept_id) = store (slot provider dept_id) ∧
      (rotate_webhook overlap_s dept_ids store req).1 (slot provider dept_id ++ "/previous") =
        store (slot provider dept_id ++ "/previous") := by
  obtain ⟨same,-⟩ | ⟨accepted,-,rotates⟩ := rotate_cases overlap_s dept_ids store req
  · rw [same]
    exact ⟨rfl,rfl⟩
  · obtain ⟨provider',dept_id',named,listed⟩ := valid_segments accepted
    have apart : ¬(provider'.segment = provider.segment ∧ dept_id'.segment = dept_id.segment) := by
      rintro ⟨names,ids⟩
      have name : provider'.1 = provider.1 := congrArg (fun text : Segment => text.1) names
      have id : dept_id'.1 = dept_id.1 := congrArg (fun text : Segment => text.1) ids
      exact other ⟨named.trans name,listed.trans id⟩
    have active : ∀ x : String, Suffix x.toList → slot provider dept_id ≠ slot req.provider req.dept_id ++ x := by
      intro x suffix
      rw [named,listed]
      exact @active_ne provider.segment dept_id.segment provider'.segment dept_id'.segment x suffix (Or.inl apart)
    have previous : ∀ x : String, Suffix x.toList → slot provider dept_id ++ "/previous" ≠ slot req.provider req.dept_id ++ x := by
      intro x suffix
      rw [named,listed]
      exact @previous_ne provider.segment dept_id.segment provider'.segment dept_id'.segment x suffix (Or.inl apart)
    have bare : slot req.provider req.dept_id ++ "" = slot req.provider req.dept_id := String.append_empty
    rw [rotates]
    constructor
    · exact rotate_secret_other (bare ▸ active "" bare_suffix) (active _ previous_suffix) (active _ meta_suffix)
    · exact rotate_secret_other (bare ▸ previous "" bare_suffix) (previous _ previous_suffix) (previous _ meta_suffix)

theorem open_previous_data {secret : String} {now : Utc} {overlap_until : Datetime}
    (added : now.1.add (overlap_s * 1000000) = some overlap_until) {later : Datetime}
    (inside : later.instant < now.1.instant + overlap_s * 1000000) :
    open_secret later (some (previous_data secret overlap_until)) = some secret := by
  obtain ⟨utc,instant⟩ := add_utc now.2 added
  have stamp : (previous_data secret overlap_until).get? "overlap_until" = some (isoformat overlap_until) := by
    simp [previous_data,Dict.ofItems,Dict.get?_set]
  rw [open_payload utc stamp,instant,if_pos inside]
  simp [secret_of,previous_data,Dict.ofItems,Dict.get?_set]

section
variable {s : Desk} {req : Request}

theorem step_other (other : ¬(req.provider = provider.1 ∧ req.dept_id = dept_id.1)) :
    step overlap_s dept_ids provider dept_id s req =
      { s with store := (rotate_webhook overlap_s dept_ids s.store req).1, clock := max s.clock req.now.1.instant } := by
  unfold step
  rw [if_neg other]

theorem step_rotated (own : req.provider = provider.1 ∧ req.dept_id = dept_id.1) {new_secret rotated_at : String}
    (response : (rotate_webhook overlap_s dept_ids s.store req).2 = .rotated new_secret rotated_at) :
    step overlap_s dept_ids provider dept_id s req =
      ⟨(rotate_webhook overlap_s dept_ids s.store req).1,some new_secret,none,max s.clock req.now.1.instant⟩ := by
  unfold step
  simp only [if_pos own,response]

theorem step_failed (own : req.provider = provider.1 ∧ req.dept_id = dept_id.1) {status : Nat}
    (response : (rotate_webhook overlap_s dept_ids s.store req).2 = .failed status) :
    step overlap_s dept_ids provider dept_id s req =
      ⟨(rotate_webhook overlap_s dept_ids s.store req).1,s.returned,
        demoted_after provider dept_id s (rotate_webhook overlap_s dept_ids s.store req).1 req.now,
        max s.clock req.now.1.instant⟩ := by
  unfold step
  simp only [if_pos own,response]

/-- What a request that is not completed may not have done to the secret that is held. -/
theorem keeps_cases (own : req.provider = provider.1 ∧ req.dept_id = dept_id.1) (accepted : valid dept_ids req = true)
    (incomplete : completes overlap_s s.store req = false) (keeps : Keeps overlap_s dept_ids provider dept_id s req) {secret : String}
    (returned : s.returned = some secret) :
    (s.demoted = none → secret = "" → writes_current overlap_s s.store req = false) ∧
      ∀ demoted, s.demoted = some demoted → max s.clock req.now.1.instant < demoted.1.instant + overlap_s * 1000000 →
        writes_previous overlap_s s.store req = false := by
  unfold Keeps strands at keeps
  simp only [own.1,own.2,accepted,incomplete,returned,decide_true,Bool.not_false,Bool.true_and] at keeps
  constructor
  · intro current empty
    rw [current] at keeps
    simpa [empty] using keeps
  · intro demoted left inside
    rw [left] at keeps
    simpa [inside] using keeps

theorem failed_current (own : req.provider = provider.1 ∧ req.dept_id = dept_id.1) (answered : req.reading = .answered) {secret : String}
    (returned : s.returned = some secret) (current : s.demoted = none)
    (here : secret_of (s.store (slot provider dept_id)) = some secret)
    (safe : secret = "" → writes_current overlap_s s.store req = false) (clock : Int) :
    Holds overlap_s provider dept_id
      ⟨(rotate_webhook_secret overlap_s s.store req).1,s.returned,
        demoted_after provider dept_id s (rotate_webhook_secret overlap_s s.store req).1 req.now,clock⟩ := by
  have after := @rotate_secret_current overlap_s s.store req answered
  have behind := @rotate_secret_previous overlap_s s.store req
  rw [own.1,own.2] at after behind
  intro secret' same
  obtain rfl : secret = secret' := Option.some.inj (returned.symm.trans same)
  simp only [demoted_after,current,returned]
  by_cases stays : secret_of ((rotate_webhook_secret overlap_s s.store req).1 (slot provider dept_id)) = some secret
  · rw [if_pos stays]
    exact stays
  · rw [if_neg stays]
    have writes : writes_current overlap_s s.store req = true := by
      by_contra silent
      rw [if_neg silent] at after
      exact stays (by rw [after]; exact here)
    have filled : secret ≠ "" := by
      intro empty
      rw [safe empty] at writes
      cases writes
    have goes : passes overlap_s s.store req = true := by
      rw [writes_current,Bool.and_eq_true] at writes
      exact writes.1
    have moved : secret_of (s.store (slot req.provider req.dept_id)) = some secret := by
      rw [own.1,own.2]
      exact here
    obtain ⟨overlap_until,added,stashed⟩ := demote_stashed answered moved filled goes
    rw [own.1,own.2] at stashed
    intro now _ inside
    show open_secret now ((rotate_webhook_secret overlap_s s.store req).1 (slot provider dept_id ++ "/previous")) = some secret
    rw [behind,stashed]
    exact open_previous_data added inside

theorem failed_demoted (own : req.provider = provider.1 ∧ req.dept_id = dept_id.1) (answered : req.reading = .answered)
    {demoted : Utc} (left : s.demoted = some demoted) (holds : Holds overlap_s provider dept_id s)
    (safe : max s.clock req.now.1.instant < demoted.1.instant + overlap_s * 1000000 → writes_previous overlap_s s.store req = false) :
    Holds overlap_s provider dept_id
      ⟨(rotate_webhook_secret overlap_s s.store req).1,s.returned,
        demoted_after provider dept_id s (rotate_webhook_secret overlap_s s.store req).1 req.now,max s.clock req.now.1.instant⟩ := by
  intro secret returned
  have kept := holds secret returned
  rw [left] at kept
  simp only [demoted_after,left]
  intro now later inside
  have silent := safe (lt_of_le_of_lt later inside)
  have behind := @rotate_secret_previous overlap_s s.store req
  rw [demote_kept answered silent,own.1,own.2] at behind
  show open_secret now ((rotate_webhook_secret overlap_s s.store req).1 (slot provider dept_id ++ "/previous")) = some secret
  rw [behind]
  exact kept now (le_trans (le_max_left ..) later) inside

theorem completed_current (own : req.provider = provider.1 ∧ req.dept_id = dept_id.1) (answered : req.reading = .answered)
    (complete : completes overlap_s s.store req = true) :
    secret_of ((rotate_webhook_secret overlap_s s.store req).1 (slot provider dept_id)) = some req.new_secret := by
  have after := @rotate_secret_current overlap_s s.store req answered
  have writes : writes_current overlap_s s.store req = true := by
    unfold completes at complete
    rw [Bool.and_eq_true,Bool.and_eq_true] at complete
    have done : req.current_write = .done := of_decide_eq_true complete.1.2
    rw [writes_current,complete.1.1,done]
    rfl
  rw [own.1,own.2,if_pos writes] at after
  rw [after,secret_of_fresh]

theorem Holds.step (holds : Holds overlap_s provider dept_id s) (keeps : Keeps overlap_s dept_ids provider dept_id s req) :
    Holds overlap_s provider dept_id (step overlap_s dept_ids provider dept_id s req) := by
  by_cases own : req.provider = provider.1 ∧ req.dept_id = dept_id.1
  · obtain ⟨same,status,failed⟩ | ⟨accepted,answered,rotates⟩ := rotate_cases overlap_s dept_ids s.store req
    · rw [step_failed own failed,same]
      have idle : demoted_after provider dept_id s s.store req.now = s.demoted ∨ s.returned = none := by
        cases left : s.demoted with
        | some demoted => exact Or.inl (by rw [demoted_after,left])
        | none =>
          cases returned : s.returned with
          | none => exact Or.inr rfl
          | some secret =>
            have here := holds secret returned
            rw [left] at here
            exact Or.inl (by simp only [demoted_after,left]; rw [if_pos (here.trans returned.symm)])
      obtain idle | nothing := idle
      · rw [idle]
        exact holds.congr rfl rfl (le_max_left ..)
      · intro secret returned
        have returned : s.returned = some secret := returned
        rw [nothing] at returned
        cases returned
    · have response := @rotate_secret_response overlap_s s.store req answered
      cases complete : completes overlap_s s.store req with
      | true =>
        rw [if_pos complete,← rotates] at response
        rw [step_rotated own response,rotates]
        intro secret returned
        obtain rfl : req.new_secret = secret := Option.some.inj returned
        exact completed_current own answered complete
      | false =>
        rw [complete,if_neg Bool.false_ne_true,← rotates] at response
        rw [step_failed own response,rotates]
        cases left : s.demoted with
        | none =>
          cases returned : s.returned with
          | none =>
            intro secret impossible
            cases impossible
          | some secret =>
            have here := holds secret returned
            rw [left] at here
            have safe := (keeps_cases own accepted complete keeps returned).1 left
            rw [← returned]
            exact failed_current own answered returned left here safe _
        | some demoted =>
          cases returned : s.returned with
          | none =>
            intro secret impossible
            cases impossible
          | some secret =>
            have safe := (keeps_cases own accepted complete keeps returned).2 demoted left
            rw [← returned]
            exact failed_demoted own answered left holds safe
  · obtain ⟨here,behind⟩ := @rotate_other_pair provider dept_id overlap_s dept_ids s.store req own
    rw [step_other own]
    exact holds.congr here behind (le_max_left ..)

end

/-- In every state that requests reach none of which strands the secret that was returned
    last, that secret is accepted. -/
theorem returned_accepted (overlap_s : Int) (dept_ids : List DepartmentId) (provider : Provider) (dept_id : DepartmentId) (store : Store)
    (clock : Int) (requests : List Request)
    (keeps : Admitted (step overlap_s dept_ids provider dept_id) (Keeps overlap_s dept_ids provider dept_id)
      (initial provider dept_id store clock) requests) (n : Nat) :
    Accepts overlap_s provider dept_id
      ((requests.take n).foldl (step overlap_s dept_ids provider dept_id) (initial provider dept_id store clock)) :=
  Holds.accepts (admitted_always (fun _ _ holds keeps => Holds.step holds keeps) requests _ (holds_initial store clock) keeps n)

end

def sample_provider : Provider := ⟨"jira",by decide⟩

def sample_department : DepartmentId := ⟨"payments",by decide⟩

def sample_store : Store := fun path => if path = "webhooks/jira/payments" then some (fresh "held") else none

theorem midnight : 719162 * DAY + 0 * 1000000 < MAXORDINAL * DAY := by decide

/-- A rotation whose last write is refused. -/
def interrupted : Request where
  dept_id := "payments"
  provider := "jira"
  new_secret := "first"
  now := seconds 0 midnight
  reading := .answered
  previous_write := .done
  current_write := .done
  meta_write := .refused

/-- A minute later it is tried again; the vault answers so for the first two writes. -/
def retry (previous_write current_write : Outcome) : Request where
  dept_id := "payments"
  provider := "jira"
  new_secret := "second"
  now := seconds 60 (by decide)
  reading := .answered
  previous_write := previous_write
  current_write := current_write
  meta_write := .done

theorem returned_accepted_retried :
    Accepts 3600 sample_provider sample_department
      (([interrupted,retry .refused .done,retry .done .done].take 2).foldl (step 3600 [sample_department] sample_provider sample_department)
        (initial sample_provider sample_department sample_store 0)) :=
  returned_accepted 3600 [sample_department] sample_provider sample_department sample_store 0
    [interrupted,retry .refused .done,retry .done .done] (by decide) 2

/-- A retry that is refused at its second write has moved the secret of the interrupted attempt over the one in use. -/
theorem retry_strands :
    ¬∀ (overlap_s : Int) (dept_ids : List DepartmentId) (provider : Provider) (dept_id : DepartmentId) (store : Store) (clock : Int)
      (requests : List Request),
      Accepts overlap_s provider dept_id (requests.foldl (step overlap_s dept_ids provider dept_id) (initial provider dept_id store clock)) := by
  intro always
  have accepts := always 3600 [sample_department] sample_provider sample_department sample_store 0 [interrupted,retry .done .refused]
  have accepted := accepts "held" (by decide) [123,125] (seconds 120 (by decide)).1 (by decide) (by decide)
  exact absurd accepted (by decide +kernel)

end Automation.WebhookRotation
