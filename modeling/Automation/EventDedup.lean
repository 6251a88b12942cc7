import Automation.Effects
import Automation.Json
import Mathlib.Logic.Function.Basic
import Mathlib.Data.List.Nodup

/-!
`EventDedup` of the webhook pipeline: the event id of a delivery, the two
statements of `check` on `shared.webhook_dedup`, and `cleanup_expired`. The
deliveries of a run are suspended `check` programs that share the table, so
every interleaving of their statements is a list of actions.

Two interleavings let one event pass twice: a second SELECT between a SELECT
and its INSERT, and an INSERT that meets an expired row of its event id, which
ON CONFLICT DO NOTHING leaves expired. Runs without the two keep the promise
(`at_most_one_pass`).
-/
namespace Automation.EventDedup
open Automation.Effects

structure WebhookPayload where
  headers : List (String × String)
  body : Json

def webhook_event (payload : WebhookPayload) : Option String :=
  match payload.body.get "webhookEvent" with
  | .str s => some s
  | _ => none

/-- `isinstance(val, int)` accepts the Booleans. -/
def timestamp (payload : WebhookPayload) : Json :=
  match payload.body.get "timestamp" with
  | .int n => .int n
  | .bool b => .bool b
  | _ => .null

def issue_key (payload : WebhookPayload) : Option String :=
  match (payload.body.get "issue").get "key" with
  | .str s => some s
  | _ => none

def atlassian_webhook_identifier (payload : WebhookPayload) : Option String :=
  payload.headers.lookup "x-atlassian-webhook-identifier"

section
-- `repr` is Python's `repr` of a list or a dict, `sha256` the digest of a text in hexadecimal.
variable (repr : Json → String) (sha256 : String → String)

def issue_id (payload : WebhookPayload) : Option String :=
  match (payload.body.get "issue").get "id" with
  | .null => none
  | value => some (value.pyStr repr)

def derive_event_id (payload : WebhookPayload) : String :=
  match atlassian_webhook_identifier payload with
  | some identifier => if identifier ≠ "" then identifier else digest
  | none => digest
where
  digest : String :=
    sha256 ((webhook_event payload).getD "" ++ ":" ++ ((timestamp payload).orElse (.str "")).pyStr repr ++ ":" ++
      (issue_id repr payload).getD "")

end

structure Row where
  event_id : String
  issue_key : Option String
  event_type : Option String
  received_at : Nat
  expires_at : Nat
  deriving DecidableEq

/-- `shared.webhook_dedup`, whose primary key is the event id. -/
structure Table where
  rows : List Row
  keyed : (rows.map Row.event_id).Nodup

def Table.empty : Table := ⟨[],List.nodup_nil⟩

/-- `TTL_HOURS`, in seconds. -/
def ttl : Nat := 24 * 3600

/-- `SELECT 1 … WHERE event_id = $1 AND expires_at > NOW()`. -/
def Table.live (table : Table) (now : Nat) (event_id : String) : Bool :=
  table.rows.any fun row => row.event_id == event_id && decide (now < row.expires_at)

/-- `INSERT … ON CONFLICT (event_id) DO NOTHING`. -/
def Table.insert (table : Table) (now : Nat) (event_id : String) (issue_key event_type : Option String) : Table :=
  if fresh : event_id ∈ table.rows.map Row.event_id then table
  else
    { rows := ⟨event_id,issue_key,event_type,now,now + ttl⟩ :: table.rows
      keyed := by simpa using ⟨by simpa using fresh,table.keyed⟩ }

/-- `DELETE … WHERE expires_at < $1`. -/
def Table.cleanup_expired (table : Table) (now : Nat) : Table :=
  { rows := table.rows.filter fun row => decide (now ≤ row.expires_at)
    keyed := table.keyed.sublist (List.filter_sublist.map _) }

theorem Table.live_iff (table : Table) (now : Nat) (event_id : String) :
    table.live now event_id = true ↔ ∃ row ∈ table.rows, row.event_id = event_id ∧ now < row.expires_at := by
  simp [Table.live]

theorem Table.mem_insert_of_mem {table : Table} {row : Row} (member : row ∈ table.rows) (now : Nat)
    (event_id : String) (issue_key event_type : Option String) :
    row ∈ (table.insert now event_id issue_key event_type).rows := by
  unfold Table.insert
  split
  · exact member
  · exact List.mem_cons_of_mem _ member

theorem Table.mem_insert_self {table : Table} {event_id : String}
    (absent : event_id ∉ table.rows.map Row.event_id) (now : Nat) (issue_key event_type : Option String) :
    ⟨event_id,issue_key,event_type,now,now + ttl⟩ ∈ (table.insert now event_id issue_key event_type).rows := by
  unfold Table.insert
  rw [dif_neg absent]
  exact List.mem_cons_self

inductive StageAction where
  | pass
  | drop
  deriving DecidableEq

structure StageResult where
  action : StageAction
  reason : Option String
  deriving DecidableEq

inductive Statement where
  | exists_ (event_id : String)
  | insert (event_id : String) (issue_key event_type : Option String)

/-- A statement fails where the database is not available. -/
def statements : Signature where
  Cmd := Statement
  Res
    | .exists_ _ => Except Unit Bool
    | .insert _ _ _ => Except Unit Unit

def check (repr : Json → String) (sha256 : String → String) (payload : WebhookPayload) :
    Prog statements Empty StageResult := do
  let event_id := derive_event_id repr sha256 payload
  match ← (command (S := statements) (.exists_ event_id) : Prog statements Empty (Except Unit Bool)) with
  | .error _ => return { action := .pass, reason := none }
  | .ok true => return { action := .drop, reason := some "duplicate" }
  | .ok false =>
    -- A failed INSERT is logged and the delivery still passes.
    let _ ← command (S := statements) (.insert event_id (issue_key payload) (webhook_event payload))
    return { action := .pass, reason := none }

/-- The available database: a statement is answered from the table. -/
def database (now : Nat) : Handler statements Table
  | .exists_ event_id, table => (.ok (table.live now event_id),table)
  | .insert event_id issue_key event_type, table => (.ok (),table.insert now event_id issue_key event_type)

/-- A delivery, received when its `check` reads the table. -/
structure Delivery where
  payload : WebhookPayload
  received : Nat
  thread : Prog statements Empty StageResult

def Delivery.result (d : Delivery) : Option StageResult :=
  match d.thread with
  | .ret result => some result
  | _ => none

def Delivery.Passed (d : Delivery) : Prop := d.result = some { action := .pass, reason := none }

/-- Between its SELECT and its INSERT. -/
def Delivery.Suspended (d : Delivery) : Prop := d.result = none

structure System where
  now : Nat
  table : Table
  deliveries : Nat → Option Delivery

inductive Action where
  | tick (seconds : Nat)
  | receive (k : Nat) (payload : WebhookPayload)
  | resume (k : Nat)
  | cleanup

/-- No delivery has been received yet; the table may hold rows already. -/
def System.start (now : Nat) (table : Table) : System := ⟨now,table,fun _ => none⟩

section
variable (repr : Json → String) (sha256 : String → String)

def step (s : System) : Action → System
  | .tick seconds => { s with now := s.now + seconds }
  | .receive k payload =>
    match s.deliveries k with
    | some _ => s
    | none =>
      let next := advance (database s.now) (check repr sha256 payload) s.table
      { s with table := next.2, deliveries := Function.update s.deliveries k (some ⟨payload,s.now,next.1⟩) }
  | .resume k =>
    match s.deliveries k with
    | none => s
    | some d =>
      let next := advance (database s.now) d.thread s.table
      { s with table := next.2, deliveries := Function.update s.deliveries k (some { d with thread := next.1 }) }
  | .cleanup => { s with table := s.table.cleanup_expired s.now }

def Delivery.eventId (d : Delivery) : String := derive_event_id repr sha256 d.payload

/-- Of two deliveries of one event received within one TTL of each other, at
    most one passes. -/
def AtMostOnePass (s : System) : Prop :=
  ∀ j k d e, j ≠ k → s.deliveries j = some d → s.deliveries k = some e →
    d.eventId repr sha256 = e.eventId repr sha256 →
    d.received < e.received + ttl → e.received < d.received + ttl → ¬(d.Passed ∧ e.Passed)

/-- No SELECT while another delivery of the event is between its statements, and
    no INSERT where the table holds a row of the event. -/
def Undisturbed (s : System) : Action → Prop
  | .receive _ payload => ∀ k d, s.deliveries k = some d → d.Suspended →
      d.eventId repr sha256 ≠ derive_event_id repr sha256 payload
  | .resume k => ∀ d, s.deliveries k = some d → d.Suspended →
      ∀ row ∈ s.table.rows, row.event_id ≠ d.eventId repr sha256
  | _ => True

/-- What is left of `check` once the SELECT found no live row. -/
def insertion (payload : WebhookPayload) : Prog statements Empty StageResult :=
  .call (.insert (derive_event_id repr sha256 payload) (issue_key payload) (webhook_event payload))
    fun _ => .ret { action := .pass, reason := none }

private theorem advance_check (payload : WebhookPayload) (now : Nat) (table : Table) :
    advance (database now) (check repr sha256 payload) table =
      (if table.live now (derive_event_id repr sha256 payload) then
        .ret { action := .drop, reason := some "duplicate" } else insertion repr sha256 payload,table) := by
  change (_,_) = _
  simp only [database]
  cases table.live now (derive_event_id repr sha256 payload) <;> rfl

/-- Every delivery is dropped, before its INSERT, or passed; a delivery that
    passed is remembered by a row for its TTL, and no other delivery of the
    event read the table within it. -/
structure Invariant (s : System) : Prop where
  shape : ∀ k d, s.deliveries k = some d → d.received ≤ s.now ∧
    (d.thread = insertion repr sha256 d.payload ∨ ∃ result, d.thread = .ret result)
  remembered : ∀ k d, s.deliveries k = some d → d.Passed →
    (∃ row ∈ s.table.rows, row.event_id = d.eventId repr sha256 ∧ d.received + ttl ≤ row.expires_at) ∨
      d.received + ttl ≤ s.now
  separate : ∀ j k d e, s.deliveries j = some d → s.deliveries k = some e →
    d.eventId repr sha256 = e.eventId repr sha256 → d.Passed → e.Suspended → d.received + ttl ≤ e.received
  alone : ∀ j k d e, s.deliveries j = some d → s.deliveries k = some e →
    d.eventId repr sha256 = e.eventId repr sha256 → d.Suspended → e.Suspended → j = k
  once : AtMostOnePass repr sha256 s

variable {repr sha256}

private theorem update_some {f : Nat → Option Delivery} {k j : Nat} {new d : Delivery} :
    Function.update f k (some new) j = some d ↔ (j = k ∧ new = d) ∨ (j ≠ k ∧ f j = some d) := by
  by_cases same : j = k
  · subst same; simp
  · simp [same]

private theorem insertion_suspended {d : Delivery} (waiting : d.thread = insertion repr sha256 d.payload) :
    d.Suspended := by
  simp [Delivery.Suspended,Delivery.result,waiting,insertion]

private theorem invariant_start (now : Nat) (table : Table) : Invariant repr sha256 (.start now table) := by
  constructor <;> simp [System.start,AtMostOnePass]

variable {s : System}

private theorem invariant_tick (inv : Invariant repr sha256 s) (seconds : Nat) :
    Invariant repr sha256 { s with now := s.now + seconds } where
  shape k d held := ⟨Nat.le_add_right_of_le (inv.shape k d held).1,(inv.shape k d held).2⟩
  remembered k d held passed := (inv.remembered k d held passed).imp_right Nat.le_add_right_of_le
  separate := inv.separate
  alone := inv.alone
  once := inv.once

private theorem invariant_cleanup (inv : Invariant repr sha256 s) :
    Invariant repr sha256 { s with table := s.table.cleanup_expired s.now } where
  shape := inv.shape
  remembered k d held passed := by
    rcases inv.remembered k d held passed with ⟨row,member,same,covers⟩ | past
    · by_cases kept : s.now ≤ row.expires_at
      · exact .inl ⟨row,by simp [Table.cleanup_expired,member,kept],same,covers⟩
      · exact .inr (by simp only; omega)
    · exact .inr past
  separate := inv.separate
  alone := inv.alone
  once := inv.once

private theorem passed_expired (inv : Invariant repr sha256 s) {k : Nat} {d : Delivery}
    (held : s.deliveries k = some d) (passed : d.Passed)
    (absent : s.table.live s.now (d.eventId repr sha256) = false) : d.received + ttl ≤ s.now := by
  rcases inv.remembered k d held passed with ⟨row,member,same,covers⟩ | past
  · have expired : ¬s.now < row.expires_at := fun live => by
      have found := (Table.live_iff s.table s.now _).mpr ⟨row,member,same,live⟩
      simp [absent] at found
    omega
  · exact past

private theorem invariant_update (inv : Invariant repr sha256 s) {k : Nat} {new : Delivery} {table : Table}
    (grows : ∀ row ∈ s.table.rows, row ∈ table.rows)
    (shaped : new.received ≤ s.now ∧ (new.thread = insertion repr sha256 new.payload ∨ ∃ r, new.thread = .ret r))
    (kept : new.Passed → ∃ row ∈ table.rows,
      row.event_id = new.eventId repr sha256 ∧ new.received + ttl ≤ row.expires_at)
    (waits : new.Suspended → ∀ j d, j ≠ k → s.deliveries j = some d →
      d.eventId repr sha256 = new.eventId repr sha256 → ¬d.Suspended ∧ (d.Passed → d.received + ttl ≤ new.received))
    (passes : new.Passed → ∀ j d, j ≠ k → s.deliveries j = some d →
      d.eventId repr sha256 = new.eventId repr sha256 → ¬d.Suspended ∧ (d.Passed → d.received + ttl ≤ new.received)) :
    Invariant repr sha256 { s with table := table, deliveries := Function.update s.deliveries k (some new) } := by
  constructor
  · intro j d held
    rcases update_some.mp held with ⟨-,rfl⟩ | ⟨-,old⟩
    · exact shaped
    · exact inv.shape j d old
  · intro j d held passed
    rcases update_some.mp held with ⟨-,rfl⟩ | ⟨-,old⟩
    · exact .inl (kept passed)
    · rcases inv.remembered j d old passed with ⟨row,member,found⟩ | past
      · exact .inl ⟨row,grows row member,found⟩
      · exact .inr past
  · intro i j d e heldD heldE same passed suspended
    rcases update_some.mp heldD with ⟨rfl,rfl⟩ | ⟨otherD,oldD⟩
    · rcases update_some.mp heldE with ⟨rfl,rfl⟩ | ⟨otherE,oldE⟩
      · simp [Delivery.Passed,Delivery.Suspended] at passed suspended
        simp [suspended] at passed
      · exact absurd suspended (passes passed j e otherE oldE same.symm).1
    · rcases update_some.mp heldE with ⟨rfl,rfl⟩ | ⟨otherE,oldE⟩
      · exact (waits suspended i d otherD oldD same).2 passed
      · exact inv.separate i j d e oldD oldE same passed suspended
  · intro i j d e heldD heldE same first second
    rcases update_some.mp heldD with ⟨rfl,rfl⟩ | ⟨otherD,oldD⟩
    · rcases update_some.mp heldE with ⟨rfl,rfl⟩ | ⟨otherE,oldE⟩
      · rfl
      · exact absurd second (waits first j e otherE oldE same.symm).1
    · rcases update_some.mp heldE with ⟨rfl,rfl⟩ | ⟨otherE,oldE⟩
      · exact absurd first (waits second i d otherD oldD same).1
      · exact inv.alone i j d e oldD oldE same first second
  · intro i j d e distinct heldD heldE same near far ⟨first,second⟩
    rcases update_some.mp heldD with ⟨rfl,rfl⟩ | ⟨otherD,oldD⟩
    · rcases update_some.mp heldE with ⟨rfl,rfl⟩ | ⟨otherE,oldE⟩
      · exact distinct rfl
      · have apart := (passes first j e otherE oldE same.symm).2 second
        omega
    · rcases update_some.mp heldE with ⟨rfl,rfl⟩ | ⟨otherE,oldE⟩
      · have apart := (passes second i d otherD oldD same).2 first
        omega
      · exact inv.once i j d e distinct oldD oldE same near far ⟨first,second⟩

private theorem invariant_receive (inv : Invariant repr sha256 s) {k : Nat} (payload : WebhookPayload)
    (unused : s.deliveries k = none) (quiet : Undisturbed repr sha256 s (.receive k payload)) :
    Invariant repr sha256 (step repr sha256 s (.receive k payload)) := by
  simp only [step,unused,advance_check]
  cases live : s.table.live s.now (derive_event_id repr sha256 payload) with
  | true =>
    -- A dropped delivery has finished without passing.
    refine invariant_update inv (fun _ member => member) ⟨Nat.le_refl _,.inr ⟨_,rfl⟩⟩ ?_ ?_ ?_
    · simp [Delivery.Passed,Delivery.result]
    · simp [Delivery.Suspended,Delivery.result]
    · simp [Delivery.Passed,Delivery.result]
  | false =>
    refine invariant_update inv (fun _ member => member) ⟨Nat.le_refl _,.inl rfl⟩ ?_ ?_ ?_
    · simp [Delivery.Passed,Delivery.result,insertion]
    · intro _ j d _ held same
      refine ⟨fun suspended => quiet j d held suspended same,fun passed => ?_⟩
      exact passed_expired inv held passed (same ▸ live)
    · simp [Delivery.Passed,Delivery.result,insertion]

private theorem invariant_insert (inv : Invariant repr sha256 s) {k : Nat} {d : Delivery}
    (held : s.deliveries k = some d) (waiting : d.thread = insertion repr sha256 d.payload)
    (quiet : Undisturbed repr sha256 s (.resume k)) : Invariant repr sha256 (step repr sha256 s (.resume k)) := by
  have suspended : d.Suspended := insertion_suspended waiting
  have absent : d.eventId repr sha256 ∉ s.table.rows.map Row.event_id := by
    rintro found
    obtain ⟨row,member,same⟩ := List.mem_map.mp found
    exact quiet d held suspended row member same
  have others : ∀ j e, j ≠ k → s.deliveries j = some e → e.eventId repr sha256 = d.eventId repr sha256 →
      ¬e.Suspended ∧ (e.Passed → e.received + ttl ≤ d.received) := by
    intro j e other heldE same
    refine ⟨fun waitingE => other (inv.alone j k e d heldE held same waitingE suspended),fun passed => ?_⟩
    exact inv.separate j k e d heldE held same passed suspended
  simp only [step,held,waiting,insertion,advance,database]
  refine invariant_update inv (fun row member => Table.mem_insert_of_mem member ..)
    ⟨(inv.shape k d held).1,.inr ⟨_,rfl⟩⟩ ?_ ?_ (fun _ => others)
  · intro _
    refine ⟨_,Table.mem_insert_self absent ..,rfl,?_⟩
    exact Nat.add_le_add_right (inv.shape k d held).1 ttl
  · simp [Delivery.Suspended,Delivery.result]

private theorem invariant_step (s : System) (a : Action) (inv : Invariant repr sha256 s)
    (quiet : Undisturbed repr sha256 s a) : Invariant repr sha256 (step repr sha256 s a) := by
  cases a with
  | tick seconds => exact invariant_tick inv seconds
  | cleanup => exact invariant_cleanup inv
  | receive k payload =>
    cases taken : s.deliveries k with
    | some d => simpa only [step,taken] using inv
    | none => exact invariant_receive inv payload taken quiet
  | resume k =>
    cases held : s.deliveries k with
    | none => simpa only [step,held] using inv
    | some d =>
      rcases (inv.shape k d held).2 with waiting | ⟨result,finished⟩
      · exact invariant_insert inv held waiting quiet
      · have same : Function.update s.deliveries k (some d) = s.deliveries := by
          rw [← held,Function.update_eq_self]
        have unchanged : { d with thread := .ret result } = d := by cases d; simp_all
        simpa only [step,held,finished,advance,unchanged,same] using inv

/-- Runs in which no SELECT falls between another delivery's statements and no
    INSERT meets a row of its event let every event pass at most once per TTL,
    in every state they reach. -/
theorem at_most_one_pass (now : Nat) (table : Table) (actions : List Action)
    (quiet : Admitted (step repr sha256) (Undisturbed repr sha256) (.start now table) actions) :
    AtMostOnePass repr sha256 (actions.foldl (step repr sha256) (.start now table)) :=
  (admitted_invariant (I := Invariant repr sha256) invariant_step actions _
    (invariant_start now table) quiet).once

end

/-- A delivery that carries its event id in the header. -/
def identified (identifier : String) : WebhookPayload :=
  { headers := [("x-atlassian-webhook-identifier",identifier)], body := .obj [] }

/-- A run on an empty table; the header spares the digest. -/
def runFromEmpty (actions : List Action) : System :=
  actions.foldl (step (fun _ => "") id) (.start 0 .empty)

/-- Two deliveries both read before either writes. -/
def overlapping : List Action :=
  [.receive 0 (identified "evt-1"),.receive 1 (identified "evt-1"),.resume 0,.resume 1]

/-- The row of a first delivery expires and is not cleaned up; the second and
    third delivery arrive within a minute. -/
def uncleaned : List Action :=
  [.receive 0 (identified "evt-1"),.resume 0,.tick (ttl + 60),.receive 1 (identified "evt-1"),.resume 1,
    .tick 60,.receive 2 (identified "evt-1"),.resume 2]

theorem event_passes_twice :
    ¬AtMostOnePass (fun _ => "") id (runFromEmpty overlapping) ∧
      ¬AtMostOnePass (fun _ => "") id (runFromEmpty uncleaned) := by
  constructor
  · intro once
    exact once 0 1 _ _ (by decide) rfl rfl rfl (by decide) (by decide) ⟨rfl,rfl⟩
  · intro once
    exact once 1 2 _ _ (by decide) rfl rfl rfl (by decide) (by decide) ⟨rfl,rfl⟩

/-- One delivery after the other. -/
def sequential : List Action :=
  [.receive 0 (identified "evt-1"),.resume 0,.tick 60,.receive 1 (identified "evt-1")]

theorem sequential_passes_once :
    (runFromEmpty sequential).deliveries 0 ≠ none ∧ (runFromEmpty sequential).deliveries 1 ≠ none ∧
      AtMostOnePass (fun _ => "") id (runFromEmpty sequential) := by
  refine ⟨nofun,nofun,at_most_one_pass 0 .empty sequential ⟨?_,?_,trivial,?_,trivial⟩⟩
  · intro k d held
    simp [System.start] at held
  · intro d _ _ row member
    cases member
  · intro k d held suspended
    rcases eq_or_ne k 0 with rfl | other
    · cases held
      cases suspended
    · change Function.update (Function.update (fun _ => none) 0 _) 0 _ k = some d at held
      rw [Function.update_of_ne other,Function.update_of_ne other] at held
      cases held

end Automation.EventDedup
