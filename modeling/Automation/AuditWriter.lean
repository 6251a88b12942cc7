import Automation.Effects
import Mathlib.Data.Fintype.Basic

/-!
The writer of the lifecycle audit: rows go through a pool of connections, those that an
outage keeps out wait in a queue, and a drainer brings them in later. A check that finds
the pool stale replaces it, and until it has a new one the writer has none. No deferred row
is lost (`deferred_kept`) where nothing is written or checked while there is no pool, and
where every error of an outage is known as one.
-/
namespace Automation.AuditWriter
open Automation.Effects

/-- An exception: whether it is an `OSError` or a timeout of asyncio, and the name of its class. -/
structure Exception where
  os_error : Bool
  name : String
  deriving DecidableEq

def CONNECTION_ERRORS : List String :=
  ["PostgresConnectionError","ConnectionDoesNotExistError","ConnectionFailureError","CannotConnectNowError",
    "InterfaceError","ConnectionRefusedError","TimeoutError"]

def is_connection_error (exc : Exception) : Bool := exc.os_error || CONNECTION_ERRORS.contains exc.name

/-- A call of `precheck`. -/
inductive Precheck where
  | idle
  | select (pool : Nat)
  | closing
  | creating
  | select_again (pool : Nat)
  | returned
  | raised
  deriving DecidableEq

/-- It has not returned yet. -/
def Precheck.Runs : Precheck → Bool
  | .select _ | .closing | .creating | .select_again _ => true
  | _ => false

/-- A call of `write_with_retry`. -/
inductive Writer (κ : Type) where
  | idle
  | inserting (pool : Nat) (entry : κ)
  | answered (deferred : Bool)
  /-- The exception is of the database itself, or comes from an outage. -/
  | raised (outage : Bool)
  deriving DecidableEq

inductive Drainer (κ : Type) where
  | waiting
  | inserting (pool : Nat) (entry : κ)
  | sleeping
  deriving DecidableEq

/-- The writer with its calls, and the database. Pools are numbered; an outage breaks the
    connections of those that are open. -/
structure State (τ κ : Type) where
  reachable : Bool
  /-- `self._pool`. -/
  pool : Option Nat
  opened : Nat
  stale : Nat → Bool
  closed : Nat → Bool
  precheck : τ → Precheck
  /-- The database has been reachable for the whole call so far. -/
  calm : τ → Bool
  writer : τ → Writer κ
  drainer : Drainer κ
  queue : List κ
  /-- `shared.audit_log`; the id is the primary key. -/
  table : List κ
  /-- What was answered with `deferred=True`. -/
  deferred : List κ

/-- `start` has opened the first pool. -/
def State.start {τ κ : Type} : State τ κ where
  reachable := true
  pool := some 0
  opened := 1
  stale _ := false
  closed _ := false
  precheck _ := .idle
  calm _ := false
  writer _ := .idle
  drainer := .waiting
  queue := []
  table := []
  deferred := []

inductive Answer where
  | ok
  | raises (exc : Exception)
  deriving DecidableEq

/-- The answer to an `INSERT`; a row may be stored whose acknowledgement is lost. -/
inductive Outcome where
  | ok
  | raises (exc : Exception) (stored : Bool)
  deriving DecidableEq

/-- A call starts, or goes on with the answer to what it waits for. -/
inductive Action (τ κ : Type) where
  | down
  | up
  | precheck (t : τ)
  | select (t : τ) (answer : Answer)
  | close (t : τ)
  | create (t : τ) (opens : Bool)
  | write_with_retry (t : τ) (entry : κ)
  | insert (t : τ) (outcome : Outcome)
  | get
  | drained (outcome : Outcome)
  | wake

section
variable {τ κ : Type} [DecidableEq τ] [DecidableEq κ]

/-- Errors come from an outage, before or now, or from a pool that is closed: an `InterfaceError`,
    or its connections are gone. -/
def State.Fails (s : State τ κ) (pool : Nat) (exc : Exception) : Bool :=
  !s.reachable || s.stale pool || (s.closed pool && is_connection_error exc)

def State.Answers (s : State τ κ) (pool : Nat) : Answer → Bool
  | .ok => s.reachable
  | .raises exc => s.Fails pool exc

def State.putPrecheck (s : State τ κ) (t : τ) (p : Precheck) : State τ κ :=
  { s with precheck := Function.update s.precheck t p }

def State.putWriter (s : State τ κ) (t : τ) (w : Writer κ) : State τ κ := { s with writer := Function.update s.writer t w }

/-- The row, if its id is new. -/
def State.store (s : State τ κ) (entry : κ) (stored : Bool) : State τ κ :=
  { s with table := if stored ∧ entry ∉ s.table then entry :: s.table else s.table }

def State.defer (s : State τ κ) (entry : κ) : State τ κ := { s with queue := s.queue ++ [entry] }

def down (s : State τ κ) : State τ κ :=
  { s with
    reachable := false
    stale := fun pool => pool < s.opened
    calm := fun t => s.calm t && !(s.precheck t).Runs }

def up (s : State τ κ) : State τ κ := { s with reachable := true }

/-- `precheck`, up to its `SELECT 1`. -/
def precheck (s : State τ κ) (t : τ) : State τ κ :=
  if s.precheck t = .idle then
    { s.putPrecheck t (match s.pool with
        | none => .raised
        | some pool => .select pool) with
      calm := Function.update s.calm t s.reachable }
  else s

/-- `_reset_pool`, up to the closing of the pool that there is. -/
def reset_pool (s : State τ κ) (t : τ) : State τ κ :=
  match s.pool with
  | none => s.putPrecheck t .creating
  | some old_pool => { s.putPrecheck t .closing with pool := none, closed := Function.update s.closed old_pool true }

/-- The answer to a `SELECT 1`. The first one may fail because of the pool. -/
def select (s : State τ κ) (t : τ) (answer : Answer) : State τ κ :=
  match s.precheck t with
  | .select pool =>
    if s.Answers pool answer then
      match answer with
      | .ok => s.putPrecheck t .returned
      | .raises exc => if is_connection_error exc then reset_pool s t else s.putPrecheck t .raised
    else s
  | .select_again pool =>
    if s.Answers pool answer then
      match answer with
      | .ok => s.putPrecheck t .returned
      | .raises _ => s.putPrecheck t .raised
    else s
  | _ => s

/-- The old pool is closed, or its time is up. -/
def close (s : State τ κ) (t : τ) : State τ κ :=
  match s.precheck t with
  | .closing => s.putPrecheck t .creating
  | _ => s

/-- The answer of the factory. -/
def create (s : State τ κ) (t : τ) (opens : Bool) : State τ κ :=
  match s.precheck t with
  | .creating =>
    if opens = s.reachable then
      if opens then { s.putPrecheck t (.select_again s.opened) with pool := some s.opened, opened := s.opened + 1 }
      else s.putPrecheck t .raised
    else s
  | _ => s

/-- `write_with_retry`, up to the `INSERT`. -/
def write_with_retry (s : State τ κ) (t : τ) (entry : κ) : State τ κ :=
  if s.writer t = .idle then
    match s.pool with
    | none => s.putWriter t (.raised true)
    | some pool => s.putWriter t (.inserting pool entry)
  else s

def insert (s : State τ κ) (t : τ) (outcome : Outcome) : State τ κ :=
  match s.writer t,outcome with
  | .inserting _ entry,.ok =>
    if s.reachable then
      -- another row of the id is a `UniqueViolationError`
      if entry ∈ s.table then s.putWriter t (.raised false) else (s.store entry true).putWriter t (.answered false)
    else s
  | .inserting pool entry,.raises exc stored =>
    if s.Fails pool exc then
      if is_connection_error exc then
        { ((s.store entry stored).defer entry).putWriter t (.answered true) with deferred := entry :: s.deferred }
      else (s.store entry stored).putWriter t (.raised true)
    else s
  | _,_ => s

/-- The drainer takes the next entry up to its `INSERT`; without a pool it drops it. -/
def get (s : State τ κ) : State τ κ :=
  match s.drainer,s.queue with
  | .waiting,entry :: queue =>
    match s.pool with
    | none => { s with queue }
    | some pool => { s with queue, drainer := .inserting pool entry }
  | _,_ => s

def drained (s : State τ κ) (outcome : Outcome) : State τ κ :=
  match s.drainer,outcome with
  | .inserting _ entry,.ok => if s.reachable then { s.store entry true with drainer := .waiting } else s
  | .inserting pool entry,.raises exc stored =>
    if s.Fails pool exc then
      if is_connection_error exc then { (s.store entry stored).defer entry with drainer := .sleeping }
      else { s.store entry stored with drainer := .waiting }
    else s
  | _,_ => s

/-- The backoff is over. -/
def wake (s : State τ κ) : State τ κ :=
  match s.drainer with
  | .sleeping => { s with drainer := .waiting }
  | _ => s

def step (s : State τ κ) : Action τ κ → State τ κ
  | .down => down s
  | .up => up s
  | .precheck t => precheck s t
  | .select t answer => select s t answer
  | .close t => close s t
  | .create t opens => create s t opens
  | .write_with_retry t entry => write_with_retry s t entry
  | .insert t outcome => insert s t outcome
  | .get => get s
  | .drained outcome => drained s outcome
  | .wake => wake s

def Drainer.Holds (entry : κ) : Drainer κ → Prop
  | .inserting _ other => other = entry
  | _ => False

/-- No deferred row is lost, no outage makes `write_with_retry` raise, and no check fails while
    the database is reachable. -/
structure Kept (s : State τ κ) : Prop where
  deferred : ∀ entry ∈ s.deferred, s.table.count entry = 1 ∨ entry ∈ s.queue ∨ s.drainer.Holds entry
  writes : ∀ t, s.writer t ≠ .raised true
  checks : ∀ t, s.precheck t = .raised → s.calm t = false

/-- An error is known as one of the connection, or the row is stored all the same. -/
def Outcome.Known : Outcome → Prop
  | .ok => True
  | .raises exc _ => is_connection_error exc = true

def Outcome.Harmless : Outcome → Prop
  | .ok => True
  | .raises exc stored => is_connection_error exc = true ∨ stored = true

/-- The check makes its first attempt. -/
def State.attempts (s : State τ κ) (t : τ) : Bool :=
  match s.precheck t with
  | .select _ => true
  | _ => false

/-- The check makes its second attempt, and on the pool of the writer. -/
def State.attempts_again (s : State τ κ) (t : τ) : Bool :=
  match s.precheck t with
  | .select_again again => s.pool = some again
  | _ => false

/-- There is a pool where a row is written, a reachable database is checked or a row that is
    not stored yet is drained; an outage is known by its errors; and no pool is closed on which
    another check makes its second attempt. -/
def Orderly (s : State τ κ) : Action τ κ → Prop
  | .precheck _ => s.pool = none → s.reachable = false
  | .write_with_retry _ _ => s.pool ≠ none
  | .get => s.pool = none → ∀ entry ∈ s.queue.head?, entry ∈ s.table
  | .insert _ outcome => outcome.Known
  | .drained outcome => outcome.Harmless
  | .select t (.raises exc) => s.attempts t = true →
      if is_connection_error exc then ∀ other, s.attempts_again other = true → s.calm other = false else s.calm t = false
  | _ => True

instance : DecidablePred Outcome.Known
  | .ok => inferInstanceAs (Decidable True)
  | .raises exc _ => inferInstanceAs (Decidable (is_connection_error exc = true))

instance : DecidablePred Outcome.Harmless
  | .ok => inferInstanceAs (Decidable True)
  | .raises exc stored => inferInstanceAs (Decidable (is_connection_error exc = true ∨ stored = true))

instance [Fintype τ] (s : State τ κ) : DecidablePred (Orderly s)
  | .precheck _ => inferInstanceAs (Decidable (s.pool = none → s.reachable = false))
  | .write_with_retry _ _ => inferInstanceAs (Decidable (s.pool ≠ none))
  | .get => inferInstanceAs (Decidable (s.pool = none → ∀ entry ∈ s.queue.head?, entry ∈ s.table))
  | .insert _ outcome => inferInstanceAs (Decidable outcome.Known)
  | .drained outcome => inferInstanceAs (Decidable outcome.Harmless)
  | .select t (.raises exc) =>
    inferInstanceAs (Decidable (s.attempts t = true →
      if is_connection_error exc then ∀ other, s.attempts_again other = true → s.calm other = false else s.calm t = false))
  | .select _ .ok => inferInstanceAs (Decidable True)
  | .down => inferInstanceAs (Decidable True)
  | .up => inferInstanceAs (Decidable True)
  | .close _ => inferInstanceAs (Decidable True)
  | .create _ _ => inferInstanceAs (Decidable True)
  | .wake => inferInstanceAs (Decidable True)

end

/-- What holds of a state that orderly steps have led to. -/
structure Inv {τ κ : Type} [DecidableEq κ] (s : State τ κ) : Prop where
  deferred : ∀ entry ∈ s.deferred, entry ∈ s.table ∨ entry ∈ s.queue ∨ s.drainer.Holds entry
  writes : ∀ t, s.writer t ≠ .raised true
  checks : ∀ t, s.precheck t = .raised → s.calm t = false
  stored : s.table.Nodup
  pool : ∀ pool, s.pool = some pool → pool < s.opened
  fresh : ∀ pool, s.opened ≤ pool → s.stale pool = false ∧ s.closed pool = false
  calm : ∀ t, (s.precheck t).Runs = true → s.calm t = true → s.reachable = true
  again : ∀ t pool, s.precheck t = .select_again pool → s.calm t = true → s.stale pool = false ∧ s.closed pool = false

section
variable {τ κ : Type} [DecidableEq τ] [DecidableEq κ] {s : State τ κ}

omit [DecidableEq τ] in
theorem inv_start : Inv (.start : State τ κ) where
  deferred _ impossible := nomatch impossible
  writes _ impossible := nomatch impossible
  checks _ impossible := nomatch impossible
  stored := List.nodup_nil
  pool pool first := by
    cases first
    exact Nat.zero_lt_one
  fresh _ _ := ⟨rfl,rfl⟩
  calm _ impossible := nomatch impossible
  again _ _ impossible := nomatch impossible

omit [DecidableEq τ] in
theorem Inv.kept (inv : Inv s) : Kept s where
  deferred entry member := by
    rcases inv.deferred entry member with stored | waits
    · exact Or.inl (List.count_eq_one_of_mem inv.stored stored)
    · exact Or.inr waits
  writes := inv.writes
  checks := inv.checks

omit [DecidableEq τ] in
theorem mem_store {entry other : κ} {stored : Bool} :
    other ∈ (s.store entry stored).table ↔ other ∈ s.table ∨ (stored = true ∧ other = entry) := by
  unfold State.store
  by_cases new : stored = true ∧ entry ∉ s.table
  · rw [if_pos new]
    simp [new.1,or_comm]
  · rw [if_neg new]
    constructor
    · exact Or.inl
    · rintro (before | ⟨rfl,rfl⟩)
      · exact before
      · simpa using new

omit [DecidableEq τ] in
theorem store_nodup (nodup : s.table.Nodup) (entry : κ) (stored : Bool) : (s.store entry stored).table.Nodup := by
  unfold State.store
  by_cases new : stored = true ∧ entry ∉ s.table
  · rw [if_pos new]
    exact List.nodup_cons.mpr ⟨new.2,nodup⟩
  · rw [if_neg new]
    exact nodup

omit [DecidableEq τ] in
theorem Inv.store (inv : Inv s) (entry : κ) (stored : Bool) : Inv (s.store entry stored) :=
  { inv with
    deferred := fun other member => (inv.deferred other member).imp_left fun before => mem_store.mpr (Or.inl before)
    stored := store_nodup inv.stored entry stored }

theorem Inv.putPrecheck (inv : Inv s) {t : τ} {p : Precheck} (runs : p.Runs = true → (s.precheck t).Runs = true)
    (raised : p = .raised → s.calm t = false) (again : ∀ pool, p ≠ .select_again pool) : Inv (s.putPrecheck t p) := by
  refine { inv with checks := ?_, calm := ?_, again := ?_ }
  · intro u
    by_cases same : u = t
    · subst same
      simpa [State.putPrecheck] using raised
    · simpa [State.putPrecheck,same] using inv.checks u
  · intro u
    by_cases same : u = t
    · subst same
      simpa [State.putPrecheck] using fun now => inv.calm u (runs now)
    · simpa [State.putPrecheck,same] using inv.calm u
  · intro u pool
    by_cases same : u = t
    · subst same
      simpa [State.putPrecheck] using fun impossible => absurd impossible (again pool)
    · simpa [State.putPrecheck,same] using inv.again u pool

theorem Inv.putWriter (inv : Inv s) {t : τ} {w : Writer κ} (fine : w ≠ .raised true) : Inv (s.putWriter t w) := by
  refine { inv with writes := ?_ }
  intro u
  by_cases same : u = t
  · subst same
    simpa [State.putWriter] using fine
  · simpa [State.putWriter,same] using inv.writes u

omit [DecidableEq τ] in
theorem Inv.down (inv : Inv s) : Inv (down s) := by
  refine { inv with checks := ?_, fresh := ?_, calm := ?_, again := ?_ }
  · intro t raised
    simp [AuditWriter.down,inv.checks t raised]
  · intro pool new
    exact ⟨by simpa [AuditWriter.down] using new,(inv.fresh pool new).2⟩
  · intro t runs calm
    simp [AuditWriter.down] at runs calm
    rw [runs] at calm
    cases calm.2
  · intro t pool again calm
    have phase : s.precheck t = .select_again pool := again
    simp [AuditWriter.down,phase,Precheck.Runs] at calm

omit [DecidableEq τ] in
theorem Inv.up (inv : Inv s) : Inv (up s) := { inv with calm := fun _ _ _ => rfl }

theorem Inv.precheck (inv : Inv s) (t : τ) (orderly : s.pool = none → s.reachable = false) : Inv (precheck s t) := by
  unfold AuditWriter.precheck
  by_cases idle : s.precheck t = .idle
  · rw [if_pos idle]
    refine { inv with checks := ?_, calm := ?_, again := ?_ }
    · intro u
      by_cases same : u = t
      · subst same
        cases found : s.pool with
        | none => simp [State.putPrecheck,orderly found]
        | some pool => simp [State.putPrecheck]
      · simpa [State.putPrecheck,same] using inv.checks u
    · intro u
      by_cases same : u = t
      · subst same
        intro _ calm
        have reachable : s.reachable = true := by simpa using calm
        exact reachable
      · simpa [State.putPrecheck,same] using inv.calm u
    · intro u pool
      by_cases same : u = t
      · subst same
        cases found : s.pool with
        | none => simp [State.putPrecheck]
        | some pool => simp [State.putPrecheck]
      · simpa [State.putPrecheck,same] using inv.again u pool
  · rw [if_neg idle]
    exact inv

omit [DecidableEq τ] in
/-- The pool of the writer goes, and no check makes its second attempt on it. -/
theorem Inv.close_pool (inv : Inv s) {old_pool : Nat} (current : s.pool = some old_pool)
    (unused : ∀ t, s.attempts_again t = true → s.calm t = false) :
    Inv { s with pool := none, closed := Function.update s.closed old_pool true } := by
  refine { inv with pool := ?_, fresh := ?_, again := ?_ }
  · intro pool impossible
    cases impossible
  · intro pool new
    have before := inv.pool old_pool current
    have later : s.opened ≤ pool := new
    have other : pool ≠ old_pool := by omega
    simpa [other] using inv.fresh pool new
  · intro t pool again calm
    have other : pool ≠ old_pool := by
      rintro rfl
      have phase : s.precheck t = .select_again pool := again
      have idle := unused t (by simp [State.attempts_again,phase,current])
      rw [idle] at calm
      cases calm
    simpa [other] using inv.again t pool again calm

theorem Inv.reset_pool (inv : Inv s) {t : τ} {pool : Nat} (phase : s.precheck t = .select pool)
    (unused : ∀ t, s.attempts_again t = true → s.calm t = false) : Inv (reset_pool s t) := by
  have runs : (s.precheck t).Runs = true := by rw [phase]; rfl
  unfold AuditWriter.reset_pool
  split
  · exact inv.putPrecheck (fun _ => runs) (by simp) (by simp)
  · next old_pool current =>
    refine (inv.putPrecheck (t := t) (p := .closing) (fun _ => runs) (by simp) (by simp)).close_pool current ?_
    intro u
    by_cases same : u = t
    · subst same
      simp [State.attempts_again,State.putPrecheck]
    · have frame : (s.putPrecheck t .closing).attempts_again u = s.attempts_again u := by
        unfold State.attempts_again
        simp only [State.putPrecheck,Function.update_of_ne same]
        rfl
      rw [frame]
      exact unused u

theorem Inv.select (inv : Inv s) (t : τ) (answer : Answer) (orderly : Orderly s (.select t answer)) : Inv (select s t answer) := by
  unfold AuditWriter.select
  split
  · next pool phase =>
    have runs : (s.precheck t).Runs = true := by rw [phase]; rfl
    split
    · split
      · exact inv.putPrecheck (fun _ => runs) (by simp) (by simp)
      · next exc _ =>
        have condition := orderly (by simp [State.attempts,phase])
        split
        · next known =>
          rw [if_pos known] at condition
          exact inv.reset_pool phase condition
        · next unknown =>
          rw [if_neg unknown] at condition
          exact inv.putPrecheck (fun _ => runs) (fun _ => condition) (by simp)
    · exact inv
  · next pool phase =>
    have runs : (s.precheck t).Runs = true := by rw [phase]; rfl
    split
    · next answers =>
      split
      · exact inv.putPrecheck (fun _ => runs) (by simp) (by simp)
      · next exc =>
        refine inv.putPrecheck (fun _ => runs) (fun _ => ?_) (by simp)
        -- a calm check does not fail on the pool that it has opened
        cases calm : s.calm t with
        | false => rfl
        | true =>
          obtain ⟨fresh,open_⟩ := inv.again t pool phase calm
          have reachable := inv.calm t runs calm
          simp [State.Answers,State.Fails,fresh,open_,reachable] at answers
    · exact inv
  · exact inv

theorem Inv.close (inv : Inv s) (t : τ) : Inv (close s t) := by
  unfold AuditWriter.close
  split
  · next phase => exact inv.putPrecheck (fun _ => by rw [phase]; rfl) (by simp) (by simp)
  · exact inv

/-- A check has a new pool, which nothing has happened to yet. -/
theorem Inv.open_pool (inv : Inv s) {t : τ} (runs : (s.precheck t).Runs = true) :
    Inv { s.putPrecheck t (.select_again s.opened) with pool := some s.opened, opened := s.opened + 1 } := by
  refine { inv with checks := ?_, pool := ?_, fresh := ?_, calm := ?_, again := ?_ }
  · intro u
    by_cases same : u = t
    · subst same
      simp [State.putPrecheck]
    · simpa [State.putPrecheck,same] using inv.checks u
  · intro pool current
    obtain rfl := Option.some.inj current
    exact Nat.lt_succ_self _
  · intro pool new
    exact inv.fresh pool (Nat.le_of_succ_le new)
  · intro u
    by_cases same : u = t
    · subst same
      exact fun _ calm => inv.calm u runs calm
    · simpa [State.putPrecheck,same] using inv.calm u
  · intro u pool
    by_cases same : u = t
    · subst same
      rintro again -
      have first : pool = s.opened := by simpa [State.putPrecheck] using again.symm
      rw [first]
      exact inv.fresh s.opened (Nat.le_refl _)
    · simpa [State.putPrecheck,same] using inv.again u pool

theorem Inv.create (inv : Inv s) (t : τ) (opens : Bool) : Inv (create s t opens) := by
  unfold AuditWriter.create
  split
  · next phase =>
    have runs : (s.precheck t).Runs = true := by rw [phase]; rfl
    split
    · next reachable =>
      split
      · exact inv.open_pool runs
      · next fails =>
        refine inv.putPrecheck (fun _ => runs) (fun _ => ?_) (by simp)
        cases calm : s.calm t with
        | false => rfl
        | true =>
          have up := inv.calm t runs calm
          rw [← reachable] at up
          exact absurd up fails
    · exact inv
  · exact inv

theorem Inv.write_with_retry (inv : Inv s) (t : τ) (entry : κ) (orderly : s.pool ≠ none) : Inv (write_with_retry s t entry) := by
  unfold AuditWriter.write_with_retry
  split
  · split
    · next none_left => exact absurd none_left orderly
    · exact inv.putWriter (by simp)
  · exact inv

omit [DecidableEq τ] in
theorem Inv.defer (inv : Inv s) (entry : κ) : Inv (s.defer entry) := by
  refine { inv with deferred := ?_ }
  intro other member
  rcases inv.deferred other member with stored | waits | held
  · exact Or.inl stored
  · exact Or.inr (Or.inl (by simp [State.defer,waits]))
  · exact Or.inr (Or.inr held)

omit [DecidableEq τ] in
theorem Inv.answer (inv : Inv s) {entry : κ} (waits : entry ∈ s.queue) : Inv { s with deferred := entry :: s.deferred } := by
  refine { inv with deferred := ?_ }
  intro other member
  rcases List.mem_cons.mp member with rfl | before
  · exact Or.inr (Or.inl waits)
  · exact inv.deferred other before

theorem Inv.insert (inv : Inv s) (t : τ) (outcome : Outcome) (known : outcome.Known) : Inv (insert s t outcome) := by
  unfold AuditWriter.insert
  split
  · next entry _ =>
    split
    · split
      · exact inv.putWriter (by simp)
      · exact (inv.store entry true).putWriter (by simp)
    · exact inv
  · next pool entry exc stored _ =>
    split
    · split
      · have waits : entry ∈ ((s.store entry stored).defer entry).queue := by simp [State.defer]
        exact (((inv.store entry stored).defer entry).answer waits).putWriter (by simp)
      · next unknown => exact absurd known unknown
    · exact inv
  · exact inv

omit [DecidableEq τ] in
theorem Inv.get (inv : Inv s) (orderly : s.pool = none → ∀ entry ∈ s.queue.head?, entry ∈ s.table) : Inv (get s) := by
  unfold AuditWriter.get
  split
  · next entry queue free waits =>
    split
    · next none_left =>
      -- what is dropped is stored
      have stored := orderly none_left entry (by simp [waits])
      refine { inv with deferred := ?_ }
      intro other member
      rcases inv.deferred other member with before | later | held
      · exact Or.inl before
      · rw [waits] at later
        rcases List.mem_cons.mp later with rfl | later
        · exact Or.inl stored
        · exact Or.inr (Or.inl later)
      · exact Or.inr (Or.inr held)
    · refine { inv with deferred := ?_ }
      intro other member
      rcases inv.deferred other member with before | later | held
      · exact Or.inl before
      · rw [waits] at later
        rcases List.mem_cons.mp later with rfl | later
        · exact Or.inr (Or.inr rfl)
        · exact Or.inr (Or.inl later)
      · rw [free] at held
        exact held.elim
  · exact inv

omit [DecidableEq τ] in
/-- The drainer lets go of a row that is stored or waits again. -/
theorem Inv.release (inv : Inv s) {d : Drainer κ} (kept : ∀ entry, s.drainer.Holds entry → entry ∈ s.table ∨ entry ∈ s.queue) :
    Inv { s with drainer := d } := by
  refine { inv with deferred := ?_ }
  intro entry member
  rcases inv.deferred entry member with stored | waits | held
  · exact Or.inl stored
  · exact Or.inr (Or.inl waits)
  · exact (kept entry held).imp_right Or.inl

omit [DecidableEq τ] in
theorem Inv.drained (inv : Inv s) (outcome : Outcome) (harmless : outcome.Harmless) : Inv (drained s outcome) := by
  unfold AuditWriter.drained
  split
  · next pool entry holds =>
    have only : ∀ other, s.drainer.Holds other → other = entry := by
      rw [holds]
      exact fun _ same => same.symm
    split
    · refine (inv.store entry true).release fun other held => ?_
      rw [only other held]
      exact Or.inl (mem_store.mpr (Or.inr ⟨rfl,rfl⟩))
    · exact inv
  · next pool entry exc stored holds =>
    have only : ∀ other, s.drainer.Holds other → other = entry := by
      rw [holds]
      exact fun _ same => same.symm
    split
    · split
      · refine ((inv.store entry stored).defer entry).release fun other held => ?_
        rw [only other held]
        exact Or.inr (by simp [State.defer])
      · next unknown =>
        have kept : stored = true := harmless.resolve_left unknown
        refine (inv.store entry stored).release fun other held => ?_
        rw [only other held]
        exact Or.inl (mem_store.mpr (Or.inr ⟨kept,rfl⟩))
    · exact inv
  · exact inv

omit [DecidableEq τ] in
theorem Inv.wake (inv : Inv s) : Inv (wake s) := by
  unfold AuditWriter.wake
  split
  · next asleep =>
    refine inv.release ?_
    rw [asleep]
    exact fun _ held => held.elim
  · exact inv

theorem Inv.step (inv : Inv s) {action : Action τ κ} (orderly : Orderly s action) : Inv (step s action) := by
  cases action with
  | down => exact inv.down
  | up => exact inv.up
  | precheck t => exact inv.precheck t orderly
  | select t answer => exact inv.select t answer orderly
  | close t => exact inv.close t
  | create t opens => exact inv.create t opens
  | write_with_retry t entry => exact inv.write_with_retry t entry orderly
  | insert t outcome => exact inv.insert t outcome orderly
  | get => exact inv.get orderly
  | drained outcome => exact inv.drained outcome orderly
  | wake => exact inv.wake

/-- Whatever the outages, the calls and the order of their steps, no deferred row is lost, no
    outage makes a write raise, and a check succeeds while the database is reachable. -/
theorem deferred_kept (actions : List (Action τ κ)) (orderly : Admitted AuditWriter.step Orderly .start actions) (n : Nat) :
    Kept ((actions.take n).foldl AuditWriter.step .start) :=
  (admitted_always (fun _ _ inv orderly => inv.step orderly) actions _ inv_start orderly n).kept

end

def connection_lost : Exception := ⟨false,"ConnectionDoesNotExistError"⟩

/-- The outage ends before a check looks; the check opens a new pool, and the row is brought in. -/
def short_outage : List (Action Bool Nat) :=
  [.down,.write_with_retry true 1,.insert true (.raises connection_lost false),.up,.precheck true,.select true (.raises connection_lost),
    .close true,.create true true,.select true .ok,.get,.drained .ok]

theorem deferred_kept_short :
    Admitted step Orderly (.start : State Bool Nat) short_outage ∧ Kept ((short_outage.take 11).foldl step (.start : State Bool Nat)) := by
  have orderly : Admitted step Orderly (.start : State Bool Nat) short_outage := by decide
  exact ⟨orderly,deferred_kept short_outage orderly 11⟩

/-- The check looks during the outage, and finds no new pool. -/
def long_outage : List (Action Bool Nat) :=
  [.down,.write_with_retry true 1,.insert true (.raises connection_lost false),.precheck true,.select true (.raises connection_lost),
    .close true,.create true false,.up,.get]

/-- The drainer drops the row, which is stored nowhere, and the writer stays without a pool. -/
theorem long_outage_loses : ¬∀ actions : List (Action Bool Nat), Kept (actions.foldl step .start) := by
  intro always
  have kept := (always long_outage).deferred 1 (by decide)
  have lost : (long_outage.foldl step (.start : State Bool Nat)).table.count 1 = 0 ∧
      (long_outage.foldl step (.start : State Bool Nat)).queue = [] ∧
      (long_outage.foldl step (.start : State Bool Nat)).drainer = .waiting := by decide
  obtain ⟨unstored,empty,free⟩ := lost
  rw [unstored,empty,free] at kept
  rcases kept with impossible | impossible | impossible
  · cases impossible
  · cases impossible
  · exact impossible

end Automation.AuditWriter
