import Automation.Effects
import Mathlib.Data.Fintype.Basic

/-!
A provider of language models, its row in the database and its credentials in the vault.
The calls write the two in different orders and without a common transaction. A provider
that departments pin keeps its credentials (`credentials_kept`) where no delete goes past
a pin that came after its check, and where nothing fails behind a change of the vault.
-/
namespace Automation.LlmProviders
open Automation.Effects

/-! ### Rows and credentials -/

structure LLMProviderRow where
  provider_type : String
  name : String
  model : String
  context_length : Nat
  base_url : Option String
  status : String
  reasoning_effort : Option String
  verbosity : Option String
  deriving DecidableEq

/-- The payload in the vault: the keys that it has. -/
structure Credentials where
  api_key : Option String
  org_id : Option String
  deriving DecidableEq

structure ProviderCreateInput where
  provider_type : String
  name : String
  model : String
  context_length : Nat
  base_url : Option String
  api_key : Option String
  org_id : Option String
  reasoning_effort : Option String
  verbosity : Option String
  deriving DecidableEq

structure ProviderUpdate where
  name : Option String
  model : Option String
  context_length : Option Nat
  base_url : Option String
  api_key : Option String
  org_id : Option String
  status : Option String
  reasoning_effort : Option String
  verbosity : Option String
  deriving DecidableEq

def vault_payload_for_create (payload : ProviderCreateInput) : Credentials :=
  ⟨payload.api_key.filter (· ≠ ""),payload.org_id.filter (· ≠ "")⟩

/-- The row that an `INSERT` makes; it is active. -/
def insert_row (payload : ProviderCreateInput) : LLMProviderRow where
  provider_type := payload.provider_type
  name := payload.name
  model := payload.model
  context_length := payload.context_length
  base_url := payload.base_url
  status := "active"
  reasoning_effort := payload.reasoning_effort
  verbosity := payload.verbosity

/-- `COALESCE($n, column)` for each column. -/
def update_row (row : LLMProviderRow) (patch : ProviderUpdate) : LLMProviderRow where
  provider_type := row.provider_type
  name := patch.name.getD row.name
  model := patch.model.getD row.model
  context_length := patch.context_length.getD row.context_length
  base_url := patch.base_url.or row.base_url
  status := patch.status.getD row.status
  reasoning_effort := patch.reasoning_effort.or row.reasoning_effort
  verbosity := patch.verbosity.or row.verbosity

def credentials_changed (patch : ProviderUpdate) : Bool := patch.api_key.isSome || patch.org_id.isSome

/-- The patch over the payload that there is; an empty `org_id` clears it. -/
def merge (current : Credentials) (patch : ProviderUpdate) : Credentials where
  api_key := patch.api_key.or current.api_key
  org_id :=
    match patch.org_id with
    | none => current.org_id
    | some org_id => if org_id = "" then none else some org_id

/-! ### The calls -/

/-- A call and what it waits for. A row is the one that its transaction has changed. -/
inductive Call (δ : Type) where
  | idle
  | inserting (payload : ProviderCreateInput)
  | creating (payload : ProviderCreateInput)
  /-- Whether the call has changed the vault. -/
  | committing_create (payload : ProviderCreateInput) (changed : Bool)
  | updating (patch : ProviderUpdate)
  | reading (patch : ProviderUpdate) (row : Option LLMProviderRow)
  | writing (patch : ProviderUpdate) (row : Option LLMProviderRow) (merged : Credentials)
  | committing (patch : ProviderUpdate) (row : Option LLMProviderRow) (written : Option Credentials) (changed : Bool)
  | checking
  | deleting_credentials
  | deleting_row (changed : Bool)
  | pinning (dept_id : δ)
  | returned
  /-- Whether it leaves something changed. -/
  | raised (changed : Bool)
  deriving DecidableEq

/-- One provider with the calls that are about it. Its id is new, and nothing else has to do
    with its row, its path in the vault and the departments that pin it. -/
structure State (τ δ : Type) where
  row : Option LLMProviderRow
  credentials : Option Credentials
  /-- The transaction that has changed the row. -/
  lock : Option τ
  pins : δ → Bool
  call : τ → Call δ
  started : Bool
  /-- The row has been there. -/
  created : Bool
  /-- The payload of the create and of the updates that have reported success, merged in their order. -/
  expected : Credentials

def State.start {τ δ : Type} : State τ δ := ⟨none,none,none,fun _ => false,fun _ => .idle,false,false,⟨none,none⟩⟩

/-- A call to the vault or the database that raises may have had its effect. -/
inductive Answer where
  | ok
  | raises (effect : Bool)
  deriving DecidableEq

/-- A call starts, or gets the answer to what it waits for. -/
inductive Action (τ δ : Type) where
  | create (t : τ) (payload : ProviderCreateInput)
  | insert (t : τ) (ok : Bool)
  | update (t : τ) (patch : ProviderUpdate) (ok : Bool)
  | update_row (t : τ) (ok : Bool)
  | vault_read (t : τ) (ok : Bool)
  | vault_write (t : τ) (answer : Answer)
  | commit (t : τ) (answer : Answer)
  | delete (t : τ) (ok : Bool)
  | overrides_referencing (t : τ) (ok : Bool)
  | vault_delete (t : τ) (answer : Answer)
  | delete_row (t : τ) (answer : Answer)
  | set_override (t : τ) (dept_id : δ) (ok : Bool)
  | upsert (t : τ) (answer : Answer)
  /-- The department unpins its provider, or pins another. -/
  | unpin (dept_id : δ)

section
variable {τ δ : Type} [DecidableEq τ] [DecidableEq δ]

def State.put (s : State τ δ) (t : τ) (c : Call δ) : State τ δ := { s with call := Function.update s.call t c }

/-- The end of a transaction. -/
def State.release (s : State τ δ) (t : τ) : State τ δ := { s with lock := if s.lock = some t then none else s.lock }

def create (s : State τ δ) (t : τ) (payload : ProviderCreateInput) : State τ δ :=
  if s.call t = .idle ∧ s.started = false then { s.put t (.inserting payload) with started := true } else s

def insert (s : State τ δ) (t : τ) (ok : Bool) : State τ δ :=
  match s.call t with
  | .inserting payload => s.put t (if ok then .creating payload else .raised false)
  | _ => s

/-- `update`, up to its transaction. -/
def update (s : State τ δ) (t : τ) (patch : ProviderUpdate) (ok : Bool) : State τ δ :=
  if s.call t = .idle then
    if !ok then s.put t (.raised false)
    else if s.row = none then s.put t .returned
    else s.put t (.updating patch)
  else s

/-- The `UPDATE` waits for the row, and keeps it. -/
def update_locked (s : State τ δ) (t : τ) (ok : Bool) : State τ δ :=
  match s.call t with
  | .updating patch =>
    if !ok then s.put t (.raised false)
    else
      let next := fun row : Option LLMProviderRow =>
        if credentials_changed patch then Call.reading patch row else .committing patch row none false
      match s.row,s.lock with
      | none,_ => s.put t (next none)
      | some row,none => { s.put t (next (some (LlmProviders.update_row row patch))) with lock := some t }
      | some _,some _ => s
  | _ => s

/-- A path without a payload is read as an empty one. -/
def vault_read (s : State τ δ) (t : τ) (ok : Bool) : State τ δ :=
  match s.call t with
  | .reading patch row =>
    if ok then s.put t (.writing patch row (merge (s.credentials.getD ⟨none,none⟩) patch)) else (s.put t (.raised false)).release t
  | _ => s

def vault_write (s : State τ δ) (t : τ) (answer : Answer) : State τ δ :=
  match s.call t,answer with
  | .creating payload,.ok =>
    let written := some (vault_payload_for_create payload)
    { s.put t (.committing_create payload (s.credentials ≠ written)) with credentials := written }
  | .creating payload,.raises effect =>
    let written := some (vault_payload_for_create payload)
    { s.put t (.raised (effect && s.credentials ≠ written)) with credentials := if effect then written else s.credentials }
  | .writing patch row merged,.ok =>
    { s.put t (.committing patch row (some merged) (s.credentials ≠ some merged)) with credentials := some merged }
  | .writing _ _ merged,.raises effect =>
    { (s.put t (.raised (effect && s.credentials ≠ some merged))).release t with
      credentials := if effect then some merged else s.credentials }
  | _,_ => s

def commit (s : State τ δ) (t : τ) (answer : Answer) : State τ δ :=
  match s.call t,answer with
  | .committing_create payload _,.ok =>
    { s.put t .returned with row := some (insert_row payload), created := true, expected := vault_payload_for_create payload }
  | .committing_create payload changed,.raises effect =>
    { s.put t (.raised (changed || effect)) with
      row := if effect then some (insert_row payload) else s.row
      created := s.created || effect }
  | .committing patch (some row) _ _,.ok =>
    { (s.put t .returned).release t with row := some row, expected := merge s.expected patch }
  | .committing _ none _ _,.ok => s.put t .returned
  | .committing _ (some row) _ changed,.raises effect =>
    { (s.put t (.raised (changed || effect))).release t with row := if effect then some row else s.row }
  | .committing _ none _ changed,.raises _ => s.put t (.raised changed)
  | _,_ => s

/-- `delete`, up to its check of the overrides. -/
def delete (s : State τ δ) (t : τ) (ok : Bool) : State τ δ :=
  if s.call t = .idle then
    if !ok then s.put t (.raised false)
    else if s.row = none then s.put t .returned
    else s.put t .checking
  else s

def overrides_referencing [Fintype δ] (s : State τ δ) (t : τ) (ok : Bool) : State τ δ :=
  match s.call t with
  | .checking => s.put t (if ok ∧ ∀ dept_id, s.pins dept_id = false then .deleting_credentials else .raised false)
  | _ => s

def vault_delete (s : State τ δ) (t : τ) (answer : Answer) : State τ δ :=
  match s.call t,answer with
  | .deleting_credentials,.ok => { s.put t (.deleting_row s.credentials.isSome) with credentials := none }
  | .deleting_credentials,.raises effect =>
    { s.put t (.raised (effect && s.credentials.isSome)) with credentials := if effect then none else s.credentials }
  | _,_ => s

/-- The `DELETE` waits for the row; a pin restricts it. -/
def delete_row [Fintype δ] (s : State τ δ) (t : τ) (answer : Answer) : State τ δ :=
  match s.call t with
  | .deleting_row changed =>
    if s.lock ≠ none then s
    else if ¬∀ dept_id, s.pins dept_id = false then s.put t (.raised changed)
    else
      match answer with
      | .ok => { s.put t .returned with row := none }
      | .raises effect =>
        { s.put t (.raised (changed || (effect && s.row.isSome))) with row := if effect then none else s.row }
  | _ => s

/-- `set_override`, up to its upsert. -/
def set_override (s : State τ δ) (t : τ) (dept_id : δ) (ok : Bool) : State τ δ :=
  if s.call t = .idle then
    match s.row with
    | none => s.put t (.raised false)
    | some row => s.put t (if ok ∧ row.status = "active" then .pinning dept_id else .raised false)
  else s

/-- The row must be there. -/
def upsert (s : State τ δ) (t : τ) (answer : Answer) : State τ δ :=
  match s.call t with
  | .pinning dept_id =>
    let pinned := { s with pins := Function.update s.pins dept_id true }
    match s.row,answer with
    | none,_ => s.put t (.raised false)
    | some _,.ok => pinned.put t .returned
    | some _,.raises effect => (if effect then pinned else s).put t (.raised false)
  | _ => s

def step [Fintype δ] (s : State τ δ) : Action τ δ → State τ δ
  | .create t payload => create s t payload
  | .insert t ok => insert s t ok
  | .update t patch ok => update s t patch ok
  | .update_row t ok => update_locked s t ok
  | .vault_read t ok => vault_read s t ok
  | .vault_write t answer => vault_write s t answer
  | .commit t answer => commit s t answer
  | .delete t ok => delete s t ok
  | .overrides_referencing t ok => overrides_referencing s t ok
  | .vault_delete t answer => vault_delete s t answer
  | .delete_row t answer => delete_row s t answer
  | .set_override t dept_id ok => set_override s t dept_id ok
  | .upsert t answer => upsert s t answer
  | .unpin dept_id => { s with pins := Function.update s.pins dept_id false }

/-! ### What is kept -/

/-- What an update that is about to commit has put into the vault for the transactions that
    have reported success and itself. -/
def State.Ahead (s : State τ δ) : Prop :=
  ∃ t patch row merged changed, s.call t = .committing patch (some row) (some merged) changed ∧
    merged = merge s.expected patch ∧ s.credentials = some merged

/-- A pinned provider has its credentials, up to an update that is about to commit, and a call
    that raises has left the row and the credentials as they were. -/
structure Kept (s : State τ δ) : Prop where
  pinned : ∀ dept_id, s.pins dept_id = true → s.credentials = some s.expected ∨ s.Ahead
  raised : ∀ t, s.call t ≠ .raised true

/-- What the call is about to write to the vault. -/
def State.written (s : State τ δ) (t : τ) : Option Credentials :=
  match s.call t with
  | .creating payload => some (vault_payload_for_create payload)
  | .writing _ _ merged => some merged
  | _ => none

/-- A commit that fails would leave a change of the call behind. -/
def Call.leaves (effect : Bool) : Call δ → Bool
  | .committing_create _ changed => changed || effect
  | .committing _ row _ changed => changed || (effect && row.isSome)
  | _ => false

/-- A delete that has removed credentials, and has to remove the row. -/
def Call.Kills : Call δ → Bool
  | .deleting_row changed => changed
  | _ => false

/-- What fails has no effect, and nothing fails behind a change of the vault; a delete comes to
    the vault with the provider still unpinned, and no department pins it from there on. -/
def Orderly (s : State τ δ) : Action τ δ → Prop
  | .vault_write t (.raises effect) => effect = true → s.written t = none ∨ s.credentials = s.written t
  | .commit t (.raises effect) => (s.call t).leaves effect = false
  | .vault_delete t .ok => s.call t = .deleting_credentials → s.credentials ≠ none → ∀ dept_id, s.pins dept_id = false
  | .vault_delete t (.raises effect) => s.call t = .deleting_credentials → effect = true → s.credentials = none
  | .delete_row t (.raises effect) => (s.call t).Kills = false ∧ (effect = true → s.row = none)
  | .upsert _ answer => answer ≠ .raises false → s.row ≠ none → ∀ t, (s.call t).Kills = false
  | _ => True

instance [Fintype τ] [Fintype δ] (s : State τ δ) : DecidablePred (Orderly s)
  | .vault_write t (.raises effect) =>
    inferInstanceAs (Decidable (effect = true → s.written t = none ∨ s.credentials = s.written t))
  | .commit t (.raises effect) => inferInstanceAs (Decidable ((s.call t).leaves effect = false))
  | .vault_delete t .ok =>
    inferInstanceAs (Decidable (s.call t = .deleting_credentials → s.credentials ≠ none → ∀ dept_id, s.pins dept_id = false))
  | .vault_delete t (.raises effect) =>
    inferInstanceAs (Decidable (s.call t = .deleting_credentials → effect = true → s.credentials = none))
  | .delete_row t (.raises effect) =>
    inferInstanceAs (Decidable ((s.call t).Kills = false ∧ (effect = true → s.row = none)))
  | .upsert _ answer => inferInstanceAs (Decidable (answer ≠ .raises false → s.row ≠ none → ∀ t, (s.call t).Kills = false))
  | .create _ _ => inferInstanceAs (Decidable True)
  | .insert _ _ => inferInstanceAs (Decidable True)
  | .update _ _ _ => inferInstanceAs (Decidable True)
  | .update_row _ _ => inferInstanceAs (Decidable True)
  | .vault_read _ _ => inferInstanceAs (Decidable True)
  | .vault_write _ .ok => inferInstanceAs (Decidable True)
  | .commit _ .ok => inferInstanceAs (Decidable True)
  | .delete _ _ => inferInstanceAs (Decidable True)
  | .overrides_referencing _ _ => inferInstanceAs (Decidable True)
  | .delete_row _ .ok => inferInstanceAs (Decidable True)
  | .set_override _ _ _ => inferInstanceAs (Decidable True)
  | .unpin _ => inferInstanceAs (Decidable True)

end

/-! ### A step -/

def Call.Creates {δ : Type} : Call δ → Bool
  | .inserting _ | .creating _ | .committing_create _ _ => true
  | _ => false

/-- The call has seen the row. -/
def Call.Touches {δ : Type} : Call δ → Bool
  | .updating _ | .reading _ _ | .writing _ _ _ | .committing _ _ _ _ => true
  | .checking | .deleting_credentials | .deleting_row _ => true
  | _ => false

/-- Its transaction has changed the row. -/
def Call.Locks {δ : Type} : Call δ → Bool
  | .reading _ row | .writing _ row _ | .committing _ row _ _ => row.isSome
  | _ => false

/-- Its transaction has found no row. -/
def Call.Rowless {δ : Type} : Call δ → Bool
  | .reading _ row | .writing _ row _ | .committing _ row _ _ => row.isNone
  | _ => false

/-- What a transaction that holds the row knows of the credentials. -/
def Call.Agrees {δ : Type} (credentials : Option Credentials) (expected : Credentials) : Call δ → Prop
  | .reading _ (some _) => credentials = some expected
  | .writing patch (some _) merged => credentials = some expected ∧ merged = merge expected patch
  | .committing patch (some _) none _ => credentials = some expected ∧ credentials_changed patch = false
  | .committing patch (some _) (some merged) changed =>
    merged = merge expected patch ∧ credentials = some merged ∧ (changed = false → credentials = some expected)
  | .committing_create payload _ => credentials = some (vault_payload_for_create payload)
  | _ => True

/-- A call is one that the state allows. -/
structure Fits {τ δ : Type} (s : State τ δ) (t : τ) (c : Call δ) : Prop where
  unraised : c ≠ .raised true
  creates : c.Creates = true → s.started = true ∧ s.created = false
  touches : c.Touches = true → s.created = true
  rowless : c.Rowless = true → s.row = none
  locks : c.Locks = true ↔ s.lock = some t
  agrees : (∀ u, (s.call u).Kills = false) → c.Agrees s.credentials s.expected

/-- What holds of a state that orderly steps have led to. -/
structure Inv {τ δ : Type} (s : State τ δ) : Prop where
  calls : ∀ t, Fits s t (s.call t)
  creator : ∀ t u, (s.call t).Creates = true → (s.call u).Creates = true → t = u
  started : s.created = true → s.started = true
  row : s.row ≠ none → s.created = true
  lock : s.lock ≠ none → s.row ≠ none
  pinned : ∀ dept_id, s.pins dept_id = true → s.row ≠ none ∧ ∀ t, (s.call t).Kills = false
  kept : s.row ≠ none → s.lock = none → (∀ t, (s.call t).Kills = false) → s.credentials = some s.expected

theorem merge_unchanged {current : Credentials} {patch : ProviderUpdate} (unchanged : credentials_changed patch = false) :
    merge current patch = current := by
  obtain ⟨key,org⟩ : patch.api_key = none ∧ patch.org_id = none := by simpa [credentials_changed] using unchanged
  simp [merge,key,org]

theorem agrees_of_plain {δ : Type} {c : Call δ} {credentials : Option Credentials} {expected : Credentials}
    (unlocked : c.Locks = false) (other : c.Creates = false) : c.Agrees credentials expected := by
  cases c with
  | reading patch row | writing patch row merged | committing patch row written changed =>
    cases row with
    | none => trivial
    | some _ => cases unlocked
  | committing_create payload changed => cases other
  | _ => trivial

theorem write_undone {effect : Bool} {credentials written : Option Credentials} (undone : effect = true → credentials = written) :
    (if effect then written else credentials) = credentials ∧ (effect && decide (credentials ≠ written)) = false := by
  cases effect with
  | false => exact ⟨rfl,rfl⟩
  | true =>
    obtain rfl := undone rfl
    simp

theorem touches_of_locks {δ : Type} {c : Call δ} (locks : c.Locks = true) : c.Touches = true := by
  cases c <;> first | rfl | cases locks

theorem touches_of_rowless {δ : Type} {c : Call δ} (rowless : c.Rowless = true) : c.Touches = true := by
  cases c <;> first | rfl | cases rowless

theorem touches_of_kills {δ : Type} {c : Call δ} (kills : c.Kills = true) : c.Touches = true := by
  cases c <;> first | rfl | cases kills

section
variable {τ δ : Type} {s : State τ δ}

theorem inv_start : Inv (.start : State τ δ) where
  calls t := ⟨nofun,nofun,nofun,nofun,by simp [State.start,Call.Locks],fun _ => trivial⟩
  creator _ _ impossible := nomatch impossible
  started impossible := nomatch impossible
  row impossible := absurd rfl impossible
  lock impossible := absurd rfl impossible
  pinned _ impossible := nomatch impossible
  kept impossible := absurd rfl impossible

theorem Inv.ahead_or (inv : Inv s) (row : s.row ≠ none) (alive : ∀ t, (s.call t).Kills = false) :
    s.credentials = some s.expected ∨ s.Ahead := by
  cases held : s.lock with
  | none => exact Or.inl (inv.kept row held alive)
  | some t =>
    have fits := inv.calls t
    have locks := fits.locks.mpr held
    have agrees := fits.agrees alive
    cases phase : s.call t with
    | reading patch changed =>
      rw [phase] at locks agrees
      cases changed with
      | none => cases locks
      | some _ => exact Or.inl agrees
    | writing patch changed merged =>
      rw [phase] at locks agrees
      cases changed with
      | none => cases locks
      | some _ => exact Or.inl agrees.1
    | committing patch changed written dirty =>
      rw [phase] at locks agrees
      cases changed with
      | none => cases locks
      | some row =>
        cases written with
        | none => exact Or.inl agrees.1
        | some merged => exact Or.inr ⟨t,patch,row,merged,dirty,phase,agrees.1,agrees.2.1⟩
    | _ =>
      rw [phase] at locks
      cases locks

end

section
variable {τ δ : Type} [DecidableEq τ] {s : State τ δ} {t : τ} {c : Call δ}

theorem put_kills (kills : c.Kills = (s.call t).Kills) (u : τ) : ((s.put t c).call u).Kills = (s.call u).Kills := by
  by_cases same : u = t
  · subst same
    simpa [State.put] using kills
  · simp [State.put,same]

theorem put_alive (kills : c.Kills = (s.call t).Kills) (alive : ∀ u, ((s.put t c).call u).Kills = false) :
    ∀ u, (s.call u).Kills = false := by
  intro u
  rw [← put_kills kills]
  exact alive u

theorem put_creator (inv : Inv s) (creates : c.Creates = true → ∀ u, (s.call u).Creates = true → u = t) :
    ∀ u v, ((s.put t c).call u).Creates = true → ((s.put t c).call v).Creates = true → u = v := by
  intro u v
  by_cases first : u = t
  · by_cases second : v = t
    · rw [first,second]
      exact fun _ _ => rfl
    · subst first
      simpa [State.put,second] using fun mine theirs => (creates mine v theirs).symm
  · by_cases second : v = t
    · subst second
      simpa [State.put,first] using fun theirs mine => creates mine u theirs
    · simpa [State.put,first,second] using inv.creator u v

theorem put_fits {s' : State τ δ} (mine : Fits s' t c) (others : ∀ u, u ≠ t → Fits s' u (s.call u)) :
    ∀ u, Fits s' u ((s.put t c).call u) := by
  intro u
  by_cases same : u = t
  · subst same
    simpa [State.put] using mine
  · simpa [State.put,same] using others u same

omit [DecidableEq τ] in
theorem Fits.unheld {d : Call δ} (fits : Fits s t d) (unlocked : d.Locks = false) : s.lock ≠ some t := by
  intro held
  rw [fits.locks.mpr held] at unlocked
  cases unlocked

omit [DecidableEq τ] in
/-- A call without a part in the row and the credentials fits where the one before had none. -/
theorem Inv.plain (inv : Inv s) (unlocked : (s.call t).Locks = false) (unraised : c ≠ .raised true) (creates : c.Creates = false)
    (touches : c.Touches = true → s.created = true) (rowless : c.Rowless = false) (locks : c.Locks = false) : Fits s t c where
  unraised := unraised
  creates impossible := by
    rw [creates] at impossible
    cases impossible
  touches := touches
  rowless impossible := by
    rw [rowless] at impossible
    cases impossible
  locks := by
    rw [locks,← (inv.calls t).locks,unlocked]
  agrees _ := agrees_of_plain locks creates

variable {credentials : Option Credentials}

theorem Inv.change (inv : Inv s) (fits : Fits { s with credentials } t c)
    (creates : c.Creates = true → ∀ u, (s.call u).Creates = true → u = t) (kills : c.Kills = (s.call t).Kills)
    (others : ∀ u, u ≠ t → (∀ v, (s.call v).Kills = false) → (s.call u).Agrees credentials s.expected)
    (kept : s.row ≠ none → s.lock = none → (∀ u, (s.call u).Kills = false) → credentials = some s.expected) :
    Inv { s.put t c with credentials } := by
  refine { inv with calls := put_fits ?_ ?_, creator := put_creator inv creates, pinned := ?_, kept := ?_ }
  · exact { fits with agrees := fun alive => fits.agrees (put_alive kills alive) }
  · intro u other
    exact { inv.calls u with agrees := fun alive => others u other (put_alive kills alive) }
  · intro dept_id pinned
    obtain ⟨row,alive⟩ := inv.pinned dept_id pinned
    refine ⟨row,fun u => ?_⟩
    show ((s.put t c).call u).Kills = false
    rw [put_kills kills]
    exact alive u
  · intro row free alive
    exact kept row free (put_alive kills alive)

theorem Inv.put (inv : Inv s) (fits : Fits s t c) (creates : c.Creates = true → ∀ u, (s.call u).Creates = true → u = t)
    (kills : c.Kills = (s.call t).Kills) : Inv (s.put t c) :=
  inv.change fits creates kills (fun u _ => (inv.calls u).agrees) inv.kept

theorem Inv.quiet {d : Call δ} (inv : Inv s) (phase : s.call t = d) (unlocked : d.Locks = false) (harmless : d.Kills = false)
    (unraised : c ≠ .raised true) (creates : c.Creates = false) (touches : c.Touches = true → s.created = true)
    (rowless : c.Rowless = false) (locks : c.Locks = false) (kills : c.Kills = false) : Inv (s.put t c) := by
  subst phase
  refine inv.put (inv.plain unlocked unraised creates touches rowless locks) ?_ (kills.trans harmless.symm)
  rw [creates]
  exact nofun

theorem Inv.leave {d : Call δ} (inv : Inv s) (phase : s.call t = d) (unlocked : d.Locks = false) (harmless : d.Kills = false)
    (ends : c = .returned ∨ c = .raised false) : Inv (s.put t c) := by
  rcases ends with rfl | rfl
  · exact inv.quiet phase unlocked harmless nofun rfl nofun rfl rfl rfl
  · exact inv.quiet phase unlocked harmless nofun rfl nofun rfl rfl rfl

omit [DecidableEq τ] in
theorem Inv.fits {d : Call δ} (inv : Inv s) (phase : s.call t = d) : Fits s t d := phase ▸ inv.calls t

/-- A call that writes to the vault: it holds the row, or there is none. -/
def Call.Writes : Call δ → Bool := fun c => c.Locks || c.Creates || c.Rowless

omit [DecidableEq τ] in
theorem Inv.others (inv : Inv s) (writes : (s.call t).Writes = true) {u : τ} (other : u ≠ t) :
    (s.call u).Locks = false ∧ (s.call u).Creates = false := by
  have fits := inv.calls t
  have theirs := inv.calls u
  have choices : ((s.call t).Locks = true ∨ (s.call t).Creates = true) ∨ (s.call t).Rowless = true := by
    simpa [Call.Writes] using writes
  constructor
  · by_contra held
    have locks : (s.call u).Locks = true := by simpa using held
    have lock := theirs.locks.mp locks
    rcases choices with (mine | creates) | rowless
    · have same := fits.locks.mp mine
      rw [lock] at same
      exact other (Option.some.inj same)
    · have created := theirs.touches (touches_of_locks locks)
      rw [(fits.creates creates).2] at created
      cases created
    · exact inv.lock (by rw [lock]; nofun) (fits.rowless rowless)
  · by_contra made
    have creates : (s.call u).Creates = true := by simpa using made
    have fresh := (theirs.creates creates).2
    rcases choices with (mine | same) | rowless
    · rw [fits.touches (touches_of_locks mine)] at fresh
      cases fresh
    · exact other (inv.creator u t creates same)
    · rw [fits.touches (touches_of_rowless rowless)] at fresh
      cases fresh

omit [DecidableEq τ] in
theorem Inv.unlocked_none (inv : Inv s) (writes : (s.call t).Writes = true) (free : s.lock = none) : s.row = none := by
  have fits := inv.calls t
  have choices : ((s.call t).Locks = true ∨ (s.call t).Creates = true) ∨ (s.call t).Rowless = true := by
    simpa [Call.Writes] using writes
  rcases choices with (locks | creates) | rowless
  · have lock := fits.locks.mp locks
    rw [free] at lock
    cases lock
  · by_contra row
    have created := inv.row row
    rw [(fits.creates creates).2] at created
    cases created
  · exact fits.rowless rowless

theorem Inv.write (inv : Inv s) (writes : (s.call t).Writes = true)
    (fits : Fits { s with credentials } t c) (creates : c.Creates = true → (s.call t).Creates = true)
    (kills : c.Kills = (s.call t).Kills) : Inv { s.put t c with credentials } := by
  refine inv.change fits (fun mine u theirs => inv.creator u t theirs (creates mine)) kills ?_ ?_
  · intro u other _
    obtain ⟨unlocked,unmade⟩ := inv.others writes other
    exact agrees_of_plain unlocked unmade
  · intro row free
    exact absurd (inv.unlocked_none writes free) row

theorem Inv.release (inv : Inv s) {row : Option LLMProviderRow} {expected : Credentials}
    (locks : (s.call t).Locks = true) (ends : c = .returned ∨ c = .raised false) (there : row ≠ none)
    (kept : (∀ u, (s.call u).Kills = false) → credentials = some expected) :
    Inv { (s.put t c).release t with row, credentials, expected } := by
  have lock := (inv.calls t).locks.mp locks
  have created := (inv.calls t).touches (touches_of_locks locks)
  have writes : (s.call t).Writes = true := by simp [Call.Writes,locks]
  have harmless : (s.call t).Kills = false := by
    cases phase : s.call t <;> first | rfl | (rw [phase] at locks; cases locks)
  have none_kills : c.Kills = (s.call t).Kills := by rcases ends with rfl | rfl <;> exact harmless.symm
  have free : ((s.put t c).release t).lock = none := by simp [State.put,State.release,lock]
  have unheld : ((s.put t c).release t).lock ≠ some t := by rw [free]; nofun
  have unmade : c.Creates = true → ∀ u, (s.call u).Creates = true → u = t := by rcases ends with rfl | rfl <;> nofun
  refine { inv with calls := put_fits ?_ ?_, creator := put_creator inv unmade, row := ?_, lock := ?_, pinned := ?_, kept := ?_ }
  · rcases ends with rfl | rfl
    · exact ⟨nofun,nofun,nofun,nofun,⟨nofun,fun held => absurd held unheld⟩,fun _ => trivial⟩
    · exact ⟨nofun,nofun,nofun,nofun,⟨nofun,fun held => absurd held unheld⟩,fun _ => trivial⟩
  · intro u other
    obtain ⟨unlocked,uncreated⟩ := inv.others writes other
    have fits := inv.calls u
    refine { fits with rowless := ?_, locks := ?_, agrees := fun _ => agrees_of_plain unlocked uncreated }
    · intro rowless
      exact absurd (fits.rowless rowless) (inv.lock (by rw [lock]; nofun))
    · show (s.call u).Locks = true ↔ ((s.put t c).release t).lock = some u
      rw [unlocked,free]
      exact ⟨nofun,nofun⟩
  · exact fun _ => created
  · exact fun held => absurd free held
  · intro dept_id pinned
    obtain ⟨_,alive⟩ := inv.pinned dept_id pinned
    refine ⟨there,fun u => ?_⟩
    show ((s.put t c).call u).Kills = false
    rw [put_kills none_kills]
    exact alive u
  · exact fun _ _ alive => kept (put_alive none_kills alive)

end

section
variable {τ δ : Type} [DecidableEq τ] [DecidableEq δ] {s : State τ δ} {t : τ} {c : Call δ}

theorem Inv.create (inv : Inv s) (payload : ProviderCreateInput) : Inv (create s t payload) := by
  unfold LlmProviders.create
  split
  · next new =>
    obtain ⟨idle,unstarted⟩ := new
    have unmade : ∀ u, (s.call u).Creates = false := by
      intro u
      by_contra made
      have started := ((inv.calls u).creates (by simpa using made)).1
      rw [unstarted] at started
      cases started
    have fresh : s.created = false := by
      by_contra created
      rw [inv.started (by simpa using created)] at unstarted
      cases unstarted
    have unlocked : s.lock ≠ some t := (inv.calls t).unheld (by rw [idle]; rfl)
    have now : Inv { s with started := true } :=
      { inv with
        calls := fun u => { inv.calls u with creates := fun creates => ⟨rfl,((inv.calls u).creates creates).2⟩ }
        started := fun _ => rfl }
    refine now.put (t := t) (c := .inserting payload) ?_ ?_ (by rw [idle]; rfl)
    · exact ⟨nofun,fun _ => ⟨rfl,fresh⟩,nofun,nofun,⟨nofun,fun held => absurd held unlocked⟩,fun _ => trivial⟩
    · intro _ u theirs
      rw [unmade u] at theirs
      cases theirs
  · exact inv

omit [DecidableEq δ] in
theorem Inv.insert (inv : Inv s) (ok : Bool) : Inv (insert s t ok) := by
  unfold LlmProviders.insert
  split
  · next payload phase =>
    cases ok with
    | false => exact inv.leave phase rfl rfl (Or.inr rfl)
    | true =>
      have fits := inv.fits phase
      refine inv.put ⟨nofun,fits.creates,nofun,nofun,fits.locks,fun _ => trivial⟩ ?_ (by rw [phase]; rfl)
      exact fun _ u theirs => inv.creator u t theirs (by rw [phase]; rfl)
  · exact inv

theorem Inv.update (inv : Inv s) (patch : ProviderUpdate) (ok : Bool) : Inv (update s t patch ok) := by
  unfold LlmProviders.update
  split
  · next idle =>
    split
    · exact inv.leave idle rfl rfl (Or.inr rfl)
    · split
      · exact inv.leave idle rfl rfl (Or.inl rfl)
      · next row => exact inv.quiet idle rfl rfl nofun rfl (fun _ => inv.row row) rfl rfl rfl
  · exact inv

theorem Inv.delete (inv : Inv s) (ok : Bool) : Inv (delete s t ok) := by
  unfold LlmProviders.delete
  split
  · next idle =>
    split
    · exact inv.leave idle rfl rfl (Or.inr rfl)
    · split
      · exact inv.leave idle rfl rfl (Or.inl rfl)
      · next row => exact inv.quiet idle rfl rfl nofun rfl (fun _ => inv.row row) rfl rfl rfl
  · exact inv

omit [DecidableEq δ] in
theorem Inv.overrides_referencing [Fintype δ] (inv : Inv s) (ok : Bool) : Inv (overrides_referencing s t ok) := by
  unfold LlmProviders.overrides_referencing
  split
  · next phase =>
    have created := (inv.calls t).touches (by rw [phase]; rfl)
    split
    · exact inv.quiet phase rfl rfl nofun rfl (fun _ => created) rfl rfl rfl
    · exact inv.leave phase rfl rfl (Or.inr rfl)
  · exact inv

theorem Inv.set_override (inv : Inv s) (dept_id : δ) (ok : Bool) : Inv (set_override s t dept_id ok) := by
  unfold LlmProviders.set_override
  split
  · next idle =>
    split
    · exact inv.leave idle rfl rfl (Or.inr rfl)
    · split
      · exact inv.quiet idle rfl rfl nofun rfl nofun rfl rfl rfl
      · exact inv.leave idle rfl rfl (Or.inr rfl)
  · exact inv

omit [DecidableEq δ] in
theorem Inv.acquire (inv : Inv s) {patch : ProviderUpdate} {row : LLMProviderRow} (phase : s.call t = .updating patch)
    (there : s.row ≠ none) (free : s.lock = none)
    (next : c = .reading patch (some row) ∨ c = .committing patch (some row) none false ∧ credentials_changed patch = false) :
    Inv { s.put t c with lock := some t } := by
  have created := (inv.calls t).touches (by rw [phase]; rfl)
  have kills : c.Kills = (s.call t).Kills := by
    rw [phase]
    rcases next with rfl | ⟨rfl,_⟩ <;> rfl
  have unmade : c.Creates = true → ∀ u, (s.call u).Creates = true → u = t := by rcases next with rfl | ⟨rfl,_⟩ <;> nofun
  have before : (∀ u, ((s.put t c).call u).Kills = false) → s.credentials = some s.expected := fun alive =>
    inv.kept there free (put_alive kills alive)
  refine { inv with calls := put_fits ?_ ?_, creator := put_creator inv unmade, lock := ?_, pinned := ?_, kept := ?_ }
  · rcases next with rfl | ⟨rfl,unchanged⟩
    · exact ⟨nofun,nofun,fun _ => created,nofun,⟨fun _ => rfl,fun _ => rfl⟩,before⟩
    · exact ⟨nofun,nofun,fun _ => created,nofun,⟨fun _ => rfl,fun _ => rfl⟩,fun alive => ⟨before alive,unchanged⟩⟩
  · intro u other
    have fits := inv.calls u
    have unlocked : (s.call u).Locks = false := by
      by_contra held
      have locks := fits.locks.mp (by simpa using held)
      rw [free] at locks
      cases locks
    refine { fits with locks := ?_, agrees := fun alive => fits.agrees (put_alive kills alive) }
    rw [unlocked]
    exact ⟨nofun,fun mine => absurd (Option.some.inj mine).symm other⟩
  · exact fun _ => there
  · intro dept_id pinned
    obtain ⟨_,alive⟩ := inv.pinned dept_id pinned
    refine ⟨there,fun u => ?_⟩
    show ((s.put t c).call u).Kills = false
    rw [put_kills kills]
    exact alive u
  · exact fun _ impossible => nomatch impossible

omit [DecidableEq δ] in
theorem Inv.update_locked (inv : Inv s) (ok : Bool) : Inv (update_locked s t ok) := by
  unfold LlmProviders.update_locked
  split
  · next patch phase =>
    have created := (inv.calls t).touches (by rw [phase]; rfl)
    split
    · exact inv.leave phase rfl rfl (Or.inr rfl)
    · dsimp only
      split
      · next gone =>
        have held := (inv.fits phase).unheld rfl
        have harmless : (s.call t).Kills = false := by rw [phase]; rfl
        split
        · exact inv.put ⟨nofun,nofun,fun _ => created,fun _ => gone,⟨nofun,fun lock => absurd lock held⟩,fun _ => trivial⟩ nofun harmless.symm
        · exact inv.put ⟨nofun,nofun,fun _ => created,fun _ => gone,⟨nofun,fun lock => absurd lock held⟩,fun _ => trivial⟩ nofun harmless.symm
      · next row there free =>
        split
        · exact inv.acquire phase (by rw [there]; nofun) free (Or.inl rfl)
        · next unchanged => exact inv.acquire phase (by rw [there]; nofun) free (Or.inr ⟨rfl,by simpa using unchanged⟩)
      · exact inv
  · exact inv

omit [DecidableEq δ] in
theorem Inv.vault_read (inv : Inv s) (ok : Bool) : Inv (vault_read s t ok) := by
  unfold LlmProviders.vault_read
  split
  · next patch row phase =>
    have fits := inv.fits phase
    have harmless : (s.call t).Kills = false := by rw [phase]; rfl
    cases row with
    | none =>
      split
      · exact inv.put ⟨nofun,nofun,fits.touches,fits.rowless,fits.locks,fun _ => trivial⟩ nofun harmless.symm
      · have unheld := fits.unheld rfl
        have frame : ((s.put t (.raised false)).release t) = s.put t (.raised false) := by
          simp [State.put,State.release,unheld]
        rw [frame]
        exact inv.leave phase rfl rfl (Or.inr rfl)
    | some row =>
      split
      · refine inv.put ⟨nofun,nofun,fits.touches,nofun,fits.locks,fun alive => ?_⟩ nofun harmless.symm
        have agrees : s.credentials = some s.expected := fits.agrees alive
        rw [agrees]
        exact ⟨rfl,rfl⟩
      · have held := fits.locks.mp rfl
        exact inv.release (by rw [phase]; rfl) (Or.inr rfl) (inv.lock (by rw [held]; nofun)) fits.agrees
  · exact inv

omit [DecidableEq δ] in
theorem Inv.vault_write (inv : Inv s) (answer : Answer) (orderly : Orderly s (.vault_write t answer)) : Inv (vault_write s t answer) := by
  unfold LlmProviders.vault_write
  split
  · next payload phase =>
    have fits := inv.fits phase
    refine inv.write (by rw [phase]; rfl) ⟨nofun,fits.creates,nofun,nofun,fits.locks,fun _ => rfl⟩ (fun _ => by rw [phase]; rfl) ?_
    rw [phase]
    rfl
  · next payload effect phase =>
    have undone : effect = true → s.credentials = some (vault_payload_for_create payload) := by
      intro done
      simpa [State.written,phase] using orderly done
    obtain ⟨same,clean⟩ := write_undone undone
    dsimp only
    rw [same,clean]
    exact inv.leave phase rfl rfl (Or.inr rfl)
  · next patch row merged phase =>
    have fits := inv.fits phase
    refine inv.write (by rw [phase]; cases row <;> rfl) ?_ nofun (by rw [phase]; rfl)
    cases row with
    | none => exact ⟨nofun,nofun,fits.touches,fits.rowless,fits.locks,fun _ => trivial⟩
    | some row =>
      refine ⟨nofun,nofun,fits.touches,nofun,fits.locks,fun alive => ?_⟩
      obtain ⟨agrees,merges⟩ := fits.agrees alive
      refine ⟨merges,rfl,fun unchanged => ?_⟩
      have same : s.credentials = some merged := by simpa using unchanged
      rw [← same]
      exact agrees
  · next patch row merged effect phase =>
    have undone : effect = true → s.credentials = some merged := by
      intro done
      simpa [State.written,phase] using orderly done
    obtain ⟨same,clean⟩ := write_undone undone
    rw [same,clean]
    have fits := inv.fits phase
    cases row with
    | none =>
      have unheld := fits.unheld rfl
      have frame : ((s.put t (.raised false)).release t) = s.put t (.raised false) := by
        simp [State.put,State.release,unheld]
      rw [frame]
      exact inv.leave phase rfl rfl (Or.inr rfl)
    | some row =>
      have held := fits.locks.mp rfl
      exact inv.release (by rw [phase]; rfl) (Or.inr rfl) (inv.lock (by rw [held]; nofun)) fun alive => (fits.agrees alive).1
  · exact inv

omit [DecidableEq δ] in
theorem Inv.insert_row (inv : Inv s) {payload : ProviderCreateInput} {changed : Bool}
    (phase : s.call t = .committing_create payload changed) :
    Inv { s.put t .returned with
      row := some (insert_row payload), created := true, expected := vault_payload_for_create payload } := by
  have fits := inv.fits phase
  obtain ⟨started,fresh⟩ := fits.creates rfl
  have creates : (s.call t).Creates = true := by rw [phase]; rfl
  have untouched : ∀ u, (s.call u).Touches = false := by
    intro u
    by_contra touched
    have created := (inv.calls u).touches (by simpa using touched)
    rw [fresh] at created
    cases created
  have alive : ∀ u, (s.call u).Kills = false := by
    intro u
    by_contra kills
    have touched := touches_of_kills (by simpa using kills)
    rw [untouched u] at touched
    cases touched
  have none_there : s.row = none := by
    by_contra row
    have created := inv.row row
    rw [fresh] at created
    cases created
  have writes : (s.call t).Writes = true := by simp [Call.Writes,creates]
  refine { calls := put_fits ?_ ?_, creator := put_creator inv nofun, started := fun _ => started, row := fun _ => rfl,
           lock := ?_, pinned := ?_, kept := ?_ }
  · exact ⟨nofun,nofun,nofun,nofun,fits.locks,fun _ => trivial⟩
  · intro u other
    obtain ⟨unlocked,unmade⟩ := inv.others writes other
    refine { inv.calls u with creates := ?_, touches := fun _ => rfl, rowless := ?_, agrees := fun _ => agrees_of_plain unlocked unmade }
    · intro impossible
      rw [unmade] at impossible
      cases impossible
    · intro rowless
      have touched := touches_of_rowless rowless
      rw [untouched u] at touched
      cases touched
  · exact fun held => absurd none_there (inv.lock held)
  · intro dept_id pinned
    exact absurd none_there (inv.pinned dept_id pinned).1
  · exact fun _ _ _ => fits.agrees alive

omit [DecidableEq δ] in
theorem Inv.commit (inv : Inv s) (answer : Answer) (orderly : Orderly s (.commit t answer)) : Inv (commit s t answer) := by
  unfold LlmProviders.commit
  split
  · next payload changed phase => exact inv.insert_row phase
  · next payload changed effect phase =>
    have clean : (changed || effect) = false := by simpa [Orderly,Call.leaves,phase] using orderly
    obtain ⟨_,none_done⟩ := Bool.or_eq_false_iff.mp clean
    rw [clean,none_done,Bool.or_false]
    exact inv.leave phase rfl rfl (Or.inr rfl)
  · next patch row written changed phase =>
    have fits := inv.fits phase
    refine inv.release (by rw [phase]; rfl) (Or.inl rfl) nofun fun alive => ?_
    have agrees := fits.agrees alive
    cases written with
    | none =>
      rw [merge_unchanged agrees.2]
      exact agrees.1
    | some merged =>
      rw [← agrees.1]
      exact agrees.2.1
  · next patch written changed phase => exact inv.leave phase rfl rfl (Or.inl rfl)
  · next patch row written changed effect phase =>
    have clean : (changed || effect) = false := by simpa [Orderly,Call.leaves,phase] using orderly
    obtain ⟨unchanged,none_done⟩ := Bool.or_eq_false_iff.mp clean
    rw [clean,none_done]
    have fits := inv.fits phase
    have held := fits.locks.mp rfl
    refine inv.release (by rw [phase]; rfl) (Or.inr rfl) (inv.lock (by rw [held]; nofun)) fun alive => ?_
    have agrees := fits.agrees alive
    cases written with
    | none => exact agrees.1
    | some merged => exact agrees.2.2 unchanged
  · next patch written changed effect phase =>
    have clean : changed = false := by simpa [Orderly,Call.leaves,phase] using orderly
    rw [clean]
    exact inv.leave phase rfl rfl (Or.inr rfl)
  · exact inv

omit [DecidableEq δ] in
theorem Inv.vault_delete (inv : Inv s) (answer : Answer) (orderly : Orderly s (.vault_delete t answer)) : Inv (vault_delete s t answer) := by
  unfold LlmProviders.vault_delete
  split
  · next phase =>
    have fits := inv.fits phase
    have created := fits.touches rfl
    cases there : s.credentials with
    | none =>
      have frame : ({ s.put t (.deleting_row (none : Option Credentials).isSome) with credentials := none } : State τ δ) =
          s.put t (.deleting_row false) := by
        simp [State.put,there]
      rw [frame]
      exact inv.quiet phase rfl rfl nofun rfl (fun _ => created) rfl rfl rfl
    | some credentials =>
      have unpinned := orderly phase (by rw [there]; nofun)
      -- nothing is promised until the row is gone
      have killed : ¬∀ u, ((s.put t (.deleting_row true)).call u).Kills = false := by
        intro alive
        have mine := alive t
        simp [State.put,Call.Kills] at mine
      refine { inv with calls := put_fits ?_ ?_, creator := put_creator inv nofun, pinned := ?_, kept := ?_ }
      · exact ⟨nofun,nofun,fun _ => created,nofun,fits.locks,fun alive => absurd alive killed⟩
      · intro u _
        exact { inv.calls u with agrees := fun alive => absurd alive killed }
      · intro dept_id pinned
        have before : s.pins dept_id = true := pinned
        rw [unpinned dept_id] at before
        cases before
      · exact fun _ _ alive => absurd alive killed
  · next effect phase =>
    have undone : effect = true → s.credentials = none := orderly phase
    have clean : (effect && s.credentials.isSome) = false := by
      cases effect with
      | false => rfl
      | true => rw [undone rfl]; rfl
    have same : (if effect then none else s.credentials) = s.credentials := by
      cases effect with
      | false => rfl
      | true => rw [undone rfl]; rfl
    rw [clean,same]
    exact inv.leave phase rfl rfl (Or.inr rfl)
  · exact inv

omit [DecidableEq δ] in
theorem Inv.remove (inv : Inv s) {changed : Bool} (phase : s.call t = .deleting_row changed) (free : s.lock = none)
    (unpinned : ∀ dept_id, s.pins dept_id = false) : Inv { s.put t .returned with row := none } := by
  have fits := inv.fits phase
  have created := fits.touches rfl
  refine { inv with
    calls := put_fits ?_ ?_, creator := put_creator inv nofun, row := ?_, lock := ?_, pinned := ?_, kept := ?_ }
  · exact ⟨nofun,nofun,nofun,nofun,fits.locks,fun _ => trivial⟩
  · intro u _
    have theirs := inv.calls u
    have unlocked : (s.call u).Locks = false := by
      by_contra held
      have locks := theirs.locks.mp (by simpa using held)
      rw [free] at locks
      cases locks
    have unmade : (s.call u).Creates = false := by
      by_contra made
      have fresh := (theirs.creates (by simpa using made)).2
      rw [created] at fresh
      cases fresh
    exact { theirs with rowless := fun _ => rfl, agrees := fun _ => agrees_of_plain unlocked unmade }
  · exact fun impossible => absurd rfl impossible
  · exact fun held => absurd free held
  · intro dept_id pinned
    have before : s.pins dept_id = true := pinned
    rw [unpinned dept_id] at before
    cases before
  · exact fun impossible => absurd rfl impossible

omit [DecidableEq δ] in
theorem Inv.delete_row [Fintype δ] (inv : Inv s) (answer : Answer) (orderly : Orderly s (.delete_row t answer)) :
    Inv (delete_row s t answer) := by
  unfold LlmProviders.delete_row
  split
  · next changed phase =>
    split
    · exact inv
    · next free =>
      split
      · next pinned =>
        obtain ⟨dept_id,pinned⟩ := not_forall.mp pinned
        have clean : changed = false := by
          have alive := (inv.pinned dept_id (by simpa using pinned)).2 t
          rw [phase] at alive
          exact alive
        rw [clean]
        exact inv.leave phase rfl clean (Or.inr rfl)
      · next unpinned =>
        split
        · exact inv.remove phase (by simpa using free) (by simpa using unpinned)
        · next effect =>
          obtain ⟨harmless,undone⟩ : (s.call t).Kills = false ∧ (effect = true → s.row = none) := orderly
          have clean : changed = false := by simpa [phase,Call.Kills] using harmless
          have lost : (changed || (effect && s.row.isSome)) = false := by
            cases effect with
            | false => simp [clean]
            | true => simp [clean,undone]
          have same : (if effect then none else s.row) = s.row := by
            cases effect with
            | false => rfl
            | true => rw [undone rfl]; rfl
          rw [lost,same]
          exact inv.leave phase rfl clean (Or.inr rfl)
  · exact inv

omit [DecidableEq τ] in
theorem Inv.pin (inv : Inv s) (dept_id : δ) (row : s.row ≠ none) (alive : ∀ u, (s.call u).Kills = false) :
    Inv { s with pins := Function.update s.pins dept_id true } :=
  { inv with calls := fun u => { inv.calls u with }, pinned := fun _ _ => ⟨row,alive⟩ }

theorem Inv.upsert (inv : Inv s) (answer : Answer) (orderly : Orderly s (.upsert t answer)) : Inv (upsert s t answer) := by
  unfold LlmProviders.upsert
  split
  · next dept_id phase =>
    dsimp only
    split
    · exact inv.leave phase rfl rfl (Or.inr rfl)
    · next row there =>
      have present : s.row ≠ none := by rw [there]; nofun
      exact (inv.pin dept_id present (orderly nofun present)).leave phase rfl rfl (Or.inl rfl)
    · next row effect there =>
      have present : s.row ≠ none := by rw [there]; nofun
      cases effect with
      | false => exact inv.leave phase rfl rfl (Or.inr rfl)
      | true => exact (inv.pin dept_id present (orderly nofun present)).leave phase rfl rfl (Or.inr rfl)
  · exact inv

omit [DecidableEq τ] in
theorem Inv.unpin (inv : Inv s) (dept_id : δ) : Inv { s with pins := Function.update s.pins dept_id false } := by
  refine { inv with calls := fun u => { inv.calls u with }, pinned := ?_ }
  intro other
  by_cases same : other = dept_id
  · subst same
    simp
  · simpa [same] using inv.pinned other

theorem Inv.step [Fintype δ] (inv : Inv s) (a : Action τ δ) (orderly : Orderly s a) : Inv (step s a) := by
  cases a with
  | create t payload => exact inv.create payload
  | insert t ok => exact inv.insert ok
  | update t patch ok => exact inv.update patch ok
  | update_row t ok => exact inv.update_locked ok
  | vault_read t ok => exact inv.vault_read ok
  | vault_write t answer => exact inv.vault_write answer orderly
  | commit t answer => exact inv.commit answer orderly
  | delete t ok => exact inv.delete ok
  | overrides_referencing t ok => exact inv.overrides_referencing ok
  | vault_delete t answer => exact inv.vault_delete answer orderly
  | delete_row t answer => exact inv.delete_row answer orderly
  | set_override t dept_id ok => exact inv.set_override dept_id ok
  | upsert t answer => exact inv.upsert answer orderly
  | unpin dept_id => exact inv.unpin dept_id

end

section
variable {τ δ : Type} {s : State τ δ}

theorem Inv.holds (inv : Inv s) : Kept s where
  pinned dept_id pinned := by
    obtain ⟨row,alive⟩ := inv.pinned dept_id pinned
    exact inv.ahead_or row alive
  raised t := (inv.calls t).unraised

end

/-! ### Runs -/

/-- Where nothing fails behind a change of the vault, and no department pins a provider between
    the check of its delete and the row's end, a pinned provider keeps its credentials and a call
    that raises changes nothing, in every state of every run. -/
theorem credentials_kept {τ δ : Type} [DecidableEq τ] [DecidableEq δ] [Fintype δ] (actions : List (Action τ δ))
    (orderly : Admitted step Orderly .start actions) (n : Nat) : Kept ((actions.take n).foldl step .start) := by
  have always := admitted_always (I := Inv) (fun s a inv orderly => inv.step a orderly) actions .start inv_start orderly
  exact (always n).holds

def provider : ProviderCreateInput := ⟨"openai","main","gpt",8192,none,some "first",some "org",none,none⟩

def new_key : ProviderUpdate := ⟨none,none,none,none,some "second",none,none,none,none⟩

/-- The provider is created and pinned. -/
def pinned_run : List (Action (Fin 4) Unit) :=
  [.create 0 provider,.insert 0 true,.vault_write 0 .ok,.commit 0 .ok,.set_override 1 () true,.upsert 1 .ok]

/-- Its key is rotated, and a delete refused. -/
def rotation : List (Action (Fin 4) Unit) :=
  pinned_run ++ [.update 2 new_key true,.update_row 2 true,.vault_read 2 true,.vault_write 2 .ok,.commit 2 .ok,
    .delete 3 true,.overrides_referencing 3 true]

theorem credentials_kept_rotation :
    (rotation.foldl step .start).credentials = some ⟨some "second",some "org"⟩ ∧ Kept (rotation.foldl step .start) :=
  ⟨by decide,credentials_kept rotation (by decide) rotation.length⟩

/-- A delete checks the pins, a department pins the provider, and the delete goes on. -/
def late_pin : List (Action (Fin 4) Unit) :=
  [.create 0 provider,.insert 0 true,.vault_write 0 .ok,.commit 0 .ok,.delete 2 true,.overrides_referencing 2 true,
    .set_override 1 () true,.upsert 1 .ok,.vault_delete 2 .ok,.delete_row 2 .ok]

/-- The delete takes the credentials of a provider that is pinned, and then fails. -/
theorem pinned_without_credentials :
    ¬∀ (actions : List (Action (Fin 4) Unit)) (n : Nat), Kept ((actions.take n).foldl step .start) := by
  intro always
  have kept := always late_pin 10
  have lost : ((late_pin.take 10).foldl step .start).credentials = none := by decide
  rcases kept.pinned () (by decide) with credentials | ⟨_,_,_,_,_,_,_,credentials⟩
  · rw [lost] at credentials
    cases credentials
  · rw [lost] at credentials
    cases credentials

end Automation.LlmProviders
