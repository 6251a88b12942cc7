import Automation.Effects
import Automation.WebhookRotation
import Mathlib.Data.Fintype.Basic

/-!
The credential of a department for a service: a row in the database, and a secret at its
final path in the vault, which a call stages, probes and promotes inside the transaction of
the row. Row and secret agree whenever no call is in progress (`credentials_agree`), where
calls do not cross at the final path and nothing fails behind a commit.
-/
namespace Automation.DeptCredentials
open Automation.Effects
open Automation.WebhookRotation (isDepartmentId)

/-! ### Requests, payloads and rows -/

def VALID_SERVICES : List String := ["jira","bitbucket","confluence"]

/-- The department and the service that all calls here are about. -/
structure Pair where
  dept_id : String
  service : String
  deriving DecidableEq

inductive Deployment where
  | cloud
  | server
  | dc
  deriving DecidableEq

structure ProbeTargets where
  bitbucket_workspace : Option String
  bitbucket_repo : Option String
  confluence_space_key : Option String
  deriving DecidableEq

/-- A request about the pair. -/
structure AddCredentialRequest where
  url : String
  username : String
  personal_token : List UInt8
  account_id : Option String
  deployment : Option Deployment
  probe_targets : Option ProbeTargets
  deriving DecidableEq

/-- The payload in the vault: the keys that it has. -/
structure Payload where
  username : String
  personal_token : String
  account_id : Option String
  url : String
  deployment : Option Deployment
  bitbucket_workspace : Option String
  bitbucket_repo : Option String
  confluence_space_key : Option String
  deriving DecidableEq

/-- A row of `automation.department_bots`. -/
structure BotRow where
  credential_ref : String
  account_id : Option String
  username : String
  deployment : Deployment
  deriving DecidableEq

def Pair.valid (pair : Pair) : Bool := VALID_SERVICES.contains pair.service && isDepartmentId pair.dept_id

/-- `_validate_request` and `validate_dept_id` raise nothing. -/
def validate_request (pair : Pair) (request : AddCredentialRequest) : Bool :=
  pair.valid && !request.personal_token.isEmpty && request.url ≠ "" && request.username ≠ ""

def decode (token : List UInt8) : Option String := String.fromUTF8? ⟨token.toArray⟩

/-- The `server` of a request is the `dc` of the database. -/
def Deployment.stored : Deployment → Deployment
  | .server => .dc
  | deployment => deployment

/-- The payload of `_write_staging_credential`; the token has to be valid UTF-8. -/
def credential_payload (request : AddCredentialRequest) : Option Payload :=
  (decode request.personal_token).map fun personal_token =>
    { username := request.username
      personal_token
      account_id := request.account_id.filter (· ≠ "")
      url := request.url
      deployment := request.deployment.map Deployment.stored
      bitbucket_workspace := (request.probe_targets.bind (·.bitbucket_workspace)).filter (· ≠ "")
      bitbucket_repo := (request.probe_targets.bind (·.bitbucket_repo)).filter (· ≠ "")
      confluence_space_key := (request.probe_targets.bind (·.confluence_space_key)).filter (· ≠ "") }

def final_vault_path (pair : Pair) : String := "vault:atlassian/" ++ pair.dept_id ++ "/" ++ pair.service

/-- A request whose probe was fine, with what `_commit` begins with. -/
structure Entry where
  request : AddCredentialRequest
  resolved_account_id : Option String
  prior_final_snapshot : Option Payload
  deriving DecidableEq

/-- The row of an `INSERT … ON CONFLICT DO UPDATE`. -/
def bot_row (pair : Pair) (entry : Entry) : BotRow where
  credential_ref := final_vault_path pair
  account_id := entry.resolved_account_id
  username := entry.request.username
  deployment := (entry.request.deployment.getD .cloud).stored

/-! ### The calls -/

/-- A call and what it waits for. -/
inductive Call where
  | idle
  | probing (request : AddCredentialRequest)
  | connecting (entry : Entry)
  | selecting (entry : Entry)
  | checking (entry : Entry)
  | upserting (entry : Entry) (existed : Bool)
  /-- The row is written, and the call goes on with the promotion. -/
  | promoting (entry : Entry) (existed : Bool)
  | rolling_back
  /-- The staged payload is at the final path, over what was there before. -/
  | committing (entry : Entry) (existed : Bool) (before : Option Payload)
  | restoring (entry : Entry) (before : Option Payload)
  /-- Whether the call has changed the row or the payload. -/
  | auditing (entry : Entry) (existed changed : Bool)
  | identifying (entry : Entry) (existed changed : Bool)
  | added (entry : Entry) (existed : Bool)
  | remove_selecting
  | remove_checking
  | deleting
  /-- Whether the `SELECT` has found a row, and whether the `DELETE` has removed one. -/
  | remove_committing (existed deleted : Bool)
  | removing (existed deleted : Bool)
  | remove_auditing (existed changed : Bool)
  | removed (existed : Bool)
  /-- The row is gone, if `deleted`, and the payload could not be deleted. -/
  | remove_failing (deleted : Bool)
  | remove_raised (deleted : Bool)
  /-- A call that is about to raise writes its audit row. -/
  | failing (changed : Bool)
  | raised (changed : Bool)
  deriving DecidableEq

/-- The pair with the calls about it. -/
structure State (τ : Type) where
  row : Option BotRow
  /-- The final path. -/
  final : Option Payload
  /-- The path that a call stages at. -/
  staging : τ → Option Payload
  /-- The `bytearray` of a request. -/
  token : τ → List UInt8
  /-- The transaction that has changed the row. -/
  lock : Option τ
  call : τ → Call
  /-- The vault has failed to delete what the call has staged. -/
  undeleted : τ → Bool
  /-- The vault has failed to delete the payload of a row that is gone, has deleted none since, and
      there has been no new row. -/
  leftover : Bool

def State.start {τ : Type} : State τ :=
  ⟨none,none,fun _ => none,fun _ => [],none,fun _ => .idle,fun _ => false,false⟩

inductive ProbeAnswer where
  | raises
  /-- A state that is not `ok`. -/
  | failed
  | ok (auto_fetched_account_id : Option String)
  deriving DecidableEq

inductive Selected where
  | raises
  | missing
  | found
  deriving DecidableEq

/-- A call starts, or gets the answer to what it waits for. What goes to the vault and is
    not awaited comes with the step: whether it is done, or raises and does nothing. -/
inductive Action (τ : Type) where
  | add_or_update (t : τ) (request : AddCredentialRequest) (staged : Bool)
  | probe (t : τ) (answer : ProbeAnswer) (read deleted : Bool)
  | connect (t : τ) (ok deleted : Bool)
  | select_department (t : τ) (answer : Selected)
  | row_exists (t : τ) (ok : Bool)
  | upsert (t : τ) (ok : Bool)
  | promote_staging (t : τ) (read written deleted : Bool)
  | rollback (t : τ) (deleted : Bool)
  | commit (t : τ) (ok : Bool)
  | rollback_final_path (t : τ) (deleted : Bool)
  | audit (t : τ) (ok : Bool)
  | remove (t : τ)
  | delete (t : τ) (ok : Bool)
  | vault_delete (t : τ) (ok : Bool)

section
variable {τ : Type} [DecidableEq τ]

def State.put (s : State τ) (t : τ) (c : Call) : State τ := { s with call := Function.update s.call t c }

/-- The end of a transaction. -/
def State.release (s : State τ) (t : τ) : State τ := { s with lock := if s.lock = some t then none else s.lock }

def best_effort_delete_staging (s : State τ) (t : τ) (deleted : Bool) : State τ :=
  { s with
    staging := if deleted then Function.update s.staging t none else s.staging
    undeleted := if deleted then s.undeleted else Function.update s.undeleted t true }

def zero_request_token (s : State τ) (t : τ) : State τ :=
  { s with token := Function.update s.token t ((s.token t).map fun _ => 0) }

/-- `add_or_update`, up to its probe. -/
def add_or_update (pair : Pair) (s : State τ) (t : τ) (request : AddCredentialRequest) (staged : Bool) : State τ :=
  if s.call t = .idle then
    let called := { s with token := Function.update s.token t request.personal_token }
    if !validate_request pair request then called.put t (.raised false)
    else
      match credential_payload request,staged with
      | some payload,true => { called.put t (.probing request) with staging := Function.update s.staging t (some payload) }
      -- the path of the staging is a new one, and there is nothing to delete
      | _,_ => called.put t (.failing false)
  else s

/-- The answer of the probe, and the snapshot of the final path. -/
def probe (s : State τ) (t : τ) (answer : ProbeAnswer) (read deleted : Bool) : State τ :=
  match s.call t with
  | .probing request =>
    match answer,read with
    | .ok auto_fetched_account_id,true =>
      let resolved_account_id := (request.account_id.filter (· ≠ "")).or auto_fetched_account_id
      (zero_request_token s t).put t (.connecting ⟨request,resolved_account_id,s.final⟩)
    | _,_ => (best_effort_delete_staging (zero_request_token s t) t deleted).put t (.failing false)
  | _ => s

def connect (s : State τ) (t : τ) (ok deleted : Bool) : State τ :=
  match s.call t with
  | .connecting entry =>
    if ok then s.put t (.selecting entry) else (best_effort_delete_staging s t deleted).put t (.failing false)
  | _ => s

/-- The department is looked up, behind the statements that begin the transaction. A `remove`
    has nothing to roll back. -/
def select_department (s : State τ) (t : τ) (answer : Selected) : State τ :=
  match s.call t,answer with
  | .selecting entry,.found => s.put t (.checking entry)
  | .selecting _,_ => s.put t .rolling_back
  | .remove_selecting,.found => s.put t .remove_checking
  | .remove_selecting,.missing => s.put t (.raised false)
  | .remove_selecting,.raises => s.put t (.failing false)
  | _,_ => s

def row_exists (s : State τ) (t : τ) (ok : Bool) : State τ :=
  match s.call t with
  | .checking entry => s.put t (if ok then .upserting entry s.row.isSome else .rolling_back)
  | .remove_checking =>
    s.put t (if !ok then .failing false else if s.row.isSome then .deleting else .remove_committing false false)
  | _ => s

/-- The upsert waits for the row, and keeps it. -/
def upsert (s : State τ) (t : τ) (ok : Bool) : State τ :=
  match s.call t with
  | .upserting entry existed =>
    if !ok then s.put t .rolling_back
    else if s.lock = none then { s.put t (.promoting entry existed) with lock := some t }
    else s
  | _ => s

def promote_staging (s : State τ) (t : τ) (read written deleted : Bool) : State τ :=
  match s.call t with
  | .promoting entry existed =>
    match s.staging t,read && written with
    | some value,true =>
      { best_effort_delete_staging (s.put t (.committing entry existed s.final)) t deleted with final := some value }
    | _,_ => s.put t .rolling_back
  | _ => s

def rollback (s : State τ) (t : τ) (deleted : Bool) : State τ :=
  match s.call t with
  | .rolling_back => (best_effort_delete_staging (s.release t) t deleted).put t (.failing false)
  | _ => s

/-- The database commits, or fails to. -/
def commit (pair : Pair) (s : State τ) (t : τ) (ok : Bool) : State τ :=
  match s.call t with
  | .committing entry existed before =>
    let row := some (bot_row pair entry)
    if ok then { (s.release t).put t (.auditing entry existed (s.row ≠ row || before ≠ s.final)) with row, leftover := false }
    else (s.release t).put t (.restoring entry before)
  | .remove_committing existed deleted =>
    if ok then { (s.release t).put t (.removing existed deleted) with row := if deleted then none else s.row }
    else (s.release t).put t (.failing false)
  | _ => s

/-- What `_commit` does when the database has failed to commit. -/
def rollback_final_path (s : State τ) (t : τ) (deleted : Bool) : State τ :=
  match s.call t with
  | .restoring entry before =>
    { (best_effort_delete_staging s t deleted).put t (.failing (entry.prior_final_snapshot ≠ before)) with
      final := entry.prior_final_snapshot }
  | _ => s

/-- The audit rows; the one of the identity comes with its probe, which changes nothing here. -/
def audit (s : State τ) (t : τ) (ok : Bool) : State τ :=
  match s.call t with
  | .auditing entry existed changed => s.put t (if ok then .identifying entry existed changed else .raised changed)
  | .identifying entry existed changed => s.put t (if ok then .added entry existed else .raised changed)
  | .remove_auditing existed changed => s.put t (if ok then .removed existed else .raised changed)
  | .remove_failing deleted => s.put t (.remove_raised deleted)
  | .failing changed => s.put t (.raised changed)
  | _ => s

/-- `remove`, up to its transaction. -/
def remove (pair : Pair) (s : State τ) (t : τ) : State τ :=
  if s.call t = .idle then s.put t (if pair.valid then .remove_selecting else .raised false) else s

/-- The `DELETE` waits for a row that it sees, and keeps it. -/
def delete (s : State τ) (t : τ) (ok : Bool) : State τ :=
  match s.call t with
  | .deleting =>
    if !ok then s.put t (.failing false)
    else
      match s.row,s.lock with
      | none,_ => s.put t (.remove_committing true false)
      | some _,none => { s.put t (.remove_committing true true) with lock := some t }
      | some _,some _ => s
  | _ => s

def vault_delete (s : State τ) (t : τ) (ok : Bool) : State τ :=
  match s.call t with
  | .removing existed deleted =>
    if ok then { s.put t (.remove_auditing existed (deleted || s.final.isSome)) with final := none, leftover := false }
    else { s.put t (.remove_failing deleted) with leftover := s.leftover || (deleted && s.row.isNone) }
  | _ => s

def step (pair : Pair) (s : State τ) : Action τ → State τ
  | .add_or_update t request staged => add_or_update pair s t request staged
  | .probe t answer read deleted => probe s t answer read deleted
  | .connect t ok deleted => connect s t ok deleted
  | .select_department t answer => select_department s t answer
  | .row_exists t ok => row_exists s t ok
  | .upsert t ok => upsert s t ok
  | .promote_staging t read written deleted => promote_staging s t read written deleted
  | .rollback t deleted => rollback s t deleted
  | .commit t ok => commit pair s t ok
  | .rollback_final_path t deleted => rollback_final_path s t deleted
  | .audit t ok => audit s t ok
  | .remove t => remove pair s t
  | .delete t ok => delete s t ok
  | .vault_delete t ok => vault_delete s t ok

/-! ### What is kept -/

/-- The call has returned or raised, or has not begun. -/
def Call.Done : Call → Bool
  | .idle | .added _ _ | .removed _ | .remove_raised _ | .raised _ => true
  | _ => false

def Same (pair : Pair) (s : State τ) (row : BotRow) (payload : Payload) : Prop :=
  ∃ t entry existed, s.call t = .added entry existed ∧ row = bot_row pair entry ∧ credential_payload entry.request = some payload

/-- The row and the payload are there together and of one call that returned, a call that
    raised has changed neither, nothing is staged, and the tokens are zeroed. -/
structure Agrees (pair : Pair) (s : State τ) : Prop where
  exists_ : s.row.isSome = s.final.isSome
  same : ∀ row payload, s.row = some row → s.final = some payload → Same pair s row payload
  raised : ∀ t, s.call t ≠ .raised true ∧ s.call t ≠ .remove_raised true
  staging : ∀ t, s.staging t = none
  zeroed : ∀ t, ∀ byte ∈ s.token t, byte = 0

/-- The same, but for what the vault has failed to delete: a payload without a row, or a staged one. -/
structure Accounted (pair : Pair) (s : State τ) : Prop where
  exists_ : s.row.isSome = true → s.final.isSome = true
  left : s.final.isSome = true → s.row.isSome = true ∨ s.leftover = true
  same : ∀ row payload, s.row = some row → s.final = some payload → Same pair s row payload
  raised : ∀ t, s.call t ≠ .raised true
  staging : ∀ t, s.staging t ≠ none → s.undeleted t = true
  zeroed : ∀ t, ∀ byte ∈ s.token t, byte = 0

/-- Row and secret agree whenever no call is in progress. -/
def Kept (pair : Pair) (s : State τ) : Prop := (∀ t, (s.call t).Done = true) → Accounted pair s

/-- The call has promoted, and the database has not committed: what is at the final path may go again. -/
def Call.opens : Call → Option (Entry × Option Payload)
  | .committing entry _ before | .restoring entry before => some (entry,before)
  | _ => none

/-- The database has failed to commit, and the call has not restored the final path yet. -/
def Call.Restores : Call → Bool
  | .restoring _ _ => true
  | _ => false

/-- The snapshot is not what the promotion has overwritten. -/
def Call.Stale : Call → Bool
  | .restoring entry before => entry.prior_final_snapshot ≠ before
  | _ => false

/-- The call is about to delete at the final path. -/
def Call.Removes : Call → Bool
  | .removing _ _ => true
  | _ => false

/-- The row that is gone is the call's work. -/
def Call.Deletes : Call → Bool
  | .removing _ deleted => deleted
  | _ => false

/-- A call that the audit cannot make raise without a trace. -/
def Call.Changed : Call → Bool
  | .auditing _ _ changed | .identifying _ _ changed | .remove_auditing _ changed => changed
  | _ => false

/-- A token that is not zeroed yet is so by a request that is valid and staged; a call promotes
    while no other has to restore, restores what it has overwritten, and deletes at the final path
    while there is no row and nothing promoted for one; and no audit fails behind a change. -/
def Orderly (pair : Pair) (s : State τ) : Action τ → Prop
  | .add_or_update _ request staged =>
    (validate_request pair request = true ∧ (credential_payload request).isSome = true ∧ staged = true) ∨
      ∀ byte ∈ request.personal_token, byte = 0
  | .promote_staging _ read written _ => (read && written) = true → ∀ t, (s.call t).Restores = false
  | .rollback_final_path t _ => (s.call t).Stale = false
  | .audit t ok => ok = true ∨ (s.call t).Changed = false
  | .vault_delete t ok => (s.call t).Removes = true → ok = true → s.final ≠ none → s.row = none ∧ ∀ u, (s.call u).opens = none
  | _ => True

instance [Fintype τ] (pair : Pair) (s : State τ) : DecidablePred (Orderly pair s)
  | .add_or_update _ request staged => inferInstanceAs (Decidable
      ((validate_request pair request = true ∧ (credential_payload request).isSome = true ∧ staged = true) ∨
        ∀ byte ∈ request.personal_token, byte = 0))
  | .promote_staging _ read written _ =>
    inferInstanceAs (Decidable ((read && written) = true → ∀ t, (s.call t).Restores = false))
  | .rollback_final_path t _ => inferInstanceAs (Decidable ((s.call t).Stale = false))
  | .audit t ok => inferInstanceAs (Decidable (ok = true ∨ (s.call t).Changed = false))
  | .vault_delete t ok => inferInstanceAs (Decidable
      ((s.call t).Removes = true → ok = true → s.final ≠ none → s.row = none ∧ ∀ u, (s.call u).opens = none))
  | .probe _ _ _ _ => inferInstanceAs (Decidable True)
  | .connect _ _ _ => inferInstanceAs (Decidable True)
  | .select_department _ _ => inferInstanceAs (Decidable True)
  | .row_exists _ _ => inferInstanceAs (Decidable True)
  | .upsert _ _ => inferInstanceAs (Decidable True)
  | .rollback _ _ => inferInstanceAs (Decidable True)
  | .commit _ _ => inferInstanceAs (Decidable True)
  | .remove _ => inferInstanceAs (Decidable True)
  | .delete _ _ => inferInstanceAs (Decidable True)

end

/-! ### A step -/

/-- It leaves a change behind, or is about to. -/
def Call.Lost : Call → Bool
  | .failing changed | .raised changed => changed
  | _ => false

/-- Its transaction has changed the row. -/
def Call.Holds : Call → Bool
  | .promoting _ _ | .committing _ _ _ => true
  | .remove_committing _ deleted => deleted
  | _ => false

/-- It still needs its token. -/
def Call.Probes : Call → Bool
  | .probing _ => true
  | _ => false

/-- The request whose payload is staged for the promotion. -/
def Call.staged : Call → Option AddCredentialRequest
  | .probing request => some request
  | .connecting entry | .selecting entry | .checking entry | .upserting entry _ | .promoting entry _ => some entry.request
  | _ => none

/-- What it has staged may still be needed. -/
def Call.Stages : Call → Bool
  | .probing _ | .connecting _ | .selecting _ | .checking _ | .upserting _ _ | .promoting _ _ | .rolling_back => true
  | _ => false

/-- The call that vouches for the row and the payload. -/
def Call.vouches : Call → Option Entry
  | .auditing entry _ true | .identifying entry _ true | .added entry _ => some entry
  | _ => none

/-- A row and what is at the final path fit: they are of one call, or there is only a payload, which
    is left over or which a call is about to delete. -/
def Fine {τ : Type} (pair : Pair) (leftover : Bool) (call : τ → Call) : Option BotRow → Option Payload → Prop
  | none,none => True
  | none,some _ => leftover = true ∨ ∃ t, (call t).Deletes = true
  | some _,none => False
  | some row,some payload =>
    ∃ t entry, (call t).vouches = some entry ∧ row = bot_row pair entry ∧ credential_payload entry.request = some payload

/-- A call is one that the state allows. -/
structure Fits {τ : Type} (s : State τ) (t : τ) (c : Call) : Prop where
  unraised : c.Lost = false
  holds : c.Holds = true → s.lock = some t
  staged : ∀ request, c.staged = some request → s.staging t = credential_payload request
  spent : c.Stages = false → s.staging t ≠ none → s.undeleted t = true
  zeroed : c.Probes = false → ∀ byte ∈ s.token t, byte = 0
  opened : ∀ entry before, c.opens = some (entry,before) → s.final = credential_payload entry.request ∧ s.final ≠ none

/-- What is at the final path for the transactions that have committed. -/
def State.Base {τ : Type} (s : State τ) (base : Option Payload) : Prop :=
  (∃ t entry, (s.call t).opens = some (entry,base)) ∨ ((∀ t, (s.call t).opens = none) ∧ base = s.final)

/-- What holds of a state that orderly steps have led to. -/
structure Inv {τ : Type} (pair : Pair) (s : State τ) : Prop where
  calls : ∀ t, Fits s t (s.call t)
  alone : ∀ t u, (s.call t).opens ≠ none → (s.call u).opens ≠ none → t = u
  fine : ∀ base, s.Base base → Fine pair s.leftover s.call s.row base

theorem opens_of_done {c : Call} (done : c.Done = true) : c.opens = none := by
  cases c <;> first | rfl | cases done

theorem deletes_of_done {c : Call} (done : c.Done = true) : c.Deletes = false := by
  cases c <;> first | rfl | cases done

theorem stages_of_done {c : Call} (done : c.Done = true) : c.Stages = false := by
  cases c <;> first | rfl | cases done

theorem probes_of_done {c : Call} (done : c.Done = true) : c.Probes = false := by
  cases c <;> first | rfl | cases done

theorem added_of_done {c : Call} {entry : Entry} (done : c.Done = true) (vouches : c.vouches = some entry) :
    ∃ existed, c = .added entry existed := by
  cases c with
  | added other existed =>
    obtain rfl := Option.some.inj vouches
    exact ⟨existed,rfl⟩
  | auditing _ _ _ | identifying _ _ _ => cases done
  | _ => cases vouches

section
variable {τ : Type} {pair : Pair} {s : State τ}

theorem inv_start : Inv pair (.start : State τ) where
  calls t := by
    refine ⟨rfl,?_,?_,?_,?_,?_⟩
    · exact fun impossible => nomatch impossible
    · exact fun _ impossible => nomatch impossible
    · exact fun _ impossible => absurd rfl impossible
    · exact fun _ _ impossible => nomatch impossible
    · exact fun _ _ impossible => nomatch impossible
  alone _ _ impossible := absurd rfl impossible
  fine base closed := by
    rcases closed with ⟨_,_,impossible⟩ | ⟨_,rfl⟩
    · cases impossible
    · trivial

theorem fine_settled {leftover : Bool} {call : τ → Call} {row : Option BotRow} {base : Option Payload}
    (fine : Fine pair leftover call row base) (still : ∀ t, (call t).Deletes = false) :
    (row.isSome = true → base.isSome = true) ∧ (base.isSome = true → row.isSome = true ∨ leftover = true) := by
  cases row with
  | none =>
    cases base with
    | none => exact ⟨id,Or.inl⟩
    | some payload =>
      refine ⟨fun _ => rfl,fun _ => Or.inr ?_⟩
      rcases fine with left | ⟨t,deletes⟩
      · exact left
      · rw [still t] at deletes
        cases deletes
  | some row =>
    cases base with
    | none => exact fine.elim
    | some payload => exact ⟨fun _ => rfl,fun _ => Or.inl rfl⟩

theorem Inv.kept (inv : Inv pair s) : Kept pair s := by
  intro done
  have fine := inv.fine s.final (Or.inr ⟨fun t => opens_of_done (done t),rfl⟩)
  obtain ⟨exists_,left⟩ := fine_settled fine fun t => deletes_of_done (done t)
  refine { exists_, left, same := ?_, raised := ?_, staging := ?_, zeroed := ?_ }
  · intro row payload there stored
    rw [there,stored] at fine
    obtain ⟨t,entry,vouches,of_row,of_payload⟩ := fine
    obtain ⟨existed,phase⟩ := added_of_done (done t) vouches
    exact ⟨t,entry,existed,phase,of_row,of_payload⟩
  · intro t raised
    have unraised := (inv.calls t).unraised
    rw [raised] at unraised
    cases unraised
  · exact fun t => (inv.calls t).spent (stages_of_done (done t))
  · exact fun t => (inv.calls t).zeroed (probes_of_done (done t))

end

section
variable {τ : Type} [DecidableEq τ] {pair : Pair} {s s' : State τ} {t : τ} {c : Call}

theorem put_fits (mine : Fits s' t c) (others : ∀ u, u ≠ t → Fits s' u (s.call u)) :
    ∀ u, Fits s' u ((s.put t c).call u) := by
  intro u
  by_cases same : u = t
  · subst same
    simpa [State.put] using mine
  · simpa [State.put,same] using others u same

theorem put_opens (opens : c.opens = (s.call t).opens) (u : τ) : ((s.put t c).call u).opens = (s.call u).opens := by
  by_cases same : u = t
  · subst same
    simpa [State.put] using opens
  · simp [State.put,same]

theorem fine_put {leftover : Bool} {row : Option BotRow} {base : Option Payload} (fine : Fine pair leftover s.call row base)
    (vouches : ∀ entry, (s.call t).vouches = some entry → c.vouches = some entry)
    (deletes : row = none → (s.call t).Deletes = true → leftover = true ∨ c.Deletes = true) :
    Fine pair leftover (s.put t c).call row base := by
  cases row with
  | none =>
    cases base with
    | none => trivial
    | some payload =>
      rcases fine with left | ⟨u,before⟩
      · exact Or.inl left
      · by_cases same : u = t
        · subst same
          exact (deletes rfl before).imp_right fun now => ⟨u,by simpa [State.put] using now⟩
        · exact Or.inr ⟨u,by simpa [State.put,same] using before⟩
  | some row =>
    cases base with
    | none => exact fine.elim
    | some payload =>
      obtain ⟨u,entry,before,of_row,of_payload⟩ := fine
      refine ⟨u,entry,?_,of_row,of_payload⟩
      by_cases same : u = t
      · subst same
        simpa [State.put] using vouches entry before
      · simpa [State.put,same] using before

omit [DecidableEq τ] in
theorem fine_mono {before after : Bool} {call : τ → Call} {row : Option BotRow} {base : Option Payload}
    (fine : Fine pair before call row base) (leftover : before = true → after = true) : Fine pair after call row base := by
  cases row with
  | none =>
    cases base with
    | none => trivial
    | some payload => exact Or.imp_left leftover fine
  | some row =>
    cases base with
    | none => exact fine.elim
    | some payload => exact fine

structure Own {τ : Type} (s s' : State τ) (t : τ) : Prop where
  staging : ∀ u, u ≠ t → s'.staging u = s.staging u
  undeleted : ∀ u, u ≠ t → s'.undeleted u = s.undeleted u
  token : ∀ u, u ≠ t → s'.token u = s.token u
  lock : ∀ u, u ≠ t → s.lock = some u → s'.lock = some u

theorem own_put : Own s (s.put t c) t := ⟨fun _ _ => rfl,fun _ _ => rfl,fun _ _ => rfl,fun _ _ held => held⟩

omit [DecidableEq τ] in
theorem own_refl : Own s s t := ⟨fun _ _ => rfl,fun _ _ => rfl,fun _ _ => rfl,fun _ _ held => held⟩

theorem own_lock {lock : Option τ} (locks : ∀ u, u ≠ t → s.lock = some u → lock = some u) : Own s { s.put t c with lock } t :=
  ⟨fun _ _ => rfl,fun _ _ => rfl,fun _ _ => rfl,locks⟩

theorem own_release : Own s (s.release t) t :=
  ⟨fun _ _ => rfl,fun _ _ => rfl,fun _ _ => rfl,fun u other held => by simp [State.release,held,other]⟩

theorem own_delete (own : Own s s' t) (deleted : Bool) : Own s ((best_effort_delete_staging s' t deleted).put t c) t := by
  refine ⟨?_,?_,own.token,own.lock⟩
  · intro u other
    rw [← own.staging u other]
    cases deleted with
    | false => rfl
    | true => exact Function.update_of_ne other _ _
  · intro u other
    rw [← own.undeleted u other]
    cases deleted with
    | false => exact Function.update_of_ne other _ _
    | true => rfl

theorem own_zero : Own s (zero_request_token s t) t :=
  ⟨fun _ _ => rfl,fun _ _ => rfl,fun _ other => Function.update_of_ne other _ _,fun _ _ held => held⟩

variable {d : Call}

omit [DecidableEq τ] in
theorem Own.fits {u : τ} (own : Own s s' t) (other : u ≠ t) (fits : Fits s u d)
    (opened : ∀ entry before, d.opens = some (entry,before) → s'.final = credential_payload entry.request ∧ s'.final ≠ none) :
    Fits s' u d where
  unraised := fits.unraised
  holds holds := own.lock u other (fits.holds holds)
  staged request staged := by
    rw [own.staging u other]
    exact fits.staged request staged
  spent spent := by
    rw [own.staging u other,own.undeleted u other]
    exact fits.spent spent
  zeroed probes := by
    rw [own.token u other]
    exact fits.zeroed probes
  opened := opened

theorem Inv.change (inv : Inv pair s) (own : Own s s' t) (call : s'.call = (s.put t c).call) (row : s'.row = s.row)
    (final : s'.final = s.final) (leftover : s.leftover = true → s'.leftover = true) (fits : Fits s' t c)
    (opens : c.opens = (s.call t).opens) (vouches : ∀ entry, (s.call t).vouches = some entry → c.vouches = some entry)
    (deletes : s.row = none → (s.call t).Deletes = true → s'.leftover = true ∨ c.Deletes = true) : Inv pair s' := by
  refine { calls := ?_, alone := ?_, fine := ?_ }
  · rw [call]
    refine put_fits fits fun u other => own.fits other (inv.calls u) ?_
    rw [final]
    exact (inv.calls u).opened
  · rw [call]
    intro u v
    rw [put_opens opens,put_opens opens]
    exact inv.alone u v
  · intro base open_
    rw [call,row]
    have before : s.Base base := by
      rcases open_ with ⟨u,entry,now⟩ | ⟨closed,same⟩
      · rw [call,put_opens opens] at now
        exact Or.inl ⟨u,entry,now⟩
      · refine Or.inr ⟨fun u => ?_,by rw [same,final]⟩
        rw [← put_opens opens,← call]
        exact closed u
    refine fine_put ?_ vouches deletes
    exact fine_mono (inv.fine base before) leftover

theorem Inv.put (inv : Inv pair s) (phase : s.call t = d) (fits : Fits s t c) (opens : c.opens = d.opens)
    (vouches : ∀ entry, d.vouches = some entry → c.vouches = some entry) (deletes : d.Deletes = true → c.Deletes = true) :
    Inv pair (s.put t c) := by
  subst phase
  exact inv.change own_put rfl rfl rfl id ⟨fits.unraised,fits.holds,fits.staged,fits.spent,fits.zeroed,fits.opened⟩ opens vouches
    fun _ before => Or.inr (deletes before)

/-- The call has neither promoted nor committed. -/
structure Call.Plain (c : Call) : Prop where
  opens : c.opens = none
  vouches : c.vouches = none
  deletes : c.Deletes = false

theorem Inv.own (inv : Inv pair s) (phase : s.call t = d) (plain : d.Plain) (own : Own s s' t)
    (call : s'.call = (s.put t c).call) (row : s'.row = s.row) (final : s'.final = s.final)
    (leftover : s.leftover = true → s'.leftover = true) (fits : Fits s' t c) (opens : c.opens = none) : Inv pair s' := by
  subst phase
  refine inv.change own call row final leftover fits (by rw [opens,plain.opens]) ?_ ?_
  · intro entry before
    rw [plain.vouches] at before
    cases before
  · intro _ deletes
    rw [plain.deletes] at deletes
    cases deletes

omit [DecidableEq τ] in
/-- The call that comes after, where it holds nothing and has promoted nothing. -/
theorem Fits.go (fits : Fits s t d) (unraised : c.Lost = false) (holds : c.Holds = false)
    (staged : ∀ request, c.staged = some request → d.staged = some request) (spent : c.Stages = false → d.Stages = false)
    (zeroed : d.Probes = false) (opens : c.opens = none) : Fits s t c where
  unraised := unraised
  holds impossible := by
    rw [holds] at impossible
    cases impossible
  staged request here := fits.staged request (staged request here)
  spent here := fits.spent (spent here)
  zeroed _ := fits.zeroed zeroed
  opened entry before impossible := by
    rw [opens] at impossible
    cases impossible

/-- A call of which nothing is left but what could not be deleted. -/
structure Call.Spent (c : Call) : Prop where
  unraised : c.Lost = false
  holds : c.Holds = false
  staged : c.staged = none
  opens : c.opens = none

omit [DecidableEq τ] in
theorem Call.Spent.fits (spent : c.Spent) (staging : s.staging t ≠ none → s.undeleted t = true)
    (zeroed : ∀ byte ∈ s.token t, byte = 0) : Fits s t c where
  unraised := spent.unraised
  holds impossible := by
    rw [spent.holds] at impossible
    cases impossible
  staged request impossible := by
    rw [spent.staged] at impossible
    cases impossible
  spent _ := staging
  zeroed _ := zeroed
  opened entry before impossible := by
    rw [spent.opens] at impossible
    cases impossible

omit [DecidableEq τ] in
theorem Inv.fits (inv : Inv pair s) (phase : s.call t = d) : Fits s t d := phase ▸ inv.calls t

theorem Inv.proceed (inv : Inv pair s) (phase : s.call t = d) (plain : d.Plain) (fits : Fits s t c)
    (opens : c.opens = none) : Inv pair (s.put t c) :=
  inv.own phase plain own_put rfl rfl rfl id ⟨fits.unraised,fits.holds,fits.staged,fits.spent,fits.zeroed,fits.opened⟩ opens

theorem Inv.go (inv : Inv pair s) (phase : s.call t = d) (plain : d.Plain) (unraised : c.Lost = false)
    (holds : c.Holds = false) (staged : ∀ request, c.staged = some request → d.staged = some request)
    (spent : c.Stages = false → d.Stages = false) (zeroed : d.Probes = false) (opens : c.opens = none) : Inv pair (s.put t c) :=
  inv.proceed phase plain ((inv.fits phase).go unraised holds staged spent zeroed opens) opens

/-- A plain call ends, or is about to. -/
theorem Inv.spend (inv : Inv pair s) (phase : s.call t = d) (plain : d.Plain) (spent : c.Spent) (stages : d.Stages = false)
    (probes : d.Probes = false) : Inv pair (s.put t c) :=
  inv.proceed phase plain (spent.fits ((inv.fits phase).spent stages) ((inv.fits phase).zeroed probes)) spent.opens

theorem spent_failing : (Call.failing false).Spent := ⟨rfl,rfl,rfl,rfl⟩

theorem spent_raised : (Call.raised false).Spent := ⟨rfl,rfl,rfl,rfl⟩

theorem deleted_self (deleted : Bool) : (best_effort_delete_staging s t deleted).staging t ≠ none →
    (best_effort_delete_staging s t deleted).undeleted t = true := by
  unfold best_effort_delete_staging
  cases deleted with
  | false => simp
  | true => simp

theorem zeroed_self : ∀ byte ∈ (zero_request_token s t).token t, byte = 0 := by
  simp [zero_request_token]

theorem Inv.add_or_update (inv : Inv pair s) (request : AddCredentialRequest) (staged : Bool)
    (orderly : Orderly pair s (.add_or_update t request staged)) : Inv pair (add_or_update pair s t request staged) := by
  unfold DeptCredentials.add_or_update
  split
  · next idle =>
    have fits := inv.fits idle
    have token_self : Function.update s.token t request.personal_token t = request.personal_token := Function.update_self ..
    have token_other : ∀ u, u ≠ t → Function.update s.token t request.personal_token u = s.token u :=
      fun u other => Function.update_of_ne other _ _
    -- a token that stays as it is has zeroes from the beginning
    have ends : ∀ c : Call, c.Spent → (∀ byte ∈ request.personal_token, byte = 0) →
        Inv pair { s.put t c with token := Function.update s.token t request.personal_token } := by
      intro c spent zeroed
      refine inv.own idle ⟨rfl,rfl,rfl⟩ ⟨fun _ _ => rfl,fun _ _ => rfl,token_other,fun _ _ held => held⟩ rfl rfl rfl id
        (spent.fits (fits.spent rfl) ?_) spent.opens
      show ∀ byte ∈ Function.update s.token t request.personal_token t, byte = 0
      rw [token_self]
      exact zeroed
    split
    · next invalid =>
      rcases orderly with ⟨valid,-,-⟩ | zeroed
      · rw [valid] at invalid
        cases invalid
      · exact ends _ spent_raised zeroed
    · split
      · next payload here =>
        refine inv.own idle ⟨rfl,rfl,rfl⟩ ⟨fun u other => Function.update_of_ne other _ _,fun _ _ => rfl,token_other,fun _ _ held => held⟩
          rfl rfl rfl id ?_ rfl
        refine ⟨rfl,Bool.noConfusion,?_,Bool.noConfusion,Bool.noConfusion,?_⟩
        · intro other same
          obtain rfl := Option.some.inj same
          show Function.update s.staging t (some payload) t = _
          rw [Function.update_self,here]
        · exact fun _ _ impossible => nomatch impossible
      · next unfit =>
        rcases orderly with ⟨-,decodes,rfl⟩ | zeroed
        · obtain ⟨payload,here⟩ := Option.isSome_iff_exists.mp decodes
          exact absurd rfl (unfit payload here)
        · exact ends _ spent_failing zeroed
  · exact inv

theorem Inv.probe (inv : Inv pair s) (answer : ProbeAnswer) (read deleted : Bool) : Inv pair (probe s t answer read deleted) := by
  unfold DeptCredentials.probe
  split
  · next request phase =>
    have fits := inv.fits phase
    split
    · have own : Own s (zero_request_token s t) t := own_zero
      refine inv.own phase ⟨rfl,rfl,rfl⟩ ⟨own.staging,own.undeleted,own.token,own.lock⟩ rfl rfl rfl id ?_ rfl
      exact ⟨rfl,Bool.noConfusion,fits.staged,Bool.noConfusion,fun _ => zeroed_self,fun _ _ impossible => nomatch impossible⟩
    · exact inv.own phase ⟨rfl,rfl,rfl⟩ (own_delete own_zero deleted) rfl rfl rfl id
        (spent_failing.fits (deleted_self (s := zero_request_token s t) deleted) zeroed_self) rfl
  · exact inv

theorem Inv.connect (inv : Inv pair s) (ok deleted : Bool) : Inv pair (connect s t ok deleted) := by
  unfold DeptCredentials.connect
  split
  · next entry phase =>
    have fits := inv.fits phase
    split
    · exact inv.go phase ⟨rfl,rfl,rfl⟩ rfl rfl (fun _ same => same) Bool.noConfusion rfl rfl
    · exact inv.own phase ⟨rfl,rfl,rfl⟩ (own_delete own_refl deleted) rfl rfl rfl id (spent_failing.fits (deleted_self deleted) (fits.zeroed rfl)) rfl
  · exact inv

theorem Inv.select_department (inv : Inv pair s) (answer : Selected) : Inv pair (select_department s t answer) := by
  unfold DeptCredentials.select_department
  split
  · next entry phase => exact inv.go phase ⟨rfl,rfl,rfl⟩ rfl rfl (fun _ same => same) Bool.noConfusion rfl rfl
  · next entry phase _ => exact inv.go phase ⟨rfl,rfl,rfl⟩ rfl rfl (fun _ same => nomatch same) Bool.noConfusion rfl rfl
  · next phase => exact inv.go phase ⟨rfl,rfl,rfl⟩ rfl rfl (fun _ same => nomatch same) (fun _ => rfl) rfl rfl
  · next phase => exact inv.spend phase ⟨rfl,rfl,rfl⟩ spent_raised rfl rfl
  · next phase => exact inv.spend phase ⟨rfl,rfl,rfl⟩ spent_failing rfl rfl
  · exact inv

theorem Inv.row_exists (inv : Inv pair s) (ok : Bool) : Inv pair (row_exists s t ok) := by
  unfold DeptCredentials.row_exists
  split
  · next entry phase =>
    split
    · exact inv.go phase ⟨rfl,rfl,rfl⟩ rfl rfl (fun _ same => same) Bool.noConfusion rfl rfl
    · exact inv.go phase ⟨rfl,rfl,rfl⟩ rfl rfl (fun _ same => nomatch same) Bool.noConfusion rfl rfl
  · next phase =>
    split
    · exact inv.spend phase ⟨rfl,rfl,rfl⟩ spent_failing rfl rfl
    · split
      · exact inv.go phase ⟨rfl,rfl,rfl⟩ rfl rfl (fun _ same => nomatch same) (fun _ => rfl) rfl rfl
      · exact inv.go phase ⟨rfl,rfl,rfl⟩ rfl rfl (fun _ same => nomatch same) (fun _ => rfl) rfl rfl
  · exact inv

theorem Inv.upsert (inv : Inv pair s) (ok : Bool) : Inv pair (upsert s t ok) := by
  unfold DeptCredentials.upsert
  split
  · next entry existed phase =>
    have fits := inv.fits phase
    split
    · exact inv.go phase ⟨rfl,rfl,rfl⟩ rfl rfl (fun _ same => nomatch same) Bool.noConfusion rfl rfl
    · split
      · next free =>
        refine inv.own phase ⟨rfl,rfl,rfl⟩ (own_lock fun u _ held => ?_) rfl rfl rfl id ?_ rfl
        · rw [free] at held
          cases held
        · exact ⟨rfl,fun _ => rfl,fits.staged,Bool.noConfusion,fun _ => fits.zeroed rfl,fun _ _ impossible => nomatch impossible⟩
      · exact inv
  · exact inv

theorem Inv.rollback (inv : Inv pair s) (deleted : Bool) : Inv pair (rollback s t deleted) := by
  unfold DeptCredentials.rollback
  split
  · next phase =>
    have fits := inv.fits phase
    exact inv.own phase ⟨rfl,rfl,rfl⟩ (own_delete own_release deleted) rfl rfl rfl id
      (spent_failing.fits (deleted_self (s := s.release t) deleted) (fits.zeroed rfl)) rfl
  · exact inv

theorem Inv.audit (inv : Inv pair s) (ok : Bool) (orderly : Orderly pair s (.audit t ok)) : Inv pair (audit s t ok) := by
  unfold DeptCredentials.audit
  split
  · next entry existed changed phase =>
    cases ok with
    | true =>
      refine inv.put phase ((inv.fits phase).go rfl rfl (fun _ same => nomatch same) (fun _ => rfl) rfl rfl) rfl ?_ Bool.noConfusion
      cases changed with
      | false => exact fun _ impossible => nomatch impossible
      | true => exact fun _ same => same
    | false =>
      have unchanged : changed = false := by simpa [Orderly,phase,Call.Changed] using orderly
      subst unchanged
      exact inv.spend phase ⟨rfl,rfl,rfl⟩ spent_raised rfl rfl
  · next entry existed changed phase =>
    cases ok with
    | true =>
      refine inv.put phase ((inv.fits phase).go rfl rfl (fun _ same => nomatch same) (fun _ => rfl) rfl rfl) rfl ?_ Bool.noConfusion
      cases changed with
      | false => exact fun _ impossible => nomatch impossible
      | true => exact fun _ same => same
    | false =>
      have unchanged : changed = false := by simpa [Orderly,phase,Call.Changed] using orderly
      subst unchanged
      exact inv.spend phase ⟨rfl,rfl,rfl⟩ spent_raised rfl rfl
  · next existed changed phase =>
    cases ok with
    | true => exact inv.go phase ⟨rfl,rfl,rfl⟩ rfl rfl (fun _ same => nomatch same) (fun _ => rfl) rfl rfl
    | false =>
      have unchanged : changed = false := by simpa [Orderly,phase,Call.Changed] using orderly
      subst unchanged
      exact inv.spend phase ⟨rfl,rfl,rfl⟩ spent_raised rfl rfl
  · next deleted phase => exact inv.go phase ⟨rfl,rfl,rfl⟩ rfl rfl (fun _ same => nomatch same) (fun _ => rfl) rfl rfl
  · next changed phase =>
    have fits := inv.fits phase
    have unchanged : changed = false := fits.unraised
    subst unchanged
    exact inv.spend phase ⟨rfl,rfl,rfl⟩ spent_raised rfl rfl
  · exact inv

theorem Inv.start_remove (inv : Inv pair s) : Inv pair (remove pair s t) := by
  unfold DeptCredentials.remove
  split
  · next idle =>
    split
    · exact inv.go idle ⟨rfl,rfl,rfl⟩ rfl rfl (fun _ same => nomatch same) (fun _ => rfl) rfl rfl
    · exact inv.spend idle ⟨rfl,rfl,rfl⟩ spent_raised rfl rfl
  · exact inv

theorem Inv.delete (inv : Inv pair s) (ok : Bool) : Inv pair (delete s t ok) := by
  unfold DeptCredentials.delete
  split
  · next phase =>
    have fits := inv.fits phase
    split
    · exact inv.spend phase ⟨rfl,rfl,rfl⟩ spent_failing rfl rfl
    · split
      · exact inv.go phase ⟨rfl,rfl,rfl⟩ rfl rfl (fun _ same => nomatch same) (fun _ => rfl) rfl rfl
      · next free =>
        refine inv.own phase ⟨rfl,rfl,rfl⟩ (own_lock fun u _ held => ?_) rfl rfl rfl id ?_ rfl
        · rw [free] at held
          cases held
        · exact ⟨rfl,fun _ => rfl,(fun _ impossible => nomatch impossible),fun _ => fits.spent rfl,fun _ => fits.zeroed rfl,
            fun _ _ impossible => nomatch impossible⟩
      · exact inv
  · exact inv

theorem put_closed (others : ∀ u, u ≠ t → (s.call u).opens = none) (closed : c.opens = none) :
    ∀ u, ((s.put t c).call u).opens = none := by
  intro u
  by_cases same : u = t
  · subst same
    simpa [State.put] using closed
  · simpa [State.put,same] using others u same

omit [DecidableEq τ] in
theorem Inv.others (inv : Inv pair s) (open_ : (s.call t).opens ≠ none) {u : τ} (other : u ≠ t) : (s.call u).opens = none := by
  by_contra theirs
  exact other (inv.alone u t theirs open_)

theorem Inv.settle (inv : Inv pair s) (own : Own s s' t) (call : s'.call = (s.put t c).call) (mine : Fits s' t c)
    (others : ∀ u, u ≠ t → (s.call u).opens = none) (closed : c.opens = none)
    (fine : Fine pair s'.leftover (s.put t c).call s'.row s'.final) : Inv pair s' := by
  have none_open := put_closed others closed
  refine { calls := ?_, alone := ?_, fine := ?_ }
  · rw [call]
    refine put_fits mine fun u other => own.fits other (inv.calls u) ?_
    intro entry before impossible
    rw [others u other] at impossible
    cases impossible
  · rw [call]
    intro u _ impossible
    exact absurd (none_open u) impossible
  · intro base open_
    rw [call]
    rcases open_ with ⟨u,entry,impossible⟩ | ⟨-,rfl⟩
    · rw [call,none_open u] at impossible
      cases impossible
    · exact fine

omit [DecidableEq τ] in
theorem Inv.closed_promoting (inv : Inv pair s) {entry : Entry} {existed : Bool} (phase : s.call t = .promoting entry existed)
    (restored : ∀ u, (s.call u).Restores = false) (u : τ) : (s.call u).opens = none := by
  have fits := inv.fits phase
  have held := fits.holds rfl
  cases theirs : s.call u with
  | committing _ _ _ =>
    have fits' := inv.calls u
    rw [theirs] at fits'
    have held' := fits'.holds rfl
    rw [held] at held'
    obtain rfl := Option.some.inj held'
    rw [phase] at theirs
    cases theirs
  | restoring _ _ =>
    have restores := restored u
    rw [theirs] at restores
    cases restores
  | _ => rfl

theorem Inv.promote (inv : Inv pair s) {entry : Entry} {existed : Bool} {value : Payload} (deleted : Bool)
    (phase : s.call t = .promoting entry existed) (staged : s.staging t = some value) (closed : ∀ u, (s.call u).opens = none) :
    Inv pair { best_effort_delete_staging (s.put t (.committing entry existed s.final)) t deleted with final := some value } := by
  have fits := inv.fits phase
  have promoted : credential_payload entry.request = some value := by rw [← fits.staged entry.request rfl,staged]
  have own := own_delete (c := .committing entry existed s.final) (own_refl (s := s) (t := t)) deleted
  have mine : ∀ u, ((s.put t (.committing entry existed s.final)).call u).opens ≠ none → u = t := by
    intro u open_
    by_contra other
    exact open_ (by simpa [State.put,other] using closed u)
  have here : ((s.put t (.committing entry existed s.final)).call t).opens = some (entry,s.final) := by simp [State.put,Call.opens]
  refine { calls := put_fits ?_ ?_, alone := ?_, fine := ?_ }
  · refine ⟨rfl,fun _ => fits.holds rfl,(fun _ impossible => nomatch impossible),fun _ => deleted_self (s := s) deleted,
      fun _ => fits.zeroed rfl,?_⟩
    rintro other before same
    obtain ⟨rfl,rfl⟩ := Prod.mk.inj (Option.some.inj same)
    exact ⟨promoted.symm,Option.some_ne_none value⟩
  · intro u other
    have theirs : Own s { best_effort_delete_staging (s.put t (.committing entry existed s.final)) t deleted with final := some value } t :=
      ⟨own.staging,own.undeleted,own.token,own.lock⟩
    refine theirs.fits other (inv.calls u) ?_
    intro _ _ impossible
    rw [closed u] at impossible
    cases impossible
  · intro u v first second
    exact (mine u first).trans (mine v second).symm
  · intro base open_
    have before : base = s.final := by
      rcases open_ with ⟨u,other,now⟩ | ⟨impossible,-⟩
      · have opens : ((s.put t (.committing entry existed s.final)).call u).opens = some (other,base) := now
        obtain rfl := mine u (by rw [opens]; exact Option.some_ne_none _)
        rw [here] at opens
        exact (Prod.mk.inj (Option.some.inj opens)).2.symm
      · have nothing : ((s.put t (.committing entry existed s.final)).call t).opens = none := impossible t
        rw [here] at nothing
        cases nothing
    rw [before]
    refine fine_put (inv.fine s.final (Or.inr ⟨closed,rfl⟩)) ?_ ?_
    · rw [phase]
      exact fun _ impossible => nomatch impossible
    · rw [phase]
      exact fun _ => Bool.noConfusion

theorem Inv.promote_staging (inv : Inv pair s) (read written deleted : Bool)
    (orderly : Orderly pair s (.promote_staging t read written deleted)) : Inv pair (promote_staging s t read written deleted) := by
  unfold DeptCredentials.promote_staging
  split
  · next entry existed phase =>
    split
    · next value staged done => exact inv.promote deleted phase staged (inv.closed_promoting phase (orderly done))
    · exact inv.go phase ⟨rfl,rfl,rfl⟩ rfl rfl (fun _ same => nomatch same) Bool.noConfusion rfl rfl
  · exact inv

theorem Inv.commit_row (inv : Inv pair s) {entry : Entry} {existed : Bool} {before : Option Payload}
    (phase : s.call t = .committing entry existed before) :
    Inv pair { (s.release t).put t (.auditing entry existed (s.row ≠ some (bot_row pair entry) || before ≠ s.final)) with
      row := some (bot_row pair entry), leftover := false } := by
  have fits := inv.fits phase
  obtain ⟨promoted,there⟩ := fits.opened entry before rfl
  have opens : (s.call t).opens = some (entry,before) := by rw [phase]; rfl
  have own : Own s (s.release t) t := own_release
  refine inv.settle ⟨own.staging,own.undeleted,own.token,own.lock⟩ rfl ?_
    (fun u other => inv.others (by rw [opens]; exact Option.some_ne_none _) other) rfl ?_
  · exact Call.Spent.fits ⟨rfl,rfl,rfl,rfl⟩ (fits.spent rfl) (fits.zeroed rfl)
  · obtain ⟨payload,final⟩ := Option.ne_none_iff_exists'.mp there
    show Fine pair false ((s.release t).put t _).call (some (bot_row pair entry)) s.final
    rw [final] at promoted ⊢
    cases changed : (decide (s.row ≠ some (bot_row pair entry)) || decide (before ≠ some payload)) with
    | true => exact ⟨t,entry,by simp [State.put,State.release,Call.vouches],rfl,promoted.symm⟩
    | false =>
      -- nothing changes, and the call that has vouched before does so still
      obtain ⟨same_row,same_final⟩ := Bool.or_eq_false_iff.mp changed
      have row : s.row = some (bot_row pair entry) := by simpa using same_row
      have base : before = some payload := by simpa using same_final
      have fine := inv.fine before (Or.inl ⟨t,entry,opens⟩)
      rw [row,base] at fine
      have vouched : Fine pair false s.call (some (bot_row pair entry)) (some payload) := fine
      refine fine_put (s := s.release t) vouched ?_ ?_
      · show ∀ other, (s.call t).vouches = some other → _
        rw [phase]
        exact fun _ impossible => nomatch impossible
      · exact fun impossible => nomatch impossible

theorem Inv.commit_delete (inv : Inv pair s) {existed : Bool} (phase : s.call t = .remove_committing existed true) :
    Inv pair { (s.release t).put t (.removing existed true) with row := none } := by
  have fits := inv.fits phase
  have own : Own s (s.release t) t := own_release
  have goes : Inv pair ((s.release t).put t (.removing existed true)) := by
    refine inv.own phase ⟨rfl,rfl,rfl⟩ ⟨own.staging,own.undeleted,own.token,own.lock⟩ rfl rfl rfl id ?_ rfl
    exact Call.Spent.fits ⟨rfl,rfl,rfl,rfl⟩ (fits.spent rfl) (fits.zeroed rfl)
  refine { goes with calls := fun u => { goes.calls u with }, fine := ?_ }
  intro base _
  cases base with
  | none => trivial
  | some payload => exact Or.inr ⟨t,by simp [State.put,Call.Deletes]⟩

theorem Inv.commit (inv : Inv pair s) (ok : Bool) : Inv pair (commit pair s t ok) := by
  unfold DeptCredentials.commit
  have own : Own s (s.release t) t := own_release
  split
  · next entry existed before phase =>
    have fits := inv.fits phase
    dsimp only
    split
    · exact inv.commit_row phase
    · refine inv.change ⟨own.staging,own.undeleted,own.token,own.lock⟩ rfl rfl rfl id ?_ (by rw [phase]; rfl) ?_ ?_
      · exact ⟨rfl,Bool.noConfusion,(fun _ impossible => nomatch impossible),fun _ => fits.spent rfl,fun _ => fits.zeroed rfl,
          fits.opened⟩
      · rw [phase]
        exact fun _ impossible => nomatch impossible
      · rw [phase]
        exact fun _ => Bool.noConfusion
  · next existed deleted phase =>
    have fits := inv.fits phase
    split
    · cases deleted with
      | true => exact inv.commit_delete phase
      | false =>
        refine inv.own phase ⟨rfl,rfl,rfl⟩ ⟨own.staging,own.undeleted,own.token,own.lock⟩ rfl rfl rfl id ?_ rfl
        exact Call.Spent.fits ⟨rfl,rfl,rfl,rfl⟩ (fits.spent rfl) (fits.zeroed rfl)
    · exact inv.own phase ⟨rfl,rfl,rfl⟩ ⟨own.staging,own.undeleted,own.token,own.lock⟩ rfl rfl rfl id
        (spent_failing.fits (fits.spent rfl) (fits.zeroed rfl)) rfl
  · exact inv

theorem Inv.rollback_final_path (inv : Inv pair s) (deleted : Bool) (orderly : Orderly pair s (.rollback_final_path t deleted)) :
    Inv pair (rollback_final_path s t deleted) := by
  unfold DeptCredentials.rollback_final_path
  split
  · next entry before phase =>
    have fits := inv.fits phase
    have fresh : (s.call t).Stale = false := orderly
    have opens : (s.call t).opens = some (entry,before) := by rw [phase]; rfl
    have snapshot : entry.prior_final_snapshot = before := by simpa [phase,Call.Stale] using fresh
    subst snapshot
    have unchanged : decide (entry.prior_final_snapshot ≠ entry.prior_final_snapshot) = false := by simp
    rw [unchanged]
    have own := own_delete (c := .failing false) (own_refl (s := s) (t := t)) deleted
    refine inv.settle ⟨own.staging,own.undeleted,own.token,own.lock⟩ rfl ?_
      (fun u other => inv.others (by rw [opens]; exact Option.some_ne_none _) other) rfl ?_
    · exact spent_failing.fits (deleted_self (s := s) deleted) (fits.zeroed rfl)
    · refine fine_put (inv.fine _ (Or.inl ⟨t,entry,opens⟩)) ?_ ?_
      · rw [phase]
        exact fun _ impossible => nomatch impossible
      · rw [phase]
        exact fun _ => Bool.noConfusion
  · exact inv

omit [DecidableEq τ] in
theorem Inv.unused (inv : Inv pair s) (condition : s.final ≠ none → s.row = none ∧ ∀ u, (s.call u).opens = none) :
    s.row = none ∧ ∀ u, (s.call u).opens = none := by
  cases final : s.final with
  | some payload => exact condition (by rw [final]; exact Option.some_ne_none payload)
  | none =>
    -- without a payload there is no row and nothing promoted anyway
    have closed : ∀ u, (s.call u).opens = none := by
      intro u
      cases theirs : (s.call u).opens with
      | none => rfl
      | some promoted => exact absurd final ((inv.calls u).opened promoted.1 promoted.2 theirs).2
    have fine := inv.fine s.final (Or.inr ⟨closed,rfl⟩)
    rw [final] at fine
    cases row : s.row with
    | none => exact ⟨rfl,closed⟩
    | some row' =>
      rw [row] at fine
      exact fine.elim

theorem Inv.vault_delete (inv : Inv pair s) (ok : Bool) (orderly : Orderly pair s (.vault_delete t ok)) :
    Inv pair (vault_delete s t ok) := by
  unfold DeptCredentials.vault_delete
  split
  · next existed deleted phase =>
    have fits := inv.fits phase
    cases ok with
    | true =>
      obtain ⟨row,closed⟩ := inv.unused (orderly (by rw [phase]; rfl) rfl)
      refine inv.settle ⟨fun _ _ => rfl,fun _ _ => rfl,fun _ _ => rfl,fun _ _ held => held⟩ rfl ?_ (fun u _ => closed u) rfl ?_
      · exact Call.Spent.fits ⟨rfl,rfl,rfl,rfl⟩ (fits.spent rfl) (fits.zeroed rfl)
      · show Fine pair false _ s.row none
        rw [row]
        trivial
    | false =>
      refine inv.change ⟨fun _ _ => rfl,fun _ _ => rfl,fun _ _ => rfl,fun _ _ held => held⟩ rfl rfl rfl ?_ ?_ (by rw [phase]; rfl) ?_ ?_
      · intro left
        show (s.leftover || (deleted && s.row.isNone)) = true
        rw [left]
        rfl
      · exact Call.Spent.fits ⟨rfl,rfl,rfl,rfl⟩ (fits.spent rfl) (fits.zeroed rfl)
      · rw [phase]
        exact fun _ impossible => nomatch impossible
      · intro row deletes
        rw [phase] at deletes
        have gone : deleted = true := deletes
        refine Or.inl ?_
        show (s.leftover || (deleted && s.row.isNone)) = true
        rw [gone,row]
        exact Bool.or_true _
  · exact inv

theorem Inv.step (inv : Inv pair s) (a : Action τ) (orderly : Orderly pair s a) : Inv pair (step pair s a) := by
  cases a with
  | add_or_update t request staged => exact inv.add_or_update request staged orderly
  | probe t answer read deleted => exact inv.probe answer read deleted
  | connect t ok deleted => exact inv.connect ok deleted
  | select_department t answer => exact inv.select_department answer
  | row_exists t ok => exact inv.row_exists ok
  | upsert t ok => exact inv.upsert ok
  | promote_staging t read written deleted => exact inv.promote_staging read written deleted orderly
  | rollback t deleted => exact inv.rollback deleted
  | commit t ok => exact inv.commit ok
  | rollback_final_path t deleted => exact inv.rollback_final_path deleted orderly
  | audit t ok => exact inv.audit ok orderly
  | remove t => exact inv.start_remove
  | delete t ok => exact inv.delete ok
  | vault_delete t ok => exact inv.vault_delete ok orderly

/-! ### Runs -/

/-- Whatever the calls and the order of their steps, row and secret agree whenever no call is in
    progress, up to what the vault has failed to delete, where calls do not cross at the final path
    and no audit fails behind a change. -/
theorem credentials_agree (actions : List (Action τ)) (orderly : Admitted (DeptCredentials.step pair) (Orderly pair) .start actions)
    (n : Nat) : Kept pair ((actions.take n).foldl (DeptCredentials.step pair) .start) := by
  have always := admitted_always (I := Inv pair) (fun s a inv orderly => inv.step a orderly) actions .start inv_start orderly
  exact (always n).kept

end

/-- Where the vault has not failed to delete anything, row and secret agree. -/
theorem Accounted.agrees {τ : Type} {pair : Pair} {s : State τ} (accounted : Accounted pair s) (nothing : s.leftover = false)
    (deleted : ∀ t, s.undeleted t = false) (removed : ∀ t, s.call t ≠ .remove_raised true) : Agrees pair s where
  exists_ := by
    cases row : s.row with
    | some row' =>
      have there := accounted.exists_ (by rw [row]; rfl)
      rw [there]
      rfl
    | none =>
      cases final : s.final with
      | none => rfl
      | some payload =>
        rcases accounted.left (by rw [final]; rfl) with impossible | left
        · rw [row] at impossible
          cases impossible
        · rw [nothing] at left
          cases left
  same := accounted.same
  raised t := ⟨accounted.raised t,removed t⟩
  staging t := by
    by_contra staged
    have undeleted := accounted.staging t staged
    rw [deleted t] at undeleted
    cases undeleted
  zeroed := accounted.zeroed

def team : Pair := ⟨"team","jira"⟩

def request (username : String) : AddCredentialRequest := ⟨"https://jira.example",username,[116,111,107],none,none,none⟩

/-- A call up to its snapshot of the final path. -/
def begins (t : Fin 4) (username : String) : List (Action (Fin 4)) :=
  [.add_or_update t (request username) true,.probe t (.ok (some "account")) true true]

/-- Its transaction, up to the commit. -/
def promotes (t : Fin 4) : List (Action (Fin 4)) :=
  [.connect t true true,.select_department t .found,.row_exists t true,.upsert t true,.promote_staging t true true true]

def commits (t : Fin 4) : List (Action (Fin 4)) := [.commit t true,.audit t true,.audit t true]

/-- The database fails to commit. -/
def restores (t : Fin 4) : List (Action (Fin 4)) := [.commit t false,.rollback_final_path t true,.audit t true]

/-- A `remove`, whose vault may fail to delete. -/
def removes (t : Fin 4) (ok : Bool) : List (Action (Fin 4)) :=
  [.remove t,.select_department t .found,.row_exists t true,.delete t true,.commit t true,.vault_delete t ok,.audit t true]

theorem has_zero : 0 < 4 := by decide

theorem has_one : 1 < 4 := by decide

theorem has_two : 2 < 4 := by decide

/-- Two calls write the credential at once; the second, which fails to commit, takes its snapshot
    before the first has committed. Then the credential is removed. -/
def interleaved : List (Action (Fin 4)) :=
  [.add_or_update ⟨0,has_zero⟩ (request "first") true,.add_or_update ⟨1,has_one⟩ (request "second") true,
      .probe ⟨0,has_zero⟩ (.ok (some "account")) true true] ++
    promotes ⟨0,has_zero⟩ ++ [.probe ⟨1,has_one⟩ (.ok (some "account")) true true] ++ commits ⟨0,has_zero⟩ ++
    promotes ⟨1,has_one⟩ ++ restores ⟨1,has_one⟩ ++ removes ⟨2,has_two⟩ true

theorem credentials_agree_interleaved :
    Admitted (step team) (Orderly team) (.start : State (Fin 4)) interleaved ∧
      Kept team ((interleaved.take 27).foldl (step team) (.start : State (Fin 4))) := by
  have orderly : Admitted (step team) (Orderly team) (.start : State (Fin 4)) interleaved := by decide
  exact ⟨orderly,credentials_agree interleaved orderly 27⟩

/-- The row is removed, and the vault fails to delete the payload: the call raises, and leaves it. -/
theorem payload_left_behind :
    ¬∀ (actions : List (Action (Fin 4))) (n : Nat), (∀ t, (((actions.take n).foldl (step team) .start).call t).Done = true) →
      Agrees team ((actions.take n).foldl (step team) .start) := by
  intro always
  have agrees := always (begins 0 "first" ++ promotes 0 ++ commits 0 ++ removes 1 false) 17 (by decide)
  exact absurd agrees.exists_ (by decide)

end Automation.DeptCredentials
