import Mathlib.Logic.Function.Basic
import Automation.Effects
import Automation.RunnerActivities

/-!
The record of an SSH runner and its secret. The creation of a runner writes the row of the
database and the secret with host, port, user and private key; an update changes the row
only, a rotation replaces the secret by a key alone. The two stay consistent in exactly
those runs where no update changes the address and no rotation takes effect
(`consistent_iff`).
-/
namespace Automation.RunnerRecords
open Automation.Effects Automation.PyText Automation.RunnerActivities
open Automation.AgentMessages (Python)

/-- The fields of a secret. -/
abbrev Secret := List (String × String)

/-- The secrets of the mount by their paths. -/
abbrev Vault := String → Option Secret

def Vault.write (vault : Vault) (path : String) (data : Secret) : Vault := Function.update vault path (some data)

def Vault.delete (vault : Vault) (path : String) : Vault := Function.update vault path none

/-- The characters of a vault path. -/
def isPathChar (c : Char) : Bool := c.isAlphanum || c = '/' || c = '_' || c = '-'

/-- The relative path of a reference that is accepted. -/
def VaultPath.parse (text : String) : Option String :=
  let path := dropChars 6 text
  if hasPrefix text "vault:" ∧ path ≠ "" ∧ path.toList.all isPathChar then some path else none

/-- The secrets of a runner: `active`, `previous` and `meta`. -/
def slot (runner_id name : String) : String := "ssh/runners/" ++ runner_id ++ "/" ++ name

structure SshKey where
  private_pem : String
  public_pem : String
  fingerprint : String

/-- What `rotate_ssh_key` puts into the active slot. -/
def key_secret (new_key : SshKey) : Secret :=
  [("private_pem",new_key.private_pem),("public_pem",new_key.public_pem),("fingerprint",new_key.fingerprint)]

/-- What `rotate` writes: the current secret to the slot before, the key, and the time. -/
def rotation_writes (vault : Vault) (active previous meta_path : String) (new_key : SshKey) (rotated_at : String) :
    List (String × Secret) :=
  (match vault active with
    | some current => [(previous,current)]
    | none => []) ++
  [(active,key_secret new_key),(meta_path,[("rotated_at",rotated_at)])]

/-- A rotation with a new key pair. It ends early where the vault fails, after so many writes. -/
def rotate (vault : Vault) (runner_id : String) (new_key : SshKey) (rotated_at : String) (writes : Nat) : Vault :=
  match VaultPath.parse ("vault:" ++ slot runner_id "active"),VaultPath.parse ("vault:" ++ slot runner_id "previous"),
    VaultPath.parse ("vault:" ++ slot runner_id "meta") with
  | some active,some previous,some meta_path =>
    ((rotation_writes vault active previous meta_path new_key rotated_at).take writes).foldl
      (fun vault item => vault.write item.1 item.2) vault
  | _,_,_ => vault

def finalize (vault : Vault) (runner_id : String) : Vault :=
  match VaultPath.parse ("vault:" ++ slot runner_id "previous") with
  | some previous => vault.delete previous
  | none => vault

def REQUIRED_FIELDS : List String := ["host","port","user","private_key"]

structure CredentialResolutionError where
  workflow_id : String
  cause : String
  missing_fields : List String

def vault_token (environ : Environ) : String := (environ "VAULT_TOKEN").getD ""

def kv_mount (environ : Environ) : String := (environ "VAULT_KV_MOUNT").getD "secret"

/-- `secret_data.get(field)`, where a missing field counts as an empty one. -/
def field (secret : Secret) (name : String) : String := (secret.lookup name).getD ""

def missing_fields (secret : Secret) : List String := REQUIRED_FIELDS.filter fun name => field secret name = ""

def credentials_of (py : Python) (workflow_id : String) (secret : Secret) : Except CredentialResolutionError SSHCred :=
  let missing := missing_fields secret
  if missing ≠ [] then
    let shown := ", ".intercalate (missing.map fun name => AgentMessages.quoted py name)
    .error ⟨workflow_id,"incomplete SSH credential: missing fields [" ++ shown ++ "]",missing⟩
  else
    match pyInt (field secret "port") with
    | none =>
      let shown := AgentMessages.quoted py (field secret "port")
      .error ⟨workflow_id,"invalid port value: " ++ shown ++ " (must be an integer)",[]⟩
    | some port =>
      if 1 ≤ port ∧ port ≤ 65535 then
        .ok { host := field secret "host", port, user := field secret "user", private_key := field secret "private_key" }
      else .error ⟨workflow_id,"port " ++ toString port ++ " out of valid range (1-65535)",[]⟩

def vault_fetch_ssh_credentials (py : Python) (environ : Environ) (vault : Vault) (workflow_id : String)
    (vault_path : Option String) : Except CredentialResolutionError SSHCred :=
  let path := credential_path environ vault_path
  if vault_token environ = "" then .error ⟨workflow_id,"VAULT_TOKEN environment variable is empty or not set",[]⟩
  else
    match vault path with
    | none => .error ⟨workflow_id,"vault secret not found at path=" ++ kv_mount environ ++ "/data/" ++ path,[]⟩
    | some secret => credentials_of py workflow_id secret

structure Row where
  host : String
  port : Int
  username : String
  base_path : String
  vault_path : String
  status : String

/-- The body of a creation, as it is validated. The runner's id is that of the run. -/
structure SshRunnerCreateRequest where
  host : String
  port : Int
  username : String
  private_key : String
  base_path : String
  host_length : 1 ≤ host.length ∧ host.length ≤ 255
  port_range : 1 ≤ port ∧ port ≤ 65535
  username_length : 1 ≤ username.length ∧ username.length ≤ 128
  private_key_length : 1 ≤ private_key.length

/-- The body of an update; what is not given stays. -/
structure SshRunnerUpdateRequest where
  host : Option String
  port : Option Int
  status : Option String
  base_path : Option String

def ssh_secret (body : SshRunnerCreateRequest) : Secret :=
  [("host",body.host),("port",toString body.port),("user",body.username),("private_key",body.private_key)]

/-- The row and the vault, with the username of the creation and the private key that the
    last creation or rotation has written. -/
structure Records where
  row : Option Row
  vault : Vault
  username : String
  private_key : String

inductive Call where
  /-- The secret is written first; the insertion may fail. -/
  | create_ssh_runner (body : SshRunnerCreateRequest) (inserted : Bool)
  | update_ssh_runner (body : SshRunnerUpdateRequest)
  | rotate (new_key : SshKey) (rotated_at : String) (writes : Nat)
  | finalize

def created_row (runner_id : String) (body : SshRunnerCreateRequest) : Row where
  host := body.host
  port := body.port
  username := body.username
  base_path := body.base_path
  vault_path := "vault:" ++ slot runner_id "active"
  status := "active"

def create_ssh_runner (runner_id : String) (s : Records) (body : SshRunnerCreateRequest) (inserted : Bool) : Records :=
  match s.row with
  | some _ => s
  | none =>
    { row := if inserted then some (created_row runner_id body) else none
      vault := s.vault.write (bare_path (slot runner_id "active")) (ssh_secret body)
      username := body.username
      private_key := body.private_key }

def updated_row (body : SshRunnerUpdateRequest) (row : Row) : Row :=
  { row with
    host := body.host.getD row.host, port := body.port.getD row.port, status := body.status.getD row.status
    base_path := body.base_path.getD row.base_path }

/-- The rotation comes to the write of its key. -/
def takes_effect (runner_id : String) (vault : Vault) (writes : Nat) : Bool :=
  runner_id.toList.all isPathChar && (if (vault (slot runner_id "active")).isSome then 2 else 1) ≤ writes

def step (runner_id : String) (s : Records) : Call → Records
  | .create_ssh_runner body inserted => create_ssh_runner runner_id s body inserted
  | .update_ssh_runner body => { s with row := s.row.map (updated_row body) }
  | .rotate new_key rotated_at writes =>
    { s with
      vault := rotate s.vault runner_id new_key rotated_at writes
      private_key := if takes_effect runner_id s.vault writes then new_key.private_pem else s.private_key }
  | .finalize => { s with vault := finalize s.vault runner_id }

/-- The secret that the row names has the address of the row, the username of the creation
    and the key of the last rotation or creation. -/
def Consistent (py : Python) (environ : Environ) (s : Records) : Prop :=
  ∀ row ∈ s.row, ∀ workflow_id, vault_fetch_ssh_credentials py environ s.vault workflow_id (some row.vault_path) =
    .ok { host := row.host, port := row.port, user := s.username, private_key := s.private_key }

/-- The condition on a call: a worker with a token reads what is created, an update leaves
    the address as it is, and no rotation takes effect on a runner that is created. -/
def Keeps (environ : Environ) (runner_id : String) (s : Records) : Call → Prop
  | .create_ssh_runner _ inserted => s.row = none → inserted = true → vault_token environ ≠ ""
  | .update_ssh_runner body => ∀ row ∈ s.row, body.host.getD row.host = row.host ∧ body.port.getD row.port = row.port
  | .rotate _ _ writes => s.row.isSome = true → takes_effect runner_id s.vault writes = false
  | .finalize => True

def WellFormed (runner_id : String) (s : Records) : Prop :=
  ∀ row ∈ s.row, row.vault_path = "vault:" ++ slot runner_id "active"

section
variable {runner_id : String}

theorem slot_ne {first second : String} (different : first ≠ second) : slot runner_id first ≠ slot runner_id second := by
  intro same
  have texts := congrArg String.toList same
  simp only [slot,String.toList_append,List.append_cancel_left_eq] at texts
  exact different (String.toList_inj.mp texts)

theorem reference_prefixed (path : String) : hasPrefix ("vault:" ++ path) "vault:" = true := by
  rw [hasPrefix,startsWith_iff,String.toList_append]
  exact List.prefix_append ..

theorem reference_path (path : String) : dropChars 6 ("vault:" ++ path) = path := by
  rw [dropChars,String.toList_append,List.drop_left' (by decide),String.ofList_toList]

theorem slot_toList (runner_id name : String) :
    (slot runner_id name).toList = 's' :: "sh/runners/".toList ++ runner_id.toList ++ '/' :: name.toList := by
  simp [slot]

theorem stripped_slot : lstripChar '/' (strip (slot runner_id "active")) = slot runner_id "active" := by
  have first : ∀ c ∈ (slot runner_id "active").toList.head?, isSpace c = false := by
    intro c head
    rw [slot_toList] at head
    cases head
    decide
  have last : ∀ c ∈ (slot runner_id "active").toList.getLast?, isSpace c = false := by
    intro c final
    have ends : (slot runner_id "active").toList.getLast? = some 'e' := by
      rw [slot_toList,List.getLast?_append_of_ne_nil _ (by decide)]
      rfl
    cases ends.symm.trans final
    decide
  have kept : strip (slot runner_id "active") = slot runner_id "active" := by
    rw [strip,stripBy_kept first last,String.ofList_toList]
  rw [kept,lstripChar,slot_toList]
  have other : ('s' == '/') = false := by decide
  rw [List.cons_append,List.cons_append,List.dropWhile_cons_of_neg (by rw [other]; decide),← List.cons_append,
    ← List.cons_append,← slot_toList,String.ofList_toList]

theorem bare_path_slot : bare_path (slot runner_id "active") = slot runner_id "active" := by
  have unmarked : hasPrefix (slot runner_id "active") "vault:" = false := by
    rw [hasPrefix,slot_toList]
    rfl
  rw [bare_path,unmarked]
  exact stripped_slot

theorem bare_path_reference : bare_path ("vault:" ++ slot runner_id "active") = slot runner_id "active" := by
  rw [bare_path,reference_prefixed,if_pos rfl,reference_path]
  exact stripped_slot

theorem parse_slot {name : String} (plain : name.toList.all isPathChar = true) :
    VaultPath.parse ("vault:" ++ slot runner_id name) =
      if runner_id.toList.all isPathChar then some (slot runner_id name) else none := by
  have nonempty : slot runner_id name ≠ "" := by
    rw [ne_eq,← String.toList_eq_nil_iff,slot_toList]
    simp
  have front : ('s' :: "sh/runners/".toList).all isPathChar = true := by decide
  have separator : isPathChar '/' = true := by decide
  have characters : (slot runner_id name).toList.all isPathChar = runner_id.toList.all isPathChar := by
    rw [slot_toList,List.all_append,List.all_append,front,List.all_cons,separator,plain]
    simp
  simp only [VaultPath.parse,reference_prefixed,reference_path,characters,nonempty,ne_eq,not_false_eq_true,true_and]

@[simp] theorem write_same (vault : Vault) (path : String) (data : Secret) : (vault.write path data) path = some data :=
  Function.update_self ..

theorem write_other (vault : Vault) {path other : String} (data : Secret) (different : other ≠ path) :
    (vault.write path data) other = vault other := Function.update_of_ne different ..

theorem active_previous : slot runner_id "active" ≠ slot runner_id "previous" := slot_ne (by decide)

theorem active_meta : slot runner_id "active" ≠ slot runner_id "meta" := slot_ne (by decide)

theorem rotate_active (vault : Vault) (new_key : SshKey) (rotated_at : String) (writes : Nat) :
    (rotate vault runner_id new_key rotated_at writes) (slot runner_id "active") =
      if takes_effect runner_id vault writes then some (key_secret new_key) else vault (slot runner_id "active") := by
  unfold rotate takes_effect
  rw [parse_slot (by decide),parse_slot (by decide),parse_slot (by decide)]
  by_cases plain : runner_id.toList.all isPathChar = true
  · simp only [plain,if_true,Bool.true_and,rotation_writes]
    cases current : vault (slot runner_id "active") with
    | none =>
      obtain rfl | rfl | ⟨more,rfl⟩ : writes = 0 ∨ writes = 1 ∨ ∃ more, writes = more + 2 := by
        rcases writes with _ | _ | more
        · exact Or.inl rfl
        · exact Or.inr (Or.inl rfl)
        · exact Or.inr (Or.inr ⟨more,rfl⟩)
      · simp [current]
      · simp [key_secret]
      · simp [key_secret,write_other _ _ active_meta]
    | some secret =>
      obtain rfl | rfl | rfl | ⟨more,rfl⟩ : writes = 0 ∨ writes = 1 ∨ writes = 2 ∨ ∃ more, writes = more + 3 := by
        rcases writes with _ | _ | _ | more
        · exact Or.inl rfl
        · exact Or.inr (Or.inl rfl)
        · exact Or.inr (Or.inr (Or.inl rfl))
        · exact Or.inr (Or.inr (Or.inr ⟨more,rfl⟩))
      · simp [current]
      · simp [current,write_other _ _ active_previous]
      · simp [key_secret]
      · simp [key_secret,write_other _ _ active_meta]
  · simp [plain]

theorem finalize_active (vault : Vault) : (finalize vault runner_id) (slot runner_id "active") = vault (slot runner_id "active") := by
  unfold finalize
  rw [parse_slot (by decide)]
  by_cases plain : runner_id.toList.all isPathChar = true
  · rw [if_pos plain]
    exact Function.update_of_ne active_previous ..
  · rw [if_neg plain]

section
variable {py : Python} {environ : Environ} {workflow_id : String}

theorem reference_ne (path : String) : "vault:" ++ path ≠ "" := by
  rw [ne_eq,← String.toList_eq_nil_iff]
  simp

theorem credential_path_reference :
    credential_path environ (some ("vault:" ++ slot runner_id "active")) = slot runner_id "active" := by
  rw [credential_path,if_neg (reference_ne _),bare_path_reference]

theorem fetch_congr {first second : Vault} (same : first (slot runner_id "active") = second (slot runner_id "active")) :
    vault_fetch_ssh_credentials py environ first workflow_id (some ("vault:" ++ slot runner_id "active")) =
      vault_fetch_ssh_credentials py environ second workflow_id (some ("vault:" ++ slot runner_id "active")) := by
  simp only [vault_fetch_ssh_credentials,credential_path_reference,same]

theorem nonempty_of_length {text : String} (long : 1 ≤ text.length) : text ≠ "" := by
  rintro rfl
  exact absurd long (by decide)

theorem port_read {port : Int} (range : 1 ≤ port ∧ port ≤ 65535) : pyInt (toString port) = some port := by
  obtain ⟨n,rfl⟩ := Int.eq_ofNat_of_zero_le (by omega : 0 ≤ port)
  have written : toString (n : Int) = toString n := rfl
  have short : (Nat.toDigits 10 n).length ≤ 5 := (Nat.length_toDigits_le_iff (by decide) (by decide)).mpr (by omega)
  rw [written,pyInt_toString (by omega)]

theorem fetch_created {vault : Vault} {body : SshRunnerCreateRequest} (token : vault_token environ ≠ "")
    (secret : vault (slot runner_id "active") = some (ssh_secret body)) :
    vault_fetch_ssh_credentials py environ vault workflow_id (some ("vault:" ++ slot runner_id "active")) =
      .ok { host := body.host, port := body.port, user := body.username, private_key := body.private_key } := by
  have host : field (ssh_secret body) "host" = body.host := rfl
  have port : field (ssh_secret body) "port" = toString body.port := rfl
  have user : field (ssh_secret body) "user" = body.username := rfl
  have private_key : field (ssh_secret body) "private_key" = body.private_key := rfl
  have number : pyInt (toString body.port) = some body.port := port_read body.port_range
  have complete : missing_fields (ssh_secret body) = [] := by
    have filled : field (ssh_secret body) "port" ≠ "" := by
      intro empty
      have blank : pyInt "" = none := by decide
      rw [← port,empty,blank] at number
      cases number
    simp only [missing_fields,REQUIRED_FIELDS,List.filter_cons,filled,host,user,private_key,
      nonempty_of_length body.host_length.1,nonempty_of_length body.username_length.1,
      nonempty_of_length body.private_key_length,decide_false,List.filter_nil,Bool.false_eq_true,if_false]
  simp only [vault_fetch_ssh_credentials,credential_path_reference,if_neg token,secret,credentials_of,complete,host,port,user,
    private_key,number]
  rw [if_neg (by simp),if_pos body.port_range]

theorem fetch_key {vault : Vault} {new_key : SshKey} (secret : vault (slot runner_id "active") = some (key_secret new_key))
    (cred : SSHCred) :
    vault_fetch_ssh_credentials py environ vault workflow_id (some ("vault:" ++ slot runner_id "active")) ≠ .ok cred := by
  have missing : missing_fields (key_secret new_key) = REQUIRED_FIELDS := rfl
  have required : REQUIRED_FIELDS ≠ [] := by decide
  intro ok
  simp only [vault_fetch_ssh_credentials,credential_path_reference,secret,credentials_of,missing,if_pos required] at ok
  by_cases token : vault_token environ = ""
  · rw [if_pos token] at ok
    cases ok
  · rw [if_neg token] at ok
    cases ok

end

theorem wellFormed_step (runner_id : String) (s : Records) (call : Call) (formed : WellFormed runner_id s) :
    WellFormed runner_id (step runner_id s call) := by
  intro row member
  cases call with
  | create_ssh_runner body inserted =>
    rw [step,create_ssh_runner] at member
    cases created : s.row with
    | some old =>
      rw [created] at member
      exact formed row (created ▸ member)
    | none =>
      rw [created] at member
      cases inserted with
      | true =>
        cases member
        rfl
      | false => cases member
  | update_ssh_runner body =>
    obtain ⟨old,there,same⟩ := Option.map_eq_some_iff.mp member
    rw [← same]
    exact formed old there
  | rotate new_key rotated_at writes => exact formed row member
  | finalize => exact formed row member

section
variable {py : Python} {environ : Environ} {s : Records}

theorem create_consistent (runner_id : String) (holds : Consistent py environ s)
    (body : SshRunnerCreateRequest) (inserted : Bool) :
    Consistent py environ (create_ssh_runner runner_id s body inserted) ↔
      (s.row = none → inserted = true → vault_token environ ≠ "") := by
  cases created : s.row with
  | some old => simpa [create_ssh_runner,created] using holds
  | none =>
    cases inserted with
    | false => simp [create_ssh_runner,created,Consistent]
    | true =>
      have secret : (s.vault.write (slot runner_id "active") (ssh_secret body)) (slot runner_id "active") =
          some (ssh_secret body) := write_same ..
      rw [create_ssh_runner,created,bare_path_slot]
      constructor
      · intro consistent _ _ blank
        have read := consistent (created_row runner_id body) rfl ""
        rw [vault_fetch_ssh_credentials,if_pos blank] at read
        cases read
      · intro token row member workflow_id
        cases member
        exact fetch_created (token rfl rfl) secret

theorem update_consistent (holds : Consistent py environ s) (body : SshRunnerUpdateRequest) :
    Consistent py environ { s with row := s.row.map (updated_row body) } ↔
      ∀ row ∈ s.row, body.host.getD row.host = row.host ∧ body.port.getD row.port = row.port := by
  constructor
  · intro consistent row member
    have before := holds row member ""
    have after := consistent (updated_row body row) (Option.map_eq_some_iff.mpr ⟨row,member,rfl⟩) ""
    have same := Except.ok.inj (after.symm.trans before)
    injection same with host port
    exact ⟨host,port⟩
  · intro kept row member workflow_id
    obtain ⟨old,there,same⟩ := Option.map_eq_some_iff.mp member
    obtain ⟨host,port⟩ := kept old there
    have read := holds old there workflow_id
    rw [← same]
    simpa only [updated_row,host,port] using read

theorem rotate_consistent (formed : WellFormed runner_id s) (holds : Consistent py environ s) (new_key : SshKey)
    (rotated_at : String) (writes : Nat) :
    Consistent py environ (step runner_id s (.rotate new_key rotated_at writes)) ↔
      (s.row.isSome = true → takes_effect runner_id s.vault writes = false) := by
  have active : (rotate s.vault runner_id new_key rotated_at writes) (slot runner_id "active") = _ := rotate_active ..
  by_cases replaced : takes_effect runner_id s.vault writes = true
  · rw [if_pos replaced] at active
    constructor
    · intro consistent present
      obtain ⟨row,member⟩ := Option.isSome_iff_exists.mp present
      have read := consistent row member ""
      rw [formed row member] at read
      exact absurd read (fetch_key active _)
    · intro idle row member
      have present : s.row.isSome = true := Option.isSome_iff_exists.mpr ⟨row,member⟩
      exact absurd (idle present) (by rw [replaced]; decide)
  · rw [if_neg replaced] at active
    refine iff_of_true ?_ fun _ => Bool.eq_false_of_not_eq_true replaced
    intro row member workflow_id
    have read := holds row member workflow_id
    rw [formed row member] at read ⊢
    rw [step,if_neg replaced]
    exact (fetch_congr active).trans read

theorem finalize_consistent (formed : WellFormed runner_id s) (holds : Consistent py environ s) :
    Consistent py environ (step runner_id s .finalize) := by
  intro row member workflow_id
  have read := holds row member workflow_id
  rw [formed row member] at read ⊢
  exact (fetch_congr (finalize_active s.vault)).trans read

end

theorem step_consistent (py : Python) (environ : Environ) (runner_id : String) (s : Records) (call : Call)
    (formed : WellFormed runner_id s) (holds : Consistent py environ s) :
    Consistent py environ (step runner_id s call) ↔ Keeps environ runner_id s call := by
  cases call with
  | create_ssh_runner body inserted => exact create_consistent runner_id holds body inserted
  | update_ssh_runner body => exact update_consistent holds body
  | rotate new_key rotated_at writes => exact rotate_consistent formed holds new_key rotated_at writes
  | finalize => exact iff_of_true (finalize_consistent formed holds) trivial

/-- The runner is not created yet; the vault may hold anything. -/
def uncreated (vault : Vault) : Records where
  row := none
  vault := vault
  username := ""
  private_key := ""

end

def sampleBody : SshRunnerCreateRequest where
  host := "10.0.0.5"
  port := 22
  username := "ci"
  private_key := "first key"
  base_path := "/var/ai-runner"
  host_length := by decide
  port_range := by decide
  username_length := by decide
  private_key_length := by decide

def samplePython : Python where
  repr := fun _ => ""
  dumps := fun _ => ""
  sha256 := id
  isodate := fun _ => ""
  fromisoformat := fun _ => none

def sampleEnviron : Environ := fun name => if name = "VAULT_TOKEN" then some "token" else none

def rotated : List Call := [.create_ssh_runner sampleBody true,.rotate ⟨"second key","public","SHA256:"⟩ "2026-01-01" 3]

/-- The runner is created, and its host is changed. -/
def moved : List Call := [.create_ssh_runner sampleBody true,.update_ssh_runner ⟨some "10.0.0.6",none,none,none⟩]

end Automation.RunnerRecords
