import Mathlib.Data.List.DropRight
import Mathlib.Logic.Function.Basic
import Automation.ExecutionRun

/-!
Containers on one host. `docker_run_container` learns the id of its container after the
fact, from `docker ps -lq`, which names the container created last on the whole host. A
run of the host interleaves the steps of any number of chains with containers that others
create and remove. A chain removes its own containers only, and under `always` all of
them, in every run where its queries are answered while its own container is the newest
one, and where no attempt ends without a query of its own container (`own_containers`).
-/
namespace Automation.DockerHost
open Automation.Effects Automation.PyText Automation.RunnerActivities Automation.ExecutionRun
open Automation.AgentMessages (Failure)

/-- The container that `docker rm -f` gets. -/
def removed_container (input : DockerCleanupInput) : Option String :=
  if should_perform_cleanup input.policy input.task_succeeded = true ∧ input.container_id ≠ "" then some input.container_id
  else none

structure ChainInput where
  run : DockerRunInput
  cred : SSHCred
  policy : String
  image_id : Option String

def cleanup_input (input : ChainInput) (answer : Except Failure DockerRunResult) : DockerCleanupInput where
  container_id := known_container answer
  image_id := input.image_id
  policy := input.policy
  task_succeeded := succeeded answer
  workflow_id := input.run.workflow_id
  runner_id := input.run.runner_id
  vault_path := input.run.vault_path

theorem container_calls_cleanup (w : Outside) (inp : ExecutionRunWorkflowInput) (command : String)
    (runner_id vault_path : Option String) (build_result : DockerBuildResult) (cred : SSHCred) :
    container_calls w inp command runner_id vault_path build_result =
      [daemon_call inp runner_id vault_path,build_call inp runner_id vault_path,
        .docker_run_container (docker_run_input inp command runner_id vault_path),
        .docker_cleanup_container (cleanup_input
          ⟨docker_run_input inp command runner_id vault_path,cred,container_policy inp,build_result.image_id⟩
          (container_answer w inp command runner_id vault_path))] := rfl

/-- An attempt runs its command, which may have created a container; its command has
    exited, and the query is next; the activity has ended; the cleanup is over. -/
inductive Phase where
  | running (attempt : Nat) (created : Option String)
  | exited (attempt : Nat) (created : Option String) (result : RunResult)
  | concluded (answer : Except Failure DockerRunResult)
  | cleaned

/-- A chain with all that its commands have created, and all that it has had removed. -/
structure Chain where
  phase : Phase
  owned : List String
  targets : List String

/-- The containers of the host, the newest first, and every container it ever had. -/
structure Host (κ : Type) where
  existing : List String
  ever : List String
  chain : κ → Chain

/-- How a session for the query ends: it names the container created last, or it breaks. -/
inductive Query where
  | answered
  | broken (remote : Remote)

inductive Action (κ : Type) where
  | create (k : κ) (id : String)
  | finish (k : κ) (remote : Remote)
  | query (k : κ) (reply : Query) (log_stored : Bool) (timestamp : Nat)
  | no_credentials (k : κ) (failure : Failure)
  | lose (k : κ) (failure : Failure)
  | cleanup (k : κ) (reached : Bool)
  | other_create (id : String)
  | other_remove (id : String)

/-- A container's id is hexadecimal. -/
def isContainerId (id : String) : Bool := id ≠ "" && id.toList.all fun c => c.isDigit || ('a' ≤ c && c ≤ 'f')

/-- What `docker ps -lq` prints. -/
def latest (existing : List String) : String :=
  match existing with
  | [] => ""
  | id :: _ => id ++ "\n"

/-- An attempt that raises is followed by another, up to the third. -/
def conclude (attempt : Nat) (answer : Except Failure DockerRunResult) : Phase :=
  match answer with
  | .ok _ => .concluded answer
  | .error _ => if attempt < 3 then .running (attempt + 1) none else .concluded answer

/-- The attempts of a chain go on as those of the activity, and end with its answer. -/
theorem conclude_retried (attempts : Nat → Except Failure DockerRunResult) :
    ∃ last, conclude (last + 1) (attempts last) = .concluded (retried attempts) ∧
      ∀ i < last, conclude (i + 1) (attempts i) = .running (i + 2) none := by
  cases first : attempts 0 with
  | ok result =>
    refine ⟨0,?_,fun i before => absurd before (Nat.not_lt_zero i)⟩
    simp [retried,lastAttempt,conclude,first,Except.isOk,Except.toBool]
  | error failure =>
    cases second : attempts 1 with
    | ok result =>
      refine ⟨1,?_,?_⟩
      · simp [retried,lastAttempt,conclude,first,second,Except.isOk,Except.toBool]
      · intro i before
        have zero : i = 0 := by omega
        simp [zero,first,conclude]
    | error again =>
      refine ⟨2,?_,?_⟩
      · simp only [retried,lastAttempt,first,second,Except.isOk,Except.toBool,Bool.not_false,if_true]
        cases attempts 2 with
        | ok result => rfl
        | error final => rfl
      · intro i before
        obtain zero | one : i = 0 ∨ i = 1 := by omega
        · simp [zero,first,conclude]
        · simp [one,second,conclude]

/-- The command has been sent. -/
def is_connected : Remote → Bool
  | .interrupted _ => true
  | .exited _ _ _ => true
  | _ => false

/-- The command has exited with code 0. -/
def exits_zero : Remote → Bool
  | .exited _ _ exit_code => exit_code = 0
  | _ => false

/-- The session of a command that has exited. -/
def ended (result : RunResult) : Remote := .exited result.stdout result.stderr result.exit_code

/-- A query that breaks prints nothing that counts. -/
def Query.fits : Query → Bool
  | .answered => true
  | .broken remote => !exits_zero remote

/-- What the query prints, or how it breaks. -/
def Query.remote (existing : List String) : Query → Remote
  | .answered => .exited (latest existing) "" 0
  | .broken remote => remote

/-- The container that the current attempt has created. -/
def Phase.created : Phase → Option String
  | .running _ created => created
  | .exited _ created _ => created
  | _ => none

/-- The command that has exited and is not yet queried for. -/
def Phase.result : Phase → Option RunResult
  | .exited _ _ result => some result
  | _ => none

/-- The end that the cleanup is to be for. -/
def Phase.answer : Phase → Option (Except Failure DockerRunResult)
  | .concluded answer => some answer
  | _ => none

section
variable {κ : Type} [DecidableEq κ] (inputs : κ → ChainInput)

def Host.push (s : Host κ) (id : String) : Host κ := { s with existing := id :: s.existing, ever := id :: s.ever }

def Host.remove (s : Host κ) (id : String) : Host κ := { s with existing := s.existing.filter fun other => other ≠ id }

def Host.set (s : Host κ) (k : κ) (c : Chain) : Host κ := { s with chain := Function.update s.chain k c }

def Host.move (s : Host κ) (k : κ) (phase : Phase) : Host κ := s.set k { s.chain k with phase }

def Host.fresh (s : Host κ) (id : String) : Bool := isContainerId id && !s.ever.contains id

/-- The session of an attempt, as `docker_run_container` meets it. -/
def session (k : κ) (remote query : Remote) (log_stored : Bool) (timestamp : Nat) : DockerSession where
  credentials := .ok (inputs k).cred
  remote := remote
  query := query
  log_stored := log_stored
  timestamp := timestamp

def after_command (k : κ) (attempt : Nat) (created : Option String) : Remote → Phase
  | .exited stdout stderr exit_code => .exited attempt created { stdout, stderr, exit_code }
  | remote => conclude attempt (docker_run_container (inputs k).run (session inputs k remote remote false 0))

/-- Where the cleanup leaves the host. -/
def clean (s : Host κ) (k : κ) (reached : Bool) : Option String → Host κ
  | none => s.move k .cleaned
  | some id =>
    (if reached then s.remove id else s).set k { s.chain k with phase := .cleaned, targets := id :: (s.chain k).targets }

/-- One step on the host. A step that does not fit the state does nothing. -/
def step (s : Host κ) : Action κ → Host κ
  | .create k id =>
    match (s.chain k).phase with
    | .running attempt none =>
      if s.fresh id then
        (s.push id).set k { s.chain k with phase := .running attempt (some id), owned := id :: (s.chain k).owned }
      else s
    | _ => s
  | .finish k remote =>
    match (s.chain k).phase with
    | .running attempt created =>
      -- a container is created over a connection only
      if created.isNone || is_connected remote then s.move k (after_command inputs k attempt created remote) else s
    | _ => s
  | .query k reply log_stored timestamp =>
    match (s.chain k).phase with
    | .exited attempt _ result =>
      if reply.fits then
        s.move k (conclude attempt (docker_run_container (inputs k).run
          (session inputs k (ended result) (reply.remote s.existing) log_stored timestamp)))
      else s
    | _ => s
  | .no_credentials k failure =>
    match (s.chain k).phase with
    | .running attempt none =>
      s.move k (conclude attempt (.ok (no_container ("SSH credential fetch failed: " ++ failure.message))))
    | _ => s
  | .lose k failure =>
    match (s.chain k).phase with
    | .running attempt _ => s.move k (conclude attempt (.error failure))
    | .exited attempt _ _ => s.move k (conclude attempt (.error failure))
    | _ => s
  | .cleanup k reached =>
    match (s.chain k).phase with
    | .concluded answer => clean s k reached (removed_container (cleanup_input (inputs k) answer))
    | _ => s
  | .other_create id => if s.fresh id then s.push id else s
  | .other_remove id => s.remove id

/-- Under `always`, the attempt has left nothing on the host. -/
def NothingLeft (s : Host κ) (k : κ) : Prop :=
  (inputs k).policy = "always" → ∀ id ∈ (s.chain k).phase.created, id ∉ s.existing

/-- Where the container is to be removed, the newest container of the host is the one
    that the attempt has created. -/
def NewestIsOwn (s : Host κ) (k : κ) : Prop :=
  ∀ result ∈ (s.chain k).phase.result, should_perform_cleanup (inputs k).policy (exits_zero (ended result)) = true →
    ∀ newest ∈ s.existing.head?, (s.chain k).phase.created = some newest

/-- Under `always`, the cleanup has a session if there is something to remove. -/
def CleanupReaches (s : Host κ) (k : κ) (reached : Bool) : Prop :=
  ∀ answer ∈ (s.chain k).phase.answer, reached = false → (inputs k).policy = "always" →
    ∀ id ∈ removed_container (cleanup_input (inputs k) answer), id ∉ s.existing

/-- The condition on the step to come. -/
def Orderly (s : Host κ) : Action κ → Prop
  | .finish _ (.exited _ _ _) => True
  | .finish k _ => NothingLeft inputs s k
  | .query k .answered _ _ => NewestIsOwn inputs s k
  | .query k (.broken _) _ _ => NothingLeft inputs s k
  | .lose k _ => NothingLeft inputs s k
  | .cleanup k reached => CleanupReaches inputs s k reached
  | .create _ _ => True
  | .no_credentials _ _ => True
  | .other_create _ => True
  | .other_remove _ => True

instance (s : Host κ) (k : κ) : Decidable (NothingLeft inputs s k) := inferInstanceAs (Decidable (_ → ∀ _ ∈ _,_))

instance (s : Host κ) (k : κ) : Decidable (NewestIsOwn inputs s k) := inferInstanceAs (Decidable (∀ _ ∈ _,_))

instance (s : Host κ) (k : κ) (reached : Bool) : Decidable (CleanupReaches inputs s k reached) :=
  inferInstanceAs (Decidable (∀ _ ∈ _,_))

instance (s : Host κ) : (a : Action κ) → Decidable (Orderly inputs s a)
  | .finish _ (.exited _ _ _) => isTrue trivial
  | .finish k (.unparsable_key _) => inferInstanceAs (Decidable (NothingLeft inputs s k))
  | .finish k (.not_connected _) => inferInstanceAs (Decidable (NothingLeft inputs s k))
  | .finish k (.interrupted _) => inferInstanceAs (Decidable (NothingLeft inputs s k))
  | .query k .answered _ _ => inferInstanceAs (Decidable (NewestIsOwn inputs s k))
  | .query k (.broken _) _ _ => inferInstanceAs (Decidable (NothingLeft inputs s k))
  | .lose k _ => inferInstanceAs (Decidable (NothingLeft inputs s k))
  | .cleanup k reached => inferInstanceAs (Decidable (CleanupReaches inputs s k reached))
  | .create _ _ => isTrue trivial
  | .no_credentials _ _ => isTrue trivial
  | .other_create _ => isTrue trivial
  | .other_remove _ => isTrue trivial

end

theorem isSpace_hex {c : Char} (hex : (c.isDigit || ('a' ≤ c && c ≤ 'f')) = true) : isSpace c = false := by
  have bounds : 48 ≤ c.toNat ∧ c.toNat ≤ 102 := by
    simp only [Char.isDigit,Bool.or_eq_true,Bool.and_eq_true,decide_eq_true_eq] at hex
    rcases hex with ⟨low,high⟩ | ⟨low,high⟩
    · have digit : c.toNat ≤ 57 := UInt32.le_iff_toNat_le.mp high
      exact ⟨UInt32.le_iff_toNat_le.mp low,by omega⟩
    · have letter : 97 ≤ c.toNat := UInt32.le_iff_toNat_le.mp low
      exact ⟨by omega,UInt32.le_iff_toNat_le.mp high⟩
  simp only [isSpace,List.mem_cons,List.not_mem_nil,or_false,decide_eq_false_iff_not]
  omega

theorem strip_latest {id : String} (container : isContainerId id = true) (others : List String) :
    strip (latest (id :: others)) = id := by
  simp only [isContainerId,Bool.and_eq_true,List.all_eq_true] at container
  exact strip_line fun c member => isSpace_hex (container.2 c member)

section
variable {input : DockerRunInput} {s : DockerSession}

theorem unfinished (cut : ∀ stdout stderr exit_code, s.remote ≠ .exited stdout stderr exit_code) :
    known_container (docker_run_container input s) = "" := by
  unfold docker_run_container
  cases s.credentials with
  | error exc => rfl
  | ok cred =>
    cases remote : s.remote with
    | exited stdout stderr exit_code => exact absurd remote (cut stdout stderr exit_code)
    | unparsable_key message => rfl
    | not_connected error => rfl
    | interrupted error => rfl

theorem unqueried (broken : exits_zero s.query = false) : known_container (docker_run_container input s) = "" := by
  have unnamed : ∀ name, queried_container (ssh_exec 30 s.query) = .ok name → name = "" := by
    intro name queried
    cases query : s.query with
    | exited stdout stderr exit_code =>
      have nonzero : exit_code ≠ 0 := by
        rw [query] at broken
        exact of_decide_eq_false broken
      simp only [query,ssh_exec,queried_container,if_neg nonzero] at queried
      cases queried
      rfl
    | unparsable_key message => rw [query] at queried; cases queried; rfl
    | not_connected error => rw [query] at queried; cases queried
    | interrupted error => rw [query] at queried; cases queried; rfl
  unfold docker_run_container
  cases s.credentials with
  | error exc => rfl
  | ok cred =>
    dsimp only
    cases ssh_exec (docker_remote_command input).timeout_seconds s.remote with
    | error failed => cases failed <;> rfl
    | ok result =>
      dsimp only
      cases queried : queried_container (ssh_exec 30 s.query) with
      | error failure => rfl
      | ok name => exact unnamed name queried

/-- The answer of a command and a query that both end. -/
theorem queried (input : DockerRunInput) {stdout stderr text : String} {exit_code : Int} {cred : SSHCred}
    (reached : s.credentials = .ok cred) (exited : s.remote = .exited stdout stderr exit_code) (named : s.query = .exited text "" 0) :
    known_container (docker_run_container input s) = strip text ∧
      succeeded (docker_run_container input s) = exits_zero s.remote := by
  unfold docker_run_container
  rw [reached,exited,named]
  exact ⟨rfl,rfl⟩

end

/-- The container that a chain removes if nothing else happens to it. -/
def claimed (input : ChainInput) : Phase → Option String
  | .concluded answer => removed_container (cleanup_input input answer)
  | phase => phase.created

/-- A chain claims its own containers only, and under `always` all those on the host. -/
structure Keeps (input : ChainInput) (existing : List String) (c : Chain) : Prop where
  removed : ∀ id ∈ c.targets, id ∈ c.owned
  own : ∀ id, claimed input c.phase = some id → id ∈ c.owned
  all : input.policy = "always" → ∀ id ∈ c.owned, id ∈ existing → claimed input c.phase = some id

theorem removed_unknown {input : ChainInput} {answer : Except Failure DockerRunResult} (unknown : known_container answer = "") :
    removed_container (cleanup_input input answer) = none := by
  rw [removed_container,if_neg]
  rintro ⟨-,known⟩
  exact known unknown

theorem removed_known {input : ChainInput} {answer : Except Failure DockerRunResult} {id : String}
    (removed : removed_container (cleanup_input input answer) = some id) :
    should_perform_cleanup input.policy (succeeded answer) = true ∧ id = known_container answer := by
  unfold removed_container at removed
  split at removed
  · rename_i decided
    exact ⟨decided.1,(Option.some.inj removed).symm⟩
  · cases removed

theorem claimed_conclude (input : ChainInput) (attempt : Nat) (answer : Except Failure DockerRunResult) :
    claimed input (conclude attempt answer) = removed_container (cleanup_input input answer) := by
  cases answer with
  | ok result => rfl
  | error failure =>
    have unknown : removed_container (cleanup_input input (.error failure)) = none := removed_unknown rfl
    unfold conclude
    by_cases more : attempt < 3
    · simp only [if_pos more,unknown]
      rfl
    · simp only [if_neg more]
      rfl

section
variable {input : ChainInput} {existing : List String} {c : Chain}

theorem Keeps.unclaimed {phase : Phase} (keeps : Keeps input existing c) (nothing : claimed input phase = none)
    (left : input.policy = "always" → ∀ id, claimed input c.phase = some id → id ∉ existing) :
    Keeps input existing { c with phase } where
  removed := keeps.removed
  own := fun id claims => by rw [nothing] at claims; cases claims
  all := fun always id owns exists_still => absurd exists_still (left always id (keeps.all always id owns exists_still))

/-- A chain that goes on with its claim, or with none that is on the host. -/
theorem Keeps.same {phase : Phase} (keeps : Keeps input existing c) (same : claimed input phase = claimed input c.phase) :
    Keeps input existing { c with phase } where
  removed := keeps.removed
  own := fun id claims => keeps.own id (same ▸ claims)
  all := fun always id owns exists_still => same ▸ keeps.all always id owns exists_still

/-- What is on the host has only grown by what is not the chain's. -/
theorem Keeps.fewer {others : List String} (keeps : Keeps input existing c)
    (fewer : ∀ id ∈ c.owned, id ∈ others → id ∈ existing) : Keeps input others c where
  removed := keeps.removed
  own := keeps.own
  all := fun always id owns exists_now => keeps.all always id owns (fewer id owns exists_now)

/-- A container that the chain creates. -/
theorem Keeps.create {attempt : Nat} {id : String} (keeps : Keeps input existing c) (idle : claimed input c.phase = none) :
    Keeps input (id :: existing) { c with phase := .running attempt (some id), owned := id :: c.owned } where
  removed := fun other member => List.mem_cons_of_mem _ (keeps.removed other member)
  own := fun other claims => by
    cases claims
    exact List.mem_cons_self
  all := fun always other owns exists_now => by
    by_cases same : other = id
    · rw [same]
      rfl
    · have old : other ∈ c.owned := (List.mem_cons.mp owns).resolve_left same
      have there : other ∈ existing := (List.mem_cons.mp exists_now).resolve_left same
      have claims := keeps.all always other old there
      rw [idle] at claims
      cases claims

theorem Keeps.clean {id : String} {others : List String} (keeps : Keeps input existing c) (claims : claimed input c.phase = some id)
    (fewer : ∀ other ∈ others, other ∈ existing) (gone : input.policy = "always" → id ∉ others) :
    Keeps input others { c with phase := .cleaned, targets := id :: c.targets } where
  removed := fun other member => by
    rcases List.mem_cons.mp member with same | old
    · exact same ▸ keeps.own id claims
    · exact keeps.removed other old
  own := fun other impossible => by cases impossible
  all := fun always other owns exists_now => by
    have also := keeps.all always other owns (fewer other exists_now)
    have same : id = other := Option.some.inj (claims.symm.trans also)
    exact absurd (same ▸ exists_now) (gone always)

end

section
variable {κ : Type} {inputs : κ → ChainInput} {s : Host κ}

structure Invariant (inputs : κ → ChainInput) (s : Host κ) : Prop where
  ids : ∀ id ∈ s.existing, isContainerId id = true
  known : ∀ k, ∀ id ∈ (s.chain k).owned, id ∈ s.ever
  apart : ∀ j k id, id ∈ (s.chain j).owned → id ∈ (s.chain k).owned → j = k
  keeps : ∀ k, Keeps (inputs k) s.existing (s.chain k)

theorem fresh_iff (id : String) : s.fresh id = true ↔ isContainerId id = true ∧ id ∉ s.ever := by
  simp [Host.fresh]

theorem Invariant.not_owned {id : String} (inv : Invariant inputs s) (fresh : s.fresh id = true) (k : κ) : id ∉ (s.chain k).owned :=
  fun owns => ((fresh_iff id).mp fresh).2 (inv.known k id owns)

theorem Invariant.push {id : String} (inv : Invariant inputs s) (fresh : s.fresh id = true) : Invariant inputs (s.push id) where
  ids := fun other member => by
    rcases List.mem_cons.mp member with same | old
    · exact same ▸ ((fresh_iff id).mp fresh).1
    · exact inv.ids other old
  known := fun k other owns => List.mem_cons_of_mem _ (inv.known k other owns)
  apart := inv.apart
  keeps := fun k => (inv.keeps k).fewer fun other owns exists_now => by
    rcases List.mem_cons.mp exists_now with same | old
    · exact absurd (same ▸ owns) (inv.not_owned fresh k)
    · exact old

theorem Invariant.remove (inv : Invariant inputs s) (id : String) : Invariant inputs (s.remove id) where
  ids := fun other member => inv.ids other (List.mem_of_mem_filter member)
  known := inv.known
  apart := inv.apart
  keeps := fun k => (inv.keeps k).fewer fun _ _ exists_now => List.mem_of_mem_filter exists_now

variable [DecidableEq κ]

@[simp] theorem set_same (k : κ) (c : Chain) : (s.set k c).chain k = c := Function.update_self ..

theorem set_other {j k : κ} (c : Chain) (other : j ≠ k) : (s.set k c).chain j = s.chain j := Function.update_of_ne other ..

theorem set_owned {k : κ} {c : Chain} (same : c.owned = (s.chain k).owned) (j : κ) :
    ((s.set k c).chain j).owned = (s.chain j).owned := by
  by_cases here : j = k
  · rw [here,set_same,same]
  · rw [set_other c here]

theorem Invariant.set {k : κ} {c : Chain} (inv : Invariant inputs s) (same : c.owned = (s.chain k).owned)
    (keeps : Keeps (inputs k) s.existing c) : Invariant inputs (s.set k c) where
  ids := inv.ids
  known := fun j id owns => inv.known j id (set_owned same j ▸ owns)
  apart := fun i j id first second => inv.apart i j id (set_owned same i ▸ first) (set_owned same j ▸ second)
  keeps := fun j => by
    by_cases here : j = k
    · rw [here,set_same]
      exact keeps
    · rw [set_other c here]
      exact inv.keeps j

theorem Invariant.move {k : κ} {phase : Phase} (inv : Invariant inputs s)
    (keeps : Keeps (inputs k) s.existing { s.chain k with phase }) : Invariant inputs (s.move k phase) :=
  inv.set rfl keeps

theorem Invariant.create {k : κ} {attempt : Nat} {id : String} (inv : Invariant inputs s) (fresh : s.fresh id = true)
    (idle : claimed (inputs k) (s.chain k).phase = none) :
    Invariant inputs ((s.push id).set k { s.chain k with phase := .running attempt (some id), owned := id :: (s.chain k).owned }) := by
  have pushed := inv.push fresh
  have owned : ∀ j other, other ∈ (((s.push id).set k { s.chain k with phase := .running attempt (some id), owned := id :: (s.chain k).owned }).chain j).owned →
      j = k ∧ other = id ∨ other ∈ (s.chain j).owned := by
    intro j other owns
    by_cases here : j = k
    · rw [here,set_same] at owns
      rcases List.mem_cons.mp owns with same | old
      · exact Or.inl ⟨here,same⟩
      · exact Or.inr (here ▸ old)
    · rw [set_other _ here] at owns
      exact Or.inr owns
  refine ⟨pushed.ids,?_,?_,?_⟩
  · intro j other owns
    rcases owned j other owns with ⟨_,same⟩ | old
    · exact same ▸ List.mem_cons_self
    · exact pushed.known j other old
  · intro i j other first second
    rcases owned i other first with ⟨here,same⟩ | old
    · rcases owned j other second with ⟨there,_⟩ | other_old
      · rw [here,there]
      · exact absurd (same ▸ other_old) (inv.not_owned fresh j)
    · rcases owned j other second with ⟨_,same⟩ | other_old
      · exact absurd (same ▸ old) (inv.not_owned fresh i)
      · exact inv.apart i j other old other_old
  · intro j
    by_cases here : j = k
    · rw [here,set_same]
      exact (inv.keeps k).create idle
    · rw [set_other _ here]
      exact pushed.keeps j

theorem Invariant.abandon {k : κ} (attempt : Nat) {answer : Except Failure DockerRunResult} (inv : Invariant inputs s)
    (left : NothingLeft inputs s k) (attempting : claimed (inputs k) (s.chain k).phase = (s.chain k).phase.created)
    (unknown : known_container answer = "") : Invariant inputs (s.move k (conclude attempt answer)) := by
  have nothing : claimed (inputs k) (conclude attempt answer) = none := by
    rw [claimed_conclude,removed_unknown unknown]
  refine inv.move ((inv.keeps k).unclaimed nothing ?_)
  intro always id claims
  exact left always id (attempting ▸ claims)

theorem keep_create (inv : Invariant inputs s) (k : κ) (id : String) : Invariant inputs (step inputs s (.create k id)) := by
  rw [step]
  cases phase : (s.chain k).phase with
  | running attempt created =>
    cases created with
    | none =>
      by_cases fresh : s.fresh id = true
      · simp only [fresh,if_true]
        exact inv.create fresh (by rw [phase]; rfl)
      · simp only [fresh]
        exact inv
    | some other => exact inv
  | exited attempt created result => exact inv
  | concluded answer => exact inv
  | cleaned => exact inv

theorem keep_finish (inv : Invariant inputs s) (k : κ) (remote : Remote) (orderly : Orderly inputs s (.finish k remote)) :
    Invariant inputs (step inputs s (.finish k remote)) := by
  rw [step]
  cases phase : (s.chain k).phase with
  | running attempt created =>
    by_cases fits : (created.isNone || is_connected remote) = true
    · simp only [fits,if_true]
      have attempting : claimed (inputs k) (s.chain k).phase = (s.chain k).phase.created := by rw [phase]; rfl
      have unknown : ∀ cut : Remote, (∀ stdout stderr exit_code, cut ≠ .exited stdout stderr exit_code) →
          known_container (docker_run_container (inputs k).run (session inputs k cut cut false 0)) = "" :=
        fun _ cut => unfinished cut
      cases remote with
      | exited stdout stderr exit_code => exact inv.move ((inv.keeps k).same (by rw [phase]; rfl))
      | unparsable_key message => exact inv.abandon attempt orderly attempting (unknown (.unparsable_key message) (by rintro _ _ _ ⟨⟩))
      | not_connected error => exact inv.abandon attempt orderly attempting (unknown (.not_connected error) (by rintro _ _ _ ⟨⟩))
      | interrupted error => exact inv.abandon attempt orderly attempting (unknown (.interrupted error) (by rintro _ _ _ ⟨⟩))
    · simp only [fits]
      exact inv
  | exited attempt created result => exact inv
  | concluded answer => exact inv
  | cleaned => exact inv

theorem keep_answered (inv : Invariant inputs s) {k : κ} {attempt : Nat} {created : Option String} {result : RunResult}
    (phase : (s.chain k).phase = .exited attempt created result) (own : NewestIsOwn inputs s k) (log_stored : Bool) (timestamp : Nat) :
    Invariant inputs (s.move k (conclude attempt (docker_run_container (inputs k).run
      (session inputs k (ended result) (.exited (latest s.existing) "" 0) log_stored timestamp)))) := by
  have keeps := inv.keeps k
  have claims : claimed (inputs k) (s.chain k).phase = created := by rw [phase]; rfl
  rw [NewestIsOwn,phase] at own
  replace own := own result rfl
  obtain ⟨named,decided⟩ := queried (inputs k).run
    (s := session inputs k (ended result) (.exited (latest s.existing) "" 0) log_stored timestamp) rfl rfl rfl
  generalize docker_run_container (inputs k).run _ = answer at *
  cases existing : s.existing with
  | nil =>
    have unknown : known_container answer = "" := by rw [named,existing]; decide
    refine inv.move (keeps.unclaimed (by rw [claimed_conclude,removed_unknown unknown]) ?_)
    intro _ id _ there
    rw [existing] at there
    cases there
  | cons newest others =>
    have container := inv.ids newest (by rw [existing]; exact List.mem_cons_self)
    have known : known_container answer = newest := by rw [named,existing,strip_latest container]
    refine inv.move ⟨keeps.removed,?_,?_⟩
    · intro id removed
      rw [claimed_conclude] at removed
      obtain ⟨performed,same⟩ := removed_known removed
      rw [decided] at performed
      have mine : created = some newest := own performed newest (by rw [existing]; rfl)
      rw [same,known]
      exact keeps.own newest (claims.trans mine)
    · intro always id owns there
      have performed : ∀ task_succeeded, should_perform_cleanup (inputs k).policy task_succeeded = true := by
        intro task_succeeded
        rw [always]
        rfl
      have mine : created = some newest := own (performed _) newest (by rw [existing]; rfl)
      have same : some newest = some id := mine.symm.trans (claims.symm.trans (keeps.all always id owns there))
      have nonempty : newest ≠ "" := by
        rintro rfl
        revert container
        decide
      rw [claimed_conclude,removed_container,if_pos ⟨performed _,by rw [cleanup_input,known]; exact nonempty⟩,← same,← known]
      rfl

theorem keep_query (inv : Invariant inputs s) (k : κ) (reply : Query) (log_stored : Bool) (timestamp : Nat)
    (orderly : Orderly inputs s (.query k reply log_stored timestamp)) :
    Invariant inputs (step inputs s (.query k reply log_stored timestamp)) := by
  rw [step]
  cases phase : (s.chain k).phase with
  | running attempt created => exact inv
  | exited attempt created result =>
    by_cases fits : reply.fits = true
    · simp only [fits,if_true]
      have attempting : claimed (inputs k) (s.chain k).phase = (s.chain k).phase.created := by rw [phase]; rfl
      cases reply with
      | answered =>
        exact keep_answered inv phase orderly log_stored timestamp
      | broken query =>
        have broken : exits_zero query = false := by simpa [Query.fits] using fits
        have unknown : known_container (docker_run_container (inputs k).run
            (session inputs k (ended result) query log_stored timestamp)) = "" := unqueried broken
        exact inv.abandon attempt orderly attempting unknown
    · simp only [fits]
      exact inv
  | concluded answer => exact inv
  | cleaned => exact inv

theorem keep_no_credentials (inv : Invariant inputs s) (k : κ) (failure : Failure) :
    Invariant inputs (step inputs s (.no_credentials k failure)) := by
  rw [step]
  cases phase : (s.chain k).phase with
  | running attempt created =>
    cases created with
    | none =>
      have left : NothingLeft inputs s k := by
        intro _ id created
        rw [phase] at created
        cases created
      exact inv.abandon attempt left (by rw [phase]; rfl) rfl
    | some id => exact inv
  | exited attempt created result => exact inv
  | concluded answer => exact inv
  | cleaned => exact inv

theorem keep_lose (inv : Invariant inputs s) (k : κ) (failure : Failure) (orderly : NothingLeft inputs s k) :
    Invariant inputs (step inputs s (.lose k failure)) := by
  rw [step]
  cases phase : (s.chain k).phase with
  | running attempt created => exact inv.abandon attempt orderly (by rw [phase]; rfl) rfl
  | exited attempt created result => exact inv.abandon attempt orderly (by rw [phase]; rfl) rfl
  | concluded answer => exact inv
  | cleaned => exact inv

theorem keep_cleanup (inv : Invariant inputs s) (k : κ) (reached : Bool) (orderly : CleanupReaches inputs s k reached) :
    Invariant inputs (step inputs s (.cleanup k reached)) := by
  rw [step]
  rw [CleanupReaches] at orderly
  cases phase : (s.chain k).phase with
  | running attempt created => exact inv
  | exited attempt created result => exact inv
  | cleaned => exact inv
  | concluded answer =>
    rw [phase] at orderly
    have claims : claimed (inputs k) (s.chain k).phase = removed_container (cleanup_input (inputs k) answer) := by rw [phase]; rfl
    replace orderly := orderly answer rfl
    dsimp only
    cases removed : removed_container (cleanup_input (inputs k) answer) with
    | none =>
      rw [removed] at claims
      refine inv.move ((inv.keeps k).unclaimed rfl ?_)
      intro _ id impossible
      rw [claims] at impossible
      cases impossible
    | some id =>
      rw [removed] at claims orderly
      rw [clean]
      cases reached with
      | true =>
        refine (inv.remove id).set rfl ((inv.keeps k).clean claims ?_ ?_)
        · intro other member
          exact List.mem_of_mem_filter member
        · intro _ member
          have different := List.of_mem_filter member
          simp at different
      | false => exact inv.set rfl ((inv.keeps k).clean claims (fun _ member => member) fun always => orderly rfl always id rfl)

theorem keep_step (s : Host κ) (a : Action κ) (inv : Invariant inputs s) (orderly : Orderly inputs s a) :
    Invariant inputs (step inputs s a) := by
  cases a with
  | create k id => exact keep_create inv k id
  | finish k remote => exact keep_finish inv k remote orderly
  | query k reply log_stored timestamp => exact keep_query inv k reply log_stored timestamp orderly
  | no_credentials k failure => exact keep_no_credentials inv k failure
  | lose k failure => exact keep_lose inv k failure orderly
  | cleanup k reached => exact keep_cleanup inv k reached orderly
  | other_create id =>
    rw [step]
    by_cases fresh : s.fresh id = true
    · simp only [fresh,if_true]
      exact inv.push fresh
    · simp only [fresh]
      exact inv
  | other_remove id => exact inv.remove id

end

section
variable {κ : Type}

/-- The host before its chains: containers of others only. -/
def before (existing : List String) : Host κ where
  existing := existing
  ever := existing
  chain := fun _ => ⟨.running 1 none,[],[]⟩

/-- Each chain has removed its own containers only, and once its cleanup is over, under
    `always`, all of them. -/
def OwnContainers (inputs : κ → ChainInput) (s : Host κ) : Prop :=
  ∀ k, (∀ id ∈ (s.chain k).targets, id ∈ (s.chain k).owned ∧ ∀ j, j ≠ k → id ∉ (s.chain j).owned) ∧
    ((inputs k).policy = "always" → (s.chain k).phase = .cleaned → ∀ id ∈ (s.chain k).owned, id ∉ s.existing)

theorem Invariant.ownContainers {inputs : κ → ChainInput} {s : Host κ} (inv : Invariant inputs s) : OwnContainers inputs s := by
  intro k
  have keeps := inv.keeps k
  constructor
  · intro id target
    have owns := keeps.removed id target
    exact ⟨owns,fun j other owns_too => other (inv.apart j k id owns_too owns)⟩
  · intro always cleaned id owns there
    have claims := keeps.all always id owns there
    rw [cleaned] at claims
    cases claims

theorem invariant_before (inputs : κ → ChainInput) {existing : List String} (ids : ∀ id ∈ existing, isContainerId id = true) :
    Invariant inputs (before existing) where
  ids := ids
  known := fun _ _ owns => by cases owns
  apart := fun _ _ _ owns => by cases owns
  keeps := fun _ =>
    { removed := fun _ target => by cases target
      own := fun _ claims => by cases claims
      all := fun _ _ owns => by cases owns }

end

/-- Two chains with the same input. -/
def sampleChains (_ : Bool) : ChainInput where
  run := docker_run_input sampleInput "make test" none none
  cred := { host := "10.0.0.5", port := 22, user := "ci", private_key := "key" }
  policy := "always"
  image_id := none

/-- The chains of the host one after the other. -/
def inTurn : List (Action Bool) :=
  [.create true "a1",.finish true (.exited "ok" "" 0),.query true .answered false 0,.create false "b2",
    .finish false (.exited "" "failed" 1),.other_remove "0f",.query false .answered false 0,.cleanup true true,
    .cleanup false true]

/-- Both commands run before the first query. -/
def crossed : List (Action Bool) :=
  [.create true "a1",.create false "b2",.finish true (.exited "ok" "" 0),.query true .answered false 0,.cleanup true true]

/-- The session of the command times out. -/
def timed_out : List (Action Bool) := [.create true "a1",.finish true (.interrupted (.timeout "")),.cleanup true true]

end Automation.DockerHost
