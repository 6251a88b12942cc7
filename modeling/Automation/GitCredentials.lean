import Automation.Effects
import Mathlib.Data.Fintype.Basic
import Mathlib.Tactic.Common

/-!
The Bitbucket credentials that runs of the legacy workflow put on a shared runner account.
Git has one helper and one credential for the host there, and the scripts of all runs write
both. A push finds the credential of its run (`orderly_isolated`) where between the injection
of a run and its push no script hands git another credential or takes the helper away.
-/
namespace Automation.GitCredentials
open Automation.Effects

structure Credential where
  username : String
  app_password : String
  deriving DecidableEq

/-- The format between the quotes, in which a line ends with a backslash and an `n`. -/
def printf_format (c : Credential) : List Char :=
  "protocol=https\\nhost=bitbucket.org\\nusername=".toList ++
    (c.username.toList ++ ("\\npassword=".toList ++ (c.app_password.toList ++ "\\n\\n".toList)))

/-- What `printf` writes; `none` where the text leaves the quotes or has another escape or a
    conversion, and the script means something else. -/
def printf : List Char → Option (List Char)
  | [] => some []
  | '\\' :: 'n' :: rest => (printf rest).map ('\n' :: ·)
  | '%' :: '%' :: rest => (printf rest).map ('%' :: ·)
  | c :: rest => if c = '\\' ∨ c = '%' ∨ c = '\'' then none else (printf rest).map (c :: ·)

/-- A description of a credential, as git reads it. -/
structure Description where
  protocol : Option (List Char)
  host : Option (List Char)
  username : Option (List Char)
  password : Option (List Char)

/-- An attribute that git does not know is skipped. -/
def Description.put (d : Description) (key value : List Char) : Description :=
  if key = "protocol".toList then { d with protocol := some value }
  else if key = "host".toList then { d with host := some value }
  else if key = "username".toList then { d with username := some value }
  else if key = "password".toList then { d with password := some value }
  else d

/-- Lines of a key and a value, up to the first that is empty. -/
def credential_read (d : Description) : List (List Char) → Option Description
  | [] => some d
  | line :: lines =>
    if line = [] then some d
    else
      match line.dropWhile (· ≠ '=') with
      | [] => none
      | _ :: value => credential_read (d.put (line.takeWhile (· ≠ '=')) value) lines

/-- The credential for `https://bitbucket.org` that git gets from the script. -/
def handed (c : Credential) : Option Credential := do
  let text ← printf (printf_format c)
  let d ← credential_read ⟨none,none,none,none⟩ (text.splitOn '\n')
  if d.protocol = some "https".toList ∧ d.host = some "bitbucket.org".toList then
    some ⟨.ofList (← d.username),.ofList (← d.password)⟩
  else none

/-- What git has on the account: the timeout of the cache helper if that is set, and the
    credential that the cache has for the host. -/
structure Account where
  helper : Option Nat
  cached : Option Credential
  deriving DecidableEq

/-- The credential that git has for a push. -/
def Account.credential (a : Account) : Option Credential := if a.helper.isSome then a.cached else none

inductive Command where
  /-- `git config --global credential.helper 'cache --timeout=…'` -/
  | config (timeout : Nat)
  /-- `printf … | git credential approve` -/
  | approve (c : Credential)
  /-- `git push origin …` -/
  | push (branch : String)
  /-- `git credential-cache exit` -/
  | exit
  /-- `git config --global --unset credential.helper` -/
  | unset
  deriving DecidableEq

/-- Without a helper an approved credential goes nowhere. -/
def Command.effect (a : Account) : Command → Account
  | .config timeout => { a with helper := some timeout }
  | .approve c => if a.helper.isSome then { a with cached := (handed c).or a.cached } else a
  | .push _ => a
  | .exit => { a with cached := none }
  | .unset => { a with helper := none }

/-- The input of a run, and what Vault has for its department at each attempt to inject. -/
structure Input where
  dept_id : String
  git_push_branch : String
  secret : Nat → Credential

def ttl_minutes : Nat := 15

def credential_helper_script (c : Credential) (ttl_minutes : Nat) : List Command := [.config (ttl_minutes * 60),.approve c]
def cleanup_script : List Command := [.exit,.unset]

/-- The activities of a run; an injection is tried again. -/
inductive Job where
  | inject (attempt : Nat)
  | push
  | cleanup
  deriving DecidableEq

def script (input : Input) : Job → List Command
  | .inject attempt => credential_helper_script (input.secret attempt) ttl_minutes
  | .push => [.push input.git_push_branch]
  | .cleanup => cleanup_script

/-- How far a script is. One that fails stays where it is. -/
inductive Progress where
  | waiting
  | running (done : Nat)
  | failed
  deriving DecidableEq

inductive Phase where
  | ready
  | injecting
  | pushing
  | cleaning
  deriving DecidableEq

structure Run where
  phase : Phase
  attempt : Nat
  progress : Job → Progress

def maximum_attempts : Nat := 2

def Run.put (r : Run) (job : Job) (p : Progress) : Run := { r with progress := Function.update r.progress job p }

/-! The workflow goes on when an attempt ends or its time is over; a script of which it
    knows no more may still run then. -/

def Run.begin (r : Run) : Run :=
  if r.phase = .ready then { r with phase := .injecting, attempt := 0 }.put (.inject 0) (.running 0) else r

def Run.retry (r : Run) : Run :=
  if r.phase = .injecting ∧ r.attempt + 1 < maximum_attempts then
    { r with attempt := r.attempt + 1 }.put (.inject (r.attempt + 1)) (.running 0)
  else r

/-- `success`, where both commands of the attempt succeeded. -/
def Run.injected (r : Run) : Run :=
  if r.phase = .injecting ∧ r.progress (.inject r.attempt) = .running 2 then { r with phase := .pushing }.put .push (.running 0)
  else r

/-- The `finally`, after whatever came before. -/
def Run.clean (r : Run) : Run :=
  if r.phase = .injecting ∨ r.phase = .pushing then { r with phase := .cleaning }.put .cleanup (.running 0) else r

/-- The command that a script comes to. -/
def Run.next (input : Input) (r : Run) (job : Job) : Option Command :=
  match r.progress job with
  | .running n => (script input job)[n]?
  | _ => none

/-- The commands of the cleanup are joined by `;`, the others by `&&`. -/
def Run.advance (r : Run) (job : Job) (ok : Bool) : Run :=
  match r.progress job with
  | .running n => r.put job (if ok ∨ job = .cleanup then .running (n + 1) else .failed)
  | _ => r

/-- A push that was executed: the credential that its run injected, and what git had. -/
structure Pushed (κ : Type) where
  run : κ
  injected : Credential
  found : Option Credential
  deriving DecidableEq

structure State (κ : Type) where
  account : Account
  run : κ → Run
  pushes : List (Pushed κ)

/-- Steps of the workflows, and of the scripts on the runner; a command may fail. -/
inductive Action (κ : Type) where
  | begin (k : κ)
  | retry (k : κ)
  | injected (k : κ)
  | clean (k : κ)
  | command (k : κ) (job : Job) (ok : Bool)

def State.start {κ : Type} (account : Account) : State κ := ⟨account,fun _ => ⟨.ready,0,fun _ => .waiting⟩,[]⟩

section
variable {κ : Type} [DecidableEq κ] (inputs : κ → Input)

def State.put (s : State κ) (k : κ) (r : Run) : State κ := { s with run := Function.update s.run k r }

def record (s : State κ) (k : κ) : Command → List (Pushed κ)
  | .push _ => s.pushes ++ [⟨k,(inputs k).secret (s.run k).attempt,s.account.credential⟩]
  | _ => s.pushes

def execute (s : State κ) (k : κ) (job : Job) (ok : Bool) (c : Command) : State κ :=
  if ok then { s.put k ((s.run k).advance job true) with account := c.effect s.account, pushes := record inputs s k c }
  else s.put k ((s.run k).advance job false)

def step (s : State κ) : Action κ → State κ
  | .begin k => s.put k (s.run k).begin
  | .retry k => s.put k (s.run k).retry
  | .injected k => s.put k (s.run k).injected
  | .clean k => s.put k (s.run k).clean
  | .command k job ok =>
    match (s.run k).next (inputs k) job with
    | some c => execute inputs s k job ok c
    | none => s

/-- Every push found the credential of its run. -/
def Isolated (s : State κ) : Prop := ∀ p ∈ s.pushes, p.found = some p.injected

/-- The credential is injected, and the push is still to come. -/
def Run.Armed (r : Run) : Prop :=
  r.progress (.inject r.attempt) = .running 2 ∧ (r.phase = .injecting ∨ r.progress .push = .running 0)

/-- The helper is set, and the credential is still to come. -/
def Run.Configuring (r : Run) : Prop := r.phase = .injecting ∧ r.progress (.inject r.attempt) = .running 1

instance (r : Run) : Decidable r.Armed := inferInstanceAs (Decidable (_ ∧ _))
instance (r : Run) : Decidable r.Configuring := inferInstanceAs (Decidable (_ ∧ _))

/-- The credential that a run relies on. -/
def Run.secret (input : Input) (r : Run) : Credential := input.secret r.attempt

/-- The commands that leave a run what it relies on. -/
def Allowed (input : Input) (r : Run) : Command → Prop
  | .approve c => handed c = some c ∧ (r.Armed → c = r.secret input)
  | .exit => ¬r.Armed
  | .unset => ¬r.Armed ∧ ¬r.Configuring
  | .config _ | .push _ => True

instance (input : Input) (r : Run) : DecidablePred (Allowed input r)
  | .approve _ => inferInstanceAs (Decidable (_ ∧ (_ → _)))
  | .exit => inferInstanceAs (Decidable (¬_))
  | .unset => inferInstanceAs (Decidable (_ ∧ _))
  | .config _ => inferInstanceAs (Decidable True)
  | .push _ => inferInstanceAs (Decidable True)

/-- A command takes effect only where every run allows it. -/
def Orderly (s : State κ) : Action κ → Prop
  | .command j job true => ∀ c ∈ (s.run j).next (inputs j) job, ∀ k, Allowed (inputs k) (s.run k) c
  | _ => True

instance [Fintype κ] (s : State κ) : DecidablePred (Orderly inputs s)
  | .command j job true =>
    inferInstanceAs (Decidable (∀ c ∈ (s.run j).next (inputs j) job, ∀ k, Allowed (inputs k) (s.run k) c))
  | .command _ _ false => inferInstanceAs (Decidable True)
  | .begin _ => inferInstanceAs (Decidable True)
  | .retry _ => inferInstanceAs (Decidable True)
  | .injected _ => inferInstanceAs (Decidable True)
  | .clean _ => inferInstanceAs (Decidable True)

end

/-- A run that is armed or configuring finds on the account what it relies on. -/
structure Good (a : Account) (input : Input) (r : Run) : Prop where
  configured : r.Configuring → a.helper.isSome
  armed : r.Armed → a.credential = some (r.secret input)
  pushing : r.progress .push ≠ .waiting →
    r.progress (.inject r.attempt) = .running 2 ∧ (r.phase = .pushing ∨ r.phase = .cleaning)

/-- Every run finds what it relies on, and so did every push. -/
structure Inv {κ : Type} (inputs : κ → Input) (s : State κ) : Prop where
  good : ∀ k, Good s.account (inputs k) (s.run k)
  isolated : Isolated s

section
variable {r : Run} {job other : Job} {p : Progress}

theorem put_same : (r.put job p).progress job = p := Function.update_self ..

theorem put_other (apart : other ≠ job) : (r.put job p).progress other = r.progress other := Function.update_of_ne apart ..

@[simp] theorem put_phase : (r.put job p).phase = r.phase := rfl
@[simp] theorem put_attempt : (r.put job p).attempt = r.attempt := rfl

end

theorem credential_some {a : Account} {c : Credential} (has : a.credential = some c) : a.helper.isSome := by
  unfold Account.credential at has
  split at has
  · next set => exact set
  · cases has

section
variable {a : Account} {input : Input} {r : Run}

theorem Good.begin (good : Good a input r) : Good a input r.begin := by
  unfold Run.begin
  split
  · next ready =>
    have idle : r.progress .push = .waiting := by
      by_contra busy
      obtain pushing | cleaning := (good.pushing busy).2
      · rw [ready] at pushing
        cases pushing
      · rw [ready] at cleaning
        cases cleaning
    have started : (Run.put { r with phase := .injecting, attempt := 0 } (.inject 0) (.running 0)).progress (.inject 0) = .running 0 := put_same
    constructor
    · rintro ⟨-,at_⟩
      rw [put_attempt] at at_
      rw [started] at at_
      cases at_
    · rintro ⟨at_,-⟩
      rw [put_attempt] at at_
      rw [started] at at_
      cases at_
    · intro busy
      rw [put_other (by decide)] at busy
      exact absurd idle busy
  · exact good

theorem Good.idle (good : Good a input r) (injecting : r.phase = .injecting) : r.progress .push = .waiting := by
  by_contra busy
  obtain pushing | cleaning := (good.pushing busy).2
  · rw [injecting] at pushing
    cases pushing
  · rw [injecting] at cleaning
    cases cleaning

theorem Good.retry (good : Good a input r) : Good a input r.retry := by
  unfold Run.retry
  split
  · next more =>
    obtain ⟨injecting,-⟩ := more
    have started : (Run.put { r with attempt := r.attempt + 1 } (.inject (r.attempt + 1)) (.running 0)).progress (.inject (r.attempt + 1)) =
        .running 0 := put_same
    constructor
    · rintro ⟨-,at_⟩
      rw [put_attempt] at at_
      rw [started] at at_
      cases at_
    · rintro ⟨at_,-⟩
      rw [put_attempt] at at_
      rw [started] at at_
      cases at_
    · intro busy
      rw [put_other (by simp)] at busy
      exact absurd (good.idle injecting) busy
  · exact good

theorem Good.injected (good : Good a input r) : Good a input r.injected := by
  unfold Run.injected
  split
  · next complete =>
    obtain ⟨injecting,both⟩ := complete
    have same : (Run.put { r with phase := .pushing } .push (.running 0)).progress (.inject r.attempt) = r.progress (.inject r.attempt) :=
      put_other (by simp)
    constructor
    · rintro ⟨impossible,-⟩
      cases impossible
    · intro _
      exact good.armed ⟨both,Or.inl injecting⟩
    · intro _
      exact ⟨same.trans both,Or.inl rfl⟩
  · exact good

theorem Good.clean (good : Good a input r) : Good a input r.clean := by
  unfold Run.clean
  split
  · next phase =>
    have same : (Run.put { r with phase := .cleaning } .cleanup (.running 0)).progress (.inject r.attempt) = r.progress (.inject r.attempt) :=
      put_other (by simp)
    have push : (Run.put { r with phase := .cleaning } .cleanup (.running 0)).progress .push = r.progress .push := put_other (by simp)
    constructor
    · rintro ⟨impossible,-⟩
      cases impossible
    · rintro ⟨both,impossible | ready⟩
      · cases impossible
      · exact good.armed ⟨same.symm.trans both,Or.inr (push.symm.trans ready)⟩
    · intro busy
      rw [push] at busy
      exact ⟨same.trans (good.pushing busy).1,Or.inr rfl⟩
  · exact good

theorem Good.effect (good : Good a input r) {c : Command} (allowed : Allowed input r c) : Good (c.effect a) input r := by
  refine ⟨?_,?_,good.pushing⟩
  · intro configuring
    have set := good.configured configuring
    cases c with
    | config timeout => rfl
    | approve c =>
      show (if a.helper.isSome then { a with cached := (handed c).or a.cached } else a).helper.isSome
      rw [if_pos set]
      exact set
    | push branch => exact set
    | exit => exact set
    | unset => exact absurd configuring allowed.2
  · intro armed
    have has := good.armed armed
    have set := credential_some has
    cases c with
    | config timeout =>
      unfold Account.credential at has
      rw [if_pos set] at has
      exact has
    | approve c =>
      obtain ⟨whole,own⟩ := allowed
      show (if a.helper.isSome then { a with cached := (handed c).or a.cached } else a).credential = _
      rw [if_pos set,whole,Option.some_or,Account.credential,if_pos set,own armed]
    | push branch => exact has
    | exit => exact absurd armed allowed
    | unset => exact absurd armed allowed.1

/-- A script that goes on arms or configures its run only by the injection of the current
    attempt. -/
theorem Good.put (good : Good a input r) {job : Job} {n : Nat} {p : Progress} (before : r.progress job = .running n)
    (moved : p ≠ .running 0)
    (own : job = .inject r.attempt → n ≠ 2 ∧ (r.phase = .injecting → p = .running 1 → a.helper.isSome) ∧
      (r.phase = .injecting → p = .running 2 → a.credential = some (r.secret input))) : Good a input (r.put job p) := by
  by_cases current : job = .inject r.attempt
  · obtain ⟨more,configured,armed⟩ := own current
    subst current
    have idle : r.progress .push = .waiting := by
      by_contra busy
      have complete := (good.pushing busy).1
      rw [before] at complete
      exact more (Progress.running.inj complete)
    have push : (r.put (.inject r.attempt) p).progress .push = .waiting := (put_other (by simp)).trans idle
    constructor
    · rintro ⟨injecting,at_⟩
      exact configured injecting (put_same.symm.trans at_)
    · rintro ⟨at_,injecting | ready⟩
      · exact armed injecting (put_same.symm.trans at_)
      · rw [push] at ready
        cases ready
    · intro busy
      exact absurd push busy
  · have same : (r.put job p).progress (.inject r.attempt) = r.progress (.inject r.attempt) := put_other (Ne.symm current)
    constructor
    · rintro ⟨injecting,at_⟩
      exact good.configured ⟨injecting,same.symm.trans at_⟩
    · rintro ⟨both,next⟩
      refine good.armed ⟨same.symm.trans both,?_⟩
      obtain injecting | ready := next
      · exact Or.inl injecting
      · by_cases pushes : job = .push
        · subst pushes
          exact absurd (put_same.symm.trans ready) moved
        · exact Or.inr ((put_other (Ne.symm pushes)).symm.trans ready)
    · intro busy
      by_cases pushes : job = .push
      · subst pushes
        have started : r.progress .push ≠ .waiting := by
          rw [before]
          exact Progress.noConfusion
        exact ⟨same.trans (good.pushing started).1,(good.pushing started).2⟩
      · rw [put_other (Ne.symm pushes)] at busy
        exact ⟨same.trans (good.pushing busy).1,(good.pushing busy).2⟩

theorem next_running {job : Job} {c : Command} (next : r.next input job = some c) :
    ∃ n, r.progress job = .running n ∧ (script input job)[n]? = some c := by
  unfold Run.next at next
  split at next
  · next n at_ => exact ⟨n,at_,next⟩
  · cases next

/-- The commands of an injection. -/
theorem inject_script {attempt n : Nat} {c : Command} (at_ : (script input (.inject attempt))[n]? = some c) :
    (n = 0 ∧ c = .config (ttl_minutes * 60)) ∨ (n = 1 ∧ c = .approve (input.secret attempt)) := by
  obtain _ | _ | n := n
  · exact Or.inl ⟨rfl,(Option.some.inj at_).symm⟩
  · exact Or.inr ⟨rfl,(Option.some.inj at_).symm⟩
  · cases at_

theorem Good.fails (good : Good a input r) {job : Job} {c : Command} (next : r.next input job = some c) :
    Good a input (r.advance job false) := by
  obtain ⟨n,at_,here⟩ := next_running next
  unfold Run.advance
  rw [at_]
  by_cases cleanup : job = .cleanup
  · subst cleanup
    exact good.put at_ (by simp) (by simp)
  · show Good a input (r.put job (if false = true ∨ job = .cleanup then .running (n + 1) else .failed))
    rw [if_neg (by simp [cleanup])]
    refine good.put at_ (by simp) fun current => ⟨?_,by simp,by simp⟩
    subst current
    obtain ⟨first,-⟩ | ⟨second,-⟩ := inject_script here
    · omega
    · omega

/-- The run whose command it is finds what it relies on afterwards. -/
theorem Good.succeeds (good : Good a input r) {job : Job} {c : Command} (next : r.next input job = some c)
    (allowed : Allowed input r c) : Good (c.effect a) input (r.advance job true) := by
  obtain ⟨n,at_,here⟩ := next_running next
  have after := good.effect allowed
  unfold Run.advance
  rw [at_]
  show Good (c.effect a) input (r.put job (if true = true ∨ job = .cleanup then .running (n + 1) else .failed))
  rw [if_pos (Or.inl rfl)]
  refine after.put at_ (by simp) fun current => ?_
  subst current
  obtain ⟨rfl,rfl⟩ | ⟨rfl,rfl⟩ := inject_script here
  · exact ⟨by omega,fun _ _ => rfl,by simp⟩
  · refine ⟨by omega,by simp,fun injecting _ => ?_⟩
    have set := good.configured ⟨injecting,at_⟩
    show (if a.helper.isSome then { a with cached := (handed (input.secret r.attempt)).or a.cached } else a).credential = _
    rw [if_pos set,allowed.1,Option.some_or,Account.credential,if_pos set]
    rfl

theorem Good.pushes (good : Good a input r) {job : Job} {branch : String} (next : r.next input job = some (.push branch)) :
    a.credential = some (r.secret input) := by
  obtain ⟨n,at_,here⟩ := next_running next
  cases job with
  | inject attempt =>
    obtain ⟨-,impossible⟩ | ⟨-,impossible⟩ := inject_script here
    · cases impossible
    · cases impossible
  | push =>
    have started : r.progress .push ≠ .waiting := by
      rw [at_]
      exact Progress.noConfusion
    obtain _ | n := n
    · exact good.armed ⟨(good.pushing started).1,Or.inr at_⟩
    · cases here
  | cleanup =>
    obtain _ | _ | n := n
    · cases here
    · cases here
    · cases here

end

section
variable {κ : Type} [DecidableEq κ] {inputs : κ → Input} {s : State κ}

/-- A step of the workflow of a run leaves the account and the others as they are. -/
theorem Inv.put (inv : Inv inputs s) {k : κ} {r : Run} (good : Good s.account (inputs k) r) : Inv inputs (s.put k r) := by
  refine ⟨fun j => ?_,inv.isolated⟩
  by_cases same : j = k
  · subst same
    show Good s.account (inputs j) (Function.update s.run j r j)
    rw [Function.update_self]
    exact good
  · show Good s.account (inputs j) (Function.update s.run k r j)
    rw [Function.update_of_ne same]
    exact inv.good j

theorem Inv.execute (inv : Inv inputs s) {k : κ} {job : Job} {c : Command} (next : (s.run k).next (inputs k) job = some c)
    (allowed : ∀ j, Allowed (inputs j) (s.run j) c) : Inv inputs (execute inputs s k job true c) := by
  constructor
  · intro j
    by_cases same : j = k
    · subst same
      show Good (c.effect s.account) (inputs j) (Function.update s.run j ((s.run j).advance job true) j)
      rw [Function.update_self]
      exact (inv.good j).succeeds next (allowed j)
    · show Good (c.effect s.account) (inputs j) (Function.update s.run k ((s.run k).advance job true) j)
      rw [Function.update_of_ne same]
      exact (inv.good j).effect (allowed j)
  · show ∀ p ∈ record inputs s k c, p.found = some p.injected
    cases c with
    | push branch =>
      intro p member
      obtain before | new := List.mem_append.mp member
      · exact inv.isolated p before
      · obtain rfl := List.mem_singleton.mp new
        exact (inv.good k).pushes next
    | config timeout => exact inv.isolated
    | approve c => exact inv.isolated
    | exit => exact inv.isolated
    | unset => exact inv.isolated

theorem Inv.step (inv : Inv inputs s) {action : Action κ} (orderly : Orderly inputs s action) : Inv inputs (step inputs s action) := by
  cases action with
  | begin k => exact inv.put (inv.good k).begin
  | retry k => exact inv.put (inv.good k).retry
  | injected k => exact inv.put (inv.good k).injected
  | clean k => exact inv.put (inv.good k).clean
  | command k job ok =>
    show Inv inputs (match (s.run k).next (inputs k) job with
      | some c => GitCredentials.execute inputs s k job ok c
      | none => s)
    cases next : (s.run k).next (inputs k) job with
    | none => exact inv
    | some c =>
      cases ok with
      | false => exact inv.put ((inv.good k).fails next)
      | true => exact inv.execute next (orderly c next)

omit [DecidableEq κ] in
theorem inv_start (inputs : κ → Input) (account : Account) : Inv inputs (.start account) where
  good _ := ⟨fun configuring => (nomatch configuring.1),fun armed => (nomatch armed.1),fun busy => absurd rfl busy⟩
  isolated _ member := nomatch member

/-- Whatever the runs and their order, every push finds the credential of its run as long
    as no command takes from a run what it relies on. -/
theorem orderly_isolated (inputs : κ → Input) (account : Account) (actions : List (Action κ))
    (orderly : Admitted (step inputs) (Orderly inputs) (.start account) actions) (n : Nat) :
    Isolated ((actions.take n).foldl (GitCredentials.step inputs) (.start account)) :=
  (admitted_always (fun _ _ inv orderly => inv.step orderly) actions _ (inv_start inputs account) orderly n).isolated

end

/-- The departments `payments` and `search`. -/
def two : Bool → Input
  | true => ⟨"payments","bot/pay",fun _ => ⟨"pay-bot","pay-secret"⟩⟩
  | false => ⟨"search","bot/find",fun _ => ⟨"find-bot","find-secret"⟩⟩

/-- A run from its injection to its push. -/
def inject (k : Bool) : List (Action Bool) :=
  [.begin k,.command k (.inject 0) true,.command k (.inject 0) true,.injected k]

def push_and_clean (k : Bool) : List (Action Bool) :=
  [.command k .push true,.clean k,.command k .cleanup true,.command k .cleanup true]

theorem orderly_isolated_successive :
    Admitted (step two) (Orderly two) (.start ⟨none,none⟩) (inject true ++ push_and_clean true ++ (inject false ++ push_and_clean false)) ∧
    Isolated (((inject true ++ push_and_clean true ++ (inject false ++ push_and_clean false)).take 16).foldl (step two) (.start ⟨none,none⟩)) := by
  have orderly : Admitted (step two) (Orderly two) (.start ⟨none,none⟩)
      (inject true ++ push_and_clean true ++ (inject false ++ push_and_clean false)) := by decide
  exact ⟨orderly,orderly_isolated two ⟨none,none⟩ _ orderly 16⟩

/-- Two runs that are injected before the first of them pushes. -/
theorem pushes_with_anothers : ¬∀ (inputs : Bool → Input), (inputs true).dept_id ≠ (inputs false).dept_id →
    ∀ (account : Account) (actions : List (Action Bool)), Isolated (actions.foldl (step inputs) (.start account)) := by
  intro always
  have isolated := always two (by decide) ⟨none,none⟩ (inject true ++ inject false ++ push_and_clean true)
  have found := isolated ⟨true,⟨"pay-bot","pay-secret"⟩,some ⟨"find-bot","find-secret"⟩⟩ (by decide)
  exact absurd found (by decide)

end Automation.GitCredentials
