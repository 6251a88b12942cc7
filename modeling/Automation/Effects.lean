import Mathlib.Logic.Basic
import Mathlib.Tactic.Common

/-!
Programs with exceptions over a signature of commands, as trees: a program
returns, raises, or issues a command and continues with its result. `exec` runs
a program against a handler that answers each command from a state. What holds
of every program of a signature is proved once, by induction on the tree
(`exec_keeps`); what holds of one program is proved with triples, whose
postconditions speak of the returned value and of the raised exception.
-/
namespace Automation.Effects

/-- Commands and the type of the result of each. -/
structure Signature where
  Cmd : Type
  Res : Cmd → Type

inductive Prog (S : Signature) (ε α : Type) where
  | ret (a : α)
  | raise (e : ε)
  | call (c : S.Cmd) (k : S.Res c → Prog S ε α)

section
variable {S : Signature} {ε ε' α β σ : Type}

def Prog.bind : Prog S ε α → (α → Prog S ε β) → Prog S ε β
  | .ret a, f => f a
  | .raise e, _ => .raise e
  | .call c k, f => .call c fun r => (k r).bind f

/-- `try … except`: the handler runs where the program raises, in the state
    reached there. -/
def Prog.attempt : Prog S ε α → (ε → Prog S ε' α) → Prog S ε' α
  | .ret a, _ => .ret a
  | .raise e, handler => handler e
  | .call c k, handler => .call c fun r => (k r).attempt handler

instance : Monad (Prog S ε) where
  pure := .ret
  bind := Prog.bind

/-- Issue one command. -/
@[simp] def command (c : S.Cmd) : Prog S ε (S.Res c) := .call c .ret

/-- An answer to every command, with the state after it. -/
abbrev Handler (S : Signature) (σ : Type) := (c : S.Cmd) → σ → S.Res c × σ

def exec (H : Handler S σ) : Prog S ε α → σ → Except ε α × σ
  | .ret a, s => (.ok a,s)
  | .raise e, s => (.error e,s)
  | .call c k, s => exec H (k (H c s).1) (H c s).2

@[simp] theorem exec_ret (H : Handler S σ) (a : α) (s : σ) :
    exec H (.ret a : Prog S ε α) s = (.ok a,s) := rfl

@[simp] theorem exec_pure (H : Handler S σ) (a : α) (s : σ) :
    exec H (pure a : Prog S ε α) s = (.ok a,s) := rfl

@[simp] theorem exec_raise (H : Handler S σ) (e : ε) (s : σ) :
    exec H (.raise e : Prog S ε α) s = (.error e,s) := rfl

@[simp] theorem exec_call (H : Handler S σ) (c : S.Cmd) (k : S.Res c → Prog S ε α) (s : σ) :
    exec H (.call c k) s = exec H (k (H c s).1) (H c s).2 := rfl

theorem exec_bind (H : Handler S σ) (p : Prog S ε α) (f : α → Prog S ε β) (s : σ) :
    exec H (p >>= f) s =
      match exec H p s with
      | (.ok a,t) => exec H (f a) t
      | (.error e,t) => (.error e,t) := by
  change exec H (p.bind f) s = _
  induction p generalizing s with
  | ret a => rfl
  | raise e => rfl
  | call c k ih => exact ih (H c s).1 (H c s).2

theorem exec_attempt (H : Handler S σ) (p : Prog S ε α) (handler : ε → Prog S ε' α) (s : σ) :
    exec H (p.attempt handler) s =
      match exec H p s with
      | (.ok a,t) => (.ok a,t)
      | (.error e,t) => exec H (handler e) t := by
  induction p generalizing s with
  | ret a => rfl
  | raise e => rfl
  | call c k ih => exact ih (H c s).1 (H c s).2

theorem exec_returns (H : Handler S σ) (p : Prog S Empty α) (s : σ) : ∃ a t, exec H p s = (.ok a,t) := by
  cases ended : exec H p s with
  | mk result t =>
    cases result with
    | ok a => exact ⟨a,t,rfl⟩
    | error e => exact e.elim

/-- A reflexive and transitive relation that every command keeps holds between
    the first and the last state of every program. -/
theorem exec_keeps {R : σ → σ → Prop} (refl : ∀ s, R s s) (trans : ∀ a b c, R a b → R b c → R a c)
    (H : Handler S σ) (step : ∀ c s, R s (H c s).2) (p : Prog S ε α) (s : σ) : R s (exec H p s).2 := by
  induction p generalizing s with
  | ret a => exact refl s
  | raise e => exact refl s
  | call c k ih => exact trans _ _ _ (step c s) (ih (H c s).1 (H c s).2)

end

/-- A translation of the commands of `S` into those of `T`, and of their results back. -/
structure Embedding (S T : Signature) where
  cmd : S.Cmd → T.Cmd
  back : (c : S.Cmd) → T.Res (cmd c) → S.Res c

section
variable {S T : Signature} {ε α σ : Type}

def Prog.embed (e : Embedding S T) : Prog S ε α → Prog T ε α
  | .ret a => .ret a
  | .raise x => .raise x
  | .call c k => .call (e.cmd c) fun r => (k (e.back c r)).embed e

/-- The handler of the larger signature, seen by the programs of the smaller one. -/
def Embedding.handler (e : Embedding S T) (H : Handler T σ) : Handler S σ := fun c s =>
  (e.back c (H (e.cmd c) s).1,(H (e.cmd c) s).2)

theorem exec_embed (e : Embedding S T) (H : Handler T σ) (p : Prog S ε α) (s : σ) :
    exec H (p.embed e) s = exec (e.handler H) p s := by
  induction p generalizing s with
  | ret a => rfl
  | raise x => rfl
  | call c k ih => exact ih _ _

end

section
variable {S : Signature} {ε ε' α β σ : Type} {H : Handler S σ} {s : σ}

/-- The program run from `s` returns with `Q` or raises with `X`. -/
def Triple (H : Handler S σ) (p : Prog S ε α) (s : σ) (Q : α → σ → Prop) (X : ε → σ → Prop) : Prop :=
  match exec H p s with
  | (.ok a,t) => Q a t
  | (.error e,t) => X e t

variable {Q : α → σ → Prop} {X : ε → σ → Prop}

theorem triple_pure {a : α} (holds : Q a s) : Triple H (pure a : Prog S ε α) s Q X := holds

theorem triple_raise {e : ε} (holds : X e s) : Triple H (.raise e : Prog S ε α) s Q X := holds

theorem triple_command {c : S.Cmd} {Q : S.Res c → σ → Prop} (holds : Q (H c s).1 (H c s).2) :
    Triple H (command c : Prog S ε (S.Res c)) s Q X := holds

theorem triple_mono {p : Prog S ε α} {Q' : α → σ → Prop} {X' : ε → σ → Prop} (triple : Triple H p s Q' X')
    (returns : ∀ a t, Q' a t → Q a t) (raises : ∀ e t, X' e t → X e t) : Triple H p s Q X := by
  unfold Triple at triple ⊢
  split
  · next a t ended => rw [ended] at triple; exact returns a t triple
  · next e t ended => rw [ended] at triple; exact raises e t triple

theorem triple_bind {p : Prog S ε α} {f : α → Prog S ε β} {R : α → σ → Prop} {Q : β → σ → Prop}
    (first : Triple H p s R X) (rest : ∀ a t, R a t → Triple H (f a) t Q X) : Triple H (p >>= f) s Q X := by
  unfold Triple at first
  rw [Triple,exec_bind]
  split at first
  · exact rest _ _ first
  · exact first

theorem triple_ite {c : Prop} [Decidable c] {p q : Prog S ε α} (yes : c → Triple H p s Q X) (no : ¬c → Triple H q s Q X) :
    Triple H (if c then p else q) s Q X := by
  split
  · next holds => exact yes holds
  · next fails => exact no fails

theorem triple_final {p : Prog S ε α} {P : σ → Prop} (holds : P (exec H p s).2) :
    Triple H p s (fun _ t => P t) fun _ t => P t := by
  unfold Triple
  split
  · next ended => rw [ended] at holds; exact holds
  · next ended => rw [ended] at holds; exact holds

/-- Every program returns or raises. -/
theorem triple_trivial (H : Handler S σ) (p : Prog S ε α) (s : σ) : Triple H p s (fun _ _ => True) fun _ _ => True :=
  triple_final (P := fun _ => True) trivial

theorem triple_and {p : Prog S ε α} {Q' : α → σ → Prop} {X' : ε → σ → Prop} (first : Triple H p s Q X)
    (second : Triple H p s Q' X') : Triple H p s (fun a t => Q a t ∧ Q' a t) fun e t => X e t ∧ X' e t := by
  unfold Triple at first second ⊢
  split
  · next ended => rw [ended] at first second; exact ⟨first,second⟩
  · next ended => rw [ended] at first second; exact ⟨first,second⟩

theorem triple_embed {T : Signature} {e : Embedding T S} {p : Prog T ε α} (triple : Triple (e.handler H) p s Q X) :
    Triple H (p.embed e) s Q X := by
  unfold Triple
  rw [exec_embed]
  exact triple

end

section
variable {S : Signature} {ε ε' α β σ : Type}

/-- Every command the program can issue satisfies `φ`. -/
def Issues (φ : S.Cmd → Prop) : Prog S ε α → Prop
  | .ret _ => True
  | .raise _ => True
  | .call c k => φ c ∧ ∀ r, Issues φ (k r)

theorem issues_bind {φ : S.Cmd → Prop} {p : Prog S ε α} {f : α → Prog S ε β} (first : Issues φ p)
    (rest : ∀ a, Issues φ (f a)) : Issues φ (p >>= f) := by
  change Issues φ (p.bind f)
  induction p with
  | ret a => exact rest a
  | raise e => trivial
  | call c k ih => exact ⟨first.1,fun r => ih r (first.2 r)⟩

theorem issues_ite {φ : S.Cmd → Prop} {c : Prop} [Decidable c] {p q : Prog S ε α} (yes : Issues φ p) (no : Issues φ q) :
    Issues φ (if c then p else q) := by
  split
  · exact yes
  · exact no

theorem issues_mono {φ ψ : S.Cmd → Prop} (weaker : ∀ c, φ c → ψ c) {p : Prog S ε α} (issued : Issues φ p) :
    Issues ψ p := by
  induction p with
  | ret a => trivial
  | raise e => trivial
  | call c k ih => exact ⟨weaker c issued.1,fun r => ih r (issued.2 r)⟩

theorem issues_embed {T : Signature} {φ : S.Cmd → Prop} {e : Embedding T S} (images : ∀ c, φ (e.cmd c))
    (p : Prog T ε α) : Issues φ (p.embed e) := by
  induction p with
  | ret a => trivial
  | raise x => trivial
  | call c k ih => exact ⟨images c,fun r => ih _⟩

theorem issues_embedded {T : Signature} {φ : S.Cmd → Prop} {e : Embedding T S} {p : Prog T ε α}
    (issued : Issues (fun c => φ (e.cmd c)) p) : Issues φ (p.embed e) := by
  induction p with
  | ret a => trivial
  | raise x => trivial
  | call c k ih => exact ⟨issued.1,fun r => ih _ (issued.2 _)⟩

theorem issues_attempt {φ : S.Cmd → Prop} {p : Prog S ε α} {handler : ε → Prog S ε' α} (first : Issues φ p)
    (rest : ∀ e, Issues φ (handler e)) : Issues φ (p.attempt handler) := by
  induction p with
  | ret a => trivial
  | raise e => exact rest e
  | call c k ih => exact ⟨first.1,fun r => ih r (first.2 r)⟩

/-- A relation that the commands of the program keep, whatever others do. -/
theorem exec_issues {φ : S.Cmd → Prop} {R : σ → σ → Prop} (refl : ∀ s, R s s) (trans : ∀ a b c, R a b → R b c → R a c)
    (H : Handler S σ) (step : ∀ c s, φ c → R s (H c s).2) {p : Prog S ε α} (issued : Issues φ p) (s : σ) :
    R s (exec H p s).2 := by
  induction p generalizing s with
  | ret a => exact refl s
  | raise e => exact refl s
  | call c k ih => exact trans _ _ _ (step c s issued.1) (ih (H c s).1 (issued.2 _) (H c s).2)

end

section
variable {S : Signature} {ε α σ : Type}

/-- Every value the program can return satisfies `φ`. -/
def Returns (φ : α → Prop) : Prog S ε α → Prop
  | .ret a => φ a
  | .raise _ => True
  | .call _ k => ∀ r, Returns φ (k r)

theorem exec_returned {φ : α → Prop} (H : Handler S σ) {p : Prog S ε α} (returns : Returns φ p) {s : σ} {a : α}
    (ended : (exec H p s).1 = .ok a) : φ a := by
  induction p generalizing s with
  | ret b => cases ended; exact returns
  | raise e => cases ended
  | call c k ih => exact ih _ (returns _) ended

theorem triple_returned {φ : α → Prop} (H : Handler S σ) {p : Prog S ε α} (returns : Returns φ p) (s : σ) :
    Triple H p s (fun a _ => φ a) fun _ _ => True := by
  unfold Triple
  split
  · next ended => exact exec_returned H returns (congrArg Prod.fst ended)
  · trivial

end

section
variable {S T : Signature} {ε α β : Type}

theorem returns_embed {φ : α → Prop} {e : Embedding T S} {p : Prog T ε α} (returns : Returns φ p) :
    Returns φ (p.embed e) := by
  induction p with
  | ret a => exact returns
  | raise x => trivial
  | call c k ih => exact fun r => ih _ (returns _)

theorem returns_all {φ : α → Prop} (each : ∀ a, φ a) (p : Prog S ε α) : Returns φ p := by
  induction p with
  | ret a => exact each a
  | raise e => trivial
  | call c k ih => exact ih

theorem returns_bind {φ : β → Prop} {p : Prog S ε α} {f : α → Prog S ε β} (rest : ∀ a, Returns φ (f a)) :
    Returns φ (p >>= f) := by
  change Returns φ (p.bind f)
  induction p with
  | ret a => exact rest a
  | raise e => trivial
  | call c k ih => exact fun r => ih r

theorem returns_then {φ : β → Prop} {ψ : α → Prop} {p : Prog S ε α} {f : α → Prog S ε β} (first : Returns ψ p)
    (rest : ∀ a, ψ a → Returns φ (f a)) : Returns φ (p >>= f) := by
  change Returns φ (p.bind f)
  induction p with
  | ret a => exact rest a first
  | raise e => trivial
  | call c k ih => exact fun r => ih r (first r)

/-- The rest of a program may rely on the values that its first part can return. -/
theorem issues_then {φ : S.Cmd → Prop} {ψ : α → Prop} {p : Prog S ε α} {f : α → Prog S ε β} (first : Issues φ p)
    (returns : Returns ψ p) (rest : ∀ a, ψ a → Issues φ (f a)) : Issues φ (p >>= f) := by
  change Issues φ (p.bind f)
  induction p with
  | ret a => exact rest a returns
  | raise e => trivial
  | call c k ih => exact ⟨first.1,fun r => ih r (first.2 r) (returns r)⟩

end

section
variable {S : Signature} {ε α σ : Type}

/-- A suspended program issues its next command; a finished one stays. -/
def advance (H : Handler S σ) : Prog S ε α → σ → Prog S ε α × σ
  | .call c k, s => (k (H c s).1,(H c s).2)
  | p, s => (p,s)

/-- A property that holds at the start and that every admitted step keeps holds
    in every state of a run whose steps are all admitted. -/
def Admitted {State Action : Type} (step : State → Action → State) (ok : State → Action → Prop) :
    State → List Action → Prop
  | _, [] => True
  | s, a :: rest => ok s a ∧ Admitted step ok (step s a) rest

def decideAdmitted {State Action : Type} (step : State → Action → State) (ok : State → Action → Prop)
    [∀ s a, Decidable (ok s a)] : ∀ s actions, Decidable (Admitted step ok s actions)
  | _, [] => isTrue trivial
  | s, a :: rest =>
    have := decideAdmitted step ok (step s a) rest
    inferInstanceAs (Decidable (_ ∧ _))

instance {State Action : Type} {step : State → Action → State} {ok : State → Action → Prop}
    [∀ s a, Decidable (ok s a)] (s : State) (actions : List Action) : Decidable (Admitted step ok s actions) :=
  decideAdmitted step ok s actions

variable {State Action : Type} {ok : State → Action → Prop}

variable {step : State → Action → State}

theorem admitted_invariant
    {I : State → Prop} (keep : ∀ s a, I s → ok s a → I (step s a)) (actions : List Action) :
    ∀ s, I s → Admitted step ok s actions → I (actions.foldl step s) := by
  induction actions with
  | nil => intro s holds _; exact holds
  | cons a rest ih =>
    rintro s holds ⟨admitted,others⟩
    exact ih (step s a) (keep s a holds admitted) others

theorem admitted_always
    {I : State → Prop} (keep : ∀ s a, I s → ok s a → I (step s a)) (actions : List Action) :
    ∀ s, I s → Admitted step ok s actions → ∀ n, I ((actions.take n).foldl step s) := by
  induction actions with
  | nil =>
    intro s holds _ n
    rw [List.take_nil]
    exact holds
  | cons a rest ih =>
    rintro s holds ⟨admitted,others⟩ n
    cases n with
    | zero => exact holds
    | succ n => exact ih (step s a) (keep s a holds admitted) others n

/-- Where a condition says exactly which steps keep a property, a run has it all along
    exactly if all its steps meet the condition. -/
theorem admitted_iff
    {W I : State → Prop} (keep : ∀ s a, W s → W (step s a)) (exact_step : ∀ s a, W s → I s → (I (step s a) ↔ ok s a))
    (actions : List Action) :
    ∀ s, W s → I s → ((∀ n, I ((actions.take n).foldl step s)) ↔ Admitted step ok s actions) := by
  induction actions with
  | nil =>
    intro s _ holds
    simp only [List.take_nil,List.foldl_nil]
    exact ⟨fun _ => trivial,fun _ _ => holds⟩
  | cons a rest ih =>
    intro s formed holds
    constructor
    · intro always
      have next : I (step s a) := always 1
      refine ⟨(exact_step s a formed holds).mp next,?_⟩
      exact (ih (step s a) (keep s a formed) next).mp fun n => always (n + 1)
    · rintro ⟨admitted,others⟩ n
      have next := (exact_step s a formed holds).mpr admitted
      cases n with
      | zero => exact holds
      | succ n => exact (ih (step s a) (keep s a formed) next).mpr others n

theorem admitted_steps_iff {ok L : State → Action → Prop}
    {W I : State → Prop} (keep : ∀ s a, W s → W (step s a)) (exact_step : ∀ s a, W s → I s → (L s a ↔ ok s a))
    (next : ∀ s a, L s a → I (step s a)) (actions : List Action) :
    ∀ s, W s → I s →
      ((∀ front a back, actions = front ++ a :: back → L (front.foldl step s) a) ↔ Admitted step ok s actions) := by
  induction actions with
  | nil => exact fun s _ _ => ⟨fun _ => trivial,fun _ front a back split => by simp at split⟩
  | cons a rest ih =>
    intro s formed holds
    constructor
    · intro each
      have first : L s a := each [] a rest rfl
      refine ⟨(exact_step s a formed holds).mp first,?_⟩
      refine (ih (step s a) (keep s a formed) (next s a first)).mp fun front b back split => ?_
      exact each (a :: front) b back (by rw [split]; rfl)
    · rintro ⟨admitted,others⟩ front b back split
      have first := (exact_step s a formed holds).mpr admitted
      cases front with
      | nil =>
        obtain ⟨rfl,-⟩ := List.cons.inj split
        exact first
      | cons c front =>
        obtain ⟨rfl,rest_split⟩ := List.cons.inj split
        exact (ih (step s a) (keep s a formed) (next s a first)).mpr others front b back rest_split

end

section
variable {S : Signature} {ε α : Type}

/-- Every command is answered from the commands before it, and is put on record. -/
def recording (reply : List S.Cmd → (c : S.Cmd) → S.Res c) : Handler S (List S.Cmd) := fun c log =>
  (reply log c,log ++ [c])

/-- A run only adds to the record. -/
theorem exec_extends (reply : List S.Cmd → (c : S.Cmd) → S.Res c) (p : Prog S ε α) (log : List S.Cmd) :
    log <+: (exec (recording reply) p log).2 :=
  exec_keeps List.prefix_refl (fun _ _ _ first second => first.trans second) (recording reply)
    (fun c s => List.prefix_append s [c]) p log

/-- What holds of the commands that a program can issue holds of the commands that it adds. -/
theorem exec_recorded {φ : S.Cmd → Prop} (reply : List S.Cmd → (c : S.Cmd) → S.Res c) {p : Prog S ε α} (issued : Issues φ p)
    {log : List S.Cmd} (before : ∀ c ∈ log, φ c) : ∀ c ∈ (exec (recording reply) p log).2, φ c := by
  refine exec_issues (R := fun s t => (∀ c ∈ s, φ c) → ∀ c ∈ t, φ c) (fun _ holds => holds)
    (fun _ _ _ first second holds => second (first holds)) (recording reply) ?_ issued log before
  intro c s holds before d member
  rcases List.mem_append.mp member with old | new
  · exact before d old
  · rw [List.mem_singleton.mp new]
    exact holds

end

inductive Op (σ : Type) (E : Signature) where
  | look
  | modify (f : σ → σ)
  | ask (c : E.Cmd)

@[reducible] def opSignature (σ : Type) (E : Signature) : Signature where
  Cmd := Op σ E
  Res
    | .look => σ
    | .modify _ => Unit
    | .ask c => E.Res c

/-- A question and its answer. -/
structure Entry (E : Signature) where
  cmd : E.Cmd
  res : E.Res cmd

/-- The state of a component with all it has asked so far. -/
structure World (σ : Type) (E : Signature) where
  self : σ
  log : List (Entry E)

abbrev Oracle (E : Signature) := Nat → (c : E.Cmd) → E.Res c

abbrev Component (σ : Type) (E : Signature) (ε : Type) : Type → Type := Prog (opSignature σ E) ε

section
variable {σ ε α : Type} {E : Signature}

@[simp] def answer (oracle : Oracle E) : Handler (opSignature σ E) (World σ E)
  | .look, w => (w.self,w)
  | .modify f, w => ((),{ w with self := f w.self })
  | .ask c, w => (oracle w.log.length c,{ w with log := w.log ++ [⟨c,oracle w.log.length c⟩] })

@[simp] def look : Component σ E ε σ := command (S := opSignature σ E) .look
@[simp] def modify (f : σ → σ) : Component σ E ε Unit := command (S := opSignature σ E) (.modify f)
@[simp] def ask (c : E.Cmd) : Component σ E ε (E.Res c) := command (S := opSignature σ E) (.ask c)

def Op.Asks (φ : E.Cmd → Prop) : Op σ E → Prop
  | .ask c => φ c
  | _ => True

/-- Every question the program can ask satisfies `φ`. -/
def Asks (φ : E.Cmd → Prop) (p : Component σ E ε α) : Prop := Issues (S := opSignature σ E) (Op.Asks φ) p

variable {φ : E.Cmd → Prop} {β : Type}

@[simp] theorem asks_pure (a : α) : Asks φ (pure a : Component σ E ε α) := trivial
@[simp] theorem asks_look : Asks φ (look : Component σ E ε σ) := ⟨trivial,fun _ => trivial⟩
@[simp] theorem asks_modify (f : σ → σ) : Asks φ (modify f : Component σ E ε Unit) := ⟨trivial,fun _ => trivial⟩

theorem asks_ask {c : E.Cmd} (holds : φ c) : Asks φ (ask c : Component σ E ε (E.Res c)) :=
  ⟨holds,fun _ => trivial⟩

theorem asks_bind {p : Component σ E ε α} {f : α → Component σ E ε β} (first : Asks φ p)
    (rest : ∀ a, Asks φ (f a)) : Asks φ (p >>= f) := issues_bind first rest

theorem asks_mono {ψ : E.Cmd → Prop} (weaker : ∀ c, φ c → ψ c) {p : Component σ E ε α} (asked : Asks φ p) :
    Asks ψ p := by
  refine issues_mono ?_ asked
  intro c asks
  cases c with
  | ask c => exact weaker c asks
  | look => trivial
  | modify f => trivial

theorem exec_asks {p : Component σ E ε α} (asked : Asks φ p) (oracle : Oracle E) (w : World σ E) :
    ∃ added, (exec (answer oracle) p w).2.log = w.log ++ added ∧ ∀ entry ∈ added, φ entry.cmd := by
  induction p generalizing w with
  | ret a => exact ⟨[],by simp,by simp⟩
  | raise e => exact ⟨[],by simp,by simp⟩
  | call c k ih =>
    cases c with
    | look => exact ih _ (asked.2 _) _
    | modify f => exact ih _ (asked.2 _) _
    | ask c =>
      obtain ⟨added,log,each⟩ := ih _ (asked.2 _) (answer oracle (.ask c) w).2
      refine ⟨⟨c,oracle w.log.length c⟩ :: added,?_,?_⟩
      · change (exec (answer oracle) (k _) (answer oracle (.ask c) w).2).2.log = _
        rw [log]
        simp [answer]
      · intro entry member
        rcases List.mem_cons.mp member with rfl | later
        · exact asked.1
        · exact each entry later

end
end Automation.Effects
