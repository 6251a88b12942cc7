import Automation.Coroutine

/-!
What happens to the state of a workflow in a run, one move at a time: a signal is
handled, or the body changes the state. The moves of a run are linked: each finds
the state that the one before it left (`moves_linked`), so what every move keeps
holds in every state of the run (`linked_keeps`).
-/
namespace Automation.Moves
open Automation.Effects Automation.Coroutine

inductive Move (W : Workflow) where
  | received (s : W.Signal) (before : W.Self)
  | changed (before after : W.Self)

section
variable {W : Workflow}

def Move.before : Move W → W.Self
  | .received _ before => before
  | .changed before _ => before

def Move.after : Move W → W.Self
  | .received s before => W.receive s before
  | .changed _ after => after

/-- The moves of signals that are handled in turn. -/
def signalMoves : List W.Signal → W.Self → List (Move W)
  | [], _ => []
  | s :: rest, self => .received s self :: signalMoves rest (W.receive s self)

/-- The moves of a wait that its condition did not end at once. -/
def waitMoves (ready : Condition W) : List (List W.Signal) → W.Self → List (Move W)
  | [], _ => []
  | batch :: rest, self =>
    let checked := ready (handle batch self)
    signalMoves batch self ++ .changed (handle batch self) checked.2 ::
      if checked.1 then [] else waitMoves ready rest checked.2

def actMoves (env : Environment W) : Act W → Run W → List (Move W)
  | .look, _ => []
  | .modify f, r => [.changed r.self (f r.self)]
  | .clock, _ => []
  | .await c, r => signalMoves (env.activity r.turn c).1 r.self
  | .wait ready, r => .changed r.self (ready r.self).2 ::
      if (ready r.self).1 then [] else waitMoves ready (env.waiting r.turn) (ready r.self).2

variable {ε ε' α β : Type}

/-- The moves of a program that runs. -/
def moves (env : Environment W) : Prog (acts W) ε α → Run W → List (Move W)
  | .ret _, _ => []
  | .raise _, _ => []
  | .call c k, r => actMoves env c r ++ moves env (k (suspend env c r).1) (suspend env c r).2

theorem moves_bind (env : Environment W) (p : Prog (acts W) ε α) (f : α → Prog (acts W) ε β) (r : Run W) :
    moves env (p >>= f) r = moves env p r ++
      match exec (suspend env) p r with
      | (.ok a,t) => moves env (f a) t
      | (.error _,_) => [] := by
  change moves env (p.bind f) r = _
  induction p generalizing r with
  | ret a => rfl
  | raise e => rfl
  | call c k ih =>
    rw [Prog.bind,moves,ih,moves,List.append_assoc]
    rfl

/-- The run with its moves so far. -/
def logged (env : Environment W) : Handler (acts W) (Run W × List (Move W)) := fun c w =>
  ((suspend env c w.1).1,((suspend env c w.1).2,w.2 ++ actMoves env c w.1))

theorem exec_logged (env : Environment W) (p : Prog (acts W) ε α) (w : Run W × List (Move W)) :
    exec (logged env) p w = ((exec (suspend env) p w.1).1,((exec (suspend env) p w.1).2,w.2 ++ moves env p w.1)) := by
  induction p generalizing w with
  | ret a => simp [moves]
  | raise e => simp [moves]
  | call c k ih =>
    rw [exec_call,ih,exec_call,moves,logged,List.append_assoc]

/-- The moves lead from the first state to the last, each from where the one before it led. -/
def Linked : W.Self → List (Move W) → W.Self → Prop
  | self, [], last => self = last
  | self, m :: rest, last => m.before = self ∧ Linked m.after rest last

theorem linked_append {first middle last : W.Self} {ms ns : List (Move W)} (one : Linked first ms middle)
    (two : Linked middle ns last) : Linked first (ms ++ ns) last := by
  induction ms generalizing first with
  | nil =>
    cases one
    exact two
  | cons m rest ih => exact ⟨one.1,ih one.2⟩

theorem signalMoves_linked (signals : List W.Signal) (self : W.Self) :
    Linked self (signalMoves signals self) (handle signals self) := by
  induction signals generalizing self with
  | nil => rfl
  | cons s rest ih => exact ⟨rfl,ih _⟩

private theorem waitMoves_linked (ready : Condition W) (batches : List (List W.Signal)) (self : W.Self) :
    Linked self (waitMoves ready batches self) (waitBatches ready batches self).2.1 := by
  induction batches generalizing self with
  | nil => rfl
  | cons batch rest ih =>
    rw [waitMoves,waitBatches]
    refine linked_append (signalMoves_linked batch self) ⟨rfl,?_⟩
    cases ended : (ready (handle batch self)).1 with
    | true => rfl
    | false => exact ih _

private theorem actMoves_linked (env : Environment W) (c : Act W) (r : Run W) :
    Linked r.self (actMoves env c r) (suspend env c r).2.self := by
  cases c with
  | look => rfl
  | modify f => exact ⟨rfl,rfl⟩
  | clock => rfl
  | await c => exact signalMoves_linked _ _
  | wait ready =>
    refine ⟨rfl,?_⟩
    cases ended : (ready r.self).1 with
    | true => simp [Linked,Move.after,suspend,ended]
    | false =>
      rw [suspend_wait ended]
      exact waitMoves_linked ready _ _

theorem moves_linked (env : Environment W) (p : Prog (acts W) ε α) (r : Run W) :
    Linked r.self (moves env p r) (exec (suspend env) p r).2.self := by
  induction p generalizing r with
  | ret a => rfl
  | raise e => rfl
  | call c k ih => exact linked_append (actMoves_linked env c r) (ih _ _)

theorem linked_keeps {I : W.Self → Prop} {first last : W.Self} {ms : List (Move W)}
    (keep : ∀ m ∈ ms, I m.before → I m.after) (linked : Linked first ms last) (holds : I first) :
    (∀ m ∈ ms, I m.before ∧ I m.after) ∧ I last := by
  induction ms generalizing first with
  | nil =>
    cases linked
    refine ⟨?_,holds⟩
    intro m member
    cases member
  | cons m rest ih =>
    obtain ⟨first_keeps,rest_keep⟩ := List.forall_mem_cons.mp keep
    obtain ⟨rfl,linked⟩ := linked
    have kept := first_keeps holds
    obtain ⟨each,ended⟩ := ih rest_keep linked kept
    refine ⟨fun n member => ?_,ended⟩
    rcases List.mem_cons.mp member with rfl | later
    · exact ⟨holds,kept⟩
    · exact each n later

/-- Every change of the state by the command itself is one of `C`. -/
def Act.Changes (C : W.Self → W.Self → Prop) : Act W → Prop
  | .modify f => ∀ self, C self (f self)
  | .wait ready => ∀ self, C self (ready self).2
  | _ => True

/-- Every change among the moves is one of `C`. -/
def Changed (C : W.Self → W.Self → Prop) (ms : List (Move W)) : Prop :=
  ∀ before after, .changed before after ∈ ms → C before after

variable {C : W.Self → W.Self → Prop}

theorem changed_append {ms ns : List (Move W)} (one : Changed C ms) (two : Changed C ns) :
    Changed C (ms ++ ns) := by
  intro before after member
  rcases List.mem_append.mp member with first | second
  · exact one before after first
  · exact two before after second

theorem changed_signalMoves (C : W.Self → W.Self → Prop) (signals : List W.Signal) (self : W.Self) :
    Changed C (signalMoves signals self) := by
  induction signals generalizing self with
  | nil =>
    intro before after member
    cases member
  | cons s rest ih =>
    intro before after member
    rcases List.mem_cons.mp member with received | later
    · cases received
    · exact ih _ before after later

theorem changed_cons {before after : W.Self} {ms : List (Move W)}
    (first : C before after) (rest : Changed C ms) : Changed C (.changed before after :: ms) := by
  intro b a member
  rcases List.mem_cons.mp member with same | later
  · cases same
    exact first
  · exact rest b a later

private theorem changed_waitMoves {ready : Condition W} (each : ∀ self, C self (ready self).2)
    (batches : List (List W.Signal)) (self : W.Self) : Changed C (waitMoves ready batches self) := by
  induction batches generalizing self with
  | nil =>
    intro before after member
    cases member
  | cons batch rest ih =>
    refine changed_append (changed_signalMoves C batch self) (changed_cons (each _) ?_)
    split
    · intro before after member
      cases member
    · exact ih _

private theorem changed_actMoves (env : Environment W) {c : Act W}
    (changes : Act.Changes C c) (r : Run W) : Changed C (actMoves env c r) := by
  cases c with
  | modify f => exact changed_cons (changes r.self) fun _ _ member => by cases member
  | await c => exact changed_signalMoves C _ _
  | wait ready =>
    refine changed_cons (changes r.self) ?_
    split
    · intro before after member
      cases member
    · exact changed_waitMoves changes _ _
  | _ =>
    intro before after member
    cases member

/-- A program whose commands change the state by `C` makes no other change. -/
theorem moves_changed {p : Prog (acts W) ε α} (issued : Issues (Act.Changes C) p)
    (env : Environment W) (r : Run W) : Changed C (moves env p r) := by
  induction p generalizing r with
  | ret a =>
    intro before after member
    cases member
  | raise e =>
    intro before after member
    cases member
  | call c k ih => exact changed_append (changed_actMoves env issued.1 r) (ih _ (issued.2 _) _)

end
end Automation.Moves
