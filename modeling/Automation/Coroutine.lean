import Automation.Effects

/-!
Workflows as coroutines with signal handlers. A workflow suspends in activities
and in waits; while it is suspended its signals are handled, in batches, and a
wait reads its condition when it begins and after every batch. An environment
fixes which signals each suspension sees, what each activity replies and what
the clock reads, so a statement for every environment is one for every order of
signals, replies and timeouts.
-/
namespace Automation.Coroutine
open Automation.Effects

structure Workflow where
  Self : Type
  Signal : Type
  Call : Type
  Reply : Type
  receive : Signal → Self → Self

/-- A condition may change the state it reads. -/
abbrev Condition (W : Workflow) := W.Self → Bool × W.Self

inductive Act (W : Workflow) where
  | look
  | modify (f : W.Self → W.Self)
  | clock
  | await (c : W.Call)
  | wait (ready : Condition W)

@[reducible] def acts (W : Workflow) : Signature where
  Cmd := Act W
  Res
    | .look => W.Self
    | .modify _ => Unit
    | .clock => Nat
    | .await _ => W.Reply
    | .wait _ => Bool

/-- By the number of the suspension: the signals handled during an activity and
    its reply, the batches of signals during a wait, and the time. -/
structure Environment (W : Workflow) where
  activity : Nat → W.Call → List W.Signal × W.Reply
  waiting : Nat → List (List W.Signal)
  clock : Nat → Nat

inductive Event (W : Workflow) where
  | began (c : W.Call)
  | handled (s : W.Signal)
  | replied (c : W.Call) (r : W.Reply)
  | waited (ended : Bool)

structure Run (W : Workflow) where
  self : W.Self
  turn : Nat
  events : List (Event W)

section
variable {W : Workflow}

/-- The handlers run in the order of the signals. -/
def handle (signals : List W.Signal) (self : W.Self) : W.Self := signals.foldl (fun self s => W.receive s self) self

@[simp] theorem handle_nil (self : W.Self) : handle ([] : List W.Signal) self = self := rfl

@[simp] theorem handle_cons (s : W.Signal) (signals : List W.Signal) (self : W.Self) :
    handle (s :: signals) self = handle signals (W.receive s self) := rfl

theorem handle_append (first second : List W.Signal) (self : W.Self) :
    handle (first ++ second) self = handle second (handle first self) := List.foldl_append

/-- A wait that its condition did not end at once: whether a batch ended it, the
    state then, and the signals handled until then. -/
def waitBatches (ready : Condition W) : List (List W.Signal) → W.Self → Bool × W.Self × List W.Signal
  | [], self => (false,self,[])
  | batch :: rest, self =>
    let checked := ready (handle batch self)
    if checked.1 then (true,checked.2,batch)
    else
      let later := waitBatches ready rest checked.2
      (later.1,later.2.1,batch ++ later.2.2)

def suspend (env : Environment W) : Handler (acts W) (Run W)
  | .look, r => (r.self,r)
  | .modify f, r => ((),{ r with self := f r.self })
  | .clock, r => (env.clock r.turn,r)
  | .await c, r =>
    let (signals,reply) := env.activity r.turn c
    (reply,{ self := handle signals r.self
             turn := r.turn + 1
             events := r.events ++ .began c :: signals.map .handled ++ [.replied c reply] })
  | .wait ready, r =>
    let entered := ready r.self
    if entered.1 then (true,{ r with self := entered.2, events := r.events ++ [.waited true] })
    else
      let waited := waitBatches ready (env.waiting r.turn) entered.2
      (waited.1,{ self := waited.2.1
                  turn := r.turn + 1
                  events := r.events ++ waited.2.2.map .handled ++ [.waited waited.1] })

@[simp] theorem suspend_look (env : Environment W) (r : Run W) : suspend env .look r = (r.self,r) := rfl

@[simp] theorem suspend_modify (env : Environment W) (f : W.Self → W.Self) (r : Run W) :
    suspend env (.modify f) r = ((),{ r with self := f r.self }) := rfl

@[simp] theorem suspend_await (env : Environment W) (c : W.Call) (r : Run W) :
    suspend env (.await c) r = ((env.activity r.turn c).2,
      { self := handle (env.activity r.turn c).1 r.self
        turn := r.turn + 1
        events := r.events ++ .began c :: (env.activity r.turn c).1.map .handled ++
          [.replied c (env.activity r.turn c).2] }) := rfl

theorem suspend_wait {env : Environment W} {ready : Condition W} {r : Run W} (pending : (ready r.self).1 = false) :
    suspend env (.wait ready) r =
      let waited := waitBatches ready (env.waiting r.turn) (ready r.self).2
      (waited.1,{ self := waited.2.1
                  turn := r.turn + 1
                  events := r.events ++ waited.2.2.map .handled ++ [.waited waited.1] }) := by
  simp [suspend,pending]

/-- A condition that leaves the state as it is. -/
def Reads (ready : Condition W) : Prop := ∀ self, (ready self).2 = self

theorem waitBatches_reads {ready : Condition W} (reads : Reads ready) (batches : List (List W.Signal)) (self : W.Self) :
    (waitBatches ready batches self).2.1 = handle (waitBatches ready batches self).2.2 self := by
  induction batches generalizing self with
  | nil => rfl
  | cons batch rest ih =>
    rw [waitBatches]
    split
    · exact reads _
    · rw [handle_append,ih,reads]

theorem suspend_wait_reads (env : Environment W) {ready : Condition W} (reads : Reads ready) (r : Run W) :
    ∃ signals ended turn, suspend env (.wait ready) r = (ended,
      { self := handle signals r.self, turn, events := r.events ++ signals.map .handled ++ [.waited ended] }) := by
  cases entered : (ready r.self).1 with
  | true => exact ⟨[],true,r.turn,by simp [suspend,entered,reads r.self]⟩
  | false =>
    let batches := env.waiting r.turn
    refine ⟨(waitBatches ready batches r.self).2.2,(waitBatches ready batches r.self).1,r.turn + 1,?_⟩
    rw [suspend_wait entered,reads r.self,← waitBatches_reads reads]

/-- Every call of the command is one of `ψ`. -/
def Act.Calls (ψ : W.Call → Prop) : Act W → Prop
  | .await c => ψ c
  | _ => True

theorem suspend_grows (env : Environment W) (c : Act W) (r : Run W) : r.events <+: (suspend env c r).2.events := by
  cases c with
  | look => exact List.prefix_rfl
  | modify f => exact List.prefix_rfl
  | clock => exact List.prefix_rfl
  | await c =>
    rw [suspend_await,List.append_assoc]
    exact List.prefix_append _ _
  | wait ready =>
    cases entered : (ready r.self).1 with
    | true =>
      simp only [suspend,entered,if_true]
      exact List.prefix_append _ _
    | false =>
      rw [suspend_wait entered]
      simp only [List.append_assoc]
      exact List.prefix_append _ _

theorem exec_grows {ε α : Type} (env : Environment W) (p : Prog (acts W) ε α) (r : Run W) :
    r.events <+: (exec (suspend env) p r).2.events :=
  exec_keeps (R := fun r t : Run W => r.events <+: t.events) (fun _ => List.prefix_rfl) (fun _ _ _ one two => one.trans two)
    (suspend env) (suspend_grows env) p r

/-- An event of a call is one of a call of `ψ`. -/
def Event.Calls (ψ : W.Call → Prop) : Event W → Prop
  | .began c => ψ c
  | .replied c _ => ψ c
  | _ => True

private theorem suspend_event (env : Environment W) {ψ : W.Call → Prop} {c : Act W} (calls : Act.Calls ψ c) (r : Run W)
    {e : Event W} (member : e ∈ (suspend env c r).2.events) : e ∈ r.events ∨ Event.Calls ψ e := by
  cases c with
  | look => exact .inl member
  | modify f => exact .inl member
  | clock => exact .inl member
  | await c =>
    simp only [suspend_await,List.mem_append,List.mem_cons,List.mem_map,List.not_mem_nil,or_false] at member
    rcases member with (old | rfl | ⟨_,_,rfl⟩) | rfl
    · exact .inl old
    · exact .inr calls
    · exact .inr trivial
    · exact .inr calls
  | wait ready =>
    cases entered : (ready r.self).1 with
    | true =>
      simp only [suspend,entered,if_true,List.mem_append,List.mem_singleton] at member
      rcases member with old | rfl
      · exact .inl old
      · exact .inr trivial
    | false =>
      simp only [suspend_wait entered,List.mem_append,List.mem_singleton,List.mem_map] at member
      rcases member with (old | ⟨_,_,rfl⟩) | rfl
      · exact .inl old
      · exact .inr trivial
      · exact .inr trivial

/-- The calls that a program begins, and that reply to it, are ones it can make. -/
theorem exec_event {ε α : Type} {ψ : W.Call → Prop} {p : Prog (acts W) ε α} (issued : Issues (Act.Calls ψ) p)
    (env : Environment W) (r : Run W) {e : Event W} (member : e ∈ (exec (suspend env) p r).2.events) :
    e ∈ r.events ∨ Event.Calls ψ e := by
  induction p generalizing r with
  | ret a => exact .inl member
  | raise e => exact .inl member
  | call c k ih =>
    rcases ih _ (issued.2 _) _ member with old | new
    · exact suspend_event env issued.1 r old
    · exact .inr new

end

section
variable {W : Workflow}

private theorem suspend_replied (env : Environment W) (c : Act W) (r : Run W) {b : W.Call} {reply : W.Reply}
    (member : .replied b reply ∈ (suspend env c r).2.events) :
    .replied b reply ∈ r.events ∨ ∃ turn, reply = (env.activity turn b).2 := by
  cases c with
  | look => exact .inl member
  | modify f => exact .inl member
  | clock => exact .inl member
  | await c =>
    simp only [suspend_await,List.mem_append,List.mem_cons,List.mem_map,List.not_mem_nil,or_false] at member
    rcases member with (old | no | ⟨_,_,no⟩) | now
    · exact .inl old
    · cases no
    · cases no
    · cases now
      exact .inr ⟨r.turn,rfl⟩
  | wait ready =>
    cases entered : (ready r.self).1 with
    | true =>
      simp only [suspend,entered,if_true,List.mem_append,List.mem_singleton] at member
      rcases member with old | no
      · exact .inl old
      · cases no
    | false =>
      simp only [suspend_wait entered,List.mem_append,List.mem_singleton,List.mem_map] at member
      rcases member with (old | ⟨_,_,no⟩) | no
      · exact .inl old
      · cases no
      · cases no

theorem exec_replied {ε α : Type} (env : Environment W) (p : Prog (acts W) ε α) (r : Run W) {b : W.Call} {reply : W.Reply}
    (member : .replied b reply ∈ (exec (suspend env) p r).2.events) :
    .replied b reply ∈ r.events ∨ ∃ turn, reply = (env.activity turn b).2 := by
  induction p generalizing r with
  | ret a => exact .inl member
  | raise e => exact .inl member
  | call c k ih =>
    rcases ih _ _ member with old | new
    · exact suspend_replied env c r old
    · exact .inr new

end

section
variable {ε : Type} {P : List ε → ε → Prop}

/-- Every event satisfies `P` of the events before it. -/
def Throughout (P : List ε → ε → Prop) (events : List ε) : Prop :=
  ∀ before e after, events = before ++ e :: after → P before e

theorem throughout_append {first second : List ε} (early : Throughout P first)
    (late : Throughout (fun before e => P (first ++ before) e) second) : Throughout P (first ++ second) := by
  intro before e after split
  rcases List.append_eq_append_iff.mp split with ⟨between,rfl,rest⟩ | ⟨between,rfl,rest⟩
  · exact late between e after rest
  · cases between with
    | nil =>
      have here := late [] e after (by simpa using rest.symm)
      simpa using here
    | cons event between =>
      obtain ⟨rfl,-⟩ := List.cons.inj rest
      exact early before _ between rfl

theorem throughout_of {events : List ε} (each : ∀ before, ∀ e ∈ events, P before e) : Throughout P events := by
  rintro before e after rfl
  exact each before e (by simp)

theorem Throughout.initial {events later : List ε} (holds : Throughout P later) (grown : events <+: later) :
    Throughout P events := by
  rintro before e after rfl
  obtain ⟨rest,rfl⟩ := grown
  exact holds before e (after ++ rest) (by simp)

end
end Automation.Coroutine
