import Automation.Effects

/-!
Any number of calls of a program on one shared state. A call runs undisturbed from
one question to the next (`settle`); a turn lets a new call in or answers a call that
waits, so that the turns of a pool are an interleaving, and a call that is never
answered again has crashed. A program follows its rules where each of its stretches
keeps the invariant and does what the others rely on, whatever they did before it
(`Follows`); the invariant, and what the results are known to satisfy, then hold
after any turns (`turns_keep`).
-/
namespace Automation.RelyGuarantee
open Automation.Effects

section
variable {σ ε α ι : Type} {E : Signature}

/-- Run to the next question or to the end. -/
def settle : Component σ E ε α → σ → Component σ E ε α × σ
  | .ret a, s => (.ret a,s)
  | .raise e, s => (.raise e,s)
  | .call .look k, s => settle (k s) s
  | .call (.modify f) k, s => settle (k ()) (f s)
  | .call (.ask c) k, s => (.call (.ask c) k,s)

/-- The calls that came in, as far as they have run, and the results, the last one first. -/
structure Pool (ι σ : Type) (E : Signature) (ε α : Type) where
  shared : σ
  calls : List (ι × Component σ E ε α)
  results : List (ι × α)

inductive Turn (ι : Type) (E : Signature) where
  | enter (input : ι)
  | resume (n : Nat) (reply : (c : E.Cmd) → E.Res c)

def start (s : σ) : Pool ι σ E ε α := ⟨s,[],[]⟩

def returned (input : ι) : Component σ E ε α → List (ι × α)
  | .ret a => [(input,a)]
  | _ => []

def step (program : ι → Component σ E ε α) (pool : Pool ι σ E ε α) : Turn ι E → Pool ι σ E ε α
  | .enter input =>
    let run := settle (program input) pool.shared
    ⟨run.2,pool.calls ++ [(input,run.1)],returned input run.1 ++ pool.results⟩
  | .resume n reply =>
    match pool.calls[n]? with
    | some (input,.call (.ask c) k) =>
      let run := settle (k (reply c)) pool.shared
      ⟨run.2,pool.calls.set n (input,run.1),returned input run.1 ++ pool.results⟩
    | _ => pool

section
variable (inv : σ → Prop) (rely : σ → σ → Prop) (Q : α → σ → σ → Prop)

/-- The rest of a stretch that began in `s` and has come to `t`: where the stretch ends
    it has kept the rules, and so do the next ones wherever the others leave the state. -/
def Follows : Component σ E ε α → σ → σ → Prop
  | .ret a, s, t => inv t ∧ rely s t ∧ Q a s t
  | .raise _, s, t => inv t ∧ rely s t
  | .call .look k, s, t => Follows (k t) s t
  | .call (.modify f) k, s, t => Follows (k ()) s (f t)
  | .call (.ask _) k, s, t => inv t ∧ rely s t ∧ ∀ u, inv u → rely t u → ∀ r, Follows (k r) u u

/-- A call that waits follows the rules from every state that the others can leave. -/
def Waits : Component σ E ε α → σ → Prop
  | .call (.ask _) k, s => ∀ u, inv u → rely s u → ∀ r, Follows inv rely Q (k r) u u
  | _, _ => True

end

section
variable {inv : σ → Prop} {rely : σ → σ → Prop} {Q : ι → α → σ → σ → Prop} {J : List (ι × α) → σ → Prop}

theorem settle_follows {Q : α → σ → σ → Prop} {p : Component σ E ε α} {s t : σ} (follows : Follows inv rely Q p s t) :
    inv (settle p t).2 ∧ rely s (settle p t).2 ∧ Waits inv rely Q (settle p t).1 (settle p t).2 ∧
      ∀ a, (settle p t).1 = .ret a → Q a s (settle p t).2 := by
  induction p generalizing t with
  | ret a =>
    refine ⟨follows.1,follows.2.1,trivial,?_⟩
    rintro _ ⟨⟩
    exact follows.2.2
  | raise e => exact ⟨follows.1,follows.2,trivial,fun _ => nofun⟩
  | call c k ih =>
    cases c with
    | look => exact ih t follows
    | modify f => exact ih () follows
    | ask c => exact ⟨follows.1,follows.2.1,follows.2.2,fun _ => nofun⟩

/-- What a pool keeps: the invariant, the property of the results, and that every call
    follows the rules from here on. -/
structure Kept (inv : σ → Prop) (rely : σ → σ → Prop) (Q : ι → α → σ → σ → Prop) (J : List (ι × α) → σ → Prop)
    (pool : Pool ι σ E ε α) : Prop where
  holds : inv pool.shared
  known : J pool.results pool.shared
  waits : ∀ call ∈ pool.calls, Waits inv rely (Q call.1) call.2 pool.shared

theorem kept_start {s : σ} (holds : inv s) (known : J [] s) :
    Kept inv rely Q J (start s : Pool ι σ E ε α) :=
  ⟨holds,known,fun _ => nofun⟩

variable {program : ι → Component σ E ε α}
  (trans : ∀ a b c, rely a b → rely b c → rely a c)
  (stable : ∀ results s t, inv s → inv t → rely s t → J results s → J results t)
  (returns : ∀ input a results s t, inv s → inv t → rely s t → Q input a s t → J results s → J ((input,a) :: results) t)

include trans in
theorem waits_later {Q : α → σ → σ → Prop} {p : Component σ E ε α} {s t : σ} (later : rely s t)
    (waits : Waits inv rely Q p s) : Waits inv rely Q p t := by
  cases p with
  | ret a => trivial
  | raise e => trivial
  | call c k =>
    cases c with
    | ask c => exact fun u holds after => waits u holds (trans _ _ _ later after)
    | look => trivial
    | modify f => trivial

include stable returns in
theorem returned_known {pool : Pool ι σ E ε α} {input : ι} {p : Component σ E ε α} {t : σ} (now : inv t)
    (kept : Kept inv rely Q J pool) (after : rely pool.shared t) (ends : ∀ a, p = .ret a → Q input a pool.shared t) :
    J (returned input p ++ pool.results) t := by
  have same := stable pool.results pool.shared t kept.holds now after kept.known
  cases p with
  | ret a => exact returns input a pool.results pool.shared t kept.holds now after (ends a rfl) kept.known
  | raise e => exact same
  | call c k => exact same

include trans stable returns in
theorem step_keeps (refl : ∀ s, rely s s) (follows : ∀ input s, inv s → Follows inv rely (Q input) (program input) s s)
    (pool : Pool ι σ E ε α) (turn : Turn ι E) (kept : Kept inv rely Q J pool) :
    Kept inv rely Q J (step program pool turn) := by
  cases turn with
  | enter input =>
    obtain ⟨now,after,waits,ends⟩ := settle_follows (follows input pool.shared kept.holds)
    refine ⟨now,returned_known stable returns now kept after ends,?_⟩
    intro call member
    rcases List.mem_append.mp member with old | new
    · exact waits_later trans after (kept.waits call old)
    · rw [List.mem_singleton.mp new]
      exact waits
  | resume n reply =>
    simp only [step]
    split
    · next input c k found =>
      have waiting := kept.waits _ (List.mem_of_getElem? found)
      obtain ⟨now,after,waits,ends⟩ := settle_follows (waiting pool.shared kept.holds (refl _) (reply c))
      refine ⟨now,returned_known stable returns now kept after ends,?_⟩
      intro call member
      rcases List.mem_or_eq_of_mem_set member with old | rfl
      · exact waits_later trans after (kept.waits call old)
      · exact waits
    · exact kept

include trans stable returns in
theorem turns_keep (refl : ∀ s, rely s s) (follows : ∀ input s, inv s → Follows inv rely (Q input) (program input) s s)
    (turns : List (Turn ι E)) (pool : Pool ι σ E ε α) (kept : Kept inv rely Q J pool) :
    Kept inv rely Q J (turns.foldl (step program) pool) := by
  induction turns generalizing pool with
  | nil => exact kept
  | cons turn rest ih =>
    exact ih (step program pool turn) (step_keeps trans stable returns refl follows pool turn kept)

end
end
end Automation.RelyGuarantee
