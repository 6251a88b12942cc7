import Automation.Effects

/-!
Protocols that programs keep. A monitor follows the commands of a program and
their answers through phases: it says which commands a phase allows, which
answers are worth considering, and the phase after each. `Leads` is the weakest
precondition of a program under a monitor.
-/
namespace Automation.Effects

structure Monitor (S : Signature) (Phase : Type) where
  allowed : Phase → S.Cmd → Prop
  admits : (c : S.Cmd) → S.Res c → Prop
  next : Phase → (c : S.Cmd) → S.Res c → Phase

section
variable {S : Signature} {Phase ε α β : Type} {M : Monitor S Phase} {φ : Phase}

/-- From `φ` the program issues allowed commands only, as long as the answers
    are admitted, and returns in a phase that satisfies `Q`. -/
def Leads (M : Monitor S Phase) : Phase → Prog S ε α → (α → Phase → Prop) → Prop
  | φ, .ret a, Q => Q a φ
  | _, .raise _, _ => True
  | φ, .call c k, Q => M.allowed φ c ∧ ∀ r, M.admits c r → Leads M (M.next φ c r) (k r) Q

theorem leads_pure {a : α} {Q : α → Phase → Prop} (holds : Q a φ) : Leads M φ (pure a : Prog S ε α) Q := holds

theorem leads_command {c : S.Cmd} {Q : S.Res c → Phase → Prop} (allowed : M.allowed φ c)
    (holds : ∀ r, M.admits c r → Q r (M.next φ c r)) : Leads M φ (command c : Prog S ε (S.Res c)) Q :=
  ⟨allowed,holds⟩

theorem leads_bind {p : Prog S ε α} {f : α → Prog S ε β} {R : α → Phase → Prop} {Q : β → Phase → Prop}
    (first : Leads M φ p R) (rest : ∀ a ψ, R a ψ → Leads M ψ (f a) Q) : Leads M φ (p >>= f) Q := by
  change Leads M φ (p.bind f) Q
  induction p generalizing φ with
  | ret a => exact rest a φ first
  | raise e => trivial
  | call c k ih => exact ⟨first.1,fun r admitted => ih r (first.2 r admitted)⟩

theorem leads_ite {c : Prop} [Decidable c] {p q : Prog S ε α} {Q : α → Phase → Prop} (yes : c → Leads M φ p Q)
    (no : ¬c → Leads M φ q Q) : Leads M φ (if c then p else q) Q := by
  split
  · next holds => exact yes holds
  · next fails => exact no fails

theorem leads_issues {p : Prog S ε α} (issued : Issues (fun c => M.allowed φ c ∧ ∀ r, M.next φ c r = φ) p) :
    Leads M φ p fun _ ψ => ψ = φ := by
  induction p with
  | ret a => rfl
  | raise e => trivial
  | call c k ih =>
    obtain ⟨⟨allowed,keeps⟩,later⟩ := issued
    refine ⟨allowed,fun r _ => ?_⟩
    rw [keeps r]
    exact ih r (later r)

end
end Automation.Effects
