import Mathlib.Logic.Relation
import Mathlib.Data.List.Chain
import Mathlib.Tactic.Common

/-!
Cycles and orders of a directed graph that is given by its edges. A closed walk is a cycle
(`IsCycle.cyclic`), what a search has finished stays free of cycles (`Finished.insert`), and a
list with its dependencies first holds all that its members reach (`DependenciesFirst.reach`).
-/
namespace Automation.Digraph
open Relation (TransGen ReflTransGen)

section
variable {α : Type} {Edge : α → α → Prop}

/-- A walk along at least one edge that ends where it starts. -/
structure IsCycle (Edge : α → α → Prop) (path : List α) : Prop where
  walk : path.IsChain Edge
  moves : 2 ≤ path.length
  closed : path.head? = path.getLast?

def Cyclic (Edge : α → α → Prop) : Prop := ∃ node, TransGen Edge node node

theorem walk_reach : ∀ {middle : List α} {first last : α}, (first :: middle ++ [last]).IsChain Edge →
    TransGen Edge first last
  | [], first, last, walk => by
    rw [List.cons_append,List.nil_append,List.isChain_cons_cons] at walk
    exact .single walk.1
  | next :: middle, first, last, walk => by
    rw [List.cons_append,List.cons_append,List.isChain_cons_cons] at walk
    exact .head walk.1 (walk_reach walk.2)

theorem isCycle_intro {node : α} {middle : List α} (walk : (node :: middle ++ [node]).IsChain Edge) :
    IsCycle Edge (node :: middle ++ [node]) where
  walk := walk
  moves := by simp
  closed := by rw [List.getLast?_concat,List.cons_append,List.head?_cons]

theorem IsCycle.cyclic {path : List α} (cycle : IsCycle Edge path) : Cyclic Edge := by
  obtain ⟨walk,moves,closed⟩ := cycle
  obtain rfl | ⟨front,last,rfl⟩ := path.eq_nil_or_concat'
  · simp at moves
  · cases front with
    | nil => simp at moves
    | cons first middle =>
      rw [List.getLast?_concat,List.cons_append,List.head?_cons] at closed
      have same : first = last := Option.some.inj closed
      subst same
      exact ⟨first,walk_reach walk⟩

/-- Nodes that no edge leaves and that lie on no cycle. -/
structure Finished (Edge : α → α → Prop) (done : α → Prop) : Prop where
  closed : ∀ node, done node → ∀ next, Edge node next → done next
  acyclic : ∀ node, done node → ¬ TransGen Edge node node

variable {done : α → Prop}

theorem Finished.reach (finished : Finished Edge done) {node target : α} (start : done node)
    (path : ReflTransGen Edge node target) : done target := by
  induction path with
  | refl => exact start
  | tail _ edge ih => exact finished.closed _ ih _ edge

theorem Finished.insert (finished : Finished Edge done) {node : α} (fresh : ¬ done node)
    (nexts : ∀ next, Edge node next → done next) : Finished Edge fun n => n = node ∨ done n where
  closed n member next edge := by
    obtain rfl | old := member
    · exact .inr (nexts next edge)
    · exact .inr (finished.closed n old next edge)
  acyclic n member loop := by
    obtain rfl | old := member
    · obtain ⟨next,edge,path⟩ := TransGen.head'_iff.mp loop
      exact fresh (finished.reach (nexts next edge) path)
    · exact finished.acyclic n old loop

theorem Finished.not_cyclic (finished : Finished Edge done) (all : ∀ node next, Edge node next → done node) :
    ¬ Cyclic Edge := by
  rintro ⟨node,loop⟩
  obtain ⟨next,edge,_⟩ := TransGen.head'_iff.mp loop
  exact finished.acyclic node (all node next edge) loop

/-- Every member stands behind all that it points at. -/
def DependenciesFirst (Edge : α → α → Prop) (order : List α) : Prop :=
  ∀ before node after, order = before ++ node :: after → ∀ next, Edge node next → next ∈ before

variable {order : List α} {node next : α}

theorem dependenciesFirst_nil : DependenciesFirst Edge [] := by
  intro before node after split
  simp at split

theorem DependenciesFirst.concat (first : DependenciesFirst Edge order) (ready : ∀ next, Edge node next → next ∈ order) :
    DependenciesFirst Edge (order ++ [node]) := by
  intro before n after split next edge
  obtain rfl | ⟨after,last,rfl⟩ := after.eq_nil_or_concat'
  · obtain ⟨rfl,same⟩ := List.append_inj' split rfl
    cases same
    exact ready next edge
  · rw [← List.cons_append,← List.append_assoc] at split
    exact first before n after (List.append_inj' split rfl).1 next edge

theorem DependenciesFirst.closed (first : DependenciesFirst Edge order) (member : node ∈ order) (edge : Edge node next) :
    next ∈ order := by
  obtain ⟨before,after,rfl⟩ := List.append_of_mem member
  exact List.mem_append_left _ (first before node after rfl next edge)

theorem DependenciesFirst.reach (first : DependenciesFirst Edge order) (member : node ∈ order) {target : α}
    (path : ReflTransGen Edge node target) : target ∈ order := by
  induction path with
  | refl => exact member
  | tail _ edge ih => exact first.closed ih edge

end
end Automation.Digraph
