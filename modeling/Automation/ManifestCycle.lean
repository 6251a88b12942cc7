import Automation.Digraph
import Mathlib.Algebra.BigOperators.Group.List.Basic
import Mathlib.Algebra.Ring.Nat
import Mathlib.Data.List.Sort
import Mathlib.Data.String.Basic
import Mathlib.Data.Finset.Basic
import Mathlib.Data.Finset.Card
import Mathlib.Logic.Function.Basic
import Mathlib.Tactic.Common

/-!
The cycle check of the services manifest. The loader joins the dependencies of the entries to
a graph on their names and searches it depth first, in three colours: it ends, and refuses the
manifest with a cycle of the graph or where the graph has none passes it (`check_spec`).
-/
namespace Automation.ManifestCycle
open Relation (TransGen ReflTransGen)
open Automation.Digraph

inductive ServiceKind
  | http_service | worker | ui | infra | sidecar | external
  deriving DecidableEq

/-- What the loader and the plan read of an entry that passed the schema. -/
structure ServiceEntry where
  name : String
  kind : ServiceKind
  depends_on_services : List String

def names (services : List ServiceEntry) : List String := services.map ServiceEntry.name

/-- The neighbours of a name, of all entries that have it; names of no entry are skipped. -/
def adjacency (services : List ServiceEntry) (name : String) : List String :=
  (services.filter fun entry => entry.name = name).flatMap fun entry =>
    entry.depends_on_services.filter fun dep => dep ∈ names services

inductive Colour
  | white | gray | black
  deriving DecidableEq

structure Search where
  colour : String → Colour
  parent : String → Option String
  stack : List (String × List String)

structure ManifestLoadError where
  cycle : List String

def ManifestLoadError.message (error : ManifestLoadError) : String :=
  "services.manifest.json depends_on_services graph contains a cycle: " ++ " -> ".intercalate error.cycle

/-- The loop of `_extract_cycle`, with the number of names as its limit. -/
def climb (parent : String → Option String) (goal : String) : Nat → Option String → List String → List String
  | 0, _, path => path
  | _+1, none, path => path
  | limit+1, some node, path => if node = goal then path else climb parent goal limit (parent node) (path ++ [node])

def extract_cycle (parent : String → Option String) (limit : Nat) (start goal : String) : List String :=
  (climb parent goal limit (some start) [goal] ++ [goal]).reverse

section
variable (adj : String → List String) (limit : Nat)

/-- One turn of the inner loop; there is none with an empty stack. -/
def turn (s : Search) : Option (Except ManifestLoadError Search) :=
  match s.stack with
  | [] => none
  | (node,[]) :: rest => some (.ok { s with colour := Function.update s.colour node .black, stack := rest })
  | (node,neighbour :: pending) :: rest =>
    match s.colour neighbour with
    | .gray => some (.error ⟨extract_cycle s.parent limit node neighbour⟩)
    | .white => some (.ok {
        colour := Function.update s.colour neighbour .gray
        parent := Function.update s.parent neighbour (some node)
        stack := (neighbour,adj neighbour) :: (node,pending) :: rest })
    | .black => some (.ok { s with stack := (node,pending) :: rest })

/-- The inner loop; `none` is a fuel that was too small. -/
def search : Nat → Search → Option (Except ManifestLoadError Search)
  | 0, _ => none
  | fuel+1, s =>
    match turn adj limit s with
    | none => some (.ok s)
    | some (.error error) => some (.error error)
    | some (.ok next) => search fuel next

def seed (root : String) (s : Search) : Search where
  colour := Function.update s.colour root .gray
  parent := Function.update s.parent root none
  stack := [(root,adj root)]

def search_roots (fuel : Nat) : List String → Search → Option (Except ManifestLoadError Search)
  | [], s => some (.ok s)
  | root :: roots, s =>
    if s.colour root ≠ .white then search_roots fuel roots s
    else
      match search adj limit fuel (seed adj root s) with
      | some (.ok next) => search_roots fuel roots next
      | stopped => stopped

/-- A bound on the turns of a search. -/
def work (roots : List String) : Nat := (roots.map fun name => (adj name).length + 2).sum

end

def sorted_names (services : List ServiceEntry) : List String :=
  (names services).dedup.insertionSort fun a b => a ≤ b

def unseen : Search := ⟨fun _ => .white,fun _ => none,[]⟩

def check_no_dependency_cycles (services : List ServiceEntry) : Option (Except ManifestLoadError Unit) :=
  let roots := sorted_names services
  let adj := adjacency services
  (search_roots adj roots.length (work adj roots) roots unseen).map fun result => result.map fun _ => ()

/-- The graph of the manifest. -/
def ManifestEdge (services : List ServiceEntry) (name dep : String) : Prop := dep ∈ adjacency services name

section
variable {parent : String → Option String} {goal : String} {after : List String}

theorem climb_eq : ∀ {before : List String} {limit : Nat} (path : List String), goal ∉ before → before.length < limit →
    (before ++ goal :: after).IsChain (fun child par => parent child = some par) →
    climb parent goal limit (before ++ goal :: after).head? path = path ++ before
  | [], limit+1, path, _, _, _ => by simp [climb]
  | [node], limit+1, path, other, short, chain => by
    have apart : node ≠ goal := fun same => other (by simp [same])
    have up : parent node = some goal := by simpa using (List.isChain_cons_cons.mp chain).1
    obtain ⟨rest,rfl⟩ : ∃ rest, limit = rest + 1 := ⟨limit-1,by simp at short; omega⟩
    simp [climb,apart,up]
  | node :: next :: before, limit+1, path, other, short, chain => by
    have apart : node ≠ goal := fun same => other (by simp [same])
    obtain ⟨up,chain⟩ := List.isChain_cons_cons.mp chain
    have shorter : (next :: before).length < limit := by
      simp only [List.length_cons] at short ⊢
      omega
    have rest := climb_eq (path ++ [node]) (fun member => other (List.mem_cons_of_mem _ member)) shorter chain
    show climb parent goal (limit+1) (some node) path = _
    rw [climb,if_neg apart,up]
    rw [List.append_assoc] at rest
    exact rest

end

section
variable {adj : String → List String} {roots : List String} {limit : Nat} {s : Search}

/-- A neighbour of a node on the stack is still pending, black, or the node above it. -/
def Frames (adj : String → List String) (colour : String → Colour) : Option String → List (String × List String) → Prop
  | _, [] => True
  | above, (node,pending) :: rest =>
    (∀ dep ∈ adj node, dep ∈ pending ∨ colour dep = .black ∨ above = some dep) ∧ Frames adj colour (some node) rest

theorem Frames.mono {colour colour' : String → Colour} (keeps : ∀ n, colour n = .black → colour' n = .black) :
    ∀ {above : Option String} {stack : List (String × List String)}, Frames adj colour above stack →
      Frames adj colour' above stack
  | _, [], _ => trivial
  | _, (node,pending) :: rest, frames => by
    refine ⟨fun dep member => ?_,Frames.mono keeps frames.2⟩
    obtain later | done | above := frames.1 dep member
    · exact .inl later
    · exact .inr (.inl (keeps dep done))
    · exact .inr (.inr above)

theorem Frames.pop {colour : String → Colour} {node : String} {stack : List (String × List String)}
    (frames : Frames adj colour (some node) stack) (black : colour node = .black) : Frames adj colour none stack := by
  cases stack with
  | nil => trivial
  | cons frame rest =>
    obtain ⟨top,below⟩ := frames
    refine ⟨fun dep member => ?_,below⟩
    obtain later | done | above := top dep member
    · exact .inl later
    · exact .inr (.inl done)
    · cases above
      exact .inr (.inl black)

/-- The stack is a path of grey nodes, by the parents; the black nodes are finished. -/
structure Inv (adj : String → List String) (roots : List String) (s : Search) : Prop where
  chain : (s.stack.map Prod.fst).IsChain fun child par => child ∈ adj par ∧ s.parent child = some par
  gray : ∀ n, s.colour n = .gray ↔ n ∈ s.stack.map Prod.fst
  nodup : (s.stack.map Prod.fst).Nodup
  known : ∀ n ∈ s.stack.map Prod.fst, n ∈ roots
  pending : ∀ frame ∈ s.stack, ∀ dep ∈ frame.2, dep ∈ adj frame.1
  frames : Frames adj s.colour none s.stack
  finished : Finished (fun n dep => dep ∈ adj n) fun n => s.colour n = .black

/-- The names that the search has not met. -/
def whites (roots : List String) (colour : String → Colour) : List String := roots.filter fun n => colour n = .white

/-- The turns that are left. -/
def left (adj : String → List String) (roots : List String) (s : Search) : Nat :=
  work adj (whites roots s.colour) + (s.stack.map fun frame => frame.2.length + 1).sum

theorem work_whites_update (adj : String → List String) {colour : String → Colour} {node : String} {c : Colour} (met : c ≠ .white)
    (white : colour node = .white) : ∀ {roots : List String}, roots.Nodup → node ∈ roots →
    work adj (whites roots (Function.update colour node c)) + ((adj node).length + 2) = work adj (whites roots colour)
  | root :: roots, nodup, member => by
    obtain ⟨fresh,nodup⟩ := List.nodup_cons.mp nodup
    by_cases same : root = node
    · subst same
      have others : whites roots (Function.update colour root c) = whites roots colour := by
        apply List.filter_congr
        intro n there
        have apart : n ≠ root := fun same => fresh (same ▸ there)
        rw [Function.update_of_ne apart]
      have head : whites (root :: roots) (Function.update colour root c) = whites roots colour := by
        rw [← others]
        simp [whites,met]
      have before : whites (root :: roots) colour = root :: whites roots colour := by simp [whites,white]
      rw [head,before]
      simp only [work,List.map_cons,List.sum_cons]
      omega
    · have there : node ∈ roots := (List.mem_cons.mp member).resolve_left fun eq => same eq.symm
      have rest := work_whites_update adj met white nodup there
      have kept : Function.update colour node c root = colour root := Function.update_of_ne same ..
      by_cases open_root : colour root = .white
      · have now : whites (root :: roots) (Function.update colour node c) =
            root :: whites roots (Function.update colour node c) := by simp [whites,kept,open_root]
        have before : whites (root :: roots) colour = root :: whites roots colour := by simp [whites,open_root]
        rw [now,before]
        simp only [work,List.map_cons,List.sum_cons] at rest ⊢
        omega
      · have now : whites (root :: roots) (Function.update colour node c) =
            whites roots (Function.update colour node c) := by simp [whites,kept,open_root]
        have before : whites (root :: roots) colour = whites roots colour := by simp [whites,open_root]
        rw [now,before]
        exact rest

theorem whites_update_of_ne {colour : String → Colour} {node : String} {c : Colour} (met : c ≠ .white)
    (known : colour node ≠ .white) : whites roots (Function.update colour node c) = whites roots colour := by
  apply List.filter_congr
  intro n _
  by_cases same : n = node
  · subst same
    simp [met,known]
  · rw [Function.update_of_ne same]

theorem work_whites_le (adj : String → List String) : ∀ roots : List String, ∀ colour, work adj (whites roots colour) ≤ work adj roots
  | [], _ => le_refl _
  | root :: roots, colour => by
    have rest := work_whites_le adj roots colour
    by_cases white : colour root = .white
    · have split : whites (root :: roots) colour = root :: whites roots colour := by simp [whites,white]
      rw [split]
      simp only [work,List.map_cons,List.sum_cons] at rest ⊢
      omega
    · have split : whites (root :: roots) colour = whites roots colour := by simp [whites,white]
      rw [split]
      simp only [work,List.map_cons,List.sum_cons] at rest ⊢
      omega

end

section
variable {adj : String → List String} {roots : List String} {limit : Nat} {s next : Search} {node neighbour : String}
  {pending : List String} {rest : List (String × List String)}

theorem Inv.pop (inv : Inv adj roots s) (top : s.stack = (node,[]) :: rest) :
    Inv adj roots { s with colour := Function.update s.colour node .black, stack := rest } := by
  obtain ⟨chain,gray,nodup,known,waits,frames,finished⟩ := inv
  rw [top] at chain gray nodup known waits frames
  obtain ⟨fresh,apart⟩ := List.nodup_cons.mp nodup
  have black : ∀ n, Function.update s.colour node .black n = .black ↔ n = node ∨ s.colour n = .black := by
    intro n
    by_cases same : n = node
    · simp [same]
    · simp [same]
  refine ⟨chain.tail,fun n => ?_,apart,fun n member => known n (List.mem_cons_of_mem _ member),
    fun frame member => waits frame (List.mem_cons_of_mem _ member),?_,?_⟩
  · by_cases same : n = node
    · subst same
      simpa using fresh
    · show Function.update s.colour node .black n = .gray ↔ n ∈ rest.map Prod.fst
      rw [Function.update_of_ne same,gray n]
      simp [same]
  · exact (frames.2.mono fun n done => (black n).mpr (.inr done)).pop (Function.update_self ..)
  · have open_node : s.colour node = .gray := (gray node).mpr List.mem_cons_self
    have done := finished.insert (by simp [open_node] : ¬ s.colour node = .black) fun dep member => by
      obtain later | done | above := frames.1 dep member
      · simp at later
      · exact done
      · simp at above
    have same : (fun n => Function.update s.colour node .black n = .black) = fun n => n = node ∨ s.colour n = .black :=
      funext fun n => propext (black n)
    show Finished _ fun n => Function.update s.colour node .black n = .black
    rw [same]
    exact done

theorem Inv.skip (inv : Inv adj roots s) (top : s.stack = (node,neighbour :: pending) :: rest)
    (black : s.colour neighbour = .black) : Inv adj roots { s with stack := (node,pending) :: rest } := by
  obtain ⟨chain,gray,nodup,known,waits,frames,finished⟩ := inv
  rw [top] at chain gray nodup known waits frames
  refine ⟨chain,gray,nodup,known,?_,⟨fun dep member => ?_,frames.2⟩,finished⟩
  · intro frame member dep waiting
    obtain rfl | below := List.mem_cons.mp member
    · exact waits (node,neighbour :: pending) List.mem_cons_self dep (List.mem_cons_of_mem _ waiting)
    · exact waits frame (List.mem_cons_of_mem _ below) dep waiting
  · obtain later | done | above := frames.1 dep member
    · obtain rfl | later := List.mem_cons.mp later
      · exact .inr (.inl black)
      · exact .inl later
    · exact .inr (.inl done)
    · simp at above

theorem Inv.push (inv : Inv adj roots s) (inside : ∀ n dep, dep ∈ adj n → dep ∈ roots)
    (top : s.stack = (node,neighbour :: pending) :: rest) (white : s.colour neighbour = .white) :
    Inv adj roots {
      colour := Function.update s.colour neighbour .gray
      parent := Function.update s.parent neighbour (some node)
      stack := (neighbour,adj neighbour) :: (node,pending) :: rest } := by
  obtain ⟨chain,gray,nodup,known,waits,frames,finished⟩ := inv
  rw [top] at chain gray nodup known waits frames
  have edge : neighbour ∈ adj node := waits _ List.mem_cons_self neighbour List.mem_cons_self
  have fresh : neighbour ∉ ((node,neighbour :: pending) :: rest).map Prod.fst := by
    intro there
    rw [(gray neighbour).mpr there] at white
    cases white
  have black : ∀ n, Function.update s.colour neighbour .gray n = .black ↔ s.colour n = .black := by
    intro n
    by_cases same : n = neighbour
    · simp [same,white]
    · simp [same]
  refine ⟨?_,fun n => ?_,List.nodup_cons.mpr ⟨fresh,nodup⟩,?_,?_,⟨fun dep member => .inl member,?_,?_⟩,?_⟩
  · refine List.isChain_cons_cons.mpr ⟨⟨edge,by simp⟩,?_⟩
    apply chain.imp_of_mem_imp
    intro child par there _ step
    have apart : child ≠ neighbour := fun same => fresh (same ▸ there)
    exact ⟨step.1,by simpa [apart] using step.2⟩
  · by_cases same : n = neighbour
    · simp [same]
    · show Function.update s.colour neighbour .gray n = .gray ↔ n ∈ neighbour :: node :: rest.map Prod.fst
      rw [Function.update_of_ne same,gray n]
      simp [same]
  · intro n member
    obtain rfl | old := List.mem_cons.mp member
    · exact inside node n edge
    · exact known n old
  · intro frame member dep waiting
    obtain rfl | old := List.mem_cons.mp member
    · exact waiting
    · obtain rfl | below := List.mem_cons.mp old
      · exact waits (node,neighbour :: pending) List.mem_cons_self dep (List.mem_cons_of_mem _ waiting)
      · exact waits frame (List.mem_cons_of_mem _ below) dep waiting
  · intro dep member
    obtain later | done | above := frames.1 dep member
    · obtain rfl | later := List.mem_cons.mp later
      · exact .inr (.inr rfl)
      · exact .inl later
    · exact .inr (.inl ((black dep).mpr done))
    · simp at above
  · exact frames.2.mono fun n done => (black n).mpr done
  · have same : (fun n => Function.update s.colour neighbour .gray n = .black) = fun n => s.colour n = .black :=
      funext fun n => propext (black n)
    show Finished _ fun n => Function.update s.colour neighbour .gray n = .black
    rw [same]
    exact finished

theorem Inv.cycle (inv : Inv adj roots s) (top : s.stack = (node,neighbour :: pending) :: rest)
    (gray : s.colour neighbour = .gray) (long : s.stack.length ≤ limit) :
    IsCycle (fun n dep => dep ∈ adj n) (extract_cycle s.parent limit node neighbour) := by
  have edge : neighbour ∈ adj node := by
    have waits := inv.pending
    rw [top] at waits
    exact waits _ List.mem_cons_self neighbour List.mem_cons_self
  have there := (inv.gray neighbour).mp gray
  obtain ⟨before,after,split,first⟩ := List.eq_append_cons_of_mem there
  have chain := inv.chain
  have head : (s.stack.map Prod.fst).head? = some node := by simp [top]
  have short : before.length < limit := by
    have lengths := congrArg List.length split
    simp only [List.length_map,List.length_append,List.length_cons] at lengths
    omega
  rw [split] at chain head
  have climbed := climb_eq [neighbour] first short (chain.imp fun _ _ step => step.2)
  rw [head] at climbed
  unfold extract_cycle
  rw [climbed]
  have path : (neighbour :: before ++ [neighbour]).IsChain fun child par => child ∈ adj par := by
    have down := (List.isChain_split.mp (chain.imp fun _ _ step => step.1)).1
    cases before with
    | nil =>
      have same : neighbour = node := by simpa using head
      subst same
      exact List.isChain_cons_cons.mpr ⟨edge,.singleton _⟩
    | cons under before =>
      have same : under = node := by simpa using head
      subst same
      exact List.isChain_cons_cons.mpr ⟨edge,down⟩
  have walk := List.isChain_reverse.mpr path
  have shape : (neighbour :: before ++ [neighbour]).reverse = neighbour :: before.reverse ++ [neighbour] := by simp
  have written : ([neighbour] ++ before ++ [neighbour]).reverse = neighbour :: before.reverse ++ [neighbour] := by simp
  rw [shape] at walk
  rw [written]
  exact isCycle_intro walk

theorem Inv.turn (inv : Inv adj roots s) (inside : ∀ n dep, dep ∈ adj n → dep ∈ roots) (distinct : roots.Nodup)
    (step : turn adj limit s = some (.ok next)) :
    Inv adj roots next ∧ left adj roots next < left adj roots s ∧ ∀ n, s.colour n ≠ .white → next.colour n ≠ .white := by
  unfold ManifestCycle.turn at step
  split at step
  · cases step
  · next node rest top =>
    cases step
    have gray : s.colour node = .gray := (inv.gray node).mpr (by simp [top])
    refine ⟨inv.pop top,?_,fun n met => ?_⟩
    · simp only [left,top,List.map_cons,List.sum_cons,List.length_nil]
      rw [whites_update_of_ne (by simp) (by simp [gray])]
      omega
    · by_cases same : n = node
      · simp [same]
      · simpa [same] using met
  · next node neighbour pending rest top =>
    split at step
    · cases step
    · next white =>
      cases step
      have known : neighbour ∈ roots :=
        inside node neighbour (inv.pending (node,neighbour :: pending) (by simp [top]) neighbour List.mem_cons_self)
      refine ⟨inv.push inside top white,?_,fun n met => ?_⟩
      · have fewer := work_whites_update adj (by decide : Colour.gray ≠ .white) white distinct known
        simp only [left,top,List.map_cons,List.sum_cons,List.length_cons]
        omega
      · by_cases same : n = neighbour
        · simp [same]
        · simpa [same] using met
    · next black =>
      cases step
      refine ⟨inv.skip top black,?_,fun n met => met⟩
      simp only [left,top,List.map_cons,List.sum_cons,List.length_cons]
      omega

theorem Inv.stops (inv : Inv adj roots s) {error : ManifestLoadError}
    (step : ManifestCycle.turn adj roots.length s = some (.error error)) :
    IsCycle (fun n dep => dep ∈ adj n) error.cycle := by
  unfold ManifestCycle.turn at step
  split at step
  · cases step
  · cases step
  · next node neighbour pending rest top =>
    split at step
    · next gray =>
      cases step
      refine inv.cycle top gray ?_
      have few := (List.subperm_of_subset inv.nodup inv.known).length_le
      rw [List.length_map] at few
      exact few
    · cases step
    · cases step

theorem Inv.idle (step : ManifestCycle.turn adj limit s = none) : s.stack = [] := by
  unfold ManifestCycle.turn at step
  split at step
  · assumption
  · cases step
  · split at step <;> cases step

end

section
variable {adj : String → List String} {roots : List String} {s : Search}

/-- A search that started from `s`, with the names of `todo` behind it. -/
def Searched (adj : String → List String) (roots todo : List String) (s : Search) : Except ManifestLoadError Search → Prop
  | .error error => IsCycle (fun n dep => dep ∈ adj n) error.cycle
  | .ok next => Inv adj roots next ∧ next.stack = [] ∧ (∀ n ∈ todo, next.colour n ≠ .white) ∧
      ∀ n, s.colour n ≠ .white → next.colour n ≠ .white

theorem search_spec (inside : ∀ n dep, dep ∈ adj n → dep ∈ roots) (distinct : roots.Nodup) :
    ∀ (fuel : Nat) (s : Search), Inv adj roots s → left adj roots s < fuel →
      ∃ result, search adj roots.length fuel s = some result ∧ Searched adj roots [] s result
  | 0, s, _, enough => absurd enough (Nat.not_lt_zero _)
  | fuel+1, s, inv, enough => by
    rw [search]
    cases step : turn adj roots.length s with
    | none => exact ⟨.ok s,rfl,inv,Inv.idle step,fun n member => absurd member List.not_mem_nil,fun _ met => met⟩
    | some result =>
      cases result with
      | error error => exact ⟨.error error,rfl,inv.stops step⟩
      | ok next =>
        obtain ⟨kept,fewer,mono⟩ := inv.turn inside distinct step
        obtain ⟨result,run,searched⟩ := search_spec inside distinct fuel next kept (by omega)
        refine ⟨result,run,?_⟩
        cases result with
        | error error => exact searched
        | ok last =>
          obtain ⟨good,empty,behind,rest⟩ := searched
          exact ⟨good,empty,behind,fun n met => rest n (mono n met)⟩

theorem Inv.seed (inv : Inv adj roots s) (empty : s.stack = []) {root : String} (known : root ∈ roots)
    (white : s.colour root = .white) : Inv adj roots (seed adj root s) := by
  have black : ∀ n, Function.update s.colour root .gray n = .black ↔ s.colour n = .black := by
    intro n
    by_cases same : n = root
    · simp [same,white]
    · simp [same]
  refine ⟨.singleton _,fun n => ?_,by simp [ManifestCycle.seed],?_,?_,⟨fun dep member => .inl member,trivial⟩,?_⟩
  · have none_gray : s.colour n ≠ .gray := by
      rw [Ne,inv.gray n,empty]
      simp
    by_cases same : n = root
    · simp [ManifestCycle.seed,same]
    · simp [ManifestCycle.seed,same,none_gray]
  · intro n member
    have same : n = root := by simpa [ManifestCycle.seed] using member
    exact same ▸ known
  · intro frame member dep waiting
    have same : frame = (root,adj root) := by simpa [ManifestCycle.seed] using member
    subst same
    exact waiting
  · have same : (fun n => Function.update s.colour root .gray n = .black) = fun n => s.colour n = .black :=
      funext fun n => propext (black n)
    show Finished _ fun n => Function.update s.colour root .gray n = .black
    rw [same]
    exact inv.finished

theorem left_seed (distinct : roots.Nodup) {root : String} (known : root ∈ roots) (white : s.colour root = .white) :
    left adj roots (seed adj root s) < work adj roots := by
  have fewer := work_whites_update adj (by decide : Colour.gray ≠ .white) white distinct known
  have most := work_whites_le adj roots s.colour
  simp only [left,seed,List.map_cons,List.map_nil,List.sum_cons,List.sum_nil]
  omega

theorem search_roots_spec (inside : ∀ n dep, dep ∈ adj n → dep ∈ roots) (distinct : roots.Nodup) :
    ∀ (todo : List String) (s : Search), (∀ n ∈ todo, n ∈ roots) → Inv adj roots s → s.stack = [] →
      ∃ result, search_roots adj roots.length (work adj roots) todo s = some result ∧ Searched adj roots todo s result
  | [], s, _, inv, empty =>
    ⟨.ok s,rfl,inv,empty,fun n member => absurd member List.not_mem_nil,fun _ met => met⟩
  | root :: todo, s, sub, inv, empty => by
    have known := sub root List.mem_cons_self
    have sub' := fun n member => sub n (List.mem_cons_of_mem root member)
    rw [search_roots]
    by_cases white : s.colour root = .white
    · rw [if_neg (by simp [white])]
      obtain ⟨result,run,searched⟩ := search_spec inside distinct _ _ (inv.seed empty known white)
        (left_seed distinct known white)
      rw [run]
      cases result with
      | error error => exact ⟨.error error,rfl,searched⟩
      | ok next =>
        obtain ⟨good,bare,_,mono⟩ := searched
        obtain ⟨result,run,searched⟩ := search_roots_spec inside distinct todo next sub' good bare
        refine ⟨result,run,?_⟩
        have seeded : ∀ n, n = root ∨ s.colour n ≠ .white → next.colour n ≠ .white := by
          intro n met
          apply mono n
          by_cases same : n = root
          · simp [seed,same]
          · simpa [seed,same] using met
        cases result with
        | error error => exact searched
        | ok last =>
          obtain ⟨good,bare,behind,rest⟩ := searched
          refine ⟨good,bare,fun n member => ?_,fun n met => rest n (seeded n (.inr met))⟩
          obtain rfl | later := List.mem_cons.mp member
          · exact rest n (seeded n (.inl rfl))
          · exact behind n later
    · rw [if_pos white]
      obtain ⟨result,run,searched⟩ := search_roots_spec inside distinct todo s sub' inv empty
      refine ⟨result,run,?_⟩
      cases result with
      | error error => exact searched
      | ok last =>
        obtain ⟨good,bare,behind,rest⟩ := searched
        refine ⟨good,bare,fun n member => ?_,rest⟩
        obtain rfl | later := List.mem_cons.mp member
        · exact rest n white
        · exact behind n later

end

section
variable {services : List ServiceEntry}

theorem mem_sorted_names {name : String} : name ∈ sorted_names services ↔ name ∈ names services := by
  rw [sorted_names,List.mem_insertionSort,List.mem_dedup]

theorem nodup_sorted_names : (sorted_names services).Nodup :=
  (List.perm_insertionSort _ _).nodup_iff.mpr (List.nodup_dedup _)

theorem mem_adjacency {name dep : String} : dep ∈ adjacency services name ↔
    (∃ entry ∈ services, entry.name = name ∧ dep ∈ entry.depends_on_services) ∧ dep ∈ names services := by
  unfold adjacency
  simp only [List.mem_flatMap,List.mem_filter,decide_eq_true_eq]
  constructor
  · rintro ⟨entry,⟨member,same⟩,listed,known⟩
    exact ⟨⟨entry,member,same,listed⟩,known⟩
  · rintro ⟨⟨entry,member,same,listed⟩,known⟩
    exact ⟨entry,⟨member,same⟩,listed,known⟩

theorem unseen_inv {adj : String → List String} {roots : List String} : Inv adj roots unseen where
  chain := .nil
  gray n := by simp [unseen]
  nodup := List.nodup_nil
  known n member := by simp [unseen] at member
  pending frame member := by simp [unseen] at member
  frames := trivial
  finished := ⟨fun n done => by simp [unseen] at done,fun n done => by simp [unseen] at done⟩

theorem check_spec (services : List ServiceEntry) :
    (check_no_dependency_cycles services = some (.ok ()) ∧ ¬ Cyclic (ManifestEdge services)) ∨
      ∃ error, check_no_dependency_cycles services = some (.error error) ∧ IsCycle (ManifestEdge services) error.cycle := by
  have inside : ∀ n dep, dep ∈ adjacency services n → dep ∈ sorted_names services :=
    fun n dep edge => mem_sorted_names.mpr (mem_adjacency.mp edge).2
  obtain ⟨result,run,searched⟩ := search_roots_spec inside nodup_sorted_names (sorted_names services) unseen
    (fun _ member => member) unseen_inv rfl
  have checked : check_no_dependency_cycles services = some (result.map fun _ => ()) := by
    show (search_roots _ _ _ _ _).map _ = _
    rw [run]
    rfl
  cases result with
  | error error => exact .inr ⟨error,checked,searched⟩
  | ok last =>
    obtain ⟨inv,empty,behind,_⟩ := searched
    refine .inl ⟨checked,?_⟩
    apply inv.finished.not_cyclic
    intro name dep edge
    obtain ⟨⟨entry,member,same,_⟩,_⟩ := mem_adjacency.mp edge
    have met := behind name (mem_sorted_names.mpr (List.mem_map.mpr ⟨entry,member,same⟩))
    cases colour : last.colour name with
    | white => exact absurd colour met
    | gray =>
      have there := (inv.gray name).mp colour
      rw [empty] at there
      simp at there
    | black => rfl

end

end Automation.ManifestCycle
