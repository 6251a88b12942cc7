import Automation.ManifestCycle

/-!
The start plan of a service. It walks the dependencies of its target and lists what a service
needs before the service. After the check of the loader a plan lists each managed service that
the target needs once (`manifest_plans_exact`). Entries of the kind `external` are in the
graph of the check, but not among the entries that the plan knows.
-/
namespace Automation.StartPlans
open Relation (TransGen ReflTransGen)
open Automation.Digraph Automation.ManifestCycle

inductive ServiceState
  | stopped | starting | running | unhealthy | failed | running_unmonitored
  deriving DecidableEq

/-- The entries that `load_manifest` hands on. -/
def managed (services : List ServiceEntry) : List ServiceEntry := services.filter fun entry => entry.kind ≠ .external

/-- The dictionary of the lifecycle service: of entries with one name it has the last. -/
def by_name (entries : List ServiceEntry) (name : String) : Option ServiceEntry :=
  entries.reverse.find? fun entry => entry.name = name

structure Walk where
  visited : List String
  post_order : List String

/-- The inner function `_walk`; the fuel bounds the depth of its calls. -/
def walk (lookup : String → Option ServiceEntry) : Nat → String → Walk → Option Walk
  | 0, _, _ => none
  | fuel+1, svc_name, w =>
    if svc_name ∈ w.visited then some w
    else
      match lookup svc_name with
      | none => some { w with visited := svc_name :: w.visited }
      | some dep_entry =>
        (dep_entry.depends_on_services.foldlM (fun w dep_name => walk lookup fuel dep_name w)
          { w with visited := svc_name :: w.visited }).map fun w =>
            { w with post_order := w.post_order ++ [svc_name] }

structure StartPlan where
  target_service : String
  will_start : List String
  already_running : List String

structure UnknownServiceError where
  name : String

/-- `state` is the cached state of a service, where it has a slot. -/
def compute_start_plan (entries : List ServiceEntry) (state : String → Option ServiceState) (name : String) :
    Option (Except UnknownServiceError StartPlan) :=
  match by_name entries name with
  | none => some (.error ⟨name⟩)
  | some entry =>
    (walk (by_name entries) (entries.length + 1) entry.name ⟨[],[]⟩).map fun w => .ok {
      target_service := entry.name
      will_start := w.post_order.filter fun svc_name => state svc_name ≠ some .running
      already_running := w.post_order.filter fun svc_name => state svc_name = some .running }

/-- The edges of the manifest between entries that the lifecycle service knows. -/
def ManagedEdge (services : List ServiceEntry) (name dep : String) : Prop :=
  ManifestEdge services name dep ∧ name ∈ names (managed services) ∧ dep ∈ names (managed services)

structure PlanExact (Edge : String → String → Prop) (state : String → Option ServiceState) (target : String)
    (plan : StartPlan) : Prop where
  of_target : plan.target_service = target
  once : (plan.will_start ++ plan.already_running).Nodup
  lists : ∀ name, name ∈ plan.will_start ++ plan.already_running ↔ ReflTransGen Edge target name
  running : ∀ name ∈ plan.already_running, state name = some .running
  stopped : ∀ name ∈ plan.will_start, state name ≠ some .running
  ordered : ∃ order, DependenciesFirst Edge order ∧ order.Perm (plan.will_start ++ plan.already_running) ∧
    plan.will_start.Sublist order ∧ plan.already_running.Sublist order

/-- Every plan of a known target is exact for the edges. -/
def PlansExact (services : List ServiceEntry) (Edge : String → String → Prop) : Prop :=
  ∀ state target, target ∈ names (managed services) →
    ∃ plan, compute_start_plan (managed services) state target = some (.ok plan) ∧ PlanExact Edge state target plan

section
variable {lookup : String → Option ServiceEntry} {target name : String} {w w' : Walk} {fuel : Nat}

/-- The edges along which the walk goes on. -/
def PlanEdge (lookup : String → Option ServiceEntry) (name dep : String) : Prop :=
  ∃ entry, lookup name = some entry ∧ dep ∈ entry.depends_on_services ∧ (lookup dep).isSome

/-- A service whose dependencies are being walked. -/
def Open (lookup : String → Option ServiceEntry) (w : Walk) (name : String) : Prop :=
  name ∈ w.visited ∧ (lookup name).isSome ∧ name ∉ w.post_order

structure Walking (lookup : String → Option ServiceEntry) (target : String) (w : Walk) : Prop where
  nodup : w.post_order.Nodup
  seen : ∀ n ∈ w.post_order, n ∈ w.visited
  first : DependenciesFirst (PlanEdge lookup) w.post_order
  reached : ∀ n ∈ w.post_order, ReflTransGen (PlanEdge lookup) target n

/-- What a call keeps. -/
structure Walked (lookup : String → Option ServiceEntry) (target : String) (w w' : Walk) : Prop where
  walking : Walking lookup target w'
  opens : ∀ n, Open lookup w' n ↔ Open lookup w n
  visited : ∀ n ∈ w.visited, n ∈ w'.visited

theorem Walked.refl (walking : Walking lookup target w) : Walked lookup target w w :=
  ⟨walking,fun _ => Iff.rfl,fun _ member => member⟩

theorem Walked.trans {w'' : Walk} (one : Walked lookup target w w') (two : Walked lookup target w' w'') :
    Walked lookup target w w'' :=
  ⟨two.walking,fun n => (two.opens n).trans (one.opens n),fun n member => two.visited n (one.visited n member)⟩

/-- A call may start where the services that are open come before its own. -/
def MayWalk (lookup : String → Option ServiceEntry) (target : String) (w : Walk) (name : String) : Prop :=
  (lookup name).isSome → ReflTransGen (PlanEdge lookup) target name ∧
    ∀ n, Open lookup w n → TransGen (PlanEdge lookup) n name

theorem fold_walked {one : String → Walk → Option Walk}
    (call : ∀ dep w w', one dep w = some w' → Walking lookup target w → MayWalk lookup target w dep →
      Walked lookup target w w' ∧ dep ∈ w'.visited) :
    ∀ (deps : List String) (w w' : Walk), deps.foldlM (fun w dep => one dep w) w = some w' → Walking lookup target w →
      (∀ dep ∈ deps, MayWalk lookup target w dep) → Walked lookup target w w' ∧ ∀ dep ∈ deps, dep ∈ w'.visited
  | [], w, w', run, walking, _ => by
    have same : w = w' := by simpa using run
    subst same
    exact ⟨.refl walking,fun dep member => absurd member List.not_mem_nil⟩
  | dep :: deps, w, w', run, walking, may => by
    rw [List.foldlM_cons] at run
    obtain ⟨middle,here,later⟩ := Option.bind_eq_some_iff.mp run
    obtain ⟨first,seen⟩ := call dep w middle here walking (may dep List.mem_cons_self)
    have may' : ∀ d ∈ deps, MayWalk lookup target middle d := by
      intro d member known
      obtain ⟨reach,before⟩ := may d (List.mem_cons_of_mem _ member) known
      exact ⟨reach,fun n opened => before n ((first.opens n).mp opened)⟩
    obtain ⟨rest,all⟩ := fold_walked call deps middle w' later first.walking may'
    refine ⟨first.trans rest,fun d member => ?_⟩
    obtain rfl | other := List.mem_cons.mp member
    · exact rest.visited d seen
    · exact all d other

/-- A call of `_walk` in a graph without cycles lists the name behind its dependencies. -/
theorem walk_walked (acyclic : ¬ Cyclic (PlanEdge lookup)) : ∀ (fuel : Nat) (name : String) (w w' : Walk),
    walk lookup fuel name w = some w' → Walking lookup target w → MayWalk lookup target w name →
      Walked lookup target w w' ∧ name ∈ w'.visited
  | 0, name, w, w', run, _, _ => by simp [walk] at run
  | fuel+1, name, w, w', run, walking, may => by
    rw [walk] at run
    by_cases seen : name ∈ w.visited
    · rw [if_pos seen] at run
      cases run
      exact ⟨.refl walking,seen⟩
    · rw [if_neg seen] at run
      have fresh : name ∉ w.post_order := fun member => seen (walking.seen name member)
      cases known : lookup name with
      | none =>
        rw [known] at run
        cases run
        refine ⟨⟨⟨walking.nodup,fun n member => List.mem_cons_of_mem _ (walking.seen n member),walking.first,
          walking.reached⟩,fun n => ?_,fun n member => List.mem_cons_of_mem _ member⟩,List.mem_cons_self⟩
        unfold Open
        by_cases same : n = name
        · subst same
          simp [known]
        · simp [same]
      | some entry =>
        rw [known] at run
        obtain ⟨last,folded,rfl⟩ := Option.map_eq_some_iff.mp run
        obtain ⟨reach,before⟩ := may (by simp [known])
        have started : Walking lookup target { w with visited := name :: w.visited } :=
          ⟨walking.nodup,fun n member => List.mem_cons_of_mem _ (walking.seen n member),walking.first,walking.reached⟩
        have opened : ∀ n, Open lookup { w with visited := name :: w.visited } n ↔ n = name ∨ Open lookup w n := by
          intro n
          unfold Open
          by_cases same : n = name
          · subst same
            simp [known,fresh]
          · simp [same]
        have may' : ∀ dep ∈ entry.depends_on_services, MayWalk lookup target { w with visited := name :: w.visited } dep := by
          intro dep member there
          have edge : PlanEdge lookup name dep := ⟨entry,known,member,there⟩
          refine ⟨reach.tail edge,fun n is_open => ?_⟩
          obtain rfl | old := (opened n).mp is_open
          · exact .single edge
          · exact (before n old).tail edge
        obtain ⟨walked,all⟩ := fold_walked (fun dep w w' => walk_walked acyclic fuel dep w w') _ _ _ folded started may'
        have visited : name ∈ last.visited := walked.visited name List.mem_cons_self
        have still : name ∉ last.post_order := ((walked.opens name).mpr ((opened name).mpr (.inl rfl))).2.2
        -- a dependency that is still open would be on a cycle
        have ready : ∀ dep, PlanEdge lookup name dep → dep ∈ last.post_order := by
          rintro dep ⟨same,found,member,there⟩
          have edge : PlanEdge lookup name dep := ⟨same,found,member,there⟩
          rw [known] at found
          cases found
          by_contra missing
          have is_open := (opened dep).mp ((walked.opens dep).mp ⟨all dep member,there,missing⟩)
          obtain rfl | old := is_open
          · exact acyclic ⟨dep,.single edge⟩
          · exact acyclic ⟨dep,(before dep old).tail edge⟩
        refine ⟨⟨⟨?_,fun n member => ?_,walked.walking.first.concat ready,fun n member => ?_⟩,fun n => ?_,
          fun n member => walked.visited n (List.mem_cons_of_mem _ member)⟩,visited⟩
        · exact List.nodup_append'.mpr ⟨walked.walking.nodup,List.nodup_singleton _,by simpa using still⟩
        · obtain old | same := List.mem_append.mp member
          · exact walked.walking.seen n old
          · rw [List.mem_singleton.mp same]
            exact visited
        · obtain old | same := List.mem_append.mp member
          · exact walked.walking.reached n old
          · rw [List.mem_singleton.mp same]
            exact reach
        · have now : Open lookup { last with post_order := last.post_order ++ [name] } n ↔ Open lookup last n ∧ n ≠ name := by
            unfold Open
            simp only [List.mem_append,List.mem_singleton,not_or]
            tauto
          rw [now,walked.opens n,opened n]
          constructor
          · rintro ⟨same | old,apart⟩
            · exact absurd same apart
            · exact old
          · intro old
            exact ⟨.inr old,fun same => seen (same ▸ old.1)⟩

end

section
variable {lookup : String → Option ServiceEntry} {known : Finset String}

def unvisited (known : Finset String) (w : Walk) : Nat := (known.filter fun n => n ∉ w.visited).card

theorem unvisited_le {w w' : Walk} (visited : ∀ n ∈ w.visited, n ∈ w'.visited) : unvisited known w' ≤ unvisited known w := by
  apply Finset.card_le_card
  intro n member
  obtain ⟨there,fresh⟩ := Finset.mem_filter.mp member
  exact Finset.mem_filter.mpr ⟨there,fun seen => fresh (visited n seen)⟩

theorem unvisited_lt {w : Walk} {name : String} (there : name ∈ known) (fresh : name ∉ w.visited) :
    unvisited known { w with visited := name :: w.visited } < unvisited known w := by
  apply Finset.card_lt_card
  refine (Finset.ssubset_iff_of_subset fun n member => ?_).mpr ⟨name,?_,?_⟩
  · obtain ⟨there,fresh⟩ := Finset.mem_filter.mp member
    exact Finset.mem_filter.mpr ⟨there,fun seen => fresh (List.mem_cons_of_mem _ seen)⟩
  · exact Finset.mem_filter.mpr ⟨there,fresh⟩
  · intro member
    exact (Finset.mem_filter.mp member).2 List.mem_cons_self

theorem fold_total {one : String → Walk → Option Walk} {fuel : Nat}
    (call : ∀ dep w, unvisited known w < fuel → ∃ w', one dep w = some w' ∧ ∀ n ∈ w.visited, n ∈ w'.visited) :
    ∀ (deps : List String) (w : Walk), unvisited known w < fuel →
      ∃ w', deps.foldlM (fun w dep => one dep w) w = some w' ∧ ∀ n ∈ w.visited, n ∈ w'.visited
  | [], w, _ => ⟨w,rfl,fun _ member => member⟩
  | dep :: deps, w, enough => by
    obtain ⟨middle,here,kept⟩ := call dep w enough
    obtain ⟨last,later,rest⟩ := fold_total call deps middle (Nat.lt_of_le_of_lt (unvisited_le kept) enough)
    refine ⟨last,?_,fun n member => rest n (kept n member)⟩
    rw [List.foldlM_cons,here]
    exact later

theorem walk_total (covers : ∀ n, (lookup n).isSome → n ∈ known) : ∀ (fuel : Nat) (name : String) (w : Walk),
    unvisited known w < fuel → ∃ w', walk lookup fuel name w = some w' ∧ ∀ n ∈ w.visited, n ∈ w'.visited
  | 0, _, _, enough => absurd enough (Nat.not_lt_zero _)
  | fuel+1, name, w, enough => by
    rw [walk]
    by_cases seen : name ∈ w.visited
    · rw [if_pos seen]
      exact ⟨w,rfl,fun _ member => member⟩
    · rw [if_neg seen]
      cases found : lookup name with
      | none => exact ⟨_,rfl,fun n member => List.mem_cons_of_mem _ member⟩
      | some entry =>
        have fewer := unvisited_lt (w := w) (covers name (by simp [found])) seen
        obtain ⟨last,folded,kept⟩ := fold_total (walk_total covers fuel) entry.depends_on_services
          { w with visited := name :: w.visited } (by omega)
        refine ⟨{ last with post_order := last.post_order ++ [name] },?_,
          fun n member => kept n (List.mem_cons_of_mem _ member)⟩
        show Option.map _ (entry.depends_on_services.foldlM _ _) = _
        rw [folded]
        rfl

end

section
variable {entries services : List ServiceEntry} {state : String → Option ServiceState} {target name dep : String}
  {entry : ServiceEntry}

theorem by_name_some (found : by_name entries name = some entry) : entry ∈ entries ∧ entry.name = name := by
  unfold by_name at found
  exact ⟨List.mem_reverse.mp (List.mem_of_find?_eq_some found),by simpa using List.find?_some found⟩

theorem by_name_isSome : (by_name entries name).isSome ↔ name ∈ names entries := by
  unfold by_name names
  rw [List.find?_isSome,List.mem_map]
  simp only [List.mem_reverse,decide_eq_true_eq]

theorem plan_walk (entries : List ServiceEntry) (name : String) :
    ∃ w, walk (by_name entries) (entries.length + 1) name ⟨[],[]⟩ = some w := by
  have covers : ∀ n, (by_name entries n).isSome → n ∈ (names entries).toFinset :=
    fun n found => List.mem_toFinset.mpr (by_name_isSome.mp found)
  have few : unvisited (names entries).toFinset ⟨[],[]⟩ < entries.length + 1 := by
    have one := Finset.card_filter_le (names entries).toFinset fun n => n ∉ ([] : List String)
    have two := List.toFinset_card_le (names entries)
    rw [names,List.length_map] at two
    exact Nat.lt_succ_of_le (one.trans two)
  obtain ⟨w,run,_⟩ := walk_total covers (entries.length + 1) name ⟨[],[]⟩ few
  exact ⟨w,run⟩

theorem compute_start_plan_ends (entries : List ServiceEntry) (state : String → Option ServiceState) (name : String) :
    compute_start_plan entries state name ≠ none := by
  unfold compute_start_plan
  split
  · simp
  · next entry _ =>
    obtain ⟨w,run⟩ := plan_walk entries entry.name
    simp [run]

theorem walking_start : Walking (by_name entries) target ⟨[],[]⟩ where
  nodup := List.nodup_nil
  seen _ member := absurd member List.not_mem_nil
  first := dependenciesFirst_nil
  reached _ member := absurd member List.not_mem_nil

theorem plan_exact (acyclic : ¬ Cyclic (PlanEdge (by_name entries))) (known : target ∈ names entries) :
    ∃ plan, compute_start_plan entries state target = some (.ok plan) ∧
      PlanExact (PlanEdge (by_name entries)) state target plan := by
  obtain ⟨entry,found⟩ := Option.isSome_iff_exists.mp (by_name_isSome.mpr known)
  have same := (by_name_some found).2
  obtain ⟨w,run⟩ := plan_walk entries entry.name
  have nothing_open : ∀ n, ¬ Open (by_name entries) ⟨[],[]⟩ n := fun n is_open => absurd is_open.1 List.not_mem_nil
  obtain ⟨walked,visited⟩ := walk_walked acyclic _ _ _ _ run (walking_start : Walking _ target ⟨[],[]⟩)
    fun _ => ⟨same ▸ .refl,fun n is_open => absurd is_open (nothing_open n)⟩
  rw [same] at visited
  have listed : target ∈ w.post_order := by
    by_contra missing
    exact nothing_open target ((walked.opens target).mp ⟨visited,by_name_isSome.mpr known,missing⟩)
  have parts := List.filter_append_perm (fun svc_name => decide (state svc_name ≠ some .running)) w.post_order
  have negated : (w.post_order.filter fun svc_name => !decide (state svc_name ≠ some .running)) =
      w.post_order.filter fun svc_name => state svc_name = some .running := by
    apply List.filter_congr
    intro n _
    by_cases running : state n = some .running
    · simp [running]
    · simp [running]
  rw [negated] at parts
  refine ⟨_,by rw [compute_start_plan,found]; show Option.map _ (walk _ _ _ _) = _; rw [run]; rfl,same,?_,?_,?_,?_,?_⟩
  · exact parts.nodup_iff.mpr walked.walking.nodup
  · intro n
    rw [parts.mem_iff]
    exact ⟨walked.walking.reached n,walked.walking.first.reach listed⟩
  · intro n member
    simpa using (List.mem_filter.mp member).2
  · intro n member
    simpa using (List.mem_filter.mp member).2
  · exact ⟨w.post_order,walked.walking.first,parts.symm,List.filter_sublist,List.filter_sublist⟩

theorem mem_names_managed (member : name ∈ names (managed services)) : name ∈ names services := by
  obtain ⟨entry,there,same⟩ := List.mem_map.mp member
  exact List.mem_map.mpr ⟨entry,List.mem_of_mem_filter there,same⟩

theorem planEdge_manifest (edge : PlanEdge (by_name (managed services)) name dep) : ManagedEdge services name dep := by
  obtain ⟨entry,found,listed,known⟩ := edge
  obtain ⟨member,same⟩ := by_name_some found
  have there := by_name_isSome.mp known
  exact ⟨mem_adjacency.mpr ⟨⟨entry,List.mem_of_mem_filter member,same,listed⟩,mem_names_managed there⟩,
    List.mem_map.mpr ⟨entry,member,same⟩,there⟩

theorem planEdge_iff (distinct : (names services).Nodup) :
    PlanEdge (by_name (managed services)) name dep ↔ ManagedEdge services name dep := by
  refine ⟨planEdge_manifest,?_⟩
  rintro ⟨edge,known,there⟩
  obtain ⟨⟨entry,member,same,listed⟩,_⟩ := mem_adjacency.mp edge
  obtain ⟨kept,found⟩ := Option.isSome_iff_exists.mp (by_name_isSome.mpr known)
  obtain ⟨place,called⟩ := by_name_some found
  have one : kept = entry := List.inj_on_of_nodup_map distinct (List.mem_of_mem_filter place) member (called.trans same.symm)
  exact ⟨entry,one ▸ found,listed,by_name_isSome.mpr there⟩

theorem not_cyclic_plan (acyclic : ¬ Cyclic (ManifestEdge services)) :
    ¬ Cyclic (PlanEdge (by_name (managed services))) := by
  rintro ⟨name,loop⟩
  exact acyclic ⟨name,TransGen.mono (fun _ _ edge => (planEdge_manifest edge).1) _ _ loop⟩

/-- The loader refuses exactly the manifests with a cycle and names one; after it a plan ends,
    and with distinct names it has the managed services that its target needs, each once and
    behind what it needs. -/
theorem manifest_plans_exact (services : List ServiceEntry) :
    check_no_dependency_cycles services ≠ none ∧
      ((∃ error, check_no_dependency_cycles services = some (.error error)) ↔ Cyclic (ManifestEdge services)) ∧
      (∀ error, check_no_dependency_cycles services = some (.error error) → IsCycle (ManifestEdge services) error.cycle) ∧
      (∀ state target, compute_start_plan (managed services) state target ≠ none) ∧
      (check_no_dependency_cycles services = some (.ok ()) → (names services).Nodup →
        PlansExact services (ManagedEdge services)) := by
  obtain ⟨passed,acyclic⟩ | ⟨error,raised,cycle⟩ := check_spec services
  · refine ⟨by simp [passed],?_,?_,compute_start_plan_ends _,?_⟩
    · simp [passed,acyclic]
    · intro error raised
      rw [passed] at raised
      cases raised
    · intro _ distinct state target known
      obtain ⟨plan,computed,exact⟩ := @plan_exact _ state _ (not_cyclic_plan acyclic) known
      have same : PlanEdge (by_name (managed services)) = ManagedEdge services :=
        funext fun _ => funext fun _ => propext (planEdge_iff distinct)
      rw [same] at exact
      exact ⟨plan,computed,exact⟩
  · refine ⟨by simp [raised],?_,?_,compute_start_plan_ends _,?_⟩
    · simp [raised,cycle.cyclic]
    · intro other again
      rw [raised] at again
      cases again
      exact cycle
    · intro passed
      rw [raised] at passed
      cases passed

/-- A service that needs an external provider, which is an entry of the manifest. -/
def with_external : List ServiceEntry :=
  [⟨"worker",.worker,["vllm"]⟩,⟨"vllm",.external,[]⟩]

/-- Two entries of one name; only the first has the dependency. -/
def with_duplicate : List ServiceEntry :=
  [⟨"api",.http_service,["cache"]⟩,⟨"cache",.infra,[]⟩,⟨"api",.http_service,[]⟩]

theorem plan_omits {services : List ServiceEntry} {target dep : String} (plan : StartPlan)
    (known : target ∈ names (managed services)) (edge : ManifestEdge services target dep)
    (computed : compute_start_plan (managed services) (fun _ => none) target = some (.ok plan))
    (missing : dep ∉ plan.will_start ++ plan.already_running) : ¬ PlansExact services (ManifestEdge services) := by
  intro exact
  obtain ⟨other,again,promised⟩ := exact (fun _ => none) target known
  rw [computed] at again
  cases again
  exact missing ((promised.lists dep).mpr (.single edge))

/-- Both manifests pass the check, and the plan of the first entry leaves out the dependency. -/
theorem plan_leaves_out :
    (check_no_dependency_cycles with_external = some (.ok ()) ∧
      ¬ PlansExact with_external (ManifestEdge with_external)) ∧
    check_no_dependency_cycles with_duplicate = some (.ok ()) ∧
      ¬ PlansExact with_duplicate (ManifestEdge with_duplicate) := by
  have external : ManifestEdge with_external "worker" "vllm" := by unfold ManifestEdge; decide
  have duplicate : ManifestEdge with_duplicate "api" "cache" := by unfold ManifestEdge; decide
  refine ⟨⟨by rfl,?_⟩,by rfl,?_⟩
  · exact plan_omits ⟨"worker",["worker"],[]⟩ (by decide) external rfl (by decide)
  · exact plan_omits ⟨"api",["api"],[]⟩ (by decide) duplicate rfl (by decide)

end
end Automation.StartPlans
