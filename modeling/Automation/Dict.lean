import Mathlib.Data.List.Nodup

/-!
Python's `dict`: items in the order of their insertion, one for each key.
An assignment to a key that is there keeps its place.
-/
namespace Automation

structure Dict (κ ν : Type) where
  items : List (κ × ν)
  keyed : (items.map Prod.fst).Nodup

namespace Dict
variable {κ ν : Type} [DecidableEq κ]

def empty : Dict κ ν := ⟨[],List.nodup_nil⟩

def get? (d : Dict κ ν) (key : κ) : Option ν := (d.items.find? fun item => item.1 = key).map Prod.snd

def values (d : Dict κ ν) : List ν := d.items.map Prod.snd

private def assign (key : κ) (value : ν) : List (κ × ν) → List (κ × ν)
  | [] => [(key,value)]
  | item :: items => if item.1 = key then (key,value) :: items else item :: assign key value items

private theorem assign_keys (key : κ) (value : ν) (items : List (κ × ν)) :
    (assign key value items).map Prod.fst =
      if key ∈ items.map Prod.fst then items.map Prod.fst else items.map Prod.fst ++ [key] := by
  induction items with
  | nil => rfl
  | cons item items ih =>
    by_cases same : item.1 = key
    · simp [assign,same]
    · have other : key ≠ item.1 := fun found => same found.symm
      simp only [assign,if_neg same,List.map_cons,ih,List.mem_cons,other,false_or]
      split <;> rfl

/-- `d[key] = value`. -/
def set (d : Dict κ ν) (key : κ) (value : ν) : Dict κ ν where
  items := assign key value d.items
  keyed := by
    rw [assign_keys]
    split
    · exact d.keyed
    · next absent => simpa using d.keyed.concat absent

/-- `d.pop(key,None)`, without its value. -/
def erase (d : Dict κ ν) (key : κ) : Dict κ ν where
  items := d.items.filter fun item => item.1 ≠ key
  keyed := d.keyed.sublist (List.filter_sublist.map _)

@[simp] theorem get?_empty (key : κ) : (empty : Dict κ ν).get? key = none := rfl

private theorem find_assign (key other : κ) (value : ν) (items : List (κ × ν)) :
    ((assign key value items).find? fun item => item.1 = other).map Prod.snd =
      if other = key then some value else (items.find? fun item => item.1 = other).map Prod.snd := by
  induction items with
  | nil => by_cases same : key = other <;> simp [assign,same,eq_comm]
  | cons item items ih =>
    by_cases found : item.1 = key
    · by_cases same : key = other
      · simp [assign,found,same]
      · have differ : other ≠ key := fun equal => same equal.symm
        simp [assign,same,found,differ]
    · by_cases same : item.1 = other
      · have differ : other ≠ key := fun equal => found (same.trans equal)
        simp [assign,same,differ]
      · simp [assign,found,same,ih]

theorem get?_set (d : Dict κ ν) (key other : κ) (value : ν) :
    (d.set key value).get? other = if other = key then some value else d.get? other :=
  find_assign key other value d.items

theorem get?_erase (d : Dict κ ν) (key other : κ) :
    (d.erase key).get? other = if other = key then none else d.get? other := by
  simp only [get?,erase,List.find?_filter]
  by_cases same : other = key
  · simp [same]
  · rw [if_neg same]
    congr 2
    funext item
    by_cases hit : item.1 = other <;> simp [hit,same]

private theorem assign_absent {key : κ} {items : List (κ × ν)} (absent : ∀ item ∈ items, item.1 ≠ key) (value : ν) :
    assign key value items = items ++ [(key,value)] := by
  induction items with
  | nil => rfl
  | cons item items ih =>
    have differ : item.1 ≠ key := absent item List.mem_cons_self
    rw [assign,if_neg differ,ih fun other member => absent other (List.mem_cons_of_mem item member),List.cons_append]

theorem set_absent {d : Dict κ ν} {key : κ} (absent : d.get? key = none) (value : ν) :
    (d.set key value).items = d.items ++ [(key,value)] := by
  refine assign_absent (fun item member same => ?_) value
  simp only [get?,Option.map_eq_none_iff,List.find?_eq_none,decide_eq_true_eq] at absent
  exact absent item member same

private theorem assign_present {key : κ} {before after : List (κ × ν)} {old : ν}
    (fresh : ∀ item ∈ before, item.1 ≠ key) (value : ν) :
    assign key value (before ++ (key,old) :: after) = before ++ (key,value) :: after := by
  induction before with
  | nil => simp [assign]
  | cons item before ih =>
    have differ : item.1 ≠ key := fresh item List.mem_cons_self
    rw [List.cons_append,assign,if_neg differ,ih fun other member => fresh other (List.mem_cons_of_mem item member),
      List.cons_append]

/-- A key that is there has one place, which an assignment keeps and an erasure takes out. -/
theorem split {d : Dict κ ν} {key : κ} {old : ν} (present : d.get? key = some old) :
    ∃ before after, d.items = before ++ (key,old) :: after ∧ (d.erase key).items = before ++ after ∧
      ∀ value, (d.set key value).items = before ++ (key,value) :: after := by
  simp only [get?,Option.map_eq_some_iff,List.find?_eq_some_iff_append] at present
  obtain ⟨⟨found,value⟩,⟨same,before,after,items,fresh⟩,rfl⟩ := present
  simp only [decide_eq_true_eq] at same
  subst same
  have absent : ∀ item ∈ before, item.1 ≠ found := by
    intro item member
    simpa using fresh item member
  have single := d.keyed
  rw [items,List.map_append,List.map_cons] at single
  have rest : ∀ item ∈ after, item.1 ≠ found := by
    intro item member same
    have tail := (List.nodup_append.mp single).2.1
    exact (List.nodup_cons.mp tail).1 (List.mem_map.mpr ⟨item,member,same⟩)
  refine ⟨before,after,items,?_,fun value => ?_⟩
  · have kept : d.items.filter (fun item => item.1 ≠ found) = before ++ after := by
      rw [items,List.filter_append,List.filter_cons,List.filter_eq_self.mpr (by simpa using absent),
        List.filter_eq_self.mpr (by simpa using rest)]
      simp
    exact kept
  · have kept : assign found value d.items = before ++ (found,value) :: after := by
      rw [items]
      exact assign_present absent value
    exact kept

theorem mem_items {d : Dict κ ν} {key : κ} {value : ν} (present : d.get? key = some value) : (key,value) ∈ d.items := by
  obtain ⟨before,after,items,-,-⟩ := split present
  simp [items]

theorem get?_eq_some_iff {d : Dict κ ν} {key : κ} {value : ν} : d.get? key = some value ↔ (key,value) ∈ d.items := by
  refine ⟨mem_items,fun member => ?_⟩
  cases present : d.get? key with
  | none =>
    simp only [get?,Option.map_eq_none_iff,List.find?_eq_none,decide_eq_true_eq] at present
    exact absurd rfl (present _ member)
  | some other =>
    have same := List.inj_on_of_nodup_map d.keyed (mem_items present) member rfl
    rw [(Prod.mk.inj same).2]

omit [DecidableEq κ] in
theorem ext_items {d e : Dict κ ν} (same : d.items = e.items) : d = e := by
  cases d
  cases e
  cases same
  rfl

/-- `{k: f(v) for k, v in d.items()}`. -/
def map {μ : Type} (f : ν → μ) (d : Dict κ ν) : Dict κ μ where
  items := d.items.map fun item => (item.1,f item.2)
  keyed := by simpa [Function.comp_def] using d.keyed

@[simp] theorem get?_map {μ : Type} (f : ν → μ) (d : Dict κ ν) (key : κ) : (d.map f).get? key = (d.get? key).map f := by
  simp only [get?,map,List.find?_map,Option.map_map]
  rfl

omit [DecidableEq κ] in
@[simp] theorem map_id (d : Dict κ ν) : d.map id = d := by simp [map]

/-- `dict(sorted(d.items()))` by the keys. -/
def sorted [LE κ] [DecidableLE κ] (d : Dict κ ν) : Dict κ ν where
  items := d.items.mergeSort fun left right => left.1 ≤ right.1
  keyed := ((List.mergeSort_perm d.items _).map _).nodup_iff.mpr d.keyed

@[simp] theorem get?_sorted [LE κ] [DecidableLE κ] (d : Dict κ ν) (key : κ) : d.sorted.get? key = d.get? key := by
  ext value
  rw [get?_eq_some_iff,get?_eq_some_iff]
  exact (List.mergeSort_perm d.items _).mem_iff

/-- `dict(items)`. -/
def ofItems (items : List (κ × ν)) : Dict κ ν := items.foldl (fun d item => d.set item.1 item.2) empty

private theorem fold_items (d : Dict κ ν) (items : List (κ × ν)) (keyed : ((d.items ++ items).map Prod.fst).Nodup) :
    (items.foldl (fun d item => d.set item.1 item.2) d).items = d.items ++ items := by
  induction items generalizing d with
  | nil => simp
  | cons item items ih =>
    have absent : d.get? item.1 = none := by
      cases present : d.get? item.1 with
      | none => rfl
      | some value =>
        rw [List.map_append,List.nodup_append] at keyed
        exact absurd rfl (keyed.2.2 _ (List.mem_map_of_mem (mem_items present)) item.1 (by simp))
    have added := set_absent absent item.2
    rw [List.foldl_cons,ih _ (by rw [added]; simpa using keyed),added,List.append_assoc]
    rfl

@[simp] theorem ofItems_items (d : Dict κ ν) : ofItems d.items = d :=
  ext_items (fold_items empty d.items (by simpa [empty] using d.keyed))

end Dict
end Automation
