import Automation.Dict
import Mathlib.Data.List.Basic

/-!
The parameters of a Python function and the arguments of a call: what the function receives
under each name, and what `inspect.Signature.bind_partial` binds, which leaves the defaults
out. A call that is bound is bound in part to what was passed, unless a keyword has the name
of a positional-only parameter (`bind_partial_passed`).
-/
namespace Automation.PyCalls

/-! ### Signatures -/

structure Param (ν : Type) where
  name : String
  default : Option ν

def names {ν : Type} (params : List (Param ν)) : List String := params.map Param.name

structure Signature (ν : Type) where
  posonly : List (Param ν)
  /-- By position or by keyword. -/
  positional : List (Param ν)
  var_positional : Option String
  kwonly : List (Param ν)
  var_keyword : Option String
  distinct : (names posonly ++ names positional ++ var_positional.toList ++ names kwonly ++ var_keyword.toList).Nodup

variable {ν : Type} (tuple : List ν → ν) (dict : List (String × ν) → ν)

namespace Signature
variable (s : Signature ν)

def by_position : List (Param ν) := s.posonly ++ s.positional

def by_keyword : List (Param ν) := s.positional ++ s.kwonly

def regular : List (Param ν) := s.by_position ++ s.kwonly

/-- `name in signature.parameters`. -/
def has (name : String) : Bool :=
  (names s.regular).contains name || s.var_positional == some name || s.var_keyword == some name

end Signature

/-! ### The call -/

/-- `locals[name] = value` for each item. -/
def assigned (locals : Dict String ν) (items : List (String × ν)) : Dict String ν :=
  items.foldl (fun locals item => locals.set item.1 item.2) locals

/-- The parameters that are filled by position. -/
def placed (s : Signature ν) (args : List ν) : Dict String ν := assigned .empty ((names s.by_position).zip args)

def surplus (s : Signature ν) (args : List ν) : List ν := args.drop s.by_position.length

/-- A keyword fills its parameter or goes to `**kwargs`. -/
def take_keyword (s : Signature ν) (bound : Dict String ν × Dict String ν) (item : String × ν) :
    Option (Dict String ν × Dict String ν) :=
  if item.1 ∈ names s.by_keyword then
    if (bound.1.get? item.1).isSome then none else some (bound.1.set item.1 item.2,bound.2)
  else if s.var_keyword.isSome then some (bound.1,bound.2.set item.1 item.2)
  else none

def fill_default (locals : Dict String ν) (param : Param ν) : Option (Dict String ν) :=
  if (locals.get? param.name).isSome then some locals
  else param.default.map fun value => locals.set param.name value

def set_var (locals : Dict String ν) (name : Option String) (value : ν) : Dict String ν :=
  match name with
  | none => locals
  | some name => locals.set name value

/-- The locals that the function starts with, `none` for a `TypeError`. -/
def call (s : Signature ν) (args : List ν) (kwargs : Dict String ν) : Option (Dict String ν) :=
  (kwargs.items.foldlM (take_keyword s) (placed s args,.empty)).bind fun bound =>
    if surplus s args ≠ [] ∧ s.var_positional = none then none
    else
      let locals := set_var bound.1 s.var_positional (tuple (surplus s args))
      let locals := set_var locals s.var_keyword (dict bound.2.items)
      s.regular.foldlM fill_default locals

/-! ### `inspect` -/

inductive Kind where
  | positional_only
  | positional_or_keyword
  | var_positional
  | keyword_only
  | var_keyword
  deriving DecidableEq

structure Parameter where
  name : String
  kind : Kind

def of_kind (kind : Kind) (names : List String) : List Parameter := names.map fun name => ⟨name,kind⟩

/-- The parameters up to `*args`. -/
def Signature.place_parameters (s : Signature ν) : List Parameter :=
  of_kind .positional_only (names s.posonly) ++ of_kind .positional_or_keyword (names s.positional)

/-- The parameters behind `*args`. -/
def Signature.last_parameters (s : Signature ν) : List Parameter :=
  of_kind .keyword_only (names s.kwonly) ++ of_kind .var_keyword s.var_keyword.toList

/-- `signature.parameters`, without the defaults, which a partial binding does not read. -/
def Signature.parameters (s : Signature ν) : List Parameter :=
  s.place_parameters ++ (of_kind .var_positional s.var_positional.toList ++ s.last_parameters)

/-- The first loop of `_bind`: the arguments by position, and the parameters that are left. -/
def bind_args (kwargs : Dict String ν) : Dict String ν → List Parameter → List ν → Option (Dict String ν × List Parameter)
  | arguments, [], [] => some (arguments,[])
  | _, [], _ :: _ => none
  | arguments, param :: params, [] =>
    match param.kind with
    | .var_positional => some (arguments,params)
    | .positional_only => if (kwargs.get? param.name).isSome then none else some (arguments,param :: params)
    | _ => some (arguments,param :: params)
  | arguments, param :: params, arg :: args =>
    match param.kind with
    | .var_keyword | .keyword_only => none
    | .var_positional => some (arguments.set param.name (tuple (arg :: args)),params)
    | .positional_only => bind_args kwargs (arguments.set param.name arg) params args
    | .positional_or_keyword =>
      if (kwargs.get? param.name).isSome then none else bind_args kwargs (arguments.set param.name arg) params args

/-- What the second loop of `_bind` has so far. -/
structure Binding (ν : Type) where
  arguments : Dict String ν
  kwargs : Dict String ν
  kwargs_param : Option String

def bind_keyword (b : Binding ν) (param : Parameter) : Option (Binding ν) :=
  match param.kind with
  | .var_keyword => some ⟨b.arguments,b.kwargs,some param.name⟩
  | .var_positional => some b
  | kind =>
    match b.kwargs.get? param.name with
    | none => some b
    | some value =>
      if kind = .positional_only then none
      else some ⟨b.arguments.set param.name value,b.kwargs.erase param.name,b.kwargs_param⟩

/-- `signature.bind_partial(*args, **kwargs).arguments`, `none` for a `TypeError`, as in Python
    3.12.0 to 3.12.3. -/
def bind_partial (s : Signature ν) (args : List ν) (kwargs : Dict String ν) : Option (Dict String ν) :=
  (bind_args tuple kwargs .empty s.parameters args).bind fun first =>
    (first.2.foldlM bind_keyword ⟨first.1,kwargs,none⟩).bind fun b =>
      if b.kwargs.items.isEmpty then some b.arguments
      else b.kwargs_param.map fun name => b.arguments.set name (dict b.kwargs.items)

/-! ### What is passed -/

/-- The keywords that no parameter has. -/
def extra (s : Signature ν) (kwargs : Dict String ν) : List (String × ν) :=
  kwargs.items.filter fun item => item.1 ∉ names s.by_keyword

/-- What a call passes for a parameter. -/
def passed (s : Signature ν) (args : List ν) (kwargs : Dict String ν) (name : String) : Option ν :=
  match (placed s args).get? name with
  | some value => some value
  | none =>
    if name ∈ names s.by_keyword then kwargs.get? name
    else if s.var_positional = some name ∧ surplus s args ≠ [] then some (tuple (surplus s args))
    else if s.var_keyword = some name ∧ extra s kwargs ≠ [] then some (dict (extra s kwargs))
    else none

/-- What a parameter is without an argument. -/
def unpassed (s : Signature ν) (name : String) : Option ν :=
  if s.var_positional = some name then some (tuple [])
  else if s.var_keyword = some name then some (dict [])
  else (s.regular.find? fun param => param.name = name).bind Param.default

/-- A keyword has the name of a positional-only parameter that is not filled. -/
def Refused (s : Signature ν) (args : List ν) (kwargs : Dict String ν) : Prop :=
  ∃ param ∈ s.posonly.drop args.length, (kwargs.get? param.name).isSome

instance (s : Signature ν) (args : List ν) (kwargs : Dict String ν) : Decidable (Refused s args kwargs) :=
  inferInstanceAs (Decidable (∃ param ∈ _,_))

/-! ### Assignments -/

variable {items : List (String × ν)}

theorem get?_assigned {locals : Dict String ν} {name : String}
    (absent : name ∉ items.map Prod.fst) : (assigned locals items).get? name = locals.get? name := by
  induction items generalizing locals with
  | nil => rfl
  | cons item items ih =>
    obtain ⟨differ,absent⟩ := not_or.mp (fun found => absent (List.mem_cons.mpr found))
    rw [assigned,List.foldl_cons]
    exact (ih absent).trans (by rw [Dict.get?_set,if_neg differ])

theorem assigned_isSome {locals : Dict String ν} {name : String}
    (present : name ∈ items.map Prod.fst) : ((assigned locals items).get? name).isSome = true := by
  induction items generalizing locals with
  | nil => cases present
  | cons item items ih =>
    by_cases later : name ∈ items.map Prod.fst
    · exact ih later
    · have here : name = item.1 := by
        rcases List.mem_cons.mp present with here | found
        · exact here
        · exact absurd found later
      have last : (assigned (locals.set item.1 item.2) items).get? name = some item.2 := by
        rw [get?_assigned later,Dict.get?_set,if_pos here]
      rw [assigned,List.foldl_cons]
      exact Option.isSome_of_eq_some last

theorem zip_names (keys : List String) (args : List ν) : (keys.zip args).map Prod.fst = keys.take args.length := by
  induction keys generalizing args with
  | nil => simp
  | cons key keys ih =>
    cases args with
    | nil => rfl
    | cons arg args => simp [ih]

theorem names_append (params others : List (Param ν)) : names (params ++ others) = names params ++ names others :=
  List.map_append

/-- A parameter is filled by position where the arguments reach it. -/
theorem placed_isSome_iff {s : Signature ν} {args : List ν} {name : String} :
    ((placed s args).get? name).isSome = true ↔ name ∈ (names s.by_position).take args.length := by
  rw [← zip_names]
  constructor
  · intro present
    by_contra absent
    rw [placed,get?_assigned absent,Dict.get?_empty] at present
    cases present
  · exact assigned_isSome

/-! ### What the names tell -/

section
variable {s : Signature ν} {name : String}

theorem names_regular (s : Signature ν) : names s.regular = names s.posonly ++ names s.positional ++ names s.kwonly := by
  rw [Signature.regular,Signature.by_position,names_append,names_append]

theorem mem_by_keyword : name ∈ names s.by_keyword ↔ name ∈ names s.positional ∨ name ∈ names s.kwonly := by
  rw [Signature.by_keyword,names_append,List.mem_append]

theorem by_keyword_regular (known : name ∈ names s.by_keyword) : name ∈ names s.regular := by
  rw [names_regular]
  rcases mem_by_keyword.mp known with left | right
  · exact List.mem_append_left _ (List.mem_append_right _ left)
  · exact List.mem_append_right _ right

theorem placed_regular {args : List ν} {value : ν} (known : (placed s args).get? name = some value) : name ∈ names s.regular := by
  have member := List.mem_of_mem_take (placed_isSome_iff.mp (Option.isSome_of_eq_some known))
  rw [Signature.by_position,names_append] at member
  rw [names_regular]
  exact List.mem_append_left _ member

theorem var_positional_fresh (known : s.var_positional = some name) : name ∉ names s.regular ∧ s.var_keyword ≠ some name := by
  have distinct := s.distinct
  rw [known,Option.toList_some] at distinct
  have parts := List.nodup_append.mp distinct
  have inner := List.nodup_append.mp parts.1
  have first := List.nodup_append.mp inner.1
  refine ⟨fun member => ?_,fun same => ?_⟩
  · rw [names_regular] at member
    rcases List.mem_append.mp member with left | right
    · exact first.2.2 name left name List.mem_cons_self rfl
    · exact inner.2.2 name (List.mem_append_right _ List.mem_cons_self) name right rfl
  · refine parts.2.2 name (List.mem_append_left _ (List.mem_append_right _ List.mem_cons_self)) name ?_ rfl
    rw [same,Option.toList_some]
    exact List.mem_cons_self

theorem var_keyword_fresh (known : s.var_keyword = some name) : name ∉ names s.regular := by
  have distinct := s.distinct
  rw [known,Option.toList_some] at distinct
  have parts := List.nodup_append.mp distinct
  intro member
  rw [names_regular] at member
  refine parts.2.2 name ?_ name List.mem_cons_self rfl
  rcases List.mem_append.mp member with left | right
  · exact List.mem_append_left _ (List.mem_append_left _ left)
  · exact List.mem_append_right _ right

theorem regular_nodup (s : Signature ν) : (names s.by_position ++ names s.kwonly).Nodup := by
  rw [Signature.by_position,names_append]
  have inner := (List.nodup_append.mp s.distinct).1
  exact inner.sublist (List.Sublist.append (List.sublist_append_left _ _) (List.Sublist.refl _))

end

/-! ### The call binds -/

theorem take_keywords {s : Signature ν} {bound done : Dict String ν × Dict String ν}
    (taken : items.foldlM (take_keyword s) bound = some done) (keyed : (items.map Prod.fst).Nodup)
    (fresh : ∀ item ∈ items, bound.2.get? item.1 = none) :
    (∀ item ∈ items, item.1 ∈ names s.by_keyword → bound.1.get? item.1 = none) ∧
    (∀ item ∈ items, item.1 ∉ names s.by_keyword → s.var_keyword.isSome = true) ∧
    (∀ name, done.1.get? name = if name ∈ names s.by_keyword then
      (bound.1.get? name).or ((items.find? fun item => item.1 = name).map Prod.snd) else bound.1.get? name) ∧
    done.2.items = bound.2.items ++ items.filter fun item => item.1 ∉ names s.by_keyword := by
  induction items generalizing bound with
  | nil =>
    cases taken
    refine ⟨nofun,nofun,fun name => ?_,by simp⟩
    simp
  | cons item items ih =>
    obtain ⟨apart,rest⟩ := List.nodup_cons.mp keyed
    have others : ∀ other ∈ items, other.1 ≠ item.1 := by
      intro other member same
      exact apart (same ▸ List.mem_map_of_mem member)
    rw [List.foldlM_cons,Option.bind_eq_bind,Option.bind_eq_some_iff] at taken
    obtain ⟨next,first,taken⟩ := taken
    unfold take_keyword at first
    by_cases known : item.1 ∈ names s.by_keyword
    · rw [if_pos known] at first
      cases free : bound.1.get? item.1 with
      | some value =>
        rw [free,Option.isSome_some,if_pos rfl] at first
        cases first
      | none =>
        rw [free,Option.isSome_none,if_neg Bool.false_ne_true] at first
        cases first
        obtain ⟨once,swallowed,reads,extras⟩ := ih taken rest fun other member => fresh other (List.mem_cons_of_mem _ member)
        refine ⟨fun other member accepted => ?_,fun other member refused => ?_,fun name => ?_,?_⟩
        · rcases List.mem_cons.mp member with rfl | later
          · exact free
          · have absent := once other later accepted
            rwa [Dict.get?_set,if_neg (others other later)] at absent
        · rcases List.mem_cons.mp member with rfl | later
          · exact absurd known refused
          · exact swallowed other later refused
        · rw [reads,Dict.get?_set,List.find?_cons]
          by_cases same : name = item.1
          · subst same
            simp [known,free]
          · have differ : item.1 ≠ name := fun equal => same equal.symm
            simp [same,differ]
        · rw [extras,List.filter_cons_of_neg (by simpa using known)]
    · rw [if_neg known] at first
      by_cases variadic : s.var_keyword.isSome = true
      · rw [if_pos variadic] at first
        cases first
        have fresh' : ∀ other ∈ items, (bound.2.set item.1 item.2).get? other.1 = none := by
          intro other member
          rw [Dict.get?_set,if_neg (others other member)]
          exact fresh other (List.mem_cons_of_mem _ member)
        obtain ⟨once,swallowed,reads,extras⟩ := ih taken rest fresh'
        refine ⟨fun other member accepted => ?_,fun _ _ _ => variadic,fun name => ?_,?_⟩
        · rcases List.mem_cons.mp member with rfl | later
          · exact absurd accepted known
          · exact once other later accepted
        · rw [reads,List.find?_cons]
          by_cases accepted : name ∈ names s.by_keyword
          · have differ : item.1 ≠ name := fun equal => known (equal ▸ accepted)
            simp [accepted,differ]
          · simp [accepted]
        · rw [extras,Dict.set_absent (fresh item List.mem_cons_self),List.append_assoc,List.singleton_append,
            List.filter_cons_of_pos (by simpa using known)]
      · rw [if_neg variadic] at first
        cases first

theorem fill_defaults {params : List (Param ν)} {locals done : Dict String ν}
    (filled : params.foldlM fill_default locals = some done) (name : String) :
    done.get? name = (locals.get? name).or ((params.find? fun param => param.name = name).bind Param.default) := by
  induction params generalizing locals with
  | nil =>
    cases filled
    simp
  | cons param params ih =>
    rw [List.foldlM_cons,Option.bind_eq_bind,Option.bind_eq_some_iff] at filled
    obtain ⟨next,first,filled⟩ := filled
    rw [ih filled,List.find?_cons]
    unfold fill_default at first
    cases known : locals.get? param.name with
    | some value =>
      rw [known,Option.isSome_some,if_pos rfl] at first
      cases first
      by_cases same : param.name = name
      · subst same
        simp [known]
      · simp [same]
    | none =>
      rw [known,Option.isSome_none,if_neg Bool.false_ne_true] at first
      obtain ⟨value,default,rfl⟩ := Option.map_eq_some_iff.mp first
      by_cases same : param.name = name
      · subst same
        simp [known,default,Dict.get?_set]
      · have differ : name ≠ param.name := fun equal => same equal.symm
        simp [same,Dict.get?_set,differ]

theorem get?_set_var (locals : Dict String ν) (variadic : Option String) (value : ν) (name : String) :
    (set_var locals variadic value).get? name = if variadic = some name then some value else locals.get? name := by
  cases variadic with
  | none => simp [set_var]
  | some other =>
    rw [set_var,Dict.get?_set]
    by_cases same : name = other
    · simp [same]
    · have differ : other ≠ name := fun equal => same equal.symm
      simp [same,differ]

section
variable {tuple dict} {s : Signature ν} {args : List ν} {kwargs : Dict String ν} {locals : Dict String ν}

/-- What is known of a call that is bound. -/
structure Bound (s : Signature ν) (args : List ν) (kwargs : Dict String ν) : Prop where
  /-- No parameter has two arguments. -/
  once : ∀ item ∈ kwargs.items, item.1 ∈ names s.by_keyword → (placed s args).get? item.1 = none
  keywords : ∀ item ∈ kwargs.items, item.1 ∉ names s.by_keyword → s.var_keyword.isSome = true
  positions : surplus s args ≠ [] → s.var_positional ≠ none

theorem call_bound (bound : call tuple dict s args kwargs = some locals) : Bound s args kwargs ∧
    ∃ done : Dict String ν, (∀ name, done.get? name = if name ∈ names s.by_keyword then
      ((placed s args).get? name).or (kwargs.get? name) else (placed s args).get? name) ∧
    s.regular.foldlM fill_default (set_var (set_var done s.var_positional (tuple (surplus s args))) s.var_keyword
      (dict (extra s kwargs))) = some locals := by
  obtain ⟨done,taken,rest⟩ := Option.bind_eq_some_iff.mp bound
  obtain ⟨once,keywords,reads,extras⟩ := take_keywords taken kwargs.keyed fun item _ => Dict.get?_empty item.1
  have same : done.2.items = extra s kwargs := by
    rw [extras]
    rfl
  by_cases lost : surplus s args ≠ [] ∧ s.var_positional = none
  · rw [if_pos lost] at rest
    cases rest
  · rw [if_neg lost] at rest
    refine ⟨⟨once,keywords,fun more none => lost ⟨more,none⟩⟩,done.1,reads,?_⟩
    rw [← same]
    exact rest

/-- The function receives what is passed, and else what the parameter has without. -/
theorem call_received (bound : call tuple dict s args kwargs = some locals) (name : String) :
    locals.get? name = (passed tuple dict s args kwargs name).or (unpassed tuple dict s name) := by
  obtain ⟨-,done,reads,filled⟩ := call_bound bound
  have regular : name ∉ names s.regular → (s.regular.find? fun param => param.name = name) = none := by
    intro absent
    rw [List.find?_eq_none]
    intro param member same
    exact absent (of_decide_eq_true same ▸ List.mem_map_of_mem member)
  rw [fill_defaults filled,get?_set_var,get?_set_var,reads]
  by_cases variadic : s.var_keyword = some name
  · have fresh := var_keyword_fresh variadic
    have unplaced : (placed s args).get? name = none := by
      cases known : (placed s args).get? name with
      | none => rfl
      | some value => exact absurd (placed_regular known) fresh
    have apart : s.var_positional ≠ some name := fun same => (var_positional_fresh same).2 variadic
    have unnamed : name ∉ names s.by_keyword := fun member => fresh (by_keyword_regular member)
    rw [if_pos variadic,regular fresh,passed,unplaced,unpassed]
    dsimp only
    rw [if_neg unnamed,if_neg fun both => apart both.1,if_neg apart,if_pos variadic]
    by_cases none_left : extra s kwargs = []
    · rw [if_neg fun both => both.2 none_left,none_left]
      rfl
    · rw [if_pos ⟨variadic,none_left⟩]
      rfl
  · rw [if_neg variadic]
    by_cases starred : s.var_positional = some name
    · have fresh := (var_positional_fresh starred).1
      have unplaced : (placed s args).get? name = none := by
        cases known : (placed s args).get? name with
        | none => rfl
        | some value => exact absurd (placed_regular known) fresh
      have unnamed : name ∉ names s.by_keyword := fun member => fresh (by_keyword_regular member)
      rw [if_pos starred,regular fresh,passed,unplaced,unpassed]
      dsimp only
      rw [if_neg unnamed,if_pos starred]
      by_cases none_left : surplus s args = []
      · rw [if_neg fun both => both.2 none_left,if_neg fun both => variadic both.1,none_left]
        rfl
      · rw [if_pos ⟨starred,none_left⟩]
        rfl
    · rw [if_neg starred,passed,unpassed,if_neg starred,if_neg variadic]
      cases (placed s args).get? name with
      | some value => simp
      | none =>
        dsimp only
        have last : (if s.var_positional = some name ∧ surplus s args ≠ [] then some (tuple (surplus s args))
            else if s.var_keyword = some name ∧ extra s kwargs ≠ [] then some (dict (extra s kwargs)) else none) = none := by
          rw [if_neg fun both => starred both.1,if_neg fun both => variadic both.1]
        rw [last]
        by_cases named : name ∈ names s.by_keyword
        · rw [if_pos named,if_pos named]
          rfl
        · rw [if_neg named,if_neg named]

end

/-! ### The partial binding -/

section
variable {tuple dict} {kwargs : Dict String ν}

/-- The parameters that keywords are for. -/
def keyword_names (params : List Parameter) : List String :=
  (params.filter fun p => p.kind = .positional_or_keyword ∨ p.kind = .keyword_only).map Parameter.name

theorem keyword_names_append (params others : List Parameter) :
    keyword_names (params ++ others) = keyword_names params ++ keyword_names others := by
  rw [keyword_names,List.filter_append,List.map_append]
  rfl

variable {params : List Parameter}

theorem bind_args_places (rest : List Parameter) {args : List ν} (arguments : Dict String ν)
    (kinds : ∀ p ∈ params, p.kind = .positional_only ∨ p.kind = .positional_or_keyword)
    (once : ∀ p ∈ params.take args.length, p.kind = .positional_or_keyword → kwargs.get? p.name = none)
    (clear : ∀ p ∈ params.drop args.length, p.kind = .positional_only → kwargs.get? p.name = none) :
    bind_args tuple kwargs arguments (params ++ rest) args =
      if params.length ≤ args.length then
        bind_args tuple kwargs (assigned arguments ((params.map Parameter.name).zip args)) rest (args.drop params.length)
      else some (assigned arguments ((params.map Parameter.name).zip args),params.drop args.length ++ rest) := by
  induction params generalizing arguments args with
  | nil => exact (if_pos (Nat.zero_le _)).symm
  | cons p params ih =>
    have kind := kinds p List.mem_cons_self
    cases args with
    | nil =>
      rw [if_neg (by simp),List.cons_append,bind_args]
      rcases kind with only | either
      · rw [only]
        dsimp only
        rw [clear p List.mem_cons_self only]
        rfl
      · rw [either]
        rfl
    | cons arg args =>
      have next := ih (arguments.set p.name arg) (fun q member => kinds q (List.mem_cons_of_mem _ member))
        (fun q member => once q (List.mem_cons_of_mem _ member)) clear
      have step : bind_args tuple kwargs arguments (p :: params ++ rest) (arg :: args) =
          bind_args tuple kwargs (arguments.set p.name arg) (params ++ rest) args := by
        rw [List.cons_append,bind_args]
        rcases kind with only | either
        · rw [only]
        · rw [either]
          dsimp only
          rw [once p List.mem_cons_self either]
          rfl
      rw [step,next]
      by_cases reach : params.length ≤ args.length
      · have further : (p :: params).length ≤ (arg :: args).length := Nat.succ_le_succ reach
        rw [if_pos reach,if_pos further]
        rfl
      · have short : ¬ (p :: params).length ≤ (arg :: args).length := fun both => reach (Nat.le_of_succ_le_succ both)
        rw [if_neg reach,if_neg short]
        rfl

theorem bind_args_last (s : Signature ν) (args : List ν) (arguments : Dict String ν)
    (fits : args ≠ [] → s.var_positional ≠ none) :
    bind_args tuple kwargs arguments (of_kind .var_positional s.var_positional.toList ++ s.last_parameters) args =
      some (if args = [] then arguments else set_var arguments s.var_positional (tuple args),s.last_parameters) := by
  cases variadic : s.var_positional with
  | none =>
    have used : args = [] := by
      by_contra more
      exact fits more variadic
    subst used
    rw [if_pos rfl]
    unfold Signature.last_parameters
    cases s.kwonly with
    | nil =>
      cases s.var_keyword with
      | none => rfl
      | some name => rfl
    | cons param params => rfl
  | some name =>
    cases args with
    | nil => rfl
    | cons arg args => rfl

variable {p : Parameter}

theorem keyword_names_other (params : List Parameter)
    (other : ¬ (p.kind = .positional_or_keyword ∨ p.kind = .keyword_only)) : keyword_names (p :: params) = keyword_names params := by
  rw [keyword_names,List.filter_cons_of_neg (by simpa using other)]
  rfl

theorem keyword_names_cons (params : List Parameter)
    (keyword : p.kind = .positional_or_keyword ∨ p.kind = .keyword_only) :
    keyword_names (p :: params) = p.name :: keyword_names params := by
  rw [keyword_names,List.filter_cons_of_pos (by simpa using keyword)]
  rfl

/-- What the second loop has made of a binding. -/
structure Takes (params : List Parameter) (b done : Binding ν) : Prop where
  param : done.kwargs_param = b.kwargs_param
  reads : ∀ name, done.arguments.get? name = if name ∈ keyword_names params then
    (b.kwargs.get? name).or (b.arguments.get? name) else b.arguments.get? name
  left : done.kwargs.items = b.kwargs.items.filter fun item => item.1 ∉ keyword_names params

theorem Takes.absent {b done : Binding ν} (takes : Takes params b done)
    (keyword : p.kind = .positional_or_keyword ∨ p.kind = .keyword_only) (absent : b.kwargs.get? p.name = none) :
    Takes (p :: params) b done := by
  rw [show Takes (p :: params) b done ↔ _ from Iff.rfl]
  have missing : ∀ item ∈ b.kwargs.items, item.1 ≠ p.name := by
    intro item member same
    simp only [Dict.get?,Option.map_eq_none_iff,List.find?_eq_none,decide_eq_true_eq] at absent
    exact absent item member same
  refine ⟨takes.param,fun name => ?_,?_⟩
  · rw [takes.reads,keyword_names_cons params keyword]
    by_cases same : name = p.name
    · subst same
      simp [absent]
    · simp [same]
  · rw [takes.left,keyword_names_cons params keyword]
    refine List.filter_congr fun item member => ?_
    simp [missing item member]

theorem Takes.present {b done : Binding ν} {value : ν}
    (takes : Takes params ⟨b.arguments.set p.name value,b.kwargs.erase p.name,b.kwargs_param⟩ done)
    (keyword : p.kind = .positional_or_keyword ∨ p.kind = .keyword_only) (present : b.kwargs.get? p.name = some value) :
    Takes (p :: params) b done := by
  refine ⟨takes.param,fun name => ?_,?_⟩
  · rw [takes.reads,keyword_names_cons params keyword,Dict.get?_erase,Dict.get?_set]
    by_cases same : name = p.name
    · subst same
      simp [present]
    · simp [same]
  · rw [takes.left,keyword_names_cons params keyword]
    change (b.kwargs.items.filter fun item => item.1 ≠ p.name).filter _ = _
    rw [List.filter_filter]
    refine List.filter_congr fun item _ => ?_
    by_cases same : item.1 = p.name <;> simp [same]

theorem bind_keywords {b : Binding ν} (plain : ∀ p ∈ params, p.kind ≠ .var_keyword)
    (clear : ∀ p ∈ params, p.kind = .positional_only → b.kwargs.get? p.name = none) :
    ∃ done, params.foldlM bind_keyword b = some done ∧ Takes params b done := by
  induction params generalizing b with
  | nil => exact ⟨b,rfl,rfl,fun name => by simp [keyword_names],by simp [keyword_names]⟩
  | cons p params ih =>
    have plain' : ∀ q ∈ params, q.kind ≠ .var_keyword := fun q member => plain q (List.mem_cons_of_mem p member)
    have clear' : ∀ q ∈ params, q.kind = .positional_only → b.kwargs.get? q.name = none :=
      fun q member => clear q (List.mem_cons_of_mem p member)
    have step : ∀ {next : Binding ν}, bind_keyword b p = some next →
        (p :: params).foldlM bind_keyword b = params.foldlM bind_keyword next := by
      intro next one
      rw [List.foldlM_cons,one]
      rfl
    by_cases keyword : p.kind = .positional_or_keyword ∨ p.kind = .keyword_only
    · cases present : b.kwargs.get? p.name with
      | none =>
        obtain ⟨done,run,takes⟩ := ih plain' clear'
        refine ⟨done,?_,takes.absent keyword present⟩
        rw [@step b ?_,run]
        unfold bind_keyword
        rcases keyword with either | only
        · rw [either]
          dsimp only
          rw [present]
        · rw [only]
          dsimp only
          rw [present]
      | some value =>
        have clear'' : ∀ q ∈ params, q.kind = .positional_only → (b.kwargs.erase p.name).get? q.name = none := by
          intro q member kind
          rw [Dict.get?_erase,clear' q member kind,ite_self]
        obtain ⟨done,run,takes⟩ := ih plain' (b := ⟨b.arguments.set p.name value,b.kwargs.erase p.name,b.kwargs_param⟩) clear''
        refine ⟨done,?_,takes.present keyword present⟩
        rw [step ?_,run]
        unfold bind_keyword
        rcases keyword with either | only
        · rw [either]
          dsimp only
          rw [present]
          rfl
        · rw [only]
          dsimp only
          rw [present]
          rfl
    · obtain ⟨done,run,takes⟩ := ih plain' clear'
      have same := keyword_names_other params keyword
      refine ⟨done,?_,takes.param,fun name => by rw [takes.reads,same],by rw [takes.left,same]⟩
      rw [@step b ?_,run]
      unfold bind_keyword
      cases kind : p.kind with
      | var_keyword => exact absurd kind (plain p List.mem_cons_self)
      | var_positional => rfl
      | positional_or_keyword => exact absurd (.inl kind) keyword
      | keyword_only => exact absurd (.inr kind) keyword
      | positional_only =>
        dsimp only
        rw [clear p List.mem_cons_self kind]

/-! ### What is bound in part -/

variable {s : Signature ν} {args : List ν}

theorem of_kind_names (kind : Kind) (names : List String) : (of_kind kind names).map Parameter.name = names := by
  simp [of_kind,Function.comp_def]

theorem mem_of_kind {kind : Kind} {names : List String} (member : p ∈ of_kind kind names) :
    p.kind = kind ∧ p.name ∈ names := by
  obtain ⟨name,listed,rfl⟩ := List.mem_map.mp member
  exact ⟨rfl,listed⟩

theorem place_names (s : Signature ν) : s.place_parameters.map Parameter.name = names s.by_position := by
  rw [Signature.place_parameters,List.map_append,of_kind_names,of_kind_names,Signature.by_position,names_append]

theorem place_length (s : Signature ν) : s.place_parameters.length = s.by_position.length := by
  rw [← List.length_map Parameter.name,place_names,names,List.length_map]

theorem place_drop (s : Signature ν) (n : Nat) : s.place_parameters.drop n =
    of_kind .positional_only ((names s.posonly).drop n) ++
      of_kind .positional_or_keyword ((names s.positional).drop (n - s.posonly.length)) := by
  rw [Signature.place_parameters,List.drop_append]
  simp [of_kind,names,List.map_drop]

theorem keyword_names_kind (kind : Kind) (names : List String) : keyword_names (of_kind kind names) =
    if kind = .positional_or_keyword ∨ kind = .keyword_only then names else [] := by
  induction names with
  | nil => simp [of_kind,keyword_names]
  | cons name names ih =>
    have parts : of_kind kind (name :: names) = ⟨name,kind⟩ :: of_kind kind names := rfl
    by_cases keyword : kind = .positional_or_keyword ∨ kind = .keyword_only
    · rw [parts,keyword_names_cons _ keyword,ih,if_pos keyword,if_pos keyword]
    · rw [parts,keyword_names_other _ keyword,ih,if_neg keyword,if_neg keyword]

/-- The keywords that are left for the second loop are those of parameters that are not filled. -/
theorem keyword_left (s : Signature ν) (args : List ν) (name : String) :
    name ∈ keyword_names (s.place_parameters.drop args.length) ++ names s.kwonly ↔
      name ∈ names s.by_keyword ∧ (placed s args).get? name = none := by
  have unplaced : (placed s args).get? name = none ↔ name ∉ (names s.by_position).take args.length := by
    rw [← placed_isSome_iff,Bool.not_eq_true,Option.isSome_eq_false_iff,Option.isNone_iff_eq_none]
  have left : keyword_names (s.place_parameters.drop args.length) = (names s.positional).drop (args.length - s.posonly.length) := by
    rw [place_drop,keyword_names_append,keyword_names_kind,keyword_names_kind,if_neg (by decide),if_pos (.inl rfl),List.nil_append]
  have behind : (names s.by_position).drop args.length =
      (names s.posonly).drop args.length ++ (names s.positional).drop (args.length - s.posonly.length) := by
    rw [Signature.by_position,names_append,List.drop_append]
    simp [names]
  have nodup := List.nodup_append.mp (regular_nodup s)
  have halves : List.Disjoint ((names s.by_position).take args.length) ((names s.by_position).drop args.length) :=
    List.disjoint_take_drop nodup.1 (Nat.le_refl _)
  rw [unplaced,left,List.mem_append,mem_by_keyword]
  constructor
  · rintro (later | only)
    · exact ⟨.inl (List.mem_of_mem_drop later),fun first => halves first (behind ▸ List.mem_append_right _ later)⟩
    · exact ⟨.inr only,fun first => nodup.2.2 name (List.mem_of_mem_take first) name only rfl⟩
  · rintro ⟨either | only,open_place⟩
    · refine .inl ?_
      have whole : name ∈ names s.by_position := by
        rw [Signature.by_position,names_append]
        exact List.mem_append_right _ either
      rw [← List.take_append_drop args.length (names s.by_position)] at whole
      rcases List.mem_append.mp whole with first | later
      · exact absurd first open_place
      · rw [behind] at later
        rcases List.mem_append.mp later with before | here
        · have apart := (List.nodup_append.mp (by rw [← names_append]; exact nodup.1 : (names s.posonly ++ names s.positional).Nodup)).2.2
          exact absurd rfl (apart name (List.mem_of_mem_drop before) name either)
        · exact here
    · exact .inr only

theorem bind_args_posonly (names : List String) (rest : List Parameter) {args : List ν} (arguments : Dict String ν)
    (short : args.length < names.length) :
    bind_args tuple kwargs arguments (of_kind .positional_only names ++ rest) args = none ∨
      ∃ filled, bind_args tuple kwargs arguments (of_kind .positional_only names ++ rest) args =
        some (filled,of_kind .positional_only (names.drop args.length) ++ rest) := by
  induction names generalizing arguments args with
  | nil => exact absurd short (Nat.not_lt_zero _)
  | cons name names ih =>
    cases args with
    | nil =>
      change (if (kwargs.get? name).isSome = true then none else some (arguments,_)) = none ∨ _
      by_cases known : (kwargs.get? name).isSome = true
      · exact .inl (if_pos known)
      · exact .inr ⟨arguments,if_neg known⟩
    | cons arg args => exact ih (arguments.set name arg) (Nat.lt_of_succ_lt_succ short)

theorem bind_keywords_refused {names : List String} (rest : List Parameter) {b : Binding ν}
    (refused : ∃ name ∈ names, (b.kwargs.get? name).isSome = true) :
    (of_kind .positional_only names ++ rest).foldlM bind_keyword b = none := by
  induction names with
  | nil =>
    obtain ⟨name,member,-⟩ := refused
    cases member
  | cons name names ih =>
    have parts : of_kind .positional_only (name :: names) ++ rest = ⟨name,.positional_only⟩ :: (of_kind .positional_only names ++ rest) := rfl
    rw [parts,List.foldlM_cons]
    cases present : b.kwargs.get? name with
    | some value =>
      have step : bind_keyword b ⟨name,.positional_only⟩ = none := by
        unfold bind_keyword
        dsimp only
        rw [present]
        rfl
      rw [step]
      rfl
    | none =>
      have step : bind_keyword b ⟨name,.positional_only⟩ = some b := by
        unfold bind_keyword
        dsimp only
        rw [present]
      rw [step]
      refine ih ?_
      obtain ⟨other,member,found⟩ := refused
      rcases List.mem_cons.mp member with rfl | later
      · rw [present] at found
        cases found
      · exact ⟨other,later,found⟩

/-- A keyword is refused that has the name of a positional-only parameter which is not filled. -/
theorem bind_partial_refused (refused : Refused s args kwargs) : bind_partial tuple dict s args kwargs = none := by
  obtain ⟨param,member,found⟩ := refused
  have listed : param.name ∈ (names s.posonly).drop args.length := by
    rw [names,← List.map_drop]
    exact List.mem_map_of_mem member
  have short : args.length < (names s.posonly).length := by
    by_contra long
    rw [List.drop_eq_nil_of_le (Nat.not_lt.mp long)] at listed
    cases listed
  have parts : s.parameters = of_kind .positional_only (names s.posonly) ++ (of_kind .positional_or_keyword (names s.positional) ++
      (of_kind .var_positional s.var_positional.toList ++ s.last_parameters)) := by
    rw [Signature.parameters,Signature.place_parameters,List.append_assoc]
  unfold bind_partial
  rw [parts]
  rcases bind_args_posonly (names s.posonly) _ .empty short with failed | ⟨filled,first⟩
  · rw [failed]
    rfl
  · rw [first,Option.bind_some,bind_keywords_refused _ ⟨param.name,listed,found⟩]
    rfl

theorem place_kind (member : p ∈ s.place_parameters) :
    (p.kind = .positional_only ∧ p.name ∈ names s.posonly) ∨ (p.kind = .positional_or_keyword ∧ p.name ∈ names s.positional) :=
  (List.mem_append.mp member).imp mem_of_kind mem_of_kind

/-- The first loop fills what is filled by position, and leaves the parameters whose keywords are not taken. -/
theorem bind_args_first (bound : Bound s args kwargs) (clear : ¬ Refused s args kwargs) : ∃ arguments left,
    bind_args tuple kwargs .empty s.parameters args = some (arguments,left ++ of_kind .var_keyword s.var_keyword.toList) ∧
    (∀ name, arguments.get? name = if s.var_positional = some name ∧ surplus s args ≠ [] then some (tuple (surplus s args))
      else (placed s args).get? name) ∧
    keyword_names left = keyword_names (s.place_parameters.drop args.length) ++ names s.kwonly ∧
    (∀ p ∈ left, p.kind ≠ .var_keyword) ∧ ∀ p ∈ left, p.kind = .positional_only → kwargs.get? p.name = none := by
  have kinds : ∀ p ∈ s.place_parameters, p.kind = .positional_only ∨ p.kind = .positional_or_keyword :=
    fun p member => (place_kind member).imp And.left And.left
  have once : ∀ p ∈ s.place_parameters.take args.length, p.kind = .positional_or_keyword → kwargs.get? p.name = none := by
    intro p member kind
    have positional : p.name ∈ names s.positional := by
      rcases place_kind (List.mem_of_mem_take member) with ⟨only,-⟩ | ⟨-,listed⟩
      · rw [kind] at only
        cases only
      · exact listed
    have filled : ((placed s args).get? p.name).isSome = true := by
      rw [placed_isSome_iff,← place_names,← List.map_take]
      exact List.mem_map_of_mem member
    cases found : kwargs.get? p.name with
    | none => rfl
    | some value =>
      rw [bound.once _ (Dict.mem_items found) (mem_by_keyword.mpr (.inl positional))] at filled
      cases filled
  have unnamed : ∀ p ∈ s.place_parameters.drop args.length, p.kind = .positional_only → kwargs.get? p.name = none := by
    intro p member kind
    rw [place_drop] at member
    rcases List.mem_append.mp member with only | either
    · have listed := (mem_of_kind only).2
      rw [names,← List.map_drop] at listed
      obtain ⟨param,here,same⟩ := List.mem_map.mp listed
      cases found : kwargs.get? p.name with
      | none => rfl
      | some value => exact absurd ⟨param,here,by rw [same,found]; rfl⟩ clear
    · rw [(mem_of_kind either).1] at kind
      cases kind
  have only_kind : ∀ p ∈ of_kind .keyword_only (names s.kwonly), p.kind = .keyword_only := fun p member => (mem_of_kind member).1
  have only_names : keyword_names (of_kind .keyword_only (names s.kwonly)) = names s.kwonly := by
    rw [keyword_names_kind,if_pos (.inr rfl)]
  rw [Signature.parameters,bind_args_places _ _ kinds once unnamed,place_names,place_length]
  by_cases reach : s.by_position.length ≤ args.length
  · have none_left : s.place_parameters.drop args.length = [] := List.drop_eq_nil_of_le (by rw [place_length]; exact reach)
    refine ⟨if surplus s args = [] then placed s args else set_var (placed s args) s.var_positional (tuple (surplus s args)),
      of_kind .keyword_only (names s.kwonly),?_,fun name => ?_,?_,fun p member kind => ?_,fun p member kind => ?_⟩
    · rw [if_pos reach]
      exact bind_args_last s (surplus s args) (placed s args) bound.positions
    · by_cases more : surplus s args = []
      · rw [if_pos more]
        exact (if_neg fun both => both.2 more).symm
      · rw [if_neg more,get?_set_var]
        by_cases starred : s.var_positional = some name
        · rw [if_pos starred,if_pos ⟨starred,more⟩]
        · rw [if_neg starred,if_neg fun both => starred both.1]
    · rw [none_left,only_names]
      rfl
    · rw [only_kind p member] at kind
      cases kind
    · rw [only_kind p member] at kind
      cases kind
  · have none_over : surplus s args = [] := List.drop_eq_nil_of_le (Nat.le_of_not_le reach)
    refine ⟨placed s args,s.place_parameters.drop args.length ++ (of_kind .var_positional s.var_positional.toList ++
      of_kind .keyword_only (names s.kwonly)),?_,fun name => ?_,?_,fun p member kind => ?_,fun p member kind => ?_⟩
    · rw [if_neg reach,Signature.last_parameters,List.append_assoc,List.append_assoc]
      rfl
    · rw [if_neg fun both => both.2 none_over]
    · rw [keyword_names_append,keyword_names_append,only_names,keyword_names_kind,if_neg (by decide),List.nil_append]
    · rcases List.mem_append.mp member with place | later
      · have known := kinds p (List.mem_of_mem_drop place)
        rw [kind] at known
        rcases known with same | same <;> cases same
      · rcases List.mem_append.mp later with starred | only
        · rw [(mem_of_kind starred).1] at kind
          cases kind
        · rw [only_kind p only] at kind
          cases kind
    · rcases List.mem_append.mp member with place | later
      · exact unnamed p place kind
      · rcases List.mem_append.mp later with starred | only
        · rw [(mem_of_kind starred).1] at kind
          cases kind
        · rw [only_kind p only] at kind
          cases kind

theorem bind_partial_passed (bound : Bound s args kwargs) (clear : ¬ Refused s args kwargs) :
    ∃ arguments, bind_partial tuple dict s args kwargs = some arguments ∧
      ∀ name, arguments.get? name = passed tuple dict s args kwargs name := by
  obtain ⟨filled,left,first,reads,open_names,plain,unnamed⟩ := @bind_args_first ν tuple kwargs s args bound clear
  obtain ⟨done,run,takes⟩ := bind_keywords (b := ⟨filled,kwargs,none⟩) plain unnamed
  have rest : done.kwargs.items = extra s kwargs := by
    rw [takes.left]
    refine List.filter_congr fun item member => ?_
    rw [open_names]
    have same : item.1 ∈ keyword_names (s.place_parameters.drop args.length) ++ names s.kwonly ↔ item.1 ∈ names s.by_keyword :=
      (keyword_left s args item.1).trans ⟨And.left,fun known => ⟨known,bound.once item member known⟩⟩
    rw [decide_eq_decide]
    exact not_congr same
  have values : ∀ name, (s.var_keyword ≠ some name ∨ extra s kwargs = []) →
      done.arguments.get? name = passed tuple dict s args kwargs name := by
    intro name other
    rw [takes.reads,open_names,reads,passed]
    have last : (if s.var_positional = some name ∧ surplus s args ≠ [] then some (tuple (surplus s args))
        else if s.var_keyword = some name ∧ extra s kwargs ≠ [] then some (dict (extra s kwargs)) else none) =
        if s.var_positional = some name ∧ surplus s args ≠ [] then some (tuple (surplus s args)) else none := by
      congr 1
      exact if_neg fun both => other.elim (fun differ => differ both.1) both.2
    cases known : (placed s args).get? name with
    | some value =>
      have absent : name ∉ keyword_names (s.place_parameters.drop args.length) ++ names s.kwonly := by
        rw [keyword_left,known]
        exact fun both => nomatch both.2
      have plain_name : s.var_positional ≠ some name := fun same => (var_positional_fresh same).1 (placed_regular known)
      rw [if_neg absent,if_neg fun both => plain_name both.1]
    | none =>
      dsimp only
      rw [last]
      by_cases named : name ∈ names s.by_keyword
      · have plain_name : s.var_positional ≠ some name := fun same => (var_positional_fresh same).1 (by_keyword_regular named)
        rw [if_pos ((keyword_left s args name).mpr ⟨named,known⟩),if_pos named,if_neg fun both => plain_name both.1,Option.or_none]
      · rw [if_neg fun member => named ((keyword_left s args name).mp member).1,if_neg named]
  unfold bind_partial
  rw [first,Option.bind_some,List.foldlM_append,run]
  cases variadic : s.var_keyword with
  | none =>
    have none_left : extra s kwargs = [] := by
      refine List.filter_eq_nil_iff.mpr fun item member keep => ?_
      have swallowed := bound.keywords item member (of_decide_eq_true keep)
      rw [variadic] at swallowed
      cases swallowed
    refine ⟨done.arguments,?_,fun name => values name (.inr none_left)⟩
    change (if done.kwargs.items.isEmpty = true then _ else _) = _
    rw [rest,none_left]
    rfl
  | some swallow =>
    change ∃ arguments, (if done.kwargs.items.isEmpty = true then some done.arguments
      else some (done.arguments.set swallow (dict done.kwargs.items))) = some arguments ∧ _
    rw [rest]
    by_cases none_left : extra s kwargs = []
    · rw [none_left]
      exact ⟨done.arguments,rfl,fun name => values name (.inr none_left)⟩
    · have more : ¬ (extra s kwargs).isEmpty = true := fun empty => none_left (List.isEmpty_iff.mp empty)
      rw [if_neg more]
      refine ⟨_,rfl,fun name => ?_⟩
      rw [Dict.get?_set]
      by_cases same : name = swallow
      · subst same
        have fresh := var_keyword_fresh variadic
        have unplaced : (placed s args).get? name = none := by
          cases known : (placed s args).get? name with
          | none => rfl
          | some value => exact absurd (placed_regular known) fresh
        rw [if_pos rfl,passed,unplaced]
        dsimp only
        rw [if_neg fun member => fresh (by_keyword_regular member),
          if_neg fun both => (var_positional_fresh both.1).2 variadic,if_pos ⟨variadic,none_left⟩]
      · rw [if_neg same]
        exact values name (.inl fun equal => same (Option.some.inj (equal.symm.trans variadic)))

end

end Automation.PyCalls
