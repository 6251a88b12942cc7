import Automation.PyCalls

/-!
The guard that `requires` puts around a function. It resolves the actor and the department
from a partial binding of the call, which leaves the defaults out, and the function receives
what Python binds. `guard_checks_iff` says for which calls that run the check was made for
what the function receives.
-/
namespace Automation.RbacGuard
open Automation.PyCalls

structure AuthContext where
  actor_id : String
  actor_role : String
  dept_ids : List String

inductive Value where
  | none
  | str (s : String)
  | context (actor : AuthContext)
  | tuple (items : List Value)
  | dict (items : List (String × Value))
  /-- Any other object. -/
  | other (type : String) (hashable : Bool)

mutual

def hashable : Value → Bool
  | .dict _ => false
  | .other _ hashable => hashable
  | .tuple items => all_hashable items
  | .none | .str _ | .context _ => true

def all_hashable : List Value → Bool
  | [] => true
  | value :: items => hashable value && all_hashable items

end

def ROLES : List String := ["viewer","lead","admin","dept_admin"]

/-- The roles that satisfy a guard. -/
def ROLES_THAT_SATISFY : List (String × List String) :=
  [("viewer",["viewer","lead","admin","dept_admin"]),("lead",["lead","admin","dept_admin"]),("admin",["admin"]),
    ("dept_admin",["admin","dept_admin"])]

def allowed_roles (required_role : String) : List String := (ROLES_THAT_SATISFY.lookup required_role).getD []

inductive Refusal where
  | unknown_role (role : String)
  | missing_actor (required_role : String) (dept_id : Value)
  | permission_denied (actor_role required_role : String) (dept_id : Value) (not_a_member : Bool)
  /-- The actor is no context and has no `actor_role`. -/
  | attribute_error
  /-- The department cannot be looked for in a set. -/
  | type_error

/-- `dept_id in actor.dept_ids`. -/
def is_member (dept_id : Value) (actor : AuthContext) : Bool :=
  match dept_id with
  | .str dept_id => actor.dept_ids.contains dept_id
  | _ => false

def is_none : Value → Bool
  | .none => true
  | _ => false

def check (actor : Value) (required_role : String) (dept_id : Value) : Except Refusal Unit :=
  if !ROLES.contains required_role then .error (.unknown_role required_role)
  else
    match actor with
    | .none => .error (.missing_actor required_role dept_id)
    | .context actor =>
      if !ROLES.contains actor.actor_role then .error (.permission_denied actor.actor_role required_role dept_id false)
      else if !(allowed_roles required_role).contains actor.actor_role then
        .error (.permission_denied actor.actor_role required_role dept_id false)
      else if !is_none dept_id && actor.actor_role != "admin" then
        if !hashable dept_id then .error .type_error
        else if !is_member dept_id actor then .error (.permission_denied actor.actor_role required_role dept_id true)
        else .ok ()
      else .ok ()
    | _ => .error .attribute_error

structure Guard where
  role : String
  dept_id : Option String
  actor_arg : String
  dept_id_arg : Option String

/-- What `requires` accepts, `false` for a `ValueError`. -/
def Guard.valid (guard : Guard) : Bool := !(guard.dept_id.isSome && guard.dept_id_arg.isSome) && ROLES.contains guard.role

/-- The first positional argument that is a context. -/
def first_context : List Value → Value
  | [] => .none
  | .context actor :: _ => .context actor
  | _ :: args => first_context args

variable (guard : Guard) (signature : Signature Value) (args : List Value) (kwargs : Dict String Value)

/-- The actor and the department that are checked. -/
def resolve : Value × Value :=
  let arguments := ( bind_partial Value.tuple Value.dict signature args kwargs).getD .empty
  let bound := (arguments.get? guard.actor_arg).getD .none
  let actor := if is_none bound then first_context args else bound
  let dept_id := match guard.dept_id_arg with
    | some dept_id_arg => (arguments.get? dept_id_arg).getD .none
    | none => (guard.dept_id.map Value.str).getD .none
  (actor,dept_id)

inductive Outcome where
  | refused (refusal : Refusal)
  /-- The arguments do not fit the function. -/
  | type_error
  /-- The function runs with these locals. -/
  | ran (locals : Dict String Value)

/-- The function that `requires` returns. -/
def wrapper : Outcome :=
  let resolved := resolve guard signature args kwargs
  match check resolved.1 guard.role resolved.2 with
  | .error refusal => .refused refusal
  | .ok _ =>
    match call Value.tuple Value.dict signature args kwargs with
    | none => .type_error
    | some locals => .ran locals

/-- The decorator, `none` for a `ValueError`. -/
def requires : Option (List Value → Dict String Value → Outcome) :=
  if guard.valid then some (wrapper guard signature) else none

/-- The actor of a call that runs. -/
def actor_received (locals : Dict String Value) : Value :=
  if signature.has guard.actor_arg then (locals.get? guard.actor_arg).getD .none else first_context args

/-- The department that the function receives, as a parameter or among its `**kwargs`. -/
def dept_received (dept_id_arg : String) (locals : Dict String Value) : Value :=
  if signature.has dept_id_arg then (locals.get? dept_id_arg).getD .none else (kwargs.get? dept_id_arg).getD .none

/-- The check that the call was to pass. -/
def Checked (dept_id_arg : String) (locals : Dict String Value) : Prop :=
  check (actor_received guard signature args locals) guard.role (dept_received signature kwargs dept_id_arg locals) = .ok ()

/-- What the guard sees of a call: what is passed for the parameter, unless a keyword has the name of
    a positional-only parameter that is not filled. -/
def seen (name : String) : Option Value :=
  if Refused signature args kwargs then none else passed Value.tuple Value.dict signature args kwargs name

/-- What a parameter is in the function: what is passed, or else its default. -/
def given (name : String) : Value :=
  ((passed Value.tuple Value.dict signature args kwargs name).or (unpassed Value.tuple Value.dict signature name)).getD .none

/-- The call passes an actor for the parameter, if the function has one. -/
def ActorSeen : Prop :=
  signature.has guard.actor_arg = true → ∃ actor, seen signature args kwargs guard.actor_arg = some actor ∧ is_none actor = false

def DeptSeen (dept_id_arg : String) : Prop := (seen signature args kwargs dept_id_arg).isSome = true

/-- The role of the actor satisfies the guard. -/
def Admitted (role : String) (actor : Value) : Prop :=
  ∃ a, actor = .context a ∧ a.actor_role ∈ ROLES ∧ a.actor_role ∈ allowed_roles role

/-- The actor may act on the department. -/
def Scoped (actor dept_id : Value) : Prop :=
  is_none dept_id = true ∨ ∃ a, actor = .context a ∧ (a.actor_role = "admin" ∨ is_member dept_id a = true)

/-- The actor of the call: the value of the parameter, or the first context by position. -/
def call_actor : Value :=
  if signature.has guard.actor_arg then given signature args kwargs guard.actor_arg else first_context args

/-- The department of the call: the value of the parameter, or of a keyword among `**kwargs`. -/
def call_dept (dept_id_arg : String) : Value :=
  if signature.has dept_id_arg then given signature args kwargs dept_id_arg else (kwargs.get? dept_id_arg).getD .none

/-- An actor that is passed need only be allowed a department that is not; an actor that is not
    passed must have the role as well. -/
structure Covered (dept_id_arg : String) : Prop where
  dept : ActorSeen guard signature args kwargs → ¬ DeptSeen signature args kwargs dept_id_arg →
    Scoped (call_actor guard signature args kwargs) (call_dept signature args kwargs dept_id_arg)
  actor : ¬ ActorSeen guard signature args kwargs → Admitted guard.role (call_actor guard signature args kwargs) ∧
    Scoped (call_actor guard signature args kwargs) (call_dept signature args kwargs dept_id_arg)

theorem member_hashable {dept_id : Value} {actor : AuthContext} (member : is_member dept_id actor = true) :
    hashable dept_id = true := by
  cases dept_id with
  | str => rfl
  | none | context | tuple | dict | other => cases member

theorem check_ok_iff (actor : Value) (role : String) (dept_id : Value) :
    check actor role dept_id = .ok () ↔ role ∈ ROLES ∧ Admitted role actor ∧ Scoped actor dept_id := by
  unfold check
  by_cases known : ROLES.contains role = true
  · have listed : role ∈ ROLES := List.contains_iff_mem.mp known
    rw [if_neg (by rw [known]; exact Bool.false_ne_true)]
    cases actor with
    | none => exact ⟨nofun,fun ok => by obtain ⟨-,⟨a,same,-⟩,-⟩ := ok; cases same⟩
    | str | tuple | dict | other => exact ⟨nofun,fun ok => by obtain ⟨-,⟨a,same,-⟩,-⟩ := ok; cases same⟩
    | context a =>
      dsimp only
      have context : ∀ {b}, Value.context a = .context b → a = b := fun same => Value.context.inj same
      split_ifs with unknown short limited unhashable outside
      · refine ⟨nofun,fun ok => ?_⟩
        obtain ⟨-,⟨b,same,role_known,-⟩,-⟩ := ok
        rw [← context same] at role_known
        rw [List.contains_iff_mem.mpr role_known] at unknown
        cases unknown
      · refine ⟨nofun,fun ok => ?_⟩
        obtain ⟨-,⟨b,same,-,allowed⟩,-⟩ := ok
        rw [← context same] at allowed
        rw [List.contains_iff_mem.mpr allowed] at short
        cases short
      · refine ⟨nofun,fun ok => ?_⟩
        obtain ⟨-,-,blank | ⟨b,same,admin | member⟩⟩ := ok
        · rw [blank] at limited
          cases limited
        · rw [← context same] at admin
          rw [admin] at limited
          simp at limited
        · rw [member_hashable member] at unhashable
          cases unhashable
      · refine ⟨nofun,fun ok => ?_⟩
        obtain ⟨-,-,blank | ⟨b,same,admin | member⟩⟩ := ok
        · rw [blank] at limited
          cases limited
        · rw [← context same] at admin
          rw [admin] at limited
          simp at limited
        · rw [← context same] at member
          rw [member] at outside
          cases outside
      · have admitted : Admitted role (.context a) := by
          refine ⟨a,rfl,?_,?_⟩
          · simpa using unknown
          · simpa using short
        refine ⟨fun _ => ⟨listed,admitted,.inr ⟨a,rfl,.inr ?_⟩⟩,fun _ => rfl⟩
        simpa using outside
      · have admitted : Admitted role (.context a) := by
          refine ⟨a,rfl,?_,?_⟩
          · simpa using unknown
          · simpa using short
        refine ⟨fun _ => ⟨listed,admitted,?_⟩,fun _ => rfl⟩
        by_cases blank : is_none dept_id = true
        · exact .inl blank
        · refine .inr ⟨a,rfl,.inl ?_⟩
          by_contra other
          exact limited (by simp [blank,other])
  · rw [if_pos (by simpa using known)]
    refine ⟨nofun,fun ok => ?_⟩
    exact absurd (List.contains_iff_mem.mpr ok.1) known

variable {guard signature args kwargs} {locals : Dict String Value} {name : String}

theorem not_passed (absent : signature.has name = false) : passed Value.tuple Value.dict signature args kwargs name = none := by
  simp only [Signature.has,Bool.or_eq_false_iff,beq_eq_false_iff_ne] at absent
  obtain ⟨⟨unlisted,unstarred⟩,unswallowed⟩ := absent
  have irregular : name ∉ names signature.regular := fun member => by simp [member] at unlisted
  unfold passed
  cases known : (placed signature args).get? name with
  | some value => exact absurd (placed_regular known) irregular
  | none =>
    dsimp only
    rw [if_neg fun member => irregular (by_keyword_regular member),if_neg fun both => unstarred both.1,
      if_neg fun both => unswallowed both.1]

theorem bound_seen (bound : Bound signature args kwargs) (name : String) :
    (( bind_partial Value.tuple Value.dict signature args kwargs).getD .empty).get? name = seen signature args kwargs name := by
  unfold seen
  by_cases refused : Refused signature args kwargs
  · rw [bind_partial_refused refused,if_pos refused]
    rfl
  · obtain ⟨arguments,known,reads⟩ := @bind_partial_passed Value Value.tuple Value.dict kwargs signature args bound refused
    rw [known,if_neg refused]
    exact reads name

theorem received_given (bound : call Value.tuple Value.dict signature args kwargs = some locals) :
    (locals.get? name).getD .none = given signature args kwargs name := by
  rw [call_received bound]
  rfl

theorem seen_given {value : Value} (known : seen signature args kwargs name = some value) :
    signature.has name = true ∧ given signature args kwargs name = value := by
  unfold seen at known
  by_cases refused : Refused signature args kwargs
  · rw [if_pos refused] at known
    cases known
  · rw [if_neg refused] at known
    refine ⟨?_,by rw [given,known]; rfl⟩
    by_contra absent
    rw [not_passed (Bool.not_eq_true _ ▸ absent)] at known
    cases known

theorem seen_actor (bound : Bound signature args kwargs) (actor_seen : ActorSeen guard signature args kwargs) :
    (resolve guard signature args kwargs).1 = call_actor guard signature args kwargs := by
  unfold resolve call_actor
  dsimp only
  rw [bound_seen bound]
  by_cases has : signature.has guard.actor_arg = true
  · obtain ⟨actor,known,filled⟩ := actor_seen has
    rw [if_pos has,(seen_given known).2,known,Option.getD_some,if_neg (by rw [filled]; exact Bool.false_ne_true)]
  · have unseen : seen signature args kwargs guard.actor_arg = none := by
      cases known : seen signature args kwargs guard.actor_arg with
      | none => rfl
      | some value => exact absurd (seen_given known).1 has
    rw [if_neg has,unseen]
    rfl

theorem wrapper_runs (runs : wrapper guard signature args kwargs = .ran locals) :
    check (resolve guard signature args kwargs).1 guard.role (resolve guard signature args kwargs).2 = .ok () ∧
      call Value.tuple Value.dict signature args kwargs = some locals := by
  unfold wrapper at runs
  dsimp only at runs
  split at runs
  · cases runs
  · rename_i passes
    split at runs
    · cases runs
    · rename_i known
      cases runs
      exact ⟨passes,known⟩

/-- A call that runs was checked for what the function receives exactly where the call is covered. -/
theorem guard_checks_iff (guard : Guard) (signature : Signature Value) (args : List Value) (kwargs : Dict String Value)
    (dept_id_arg : String) (locals : Dict String Value) (decorated : List Value → Dict String Value → Outcome)
    (required : requires guard signature = some decorated) (arg : guard.dept_id_arg = some dept_id_arg)
    (runs : decorated args kwargs = .ran locals) :
    Checked guard signature args kwargs dept_id_arg locals ↔ Covered guard signature args kwargs dept_id_arg := by
  obtain rfl : wrapper guard signature = decorated := by
    unfold requires at required
    split at required
    · exact Option.some.inj required
    · cases required
  obtain ⟨passes,bound⟩ := wrapper_runs runs
  have facts := (call_bound bound).1
  obtain ⟨role_known,admitted,allowed_dept⟩ := (check_ok_iff _ _ _).mp passes
  have received : actor_received guard signature args locals = call_actor guard signature args kwargs ∧
      dept_received signature kwargs dept_id_arg locals = call_dept signature args kwargs dept_id_arg := by
    unfold actor_received dept_received call_actor call_dept
    rw [received_given bound,received_given bound]
    exact ⟨rfl,rfl⟩
  rw [Checked,received.1,received.2,check_ok_iff]
  have department : (resolve guard signature args kwargs).2 = (seen signature args kwargs dept_id_arg).getD .none := by
    unfold resolve
    rw [arg]
    dsimp only
    rw [bound_seen facts]
  constructor
  · rintro ⟨-,actor_ok,dept_ok⟩
    exact ⟨fun _ _ => dept_ok,fun _ => ⟨actor_ok,dept_ok⟩⟩
  · intro covered
    by_cases actor_seen : ActorSeen guard signature args kwargs
    · rw [seen_actor facts actor_seen] at admitted allowed_dept
      refine ⟨role_known,admitted,?_⟩
      cases known : seen signature args kwargs dept_id_arg with
      | none => exact covered.dept actor_seen (by rw [DeptSeen,known]; exact Bool.false_ne_true)
      | some value =>
        obtain ⟨has,same⟩ := seen_given known
        rw [department,known,Option.getD_some] at allowed_dept
        rw [call_dept,if_pos has,same]
        exact allowed_dept
    · exact ⟨role_known,covered.actor actor_seen⟩

def rotate_guard : Guard := ⟨"dept_admin",none,"actor",some "dept_id"⟩

/-- `def rotate(actor, dept_id="payment")`. -/
def rotate : Signature Value := ⟨[],[⟨"actor",none⟩,⟨"dept_id",some (.str "payment")⟩],none,[],none,by decide⟩

def risk_admin : Value := .context ⟨"u1","dept_admin",["risk"]⟩

def rotate_locals (dept_id : String) : Dict String Value := (Dict.empty.set "actor" risk_admin).set "dept_id" (.str dept_id)

theorem rotate_required : requires rotate_guard rotate = some (wrapper rotate_guard rotate) := rfl

theorem rotate_passed : wrapper rotate_guard rotate [risk_admin,.str "risk"] .empty = .ran (rotate_locals "risk") := rfl

theorem rotate_default : wrapper rotate_guard rotate [risk_admin] .empty = .ran (rotate_locals "payment") := rfl

/-- A department that is passed is checked. -/
theorem passed_department_checked : Checked rotate_guard rotate [risk_admin,.str "risk"] .empty "dept_id" (rotate_locals "risk") := by
  refine (guard_checks_iff rotate_guard rotate [risk_admin,.str "risk"] .empty "dept_id" (rotate_locals "risk")
    (wrapper rotate_guard rotate) rotate_required rfl rotate_passed).mpr ⟨fun _ unseen => ?_,fun unseen => ?_⟩
  · exact absurd rfl unseen
  · exact absurd (fun _ => ⟨risk_admin,rfl,rfl⟩) unseen

/-- The default department is not: the call runs for a department of which the actor is no member. -/
theorem default_department_unchecked :
    requires rotate_guard rotate = some (wrapper rotate_guard rotate) ∧
    wrapper rotate_guard rotate [risk_admin] .empty = .ran (rotate_locals "payment") ∧
    ¬ Checked rotate_guard rotate [risk_admin] .empty "dept_id" (rotate_locals "payment") := by
  refine ⟨rotate_required,rotate_default,fun checked => ?_⟩
  have denied : check risk_admin "dept_admin" (.str "payment") =
      .error (.permission_denied "dept_admin" "dept_admin" (.str "payment") true) := rfl
  exact nomatch denied.symm.trans checked

end Automation.RbacGuard
