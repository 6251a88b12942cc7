import Automation.Coroutine
import Automation.Json
import Automation.PyText

/-!
`ApprovalGateWorkflow`: the request for approval, the wait for a decision of an
approver, and the result.

A signal overwrites the one slot for a decision, and who sent it is only looked
at when the wait reads its condition. So a decision that arrives after an
approver's, in the same batch or before the wait begins, replaces it. Where no
signal changes a slot that holds an approver's decision, the gate returns the
first decision of an approver, whatever the others sent (`gate_noninterference`).
-/
namespace Automation.ApprovalGate
open Automation.Effects Automation.Coroutine Automation.PyText

structure ApprovalGateInput where
  issue_key : String
  dept_id : String
  workflow_id : String
  commit_files : List String
  approval_required_paths : List String
  approvers : List String

structure ApprovalGateResult where
  approved : Bool
  timed_out : Bool
  approver_id : Option String
  matched_paths : List String
  deriving DecidableEq

/-- `compile` is `re.compile` with `search`; `none` stands for `re.error`. -/
def match_approval_paths (compile : String → Option (String → Bool)) (commit_files approval_required_paths : List String) :
    List String :=
  let compiled := approval_required_paths.filterMap compile
  commit_files.filter fun file_path => compiled.any fun search => search file_path

def is_authorized_approver (user_id : String) (approvers : List String) : Bool := approvers.contains user_id

inductive Decision where
  | approve
  | reject
  deriving DecidableEq

def parse_approval_decision (decision : String) : Option Decision :=
  if contains (lower decision) "[approve]" then some .approve
  else if contains (lower decision) "[reject]" then some .reject
  else none

def format_approval_request_comment (matched_paths : List String) : String :=
  let paths_list := "\n".intercalate (matched_paths.map fun p => "  • `" ++ p ++ "`")
  " **Onay Gerekli - Hassas Dosya Değişikliği**\n\nAşağıdaki dosyalar onay gerektiren yollarda değişiklik içermektedir:\n\n" ++
    paths_list ++ "\n\n---\n• Onaylamak için: `[approve]` yazın\n• Reddetmek için: `[reject]` yazın\n\n" ++
    " 4 saat içinde yanıt alınmazsa işlem otomatik iptal edilir."

def format_timeout_comment : String :=
  " **Onay Zaman Aşımı**\n\n4 saat içinde yetkili kullanıcıdan onay alınamadı. İş akışı otomatik olarak iptal edildi.\n\n" ++
    "Değişiklikleri uygulamak için görevi yeniden atayın."

def format_rejection_comment (approver_id : String) : String :=
  " **Değişiklik Reddedildi**\n\nYetkili kullanıcı (" ++ approver_id ++
    ") tarafından reddedildi. Kod değişiklikleri uygulanmayacak."

def format_approval_comment (approver_id : String) : String :=
  " **Değişiklik Onaylandı**\n\nYetkili kullanıcı (" ++ approver_id ++
    ") tarafından onaylandı. Commit işlemi devam ediyor."

/-- The slot of the latest decision, with who sent it. -/
structure GateState where
  decision : Option (Decision × String)
  deriving DecidableEq

structure ApprovalReceived where
  user_id : String
  decision : String

inductive GateCall where
  | jira_add_comment (issue_key body dept_id : String)
  | audit_write (row : Json)

/-- Both activities are best effort, so nothing reads their replies. -/
@[reducible] def gate : Workflow where
  Self := GateState
  Signal := ApprovalReceived
  Call := GateCall
  Reply := Except Unit Unit
  receive s self :=
    match parse_approval_decision s.decision with
    | none => self
    | some parsed => { self with decision := some (parsed,s.user_id) }

abbrev Gate := Prog (acts gate) Empty

def act (c : Act gate) : Gate ((acts gate).Res c) := command (S := acts gate) c

def post_jira_comment (issue_key dept_id body : String) : Gate Unit := do
  let _ ← act (.await (.jira_add_comment issue_key body dept_id))
  return ()

def write_audit_log (inp : ApprovalGateInput) (event_type : String) (matched_paths : List String)
    (approver_id : Option String) : Gate Unit := do
  let _ ← act (.await (.audit_write (.obj [("workflow_id",.str inp.workflow_id),("issue_key",.str inp.issue_key),
    ("event_type",.str ("approval_" ++ event_type)),("matched_paths",.arr (matched_paths.map .str)),
    ("approver_account_id",.ofOption approver_id)])))
  return ()

/-- The condition of the wait: a decision that no approver sent is discarded. -/
def has_authorized_decision (approvers : List String) : Condition gate := fun self =>
  match self.decision with
  | none => (false,self)
  | some (_,user_id) => if is_authorized_approver user_id approvers then (true,self) else (false,{ decision := none })

/-- The gate once its request is out. -/
def await_decision (inp : ApprovalGateInput) (matched_paths : List String) : Gate ApprovalGateResult := do
  if ← act (.wait (has_authorized_decision inp.approvers)) then
    let self ← act .look
    match self.decision with
    | some (.approve,approver_id) =>
      post_jira_comment inp.issue_key inp.dept_id (format_approval_comment approver_id)
      write_audit_log inp "approved" matched_paths (some approver_id)
      return { approved := true, timed_out := false, approver_id := some approver_id, matched_paths }
    | some (.reject,approver_id) =>
      post_jira_comment inp.issue_key inp.dept_id (format_rejection_comment approver_id)
      write_audit_log inp "rejected" matched_paths (some approver_id)
      return { approved := false, timed_out := false, approver_id := some approver_id, matched_paths }
    | none =>
      post_jira_comment inp.issue_key inp.dept_id (format_rejection_comment "")
      write_audit_log inp "rejected" matched_paths (some "")
      return { approved := false, timed_out := false, approver_id := some "", matched_paths }
  else
    post_jira_comment inp.issue_key inp.dept_id format_timeout_comment
    write_audit_log inp "timeout" matched_paths none
    return { approved := false, timed_out := true, approver_id := none, matched_paths }

def run (compile : String → Option (String → Bool)) (inp : ApprovalGateInput) : Gate ApprovalGateResult := do
  if inp.approval_required_paths.isEmpty then
    return { approved := true, timed_out := false, approver_id := none, matched_paths := [] }
  let matched_paths := match_approval_paths compile inp.commit_files inp.approval_required_paths
  if matched_paths.isEmpty then
    return { approved := true, timed_out := false, approver_id := none, matched_paths := [] }
  post_jira_comment inp.issue_key inp.dept_id (format_approval_request_comment matched_paths)
  write_audit_log inp "requested" matched_paths none
  await_decision inp matched_paths

/-- The decision of a signal that an approver sent. -/
def authorised (approvers : List String) (s : ApprovalReceived) : Option (Decision × String) :=
  if is_authorized_approver s.user_id approvers then
    (parse_approval_decision s.decision).map fun parsed => (parsed,s.user_id)
  else none

def firstAuthorised (approvers : List String) (signals : List ApprovalReceived) : Option (Decision × String) :=
  signals.findSome? (authorised approvers)

/-- The result of a gate that was told this decision in time. -/
def decided (matched_paths : List String) : Option (Decision × String) → ApprovalGateResult
  | some (.approve,approver_id) =>
    { approved := true, timed_out := false, approver_id := some approver_id, matched_paths }
  | some (.reject,approver_id) =>
    { approved := false, timed_out := false, approver_id := some approver_id, matched_paths }
  | none => { approved := false, timed_out := true, approver_id := none, matched_paths }

section
variable (compile : String → Option (String → Bool)) (env : Environment gate) (pre : List ApprovalReceived)
  (inp : ApprovalGateInput)

/-- A run whose first `pre` signals are handled before its first line. -/
def gateResult : Except Empty ApprovalGateResult :=
  (exec (suspend env) (run compile inp) { self := handle pre { decision := none }, turn := 0, events := [] }).1

def matchedPaths : List String := match_approval_paths compile inp.commit_files inp.approval_required_paths

/-- The gate asks for an approval. -/
def Asks : Prop := inp.approval_required_paths ≠ [] ∧ matchedPaths compile inp ≠ []

/-- The signals handled before the wait reads its condition for the first time. -/
def opening : List ApprovalReceived :=
  pre ++ (env.activity 0 (.jira_add_comment inp.issue_key
      (format_approval_request_comment (matchedPaths compile inp)) inp.dept_id)).1 ++
    (env.activity 1 (.audit_write (.obj [("workflow_id",.str inp.workflow_id),("issue_key",.str inp.issue_key),
      ("event_type",.str ("approval_" ++ "requested")),
      ("matched_paths",.arr ((matchedPaths compile inp).map .str)),("approver_account_id",.ofOption none)]))).1

/-- The signals handled before the wait times out. -/
def inTime : List ApprovalReceived := opening compile env pre inp ++ (env.waiting 2).flatten

end

/-- The decision in the slot, if an approver sent it. -/
def view (approvers : List String) (self : GateState) : Option (Decision × String) :=
  self.decision.filter fun held => is_authorized_approver held.2 approvers

/-- A signal that is handled while the slot holds an approver's decision does not
    change the slot. -/
def KeepsDecision (approvers : List String) (self : GateState) (s : ApprovalReceived) : Prop :=
  view approvers self = none ∨ gate.receive s self = self

/-- Signals that one after the other keep the decision in the slot. -/
def Orderly (approvers : List String) : GateState → List ApprovalReceived → Prop :=
  Admitted (fun self s => gate.receive s self) (KeepsDecision approvers)

/-- The batches of a wait keep the decision, up to the one that ends the wait. -/
def OrderlyBatches (approvers : List String) : List (List ApprovalReceived) → Prop
  | [] => True
  | batch :: rest => Orderly approvers { decision := none } batch ∧
      (firstAuthorised approvers batch = none → OrderlyBatches approvers rest)

/-- Every signal the gate handles before it has decided keeps the decision in the slot. -/
def OrderlyRun (compile : String → Option (String → Bool)) (env : Environment gate) (pre : List ApprovalReceived)
    (inp : ApprovalGateInput) : Prop :=
  Asks compile inp → Orderly inp.approvers { decision := none } (opening compile env pre inp) ∧
    (firstAuthorised inp.approvers (opening compile env pre inp) = none →
      OrderlyBatches inp.approvers (env.waiting 2))

/-- The environment without the signals of others than approvers. -/
def purge (approvers : List String) (signals : List ApprovalReceived) : List ApprovalReceived :=
  signals.filter fun s => is_authorized_approver s.user_id approvers

def purged (approvers : List String) (env : Environment gate) : Environment gate where
  activity n c := (purge approvers (env.activity n c).1,(env.activity n c).2)
  waiting n := (env.waiting n).map (purge approvers)
  clock := env.clock

section
variable {approvers : List String}

private theorem firstAuthorised_cons (s : ApprovalReceived) (signals : List ApprovalReceived) :
    firstAuthorised approvers (s :: signals) = (authorised approvers s).or (firstAuthorised approvers signals) := by
  simp only [firstAuthorised,List.findSome?_cons]
  cases authorised approvers s <;> rfl

private theorem firstAuthorised_append (first second : List ApprovalReceived) :
    firstAuthorised approvers (first ++ second) =
      (firstAuthorised approvers first).or (firstAuthorised approvers second) := by
  simp [firstAuthorised,List.findSome?_append]

private theorem firstAuthorised_purge (signals : List ApprovalReceived) :
    firstAuthorised approvers (purge approvers signals) = firstAuthorised approvers signals := by
  induction signals with
  | nil => rfl
  | cons s rest ih =>
    by_cases known : is_authorized_approver s.user_id approvers = true
    · rw [show purge approvers (s :: rest) = s :: purge approvers rest by simp [purge,known],
        firstAuthorised_cons,firstAuthorised_cons,ih]
    · rw [show purge approvers (s :: rest) = purge approvers rest by simp [purge,known],
        firstAuthorised_cons,ih,show authorised approvers s = none by simp [authorised,known]]
      rfl

private theorem view_receive {self : GateState} {s : ApprovalReceived} (keeps : KeepsDecision approvers self s) :
    view approvers (gate.receive s self) = (view approvers self).or (authorised approvers s) := by
  cases held : view approvers self with
  | some decision =>
    have kept : gate.receive s self = self := keeps.resolve_left (by simp [held])
    rw [kept,held,Option.some_or]
  | none =>
    cases parsed : parse_approval_decision s.decision with
    | none => simpa [parsed,authorised] using held
    | some decision =>
      by_cases known : is_authorized_approver s.user_id approvers = true
      · simp [parsed,authorised,view,known,Option.filter]
      · simp [parsed,authorised,view,known,Option.filter]

private theorem view_handle {self : GateState} {signals : List ApprovalReceived}
    (orderly : Orderly approvers self signals) :
    view approvers (handle (W := gate) signals self) = (view approvers self).or (firstAuthorised approvers signals) := by
  induction signals generalizing self with
  | nil => simp [firstAuthorised,handle]
  | cons s rest ih =>
    obtain ⟨keeps,others⟩ := orderly
    rw [handle_cons,ih others,view_receive keeps,firstAuthorised_cons,Option.or_assoc]

private theorem condition_eq (self : GateState) :
    has_authorized_decision approvers self =
      if (view approvers self).isSome then (true,self) else (false,{ decision := none }) := by
  obtain ⟨decision⟩ := self
  cases decision with
  | none => rfl
  | some held =>
    by_cases known : is_authorized_approver held.2 approvers = true
    · simp [has_authorized_decision,view,Option.filter,known]
    · simp [has_authorized_decision,view,Option.filter,known]

private theorem wait_result {batches : List (List ApprovalReceived)} (orderly : OrderlyBatches approvers batches) :
    let waited := waitBatches (W := gate) (has_authorized_decision approvers) batches { decision := none }
    waited.1 = (firstAuthorised approvers batches.flatten).isSome ∧
      ((firstAuthorised approvers batches.flatten).isSome = true →
        waited.2.1.decision = firstAuthorised approvers batches.flatten) := by
  induction batches with
  | nil => simp [waitBatches,firstAuthorised]
  | cons batch rest ih =>
    obtain ⟨first,others⟩ := orderly
    have seen := view_handle first
    rw [show view approvers { decision := none } = none from rfl,Option.none_or] at seen
    rw [List.flatten_cons,firstAuthorised_append]
    simp only [waitBatches,condition_eq,seen]
    cases found : firstAuthorised approvers batch with
    | none => simpa using ih (others found)
    | some held =>
      rw [found] at seen
      have slot := (Option.filter_eq_some_iff.mp seen).1
      simpa using slot

private theorem await_decision_result (env : Environment gate) (inp : ApprovalGateInput) (matched_paths : List String)
    (r : Run gate) (found : Option (Decision × String))
    (ends : (suspend env (.wait (has_authorized_decision inp.approvers)) r).1 = found.isSome ∧
      (found.isSome = true →
        (suspend env (.wait (has_authorized_decision inp.approvers)) r).2.self.decision = found)) :
    (exec (suspend env) (await_decision inp matched_paths) r).1 = .ok (decided matched_paths found) := by
  obtain ⟨ends,slot⟩ := ends
  simp only [await_decision,act,command,exec_bind,exec_call,exec_ret,ends]
  generalize (suspend env (.wait (has_authorized_decision inp.approvers)) r).2 = waited at slot
  cases found with
  | none => simp [post_jira_comment,write_audit_log,act,exec_bind,decided]
  | some held =>
    obtain ⟨decision,approver_id⟩ := held
    cases decision <;> simp [slot rfl,post_jira_comment,write_audit_log,act,exec_bind,decided]

end

section
variable {compile : String → Option (String → Bool)} {inp : ApprovalGateInput}

private theorem gateResult_silent (silent : ¬Asks compile inp) (env : Environment gate) (pre : List ApprovalReceived) :
    gateResult compile env pre inp =
      .ok { approved := true, timed_out := false, approver_id := none, matched_paths := [] } := by
  by_cases required : inp.approval_required_paths = []
  · simp [gateResult,run,required]
  · have unmatched : match_approval_paths compile inp.commit_files inp.approval_required_paths = [] := by
      by_contra found
      exact silent ⟨required,found⟩
    simp [gateResult,run,required,unmatched]

private theorem gateResult_asks (asks : Asks compile inp) {env : Environment gate} {pre : List ApprovalReceived}
    (orderly : OrderlyRun compile env pre inp) :
    gateResult compile env pre inp =
      .ok (decided (matchedPaths compile inp) (firstAuthorised inp.approvers (inTime compile env pre inp))) := by
  obtain ⟨first,later⟩ := orderly asks
  obtain ⟨required,found⟩ := asks
  have seen := view_handle first
  rw [show view inp.approvers { decision := none } = none from rfl,Option.none_or] at seen
  have result : ∀ r : Run gate, r.turn = 2 → r.self = handle (W := gate) (opening compile env pre inp) { decision := none } →
      (exec (suspend env) (await_decision inp (matchedPaths compile inp)) r).1 =
        .ok (decided (matchedPaths compile inp) (firstAuthorised inp.approvers (inTime compile env pre inp))) := by
    intro r turn self
    rw [inTime,firstAuthorised_append]
    apply await_decision_result
    simp only [suspend,self,turn,condition_eq,seen]
    cases held : firstAuthorised inp.approvers (opening compile env pre inp) with
    | none => simpa using wait_result (later held)
    | some decision =>
      rw [held] at seen
      simpa using (Option.filter_eq_some_iff.mp seen).1
  have unskipped : run compile inp = (do
      post_jira_comment inp.issue_key inp.dept_id (format_approval_request_comment (matchedPaths compile inp))
      write_audit_log inp "requested" (matchedPaths compile inp) none
      await_decision inp (matchedPaths compile inp)) := by
    rw [matchedPaths] at found ⊢
    simp [run,required,found]
  rw [gateResult,unskipped]
  refine result { self := _, turn := 2, events := _ } rfl ?_
  exact ((handle_append (W := gate) _ _ _).trans (congrArg _ (handle_append (W := gate) _ _ _))).symm

private theorem keeps_of_view {approvers : List String} {self other : GateState} {s : ApprovalReceived}
    (same : view approvers self = view approvers other) (keeps : KeepsDecision approvers self s) :
    KeepsDecision approvers other s := by
  cases held : view approvers other with
  | none => exact .inl held
  | some decision =>
    rw [held] at same
    obtain ⟨first⟩ := self
    obtain ⟨second⟩ := other
    obtain rfl : first = some decision := (Option.filter_eq_some_iff.mp same).1
    obtain rfl : second = some decision := (Option.filter_eq_some_iff.mp held).1
    exact keeps

private theorem orderly_purge {approvers : List String} {self other : GateState} {signals : List ApprovalReceived}
    (same : view approvers self = view approvers other) (orderly : Orderly approvers self signals) :
    Orderly approvers other (purge approvers signals) := by
  induction signals generalizing self other with
  | nil => trivial
  | cons s rest ih =>
    obtain ⟨keeps,others⟩ := orderly
    have after := view_receive keeps
    by_cases known : is_authorized_approver s.user_id approvers = true
    · have keepsOther : KeepsDecision approvers other s := keeps_of_view same keeps
      rw [show purge approvers (s :: rest) = s :: purge approvers rest by simp [purge,known]]
      exact ⟨keepsOther,ih (by rw [after,view_receive keepsOther,same]) others⟩
    · rw [show purge approvers (s :: rest) = purge approvers rest by simp [purge,known]]
      refine ih ?_ others
      rw [after,show authorised approvers s = none by simp [authorised,known],Option.or_none,same]

private theorem orderlyBatches_purge {approvers : List String} {batches : List (List ApprovalReceived)}
    (orderly : OrderlyBatches approvers batches) : OrderlyBatches approvers (batches.map (purge approvers)) := by
  induction batches with
  | nil => trivial
  | cons batch rest ih =>
    refine ⟨orderly_purge rfl orderly.1,fun undecided => ih (orderly.2 ?_)⟩
    rwa [firstAuthorised_purge] at undecided

private theorem opening_purge (env : Environment gate) (pre : List ApprovalReceived) :
    opening compile (purged inp.approvers env) (purge inp.approvers pre) inp =
      purge inp.approvers (opening compile env pre inp) := by
  simp [opening,purged,purge]

private theorem orderlyRun_purge {env : Environment gate} {pre : List ApprovalReceived}
    (orderly : OrderlyRun compile env pre inp) :
    OrderlyRun compile (purged inp.approvers env) (purge inp.approvers pre) inp := by
  intro asks
  obtain ⟨first,later⟩ := orderly asks
  rw [opening_purge,firstAuthorised_purge]
  exact ⟨orderly_purge rfl first,fun undecided => orderlyBatches_purge (later undecided)⟩

private theorem inTime_purge (env : Environment gate) (pre : List ApprovalReceived) :
    firstAuthorised inp.approvers (inTime compile (purged inp.approvers env) (purge inp.approvers pre) inp) =
      firstAuthorised inp.approvers (inTime compile env pre inp) := by
  have batches : ((env.waiting 2).map (purge inp.approvers)).flatten = purge inp.approvers (env.waiting 2).flatten := by
    rw [purge,List.filter_flatten]
    rfl
  rw [inTime,inTime,opening_purge,firstAuthorised_append,firstAuthorised_append,firstAuthorised_purge]
  congr 1
  exact (congrArg _ batches).trans (firstAuthorised_purge _)

/-- Where no signal changes a slot that holds an approver's decision, the signals of
    others do not change the result, and a gate that asks and is told an approver's
    decision in time returns the first one. -/
theorem gate_noninterference (compile : String → Option (String → Bool)) (env : Environment gate)
    (pre : List ApprovalReceived) (inp : ApprovalGateInput) (orderly : OrderlyRun compile env pre inp) :
    gateResult compile (purged inp.approvers env) (purge inp.approvers pre) inp = gateResult compile env pre inp ∧
      (Asks compile inp → ∀ first, firstAuthorised inp.approvers (inTime compile env pre inp) = some first →
        gateResult compile env pre inp = .ok (decided (matchedPaths compile inp) (some first))) := by
  by_cases asks : Asks compile inp
  · have result := gateResult_asks asks orderly
    refine ⟨?_,fun _ first found => by rw [result,found]⟩
    rw [result,gateResult_asks asks (orderlyRun_purge orderly),inTime_purge]
  · exact ⟨by rw [gateResult_silent asks,gateResult_silent asks],fun asked => absurd asked asks⟩

end

/-! An approver approves while the request is posted, and somebody else comments
`[reject]` while the audit row is written. -/

def migration : ApprovalGateInput :=
  { issue_key := "PAY-7", dept_id := "payments", workflow_id := "wf-1", commit_files := ["db/migrations/1.sql"]
    approval_required_paths := ["migrations"], approvers := ["alice"] }

/-- The pattern is a plain word, so the search is a substring test. -/
def plainWord (pattern : String) : Option (String → Bool) := some fun path => contains path pattern

def overwritten : Environment gate where
  activity
    | 0, _ => ([⟨"alice","[approve]"⟩],.ok ())
    | 1, _ => ([⟨"mallory","[reject]"⟩],.ok ())
    | _, _ => ([],.ok ())
  waiting _ := []
  clock _ := 0

theorem approval_lost :
    gateResult plainWord (purged migration.approvers overwritten) (purge migration.approvers []) migration ≠
        gateResult plainWord overwritten [] migration ∧
      firstAuthorised migration.approvers (inTime plainWord overwritten [] migration) = some (.approve,"alice") ∧
      gateResult plainWord overwritten [] migration = .ok (decided (matchedPaths plainWord migration) none) := by
  refine ⟨fun same => ?_,by decide,rfl⟩
  have approved : gateResult plainWord (purged migration.approvers overwritten) [] migration =
    .ok (decided (matchedPaths plainWord migration) (some (.approve,"alice"))) := rfl
  have timedOut : gateResult plainWord overwritten [] migration =
    .ok (decided (matchedPaths plainWord migration) none) := rfl
  cases approved.symm.trans (same.trans timedOut)

/-- The other's comment comes first. -/
def respected : Environment gate where
  activity
    | 0, _ => ([⟨"mallory","[reject]"⟩],.ok ())
    | _, _ => ([],.ok ())
  waiting _ := [[⟨"alice","looks good"⟩],[⟨"alice","[approve]"⟩]]
  clock _ := 0

private theorem respected_orderly : OrderlyRun plainWord respected [] migration := by
  intro _
  refine ⟨⟨.inl rfl,trivial⟩,fun _ => ⟨⟨.inl rfl,trivial⟩,fun _ => ⟨⟨.inl rfl,trivial⟩,fun _ => trivial⟩⟩⟩

theorem respected_approved :
    gateResult plainWord (purged migration.approvers respected) (purge migration.approvers []) migration =
        gateResult plainWord respected [] migration ∧
      gateResult plainWord respected [] migration =
        .ok (decided (matchedPaths plainWord migration) (some (.approve,"alice"))) := by
  have holds := gate_noninterference plainWord respected [] migration respected_orderly
  exact ⟨holds.1,holds.2 ⟨by decide,by decide⟩ _ (by decide)⟩

end Automation.ApprovalGate
