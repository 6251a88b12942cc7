import Automation.AgentSignals

/-!
What signal handlers leave for the body: audit actions that are queued, and the warning
banner that is armed. Only the path that waits for a signal drains the queue and checks
the banner, twice each. What was emitted and what is pending is, at every point of a
run, what was queued (`Fifo`), and the banner was posted where its flag says so
(`Armed`); so the deferred effects are lost exactly where a signal comes after the last
drain, or the count reaches the threshold after the last check (`deferred_iff`).
-/
namespace Automation.AgentDeferred
open Automation.Effects Automation.Coroutine Automation.Moves Automation.AgentMessages Automation.AgentState
open Automation.AgentHandlers Automation.AgentRunner Automation.AgentFrame Automation.AgentSignals

/-! ### What signals defer -/

section
variable (py : Python)

/-- The audit actions that a signal queues. -/
def queues (delivery : Delivery) (self : RunnerState) : List String :=
  if self.closed then []
  else
    match route py delivery with
    | .fix _ diff_hash =>
      if (should_advance_iter self.notes.iteration_state MAX_ITER).isSome then []
      else if is_fix_debounced self.notes.iteration_state delivery.now then ["fix_debounce_dropped"]
      else if fix_should_skip_retest self.notes.iteration_state (orEmpty diff_hash) then ["fix_re_test_protected"]
      else []
    | .explain _ pr_diff_hash =>
      if explain_should_skip_llm self.notes.iteration_state (orEmpty pr_diff_hash) delivery.now then ["explain_cache_hit"]
      else []
    | _ => []

variable {py}

theorem queues_known (delivery : Delivery) (self : RunnerState) :
    ∀ action ∈ queues py delivery self, action ∈ QUEUED_AUDIT_ACTIONS := by
  unfold queues
  intro action member
  split at member
  · cases member
  · split at member
    · split at member
      · cases member
      · split at member
        · rw [List.mem_singleton.mp member]
          decide
        · split at member
          · rw [List.mem_singleton.mp member]
            decide
          · cases member
    · split at member
      · rw [List.mem_singleton.mp member]
        decide
      · cases member
    · cases member

/-- What a signal does to the deferred effects: it queues its audits, leaves the flag of
    the banner alone, and arms the banner where it takes the count to the threshold. -/
structure Defers (py : Python) (delivery : Delivery) (before after : RunnerState) : Prop where
  queue : after.notes.pending_audit_actions = before.notes.pending_audit_actions ++ queues py delivery before
  posted : after.notes.iter_warning_at_three = before.notes.iter_warning_at_three
  armed : after.notes.iter_warning_pending = true ∨
    after.notes.iter_warning_pending = before.notes.iter_warning_pending ∧
      (iter_count after = iter_count before ∨ after.notes.iter_warning_at_three = true ∨
        iter_count after < ITER_WARNING_THRESHOLD)

private theorem advance_armed {self : RunnerState} (notes : Notes)
    (pending : notes.iter_warning_pending = self.notes.iter_warning_pending) :
    let after := { self with notes := advance_iter_with_banner_check notes }
    after.notes.iter_warning_pending = true ∨
      after.notes.iter_warning_pending = self.notes.iter_warning_pending ∧
        (iter_count after = iter_count self ∨ after.notes.iter_warning_at_three = true ∨
          iter_count after < ITER_WARNING_THRESHOLD) := by
  intro after
  by_cases reached : notes.iter_warning_at_three = false ∧ ITER_WARNING_THRESHOLD ≤ notes.iteration_state.iter_count + 1
  · left
    change (notes.iter_warning_pending || _) = true
    simp [reached.1,state_increment_iter,reached.2]
  · right
    constructor
    · change (notes.iter_warning_pending || _) = _
      rw [pending]
      by_cases at_three : notes.iter_warning_at_three = false
      · have below : ¬ITER_WARNING_THRESHOLD ≤ notes.iteration_state.iter_count + 1 := fun beyond => reached ⟨at_three,beyond⟩
        simp [state_increment_iter,below]
      · simp [at_three]
    · right
      by_cases at_three : notes.iter_warning_at_three = false
      · right
        exact Int.not_le.mp fun beyond => reached ⟨at_three,beyond⟩
      · left
        exact Bool.eq_true_of_not_eq_false at_three

private theorem cancel_defers (delivery : Delivery) (self : RunnerState) (nothing : queues py delivery self = []) :
    Defers py delivery self (cancel_requested py delivery.payload self) := by
  unfold cancel_requested
  split
  · exact ⟨by simp [nothing],rfl,.inr ⟨rfl,.inl rfl⟩⟩
  · exact ⟨by simp [nothing],rfl,.inr ⟨rfl,.inl rfl⟩⟩

theorem receive_defers (delivery : Delivery) (self : RunnerState) : Defers py delivery self (receive py delivery self) := by
  cases opened : self.closed with
  | true =>
    have nothing : queues py delivery self = [] := by simp [queues,opened]
    by_cases cancel : delivery.kind = .cancel_requested
    · rw [receive_cancel cancel]
      exact cancel_defers delivery self nothing
    · rw [receive_closed opened cancel]
      exact ⟨by simp [nothing],rfl,.inr ⟨rfl,.inl rfl⟩⟩
  | false =>
    rw [receive_open opened,applied]
    cases routed : route py delivery with
    | cancel => exact cancel_defers delivery self (by simp [queues,opened,routed])
    | needs_info text =>
      have nothing : queues py delivery self = [] := by simp [queues,opened,routed]
      simp only [apply_needs_info_signal,opened,Bool.false_eq_true,if_false]
      split
      · exact ⟨by simp [nothing,RunnerState.terminate],rfl,.inr ⟨rfl,.inl rfl⟩⟩
      · exact ⟨by simp [nothing],rfl,.inr ⟨rfl,.inl rfl⟩⟩
    | plain text =>
      have nothing : queues py delivery self = [] := by simp [queues,opened,routed]
      simp only [apply_plain]
      split
      · exact ⟨by simp [nothing,RunnerState.terminate,reset_needs_info],rfl,.inr ⟨rfl,.inl rfl⟩⟩
      · exact ⟨by simp [nothing,advance_iter_with_banner_check,reset_needs_info],rfl,advance_armed _ rfl⟩
    | explain text pr_diff_hash =>
      simp only [apply_explain_signal,opened,Bool.false_eq_true,if_false]
      cases warm : explain_should_skip_llm self.notes.iteration_state (orEmpty pr_diff_hash) delivery.now with
      | true =>
        have queue : queues py delivery self = ["explain_cache_hit"] := by simp [queues,opened,routed,warm]
        exact ⟨by simp [queue],rfl,.inr ⟨rfl,.inl rfl⟩⟩
      | false =>
        have nothing : queues py delivery self = [] := by simp [queues,opened,routed,warm]
        simp only [Bool.false_eq_true,if_false]
        split
        · exact ⟨by simp [nothing,RunnerState.terminate,reset_needs_info],rfl,.inr ⟨rfl,.inl rfl⟩⟩
        · exact ⟨by simp [nothing,advance_iter_with_banner_check,reset_needs_info],rfl,advance_armed _ rfl⟩
    | fix text diff_hash =>
      have same : fix_should_skip_retest (reset_needs_info self.notes).iteration_state (orEmpty diff_hash) =
        fix_should_skip_retest self.notes.iteration_state (orEmpty diff_hash) := rfl
      simp only [apply_fix_signal,opened,Bool.false_eq_true,if_false,same]
      cases capped : should_advance_iter self.notes.iteration_state MAX_ITER with
      | some reason =>
        have nothing : queues py delivery self = [] := by simp [queues,opened,routed,capped]
        exact ⟨by simp [nothing,RunnerState.terminate],rfl,.inr ⟨rfl,.inl rfl⟩⟩
      | none =>
        cases debounced : is_fix_debounced self.notes.iteration_state delivery.now with
        | true =>
          have queue : queues py delivery self = ["fix_debounce_dropped"] := by
            simp [queues,opened,routed,capped,debounced]
          exact ⟨by simp [queue],rfl,.inr ⟨rfl,.inl rfl⟩⟩
        | false =>
          simp only [Bool.false_eq_true,if_false]
          cases tested : fix_should_skip_retest self.notes.iteration_state (orEmpty diff_hash) with
          | true =>
            have queue : queues py delivery self = ["fix_re_test_protected"] := by
              simp [queues,opened,routed,capped,debounced,tested]
            exact ⟨by simp [queue,reset_needs_info],rfl,.inr ⟨rfl,.inl rfl⟩⟩
          | false =>
            have nothing : queues py delivery self = [] := by simp [queues,opened,routed,capped,debounced,tested]
            exact ⟨by simp [nothing,advance_iter_with_banner_check,reset_needs_info],rfl,advance_armed _ rfl⟩

end

/-! ### The ledger of a run -/

abbrev Logged (py : Python) : Type := Run (agent py) × List (Move (agent py))

section
variable {py : Python}

/-- What the signals among the moves queued, in order. -/
def queued (ms : List (Move (agent py))) : List String :=
  ms.flatMap fun
    | .received delivery before => queues py delivery before
    | .changed _ _ => []

/-- The audits of queued actions that were emitted, in order. -/
def emitted (events : List (Event (agent py))) : List String :=
  events.filterMap fun
    | .began (.body c) => (audited c).filter (· ∈ QUEUED_AUDIT_ACTIONS)
    | _ => none

/-- How often the banner was posted. -/
def banners (events : List (Event (agent py))) : Nat :=
  events.countP fun
    | .began (.body c) => isBanner c
    | _ => false

def pending (w : Logged py) : List String := w.1.self.notes.pending_audit_actions
def posted (w : Logged py) : Bool := w.1.self.notes.iter_warning_at_three
def armed (w : Logged py) : Bool := w.1.self.notes.iter_warning_pending
def count (w : Logged py) : Int := iter_count w.1.self

/-- What was emitted, what a drain still holds and what is pending is what was queued. -/
def Fifo (held : List String) (w : Logged py) : Prop := emitted w.1.events ++ (held ++ pending w) = queued w.2

def Known (w : Logged py) : Prop := ∀ action ∈ pending w, action ∈ QUEUED_AUDIT_ACTIONS

/-- What is pending was queued by the moves from the `k`-th on. -/
def Since (k : Nat) (w : Logged py) : Prop := k ≤ w.2.length ∧ pending w = queued (w.2.drop k)

/-- The banner was posted as its flag says. -/
def Posts (w : Logged py) : Prop := banners w.1.events = (posted w).toNat

/-- The banner is posted at the threshold only; and until it is, the threshold arms it. -/
structure Armed (w : Logged py) : Prop where
  reached : posted w = true → ITER_WARNING_THRESHOLD ≤ count w
  arms : posted w = false → ITER_WARNING_THRESHOLD ≤ count w → armed w = true

/-- From one point of a run to a later one, where only the audits `out` are emitted and
    no banner is posted. -/
structure Carries (out : List String) (w w' : Logged py) : Prop where
  fifo : ∀ held, Fifo (out ++ held) w → Fifo held w'
  known : Known w → Known w'
  since : ∀ k, Since k w → Since k w'
  posts : Posts w → Posts w'
  flag : posted w' = posted w

/-- And the banner stays armed. -/
structure Keeps (out : List String) (w w' : Logged py) : Prop extends Carries out w w' where
  armed : Armed w → Armed w'

theorem Carries.trans {first second : List String} {w w' w'' : Logged py} (one : Carries first w w')
    (two : Carries second w' w'') : Carries (first ++ second) w w'' where
  fifo held holds := two.fifo held (one.fifo (second ++ held) (by rwa [← List.append_assoc]))
  known holds := two.known (one.known holds)
  since k holds := two.since k (one.since k holds)
  posts holds := two.posts (one.posts holds)
  flag := two.flag.trans one.flag

theorem Keeps.refl (w : Logged py) : Keeps [] w w := ⟨⟨fun _ => id,id,fun _ => id,id,rfl⟩,id⟩

theorem Keeps.trans {first second : List String} {w w' w'' : Logged py} (one : Keeps first w w')
    (two : Keeps second w' w'') : Keeps (first ++ second) w w'' :=
  ⟨one.toCarries.trans two.toCarries,fun holds => two.armed (one.armed holds)⟩

theorem queued_append (ms ns : List (Move (agent py))) : queued (ms ++ ns) = queued ms ++ queued ns :=
  List.flatMap_append

theorem emitted_append (first second : List (Event (agent py))) :
    emitted (first ++ second) = emitted first ++ emitted second := List.filterMap_append

theorem banners_append (first second : List (Event (agent py))) :
    banners (first ++ second) = banners first + banners second := List.countP_append

variable {ms : List (Move (agent py))}

private theorem since_append {k : Nat} {m : Move (agent py)} {before after : List String}
    (since : k ≤ ms.length ∧ before = queued (ms.drop k)) (grown : after = before ++ queued [m]) :
    k ≤ (ms ++ [m]).length ∧ after = queued ((ms ++ [m]).drop k) := by
  obtain ⟨long,same⟩ := since
  constructor
  · rw [List.length_append]
    omega
  · rw [List.drop_append_of_le_length long,queued_append,grown,same]

/-- A signal is handled. -/
theorem keeps_received (r : Run (agent py)) (ms : List (Move (agent py))) (delivery : Delivery) :
    Keeps [] (r,ms) ({ r with self := receive py delivery r.self },ms ++ [.received delivery r.self]) := by
  have defers := @receive_defers py delivery r.self
  have grows := (@received_grows py delivery r.self).1
  have one : queued [Move.received (W := agent py) delivery r.self] = queues py delivery r.self := by simp [queued]
  refine ⟨⟨fun held holds => ?_,fun known => ?_,fun k since => ?_,fun posts => ?_,defers.posted⟩,fun armed => ⟨?_,?_⟩⟩
  · simp only [Fifo,pending,queued_append,one,List.nil_append] at holds ⊢
    rw [defers.queue,← holds,List.append_assoc,List.append_assoc]
  · intro action member
    simp only [pending] at member
    rw [defers.queue] at member
    rcases List.mem_append.mp member with old | new
    · exact known action old
    · exact queues_known delivery r.self action new
  · exact since_append since (by rw [one]; exact defers.queue)
  · simp only [Posts,posted] at posts ⊢
    rw [defers.posted]
    exact posts
  · intro flag
    simp only [posted] at flag
    rw [defers.posted] at flag
    exact (armed.reached flag).trans grows
  · intro flag beyond
    simp only [posted] at flag
    rcases defers.armed with set | ⟨kept,same | flagged | below⟩
    · exact set
    · rw [defers.posted] at flag
      have before := armed.arms flag (by simpa only [count,same] using beyond)
      exact kept.trans before
    · rw [flagged] at flag
      cases flag
    · exact absurd beyond (Int.not_le.mpr below)

theorem keeps_signals (signals : List Delivery) (r : Run (agent py)) (ms : List (Move (agent py))) :
    Keeps [] (r,ms) ({ r with self := handle (W := agent py) signals r.self },
      ms ++ signalMoves (W := agent py) signals r.self) := by
  induction signals generalizing r ms with
  | nil =>
    rw [signalMoves,List.append_nil]
    exact Keeps.refl _
  | cons delivery rest ih =>
    have first := keeps_received r ms delivery
    have others := ih { r with self := receive py delivery r.self } (ms ++ [.received delivery r.self])
    rw [List.append_assoc] at others
    exact first.trans others

theorem keeps_events (r : Run (agent py)) (ms : List (Move (agent py))) {events : List (Event (agent py))} (turn : Nat)
    (no_banner : banners events = 0) :
    Keeps (emitted events) (r,ms) ({ r with turn, events := r.events ++ events },ms) := by
  refine ⟨⟨fun held holds => ?_,id,fun k since => since,fun posts => ?_,rfl⟩,fun armed => ⟨armed.reached,armed.arms⟩⟩
  · simp only [Fifo,emitted_append,List.append_assoc] at holds ⊢
    exact holds
  · simp only [Posts,banners_append,no_banner] at posts ⊢
    exact posts

private theorem queue_kept {r : Run (agent py)} {self : RunnerState}
    (queue : self.notes.pending_audit_actions = r.self.notes.pending_audit_actions) :
    (∀ held, Fifo held (r,ms) → Fifo held ({ r with self },ms ++ [.changed r.self self])) ∧
      (Known (r,ms) → Known ({ r with self },ms ++ [.changed r.self self])) := by
  have none_queued : queued [Move.changed (W := agent py) r.self self] = [] := rfl
  constructor
  · intro held fifo
    simp only [Fifo,pending,queued_append,none_queued,List.append_nil,queue] at fifo ⊢
    exact fifo
  · intro known
    simp only [Known,pending,queue] at known ⊢
    exact known

private theorem carries_changed {r : Run (agent py)} {self : RunnerState}
    (queue : self.notes.pending_audit_actions = r.self.notes.pending_audit_actions)
    (flag : self.notes.iter_warning_at_three = r.self.notes.iter_warning_at_three) :
    Carries [] (r,ms) ({ r with self },ms ++ [.changed r.self self]) := by
  obtain ⟨fifo,known⟩ := @queue_kept py ms r self queue
  refine ⟨fun held => fifo held,known,fun k since => ?_,fun posts => ?_,flag⟩
  · exact since_append since (queue.trans (List.append_nil _).symm)
  · simp only [Posts,posted,flag] at posts ⊢
    exact posts

theorem keeps_changed (r : Run (agent py)) (ms : List (Move (agent py))) {self : RunnerState}
    (same : ledger self.notes = ledger r.self.notes) :
    Keeps [] (r,ms) ({ r with self },ms ++ [.changed r.self self]) := by
  have flag : self.notes.iter_warning_at_three = r.self.notes.iter_warning_at_three :=
    congrArg Ledger.iter_warning_at_three same
  have arm : self.notes.iter_warning_pending = r.self.notes.iter_warning_pending :=
    congrArg Ledger.iter_warning_pending same
  have iter : iter_count self = iter_count r.self := congrArg Ledger.iter_count same
  refine ⟨carries_changed (congrArg Ledger.pending_audit_actions same) flag,fun armed => ⟨?_,?_⟩⟩
  · have reached := armed.reached
    simp only [posted,count,flag,iter] at reached ⊢
    exact reached
  · have arms := armed.arms
    simp only [posted,count,AgentDeferred.armed,flag,iter,arm] at arms ⊢
    exact arms

variable (env : Environment (agent py))

/-- From the begin of an activity to its reply. -/
theorem keeps_suspended (c : AgentCall) (r : Run (agent py)) (ms : List (Move (agent py))) :
    Keeps [] ({ r with events := r.events ++ [.began c] },ms) (logged env (.await c) (r,ms)).2 := by
  let signals := (env.activity r.turn c).1
  let ended : List (Event (agent py)) := signals.map .handled ++ [.replied c (env.activity r.turn c).2]
  have none_emitted : emitted ended = [] := by simp [emitted,ended]
  have no_banner : banners ended = 0 := by simp [banners,ended]
  have handled := keeps_signals signals { r with events := r.events ++ [.began c] } ms
  have replied := keeps_events { r with self := handle (W := agent py) signals r.self, events := r.events ++ [.began c] }
    (ms ++ signalMoves (W := agent py) signals r.self) (r.turn + 1) no_banner
  rw [none_emitted,List.append_assoc] at replied
  have all := handled.trans replied
  simp only [logged,suspend_await,actMoves,List.append_assoc]
  exact all

theorem keeps_await {c : AgentCall} (no_banner : banners [Event.began (W := agent py) c] = 0) (w : Logged py) :
    Keeps (emitted [Event.began (W := agent py) c]) w (logged env (.await c) w).2 := by
  obtain ⟨r,ms⟩ := w
  have all := (keeps_events r ms r.turn no_banner).trans (keeps_suspended env c r ms)
  rw [List.append_nil] at all
  exact all

private theorem silent_emits {c : Call} (silent : Silent c) : emitted [Event.began (W := agent py) (.body c)] = [] := by
  have none_kept : (audited c).filter (· ∈ QUEUED_AUDIT_ACTIONS) = none := by
    rw [Option.filter_eq_none_iff]
    intro action is member
    exact silent.2 action (of_decide_eq_true member) is
  simp [emitted,none_kept]

theorem keeps_act {c : Act (agent py)} (framed : actFramed c) (w : Logged py) : Keeps [] w (logged env c w).2 := by
  obtain ⟨r,ms⟩ := w
  cases c with
  | look => simpa [logged,actMoves] using Keeps.refl (r,ms)
  | clock => simpa [logged,actMoves,suspend] using Keeps.refl (r,ms)
  | modify f => exact keeps_changed r ms (framed r.self).1
  | wait ready => exact framed.elim
  | await c =>
    cases c with
    | body c =>
      have no_banner : banners [Event.began (W := agent py) (.body c)] = 0 := by simp [banners,framed.1]
      have kept := keeps_await env no_banner (r,ms)
      rw [silent_emits framed] at kept
      exact kept
    | bitbucket_commit_via_git request => exact @keeps_await py env (.bitbucket_commit_via_git request) rfl (r,ms)
    | compensation_chain_run request => exact @keeps_await py env (.compensation_chain_run request) rfl (r,ms)

theorem keeps_framed {ε α : Type} {p : Prog (acts (agent py)) ε α} (framed : Issues actFramed p) (w : Logged py) :
    Keeps [] w (exec (logged env) p w).2 :=
  exec_issues Keeps.refl (fun _ _ _ one two => one.trans two) (logged env) (fun _ w framed => keeps_act env framed w) framed w

end

/-! ### Drains and checks -/

section
variable {py : Python} (env : Environment (agent py))

def quietLogged : Handler quietSteps (Logged py) := (quietEmbedding py).handler (logged env)

variable {env} {w : Logged py} {β : Type} {Q : β → Logged py → Prop} {X : Raised → Logged py → Prop}

private theorem logged_look {f : RunnerState → Quiet Raised β} (rest : Triple (quietLogged env) (f w.1.self) w Q X) :
    Triple (quietLogged env) (look >>= f) w Q X := by
  change Triple (quietLogged env) (f w.1.self) (w.1,w.2 ++ []) Q X
  rw [List.append_nil]
  exact rest

private theorem logged_note {change : Notes → Notes} {f : Unit → Quiet Raised β}
    (rest : Triple (quietLogged env) (f ()) ({ w.1 with self := { w.1.self with notes := change w.1.self.notes } },
      w.2 ++ [.changed w.1.self { w.1.self with notes := change w.1.self.notes }]) Q X) :
    Triple (quietLogged env) (note change >>= f) w Q X := rest

private theorem logged_await {c : Call} {f : Except Failure Json → Quiet Raised β}
    (each : ∀ reply, Triple (quietLogged env) (f reply) (logged env (.await (.body c)) w).2 Q X) :
    Triple (quietLogged env) (await c >>= f) w Q X := each _

private theorem triple_ran {S : Signature} {σ ε α : Type} {H : Handler S σ} {p : Prog S ε α} {s : σ} {Q : α → σ → Prop}
    (triple : Triple H p s Q fun _ _ => False) : ∃ a t, exec H p s = (.ok a,t) ∧ Q a t := by
  unfold Triple at triple
  split at triple
  · next a t ended => exact ⟨a,t,ended,triple⟩
  · exact triple.elim

/-- A point of a run at which all that signals deferred is accounted for. -/
structure Sound (w : Logged py) : Prop where
  fifo : Fifo [] w
  known : Known w
  posts : Posts w
  armed : Armed w

theorem Sound.keeps {w' : Logged py} (sound : Sound w) (kept : Keeps [] w w') : Sound w' :=
  ⟨kept.fifo [] sound.fifo,kept.known sound.known,kept.posts sound.posts,kept.armed sound.armed⟩

variable (ctx : Context) (inp : AgentRunnerWorkflowInput)

private theorem emit_keeps (action : String) (w : Logged py) :
    Triple (quietLogged env) (emit_audit_action ctx inp action : Quiet Raised Unit) w
      (fun _ w' => Keeps ([action].filter (· ∈ QUEUED_AUDIT_ACTIONS)) w w') fun _ _ => False := by
  refine logged_look (logged_await fun reply => ?_)
  let row : Json := .obj [("action",.str action),("workflow_id",.str ctx.workflow_id),("dept_id",.str inp.department_id),
    ("issue_key",.str inp.issue_key),("iter_count",.int w.1.self.notes.iteration_state.iter_count)]
  have audit : audited (.audit_emit row) = some action := by simp [row,audited,Json.get,Json.asStr]
  have out : emitted [Event.began (W := agent py) (.body (.audit_emit row))] = [action].filter (· ∈ QUEUED_AUDIT_ACTIONS) := by
    by_cases queued : action ∈ QUEUED_AUDIT_ACTIONS
    · have kept : (audited (.audit_emit row)).filter (· ∈ QUEUED_AUDIT_ACTIONS) = some action := by
        rw [audit,Option.filter_some,if_pos (decide_eq_true queued)]
      simp [emitted,kept,queued]
    · simp [emitted,audit,queued]
  have kept := @keeps_await py env (.body (.audit_emit row)) rfl w
  rw [out] at kept
  exact kept

private theorem emit_all_keeps (actions : List String) (w : Logged py) :
    Triple (quietLogged env) (emit_all ctx inp actions) w
      (fun _ w' => Keeps (actions.filter (· ∈ QUEUED_AUDIT_ACTIONS)) w w') fun _ _ => False := by
  induction actions generalizing w with
  | nil => exact triple_pure (Keeps.refl w)
  | cons action rest ih =>
    refine triple_bind (emit_keeps ctx inp action w) fun _ t kept => ?_
    refine triple_mono (ih t) (fun _ w' later => ?_) fun _ _ no => no
    rw [← List.singleton_append,List.filter_append]
    exact kept.trans later

theorem drain_sound (sound : Sound w) :
    Triple (quietLogged env) (drain_pending_audits ctx inp) w
      (fun _ w' => Sound w' ∧ posted w' = posted w ∧ Since w.2.length w') fun _ _ => False := by
  refine logged_look (logged_note ?_)
  let cleared : RunnerState := { w.1.self with notes := { w.1.self.notes with pending_audit_actions := [] } }
  let started : Logged py := ({ w.1 with self := cleared },w.2 ++ [.changed w.1.self cleared])
  have none_queued : queued [Move.changed (W := agent py) w.1.self cleared] = [] := rfl
  have all_known : (pending w).filter (· ∈ QUEUED_AUDIT_ACTIONS) = pending w :=
    List.filter_eq_self.mpr fun action member => decide_eq_true (sound.known action member)
  refine triple_mono (emit_all_keeps ctx inp (pending w) started) (fun _ w' kept => ?_) fun _ _ no => no
  rw [all_known] at kept
  have held : Fifo (pending w ++ []) started := by
    have before := sound.fifo
    simp only [Fifo,List.nil_append,List.append_nil] at before ⊢
    rw [queued_append,none_queued,List.append_nil,← before]
    exact congrArg (emitted w.1.events ++ ·) (List.append_nil _)
  have since : Since w.2.length started := by
    refine since_append ⟨le_refl _,?_⟩ (List.append_nil _).symm
    rw [List.drop_length]
    rfl
  refine ⟨⟨kept.fifo [] held,kept.known ?_,kept.posts sound.posts,kept.armed ⟨?_,?_⟩⟩,kept.flag,kept.since _ since⟩
  · intro action member
    cases member
  · exact sound.armed.reached
  · exact sound.armed.arms

private theorem disarmed_sound (sound : Sound w) (idle : posted w = false → count w < ITER_WARNING_THRESHOLD) :
    let self := { w.1.self with notes := { w.1.self.notes with iter_warning_pending := false } }
    @Sound py ({ w.1 with self },w.2 ++ [.changed w.1.self self]) := by
  intro self
  have carried : Carries [] w ({ w.1 with self },w.2 ++ [.changed w.1.self self]) := carries_changed rfl rfl
  refine ⟨carried.fifo [] sound.fifo,carried.known sound.known,carried.posts sound.posts,⟨sound.armed.reached,fun unposted beyond => ?_⟩⟩
  exact absurd beyond (Int.not_le.mpr (idle unposted))

private theorem posting_sound (sound : Sound w) (unposted : posted w = false) (reached : ITER_WARNING_THRESHOLD ≤ count w) :
    Triple (quietLogged env) (do
        note fun notes => { notes with iter_warning_at_three := true, iter_warning_pending := false }
        let _ ← await (.jira_add_comment inp.issue_key ITER_WARNING_BANNER_TEXT inp.department_id)
        emit_audit_action ctx inp "iter_warning_at_three_posted" : Quiet Raised Unit) w
      (fun _ w' => Sound w' ∧ posted w' = true) fun _ _ => False := by
  refine logged_note (logged_await fun reply => ?_)
  let banner : AgentCall := .body (.jira_add_comment inp.issue_key ITER_WARNING_BANNER_TEXT inp.department_id)
  let flipped : RunnerState := { w.1.self with notes := { w.1.self.notes with
    iter_warning_at_three := true, iter_warning_pending := false } }
  let changed : List (Move (agent py)) := w.2 ++ [.changed w.1.self flipped]
  have begun : @Sound py ({ w.1 with self := flipped, events := w.1.events ++ [.began banner] },changed) := by
    obtain ⟨fifo_kept,known_kept⟩ := @queue_kept py w.2 w.1 flipped rfl
    have fifo := fifo_kept [] sound.fifo
    have none_emitted : emitted [Event.began (W := agent py) banner] = [] := rfl
    have one : banners [Event.began (W := agent py) banner] = 1 := by simp [banners,banner,isBanner]
    have none_before := sound.posts
    rw [Posts,unposted] at none_before
    refine ⟨?_,known_kept sound.known,?_,⟨fun _ => reached,fun still => ?_⟩⟩
    · simp only [Fifo,emitted_append,none_emitted,List.append_nil] at fifo ⊢
      exact fifo
    · simp only [Posts,banners_append,one,none_before]
      rfl
    · cases still
  have suspended := keeps_suspended env banner { w.1 with self := flipped } changed
  have not_queued : ["iter_warning_at_three_posted"].filter (· ∈ QUEUED_AUDIT_ACTIONS) = [] := by decide
  refine triple_mono (emit_keeps ctx inp "iter_warning_at_three_posted" _) (fun _ w' kept => ?_) fun _ _ no => no
  rw [not_queued] at kept
  have all := suspended.trans kept
  exact ⟨begun.keeps all,all.flag⟩

theorem check_sound (sound : Sound w) :
    Triple (quietLogged env) (maybe_post_iter_warning_banner ctx inp) w
      (fun _ w' => Sound w' ∧ (posted w' = true ↔ ITER_WARNING_THRESHOLD ≤ count w)) fun _ _ => False := by
  refine logged_look ?_
  by_cases flag : posted w = true
  · have taken : w.1.self.notes.iter_warning_at_three = true := flag
    rw [if_pos taken]
    refine ⟨disarmed_sound sound fun unposted => ?_,fun _ => sound.armed.reached flag,fun _ => flag⟩
    rw [flag] at unposted
    cases unposted
  · have unposted : posted w = false := Bool.eq_false_of_not_eq_true flag
    have not_taken : ¬w.1.self.notes.iter_warning_at_three = true := flag
    rw [if_neg not_taken]
    by_cases set : armed w = true
    · have not_idle : ¬w.1.self.notes.iter_warning_pending = false := by
        intro idle
        have set : w.1.self.notes.iter_warning_pending = true := set
        rw [idle] at set
        cases set
      rw [if_neg not_idle]
      by_cases below : count w < ITER_WARNING_THRESHOLD
      · have early : w.1.self.notes.iteration_state.iter_count < ITER_WARNING_THRESHOLD := below
        rw [if_pos early]
        refine ⟨disarmed_sound sound fun _ => below,fun now_posted => absurd now_posted flag,fun beyond => ?_⟩
        exact absurd beyond (Int.not_le.mpr below)
      · have reached : ¬w.1.self.notes.iteration_state.iter_count < ITER_WARNING_THRESHOLD := below
        rw [if_neg reached]
        refine triple_mono (posting_sound ctx inp sound unposted (Int.not_lt.mp below)) (fun _ w' ended => ?_) fun _ _ no => no
        exact ⟨ended.1,fun _ => Int.not_lt.mp below,fun _ => ended.2⟩
    · have idle : w.1.self.notes.iter_warning_pending = false := Bool.eq_false_of_not_eq_true set
      rw [if_pos idle]
      refine ⟨sound,fun now_posted => absurd now_posted flag,fun beyond => ?_⟩
      exact absurd (sound.armed.arms unposted beyond) set

end

/-! ### The wait does not suspend -/

section
variable {py : Python} {env : Environment (agent py)}

def Awake (self : RunnerState) : Prop := self.notes.signal_pending = true

private theorem received_awake (delivery : Delivery) {self : RunnerState} (awake : Awake self) :
    Awake (receive py delivery self) := by
  have cancelled : Awake (cancel_requested py delivery.payload self) := by
    unfold cancel_requested
    split
    · exact awake
    · rfl
  by_cases cancel : delivery.kind = .cancel_requested
  · rw [receive_cancel cancel]
    exact cancelled
  · cases opened : self.closed with
    | true =>
      rw [receive_closed opened cancel]
      exact awake
    | false =>
      rw [receive_open opened,applied]
      split
      · simp only [apply_fix_signal,opened,Bool.false_eq_true,if_false]
        split
        · rfl
        · split
          · exact awake
          · split
            · rfl
            · rfl
      · simp only [apply_explain_signal,opened,Bool.false_eq_true,if_false]
        split
        · rfl
        · split
          · rfl
          · rfl
      · simp only [apply_needs_info_signal,opened,Bool.false_eq_true,if_false]
        split
        · rfl
        · rfl
      · simp only [apply_plain]
        split
        · rfl
        · rfl
      · exact cancelled

private theorem handled_awake (signals : List Delivery) {self : RunnerState} (awake : Awake self) :
    Awake (handle (W := agent py) signals self) := by
  induction signals generalizing self with
  | nil => exact awake
  | cons delivery rest ih => exact ih (received_awake delivery awake)

def quietAwake : QuietStep → Prop
  | .note f => ∀ notes, notes.signal_pending = true → (f notes).signal_pending = true
  | .wait _ => False
  | _ => True

private theorem exec_awake {p : Quiet Raised Unit} (issued : Issues quietAwake p) (w : Logged py) (awake : Awake w.1.self) :
    Awake (exec (quietLogged env) p w).2.1.self := by
  refine exec_issues (R := fun w w' : Logged py => Awake w.1.self → Awake w'.1.self) (fun _ => id)
    (fun _ _ _ one two awake => two (one awake)) (quietLogged env) (fun step w kept awake => ?_) issued w awake
  cases step with
  | look => exact awake
  | note f => exact kept _ awake
  | record action_kind => exact awake
  | clock => exact awake
  | await c => exact handled_awake _ awake
  | wait ready => exact kept.elim

variable (ctx : Context) (inp : AgentRunnerWorkflowInput)

private theorem check_awake : Issues quietAwake (maybe_post_iter_warning_banner ctx inp) := by
  refine issues_bind ⟨trivial,fun _ => trivial⟩ fun self => ?_
  refine issues_ite ⟨fun _ => id,fun _ => trivial⟩ (issues_ite trivial (issues_ite ⟨fun _ => id,fun _ => trivial⟩ ?_))
  refine issues_bind ⟨fun _ => id,fun _ => trivial⟩ fun _ => ?_
  exact issues_bind ⟨trivial,fun _ => trivial⟩ fun _ => ⟨trivial,fun _ => ⟨trivial,fun _ => trivial⟩⟩

private theorem emit_all_awake (actions : List String) : Issues quietAwake (emit_all ctx inp actions) := by
  induction actions with
  | nil => trivial
  | cons action rest ih => exact issues_bind ⟨trivial,fun _ => ⟨trivial,fun _ => trivial⟩⟩ fun _ => ih

private theorem drain_awake : Issues quietAwake (drain_pending_audits ctx inp) := by
  refine issues_bind ⟨trivial,fun _ => trivial⟩ fun self => ?_
  exact issues_bind ⟨fun _ => id,fun _ => trivial⟩ fun _ => emit_all_awake ctx inp _

def until_last_check : Quiet Raised Unit := do
  maybe_post_iter_warning_banner ctx inp
  drain_pending_audits ctx inp
  let _ ← wait fun self => self.closed || self.notes.signal_pending
  note fun notes => { notes with signal_pending := false }

def bodyLogged (env : Environment (agent py)) : Handler bodySteps (Logged py) := (bodyEmbedding py).handler (logged env)

private theorem exec_then {S : Signature} {σ ε α β : Type} {H : Handler S σ} {p : Prog S ε α} {s t : σ} {a : α}
    (ran : exec H p s = (.ok a,t)) (f : α → Prog S ε β) : exec H (p >>= f) s = exec H (f a) t := by
  rw [exec_bind,ran]

private theorem exec_quiet {α : Type} (p : Quiet Raised α) (w : Logged py) :
    exec (bodyLogged env) (quiet p) w = exec (quietLogged env) p w := exec_embed quietToBody (bodyLogged env) p w

variable {w : Logged py}

private theorem wait_awake (awake : Awake w.1.self) :
    ∃ t, exec (quietLogged env) (wait fun self => self.closed || self.notes.signal_pending : Quiet Raised Bool) w = (.ok true,t) ∧
      Keeps [] w t := by
  obtain ⟨r,ms⟩ := w
  have ready : (r.self.closed || r.self.notes.signal_pending) = true := by
    have set : r.self.notes.signal_pending = true := awake
    rw [set,Bool.or_true]
  refine ⟨({ r with events := r.events ++ [.waited true] },ms ++ [.changed r.self r.self]),?_,?_⟩
  · simp [wait,quietLogged,Embedding.handler,quietEmbedding,QuietStep.act,logged,suspend,actMoves,ready]
  · have changed := @keeps_changed py r ms r.self rfl
    have waited := @keeps_events py r (ms ++ [Move.changed (W := agent py) r.self r.self]) [.waited true] r.turn rfl
    exact changed.trans waited

private theorem last_look (w : Logged py) :
    (exec (bodyLogged env) (do
      let self ← quiet look
      if self.cancel.cancel_requested then .raise .cancelledViaSignal
      else if self.verdict.out_of_scope then .raise .outOfScope
      else return () : Body Unit) w).2 = w := by
  have looked : exec (bodyLogged env) (quiet look) w = (.ok w.1.self,w) := by
    rw [exec_quiet]
    change (Except.ok w.1.self,(w.1,w.2 ++ [])) = _
    rw [List.append_nil]
  rw [exec_then looked]
  split
  · rfl
  · split
    · rfl
    · rfl

private theorem quiet_moves_grow {α : Type} (p : Quiet Raised α) (w : Logged py) : w.2 <+: (exec (quietLogged env) p w).2.2 := by
  rw [quietLogged,← exec_embed,exec_logged]
  exact List.prefix_append _ _

theorem wait_for_signal_checks (sound : Sound w) (awake : Awake w.1.self) :
    ∃ checked drained ended, exec (quietLogged env) (until_last_check ctx inp) w = (.ok (),checked) ∧
      exec (quietLogged env) (maybe_post_iter_warning_banner ctx inp) checked = (.ok (),drained) ∧
      (posted drained = true ↔ ITER_WARNING_THRESHOLD ≤ count checked) ∧
      (exec (bodyLogged env) (wait_for_signal ctx inp) w).2 = ended ∧
      Sound ended ∧ posted ended = posted drained ∧ Since drained.2.length ended ∧ checked.2 <+: ended.2 := by
  obtain ⟨_,w1,check1,sound1,-⟩ := triple_ran (@check_sound py env w ctx inp sound)
  have awake1 := @exec_awake py env _ (check_awake ctx inp) w awake
  rw [check1] at awake1
  obtain ⟨_,w2,drain2,sound2,-⟩ := triple_ran (@drain_sound py env w1 ctx inp sound1)
  have awake2 := @exec_awake py env _ (drain_awake ctx inp) w1 awake1
  rw [drain2] at awake2
  obtain ⟨w3,wait3,kept3⟩ := @wait_awake py env w2 awake2
  -- The edge is drained, and the last check is made.
  let checked : Logged py := ({ w3.1 with self := { w3.1.self with notes := { w3.1.self.notes with signal_pending := false } } },
    w3.2 ++ [.changed w3.1.self { w3.1.self with notes := { w3.1.self.notes with signal_pending := false } }])
  have sound4 : Sound checked := (sound2.keeps kept3).keeps (keeps_changed w3.1 w3.2 rfl)
  have note4 : exec (quietLogged env) (note fun notes => { notes with signal_pending := false } : Quiet Raised Unit) w3 =
    (.ok (),checked) := rfl
  obtain ⟨_,w5,check5,sound5,reached5⟩ := triple_ran (@check_sound py env checked ctx inp sound4)
  obtain ⟨_,w6,drain6,sound6,flag6,since6⟩ := triple_ran (@drain_sound py env w5 ctx inp sound5)
  have until_check : exec (quietLogged env) (until_last_check ctx inp) w = (.ok (),checked) := by
    rw [until_last_check,exec_then check1,exec_then drain2,exec_then wait3]
    exact note4
  have later : checked.2 <+: w6.2 := by
    have checks := @quiet_moves_grow py env _ (maybe_post_iter_warning_banner ctx inp) checked
    have drains := @quiet_moves_grow py env _ (drain_pending_audits ctx inp) w5
    rw [check5] at checks
    rw [drain6] at drains
    exact checks.trans drains
  refine ⟨checked,w5,w6,until_check,check5,reached5,?_,sound6,flag6,since6,later⟩
  rw [wait_for_signal,exec_then ((exec_quiet _ w).trans check1),exec_then ((exec_quiet _ w1).trans drain2),
    exec_then ((exec_quiet _ w2).trans wait3),if_pos rfl,exec_then ((exec_quiet _ w3).trans note4),
    exec_then ((exec_quiet _ checked).trans check5),exec_then ((exec_quiet _ w5).trans drain6)]
  exact last_look w6

end

/-! ### Whole runs -/

section
variable (ctx : Context) (inp : AgentRunnerWorkflowInput) (env : Environment (agent ctx.py)) (pre : List Delivery)

/-- The first line of a run, with the signals before it. -/
def begun : Logged ctx.py := (start ctx pre,signalMoves (W := agent ctx.py) pre RunnerState.init)

/-- A run at its last check of the banner, if it makes one. -/
def lastCheck : Option (Logged ctx.py) :=
  if inp.workflow_type ∈ HANDLED_TYPES then none
  else
    match exec (logged env) (admit_iteration ctx inp) (begun ctx pre) with
    | (.ok none,w) => some (exec (quietLogged env) (until_last_check ctx inp) w).2
    | _ => none

/-- The moves from the drain on that follows it; all, if there is none. -/
def lateMoves : List (Move (agent ctx.py)) :=
  match lastCheck ctx inp env pre with
  | some w => (runMoves ctx inp env pre).drop (exec (quietLogged env) (maybe_post_iter_warning_banner ctx inp) w).2.2.length
  | none => runMoves ctx inp env pre

/-- The count reaches the threshold of the banner in some state of the run. -/
def Reached : Prop := ∃ m ∈ runMoves ctx inp env pre, ITER_WARNING_THRESHOLD ≤ iter_count m.after

/-- Every audit that a signal queues is emitted once, and the banner is posted once if
    the count ever reaches the threshold and never otherwise. -/
structure Deferred : Prop where
  audits : (emitted (finished ctx inp env pre).2.events).Perm (queued (runMoves ctx inp env pre))
  once : Reached ctx inp env pre → banners (finished ctx inp env pre).2.events = 1
  never : ¬Reached ctx inp env pre → banners (finished ctx inp env pre).2.events = 0

def ended : Logged ctx.py := ((finished ctx inp env pre).2,runMoves ctx inp env pre)

private theorem ended_eq : ended ctx inp env pre = (exec (logged env) (run ctx inp) (begun ctx pre)).2 := by
  rw [exec_logged]
  rfl

private theorem begun_keeps : @Keeps ctx.py [] ({ self := RunnerState.init, turn := 0, events := [] },[]) (begun ctx pre) :=
  @keeps_signals ctx.py pre { self := RunnerState.init, turn := 0, events := [] } []

variable {ctx inp env pre}

private theorem seeded_carries (w : Logged ctx.py) :
    Carries [] w ({ w.1 with self := seeded inp w.1.self },w.2 ++ [.changed w.1.self (seeded inp w.1.self)]) :=
  carries_changed rfl rfl

private theorem advanced_carries (w : Logged ctx.py) :
    Carries [] w ({ w.1 with self := advanced w.1.self },w.2 ++ [.changed w.1.self (advanced w.1.self)]) :=
  carries_changed rfl rfl

private theorem advanced_arms {w : Logged ctx.py} (unposted : posted w = false) :
    @Armed ctx.py ({ w.1 with self := advanced w.1.self },w.2 ++ [.changed w.1.self (advanced w.1.self)]) := by
  have flag : w.1.self.notes.iter_warning_at_three = false := unposted
  constructor
  · intro now_posted
    have now_posted : w.1.self.notes.iter_warning_at_three = true := now_posted
    rw [flag] at now_posted
    cases now_posted
  · intro _ beyond
    have beyond : ITER_WARNING_THRESHOLD ≤ (state_increment_iter w.1.self.notes.iteration_state).iter_count := beyond
    change (w.1.self.notes.iter_warning_pending || _) = true
    simp [flag,beyond]

variable (inp env) in
private theorem admit_cases (w : Logged ctx.py) :
    (∃ reason t, exec (logged env) (admit_iteration ctx inp) w = (.ok (some reason),t) ∧ Carries [] w t) ∨
      ∃ t, exec (logged env) (admit_iteration ctx inp) w = (.ok none,t) ∧ Carries [] w t ∧ Awake t.1.self ∧
        (posted w = false → Armed t) := by
  let first : Logged ctx.py := ({ w.1 with self := seeded inp w.1.self },w.2 ++ [.changed w.1.self (seeded inp w.1.self)])
  have carried : Carries [] w first := seeded_carries w
  have seeds : exec (logged env) (act ctx (.modify (seeded inp))) w = (.ok (),first) := rfl
  have looks : exec (logged env) (act ctx .look) first = (.ok first.1.self,first) := by
    change (Except.ok first.1.self,(first.1,first.2 ++ [])) = _
    rw [List.append_nil]
  unfold admit_iteration
  cases decision : should_advance_iter first.1.self.notes.iteration_state (iterCap inp) with
  | some reason =>
    refine .inl ⟨reason,first,?_,carried⟩
    refine (exec_then seeds _).trans ((exec_then looks _).trans ?_)
    rw [iterCap] at decision
    simp only [decision]
    rfl
  | none =>
    refine .inr ⟨({ first.1 with self := advanced first.1.self },first.2 ++ [.changed first.1.self (advanced first.1.self)]),?_,
      carried.trans (advanced_carries first),rfl,fun unposted => ?_⟩
    · refine (exec_then seeds _).trans ((exec_then looks _).trans ?_)
      rw [iterCap] at decision
      simp only [decision]
      rfl
    · exact advanced_arms (carried.flag.trans unposted)

variable (inp) in
private theorem run_body_logged (w : Logged ctx.py) :
    ∃ result, exec (logged env) (run_body ctx inp) w =
      (.ok result,(exec ((spineEmbedding ctx.py).handler (logged env)) (dispatch_workflow_type ctx inp) w).2) := by
  rw [run_body,exec_attempt,exec_bind,exec_embed]
  cases exec ((spineEmbedding ctx.py).handler (logged env)) (dispatch_workflow_type ctx inp) w with
  | mk result t =>
    cases result with
    | ok value => exact ⟨none,rfl⟩
    | error raised => exact ⟨some raised,rfl⟩

private theorem ended_refused {reason : String} {t : Logged ctx.py}
    (refused : exec (logged env) (admit_iteration ctx inp) (begun ctx pre) = (.ok (some reason),t)) :
    Keeps [] t (ended ctx inp env pre) := by
  have until_end : exec (logged env) (until_body_end ctx inp) (begun ctx pre) = (.ok (.error reason),t) :=
    exec_then refused _
  rw [ended_eq,run,exec_then until_end]
  exact keeps_framed env (after_body_end_framed ctx inp _) t

private theorem ended_admitted {t : Logged ctx.py}
    (admitted : exec (logged env) (admit_iteration ctx inp) (begun ctx pre) = (.ok none,t)) :
    let body := (exec ((spineEmbedding ctx.py).handler (logged env)) (dispatch_workflow_type ctx inp) t).2
    Keeps [] body (ended ctx inp env pre) ∧ body.2 <+: (ended ctx inp env pre).2 := by
  intro body
  obtain ⟨result,ran⟩ := @run_body_logged ctx inp env t
  have until_end : exec (logged env) (until_body_end ctx inp) (begun ctx pre) = (.ok (.ok result),body) :=
    (exec_then admitted _).trans (exec_then ran _)
  rw [ended_eq,run,exec_then until_end]
  refine ⟨keeps_framed env (after_body_end_framed ctx inp _) body,?_⟩
  rw [exec_logged]
  exact List.prefix_append _ _

private theorem undrained {t : Logged ctx.py} (carried : Carries [] (begun ctx pre) t)
    (kept : Keeps [] t (ended ctx inp env pre)) :
    Fifo [] (ended ctx inp env pre) ∧ Posts (ended ctx inp env pre) ∧
      pending (ended ctx inp env pre) = queued (runMoves ctx inp env pre) ∧ posted (ended ctx inp env pre) = false := by
  have all := (begun_keeps ctx pre).toCarries.trans (carried.trans kept.toCarries)
  have since := all.since 0 ⟨Nat.zero_le _,rfl⟩
  exact ⟨all.fifo [] rfl,all.posts rfl,since.2,all.flag⟩

private theorem lastCheck_handled (handled : inp.workflow_type ∈ HANDLED_TYPES) : lastCheck ctx inp env pre = none :=
  if_pos handled

variable (ctx inp env pre) in
/-- How a run ends: what is pending was queued late, and the banner is posted where the
    count had reached the threshold at the last check. -/
theorem run_settled :
    Fifo [] (ended ctx inp env pre) ∧ Posts (ended ctx inp env pre) ∧
      pending (ended ctx inp env pre) = queued (lateMoves ctx inp env pre) ∧
      (posted (ended ctx inp env pre) = true ↔
        ∃ w, lastCheck ctx inp env pre = some w ∧ ITER_WARNING_THRESHOLD ≤ count w) ∧
      ∀ w, lastCheck ctx inp env pre = some w → w.2 <+: runMoves ctx inp env pre := by
  -- Without a last check every move is late.
  have unchecked : lastCheck ctx inp env pre = none → ∀ {t : Logged ctx.py}, Carries [] (begun ctx pre) t →
      Keeps [] t (ended ctx inp env pre) →
      Fifo [] (ended ctx inp env pre) ∧ Posts (ended ctx inp env pre) ∧
        pending (ended ctx inp env pre) = queued (lateMoves ctx inp env pre) ∧
        (posted (ended ctx inp env pre) = true ↔
          ∃ w, lastCheck ctx inp env pre = some w ∧ ITER_WARNING_THRESHOLD ≤ count w) ∧
        ∀ w, lastCheck ctx inp env pre = some w → w.2 <+: runMoves ctx inp env pre := by
    intro none_checked t carried kept
    obtain ⟨fifo,posts,late,unposted⟩ := undrained carried kept
    simp only [lateMoves,none_checked,unposted]
    exact ⟨fifo,posts,late,by simp,by simp⟩
  rcases admit_cases inp env (begun ctx pre) with ⟨reason,t,refused,carried⟩ | ⟨t,admitted,carried,awake,arms⟩
  · refine unchecked ?_ carried (ended_refused refused)
    rw [lastCheck,refused]
    split
    · rfl
    · rfl
  · obtain ⟨kept,prefixed⟩ := ended_admitted admitted
    by_cases handled : inp.workflow_type ∈ HANDLED_TYPES
    · have framed : Keeps [] t (exec ((spineEmbedding ctx.py).handler (logged env)) (dispatch_workflow_type ctx inp) t).2 := by
        refine exec_issues Keeps.refl (fun _ _ _ one two => one.trans two) _ ?_ (dispatch_framed handled) t
        intro step w framed
        exact keeps_act env (actFramed_spine step framed) w
      exact unchecked (lastCheck_handled handled) carried (framed.trans kept)
    · have sound : Sound t := by
        have all := (begun_keeps ctx pre).toCarries.trans carried
        refine ⟨all.fifo [] rfl,all.known ?_,all.posts rfl,arms (begun_keeps ctx pre).flag⟩
        intro action member
        cases member
      obtain ⟨checked,drained,w,until_check,check,reached,ran,sound_end,flag,since,later⟩ :=
        @wait_for_signal_checks ctx.py env ctx inp t sound awake
      have dispatched : (exec ((spineEmbedding ctx.py).handler (logged env)) (dispatch_workflow_type ctx inp) t).2 = w := by
        rw [dispatch_waits handled,body,exec_embed]
        exact ran
      rw [dispatched] at kept prefixed
      have found : lastCheck ctx inp env pre = some checked := by
        rw [lastCheck,if_neg handled,admitted]
        simp only [until_check]
      have drained_late := (kept.since _ since).2
      have settled := sound_end.keeps kept
      refine ⟨settled.fifo,settled.posts,?_,?_,?_⟩
      · simp only [lateMoves,found,check]
        exact drained_late
      · rw [kept.flag,flag,reached,found]
        simp
      · rw [found]
        rintro _ ⟨⟩
        exact later.trans prefixed

private theorem linked_last {W : Workflow} {first last : W.Self} {ms : List (Move W)} (linked : Linked first ms last) :
    last = first ∨ ∃ m ∈ ms, m.after = last := by
  induction ms generalizing first with
  | nil => exact .inl linked.symm
  | cons m rest ih =>
    rcases ih linked.2 with same | ⟨n,member,led⟩
    · exact .inr ⟨m,.head _,same.symm⟩
    · exact .inr ⟨n,.tail _ member,led⟩

private theorem exec_linked {ε α : Type} (p : Prog (acts (agent ctx.py)) ε α) {w : Logged ctx.py}
    (linked : Linked (W := agent ctx.py) RunnerState.init w.2 w.1.self) :
    Linked (W := agent ctx.py) RunnerState.init (exec (logged env) p w).2.2 (exec (logged env) p w).2.1.self := by
  rw [exec_logged]
  exact linked_append linked (moves_linked env p w.1)

private theorem lastCheck_linked {w : Logged ctx.py} (found : lastCheck ctx inp env pre = some w) :
    Linked (W := agent ctx.py) RunnerState.init w.2 w.1.self := by
  have first : Linked (W := agent ctx.py) RunnerState.init (begun ctx pre).2 (begun ctx pre).1.self :=
    signalMoves_linked (W := agent ctx.py) pre RunnerState.init
  have admitted := @exec_linked ctx env Empty _ (admit_iteration ctx inp) _ first
  unfold lastCheck at found
  split at found
  · cases found
  · split at found
    · next t ran =>
      rw [ran] at admitted
      cases found
      rw [quietLogged,← exec_embed]
      exact exec_linked _ admitted
    · cases found

private theorem lastCheck_reached {w : Logged ctx.py} (found : lastCheck ctx inp env pre = some w)
    (beyond : ITER_WARNING_THRESHOLD ≤ count w) : Reached ctx inp env pre := by
  have prefixed := (run_settled ctx inp env pre).2.2.2.2 w found
  rcases linked_last (lastCheck_linked found) with same | ⟨m,member,led⟩
  · have none_yet : count w = 0 := congrArg iter_count same
    rw [none_yet] at beyond
    exact absurd beyond (by decide)
  · refine ⟨m,prefixed.subset member,?_⟩
    rw [led]
    exact beyond

/-- A run loses none of what signals deferred exactly where no signal queues an audit
    after the last drain began, and the count reaches the threshold by the last check of
    the banner, if it ever does. -/
theorem deferred_iff (ctx : Context) (inp : AgentRunnerWorkflowInput) (env : Environment (agent ctx.py)) (pre : List Delivery) :
    Deferred ctx inp env pre ↔
      (∀ delivery before, .received delivery before ∈ lateMoves ctx inp env pre → queues ctx.py delivery before = []) ∧
        (Reached ctx inp env pre → ∃ w, lastCheck ctx inp env pre = some w ∧ ITER_WARNING_THRESHOLD ≤ count w) := by
  obtain ⟨fifo,posts,late,flagged,-⟩ := run_settled ctx inp env pre
  have fifo : emitted (finished ctx inp env pre).2.events ++ pending (ended ctx inp env pre) =
    queued (runMoves ctx inp env pre) := fifo
  have posts : banners (finished ctx inp env pre).2.events = (posted (ended ctx inp env pre)).toNat := posts
  have drained : pending (ended ctx inp env pre) = [] ↔ ∀ delivery before,
      .received delivery before ∈ lateMoves ctx inp env pre → queues ctx.py delivery before = [] := by
    rw [late,queued,List.flatMap_eq_nil_iff]
    constructor
    · intro each delivery before member
      exact each _ member
    · intro each m member
      cases m with
      | received delivery before => exact each delivery before member
      | changed before after => rfl
  constructor
  · rintro ⟨audits,once,-⟩
    constructor
    · refine drained.mp (List.eq_nil_of_length_eq_zero ?_)
      have same := audits.length_eq
      rw [← fifo,List.length_append] at same
      omega
    · intro reached
      refine flagged.mp ?_
      have one := once reached
      rw [posts] at one
      exact Bool.toNat_eq_one.mp one
  · rintro ⟨none_late,in_time⟩
    refine ⟨?_,fun reached => ?_,fun below => ?_⟩
    · rw [← fifo,drained.mpr none_late,List.append_nil]
    · rw [posts,flagged.mpr (in_time reached)]
      rfl
    · have unposted : posted (ended ctx inp env pre) = false := by
        rw [Bool.eq_false_iff]
        intro now_posted
        obtain ⟨w,found,beyond⟩ := flagged.mp now_posted
        exact below (lastCheck_reached found beyond)
      rw [posts,unposted]
      rfl

end

/-! The third iteration of a review, with two fixes within the debounce window in its first activity: the second is
    dropped without an audit, and no banner is posted. -/

def third_review : AgentRunnerWorkflowInput := { issue "pr_review" with iteration := 3 }

def two_fixes : List Delivery := [comment_of "[fix]" 1000000,comment_of "[fix]" 2000000]

theorem dropped_fix_unaudited :
    queued (runMoves worker third_review (interrupted two_fixes) []) = ["fix_debounce_dropped"] ∧
      emitted (finished worker third_review (interrupted two_fixes) []).2.events = [] ∧
      Reached worker third_review (interrupted two_fixes) [] ∧
      banners (finished worker third_review (interrupted two_fixes) []).2.events = 0 ∧
      ¬Deferred worker third_review (interrupted two_fixes) [] := by
  have queued_one : queued (runMoves worker third_review (interrupted two_fixes) []) = ["fix_debounce_dropped"] := by
    decide
  have none_emitted : emitted (finished worker third_review (interrupted two_fixes) []).2.events = [] := by decide
  have none_posted : banners (finished worker third_review (interrupted two_fixes) []).2.events = 0 := by decide
  have found : (runMoves worker third_review (interrupted two_fixes) []).any
      (fun m => ITER_WARNING_THRESHOLD ≤ iter_count m.after) = true := by
    decide
  obtain ⟨m,member,beyond⟩ := List.any_eq_true.mp found
  refine ⟨queued_one,none_emitted,⟨m,member,of_decide_eq_true beyond⟩,none_posted,fun deferred => ?_⟩
  have audits := deferred.audits
  rw [queued_one,none_emitted] at audits
  exact absurd audits.length_eq (by decide)

end Automation.AgentDeferred
