import Automation.Dict
import Automation.Effects
import Automation.WebhookClaim

/-!
`BurstDebounceCoordinator` on an event loop. No critical section of its lock
suspends, so each is one step: `observe`, the callback of a timer, the run of a
flush task, `flush_all` up to its first callback and `aclose` up to its wait.
The loop takes the steps in any order.

A window is known by the timer that was armed for it. `flushed_once` accounts
for every window of every run: it is open, or waits in a `flush_all`, or was
handed to the callback once, or was discarded by `aclose`, which is a hard stop.
A timer's flush task takes whatever window its issue has; it finds its own where
no `flush_all` has come between the timer and the task.
-/
namespace Automation.BurstDebounce
open Automation.Effects
open Automation.WebhookClaim (WebhookEvent)

abbrev Handle := Nat

inductive CoalesceResult where
  | dispatch_now (event : WebhookEvent)
  | buffered (coalesced_count : Nat)

structure BufferedDelivery where
  last_event : WebhookEvent
  delivery_ids : List String
  flush_handle : Handle

def COALESCED_PAYLOAD_KEY : String := "_burst_coalesced_with"

/-- `payload[key] = value`. -/
def assignField (key : String) (value : Json) : List (String × Json) → List (String × Json)
  | [] => [(key,value)]
  | field :: payload => if field.1 = key then (key,value) :: payload else field :: assignField key value payload

def attach_coalesced_marker (event : WebhookEvent) (coalesced_with : List String) : WebhookEvent :=
  { event with raw_payload := assignField COALESCED_PAYLOAD_KEY (.arr (coalesced_with.map .str)) event.raw_payload }

/-! ### The coordinator and its loop -/

/-- What happens in a run. A window is handed over by the flush task of a timer, or by `flush_all`. -/
inductive Event where
  | observed (event : WebhookEvent) (window : Handle) (result : CoalesceResult)
  | refused (event : WebhookEvent) (message : String)
  | handed (terminal_event : WebhookEvent) (buffer : BufferedDelivery) (timer : Option Handle)
  | discarded (buffer : BufferedDelivery)
  | aclosed

/-- The coordinator (`buffers`, `closed`, `inflight_flushes`); the timers that are
    armed and the flush tasks that have not run, with their issue keys; what the
    running `flush_all` calls still have to dispatch; what the running `aclose` calls
    wait for; and what has happened. -/
structure World where
  buffers : Dict String BufferedDelivery
  closed : Bool
  inflight_flushes : List Handle
  next_handle : Handle
  timers : List (Handle × String)
  tasks : List (Handle × String)
  sweeps : List (List BufferedDelivery)
  waits : List (List Handle)
  log : List Event

def World.start : World :=
  { buffers := .empty, closed := false, inflight_flushes := [], next_handle := 0, timers := [], tasks := []
    sweeps := [], waits := [], log := [] }

namespace World

def record (w : World) (events : List Event) : World := { w with log := w.log ++ events }

/-- `handle.cancel()`, which does nothing to a timer that has fired. -/
def cancel (w : World) (handles : List Handle) : World :=
  { w with timers := w.timers.filter fun timer => ¬handles.contains timer.1 }

/-- The callback is called with the terminal event; what it raises is swallowed. -/
def dispatch_buffered (w : World) (buffer : BufferedDelivery) (timer : Option Handle) : World :=
  w.record [.handed (attach_coalesced_marker buffer.last_event buffer.delivery_ids) buffer timer]

def observe (w : World) (event : WebhookEvent) : World :=
  if w.closed then w.record [.refused event "BurstDebounceCoordinator is closed; cannot observe new events"]
  else
    match event.issue_key with
    | none => w.record [.refused event ("BurstDebounceCoordinator.observe requires WebhookEvent.issue_key; " ++
        "non-issue events must bypass the burst-debounce stage")]
    | some issue_key =>
      match w.buffers.get? issue_key with
      | none =>
        let handle := w.next_handle
        let new_buffer := { last_event := event, delivery_ids := [event.delivery_id], flush_handle := handle }
        { w with
          next_handle := handle + 1
          timers := w.timers ++ [(handle,issue_key)]
          buffers := w.buffers.set issue_key new_buffer
        }.record [.observed event handle (.dispatch_now event)]
      | some buffer =>
        let delivery_ids := buffer.delivery_ids ++ [event.delivery_id]
        { w with buffers := w.buffers.set issue_key { buffer with delivery_ids, last_event := event }
        }.record [.observed event buffer.flush_handle (.buffered delivery_ids.length)]

def on_window_expired (w : World) (handle : Handle) (issue_key : String) : World :=
  if w.closed then w
  else { w with tasks := w.tasks ++ [(handle,issue_key)], inflight_flushes := w.inflight_flushes ++ [handle] }

/-- The task is done, and leaves `inflight_flushes`. -/
def done (w : World) (handle : Handle) : World :=
  { w with inflight_flushes := w.inflight_flushes.filter (· ≠ handle) }

/-- The task of the timer runs up to its callback. -/
def flush_one (w : World) (handle : Handle) (issue_key : String) : World :=
  match w.buffers.get? issue_key with
  | none => w.done handle
  | some buffer => { w with buffers := w.buffers.erase issue_key }.dispatch_buffered buffer (some handle)

/-- The next buffer of a `flush_all`; the rest waits for its callback. -/
def sweep (w : World) : List BufferedDelivery → World
  | [] => w
  | buffer :: rest => { w with sweeps := w.sweeps ++ [rest] }.dispatch_buffered buffer none

def flush_all (w : World) : World :=
  if w.closed then w
  else ({ w with buffers := .empty }.cancel (w.buffers.values.map BufferedDelivery.flush_handle)).sweep w.buffers.values

def aclose (w : World) : World :=
  if w.closed then w.record [.aclosed]
  else
    { w with closed := true, buffers := .empty, waits := w.waits ++ [w.inflight_flushes]
    }.cancel (w.buffers.values.map BufferedDelivery.flush_handle) |>.record (w.buffers.values.map .discarded)

end World

/-- What the loop can do next. -/
inductive Action where
  | observe (event : WebhookEvent)
  | timer (handle : Handle)
  | task (handle : Handle)
  | returned (handle : Handle)
  | flush_all
  | resume (call : Nat)
  | aclose
  | gathered (call : Nat)

/-- A step that the loop cannot take changes nothing. -/
def step (w : World) : Action → World
  | .observe event => w.observe event
  | .timer handle =>
    match w.timers.lookup handle with
    | none => w
    | some issue_key =>
      { w with timers := w.timers.filter fun timer => timer.1 ≠ handle }.on_window_expired handle issue_key
  | .task handle =>
    match w.tasks.lookup handle with
    | none => w
    | some issue_key => { w with tasks := w.tasks.filter fun task => task.1 ≠ handle }.flush_one handle issue_key
  | .returned handle =>
    -- The callback of a flush task that has run.
    if (w.tasks.lookup handle).isNone then w.done handle else w
  | .flush_all => w.flush_all
  | .resume call =>
    match w.sweeps[call]? with
    | none => w
    | some buffers => { w with sweeps := w.sweeps.eraseIdx call }.sweep buffers
  | .aclose => w.aclose
  | .gathered call =>
    match w.waits[call]? with
    | none => w
    | some handles =>
      if handles.any w.inflight_flushes.contains then w
      else { w with waits := w.waits.eraseIdx call }.record [.aclosed]

/-! ### Where the windows are -/

def handed (log : List Event) : List BufferedDelivery :=
  log.filterMap fun
    | .handed _ buffer _ => some buffer
    | _ => none

def discarded (log : List Event) : List BufferedDelivery :=
  log.filterMap fun
    | .discarded buffer => some buffer
    | _ => none

/-- The events that were observed into the window, in their order. -/
def observations (log : List Event) (window : Handle) : List WebhookEvent :=
  log.filterMap fun
    | .observed event handle _ => if handle = window then some event else none
    | _ => none

/-- Every window there has been: open, waiting in a `flush_all`, handed over or discarded. -/
def World.windows (w : World) : List BufferedDelivery :=
  w.buffers.values ++ (w.sweeps.flatten ++ (handed w.log ++ discarded w.log))

/-- The buffer holds what was observed into its window, and that of one issue. -/
structure Holds (log : List Event) (buffer : BufferedDelivery) : Prop where
  ids : buffer.delivery_ids = (observations log buffer.flush_handle).map (·.delivery_id)
  last : (observations log buffer.flush_handle).getLast? = some buffer.last_event
  issue : ∀ event ∈ observations log buffer.flush_handle, event.issue_key = buffer.last_event.issue_key

structure Accounted (w : World) : Prop where
  once : (w.windows.map (·.flush_handle)).Perm (List.range w.next_handle)
  contents : ∀ buffer ∈ w.windows, Holds w.log buffer
  seen : ∀ window, observations w.log window ≠ [] → window < w.next_handle
  keyed : ∀ issue_key buffer, w.buffers.get? issue_key = some buffer → buffer.last_event.issue_key = some issue_key

section
variable {w w' : World}

theorem accounted_moved (accounted : Accounted w) (moved : w'.windows.Perm w.windows)
    (handles : w'.next_handle = w.next_handle) (unseen : ∀ window, observations w'.log window = observations w.log window)
    (fewer : ∀ issue_key buffer, w'.buffers.get? issue_key = some buffer → w.buffers.get? issue_key = some buffer) :
    Accounted w' where
  once := by
    rw [handles]
    exact (moved.map _).trans accounted.once
  contents buffer member := by
    obtain ⟨ids,last,issue⟩ := accounted.contents buffer (moved.mem_iff.mp member)
    exact ⟨by rw [unseen,ids],by rw [unseen,last],by rw [unseen]; exact issue⟩
  seen window := by
    rw [unseen,handles]
    exact accounted.seen window
  keyed issue_key buffer found := accounted.keyed issue_key buffer (fewer issue_key buffer found)

theorem observations_append (log : List Event) (event : WebhookEvent) (handle window : Handle) (result : CoalesceResult) :
    observations (log ++ [.observed event handle result]) window =
      if handle = window then observations log window ++ [event] else observations log window := by
  by_cases same : handle = window <;> simp [observations,same]

variable {event : WebhookEvent}

theorem holds_other {log : List Event} {buffer : BufferedDelivery} (holds : Holds log buffer)
    {handle : Handle} {result : CoalesceResult} (other : handle ≠ buffer.flush_handle) :
    Holds (log ++ [.observed event handle result]) buffer := by
  have unseen : observations (log ++ [.observed event handle result]) buffer.flush_handle =
      observations log buffer.flush_handle := by
    rw [observations_append,if_neg other]
  exact ⟨by rw [unseen,holds.ids],by rw [unseen,holds.last],by rw [unseen]; exact holds.issue⟩

/-- The windows that are not open. -/
def World.past (w : World) : List BufferedDelivery := w.sweeps.flatten ++ (handed w.log ++ discarded w.log)

theorem windows_observed (event : WebhookEvent) (handle : Handle) (result : CoalesceResult) :
    (w.record [.observed event handle result]).windows = w.windows := by
  simp [World.windows,World.record,handed,discarded]

theorem accounted_observed (accounted : Accounted w) {result : CoalesceResult}
    (buffer : BufferedDelivery) (others : List BufferedDelivery)
    (log : w'.log = w.log ++ [.observed event buffer.flush_handle result])
    (windows : w'.windows.Perm (buffer :: others))
    (handles : ((buffer :: others).map (·.flush_handle)).Perm (List.range w'.next_handle))
    (more : w.next_handle ≤ w'.next_handle) (old : ∀ other ∈ others, other ∈ w.windows)
    (ids : buffer.delivery_ids = (observations w.log buffer.flush_handle).map (·.delivery_id) ++ [event.delivery_id])
    (last : buffer.last_event = event)
    (issue : ∀ earlier ∈ observations w.log buffer.flush_handle, earlier.issue_key = event.issue_key)
    (keyed : ∀ issue_key other, w'.buffers.get? issue_key = some other → other.last_event.issue_key = some issue_key) :
    Accounted w' := by
  have grown : observations w'.log buffer.flush_handle = observations w.log buffer.flush_handle ++ [event] := by
    rw [log,observations_append,if_pos rfl]
  have distinct : ∀ other ∈ others, buffer.flush_handle ≠ other.flush_handle := by
    intro other member same
    have nodup := handles.nodup_iff.mpr List.nodup_range
    rw [List.map_cons] at nodup
    exact (List.nodup_cons.mp nodup).1 (List.mem_map.mpr ⟨other,member,same.symm⟩)
  refine ⟨(windows.map _).trans handles,?_,?_,keyed⟩
  · intro other member
    rcases List.mem_cons.mp (windows.mem_iff.mp member) with rfl | rest
    · refine ⟨by rw [grown,List.map_append,ids]; rfl,by rw [grown,List.getLast?_append,last]; rfl,?_⟩
      intro earlier present
      rw [grown] at present
      rw [last]
      rcases List.mem_append.mp present with past | now
      · exact issue earlier past
      · rw [List.mem_singleton.mp now]
    · rw [log]
      exact holds_other (accounted.contents other (old other rest)) (distinct other rest)
  · intro window observed
    rw [log,observations_append] at observed
    by_cases same : buffer.flush_handle = window
    · subst same
      have member : buffer.flush_handle ∈ (buffer :: others).map (·.flush_handle) := by simp
      exact List.mem_range.mp (handles.mem_iff.mp member)
    · rw [if_neg same] at observed
      exact Nat.lt_of_lt_of_le (accounted.seen window observed) more

theorem keyed_set (accounted : Accounted w) {key : String} (keyed : event.issue_key = some key)
    {buffer : BufferedDelivery} (last : buffer.last_event = event) (issue_key : String) (other : BufferedDelivery)
    (found : (w.buffers.set key buffer).get? issue_key = some other) : other.last_event.issue_key = some issue_key := by
  rw [Dict.get?_set] at found
  split at found
  · next same =>
    cases found
    rw [last,keyed,same]
  · exact accounted.keyed issue_key other found

theorem accounted_opened (accounted : Accounted w) {issue_key : String}
    (keyed : event.issue_key = some issue_key) (absent : w.buffers.get? issue_key = none) (timers : List (Handle × String)) :
    Accounted ({ w with
      next_handle := w.next_handle + 1
      timers
      buffers := w.buffers.set issue_key
        { last_event := event, delivery_ids := [event.delivery_id], flush_handle := w.next_handle }
      }.record [.observed event w.next_handle (.dispatch_now event)]) := by
  have unobserved : observations w.log w.next_handle = [] := by
    by_contra some
    exact absurd (accounted.seen w.next_handle some) (Nat.lt_irrefl _)
  let fresh : BufferedDelivery :=
    { last_event := event, delivery_ids := [event.delivery_id], flush_handle := w.next_handle }
  refine accounted_observed accounted fresh w.windows rfl ?_ ?_ (Nat.le_succ _) (fun _ member => member) ?_ rfl ?_
    (keyed_set accounted keyed rfl)
  · rw [windows_observed]
    have values : (w.buffers.set issue_key fresh).values = w.buffers.values ++ [fresh] := by
      simp [Dict.values,Dict.set_absent absent]
    change ((w.buffers.set issue_key fresh).values ++ w.past).Perm (fresh :: (w.buffers.values ++ w.past))
    rw [values,List.append_assoc]
    exact List.perm_middle
  · change ((fresh :: w.windows).map _).Perm (List.range (w.next_handle + 1))
    rw [List.range_succ,List.map_cons]
    exact (accounted.once.cons _).trans (List.perm_append_singleton _ _).symm
  · change [event.delivery_id] = (observations w.log w.next_handle).map _ ++ [event.delivery_id]
    rw [unobserved]
    rfl
  · intro earlier past
    change earlier ∈ observations w.log w.next_handle at past
    rw [unobserved] at past
    cases past

theorem accounted_buffered (accounted : Accounted w) {issue_key : String}
    {buffer : BufferedDelivery} (keyed : event.issue_key = some issue_key)
    (found : w.buffers.get? issue_key = some buffer) :
    Accounted ({ w with
      buffers := w.buffers.set issue_key
        { buffer with delivery_ids := buffer.delivery_ids ++ [event.delivery_id], last_event := event }
      }.record [.observed event buffer.flush_handle (.buffered (buffer.delivery_ids ++ [event.delivery_id]).length)]) := by
  obtain ⟨before,after,items,-,assigned⟩ := Dict.split found
  let others := before.map Prod.snd ++ (after.map Prod.snd ++ w.past)
  have had : w.windows.Perm (buffer :: others) := by
    simp only [World.windows,Dict.values,items,List.map_append,List.map_cons,List.append_assoc,List.cons_append]
    exact List.perm_middle
  have held : Holds w.log buffer := accounted.contents buffer (had.mem_iff.mpr List.mem_cons_self)
  let grown : BufferedDelivery :=
    { buffer with delivery_ids := buffer.delivery_ids ++ [event.delivery_id], last_event := event }
  refine accounted_observed accounted grown others rfl ?_ ?_ (Nat.le_refl _) ?_ ?_ rfl ?_
    (keyed_set accounted keyed rfl)
  · rw [windows_observed]
    change ((w.buffers.set issue_key grown).values ++ w.past).Perm (grown :: others)
    rw [Dict.values,assigned grown,List.map_append,List.map_cons,List.append_assoc,List.cons_append]
    exact List.perm_middle
  · exact (had.map (·.flush_handle)).symm.trans accounted.once
  · exact fun other member => had.mem_iff.mpr (List.mem_cons_of_mem buffer member)
  · change buffer.delivery_ids ++ [event.delivery_id] = _
    rw [held.ids]
  · intro earlier past
    rw [held.issue earlier past,accounted.keyed issue_key buffer found,keyed]

/-! ### Moves -/

/-- Nothing but the places of the windows and the loop's own lists has changed. -/
structure Moves (w w' : World) (windows : List BufferedDelivery) : Prop where
  windows : w'.windows.Perm (windows ++ w.windows)
  handles : w'.next_handle = w.next_handle
  unseen : ∀ window, observations w'.log window = observations w.log window
  buffers : w'.buffers = w.buffers

theorem moves_dispatch (w : World) (buffer : BufferedDelivery) (timer : Option Handle) :
    Moves w (w.dispatch_buffered buffer timer) [buffer] := by
  refine ⟨?_,rfl,?_,rfl⟩
  · simp only [World.windows,World.dispatch_buffered,World.record,handed,discarded,List.filterMap_append,
      List.filterMap_cons,List.filterMap_nil,List.append_nil,List.append_assoc,List.cons_append,List.nil_append]
    simp only [← List.append_assoc]
    exact List.perm_middle.trans (by simp)
  · intro window
    simp [World.dispatch_buffered,World.record,observations]

theorem moves_sweep (w : World) (buffers : List BufferedDelivery) : Moves w (w.sweep buffers) buffers := by
  cases buffers with
  | nil => exact ⟨.refl _,rfl,fun _ => rfl,rfl⟩
  | cons buffer rest =>
    obtain ⟨windows,handles,unseen,same⟩ := moves_dispatch { w with sweeps := w.sweeps ++ [rest] } buffer none
    refine ⟨windows.trans (List.Perm.cons buffer ?_),handles,unseen,same⟩
    simp only [World.windows,List.flatten_append,List.flatten_cons,List.flatten_nil,List.append_nil,List.append_assoc]
    exact (List.perm_append_comm_assoc _ rest _).append_left _ |>.trans (List.perm_append_comm_assoc _ rest _)

theorem moves_discard (w : World) (buffers : List BufferedDelivery) :
    Moves w (w.record (buffers.map .discarded)) buffers := by
  have silent : handed (buffers.map .discarded) = [] := by simp [handed]
  have all : discarded (buffers.map .discarded) = buffers := by simp [discarded,List.filterMap_map]
  refine ⟨?_,rfl,?_,rfl⟩
  · have before : w.windows ++ buffers =
        (w.record (buffers.map .discarded)).windows := by
      simp only [World.windows,World.record,handed,discarded,List.filterMap_append] at silent all ⊢
      simp only [silent,all,List.append_nil,List.append_assoc]
    rw [← before]
    exact List.perm_append_comm
  · intro window
    simp [World.record,observations,List.filterMap_map]

theorem windows_drained (w : World) : w.windows = w.buffers.values ++ { w with buffers := Dict.empty }.windows := rfl

theorem accounted_drained {drained : World} (accounted : Accounted w)
    (moves : Moves { w with buffers := Dict.empty } drained w.buffers.values) : Accounted drained := by
  refine accounted_moved accounted ?_ moves.handles moves.unseen ?_
  · rw [windows_drained w]
    exact moves.windows
  · intro issue_key buffer found
    rw [moves.buffers] at found
    cases found

theorem accounted_observe (accounted : Accounted w) (event : WebhookEvent) : Accounted (w.observe event) := by
  have refused : ∀ message, Accounted (w.record [.refused event message]) := by
    intro message
    refine accounted_moved accounted ?_ rfl (fun _ => ?_) fun _ _ found => found
    · simp [World.windows,World.record,handed,discarded]
    · simp [World.record,observations]
  unfold World.observe
  split
  · exact refused _
  · split
    · exact refused _
    · next issue_key keyed =>
      split
      · next absent => exact accounted_opened accounted keyed absent _
      · next buffer found => exact accounted_buffered accounted keyed found

theorem accounted_flush_one (accounted : Accounted w) (handle : Handle) (issue_key : String) :
    Accounted (w.flush_one handle issue_key) := by
  unfold World.flush_one
  split
  · exact accounted_moved accounted (.refl _) rfl (fun _ => rfl) fun _ _ found => found
  · next buffer found =>
    obtain ⟨before,after,items,erased,-⟩ := Dict.split found
    obtain ⟨windows,handles,unseen,same⟩ :=
      moves_dispatch { w with buffers := w.buffers.erase issue_key } buffer (some handle)
    refine accounted_moved accounted (windows.trans ?_) handles unseen ?_
    · simp only [World.windows,Dict.values,items,erased,List.map_append,List.map_cons,List.append_assoc,List.cons_append,
        List.nil_append]
      exact List.perm_middle.symm
    · intro key other found'
      rw [same,Dict.get?_erase] at found'
      split at found'
      · cases found'
      · exact found'

private theorem flatten_eraseIdx {α : Type} {lists : List (List α)} {i : Nat} {list : List α}
    (found : lists[i]? = some list) : (list ++ (lists.eraseIdx i).flatten).Perm lists.flatten := by
  induction lists generalizing i with
  | nil => cases found
  | cons first rest ih =>
    cases i with
    | zero =>
      cases found
      exact .refl _
    | succ i =>
      have inner := ih found
      rw [List.eraseIdx_cons_succ,List.flatten_cons,List.flatten_cons]
      exact (List.perm_append_comm_assoc _ _ _).trans (inner.append_left first)

theorem accounted_resume (accounted : Accounted w) {call : Nat} {buffers : List BufferedDelivery}
    (found : w.sweeps[call]? = some buffers) :
    Accounted ({ w with sweeps := w.sweeps.eraseIdx call }.sweep buffers) := by
  obtain ⟨windows,handles,unseen,same⟩ := moves_sweep { w with sweeps := w.sweeps.eraseIdx call } buffers
  refine accounted_moved accounted (windows.trans ?_) handles unseen ?_
  · have taken := flatten_eraseIdx found
    simp only [World.windows]
    refine (List.perm_append_comm_assoc _ _ _).trans (List.Perm.append_left _ ?_)
    rw [← List.append_assoc]
    exact taken.append_right _
  · intro issue_key buffer found'
    rwa [same] at found'

theorem accounted_step (accounted : Accounted w) (action : Action) : Accounted (step w action) := by
  cases action with
  | observe event => exact accounted_observe accounted event
  | timer handle =>
    simp only [step]
    split
    · exact accounted
    · unfold World.on_window_expired
      split <;> exact accounted_moved accounted (.refl _) rfl (fun _ => rfl) fun _ _ found => found
  | task handle =>
    simp only [step]
    split
    · exact accounted
    · refine accounted_flush_one ?_ handle _
      exact accounted_moved accounted (.refl _) rfl (fun _ => rfl) fun _ _ found => found
  | returned handle =>
    simp only [step]
    split
    · exact accounted_moved accounted (.refl _) rfl (fun _ => rfl) fun _ _ found => found
    · exact accounted
  | flush_all =>
    simp only [step,World.flush_all]
    split
    · exact accounted
    · obtain ⟨windows,handles,unseen,same⟩ := moves_sweep
        ({ w with buffers := Dict.empty }.cancel (w.buffers.values.map BufferedDelivery.flush_handle)) w.buffers.values
      exact accounted_drained accounted ⟨windows,handles,unseen,same⟩
  | resume call =>
    simp only [step]
    split
    · exact accounted
    · next buffers found => exact accounted_resume accounted found
  | aclose =>
    simp only [step,World.aclose]
    split
    · refine accounted_moved accounted ?_ rfl (fun _ => ?_) fun _ _ found => found
      · simp [World.windows,World.record,handed,discarded]
      · simp [World.record,observations]
    · obtain ⟨windows,handles,unseen,same⟩ := moves_discard
        ({ w with closed := true, buffers := Dict.empty, waits := w.waits ++ [w.inflight_flushes]
          }.cancel (w.buffers.values.map BufferedDelivery.flush_handle)) w.buffers.values
      exact accounted_drained accounted ⟨windows,handles,unseen,same⟩
  | gathered call =>
    simp only [step]
    split
    · exact accounted
    · split
      · exact accounted
      · refine accounted_moved accounted ?_ rfl (fun _ => ?_) fun _ _ found => found
        · simp [World.windows,World.record,handed,discarded]
        · simp [World.record,observations]

end

/-! ### The window of a timer -/

/-- The timers that are armed and those whose flush task has not run. -/
def World.pending (w : World) : List (Handle × String) := w.timers ++ w.tasks

/-- Every pending timer is that of the open window of its issue. -/
structure Owned (w : World) : Prop where
  armed : w.closed = false → ∀ handle issue_key, (handle,issue_key) ∈ w.pending →
    ∃ buffer, w.buffers.get? issue_key = some buffer ∧ buffer.flush_handle = handle
  distinct : (w.pending.map Prod.fst).Nodup
  fresh : ∀ timer ∈ w.pending, timer.1 < w.next_handle
  shut : w.closed = true → ∀ issue_key, w.buffers.get? issue_key = none
  own : ∀ terminal_event buffer handle, .handed terminal_event buffer (some handle) ∈ w.log → buffer.flush_handle = handle

/-- No `flush_all` comes between the callback of a timer and the run of its flush task. -/
def Unhurried (w : World) : Action → Prop
  | .flush_all => w.closed = true ∨ w.tasks = []
  | _ => True

section
variable {w w' : World}

/-- A step that hands no window to a flush task and takes none out of the dictionary. -/
theorem owned_quiet (owned : Owned w) (pending : w'.pending.Sublist w.pending) (closed : w'.closed = w.closed)
    (buffers : w'.buffers = w.buffers) (handles : w'.next_handle = w.next_handle)
    (log : ∀ terminal_event buffer handle, .handed terminal_event buffer (some handle) ∈ w'.log →
      .handed terminal_event buffer (some handle) ∈ w.log) : Owned w' where
  armed running handle issue_key member := by
    rw [closed] at running
    rw [buffers]
    exact owned.armed running handle issue_key (pending.subset member)
  distinct := owned.distinct.sublist (pending.map _)
  fresh timer member := by
    rw [handles]
    exact owned.fresh timer (pending.subset member)
  shut down issue_key := by
    rw [closed] at down
    rw [buffers]
    exact owned.shut down issue_key
  own terminal_event buffer handle member := owned.own terminal_event buffer handle (log terminal_event buffer handle member)

theorem owned_record (owned : Owned w) {events : List Event}
    (silent : ∀ terminal_event buffer handle, .handed terminal_event buffer (some handle) ∉ events) :
    Owned (w.record events) := by
  refine owned_quiet owned (List.Sublist.refl _) rfl rfl rfl ?_
  intro terminal_event buffer handle member
  rcases List.mem_append.mp member with old | new
  · exact old
  · exact absurd new (silent terminal_event buffer handle)

theorem owned_sweep (owned : Owned w) (buffers : List BufferedDelivery) : Owned (w.sweep buffers) := by
  cases buffers with
  | nil => exact owned
  | cons buffer rest =>
    refine owned_record (w := { w with sweeps := w.sweeps ++ [rest] }) ?_ (by simp)
    exact owned_quiet owned (List.Sublist.refl _) rfl rfl rfl fun _ _ _ member => member

variable {issue_key : String}

theorem owned_opened (owned : Owned w) (running : w.closed = false)
    (absent : w.buffers.get? issue_key = none) (fresh : BufferedDelivery) (handle : fresh.flush_handle = w.next_handle) :
    Owned { w with
      next_handle := w.next_handle + 1
      timers := w.timers ++ [(w.next_handle,issue_key)]
      buffers := w.buffers.set issue_key fresh } := by
  have moved : ((w.timers ++ [(w.next_handle,issue_key)]) ++ w.tasks).Perm ((w.next_handle,issue_key) :: w.pending) := by
    rw [List.append_assoc]
    exact List.perm_middle
  refine ⟨?_,?_,?_,?_,owned.own⟩
  · intro _ timer key member
    rcases List.mem_cons.mp (moved.mem_iff.mp member) with new | old
    · cases new
      exact ⟨fresh,by rw [Dict.get?_set,if_pos rfl],handle⟩
    · obtain ⟨buffer,found,same⟩ := owned.armed running timer key old
      have other : key ≠ issue_key := by
        rintro rfl
        rw [absent] at found
        cases found
      exact ⟨buffer,by rw [Dict.get?_set,if_neg other,found],same⟩
  · refine (moved.map Prod.fst).nodup_iff.mpr (List.nodup_cons.mpr ⟨?_,owned.distinct⟩)
    intro member
    obtain ⟨timer,pending,same⟩ := List.mem_map.mp member
    exact absurd (owned.fresh timer pending) (by rw [same]; exact Nat.lt_irrefl _)
  · intro timer member
    rcases List.mem_cons.mp (moved.mem_iff.mp member) with rfl | old
    · exact Nat.lt_succ_self _
    · exact Nat.lt_succ_of_lt (owned.fresh timer old)
  · intro down
    rw [running] at down
    cases down

theorem owned_buffered (owned : Owned w) {buffer : BufferedDelivery} (running : w.closed = false)
    (found : w.buffers.get? issue_key = some buffer) (grown : BufferedDelivery)
    (same : grown.flush_handle = buffer.flush_handle) : Owned { w with buffers := w.buffers.set issue_key grown } := by
  refine ⟨?_,owned.distinct,owned.fresh,?_,owned.own⟩
  · intro _ timer key member
    obtain ⟨current,found',handle⟩ := owned.armed running timer key member
    by_cases own : key = issue_key
    · subst own
      rw [found] at found'
      cases found'
      exact ⟨grown,by rw [Dict.get?_set,if_pos rfl],same.trans handle⟩
    · exact ⟨current,by rw [Dict.get?_set,if_neg own,found'],handle⟩
  · intro down
    rw [running] at down
    cases down

theorem owned_observe (owned : Owned w) (event : WebhookEvent) : Owned (w.observe event) := by
  unfold World.observe
  split
  · exact owned_record owned (by simp)
  · next running =>
    rw [Bool.not_eq_true] at running
    split
    · exact owned_record owned (by simp)
    · next issue_key keyed =>
      split
      · next absent => exact owned_record (owned_opened owned running absent _ rfl) (by simp)
      · next buffer found =>
        let grown := { buffer with delivery_ids := buffer.delivery_ids ++ [event.delivery_id], last_event := event }
        exact owned_record (owned_buffered owned running found grown rfl) (by simp)

private theorem lookup_mem {timers : List (Handle × String)} {handle : Handle}
    (found : timers.lookup handle = some issue_key) : (handle,issue_key) ∈ timers := by
  induction timers with
  | nil => cases found
  | cons timer timers ih =>
    obtain ⟨other,key⟩ := timer
    by_cases same : handle = other
    · subst same
      rw [List.lookup_cons_self,Option.some.injEq] at found
      rw [found]
      exact List.mem_cons_self
    · have missed : (handle == other) = false := by simpa using same
      rw [List.lookup_cons,missed] at found
      exact List.mem_cons_of_mem _ (ih found)

private theorem handle_removed {before after : List (Handle × String)} {handle : Handle}
    (distinct : ((before ++ after).map Prod.fst).Nodup) (member : (handle,issue_key) ∈ after) {timer : Handle × String}
    (left : timer ∈ before ++ after.filter fun timer => timer.1 ≠ handle) : timer.1 ≠ handle := by
  rcases List.mem_append.mp left with first | filtered
  · rw [List.map_append] at distinct
    have apart := (List.nodup_append.mp distinct).2.2
    exact apart timer.1 (List.mem_map_of_mem first) handle (List.mem_map.mpr ⟨_,member,rfl⟩)
  · simpa using (List.mem_filter.mp filtered).2

/-- The callback of a timer turns it into a flush task. -/
theorem owned_expired (owned : Owned w) {handle : Handle}
    (found : w.timers.lookup handle = some issue_key) :
    Owned ({ w with timers := w.timers.filter fun timer => timer.1 ≠ handle }.on_window_expired handle issue_key) := by
  have armed := lookup_mem found
  have fewer : ((w.timers.filter fun timer => timer.1 ≠ handle) ++ w.tasks).Sublist w.pending :=
    List.filter_sublist.append (List.Sublist.refl _)
  unfold World.on_window_expired
  split
  · exact owned_quiet owned fewer rfl rfl rfl fun _ _ _ member => member
  · have kept : ∀ timer ∈ (w.timers.filter fun timer => timer.1 ≠ handle) ++ (w.tasks ++ [(handle,issue_key)]),
        timer ∈ w.pending := by
      intro timer member
      rw [← List.append_assoc] at member
      rcases List.mem_append.mp member with old | new
      · exact fewer.subset old
      · rw [List.mem_singleton.mp new]
        exact List.mem_append_left _ armed
    refine ⟨fun running timer key member => owned.armed running timer key (kept _ member),?_,
      fun timer member => owned.fresh timer (kept timer member),owned.shut,owned.own⟩
    have absent : handle ∉ ((w.timers.filter fun timer => timer.1 ≠ handle) ++ w.tasks).map Prod.fst := by
      intro member
      obtain ⟨timer,present,same⟩ := List.mem_map.mp member
      have swapped : ((w.tasks ++ w.timers).map Prod.fst).Nodup :=
        (List.perm_append_comm.map Prod.fst).nodup_iff.mpr owned.distinct
      exact handle_removed swapped armed (List.mem_append.mpr (List.mem_append.mp present).symm) same
    have nodup := (owned.distinct.sublist (fewer.map Prod.fst)).concat absent
    change (List.map Prod.fst ((w.timers.filter fun timer => timer.1 ≠ handle) ++ (w.tasks ++ [(handle,issue_key)]))).Nodup
    simpa using nodup

theorem owned_flushed (owned : Owned w) {handle : Handle}
    (found : w.tasks.lookup handle = some issue_key) :
    Owned ({ w with tasks := w.tasks.filter fun task => task.1 ≠ handle }.flush_one handle issue_key) := by
  have waiting : (handle,issue_key) ∈ w.pending := List.mem_append_right _ (lookup_mem found)
  have fewer : (w.timers ++ w.tasks.filter fun task => task.1 ≠ handle).Sublist w.pending :=
    (List.Sublist.refl _).append List.filter_sublist
  unfold World.flush_one
  split
  · exact owned_quiet owned fewer rfl rfl rfl fun _ _ _ member => member
  · next buffer present =>
    change w.buffers.get? issue_key = some buffer at present
    have running : w.closed = false := by
      rw [← Bool.not_eq_true]
      intro down
      rw [owned.shut down issue_key] at present
      cases present
    obtain ⟨current,present',same⟩ := owned.armed running handle issue_key waiting
    rw [present] at present'
    cases present'
    refine ⟨?_,owned.distinct.sublist (fewer.map _),fun timer member => owned.fresh timer (fewer.subset member),?_,?_⟩
    · intro _ timer key member
      obtain ⟨other,found',own⟩ := owned.armed running timer key (fewer.subset member)
      have differ : key ≠ issue_key := by
        rintro rfl
        rw [present] at found'
        cases found'
        exact handle_removed owned.distinct (lookup_mem found) member (own.symm.trans same)
      exact ⟨other,by
        change (w.buffers.erase issue_key).get? key = some other
        rw [Dict.get?_erase,if_neg differ,found'],own⟩
    · intro down
      change w.closed = true at down
      rw [running] at down
      cases down
    · intro terminal_event buffer' handle' member
      rcases List.mem_append.mp member with old | new
      · exact owned.own terminal_event buffer' handle' old
      · cases List.mem_singleton.mp new
        exact same

/-- With every window its timer is cancelled, so none is left. -/
theorem timers_drained (owned : Owned w) (running : w.closed = false) :
    (w.timers.filter fun timer => ¬(w.buffers.values.map BufferedDelivery.flush_handle).contains timer.1) = [] := by
  refine List.filter_eq_nil_iff.mpr fun timer member => ?_
  obtain ⟨buffer,found,same⟩ := owned.armed running timer.1 timer.2 (List.mem_append_left _ member)
  have value : buffer ∈ w.buffers.values := List.mem_map.mpr ⟨_,Dict.mem_items found,rfl⟩
  have listed : timer.1 ∈ w.buffers.values.map BufferedDelivery.flush_handle := List.mem_map.mpr ⟨buffer,value,same⟩
  simpa using listed

theorem owned_flush_all (owned : Owned w) (unhurried : Unhurried w .flush_all) : Owned w.flush_all := by
  unfold World.flush_all
  split
  · exact owned
  · next running =>
    rw [Bool.not_eq_true] at running
    have idle : w.tasks = [] := by
      rcases unhurried with down | idle
      · rw [running] at down
        cases down
      · exact idle
    refine owned_sweep ?_ _
    have none : ({ w with buffers := Dict.empty }.cancel
        (w.buffers.values.map BufferedDelivery.flush_handle)).pending = [] := by
      simp only [World.pending,World.cancel,timers_drained owned running,idle,List.append_nil]
    refine ⟨fun _ timer key member => ?_,?_,fun timer member => ?_,fun _ _ => rfl,owned.own⟩
    · rw [none] at member
      cases member
    · rw [none]
      exact List.nodup_nil
    · rw [none] at member
      cases member

theorem owned_aclose (owned : Owned w) : Owned w.aclose := by
  unfold World.aclose
  split
  · exact owned_record owned (by simp)
  · refine owned_record ?_ (by simp)
    have fewer : ((w.timers.filter fun timer =>
        ¬(w.buffers.values.map BufferedDelivery.flush_handle).contains timer.1) ++ w.tasks).Sublist w.pending :=
      List.filter_sublist.append (List.Sublist.refl _)
    exact ⟨nofun,owned.distinct.sublist (fewer.map _),fun timer member => owned.fresh timer (fewer.subset member),
      fun _ _ => rfl,owned.own⟩

theorem owned_step (owned : Owned w) (action : Action) (unhurried : Unhurried w action) : Owned (step w action) := by
  cases action with
  | observe event => exact owned_observe owned event
  | timer handle =>
    simp only [step]
    split
    · exact owned
    · next issue_key found => exact owned_expired owned found
  | task handle =>
    simp only [step]
    split
    · exact owned
    · next issue_key found => exact owned_flushed owned found
  | returned handle =>
    simp only [step]
    split
    · exact owned_quiet owned (List.Sublist.refl _) rfl rfl rfl fun _ _ _ member => member
    · exact owned
  | flush_all => exact owned_flush_all owned unhurried
  | resume call =>
    simp only [step]
    split
    · exact owned
    · refine owned_sweep ?_ _
      exact owned_quiet owned (List.Sublist.refl _) rfl rfl rfl fun _ _ _ member => member
  | aclose => exact owned_aclose owned
  | gathered call =>
    simp only [step]
    split
    · exact owned
    · split
      · exact owned
      · refine owned_record (w := { w with waits := w.waits.eraseIdx call }) ?_ (by simp)
        exact owned_quiet owned (List.Sublist.refl _) rfl rfl rfl fun _ _ _ member => member

end

/-! ### Every run -/

theorem accounted_start : Accounted .start where
  once := .refl []
  contents buffer member := by simp [World.windows,World.start,Dict.values,Dict.empty,handed,discarded] at member
  seen window observed := by simp [World.start,observations] at observed
  keyed issue_key buffer found := by simp [World.start] at found

theorem owned_start : Owned .start where
  armed _ handle issue_key member := by simp [World.pending,World.start] at member
  distinct := List.nodup_nil
  fresh timer member := by simp [World.pending,World.start] at member
  shut down := by simp [World.start] at down
  own terminal_event buffer handle member := by simp [World.start] at member

/-- The callback gets the last event of its window, marked with the window's deliveries. -/
def Terminal : Event → Prop
  | .handed terminal_event buffer _ => terminal_event = attach_coalesced_marker buffer.last_event buffer.delivery_ids
  | _ => True

/-- What is added to the log; only `aclose` discards. -/
def Appends (action : Action) (before after : List Event) : Prop :=
  ∃ events, after = before ++ events ∧ (∀ event ∈ events, Terminal event) ∧ (action ≠ .aclose → discarded events = [])

section
variable (w : World) {action : Action}

theorem appends_nothing {log : List Event} : Appends action log log :=
  ⟨[],(List.append_nil _).symm,fun _ absent => absurd absent List.not_mem_nil,fun _ => rfl⟩

theorem appends_record {log : List Event} {event : Event} (terminal : Terminal event) (kept : discarded [event] = []) :
    Appends action log (log ++ [event]) :=
  ⟨[event],rfl,fun _ member => List.mem_singleton.mp member ▸ terminal,fun _ => kept⟩

theorem appends_sweep (buffers : List BufferedDelivery) : Appends action w.log (w.sweep buffers).log := by
  cases buffers with
  | nil => exact appends_nothing
  | cons buffer rest => exact appends_record rfl rfl

theorem appends_step (action : Action) : Appends action w.log (step w action).log := by
  cases action with
  | observe event =>
    simp only [step,World.observe]
    split
    · exact appends_record trivial rfl
    · split
      · exact appends_record trivial rfl
      · split <;> exact appends_record trivial rfl
  | timer handle =>
    simp only [step,World.on_window_expired]
    split
    · exact appends_nothing
    · split <;> exact appends_nothing
  | task handle =>
    simp only [step,World.flush_one]
    split
    · exact appends_nothing
    · split
      · exact appends_nothing
      · exact appends_record rfl rfl
  | returned handle =>
    simp only [step]
    split <;> exact appends_nothing
  | flush_all =>
    simp only [step,World.flush_all]
    split
    · exact appends_nothing
    · exact appends_sweep _ _
  | resume call =>
    simp only [step]
    split
    · exact appends_nothing
    · exact appends_sweep _ _
  | aclose =>
    simp only [step,World.aclose]
    split
    · exact appends_record trivial rfl
    · refine ⟨w.buffers.values.map .discarded,rfl,fun event member => ?_,fun other => absurd rfl other⟩
      obtain ⟨buffer,-,rfl⟩ := List.mem_map.mp member
      trivial
  | gathered call =>
    simp only [step]
    split
    · exact appends_nothing
    · split
      · exact appends_nothing
      · exact appends_record trivial rfl

end

theorem terminal_run (actions : List Action) (w : World) (terminal : ∀ event ∈ w.log, Terminal event) :
    ∀ event ∈ (actions.foldl step w).log, Terminal event := by
  induction actions generalizing w with
  | nil => exact terminal
  | cons action actions ih =>
    refine ih _ fun event member => ?_
    obtain ⟨events,grown,proper,-⟩ := appends_step w action
    rw [grown] at member
    exact (List.mem_append.mp member).elim (terminal event) (proper event)

theorem discarded_run (actions : List Action) (w : World) (open' : Action.aclose ∉ actions) :
    discarded (actions.foldl step w).log = discarded w.log := by
  induction actions generalizing w with
  | nil => rfl
  | cons action actions ih =>
    obtain ⟨other,rest⟩ := not_or.mp (List.mem_cons.not.mp open')
    obtain ⟨events,grown,-,kept⟩ := appends_step w action
    have split : discarded (step w action).log = discarded w.log ++ discarded events := by
      rw [grown]
      exact List.filterMap_append
    rw [List.foldl_cons,ih _ rest,split,kept fun same => other same.symm,List.append_nil]

theorem accounted_run (actions : List Action) (w : World) (accounted : Accounted w) : Accounted (actions.foldl step w) := by
  induction actions generalizing w with
  | nil => exact accounted
  | cons action actions ih => exact ih _ (accounted_step accounted action)

/-- The windows of a run, whatever the loop did. An observed delivery belongs to one
    window, and every window is in one place: open, in a `flush_all`, handed to the
    callback once, or discarded, which only `aclose` does. The callback gets the last
    event of the window and its deliveries. Where no `flush_all` overtakes a flush task,
    a task hands over the window of its own timer. -/
structure FlushedOnce (actions : List Action) (w : World) : Prop where
  distinct : (w.windows.map (·.flush_handle)).Nodup
  contents : ∀ buffer ∈ w.windows, Holds w.log buffer
  placed : ∀ event window result, .observed event window result ∈ w.log → ∃ buffer ∈ w.windows, buffer.flush_handle = window
  terminal : ∀ terminal_event buffer timer, .handed terminal_event buffer timer ∈ w.log →
    terminal_event = attach_coalesced_marker buffer.last_event buffer.delivery_ids
  kept : .aclose ∉ actions → discarded w.log = []
  own : Admitted step Unhurried .start actions →
    ∀ terminal_event buffer handle, .handed terminal_event buffer (some handle) ∈ w.log → buffer.flush_handle = handle

theorem flushed_once (actions : List Action) : FlushedOnce actions (actions.foldl step .start) := by
  have accounted := accounted_run actions .start accounted_start
  refine ⟨accounted.once.nodup_iff.mpr List.nodup_range,accounted.contents,?_,
    fun _ _ _ member => terminal_run actions .start (fun _ absent => absurd absent List.not_mem_nil) _ member,?_,?_⟩
  · intro event window result member
    have observed : observations (actions.foldl step .start).log window ≠ [] := by
      refine List.ne_nil_of_mem (a := event) (List.mem_filterMap.mpr ⟨_,member,?_⟩)
      simp
    have handle := accounted.once.mem_iff.mpr (List.mem_range.mpr (accounted.seen window observed))
    obtain ⟨buffer,present,same⟩ := List.mem_map.mp handle
    exact ⟨buffer,present,same⟩
  · intro open'
    rw [discarded_run actions .start open']
    rfl
  · intro admitted
    have owned := admitted_invariant (I := Owned) (fun w action owned unhurried => owned_step owned action unhurried)
      actions .start owned_start admitted
    exact owned.own

/-! Two comments on one issue. -/

def comment (delivery_id : String) : WebhookEvent :=
  { provider := "jira", event_type := "jira:issue_commented", delivery_id, actor_account_id := none, body_text := none
    project_key := none, repo_slug := none, issue_key := some "PAY-7", pr_id := none, raw_payload := [] }

/-- The windows that were handed over, with the timers whose tasks did it. -/
def handovers (log : List Event) : List (List String × Handle × Option Handle) :=
  log.filterMap fun
    | .handed _ buffer timer => some (buffer.delivery_ids,buffer.flush_handle,timer)
    | _ => none

/-- The second comment is buffered and never dispatched; and where `flush_all` comes
    between a timer and its task, the task takes the next window of the issue. -/
theorem hard_stop_discards :
    let stopped := [.observe (comment "d-1"),.observe (comment "d-2"),.aclose,.gathered 0].foldl step .start
    let overtaken :=
      [.observe (comment "d-1"),.timer 0,.flush_all,.observe (comment "d-2"),.task 0].foldl step .start
    (discarded stopped.log).map (·.delivery_ids) = [["d-1","d-2"]] ∧ handovers stopped.log = [] ∧
      handovers overtaken.log = [(["d-1"],0,none),(["d-2"],1,some 0)] := by
  decide

end Automation.BurstDebounce
