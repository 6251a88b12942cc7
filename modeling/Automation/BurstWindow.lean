import Automation.Dict
import Automation.Json

/-!
`BurstWindow`, the comment-burst debounce: `register` and `flush_window` over
one window for each issue key. A history is the list of calls with their
answers; the fate of a delivery is read off the history alone, and
`deliveries_conserved` says that the answers and the open windows agree with it.

A registration that finds an expired window replaces it, and what the window
held is discarded: the caller is expected to have flushed it before.
-/
namespace Automation

abbrev BurstWindow.Payload := List (String × Json)

inductive CoalesceDecision where
  | coalesce_emit
  | coalesce_dropped
  deriving DecidableEq

structure WindowBuffer (Time : Type) where
  window_start : Time
  anchor_delivery_id : String
  dropped_delivery_ids : List String
  latest_payload : BurstWindow.Payload

/-- The clock is any type with a difference and a comparison, floats included. -/
structure BurstWindow (Time : Type) where
  window_seconds : Time
  buffers : Dict String (WindowBuffer Time)

namespace BurstWindow
variable {Time : Type}

section
variable [Sub Time] [LT Time] [DecidableLT Time]

def new (window_seconds : Time) : BurstWindow Time := ⟨window_seconds,.empty⟩

/-- The buffer is there and the time lies inside its window. -/
def live (window : BurstWindow Time) (issue_key : String) (now : Time) : Option (WindowBuffer Time) :=
  (window.buffers.get? issue_key).filter fun buffer => now - buffer.window_start < window.window_seconds

def register (window : BurstWindow Time) (issue_key delivery_id : String) (payload : Payload) (now : Time) :
    Except String CoalesceDecision × BurstWindow Time :=
  if issue_key = "" then (.error "register requires a non-empty issue_key; got ''",window)
  else if delivery_id = "" then (.error "register requires a non-empty delivery_id; got ''",window)
  else
    match window.live issue_key now with
    | some buffer =>
      let merged := { buffer with
        dropped_delivery_ids := buffer.dropped_delivery_ids ++ [delivery_id], latest_payload := payload }
      (.ok .coalesce_dropped,{ window with buffers := window.buffers.set issue_key merged })
    | none =>
      -- Opens a window, or replaces one that has expired.
      let fresh := { window_start := now, anchor_delivery_id := delivery_id
                     dropped_delivery_ids := [], latest_payload := payload }
      (.ok .coalesce_emit,{ window with buffers := window.buffers.set issue_key fresh })

def flush_window (window : BurstWindow Time) (issue_key : String) :
    Option (List String × Payload) × BurstWindow Time :=
  match window.buffers.get? issue_key with
  | none => (none,window)
  | some buffer =>
    (some (buffer.dropped_delivery_ids,buffer.latest_payload),
      { window with buffers := window.buffers.erase issue_key })

end

/-! ### Histories -/

inductive Call (Time : Type) where
  | register (issue_key delivery_id : String) (payload : Payload) (now : Time)
  | flush_window (issue_key : String)

def Call.issue_key : Call Time → String
  | .register issue_key _ _ _ => issue_key
  | .flush_window issue_key => issue_key

inductive Answer where
  | registered (result : Except String CoalesceDecision)
  | flushed (result : Option (List String × Payload))

structure Event (Time : Type) where
  call : Call Time
  answer : Answer

section
variable [Sub Time] [LT Time] [DecidableLT Time]

def perform (window : BurstWindow Time) : Call Time → Answer × BurstWindow Time
  | .register issue_key delivery_id payload now =>
    let (result,after) := window.register issue_key delivery_id payload now
    (.registered result,after)
  | .flush_window issue_key =>
    let (result,after) := window.flush_window issue_key
    (.flushed result,after)

def run (window : BurstWindow Time) : List (Call Time) → List (Event Time) × BurstWindow Time
  | [] => ([],window)
  | call :: calls =>
    let (answer,after) := perform window call
    let (history,final) := run after calls
    (⟨call,answer⟩ :: history,final)

end

/-! ### Fates -/

/-- The decision on an accepted registration, with its delivery id. -/
def Event.delivery : Event Time → Option (String × CoalesceDecision)
  | ⟨.register _ delivery_id _ _,.registered (.ok decision)⟩ => some (delivery_id,decision)
  | _ => none

def Event.isFlush : Event Time → Bool
  | ⟨.flush_window _,_⟩ => true
  | _ => false

/-- The event closes the window of the key that was open before: a flush, or a
    registration that opens the next. -/
def Event.closes (issue_key : String) (event : Event Time) : Bool :=
  event.call.issue_key = issue_key &&
    (event.isFlush || event.delivery.any fun delivery => delivery.2 = .coalesce_emit)

/-- What becomes of a registered delivery. The numbers are positions in the history. -/
inductive Fate where
  | emitted
  | coalesced (flush : Nat)
  | discarded (replacement : Nat)
  | held
  deriving DecidableEq

/-- The first event after the position that closes the window of the key. -/
def closedBy (history : List (Event Time)) (issue_key : String) (i : Nat) : Option Nat :=
  ((history.drop (i + 1)).findIdx? (·.closes issue_key)).map (i + 1 + ·)

def fate (history : List (Event Time)) (i : Nat) : Option Fate := do
  let event ← history[i]?
  let (_,decision) ← event.delivery
  match decision with
  | .coalesce_emit => return .emitted
  | .coalesce_dropped =>
    match closedBy history event.call.issue_key i with
    | none => return .held
    | some n => return if history[n]?.any Event.isFlush then .coalesced n else .discarded n

/-- The id of the delivery at the position, where it has such a key and fate. -/
def listed (history : List (Event Time)) (which : String → Fate → Bool) (i : Nat) : Option String := do
  let event ← history[i]?
  let (delivery_id,_) ← event.delivery
  let fate ← fate history i
  if which event.call.issue_key fate then some delivery_id else none

/-- The ids of the deliveries with such a key and fate, in the order of their registration. -/
def deliveries (history : List (Event Time)) (which : String → Fate → Bool) : List String :=
  (List.range history.length).filterMap (listed history which)

/-! ### One event more -/

/-- What the next event makes of a fate. -/
def settled (position : Nat) (event : Event Time) (issue_key : String) : Fate → Fate
  | .held =>
    if event.closes issue_key then if event.isFlush then .coalesced position else .discarded position else .held
  | fate => fate

/-- The fate of a delivery as it is registered. -/
def initialFate : CoalesceDecision → Fate
  | .coalesce_emit => .emitted
  | .coalesce_dropped => .held

section
variable {history : List (Event Time)} {event : Event Time}

theorem closedBy_append {i : Nat} (inside : i < history.length) (issue_key : String) :
    closedBy (history ++ [event]) issue_key i =
      (closedBy history issue_key i).or (if event.closes issue_key then some history.length else none) := by
  have later : (history ++ [event]).drop (i + 1) = history.drop (i + 1) ++ [event] := List.drop_append_of_le_length inside
  simp only [closedBy,later,List.findIdx?_append]
  cases (history.drop (i + 1)).findIdx? (·.closes issue_key) with
  | some n => rfl
  | none =>
    cases closes : event.closes issue_key with
    | false => simp [closes]
    | true =>
      simp [closes]
      omega

theorem closedBy_inside {issue_key : String} {i n : Nat} (closed : closedBy history issue_key i = some n) :
    i < n ∧ n < history.length := by
  simp only [closedBy,Option.map_eq_some_iff] at closed
  obtain ⟨offset,found,rfl⟩ := closed
  have bound := (List.findIdx?_eq_some_iff_findIdx_eq.mp found).1
  rw [List.length_drop] at bound
  omega

theorem fate_append {i : Nat} {old : Event Time} (present : history[i]? = some old) :
    fate (history ++ [event]) i = (fate history i).map (settled history.length event old.call.issue_key) := by
  have inside : i < history.length := (List.getElem?_eq_some_iff.mp present).1
  have kept : (history ++ [event])[i]? = some old := by rw [List.getElem?_append_left inside,present]
  simp only [fate,present,kept,Option.bind_eq_bind,Option.bind_some,closedBy_append inside]
  cases old.delivery with
  | none => rfl
  | some delivery =>
    obtain ⟨delivery_id,decision⟩ := delivery
    cases decision with
    | coalesce_emit => rfl
    | coalesce_dropped =>
      cases closed : closedBy history old.call.issue_key i with
      | none =>
        cases closes : event.closes old.call.issue_key with
        | false => simp [settled,closes]
        | true => cases flush : event.isFlush <;> simp [settled,closes,flush]
      | some n =>
        have before := (closedBy_inside closed).2
        cases flush : history[n]?.any Event.isFlush <;> simp [List.getElem?_append_left before,flush,settled]

theorem closedBy_last (issue_key : String) : closedBy (history ++ [event]) issue_key history.length = none := by
  simp [closedBy,List.drop_eq_nil_of_le]

theorem fate_last :
    fate (history ++ [event]) history.length = event.delivery.map fun delivery => initialFate delivery.2 := by
  simp only [fate,List.getElem?_concat_length,Option.bind_eq_bind,Option.bind_some,closedBy_last]
  cases event.delivery with
  | none => rfl
  | some delivery =>
    obtain ⟨delivery_id,decision⟩ := delivery
    cases decision <;> rfl

/-- The delivery of the event, where it is registered with such a key and fate. -/
def arrival (event : Event Time) (which : String → Fate → Bool) : Option String :=
  event.delivery.bind fun delivery =>
    if which event.call.issue_key (initialFate delivery.2) then some delivery.1 else none

theorem listed_append (which : String → Fate → Bool) {i : Nat} (inside : i < history.length) :
    listed (history ++ [event]) which i =
      listed history (fun issue_key fate => which issue_key (settled history.length event issue_key fate)) i := by
  have present : history[i]? = some history[i] := List.getElem?_eq_getElem inside
  simp only [listed,List.getElem?_append_left inside,fate_append present,present,Option.bind_eq_bind,Option.bind_some]
  cases history[i].delivery with
  | none => rfl
  | some delivery => cases fate history i <;> rfl

theorem listed_last (which : String → Fate → Bool) :
    listed (history ++ [event]) which history.length = arrival event which := by
  simp only [listed,List.getElem?_concat_length,fate_last,arrival,Option.bind_eq_bind,Option.bind_some]
  cases event.delivery <;> rfl

theorem deliveries_append (which : String → Fate → Bool) :
    deliveries (history ++ [event]) which =
      deliveries history (fun issue_key fate => which issue_key (settled history.length event issue_key fate)) ++
        (arrival event which).toList := by
  have last : [history.length].filterMap (listed (history ++ [event]) which) = (arrival event which).toList := by
    rw [List.filterMap_cons,listed_last]
    cases arrival event which <;> rfl
  rw [deliveries,List.length_append,List.length_singleton,List.range_succ,List.filterMap_append,last]
  congr 1
  exact List.filterMap_congr fun i inside => listed_append which (List.mem_range.mp inside)

end

/-! ### What one call does -/

def holding (window : BurstWindow Time) (issue_key : String) : List String :=
  ((window.buffers.get? issue_key).map (·.dropped_delivery_ids)).getD []

section
variable [Sub Time] [LT Time]

/-- The buffer of one key is written, the others stay. -/
def Writes (window after : BurstWindow Time) (issue_key : String) (written : Option (WindowBuffer Time)) : Prop :=
  after.window_seconds = window.window_seconds ∧
    ∀ key, after.buffers.get? key = if key = issue_key then written else window.buffers.get? key

/-- The calls with their answers, and the window that they leave. -/
inductive Performs (window : BurstWindow Time) : Event Time → BurstWindow Time → Prop
  | refused {issue_key delivery_id payload now error} :
    Performs window ⟨.register issue_key delivery_id payload now,.registered (.error error)⟩ window
  | coalesced {issue_key delivery_id payload now buffer after} (found : window.buffers.get? issue_key = some buffer)
    (written : Writes window after issue_key (some { buffer with
      dropped_delivery_ids := buffer.dropped_delivery_ids ++ [delivery_id], latest_payload := payload })) :
    Performs window ⟨.register issue_key delivery_id payload now,.registered (.ok .coalesce_dropped)⟩ after
  | emitted {issue_key delivery_id payload now after}
    (expired : ∀ buffer, window.buffers.get? issue_key = some buffer →
      ¬now - buffer.window_start < window.window_seconds)
    (written : Writes window after issue_key (some
      { window_start := now, anchor_delivery_id := delivery_id, dropped_delivery_ids := [], latest_payload := payload })) :
    Performs window ⟨.register issue_key delivery_id payload now,.registered (.ok .coalesce_emit)⟩ after
  | flushed {issue_key result after} (ids : (result.map Prod.fst).getD [] = holding window issue_key)
    (written : Writes window after issue_key none) :
    Performs window ⟨.flush_window issue_key,.flushed result⟩ after

theorem flush_performs (window : BurstWindow Time) (issue_key : String) :
    Performs window ⟨.flush_window issue_key,.flushed (window.flush_window issue_key).1⟩
      (window.flush_window issue_key).2 := by
  unfold flush_window
  cases found : window.buffers.get? issue_key with
  | none =>
    refine .flushed (by simp [holding,found]) ⟨rfl,fun key => ?_⟩
    by_cases same : key = issue_key
    · simp [same,found]
    · simp [same]
  | some buffer => exact .flushed (by simp [holding,found]) ⟨rfl,fun key => Dict.get?_erase _ _ _⟩

variable [DecidableLT Time]

theorem register_performs (window : BurstWindow Time) (issue_key delivery_id : String) (payload : Payload) (now : Time) :
    Performs window
      ⟨.register issue_key delivery_id payload now,.registered (window.register issue_key delivery_id payload now).1⟩
      (window.register issue_key delivery_id payload now).2 := by
  unfold register
  split
  · exact .refused
  · split
    · exact .refused
    · cases alive : window.live issue_key now with
      | some buffer =>
        have found := (Option.filter_eq_some_iff.mp alive).1
        exact .coalesced found ⟨rfl,fun key => Dict.get?_set _ _ _ _⟩
      | none =>
        refine .emitted ?_ ⟨rfl,fun key => Dict.get?_set _ _ _ _⟩
        intro buffer found inside
        simp [live,found,inside] at alive

theorem perform_performs (window : BurstWindow Time) (call : Call Time) :
    Performs window ⟨call,(perform window call).1⟩ (perform window call).2 := by
  cases call with
  | register issue_key delivery_id payload now => exact register_performs window issue_key delivery_id payload now
  | flush_window issue_key => exact flush_performs window issue_key

end

/-! ### Fates of a history -/

section
variable {history : List (Event Time)} {event : Event Time} {issue_key : String}

theorem closedBy_closes {i n : Nat} (closed : closedBy history issue_key i = some n) :
    ∃ closing, history[n]? = some closing ∧ closing.closes issue_key = true := by
  simp only [closedBy,Option.map_eq_some_iff] at closed
  obtain ⟨offset,found,rfl⟩ := closed
  obtain ⟨bound,closes,-⟩ := List.findIdx?_eq_some_iff_getElem.mp found
  rw [List.getElem_drop] at closes
  rw [List.length_drop] at bound
  exact ⟨_,List.getElem?_eq_getElem (by omega),closes⟩

theorem fate_closed {i n : Nat} {fate' : Fate} (known : fate history i = some fate')
    (later : fate' = .coalesced n ∨ fate' = .discarded n) :
    ∃ event closing, history[i]? = some event ∧ (∃ delivery_id, event.delivery = some (delivery_id,.coalesce_dropped)) ∧
      closedBy history event.call.issue_key i = some n ∧ history[n]? = some closing ∧
      closing.closes event.call.issue_key = true ∧ (closing.isFlush = true ↔ fate' = .coalesced n) := by
  cases present : history[i]? with
  | none => simp [fate,present] at known
  | some event =>
  cases delivered : event.delivery with
  | none => simp [fate,present,delivered] at known
  | some delivery =>
  obtain ⟨delivery_id,decision⟩ := delivery
  cases decision with
  | coalesce_emit =>
    simp [fate,present,delivered] at known
    simp [← known] at later
  | coalesce_dropped =>
  cases closed : closedBy history event.call.issue_key i with
  | none =>
    simp [fate,present,delivered,closed] at known
    simp [← known] at later
  | some m =>
  obtain ⟨closing,found,closes⟩ := closedBy_closes closed
  simp only [fate,present,delivered,closed,found,Option.bind_eq_bind,Option.bind_some,Option.any_some,Option.pure_def,
    Option.some.injEq] at known
  have same : m = n := by
    cases flush : closing.isFlush <;> simp [← known,flush] at later <;> exact later
  subst same
  refine ⟨event,closing,rfl,⟨delivery_id,delivered⟩,closed,found,closes,?_⟩
  cases flush : closing.isFlush <;> simp [← known,flush]

theorem fate_isSome (i : Nat) : (fate history i).isSome = history[i]?.any fun event => event.delivery.isSome := by
  simp only [fate,Option.bind_eq_bind]
  cases history[i]? with
  | none => rfl
  | some event =>
    simp only [Option.bind_some,Option.any_some]
    cases event.delivery with
    | none => rfl
    | some delivery =>
      obtain ⟨delivery_id,decision⟩ := delivery
      cases decision with
      | coalesce_emit => rfl
      | coalesce_dropped =>
        simp only [Option.bind_some]
        cases closedBy history event.call.issue_key i <;> rfl

theorem fate_emitted (i : Nat) : fate history i = some .emitted ↔
    ∃ event delivery_id, history[i]? = some event ∧ event.delivery = some (delivery_id,.coalesce_emit) := by
  simp only [fate,Option.bind_eq_bind]
  cases history[i]? with
  | none => simp
  | some event =>
    cases delivered : event.delivery with
    | none => simp [delivered]
    | some delivery =>
      obtain ⟨delivery_id,decision⟩ := delivery
      cases decision with
      | coalesce_emit => simp [delivered]
      | coalesce_dropped =>
        cases closed : closedBy history event.call.issue_key i with
        | none => simp [delivered,closed]
        | some n => cases flush : history[n]?.any Event.isFlush <;> simp [delivered,closed,flush]

theorem mem_deliveries {i : Nat} {event : Event Time} {delivery_id : String} {decision : CoalesceDecision} {fate' : Fate}
    {which : String → Fate → Bool} (present : history[i]? = some event)
    (delivered : event.delivery = some (delivery_id,decision)) (known : fate history i = some fate')
    (chosen : which event.call.issue_key fate' = true) : delivery_id ∈ deliveries history which := by
  have inside := (List.getElem?_eq_some_iff.mp present).1
  refine List.mem_filterMap.mpr ⟨i,List.mem_range.mpr inside,?_⟩
  simp [listed,present,delivered,known,chosen]

theorem deliveries_congr {which which' : String → Fate → Bool}
    (same : ∀ i event fate', history[i]? = some event → fate history i = some fate' →
      which event.call.issue_key fate' = which' event.call.issue_key fate') :
    deliveries history which = deliveries history which' := by
  refine List.filterMap_congr fun i _ => ?_
  simp only [listed,Option.bind_eq_bind]
  cases present : history[i]? with
  | none => rfl
  | some event =>
    simp only [Option.bind_some]
    cases event.delivery with
    | none => rfl
    | some delivery =>
      cases known : fate history i with
      | none => rfl
      | some fate' => simp only [Option.bind_some,same i event fate' present known]

theorem deliveries_none {which : String → Fate → Bool}
    (never : ∀ i event fate', history[i]? = some event → fate history i = some fate' →
      which event.call.issue_key fate' = false) : deliveries history which = [] := by
  have empty : deliveries history (fun _ _ => false) = [] := by
    refine List.filterMap_eq_nil_iff.mpr fun i _ => ?_
    simp [listed]
  rw [← empty]
  exact deliveries_congr never

theorem settled_held {position : Nat} {fate' : Fate} :
    settled position event issue_key fate' = .held ↔ fate' = .held ∧ event.closes issue_key = false := by
  cases fate' with
  | held =>
    cases closes : event.closes issue_key with
    | false => simp [settled,closes]
    | true => cases flush : event.isFlush <;> simp [settled,closes,flush]
  | _ => simp [settled]

theorem settled_coalesced {position n : Nat} {fate' : Fate} :
    settled position event issue_key fate' = .coalesced n ↔
      fate' = .coalesced n ∨
        fate' = .held ∧ event.closes issue_key = true ∧ event.isFlush = true ∧ position = n := by
  cases fate' with
  | held =>
    cases closes : event.closes issue_key with
    | false => simp [settled,closes]
    | true => cases flush : event.isFlush <;> simp [settled,closes,flush]
  | _ => simp [settled]

/-- What the windows of the key hold. -/
def heldOf (history : List (Event Time)) (issue_key : String) : List String :=
  deliveries history fun key fate => key = issue_key && fate = .held

theorem held_append (issue_key : String) :
    heldOf (history ++ [event]) issue_key =
      (if event.closes issue_key then [] else heldOf history issue_key) ++
        (arrival event fun key fate => key = issue_key && fate = .held).toList := by
  rw [heldOf,deliveries_append]
  congr 1
  split
  · next closes =>
    refine deliveries_none fun i old fate' _ _ => ?_
    by_cases same : old.call.issue_key = issue_key
    · simp [settled_held,same,closes]
    · simp [same]
  · next stays =>
    refine deliveries_congr fun i old fate' _ _ => ?_
    by_cases same : old.call.issue_key = issue_key
    · simp [settled_held,same,stays]
    · simp [same]

theorem arrival_coalesced (n : Nat) : arrival event (fun _ fate => fate = .coalesced n) = none := by
  cases delivered : event.delivery with
  | none => simp [arrival,delivered]
  | some delivery => cases decision : delivery.2 <;> simp [arrival,delivered,initialFate,decision]

theorem coalesced_append_old {n : Nat} (inside : n < history.length) :
    (deliveries (history ++ [event]) fun _ fate => fate = .coalesced n) =
      deliveries history fun _ fate => fate = .coalesced n := by
  have other : history.length ≠ n := by omega
  rw [deliveries_append,arrival_coalesced,Option.toList_none,List.append_nil]
  refine deliveries_congr fun i old fate' _ _ => ?_
  simp [settled_coalesced,other]

theorem coalesced_append_new (flush : event.isFlush = true) (own : event.call.issue_key = issue_key) :
    (deliveries (history ++ [event]) fun _ fate => fate = .coalesced history.length) = heldOf history issue_key := by
  rw [deliveries_append,arrival_coalesced,Option.toList_none,List.append_nil]
  refine deliveries_congr fun i old fate' present known => ?_
  have past : fate' ≠ .coalesced history.length := by
    intro same
    obtain ⟨_,closing,-,-,-,found,-⟩ := fate_closed known (.inl same)
    simp at found
  simp only [settled_coalesced,past,false_or,flush,and_true,Event.closes,Bool.true_or,Bool.and_true,own,
    decide_eq_true_eq]
  by_cases same : old.call.issue_key = issue_key
  · simp [same]
  · have differ : issue_key ≠ old.call.issue_key := fun equal => same equal.symm
    simp [same,differ]

end

/-! ### The ledger of a run -/

/-- The registration at the position opened a window of the key at the time. -/
def Opens (history : List (Event Time)) (i : Nat) (issue_key : String) (start : Time) : Prop :=
  ∃ delivery_id payload,
    history[i]? = some ⟨.register issue_key delivery_id payload start,.registered (.ok .coalesce_emit)⟩

section
variable {history : List (Event Time)} {event : Event Time} {issue_key : String}

theorem opens_inside {i : Nat} {start : Time} (opens : Opens history i issue_key start) :
    i < history.length := by
  obtain ⟨delivery_id,payload,present⟩ := opens
  exact (List.getElem?_eq_some_iff.mp present).1

theorem emission_opens {i : Nat} (present : history[i]? = some event)
    (emits : event.delivery.any (fun delivery => delivery.2 = .coalesce_emit) = true) :
    ∃ now, Opens history i event.call.issue_key now := by
  obtain ⟨call,answer⟩ := event
  cases call with
  | flush_window issue_key => simp [Event.delivery] at emits
  | register issue_key delivery_id payload now =>
    cases answer with
    | flushed result => simp [Event.delivery] at emits
    | registered result =>
      cases result with
      | error error => simp [Event.delivery] at emits
      | ok decision =>
        simp only [Event.delivery,Option.any_some,decide_eq_true_eq] at emits
        subst emits
        exact ⟨now,delivery_id,payload,present⟩

theorem opens_append {i : Nat} (inside : i < history.length) {start : Time} :
    Opens (history ++ [event]) i issue_key start ↔ Opens history i issue_key start := by
  simp only [Opens,List.getElem?_append_left inside]

theorem position_cases {i : Nat} {old : Event Time} (present : (history ++ [event])[i]? = some old) :
    i < history.length ∧ history[i]? = some old ∨ i = history.length ∧ old = event := by
  have bound := (List.getElem?_eq_some_iff.mp present).1
  rw [List.length_append,List.length_singleton] at bound
  by_cases inside : i < history.length
  · left
    exact ⟨inside,by rwa [List.getElem?_append_left inside] at present⟩
  · right
    have last : i = history.length := by omega
    subst last
    rw [List.getElem?_concat_length,Option.some.injEq] at present
    exact ⟨rfl,present.symm⟩

theorem closedBy_append_none {i : Nat} (inside : i < history.length) :
    closedBy (history ++ [event]) issue_key i = none ↔
      closedBy history issue_key i = none ∧ event.closes issue_key = false := by
  rw [closedBy_append inside,Option.or_eq_none_iff]
  cases event.closes issue_key <;> simp

theorem closedBy_append_some {i n : Nat} (inside : i < history.length)
    (closed : closedBy (history ++ [event]) issue_key i = some n) :
    closedBy history issue_key i = some n ∧ n < history.length ∨
      closedBy history issue_key i = none ∧ n = history.length := by
  rw [closedBy_append inside] at closed
  cases early : closedBy history issue_key i with
  | some m =>
    simp only [early,Option.some_or,Option.some.injEq] at closed
    subst closed
    exact .inl ⟨rfl,(closedBy_inside early).2⟩
  | none =>
    cases closes : event.closes issue_key with
    | false => simp [early,closes] at closed
    | true =>
      simp [early,closes] at closed
      exact .inr ⟨rfl,closed.symm⟩

theorem closes_other (other : event.call.issue_key ≠ issue_key) :
    event.closes issue_key = false := by
  simp [Event.closes,other]

end

section
variable [Sub Time] [LT Time]

/-- What the history says of the window that it has led to. -/
structure Ledger (history : List (Event Time)) (window : BurstWindow Time) : Prop where
  held : ∀ issue_key, holding window issue_key = heldOf history issue_key
  flushed : ∀ n issue_key result, history[n]? = some ⟨.flush_window issue_key,.flushed result⟩ →
    (result.map Prod.fst).getD [] = deliveries history fun _ fate => fate = .coalesced n
  opened : ∀ issue_key buffer, window.buffers.get? issue_key = some buffer →
    ∃ i, Opens history i issue_key buffer.window_start ∧ closedBy history issue_key i = none
  current : ∀ i issue_key start, Opens history i issue_key start → closedBy history issue_key i = none →
    ∃ buffer, window.buffers.get? issue_key = some buffer ∧ buffer.window_start = start
  anchored : ∀ i event delivery_id, history[i]? = some event → event.delivery = some (delivery_id,.coalesce_dropped) →
    ∃ a start, a < i ∧ Opens history a event.call.issue_key start ∧
      closedBy history event.call.issue_key a = closedBy history event.call.issue_key i
  expired : ∀ i n issue_key start now, Opens history i issue_key start → closedBy history issue_key i = some n →
    Opens history n issue_key now → ¬now - start < window.window_seconds

section
variable {history : List (Event Time)} {event : Event Time} {window after : BurstWindow Time}

theorem performs_other (performs : Performs window event after) {issue_key : String}
    (other : event.call.issue_key ≠ issue_key) :
    after.buffers.get? issue_key = window.buffers.get? issue_key := by
  have differ : issue_key ≠ event.call.issue_key := fun equal => other equal.symm
  cases performs with
  | refused => rfl
  | coalesced found written => exact (written.2 _).trans (if_neg differ)
  | emitted expired written => exact (written.2 _).trans (if_neg differ)
  | flushed ids written => exact (written.2 _).trans (if_neg differ)

theorem performs_seconds (performs : Performs window event after) : after.window_seconds = window.window_seconds := by
  cases performs with
  | refused => rfl
  | coalesced found written => exact written.1
  | emitted expired written => exact written.1
  | flushed ids written => exact written.1

theorem performs_keeps (performs : Performs window event after) {issue_key : String} {buffer : WindowBuffer Time}
    (found : window.buffers.get? issue_key = some buffer) (stays : event.closes issue_key = false) :
    ∃ buffer', after.buffers.get? issue_key = some buffer' ∧ buffer'.window_start = buffer.window_start := by
  by_cases own : event.call.issue_key = issue_key
  · subst own
    cases performs with
    | refused => exact ⟨buffer,found,rfl⟩
    | coalesced found' written =>
      simp only [Call.issue_key] at found
      rw [found'] at found
      cases found
      exact ⟨_,(written.2 _).trans (if_pos rfl),rfl⟩
    | emitted expired written => simp [Event.closes,Event.delivery] at stays
    | flushed ids written => simp [Event.closes,Event.isFlush] at stays
  · exact ⟨buffer,by rw [performs_other performs own,found],rfl⟩

theorem held_step (held : ∀ issue_key, holding window issue_key = heldOf history issue_key)
    (performs : Performs window event after) (issue_key : String) :
    holding after issue_key = heldOf (history ++ [event]) issue_key := by
  rw [held_append,← held]
  by_cases own : event.call.issue_key = issue_key
  · subst own
    cases performs with
    | refused => simp [Event.closes,Event.isFlush,Event.delivery,arrival]
    | coalesced found written =>
      simp [Event.closes,Event.isFlush,Event.delivery,arrival,Call.issue_key,initialFate,holding,written.2,found]
    | emitted expired written =>
      simp [Event.closes,Event.isFlush,Event.delivery,arrival,Call.issue_key,initialFate,holding,written.2]
    | flushed ids written => simp [Event.closes,Event.isFlush,Event.delivery,arrival,Call.issue_key,holding,written.2]
  · have absent : arrival event (fun key fate => key = issue_key && fate = .held) = none := by
      cases event.delivery <;> simp [arrival,own]
    simp [holding,performs_other performs own,closes_other own,absent]

theorem flushed_step (ledger : Ledger history window) (performs : Performs window event after) (n : Nat)
    (issue_key : String) (result : Option (List String × Payload))
    (present : (history ++ [event])[n]? = some ⟨.flush_window issue_key,.flushed result⟩) :
    (result.map Prod.fst).getD [] = deliveries (history ++ [event]) fun _ fate => fate = .coalesced n := by
  rcases position_cases present with ⟨inside,old⟩ | ⟨rfl,rfl⟩
  · rw [coalesced_append_old inside]
    exact ledger.flushed n issue_key result old
  · rw [coalesced_append_new rfl rfl,← ledger.held]
    cases performs with
    | flushed ids written => exact ids

theorem opened_step (ledger : Ledger history window) (performs : Performs window event after) (issue_key : String)
    (buffer : WindowBuffer Time) (found : after.buffers.get? issue_key = some buffer) :
    ∃ i, Opens (history ++ [event]) i issue_key buffer.window_start ∧ closedBy (history ++ [event]) issue_key i = none := by
  have earlier : ∀ old, window.buffers.get? issue_key = some old → old.window_start = buffer.window_start →
      event.closes issue_key = false →
      ∃ i, Opens (history ++ [event]) i issue_key buffer.window_start ∧
        closedBy (history ++ [event]) issue_key i = none := by
    intro old had start stays
    obtain ⟨i,opens,unclosed⟩ := ledger.opened issue_key old had
    have inside := opens_inside opens
    rw [← start]
    exact ⟨i,(opens_append inside).mpr opens,(closedBy_append_none inside).mpr ⟨unclosed,stays⟩⟩
  by_cases own : event.call.issue_key = issue_key
  · subst own
    cases performs with
    | refused => exact earlier buffer found rfl (by simp [Event.closes,Event.isFlush,Event.delivery])
    | coalesced had written =>
      simp only [written.2,Call.issue_key,if_true,Option.some.injEq] at found
      subst found
      exact earlier _ had rfl (by simp [Event.closes,Event.isFlush,Event.delivery])
    | emitted expired written =>
      simp only [written.2,Call.issue_key,if_true,Option.some.injEq] at found
      subst found
      exact ⟨history.length,⟨_,_,List.getElem?_concat_length⟩,closedBy_last _⟩
    | flushed ids written => simp [written.2,Call.issue_key] at found
  · rw [performs_other performs own] at found
    exact earlier buffer found rfl (closes_other own)

theorem current_step (ledger : Ledger history window) (performs : Performs window event after) (i : Nat)
    (issue_key : String) (start : Time) (opens : Opens (history ++ [event]) i issue_key start)
    (unclosed : closedBy (history ++ [event]) issue_key i = none) :
    ∃ buffer, after.buffers.get? issue_key = some buffer ∧ buffer.window_start = start := by
  obtain ⟨delivery_id,payload,present⟩ := id opens
  rcases position_cases present with ⟨inside,-⟩ | ⟨rfl,rfl⟩
  · obtain ⟨before,stays⟩ := (closedBy_append_none inside).mp unclosed
    obtain ⟨buffer,found,rfl⟩ := ledger.current i issue_key start ((opens_append inside).mp opens) before
    exact performs_keeps performs found stays
  · cases performs with
    | emitted expired written => exact ⟨_,by simp [written.2]; rfl,rfl⟩

theorem anchored_step (ledger : Ledger history window) (performs : Performs window event after) (i : Nat)
    (old : Event Time) (delivery_id : String) (present : (history ++ [event])[i]? = some old)
    (dropped : old.delivery = some (delivery_id,.coalesce_dropped)) :
    ∃ a start, a < i ∧ Opens (history ++ [event]) a old.call.issue_key start ∧
      closedBy (history ++ [event]) old.call.issue_key a = closedBy (history ++ [event]) old.call.issue_key i := by
  rcases position_cases present with ⟨inside,before⟩ | ⟨rfl,rfl⟩
  · obtain ⟨a,start,earlier,opens,same⟩ := ledger.anchored i old delivery_id before dropped
    have bound := opens_inside opens
    exact ⟨a,start,earlier,(opens_append bound).mpr opens,by rw [closedBy_append bound,closedBy_append inside,same]⟩
  · cases performs with
    | refused => simp [Event.delivery] at dropped
    | emitted expired written => simp [Event.delivery] at dropped
    | flushed ids written => simp [Event.delivery] at dropped
    | coalesced found written =>
      obtain ⟨a,opens,unclosed⟩ := ledger.opened _ _ found
      have bound := opens_inside opens
      refine ⟨a,_,bound,(opens_append bound).mpr opens,?_⟩
      rw [closedBy_last]
      exact (closedBy_append_none bound).mpr ⟨unclosed,by simp [Event.closes,Event.isFlush,Event.delivery]⟩

theorem expired_step (ledger : Ledger history window) (performs : Performs window event after) (i n : Nat)
    (issue_key : String) (start now : Time) (opens : Opens (history ++ [event]) i issue_key start)
    (closed : closedBy (history ++ [event]) issue_key i = some n) (replaces : Opens (history ++ [event]) n issue_key now) :
    ¬now - start < after.window_seconds := by
  have order := (closedBy_inside closed).1
  have bound := opens_inside replaces
  rw [List.length_append,List.length_singleton] at bound
  have inside : i < history.length := by omega
  have opened := (opens_append inside).mp opens
  rw [performs_seconds performs]
  rcases closedBy_append_some inside closed with ⟨already,before⟩ | ⟨unclosed,rfl⟩
  · exact ledger.expired i n issue_key start now opened already ((opens_append before).mp replaces)
  · obtain ⟨buffer,found,rfl⟩ := ledger.current i issue_key start opened unclosed
    obtain ⟨delivery_id,payload,present⟩ := replaces
    rw [List.getElem?_concat_length,Option.some.injEq] at present
    subst present
    cases performs with
    | emitted expired written => exact expired buffer found

theorem ledger_step (ledger : Ledger history window) (performs : Performs window event after) :
    Ledger (history ++ [event]) after where
  held := held_step ledger.held performs
  flushed := flushed_step ledger performs
  opened := opened_step ledger performs
  current := current_step ledger performs
  anchored := anchored_step ledger performs
  expired := expired_step ledger performs

variable [DecidableLT Time]

theorem ledger_run (window : BurstWindow Time) (history : List (Event Time)) (ledger : Ledger history window)
    (calls : List (Call Time)) : Ledger (history ++ (run window calls).1) (run window calls).2 := by
  induction calls generalizing window history with
  | nil => simpa [run] using ledger
  | cons call calls ih =>
    have next := ih _ _ (ledger_step ledger (perform_performs window call))
    simpa [run] using next

end

/-! ### Other keys -/

section
variable [DecidableLT Time]

def Agree (issue_key : String) (window other : BurstWindow Time) : Prop :=
  window.window_seconds = other.window_seconds ∧ window.buffers.get? issue_key = other.buffers.get? issue_key

theorem perform_agree {window other : BurstWindow Time} {call : Call Time} (agree : Agree call.issue_key window other) :
    (perform window call).1 = (perform other call).1 ∧
      Agree call.issue_key (perform window call).2 (perform other call).2 := by
  obtain ⟨seconds,same⟩ := agree
  cases call with
  | register issue_key delivery_id payload now =>
    simp only [Call.issue_key] at same
    have alive : window.live issue_key now = other.live issue_key now := by
      simp only [live,same,seconds]
    simp only [perform,register,alive]
    split
    · exact ⟨rfl,seconds,same⟩
    · split
      · exact ⟨rfl,seconds,same⟩
      · cases other.live issue_key now <;> exact ⟨rfl,seconds,by simp [Dict.get?_set,Call.issue_key]⟩
  | flush_window issue_key =>
    simp only [Call.issue_key] at same
    simp only [perform,flush_window,same]
    cases found : other.buffers.get? issue_key with
    | none => exact ⟨rfl,seconds,by rw [Call.issue_key,same]⟩
    | some buffer => exact ⟨rfl,seconds,by simp [Dict.get?_erase,Call.issue_key]⟩

theorem perform_other (window : BurstWindow Time) {call : Call Time} {issue_key : String}
    (differ : call.issue_key ≠ issue_key) : Agree issue_key (perform window call).2 window :=
  ⟨performs_seconds (perform_performs window call),performs_other (perform_performs window call) differ⟩

theorem run_restrict (issue_key : String) (calls : List (Call Time)) (window other : BurstWindow Time)
    (agree : Agree issue_key window other) :
    (run window calls).1.filter (·.call.issue_key = issue_key) =
        (run other (calls.filter (·.issue_key = issue_key))).1 ∧
      Agree issue_key (run window calls).2 (run other (calls.filter (·.issue_key = issue_key))).2 := by
  induction calls generalizing window other with
  | nil => exact ⟨rfl,agree⟩
  | cons call calls ih =>
    by_cases own : call.issue_key = issue_key
    · subst own
      obtain ⟨answers,next⟩ := perform_agree agree
      obtain ⟨histories,finals⟩ := ih _ _ next
      refine ⟨?_,?_⟩
      · simp only [run,List.filter_cons,decide_true,if_true,histories,answers]
      · simpa only [run,List.filter_cons,decide_true,if_true] using finals
    · obtain ⟨seconds,same⟩ := perform_other window own
      have next : Agree issue_key (perform window call).2 other := ⟨seconds.trans agree.1,same.trans agree.2⟩
      obtain ⟨histories,finals⟩ := ih _ _ next
      refine ⟨?_,?_⟩
      · simpa [run,own] using histories
      · simpa [run,own] using finals

end

/-! ### Conservation -/

section
variable [DecidableLT Time]

/-- Every accepted registration has one fate, the fate that the answers and the open
    windows show; and the calls of one key are answered as if there were no others. -/
structure Conserved (window_seconds : Time) (calls : List (Call Time)) (history : List (Event Time))
    (final : BurstWindow Time) : Prop where
  fated : ∀ i, (fate history i).isSome = history[i]?.any fun event => event.delivery.isSome
  emitted : ∀ i, fate history i = some .emitted ↔
    ∃ event delivery_id, history[i]? = some event ∧ event.delivery = some (delivery_id,.coalesce_emit)
  flushed : ∀ n issue_key result, history[n]? = some ⟨.flush_window issue_key,.flushed result⟩ →
    (result.map Prod.fst).getD [] = deliveries history fun _ fate => fate = .coalesced n
  coalesced : ∀ i n, fate history i = some (.coalesced n) → i < n ∧ ∃ event delivery_id ids payload,
    history[i]? = some event ∧ event.delivery = some (delivery_id,.coalesce_dropped) ∧ delivery_id ∈ ids ∧
      history[n]? = some ⟨.flush_window event.call.issue_key,.flushed (some (ids,payload))⟩
  held : ∀ issue_key, holding final issue_key = deliveries history fun key fate => key = issue_key && fate = .held
  discarded : ∀ i n, fate history i = some (.discarded n) → i < n ∧ ∃ event a start now,
    history[i]? = some event ∧ a < i ∧ Opens history a event.call.issue_key start ∧
      closedBy history event.call.issue_key a = some n ∧ Opens history n event.call.issue_key now ∧
      ¬now - start < window_seconds
  isolated : ∀ issue_key,
    history.filter (·.call.issue_key = issue_key) =
        (run (new window_seconds) (calls.filter (·.issue_key = issue_key))).1 ∧
      final.buffers.get? issue_key =
        (run (new window_seconds) (calls.filter (·.issue_key = issue_key))).2.buffers.get? issue_key

end

theorem ledger_new (window_seconds : Time) : Ledger [] (new window_seconds) where
  held _ := rfl
  flushed _ _ _ present := by cases present
  opened _ _ found := by cases found
  current _ _ _ opens := absurd (opens_inside opens) (Nat.not_lt_zero _)
  anchored _ _ _ present := by cases present
  expired _ _ _ _ _ opens := absurd (opens_inside opens) (Nat.not_lt_zero _)

theorem discarded_expired {history : List (Event Time)} {final : BurstWindow Time} (ledger : Ledger history final)
    {i n : Nat} (known : fate history i = some (.discarded n)) :
    i < n ∧ ∃ event a start now, history[i]? = some event ∧ a < i ∧ Opens history a event.call.issue_key start ∧
      closedBy history event.call.issue_key a = some n ∧ Opens history n event.call.issue_key now ∧
      ¬now - start < final.window_seconds := by
  obtain ⟨event,closing,present,⟨delivery_id,dropped⟩,closed,found,closes,flush⟩ := fate_closed known (.inr rfl)
  obtain ⟨a,start,earlier,opens,same⟩ := ledger.anchored i event delivery_id present dropped
  have replaces : ∃ now, Opens history n event.call.issue_key now := by
    have kept : closing.isFlush = false := by
      rw [← Bool.not_eq_true,flush]
      exact nofun
    simp only [Event.closes,kept,Bool.false_or,Bool.and_eq_true,decide_eq_true_eq] at closes
    obtain ⟨own,emits⟩ := closes
    obtain ⟨now,opens⟩ := emission_opens found emits
    exact ⟨now,own ▸ opens⟩
  obtain ⟨now,replaces⟩ := replaces
  rw [closed] at same
  exact ⟨(closedBy_inside closed).1,event,a,start,now,present,earlier,opens,same,replaces,
    ledger.expired a n _ start now opens same replaces⟩

section
variable [DecidableLT Time]

theorem run_shaped (window : BurstWindow Time) (calls : List (Call Time)) {event : Event Time}
    (member : event ∈ (run window calls).1) : ∃ before, event.answer = (perform before event.call).1 := by
  induction calls generalizing window with
  | nil => cases member
  | cons call calls ih =>
    simp only [run,List.mem_cons] at member
    rcases member with rfl | later
    · exact ⟨window,rfl⟩
    · exact ih _ later

theorem coalesced_flush {window : BurstWindow Time} {calls : List (Call Time)}
    (ledger : Ledger (run window calls).1 (run window calls).2) {i n : Nat}
    (known : fate (run window calls).1 i = some (.coalesced n)) :
    i < n ∧ ∃ event delivery_id ids payload, (run window calls).1[i]? = some event ∧
      event.delivery = some (delivery_id,.coalesce_dropped) ∧ delivery_id ∈ ids ∧
      (run window calls).1[n]? = some ⟨.flush_window event.call.issue_key,.flushed (some (ids,payload))⟩ := by
  obtain ⟨event,closing,present,⟨delivery_id,dropped⟩,closed,found,closes,flush⟩ := fate_closed known (.inl rfl)
  have flushes : closing.isFlush = true := flush.mpr rfl
  obtain ⟨before,answered⟩ := run_shaped window calls (List.mem_of_getElem? found)
  obtain ⟨call,answer⟩ := closing
  cases call with
  | register issue_key delivery_id payload now => simp [Event.isFlush] at flushes
  | flush_window issue_key =>
    simp only [Event.closes,Bool.and_eq_true,decide_eq_true_eq] at closes
    have own : issue_key = event.call.issue_key := closes.1
    subst own
    have listed : delivery_id ∈ deliveries (run window calls).1 fun _ fate => fate = .coalesced n :=
      mem_deliveries present dropped known (by simp)
    simp only [perform] at answered
    rw [answered] at found
    rw [← ledger.flushed n _ _ found] at listed
    refine ⟨(closedBy_inside closed).1,event,delivery_id,?_⟩
    cases result : (before.flush_window event.call.issue_key).1 with
    | none => simp [result] at listed
    | some contents =>
      rw [result] at found listed
      exact ⟨contents.1,contents.2,present,dropped,listed,found⟩

theorem run_seconds (window : BurstWindow Time) (calls : List (Call Time)) :
    (run window calls).2.window_seconds = window.window_seconds := by
  induction calls generalizing window with
  | nil => rfl
  | cons call calls ih => exact (ih _).trans (performs_seconds (perform_performs window call))

/-- Every run of registrations and flushes, over any keys and with any clock,
    conserves its deliveries up to those that an expired window held when a later
    registration replaced it. -/
theorem deliveries_conserved (window_seconds : Time) (calls : List (Call Time)) :
    Conserved window_seconds calls (run (new window_seconds) calls).1 (run (new window_seconds) calls).2 := by
  have ledger : Ledger (run (new window_seconds) calls).1 (run (new window_seconds) calls).2 :=
    ledger_run (new window_seconds) [] (ledger_new window_seconds) calls
  refine ⟨fate_isSome,fate_emitted,ledger.flushed,fun i n => coalesced_flush ledger,ledger.held,?_,?_⟩
  · intro i n known
    have expired := discarded_expired ledger known
    rwa [run_seconds] at expired
  · intro issue_key
    obtain ⟨histories,-,buffers⟩ := run_restrict issue_key calls (new window_seconds) (new window_seconds) ⟨rfl,rfl⟩
    exact ⟨histories,buffers⟩

end

/-- The second delivery is coalesced into the window of the first, which no call
    flushes before the third replaces it: it is in no list and in no window. -/
theorem coalesced_then_replaced :
    let calls : List (Call Int) :=
      [.register "PAY-7" "d-1" [] 0,.register "PAY-7" "d-2" [] 1,.register "PAY-7" "d-3" [] 5]
    let (history,final) := run (new 3) calls
    history.map (fun event => event.delivery) =
        [some ("d-1",.coalesce_emit),some ("d-2",.coalesce_dropped),some ("d-3",.coalesce_emit)] ∧
      history.all (fun event => !event.isFlush) = true ∧ holding final "PAY-7" = [] ∧
      fate history 1 = some (.discarded 2) := by
  decide

end

end BurstWindow
end Automation
