import Automation.WebhookSecrets

/-!
Which secrets a verification accepts after any sequence of calls: the current one, and for
an hour the one that was current before the last rotation, unless that rotation has been
finalized since (`webhook_acceptance`). The history of a department's secret at a provider
is followed by a record of two secrets; the slots of the vault stand for that record.
-/
namespace Automation.WebhookAcceptance
open Automation.Calendar Automation.WebhookSecrets
open Automation.Sha256 (utf8)

section
variable (provider dept_id : Segment)

/-- The secret that a call makes the current one, and its time. -/
def rotation : Call → Option (String × Utc)
  | .rotate_webhook_secret p d new_secret now => if p = provider ∧ d = dept_id then some (new_secret,now) else none
  | .rotate d p new_secret now _ => if p = provider ∧ d = dept_id then some (new_secret,now) else none
  | _ => none

def finalizes : Call → Bool
  | .finalize d p => p = provider ∧ d = dept_id
  | _ => false

/-- The rotations of the pair, in their order. -/
def rotations (calls : List Call) : List (String × Utc) := calls.filterMap (rotation provider dept_id)

def current (start : Option String) (calls : List Call) : Option String :=
  ((rotations provider dept_id calls).getLast?.map Prod.fst).or start

/-- The secrets in play. -/
def held (start : Option String) (calls : List Call) : List String :=
  start.toList ++ (rotations provider dept_id calls).map Prod.fst

/-- No rotation and no finalization of the pair. -/
def Quiet (call : Call) : Prop := rotation provider dept_id call = none ∧ finalizes provider dept_id call = false

/-- The secret was current just before the last rotation, at the given time, and no finalization followed. -/
def Replaced (start : Option String) (calls : List Call) (secret : String) (rotated_at : Utc) : Prop :=
  ∃ before call after new_secret, calls = before ++ call :: after ∧
    rotation provider dept_id call = some (new_secret,rotated_at) ∧ (∀ later ∈ after, Quiet provider dept_id later) ∧
    current provider dept_id start before = some secret

def Accepted (start : Option String) (calls : List Call) (secret : String) (now : Datetime) : Prop :=
  current provider dept_id start calls = some secret ∨
    ∃ rotated_at, Replaced provider dept_id start calls secret rotated_at ∧
      now.instant < rotated_at.1.instant + WEBHOOK_ROTATION_OVERLAP

end

/-- The current secret, and the one before it with the time of its rotation. -/
structure Track where
  current : Option String
  replaced : Option (String × Utc)

namespace Track

def step (provider dept_id : Segment) (t : Track) (call : Call) : Track :=
  match rotation provider dept_id call with
  | some rotated => ⟨some rotated.1,t.current.map fun secret => (secret,rotated.2)⟩
  | none => if finalizes provider dept_id call then { t with replaced := none } else t

/-- The replaced secret, as long as it is valid. -/
def valid (t : Track) (now : Datetime) : Option String :=
  match t.replaced with
  | none => none
  | some kept => if now.instant < kept.2.1.instant + WEBHOOK_ROTATION_OVERLAP then some kept.1 else none

variable {provider dept_id : Segment} {start : Option String}

theorem step_rotation {t : Track} {call : Call} {rotated : String × Utc} (here : rotation provider dept_id call = some rotated) :
    t.step provider dept_id call = ⟨some rotated.1,t.current.map fun secret => (secret,rotated.2)⟩ := by
  rw [step,here]

theorem step_finalize {t : Track} {call : Call} (here : rotation provider dept_id call = none)
    (closes : finalizes provider dept_id call = true) : t.step provider dept_id call = { t with replaced := none } := by
  rw [step,here,closes]
  rfl

theorem step_quiet {t : Track} {call : Call} (quiet : Quiet provider dept_id call) : t.step provider dept_id call = t := by
  rw [step,quiet.1,quiet.2]
  rfl

/-- The record after a sequence of calls. -/
def after (provider dept_id : Segment) (start : Option String) (calls : List Call) : Track :=
  calls.foldl (step provider dept_id) ⟨start,none⟩

theorem after_concat (calls : List Call) (call : Call) :
    after provider dept_id start (calls ++ [call]) = (after provider dept_id start calls).step provider dept_id call := by
  rw [after,List.foldl_append]
  rfl

theorem current_concat (calls : List Call) (call : Call) :
    WebhookAcceptance.current provider dept_id start (calls ++ [call]) =
      ((rotation provider dept_id call).map Prod.fst).or (WebhookAcceptance.current provider dept_id start calls) := by
  cases here : rotation provider dept_id call with
  | none => simp [WebhookAcceptance.current,rotations,here]
  | some rotated => simp [WebhookAcceptance.current,rotations,here]

theorem after_current (calls : List Call) :
    (after provider dept_id start calls).current = WebhookAcceptance.current provider dept_id start calls := by
  induction calls using List.reverseRecOn with
  | nil => rfl
  | append_singleton calls call ih =>
    rw [after_concat,current_concat,← ih]
    cases here : rotation provider dept_id call with
    | some rotated =>
      rw [step_rotation here]
      rfl
    | none =>
      cases closes : finalizes provider dept_id call with
      | true =>
        rw [step_finalize here closes]
        rfl
      | false =>
        rw [step_quiet ⟨here,closes⟩]
        rfl

theorem replaced_concat (calls : List Call) (call : Call) (secret : String) (rotated_at : Utc) :
    Replaced provider dept_id start (calls ++ [call]) secret rotated_at ↔
      (∃ new_secret, rotation provider dept_id call = some (new_secret,rotated_at) ∧
        WebhookAcceptance.current provider dept_id start calls = some secret) ∨
      (Quiet provider dept_id call ∧ Replaced provider dept_id start calls secret rotated_at) := by
  constructor
  · rintro ⟨before,rotating,after,new_secret,split,rotates,quiet,was⟩
    obtain rfl | ⟨front,last,rfl⟩ := List.eq_nil_or_concat after
    · obtain ⟨rfl,same⟩ := List.append_inj' split rfl
      obtain rfl := List.head_eq_of_cons_eq same
      exact Or.inl ⟨new_secret,rotates,was⟩
    · rw [List.concat_eq_append] at split quiet
      rw [← List.cons_append,← List.append_assoc] at split
      obtain ⟨rfl,same⟩ := List.append_inj' split rfl
      obtain rfl := List.head_eq_of_cons_eq same
      refine Or.inr ⟨quiet call (by simp),before,rotating,front,new_secret,rfl,rotates,?_,was⟩
      intro later member
      exact quiet later (List.mem_append_left _ member)
  · rintro (⟨new_secret,rotates,was⟩ | ⟨last,before,rotating,after,new_secret,rfl,rotates,quiet,was⟩)
    · exact ⟨calls,call,[],new_secret,rfl,rotates,by simp,was⟩
    · refine ⟨before,rotating,after ++ [call],new_secret,by simp,rotates,?_,was⟩
      intro later member
      obtain early | final := List.mem_append.mp member
      · exact quiet later early
      · rw [List.mem_singleton.mp final]
        exact last

theorem after_replaced (calls : List Call) (secret : String) (rotated_at : Utc) :
    (after provider dept_id start calls).replaced = some (secret,rotated_at) ↔
      Replaced provider dept_id start calls secret rotated_at := by
  induction calls using List.reverseRecOn with
  | nil =>
    refine ⟨nofun,?_⟩
    rintro ⟨before,call,after,-,split,-⟩
    simp at split
  | append_singleton calls call ih =>
    rw [after_concat,replaced_concat]
    cases here : rotation provider dept_id call with
    | some rotated =>
      have loud : ¬Quiet provider dept_id call := by
        rintro ⟨none,-⟩
        rw [here] at none
        cases none
      rw [step_rotation here,after_current]
      simp only [loud,false_and,or_false,Option.map_eq_some_iff,Option.some.injEq]
      constructor
      · rintro ⟨old,was,same⟩
        obtain ⟨rfl,rfl⟩ := Prod.mk.inj same
        exact ⟨rotated.1,rfl,was⟩
      · rintro ⟨new_secret,rfl,was⟩
        exact ⟨secret,was,rfl⟩
    | none =>
      cases closes : finalizes provider dept_id call with
      | true =>
        have loud : ¬Quiet provider dept_id call := by
          rintro ⟨-,open_⟩
          rw [closes] at open_
          cases open_
        rw [step_finalize here closes]
        simp [loud]
      | false =>
        have quiet : Quiet provider dept_id call := ⟨here,closes⟩
        rw [step_quiet quiet,ih]
        simp [quiet]

theorem accepted_iff (calls : List Call) (secret : String) (now : Datetime) :
    Accepted provider dept_id start calls secret now ↔
      (after provider dept_id start calls).current = some secret ∨ (after provider dept_id start calls).valid now = some secret := by
  rw [Accepted,after_current]
  refine or_congr_right ?_
  simp only [← after_replaced,valid]
  cases (after provider dept_id start calls).replaced with
  | none => simp
  | some kept =>
    obtain ⟨old,rotated_at⟩ := kept
    simp only [Option.some.injEq,Prod.mk.injEq]
    constructor
    · rintro ⟨_,⟨rfl,rfl⟩,early⟩
      rw [if_pos early]
    · intro found
      split at found
      · next early => exact ⟨rotated_at,⟨Option.some.inj found,rfl⟩,early⟩
      · cases found

end Track

theorem slot_toList (provider dept_id : String) :
    (slot provider dept_id).toList = "webhooks/".toList ++ provider.toList ++ '/' :: dept_id.toList := by
  simp [slot]

/-- What may stand behind a department: nothing, or a slash and more. -/
def Suffix (text : List Char) : Prop := text = [] ∨ ∃ rest, text = '/' :: rest

theorem slash_inj {first second rest rest' : List Char} (plain : '/' ∉ first) (plain' : '/' ∉ second)
    (same : first ++ '/' :: rest = second ++ '/' :: rest') : first = second ∧ rest = rest' := by
  induction first generalizing second with
  | nil =>
    cases second with
    | nil => exact ⟨rfl,List.tail_eq_of_cons_eq same⟩
    | cons c second => exact absurd (List.head_eq_of_cons_eq same ▸ List.mem_cons_self) plain'
  | cons c first ih =>
    cases second with
    | nil => exact absurd (List.head_eq_of_cons_eq same ▸ List.mem_cons_self) plain
    | cons c' second =>
      obtain ⟨rfl,tails⟩ := List.cons.inj same
      obtain ⟨rfl,rests⟩ := ih (List.not_mem_of_not_mem_cons plain) (List.not_mem_of_not_mem_cons plain') tails
      exact ⟨rfl,rests⟩

theorem segment_inj {first second x y : List Char} (plain : '/' ∉ first) (plain' : '/' ∉ second) (left : Suffix x)
    (right : Suffix y) (same : first ++ x = second ++ y) : first = second ∧ x = y := by
  obtain rfl | ⟨rest,rfl⟩ := left
  · obtain rfl | ⟨rest',rfl⟩ := right
    · simpa using same
    · rw [List.append_nil] at same
      exact absurd (by rw [same]; simp) plain
  · obtain rfl | ⟨rest',rfl⟩ := right
    · rw [List.append_nil] at same
      exact absurd (by rw [← same]; simp) plain'
    · obtain ⟨texts,rests⟩ := slash_inj plain plain' same
      exact ⟨texts,by rw [rests]⟩

theorem path_inj {provider dept_id provider' dept_id' : Segment} {x y : String} (left : Suffix x.toList) (right : Suffix y.toList)
    (same : slot provider dept_id ++ x = slot provider' dept_id' ++ y) : (provider = provider' ∧ dept_id = dept_id') ∧ x = y := by
  have texts := congrArg String.toList same
  simp only [String.toList_append,slot_toList,List.append_assoc,List.cons_append,List.append_cancel_left_eq] at texts
  obtain ⟨providers,rests⟩ := slash_inj provider.2 provider'.2 texts
  obtain ⟨departments,suffixes⟩ := segment_inj dept_id.2 dept_id'.2 left right rests
  exact ⟨⟨Subtype.ext (String.toList_inj.mp providers),Subtype.ext (String.toList_inj.mp departments)⟩,String.toList_inj.mp suffixes⟩

theorem path_ne {provider dept_id provider' dept_id' : Segment} {x y : String} (left : Suffix x.toList) (right : Suffix y.toList)
    (different : ¬(provider' = provider ∧ dept_id' = dept_id) ∨ x ≠ y) :
    slot provider dept_id ++ x ≠ slot provider' dept_id' ++ y := by
  intro same
  obtain ⟨⟨rfl,rfl⟩,suffixes⟩ := path_inj left right same
  exact different.elim (fun apart => apart ⟨rfl,rfl⟩) fun apart => apart suffixes

theorem orRaise_ok {α : Type} {raised : Raised} {x : Option α} {a : α} (done : orRaise raised x = .ok a) : x = some a := by
  cases x with
  | none => cases done
  | some b => rw [Except.ok.inj done]

theorem parse_ok {path found : String} (parsed : parse ("vault:" ++ path) = .ok found) : found = path := by
  have accepted := orRaise_ok parsed
  simp only [RunnerRecords.VaultPath.parse,RunnerRecords.reference_path] at accepted
  split at accepted
  · exact (Option.some.inj accepted).symm
  · cases accepted

theorem active_ok {provider dept_id found : String} (parsed : active provider dept_id = .ok found) : found = slot provider dept_id :=
  parse_ok parsed

theorem previous_ok {provider dept_id found : String} (parsed : previous provider dept_id = .ok found) :
    found = slot provider dept_id ++ "/previous" := by
  rw [previous,String.append_assoc] at parsed
  exact parse_ok parsed

theorem meta_ok {provider dept_id found : String} (parsed : rotation_meta provider dept_id = .ok found) :
    found = slot provider dept_id ++ "/meta" := by
  rw [rotation_meta,String.append_assoc] at parsed
  exact parse_ok parsed

theorem bind_ok {α β : Type} {x : Except Raised α} {f : α → Except Raised β} {b : β} (done : (x >>= f) = .ok b) :
    ∃ a, x = .ok a ∧ f a = .ok b := by
  cases x with
  | error raised => cases done
  | ok a => exact ⟨a,rfl,done⟩

theorem rotated {store store' : Store} {provider dept_id new_secret : String} {now : Utc}
    (done : HashicorpBackend.rotate_webhook_secret store provider dept_id new_secret now = .ok store') :
    (store (slot provider dept_id) = none ∧ store' = Function.update store (slot provider dept_id) (some (fresh new_secret))) ∨
      ∃ old overlap_until, store (slot provider dept_id) = some old ∧
        now.1.add WEBHOOK_ROTATION_OVERLAP = some overlap_until ∧
        store' = Function.update
          (Function.update store (slot provider dept_id ++ "/previous") (some (stashed old overlap_until)))
          (slot provider dept_id) (some (fresh new_secret)) := by
  unfold HashicorpBackend.rotate_webhook_secret at done
  obtain ⟨active_path,parsed,done⟩ := bind_ok done
  obtain rfl := active_ok parsed
  obtain ⟨previous_path,parsed,done⟩ := bind_ok done
  obtain rfl := previous_ok parsed
  obtain ⟨kept,stash,done⟩ := bind_ok done
  obtain rfl := Except.ok.inj done
  cases here : store (slot provider dept_id) with
  | none =>
    rw [here] at stash
    obtain rfl := Except.ok.inj stash
    exact Or.inl ⟨rfl,rfl⟩
  | some old =>
    rw [here] at stash
    obtain ⟨overlap_until,time,stash⟩ := bind_ok stash
    obtain rfl := Except.ok.inj stash
    exact Or.inr ⟨old,overlap_until,rfl,orRaise_ok time,rfl⟩

theorem finalized {store store' : Store} {provider dept_id : String}
    (done : finalize HashicorpBackend.client store dept_id provider = .ok store') :
    store' = Function.update store (slot provider dept_id ++ "/previous") none := by
  obtain ⟨-,-,done⟩ := bind_ok done
  obtain ⟨previous_path,parsed,done⟩ := bind_ok done
  obtain rfl := previous_ok parsed
  exact (Except.ok.inj done).symm

theorem rotated_meta {store store' : Store} {provider dept_id new_secret : String} {now later : Utc}
    (done : rotate HashicorpBackend.client store dept_id provider new_secret now later = .ok store') :
    ∃ store₁ data, HashicorpBackend.rotate_webhook_secret store provider dept_id new_secret now = .ok store₁ ∧
      store' = Function.update store₁ (slot provider dept_id ++ "/meta") (some data) := by
  obtain ⟨-,-,done⟩ := bind_ok done
  obtain ⟨store₁,rotation,done⟩ := bind_ok done
  obtain ⟨meta_path,parsed,done⟩ := bind_ok done
  obtain rfl := meta_ok parsed
  exact ⟨store₁,_,rotation,(Except.ok.inj done).symm⟩

structure Tracks (provider dept_id : String) (t : Track) (store : Store) : Prop where
  current : secret_of (store (slot provider dept_id)) = t.current
  /-- Without a current secret there is none before it. -/
  absent : store (slot provider dept_id) = none → store (slot provider dept_id ++ "/previous") = none
  valid : ∀ now, open_secret now (store (slot provider dept_id ++ "/previous")) = t.valid now

theorem isoformat_ne (d : Datetime) : isoformat d ≠ "" := by
  intro empty
  have chars := String.ofList_eq_empty_iff.mp empty
  simp at chars

theorem open_payload {payload : Payload} {overlap_until : Datetime} (utc : overlap_until.utcoffset = some 0)
    (stamp : payload.get? "overlap_until" = some (isoformat overlap_until)) (now : Datetime) :
    open_secret now (some payload) = if now.instant < overlap_until.instant then secret_of (some payload) else none := by
  have parsed : parse_overlap_until payload = some overlap_until := by
    rw [parse_overlap_until,stamp]
    simp only [isoformat_ne,if_false]
    exact fromisoformat_isoformat overlap_until utc
  have aware : ∀ d : Datetime, (ensure_aware d).instant = d.instant := fun d => rfl
  simp only [open_secret,Option.any_some,still_open,parsed,aware,decide_eq_true_eq]

theorem open_stashed (old : Payload) {rotated_at : Utc} {overlap_until : Datetime}
    (added : rotated_at.1.add WEBHOOK_ROTATION_OVERLAP = some overlap_until) (now : Datetime) :
    open_secret now (some (stashed old overlap_until)) =
      if now.instant < rotated_at.1.instant + WEBHOOK_ROTATION_OVERLAP then secret_of (some old) else none := by
  obtain ⟨utc,instant⟩ := add_utc rotated_at.2 added
  have stamp : (stashed old overlap_until).get? "overlap_until" = some (isoformat overlap_until) := by
    rw [stashed,Dict.get?_set,if_pos rfl]
  have secret : secret_of (some (stashed old overlap_until)) = secret_of (some old) := by
    simp [secret_of,stashed,Dict.get?_set]
  rw [open_payload utc stamp,instant,secret]

section
variable {provider dept_id : Segment} {t : Track} {store store' : Store}

theorem Tracks.congr (tracks : Tracks provider dept_id t store)
    (here : store' (slot provider dept_id) = store (slot provider dept_id))
    (behind : store' (slot provider dept_id ++ "/previous") = store (slot provider dept_id ++ "/previous")) :
    Tracks provider dept_id t store' where
  current := by rw [here,tracks.current]
  absent := by
    rw [here,behind]
    exact tracks.absent
  valid := by
    rw [behind]
    exact tracks.valid

theorem bare_suffix : Suffix "".toList := Or.inl rfl
theorem previous_suffix : Suffix "/previous".toList := Or.inr ⟨"previous".toList,by decide⟩
theorem meta_suffix : Suffix "/meta".toList := Or.inr ⟨"meta".toList,by decide⟩

variable {provider' dept_id' : Segment}

theorem active_ne {x : String} (suffix : Suffix x.toList)
    (different : ¬(provider' = provider ∧ dept_id' = dept_id) ∨ x ≠ "") :
    slot provider dept_id ≠ slot provider' dept_id' ++ x := by
  have apart : slot provider dept_id ++ "" ≠ slot provider' dept_id' ++ x :=
    path_ne bare_suffix suffix (different.imp_right Ne.symm)
  rwa [String.append_empty] at apart

theorem previous_ne {x : String} (suffix : Suffix x.toList)
    (different : ¬(provider' = provider ∧ dept_id' = dept_id) ∨ x ≠ "/previous") :
    slot provider dept_id ++ "/previous" ≠ slot provider' dept_id' ++ x :=
  path_ne previous_suffix suffix (different.imp_right Ne.symm)

/-- What is written to the path of another pair, or to a third path of this one, leaves the slots as they are. -/
theorem Tracks.write_other (tracks : Tracks provider dept_id t store) {x : String}
    (suffix : Suffix x.toList) (different : ¬(provider' = provider ∧ dept_id' = dept_id) ∨ (x ≠ "" ∧ x ≠ "/previous"))
    (data : Option Payload) : Tracks provider dept_id t (Function.update store (slot provider' dept_id' ++ x) data) :=
  tracks.congr (Function.update_of_ne (active_ne suffix (different.imp_right And.left)) ..)
    (Function.update_of_ne (previous_ne suffix (different.imp_right And.right)) ..)

theorem Tracks.write_active (tracks : Tracks provider dept_id t store)
    (different : ¬(provider' = provider ∧ dept_id' = dept_id)) (data : Option Payload) :
    Tracks provider dept_id t (Function.update store (slot provider' dept_id') data) := by
  have written := tracks.write_other bare_suffix (Or.inl different) data
  rwa [String.append_empty] at written

theorem secret_of_fresh (new_secret : String) : secret_of (some (fresh new_secret)) = some new_secret := by
  simp [secret_of,fresh,Dict.ofItems,Dict.get?_set]

/-- A rotation of the pair moves the record on. -/
theorem Tracks.rotated (tracks : Tracks provider dept_id t store) {new_secret : String} {now : Utc}
    (done : HashicorpBackend.rotate_webhook_secret store provider dept_id new_secret now = .ok store') :
    Tracks provider dept_id ⟨some new_secret,t.current.map fun secret => (secret,now)⟩ store' := by
  have apart : slot provider dept_id ++ "/previous" ≠ slot provider dept_id := by
    have different : slot provider dept_id ++ "/previous" ≠ slot provider dept_id ++ "" :=
      previous_ne bare_suffix (Or.inr (by decide))
    rwa [String.append_empty] at different
  obtain ⟨bare,rfl⟩ | ⟨old,overlap_until,present,added,rfl⟩ := WebhookAcceptance.rotated done
  · have without : t.current = none := by
      rw [← tracks.current,bare]
      rfl
    refine ⟨?_,?_,?_⟩
    · rw [Function.update_self,secret_of_fresh]
    · intro absent
      rw [Function.update_self] at absent
      cases absent
    · intro now
      rw [Function.update_of_ne apart,tracks.absent bare,without]
      rfl
  · refine ⟨?_,?_,?_⟩
    · rw [Function.update_self,secret_of_fresh]
    · intro absent
      rw [Function.update_self] at absent
      cases absent
    · intro later
      rw [Function.update_of_ne apart,Function.update_self,open_stashed old added,← present,tracks.current]
      cases t.current with
      | none => simp [Track.valid]
      | some secret => rfl

theorem Tracks.rotate_step (tracks : Tracks provider dept_id t store) {new_secret : String} {now : Utc}
    {call : Call} (here : rotation provider dept_id call = if provider' = provider ∧ dept_id' = dept_id then some (new_secret,now) else none)
    (quiet : finalizes provider dept_id call = false)
    (done : HashicorpBackend.rotate_webhook_secret store provider' dept_id' new_secret now = .ok store') :
    Tracks provider dept_id (t.step provider dept_id call) store' := by
  by_cases same : provider' = provider ∧ dept_id' = dept_id
  · rw [if_pos same] at here
    obtain ⟨rfl,rfl⟩ := same
    rw [Track.step_rotation here]
    exact tracks.rotated done
  · rw [if_neg same] at here
    rw [Track.step_quiet ⟨here,quiet⟩]
    obtain ⟨-,rfl⟩ | ⟨old,overlap_until,-,-,rfl⟩ := WebhookAcceptance.rotated done
    · exact tracks.write_active same _
    · exact (tracks.write_other previous_suffix (Or.inl same) _).write_active same _

theorem Tracks.perform (tracks : Tracks provider dept_id t store) {call : Call} {answers : List Bool}
    (done : perform HashicorpBackend.client store call = .ok (store',answers)) :
    Tracks provider dept_id (t.step provider dept_id call) store' := by
  cases call with
  | rotate_webhook_secret provider' dept_id' new_secret now =>
    obtain ⟨after,rotation,done⟩ := bind_ok done
    obtain ⟨rfl,-⟩ := Prod.mk.inj (Except.ok.inj done)
    exact tracks.rotate_step rfl rfl rotation
  | rotate dept_id' provider' new_secret now later =>
    obtain ⟨after,rotation,done⟩ := bind_ok done
    obtain ⟨rfl,-⟩ := Prod.mk.inj (Except.ok.inj done)
    obtain ⟨store₁,data,inner,rfl⟩ := rotated_meta rotation
    have stepped : Tracks provider dept_id (t.step provider dept_id (.rotate dept_id' provider' new_secret now later)) store₁ :=
      tracks.rotate_step rfl rfl inner
    exact stepped.write_other meta_suffix (Or.inr ⟨by decide,by decide⟩) _
  | finalize dept_id' provider' =>
    obtain ⟨after,finalization,done⟩ := bind_ok done
    obtain ⟨rfl,-⟩ := Prod.mk.inj (Except.ok.inj done)
    obtain rfl := finalized finalization
    by_cases same : provider' = provider ∧ dept_id' = dept_id
    · rw [Track.step_finalize rfl (by simp [finalizes,same])]
      obtain ⟨rfl,rfl⟩ := same
      have apart : slot provider' dept_id' ≠ slot provider' dept_id' ++ "/previous" :=
        active_ne previous_suffix (Or.inr (by decide))
      refine ⟨?_,fun _ => Function.update_self ..,?_⟩
      · rw [Function.update_of_ne apart,tracks.current]
      · intro now
        rw [Function.update_self]
        rfl
    · rw [Track.step_quiet ⟨rfl,by simp [finalizes,same]⟩]
      exact tracks.write_other previous_suffix (Or.inl same) _
  | verify_webhook_hmac provider' dept_id' body signature now =>
    obtain ⟨answer,-,done⟩ := bind_ok done
    obtain ⟨rfl,-⟩ := Prod.mk.inj (Except.ok.inj done)
    rw [Track.step_quiet ⟨rfl,rfl⟩]
    exact tracks

theorem Tracks.run (tracks : Tracks provider dept_id t store) {calls : List Call} {answers : List Bool}
    (done : run HashicorpBackend.client store calls = .ok (store',answers)) :
    Tracks provider dept_id (calls.foldl (Track.step provider dept_id) t) store' := by
  induction calls generalizing t store answers with
  | nil =>
    obtain ⟨rfl,-⟩ := Prod.mk.inj (Except.ok.inj done)
    exact tracks
  | cons call calls ih =>
    obtain ⟨first,performed,done⟩ := bind_ok done
    obtain ⟨rest,ran,done⟩ := bind_ok done
    obtain ⟨rfl,-⟩ := Prod.mk.inj (Except.ok.inj done)
    exact ih (tracks.perform performed) ran

end

theorem hmac_hexdigest_ne (secret : String) (body : List UInt8) : hmac_hexdigest secret body ≠ "" :=
  Sha256.hex_ne (Sha256.sha256_ne_nil _)

theorem hmac_hexdigest_ascii (secret : String) (body : List UInt8) : (hmac_hexdigest secret body).toList.all (·.toNat < 128) = true := by
  rw [List.all_eq_true]
  intro c member
  exact decide_eq_true (Sha256.hex_ascii _ member)

theorem signature_matches_signature (other secret : String) (body : List UInt8) :
    signature_matches other body (signature_of secret body) = .ok (hmac_hexdigest other body == hmac_hexdigest secret body) := by
  have marked : PyText.hasPrefix (signature_of secret body) ALGORITHM_PREFIX = true := by
    rw [PyText.hasPrefix,PyText.startsWith_iff,signature_of,String.toList_append]
    exact List.prefix_append ..
  have filled : signature_of secret body ≠ "" := by
    rw [signature_of,ne_eq,← String.toList_eq_nil_iff,String.toList_append]
    exact List.append_ne_nil_of_left_ne_nil (by decide) _
  have received : PyText.dropChars ALGORITHM_PREFIX.length (signature_of secret body) = hmac_hexdigest secret body := by
    rw [PyText.dropChars,signature_of,String.toList_append,List.drop_left' (by decide),String.ofList_toList]
  simp only [signature_matches,marked,filled,received,hmac_hexdigest_ne,compare_digest,hmac_hexdigest_ascii,if_false,
    if_true,and_self,or_self,Bool.true_eq_false]

theorem tried_signature (kept : Option String) (secret : String) (body : List UInt8) :
    tried kept body (signature_of secret body) = .ok (kept.any fun other => hmac_hexdigest other body == hmac_hexdigest secret body) := by
  cases kept with
  | none => rfl
  | some other => exact signature_matches_signature other secret body

theorem read_or_none_store (store : Store) (path : String) : read_or_none HashicorpBackend.client store path = .ok (store path) := by
  cases here : store path <;> simp only [read_or_none,HashicorpBackend.client,HashicorpBackend.read,here]

section
variable {provider dept_id : Segment} {start : Option String} {calls : List Call} {store : Store}

/-- What a verification answers is read off the record. -/
theorem Tracks.verify {t : Track} (tracks : Tracks provider dept_id t store) {secret : String} {body : List UInt8} {now : Datetime}
    {answer : Bool} (done : verify_webhook_hmac HashicorpBackend.client store provider dept_id body (signature_of secret body) now = .ok answer) :
    answer = true ↔ ∃ other, (t.current = some other ∨ t.valid now = some other) ∧ hmac_hexdigest other body = hmac_hexdigest secret body := by
  obtain ⟨-,-,done⟩ := bind_ok done
  obtain ⟨active_path,parsed,done⟩ := bind_ok done
  obtain rfl := active_ok parsed
  obtain ⟨previous_path,parsed,done⟩ := bind_ok done
  obtain rfl := previous_ok parsed
  simp only [read_or_none_store,bind,Except.bind,tracks.current,tracks.valid,tried_signature] at done
  rw [← Except.ok.inj done]
  simp only [Bool.or_eq_true,Option.any_eq_true,beq_iff_eq]
  constructor
  · rintro (⟨other,kept,same⟩ | ⟨other,kept,same⟩)
    · exact ⟨other,Or.inl kept,same⟩
    · exact ⟨other,Or.inr kept,same⟩
  · rintro ⟨other,kept | kept,same⟩
    · exact Or.inl ⟨other,kept,same⟩
    · exact Or.inr ⟨other,kept,same⟩

theorem current_held {secret : String} (here : current provider dept_id start calls = some secret) :
    secret ∈ held provider dept_id start calls := by
  rw [current,Option.or_eq_some_iff] at here
  rw [held,List.mem_append]
  obtain last | ⟨-,first⟩ := here
  · obtain ⟨rotated,final,rfl⟩ := Option.map_eq_some_iff.mp last
    exact Or.inr (List.mem_map_of_mem (List.mem_of_getLast? final))
  · exact Or.inl (by rw [first]; exact List.mem_singleton_self _)

theorem held_append {secret : String} (rest : List Call) (here : secret ∈ held provider dept_id start calls) :
    secret ∈ held provider dept_id start (calls ++ rest) := by
  rw [held,List.mem_append] at here ⊢
  refine here.imp_right fun rotated => ?_
  rw [rotations,List.filterMap_append,List.map_append]
  exact List.mem_append_left _ rotated

theorem accepted_held {secret : String} {now : Datetime} (here : Accepted provider dept_id start calls secret now) :
    secret ∈ held provider dept_id start calls := by
  obtain here | ⟨rotated_at,⟨before,call,after,new_secret,rfl,-,-,was⟩,-⟩ := here
  · exact current_held here
  · exact held_append _ (current_held was)

end

/-- A vault and a file with the same secrets, before any rotation. -/
structure Deployment where
  key : List UInt8
  disk : Disk
  store : Store
  mirrors : LocalDevBackend.Mirrors key disk store
  unrotated : ∀ provider dept_id : Segment, store (slot provider dept_id ++ "/previous") = none

/-- The secret at the start. -/
def Deployment.secret (deployment : Deployment) (provider dept_id : Segment) : Option String :=
  secret_of (deployment.store (slot provider dept_id))

/-- On either backend, a signature is accepted exactly for the current secret and, within an
    hour, for the one that the last rotation replaced; and the backends answer the same. -/
theorem webhook_acceptance (deployment : Deployment) (calls : List Call) (provider dept_id : Segment) (secret : String)
    (body : List UInt8) (now : Datetime)
    (collision_free : ∀ other ∈ held provider dept_id (deployment.secret provider dept_id) calls,
      Sha256.hmac (utf8 other) body = Sha256.hmac (utf8 secret) body → other = secret) :
    (∀ store answers, run HashicorpBackend.client deployment.store calls = .ok (store,answers) →
      ∀ answer, verify_webhook_hmac HashicorpBackend.client store provider dept_id body (signature_of secret body) now = .ok answer →
        (answer = true ↔ Accepted provider dept_id (deployment.secret provider dept_id) calls secret now)) ∧
    (∀ disk answers, run (LocalDevBackend.client deployment.key) deployment.disk calls = .ok (disk,answers) →
      ∀ answer, verify_webhook_hmac (LocalDevBackend.client deployment.key) disk provider dept_id body (signature_of secret body) now =
          .ok answer →
        (answer = true ↔ Accepted provider dept_id (deployment.secret provider dept_id) calls secret now)) ∧
    (run (LocalDevBackend.client deployment.key) deployment.disk calls).map Prod.snd =
      (run HashicorpBackend.client deployment.store calls).map Prod.snd := by
  have vault : ∀ store answers, run HashicorpBackend.client deployment.store calls = .ok (store,answers) →
      ∀ answer, verify_webhook_hmac HashicorpBackend.client store provider dept_id body (signature_of secret body) now = .ok answer →
        (answer = true ↔ Accepted provider dept_id (deployment.secret provider dept_id) calls secret now) := by
    intro store answers ran answer verified
    have start : Tracks provider dept_id ⟨deployment.secret provider dept_id,none⟩ deployment.store := by
      refine ⟨rfl,fun _ => deployment.unrotated provider dept_id,fun later => ?_⟩
      rw [deployment.unrotated]
      rfl
    rw [(start.run ran).verify verified,Track.accepted_iff]
    constructor
    · rintro ⟨other,kept,same⟩
      have accepted := (Track.accepted_iff calls other now).mpr kept
      obtain rfl := collision_free other (accepted_held accepted) (Sha256.hex_inj same)
      exact kept
    · intro kept
      exact ⟨secret,kept,rfl⟩
  have same := LocalDevBackend.run_local deployment.mirrors calls
  refine ⟨vault,?_,?_⟩
  · intro disk answers ran answer verified
    rw [ran] at same
    generalize other : run HashicorpBackend.client deployment.store calls = result at same
    cases same with
    | ok related =>
      refine vault _ _ other answer ?_
      rw [← verify_same (LocalDevBackend.simulates deployment.key) related.1]
      exact verified
  · generalize run (LocalDevBackend.client deployment.key) deployment.disk calls = left at same ⊢
    generalize run HashicorpBackend.client deployment.store calls = right at same ⊢
    cases same with
    | error raised => rfl
    | ok related => exact congrArg Except.ok related.2

/-- A first start: the vault is empty, and there is no file. -/
def Deployment.first_start (key : List UInt8) (random : Nat → SecretBox.Nonce) : Deployment where
  key := key
  disk := ⟨none,random⟩
  store := fun _ => none
  mirrors := ⟨.empty,rfl,fun _ => rfl⟩
  unrotated := fun _ _ => rfl

def jira : Segment := ⟨"jira",by decide⟩

def payments : Segment := ⟨"payments",by decide⟩

/-- A point of 1970, so many seconds in. -/
def seconds (n : Nat) (inside : 719162 * DAY + n * 1000000 < MAXORDINAL * DAY) : Utc := ⟨⟨719162 * DAY + n * 1000000,some 0,inside⟩,rfl⟩

def two_rotations : List Call :=
  [.rotate_webhook_secret jira payments "first" (seconds 0 (by decide)),
    .rotate payments jira "second" (seconds 600 (by decide)) (seconds 601 (by decide))]

theorem webhook_acceptance_rotated :
    ∃ store, run HashicorpBackend.client (fun _ => none) two_rotations = .ok (store,[]) ∧
      (verify_webhook_hmac HashicorpBackend.client store "jira" "payments" [123,125] (signature_of "first" [123,125])
          (seconds 4199 (by decide)).1 = .ok true ↔
        Accepted jira payments none two_rotations "first" (seconds 4199 (by decide)).1) := by
  have accepted := webhook_acceptance (.first_start (List.replicate 32 7) fun _ => ⟨List.replicate 24 0,rfl⟩) two_rotations jira
    payments "first" [123,125] (seconds 4199 (by decide)).1 (by decide +kernel)
  refine ⟨_,rfl,fun verified => ?_,fun kept => ?_⟩
  · exact (accepted.1 _ [] rfl true verified).mp rfl
  · decide +kernel

end Automation.WebhookAcceptance
