import Automation.Dict
import Automation.Effects
import Automation.PromptPromotion

/-!
The prompt loader between its roots and its cache. A pass of the poll loop reads each
cached prompt again, stats it and keeps the fresh text where the mtime advanced; edits of
the roots and calls of `load` come between any two of these steps. What a pass makes of
a cached prompt depends on the mtimes alone (`Refreshed`), so that it serves the selected
file where every edit advanced the mtime (`hot_reload_converges`).
-/
namespace Automation.PromptReload
open Automation.Effects
open Automation.PromptPromotion (validate_template_format)

/-- A file as `read_text` and `stat` see it; it has no text where it is not UTF-8. -/
structure File where
  text : Option String
  mtime : Rat

/-- The files `<root>/<name>.md`, by root and name. -/
abbrev Disk := String → String → Option File

structure Path where
  root : String
  name : String

inductive Failure where
  | PromptNotFoundError
  | FileNotFoundError
  | UnicodeDecodeError
  | PromptTemplateError

def resolve (roots : List String) (disk : Disk) (name : String) : Except Failure Path :=
  match roots.find? fun root => (disk root name).isSome with
  | some root => .ok ⟨root,name⟩
  | none => .error .PromptNotFoundError

def read_text (disk : Disk) (path : Path) : Except Failure String :=
  match disk path.root path.name with
  | none => .error .FileNotFoundError
  | some ⟨none,_⟩ => .error .UnicodeDecodeError
  | some ⟨some body,_⟩ => .ok body

def stat (disk : Disk) (path : Path) : Except Failure Rat :=
  match disk path.root path.name with
  | none => .error .FileNotFoundError
  | some file => .ok file.mtime

structure PromptEntry where
  body : String
  mtime : Rat
  git_hash : String

/-- `_read` up to the validated text. -/
def read_body (roots : List String) (disk : Disk) (name : String) : Except Failure (Path × String) :=
  match resolve roots disk name with
  | .error failure => .error failure
  | .ok path =>
    match read_text disk path with
    | .error failure => .error failure
    | .ok body => if validate_template_format body then .ok (path,body) else .error .PromptTemplateError

/-- `_read`. The text is read from `disk`; by the time of `stat` the roots hold `later`. -/
def read (roots : List String) (disk later : Disk) (git_hash name : String) : Except Failure PromptEntry :=
  match read_body roots disk name with
  | .error failure => .error failure
  | .ok (path,body) =>
    match stat later path with
    | .error failure => .error failure
    | .ok mtime => .ok ⟨body,mtime,git_hash⟩

/-- Where the poll loop stands: asleep, before the next name, or between the text and
    the mtime of one. -/
inductive Poll where
  | asleep
  | reading (names : List String)
  | stating (name : String) (path : Path) (body : String) (names : List String)

structure State where
  disk : Disk
  cache : Dict String PromptEntry
  poll : Poll

def boot (disk : Disk) : State := ⟨disk,Dict.empty,.asleep⟩

/-- `load(name)`. `later` is what the roots hold by the time of its `stat`. -/
def load (roots : List String) (s : State) (name : String) (later : Disk) (git_hash : String) :
    Except Failure String × State :=
  match s.cache.get? name with
  | some entry => (.ok entry.body,{ s with disk := later })
  | none =>
    match read roots s.disk later git_hash name with
    | .error failure => (.error failure,{ s with disk := later })
    | .ok entry => (.ok entry.body,{ s with disk := later,cache := s.cache.set name entry })

/-- What the poll loop does with a fresh read. -/
def refresh (cache : Dict String PromptEntry) (name : String) (fresh : PromptEntry) : Dict String PromptEntry :=
  match cache.get? name with
  | none => cache
  | some cached => if cached.mtime < fresh.mtime then cache.set name fresh else cache

/-- One step of `poll_loop`, which is awake. -/
def poll_step (s : State) (roots : List String) (git_hash : String) : State :=
  match s.poll with
  | .asleep => s
  | .reading [] => { s with poll := .asleep }
  | .reading (name :: names) =>
    match read_body roots s.disk name with
    | .error _ => { s with poll := .reading names }
    | .ok (path,body) => { s with poll := .stating name path body names }
  | .stating name path body names =>
    match stat s.disk path with
    | .error _ => { s with poll := .reading names }
    | .ok mtime => { s with cache := refresh s.cache name ⟨body,mtime,git_hash⟩,poll := .reading names }

def wake (s : State) : State :=
  match s.poll with
  | .asleep => { s with poll := .reading (s.cache.items.map Prod.fst) }
  | _ => s

inductive Action where
  /-- Files are replaced, restored, added or removed until the roots hold `disk`. -/
  | edit (disk : Disk)
  /-- A call of `load`; `between` is an edit between its text and its mtime. -/
  | load (name : String) (between : Option Disk) (git_hash : String)
  | wake
  | poll (git_hash : String)

def step (roots : List String) (s : State) : Action → State
  | .edit disk => { s with disk }
  | .load name between git_hash => (load roots s name (between.getD s.disk) git_hash).2
  | .wake => wake s
  | .poll git_hash => poll_step s roots git_hash

abbrev run (roots : List String) (s : State) (actions : List Action) : State := actions.foldl (step roots) s

/-- The text and the mtime of the file that `_resolve` selects, where the text is valid. -/
def selected (roots : List String) (disk : Disk) (name : String) : Option (String × Rat) :=
  match resolve roots disk name with
  | .error _ => none
  | .ok path =>
    match disk path.root path.name with
    | some ⟨some body,mtime⟩ => if validate_template_format body then some (body,mtime) else none
    | _ => none

/-- An action of a pass during which no file changes. -/
def Action.quiet : Action → Prop
  | .edit _ => False
  | .load _ between _ => between = none
  | .wake => False
  | .poll _ => True

/-- `last` comes after a pass of the poll loop from `start` on, with calls of `load` among
    its steps and without edits. -/
structure Pass (roots : List String) (start last : State) : Prop where
  started : start.poll = .asleep
  ended : last.poll = .asleep
  steps : ∃ actions, (∀ a ∈ actions, a.quiet) ∧ last = run roots (wake start) actions

/-- `load(name)` returns `body`. -/
def Serves (roots : List String) (s : State) (name body : String) : Prop :=
  ∀ later git_hash, (load roots s name later git_hash).1 = .ok body

/-- After a pass the selected text is served where it is valid, and otherwise the valid
    text that was served before. -/
def Converged (roots : List String) (start last : State) (name : String) : Prop :=
  match selected roots last.disk name with
  | some (body,_) => Serves roots last name body
  | none => ∃ body, validate_template_format body = true ∧ Serves roots start name body ∧ Serves roots last name body

/-- What a pass makes of a prompt: the valid text of the selected file if its mtime is
    later than that of the cached entry, and the cached text otherwise. A prompt that
    was loaded during the pass has the selected text. -/
def Refreshed (roots : List String) (start last : State) (name body : String) : Prop :=
  match start.cache.get? name,selected roots last.disk name with
  | some old,some (fresh,mtime) => body = if old.mtime < mtime then fresh else old.body
  | some old,none => body = old.body
  | none,some (fresh,_) => body = fresh
  | none,none => False

/-- The prompt hot-reload converges. -/
def Converges : Prop :=
  ∀ roots disk history last, Pass roots (run roots (boot disk) history) last → ∀ name,
    (last.cache.get? name).isSome → Converged roots (run roots (boot disk) history) last name

/-- The poll loop is between the text and the mtime of `name`. -/
def Poll.states (name : String) : Poll → Prop
  | .stating current _ _ _ => current = name
  | _ => False

/-- The selected file of `disk` has the cached text of `name`, or a later mtime. -/
def Advances (roots : List String) (s : State) (disk : Disk) (name : String) : Prop :=
  ∀ old, s.cache.get? name = some old → ∀ body mtime, selected roots disk name = some (body,mtime) →
    body = old.body ∨ old.mtime < mtime

/-- An edit advances the mtime of `name`, and none comes between the text and the mtime of
    one read of it. -/
def Advancing (roots : List String) (name : String) (s : State) : Action → Prop
  | .edit disk =>
    Advances roots s disk name ∧ (s.poll.states name → selected roots disk name = selected roots s.disk name)
  | .load other (some disk) _ =>
    Advances roots s disk name ∧
      (other = name ∧ s.cache.get? name = none ∨ s.poll.states name → selected roots disk name = selected roots s.disk name)
  | .load _ none _ => True
  | .wake => True
  | .poll _ => True

section
variable {roots : List String} {disk : Disk} {name body : String} {mtime : Rat} {s : State}

theorem selected_valid (found : selected roots disk name = some (body,mtime)) : validate_template_format body = true := by
  unfold selected at found
  split at found
  · cases found
  · split at found
    · split at found
      · next valid => cases found; exact valid
      · cases found
    · cases found

theorem read_body_ok {path : Path} (returned : read_body roots disk name = .ok (path,body)) :
    ∃ mtime, stat disk path = .ok mtime ∧ selected roots disk name = some (body,mtime) := by
  unfold read_body at returned
  split at returned
  · cases returned
  · next found resolved =>
    split at returned
    · cases returned
    · next text read =>
      split at returned
      · next valid =>
        cases returned
        unfold read_text at read
        split at read
        · cases read
        · cases read
        · next mtime file =>
          cases read
          refine ⟨mtime,by rw [stat,file],?_⟩
          unfold selected
          rw [resolved]
          simp only [file]
          rw [if_pos valid]
      · cases returned

theorem read_body_error {failure : Failure} (raised : read_body roots disk name = .error failure) :
    selected roots disk name = none := by
  cases found : selected roots disk name with
  | none => rfl
  | some file =>
    have valid : validate_template_format file.1 = true := selected_valid found
    unfold selected at found
    split at found
    · cases found
    · next path resolved =>
      split at found
      · next text mtime present =>
        split at found
        · cases found
          simp only [read_body,resolved,read_text,present] at raised
          rw [if_pos valid] at raised
          cases raised
        · cases found
      · cases found

theorem get?_refresh (cache : Dict String PromptEntry) (name other : String) (fresh : PromptEntry) :
    (refresh cache name fresh).get? other =
      match cache.get? other with
      | some cached => if other = name ∧ cached.mtime < fresh.mtime then some fresh else some cached
      | none => none := by
  unfold refresh
  by_cases same : other = name
  · subst same
    cases present : cache.get? other with
    | none => simp [present]
    | some cached =>
      by_cases later : cached.mtime < fresh.mtime
      · simp [later,Dict.get?_set]
      · simp [later,present]
  · cases present : cache.get? name with
    | none => cases found : cache.get? other <;> simp [same]
    | some cached =>
      by_cases later : cached.mtime < fresh.mtime
      · cases found : cache.get? other <;> simp [later,Dict.get?_set,same,found]
      · cases found : cache.get? other <;> simp [later,same,found]

theorem cache_step (roots : List String) (s : State) (a : Action) (name : String) :
    (step roots s a).cache.get? name = s.cache.get? name ∨
    (∃ entry path between git_hash, a = .load name between git_hash ∧ s.cache.get? name = none ∧
      read_body roots s.disk name = .ok (path,entry.body) ∧ stat (between.getD s.disk) path = .ok entry.mtime ∧
      (step roots s a).cache.get? name = some entry) ∨
    ∃ entry old path names git_hash, a = .poll git_hash ∧ s.poll = .stating name path entry.body names ∧
      stat s.disk path = .ok entry.mtime ∧ s.cache.get? name = some old ∧ old.mtime < entry.mtime ∧
      (step roots s a).cache.get? name = some entry := by
  cases a with
  | edit disk => exact .inl rfl
  | wake =>
    left
    simp only [step,wake]
    split <;> rfl
  | load other between git_hash =>
    simp only [step,load]
    split
    · exact .inl rfl
    · next absent =>
      unfold read
      cases returned : read_body roots s.disk other with
      | error failure => exact .inl rfl
      | ok found =>
        obtain ⟨path,body⟩ := found
        cases stated : stat (between.getD s.disk) path with
        | error failure => exact .inl (by simp only [stated])
        | ok mtime =>
          simp only [stated]
          by_cases same : name = other
          · subst same
            right
            left
            exact ⟨⟨body,mtime,git_hash⟩,path,between,git_hash,rfl,absent,returned,stated,by simp [Dict.get?_set]⟩
          · left
            simp [Dict.get?_set,same]
  | poll git_hash =>
    simp only [step,poll_step]
    split
    · exact .inl rfl
    · exact .inl rfl
    · split <;> exact .inl rfl
    · next other path body names stating =>
      split
      · exact .inl rfl
      · next mtime stated =>
        dsimp only
        rw [get?_refresh]
        cases present : s.cache.get? name with
        | none => exact .inl rfl
        | some old =>
          by_cases renewed : name = other ∧ old.mtime < mtime
          · obtain ⟨same,later⟩ := renewed
            subst same
            right
            right
            refine ⟨⟨body,mtime,git_hash⟩,old,path,names,git_hash,rfl,stating,stated,rfl,later,?_⟩
            exact if_pos ⟨rfl,later⟩
          · left
            exact if_neg renewed

end

section
variable {roots : List String} {name : String}

/-- The roots after a step. -/
def Action.disk (s : State) : Action → Disk
  | .edit disk => disk
  | .load _ between _ => between.getD s.disk
  | .wake => s.disk
  | .poll _ => s.disk

theorem disk_step (roots : List String) (s : State) (a : Action) : (step roots s a).disk = a.disk s := by
  cases a with
  | edit disk => rfl
  | load other between git_hash =>
    simp only [step,load,Action.disk]
    split
    · rfl
    · split <;> rfl
  | wake =>
    simp only [step,wake,Action.disk]
    split <;> rfl
  | poll git_hash =>
    simp only [step,poll_step,Action.disk]
    split
    · rfl
    · rfl
    · split <;> rfl
    · split <;> rfl

theorem poll_load (roots : List String) (s : State) (name : String) (later : Disk) (git_hash : String) :
    (load roots s name later git_hash).2.poll = s.poll := by
  unfold load
  split
  · rfl
  · split <;> rfl

/-- The loop stands between a text and its mtime where it stood there before, or where it
    has just read the text. -/
theorem stating_step {s : State} {a : Action} {path : Path} {body : String} {names : List String}
    (stating : (step roots s a).poll = .stating name path body names) :
    s.poll = .stating name path body names ∨
    ∃ git_hash, a = .poll git_hash ∧ read_body roots s.disk name = .ok (path,body) := by
  cases a with
  | edit disk => exact .inl stating
  | load other between git_hash =>
    left
    rw [← stating]
    exact (poll_load roots s other _ git_hash).symm
  | wake =>
    simp only [step,wake] at stating
    split at stating
    · cases stating
    · exact .inl stating
  | poll git_hash =>
    simp only [step,poll_step] at stating
    split at stating
    · exact .inl stating
    · cases stating
    · split at stating
      · cases stating
      · next read =>
        cases stating
        exact .inr ⟨git_hash,rfl,read⟩
    · split at stating
      · cases stating
      · cases stating

/-- Every text that is cached, or about to be, is valid. -/
structure Sound (s : State) : Prop where
  cached : ∀ name entry, s.cache.get? name = some entry → validate_template_format entry.body = true
  stated : ∀ name path body names, s.poll = .stating name path body names → validate_template_format body = true

theorem boot_sound (disk : Disk) : Sound (boot disk) := by
  constructor
  · intro name entry present
    cases present
  · intro name path body names stating
    cases stating

theorem sound_step (roots : List String) {s : State} (a : Action) (sound : Sound s) : Sound (step roots s a) := by
  constructor
  · intro name entry present
    rcases cache_step roots s a name with same | ⟨new,path,between,git_hash,-,-,read,-,now⟩ |
      ⟨new,old,path,names,git_hash,-,stating,-,-,-,now⟩
    · rw [same] at present
      exact sound.cached name entry present
    · obtain rfl := Option.some.inj (now.symm.trans present)
      obtain ⟨mtime,-,found⟩ := read_body_ok read
      exact selected_valid found
    · obtain rfl := Option.some.inj (now.symm.trans present)
      exact sound.stated _ _ _ _ stating
  · intro name path body names stating
    rcases stating_step stating with before | ⟨git_hash,-,read⟩
    · exact sound.stated _ _ _ _ before
    · obtain ⟨mtime,-,found⟩ := read_body_ok read
      exact selected_valid found

theorem sound_run (roots : List String) (actions : List Action) : ∀ {s : State}, Sound s → Sound (run roots s actions) := by
  induction actions with
  | nil => exact fun sound => sound
  | cons a rest ih => exact fun sound => ih (sound_step roots a sound)

/-- The cache keeps up with the selected file: what is not the cached text is later. -/
structure Tracks (roots : List String) (name : String) (s : State) : Prop where
  cached : Advances roots s s.disk name
  stated : ∀ path body names, s.poll = .stating name path body names →
    ∃ mtime, selected roots s.disk name = some (body,mtime)

theorem boot_tracks (disk : Disk) : Tracks roots name (boot disk) := by
  constructor
  · intro old present
    cases present
  · intro path body names stating
    cases stating

theorem tracks_step {s : State} {a : Action} (tracks : Tracks roots name s) (advancing : Advancing roots name s a) :
    Tracks roots name (step roots s a) := by
  -- What an edit of this step leaves of the selected file.
  have kept : Advances roots s (a.disk s) name := by
    cases a with
    | edit disk => exact advancing.1
    | load other between git_hash =>
      cases between with
      | none => exact tracks.cached
      | some disk => exact advancing.1
    | wake => exact tracks.cached
    | poll git_hash => exact tracks.cached
  constructor
  · intro old present body mtime found
    rw [disk_step] at found
    rcases cache_step roots s a name with same | ⟨new,path,between,git_hash,rfl,absent,read,-,now⟩ |
      ⟨new,before,path,names,git_hash,rfl,stating,-,-,-,now⟩
    · rw [same] at present
      exact kept old present body mtime found
    · left
      obtain rfl := Option.some.inj (now.symm.trans present)
      obtain ⟨read_at,-,selected_before⟩ := read_body_ok read
      have unchanged : selected roots (Action.disk s (.load name between git_hash)) name = selected roots s.disk name := by
        cases between with
        | none => rfl
        | some disk => exact advancing.2 (.inl ⟨rfl,absent⟩)
      rw [unchanged,selected_before] at found
      cases found
      rfl
    · left
      obtain rfl := Option.some.inj (now.symm.trans present)
      obtain ⟨read_at,selected_before⟩ := tracks.stated _ _ _ stating
      have same : some (body,mtime) = some (new.body,read_at) := found.symm.trans selected_before
      cases same
      rfl
  · intro path body names stating
    rw [disk_step]
    rcases stating_step stating with before | ⟨git_hash,rfl,read⟩
    · obtain ⟨mtime,found⟩ := tracks.stated path body names before
      have here : s.poll.states name := by rw [before]; rfl
      refine ⟨mtime,?_⟩
      rw [← found]
      cases a with
      | edit disk => exact advancing.2 here
      | load other between git_hash =>
        cases between with
        | none => rfl
        | some disk => exact advancing.2 (.inr here)
      | wake => rfl
      | poll git_hash => rfl
    · obtain ⟨mtime,-,found⟩ := read_body_ok read
      exact ⟨mtime,found⟩

end

/-- The names that the pass has still to deal with. -/
def Poll.pending : Poll → List String
  | .asleep => []
  | .reading names => names
  | .stating name _ _ names => name :: names

/-- The text that a pass leaves in an entry. -/
def refreshed (old : PromptEntry) : Option (String × Rat) → String
  | some (fresh,mtime) => if old.mtime < mtime then fresh else old.body
  | none => old.body

/-- A pass from `start` on under way. -/
structure Passing (roots : List String) (start s : State) : Prop where
  disk : s.disk = start.disk
  once : s.poll.pending.Nodup
  known : ∀ name old, start.cache.get? name = some old → ∃ entry, s.cache.get? name = some entry ∧
    (name ∈ s.poll.pending → entry = old) ∧
    (name ∉ s.poll.pending → entry.body = refreshed old (selected roots start.disk name))
  listed : ∀ name, name ∈ s.poll.pending → (start.cache.get? name).isSome
  loaded : ∀ name entry, start.cache.get? name = none → s.cache.get? name = some entry →
    ∃ mtime, selected roots start.disk name = some (entry.body,mtime)
  stated : ∀ name path body names, s.poll = .stating name path body names →
    ∃ mtime, stat start.disk path = .ok mtime ∧ selected roots start.disk name = some (body,mtime)

section
variable {roots : List String} {start s : State}

theorem passing_wake (asleep : start.poll = .asleep) : Passing roots start (wake start) := by
  have woken : wake start = { start with poll := .reading (start.cache.items.map Prod.fst) } := by
    rw [wake,asleep]
  rw [woken]
  have key {name : String} {entry : PromptEntry} (present : start.cache.get? name = some entry) :
      name ∈ start.cache.items.map Prod.fst := List.mem_map_of_mem (Dict.mem_items present)
  constructor
  · rfl
  · exact start.cache.keyed
  · intro name old present
    exact ⟨old,present,fun _ => rfl,fun absent => absurd (key present) absent⟩
  · intro name listed
    obtain ⟨item,member,rfl⟩ := List.mem_map.mp listed
    rw [Dict.get?_eq_some_iff.mpr member]
    rfl
  · intro name entry absent present
    rw [absent] at present
    cases present
  · intro name path body names stating
    cases stating

/-- A load adds at most a prompt that was not there, with the selected text. -/
theorem passing_load (passing : Passing roots start s) (name git_hash : String) :
    Passing roots start (step roots s (.load name none git_hash)) := by
  have poll : (step roots s (.load name none git_hash)).poll = s.poll := poll_load roots s name _ git_hash
  constructor
  · rw [disk_step]
    exact passing.disk
  · rw [poll]
    exact passing.once
  · intro other old present
    rw [poll]
    obtain ⟨entry,cached,keeps⟩ := passing.known other old present
    refine ⟨entry,?_,keeps⟩
    rcases cache_step roots s (.load name none git_hash) other with same | ⟨new,path,between,hash,same,absent,-⟩ |
      ⟨new,before,path,names,hash,other_step,-⟩
    · rw [same,cached]
    · cases same
      rw [cached] at absent
      cases absent
    · cases other_step
  · rw [poll]
    exact passing.listed
  · intro other entry absent present
    rcases cache_step roots s (.load name none git_hash) other with same | ⟨new,path,between,hash,same,-,read,-,now⟩ |
      ⟨new,before,path,names,hash,other_step,-⟩
    · rw [same] at present
      exact passing.loaded other entry absent present
    · obtain rfl := Option.some.inj (now.symm.trans present)
      obtain ⟨mtime,-,found⟩ := read_body_ok read
      rw [passing.disk] at found
      exact ⟨mtime,found⟩
    · cases other_step
  · rw [poll]
    exact passing.stated

theorem passing_skip {name : String} {names : List String} (passing : Passing roots start s)
    (next : s.poll = .reading (name :: names)) {failure : Failure} (raised : read_body roots s.disk name = .error failure) :
    Passing roots start { s with poll := .reading names } := by
  have pending : s.poll.pending = name :: names := by rw [next]; rfl
  have once := passing.once
  rw [pending,List.nodup_cons] at once
  have nothing : selected roots start.disk name = none := by
    rw [← passing.disk]
    exact read_body_error raised
  constructor
  · exact passing.disk
  · exact once.2
  · intro other old present
    obtain ⟨entry,cached,waits,done⟩ := passing.known other old present
    refine ⟨entry,cached,fun later => waits (by rw [pending]; exact List.mem_cons_of_mem name later),fun past => ?_⟩
    by_cases same : other = name
    · subst same
      obtain rfl := waits (by rw [pending]; exact List.mem_cons_self)
      rw [nothing]
      rfl
    · apply done
      rw [pending]
      intro member
      rcases List.mem_cons.mp member with found | found
      · exact same found
      · exact past found
  · intro other later
    exact passing.listed other (by rw [pending]; exact List.mem_cons_of_mem name later)
  · exact passing.loaded
  · intro other path body rest stating
    cases stating

theorem passing_read {name body : String} {names : List String} {path : Path} (passing : Passing roots start s)
    (next : s.poll = .reading (name :: names)) (read : read_body roots s.disk name = .ok (path,body)) :
    Passing roots start { s with poll := .stating name path body names } := by
  have pending : s.poll.pending = name :: names := by rw [next]; rfl
  have once := passing.once
  have known := passing.known
  have listed := passing.listed
  rw [pending] at once known listed
  refine ⟨passing.disk,once,known,listed,passing.loaded,?_⟩
  intro other path body rest stating
  cases stating
  rw [← passing.disk]
  exact read_body_ok read

/-- The entry is replaced where the mtime of the text is later. -/
theorem passing_stat {name body git_hash : String} {names : List String} {path : Path} (passing : Passing roots start s)
    (next : s.poll = .stating name path body names) {mtime : Rat} (stated : stat s.disk path = .ok mtime) :
    Passing roots start { s with cache := refresh s.cache name ⟨body,mtime,git_hash⟩,poll := .reading names } := by
  have pending : s.poll.pending = name :: names := by rw [next]; rfl
  have once := passing.once
  rw [pending,List.nodup_cons] at once
  obtain ⟨read_at,found_at,found⟩ := passing.stated name path body names next
  rw [passing.disk,found_at] at stated
  obtain rfl := Except.ok.inj stated
  constructor
  · exact passing.disk
  · exact once.2
  · intro other old present
    obtain ⟨entry,cached,waits,done⟩ := passing.known other old present
    simp only [get?_refresh,cached]
    by_cases same : other = name
    · subst same
      obtain rfl := waits (by rw [pending]; exact List.mem_cons_self)
      by_cases later : entry.mtime < read_at
      · refine ⟨_,if_pos ⟨rfl,later⟩,fun member => absurd member once.1,fun _ => ?_⟩
        rw [found]
        exact (if_pos later).symm
      · refine ⟨_,if_neg fun both => later both.2,fun member => absurd member once.1,fun _ => ?_⟩
        rw [found]
        exact (if_neg later).symm
    · refine ⟨entry,if_neg fun both => same both.1,fun later => ?_,fun past => done ?_⟩
      · exact waits (by rw [pending]; exact List.mem_cons_of_mem name later)
      · rw [pending]
        intro member
        rcases List.mem_cons.mp member with here | later
        · exact same here
        · exact past later
  · intro other later
    exact passing.listed other (by rw [pending]; exact List.mem_cons_of_mem name later)
  · intro other entry absent present
    simp only [get?_refresh] at present
    cases cached : s.cache.get? other with
    | none =>
      rw [cached] at present
      cases present
    | some held =>
      rw [cached] at present
      by_cases same : other = name
      · subst same
        have listed := passing.listed other (by rw [pending]; exact List.mem_cons_self)
        rw [absent] at listed
        cases listed
      · simp only [same,false_and,if_false] at present
        cases present
        exact passing.loaded other _ absent cached
  · intro other path body rest stating
    cases stating

theorem passing_poll (passing : Passing roots start s) (git_hash : String) :
    Passing roots start (step roots s (.poll git_hash)) := by
  simp only [step,poll_step]
  split
  · exact passing
  · next next =>
    have pending : s.poll.pending = [] := by rw [next]; rfl
    have known := passing.known
    have listed := passing.listed
    rw [pending] at known listed
    refine ⟨passing.disk,List.nodup_nil,known,listed,passing.loaded,?_⟩
    intro name path body names stating
    cases stating
  · next next =>
    split
    · next raised => exact passing_skip passing next raised
    · next read => exact passing_read passing next read
  · next next =>
    split
    · next raised =>
      obtain ⟨mtime,stated,-⟩ := passing.stated _ _ _ _ next
      rw [passing.disk,stated] at raised
      cases raised
    · next stated => exact passing_stat passing next stated

theorem passing_run {actions : List Action} (still : ∀ a ∈ actions, a.quiet) :
    ∀ {s : State}, Passing roots start s → Passing roots start (run roots s actions) := by
  induction actions with
  | nil => exact fun passing => passing
  | cons a rest ih =>
    intro s passing
    have quiet := still a List.mem_cons_self
    refine ih (fun b member => still b (List.mem_cons_of_mem a member)) ?_
    cases a with
    | edit disk => exact quiet.elim
    | load name between git_hash =>
      obtain rfl : between = none := quiet
      exact passing_load passing name git_hash
    | wake => exact quiet.elim
    | poll git_hash => exact passing_poll passing git_hash

end

section
variable {roots : List String} {start last : State} {name : String} {entry : PromptEntry}

theorem serves_cached (present : last.cache.get? name = some entry) : Serves roots last name entry.body := by
  intro later git_hash
  simp only [load,present]

theorem pass_refreshes (pass : Pass roots start last) (present : last.cache.get? name = some entry) :
    Refreshed roots start last name entry.body := by
  obtain ⟨started,ended,actions,still,rfl⟩ := pass
  have passing : Passing roots start (run roots (wake start) actions) := passing_run still (passing_wake started)
  unfold Refreshed
  rw [passing.disk]
  cases before : start.cache.get? name with
  | none =>
    obtain ⟨mtime,found⟩ := passing.loaded name entry before present
    rw [found]
  | some old =>
    obtain ⟨held,cached,-,done⟩ := passing.known name old before
    obtain rfl := Option.some.inj (cached.symm.trans present)
    have last_text := done (by rw [ended]; exact List.not_mem_nil)
    cases found : selected roots start.disk name with
    | none =>
      rw [found] at last_text
      exact last_text
    | some file =>
      rw [found] at last_text
      exact last_text

theorem tracked_converges (sound : Sound start) (tracks : Tracks roots name start) (pass : Pass roots start last)
    (present : last.cache.get? name = some entry) : Converged roots start last name := by
  have text := pass_refreshes pass present
  have serves : Serves roots last name entry.body := serves_cached present
  obtain ⟨started,ended,actions,still,rfl⟩ := pass
  have passing : Passing roots start (run roots (wake start) actions) := passing_run still (passing_wake started)
  have disk := passing.disk
  unfold Refreshed at text
  unfold Converged
  rw [disk] at text ⊢
  cases found : selected roots start.disk name with
  | none =>
    rw [found] at text
    cases before : start.cache.get? name with
    | none =>
      rw [before] at text
      exact text.elim
    | some old =>
      rw [before] at text
      refine ⟨old.body,sound.cached name old before,serves_cached before,?_⟩
      have same : entry.body = old.body := text
      rw [← same]
      exact serves
  | some file =>
    obtain ⟨fresh,mtime⟩ := file
    rw [found] at text
    cases before : start.cache.get? name with
    | none =>
      rw [before] at text
      have same : entry.body = fresh := text
      rw [← same]
      exact serves
    | some old =>
      rw [before] at text
      have same : entry.body = if old.mtime < mtime then fresh else old.body := text
      have current : entry.body = fresh := by
        rcases tracks.cached old before fresh mtime found with equal | later
        · rw [same,← equal,ite_self]
        · rw [same,if_pos later]
      rw [← current]
      exact serves

end

/-- After a pass every prompt is valid, and it is what the mtimes make of the cached and the
    selected text. Where every edit advanced the mtime, it is the selected text. -/
theorem hot_reload_converges (roots : List String) (disk : Disk) (history : List Action) (last : State)
    (pass : Pass roots (run roots (boot disk) history) last) (name : String) (entry : PromptEntry)
    (present : last.cache.get? name = some entry) :
    Serves roots last name entry.body ∧ validate_template_format entry.body = true ∧
      Refreshed roots (run roots (boot disk) history) last name entry.body ∧
      (Admitted (step roots) (Advancing roots name) (boot disk) history →
        Converged roots (run roots (boot disk) history) last name) := by
  have sound := sound_run roots history (boot_sound disk)
  have text := pass_refreshes pass present
  refine ⟨serves_cached present,?_,text,fun advancing => ?_⟩
  · obtain ⟨started,ended,actions,still,rfl⟩ := pass
    have woken : Sound (wake (run roots (boot disk) history)) := sound_step roots .wake sound
    exact (sound_run roots actions woken).cached name entry present
  · have tracks : Tracks roots name (run roots (boot disk) history) :=
      admitted_invariant (fun s a kept advances => tracks_step kept advances) history (boot disk) (boot_tracks disk) advancing
    exact tracked_converges sound tracks pass present

/-- One prompt under one root. -/
def prompt (text : String) (mtime : Rat) : Disk := fun root name =>
  if root = "shared" ∧ name = "chat" then some ⟨some text,mtime⟩ else none

def one_pass : List Action := [.poll "unknown",.poll "unknown",.poll "unknown"]

/-- The prompt is loaded, then its file gets another text. -/
def edited (text : String) (mtime : Rat) : List Action := [.load "chat" none "unknown",.edit (prompt text mtime)]

def after_edit (text : String) (mtime : Rat) : State := run ["shared"] (boot (prompt "old" 5)) (edited text mtime)

def after_pass (text : String) (mtime : Rat) : State := run ["shared"] (wake (after_edit text mtime)) one_pass

theorem hot_reload_converges_new :
    Serves ["shared"] (after_pass "new" 7) "chat" "new" ∧ Converged ["shared"] (after_edit "new" 7) (after_pass "new" 7) "chat" := by
  have pass : Pass ["shared"] (after_edit "new" 7) (after_pass "new" 7) :=
    ⟨rfl,rfl,one_pass,by simp [one_pass,Action.quiet],rfl⟩
  have present : (after_pass "new" 7).cache.get? "chat" = some ⟨"new",7,"unknown"⟩ := by rfl
  have advancing : Admitted (step ["shared"]) (Advancing ["shared"] "chat") (boot (prompt "old" 5)) (edited "new" 7) := by
    refine ⟨trivial,⟨?_,fun stating => stating.elim⟩,trivial⟩
    intro old cached body mtime found
    cases cached
    cases found
    exact .inr (by decide)
  obtain ⟨serves,-,-,converges⟩ :=
    hot_reload_converges ["shared"] (prompt "old" 5) (edited "new" 7) _ pass "chat" _ present
  exact ⟨serves,converges advancing⟩

theorem older_copy_is_not_served : ¬Converges := by
  intro converges
  have pass : Pass ["shared"] (after_edit "older" 3) (after_pass "older" 3) :=
    ⟨rfl,rfl,one_pass,by simp [one_pass,Action.quiet],rfl⟩
  have served := converges ["shared"] (prompt "old" 5) (edited "older" 3) _ pass "chat" (by rfl)
  have selects : selected ["shared"] (after_pass "older" 3).disk "chat" = some ("older",3) := by rfl
  have cached : (after_pass "older" 3).cache.get? "chat" = some ⟨"old",5,"unknown"⟩ := by rfl
  have serves : Serves ["shared"] (after_pass "older" 3) "chat" "old" := serves_cached cached
  have old := serves (prompt "older" 3) "unknown"
  unfold Converged at served
  rw [selects] at served
  have older := served (prompt "older" 3) "unknown"
  rw [old] at older
  exact absurd (Except.ok.inj older) (by decide)

end Automation.PromptReload
