import Automation.AuditPrune
import Automation.Retention

/-!
The search for archived audit rows. The reader lists the days of a time range; the writer
puts an archive under the day of its cutoff, which is later than the rows by the retention.
A search for a row finds its archive just where the day of the cutoff begins before the
range ends (`found_iff`).
-/
namespace Automation.ArchiveSearch
open Automation.AuditArchive Automation.AuditPrune Automation.Calendar Automation.PyText

/-- Inclusive lower, exclusive upper; both are aware. -/
structure TimeRange where
  start : Datetime
  end_ : Datetime
  start_aware : start.utcoffset ≠ none
  end_aware : end_.utcoffset ≠ none
  ordered : start.instant < end_.instant

def TimeRange.Includes (range : TimeRange) (d : Datetime) : Prop :=
  range.start.instant ≤ d.instant ∧ d.instant < range.end_.instant

/-- `d.replace(hour=0, minute=0, second=0, microsecond=0)`. -/
def floor_day (d : Datetime) : Datetime :=
  ⟨d.clock / DAY * DAY,d.utcoffset,Nat.lt_of_le_of_lt (Nat.div_mul_le_self ..) d.inside⟩

def date_prefix (d : Datetime) : String :=
  .ofList (digits 4 d.year ++ '/' :: digits 2 d.month ++ '/' :: digits 2 d.day ++ ['/'])

/-- The days from the cursor, in at most so many rounds; `none` where a day has no place in the calendar. -/
def day_loop (upper : Datetime) : Nat → Datetime → Option (List String)
  | 0, _ => none
  | rounds + 1, cursor =>
    if cursor.clock < upper.clock then do
      let next ← cursor.add DAY
      let prefixes ← day_loop upper rounds next
      some ( date_prefix cursor :: prefixes)
    else some []

/-- The midnight before which the last day begins. -/
def upper_exclusive (end_utc : Datetime) : Option Datetime :=
  if end_utc = floor_day end_utc then some (floor_day end_utc) else (floor_day end_utc).add DAY

/-- `_date_prefixes`; `none` where it raises `OverflowError`. -/
def date_prefixes (range : TimeRange) : Option (List String) := do
  let start_utc ← ensure_utc range.start
  let end_utc ← ensure_utc range.end_
  let upper ← upper_exclusive end_utc
  -- no more rounds than there are days before the end
  day_loop upper upper.ordinal (floor_day start_utc)

def DEFAULT_BUCKET : String := "audit-archive"

structure ArchivedAuditHit where
  id : String
  archived : Bool
  archive_uri : String
  summary : String
  deriving DecidableEq

def summary_from_key (key : String) : String :=
  match key.toList.splitOn '/' with
  | year :: month :: day :: leaf :: more =>
    .ofList ("audit archive ".toList ++ year ++ '-' :: month ++ '-' :: day ++ " (".toList ++ (leaf :: more).getLast (by simp) ++ [')'])
  | _ => "audit archive " ++ key

def archived_hit (bucket key : String) : ArchivedAuditHit := ⟨key,true,"s3://" ++ bucket ++ "/" ++ key,summary_from_key key⟩

/-- A page of `ListObjectsV2` for a prefix, with the token of the next; `none` where it raises. -/
abbrev ListPage := String → Option String → Option (List String × Option String)

/-- The keys under a prefix, over at most so many pages. -/
def list_objects (page : ListPage) (under : String) : Nat → Option String → Option (List String)
  | 0, _ => none
  | n + 1, continuation =>
    match page under continuation with
    | none => none
    | some (keys,none) => some keys
    | some (keys,some next_token) => (list_objects page under n (some next_token)).map fun more => keys ++ more

def see (seen_keys : List String) (key : String) : List String := if key ∈ seen_keys then seen_keys else seen_keys ++ [key]

def collect (page : ListPage) (fuel : Nat) : List String → List String → Option (List String)
  | seen_keys, [] => some seen_keys
  | seen_keys, under :: prefixes =>
    match list_objects page under fuel none with
    | none => none
    | some keys => collect page fuel (keys.foldl see seen_keys) prefixes

def search (bucket : String) (page : ListPage) (fuel : Nat) (range : TimeRange) : Option (List ArchivedAuditHit) := do
  let prefixes ← date_prefixes range
  let keys ← collect page fuel [] prefixes
  some ((keys.map (archived_hit bucket)).mergeSort fun a b => a.archive_uri ≤ b.archive_uri)

/-- `ListObjectsV2` returns all keys under a prefix. -/
def Complete (page : ListPage) (objects : String → Option (List Char)) : Prop :=
  ∀ under, ∃ pages keys, list_objects page under pages none = some keys ∧
    ∀ key, key ∈ keys ↔ (objects key).isSome = true ∧ hasPrefix key under = true

/-- The archive under a key is among the hits. -/
def Found (bucket : String) (page : ListPage) (range : TimeRange) (key : String) : Prop :=
  ∃ fuel hits, search bucket page fuel range = some hits ∧ archived_hit bucket key ∈ hits

/-- A run that comes to its activities, with the setting that it read. -/
structure Tick where
  settings : Retention.Settings
  /-- `workflow.now()`, which is in UTC. -/
  now : Datetime
  utc : now.utcoffset = some 0
  cutoff : Datetime
  computed : now.add (-(Retention.retention_days settings * DAY)) = some cutoff

/-- The table, the bucket and the runs of a schedule, after so many steps. -/
def pruned {κ : Type} [DecidableEq κ] (size : PageSize) (tick : κ → Tick) (table : Table) (objects : String → Option (List Char))
    (actions : List (Action κ)) : State κ :=
  actions.foldl (step size fun k => (tick k).cutoff) (.start table objects)

/-- The day of the cutoff begins before the range ends, and the range has its place in the calendar. -/
def Covered (range : TimeRange) (cutoff : Datetime) : Prop :=
  (floor_day cutoff).instant < range.end_.instant ∧ 0 ≤ range.start.instant ∧ range.end_.instant ≤ (MAXORDINAL - 1) * DAY

instance (range : TimeRange) (cutoff : Datetime) : Decidable (Covered range cutoff) :=
  inferInstanceAs (Decidable (_ ∧ _ ∧ _))

/-- The prefix of a day, by its number. -/
def day_prefix (ordinal : Nat) : String :=
  .ofList (digits 4 (ord2ymd ordinal).1 ++ '/' :: digits 2 (ord2ymd ordinal).2.1 ++ '/' :: digits 2 (ord2ymd ordinal).2.2 ++ ['/'])

theorem day_length : DAY = 86400000000 := rfl

theorem floor_clock (d : Datetime) : (floor_day d).clock = d.clock / DAY * DAY := rfl

theorem add_day {d : Datetime} (inside : d.clock + DAY < MAXORDINAL * DAY) : d.add DAY = some ⟨d.clock + DAY,d.utcoffset,inside⟩ := by
  unfold Datetime.add
  rw [dif_pos ⟨by omega,by omega⟩]
  congr 1

theorem day_loop_eq {upper : Datetime} {a b : Nat} (last : upper.clock = b * DAY) {rounds : Nat} (enough : b - a < rounds) :
    ∀ cursor : Datetime, cursor.clock = a * DAY →
      day_loop upper rounds cursor = some ((List.range' a (b - a)).map fun n => day_prefix (n + 1)) := by
  induction rounds generalizing a with
  | zero => omega
  | succ rounds ih =>
    intro cursor first
    have positive : 0 < DAY := by decide
    have inside := upper.inside
    rw [day_loop]
    by_cases more : a < b
    · have next : (a + 1) * DAY = a * DAY + DAY := Nat.succ_mul a DAY
      have bound : (a + 1) * DAY ≤ b * DAY := Nat.mul_le_mul_right DAY more
      have before : cursor.clock < upper.clock := by omega
      have room : cursor.clock + DAY < MAXORDINAL * DAY := by omega
      have prefixes := ih (a := a + 1) (by omega) ⟨cursor.clock + DAY,cursor.utcoffset,room⟩ (by simp only [first,next])
      have ordinal : cursor.ordinal = a + 1 := by
        unfold Datetime.ordinal
        rw [first,Nat.mul_div_cancel a positive]
      have today : date_prefix cursor = day_prefix (a + 1) := by
        unfold date_prefix day_prefix Datetime.year Datetime.month Datetime.day
        rw [ordinal]
      have count : b - a = (b - (a + 1)) + 1 := by omega
      simp [before,add_day room,prefixes,today,count,List.range'_succ]
    · have reached : b * DAY ≤ a * DAY := Nat.mul_le_mul_right DAY (Nat.le_of_not_lt more)
      have done : ¬cursor.clock < upper.clock := by omega
      have none_left : b - a = 0 := by omega
      simp [done,none_left]

theorem day_loop_whole {upper cursor : Datetime} {a b : Nat} (last : upper.clock = b * DAY) (first : cursor.clock = a * DAY) :
    day_loop upper upper.ordinal cursor = some ((List.range' a (b - a)).map fun n => day_prefix (n + 1)) := by
  refine day_loop_eq last ?_ cursor first
  unfold Datetime.ordinal
  rw [last,Nat.mul_div_cancel b (by decide)]
  omega

theorem ofInstant_eq {us : Nat} (inside : us < MAXORDINAL * DAY) : ofInstant us = some ⟨us,some 0,inside⟩ := by
  unfold ofInstant
  rw [dif_pos ⟨by omega,by simpa using inside⟩]
  rfl

theorem ofInstant_none {us : Int} (outside : us < 0 ∨ (MAXORDINAL * DAY : Nat) ≤ us) : ofInstant us = none := by
  unfold ofInstant
  rw [dif_neg]
  rintro ⟨low,high⟩
  omega

/-- The number of days that have begun before a point in time. -/
def begun (us : Nat) : Nat := (us + (DAY - 1)) / DAY

theorem begun_eq (us : Nat) : begun us = if us % DAY = 0 then us / DAY else us / DAY + 1 := by
  unfold begun
  by_cases midnight : us % DAY = 0
  · rw [if_pos midnight]
    rw [day_length] at midnight ⊢
    omega
  · rw [if_neg midnight]
    rw [day_length] at midnight ⊢
    omega

/-- A day has begun before a point in time just if its midnight lies before it. -/
theorem lt_begun (n us : Nat) : n < begun us ↔ n * DAY < us := by
  simp only [begun,day_length]
  omega

theorem upper_exclusive_eq {e : Nat} (inside : e < MAXORDINAL * DAY) (high : e ≤ (MAXORDINAL - 1) * DAY) :
    ∃ upper, upper_exclusive ⟨e,some 0,inside⟩ = some upper ∧ upper.clock = begun e * DAY := by
  have days : MAXORDINAL * DAY = (MAXORDINAL - 1) * DAY + DAY := by decide
  have positive : 0 < DAY := by decide
  have floored : (floor_day ⟨e,some 0,inside⟩).clock = e / DAY * DAY := floor_clock _
  have whole := Nat.mod_add_div' e DAY
  have count := begun_eq e
  unfold upper_exclusive
  by_cases midnight : e % DAY = 0
  · have same : (⟨e,some 0,inside⟩ : Datetime) = floor_day ⟨e,some 0,inside⟩ := by
      simp only [floor_day,Datetime.mk.injEq,and_true]
      omega
    rw [if_pos midnight] at count
    exact ⟨_,if_pos same,by rw [floored,count]⟩
  · have other : (⟨e,some 0,inside⟩ : Datetime) ≠ floor_day ⟨e,some 0,inside⟩ := by
      simp only [floor_day,ne_eq,Datetime.mk.injEq,and_true]
      omega
    have room : (floor_day ⟨e,some 0,inside⟩).clock + DAY < MAXORDINAL * DAY := by
      rw [floored]
      omega
    rw [if_neg midnight] at count
    rw [if_neg other,add_day room]
    refine ⟨_,rfl,?_⟩
    simp only [floored]
    rw [count,Nat.succ_mul]

/-- The last day of the calendar has no midnight after it. -/
theorem upper_exclusive_none {e : Nat} (inside : e < MAXORDINAL * DAY) (late : ¬e ≤ (MAXORDINAL - 1) * DAY) :
    upper_exclusive ⟨e,some 0,inside⟩ = none := by
  have positive : 0 < DAY := by decide
  have floored : (floor_day ⟨e,some 0,inside⟩).clock = e / DAY * DAY := floor_clock _
  have last : e / DAY * DAY = (MAXORDINAL - 1) * DAY := by
    simp only [day_length,MAXORDINAL] at inside late ⊢
    omega
  have other : (⟨e,some 0,inside⟩ : Datetime) ≠ floor_day ⟨e,some 0,inside⟩ := by
    simp only [floor_day,ne_eq,Datetime.mk.injEq,and_true]
    omega
  have days : MAXORDINAL * DAY = (MAXORDINAL - 1) * DAY + DAY := by decide
  unfold upper_exclusive Datetime.add
  rw [if_neg other,dif_neg]
  rw [floored,last]
  omega

theorem date_prefixes_eq {range : TimeRange} {s e : Nat} (start : range.start.instant = s) (end_ : range.end_.instant = e)
    (high : e ≤ (MAXORDINAL - 1) * DAY) :
    date_prefixes range = some ((List.range' (s / DAY) (begun e - s / DAY)).map fun n => day_prefix (n + 1)) := by
  have ordered := range.ordered
  have days : (MAXORDINAL - 1) * DAY < MAXORDINAL * DAY := by decide
  have e_inside : e < MAXORDINAL * DAY := by omega
  have s_inside : s < MAXORDINAL * DAY := by omega
  obtain ⟨upper,found,last⟩ := upper_exclusive_eq e_inside high
  unfold date_prefixes ensure_utc
  rw [start,end_,ofInstant_eq s_inside,ofInstant_eq e_inside]
  rw [Option.bind_eq_bind,Option.bind_some,Option.bind_some,found,Option.bind_some]
  exact day_loop_whole last (floor_clock _)

theorem last_midnight : ((MAXORDINAL : Int) - 1) * DAY = ((MAXORDINAL - 1) * DAY : Nat) := by decide

theorem begun_le {e : Nat} (early : e ≤ (MAXORDINAL - 1) * DAY) : begun e < MAXORDINAL := by
  have last : ¬MAXORDINAL - 1 < begun e := by
    rw [lt_begun]
    exact Nat.not_lt.mpr early
  have days : MAXORDINAL - 1 < MAXORDINAL := by decide
  omega

theorem floor_instant {d : Datetime} (utc : d.utcoffset = some 0) : (floor_day d).instant = (d.clock / DAY * DAY : Nat) := by
  simp [Datetime.instant,floor_day,utc]

/-- Otherwise a bound or the midnight after the range has no place in the calendar. -/
theorem date_prefixes_none {range : TimeRange} (outside : ¬(0 ≤ range.start.instant ∧ range.end_.instant ≤ (MAXORDINAL - 1) * DAY)) :
    date_prefixes range = none := by
  have ordered := range.ordered
  unfold date_prefixes ensure_utc
  by_cases low : range.start.instant < 0
  · rw [ofInstant_none (Or.inl low)]
    rfl
  · cases start_utc : ofInstant range.start.instant with
    | none => rfl
    | some first =>
      by_cases high : (MAXORDINAL * DAY : Nat) ≤ range.end_.instant
      · rw [ofInstant_none (Or.inr high)]
        rfl
      · obtain ⟨e,end_⟩ : ∃ e : Nat, range.end_.instant = e := ⟨range.end_.instant.toNat,by omega⟩
        have inside : e < MAXORDINAL * DAY := by omega
        have late : ¬e ≤ (MAXORDINAL - 1) * DAY := by
          intro early
          apply outside
          rw [end_,last_midnight]
          exact ⟨Int.not_lt.mp low,Int.ofNat_le.mpr early⟩
        rw [end_,ofInstant_eq inside,Option.bind_eq_bind,Option.bind_some,Option.bind_some,upper_exclusive_none inside late]
        rfl

theorem digits_inj {n a b : Nat} (a_small : a < 10 ^ n) (b_small : b < 10 ^ n) (same : digits n a = digits n b) : a = b := by
  have read := number_field n a a_small []
  rw [same,number_field n b b_small] at read
  exact (Prod.mk.inj (Option.some.inj read)).1.symm

theorem date_inj {m n : Nat} (m_first : 1 ≤ m) (m_last : m ≤ MAXORDINAL) (n_first : 1 ≤ n) (n_last : n ≤ MAXORDINAL)
    (year : digits 4 (ord2ymd m).1 = digits 4 (ord2ymd n).1) (month : digits 2 (ord2ymd m).2.1 = digits 2 (ord2ymd n).2.1)
    (day : digits 2 (ord2ymd m).2.2 = digits 2 (ord2ymd n).2.2) : m = n := by
  have small : ∀ ordinal, 1 ≤ ordinal → ordinal ≤ MAXORDINAL →
      (ord2ymd ordinal).1 < 10 ^ 4 ∧ (ord2ymd ordinal).2.1 < 10 ^ 2 ∧ (ord2ymd ordinal).2.2 < 10 ^ 2 := by
    intro ordinal first last
    obtain ⟨⟨-,year_high,-,month_high,-,day_high⟩,-⟩ := ord2ymd_spec first last
    have days := days_in_month_le (is_leap (ord2ymd ordinal).1) _ month_high
    exact ⟨by omega,by omega,by omega⟩
  obtain ⟨m_year,m_month,m_day⟩ := small m m_first m_last
  obtain ⟨n_year,n_month,n_day⟩ := small n n_first n_last
  rw [← (ord2ymd_spec m_first m_last).2,← (ord2ymd_spec n_first n_last).2,digits_inj m_year n_year year,
    digits_inj m_month n_month month,digits_inj m_day n_day day]

theorem hasPrefix_key {cutoff : Datetime} {n : Nat} (first : 1 ≤ n) (last : n ≤ MAXORDINAL) :
    hasPrefix (build_archive_key cutoff) ( day_prefix n) = true ↔ n = cutoff.ordinal := by
  obtain ⟨cutoff_first,cutoff_last⟩ := ordinal_bounds cutoff
  unfold hasPrefix
  rw [startsWith_iff]
  unfold build_archive_key day_prefix
  rw [String.toList_ofList,String.toList_ofList]
  constructor
  · rintro ⟨more,same⟩
    simp only [List.append_assoc,List.cons_append,List.nil_append] at same
    obtain ⟨year,rest⟩ := List.append_inj same (by simp)
    obtain ⟨month,rest⟩ := List.append_inj (List.cons.inj rest).2 (by simp)
    obtain ⟨day,-⟩ := List.append_inj (List.cons.inj rest).2 (by simp)
    exact date_inj first last cutoff_first cutoff_last year month day
  · rintro rfl
    refine ⟨"audit-".toList ++ shard cutoff ++ ".jsonl.gz".toList,?_⟩
    have slash : "/audit-".toList = '/' :: "audit-".toList := by decide
    simp [Datetime.year,Datetime.month,Datetime.day,slash]

section
variable {bucket : String} {page : ListPage} {objects : String → Option (List Char)}

theorem list_objects_more {under : String} {n m : Nat} (fewer : n ≤ m) {token : Option String} {keys : List String}
    (listed : list_objects page under n token = some keys) : list_objects page under m token = some keys := by
  induction n generalizing m token keys with
  | zero => cases listed
  | succ n ih =>
    obtain ⟨m,rfl⟩ : ∃ k, m = k + 1 := ⟨m - 1,by omega⟩
    rw [list_objects] at listed ⊢
    split at listed
    · cases listed
    · exact listed
    · next some_keys next_token _ =>
      obtain ⟨more,later,rfl⟩ := Option.map_eq_some_iff.mp listed
      simp [ih (Nat.le_of_succ_le_succ fewer) later]

theorem mem_see {seen_keys : List String} {key other : String} : key ∈ see seen_keys other ↔ key ∈ seen_keys ∨ key = other := by
  unfold see
  by_cases seen : other ∈ seen_keys
  · rw [if_pos seen]
    constructor
    · exact Or.inl
    · rintro (before | rfl)
      · exact before
      · exact seen
  · simp [seen]

theorem mem_foldl_see {keys seen_keys : List String} {key : String} : key ∈ keys.foldl see seen_keys ↔ key ∈ seen_keys ∨ key ∈ keys := by
  induction keys generalizing seen_keys with
  | nil => simp
  | cons first keys ih => simp [ih,mem_see,or_assoc]

theorem mem_collect {fuel : Nat} {prefixes seen_keys found : List String} (collected : collect page fuel seen_keys prefixes = some found)
    (key : String) :
    key ∈ found ↔ key ∈ seen_keys ∨ ∃ under ∈ prefixes, ∃ keys, list_objects page under fuel none = some keys ∧ key ∈ keys := by
  induction prefixes generalizing seen_keys with
  | nil =>
    obtain rfl := Option.some.inj collected
    simp
  | cons under prefixes ih =>
    rw [collect] at collected
    split at collected
    · cases collected
    · next keys listed =>
      rw [ih collected,mem_foldl_see]
      simp [listed,or_assoc]

theorem collect_total {fuel : Nat} {prefixes : List String}
    (listed : ∀ under ∈ prefixes, ∃ keys, list_objects page under fuel none = some keys) (seen_keys : List String) :
    ∃ found, collect page fuel seen_keys prefixes = some found := by
  induction prefixes generalizing seen_keys with
  | nil => exact ⟨seen_keys,rfl⟩
  | cons under prefixes ih =>
    obtain ⟨keys,here⟩ := listed under List.mem_cons_self
    obtain ⟨found,rest⟩ := ih (fun other member => listed other (List.mem_cons_of_mem _ member)) (keys.foldl see seen_keys)
    exact ⟨found,by simp [collect,here,rest]⟩

theorem Complete.enough (complete : Complete page objects) (prefixes : List String) :
    ∃ fuel, ∀ under ∈ prefixes, ∃ keys, list_objects page under fuel none = some keys := by
  induction prefixes with
  | nil => exact ⟨0,fun _ impossible => nomatch impossible⟩
  | cons first prefixes ih =>
    obtain ⟨fuel,rest⟩ := ih
    obtain ⟨pages,keys,here,-⟩ := complete first
    refine ⟨max pages fuel,fun under member => ?_⟩
    rcases List.mem_cons.mp member with rfl | later
    · exact ⟨keys,list_objects_more (Nat.le_max_left ..) here⟩
    · obtain ⟨others,there⟩ := rest under later
      exact ⟨others,list_objects_more (Nat.le_max_right ..) there⟩

theorem Complete.listed (complete : Complete page objects) {under : String} {fuel : Nat} {keys : List String}
    (listed : list_objects page under fuel none = some keys) (key : String) :
    key ∈ keys ↔ (objects key).isSome = true ∧ hasPrefix key under = true := by
  obtain ⟨pages,all,whole,exact_⟩ := complete under
  have same := (list_objects_more (Nat.le_max_left fuel pages) listed).symm.trans (list_objects_more (Nat.le_max_right fuel pages) whole)
  rw [Option.some.inj same]
  exact exact_ key

theorem archived_hit_mem {key : String} {keys : List String} : archived_hit bucket key ∈ keys.map (archived_hit bucket) ↔ key ∈ keys := by
  constructor
  · intro member
    obtain ⟨other,found,same⟩ := List.mem_map.mp member
    have id : other = key := congrArg ArchivedAuditHit.id same
    rw [← id]
    exact found
  · exact List.mem_map_of_mem

theorem found_iff_listed (complete : Complete page objects) {range : TimeRange} {key : String} :
    Found bucket page range key ↔
      ∃ prefixes, date_prefixes range = some prefixes ∧ (objects key).isSome = true ∧ ∃ under ∈ prefixes, hasPrefix key under = true := by
  constructor
  · rintro ⟨fuel,hits,searched,member⟩
    unfold search at searched
    cases days : date_prefixes range with
    | none => simp [days] at searched
    | some prefixes =>
      cases collected : collect page fuel [] prefixes with
      | none => simp [days,collected] at searched
      | some found =>
        simp only [days,collected,Option.bind_eq_bind,Option.bind_some,Option.some.injEq] at searched
        rw [← searched,List.mem_mergeSort,archived_hit_mem,mem_collect collected] at member
        rcases member with impossible | ⟨under,day,keys,listed,inside⟩
        · cases impossible
        · obtain ⟨stored,starts⟩ := (complete.listed listed key).mp inside
          exact ⟨prefixes,rfl,stored,under,day,starts⟩
  · rintro ⟨prefixes,days,stored,under,day,starts⟩
    obtain ⟨fuel,enough⟩ := complete.enough prefixes
    obtain ⟨found,collected⟩ := collect_total enough []
    obtain ⟨keys,listed⟩ := enough under day
    refine ⟨fuel,_,by simp only [search,days,collected,Option.bind_eq_bind,Option.bind_some]; rfl,?_⟩
    rw [List.mem_mergeSort,archived_hit_mem,mem_collect collected]
    exact Or.inr ⟨under,day,keys,listed,(complete.listed listed key).mpr ⟨stored,starts⟩⟩

theorem found_iff_covered (complete : Complete page objects) {range : TimeRange} {cutoff d : Datetime} (utc : cutoff.utcoffset = some 0)
    (includes : range.Includes d) (older : d.instant < cutoff.instant) (stored : (objects (build_archive_key cutoff)).isSome = true) :
    Found bucket page range (build_archive_key cutoff) ↔ Covered range cutoff := by
  rw [found_iff_listed complete]
  by_cases inside : 0 ≤ range.start.instant ∧ range.end_.instant ≤ (MAXORDINAL - 1) * DAY
  · obtain ⟨low,high⟩ := inside
    have ordered := range.ordered
    obtain ⟨s,start⟩ : ∃ s : Nat, range.start.instant = s := ⟨range.start.instant.toNat,by omega⟩
    obtain ⟨e,end_⟩ : ∃ e : Nat, range.end_.instant = e := ⟨range.end_.instant.toNat,by omega⟩
    have early : e ≤ (MAXORDINAL - 1) * DAY := by
      rw [end_,last_midnight] at high
      exact Int.ofNat_le.mp high
    have floor : (floor_day cutoff).instant = (cutoff.clock / DAY * DAY : Nat) := floor_instant utc
    rw [date_prefixes_eq start end_ early]
    -- the range begins no later than the day of the cutoff
    have before : s / DAY ≤ cutoff.clock / DAY := by
      have clock : cutoff.instant = cutoff.clock := by simp [Datetime.instant,utc]
      have earlier := includes.1
      exact Nat.div_le_div_right (by omega)
    constructor
    · rintro ⟨prefixes,days,-,under,day,starts⟩
      rw [← Option.some.inj days] at day
      obtain ⟨n,member,rfl⟩ := List.mem_map.mp day
      obtain ⟨begins,last⟩ := List.mem_range'_1.mp member
      have reached : n < begun e := by omega
      have inside := begun_le early
      rw [hasPrefix_key (by omega) (by omega)] at starts
      have same : n = cutoff.clock / DAY := Nat.succ.inj starts
      rw [same,lt_begun] at reached
      refine ⟨?_,low,high⟩
      rw [floor,end_]
      exact Int.ofNat_lt.mpr reached
    · rintro ⟨reached,-,-⟩
      rw [floor,end_] at reached
      have begun := (lt_begun (cutoff.clock / DAY) e).mpr (Int.ofNat_lt.mp reached)
      obtain ⟨first,last⟩ := ordinal_bounds cutoff
      refine ⟨_,rfl,stored,_,List.mem_map_of_mem (List.mem_range'_1.mpr ⟨before,?_⟩),(hasPrefix_key first last).mpr rfl⟩
      omega
  · constructor
    · rintro ⟨prefixes,days,-⟩
      rw [date_prefixes_none inside] at days
      cases days
    · rintro ⟨-,fits⟩
      exact absurd fits inside

end

section
variable {κ : Type} [DecidableEq κ] {size : PageSize} {cutoff : κ → Datetime}

theorem step_deleted_eq (s : State κ) (action : Action κ) (other : ∀ k n, action ≠ .commit k n) :
    (step size cutoff s action).deleted = s.deleted := by
  cases action with
  | begin k =>
    show (begin_ cutoff s k).deleted = s.deleted
    unfold begin_
    split <;> rfl
  | archive k n =>
    show (archive s k n).deleted = s.deleted
    unfold archive
    dsimp only
    split <;> rfl
  | archived k =>
    show (archived s k).deleted = s.deleted
    unfold archived
    dsimp only
    split <;> rfl
  | delete k n =>
    show (delete s k n).deleted = s.deleted
    unfold delete
    dsimp only
    split <;> rfl
  | finish k =>
    show (finish s k).deleted = s.deleted
    unfold finish
    split <;> rfl
  | fetch k n =>
    show (fetches size cutoff s k n).deleted = s.deleted
    unfold fetches
    split <;> rfl
  | put k n =>
    show (puts cutoff s k n).deleted = s.deleted
    unfold puts
    split <;> rfl
  | commit k n => exact absurd rfl (other k n)
  | fail k n =>
    show (fails s k n).deleted = s.deleted
    unfold fails
    split <;> rfl
  | abort k n =>
    show (aborts s k n).deleted = s.deleted
    unfold aborts
    split <;> rfl
  | insert row =>
    show (AuditPrune.insert s row).deleted = s.deleted
    unfold AuditPrune.insert
    split
    · split <;> rfl
    · rfl

theorem step_deleted (s : State κ) (action : Action κ) {p : κ × AuditRow} (member : p ∈ (step size cutoff s action).deleted) :
    p ∈ s.deleted ∨ isOlder (cutoff p.1) p.2 = true := by
  by_cases commit : ∃ k n, action = .commit k n
  · obtain ⟨k,n,rfl⟩ := commit
    have after : p ∈ (commits cutoff s k n).deleted := member
    unfold commits at after
    split at after
    · rcases List.mem_append.mp after with before | new
      · exact Or.inl before
      · obtain ⟨row,old,rfl⟩ := List.mem_map.mp new
        exact Or.inr (mem_older.mp old).2
    · exact Or.inl after
  · rw [step_deleted_eq s action fun k n same => commit ⟨k,n,same⟩] at member
    exact Or.inl member

theorem deleted_older (actions : List (Action κ)) {s : State κ} (before : ∀ p ∈ s.deleted, isOlder (cutoff p.1) p.2 = true) :
    ∀ p ∈ (actions.foldl (step size cutoff) s).deleted, isOlder (cutoff p.1) p.2 = true := by
  induction actions generalizing s with
  | nil => exact before
  | cons action actions ih =>
    refine ih fun p member => ?_
    rcases step_deleted s action member with was | old
    · exact before p was
    · exact old

end

/-- Whatever the retentions and the schedule, a search for a row that a run archived and deleted
    finds its archive just where the day of the cutoff of that run begins before the range ends. -/
theorem found_iff {κ : Type} [DecidableEq κ] (bucket : String) (size : PageSize) (tick : κ → Tick) (table : Table)
    (objects : String → Option (List Char)) (actions : List (Action κ)) {k : κ} {row : AuditRow}
    (deleted : (k,row) ∈ (pruned size tick table objects actions).deleted)
    (archived : Contains (pruned size tick table objects actions).objects (tick k).cutoff row) {range : TimeRange}
    (includes : range.Includes row.created_at) {page : ListPage}
    (complete : Complete page (pruned size tick table objects actions).objects) :
    Found bucket page range (build_archive_key (tick k).cutoff) ↔ Covered range (tick k).cutoff := by
  have older : row.created_at.instant < (tick k).cutoff.instant := by
    have old := deleted_older actions (s := .start table objects) (fun _ impossible => nomatch impossible) _ deleted
    simpa [isOlder] using old
  have utc : (tick k).cutoff.utcoffset = some 0 := (add_utc (tick k).utc (tick k).computed).1
  obtain ⟨rows,stored,-⟩ := archived
  exact found_iff_covered complete utc includes older (by rw [stored]; rfl)

/-- The default of ninety days, at one o'clock on the hundredth day. -/
def hundredth_day (_ : Unit) : Tick where
  settings := ⟨.unwired,none,.unwired⟩
  now := ⟨719262 * DAY + 3600000000,some 0,by decide⟩
  utc := rfl
  cutoff := ⟨719172 * DAY + 3600000000,some 0,by decide⟩
  computed := by decide

def one_row : Table := ⟨[first_row],by decide⟩

/-- One run, without a failure. -/
theorem attempted : 0 < 3 := by decide

def first_attempt : Attempt := ⟨0,attempted⟩

def undisturbed : List (Action Unit) :=
  [.begin (),.archive () first_attempt,.fetch () first_attempt,.put () first_attempt,.archived (),.delete () first_attempt,
    .commit () first_attempt]

theorem undisturbed_objects : (pruned ARCHIVE_BATCH_SIZE hundredth_day one_row (fun _ => none) undisturbed).objects =
    Function.update (fun _ => none) (build_archive_key (hundredth_day ()).cutoff) (some (encode_jsonl [first_row])) := by
  rfl

theorem undisturbed_deleted : ((),first_row) ∈ (pruned ARCHIVE_BATCH_SIZE hundredth_day one_row (fun _ => none) undisturbed).deleted := by
  decide

theorem undisturbed_archived :
    Contains (pruned ARCHIVE_BATCH_SIZE hundredth_day one_row (fun _ => none) undisturbed).objects (hundredth_day ()).cutoff first_row := by
  rw [undisturbed_objects]
  exact ⟨[first_row],Function.update_self ..,List.pairwise_singleton ..,by decide⟩

/-- The listing of a bucket with one object. -/
def only (key : String) : ListPage := fun under _ => some (if hasPrefix key under then [key] else [],none)

theorem only_complete (key : String) (text : List Char) : Complete (only key) (Function.update (fun _ => none) key (some text)) := by
  intro under
  refine ⟨1,_,rfl,fun other => ?_⟩
  by_cases same : other = key
  · subst same
    rw [Function.update_self]
    by_cases starts : hasPrefix other under = true
    · simp [starts]
    · simp [starts]
  · rw [Function.update_of_ne same]
    by_cases starts : hasPrefix key under = true
    · simp [starts,same]
    · simp [starts]

theorem undisturbed_complete : Complete (only (build_archive_key (hundredth_day ()).cutoff))
    (pruned ARCHIVE_BATCH_SIZE hundredth_day one_row (fun _ => none) undisturbed).objects := by
  rw [undisturbed_objects]
  exact only_complete _ _

theorem utc_aware : (some 0 : Option Int) ≠ none := Option.some_ne_none 0

theorem days_ordered {count : Nat} (positive : 0 < count) (inside : (719162 + count) * DAY < MAXORDINAL * DAY) :
    (⟨719162 * DAY,some 0,epoch⟩ : Datetime).instant < (⟨(719162 + count) * DAY,some 0,inside⟩ : Datetime).instant := by
  simp only [Datetime.instant,Option.getD_some,day_length]
  omega

/-- So many days from the day of the row. -/
def days_from (count : Nat) (positive : 0 < count) (inside : (719162 + count) * DAY < MAXORDINAL * DAY) : TimeRange where
  start := ⟨719162 * DAY,some 0,epoch⟩
  end_ := ⟨(719162 + count) * DAY,some 0,inside⟩
  start_aware := utc_aware
  end_aware := utc_aware
  ordered := days_ordered positive inside

/-- Eleven days reach the day of the cutoff. -/
theorem found_iff_eleven : Found DEFAULT_BUCKET (only (build_archive_key (hundredth_day ()).cutoff)) (days_from 11 (by decide) (by decide))
    (build_archive_key (hundredth_day ()).cutoff) :=
  (found_iff DEFAULT_BUCKET ARCHIVE_BATCH_SIZE hundredth_day one_row (fun _ => none) undisturbed undisturbed_deleted undisturbed_archived
    (by unfold TimeRange.Includes; decide) undisturbed_complete).mpr (by decide)

/-- The day of the row does not. -/
theorem own_day_missed : ¬∀ (bucket : String) (size : PageSize) (tick : Unit → Tick) (table : Table) (objects : String → Option (List Char))
    (actions : List (Action Unit)) (k : Unit) (row : AuditRow), (k,row) ∈ (pruned size tick table objects actions).deleted →
    Contains (pruned size tick table objects actions).objects (tick k).cutoff row → ∀ range : TimeRange, range.Includes row.created_at →
    ∀ page, Complete page (pruned size tick table objects actions).objects → Found bucket page range (build_archive_key (tick k).cutoff) := by
  intro always
  have includes : (days_from 1 (by decide) (by decide)).Includes first_row.created_at := by
    unfold TimeRange.Includes
    decide
  have found := always DEFAULT_BUCKET ARCHIVE_BATCH_SIZE hundredth_day one_row (fun _ => none) undisturbed () first_row undisturbed_deleted
    undisturbed_archived _ includes _ undisturbed_complete
  obtain ⟨rows,stored,-⟩ := undisturbed_archived
  have covered := (found_iff_covered undisturbed_complete rfl includes (by decide) (by rw [stored]; rfl)).mp found
  exact absurd covered (by decide)

end Automation.ArchiveSearch
