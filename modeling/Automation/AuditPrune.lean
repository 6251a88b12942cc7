import Automation.AuditArchive
import Automation.Effects
import Automation.Keyset
import Mathlib.Data.Fintype.Basic
import Mathlib.Data.Prod.Lex

/-!
The runs that prune the audit rows: each archives the rows from before its cutoff and then
deletes them. What a run deletes stays in its archive (`deleted_archived`) where no two
cutoffs share a key, and where no attempt to archive that the workflow has given up is
still reading when the rows of its cutoff are deleted.
-/
namespace Automation.AuditPrune
open Automation.AuditArchive Automation.Calendar Automation.Effects

/-- `ORDER BY created_at ASC, id ASC`. -/
def order (row : AuditRow) : Int ×ₗ Nat := toLex (row.created_at.instant,row.id)

/-- The rows of `automation.audit_events`; the id is the primary key. -/
structure Table where
  rows : List AuditRow
  ids : (rows.map AuditRow.id).Nodup

/-- `created_at < cutoff`. -/
def isOlder (cutoff : Datetime) (row : AuditRow) : Bool := row.created_at.instant < cutoff.instant

def Table.older (t : Table) (cutoff : Datetime) : List AuditRow := t.rows.filter (isOlder cutoff)

def Table.delete_older (t : Table) (cutoff : Datetime) : Table where
  rows := t.rows.filter fun row => !isOlder cutoff row
  ids := t.ids.sublist (List.filter_sublist.map _)

def Table.insert (t : Table) (row : AuditRow) (fresh : row.id ∉ t.rows.map AuditRow.id) : Table where
  rows := row :: t.rows
  ids := List.nodup_cons.mpr ⟨fresh,t.ids⟩

abbrev PageSize := {size : Nat // 0 < size}

def ARCHIVE_BATCH_SIZE : PageSize := ⟨5000,by decide⟩

/-- An attempt of `archive_audit_to_minio`. -/
inductive Archive where
  | waiting
  | reading (rows : List AuditRow)
  | uploading (rows : List AuditRow)
  | completed
  | failed
  deriving DecidableEq

/-- The attempt after a page. One that is not full is the last; without rows there is nothing
    to upload. -/
def proceed (size : PageSize) (rows page : List AuditRow) : Archive :=
  if page.length < size.1 then if rows ++ page = [] then .completed else .uploading (rows ++ page)
  else .reading (rows ++ page)

/-- The next page follows the last row of the page before. -/
def fetch (size : PageSize) (cutoff : Datetime) (t : Table) (rows : List AuditRow) : Archive :=
  proceed size rows (Keyset.page order size.1 rows.getLast? (t.older cutoff))

/-- An attempt of `delete_audit_older_than`, which is one transaction. -/
inductive Deletion where
  | waiting
  | running
  | committed
  | failed
  deriving DecidableEq

/-- The attempts of `_DEFAULT_RETRY`. -/
abbrev Attempt := Fin 3

inductive Phase where
  | ready
  | archiving
  | deleting
  | ended
  deriving DecidableEq

/-- A run of the workflow, with the current attempt of its archive activity. An attempt that
    it has given up may still go on. -/
structure Run where
  phase : Phase
  attempt : Attempt
  archive : Attempt → Archive
  deletion : Attempt → Deletion

def Run.ready : Run := ⟨.ready,0,fun _ => .waiting,fun _ => .waiting⟩

def Run.putArchive (r : Run) (n : Attempt) (a : Archive) : Run := { r with archive := Function.update r.archive n a }
def Run.putDeletion (r : Run) (n : Attempt) (d : Deletion) : Run := { r with deletion := Function.update r.deletion n d }

/-- The runs share the table and the bucket. A row that is deleted is noted with its run. -/
structure State (κ : Type) where
  table : Table
  objects : String → Option (List Char)
  cutoffs : List Datetime
  run : κ → Run
  deleted : List (κ × AuditRow)

def State.start {κ : Type} (table : Table) (objects : String → Option (List Char)) : State κ :=
  ⟨table,objects,[],fun _ => .ready,[]⟩

/-- What happens next: in a workflow, in an attempt, or to the table. -/
inductive Action (κ : Type) where
  | begin (k : κ)
  | archive (k : κ) (n : Attempt)
  | archived (k : κ)
  | delete (k : κ) (n : Attempt)
  | finish (k : κ)
  | fetch (k : κ) (n : Attempt)
  | put (k : κ) (n : Attempt)
  | commit (k : κ) (n : Attempt)
  | fail (k : κ) (n : Attempt)
  | abort (k : κ) (n : Attempt)
  | insert (row : AuditRow)

section
variable {κ : Type} [DecidableEq κ] (size : PageSize) (cutoff : κ → Datetime)

def State.put (s : State κ) (k : κ) (r : Run) : State κ := { s with run := Function.update s.run k r }

def begin_ (s : State κ) (k : κ) : State κ :=
  if (s.run k).phase = .ready then { s.put k { s.run k with phase := .archiving } with cutoffs := cutoff k :: s.cutoffs } else s

/-- An attempt of the first activity starts. -/
def archive (s : State κ) (k : κ) (n : Attempt) : State κ :=
  let r := s.run k
  if r.phase = .archiving ∧ r.archive n = .waiting then s.put k { r.putArchive n (.reading []) with attempt := n } else s

/-- The current attempt has returned. -/
def archived (s : State κ) (k : κ) : State κ :=
  let r := s.run k
  if r.phase = .archiving ∧ r.archive r.attempt = .completed then s.put k { r with phase := .deleting } else s

/-- An attempt of the second activity starts. -/
def delete (s : State κ) (k : κ) (n : Attempt) : State κ :=
  let r := s.run k
  if r.phase = .deleting ∧ r.deletion n = .waiting then s.put k (r.putDeletion n .running) else s

/-- The workflow ends, or fails after its last attempt. -/
def finish (s : State κ) (k : κ) : State κ :=
  if (s.run k).phase = .ready then s else s.put k { s.run k with phase := .ended }

def fetches (s : State κ) (k : κ) (n : Attempt) : State κ :=
  match (s.run k).archive n with
  | .reading rows => s.put k ((s.run k).putArchive n (fetch size (cutoff k) s.table rows))
  | _ => s

def puts (s : State κ) (k : κ) (n : Attempt) : State κ :=
  match (s.run k).archive n with
  | .uploading rows =>
    { s.put k ((s.run k).putArchive n .completed) with
      objects := Function.update s.objects (build_archive_key (cutoff k)) (some (encode_jsonl rows)) }
  | _ => s

def commits (s : State κ) (k : κ) (n : Attempt) : State κ :=
  if (s.run k).deletion n = .running then
    { s.put k ((s.run k).putDeletion n .committed) with
      table := s.table.delete_older (cutoff k)
      deleted := s.deleted ++ (s.table.older (cutoff k)).map fun row => (k,row) }
  else s

def fails (s : State κ) (k : κ) (n : Attempt) : State κ :=
  match (s.run k).archive n with
  | .reading _ | .uploading _ => s.put k ((s.run k).putArchive n .failed)
  | _ => s

def aborts (s : State κ) (k : κ) (n : Attempt) : State κ :=
  if (s.run k).deletion n = .running then s.put k ((s.run k).putDeletion n .failed) else s

/-- A row gets a new id, and is not from before a cutoff that was computed. -/
def insert (s : State κ) (row : AuditRow) : State κ :=
  if fresh : row.id ∉ s.table.rows.map AuditRow.id then
    if ∀ c ∈ s.cutoffs, c.instant ≤ row.created_at.instant then { s with table := s.table.insert row fresh } else s
  else s

def step (s : State κ) : Action κ → State κ
  | .begin k => begin_ cutoff s k
  | .archive k n => archive s k n
  | .archived k => archived s k
  | .delete k n => delete s k n
  | .finish k => finish s k
  | .fetch k n => fetches size cutoff s k n
  | .put k n => puts cutoff s k n
  | .commit k n => commits cutoff s k n
  | .fail k n => fails s k n
  | .abort k n => aborts s k n
  | .insert row => insert s row

def Contains (objects : String → Option (List Char)) (cutoff : Datetime) (row : AuditRow) : Prop :=
  ∃ rows, objects (build_archive_key cutoff) = some (encode_jsonl rows) ∧ (rows.Pairwise fun a b => order a < order b) ∧ rows.count row = 1

def Kept (s : State κ) : Prop :=
  ∀ p ∈ s.deleted, (∃ n, (s.run p.1).archive n = .completed) ∧ Contains s.objects (cutoff p.1) p.2

/-- An attempt that has rows, and will upload them. -/
def Archive.Busy : Archive → Prop
  | .reading rows => rows ≠ []
  | .uploading _ => True
  | _ => False

instance : DecidablePred Archive.Busy
  | .reading rows => inferInstanceAs (Decidable (rows ≠ []))
  | .uploading _ => inferInstanceAs (Decidable True)
  | .waiting => inferInstanceAs (Decidable False)
  | .completed => inferInstanceAs (Decidable False)
  | .failed => inferInstanceAs (Decidable False)

/-- No other cutoff has the key of a cutoff, and no attempt is busy with the rows of a cutoff
    when they are deleted. -/
def Orderly (s : State κ) : Action κ → Prop
  | .begin k => ∀ c ∈ s.cutoffs, build_archive_key c = build_archive_key (cutoff k) → c = cutoff k
  | .commit k n => (s.run k).deletion n = .running → ∀ j m, cutoff j = cutoff k → ¬((s.run j).archive m).Busy
  | _ => True

instance [Fintype κ] (s : State κ) : DecidablePred (Orderly cutoff s)
  | .begin k => inferInstanceAs (Decidable (∀ c ∈ s.cutoffs, build_archive_key c = build_archive_key (cutoff k) → c = cutoff k))
  | .commit k n =>
    inferInstanceAs (Decidable ((s.run k).deletion n = .running → ∀ j m, cutoff j = cutoff k → ¬((s.run j).archive m).Busy))
  | .archive _ _ => inferInstanceAs (Decidable True)
  | .archived _ => inferInstanceAs (Decidable True)
  | .delete _ _ => inferInstanceAs (Decidable True)
  | .finish _ => inferInstanceAs (Decidable True)
  | .fetch _ _ => inferInstanceAs (Decidable True)
  | .put _ _ => inferInstanceAs (Decidable True)
  | .fail _ _ => inferInstanceAs (Decidable True)
  | .abort _ _ => inferInstanceAs (Decidable True)
  | .insert _ => inferInstanceAs (Decidable True)

end

theorem order_nodup (t : Table) (cutoff : Datetime) : ((t.older cutoff).map order).Nodup := by
  have ids : ((t.older cutoff).map AuditRow.id).Nodup := t.ids.sublist (List.filter_sublist.map _)
  have through : (t.older cutoff).map AuditRow.id = ((t.older cutoff).map order).map fun place => (ofLex place).2 := by
    rw [List.map_map]
    rfl
  rw [through] at ids
  exact ids.of_map _

variable {row : AuditRow}

theorem mem_older {t : Table} {cutoff : Datetime} : row ∈ t.older cutoff ↔ row ∈ t.rows ∧ isOlder cutoff row = true :=
  List.mem_filter

theorem older_delete {t : Table} {cutoff other : Datetime} (member : row ∈ (t.delete_older other).older cutoff) :
    row ∈ t.older cutoff := by
  obtain ⟨kept,old⟩ := mem_older.mp member
  exact mem_older.mpr ⟨List.mem_of_mem_filter kept,old⟩

theorem older_delete_self (t : Table) (cutoff : Datetime) : (t.delete_older cutoff).older cutoff = [] := by
  refine List.eq_nil_iff_forall_not_mem.mpr fun row member => ?_
  obtain ⟨kept,old⟩ := mem_older.mp member
  have young := (List.mem_filter.mp kept).2
  rw [old] at young
  cases young

theorem older_insert {t : Table} {cutoff : Datetime} (fresh : row.id ∉ t.rows.map AuditRow.id)
    (young : cutoff.instant ≤ row.created_at.instant) : (t.insert row fresh).older cutoff = t.older cutoff := by
  have not_older : ¬isOlder cutoff row = true := by
    unfold isOlder
    rw [decide_eq_true_eq]
    omega
  exact List.filter_cons_of_neg not_older

/-- What an attempt has of the rows from before its cutoff. -/
def Archive.Reads (older : List AuditRow) : Archive → Prop
  | .reading rows => Keyset.Reading order older rows
  | .uploading rows => (rows.Pairwise fun a b => order a < order b) ∧ ∀ row ∈ older, row ∈ rows
  | _ => True

theorem Archive.Reads.mono {older fewer : List AuditRow} {a : Archive} (reads : a.Reads older) (still : ∀ row ∈ fewer, row ∈ older) :
    a.Reads fewer := by
  cases a with
  | waiting => trivial
  | reading rows => exact Keyset.Reading.mono reads still
  | uploading rows => exact ⟨reads.1,fun row member => reads.2 row (still row member)⟩
  | completed => trivial
  | failed => trivial

section
variable {size : PageSize} {cutoff : Datetime} {t : Table} {rows : List AuditRow}

theorem fetch_reads (reading : Keyset.Reading order (t.older cutoff) rows) : (fetch size cutoff t rows).Reads (t.older cutoff) := by
  have next := @Keyset.Reading.page _ _ _ order size.1 _ _ reading (order_nodup t cutoff)
  unfold fetch proceed
  split
  · next short =>
    split
    · trivial
    · exact ⟨next.sorted,reading.complete short⟩
  · exact next

theorem fetch_completed (reading : Keyset.Reading order (t.older cutoff) rows) (done : fetch size cutoff t rows = .completed) :
    t.older cutoff = [] := by
  unfold fetch proceed at done
  split at done
  · next short =>
    split at done
    · next nothing =>
      refine List.eq_nil_iff_forall_not_mem.mpr fun row member => ?_
      have found := reading.complete short row member
      rw [nothing] at found
      cases found
    · cases done
  · cases done

/-- Without rows in the table and from before, an attempt completes. -/
theorem fetch_none (empty : t.older cutoff = []) : fetch size cutoff t [] = .completed := by
  have page : Keyset.page order size.1 none ([] : List AuditRow) = [] := List.take_nil
  unfold fetch
  rw [empty,List.getLast?_nil,page]
  exact if_pos size.2

end

theorem contains_of_mem {objects : String → Option (List Char)} {cutoff : Datetime} {rows : List AuditRow}
    (stored : objects (build_archive_key cutoff) = some (encode_jsonl rows)) (sorted : rows.Pairwise fun a b => order a < order b)
    (member : row ∈ rows) : Contains objects cutoff row := by
  refine ⟨rows,stored,sorted,List.count_eq_one_of_mem ?_ member⟩
  refine sorted.imp fun before same => ?_
  rw [same] at before
  exact lt_irrefl _ before

theorem contains_update {objects : String → Option (List Char)} {cutoff : Datetime} {key : String} {text : List Char}
    (apart : build_archive_key cutoff ≠ key) (contains : Contains objects cutoff row) :
    Contains (Function.update objects key (some text)) cutoff row := by
  obtain ⟨rows,stored,rest⟩ := contains
  exact ⟨rows,(Function.update_of_ne apart ..).trans stored,rest⟩

theorem contains_upload {objects : String → Option (List Char)} {cutoff : Datetime} {rows : List AuditRow} {key : String}
    (here : build_archive_key cutoff = key) (sorted : rows.Pairwise fun a b => order a < order b) (member : row ∈ rows) :
    Contains (Function.update objects key (some (encode_jsonl rows))) cutoff row := by
  subst here
  exact contains_of_mem (Function.update_self ..) sorted member

/-- What holds of a run with the table, the bucket and the cutoffs. -/
structure Good (c : Datetime) (t : Table) (objects : String → Option (List Char)) (cutoffs : List Datetime) (r : Run) : Prop where
  begun : r.phase ≠ .ready → c ∈ cutoffs
  ready : r.phase = .ready → (∀ n, r.archive n = .waiting) ∧ ∀ n, r.deletion n = .waiting
  reads : ∀ n, (r.archive n).Reads (t.older c)
  stored : ∀ n, r.archive n = .completed → ∀ row ∈ t.older c, Contains objects c row
  archived : r.phase = .deleting ∨ (∃ n, r.deletion n ≠ .waiting) → ∃ n, r.archive n = .completed
  pruned : ∀ n, r.deletion n = .committed → t.older c = []

section
variable {c : Datetime} {t t' : Table} {objects objects' : String → Option (List Char)} {cutoffs : List Datetime} {r : Run}

theorem good_ready (c : Datetime) (t : Table) (objects : String → Option (List Char)) (cutoffs : List Datetime) :
    Good c t objects cutoffs .ready where
  begun begun := absurd rfl begun
  ready _ := ⟨fun _ => rfl,fun _ => rfl⟩
  reads _ := trivial
  stored _ impossible := nomatch impossible
  archived := by
    rintro (impossible | ⟨n,impossible⟩)
    · cases impossible
    · exact absurd rfl impossible
  pruned _ impossible := nomatch impossible

theorem Good.another (good : Good c t objects cutoffs r) (other : Datetime) : Good c t objects (other :: cutoffs) r :=
  { good with begun := fun begun => List.mem_cons_of_mem _ (good.begun begun) }

theorem Good.fewer (good : Good c t objects cutoffs r) (fewer : ∀ row ∈ t'.older c, row ∈ t.older c) : Good c t' objects cutoffs r :=
  { good with
    reads := fun n => (good.reads n).mono fewer
    stored := fun n done row member => good.stored n done row (fewer row member)
    pruned := fun n committed => by
      refine List.eq_nil_iff_forall_not_mem.mpr fun row member => ?_
      have before := fewer row member
      rw [good.pruned n committed] at before
      cases before }

/-- The table gets rows that are not from before the cutoff, if that is known. -/
theorem Good.more (good : Good c t objects cutoffs r) (same : c ∈ cutoffs → t'.older c = t.older c) : Good c t' objects cutoffs r := by
  by_cases ready : r.phase = .ready
  · obtain ⟨archive,deletion⟩ := good.ready ready
    refine { good with reads := ?_, stored := ?_, pruned := ?_ }
    · intro n
      rw [archive n]
      trivial
    · intro n done
      rw [archive n] at done
      cases done
    · intro n committed
      rw [deletion n] at committed
      cases committed
  · refine good.fewer fun row member => ?_
    rw [same (good.begun ready)] at member
    exact member

theorem Good.bucket (good : Good c t objects cutoffs r)
    (kept : ∀ n, r.archive n = .completed → ∀ row ∈ t.older c, Contains objects c row → Contains objects' c row) :
    Good c t objects' cutoffs r :=
  { good with stored := fun n done row member => kept n done row member (good.stored n done row member) }

theorem archive_self (n : Attempt) (a : Archive) : (r.putArchive n a).archive n = a := Function.update_self ..

theorem archive_other {m n : Attempt} (apart : m ≠ n) (a : Archive) : (r.putArchive n a).archive m = r.archive m :=
  Function.update_of_ne apart ..

theorem deletion_self (n : Attempt) (d : Deletion) : (r.putDeletion n d).deletion n = d := Function.update_self ..

theorem deletion_other {m n : Attempt} (apart : m ≠ n) (d : Deletion) : (r.putDeletion n d).deletion m = r.deletion m :=
  Function.update_of_ne apart ..

theorem Good.putArchive (good : Good c t objects cutoffs r) {n : Attempt} {a : Archive} (begun : r.phase ≠ .ready)
    (open_ : r.archive n ≠ .completed) (reads : a.Reads (t.older c))
    (stored : a = .completed → ∀ row ∈ t.older c, Contains objects c row) : Good c t objects cutoffs (r.putArchive n a) := by
  refine ⟨good.begun,fun ready => absurd ready begun,?_,?_,?_,good.pruned⟩
  · intro m
    by_cases same : m = n
    · rw [same,archive_self]
      exact reads
    · rw [archive_other same]
      exact good.reads m
  · intro m done
    by_cases same : m = n
    · rw [same,archive_self] at done
      exact stored done
    · rw [archive_other same] at done
      exact good.stored m done
  · intro later
    obtain ⟨m,done⟩ := good.archived later
    have apart : m ≠ n := by
      rintro rfl
      exact open_ done
    exact ⟨m,(archive_other apart a).trans done⟩

theorem Good.putDeletion (good : Good c t objects cutoffs r) {n : Attempt} {d : Deletion} (begun : r.phase ≠ .ready)
    (archived : ∃ n, r.archive n = .completed) (pruned : d = .committed → t.older c = []) :
    Good c t objects cutoffs (r.putDeletion n d) := by
  refine ⟨good.begun,fun ready => absurd ready begun,good.reads,good.stored,fun _ => archived,?_⟩
  intro m committed
  by_cases same : m = n
  · rw [same,deletion_self] at committed
    exact pruned committed
  · rw [deletion_other same] at committed
    exact good.pruned m committed

theorem Good.phase (good : Good c t objects cutoffs r) {phase : Phase} {attempt : Attempt} (begun : c ∈ cutoffs) (next : phase ≠ .ready)
    (archived : phase = .deleting → ∃ n, r.archive n = .completed) :
    Good c t objects cutoffs { r with phase := phase, attempt := attempt } := by
  refine ⟨fun _ => begun,fun ready => absurd ready next,good.reads,good.stored,?_,good.pruned⟩
  rintro (deleting | started)
  · exact archived deleting
  · exact good.archived (Or.inr started)

theorem Good.current (good : Good c t objects cutoffs r) (attempt : Attempt) : Good c t objects cutoffs { r with attempt := attempt } :=
  ⟨good.begun,good.ready,good.reads,good.stored,good.archived,good.pruned⟩

theorem Good.not_ready (good : Good c t objects cutoffs r) {n : Attempt} (active : r.archive n ≠ .waiting) : r.phase ≠ .ready := by
  intro ready
  exact active ((good.ready ready).1 n)

theorem Good.not_ready_of_deletion (good : Good c t objects cutoffs r) {n : Attempt} (active : r.deletion n ≠ .waiting) :
    r.phase ≠ .ready := by
  intro ready
  exact active ((good.ready ready).2 n)

end

/-- The rows of a cutoff that were deleted are no attempt's business any more. -/
def Settled {κ : Type} (cutoff : κ → Datetime) (run : κ → Run) : Prop :=
  ∀ k n, (run k).deletion n = .committed → ∀ j m, cutoff j = cutoff k → ¬((run j).archive m).Busy

structure Inv {κ : Type} (cutoff : κ → Datetime) (s : State κ) : Prop where
  good : ∀ k, Good (cutoff k) s.table s.objects s.cutoffs (s.run k)
  keys : ∀ a ∈ s.cutoffs, ∀ b ∈ s.cutoffs, build_archive_key a = build_archive_key b → a = b
  settled : Settled cutoff s.run
  deleted : ∀ p ∈ s.deleted, (∃ n, (s.run p.1).deletion n = .committed) ∧ Contains s.objects (cutoff p.1) p.2

theorem inv_start {κ : Type} (cutoff : κ → Datetime) (table : Table) (objects : String → Option (List Char)) :
    Inv cutoff (.start table objects) where
  good k := good_ready (cutoff k) table objects []
  keys _ impossible := nomatch impossible
  settled _ _ impossible := nomatch impossible
  deleted _ impossible := nomatch impossible

theorem Inv.kept {κ : Type} {cutoff : κ → Datetime} {s : State κ} (inv : Inv cutoff s) : Kept cutoff s := by
  intro p member
  obtain ⟨⟨n,committed⟩,contains⟩ := inv.deleted p member
  refine ⟨(inv.good p.1).archived (Or.inr ⟨n,?_⟩),contains⟩
  rw [committed]
  exact Deletion.noConfusion

section
variable {κ : Type} [DecidableEq κ] {size : PageSize} {cutoff : κ → Datetime} {s : State κ} {k : κ} {r : Run}

theorem run_self : (s.put k r).run k = r := Function.update_self ..

theorem run_other {j : κ} (apart : j ≠ k) : (s.put k r).run j = s.run j := Function.update_of_ne apart ..

/-- A run that commits nothing new, and whose attempts are busy only where one was. -/
theorem Settled.put (settled : Settled cutoff s.run) (committed : ∀ n, r.deletion n = .committed → (s.run k).deletion n = .committed)
    (busy : ∀ m, (r.archive m).Busy → ((s.run k).archive m).Busy ∨ ∀ j n, cutoff k = cutoff j → (s.run j).deletion n ≠ .committed) :
    Settled cutoff (s.put k r).run := by
  intro j n done i m same
  have before : (s.run j).deletion n = .committed := by
    by_cases own : j = k
    · subst own
      rw [run_self] at done
      exact committed n done
    · rw [run_other own] at done
      exact done
  by_cases own : i = k
  · subst own
    rw [run_self]
    intro now
    obtain was | free := busy m now
    · exact settled j n before i m same was
    · exact free j n same before
  · rw [run_other own]
    exact settled j n before i m same

theorem Inv.put (inv : Inv cutoff s) (good : Good (cutoff k) s.table s.objects s.cutoffs r)
    (committed : ∀ n, r.deletion n = .committed ↔ (s.run k).deletion n = .committed)
    (busy : ∀ m, (r.archive m).Busy → ((s.run k).archive m).Busy ∨ ∀ j n, cutoff k = cutoff j → (s.run j).deletion n ≠ .committed) :
    Inv cutoff (s.put k r) := by
  refine ⟨?_,inv.keys,inv.settled.put (fun n => (committed n).mp) busy,?_⟩
  · intro j
    by_cases own : j = k
    · subst own
      rw [run_self]
      exact good
    · rw [run_other own]
      exact inv.good j
  · intro p member
    obtain ⟨⟨n,done⟩,contains⟩ := inv.deleted p member
    refine ⟨⟨n,?_⟩,contains⟩
    by_cases own : p.1 = k
    · rw [own,run_self]
      rw [own] at done
      exact (committed n).mpr done
    · rw [run_other own]
      exact done

theorem Inv.phase (inv : Inv cutoff s) {phase : Phase} {attempt : Attempt} (begun : cutoff k ∈ s.cutoffs) (next : phase ≠ .ready)
    (archived : phase = .deleting → ∃ n, (s.run k).archive n = .completed) :
    Inv cutoff (s.put k { s.run k with phase := phase, attempt := attempt }) :=
  inv.put ((inv.good k).phase begun next archived) (fun _ => Iff.rfl) fun _ busy => Or.inl busy

theorem Inv.putArchive (inv : Inv cutoff s) {n : Attempt} {a : Archive} (begun : (s.run k).phase ≠ .ready)
    (open_ : (s.run k).archive n ≠ .completed) (reads : a.Reads (s.table.older (cutoff k)))
    (stored : a = .completed → ∀ row ∈ s.table.older (cutoff k), Contains s.objects (cutoff k) row)
    (busy : a.Busy → ∀ j n, cutoff k = cutoff j → (s.run j).deletion n ≠ .committed) :
    Inv cutoff (s.put k ((s.run k).putArchive n a)) := by
  refine inv.put ((inv.good k).putArchive begun open_ reads stored) (fun _ => Iff.rfl) fun m now => ?_
  by_cases same : m = n
  · rw [same,archive_self] at now
    exact Or.inr (busy now)
  · rw [archive_other same] at now
    exact Or.inl now

theorem Inv.begin (inv : Inv cutoff s)
    (orderly : ∀ c ∈ s.cutoffs, build_archive_key c = build_archive_key (cutoff k) → c = cutoff k) : Inv cutoff (begin_ cutoff s k) := by
  unfold begin_
  split
  · next ready =>
    have wider : Inv cutoff { s with cutoffs := cutoff k :: s.cutoffs } := by
      refine ⟨fun j => (inv.good j).another (cutoff k),?_,inv.settled,inv.deleted⟩
      intro a first b second same
      obtain rfl | a_before := List.mem_cons.mp first
      · obtain rfl | b_before := List.mem_cons.mp second
        · rfl
        · exact (orderly b b_before same.symm).symm
      · obtain rfl | b_before := List.mem_cons.mp second
        · exact orderly a a_before same
        · exact inv.keys a a_before b b_before same
    have begun : cutoff k ∈ cutoff k :: s.cutoffs := List.mem_cons_self
    exact wider.phase begun (by decide) fun impossible => nomatch impossible
  · exact inv

theorem Inv.archive (inv : Inv cutoff s) (n : Attempt) : Inv cutoff (archive s k n) := by
  show Inv cutoff (if (s.run k).phase = .archiving ∧ (s.run k).archive n = .waiting then
    s.put k { (s.run k).putArchive n (.reading []) with attempt := n } else s)
  split
  · next start =>
    obtain ⟨archiving,waiting⟩ := start
    have begun : (s.run k).phase ≠ .ready := by
      rw [archiving]
      decide
    have open_ : (s.run k).archive n ≠ .completed := by
      rw [waiting]
      exact Archive.noConfusion
    have reads : (Archive.reading []).Reads (s.table.older (cutoff k)) := Keyset.Reading.nil
    have good := (inv.good k).putArchive begun open_ reads fun impossible => nomatch impossible
    refine inv.put (good.current n) (fun _ => Iff.rfl) fun m busy => ?_
    by_cases same : m = n
    · have idle : ((s.run k).putArchive n (.reading [])).archive m = .reading [] := by rw [same,archive_self]
      exact absurd rfl (idle ▸ busy : (Archive.reading []).Busy)
    · exact Or.inl (archive_other same (.reading []) ▸ busy)
  · exact inv

theorem Inv.archived (inv : Inv cutoff s) : Inv cutoff (archived s k) := by
  show Inv cutoff (if (s.run k).phase = .archiving ∧ (s.run k).archive (s.run k).attempt = .completed then
    s.put k { s.run k with phase := .deleting } else s)
  split
  · next returned =>
    obtain ⟨archiving,completed⟩ := returned
    have begun : cutoff k ∈ s.cutoffs := by
      apply (inv.good k).begun
      rw [archiving]
      decide
    exact inv.phase begun (by decide) fun _ => ⟨_,completed⟩
  · exact inv

theorem Inv.delete (inv : Inv cutoff s) (n : Attempt) : Inv cutoff (delete s k n) := by
  show Inv cutoff (if (s.run k).phase = .deleting ∧ (s.run k).deletion n = .waiting then
    s.put k ((s.run k).putDeletion n .running) else s)
  split
  · next start =>
    obtain ⟨deleting,waiting⟩ := start
    have begun : (s.run k).phase ≠ .ready := by
      rw [deleting]
      decide
    have good := inv.good k
    refine inv.put (good.putDeletion begun (good.archived (Or.inl deleting)) fun impossible => nomatch impossible) ?_
      fun _ busy => Or.inl busy
    intro m
    by_cases same : m = n
    · rw [same,deletion_self,waiting]
      constructor
      · intro impossible
        cases impossible
      · intro impossible
        cases impossible
    · rw [deletion_other same]
  · exact inv

theorem Inv.finish (inv : Inv cutoff s) : Inv cutoff (finish s k) := by
  unfold AuditPrune.finish
  split
  · exact inv
  · next begun => exact inv.phase ((inv.good k).begun begun) (by decide) fun impossible => nomatch impossible

theorem Inv.fetches (inv : Inv cutoff s) (n : Attempt) : Inv cutoff (fetches size cutoff s k n) := by
  unfold AuditPrune.fetches
  split
  · next rows at_ =>
    have good := inv.good k
    have reading : Keyset.Reading order (s.table.older (cutoff k)) rows := by
      have reads := good.reads n
      rw [at_] at reads
      exact reads
    have active : (s.run k).archive n ≠ .waiting := by
      rw [at_]
      exact Archive.noConfusion
    have open_ : (s.run k).archive n ≠ .completed := by
      rw [at_]
      exact Archive.noConfusion
    refine inv.putArchive (good.not_ready active) open_ (fetch_reads reading) ?_ ?_
    · intro done row member
      rw [fetch_completed reading done] at member
      cases member
    · -- after the deletion there is nothing to read
      intro busy j m same committed
      have idle := inv.settled j m committed k n same
      rw [at_] at idle
      have nothing : rows = [] := not_not.mp idle
      have empty : s.table.older (cutoff k) = [] := by
        rw [same]
        exact (inv.good j).pruned m committed
      rw [nothing,fetch_none empty] at busy
      exact busy
  · exact inv

theorem Inv.fails (inv : Inv cutoff s) (n : Attempt) : Inv cutoff (fails s k n) := by
  have failed : (s.run k).archive n ≠ .waiting → (s.run k).archive n ≠ .completed → Inv cutoff (s.put k ((s.run k).putArchive n .failed)) := by
    intro active open_
    exact inv.putArchive ((inv.good k).not_ready active) open_ trivial (fun impossible => nomatch impossible) fun impossible => impossible.elim
  unfold AuditPrune.fails
  cases at_ : (s.run k).archive n with
  | waiting => exact inv
  | reading rows => exact failed (by simp [at_]) (by simp [at_])
  | uploading rows => exact failed (by simp [at_]) (by simp [at_])
  | completed => exact inv
  | failed => exact inv

theorem Inv.aborts (inv : Inv cutoff s) (n : Attempt) : Inv cutoff (aborts s k n) := by
  unfold AuditPrune.aborts
  split
  · next running =>
    have good := inv.good k
    have active : (s.run k).deletion n ≠ .waiting := by
      rw [running]
      exact Deletion.noConfusion
    refine inv.put (good.putDeletion (good.not_ready_of_deletion active) (good.archived (Or.inr ⟨n,active⟩)) fun impossible => nomatch impossible)
      ?_ fun _ busy => Or.inl busy
    intro m
    by_cases same : m = n
    · rw [same,deletion_self,running]
      constructor
      · intro impossible
        cases impossible
      · intro impossible
        cases impossible
    · rw [deletion_other same]
  · exact inv

omit [DecidableEq κ] in
theorem Inv.upload (inv : Inv cutoff s) {n : Attempt} {rows : List AuditRow} (at_ : (s.run k).archive n = .uploading rows) {key : String}
    (here : build_archive_key (cutoff k) = key) :
    Inv cutoff { s with objects := Function.update s.objects key (some (encode_jsonl rows)) } := by
  have good := inv.good k
  obtain ⟨sorted,whole⟩ : (Archive.uploading rows).Reads (s.table.older (cutoff k)) := at_ ▸ good.reads n
  have active : (s.run k).archive n ≠ .waiting := by
    rw [at_]
    exact Archive.noConfusion
  have begun := good.begun (good.not_ready active)
  refine ⟨?_,inv.keys,inv.settled,?_⟩
  · intro j
    refine (inv.good j).bucket fun m done row member contains => ?_
    by_cases apart : build_archive_key (cutoff j) = key
    · have completed : (s.run j).archive m ≠ .waiting := by
        rw [done]
        exact Archive.noConfusion
      have same := inv.keys _ ((inv.good j).begun ((inv.good j).not_ready completed)) _ begun (apart.trans here.symm)
      rw [same] at member
      exact contains_upload apart sorted (whole row member)
    · exact contains_update apart contains
  · intro p member
    obtain ⟨⟨m,committed⟩,contains⟩ := inv.deleted p member
    refine ⟨⟨m,committed⟩,contains_update ?_ contains⟩
    intro apart
    have started : (s.run p.1).deletion m ≠ .waiting := by
      rw [committed]
      exact Deletion.noConfusion
    have same := inv.keys _ ((inv.good p.1).begun ((inv.good p.1).not_ready_of_deletion started)) _ begun (apart.trans here.symm)
    have idle := inv.settled p.1 m committed k n same.symm
    rw [at_] at idle
    exact idle trivial

theorem Inv.puts (inv : Inv cutoff s) (n : Attempt) : Inv cutoff (puts cutoff s k n) := by
  unfold AuditPrune.puts
  split
  · next rows at_ =>
    have good := inv.good k
    obtain ⟨sorted,whole⟩ : (Archive.uploading rows).Reads (s.table.older (cutoff k)) := at_ ▸ good.reads n
    have active : (s.run k).archive n ≠ .waiting := by
      rw [at_]
      exact Archive.noConfusion
    have open_ : (s.run k).archive n ≠ .completed := by
      rw [at_]
      exact Archive.noConfusion
    obtain ⟨key,here⟩ : ∃ key, build_archive_key (cutoff k) = key := ⟨_,rfl⟩
    rw [here]
    have uploaded := inv.upload at_ here
    exact uploaded.putArchive (good.not_ready active) open_ trivial
      (fun _ row member => contains_upload here sorted (whole row member)) fun busy => busy.elim
  · exact inv

theorem Inv.commits (inv : Inv cutoff s) {n : Attempt}
    (orderly : (s.run k).deletion n = .running → ∀ j m, cutoff j = cutoff k → ¬((s.run j).archive m).Busy) :
    Inv cutoff (commits cutoff s k n) := by
  unfold AuditPrune.commits
  split
  · next running =>
    have good := inv.good k
    have active : (s.run k).deletion n ≠ .waiting := by
      rw [running]
      exact Deletion.noConfusion
    obtain ⟨m,completed⟩ := good.archived (Or.inr ⟨n,active⟩)
    have still : ∀ j m, (s.run j).deletion m = .committed → ((s.put k ((s.run k).putDeletion n .committed)).run j).deletion m = .committed := by
      intro j m done
      by_cases own : j = k
      · subst own
        rw [run_self]
        by_cases same : m = n
        · rw [same,deletion_self]
        · rw [deletion_other same]
          exact done
      · rw [run_other own]
        exact done
    have archives : ∀ j, ((s.put k ((s.run k).putDeletion n .committed)).run j).archive = (s.run j).archive := by
      intro j
      by_cases own : j = k
      · subst own
        rw [run_self]
        rfl
      · rw [run_other own]
    refine ⟨?_,inv.keys,?_,?_⟩
    · intro j
      have fewer : Good (cutoff j) (s.table.delete_older (cutoff k)) s.objects s.cutoffs (s.run j) :=
        (inv.good j).fewer fun row => older_delete
      by_cases own : j = k
      · subst own
        show Good _ _ _ _ ((s.put j _).run j)
        rw [run_self]
        exact fewer.putDeletion (good.not_ready_of_deletion active) ⟨m,completed⟩ fun _ => older_delete_self ..
      · show Good _ _ _ _ ((s.put k _).run j)
        rw [run_other own]
        exact fewer
    · intro j m' done i m'' same
      show ¬(((s.put k ((s.run k).putDeletion n .committed)).run i).archive m'').Busy
      rw [archives]
      by_cases own : j = k
      · subst own
        exact orderly running i m'' same
      · have before : (s.run j).deletion m' = .committed := by
          have now : ((s.put k ((s.run k).putDeletion n .committed)).run j).deletion m' = .committed := done
          rw [run_other own] at now
          exact now
        exact inv.settled j m' before i m'' same
    · intro p member
      obtain before | new := List.mem_append.mp member
      · obtain ⟨⟨m',committed⟩,contains⟩ := inv.deleted p before
        exact ⟨⟨m',still p.1 m' committed⟩,contains⟩
      · obtain ⟨row,old,rfl⟩ := List.mem_map.mp new
        refine ⟨⟨n,?_⟩,good.stored m completed row old⟩
        show ((s.put k ((s.run k).putDeletion n .committed)).run k).deletion n = .committed
        rw [run_self,deletion_self]
  · exact inv

omit [DecidableEq κ] in
theorem Inv.insert (inv : Inv cutoff s) (row : AuditRow) : Inv cutoff (insert s row) := by
  unfold AuditPrune.insert
  split
  · next fresh =>
    split
    · next young =>
      exact ⟨fun j => (inv.good j).more fun begun => older_insert fresh (young _ begun),inv.keys,inv.settled,inv.deleted⟩
    · exact inv
  · exact inv

theorem Inv.step (inv : Inv cutoff s) {action : Action κ} (orderly : Orderly cutoff s action) : Inv cutoff (step size cutoff s action) := by
  cases action with
  | begin k => exact inv.begin orderly
  | archive k n => exact inv.archive n
  | archived k => exact inv.archived
  | delete k n => exact inv.delete n
  | finish k => exact inv.finish
  | fetch k n => exact inv.fetches n
  | put k n => exact inv.puts n
  | commit k n => exact inv.commits orderly
  | fail k n => exact inv.fails n
  | abort k n => exact inv.aborts n
  | insert row => exact inv.insert row

/-- Whatever the runs and the order of their steps, the rows that they delete stay in the
    archives that they completed before. -/
theorem deleted_archived (size : PageSize) (cutoff : κ → Datetime) (table : Table) (objects : String → Option (List Char))
    (actions : List (Action κ)) (orderly : Admitted (AuditPrune.step size cutoff) (Orderly cutoff) (.start table objects) actions) (n : Nat) :
    Kept cutoff ((actions.take n).foldl (AuditPrune.step size cutoff) (.start table objects)) :=
  (admitted_always (fun _ _ inv orderly => inv.step orderly) actions _ (inv_start cutoff table objects) orderly n).kept

end

theorem epoch : 719162 * DAY < MAXORDINAL * DAY := by decide

def first_row : AuditRow := ⟨1,"bot","system",none,"login","portal","ok",none,⟨719162 * DAY,some 0,epoch⟩,rfl⟩
def second_row : AuditRow := ⟨2,"bot","system",none,"logout","portal","ok",none,⟨719163 * DAY,some 0,by decide⟩,rfl⟩

def two_rows : Table := ⟨[second_row,first_row],by decide⟩

/-- One run, with the rows of a week before. -/
def week_later (_ : Unit) : Datetime := ⟨719170 * DAY,some 0,by decide⟩

/-- Pages of a row. -/
def single : PageSize := ⟨1,by decide⟩

/-- The first attempt to archive fails, the second completes, and the rows are deleted. -/
def retried : List (Action Unit) :=
  [.begin (),.archive () 0,.fetch () 0,.fail () 0,.archive () 1,.fetch () 1,.fetch () 1,.fetch () 1,.put () 1,.archived (),
    .delete () 0,.commit () 0]

theorem deleted_archived_retried :
    Admitted (step single week_later) (Orderly week_later) (.start two_rows fun _ => none) retried ∧
    Kept week_later ((retried.take 12).foldl (step single week_later) (.start two_rows fun _ => none)) := by
  have orderly : Admitted (step single week_later) (Orderly week_later) (.start two_rows fun _ => none) retried := by decide
  exact ⟨orderly,deleted_archived single week_later two_rows (fun _ => none) retried orderly 12⟩

/-- The first attempt to archive is given up after a page, and goes on when the rows are deleted. -/
def overtaken : List (Action Unit) :=
  [.begin (),.archive () 0,.fetch () 0,.archive () 1,.fetch () 1,.fetch () 1,.fetch () 1,.put () 1,.archived (),
    .delete () 0,.commit () 0,.fetch () 0,.put () 0]

/-- The attempt that was given up leaves an archive without the second row. -/
theorem overwrites : ¬∀ (size : PageSize) (cutoff : Unit → Datetime) (table : Table) (objects : String → Option (List Char))
    (actions : List (Action Unit)), Kept cutoff (actions.foldl (step size cutoff) (.start table objects)) := by
  intro always
  have kept := always single week_later two_rows (fun _ => none) overtaken
  obtain ⟨-,rows,stored,-,once⟩ := kept ((),second_row) (by decide)
  have left : (overtaken.foldl (step single week_later) (.start two_rows fun _ => none)).objects (build_archive_key (week_later ())) =
      some (encode_jsonl [first_row]) := by decide +kernel
  rw [left] at stored
  rw [← encode_jsonl_inj (Option.some.inj stored)] at once
  exact absurd once (by decide)

end Automation.AuditPrune
