import Automation.RelyGuarantee
import Automation.Sha256
import Mathlib.Data.List.Perm.Basic

/-!
The migration runner that every instance of the dashboard runs at its boot: it reads the
recorded versions and executes every other file with its record in one transaction. A
statement can be refused, and a transaction can commit without its answer. In any
interleaving of boots over any directories the scripts of the database are those of
its records, one each, and the result of a boot accounts for every file of its directory
(`boots_account`); after a restart, boots of a directory that was done execute nothing
(`boots_idle`).
-/
namespace Automation.Migrations
open Automation.Effects Automation.RelyGuarantee

structure MigrationFile where
  name : String
  bytes : List UInt8
  deriving DecidableEq

/-- The files of a directory; `none` is no directory. -/
abbrev Directory := Option (List MigrationFile)

/-- The `*.sql` files in order, without the drafts. -/
def discover_migrations : Directory → List MigrationFile
  | none => []
  | some entries => (entries.filter fun p =>
      p.name.endsWith ".sql" && !(p.name.startsWith "_" || p.name.startsWith ".")).mergeSort fun p q => p.name ≤ q.name

def checksum (path : MigrationFile) : String := Sha256.hexdigest path.bytes

/-- The stem of a name that ends in `.sql`. -/
def version_of (path : MigrationFile) : String := .ofList (path.name.toList.take (path.name.length - 4))

/-- The translation of line ends of a text file. -/
def universal_newlines : List Char → List Char
  | [] => []
  | '\r' :: '\n' :: cs => '\n' :: universal_newlines cs
  | c :: cs => (if c = '\r' then '\n' else c) :: universal_newlines cs

/-- `none` is the `UnicodeDecodeError`. -/
def read_text (path : MigrationFile) : Option String :=
  (String.fromUTF8? ⟨path.bytes.toArray⟩).map fun text => .ofList (universal_newlines text.toList)

/-- The rows of `shared.schema_migrations` in order, and the scripts executed. -/
structure Database where
  schema_migrations : List (String × String)
  executed : List String
  primary_key : (schema_migrations.map Prod.fst).Nodup

/-- A version that is not yet there. -/
abbrev Database.Fresh (db : Database) (version : String) : Prop := version ∉ db.schema_migrations.map Prod.fst

theorem primary_key_concat {db : Database} {version checksum : String} (fresh : db.Fresh version) :
    ((db.schema_migrations ++ [(version,checksum)]).map Prod.fst).Nodup := by
  rw [List.map_append,List.nodup_append]
  refine ⟨db.primary_key,by simp,fun a old b new same => fresh ?_⟩
  obtain rfl : b = version := List.mem_singleton.mp new
  exact same ▸ old

/-- A script has run, and its version is on record. -/
def Database.apply (db : Database) (version checksum sql : String) (fresh : db.Fresh version) : Database :=
  ⟨db.schema_migrations ++ [(version,checksum)],db.executed ++ [sql],primary_key_concat fresh⟩

inductive Outcome where
  | refused (cause : String)
  | committed
  | unacknowledged (cause : String)

inductive Statement where
  | acquire
  | create_table
  | select_applied
  | transaction (sql version checksum : String)

@[reducible] def statements : Signature where
  Cmd := Statement
  Res
    | .transaction _ _ _ => Outcome
    | _ => Except String Unit

inductive Failure where
  | database (cause : String)
  | undecodable (version : String)
  | migration_error (version cause : String)

abbrev Boot := Component Database statements Failure

structure AppliedMigration where
  version : String
  path : String
  checksum : String

structure ChecksumMismatch where
  version : String
  stored_checksum : String
  current_checksum : String

structure MigrationResult where
  newly_applied : List AppliedMigration
  already_applied : List String
  checksum_mismatches : List ChecksumMismatch

/-- The transaction of one file: of its script and its record both are kept or none. -/
def apply_file (path : MigrationFile) (sql : String) : Boot AppliedMigration := do
  let migration : AppliedMigration := ⟨version_of path,path.name,checksum path⟩
  let outcome : Outcome ← ask (E := statements) (.transaction sql migration.version migration.checksum)
  let db ← look
  if fresh : db.Fresh migration.version then
    match outcome with
    | .refused cause => .raise (.migration_error migration.version cause)
    | .committed =>
      modify fun _ => db.apply migration.version migration.checksum sql fresh
      return migration
    | .unacknowledged cause =>
      modify fun _ => db.apply migration.version migration.checksum sql fresh
      .raise (.migration_error migration.version cause)
  else .raise (.migration_error migration.version "duplicate key value violates unique constraint")

/-- The loop over the discovered files. -/
def walk (applied : List (String × String)) : List MigrationFile → MigrationResult → Boot MigrationResult
  | [], result => return result
  | path :: rest, result =>
    match applied.lookup (version_of path) with
    | some stored =>
      if stored ≠ checksum path then
        walk applied rest { result with
          checksum_mismatches := result.checksum_mismatches ++ [⟨version_of path,stored,checksum path⟩] }
      else walk applied rest { result with already_applied := result.already_applied ++ [version_of path] }
    | none =>
      match read_text path with
      | none => .raise (.undecodable (version_of path))
      | some sql => do
        let migration ← apply_file path sql
        walk applied rest { result with newly_applied := result.newly_applied ++ [migration] }

/-- The rest of a boot, where the statement did not fail. -/
def answered (reply : Except String Unit) (rest : Boot MigrationResult) : Boot MigrationResult :=
  match reply with
  | .error cause => .raise (.database cause)
  | .ok _ => rest

def apply_migrations (migrations_dir : Directory) : Boot MigrationResult := do
  let acquired : Except String Unit ← ask (E := statements) .acquire
  answered acquired do
    let created : Except String Unit ← ask (E := statements) .create_table
    answered created do
      let selected : Except String Unit ← ask (E := statements) .select_applied
      answered selected do
        let db ← look
        walk db.schema_migrations (discover_migrations migrations_dir) ⟨[],[],[]⟩

/-- The result names each file once, in the list that its row decides. -/
inductive Accounts (db : Database) : List MigrationFile → MigrationResult → Prop
  | nil : Accounts db [] ⟨[],[],[]⟩
  | newly {seen result} (path) (before : Accounts db seen result)
      (stored : (version_of path,checksum path) ∈ db.schema_migrations) :
      Accounts db (seen ++ [path]) { result with
        newly_applied := result.newly_applied ++ [⟨version_of path,path.name,checksum path⟩] }
  | already {seen result} (path) (before : Accounts db seen result)
      (stored : (version_of path,checksum path) ∈ db.schema_migrations) :
      Accounts db (seen ++ [path]) { result with already_applied := result.already_applied ++ [version_of path] }
  | mismatched {seen result} (path) (before : Accounts db seen result) (old : String)
      (stored : (version_of path,old) ∈ db.schema_migrations) (drifted : old ≠ checksum path) :
      Accounts db (seen ++ [path]) { result with
        checksum_mismatches := result.checksum_mismatches ++ [⟨version_of path,old,checksum path⟩] }

/-- Every script was the text of a migration file and is on record with its checksum, in
    the order of the executions. -/
def Performed (db : Database) : Prop :=
  ∃ paths : List MigrationFile, db.schema_migrations = paths.map (fun path => (version_of path,checksum path)) ∧
    db.executed.map some = paths.map read_text

def Covered (db : Database) (dir : Directory) : Prop :=
  ∀ path ∈ discover_migrations dir, ¬db.Fresh (version_of path)

/-- Records are only added. -/
def Grows (s t : Database) : Prop := s.schema_migrations ⊆ t.schema_migrations

theorem grows_refl (db : Database) : Grows db db := List.Subset.refl _

theorem grows_trans (s t u : Database) : Grows s t → Grows t u → Grows s u := List.Subset.trans

structure Inv (done : List Directory) (db : Database) : Prop where
  performed : Performed db
  covered : ∀ dir ∈ done, Covered db dir

/-- The result accounts for the directory, and nothing of a directory that was done is new. -/
def Finished (done : List Directory) (dir : Directory) (result : MigrationResult) (_ db : Database) : Prop :=
  Accounts db (discover_migrations dir) result ∧ (dir ∈ done → result.newly_applied = [])

section
variable {db t : Database} {files : List MigrationFile} {result : MigrationResult} {done : List Directory} {dir : Directory}

theorem Accounts.later (accounts : Accounts db files result) (grows : Grows db t) : Accounts t files result := by
  induction accounts with
  | nil => exact .nil
  | newly path _ stored ih => exact .newly path ih (grows stored)
  | already path _ stored ih => exact .already path ih (grows stored)
  | mismatched path _ old stored drifted ih => exact .mismatched path ih old (grows stored) drifted

theorem not_fresh {version checksum : String} (stored : (version,checksum) ∈ db.schema_migrations) : ¬db.Fresh version :=
  fun fresh => fresh (List.mem_map_of_mem stored)

/-- Every file of a directory whose boot returned is on record. -/
theorem Accounts.covered (accounts : Accounts db files result) : ∀ path ∈ files, ¬db.Fresh (version_of path) := by
  induction accounts with
  | nil => exact fun _ => nofun
  | newly path _ stored ih | already path _ stored ih | mismatched path _ _ stored _ ih =>
    intro other member
    rcases List.mem_append.mp member with old | new
    · exact ih other old
    · rw [List.mem_singleton.mp new]
      exact not_fresh stored

theorem Covered.later (covered : Covered db dir) (grows : Grows db t) : Covered t dir := fun path member fresh =>
  covered path member fun old => fresh (List.map_subset _ grows old)

theorem inv_apply (inv : Inv done db) {path : MigrationFile} {sql : String}
    (read : read_text path = some sql) (fresh : db.Fresh (version_of path)) :
    Inv done (db.apply (version_of path) (checksum path) sql fresh) ∧
      Grows db (db.apply (version_of path) (checksum path) sql fresh) := by
  obtain ⟨paths,rows,texts⟩ := inv.performed
  have grows : Grows db (db.apply (version_of path) (checksum path) sql fresh) := List.subset_append_left _ _
  refine ⟨⟨⟨paths ++ [path],?_,?_⟩,fun dir member => (inv.covered dir member).later grows⟩,grows⟩
  · simp [Database.apply,rows]
  · simp [Database.apply,texts,read]

theorem walk_follows (applied : List (String × String)) (files : List MigrationFile) :
    ∀ seen result s t, discover_migrations dir = seen ++ files → Inv done t → Grows s t →
      applied ⊆ t.schema_migrations → Accounts t seen result →
      (dir ∈ done → result.newly_applied = [] ∧ ∀ path ∈ files, applied.lookup (version_of path) ≠ none) →
      Follows (Inv done) Grows (Finished done dir) (walk applied files result) s t := by
  induction files with
  | nil =>
    intro seen result s t split inv grows known accounts idle
    rw [List.append_nil] at split
    exact ⟨inv,grows,split ▸ accounts,fun member => (idle member).1⟩
  | cons path rest ih =>
    intro seen result s t split inv grows known accounts idle
    have next : discover_migrations dir = (seen ++ [path]) ++ rest := by rw [split,List.append_assoc]; rfl
    have others : dir ∈ done → ∀ path ∈ rest, applied.lookup (version_of path) ≠ none := fun member =>
      (List.forall_mem_cons.mp (idle member).2).2
    unfold walk
    cases found : applied.lookup (version_of path) with
    | some stored =>
      obtain ⟨front,back,row,-⟩ := List.lookup_eq_some_iff.mp found
      have recorded : (version_of path,stored) ∈ t.schema_migrations := known (by rw [row]; simp)
      show Follows _ _ _ (if _ then _ else _) s t
      by_cases drifted : stored ≠ checksum path
      · rw [if_pos drifted]
        exact ih _ _ s t next inv grows known (.mismatched path accounts stored recorded drifted) fun member =>
          ⟨(idle member).1,others member⟩
      · rw [if_neg drifted]
        rw [not_not.mp drifted] at recorded
        exact ih _ _ s t next inv grows known (.already path accounts recorded) fun member => ⟨(idle member).1,others member⟩
    | none =>
      have busy : dir ∉ done := fun member => (idle member).2 path (by simp) found
      cases read : read_text path with
      | none => exact ⟨inv,grows⟩
      | some sql =>
        refine ⟨inv,grows,fun u holds later outcome => ?_⟩
        simp only [look,command,bind,Prog.bind,Follows]
        by_cases fresh : u.Fresh (version_of path)
        · rw [dif_pos fresh]
          obtain ⟨performed,more⟩ := inv_apply holds read fresh
          cases outcome with
          | refused cause => exact ⟨holds,grows_refl _⟩
          | committed =>
            have stored : (version_of path,checksum path) ∈ (u.apply (version_of path) (checksum path) sql fresh).schema_migrations :=
              List.mem_append_right _ (List.mem_singleton_self _)
            have reached := List.Subset.trans (List.Subset.trans known later) more
            exact ih _ _ u _ next performed more reached (.newly path ((accounts.later later).later more) stored)
              fun member => absurd member busy
          | unacknowledged cause => exact ⟨performed,more⟩
        · rw [dif_neg fresh]
          exact ⟨holds,grows_refl _⟩

theorem apply_migrations_follows (dir : Directory) (db : Database) (inv : Inv done db) :
    Follows (Inv done) Grows (Finished done dir) (apply_migrations dir) db db := by
  have failed : ∀ t cause, Inv done t → Follows (Inv done) Grows (Finished done dir)
      (answered (.error cause) (.ret ⟨[],[],[]⟩)) t t := fun t _ holds => ⟨holds,grows_refl _⟩
  refine ⟨inv,grows_refl _,fun t holds _ acquired => ?_⟩
  cases acquired with
  | error cause => exact failed t cause holds
  | ok _ =>
    refine ⟨holds,grows_refl _,fun u holds _ created => ?_⟩
    cases created with
    | error cause => exact failed u cause holds
    | ok _ =>
      refine ⟨holds,grows_refl _,fun v holds _ selected => ?_⟩
      cases selected with
      | error cause => exact failed v cause holds
      | ok _ =>
        refine walk_follows v.schema_migrations _ [] ⟨[],[],[]⟩ v v rfl holds (List.Subset.refl _)
          (List.Subset.refl _) .nil fun member => ⟨rfl,fun path found none_left => ?_⟩
        refine holds.covered dir member path found fun old => ?_
        obtain ⟨row,stored,same⟩ := List.mem_map.mp old
        have absent := List.lookup_eq_none_iff.mp none_left row stored
        simp [same] at absent

end

/-- The database and the results, after any turns of boots from a database. -/
def boots (db : Database) (turns : List (Turn Directory statements)) :
    Pool Directory Database statements Failure MigrationResult :=
  turns.foldl (step apply_migrations) (start db)

theorem boots_finish {done : List Directory} {db : Database} (inv : Inv done db)
    (turns : List (Turn Directory statements)) :
    Inv done (boots db turns).shared ∧ ∀ boot ∈ (boots db turns).results,
      Finished done boot.1 boot.2 db (boots db turns).shared := by
  have later : ∀ (results : List (Directory × MigrationResult)) (s t : Database), Inv done s → Inv done t → Grows s t →
      (∀ boot ∈ results, Finished done boot.1 boot.2 db s) → ∀ boot ∈ results, Finished done boot.1 boot.2 db t :=
    fun _ _ _ _ _ grows known boot member => ⟨(known boot member).1.later grows,(known boot member).2⟩
  have kept := turns_keep (J := fun results t => ∀ boot ∈ results, Finished done boot.1 boot.2 db t) grows_trans later
    (fun _ _ results s t old now grows finished known => List.forall_mem_cons.mpr
      ⟨finished,later results s t old now grows known⟩)
    grows_refl apply_migrations_follows turns (start db) (kept_start inv fun _ => nofun)
  exact ⟨kept.holds,kept.known⟩

def unused : Database := ⟨[],[],List.nodup_nil⟩

theorem inv_unused : Inv [] unused := ⟨⟨[],rfl,rfl⟩,fun _ => nofun⟩

/-- In any interleaving of boots of scripts that hold no transaction commands of their own,
    the scripts are those of the records, one each, and the result of a boot accounts for
    its directory. -/
theorem boots_account (turns : List (Turn Directory statements)) :
    Performed (boots unused turns).shared ∧ ∀ boot ∈ (boots unused turns).results,
      Accounts (boots unused turns).shared (discover_migrations boot.1) boot.2 := by
  obtain ⟨inv,finished⟩ := boots_finish inv_unused turns
  exact ⟨inv.performed,fun boot member => (finished boot member).1⟩

/-- After a restart the boots of a directory that was done execute nothing, whatever the
    boots of other directories do. -/
theorem boots_idle (before after : List (Turn Directory statements)) :
    ∀ boot ∈ (boots unused before).results, ∀ again ∈ (boots (boots unused before).shared after).results,
      again.1 = boot.1 → again.2.newly_applied = [] := by
  intro boot member again member' same
  obtain ⟨inv,finished⟩ := boots_finish inv_unused before
  have covered : Inv [boot.1] (boots unused before).shared := ⟨inv.performed,fun dir only => by
    rw [List.mem_singleton.mp only]
    exact (finished boot member).1.covered⟩
  exact ((boots_finish covered after).2 again member').2 (by rw [same]; simp)

/-- `SELECT 1` and `SELECT 2`. -/
def two_scripts : List MigrationFile :=
  [⟨"1.sql",[83,69,76,69,67,84,32,49]⟩,⟨"2.sql",[83,69,76,69,67,84,32,50]⟩]

def one_boot : List (Turn Directory statements) :=
  .enter (some two_scripts) :: .replicate 5 (.resume 0 fun
    | .transaction _ _ _ => .committed
    | .acquire | .create_table | .select_applied => .ok ())

private theorem scripts_discovered : discover_migrations (some two_scripts) = two_scripts := by
  have kept : two_scripts.filter (fun p => p.name.endsWith ".sql" && !(p.name.startsWith "_" || p.name.startsWith ".")) =
      two_scripts := by decide +kernel
  have ordered : two_scripts.Pairwise fun p q => decide (p.name ≤ q.name) = true := by decide
  rw [discover_migrations,kept,List.mergeSort_of_pairwise ordered]

private theorem boots_ordered (db : Database) : boots db one_boot = one_boot.foldl (step fun _ => do
    let acquired : Except String Unit ← ask (E := statements) .acquire
    answered acquired do
      let created : Except String Unit ← ask (E := statements) .create_table
      answered created do
        let selected : Except String Unit ← ask (E := statements) .select_applied
        answered selected do
          let db ← look
          walk db.schema_migrations two_scripts ⟨[],[],[]⟩) (start db) := by
  unfold boots one_boot
  rw [List.foldl_cons,List.foldl_cons]
  simp only [step,apply_migrations,scripts_discovered]
  rfl

theorem second_boot : (boots unused one_boot).shared.executed = ["SELECT 1","SELECT 2"] ∧
    ∃ again ∈ (boots (boots unused one_boot).shared one_boot).results, again.2.newly_applied = [] := by
  have ran : (boots unused one_boot).shared.executed = ["SELECT 1","SELECT 2"] ∧
      (boots unused one_boot).results.map Prod.fst = [some two_scripts] ∧
        (boots (boots unused one_boot).shared one_boot).results.map Prod.fst = [some two_scripts] := by
    rw [boots_ordered,boots_ordered]
    decide +kernel
  obtain ⟨boot,member,same⟩ := List.mem_map.mp (ran.2.1 ▸ List.mem_singleton_self _)
  obtain ⟨again,member',same'⟩ := List.mem_map.mp (ran.2.2 ▸ List.mem_singleton_self _)
  exact ⟨ran.1,again,member',boots_idle one_boot one_boot boot member again member' (same'.trans same.symm)⟩

end Automation.Migrations
