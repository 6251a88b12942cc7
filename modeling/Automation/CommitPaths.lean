import Automation.AgentExtract
import Automation.FileTree
import Automation.PyLines

/-!
Where a commit writes. The paths of the model's answer are filtered twice by one rule, and
joined to the clone: what is accepted lies below it, and outside its `.git` exactly where
its first name is another (`commit_path_stays_iff`). A run of accepted changes with such paths
leaves every other file as it is (`changes_stay`).
-/
namespace Automation.CommitPaths
open Automation.AgentExtract Automation.FileTree Automation.PyText
open Automation.AgentMessages (Python orText)
open Automation.AgentState (CommitFile)

/-- What `_extract_commit_files` and `_safe_rel_path` make of a path; none where they refuse it. -/
def checked_path (value : String) : Option String :=
  let path := replaceChar '\\' '/' (strip value)
  if path = "" ∨ hasPrefix path "/" = true ∨ (splitAt '/' path.toList).contains ['.','.'] = true then none
  else some path

def safe_rel_path (value : String) : String := (checked_path value).getD ""

/-- The names of a path: `Path` drops the empty ones and the dots. -/
def parts (path : String) : List String :=
  ((splitAt '/' path.toList).map String.ofList).filter fun name => name ≠ "" ∧ name ≠ "."

/-- The directory of the clone, made by `mkdtemp`. -/
structure CloneDir where
  path : Location
  plain : ".." ∉ path

/-- The tree after the clone. -/
structure Cloned (clone : CloneDir) (tree : Tree) : Prop where
  repo : tree.node clone.path = some .dir
  git : tree.node (".git" :: clone.path) = some .dir

section
variable (names : Names) (clone : CloneDir)

/-- `Path(repo_dir) / rel`, as the system finds it. -/
def target (rel : String) : Location :=
  resolve ((parts rel).reverse ++ if hasPrefix rel "/" then [] else clone.path)

def apply_change (tree : Tree) (change : CommitFile) : Option (Tree × List Location) :=
  let path := target clone (safe_rel_path change.path)
  if lower (strip (orText change.action "update")) ∈ ["delete","deleted","remove","removed"] then
    (tree.is_file names path).map fun found => if found then (tree.unlink path,[path]) else (tree,[])
  else (tree.write names change.content path).map fun written => (written,[path])

def apply_changes : List CommitFile → Tree → Option (Tree × List Location)
  | [], tree => some (tree,[])
  | change :: rest, tree =>
    (apply_change names clone tree change).bind fun first =>
      (apply_changes rest first.1).map fun others => (others.1,first.2 ++ others.2)

/-- The changes that `bitbucket_commit_via_git` applies. -/
def accepted_changes (files : List CommitFile) : List CommitFile := files.filter fun file => safe_rel_path file.path ≠ ""

/-- Strictly below the clone, and outside its `.git`. -/
def InTree (at_path : Location) : Prop :=
  clone.path <:+ at_path ∧ at_path ≠ clone.path ∧ ¬(".git" :: clone.path) <:+ at_path

/-- Wherever the path is accepted, what is written or removed there is in the working tree. -/
def Stays (value : String) : Prop :=
  ∀ path, checked_path value = some path → safe_rel_path path ≠ "" →
    ∀ tree, Cloned clone tree → ∀ content action result,
      apply_change names clone tree { path, content, action } = some result → ∀ at_path ∈ result.2, InTree clone at_path

/-- The path leads into `.git`, to a file that the system can name. -/
def EntersGit (path : String) : Prop :=
  ∃ inner, inner ≠ [] ∧ parts path = ".git" :: inner ∧ names.ok (inner.reverse ++ ".git" :: clone.path) = true

end

section
variable {names : Names} {clone : CloneDir} {value path : String}

theorem checked_iff : checked_path value = some path ↔
    replaceChar '\\' '/' (strip value) = path ∧ path ≠ "" ∧ hasPrefix path "/" = false ∧ ['.','.'] ∉ splitAt '/' path.toList := by
  rw [checked_path]
  constructor
  · intro found
    split at found
    · cases found
    · next clear =>
      obtain rfl := Option.some.inj found
      simpa [not_or] using clear
  · rintro ⟨rfl,filled,relative,inside⟩
    have clear : ¬(replaceChar '\\' '/' (strip value) = "" ∨ hasPrefix (replaceChar '\\' '/' (strip value)) "/" = true ∨
        (splitAt '/' (replaceChar '\\' '/' (strip value)).toList).contains ['.','.'] = true) := by
      simp [filled,relative,inside]
    exact if_neg clear

/-- What is stripped stays stripped when its backslashes are replaced. -/
theorem strip_replaced (value : String) :
    strip (replaceChar '\\' '/' (strip value)) = replaceChar '\\' '/' (strip value) := by
  have slash : isSpace '/' = false := by decide
  have kept (c : Char) (ink : isSpace c = false) : isSpace (if c = '\\' then '/' else c) = false := by
    split
    · exact slash
    · exact ink
  rw [strip,replaceChar,String.toList_ofList,stripBy_kept]
  · intro c member
    rw [List.head?_map,Option.mem_map] at member
    obtain ⟨d,first,rfl⟩ := member
    cases text : (strip value).toList with
    | nil => simp [text] at first
    | cons e rest =>
      rw [text] at first
      obtain rfl : e = d := by simpa using first
      rw [strip,String.toList_ofList] at text
      exact kept e (stripBy_head text)
  · intro c member
    rw [List.getLast?_map,Option.mem_map] at member
    obtain ⟨d,last,rfl⟩ := member
    obtain ⟨rest,text⟩ := List.getLast?_eq_some_iff.mp last
    rw [strip,String.toList_ofList] at text
    exact kept d (stripBy_last text)

theorem replaced_again (text : String) : replaceChar '\\' '/' (replaceChar '\\' '/' text) = replaceChar '\\' '/' text := by
  rw [replaceChar,replaceChar,String.toList_ofList,List.map_map]
  congr 1
  refine List.map_congr_left fun c _ => ?_
  by_cases back : c = '\\'
  · simp [back]
  · simp [back]

/-- Filtering twice is filtering once. -/
theorem checked_again (found : checked_path value = some path) : checked_path path = some path := by
  obtain ⟨rfl,filled,relative,inside⟩ := checked_iff.mp found
  refine checked_iff.mpr ⟨?_,filled,relative,inside⟩
  rw [strip_replaced,replaced_again]

theorem safe_checked (found : checked_path value = some path) : safe_rel_path path = path := by
  rw [safe_rel_path,checked_again found]
  rfl

/-- An accepted path names files below the clone, one name after another. -/
theorem target_checked (found : checked_path value = some path) :
    target clone path = (parts path).reverse ++ clone.path := by
  obtain ⟨-,-,relative,inside⟩ := checked_iff.mp found
  rw [target,relative]
  refine resolve_plain ?_
  intro dots
  rcases List.mem_append.mp dots with within | above
  · obtain ⟨listed,-⟩ := List.mem_filter.mp (List.mem_reverse.mp within)
    obtain ⟨name,member,same⟩ := List.mem_map.mp listed
    have up : name = ['.','.'] := by
      rw [← String.toList_ofList (l := name),same]
      rfl
    exact inside (up ▸ member)
  · exact clone.plain above

variable {change : CommitFile} {result : Tree × List Location}

variable {tree : Tree}

theorem change_cases
    (applied : apply_change names clone tree change = some result) {path : Location}
    (aimed : target clone (safe_rel_path change.path) = path) :
    (tree.is_file names path = some true ∧ result = (tree.unlink path,[path])) ∨ result = (tree,[]) ∨
      ∃ written, tree.write names change.content path = some written ∧ result = (written,[path]) := by
  rw [apply_change,aimed] at applied
  split at applied
  · obtain ⟨present,checked,made⟩ := Option.map_eq_some_iff.mp applied
    cases present with
    | false => exact .inr (.inl made.symm)
    | true => exact .inl ⟨checked,made.symm⟩
  · obtain ⟨written,succeeds,made⟩ := Option.map_eq_some_iff.mp applied
    exact .inr (.inr ⟨written,succeeds,made.symm⟩)

theorem is_file_named {path : Location} (checked : tree.is_file names path = some true) :
    names.ok path = true ∧ tree.node path ≠ some .dir := by
  rw [Tree.is_file] at checked
  split at checked
  · next named =>
    refine ⟨named,fun dir => ?_⟩
    rw [Tree.file_dir dir] at checked
    simp at checked
  · split at checked <;> simp at checked

theorem change_target
    (applied : apply_change names clone tree change = some result) {at_path : Location} (touched : at_path ∈ result.2) :
    at_path = target clone (safe_rel_path change.path) ∧ names.ok at_path = true ∧ tree.node at_path ≠ some .dir := by
  generalize aimed : target clone (safe_rel_path change.path) = path
  rcases change_cases applied aimed with ⟨checked,rfl⟩ | rfl | ⟨written,succeeds,rfl⟩
  · obtain rfl := List.mem_singleton.mp touched
    exact ⟨rfl,is_file_named checked⟩
  · cases touched
  · obtain rfl := List.mem_singleton.mp touched
    obtain ⟨named,leaf,-⟩ := Tree.write_keeps succeeds
    exact ⟨rfl,named,leaf⟩

theorem change_keeps
    (applied : apply_change names clone tree change = some result) :
    (∀ at_path ∉ result.2, result.1.file at_path = tree.file at_path) ∧
      ∀ at_path, tree.node at_path = some .dir → result.1.node at_path = some .dir := by
  generalize aimed : target clone (safe_rel_path change.path) = path
  rcases change_cases applied aimed with ⟨checked,rfl⟩ | rfl | ⟨written,succeeds,rfl⟩
  · obtain ⟨files,dirs⟩ := Tree.unlink_keeps tree path
    exact ⟨fun at_path other => files at_path fun same => other (List.mem_singleton.mpr same),dirs⟩
  · exact ⟨fun _ _ => rfl,fun _ dir => dir⟩
  · obtain ⟨-,-,-,files,dirs⟩ := Tree.write_keeps succeeds
    exact ⟨fun at_path other => files at_path fun same => other (List.mem_singleton.mpr same),dirs⟩

theorem cloned_change (cloned : Cloned clone tree)
    (applied : apply_change names clone tree change = some result) : Cloned clone result.1 :=
  ⟨(change_keeps applied).2 _ cloned.repo,(change_keeps applied).2 _ cloned.git⟩

theorem change_in_tree {content action : String}
    (found : checked_path value = some path) (outside : ¬EntersGit names clone path) (cloned : Cloned clone tree)
    (applied : apply_change names clone tree { path, content, action } = some result) {at_path : Location}
    (touched : at_path ∈ result.2) : InTree clone at_path := by
  obtain ⟨aimed,named,leaf⟩ := change_target applied touched
  change at_path = target clone (safe_rel_path path) at aimed
  rw [safe_checked found,target_checked found] at aimed
  subst aimed
  refine ⟨List.suffix_append _ _,?_,?_⟩
  · intro same
    rw [same] at leaf
    exact leaf cloned.repo
  · intro under
    have git : [".git"] <:+ (parts path).reverse := by
      obtain ⟨front,split⟩ := under
      have joined : (front ++ [".git"]) ++ clone.path = (parts path).reverse ++ clone.path := by
        rw [← split]
        simp
      exact ⟨front,List.append_cancel_right joined⟩
    obtain ⟨inner,names_path⟩ : ∃ inner, parts path = ".git" :: inner := by
      obtain ⟨front,split⟩ := git
      exact ⟨front.reverse,by rw [← List.reverse_reverse (parts path),← split]; simp⟩
    by_cases only : inner = []
    · refine leaf ?_
      rw [names_path,only]
      exact cloned.git
    · refine outside ⟨inner,only,names_path,?_⟩
      rw [names_path] at named
      simpa using named

theorem git_written (found : checked_path value = some path) (enters : EntersGit names clone path) :
    ¬Stays names clone value := by
  intro stays
  obtain ⟨inner,more,names_path,named⟩ := enters
  have aimed : target clone (safe_rel_path path) = inner.reverse ++ ".git" :: clone.path := by
    rw [safe_checked found,target_checked found,names_path]
    simp
  have cloned : Cloned clone (Tree.chain (".git" :: clone.path)) :=
    ⟨if_pos (List.suffix_cons _ _),if_pos (List.suffix_refl _)⟩
  obtain ⟨name,upper,reversed⟩ : ∃ name upper, inner.reverse = name :: upper :=
    List.exists_cons_of_ne_nil (by simpa using more)
  rw [reversed,List.cons_append] at named aimed
  have leaf : (Tree.chain (".git" :: clone.path)).node (name :: (upper ++ ".git" :: clone.path)) ≠ some .dir := by
    intro dir
    by_cases under : name :: (upper ++ ".git" :: clone.path) <:+ ".git" :: clone.path
    · have length := under.length_le
      simp only [List.length_cons,List.length_append] at length
      omega
    · have free : (Tree.chain (".git" :: clone.path)).node (name :: (upper ++ ".git" :: clone.path)) = none := if_neg under
      rw [free] at dir
      cases dir
  obtain ⟨written,succeeds⟩ := Tree.write_succeeds names (Tree.chain (".git" :: clone.path)) "" named
    (fun at_path _ => Tree.chain_file _ at_path) leaf
  have plain : lower (strip (orText "update" "update")) ∉ ["delete","deleted","remove","removed"] := by decide
  have applied : apply_change names clone (Tree.chain (".git" :: clone.path)) { path, content := "", action := "update" } =
      some (written,[name :: (upper ++ ".git" :: clone.path)]) := by
    rw [apply_change,aimed]
    change (if _ then _ else _) = _
    rw [if_neg plain,succeeds]
    rfl
  have filled : safe_rel_path path ≠ "" := by
    rw [safe_checked found]
    exact (checked_iff.mp found).2.1
  have inside := stays path found filled _ cloned "" "update" _ applied _ List.mem_cons_self
  exact inside.2.2 ((List.suffix_append upper _).trans (List.suffix_cons name _))

/-- The run of the accepted changes: nothing else has lost, gained or changed a file. -/
theorem changes_stay {files : List CommitFile} (outside : ∀ file ∈ files, ¬EntersGit names clone (safe_rel_path file.path))
    {tree : Tree} (cloned : Cloned clone tree) {result : Tree × List Location}
    (applied : apply_changes names clone (accepted_changes files) tree = some result) {at_path : Location}
    (other : ¬InTree clone at_path) : result.1.file at_path = tree.file at_path := by
  have accepted : ∀ file ∈ accepted_changes files, safe_rel_path file.path ≠ "" ∧
      ¬EntersGit names clone (safe_rel_path file.path) := by
    intro file member
    obtain ⟨listed,safe⟩ := List.mem_filter.mp member
    exact ⟨by simpa using safe,outside file listed⟩
  generalize accepted_changes files = changes at applied accepted
  induction changes generalizing tree result with
  | nil =>
    obtain rfl := Option.some.inj applied
    rfl
  | cons change rest ih =>
    rw [apply_changes] at applied
    obtain ⟨first,here,later⟩ := Option.bind_eq_some_iff.mp applied
    obtain ⟨others,applied_rest,rfl⟩ := Option.map_eq_some_iff.mp later
    obtain ⟨⟨safe,clear⟩,accepted_rest⟩ := List.forall_mem_cons.mp accepted
    have untouched : at_path ∉ first.2 := by
      intro touched
      refine other ?_
      cases checked : checked_path change.path with
      | none => exact absurd (by rw [safe_rel_path,checked]; rfl) safe
      | some path =>
        have same : safe_rel_path change.path = path := by rw [safe_rel_path,checked]; rfl
        rw [same] at clear
        have same_change : apply_change names clone tree { path, content := change.content, action := change.action } =
            some first := by
          rw [← here,apply_change,apply_change,safe_checked checked,same]
        exact change_in_tree (checked_again checked) clear cloned same_change touched
    have before := ih (cloned_change cloned here) applied_rest accepted_rest
    rw [before]
    exact (change_keeps here).1 at_path untouched

variable (names clone value)

theorem commit_path_stays_iff :
    Stays names clone value ↔ ∀ path, checked_path value = some path → ¬EntersGit names clone path := by
  constructor
  · intro stays path found enters
    exact git_written found enters stays
  · intro outside path found safe tree cloned content action result applied at_path touched
    exact change_in_tree found (outside path found) cloned applied touched

end

def any_name : Names := ⟨fun _ => true,fun _ => rfl⟩

theorem aigit_plain : ".." ∉ ["repo","aigit-x1","tmp"] := by decide

/-- `/tmp/aigit-x1/repo`. -/
def aigit : CloneDir := ⟨["repo","aigit-x1","tmp"],aigit_plain⟩

/-- A commit that writes the configuration of its clone. -/
theorem git_config_written :
    checked_path " .git/config " = some ".git/config" ∧ target aigit ".git/config" = ["config",".git","repo","aigit-x1","tmp"] ∧
      ¬Stays any_name aigit " .git/config " := by
  have found : checked_path " .git/config " = some ".git/config" := by decide
  refine ⟨found,by decide,git_written found ?_⟩
  exact ⟨["config"],by simp,by decide,rfl⟩

/-- A file that is written and then deleted. -/
def notes : List CommitFile := [⟨"docs/a.md","x","update"⟩,⟨"docs/a.md","","delete"⟩]

/-- The clone before a commit. -/
abbrev clean : Tree := Tree.chain (".git" :: aigit.path)

theorem notes_applied : (apply_changes any_name aigit (accepted_changes notes) clean).isSome = true := by decide

theorem hosts_untouched :
    ((apply_changes any_name aigit (accepted_changes notes) clean).get notes_applied).1.file ["hosts","etc"] =
      clean.file ["hosts","etc"] := by
  have outside : ∀ file ∈ notes, ¬EntersGit any_name aigit (safe_rel_path file.path) := by
    rintro file member ⟨inner,-,enters,-⟩
    have path : file.path = "docs/a.md" := by
      rcases List.mem_pair.mp member with rfl | rfl
      · rfl
      · rfl
    rw [path] at enters
    have first : some "docs" = some ".git" := congrArg List.head? enters
    exact absurd first (by decide)
  have cloned : Cloned aigit clean := ⟨rfl,rfl⟩
  exact changes_stay outside cloned (Option.some_get _).symm fun inside => absurd inside.1 (by decide)

end Automation.CommitPaths
