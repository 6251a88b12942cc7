import Mathlib.Data.List.Infix
import Mathlib.Logic.Function.Basic

/-!
A file system without links. A path is given from its last name to the root, and what stands
at a path has a directory above it. Each operation keeps that, and changes files only at
the path it is given (`Tree.write_keeps`, `Tree.unlink_keeps`).
-/
namespace Automation.FileTree

abbrev Location := List String

inductive Node where
  | dir
  | file (content : String)
deriving DecidableEq

structure Tree where
  node : Location → Option Node
  root : node [] = some .dir
  above : ∀ {name : String} {parent : Location} {found : Node}, node (name :: parent) = some found → node parent = some .dir

/-- What the system can name. -/
structure Names where
  ok : Location → Bool
  above : ∀ {name : String} {parent : Location}, ok (name :: parent) = true → ok parent = true

/-- Where the system finds a path: `..` is the directory above. -/
def resolve : Location → Location
  | [] => []
  | name :: parent => if name = ".." then (resolve parent).tail else name :: resolve parent

theorem resolve_plain {path : Location} (plain : ".." ∉ path) : resolve path = path := by
  induction path with
  | nil => rfl
  | cons name parent ih =>
    rw [List.mem_cons,not_or] at plain
    rw [resolve,if_neg (Ne.symm plain.1),ih plain.2]

namespace Tree

section
variable (tree : Tree) (name : String) (parent : Location)

def file (path : Location) : Option String :=
  match tree.node path with
  | some (.file content) => some content
  | _ => none

theorem file_eq {tree : Tree} {path : Location} {content : String} :
    tree.file path = some content ↔ tree.node path = some (.file content) := by
  rw [file]
  cases tree.node path with
  | none => simp
  | some found => cases found <;> simp

theorem file_dir {tree : Tree} {path : Location} (dir : tree.node path = some .dir) : tree.file path = none := by
  rw [file,dir]

theorem file_congr {first second : Tree} {path : Location} (same : first.node path = second.node path) :
    first.file path = second.file path := by
  rw [file,same]
  rfl

theorem node_cons_ne (path : Location) : path ≠ name :: path := by
  intro same
  have length := congrArg List.length same
  simp at length

theorem chain_above {path : Location} {name : String} {parent : Location} {found : Node}
    (present : (if name :: parent <:+ path then some Node.dir else none) = some found) :
    (if parent <:+ path then some Node.dir else none) = some .dir := by
  split at present
  · next under => exact if_pos ((List.suffix_cons name parent).trans under)
  · cases present

/-- The directories of a path, and nothing else. -/
def chain (path : Location) : Tree where
  node := fun at_path => if at_path <:+ path then some .dir else none
  root := if_pos List.nil_suffix
  above := chain_above

theorem chain_file (path at_path : Location) : (chain path).file at_path = none := by
  rw [file]
  by_cases under : at_path <:+ path
  · have dir : (chain path).node at_path = some .dir := if_pos under
    rw [dir]
  · have free : (chain path).node at_path = none := if_neg under
    rw [free]

theorem update_root (node : Option Node) :
    Function.update tree.node (name :: parent) node [] = some .dir := by
  rw [Function.update_of_ne (List.cons_ne_nil name parent).symm]
  exact tree.root

theorem with_dir_above (dir : tree.node parent = some .dir) {other : String} {upper : Location} {found : Node}
    (present : Function.update tree.node (name :: parent) (some .dir) (other :: upper) = some found) :
    Function.update tree.node (name :: parent) (some .dir) upper = some .dir := by
  by_cases top : upper = name :: parent
  · rw [top,Function.update_self]
  · rw [Function.update_of_ne top]
    by_cases here : other :: upper = name :: parent
    · obtain ⟨-,rfl⟩ := List.cons.inj here
      exact dir
    · rw [Function.update_of_ne here] at present
      exact tree.above present

/-- A tree with one more directory. -/
def with_dir (dir : tree.node parent = some .dir) : Tree where
  node := Function.update tree.node (name :: parent) (some .dir)
  root := update_root tree name parent _
  above := with_dir_above tree name parent dir

theorem with_dir_made (dir : tree.node parent = some .dir) :
    (tree.with_dir name parent dir).node (name :: parent) = some .dir := Function.update_self _ _ _

theorem with_file_above (content : Option String) (dir : tree.node parent = some .dir)
    (leaf : tree.node (name :: parent) ≠ some .dir) {other : String} {upper : Location} {found : Node}
    (present : Function.update tree.node (name :: parent) (content.map .file) (other :: upper) = some found) :
    Function.update tree.node (name :: parent) (content.map .file) upper = some .dir := by
  have apart : upper ≠ name :: parent := by
    rintro rfl
    have longer : other :: name :: parent ≠ name :: parent := (node_cons_ne other (name :: parent)).symm
    rw [Function.update_of_ne longer] at present
    exact leaf (tree.above present)
  rw [Function.update_of_ne apart]
  by_cases here : other :: upper = name :: parent
  · obtain ⟨-,rfl⟩ := List.cons.inj here
    exact dir
  · rw [Function.update_of_ne here] at present
    exact tree.above present

/-- A tree with a file that is written or, with no content, removed. -/
def with_file (content : Option String) (dir : tree.node parent = some .dir)
    (leaf : tree.node (name :: parent) ≠ some .dir) : Tree where
  node := Function.update tree.node (name :: parent) (content.map .file)
  root := update_root tree name parent _
  above := with_file_above tree name parent content dir leaf

end

/-- `mkdir(parents=True, exist_ok=True)`: a tree with that directory. -/
def mkdir_parents (names : Names) (tree : Tree) : (path : Location) → Option { made : Tree // made.node path = some .dir }
  | [] => some ⟨tree,tree.root⟩
  | name :: parent =>
    match found : tree.node (name :: parent) with
    | some .dir => some ⟨tree,found⟩
    | some (.file _) => none
    | none =>
      if names.ok (name :: parent) then
        (mkdir_parents names tree parent).map fun made =>
          ⟨made.1.with_dir name parent made.2,with_dir_made made.1 name parent made.2⟩
      else none

/-- `open(path, "w")` with a write, in a directory. -/
def write_text (names : Names) (tree : Tree) (name : String) (parent : Location) (content : String)
    (dir : tree.node parent = some .dir) : Option Tree :=
  if leaf : tree.node (name :: parent) = some .dir then none
  else if names.ok (name :: parent) then some (tree.with_file name parent (some content) dir leaf)
  else none

/-- The target written, with the directories above it. -/
def write (names : Names) (tree : Tree) (content : String) : Location → Option Tree
  | [] => none
  | name :: parent => (mkdir_parents names tree parent).bind fun made => made.1.write_text names name parent content made.2

theorem unlink_dir {tree : Tree} {name : String} {parent : Location} (found : (tree.file (name :: parent)).isSome = true) :
    tree.node parent = some .dir := by
  obtain ⟨content,present⟩ := Option.isSome_iff_exists.mp found
  exact tree.above (file_eq.mp present)

theorem unlink_leaf {tree : Tree} {name : String} {parent : Location} (found : (tree.file (name :: parent)).isSome = true) :
    tree.node (name :: parent) ≠ some .dir := by
  intro dir
  rw [file_dir dir] at found
  cases found

/-- A file removed. -/
def unlink (tree : Tree) : Location → Tree
  | [] => tree
  | name :: parent =>
    if found : (tree.file (name :: parent)).isSome = true then
      tree.with_file name parent none (unlink_dir found) (unlink_leaf found)
    else tree

/-- `is_file()`: false for a name with a NUL, an error for one that the system refuses. -/
def is_file (names : Names) (tree : Tree) (path : Location) : Option Bool :=
  if names.ok path then some (tree.file path).isSome
  else if path.any fun name => name.toList.contains (Char.ofNat 0) then some false
  else none

section
variable {names : Names} {tree written : Tree} {path : Location}

theorem with_dir_file {name : String} {parent : Location} (dir : tree.node parent = some .dir)
    (free : tree.node (name :: parent) = none) (at_path : Location) :
    (tree.with_dir name parent dir).file at_path = tree.file at_path := by
  by_cases here : at_path = name :: parent
  · rw [here,file_dir (with_dir_made tree name parent dir),file,free]
  · exact file_congr (Function.update_of_ne here _ _)

theorem mkdir_parents_keeps (names : Names) (tree : Tree) (path : Location) {made : { made : Tree // made.node path = some .dir }}
    (succeeds : mkdir_parents names tree path = some made) :
    (∀ other, ¬other <:+ path → made.1.node other = tree.node other) ∧
      (∀ other, tree.node other = some .dir → made.1.node other = some .dir) ∧
      ∀ other, made.1.file other = tree.file other := by
  induction path with
  | nil =>
    obtain rfl := Option.some.inj succeeds
    exact ⟨fun _ _ => rfl,fun _ dir => dir,fun _ => rfl⟩
  | cons name parent ih =>
    rw [mkdir_parents] at succeeds
    split at succeeds
    · obtain rfl := Option.some.inj succeeds
      exact ⟨fun _ _ => rfl,fun _ dir => dir,fun _ => rfl⟩
    · cases succeeds
    · next free =>
      split at succeeds
      · obtain ⟨upper,made_upper,same⟩ := Option.map_eq_some_iff.mp succeeds
        obtain rfl := same
        obtain ⟨elsewhere,dirs,files⟩ := ih made_upper
        have still : upper.1.node (name :: parent) = none := by
          rw [elsewhere _ fun under => absurd under.length_le (by simp),free]
        refine ⟨?_,?_,?_⟩
        · intro other apart
          have different : other ≠ name :: parent := fun same => apart (same ▸ List.suffix_refl _)
          change Function.update upper.1.node (name :: parent) (some .dir) other = _
          rw [Function.update_of_ne different]
          exact elsewhere other fun under => apart (under.trans (List.suffix_cons name parent))
        · intro other dir
          change Function.update upper.1.node (name :: parent) (some .dir) other = _
          by_cases here : other = name :: parent
          · rw [here,Function.update_self]
          · rw [Function.update_of_ne here]
            exact dirs other dir
        · intro other
          rw [with_dir_file upper.2 still,files]
      · cases succeeds

theorem mkdir_parents_succeeds (names : Names) (tree : Tree) {path : Location} (named : names.ok path = true)
    (free : ∀ upper, upper <:+ path → tree.file upper = none) : ∃ made, mkdir_parents names tree path = some made := by
  induction path with
  | nil => exact ⟨_,rfl⟩
  | cons name parent ih =>
    rw [mkdir_parents]
    split
    · exact ⟨_,rfl⟩
    · next content found =>
      have present := file_eq.mpr found
      rw [free _ (List.suffix_refl _)] at present
      cases present
    · obtain ⟨made,succeeds⟩ := ih (names.above named) fun upper under => free upper (under.trans (List.suffix_cons name parent))
      rw [if_pos named,succeeds]
      exact ⟨_,rfl⟩

/-- What a write comes to: the target is no directory, and nothing else loses or changes a file. -/
theorem write_keeps {content : String} (succeeds : tree.write names content path = some written) :
    names.ok path = true ∧ tree.node path ≠ some .dir ∧ written.file path = some content ∧
      (∀ other, other ≠ path → written.file other = tree.file other) ∧
      ∀ other, tree.node other = some .dir → written.node other = some .dir := by
  cases path with
  | nil => cases succeeds
  | cons name parent =>
    obtain ⟨made,made_parent,succeeds⟩ := Option.bind_eq_some_iff.mp succeeds
    obtain ⟨-,dirs,files⟩ := mkdir_parents_keeps names tree parent made_parent
    rw [write_text] at succeeds
    split at succeeds
    · cases succeeds
    · next leaf =>
      split at succeeds
      · next named =>
        obtain rfl := Option.some.inj succeeds
        refine ⟨named,fun dir => leaf (dirs _ dir),?_,?_,?_⟩
        · exact file_eq.mpr (Function.update_self _ _ _)
        · intro other apart
          rw [← files other]
          exact file_congr (Function.update_of_ne apart _ _)
        · intro other dir
          have apart : other ≠ name :: parent := fun same => leaf (dirs _ (same ▸ dir))
          change Function.update made.1.node (name :: parent) _ other = _
          rw [Function.update_of_ne apart]
          exact dirs other dir
      · cases succeeds

theorem write_succeeds (names : Names) (tree : Tree) (content : String) {name : String} {parent : Location}
    (named : names.ok (name :: parent) = true) (free : ∀ upper, upper <:+ parent → tree.file upper = none)
    (leaf : tree.node (name :: parent) ≠ some .dir) : ∃ written, tree.write names content (name :: parent) = some written := by
  obtain ⟨made,made_parent⟩ := mkdir_parents_succeeds names tree (names.above named) free
  obtain ⟨elsewhere,-,-⟩ := mkdir_parents_keeps names tree parent made_parent
  have still : made.1.node (name :: parent) ≠ some .dir := by
    rw [elsewhere _ fun under => absurd under.length_le (by simp)]
    exact leaf
  rw [write,made_parent,Option.bind_some,write_text,dif_neg still,if_pos named]
  exact ⟨_,rfl⟩

/-- A removal touches its target only. -/
theorem unlink_keeps (tree : Tree) (path : Location) :
    (∀ other, other ≠ path → (tree.unlink path).file other = tree.file other) ∧
      ∀ other, tree.node other = some .dir → (tree.unlink path).node other = some .dir := by
  cases path with
  | nil => exact ⟨fun _ _ => rfl,fun _ dir => dir⟩
  | cons name parent =>
    rw [unlink]
    split
    · next found =>
      refine ⟨?_,?_⟩
      · intro other apart
        exact file_congr (Function.update_of_ne apart _ _)
      · intro other dir
        have apart : other ≠ name :: parent := fun same => unlink_leaf found (same ▸ dir)
        change Function.update tree.node (name :: parent) _ other = _
        rw [Function.update_of_ne apart]
        exact dir
    · exact ⟨fun _ _ => rfl,fun _ dir => dir⟩

end

end Tree

end Automation.FileTree
