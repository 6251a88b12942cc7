import Automation.CommitPaths
import Automation.GitMask

/-!
`bitbucket_commit_via_git` of `git_commit.py` against the branches of the remote. It returns without
a push where there is no change to apply and where git finds nothing to commit, and a push replaces
whatever the branch held: exactly when what it returns is on the remote, and no branch of others is
overwritten (`pushed_iff`).
-/
namespace Automation.GitPush
open Automation.CommitPaths Automation.GitMask Automation.PyText Automation.Replace
open Automation.AgentState (CommitFile)

/-- The name of a commit as git writes it. -/
structure Hash where
  text : String
  filled : text ≠ ""
  hex : ∀ c ∈ text.toList, c ∈ "0123456789abcdef".toList

/-- The head of each branch of the repository, and the branch that a clone checks out. -/
structure Remote where
  heads : String → Option Hash
  default_branch : String

/-- What the credential and the arguments come to. -/
structure Account where
  username : String
  token : String
  workspace : String
  repo_slug : String

/-- What comes from outside: the credential, the exit code of every command, what it prints, the
    commit that is made, and whether every change could be applied. -/
structure Outcomes where
  account : Option Account
  clone : Int
  checkout : Int
  applied : Bool
  commit : Int × String
  new_head : Hash
  push : Int
  rev_parse : Int

structure GitCommitResult where
  commit_hash : String
  branch : String
  message : String

/-- What the activity returns or raises, the remote then, and whether it has been pushed to. -/
structure Finished where
  result : Except String GitCommitResult
  remote : Remote
  pushed : Bool

def Remote.set (remote : Remote) (branch : String) (head : Hash) : Remote :=
  { remote with heads := fun name => if name = branch then some head else remote.heads name }

/-- The branch that is cloned; empty for the default one. -/
def base_branch (source_branch : String) : String :=
  if source_branch = "" ∨ source_branch = "auto" ∨ hasPrefix source_branch "ai/" = true then "" else source_branch

/-- The head of the clone; a repository may have none. -/
def cloned_head (remote : Remote) (source_branch : String) : Option Hash :=
  let base := base_branch source_branch
  remote.heads (if base = "" then remote.default_branch else base)

/-- The hash that is returned: what `git rev-parse HEAD` prints, or the branch where it fails. -/
def shown_head (token branch : String) (code : Int) (head : Option Hash) : String :=
  match head with
  | some h => if (run_git (some code) (h.text ++ "\n") token).1 = 0 then strip (run_git (some code) (h.text ++ "\n") token).2 else branch
  | none => branch

section
variable (o : Outcomes) (remote : Remote) (branch source_branch : String) (files : List CommitFile) (message : String)

def commit_and_push (token : String) : Finished :=
  let returned (remote : Remote) (pushed : Bool) (head : Option Hash) : Finished :=
    ⟨.ok ⟨shown_head token branch o.rev_parse head,branch,message⟩,remote,pushed⟩
  if o.clone ≠ 0 then ⟨.error "git clone failed",remote,false⟩
  else if o.checkout ≠ 0 then ⟨.error "git checkout -B failed",remote,false⟩
  else if o.applied = false then ⟨.error "OSError",remote,false⟩
  else if (run_git (some o.commit.1) o.commit.2 token).1 ≠ 0 then
    if contains (lower (run_git (some o.commit.1) o.commit.2 token).2) "nothing to commit" then
      returned remote false (cloned_head remote source_branch)
    else ⟨.error "git commit failed",remote,false⟩
  else if o.push ≠ 0 then ⟨.error "git push failed",remote,true⟩
  else returned (remote.set branch o.new_head) true (some o.new_head)

/-- `bitbucket_commit_via_git`. -/
def bitbucket_commit_via_git : Finished :=
  match o.account with
  | none => ⟨.error "could not resolve Bitbucket credential",remote,false⟩
  | some account =>
    if account.workspace = "" ∨ account.repo_slug = "" then ⟨.error "missing Bitbucket workspace/repo",remote,false⟩
    else if account.username = "" ∨ account.token = "" then ⟨.error "incomplete Bitbucket credential",remote,false⟩
    else if accepted_changes files = [] then ⟨.ok ⟨branch,branch,message⟩,remote,false⟩
    else commit_and_push o remote branch source_branch message account.token

/-- What is returned is the head of the branch on the remote, and a branch that is pushed to has
    been new or made by the run, whose branches are `created`. -/
def Pushed (created : List String) (finished : Finished) : Prop :=
  ∀ result, finished.result = .ok result →
    (∃ h, finished.remote.heads result.branch = some h ∧ h.text = result.commit_hash) ∧
      (finished.pushed = true → remote.heads branch = none ∨ branch ∈ created)

/-- The credential is complete. -/
def Complete (account : Account) : Prop :=
  o.account = some account ∧ account.workspace ≠ "" ∧ account.repo_slug ≠ "" ∧ account.username ≠ "" ∧ account.token ≠ ""

/-- The hash is what the run returns of the head: `git rev-parse` names it, and the token does not
    occur in what it prints, or the branch is called like the hash. -/
def Names (token : String) (head : Option Hash) (h : Hash) : Prop :=
  match head with
  | some g => if o.rev_parse = 0 then h.text = g.text ∧ contains (g.text ++ "\n") token = false else h.text = branch
  | none => h.text = branch

/-- Where nothing is pushed the branch has the returned head already; where something is, its head
    can be returned and the branch is new or of this run. -/
structure Covered (created : List String) : Prop where
  unchanged : ∀ account, Complete o account → accepted_changes files = [] → ∃ h, remote.heads branch = some h ∧ h.text = branch
  nothing : ∀ account, Complete o account → accepted_changes files ≠ [] → o.clone = 0 → o.checkout = 0 → o.applied = true →
    o.commit.1 ≠ 0 → contains (lower (mask o.commit.2 account.token)) "nothing to commit" = true →
    ∃ h, remote.heads branch = some h ∧ Names o branch account.token (cloned_head remote source_branch) h
  pushed : ∀ account, Complete o account → accepted_changes files ≠ [] → o.clone = 0 → o.checkout = 0 → o.applied = true →
    o.commit.1 = 0 → o.push = 0 →
    Names o branch account.token (some o.new_head) o.new_head ∧ (remote.heads branch = none ∨ branch ∈ created)

end

theorem mem_dropWhile {p : Char → Bool} {c : Char} {cs : List Char} (member : c ∈ cs) (kept : p c = false) : c ∈ cs.dropWhile p := by
  induction cs with
  | nil => cases member
  | cons d cs ih =>
    rw [List.dropWhile_cons]
    split
    · next drops =>
      rcases List.mem_cons.mp member with rfl | later
      · rw [kept] at drops
        cases drops
      · exact ih later
    · exact member

theorem mem_strip {c : Char} {text : String} (member : c ∈ text.toList) (ink : isSpace c = false) : c ∈ (strip text).toList := by
  rw [strip,String.toList_ofList,stripBy,List.mem_reverse]
  exact mem_dropWhile (List.mem_reverse.mpr (mem_dropWhile member ink)) ink

/-- A replacement shows. -/
theorem star_replaced {old text : List Char} (filled : old ≠ []) (found : old <:+: text) : '*' ∈ replace old "***".toList text := by
  induction text using replace_induction filled with
  | nil => exact absurd (List.infix_nil.mp found) filled
  | found rest ih =>
    rw [replace_found filled]
    exact List.mem_append_left _ (by decide)
  | kept c cs other ih =>
    rw [replace_kept other]
    rcases List.infix_cons_iff.mp found with front | later
    · exact absurd front other
    · exact List.mem_cons_of_mem c (ih later)

theorem hex_ink {h : Hash} : ∀ c ∈ h.text.toList, isSpace c = false := by
  intro c member
  have digits : "0123456789abcdef".toList.all (fun c => !isSpace c) = true := by decide
  have ink := List.all_eq_true.mp digits c (h.hex c member)
  rwa [Bool.not_eq_true'] at ink

section
variable {o : Outcomes} {remote : Remote} {branch source_branch token : String} {files : List CommitFile} {message : String}

theorem shown_head_iff (filled : token ≠ "") (head : Option Hash) (h : Hash) :
    h.text = shown_head token branch o.rev_parse head ↔ Names o branch token head h := by
  cases head with
  | none => exact Iff.rfl
  | some g =>
    rw [Names,shown_head]
    change _ = (if o.rev_parse = 0 then strip (mask (g.text ++ "\n") token) else branch) ↔ _
    by_cases works : o.rev_parse = 0
    · rw [if_pos works,if_pos works]
      cases inside : contains (g.text ++ "\n") token with
      | false =>
        have unmasked : mask (g.text ++ "\n") token = g.text ++ "\n" := by
          rw [mask,if_neg]
          rintro ⟨-,found⟩
          rw [inside] at found
          cases found
        rw [unmasked,strip_line hex_ink]
        exact ⟨fun same => ⟨same,rfl⟩,And.left⟩
      | true =>
        constructor
        · intro same
          have star : '*' ∈ (mask (g.text ++ "\n") token).toList := by
            rw [mask_replace filled]
            exact star_replaced (toList_nonempty filled) ((contains_iff _ _).mp inside)
          have digit : '*' ∈ h.text.toList := by
            rw [same]
            exact mem_strip star (by decide)
          exact absurd (h.hex '*' digit) (by decide)
        · intro both
          have absent := both.2
          cases absent
    · rw [if_neg works,if_neg works]

theorem complete_run {account : Account} (complete : Complete o account) :
    bitbucket_commit_via_git o remote branch source_branch files message =
      if accepted_changes files = [] then ⟨.ok ⟨branch,branch,message⟩,remote,false⟩
      else commit_and_push o remote branch source_branch message account.token := by
  obtain ⟨known,workspace,repo,username,token⟩ := complete
  rw [bitbucket_commit_via_git,known]
  dsimp only
  rw [if_neg fun either => either.elim workspace repo,if_neg fun either => either.elim username token]

/-- Without a complete credential the activity raises. -/
theorem complete_of_ok {result : GitCommitResult}
    (done : (bitbucket_commit_via_git o remote branch source_branch files message).result = .ok result) : ∃ account, Complete o account := by
  unfold bitbucket_commit_via_git at done
  split at done
  · cases done
  · next account known =>
    split at done
    · cases done
    · next place =>
      split at done
      · cases done
      · next filled =>
        rw [not_or] at place filled
        exact ⟨account,known,place.1,place.2,filled.1,filled.2⟩

theorem pushed_raised (created : List String) (e : String) (after : Remote) (pushed : Bool) :
    Pushed remote branch created ⟨.error e,after,pushed⟩ := by
  intro result done
  cases done

theorem pushed_returned {created : List String} {shown : String} :
    Pushed remote branch created ⟨.ok ⟨shown,branch,message⟩,remote,false⟩ ↔ ∃ h, remote.heads branch = some h ∧ h.text = shown := by
  constructor
  · exact fun good => (good _ rfl).1
  · rintro there result done
    cases done
    exact ⟨there,fun pushed => by cases pushed⟩

theorem pushed_set {created : List String} {shown : String} {head : Hash} :
    Pushed remote branch created ⟨.ok ⟨shown,branch,message⟩,remote.set branch head,true⟩ ↔
      head.text = shown ∧ (remote.heads branch = none ∨ branch ∈ created) := by
  have now : (remote.set branch head).heads branch = some head := if_pos rfl
  constructor
  · intro good
    obtain ⟨⟨h,there,same⟩,free⟩ := good _ rfl
    change (remote.set branch head).heads branch = some h at there
    rw [now] at there
    cases there
    exact ⟨same,free rfl⟩
  · rintro ⟨same,free⟩ result done
    cases done
    exact ⟨⟨head,now,same⟩,fun _ => free⟩

theorem commit_and_push_iff (filled : token ≠ "") (created : List String) :
    Pushed remote branch created (commit_and_push o remote branch source_branch message token) ↔
      (o.clone = 0 → o.checkout = 0 → o.applied = true →
        (o.commit.1 ≠ 0 → contains (lower (mask o.commit.2 token)) "nothing to commit" = true →
          ∃ h, remote.heads branch = some h ∧ Names o branch token (cloned_head remote source_branch) h) ∧
        (o.commit.1 = 0 → o.push = 0 →
          Names o branch token (some o.new_head) o.new_head ∧ (remote.heads branch = none ∨ branch ∈ created))) := by
  by_cases reached : o.clone = 0 ∧ o.checkout = 0 ∧ o.applied = true
  · obtain ⟨cloned,checked_out,applied⟩ := reached
    have from_commit : commit_and_push o remote branch source_branch message token =
        if o.commit.1 ≠ 0 then
          if contains (lower (mask o.commit.2 token)) "nothing to commit" = true then
            ⟨.ok ⟨shown_head token branch o.rev_parse (cloned_head remote source_branch),branch,message⟩,remote,false⟩
          else ⟨.error "git commit failed",remote,false⟩
        else if o.push ≠ 0 then ⟨.error "git push failed",remote,true⟩
        else ⟨.ok ⟨shown_head token branch o.rev_parse (some o.new_head),branch,message⟩,remote.set branch o.new_head,true⟩ := by
      simp only [commit_and_push,cloned,checked_out,applied]
      rfl
    rw [from_commit]
    by_cases failed : o.commit.1 ≠ 0
    · rw [if_pos failed]
      by_cases nothing : contains (lower (mask o.commit.2 token)) "nothing to commit" = true
      · rw [if_pos nothing,pushed_returned]
        simp only [shown_head_iff filled]
        exact ⟨fun there _ _ _ => ⟨fun _ _ => there,fun made => absurd made failed⟩,fun all => (all cloned checked_out applied).1 failed nothing⟩
      · rw [if_neg nothing]
        exact ⟨fun _ _ _ _ => ⟨fun _ found => absurd found nothing,fun made => absurd made failed⟩,fun _ => pushed_raised created _ _ _⟩
    · rw [if_neg failed]
      have made : o.commit.1 = 0 := not_not.mp failed
      by_cases refused : o.push ≠ 0
      · rw [if_pos refused]
        exact ⟨fun _ _ _ _ => ⟨fun no => absurd no failed,fun _ done => absurd done refused⟩,fun _ => pushed_raised created _ _ _⟩
      · rw [if_neg refused,pushed_set,shown_head_iff filled]
        exact ⟨fun good _ _ _ => ⟨fun no => absurd no failed,fun _ _ => good⟩,
          fun all => (all cloned checked_out applied).2 made (not_not.mp refused)⟩
  · constructor
    · exact fun _ cloned checked_out applied => absurd ⟨cloned,checked_out,applied⟩ reached
    · intro _
      unfold commit_and_push
      dsimp only
      split
      · exact pushed_raised created _ _ _
      · next cloned =>
        split
        · exact pushed_raised created _ _ _
        · next checked_out =>
          split
          · exact pushed_raised created _ _ _
          · next applied =>
            exact absurd ⟨not_not.mp cloned,not_not.mp checked_out,(Bool.not_eq_false _).mp applied⟩ reached

/-- What the activity returns is on the remote, and no branch of others is overwritten, exactly where
    its run is covered. -/
theorem pushed_iff (created : List String) :
    Pushed remote branch created (bitbucket_commit_via_git o remote branch source_branch files message) ↔
      Covered o remote branch source_branch files created := by
  constructor
  · intro good
    refine ⟨fun account complete unchanged => ?_,fun account complete changed => ?_,fun account complete changed => ?_⟩
    · rw [complete_run complete,if_pos unchanged] at good
      exact pushed_returned.mp good
    · rw [complete_run complete,if_neg changed,commit_and_push_iff complete.2.2.2.2] at good
      exact fun cloned checked_out applied => (good cloned checked_out applied).1
    · rw [complete_run complete,if_neg changed,commit_and_push_iff complete.2.2.2.2] at good
      exact fun cloned checked_out applied => (good cloned checked_out applied).2
  · intro covered result done
    obtain ⟨account,complete⟩ := complete_of_ok done
    refine (?_ : Pushed remote branch created (bitbucket_commit_via_git o remote branch source_branch files message)) result done
    rw [complete_run complete]
    by_cases unchanged : accepted_changes files = []
    · rw [if_pos unchanged]
      exact pushed_returned.mpr (covered.unchanged account complete unchanged)
    · rw [if_neg unchanged,commit_and_push_iff complete.2.2.2.2]
      exact fun cloned checked_out applied => ⟨covered.nothing account complete unchanged cloned checked_out applied,
        covered.pushed account complete unchanged cloned checked_out applied⟩

end

theorem hex_digits : ∀ c ∈ "4b825dc642cb6eb9a060e54bf8d69288fbee4904".toList, c ∈ "0123456789abcdef".toList := by
  have digits : "4b825dc642cb6eb9a060e54bf8d69288fbee4904".toList.all ("0123456789abcdef".toList.contains ·) = true := rfl
  intro c member
  exact List.contains_iff_mem.mp (List.all_eq_true.mp digits c member)

theorem hex_filled : "4b825dc642cb6eb9a060e54bf8d69288fbee4904" ≠ "" := by decide

def some_head : Hash := ⟨"4b825dc642cb6eb9a060e54bf8d69288fbee4904",hex_filled,hex_digits⟩

/-- A repository with one branch. -/
def main_only : Remote := ⟨fun name => if name = "main" then some some_head else none,"main"⟩

/-- Git finds that the change is in the clone already. -/
def no_difference : Outcomes :=
  ⟨some ⟨"bot","s3cr3t","PAY","service"⟩,0,0,true,(1,"nothing to commit, working tree clean"),some_head,0,0⟩

/-- The branch that is returned is not on the remote. -/
theorem nothing_pushed :
    (bitbucket_commit_via_git no_difference main_only "ai/PAY-1" "main" [⟨"README.md","hello","update"⟩] "PAY-1").result =
        .ok ⟨some_head.text,"ai/PAY-1","PAY-1"⟩ ∧
      ¬ Pushed main_only "ai/PAY-1" []
        (bitbucket_commit_via_git no_difference main_only "ai/PAY-1" "main" [⟨"README.md","hello","update"⟩] "PAY-1") := by
  have returned : (bitbucket_commit_via_git no_difference main_only "ai/PAY-1" "main" [⟨"README.md","hello","update"⟩] "PAY-1").result =
      .ok ⟨some_head.text,"ai/PAY-1","PAY-1"⟩ := by rfl
  refine ⟨returned,fun good => ?_⟩
  obtain ⟨h,there,-⟩ := (good _ returned).1
  cases there

end Automation.GitPush
