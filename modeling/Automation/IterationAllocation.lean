import Automation.Iteration
import Automation.RelyGuarantee
import Std.Data.String.ToInt

/-!
The iteration numbers that concurrent attempts of `prepare_iteration` hand out. An attempt
reads the latest row of its issue and inserts the next number two awaits later, when
others may have inserted theirs: the unique key then refuses the row. In any interleaving
of any attempts, retried or abandoned ones among them, the numbers of an issue are
`1 … k` within the cap, and no two authorised attempts hold the same number or workspace
of an issue (`allocations_distinct`).
-/
namespace Automation.IterationAllocation
open Automation.Effects Automation.RelyGuarantee Automation.Iteration

/-- The numbers of the issue are `1 … k`. -/
abbrev Numbered (table : IterationTable) (issue : String) (k : Int) : Prop :=
  ∀ n, (issue,n) ∈ table.rows.map IterationRecord.key ↔ 1 ≤ n ∧ n ≤ k

/-- The numbers of every issue are `1 … k`, at most the cap. -/
def Contiguous (table : IterationTable) : Prop :=
  ∀ issue, ∃ k, 0 ≤ k ∧ k ≤ max_iterations_per_issue ∧ Numbered table issue k

/-- Rows are only added. -/
def Grows (s t : IterationTable) : Prop := s.rows ⊆ t.rows

/-- The row of an authorised result, under the path of its issue and number. -/
def Recorded (base : String) (context : IterationContext) (table : IterationTable) : Prop :=
  build_iteration_workspace_path base context.issue_key context.iteration_number = some context.workspace_path ∧
    ∃ row ∈ table.rows, row.key = (context.issue_key,context.iteration_number) ∧
      row.workflow_id = context.workflow_id ∧ row.workspace_path = context.workspace_path

/-- An authorised result ends a stretch that added its row. -/
def Granted (base : String) (_ : PrepareIterationInput) (context : IterationContext) (s t : IterationTable) : Prop :=
  context.authorized = true → Recorded base context t ∧
    (context.issue_key,context.iteration_number) ∉ s.rows.map IterationRecord.key

/-- The later of the row so far and the next one. -/
def newest : Option IterationRecord → IterationRecord → Option IterationRecord
  | none, row => some row
  | some top, row => if top.iteration_number < row.iteration_number then some row else some top

section
variable {table : IterationTable} {issue : String} {k : Int}

theorem latest_foldl :
    table.latest issue = (table.rows.filter fun row => row.issue_key == issue).foldl newest none := by
  unfold IterationTable.latest
  congr 1
  funext best row
  cases best <;> rfl

theorem mem_key {n : Int} : (issue,n) ∈ table.rows.map IterationRecord.key ↔
    ∃ row ∈ table.rows.filter (fun row => row.issue_key == issue), row.iteration_number = n := by
  simp only [List.mem_map,List.mem_filter,beq_iff_eq,IterationRecord.key,Prod.mk.injEq,and_assoc]

theorem foldl_newest (rows : List IterationRecord) (top : IterationRecord) :
    ∃ last ∈ top :: rows, rows.foldl newest (some top) = some last ∧
      ∀ row ∈ top :: rows, row.iteration_number ≤ last.iteration_number := by
  induction rows generalizing top with
  | nil => exact ⟨top,by simp,rfl,by simp⟩
  | cons row rest ih =>
    rw [List.foldl_cons,newest]
    by_cases newer : top.iteration_number < row.iteration_number
    · rw [if_pos newer]
      obtain ⟨last,member,found,most⟩ := ih row
      refine ⟨last,List.mem_cons_of_mem _ member,found,List.forall_mem_cons.mpr ⟨?_,most⟩⟩
      have := most row (by simp)
      omega
    · rw [if_neg newer]
      obtain ⟨last,member,found,most⟩ := ih top
      obtain ⟨first,others⟩ := List.forall_mem_cons.mp most
      refine ⟨last,by simp only [List.mem_cons] at member ⊢; tauto,found,?_⟩
      refine List.forall_mem_cons.mpr ⟨first,List.forall_mem_cons.mpr ⟨by omega,others⟩⟩

theorem latest_number (nonneg : 0 ≤ k) (numbers : Numbered table issue k) :
    ((table.latest issue).map IterationRecord.iteration_number).getD 0 = k := by
  simp only [Numbered,mem_key] at numbers
  rw [latest_foldl]
  cases own : table.rows.filter (fun row => row.issue_key == issue) with
  | nil =>
    have none_left := (numbers k).mpr
    rw [own] at none_left
    show (0 : Int) = k
    by_contra other
    obtain ⟨row,member,_⟩ := none_left ⟨by omega,Int.le_refl k⟩
    cases member
  | cons first rest =>
    rw [own] at numbers
    obtain ⟨last,member,found,most⟩ := foldl_newest rest first
    rw [List.foldl_cons,newest,found]
    obtain ⟨positive,within⟩ := (numbers last.iteration_number).mp ⟨last,member,rfl⟩
    obtain ⟨row,in_issue,number⟩ := (numbers k).mpr ⟨by omega,Int.le_refl k⟩
    have := most row in_issue
    show last.iteration_number = k
    omega

end

section
variable {table : IterationTable} {row : IterationRecord}

theorem insert_taken (taken : row.key ∈ table.rows.map IterationRecord.key) : table.insert row = none := dif_pos taken

theorem unique_insert (free : row.key ∉ table.rows.map IterationRecord.key) :
    ((row :: table.rows).map IterationRecord.key).Nodup := List.nodup_cons.mpr ⟨free,table.unique⟩

theorem insert_free (free : row.key ∉ table.rows.map IterationRecord.key) :
    table.insert row = some ⟨row :: table.rows,unique_insert free⟩ := dif_neg free

end

theorem grows_refl (table : IterationTable) : Grows table table := List.Subset.refl _

theorem grows_trans (s t u : IterationTable) : Grows s t → Grows t u → Grows s u := List.Subset.trans

theorem contiguous_insert {table : IterationTable} {row : IterationRecord} {k : Int} (kept : Contiguous table)
    (nonneg : 0 ≤ k) (numbers : Numbered table row.issue_key k) (next : row.iteration_number = k + 1) (capped : k < max_iterations_per_issue)
    (unique : ((row :: table.rows).map IterationRecord.key).Nodup) : Contiguous ⟨row :: table.rows,unique⟩ := by
  intro issue
  by_cases own : issue = row.issue_key
  · subst own
    refine ⟨k + 1,by omega,by omega,fun n => ?_⟩
    rw [List.map_cons,List.mem_cons,numbers n]
    simp only [IterationRecord.key,Prod.mk.injEq,true_and,next]
    omega
  · obtain ⟨l,positive,within,others⟩ := kept issue
    refine ⟨l,positive,within,fun n => ?_⟩
    rw [List.map_cons,List.mem_cons,others n]
    simp [IterationRecord.key,own]

theorem still_last {s t : IterationTable} (grows : Grows s t) (kept : Contiguous t) {issue : String} {k : Int}
    (nonneg : 0 ≤ k) (numbers : Numbered s issue k) (free : (issue,k + 1) ∉ t.rows.map IterationRecord.key) :
    Numbered t issue k := by
  intro n
  obtain ⟨l,positive,within,others⟩ := kept issue
  have before : ∀ n, 1 ≤ n ∧ n ≤ k → 1 ≤ n ∧ n ≤ l := fun n low =>
    (others n).mp (List.map_subset _ grows ((numbers n).mpr low))
  have few : ¬(1 ≤ k + 1 ∧ k + 1 ≤ l) := fun taken => free ((others (k + 1)).mpr taken)
  have reached := before k
  rw [others n]
  omega

theorem authorized_follows (base : String) (input : PrepareIterationInput) (trace_id : String) {s t : IterationTable}
    (kept : Contiguous t) (grows : Grows s t) :
    Follows Contiguous Grows (Granted base input) (prepare_authorized base input trace_id) s t := by
  have denied : ∀ (u : IterationTable) reason count, Contiguous u → Follows Contiguous Grows (Granted base input)
      (pure (unauthorized_result input reason trace_id count) : Worker IterationContext) u u := fun u reason count holds =>
    ⟨holds,grows_refl u,nofun⟩
  unfold prepare_authorized
  refine ⟨kept,grows,fun u holds _ available => ?_⟩
  cases available with
  | error e => exact ⟨holds,grows_refl u⟩
  | ok _ =>
    obtain ⟨k,nonneg,-,numbers⟩ := holds input.issue_key
    have last := latest_number nonneg numbers
    simp only [look,command]
    change Follows _ _ _ (if _ then _ else _) u u
    split
    · exact denied u _ _ holds
    · next below =>
      rw [last] at below ⊢
      cases path : build_iteration_workspace_path base input.issue_key (k + 1) with
      | none => exact denied u _ _ holds
      | some workspace_path =>
        refine ⟨holds,grows_refl u,fun v holds' grown hex => ?_⟩
        refine ⟨holds',grows_refl v,fun w current later available => ?_⟩
        cases available with
        | error e => exact denied w _ _ current
        | ok _ =>
          simp only [bind,Prog.bind,Follows]
          by_cases taken : (input.issue_key,k + 1) ∈ w.rows.map IterationRecord.key
          · rw [insert_taken taken]
            exact denied w _ _ current
          · rw [insert_free taken]
            have still := still_last (grows_trans u v w grown later) current nonneg numbers taken
            refine ⟨contiguous_insert current nonneg still rfl ?_ _,List.subset_cons_self _ _,fun _ => ?_⟩
            · simp only [Bool.or_eq_true,decide_eq_true_eq] at below
              omega
            · exact ⟨⟨path,_,List.mem_cons_self ..,rfl,rfl,rfl⟩,taken⟩

theorem prepare_follows (base : String) (input : PrepareIterationInput) (s : IterationTable) (kept : Contiguous s) :
    Follows Contiguous Grows (Granted base input) (prepare_iteration base input) s s := by
  have attempted : ∀ trace_id t, Contiguous t → Follows Contiguous Grows (Granted base input)
      (if is_authorized_for_iterate input.comment_author_account_id (activity_approvers input.dept_config)
          input.issue_reporter_account_id = false then
        pure (unauthorized_result input "not_authorized" trace_id none)
      else prepare_authorized base input trace_id) t t := by
    intro trace_id t holds
    split
    · exact ⟨holds,grows_refl t,nofun⟩
    · exact authorized_follows base input trace_id holds (grows_refl t)
  show Follows _ _ _ (if input.trace_id ≠ "" then _ else _) s s
  by_cases traced : input.trace_id ≠ ""
  · rw [if_pos traced]
    exact attempted input.trace_id s kept
  · rw [if_neg traced]
    exact ⟨kept,grows_refl s,fun u holds _ hex => attempted hex u holds⟩

theorem number_of_path {base issue_key path : String} {n n' : Int}
    (built : build_iteration_workspace_path base issue_key n = some path)
    (other : build_iteration_workspace_path base issue_key n' = some path) : n = n' := by
  have digits : ∀ {m : Int}, build_iteration_workspace_path base issue_key m = some path → ∃ front, path = front ++ toString m ∧
      front = String.ofList (base.toList.reverse.dropWhile (· == '/')).reverse ++ "/" ++ issue_key ++ "/iter-" := by
    intro m built
    unfold build_iteration_workspace_path at built
    split at built
    · exact ⟨_,(Option.some.inj built).symm,rfl⟩
    · cases built
  obtain ⟨front,split,rfl⟩ := digits built
  obtain ⟨_,split',rfl⟩ := digits other
  exact Int.repr_injective (String.append_right_inj _ |>.mp (split.symm.trans split'))

def authorised (results : List (PrepareIterationInput × IterationContext)) : List IterationContext :=
  (results.map Prod.snd).filter IterationContext.authorized

/-- Every authorised result has its row, and no two of an issue the same number or workspace. -/
def Allocated (base : String) (results : List (PrepareIterationInput × IterationContext)) (table : IterationTable) : Prop :=
  (∀ context ∈ authorised results, Recorded base context table) ∧
    (authorised results).Pairwise fun a b => a.issue_key = b.issue_key →
      a.iteration_number ≠ b.iteration_number ∧ a.workspace_path ≠ b.workspace_path

variable {base : String} {context : IterationContext} {s t : IterationTable}

theorem recorded_later (grows : Grows s t) (recorded : Recorded base context s) : Recorded base context t := by
  obtain ⟨path,row,member,same⟩ := recorded
  exact ⟨path,row,grows member,same⟩

theorem allocated_result {input : PrepareIterationInput} {results : List (PrepareIterationInput × IterationContext)}
    (grows : Grows s t) (granted : Granted base input context s t) (allocated : Allocated base results s) :
    Allocated base ((input,context) :: results) t := by
  have before : ∀ other ∈ authorised results, Recorded base other t := fun other member =>
    recorded_later grows (allocated.1 other member)
  unfold Allocated authorised
  rw [List.map_cons]
  by_cases passed : context.authorized = true
  · rw [List.filter_cons_of_pos passed]
    obtain ⟨recorded,fresh⟩ := granted passed
    refine ⟨List.forall_mem_cons.mpr ⟨recorded,before⟩,List.pairwise_cons.mpr ⟨?_,allocated.2⟩⟩
    intro other member issue
    obtain ⟨path,row,stored,key,-⟩ := allocated.1 other member
    have apart : context.iteration_number ≠ other.iteration_number := fun number =>
      fresh (by rw [issue,number,← key]; exact List.mem_map_of_mem stored)
    exact ⟨apart,fun same => apart (number_of_path recorded.1 (by rw [issue,same,path]))⟩
  · rw [List.filter_cons_of_neg passed]
    exact ⟨before,allocated.2⟩

/-- In any interleaving of any attempts the numbers of every issue are `1 … k` within the
    cap, and no two authorised attempts hold the same number or workspace of an issue. -/
theorem allocations_distinct (base : String) (turns : List (Turn PrepareIterationInput workerQueries)) :
    let pool := turns.foldl (step (prepare_iteration base)) (start ⟨[],List.nodup_nil⟩)
    Contiguous pool.shared ∧ Allocated base pool.results pool.shared := by
  have empty : Contiguous ⟨[],List.nodup_nil⟩ := fun issue => ⟨0,by decide,by decide,fun n => by simp; omega⟩
  have stable : ∀ results s t, Contiguous s → Contiguous t → Grows s t → Allocated base results s →
      Allocated base results t := fun _ _ _ _ _ grows known =>
    ⟨fun other member => recorded_later grows (known.1 other member),known.2⟩
  have returns : ∀ input context results s t, Contiguous s → Contiguous t → Grows s t → Granted base input context s t →
      Allocated base results s → Allocated base ((input,context) :: results) t := fun _ _ _ _ _ _ _ grows granted known =>
    allocated_result grows granted known
  have kept := turns_keep grows_trans stable returns grows_refl (prepare_follows base) turns _
    (kept_start empty ⟨fun _ => nofun,List.Pairwise.nil⟩)
  exact ⟨kept.holds,kept.known⟩

end Automation.IterationAllocation
