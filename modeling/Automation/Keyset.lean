import Mathlib.Data.List.Sort
import Mathlib.Tactic.Common

/-!
Reading a table by pages. A page has the first rows, in the order of a key, behind the last
row that was read; a page that is not full is the last. The table may lose rows between two
pages: what stays in it until the end is read, and in order (`Reading.page`,
`Reading.complete`).
-/
namespace Automation.Keyset

section
variable {α κ : Type} [LinearOrder κ] (key : α → κ)

/-- The rows behind the last that was read. -/
def beyond (last : Option α) (rows : List α) : List α := rows.filter fun row => last.all fun l => key l < key row

def page (size : Nat) (last : Option α) (rows : List α) : List α :=
  ((beyond key last rows).insertionSort fun a b => key a ≤ key b).take size

/-- What was read from a table so far: it is in order, and nothing was passed over. -/
structure Reading (rows got : List α) : Prop where
  sorted : got.Pairwise fun a b => key a < key b
  covers : ∀ last ∈ got.getLast?, ∀ row ∈ rows, key row ≤ key last → row ∈ got

variable {key} {size : Nat} {last : Option α} {rows got : List α} {a b : α}

theorem mem_beyond : a ∈ beyond key last rows ↔ a ∈ rows ∧ ∀ l ∈ last, key l < key a := by
  unfold beyond
  rw [List.mem_filter]
  cases last with
  | none => simp
  | some l => simp

theorem mem_page (member : a ∈ page key size last rows) : a ∈ rows ∧ ∀ l ∈ last, key l < key a := by
  have sorted := List.mem_of_mem_take member
  rw [List.mem_insertionSort] at sorted
  exact mem_beyond.mp sorted

theorem pairwise_beyond (distinct : (rows.map key).Nodup) :
    ((beyond key last rows).insertionSort fun a b => key a ≤ key b).Pairwise fun a b => key a < key b := by
  have perm := List.perm_insertionSort (fun a b => key a ≤ key b) (beyond key last rows)
  have nodup : (((beyond key last rows).insertionSort fun a b => key a ≤ key b).map key).Nodup := by
    rw [(perm.map key).nodup_iff]
    exact distinct.sublist (List.filter_sublist.map key)
  have total : Std.Total fun a b : α => key a ≤ key b := ⟨fun a b => le_total (key a) (key b)⟩
  have trans : IsTrans α fun a b => key a ≤ key b := ⟨fun _ _ _ => le_trans⟩
  have sorted := List.pairwise_insertionSort (fun a b => key a ≤ key b) (beyond key last rows)
  have apart := List.pairwise_map.mp nodup
  exact (sorted.and apart).imp fun both => lt_of_le_of_ne both.1 both.2

theorem pairwise_page (distinct : (rows.map key).Nodup) : (page key size last rows).Pairwise fun a b => key a < key b :=
  (pairwise_beyond distinct).sublist (List.take_sublist ..)

theorem mem_page_of_le (distinct : (rows.map key).Nodup) (member : b ∈ page key size last rows) (row : a ∈ rows)
    (behind : ∀ l ∈ last, key l < key a) (before : key a ≤ key b) : a ∈ page key size last rows := by
  have sorted : ((beyond key last rows).insertionSort fun a b => key a ≤ key b).Pairwise fun a b => key a < key b :=
    pairwise_beyond distinct
  have present : a ∈ (beyond key last rows).insertionSort fun a b => key a ≤ key b := by
    rw [List.mem_insertionSort]
    exact mem_beyond.mpr ⟨row,behind⟩
  unfold page at member ⊢
  rw [← List.take_append_drop size (List.insertionSort _ _)] at sorted present
  obtain here | later := List.mem_append.mp present
  · exact here
  · have after := (List.pairwise_append.mp sorted).2.2 b member a later
    exact absurd before (not_le_of_gt after)

theorem mem_page_of_short (short : (page key size last rows).length < size) (row : a ∈ rows) (behind : ∀ l ∈ last, key l < key a) :
    a ∈ page key size last rows := by
  have whole : ((beyond key last rows).insertionSort fun a b => key a ≤ key b).length ≤ size := by
    unfold page at short
    rw [List.length_take] at short
    omega
  unfold page
  rw [List.take_of_length_le whole,List.mem_insertionSort]
  exact mem_beyond.mpr ⟨row,behind⟩

theorem Reading.nil : Reading key rows [] := ⟨.nil,fun _ impossible => nomatch impossible⟩

/-- A table that loses rows, or gets none that matter. -/
theorem Reading.mono {fewer : List α} (reading : Reading key rows got) (still : ∀ row ∈ fewer, row ∈ rows) : Reading key fewer got :=
  ⟨reading.sorted,fun last here row member before => reading.covers last here row (still row member) before⟩

theorem Reading.le_last (reading : Reading key rows got) {last : α} (here : last ∈ got.getLast?) (member : a ∈ got) :
    key a ≤ key last := by
  obtain ⟨front,rfl⟩ := List.getLast?_eq_some_iff.mp here
  obtain before | new := List.mem_append.mp member
  · exact le_of_lt ((List.pairwise_append.mp reading.sorted).2.2 a before last (List.mem_singleton.mpr rfl))
  · rw [List.mem_singleton.mp new]

theorem Reading.behind (reading : Reading key rows got) (row : a ∈ rows) (unread : a ∉ got) : ∀ l ∈ got.getLast?, key l < key a := by
  intro l here
  by_contra before
  exact unread (reading.covers l here a row (not_lt.mp before))

theorem Reading.page (reading : Reading key rows got) (distinct : (rows.map key).Nodup) :
    Reading key rows (got ++ page key size got.getLast? rows) := by
  constructor
  · refine List.pairwise_append.mpr ⟨reading.sorted,pairwise_page distinct,?_⟩
    intro a old b new
    cases here : got.getLast? with
    | none =>
      rw [List.getLast?_eq_none_iff.mp here] at old
      cases old
    | some last =>
      rw [here] at new
      exact lt_of_le_of_lt (reading.le_last here old) ((mem_page new).2 last rfl)
  · intro last here row member before
    by_cases read : row ∈ got
    · exact List.mem_append_left _ read
    · have behind := reading.behind member read
      rw [List.getLast?_append] at here
      cases new : (Keyset.page key size got.getLast? rows).getLast? with
      | none =>
        -- the page is empty, and the last row is the one before
        rw [new,Option.none_or] at here
        exact absurd before (not_le_of_gt (behind last here))
      | some l =>
        rw [new,Option.some_or] at here
        obtain rfl := Option.some.inj here
        exact List.mem_append_right _ (mem_page_of_le distinct (List.mem_of_getLast? new) member behind before)

theorem Reading.complete (reading : Reading key rows got) (short : (Keyset.page key size got.getLast? rows).length < size) :
    ∀ row ∈ rows, row ∈ got ++ Keyset.page key size got.getLast? rows := by
  intro row member
  by_cases read : row ∈ got
  · exact List.mem_append_left _ read
  · exact List.mem_append_right _ (mem_page_of_short short member (reading.behind member read))

end

end Automation.Keyset
