import Automation.Calendar
import Automation.JsonText
import Mathlib.Data.List.Basic

/-!
The archive of audit rows: lines of JSON, in an object whose key comes from the cutoff. An
archive holds its rows as they are: two lists of rows with one text are the same list
(`encode_jsonl_inj`).
-/
namespace Automation.AuditArchive
open Automation.Calendar Automation.JsonText
open Automation.Sha256 (utf8)

/-- A row of `automation.audit_events`; the driver gives the payload as a text. -/
structure AuditRow where
  id : Nat
  actor_id : String
  actor_role : String
  dept_id : Option String
  action : String
  resource : String
  result : String
  payload : Option String
  created_at : Datetime
  utc : created_at.utcoffset = some 0
  deriving DecidableEq

inductive Scalar where
  | null
  | string (text : String)
  | int (n : Nat)
  deriving DecidableEq

def Scalar.ofOption : Option String → Scalar
  | none => .null
  | some text => .string text

def dumps : Scalar → List Char
  | .null => "null".toList
  | .string text => dumpsString text
  | .int n => Nat.toDigits 10 n

/-- The members of an object behind the brace, without blanks. -/
def dumps_members : List (String × Scalar) → List Char
  | [] => ['}']
  | [(name,value)] => dumpsString name ++ ':' :: (dumps value ++ ['}'])
  | (name,value) :: more => dumpsString name ++ ':' :: (dumps value ++ ',' :: dumps_members more)

/-- The row as an object, its keys sorted. -/
def record_to_jsonable (row : AuditRow) : List (String × Scalar) :=
  [("action",.string row.action),("actor_id",.string row.actor_id),("actor_role",.string row.actor_role),
    ("created_at",.string (isoformat row.created_at)),("dept_id",.ofOption row.dept_id),("id",.int row.id),
    ("payload",.ofOption row.payload),("resource",.string row.resource),("result",.string row.result)]

def json_line (row : AuditRow) : List Char := '{' :: dumps_members (record_to_jsonable row)

/-- The text that is compressed into an archive. -/
def encode_jsonl (rows : List AuditRow) : List Char := rows.flatMap fun row => json_line row ++ ['\n']

def shard (cutoff : Datetime) : List Char := (Sha256.hexdigest (utf8 (isoformat cutoff))).toList.take 8

def build_archive_key (cutoff : Datetime) : String :=
  .ofList (digits 4 cutoff.year ++ '/' :: digits 2 cutoff.month ++ '/' :: digits 2 cutoff.day ++
    "/audit-".toList ++ shard cutoff ++ ".jsonl.gz".toList)

theorem dumpsString_inj {a b : String} {x y : List Char} (same : dumpsString a ++ x = dumpsString b ++ y) : a = b ∧ x = y := by
  have left := loadsString_dumps a x
  rw [same,loadsString_dumps] at left
  obtain ⟨rfl,rfl⟩ := Prod.mk.inj (Option.some.inj left)
  exact ⟨rfl,rfl⟩

/-- The digits of a number, before something else. -/
theorem takeWhile_toDigits (n : Nat) {c : Char} (other : c.isDigit = false) (rest : List Char) :
    (Nat.toDigits 10 n ++ c :: rest).takeWhile Char.isDigit = Nat.toDigits 10 n := by
  rw [List.takeWhile_append_of_pos,List.takeWhile_cons_of_neg,List.append_nil]
  · simp [other]
  · intro digit member
    exact Nat.isDigit_of_mem_toDigits (by decide) (by decide) member

theorem toDigits_inj {m n : Nat} {c d : Char} (left : c.isDigit = false) (right : d.isDigit = false) {x y : List Char}
    (same : Nat.toDigits 10 m ++ c :: x = Nat.toDigits 10 n ++ d :: y) : m = n ∧ c :: x = d :: y := by
  have digits : Nat.toDigits 10 m = Nat.toDigits 10 n := by
    rw [← takeWhile_toDigits m left x,same,takeWhile_toDigits n right y]
  constructor
  · rw [← Nat.ofDigitChars_ten_toDigits (n := m),digits,Nat.ofDigitChars_ten_toDigits]
  · rw [digits] at same
    exact List.append_cancel_left same

/-- The first character tells the kinds of values apart. -/
theorem head_toDigits (n : Nat) : ∃ c rest, Nat.toDigits 10 n = c :: rest ∧ c.isDigit = true := by
  cases found : Nat.toDigits 10 n with
  | nil => exact absurd found Nat.toDigits_ne_nil
  | cons c rest =>
    refine ⟨c,rest,rfl,Nat.isDigit_of_mem_toDigits (b := 10) (n := n) (by decide) (by decide) ?_⟩
    rw [found]
    exact List.mem_cons_self

theorem dumps_inj {a b : Scalar} {c d : Char} (left : c.isDigit = false) (right : d.isDigit = false) {x y : List Char}
    (same : dumps a ++ c :: x = dumps b ++ d :: y) : a = b ∧ c :: x = d :: y := by
  cases a with
  | null =>
    cases b with
    | null => exact ⟨rfl,List.append_cancel_left same⟩
    | string text => exact absurd (List.cons.inj same).1 (by decide)
    | int n =>
      obtain ⟨digit,rest,start,isDigit⟩ := head_toDigits n
      simp only [dumps,start] at same
      have first : 'n' = digit := (List.cons.inj same).1
      rw [← first] at isDigit
      exact absurd isDigit (by decide)
  | string text =>
    cases b with
    | null => exact absurd (List.cons.inj same).1 (by decide)
    | string other =>
      obtain ⟨rfl,rest⟩ := dumpsString_inj same
      exact ⟨rfl,rest⟩
    | int n =>
      obtain ⟨digit,rest,start,isDigit⟩ := head_toDigits n
      simp only [dumps,start] at same
      have first : '"' = digit := (List.cons.inj same).1
      rw [← first] at isDigit
      exact absurd isDigit (by decide)
  | int m =>
    obtain ⟨digit,rest,start,isDigit⟩ := head_toDigits m
    cases b with
    | null =>
      simp only [dumps,start] at same
      have first : digit = 'n' := (List.cons.inj same).1
      rw [first] at isDigit
      exact absurd isDigit (by decide)
    | string text =>
      simp only [dumps,start] at same
      have first : digit = '"' := (List.cons.inj same).1
      rw [first] at isDigit
      exact absurd isDigit (by decide)
    | int n =>
      obtain ⟨rfl,rest⟩ := toDigits_inj left right same
      exact ⟨rfl,rest⟩

/-- What follows a value. -/
def behind : List (String × Scalar) → List Char
  | [] => ['}']
  | more => ',' :: dumps_members more

theorem dumps_members_cons (name : String) (value : Scalar) (more : List (String × Scalar)) :
    dumps_members ((name,value) :: more) = dumpsString name ++ ':' :: (dumps value ++ behind more) := by
  cases more with
  | nil => rfl
  | cons item more => rfl

theorem dumps_members_inj : ∀ {a b : List (String × Scalar)}, dumps_members a = dumps_members b → a = b
  | [], [], _ => rfl
  | [], (name,value) :: more, same => by
    rw [dumps_members_cons] at same
    exact absurd (List.cons.inj same).1 (by decide)
  | (name,value) :: more, [], same => by
    rw [dumps_members_cons] at same
    exact absurd (List.cons.inj same).1 (by decide)
  | (name,value) :: more, (name',value') :: more', same => by
    rw [dumps_members_cons,dumps_members_cons] at same
    obtain ⟨rfl,rest⟩ := dumpsString_inj same
    have tail := (List.cons.inj rest).2
    cases more with
    | nil =>
      cases more' with
      | nil =>
        obtain ⟨rfl,-⟩ := dumps_inj (by decide) (by decide) tail
        rfl
      | cons item others =>
        obtain ⟨-,impossible⟩ := dumps_inj (by decide) (by decide) tail
        exact absurd (List.cons.inj impossible).1 (by decide)
    | cons item others =>
      cases more' with
      | nil =>
        obtain ⟨-,impossible⟩ := dumps_inj (by decide) (by decide) tail
        exact absurd (List.cons.inj impossible).1 (by decide)
      | cons item' others' =>
        obtain ⟨rfl,after⟩ := dumps_inj (by decide) (by decide) tail
        rw [dumps_members_inj (List.cons.inj after).2]

theorem ofOption_inj {a b : Option String} (same : Scalar.ofOption a = .ofOption b) : a = b := by
  cases a with
  | none =>
    cases b with
    | none => rfl
    | some text => cases same
  | some text =>
    cases b with
    | none => cases same
    | some other => rw [Scalar.string.inj same]

theorem isoformat_inj {a b : Datetime} (left : a.utcoffset = some 0) (right : b.utcoffset = some 0) (same : isoformat a = isoformat b) :
    a = b := by
  have read := fromisoformat_isoformat a left
  rw [same,fromisoformat_isoformat b right] at read
  exact (Option.some.inj read).symm

theorem record_inj {a b : AuditRow} (same : record_to_jsonable a = record_to_jsonable b) : a = b := by
  simp only [record_to_jsonable,List.cons.injEq,Prod.mk.injEq,Scalar.string.injEq,Scalar.int.injEq,true_and,and_true] at same
  obtain ⟨action,actor_id,actor_role,created_at,dept_id,id,payload,resource,result⟩ := same
  cases a
  cases b
  simp only at action actor_id actor_role created_at dept_id id payload resource result
  subst action actor_id actor_role id resource result
  obtain rfl := ofOption_inj dept_id
  obtain rfl := ofOption_inj payload
  rename_i left _ right
  obtain rfl := isoformat_inj left right created_at
  rfl

theorem json_line_inj {a b : AuditRow} (same : json_line a = json_line b) : a = b :=
  record_inj (dumps_members_inj (List.cons.inj same).2)

theorem hexDigit_ne : ∀ n < 16, Sha256.hexDigit n ≠ '\n' := by decide

theorem newline_escape (c : Char) : '\n' ∉ escape c := by
  unfold escape
  split
  · decide
  split
  · decide
  split
  · decide
  split
  · decide
  split
  · decide
  split
  · decide
  split
  · decide
  split
  · next control =>
    intro member
    have high := hexDigit_ne (c.toNat / 16) (by omega)
    have low := hexDigit_ne (c.toNat % 16) (by omega)
    simp only [List.mem_cons,List.not_mem_nil,or_false] at member
    obtain impossible | impossible | impossible | impossible | first | second := member
    · exact absurd impossible (by decide)
    · exact absurd impossible (by decide)
    · exact absurd impossible (by decide)
    · exact absurd impossible (by decide)
    · exact high first.symm
    · exact low second.symm
  · next other _ _ _ _ _ =>
    intro member
    exact other (List.mem_singleton.mp member).symm

theorem newline_dumpsString (text : String) : '\n' ∉ dumpsString text := by
  unfold dumpsString
  simp only [List.cons_append,List.mem_cons,List.mem_append,List.mem_flatMap,List.not_mem_nil,or_false]
  rintro (impossible | ⟨c,-,member⟩ | impossible)
  · exact absurd impossible (by decide)
  · exact newline_escape c member
  · exact absurd impossible (by decide)

theorem newline_dumps (value : Scalar) : '\n' ∉ dumps value := by
  cases value with
  | null => decide
  | string text => exact newline_dumpsString text
  | int n =>
    intro member
    exact absurd (Nat.isDigit_of_mem_toDigits (by decide) (by decide) member) (by decide)

theorem newline_members (members : List (String × Scalar)) : '\n' ∉ dumps_members members := by
  induction members with
  | nil => decide
  | cons item more ih =>
    obtain ⟨name,value⟩ := item
    have after : '\n' ∉ behind more := by
      cases more with
      | nil => decide
      | cons item more =>
        intro member
        obtain impossible | later := List.mem_cons.mp member
        · exact absurd impossible (by decide)
        · exact ih later
    rw [dumps_members_cons]
    simp only [List.mem_append,List.mem_cons]
    rintro (in_name | impossible | in_value | later)
    · exact newline_dumpsString name in_name
    · exact absurd impossible (by decide)
    · exact newline_dumps value in_value
    · exact after later

theorem newline_line (row : AuditRow) : '\n' ∉ json_line row := by
  intro member
  obtain impossible | later := List.mem_cons.mp member
  · exact absurd impossible (by decide)
  · exact newline_members _ later

theorem encode_jsonl_cons (row : AuditRow) (rows : List AuditRow) : encode_jsonl (row :: rows) = json_line row ++ '\n' :: encode_jsonl rows := by
  unfold encode_jsonl
  rw [List.flatMap_cons,List.append_assoc,List.singleton_append]

theorem encode_jsonl_inj : ∀ {a b : List AuditRow}, encode_jsonl a = encode_jsonl b → a = b
  | [], [], _ => rfl
  | [], row :: rows, same => by
    rw [encode_jsonl_cons] at same
    exact absurd same (by simp [encode_jsonl])
  | row :: rows, [], same => by
    rw [encode_jsonl_cons] at same
    exact absurd same (by simp [encode_jsonl])
  | a :: rows, b :: others, same => by
    rw [encode_jsonl_cons,encode_jsonl_cons] at same
    have lines := congrArg (List.splitOn '\n') same
    rw [List.splitOn_append_cons_self_of_not_mem (newline_line a),List.splitOn_append_cons_self_of_not_mem (newline_line b)] at lines
    have line := (List.cons.inj lines).1
    rw [line] at same
    rw [json_line_inj line,encode_jsonl_inj (List.cons.inj (List.append_cancel_left same)).2]

end Automation.AuditArchive
