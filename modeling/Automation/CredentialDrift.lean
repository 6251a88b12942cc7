import Automation.Calendar
import Automation.CredentialResolver
import Mathlib.Data.Rat.Defs
import Mathlib.Data.String.Basic
import Mathlib.Tactic.Linarith
import Mathlib.Tactic.Positivity

/-!
Creation times of secrets as RFC 3339 writes them. The resolver compares their texts
where it looks for a rotated secret. Between two times of one zone this is the order of
the instants but where the fraction of one begins the fraction of the other
(`drift_chronological_iff`): the letter of the zone then stands against a digit.
-/
namespace Automation.CredentialDrift
open Automation.Calendar Automation.CredentialResolver

/-- `Z`, or an offset from UTC in hours and minutes. -/
inductive Zone where
  | utc (letter : Char)
  | offset (negative : Bool) (hours minutes : Nat)
  deriving DecidableEq

def Zone.text : Zone → List Char
  | .utc letter => [letter]
  | .offset negative hours minutes => (if negative then '-' else '+') :: (digits 2 hours ++ ':' :: digits 2 minutes)

/-- The minutes that local time is ahead of UTC. -/
def Zone.ahead : Zone → Int
  | .utc _ => 0
  | .offset negative hours minutes =>
    if negative then -(hours * 60 + minutes : Int) else (hours * 60 + minutes : Int)

def Zone.Valid : Zone → Prop
  | .utc letter => letter = 'Z' ∨ letter = 'z'
  | .offset _ hours minutes => hours ≤ 23 ∧ minutes ≤ 59

/-- A `date-time` of RFC 3339. The grammar takes both cases of `T` and `Z`, any number of
    fractional digits, and the second 60. -/
structure Timestamp where
  year : Nat
  month : Nat
  day : Nat
  separator : Char
  hour : Nat
  minute : Nat
  second : Nat
  fraction : List Char
  zone : Zone
  year_le : year ≤ 9999
  month_pos : 1 ≤ month
  month_le : month ≤ 12
  day_pos : 1 ≤ day
  day_le : day ≤ days_in_month (is_leap year) month
  separated : separator = 'T' ∨ separator = 't'
  hour_le : hour ≤ 23
  minute_le : minute ≤ 59
  second_le : second ≤ 60
  digital : ∀ c ∈ fraction, c.isDigit = true
  zoned : zone.Valid

namespace Timestamp

def tail (t : Timestamp) : List Char := (if t.fraction = [] then [] else '.' :: t.fraction) ++ t.zone.text

def text (t : Timestamp) : String :=
  .ofList (digits 4 t.year ++ '-' :: (digits 2 t.month ++ '-' :: (digits 2 t.day ++ t.separator ::
    (digits 2 t.hour ++ ':' :: (digits 2 t.minute ++ ':' :: (digits 2 t.second ++ t.tail))))))

/-- The day of a proleptic calendar; it is counted from four centuries before, for year 0. -/
def day_number (t : Timestamp) : Nat := ymd2ord (t.year + 400) t.month t.day

/-- The minute of the instant. -/
def minutes (t : Timestamp) : Int := (t.day_number * 1440 + t.hour * 60 + t.minute : Int) - t.zone.ahead

end Timestamp

/-- The part of a second that fractional digits stand for. -/
def part : List Char → Rat
  | [] => 0
  | c :: cs => ((c.toNat - 48 : Nat) + part cs) / 10

/-- The order of instants: by minutes, by seconds, and by the part of the second. -/
def Later (prev new : Timestamp) : Prop :=
  prev.minutes < new.minutes ∨ prev.minutes = new.minutes ∧
    (prev.second < new.second ∨ prev.second = new.second ∧ part prev.fraction < part new.fraction)

/-- The refresh of a call, of an entry created at `prev`, with a complete secret created at
    `new`, waits for the audit of a rotated secret. -/
def EmitsDrift (id : Nat) (call : Call) (path : String) (now : Int) (entry : CachedEntry)
    (data : Dict String String) (s : State) (prev new : Timestamp) : Prop :=
  ∃ waiting event next,
    (refresh ⟨true,true⟩ id call .read_with_metadata path now
      (some { entry with vault_created_time := some prev.text })
      (some { data, created_time := some new.text }) s).calls.get? id = some waiting ∧
    waiting.phase = .auditing event next ∧ event.action = "vault_credential_refreshed"

/-- A refresh emits the audit exactly where the secret was created later than the cached one. -/
def Chronological (prev new : Timestamp) : Prop :=
  ∀ id call path now entry data s, (credential_of data).isSome →
    (EmitsDrift id call path now entry data s prev new ↔ Later prev new)

/-- The two read the same up to the second. -/
structure SameSecond (prev new : Timestamp) : Prop where
  year : prev.year = new.year
  month : prev.month = new.month
  day : prev.day = new.day
  hour : prev.hour = new.hour
  minute : prev.minute = new.minute
  second : prev.second = new.second

/-- The fractions that a zone puts in the wrong order. Its letter comes after the digits: the
    shorter fraction of two then counts as the later. A sign comes before the digits: zeros at
    the end then count as later. -/
def Zone.Misorders (prev new : List Char) : Zone → Prop
  | .utc _ => (∃ rest, rest ≠ [] ∧ prev = new ++ rest) ∨ ∃ rest, new = prev ++ rest ∧ ∃ c ∈ rest, c ≠ '0'
  | .offset _ _ _ => ∃ rest, rest ≠ [] ∧ new = prev ++ rest ∧ ∀ c ∈ rest, c = '0'

/-- When the comparison of two times of one zone is chronological: within one second their
    fractions may not be misordered. -/
def Ordered (prev new : Timestamp) : Prop := ¬(SameSecond prev new ∧ prev.zone.Misorders prev.fraction new.fraction)

section
variable {a b u v : List Char}

theorem append_lt_iff (same : a.length = b.length) : a ++ u < b ++ v ↔ a < b ∨ a = b ∧ u < v := by
  induction a generalizing b with
  | nil =>
    obtain rfl := List.length_eq_zero_iff.mp same.symm
    simp
  | cons c cs ih =>
    cases b with
    | nil => cases same
    | cons d ds =>
      have shorter : cs.length = ds.length := Nat.succ.inj same
      simp only [List.cons_append,List.cons_lt_cons_iff,ih shorter,List.cons.injEq]
      constructor
      · rintro (less | ⟨equal,less | ⟨equals,less⟩⟩)
        · exact .inl (.inl less)
        · exact .inl (.inr ⟨equal,less⟩)
        · exact .inr ⟨⟨equal,equals⟩,less⟩
      · rintro ((less | ⟨equal,less⟩) | ⟨⟨equal,equals⟩,less⟩)
        · exact .inl less
        · exact .inr ⟨equal,.inl less⟩
        · exact .inr ⟨equal,.inr ⟨equals,less⟩⟩

theorem digitChar_lt_iff : ∀ i < 10, ∀ j < 10, (Nat.digitChar i < Nat.digitChar j ↔ i < j) := by decide

theorem digits_inj {n i j : Nat} (i_lt : i < 10 ^ n) (j_lt : j < 10 ^ n) : digits n i = digits n j ↔ i = j := by
  constructor
  · intro same
    have first := number_field n i i_lt []
    rw [same,number_field n j j_lt []] at first
    exact (congrArg Prod.fst (Option.some.inj first)).symm
  · rintro rfl
    rfl

theorem digits_lt_iff {n i j : Nat} (i_lt : i < 10 ^ n) (j_lt : j < 10 ^ n) : digits n i < digits n j ↔ i < j := by
  induction n generalizing i j with
  | zero =>
    rw [pow_zero,Nat.lt_one_iff] at i_lt j_lt
    subst i_lt j_lt
    simp [digits]
  | succ n ih =>
    have i_small : i / 10 < 10 ^ n := Nat.div_lt_of_lt_mul (by rwa [pow_succ,Nat.mul_comm] at i_lt)
    have j_small : j / 10 < 10 ^ n := Nat.div_lt_of_lt_mul (by rwa [pow_succ,Nat.mul_comm] at j_lt)
    have lengths : (digits n (i / 10)).length = (digits n (j / 10)).length := by rw [digits_length,digits_length]
    have last := digitChar_lt_iff (i % 10) (Nat.mod_lt _ (by decide)) (j % 10) (Nat.mod_lt _ (by decide))
    simp only [digits]
    rw [append_lt_iff lengths,ih i_small j_small,digits_inj i_small j_small]
    simp only [List.cons_lt_cons_iff,last,List.not_lt_nil,and_false,or_false]
    omega

theorem field_lt_iff {n i j : Nat} (c : Char) (i_lt : i < 10 ^ n) (j_lt : j < 10 ^ n) :
    digits n i ++ c :: u < digits n j ++ c :: v ↔ i < j ∨ i = j ∧ u < v := by
  have lengths : (digits n i).length = (digits n j).length := by rw [digits_length,digits_length]
  rw [append_lt_iff lengths,digits_lt_iff i_lt j_lt,digits_inj i_lt j_lt,List.cons_lt_cons_iff]
  simp

end

/-- The order of the fields up to the second. -/
def Earlier (prev new : Timestamp) : Prop :=
  prev.year < new.year ∨ prev.year = new.year ∧ (prev.month < new.month ∨ prev.month = new.month ∧
    (prev.day < new.day ∨ prev.day = new.day ∧ (prev.hour < new.hour ∨ prev.hour = new.hour ∧
      (prev.minute < new.minute ∨ prev.minute = new.minute ∧ prev.second < new.second))))

variable {prev new : Timestamp}

theorem sameSecond_iff :
    SameSecond prev new ↔ prev.year = new.year ∧ prev.month = new.month ∧ prev.day = new.day ∧ prev.hour = new.hour ∧
      prev.minute = new.minute ∧ prev.second = new.second :=
  ⟨fun ⟨year,month,day,hour,minute,second⟩ => ⟨year,month,day,hour,minute,second⟩,
    fun ⟨year,month,day,hour,minute,second⟩ => ⟨year,month,day,hour,minute,second⟩⟩

theorem Earlier.not_sameSecond (earlier : Earlier prev new) : ¬SameSecond prev new := by
  intro same
  obtain ⟨year,month,day,hour,minute,second⟩ := same
  unfold Earlier at earlier
  omega

theorem day_le_thirty_one (t : Timestamp) : t.day ≤ 31 :=
  t.day_le.trans (days_in_month_le (is_leap t.year) t.month t.month_le)

theorem text_lt_iff (separators : prev.separator = new.separator) :
    prev.text < new.text ↔ Earlier prev new ∨ SameSecond prev new ∧ prev.tail < new.tail := by
  have prev_day := day_le_thirty_one prev
  have new_day := day_le_thirty_one new
  have prev_year := prev.year_le
  have new_year := new.year_le
  have prev_month := prev.month_le
  have new_month := new.month_le
  have prev_hour := prev.hour_le
  have new_hour := new.hour_le
  have prev_minute := prev.minute_le
  have new_minute := new.minute_le
  have prev_second := prev.second_le
  have new_second := new.second_le
  have seconds : (digits 2 prev.second).length = (digits 2 new.second).length := by rw [digits_length,digits_length]
  rw [String.lt_iff_toList_lt]
  simp only [Timestamp.text,String.toList_ofList]
  rw [separators,field_lt_iff '-' (by omega) (by omega),field_lt_iff '-' (by omega) (by omega),
    field_lt_iff new.separator (by omega) (by omega),field_lt_iff ':' (by omega) (by omega),
    field_lt_iff ':' (by omega) (by omega),append_lt_iff seconds,digits_lt_iff (by omega) (by omega),
    digits_inj (by omega) (by omega),sameSecond_iff]
  unfold Earlier
  tauto

theorem is_leap_period (year : Nat) : is_leap (year + 400) = is_leap year := by
  rw [Bool.eq_iff_iff,is_leap_iff,is_leap_iff]
  omega

theorem quotient_succ (n k : Nat) : (n + 1) / k = n / k + if (n + 1) % k = 0 then 1 else 0 := by
  rw [Nat.succ_div]
  simp only [Nat.dvd_iff_mod_eq_zero]

theorem days_before_year_succ (year : Nat) (first : 1 ≤ year) :
    days_before_year (year + 1) = days_before_year year + 365 + if is_leap year then 1 else 0 := by
  obtain ⟨n,rfl⟩ : ∃ n, year = n + 1 := ⟨year - 1,by omega⟩
  have fours := quotient_succ n 4
  have centuries := quotient_succ n 100
  have four_centuries := quotient_succ n 400
  have nested : n / 100 ≤ n / 4 := by omega
  have leap : (if is_leap (n + 1) then 1 else 0) =
      if (n + 1) % 4 = 0 ∧ ((n + 1) % 100 ≠ 0 ∨ (n + 1) % 400 = 0) then 1 else 0 := by
    simp only [is_leap_iff]
  simp only [days_before_year,Nat.add_sub_cancel,fours,centuries,four_centuries]
  rw [leap]
  by_cases by_four : (n + 1) % 4 = 0
  · by_cases by_century : (n + 1) % 100 = 0
    · by_cases by_all : (n + 1) % 400 = 0
      · simp only [by_four,by_century,by_all,if_true,ne_eq,not_true,false_or,and_true]
        omega
      · simp only [by_four,by_century,by_all,if_true,if_false,ne_eq,not_true,false_or,and_false]
        omega
    · have not_all : (n + 1) % 400 ≠ 0 := by omega
      simp only [by_four,by_century,not_all,if_true,if_false,ne_eq,not_false_eq_true,true_or,and_true]
      omega
  · have not_century : (n + 1) % 100 ≠ 0 := by omega
    have not_all : (n + 1) % 400 ≠ 0 := by omega
    simp only [by_four,not_century,not_all,if_false,false_and]
    omega

theorem days_before_year_mono (year later : Nat) (le : year ≤ later) : days_before_year year ≤ days_before_year later := by
  have less : year - 1 ≤ later - 1 := by omega
  have fours := Nat.div_le_div_right (c := 4) less
  have four_centuries := Nat.div_le_div_right (c := 400) less
  have centuries : (later - 1) / 100 ≤ (year - 1) / 100 + (later - 1 - (year - 1)) := by omega
  simp only [days_before_year]
  omega

theorem month_bounds : ∀ leap : Bool, ∀ month < 13, 1 ≤ month →
    days_before_month leap month + days_in_month leap month ≤ 365 + (if leap then 1 else 0) ∧
      ∀ later < 13, month < later →
        days_before_month leap month + days_in_month leap month ≤ days_before_month leap later := by
  decide

theorem day_number_lt
    (earlier : prev.year < new.year ∨ prev.year = new.year ∧ (prev.month < new.month ∨ prev.month = new.month ∧ prev.day < new.day)) :
    prev.day_number < new.day_number := by
  have prev_month := prev.month_le
  have new_month := new.month_le
  have new_day := new.day_pos
  have day_le := prev.day_le
  obtain ⟨in_year,in_month⟩ := month_bounds (is_leap prev.year) prev.month (by omega) prev.month_pos
  unfold Timestamp.day_number ymd2ord
  rw [is_leap_period,is_leap_period]
  rcases earlier with year | ⟨year,month | ⟨month,day⟩⟩
  · have next := days_before_year_succ (prev.year + 400) (by omega)
    have mono := days_before_year_mono (prev.year + 400 + 1) (new.year + 400) (by omega)
    rw [is_leap_period] at next
    omega
  · have months := in_month new.month (by omega) month
    rw [← year]
    omega
  · rw [← year,← month]
    omega

theorem day_number_iff :
    (prev.day_number < new.day_number ↔ prev.year < new.year ∨ prev.year = new.year ∧
      (prev.month < new.month ∨ prev.month = new.month ∧ prev.day < new.day)) ∧
    (prev.day_number = new.day_number ↔ prev.year = new.year ∧ prev.month = new.month ∧ prev.day = new.day) := by
  have forward := @day_number_lt prev new
  have backward := @day_number_lt new prev
  have same : prev.year = new.year ∧ prev.month = new.month ∧ prev.day = new.day → prev.day_number = new.day_number := by
    rintro ⟨year,month,day⟩
    unfold Timestamp.day_number
    rw [year,month,day]
  omega

theorem later_iff (zones : prev.zone = new.zone) :
    Later prev new ↔ Earlier prev new ∨ SameSecond prev new ∧ part prev.fraction < part new.fraction := by
  obtain ⟨days_lt,days_eq⟩ := @day_number_iff prev new
  have prev_hour := prev.hour_le
  have new_hour := new.hour_le
  have prev_minute := prev.minute_le
  have new_minute := new.minute_le
  have minutes_lt : prev.minutes < new.minutes ↔ prev.day_number < new.day_number ∨ prev.day_number = new.day_number ∧
      (prev.hour < new.hour ∨ prev.hour = new.hour ∧ prev.minute < new.minute) := by
    unfold Timestamp.minutes
    rw [zones]
    omega
  have minutes_eq : prev.minutes = new.minutes ↔ prev.day_number = new.day_number ∧ prev.hour = new.hour ∧
      prev.minute = new.minute := by
    unfold Timestamp.minutes
    rw [zones]
    omega
  unfold Later
  rw [minutes_lt,minutes_eq,days_lt,days_eq,sameSecond_iff]
  unfold Earlier
  by_cases smaller : part prev.fraction < part new.fraction
  · simp only [smaller,and_true]
    omega
  · simp only [smaller,and_false,or_false]
    omega

theorem digit_value {c : Char} (digit : c.isDigit = true) : c.toNat - 48 ≤ 9 ∧ 48 ≤ c.toNat := by
  have range := PyText.isDigit_iff.mp digit
  omega

theorem part_bounds {digits : List Char} (digital : ∀ c ∈ digits, c.isDigit = true) : 0 ≤ part digits ∧ part digits < 1 := by
  induction digits with
  | nil => exact ⟨le_refl _,by norm_num [part]⟩
  | cons c cs ih =>
    obtain ⟨digit,others⟩ := List.forall_mem_cons.mp digital
    obtain ⟨low,high⟩ := ih others
    have value : ((c.toNat - 48 : Nat) : Rat) ≤ 9 := by exact_mod_cast (digit_value digit).1
    have positive : (0 : Rat) ≤ ((c.toNat - 48 : Nat) : Rat) := Nat.cast_nonneg _
    constructor
    · rw [part]
      positivity
    · rw [part]
      linarith

theorem part_cons_lt {c d : Char} {cs ds : List Char} (left : ∀ e ∈ c :: cs, e.isDigit = true)
    (right : ∀ e ∈ d :: ds, e.isDigit = true) : part (c :: cs) < part (d :: ds) ↔ c < d ∨ c = d ∧ part cs < part ds := by
  obtain ⟨c_digit,cs_digits⟩ := List.forall_mem_cons.mp left
  obtain ⟨d_digit,ds_digits⟩ := List.forall_mem_cons.mp right
  obtain ⟨cs_low,cs_high⟩ := part_bounds cs_digits
  obtain ⟨ds_low,ds_high⟩ := part_bounds ds_digits
  have c_value := digit_value c_digit
  have d_value := digit_value d_digit
  simp only [part]
  rcases lt_trichotomy c d with less | rfl | greater
  · have next : c.toNat - 48 + 1 ≤ d.toNat - 48 := by
      have order : c.toNat < d.toNat := less
      omega
    have step : ((c.toNat - 48 : Nat) : Rat) + 1 ≤ ((d.toNat - 48 : Nat) : Rat) := by exact_mod_cast next
    exact ⟨fun _ => .inl less,fun _ => by linarith⟩
  · constructor
    · intro smaller
      exact .inr ⟨rfl,by linarith⟩
    · rintro (less | ⟨-,smaller⟩)
      · exact absurd less (lt_irrefl c)
      · linarith
  · have next : d.toNat - 48 + 1 ≤ c.toNat - 48 := by
      have order : d.toNat < c.toNat := greater
      omega
    have step : ((d.toNat - 48 : Nat) : Rat) + 1 ≤ ((c.toNat - 48 : Nat) : Rat) := by exact_mod_cast next
    constructor
    · intro smaller
      linarith
    · rintro (less | ⟨rfl,-⟩)
      · exact absurd less (lt_asymm greater)
      · exact absurd greater (lt_irrefl c)

/-- Digits stand for more than nothing where one of them is not zero. -/
theorem part_pos_iff {digits : List Char} (digital : ∀ c ∈ digits, c.isDigit = true) :
    0 < part digits ↔ ∃ c ∈ digits, c ≠ '0' := by
  induction digits with
  | nil => simp [part]
  | cons c cs ih =>
    obtain ⟨digit,others⟩ := List.forall_mem_cons.mp digital
    have zero : ('0' : Char).toNat - 48 = 0 := rfl
    obtain ⟨low,-⟩ := part_bounds others
    by_cases zero_digit : c = '0'
    · subst zero_digit
      have same : part ('0' :: cs) = part cs / 10 := by
        rw [part,zero,Nat.cast_zero,zero_add]
      rw [same]
      constructor
      · intro positive
        obtain ⟨d,member,other⟩ := (ih others).mp (by linarith)
        exact ⟨d,List.mem_cons_of_mem _ member,other⟩
      · rintro ⟨d,member,other⟩
        rcases List.mem_cons.mp member with rfl | member
        · exact absurd rfl other
        · have positive := (ih others).mpr ⟨d,member,other⟩
          linarith
    · refine ⟨fun _ => ⟨c,List.mem_cons_self,zero_digit⟩,fun _ => ?_⟩
      have value : 1 ≤ c.toNat - 48 := by
        have range := digit_value digit
        have other : c.toNat ≠ 48 := fun same => zero_digit (Char.toNat_inj.mp same)
        omega
      have step : (1 : Rat) ≤ ((c.toNat - 48 : Nat) : Rat) := by exact_mod_cast value
      rw [part]
      linarith

/-- Digits that differ decide both orders alike; what is left are a fraction and the
    beginning of it. -/
theorem fraction_cases {zone : List Char} (Bad : List Char → List Char → Prop)
    (same : ¬Bad [] [])
    (first : ∀ d ds, (∀ e ∈ d :: ds, e.isDigit = true) → ((zone < d :: ds ++ zone ↔ 0 < part (d :: ds)) ↔ ¬Bad [] (d :: ds)))
    (last : ∀ c cs, (∀ e ∈ c :: cs, e.isDigit = true) → ((c :: cs ++ zone < zone ↔ part (c :: cs) < 0) ↔ ¬Bad (c :: cs) []))
    (common : ∀ c cs ds, Bad (c :: cs) (c :: ds) ↔ Bad cs ds)
    (differ : ∀ c d cs ds, c ≠ d → ¬Bad (c :: cs) (d :: ds)) :
    ∀ prev new : List Char, (∀ e ∈ prev, e.isDigit = true) → (∀ e ∈ new, e.isDigit = true) →
      ((prev ++ zone < new ++ zone ↔ part prev < part new) ↔ ¬Bad prev new) := by
  intro prev
  induction prev with
  | nil =>
    intro new _ digital
    cases new with
    | nil => simp [same]
    | cons d ds => exact first d ds digital
  | cons c cs ih =>
    intro new prev_digits new_digits
    cases new with
    | nil => exact last c cs prev_digits
    | cons d ds =>
      obtain ⟨-,cs_digits⟩ := List.forall_mem_cons.mp prev_digits
      obtain ⟨-,ds_digits⟩ := List.forall_mem_cons.mp new_digits
      rw [part_cons_lt prev_digits new_digits,List.cons_append,List.cons_append,List.cons_lt_cons_iff]
      by_cases equal : c = d
      · subst equal
        rw [common,← ih ds cs_digits ds_digits]
        simp
      · simp [equal,differ c d cs ds equal]

/-- What can stand where a zone begins in another text. -/
def Inside (c : Char) : Prop := c.isDigit = true ∨ c = '.'

theorem inside_bounds {c : Char} (inside : Inside c) : 46 ≤ c.toNat ∧ c.toNat ≤ 57 := by
  rcases inside with digit | rfl
  · have range := PyText.isDigit_iff.mp digit
    omega
  · exact ⟨by decide,by decide⟩

theorem letter_behind {letter c : Char} (valid : (Zone.utc letter).Valid) (inside : Inside c) : c < letter := by
  have range := inside_bounds inside
  have order : c.toNat < letter.toNat := by
    rcases valid with rfl | rfl
    · exact lt_of_le_of_lt range.2 (by decide)
    · exact lt_of_le_of_lt range.2 (by decide)
  exact order

theorem sign_before (negative : Bool) {c : Char} (inside : Inside c) : (if negative then '-' else '+') < c := by
  have range := inside_bounds inside
  have order : (if negative then '-' else '+').toNat < c.toNat := by
    cases negative with
    | true => exact lt_of_lt_of_le (by decide) range.1
    | false => exact lt_of_lt_of_le (by decide) range.1
  exact order

theorem cons_lt {c d : Char} (less : c < d) (u v : List Char) : c :: u < d :: v :=
  List.cons_lt_cons_iff.mpr (.inl less)

theorem not_cons_lt {c d : Char} (greater : d < c) (u v : List Char) : ¬c :: u < d :: v := by
  rw [List.cons_lt_cons_iff]
  rintro (less | ⟨rfl,-⟩)
  · exact lt_asymm greater less
  · exact lt_irrefl c greater

theorem zone_order {zone : Zone} (valid : zone.Valid) {prev new : List Char} (prev_digits : ∀ c ∈ prev, c.isDigit = true)
    (new_digits : ∀ c ∈ new, c.isDigit = true) :
    (prev ++ zone.text < new ++ zone.text ↔ part prev < part new) ↔ ¬zone.Misorders prev new := by
  have front {c : Char} {cs : List Char} (digits : ∀ e ∈ c :: cs, e.isDigit = true) : Inside c :=
    .inl (List.forall_mem_cons.mp digits).1
  cases zone with
  | utc letter =>
    refine fraction_cases (fun prev new => Zone.Misorders prev new (.utc letter)) ?_ ?_ ?_ ?_ ?_ prev new
      prev_digits new_digits
    · simp [Zone.Misorders]
    · intro d ds digits
      have order : ¬(Zone.utc letter).text < d :: ds ++ (Zone.utc letter).text :=
        not_cons_lt (letter_behind valid (front digits)) _ _
      rw [part_pos_iff digits]
      simp only [order,Zone.Misorders,false_iff]
      simp
    · intro c cs digits
      have order : c :: cs ++ (Zone.utc letter).text < (Zone.utc letter).text :=
        cons_lt (letter_behind valid (front digits)) _ _
      have low := not_lt.mpr (part_bounds digits).1
      simp only [order,low,Zone.Misorders]
      simp
    · intro c cs ds
      simp [Zone.Misorders]
    · intro c d cs ds other
      simp [Zone.Misorders,other,Ne.symm other]
  | offset negative hours minutes =>
    refine fraction_cases (fun prev new => Zone.Misorders prev new (.offset negative hours minutes)) ?_ ?_ ?_ ?_ ?_
      prev new prev_digits new_digits
    · simp [Zone.Misorders]
    · intro d ds digits
      have order : (Zone.offset negative hours minutes).text < d :: ds ++ (Zone.offset negative hours minutes).text :=
        cons_lt (sign_before negative (front digits)) _ _
      rw [part_pos_iff digits]
      simp only [order,Zone.Misorders,true_iff]
      simp [or_iff_not_imp_left]
    · intro c cs digits
      have order : ¬c :: cs ++ (Zone.offset negative hours minutes).text < (Zone.offset negative hours minutes).text :=
        not_cons_lt (sign_before negative (front digits)) _ _
      have low := not_lt.mpr (part_bounds digits).1
      simp only [order,low,Zone.Misorders]
      simp
    · intro c cs ds
      simp [Zone.Misorders]
    · intro c d cs ds other
      simp [Zone.Misorders,Ne.symm other]

/-- A zone stands before or behind every digit as it stands before or behind the point. -/
theorem zone_point {zone : Zone} (valid : zone.Valid) {c : Char} (digit : c.isDigit = true) (u v : List Char) :
    (zone.text < '.' :: u ↔ zone.text < c :: v) ∧ ('.' :: u < zone.text ↔ c :: v < zone.text) := by
  cases zone with
  | utc letter =>
    have point : '.' < letter := letter_behind valid (.inr rfl)
    have digits : c < letter := letter_behind valid (.inl digit)
    exact ⟨iff_of_false (not_cons_lt point _ _) (not_cons_lt digits _ _),iff_of_true (cons_lt point _ _) (cons_lt digits _ _)⟩
  | offset negative hours minutes =>
    have point := sign_before negative (c := '.') (.inr rfl)
    have digits := sign_before negative (c := c) (.inl digit)
    exact ⟨iff_of_true (cons_lt point _ _) (cons_lt digits _ _),iff_of_false (not_cons_lt point _ _) (not_cons_lt digits _ _)⟩

/-- The point before the fractions changes nothing. -/
theorem tail_lt_iff (zones : prev.zone = new.zone) :
    prev.tail < new.tail ↔ prev.fraction ++ prev.zone.text < new.fraction ++ prev.zone.text := by
  have prev_digits := prev.digital
  have new_digits := new.digital
  unfold Timestamp.tail
  rw [← zones]
  cases before : prev.fraction with
  | nil =>
    cases after : new.fraction with
    | nil => simp
    | cons d ds =>
      rw [after] at new_digits
      exact (zone_point prev.zoned (new_digits d List.mem_cons_self) _ _).1
  | cons c cs =>
    cases after : new.fraction with
    | nil =>
      rw [before] at prev_digits
      exact (zone_point prev.zoned (prev_digits c List.mem_cons_self) _ _).2
    | cons d ds => simp

theorem ordered_iff (zones : prev.zone = new.zone) (separators : prev.separator = new.separator) :
    (prev.text < new.text ↔ Later prev new) ↔ Ordered prev new := by
  unfold Ordered
  rw [text_lt_iff separators,later_iff zones,tail_lt_iff zones]
  have order := zone_order prev.zoned prev.digital new.digital
  by_cases same : SameSecond prev new
  · have level : ¬Earlier prev new := fun earlier => earlier.not_sameSecond same
    simp only [same,level,true_and,false_or]
    exact order
  · simp [same]

theorem text_ne_empty (t : Timestamp) : t.text ≠ "" := by
  intro empty
  have length := congrArg (fun text => text.toList.length) empty
  simp only [Timestamp.text,String.toList_ofList,List.length_append,digits_length] at length
  simp at length

/-- A refresh waits for the audit exactly where the new text is the greater one. -/
theorem emits_iff {id : Nat} {call : Call} {path : String} {now : Int} {entry : CachedEntry} {data : Dict String String}
    {s : State} (complete : (credential_of data).isSome) :
    EmitsDrift id call path now entry data s prev new ↔ prev.text < new.text := by
  obtain ⟨credential,read⟩ := Option.isSome_iff_exists.mp complete
  have kept (t : Timestamp) : (some t.text).filter (fun text => decide (text ≠ "")) = some t.text := by
    simp [Option.filter,text_ne_empty t]
  have compared : drift (some { entry with vault_created_time := some prev.text }) (some new.text) =
      if prev.text < new.text then some (prev.text,new.text) else none := by
    unfold drift
    simp only [Option.bind_some]
    rw [kept,kept]
  have created : created_time .read_with_metadata { data, created_time := some new.text } = some new.text := kept new
  unfold EmitsDrift refresh
  simp only [read,created,compared]
  by_cases greater : prev.text < new.text
  · rw [if_pos greater]
    refine ⟨fun _ => greater,fun _ => ?_⟩
    let event := credential_refreshed_event call.key.scope call.request.dept_id call.request.service prev.text new.text s.clock
    let next := Next.store credential now (some new.text)
    refine ⟨{ call with phase := .auditing event next },event,next,?_,rfl,rfl⟩
    simp [audit,State.suspend,Dict.get?_set,event,next]
  · rw [if_neg greater]
    refine ⟨?_,fun less => absurd less greater⟩
    rintro ⟨waiting,event,next,found,-,-⟩
    simp [proceed,State.store,State.give,Dict.get?_erase] at found

/-- The refresh of an expired entry reads both texts. -/
theorem chronological_text (chronological : Chronological prev new) :
    prev.text < new.text ↔ Later prev new := by
  let data : Dict String String := Dict.ofItems [("url","u"),("username","n"),("personal_token","t")]
  have complete : (credential_of data).isSome := by decide
  have law := chronological 0 ⟨⟨"d","jira","org",none⟩,⟨.org,"d","jira"⟩,.looking⟩ "p" 0 ⟨⟨"u","n","t"⟩,0,none⟩ data
    (State.start .empty .empty 0) complete
  rwa [emits_iff complete] at law

/-- A refresh emits the drift audit exactly where the secret is newer, of the pairs of
    timestamps that are in order. Vault writes all its times with `T` and `Z`. -/
theorem drift_chronological_iff (prev new : Timestamp) (zones : prev.zone = new.zone)
    (separators : prev.separator = new.separator) : Chronological prev new ↔ Ordered prev new := by
  rw [← ordered_iff zones separators]
  constructor
  · exact chronological_text
  · intro ordered id call path now entry data s complete
    rw [emits_iff complete]
    exact ordered

/-- The first second of 2024, with a fraction. -/
def new_year (fraction : List Char) (digital : ∀ c ∈ fraction, c.isDigit = true) : Timestamp where
  year := 2024
  month := 1
  day := 1
  separator := 'T'
  hour := 0
  minute := 0
  second := 0
  fraction := fraction
  zone := .utc 'Z'
  year_le := by decide
  month_pos := by decide
  month_le := by decide
  day_pos := by decide
  day_le := by decide
  separated := .inl rfl
  hour_le := by decide
  minute_le := by decide
  second_le := by decide
  digital := digital
  zoned := .inl rfl

theorem no_digits : ∀ c ∈ ([] : List Char), c.isDigit = true := List.forall_mem_nil _

theorem five_digital : ∀ c ∈ ['5'], c.isDigit = true := List.forall_mem_singleton.mpr rfl

theorem quarter_digital : ∀ c ∈ ['2','5'], c.isDigit = true := List.all_eq_true.mp rfl

/-- `2024-01-01T00:00:00.25Z` and `2024-01-01T00:00:00.5Z`. -/
theorem quarter_second_seen : Chronological (new_year ['2','5'] quarter_digital) (new_year ['5'] five_digital) := by
  refine (drift_chronological_iff (new_year ['2','5'] quarter_digital) (new_year ['5'] five_digital) rfl rfl).mpr ?_
  rintro ⟨-,⟨rest,-,begins⟩ | ⟨rest,begins,-⟩⟩
  · have first : some '2' = some '5' := congrArg List.head? begins
    exact absurd first (by decide)
  · have first : some '5' = some '2' := congrArg List.head? begins
    exact absurd first (by decide)

/-- `2024-01-01T00:00:00Z` and `2024-01-01T00:00:00.5Z`. -/
theorem half_second_unseen : ¬Chronological (new_year [] no_digits) (new_year ['5'] five_digital) := by
  intro chronological
  have law := chronological_text chronological
  have later : Later (new_year [] no_digits) (new_year ['5'] five_digital) :=
    .inr ⟨rfl,.inr ⟨rfl,(part_pos_iff five_digital).mpr ⟨'5',List.mem_cons_self,by decide⟩⟩⟩
  exact absurd (law.mpr later) (by decide)

end Automation.CredentialDrift
