import Mathlib.Algebra.Ring.Int.Defs
import Mathlib.Algebra.Ring.Nat
import Mathlib.Data.List.Basic
import Mathlib.Tactic.Common

/-!
The `datetime` of the standard library: a point of the proleptic Gregorian calendar in
microseconds, with an offset from UTC if it is aware, and its texts as `isoformat` writes
and `fromisoformat` reads them. What is written in UTC is read back
(`fromisoformat_isoformat`).
-/
namespace Automation.Calendar

def is_leap (year : Nat) : Bool := year % 4 = 0 && (year % 100 ≠ 0 || year % 400 = 0)

def days_before_year (year : Nat) : Nat :=
  let y := year - 1
  y * 365 + y / 4 - y / 100 + y / 400

def DAYS_BEFORE_MONTH : List Nat := [0,31,59,90,120,151,181,212,243,273,304,334,365]

def days_before_month (leap : Bool) (month : Nat) : Nat :=
  DAYS_BEFORE_MONTH.getD (month - 1) 0 + if leap ∧ 2 < month then 1 else 0

def days_in_month (leap : Bool) (month : Nat) : Nat := days_before_month leap (month + 1) - days_before_month leap month

/-- The number of a day, 1 January of year 1 being the first. -/
def ymd2ord (year month day : Nat) : Nat := days_before_year year + days_before_month (is_leap year) month + day

def month_day (leap : Bool) (n : Nat) : Nat × Nat :=
  let month := (List.range' 1 12).countP fun month => days_before_month leap month ≤ n
  (month,n - days_before_month leap month + 1)

def year_day (ordinal : Nat) : Nat × Nat :=
  let n := ordinal - 1
  let n400 := n / 146097
  let n100 := n % 146097 / 36524
  let n4 := n % 146097 % 36524 / 1461
  let n1 := n % 146097 % 36524 % 1461 / 365
  let year := n400 * 400 + n100 * 100 + n4 * 4 + n1 + 1
  -- the last day of a leap year, and of four centuries
  if n1 = 4 ∨ n100 = 4 then (year - 1,365) else (year,n % 146097 % 36524 % 1461 % 365)

def ord2ymd (ordinal : Nat) : Nat × Nat × Nat :=
  ((year_day ordinal).1,month_day (is_leap (year_day ordinal).1) (year_day ordinal).2)

/-- The days of the years up to 9999. -/
def MAXORDINAL : Nat := 3652059

def iso_week1_monday (year : Nat) : Nat :=
  let first_day := ymd2ord year 1 1
  let first_weekday := (first_day + 6) % 7
  let week1_monday := first_day - first_weekday
  if 3 < first_weekday then week1_monday + 7 else week1_monday

def has_week_53 (year : Nat) : Bool :=
  let first_weekday := (ymd2ord year 1 1 + 6) % 7
  first_weekday = 3 || (first_weekday = 2 && is_leap year)

/-- The day of a week, by its number. -/
def iso_to_ordinal (year week day : Nat) : Option Nat :=
  if 1 ≤ year ∧ year ≤ 9999 ∧ 1 ≤ week ∧ (week ≤ 52 ∨ (week = 53 ∧ has_week_53 year)) ∧ 1 ≤ day ∧ day ≤ 7 then
    some (iso_week1_monday year + (week - 1) * 7 + (day - 1))
  else none

def DAY : Nat := 86400000000

/-- A `datetime`: its wall clock in microseconds, and its offset from UTC if it is aware. -/
structure Datetime where
  clock : Nat
  utcoffset : Option Int
  inside : clock < MAXORDINAL * DAY
  deriving DecidableEq

def Datetime.ordinal (d : Datetime) : Nat := d.clock / DAY + 1
def Datetime.year (d : Datetime) : Nat := (ord2ymd d.ordinal).1
def Datetime.month (d : Datetime) : Nat := (ord2ymd d.ordinal).2.1
def Datetime.day (d : Datetime) : Nat := (ord2ymd d.ordinal).2.2
def Datetime.hour (d : Datetime) : Nat := d.clock % DAY / 3600000000
def Datetime.minute (d : Datetime) : Nat := d.clock % 3600000000 / 60000000
def Datetime.second (d : Datetime) : Nat := d.clock % 60000000 / 1000000
def Datetime.microsecond (d : Datetime) : Nat := d.clock % 1000000

/-- The point in time; a naive one is read as UTC. -/
def Datetime.instant (d : Datetime) : Int := (d.clock : Int) - d.utcoffset.getD 0

/-- The point in UTC, as far as there is one. -/
def ofInstant (us : Int) : Option Datetime :=
  if inside : 0 ≤ us ∧ us.toNat < MAXORDINAL * DAY then some ⟨us.toNat,some 0,inside.2⟩ else none

/-- `d + timedelta`; `none` where it raises `OverflowError`. -/
def Datetime.add (d : Datetime) (us : Int) : Option Datetime :=
  if inside : 0 ≤ (d.clock : Int) + us ∧ ((d.clock : Int) + us).toNat < MAXORDINAL * DAY then
    some ⟨((d.clock : Int) + us).toNat,d.utcoffset,inside.2⟩
  else none

/-- `value.replace(tzinfo=timezone.utc)` for a naive one. -/
def ensure_aware (d : Datetime) : Datetime := { d with utcoffset := some (d.utcoffset.getD 0) }

/-- `value.astimezone(timezone.utc)`, a naive one being in UTC. -/
def ensure_utc (d : Datetime) : Option Datetime := ofInstant d.instant

/-- The point with these fields, as the constructor checks them. -/
def ofFields (year month day hour minute second microsecond : Nat) (utcoffset : Option Int) : Option Datetime :=
  let clock := (ymd2ord year month day - 1) * DAY + hour * 3600000000 + minute * 60000000 + second * 1000000 + microsecond
  if inside : (1 ≤ year ∧ year ≤ 9999 ∧ 1 ≤ month ∧ month ≤ 12 ∧ 1 ≤ day ∧ day ≤ days_in_month (is_leap year) month ∧
      hour < 24 ∧ minute < 60 ∧ second < 60 ∧ microsecond < 1000000 ∧ (∀ offset ∈ utcoffset, offset.natAbs < DAY)) ∧
      clock < MAXORDINAL * DAY then
    some ⟨clock,utcoffset,inside.2⟩
  else none

/-- A number in so many digits. -/
def digits : Nat → Nat → List Char
  | 0, _ => []
  | n + 1, value => digits n (value / 10) ++ [(value % 10).digitChar]

def fraction (microsecond : Nat) : List Char := if microsecond = 0 then [] else '.' :: digits 6 microsecond

def format_offset : Option Int → List Char
  | none => []
  | some offset =>
    let us := offset.natAbs
    (if offset < 0 then '-' else '+') :: digits 2 (us / 3600000000) ++ ':' :: digits 2 (us % 3600000000 / 60000000) ++
      (if us % 60000000 = 0 then [] else ':' :: digits 2 (us % 60000000 / 1000000) ++ fraction (us % 1000000))

def isoformat (d : Datetime) : String :=
  .ofList (digits 4 d.year ++ '-' :: digits 2 d.month ++ '-' :: digits 2 d.day ++ 'T' :: digits 2 d.hour ++
    ':' :: digits 2 d.minute ++ ':' :: digits 2 d.second ++ fraction d.microsecond ++ format_offset d.utcoffset)

/-- Exactly so many digits from the front; the value and what follows. -/
def number : Nat → Nat → List Char → Option (Nat × List Char)
  | 0, value, text => some (value,text)
  | _ + 1, _, [] => none
  | n + 1, value, c :: rest => if c.isDigit then number n (value * 10 + (c.toNat - 48)) rest else none

/-- Where the date ends, told from the characters after the year. -/
def separator_location (text : List Char) : Option Nat :=
  if text.length < 7 then none
  else if text.length = 7 then some 7
  else if text[4]? = some '-' then
    if text[5]? ≠ some 'W' then some 10
    else if text[8]? ≠ some '-' then some 8
    else if text.length = 9 then none
    else if (text[10]?.map Char.isDigit).getD false then some 8
    else some 10
  else if text[4]? ≠ some 'W' then some 8
  else
    let pos := 7 + ((text.drop 7).takeWhile Char.isDigit).length
    if pos < 9 then some pos else if pos % 2 = 0 then some 7 else some 8

/-- A week with its day, Monday if the text ends before it; the number of the day. -/
def parse_week (dashed : Bool) (year : Nat) (text : List Char) : Option Nat := do
  let (week,rest) ← number 2 0 text
  match rest,dashed with
  | [],_ => iso_to_ordinal year week 1
  | '-' :: rest,true => do
    let (day,rest) ← number 1 0 rest
    if rest = [] then iso_to_ordinal year week day else none
  | rest,false => do
    let (day,rest) ← number 1 0 rest
    if rest = [] then iso_to_ordinal year week day else none
  | _,_ => none

def parse_isoformat_date (text : List Char) : Option (Nat × Nat × Nat) := do
  let (year,rest) ← number 4 0 text
  match rest with
  | '-' :: 'W' :: rest => (parse_week true year rest).map ord2ymd
  | 'W' :: rest => (parse_week false year rest).map ord2ymd
  | '-' :: rest => do
    let (month,rest) ← number 2 0 rest
    match rest with
    | '-' :: rest => do
      let (day,rest) ← number 2 0 rest
      if rest = [] then some (year,month,day) else none
    | _ => none
  | rest => do
    let (month,rest) ← number 2 0 rest
    let (day,rest) ← number 2 0 rest
    if rest = [] then some (year,month,day) else none

/-- Up to six digits of a fraction; further digits are dropped. Whether something is left. -/
def parse_fraction (text : List Char) : Option (Nat × Bool) := do
  let size := min 6 text.length
  let (value,rest) ← number size 0 text
  some (value * 10 ^ (6 - size),!(rest.dropWhile Char.isDigit).isEmpty)

/-- Hours, minutes and seconds, as far as they are given. The text ends before the offset.
    The last component says whether something is left, or follows. -/
def parse_hh_mm_ss_ff (followed : Bool) : Nat → Bool → List Nat → List Char → Option (List Nat × Nat × Bool)
  | 0, _, values, text => (parse_fraction text).map fun (us,left) => (values,us,left || followed)
  | n + 1, colons, values, text => do
    let (value,rest) ← number 2 0 text
    let values := values ++ [value]
    match rest with
    | [] => some (values,0,followed)
    | [_] => some (values,0,true)
    | c :: rest =>
      let colons := if n = 2 then c == ':' else colons
      if colons ∧ c = ':' then parse_hh_mm_ss_ff followed n colons values rest
      else if c = '.' ∨ c = ',' then (parse_fraction rest).map fun (us,left) => (values,us,left || followed)
      else if colons then none
      else parse_hh_mm_ss_ff followed n colons values (c :: rest)

/-- The time of day in microseconds by its fields, and the offset. -/
def parse_isoformat_time (text : List Char) : Option ((Nat × Nat × Nat × Nat) × Option Int) := do
  let marks := fun c : Char => c != '+' && c != '-' && c != 'Z'
  let zone := text.dropWhile marks
  let (values,us,left) ← parse_hh_mm_ss_ff (!zone.isEmpty) 3 true [] (text.takeWhile marks)
  let time := (values.getD 0 0,values.getD 1 0,values.getD 2 0,us)
  match zone with
  | [] => if left then none else some (time,none)
  | 'Z' :: rest => if rest = [] then some (time,some 0) else none
  | sign :: rest => do
    let (values,us,left) ← parse_hh_mm_ss_ff false 3 true [] rest
    let seconds := values.getD 0 0 * 3600 + values.getD 1 0 * 60 + values.getD 2 0
    let offset : Int := if seconds = 0 then 0 else seconds * 1000000 + us
    if left then none else some (time,some (if sign = '-' then -offset else offset))

/-- `datetime.fromisoformat(text)`; `none` where it raises `ValueError`. -/
def fromisoformat (text : String) : Option Datetime := do
  let chars := text.toList
  let location ← separator_location chars
  let (year,month,day) ← parse_isoformat_date (chars.take location)
  if chars.length ≤ location then ofFields year month day 0 0 0 0 none
  else
    let ((hour,minute,second,us),utcoffset) ← parse_isoformat_time (chars.drop (location + 1))
    ofFields year month day hour minute second us utcoffset

theorem is_leap_iff (year : Nat) : is_leap year = true ↔ year % 4 = 0 ∧ (year % 100 ≠ 0 ∨ year % 400 = 0) := by
  simp [is_leap]

theorem year_quotients {n400 n100 n4 n1 : Nat} (centuries : n100 ≤ 3) (fours : n4 ≤ 24) (years : n1 ≤ 3) :
    (n400 * 400 + n100 * 100 + n4 * 4 + n1) / 4 = 100 * n400 + 25 * n100 + n4 ∧
      (n400 * 400 + n100 * 100 + n4 * 4 + n1) / 100 = 4 * n400 + n100 ∧
      (n400 * 400 + n100 * 100 + n4 * 4 + n1) / 400 = n400 := by
  omega

theorem year_day_spec {ordinal : Nat} (first : 1 ≤ ordinal) (last : ordinal ≤ MAXORDINAL) :
    1 ≤ (year_day ordinal).1 ∧ (year_day ordinal).1 ≤ 9999 ∧
      days_before_year (year_day ordinal).1 + (year_day ordinal).2 + 1 = ordinal ∧
      (year_day ordinal).2 < 365 + if is_leap (year_day ordinal).1 then 1 else 0 := by
  obtain ⟨n,rfl⟩ : ∃ n, ordinal = n + 1 := ⟨ordinal - 1,by omega⟩
  have inside : n < 3652059 := by
    unfold MAXORDINAL at last
    omega
  -- the periods of four centuries, a century, four years and a year
  obtain ⟨n400,rest400,four_centuries,split400⟩ : ∃ a r, r < 146097 ∧ n = 146097 * a + r :=
    ⟨n / 146097,n % 146097,Nat.mod_lt _ (by decide),(Nat.div_add_mod ..).symm⟩
  obtain ⟨n100,rest100,century,split100⟩ : ∃ b r, r < 36524 ∧ rest400 = 36524 * b + r :=
    ⟨rest400 / 36524,rest400 % 36524,Nat.mod_lt _ (by decide),(Nat.div_add_mod ..).symm⟩
  obtain ⟨n4,rest4,four_years,split4⟩ : ∃ c r, r < 1461 ∧ rest100 = 1461 * c + r :=
    ⟨rest100 / 1461,rest100 % 1461,Nat.mod_lt _ (by decide),(Nat.div_add_mod ..).symm⟩
  obtain ⟨n1,day,one_year,split1⟩ : ∃ e r, r < 365 ∧ rest4 = 365 * e + r :=
    ⟨rest4 / 365,rest4 % 365,Nat.mod_lt _ (by decide),(Nat.div_add_mod ..).symm⟩
  have q400 : n / 146097 = n400 := by omega
  have r400 : n % 146097 = rest400 := by omega
  have q100 : rest400 / 36524 = n100 := by omega
  have r100 : rest400 % 36524 = rest100 := by omega
  have q4 : rest100 / 1461 = n4 := by omega
  have r4 : rest100 % 1461 = rest4 := by omega
  have q1 : rest4 / 365 = n1 := by omega
  have r1 : rest4 % 365 = day := by omega
  have value : year_day (n + 1) = if n1 = 4 ∨ n100 = 4 then (n400 * 400 + n100 * 100 + n4 * 4 + n1,365)
      else (n400 * 400 + n100 * 100 + n4 * 4 + n1 + 1,day) := by
    simp only [year_day,Nat.add_sub_cancel,q400,r400,q100,r100,q4,r4,q1,r1]
  have at_most : n400 ≤ 24 ∧ n100 ≤ 4 ∧ n4 ≤ 24 ∧ n1 ≤ 4 := by omega
  obtain ⟨most400,most100,most4,most1⟩ := at_most
  rw [value]
  by_cases inner : n1 = 4 ∨ n100 = 4
  · rw [if_pos inner]
    -- the year before ends in the same period of four years, or of four centuries
    obtain ⟨c,d,centuries,fours,before,days⟩ : ∃ c d, c ≤ 3 ∧ d ≤ 24 ∧
        n400 * 400 + n100 * 100 + n4 * 4 + n1 - 1 = n400 * 400 + c * 100 + d * 4 + 3 ∧
        n = 146097 * n400 + 36524 * c + 1461 * d + 1460 := by
      by_cases fourth : n100 = 4
      · exact ⟨3,24,by omega,by omega,by omega,by omega⟩
      · exact ⟨n100,n4,by omega,by omega,by omega,by omega⟩
    have leap : is_leap (n400 * 400 + n100 * 100 + n4 * 4 + n1) = true := by
      rw [is_leap_iff]
      omega
    obtain ⟨by_four,by_century,by_four_centuries⟩ := @year_quotients n400 c d 3 centuries fours (by decide)
    simp only [leap,if_true,days_before_year,before,by_four,by_century,by_four_centuries]
    omega
  · rw [if_neg inner]
    have centuries : n100 ≤ 3 := by omega
    have years : n1 ≤ 3 := by omega
    obtain ⟨by_four,by_century,by_four_centuries⟩ := @year_quotients n400 n100 n4 n1 centuries most4 years
    simp only [days_before_year,Nat.add_sub_cancel,by_four,by_century,by_four_centuries]
    split
    · omega
    · omega

theorem month_day_spec : ∀ leap : Bool, ∀ n < 366, n < 365 + (if leap then 1 else 0) →
    1 ≤ (month_day leap n).1 ∧ (month_day leap n).1 ≤ 12 ∧ 1 ≤ (month_day leap n).2 ∧
      (month_day leap n).2 ≤ days_in_month leap (month_day leap n).1 ∧
      days_before_month leap (month_day leap n).1 + (month_day leap n).2 = n + 1 := by
  decide +kernel

theorem ord2ymd_spec {ordinal : Nat} (first : 1 ≤ ordinal) (last : ordinal ≤ MAXORDINAL) :
    (1 ≤ (ord2ymd ordinal).1 ∧ (ord2ymd ordinal).1 ≤ 9999 ∧ 1 ≤ (ord2ymd ordinal).2.1 ∧ (ord2ymd ordinal).2.1 ≤ 12 ∧
      1 ≤ (ord2ymd ordinal).2.2 ∧ (ord2ymd ordinal).2.2 ≤ days_in_month (is_leap (ord2ymd ordinal).1) (ord2ymd ordinal).2.1) ∧
      ymd2ord (ord2ymd ordinal).1 (ord2ymd ordinal).2.1 (ord2ymd ordinal).2.2 = ordinal := by
  obtain ⟨year_low,year_high,place,inside⟩ := year_day_spec first last
  have bounded : (year_day ordinal).2 < 366 := by
    split at inside <;> omega
  obtain ⟨month_low,month_high,day_low,day_high,day⟩ := month_day_spec (is_leap (year_day ordinal).1) _ bounded inside
  refine ⟨⟨year_low,year_high,month_low,month_high,day_low,day_high⟩,?_⟩
  simp only [ymd2ord,ord2ymd]
  omega

theorem days_in_month_le : ∀ leap : Bool, ∀ month ≤ 12, days_in_month leap month ≤ 31 := by decide

theorem digits_isDigit {n value : Nat} {c : Char} (member : c ∈ digits n value) : c.isDigit = true := by
  induction n generalizing value with
  | zero => simp [digits] at member
  | succ n ih =>
    rcases List.mem_append.mp member with front | last
    · exact ih front
    · rw [List.mem_singleton.mp last]
      have small : value % 10 < 10 := Nat.mod_lt _ (by decide)
      simp [small]

theorem number_succ (n value : Nat) (text : List Char) :
    number (n + 1) value text = (number n value text).bind fun read => number 1 read.1 read.2 := by
  induction n generalizing value text with
  | zero => rfl
  | succ n ih =>
    cases text with
    | nil => rfl
    | cons c rest =>
      rw [number,number]
      split
      · exact ih _ rest
      · rfl

theorem number_digits (n start value : Nat) (rest : List Char) :
    number n start (digits n value ++ rest) = some (start * 10 ^ n + value % 10 ^ n,rest) := by
  induction n generalizing value rest with
  | zero => simp [number,digits,Nat.mod_one]
  | succ n ih =>
    have small : value % 10 < 10 := Nat.mod_lt _ (by decide)
    have digit : (value % 10).digitChar.isDigit = true := by simp [small]
    have read : (value % 10).digitChar.toNat - 48 = value % 10 := by
      rw [Nat.toNat_digitChar_of_lt_ten small]
      omega
    rw [number_succ,digits,List.append_assoc,ih]
    simp only [Option.bind_some,List.singleton_append,number,digit,if_true,read]
    have split : value % 10 ^ (n + 1) = value % 10 + 10 * (value / 10 % 10 ^ n) := by
      rw [Nat.pow_succ',Nat.mod_mul]
    rw [split,Nat.pow_succ]
    congr 2
    rw [← Nat.mul_assoc]
    omega

theorem number_field (n value : Nat) (small : value < 10 ^ n) (rest : List Char) :
    number n 0 (digits n value ++ rest) = some (value,rest) := by
  rw [number_digits,Nat.mod_eq_of_lt small,Nat.zero_mul,Nat.zero_add]

@[simp] theorem digits_length (n value : Nat) : (digits n value).length = n := by
  induction n generalizing value with
  | zero => rfl
  | succ n ih => simp [digits,ih]

theorem digits_two (value : Nat) : digits 2 value = [(value / 10 % 10).digitChar,(value % 10).digitChar] := rfl

theorem digitChar_ne {n : Nat} {c : Char} (other : c.isDigit = false) : (n % 10).digitChar ≠ c := by
  intro same
  have small : n % 10 < 10 := Nat.mod_lt _ (by decide)
  rw [← same,Nat.isDigit_digitChar,decide_eq_false_iff_not] at other
  exact other small

theorem parse_date_digits {year month day : Nat} (year_small : year < 10 ^ 4) (month_small : month < 10 ^ 2) (day_small : day < 10 ^ 2) :
    parse_isoformat_date (digits 4 year ++ '-' :: (digits 2 month ++ '-' :: (digits 2 day ++ []))) = some (year,month,day) := by
  unfold parse_isoformat_date
  rw [number_field 4 year year_small]
  simp only [Option.bind_eq_bind,Option.bind_some]
  have month_read := number_field 2 month month_small ('-' :: (digits 2 day ++ []))
  have not_week : (month / 10 % 10).digitChar ≠ 'W' := digitChar_ne (by decide)
  rw [digits_two] at month_read ⊢
  simp only [List.cons_append,List.nil_append] at month_read ⊢
  split
  · next same =>
    have equal := (List.cons.inj (List.cons.inj same).2).1
    exact absurd equal not_week
  · next same => simp at same
  · next same =>
    obtain rfl := (List.cons.inj same).2
    rw [month_read]
    simp only [Option.bind_some]
    have day_read := number_field 2 day day_small []
    rw [List.append_nil] at day_read
    rw [List.append_nil,day_read]
    simp
  · next dashed => exact absurd rfl (dashed _)

theorem parse_field (followed : Bool) (n : Nat) (values : List Nat) {value : Nat} (small : value < 10 ^ 2) (c : Char) (rest : List Char) :
    parse_hh_mm_ss_ff followed (n + 1) true values (digits 2 value ++ ':' :: c :: rest) =
      parse_hh_mm_ss_ff followed n true (values ++ [value]) (c :: rest) := by
  rw [parse_hh_mm_ss_ff,number_field 2 value small]
  by_cases second : n = 2
  · simp [second]
  · simp [second]

theorem parse_fraction_digits {us : Nat} (small : us < 10 ^ 6) : parse_fraction (digits 6 us) = some (us,false) := by
  have read := number_field 6 us small []
  rw [List.append_nil] at read
  simp [parse_fraction,read]

theorem parse_hms {hour minute second us : Nat} (hour_small : hour < 10 ^ 2) (minute_small : minute < 10 ^ 2)
    (second_small : second < 10 ^ 2) (us_small : us < 10 ^ 6) (followed : Bool) :
    parse_hh_mm_ss_ff followed 3 true [] (digits 2 hour ++ ':' :: (digits 2 minute ++ ':' :: (digits 2 second ++ fraction us))) =
      some ([hour,minute,second],us,followed) := by
  have minutes := parse_field followed 2 [] hour_small (minute / 10 % 10).digitChar
    ((minute % 10).digitChar :: ':' :: (digits 2 second ++ fraction us))
  have seconds := parse_field followed 1 [hour] minute_small (second / 10 % 10).digitChar
    ((second % 10).digitChar :: fraction us)
  refine minutes.trans (seconds.trans ?_)
  have read := number_field 2 second second_small (fraction us)
  rw [parse_hh_mm_ss_ff]
  have text : (second / 10 % 10).digitChar :: (second % 10).digitChar :: fraction us = digits 2 second ++ fraction us := rfl
  rw [text,read]
  by_cases whole : us = 0
  · simp [whole,fraction]
  · have digits_us : digits 6 us = (us / 100000 % 10).digitChar :: (digits 6 us).tail := by
      rw [show us / 100000 = us / 10 / 10 / 10 / 10 / 10 by omega]
      rfl
    have some_fraction := parse_fraction_digits us_small
    rw [digits_us] at some_fraction
    simp only [fraction,whole,if_false]
    rw [digits_us]
    simp [some_fraction]

/-- A character that begins no offset. -/
def unmarked (c : Char) : Bool := c != '+' && c != '-' && c != 'Z'

theorem unmarked_isDigit {c : Char} (digit : c.isDigit = true) : unmarked c = true := by
  have plus : c ≠ '+' := by rintro rfl; simp at digit
  have minus : c ≠ '-' := by rintro rfl; simp at digit
  have zulu : c ≠ 'Z' := by rintro rfl; simp at digit
  simp [unmarked,plus,minus,zulu]

theorem unmarked_time (hour minute second us : Nat) :
    ∀ c ∈ digits 2 hour ++ ':' :: (digits 2 minute ++ ':' :: (digits 2 second ++ fraction us)), unmarked c = true := by
  have colon : unmarked ':' = true := by decide
  have dot : unmarked '.' = true := by decide
  have in_digits : ∀ n value, ∀ c ∈ digits n value, unmarked c = true := fun n value c member => unmarked_isDigit (digits_isDigit member)
  have in_fraction : ∀ c ∈ fraction us, unmarked c = true := by
    intro c member
    unfold fraction at member
    split at member
    · simp at member
    · rcases List.mem_cons.mp member with rfl | later
      · exact dot
      · exact in_digits _ _ c later
  intro c member
  simp only [List.mem_append,List.mem_cons] at member
  rcases member with own | rfl | own | rfl | own | own
  · exact in_digits _ _ c own
  · exact colon
  · exact in_digits _ _ c own
  · exact colon
  · exact in_digits _ _ c own
  · exact in_fraction c own

theorem parse_time_utc {hour minute second us : Nat} (hour_small : hour < 10 ^ 2) (minute_small : minute < 10 ^ 2)
    (second_small : second < 10 ^ 2) (us_small : us < 10 ^ 6) :
    parse_isoformat_time (digits 2 hour ++ ':' :: (digits 2 minute ++ ':' :: (digits 2 second ++ fraction us)) ++ "+00:00".toList) =
      some ((hour,minute,second,us),some 0) := by
  have marks : (fun c : Char => c != '+' && c != '-' && c != 'Z') = unmarked := rfl
  have zone : "+00:00".toList.takeWhile unmarked = [] ∧ "+00:00".toList.dropWhile unmarked = "+00:00".toList := by decide
  have offset : parse_hh_mm_ss_ff false 3 true [] ['0','0',':','0','0'] = some ([0,0],0,false) := by decide
  have all := unmarked_time hour minute second us
  unfold parse_isoformat_time
  simp only [marks]
  rw [List.takeWhile_append_of_pos all,List.dropWhile_append_of_pos all,zone.1,zone.2,List.append_nil]
  have time := parse_hms hour_small minute_small second_small us_small true
  simp only [show (!"+00:00".toList.isEmpty) = true by decide,time]
  simp only [Option.bind_eq_bind,Option.bind_some]
  have text : "+00:00".toList = ['+','0','0',':','0','0'] := by decide
  rw [text]
  simp [offset]

theorem add_utc {now until' : Datetime} {us : Int} (utc : now.utcoffset = some 0) (added : now.add us = some until') :
    until'.utcoffset = some 0 ∧ until'.instant = now.instant + us := by
  unfold Datetime.add at added
  split at added
  · next inside =>
    obtain rfl := Option.some.inj added
    refine ⟨utc,?_⟩
    simp only [Datetime.instant,utc,Option.getD_some]
    omega
  · cases added

theorem ordinal_bounds (d : Datetime) : 1 ≤ d.ordinal ∧ d.ordinal ≤ MAXORDINAL := by
  have days : d.clock / DAY < MAXORDINAL := by
    rw [Nat.div_lt_iff_lt_mul (by decide)]
    exact d.inside
  exact ⟨Nat.le_add_left 1 _,days⟩

theorem ofFields_fields (d : Datetime) (utc : d.utcoffset = some 0) :
    ofFields d.year d.month d.day d.hour d.minute d.second d.microsecond (some 0) = some d := by
  have day_length : DAY = 86400000000 := rfl
  obtain ⟨date,ordinal⟩ := ord2ymd_spec (ordinal_bounds d).1 (ordinal_bounds d).2
  have clock : (ymd2ord d.year d.month d.day - 1) * DAY + d.hour * 3600000000 + d.minute * 60000000 + d.second * 1000000 +
      d.microsecond = d.clock := by
    rw [Datetime.year,Datetime.month,Datetime.day,ordinal,Datetime.ordinal,Nat.add_sub_cancel]
    unfold Datetime.hour Datetime.minute Datetime.second Datetime.microsecond
    rw [day_length]
    omega
  unfold ofFields
  simp only [clock]
  rw [dif_pos]
  · obtain ⟨clock,utcoffset,inside⟩ := d
    obtain rfl : utcoffset = some 0 := utc
    rfl
  · obtain ⟨year_low,year_high,month_low,month_high,day_low,day_high⟩ := date
    refine ⟨⟨year_low,year_high,month_low,month_high,day_low,day_high,?_,?_,?_,?_,by decide⟩,d.inside⟩
    · unfold Datetime.hour
      rw [day_length]
      omega
    · unfold Datetime.minute
      omega
    · unfold Datetime.second
      omega
    · unfold Datetime.microsecond
      omega

theorem fromisoformat_isoformat (d : Datetime) (utc : d.utcoffset = some 0) : fromisoformat (isoformat d) = some d := by
  obtain ⟨⟨year_low,year_high,month_low,month_high,day_low,day_high⟩,-⟩ := ord2ymd_spec (ordinal_bounds d).1 (ordinal_bounds d).2
  have year_small : d.year < 10 ^ 4 := Nat.lt_of_le_of_lt year_high (by decide)
  have month_small : d.month < 10 ^ 2 := Nat.lt_of_le_of_lt month_high (by decide)
  have day_small : d.day < 10 ^ 2 :=
    Nat.lt_of_le_of_lt (Nat.le_trans day_high (days_in_month_le _ _ month_high)) (show 31 < 10 ^ 2 by decide)
  have hour_small : d.hour < 10 ^ 2 := by
    have day_length : DAY = 86400000000 := rfl
    unfold Datetime.hour
    rw [day_length]
    omega
  have minute_small : d.minute < 10 ^ 2 := by unfold Datetime.minute; omega
  have second_small : d.second < 10 ^ 2 := by unfold Datetime.second; omega
  have us_small : d.microsecond < 10 ^ 6 := by unfold Datetime.microsecond; omega
  have utc_text : format_offset (some 0) = "+00:00".toList := by decide
  -- the text, its first ten characters and what comes after the separator
  let date := digits 4 d.year ++ '-' :: (digits 2 d.month ++ '-' :: (digits 2 d.day ++ []))
  let time := digits 2 d.hour ++ ':' :: (digits 2 d.minute ++ ':' :: (digits 2 d.second ++ fraction d.microsecond)) ++ "+00:00".toList
  have text : (isoformat d).toList = date ++ 'T' :: time := by
    simp only [isoformat,utc,utc_text,String.toList_ofList,date,time]
    simp
  have date_length : date.length = 10 := by simp [date]
  have location : separator_location (date ++ 'T' :: time) = some 10 := by
    have not_week : (d.month / 10 % 10).digitChar ≠ 'W' := digitChar_ne (by decide)
    have fourth : (date ++ 'T' :: time)[4]? = some '-' := rfl
    have fifth : (date ++ 'T' :: time)[5]? = some (d.month / 10 % 10).digitChar := rfl
    have long : 10 < (date ++ 'T' :: time).length := by simp [date_length]
    unfold separator_location
    rw [if_neg (by omega),if_neg (by omega),if_pos fourth,fifth,if_pos (by simp [not_week])]
  have longer : ¬(date ++ 'T' :: time).length ≤ 10 := by simp [date_length]
  have front : (date ++ 'T' :: time).take 10 = date := by rw [← date_length]; exact List.take_left
  have back : (date ++ 'T' :: time).drop (10 + 1) = time := by
    rw [List.drop_append,date_length]
    simp [List.drop_eq_nil_of_le,date_length]
  unfold fromisoformat
  simp only [text,location,Option.bind_eq_bind,Option.bind_some,front,back,if_neg longer,date,
    parse_date_digits year_small month_small day_small,time,parse_time_utc hour_small minute_small second_small us_small]
  exact ofFields_fields d utc

end Automation.Calendar
