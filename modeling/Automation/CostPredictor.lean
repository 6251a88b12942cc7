import Automation.Rounding

/-!
`predict_cost` on numbers that carry their Python type. The factor is a `Decimal`, so a
prediction exists only where the mean and its bounds are no floats; the bounds that a history
supplies are not compared with its mean, and the factor grows with the repository without the
cap that the docstring states. Every operation on a `Decimal` rounds to 28 digits, which may
move the mean past its bounds, and raises where the number is too large. A prediction is well
behaved if and only if none of these goes wrong (`cost_prediction_iff`).
-/
namespace Automation.CostPredictor

inductive Raised where
  | ValueError (message : String)
  | TypeError
  | Overflow
  | InvalidOperation
  deriving DecidableEq

/-! ### Decimals -/

/-- A `Decimal` by its value: trailing zeros and the sign of a zero are not kept, a NaN is quiet. -/
inductive PyDecimal where
  | finite (value : ℚ)
  | infinity (negative : Bool)
  | nan
  deriving DecidableEq

namespace PyDecimal

/-- The default context, with the exponent of its least subnormal number. -/
def prec : ℕ := 28
def Emax : ℤ := 999999
def Etiny : ℤ := -1000026

def rounded (x : ℚ) : ℚ := Rounding.round 10 prec Etiny x

/-- Rounded, the number has an exponent up to `Emax`. -/
def Fits (x : ℚ) : Prop := Int.log 10 |rounded x| ≤ Emax

instance (x : ℚ) : Decidable (Fits x) := inferInstanceAs (Decidable (_ ≤ _))

/-- The exact result of an operation is rounded. An underflow raises nothing. -/
def fix (x : ℚ) : Except Raised ℚ := if Fits x then .ok (rounded x) else .error .Overflow

def neg : PyDecimal → PyDecimal
  | .finite a => .finite (-a)
  | .infinity s => .infinity !s
  | .nan => .nan

def add : PyDecimal → PyDecimal → Except Raised PyDecimal
  | .nan, _ | _, .nan => .ok .nan
  | .infinity s, .infinity t => if s = t then .ok (.infinity s) else .error .InvalidOperation
  | .infinity s, .finite _ | .finite _, .infinity s => .ok (.infinity s)
  | .finite a, .finite b => .finite <$> fix (a + b)

def sub (a b : PyDecimal) : Except Raised PyDecimal := a.add b.neg

def mul : PyDecimal → PyDecimal → Except Raised PyDecimal
  | .nan, _ | _, .nan => .ok .nan
  | .infinity s, .infinity t => .ok (.infinity (s != t))
  | .infinity s, .finite a | .finite a, .infinity s =>
    if a = 0 then .error .InvalidOperation else .ok (.infinity (s != decide (a < 0)))
  | .finite a, .finite b => .finite <$> fix (a * b)

/-- Comparisons do not round. -/
def le : PyDecimal → PyDecimal → Bool
  | .nan, _ | _, .nan => false
  | .infinity true, _ | _, .infinity false => true
  | .finite a, .finite b => decide (a ≤ b)
  | _, _ => false

/-- `value if value > 0 else Decimal(0)`; no NaN can be compared. -/
def max_zero : PyDecimal → Except Raised PyDecimal
  | .nan => .error .InvalidOperation
  | .infinity s => .ok (if s then .finite 0 else .infinity s)
  | .finite a => .ok (.finite (max 0 a))

end PyDecimal

open PyDecimal

/-! ### Numbers -/

/-- A number with its type; a float is a rational. -/
inductive Number where
  | int (value : Int)
  | float (value : ℚ)
  | decimal (value : PyDecimal)
  deriving DecidableEq

namespace Number

/-- An operation converts an int to the other type; a float and a `Decimal` have none. -/
def arithmetic (ints : Int → Int → Int) (floats : ℚ → ℚ → ℚ) (decimals : PyDecimal → PyDecimal → Except Raised PyDecimal) :
    Number → Number → Except Raised Number
  | .int a, .int b => .ok (.int (ints a b))
  | .int a, .float b => .ok (.float (floats a b))
  | .float a, .int b => .ok (.float (floats a b))
  | .float a, .float b => .ok (.float (floats a b))
  | .int a, .decimal b => .decimal <$> decimals (.finite a) b
  | .decimal a, .int b => .decimal <$> decimals a (.finite b)
  | .decimal a, .decimal b => .decimal <$> decimals a b
  | .float _, .decimal _ | .decimal _, .float _ => .error .TypeError

def add : Number → Number → Except Raised Number := arithmetic (· + ·) (· + ·) PyDecimal.add
def sub : Number → Number → Except Raised Number := arithmetic (· - ·) (· - ·) PyDecimal.sub
def mul : Number → Number → Except Raised Number := arithmetic (· * ·) (· * ·) PyDecimal.mul

/-- The value, to which every type converts without loss. -/
def exact : Number → PyDecimal
  | .int n => .finite n
  | .float x => .finite x
  | .decimal d => d

def le (a b : Number) : Bool := a.exact.le b.exact

def Scalable : Number → Prop
  | .float _ => False
  | _ => True

end Number

/-! ### The predictor -/

/-- A mapping from workflow types. -/
abbrev PerType := String → Option Number

/-- What the histories of a department and of the platform share. -/
structure CostHistory where
  avg_cost_per_workflow_type : PerType
  stddev_per_workflow_type : Option PerType
  ci_low_per_workflow_type : Option PerType
  ci_high_per_workflow_type : Option PerType

structure DeptCostHistory extends CostHistory where
  task_count : Int

inductive Source where
  | dept
  | global_fallback
  deriving DecidableEq

structure CostPrediction where
  predicted_usd : Number
  confidence_low : Number
  confidence_high : Number
  source : Source
  scaling_factor : Number

def GLOBAL_FALLBACK_MIN_TASKS : Int := 30

/-- `float(mean) * 0.25`, unless the mean is a `Decimal`. -/
def mul_band : Number → Except Raised Number
  | .decimal mean => .decimal <$> mean.mul (.finite (1 / 4))
  | .float mean => .ok (.float (mean * (1 / 4)))
  | .int mean => .ok (.float (mean * (1 / 4)))

/-- The deviation of the history for the type. -/
def stddev (history : CostHistory) (workflow_type : String) : Option Number :=
  history.stddev_per_workflow_type.bind fun stddevs => stddevs workflow_type

def maybe_stddev (history : CostHistory) (workflow_type : String) (mean : Number) : Except Raised Number :=
  match stddev history workflow_type with
  | some value => .ok value
  | none => mul_band mean

/-- `max(0.0, float(value))`, unless the value is a `Decimal`. -/
def max_zero : Number → Except Raised Number
  | .decimal value => .decimal <$> value.max_zero
  | .float value => .ok (.float (max 0 value))
  | .int value => .ok (.float (max 0 value))

/-- Both factors are Decimals, and so is their product. -/
def scaling_factor (repo_size_loc estimated_iterations : Int) : Except Raised ℚ := do
  let share ← fix ((max repo_size_loc 0 : Int) / 10000)
  let repo_factor ← fix (1 + share)
  fix (repo_factor * (max estimated_iterations 1 : Int))

def use_dept (dept_history : DeptCostHistory) (workflow_type : String) : Bool :=
  GLOBAL_FALLBACK_MIN_TASKS ≤ dept_history.task_count && (dept_history.avg_cost_per_workflow_type workflow_type).isSome

/-- The precomputed bounds, if both are there. -/
def ci_bounds (history : CostHistory) (workflow_type : String) : Option (Number × Number) :=
  match history.ci_low_per_workflow_type.bind fun low => low workflow_type,
    history.ci_high_per_workflow_type.bind fun high => high workflow_type with
  | some low,some high => some (low,high)
  | _,_ => none

/-- The bounds before they are scaled. -/
def bounds (history : CostHistory) (workflow_type : String) (mean_value : Number) : Except Raised (Number × Number) :=
  match ci_bounds history workflow_type with
  | some both => .ok both
  | none => do
    let stddev ← maybe_stddev history workflow_type mean_value
    let low_value ← mean_value.sub stddev
    let high_value ← mean_value.add stddev
    pure (low_value,high_value)

def chosen (dept_history : DeptCostHistory) (global_history : CostHistory) (workflow_type : String) : CostHistory :=
  if use_dept dept_history workflow_type then dept_history.toCostHistory else global_history

/-- `avg_map.get(workflow_type, 0)`. -/
def mean (history : CostHistory) (workflow_type : String) : Number :=
  (history.avg_cost_per_workflow_type workflow_type).getD (.int 0)

def predict_cost (dept_history : DeptCostHistory) (global_history : CostHistory) (workflow_type : String)
    (repo_size_loc estimated_iterations : Int) : Except Raised CostPrediction := do
  if estimated_iterations < 1 then .error (.ValueError "estimated_iterations must be >= 1")
  else if repo_size_loc < 0 then .error (.ValueError "repo_size_loc must be >= 0")
  else
    let factor ← scaling_factor repo_size_loc estimated_iterations
    let history := chosen dept_history global_history workflow_type
    let mean_value := mean history workflow_type
    let (low_value,high_value) ← bounds history workflow_type mean_value
    let predicted ← mean_value.mul (.decimal (.finite factor))
    let low ← max_zero (← low_value.mul (.decimal (.finite factor)))
    let high ← high_value.mul (.decimal (.finite factor))
    pure { predicted_usd := predicted, confidence_low := low, confidence_high := high
           source := if use_dept dept_history workflow_type then .dept else .global_fallback
           scaling_factor := .decimal (.finite factor) }

namespace PyDecimal

/-! ### Rounded numbers -/

theorem rounded_mono {x y : ℚ} (below : x ≤ y) (nonneg : 0 ≤ y) : rounded x ≤ rounded y :=
  Rounding.round_mono (by decide) (by decide) below nonneg

theorem rounded_nonneg {x : ℚ} (nonneg : 0 ≤ x) : 0 ≤ rounded x :=
  Rounding.round_nonneg (by decide) nonneg

/-- A number of ten thousandths with at most 28 digits. -/
theorem rounded_short {n : Int} (short : |n| < 10 ^ 28) : rounded (n / 10000) = n / 10000 := by
  have written : (n : ℚ) / 10000 = n * ((10 : ℕ) : ℚ) ^ (-4 : ℤ) := by norm_num [div_eq_mul_inv]
  unfold rounded
  rw [written]
  exact Rounding.round_short (by decide) short (by decide)

theorem rounded_one : rounded 1 = 1 := by
  have short := rounded_short (n := 10000) (by decide)
  norm_num at short
  exact short

theorem one_le_rounded {x : ℚ} (large : 1 ≤ x) : 1 ≤ rounded x :=
  rounded_one.symm.trans_le (rounded_mono large (zero_le_one.trans large))

theorem rounded_error {x : ℚ} (large : 1 ≤ x) : |rounded x - x| ≤ x / 10 ^ 27 := by
  have positive : 0 < x := by linarith
  have log_nonneg : 0 ≤ Int.log 10 x := by
    have := Int.log_mono_right (b := 10) zero_lt_one large
    rwa [Int.log_one_right] at this
  have unit : Rounding.last 10 prec Etiny x = Int.log 10 x + -27 := by
    rw [Rounding.last,abs_of_pos positive]
    simp only [prec,Etiny]
    omega
  have below : ((10 : ℕ) : ℚ) ^ Int.log 10 x ≤ x := Int.zpow_log_le_self (by decide) positive
  calc |rounded x - x| ≤ ((10 : ℕ) : ℚ) ^ Rounding.last 10 prec Etiny x := Rounding.round_error (by decide) x
    _ = ((10 : ℕ) : ℚ) ^ Int.log 10 x * ((10 : ℕ) : ℚ) ^ (-27 : ℤ) := by
        rw [unit,zpow_add₀ (by norm_num)]
    _ ≤ x * ((10 : ℕ) : ℚ) ^ (-27 : ℤ) := mul_le_mul_of_nonneg_right below (by positivity)
    _ = x / 10 ^ 27 := by norm_num [div_eq_mul_inv]

theorem fits_small {x : ℚ} (nonneg : 0 ≤ rounded x) (small : rounded x ≤ 2) : Fits x := by
  rw [Fits,abs_of_nonneg nonneg]
  rcases nonneg.eq_or_lt with zero | positive
  · rw [← zero,Int.log_zero_right]
    decide
  · have : Int.log 10 (rounded x) ≤ Int.log 10 (2 : ℚ) := Int.log_mono_right positive small
    have two : Int.log 10 (2 : ℚ) = 0 := by decide +kernel
    rw [two] at this
    exact this.trans (by decide)

theorem fix_ok {x y : ℚ} : fix x = .ok y ↔ Fits x ∧ y = rounded x := by
  unfold fix
  split
  · next fits => simp [fits,eq_comm]
  · next beyond => simp [beyond]

end PyDecimal

theorem bind_ok {α β : Type} {x : Except Raised α} {f : α → Except Raised β} {b : β} :
    x >>= f = .ok b ↔ ∃ a, x = .ok a ∧ f a = .ok b := by
  cases x with
  | error raised => exact iff_of_false (fun done => nomatch done) fun ⟨_,made,_⟩ => nomatch made
  | ok a =>
    constructor
    · intro done
      exact ⟨a,rfl,done⟩
    · rintro ⟨_,⟨⟩,done⟩
      exact done

theorem map_ok {α β : Type} {x : Except Raised α} {f : α → β} {b : β} :
    f <$> x = .ok b ↔ ∃ a, x = .ok a ∧ f a = b := by
  cases x with
  | error raised => exact iff_of_false (fun done => nomatch done) fun ⟨_,made,_⟩ => nomatch made
  | ok a =>
    constructor
    · rintro ⟨⟩
      exact ⟨a,rfl,rfl⟩
    · rintro ⟨_,⟨⟩,rfl⟩
      rfl

/-! ### The factor -/

section
variable {repo_size_loc estimated_iterations : Int} {factor : ℚ}

theorem scaling_factor_ok : scaling_factor repo_size_loc estimated_iterations = .ok factor ↔
    Fits ((max repo_size_loc 0 : Int) / 10000) ∧ Fits (1 + rounded ((max repo_size_loc 0 : Int) / 10000)) ∧
      Fits (rounded (1 + rounded ((max repo_size_loc 0 : Int) / 10000)) * (max estimated_iterations 1 : Int)) ∧
      factor = rounded (rounded (1 + rounded ((max repo_size_loc 0 : Int) / 10000)) * (max estimated_iterations 1 : Int)) := by
  simp only [scaling_factor,bind_ok,fix_ok]
  constructor
  · rintro ⟨_,⟨shared,rfl⟩,_,⟨added,rfl⟩,multiplied,rfl⟩
    exact ⟨shared,added,multiplied,rfl⟩
  · rintro ⟨shared,added,multiplied,rfl⟩
    exact ⟨_,⟨shared,rfl⟩,_,⟨added,rfl⟩,multiplied,rfl⟩

theorem factor_mono {more_lines more_rounds : Int} {larger : ℚ} (more : repo_size_loc ≤ more_lines)
    (longer : estimated_iterations ≤ more_rounds) (made : scaling_factor repo_size_loc estimated_iterations = .ok factor)
    (more_made : scaling_factor more_lines more_rounds = .ok larger) : factor ≤ larger := by
  obtain ⟨-,-,-,rfl⟩ := scaling_factor_ok.mp made
  obtain ⟨-,-,-,rfl⟩ := scaling_factor_ok.mp more_made
  have lines : ((max repo_size_loc 0 : Int) : ℚ) ≤ (max more_lines 0 : Int) := by
    exact_mod_cast max_le_max_right 0 more
  have some_lines : (0 : ℚ) ≤ (max more_lines 0 : Int) := by exact_mod_cast le_max_right more_lines 0
  have rounds : ((max estimated_iterations 1 : Int) : ℚ) ≤ (max more_rounds 1 : Int) := by
    exact_mod_cast max_le_max_right 1 longer
  have some_rounds : (0 : ℚ) ≤ (max estimated_iterations 1 : Int) := by
    exact_mod_cast zero_le_one.trans (le_max_right estimated_iterations 1)
  have shares : rounded ((max repo_size_loc 0 : Int) / 10000) ≤ rounded ((max more_lines 0 : Int) / 10000) :=
    rounded_mono (by linarith) (by linarith)
  have share := rounded_nonneg (x := (max more_lines 0 : Int) / 10000) (by linarith)
  have repo := rounded_nonneg (x := 1 + rounded ((max more_lines 0 : Int) / 10000)) (by linarith)
  refine rounded_mono (mul_le_mul (rounded_mono (by linarith) (by linarith)) rounds some_rounds repo) ?_
  exact mul_nonneg repo (some_rounds.trans rounds)

theorem factor_large (made : scaling_factor repo_size_loc estimated_iterations = .ok factor) : 1 ≤ factor := by
  obtain ⟨-,-,-,rfl⟩ := scaling_factor_ok.mp made
  have lines : (0 : ℚ) ≤ (max repo_size_loc 0 : Int) := by exact_mod_cast le_max_right repo_size_loc 0
  have rounds : (1 : ℚ) ≤ (max estimated_iterations 1 : Int) := by exact_mod_cast le_max_right estimated_iterations 1
  have share := rounded_nonneg (x := (max repo_size_loc 0 : Int) / 10000) (by linarith)
  have repo := one_le_rounded (x := 1 + rounded ((max repo_size_loc 0 : Int) / 10000)) (by linarith)
  exact one_le_rounded (one_le_mul_of_one_le_of_one_le repo rounds)

/-- The factor of a repository of at most ten thousand lines, before it is rounded. -/
def plain_factor (repo_size_loc estimated_iterations : Int) : ℚ := (1 + repo_size_loc / 10000) * estimated_iterations

/-- Up to ten thousand lines nothing but the product is rounded. -/
theorem small_factor (sized : 0 ≤ repo_size_loc) (small : repo_size_loc ≤ 10000) (iterated : 1 ≤ estimated_iterations) :
    scaling_factor repo_size_loc estimated_iterations = .ok factor ↔
      Fits (plain_factor repo_size_loc estimated_iterations) ∧ factor = rounded (plain_factor repo_size_loc estimated_iterations) := by
  have lines : (0 : ℚ) ≤ repo_size_loc := by exact_mod_cast sized
  have few : (repo_size_loc : ℚ) ≤ 10000 := by exact_mod_cast small
  have share : rounded ((repo_size_loc : ℚ) / 10000) = repo_size_loc / 10000 :=
    rounded_short (abs_lt.mpr ⟨by omega,by omega⟩)
  have repo : rounded (1 + (repo_size_loc : ℚ) / 10000) = 1 + repo_size_loc / 10000 := by
    have short := rounded_short (n := 10000 + repo_size_loc) (abs_lt.mpr ⟨by omega,by omega⟩)
    push_cast at short
    rwa [show ((10000 : ℚ) + repo_size_loc) / 10000 = 1 + repo_size_loc / 10000 by ring] at short
  have shared : Fits ((repo_size_loc : ℚ) / 10000) := fits_small (by rw [share]; linarith) (by rw [share]; linarith)
  have added : Fits (1 + (repo_size_loc : ℚ) / 10000) := fits_small (by rw [repo]; linarith) (by rw [repo]; linarith)
  rw [scaling_factor_ok,max_eq_left sized,max_eq_left iterated,share,repo]
  simp only [shared,added,true_and,plain_factor]

/-- The factor of one iteration is at most two up to ten thousand lines, unless twice the
    iterations are rounded up there. -/
theorem factor_capped (sized : 0 ≤ repo_size_loc) (iterated : 1 ≤ estimated_iterations)
    (made : scaling_factor repo_size_loc estimated_iterations = .ok factor) :
    factor ≤ 2 * estimated_iterations ↔
      repo_size_loc < 10000 ∨ repo_size_loc = 10000 ∧ rounded (2 * estimated_iterations) ≤ 2 * estimated_iterations := by
  have rounds : (1 : ℚ) ≤ estimated_iterations := by exact_mod_cast iterated
  rcases lt_trichotomy repo_size_loc 10000 with few | rfl | many
  · refine iff_of_true ?_ (.inl few)
    obtain ⟨-,rfl⟩ := (small_factor sized few.le iterated).mp made
    have lines : (repo_size_loc : ℚ) ≤ 9999 := by exact_mod_cast (by omega : repo_size_loc ≤ 9999)
    have below : plain_factor repo_size_loc estimated_iterations ≤ 19999 / 10000 * estimated_iterations :=
      mul_le_mul_of_nonneg_right (by linarith) (by linarith)
    have close := (abs_le.mp (rounded_error (x := 19999 / 10000 * estimated_iterations) (by linarith))).2
    have := rounded_mono below (by linarith)
    linarith
  · obtain ⟨-,rfl⟩ := (small_factor sized le_rfl iterated).mp made
    have twice : plain_factor 10000 estimated_iterations = 2 * estimated_iterations := by
      rw [plain_factor]
      norm_num
    simp [twice]
  · refine iff_of_false ?_ (by omega)
    obtain ⟨-,-,-,rfl⟩ := scaling_factor_ok.mp made
    rw [max_eq_left sized,max_eq_left iterated]
    have lines : (10001 : ℚ) ≤ repo_size_loc := by exact_mod_cast (by omega : 10001 ≤ repo_size_loc)
    have share : (10001 : ℚ) / 10000 ≤ rounded (repo_size_loc / 10000) := by
      have short := rounded_short (n := 10001) (by decide)
      push_cast at short
      exact short.symm.trans_le (rounded_mono (by linarith) (by linarith))
    have repo : (20001 : ℚ) / 10000 ≤ rounded (1 + rounded (repo_size_loc / 10000)) := by
      have short := rounded_short (n := 20001) (by decide)
      push_cast at short
      exact short.symm.trans_le (rounded_mono (by linarith) (by linarith))
    have above : (20001 : ℚ) / 10000 * estimated_iterations ≤
        rounded (1 + rounded (repo_size_loc / 10000)) * estimated_iterations :=
      mul_le_mul_of_nonneg_right repo (by linarith)
    have close := (abs_le.mp (rounded_error (x := 20001 / 10000 * estimated_iterations) (by linarith))).1
    have := rounded_mono above (by linarith)
    linarith

end

/-! ### Products with the factor -/

section
variable {factor : ℚ}

/-- The product with the factor is in range. -/
def InRange (factor : ℚ) : PyDecimal → Prop
  | .finite x => Fits (x * factor)
  | _ => True

/-- The product with a positive factor. -/
def scale (factor : ℚ) : PyDecimal → PyDecimal
  | .finite x => .finite (rounded (x * factor))
  | d => d

/-- In order, or so close that the products are rounded to one number. -/
def Below (factor : ℚ) (a b : PyDecimal) : Prop :=
  a.le b ∨ match a,b with
    | .finite x,.finite y => rounded (x * factor) = rounded (y * factor)
    | _,_ => False

/-- Only a float cannot be scaled. -/
theorem mul_factor (positive : 0 < factor) {a b : Number} : a.mul (.decimal (.finite factor)) = .ok b ↔
    a.Scalable ∧ InRange factor a.exact ∧ b = .decimal (scale factor a.exact) := by
  have finite (x : ℚ) : Number.decimal <$> PyDecimal.finite <$> fix (x * factor) = .ok b ↔
      Fits (x * factor) ∧ b = .decimal (.finite (rounded (x * factor))) := by
    simp only [map_ok,fix_ok]
    constructor
    · rintro ⟨_,⟨_,⟨fits,rfl⟩,rfl⟩,rfl⟩
      exact ⟨fits,rfl⟩
    · rintro ⟨fits,rfl⟩
      exact ⟨_,⟨_,⟨fits,rfl⟩,rfl⟩,rfl⟩
  cases a with
  | int n => exact (finite n).trans (and_iff_right trivial).symm
  | float x => exact iff_of_false (fun done => nomatch done) fun scaled => scaled.1
  | decimal d =>
    cases d with
    | finite x => exact (finite x).trans (and_iff_right trivial).symm
    | infinity s =>
      have sign : Number.mul (.decimal (.infinity s)) (.decimal (.finite factor)) = .ok (.decimal (.infinity s)) := by
        simp [Number.mul,Number.arithmetic,PyDecimal.mul,positive.ne',positive.not_gt]
      rw [sign]
      simp [Number.Scalable,Number.exact,InRange,scale,eq_comm]
    | nan =>
      have nan : Number.mul (.decimal .nan) (.decimal (.finite factor)) = .ok (.decimal .nan) := rfl
      rw [nan]
      simp [Number.Scalable,Number.exact,InRange,scale,eq_comm]

theorem infinity_nonneg {s : Bool} (nonneg : (PyDecimal.finite 0).le (.infinity s)) : s = false := by
  cases s with
  | true => cases nonneg
  | false => rfl

/-- Rounded products are in order if the numbers are; otherwise they are equal. -/
theorem scaled_le (positive : 0 < factor) {x y : ℚ} (nonneg : 0 ≤ x ∨ 0 ≤ y) :
    rounded (x * factor) ≤ rounded (y * factor) ↔ x ≤ y ∨ rounded (x * factor) = rounded (y * factor) := by
  constructor
  · intro ordered
    rcases le_or_gt x y with below | above
    · exact .inl below
    · have x_nonneg : 0 ≤ x := nonneg.elim id fun y_nonneg => y_nonneg.trans above.le
      have back := rounded_mono (mul_le_mul_of_nonneg_right above.le positive.le) (mul_nonneg x_nonneg positive.le)
      exact .inr (ordered.antisymm back)
  · rintro (below | same)
    · have y_nonneg : 0 ≤ y := nonneg.elim (fun x_nonneg => x_nonneg.trans below) id
      exact rounded_mono (mul_le_mul_of_nonneg_right below positive.le) (mul_nonneg y_nonneg positive.le)
    · exact same.le

/-- The scaled mean is at most the scaled upper bound. -/
theorem high_iff (positive : 0 < factor) {mean high : PyDecimal} (nonneg : (PyDecimal.finite 0).le mean) :
    (scale factor mean).le (scale factor high) ↔ Below factor mean high := by
  cases mean with
  | nan => cases nonneg
  | infinity s =>
    obtain rfl := infinity_nonneg nonneg
    cases high with
    | finite y => simp [scale,Below,PyDecimal.le]
    | infinity t => cases t <;> simp [scale,Below,PyDecimal.le]
    | nan => simp [scale,Below,PyDecimal.le]
  | finite x =>
    have x_nonneg : 0 ≤ x := by simpa [PyDecimal.le] using nonneg
    cases high with
    | finite y => simpa [scale,Below,PyDecimal.le] using scaled_le positive (.inl x_nonneg)
    | infinity t => cases t <;> simp [scale,Below,PyDecimal.le]
    | nan => simp [scale,Below,PyDecimal.le]

/-- The scaled lower bound is cut off at zero; it is then at most the scaled mean. -/
theorem low_iff (positive : 0 < factor) {low mean : PyDecimal} (nonneg : (PyDecimal.finite 0).le mean) :
    (∃ cut, (scale factor low).max_zero = .ok cut ∧ (PyDecimal.finite 0).le cut ∧ cut.le (scale factor mean)) ↔
      Below factor low mean := by
  cases low with
  | nan => exact iff_of_false (fun ⟨_,cut,_⟩ => nomatch cut) (by cases mean <;> simp [Below,PyDecimal.le])
  | infinity s =>
    cases s with
    | true =>
      cases mean with
      | nan => cases nonneg
      | infinity t => simp_all [scale,PyDecimal.max_zero,Below,PyDecimal.le]
      | finite y =>
        have y_nonneg : 0 ≤ y := by simpa [PyDecimal.le] using nonneg
        simpa [scale,PyDecimal.max_zero,Below,PyDecimal.le] using rounded_nonneg (mul_nonneg y_nonneg positive.le)
    | false => cases mean <;> simp [scale,PyDecimal.max_zero,Below,PyDecimal.le]
  | finite x =>
    cases mean with
    | nan => cases nonneg
    | infinity t =>
      obtain rfl := infinity_nonneg nonneg
      simp [scale,PyDecimal.max_zero,Below,PyDecimal.le]
    | finite y =>
      have y_nonneg : 0 ≤ y := by simpa [PyDecimal.le] using nonneg
      have scaled := rounded_nonneg (mul_nonneg y_nonneg positive.le)
      simpa [scale,PyDecimal.max_zero,Below,PyDecimal.le,scaled] using scaled_le positive (.inr y_nonneg)

end

/-! ### What is well behaved -/

section
variable (dept_history : DeptCostHistory) (global_history : CostHistory) (workflow_type : String)

structure NonNegative (history : CostHistory) : Prop where
  means : ∀ name, ∀ mean ∈ history.avg_cost_per_workflow_type name, (Number.int 0).le mean
  deviations : ∀ stddevs ∈ history.stddev_per_workflow_type, ∀ name, ∀ stddev ∈ stddevs name, (Number.int 0).le stddev

/-- The bounds are in order around the mean, the mean grows with the sizes, an iteration costs at
    most twice the mean, and the source is the department exactly where it has enough tasks. -/
structure Sound (repo_size_loc estimated_iterations : Int) (prediction : CostPrediction) : Prop where
  low : (Number.int 0).le prediction.confidence_low
  below : prediction.confidence_low.le prediction.predicted_usd
  above : prediction.predicted_usd.le prediction.confidence_high
  monotone : ∀ more_lines more_rounds larger, repo_size_loc ≤ more_lines → estimated_iterations ≤ more_rounds →
    predict_cost dept_history global_history workflow_type more_lines more_rounds = .ok larger →
      prediction.predicted_usd.le larger.predicted_usd
  capped : prediction.scaling_factor.le (.int (2 * estimated_iterations))
  source : prediction.source = .dept ↔
    30 ≤ dept_history.task_count ∧ (dept_history.avg_cost_per_workflow_type workflow_type).isSome

def WellBehaved (repo_size_loc estimated_iterations : Int) : Prop :=
  ∃ prediction, predict_cost dept_history global_history workflow_type repo_size_loc estimated_iterations = .ok prediction ∧
    Sound dept_history global_history workflow_type repo_size_loc estimated_iterations prediction

/-- Both bounds can be scaled and lie around the mean. -/
def Around (factor : ℚ) (low mean high : PyDecimal) : Prop :=
  InRange factor low ∧ InRange factor high ∧ Below factor low mean ∧ Below factor mean high

/-- A mean with its deviation: the sum and the difference are rounded before they are scaled. -/
def Spread (factor : ℚ) : PyDecimal → PyDecimal → Prop
  | .finite m, .finite s =>
    Fits (m - s) ∧ Fits (m + s) ∧ Around factor (.finite (rounded (m - s))) (.finite m) (.finite (rounded (m + s)))
  | .finite _, .infinity _ | .infinity _, .finite _ => True
  | _, _ => False

def Deviates (factor : ℚ) : Number → Number → Prop
  | _, .float _ => False
  | .int m, .int s => Around factor (.finite (m - s : Int)) (.finite m) (.finite (m + s : Int))
  | mean, deviation => Spread factor mean.exact deviation.exact

/-- A quarter of a `Decimal` as its deviation. -/
def Banded (factor : ℚ) : Number → Prop
  | .decimal (.finite m) => Fits (m * (1 / 4)) ∧ Spread factor (.finite m) (.finite (rounded (m * (1 / 4))))
  | _ => False

/-- The bounds that the history gives, or that its deviation or a quarter of the mean gives. -/
def Bounded (factor : ℚ) (history : CostHistory) : Prop :=
  match ci_bounds history workflow_type,stddev history workflow_type,mean history workflow_type with
  | some (low,high),_,mean => low.Scalable ∧ high.Scalable ∧ Around factor low.exact mean.exact high.exact
  | none,some deviation,mean => Deviates factor mean deviation
  | none,none,mean => Banded factor mean

/-- The mean is no float, the repository has at most ten thousand lines, and the bounds lie around
    the mean, all in the range of a `Decimal`. -/
structure Predictable (history : CostHistory) (repo_size_loc estimated_iterations : Int) : Prop where
  scalable : (mean history workflow_type).Scalable
  small : repo_size_loc < 10000 ∨ repo_size_loc = 10000 ∧ rounded (2 * estimated_iterations) ≤ 2 * estimated_iterations
  factor : Fits (plain_factor repo_size_loc estimated_iterations)
  in_range : InRange (rounded (plain_factor repo_size_loc estimated_iterations)) (mean history workflow_type).exact
  bounded : Bounded workflow_type (rounded (plain_factor repo_size_loc estimated_iterations)) history

end

/-! ### The bounds -/

section
variable {dept_history : DeptCostHistory} {global_history : CostHistory} {workflow_type : String}
  {repo_size_loc estimated_iterations : Int} {factor : ℚ}

theorem spread_iff {m s : PyDecimal} (mean_nonneg : (PyDecimal.finite 0).le m) (nonneg : (PyDecimal.finite 0).le s) :
    (∃ low high, m.sub s = .ok low ∧ m.add s = .ok high ∧ Around factor low m high) ↔ Spread factor m s := by
  cases m with
  | nan => cases mean_nonneg
  | infinity b =>
    obtain rfl := infinity_nonneg mean_nonneg
    cases s with
    | nan => cases nonneg
    | infinity t =>
      obtain rfl := infinity_nonneg nonneg
      exact iff_of_false (fun ⟨_,_,subtracted,_⟩ => nomatch subtracted) fun spread => spread
    | finite y => exact iff_of_true ⟨_,_,rfl,rfl,trivial,trivial,.inl rfl,.inl rfl⟩ trivial
  | finite x =>
    cases s with
    | nan => cases nonneg
    | infinity t =>
      obtain rfl := infinity_nonneg nonneg
      exact iff_of_true ⟨_,_,rfl,rfl,trivial,trivial,.inl rfl,.inl rfl⟩ trivial
    | finite y =>
      simp only [PyDecimal.sub,PyDecimal.neg,PyDecimal.add,← sub_eq_add_neg,map_ok,fix_ok,Spread]
      constructor
      · rintro ⟨_,_,⟨_,⟨down,rfl⟩,rfl⟩,⟨_,⟨up,rfl⟩,rfl⟩,around⟩
        exact ⟨down,up,around⟩
      · rintro ⟨down,up,around⟩
        exact ⟨_,_,⟨_,⟨down,rfl⟩,rfl⟩,⟨_,⟨up,rfl⟩,rfl⟩,around⟩

/-- The same for results that carry their type. -/
theorem spread_number {m s : PyDecimal} (mean_nonneg : (PyDecimal.finite 0).le m) (nonneg : (PyDecimal.finite 0).le s) :
    (∃ low high : Number, Number.decimal <$> m.sub s = .ok low ∧ Number.decimal <$> m.add s = .ok high ∧
      low.Scalable ∧ high.Scalable ∧ Around factor low.exact m high.exact) ↔ Spread factor m s := by
  rw [← spread_iff mean_nonneg nonneg]
  simp only [map_ok]
  constructor
  · rintro ⟨_,_,⟨low,subtracted,rfl⟩,⟨high,added,rfl⟩,-,-,around⟩
    exact ⟨low,high,subtracted,added,around⟩
  · rintro ⟨low,high,subtracted,added,around⟩
    exact ⟨_,_,⟨low,subtracted,rfl⟩,⟨high,added,rfl⟩,trivial,trivial,around⟩

theorem deviates_iff {mean deviation : Number} (scalable : mean.Scalable) (mean_nonneg : (Number.int 0).le mean)
    (nonneg : (Number.int 0).le deviation) :
    (∃ low high, mean.sub deviation = .ok low ∧ mean.add deviation = .ok high ∧ low.Scalable ∧ high.Scalable ∧
      Around factor low.exact mean.exact high.exact) ↔ Deviates factor mean deviation := by
  cases mean with
  | float x => exact absurd scalable id
  | int m =>
    cases deviation with
    | float x =>
      refine iff_of_false ?_ id
      rintro ⟨_,_,⟨⟩,⟨⟩,scaled,-⟩
      exact scaled
    | int s =>
      constructor
      · rintro ⟨_,_,⟨⟩,⟨⟩,-,-,around⟩
        exact around
      · intro around
        exact ⟨_,_,rfl,rfl,trivial,trivial,around⟩
    | decimal s => exact spread_number mean_nonneg nonneg
  | decimal m =>
    cases deviation with
    | float x => exact iff_of_false (fun ⟨_,_,subtracted,_⟩ => nomatch subtracted) id
    | int s => exact spread_number mean_nonneg nonneg
    | decimal s => exact spread_number mean_nonneg nonneg

theorem mean_nonneg {history : CostHistory} (nonneg : NonNegative history) : (Number.int 0).le (mean history workflow_type) := by
  unfold mean
  cases known : history.avg_cost_per_workflow_type workflow_type with
  | none => rfl
  | some value => exact nonneg.means workflow_type value known

theorem stddev_nonneg {history : CostHistory} (nonneg : NonNegative history) {deviation : Number}
    (known : stddev history workflow_type = some deviation) : (Number.int 0).le deviation := by
  obtain ⟨stddevs,here,found⟩ := Option.bind_eq_some_iff.mp known
  exact nonneg.deviations stddevs here workflow_type deviation found

theorem band_iff {mean : Number} (scalable : mean.Scalable) (nonneg : (Number.int 0).le mean) :
    (∃ low high, (∃ deviation, mul_band mean = .ok deviation ∧ mean.sub deviation = .ok low ∧ mean.add deviation = .ok high) ∧
      low.Scalable ∧ high.Scalable ∧ Around factor low.exact mean.exact high.exact) ↔
      Banded factor mean := by
  cases mean with
  | float x => exact absurd scalable id
  | int m =>
    refine iff_of_false ?_ id
    rintro ⟨_,_,⟨_,⟨⟩,⟨⟩,⟨⟩⟩,scaled,-⟩
    exact scaled
  | decimal d =>
    cases d with
    | nan => cases nonneg
    | infinity b =>
      obtain rfl := infinity_nonneg nonneg
      refine iff_of_false ?_ id
      rintro ⟨_,_,⟨deviation,banded,subtracted,-⟩,-⟩
      have infinite : mul_band (.decimal (.infinity false)) = .ok (.decimal (.infinity false)) := by decide +kernel
      rw [infinite] at banded
      cases banded
      cases subtracted
    | finite m =>
      have m_nonneg : 0 ≤ m := by simpa [Number.le,Number.exact,PyDecimal.le] using nonneg
      have quarter : (PyDecimal.finite 0).le (.finite (rounded (m * (1 / 4)))) := by
        simpa [PyDecimal.le] using rounded_nonneg (mul_nonneg m_nonneg (by norm_num : (0 : ℚ) ≤ 1 / 4))
      refine Iff.trans ?_ (and_congr_right fun _ => spread_number nonneg quarter)
      have banded (deviation : Number) : mul_band (.decimal (.finite m)) = .ok deviation ↔
          Fits (m * (1 / 4)) ∧ deviation = .decimal (.finite (rounded (m * (1 / 4)))) :=
        (mul_factor (a := .decimal (.finite m)) (by norm_num)).trans (and_iff_right trivial)
      simp only [banded]
      constructor
      · rintro ⟨low,high,⟨_,⟨fits,rfl⟩,subtracted,added⟩,around⟩
        exact ⟨fits,low,high,subtracted,added,around⟩
      · rintro ⟨fits,low,high,subtracted,added,around⟩
        exact ⟨low,high,⟨_,⟨fits,rfl⟩,subtracted,added⟩,around⟩

theorem bounds_iff {history : CostHistory} (nonneg : NonNegative history) (scalable : (mean history workflow_type).Scalable) :
    (∃ low high, bounds history workflow_type (mean history workflow_type) = .ok (low,high) ∧ low.Scalable ∧ high.Scalable ∧
      Around factor low.exact (mean history workflow_type).exact high.exact) ↔ Bounded workflow_type factor history := by
  have positive_mean : (Number.int 0).le (mean history workflow_type) := mean_nonneg nonneg
  unfold bounds Bounded maybe_stddev
  cases given : ci_bounds history workflow_type with
  | some both =>
    obtain ⟨low,high⟩ := both
    constructor
    · rintro ⟨_,_,⟨⟩,around⟩
      exact around
    · intro around
      exact ⟨low,high,rfl,around⟩
  | none =>
    have pair (x : Except Raised Number) (low high : Number) :
        (do let stddev ← x
            let low_value ← (mean history workflow_type).sub stddev
            let high_value ← (mean history workflow_type).add stddev
            pure (low_value,high_value)) = Except.ok (ε := Raised) (low,high) ↔
          ∃ deviation, x = .ok deviation ∧ (mean history workflow_type).sub deviation = .ok low ∧
            (mean history workflow_type).add deviation = .ok high := by
      simp only [bind_ok]
      constructor
      · rintro ⟨deviation,banded,_,subtracted,_,added,⟨⟩⟩
        exact ⟨deviation,banded,subtracted,added⟩
      · rintro ⟨deviation,banded,subtracted,added⟩
        exact ⟨deviation,banded,_,subtracted,_,added,rfl⟩
    simp only [pair]
    cases known : stddev history workflow_type with
    | some deviation =>
      refine Iff.trans ?_ (deviates_iff scalable positive_mean (stddev_nonneg nonneg known))
      constructor
      · rintro ⟨low,high,⟨_,⟨⟩,subtracted,added⟩,around⟩
        exact ⟨low,high,subtracted,added,around⟩
      · rintro ⟨low,high,subtracted,added,around⟩
        exact ⟨low,high,⟨_,rfl,subtracted,added⟩,around⟩
    | none => exact band_iff scalable positive_mean

theorem source_dept : (if use_dept dept_history workflow_type then Source.dept else .global_fallback) = .dept ↔
    30 ≤ dept_history.task_count ∧ (dept_history.avg_cost_per_workflow_type workflow_type).isSome := by
  have used : use_dept dept_history workflow_type = true ↔
      30 ≤ dept_history.task_count ∧ (dept_history.avg_cost_per_workflow_type workflow_type).isSome := by
    rw [use_dept,Bool.and_eq_true,decide_eq_true_eq]
    rfl
  rw [← used]
  cases use_dept dept_history workflow_type with
  | false => decide
  | true => decide

end

section
variable {dept_history : DeptCostHistory} {global_history : CostHistory} {workflow_type : String}
  {repo_size_loc estimated_iterations : Int}

theorem predicted_iff (sized : 0 ≤ repo_size_loc) (iterated : 1 ≤ estimated_iterations) {prediction : CostPrediction} :
    predict_cost dept_history global_history workflow_type repo_size_loc estimated_iterations = .ok prediction ↔
      ∃ factor low high cut, scaling_factor repo_size_loc estimated_iterations = .ok factor ∧
        bounds (chosen dept_history global_history workflow_type) workflow_type
          (mean (chosen dept_history global_history workflow_type) workflow_type) = .ok (low,high) ∧
        (mean (chosen dept_history global_history workflow_type) workflow_type).Scalable ∧
        InRange factor (mean (chosen dept_history global_history workflow_type) workflow_type).exact ∧
        low.Scalable ∧ InRange factor low.exact ∧ (scale factor low.exact).max_zero = .ok cut ∧
        high.Scalable ∧ InRange factor high.exact ∧
        prediction = {
          predicted_usd := .decimal (scale factor (mean (chosen dept_history global_history workflow_type) workflow_type).exact)
          confidence_low := .decimal cut
          confidence_high := .decimal (scale factor high.exact)
          source := if use_dept dept_history workflow_type then .dept else .global_fallback
          scaling_factor := .decimal (.finite factor) } := by
  rw [predict_cost,if_neg (by omega),if_neg (by omega)]
  simp only [bind_ok]
  constructor
  · rintro ⟨factor,made,⟨low,high⟩,bounded,_,scaled,_,low_scaled,_,cut,_,high_scaled,done⟩
    have positive : 0 < factor := zero_lt_one.trans_le (factor_large made)
    obtain ⟨mean_exact,mean_range,rfl⟩ := (mul_factor positive).mp scaled
    obtain ⟨low_exact,low_range,rfl⟩ := (mul_factor positive).mp low_scaled
    obtain ⟨high_exact,high_range,rfl⟩ := (mul_factor positive).mp high_scaled
    obtain ⟨low_cut,was_cut,rfl⟩ := map_ok.mp cut
    exact ⟨factor,low,high,low_cut,made,bounded,mean_exact,mean_range,low_exact,low_range,was_cut,high_exact,high_range,
      (Except.ok.inj done).symm⟩
  · rintro ⟨factor,low,high,cut,made,bounded,mean_exact,mean_range,low_exact,low_range,was_cut,high_exact,high_range,rfl⟩
    have positive : 0 < factor := zero_lt_one.trans_le (factor_large made)
    exact ⟨factor,made,(low,high),bounded,_,(mul_factor positive).mpr ⟨mean_exact,mean_range,rfl⟩,
      _,(mul_factor positive).mpr ⟨low_exact,low_range,rfl⟩,_,map_ok.mpr ⟨cut,was_cut,rfl⟩,
      _,(mul_factor positive).mpr ⟨high_exact,high_range,rfl⟩,rfl⟩

theorem scale_mono {factor larger : ℚ} (positive : 0 < factor) (more : factor ≤ larger) {d : PyDecimal}
    (nonneg : (PyDecimal.finite 0).le d) : (scale factor d).le (scale larger d) := by
  cases d with
  | nan => cases nonneg
  | infinity s =>
    obtain rfl := infinity_nonneg nonneg
    rfl
  | finite x =>
    have x_nonneg : 0 ≤ x := by simpa [PyDecimal.le] using nonneg
    have ordered : x * factor ≤ x * larger := mul_le_mul_of_nonneg_left more x_nonneg
    simpa [scale,PyDecimal.le] using rounded_mono ordered (mul_nonneg x_nonneg (positive.le.trans more))

end

/-- A prediction is made, in order and capped, if and only if the mean is no float, its bounds can
    be scaled and lie around it, and the repository has at most ten thousand lines. -/
theorem cost_prediction_iff {dept_history : DeptCostHistory} {global_history : CostHistory}
    (dept_nonneg : NonNegative dept_history.toCostHistory) (global_nonneg : NonNegative global_history)
    (workflow_type : String) {repo_size_loc estimated_iterations : Int} (sized : 0 ≤ repo_size_loc)
    (iterated : 1 ≤ estimated_iterations) :
    WellBehaved dept_history global_history workflow_type repo_size_loc estimated_iterations ↔
      Predictable workflow_type (chosen dept_history global_history workflow_type) repo_size_loc estimated_iterations := by
  have nonneg : NonNegative (chosen dept_history global_history workflow_type) := by
    unfold chosen
    split
    · exact dept_nonneg
    · exact global_nonneg
  have mean_low : (Number.int 0).le (mean (chosen dept_history global_history workflow_type) workflow_type) := mean_nonneg nonneg
  constructor
  · rintro ⟨prediction,done,sound⟩
    obtain ⟨factor,low,high,cut,made,bounded,exact,in_range,low_exact,low_range,was_cut,high_exact,high_range,rfl⟩ :=
      (predicted_iff sized iterated).mp done
    have positive : 0 < factor := zero_lt_one.trans_le (factor_large made)
    have capped : factor ≤ 2 * estimated_iterations := by
      simpa [Number.le,Number.exact,PyDecimal.le] using sound.capped
    have small := (factor_capped sized iterated made).mp capped
    obtain ⟨fits,rfl⟩ := (small_factor sized (by omega) iterated).mp made
    refine ⟨exact,small,fits,in_range,(bounds_iff nonneg exact).mp ⟨low,high,bounded,low_exact,high_exact,low_range,high_range,?_,?_⟩⟩
    · exact (low_iff positive mean_low).mp ⟨cut,was_cut,sound.low,sound.below⟩
    · exact (high_iff positive mean_low).mp sound.above
  · rintro ⟨exact,small,fits,in_range,bounded⟩
    obtain ⟨low,high,made_bounds,low_exact,high_exact,low_range,high_range,below,above⟩ := (bounds_iff nonneg exact).mpr bounded
    have made := (small_factor sized (by omega) iterated).mpr ⟨fits,rfl⟩
    have positive := zero_lt_one.trans_le (factor_large made)
    obtain ⟨cut,was_cut,cut_low,cut_below⟩ := (low_iff positive mean_low).mpr below
    refine ⟨_,(predicted_iff sized iterated).mpr ⟨_,low,high,cut,made,made_bounds,exact,in_range,low_exact,low_range,was_cut,
      high_exact,high_range,rfl⟩,cut_low,cut_below,(high_iff positive mean_low).mpr above,?_,?_,source_dept⟩
    · intro more_lines more_rounds larger more longer more_done
      obtain ⟨more_factor,_,_,_,more_made,-,-,-,-,-,-,-,-,rfl⟩ :=
        (predicted_iff (sized.trans more) (iterated.trans longer)).mp more_done
      exact scale_mono positive (factor_mono more longer made more_made) mean_low
    · simpa [Number.le,Number.exact,PyDecimal.le] using (factor_capped sized iterated made).mpr small

def one_mean (mean : Number) : CostHistory where
  avg_cost_per_workflow_type name := if name = "code_change" then some mean else none
  stddev_per_workflow_type := none
  ci_low_per_workflow_type := none
  ci_high_per_workflow_type := none

theorem one_mean_nonneg {mean : Number} (nonneg : (Number.int 0).le mean) : NonNegative (one_mean mean) := by
  refine ⟨fun name value known => ?_,fun stddevs none_given => by cases none_given⟩
  simp only [one_mean,Option.mem_def] at known
  split at known
  · rw [← Option.some.inj known]
    exact nonneg
  · cases known

/-- A `Decimal` mean and a small repository. -/
theorem decimal_mean_predicted :
    WellBehaved ⟨one_mean (.decimal (.finite 2)),40⟩ (one_mean (.decimal (.finite 1))) "code_change" 5000 2 :=
  (cost_prediction_iff (one_mean_nonneg (by decide)) (one_mean_nonneg (by decide)) "code_change" (by decide) (by decide)).mpr
    ⟨trivial,.inl (by decide),by decide +kernel,show Fits _ by decide +kernel,
      ⟨by decide +kernel,by decide +kernel,by decide +kernel,show Fits _ by decide +kernel,show Fits _ by decide +kernel,
        .inl (by decide +kernel),.inl (by decide +kernel)⟩⟩

/-- With a mean that is a float there is no prediction. -/
theorem float_mean_raises :
    ¬WellBehaved ⟨one_mean (.float 2),40⟩ (one_mean (.float 1)) "code_change" 5000 2 := by
  rintro ⟨prediction,done,-⟩
  obtain ⟨_,_,_,_,-,-,scalable,-⟩ := (predicted_iff (by decide) (by decide)).mp done
  exact scalable

end Automation.CostPredictor
