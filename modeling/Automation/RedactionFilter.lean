import Automation.PercentFormat
import Automation.Redaction

/-!
`RedactionFilter` of `redaction.py`: the arguments of a log record are redacted one by one, the
message is rendered with them and redacted again. What the filter leaves holds no secret, a message
apart whose rendering raises what the filter does not expect; and a rendering without a secret is
kept where the conversions write the redacted arguments as they would have written the others
(`filter_redacts`).
-/
namespace Automation.RedactionFilter
open Automation.PercentFormat Automation.Redaction

section
variable {ω : Type}

/-- What the filter reads and writes of a `logging.LogRecord`. -/
structure LogRecord (ω : Type) where
  msg : Value ω
  args : Option (Arguments ω)

/-- `bool(record.args)`. -/
def truthy : Option (Arguments ω) → Bool
  | none => false
  | some (.positional values) => !values.isEmpty
  | some (.mapping m) => !m.items.isEmpty

/-- `redact_text(v) if isinstance(v, str) else v`. -/
def redact_value : Value ω → Value ω
  | .str text => .str (redact_text text)
  | v => v

/-- Of a mapping that is no dict the keys are taken, as of any other iterable. -/
def redact_args : Arguments ω → Arguments ω
  | .mapping ⟨items,none⟩ => .mapping ⟨items.map fun item => (item.1,redact_value item.2),none⟩
  | .mapping ⟨items,some _⟩ => .positional (items.map fun item => redact_value item.1)
  | .positional values => .positional (values.map redact_value)

variable (objects : Objects ω)

/-- `record.msg % record.args`, and the plain join where that raises a `TypeError` or a `ValueError`. -/
def rendered (msg : String) (args : Arguments ω) : Except Raised String :=
  match percent objects msg args with
  | .error .TypeError | .error .ValueError =>
    (args.repr objects).map fun shown => msg ++ " | args=" ++ String.ofList shown
  | outcome => outcome

/-- `_redact_record`: what it has written when it returns or raises, and what it raises. -/
def redact_record (record : LogRecord ω) : LogRecord ω × Option Raised :=
  let args := if truthy record.args then record.args.map redact_args else record.args
  match record.msg with
  | .str msg =>
    match args with
    | some given =>
      if truthy args then
        match rendered objects msg given with
        | .ok text => (⟨.str (redact_text text),none⟩,none)
        | .error e => (⟨record.msg,args⟩,some e)
      else (⟨.str (redact_text msg),args⟩,none)
    | none => (⟨.str (redact_text msg),args⟩,none)
  | v =>
    match objects.str v with
    | .ok text => (⟨.str (redact_text (String.ofList text)),args⟩,none)
    | .error _ => (⟨v,args⟩,none)

/-- `RedactionFilter.filter`: whatever is raised, the record is let through as it is by then. -/
def filter (record : LogRecord ω) : LogRecord ω × Bool := ((redact_record objects record).1,true)

/-- `str(record.msg)`. -/
def message_text : Value ω → Except Raised String
  | .str text => .ok text
  | v => (objects.str v).map String.ofList

/-- `LogRecord.getMessage`. -/
def getMessage (record : LogRecord ω) : Except Raised String := do
  let msg ← message_text objects record.msg
  match record.args with
  | some args => if truthy record.args then percent objects msg args else return msg
  | none => return msg

/-- Wherever a pattern matches, it matches a key whose value is the placeholder. -/
def SecretFree (text : String) : Prop := ∀ pattern ∈ REDACTION_PATTERNS, pattern.Clean text.toList

def text? : Value ω → Option String
  | .str text => some text
  | _ => none

/-- The strings among the arguments. -/
def strings : Arguments ω → List String
  | .positional values => values.filterMap text?
  | .mapping m => m.items.filterMap fun item => text? item.2

/-- The rendering of the message raises something that `_redact_record` does not catch. -/
def Escapes (record : LogRecord ω) : Prop :=
  ∃ msg args, record.msg = .str msg ∧ record.args = some args ∧ truthy record.args = true ∧
    ∃ e, rendered objects msg (redact_args args) = .error e

/-- The conversions write the redacted arguments as they write the arguments themselves. -/
structure Steady (record : LogRecord ω) : Prop where
  dict : ∀ m, record.args = some (.mapping m) → m.other = none
  alike : ∀ msg args, message_text objects record.msg = .ok msg → record.args = some args → truthy record.args = true →
    ∀ action ∈ (args.actions msg).1, (action.map redact_value).run objects = action.run objects
  format : ∀ msg, text? record.msg = none → truthy record.args = true → message_text objects record.msg = .ok msg →
    SecretFree msg

theorem redact_secretFree (text : String) : SecretFree (redact_text text) := redacted_clean text

theorem redact_of_secretFree {text : String} (free : SecretFree text) : redact_text text = text := by
  apply String.toList_inj.mp
  rw [redact_text_toList]
  exact foldl_clean patterns_start free

theorem text_redact_value (v : Value ω) (text : String) (same : text? (redact_value v) = some text) : SecretFree text := by
  cases v with
  | str other =>
    cases same
    exact redact_secretFree other
  | int n => cases same
  | object o => cases same

theorem redact_args_free (args : Arguments ω) : ∀ text ∈ strings (redact_args args), SecretFree text := by
  intro text member
  cases args with
  | positional values =>
    obtain ⟨v,inside,same⟩ := List.mem_filterMap.mp member
    obtain ⟨other,-,rfl⟩ := List.mem_map.mp inside
    exact text_redact_value other text same
  | mapping m =>
    obtain ⟨items,_ | o⟩ := m
    · obtain ⟨item,inside,same⟩ := List.mem_filterMap.mp member
      obtain ⟨other,-,rfl⟩ := List.mem_map.mp inside
      exact text_redact_value other.2 text same
    · obtain ⟨v,inside,same⟩ := List.mem_filterMap.mp member
      obtain ⟨other,-,rfl⟩ := List.mem_map.mp inside
      exact text_redact_value other.1 text same

theorem redact_value_int (v : Value ω) (n : Int) : redact_value v = .int n ↔ v = .int n := by
  cases v with
  | str text => constructor <;> intro same <;> cases same
  | int | object => exact Iff.rfl

theorem truthy_redact (args : Arguments ω) : truthy (some (redact_args args)) = truthy (some args) := by
  cases args with
  | positional values => simp [redact_args,truthy]
  | mapping m => obtain ⟨items,_ | o⟩ := m <;> simp [redact_args,truthy]

theorem redact_args_map {args : Arguments ω} (dict : ∀ m, args = .mapping m → m.other = none) :
    redact_args args = args.map redact_value := by
  cases args with
  | positional values => rfl
  | mapping m =>
    obtain ⟨items,other⟩ := m
    obtain rfl : other = none := dict _ rfl
    rfl

theorem strings_falsy {args : Arguments ω} (falsy : truthy (some args) = false) : strings args = [] := by
  cases args with
  | positional values =>
    cases values with
    | nil => rfl
    | cons v values => cases falsy
  | mapping m =>
    obtain ⟨items,other⟩ := m
    cases items with
    | nil => rfl
    | cons item items => cases falsy

section
variable {objects : Objects ω} {args : Arguments ω} {msg text : String} {v : Value ω}

theorem filter_bare : (filter objects ⟨.str msg,none⟩).1 = ⟨.str (redact_text msg),none⟩ := rfl

theorem filter_falsy (falsy : truthy (some args) = false) :
    (filter objects ⟨.str msg,some args⟩).1 = ⟨.str (redact_text msg),some args⟩ := by
  simp [filter,redact_record,falsy]

theorem filter_rendered (given : truthy (some args) = true) (done : rendered objects msg (redact_args args) = .ok text) :
    (filter objects ⟨.str msg,some args⟩).1 = ⟨.str (redact_text text),none⟩ := by
  have still : truthy (some (redact_args args)) = true := (truthy_redact args).trans given
  simp [filter,redact_record,given,still,done]

theorem filter_escaped {e : Raised} (given : truthy (some args) = true)
    (raised : rendered objects msg (redact_args args) = .error e) :
    (filter objects ⟨.str msg,some args⟩).1 = ⟨.str msg,some (redact_args args)⟩ := by
  have still : truthy (some (redact_args args)) = true := (truthy_redact args).trans given
  simp [filter,redact_record,given,still,raised]

/-- The arguments as they are left beside a message that is no string. -/
def left_args (args : Option (Arguments ω)) : Option (Arguments ω) := if truthy args then args.map redact_args else args

theorem filter_object (args : Option (Arguments ω)) (other : text? v = none) {written : List Char} (known : objects.str v = .ok written) :
    (filter objects ⟨v,args⟩).1 = ⟨.str (redact_text (String.ofList written)),left_args args⟩ := by
  cases v with
  | str text => cases other
  | int | object => simp [filter,redact_record,known,left_args]

theorem filter_unprintable (args : Option (Arguments ω)) (other : text? v = none) {e : Raised} (raised : objects.str v = .error e) :
    (filter objects ⟨v,args⟩).1 = ⟨v,left_args args⟩ := by
  cases v with
  | str text => cases other
  | int | object => simp [filter,redact_record,raised,left_args]

theorem left_args_free {given : Option (Arguments ω)} (same : left_args given = some args) :
    ∀ text ∈ strings args, SecretFree text := by
  cases given with
  | none => cases same
  | some given =>
    cases known : truthy (some given) with
    | true =>
      rw [left_args,known] at same
      cases same
      exact redact_args_free given
    | false =>
      rw [left_args,known] at same
      cases same
      rw [strings_falsy known]
      exact fun text absent => absurd absent List.not_mem_nil

end

theorem filter_args_free (record : LogRecord ω) {args : Arguments ω} (left : (filter objects record).1.args = some args) :
    ∀ text ∈ strings args, SecretFree text := by
  obtain ⟨v,given⟩ := record
  cases kind : text? v with
  | none =>
    refine left_args_free (?_ : left_args given = some args)
    cases written : objects.str v with
    | ok text =>
      rw [filter_object given kind written] at left
      exact left
    | error e =>
      rw [filter_unprintable given kind written] at left
      exact left
  | some msg =>
    cases v with
    | int | object => cases kind
    | str msg =>
      cases given with
      | none => cases left
      | some given =>
        cases known : truthy (some given) with
        | false =>
          rw [filter_falsy known] at left
          cases left
          rw [strings_falsy known]
          exact fun text absent => absurd absent List.not_mem_nil
        | true =>
          cases outcome : rendered objects msg (redact_args given) with
          | ok text =>
            rw [filter_rendered known outcome] at left
            cases left
          | error e =>
            rw [filter_escaped known outcome] at left
            cases left
            exact redact_args_free given

theorem filter_msg_free {record : LogRecord ω} (caught : ¬ Escapes objects record) {text : String}
    (same : (filter objects record).1.msg = .str text) : SecretFree text := by
  obtain ⟨v,given⟩ := record
  cases kind : text? v with
  | none =>
    cases written : objects.str v with
    | ok other =>
      rw [filter_object given kind written] at same
      cases same
      exact redact_secretFree _
    | error e =>
      rw [filter_unprintable given kind written] at same
      rw [show v = .str text from same] at kind
      cases kind
  | some msg =>
    cases v with
    | int | object => cases kind
    | str msg =>
      cases given with
      | none =>
        cases same
        exact redact_secretFree _
      | some args =>
        cases known : truthy (some args) with
        | false =>
          rw [filter_falsy known] at same
          cases same
          exact redact_secretFree _
        | true =>
          cases outcome : rendered objects msg (redact_args args) with
          | ok other =>
            rw [filter_rendered known outcome] at same
            cases same
            exact redact_secretFree _
          | error e => exact absurd ⟨msg,args,rfl,rfl,known,e,outcome⟩ caught

section
variable {objects : Objects ω} {args : Arguments ω} {msg text : String} {v : Value ω}

theorem getMessage_truthy (given : truthy (some args) = true) (known : message_text objects v = .ok msg) :
    getMessage objects ⟨v,some args⟩ = percent objects msg args := by
  rw [getMessage,known]
  exact if_pos given

variable {given : Option (Arguments ω)}

theorem getMessage_falsy (falsy : truthy given = false) :
    getMessage objects ⟨v,given⟩ = message_text objects v := by
  cases known : message_text objects v with
  | error e => rw [getMessage,known]; rfl
  | ok msg =>
    rw [getMessage,known]
    cases given with
    | none => rfl
    | some args => exact if_neg (by rw [falsy]; exact Bool.false_ne_true)

theorem percent_redacted {record : LogRecord ω} (steady : Steady objects record) (known : message_text objects record.msg = .ok msg)
    (same : record.args = some args) (given : truthy record.args = true) :
    percent objects msg (redact_args args) = percent objects msg args := by
  rw [redact_args_map fun m whole => steady.dict m (same.trans (congrArg some whole))]
  exact percent_map objects redact_value_int msg args (steady.alike msg args known same given)

theorem filter_keeps_text (steady : Steady objects ⟨.str msg,given⟩)
    (written : getMessage objects ⟨.str msg,given⟩ = .ok text) (free : SecretFree text) :
    getMessage objects (filter objects ⟨.str msg,given⟩).1 = .ok text := by
  cases given with
  | none =>
    cases written
    rw [filter_bare,redact_of_secretFree free]
    rfl
  | some args =>
    cases known : truthy (some args) with
    | false =>
      rw [getMessage_falsy known] at written
      cases written
      rw [filter_falsy known,redact_of_secretFree free,getMessage_falsy known]
      rfl
    | true =>
      rw [getMessage_truthy known rfl,← percent_redacted steady rfl rfl known] at written
      have done : rendered objects msg (redact_args args) = .ok text := by rw [rendered,written]
      rw [filter_rendered known done,redact_of_secretFree free]
      rfl

theorem message_text_object (other : text? v = none) (known : message_text objects v = .ok msg) :
    ∃ chars, objects.str v = .ok chars ∧ msg = String.ofList chars := by
  have same : message_text objects v = (objects.str v).map String.ofList := by
    cases v with
    | str text => cases other
    | int | object => rfl
  cases written : objects.str v with
  | error e =>
    rw [same,written] at known
    cases known
  | ok chars =>
    rw [same,written] at known
    cases known
    exact ⟨chars,rfl,rfl⟩

theorem filter_keeps_object (other : text? v = none) (steady : Steady objects ⟨v,given⟩)
    (written : getMessage objects ⟨v,given⟩ = .ok text) (free : SecretFree text) :
    getMessage objects (filter objects ⟨v,given⟩).1 = .ok text := by
  cases known : message_text objects v with
  | error e =>
    rw [getMessage,known] at written
    cases written
  | ok msg =>
    obtain ⟨chars,same,rfl⟩ := message_text_object other known
    rw [filter_object given other same]
    cases kind : truthy given with
    | false =>
      have left : left_args given = given := by rw [left_args,kind]; rfl
      rw [getMessage_falsy kind,known] at written
      cases written
      rw [left,redact_of_secretFree free,getMessage_falsy kind]
      rfl
    | true =>
      cases given with
      | none => cases kind
      | some args =>
        have left : left_args (some args) = some (redact_args args) := by rw [left_args,kind]; rfl
        have still : truthy (some (redact_args args)) = true := (truthy_redact args).trans kind
        rw [getMessage_truthy kind known,← percent_redacted steady known rfl kind] at written
        rw [left,redact_of_secretFree (steady.format _ other kind known),getMessage_truthy still rfl]
        exact written

end

theorem filter_keeps (record : LogRecord ω) (steady : Steady objects record) {text : String}
    (written : getMessage objects record = .ok text) (free : SecretFree text) :
    getMessage objects (filter objects record).1 = .ok text := by
  obtain ⟨v,given⟩ := record
  cases kind : text? v with
  | none => exact filter_keeps_object kind steady written free
  | some msg =>
    cases v with
    | int | object => cases kind
    | str msg => exact filter_keeps_text steady written free

theorem steady_of_free {record : LogRecord ω} (dict : ∀ m, record.args = some (.mapping m) → m.other = none)
    (free : ∀ args, record.args = some args → ∀ text ∈ strings args, SecretFree text)
    (format : ∀ msg, text? record.msg = none → truthy record.args = true → message_text objects record.msg = .ok msg →
      SecretFree msg) : Steady objects record where
  dict := dict
  format := format
  alike msg args _ same _ := by
    have kept : ∀ v : Value ω, (∀ text, text? v = some text → SecretFree text) → redact_value v = v := by
      intro v clean
      cases v with
      | str text => exact congrArg Value.str (redact_of_secretFree (clean text rfl))
      | int | object => rfl
    have whole : args.map redact_value = args := by
      have clean := free args same
      cases args with
      | positional values =>
        refine congrArg Arguments.positional ((List.map_congr_left fun v member => ?_).trans (List.map_id values))
        exact kept v fun text known => clean text (List.mem_filterMap.mpr ⟨v,member,known⟩)
      | mapping m =>
        refine congrArg (fun items => Arguments.mapping ⟨items,m.other⟩)
          ((List.map_congr_left fun item member => ?_).trans (List.map_id m.items))
        have value := kept item.2 fun text known => clean text (List.mem_filterMap.mpr ⟨item,member,known⟩)
        exact congrArg (Prod.mk item.1) value
    have listed := Arguments.actions_map redact_value_int msg args
    rw [whole] at listed
    have unchanged : (args.actions msg).1.map (Action.map redact_value) = (args.actions msg).1.map id := by
      rw [List.map_id]
      exact (congrArg Prod.fst listed).symm
    intro action member
    rw [List.map_inj_left.mp unchanged action member,id]

/-- What the filter leaves of a record: no argument that is a string holds a secret; neither does
    the message, unless its rendering raises what is not caught; and a rendering without a secret is
    kept, if the conversions write the redacted arguments as they write the arguments themselves. -/
theorem filter_redacts (record : LogRecord ω) :
    (∀ args, (filter objects record).1.args = some args → ∀ text ∈ strings args, SecretFree text) ∧
      (¬ Escapes objects record → ∀ text, (filter objects record).1.msg = .str text → SecretFree text) ∧
      (Steady objects record → ∀ text, getMessage objects record = .ok text → SecretFree text →
        getMessage objects (filter objects record).1 = .ok text) :=
  ⟨fun _ left => filter_args_free objects record left,fun caught _ same => filter_msg_free objects caught same,
    fun steady _ written free => filter_keeps objects record steady written free⟩

end

def shown (quote : List Char) : Value Empty → List Char
  | .str text => quote ++ text.toList ++ quote
  | .int n => (toString n).toList
  | .object o => o.elim

/-- Objects that are none, and strings in plain quotes. -/
def no_objects : Objects Empty where
  str v := .ok (shown [] v)
  repr v := .ok (shown ['\''] v)
  ascii v := .ok (shown ['\''] v)
  number _ v := .ok (shown [] v)

/-- `logger.info("password=hunter2 %(missing)s", {"user": "ann"})`. -/
def missing_key : LogRecord Empty :=
  ⟨.str "password=hunter2 %(missing)s",some (.mapping ⟨[(.str "user",.str "ann")],none⟩)⟩

/-- `logger.info("%.3s", "Bearer abc")`. -/
def cut_secret : LogRecord Empty := ⟨.str "%.3s",some (.positional [.str "Bearer abc"])⟩

/-- `logger.info("got %s", "seven")`. -/
def plain_record : LogRecord Empty := ⟨.str "got %s",some (.positional [.str "seven"])⟩

theorem free_of_kept {text : String} (kept : redact_text text = text) : SecretFree text := kept ▸ redact_secretFree text

theorem plain_record_kept : getMessage no_objects (filter no_objects plain_record).1 = .ok "got seven" := by
  have steady : Steady no_objects plain_record := by
    refine steady_of_free no_objects (fun m same => by cases same) (fun args same text member => ?_) fun msg same => by cases same
    cases same
    rw [List.mem_singleton.mp member]
    exact free_of_kept rfl
  exact (filter_redacts no_objects plain_record).2.2 steady "got seven" rfl (free_of_kept rfl)

/-- A message keeps its secret where a key is missing, and a rendering without a secret changes
    where only the front of an argument is written. -/
theorem records_fail :
    ((filter no_objects missing_key).1.msg = .str "password=hunter2 %(missing)s" ∧
        ¬ SecretFree "password=hunter2 %(missing)s") ∧
      (getMessage no_objects cut_secret = .ok "Bea" ∧ SecretFree "Bea" ∧
        getMessage no_objects (filter no_objects cut_secret).1 = .ok "***") := by
  refine ⟨⟨rfl,fun free => ?_⟩,rfl,?_,?_⟩
  · have found : (RedactionPattern.keyed "password").search "password=hunter2 %(missing)s".toList =
        some (("password=".toList.map fun c => [c]) ++ ["hunter2".toList]," %(missing)s".toList) := by rfl
    have member : RedactionPattern.keyed "password" ∈ REDACTION_PATTERNS := by simp [REDACTION_PATTERNS,kv_pattern]
    have redacted : some "hunter2".toList = some REDACTION_PLACEHOLDER.toList :=
      free _ member _ _ _ (List.suffix_refl _) found
    revert redacted
    decide
  · exact free_of_kept rfl
  · rfl

end Automation.RedactionFilter
