import ConsumerEngine.Foundation.Effect
import ConsumerEngine.Query.Ast

/-! Structural validation of a segment query. -/

set_option autoImplicit false

namespace ConsumerEngine.Query

open ConsumerEngine.Core ConsumerEngine.Foundation

/-- `MAX_OPS`. -/
def maxOps : Nat := 32

/-- `MAX_PRED_VALUE_BYTES`. -/
def maxPredValueBytes : Nat := 4096

/-- `MAX_IN_VALUES`. -/
def maxInValues : Nat := 1024

/-- `MAX_WITHIN_DAYS`. -/
def maxWithinDays : Nat := 3650

def invalid (message : String) : QueryError := .invalidDsl message

/-- `Display` of an engine error. -/
def display : Error → String
  | .storage source => "storage failure: " ++ source
  | .execution source => "execution failure: " ++ source
  | .ingestion source => "ingestion failure: " ++ source
  | .writerAlreadyHeld => "writer already held: a single IngestionActor owns the catalog"
  | .invalidInput message => "invalid input: " ++ message
  | .catalogueUnavailable => "semantic catalogue unavailable"
  | .panicked message => message

/-- An engine error as an invalid DSL, with a label in front. -/
def relabel {α : Type} (label : String) : Except Error α → Except QueryError α
  | .ok value => .ok value
  | .error failure => .error (invalid (label ++ display failure))

theorem relabel_eq_ok {α : Type} {label : String} {check : Except Error α} {a : α} :
    relabel label check = .ok a ↔ check = .ok a := by
  cases check <;> simp only [relabel, reduceCtorEq, Except.ok.injEq]

def validateIdentField (name kind : String) : Except QueryError Unit :=
  relabel (kind ++ ": ") (validateIdent name)

def validateDataset (d : Dataset) : Except QueryError Unit := do
  validateIdentField d.system "event.system"
  validateIdentField d.entity "event.entity"

/-- A value that is not itself an array: `validate_value` under `Cmp::Eq`. -/
def validateItem : Json → Except QueryError Unit
  | .string s =>
      if maxPredValueBytes < s.utf8ByteSize then
        .error (invalid ("predicate value exceeds " ++ toString maxPredValueBytes ++ " bytes"))
      else .ok ()
  | .array _ => .error (invalid "array value requires op 'in' or 'notIn'")
  | _ => .ok ()

/-- `validate_value`: the items of an array are checked as under `Cmp::Eq`. -/
def validateValue (v : Json) (op : Cmp) : Except QueryError Unit :=
  match v with
  | .array items =>
      if !(op == .isIn || op == .notIn) then
        .error (invalid "array value requires op 'in' or 'notIn'")
      else if maxInValues < items.length then
        .error (invalid ("IN list exceeds " ++ toString maxInValues ++ " values"))
      else items.forM validateItem
  | other => validateItem other

def validatePredicate (p : Predicate) : Except QueryError Unit := do
  validateIdentField p.column "predicate.column"
  validateValue p.value p.op

/-- The checks of a `Recency` and of a `Lapsed`. -/
def validateWindow (event : Dataset) (userKey tsColumn : String) (withinDays : Nat)
    (predicate : Option Predicate) : Except QueryError Unit := do
  validateDataset event
  validateIdentField userKey "userKey"
  validateIdentField tsColumn "tsColumn"
  if withinDays = 0 || maxWithinDays < withinDays then
    throw (invalid ("withinDays must be in 1..=" ++ toString maxWithinDays))
  match predicate with
  | some p => validatePredicate p
  | none => return ()

/-- The comparison operators of a feature. -/
def isNumericCmp (op : Cmp) : Bool := [Cmp.eq, .ne, .lt, .le, .gt, .ge].contains op

def validateFeature (name : String) (op : Cmp) : Except QueryError Unit := do
  let _ ← relabel "feature name: " (splitFeatureName name)
  if !isNumericCmp op then
    throw (invalid "feature op must be one of eq/ne/lt/le/gt/ge (no in/like)")

/-- The event relation a metric reads. -/
def metricEvent : JitMetric → Dataset
  | .count event | .sum event _ | .avg event _ | .min event _ | .max event _ => event

def metricColumn : JitMetric → Option String
  | .count _ => none
  | .sum _ column | .avg _ column | .min _ column | .max _ column => some column

def validateDerive (name : String) (metric : JitMetric) : Except QueryError Unit := do
  validateIdentField name "derive.name"
  validateDataset (metricEvent metric)
  match metricColumn metric with
  | some column => validateIdentField column "derive.metric.column"
  | none => return ()

def validateCharacterize (event : Dataset) (tsColumn monetaryColumn categoryColumn : String) :
    Except QueryError Unit := do
  validateDataset event
  validateIdentField tsColumn "characterize.tsColumn"
  validateIdentField monetaryColumn "characterize.monetaryColumn"
  validateIdentField categoryColumn "characterize.categoryColumn"

/-- `validate_positions`, from one operation on. -/
def validatePositions (narrowingSeen : Bool) : List Op → Except QueryError Unit
  | [] => .ok ()
  | op :: rest =>
      match op with
      | .filter _ | .recency .. | .lapsed .. | .feature .. | .exclude _ =>
          validatePositions true rest
      | .setOp .. =>
          if rest.isEmpty then validatePositions narrowingSeen rest
          else .error (invalid "no op may follow a SetOp")
      | .derive .. | .characterize .. =>
          if !narrowingSeen then
            .error (invalid "Derive must follow B/F narrowing (filter/lapsed/recency/feature)")
          else if rest.isEmpty then .ok ()
          else .error (invalid "Derive must be the final op of the segment")
      | .similar => .error (invalid "Similar is not supported yet")

section
variable (isRfc3339 : String → Bool)

mutual

/-- `validate`. `isRfc3339` is chrono's parser. -/
def validate (q : SegmentQuery) : Except QueryError Unit :=
  match q with
  | ⟨source, key, ops, asOf⟩ => do
      validateIdentField source.system "source.system"
      validateIdentField source.entity "source.entity"
      validateIdentField key "key"
      match asOf with
      | some ts =>
          if !isRfc3339 ts then
            throw (invalid ("asOf must be an ISO-8601 timestamp, got " ++ debugQuoted ts))
      | none => pure ()
      if maxOps < ops.length then
        throw (invalid ("ops exceed cap of " ++ toString maxOps))
      validateOps ops
      validatePositions false ops
termination_by structural q

def validateOps (ops : List Op) : Except QueryError Unit :=
  match ops with
  | [] => .ok ()
  | op :: rest => do
      validateOp op
      validateOps rest
termination_by structural ops

/-- `validate_op`. -/
def validateOp (op : Op) : Except QueryError Unit :=
  match op with
  | .filter predicate => validatePredicate predicate
  | .recency event userKey tsColumn withinDays predicate
  | .lapsed event userKey tsColumn withinDays predicate =>
      validateWindow event userKey tsColumn withinDays predicate
  | .setOp _ other => validate other
  | .exclude campaignId => validateIdentField campaignId "exclude.campaignId"
  | .feature name op _ => validateFeature name op
  | .derive name metric => validateDerive name metric
  | .characterize event tsColumn monetaryColumn categoryColumn =>
      validateCharacterize event tsColumn monetaryColumn categoryColumn
  | .similar => .error (invalid "Similar is not supported yet")
termination_by structural op

end

end

theorem validateIdentField_eq_ok {name kind : String} :
    validateIdentField name kind = .ok () ↔ isIdent name = true := by
  rw [validateIdentField, relabel_eq_ok, validateIdent_eq_ok]

/-- Both parts of a dataset's name are identifiers. -/
def NamedDataset (d : Dataset) : Prop := isIdent d.system = true ∧ isIdent d.entity = true

theorem validateDataset_ok {d : Dataset} (valid : validateDataset d = .ok ()) : NamedDataset d := by
  obtain ⟨⟨⟩, system, entity⟩ := except_bind_eq_ok.mp valid
  exact ⟨validateIdentField_eq_ok.mp system, validateIdentField_eq_ok.mp entity⟩

theorem validatePredicate_ok {p : Predicate} (valid : validatePredicate p = .ok ()) :
    isIdent p.column = true := by
  obtain ⟨⟨⟩, column, -⟩ := except_bind_eq_ok.mp valid
  exact validateIdentField_eq_ok.mp column

/-- What the checks of an event window say of its names. -/
structure NamedWindow (event : Dataset) (userKey tsColumn : String) (predicate : Option Predicate) :
    Prop where
  event : NamedDataset event
  userKey : isIdent userKey = true
  tsColumn : isIdent tsColumn = true
  predicate : ∀ p ∈ predicate, isIdent p.column = true

theorem validateWindow_ok {event : Dataset} {userKey tsColumn : String} {withinDays : Nat}
    {predicate : Option Predicate}
    (valid : validateWindow event userKey tsColumn withinDays predicate = .ok ()) :
    NamedWindow event userKey tsColumn predicate := by
  obtain ⟨⟨⟩, named, rest⟩ := except_bind_eq_ok.mp valid
  obtain ⟨⟨⟩, user, rest⟩ := except_bind_eq_ok.mp rest
  obtain ⟨⟨⟩, ts, rest⟩ := except_bind_eq_ok.mp rest
  refine ⟨validateDataset_ok named, validateIdentField_eq_ok.mp user,
    validateIdentField_eq_ok.mp ts, ?_⟩
  rintro p present
  obtain rfl : predicate = some p := present
  dsimp only at rest
  split at rest
  · cases rest
  · exact validatePredicate_ok rest

theorem validateFeature_ok {name : String} {op : Cmp} (valid : validateFeature name op = .ok ()) :
    ∃ family short, splitFeatureName name = .ok (family, short) := by
  obtain ⟨⟨family, short⟩, split, -⟩ := except_bind_eq_ok.mp valid
  exact ⟨family, short, relabel_eq_ok.mp split⟩

theorem validateDerive_ok {name : String} {metric : JitMetric}
    (valid : validateDerive name metric = .ok ()) :
    NamedDataset (metricEvent metric) ∧ ∀ column ∈ metricColumn metric, isIdent column = true := by
  obtain ⟨⟨⟩, -, rest⟩ := except_bind_eq_ok.mp valid
  obtain ⟨⟨⟩, named, rest⟩ := except_bind_eq_ok.mp rest
  refine ⟨validateDataset_ok named, fun column present => ?_⟩
  rw [Option.mem_def.mp present] at rest
  exact validateIdentField_eq_ok.mp rest

theorem validateCharacterize_ok {event : Dataset} {tsColumn monetaryColumn categoryColumn : String}
    (valid : validateCharacterize event tsColumn monetaryColumn categoryColumn = .ok ()) :
    NamedDataset event ∧ isIdent tsColumn = true ∧ isIdent monetaryColumn = true ∧
      isIdent categoryColumn = true := by
  obtain ⟨⟨⟩, named, rest⟩ := except_bind_eq_ok.mp valid
  obtain ⟨⟨⟩, ts, rest⟩ := except_bind_eq_ok.mp rest
  obtain ⟨⟨⟩, monetary, category⟩ := except_bind_eq_ok.mp rest
  exact ⟨validateDataset_ok named, validateIdentField_eq_ok.mp ts,
    validateIdentField_eq_ok.mp monetary, validateIdentField_eq_ok.mp category⟩

/-- What validation says of a query at one level. -/
structure ValidLevel (isRfc3339 : String → Bool) (q : SegmentQuery) : Prop where
  source : NamedDataset q.source
  key : isIdent q.key = true
  ops : ∀ op ∈ q.ops, validateOp isRfc3339 op = .ok ()
  positions : validatePositions false q.ops = .ok ()

section
variable {isRfc3339 : String → Bool}

theorem validateOps_ok {ops : List Op} :
    validateOps isRfc3339 ops = .ok () ↔ ∀ op ∈ ops, validateOp isRfc3339 op = .ok () := by
  induction ops with
  | nil => simp [validateOps]
  | cons op rest ih =>
    rw [validateOps, List.forall_mem_cons, ← ih, except_bind_eq_ok]
    exact ⟨fun ⟨⟨⟩, here, later⟩ => ⟨here, later⟩, fun ⟨here, later⟩ => ⟨(), here, later⟩⟩

theorem validate_ok {q : SegmentQuery} (valid : validate isRfc3339 q = .ok ()) :
    ValidLevel isRfc3339 q := by
  obtain ⟨source, key, ops, asOf⟩ := q
  rw [validate] at valid
  obtain ⟨⟨⟩, system, rest⟩ := except_bind_eq_ok.mp valid
  obtain ⟨⟨⟩, entity, rest⟩ := except_bind_eq_ok.mp rest
  obtain ⟨⟨⟩, key, rest⟩ := except_bind_eq_ok.mp rest
  have checked : (do validateOps isRfc3339 ops; validatePositions false ops) = .ok () := by
    dsimp only at rest
    cases asOf with
    | none =>
      dsimp only at rest
      split at rest
      · cases rest
      · exact rest
    | some ts =>
      dsimp only at rest
      split at rest
      · cases rest
      · split at rest
        · cases rest
        · exact rest
  obtain ⟨⟨⟩, each, positions⟩ := except_bind_eq_ok.mp checked
  exact ⟨⟨validateIdentField_eq_ok.mp system, validateIdentField_eq_ok.mp entity⟩,
    validateIdentField_eq_ok.mp key, validateOps_ok.mp each, positions⟩

end

end ConsumerEngine.Query
