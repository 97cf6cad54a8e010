import ConsumerEngine.Core.Records
import ConsumerEngine.Query.Validation

/-! The DSL on the wire: a segment query as a JSON document, read and written.

The names are in camel case; what is absent from a document is told from what is null only where the
source does. A query inside a set operation is read from what was set aside for its tag.
-/

set_option autoImplicit false

namespace ConsumerEngine.Query

open ConsumerEngine.Core ConsumerEngine.Foundation

/-! ### Names -/

def SetOpKind.wire : SetOpKind → String
  | .intersect => "intersect"
  | .union => "union"
  | .minus => "minus"

def SetOpKind.all : List SetOpKind := [.intersect, .union, .minus]

def Cmp.wire : Cmp → String
  | .eq => "eq"
  | .ne => "ne"
  | .lt => "lt"
  | .le => "le"
  | .gt => "gt"
  | .ge => "ge"
  | .isIn => "in"
  | .notIn => "notIn"
  | .like => "like"
  | .notLike => "notLike"

def Cmp.all : List Cmp := [.eq, .ne, .lt, .le, .gt, .ge, .isIn, .notIn, .like, .notLike]

/-- The `kind` of an operation. -/
inductive OpKind where
  | filter | recency | lapsed | setOp | exclude | feature | derive | similar | characterize
  deriving DecidableEq

def OpKind.wire : OpKind → String
  | .filter => "filter"
  | .recency => "recency"
  | .lapsed => "lapsed"
  | .setOp => "setOp"
  | .exclude => "exclude"
  | .feature => "feature"
  | .derive => "derive"
  | .similar => "similar"
  | .characterize => "characterize"

def OpKind.all : List OpKind :=
  [.filter, .recency, .lapsed, .setOp, .exclude, .feature, .derive, .similar, .characterize]

/-- The `kind` of a metric. -/
inductive MetricKind where
  | count | sum | avg | min | max
  deriving DecidableEq

def MetricKind.wire : MetricKind → String
  | .count => "count"
  | .sum => "sum"
  | .avg => "avg"
  | .min => "min"
  | .max => "max"

def MetricKind.all : List MetricKind := [.count, .sum, .avg, .min, .max]

/-! ### Reading -/

def readDataset (v : Json) : Option Dataset := do
  let slot ← readRecord ["system", "entity"] v
  return ⟨← (slot "system").required readString, ← (slot "entity").required readString⟩

def readPredicate (v : Json) : Option Predicate := do
  let slot ← readRecord ["column", "op", "value"] v
  return ⟨← (slot "column").required readString, ← (slot "op").required (unitVariant Cmp.all Cmp.wire),
    ← (slot "value").required some⟩

/-- The fields of the metrics of a column. -/
def readMeasured (make : Dataset → String → JitMetric) (rest : Json) : Option JitMetric := do
  let slot ← readRecord ["event", "column"] rest
  return make (← (slot "event").required readDataset) (← (slot "column").required readString)

def readMetric (v : Json) : Option JitMetric := do
  let (kind, rest) ← tagged "kind" v
  match ← variant MetricKind.all MetricKind.wire true kind with
  | .count =>
      let slot ← readRecord ["event"] rest
      return .count (← (slot "event").required readDataset)
  | .sum => readMeasured .sum rest
  | .avg => readMeasured .avg rest
  | .min => readMeasured .min rest
  | .max => readMeasured .max rest

/-- The fields of a `Recency` and of a `Lapsed`. -/
def readWindow (make : Dataset → String → String → Nat → Option Predicate → Op) (rest : Json) :
    Option Op := do
  let slot ← readRecord ["event", "userKey", "tsColumn", "withinDays", "predicate"] rest
  return make (← (slot "event").required readDataset) (← (slot "userKey").required readString)
    (← (slot "tsColumn").required readString) (← (slot "withinDays").required readU32)
    (← (slot "predicate").optional readPredicate)

section
variable (segment : Json → Option SegmentQuery)

def readSetOp (rest : Json) : Option Op := do
  let slot ← readRecord ["op", "other"] rest
  return .setOp (← (slot "op").required (unitVariant SetOpKind.all SetOpKind.wire))
    (← (slot "other").required segment)

/-- An operation, the segments in it read by `segment`. A `Similar` has no fields and looks at none. -/
def readOp (buffered : Bool) (v : Json) : Option Op := do
  let (kind, rest) ← tagged "kind" v
  match ← variant OpKind.all OpKind.wire buffered kind with
  | .filter =>
      let slot ← readRecord ["predicate"] rest
      return .filter (← (slot "predicate").required readPredicate)
  | .recency => readWindow .recency rest
  | .lapsed => readWindow .lapsed rest
  | .setOp => readSetOp segment rest
  | .exclude =>
      let slot ← readRecord ["campaignId"] rest
      return .exclude (← (slot "campaignId").required readString)
  | .feature =>
      let slot ← readRecord ["name", "op", "value"] rest
      return .feature (← (slot "name").required readString)
        (← (slot "op").required (unitVariant Cmp.all Cmp.wire)) (← (slot "value").required readF64)
  | .derive =>
      let slot ← readRecord ["name", "metric"] rest
      return .derive (← (slot "name").required readString) (← (slot "metric").required readMetric)
  | .similar => return .similar
  | .characterize =>
      let slot ← readRecord ["event", "tsColumn", "monetaryColumn", "categoryColumn"] rest
      return .characterize (← (slot "event").required readDataset)
        (← (slot "tsColumn").required readString) (← (slot "monetaryColumn").required readString)
        (← (slot "categoryColumn").required readString)

end

/-- A segment, its operations read by `op`. -/
def readSegment (op : Json → Option Op) (v : Json) : Option SegmentQuery := do
  let slot ← readRecord ["source", "key", "ops", "asOf"] v
  return ⟨← (slot "source").required readDataset, ← (slot "key").required readString,
    ← (slot "ops").required (readVec op), ← (slot "asOf").defaulted readString⟩

/-- A segment that is at most so many documents deep. -/
def segmentWithin : Nat → Bool → Json → Option SegmentQuery
  | 0, _, _ => none
  | depth + 1, buffered, v => readSegment (readOp (segmentWithin depth true) buffered) v

/-- `serde_json::from_value` of a segment query. -/
def fromValue (v : Json) : Option SegmentQuery := segmentWithin (v.height + 1) false v

/-- `parse`; `complaint` is what the deserialiser says of a document it does not take. -/
def SegmentQuery.parse (complaint : Json → String) (isRfc3339 : String → Bool) (v : Json) :
    Except QueryError SegmentQuery :=
  match fromValue v with
  | none => .error (invalid (complaint v))
  | some q => do
      validate isRfc3339 q
      return q

/-! ### Writing -/

def datasetDocument (d : Dataset) : Json :=
  .object [("system", .string d.system), ("entity", .string d.entity)]

def predicateDocument (p : Predicate) : Json :=
  .object [("column", .string p.column), ("op", .string p.op.wire), ("value", p.value)]

def measuredDocument (kind : String) (event : Dataset) (column : String) : Json :=
  .object [("kind", .string kind), ("event", datasetDocument event), ("column", .string column)]

def metricDocument : JitMetric → Json
  | .count event => .object [("kind", .string "count"), ("event", datasetDocument event)]
  | .sum event column => measuredDocument "sum" event column
  | .avg event column => measuredDocument "avg" event column
  | .min event column => measuredDocument "min" event column
  | .max event column => measuredDocument "max" event column

/-- A window; a predicate that is not there is written as null. -/
def windowDocument (kind : String) (event : Dataset) (userKey tsColumn : String) (withinDays : Nat)
    (predicate : Option Predicate) : Json :=
  .object [("kind", .string kind), ("event", datasetDocument event), ("userKey", .string userKey),
    ("tsColumn", .string tsColumn), ("withinDays", .number (.posInt (UInt64.ofNat withinDays))),
    ("predicate", (predicate.map predicateDocument).getD .null)]

mutual

/-- A segment as it is serialised; a cut-off that is not there is left out. -/
def segmentDocument (q : SegmentQuery) : Json :=
  match q with
  | ⟨source, key, ops, asOf⟩ =>
      .object ([("source", datasetDocument source), ("key", .string key),
        ("ops", .array (opDocuments ops))] ++ (asOf.map fun ts => ("asOf", Json.string ts)).toList)
termination_by structural q

def opDocuments (ops : List Op) : List Json :=
  match ops with
  | [] => []
  | op :: rest => opDocument op :: opDocuments rest
termination_by structural ops

def opDocument (op : Op) : Json :=
  match op with
  | .filter predicate =>
      .object [("kind", .string "filter"), ("predicate", predicateDocument predicate)]
  | .recency event userKey tsColumn withinDays predicate =>
      windowDocument "recency" event userKey tsColumn withinDays predicate
  | .lapsed event userKey tsColumn withinDays predicate =>
      windowDocument "lapsed" event userKey tsColumn withinDays predicate
  | .setOp kind other =>
      .object [("kind", .string "setOp"), ("op", .string kind.wire), ("other", segmentDocument other)]
  | .exclude campaignId =>
      .object [("kind", .string "exclude"), ("campaignId", .string campaignId)]
  | .feature name op value =>
      .object [("kind", .string "feature"), ("name", .string name), ("op", .string op.wire),
        ("value", .number (.float value))]
  | .derive name metric =>
      .object [("kind", .string "derive"), ("name", .string name), ("metric", metricDocument metric)]
  | .similar => .object [("kind", .string "similar")]
  | .characterize event tsColumn monetaryColumn categoryColumn =>
      .object [("kind", .string "characterize"), ("event", datasetDocument event),
        ("tsColumn", .string tsColumn), ("monetaryColumn", .string monetaryColumn),
        ("categoryColumn", .string categoryColumn)]
termination_by structural op

end

/-- `serde_json::from_value` of a list of operations. -/
def opsFromValue (v : Json) : Option (List Op) :=
  readVec (readOp (segmentWithin v.height true) false) v

/-! ### The depth that is enough -/

section
variable {first second : Json → Option SegmentQuery} {v : Json}

theorem readSetOp_congr (alike : ∀ inner : Json, inner.height < v.height → first inner = second inner) :
    readSetOp first v = readSetOp second v := by
  unfold readSetOp
  cases found : readRecord ["op", "other"] v with
  | none => rfl
  | some slot =>
    have same : (slot "other").required first = (slot "other").required second :=
      Slot.required_congr found alike "other"
    simp only [Option.bind_eq_bind, Option.bind_some, same]

/-- An operation depends on the segments inside its document alone. -/
theorem readOp_congr (alike : ∀ inner : Json, inner.height < v.height → first inner = second inner)
    (buffered : Bool) : readOp first buffered v = readOp second buffered v := by
  unfold readOp
  cases found : tagged "kind" v with
  | none => rfl
  | some parts =>
    obtain ⟨kind, rest⟩ := parts
    simp only [Option.bind_eq_bind, Option.bind_some]
    cases named : variant OpKind.all OpKind.wire buffered kind with
    | none => rfl
    | some one =>
      cases one with
      | setOp => exact readSetOp_congr fun inner small => alike inner (small.trans_le (height_rest found))
      | _ => rfl

theorem readSegment_congr {first second : Json → Option Op}
    (alike : ∀ inner : Json, inner.height < v.height → first inner = second inner) :
    readSegment first v = readSegment second v := by
  unfold readSegment
  cases found : readRecord ["source", "key", "ops", "asOf"] v with
  | none => rfl
  | some slot =>
    have same : (slot "ops").required (readVec first) = (slot "ops").required (readVec second) :=
      Slot.required_congr found (fun inner small => readVec_congr fun item smaller =>
        alike item (smaller.trans small)) "ops"
    simp only [Option.bind_eq_bind, Option.bind_some, same]

/-- A document is read alike within any depth beyond its own. -/
theorem segmentWithin_enough {few many : Nat} (buffered : Bool) (v : Json) (deep : v.height < few)
    (deeper : v.height < many) : segmentWithin few buffered v = segmentWithin many buffered v := by
  induction few generalizing many buffered v with
  | zero => cases deep
  | succ few ih =>
    cases many with
    | zero => cases deeper
    | succ many =>
      -- each segment inside takes one of the depth, and is shallower than its document by one
      refine readSegment_congr fun op inside => readOp_congr (fun inner within => ?_) buffered
      have below : inner.height < v.height := within.trans inside
      apply ih true inner <;> omega

end

/-! ### Reading what was written -/

theorem unitVariant_setOp (kind : SetOpKind) :
    unitVariant SetOpKind.all SetOpKind.wire (.string kind.wire) = some kind := by
  cases kind <;> rfl

theorem readPredicate_document (p : Predicate) : readPredicate (predicateDocument p) = some p := by
  obtain ⟨column, op, value⟩ := p
  cases op <;> rfl

theorem readMetric_document (metric : JitMetric) : readMetric (metricDocument metric) = some metric := by
  cases metric <;> rfl

theorem optional_document (predicate : Option Predicate) :
    Slot.optional readPredicate (.present ((predicate.map predicateDocument).getD .null)) = some predicate := by
  cases predicate with
  | none => rfl
  | some p => exact congrArg (Option.map some) (readPredicate_document p)

theorem readU32_document {n : Nat} (small : n < 2 ^ 32) :
    readU32 (.number (.posInt (UInt64.ofNat n))) = some n := by
  have same : (UInt64.ofNat n).toNat = n := UInt64.toNat_ofNat_of_lt' (by
    change n < 2 ^ 64
    omega)
  rw [readU32, same, if_pos small]

theorem opDocuments_eq (ops : List Op) : opDocuments ops = ops.map opDocument := by
  induction ops with
  | nil => rfl
  | cons op rest ih => rw [opDocuments, ih, List.map_cons]

/-- The windows of an operation fit the type of the source. -/
def Op.InRange : Op → Prop
  | .recency _ _ _ withinDays _ | .lapsed _ _ _ withinDays _ => withinDays < 2 ^ 32
  | _ => True

/-- The fields of a window, its kind taken out. -/
theorem readWindow_document (make : Dataset → String → String → Nat → Option Predicate → Op)
    (event : Dataset) (userKey tsColumn : String) {withinDays : Nat} (small : withinDays < 2 ^ 32)
    (predicate : Option Predicate) :
    readWindow make (.object [("event", datasetDocument event), ("userKey", .string userKey),
      ("tsColumn", .string tsColumn), ("withinDays", .number (.posInt (UInt64.ofNat withinDays))),
      ("predicate", (predicate.map predicateDocument).getD .null)]) =
        some (make event userKey tsColumn withinDays predicate) := by
  change ((readU32 (.number (.posInt (UInt64.ofNat withinDays)))).bind fun days =>
    (Slot.optional readPredicate (.present ((predicate.map predicateDocument).getD .null))).bind fun found =>
      some (make event userKey tsColumn days found)) = _
  rw [readU32_document small, Option.bind_some, optional_document, Option.bind_some]

section
variable {segment : Json → Option SegmentQuery}

/-- An operation is read back when the segment in it is. -/
theorem readOp_document (buffered : Bool) {op : Op} (inRange : op.InRange)
    (inner : ∀ kind other, op = .setOp kind other → segment (segmentDocument other) = some other) :
    readOp segment buffered (opDocument op) = some op := by
  cases op with
  | filter predicate =>
    change ((readPredicate (predicateDocument predicate)).bind fun found => some (Op.filter found)) = _
    rw [readPredicate_document, Option.bind_some]
  | recency event userKey tsColumn withinDays predicate =>
    exact readWindow_document .recency event userKey tsColumn inRange predicate
  | lapsed event userKey tsColumn withinDays predicate =>
    exact readWindow_document .lapsed event userKey tsColumn inRange predicate
  | setOp kind other =>
    change ((unitVariant SetOpKind.all SetOpKind.wire (.string kind.wire)).bind fun named =>
      (segment (segmentDocument other)).bind fun found => some (Op.setOp named found)) = _
    rw [unitVariant_setOp, Option.bind_some, inner kind other rfl, Option.bind_some]
  | exclude campaignId => rfl
  | feature name op value => cases op <;> rfl
  | derive name metric =>
    change ((readMetric (metricDocument metric)).bind fun found => some (Op.derive name found)) = _
    rw [readMetric_document, Option.bind_some]
  | similar => rfl
  | characterize event tsColumn monetaryColumn categoryColumn => rfl

end

theorem readVec_documents {read : Json → Option Op} {ops : List Op}
    (each : ∀ op ∈ ops, read (opDocument op) = some op) :
    readVec read (.array (opDocuments ops)) = some ops := by
  rw [readVec, opDocuments_eq]
  induction ops with
  | nil => rfl
  | cons op rest ih =>
    rw [List.map_cons, List.mapM_cons, each op List.mem_cons_self,
      ih fun other member => each other (List.mem_cons_of_mem _ member)]
    rfl

theorem readSegment_document {read : Json → Option Op} {q : SegmentQuery}
    (each : ∀ op ∈ q.ops, read (opDocument op) = some op) :
    readSegment read (segmentDocument q) = some q := by
  obtain ⟨source, key, ops, asOf⟩ := q
  have items := readVec_documents each
  cases asOf with
  | none =>
    change ((readVec read (.array (opDocuments ops))).bind fun found =>
      some (SegmentQuery.mk source key found none)) = _
    rw [items, Option.bind_some]
  | some ts =>
    change ((readVec read (.array (opDocuments ops))).bind fun found =>
      some (SegmentQuery.mk source key found (some ts))) = _
    rw [items, Option.bind_some]

/-- A segment inside another is written inside its document. -/
theorem height_other {q other : SegmentQuery} {kind : SetOpKind} (member : Op.setOp kind other ∈ q.ops) :
    (segmentDocument other).height < itemsHeight (opDocuments q.ops) ∧
      itemsHeight (opDocuments q.ops) < (segmentDocument q).height := by
  obtain ⟨source, key, ops, asOf⟩ := q
  constructor
  · have written : opDocument (.setOp kind other) ∈ opDocuments ops := by
      rw [opDocuments_eq]
      exact List.mem_map_of_mem member
    have inside : (segmentDocument other).height < (opDocument (.setOp kind other)).height := by
      rw [opDocument, Json.height]
      apply Nat.lt_succ_of_le
      exact @height_field _ ("other", segmentDocument other)
        (List.mem_cons_of_mem _ (List.mem_cons_of_mem _ List.mem_cons_self))
    exact inside.trans_le (height_item written)
  · have held : (Json.array (opDocuments ops)).height < (segmentDocument ⟨source, key, ops, asOf⟩).height := by
      rw [segmentDocument, Json.height, Json.height]
      apply Nat.lt_succ_of_le
      exact @height_field _ ("ops", Json.array (opDocuments ops))
        (List.mem_append_left _ (List.mem_cons_of_mem _ (List.mem_cons_of_mem _ List.mem_cons_self)))
    rw [Json.height] at held
    exact (Nat.lt_succ_self _).trans held

section
variable {isRfc3339 : String → Bool} {q : SegmentQuery}

theorem inRange_of_valid {op : Op} (valid : validateOp isRfc3339 op = .ok ()) : op.InRange := by
  have bounded {event : Dataset} {userKey tsColumn : String} {withinDays : Nat}
      {predicate : Option Predicate}
      (valid : validateWindow event userKey tsColumn withinDays predicate = .ok ()) :
      withinDays < 2 ^ 32 := by
    obtain ⟨⟨⟩, -, rest⟩ := except_bind_eq_ok.mp valid
    obtain ⟨⟨⟩, -, rest⟩ := except_bind_eq_ok.mp rest
    obtain ⟨⟨⟩, -, rest⟩ := except_bind_eq_ok.mp rest
    by_contra large
    have beyond : (decide (withinDays = 0) || decide (maxWithinDays < withinDays)) = true := by
      rw [Bool.or_eq_true, decide_eq_true_eq, decide_eq_true_eq, maxWithinDays]
      omega
    rw [if_pos beyond] at rest
    cases rest
  cases op with
  | recency event userKey tsColumn withinDays predicate =>
    rw [validateOp] at valid
    exact bounded valid
  | lapsed event userKey tsColumn withinDays predicate =>
    rw [validateOp] at valid
    exact bounded valid
  | _ => trivial

/-- An accepted segment is read back from its document, however it was nested before. -/
theorem segmentWithin_document (valid : validate isRfc3339 q = .ok ()) {depth : Nat}
    (deep : (segmentDocument q).height < depth) (buffered : Bool) :
    segmentWithin depth buffered (segmentDocument q) = some q := by
  induction q using SegmentQuery.nested generalizing depth buffered with
  | step q ih =>
    cases depth with
    | zero => cases deep
    | succ depth =>
      -- below the outermost level every tag was set aside, so the index of a variant would do too
      refine readSegment_document fun op member => readOp_document buffered
        (inRange_of_valid ((validate_ok valid).ops op member)) ?_
      rintro kind other rfl
      have accepted := (validate_ok valid).ops _ member
      rw [validateOp] at accepted
      have inside := height_other member
      exact ih kind other member accepted (by omega) true

end

/-! ### Round trips -/

/-- What a query is written as is accepted, and is that query; its operations, which a snapshot keeps
as the reason of its rows, are read back too, and no other accepted query has them written alike. -/
structure RoundTrips (complaint : Json → String) (isRfc3339 : String → Bool) (q : SegmentQuery) :
    Prop where
  segment : SegmentQuery.parse complaint isRfc3339 (segmentDocument q) = .ok q
  operations : opsFromValue (.array (opDocuments q.ops)) = some q.ops
  apart : ∀ v other, SegmentQuery.parse complaint isRfc3339 v = .ok other →
    opDocuments other.ops = opDocuments q.ops → other.ops = q.ops

section
variable {complaint : Json → String} {isRfc3339 : String → Bool} {v : Json} {q : SegmentQuery}

theorem parse_eq_ok : SegmentQuery.parse complaint isRfc3339 v = .ok q ↔
    fromValue v = some q ∧ validate isRfc3339 q = .ok () := by
  unfold SegmentQuery.parse
  cases fromValue v with
  | none => simp
  | some found =>
    dsimp only
    constructor
    · intro accepted
      obtain ⟨⟨⟩, valid, same⟩ := except_bind_eq_ok.mp accepted
      obtain rfl := Except.ok.inj same
      exact ⟨rfl, valid⟩
    · rintro ⟨same, valid⟩
      obtain rfl := Option.some.inj same
      exact except_bind_eq_ok.mpr ⟨(), valid, rfl⟩

theorem opsFromValue_documents (valid : validate isRfc3339 q = .ok ()) :
    opsFromValue (.array (opDocuments q.ops)) = some q.ops := by
  apply readVec_documents
  intro op member
  apply readOp_document false (inRange_of_valid ((validate_ok valid).ops op member))
  rintro kind other rfl
  have accepted := (validate_ok valid).ops _ member
  rw [validateOp] at accepted
  refine segmentWithin_document accepted ?_ true
  rw [Json.height]
  exact Nat.lt_succ_of_lt (height_other member).1

/-- Whatever document a query was accepted from, it is accepted from its own. -/
theorem accepted_round_trips (accepted : SegmentQuery.parse complaint isRfc3339 v = .ok q) :
    RoundTrips complaint isRfc3339 q := by
  obtain ⟨-, valid⟩ := parse_eq_ok.mp accepted
  refine ⟨parse_eq_ok.mpr ⟨?_, valid⟩, opsFromValue_documents valid, fun w other taken alike => ?_⟩
  · exact segmentWithin_document valid (Nat.lt_succ_self _) false
  · have own := opsFromValue_documents (parse_eq_ok.mp taken).2
    rw [alike, opsFromValue_documents valid] at own
    exact (Option.some.inj own).symm

end

/-- Users who paid, by position in arrays and by name, and not those of another segment. -/
def paidDocument : Json :=
  .object [("key", .string "user_id"),
    ("ops", .array [
      .array [.string "filter", .array [.string "status", .string "eq", .string "paid"]],
      .object [("kind", .string "setOp"), ("op", .string "minus"),
        ("other", .array [.array [.string "erp", .string "orders"], .string "user_id", .array []])]]),
    ("source", .object [("entity", .string "orders"), ("system", .string "erp")])]

/-- The segment that the document spells. -/
def paidSegment : SegmentQuery :=
  ⟨⟨"erp", "orders"⟩, "user_id", [.filter ⟨"status", .eq, .string "paid"⟩,
    .setOp .minus ⟨⟨"erp", "orders"⟩, "user_id", [], none⟩], none⟩

/-- A field that the query does not have is refused, not dropped. -/
example : fromValue (.object [("key", .string "user_id"), ("limit", .null), ("ops", .array []),
    ("source", .array [.string "erp", .string "orders"])]) = none := rfl

theorem accepted_round_trips_paidSegment :
    RoundTrips (fun _ => "") (fun _ => true) paidSegment :=
  accepted_round_trips (show SegmentQuery.parse _ _ paidDocument = .ok paidSegment from rfl)

end ConsumerEngine.Query
