import ConsumerEngine.Query.StatementAlignment

/-! Which validated queries compile.

Validation bounds the size of a value but leaves its fit to the operator to the compiler, and
does not count how deep set operations nest or what their branches end in.
-/

set_option autoImplicit false

namespace ConsumerEngine.Query

open ConsumerEngine.Core ConsumerEngine.Foundation

/-- An operation that narrows the survivors by one conjunct. -/
def Op.narrows : Op → Bool
  | .filter _ | .recency .. | .lapsed .. | .feature .. | .exclude _ => true
  | .setOp .. | .derive .. | .similar | .characterize .. => false

/-- An operation that must be last and must follow a narrowing one. -/
def Op.terminal : Op → Bool
  | .derive .. | .characterize .. => true
  | _ => false

def Op.combines : Op → Bool
  | .setOp .. => true
  | _ => false

/-- The lists of operations that `validate_positions` accepts. -/
structure Placed (narrowingSeen : Bool) (ops narrowing last : List Op) : Prop where
  split : ops = narrowing ++ last
  narrows : ∀ op ∈ narrowing, op.narrows = true
  last : last = [] ∨ ∃ op, last = [op] ∧
    (op.combines = true ∨ op.terminal = true ∧ (narrowingSeen = true ∨ narrowing ≠ []))

theorem validatePositions_narrows {narrowingSeen : Bool} {op : Op} (rest : List Op)
    (narrows : op.narrows = true) :
    validatePositions narrowingSeen (op :: rest) = validatePositions true rest := by
  cases op <;> first | rfl | contradiction

theorem validatePositions_terminal {narrowingSeen : Bool} {op : Op} {rest : List Op}
    (terminal : op.terminal = true) (valid : validatePositions narrowingSeen (op :: rest) = .ok ()) :
    rest = [] ∧ narrowingSeen = true := by
  cases op with
  | derive | characterize =>
    rw [validatePositions] at valid
    cases narrowingSeen with
    | false => cases valid
    | true =>
      simp only [Bool.not_true, Bool.false_eq_true, ↓reduceIte] at valid
      split at valid
      case isTrue empty => exact ⟨List.isEmpty_iff.mp empty, rfl⟩
      case isFalse => cases valid
  | _ => contradiction

theorem validatePositions_ok {narrowingSeen : Bool} {ops : List Op}
    (valid : validatePositions narrowingSeen ops = .ok ()) :
    ∃ narrowing last, Placed narrowingSeen ops narrowing last := by
  induction ops generalizing narrowingSeen with
  | nil => exact ⟨[], [], rfl, List.forall_mem_nil _, .inl rfl⟩
  | cons op rest ih =>
    cases narrows : op.narrows with
    | true =>
      rw [validatePositions_narrows rest narrows] at valid
      obtain ⟨narrowing, last, placed⟩ := ih valid
      refine ⟨op :: narrowing, last, ?_, List.forall_mem_cons.mpr ⟨narrows, placed.narrows⟩, ?_⟩
      · rw [placed.split, List.cons_append]
      · rcases placed.last with none | ⟨op, same, combines | ⟨terminal, -⟩⟩
        · exact .inl none
        · exact .inr ⟨op, same, .inl combines⟩
        · exact .inr ⟨op, same, .inr ⟨terminal, .inr (List.cons_ne_nil _ _)⟩⟩
    | false =>
      have alone : rest = [] ∧ (op.combines = true ∨ op.terminal = true ∧ narrowingSeen = true) := by
        cases op with
        | setOp =>
          rw [validatePositions] at valid
          split at valid
          case isTrue empty => exact ⟨List.isEmpty_iff.mp empty, .inl rfl⟩
          case isFalse => cases valid
        | derive | characterize =>
          obtain ⟨empty, seen⟩ := validatePositions_terminal rfl valid
          exact ⟨empty, .inr ⟨rfl, seen⟩⟩
        | similar => cases valid
        | _ => contradiction
      obtain ⟨rfl, ends⟩ := alone
      refine ⟨[], [op], rfl, List.forall_mem_nil _, .inr ⟨op, rfl, ?_⟩⟩
      exact ends.imp_right fun ⟨terminal, seen⟩ => ⟨terminal, .inl seen⟩

/-- A value that can be bound. -/
def Scalar : Json → Prop
  | .array _ | .object _ => False
  | _ => True

/-- A list under `in` and `notIn`, a scalar under every other operator. -/
def Predicate.Fits (p : Predicate) : Prop :=
  if p.op = .isIn ∨ p.op = .notIn then ∃ items, p.value = .array items ∧ ∀ item ∈ items, Scalar item
  else Scalar p.value

/-- The values of an operation fit their operators. -/
def Op.Fits : Op → Prop
  | .filter predicate => predicate.Fits
  | .recency _ _ _ _ predicate | .lapsed _ _ _ _ predicate => ∀ p ∈ predicate, p.Fits
  | _ => True

theorem toValue_ok {j : Json} : (∃ value, toValue j = .ok value) ↔ Scalar j := by
  cases j with
  | number n =>
    refine ⟨fun _ => trivial, fun _ => ?_⟩
    have float : ∃ x, n.asF64 = some x := by cases n <;> exact ⟨_, rfl⟩
    obtain ⟨x, floats⟩ := float
    cases integral : n.asI64 with
    | some i => exact ⟨.bigInt i, by simp only [toValue, integral]⟩
    | none => exact ⟨.double x, by simp only [toValue, integral, floats]⟩
  | array | object => exact ⟨fun ⟨_, converted⟩ => (by cases converted), False.elim⟩
  | _ => exact ⟨fun _ => trivial, fun _ => ⟨_, rfl⟩⟩

theorem mapM_toValue_ok {items : List Json} :
    (∃ values, items.mapM toValue = .ok values) ↔ ∀ item ∈ items, Scalar item := by
  induction items with
  | nil => exact ⟨fun _ => List.forall_mem_nil _, fun _ => ⟨[], rfl⟩⟩
  | cons item items ih =>
    rw [List.forall_mem_cons, ← ih, ← toValue_ok]
    simp only [List.mapM_cons, except_bind_eq_ok]
    constructor
    · rintro ⟨_, value, first, values, later, -⟩
      exact ⟨⟨value, first⟩, values, later⟩
    · rintro ⟨⟨value, first⟩, values, later⟩
      exact ⟨_, value, first, values, later, rfl⟩

section
variable {rel key userKey tsColumn catalogAlias tenant : String} {params : List Value}
  {event : Dataset} {withinDays : Nat}

theorem compileIn_ok {col : String} {value : Json} {negate : Bool} :
    (∃ emitted, compileIn col value params negate = .ok emitted) ↔
      ∃ items, value = .array items ∧ ∀ item ∈ items, Scalar item := by
  cases value with
  | array items =>
    simp only [compileIn, asArray, Json.array.injEq, exists_eq_left']
    cases items with
    | nil => exact ⟨fun _ => List.forall_mem_nil _, fun _ => ⟨_, rfl⟩⟩
    | cons item items =>
      simp only [List.isEmpty_cons, Bool.false_eq_true, ↓reduceIte, except_bind_eq_ok]
      rw [← mapM_toValue_ok]
      exact ⟨fun ⟨_, values, converted, _⟩ => ⟨values, converted⟩,
        fun ⟨values, converted⟩ => ⟨_, values, converted, rfl⟩⟩
  | _ => simp only [compileIn, asArray, reduceCtorEq, exists_const, false_and]

theorem compilePredicate_ok {p : Predicate} :
    (∃ emitted, compilePredicate rel p params = .ok emitted) ↔ p.Fits := by
  unfold compilePredicate Predicate.Fits
  cases operator : p.op with
  | isIn | notIn =>
    simp only [binaryCmpSymbol, reduceCtorEq, true_or, or_true, ↓reduceIte]
    exact compileIn_ok
  | _ =>
    simp only [binaryCmpSymbol, reduceCtorEq, or_self, ↓reduceIte, except_bind_eq_ok]
    rw [← toValue_ok]
    exact ⟨fun ⟨_, value, converted, _⟩ => ⟨value, converted⟩,
      fun ⟨value, converted⟩ => ⟨_, value, converted, rfl⟩⟩

theorem compileEvent_ok {predicate : Option Predicate} :
    (∃ gathered, compileEvent userKey key predicate params tenant = .ok gathered) ↔
      ∀ p ∈ predicate, p.Fits := by
  cases predicate with
  | none => exact ⟨fun _ _ member => (by cases member), fun _ => ⟨_, rfl⟩⟩
  | some p =>
    simp only [compileEvent, Option.mem_def, Option.some.injEq, forall_eq', except_bind_eq_ok]
    rw [← @compilePredicate_ok "e" (tenantEq "e" params tenant).2 p]
    exact ⟨fun ⟨_, emitted, compiled, _⟩ => ⟨emitted, compiled⟩,
      fun ⟨emitted, compiled⟩ => ⟨_, emitted, compiled, rfl⟩⟩

theorem compileRecency_ok {predicate : Option Predicate} :
    (∃ emitted, compileRecency event userKey key tsColumn withinDays predicate params catalogAlias
      tenant = .ok emitted) ↔ ∀ p ∈ predicate, p.Fits := by
  rw [← @compileEvent_ok key userKey tenant params predicate]
  simp only [compileRecency, except_bind_eq_ok]
  exact ⟨fun ⟨_, gathered, compiled, _⟩ => ⟨gathered, compiled⟩,
    fun ⟨gathered, compiled⟩ => ⟨_, gathered, compiled, rfl⟩⟩

theorem compileLapsed_ok {predicate : Option Predicate} :
    (∃ emitted, compileLapsed event userKey key tsColumn withinDays predicate params catalogAlias
      tenant = .ok emitted) ↔ ∀ p ∈ predicate, p.Fits := by
  simp only [compileLapsed, except_bind_eq_ok]
  constructor
  · rintro ⟨_, gathered, compiled, _⟩
    exact compileEvent_ok.mp ⟨gathered, compiled⟩
  · intro fits
    -- the predicate is compiled once for each of the two subqueries
    obtain ⟨before, compiled⟩ := (@compileEvent_ok key userKey tenant params predicate).mpr fits
    obtain ⟨recent, again⟩ := (@compileEvent_ok key userKey tenant before.2 predicate).mpr fits
    exact ⟨_, before, compiled, recent, again, rfl⟩

end

theorem cmpSymbol_ok {op : Cmp} (numeric : isNumericCmp op = true) :
    ∃ symbol, cmpSymbol op = .ok symbol := by
  cases op <;> first | exact ⟨_, rfl⟩ | exact absurd numeric (by decide)

theorem validateFeature_numeric {name : String} {op : Cmp}
    (valid : validateFeature name op = .ok ()) : isNumericCmp op = true := by
  obtain ⟨_, -, rest⟩ := except_bind_eq_ok.mp valid
  cases numeric : isNumericCmp op with
  | true => rfl
  | false => simp only [numeric, Bool.not_false, ↓reduceIte, throw, throwThe, MonadExceptOf.throw,
      reduceCtorEq] at rest

section
variable {isRfc3339 : String → Bool} {opts : CompileOptions} {source : Dataset} {key : String}
  {asOf : Option String} {depth : Nat} {gathered : Gathered}

theorem compileFeature_ok {name catalogAlias tenant : String} {op : Cmp} {value : F64}
    {params : List Value} (valid : validateFeature name op = .ok ()) :
    ∃ emitted, compileFeature name op value key params catalogAlias tenant asOf = .ok emitted := by
  obtain ⟨family, short, split⟩ := validateFeature_ok valid
  obtain ⟨symbol, symbolled⟩ := cmpSymbol_ok (validateFeature_numeric valid)
  unfold compileFeature
  rw [split, symbolled]
  cases asOf <;> exact ⟨_, rfl⟩

theorem compileConjunct_ok {op : Op} (narrows : op.narrows = true)
    (valid : validateOp isRfc3339 op = .ok ()) :
    (∃ after, compileConjunct opts key asOf gathered op = .ok after) ↔ op.Fits := by
  cases op with
  | filter predicate =>
    simp only [compileConjunct, Op.Fits, except_bind_eq_ok]
    rw [← @compilePredicate_ok "base" gathered.params predicate]
    exact ⟨fun ⟨_, emitted, compiled, _⟩ => ⟨emitted, compiled⟩,
      fun ⟨emitted, compiled⟩ => ⟨_, emitted, compiled, rfl⟩⟩
  | recency =>
    simp only [compileConjunct, Op.Fits, except_bind_eq_ok]
    rw [← compileRecency_ok]
    exact ⟨fun ⟨_, emitted, compiled, _⟩ => ⟨emitted, compiled⟩,
      fun ⟨emitted, compiled⟩ => ⟨_, emitted, compiled, rfl⟩⟩
  | lapsed =>
    simp only [compileConjunct, Op.Fits, except_bind_eq_ok]
    rw [← compileLapsed_ok]
    exact ⟨fun ⟨_, emitted, compiled, _⟩ => ⟨emitted, compiled⟩,
      fun ⟨emitted, compiled⟩ => ⟨_, emitted, compiled, rfl⟩⟩
  | feature =>
    rw [validateOp] at valid
    obtain ⟨emitted, compiled⟩ := compileFeature_ok valid
    simp only [compileConjunct, Op.Fits, except_bind_eq_ok, iff_true]
    exact ⟨_, emitted, compiled, rfl⟩
  | exclude => exact ⟨fun _ => trivial, fun _ => ⟨_, rfl⟩⟩
  | _ => contradiction

theorem narrowing_ok {narrowing : List Op} (narrows : ∀ op ∈ narrowing, op.narrows = true)
    (valid : ∀ op ∈ narrowing, validateOp isRfc3339 op = .ok ()) :
    (∃ after, narrowing.foldlM (compileConjunct opts key asOf) gathered = .ok after) ↔
      ∀ op ∈ narrowing, op.Fits := by
  induction narrowing generalizing gathered with
  | nil => exact ⟨fun _ => List.forall_mem_nil _, fun _ => ⟨gathered, rfl⟩⟩
  | cons op rest ih =>
    obtain ⟨here, later⟩ := List.forall_mem_cons.mp narrows
    obtain ⟨checked, others⟩ := List.forall_mem_cons.mp valid
    simp only [List.foldlM_cons, except_bind_eq_ok, List.forall_mem_cons]
    constructor
    · rintro ⟨final, after, pushed, compiled⟩
      exact ⟨(compileConjunct_ok here checked).mp ⟨after, pushed⟩,
        (ih later others).mp ⟨final, compiled⟩⟩
    · rintro ⟨fits, each⟩
      obtain ⟨after, pushed⟩ := (compileConjunct_ok here checked).mpr fits
      obtain ⟨final, compiled⟩ := (@ih after later others).mpr each
      exact ⟨final, after, pushed, compiled⟩

/-- The loop of `compile_at` takes the narrowing operations one by one. -/
theorem compileOps_narrowing {narrowing : List Op} (last : List Op)
    (narrows : ∀ op ∈ narrowing, op.narrows = true) :
    compileOps opts source key asOf depth gathered (narrowing ++ last) = (do
      let gathered ← narrowing.foldlM (compileConjunct opts key asOf) gathered
      compileOps opts source key asOf depth gathered last) := by
  induction narrowing generalizing gathered with
  | nil => rfl
  | cons op rest ih =>
    obtain ⟨here, later⟩ := List.forall_mem_cons.mp narrows
    have conjunct : op.ends = false := by cases op <;> first | rfl | contradiction
    rw [List.cons_append, compileOps_cons _ conjunct, List.foldlM_cons, bind_assoc]
    exact congrArg _ (funext fun after => @ih after later)

/-- What the operation a level ends in needs to compile. -/
def Op.Finishes (opts : CompileOptions) (depth : Nat) : Op → Prop
  | .setOp _ other => ∃ compiled, compileAt opts other (depth + 1) = .ok compiled
  | .derive .. => opts.deriveLimit.isSome = true
  | .characterize .. | .similar => False
  | _ => True

theorem compileDerive_ok {name : String} {metric : JitMetric} :
    (∃ compiled, compileDerive opts source key gathered name metric = .ok compiled) ↔
      opts.deriveLimit.isSome = true := by
  unfold compileDerive
  cases opts.deriveLimit with
  | none => exact ⟨fun ⟨_, compiled⟩ => (by cases compiled), fun given => (by cases given)⟩
  | some limit => exact ⟨fun _ => rfl, fun _ => ⟨_, rfl⟩⟩

theorem compileLast_ok {op : Op} (ends : op.narrows = false) :
    (∃ compiled, compileOps opts source key asOf depth gathered [op] = .ok compiled) ↔
      op.Finishes opts depth := by
  cases op with
  | setOp kind other =>
    simp only [compileOps, List.isEmpty_nil, ↓reduceIte, except_bind_eq_ok, Op.Finishes]
    constructor
    · rintro ⟨_, inner, compiled, -⟩
      exact ⟨inner, compiled⟩
    · rintro ⟨inner, compiled⟩
      exact ⟨_, inner, compiled, rfl⟩
  | derive =>
    rw [compileOps]
    exact compileDerive_ok
  | similar | characterize =>
    refine ⟨?_, False.elim⟩
    rintro ⟨_, compiled⟩
    cases compiled
  | _ => contradiction

theorem narrows_finishes {op : Op} (narrows : op.narrows = true) : op.Finishes opts depth := by
  cases op <;> trivial

theorem ends_fits {op : Op} (ends : op.narrows = false) : op.Fits := by
  cases op <;> trivial

/-- The operations of one level compile when each does. -/
theorem compileOps_ok {ops : List Op} (valid : ∀ op ∈ ops, validateOp isRfc3339 op = .ok ())
    (positions : validatePositions false ops = .ok ()) :
    (∃ compiled, compileOps opts source key asOf depth gathered ops = .ok compiled) ↔
      ∀ op ∈ ops, op.Fits ∧ op.Finishes opts depth := by
  obtain ⟨narrowing, last, rfl, narrows, ending⟩ := validatePositions_ok positions
  have checked := fun op member => valid op (List.mem_append_left last member)
  have each : (∀ op ∈ narrowing, op.Fits ∧ op.Finishes opts depth) ↔ ∀ op ∈ narrowing, op.Fits :=
    forall₂_congr fun op member => and_iff_left (narrows_finishes (narrows op member))
  rw [compileOps_narrowing last narrows, List.forall_mem_append, each]
  simp only [except_bind_eq_ok]
  have narrowed := @narrowing_ok _ opts key asOf gathered _ narrows checked
  rcases ending with rfl | ⟨op, rfl, placed⟩
  · constructor
    · rintro ⟨_, after, pushed, -⟩
      exact ⟨narrowed.mp ⟨after, pushed⟩, List.forall_mem_nil _⟩
    · rintro ⟨fits, -⟩
      obtain ⟨after, pushed⟩ := narrowed.mpr fits
      exact ⟨_, after, pushed, rfl⟩
  · have ends : op.narrows = false := by
      rcases placed with combines | ⟨terminal, -⟩
      · cases op <;> first | rfl | contradiction
      · cases op <;> first | rfl | contradiction
    rw [List.forall_mem_singleton]
    constructor
    · rintro ⟨compiled, after, pushed, finished⟩
      exact ⟨narrowed.mp ⟨after, pushed⟩, ends_fits ends,
        (compileLast_ok ends).mp ⟨compiled, finished⟩⟩
    · rintro ⟨fits, -, finishes⟩
      obtain ⟨after, pushed⟩ := narrowed.mpr fits
      obtain ⟨compiled, finished⟩ := (@compileLast_ok opts source key asOf depth after _ ends).mpr
        finishes
      exact ⟨compiled, after, pushed, finished⟩

end

/-- What the branch of a set operation may not end in. -/
def Op.Returns (limited : Bool) : Op → Prop
  | .derive .. => limited = true
  | .characterize .. => False
  | _ => True

section
variable {isRfc3339 : String → Bool} {opts : CompileOptions}

theorem finishes_iff {op : Op} {depth : Nat} (valid : validateOp isRfc3339 op = .ok ()) :
    op.Finishes opts depth ↔ op.Returns opts.deriveLimit.isSome ∧
      ∀ kind other, op = .setOp kind other → ∃ compiled, compileAt opts other (depth + 1) = .ok compiled := by
  cases op with
  | setOp kind other =>
    constructor
    · rintro compiled
      refine ⟨trivial, fun _ _ same => ?_⟩
      cases same
      exact compiled
    · exact fun ⟨_, branch⟩ => branch kind other rfl
  | similar => cases valid
  | _ => exact ⟨fun finishes => ⟨finishes, fun _ _ same => (by cases same)⟩, And.left⟩

theorem compileAt_ok (q : SegmentQuery) : validate isRfc3339 q = .ok () → ∀ depth,
    ((∃ compiled, compileAt opts q depth = .ok compiled) ↔
      ∀ below inner, Nested q below inner → depth + below ≤ maxNesting ∧
        ∀ op ∈ inner.ops, op.Fits ∧ op.Returns opts.deriveLimit.isSome) := by
  induction q using SegmentQuery.nested with
  | step q branches =>
    intro valid depth
    have level := validate_ok valid
    have inside : ∀ kind other, Op.setOp kind other ∈ q.ops → validate isRfc3339 other = .ok () :=
      fun kind other member => by
        have checked := level.ops _ member
        rwa [validateOp] at checked
    have own : (∃ compiled, compileAt opts q depth = .ok compiled) ↔
        depth ≤ maxNesting ∧ ∀ op ∈ q.ops, op.Fits ∧ op.Finishes opts depth := by
      obtain ⟨source, key, ops, asOf⟩ := q
      simp only [compileAt]
      by_cases deep : maxNesting < depth
      · simp only [deep, ↓reduceIte, reduceCtorEq, exists_false, false_iff, not_and]
        exact fun shallow => absurd shallow (Nat.not_le.mpr deep)
      · rw [if_neg deep, compileOps_ok level.ops level.positions]
        exact (and_iff_right (Nat.not_lt.mp deep)).symm
    rw [own, forall_nested]
    constructor
    · rintro ⟨shallow, each⟩
      refine ⟨⟨shallow, fun op member => ?_⟩, fun kind other member => ?_⟩
      · exact ⟨(each op member).1, ((finishes_iff (level.ops op member)).mp (each op member).2).1⟩
      · have compiled := ((finishes_iff (level.ops _ member)).mp (each _ member).2).2 kind other rfl
        have deeper := (branches kind other member (inside kind other member) (depth + 1)).mp compiled
        simpa only [Nat.add_assoc, Nat.add_comm 1] using deeper
    · rintro ⟨⟨shallow, each⟩, below⟩
      refine ⟨shallow, fun op member => ⟨(each op member).1, ?_⟩⟩
      refine (finishes_iff (level.ops op member)).mpr ⟨(each op member).2, ?_⟩
      rintro kind other rfl
      refine (branches kind other member (inside kind other member) (depth + 1)).mpr ?_
      simpa only [Nat.add_assoc, Nat.add_comm 1] using below kind other member

theorem compileCharacterize_ok {q : SegmentQuery} {event : Dataset}
    {tsColumn monetaryColumn categoryColumn : String}
    (last : q.ops.getLast? = some (.characterize event tsColumn monetaryColumn categoryColumn)) :
    (∃ profile, compileCharacterize q opts = .ok profile) ↔
      ∃ segment, compileWithOpts (stripLastOp q) opts = .ok segment := by
  simp only [compileCharacterize, last, except_bind_eq_ok]
  exact ⟨fun ⟨_, segment, compiled, _⟩ => ⟨segment, compiled⟩,
    fun ⟨segment, compiled⟩ => ⟨_, segment, compiled, rfl⟩⟩

/-- A segment that narrows only. -/
theorem compileNarrowing_ok {source : Dataset} {key : String} {asOf : Option String}
    {narrowing : List Op} (narrows : ∀ op ∈ narrowing, op.narrows = true)
    (valid : ∀ op ∈ narrowing, validateOp isRfc3339 op = .ok ()) :
    (∃ compiled, compileWithOpts ⟨source, key, narrowing, asOf⟩ opts = .ok compiled) ↔
      ∀ op ∈ narrowing, op.Fits := by
  have level := @compileOps_narrowing opts source key asOf 0
    ⟨(tenantEq "base" [] opts.tenant).2, [source], [(tenantEq "base" [] opts.tenant).1]⟩ narrowing []
    narrows
  rw [List.append_nil] at level
  simp only [compileWithOpts, compileAt, Nat.not_lt_zero, ↓reduceIte, level, except_bind_eq_ok]
  rw [← narrowing_ok narrows valid]
  constructor
  · rintro ⟨_, after, pushed, -⟩
    exact ⟨after, pushed⟩
  · rintro ⟨after, pushed⟩
    exact ⟨_, after, pushed, rfl⟩

end

/-- The engine's way to compile a query returns. -/
def Compiles (opts : CompileOptions) (q : SegmentQuery) : Prop :=
  if hasCharacterize q then ∃ profile, compileCharacterize q opts = .ok profile
  else ∃ compiled, compileWithOpts q opts = .ok compiled

/-- Every value fits its operator, set operations nest no deeper than the compiler follows them,
and none of their branches ends in an operation that does not compile there. -/
def Compilable (limited : Bool) (q : SegmentQuery) : Prop :=
  ∀ depth inner, Nested q depth inner → depth ≤ maxNesting ∧
    ∀ op ∈ inner.ops, op.Fits ∧ (0 < depth → op.Returns limited)

section
variable {isRfc3339 : String → Bool} {opts : CompileOptions} {q : SegmentQuery}

theorem hasCharacterize_false (none : hasCharacterize q = false)
    (limited : hasDerive q = true → opts.deriveLimit.isSome = true) :
    ∀ op ∈ q.ops, op.Returns opts.deriveLimit.isSome := by
  intro op member
  cases op with
  | characterize => exact absurd rfl (List.any_eq_false.mp none _ member)
  | derive => exact limited (List.any_eq_true.mpr ⟨_, member, rfl⟩)
  | _ => trivial

theorem characterize_last (positions : validatePositions false q.ops = .ok ())
    (profiled : hasCharacterize q = true) :
    ∃ narrowing event ts monetary category,
      q.ops = narrowing ++ [.characterize event ts monetary category] ∧
        ∀ op ∈ narrowing, op.narrows = true := by
  obtain ⟨op, member, characterizes⟩ := List.any_eq_true.mp profiled
  obtain ⟨narrowing, last, split, narrows, ending⟩ := validatePositions_ok positions
  have wide : op.narrows = false := by cases op <;> first | rfl | contradiction
  rw [split] at member ⊢
  have late : op ∈ last := (List.mem_append.mp member).resolve_left fun early => by
    rw [narrows op early] at wide
    contradiction
  rcases ending with rfl | ⟨only, rfl, -⟩
  · cases late
  · obtain rfl := List.mem_singleton.mp late
    cases op with
    | characterize event ts monetary category =>
      exact ⟨narrowing, event, ts, monetary, category, rfl, narrows⟩
    | _ => contradiction

/-- A validated query compiles exactly when it is compilable. -/
theorem compiles_iff (valid : validate isRfc3339 q = .ok ())
    (limited : hasDerive q = true → opts.deriveLimit.isSome = true) :
    Compiles opts q ↔ Compilable opts.deriveLimit.isSome q := by
  have level := validate_ok valid
  unfold Compiles Compilable
  cases profiled : hasCharacterize q with
  | false =>
    have top := hasCharacterize_false profiled limited
    simp only [Bool.false_eq_true, ↓reduceIte]
    rw [compileWithOpts, compileAt_ok q valid 0, forall_nested, forall_nested]
    simp only [Nat.zero_add, Nat.not_lt_zero, false_implies, and_true, Nat.zero_lt_succ, true_implies]
    refine and_congr_left fun _ => and_congr_right fun _ => ?_
    exact forall₂_congr fun op member => and_iff_left (top op member)
  | true =>
    obtain ⟨narrowing, event, ts, monetary, category, split, narrows⟩ :=
      characterize_last level.positions profiled
    have last : q.ops.getLast? = some (.characterize event ts monetary category) := by
      rw [split, List.getLast?_concat]
    have stripped : stripLastOp q = ⟨q.source, q.key, narrowing, q.asOf⟩ := by
      rw [stripLastOp, split, List.dropLast_concat]
    have checked : ∀ op ∈ narrowing, validateOp isRfc3339 op = .ok () := fun op member =>
      level.ops op (split ▸ List.mem_append_left _ member)
    rw [if_pos rfl, compileCharacterize_ok last, stripped, compileNarrowing_ok narrows checked,
      forall_nested]
    have flat : ∀ kind other, Op.setOp kind other ∉ q.ops := by
      intro kind other member
      rw [split] at member
      rcases List.mem_append.mp member with early | late
      · exact absurd (narrows _ early) (by simp only [Op.narrows, Bool.false_eq_true, not_false_iff])
      · cases List.mem_singleton.mp late
    constructor
    · intro fits
      refine ⟨⟨Nat.zero_le _, fun op member => ⟨?_, fun deep => absurd deep (Nat.lt_irrefl 0)⟩⟩,
        fun kind other member => absurd member (flat kind other)⟩
      rw [split] at member
      rcases List.mem_append.mp member with early | late
      · exact fits op early
      · rw [List.mem_singleton.mp late]
        trivial
    · rintro ⟨⟨-, each⟩, -⟩ op member
      exact (each op (split ▸ List.mem_append_left _ member)).1

end

theorem compiles_iff_payingNotContacted :
    Compiles (readOptions "acme") payingNotContacted ↔ Compilable false payingNotContacted :=
  @compiles_iff (fun _ => true) (readOptions "acme") payingNotContacted rfl
    fun derived => (by cases derived)

/-- Orders whose status equals a JSON object. -/
def statusIsObject : SegmentQuery where
  source := ⟨"erp", "orders"⟩
  key := "user_id"
  ops := [.filter ⟨"status", .eq, .object []⟩]
  asOf := none

/-- Validation lets an object through that no operator can be compiled with. -/
theorem statusIsObject_fails :
    validate (fun _ => true) statusIsObject = .ok () ∧ hasDerive statusIsObject = false ∧
      ¬ Compiles (readOptions "acme") statusIsObject := by
  refine ⟨rfl, rfl, ?_⟩
  rintro ⟨compiled, returned⟩
  cases returned

end ConsumerEngine.Query
