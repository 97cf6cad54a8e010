import ConsumerEngine.Query.Completeness
import ConsumerEngine.Query.Phrases

/-! The shapes a compiled query has: levels of narrowing operations, closed by nothing, by a set
operation with another query, or by a metric.
-/

set_option autoImplicit false

namespace ConsumerEngine.Query

open ConsumerEngine.Core ConsumerEngine.Foundation ConsumerEngine.Sql ConsumerEngine.Storage

/-- The event tables a narrowing operation reads. -/
def opSources : Op → List Dataset
  | .recency event .. | .lapsed event .. => [event]
  | _ => []

/-- A level of narrowing operations that passed validation and compiles. -/
structure Narrowing (isRfc3339 : String → Bool) (source : Dataset) (key : String) (ops : List Op) :
    Prop where
  source : NamedDataset source
  key : isIdent key = true
  checked : ∀ op ∈ ops, validateOp isRfc3339 op = .ok ()
  narrows : ∀ op ∈ ops, op.narrows = true
  fits : ∀ op ∈ ops, op.Fits

def levelSources (source : Dataset) (ops : List Op) : List Dataset :=
  source :: ops.flatMap opSources

/-- A validated query that compiles, and the sources it compiles to. -/
inductive Shaped (isRfc3339 : String → Bool) (opts : CompileOptions) :
    SegmentQuery → List Dataset → Prop where
  | level {source : Dataset} {key : String} {ops : List Op} {asOf : Option String}
      (narrowing : Narrowing isRfc3339 source key ops) :
      Shaped isRfc3339 opts ⟨source, key, ops, asOf⟩ (levelSources source ops)
  | setOp {source : Dataset} {key : String} {ops : List Op} {asOf : Option String}
      {kind : SetOpKind} {other : SegmentQuery} {sources : List Dataset}
      (narrowing : Narrowing isRfc3339 source key ops) (branch : Shaped isRfc3339 opts other sources) :
      Shaped isRfc3339 opts ⟨source, key, ops ++ [.setOp kind other], asOf⟩
        (levelSources source ops ++ sources)
  | derive {source : Dataset} {key : String} {ops : List Op} {asOf : Option String} {name : String}
      {metric : JitMetric} {limit : Nat} (narrowing : Narrowing isRfc3339 source key ops)
      (injected : opts.deriveLimit = some limit) (event : NamedDataset (metricEvent metric))
      (column : ∀ column ∈ metricColumn metric, isIdent column = true) :
      Shaped isRfc3339 opts ⟨source, key, ops ++ [.derive name metric], asOf⟩
        (levelSources source ops ++ [metricEvent metric])

section
variable {isRfc3339 : String → Bool} {opts : CompileOptions} {source : Dataset} {key : String}
  {asOf : Option String} {ops : List Op}

theorem compileConjunct_sources {gathered after : Gathered} {op : Op}
    (pushed : compileConjunct opts key asOf gathered op = .ok after) :
    after.sources = gathered.sources ++ opSources op := by
  cases op with
  | exclude => cases pushed; rfl
  | filter | recency | lapsed | feature =>
    obtain ⟨_, _, built⟩ := except_bind_eq_ok.mp pushed
    cases built
    rfl
  | _ => cases pushed

theorem gathered_sources {gathered after : Gathered}
    (pushed : ops.foldlM (compileConjunct opts key asOf) gathered = .ok after) :
    after.sources = gathered.sources ++ ops.flatMap opSources := by
  induction ops generalizing gathered with
  | nil =>
    cases pushed
    exact (List.append_nil _).symm
  | cons op rest ih =>
    obtain ⟨between, here, later⟩ := except_bind_eq_ok.mp pushed
    rw [ih later, compileConjunct_sources here, List.flatMap_cons, List.append_assoc]

/-- Every query that compiles has one of the shapes. -/
theorem compileAt_shaped (q : SegmentQuery) (valid : validate isRfc3339 q = .ok ()) :
    ∀ depth compiled, compileAt opts q depth = .ok compiled →
      Shaped isRfc3339 opts q compiled.sources := by
  induction q using SegmentQuery.nested with
  | step q branches =>
    intro depth compiled returned
    have level := validate_ok valid
    have fits := fun op member => (((compileAt_ok q valid depth).mp ⟨compiled, returned⟩ 0 q
      (.here q)).2 op member).1
    obtain ⟨source, key, ops, asOf⟩ := q
    obtain ⟨narrowing, last, rfl, narrows, ending⟩ := validatePositions_ok level.positions
    have early := fun op (member : op ∈ narrowing) => List.mem_append_left last member
    have here : Narrowing isRfc3339 source key narrowing :=
      ⟨level.source, level.key, fun op member => level.ops op (early op member), narrows,
        fun op member => fits op (early op member)⟩
    rw [compileAt] at returned
    split at returned
    case isTrue => cases returned
    case isFalse =>
      dsimp only at returned
      rw [compileOps_narrowing last narrows] at returned
      obtain ⟨gathered, pushed, closed⟩ := except_bind_eq_ok.mp returned
      have sources : gathered.sources = levelSources source narrowing := gathered_sources pushed
      rcases ending with rfl | ⟨op, rfl, ends⟩
      · cases closed
        rw [List.append_nil]
        exact sources ▸ .level here
      · have checked := level.ops op (List.mem_append_right _ List.mem_cons_self)
        cases op with
        | setOp kind other =>
          rw [compileOps] at closed
          obtain ⟨inner, compiledOther, built⟩ := except_bind_eq_ok.mp closed
          cases built
          have branch := branches kind other (List.mem_append_right _ List.mem_cons_self) checked _ _
            compiledOther
          simpa only [combine, sources] using Shaped.setOp here branch
        | derive name metric =>
          rw [compileOps, compileDerive] at closed
          obtain ⟨event, column⟩ := validateDerive_ok checked
          cases injected : opts.deriveLimit with
          | none =>
            rw [injected] at closed
            cases closed
          | some limit =>
            rw [injected] at closed
            cases closed
            simpa only [sources] using Shaped.derive here injected event column
        | characterize => cases closed
        | _ => rcases ends with combines | ⟨terminal, -⟩ <;> contradiction

/-- A validated query that is profiled: a level of narrowing operations, and what is asked of its
users' events. -/
structure Profiled (isRfc3339 : String → Bool) (q : SegmentQuery) (narrowing : List Op)
    (event : Dataset) (tsColumn monetaryColumn categoryColumn : String) : Prop where
  split : q.ops = narrowing ++ [.characterize event tsColumn monetaryColumn categoryColumn]
  level : Narrowing isRfc3339 q.source q.key narrowing
  event : NamedDataset event
  ts : isIdent tsColumn = true
  monetary : isIdent monetaryColumn = true
  category : isIdent categoryColumn = true

theorem Profiled.last {q : SegmentQuery} {event : Dataset}
    {tsColumn monetaryColumn categoryColumn : String}
    (profiled : Profiled isRfc3339 q ops event tsColumn monetaryColumn categoryColumn) :
    q.ops.getLast? = some (.characterize event tsColumn monetaryColumn categoryColumn) := by
  rw [profiled.split, List.getLast?_concat]

theorem Profiled.segment {q : SegmentQuery} {event : Dataset}
    {tsColumn monetaryColumn categoryColumn : String}
    (profiled : Profiled isRfc3339 q ops event tsColumn monetaryColumn categoryColumn) :
    stripLastOp q = ⟨q.source, q.key, ops, q.asOf⟩ := by
  rw [stripLastOp, profiled.split, List.dropLast_concat]

/-- A query that `compile_characterize` accepts is profiled. -/
theorem compileCharacterize_profiled {q : SegmentQuery} {profile : CharacterizeQueries}
    (valid : validate isRfc3339 q = .ok ()) (returned : compileCharacterize q opts = .ok profile) :
    ∃ narrowing event ts monetary category,
      Profiled isRfc3339 q narrowing event ts monetary category ∧
        ∀ one ∈ [profile.metrics, profile.recency, profile.categories],
          one.sources = levelSources q.source narrowing ++ [event] := by
  have level := validate_ok valid
  have profiled : hasCharacterize q = true := by
    unfold compileCharacterize at returned
    cases last : q.ops.getLast? with
    | none => simp only [last, reduceCtorEq] at returned
    | some op =>
      cases op with
      | characterize => exact List.any_eq_true.mpr ⟨_, List.mem_of_getLast? last, rfl⟩
      | _ => simp only [last, reduceCtorEq] at returned
  obtain ⟨narrowing, event, ts, monetary, category, split, narrows⟩ :=
    characterize_last level.positions profiled
  have early := fun op (member : op ∈ narrowing) => level.ops op (split ▸ List.mem_append_left _ member)
  have checked := level.ops (.characterize event ts monetary category)
    (split ▸ List.mem_append_right _ List.mem_cons_self)
  obtain ⟨named, tsIdent, monetaryIdent, categoryIdent⟩ := validateCharacterize_ok checked
  have segment : stripLastOp q = ⟨q.source, q.key, narrowing, q.asOf⟩ := by
    rw [stripLastOp, split, List.dropLast_concat]
  unfold compileCharacterize at returned
  simp only [split, List.getLast?_concat, segment] at returned
  obtain ⟨compiled, inner, built⟩ := except_bind_eq_ok.mp returned
  rw [compileWithOpts, compileAt] at inner
  split at inner
  case isTrue => cases inner
  case isFalse =>
    dsimp only at inner
    rw [← List.append_nil narrowing, compileOps_narrowing [] narrows] at inner
    obtain ⟨gathered, pushed, closed⟩ := except_bind_eq_ok.mp inner
    have sources : gathered.sources = levelSources q.source narrowing := gathered_sources pushed
    cases closed
    cases built
    refine ⟨narrowing, event, ts, monetary, category,
      ⟨split, ⟨level.source, level.key, early, narrows, (narrowing_ok narrows early).mp ⟨_, pushed⟩⟩,
        named, tsIdent, monetaryIdent, categoryIdent⟩, ?_⟩
    simp only [List.forall_mem_cons, List.not_mem_nil, false_implies, implies_true, and_true, sources]

/-- The tests of a level behind its tenant's. -/
def levelTests (opts : CompileOptions) (key : String) (asOf : Option String) (ops : List Op) :
    List Test :=
  ops.flatMap (opTests opts key asOf)

theorem phraseOps_cons {tests : List Test} {op : Op} (rest : List Op)
    (conjunct : op.narrows = true) :
    phraseOps opts source key asOf tests (op :: rest) =
      phraseOps opts source key asOf (tests ++ opTests opts key asOf op) rest := by
  cases op <;> first | rfl | contradiction

/-- The loop over a level gathers its tests. -/
theorem phraseOps_narrowing {tests : List Test} (last : List Op)
    (narrows : ∀ op ∈ ops, op.narrows = true) :
    phraseOps opts source key asOf tests (ops ++ last) =
      phraseOps opts source key asOf (tests ++ levelTests opts key asOf ops) last := by
  induction ops generalizing tests with
  | nil => rw [levelTests, List.flatMap_nil, List.append_nil, List.nil_append]
  | cons op rest ih =>
    obtain ⟨here, later⟩ := List.forall_mem_cons.mp narrows
    rw [List.cons_append, phraseOps_cons _ here, ih later, levelTests, levelTests,
      List.flatMap_cons, List.append_assoc]

/-- The query of a level. -/
def levelPhrase (opts : CompileOptions) (source : Dataset) (key : String) (ops : List Op)
    (asOf label limit : Option String) : Ast Value .select :=
  basePhrase opts source key (levelTests opts key asOf ops) label limit

theorem phraseAt_level (narrows : ∀ op ∈ ops, op.narrows = true) :
    phraseAt opts ⟨source, key, ops, asOf⟩ =
      .single (levelPhrase opts source key ops asOf none none) := by
  have loop := @phraseOps_narrowing opts source key asOf ops [] [] narrows
  rw [List.append_nil, List.nil_append] at loop
  rw [phraseAt, loop]
  rfl

theorem phraseAt_setOp {kind : SetOpKind} {other : SegmentQuery}
    (narrows : ∀ op ∈ ops, op.narrows = true) :
    phraseAt opts ⟨source, key, ops ++ [.setOp kind other], asOf⟩ =
      .combine kind.combination (.single (levelPhrase opts source key ops asOf none none))
        (phraseAt opts other) := by
  rw [phraseAt, phraseOps_narrowing _ narrows]
  rfl

theorem phraseAt_derive {name : String} {metric : JitMetric} {limit : Nat}
    (narrows : ∀ op ∈ ops, op.narrows = true) (injected : opts.deriveLimit = some limit) :
    phraseAt opts ⟨source, key, ops ++ [.derive name metric], asOf⟩ =
      metricPhrase (levelPhrase opts source key ops asOf (some "user_id") (some (toString limit)))
        name metric opts.catalogAlias opts.tenant := by
  rw [phraseAt, phraseOps_narrowing _ narrows, phraseOps, injected]
  rfl

end

end ConsumerEngine.Query
