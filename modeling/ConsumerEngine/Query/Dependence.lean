import ConsumerEngine.Query.Figures

/-! What the answer of a compiled text depends on: the survivors of one query, and the rows of the
raw tables that the text reads.
-/

set_option autoImplicit false

namespace ConsumerEngine.Query

open ConsumerEngine.Core ConsumerEngine.Sql ConsumerEngine.Storage

/-- A text that a query compiles to: its own, or one of the three of its profile. -/
inductive CompilesTo (opts : CompileOptions) (q : SegmentQuery) : CompiledQuery → Prop where
  | plain {compiled : CompiledQuery} (returned : compileWithOpts q opts = .ok compiled) :
      CompilesTo opts q compiled
  | figure {profile : CharacterizeQueries} (returned : compileCharacterize q opts = .ok profile)
      (of : Figure) : CompilesTo opts q (profile.figure of)

/-- The table that is read. -/
def tableOf : Read Value → Option String
  | .table _ name | .column _ name _ => some name
  | .compared .. | .nothing => none

/-- A query whose survivors a compiled text selects, with what the text reads of it. -/
structure Selects (isRfc3339 : String → Bool) (opts : CompileOptions) (q : SegmentQuery)
    (compiled : CompiledQuery) (narrowed : SegmentQuery) (sources : List Dataset) : Prop where
  among : narrowed = q ∨ narrowed = stripLastOp q
  shaped : Shaped isRfc3339 opts narrowed sources
  reads : ∀ read ∈ (phraseAt opts narrowed).reads .empty, read ∈ compiledReads [compiled]

section
variable {V : Type} [DecidableEq V] {E : Engine V} {opts : CompileOptions} {q : SegmentQuery}
  {isRfc3339 : String → Bool} {first second : Catalog}

omit [DecidableEq V] in
/-- Tables of the same columns resolve the same names. -/
theorem present_congr {reads : Reads} (same : ∀ read ∈ reads, ∀ name, tableOf read = some name →
    (E.table first name).map Stored.columns = (E.table second name).map Stored.columns) :
    Present E opts first reads ↔ Present E opts second reads := by
  refine forall_congr' fun read => imp_congr_right fun member => ?_
  have there (attached name : String) (read_ : tableOf read = some name) :
      (E.tables opts.catalog first attached name).map Stored.columns =
        (E.tables opts.catalog second attached name).map Stored.columns := by
    unfold Engine.tables
    by_cases mine : attached = opts.catalog
    · rw [if_pos mine, if_pos mine, same read member name read_]
    · rw [if_neg mine, if_neg mine]
  cases read with
  | table attached name =>
    have some_ := congrArg Option.isSome (there attached name rfl)
    rw [Option.isSome_map, Option.isSome_map] at some_
    rw [Read.present, Read.present, some_]
  | column attached name column =>
    have listed (catalog : Catalog) : (Read.column attached name column : Read Value).present
        (E.tables opts.catalog catalog) =
          ((E.tables opts.catalog catalog attached name).map Stored.columns).any
            (·.contains column) := by
      rw [Read.present]
      cases E.tables opts.catalog catalog attached name <;> rfl
    rw [listed, listed, there attached name rfl]
  | compared => rfl
  | nothing => rfl

omit [DecidableEq V] in
theorem isScoped_congr {query : Ast Value .query}
    (same : Present E opts first (query.reads .empty) ↔ Present E opts second (query.reads .empty)) :
    isScoped (E.tables opts.catalog first) query = true ↔
      isScoped (E.tables opts.catalog second) query = true :=
  isScoped_iff.trans (same.trans isScoped_iff.symm)

/-- The dataset of a metric is read. -/
theorem metricEvent_read {source : Dataset} {key name : String} {ops : List Op}
    {asOf : Option String} {metric : JitMetric} {limit : Nat} {scope : Scope}
    (narrows : ∀ op ∈ ops, op.narrows = true) (injected : opts.deriveLimit = some limit) :
    rawRead opts (metricEvent metric) ∈
      (phraseAt opts ⟨source, key, ops ++ [.derive name metric], asOf⟩).reads scope := by
  rw [phraseAt_derive narrows injected, metricPhrase_reads rfl, metricReads]
  exact List.mem_append_right _ List.mem_cons_self

/-- What is answered within a limit comes from the survivors, and from the events of a metric. -/
theorem within_congr {sources : List Dataset} {population other : Population} {scope : Scope}
    (shaped : Shaped isRfc3339 opts q sources)
    (survive : population.survivors E q = other.survivors E q)
    (rows : ∀ d, rawRead opts d ∈ (phraseAt opts q).reads scope → population.rows d = other.rows d) :
    population.within E opts.deriveLimit q = other.within E opts.deriveLimit q := by
  rw [Population.within, Population.within, survive]
  refine Option.bind_congr fun users _ => ?_
  cases last : q.ops.getLast? with
  | none => rfl
  | some op =>
    cases op with
    | derive name metric =>
      have read : rawRead opts (metricEvent metric) ∈ (phraseAt opts q).reads scope := by
        cases shaped with
        | level narrowing =>
          have narrows := narrowing.narrows _ (List.mem_of_getLast? last)
          cases narrows
        | setOp narrowing branch =>
          rw [List.getLast?_concat] at last
          cases last
        | derive narrowing injected =>
          rw [List.getLast?_concat] at last
          cases last
          exact metricEvent_read narrowing.narrows injected
      simp only [rows _ read]
    | _ => rfl

/-- A text of a profile reads the segment, and the events. -/
theorem profile_reads {narrowing : List Op} {event : Dataset}
    {tsColumn monetaryColumn categoryColumn : String} {profile : CharacterizeQueries}
    (valid : validate isRfc3339 q = .ok ())
    (profiled : Profiled isRfc3339 q narrowing event tsColumn monetaryColumn categoryColumn)
    (returned : compileCharacterize q opts = .ok profile) (of : Figure) :
    compiledReads [profile.figure of] = (phraseAt opts (stripLastOp q)).reads .empty ++
      profileReads opts q.key event (of.column tsColumn monetaryColumn categoryColumn) := by
  have listed : (phraseAt opts (stripLastOp q)).columns = [foldName q.key] := by
    rw [profiled.segment, phraseAt_level profiled.level.narrows]
    rfl
  rw [compiledReads_single (profile_statement profiled valid returned of), characterizePhrase,
    profilePhrase_reads listed]

/-- A compiled text answers alike over two states that resolve the same names, have the same
survivors, and hold the same rows of the tenant in the raw tables that it reads. -/
theorem CompilesTo.execute_congr {compiled : CompiledQuery} (compiles : CompilesTo opts q compiled)
    (valid : validate isRfc3339 q = .ok ())
    (resolves : Present E opts first (compiledReads [compiled]) ↔
      Present E opts second (compiledReads [compiled]))
    (survive : ∀ narrowed sources, Selects isRfc3339 opts q compiled narrowed sources →
      (E.population opts first).survivors E narrowed = (E.population opts second).survivors E narrowed)
    (rows : ∀ d, rawRead opts d ∈ compiledReads [compiled] →
      ownRows first opts.tenant d = ownRows second opts.tenant d) :
    execute E.toScalars (E.tables opts.catalog first) compiled.sql compiled.params =
      execute E.toScalars (E.tables opts.catalog second) compiled.sql compiled.params := by
  cases compiles with
  | plain returned =>
    have shaped := compileAt_shaped q valid 0 _ returned
    have reads := compiledReads_single (compileAt_statement valid returned)
    rw [reads] at resolves rows
    rw [execute_within valid returned, execute_within valid returned,
      within_congr shaped (survive q _ ⟨.inl rfl, shaped, fun _ member => reads ▸ member⟩) rows]
    exact if_congr (isScoped_congr resolves) rfl rfl
  | @figure profile returned of =>
    obtain ⟨narrowing, event, ts, monetary, category, profiled, -⟩ :=
      compileCharacterize_profiled valid returned
    have both := profile_reads valid profiled returned of
    have parsed := profile_statement profiled valid returned of
    have shaped : Shaped isRfc3339 opts (stripLastOp q) (levelSources q.source narrowing) :=
      profiled.segment ▸ .level profiled.level
    have own : ownRows first opts.tenant event = ownRows second opts.tenant event := by
      refine rows event ?_
      rw [both, profileReads]
      exact List.mem_append_right _ List.mem_cons_self
    have users := survive _ _ ⟨.inr rfl, shaped, fun _ member => both ▸ List.mem_append_left _ member⟩
    rw [compiledReads_single parsed] at resolves
    rw [execute_profile profiled valid returned, execute_profile profiled valid returned, users, own]
    exact if_congr (isScoped_congr resolves) rfl rfl

end

end ConsumerEngine.Query
