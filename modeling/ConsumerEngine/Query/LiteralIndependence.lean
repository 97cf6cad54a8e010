import ConsumerEngine.Query.StatementAlignment

/-! Literal values never reach the SQL text.

Two queries that differ in their literals only are compiled side by side: both are rejected,
or both give the same text and as many parameters.
-/

set_option autoImplicit false

namespace ConsumerEngine.Query

open ConsumerEngine.Core ConsumerEngine.Foundation ConsumerEngine.Storage

/-- The kind of a JSON value. -/
inductive JsonKind where
  | null | bool | number | string | array | object
  deriving DecidableEq

def kindOf : Json → JsonKind
  | .null => .null
  | .bool _ => .bool
  | .number _ => .number
  | .string _ => .string
  | .array _ => .array
  | .object _ => .object

/-- Values of one kind; of lists, with as many elements, each of the kind of its partner. -/
def AlikeValue : Json → Json → Prop
  | .array items, .array others => items.map kindOf = others.map kindOf
  | v, w => kindOf v = kindOf w

structure AlikePredicate (p p' : Predicate) : Prop where
  column : p.column = p'.column
  op : p.op = p'.op
  value : AlikeValue p.value p'.value

/-- Both absent, or both present and alike. -/
inductive AlikeOptional : Option Predicate → Option Predicate → Prop where
  | none : AlikeOptional none none
  | some {p p' : Predicate} (alike : AlikePredicate p p') : AlikeOptional (some p) (some p')

mutual

/-- Queries that differ in their literal values only. -/
inductive Alike : SegmentQuery → SegmentQuery → Prop where
  | query {source : Dataset} {key : String} {ops ops' : List Op} {asOf asOf' : Option String}
      (inOps : AlikeOps ops ops') (bounded : asOf.isSome = asOf'.isSome) :
      Alike ⟨source, key, ops, asOf⟩ ⟨source, key, ops', asOf'⟩

inductive AlikeOps : List Op → List Op → Prop where
  | nil : AlikeOps [] []
  | cons {op op' : Op} {rest rest' : List Op} (here : AlikeOp op op')
      (later : AlikeOps rest rest') : AlikeOps (op :: rest) (op' :: rest')

inductive AlikeOp : Op → Op → Prop where
  | filter {p p' : Predicate} (alike : AlikePredicate p p') : AlikeOp (.filter p) (.filter p')
  | recency {event : Dataset} {userKey tsColumn : String} {withinDays : Nat}
      {p p' : Option Predicate} (alike : AlikeOptional p p') :
      AlikeOp (.recency event userKey tsColumn withinDays p)
        (.recency event userKey tsColumn withinDays p')
  | lapsed {event : Dataset} {userKey tsColumn : String} {withinDays : Nat}
      {p p' : Option Predicate} (alike : AlikeOptional p p') :
      AlikeOp (.lapsed event userKey tsColumn withinDays p)
        (.lapsed event userKey tsColumn withinDays p')
  | setOp {kind : SetOpKind} {other other' : SegmentQuery} (alike : Alike other other') :
      AlikeOp (.setOp kind other) (.setOp kind other')
  | exclude {campaignId campaignId' : String} : AlikeOp (.exclude campaignId) (.exclude campaignId')
  | feature {name : String} {op : Cmp} {value value' : F64} :
      AlikeOp (.feature name op value) (.feature name op value')
  | derive {name name' : String} {metric : JitMetric} :
      AlikeOp (.derive name metric) (.derive name' metric)
  | similar : AlikeOp .similar .similar
  | characterize {event : Dataset} {tsColumn monetaryColumn categoryColumn : String} :
      AlikeOp (.characterize event tsColumn monetaryColumn categoryColumn)
        (.characterize event tsColumn monetaryColumn categoryColumn)

end

/-- Both rejected, or both accepted with related results. -/
inductive Together {ε α : Type} (related : α → α → Prop) : Except ε α → Except ε α → Prop where
  | rejected (e e' : ε) : Together related (.error e) (.error e')
  | accepted {a a' : α} (same : related a a') : Together related (.ok a) (.ok a')

section
variable {ε α β : Type} {related : α → α → Prop} {results : β → β → Prop}

theorem Together.bind {first second : Except ε α} {next next' : α → Except ε β}
    (firsts : Together related first second)
    (rests : ∀ a a', related a a' → Together results (next a) (next' a')) :
    Together results (first >>= next) (second >>= next') := by
  cases firsts with
  | rejected e e' => exact .rejected e e'
  | accepted same => exact rests _ _ same

theorem Together.refl_of (reflexive : ∀ a, related a a) (check : Except ε α) :
    Together related check check := by
  cases check with
  | error e => exact .rejected e e
  | ok a => exact .accepted (reflexive a)

end

/-- One text, and as many parameters. -/
def SameText (emitted emitted' : String × List Value) : Prop :=
  emitted.1 = emitted'.1 ∧ emitted.2.length = emitted'.2.length

/-- One statement up to the values it is bound to. -/
def SameStatement (compiled compiled' : CompiledQuery) : Prop :=
  compiled.sql = compiled'.sql ∧ compiled.params.length = compiled'.params.length

def SameProfile (profile profile' : CharacterizeQueries) : Prop :=
  SameStatement profile.metrics profile'.metrics ∧
    SameStatement profile.recency profile'.recency ∧
    SameStatement profile.categories profile'.categories

def SameGathered (gathered gathered' : Gathered) : Prop :=
  gathered.conjuncts = gathered'.conjuncts ∧ gathered.params.length = gathered'.params.length

section
variable {params params' : List Value} {tenant tenant' : String}

theorem toValue_together {v w : Json} (kinds : kindOf v = kindOf w) :
    Together (ε := QueryError) (fun _ _ => True) (toValue v) (toValue w) := by
  have numbers (n : JsonNumber) : ∃ value, toValue (.number n) = .ok value := by
    obtain ⟨x, double⟩ : ∃ x, n.asF64 = some x := by cases n <;> exact ⟨_, rfl⟩
    cases whole : n.asI64 with
    | some i => exact ⟨.bigInt i, by simp only [toValue, whole]⟩
    | none => exact ⟨.double x, by simp only [toValue, whole, double]⟩
  cases v <;> cases w <;> first
    | contradiction
    | exact .rejected _ _
    | exact .accepted trivial
    | skip
  case number.number n m =>
    obtain ⟨value, first⟩ := numbers n
    obtain ⟨value', second⟩ := numbers m
    rw [first, second]
    exact .accepted trivial

theorem toValue_alike {v w : Json} (alike : AlikeValue v w) :
    Together (ε := QueryError) (fun _ _ => True) (toValue v) (toValue w) := by
  refine toValue_together ?_
  cases v <;> cases w <;> first | rfl | exact alike

theorem mapM_together {items items' : List Json} (kinds : items.map kindOf = items'.map kindOf) :
    Together (fun values values' => values.length = values'.length) (items.mapM toValue)
      (items'.mapM toValue) := by
  induction items generalizing items' with
  | nil =>
    obtain rfl := List.map_eq_nil_iff.mp kinds.symm
    exact .accepted rfl
  | cons item items ih =>
    cases items' with
    | nil => exact absurd kinds (by simp)
    | cons item' items' =>
      simp only [List.map_cons, List.cons.injEq] at kinds
      rw [List.mapM_cons, List.mapM_cons]
      refine (toValue_together kinds.1).bind fun value value' _ => ?_
      refine (ih kinds.2).bind fun values values' same => ?_
      exact .accepted (by rw [List.length_cons, List.length_cons, same])

theorem compileIn_together {col : String} {v w : Json} {negate : Bool} (alike : AlikeValue v w)
    (lengths : params.length = params'.length) :
    Together SameText (compileIn col v params negate) (compileIn col w params' negate) := by
  unfold compileIn
  cases v <;> cases w <;> first
    | exact .rejected _ _
    | contradiction
    | skip
  case array.array items items' =>
    have kinds : items.map kindOf = items'.map kindOf := alike
    have counts : items.length = items'.length := by
      simpa only [List.length_map] using congrArg List.length kinds
    have marked : (items.map fun _ => "?") = items'.map fun _ => "?" := by
      rw [List.map_const', List.map_const', counts]
    have empty : items.isEmpty = items'.isEmpty := by
      cases items <;> cases items' <;> first | rfl | cases counts
    simp only [asArray, empty, marked]
    split
    · exact .accepted ⟨rfl, lengths⟩
    · refine (mapM_together kinds).bind fun pushed pushed' same => ?_
      exact .accepted ⟨rfl, by rw [List.length_append, List.length_append, lengths, same]⟩

theorem compilePredicate_together {rel : String} {p p' : Predicate} (alike : AlikePredicate p p')
    (lengths : params.length = params'.length) :
    Together SameText (compilePredicate rel p params) (compilePredicate rel p' params') := by
  unfold compilePredicate
  rw [alike.column, alike.op]
  dsimp only
  cases binaryCmpSymbol p'.op with
  | some symbol =>
    have converted : Together (ε := QueryError) (fun _ _ => True) (toValue p.value)
        (toValue p'.value) := toValue_alike alike.value
    refine converted.bind fun value value' _ => .accepted ⟨rfl, ?_⟩
    simp only [List.length_append, List.length_singleton, lengths]
  | none =>
    cases p'.op with
    | isIn => exact compileIn_together alike.value lengths
    | notIn => exact compileIn_together alike.value lengths
    | _ => exact .rejected _ _

/-- One list of conjuncts, and as many parameters. -/
def SameParts (gathered gathered' : List String × List Value) : Prop :=
  gathered.1 = gathered'.1 ∧ gathered.2.length = gathered'.2.length

theorem compileEvent_together {userKey baseKey : String} {p p' : Option Predicate}
    (alike : AlikeOptional p p') (lengths : params.length = params'.length) :
    Together SameParts (compileEvent userKey baseKey p params tenant)
      (compileEvent userKey baseKey p' params' tenant') := by
  have pushed : (params ++ [Value.text tenant]).length = (params' ++ [Value.text tenant']).length := by
    simp only [List.length_append, List.length_singleton, lengths]
  cases alike with
  | none => exact .accepted ⟨rfl, pushed⟩
  | some alike =>
    refine (compilePredicate_together alike pushed).bind fun tested tested' same => .accepted ?_
    refine ⟨?_, same.2⟩
    dsimp only
    rw [same.1]

theorem compileRecency_together {event : Dataset} {userKey baseKey tsColumn catalogAlias : String}
    {withinDays : Nat} {p p' : Option Predicate} (alike : AlikeOptional p p')
    (lengths : params.length = params'.length) :
    Together SameText
      (compileRecency event userKey baseKey tsColumn withinDays p params catalogAlias tenant)
      (compileRecency event userKey baseKey tsColumn withinDays p' params' catalogAlias tenant') := by
  refine (compileEvent_together alike lengths).bind fun parts parts' same => .accepted ⟨?_, same.2⟩
  dsimp only
  rw [same.1]

theorem compileLapsed_together {event : Dataset} {userKey baseKey tsColumn catalogAlias : String}
    {withinDays : Nat} {p p' : Option Predicate} (alike : AlikeOptional p p')
    (lengths : params.length = params'.length) :
    Together SameText
      (compileLapsed event userKey baseKey tsColumn withinDays p params catalogAlias tenant)
      (compileLapsed event userKey baseKey tsColumn withinDays p' params' catalogAlias tenant') := by
  refine (compileEvent_together alike lengths).bind fun before before' first => ?_
  refine (compileEvent_together alike first.2).bind fun recent recent' second => ?_
  refine .accepted ⟨?_, second.2⟩
  dsimp only
  rw [first.1, second.1]

theorem compileFeature_together {name baseKey catalogAlias : String} {op : Cmp} {value value' : F64}
    {asOf asOf' : Option String} (bounded : asOf.isSome = asOf'.isSome)
    (lengths : params.length = params'.length) :
    Together SameText (compileFeature name op value baseKey params catalogAlias tenant asOf)
      (compileFeature name op value' baseKey params' catalogAlias tenant' asOf') := by
  unfold compileFeature
  refine (Together.refl_of (fun _ => rfl) _).bind fun split split' same => ?_
  obtain rfl : split = split' := same
  refine (Together.refl_of (fun _ => rfl) _).bind fun cmp cmp' same => ?_
  obtain rfl : cmp = cmp' := same
  cases asOf <;> cases asOf' <;> first | contradiction | refine .accepted ⟨rfl, ?_⟩
  all_goals simp only [List.length_append, List.length_singleton, lengths]

variable {opts : CompileOptions}

theorem compileNoRepeat_same {campaignId campaignId' baseKey : String}
    (lengths : params.length = params'.length) :
    SameText (compileNoRepeat campaignId baseKey opts params)
      (compileNoRepeat campaignId' baseKey { opts with tenant := tenant' } params') := by
  refine ⟨rfl, ?_⟩
  change (params ++ [_] ++ [_]).length = (params' ++ [_] ++ [_]).length
  simp only [List.length_append, List.length_singleton, lengths]

theorem compileCap_same {cap : FrequencyCap} {baseKey : String}
    (lengths : params.length = params'.length) :
    SameText (compileCap cap baseKey opts params)
      (compileCap cap baseKey { opts with tenant := tenant' } params') := by
  refine ⟨rfl, ?_⟩
  change (params ++ [_] ++ [_]).length = (params' ++ [_] ++ [_]).length
  simp only [List.length_append, List.length_singleton, lengths]

theorem compileExclude_same {campaignId campaignId' baseKey : String}
    (lengths : params.length = params'.length) :
    SameText (compileExclude campaignId baseKey opts params)
      (compileExclude campaignId' baseKey { opts with tenant := tenant' } params') := by
  unfold compileExclude
  dsimp only
  cases opts.suppression.perCampaignNoRepeat with
  | false =>
    cases opts.suppression.frequencyCap with
    | none => exact ⟨rfl, lengths⟩
    | some cap => exact compileCap_same lengths
  | true =>
    have repeated : SameText (compileNoRepeat campaignId baseKey opts params)
        (compileNoRepeat campaignId' baseKey { opts with tenant := tenant' } params') :=
      compileNoRepeat_same lengths
    cases opts.suppression.frequencyCap with
    | none => exact repeated
    | some cap =>
      have capped : SameText _ (compileCap cap baseKey { opts with tenant := tenant' } _) :=
        compileCap_same repeated.2
      refine ⟨?_, capped.2⟩
      simp only [↓reduceIte]
      change joined " AND " [_, _] = joined " AND " [_, _]
      rw [repeated.1, capped.1]

theorem Gathered.add_same {gathered gathered' : Gathered} {read : List Dataset}
    {emitted emitted' : String × List Value} (before : SameGathered gathered gathered')
    (same : SameText emitted emitted') :
    SameGathered (gathered.add read emitted) (gathered'.add read emitted') := by
  obtain ⟨text, pushed⟩ := emitted
  obtain ⟨text', pushed'⟩ := emitted'
  obtain rfl : text = text' := same.1
  exact ⟨congrArg (· ++ [text]) before.1, same.2⟩

theorem compileConjunct_together {key : String} {asOf asOf' : Option String} {op op' : Op}
    {gathered gathered' : Gathered} (alike : AlikeOp op op')
    (bounded : asOf.isSome = asOf'.isSome) (before : SameGathered gathered gathered') :
    Together SameGathered (compileConjunct opts key asOf gathered op)
      (compileConjunct { opts with tenant := tenant' } key asOf' gathered' op') := by
  cases alike with
  | filter alike =>
    exact (compilePredicate_together alike before.2).bind fun _ _ same =>
      .accepted (Gathered.add_same before same)
  | recency alike =>
    exact (compileRecency_together alike before.2).bind fun _ _ same =>
      .accepted (Gathered.add_same before same)
  | lapsed alike =>
    exact (compileLapsed_together alike before.2).bind fun _ _ same =>
      .accepted (Gathered.add_same before same)
  | feature =>
    exact (compileFeature_together bounded before.2).bind fun _ _ same =>
      .accepted (Gathered.add_same before same)
  | exclude => exact .accepted (Gathered.add_same before (compileExclude_same before.2))
  | setOp => exact .rejected _ _
  | derive => exact .rejected _ _
  | similar => exact .rejected _ _
  | characterize => exact .rejected _ _

theorem compileDerive_together {source : Dataset} {key name name' : String} {metric : JitMetric}
    {gathered gathered' : Gathered} (before : SameGathered gathered gathered') :
    Together SameStatement (compileDerive opts source key gathered name metric)
      (compileDerive { opts with tenant := tenant' } source key gathered' name' metric) := by
  unfold compileDerive
  dsimp only
  cases opts.deriveLimit with
  | none => exact .rejected _ _
  | some limit =>
    refine .accepted ⟨?_, ?_⟩
    · dsimp only
      rw [before.1]
      rfl
    · change (gathered.params ++ [_] ++ [_]).length = (gathered'.params ++ [_] ++ [_]).length
      simp only [List.length_append, List.length_singleton, before.2]

theorem AlikeOp.ends {op op' : Op} (alike : AlikeOp op op') : op.ends = op'.ends := by
  cases alike <;> rfl

theorem compileOps_together {source : Dataset} {key : String} {asOf asOf' : Option String}
    {depth : Nat} {ops ops' : List Op} {gathered gathered' : Gathered}
    (branches : ∀ kind other, Op.setOp kind other ∈ ops → ∀ other', Alike other other' → ∀ depth,
      Together SameStatement (compileAt opts other depth)
        (compileAt { opts with tenant := tenant' } other' depth))
    (alike : AlikeOps ops ops') (bounded : asOf.isSome = asOf'.isSome)
    (before : SameGathered gathered gathered') :
    Together SameStatement (compileOps opts source key asOf depth gathered ops)
      (compileOps { opts with tenant := tenant' } source key asOf' depth gathered' ops') := by
  induction ops generalizing ops' gathered gathered' with
  | nil =>
    cases alike
    exact .accepted ⟨congrArg (baseSelect source key · opts.catalogAlias) before.1, before.2⟩
  | cons op rest ih =>
    cases alike with
    | @cons _ op' _ rest' here later =>
      cases ends : op.ends with
      | false =>
        rw [compileOps_cons rest ends, compileOps_cons rest' (here.ends ▸ ends)]
        refine (compileConjunct_together here bounded before).bind fun after after' same => ?_
        exact ih (fun kind other member => branches kind other (List.mem_cons_of_mem _ member))
          later same
      | true =>
        cases here with
        | derive =>
          rw [compileOps, compileOps]
          exact compileDerive_together before
        | @setOp kind other other' alike =>
          have empty : rest.isEmpty = rest'.isEmpty := by cases later <;> rfl
          rw [compileOps, compileOps, empty]
          split
          · refine (branches kind other List.mem_cons_self other' alike _).bind fun _ _ same => ?_
            refine .accepted ⟨?_, ?_⟩
            · simp only [combine, before.1, same.1]
            · simp only [combine, List.length_append, before.2, same.2]
          · exact .rejected _ _
        | _ => contradiction

theorem compileAt_together (q : SegmentQuery) : ∀ q', Alike q q' → ∀ depth,
    Together SameStatement (compileAt opts q depth)
      (compileAt { opts with tenant := tenant' } q' depth) := by
  induction q using SegmentQuery.nested with
  | step q branches =>
    intro q' alike depth
    cases alike with
    | query inOps bounded =>
      rw [compileAt, compileAt]
      split
      · exact .rejected _ _
      · exact compileOps_together branches inOps bounded ⟨rfl, rfl⟩

theorem AlikeOps.dropLast {ops ops' : List Op} (alike : AlikeOps ops ops') :
    AlikeOps ops.dropLast ops'.dropLast := by
  induction ops generalizing ops' with
  | nil =>
    cases alike
    exact .nil
  | cons op rest ih =>
    cases alike with
    | cons here later =>
      cases later with
      | nil => exact .nil
      | cons next behind => exact .cons here (ih (.cons next behind))

/-- The last operations of two alike lists. -/
theorem AlikeOps.getLast {ops ops' : List Op} (alike : AlikeOps ops ops') :
    (ops.getLast? = none ∧ ops'.getLast? = none) ∨
      ∃ op op', ops.getLast? = some op ∧ ops'.getLast? = some op' ∧ AlikeOp op op' := by
  induction ops generalizing ops' with
  | nil =>
    cases alike
    exact .inl ⟨rfl, rfl⟩
  | cons op rest ih =>
    cases alike with
    | cons here later =>
      cases later with
      | nil => exact .inr ⟨_, _, rfl, rfl, here⟩
      | cons next behind =>
        simpa only [List.getLast?_cons_cons] using ih (.cons next behind)

theorem segment_same {segment segment' : CompiledQuery} {columns eventTable select : String}
    {sources sources' : List Dataset} (same : SameStatement segment segment') :
    SameStatement
      ⟨segmentAndEvents segment.sql columns eventTable (tenantEq "e" segment.params tenant).1 ++ select,
        (tenantEq "e" segment.params tenant).2, sources⟩
      ⟨segmentAndEvents segment'.sql columns eventTable
          (tenantEq "e" segment'.params tenant').1 ++ select,
        (tenantEq "e" segment'.params tenant').2, sources'⟩ := by
  refine ⟨?_, ?_⟩
  · dsimp only [tenantEq]
    rw [same.1]
  · simp only [tenantEq, List.length_append, List.length_singleton, same.2]

theorem compileCharacterize_together (q q' : SegmentQuery) (alike : Alike q q') :
    Together SameProfile (compileCharacterize q opts)
      (compileCharacterize q' { opts with tenant := tenant' }) := by
  cases alike with
  | @query source key ops ops' asOf asOf' inOps bounded =>
    unfold compileCharacterize
    dsimp only
    rcases inOps.getLast with ⟨none, none'⟩ | ⟨op, op', last, last', here⟩
    · rw [none, none']
      exact .rejected _ _
    · rw [last, last']
      cases here with
      | characterize =>
        refine (compileAt_together ⟨source, key, ops.dropLast, asOf⟩ ⟨source, key, ops'.dropLast, asOf'⟩
          (.query inOps.dropLast bounded) 0).bind fun segment segment' same => .accepted ?_
        exact ⟨segment_same same, segment_same same, segment_same same⟩
      | _ => exact .rejected _ _

end

section
variable {isRfc3339 : String → Bool} {q q' : SegmentQuery}

/-- Queries that differ in their literals only compile to one text, whatever the tenants, and
that text is the compiler's own but for validated identifiers and the digits of numbers. -/
theorem literals_stay_out (valid : validate isRfc3339 q = .ok ()) (alike : Alike q q')
    (opts : CompileOptions) (tenant' : String) :
    Together SameStatement (compileWithOpts q opts)
      (compileWithOpts q' { opts with tenant := tenant' }) ∧
    Together SameProfile (compileCharacterize q opts)
      (compileCharacterize q' { opts with tenant := tenant' }) ∧
    (∀ compiled, compileWithOpts q opts = .ok compiled → Rendered ("?" :: phrases) compiled.sql) ∧
    (∀ profile, compileCharacterize q opts = .ok profile →
      Rendered ("?" :: phrases) profile.metrics.sql ∧
      Rendered ("?" :: phrases) profile.recency.sql ∧
      Rendered ("?" :: phrases) profile.categories.sql) := by
  refine ⟨compileAt_together q q' alike 0, compileCharacterize_together q q' alike,
    fun compiled returned => (compileWithOpts_laid valid returned).rendered, ?_⟩
  intro profile returned
  obtain ⟨metrics, recency, categories⟩ := compileCharacterize_laid valid returned
  exact ⟨metrics.rendered, recency.rendered, categories.rendered⟩

end

/-- The same question about other statuses and another campaign, with hostile literals. -/
def openNotContacted : SegmentQuery :=
  { payingNotContacted with
    ops := [.filter ⟨"status", .isIn, .array [.string "') OR 1=1 --", .string "?"]⟩,
      .exclude "x' OR '1'='1"] }

theorem literals_stay_out_openNotContacted :
    Together SameStatement (compileWithOpts payingNotContacted (readOptions "acme"))
      (compileWithOpts openNotContacted (readOptions "globex")) :=
  (@literals_stay_out (fun _ => true) payingNotContacted openNotContacted rfl
    (.query (.cons (.filter ⟨rfl, rfl, rfl⟩) (.cons .exclude .nil)) rfl) (readOptions "acme")
    "globex").1

end ConsumerEngine.Query
