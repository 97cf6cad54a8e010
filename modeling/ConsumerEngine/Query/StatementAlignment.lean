import ConsumerEngine.Query.Alignment

/-! The alignment of placeholders in whole statements: the compiled query, the three
profile queries, and the statement a snapshot is written with.
-/

set_option autoImplicit false

namespace ConsumerEngine.Query

open ConsumerEngine.Core ConsumerEngine.Foundation ConsumerEngine.Storage

def layoutProfile (segment : Layout) (columns eventTable select tenant : String) : Layout :=
  [.text "WITH segment AS ("] ++ segment ++
    [.text "), ev AS (SELECT e.user_id, ", .text columns,
      .text ", (s.user_id IS NOT NULL) AS in_seg FROM ", .text eventTable,
      .text " e LEFT JOIN segment s ON s.user_id = e.user_id WHERE ", .hole (.tenant "e" tenant),
      .text ")", .text select]

def layoutJoin (key : String) (idx : Nat) (family : String) (shorts : List String)
    (asOfTs tenant : String) : Layout :=
  [.text " LEFT JOIN (SELECT ", .text (joined ", " (pivotColumns family shorts)), .text " FROM ",
    .text writeCatalogAlias, .text ".feature_store WHERE starts_with(feature_name, '",
    .text family, .text ".') AND ", .hole (.pivotCutOff asOfTs),
    .text " GROUP BY user_id, tenant_id) ", .text (pivotAlias idx), .text " ON ",
    .text (pivotAlias idx), .text ".user_id = s.", .text key, .text " AND ",
    .hole (.tenant (pivotAlias idx) tenant)]

def layoutJoins (key : String) (idx : Nat) (asOfTs tenant : String) : Families → Layout
  | [] => []
  | (family, shorts) :: rest =>
      layoutJoin key idx family shorts asOfTs tenant ++ layoutJoins key (idx + 1) asOfTs tenant rest

def layoutWrap (key : String) (families : Families) (chain asOfTs tenant : String)
    (selection : Layout) : Layout :=
  [.text "SELECT s.", .text key, .text " AS ", .text key, .text ", ", .text (featuresExpr families),
    .text " AS features, ", .hole (.hitReason chain), .text " FROM ("] ++ selection ++
    [.text ") s"] ++ layoutJoins key 0 asOfTs tenant families

def layoutSnapshot (key : String) (spec : SnapshotSpec) (tenant : String) (subquery : Layout) :
    Layout :=
  [.text "INSERT INTO ", .text writeCatalogAlias,
    .text ".audience_snapshot (snapshot_id, campaign_id, as_of_ts, ",
    .text "user_id, features, hit_reason, tenant_id) SELECT ", .hole (.snapshotId spec),
    .text ", ", .hole (.snapshotCampaign spec), .text ", ", .hole (.snapshotAsOf spec),
    .text ", ", .text "sub.", .text key, .text ", sub.features, sub.hit_reason, ",
    .hole (.snapshotTenant tenant), .text " FROM ("] ++ subquery ++ [.text ") sub"]

section
variable {layout : Layout} {columns eventTable select tenant key asOfTs chain : String}
  {families : Families} {spec : SnapshotSpec}

theorem layoutProfile_emits {sql : String} {params : List Value}
    (segment : layout.Emits [] (sql, params)) :
    (layoutProfile layout columns eventTable select tenant).Emits []
      (segmentAndEvents sql columns eventTable (tenantEq "e" params tenant).1 ++ select,
        (tenantEq "e" params tenant).2) := by
  have text : sql = _ := segment.text
  have values : params.map some = _ := segment.values
  unfold segmentAndEvents layoutProfile tenantEq
  refine ⟨?_, ?_⟩
  · simp only [text, Template.spell_append, Template.spell, Piece.spell, fragment_tenant,
      String.append_assoc, String.append_empty]
  · simp only [List.map_append, values, Layout.values_append, Layout.values_text, Layout.values_hole,
      Layout.values_nil, List.map_nil, List.nil_append]
    rfl

theorem layoutJoin_text (asOfTs tenant : String) (idx : Nat) (family : String)
    (shorts : List String) :
    pivotJoin key idx family shorts = (layoutJoin key idx family shorts asOfTs tenant).text := by
  unfold pivotJoin layoutJoin
  simp only [Template.spell, Piece.spell, fragment_tenant, fragment_pivotCutOff,
    String.append_assoc, String.append_empty]

theorem layoutJoins_text (asOfTs tenant : String) (idx : Nat) :
    pivotJoins key idx families = (layoutJoins key idx asOfTs tenant families).text := by
  induction families generalizing idx with
  | nil => rfl
  | cons family rest ih =>
    rw [pivotJoins, layoutJoins, Layout.text, Template.spell_append, ih,
      layoutJoin_text asOfTs tenant]

theorem layoutJoins_values (idx : Nat) :
    (layoutJoins key idx asOfTs tenant families).values =
      (families.flatMap fun _ => [Value.text asOfTs, .text tenant]).map some := by
  induction families generalizing idx with
  | nil => rfl
  | cons family rest ih =>
    rw [layoutJoins, Layout.values_append, ih, List.flatMap_cons, List.map_append]
    rfl

theorem layoutWrap_emits {write : CompiledQuery}
    (selection : layout.Emits [] (write.sql, write.params)) :
    (layoutWrap key families chain asOfTs tenant layout).Emits []
      (wrapSql key families write, wrapParams chain asOfTs tenant families write) := by
  have text : write.sql = _ := selection.text
  have values : write.params.map some = _ := selection.values
  unfold wrapSql wrapParams layoutWrap
  refine ⟨?_, ?_⟩
  · simp only [text, layoutJoins_text asOfTs tenant, Template.spell_append,
      Template.spell, Piece.spell, fragment_hitReason, String.append_assoc, String.append_empty]
  · simp only [List.map_append, values, Layout.values_append, Layout.values_text, Layout.values_hole,
      Layout.values_nil, layoutJoins_values, List.map_nil, List.nil_append, List.append_nil]
    rfl

theorem layoutSnapshot_emits {sql : String} {params : List Value}
    (subquery : layout.Emits [] (sql, params)) :
    (layoutSnapshot key spec tenant layout).Emits []
      (snapshotStatement sql key, snapshotParams spec tenant params) := by
  have text : sql = _ := subquery.text
  have values : params.map some = _ := subquery.values
  have scalars : "user_id, features, hit_reason, tenant_id) SELECT CAST(? AS UUID), ?, CAST(? AS TIMESTAMPTZ), " =
    "user_id, features, hit_reason, tenant_id) SELECT " ++ ("CAST(? AS UUID)" ++ (", " ++ ("?" ++
      (", " ++ ("CAST(? AS TIMESTAMPTZ)" ++ ", "))))) := by decide
  have owner : ", sub.features, sub.hit_reason, ? FROM (" = ", sub.features, sub.hit_reason, " ++
    ("?" ++ " FROM (") := by decide
  unfold snapshotStatement snapshotParams layoutSnapshot
  refine ⟨?_, ?_⟩
  · simp only [scalars, owner, text, Template.spell_append, Template.spell, Piece.spell, fragment_snapshotId,
      fragment_snapshotCampaign, fragment_snapshotAsOf, fragment_snapshotTenant,
      String.append_assoc, String.append_empty]
  · simp only [List.map_append, values, Layout.values_append, Layout.values_text, Layout.values_hole,
      Layout.values_nil, List.map_nil, List.nil_append, List.append_nil]
    rfl

theorem Rendered.joined {separator : String} {parts : List String} (listed : separator ∈ phrases)
    (each : ∀ part ∈ parts, Rendered phrases part) : Rendered phrases (joined separator parts) := by
  induction parts with
  | nil =>
    refine .phrase ?_
    simp only [Foundation.joined, phrases, List.mem_cons, true_or]
  | cons first rest ih =>
    obtain ⟨here, later⟩ := List.forall_mem_cons.mp each
    cases rest with
    | nil => exact here
    | cons second rest => exact (here.append (.phrase listed)).append (ih later)

theorem comma_listed : ", " ∈ phrases := by simp only [phrases, List.mem_cons, true_or, or_true]

theorem pivotAlias_rendered (idx : Nat) : Rendered phrases (pivotAlias idx) :=
  .append (.ident rfl) (.digits idx)

theorem pivotColumns_rendered {family : String} {shorts : List String}
    (named : isIdent family = true) (shortNamed : ∀ short ∈ shorts, isIdent short = true) :
    Rendered phrases (joined ", " (pivotColumns family shorts)) := by
  refine .joined comma_listed (List.forall_mem_append.mpr ⟨?_, ?_⟩)
  · exact List.forall_mem_cons.mpr ⟨.ident rfl, List.forall_mem_singleton.mpr (.ident rfl)⟩
  · intro part member
    obtain ⟨short, present, rfl⟩ := List.mem_map.mp member
    refine .append (.append (.append (.append (.append (.phrase ?_) (.ident named)) (.phrase ?_))
      (.ident (shortNamed short present))) (.phrase ?_)) (.ident (shortNamed short present)) <;>
      simp only [phrases, List.mem_cons, true_or, or_true]

theorem jsonPairs_rendered (named : families.Named) (idx : Nat) :
    ∀ part ∈ jsonPairs idx families, Rendered phrases part := by
  induction families generalizing idx with
  | nil => exact List.forall_mem_nil _
  | cons family rest ih =>
    obtain ⟨here, later⟩ := List.forall_mem_cons.mp named
    refine List.forall_mem_append.mpr ⟨fun part member => ?_, ih later (idx + 1)⟩
    obtain ⟨short, present, rfl⟩ := List.mem_map.mp member
    have ident : Rendered phrases short := .ident (here.2 short present)
    refine .append (.append (.append (.append (.append (.append (.append (.phrase ?_)
      (.ident here.1)) (.phrase ?_)) ident) (.phrase ?_)) (pivotAlias_rendered idx)) (.phrase ?_))
      ident <;>
      simp only [phrases, List.mem_cons, true_or, or_true]

theorem featuresExpr_rendered (named : families.Named) : Rendered phrases (featuresExpr families) := by
  unfold featuresExpr
  dsimp only
  split
  · refine .phrase ?_
    simp only [phrases, List.mem_cons, true_or, or_true]
  · refine .append (.append (.phrase ?_) (.joined comma_listed (jsonPairs_rendered named 0)))
      (.phrase ?_) <;>
      simp only [phrases, List.mem_cons, true_or, or_true]

theorem layoutJoins_rendered (named : families.Named) (ident : isIdent key = true) (idx : Nat) :
    (layoutJoins key idx asOfTs tenant families).Rendered := by
  induction families generalizing idx with
  | nil => exact trivial
  | cons family rest ih =>
    obtain ⟨here, later⟩ := List.forall_mem_cons.mp named
    have pivot := pivotAlias_rendered idx
    refine .append (.textCons (.phrase ?_) (.textCons (pivotColumns_rendered here.1 here.2)
      (.textCons (.phrase ?_) (.textCons (.ident rfl) (.textCons (.phrase ?_)
        (.textCons (.ident here.1) (.textCons (.phrase ?_) (.holeCons (.phrase ?_) (.phrase ?_)
          (.textCons (.phrase ?_) (.textCons pivot (.textCons (.phrase ?_) (.textCons pivot
            (.textCons (.phrase ?_) (.textCons (.ident ident) (.textCons (.phrase conjunction_listed)
              (relation_rendered pivot trivial)))))))))))))))) (ih later (idx + 1)) <;>
      simp only [phrases, spelling, List.mem_cons, true_or, or_true]

theorem layoutWrap_rendered (named : families.Named) (ident : isIdent key = true)
    (selection : layout.Rendered) :
    (layoutWrap key families chain asOfTs tenant layout).Rendered := by
  refine .append (.append (.append (.textCons (.phrase ?_) (.textCons (.ident ident)
    (.textCons (.phrase ?_) (.textCons (.ident ident) (.textCons (.phrase ?_)
      (.textCons (featuresExpr_rendered named) (.textCons (.phrase ?_)
        (.holeCons (.phrase ?_) (.phrase ?_) (.textCons (.phrase ?_) trivial)))))))))
    selection) (.textCons (.phrase ?_) trivial)) (layoutJoins_rendered named ident 0) <;>
    simp only [phrases, spelling, List.mem_cons, true_or, or_true]

theorem layoutSnapshot_rendered (ident : isIdent key = true) (subquery : layout.Rendered) :
    (layoutSnapshot key spec tenant layout).Rendered := by
  have comma := Rendered.phrase comma_listed
  refine .append (.append (.textCons (.phrase ?_) (.textCons (.ident rfl) (.textCons (.phrase ?_)
    (.textCons (.phrase ?_) (.holeCons (.phrase ?_) (.phrase ?_) (.textCons comma
      (.holeCons (.phrase ?_) (.phrase ?_) (.textCons comma (.holeCons (.phrase ?_) (.phrase ?_)
        (.textCons comma (.textCons (.phrase ?_) (.textCons (.ident ident) (.textCons (.phrase ?_)
          (.holeCons (.phrase ?_) (.phrase ?_) (.textCons (.phrase ?_) trivial)))))))))))))))
    subquery) (.textCons (.phrase ?_) trivial) <;>
    simp only [phrases, spelling, List.mem_cons, true_or, or_true]

theorem layoutProfile_rendered (segment : layout.Rendered) (listed : Rendered phrases columns)
    (table : Rendered phrases eventTable) (closing : select ∈ phrases) :
    (layoutProfile layout columns eventTable select tenant).Rendered := by
  refine .append (.append (.textCons (.phrase ?_) trivial) segment) (.textCons (.phrase ?_)
    (.textCons listed (.textCons (.phrase ?_) (.textCons table (.textCons (.phrase ?_)
      (tenant_rendered rfl (.textCons (.phrase ?_) (.textCons (.phrase closing) trivial)))))))) <;>
    simp only [phrases, List.mem_cons, true_or, or_true]

end

/-- The elements of a compiled query. -/
def queryElements (opts : CompileOptions) (q : SegmentQuery) : List Element :=
  Template.holes (layoutQuery opts q)

/-- The elements of each profile query: those of the segment, then the event rows' tenant. -/
def profileElements (opts : CompileOptions) (q : SegmentQuery) : List Element :=
  queryElements opts (stripLastOp q) ++ [.tenant "e" opts.tenant]

/-- The elements of the statement a snapshot is written with. -/
def snapshotElements (opts : CompileOptions) (q : SegmentQuery) (families : Families)
    (spec : SnapshotSpec) (chain : String) : List Element :=
  Template.holes (layoutSnapshot q.key spec opts.tenant
    (layoutWrap q.key families chain spec.asOfTs opts.tenant (layoutQuery opts q)))

section
variable {isRfc3339 : String → Bool} {q : SegmentQuery} {opts : CompileOptions}

theorem layoutSegment_rendered (opts : CompileOptions) (valid : validate isRfc3339 q = .ok ()) :
    (layoutQuery opts (stripLastOp q)).Rendered := by
  have level := validate_ok valid
  obtain ⟨source, key, ops, asOf⟩ := q
  rw [stripLastOp, layoutQuery]
  exact layoutOps_rendered level.source level.key
    (fun op member => level.ops op (List.dropLast_subset _ member))
    (fun _ other _ inner => layoutQuery_rendered opts other inner)
    (List.forall_mem_singleton.mpr (tenant_rendered rfl trivial))

theorem holes_layoutProfile {segment : Layout} {columns eventTable select tenant : String} :
    Template.holes (layoutProfile segment columns eventTable select tenant) =
      Template.holes segment ++ [.tenant "e" tenant] := by
  simp only [layoutProfile, Template.holes_append, Template.holes, List.nil_append]

/-- A compiled query is laid out with the given elements. -/
def Laid (compiled : CompiledQuery) (elements : List Element) : Prop :=
  ∃ layout : Layout, layout.Emits [] (compiled.sql, compiled.params) ∧ layout.Rendered ∧
    Template.holes layout = elements

theorem Laid.aligned {compiled : CompiledQuery} {elements : List Element}
    (laid : Laid compiled elements) : Aligned compiled.sql compiled.params elements := by
  obtain ⟨layout, emits, rendered, rfl⟩ := laid
  exact emits.aligned rendered

theorem Laid.rendered {compiled : CompiledQuery} {elements : List Element}
    (laid : Laid compiled elements) : Rendered ("?" :: phrases) compiled.sql := by
  obtain ⟨layout, emits, rendered, -⟩ := laid
  have text : compiled.sql = layout.text := emits.text
  rw [text]
  exact rendered.text

theorem compileWithOpts_laid (valid : validate isRfc3339 q = .ok ()) {compiled : CompiledQuery}
    (returned : compileWithOpts q opts = .ok compiled) : Laid compiled (queryElements opts q) :=
  ⟨_, compileAt_emits q 0 compiled returned, layoutQuery_rendered opts q valid, rfl⟩

theorem compileCharacterize_laid (valid : validate isRfc3339 q = .ok ())
    {profile : CharacterizeQueries} (returned : compileCharacterize q opts = .ok profile) :
    Laid profile.metrics (profileElements opts q) ∧ Laid profile.recency (profileElements opts q) ∧
      Laid profile.categories (profileElements opts q) := by
  unfold compileCharacterize at returned
  cases last : q.ops.getLast? with
  | none => simp only [last, reduceCtorEq] at returned
  | some op =>
    have checked := (validate_ok valid).ops op (List.mem_of_getLast? last)
    cases op with
    | characterize event tsColumn monetaryColumn categoryColumn =>
      obtain ⟨named, ts, monetary, category⟩ := validateCharacterize_ok checked
      simp only [last] at returned
      obtain ⟨segment, compiled, built⟩ := except_bind_eq_ok.mp returned
      have table := rawTable_rendered named opts.alias_ident
      have emits := compileAt_emits (stripLastOp q) _ _ compiled
      have rendered := layoutSegment_rendered opts valid
      have laid {columns select : String} {sources : List Dataset}
          (listed : Rendered phrases columns) (closing : select ∈ phrases) :
          Laid ⟨segmentAndEvents segment.sql columns (rawTable event opts.catalogAlias)
              (tenantEq "e" segment.params opts.tenant).1 ++ select,
            (tenantEq "e" segment.params opts.tenant).2, sources⟩ (profileElements opts q) :=
        ⟨_, layoutProfile_emits emits, layoutProfile_rendered rendered listed table closing,
          holes_layoutProfile⟩
      cases built
      refine ⟨laid (.append (.append (.phrase ?_) (.ident monetary)) (.phrase ?_)) ?_,
        laid (.append (.append (.phrase ?_) (.ident ts)) (.phrase ?_)) ?_,
        laid (.append (.append (.phrase ?_) (.ident category)) (.phrase ?_)) ?_⟩ <;>
        simp only [phrases, List.mem_cons, true_or, or_true]
    | _ => simp only [last, reduceCtorEq] at returned

/-- Every placeholder of every statement built from a validated query is bound to the value of
the element whose fragment holds it. -/
theorem placeholders_aligned (valid : validate isRfc3339 q = .ok ()) :
    (∀ compiled, compileWithOpts q opts = .ok compiled →
      Aligned compiled.sql compiled.params (queryElements opts q)) ∧
    (∀ profile, compileCharacterize q opts = .ok profile →
      Aligned profile.metrics.sql profile.metrics.params (profileElements opts q) ∧
      Aligned profile.recency.sql profile.recency.params (profileElements opts q) ∧
      Aligned profile.categories.sql profile.categories.params (profileElements opts q)) ∧
    (∀ compiled families spec chain, compileWithOpts q opts = .ok compiled → families.Named →
      Aligned (snapshotStatement (wrapSql q.key families compiled) q.key)
        (snapshotParams spec opts.tenant (wrapParams chain spec.asOfTs opts.tenant families compiled))
        (snapshotElements opts q families spec chain)) := by
  have key := (validate_ok valid).key
  have rendered := layoutQuery_rendered opts q valid
  refine ⟨fun compiled returned => (compileWithOpts_laid valid returned).aligned, ?profile,
    ?snapshot⟩
  case profile =>
    intro profile returned
    obtain ⟨metrics, recency, categories⟩ := compileCharacterize_laid valid returned
    exact ⟨metrics.aligned, recency.aligned, categories.aligned⟩
  case snapshot =>
    intro compiled families spec chain returned named
    exact (layoutSnapshot_emits (layoutWrap_emits (compileAt_emits q _ _ returned))).aligned
      (layoutSnapshot_rendered key (layoutWrap_rendered named key rendered))

end

/-- Paying customers of the shop who were not contacted in the spring campaign. -/
def payingNotContacted : SegmentQuery where
  source := ⟨"erp", "orders"⟩
  key := "user_id"
  ops := [.filter ⟨"status", .isIn, .array [.string "paid", .string "sent"]⟩, .exclude "spring"]
  asOf := none

def readOptions (tenant : String) : CompileOptions where
  catalogAlias := "dro"
  alias_ident := rfl
  suppression := ⟨true, none⟩
  deriveLimit := none
  tenant := tenant

theorem placeholders_aligned_payingNotContacted :
    ∃ compiled, compileWithOpts payingNotContacted (readOptions "acme") = .ok compiled ∧
      Aligned compiled.sql compiled.params (queryElements (readOptions "acme") payingNotContacted) :=
  ⟨_, rfl, (@placeholders_aligned (fun _ => true) _ _ rfl).1 _ rfl⟩

end ConsumerEngine.Query
