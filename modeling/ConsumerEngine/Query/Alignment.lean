import ConsumerEngine.Query.Placeholders

/-! The texts a query is rendered from, and the alignment of placeholders with parameters. -/

set_option autoImplicit false

namespace ConsumerEngine.Query

open ConsumerEngine.Core ConsumerEngine.Foundation ConsumerEngine.Storage

/-- The fixed text of the compiler's format strings, between what they interpolate. -/
def phrases : List String :=
  ["", " ", "(", ")", ") ", " (", ", ", ".", "'", "', ",
   "=", "<>", "<", "<=", ">", ">=", "LIKE", "NOT LIKE", "INTERSECT", "UNION", "EXCEPT", "1=1", "1=0", " IN (", " NOT IN (",
   " AND ", " WHERE ", " FROM ", " LIMIT ", " AS ", " ON ", " FROM (", ") s", ") SELECT ",
   "e.", "f.", " = base.", ".raw_", ".tenant_id = ", " base", " base WHERE ", " e WHERE ",
   "SELECT DISTINCT base.", "EXISTS (SELECT 1 FROM ", ") AND NOT EXISTS (SELECT 1 FROM ",
   "NOT EXISTS (SELECT 1 FROM ", ".suppression s WHERE s.user_id = base.", "s.campaign_id = ",
   " AND s.action IN ('targeted', 'delivered'))", " AND s.action = 'targeted' AND s.occurred_ts >= ",
   "CAST(CAST(now() AS TIMESTAMP) - INTERVAL '",
   "' DAY AS TIMESTAMPTZ) GROUP BY s.user_id HAVING ", "count(*) >= ",
   ".feature_store f WHERE f.user_id = base.", "f.feature_name = ", "f.as_of_ts <= CAST(",
   " AS TIMESTAMPTZ)", " GROUP BY f.user_id, f.feature_name HAVING ",
   "arg_max(f.num_value, f.as_of_ts) ", ".feature_wide_", " f WHERE f.user_id = base.",
   "CAST(e.", " AS TIMESTAMP) ", " CAST(now() AS TIMESTAMP) - INTERVAL '", "' DAY",
   "WITH survivor AS (", " AS user_id FROM ", " AS name", " AS value FROM survivor s JOIN ",
   " e ON e.user_id = s.user_id AND ", "count(*)", "sum(CAST(e.", "avg(CAST(e.", "min(CAST(e.",
   "max(CAST(e.", " AS DOUBLE))",
   "WITH segment AS (", "), ev AS (SELECT e.user_id, ", ", (s.user_id IS NOT NULL) AS in_seg FROM ",
   " e LEFT JOIN segment s ON s.user_id = e.user_id WHERE ", " AS DOUBLE) AS amount",
   " AS TIMESTAMP) AS ts", " AS category", metricsSelect, recencySelect, categoriesSelect,
   "SELECT s.", " AS features, ", "CAST(", " AS JSON) AS hit_reason", "json_object()",
   "json_object(", " LEFT JOIN (SELECT ", ".feature_store WHERE starts_with(feature_name, '",
   ".') AND ", "as_of_ts <= CAST(", " GROUP BY user_id, tenant_id) ", ".user_id = s.",
   "arg_max(num_value, as_of_ts) FILTER (WHERE feature_name = '", "') AS ",
   "INSERT INTO ", ".audience_snapshot (snapshot_id, campaign_id, as_of_ts, ",
   "user_id, features, hit_reason, tenant_id) SELECT ", " AS UUID)", "sub.",
   ", sub.features, sub.hit_reason, ", ") sub"]

/-- Text in which only identifiers and the digits of numbers are not fixed. -/
inductive Rendered (fixed : List String) : String → Prop where
  | phrase {s : String} (listed : s ∈ fixed) : Rendered fixed s
  | ident {s : String} (valid : isIdent s = true) : Rendered fixed s
  | digits (n : Nat) : Rendered fixed (toString n)
  | append {s t : String} (first : Rendered fixed s) (second : Rendered fixed t) :
      Rendered fixed (s ++ t)

theorem Rendered.mono {fixed more : List String} {s : String} (sub : ∀ t ∈ fixed, t ∈ more)
    (rendered : Rendered fixed s) : Rendered more s := by
  induction rendered with
  | phrase listed => exact .phrase (sub _ listed)
  | ident valid => exact .ident valid
  | digits n => exact .digits n
  | append _ _ first second => exact .append first second

/-- A literal is its characters, which are counted without decoding its bytes. -/
theorem marks_of_chars {s : String} {chars : List Char} (spelled : s = String.ofList chars)
    (none : chars.count '?' = 0) : marks s = 0 := by
  rw [marks, spelled, String.toList_ofList, none]

theorem marks_append_eq_zero {s t : String} (first : marks s = 0) (second : marks t = 0) :
    marks (s ++ t) = 0 := by
  rw [marks_append, first, second]

theorem marks_metricsSelect : marks metricsSelect = 0 := by
  unfold metricsSelect
  iterate 9 refine marks_append_eq_zero ?_ ?_
  all_goals exact marks_of_chars rfl (by decide)

theorem marks_recencySelect : marks recencySelect = 0 := by
  unfold recencySelect
  iterate 5 refine marks_append_eq_zero ?_ ?_
  all_goals exact marks_of_chars rfl (by decide)

theorem marks_categoriesSelect : marks categoriesSelect = 0 := by
  unfold categoriesSelect
  refine marks_append_eq_zero ?_ ?_
  all_goals exact marks_of_chars rfl (by decide)

theorem marks_phrases : ∀ s ∈ phrases, marks s = 0 := by
  simp only [phrases, List.forall_mem_cons, marks_metricsSelect, marks_recencySelect,
    marks_categoriesSelect, true_and]
  and_intros
  all_goals first | exact marks_of_chars rfl (by decide) | exact List.forall_mem_nil _

theorem marks_ident {s : String} (valid : isIdent s = true) : marks s = 0 := by
  refine List.count_eq_zero.mpr fun member => ?_
  exact absurd (isIdent_chars valid '?' member) (by decide)

theorem marks_digits (n : Nat) : marks (toString n) = 0 := by
  refine List.count_eq_zero.mpr fun member => ?_
  have digit := Nat.isDigit_of_mem_toDigits (by decide) (by decide) (Nat.toList_repr ▸ member)
  exact absurd digit (by decide)

theorem Rendered.unmarked {s : String} (rendered : Rendered phrases s) : marks s = 0 := by
  induction rendered with
  | phrase listed => exact marks_phrases _ listed
  | ident valid => exact marks_ident valid
  | digits n => exact marks_digits n
  | append _ _ first second => rw [marks_append, first, second]

/-- The text around every placeholder of a layout is rendered. -/
def Layout.Rendered : Layout → Prop
  | [] => True
  | .text s :: rest => Query.Rendered phrases s ∧ Layout.Rendered rest
  | .hole e :: rest => (Query.Rendered phrases (spelling.before e) ∧
      Query.Rendered phrases (spelling.after e)) ∧ Layout.Rendered rest

theorem Layout.Rendered.append {first second : Layout} (here : first.Rendered)
    (there : second.Rendered) : Layout.Rendered (first ++ second) := by
  induction first with
  | nil => exact there
  | cons piece rest ih => cases piece <;> exact ⟨here.1, ih here.2⟩

theorem Layout.Rendered.join {separator : String} {parts : List Layout}
    (listed : separator ∈ phrases) (each : ∀ part ∈ parts, Layout.Rendered part) :
    Layout.Rendered (Template.join separator parts) := by
  have between : Layout.Rendered [.text separator] := ⟨.phrase listed, trivial⟩
  induction parts with
  | nil => exact trivial
  | cons first rest ih =>
    obtain ⟨here, later⟩ := List.forall_mem_cons.mp each
    cases rest with
    | nil => exact here
    | cons second rest => exact (here.append between).append (ih later)

theorem Layout.Rendered.plain {layout : Layout} (rendered : layout.Rendered) :
    ∀ piece ∈ layout, piece.Plain spelling := by
  induction layout with
  | nil => exact List.forall_mem_nil _
  | cons piece rest ih =>
    cases piece with
    | text s => exact List.forall_mem_cons.mpr ⟨rendered.1.unmarked, ih rendered.2⟩
    | hole e =>
      exact List.forall_mem_cons.mpr
        ⟨⟨rendered.1.1.unmarked, rendered.1.2.unmarked⟩, ih rendered.2⟩

theorem Layout.Rendered.text {layout : Layout} (rendered : layout.Rendered) :
    Query.Rendered ("?" :: phrases) layout.text := by
  have more : ∀ s ∈ phrases, s ∈ "?" :: phrases := fun s => List.mem_cons_of_mem _
  induction layout with
  | nil => exact .phrase (List.mem_cons_of_mem _ List.mem_cons_self)
  | cons piece rest ih =>
    cases piece with
    | text s => exact .append (rendered.1.mono more) (ih rendered.2)
    | hole e =>
      have before := (rendered.1.1.mono more).append (.phrase List.mem_cons_self)
      exact (before.append (rendered.1.2.mono more)).append (ih rendered.2)

/-- Each placeholder of a text is bound to the element whose fragment holds it. -/
structure Aligned (sql : String) (params : List Value) (elements : List Element) : Prop where
  count : marks sql = params.length
  bound : ∀ (i : Nat) (value : Value), params[i]? = some value →
    ∃ e before after, elements[i]? = some e ∧ e.value = some value ∧
      sql = before ++ spelling.fragment e ++ after ∧ marks before = i ∧
        marks (spelling.fragment e) = 1

theorem Layout.Emits.aligned {layout : Layout} {emitted : String × List Value}
    (emits : layout.Emits [] emitted) (rendered : layout.Rendered) :
    Aligned emitted.1 emitted.2 (Template.holes layout) where
  count := by
    have lengths := congrArg List.length emits.values
    simp only [List.map_nil, List.nil_append, List.length_map] at lengths
    rw [emits.text, Template.marks_spell spelling rendered.plain, lengths]
  bound := by
    intro i value at_i
    have values : emitted.2.map some = (Template.holes layout).map Element.value := emits.values
    have here := congrArg (·[i]?) values
    simp only [List.getElem?_map, at_i, Option.map_some] at here
    obtain ⟨e, found, same⟩ := Option.map_eq_some_iff.mp here.symm
    obtain ⟨before, after, split, counted, one⟩ :=
      Template.holes_placed spelling rendered.plain found
    exact ⟨e, before, after, found, same, emits.text.trans split, counted, one⟩

theorem Layout.Rendered.textCons {s : String} {rest : Layout} (here : Query.Rendered phrases s)
    (later : rest.Rendered) : Layout.Rendered (.text s :: rest) := ⟨here, later⟩

theorem Layout.Rendered.holeCons {e : Element} {rest : Layout}
    (before : Query.Rendered phrases (spelling.before e))
    (after : Query.Rendered phrases (spelling.after e)) (later : rest.Rendered) :
    Layout.Rendered (.hole e :: rest) := ⟨⟨before, after⟩, later⟩

section
variable {d event source : Dataset} {key baseKey userKey tsColumn catalogAlias tenant rel col : String}
  {predicate : Option Predicate} {opts : CompileOptions} {withinDays : Nat}

theorem rawTable_rendered (named : NamedDataset d) (ident : isIdent catalogAlias = true) :
    Rendered phrases (rawTable d catalogAlias) := by
  have raw : ".raw_" ∈ phrases := by simp only [phrases, List.mem_cons, true_or, or_true]
  exact .append (.append (.append (.append (.ident ident) (.phrase raw)) (.ident named.1))
    (.ident rfl)) (.ident named.2)

theorem relation_rendered (rendered : Rendered phrases rel) {rest : Layout} (later : rest.Rendered) :
    Layout.Rendered (.hole (.tenant rel tenant) :: rest) := by
  refine .holeCons (rendered.append (.phrase ?_)) (.phrase ?_) later <;>
    simp only [phrases, spelling, List.mem_cons, true_or, or_true]

theorem tenant_rendered (ident : isIdent rel = true) {rest : Layout} (later : rest.Rendered) :
    Layout.Rendered (.hole (.tenant rel tenant) :: rest) :=
  relation_rendered (.ident ident) later

theorem symbol_rendered {op : Cmp} {symbol : String} (binary : binaryCmpSymbol op = some symbol) :
    Rendered phrases symbol := by
  refine .phrase ?_
  cases op <;> cases binary <;> simp only [phrases, List.mem_cons, true_or, or_true]

theorem layoutIn_rendered {value : Json} {negate : Bool} (ident : Rendered phrases col) :
    (layoutIn col value negate).Rendered := by
  have tautology : Layout.Rendered [.text (if negate then "1=1" else "1=0")] := by
    refine .textCons (.phrase ?_) trivial
    cases negate <;>
      simp only [phrases, Bool.false_eq_true, ↓reduceIte, List.mem_cons, true_or, or_true]
  have items (rest : List Json) : ∀ part ∈ rest.map fun item => ([.hole (.listValue item)] : Layout),
      Layout.Rendered part := by
    intro part member
    obtain ⟨item, -, rfl⟩ := List.mem_map.mp member
    refine .holeCons (.phrase ?_) (.phrase ?_) trivial <;>
      simp only [phrases, spelling, List.mem_cons, true_or]
  unfold layoutIn
  split
  · exact tautology
  · exact tautology
  · refine .append (.append (.textCons ?_ trivial) (.join ?_ (items _))) (.textCons ?_ trivial)
    · split <;> refine ident.append (.phrase ?_) <;>
        simp only [phrases, List.mem_cons, true_or, or_true]
    · simp only [phrases, List.mem_cons, true_or, or_true]
    · refine .phrase ?_
      simp only [phrases, List.mem_cons, true_or, or_true]

theorem layoutPredicate_rendered {p : Predicate} (ident : isIdent rel = true)
    (column : isIdent p.column = true) : (layoutPredicate rel p).Rendered := by
  have dot : "." ∈ phrases := by simp only [phrases, List.mem_cons, true_or, or_true]
  have blank : " " ∈ phrases := by simp only [phrases, List.mem_cons, true_or, or_true]
  have dotted : Rendered phrases (rel ++ "." ++ p.column) :=
    .append (.append (.ident ident) (.phrase dot)) (.ident column)
  unfold layoutPredicate
  split
  case h_1 symbol binary =>
    have compared := (dotted.append (.phrase blank)).append (symbol_rendered binary)
    refine .holeCons (compared.append (.phrase blank)) (.phrase ?_) trivial
    simp only [phrases, spelling, List.mem_cons, true_or]
  case h_2 => exact layoutIn_rendered dotted

theorem conjunction_listed : " AND " ∈ phrases := by
  simp only [phrases, List.mem_cons, true_or, or_true]

theorem layoutEvent_rendered (window : NamedWindow event userKey tsColumn predicate)
    (key : isIdent baseKey = true) :
    ∀ part ∈ layoutEvent userKey baseKey predicate tenant, part.Rendered := by
  have e : "e." ∈ phrases := by simp only [phrases, List.mem_cons, true_or, or_true]
  have base : " = base." ∈ phrases := by simp only [phrases, List.mem_cons, true_or, or_true]
  have joins : Rendered phrases ("e." ++ userKey ++ " = base." ++ baseKey) :=
    .append (.append (.append (.phrase e) (.ident window.userKey)) (.phrase base)) (.ident key)
  unfold layoutEvent
  refine List.forall_mem_append.mpr ⟨?_, ?_⟩
  · exact List.forall_mem_cons.mpr ⟨.textCons joins trivial,
      List.forall_mem_singleton.mpr (tenant_rendered rfl trivial)⟩
  · intro part member
    obtain ⟨p, present, rfl⟩ := Option.map_eq_some_iff.mp (Option.mem_toList.mp member)
    exact layoutPredicate_rendered rfl (window.predicate p present)

theorem windowTest_rendered {comparison : String} (ident : isIdent tsColumn = true)
    (listed : comparison ∈ phrases) :
    Rendered phrases (windowTest tsColumn comparison withinDays) := by
  refine .append (.append (.append (.append (.append (.append (.phrase ?_) (.ident ident))
    (.phrase ?_)) (.phrase listed)) (.phrase ?_)) (.digits withinDays)) (.phrase ?_) <;>
    simp only [phrases, List.mem_cons, true_or, or_true]

/-- The parts of one event condition. -/
theorem window_rendered {comparison : String} (window : NamedWindow event userKey tsColumn predicate)
    (key : isIdent baseKey = true) (listed : comparison ∈ phrases) :
    Layout.Rendered (Template.join " AND " (layoutEvent userKey baseKey predicate tenant ++
      [[.text (windowTest tsColumn comparison withinDays)]])) := by
  refine .join conjunction_listed (List.forall_mem_append.mpr ⟨layoutEvent_rendered window key, ?_⟩)
  exact List.forall_mem_singleton.mpr
    (.textCons (windowTest_rendered window.tsColumn listed) trivial)

theorem layoutRecency_rendered (window : NamedWindow event userKey tsColumn predicate)
    (key : isIdent baseKey = true) (ident : isIdent catalogAlias = true) :
    (layoutRecency event userKey baseKey tsColumn withinDays predicate catalogAlias
      tenant).Rendered := by
  have table := rawTable_rendered window.event ident
  refine .append (.append (.textCons (.phrase ?_) (.textCons table (.textCons (.phrase ?_) trivial)))
    (window_rendered window key ?_)) (.textCons (.phrase ?_) trivial) <;>
    simp only [phrases, List.mem_cons, true_or, or_true]

theorem layoutLapsed_rendered (window : NamedWindow event userKey tsColumn predicate)
    (key : isIdent baseKey = true) (ident : isIdent catalogAlias = true) :
    (layoutLapsed event userKey baseKey tsColumn withinDays predicate catalogAlias
      tenant).Rendered := by
  have table := rawTable_rendered window.event ident
  refine .append (.append (.append (.append
    (.textCons (.phrase ?_) (.textCons table (.textCons (.phrase ?_) trivial)))
    (window_rendered window key ?_))
    (.textCons (.phrase ?_) (.textCons table (.textCons (.phrase ?_) trivial))))
    (window_rendered window key ?_)) (.textCons (.phrase ?_) trivial) <;>
    simp only [phrases, List.mem_cons, true_or, or_true]

theorem layoutNoRepeat_rendered {campaignId : String} (key : isIdent baseKey = true) :
    (layoutNoRepeat campaignId baseKey opts).Rendered := by
  refine .textCons (.phrase ?_) (.textCons (.ident opts.alias_ident) (.textCons (.phrase ?_)
    (.textCons (.ident key) (.textCons (.phrase conjunction_listed) (tenant_rendered rfl
      (.textCons (.phrase conjunction_listed) (.holeCons (.phrase ?_) (.phrase ?_)
        (.textCons (.phrase ?_) trivial)))))))) <;>
    simp only [phrases, spelling, List.mem_cons, true_or, or_true]

theorem layoutCap_rendered {cap : FrequencyCap} (key : isIdent baseKey = true) :
    (layoutCap cap baseKey opts).Rendered := by
  refine .textCons (.phrase ?_) (.textCons (.ident opts.alias_ident) (.textCons (.phrase ?_)
    (.textCons (.ident key) (.textCons (.phrase conjunction_listed) (tenant_rendered rfl
      (.textCons (.phrase ?_) (.textCons (.phrase ?_) (.textCons (.digits cap.windowDays)
        (.textCons (.phrase ?_) (.holeCons (.phrase ?_) (.phrase ?_)
          (.textCons (.phrase ?_) trivial)))))))))))  <;>
    simp only [phrases, spelling, List.mem_cons, true_or, or_true]

theorem layoutExclude_rendered {campaignId : String} (key : isIdent baseKey = true) :
    (layoutExclude campaignId baseKey opts).Rendered := by
  have tautology : "1=1" ∈ phrases := by simp only [phrases, List.mem_cons, true_or, or_true]
  unfold layoutExclude
  generalize listed : (if opts.suppression.perCampaignNoRepeat then
      [layoutNoRepeat campaignId baseKey opts] else []) = repeated
  generalize capped : (opts.suppression.frequencyCap.map fun cap =>
      layoutCap cap baseKey opts).toList = caps
  dsimp only
  split
  · exact ⟨.phrase tautology, trivial⟩
  · refine .join conjunction_listed (List.forall_mem_append.mpr ⟨?_, ?_⟩)
    · rw [← listed]
      split
      · exact List.forall_mem_singleton.mpr (layoutNoRepeat_rendered key)
      · exact List.forall_mem_nil _
    · intro part member
      rw [← capped] at member
      obtain ⟨cap, -, rfl⟩ := Option.map_eq_some_iff.mp (Option.mem_toList.mp member)
      exact layoutCap_rendered key

theorem cmpSymbol_rendered {op : Cmp} {cmp : String} (symbol : cmpSymbol op = .ok cmp) :
    Rendered phrases cmp := by
  refine .phrase ?_
  cases op <;> cases symbol <;> simp only [phrases, List.mem_cons, true_or, or_true]

theorem layoutFeature_rendered {family short cmp name : String} {value : F64}
    {asOf : Option String} (named : isIdent family = true ∧ isIdent short = true)
    (symbol : Rendered phrases cmp) (key : isIdent baseKey = true)
    (ident : isIdent catalogAlias = true) :
    (layoutFeature family short cmp name value baseKey catalogAlias tenant asOf).Rendered := by
  have blank : " " ∈ phrases := by simp only [phrases, List.mem_cons, true_or, or_true]
  cases asOf with
  | some asOf =>
    refine .textCons (.phrase ?_) (.textCons (.ident ident) (.textCons (.phrase ?_)
      (.textCons (.ident key) (.textCons (.phrase conjunction_listed) (tenant_rendered rfl
        (.textCons (.phrase conjunction_listed) (.holeCons (.phrase ?_) (.phrase ?_)
          (.textCons (.phrase conjunction_listed) (.holeCons (.phrase ?_) (.phrase ?_)
            (.textCons (.phrase ?_) (.holeCons
              (.append (.append (.phrase ?_) symbol) (.phrase blank)) (.phrase ?_)
                (.textCons (.phrase ?_) trivial))))))))))))  <;>
      simp only [phrases, spelling, List.mem_cons, true_or, or_true]
  | none =>
    refine .textCons (.phrase ?_) (.textCons (.ident ident) (.textCons (.phrase ?_)
      (.textCons (.ident named.1) (.textCons (.phrase ?_) (.textCons (.ident key)
        (.textCons (.phrase conjunction_listed) (tenant_rendered rfl
          (.textCons (.phrase conjunction_listed) (.holeCons (.append (.append (.append
            (.append (.phrase ?_) (.ident named.2)) (.phrase blank)) symbol) (.phrase blank))
              (.phrase ?_) (.textCons (.phrase ?_) trivial)))))))))) <;>
      simp only [phrases, spelling, List.mem_cons, true_or, or_true]

theorem layoutConjunct_rendered {isRfc3339 : String → Bool} {asOf : Option String} {op : Op}
    (valid : validateOp isRfc3339 op = .ok ()) (ident : isIdent key = true) :
    (layoutConjunct opts key asOf op).Rendered := by
  cases op with
  | filter predicate => exact layoutPredicate_rendered rfl (validatePredicate_ok valid)
  | recency event userKey tsColumn withinDays predicate =>
    exact layoutRecency_rendered (validateWindow_ok valid) ident opts.alias_ident
  | lapsed event userKey tsColumn withinDays predicate =>
    exact layoutLapsed_rendered (validateWindow_ok valid) ident opts.alias_ident
  | feature name op value =>
    obtain ⟨family, short, split⟩ := validateFeature_ok valid
    simp only [layoutConjunct, split]
    cases symbol : cmpSymbol op with
    | ok cmp =>
      exact layoutFeature_rendered (splitFeatureName_ident split) (cmpSymbol_rendered symbol) ident
        opts.alias_ident
    | error failure => exact trivial
  | exclude campaignId => exact layoutExclude_rendered ident
  | setOp kind other => exact trivial
  | derive name metric => exact trivial
  | similar => exact trivial
  | characterize event tsColumn monetaryColumn categoryColumn => exact trivial

theorem layoutBase_rendered {parts : List Layout} (named : NamedDataset source)
    (ident : isIdent key = true) (each : ∀ part ∈ parts, Layout.Rendered part) :
    (layoutBase source key parts opts.catalogAlias).Rendered := by
  refine .append (.textCons (.phrase ?_) (.textCons (.ident ident) (.textCons (.phrase ?_)
    (.textCons (rawTable_rendered named opts.alias_ident) (.textCons (.phrase ?_) trivial)))))
    (.join conjunction_listed each) <;>
    simp only [phrases, List.mem_cons, true_or, or_true]

theorem aggregateOf_rendered {metric : JitMetric}
    (columns : ∀ column ∈ metricColumn metric, isIdent column = true) :
    Rendered phrases (aggregateOf metric) := by
  have closing : " AS DOUBLE))" ∈ phrases := by
    simp only [phrases, List.mem_cons, true_or, or_true]
  cases metric with
  | count event =>
    refine .phrase ?_
    simp only [aggregateOf, phrases, List.mem_cons, true_or, or_true]
  | sum event column | avg event column | min event column | max event column =>
    refine .append (.append (.phrase ?_) (.ident (columns column rfl))) (.phrase closing)
    simp only [phrases, List.mem_cons, true_or, or_true]

theorem layoutDerive_rendered {parts : List Layout} {limit : Nat} {name : String}
    {metric : JitMetric} (named : NamedDataset source) (ident : isIdent key = true)
    (each : ∀ part ∈ parts, Layout.Rendered part)
    (measured : NamedDataset (metricEvent metric) ∧
      ∀ column ∈ metricColumn metric, isIdent column = true) :
    (layoutDerive opts source key parts limit name metric).Rendered := by
  have table := rawTable_rendered named opts.alias_ident
  have events := rawTable_rendered measured.1 opts.alias_ident
  refine .append (.append (.textCons (.phrase ?_) (.textCons (.phrase ?_) (.textCons (.ident ident)
    (.textCons (.phrase ?_) (.textCons table (.textCons (.phrase ?_) (.textCons (.phrase ?_)
      trivial))))))) (.join conjunction_listed each)) (.textCons (.phrase ?_)
    (.textCons (.digits limit) (.textCons (.phrase ?_) (.holeCons (.phrase ?_) (.phrase ?_)
      (.textCons (.phrase ?_) (.textCons (aggregateOf_rendered measured.2) (.textCons (.phrase ?_)
        (.textCons events (.textCons (.phrase ?_) (tenant_rendered rfl trivial)))))))))) <;>
    simp only [phrases, spelling, List.mem_cons, true_or, or_true]

/-- The layout of a level, given that of the branches of the set operations met. -/
theorem layoutOps_rendered {isRfc3339 : String → Bool} {asOf : Option String} {ops : List Op}
    {parts : List Layout} (named : NamedDataset source) (ident : isIdent key = true)
    (valid : ∀ op ∈ ops, validateOp isRfc3339 op = .ok ())
    (branches : ∀ kind other, Op.setOp kind other ∈ ops → validate isRfc3339 other = .ok () →
      (layoutQuery opts other).Rendered)
    (each : ∀ part ∈ parts, Layout.Rendered part) :
    (layoutOps opts source key asOf parts ops).Rendered := by
  induction ops generalizing parts with
  | nil => exact layoutBase_rendered named ident each
  | cons op rest ih =>
    obtain ⟨here, later⟩ := List.forall_mem_cons.mp valid
    cases ends : op.ends with
    | false =>
      rw [layoutOps_cons rest ends]
      refine ih later (fun kind other member => branches kind other (List.mem_cons_of_mem _ member))
        (List.forall_mem_append.mpr ⟨each, ?_⟩)
      exact List.forall_mem_singleton.mpr (layoutConjunct_rendered here ident)
    | true =>
      cases op with
      | derive name metric =>
        rw [layoutOps]
        cases opts.deriveLimit with
        | none => exact trivial
        | some limit => exact layoutDerive_rendered named ident each (validateDerive_ok here)
      | setOp kind other =>
        rw [layoutOps]
        have keyword : setopKeyword kind ∈ phrases := by
          cases kind <;> simp only [setopKeyword, phrases, List.mem_cons, true_or, or_true]
        refine .append (.append (.append (.append (.textCons (.phrase ?_) trivial)
          (layoutBase_rendered named ident each)) (.textCons (.phrase ?_)
            (.textCons (.phrase keyword) (.textCons (.phrase ?_) trivial))))
          (branches kind other List.mem_cons_self here)) (.textCons (.phrase ?_) trivial) <;>
          simp only [phrases, List.mem_cons, true_or, or_true]
      | _ => contradiction

theorem layoutQuery_rendered {isRfc3339 : String → Bool} (opts : CompileOptions) (q : SegmentQuery)
    (valid : validate isRfc3339 q = .ok ()) : (layoutQuery opts q).Rendered := by
  induction q using SegmentQuery.nested with
  | step q branches =>
    have level := validate_ok valid
    obtain ⟨source, key, ops, asOf⟩ := q
    rw [layoutQuery]
    exact layoutOps_rendered level.source level.key level.ops branches
      (List.forall_mem_singleton.mpr (tenant_rendered rfl trivial))

end

end ConsumerEngine.Query
