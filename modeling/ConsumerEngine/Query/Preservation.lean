import ConsumerEngine.Query.Dependence
import ConsumerEngine.Query.FeaturePaths

/-! Queries against the texts they compile to.

The reference reads every feature from the feature store. A level without a cut-off is compiled to
read a wide view in its place.
-/

set_option autoImplicit false

namespace ConsumerEngine.Query

open ConsumerEngine.Core ConsumerEngine.Sql ConsumerEngine.Storage FeatureBatch

section
variable {V : Type} (E : Engine V)

/-- The data of the tenant as the reference sees it: the newest value of a feature, up to the cut-off
where there is one. -/
def Engine.reference (opts : CompileOptions) (catalog : Catalog) : Population where
  rows := ownRows catalog opts.tenant
  spares campaignId user := E.spares opts.suppression (contactsOf catalog opts.tenant user) campaignId
  featured asOf name op value user :=
    let rows := featuresOf catalog opts.tenant user name
    match asOf with
    | some cutoff => E.boundedMeets cutoff op value rows
    | none => E.newestMeets op value rows

end

/-- The column that the family's view has under the short name is of a feature with the same values
for everyone. -/
def Shown (catalog : Catalog) (name : String) : Prop :=
  ∀ family short, splitFeatureName name = .ok (family, short) → isKeyColumn short = false ∧
    ∀ view shown, catalog.wideView family = some view → shownIn view short = some shown →
      ∀ tenant user, valuesOf catalog tenant user (view.1 ++ "." ++ shown) =
        valuesOf catalog tenant user name

/-- Every feature that a level asks for without a cut-off is shown by its view. -/
def ShowsAsked (catalog : Catalog) (q : SegmentQuery) : Prop :=
  ∀ name op value, Asks q none name op value → Shown catalog name

/-- Where all its names resolve, a text answers as the reference does. -/
def Preserves {V : Type} [DecidableEq V] (E : Engine V) (opts : CompileOptions) (catalog : Catalog)
    (q : SegmentQuery) (compiled : CompiledQuery) : Prop :=
  ∀ query, statement compiled.sql compiled.params = some query →
    isScoped (E.tables opts.catalog catalog) query = true →
      execute E.toScalars (E.tables opts.catalog catalog) compiled.sql compiled.params =
        (E.reference opts catalog).answer E q

section
variable {V : Type} {E : Engine V} {opts : CompileOptions} {catalog : Catalog}

/-- A view that shows a feature has a column for it, where its name resolves. -/
theorem shownIn_present {source : Dataset} {key name family short : String} {value : F64}
    (split : splitFeatureName name = .ok (family, short)) (apart : isKeyColumn short = false)
    (present : Present E opts catalog (featureReads opts source key name value none)) :
    ∃ view shown, catalog.wideView family = some view ∧ shownIn view short = some shown := by
  have parts : featureParts name = (family, short) := by rw [featureParts, split]
  have column := present (.column opts.catalog (wideTable family) (foldName short)) (by
    simp [featureReads, parts, engineReads])
  rw [Read.present, Engine.tables, if_pos rfl, E.table_wide] at column
  cases found : catalog.wideView family with
  | none =>
    rw [found] at column
    cases column
  | some view =>
    rw [found] at column
    have listed : foldName short ∈ "user_id" :: "tenant_id" :: view.2.map foldName :=
      List.contains_iff_mem.mp column
    have notKey : ¬ (foldName "user_id" = foldName short ∨ foldName "tenant_id" = foldName short) := by
      rw [← isKeyColumn_iff, apart]
      exact Bool.false_ne_true
    have folded : foldName "user_id" = "user_id" ∧ foldName "tenant_id" = "tenant_id" := by decide
    rw [folded.1, folded.2] at notKey
    have among : foldName short ∈ view.2.map foldName := by
      rcases List.mem_cons.mp listed with own | later
      · exact absurd (.inl own.symm) notKey
      · rcases List.mem_cons.mp later with theirs | rest
        · exact absurd (.inr theirs.symm) notKey
        · exact rest
    obtain ⟨other, member, same⟩ := List.mem_map.mp among
    have some_ : (shownIn view short).isSome = true :=
      List.find?_isSome.mpr ⟨other, member, decide_eq_true same⟩
    obtain ⟨shown, first⟩ := Option.isSome_iff_exists.mp some_
    exact ⟨view, shown, rfl, first⟩

/-- Where the view shows the feature, it compares the feature's newest value. -/
theorem Shown.meets {source : Dataset} {key name family short : String} {op : Cmp} {value : F64}
    (shows : Shown catalog name) (split : splitFeatureName name = .ok (family, short))
    (present : Present E opts catalog (featureReads opts source key name value none)) (user : Cell) :
    E.wideMeets catalog opts.tenant name op value user =
      E.newestMeets op value (featuresOf catalog opts.tenant user name) := by
  obtain ⟨apart, same⟩ := shows family short split
  obtain ⟨view, shown, found, first⟩ := shownIn_present split apart present
  rw [wideMeets_found split found apart first, newestMeets_values, newestMeets_values,
    same view shown found first]

/-- A level that narrows asks by its own cut-off. -/
theorem asks_level {q : SegmentQuery} {asOf : Option String} {name : String} {op : Cmp} {value : F64}
    (asks : Asks q asOf name op value) :
    (q.asOf = asOf ∧ Op.feature name op value ∈ q.ops) ∨
      ∃ kind other, Op.setOp kind other ∈ q.ops ∧ Asks other asOf name op value := by
  obtain ⟨depth, inner, nested, same, member⟩ := asks
  cases nested with
  | here => exact .inl ⟨same, member⟩
  | branch among below => exact .inr ⟨_, _, among, _, inner, below, same, member⟩

/-- The tables behind the features that a level asks for are read. -/
theorem levelReads_feature {source : Dataset} {key : String} {asOf : Option String} {ops : List Op}
    {name : String} {op : Cmp} {value : F64}
    (present : Present E opts catalog (levelReads opts source key asOf ops))
    (member : Op.feature name op value ∈ ops) :
    Present E opts catalog (featureReads opts source key name value asOf) := by
  have asked := (present_append.mp (List.forall_mem_cons.mp (List.forall_mem_cons.mp present).2).2).2
  exact present_flatMap.mp asked _ member

/-- So are those behind every feature that a query asks for. -/
theorem asked_present {isRfc3339 : String → Bool} {q : SegmentQuery} {sources : List Dataset}
    {scope : Scope} (shaped : Shaped isRfc3339 opts q sources)
    (present : Present E opts catalog ((phraseAt opts q).reads scope)) {asOf : Option String}
    {name : String} {op : Cmp} {value : F64} (asks : Asks q asOf name op value) :
    validateOp isRfc3339 (.feature name op value) = .ok () ∧ ∃ source key,
      Present E opts catalog (featureReads opts source key name value asOf) := by
  induction shaped with
  | level narrowing =>
    rw [phraseAt_level narrowing.narrows, Ast.reads, levelPhrase_reads narrowing.narrows] at present
    rcases asks_level asks with ⟨rfl, member⟩ | ⟨kind, other, member, -⟩
    · exact ⟨narrowing.checked _ member, _, _, levelReads_feature present member⟩
    · cases narrowing.narrows _ member
  | setOp narrowing branch ih =>
    rw [phraseAt_setOp narrowing.narrows] at present
    simp only [Ast.reads, levelPhrase_reads narrowing.narrows, present_append] at present
    obtain ⟨-, mine, others⟩ := present
    rcases asks_level asks with ⟨rfl, member⟩ | ⟨kind, other, member, below⟩
    · rcases List.mem_append.mp member with here | last
      · exact ⟨narrowing.checked _ here, _, _, levelReads_feature mine here⟩
      · cases List.mem_singleton.mp last
    · rcases List.mem_append.mp member with here | last
      · cases narrowing.narrows _ here
      · cases List.mem_singleton.mp last
        exact ih others below
  | derive narrowing injected =>
    rw [phraseAt_derive narrowing.narrows injected, metricPhrase_reads rfl,
      levelPhrase_reads narrowing.narrows, present_append] at present
    rcases asks_level asks with ⟨rfl, member⟩ | ⟨kind, other, member, -⟩
    · rcases List.mem_append.mp member with here | last
      · exact ⟨narrowing.checked _ here, _, _, levelReads_feature present.1 here⟩
      · cases List.mem_singleton.mp last
    · rcases List.mem_append.mp member with here | last
      · cases narrowing.narrows _ here
      · cases List.mem_singleton.mp last

/-- A query whose features are shown by their views cannot tell what it reads from the reference. -/
theorem reference_indistinct {isRfc3339 : String → Bool} {q : SegmentQuery} {sources : List Dataset}
    {scope : Scope} (shaped : Shaped isRfc3339 opts q sources)
    (present : Present E opts catalog ((phraseAt opts q).reads scope)) (shows : ShowsAsked catalog q) :
    Indistinct (E.population opts catalog) (E.reference opts catalog) q where
  rows := rfl
  spares := rfl
  featured asOf name op value asks := funext fun user => by
    cases asOf with
    | some cutoff => rfl
    | none =>
      obtain ⟨valid, source, key, there⟩ := asked_present shaped present asks
      rw [validateOp] at valid
      obtain ⟨⟨family, short⟩, split⟩ : ∃ parts, splitFeatureName name = .ok parts := by
        unfold validateFeature at valid
        cases split : splitFeatureName name with
        | ok parts => exact ⟨parts, rfl⟩
        | error failure =>
          rw [split] at valid
          cases valid
      exact (shows name op value asks).meets split there user

end

/-- Where every feature asked for without a cut-off is shown by its family's view, a compiled text
answers as the query does over the reference. -/
theorem compiled_preserves {V : Type} [DecidableEq V] {E : Engine V} {opts : CompileOptions}
    {catalog : Catalog} {isRfc3339 : String → Bool} {q : SegmentQuery} {compiled : CompiledQuery}
    (valid : validate isRfc3339 q = .ok ()) (returned : compileWithOpts q opts = .ok compiled)
    (roomy : Roomy E opts catalog q) (shows : ShowsAsked catalog q) :
    Preserves E opts catalog q compiled := by
  intro query parsed named
  obtain rfl := Option.some.inj ((compileAt_statement valid returned).symm.trans parsed)
  have same := @reference_indistinct _ E opts catalog _ q _ .empty
    (compileAt_shaped q valid 0 compiled returned) (isScoped_iff.mp named) shows
  rw [execute_answer valid returned roomy, if_pos named, same.answer]

/-! ### One feature -/

theorem equalTo_asks {asked name : String} {op : Cmp} {value threshold : F64} {asOf : Option String}
    (asks : Asks (equalTo asked threshold none) asOf name op value) : name = asked := by
  rcases asks_level asks with ⟨-, member⟩ | ⟨kind, other, member, -⟩
  · cases List.mem_singleton.mp member
    rfl
  · cases List.mem_singleton.mp member

theorem equalTo_roomy {V : Type} [DecidableEq V] {E : Engine V} {opts : CompileOptions}
    {catalog : Catalog} {name : String} {value : F64} {asOf : Option String} :
    Roomy E opts catalog (equalTo name value asOf) := fun derives => by cases derives

/-- A value of a feature, and an order of its user. -/
def regularOnce : Catalog := withBase (storedOnce "cadence" "regularity") (baseOf "u1" "acme")

theorem compiled_preserves_regularity : ∃ compiled,
    compileWithOpts (equalTo "cadence.regularity" (9 / 10) none) (readOptions "acme") = .ok compiled ∧
      Preserves (plainEngine 0 fun _ => none) (readOptions "acme") regularOnce
        (equalTo "cadence.regularity" (9 / 10) none) compiled := by
  have split : splitFeatureName "cadence.regularity" = .ok ("cadence", "regularity") := by decide
  obtain ⟨compiled, returned⟩ := @equalTo_compiles "cadence.regularity" "cadence" "regularity" "acme"
    (9 / 10) none split
  refine ⟨compiled, returned, compiled_preserves (equalTo_valid split) returned equalTo_roomy
    fun name op value asks => ?_⟩
  obtain rfl := equalTo_asks asks
  intro family short parts
  cases split.symm.trans parts
  refine ⟨by decide, fun view shown found first tenant user => ?_⟩
  have drawn : regularOnce.wideView "cadence" = some ("cadence", ["regularity"]) := by decide
  obtain rfl := Option.some.inj (drawn.symm.trans found)
  have column : shownIn ("cadence", ["regularity"]) "regularity" = some "regularity" := by decide
  obtain rfl := Option.some.inj (column.symm.trans first)
  rfl

/-- A feature called like the user, and an order of its user. -/
def userIdOnce : Catalog := withBase (storedOnce "profile" "user_id") (baseOf "u1" "acme")

/-- The reference selects the user by the value. -/
theorem userIdOnce_reference {instant : Int} : ∃ users,
    ((picker (fun _ => 1 / 2) instant).reference (readOptions "acme") userIdOnce).answer
        (picker (fun _ => 1 / 2) instant) (equalTo "profile.user_id" (1 / 2) none) =
      some ((picker (fun _ => 1 / 2) instant).keyTable "user_id" users) ∧ some "u1" ∈ users := by
  let E := picker (fun _ => 1 / 2) instant
  let order := rowOf ["user_id", "tenant_id"] [some "u1", some "acme"]
  have only : (E.reference (readOptions "acme") userIdOnce).rows ⟨"erp", "orders"⟩ = {order} :=
    @ownRows_baseOf userIdOnce "u1" "acme"
  have owned : order (foldName "user_id") = some "u1" := by
    simp [order, rowOf]
  have held : featuresOf userIdOnce "acme" (some "u1") "profile.user_id" =
      {⟨"u1", "profile.user_id", 9 / 10, 0, "cadence_sql", some "acme"⟩} :=
    (Multiset.filter_singleton _).trans (if_pos ⟨rfl, rfl, rfl⟩)
  have valued : valuesOf userIdOnce "acme" (some "u1") "profile.user_id" ≠ 0 := by
    rw [valuesOf, held, Multiset.map_singleton]
    exact Multiset.singleton_ne_zero _
  have meets : E.newestMeets .eq (1 / 2) (featuresOf userIdOnce "acme" (some "u1") "profile.user_id") =
      .yes := picker_meets.mpr (if_neg valued)
  have single := (@level_single _ E (E.reference (readOptions "acme") userIdOnce) ⟨"erp", "orders"⟩
    "user_id" none order (.feature "profile.user_id" .eq (1 / 2)) only).mpr (by rw [owned]; exact meets)
  obtain ⟨users, selected, member⟩ := single
  have survive : (E.reference (readOptions "acme") userIdOnce).survivors E
      (equalTo "profile.user_id" (1 / 2) none) = some users :=
    (survivors_level (by simp [Op.narrows])).trans selected
  refine ⟨users, ?_, owned ▸ member⟩
  rw [Population.answer, survive]
  rfl

/-- A feature called like the user is compared as the user. -/
theorem user_id_read_as_user :
    ¬ ∀ (V : Type) [DecidableEq V] (E : Engine V) (opts : CompileOptions) (catalog : Catalog)
      (q : SegmentQuery) (compiled : CompiledQuery), validate (fun _ => true) q = .ok () →
      compileWithOpts q opts = .ok compiled → Roomy E opts catalog q →
        Preserves E opts catalog q compiled := by
  intro claimed
  have split : splitFeatureName "profile.user_id" = .ok ("profile", "user_id") := by decide
  have drawn : userIdOnce.wideView "profile" =
      some ("profile", shortsIn "profile" (stored userIdOnce)) := by decide
  obtain ⟨compiled, returned⟩ := @equalTo_compiles "profile.user_id" "profile" "user_id" "acme" (1 / 2)
    none split
  have valid : validate (fun _ => true) (equalTo "profile.user_id" (1 / 2) none) = .ok () :=
    equalTo_valid split
  have wide := @featureReads_wide _ (picker (fun _ => 1 / 2) 0) (readOptions "acme") userIdOnce
    ⟨"erp", "orders"⟩ "user_id" "profile.user_id" "profile" "user_id" (1 / 2) split drawn (by decide)
  have named := (@featureQuery_isScoped _ (picker (fun _ => 1 / 2) 0) (readOptions "acme") userIdOnce
    ⟨"erp", "orders"⟩ "user_id" "profile.user_id" .eq (1 / 2) none wide).mpr
      (@base_isScoped _ _ userIdOnce "u1" "acme")
  have answers := claimed Datum (picker (fun _ => 1 / 2) 0) (readOptions "acme") userIdOnce _ compiled
    valid returned equalTo_roomy _ (compileAt_statement valid returned) named
  obtain ⟨users, reference, member⟩ := @userIdOnce_reference 0
  have selects := @equalTo_selects _ (picker (fun _ => 1 / 2) 0) userIdOnce _ _ _ "u1" "acme" _
    (1 / 2) none compiled split returned wide
  have unmet := @shadowed_unmet userIdOnce "profile.user_id" "profile" "user_id" (fun _ => 1 / 2) 0
    "acme" "u1" _ split drawn (by decide)
  exact unmet (selects.mp ⟨_, answers.trans reference, key_mem_keys.mpr member⟩)

end ConsumerEngine.Query
