import ConsumerEngine.Query.Answers
import ConsumerEngine.Query.PlainEngine

/-! Which users an `Exclude` keeps, against the rules it is documented to apply.

The rules count a user's contacts that were targeted or delivered; the emitted frequency
cap counts those that were targeted alone.
-/

set_option autoImplicit false

namespace ConsumerEngine.Query

open ConsumerEngine.Core ConsumerEngine.Sql ConsumerEngine.Storage

/-- The actions the rules speak of. -/
def Reached (row : StoredSuppression) : Prop := row.action ∈ ["targeted", "delivered"]

instance (row : StoredSuppression) : Decidable (Reached row) :=
  inferInstanceAs (Decidable (row.action ∈ _))

section
variable (rules : SuppressionRules) (start : Nat → Int) (contacts : Multiset StoredSuppression)
  (campaignId : String)

/-- The user was already reached for the campaign. -/
def Repeated : Prop :=
  rules.perCampaignNoRepeat = true ∧ ∃ row ∈ contacts, row.campaignId = campaignId ∧ Reached row

/-- The contacts of an action within the window of a cap. -/
def recent (counts : StoredSuppression → Prop) [DecidablePred counts] (cap : FrequencyCap) :
    Multiset StoredSuppression :=
  contacts.filter fun row => counts row ∧ start cap.windowDays ≤ row.occurredTs

/-- The documented rules spare a user with these contacts. -/
structure Spared : Prop where
  fresh : ¬ Repeated rules contacts campaignId
  below : ∀ cap, rules.frequencyCap = some cap →
    (recent start contacts Reached cap).card < cap.maxContacts

/-- Delivered contacts do not tip the scale: the user is left out for the campaign anyway,
or the targeted contacts reach the cap by themselves, or not even all together do. -/
def TargetedSuffice : Prop :=
  ∀ cap, rules.frequencyCap = some cap → Repeated rules contacts campaignId ∨
    cap.maxContacts ≤ (recent start contacts (·.action = "targeted") cap).card ∨
      (recent start contacts Reached cap).card < cap.maxContacts

end

section
variable {V : Type} [DecidableEq V] {E : Engine V} {rules : SuppressionRules}
  {contacts : Multiset StoredSuppression} {campaignId : String}

omit [DecidableEq V] in
/-- The emitted cap counts the targeted contacts within the window. -/
theorem belowCap_eq (clock : Clock E) (cap : FrequencyCap) :
    E.belowCap contacts cap = .ofBool (decide
      ((recent clock.start contacts (·.action = "targeted") cap).card < cap.maxContacts)) := by
  have kept : keep (fun row => compared E.toScalars .ge (some (E.instant row.occurredTs))
      ((E.daysAgo cap.windowDays).bind (E.cast "timestamptz")))
      (contacts.filter fun row => row.action = "targeted") =
      some (recent clock.start contacts (·.action = "targeted") cap) := by
    simp only [clock.days_ago, compared, clock.compare_instant]
    rw [keep_ofBool, Multiset.filter_filter, recent]
    exact congrArg some (Multiset.filter_congr fun row _ => and_comm)
  rw [Engine.belowCap]
  simp only [kept, clock.compare_count]
  -- A user without such contacts forms no group, and no cap is zero.
  have positive := cap.maxContacts_pos
  by_cases none_ : (recent clock.start contacts (·.action = "targeted") cap).card = 0
  · simp [none_, positive, Truth.negate, Truth.ofBool]
  · by_cases below : (recent clock.start contacts (·.action = "targeted") cap).card < cap.maxContacts
    · simp [none_, below, Nat.not_le.mpr below, Truth.ofBool, Truth.settled, Truth.negate]
    · simp [none_, below, Nat.not_lt.mp below, Truth.ofBool, Truth.settled, Truth.negate]

omit [DecidableEq V] in
/-- Whom the emitted conjuncts spare. -/
theorem spares_eq_yes (clock : Clock E) :
    E.spares rules contacts campaignId = .yes ↔ ¬ Repeated rules contacts campaignId ∧
      ∀ cap, rules.frequencyCap = some cap →
        (recent clock.start contacts (·.action = "targeted") cap).card < cap.maxContacts := by
  have fresh : Truth.all (if rules.perCampaignNoRepeat then [notRepeated contacts campaignId] else [])
      = .yes ↔ ¬ Repeated rules contacts campaignId := by
    by_cases on : rules.perCampaignNoRepeat = true
    · rw [if_pos on, Truth.all_cons, Truth.all_nil, Truth.both_yes, notRepeated, Truth.ofBool_eq_yes,
        decide_eq_true_eq]
      simp [Repeated, on, Reached]
    · rw [if_neg on]
      simp [Repeated, on]
  have below : Truth.all (rules.frequencyCap.map (E.belowCap contacts)).toList = .yes ↔
      ∀ cap, rules.frequencyCap = some cap →
        (recent clock.start contacts (·.action = "targeted") cap).card < cap.maxContacts := by
    cases rules.frequencyCap with
    | none => simp
    | some cap => simp [belowCap_eq clock, Truth.ofBool_eq_yes]
  rw [Engine.spares, Truth.all_append, Truth.both_eq_yes, fresh, below]

omit [DecidableEq V] in
theorem spares_ne_failed (clock : Clock E) : E.spares rules contacts campaignId ≠ .failed := by
  obtain ⟨repeats, cap⟩ := rules
  have decided : ∃ b, E.spares ⟨repeats, cap⟩ contacts campaignId = .ofBool b := by
    cases repeats with
    | true => cases cap <;> exact ⟨_, by simp [Engine.spares, notRepeated, belowCap_eq clock]; rfl⟩
    | false =>
      cases cap with
      | none => exact ⟨true, rfl⟩
      | some cap => exact ⟨_, by simp [Engine.spares, belowCap_eq clock]; rfl⟩
  obtain ⟨b, same⟩ := decided
  rw [same]
  exact Truth.ofBool_ne_failed b

/-- The text of an `Exclude` runs wherever its names stand for something. -/
theorem exclude_runs (clock : Clock E) {isRfc3339 : String → Bool} {opts : CompileOptions}
    {catalog : Catalog} {q : SegmentQuery} {compiled : CompiledQuery}
    (only : q.ops = [.exclude campaignId]) (valid : validate isRfc3339 q = .ok ())
    (returned : compileWithOpts q opts = .ok compiled)
    (named : isScoped (E.tables opts.catalog catalog) (phraseAt opts q) = true) :
    ∃ table, Sql.execute E.toScalars (E.tables opts.catalog catalog) compiled.sql compiled.params =
      some table := by
  obtain ⟨source, key, ops, asOf⟩ := q
  obtain rfl : ops = _ := only
  have narrows : ∀ op ∈ [Op.exclude campaignId], op.narrows = true := by simp [Op.narrows]
  rw [execute_rows valid returned (hasDerive_narrowing narrows), if_pos named,
    survivors_level narrows, Population.level]
  rw [keep_eq_some.mpr ⟨fun row _ => ?_, rfl⟩]
  · exact ⟨_, rfl⟩
  · simpa only [List.map_cons, List.map_nil, Truth.all_cons, Truth.all_nil, Truth.both_yes,
      Population.meets, Engine.population] using spares_ne_failed clock

/-- A base user is kept by the compiled text exactly if the emitted conjuncts spare them. -/
theorem exclude_keeps {isRfc3339 : String → Bool} {opts : CompileOptions} {catalog : Catalog}
    {source : Dataset} {key : String} {asOf : Option String} {depth : Nat} {compiled : CompiledQuery}
    {table : Table V} {user : Cell}
    (valid : validate isRfc3339 ⟨source, key, [.exclude campaignId], asOf⟩ = .ok ())
    (returned : compileAt opts ⟨source, key, [.exclude campaignId], asOf⟩ depth = .ok compiled)
    (ran : Sql.execute E.toScalars (E.tables opts.catalog catalog) compiled.sql compiled.params =
      some table)
    (base : ∃ row ∈ ownRows catalog opts.tenant source, row (foldName key) = user) :
    [E.cell user] ∈ table.rows ↔
      E.spares opts.suppression (contactsOf catalog opts.tenant user) campaignId = .yes := by
  have narrows : ∀ op ∈ [Op.exclude campaignId], op.narrows = true := by simp [Op.narrows]
  rw [execute_rows valid returned (hasDerive_narrowing narrows)] at ran
  split at ran
  · rw [survivors_level narrows, Population.level] at ran
    obtain ⟨users, selected, rfl⟩ := Option.map_eq_some_iff.mp ran
    obtain ⟨kept, keeps, rfl⟩ := Option.map_eq_some_iff.mp selected
    obtain ⟨-, rfl⟩ := keep_eq_some.mp keeps
    rw [Engine.keyTable, key_mem_keys, Multiset.mem_toFinset, Multiset.mem_map]
    simp only [List.map_cons, List.map_nil, Truth.all_cons, Truth.all_nil, Truth.both_yes,
      Population.meets, Engine.population, Multiset.mem_filter]
    constructor
    · rintro ⟨row, ⟨-, spared⟩, rfl⟩
      exact spared
    · obtain ⟨row, member, rfl⟩ := base
      exact fun spared => ⟨row, ⟨member, spared⟩, rfl⟩
  · cases ran

end

/-- One contact within thirty days is the most. -/
def cappedOptions : CompileOptions :=
  { readOptions "acme" with suppression := ⟨true, some ⟨1, by decide, 30, by decide⟩⟩ }

def notContacted : SegmentQuery := ⟨⟨"erp", "orders"⟩, "user_id", [.exclude "c1"], none⟩

/-- An order of a user whom another campaign has contacted. -/
def contactedOnce (action : String) : Catalog :=
  { Catalog.empty.setRaw "raw_erp_orders"
      ⟨["user_id", "tenant_id"], {rowOf ["user_id", "tenant_id"] [some "u1", some "acme"]}⟩ with
    suppression := some [⟨"s1", "c2", "u1", "email", action, 0, 0, some "acme"⟩] }

theorem contactsOf_contactedOnce (action : String) :
    contactsOf (contactedOnce action) "acme" (some "u1") =
      {⟨"s1", "c2", "u1", "email", action, 0, 0, some "acme"⟩} := by
  simp [contactsOf, contactedOnce]

theorem base_contactedOnce (action : String) :
    ∃ row ∈ ownRows (contactedOnce action) "acme" ⟨"erp", "orders"⟩,
      row (foldName "user_id") = some "u1" := by
  have name : rawName ⟨"erp", "orders"⟩ = "raw_erp_orders" := by decide
  refine ⟨rowOf ["user_id", "tenant_id"] [some "u1", some "acme"], ?_, by decide⟩
  simp only [ownRows, name, contactedOnce, Catalog.rowsOf, Catalog.setRaw_self]
  exact Multiset.mem_filter.mpr ⟨Multiset.mem_singleton_self _, by decide⟩

theorem contactedOnce_runs (action : String) : ∃ compiled table,
    compileWithOpts notContacted cappedOptions = .ok compiled ∧
      Sql.execute (plainEngine 0 fun _ => none).toScalars
        ((plainEngine 0 fun _ => none).tables cappedOptions.catalog (contactedOnce action))
        compiled.sql compiled.params = some table := by
  obtain ⟨table, ran⟩ := @exclude_runs _ _ _ "c1" (plainClock 0 fun _ => none) (fun _ => true)
    cappedOptions (contactedOnce action) notContacted _ rfl rfl rfl rfl
  exact ⟨_, table, rfl, ran⟩

end ConsumerEngine.Query
