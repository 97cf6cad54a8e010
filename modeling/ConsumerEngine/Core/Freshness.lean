import Mathlib.Algebra.Group.Int.Defs
import Mathlib.Data.Int.Order.Basic
import ConsumerEngine.Core.Identifiers

/-! The registry of when each source was last ingested, and the worst freshness of the sources
a query touched.

A lag is the difference of two `i64` readings and wraps where it leaves their range.
-/

set_option autoImplicit false

namespace ConsumerEngine.Core

/-- `SourceType`. -/
inductive SourceType where
  | batch | cdc
  deriving DecidableEq, Repr

/-- `SourceType::as_str`. -/
def SourceType.asStr : SourceType → String
  | .batch => "batch"
  | .cdc => "cdc"

/-- `SourceMeta`. -/
structure SourceMeta where
  sourceType : SourceType
  lastEpochSecs : Int
  deriving DecidableEq

/-- `Freshness`. -/
structure Freshness where
  worstSource : String
  lagSeconds : Int
  deriving DecidableEq

/-- `FreshnessRegistry`, by `system.entity`. -/
structure FreshnessRegistry where
  sources : String → Option SourceMeta

namespace FreshnessRegistry

/-- `FreshnessRegistry::new`. -/
def new : FreshnessRegistry := ⟨fun _ => none⟩

/-- `FreshnessRegistry::set`. -/
def set (registry : FreshnessRegistry) (system entity : String) (sourceType : SourceType)
    (epoch : Int) : Except Error FreshnessRegistry := do
  validateIdent system
  validateIdent entity
  return ⟨fun key => if key = system ++ "." ++ entity then some ⟨sourceType, epoch⟩
    else registry.sources key⟩

/-- `FreshnessRegistry::get`. -/
def get (registry : FreshnessRegistry) (system entity : String) : Option SourceMeta :=
  registry.sources (system ++ "." ++ entity)

/-- The difference of two `i64`s. -/
def difference (left right : Int) : Int := (left - right).bmod UInt64.size

/-- What the loop knows of a source: nothing is known of one that is not registered. -/
def sourceOf (registry : FreshnessRegistry) (now : Int) (d : Dataset) : SourceMeta :=
  (registry.get d.system d.entity).getD ⟨.batch, now⟩

/-- The lag the loop computes. -/
def wrappedLag (registry : FreshnessRegistry) (now : Int) (d : Dataset) : Int :=
  max (difference now (registry.sourceOf now d).lastEpochSecs) 0

/-- The loop of `worst`: the sources seen, and the type and the lag of the worst of them. -/
structure Grading where
  seen : List Dataset
  worstType : SourceType
  worstLag : Int

/-- One turn of the loop. -/
def grade (registry : FreshnessRegistry) (now : Int) (grading : Grading) (d : Dataset) : Grading :=
  if grading.seen.contains d then grading
  else
    let source := registry.sourceOf now d
    let lag := registry.wrappedLag now d
    if grading.worstLag < lag ∨
        (lag = grading.worstLag ∧ source.sourceType = .batch ∧ grading.worstType ≠ .batch) then
      ⟨d :: grading.seen, source.sourceType, lag⟩
    else { grading with seen := d :: grading.seen }

/-- `FreshnessRegistry::worst`. -/
def worst (registry : FreshnessRegistry) (touched : List Dataset) (now : Int) : Freshness :=
  let graded := touched.foldl (registry.grade now) ⟨[], .batch, 0⟩
  ⟨graded.worstType.asStr, graded.worstLag⟩

/-! ### The loop -/

/-- What the loop has found of the sources behind it: their greatest lag, and `cdc` only where
that lag is above zero and no batch source has it. -/
structure Graded (registry : FreshnessRegistry) (now : Int) (behind : List Dataset)
    (grading : Grading) : Prop where
  seen : ∀ d, d ∈ grading.seen ↔ d ∈ behind
  bound : ∀ d ∈ behind, registry.wrappedLag now d ≤ grading.worstLag
  attained : grading.worstLag = 0 ∨ ∃ d ∈ behind, registry.wrappedLag now d = grading.worstLag
  batch : grading.worstType = .batch ↔ grading.worstLag = 0 ∨
    ∃ d ∈ behind, registry.wrappedLag now d = grading.worstLag ∧
      (registry.sourceOf now d).sourceType = .batch

section
variable {registry : FreshnessRegistry} {now : Int} {behind touched : List Dataset}
  {grading : Grading} {d : Dataset}

theorem wrappedLag_nonneg : 0 ≤ registry.wrappedLag now d := le_max_right _ _

theorem Graded.nonneg (graded : Graded registry now behind grading) : 0 ≤ grading.worstLag := by
  rcases graded.attained with zero | ⟨d, -, same⟩
  · exact zero.ge
  · exact same ▸ wrappedLag_nonneg

/-- A source seen before changes nothing. -/
theorem Graded.again (graded : Graded registry now behind grading) (member : d ∈ behind) :
    Graded registry now (behind ++ [d]) grading := by
  have same (other : Dataset) : other ∈ behind ++ [d] ↔ other ∈ behind := by
    rw [List.mem_append, List.mem_singleton]
    exact ⟨fun either => either.elim id fun same => same ▸ member, Or.inl⟩
  constructor
  · exact fun other => (graded.seen other).trans (same other).symm
  · exact fun other inside => graded.bound other ((same other).mp inside)
  · simpa only [same] using graded.attained
  · simpa only [same] using graded.batch

/-- A source whose lag exceeds those behind it is the worst. -/
theorem Graded.exceeded (graded : Graded registry now behind grading)
    (exceeds : grading.worstLag < registry.wrappedLag now d) :
    Graded registry now (behind ++ [d])
      ⟨d :: grading.seen, (registry.sourceOf now d).sourceType, registry.wrappedLag now d⟩ := by
  have positive := graded.nonneg.trans_lt exceeds
  have below (other : Dataset) (member : other ∈ behind) :
      registry.wrappedLag now other < registry.wrappedLag now d :=
    (graded.bound other member).trans_lt exceeds
  constructor
  · intro other
    rw [List.mem_cons, graded.seen, List.mem_append, List.mem_singleton, or_comm]
  · intro other member
    rcases List.mem_append.mp member with earlier | last
    · exact (below other earlier).le
    · rw [List.mem_singleton.mp last]
  · exact .inr ⟨d, by simp, rfl⟩
  · constructor
    · exact fun batch => .inr ⟨d, by simp, rfl, batch⟩
    · rintro (zero | ⟨other, member, same, batch⟩)
      · exact absurd zero positive.ne'
      · rcases List.mem_append.mp member with earlier | last
        · exact absurd same (below other earlier).ne
        · exact List.mem_singleton.mp last ▸ batch

/-- A source whose lag does not exceed the worst can only make a batch source of it. -/
theorem Graded.within (graded : Graded registry now behind grading)
    (within : registry.wrappedLag now d ≤ grading.worstLag) {worstType : SourceType}
    (batch : worstType = .batch ↔ grading.worstType = .batch ∨
      registry.wrappedLag now d = grading.worstLag ∧ (registry.sourceOf now d).sourceType = .batch) :
    Graded registry now (behind ++ [d]) ⟨d :: grading.seen, worstType, grading.worstLag⟩ := by
  constructor
  · intro other
    rw [List.mem_cons, graded.seen, List.mem_append, List.mem_singleton, or_comm]
  · intro other member
    rcases List.mem_append.mp member with earlier | last
    · exact graded.bound other earlier
    · exact List.mem_singleton.mp last ▸ within
  · exact graded.attained.imp_right fun ⟨other, member, same⟩ =>
      ⟨other, List.mem_append_left _ member, same⟩
  · rw [batch, graded.batch, or_assoc]
    refine or_congr_right ?_
    simp only [List.mem_append, List.mem_singleton, or_and_right, exists_or, exists_eq_left]

/-- One turn of the loop takes in one more source. -/
theorem Graded.grade (graded : Graded registry now behind grading) (d : Dataset) :
    Graded registry now (behind ++ [d]) (registry.grade now grading d) := by
  unfold FreshnessRegistry.grade
  split
  · next seen => exact graded.again ((graded.seen d).mp (List.contains_iff_mem.mp seen))
  · dsimp only
    split
    · next taken =>
      rcases lt_or_ge grading.worstLag (registry.wrappedLag now d) with exceeds | within
      · exact graded.exceeded exceeds
      · obtain ⟨tie, batch, -⟩ := taken.resolve_left within.not_gt
        rw [tie]
        exact graded.within within (iff_of_true batch (.inr ⟨tie, batch⟩))
    · next kept =>
      obtain ⟨within, other⟩ := not_or.mp kept
      exact graded.within (not_lt.mp within) ⟨Or.inl, fun either => either.elim id
        fun ⟨tie, batch⟩ => not_not.mp fun cdc => other ⟨tie, batch, cdc⟩⟩

theorem Graded.foldl (graded : Graded registry now behind grading) (touched : List Dataset) :
    Graded registry now (behind ++ touched) (touched.foldl (registry.grade now) grading) := by
  induction touched generalizing behind grading with
  | nil => rwa [List.append_nil]
  | cons d rest ih =>
    rw [List.foldl_cons, List.append_cons]
    exact ih (graded.grade d)

end

/-! ### The report -/

section
variable (registry : FreshnessRegistry) (touched : List Dataset) (now : Int)

/-- The seconds since a source was ingested; none for a source that is not registered. -/
def lag (d : Dataset) : Int :=
  match registry.get d.system d.entity with
  | some source => max 0 (now - source.lastEpochSecs)
  | none => 0

def typeOf (d : Dataset) : SourceType :=
  match registry.get d.system d.entity with
  | some source => source.sourceType
  | none => .batch

/-- The report is of the greatest lag, and of a batch source where one has it. -/
structure ReportsWorst : Prop where
  bound : ∀ d ∈ touched, registry.lag now d ≤ (registry.worst touched now).lagSeconds
  attained : touched = [] ∧ (registry.worst touched now).lagSeconds = 0 ∨
    ∃ d ∈ touched, registry.lag now d = (registry.worst touched now).lagSeconds
  type : (registry.worst touched now).worstSource =
    if touched = [] ∨ ∃ d ∈ touched, registry.lag now d = (registry.worst touched now).lagSeconds ∧
      registry.typeOf d = .batch then SourceType.asStr .batch else SourceType.asStr .cdc

/-- No lag wraps, and not every source is of change capture and up to date. -/
structure Gradable : Prop where
  fits : ∀ d ∈ touched, now - (registry.sourceOf now d).lastEpochSecs < 2 ^ 63
  graded : touched = [] ∨ ∃ d ∈ touched, 0 < registry.lag now d ∨ registry.typeOf d = .batch

end

section
variable {registry : FreshnessRegistry} {touched : List Dataset} {now : Int} {d : Dataset}

theorem difference_eq {left right : Int} (low : -(2 ^ 63) ≤ left - right)
    (high : left - right < 2 ^ 63) : difference left right = left - right :=
  Int.bmod_eq_of_le low high

theorem wrappedLag_lt : registry.wrappedLag now d < 2 ^ 63 :=
  max_lt (Int.bmod_lt (by decide)) (by decide)

theorem lag_eq : registry.lag now d = max 0 (now - (registry.sourceOf now d).lastEpochSecs) := by
  unfold lag sourceOf
  cases registry.get d.system d.entity with
  | some source => rfl
  | none => simp

theorem lag_nonneg : 0 ≤ registry.lag now d := lag_eq ▸ le_max_left _ _

theorem typeOf_eq : registry.typeOf d = (registry.sourceOf now d).sourceType := by
  unfold typeOf sourceOf
  cases registry.get d.system d.entity <;> rfl

theorem wrappedLag_eq_lag (low : -(2 ^ 63) ≤ now - (registry.sourceOf now d).lastEpochSecs)
    (high : now - (registry.sourceOf now d).lastEpochSecs < 2 ^ 63) :
    registry.wrappedLag now d = registry.lag now d := by
  rw [wrappedLag, difference_eq low high, lag_eq, max_comm]

/-- What the loop has found when it ends. -/
theorem graded_worst (registry : FreshnessRegistry) (touched : List Dataset) (now : Int) :
    let reported := (registry.worst touched now).lagSeconds
    ∃ worstType : SourceType, (registry.worst touched now).worstSource = worstType.asStr ∧
      (∀ d ∈ touched, registry.wrappedLag now d ≤ reported) ∧
      (reported = 0 ∨ ∃ d ∈ touched, registry.wrappedLag now d = reported) ∧
      (worstType = .batch ↔ reported = 0 ∨ ∃ d ∈ touched, registry.wrappedLag now d = reported ∧
        (registry.sourceOf now d).sourceType = .batch) := by
  have start : Graded registry now [] ⟨[], .batch, 0⟩ :=
    ⟨fun _ => Iff.rfl, fun _ member => absurd member List.not_mem_nil, .inl rfl,
      iff_of_true rfl (.inl rfl)⟩
  have graded := start.foldl touched
  exact ⟨_, rfl, graded.bound, graded.attained, graded.batch⟩

/-- `worst` reports the worst source unless a lag wraps or all sources are of change capture and
up to date. -/
theorem worst_reports_iff
    (near : ∀ d ∈ touched, -(2 ^ 63) ≤ now - (registry.sourceOf now d).lastEpochSecs) :
    registry.ReportsWorst touched now ↔ registry.Gradable touched now := by
  obtain ⟨worstType, labelled, greatest, attained, batch⟩ := graded_worst registry touched now
  constructor
  · intro reports
    constructor
    · intro d member
      by_contra far
      have below : (registry.worst touched now).lagSeconds < 2 ^ 63 := by
        rcases attained with zero | ⟨other, -, same⟩
        · exact zero ▸ by decide
        · exact same ▸ wrappedLag_lt
      have long : now - (registry.sourceOf now d).lastEpochSecs ≤ registry.lag now d :=
        lag_eq ▸ le_max_right _ _
      exact far (long.trans_lt ((reports.bound d member).trans_lt below))
    · by_contra current
      obtain ⟨filled, none⟩ := not_or.mp current
      obtain ⟨d, member, same⟩ := reports.attained.resolve_left fun empty => filled empty.1
      have zero : (registry.worst touched now).lagSeconds = 0 :=
        same ▸ le_antisymm (not_lt.mp fun positive => none ⟨d, member, .inl positive⟩) lag_nonneg
      have type := reports.type
      rw [labelled, batch.mpr (.inl zero), if_neg] at type
      · exact absurd type (by decide)
      · rintro (empty | ⟨other, inside, -, batch⟩)
        · exact filled empty
        · exact none ⟨other, inside, .inr batch⟩
  · rintro ⟨fits, known⟩
    have same (d : Dataset) (member : d ∈ touched) :
        registry.wrappedLag now d = registry.lag now d :=
      wrappedLag_eq_lag (near d member) (fits d member)
    have bound (d : Dataset) (member : d ∈ touched) :
        registry.lag now d ≤ (registry.worst touched now).lagSeconds :=
      same d member ▸ greatest d member
    have type : worstType = .batch ↔ touched = [] ∨ ∃ d ∈ touched,
        registry.lag now d = (registry.worst touched now).lagSeconds ∧ registry.typeOf d = .batch := by
      rw [batch]
      constructor
      · rintro (zero | ⟨d, member, tie, batch⟩)
        · refine known.imp_right fun ⟨d, member, either⟩ => ⟨d, member, ?_⟩
          have none := le_antisymm (zero ▸ bound d member) lag_nonneg
          exact ⟨none.trans zero.symm, either.resolve_left none.not_gt⟩
        · exact .inr ⟨d, member, same d member ▸ tie, typeOf_eq.trans batch⟩
      · rintro (rfl | ⟨d, member, tie, batch⟩)
        · exact attained.imp_right fun ⟨_, member, _⟩ => absurd member List.not_mem_nil
        · exact .inr ⟨d, member, (same d member).trans tie, typeOf_eq.symm.trans batch⟩
    refine ⟨bound, ?_, ?_⟩
    · cases touched with
      | nil => exact .inl ⟨rfl, rfl⟩
      | cons first rest =>
        refine .inr (attained.elim (fun zero => ⟨first, List.mem_cons_self, ?_⟩)
          fun ⟨d, member, tie⟩ => ⟨d, member, same d member ▸ tie⟩)
        exact le_antisymm (bound first List.mem_cons_self) (zero ▸ lag_nonneg)
    · rw [labelled]
      split
      · next batch => rw [type.mpr batch]
      · next other =>
        cases worstType with
        | batch => exact absurd (type.mp rfl) other
        | cdc => rfl

end

/-! ### A source of change capture that is up to date -/

/-- One source of change capture, ingested at second 1000. -/
def captured : FreshnessRegistry :=
  ⟨fun key => if key = "erp" ++ "." ++ "events" then some ⟨.cdc, 1000⟩ else none⟩

/-- A minute later the source is behind, and reported for what it is. -/
theorem worst_reports_iff_captured : captured.ReportsWorst [⟨"erp", "events"⟩] 1060 :=
  (worst_reports_iff (by decide)).mpr ⟨by decide, .inr (by decide)⟩

/-- At the second it is ingested it is reported as a batch source. -/
theorem captured_reported_batch : new.set "erp" "events" .cdc 1000 = .ok captured ∧
    captured.worst [⟨"erp", "events"⟩] 1000 = ⟨"batch", 0⟩ ∧
    ¬ captured.ReportsWorst [⟨"erp", "events"⟩] 1000 := by
  refine ⟨by rfl, by decide, fun reports => ?_⟩
  exact absurd reports.type (by decide)

end FreshnessRegistry

end ConsumerEngine.Core
