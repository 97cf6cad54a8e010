import ConsumerEngine.Semantic.Profiler

/-! Personal data stays out of a profile: two contents of a table that differ in the cells of
redacted columns only put the same questions to the models and yield the same catalogue rows.
-/

set_option autoImplicit false

namespace ConsumerEngine.Semantic

open ConsumerEngine.Core ConsumerEngine.Foundation ConsumerEngine.Storage

/-- Two rows with the same cells in the columns that are not redacted. -/
def AlikeRows (columns : List String) (first second : RawRow) : Prop :=
  ∀ column ∈ columns, Profiler.redacted column = false →
    first (foldName column) = second (foldName column)

/-- One shape, and the same rows in the same order up to the cells of redacted columns. -/
structure AlikeTables (first second : SourceTable) : Prop where
  columns : second.columns = first.columns
  rows : List.Forall₂ (AlikeRows first.columns) first.rows second.rows

/-- What a reader finds under a name, up to the cells of redacted columns. -/
inductive AlikeSources : Option SourceTable → Option SourceTable → Prop where
  | missing : AlikeSources none none
  | present {first second : SourceTable} (alike : AlikeTables first second) :
      AlikeSources (some first) (some second)

/-- A profile without the wall-clock epoch its rows are stamped with. -/
def withoutEpoch (profile : List CatalogRow × List ModelCall) : List CatalogRow × List ModelCall :=
  (profile.1.map fun row => { row with sourceEpoch := 0 }, profile.2)

theorem cells_eq {columns : List String} {first second : List RawRow}
    (rows : List.Forall₂ (AlikeRows columns) first second) {column : String}
    (member : column ∈ columns) (kept : Profiler.redacted column = false) :
    (second.map fun row => row (foldName column)) = first.map fun row => row (foldName column) := by
  induction rows with
  | nil => rfl
  | cons here _ ih => rw [List.map_cons, List.map_cons, here column member kept, ih]

theorem forall₂_take {columns : List String} {first second : List RawRow}
    (rows : List.Forall₂ (AlikeRows columns) first second) (n : Nat) :
    List.Forall₂ (AlikeRows columns) (first.take n) (second.take n) := by
  induction rows generalizing n with
  | nil =>
    rw [List.take_nil]
    exact .nil
  | cons here _ ih =>
    cases n with
    | zero => exact .nil
    | succ n => exact .cons here (ih n)

section
variable {profiler : Profiler} {models : Models} {system table : String} {first second : View}

theorem samplesOf_alike {source after : SourceTable} (alike : AlikeTables source after)
    {column : String} (member : column ∈ Profiler.profiledColumns source)
    (kept : Profiler.redacted column = false) :
    profiler.samplesOf after.rows column = profiler.samplesOf source.rows column := by
  have cells := cells_eq (forall₂_take alike.rows profiler.sampleRows) (List.mem_of_mem_filter member)
    kept
  rw [Profiler.samplesOf, Profiler.samplesOf, cells]

theorem onboard_alike (now : Int)
    (alike : AlikeSources (first (rawName ⟨system, table⟩)) (second (rawName ⟨system, table⟩))) :
    profiler.onboard models second system table now = profiler.onboard models first system table now := by
  generalize here : first (rawName ⟨system, table⟩) = found at alike
  generalize there : second (rawName ⟨system, table⟩) = found' at alike
  cases alike with
  | missing => simp only [Profiler.onboard, Profiler.sample, here, there]
  | present alike =>
    cases valid : validateIdent system with
    | error failure => simp only [Profiler.onboard, valid, bind, Except.bind]
    | ok =>
      cases valid' : validateIdent table with
      | error failure => simp only [Profiler.onboard, valid, valid', bind, Except.bind]
      | ok =>
        refine onboard_congr (validateIdent_eq_ok.mp valid) (validateIdent_eq_ok.mp valid') here there
          alike.columns (.inr fun column member => ?_)
        cases kept : Profiler.redacted column with
        | true => exact .inl rfl
        | false => exact .inr (samplesOf_alike alike member kept)

/-- The wall clock shows in the stamps only. -/
theorem onboard_epoch (view : View) (now later : Int) :
    (profiler.onboard models view system table later).map withoutEpoch =
      (profiler.onboard models view system table now).map withoutEpoch := by
  unfold Profiler.onboard
  cases validateIdent system with
  | error failure => rfl
  | ok =>
    cases validateIdent table with
    | error failure => rfl
    | ok =>
      cases profiler.sample view system table with
      | error failure => rfl
      | ok sampled =>
        simp only [bind, Except.bind, pure, Except.pure, Except.map, withoutEpoch, List.map_cons,
          List.map_map]
        rfl

/-- Redacted cells reach neither the models nor the catalogue, whatever the models answer. -/
theorem onboard_ignores_redacted (now later : Int)
    (alike : AlikeSources (first (rawName ⟨system, table⟩)) (second (rawName ⟨system, table⟩))) :
    (profiler.onboard models second system table later).map withoutEpoch =
      (profiler.onboard models first system table now).map withoutEpoch := by
  rw [onboard_alike later alike, onboard_epoch first now later]

end

/-- A customer with an email address. -/
def customer (email : String) : SourceTable where
  columns := ["email", "city", "tenant_id"]
  rows := [rowOf ["email", "city", "tenant_id"] [some email, some "Oslo", some "acme"]]

def customerView (email : String) : View := fun name =>
  if name = "raw_crm_users" then some (customer email) else none

theorem rowOf_cons_of_ne {column name : String} (ne : foldName column ≠ name) (columns : List String)
    (cell : Cell) (cells : List Cell) :
    rowOf (column :: columns) (cell :: cells) name = rowOf columns cells name := by
  simp only [rowOf, List.zip_cons_cons, List.find?_cons, ne, decide_false]

theorem customers_alike (first second : String) : AlikeTables (customer first) (customer second) where
  columns := rfl
  rows := by
    refine .cons (fun column member kept => ?_) .nil
    have other : foldName "email" ≠ foldName column := by
      have redacted : Profiler.redacted "email" = true := by decide +kernel
      rcases List.mem_cons.mp member with rfl | later
      · rw [redacted] at kept
        cases kept
      · rcases List.mem_cons.mp later with rfl | last
        · decide +kernel
        · obtain rfl := List.mem_singleton.mp last
          decide +kernel
    rw [rowOf_cons_of_ne other, rowOf_cons_of_ne other]

theorem onboard_ignores_redacted_email :
    (Profiler.default.onboard stubModels (customerView "b@x.com") "crm" "users" 2).map withoutEpoch =
      (Profiler.default.onboard stubModels (customerView "a@x.com") "crm" "users" 1).map withoutEpoch :=
  onboard_ignores_redacted 1 2 (.present (customers_alike "a@x.com" "b@x.com"))

end ConsumerEngine.Semantic
