import ConsumerEngine.Query.Ast
import ConsumerEngine.Storage.Snapshots
import Mathlib.Data.List.Dedup

/-! Snapshots read back: the metadata of one, and the rows of its export.

Both go by the identifier of the snapshot; only the metadata also asks whose it is.
-/

set_option autoImplicit false

namespace ConsumerEngine.Query

open ConsumerEngine.Core ConsumerEngine.Storage

/-- `SnapshotMeta`. -/
structure SnapshotMeta where
  snapshotId : String
  campaignId : String
  asOfTs : String
  rowCount : Nat
  deriving DecidableEq, Repr

/-- A VARCHAR cell, as the reader hands it on. -/
def textOf : Value → Cell
  | .text s => some s
  | _ => none

/-- `WHERE snapshot_id = …` -/
def ofSnapshot (id : String) (rows : List (List Value)) : List (List Value) :=
  rows.filter fun row => row[0]? = some (.text id)

/-- `WHERE snapshot_id = … AND tenant_id = …` -/
def ofTenant (id tenant : String) (rows : List (List Value)) : List (List Value) :=
  (ofSnapshot id rows).filter fun row => row[6]? = some (.text tenant)

/-- A row that the metadata query returns. -/
structure MetaRow where
  campaignId : Cell
  asOfTs : Cell
  count : Nat
  deriving DecidableEq

/-- The metadata query, a row for each campaign and cut-off; `varchar` casts the latter. -/
def metaRows (varchar : Value → Cell) (id tenant : String) (rows : List (List Value)) : List MetaRow :=
  let own := ofTenant id tenant rows
  (own.map fun row => (row[1]?, row[2]?)).dedup.map fun key =>
    ⟨key.1.bind textOf, key.2.bind varchar, own.countP fun row => (row[1]?, row[2]?) = key⟩

/-- What the reader may answer to the metadata query when it is attached to a state: the rows in
some order, or a failure. -/
def MetaReply (varchar : Value → Cell) (duck : DuckDb) (view : Catalog) (snapUuid tenant : String)
    (reply : Except QueryError (List MetaRow)) : Prop :=
  ∀ found, reply = .ok found → view.audienceSnapshot.isSome ∧ ∃ id, duck.castUuid snapUuid = some id ∧
    found.Perm (metaRows varchar id tenant view.snapshotRows)

/-- `snapshot_meta`: the first row of the reply. -/
def snapshotMeta (snapUuid : String) (reply : Except QueryError (List MetaRow)) :
    Except QueryError (Option SnapshotMeta) := do
  match ← reply with
  | [] => return none
  | row :: _ => return some ⟨snapUuid, row.campaignId.getD "", row.asOfTs.getD "", row.count⟩

/-- The selection that an export copies: the rows of the snapshot without their tenant. -/
def exportRows (id : String) (rows : List (List Value)) : List (List Value) :=
  (ofSnapshot id rows).map (List.take 6)

/-! ### Rows of several snapshots -/

section
variable {α : Type} {blocks : List α} {rows : α → List (List Value)} {idOf : α → String}

/-- Snapshots that carry different identifiers are told apart. -/
theorem ofSnapshot_flatMap (marked : ∀ block ∈ blocks, ∀ row ∈ rows block, row[0]? = some (.text (idOf block)))
    (id : String) :
    ofSnapshot id (blocks.flatMap rows) = (blocks.filter fun block => idOf block = id).flatMap rows := by
  induction blocks with
  | nil => rfl
  | cons first rest ih =>
    have later := ih fun block member => marked block (List.mem_cons_of_mem _ member)
    have own := marked first List.mem_cons_self
    unfold ofSnapshot at later ⊢
    rw [List.flatMap_cons, List.filter_append, later]
    by_cases same : idOf first = id
    · have all : (rows first).filter (fun row => row[0]? = some (.text id)) = rows first :=
        List.filter_eq_self.mpr fun row member => decide_eq_true (same ▸ own row member)
      rw [List.filter_cons, if_pos (decide_eq_true same), List.flatMap_cons, all]
    · have none_ : (rows first).filter (fun row => row[0]? = some (.text id)) = [] := by
        refine List.filter_eq_nil_iff.mpr fun row member alike => same ?_
        have texts := (own row member).symm.trans (of_decide_eq_true alike)
        exact Value.text.inj (Option.some.inj texts)
      rw [List.filter_cons, if_neg fun alike => same (of_decide_eq_true alike), none_, List.nil_append]

theorem filter_alone {block : α} (apart : blocks.Pairwise fun one other => idOf one ≠ idOf other)
    (member : block ∈ blocks) : (blocks.filter fun other => idOf other = idOf block) = [block] := by
  induction blocks with
  | nil => cases member
  | cons first rest ih =>
    obtain ⟨differs, apart⟩ := List.pairwise_cons.mp apart
    rcases List.mem_cons.mp member with rfl | later
    · have others : (rest.filter fun other => idOf other = idOf block) = [] :=
        List.filter_eq_nil_iff.mpr fun other among alike =>
          differs other among (of_decide_eq_true alike).symm
      rw [List.filter_cons, if_pos (decide_eq_true rfl), others]
    · rw [List.filter_cons, if_neg fun alike => differs block later (of_decide_eq_true alike)]
      exact ih apart later

end

section
variable {varchar : Value → Cell} {id tenant : String} {rows : List (List Value)}

/-- Rows of one campaign and one cut-off make one group, unless there are none. -/
theorem metaRows_alike {campaign asOf : Option Value}
    (alike : ∀ row ∈ ofTenant id tenant rows, row[1]? = campaign ∧ row[2]? = asOf) :
    metaRows varchar id tenant rows =
      if ofTenant id tenant rows = [] then []
      else [⟨campaign.bind textOf, asOf.bind varchar, (ofTenant id tenant rows).length⟩] := by
  unfold metaRows
  generalize ofTenant id tenant rows = own at alike
  have keys : (own.map fun row => (row[1]?, row[2]?)) = List.replicate own.length (campaign, asOf) := by
    refine List.map_eq_replicate_iff.mpr fun row member => ?_
    rw [(alike row member).1, (alike row member).2]
  have count : own.countP (fun row => (row[1]?, row[2]?) = (campaign, asOf)) = own.length := by
    refine List.countP_eq_length.mpr fun row member => decide_eq_true ?_
    rw [(alike row member).1, (alike row member).2]
  dsimp only
  rw [keys]
  by_cases empty : own = []
  · rw [if_pos empty, empty]
    rfl
  · rw [if_neg empty, List.replicate_dedup (mt List.length_eq_zero_iff.mp empty), List.map_singleton, count]

end

end ConsumerEngine.Query
