import ConsumerEngine.Storage.Suppressions

/-! `POST /suppression`: writebacks of any tenants, told apart by a client-chosen id.

The table is shared and a row is skipped if its id is there, whoever stored it. What a
tenant finds stored is what it wrote exactly if it was the first to use each of its ids.
-/

set_option autoImplicit false

namespace ConsumerEngine.Ingress

open ConsumerEngine.Core ConsumerEngine.Foundation ConsumerEngine.Storage

/-- What the `uuid` and `chrono` crates accept. -/
structure Texts where
  isUuid : String → Bool
  isRfc3339 : String → Bool

structure SuppressionRequest where
  suppressionId : Option String
  campaignId : String
  userId : String
  channel : String
  action : String
  occurredTs : String

/-- `MAX_FIELD_BYTES`. -/
def maxFieldBytes : Nat := 256

/-- The checks of `post_suppression` and the row they let through. -/
def SuppressionRequest.row (texts : Texts) (receivedTs : String) (request : SuppressionRequest) :
    Except Error SuppressionRow := do
  validateIdent request.campaignId
  validateIdent request.userId
  let channel ← SuppressionChannel.parse request.channel
  let action ← SuppressionAction.parse request.action
  if !texts.isRfc3339 request.occurredTs then
    throw (.invalidInput "occurredTs must be ISO-8601 UTC")
  [request.campaignId, request.userId, request.occurredTs].forM fun field =>
    if maxFieldBytes < field.utf8ByteSize then
      throw (.invalidInput ("field exceeds " ++ toString maxFieldBytes ++ " bytes"))
    else pure ()
  match request.suppressionId with
  | none => throw (.invalidInput
      "suppressionId is required (client-supplied dedupe key for idempotent retry)")
  | some suppressionId =>
      if !texts.isUuid suppressionId then
        throw (.invalidInput "suppressionId must be a UUID (required for idempotent retry)")
      else return ⟨suppressionId, request.campaignId, request.userId, channel, action,
        request.occurredTs, receivedTs⟩

/-- `post_suppression` of a tenant, up to its answer. -/
def postSuppression (texts : Texts) (tenant receivedTs : String) (request : SuppressionRequest) :
    Session String := do
  let row ← Effect.lift (request.row texts receivedTs)
  Effect.modify fun writer => writer.setTenant tenant
  let _ ← writeSuppressionIdempotent [row]
  return row.suppressionId

/-- One request. `refuses n` says whether its `n`-th statement fails for a reason of its own. -/
structure Call where
  tenant : String
  receivedTs : String
  request : SuppressionRequest
  refuses : Nat → Bool

namespace Call

variable (texts : Texts)

/-- The writer as a call finds it. -/
def entering (call : Call) (writer : Writer) : Writer :=
  { writer with duck := { writer.duck with rejects := call.refuses }, issued := 0 }

def serve (call : Call) (writer : Writer) : Except Error String × Writer :=
  postSuppression texts call.tenant call.receivedTs call.request (call.entering writer)

/-- The row an acknowledged call brings. -/
def accepted (duck : DuckDb) (call : Call) : Option StoredSuppression :=
  match call.request.row texts call.receivedTs with
  | .error _ => none
  | .ok row =>
      if ∀ i : Nat, i < 3 → call.refuses i = false then (storedSuppression duck call.tenant row).toOption
      else none

variable {texts}

/-- A call is acknowledged if it brings a row, which is stored unless its id is. -/
theorem serve_writes (call : Call) (writer : Writer) :
    (call.serve texts writer).1.isOk = (call.accepted texts writer.duck).isSome ∧
      (call.serve texts writer).2.durable.catalog.suppressionRows =
        (call.accepted texts writer.duck).toList.foldl (placeFirst StoredSuppression.suppressionId)
          writer.durable.catalog.suppressionRows ∧
      (call.serve texts writer).2.duck = { writer.duck with rejects := call.refuses } := by
  unfold serve postSuppression accepted
  cases checked : call.request.row texts call.receivedTs with
  | error failure => exact ⟨rfl, rfl, rfl⟩
  | ok row =>
    have written := writeSuppression_writes ((call.entering writer).setTenant call.tenant) row
    have recorded : ((call.entering writer).setTenant call.tenant).recorded row =
        if ∀ i : Nat, i < 3 → call.refuses i = false then
          (storedSuppression writer.duck call.tenant row).toOption else none := by
      refine if_congr ?_ rfl rfl
      simp [Writer.Clear, entering, Writer.setTenant]
    rw [recorded] at written
    simp only [Effect.bind_apply, Effect.lift_apply, Effect.modify_apply, Effect.pure_apply]
    rcases ran : writeSuppressionIdempotent [row] ((call.entering writer).setTenant call.tenant)
      with ⟨outcome, after⟩
    rw [ran] at written
    cases outcome with
    | error failure => exact ⟨written.returned, written.rows, written.duck⟩
    | ok n => exact ⟨written.returned, written.rows, written.duck⟩

theorem accepted_tenant {call : Call} {duck : DuckDb} {stored : StoredSuppression}
    (taken : call.accepted texts duck = some stored) : stored.tenantId = some call.tenant := by
  unfold accepted at taken
  cases checked : call.request.row texts call.receivedTs with
  | error failure => simp [checked] at taken
  | ok row =>
    simp only [checked, Option.ite_none_right_eq_some] at taken
    obtain ⟨-, taken⟩ := taken
    cases converted : storedSuppression duck call.tenant row with
    | error message => simp [converted, Except.toOption] at taken
    | ok added =>
      simp only [converted, Except.toOption, Option.some.injEq] at taken
      subst taken
      simp only [storedSuppression, bind, Except.bind, pure, Except.pure] at converted
      repeat' split at converted <;> try cases converted
      rfl

end Call

/-! ### Runs of calls -/

/-- Calls of any tenants, in the order the writer serves them. -/
def serveAll (texts : Texts) (calls : List Call) (writer : Writer) : Writer :=
  calls.foldl (fun writer call => (call.serve texts writer).2) writer

/-- The rows the acknowledged calls bring. -/
def acceptedRows (texts : Texts) (duck : DuckDb) (calls : List Call) : List StoredSuppression :=
  calls.filterMap (Call.accepted texts duck)

theorem serveAll_rows (texts : Texts) (calls : List Call) (writer : Writer) :
    (serveAll texts calls writer).durable.catalog.suppressionRows =
      (acceptedRows texts writer.duck calls).foldl (placeFirst StoredSuppression.suppressionId)
        writer.durable.catalog.suppressionRows := by
  induction calls generalizing writer with
  | nil => rfl
  | cons call calls ih =>
    obtain ⟨-, rows, duck⟩ := @Call.serve_writes texts call writer
    have same : acceptedRows texts (call.serve texts writer).2.duck calls =
        acceptedRows texts writer.duck calls := by rw [duck]; rfl
    rw [serveAll, List.foldl_cons, ← serveAll, ih, rows, same, acceptedRows, acceptedRows,
      List.filterMap_cons]
    cases call.accepted texts writer.duck <;> rfl

/-- A row of the tenant. -/
def ownedBy (tenant : String) (stored : StoredSuppression) : Bool :=
  decide (stored.tenantId = some tenant)

/-- The rows of the tenant's calls are the tenant's rows. -/
theorem acceptedRows_own (texts : Texts) (duck : DuckDb) (calls : List Call) (tenant : String) :
    (acceptedRows texts duck calls).filter (ownedBy tenant) =
      acceptedRows texts duck (calls.filter fun call => call.tenant = tenant) := by
  induction calls with
  | nil => rfl
  | cons call calls ih =>
    simp only [acceptedRows, List.filterMap_cons, List.filter_cons] at ih ⊢
    cases taken : call.accepted texts duck with
    | none =>
      rw [ih]
      split
      · simp [taken]
      · rfl
    | some stored =>
      have owner := Call.accepted_tenant taken
      by_cases mine : call.tenant = tenant
      · have own : ownedBy tenant stored = true := by simp [ownedBy, owner, mine]
        simp [own, mine, taken, ih]
      · have other : ownedBy tenant stored = false := by simp [ownedBy, owner, mine]
        simp [other, mine, ih]

/-- What the tenant finds stored is what its own calls alone would have stored, and each
id it was acknowledged is there once, from the first of its calls that carried it. -/
structure Isolated (texts : Texts) (writer : Writer) (calls : List Call) (tenant : String) : Prop where
  alone : (serveAll texts calls writer).durable.catalog.suppressionRows.filter (ownedBy tenant) =
    (serveAll texts (calls.filter fun call => call.tenant = tenant) writer).durable.catalog.suppressionRows
  once : ∀ call ∈ calls, call.tenant = tenant → ∀ stored,
    call.accepted texts writer.duck = some stored →
      ((serveAll texts calls writer).durable.catalog.suppressionRows.filter (ownedBy tenant)).filter
          (fun row => row.suppressionId = stored.suppressionId) =
        ((acceptedRows texts writer.duck (calls.filter fun call => call.tenant = tenant)).find?
          fun row => row.suppressionId = stored.suppressionId).toList

/-- A tenant's writebacks are isolated exactly if each id of an acknowledged call of the
tenant was acknowledged to no other tenant before. -/
theorem isolated_iff (texts : Texts) (writer : Writer) (calls : List Call) (tenant : String)
    (empty : writer.durable.catalog.suppressionRows = []) :
    Isolated texts writer calls tenant ↔
      FirstAmong StoredSuppression.suppressionId (ownedBy tenant)
        (acceptedRows texts writer.duck calls) := by
  have stored (calls : List Call) : (serveAll texts calls writer).durable.catalog.suppressionRows =
      firstPerKey StoredSuppression.suppressionId (acceptedRows texts writer.duck calls) := by
    rw [serveAll_rows, empty]
    rfl
  rw [← filter_firstPerKey_iff, acceptedRows_own]
  constructor
  · intro isolated
    have alone := isolated.alone
    rwa [stored, stored] at alone
  · intro same
    refine ⟨by rw [stored, stored, same], fun call _ _ row _ => ?_⟩
    rw [stored, same, firstPerKey_filter_key]

/-! ### Two tenants -/

/-- A writer over an empty catalogue whose casts all succeed. -/
def castingWriter : Writer :=
  { freshWriter with duck :=
      { freshWriter.duck with castUuid := some, castTimestamptz := fun _ => some 0 } }

def anyText : Texts := ⟨fun _ => true, fun _ => true⟩

def delivered (tenant suppressionId : String) : Call where
  tenant := tenant
  receivedTs := "2025-01-01T00:00:01Z"
  request := ⟨some suppressionId, "spring", "u1", "email", "delivered", "2025-01-01T00:00:00Z"⟩
  refuses := fun _ => false

theorem isolated_iff_retry :
    Isolated anyText castingWriter [delivered "acme" "a", delivered "globex" "b",
        delivered "acme" "a"] "acme" ↔
      FirstAmong StoredSuppression.suppressionId (ownedBy "acme")
        (acceptedRows anyText castingWriter.duck [delivered "acme" "a", delivered "globex" "b",
          delivered "acme" "a"]) :=
  isolated_iff _ _ _ _ rfl

/-- The second tenant is acknowledged, but its writeback is nowhere. -/
theorem delivered_twice_lost :
    ¬ Isolated anyText castingWriter [delivered "acme" "a", delivered "globex" "a"] "globex" := by
  intro isolated
  have once := isolated.once (delivered "globex" "a") (by simp) rfl _ rfl
  have stored : (serveAll anyText [delivered "acme" "a", delivered "globex" "a"]
      castingWriter).durable.catalog.suppressionRows.filter (ownedBy "globex") = [] := by
    rw [serveAll_rows]
    rfl
  rw [stored] at once
  cases once

end ConsumerEngine.Ingress
