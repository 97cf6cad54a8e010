import ConsumerEngine.Ingress.Auth
import ConsumerEngine.Ingress.Jobs
import ConsumerEngine.Ingress.Onboarding
import ConsumerEngine.Ingress.Suppression
import ConsumerEngine.Query.SnapshotReads
import ConsumerEngine.Query.Validation

/-! The handlers of jobs and snapshots: what they check, what they ask, what they answer.

A snapshot goes by `snap_` and its identifier. Its metadata comes with a presigned address; the
export verifies the token first and then that the snapshot is the caller's.
-/

set_option autoImplicit false

namespace ConsumerEngine.Query

/-- `Display` of a query error. -/
def QueryError.display : QueryError → String
  | .invalidDsl message => "invalid DSL: " ++ message
  | .guardrail rule limit => "guardrail " ++ rule ++ " exceeded (limit " ++ limit ++ ")"
  | .tooLarge => "query too large for sync execution"
  | .survivorUnbounded => "JIT derive over unbounded survivor set; narrow first or precompute"
  | .execution _ => "execution failure"

end ConsumerEngine.Query

namespace ConsumerEngine.Ingress

open ConsumerEngine.Core ConsumerEngine.Foundation ConsumerEngine.Query

/-- `ApiError`. -/
inductive ApiError where
  | core (failure : Error)
  | query (failure : QueryError)
  | notFound
  | unauthorized
  | unsupportedFormat
  deriving DecidableEq

/-- `into_response`: the status code and the text. -/
def ApiError.response : ApiError → Nat × String
  | .core (.invalidInput message) => (400, message)
  | .core .writerAlreadyHeld => (409, "writer already held")
  | .core .catalogueUnavailable => (503, "semantic catalogue unavailable")
  | .core failure => (500, display failure)
  | .query (.invalidDsl message) => (400, message)
  | .query .tooLarge => (413, "query too large for sync")
  | .query (.guardrail rule limit) =>
      (422, "guardrail " ++ rule ++ " exceeded (limit " ++ limit ++ ")")
  | .query .survivorUnbounded => (422, "JIT derive over unbounded survivor set")
  | .query (.execution _) => (500, "execution failure")
  | .notFound => (404, "not found")
  | .unauthorized => (401, "unauthorized")
  | .unsupportedFormat => (415, "unsupported format")

def asCore {α : Type} : Except Error α → Except ApiError α
  | .ok value => .ok value
  | .error failure => .error (.core failure)

def asQuery {α : Type} : Except QueryError α → Except ApiError α
  | .ok value => .ok value
  | .error failure => .error (.query failure)

/-! ### Jobs -/

/-- `JobsRequest`, its segment already deserialised. -/
structure JobsRequest where
  dsl : SegmentQuery
  campaignId : String

/-- What `post_jobs` checks before it mints a job. -/
def JobsRequest.check (texts : Texts) (request : JobsRequest) : Except ApiError Unit := do
  asCore (validateIdent request.campaignId)
  asQuery (validate texts.isRfc3339 request.dsl)

/-- `JobResponse`. -/
structure JobResponse where
  status : String
  done : Bool
  snapshotId : Option String
  error : Option String
  deriving DecidableEq, Repr

/-- `get_job`, given what the registry has for the caller. -/
def getJob : Option JobStatus → Except ApiError JobResponse
  | none => .error .notFound
  | some .running => .ok ⟨"running", false, none, none⟩
  | some (.done snapshot) => .ok ⟨"done", true, some snapshot, none⟩
  | some (.failed err) => .ok ⟨"failed", true, none, some err⟩

/-! ### Snapshots -/

/-- `EXPORT_TTL_SECS` -/
def exportTtlSecs : UInt64 := 15 * 60

/-- Strip the prefix and check that a UUID is left. -/
def parseSnapId (texts : Texts) (snap : String) : Except ApiError String :=
  match stripPrefix "snap_" snap with
  | none => .error (.core (.invalidInput "invalid snapshot id"))
  | some rest =>
      if texts.isUuid rest then .ok rest else .error (.core (.invalidInput "invalid snapshot id"))

/-- `AudienceResponse`. -/
structure AudienceResponse where
  snapshotId : String
  campaignId : String
  asOfTs : String
  rowCount : Nat
  downloadUrl : String
  deriving DecidableEq, Repr

/-- `ExportQuery`. -/
structure ExportQuery where
  format : Option String
  token : Option String

/-- The response of an export, its body as the rows of the Parquet file. -/
structure ExportResponse where
  contentType : String
  contentDisposition : String
  rows : List (List Value)
  deriving DecidableEq

section
variable (texts : Texts) (hmac : SigningKey → List UInt8 → Tag) (now : UInt64) (key : SigningKey)
  (reader : String → Except QueryError (List MetaRow)) (id : String)

def downloadUrl (token : String) : String :=
  "/audience/" ++ id ++ "/export?format=parquet&token=" ++ token

/-- `get_audience`. -/
def getAudience : Except ApiError AudienceResponse := do
  let bare ← parseSnapId texts id
  match ← asQuery (snapshotMeta bare (reader bare)) with
  | none => throw .notFound
  | some found => return ⟨id, found.campaignId, found.asOfTs, found.rowCount,
      downloadUrl id (sign hmac now key bare exportTtlSecs)⟩

/-- `get_export`, up to the call of the writer: the identifier that is exported. -/
def checkExport (query : ExportQuery) : Except ApiError String :=
  if query.format ≠ some "parquet" then throw .unsupportedFormat
  else do
    let bare ← parseSnapId texts id
    if verify hmac now key bare (query.token.getD "") then
      match ← asQuery (snapshotMeta bare (reader bare)) with
      | none => throw .notFound
      | some _ => return bare
    else throw .unauthorized

end

/-- `get_export` once the writer has answered: the file is read back. -/
def exportResponse (bare : String) (exported : Except Error Unit)
    (file : Except String (List (List Value))) : Except ApiError ExportResponse := do
  asCore exported
  let rows ← asCore (file.mapError .execution)
  return ⟨"application/vnd.apache.parquet", "attachment; filename=\"" ++ bare ++ ".parquet\"", rows⟩

section
variable {texts : Texts} {hmac : SigningKey → List UInt8 → Tag} {now : UInt64} {key : SigningKey}
  {reader : String → Except QueryError (List MetaRow)} {id bare : String}

theorem response_core (failure : Error) : (ApiError.core failure).response.1 = statusOf failure := by
  cases failure <;> rfl

theorem parseSnapId_eq_ok :
    parseSnapId texts id = .ok bare ↔ id = "snap_" ++ bare ∧ texts.isUuid bare = true := by
  unfold parseSnapId
  cases stripped : stripPrefix "snap_" id with
  | none =>
    constructor
    · intro same
      cases same
    · rintro ⟨whole, -⟩
      cases stripped.symm.trans (stripPrefix_eq_some.mpr whole)
  | some rest =>
    obtain rfl := stripPrefix_eq_some.mp stripped
    constructor
    · intro accepted
      dsimp only at accepted
      split at accepted
      · next valid =>
        cases accepted
        exact ⟨rfl, valid⟩
      · cases accepted
    · rintro ⟨same, valid⟩
      obtain rfl := Option.some.inj (stripped.symm.trans (stripPrefix_eq_some.mpr same))
      dsimp only
      rw [if_pos valid]

theorem asQuery_eq_ok {α : Type} {outcome : Except QueryError α} {value : α} :
    asQuery outcome = .ok value ↔ outcome = .ok value := by
  cases outcome with
  | ok found => exact ⟨fun same => congrArg _ (Except.ok.inj same), fun same => congrArg _ (Except.ok.inj same)⟩
  | error failure =>
    constructor <;>
    · intro same
      cases same

/-- Metadata is answered for a snapshot that the reader finds. -/
theorem getAudience_eq_ok {response : AudienceResponse} :
    getAudience texts hmac now key reader id = .ok response ↔ ∃ bare found,
      id = "snap_" ++ bare ∧ texts.isUuid bare = true ∧
        snapshotMeta bare (reader bare) = .ok (some found) ∧
        response = ⟨id, found.campaignId, found.asOfTs, found.rowCount,
          downloadUrl id (sign hmac now key bare exportTtlSecs)⟩ := by
  unfold getAudience
  constructor
  · intro responds
    obtain ⟨bare, parsed, rest⟩ := except_bind_eq_ok.mp responds
    obtain ⟨found, read, rest⟩ := except_bind_eq_ok.mp rest
    obtain ⟨whole, valid⟩ := parseSnapId_eq_ok.mp parsed
    cases found with
    | none => cases rest
    | some found =>
      cases rest
      exact ⟨bare, found, whole, valid, asQuery_eq_ok.mp read, rfl⟩
  · rintro ⟨bare, found, whole, valid, read, rfl⟩
    refine except_bind_eq_ok.mpr ⟨bare, parseSnapId_eq_ok.mpr ⟨whole, valid⟩, ?_⟩
    exact except_bind_eq_ok.mpr ⟨some found, asQuery_eq_ok.mpr read, rfl⟩

theorem getAudience_notFound (parsed : parseSnapId texts id = .ok bare)
    (read : snapshotMeta bare (reader bare) = .ok none) :
    getAudience texts hmac now key reader id = .error .notFound := by
  unfold getAudience
  rw [parsed]
  change (asQuery (snapshotMeta bare (reader bare)) >>= _) = _
  rw [read]
  rfl

/-- An export goes on with a token for the snapshot that is still good, if the reader finds it. -/
theorem checkExport_eq_ok {query : ExportQuery} :
    checkExport texts hmac now key reader id query = .ok bare ↔ query.format = some "parquet" ∧
      id = "snap_" ++ bare ∧ texts.isUuid bare = true ∧
        verify hmac now key bare (query.token.getD "") = true ∧
          ∃ found, snapshotMeta bare (reader bare) = .ok (some found) := by
  unfold checkExport
  by_cases format : query.format = some "parquet"
  · rw [if_neg (not_not.mpr format)]
    constructor
    · intro passed
      obtain ⟨found, parsed, rest⟩ := except_bind_eq_ok.mp passed
      obtain ⟨whole, valid⟩ := parseSnapId_eq_ok.mp parsed
      split at rest
      · next good =>
        obtain ⟨known, read, rest⟩ := except_bind_eq_ok.mp rest
        cases known with
        | none => cases rest
        | some known =>
          cases rest
          exact ⟨format, whole, valid, good, known, asQuery_eq_ok.mp read⟩
      · cases rest
    · rintro ⟨-, whole, valid, good, found, read⟩
      refine except_bind_eq_ok.mpr ⟨bare, parseSnapId_eq_ok.mpr ⟨whole, valid⟩, ?_⟩
      rw [if_pos good]
      exact except_bind_eq_ok.mpr ⟨some found, asQuery_eq_ok.mpr read, rfl⟩
  · rw [if_pos format]
    constructor
    · intro passed
      cases passed
    · exact fun all => absurd all.1 format

theorem exportResponse_eq_ok {exported : Except Error Unit} {file : Except String (List (List Value))}
    {response : ExportResponse} (responds : exportResponse bare exported file = .ok response) :
    file = .ok response.rows := by
  obtain ⟨-, -, rest⟩ := except_bind_eq_ok.mp responds
  obtain ⟨rows, read, rest⟩ := except_bind_eq_ok.mp rest
  cases rest
  cases file with
  | ok found => exact congrArg _ (Except.ok.inj read)
  | error text => cases read

end

end ConsumerEngine.Ingress
