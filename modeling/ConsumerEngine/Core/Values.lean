import Mathlib.Data.Rat.Defs
import Mathlib.Algebra.Order.Ring.Rat
import ConsumerEngine.Core.Identifiers

/-! JSON documents, bound parameter values and the rows that travel to storage. -/

set_option autoImplicit false

namespace ConsumerEngine.Core

/-- A finite `f64`, by the number it denotes. -/
abbrev F64 : Type := ℚ

/-- `n as f64`: the nearest double, ties to the even significand. -/
def natAsF64 (n : Nat) : F64 :=
  if n < 2 ^ 53 then n
  else
    let shift := n.log2 - 52
    let unit := 2 ^ shift
    let quotient := n / unit
    let twice := 2 * (n % unit)
    let rounded :=
      if twice < unit then quotient
      else if unit < twice then quotient + 1
      else if quotient % 2 = 0 then quotient else quotient + 1
    ((rounded * unit : Nat) : F64)

/-- `serde_json::Number`: an unsigned integer, a negative one, or a float. -/
inductive JsonNumber where
  | posInt (n : UInt64)
  | negInt (n : Int)
  | float (x : F64)
  deriving DecidableEq

/-- `Number::as_i64`. -/
def JsonNumber.asI64 : JsonNumber → Option Int
  | .posInt n => if n.toNat < 2 ^ 63 then some n.toNat else none
  | .negInt n => some n
  | .float _ => none

/-- `Number::as_f64`; every number has one without arbitrary precision. -/
def JsonNumber.asF64 : JsonNumber → Option F64
  | .posInt n => some (natAsF64 n.toNat)
  | .negInt n => some (if n < 0 then -natAsF64 n.natAbs else natAsF64 n.natAbs)
  | .float x => some x

/-- `serde_json::Value`. -/
inductive Json where
  | null
  | bool (b : Bool)
  | number (n : JsonNumber)
  | string (s : String)
  | array (items : List Json)
  | object (fields : List (String × Json))

/-- `Value::get` by key: `None` unless the value is an object holding it. -/
def Json.get : Json → String → Option Json
  | .object fields, key => (fields.find? (fun field => field.1 = key)).map Prod.snd
  | _, _ => none

/-- `duckdb::types::Value`, as far as the engine binds it. -/
inductive Value where
  | null
  | boolean (b : Bool)
  | bigInt (n : Int)
  | double (x : F64)
  | float (x : F64)
  | text (s : String)
  deriving DecidableEq

/-- `SnapshotSpec`. -/
structure SnapshotSpec where
  snapshotId : String
  campaignId : String
  asOfTs : String
  deriving DecidableEq

/-- `FeatureRow`. -/
structure FeatureRow where
  userId : String
  featureName : String
  numValue : F64
  asOfTs : String
  producerId : String
  deriving DecidableEq

inductive SuppressionChannel where
  | sms | email | push | ads
  deriving DecidableEq, Repr

def SuppressionChannel.asStr : SuppressionChannel → String
  | .sms => "sms"
  | .email => "email"
  | .push => "push"
  | .ads => "ads"

def SuppressionChannel.parse (text : String) : Except Error SuppressionChannel :=
  match text with
  | "sms" => .ok .sms
  | "email" => .ok .email
  | "push" => .ok .push
  | "ads" => .ok .ads
  | _ => .error (.invalidInput
      ("unknown channel " ++ debugQuoted text ++ "; expected sms|email|push|ads"))

inductive SuppressionAction where
  | targeted | delivered | converted | optedOut | bounced
  deriving DecidableEq, Repr

def SuppressionAction.asStr : SuppressionAction → String
  | .targeted => "targeted"
  | .delivered => "delivered"
  | .converted => "converted"
  | .optedOut => "opted_out"
  | .bounced => "bounced"

def SuppressionAction.parse (text : String) : Except Error SuppressionAction :=
  match text with
  | "targeted" => .ok .targeted
  | "delivered" => .ok .delivered
  | "converted" => .ok .converted
  | "opted_out" => .ok .optedOut
  | "bounced" => .ok .bounced
  | _ => .error (.invalidInput ("unknown action " ++ debugQuoted text ++
      "; expected targeted|delivered|converted|opted_out|bounced"))

/-- `SuppressionRow`. -/
structure SuppressionRow where
  suppressionId : String
  campaignId : String
  userId : String
  channel : SuppressionChannel
  action : SuppressionAction
  occurredTs : String
  receivedTs : String
  deriving DecidableEq

/-- The wire label of a `SemanticType`. -/
inductive SemanticType where
  | identifier | dimension | measure | eventTs | pii | fk | table
  deriving DecidableEq, Repr

def SemanticType.asStr : SemanticType → String
  | .identifier => "identifier"
  | .dimension => "dimension"
  | .measure => "measure"
  | .eventTs => "eventTs"
  | .pii => "pii"
  | .fk => "fk"
  | .table => "table"

/-- `CatalogRow`. -/
structure CatalogRow where
  entityType : String
  system : String
  tableName : String
  columnName : Option String
  semanticType : SemanticType
  dataType : String
  description : String
  piiFlag : Bool
  sampleValues : Json
  embedding : List F64
  sourceEpoch : Int

end ConsumerEngine.Core
