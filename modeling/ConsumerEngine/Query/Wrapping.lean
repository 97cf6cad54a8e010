import ConsumerEngine.Query.Compiler

/-! The selection a materialisation sends to the writer: the compiled segment, joined with
one point-in-time pivot of the feature store per family.
-/

set_option autoImplicit false

namespace ConsumerEngine.Query

open ConsumerEngine.Core ConsumerEngine.Foundation

/-- The short names of each family, `BTreeMap<String, Vec<String>>` in key order. -/
abbrev Families : Type := List (String × List String)

/-- Every name of the map has passed `split_feature_name`. -/
def Families.Named (families : Families) : Prop :=
  ∀ family ∈ families, isIdent family.1 = true ∧ ∀ short ∈ family.2, isIdent short = true

/-- The alias of the `idx`-th pivot. -/
def pivotAlias (idx : Nat) : String := "fs_" ++ toString idx

def pivotColumn (family short : String) : String :=
  "arg_max(num_value, as_of_ts) FILTER (WHERE feature_name = '" ++ family ++ "." ++ short ++
    "') AS " ++ short

def pivotColumns (family : String) (shorts : List String) : List String :=
  ["user_id", "tenant_id"] ++ shorts.map (pivotColumn family)

/-- The join of one family's pivot. -/
def pivotJoin (key : String) (idx : Nat) (family : String) (shorts : List String) : String :=
  let fa := pivotAlias idx
  " LEFT JOIN (SELECT " ++ joined ", " (pivotColumns family shorts) ++ " FROM " ++
    writeCatalogAlias ++ ".feature_store WHERE starts_with(feature_name, '" ++ family ++
    ".') AND " ++ "as_of_ts <= CAST(? AS TIMESTAMPTZ)" ++ " GROUP BY user_id, tenant_id) " ++ fa ++
    " ON " ++ fa ++ ".user_id = s." ++ key ++ " AND " ++ fa ++ ".tenant_id = ?"

def jsonPair (idx : Nat) (family short : String) : String :=
  "'" ++ family ++ "." ++ short ++ "', " ++ pivotAlias idx ++ "." ++ short

/-- The joins of the families from the `idx`-th on. -/
def pivotJoins (key : String) (idx : Nat) : Families → String
  | [] => ""
  | (family, shorts) :: rest => pivotJoin key idx family shorts ++ pivotJoins key (idx + 1) rest

def jsonPairs (idx : Nat) : Families → List String
  | [] => []
  | (family, shorts) :: rest => shorts.map (jsonPair idx family) ++ jsonPairs (idx + 1) rest

def featuresExpr (families : Families) : String :=
  let pairs := jsonPairs 0 families
  if pairs.isEmpty then "json_object()" else "json_object(" ++ joined ", " pairs ++ ")"

/-- `wrap_sql`. -/
def wrapSql (key : String) (families : Families) (write : CompiledQuery) : String :=
  "SELECT s." ++ key ++ " AS " ++ key ++ ", " ++ featuresExpr families ++
    " AS features, " ++ "CAST(? AS JSON) AS hit_reason" ++ " FROM (" ++ write.sql ++ ") s" ++
    pivotJoins key 0 families

/-- `wrap_params`. -/
def wrapParams (hitReason asOfTs tenant : String) (families : Families) (write : CompiledQuery) :
    List Value :=
  [.text hitReason] ++ write.params ++ families.flatMap fun _ => [.text asOfTs, .text tenant]

end ConsumerEngine.Query
