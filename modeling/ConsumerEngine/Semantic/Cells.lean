import Mathlib.Data.Int.Log
import Mathlib.Algebra.Order.Floor.Ring
import Mathlib.Data.Rat.Floor
import ConsumerEngine.Core.Values

/-! A catalogue row on its way into `semantic_catalog` and out of it.

`write_catalog_rows` binds a row value by value, the samples as the text of their JSON. The
reader turns every cell into JSON by its type, and `catalogue_entry` picks the cells apart by
their positions.
-/

set_option autoImplicit false

namespace ConsumerEngine.Semantic

open ConsumerEngine.Core

/-! ### Single precision -/

/-- The nearest integer, ties to the even one. -/
def roundHalfEven (q : ℚ) : ℤ :=
  if q - ⌊q⌋ < 1 / 2 then ⌊q⌋
  else if 1 / 2 < q - ⌊q⌋ then ⌊q⌋ + 1
  else if ⌊q⌋ % 2 = 0 then ⌊q⌋
  else ⌊q⌋ + 1

/-- The distance of the single precision numbers around `x`. -/
def ulpF32 (x : F64) : F64 := 2 ^ max (Int.log 2 |x| - 23) (-149)

/-- `x as f32`, short of overflow. -/
def asF32 (x : F64) : F64 := roundHalfEven (x / ulpF32 x) * ulpF32 x

/-- A finite `f32`. -/
def IsF32 (x : F64) : Prop :=
  ∃ significand exponent : ℤ, |significand| < 2 ^ 24 ∧ -149 ≤ exponent ∧ exponent ≤ 104 ∧
    x = significand * 2 ^ exponent

theorem roundHalfEven_intCast (n : ℤ) : roundHalfEven n = n := by
  simp [roundHalfEven]

/-- A number of single precision is its own rounding. -/
theorem asF32_of_isF32 {x : F64} (single : IsF32 x) : asF32 x = x := by
  obtain ⟨significand, exponent, small, low, -, rfl⟩ := single
  by_cases zero : significand = 0
  · subst zero
    simp [asF32, roundHalfEven]
  obtain ⟨x, value⟩ : ∃ x : ℚ, x = significand * 2 ^ exponent := ⟨_, rfl⟩
  rw [← value]
  have nonzero : 0 < |x| := by
    rw [abs_pos, value]
    exact mul_ne_zero (Int.cast_ne_zero.mpr zero) (zpow_ne_zero _ two_ne_zero)
  have below : |x| < ((2 : ℕ) : ℚ) ^ (exponent + 24) := by
    have size : |x| = |(significand : ℚ)| * 2 ^ exponent := by
      rw [value, abs_mul, abs_of_pos (zpow_pos (two_pos : (0 : ℚ) < 2) exponent)]
    have bound : |(significand : ℚ)| < 2 ^ (24 : ℤ) := by
      rw [← Int.cast_abs]
      exact_mod_cast small
    rw [size, Nat.cast_ofNat, add_comm, zpow_add₀ two_ne_zero]
    exact mul_lt_mul_of_pos_right bound (zpow_pos two_pos _)
  have log : Int.log 2 |x| < exponent + 24 :=
    (Int.lt_zpow_iff_log_lt Nat.one_lt_two nonzero).mp below
  have unit : max (Int.log 2 |x| - 23) (-149) ≤ exponent := max_le (by omega) low
  obtain ⟨shift, split⟩ := Int.le.dest unit
  have positive : ulpF32 x ≠ 0 := zpow_ne_zero _ two_ne_zero
  have whole : x / ulpF32 x = ((significand * 2 ^ shift : ℤ) : ℚ) := by
    rw [div_eq_iff positive, ulpF32]
    conv_lhs => rw [value, ← split, zpow_add₀ two_ne_zero]
    push_cast
    rw [zpow_natCast]
    ring
  rw [asF32, whole, roundHalfEven_intCast, ← whole, div_mul_cancel₀ _ positive]

/-! ### Cells -/

/-- A cell as the reader fetches it. -/
inductive Fetched where
  | null
  | boolean (b : Bool)
  | bigInt (n : Int)
  | float (x : F64)
  | text (s : String)
  | list (items : List Fetched)

/-- `Number::from(i64)`. -/
def intNumber (n : Int) : JsonNumber :=
  if n < 0 then .negInt n else .posInt (UInt64.ofNat n.toNat)

mutual

/-- `value_to_json`. -/
def valueToJson : Fetched → Json
  | .null => .null
  | .boolean b => .bool b
  | .bigInt n => .number (intNumber n)
  | .float x => .number (.float x)
  | .text s => .string s
  | .list items => .array (valuesToJson items)

def valuesToJson : List Fetched → List Json
  | [] => []
  | item :: rest => valueToJson item :: valuesToJson rest

end

/-- `Value::as_str`. -/
def asStr : Json → Option String
  | .string s => some s
  | _ => none

/-- `Value::as_bool`. -/
def asBool : Json → Option Bool
  | .bool b => some b
  | _ => none

/-- `Value::as_i64`. -/
def asI64 : Json → Option Int
  | .number n => n.asI64
  | _ => none

/-- `cell_string`. -/
def cellString (cell : Option Json) : String := (cell.bind asStr).getD ""

/-- `cell_opt_string`. -/
def cellOptString (cell : Option Json) : Option String := cell.bind asStr

/-- `SemanticType::parse`. -/
def parseLabel : String → Option SemanticType
  | "identifier" => some .identifier
  | "dimension" => some .dimension
  | "measure" => some .measure
  | "eventTs" => some .eventTs
  | "pii" => some .pii
  | "fk" => some .fk
  | "table" => some .table
  | _ => none

/-- `parse_semantic_type`. -/
def parseSemanticType (cell : Option Json) : Option SemanticType := (cell.bind asStr).bind parseLabel

/-- `num_to_f32`. -/
def numToF32 : Json → Option F64
  | .number n => n.asF64.map asF32
  | _ => none

/-- `embedding_to_vec`. -/
def embeddingToVec : Json → List F64
  | .array items => items.filterMap numToF32
  | _ => []

/-! ### Writing a row -/

/-- The values `write_catalog_rows` binds for a row; `display` renders a JSON value. -/
def boundParams (display : Json → String) (tenant : String) (row : CatalogRow) : List Value :=
  [.text row.entityType, .text row.system, .text row.tableName,
    (row.columnName.map Value.text).getD .null, .text row.semanticType.asStr, .text row.dataType,
    .text row.description, .boolean row.piiFlag, .text (display row.sampleValues)] ++
  row.embedding.map Value.float ++ [.bigInt row.sourceEpoch, .text tenant]

/-- What a bound value is read back as. -/
def fetched : Value → Fetched
  | .null => .null
  | .boolean b => .boolean b
  | .bigInt n => .bigInt n
  | .double x | .float x => .float x
  | .text s => .text s

/-- `VALUES (?, ?, ?, ?, ?, ?, ?, ?, CAST(? AS JSON), list_value(?, …), ?, ?)`: a JSON cell is
read back as its text. -/
def insertedCells (dim : Nat) (params : List Value) : List Fetched :=
  (params.take 9).map fetched ++ [.list (((params.drop 9).take dim).map fetched)] ++
    (params.drop (9 + dim)).map fetched

/-- The row of the table. -/
def storedCells (display : Json → String) (tenant : String) (row : CatalogRow) : List Fetched :=
  insertedCells row.embedding.length (boundParams display tenant row)

/-! ### Reading it -/

/-- The row `catalogue_entry` makes of the cells it selects. -/
def entryOf (cells : List Json) : Except Error CatalogRow :=
  match parseSemanticType cells[4]? with
  | none => .error (.invalidInput "catalogue row has an unknown semantic_type")
  | some semanticType => .ok {
      entityType := (cellOptString cells[0]?).getD "column"
      system := cellString cells[1]?
      tableName := cellString cells[2]?
      columnName := cellOptString cells[3]?
      semanticType := semanticType
      dataType := cellString cells[5]?
      description := cellString cells[6]?
      piiFlag := (cells[7]?.bind asBool).getD false
      sampleValues := cells[8]?.getD (.array [])
      embedding := (cells[9]?.map embeddingToVec).getD []
      sourceEpoch := (cells[10]?.bind asI64).getD 0 }

/-- What a row is read back as: its first eleven cells, taken apart. -/
def readBack (display : Json → String) (tenant : String) (row : CatalogRow) :
    Except Error CatalogRow :=
  entryOf (((storedCells display tenant row).take 11).map valueToJson)

/-! ### The round trip -/

theorem parseLabel_asStr (semanticType : SemanticType) :
    parseLabel semanticType.asStr = some semanticType := by
  cases semanticType <;> rfl

theorem asI64_intNumber {n : Int} (low : -2 ^ 63 ≤ n) (high : n < 2 ^ 63) :
    (intNumber n).asI64 = some n := by
  unfold intNumber
  split
  · rfl
  · have small : (UInt64.ofNat n.toNat).toNat = n.toNat :=
      UInt64.toNat_ofNat_of_lt' (show n.toNat < UInt64.size by simp only [UInt64.size]; omega)
    rw [JsonNumber.asI64, small, if_pos (by omega)]
    exact congrArg some (Int.toNat_of_nonneg (by omega))

theorem valuesToJson_eq (items : List Fetched) : valuesToJson items = items.map valueToJson := by
  induction items with
  | nil => rfl
  | cons item rest ih => rw [valuesToJson, ih, List.map_cons]

/-- An embedding of single precision is read back as it was bound. -/
theorem embeddingToVec_floats {embedding : List F64} (single : ∀ x ∈ embedding, IsF32 x) :
    embeddingToVec (valueToJson (.list (embedding.map Fetched.float))) = embedding := by
  rw [valueToJson, valuesToJson_eq, embeddingToVec]
  induction embedding with
  | nil => rfl
  | cons x rest ih =>
    have here : numToF32 (valueToJson (.float x)) = some x :=
      congrArg some (asF32_of_isF32 (single x List.mem_cons_self))
    rw [List.map_cons, List.map_cons, List.filterMap_cons_some here,
      ih fun y member => single y (List.mem_cons_of_mem _ member)]

section
variable (display : Json → String) (tenant : String) (row : CatalogRow)

/-- The placeholders take the bound values in order. -/
theorem insertedCells_append {head vector tail : List Value} (nine : head.length = 9) :
    insertedCells vector.length (head ++ (vector ++ tail)) =
      head.map fetched ++ [.list (vector.map fetched)] ++ tail.map fetched := by
  have rest : (head ++ (vector ++ tail)).drop 9 = vector ++ tail := List.drop_left' nine
  rw [insertedCells, List.take_left' nine, ← List.drop_drop, rest, List.take_left' rfl,
    List.drop_left' rfl]

/-- The cells of a stored row, in the order of the table's columns. -/
theorem storedCells_eq : storedCells display tenant row =
    [.text row.entityType, .text row.system, .text row.tableName,
      fetched ((row.columnName.map Value.text).getD .null), .text row.semanticType.asStr,
      .text row.dataType, .text row.description, .boolean row.piiFlag,
      .text (display row.sampleValues), .list (row.embedding.map Fetched.float),
      .bigInt row.sourceEpoch, .text tenant] := by
  have floats : (row.embedding.map Value.float).map fetched = row.embedding.map Fetched.float := by
    rw [List.map_map]
    rfl
  rw [storedCells, ← List.length_map (f := Value.float), boundParams, List.append_assoc,
    insertedCells_append rfl, floats]
  rfl

/-- A row is read back with the text of its samples in place of the samples. -/
theorem readBack_eq (single : ∀ x ∈ row.embedding, IsF32 x) (low : -2 ^ 63 ≤ row.sourceEpoch)
    (high : row.sourceEpoch < 2 ^ 63) : readBack display tenant row =
      .ok { row with sampleValues := .string (display row.sampleValues) } := by
  have column : cellOptString (some (valueToJson
      (fetched ((row.columnName.map Value.text).getD .null)))) = row.columnName := by
    cases row.columnName <;> rfl
  have label : parseSemanticType (some (valueToJson (.text row.semanticType.asStr))) =
      some row.semanticType := parseLabel_asStr row.semanticType
  have epoch : asI64 (valueToJson (.bigInt row.sourceEpoch)) = some row.sourceEpoch :=
    asI64_intNumber low high
  rw [readBack, storedCells_eq]
  simp only [List.take_succ_cons, List.take_zero, List.map_cons, List.map_nil, entryOf,
    List.getElem?_cons_succ, List.getElem?_cons_zero, label, column, embeddingToVec_floats single,
    Option.bind_some, Option.map_some, Option.getD_some, epoch]
  rfl

/-- Whatever is read back is about what the row was about. -/
theorem readBack_names {entry : CatalogRow} (back : readBack display tenant row = .ok entry) :
    entry.system = row.system ∧ entry.tableName = row.tableName ∧
      entry.columnName = row.columnName := by
  have label : parseSemanticType (some (valueToJson (.text row.semanticType.asStr))) =
      some row.semanticType := parseLabel_asStr row.semanticType
  rw [readBack, storedCells_eq] at back
  simp only [List.take_succ_cons, List.take_zero, List.map_cons, List.map_nil, entryOf,
    List.getElem?_cons_succ, List.getElem?_cons_zero, label] at back
  cases back
  refine ⟨rfl, rfl, ?_⟩
  cases row.columnName <;> rfl

/-- Whatever is read back has a string for its samples. -/
theorem readBack_samples : ∃ entry, readBack display tenant row = .ok entry ∧
    entry.sampleValues = .string (display row.sampleValues) := by
  have label : parseSemanticType (some (valueToJson (.text row.semanticType.asStr))) =
      some row.semanticType := parseLabel_asStr row.semanticType
  rw [readBack, storedCells_eq]
  simp only [List.take_succ_cons, List.take_zero, List.map_cons, List.map_nil, entryOf,
    List.getElem?_cons_succ, List.getElem?_cons_zero, label]
  exact ⟨_, rfl, rfl⟩

end

end ConsumerEngine.Semantic
