import ConsumerEngine.Foundation.Templates
import ConsumerEngine.Storage.Atomicity

/-! The texts of the statements that names are written into.

Column names, keys, table names and the names of wide views stand in them unquoted, beside the
columns the writer adds on its own.
-/

set_option autoImplicit false

namespace ConsumerEngine.Storage

open ConsumerEngine.Core ConsumerEngine.Foundation

/-! ### Texts -/

/-- A part of a statement: text of the writer's own, or a name that is written into it. -/
inductive Wording where
  | sql (text : String)
  | name (text : String)

def Wording.text : Wording → String
  | .sql text | .name text => text

def Wording.name? : Wording → Option String
  | .sql _ => none
  | .name text => some text

/-- `join(", ")`. -/
def separated : List (List Wording) → List Wording
  | [] => []
  | [last] => last
  | first :: second :: rest => first ++ [.sql ", "] ++ separated (second :: rest)

/-- `raw_table_name`, as it is written. -/
def rawTable (dataset : Dataset) : String := "raw_" ++ dataset.system ++ "_" ++ dataset.entity

/-- The placeholders of `count` rows. -/
def placeholderRows (width count : Nat) : String :=
  joined ", " (List.replicate count ("(" ++ joined ", " (List.replicate width "?") ++ ")"))

/-- A list of names, each with what is written around it. -/
def listed (before after : String) (names : List String) : List Wording :=
  separated (names.map fun name => [.sql before, .name name, .sql after])

/-- The text of a statement that names of a caller are written into. -/
def Statement.wording : Statement → List Wording
  | .createRaw into columns =>
      [.sql ("CREATE TABLE IF NOT EXISTS " ++ writeCatalogAlias ++ "."), .name (rawTable into),
        .sql " ("] ++ listed "" " VARCHAR" columns ++ [.sql ")"]
  | .addTenantColumn into =>
      [.sql ("ALTER TABLE " ++ writeCatalogAlias ++ "."), .name (rawTable into),
        .sql " ADD COLUMN IF NOT EXISTS ", .name "tenant_id", .sql " VARCHAR"]
  | .insertRaw into columns count _ =>
      [.sql ("INSERT INTO " ++ writeCatalogAlias ++ "."), .name (rawTable into), .sql " ("] ++
        listed "" "" columns ++ [.sql (") VALUES " ++ placeholderRows columns.length count)]
  | .mergeUpsert into columns key count _ =>
      [.sql ("MERGE INTO " ++ writeCatalogAlias ++ "."), .name (rawTable into),
        .sql (" AS t USING (VALUES " ++ placeholderRows columns.length count ++ ") AS s(")] ++
        listed "" "" columns ++
        [.sql ") ON t.", .name key, .sql " = s.", .name key,
          .sql " WHEN MATCHED THEN UPDATE SET "] ++
        separated (columns.map fun c => [.name c, .sql " = s.", .name c]) ++
        [.sql " WHEN NOT MATCHED THEN INSERT ("] ++ listed "" "" columns ++
        [.sql ") VALUES ("] ++ listed "s." "" columns ++ [.sql ")"]
  | .mergeDelete into key keys _ =>
      [.sql ("MERGE INTO " ++ writeCatalogAlias ++ "."), .name (rawTable into),
        .sql (" AS t USING (VALUES " ++ placeholderRows 1 keys.length ++ ") AS s("), .name key,
        .sql ") ON t.", .name key, .sql " = s.", .name key, .sql " AND t.", .name "tenant_id",
        .sql " = ? WHEN MATCHED THEN DELETE"]
  | .createView family shorts =>
      [.sql ("CREATE OR REPLACE VIEW " ++ writeCatalogAlias ++ "."),
        .name ("feature_wide_" ++ family), .sql " AS SELECT "] ++
        separated ([.name "user_id"] :: [.name "tenant_id"] :: shorts.map fun short =>
          [.sql ("arg_max(num_value, as_of_ts) FILTER (WHERE feature_name = '" ++ family ++ "." ++
            short ++ "') AS "), .name short]) ++
        [.sql (" FROM " ++ writeCatalogAlias ++ ".feature_store WHERE starts_with(feature_name, '" ++
          family ++ ".') GROUP BY user_id, tenant_id")]
  | _ => []

def Statement.text (statement : Statement) : String :=
  String.join (statement.wording.map Wording.text)

/-- The names written into a statement. -/
def namesIn (wording : List Wording) : List String := wording.filterMap Wording.name?

/-- The columns a statement gives a relation, or assigns. -/
def Statement.columnNames : Statement → List String
  | .createRaw _ columns | .insertRaw _ columns _ _ | .mergeUpsert _ columns _ _ _ => columns
  | .mergeDelete _ key _ _ => [key]
  | .createView _ shorts => "user_id" :: "tenant_id" :: shorts
  | _ => []

/-- A name that may stand in SQL without quotes: letters, digits and underscores, not a digit
first, and no reserved word. -/
def isUnquotedName (name : String) : Bool := name.toList.all isIdentChar && isColumnName name

/-- Every name in the text may stand there without quotes, and no two columns have one name. -/
structure Statement.WellNamed (statement : Statement) : Prop where
  unquoted : ∀ name ∈ namesIn statement.wording, isUnquotedName name = true
  distinct : (statement.columnNames.map foldName).Nodup

/-- A statement no name of a caller is written into. -/
def Statement.Plain (statement : Statement) : Prop :=
  statement.wording = [] ∧ statement.columnNames = []

theorem plain_wellNamed {statement : Statement} (plain : statement.Plain) :
    statement.WellNamed := by
  refine ⟨fun name member => ?_, plain.2 ▸ List.nodup_nil⟩
  rw [plain.1] at member
  cases member

example : (Statement.createRaw ⟨"crm", "users"⟩ ["id", "tenant_id"]).text =
    "CREATE TABLE IF NOT EXISTS dl.raw_crm_users (id VARCHAR, tenant_id VARCHAR)" := by decide

/-! ### Names in a text -/

section
variable {names : List String} {before after : String}

@[simp] theorem namesIn_nil : namesIn [] = [] := rfl

@[simp] theorem namesIn_sql (text : String) (rest : List Wording) :
    namesIn (.sql text :: rest) = namesIn rest := rfl

@[simp] theorem namesIn_name (text : String) (rest : List Wording) :
    namesIn (.name text :: rest) = text :: namesIn rest := rfl

@[simp] theorem namesIn_append (first second : List Wording) :
    namesIn (first ++ second) = namesIn first ++ namesIn second := List.filterMap_append

theorem namesIn_separated (parts : List (List Wording)) :
    namesIn (separated parts) = parts.flatMap namesIn := by
  induction parts with
  | nil => rfl
  | cons first rest ih =>
    cases rest with
    | nil => rw [separated, List.flatMap_cons, List.flatMap_nil, List.append_nil]
    | cons second rest =>
      rw [separated, namesIn_append, namesIn_append, ih, List.flatMap_cons]
      exact congrArg (· ++ _) (List.append_nil _)

@[simp] theorem namesIn_listed : namesIn (listed before after names) = names := by
  rw [listed, namesIn_separated, List.flatMap_map]
  exact List.flatMap_singleton' names

theorem mem_namesIn_assigned {name : String} :
    name ∈ namesIn (separated (names.map fun c => [.name c, .sql " = s.", .name c])) ↔
      name ∈ names := by
  rw [namesIn_separated, List.flatMap_map, List.mem_flatMap]
  constructor
  · rintro ⟨c, member, here⟩
    have same : name ∈ [c, c] := here
    simp only [List.mem_cons, List.not_mem_nil, or_false, or_self] at same
    exact same ▸ member
  · exact fun member => ⟨name, member, List.mem_cons_self⟩

end

/-! ### Names that may stand unquoted -/

theorem foldName_append (first second : String) :
    foldName (first ++ second) = foldName first ++ foldName second := by
  rw [foldName, String.toList_append, List.map_append, String.ofList_append]
  rfl

/-- A name behind a stem that no reserved word begins with may stand without quotes. -/
theorem stemmed_unquoted {stem name : String} {first : Char} {rest : List Char}
    (begins : stem.toList = first :: rest) (letter : first.isDigit = false)
    (chars : stem.toList.all isIdentChar = true) (ident : name.toList.all isIdentChar = true)
    (unlike : ∀ word ∈ reservedWords, (foldName stem).toList.isPrefixOf word.toList = false) :
    isUnquotedName (stem ++ name) = true := by
  have free : reservedWords.contains (foldName (stem ++ name)) = false := by
    rw [Bool.eq_false_iff]
    intro reserved
    have member : foldName (stem ++ name) ∈ reservedWords := by simpa using reserved
    have prefixed : (foldName stem).toList.isPrefixOf (foldName (stem ++ name)).toList = true := by
      rw [foldName_append, String.toList_append, List.isPrefixOf_iff_prefix]
      exact List.prefix_append _ _
    rw [unlike _ member] at prefixed
    cases prefixed
  rw [isUnquotedName, isColumnName, free, String.toList_append, List.all_append, chars, ident, begins]
  simp only [List.cons_append, letter, Bool.not_false, Bool.and_self]

theorem rawTable_unquoted {dataset : Dataset} (system : isIdent dataset.system = true)
    (entity : isIdent dataset.entity = true) : isUnquotedName (rawTable dataset) = true := by
  have ident : (dataset.system ++ ("_" ++ dataset.entity)).toList.all isIdentChar = true := by
    simp only [String.toList_append, List.all_append, Bool.and_eq_true,
      List.all_eq_true.mpr (isIdent_chars system), List.all_eq_true.mpr (isIdent_chars entity)]
    decide
  rw [rawTable, String.append_assoc, String.append_assoc]
  exact stemmed_unquoted rfl (by decide) (by decide) ident (by decide)

theorem wideTable_unquoted {family : String} (ident : isIdent family = true) :
    isUnquotedName ("feature_wide_" ++ family) = true :=
  stemmed_unquoted rfl (by decide) (by decide) (List.all_eq_true.mpr (isIdent_chars ident))
    (by decide)

/-- Of the names that are accepted, those may stand unquoted that can name a column. -/
theorem isUnquotedName_of_isIdent {name : String} (ident : isIdent name = true) :
    isUnquotedName name = isColumnName name := by
  rw [isUnquotedName, List.all_eq_true.mpr (isIdent_chars ident), Bool.true_and]

end ConsumerEngine.Storage
