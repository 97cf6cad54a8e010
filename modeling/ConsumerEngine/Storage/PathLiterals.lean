import ConsumerEngine.Core.Identifiers
import ConsumerEngine.Sql.Literals

/-! The statements built from a filesystem path, which is the only text they carry as a literal.

A path is what `to_string_lossy` makes of it.
-/

set_option autoImplicit false

namespace ConsumerEngine.Storage

open ConsumerEngine.Core ConsumerEngine.Sql

/-- `escape_for_sql_literal`. -/
def escapeForSqlLiteral (s : String) : String := String.ofList (doubled s.toList)

/-- An `ATTACH` of a catalogue under a name. -/
def attachAs (name options catalogPath dataPath : String) : String :=
  "ATTACH " ++ "'" ++ ("ducklake:" ++ escapeForSqlLiteral catalogPath) ++ "'" ++
    (" AS " ++ name ++ " (DATA_PATH " ++ "'" ++ escapeForSqlLiteral dataPath ++ "'" ++ options)

/-- The statement by which `Writer::attach` attaches the catalogue. -/
def attachSql (catalogPath dataPath : String) : String :=
  attachAs writeCatalogAlias ");" catalogPath dataPath

/-- `read_only_attach_sql`. -/
def readOnlyAttachSql (catalogPath dataPath : String) : String :=
  attachAs readOnlyCatalogAlias ", READ_ONLY);" catalogPath dataPath

/-- What `export_snapshot_parquet` copies. -/
def exportSelect : String :=
  "COPY (SELECT snapshot_id, campaign_id, as_of_ts, user_id, features, hit_reason FROM " ++
    writeCatalogAlias ++ ".audience_snapshot WHERE snapshot_id = CAST(? AS UUID)) TO "

/-- The statement of `export_snapshot_parquet`. -/
def exportSql (dest : String) : String :=
  exportSelect ++ "'" ++ escapeForSqlLiteral dest ++ "'" ++
    (" (FORMAT " ++ "'" ++ "PARQUET" ++ "'" ++ ")")

/-- An escaped text in quotes is read back exactly, and what follows is left as it is. -/
theorem readLiteral_escape (s rest : String) (follows : ¬ StartsWithQuote rest) :
    readLiteral ("'" ++ escapeForSqlLiteral s ++ "'" ++ rest) = some (s, rest) := by
  have text : ("'" ++ escapeForSqlLiteral s ++ "'" ++ rest).toList =
      '\'' :: (doubled s.toList ++ '\'' :: rest.toList) := by
    simp [escapeForSqlLiteral, String.toList_append]
  rw [readLiteral, text]
  simp only [readQuoted_doubled follows, Option.map_some, String.ofList_toList]

/-- SQL, a text in quotes, and what is read behind it. -/
theorem pieces_literal {before value after : String} (plain : '\'' ∉ before.toList)
    (follows : ¬ StartsWithQuote after) :
    pieces (before ++ "'" ++ escapeForSqlLiteral value ++ "'" ++ after) =
      (pieces after).map (codePiece before.toList ++ .literal value :: ·) := by
  have text : (before ++ "'" ++ escapeForSqlLiteral value ++ "'" ++ after).toList =
      before.toList ++ '\'' :: (doubled value.toList ++ '\'' :: after.toList) := by
    simp [escapeForSqlLiteral, String.toList_append]
  rw [pieces, text, readFrom_literal plain follows, String.ofList_toList]
  rfl

theorem escape_append {first : String} (plain : '\'' ∉ first.toList) (second : String) :
    first ++ escapeForSqlLiteral second = escapeForSqlLiteral (first ++ second) := by
  rw [escapeForSqlLiteral, escapeForSqlLiteral, String.toList_append, doubled_append,
    doubled_plain plain, String.ofList_append, String.ofList_toList]

theorem pieces_plain {text : String} (plain : '\'' ∉ text.toList) :
    pieces text = some (codePiece text.toList) := by
  rw [pieces, ← List.append_nil text.toList, readFrom_outside plain, List.nil_append,
    List.append_nil, readFrom]

theorem not_startsWithQuote {text : String} (plain : '\'' ∉ text.toList) :
    ¬ StartsWithQuote text := fun starts => plain (List.mem_of_mem_head? starts)

theorem codePiece_toList {first : String} (other : first ≠ "") :
    codePiece first.toList = [.code first] := by
  have filled : first.toList.isEmpty = false := by
    rw [List.isEmpty_eq_false_iff]
    exact fun empty => other (String.toList_eq_nil_iff.mp empty)
  rw [codePiece, filled, String.ofList_toList]
  rfl

/-- Both paths of an `ATTACH` are its literals, and nothing else of them is. -/
theorem pieces_attach (catalogPath dataPath : String) {name options : String}
    (word : '\'' ∉ name.toList) (plain : '\'' ∉ options.toList) (other : options ≠ "") :
    pieces (attachAs name options catalogPath dataPath) =
      some [.code "ATTACH ", .literal ("ducklake:" ++ catalogPath),
        .code (" AS " ++ name ++ " (DATA_PATH "), .literal dataPath, .code options] := by
  have between : '\'' ∉ (" AS " ++ name ++ " (DATA_PATH ").toList := by
    simp [String.toList_append, word]
  have filled : " AS " ++ name ++ " (DATA_PATH " ≠ "" := fun empty => by
    have none_ := congrArg String.toList empty
    simp [String.toList_append] at none_
  have first : ¬ StartsWithQuote (" AS " ++ name ++ " (DATA_PATH " ++ "'" ++
      escapeForSqlLiteral dataPath ++ "'" ++ options) := by
    simp [StartsWithQuote, String.toList_append]
  rw [attachAs, escape_append (by decide), pieces_literal (by decide) first,
    pieces_literal between (not_startsWithQuote plain), pieces_plain plain, codePiece_toList other,
    codePiece_toList filled, codePiece_toList (by decide)]
  simp only [Option.map_some, List.cons_append, List.nil_append]

theorem pieces_export (dest : String) :
    pieces (exportSql dest) = some [.code exportSelect, .literal dest, .code " (FORMAT ",
      .literal "PARQUET", .code ")"] := by
  have plain : '\'' ∉ exportSelect.toList := by decide +kernel
  have filled : exportSelect ≠ "" := by decide +kernel
  have format : pieces (" (FORMAT " ++ "'" ++ "PARQUET" ++ "'" ++ ")") =
      some [.code " (FORMAT ", .literal "PARQUET", .code ")"] := by decide
  rw [exportSql, pieces_literal plain (by decide), format, codePiece_toList filled]
  simp only [Option.map_some, List.cons_append, List.nil_append]

/-- A path in an escaped literal is read back exactly, and the statements built from paths have
the paths as literals and nothing of them as SQL. -/
theorem paths_read_back (s rest catalogPath dataPath dest : String)
    (follows : ¬ StartsWithQuote rest) :
    readLiteral ("'" ++ escapeForSqlLiteral s ++ "'" ++ rest) = some (s, rest) ∧
    pieces (attachSql catalogPath dataPath) =
      some [.code "ATTACH ", .literal ("ducklake:" ++ catalogPath),
        .code (" AS " ++ writeCatalogAlias ++ " (DATA_PATH "), .literal dataPath, .code ");"] ∧
    pieces (readOnlyAttachSql catalogPath dataPath) =
      some [.code "ATTACH ", .literal ("ducklake:" ++ catalogPath),
        .code (" AS " ++ readOnlyCatalogAlias ++ " (DATA_PATH "), .literal dataPath,
        .code ", READ_ONLY);"] ∧
    pieces (exportSql dest) = some [.code exportSelect, .literal dest, .code " (FORMAT ",
      .literal "PARQUET", .code ")"] :=
  ⟨readLiteral_escape s rest follows,
    pieces_attach catalogPath dataPath (by decide) (by decide) (by decide),
    pieces_attach catalogPath dataPath (by decide) (by decide) (by decide), pieces_export dest⟩

/-- Quotes at both ends and in the middle. -/
theorem paths_read_back_quotes :
    readLiteral ("'" ++ escapeForSqlLiteral "''a'b'" ++ "'" ++ " (X)") = some ("''a'b'", " (X)") :=
  (paths_read_back "''a'b'" " (X)" "c.db" "data" "out.parquet" (by decide)).1

end ConsumerEngine.Storage
