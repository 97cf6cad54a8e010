import Mathlib.Data.List.TakeDrop
import Mathlib.Data.List.Basic
import Mathlib.Data.List.Lex
import Mathlib.Order.Basic

/-! The engine-wide error type and the identifier allowlists.

Identifiers are rendered unquoted into SQL, so DuckDB resolves them up to letter
case; `foldName` is the name it actually looks up.
-/

set_option autoImplicit false

namespace ConsumerEngine.Core

/-- `consumer_engine_core::Error`. A boxed upstream failure keeps its text only.
`panicked` is no value of that type: it marks a thread that unwound. -/
inductive Error where
  | storage (source : String)
  | execution (source : String)
  | ingestion (source : String)
  | writerAlreadyHeld
  | invalidInput (message : String)
  | catalogueUnavailable
  | panicked (message : String)
  deriving DecidableEq, Repr

/-- The `{:?}` rendering of a string. -/
def debugQuoted (text : String) : String :=
  let escaped := text.toList.flatMap fun c =>
    match c with
    | '"' => ['\\', '"']
    | '\\' => ['\\', '\\']
    | '\n' => ['\\', 'n']
    | '\r' => ['\\', 'r']
    | '\t' => ['\\', 't']
    | other => [other]
  "\"" ++ String.ofList escaped ++ "\""

/-- One character of `[a-zA-Z0-9_]`. -/
def isIdentChar (c : Char) : Bool := c.isAlphanum || c == '_'

/-- `IDENT_RE`: one to 64 characters of the allowlist. -/
def isIdent (name : String) : Bool :=
  decide (1 ≤ name.toList.length ∧ name.toList.length ≤ 64) && name.toList.all isIdentChar

/-- `FEATURE_NAME_RE`: as `IDENT_RE`, with the dot of namespaced names. -/
def isFeatureName (name : String) : Bool :=
  decide (1 ≤ name.toList.length ∧ name.toList.length ≤ 64) &&
    name.toList.all (fun c => isIdentChar c || c == '.')

def validateIdent (name : String) : Except Error Unit :=
  if isIdent name then .ok ()
  else .error (.invalidInput
    ("invalid identifier " ++ debugQuoted name ++ ": must match ^[a-zA-Z0-9_-]\x7b1,64\x7d$"))

def validateFeatureName (name : String) : Except Error Unit :=
  if isFeatureName name then .ok ()
  else .error (.invalidInput
    ("invalid feature name " ++ debugQuoted name ++ ": must match ^[a-zA-Z0-9_.-]\x7b1,64\x7d$"))

theorem validateIdent_eq_ok {name : String} : validateIdent name = .ok () ↔ isIdent name = true := by
  unfold validateIdent
  split <;> simp_all

theorem validateFeatureName_eq_ok {name : String} :
    validateFeatureName name = .ok () ↔ isFeatureName name = true := by
  unfold validateFeatureName
  split <;> simp_all

theorem forM_validateIdent_eq_ok {names : List String} :
    names.forM validateIdent = .ok () ↔ names.all isIdent = true := by
  rw [List.forM_eq_forM]
  induction names with
  | nil => simp [pure, Except.pure]
  | cons name names ih =>
    rw [List.forM_cons, List.all_cons, Bool.and_eq_true, ← ih, ← validateIdent_eq_ok]
    cases checked : validateIdent name <;> simp [bind, Except.bind]

theorem isIdent_chars {name : String} (valid : isIdent name = true) :
    ∀ c ∈ name.toList, isIdentChar c = true := by
  simp only [isIdent, Bool.and_eq_true, List.all_eq_true] at valid
  exact valid.2

theorem isIdent_ne_nil {name : String} (valid : isIdent name = true) : name.toList ≠ [] := by
  simp only [isIdent, Bool.and_eq_true, decide_eq_true_eq] at valid
  exact List.length_pos_iff.mp valid.1.1

/-- `str::split_once`: the text before and after the first separator. -/
def splitOnce (separator : Char) (text : String) : Option (String × String) :=
  match text.toList.span (· != separator) with
  | (_, []) => none
  | (before, _ :: after) => some (String.ofList before, String.ofList after)

/-- Relabel a rejected identifier with the part of the name it was. -/
def labelled (label : String) : Except Error Unit → Except Error Unit
  | .error (.invalidInput message) => .error (.invalidInput (label ++ "invalid input: " ++ message))
  | other => other

/-- Split a namespaced feature name `family.short` into validated parts. -/
def splitFeatureName (name : String) : Except Error (String × String) :=
  match splitOnce '.' name with
  | none => .error (.invalidInput
      ("feature name " ++ debugQuoted name ++ " must be namespaced 'family.short'"))
  | some (family, short) => do
      labelled "feature family: " (validateIdent family)
      labelled "feature short name: " (validateIdent short)
      return (family, short)

theorem labelled_eq_ok {label : String} {check : Except Error Unit} :
    labelled label check = .ok () ↔ check = .ok () := by
  cases check with
  | ok => simp [labelled]
  | error e => cases e <;> simp [labelled]

theorem splitOnce_eq_some {separator : Char} {text before after : String}
    (split : splitOnce separator text = some (before, after)) :
    text = before ++ String.singleton separator ++ after := by
  unfold splitOnce at split
  rw [List.span_eq_takeWhile_dropWhile] at split
  have whole := @List.takeWhile_append_dropWhile _ (· != separator) text.toList
  cases rest : text.toList.dropWhile (· != separator) with
  | nil => simp [rest] at split
  | cons c later =>
    have stops : (c != separator) = false := by
      have head := List.head?_dropWhile_not (· != separator) text.toList
      rw [rest] at head
      simpa using head
    obtain rfl : c = separator := by simpa using stops
    simp only [rest, Option.some.injEq, Prod.mk.injEq] at split
    obtain ⟨rfl, rfl⟩ := split
    rw [rest] at whole
    refine String.toList_injective (whole.symm.trans ?_)
    simp only [String.toList_append, String.toList_ofList, String.toList_singleton,
      List.append_assoc, List.singleton_append]

theorem splitFeatureName_parts {name family short : String}
    (split : splitFeatureName name = .ok (family, short)) :
    splitOnce '.' name = some (family, short) ∧ isIdent family = true ∧ isIdent short = true := by
  unfold splitFeatureName at split
  cases parts : splitOnce '.' name with
  | none => simp [parts] at split
  | some pair =>
    obtain ⟨before, after⟩ := pair
    simp only [parts] at split
    cases first : labelled "feature family: " (validateIdent before) with
    | error e => simp [first, bind, Except.bind] at split
    | ok =>
      cases second : labelled "feature short name: " (validateIdent after) with
      | error e => simp [first, second, bind, Except.bind] at split
      | ok =>
        simp only [first, second, bind, Except.bind, pure, Except.pure, Except.ok.injEq,
          Prod.mk.injEq] at split
        obtain ⟨rfl, rfl⟩ := split
        exact ⟨rfl, validateIdent_eq_ok.mp (labelled_eq_ok.mp first),
          validateIdent_eq_ok.mp (labelled_eq_ok.mp second)⟩

theorem splitFeatureName_ident {name family short : String}
    (split : splitFeatureName name = .ok (family, short)) :
    isIdent family = true ∧ isIdent short = true :=
  (splitFeatureName_parts split).2

theorem splitFeatureName_eq {name family short : String}
    (split : splitFeatureName name = .ok (family, short)) : name = family ++ "." ++ short :=
  splitOnce_eq_some (splitFeatureName_parts split).1

/-- The case-insensitive name behind an unquoted identifier. -/
def foldName (name : String) : String := String.ofList (name.toList.map Char.toLower)

theorem toLower_notUpper (c : Char) :
    ¬ (c.toLower.val ≥ 'A'.val ∧ c.toLower.val ≤ 'Z'.val) := by
  by_cases upper : c.val ≥ 'A'.val ∧ c.val ≤ 'Z'.val
  · have lowered : c.toLower.val = c.val + ('a'.val - 'A'.val) :=
      congrArg Char.val (dif_pos upper)
    have shift : ('a'.val - 'A'.val).toNat = 32 := by decide
    have first : 65 ≤ c.val.toNat := upper.1
    have last : c.val.toNat ≤ 90 := upper.2
    rw [lowered]
    rintro ⟨-, high⟩
    replace high : (c.val + ('a'.val - 'A'.val)).toNat ≤ 90 := high
    rw [UInt32.toNat_add, shift] at high
    omega
  · rwa [show c.toLower = c from dif_neg upper]

@[simp] theorem foldName_again (name : String) : foldName (foldName name) = foldName name := by
  rw [foldName, foldName, String.toList_ofList, List.map_map]
  refine congrArg _ (List.map_congr_left fun c _ => ?_)
  exact dif_neg (toLower_notUpper c)

/-- A source table, stored as `raw_{system}_{entity}`. -/
structure Dataset where
  system : String
  entity : String
  deriving DecidableEq, Repr

/-- `READ_ONLY_CATALOG_ALIAS`. -/
def readOnlyCatalogAlias : String := "dro"

/-- `WRITE_CATALOG_ALIAS`. -/
def writeCatalogAlias : String := "dl"

end ConsumerEngine.Core
