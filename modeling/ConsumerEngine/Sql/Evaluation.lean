import ConsumerEngine.Sql.RoundTrip
import ConsumerEngine.Sql.Truth

/-! What a query of the fragment comes to on the tables of a database.

Values and what is computed on them are a parameter; the laws it carries are those of SQL.
A query gives a bag of rows, or fails: a cast, a comparison or a function may. The condition
of a join that fails counts like a part of the filter: where the other parts hold.
-/

set_option autoImplicit false

namespace ConsumerEngine.Sql

/-- The functions that sum up the rows of a group. -/
def isAggregate (function : String) : Bool :=
  ["count", "sum", "avg", "min", "max", "bool_or", "arg_max"].contains function

/-- The values of a database engine. Two values are one where `DISTINCT` does not tell them
apart. -/
structure Scalars (M V : Type) where
  /-- What a placeholder stands for. -/
  bound : M → V
  null : V
  text : String → V
  numeral : String → V
  boolean : Bool → V
  bigint : Nat → V
  truth : V → Truth
  compare : Comparison → V → V → Truth
  cast : String → V → Option V
  interval : String → String → V
  extract : String → V → Option V
  arithmetic : Bool → V → V → Option V
  minus : V → V → Option V
  call : String → List V → Option V
  aggregate : String → Multiset (List V) → Option V
  /-- The value a bag of at most one row stands for. -/
  only : Multiset (List V) → Option V
  /-- The rows a `LIMIT` leaves, by the columns, the column to order by and the count. -/
  cut : List String → Option String → String → Multiset (List V) → Multiset (List V)
  truth_boolean : ∀ b, truth (boolean b) = .ofBool b
  compare_text : ∀ a b, compare .eq (text a) (text b) = .ofBool (decide (a = b))
  compare_null : ∀ comparison v,
    compare comparison null v = .unknown ∧ compare comparison v null = .unknown
  compare_one : compare .eq (numeral "1") (numeral "1") = .yes
  compare_zero : compare .eq (numeral "1") (numeral "0") = .no
  aggregate_count : ∀ rows : Multiset (List V), (∀ row ∈ rows, row = []) →
    aggregate "count" rows = some (bigint rows.card)
  only_singleton : ∀ v, only {[v]} = some v
  cut_le : ∀ columns order count rows, cut columns order count rows ≤ rows
  card_cut : ∀ columns order n rows,
    (cut columns order (toString n) rows).card = min n rows.card

/-- A stored table: its columns, and what its rows hold under them. -/
structure Stored (V : Type) where
  columns : List String
  rows : Multiset (String → V)

/-- What a query gives. -/
structure Table (V : Type) where
  columns : List String
  rows : Multiset (List V)

/-- The tables of a database, by catalogue and name. -/
abbrev Tables (V : Type) : Type := String → String → Option (Stored V)

/-- A row of a relation in scope. -/
structure Binding (V : Type) where
  name : String
  columns : List String
  cell : String → V

/-- One row of each relation in scope. -/
abbrev Frame (V : Type) : Type := List (Binding V)

/-- Frames, each with what its joins came to. -/
abbrev Frames (V : Type) : Type := Multiset (Frame V × Truth)

/-- What a phrase is evaluated under. -/
structure Env (V : Type) where
  tables : Tables V
  /-- The named queries. -/
  named : List (String × Table V)
  frame : Frame V
  /-- The rows of the queries around, innermost first. -/
  outer : List (Frame V)
  /-- The rows an aggregate sums up. -/
  group : Multiset (Frame V)

section
variable {V : Type}

/-- The tables of a database, with no row in scope. -/
def Env.of (tables : Tables V) : Env V := ⟨tables, [], [], [], 0⟩

/-- A row of the sub-select. -/
def Env.enter (env : Env V) (frame : Frame V) : Env V :=
  { env with frame, outer := env.frame :: env.outer, group := 0 }

/-- A group of rows of the sub-select. -/
def Env.enterGroup (env : Env V) (frame : Frame V) (group : Multiset (Frame V)) : Env V :=
  { env with frame, outer := env.frame :: env.outer, group }

/-- One row of the group. -/
def Env.member (env : Env V) (frame : Frame V) : Env V := { env with frame, group := 0 }

def Env.withNamed (env : Env V) (name : String) (table : Table V) : Env V :=
  { env with named := (name, table) :: env.named }

/-- The rows of a query, for the query around it. -/
def Table.stored (null : V) (table : Table V) : Stored V where
  columns := table.columns
  rows := table.rows.map fun values name => ((table.columns.zip values).lookup name).getD null

/-- `relation.name`: the column of the nearest relation called so. -/
def Env.column (null : V) (env : Env V) (relation name : String) : V :=
  match (env.frame ++ env.outer.flatten).find? (·.name = relation) with
  | some binding => binding.cell name
  | none => null

/-- `name`: the column of the nearest relation that has it. -/
def Env.bare (null : V) (env : Env V) (name : String) : V :=
  match (env.frame ++ env.outer.flatten).find? (·.columns.contains name) with
  | some binding => binding.cell name
  | none => null

def Env.ref (null : V) (env : Env V) (ref : ColumnRef) : V :=
  match ref.relation with
  | some relation => env.column null relation ref.name
  | none => env.bare null ref.name

end

/-! ### Names and aggregates -/

section
variable {M : Type}

/-- The name a value has by itself. -/
def ownName : Ast M .term → Option String
  | .product (.column _ name) .done => some name
  | .product (.bare name) .done => some name
  | _ => none

/-- The columns of a select list. -/
def Ast.names : {kind : Kind} → Ast M kind → List String
  | _, .item value name => [(name.or (ownName value)).getD ""]
  | _, .itemThen value name rest => (name.or (ownName value)).getD "" :: rest.names
  | _, _ => []

/-- The columns of a query. -/
def Ast.columns : {kind : Kind} → Ast M kind → List String
  | _, .select _ items _ _ _ _ _ _ => items.names
  | _, .single query => query.columns
  | _, .combine _ left _ => left.columns
  | _, .withFirst _ _ rest => rest.columns
  | _, .body query => query.columns
  | _, .withNext _ _ rest => rest.columns
  | _, _ => []

/-- Whether a phrase sums up the rows of its select. -/
def Ast.sums : {kind : Kind} → Ast M kind → Bool
  | _, .cast value _ | _, .extract _ value | _, .paren value | _, .present value
  | _, .last value | _, .distinct value | _, .holds value | _, .item value _ => value.sums
  | _, .call function args => isAggregate function || args.sums
  | _, .filtered _ _ _ => true
  | _, .times _ factor rest => factor.sums || rest.sums
  | _, .product first rest => first.sums || rest.sums
  | _, .minus left right => left.sums || right.sums
  | _, .more value rest => value.sums || rest.sums
  | _, .given values => values.sums
  | _, .compare _ left right => left.sums || right.sums
  | _, .isIn _ value list => value.sums || list.sums
  | _, .only test => test.sums
  | _, .both test rest => test.sums || rest.sums
  | _, .itemThen value _ rest => value.sums || rest.sums
  | _, .clause _ cond => cond.sums
  | _, _ => false

def Ast.isDistinct : {kind : Kind} → Ast M kind → Bool
  | _, .distinct _ => true
  | _, _ => false

end

/-! ### Evaluation -/

section
variable {M V : Type} [DecidableEq V] (S : Scalars M V)

/-- The groups of a bag of frames, by what each has in the columns; a single one of all
without columns. -/
def groupsOf (env : Env V) (refs : List ColumnRef) (frames : Multiset (Frame V)) :
    Multiset (Frame V × Multiset (Frame V)) :=
  if refs.isEmpty then {([], frames)}
  else
    let key (frame : Frame V) : List V := refs.map ((env.enter frame).ref S.null)
    (frames.map key).dedup.map fun values =>
      ((refs.zip values).map fun (ref, value) =>
        ⟨ref.relation.getD "", [ref.name], fun _ => value⟩,
        frames.filter fun frame => key frame = values)

/-- The rows of a select, from the frames its sources give. -/
def selectRows (env : Env V) (summed : Bool) (refs : List ColumnRef)
    (filter having : Env V → Truth) (items : Env V → Option (List V))
    (frames : Frames V) : Option (Multiset (List V)) := do
  let kept ← keep (fun (frame, joined) => joined.both (filter (env.enter frame))) frames
  let rows := kept.map Prod.fst
  if summed then
    let left ← keep (fun (frame, group) => having (env.enterGroup frame group))
      (groupsOf S env refs rows)
    mapAll (fun (frame, group) => items (env.enterGroup frame group)) left
  else mapAll (fun frame => items (env.enter frame)) rows

/-- The rows of a result, as `DISTINCT`, `ORDER BY` and `LIMIT` leave them. -/
def finish (unique : Bool) (columns : List String) (order limit : Option String)
    (rows : Multiset (List V)) : Table V :=
  let rows := if unique then rows.dedup else rows
  ⟨columns, match limit with
    | some count => S.cut columns order count rows
    | none => rows⟩

/-- A frame joined with the rows of a relation that meet the condition or fail it with an error,
or with a row of nulls where a left join finds none. -/
def joinRows (left : Bool) (name : String) (stored : Stored V) (on : Frame V → Truth)
    (frame : Frame V × Truth) : Frames V :=
  let joined := stored.rows.map fun cell =>
    let whole := frame.1 ++ [⟨name, stored.columns, cell⟩]
    (whole, on whole)
  let matched := joined.filter fun (_, met) => met = .yes ∨ met = .failed
  if left ∧ matched.card = 0
    then {(frame.1 ++ [⟨name, stored.columns, fun _ => S.null⟩], frame.2)}
    else matched.map fun (whole, met) => (whole, frame.2.both met)

def combineRows (combination : Combination) (left right : Multiset (List V)) :
    Multiset (List V) :=
  match combination with
  | .union => (left + right).dedup
  | .intersect => left.dedup.filter (· ∈ right)
  | .except => left.dedup.filter (· ∉ right)

/-- An aggregate over the rows of the group. -/
def aggregated (function : String) (distinct : Bool) (args : Env V → Option (List V)) (env : Env V)
    (group : Multiset (Frame V)) : Option V := do
  let rows ← mapAll (fun frame => args (env.member frame)) group
  S.aggregate function (if distinct then rows.dedup else rows)

/-- What a phrase comes to. -/
@[reducible] def Meaning (V : Type) : Kind → Type
  | .primary | .term => Env V → Option V
  | .chain => Env V → V → Option V
  | .list | .args | .items => Env V → Option (List V)
  | .test | .cond | .clause _ => Env V → Truth
  | .relation => Env V → Option (String × Stored V)
  | .joins => Env V → Frames V → Option (Frames V)
  | .source => Env V → Option (Frames V)
  | .select | .query | .ctes => Env V → Option (Table V)

/-- The comparison of two values that may have failed. -/
def compared (comparison : Comparison) : Option V → Option V → Truth
  | some left, some right => S.compare comparison left right
  | _, _ => .failed

def Ast.eval : {kind : Kind} → Ast M kind → Meaning V kind
  | _, .mark m => fun _ => some (S.bound m)
  | _, .quoted text => fun _ => some (S.text text)
  | _, .numeral text => fun _ => some (S.numeral text)
  | _, .column relation name => fun env => some (env.column S.null relation name)
  | _, .bare name => fun env => some (env.bare S.null name)
  | _, .cast value type => fun env => (value.eval env).bind (S.cast type)
  | _, .interval count unit => fun _ => some (S.interval count unit)
  | _, .call function args => fun env =>
      if isAggregate function then aggregated S function args.isDistinct args.eval env env.group
      else (args.eval env).bind (S.call function)
  | _, .filtered function args kept => fun env =>
      (keep (fun frame => kept.eval (env.member frame)) env.group).bind
        (aggregated S function args.isDistinct args.eval env)
  | _, .extract field value => fun env => (value.eval env).bind (S.extract field)
  | _, .paren value => value.eval
  | _, .present value => fun env =>
      (value.eval env).map fun value => S.boolean (decide (value ≠ S.null))
  | _, .scalar query => fun env => (query.eval env).bind fun table => S.only table.rows
  | _, .done => fun _ value => some value
  | _, .times divide factor rest => fun env value => do
      let other ← factor.eval env
      let product ← S.arithmetic divide value other
      rest.eval env product
  | _, .product first rest => fun env => do
      let value ← first.eval env
      rest.eval env value
  | _, .minus left right => fun env => do
      let first ← left.eval env
      let second ← right.eval env
      S.minus first second
  | _, .last value => fun env => (value.eval env).map ([·])
  | _, .more value rest => fun env => do
      let first ← value.eval env
      let others ← rest.eval env
      return first :: others
  | _, .noArgs | _, .star => fun _ => some []
  | _, .distinct value => fun env => (value.eval env).map ([·])
  | _, .given values => values.eval
  | _, .compare comparison left right => fun env =>
      compared S comparison (left.eval env) (right.eval env)
  | _, .isIn negated value list => fun env =>
      match value.eval env, list.eval env with
      | some value, some members =>
          let among := Truth.any (members.map (S.compare .eq value))
          if negated then among.negate else among
      | _, _ => .failed
  | _, .exist negated query => fun env =>
      let present := found ((query.eval env).map Table.rows)
      if negated then present.negate else present
  | _, .holds value => fun env =>
      match value.eval env with
      | some value => S.truth value
      | none => .failed
  | _, .only test => test.eval
  | _, .both test rest => fun env => (test.eval env).both (rest.eval env)
  | _, .item value _ => fun env => (value.eval env).map ([·])
  | _, .itemThen value _ rest => fun env => do
      let first ← value.eval env
      let others ← rest.eval env
      return first :: others
  | _, .table catalog name called => fun env =>
      (env.tables catalog name).map (called.getD name, ·)
  | _, .named name called => fun env =>
      (env.named.lookup name).map fun table => (called.getD name, table.stored S.null)
  | _, .derived query called => fun env =>
      (query.eval env).map fun table => (called, table.stored S.null)
  | _, .noJoin => fun _ frames => some frames
  | _, .join left relation on rest => fun env frames => do
      let (name, stored) ← relation.eval env
      rest.eval env
        (frames.bind (joinRows S left name stored fun frame => on.eval (env.enter frame)))
  | _, .nowhere => fun _ => some {([], .yes)}
  | _, .from relation joins => fun env => do
      let (name, stored) ← relation.eval env
      joins.eval env (stored.rows.map fun cell => ([⟨name, stored.columns, cell⟩], .yes))
  | _, .noClause _ => fun _ => .yes
  | _, .clause _ cond => cond.eval
  | _, .select unique items source filter groups having order limit => fun env => do
      let frames ← source.eval env
      let rows ← selectRows S env (!groups.isEmpty || items.sums || having.sums) groups filter.eval
        having.eval items.eval frames
      return finish S unique items.names order limit rows
  | _, .single query => query.eval
  | _, .combine combination left right => fun env => do
      let first ← left.eval env
      let second ← right.eval env
      return ⟨first.columns, combineRows combination first.rows second.rows⟩
  | _, .withFirst name query rest => fun env => do
      let table ← query.eval env
      rest.eval (env.withNamed name table)
  | _, .body query => query.eval
  | _, .withNext name query rest => fun env => do
      let table ← query.eval env
      rest.eval (env.withNamed name table)

/-! ### Select lists -/

section
variable {S} {env : Env V} {value : Ast M .term} {name : Option String}

theorem eval_item : (Ast.item value name).eval S env = (value.eval S env).map ([·]) := by
  rw [Ast.eval]

theorem eval_itemThen {rest : Ast M .items} :
    (Ast.itemThen value name rest).eval S env =
      (value.eval S env).bind fun first => (rest.eval S env).map (first :: ·) := by
  rw [Ast.eval]
  simp only [Option.map_eq_bind]
  rfl

end

end

end ConsumerEngine.Sql
