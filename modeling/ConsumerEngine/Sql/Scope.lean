import ConsumerEngine.Sql.Evaluation

/-! The names of a query: what each stands for, which stored columns the query reads, and the
run of a statement whose names all stand for something.
-/

set_option autoImplicit false

namespace ConsumerEngine.Sql

/-- Where the columns of a relation in scope come from. -/
inductive Origin where
  | stored (catalog table : String)
  | listed (columns : List String)
  deriving DecidableEq

structure Relation where
  name : String
  origin : Origin
  deriving DecidableEq

structure Scope where
  named : List (String × List String)
  frame : List Relation
  outer : List (List Relation)

def Scope.empty : Scope := ⟨[], [], []⟩

def Scope.enter (scope : Scope) (frame : List Relation) : Scope :=
  { scope with frame, outer := scope.frame :: scope.outer }

def Scope.withNamed (scope : Scope) (name : String) (columns : List String) : Scope :=
  { scope with named := (name, columns) :: scope.named }

/-- What a query reads: a stored table, a column of one, the column next to a value it is compared
with; or nothing, where a name stands for nothing. -/
inductive Read (M : Type) where
  | table (catalog name : String)
  | column (catalog table name : String)
  | compared (catalog table name : String) (m : M)
  | nothing
  deriving DecidableEq

section
variable {M : Type}

/-- What a column of a relation reads. -/
def Relation.read (relation : Relation) (name : String) : List (Read M) :=
  match relation.origin with
  | .stored catalog table => [.column catalog table name]
  | .listed columns => if columns.contains name then [] else [.nothing]

def Relation.mayHave (relation : Relation) (name : String) : Bool :=
  match relation.origin with
  | .stored _ _ => true
  | .listed columns => columns.contains name

/-- What a column of the first such relation reads. -/
def readIn (relation : Option Relation) (name : String) : List (Read M) :=
  match relation with
  | some relation => relation.read name
  | none => [.nothing]

/-- The nearest relation called so. -/
def Scope.lookup (scope : Scope) (relation : String) : Option Relation :=
  (scope.frame ++ scope.outer.flatten).find? (·.name = relation)

def Scope.column (scope : Scope) (relation name : String) : List (Read M) :=
  readIn (scope.lookup relation) name

def Scope.bare (scope : Scope) (name : String) : List (Read M) :=
  readIn ((scope.frame ++ scope.outer.flatten).find? (·.mayHave name)) name

def Scope.ref (scope : Scope) (ref : ColumnRef) : List (Read M) :=
  match ref.relation with
  | some relation => scope.column relation ref.name
  | none => scope.bare ref.name

/-- The column a term is. -/
def asColumn : Ast M .term → Option (String × String)
  | .product (.column relation name) .done => some (relation, name)
  | _ => none

/-- The placeholder a term is. -/
def asMark : Ast M .term → Option M
  | .product (.mark m) .done => some m
  | _ => none

/-- A stored column next to the value it is compared with. -/
def Scope.comparison (scope : Scope) (left right : Ast M .term) : List (Read M) :=
  match asColumn left, asMark right with
  | some (relation, name), some m =>
      match scope.lookup relation with
      | some ⟨_, .stored catalog table⟩ => [.compared catalog table name m]
      | _ => []
  | _, _ => []

/-- What is known of a phrase in a scope: what it reads, and the relations it brings into scope. -/
@[reducible] def Reading (M : Type) : Kind → Type
  | .relation => Scope → Relation × List (Read M)
  | .joins => Scope → List Relation → List Relation × List (Read M)
  | .source => Scope → List Relation × List (Read M)
  | _ => Scope → List (Read M)

/-- Nothing is read where a condition on the names is met. -/
def required (met : Bool) : List (Read M) := if met then [] else [.nothing]

/-- What the names of a phrase stand for. -/
def Ast.reads : {kind : Kind} → Ast M kind → Reading M kind
  | _, .mark _ | _, .quoted _ | _, .numeral _ | _, .interval _ _ => fun _ => []
  | _, .column relation name => fun scope => scope.column relation name
  | _, .bare name => fun scope => scope.bare name
  | _, .cast value _ => value.reads
  | _, .call _ args => args.reads
  | _, .filtered _ args kept => fun scope => args.reads scope ++ kept.reads scope
  | _, .extract _ value => value.reads
  | _, .paren value => value.reads
  | _, .present value => value.reads
  | _, .scalar query => query.reads
  | _, .done => fun _ => []
  | _, .times _ factor rest => fun scope => factor.reads scope ++ rest.reads scope
  | _, .product first rest => fun scope => first.reads scope ++ rest.reads scope
  | _, .minus left right => fun scope => left.reads scope ++ right.reads scope
  | _, .last value => value.reads
  | _, .more value rest => fun scope => value.reads scope ++ rest.reads scope
  | _, .noArgs | _, .star => fun _ => []
  | _, .distinct value => value.reads
  | _, .given values => values.reads
  | _, .compare _ left right => fun scope =>
      left.reads scope ++ (right.reads scope ++ scope.comparison left right)
  | _, .isIn _ value list => fun scope => value.reads scope ++ list.reads scope
  | _, .exist _ query => query.reads
  | _, .holds value => value.reads
  | _, .only test => test.reads
  | _, .both test rest => fun scope => test.reads scope ++ rest.reads scope
  | _, .item value _ => value.reads
  | _, .itemThen value _ rest => fun scope => value.reads scope ++ rest.reads scope
  | _, .table catalog name called => fun _ =>
      (⟨called.getD name, .stored catalog name⟩, [.table catalog name])
  | _, .named name called => fun scope =>
      match scope.named.lookup name with
      | some columns => (⟨called.getD name, .listed columns⟩, [])
      | none => (⟨called.getD name, .listed []⟩, [.nothing])
  | _, .derived query called => fun scope => (⟨called, .listed query.columns⟩, query.reads scope)
  | _, .noJoin => fun _ frame => (frame, [])
  | _, .join _ relation on rest => fun scope frame =>
      let (relation, reads) := relation.reads scope
      let (whole, others) := rest.reads scope (frame ++ [relation])
      (whole, reads ++ (on.reads (scope.enter (frame ++ [relation])) ++ others))
  | _, .nowhere => fun _ => ([], [])
  | _, .from relation joins => fun scope =>
      let (relation, reads) := relation.reads scope
      let (frame, others) := joins.reads scope [relation]
      (frame, reads ++ others)
  | _, .noClause _ => fun _ => []
  | _, .clause _ cond => cond.reads
  | _, .select _ items source filter groups having order _ => fun scope =>
      let (frame, reads) := source.reads scope
      let inner := scope.enter frame
      reads ++ (items.reads inner ++ (filter.reads inner ++ (groups.flatMap inner.ref ++
        (having.reads inner ++ required (order.all items.names.contains)))))
  | _, .single query => query.reads
  | _, .combine _ left right => fun scope =>
      required (left.columns.length = right.columns.length) ++ (left.reads scope ++ right.reads scope)
  | _, .withFirst name query rest => fun scope =>
      query.reads scope ++ rest.reads (scope.withNamed name query.columns)
  | _, .body query => query.reads
  | _, .withNext name query rest => fun scope =>
      query.reads scope ++ rest.reads (scope.withNamed name query.columns)

end

section
variable {M : Type} {scope : Scope} {relation name catalog owner : String}

theorem Scope.lookup_enter (own : Relation) (scope : Scope) (relation : String) :
    (scope.enter [own]).lookup relation =
      if own.name = relation then some own else scope.lookup relation := by
  by_cases here : own.name = relation <;>
    simp [lookup, enter, here]

theorem Scope.column_stored (found : scope.lookup relation = some ⟨relation, .stored catalog owner⟩) :
    scope.column relation name = ([.column catalog owner name] : List (Read M)) := by
  rw [column, found]
  rfl

theorem Scope.comparison_stored
    (found : scope.lookup relation = some ⟨relation, .stored catalog owner⟩) (m : M) :
    scope.comparison (.product (.column relation name) .done) (.product (.mark m) .done) =
      [.compared catalog owner name m] := by
  simp only [comparison, asColumn, asMark, found]

/-- A select from one stored table. -/
theorem Ast.reads_select (unique : Bool) (items : Ast M .items) (called : String)
    (filter : Ast M (.clause .WHERE)) (groups : List ColumnRef) (having : Ast M (.clause .HAVING))
    (limit : Option String) :
    (Ast.select unique items (.from (.table catalog owner (some called)) .noJoin) filter groups
        having none limit).reads scope =
      let inner := scope.enter [⟨called, .stored catalog owner⟩]
      .table catalog owner :: (items.reads inner ++ (filter.reads inner ++
        (groups.flatMap inner.ref ++ having.reads inner))) := by
  simp only [Ast.reads, required, Option.all_none, ↓reduceIte, Option.getD_some, List.append_nil,
    List.singleton_append]

end

section
variable {M V : Type}

/-- Whether what a name stands for is there. -/
def Read.present (tables : Tables V) : Read M → Bool
  | .table catalog name => (tables catalog name).isSome
  | .column catalog owner name =>
      match tables catalog owner with
      | some stored => stored.columns.contains name
      | none => false
  | .compared _ _ _ _ => true
  | .nothing => false

/-- Every name of the query stands for something. -/
def isScoped (tables : Tables V) (query : Ast M .query) : Bool :=
  (query.reads .empty).all (·.present tables)

variable [DecidableEq V] (S : Scalars M V)

/-- Run a query: none where a name stands for nothing or the evaluation fails. -/
def run (tables : Tables V) (query : Ast M .query) : Option (Table V) :=
  if isScoped tables query then query.eval S (.of tables) else none

/-- Run a text with the values of its placeholders, in order. -/
def execute (tables : Tables V) (text : String) (values : List M) : Option (Table V) :=
  (statement text values).bind (run S tables)

end

end ConsumerEngine.Sql
