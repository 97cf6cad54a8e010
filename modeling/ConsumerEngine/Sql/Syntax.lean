import ConsumerEngine.Sql.Tokens

/-! Queries of the fragment, as one family of trees over the kinds of phrase.

A tree carries what its placeholders are bound to, and spells back the tokens it is read from.
-/

set_option autoImplicit false

namespace ConsumerEngine.Sql

/-- The kinds of phrase. -/
inductive Kind where
  | primary | chain | term | list | args | test | cond | items | relation | joins | source
  | clause (keyword : Keyword)
  | select | query | ctes
  deriving DecidableEq

inductive Comparison where
  | eq | ne | lt | le | gt | ge | like | notLike
  deriving DecidableEq, Repr

inductive Combination where
  | union | intersect | except
  deriving DecidableEq, Repr

/-- A column to group by, qualified or not. -/
structure ColumnRef where
  relation : Option String
  name : String
  deriving DecidableEq, Repr

/-- A phrase; `M` is what a placeholder is bound to. -/
inductive Ast (M : Type) : Kind → Type where
  | mark (m : M) : Ast M .primary
  | quoted (text : String) : Ast M .primary
  | numeral (text : String) : Ast M .primary
  | column (relation name : String) : Ast M .primary
  | bare (name : String) : Ast M .primary
  | cast (value : Ast M .term) (type : String) : Ast M .primary
  | interval (count unit : String) : Ast M .primary
  | call (function : String) (args : Ast M .args) : Ast M .primary
  | filtered (function : String) (args : Ast M .args) (keep : Ast M .cond) : Ast M .primary
  | extract (field : String) (value : Ast M .term) : Ast M .primary
  | paren (value : Ast M .term) : Ast M .primary
  | present (value : Ast M .term) : Ast M .primary
  | scalar (query : Ast M .select) : Ast M .primary
  | done : Ast M .chain
  | times (divide : Bool) (factor : Ast M .primary) (rest : Ast M .chain) : Ast M .chain
  | product (first : Ast M .primary) (rest : Ast M .chain) : Ast M .term
  | minus (left right : Ast M .primary) : Ast M .term
  | last (value : Ast M .term) : Ast M .list
  | more (value : Ast M .term) (rest : Ast M .list) : Ast M .list
  | noArgs : Ast M .args
  | star : Ast M .args
  | distinct (value : Ast M .term) : Ast M .args
  | given (values : Ast M .list) : Ast M .args
  | compare (comparison : Comparison) (left right : Ast M .term) : Ast M .test
  | isIn (negated : Bool) (value : Ast M .term) (list : Ast M .list) : Ast M .test
  | exist (negated : Bool) (query : Ast M .query) : Ast M .test
  | holds (value : Ast M .term) : Ast M .test
  | only (test : Ast M .test) : Ast M .cond
  | both (test : Ast M .test) (rest : Ast M .cond) : Ast M .cond
  | item (value : Ast M .term) (name : Option String) : Ast M .items
  | itemThen (value : Ast M .term) (name : Option String) (rest : Ast M .items) : Ast M .items
  | table (catalog name : String) (called : Option String) : Ast M .relation
  | named (name : String) (called : Option String) : Ast M .relation
  | derived (query : Ast M .query) (called : String) : Ast M .relation
  | noJoin : Ast M .joins
  | join (left : Bool) (relation : Ast M .relation) (on : Ast M .cond) (rest : Ast M .joins) :
      Ast M .joins
  | nowhere : Ast M .source
  | from (relation : Ast M .relation) (joins : Ast M .joins) : Ast M .source
  | noClause (keyword : Keyword) : Ast M (.clause keyword)
  | clause (keyword : Keyword) (cond : Ast M .cond) : Ast M (.clause keyword)
  | select (unique : Bool) (items : Ast M .items) (source : Ast M .source)
      (filter : Ast M (.clause .WHERE)) (groups : List ColumnRef)
      (having : Ast M (.clause .HAVING)) (order : Option String) (limit : Option String) :
      Ast M .select
  | single (query : Ast M .select) : Ast M .query
  | combine (combination : Combination) (left right : Ast M .query) : Ast M .query
  | withFirst (name : String) (query : Ast M .query) (rest : Ast M .ctes) : Ast M .query
  | body (query : Ast M .query) : Ast M .ctes
  | withNext (name : String) (query : Ast M .query) (rest : Ast M .ctes) : Ast M .ctes

/-! ### Tokens -/

variable {M : Type}

def Comparison.tokens : Comparison → List (Token M)
  | .eq => [.symbol .eq]
  | .ne => [.symbol .ne]
  | .lt => [.symbol .lt]
  | .le => [.symbol .le]
  | .gt => [.symbol .gt]
  | .ge => [.symbol .ge]
  | .like => [.key .LIKE]
  | .notLike => [.key .NOT, .key .LIKE]

def Combination.keyword : Combination → Keyword
  | .union => .UNION
  | .intersect => .INTERSECT
  | .except => .EXCEPT

def ColumnRef.token (ref : ColumnRef) : Token M :=
  match ref.relation with
  | some relation => .column relation ref.name
  | none => .name ref.name

def refTokens : List ColumnRef → List (Token M)
  | [] => []
  | [last] => [last.token]
  | first :: second :: rest => first.token :: .symbol .comma :: refTokens (second :: rest)

def groupTokens : List ColumnRef → List (Token M)
  | [] => []
  | groups => .key .GROUP :: .key .BY :: refTokens groups

def orderTokens : Option String → List (Token M)
  | none => []
  | some name => [.key .ORDER, .key .BY, .name name, .key .DESC]

def limitTokens : Option String → List (Token M)
  | none => []
  | some count => [.key .LIMIT, .numeral count]

def labelTokens : Option String → List (Token M)
  | none => []
  | some name => [.label name]

def calledTokens : Option String → List (Token M)
  | none => []
  | some name => [.name name]

/-- Tokens between brackets. -/
def enclosed (inner : List (Token M)) : List (Token M) :=
  .symbol .opening :: (inner ++ [.symbol .closing])

/-- The tokens of a phrase. -/
def Ast.tokens : {kind : Kind} → Ast M kind → List (Token M)
  | _, .mark m => [.mark m]
  | _, .quoted text => [.quoted text]
  | _, .numeral text => [.numeral text]
  | _, .column relation name => [.column relation name]
  | _, .bare name => [.name name]
  | _, .cast value type => .key .CAST :: enclosed (value.tokens ++ [.label type])
  | _, .interval count unit => [.key .INTERVAL, .quoted count, .name unit]
  | _, .call function args => .name function :: enclosed args.tokens
  | _, .filtered function args keep =>
      .name function :: enclosed args.tokens ++ .key .FILTER :: enclosed (.key .WHERE :: keep.tokens)
  | _, .extract field value =>
      .key .EXTRACT :: enclosed (.name field :: .key .FROM :: value.tokens)
  | _, .paren value => enclosed value.tokens
  | _, .present value => enclosed (value.tokens ++ [.key .IS, .key .NOT, .key .NULL])
  | _, .scalar query => enclosed query.tokens
  | _, .done => []
  | _, .times divide factor rest =>
      .symbol (if divide then .slash else .star) :: (factor.tokens ++ rest.tokens)
  | _, .product first rest => first.tokens ++ rest.tokens
  | _, .minus left right => left.tokens ++ .symbol .minus :: right.tokens
  | _, .last value => value.tokens
  | _, .more value rest => value.tokens ++ .symbol .comma :: rest.tokens
  | _, .noArgs => []
  | _, .star => [.symbol .star]
  | _, .distinct value => .key .DISTINCT :: value.tokens
  | _, .given values => values.tokens
  | _, .compare comparison left right => left.tokens ++ (comparison.tokens ++ right.tokens)
  | _, .isIn negated value list =>
      value.tokens ++ ((if negated then [.key .NOT] else []) ++ .key .IN :: enclosed list.tokens)
  | _, .exist negated query =>
      (if negated then [.key .NOT] else []) ++ .key .EXISTS :: enclosed query.tokens
  | _, .holds value => value.tokens
  | _, .only test => test.tokens
  | _, .both test rest => test.tokens ++ .key .AND :: rest.tokens
  | _, .item value name => value.tokens ++ labelTokens name
  | _, .itemThen value name rest => value.tokens ++ (labelTokens name ++ .symbol .comma :: rest.tokens)
  | _, .table catalog name called => .column catalog name :: calledTokens called
  | _, .named name called => .name name :: calledTokens called
  | _, .derived query called => enclosed query.tokens ++ [.name called]
  | _, .noJoin => []
  | _, .join left relation on rest =>
      (if left then [.key .LEFT] else []) ++ .key .JOIN ::
        (relation.tokens ++ .key .ON :: (on.tokens ++ rest.tokens))
  | _, .nowhere => []
  | _, .from relation joins => .key .FROM :: (relation.tokens ++ joins.tokens)
  | _, .noClause _ => []
  | _, .clause keyword cond => .key keyword :: cond.tokens
  | _, .select unique items source filter groups having order limit =>
      .key .SELECT :: ((if unique then [.key .DISTINCT] else []) ++ (items.tokens ++
        (source.tokens ++ (filter.tokens ++ (groupTokens groups ++ (having.tokens ++
          (orderTokens order ++ limitTokens limit)))))))
  | _, .single query => query.tokens
  | _, .combine combination left right =>
      enclosed left.tokens ++ .key combination.keyword :: enclosed right.tokens
  | _, .withFirst name query rest =>
      .key .WITH :: .name name :: .key .AS :: (enclosed query.tokens ++ rest.tokens)
  | _, .body query => query.tokens
  | _, .withNext name query rest =>
      .symbol .comma :: .name name :: .key .AS :: (enclosed query.tokens ++ rest.tokens)

end ConsumerEngine.Sql
