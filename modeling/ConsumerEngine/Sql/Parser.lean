import ConsumerEngine.Sql.Syntax

/-! The reading of tokens as a query.

One function reads every kind of phrase by recursive descent; fuel bounds the descent, and
the tokens of a phrase are read back as that phrase whatever may follow it.
-/

set_option autoImplicit false

namespace ConsumerEngine.Sql

variable {M : Type}

/-! ### Reading -/

/-- Pass a symbol. -/
def symbolAt (wanted : Symbol) : List (Token M) → Option (List (Token M))
  | .symbol found :: rest => if found = wanted then some rest else none
  | _ => none

/-- Pass a keyword. -/
def keyAt (wanted : Keyword) : List (Token M) → Option (List (Token M))
  | .key found :: rest => if found = wanted then some rest else none
  | _ => none

/-- Pass several keywords. -/
def keysAt : List Keyword → List (Token M) → Option (List (Token M))
  | [], tokens => some tokens
  | keyword :: rest, tokens => (keyAt keyword tokens).bind (keysAt rest)

/-- The comparison at the head of the tokens. -/
def comparisonAt : List (Token M) → Option (Comparison × List (Token M))
  | .symbol .eq :: rest => some (.eq, rest)
  | .symbol .ne :: rest => some (.ne, rest)
  | .symbol .lt :: rest => some (.lt, rest)
  | .symbol .le :: rest => some (.le, rest)
  | .symbol .gt :: rest => some (.gt, rest)
  | .symbol .ge :: rest => some (.ge, rest)
  | .key .LIKE :: rest => some (.like, rest)
  | .key .NOT :: .key .LIKE :: rest => some (.notLike, rest)
  | _ => none

def combinationAt : List (Token M) → Option (Combination × List (Token M))
  | .key .UNION :: rest => some (.union, rest)
  | .key .INTERSECT :: rest => some (.intersect, rest)
  | .key .EXCEPT :: rest => some (.except, rest)
  | _ => none

def labelAt : List (Token M) → Option String × List (Token M)
  | .label name :: rest => (some name, rest)
  | rest => (none, rest)

def calledAt : List (Token M) → Option String × List (Token M)
  | .name name :: rest => (some name, rest)
  | rest => (none, rest)

/-- A column to group by. -/
def refAt : List (Token M) → Option (ColumnRef × List (Token M))
  | .column relation name :: rest => some (⟨some relation, name⟩, rest)
  | .name name :: rest => some (⟨none, name⟩, rest)
  | _ => none

/-- The columns to group by, behind the first. -/
def refsAt : Nat → List (Token M) → Option (List ColumnRef × List (Token M))
  | 0, _ => none
  | fuel + 1, tokens => do
      let (ref, rest) ← refAt tokens
      match symbolAt .comma rest with
      | some rest =>
          let (refs, rest) ← refsAt fuel rest
          some (ref :: refs, rest)
      | none => some ([ref], rest)

def groupsAt (tokens : List (Token M)) : Option (List ColumnRef × List (Token M)) :=
  match keysAt [.GROUP, .BY] tokens with
  | some rest => refsAt rest.length rest
  | none => some ([], tokens)

def orderAt : List (Token M) → Option String × List (Token M)
  | .key .ORDER :: .key .BY :: .name name :: .key .DESC :: rest => (some name, rest)
  | rest => (none, rest)

def limitAt : List (Token M) → Option String × List (Token M)
  | .key .LIMIT :: .numeral count :: rest => (some count, rest)
  | rest => (none, rest)

/-- A reader of every kind of phrase at the head of the tokens. -/
abbrev Parse (M : Type) : Type :=
  (kind : Kind) → List (Token M) → Option (Ast M kind × List (Token M))

section
variable (read : Parse M)

/-- A name, or the call of a function and what may stand behind it. -/
def readName (name : String) (tokens : List (Token M)) :
    Option (Ast M .primary × List (Token M)) :=
  match symbolAt .opening tokens with
  | none => some (.bare name, tokens)
  | some rest => do
      let (args, rest) ← read .args rest
      let rest ← symbolAt .closing rest
      match keyAt .FILTER rest with
      | none => some (.call name args, rest)
      | some rest =>
          let rest ← symbolAt .opening rest
          let rest ← keyAt .WHERE rest
          let (keep, rest) ← read .cond rest
          let rest ← symbolAt .closing rest
          some (.filtered name args keep, rest)

def readExtract (tokens : List (Token M)) : Option (Ast M .primary × List (Token M)) := do
  let rest ← symbolAt .opening tokens
  match rest with
  | .name field :: rest =>
      let rest ← keyAt .FROM rest
      let (value, rest) ← read .term rest
      let rest ← symbolAt .closing rest
      some (.extract field value, rest)
  | _ => none

/-- What stands in brackets, behind the opening one. -/
def readBracket (tokens : List (Token M)) : Option (Ast M .primary × List (Token M)) :=
  match keyAt .SELECT tokens with
  | some _ => do
      let (query, rest) ← read .select tokens
      let rest ← symbolAt .closing rest
      some (.scalar query, rest)
  | none => do
      let (value, rest) ← read .term tokens
      match keysAt [.IS, .NOT, .NULL] rest with
      | some rest =>
          let rest ← symbolAt .closing rest
          some (.present value, rest)
      | none =>
          let rest ← symbolAt .closing rest
          some (.paren value, rest)

def readCast (tokens : List (Token M)) : Option (Ast M .primary × List (Token M)) := do
  let rest ← symbolAt .opening tokens
  let (value, rest) ← read .term rest
  match rest with
  | .label type :: rest =>
      let rest ← symbolAt .closing rest
      some (.cast value type, rest)
  | _ => none

def readPrimary : List (Token M) → Option (Ast M .primary × List (Token M))
  | .mark m :: rest => some (.mark m, rest)
  | .quoted text :: rest => some (.quoted text, rest)
  | .numeral text :: rest => some (.numeral text, rest)
  | .column relation name :: rest => some (.column relation name, rest)
  | .key .CAST :: rest => readCast read rest
  | .key .EXTRACT :: rest => readExtract read rest
  | .key .INTERVAL :: .quoted count :: .name unit :: rest => some (.interval count unit, rest)
  | .name name :: rest => readName read name rest
  | .symbol .opening :: rest => readBracket read rest
  | _ => none

/-- A factor behind `*` or `/`, and those behind it. -/
def readFactor (divide : Bool) (tokens : List (Token M)) :
    Option (Ast M .chain × List (Token M)) := do
  let (factor, rest) ← read .primary tokens
  let (chain, rest) ← read .chain rest
  some (.times divide factor chain, rest)

def readChain (tokens : List (Token M)) : Option (Ast M .chain × List (Token M)) :=
  match symbolAt .star tokens with
  | some rest => readFactor read false rest
  | none =>
      match symbolAt .slash tokens with
      | some rest => readFactor read true rest
      | none => some (.done, tokens)

def readTerm (tokens : List (Token M)) : Option (Ast M .term × List (Token M)) := do
  let (first, rest) ← read .primary tokens
  match symbolAt .minus rest with
  | some rest =>
      let (second, rest) ← read .primary rest
      some (.minus first second, rest)
  | none =>
      let (chain, rest) ← read .chain rest
      some (.product first chain, rest)

def readList (tokens : List (Token M)) : Option (Ast M .list × List (Token M)) := do
  let (value, rest) ← read .term tokens
  match symbolAt .comma rest with
  | some rest =>
      let (others, rest) ← read .list rest
      some (.more value others, rest)
  | none => some (.last value, rest)

def readArgs (tokens : List (Token M)) : Option (Ast M .args × List (Token M)) :=
  match symbolAt .closing tokens with
  | some _ => some (.noArgs, tokens)
  | none =>
      match symbolAt .star tokens with
      | some rest => some (.star, rest)
      | none =>
          match keyAt .DISTINCT tokens with
          | some rest => do
              let (value, rest) ← read .term rest
              some (.distinct value, rest)
          | none => do
              let (values, rest) ← read .list tokens
              some (.given values, rest)

/-- A phrase in brackets. -/
def readEnclosed (kind : Kind) (tokens : List (Token M)) : Option (Ast M kind × List (Token M)) := do
  let rest ← symbolAt .opening tokens
  let (phrase, rest) ← read kind rest
  let rest ← symbolAt .closing rest
  some (phrase, rest)

/-- A value, and what it is tested against. -/
def readComparison (tokens : List (Token M)) : Option (Ast M .test × List (Token M)) := do
  let (left, rest) ← read .term tokens
  match keyAt .IN rest with
  | some rest =>
      let (list, rest) ← readEnclosed read .list rest
      some (.isIn false left list, rest)
  | none =>
      match keysAt [.NOT, .IN] rest with
      | some rest =>
          let (list, rest) ← readEnclosed read .list rest
          some (.isIn true left list, rest)
      | none =>
          match comparisonAt rest with
          | some (comparison, rest) =>
              let (right, rest) ← read .term rest
              some (.compare comparison left right, rest)
          | none => some (.holds left, rest)

def readTest (tokens : List (Token M)) : Option (Ast M .test × List (Token M)) :=
  match keyAt .EXISTS tokens with
  | some rest => do
      let (query, rest) ← readEnclosed read .query rest
      some (.exist false query, rest)
  | none =>
      match keysAt [.NOT, .EXISTS] tokens with
      | some rest => do
          let (query, rest) ← readEnclosed read .query rest
          some (.exist true query, rest)
      | none => readComparison read tokens

def readCond (tokens : List (Token M)) : Option (Ast M .cond × List (Token M)) := do
  let (test, rest) ← read .test tokens
  match keyAt .AND rest with
  | some rest =>
      let (others, rest) ← read .cond rest
      some (.both test others, rest)
  | none => some (.only test, rest)

def readItems (tokens : List (Token M)) : Option (Ast M .items × List (Token M)) := do
  let (value, rest) ← read .term tokens
  let (name, rest) := labelAt rest
  match symbolAt .comma rest with
  | some rest =>
      let (others, rest) ← read .items rest
      some (.itemThen value name others, rest)
  | none => some (.item value name, rest)

def readRelation : List (Token M) → Option (Ast M .relation × List (Token M))
  | .column catalog name :: rest =>
      let (called, rest) := calledAt rest
      some (.table catalog name called, rest)
  | .name name :: rest =>
      let (called, rest) := calledAt rest
      some (.named name called, rest)
  | tokens => do
      let (query, rest) ← readEnclosed read .query tokens
      match rest with
      | .name called :: rest => some (.derived query called, rest)
      | _ => none

/-- A joined relation, its condition and the joins behind it. -/
def readJoin (left : Bool) (tokens : List (Token M)) :
    Option (Ast M .joins × List (Token M)) := do
  let (relation, rest) ← read .relation tokens
  let rest ← keyAt .ON rest
  let (on, rest) ← read .cond rest
  let (others, rest) ← read .joins rest
  some (.join left relation on others, rest)

def readJoins (tokens : List (Token M)) : Option (Ast M .joins × List (Token M)) :=
  match keyAt .JOIN tokens with
  | some rest => readJoin read false rest
  | none =>
      match keysAt [.LEFT, .JOIN] tokens with
      | some rest => readJoin read true rest
      | none => some (.noJoin, tokens)

def readSource (tokens : List (Token M)) : Option (Ast M .source × List (Token M)) :=
  match keyAt .FROM tokens with
  | some rest => do
      let (relation, rest) ← read .relation rest
      let (joins, rest) ← read .joins rest
      some (.from relation joins, rest)
  | none => some (.nowhere, tokens)

def readClause (keyword : Keyword) (tokens : List (Token M)) :
    Option (Ast M (.clause keyword) × List (Token M)) :=
  match keyAt keyword tokens with
  | some rest => do
      let (cond, rest) ← read .cond rest
      some (.clause keyword cond, rest)
  | none => some (.noClause keyword, tokens)

def uniqueAt (tokens : List (Token M)) : Bool × List (Token M) :=
  match keyAt .DISTINCT tokens with
  | some rest => (true, rest)
  | none => (false, tokens)

def readSelect (tokens : List (Token M)) : Option (Ast M .select × List (Token M)) := do
  let rest ← keyAt .SELECT tokens
  let (unique, rest) := uniqueAt rest
  let (items, rest) ← read .items rest
  let (source, rest) ← read .source rest
  let (filter, rest) ← read (.clause .WHERE) rest
  let (groups, rest) ← groupsAt rest
  let (having, rest) ← read (.clause .HAVING) rest
  let (order, rest) := orderAt rest
  let (limit, rest) := limitAt rest
  some (.select unique items source filter groups having order limit, rest)

/-- A name and the query it stands for. -/
def readNamed (tokens : List (Token M)) : Option (String × Ast M .query × List (Token M)) :=
  match tokens with
  | .name name :: rest => do
      let rest ← keyAt .AS rest
      let (query, rest) ← readEnclosed read .query rest
      some (name, query, rest)
  | _ => none

def readCombined (tokens : List (Token M)) : Option (Ast M .query × List (Token M)) := do
  let (left, rest) ← readEnclosed read .query tokens
  let (combination, rest) ← combinationAt rest
  let (right, rest) ← readEnclosed read .query rest
  some (.combine combination left right, rest)

def readQuery (tokens : List (Token M)) : Option (Ast M .query × List (Token M)) :=
  match keyAt .SELECT tokens with
  | some _ => do
      let (query, rest) ← read .select tokens
      some (.single query, rest)
  | none =>
      match keyAt .WITH tokens with
      | some rest => do
          let (name, query, rest) ← readNamed read rest
          let (others, rest) ← read .ctes rest
          some (.withFirst name query others, rest)
      | none => readCombined read tokens

def readCtes (tokens : List (Token M)) : Option (Ast M .ctes × List (Token M)) :=
  match symbolAt .comma tokens with
  | some rest => do
      let (name, query, rest) ← readNamed read rest
      let (others, rest) ← read .ctes rest
      some (.withNext name query others, rest)
  | none => do
      let (query, rest) ← read .query tokens
      some (.body query, rest)

end

/-- Read a phrase of the given kind, descending at most as deep as there is fuel. -/
def parse : Nat → Parse M
  | 0 => fun _ _ => none
  | fuel + 1 => fun
    | .primary => readPrimary (parse fuel)
    | .chain => readChain (parse fuel)
    | .term => readTerm (parse fuel)
    | .list => readList (parse fuel)
    | .args => readArgs (parse fuel)
    | .test => readTest (parse fuel)
    | .cond => readCond (parse fuel)
    | .items => readItems (parse fuel)
    | .relation => readRelation (parse fuel)
    | .joins => readJoins (parse fuel)
    | .source => readSource (parse fuel)
    | .clause keyword => readClause (parse fuel) keyword
    | .select => readSelect (parse fuel)
    | .query => readQuery (parse fuel)
    | .ctes => readCtes (parse fuel)

/-- The query a list of tokens is. -/
def queryOf (tokens : List (Token M)) : Option (Ast M .query) :=
  match parse (8 * tokens.length + 8) .query tokens with
  | some (query, []) => some query
  | _ => none

/-! ### Placeholders -/

/-- A token without what its placeholder is bound to. -/
def Token.erase : Token M → Token Unit
  | .key keyword => .key keyword
  | .name text => .name text
  | .numeral text => .numeral text
  | .label text => .label text
  | .column relation text => .column relation text
  | .quoted text => .quoted text
  | .symbol found => .symbol found
  | .mark _ => .mark ()

def Token.bound : Token M → List M
  | .mark m => [m]
  | _ => []

/-- What the placeholders of the tokens are bound to, in order. -/
def bounds (tokens : List (Token M)) : List M := tokens.flatMap Token.bound

/-- Bind the placeholders in order; none when there are not as many values as placeholders. -/
def bindMarks : List (Token Unit) → List M → Option (List (Token M))
  | [], [] => some []
  | [], _ :: _ => none
  | .mark _ :: rest, value :: values => (bindMarks rest values).map (.mark value :: ·)
  | .mark _ :: _, [] => none
  | .key keyword :: rest, values => (bindMarks rest values).map (.key keyword :: ·)
  | .name text :: rest, values => (bindMarks rest values).map (.name text :: ·)
  | .numeral text :: rest, values => (bindMarks rest values).map (.numeral text :: ·)
  | .label text :: rest, values => (bindMarks rest values).map (.label text :: ·)
  | .column relation text :: rest, values =>
      (bindMarks rest values).map (.column relation text :: ·)
  | .quoted text :: rest, values => (bindMarks rest values).map (.quoted text :: ·)
  | .symbol found :: rest, values => (bindMarks rest values).map (.symbol found :: ·)

/-- The query a text is, its placeholders bound to the values in order. -/
def statement (text : String) (values : List M) : Option (Ast M .query) :=
  (bindMarks (tokens text) values).bind queryOf

end ConsumerEngine.Sql
