import ConsumerEngine.Sql.Parser

/-! The tokens of a phrase are read back as that phrase: the grammar is unambiguous, and a
conjunction is never regrouped by what stands around it.
-/

set_option autoImplicit false

namespace ConsumerEngine.Sql

variable {M : Type}

/-! ### What may stand behind a phrase -/

/-- What decides how a token is taken, apart from its text. -/
inductive Head where
  | symbol (symbol : Symbol)
  | key (keyword : Keyword)
  | name | label | other
  deriving DecidableEq

def Token.head : Token M → Head
  | .symbol found => .symbol found
  | .key found => .key found
  | .name _ => .name
  | .label _ => .label
  | _ => .other

/-- The heads that would be taken as part of the phrase before them. -/
def continuing : Kind → List Head
  | .primary => [.symbol .opening, .key .FILTER]
  | .chain => [.symbol .opening, .key .FILTER, .symbol .star, .symbol .slash]
  | .term => [.symbol .opening, .key .FILTER, .symbol .star, .symbol .slash, .symbol .minus]
  | .list => [.symbol .opening, .key .FILTER, .symbol .star, .symbol .slash, .symbol .minus,
      .symbol .comma]
  | .items => [.symbol .opening, .key .FILTER, .symbol .star, .symbol .slash, .symbol .minus,
      .symbol .comma, .label]
  | .test => comparing
  | .cond => .key .AND :: comparing
  | .clause keyword => .key keyword :: .key .AND :: comparing
  | .relation => [.name]
  | .joins => .name :: .key .JOIN :: .key .LEFT :: .key .AND :: comparing
  | .source => .key .FROM :: .name :: .key .JOIN :: .key .LEFT :: .key .AND :: comparing
  | .args | .select | .query | .ctes => []
where
  /-- The heads that continue a value or compare it. -/
  comparing : List Head :=
    [.symbol .opening, .key .FILTER, .symbol .star, .symbol .slash, .symbol .minus, .key .IN,
      .key .NOT, .key .LIKE, .symbol .eq, .symbol .ne, .symbol .lt, .symbol .le, .symbol .gt,
      .symbol .ge]

/-- Kinds that end only where their bracket or the text does. -/
def isClosed : Kind → Bool
  | .args | .select | .query | .ctes => true
  | _ => false

/-- Whether a token behind a phrase leaves the phrase as it is. -/
def ends (kind : Kind) (head : Head) : Bool :=
  if isClosed kind then head = .symbol .closing else head ∉ continuing kind

/-- Nothing behind a phrase of the kind continues it. Arguments are always closed. -/
def Follow (kind : Kind) : List (Token M) → Prop
  | [] => kind ≠ .args
  | token :: _ => ends kind token.head = true

/-- Whatever ends a phrase of the first kind ends one of the second. -/
def covers (outer inner : Kind) : Bool :=
  if isClosed outer then
    decide (inner ≠ .args) && (isClosed inner || decide (.symbol .closing ∉ continuing inner))
  else !isClosed inner && (continuing inner).all fun head => decide (head ∈ continuing outer)

theorem ends_of_covers {outer inner : Kind} (covered : covers outer inner = true) {head : Head}
    (ended : ends outer head = true) : ends inner head = true := by
  unfold covers at covered
  unfold ends at ended ⊢
  cases closed : isClosed outer <;> cases own : isClosed inner <;> simp_all
  exact fun taken => ended (covered head taken)

theorem Follow.weaken {outer inner : Kind} {rest : List (Token M)} (follow : Follow outer rest)
    (covered : covers outer inner = true) : Follow inner rest := by
  cases rest with
  | nil =>
    rintro rfl
    unfold covers at covered
    cases closed : isClosed outer <;> simp_all [isClosed]
  | cons token rest => exact ends_of_covers covered follow

theorem follow_closing (kind : Kind) (rest : List (Token M)) :
    Follow kind (.symbol .closing :: rest) := by
  cases kind with
  | clause keyword => simp [Follow, ends, isClosed, Token.head, continuing, continuing.comparing]
  | _ => rfl

theorem symbolAt_of_follow {kind : Kind} {rest : List (Token M)} {symbol : Symbol}
    (follow : Follow kind rest) (taken : ends kind (.symbol symbol) = false) :
    symbolAt symbol rest = none := by
  cases rest with
  | nil => rfl
  | cons token rest =>
    cases token with
    | symbol found =>
      have ne : found ≠ symbol := by
        rintro rfl
        exact Bool.false_ne_true (taken.symm.trans follow)
      rw [symbolAt, if_neg ne]
    | _ => rfl

theorem keyAt_of_follow {kind : Kind} {rest : List (Token M)} {keyword : Keyword}
    (follow : Follow kind rest) (taken : ends kind (.key keyword) = false) :
    keyAt keyword rest = none := by
  cases rest with
  | nil => rfl
  | cons token rest =>
    cases token with
    | key found =>
      have ne : found ≠ keyword := by
        rintro rfl
        exact Bool.false_ne_true (taken.symm.trans follow)
      rw [keyAt, if_neg ne]
    | _ => rfl

theorem keysAt_of_follow {kind : Kind} {rest : List (Token M)} {keyword : Keyword}
    (follow : Follow kind rest) (taken : ends kind (.key keyword) = false)
    (others : List Keyword) : keysAt (keyword :: others) rest = none := by
  rw [keysAt, keyAt_of_follow follow taken, Option.bind_none]

/-- An optional part in front: it is absent, or starts with its own keyword. -/
theorem Follow.part {kind : Kind} {part rest : List (Token M)} (follow : Follow kind rest)
    {keyword : Keyword} (starts : part = [] ∨ ∃ more, part = .key keyword :: more)
    (free : ends kind (.key keyword) = true) : Follow kind (part ++ rest) := by
  rcases starts with rfl | ⟨more, rfl⟩
  · exact follow
  · exact free

/-! ### How a phrase begins -/

/-- The tokens a value begins with. -/
def opensValue : Token M → Bool
  | .mark _ | .quoted _ | .numeral _ | .column _ _ | .name _ | .symbol .opening | .key .CAST
  | .key .EXTRACT | .key .INTERVAL => true
  | _ => false

/-- The kinds that begin with a value. -/
def isValue : Kind → Bool
  | .primary | .term | .list | .items => true
  | _ => false

theorem tokens_opens {kind : Kind} (phrase : Ast M kind) (value : isValue kind = true) :
    ∃ token rest, phrase.tokens = token :: rest ∧ opensValue token = true := by
  have behind {first second : List (Token M)}
      (opens : ∃ token rest, first = token :: rest ∧ opensValue token = true) :
      ∃ token rest, first ++ second = token :: rest ∧ opensValue token = true := by
    obtain ⟨token, rest, rfl, opens⟩ := opens
    exact ⟨token, rest ++ second, rfl, opens⟩
  induction phrase with
  | product first rest ihFirst _ => exact behind (ihFirst rfl)
  | minus left right ihLeft _ => exact behind (ihLeft rfl)
  | last value ih => exact ih rfl
  | more value rest ih _ => exact behind (ih rfl)
  | item value name ih => exact behind (ih rfl)
  | itemThen value name rest ih _ => exact behind (ih rfl)
  | filtered | call | cast | interval | extract | paren | present | scalar | mark | quoted
  | numeral | column | bare => exact ⟨_, _, rfl, rfl⟩
  | _ => cases value

theorem keyAt_value {kind : Kind} (phrase : Ast M kind) (value : isValue kind = true)
    {keyword : Keyword} (other : opensValue (.key keyword : Token M) = false)
    (rest : List (Token M)) : keyAt keyword (phrase.tokens ++ rest) = none := by
  obtain ⟨token, more, same, opens⟩ := tokens_opens phrase value
  rw [same, List.cons_append]
  cases token with
  | key found =>
    have ne : found ≠ keyword := by
      rintro rfl
      exact Bool.false_ne_true (other.symm.trans opens)
    rw [keyAt, if_neg ne]
  | _ => rfl

theorem symbolAt_value {kind : Kind} (phrase : Ast M kind) (value : isValue kind = true)
    {symbol : Symbol} (other : symbol ≠ .opening) (rest : List (Token M)) :
    symbolAt symbol (phrase.tokens ++ rest) = none := by
  obtain ⟨token, more, same, opens⟩ := tokens_opens phrase value
  rw [same, List.cons_append]
  cases token with
  | symbol found =>
    have ne : found ≠ symbol := by
      rintro rfl
      cases found <;> first | exact other rfl | cases opens
    rw [symbolAt, if_neg ne]
  | _ => rfl

/-! ### Reading back, one phrase at a time -/

/-- A reader takes the tokens of the phrase as the phrase, whatever ends it. -/
def Recovers (read : Parse M) {kind : Kind} (phrase : Ast M kind) : Prop :=
  ∀ rest, Follow kind rest → read kind (phrase.tokens ++ rest) = some (phrase, rest)

theorem symbolAt_self (symbol : Symbol) (rest : List (Token M)) :
    symbolAt symbol (.symbol symbol :: rest) = some rest := if_pos rfl

theorem keyAt_self (keyword : Keyword) (rest : List (Token M)) :
    keyAt keyword (.key keyword :: rest) = some rest := if_pos rfl

theorem enclosed_append (inner rest : List (Token M)) :
    enclosed inner ++ rest = .symbol .opening :: (inner ++ .symbol .closing :: rest) := by
  rw [enclosed, List.cons_append, List.append_assoc, List.singleton_append]

section
variable {read : Parse M} {rest : List (Token M)}

theorem readEnclosed_tokens {kind : Kind} {phrase : Ast M kind} (inner : Recovers read phrase)
    (rest : List (Token M)) :
    readEnclosed read kind (enclosed phrase.tokens ++ rest) = some (phrase, rest) := by
  rw [enclosed_append, readEnclosed, symbolAt_self]
  simp only [Option.bind_eq_bind, Option.bind_some, inner _ (follow_closing kind rest),
    symbolAt_self]

theorem readCast_tokens {value : Ast M .term} (inner : Recovers read value) (type : String)
    (rest : List (Token M)) :
    readCast read (enclosed (value.tokens ++ [.label type]) ++ rest) =
      some (.cast value type, rest) := by
  have follow : Follow .term (.label type :: .symbol .closing :: rest) := rfl
  rw [enclosed_append, readCast, symbolAt_self]
  simp only [Option.bind_eq_bind, Option.bind_some, List.append_assoc, List.singleton_append,
    inner _ follow, symbolAt_self]

theorem readExtract_tokens {value : Ast M .term} (inner : Recovers read value) (field : String)
    (rest : List (Token M)) :
    readExtract read (enclosed (.name field :: .key .FROM :: value.tokens) ++ rest) =
      some (.extract field value, rest) := by
  rw [enclosed_append, readExtract, symbolAt_self]
  simp only [Option.bind_eq_bind, Option.bind_some, List.cons_append, keyAt_self,
    inner _ (follow_closing .term rest), symbolAt_self]

theorem readName_bare (name : String) (follow : Follow .primary rest) :
    readName read name rest = some (.bare name, rest) := by
  rw [readName, symbolAt_of_follow follow rfl]

theorem readName_call {args : Ast M .args} (inner : Recovers read args) (name : String)
    (follow : Follow .primary rest) :
    readName read name (enclosed args.tokens ++ rest) = some (.call name args, rest) := by
  rw [enclosed_append, readName, symbolAt_self]
  simp only [Option.bind_eq_bind, Option.bind_some, inner _ (follow_closing .args rest),
    symbolAt_self, keyAt_of_follow follow (rfl : ends .primary (.key .FILTER) = false)]

theorem readName_filtered {args : Ast M .args} {keep : Ast M .cond} (inner : Recovers read args)
    (kept : Recovers read keep) (name : String) (rest : List (Token M)) :
    readName read name (enclosed args.tokens ++
        .key .FILTER :: (enclosed (.key .WHERE :: keep.tokens) ++ rest)) =
      some (.filtered name args keep, rest) := by
  rw [enclosed_append, readName, symbolAt_self]
  simp only [Option.bind_eq_bind, Option.bind_some, inner _ (follow_closing .args _),
    symbolAt_self, keyAt_self, enclosed_append, List.cons_append,
    kept _ (follow_closing .cond rest)]

theorem readBracket_scalar {query : Ast M .select} (inner : Recovers read query)
    (rest : List (Token M)) :
    readBracket read (query.tokens ++ .symbol .closing :: rest) = some (.scalar query, rest) := by
  have selects : ∃ more, keyAt .SELECT (query.tokens ++ .symbol .closing :: rest) = some more := by
    cases query
    exact ⟨_, keyAt_self _ _⟩
  obtain ⟨more, selects⟩ := selects
  rw [readBracket, selects]
  simp only [Option.bind_eq_bind, Option.bind_some, inner _ (follow_closing .select rest),
    symbolAt_self]

theorem readBracket_paren {value : Ast M .term} (inner : Recovers read value)
    (rest : List (Token M)) :
    readBracket read (value.tokens ++ .symbol .closing :: rest) = some (.paren value, rest) := by
  rw [readBracket, keyAt_value value rfl rfl]
  simp only [Option.bind_eq_bind, Option.bind_some, inner _ (follow_closing .term rest),
    keysAt, keyAt, Option.bind_none, symbolAt_self]

theorem readBracket_present {value : Ast M .term} (inner : Recovers read value)
    (rest : List (Token M)) :
    readBracket read (value.tokens ++
        .key .IS :: .key .NOT :: .key .NULL :: .symbol .closing :: rest) =
      some (.present value, rest) := by
  have follow : Follow .term
      (.key .IS :: .key .NOT :: .key .NULL :: .symbol .closing :: rest) := rfl
  rw [readBracket, keyAt_value value rfl rfl]
  simp only [Option.bind_eq_bind, Option.bind_some, inner _ follow, keysAt, keyAt_self,
    symbolAt_self]

theorem readFactor_tokens {factor : Ast M .primary} {chain : Ast M .chain}
    (first : Recovers read factor) (others : Recovers read chain) (divide : Bool)
    (follow : Follow .chain rest) :
    readFactor read divide (factor.tokens ++ (chain.tokens ++ rest)) =
      some (.times divide factor chain, rest) := by
  have behind : Follow .primary (chain.tokens ++ rest) := by
    cases chain with
    | done => exact follow.weaken rfl
    | times divide => cases divide <;> rfl
  rw [readFactor, first _ behind]
  simp only [Option.bind_eq_bind, Option.bind_some, others _ follow]

theorem readChain_tokens {chain : Ast M .chain}
    (others : ∀ divide factor rest, chain = .times divide factor rest →
      Recovers read factor ∧ Recovers read rest)
    (follow : Follow .chain rest) : readChain read (chain.tokens ++ rest) = some (chain, rest) := by
  cases chain with
  | done =>
    rw [Ast.tokens, List.nil_append, readChain, symbolAt_of_follow follow rfl]
    dsimp only
    rw [symbolAt_of_follow follow rfl]
  | times divide factor chain =>
    obtain ⟨first, later⟩ := others divide factor chain rfl
    rw [Ast.tokens, List.cons_append, List.append_assoc, readChain]
    cases divide with
    | false =>
      rw [if_neg Bool.false_ne_true, symbolAt_self]
      exact readFactor_tokens first later false follow
    | true =>
      rw [if_pos rfl, show symbolAt .star (.symbol .slash :: (factor.tokens ++ (chain.tokens ++ rest)))
        = none from rfl, symbolAt_self]
      exact readFactor_tokens first later true follow

theorem readTerm_product {first : Ast M .primary} {chain : Ast M .chain}
    (head : Recovers read first) (others : Recovers read chain) (follow : Follow .term rest) :
    readTerm read (first.tokens ++ (chain.tokens ++ rest)) = some (.product first chain, rest) := by
  have behind : Follow .primary (chain.tokens ++ rest) ∧
      symbolAt .minus (chain.tokens ++ rest) = none := by
    cases chain with
    | done => exact ⟨follow.weaken rfl, symbolAt_of_follow follow rfl⟩
    | times divide => cases divide <;> exact ⟨rfl, rfl⟩
  rw [readTerm, head _ behind.1]
  simp only [Option.bind_eq_bind, Option.bind_some, behind.2, others _ (follow.weaken rfl)]

theorem readTerm_minus {left right : Ast M .primary} (first : Recovers read left)
    (second : Recovers read right) (follow : Follow .term rest) :
    readTerm read (left.tokens ++ .symbol .minus :: (right.tokens ++ rest)) =
      some (.minus left right, rest) := by
  have behind : Follow .primary (.symbol .minus :: (right.tokens ++ rest)) := rfl
  rw [readTerm, first _ behind]
  simp only [Option.bind_eq_bind, Option.bind_some, symbolAt_self, second _ (follow.weaken rfl)]

theorem readList_last {value : Ast M .term} (inner : Recovers read value)
    (follow : Follow .list rest) :
    readList read (value.tokens ++ rest) = some (.last value, rest) := by
  rw [readList, inner _ (follow.weaken rfl)]
  simp only [Option.bind_eq_bind, Option.bind_some, symbolAt_of_follow follow
    (rfl : ends .list (.symbol .comma) = false)]

theorem readList_more {value : Ast M .term} {others : Ast M .list} (inner : Recovers read value)
    (later : Recovers read others) (follow : Follow .list rest) :
    readList read (value.tokens ++ .symbol .comma :: (others.tokens ++ rest)) =
      some (.more value others, rest) := by
  have behind : Follow .term (.symbol .comma :: (others.tokens ++ rest)) := rfl
  rw [readList, inner _ behind]
  simp only [Option.bind_eq_bind, Option.bind_some, symbolAt_self, later _ follow]

theorem closing_of_follow (follow : Follow .args rest) :
    ∃ more, rest = .symbol .closing :: more := by
  cases rest with
  | nil => exact absurd rfl follow
  | cons token rest =>
    have closing : token.head = .symbol .closing := of_decide_eq_true follow
    cases token <;> first | cases closing; exact ⟨_, rfl⟩ | cases closing

theorem readArgs_noArgs (follow : Follow .args rest) :
    readArgs read rest = some (.noArgs, rest) := by
  obtain ⟨more, rfl⟩ := closing_of_follow follow
  rw [readArgs, symbolAt_self]

theorem readArgs_distinct {value : Ast M .term} (inner : Recovers read value)
    (follow : Follow .args rest) :
    readArgs read (.key .DISTINCT :: (value.tokens ++ rest)) = some (.distinct value, rest) := by
  simp only [readArgs, symbolAt, keyAt_self, Option.bind_eq_bind, Option.bind_some,
    inner _ (follow.weaken rfl)]

theorem readArgs_given {values : Ast M .list} (inner : Recovers read values)
    (follow : Follow .args rest) :
    readArgs read (values.tokens ++ rest) = some (.given values, rest) := by
  simp only [readArgs, symbolAt_value values rfl (by decide : Symbol.closing ≠ .opening),
    symbolAt_value values rfl (by decide : Symbol.star ≠ .opening),
    keyAt_value values rfl (rfl : opensValue (.key .DISTINCT : Token M) = false),
    Option.bind_eq_bind, Option.bind_some, inner _ (follow.weaken rfl)]

theorem readTest_exist {query : Ast M .query} (inner : Recovers read query) (negated : Bool)
    (rest : List (Token M)) :
    readTest read ((if negated then [.key .NOT] else []) ++
        .key .EXISTS :: (enclosed query.tokens ++ rest)) = some (.exist negated query, rest) := by
  have same := readEnclosed_tokens inner rest
  cases negated with
  | false =>
    simp only [Bool.false_eq_true, ↓reduceIte, List.nil_append, readTest, keyAt_self,
      Option.bind_eq_bind, Option.bind_some, same]
  | true =>
    simp only [↓reduceIte, List.singleton_append, readTest, keyAt, reduceCtorEq, keysAt,
      Option.bind_eq_bind, Option.bind_some, same]

/-- A test that begins with a value. -/
theorem readTest_value (left : Ast M .term) (rest : List (Token M)) :
    readTest read (left.tokens ++ rest) = readComparison read (left.tokens ++ rest) := by
  simp only [readTest, keyAt_value left rfl (rfl : opensValue (.key .EXISTS : Token M) = false),
    keysAt, keyAt_value left rfl (rfl : opensValue (.key .NOT : Token M) = false), Option.bind_none]

theorem comparisonAt_tokens (comparison : Comparison) (rest : List (Token M)) :
    comparisonAt (comparison.tokens ++ rest) = some (comparison, rest) := by
  cases comparison <;> rfl

theorem readTest_compare {left right : Ast M .term} (first : Recovers read left)
    (second : Recovers read right) (comparison : Comparison) (follow : Follow .test rest) :
    readTest read (left.tokens ++ (comparison.tokens ++ (right.tokens ++ rest))) =
      some (.compare comparison left right, rest) := by
  have behind : Follow .term (comparison.tokens ++ (right.tokens ++ rest)) := by
    cases comparison <;> rfl
  have notIn : keyAt .IN (comparison.tokens ++ (right.tokens ++ rest)) = none ∧
      keysAt [.NOT, .IN] (comparison.tokens ++ (right.tokens ++ rest)) = none := by
    cases comparison <;> exact ⟨rfl, rfl⟩
  rw [readTest_value, readComparison, first _ behind]
  simp only [Option.bind_eq_bind, Option.bind_some, notIn.1, notIn.2, comparisonAt_tokens,
    second _ (follow.weaken rfl)]

theorem readTest_isIn {value : Ast M .term} {list : Ast M .list} (first : Recovers read value)
    (members : Recovers read list) (negated : Bool) (rest : List (Token M)) :
    readTest read (value.tokens ++ ((if negated then [.key .NOT] else []) ++
        .key .IN :: (enclosed list.tokens ++ rest))) = some (.isIn negated value list, rest) := by
  have same := readEnclosed_tokens members rest
  rw [readTest_value, readComparison]
  cases negated with
  | false =>
    have behind : Follow .term (.key .IN :: (enclosed list.tokens ++ rest)) := rfl
    simp only [Bool.false_eq_true, ↓reduceIte, List.nil_append, first _ behind,
      Option.bind_eq_bind, Option.bind_some, keyAt_self, same]
  | true =>
    have behind : Follow .term (.key .NOT :: .key .IN :: (enclosed list.tokens ++ rest)) := rfl
    simp only [↓reduceIte, List.singleton_append, first _ behind, Option.bind_eq_bind,
      Option.bind_some, keyAt, reduceCtorEq, keysAt, same]

theorem comparisonAt_of_follow (follow : Follow .test rest) : comparisonAt rest = none := by
  cases rest with
  | nil => rfl
  | cons token rest =>
    cases token with
    | symbol found => cases found <;> first | rfl | cases follow
    | key found => cases found <;> first | rfl | cases follow
    | _ => rfl

theorem readTest_holds {value : Ast M .term} (inner : Recovers read value)
    (follow : Follow .test rest) :
    readTest read (value.tokens ++ rest) = some (.holds value, rest) := by
  rw [readTest_value, readComparison, inner _ (follow.weaken rfl)]
  simp only [Option.bind_eq_bind, Option.bind_some, comparisonAt_of_follow follow,
    keyAt_of_follow follow (rfl : ends .test (.key .IN) = false),
    keysAt_of_follow follow (rfl : ends .test (.key .NOT) = false)]

theorem readCond_only {test : Ast M .test} (inner : Recovers read test)
    (follow : Follow .cond rest) :
    readCond read (test.tokens ++ rest) = some (.only test, rest) := by
  rw [readCond, inner _ (follow.weaken rfl)]
  simp only [Option.bind_eq_bind, Option.bind_some, keyAt_of_follow follow
    (rfl : ends .cond (.key .AND) = false)]

theorem readCond_both {test : Ast M .test} {others : Ast M .cond} (inner : Recovers read test)
    (later : Recovers read others) (follow : Follow .cond rest) :
    readCond read (test.tokens ++ .key .AND :: (others.tokens ++ rest)) =
      some (.both test others, rest) := by
  have behind : Follow .test (.key .AND :: (others.tokens ++ rest)) := rfl
  rw [readCond, inner _ behind]
  simp only [Option.bind_eq_bind, Option.bind_some, keyAt_self, later _ follow]

theorem labelAt_tokens (name : Option String) (follow : Follow .items rest) :
    labelAt (labelTokens name ++ rest) = (name, rest) := by
  cases name with
  | some name => rfl
  | none =>
    cases rest with
    | nil => rfl
    | cons token rest => cases token <;> first | rfl | cases follow

theorem readItems_item {value : Ast M .term} (inner : Recovers read value) (name : Option String)
    (follow : Follow .items rest) :
    readItems read (value.tokens ++ (labelTokens name ++ rest)) = some (.item value name, rest) := by
  have behind : Follow .term (labelTokens name ++ rest) := by
    cases name with
    | some name => rfl
    | none => exact follow.weaken rfl
  rw [readItems, inner _ behind]
  simp only [Option.bind_eq_bind, Option.bind_some, labelAt_tokens name follow,
    symbolAt_of_follow follow (rfl : ends .items (.symbol .comma) = false)]

theorem readItems_itemThen {value : Ast M .term} {others : Ast M .items}
    (inner : Recovers read value) (later : Recovers read others) (name : Option String)
    (follow : Follow .items rest) :
    readItems read (value.tokens ++
        (labelTokens name ++ .symbol .comma :: (others.tokens ++ rest))) =
      some (.itemThen value name others, rest) := by
  have behind : Follow .term (labelTokens name ++ .symbol .comma :: (others.tokens ++ rest)) := by
    cases name <;> rfl
  have named : labelAt (labelTokens name ++ .symbol .comma :: (others.tokens ++ rest)) =
      (name, .symbol .comma :: (others.tokens ++ rest)) := by
    cases name <;> rfl
  rw [readItems, inner _ behind]
  simp only [Option.bind_eq_bind, Option.bind_some, named, symbolAt_self, later _ follow]

theorem calledAt_tokens (called : Option String) (follow : Follow .relation rest) :
    calledAt (calledTokens called ++ rest) = (called, rest) := by
  cases called with
  | some called => rfl
  | none =>
    cases rest with
    | nil => rfl
    | cons token rest => cases token <;> first | rfl | cases follow

theorem readRelation_derived {query : Ast M .query} (inner : Recovers read query) (called : String)
    (rest : List (Token M)) :
    readRelation read (enclosed query.tokens ++ .name called :: rest) =
      some (.derived query called, rest) := by
  have same := readEnclosed_tokens inner (.name called :: rest)
  rw [enclosed_append] at same ⊢
  simp only [readRelation, same, Option.bind_eq_bind, Option.bind_some]

theorem readJoin_tokens {relation : Ast M .relation} {on : Ast M .cond} {others : Ast M .joins}
    (joined : Recovers read relation) (cond : Recovers read on) (later : Recovers read others)
    (left : Bool) (follow : Follow .joins rest) :
    readJoin read left (relation.tokens ++ .key .ON :: (on.tokens ++ (others.tokens ++ rest))) =
      some (.join left relation on others, rest) := by
  have behind : Follow .relation (.key .ON :: (on.tokens ++ (others.tokens ++ rest))) := rfl
  have after : Follow .cond (others.tokens ++ rest) := by
    cases others with
    | noJoin => exact follow.weaken rfl
    | join left => cases left <;> rfl
  rw [readJoin, joined _ behind]
  simp only [Option.bind_eq_bind, Option.bind_some, keyAt_self, cond _ after, later _ follow]

theorem readJoins_noJoin (follow : Follow .joins rest) :
    readJoins read rest = some (.noJoin, rest) := by
  simp only [readJoins, keyAt_of_follow follow (rfl : ends .joins (.key .JOIN) = false),
    keysAt_of_follow follow (rfl : ends .joins (.key .LEFT) = false)]

theorem readJoins_join {relation : Ast M .relation} {on : Ast M .cond} {others : Ast M .joins}
    (joined : Recovers read relation) (cond : Recovers read on) (later : Recovers read others)
    (left : Bool) (follow : Follow .joins rest) :
    readJoins read ((if left then [.key .LEFT] else []) ++ .key .JOIN ::
        (relation.tokens ++ .key .ON :: (on.tokens ++ (others.tokens ++ rest)))) =
      some (.join left relation on others, rest) := by
  have same := fun left => readJoin_tokens joined cond later left follow
  cases left with
  | false =>
    simp only [Bool.false_eq_true, ↓reduceIte, List.nil_append, readJoins, keyAt_self, same]
  | true =>
    simp only [↓reduceIte, List.singleton_append, readJoins, keyAt, reduceCtorEq, keysAt,
      Option.bind_some, same]

theorem readSource_nowhere (follow : Follow .source rest) :
    readSource read rest = some (.nowhere, rest) := by
  simp only [readSource, keyAt_of_follow follow (rfl : ends .source (.key .FROM) = false)]

theorem readSource_from {relation : Ast M .relation} {joins : Ast M .joins}
    (first : Recovers read relation) (others : Recovers read joins) (follow : Follow .source rest) :
    readSource read (.key .FROM :: (relation.tokens ++ (joins.tokens ++ rest))) =
      some (.from relation joins, rest) := by
  have behind : Follow .relation (joins.tokens ++ rest) := by
    cases joins with
    | noJoin => exact follow.weaken rfl
    | join left => cases left <;> rfl
  simp only [readSource, keyAt_self, Option.bind_eq_bind, Option.bind_some, first _ behind,
    others _ (follow.weaken rfl)]

theorem ends_clause (keyword : Keyword) : ends (.clause keyword) (.key keyword) = false := by
  simp [ends, isClosed, continuing]

theorem readClause_noClause {keyword : Keyword} (follow : Follow (.clause keyword) rest) :
    readClause read keyword rest = some (.noClause keyword, rest) := by
  simp only [readClause, keyAt_of_follow follow (ends_clause keyword)]

theorem readClause_clause {keyword : Keyword} {cond : Ast M .cond} (inner : Recovers read cond)
    (follow : Follow (.clause keyword) rest) :
    readClause read keyword (.key keyword :: (cond.tokens ++ rest)) =
      some (.clause keyword cond, rest) := by
  have behind : Follow .cond rest := follow.weaken (by
    simp +contextual [covers, isClosed, continuing])
  simp only [readClause, keyAt_self, Option.bind_eq_bind, Option.bind_some, inner _ behind]

theorem refAt_token (ref : ColumnRef) (rest : List (Token M)) :
    refAt (ref.token :: rest) = some (ref, rest) := by
  obtain ⟨relation, name⟩ := ref
  cases relation <;> rfl

theorem refsAt_tokens {refs : List ColumnRef} (some_ : refs ≠ []) {fuel : Nat}
    (enough : refs.length ≤ fuel) (stop : symbolAt .comma rest = none) :
    refsAt fuel (refTokens refs ++ rest) = some (refs, rest) := by
  induction refs generalizing fuel with
  | nil => exact absurd rfl some_
  | cons ref others ih =>
    cases fuel with
    | zero => cases enough
    | succ fuel =>
      cases others with
      | nil =>
        simp only [refTokens, List.singleton_append, refsAt, refAt_token, Option.bind_eq_bind,
          Option.bind_some, stop]
      | cons second others =>
        have later := ih (List.cons_ne_nil _ _) (Nat.le_of_succ_le_succ enough)
        simp only [refTokens, List.cons_append, refsAt, refAt_token, Option.bind_eq_bind,
          Option.bind_some, symbolAt_self, later]

theorem length_le_refTokens (refs : List ColumnRef) :
    refs.length ≤ (refTokens refs : List (Token M)).length := by
  induction refs with
  | nil => exact Nat.le_refl 0
  | cons ref others ih =>
    cases others with
    | nil => exact Nat.le_refl 1
    | cons second others =>
      simp only [refTokens, List.length_cons] at ih ⊢
      omega

theorem groupsAt_tokens (groups : List ColumnRef) (comma : symbolAt .comma rest = none)
    (group : keyAt .GROUP rest = none) :
    groupsAt (groupTokens groups ++ rest) = some (groups, rest) := by
  cases groups with
  | nil => simp only [groupTokens, List.nil_append, groupsAt, keysAt, group, Option.bind_none]
  | cons ref others =>
    have enough : (ref :: others).length ≤ (refTokens (ref :: others) ++ rest).length := by
      have atLeast := length_le_refTokens (ref :: others) (M := M)
      rw [List.length_append]
      omega
    simp only [groupTokens, List.cons_append, groupsAt, keysAt, keyAt_self, Option.bind_some]
    exact refsAt_tokens (List.cons_ne_nil _ _) enough comma

theorem orderAt_tokens (order : Option String) (follow : Follow (.clause .ORDER) rest) :
    orderAt (orderTokens order ++ rest) = (order, rest) := by
  cases order with
  | some name => rfl
  | none =>
    rw [orderTokens, List.nil_append, orderAt]
    rintro name more rfl
    cases follow

theorem limitAt_tokens (limit : Option String) (follow : Follow (.clause .LIMIT) rest) :
    limitAt (limitTokens limit ++ rest) = (limit, rest) := by
  cases limit with
  | some count => rfl
  | none =>
    rw [limitTokens, List.nil_append, limitAt]
    rintro count more rfl
    cases follow

section
variable {kind : Kind}

theorem Follow.limit (follow : Follow kind rest) (limit : Option String)
    (free : ends kind (.key .LIMIT) = true) : Follow kind (limitTokens limit ++ rest) :=
  follow.part (by cases limit with
    | none => exact .inl rfl
    | some count => exact .inr ⟨_, rfl⟩) free

theorem Follow.order (follow : Follow kind rest) (order : Option String)
    (free : ends kind (.key .ORDER) = true) : Follow kind (orderTokens order ++ rest) :=
  follow.part (by cases order with
    | none => exact .inl rfl
    | some name => exact .inr ⟨_, rfl⟩) free

theorem Follow.groups (follow : Follow kind rest) (groups : List ColumnRef)
    (free : ends kind (.key .GROUP) = true) : Follow kind (groupTokens groups ++ rest) :=
  follow.part (by cases groups with
    | nil => exact .inl rfl
    | cons ref others => exact .inr ⟨_, rfl⟩) free

theorem Follow.clause {keyword : Keyword} (follow : Follow kind rest)
    (part : Ast M (.clause keyword)) (free : ends kind (.key keyword) = true) :
    Follow kind (part.tokens ++ rest) :=
  follow.part (by cases part with
    | noClause => exact .inl rfl
    | clause _ cond => exact .inr ⟨_, rfl⟩) free

theorem Follow.source (follow : Follow kind rest) (source : Ast M .source)
    (free : ends kind (.key .FROM) = true) : Follow kind (source.tokens ++ rest) :=
  follow.part (by cases source with
    | nowhere => exact .inl rfl
    | «from» relation joins => exact .inr ⟨_, rfl⟩) free

end

theorem uniqueAt_tokens (unique : Bool) (items : Ast M .items) (rest : List (Token M)) :
    uniqueAt ((if unique then [.key .DISTINCT] else []) ++ (items.tokens ++ rest)) =
      (unique, items.tokens ++ rest) := by
  cases unique with
  | true => rfl
  | false =>
    simp only [Bool.false_eq_true, ↓reduceIte, List.nil_append, uniqueAt,
      keyAt_value items rfl (rfl : opensValue (.key .DISTINCT : Token M) = false)]

theorem readSelect_tokens {items : Ast M .items} {source : Ast M .source}
    {filter : Ast M (.clause .WHERE)} {having : Ast M (.clause .HAVING)}
    (listed : Recovers read items) (read_ : Recovers read source) (kept : Recovers read filter)
    (left : Recovers read having) (unique : Bool) (groups : List ColumnRef)
    (order limit : Option String) (follow : Follow .select rest) :
    readSelect read ((Ast.select unique items source filter groups having order limit).tokens ++
        rest) = some (.select unique items source filter groups having order limit, rest) := by
  -- what stands behind the items, the source, the filter, the groups, the having and the order
  have limited (kind : Kind) (covered : covers .select kind = true)
      (free : ends kind (.key .LIMIT) = true) : Follow kind (limitTokens limit ++ rest) :=
    (follow.weaken covered).limit limit free
  have ordered (kind : Kind) (covered : covers .select kind = true)
      (free : (ends kind (.key .LIMIT) && ends kind (.key .ORDER)) = true) :
      Follow kind (orderTokens order ++ (limitTokens limit ++ rest)) :=
    (limited kind covered (Bool.and_eq_true_iff.mp free).1).order order (Bool.and_eq_true_iff.mp free).2
  have items_ := listed _ (((((ordered .items rfl rfl).clause having rfl).groups groups
    rfl).clause filter rfl).source source rfl)
  have source_ := read_ _ ((((ordered .source rfl rfl).clause having rfl).groups groups
    rfl).clause filter rfl)
  have filter_ := kept _ (((ordered (.clause .WHERE) rfl rfl).clause having rfl).groups
    groups rfl)
  have groups_ := groupsAt_tokens groups
    (symbolAt_of_follow ((ordered .items rfl rfl).clause having rfl) rfl)
    (keyAt_of_follow ((ordered (.clause .GROUP) rfl rfl).clause having rfl) rfl)
  have having_ := left _ (ordered (.clause .HAVING) rfl rfl)
  have order_ := orderAt_tokens order (limited (.clause .ORDER) rfl rfl)
  have limit_ := limitAt_tokens limit (follow.weaken (show covers .select (.clause .LIMIT) = true from rfl))
  rw [Ast.tokens, List.cons_append, readSelect, keyAt_self]
  simp only [List.append_assoc, Option.bind_eq_bind, Option.bind_some, uniqueAt_tokens, items_,
    source_, filter_, groups_, having_, order_, limit_]

theorem readNamed_tokens {query : Ast M .query} (inner : Recovers read query) (name : String)
    (rest : List (Token M)) :
    readNamed read (.name name :: .key .AS :: (enclosed query.tokens ++ rest)) =
      some (name, query, rest) := by
  simp only [readNamed, keyAt_self, Option.bind_eq_bind, Option.bind_some,
    readEnclosed_tokens inner]

theorem readCombined_tokens {left right : Ast M .query} (first : Recovers read left)
    (second : Recovers read right) (combination : Combination) (rest : List (Token M)) :
    readCombined read (enclosed left.tokens ++
        .key combination.keyword :: (enclosed right.tokens ++ rest)) =
      some (.combine combination left right, rest) := by
  have which : combinationAt (.key combination.keyword :: (enclosed right.tokens ++ rest)) =
      some (combination, enclosed right.tokens ++ rest) := by
    cases combination <;> rfl
  simp only [readCombined, readEnclosed_tokens first, Option.bind_eq_bind, Option.bind_some, which,
    readEnclosed_tokens second]

end

/-- The token a query begins with. -/
theorem query_opens (query : Ast M .query) :
    ∃ token rest, query.tokens = token :: rest ∧
      (token = .key .SELECT ∨ token = .key .WITH ∨ token = .symbol .opening) := by
  cases query with
  | single select =>
    cases select
    exact ⟨_, _, rfl, .inl rfl⟩
  | combine combination left right => exact ⟨_, _, rfl, .inr (.inr rfl)⟩
  | withFirst name query rest => exact ⟨_, _, rfl, .inr (.inl rfl)⟩

/-! ### Reading back -/

/-- How deep the reader descends into a phrase. -/
def Ast.height : {kind : Kind} → Ast M kind → Nat
  | _, .mark _ | _, .quoted _ | _, .numeral _ | _, .column _ _ | _, .bare _ | _, .interval _ _
  | _, .done | _, .noArgs | _, .star | _, .table _ _ _ | _, .named _ _ | _, .noJoin | _, .nowhere
  | _, .noClause _ => 1
  | _, .cast value _ | _, .extract _ value | _, .paren value | _, .present value
  | _, .last value | _, .distinct value | _, .holds value | _, .item value _ => value.height + 1
  | _, .call _ args => args.height + 1
  | _, .filtered _ args keep => max args.height keep.height + 1
  | _, .scalar query => query.height + 1
  | _, .times _ factor rest => max factor.height rest.height + 1
  | _, .product first rest => max first.height rest.height + 1
  | _, .minus left right => max left.height right.height + 1
  | _, .more value rest => max value.height rest.height + 1
  | _, .given values => values.height + 1
  | _, .compare _ left right => max left.height right.height + 1
  | _, .isIn _ value list => max value.height list.height + 1
  | _, .exist _ query | _, .derived query _ | _, .body query => query.height + 1
  | _, .only test => test.height + 1
  | _, .both test rest => max test.height rest.height + 1
  | _, .itemThen value _ rest => max value.height rest.height + 1
  | _, .join _ relation on rest => max relation.height (max on.height rest.height) + 1
  | _, .from relation joins => max relation.height joins.height + 1
  | _, .clause _ cond => cond.height + 1
  | _, .select _ items source filter _ having _ _ =>
      max (max items.height source.height) (max filter.height having.height) + 1
  | _, .single query => query.height + 1
  | _, .combine _ left right => max left.height right.height + 1
  | _, .withFirst _ query rest | _, .withNext _ query rest => max query.height rest.height + 1

/-- What a phrase of the kind leaves of the bound that its tokens give for its height. -/
def slack : Kind → Nat
  | .primary => 15
  | .term => 14
  | .chain | .args | .joins | .source | .clause _ => 7
  | .cond | .query => 12
  | .ctes => 11
  | _ => 13

theorem height_le (kind : Kind) (phrase : Ast M kind) :
    phrase.height + slack kind ≤ 8 * phrase.tokens.length + 8 := by
  induction phrase with
  | _ =>
    simp only [Ast.height, Ast.tokens, slack, enclosed, List.length_append, List.length_cons,
      List.length_nil] at *
    omega

/-- The tokens of a phrase are read back as that phrase. -/
theorem recovers_parse (fuel : Nat) {kind : Kind} (phrase : Ast M kind)
    (enough : phrase.height ≤ fuel) : Recovers (parse fuel) phrase := by
  induction fuel generalizing kind with
  | zero => cases phrase <;> exact absurd enough (Nat.not_succ_le_zero _)
  | succ fuel ih =>
    intro rest follow
    cases phrase with
    | mark | quoted | numeral | column | interval => rfl
    | bare name => exact readName_bare name follow
    | cast value type =>
      exact readCast_tokens (ih value (Nat.le_of_succ_le_succ enough)) type rest
    | call function args =>
      exact readName_call (ih args (Nat.le_of_succ_le_succ enough)) function follow
    | filtered function args keep =>
      have both := Nat.max_le.mp (Nat.le_of_succ_le_succ enough)
      rw [Ast.tokens, List.cons_append, List.cons_append, List.append_assoc, List.cons_append]
      exact readName_filtered (ih args both.1) (ih keep both.2) function rest
    | extract field value =>
      exact readExtract_tokens (ih value (Nat.le_of_succ_le_succ enough)) field rest
    | paren value =>
      rw [Ast.tokens, enclosed_append]
      exact readBracket_paren (ih value (Nat.le_of_succ_le_succ enough)) rest
    | present value =>
      rw [Ast.tokens, enclosed_append, List.append_assoc]
      exact readBracket_present (ih value (Nat.le_of_succ_le_succ enough)) rest
    | scalar query =>
      rw [Ast.tokens, enclosed_append]
      exact readBracket_scalar (ih query (Nat.le_of_succ_le_succ enough)) rest
    | done =>
      exact readChain_tokens (fun _ _ _ same => by cases same) follow
    | times divide factor chain =>
      have both := Nat.max_le.mp (Nat.le_of_succ_le_succ enough)
      refine readChain_tokens (fun _ _ _ same => ?_) follow
      cases same
      exact ⟨ih factor both.1, ih chain both.2⟩
    | product first chain =>
      have both := Nat.max_le.mp (Nat.le_of_succ_le_succ enough)
      rw [Ast.tokens, List.append_assoc]
      exact readTerm_product (ih first both.1) (ih chain both.2) follow
    | minus left right =>
      have both := Nat.max_le.mp (Nat.le_of_succ_le_succ enough)
      rw [Ast.tokens, List.append_assoc, List.cons_append]
      exact readTerm_minus (ih left both.1) (ih right both.2) follow
    | last value => exact readList_last (ih value (Nat.le_of_succ_le_succ enough)) follow
    | more value others =>
      have both := Nat.max_le.mp (Nat.le_of_succ_le_succ enough)
      rw [Ast.tokens, List.append_assoc, List.cons_append]
      exact readList_more (ih value both.1) (ih others both.2) follow
    | noArgs => exact readArgs_noArgs follow
    | star => rfl
    | distinct value => exact readArgs_distinct (ih value (Nat.le_of_succ_le_succ enough)) follow
    | given values => exact readArgs_given (ih values (Nat.le_of_succ_le_succ enough)) follow
    | compare comparison left right =>
      have both := Nat.max_le.mp (Nat.le_of_succ_le_succ enough)
      rw [Ast.tokens, List.append_assoc, List.append_assoc]
      exact readTest_compare (ih left both.1) (ih right both.2) comparison follow
    | isIn negated value list =>
      have both := Nat.max_le.mp (Nat.le_of_succ_le_succ enough)
      rw [Ast.tokens, List.append_assoc, List.append_assoc, List.cons_append]
      exact readTest_isIn (ih value both.1) (ih list both.2) negated rest
    | exist negated query =>
      rw [Ast.tokens, List.append_assoc, List.cons_append]
      exact readTest_exist (ih query (Nat.le_of_succ_le_succ enough)) negated rest
    | holds value => exact readTest_holds (ih value (Nat.le_of_succ_le_succ enough)) follow
    | only test => exact readCond_only (ih test (Nat.le_of_succ_le_succ enough)) follow
    | both test others =>
      have both := Nat.max_le.mp (Nat.le_of_succ_le_succ enough)
      rw [Ast.tokens, List.append_assoc, List.cons_append]
      exact readCond_both (ih test both.1) (ih others both.2) follow
    | item value name =>
      rw [Ast.tokens, List.append_assoc]
      exact readItems_item (ih value (Nat.le_of_succ_le_succ enough)) name follow
    | itemThen value name others =>
      have both := Nat.max_le.mp (Nat.le_of_succ_le_succ enough)
      rw [Ast.tokens, List.append_assoc, List.append_assoc, List.cons_append]
      exact readItems_itemThen (ih value both.1) (ih others both.2) name follow
    | table catalog name called =>
      change readRelation (parse fuel) (.column catalog name :: (calledTokens called ++ rest)) = _
      rw [readRelation, calledAt_tokens called follow]
    | named name called =>
      change readRelation (parse fuel) (.name name :: (calledTokens called ++ rest)) = _
      rw [readRelation, calledAt_tokens called follow]
    | derived query called =>
      rw [Ast.tokens, List.append_assoc, List.singleton_append]
      exact readRelation_derived (ih query (Nat.le_of_succ_le_succ enough)) called rest
    | noJoin => exact readJoins_noJoin follow
    | join left relation on others =>
      have parts := Nat.max_le.mp (Nat.le_of_succ_le_succ enough)
      have both := Nat.max_le.mp parts.2
      rw [Ast.tokens, List.append_assoc, List.cons_append, List.append_assoc, List.cons_append,
        List.append_assoc]
      exact readJoins_join (ih relation parts.1) (ih on both.1) (ih others both.2) left follow
    | nowhere => exact readSource_nowhere follow
    | «from» relation joins =>
      have both := Nat.max_le.mp (Nat.le_of_succ_le_succ enough)
      rw [Ast.tokens, List.cons_append, List.append_assoc]
      exact readSource_from (ih relation both.1) (ih joins both.2) follow
    | noClause keyword => exact readClause_noClause follow
    | clause keyword cond =>
      exact readClause_clause (ih cond (Nat.le_of_succ_le_succ enough)) follow
    | select unique items source filter groups having order limit =>
      have parts := Nat.max_le.mp (Nat.le_of_succ_le_succ enough)
      have first := Nat.max_le.mp parts.1
      have second := Nat.max_le.mp parts.2
      exact readSelect_tokens (ih items first.1) (ih source first.2) (ih filter second.1)
        (ih having second.2) unique groups order limit follow
    | single query =>
      have same := ih query (Nat.le_of_succ_le_succ enough) rest (follow.weaken rfl)
      cases query with
      | select unique items source filter groups having order limit =>
        change readQuery (parse fuel) (.key .SELECT :: _) = _
        rw [readQuery, keyAt_self]
        exact congrArg (Option.bind · _) same
    | combine combination left right =>
      have both := Nat.max_le.mp (Nat.le_of_succ_le_succ enough)
      rw [Ast.tokens, List.append_assoc, List.cons_append]
      exact readCombined_tokens (ih left both.1) (ih right both.2) combination rest
    | withFirst name query others =>
      have both := Nat.max_le.mp (Nat.le_of_succ_le_succ enough)
      have later := ih others both.2 rest (follow.weaken rfl)
      change readQuery (parse fuel) (.key .WITH :: .name name :: .key .AS ::
        (enclosed query.tokens ++ others.tokens ++ rest)) = _
      rw [List.append_assoc, readQuery]
      simp only [keyAt, reduceCtorEq, ↓reduceIte, readNamed_tokens (ih query both.1),
        Option.bind_eq_bind, Option.bind_some, later]
    | body query =>
      obtain ⟨token, more, same, opens⟩ := query_opens query
      have inner := ih query (Nat.le_of_succ_le_succ enough) rest (follow.weaken rfl)
      have comma : symbolAt .comma (query.tokens ++ rest) = none := by
        rw [same]
        rcases opens with rfl | rfl | rfl <;> rfl
      change readCtes (parse fuel) (query.tokens ++ rest) = _
      rw [readCtes, comma]
      simp only [inner, Option.bind_eq_bind, Option.bind_some]
    | withNext name query others =>
      have both := Nat.max_le.mp (Nat.le_of_succ_le_succ enough)
      have later := ih others both.2 rest follow
      change readCtes (parse fuel) (.symbol .comma :: .name name :: .key .AS ::
        (enclosed query.tokens ++ others.tokens ++ rest)) = _
      rw [List.append_assoc, readCtes, symbolAt_self]
      simp only [readNamed_tokens (ih query both.1), Option.bind_eq_bind, Option.bind_some, later]

/-- The tokens of a query are read as that query. -/
theorem queryOf_tokens (query : Ast M .query) : queryOf query.tokens = some query := by
  have enough := height_le .query query
  have read := recovers_parse _ query (Nat.le_trans (Nat.le_add_right _ _) enough) []
    (fun absent => by cases absent)
  rw [List.append_nil] at read
  rw [queryOf, read]

@[simp] theorem bounds_nil : bounds ([] : List (Token M)) = [] := rfl

@[simp] theorem bounds_cons (token : Token M) (rest : List (Token M)) :
    bounds (token :: rest) = token.bound ++ bounds rest := List.flatMap_cons

@[simp] theorem bounds_append (first second : List (Token M)) :
    bounds (first ++ second) = bounds first ++ bounds second := List.flatMap_append

theorem bindMarks_erase (tokens : List (Token M)) :
    bindMarks (tokens.map Token.erase) (bounds tokens) = some tokens := by
  induction tokens with
  | nil => rfl
  | cons token rest ih =>
    cases token <;> simp only [List.map_cons, Token.erase, bounds_cons, Token.bound,
      List.nil_append, List.singleton_append, bindMarks, ih, Option.map_some]

/-- A text that reads as the tokens of a query is that query. -/
theorem statement_eq {text : String} {query : Ast M .query}
    (read : tokens text = query.tokens.map Token.erase) :
    statement text (bounds query.tokens) = some query := by
  rw [statement, read, bindMarks_erase, Option.bind_some, queryOf_tokens]

end ConsumerEngine.Sql
