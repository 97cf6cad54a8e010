import ConsumerEngine.Query.Shapes
import ConsumerEngine.Sql.RoundTrip

/-! The compiler's texts are read as the phrases of the query: every layout spells the tokens
of its phrase, and binds its placeholders as they stand in them.
-/

set_option autoImplicit false

namespace ConsumerEngine.Query

open ConsumerEngine.Core ConsumerEngine.Foundation ConsumerEngine.Sql ConsumerEngine.Storage

/-! ### Names -/

theorem isIdent_words {name : String} (ident : isIdent name = true) :
    ∀ c ∈ name.toList, isWordChar c = true := isIdent_chars ident

/-- A name a relation has in the compiler's texts. -/
structure RelationName (rel : String) : Prop where
  nonempty : rel.toList ≠ []
  words : ∀ c ∈ rel.toList, isWordChar c = true
  letter : rel.toList.all Char.isDigit = false
  folded : foldName rel = rel

theorem relation_base : RelationName "base" :=
  ⟨by decide, List.all_eq_true.mp (by decide), by decide, by decide⟩

theorem relation_event : RelationName "e" :=
  ⟨by decide, List.all_eq_true.mp (by decide), by decide, by decide⟩

section
variable {rel name alias_ : String}

theorem spells_relation (relation : RelationName rel) (ident : isIdent name = true) :
    Spells (rel ++ ("." ++ name)) [.column rel (foldName name)] := by
  have letter : (rel.toList ++ name.toList).all Char.isDigit = false := by
    rw [List.all_append, relation.letter, Bool.false_and]
  have spells := spells_column relation.nonempty relation.words (isIdent_words ident) letter
  rwa [show String.ofList (fold rel.toList) = rel from relation.folded] at spells

theorem close_column (relation : RelationName rel) :
    Reader.close ⟨false, .dotted rel.toList name.toList⟩ = some [.column rel (foldName name)] := by
  have letter : (rel.toList ++ name.toList).all Char.isDigit = false := by
    rw [List.all_append, relation.letter, Bool.false_and]
  have closed := close_dotted letter
  rwa [show String.ofList (fold rel.toList) = rel from relation.folded] at closed

/-- A stored table, behind the alias of its catalogue. -/
theorem spells_stored (ident : isIdent alias_ = true) (words : ∀ c ∈ name.toList, isWordChar c = true)
    (letter : name.toList.all Char.isDigit = false) :
    Spells (alias_ ++ ("." ++ name)) [.column (foldName alias_) (foldName name)] := by
  refine spells_column (isIdent_ne_nil ident) (isIdent_words ident) words ?_
  rw [List.all_append, letter, Bool.and_false]

theorem spells_rawTable {d : Dataset} (named : NamedDataset d) (ident : isIdent alias_ = true) :
    Spells (rawTable d alias_) [.column (foldName alias_) (rawName d)] := by
  have regrouped : rawTable d alias_ =
      alias_ ++ ("." ++ ("raw_" ++ d.system ++ "_" ++ d.entity)) := by
    have dotted : (".raw_" : String) = "." ++ "raw_" := rfl
    simp only [rawTable, dotted, String.append_assoc]
  have words : ∀ c ∈ ("raw_" ++ d.system ++ "_" ++ d.entity).toList, isWordChar c = true := by
    have raw : ∀ c ∈ "raw_".toList, isWordChar c = true :=
      List.all_eq_true.mp (by decide)
    have underscore : ∀ c ∈ "_".toList, isWordChar c = true :=
      List.all_eq_true.mp (by decide)
    simp only [String.toList_append, List.forall_mem_append]
    exact ⟨⟨⟨raw, isIdent_words named.1⟩, underscore⟩, isIdent_words named.2⟩
  have letter : ("raw_" ++ d.system ++ "_" ++ d.entity).toList.all Char.isDigit = false := by
    have raw : "raw_".toList.all Char.isDigit = false := by decide
    simp only [String.toList_append, List.all_append, raw, Bool.false_and]
  rw [regrouped]
  exact spells_stored ident words letter

end

/-! ### Layouts -/

/-- The layout spells the tokens, and its elements are what their placeholders are bound to. -/
structure Layout.Spells (layout : Layout) (toks : List (Token Value)) : Prop where
  text : Sql.Spells layout.text (toks.map Token.erase)
  values : layout.values.map (·.getD .null) = bounds toks

/-- Tests with `AND` between each and the next. -/
def testTokens : List Test → List (Token Value)
  | [] => []
  | [last] => last.tokens
  | first :: second :: rest => first.tokens ++ .key .AND :: testTokens (second :: rest)

theorem conjunction_tokens (first : Test) (rest : List Test) :
    (conjunction first rest).tokens = testTokens (first :: rest) := by
  induction rest generalizing first with
  | nil => rfl
  | cons second rest ih => rw [conjunction, Ast.tokens, ih, testTokens]

theorem testTokens_append {first second : List Test} (left : first ≠ []) (right : second ≠ []) :
    testTokens (first ++ second) = testTokens first ++ .key .AND :: testTokens second := by
  induction first with
  | nil => exact absurd rfl left
  | cons test rest ih =>
    cases rest with
    | nil =>
      obtain ⟨next, later, rfl⟩ := List.exists_cons_of_ne_nil right
      rfl
    | cons next later =>
      rw [List.cons_append, List.cons_append, testTokens, ← List.cons_append,
        ih (List.cons_ne_nil _ _), testTokens, List.append_assoc, List.cons_append]

/-- A conjunct spells its tests. -/
structure Layout.SpellsTests (layout : Layout) (tests : List Test) : Prop where
  nonempty : tests ≠ []
  spells : layout.Spells (testTokens tests)

theorem and_reads : Reads .start " AND " [.key .AND] .start := rfl

/-- Conjuncts, one after the other, spell all their tests. -/
theorem spells_join {parts : List (Layout × List Test)} (some_ : parts ≠ [])
    (each : ∀ part ∈ parts, part.1.SpellsTests part.2) :
    Layout.SpellsTests (Template.join " AND " (parts.map Prod.fst)) (parts.flatMap Prod.snd) := by
  induction parts with
  | nil => exact absurd rfl some_
  | cons part rest ih =>
    obtain ⟨here, later⟩ := List.forall_mem_cons.mp each
    cases rest with
    | nil =>
      rw [List.flatMap_cons, List.flatMap_nil, List.append_nil]
      exact here
    | cons second rest =>
      have others := ih (List.cons_ne_nil _ _) later
      refine ⟨by simp [here.nonempty], ?_, ?_⟩
      · have text := here.spells.text.then rfl and_reads others.spells.text
        rw [List.flatMap_cons, testTokens_append here.nonempty others.nonempty]
        simpa only [List.map_cons, Template.join, Layout.text, Template.spell_append, Template.spell,
          Piece.spell, String.append_empty, String.append_assoc, List.map_append, Token.erase,
          List.append_assoc, List.cons_append, List.nil_append] using text
      · rw [List.flatMap_cons, testTokens_append here.nonempty others.nonempty, bounds_append,
          bounds_cons, ← here.spells.values, ← others.spells.values]
        simp only [List.map_cons, Template.join, Layout.values_append, Layout.values_text,
          Layout.values_nil, List.append_nil, List.map_append, Token.bound,
          List.nil_append]

/-! ### Predicates -/

section
variable {rel : String}

theorem symbol_reads {op : Cmp} {symbol : String} (binary : binaryCmpSymbol op = some symbol) :
    (" " ++ (symbol ++ " ?")).toList.head?.any isDelimiter = true ∧
      Reads .start (" " ++ (symbol ++ " ?")) (op.comparison.tokens ++ [.mark ()]) .start := by
  cases op <;> cases binary <;> exact ⟨rfl, rfl⟩

/-- One comparison of a column with a bound value. -/
theorem spells_comparison {column symbol : String} {op : Cmp} (relation : RelationName rel)
    (ident : isIdent column = true) (binary : binaryCmpSymbol op = some symbol) :
    Sql.Spells (rel ++ "." ++ column ++ " " ++ symbol ++ " ?")
      (.column rel (foldName column) :: (op.comparison.tokens ++ [.mark ()])) := by
  obtain ⟨delimited, reads⟩ := symbol_reads binary
  have whole := (spells_relation relation ident).reads delimited reads
  simpa only [String.append_assoc, List.singleton_append] using whole.spelled

theorem erase_comparison (comparison : Comparison) :
    (comparison.tokens : List (Token Value)).map Token.erase = comparison.tokens := by
  cases comparison <;> rfl

theorem bounds_comparison (comparison : Comparison) :
    bounds (comparison.tokens : List (Token Value)) = [] := by
  cases comparison <;> rfl

theorem valueOf_eq (json : Json) : (toValue json).toOption.getD .null = valueOf json := by
  unfold valueOf
  cases toValue json <;> rfl

/-- The placeholders of a list. -/
theorem spells_members (first : Json) (rest : List Json) :
    Layout.Spells (Template.join ", " ((first :: rest).map fun item => [.hole (.listValue item)]))
      (listOf (boundTerm (valueOf first))
        (rest.map fun item => boundTerm (valueOf item))).tokens := by
  induction rest generalizing first with
  | nil =>
    have mark : Reads .start "?" [.mark ()] .start := rfl
    exact ⟨mark.spelled, congrArg (· :: []) (valueOf_eq first)⟩
  | cons second rest ih =>
    have mark : Reads .start "?" [.mark ()] .start := rfl
    have comma : Reads .start ", " [.symbol .comma] .start := rfl
    refine ⟨?_, ?_⟩
    · have text := mark.then (comma.then (ih second).text)
      simpa only [List.map_cons, Template.join, Layout.text, Template.spell_append, Template.spell,
        Piece.spell, fragment_listValue, String.append_empty, String.append_assoc, listOf, Ast.tokens,
        boundTerm, List.map_append, Token.erase, List.append_nil, List.singleton_append] using text
    · have values := (ih second).values
      simp only [List.map_cons, Template.join, Layout.values_append, Layout.values_text,
        Layout.values_hole, Layout.values_nil, List.append_nil, Element.value, valueOf_eq, listOf,
        Ast.tokens, boundTerm, bounds_cons, Token.bound, List.nil_append,
        List.singleton_append] at values ⊢
      rw [values]

theorem Layout.Spells.test {layout : Layout} {test : Test} (spells : layout.Spells test.tokens) :
    layout.SpellsTests [test] := ⟨List.cons_ne_nil _ _, spells⟩

theorem spells_constant (holds : Bool) :
    Layout.Spells [.text (if holds then "1=1" else "1=0")] (constantTest holds).tokens := by
  cases holds with
  | true =>
    have reads : Reads .start "1=1" [.numeral "1", .symbol .eq] ⟨false, .word ['1']⟩ := rfl
    exact ⟨reads.closed rfl, rfl⟩
  | false =>
    have reads : Reads .start "1=0" [.numeral "1", .symbol .eq] ⟨false, .word ['0']⟩ := rfl
    exact ⟨reads.closed rfl, rfl⟩

theorem layoutIn_spells {column : String} (relation : RelationName rel)
    (ident : isIdent column = true) (value : Json) (negate : Bool) :
    (layoutIn (rel ++ "." ++ column) value negate).Spells
      (membershipTest negate (columnTerm rel (foldName column))
        ((asArray value).getD [])).tokens := by
  unfold layoutIn
  cases asArray value with
  | none => exact spells_constant negate
  | some items =>
    cases items with
    | nil => exact spells_constant negate
    | cons first rest =>
      have members := spells_members first rest
      have closing : Reads .start ")" [.symbol .closing] .start := rfl
      have named := spells_relation relation ident
      simp only [Option.getD_some, membershipTest]
      refine ⟨?_, ?_⟩
      · cases negate with
        | false =>
          have opening : Reads .start " IN (" [.key .IN, .symbol .opening] .start := rfl
          have text := named.then rfl opening (members.text.reads rfl closing).spelled
          simpa only [Bool.false_eq_true, ↓reduceIte, Layout.text, Template.spell_append,
            Template.spell, Piece.spell, String.append_empty, String.append_assoc, Ast.tokens,
            columnTerm, enclosed, List.map_append, List.map_cons, List.map_nil, Token.erase,
            List.append_assoc, List.cons_append, List.nil_append] using text
        | true =>
          have opening : Reads .start " NOT IN (" [.key .NOT, .key .IN, .symbol .opening] .start :=
            rfl
          have text := named.then rfl opening (members.text.reads rfl closing).spelled
          simpa only [↓reduceIte, Layout.text, Template.spell_append,
            Template.spell, Piece.spell, String.append_empty, String.append_assoc, Ast.tokens,
            columnTerm, enclosed, List.map_append, List.map_cons, List.map_nil, Token.erase,
            List.append_assoc, List.cons_append, List.nil_append] using text
      · have unmarked : bounds (if negate then [.key .NOT] else [] : List (Token Value)) = [] := by
          cases negate <;> rfl
        simp only [Layout.values_append, Layout.values_text, Layout.values_nil, List.nil_append,
          List.append_nil, members.values, Ast.tokens, columnTerm, enclosed, bounds_append,
          bounds_cons, Token.bound, bounds_nil, unmarked]

theorem layoutPredicate_spells {p : Predicate} (relation : RelationName rel)
    (ident : isIdent p.column = true) :
    (layoutPredicate rel p).Spells (predicateTest rel p).tokens := by
  have simple {symbol : String} (binary : binaryCmpSymbol p.op = some symbol) :
      Layout.Spells [.hole (.filterValue rel symbol p)]
        (Ast.compare p.op.comparison (columnTerm rel (foldName p.column))
          (boundTerm (valueOf p.value))).tokens := by
    refine ⟨?_, ?_⟩
    · have text := spells_comparison relation ident binary
      simpa only [Layout.text, Template.spell, Piece.spell, fragment_filterValue,
        String.append_empty, Ast.tokens, columnTerm, boundTerm, List.map_append, List.map_cons,
        List.map_nil, Token.erase, erase_comparison, List.append_nil, List.cons_append,
        List.nil_append] using text
    · simp only [Layout.values_hole, Layout.values_nil, List.map_cons, List.map_nil, Element.value,
        valueOf_eq, Ast.tokens, columnTerm, boundTerm, bounds_append, bounds_cons, Token.bound,
        bounds_nil, bounds_comparison, List.nil_append, List.append_nil]
  have among := fun negate => layoutIn_spells relation ident p.value negate
  unfold layoutPredicate predicateTest
  cases op : p.op <;> rw [op] at simple <;>
    first
      | exact simple rfl
      | exact among false
      | exact among true

end

/-! ### Events -/

section
variable {rel userKey baseKey tsColumn tenant alias_ : String} {predicate : Option Predicate}

theorem tenant_spells (relation : RelationName rel) :
    Layout.SpellsTests [.hole (.tenant rel tenant)] [tenantTest rel tenant] := by
  have dotted : (".tenant_id = ?" : String) = "." ++ ("tenant_id" ++ " = ?") := rfl
  have test : Reads .start " = ?" [.symbol .eq, .mark ()] .start := rfl
  have text := (spells_relation relation (rfl : isIdent "tenant_id" = true)).reads rfl test
  refine Layout.Spells.test ⟨?_, rfl⟩
  simp only [Layout.text, Template.spell, Piece.spell, fragment_tenant, String.append_empty, dotted,
    String.append_assoc] at text ⊢
  exact text.spelled

theorem sameUser_spells (user : isIdent userKey = true) (key : isIdent baseKey = true) :
    Layout.SpellsTests [.text ("e." ++ userKey ++ " = base." ++ baseKey)]
      [sameUserTest "e" (foldName userKey) baseKey] := by
  have event : Reads .start "e." [] ⟨false, .dotted "e".toList []⟩ := rfl
  have base : Reads .start " = base." [.symbol .eq] ⟨false, .dotted "base".toList []⟩ := rfl
  have text := event.then ((reads_dotted (isIdent_words user)).then
    (base.behind (close_column relation_event) rfl
      ((reads_dotted (isIdent_words key)).closed (close_column relation_base))))
  refine Layout.Spells.test ⟨?_, rfl⟩
  simp only [Layout.text, Template.spell, Piece.spell, String.append_empty, String.append_assoc]
  exact text

theorem toString_digits (n : Nat) : ∀ c ∈ (toString n).toList, c.isDigit = true := fun _ member =>
  Nat.isDigit_of_mem_toDigits (by decide) (by decide) (Nat.toList_repr ▸ member)

theorem toString_unquoted (n : Nat) : '\'' ∉ (toString n).toList := fun member =>
  absurd (toString_digits n _ member) (by decide)

theorem window_spells {symbol : String} {comparison : Comparison}
    (compares : (symbol, comparison) ∈ [(">=", Comparison.ge), ("<", .lt)])
    (ident : isIdent tsColumn = true) (withinDays : Nat) :
    Layout.SpellsTests [.text (windowTest tsColumn symbol withinDays)]
      [withinTest tsColumn comparison withinDays] := by
  have cast : Reads .start "CAST(e." [.key .CAST, .symbol .opening] ⟨false, .dotted "e".toList []⟩ :=
    rfl
  have middle : Reads .start
      (" AS TIMESTAMP) " ++ (symbol ++ " CAST(now() AS TIMESTAMP) - INTERVAL '"))
      ([.label "timestamp", .symbol .closing] ++ (comparison.tokens ++ [.key .CAST,
        .symbol .opening, .name "now", .symbol .opening, .symbol .closing, .label "timestamp",
        .symbol .closing, .symbol .minus, .key .INTERVAL])) ⟨false, .quote []⟩ ∧
      (" AS TIMESTAMP) " ++ (symbol ++ " CAST(now() AS TIMESTAMP) - INTERVAL '")).toList.head?.any
        isDelimiter = true := by
    simp only [List.mem_cons, List.not_mem_nil, or_false, Prod.mk.injEq] at compares
    rcases compares with ⟨rfl, rfl⟩ | ⟨rfl, rfl⟩ <;> decide +kernel
  have day : Reads ⟨false, .quote (toString withinDays).toList⟩ "' DAY"
      [.quoted (toString withinDays)] ⟨false, .word ['D', 'A', 'Y']⟩ := by
    have read : Reads ⟨false, .quote (toString withinDays).toList⟩ "' DAY"
      [.quoted (String.ofList (toString withinDays).toList)] ⟨false, .word ['D', 'A', 'Y']⟩ := rfl
    rwa [String.ofList_toList] at read
  have unit : Reader.close ⟨false, .word ['D', 'A', 'Y']⟩ = some [.name "day"] := by decide +kernel
  have text := cast.then ((reads_dotted (isIdent_words ident)).then
    (middle.1.behind (close_column relation_event) middle.2
      ((reads_quote [] (toString_unquoted withinDays)).then (day.closed unit))))
  refine Layout.Spells.test ⟨?_, ?_⟩
  · simp only [Layout.text, Template.spell, Piece.spell, windowTest, String.append_empty,
      String.append_assoc] at text ⊢
    simpa only [withinTest, daysAgo, castTerm, callTerm, columnTerm, Ast.tokens, enclosed,
      List.map_append, List.map_cons, List.map_nil, Token.erase, erase_comparison, List.append_assoc,
      List.cons_append, List.nil_append, List.append_nil] using text
  · simp only [Layout.values_text, Layout.values_nil, List.map_nil, withinTest, daysAgo, castTerm,
      callTerm, columnTerm, Ast.tokens, enclosed, bounds_append, bounds_cons, Token.bound,
      bounds_comparison, List.cons_append, List.nil_append, List.append_nil, bounds_nil]

/-- What the event condition of a window is laid out from. -/
theorem event_spells {symbol : String} {comparison : Comparison}
    (compares : (symbol, comparison) ∈ [(">=", Comparison.ge), ("<", .lt)])
    {event : Dataset} (window : NamedWindow event userKey tsColumn predicate)
    (key : isIdent baseKey = true) (withinDays : Nat) :
    Layout.SpellsTests (Template.join " AND " (layoutEvent userKey baseKey predicate tenant ++
        [[.text (windowTest tsColumn symbol withinDays)]]))
      (sameUserTest "e" (foldName userKey) baseKey ::
        (eventTests predicate tenant ++ [withinTest tsColumn comparison withinDays])) := by
  have user := sameUser_spells window.userKey key
  have own := @tenant_spells "e" tenant relation_event
  have within := window_spells compares window.tsColumn withinDays
  cases predicate with
  | none =>
    exact @spells_join [(_, _), (_, _), (_, _)] (List.cons_ne_nil _ _)
      (by simp only [List.forall_mem_cons]; exact ⟨user, own, within, by simp⟩)
  | some p =>
    have test := (layoutPredicate_spells relation_event (window.predicate p rfl)).test
    exact @spells_join [(_, _), (_, _), (_, _), (_, _)] (List.cons_ne_nil _ _)
      (by simp only [List.forall_mem_cons]; exact ⟨user, own, test, within, by simp⟩)

theorem probe_tokens (source : Aliased) (first : Test) (rest : List Test) (groups : List ColumnRef)
    (having : Ast Value (.clause .HAVING)) :
    (probe source first rest groups having).tokens =
      [.key .SELECT, .numeral "1", .key .FROM, .column source.catalog source.table,
        .name source.alias_, .key .WHERE] ++
        (testTokens (first :: rest) ++ (groupTokens groups ++ having.tokens)) := by
  simp only [probe, numeralTerm, Aliased.phrase, Ast.tokens, conjunction_tokens, labelTokens,
    calledTokens, orderTokens, limitTokens, Bool.false_eq_true, ↓reduceIte, List.cons_append,
    List.nil_append, List.append_nil]

/-- The text that opens a sub-select in an `EXISTS`. -/
def opening (negated : Bool) : String :=
  if negated then "NOT EXISTS (SELECT 1 FROM " else "EXISTS (SELECT 1 FROM "

section
variable {negated : Bool} {tableText called joinText restText : String} {source : Aliased}
  {first : Test} {rest : List Test} {groups : List ColumnRef} {having : Ast Value (.clause .HAVING)}

theorem probe_reads
    (table : Sql.Spells tableText [.column source.catalog source.table])
    (spaced : called.toList.head?.any isDelimiter = true)
    (calls : Reads .start called [.name source.alias_, .key .WHERE] .start)
    (tests : Sql.Spells joinText ((testTokens (first :: rest)).map Token.erase))
    (delimited : restText.toList.head?.any isDelimiter = true)
    (closes : Reads .start restText
      ((groupTokens groups ++ having.tokens).map Token.erase ++ [.symbol .closing]) .start) :
    Reads .start (opening negated ++ (tableText ++ (called ++ (joinText ++ restText))))
      ((Ast.exist negated (probe source first rest groups having)).tokens.map Token.erase)
      .start := by
  have opens : Reads .start (opening negated) ((if negated then [.key .NOT] else []) ++
      [.key .EXISTS, .symbol .opening, .key .SELECT, .numeral "1", .key .FROM]) .start := by
    cases negated <;> rfl
  have whole := opens.append ((table.reads spaced calls).append (tests.reads delimited closes))
  have sign : (if negated then [.key .NOT] else [] : List (Token Value)).map Token.erase =
      if negated then [.key .NOT] else [] := by
    cases negated <;> rfl
  simpa only [Ast.tokens, probe_tokens, enclosed, sign, List.map_append, List.map_cons, List.map_nil,
    Token.erase, String.append_assoc, List.append_assoc, List.cons_append, List.nil_append]
    using whole

theorem probe_bounds :
    bounds (Ast.exist negated (probe source first rest groups having)).tokens =
      bounds (testTokens (first :: rest)) ++ (bounds (groupTokens groups) ++ bounds having.tokens) := by
  have sign : bounds (if negated then [.key .NOT] else [] : List (Token Value)) = [] := by
    cases negated <;> rfl
  simp only [Ast.tokens, probe_tokens, enclosed, sign, bounds_append, bounds_cons, bounds_nil,
    Token.bound, List.nil_append, List.append_nil]

end

theorem table_reads : Reads .start " e WHERE " [.name "e", .key .WHERE] .start := rfl

theorem closing_reads : Reads .start ")" [.symbol .closing] .start := rfl

/-- An event window, from the layout of its condition. -/
theorem windowProbe_reads {symbol : String} {comparison : Comparison}
    (compares : (symbol, comparison) ∈ [(">=", Comparison.ge), ("<", .lt)])
    {event : Dataset} (window : NamedWindow event userKey tsColumn predicate)
    (key : isIdent baseKey = true) (alias_ident : isIdent alias_ = true) (withinDays : Nat)
    (negated : Bool) :
    Reads .start (opening negated ++ (rawTable event alias_ ++ (" e WHERE " ++
        (Layout.text (Template.join " AND " (layoutEvent userKey baseKey predicate tenant ++
          [[.text (windowTest tsColumn symbol withinDays)]])) ++ ")"))))
      ((Ast.exist negated (windowProbe event userKey baseKey tsColumn comparison withinDays predicate
        alias_ tenant)).tokens.map Token.erase) .start :=
  probe_reads (spells_rawTable window.event alias_ident) rfl table_reads
    (event_spells compares window key withinDays).spells.text rfl closing_reads

theorem windowProbe_values {symbol : String} {comparison : Comparison}
    (compares : (symbol, comparison) ∈ [(">=", Comparison.ge), ("<", .lt)])
    {event : Dataset} (window : NamedWindow event userKey tsColumn predicate)
    (key : isIdent baseKey = true) (withinDays : Nat) (negated : Bool) :
    (Layout.values (Template.join " AND " (layoutEvent userKey baseKey predicate tenant ++
        [[.text (windowTest tsColumn symbol withinDays)]]))).map (·.getD .null) =
      bounds (Ast.exist negated (windowProbe event userKey baseKey tsColumn comparison withinDays
        predicate alias_ tenant)).tokens := by
  rw [windowProbe, probe_bounds, (event_spells compares window key withinDays).spells.values]
  exact (List.append_nil _).symm

theorem layoutRecency_spells {event : Dataset}
    (window : NamedWindow event userKey tsColumn predicate) (key : isIdent baseKey = true)
    (alias_ident : isIdent alias_ = true) (withinDays : Nat) :
    (layoutRecency event userKey baseKey tsColumn withinDays predicate alias_ tenant).SpellsTests
      [.exist false (windowProbe event userKey baseKey tsColumn .ge withinDays predicate alias_
        tenant)] := by
  have listed : (">=", Comparison.ge) ∈ [(">=", Comparison.ge), ("<", .lt)] := List.mem_cons_self
  have text := (@windowProbe_reads userKey baseKey tsColumn tenant alias_ predicate _ _ listed event
    window key alias_ident withinDays false).spelled
  have values := @windowProbe_values userKey baseKey tsColumn tenant alias_ predicate _ _ listed event
    window key withinDays false
  refine Layout.Spells.test ⟨?_, ?_⟩
  · simpa only [layoutRecency, Layout.text, Template.spell_append, Template.spell, Piece.spell,
      opening, Bool.false_eq_true, ↓reduceIte, String.append_empty, String.append_assoc] using text
  · simpa only [layoutRecency, Layout.values_append, Layout.values_text, Layout.values_nil,
      List.nil_append, List.append_nil] using values

theorem layoutLapsed_spells {event : Dataset}
    (window : NamedWindow event userKey tsColumn predicate) (key : isIdent baseKey = true)
    (alias_ident : isIdent alias_ = true) (withinDays : Nat) :
    (layoutLapsed event userKey baseKey tsColumn withinDays predicate alias_ tenant).SpellsTests
      [.exist false (windowProbe event userKey baseKey tsColumn .lt withinDays predicate alias_
          tenant),
        .exist true (windowProbe event userKey baseKey tsColumn .ge withinDays predicate alias_
          tenant)] := by
  have ge : (">=", Comparison.ge) ∈ [(">=", Comparison.ge), ("<", .lt)] := List.mem_cons_self
  have lt : ("<", Comparison.lt) ∈ [(">=", Comparison.ge), ("<", .lt)] :=
    List.mem_cons_of_mem _ List.mem_cons_self
  have before := @windowProbe_reads userKey baseKey tsColumn tenant alias_ predicate _ _ lt event
    window key alias_ident withinDays false
  have recent := @windowProbe_reads userKey baseKey tsColumn tenant alias_ predicate _ _ ge event
    window key alias_ident withinDays true
  have text := (before.append (and_reads.append recent)).spelled
  have regrouped : (") AND NOT EXISTS (SELECT 1 FROM " : String) =
      ")" ++ (" AND " ++ "NOT EXISTS (SELECT 1 FROM ") := rfl
  refine ⟨List.cons_ne_nil _ _, ?_, ?_⟩
  · simpa only [layoutLapsed, regrouped, Layout.text, Template.spell_append, Template.spell,
      Piece.spell, opening, Bool.false_eq_true, ↓reduceIte, String.append_empty, String.append_assoc,
      testTokens, List.map_append, List.map_cons, Token.erase, List.singleton_append] using text
  · simp only [layoutLapsed, Layout.values_append, Layout.values_text, Layout.values_nil,
      List.nil_append, List.append_nil, List.map_append, testTokens, bounds_append, bounds_cons,
      Token.bound]
    rw [windowProbe_values lt window key withinDays false,
      windowProbe_values ge window key withinDays true]

end

/-! ### Suppression and features -/

section
variable {baseKey : String}

/-- The user of an engine table is the key of the base row. -/
theorem userKey_spells {rel literal : String}
    (reads : Reads .start literal [.column rel "user_id", .symbol .eq]
      ⟨false, .dotted "base".toList []⟩) (key : isIdent baseKey = true) :
    Sql.Spells (literal ++ baseKey)
      ((testTokens [sameUserTest rel "user_id" baseKey]).map Token.erase) :=
  reads.then ((reads_dotted (isIdent_words key)).closed (close_column relation_base))

theorem relation_suppression : RelationName "s" :=
  ⟨by decide, List.all_eq_true.mp (by decide), by decide, by decide⟩

theorem relation_feature : RelationName "f" :=
  ⟨by decide, List.all_eq_true.mp (by decide), by decide, by decide⟩

/-- One more test behind the tests of a condition. -/
theorem spells_and {first second : String} {test : Test} {right : List Test} (some_ : right ≠ [])
    (here : Sql.Spells first ((testTokens [test]).map Token.erase))
    (there : Sql.Spells second ((testTokens right).map Token.erase)) :
    Sql.Spells (first ++ (" AND " ++ second)) ((testTokens (test :: right)).map Token.erase) := by
  have text := here.then rfl and_reads there
  have split := @testTokens_append [test] right (List.cons_ne_nil _ _) some_
  rw [List.singleton_append] at split
  rw [split]
  simpa only [List.map_append, List.map_cons, Token.erase, List.singleton_append] using text

theorem tenant_text {rel : String} (relation : RelationName rel) (tenant : String) :
    Sql.Spells (rel ++ ".tenant_id = ?") ((testTokens [tenantTest rel tenant]).map Token.erase) := by
  have text := (@tenant_spells rel tenant relation).spells.text
  simpa only [Layout.text, Template.spell, Piece.spell, fragment_tenant, String.append_empty]
    using text

theorem suppression_table {alias_ : String} (ident : isIdent alias_ = true) :
    Sql.Spells (alias_ ++ ("." ++ "suppression")) [.column (foldName alias_) "suppression"] :=
  spells_stored ident (List.all_eq_true.mp (by decide)) (by decide)

theorem suppression_reads : Reads .start " s WHERE " [.name "s", .key .WHERE] .start := rfl

theorem suppression_split : (".suppression s WHERE s.user_id = base." : String) =
    "." ++ ("suppression" ++ (" s WHERE " ++ "s.user_id = base.")) := rfl

theorem layoutNoRepeat_spells (campaignId : String) (key : isIdent baseKey = true)
    (opts : CompileOptions) :
    (layoutNoRepeat campaignId baseKey opts).Spells
      (noRepeatTest campaignId baseKey opts).tokens := by
  have user := @userKey_spells baseKey "s" "s.user_id = base." rfl key
  have campaign : Reads .start "s.campaign_id = ?" [.column "s" "campaign_id", .symbol .eq, .mark ()]
      .start := rfl
  have actions : Reads .start "s.action IN ('targeted', 'delivered')" [.column "s" "action", .key .IN,
      .symbol .opening, .quoted "targeted", .symbol .comma, .quoted "delivered", .symbol .closing]
      .start := by decide +kernel
  have split : (" AND s.action IN ('targeted', 'delivered'))" : String) =
      " AND " ++ ("s.action IN ('targeted', 'delivered')" ++ ")") := rfl
  have tests := spells_and (List.cons_ne_nil _ _) user
    (spells_and (List.cons_ne_nil _ _) (tenant_text relation_suppression opts.tenant)
      (@spells_and _ _ (.compare .eq (columnTerm "s" "campaign_id") (boundTerm (.text campaignId)))
        [.isIn false (columnTerm "s" "action")
          (listOf (quotedTerm "targeted") [quotedTerm "delivered"])]
        (List.cons_ne_nil _ _) campaign.spelled actions.spelled))
  have text := (@probe_reads true _ _ _ _ (suppressionAliased opts.catalogAlias) _ _ []
    (.noClause .HAVING) (suppression_table opts.alias_ident) rfl suppression_reads tests rfl
    closing_reads).spelled
  refine ⟨?_, rfl⟩
  simpa only [layoutNoRepeat, noRepeatTest, suppression_split, split, Layout.text, Template.spell, Piece.spell,
    fragment_tenant, fragment_campaign, opening, ↓reduceIte, String.append_empty,
    String.append_assoc] using text

theorem layoutCap_spells (cap : FrequencyCap) (key : isIdent baseKey = true)
    (opts : CompileOptions) :
    (layoutCap cap baseKey opts).Spells (capTest cap baseKey opts).tokens := by
  have user := @userKey_spells baseKey "s" "s.user_id = base." rfl key
  have action : Reads .start "s.action = 'targeted'" [.column "s" "action", .symbol .eq,
      .quoted "targeted"] .start := rfl
  have since : Reads .start ("s.occurred_ts >= " ++ "CAST(CAST(now() AS TIMESTAMP) - INTERVAL '")
      [.column "s" "occurred_ts", .symbol .ge, .key .CAST, .symbol .opening, .key .CAST,
        .symbol .opening, .name "now", .symbol .opening, .symbol .closing, .label "timestamp",
        .symbol .closing, .symbol .minus, .key .INTERVAL] ⟨false, .quote []⟩ := by decide +kernel
  have day : Reads ⟨false, .quote (toString cap.windowDays).toList⟩ "' DAY AS TIMESTAMPTZ)"
      [.quoted (toString cap.windowDays), .name "day", .label "timestamptz", .symbol .closing]
      .start := by
    have read : Reads ⟨false, .quote (toString cap.windowDays).toList⟩ "' DAY AS TIMESTAMPTZ)"
      [.quoted (String.ofList (toString cap.windowDays).toList), .name "day", .label "timestamptz",
        .symbol .closing] .start := rfl
    rwa [String.ofList_toList] at read
  have counted : Reads .start (" GROUP BY s.user_id HAVING " ++ ("count(*) >= ?" ++ ")"))
      [.key .GROUP, .key .BY, .column "s" "user_id", .key .HAVING, .name "count", .symbol .opening,
        .symbol .star, .symbol .closing, .symbol .ge, .mark (), .symbol .closing] .start := by
    decide +kernel
  have split : (" AND s.action = 'targeted' AND s.occurred_ts >= " : String) =
      " AND " ++ ("s.action = 'targeted'" ++ (" AND " ++ "s.occurred_ts >= ")) := rfl
  have ended : ("' DAY AS TIMESTAMPTZ) GROUP BY s.user_id HAVING " : String) =
      "' DAY AS TIMESTAMPTZ)" ++ " GROUP BY s.user_id HAVING " := rfl
  have recent := (since.append
    ((reads_quote [] (toString_unquoted cap.windowDays)).append day)).spelled
  have tests := spells_and (List.cons_ne_nil _ _) user
    (spells_and (List.cons_ne_nil _ _) (tenant_text relation_suppression opts.tenant)
      (@spells_and _ _ (.compare .eq (columnTerm "s" "action") (quotedTerm "targeted"))
        [.compare .ge (columnTerm "s" "occurred_ts")
          (castTerm (daysAgo cap.windowDays) "timestamptz")]
        (List.cons_ne_nil _ _) action.spelled recent))
  have text := (@probe_reads true _ _ _ _ (suppressionAliased opts.catalogAlias) _ _
    [⟨some "s", "user_id"⟩] (.clause .HAVING (.only (.compare .ge (callTerm "count" .star)
      (boundTerm (.bigInt cap.maxContacts))))) (suppression_table opts.alias_ident) rfl
    suppression_reads tests rfl counted).spelled
  refine ⟨?_, rfl⟩
  simpa only [layoutCap, capTest, suppression_split, split, ended, Layout.text, Template.spell, Piece.spell,
    fragment_tenant, fragment_contacts, opening, ↓reduceIte, String.append_empty,
    String.append_assoc] using text

theorem layoutExclude_spells (campaignId : String) (key : isIdent baseKey = true)
    (opts : CompileOptions) :
    (layoutExclude campaignId baseKey opts).SpellsTests (excludeTests campaignId baseKey opts) := by
  have own := (layoutNoRepeat_spells campaignId key opts).test
  have capped (cap : FrequencyCap) := (layoutCap_spells cap key opts).test
  unfold layoutExclude excludeTests
  cases opts.suppression.perCampaignNoRepeat <;> cases opts.suppression.frequencyCap with
  | none => first | exact own | exact (spells_constant true).test
  | some cap =>
    first
      | exact capped cap
      | exact @spells_join [(_, _), (_, _)] (List.cons_ne_nil _ _)
          (by simp only [List.forall_mem_cons]; exact ⟨own, capped cap, by simp⟩)

theorem feature_reads : Reads .start " f WHERE " [.name "f", .key .WHERE] .start := rfl

theorem cmpSymbol_binary {op : Cmp} {cmp : String} (symbol : cmpSymbol op = .ok cmp) :
    binaryCmpSymbol op = some cmp := by
  cases op <;> cases symbol <;> rfl

theorem layoutFeature_spells {name family short cmp catalogAlias tenant : String} {op : Cmp}
    (value : F64) (asOf : Option String) (split : splitFeatureName name = .ok (family, short))
    (symbol : cmpSymbol op = .ok cmp) (key : isIdent baseKey = true)
    (alias_ident : isIdent catalogAlias = true) :
    (layoutFeature family short cmp name value baseKey catalogAlias tenant asOf).Spells
      (featureTest name op value baseKey catalogAlias tenant asOf).tokens := by
  obtain ⟨delimited, compares⟩ := symbol_reads (cmpSymbol_binary symbol)
  have user := @userKey_spells baseKey "f" "f.user_id = base." rfl key
  have own := tenant_text relation_feature tenant
  have parts : featureParts name = (family, short) := by rw [featureParts, split]
  obtain ⟨family_ident, short_ident⟩ := splitFeatureName_ident split
  cases asOf with
  | some asOf =>
    have named : Reads .start "f.feature_name = ?" [.column "f" "feature_name", .symbol .eq, .mark ()]
        .start := rfl
    have bounded : Reads .start "f.as_of_ts <= CAST(? AS TIMESTAMPTZ)" [.column "f" "as_of_ts",
        .symbol .le, .key .CAST, .symbol .opening, .mark (), .label "timestamptz", .symbol .closing]
        .start := by decide +kernel
    have grouped : Reads .start (" GROUP BY f.user_id, f.feature_name HAVING " ++
        "arg_max(f.num_value, f.as_of_ts)") [.key .GROUP, .key .BY, .column "f" "user_id",
          .symbol .comma, .column "f" "feature_name", .key .HAVING, .name "arg_max",
          .symbol .opening, .column "f" "num_value", .symbol .comma, .column "f" "as_of_ts",
          .symbol .closing] .start := by decide +kernel
    have table : Sql.Spells (catalogAlias ++ ("." ++ "feature_store"))
        [.column (foldName catalogAlias) "feature_store"] :=
      spells_stored alias_ident (List.all_eq_true.mp (by decide)) (by decide)
    have started : (".feature_store f WHERE f.user_id = base." : String) =
        "." ++ ("feature_store" ++ (" f WHERE " ++ "f.user_id = base.")) := rfl
    have ended : ("arg_max(f.num_value, f.as_of_ts) " : String) =
        "arg_max(f.num_value, f.as_of_ts)" ++ " " := rfl
    have tests := spells_and (List.cons_ne_nil _ _) user (spells_and (List.cons_ne_nil _ _) own
      (@spells_and _ _ (.compare .eq (columnTerm "f" "feature_name") (boundTerm (.text name)))
        [.compare .le (columnTerm "f" "as_of_ts") (castTerm (boundTerm (.text asOf)) "timestamptz")]
        (List.cons_ne_nil _ _) named.spelled bounded.spelled))
    have closes := grouped.append (compares.append closing_reads)
    have text := (@probe_reads false _ _ _ _ ⟨foldName catalogAlias, "feature_store", "f"⟩ _ _
      [⟨some "f", "user_id"⟩, ⟨some "f", "feature_name"⟩]
      (.clause .HAVING (.only (.compare op.comparison (callTerm "arg_max" (.given
        (listOf (columnTerm "f" "num_value") [columnTerm "f" "as_of_ts"]))) (boundTerm (.double value)))))
      table rfl feature_reads tests
      (delimited_append (rfl : (" GROUP BY f.user_id, f.feature_name HAVING " ++
        "arg_max(f.num_value, f.as_of_ts)").toList.head?.any isDelimiter = true) _) (by
        simpa only [Ast.tokens, callTerm, listOf, columnTerm, boundTerm, enclosed, groupTokens,
          refTokens, ColumnRef.token, List.map_append, List.map_cons, List.map_nil, Token.erase,
          erase_comparison, List.append_assoc, List.cons_append, List.nil_append, List.append_nil]
          using closes)).spelled
    refine ⟨?_, ?_⟩
    · simpa only [layoutFeature, featureTest, started, ended, Layout.text, Template.spell,
        Piece.spell, fragment_tenant, fragment_featureName, fragment_cutOff,
        fragment_latestThreshold, opening, Bool.false_eq_true, ↓reduceIte, String.append_empty,
        String.append_assoc] using text
    · have unmarked := bounds_comparison op.comparison
      rw [featureTest, probe_bounds]
      simp only [Ast.tokens, callTerm, listOf, columnTerm, boundTerm, enclosed, bounds_append,
        bounds_cons, Token.bound, bounds_nil, unmarked, List.nil_append, List.append_nil]
      rfl
  | none =>
    have table : Sql.Spells (catalogAlias ++ ("." ++ ("feature_wide_" ++ family)))
        [.column (foldName catalogAlias) (foldName ("feature_wide_" ++ family))] := by
      refine spells_stored alias_ident ?_ ?_
      · rw [String.toList_append, List.forall_mem_append]
        exact ⟨List.all_eq_true.mp (by decide), isIdent_words family_ident⟩
      · rw [String.toList_append, List.all_append]
        exact (congrArg (· && _) (by decide : "feature_wide_".toList.all Char.isDigit = false)).trans
          (Bool.false_and _)
    have started : (" f WHERE f.user_id = base." : String) = " f WHERE " ++ "f.user_id = base." := rfl
    have dotted : (".feature_wide_" : String) = "." ++ "feature_wide_" := rfl
    have column : ("f." : String) = "f" ++ "." := rfl
    have compared := ((spells_relation relation_feature short_ident).reads delimited compares).spelled
    have tests := spells_and (List.cons_ne_nil _ _) user
      (@spells_and _ _ (tenantTest "f" tenant)
        [.compare op.comparison (columnTerm "f" (foldName short)) (boundTerm (.double value))]
        (List.cons_ne_nil _ _) own (by
          simpa only [testTokens, Ast.tokens, columnTerm, boundTerm, List.map_append, List.map_cons,
            List.map_nil, Token.erase, erase_comparison, List.append_nil, List.cons_append,
            List.nil_append] using compared))
    have text := (@probe_reads false _ _ _ _ ⟨foldName catalogAlias,
      foldName ("feature_wide_" ++ family), "f"⟩ _ _ [] (.noClause .HAVING) table rfl feature_reads
      tests rfl closing_reads).spelled
    refine ⟨?_, ?_⟩
    · simpa only [layoutFeature, featureTest, parts, started, dotted, column, Layout.text,
        Template.spell, Piece.spell, fragment_tenant, fragment_wideThreshold, opening,
        Bool.false_eq_true, ↓reduceIte, String.append_empty, String.append_assoc] using text
    · have unmarked := bounds_comparison op.comparison
      rw [featureTest, probe_bounds]
      simp only [testTokens, sameUserTest, tenantTest, Ast.tokens, columnTerm, boundTerm,
        bounds_append, bounds_cons, Token.bound, bounds_nil, unmarked, List.nil_append,
        List.append_nil]
      rfl

end

/-! ### Levels -/

section
variable {opts : CompileOptions} {source : Dataset} {key : String}

/-- The conjunct of an operation spells its tests. -/
theorem layoutConjunct_spells {isRfc3339 : String → Bool} {asOf : Option String} {op : Op}
    (valid : validateOp isRfc3339 op = .ok ()) (narrows : op.narrows = true)
    (key_ident : isIdent key = true) :
    (layoutConjunct opts key asOf op).SpellsTests (opTests opts key asOf op) := by
  cases op with
  | filter predicate =>
    exact (layoutPredicate_spells relation_base (validatePredicate_ok valid)).test
  | recency event userKey tsColumn withinDays predicate =>
    exact layoutRecency_spells (validateWindow_ok valid) key_ident opts.alias_ident withinDays
  | lapsed event userKey tsColumn withinDays predicate =>
    exact layoutLapsed_spells (validateWindow_ok valid) key_ident opts.alias_ident withinDays
  | exclude campaignId => exact layoutExclude_spells campaignId key_ident opts
  | feature name op value =>
    obtain ⟨family, short, split⟩ := validateFeature_ok valid
    obtain ⟨cmp, symbol⟩ : ∃ cmp, cmpSymbol op = .ok cmp := by
      obtain ⟨⟨_, _⟩, _, rest⟩ := except_bind_eq_ok.mp valid
      cases op <;> first | exact ⟨_, rfl⟩ | cases rest
    rw [layoutConjunct, split, symbol]
    exact (layoutFeature_spells value asOf split symbol key_ident opts.alias_ident).test
  | _ => cases narrows

/-- The layouts of the conjuncts gathered so far, and the tests they spell. -/
abbrev Parts : Type := List (Layout × List Test)

theorem layoutBase_spells {parts : Parts} {tests : List Test}
    (each : ∀ part ∈ parts, part.1.SpellsTests part.2) (some_ : parts ≠ [])
    (gathered : parts.flatMap Prod.snd = tenantTest "base" opts.tenant :: tests)
    (named : NamedDataset source) (key_ident : isIdent key = true) :
    (layoutBase source key (parts.map Prod.fst) opts.catalogAlias).Spells
      (basePhrase opts source key tests none none).tokens := by
  have all := (spells_join some_ each).spells
  rw [gathered] at all
  have selects : Reads .start "SELECT DISTINCT base." [.key .SELECT, .key .DISTINCT]
      ⟨false, .dotted "base".toList []⟩ := rfl
  have from_ : Reads .start " FROM " [.key .FROM] .start := rfl
  have where_ : Reads .start " base WHERE " [.name "base", .key .WHERE] .start := rfl
  have text := selects.then ((reads_dotted (isIdent_words key_ident)).then
    (from_.behind (close_column relation_base) rfl
      ((spells_rawTable named opts.alias_ident).then rfl where_ all.text)))
  refine ⟨?_, ?_⟩
  · simpa only [layoutBase, basePhrase, rawAliased, Aliased.phrase, columnTerm, Ast.tokens,
      conjunction_tokens, labelTokens, calledTokens, groupTokens, orderTokens, limitTokens,
      Layout.text, Template.spell_append, Template.spell, Piece.spell, ↓reduceIte,
      List.map_append, List.map_cons, List.map_nil, Token.erase, String.append_empty,
      String.append_assoc, List.append_assoc, List.cons_append, List.nil_append, List.append_nil]
      using text
  · simp only [layoutBase, basePhrase, rawAliased, Aliased.phrase, columnTerm, Ast.tokens,
      conjunction_tokens, labelTokens, calledTokens, groupTokens, orderTokens, limitTokens,
      ↓reduceIte, Layout.values_text, bounds_cons, Token.bound, List.nil_append, List.append_nil,
      List.cons_append, all.values]

theorem aggregate_spells {metric : JitMetric}
    (columns : ∀ column ∈ metricColumn metric, isIdent column = true) :
    Sql.Spells (aggregateOf metric) ((aggregateTerm metric).tokens.map Token.erase) := by
  have measured {function column opening : String}
      (opens : Reads .start opening [.name function, .symbol .opening, .key .CAST, .symbol .opening]
        ⟨false, .dotted "e".toList []⟩) (ident : isIdent column = true) :
      Sql.Spells (opening ++ (column ++ " AS DOUBLE))"))
        ((aggregateTerm.summedUp function column).tokens.map Token.erase) := by
    have closes : Reads .start " AS DOUBLE))" [.label "double", .symbol .closing, .symbol .closing]
        .start := rfl
    have text := opens.then ((reads_dotted (isIdent_words ident)).then
      (Reads.finish (close_column relation_event) rfl closes).spelled)
    simpa only [aggregateTerm.summedUp, callTerm, castTerm, columnTerm, Ast.tokens, enclosed,
      List.map_append, List.map_cons, List.map_nil, Token.erase, List.append_assoc,
      List.cons_append, List.nil_append, List.append_nil] using text
  cases metric with
  | count event =>
    have reads : Reads .start "count(*)" [.name "count", .symbol .opening, .symbol .star,
        .symbol .closing] .start := rfl
    exact reads.spelled
  | sum event column | avg event column | min event column | max event column =>
    have ident := columns column rfl
    rw [aggregateOf, String.append_assoc]
    exact measured (by decide +kernel) ident

theorem bounds_aggregate (metric : JitMetric) : bounds (aggregateTerm metric).tokens = [] := by
  cases metric <;> rfl

theorem layoutDerive_spells {parts : Parts} {tests : List Test} {name : String}
    {metric : JitMetric} (each : ∀ part ∈ parts, part.1.SpellsTests part.2) (some_ : parts ≠ [])
    (gathered : parts.flatMap Prod.snd = tenantTest "base" opts.tenant :: tests)
    (named : NamedDataset source) (key_ident : isIdent key = true) (limit : Nat)
    (measured : NamedDataset (metricEvent metric) ∧
      ∀ column ∈ metricColumn metric, isIdent column = true) :
    (layoutDerive opts source key (parts.map Prod.fst) limit name metric).Spells
      (metricPhrase (basePhrase opts source key tests (some "user_id") (some (toString limit))) name
        metric opts.catalogAlias opts.tenant).tokens := by
  have all := (spells_join some_ each).spells
  rw [gathered] at all
  have opens : Reads .start "WITH survivor AS (" [.key .WITH, .name "survivor", .key .AS,
      .symbol .opening] .start := rfl
  have selects : Reads .start "SELECT DISTINCT base." [.key .SELECT, .key .DISTINCT]
      ⟨false, .dotted "base".toList []⟩ := rfl
  have from_ : Reads .start " AS user_id FROM " [.label "user_id", .key .FROM] .start := rfl
  have where_ : Reads .start (" base" ++ " WHERE ") [.name "base", .key .WHERE] .start := rfl
  have limited : Reads .start " LIMIT " [.key .LIMIT] .start := rfl
  have digits : Sql.Spells (toString limit) [.numeral (toString limit)] :=
    spells_digits (by
      rw [Nat.toString_eq_repr, Nat.toList_repr]
      exact Nat.toDigits_ne_nil) (toString_digits limit)
  have outer : Reads .start (") SELECT " ++ ("? AS name" ++ ", "))
      [.symbol .closing, .key .SELECT, .mark (), .label "name", .symbol .comma] .start := by
    decide +kernel
  have joins : Reads .start " AS value FROM survivor s JOIN " [.label "value", .key .FROM,
      .name "survivor", .name "s", .key .JOIN] .start := by decide +kernel
  have on_ : Reads .start " e ON e.user_id = s.user_id AND " [.name "e", .key .ON,
      .column "e" "user_id", .symbol .eq, .column "s" "user_id", .key .AND] .start := by
    decide +kernel
  have events := spells_rawTable measured.1 opts.alias_ident
  have text := opens.then (selects.then ((reads_dotted (isIdent_words key_ident)).then
    (from_.behind (close_column relation_base) rfl
      ((spells_rawTable named opts.alias_ident).then rfl where_
        (all.text.then rfl limited
          (digits.then rfl outer ((aggregate_spells measured.2).then rfl joins
            (events.then rfl on_ (tenant_text relation_event opts.tenant)))))))))
  refine ⟨?_, ?_⟩
  · simpa only [layoutDerive, metricPhrase, basePhrase, rawAliased, Aliased.phrase, columnTerm,
      boundTerm, Ast.tokens, conjunction_tokens, testTokens, labelTokens, calledTokens, groupTokens,
      orderTokens, limitTokens, enclosed, Layout.text, Template.spell_append, Template.spell,
      Piece.spell, fragment_tenant, fragment_metricName, ↓reduceIte, Bool.false_eq_true,
      Comparison.tokens, List.map_append, List.map_cons, List.map_nil, Token.erase, String.append_empty,
      String.append_assoc, List.append_assoc, List.cons_append, List.nil_append, List.append_nil]
      using text
  · simp only [layoutDerive, metricPhrase, basePhrase, rawAliased, Aliased.phrase, columnTerm,
      boundTerm, Ast.tokens, conjunction_tokens, testTokens, labelTokens, calledTokens, groupTokens,
      orderTokens, limitTokens, enclosed, ↓reduceIte, Layout.values_append, Layout.values_text,
      Layout.values_hole, Layout.values_nil, List.map_append, all.values, bounds_append, bounds_cons,
      bounds_nil, bounds_aggregate, Token.bound, Bool.false_eq_true, List.nil_append,
      List.append_nil, List.cons_append]
    rfl

theorem layoutCombine_spells {kind : SetOpKind} {this other : Layout}
    {left : Ast Value .select} {right : Ast Value .query} (here : this.Spells left.tokens)
    (there : other.Spells right.tokens) :
    Layout.Spells ([.text "("] ++ this ++ [.text ") ", .text (setopKeyword kind), .text " ("] ++
        other ++ [.text ")"])
      (Ast.combine kind.combination (.single left) right).tokens := by
  have opens : Reads .start "(" [.symbol .opening] .start := rfl
  have between : Reads .start (") " ++ (setopKeyword kind ++ " ("))
      [.symbol .closing, .key kind.combination.keyword, .symbol .opening] .start := by
    cases kind <;> rfl
  have delimited : (") " ++ (setopKeyword kind ++ " (")).toList.head?.any isDelimiter = true := by
    cases kind <;> rfl
  have closes : Reads .start ")" [.symbol .closing] .start := rfl
  have text := opens.then (here.text.then delimited between (there.text.reads rfl closes).spelled)
  refine ⟨?_, ?_⟩
  · simpa only [Ast.tokens, enclosed, Layout.text, Template.spell_append, Template.spell,
      Piece.spell, List.map_append, List.map_cons, List.map_nil, Token.erase, String.append_empty,
      String.append_assoc, List.append_assoc, List.cons_append, List.nil_append, List.append_nil]
      using text
  · simp only [Ast.tokens, enclosed, Layout.values_append, Layout.values_text,
      Layout.values_nil, List.map_append, here.values, there.values, bounds_append, bounds_cons,
      bounds_nil, Token.bound, List.nil_append, List.append_nil]

/-- A level that compiles is spelled as its phrase, given that its branches are. -/
theorem layoutOps_spells {isRfc3339 : String → Bool} {asOf : Option String} {depth : Nat}
    {ops : List Op} {gathered : Gathered} {compiled : CompiledQuery} {parts : Parts}
    {tests : List Test} (named : NamedDataset source) (key_ident : isIdent key = true)
    (valid : ∀ op ∈ ops, validateOp isRfc3339 op = .ok ())
    (branches : ∀ kind other, Op.setOp kind other ∈ ops → ∀ depth compiled,
      compileAt opts other depth = .ok compiled →
        (layoutQuery opts other).Spells (phraseAt opts other).tokens)
    (each : ∀ part ∈ parts, part.1.SpellsTests part.2) (some_ : parts ≠ [])
    (before : parts.flatMap Prod.snd = tenantTest "base" opts.tenant :: tests)
    (returned : compileOps opts source key asOf depth gathered ops = .ok compiled) :
    (layoutOps opts source key asOf (parts.map Prod.fst) ops).Spells
      (phraseOps opts source key asOf tests ops).tokens := by
  induction ops generalizing parts tests gathered with
  | nil => exact layoutBase_spells each some_ before named key_ident
  | cons op rest ih =>
    obtain ⟨here, later⟩ := List.forall_mem_cons.mp valid
    cases ends : op.ends with
    | false =>
      rw [compileOps_cons rest ends] at returned
      obtain ⟨after, pushed, compiled_⟩ := except_bind_eq_ok.mp returned
      have narrows : op.narrows = true := by
        cases op with
        | setOp | derive => cases ends
        | similar | characterize => cases pushed
        | _ => rfl
      have conjunct := @layoutConjunct_spells opts key isRfc3339 asOf op here narrows key_ident
      rw [layoutOps_cons rest ends, phraseOps_cons rest narrows]
      have extended := @ih after (parts ++ [(layoutConjunct opts key asOf op, opTests opts key asOf op)])
        (tests ++ opTests opts key asOf op) later
        (fun kind other member => branches kind other (List.mem_cons_of_mem _ member))
        (List.forall_mem_append.mpr ⟨each, List.forall_mem_singleton.mpr conjunct⟩)
        (by simp) (by simp [before]) compiled_
      simpa only [List.map_append, List.map_cons, List.map_nil] using extended
    | true =>
      cases op with
      | derive name metric =>
        rw [compileOps, compileDerive] at returned
        rw [layoutOps, phraseOps]
        cases injected : opts.deriveLimit with
        | none =>
          rw [injected] at returned
          cases returned
        | some limit =>
          exact layoutDerive_spells each some_ before named key_ident limit (validateDerive_ok here)
      | setOp kind other =>
        rw [compileOps] at returned
        split at returned
        case isFalse => cases returned
        case isTrue =>
          obtain ⟨inner, compiled_, -⟩ := except_bind_eq_ok.mp returned
          rw [layoutOps, phraseOps]
          exact layoutCombine_spells (layoutBase_spells each some_ before named key_ident)
            (branches kind other List.mem_cons_self _ _ compiled_)
      | _ => contradiction

theorem layoutLevel_spells {isRfc3339 : String → Bool} {q : SegmentQuery}
    (named : NamedDataset q.source) (key_ident : isIdent q.key = true)
    (valid : ∀ op ∈ q.ops, validateOp isRfc3339 op = .ok ())
    (branches : ∀ kind other, Op.setOp kind other ∈ q.ops → ∀ depth compiled,
      compileAt opts other depth = .ok compiled →
        (layoutQuery opts other).Spells (phraseAt opts other).tokens)
    {depth : Nat} {compiled : CompiledQuery} (returned : compileAt opts q depth = .ok compiled) :
    (layoutQuery opts q).Spells (phraseAt opts q).tokens := by
  obtain ⟨source, key, ops, asOf⟩ := q
  rw [compileAt] at returned
  split at returned
  case isTrue => cases returned
  case isFalse =>
    rw [layoutQuery, phraseAt]
    exact @layoutOps_spells opts source key isRfc3339 asOf depth ops _ compiled
      [([.hole (.tenant "base" opts.tenant)], [tenantTest "base" opts.tenant])] []
      named key_ident valid branches
      (List.forall_mem_singleton.mpr (tenant_spells relation_base)) (List.cons_ne_nil _ _) rfl
      returned

theorem layoutQuery_spells {isRfc3339 : String → Bool} (q : SegmentQuery)
    (valid : validate isRfc3339 q = .ok ()) :
    ∀ depth compiled, compileAt opts q depth = .ok compiled →
      (layoutQuery opts q).Spells (phraseAt opts q).tokens := by
  induction q using SegmentQuery.nested with
  | step q branches =>
    intro depth compiled returned
    have level := validate_ok valid
    exact layoutLevel_spells level.source level.key level.ops
      (fun kind other member => branches kind other member (level.ops _ member)) returned

/-- The segment of a profile, which is validated as part of its query. -/
theorem layoutSegment_spells {isRfc3339 : String → Bool} {q : SegmentQuery}
    (valid : validate isRfc3339 q = .ok ()) {depth : Nat} {compiled : CompiledQuery}
    (returned : compileAt opts (stripLastOp q) depth = .ok compiled) :
    (layoutQuery opts (stripLastOp q)).Spells (phraseAt opts (stripLastOp q)).tokens := by
  have level := validate_ok valid
  have inside := fun op (member : op ∈ (stripLastOp q).ops) => List.dropLast_subset _ member
  exact layoutLevel_spells level.source level.key (fun op member => level.ops op (inside op member))
    (fun kind other member => layoutQuery_spells other (level.ops _ (inside _ member))) returned

/-- The statement that a text and its parameters are. -/
theorem Layout.Emits.statement {layout : Layout} {sql : String} {params : List Value}
    {query : Ast Value .query} (emits : layout.Emits [] (sql, params))
    (spells : layout.Spells query.tokens) : statement sql params = some query := by
  have text : sql = layout.text := emits.text
  have bound : params.map some = layout.values := emits.values
  have values := spells.values
  rw [← bound, List.map_map] at values
  have whole := statement_eq (text ▸ spells.text.tokens_eq : tokens sql = query.tokens.map Token.erase)
  rwa [← values, show params.map ((·.getD Value.null) ∘ some) = params from List.map_id params]
    at whole

/-- What the compiler emits for a validated query is read as the query's phrase, its parameters
bound in order. -/
theorem compileAt_statement {isRfc3339 : String → Bool} {q : SegmentQuery} {depth : Nat}
    {compiled : CompiledQuery} (valid : validate isRfc3339 q = .ok ())
    (returned : compileAt opts q depth = .ok compiled) :
    statement compiled.sql compiled.params = some (phraseAt opts q) :=
  (compileAt_emits q depth compiled returned).statement (layoutQuery_spells q valid _ _ returned)

end

/-! ### Profiles -/

section
variable {columns label select tenant : String} {value : Term}

/-- A profile query is spelled from its segment, its column and its figures. -/
theorem layoutProfile_spells {segment : Layout} {query : Ast Value .query} {event : Dataset}
    {catalogAlias : String} {figures : Ast Value .ctes}
    (spelled : segment.Spells query.tokens)
    (column : Sql.Spells columns (value.tokens.map Token.erase ++ [.label label]))
    (unmarked : bounds value.tokens = []) (named : NamedDataset event)
    (alias_ident : isIdent catalogAlias = true)
    (figured : Sql.Spells select (figures.tokens.map Token.erase))
    (fixed : bounds figures.tokens = []) :
    (layoutProfile segment columns (rawTable event catalogAlias) select tenant).Spells
      (profilePhrase query value label event catalogAlias tenant figures).tokens := by
  have opens : Reads .start "WITH segment AS (" [.key .WITH, .name "segment", .key .AS,
      .symbol .opening] .start := rfl
  have events : Reads .start "), ev AS (SELECT e.user_id, " [.symbol .closing, .symbol .comma,
      .name "ev", .key .AS, .symbol .opening, .key .SELECT, .column "e" "user_id", .symbol .comma]
      .start := by decide +kernel
  have inside : Reads .start ", (s.user_id IS NOT NULL) AS in_seg FROM " [.symbol .comma,
      .symbol .opening, .column "s" "user_id", .key .IS, .key .NOT, .key .NULL, .symbol .closing,
      .label "in_seg", .key .FROM] .start := by decide +kernel
  have joins : Reads .start " e LEFT JOIN segment s ON s.user_id = e.user_id WHERE " [.name "e",
      .key .LEFT, .key .JOIN, .name "segment", .name "s", .key .ON, .column "s" "user_id",
      .symbol .eq, .column "e" "user_id", .key .WHERE] .start := by decide +kernel
  have closes : Reads .start ")" [.symbol .closing] .start := rfl
  have text := opens.then (spelled.text.then rfl events (column.then rfl inside
    ((spells_rawTable named alias_ident).then rfl joins
      ((tenant_text relation_event tenant).then rfl closes figured))))
  refine ⟨?_, ?_⟩
  · simpa only [layoutProfile, profilePhrase, eventsPhrase, rawAliased, Aliased.phrase, columnTerm,
      Ast.tokens, testTokens, labelTokens, calledTokens, groupTokens, orderTokens, limitTokens,
      enclosed, Comparison.tokens, Layout.text, Template.spell_append,
      Template.spell, Piece.spell, fragment_tenant, ↓reduceIte, Bool.false_eq_true, List.map_append,
      List.map_cons, List.map_nil, Token.erase, String.append_empty, String.append_assoc,
      List.append_assoc, List.cons_append, List.nil_append, List.append_nil] using text
  · simp only [layoutProfile, profilePhrase, eventsPhrase, rawAliased, Aliased.phrase, columnTerm,
      Ast.tokens, labelTokens, calledTokens, groupTokens, orderTokens, limitTokens,
      enclosed, Comparison.tokens, ↓reduceIte, Bool.false_eq_true, Layout.values_append,
      Layout.values_text, Layout.values_hole, Layout.values_nil, List.map_append, spelled.values,
      bounds_append, bounds_cons, bounds_nil, unmarked, fixed, Token.bound, List.nil_append,
      List.append_nil]
    rfl

theorem cast_spells {column type closing : String} (ident : isIdent column = true)
    (closes : Reads .start closing [.label type, .symbol .closing]
      ⟨true, .word label.toList⟩) (delimited : closing.toList.head?.any isDelimiter = true) :
    Sql.Spells ("CAST(e." ++ column ++ closing)
      ((castTerm (columnTerm "e" (foldName column)) type).tokens.map Token.erase ++
        [.label (String.ofList (fold label.toList))]) := by
  have opens : Reads .start "CAST(e." [.key .CAST, .symbol .opening] ⟨false, .dotted "e".toList []⟩ :=
    rfl
  have text := opens.then ((reads_dotted (isIdent_words ident)).then
    ((Reads.finish (close_column relation_event) delimited closes).closed rfl))
  simpa only [castTerm, columnTerm, Ast.tokens, enclosed, List.map_append, List.map_cons,
    List.map_nil, Token.erase, String.append_assoc, List.append_assoc, List.cons_append,
    List.nil_append, List.append_nil] using text

theorem metricsSelect_spells :
    Sql.Spells metricsSelect (metricsPhrase.tokens.map Token.erase) := by
  unfold metricsSelect
  exact Spells.literal (literal_append (literal_append (literal_append (literal_append
    (literal_append (literal_append (literal_append (literal_append (literal_append rfl rfl) rfl)
      rfl) rfl) rfl) rfl) rfl) rfl) rfl) (by decide +kernel)

theorem recencySelect_spells :
    Sql.Spells recencySelect (recencyPhrase.tokens.map Token.erase) := by
  unfold recencySelect
  exact Spells.literal (literal_append (literal_append (literal_append (literal_append
    (literal_append rfl rfl) rfl) rfl) rfl) rfl) (by decide +kernel)

theorem categoriesSelect_spells :
    Sql.Spells categoriesSelect (categoriesPhrase.tokens.map Token.erase) := by
  unfold categoriesSelect
  exact Spells.literal (literal_append rfl rfl) (by decide +kernel)

/-- Each profile query is read as its phrase, its parameters bound in order. -/
theorem compileCharacterize_statement {isRfc3339 : String → Bool} {opts : CompileOptions}
    {q : SegmentQuery} {event : Dataset} {tsColumn monetaryColumn categoryColumn : String}
    {profile : CharacterizeQueries} (valid : validate isRfc3339 q = .ok ())
    (last : q.ops.getLast? = some (.characterize event tsColumn monetaryColumn categoryColumn))
    (returned : compileCharacterize q opts = .ok profile) (of : Figure) :
    let compiled := match of with
      | .metrics => profile.metrics
      | .recency => profile.recency
      | .categories => profile.categories
    statement compiled.sql compiled.params =
      some (characterizePhrase opts q event tsColumn monetaryColumn categoryColumn of) := by
  have checked := (validate_ok valid).ops _ (List.mem_of_getLast? last)
  obtain ⟨named, ts, monetary, category⟩ := validateCharacterize_ok checked
  unfold compileCharacterize at returned
  simp only [last] at returned
  obtain ⟨segment, compiled, built⟩ := except_bind_eq_ok.mp returned
  have spelled := layoutSegment_spells valid compiled
  have emits := compileAt_emits (stripLastOp q) _ _ compiled
  cases built
  cases of with
  | metrics =>
    exact (layoutProfile_emits emits).statement (layoutProfile_spells spelled
      (@cast_spells "amount" _ _ _ monetary (by decide +kernel) rfl) rfl named opts.alias_ident
      metricsSelect_spells rfl)
  | recency =>
    exact (layoutProfile_emits emits).statement (layoutProfile_spells spelled
      (@cast_spells "ts" _ _ _ ts (by decide +kernel) rfl) rfl named opts.alias_ident
      recencySelect_spells rfl)
  | categories =>
    have base : Reads .start "e." [] ⟨false, .dotted "e".toList []⟩ := rfl
    have label : Reads .start " AS category" [] ⟨true, .word "category".toList⟩ := rfl
    have text := base.then ((reads_dotted (isIdent_words category)).then
      ((Reads.finish (close_column relation_event) rfl label).closed rfl))
    rw [← String.append_assoc] at text
    exact (layoutProfile_emits emits).statement (@layoutProfile_spells _ "category" _ _
      (columnTerm "e" (foldName categoryColumn)) _ _ _ _ _ spelled text rfl named opts.alias_ident
      categoriesSelect_spells rfl)

end

end ConsumerEngine.Query
