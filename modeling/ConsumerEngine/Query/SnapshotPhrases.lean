import ConsumerEngine.Query.Spelling

/-! The query that a snapshot's rows are selected by: the compiled segment, joined with one pivot
of the feature store per family.
-/

set_option autoImplicit false

namespace ConsumerEngine.Query

open ConsumerEngine.Core ConsumerEngine.Foundation ConsumerEngine.Sql ConsumerEngine.Storage

/-! ### Phrases -/

/-- A select list: values, each with its label. -/
def itemsOf (first : Term × Option String) : List (Term × Option String) → Ast Value .items
  | [] => .item first.1 first.2
  | second :: rest => .itemThen first.1 first.2 (itemsOf second rest)

/-- `arg_max(num_value, as_of_ts) FILTER (WHERE feature_name = '…')`. -/
def pivotTerm (family short : String) : Term :=
  filteredTerm "arg_max" (.given (listOf (bareTerm "num_value") [bareTerm "as_of_ts"]))
    (.only (.compare .eq (bareTerm "feature_name") (quotedTerm (family ++ "." ++ short))))

/-- The select list of a pivot. -/
def pivotItems (family : String) (shorts : List String) : Ast Value .items :=
  itemsOf (bareTerm "user_id", none) ((bareTerm "tenant_id", none) ::
    shorts.map fun short => (pivotTerm family short, some (foldName short)))

/-- The rows of a family up to the cut-off. -/
def pivotFilter (family asOfTs : String) : Ast Value (.clause .WHERE) :=
  .clause .WHERE (.both
    (.holds (callTerm "starts_with" (.given (listOf (bareTerm "feature_name")
      [quotedTerm (family ++ ".")]))))
    (.only (.compare .le (bareTerm "as_of_ts")
      (castTerm (boundTerm (.text asOfTs)) "timestamptz"))))

/-- The pivot of one family. -/
def pivotPhrase (family : String) (shorts : List String) (asOfTs : String) : Ast Value .query :=
  .single (.select false
    (pivotItems family shorts) (.from (.table writeCatalogAlias "feature_store" none) .noJoin)
    (pivotFilter family asOfTs) [⟨none, "user_id"⟩, ⟨none, "tenant_id"⟩] (.noClause .HAVING) none none)

def pivotOn (key : String) (idx : Nat) (tenant : String) : Ast Value .cond :=
  .both (.compare .eq (columnTerm (pivotAlias idx) "user_id") (columnTerm "s" (foldName key)))
    (.only (tenantTest (pivotAlias idx) tenant))

/-- The joins of the families from the `idx`-th on. -/
def pivotJoinsPhrase (key asOfTs tenant : String) (idx : Nat) : Families → Ast Value .joins
  | [] => .noJoin
  | (family, shorts) :: rest =>
      .join true (.derived (pivotPhrase family shorts asOfTs) (pivotAlias idx))
        (pivotOn key idx tenant) (pivotJoinsPhrase key asOfTs tenant (idx + 1) rest)

/-- The names and the values `json_object` is given, from the `idx`-th family on. -/
def jsonTerms (idx : Nat) : Families → List Term
  | [] => []
  | (family, shorts) :: rest =>
      (shorts.flatMap fun short => [quotedTerm (family ++ "." ++ short),
        columnTerm (pivotAlias idx) (foldName short)]) ++ jsonTerms (idx + 1) rest

def featuresTerm (families : Families) : Term :=
  callTerm "json_object" (match jsonTerms 0 families with
    | [] => .noArgs
    | first :: rest => .given (listOf first rest))

/-- The query `wrap_sql` is, around that of the segment. -/
def wrapPhrase (key : String) (families : Families) (hitReason asOfTs tenant : String)
    (write : Ast Value .query) : Ast Value .query :=
  .single (.select false
    (itemsOf (columnTerm "s" (foldName key), some (foldName key))
      [(featuresTerm families, some "features"),
        (castTerm (boundTerm (.text hitReason)) "json", some "hit_reason")])
    (.from (.derived write "s") (pivotJoinsPhrase key asOfTs tenant 0 families))
    (.noClause .WHERE) [] (.noClause .HAVING) none none)

/-- What `materialize_snapshot` selects. -/
def snapshotPhrase (key : String) (spec : SnapshotSpec) (tenant : String)
    (subquery : Ast Value .query) : Ast Value .query :=
  .single (.select false
    (itemsOf (castTerm (boundTerm (.text spec.snapshotId)) "uuid", none)
      [(boundTerm (.text spec.campaignId), none),
        (castTerm (boundTerm (.text spec.asOfTs)) "timestamptz", none),
        (columnTerm "sub" (foldName key), none), (columnTerm "sub" "features", none),
        (columnTerm "sub" "hit_reason", none), (boundTerm (.text tenant), none)])
    (.from (.derived subquery "sub") .noJoin)
    (.noClause .WHERE) [] (.noClause .HAVING) none none)

/-! ### Lists -/

section
variable {M : Type}

/-- Phrases with a comma between each and the next. -/
def commaTokens : List (List (Token M)) → List (Token M)
  | [] => []
  | [last] => last
  | first :: second :: rest => first ++ .symbol .comma :: commaTokens (second :: rest)

theorem commaTokens_append {first second : List (List (Token M))} (left : first ≠ [])
    (right : second ≠ []) :
    commaTokens (first ++ second) = commaTokens first ++ .symbol .comma :: commaTokens second := by
  induction first with
  | nil => exact absurd rfl left
  | cons phrase rest ih =>
    cases rest with
    | nil =>
      obtain ⟨next, later, rfl⟩ := List.exists_cons_of_ne_nil right
      rfl
    | cons next later =>
      rw [List.cons_append, List.cons_append, commaTokens, ← List.cons_append,
        ih (List.cons_ne_nil _ _), commaTokens, List.append_assoc, List.cons_append]

theorem commaTokens_erase (phrases : List (List (Token M))) :
    (commaTokens phrases).map Token.erase = commaTokens (phrases.map (·.map Token.erase)) := by
  induction phrases with
  | nil => rfl
  | cons phrase rest ih =>
    cases rest with
    | nil => rfl
    | cons next later =>
      rw [commaTokens, List.map_append, List.map_cons, ih]
      rfl

theorem bounds_commaTokens (phrases : List (List (Token M))) :
    bounds (commaTokens phrases) = phrases.flatMap bounds := by
  induction phrases with
  | nil => rfl
  | cons phrase rest ih =>
    cases rest with
    | nil => exact (List.flatMap_singleton bounds phrase).symm
    | cons next later =>
      rw [commaTokens, bounds_append, bounds_cons, ih, List.flatMap_cons]
      rfl

end

theorem listOf_tokens (first : Term) (rest : List Term) :
    (listOf first rest).tokens = commaTokens ((first :: rest).map Ast.tokens) := by
  induction rest generalizing first with
  | nil => rfl
  | cons second rest ih =>
    rw [listOf, Ast.tokens, ih]
    rfl

theorem itemsOf_tokens (first : Term × Option String) (rest : List (Term × Option String)) :
    (itemsOf first rest).tokens =
      commaTokens ((first :: rest).map fun item => item.1.tokens ++ labelTokens item.2) := by
  induction rest generalizing first with
  | nil => rfl
  | cons second rest ih =>
    rw [itemsOf, Ast.tokens, ih]
    simp only [List.map_cons, commaTokens, List.append_assoc]

/-- Texts with commas between them spell their phrases with commas between them. -/
theorem spells_commas {parts : List (String × List (List (Token Unit)))} (some_ : parts ≠ [])
    (each : ∀ part ∈ parts, part.2 ≠ [] ∧ Sql.Spells part.1 (commaTokens part.2)) :
    Sql.Spells (joined ", " (parts.map Prod.fst)) (commaTokens (parts.flatMap Prod.snd)) := by
  induction parts with
  | nil => exact absurd rfl some_
  | cons part rest ih =>
    obtain ⟨here, later⟩ := List.forall_mem_cons.mp each
    cases rest with
    | nil =>
      rw [List.flatMap_cons, List.flatMap_nil, List.append_nil]
      exact here.2
    | cons second rest =>
      have others := ih (List.cons_ne_nil _ _) later
      have comma : Sql.Reads .start ", " [.symbol .comma] .start := rfl
      have filled : (second :: rest).flatMap Prod.snd ≠ [] := by
        rw [List.flatMap_cons]
        exact List.append_ne_nil_of_left_ne_nil (later second List.mem_cons_self).1 _
      rw [List.flatMap_cons, commaTokens_append here.1 filled]
      have text := here.2.then rfl comma others
      rwa [← String.append_assoc] at text

/-! ### Names -/

theorem relation_sub : RelationName "sub" :=
  ⟨by decide, List.all_eq_true.mp (by decide), by decide, by decide⟩

theorem toLower_digit {c : Char} (digit : c.isDigit = true) : c.toLower = c := by
  refine dif_neg fun upper => ?_
  have low : c.val ≤ '9'.val := of_decide_eq_true (Bool.and_eq_true_iff.mp digit).2
  have high : 'A'.val ≤ c.val := upper.1
  exact absurd (UInt32.le_trans high low) (by decide)

theorem pivotAlias_chars (idx : Nat) :
    (pivotAlias idx).toList = ['f', 's', '_'] ++ (toString idx).toList := by
  rw [pivotAlias, String.toList_append]
  rfl

theorem foldName_pivotAlias (idx : Nat) : foldName (pivotAlias idx) = pivotAlias idx := by
  have digits : (toString idx).toList.map Char.toLower = (toString idx).toList :=
    (List.map_congr_left fun c member => toLower_digit (toString_digits idx c member)).trans
      (List.map_id _)
  rw [foldName, pivotAlias_chars, List.map_append, digits,
    show ['f', 's', '_'].map Char.toLower = ['f', 's', '_'] from rfl, ← pivotAlias_chars,
    String.ofList_toList]

theorem pivotAlias_words (idx : Nat) : ∀ c ∈ (pivotAlias idx).toList, isWordChar c = true := by
  rw [pivotAlias_chars, List.forall_mem_append]
  refine ⟨List.all_eq_true.mp (by decide), fun c member => ?_⟩
  simp only [isWordChar, Char.isAlphanum, toString_digits idx c member, Bool.or_true, Bool.true_or]

theorem relation_pivot (idx : Nat) : RelationName (pivotAlias idx) where
  nonempty := by
    rw [pivotAlias_chars]
    exact List.cons_ne_nil _ _
  words := pivotAlias_words idx
  letter := by
    rw [pivotAlias_chars, List.all_append]
    rfl
  folded := foldName_pivotAlias idx

theorem spells_pivotAlias (idx : Nat) : Sql.Spells (pivotAlias idx) [.name (pivotAlias idx)] := by
  have closes : Reader.close ⟨false, .word (pivotAlias idx).toList⟩ = some [.name (pivotAlias idx)] := by
    have word : wordToken false (pivotAlias idx).toList =
        ([.name (foldName (pivotAlias idx))], false) := by
      rw [foldName, pivotAlias_chars]
      rfl
    rw [foldName_pivotAlias] at word
    simp only [Reader.close, word]
  exact (reads_word (relation_pivot idx).nonempty (pivotAlias_words idx)).closed closes

section
variable {name family short : String}

/-- A word behind `AS`. -/
theorem reads_label (ident : isIdent name = true) :
    Sql.Reads ⟨true, .blank⟩ name [] ⟨true, .word name.toList⟩ := by
  have chars := isIdent_words ident
  unfold Sql.Reads
  cases letters : name.toList with
  | nil => exact absurd letters (isIdent_ne_nil ident)
  | cons c rest =>
    rw [letters] at chars
    obtain ⟨here, later⟩ := List.forall_mem_cons.mp chars
    have begun : Reader.read ⟨true, .blank⟩ c = ([], ⟨true, .word [c]⟩) := by
      change begin true c = _
      unfold begin
      exact if_pos here
    rw [Reader.readAll, begun]
    simp only [readAll_word true [c] rest later, List.singleton_append, List.append_nil]

theorem close_label (name : String) :
    Reader.close ⟨true, .word name.toList⟩ = some [.label (foldName name)] := rfl

theorem quoteless_ident (ident : isIdent name = true) : '\'' ∉ name.toList := fun member =>
  absurd (isIdent_words ident _ member) (by decide)

theorem quoteless_feature (family_ident : isIdent family = true) (short_ident : isIdent short = true) :
    '\'' ∉ (family ++ "." ++ short).toList := by
  have dot : '\'' ∉ ".".toList := by decide
  simp only [String.toList_append, List.mem_append, quoteless_ident family_ident,
    quoteless_ident short_ident, dot, or_self, not_false_eq_true]

/-! ### Pivots -/

theorem pivotColumn_spells (family_ident : isIdent family = true)
    (short_ident : isIdent short = true) :
    Sql.Spells (pivotColumn family short)
      ((pivotTerm family short).tokens.map Token.erase ++ [.label (foldName short)]) := by
  have opens : Sql.Reads .start "arg_max(num_value, as_of_ts) FILTER (WHERE feature_name = '"
      [.name "arg_max", .symbol .opening, .name "num_value", .symbol .comma, .name "as_of_ts",
        .symbol .closing, .key .FILTER, .symbol .opening, .key .WHERE, .name "feature_name",
        .symbol .eq] ⟨false, .quote []⟩ := by decide +kernel
  have name := @reads_quote _ false [] (quoteless_feature family_ident short_ident)
  have closes : Sql.Reads ⟨false, .quote ([] ++ (family ++ "." ++ short).toList)⟩ "') AS "
      [.quoted (family ++ "." ++ short), .symbol .closing] ⟨true, .blank⟩ := by
    have plain : Sql.Reads ⟨false, .quote ([] ++ (family ++ "." ++ short).toList)⟩ "') AS "
        [.quoted (String.ofList ([] ++ (family ++ "." ++ short).toList)), .symbol .closing]
        ⟨true, .blank⟩ := rfl
    rwa [List.nil_append, String.ofList_toList] at plain
  have text := opens.then (name.then (closes.then
    ((reads_label short_ident).closed (close_label short))))
  unfold pivotColumn
  simpa only [pivotTerm, filteredTerm, bareTerm, quotedTerm, listOf, Ast.tokens, enclosed,
    Comparison.tokens, List.map_append, List.map_cons, List.map_nil, Token.erase, String.append_assoc,
    List.append_assoc, List.cons_append, List.nil_append, List.append_nil] using text

theorem pivotColumns_spells {shorts : List String} (family_ident : isIdent family = true)
    (shorts_ident : ∀ short ∈ shorts, isIdent short = true) :
    Sql.Spells (joined ", " (pivotColumns family shorts))
      ((pivotItems family shorts).tokens.map Token.erase) := by
  let parts : List (String × List (List (Token Unit))) :=
    ("user_id", [[.name "user_id"]]) :: ("tenant_id", [[.name "tenant_id"]]) ::
      shorts.map fun short => (pivotColumn family short,
        [(pivotTerm family short).tokens.map Token.erase ++ [.label (foldName short)]])
  have user : Sql.Reads .start "user_id" [] ⟨false, .word "user_id".toList⟩ := by decide +kernel
  have tenant : Sql.Reads .start "tenant_id" [] ⟨false, .word "tenant_id".toList⟩ := by decide +kernel
  have each : ∀ part ∈ parts, part.2 ≠ [] ∧ Sql.Spells part.1 (commaTokens part.2) := by
    refine List.forall_mem_cons.mpr ⟨⟨List.cons_ne_nil _ _, user.closed rfl⟩,
      List.forall_mem_cons.mpr ⟨⟨List.cons_ne_nil _ _, tenant.closed rfl⟩, fun part member => ?_⟩⟩
    obtain ⟨short, among, rfl⟩ := List.mem_map.mp member
    exact ⟨List.cons_ne_nil _ _, pivotColumn_spells family_ident (shorts_ident short among)⟩
  have text := spells_commas (List.cons_ne_nil _ _) each
  have columns : parts.map Prod.fst = pivotColumns family shorts := by
    simp only [parts, List.map_cons, List.map_map, pivotColumns, List.cons_append, List.nil_append]
    rfl
  have phrases : parts.flatMap Prod.snd =
      ((bareTerm "user_id", (none : Option String)) :: (bareTerm "tenant_id", none) ::
        shorts.map fun short => (pivotTerm family short, some (foldName short))).map
          fun item => (item.1.tokens ++ labelTokens item.2).map Token.erase := by
    have each (shorts : List String) :
        (shorts.map fun short => (pivotColumn family short,
          [(pivotTerm family short).tokens.map Token.erase ++ [Token.label (foldName short)]])).flatMap
            Prod.snd =
          shorts.map fun short => ((pivotTerm family short).tokens ++
            [Token.label (foldName short)]).map Token.erase := by
      induction shorts with
      | nil => rfl
      | cons short rest ih =>
        rw [List.map_cons, List.flatMap_cons, ih, List.map_cons, List.map_append]
        rfl
    simp only [parts, List.flatMap_cons, each, List.map_cons, List.map_map]
    rfl
  rw [columns, phrases] at text
  rwa [pivotItems, itemsOf_tokens, commaTokens_erase, List.map_map]

/-- The tokens of one join. -/
def pivotJoinTokens (key asOfTs tenant : String) (idx : Nat) (family : String)
    (shorts : List String) : List (Token Value) :=
  .key .LEFT :: .key .JOIN :: (enclosed (pivotPhrase family shorts asOfTs).tokens ++
    .name (pivotAlias idx) :: .key .ON :: (pivotOn key idx tenant).tokens)

theorem pivotJoin_reads {key : String} {shorts : List String} (asOfTs tenant : String) (idx : Nat)
    (key_ident : isIdent key = true) (family_ident : isIdent family = true)
    (shorts_ident : ∀ short ∈ shorts, isIdent short = true) :
    Sql.Reads .start (pivotJoin key idx family shorts)
      ((pivotJoinTokens key asOfTs tenant idx family shorts).map Token.erase) .start := by
  have opens : Sql.Reads .start " LEFT JOIN (SELECT " [.key .LEFT, .key .JOIN, .symbol .opening,
      .key .SELECT] .start := rfl
  have from_ : Sql.Reads .start (" FROM " ++ (writeCatalogAlias ++
      ".feature_store WHERE starts_with(feature_name, '")) [.key .FROM, .column writeCatalogAlias "feature_store",
      .key .WHERE, .name "starts_with", .symbol .opening, .name "feature_name", .symbol .comma]
      ⟨false, .quote []⟩ := by decide +kernel
  have dot : '\'' ∉ ".".toList := by decide
  have plain : '\'' ∉ (family ++ ".").toList := by
    simp only [String.toList_append, List.mem_append, quoteless_ident family_ident, dot, or_self,
      not_false_eq_true]
  have name := @reads_quote _ false [] plain
  have closes : Sql.Reads ⟨false, .quote ([] ++ (family ++ ".").toList)⟩ "')"
      [.quoted (family ++ "."), .symbol .closing] .start := by
    have quoted : Sql.Reads ⟨false, .quote ([] ++ (family ++ ".").toList)⟩ "')"
        [.quoted (String.ofList ([] ++ (family ++ ".").toList)), .symbol .closing] .start := rfl
    rwa [List.nil_append, String.ofList_toList] at quoted
  have bounded : Sql.Reads .start (" AND " ++ ("as_of_ts <= CAST(? AS TIMESTAMPTZ)" ++
      " GROUP BY user_id, tenant_id) ")) [.key .AND, .name "as_of_ts", .symbol .le, .key .CAST,
      .symbol .opening, .mark (), .label "timestamptz", .symbol .closing, .key .GROUP, .key .BY,
      .name "user_id", .symbol .comma, .name "tenant_id", .symbol .closing] .start := by
    decide +kernel
  have on_ : Sql.Reads .start " ON " [.key .ON] .start := rfl
  have same : Sql.Reads .start " = s." [.symbol .eq] ⟨false, .dotted "s".toList []⟩ := rfl
  have and_ : Sql.Reads .start " AND " [.key .AND] .start := rfl
  have bound : Sql.Reads .start " = ?" [.symbol .eq, .mark ()] .start := rfl
  have user := spells_relation (relation_pivot idx) (rfl : isIdent "user_id" = true)
  have own := spells_relation (relation_pivot idx) (rfl : isIdent "tenant_id" = true)
  rw [show foldName "user_id" = "user_id" from by decide] at user
  rw [show foldName "tenant_id" = "tenant_id" from by decide] at own
  have text := opens.append (((pivotColumns_spells family_ident shorts_ident).reads rfl from_).append
    (name.append (closes.append (bounded.append (((spells_pivotAlias idx).reads rfl on_).append
      ((user.reads rfl same).append ((reads_dotted (isIdent_words key_ident)).append
        ((Sql.Reads.finish (close_column relation_suppression) rfl and_).append
          (own.reads rfl bound)))))))))
  have begun : (".') AND " : String) = "." ++ ("')" ++ " AND ") := rfl
  have user_ : (".user_id = s." : String) = "." ++ ("user_id" ++ " = s.") := rfl
  have own_ : (".tenant_id = ?" : String) = "." ++ ("tenant_id" ++ " = ?") := rfl
  unfold pivotJoin
  simpa only [begun, user_, own_, pivotJoinTokens, pivotPhrase, pivotFilter, pivotOn, callTerm,
    castTerm, boundTerm, bareTerm, quotedTerm, columnTerm, tenantTest, listOf, Ast.tokens, enclosed,
    calledTokens, groupTokens, refTokens, ColumnRef.token, orderTokens, limitTokens,
    Comparison.tokens, Bool.false_eq_true, ↓reduceIte, List.map_append, List.map_cons, List.map_nil,
    Token.erase, String.append_assoc, List.append_assoc, List.cons_append, List.nil_append,
    List.append_nil] using text

/-! ### The wrapped segment -/

variable {key asOfTs tenant hitReason : String} {families : Families}

theorem pivotJoins_reads (key_ident : isIdent key = true) (named : families.Named) (idx : Nat) :
    Sql.Reads .start (pivotJoins key idx families)
      ((pivotJoinsPhrase key asOfTs tenant idx families).tokens.map Token.erase) .start := by
  induction families generalizing idx with
  | nil => rfl
  | cons head rest ih =>
    obtain ⟨here, later⟩ := List.forall_mem_cons.mp named
    have text := (pivotJoin_reads asOfTs tenant idx key_ident here.1 here.2).append
      (ih later (idx + 1))
    obtain ⟨family, shorts⟩ := head
    simpa only [pivotJoins, pivotJoinsPhrase, pivotJoinTokens, Ast.tokens, ↓reduceIte,
      List.map_append, List.map_cons, List.append_assoc, List.cons_append, List.nil_append] using text

/-- The texts `json_object` is given, each with the phrases it spells. -/
def jsonParts (idx : Nat) : Families → List (String × List (List (Token Unit)))
  | [] => []
  | (family, shorts) :: rest =>
      shorts.map (fun short => (jsonPair idx family short,
        [[.quoted (family ++ "." ++ short)], [.column (pivotAlias idx) (foldName short)]])) ++
        jsonParts (idx + 1) rest

theorem jsonParts_texts (families : Families) (idx : Nat) :
    (jsonParts idx families).map Prod.fst = jsonPairs idx families := by
  induction families generalizing idx with
  | nil => rfl
  | cons head rest ih =>
    rw [jsonParts, jsonPairs, List.map_append, ih, List.map_map]
    rfl

theorem jsonParts_phrases (families : Families) (idx : Nat) :
    (jsonParts idx families).flatMap Prod.snd =
      (jsonTerms idx families).map fun term => term.tokens.map Token.erase := by
  induction families generalizing idx with
  | nil => rfl
  | cons head rest ih =>
    rw [jsonParts, jsonTerms, List.flatMap_append, ih, List.map_append, List.map_flatMap,
      List.flatMap_map]
    rfl

theorem jsonParts_spell (named : families.Named) (idx : Nat) :
    ∀ part ∈ jsonParts idx families, part.2 ≠ [] ∧ Sql.Spells part.1 (commaTokens part.2) := by
  induction families generalizing idx with
  | nil => exact List.forall_mem_nil _
  | cons head rest ih =>
    obtain ⟨here, later⟩ := List.forall_mem_cons.mp named
    refine List.forall_mem_append.mpr ⟨fun part member => ?_, ih later (idx + 1)⟩
    obtain ⟨short, present, rfl⟩ := List.mem_map.mp member
    refine ⟨List.cons_ne_nil _ _, ?_⟩
    have opens : Sql.Reads .start "'" [] ⟨false, .quote []⟩ := rfl
    have name := @reads_quote _ false [] (quoteless_feature here.1 (here.2 short present))
    have closes : Sql.Reads ⟨false, .quote ([] ++ (head.1 ++ "." ++ short).toList)⟩ "', "
        [.quoted (head.1 ++ "." ++ short), .symbol .comma] .start := by
      have quoted : Sql.Reads ⟨false, .quote ([] ++ (head.1 ++ "." ++ short).toList)⟩ "', "
          [.quoted (String.ofList ([] ++ (head.1 ++ "." ++ short).toList)), .symbol .comma] .start :=
        rfl
      rwa [List.nil_append, String.ofList_toList] at quoted
    have text := opens.then (name.then (closes.then
      (spells_relation (relation_pivot idx) (here.2 short present))))
    unfold jsonPair
    simpa only [commaTokens, String.append_assoc, List.cons_append, List.nil_append] using text

theorem featuresExpr_spells (named : families.Named) :
    Sql.Spells (featuresExpr families) ((featuresTerm families).tokens.map Token.erase) := by
  have phrases := jsonParts_phrases families 0
  have texts := jsonParts_texts families 0
  have none_ : Sql.Reads .start "json_object()" [.name "json_object", .symbol .opening,
      .symbol .closing] .start := by decide +kernel
  have opens : Sql.Reads .start "json_object(" [.name "json_object", .symbol .opening] .start := by
    decide +kernel
  have closes : Sql.Reads .start ")" [.symbol .closing] .start := rfl
  unfold featuresExpr featuresTerm
  dsimp only
  cases parts : jsonParts 0 families with
  | nil =>
    rw [parts] at phrases texts
    rw [← texts, List.map_eq_nil_iff.mp phrases.symm]
    exact none_.spelled
  | cons part rest =>
    have spelled := spells_commas (List.cons_ne_nil part rest) (parts ▸ jsonParts_spell named 0)
    rw [← parts, texts, phrases] at spelled
    rw [parts] at texts
    have filled : (jsonPairs 0 families).isEmpty = false := by rw [← texts]; rfl
    have some_ : jsonTerms 0 families ≠ [] := by
      intro none_
      rw [none_, parts, List.flatMap_cons] at phrases
      exact (jsonParts_spell named 0 part (parts ▸ List.mem_cons_self)).1
        (List.append_eq_nil_iff.mp phrases).1
    obtain ⟨first, others, terms⟩ := List.exists_cons_of_ne_nil some_
    have text := (opens.then (spelled.reads rfl closes).spelled)
    rw [filled, terms]
    rw [terms] at text
    simpa only [Bool.false_eq_true, ↓reduceIte, callTerm, Ast.tokens, enclosed, listOf_tokens,
      commaTokens_erase, List.map_map, Function.comp_def, List.map_append, List.map_cons,
      List.map_nil, Token.erase, String.append_assoc, List.append_assoc, List.cons_append,
      List.nil_append, List.append_nil] using text

/-- The joins, behind the alias of the segment. -/
theorem pivotJoins_behind (key_ident : isIdent key = true) (named : families.Named) :
    SpellsFrom ⟨false, .word "s".toList⟩ (pivotJoins key 0 families)
      (.name "s" :: (pivotJoinsPhrase key asOfTs tenant 0 families).tokens.map Token.erase) := by
  have closes : Reader.close ⟨false, .word "s".toList⟩ = some [.name "s"] := by decide +kernel
  have joins := @pivotJoins_reads key asOfTs tenant families key_ident named 0
  cases families with
  | nil => exact ⟨[], _, _, rfl, closes, rfl⟩
  | cons head rest =>
    refine (Sql.Reads.finish closes ?_ joins).spelled
    unfold pivotJoins pivotJoin
    simp only [String.append_assoc]
    exact @delimited_append " LEFT JOIN (SELECT " (by decide) _

/-- `wrap_sql`, around a text that is spelled. -/
theorem wrapSql_spells {write : CompiledQuery} {query : Ast Value .query} (hitReason : String)
    (key_ident : isIdent key = true) (named : families.Named)
    (spelled : Sql.Spells write.sql (query.tokens.map Token.erase)) :
    Sql.Spells (wrapSql key families write)
      ((wrapPhrase key families hitReason asOfTs tenant query).tokens.map Token.erase) := by
  have opens : Sql.Reads .start "SELECT s." [.key .SELECT] ⟨false, .dotted "s".toList []⟩ := rfl
  have as_ : Sql.Reads .start " AS " [] ⟨true, .blank⟩ := rfl
  have comma : Sql.Reads .start ", " [.symbol .comma] .start := rfl
  have labels : Sql.Reads .start (" AS features, " ++ ("CAST(? AS JSON) AS hit_reason" ++ " FROM ("))
      [.label "features", .symbol .comma, .key .CAST, .symbol .opening, .mark (), .label "json",
        .symbol .closing, .label "hit_reason", .key .FROM, .symbol .opening] .start := by
    decide +kernel
  have closes : Sql.Reads .start ") s" [.symbol .closing] ⟨false, .word "s".toList⟩ := by
    decide +kernel
  have column := @reads_dotted key "s".toList (isIdent_words key_ident)
  have label := (Sql.Reads.finish (@close_column "s" key relation_suppression) rfl as_).append
    (reads_label key_ident)
  have listed := (Sql.Reads.finish (close_label key) rfl comma).append
    ((featuresExpr_spells named).reads rfl labels)
  have text := (opens.append (column.append (label.append (listed.append
    (spelled.reads rfl closes))))).then (@pivotJoins_behind key asOfTs tenant families key_ident named)
  unfold wrapSql
  simpa only [wrapPhrase, itemsOf, castTerm, boundTerm, columnTerm, Ast.tokens, enclosed,
    labelTokens, groupTokens, orderTokens, limitTokens, Bool.false_eq_true, ↓reduceIte,
    List.map_append, List.map_cons, List.map_nil, Token.erase, String.append_assoc,
    List.append_assoc, List.cons_append, List.nil_append, List.append_nil] using text

theorem bounds_pivotJoins (families : Families) (idx : Nat) :
    bounds (pivotJoinsPhrase key asOfTs tenant idx families).tokens =
      families.flatMap fun _ => [.text asOfTs, .text tenant] := by
  induction families generalizing idx with
  | nil => rfl
  | cons head rest ih =>
    obtain ⟨family, shorts⟩ := head
    have columns : bounds (pivotItems family shorts).tokens = [] := by
      rw [pivotItems, itemsOf_tokens, bounds_commaTokens, List.flatMap_eq_nil_iff]
      refine List.forall_mem_map.mpr (List.forall_mem_cons.mpr ⟨rfl, List.forall_mem_cons.mpr
        ⟨rfl, List.forall_mem_map.mpr fun short _ => rfl⟩⟩)
    simp only [pivotJoinsPhrase, pivotPhrase, pivotFilter, pivotOn, callTerm, castTerm, boundTerm,
      bareTerm, quotedTerm, columnTerm, tenantTest, listOf, Ast.tokens, enclosed, calledTokens,
      groupTokens, refTokens, ColumnRef.token, orderTokens, limitTokens, Comparison.tokens,
      Bool.false_eq_true, ↓reduceIte, bounds_append, bounds_cons, bounds_nil, Token.bound, columns,
      ih, List.flatMap_cons, List.cons_append, List.nil_append, List.append_nil]

theorem bounds_features (families : Families) : bounds (featuresTerm families).tokens = [] := by
  have terms (idx : Nat) : ∀ term ∈ jsonTerms idx families, bounds term.tokens = [] := by
    induction families generalizing idx with
    | nil => exact List.forall_mem_nil _
    | cons head rest ih =>
      refine List.forall_mem_append.mpr ⟨fun term member => ?_, ih (idx + 1)⟩
      obtain ⟨short, -, among⟩ := List.mem_flatMap.mp member
      rcases List.mem_cons.mp among with rfl | last
      · rfl
      · rw [List.mem_singleton.mp last]
        rfl
  unfold featuresTerm
  cases listed : jsonTerms 0 families with
  | nil => rfl
  | cons first rest =>
    have all := terms 0
    rw [listed] at all
    simp only [callTerm, Ast.tokens, enclosed, listOf_tokens, bounds_append, bounds_cons, bounds_nil,
      bounds_commaTokens, Token.bound, List.nil_append, List.append_nil]
    exact List.flatMap_eq_nil_iff.mpr (List.forall_mem_map.mpr all)

theorem bounds_wrap {query : Ast Value .query} {write : CompiledQuery}
    (bound : bounds query.tokens = write.params) :
    bounds (wrapPhrase key families hitReason asOfTs tenant query).tokens =
      wrapParams hitReason asOfTs tenant families write := by
  simp only [wrapPhrase, wrapParams, itemsOf, castTerm, boundTerm, columnTerm, Ast.tokens, enclosed,
    labelTokens, groupTokens, orderTokens, limitTokens, Bool.false_eq_true, ↓reduceIte,
    bounds_append, bounds_cons, Token.bound, bounds_features, bounds_pivotJoins, bound,
    List.append_assoc, List.cons_append, List.nil_append, List.append_nil]

/-! ### The snapshot -/

/-- What stands before the selection of a snapshot. -/
def snapshotInsert : String :=
  "INSERT INTO " ++ writeCatalogAlias ++ ".audience_snapshot (snapshot_id, campaign_id, as_of_ts, " ++
    "user_id, features, hit_reason, tenant_id) "

/-- The selection of a snapshot. -/
def snapshotSelect (subquerySql keyColumn : String) : String :=
  "SELECT CAST(? AS UUID), ?, CAST(? AS TIMESTAMPTZ), sub." ++ keyColumn ++
    ", sub.features, sub.hit_reason, ? FROM (" ++ subquerySql ++ ") sub"

theorem snapshotStatement_eq (subquerySql keyColumn : String) :
    snapshotStatement subquerySql keyColumn =
      snapshotInsert ++ snapshotSelect subquerySql keyColumn := by
  have columns : ("user_id, features, hit_reason, tenant_id) SELECT CAST(? AS UUID), ?, CAST(? AS TIMESTAMPTZ), " :
      String) = "user_id, features, hit_reason, tenant_id) " ++
        "SELECT CAST(? AS UUID), ?, CAST(? AS TIMESTAMPTZ), " := by decide
  have key : ("SELECT CAST(? AS UUID), ?, CAST(? AS TIMESTAMPTZ), sub." : String) =
      "SELECT CAST(? AS UUID), ?, CAST(? AS TIMESTAMPTZ), " ++ "sub." := by decide
  unfold snapshotStatement snapshotInsert snapshotSelect
  simp only [columns, key, String.append_assoc]

theorem snapshotSelect_spells {sql : String} {query : Ast Value .query} (spec : SnapshotSpec)
    (key_ident : isIdent key = true) (spelled : Sql.Spells sql (query.tokens.map Token.erase)) :
    Sql.Spells (snapshotSelect sql key)
      ((snapshotPhrase key spec tenant query).tokens.map Token.erase) := by
  have opens : Sql.Reads .start "SELECT CAST(? AS UUID), ?, CAST(? AS TIMESTAMPTZ), sub."
      [.key .SELECT, .key .CAST, .symbol .opening, .mark (), .label "uuid", .symbol .closing,
        .symbol .comma, .mark (), .symbol .comma, .key .CAST, .symbol .opening, .mark (),
        .label "timestamptz", .symbol .closing, .symbol .comma] ⟨false, .dotted "sub".toList []⟩ := by
    decide +kernel
  have rest : Sql.Reads .start ", sub.features, sub.hit_reason, ? FROM (" [.symbol .comma,
      .column "sub" "features", .symbol .comma, .column "sub" "hit_reason", .symbol .comma, .mark (),
      .key .FROM, .symbol .opening] .start := by decide +kernel
  have closes : Sql.Reads .start ") sub" [.symbol .closing] ⟨false, .word "sub".toList⟩ := by
    decide +kernel
  have called : Reader.close ⟨false, .word "sub".toList⟩ = some [.name "sub"] := by decide +kernel
  have text := opens.then ((@reads_dotted key "sub".toList (isIdent_words key_ident)).then
    (rest.behind (close_column relation_sub) rfl ((spelled.reads rfl closes).closed called)))
  unfold snapshotSelect
  simpa only [snapshotPhrase, itemsOf, castTerm, boundTerm, columnTerm, Ast.tokens, enclosed,
    labelTokens, groupTokens, orderTokens, limitTokens, Bool.false_eq_true, ↓reduceIte,
    List.map_append, List.map_cons, List.map_nil, Token.erase, String.append_assoc,
    List.append_assoc, List.cons_append, List.nil_append, List.append_nil] using text

theorem bounds_snapshot {query : Ast Value .query} {params : List Value} (spec : SnapshotSpec)
    (bound : bounds query.tokens = params) :
    bounds (snapshotPhrase key spec tenant query).tokens = snapshotParams spec tenant params := by
  simp only [snapshotPhrase, snapshotParams, itemsOf, castTerm, boundTerm, columnTerm, Ast.tokens,
    enclosed, labelTokens, groupTokens, orderTokens, limitTokens, Bool.false_eq_true, ↓reduceIte,
    bounds_append, bounds_cons, bounds_nil, Token.bound, bound, List.append_assoc, List.cons_append,
    List.nil_append, List.append_nil]

end

/-- What the compiler emits is spelled as the query's phrase, and bound in order. -/
theorem compileAt_spells {isRfc3339 : String → Bool} {opts : CompileOptions} {q : SegmentQuery}
    {depth : Nat} {compiled : CompiledQuery} (valid : validate isRfc3339 q = .ok ())
    (returned : compileAt opts q depth = .ok compiled) :
    Sql.Spells compiled.sql ((phraseAt opts q).tokens.map Token.erase) ∧
      bounds (phraseAt opts q).tokens = compiled.params := by
  have spells := layoutQuery_spells q valid _ _ returned
  have emits := compileAt_emits q depth compiled returned
  have text : compiled.sql = (layoutQuery opts q).text := emits.text
  have values : compiled.params.map some = (layoutQuery opts q).values := emits.values
  refine ⟨text ▸ spells.text, ?_⟩
  rw [← spells.values, ← values, List.map_map]
  exact List.map_id _

/-- The selection of a snapshot is read as its phrase, its parameters bound in order. -/
theorem snapshot_statement {isRfc3339 : String → Bool} {opts : CompileOptions} {q : SegmentQuery}
    {depth : Nat} {write : CompiledQuery} {families : Families} (spec : SnapshotSpec)
    (hitReason tenant : String) (valid : validate isRfc3339 q = .ok ())
    (returned : compileAt opts q depth = .ok write) (named : families.Named) :
    statement (snapshotSelect (wrapSql q.key families write) q.key)
        (snapshotParams spec tenant (wrapParams hitReason spec.asOfTs tenant families write)) =
      some (snapshotPhrase q.key spec tenant
        (wrapPhrase q.key families hitReason spec.asOfTs tenant (phraseAt opts q))) := by
  have key_ident := (validate_ok valid).key
  obtain ⟨spelled, bound⟩ := compileAt_spells valid returned
  have wrapped := @wrapSql_spells q.key spec.asOfTs tenant families write _ hitReason key_ident named
    spelled
  have read := (@snapshotSelect_spells q.key tenant _ _ spec key_ident wrapped).tokens_eq
  rw [← bounds_snapshot spec (bounds_wrap bound)]
  exact statement_eq read

end ConsumerEngine.Query
