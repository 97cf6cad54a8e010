import ConsumerEngine.Query.Meaning

/-! What the tests of a compiled query come to: columns, predicates, and the probes that look for a
row of the user and the tenant in a stored table.
-/

set_option autoImplicit false

namespace ConsumerEngine.Query

open ConsumerEngine.Core ConsumerEngine.Sql ConsumerEngine.Storage

section
variable {V : Type} [DecidableEq V] {E : Engine V} {env : Env V} {rel name : String}

/-! ### Terms and predicates -/

@[simp] theorem columnTerm_eval :
    (columnTerm rel name).eval E.toScalars env = some (env.column E.null rel name) := by
  simp [columnTerm, Ast.eval]

@[simp] theorem boundTerm_eval (value : Value) :
    (boundTerm value).eval E.toScalars env = some (E.bound value) := by
  simp [boundTerm, Ast.eval]

theorem listOf_bound_eval (first : Value) (rest : List Value) :
    (listOf (boundTerm first) (rest.map boundTerm)).eval E.toScalars env =
      some ((first :: rest).map E.bound) := by
  induction rest generalizing first with
  | nil => simp [listOf, Ast.eval]
  | cons second rest ih =>
    rw [List.map_cons, listOf, Ast.eval]
    simp only [boundTerm_eval, ih]
    rfl

/-- A conjunction holds by all of its tests. -/
theorem conjunction_eval (first : Test) (rest : List Test) :
    (conjunction first rest).eval E.toScalars env =
      Truth.all ((first :: rest).map fun test => test.eval E.toScalars env) := by
  induction rest generalizing first with
  | nil => simp [conjunction, Ast.eval]
  | cons second rest ih =>
    rw [conjunction, Ast.eval, List.map_cons, Truth.all_cons]
    exact congrArg _ (ih second)

theorem constantTest_eval (holds : Bool) :
    (constantTest holds).eval E.toScalars env = .ofBool holds := by
  cases holds
  · simpa [constantTest, Ast.eval, numeralTerm, compared, Truth.ofBool] using E.compare_zero
  · simpa [constantTest, Ast.eval, numeralTerm, compared, Truth.ofBool] using E.compare_one

theorem membershipTest_eval (negate : Bool) (items : List Json) :
    (membershipTest negate (columnTerm rel name) items).eval E.toScalars env =
      let among := E.among (env.column E.null rel name) items
      if negate then among.negate else among := by
  cases items with
  | nil =>
    rw [membershipTest, constantTest_eval]
    cases negate <;> rfl
  | cons first rest =>
    have values : rest.map (fun item => boundTerm (valueOf item)) =
        (rest.map valueOf).map boundTerm := by rw [List.map_map]; rfl
    rw [membershipTest, Ast.eval, values]
    simp only [columnTerm_eval, listOf_bound_eval]
    simp only [Engine.among, List.map_cons, List.map_map]
    rfl

/-- A relation whose columns are the cells of a raw row. -/
def Shows (E : Engine V) (env : Env V) (rel : String) (row : RawRow) : Prop :=
  ∀ name, env.column E.null rel name = E.cell (row name)

theorem predicateTest_eval {row : RawRow} (shows : Shows E env rel row) (p : Predicate) :
    (predicateTest rel p).eval E.toScalars env = E.predicate p row := by
  obtain ⟨column, op, value⟩ := p
  have compares (comparison : Comparison) :
      (Ast.compare comparison (columnTerm rel (foldName column)) (boundTerm (valueOf value))).eval
        E.toScalars env = E.compare comparison (E.cell (row (foldName column)))
          (E.bound (valueOf value)) := by
    rw [Ast.eval]
    simp only [columnTerm_eval, boundTerm_eval, compared, shows (foldName column)]
  cases op with
  | isIn =>
    have members := @membershipTest_eval _ _ E env rel (foldName column) false
      ((asArray value).getD [])
    rw [shows] at members
    exact members
  | notIn =>
    have members := @membershipTest_eval _ _ E env rel (foldName column) true
      ((asArray value).getD [])
    rw [shows] at members
    exact members
  | _ => exact compares _

theorem tenantTest_eval (tenant : String) {owner : Cell}
    (owned : env.column E.null rel "tenant_id" = E.cell owner) :
    (tenantTest rel tenant).eval E.toScalars env = alike owner (some tenant) := by
  rw [tenantTest, Ast.eval]
  simp only [columnTerm_eval, boundTerm_eval, compared, owned, E.bound_text]
  exact E.compare_cell owner (some tenant)

theorem sameUserTest_eval {userKey baseKey : String} {theirs user : Cell}
    (their : env.column E.null rel userKey = E.cell theirs)
    (own : env.column E.null "base" (foldName baseKey) = E.cell user) :
    (sameUserTest rel userKey baseKey).eval E.toScalars env = alike theirs user := by
  rw [sameUserTest, Ast.eval]
  simp only [columnTerm_eval, compared, their, own]
  exact E.compare_cell theirs user

theorem daysAgo_eval (days : Nat) : (daysAgo days).eval E.toScalars env = E.daysAgo days := by
  have now : isAggregate "now" = false := by decide
  simp only [daysAgo, callTerm, Ast.eval, now, Bool.false_eq_true, ↓reduceIte, Engine.daysAgo,
    Option.bind_some, Option.bind_eq_bind, Option.bind_fun_some]

theorem withinTest_eval {row : RawRow} (shows : Shows E env "e" row) (tsColumn : String)
    (comparison : Comparison) (days : Nat) :
    (withinTest tsColumn comparison days).eval E.toScalars env =
      E.within tsColumn comparison days row := by
  rw [withinTest, Ast.eval]
  simp only [daysAgo_eval, castTerm, Ast.eval, columnTerm_eval, shows (foldName tsColumn),
    Option.bind_some, Option.bind_eq_bind, Option.bind_fun_some]
  rfl

/-! ### Probes -/

variable {α : Type} {source : Aliased} {columns : List String} {rows : Multiset α}
  {cells : α → String → V}

/-- A row of the probed table, in scope. -/
abbrev rowEnv (env : Env V) (source : Aliased) (columns : List String) (cells : String → V) : Env V :=
  env.enter ((⟨columns, 0⟩ : Stored V).frame source.alias_ cells)

omit [DecidableEq V] in
theorem rowEnv_self (cell : String → V) :
    (rowEnv env source columns cell).column E.null source.alias_ name = cell name :=
  Env.column_enter_self _

omit [DecidableEq V] in
theorem rowEnv_of_ne (cell : String → V) (ne : source.alias_ ≠ rel) :
    (rowEnv env source columns cell).column E.null rel name = env.column E.null rel name :=
  Env.column_enter_of_ne _ ne

/-- What the tests of a probe come to, for a row. -/
def probed (E : Engine V) (env : Env V) (source : Aliased) (columns : List String)
    (cells : α → String → V) (tests : List Test) (row : α) : Truth :=
  Truth.all (tests.map fun test => test.eval E.toScalars (rowEnv env source columns (cells row)))

theorem probe_eval
    (present : env.tables source.catalog source.table = some ⟨columns, rows.map cells⟩)
    (first : Test) (rest : List Test) :
    found (((probe source first rest [] (.noClause .HAVING)).eval E.toScalars env).map Table.rows) =
      found (keep (probed E env source columns cells (first :: rest)) rows) := by
  have one (env : Env V) : (Ast.item (numeralTerm "1") none).eval E.toScalars env =
      some [E.numeral "1"] := by simp [Ast.eval, numeralTerm]
  rw [probe, Ast.eval, Aliased.phrase, found_select present rfl one, keep_map, found_map]
  simp only [Ast.eval, conjunction_eval]
  rfl

/-- A probe of a stored table for rows of a user: what the table holds, whose its rows are, and
the user the base row is of. -/
structure Probes (E : Engine V) (env : Env V) (source : Aliased) (columns : List String)
    (rows : Multiset α) (cells : α → String → V) (userKey baseKey : String)
    (userOf ownerOf : α → Cell) (user : Cell) : Prop where
  present : env.tables source.catalog source.table = some ⟨columns, rows.map cells⟩
  theirs : ∀ row ∈ rows, cells row userKey = E.cell (userOf row)
  owned : ∀ row ∈ rows, cells row "tenant_id" = E.cell (ownerOf row)
  base : env.column E.null "base" (foldName baseKey) = E.cell user
  apart : source.alias_ ≠ "base"

variable {userKey baseKey tenant : String} {userOf ownerOf : α → Cell} {user : Cell}

/-- The rows of a user and a tenant. -/
def ownedBy (userOf ownerOf : α → Cell) (user : Cell) (tenant : String) (rows : Multiset α) :
    Multiset α :=
  rows.filter fun row => joins (userOf row) user = true ∧ ownerOf row = some tenant

theorem alike_owner {owner : Cell} : alike owner (some tenant) = .yes ↔ owner = some tenant := by
  rw [alike_eq_yes, joins_eq_true]
  exact ⟨fun ⟨_, same, other⟩ => same.trans other.symm, fun same => ⟨tenant, same, rfl⟩⟩

variable (tenant) in
/-- The rows of another user or tenant never count, whatever the other tests come to. -/
theorem Probes.keep_owned
    (probes : Probes E env source columns rows cells userKey baseKey userOf ownerOf user)
    (others : List Test) :
    keep (probed E env source columns cells (sameUserTest source.alias_ userKey baseKey ::
        tenantTest source.alias_ tenant :: others)) rows =
      keep (probed E env source columns cells others)
        (ownedBy userOf ownerOf user tenant rows) := by
  let own (row : α) : Truth := (alike (userOf row) user).both (alike (ownerOf row) (some tenant))
  have never (row : α) : own row ≠ .failed := by
    have first := alike_ne_failed (userOf row) user
    have second := alike_ne_failed (ownerOf row) (some tenant)
    dsimp only [own]
    generalize alike (userOf row) user = left at first ⊢
    generalize alike (ownerOf row) (some tenant) = right at second ⊢
    cases left <;> cases right <;> simp_all [Truth.both]
  have split (row : α) (member : row ∈ rows) :
      probed E env source columns cells (sameUserTest source.alias_ userKey baseKey ::
        tenantTest source.alias_ tenant :: others) row =
          (own row).both (probed E env source columns cells others row) := by
    have same := @sameUserTest_eval _ _ E (rowEnv env source columns (cells row)) source.alias_
      userKey baseKey (userOf row) user ((rowEnv_self _).trans (probes.theirs row member))
      ((rowEnv_of_ne _ probes.apart).trans probes.base)
    have theirs := @tenantTest_eval _ _ E (rowEnv env source columns (cells row)) source.alias_
      tenant (ownerOf row) ((rowEnv_self _).trans (probes.owned row member))
    rw [probed, List.map_cons, List.map_cons, Truth.all_cons, Truth.all_cons, same, theirs,
      ← Truth.both_assoc]
    rfl
  rw [keep_congr split, keep_both fun row _ => never row, ownedBy]
  refine congrArg _ (Multiset.filter_congr fun row _ => ?_)
  rw [Truth.both_eq_yes, alike_eq_yes, alike_owner]

variable (tenant) in
/-- A probe finds what the rows of the user and the tenant come to under its other tests. -/
theorem Probes.found
    (probes : Probes E env source columns rows cells userKey baseKey userOf ownerOf user)
    (others : List Test) :
    found (((probe source (sameUserTest source.alias_ userKey baseKey)
        (tenantTest source.alias_ tenant :: others) [] (.noClause .HAVING)).eval E.toScalars
          env).map Table.rows) =
      Sql.found (keep (probed E env source columns cells others)
        (ownedBy userOf ownerOf user tenant rows)) := by
  rw [probe_eval probes.present, probes.keep_owned]

/-- The frames of some rows. -/
abbrev rowFrame (source : Aliased) (columns : List String) (cells : α → String → V) (row : α) :
    Frame V :=
  (⟨columns, 0⟩ : Stored V).frame source.alias_ (cells row)

variable (tenant) in
/-- A grouped probe of one user's rows has one group of them, if it has any. -/
theorem Probes.found_grouped
    (probes : Probes E env source columns rows cells userKey baseKey userOf ownerOf user)
    (others : List Test) {refs : List ColumnRef} (filled : refs ≠ []) {values : List V}
    (keyed : ∀ row ∈ ownedBy userOf ownerOf user tenant rows,
      probed E env source columns cells others row = .yes →
        refs.map ((rowEnv env source columns (cells row)).ref E.null) = values)
    (having : Ast Value (.clause .HAVING)) :
    Sql.found (((probe source (sameUserTest source.alias_ userKey baseKey)
        (tenantTest source.alias_ tenant :: others) refs having).eval E.toScalars env).map
          Table.rows) =
      match keep (probed E env source columns cells others)
          (ownedBy userOf ownerOf user tenant rows) with
      | none => .failed
      | some kept =>
          if kept.card = 0 then .no
          else (having.eval E.toScalars (env.enterGroup (groupRow refs values)
            (kept.map (rowFrame source columns cells)))).settled := by
  have one (env : Env V) : (Ast.item (numeralTerm "1") none).eval E.toScalars env =
      some [E.numeral "1"] := by simp [Ast.eval, numeralTerm]
  rw [probe, Ast.eval, Aliased.phrase, found_select_grouped probes.present filled one, keep_map]
  simp only [Ast.eval, conjunction_eval]
  change Sql.found (((keep (probed E env source columns cells (sameUserTest source.alias_ userKey
    baseKey :: tenantTest source.alias_ tenant :: others)) rows).map (Multiset.map cells)).bind _) = _
  rw [probes.keep_owned]
  cases held : keep (probed E env source columns cells others)
      (ownedBy userOf ownerOf user tenant rows) with
  | none => rfl
  | some kept =>
    obtain ⟨-, whole⟩ := keep_eq_some.mp held
    have key : ∀ frame ∈ kept.map (rowFrame source columns cells),
        refs.map ((env.enter frame).ref E.null) = values := by
      intro frame member
      obtain ⟨row, among, rfl⟩ := Multiset.mem_map.mp member
      rw [← whole, Multiset.mem_filter] at among
      exact keyed row among.1 among.2
    have framed : (kept.map cells).map ((⟨columns, rows.map cells⟩ : Stored V).frame source.alias_) =
        kept.map (rowFrame source columns cells) := by
      rw [Multiset.map_map]
      rfl
    rw [Option.map_some, Option.bind_some, framed, groupsOf_alike E.toScalars filled key,
      Multiset.card_map]
    by_cases empty : kept.card = 0
    · rw [if_pos empty]
      simp only [if_pos empty]
      rfl
    · rw [if_neg empty, found_keep_singleton]
      simp only [if_neg empty]

end

end ConsumerEngine.Query
