import ConsumerEngine.Sql.Scope

/-! What the selects of the fragment come to: from one stored table, with or without groups, and
the tests that ask whether they find anything.
-/

set_option autoImplicit false

namespace ConsumerEngine.Sql

/-! ### Columns -/

section
variable {V : Type} {null : V} {env : Env V} {called relation name : String} {columns : List String}
  {cell : String → V}

/-- A row of one relation, in scope. -/
def Stored.frame (stored : Stored V) (called : String) (cell : String → V) : Frame V :=
  [⟨called, stored.columns, cell⟩]

theorem Env.column_enter_self (stored : Stored V) :
    (env.enter (stored.frame called cell)).column null called name = cell name := by
  simp [Env.column, Env.enter, Stored.frame]

theorem Env.column_enter_of_ne (stored : Stored V) (ne : called ≠ relation) :
    (env.enter (stored.frame called cell)).column null relation name =
      env.column null relation name := by
  simp [Env.column, Env.enter, Stored.frame, ne]

/-- A relation in scope that none before it is called like. -/
theorem Env.column_enter_amid {front : Frame V} {binding : Binding V} (rest : Frame V)
    (apart : ∀ other ∈ front, other.name ≠ binding.name) :
    (env.enter (front ++ binding :: rest)).column null binding.name name = binding.cell name := by
  have none_ : front.find? (·.name = binding.name) = none :=
    List.find?_eq_none.mpr fun other member => by simpa using apart other member
  simp [Env.column, Env.enter, none_]

end

/-! ### Groups -/

section
variable {M V : Type} [DecidableEq V] (S : Scalars M V)

/-- The row a group stands for: its values under the columns it is made by. -/
def groupRow (refs : List ColumnRef) (values : List V) : Frame V :=
  (refs.zip values).map fun (ref, value) => ⟨ref.relation.getD "", [ref.name], fun _ => value⟩

/-- Frames alike in the columns are one group, or none where there are no frames. -/
theorem groupsOf_alike {env : Env V} {refs : List ColumnRef} (filled : refs ≠ [])
    {frames : Multiset (Frame V)} {values : List V}
    (alike : ∀ frame ∈ frames, refs.map ((env.enter frame).ref S.null) = values) :
    groupsOf S env refs frames =
      if frames.card = 0 then 0 else {(groupRow refs values, frames)} := by
  unfold groupsOf
  rw [if_neg (by simpa using filled)]
  dsimp only
  have keys : frames.map (fun frame => refs.map ((env.enter frame).ref S.null)) =
      Multiset.replicate frames.card values := by
    rw [Multiset.map_congr rfl alike, Multiset.map_const']
  rw [keys]
  by_cases empty : frames.card = 0
  · rw [if_pos empty, empty]
    rfl
  · have whole : frames.filter (fun frame => refs.map ((env.enter frame).ref S.null) = values) =
        frames := Multiset.filter_eq_self.mpr alike
    rw [if_neg empty, ← Multiset.nsmul_singleton, Multiset.dedup_nsmul empty,
      Multiset.dedup_singleton, Multiset.map_singleton, whole]
    rfl

/-- Frames told apart by a key are grouped by it. -/
theorem groupsOf_keyed {α κ : Type} [DecidableEq κ] {env : Env V} {refs : List ColumnRef}
    (filled : refs ≠ []) {rows : Multiset α} {frame : α → Frame V} {keyOf : α → κ}
    {shown : κ → List V} (injective : Function.Injective shown)
    (keyed : ∀ row, refs.map ((env.enter (frame row)).ref S.null) = shown (keyOf row)) :
    groupsOf S env refs (rows.map frame) = (rows.map keyOf).dedup.map fun key =>
      (groupRow refs (shown key), (rows.filter fun row => keyOf row = key).map frame) := by
  unfold groupsOf
  rw [if_neg (by simpa using filled)]
  dsimp only
  have keys : (rows.map frame).map (fun frame => refs.map ((env.enter frame).ref S.null)) =
      (rows.map keyOf).map shown := by
    simp only [Multiset.map_map, Function.comp_def, keyed]
  rw [keys, Multiset.dedup_map_of_injective injective, Multiset.map_map]
  refine Multiset.map_congr rfl fun key _ => ?_
  simp only [Function.comp_apply, Multiset.filter_map, keyed, injective.eq_iff]
  rfl

/-! ### Selects from one table -/

variable {S} {env : Env V} {catalog name called : String} {stored : Stored V}

/-- A named query as the only source. -/
theorem eval_from_named {table : Table V} (named : env.named.lookup name = some table) :
    (Ast.from (.named name none) .noJoin : Ast M .source).eval S env =
      some ((table.stored S.null).rows.map fun cell =>
        ((table.stored S.null).frame name cell, .yes)) := by
  simp only [Ast.eval, named, Option.map_some, Option.getD_none]
  rfl

theorem eval_from (present : env.tables catalog name = some stored) :
    (Ast.from (.table catalog name (some called)) .noJoin : Ast M .source).eval S env =
      some (stored.rows.map fun cell => (stored.frame called cell, .yes)) := by
  simp only [Ast.eval, present, Option.map_some, Option.getD_some]
  rfl

/-- A stored table under its own name as the only source. -/
theorem eval_from_uncalled (present : env.tables catalog name = some stored) :
    (Ast.from (.table catalog name none) .noJoin).eval S env =
      some (stored.rows.map fun cell => (stored.frame name cell, .yes)) := by
  simp only [Ast.eval, present, Option.map_some, Option.getD_none]
  rfl

/-- A query under an alias as the only source. -/
theorem eval_from_derived {query : Ast M .query} {table : Table V}
    (given : query.eval S env = some table) :
    (Ast.from (.derived query called) .noJoin).eval S env =
      some ((table.stored S.null).rows.map fun cell =>
        ((table.stored S.null).frame called cell, .yes)) := by
  simp only [Ast.eval, given, Option.map_some]
  rfl

omit [DecidableEq V] in
/-- The rows that meet a condition, of frames that no join has judged. -/
theorem keep_unjoined {α β : Type} (frame : α → Frame V) (truth : Frame V → Truth)
    (rows : Multiset α) (next : Multiset (Frame V) → Option β) :
    (keep (fun (frame, joined) => joined.both (truth frame))
        (rows.map fun row => (frame row, Truth.yes))).bind (fun kept => next (kept.map Prod.fst)) =
      (keep (fun row => truth (frame row)) rows).bind fun kept => next (kept.map frame) := by
  rw [keep_map, Option.bind_map]
  simp only [Truth.yes_both]
  refine congrArg (Option.bind _) (funext fun kept => ?_)
  rw [Function.comp_apply, Multiset.map_map]
  rfl

section
variable {α : Type} {source : Ast M .source} {rows : Multiset α} {frame : α → Frame V}

/-- A select of plain values from rows that no join has judged. -/
theorem eval_select_plain {unique : Bool} {items : Ast M .items} {filter : Ast M (.clause .WHERE)}
    {order limit : Option String} (plain : items.sums = false)
    (given : source.eval S env = some (rows.map fun row => (frame row, .yes))) :
    (Ast.select unique items source filter [] (.noClause .HAVING) order limit).eval S env =
      (keep (fun row => filter.eval S (env.enter (frame row))) rows).bind fun kept =>
        (mapAll (fun row => items.eval S (env.enter (frame row))) kept).map
          (finish S unique items.names order limit) := by
  rw [Ast.eval]
  dsimp only
  rw [given]
  simp only [selectRows, plain, Ast.sums, List.isEmpty_nil, Bool.not_true, Bool.or_self,
    Bool.false_eq_true, ↓reduceIte, Option.bind_eq_bind, Option.bind_some]
  rw [Option.bind_assoc]
  refine (keep_unjoined frame (fun frame => filter.eval S (env.enter frame)) rows fun frames =>
    (mapAll (fun frame => items.eval S (env.enter frame)) frames).bind fun rows =>
      pure (finish S unique items.names order limit rows)).trans ?_
  simp only [mapAll_map, Option.map_eq_bind]
  rfl

/-- A select from the groups of rows that no join has judged. -/
theorem eval_select_groups {items : Ast M .items} {filter : Ast M (.clause .WHERE)}
    {refs : List ColumnRef} {having : Ast M (.clause .HAVING)} {order limit : Option String}
    (filled : refs ≠ [])
    (given : source.eval S env = some (rows.map fun row => (frame row, .yes))) :
    (Ast.select false items source filter refs having order limit).eval S env =
      (keep (fun row => filter.eval S (env.enter (frame row))) rows).bind fun kept =>
        (keep (fun (frame, group) => having.eval S (env.enterGroup frame group))
          (groupsOf S env refs (kept.map frame))).bind
            fun groups => (mapAll (fun (frame, group) => items.eval S (env.enterGroup frame group))
              groups).map (finish S false items.names order limit) := by
  have some_ : refs.isEmpty = false := by simpa using filled
  rw [Ast.eval]
  dsimp only
  rw [given]
  simp only [selectRows, some_, Bool.not_false, Bool.true_or, ↓reduceIte, Option.bind_eq_bind,
    Option.bind_some, Option.bind_assoc]
  refine (keep_unjoined frame (fun frame => filter.eval S (env.enter frame)) rows fun frames =>
    (keep (fun (frame, group) => having.eval S (env.enterGroup frame group))
      (groupsOf S env refs frames)).bind fun left =>
        (mapAll (fun (frame, group) => items.eval S (env.enterGroup frame group)) left).bind
          fun rows => pure (finish S false items.names order limit rows)).trans ?_
  simp only [Option.map_eq_bind]
  rfl

/-- A select from all groups of rows that no join has judged. -/
theorem eval_select_each_group {items : Ast M .items} {filter : Ast M (.clause .WHERE)}
    {refs : List ColumnRef} {order limit : Option String} (filled : refs ≠ [])
    (given : source.eval S env = some (rows.map fun row => (frame row, .yes))) :
    (Ast.select false items source filter refs (.noClause .HAVING) order limit).eval S env =
      (keep (fun row => filter.eval S (env.enter (frame row))) rows).bind fun kept =>
        (mapAll (fun group => items.eval S (env.enterGroup group.1 group.2))
          (groupsOf S env refs (kept.map frame))).map (finish S false items.names order limit) := by
  rw [eval_select_groups filled given]
  refine congrArg _ (funext fun kept => ?_)
  simp only [Ast.eval, keep_yes, Option.bind_some]

end

/-- A select of plain values from one table. -/
theorem eval_select {unique : Bool} {items : Ast M .items} {filter : Ast M (.clause .WHERE)}
    {limit : Option String} (present : env.tables catalog name = some stored)
    (plain : items.sums = false) :
    (Ast.select unique items (.from (.table catalog name (some called)) .noJoin) filter []
        (.noClause .HAVING) none limit).eval S env =
      (keep (fun cell => filter.eval S (env.enter (stored.frame called cell))) stored.rows).bind
        fun kept => (mapAll (fun cell => items.eval S (env.enter (stored.frame called cell))) kept).map
          (finish S unique items.names none limit) :=
  eval_select_plain plain (eval_from present)

/-- Whether a select of constants finds anything. -/
theorem found_select {items : Ast M .items} {filter : Ast M (.clause .WHERE)} {values : List V}
    (present : env.tables catalog name = some stored) (plain : items.sums = false)
    (constant : ∀ env, items.eval S env = some values) :
    found (((Ast.select false items (.from (.table catalog name (some called)) .noJoin) filter []
        (.noClause .HAVING) none none).eval S env).map Table.rows) =
      found (keep (fun cell => filter.eval S (env.enter (stored.frame called cell))) stored.rows) := by
  rw [eval_select present plain]
  cases keep (fun cell => filter.eval S (env.enter (stored.frame called cell))) stored.rows with
  | none => rfl
  | some kept =>
    simp only [Option.bind_some, constant, mapAll_some, Option.map_some, finish, Bool.false_eq_true,
      ↓reduceIte, found, Multiset.card_map]

/-- A select of plain values from the groups of one table. -/
theorem eval_select_grouped {items : Ast M .items} {filter : Ast M (.clause .WHERE)}
    {refs : List ColumnRef} {having : Ast M (.clause .HAVING)}
    (present : env.tables catalog name = some stored) (filled : refs ≠ []) :
    (Ast.select false items (.from (.table catalog name (some called)) .noJoin) filter refs having
        none none).eval S env =
      (keep (fun cell => filter.eval S (env.enter (stored.frame called cell))) stored.rows).bind
        fun kept => (keep (fun (frame, group) => having.eval S (env.enterGroup frame group))
          (groupsOf S env refs (kept.map (stored.frame called)))).bind
            fun groups => (mapAll (fun (frame, group) => items.eval S (env.enterGroup frame group))
              groups).map fun rows => ⟨items.names, rows⟩ :=
  eval_select_groups filled (eval_from present)

/-- Whether a grouped select of constants finds anything. -/
theorem found_select_grouped {items : Ast M .items} {filter : Ast M (.clause .WHERE)}
    {refs : List ColumnRef} {having : Ast M (.clause .HAVING)} {values : List V}
    (present : env.tables catalog name = some stored) (filled : refs ≠ [])
    (constant : ∀ env, items.eval S env = some values) :
    found (((Ast.select false items (.from (.table catalog name (some called)) .noJoin) filter refs
        having none none).eval S env).map Table.rows) =
      found ((keep (fun cell => filter.eval S (env.enter (stored.frame called cell)))
        stored.rows).bind fun kept =>
          keep (fun (frame, group) => having.eval S (env.enterGroup frame group))
            (groupsOf S env refs (kept.map (stored.frame called)))) := by
  rw [eval_select_grouped present filled]
  cases keep (fun cell => filter.eval S (env.enter (stored.frame called cell))) stored.rows with
  | none => rfl
  | some kept =>
    simp only [Option.bind_some]
    cases keep (fun (frame, group) => having.eval S (env.enterGroup frame group))
        (groupsOf S env refs (kept.map (stored.frame called))) with
    | none => rfl
    | some groups =>
      simp only [Option.bind_some, constant, mapAll_some, Option.map_some, found,
        Multiset.card_map]

/-- A select that sums up all rows of its sources gives one row. -/
theorem eval_select_whole {items : Ast M .items} {source : Ast M .source}
    {filter : Ast M (.clause .WHERE)} (sums : items.sums = true) :
    (Ast.select false items source filter [] (.noClause .HAVING) none none).eval S env =
      (source.eval S env).bind fun frames =>
        (keep (fun (frame, joined) => joined.both (filter.eval S (env.enter frame))) frames).bind
          fun kept => (items.eval S (env.enterGroup [] (kept.map Prod.fst))).map
            fun row => ⟨items.names, {row}⟩ := by
  have whole (rows : Multiset (Frame V)) : groupsOf S env [] rows = {([], rows)} := rfl
  have always (bag : Multiset (Frame V × Multiset (Frame V))) :
      keep (fun (_, _) => Truth.yes) bag = some bag := keep_yes bag
  rw [Ast.eval]
  simp only [selectRows, sums, List.isEmpty_nil, Bool.not_true, Bool.false_or, Bool.true_or,
    ↓reduceIte, Ast.eval, whole, always, Option.bind_eq_bind, Option.bind_some, mapAll_singleton,
    Option.pure_def, finish, Bool.false_eq_true, Option.bind_assoc, Option.map_eq_bind,
    Function.comp_def]

/-- A select that sums up rows that no join has judged. -/
theorem eval_select_summed {α : Type} {items : Ast M .items} {source : Ast M .source}
    {filter : Ast M (.clause .WHERE)} {rows : Multiset α} {frame : α → Frame V}
    (sums : items.sums = true)
    (given : source.eval S env = some (rows.map fun row => (frame row, .yes))) :
    (Ast.select false items source filter [] (.noClause .HAVING) none none).eval S env =
      (keep (fun row => filter.eval S (env.enter (frame row))) rows).bind fun kept =>
        (items.eval S (env.enterGroup [] (kept.map frame))).map fun row => ⟨items.names, {row}⟩ := by
  rw [eval_select_whole sums, given, Option.bind_some]
  exact keep_unjoined frame (fun frame => filter.eval S (env.enter frame)) rows fun group =>
    (items.eval S (env.enterGroup [] group)).map fun row => Table.mk items.names {row}

/-! ### Joins -/

omit [DecidableEq V] in
/-- The rows of a relation that a frame joins with, where the condition never fails. -/
theorem joinRows_inner {α : Type} {rows : Multiset α} {columns : List String} {cells : α → String → V}
    {on : Frame V → Truth} {frame : Frame V}
    (decided : ∀ row ∈ rows, on (frame ++ [⟨name, columns, cells row⟩]) ≠ .failed) :
    joinRows S false name ⟨columns, rows.map cells⟩ on (frame, .yes) =
      (rows.filter fun row => on (frame ++ [⟨name, columns, cells row⟩]) = .yes).map fun row =>
        (frame ++ [⟨name, columns, cells row⟩], .yes) := by
  have holds (row : α) (member : row ∈ rows) :
      (on (frame ++ [⟨name, columns, cells row⟩]) = .yes ∨
        on (frame ++ [⟨name, columns, cells row⟩]) = .failed) ↔
          on (frame ++ [⟨name, columns, cells row⟩]) = .yes :=
    or_iff_left (decided row member)
  simp only [joinRows, Bool.false_eq_true, false_and, ↓reduceIte, Multiset.map_map,
    Multiset.filter_map, Function.comp_def, Truth.yes_both]
  rw [Multiset.filter_congr holds]
  refine Multiset.map_congr rfl fun row member => ?_
  rw [(Multiset.mem_filter.mp member).2]

omit [DecidableEq V] in
/-- A left join with at most one row to find keeps the frame, beside that row or nulls. -/
theorem joinRows_left_unique {α : Type} {rows : Multiset α} {columns : List String}
    {cells : α → String → V} {on : Frame V → Truth} {frame : Frame V} {partner : Option α}
    (decided : ∀ row ∈ rows, on (frame ++ [⟨name, columns, cells row⟩]) ≠ .failed)
    (unique : rows.filter (fun row => on (frame ++ [⟨name, columns, cells row⟩]) = .yes) =
      (partner.toList : Multiset α)) :
    joinRows S true name ⟨columns, rows.map cells⟩ on (frame, .yes) =
      {(frame ++ [⟨name, columns, (partner.map cells).getD fun _ => S.null⟩], .yes)} := by
  have holds (row : α) (member : row ∈ rows) :
      (on (frame ++ [⟨name, columns, cells row⟩]) = .yes ∨
        on (frame ++ [⟨name, columns, cells row⟩]) = .failed) ↔
          on (frame ++ [⟨name, columns, cells row⟩]) = .yes :=
    or_iff_left (decided row member)
  simp only [joinRows, true_and, Multiset.map_map, Multiset.filter_map, Function.comp_def,
    Truth.yes_both]
  rw [Multiset.filter_congr holds, unique]
  cases partner with
  | none => rfl
  | some row =>
    have met : on (frame ++ [⟨name, columns, cells row⟩]) = .yes := by
      have member : row ∈ rows.filter fun row =>
          on (frame ++ [⟨name, columns, cells row⟩]) = .yes := by
        rw [unique]
        exact List.mem_singleton_self row
      exact (Multiset.mem_filter.mp member).2
    simp [met]

end

end ConsumerEngine.Sql
