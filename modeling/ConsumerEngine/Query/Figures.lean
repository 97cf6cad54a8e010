import ConsumerEngine.Query.Profiles

/-! The figures of a profile, from its event rows: each is drawn from the rows of the segment's
users, or from all.
-/

set_option autoImplicit false

namespace ConsumerEngine.Query

open ConsumerEngine.Core ConsumerEngine.Sql ConsumerEngine.Storage

/-! ### The rows of `ev` -/

section
variable {V : Type} [DecidableEq V] {E : Engine V} {env : Env V} {of : Figure} {users : Finset Cell}
  {pairs : Multiset (RawRow × V)}

/-- A row of `ev`, in scope. -/
def eventFrame (E : Engine V) (of : Figure) (users : Finset Cell) (pair : RawRow × V) : Frame V :=
  [⟨"ev", ["user_id", of.label, "in_seg"], fun name =>
    ((["user_id", of.label, "in_seg"].zip [E.cell (pair.1 "user_id"), pair.2,
      E.boolean (decide (InSegment users pair.1))]).lookup name).getD E.null⟩]

theorem eventSource_eval (named : env.named.lookup "ev" = some (eventTable E of users pairs)) :
    (Ast.from (.named "ev" none) .noJoin).eval E.toScalars env =
      some (pairs.map fun pair => (eventFrame E of users pair, .yes)) := by
  rw [eval_from_named named]
  simp only [Table.stored, eventTable, Multiset.map_map]
  rfl

section
variable {pair : RawRow × V} (shows : env.frame = eventFrame E of users pair)

omit [DecidableEq V]

include shows

theorem bare_user : env.bare E.null "user_id" = E.cell (pair.1 "user_id") := by
  simp [Env.bare, shows, eventFrame]

theorem bare_inSegment :
    env.bare E.null "in_seg" = E.boolean (decide (InSegment users pair.1)) := by
  cases of <;> simp [Env.bare, shows, eventFrame, Figure.label, List.lookup_cons]

theorem bare_drawn : env.bare E.null of.label = pair.2 := by
  cases of <;> simp [Env.bare, shows, eventFrame, Figure.label, List.lookup_cons]

end

/-- The rows of the segment's users, or all. -/
def chosen (inSegment : Bool) (users : Finset Cell) (pairs : Multiset (RawRow × V)) :
    Multiset (RawRow × V) :=
  pairs.filter fun pair => inSegment = true → InSegment users pair.1

theorem keptRows_eval (inSegment : Bool) :
    keep (fun pair => (keptRows inSegment).eval E.toScalars (env.enter (eventFrame E of users pair)))
        pairs = some (chosen inSegment users pairs) := by
  cases inSegment with
  | false =>
    have whole : chosen false users pairs = pairs :=
      Multiset.filter_eq_self.mpr fun _ _ impossible => (by cases impossible)
    rw [whole]
    exact keep_yes pairs
  | true =>
    have met (pair : RawRow × V) : (keptRows true).eval E.toScalars
        (env.enter (eventFrame E of users pair)) = .ofBool (decide (InSegment users pair.1)) := by
      have shown := @bare_inSegment _ E (env.enter (eventFrame E of users pair)) of users pair rfl
      simp only [keptRows, ↓reduceIte, Ast.eval, bareTerm, shown, Option.bind_eq_bind,
        Option.bind_some, E.truth_boolean]
    simp only [met, keep_ofBool, chosen, true_imp_iff]

/-- What the sum over the rows of `ev` comes to, as the value of a figure. -/
theorem figure_eval {value : Term} {inSegment : Bool} {total : Option V}
    (named : env.named.lookup "ev" = some (eventTable E of users pairs))
    (sums : value.sums = true)
    (summed : value.eval E.toScalars (env.enterGroup []
      ((chosen inSegment users pairs).map (eventFrame E of users))) = total) :
    (figure value "ev" (keptRows inSegment)).eval E.toScalars env = total := by
  have items : (Ast.item value none).sums = true := sums
  rw [figure, Ast.eval]
  dsimp only
  rw [eval_select_summed items (eventSource_eval named), keptRows_eval, Option.bind_some, eval_item,
    summed]
  cases total with
  | none => rfl
  | some total => exact E.only_singleton total

theorem ordersFigure_eval {inSegment : Bool}
    (named : env.named.lookup "ev" = some (eventTable E of users pairs)) :
    (ordersFigure inSegment).eval E.toScalars env =
      some (E.bigint (chosen inSegment users pairs).card) := by
  refine figure_eval named (by decide) ?_
  rw [count_eval, Multiset.card_map]

theorem usersFigure_eval {inSegment : Bool}
    (named : env.named.lookup "ev" = some (eventTable E of users pairs)) :
    (usersFigure inSegment).eval E.toScalars env =
      E.usersOf ((chosen inSegment users pairs).map Prod.fst) := by
  refine figure_eval named (by decide) ?_
  have args (pair : RawRow × V) (env : Env V) :
      (Ast.distinct (bareTerm "user_id")).eval E.toScalars (env.member (eventFrame E of users pair)) =
        some [E.cell (pair.1 "user_id")] := by
    simp only [Ast.eval, bareTerm, @bare_user _ E (env.member (eventFrame E of users pair)) of users
      pair rfl, Option.bind_eq_bind, Option.bind_some, Option.map_some]
  rw [aggregate_eval (by decide), aggregated]
  simp only [Env.enterGroup, mapAll_map, args, mapAll_some, Ast.isDistinct, ↓reduceIte,
    Option.bind_eq_bind, Option.bind_some, Engine.usersOf, Multiset.map_map, Function.comp_def]

theorem amountFigure_eval {inSegment : Bool}
    (named : env.named.lookup "ev" = some (eventTable E .metrics users pairs)) :
    (amountFigure inSegment).eval E.toScalars env =
      E.aggregate "sum" ((chosen inSegment users pairs).map fun pair => [pair.2]) := by
  refine figure_eval named (by decide) ?_
  have args (pair : RawRow × V) (env : Env V) : (Ast.given (.last (bareTerm "amount"))).eval
      E.toScalars (env.member (eventFrame E .metrics users pair)) = some [pair.2] := by
    have drawn := @bare_drawn _ E (env.member (eventFrame E .metrics users pair)) .metrics users pair rfl
    rw [Figure.label] at drawn
    simp only [Ast.eval, bareTerm, drawn, Option.bind_eq_bind, Option.bind_some, Option.map_some]
  rw [aggregate_eval (by decide), aggregated]
  simp only [Env.enterGroup, mapAll_map, args, mapAll_some, Ast.isDistinct, Bool.false_eq_true,
    ↓reduceIte, Option.bind_eq_bind, Option.bind_some]

theorem ratio_eval (first second : Ast Value .primary) :
    (ratio first second).eval E.toScalars env =
      E.ratioOf (first.eval E.toScalars env) (second.eval E.toScalars env) := by
  have plain : isAggregate "nullif" = false := by decide
  simp only [ratio, Ast.eval, plain, Bool.false_eq_true, ↓reduceIte, listOf, numeralTerm,
    Engine.ratioOf, Option.bind_eq_bind, Option.bind_some, Option.bind_fun_some, Option.pure_def,
    Option.map_eq_bind, Option.bind_assoc, Function.comp_def]

/-! ### Event rows and what is drawn from them -/

omit [DecidableEq V] in
theorem chosen_all : chosen false users pairs = pairs :=
  Multiset.filter_eq_self.mpr fun _ _ impossible => (by cases impossible)

omit [DecidableEq V] in
theorem chosen_segment :
    (chosen true users pairs).map Prod.fst = eventsOf users (pairs.map Prod.fst) := by
  rw [eventsOf, Multiset.filter_map, chosen]
  refine congrArg _ (Multiset.filter_congr fun pair _ => ?_)
  rw [Function.comp_apply, imp_iff_right rfl]
  rfl

omit [DecidableEq V] in
/-- What is drawn from the rows chosen is what stands beside them. -/
theorem drawn_chosen {column : String} {inSegment : Bool}
    (drawn : ∀ pair ∈ pairs, E.drawn of column pair.1 = some pair.2) :
    mapAll (fun row => (E.drawn of column row).map ([·]))
        ((chosen inSegment users pairs).map Prod.fst) =
      some ((chosen inSegment users pairs).map fun pair => [pair.2]) := by
  rw [mapAll_map, ← mapAll_some]
  refine mapAll_congr fun pair member => ?_
  rw [drawn pair (Multiset.mem_of_mem_filter member), Option.map_some]

theorem amount_orderValue {column : String} {inSegment : Bool}
    (named : env.named.lookup "ev" = some (eventTable E .metrics users pairs))
    (drawn : ∀ pair ∈ pairs, E.drawn .metrics column pair.1 = some pair.2) :
    (ratio (amountFigure inSegment) (ordersFigure inSegment)).eval E.toScalars env =
      E.orderValue column ((chosen inSegment users pairs).map Prod.fst) := by
  have summed : E.summedUp "sum" column ((chosen inSegment users pairs).map Prod.fst) =
      E.aggregate "sum" ((chosen inSegment users pairs).map fun pair => [pair.2]) :=
    congrArg (fun rows => Option.bind rows (E.aggregate "sum")) (drawn_chosen drawn)
  rw [ratio_eval, amountFigure_eval named, ordersFigure_eval named, Engine.orderValue, summed,
    Multiset.card_map]

theorem orders_frequency {inSegment : Bool}
    (named : env.named.lookup "ev" = some (eventTable E of users pairs)) :
    (ratio (ordersFigure inSegment) (usersFigure inSegment)).eval E.toScalars env =
      E.frequency ((chosen inSegment users pairs).map Prod.fst) := by
  rw [ratio_eval, ordersFigure_eval named, usersFigure_eval named, Engine.frequency,
    Multiset.card_map]

theorem segmentFigure_eval (named : env.named.lookup "segment" = some (E.keyTable "user_id" users)) :
    (figure (callTerm "count" .star) "segment" (.noClause .WHERE)).eval E.toScalars env =
      some (E.bigint users.card) := by
  have sums : (Ast.item (callTerm "count" .star) none).sums = true := by decide
  have rows : ((E.keyTable "user_id" users).stored E.null).rows.card = users.card := by
    rw [stored_keys, Multiset.card_map]
    rfl
  rw [figure, Ast.eval]
  dsimp only
  rw [eval_select_summed sums (eval_from_named named)]
  simp only [Ast.eval, keep_yes, Option.bind_some]
  rw [count_eval, Multiset.card_map, rows]
  exact E.only_singleton _

/-- The row of metrics. -/
theorem metricsPhrase_eval {column : String}
    (segment : env.named.lookup "segment" = some (E.keyTable "user_id" users))
    (named : env.named.lookup "ev" = some (eventTable E .metrics users pairs))
    (drawn : ∀ pair ∈ pairs, E.drawn .metrics column pair.1 = some pair.2) :
    metricsPhrase.eval E.toScalars env = E.profiled column users (pairs.map Prod.fst) .metrics := by
  have body (query : Ast Value .select) :
      (Ast.body (.single query)).eval E.toScalars env = query.eval E.toScalars env := by
    simp only [Ast.eval]
  have nowhere : (Ast.nowhere : Ast Value .source).eval E.toScalars env =
      some (({()} : Multiset Unit).map fun _ => (([] : Frame V), Truth.yes)) := by
    rw [Ast.eval]
    rfl
  have alone (value : Ast Value .primary) (env : Env V) :
      (Ast.product value .done).eval E.toScalars env = value.eval E.toScalars env := by
    simp only [Ast.eval, Option.bind_eq_bind, Option.bind_fun_some]
  have always : keep (fun _ : Unit => (Ast.noClause (M := Value) .WHERE).eval E.toScalars
      (env.enter [])) {()} = some {()} := by
    simp only [Ast.eval]
    exact keep_yes _
  have segment' : (env.enter []).named.lookup "segment" = some (E.keyTable "user_id" users) := segment
  have named' : (env.enter []).named.lookup "ev" = some (eventTable E .metrics users pairs) := named
  rw [metricsPhrase, body, eval_select_plain rfl nowhere, always, Option.bind_some, mapAll_singleton]
  simp only [eval_itemThen, eval_item, alone, segmentFigure_eval segment', usersFigure_eval named',
    amount_orderValue named' drawn, orders_frequency named', ordersFigure_eval named', chosen_all,
    chosen_segment]
  rw [Engine.profiled, ← chosen_segment, Multiset.card_map, Multiset.card_map]
  simp only [Option.map_eq_bind, Option.bind_eq_bind, Option.bind_assoc, Option.bind_some,
    Option.pure_def, Function.comp_def]
  rfl

/-! ### Days since the last event -/

/-- What `per_user` holds of a user: whether an event counts as the segment's, and the last. -/
def Engine.perUser (E : Engine V) (users : Finset Cell) (pairs : Multiset (RawRow × V)) (user : Cell) :
    Option (V × V) := do
  let own := pairs.filter fun pair => pair.1 "user_id" = user
  let member ← E.aggregate "bool_or"
    (own.map fun pair => [E.boolean (decide (InSegment users pair.1))])
  let last ← E.aggregate "max" (own.map fun pair => [pair.2])
  return (member, last)

def perUserTable (E : Engine V) (rows : Multiset (Cell × V × V)) : Table V :=
  ⟨["user_id", "in_seg", "last_ts"], rows.map fun row => [E.cell row.1, row.2.1, row.2.2]⟩

/-- The average of the days since the last event, over rows of `per_user`. -/
def Engine.averageDays (E : Engine V) (rows : Multiset (Cell × V × V)) : Option V :=
  (mapAll (fun row => (E.daysSince row.2.2).map ([·])) rows).bind (E.aggregate "avg")

/-- The groups of `ev` by user. -/
theorem perUser_eval (named : env.named.lookup "ev" = some (eventTable E .recency users pairs)) :
    (Ast.single (.select false
        (.itemThen (bareTerm "user_id") none
          (.itemThen (callTerm "bool_or" (.given (.last (bareTerm "in_seg")))) (some "in_seg")
            (.item (callTerm "max" (.given (.last (bareTerm "ts")))) (some "last_ts"))))
        (.from (.named "ev" none) .noJoin) (.noClause .WHERE) [⟨none, "user_id"⟩] (.noClause .HAVING)
        none none)).eval E.toScalars env =
      (mapAll (fun user => (E.perUser users pairs user).map (Prod.mk user))
        (pairs.map fun pair => pair.1 "user_id").dedup).map (perUserTable E) := by
  have keyed (pair : RawRow × V) :
      [(⟨none, "user_id"⟩ : ColumnRef)].map ((env.enter (eventFrame E .recency users pair)).ref E.null) =
        [E.cell (pair.1 "user_id")] := by
    rw [List.map_singleton, Env.ref]
    exact congrArg ([·]) (@bare_user _ E (env.enter (eventFrame E .recency users pair)) _ users pair rfl)
  have items (user : Cell) : (Ast.itemThen (bareTerm "user_id") none
      (.itemThen (callTerm "bool_or" (.given (.last (bareTerm "in_seg")))) (some "in_seg")
        (.item (callTerm "max" (.given (.last (bareTerm "ts")))) (some "last_ts")))).eval E.toScalars
          (env.enterGroup (groupRow [⟨none, "user_id"⟩] [E.cell user])
            ((pairs.filter fun pair => pair.1 "user_id" = user).map (eventFrame E .recency users))) =
      ((E.perUser users pairs user).map (Prod.mk user)).map fun row =>
        [E.cell row.1, row.2.1, row.2.2] := by
    have own (group : Multiset (Frame V)) : (bareTerm "user_id").eval E.toScalars
        (env.enterGroup (groupRow [⟨none, "user_id"⟩] [E.cell user]) group) = some (E.cell user) := by
      simp [bareTerm, Ast.eval, Env.bare, Env.enterGroup, groupRow]
    have inSegment (pair : RawRow × V) (env : Env V) :
        (Ast.given (.last (bareTerm "in_seg"))).eval E.toScalars
          (env.member (eventFrame E .recency users pair)) =
            some [E.boolean (decide (InSegment users pair.1))] := by
      simp only [Ast.eval, bareTerm, @bare_inSegment _ E (env.member (eventFrame E .recency users pair))
        _ users pair rfl, Option.bind_eq_bind, Option.bind_some, Option.map_some]
    have drawn (pair : RawRow × V) (env : Env V) : (Ast.given (.last (bareTerm "ts"))).eval
        E.toScalars (env.member (eventFrame E .recency users pair)) = some [pair.2] := by
      have shown := @bare_drawn _ E (env.member (eventFrame E .recency users pair)) .recency users pair rfl
      rw [Figure.label] at shown
      simp only [Ast.eval, bareTerm, shown, Option.bind_eq_bind, Option.bind_some, Option.map_some]
    rw [eval_itemThen, eval_itemThen, eval_item, own, aggregate_eval (by decide),
      aggregate_eval (by decide), aggregated, aggregated]
    simp only [Env.enterGroup, mapAll_map, inSegment, drawn, mapAll_some, Ast.isDistinct,
      Bool.false_eq_true, ↓reduceIte, Engine.perUser, Option.bind_eq_bind, Option.bind_some,
      Option.map_eq_bind, Option.bind_assoc, Option.pure_def, Function.comp_def]
  have always (rows : Multiset (RawRow × V)) :
      keep (fun pair => (Ast.noClause (M := Value) .WHERE).eval E.toScalars
        (env.enter (eventFrame E .recency users pair))) rows = some rows := by
    simp only [Ast.eval]
    exact keep_yes _
  rw [Ast.eval, eval_select_each_group (by simp) (eventSource_eval named), always, Option.bind_some,
    groupsOf_keyed E.toScalars (by simp) keyRow_injective keyed, mapAll_map]
  simp only [items]
  rw [mapAll_after, Option.map_map]
  rfl

theorem filtered_eval {function : String} {args : Ast Value .args}
    {kept : Ast Value .cond} :
    (filteredTerm function args kept).eval E.toScalars env =
      (keep (fun frame => kept.eval E.toScalars (env.member frame)) env.group).bind
        (aggregated E.toScalars function args.isDistinct (args.eval E.toScalars) env) := by
  simp only [filteredTerm, Ast.eval, Option.bind_eq_bind, Option.bind_fun_some]

/-- A row of `per_user`, in scope. -/
def perUserFrame (E : Engine V) (row : Cell × V × V) : Frame V :=
  [⟨"per_user", ["user_id", "in_seg", "last_ts"], fun name =>
    ((["user_id", "in_seg", "last_ts"].zip [E.cell row.1, row.2.1, row.2.2]).lookup name).getD E.null⟩]

theorem recencyDays_eval (row : Cell × V × V) :
    recencyDays.eval E.toScalars (env.member (perUserFrame E row)) =
      (E.daysSince row.2.2).map ([·]) := by
  have last : (env.member (perUserFrame E row)).bare E.null "last_ts" = row.2.2 := by
    simp [Env.bare, Env.member, perUserFrame, List.lookup_cons]
  have plain : isAggregate "now" = false := by decide
  simp only [recencyDays, Ast.eval, callTerm, plain, Bool.false_eq_true, ↓reduceIte, last,
    Engine.daysSince, Option.bind_eq_bind, Option.bind_some, Option.bind_fun_some, Option.map_eq_bind,
    Option.bind_assoc, Function.comp_def]

/-- What the averages over `per_user` come to. -/
def Engine.recencyRow (E : Engine V) (rows : Multiset (Cell × V × V)) : Option (Table V) := do
  let mine ← keep (fun row => E.truth row.2.1) rows
  let segment ← E.averageDays mine
  let baseline ← E.averageDays rows
  return ⟨["seg_recency_days", "base_recency_days"], {[segment, baseline]}⟩

theorem averages_eval {rows : Multiset (Cell × V × V)}
    (named : env.named.lookup "per_user" = some (perUserTable E rows)) :
    (Ast.body (.single (.select false
      (.itemThen (filteredTerm "avg" recencyDays (.only (.holds (bareTerm "in_seg"))))
          (some "seg_recency_days")
        (.item (callTerm "avg" recencyDays) (some "base_recency_days")))
      (.from (.named "per_user" none) .noJoin) (.noClause .WHERE) [] (.noClause .HAVING) none
      none))).eval E.toScalars env = E.recencyRow rows := by
  have source : (Ast.from (.named "per_user" none) .noJoin).eval E.toScalars env =
      some (rows.map fun row => (perUserFrame E row, .yes)) := by
    rw [eval_from_named named]
    simp only [Table.stored, perUserTable, Multiset.map_map]
    rfl
  have sums : (Ast.itemThen (filteredTerm "avg" recencyDays (.only (.holds (bareTerm "in_seg"))))
      (some "seg_recency_days")
      (.item (callTerm "avg" recencyDays) (some "base_recency_days"))).sums = true := by rfl
  have always : keep (fun row => (Ast.noClause (M := Value) .WHERE).eval E.toScalars
      (env.enter (perUserFrame E row))) rows = some rows := by
    simp only [Ast.eval]
    exact keep_yes _
  have inSegment (row : Cell × V × V) (env : Env V) : (Ast.only (.holds (bareTerm "in_seg"))).eval
      E.toScalars (env.member (perUserFrame E row)) = E.truth row.2.1 := by
    have shown : (env.member (perUserFrame E row)).bare E.null "in_seg" = row.2.1 := by
      simp [Env.bare, Env.member, perUserFrame, List.lookup_cons]
    simp only [Ast.eval, bareTerm, shown, Option.bind_eq_bind, Option.bind_some]
  have averaged (rows : Multiset (Cell × V × V)) (env : Env V) :
      aggregated E.toScalars "avg" recencyDays.isDistinct (recencyDays.eval E.toScalars) env
        (rows.map (perUserFrame E)) = E.averageDays rows := by
    rw [aggregated, Engine.averageDays]
    simp only [mapAll_map, recencyDays_eval]
    rfl
  have body (query : Ast Value .select) :
      (Ast.body (.single query)).eval E.toScalars env = query.eval E.toScalars env := by
    simp only [Ast.eval]
  have filtered (env : Env V) (group : env.group = rows.map (perUserFrame E)) :
      (filteredTerm "avg" recencyDays (.only (.holds (bareTerm "in_seg")))).eval E.toScalars env =
        (keep (fun row => E.truth row.2.1) rows).bind E.averageDays := by
    rw [filtered_eval, group, keep_map, Option.bind_map]
    simp only [inSegment]
    exact congrArg _ (funext fun kept => averaged kept env)
  rw [body, eval_select_summed sums source, always, Option.bind_some, eval_itemThen, eval_item,
    filtered _ rfl, aggregate_eval (by decide)]
  have whole := averaged rows (env.enterGroup [] (rows.map (perUserFrame E)))
  simp only [Env.enterGroup] at whole ⊢
  rw [whole, Engine.recencyRow]
  simp only [Option.map_eq_bind, Option.bind_eq_bind, Option.bind_assoc, Option.bind_some,
    Option.pure_def, Function.comp_def]
  rfl

/-- The row of averages, from the groups by user. -/
theorem recencyPhrase_eval (named : env.named.lookup "ev" = some (eventTable E .recency users pairs)) :
    recencyPhrase.eval E.toScalars env =
      (mapAll (fun user => (E.perUser users pairs user).map (Prod.mk user))
        (pairs.map fun pair => pair.1 "user_id").dedup).bind E.recencyRow := by
  rw [recencyPhrase, Ast.eval]
  dsimp only
  rw [perUser_eval named, Option.bind_eq_bind, Option.bind_map]
  refine Option.bind_congr fun rows _ => ?_
  exact averages_eval (by simp [Env.withNamed])

/-! ### The most frequent categories -/

theorem counted_eval (group : Multiset (Frame V)) :
    aggregated E.toScalars "count" (Ast.star : Ast Value .args).isDistinct
        ((Ast.star : Ast Value .args).eval E.toScalars) env group = some (E.bigint group.card) := by
  have counted := @count_eval _ _ E env group []
  rw [aggregate_eval (by decide)] at counted
  simpa only [aggregated, Ast.eval, Env.enterGroup] using counted

/-- The rows of the most frequent categories. -/
theorem categoriesPhrase_eval {column : String} {events : Multiset RawRow}
    (named : env.named.lookup "ev" = some (eventTable E .categories users
      (events.map fun row => (row, E.cell (row (foldName column)))))) :
    categoriesPhrase.eval E.toScalars env = E.profiled column users events .categories := by
  let frame (row : RawRow) : Frame V :=
    eventFrame E .categories users (row, E.cell (row (foldName column)))
  have source : (Ast.from (.named "ev" none) .noJoin).eval E.toScalars env =
      some (events.map fun row => (frame row, .yes)) := by
    rw [eventSource_eval named, Multiset.map_map]
    rfl
  have keyed (row : RawRow) :
      [(⟨none, "category"⟩ : ColumnRef)].map ((env.enter (frame row)).ref E.null) =
        [E.cell (row (foldName column))] := by
    rw [List.map_singleton, Env.ref]
    exact congrArg ([·]) (@bare_drawn _ E (env.enter (frame row)) .categories users (row, _) rfl)
  have inSegment (row : RawRow) (env : Env V) : (Ast.only (.holds (bareTerm "in_seg"))).eval
      E.toScalars (env.member (frame row)) = .ofBool (decide (InSegment users row)) := by
    have shown := @bare_inSegment _ E (env.member (frame row)) .categories users (row, _) rfl
    simp only [Ast.eval, bareTerm, shown, Option.bind_eq_bind, Option.bind_some, E.truth_boolean]
  have items (category : Cell) : (Ast.itemThen (bareTerm "category") none
      (.itemThen (filteredTerm "count" .star (.only (.holds (bareTerm "in_seg")))) (some "seg_n")
        (.item (callTerm "count" .star) (some "base_n")))).eval E.toScalars
          (env.enterGroup (groupRow [⟨none, "category"⟩] [E.cell category])
            ((events.filter fun row => row (foldName column) = category).map frame)) =
      some [E.cell category,
        E.bigint ((eventsOf users events).filter fun row => row (foldName column) = category).card,
        E.bigint (events.filter fun row => row (foldName column) = category).card] := by
    have own (group : Multiset (Frame V)) : (bareTerm "category").eval E.toScalars
        (env.enterGroup (groupRow [⟨none, "category"⟩] [E.cell category]) group) =
          some (E.cell category) := by
      simp [bareTerm, Ast.eval, Env.bare, Env.enterGroup, groupRow]
    have mine : (events.filter fun row => row (foldName column) = category).filter (InSegment users) =
        (eventsOf users events).filter fun row => row (foldName column) = category := by
      rw [eventsOf, Multiset.filter_comm]
      rfl
    rw [eval_itemThen, eval_itemThen, eval_item, own, count_eval, filtered_eval]
    simp only [Env.enterGroup, keep_map, inSegment, keep_ofBool, mine, Option.map_some,
      Option.bind_some, counted_eval, Multiset.card_map]
  have always (rows : Multiset RawRow) : keep (fun row => (Ast.noClause (M := Value) .WHERE).eval
      E.toScalars (env.enter (frame row))) rows = some rows := by
    simp only [Ast.eval]
    exact keep_yes _
  have body (query : Ast Value .select) :
      (Ast.body (.single query)).eval E.toScalars env = query.eval E.toScalars env := by
    simp only [Ast.eval]
  rw [categoriesPhrase, body, eval_select_each_group (by simp) source, always, Option.bind_some,
    groupsOf_keyed E.toScalars (by simp) keyRow_injective keyed, mapAll_map]
  simp only [items, mapAll_some, Option.map_some]
  rfl

/-! ### Profiles -/

/-- What a profile query reports of a segment's users, from the events of the tenant. -/
def Engine.reported (E : Engine V) (column : String) (users : Finset Cell) (events : Multiset RawRow) :
    Figure → Option (Table V)
  | .recency =>
      (mapAll (fun row => (E.drawn .recency column row).map (Prod.mk row)) events).bind fun pairs =>
        (mapAll (fun user => (E.perUser users pairs user).map (Prod.mk user))
          (pairs.map fun pair => pair.1 "user_id").dedup).bind E.recencyRow
  | of => E.profiled column users events of

/-- A cell that cannot be cast leaves no average amount. -/
theorem profiled_metrics_none {column : String} {events : Multiset RawRow}
    (fails : mapAll (fun row => (E.drawn .metrics column row).map (Prod.mk row)) events = none) :
    E.profiled column users events .metrics = none := by
  obtain ⟨row, member, nothing⟩ := mapAll_eq_none.mp fails
  rw [Option.map_eq_none_iff] at nothing
  have summed : E.summedUp "sum" column events = none := by
    have none_ : mapAll (fun row => (E.drawn .metrics column row).map ([·])) events = none :=
      mapAll_eq_none.mpr ⟨row, member, by rw [nothing]; rfl⟩
    exact congrArg (fun rows => Option.bind rows (E.aggregate "sum")) none_
  have baseline : E.orderValue column events = none := by
    rw [Engine.orderValue, summed]
    rfl
  rw [Engine.profiled, baseline]
  cases E.usersOf events with
  | none => rfl
  | some counted =>
    cases E.orderValue column (eventsOf users events) <;> rfl

theorem reported_none {column : String} {events : Multiset RawRow}
    (fails : mapAll (fun row => (E.drawn of column row).map (Prod.mk row)) events = none) :
    E.reported column users events of = none := by
  cases of with
  | metrics => exact profiled_metrics_none fails
  | recency =>
    rw [Engine.reported, fails]
    rfl
  | categories =>
    obtain ⟨row, -, nothing⟩ := mapAll_eq_none.mp fails
    cases nothing

/-- What is selected from the rows of `ev`. -/
theorem figures_eval {column : String} {events : Multiset RawRow} {pairs : Multiset (RawRow × V)}
    (made : mapAll (fun row => (E.drawn of column row).map (Prod.mk row)) events = some pairs)
    (segment : env.named.lookup "segment" = some (E.keyTable "user_id" users))
    (named : env.named.lookup "ev" = some (eventTable E of users pairs)) :
    of.phrase.eval E.toScalars env = E.reported column users events of := by
  obtain ⟨rows, drawn⟩ := mapAll_paired made
  cases of with
  | metrics =>
    rw [Figure.phrase, metricsPhrase_eval segment named drawn, rows]
    rfl
  | recency =>
    rw [Figure.phrase, recencyPhrase_eval named, Engine.reported, made]
    rfl
  | categories =>
    have all : pairs = events.map fun row => (row, E.cell (row (foldName column))) := by
      have cells := @mapAll_some _ _ (fun row : RawRow => (row, E.cell (row (foldName column)))) events
      exact Option.some.inj (made.symm.trans cells)
    rw [Figure.phrase, categoriesPhrase_eval (all ▸ named)]
    rfl

omit [DecidableEq V] in
/-- The user of the segment resolves only where the key is called so. -/
theorem present_segment {opts : CompileOptions} {catalog : Catalog} {key : String} :
    Present E opts catalog (segmentUserReads key) ↔ foldName key = "user_id" := by
  rw [segmentUserReads, required]
  by_cases keyed : foldName key = "user_id"
  · rw [if_pos (beq_iff_eq.mpr keyed)]
    exact iff_of_true (List.forall_mem_nil _) keyed
  · rw [if_neg (by simpa using keyed)]
    exact iff_of_false (fun all => Bool.false_ne_true (all _ List.mem_cons_self)) keyed

/-- A profile query answers with its figure over the segment and the events of the tenant. -/
theorem characterizePhrase_eval {isRfc3339 : String → Bool} {q : SegmentQuery} {narrowing : List Op}
    {event : Dataset} {tsColumn monetaryColumn categoryColumn : String} {opts : CompileOptions}
    {catalog : Catalog}
    (profiled : Profiled isRfc3339 q narrowing event tsColumn monetaryColumn categoryColumn)
    (tables : env.tables = E.tables opts.catalog catalog) {scope : Scope}
    (present : Present E opts catalog
      ((characterizePhrase opts q event tsColumn monetaryColumn categoryColumn of).reads scope)) :
    (characterizePhrase opts q event tsColumn monetaryColumn categoryColumn of).eval E.toScalars env =
      ((E.population opts catalog).survivors E (stripLastOp q)).bind fun users =>
        E.reported (of.column tsColumn monetaryColumn categoryColumn) users
          (ownRows catalog opts.tenant event) of := by
  have narrows := profiled.level.narrows
  have listed : (phraseAt opts (stripLastOp q)).columns = [foldName q.key] := by
    rw [profiled.segment, phraseAt_level narrows]
    rfl
  rw [characterizePhrase, profilePhrase_reads listed] at present
  obtain ⟨level, events⟩ := present_append.mp present
  have there := present_raw events
  have keyed : foldName q.key = "user_id" :=
    present_segment.mp (present_append.mp (List.forall_mem_cons.mp events).2).1
  rw [profiled.segment, phraseAt_level narrows, Ast.reads, levelPhrase_reads narrows] at level
  have selected : (Ast.single (levelPhrase opts q.source q.key narrowing q.asOf none none)).eval
      E.toScalars env = ((E.population opts catalog).level E q.source q.key q.asOf narrowing).map
        (E.keyTable "user_id") := by
    rw [Ast.eval, levelPhrase_eval narrows tables level, Option.getD_none, keyed]
    rfl
  rw [characterizePhrase, profiled.segment, phraseAt_level narrows, survivors_level narrows,
    profilePhrase, Ast.eval]
  dsimp only
  rw [selected, Option.bind_eq_bind, Option.bind_map]
  refine Option.bind_congr fun users _ => ?_
  rw [Function.comp_apply, Ast.eval]
  dsimp only
  rw [@eventsPhrase_eval _ _ E opts catalog (env.withNamed "segment" (E.keyTable "user_id" users)) users
    event tsColumn monetaryColumn categoryColumn of tables there (by simp [Env.withNamed]),
    Option.bind_eq_bind, Option.bind_map]
  cases made : mapAll (fun row => (E.drawn of (of.column tsColumn monetaryColumn categoryColumn)
      row).map (Prod.mk row)) (ownRows catalog opts.tenant event) with
  | none => exact (reported_none made).symm
  | some pairs =>
    refine figures_eval made ?_ ?_
    · simp [Env.withNamed, List.lookup_cons]
    · simp [Env.withNamed]

def CharacterizeQueries.figure (profile : CharacterizeQueries) : Figure → CompiledQuery
  | .metrics => profile.metrics
  | .recency => profile.recency
  | .categories => profile.categories

theorem profile_statement {isRfc3339 : String → Bool} {q : SegmentQuery} {narrowing : List Op}
    {event : Dataset} {tsColumn monetaryColumn categoryColumn : String} {opts : CompileOptions}
    {profile : CharacterizeQueries}
    (profiled : Profiled isRfc3339 q narrowing event tsColumn monetaryColumn categoryColumn)
    (valid : validate isRfc3339 q = .ok ()) (returned : compileCharacterize q opts = .ok profile)
    (of : Figure) : statement (profile.figure of).sql (profile.figure of).params =
      some (characterizePhrase opts q event tsColumn monetaryColumn categoryColumn of) := by
  have parsed := compileCharacterize_statement valid profiled.last returned of
  cases of <;> exact parsed

/-- The texts a profile compiles to, run with their parameters. -/
theorem execute_profile {isRfc3339 : String → Bool} {q : SegmentQuery} {narrowing : List Op}
    {event : Dataset} {tsColumn monetaryColumn categoryColumn : String} {opts : CompileOptions}
    {catalog : Catalog} {profile : CharacterizeQueries}
    (profiled : Profiled isRfc3339 q narrowing event tsColumn monetaryColumn categoryColumn)
    (valid : validate isRfc3339 q = .ok ()) (returned : compileCharacterize q opts = .ok profile) :
    Sql.execute E.toScalars (E.tables opts.catalog catalog) (profile.figure of).sql
        (profile.figure of).params =
      if isScoped (E.tables opts.catalog catalog)
          (characterizePhrase opts q event tsColumn monetaryColumn categoryColumn of) then
        ((E.population opts catalog).survivors E (stripLastOp q)).bind fun users =>
          E.reported (of.column tsColumn monetaryColumn categoryColumn) users
            (ownRows catalog opts.tenant event) of
      else none := by
  rw [Sql.execute, profile_statement profiled valid returned, Option.bind_some, run]
  refine ite_congr rfl (fun named => ?_) fun _ => rfl
  exact characterizePhrase_eval profiled rfl (isScoped_iff.mp named)

end

end ConsumerEngine.Query
