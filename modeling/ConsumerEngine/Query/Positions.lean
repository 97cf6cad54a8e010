import ConsumerEngine.Query.Completeness

/-! Where an operation may stand, and that the compiler reaches every one.

Validation leaves at most one operation per level that does not narrow, and leaves it last.
The loop of the compiler returns at a metric and stops at a set operation, so it depends on that.
-/

set_option autoImplicit false

namespace ConsumerEngine.Query

open ConsumerEngine.Core ConsumerEngine.Foundation

/-- `strip_derive`. -/
def stripDerive (q : SegmentQuery) : SegmentQuery :=
  { q with ops := q.ops.filter fun
      | .derive .. => false
      | _ => true }

mutual

/-- The operations of a query, each with how deep its level stands: those of its own level, then
those of the segments it is combined with. -/
def everyOp (depth : Nat) (q : SegmentQuery) : List (Nat × Op) :=
  match q with
  | ⟨_, _, ops, _⟩ => ops.map (Prod.mk depth) ++ everyOther (depth + 1) ops
termination_by structural q

def everyOther (depth : Nat) (ops : List Op) : List (Nat × Op) :=
  match ops with
  | [] => []
  | .setOp _ other :: rest => everyOp depth other ++ everyOther depth rest
  | _ :: rest => everyOther depth rest
termination_by structural ops

end

mutual

/-- `compile_at`, with the operations it has handled. -/
def visitAt (opts : CompileOptions) (q : SegmentQuery) (depth : Nat) :
    Except QueryError (CompiledQuery × List (Nat × Op)) :=
  match q with
  | ⟨source, key, ops, asOf⟩ =>
      if maxNesting < depth then
        .error (invalid ("segment nesting exceeds depth limit of " ++ toString maxNesting))
      else
        let (own, params) := tenantEq "base" [] opts.tenant
        visitOps opts source key asOf depth ⟨params, [source], [own]⟩ [] ops
termination_by structural q

def visitOps (opts : CompileOptions) (source : Dataset) (key : String) (asOf : Option String)
    (depth : Nat) (gathered : Gathered) (visited : List (Nat × Op)) (ops : List Op) :
    Except QueryError (CompiledQuery × List (Nat × Op)) :=
  match ops with
  | [] => .ok (⟨baseSelect source key gathered.conjuncts opts.catalogAlias, gathered.params,
      gathered.sources⟩, visited)
  | .setOp kind other :: rest =>
      if rest.isEmpty then do
        let (compiled, inside) ← visitAt opts other (depth + 1)
        return (combine kind (baseSelect source key gathered.conjuncts opts.catalogAlias) gathered
          compiled, visited ++ (depth, .setOp kind other) :: inside)
      else .error (invalid "ops after a SetOp are not supported in M1")
  | .derive name metric :: _ => do
      let compiled ← compileDerive opts source key gathered name metric
      return (compiled, visited ++ [(depth, .derive name metric)])
  | op :: rest => do
      let gathered ← compileConjunct opts key asOf gathered op
      visitOps opts source key asOf depth gathered (visited ++ [(depth, op)]) rest
termination_by structural ops

end

/-- The lists that are accepted are the placed ones. -/
theorem validatePositions_iff {narrowingSeen : Bool} {ops : List Op} :
    validatePositions narrowingSeen ops = .ok () ↔
      ∃ narrowing last, Placed narrowingSeen ops narrowing last := by
  refine ⟨validatePositions_ok, ?_⟩
  rintro ⟨narrowing, last, rfl, narrows, ending⟩
  induction narrowing generalizing narrowingSeen with
  | nil =>
    rcases ending with rfl | ⟨op, rfl, combines | ⟨terminal, seen | filled⟩⟩
    · rfl
    · cases op <;> first | rfl | contradiction
    · subst seen
      cases op <;> first | rfl | contradiction
    · exact absurd rfl filled
  | cons op rest ih =>
    obtain ⟨here, later⟩ := List.forall_mem_cons.mp narrows
    rw [List.cons_append, validatePositions_narrows _ here]
    refine ih later (ending.imp_right fun ends => ?_)
    obtain ⟨last, same, combines | ⟨terminal, -⟩⟩ := ends
    · exact ⟨last, same, .inl combines⟩
    · exact ⟨last, same, .inr ⟨terminal, .inl rfl⟩⟩

/-- At every level, the operations are in an accepted order. -/
def Positioned (q : SegmentQuery) : Prop :=
  ∀ depth inner, Nested q depth inner → validatePositions false inner.ops = .ok ()

theorem validate_positioned {isRfc3339 : String → Bool} {q : SegmentQuery}
    (valid : validate isRfc3339 q = .ok ()) : Positioned q := by
  intro depth inner nested
  induction nested with
  | here => exact (validate_ok valid).positions
  | branch member _ ih =>
    have checked := (validate_ok valid).ops _ member
    rw [validateOp] at checked
    exact ih checked

section
variable {opts : CompileOptions} {source : Dataset} {key : String} {asOf : Option String}
  {depth : Nat}

theorem visitOps_cons {gathered : Gathered} {visited : List (Nat × Op)} {op : Op} (rest : List Op)
    (conjunct : op.ends = false) :
    visitOps opts source key asOf depth gathered visited (op :: rest) = (do
      let gathered ← compileConjunct opts key asOf gathered op
      visitOps opts source key asOf depth gathered (visited ++ [(depth, op)]) rest) := by
  cases op <;> first | rfl | contradiction

theorem visitOps_erase {ops : List Op} {gathered : Gathered} {visited : List (Nat × Op)}
    (branches : ∀ kind other, Op.setOp kind other ∈ ops → ∀ depth,
      Prod.fst <$> visitAt opts other depth = compileAt opts other depth) :
    Prod.fst <$> visitOps opts source key asOf depth gathered visited ops =
      compileOps opts source key asOf depth gathered ops := by
  induction ops generalizing gathered visited with
  | nil => rfl
  | cons op rest ih =>
    have later := fun gathered visited => @ih gathered visited fun kind other member =>
      branches kind other (List.mem_cons_of_mem _ member)
    cases ends : op.ends with
    | false =>
      rw [visitOps_cons rest ends, compileOps_cons rest ends, map_bind]
      exact congrArg _ (funext fun after => later after _)
    | true =>
      cases op with
      | setOp kind other =>
        rw [visitOps, compileOps, ← branches kind other List.mem_cons_self]
        cases rest with
        | nil => simp only [List.isEmpty_nil, ↓reduceIte, map_bind, bind_map_left, map_pure]
        | cons => rfl
      | derive name metric =>
        rw [visitOps, compileOps]
        simp only [map_bind, map_pure, bind_pure]
      | _ => contradiction

/-- Recording what it handles does not change what the compiler returns. -/
theorem visitAt_erase (q : SegmentQuery) : ∀ depth,
    Prod.fst <$> visitAt opts q depth = compileAt opts q depth := by
  induction q using SegmentQuery.nested with
  | step q branches =>
    intro depth
    obtain ⟨source, key, ops, asOf⟩ := q
    simp only [visitAt, compileAt]
    split
    · rfl
    · exact visitOps_erase branches

theorem visitOps_narrowing {narrowing : List Op} (last : List Op)
    (narrows : ∀ op ∈ narrowing, op.narrows = true) {gathered : Gathered}
    {visited : List (Nat × Op)} :
    visitOps opts source key asOf depth gathered visited (narrowing ++ last) = (do
      let gathered ← narrowing.foldlM (compileConjunct opts key asOf) gathered
      visitOps opts source key asOf depth gathered (visited ++ narrowing.map (Prod.mk depth)) last) := by
  induction narrowing generalizing gathered visited with
  | nil => rw [List.nil_append, List.map_nil, List.append_nil]; rfl
  | cons op rest ih =>
    obtain ⟨here, later⟩ := List.forall_mem_cons.mp narrows
    have conjunct : op.ends = false := by cases op <;> first | rfl | contradiction
    rw [List.cons_append, visitOps_cons _ conjunct, List.foldlM_cons, bind_assoc, List.map_cons,
      List.append_cons visited _ (rest.map (Prod.mk depth))]
    exact congrArg _ (funext fun after => ih later)

theorem everyOther_narrowing {narrowing : List Op} (last : List Op)
    (narrows : ∀ op ∈ narrowing, op.narrows = true) :
    everyOther depth (narrowing ++ last) = everyOther depth last := by
  induction narrowing with
  | nil => rfl
  | cons op rest ih =>
    obtain ⟨here, later⟩ := List.forall_mem_cons.mp narrows
    rw [List.cons_append, ← ih later]
    cases op <;> first | rfl | contradiction

theorem everyOther_last {op : Op} (flat : op.combines = false) : everyOther depth [op] = [] := by
  cases op <;> first | rfl | contradiction

/-- What is handled behind the narrowing operations: the last one, and what it combines with. -/
theorem visitOps_last {op : Op} {gathered : Gathered} {visited after : List (Nat × Op)}
    {compiled : CompiledQuery} (ends : op.narrows = false)
    (branches : ∀ kind other, op = .setOp kind other → ∀ compiled visited,
      visitAt opts other (depth + 1) = .ok (compiled, visited) →
        visited = everyOp (depth + 1) other)
    (returned : visitOps opts source key asOf depth gathered visited [op] = .ok (compiled, after)) :
    after = visited ++ (depth, op) :: everyOther (depth + 1) [op] := by
  cases op with
  | setOp kind other =>
    simp only [visitOps, List.isEmpty_nil, ↓reduceIte, except_bind_eq_ok] at returned
    obtain ⟨⟨inner, inside⟩, below, done⟩ := returned
    cases done
    rw [branches kind other rfl inner inside below, everyOther, everyOther, List.append_nil]
  | derive name metric =>
    obtain ⟨derived, -, done⟩ := except_bind_eq_ok.mp returned
    cases done
    rfl
  | characterize | similar => cases returned
  | _ => contradiction

/-- Every operation of every level is handled once. -/
theorem visitAt_every (q : SegmentQuery) : Positioned q → ∀ depth compiled visited,
    visitAt opts q depth = .ok (compiled, visited) → visited = everyOp depth q := by
  induction q using SegmentQuery.nested with
  | step q branches =>
    intro positioned depth compiled visited returned
    have below : ∀ kind other, Op.setOp kind other ∈ q.ops → ∀ compiled visited,
        visitAt opts other (depth + 1) = .ok (compiled, visited) →
          visited = everyOp (depth + 1) other := fun kind other member =>
      branches kind other member (fun depth inner nested =>
        positioned (depth + 1) inner (.branch member nested)) (depth + 1)
    have level := positioned 0 q (.here q)
    obtain ⟨source, key, ops, asOf⟩ := q
    obtain ⟨narrowing, last, rfl, narrows, ending⟩ := validatePositions_ok level
    simp only [visitAt] at returned
    split at returned
    · cases returned
    · rw [visitOps_narrowing last narrows, List.nil_append] at returned
      obtain ⟨gathered, -, finished⟩ := except_bind_eq_ok.mp returned
      rw [everyOp, everyOther_narrowing last narrows, List.map_append, List.append_assoc]
      rcases ending with rfl | ⟨op, rfl, placed⟩
      · cases finished
        rw [List.map_nil, everyOther, List.append_nil, List.append_nil]
      · have ends : op.narrows = false := by
          rcases placed with combines | ⟨terminal, -⟩
          · cases op <;> first | rfl | contradiction
          · cases op <;> first | rfl | contradiction
        exact visitOps_last ends (fun kind other same => below kind other
          (List.mem_append_right _ (List.mem_singleton.mpr same.symm))) finished

end

/-- The operations of every level are those of the segments inside the query. -/
theorem mem_everyOp {op : Op} {level : Nat} (q : SegmentQuery) : ∀ depth,
    ((level, op) ∈ everyOp depth q ↔
      ∃ below inner, Nested q below inner ∧ level = depth + below ∧ op ∈ inner.ops) := by
  induction q using SegmentQuery.nested with
  | step q branches =>
    intro depth
    obtain ⟨source, key, ops, asOf⟩ := q
    have others : (level, op) ∈ everyOther (depth + 1) ops ↔
        ∃ kind other, Op.setOp kind other ∈ ops ∧ (level, op) ∈ everyOp (depth + 1) other := by
      clear branches
      induction ops with
      | nil => simp only [everyOther, List.not_mem_nil, false_and, exists_false]
      | cons first rest ih =>
        cases first with
        | setOp kind other =>
          rw [everyOther, List.mem_append, ih]
          constructor
          · rintro (here | ⟨kind, other, member, inside⟩)
            · exact ⟨kind, other, List.mem_cons_self, here⟩
            · exact ⟨kind, other, List.mem_cons_of_mem _ member, inside⟩
          · rintro ⟨kind, other, member, inside⟩
            rcases List.mem_cons.mp member with same | later
            · cases same
              exact .inl inside
            · exact .inr ⟨kind, other, later, inside⟩
        | _ => simp only [everyOther, ih, List.mem_cons, reduceCtorEq, false_or]
    rw [everyOp, List.mem_append, others, List.mem_map]
    constructor
    · rintro (⟨own, member, same⟩ | ⟨kind, other, member, inside⟩)
      · cases same
        exact ⟨0, _, .here _, rfl, member⟩
      · obtain ⟨below, inner, nested, same, inner_op⟩ :=
          (branches kind other member (depth + 1)).mp inside
        exact ⟨below + 1, inner, .branch member nested, by omega, inner_op⟩
    · rintro ⟨below, inner, nested, same, member⟩
      cases nested with
      | here => exact .inl ⟨op, member, by rw [same, Nat.add_zero]⟩
      | branch first nested =>
        refine .inr ⟨_, _, first, (branches _ _ first (depth + 1)).mpr ?_⟩
        exact ⟨_, inner, nested, by omega, member⟩

section
variable {q : SegmentQuery}

/-- An accepted list holds an operation that does not narrow exactly when it ends in one. -/
theorem any_last {chosen : Op → Bool} {ops : List Op} (wide : ∀ op, chosen op = true → op.narrows = false)
    (positions : validatePositions false ops = .ok ()) :
    ops.any chosen = true ↔ ∃ op, ops.getLast? = some op ∧ chosen op = true := by
  obtain ⟨narrowing, last, rfl, narrows, ending⟩ := validatePositions_ok positions
  constructor
  · intro some_
    obtain ⟨op, member, picked⟩ := List.any_eq_true.mp some_
    have late : op ∈ last := (List.mem_append.mp member).resolve_left fun early =>
      Bool.noConfusion ((narrows op early).symm.trans (wide op picked))
    rcases ending with rfl | ⟨only, rfl, -⟩
    · cases late
    · cases List.mem_singleton.mp late
      exact ⟨op, List.getLast?_concat, picked⟩
  · rintro ⟨op, final, picked⟩
    exact List.any_eq_true.mpr ⟨op, List.mem_of_getLast? final, picked⟩

theorem hasDerive_iff (positions : validatePositions false q.ops = .ok ()) :
    hasDerive q = true ↔ ∃ name metric, q.ops.getLast? = some (.derive name metric) := by
  rw [hasDerive, any_last (fun op picked => ?_) positions]
  · constructor
    · rintro ⟨op, final, picked⟩
      cases op <;> first | exact ⟨_, _, final⟩ | contradiction
    · rintro ⟨name, metric, final⟩
      exact ⟨_, final, rfl⟩
  · cases op <;> first | rfl | contradiction

theorem hasCharacterize_iff (positions : validatePositions false q.ops = .ok ()) :
    hasCharacterize q = true ↔ ∃ event ts monetary category,
      q.ops.getLast? = some (.characterize event ts monetary category) := by
  rw [hasCharacterize, any_last (fun op picked => ?_) positions]
  · constructor
    · rintro ⟨op, final, picked⟩
      cases op <;> first | exact ⟨_, _, _, _, final⟩ | contradiction
    · rintro ⟨event, ts, monetary, category, final⟩
      exact ⟨_, final, rfl⟩
  · cases op <;> first | rfl | contradiction

/-- A final operation and what `strip_last_op` leaves. -/
theorem stripLastOp_append {op : Op} (final : q.ops.getLast? = some op) :
    q.ops = (stripLastOp q).ops ++ [op] := (List.dropLast_append_getLast? op final).symm

/-- `strip_derive` takes a metric off the end, and nothing else. -/
theorem stripDerive_eq (positions : validatePositions false q.ops = .ok ()) :
    stripDerive q = if hasDerive q then stripLastOp q else q := by
  obtain ⟨source, key, ops, asOf⟩ := q
  cases derives : hasDerive ⟨source, key, ops, asOf⟩ with
  | false =>
    rw [if_neg Bool.false_ne_true, stripDerive]
    refine congrArg (SegmentQuery.mk source key · asOf) (List.filter_eq_self.mpr fun op member => ?_)
    have other := List.any_eq_false.mp derives op member
    cases op <;> first | rfl | exact absurd rfl other
  | true =>
    obtain ⟨name, metric, final⟩ := (hasDerive_iff positions).mp derives
    obtain ⟨narrowing, last, rfl, narrows, ending⟩ := validatePositions_ok positions
    rcases ending with rfl | ⟨only, rfl, -⟩
    · rw [List.append_nil] at final
      cases narrows _ (List.mem_of_getLast? final)
    · rw [List.getLast?_concat] at final
      cases final
      rw [if_pos rfl, stripDerive, stripLastOp]
      refine congrArg (SegmentQuery.mk source key · asOf) ?_
      rw [List.dropLast_concat, List.filter_append]
      refine (List.append_nil _).trans (List.filter_eq_self.mpr fun op member => ?_)
      have narrow := narrows op member
      cases op <;> first | rfl | contradiction

end

/-- The compiler handles every operation of a query it returns for. -/
theorem visitAt_compiled {opts : CompileOptions} {q : SegmentQuery} {depth : Nat}
    {compiled : CompiledQuery} (positioned : Positioned q)
    (returned : compileAt opts q depth = .ok compiled) :
    visitAt opts q depth = .ok (compiled, everyOp depth q) := by
  rw [← visitAt_erase, map_eq_pure_bind] at returned
  obtain ⟨⟨_, visited⟩, handled, same⟩ := except_bind_eq_ok.mp returned
  cases same
  rw [handled, visitAt_every q positioned depth _ _ handled]

/-- What stands before a metric or a profile is a segment of one level. -/
theorem stripLastOp_positioned {q : SegmentQuery} {op : Op}
    (positions : validatePositions false q.ops = .ok ()) (final : q.ops.getLast? = some op)
    (terminal : op.terminal = true) :
    Positioned (stripLastOp q) ∧ everyOp 0 q = everyOp 0 (stripLastOp q) ++ [(0, op)] := by
  obtain ⟨source, key, ops, asOf⟩ := q
  obtain ⟨narrowing, last, rfl, narrows, ending⟩ := validatePositions_ok positions
  have wide : op.narrows = false := by cases op <;> first | rfl | contradiction
  rcases ending with rfl | ⟨only, rfl, -⟩
  · rw [List.append_nil] at final
    rw [narrows op (List.mem_of_getLast? final)] at wide
    contradiction
  · rw [List.getLast?_concat] at final
    cases final
    have flat : op.combines = false := by cases op <;> first | rfl | contradiction
    have before : everyOther 1 (narrowing ++ []) = everyOther 1 [] := everyOther_narrowing [] narrows
    rw [List.append_nil, everyOther] at before
    rw [stripLastOp, List.dropLast_concat]
    constructor
    · intro depth inner nested
      cases nested with
      | here => exact validatePositions_iff.mpr ⟨narrowing, [], (List.append_nil _).symm, narrows,
          .inl rfl⟩
      | branch member => cases narrows _ member
    · rw [everyOp, everyOp, everyOther_narrowing _ narrows, everyOther_last flat, before,
        List.map_append, List.append_nil, List.append_nil]
      rfl

/-- Exactly the three forms are accepted, at every level; the compiler then handles every operation
of every level once, and what takes the last operation off, or asks for it, does so exactly. -/
theorem positions_exact (isRfc3339 : String → Bool) (opts : CompileOptions) (q : SegmentQuery)
    (valid : validate isRfc3339 q = .ok ()) :
    (∀ ops, validatePositions false ops = .ok () ↔
      ∃ narrowing last, Placed false ops narrowing last) ∧
    (∀ depth inner, Nested q depth inner → ∃ narrowing last, Placed false inner.ops narrowing last) ∧
    (∀ level op, (level, op) ∈ everyOp 0 q ↔ ∃ inner, Nested q level inner ∧ op ∈ inner.ops) ∧
    (∀ other depth, Prod.fst <$> visitAt opts other depth = compileAt opts other depth) ∧
    (∀ compiled, compileWithOpts q opts = .ok compiled →
      visitAt opts q 0 = .ok (compiled, everyOp 0 q)) ∧
    (∀ profile, compileCharacterize q opts = .ok profile → ∃ segment last,
      visitAt opts (stripLastOp q) 0 = .ok (segment, everyOp 0 (stripLastOp q)) ∧
        everyOp 0 q = everyOp 0 (stripLastOp q) ++ [(0, last)]) ∧
    (∀ last, q.ops.getLast? = some last → q.ops = (stripLastOp q).ops ++ [last]) ∧
    stripDerive q = (if hasDerive q then stripLastOp q else q) ∧
    (hasDerive q = true ↔ ∃ name metric, q.ops.getLast? = some (.derive name metric)) ∧
    (hasCharacterize q = true ↔ ∃ event ts monetary category,
      q.ops.getLast? = some (.characterize event ts monetary category)) := by
  have positioned := validate_positioned valid
  have level := positioned 0 q (.here q)
  refine ⟨fun ops => validatePositions_iff,
    fun depth inner nested => validatePositions_ok (positioned depth inner nested), ?_,
    fun other depth => visitAt_erase other depth,
    fun compiled returned => visitAt_compiled positioned returned, ?_,
    fun last final => stripLastOp_append final, stripDerive_eq level, hasDerive_iff level,
    hasCharacterize_iff level⟩
  · intro level op
    rw [mem_everyOp q 0]
    constructor
    · rintro ⟨below, inner, nested, rfl, member⟩
      exact ⟨inner, (Nat.zero_add below).symm ▸ nested, member⟩
    · rintro ⟨inner, nested, member⟩
      exact ⟨level, inner, nested, (Nat.zero_add level).symm, member⟩
  · intro profile returned
    rw [compileCharacterize] at returned
    split at returned
    case h_1 event ts monetary category final =>
      obtain ⟨segment, compiled, -⟩ := except_bind_eq_ok.mp returned
      obtain ⟨before, after⟩ := stripLastOp_positioned level final rfl
      exact ⟨segment, _, visitAt_compiled before compiled, after⟩
    case h_2 => cases returned

/-- A filter over a branch that filters. -/
def paidOfBoth : SegmentQuery where
  source := ⟨"erp", "orders"⟩
  key := "user_id"
  ops := [.filter ⟨"status", .eq, .string "paid"⟩, .setOp .union
    ⟨⟨"web", "orders"⟩, "user_id", [.filter ⟨"status", .eq, .string "paid"⟩], none⟩]
  asOf := none

/-- All three operations are handled, the one of the branch last. -/
theorem positions_exact_paidOfBoth :
    (visitAt (readOptions "acme") paidOfBoth 0).map (fun handled => handled.2.map Prod.fst) =
      .ok [0, 0, 1] := by
  have returned : ∃ compiled, compileWithOpts paidOfBoth (readOptions "acme") = .ok compiled :=
    ⟨_, rfl⟩
  obtain ⟨compiled, returned⟩ := returned
  obtain ⟨-, -, -, -, handled, -⟩ :=
    positions_exact (fun _ => true) (readOptions "acme") paidOfBoth rfl
  rw [handled compiled returned]
  rfl

end ConsumerEngine.Query
