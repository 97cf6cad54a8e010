import ConsumerEngine.Foundation.KeyedBags
import ConsumerEngine.Storage.TenantFraming

/-! Raw tables as keyed rows.

A MERGE of rows with different keys writes each of them under its key, and the
delete MERGE of a tenant's table removes the listed keys; so it is for the rows and for
the set of them.
-/

set_option autoImplicit false

namespace ConsumerEngine.Storage

open ConsumerEngine.Core ConsumerEngine.Foundation

/-- The rows of a table without their multiplicities. -/
def contents (rows : Multiset RawRow) : Set RawRow := {row | row ∈ rows}

/-- Rows keyed by a listed column; a write sets the listed columns. -/
def columnKeying (columns : List String) (key : String) (listed : foldName key ∈ columns.map foldName) :
    Keying RawRow Cell where
  key row := row (foldName key)
  onto := overwrite columns
  fresh row := ∀ name, name ∉ columns.map foldName → row name = none
  key_onto source target := by simp only [overwrite, if_pos listed]
  onto_onto first second target _ _ := by
    funext name
    by_cases member : name ∈ columns.map foldName <;> simp [overwrite, member]
  onto_fresh first second freshFirst freshSecond := by
    funext name
    by_cases member : name ∈ columns.map foldName
    · simp only [overwrite, if_pos member]
    · simp only [overwrite, if_neg member, freshFirst name member, freshSecond name member]

theorem matching_eq_some {key : String} {sources : List RawRow} {source target : RawRow}
    (found : matching key sources target = some source) :
    source ∈ sources ∧ ∃ text, target (foldName key) = some text ∧
      source (foldName key) = some text := by
  unfold matching at found
  have joined := List.find?_some found
  exact ⟨List.mem_of_find?_eq_some found, joins_eq_true.mp joined⟩

section
variable {columns : List String} {key : String} (listed : foldName key ∈ columns.map foldName)
  {sources : List RawRow}

include listed in
/-- The update half of a MERGE keeps every row under its key. -/
private theorem updated_key (target : RawRow) :
    updated columns key sources target (foldName key) = target (foldName key) := by
  unfold updated
  cases found : matching key sources target with
  | none => rfl
  | some source =>
    obtain ⟨-, text, ofTarget, ofSource⟩ := matching_eq_some found
    simp only [overwrite, if_pos listed, ofTarget, ofSource]

/-- The rows of a key after a MERGE: the stored ones updated, the sources that met none. -/
private theorem bag_mergeRows (rows : Multiset RawRow) (cell : Cell) :
    (columnKeying columns key listed).bag (mergeRows columns key sources rows) cell =
      ((columnKeying columns key listed).bag rows cell).map (updated columns key sources) +
        ((sources.filter fun source => source (foldName key) = cell).filter fun source =>
          decide (∀ target ∈ rows, joins (target (foldName key)) (source (foldName key)) = false) :
            List RawRow) := by
  have stored : (rows.map (updated columns key sources)).filter
      (fun row => row (foldName key) = cell) =
      (rows.filter fun row => row (foldName key) = cell).map (updated columns key sources) := by
    rw [Multiset.filter_map]
    exact congrArg _ (Multiset.filter_congr fun target _ => by
      simp only [Function.comp_apply, updated_key listed])
  rw [mergeRows, Keying.bag_add]
  refine congrArg₂ _ stored ?_
  rw [List.filter_comm]
  exact Multiset.filter_coe _ _

/-- A MERGE of sources with different keys writes each of them under its key. -/
theorem mergeRows_eq_runBag (present : ∀ source ∈ sources, source (foldName key) ≠ none)
    (distinct : ∀ cell, (sources.filter fun source => source (foldName key) = cell).length ≤ 1)
    (rows : Multiset RawRow) :
    mergeRows columns key sources rows =
      (columnKeying columns key listed).runBag (sources.map .put) rows := by
  refine Keying.ext_bags (columnKeying columns key listed) fun cell => ?_
  have selected : (columnKeying columns key listed).ofKey (sources.map .put) cell =
      (sources.filter fun source => source (foldName key) = cell).map .put := by
    rw [Keying.ofKey, List.filter_map]
    rfl
  rw [Keying.bag_runBag, selected, bag_mergeRows]
  have ofCell (target : RawRow)
      (member : target ∈ (columnKeying columns key listed).bag rows cell) :
      target (foldName key) = cell := (Keying.mem_bag _).mp member |>.2
  -- no source, one source, or too many under this key
  rcases found : sources.filter fun source => source (foldName key) = cell with
    _ | ⟨source, _ | ⟨second, rest⟩⟩
  · have kept (target : RawRow)
        (member : target ∈ (columnKeying columns key listed).bag rows cell) :
        updated columns key sources target = target := by
      refine updated_untouched fun source inSources => ?_
      by_contra joined
      obtain ⟨text, ofTarget, ofSource⟩ := joins_eq_true.mp (by simpa using joined)
      have filtered : source ∈ sources.filter fun source => source (foldName key) = cell := by
        simp [inSources, ofSource, ← ofTarget, ofCell target member]
      simp [found] at filtered
    rw [found, Multiset.map_congr rfl kept]
    simp
  · have mine : source ∈ sources ∧ source (foldName key) = cell := by
      have member : source ∈ sources.filter fun other => other (foldName key) = cell := by
        simp [found]
      simpa using member
    obtain ⟨text, rfl⟩ := Option.ne_none_iff_exists'.mp (mine.2 ▸ present source mine.1)
    have written (target : RawRow)
        (member : target ∈ (columnKeying columns key listed).bag rows (some text)) :
        updated columns key sources target = overwrite columns source target := by
      unfold updated
      cases matched : matching key sources target with
      | none =>
        have free := matching_eq_none.mp matched source mine.1
        rw [ofCell target member, mine.2] at free
        simp [joins] at free
      | some other =>
        obtain ⟨inSources, shared, ofTarget, ofOther⟩ := matching_eq_some matched
        have filtered : other ∈ sources.filter fun other => other (foldName key) = some text := by
          simp [inSources, ofOther, ← ofTarget, ofCell target member]
        have same : other = source := by simpa [found] using filtered
        simp only [same]
    have meets : (∀ target ∈ rows, joins (target (foldName key)) (source (foldName key)) = false) ↔
        ((columnKeying columns key listed).bag rows (some text)).card = 0 := by
      rw [Multiset.card_eq_zero, Multiset.eq_zero_iff_forall_notMem]
      refine forall_congr' fun target => ?_
      rw [Keying.mem_bag, not_and, mine.2]
      refine imp_congr_right fun _ => ?_
      change joins (target (foldName key)) (some text) = false ↔ ¬ target (foldName key) = some text
      cases target (foldName key) <;> simp [joins]
    rw [found, Multiset.map_congr rfl written]
    by_cases empty : ((columnKeying columns key listed).bag rows (some text)).card = 0
    · have free := meets.mpr empty
      simpa [onHeld, Keying.write, Multiset.card_eq_zero.mp empty] using free
    · have met := mt meets.mp empty
      simp only [List.map_cons, List.map_nil, List.foldl_cons, List.foldl_nil, onHeld,
        Keying.write, if_neg empty, List.filter_cons, List.filter_nil, decide_eq_true_eq,
        if_neg met]
      exact Multiset.add_zero _
  · have short := distinct cell
    simp [found] at short

end

/-! ### Deduplication -/

section
variable {index : Nat}

/-- The rows under a key. -/
def under (index : Nat) (rows : List (List Cell)) (text : String) : List (List Cell) :=
  rows.filter fun row => keyCell index row = some text

theorem under_dedupStep (kept : List (List Cell)) (row : List Cell) (text : String) :
    under index (dedupStep index kept row) text =
      if keyCell index row = some text then
        if (under index kept text).isEmpty then [row] else (under index kept text).map fun _ => row
      else under index kept text := by
  unfold dedupStep
  cases keyed : keyCell index row with
  | none => simp
  | some key =>
    by_cases held : kept.any fun seen => keyCell index seen = some key
    · simp only [held, if_true]
      have replaced : under index (kept.map fun seen =>
          if keyCell index seen = some key then row else seen) text =
          (under index kept text).map fun seen =>
            if keyCell index seen = some key then row else seen := by
        rw [under, List.filter_map]
        refine congrArg _ (List.filter_congr fun seen _ => ?_)
        by_cases same : keyCell index seen = some key <;> simp [same, keyed]
      rw [replaced]
      by_cases same : key = text
      · subst same
        obtain ⟨seen, member, keyedSeen⟩ := List.any_eq_true.mp held
        have filled : (under index kept key).isEmpty = false := by
          rw [List.isEmpty_eq_false_iff]
          exact List.ne_nil_of_mem (List.mem_filter.mpr ⟨member, keyedSeen⟩)
        rw [if_pos rfl, filled]
        refine List.map_congr_left fun seen member => ?_
        have keyedSeen : keyCell index seen = some key := by
          simpa using (List.mem_filter.mp member).2
        rw [if_pos keyedSeen]
      · rw [if_neg (by simpa using same)]
        refine (List.map_congr_left fun seen member => ?_).trans (List.map_id _)
        have keyedSeen : keyCell index seen = some text := by
          simpa using (List.mem_filter.mp member).2
        rw [keyedSeen, if_neg (by simpa using Ne.symm same)]
        rfl
    · simp only [held, Bool.false_eq_true, if_false]
      rw [under, List.filter_append]
      by_cases same : key = text
      · subst same
        have none : under index kept key = [] := by
          rw [under, List.filter_eq_nil_iff]
          intro seen member
          have apart := List.any_eq_false.mp (Bool.eq_false_iff.mpr held) seen member
          simpa using apart
        rw [← under, none]
        simp [keyed]
      · simp [keyed, same, under]

/-- Deduplication keeps, of the rows under a key, the last one. -/
theorem under_dedupByKey (index : Nat) (rows : List (List Cell)) (text : String) :
    under index (dedupByKey rows index) text = (under index rows text).getLast?.toList := by
  induction rows using List.reverseRecOn with
  | nil => rfl
  | append_singleton rows row ih =>
    have stepped : dedupByKey (rows ++ [row]) index =
        dedupStep index (dedupByKey rows index) row := by
      simp [dedupByKey, List.foldl_append]
    have appended : under index (rows ++ [row]) text =
        under index rows text ++ if keyCell index row = some text then [row] else [] := by
      rw [under, List.filter_append]
      by_cases keyed : keyCell index row = some text <;> simp [keyed, under]
    rw [stepped, under_dedupStep, ih, appended]
    by_cases keyed : keyCell index row = some text
    · simp only [keyed, if_true, List.getLast?_append, List.getLast?_singleton, Option.some_or]
      cases (under index rows text).getLast? <;> rfl
    · simp [keyed]

end

/-! ### The MERGEs of a change batch -/

/-- The keying of a raw table. -/
def KeyedTable.keying (table : KeyedTable) (keyed : table.columns.contains table.key = true) :
    Keying RawRow Cell :=
  columnKeying (table.columns ++ ["tenant_id"]) table.key
    (List.mem_map_of_mem (List.mem_append_left _ (by simpa using keyed)))

section
variable {table : KeyedTable} {known : List String} {tenant : String}
  (keyed : table.columns.contains table.key = true)

/-- Rows of a batch as writes. -/
def KeyedTable.puts (table : KeyedTable) (tenant : String) (rows : List (List Cell)) :
    List (Change RawRow Cell) :=
  rows.map fun row => .put (table.stamped tenant row)

/-- Deleted keys as removals. -/
def drops (keys : List String) : List (Change RawRow Cell) := keys.map fun key => .drop (some key)

theorem KeyedTable.merge_eq_runBag (tenant : String) (fits : table.fits known = true)
    {piece : List (List Cell)}
    (aligned : ∀ row ∈ piece, row.length = table.columns.length)
    (present : ∀ row ∈ piece, keyCell table.keyIndex row ≠ none)
    (distinct : ∀ text, (under table.keyIndex piece text).length ≤ 1) (rows : Multiset RawRow) :
    table.merge tenant piece rows =
      (table.keying keyed).runBag (table.puts tenant piece) rows := by
  have keys : ∀ row ∈ piece, table.stamped tenant row (foldName table.key) =
      keyCell table.keyIndex row := fun row member =>
    KeyedTable.stamped_key tenant fits keyed (aligned row member)
  rw [KeyedTable.merge, mergeRows_eq_runBag _ ?_ ?_, List.map_map]
  · rfl
  · intro source member
    obtain ⟨row, inPiece, rfl⟩ := List.mem_map.mp member
    rw [keys row inPiece]
    exact present row inPiece
  · intro cell
    rw [List.filter_map, List.length_map]
    have same : (piece.filter ((fun source : RawRow => decide (source (foldName table.key) = cell)) ∘
        table.stamped tenant)) = piece.filter fun row => keyCell table.keyIndex row = cell :=
      List.filter_congr fun row member => by simp [keys row member]
    rw [same]
    cases cell with
    | some text => exact distinct text
    | none =>
      rw [List.filter_eq_nil_iff.mpr fun row member => by simpa using present row member]
      exact Nat.zero_le _

/-- The MERGEs of all chunks write the rows of all chunks. -/
theorem KeyedTable.mergeAll_eq_runBag (fits : table.fits known = true)
    {pieces : List (List (List Cell))}
    (aligned : ∀ row ∈ pieces.flatten, row.length = table.columns.length)
    (present : ∀ row ∈ pieces.flatten, keyCell table.keyIndex row ≠ none)
    (distinct : ∀ text, (under table.keyIndex pieces.flatten text).length ≤ 1)
    (rows : Multiset RawRow) :
    table.mergeAll tenant pieces rows =
      (table.keying keyed).runBag (table.puts tenant pieces.flatten) rows := by
  induction pieces generalizing rows with
  | nil => rfl
  | cons piece pieces ih =>
    rw [List.flatten_cons] at aligned present distinct
    have shares (text : String) : under table.keyIndex (piece ++ pieces.flatten) text =
        under table.keyIndex piece text ++ under table.keyIndex pieces.flatten text :=
      List.filter_append ..
    have here := KeyedTable.merge_eq_runBag keyed tenant fits
      (fun row member => aligned row (List.mem_append_left _ member))
      (fun row member => present row (List.mem_append_left _ member))
      (fun text => by have short := distinct text; rw [shares, List.length_append] at short; omega)
      rows
    have rest := ih (fun row member => aligned row (List.mem_append_right _ member))
      (fun row member => present row (List.mem_append_right _ member))
      (fun text => by have short := distinct text; rw [shares, List.length_append] at short; omega)
      (table.merge tenant piece rows)
    rw [here, ← Keying.runBag_append] at rest
    rw [List.flatten_cons, KeyedTable.puts, List.map_append, ← KeyedTable.puts,
      ← KeyedTable.puts, ← rest, ← here]
    rfl

/-- Removals of one key leave nothing of it, unless there are none. -/
private theorem foldl_drops (write : RawRow → Multiset RawRow → Multiset RawRow)
    (keys : List String) (bag : Multiset RawRow) :
    (drops keys).foldl (onHeld write 0) bag = if keys = [] then bag else 0 := by
  induction keys using List.reverseRecOn with
  | nil => rfl
  | append_singleton keys key _ => simp [drops, List.foldl_append, onHeld]

theorem KeyedTable.erase_eq_runBag {rows : Multiset RawRow} (alone : others tenant rows = 0)
    (keys : List String) :
    table.erase tenant keys rows = (table.keying keyed).runBag (drops keys) rows := by
  refine Keying.ext_bags (table.keying keyed) fun cell => ?_
  have selected : (table.keying keyed).ofKey (drops keys) cell =
      drops (keys.filter fun key => some key = cell) := by
    rw [Keying.ofKey, drops, List.filter_map]
    rfl
  have mine (row : RawRow) (member : row ∈ rows) : row.tenant = some tenant := by
    by_contra foreign
    have other := mem_others.mpr ⟨member, foreign⟩
    rw [alone] at other
    exact Multiset.notMem_zero row other
  have erased (row : RawRow) (member : row ∈ rows) (same : row (foldName table.key) = cell) :
      deletes table.key keys tenant row = false ↔
        (keys.filter fun key => some key = cell) = [] := by
    have owned : joins row.tenant (some tenant) = true := by simp [mine row member, joins]
    rw [deletes, owned, Bool.and_true, List.filter_eq_nil_iff, List.any_eq_false, same]
    refine forall₂_congr fun key _ => ?_
    cases cell <;> simp [joins, eq_comm]
  have left : (table.keying keyed).bag (table.erase tenant keys rows) cell =
      ((table.keying keyed).bag rows cell).filter
        fun _ => (keys.filter fun key => some key = cell) = [] := by
    simp only [Keying.bag, KeyedTable.erase, Multiset.filter_filter]
    exact Multiset.filter_congr fun row member =>
      ⟨fun both => ⟨(erased row member both.1).mp both.2, both.1⟩,
        fun both => ⟨both.2, (erased row member both.2).mpr both.1⟩⟩
  rw [left, Keying.bag_runBag, selected, foldl_drops]
  split
  · next none => exact Multiset.filter_eq_self.mpr fun _ _ => none
  · next some => exact Multiset.filter_eq_nil.mpr fun _ _ => some

theorem KeyedTable.eraseAll_eq_runBag (pieces : List (List String)) {rows : Multiset RawRow}
    (alone : others tenant rows = 0) :
    table.eraseAll tenant pieces rows =
      (table.keying keyed).runBag (drops pieces.flatten) rows := by
  induction pieces generalizing rows with
  | nil => rfl
  | cons piece pieces ih =>
    have still : others tenant (table.erase tenant piece rows) = 0 :=
      (table.others_eraseAll tenant [piece] rows).trans alone
    have here := KeyedTable.erase_eq_runBag keyed alone piece
    have rest := ih still
    rw [here, ← Keying.runBag_append] at rest
    rw [List.flatten_cons, drops, List.map_append, ← drops, ← drops, ← rest, ← here]
    rfl

theorem KeyedTable.fresh_puts (rows : List (List Cell)) :
    (table.keying keyed).Fresh (table.puts tenant rows) := by
  intro source member
  obtain ⟨row, -, same⟩ := List.mem_map.mp member
  cases same
  exact fun name absent => rowOf_of_notMem absent _

theorem puts_any_isDrop (rows : List (List Cell)) :
    (table.puts tenant rows).any Change.isDrop = false := by
  rw [List.any_eq_false]
  intro change member
  obtain ⟨row, -, rfl⟩ := List.mem_map.mp member
  simp [Change.isDrop]

/-- Deduplicating the rows of a batch leaves the last write of every key. -/
theorem KeyedTable.last_puts_dedup (fits : table.fits known = true) {upserts : List (List Cell)}
    (aligned : ∀ row ∈ upserts, row.length = table.columns.length)
    (present : ∀ row ∈ upserts, keyCell table.keyIndex row ≠ none) (cell : Cell) :
    ((table.keying keyed).ofKey (table.puts tenant (dedupByKey upserts table.keyIndex))
        cell).getLast? =
      ((table.keying keyed).ofKey (table.puts tenant upserts) cell).getLast? := by
  have ofKey (batch : List (List Cell)) (within : ∀ row ∈ batch, row ∈ upserts) (cell : Cell) :
      (table.keying keyed).ofKey (table.puts tenant batch) cell =
        table.puts tenant (batch.filter fun row => keyCell table.keyIndex row = cell) := by
    rw [Keying.ofKey, KeyedTable.puts, List.filter_map, KeyedTable.puts]
    refine congrArg _ (List.filter_congr fun row member => ?_)
    have key := KeyedTable.stamped_key tenant fits keyed (aligned row (within row member))
    simp only [Function.comp_apply, Keying.keyOf, ← key]
    rfl
  rw [ofKey _ (fun row member => mem_of_mem_dedupByKey member), ofKey _ (fun row member => member)]
  cases cell with
  | none =>
    have empty (batch : List (List Cell)) (within : ∀ row ∈ batch, row ∈ upserts) :
        (batch.filter fun row => keyCell table.keyIndex row = none) = [] :=
      List.filter_eq_nil_iff.mpr fun row member => by simpa using present row (within row member)
    rw [empty _ (fun row member => mem_of_mem_dedupByKey member), empty _ fun row member => member]
  | some text =>
    have last := under_dedupByKey table.keyIndex upserts text
    rw [under, under] at last
    rw [last, KeyedTable.puts, KeyedTable.puts, List.getLast?_map, List.getLast?_map]
    cases (upserts.filter fun row => keyCell table.keyIndex row = some text).getLast? <;> rfl

/-- Of the writes of one batch only the last of each key shows, so deduplicating the
rows first makes no difference. -/
theorem KeyedTable.run_puts_dedup (fits : table.fits known = true) {upserts : List (List Cell)}
    (aligned : ∀ row ∈ upserts, row.length = table.columns.length)
    (present : ∀ row ∈ upserts, keyCell table.keyIndex row ≠ none) (rows : Set RawRow) :
    (table.keying keyed).run (table.puts tenant (dedupByKey upserts table.keyIndex)) rows =
      (table.keying keyed).run (table.puts tenant upserts) rows :=
  Keying.run_eq_of_last _ (KeyedTable.fresh_puts keyed _) (KeyedTable.fresh_puts keyed _)
    (puts_any_isDrop _) (puts_any_isDrop _)
    (KeyedTable.last_puts_dedup keyed fits aligned present) rows

theorem KeyedTable.runBag_puts_dedup (fits : table.fits known = true)
    {upserts : List (List Cell)} (aligned : ∀ row ∈ upserts, row.length = table.columns.length)
    (present : ∀ row ∈ upserts, keyCell table.keyIndex row ≠ none) (rows : Multiset RawRow) :
    (table.keying keyed).runBag (table.puts tenant (dedupByKey upserts table.keyIndex)) rows =
      (table.keying keyed).runBag (table.puts tenant upserts) rows :=
  Keying.runBag_eq_of_last _ (KeyedTable.fresh_puts keyed _) (KeyedTable.fresh_puts keyed _)
    (puts_any_isDrop _) (puts_any_isDrop _)
    (KeyedTable.last_puts_dedup keyed fits aligned present) rows

include keyed in
/-- A change batch brings no other tenant into a table. -/
theorem KeyedTable.others_cdcRows {upserts : List (List Cell)} (deletes : List String)
    (fits : dedupByKey upserts table.keyIndex ≠ [] → table.fits known = true)
    (aligned : ∀ row ∈ upserts, row.length = table.columns.length) {rows : Multiset RawRow}
    (alone : others tenant rows = 0) :
    others tenant (table.mergeAll tenant (chunks mergeChunk (dedupByKey upserts table.keyIndex))
        rows) = 0 ∧
      others tenant (table.cdcRows tenant upserts deletes rows) = 0 := by
  have merged : others tenant (table.mergeAll tenant
      (chunks mergeChunk (dedupByKey upserts table.keyIndex)) rows) = 0 := by
    by_cases none : dedupByKey upserts table.keyIndex = []
    · rw [none]
      exact alone
    · rw [KeyedTable.others_mergeAll (fits none) keyed, alone, Multiset.filter_zero]
      exact fun piece member row inPiece =>
        aligned row (mem_of_mem_dedupByKey (mem_of_mem_chunks (by decide) member inPiece))
  exact ⟨merged, (table.others_eraseAll tenant _ _).trans merged⟩

theorem keyed_of_mem_dedupByKey {index : Nat} {rows : List (List Cell)} {row : List Cell}
    (member : row ∈ dedupByKey rows index) : keyCell index row ≠ none := by
  induction rows using List.reverseRecOn generalizing row with
  | nil => cases member
  | append_singleton rows last ih =>
    have stepped : dedupByKey (rows ++ [last]) index =
        dedupStep index (dedupByKey rows index) last := by
      simp [dedupByKey, List.foldl_append]
    rw [stepped] at member
    unfold dedupStep at member
    split at member
    · exact ih member
    · next key keyedLast =>
      have filled : keyCell index last ≠ none := by simp [keyedLast]
      split at member
      · obtain ⟨seen, inKept, rfl⟩ := List.mem_map.mp member
        split
        · exact filled
        · exact ih inKept
      · rcases List.mem_append.mp member with inKept | isLast
        · exact ih inKept
        · rw [List.mem_singleton.mp isLast]
          exact filled

/-- The MERGEs of a deduplicated batch write its rows under their keys. -/
theorem KeyedTable.mergeAll_dedup {upserts : List (List Cell)}
    (fits : dedupByKey upserts table.keyIndex ≠ [] → table.fits known = true)
    (aligned : ∀ row ∈ upserts, row.length = table.columns.length) (rows : Multiset RawRow) :
    table.mergeAll tenant (chunks mergeChunk (dedupByKey upserts table.keyIndex)) rows =
      (table.keying keyed).runBag (table.puts tenant (dedupByKey upserts table.keyIndex)) rows := by
  by_cases none : dedupByKey upserts table.keyIndex = []
  · rw [none]
    rfl
  · have whole : (chunks mergeChunk (dedupByKey upserts table.keyIndex)).flatten =
        dedupByKey upserts table.keyIndex := chunks_flatten (by decide) _
    rw [KeyedTable.mergeAll_eq_runBag keyed (fits none) ?_ ?_ ?_, whole]
    · exact fun row member => aligned row (mem_of_mem_dedupByKey (whole ▸ member))
    · exact fun row member => keyed_of_mem_dedupByKey (whole ▸ member)
    · intro text
      rw [whole, under_dedupByKey]
      cases (under table.keyIndex upserts text).getLast? <;> simp

/-- A change batch writes its deduplicated rows under their keys, then removes its keys. -/
theorem KeyedTable.cdcRows_eq_runBag {upserts : List (List Cell)} {deletes : List String}
    (fits : dedupByKey upserts table.keyIndex ≠ [] → table.fits known = true)
    (aligned : ∀ row ∈ upserts, row.length = table.columns.length) {rows : Multiset RawRow}
    (alone : others tenant rows = 0) :
    table.cdcRows tenant upserts deletes rows =
      (table.keying keyed).runBag
        (table.puts tenant (dedupByKey upserts table.keyIndex) ++ drops deletes) rows := by
  have still := (KeyedTable.others_cdcRows keyed deletes fits aligned alone).1
  rw [KeyedTable.cdcRows, KeyedTable.eraseAll_eq_runBag keyed _ still, chunks_flatten (by decide),
    KeyedTable.mergeAll_dedup keyed fits aligned, Keying.runBag_append]

/-- As sets of rows, a change batch writes all its rows in order, then removes its keys. -/
theorem KeyedTable.contents_cdcRows {upserts : List (List Cell)} {deletes : List String}
    (fits : dedupByKey upserts table.keyIndex ≠ [] → table.fits known = true)
    (aligned : ∀ row ∈ upserts, row.length = table.columns.length)
    (present : ∀ row ∈ upserts, keyCell table.keyIndex row ≠ none) {rows : Multiset RawRow}
    (alone : others tenant rows = 0) :
    contents (table.cdcRows tenant upserts deletes rows) =
      (table.keying keyed).run (table.puts tenant upserts ++ drops deletes) (contents rows) := by
  have ran := Keying.mem_runBag (table.keying keyed)
    (table.puts tenant (dedupByKey upserts table.keyIndex) ++ drops deletes) rows
  rw [← KeyedTable.cdcRows_eq_runBag keyed fits aligned alone] at ran
  unfold contents
  rw [ran, Keying.run_append, Keying.run_append]
  by_cases none : dedupByKey upserts table.keyIndex = []
  · have nothing : upserts = [] := by
      by_contra filled
      obtain ⟨row, rest, rfl⟩ := List.exists_cons_of_ne_nil filled
      obtain ⟨text, keyedRow⟩ := Option.ne_none_iff_exists'.mp (present row (by simp))
      have last := under_dedupByKey table.keyIndex (row :: rest) text
      rw [none] at last
      simp [under, keyedRow] at last
    rw [none, nothing]
  · rw [KeyedTable.run_puts_dedup keyed (fits none) aligned present]

end

end ConsumerEngine.Storage
