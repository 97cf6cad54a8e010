import ConsumerEngine.Semantic.Cells
import ConsumerEngine.Semantic.Profiler

/-! What a column's samples are: the first distinct ones among its texts, each cut to a length in
bytes without cutting a character.

Text is a list of characters, and an offset into it counts the bytes of the characters before it.
-/

set_option autoImplicit false

namespace ConsumerEngine.Semantic

open ConsumerEngine.Core ConsumerEngine.Foundation ConsumerEngine.Storage

/-! ### Offsets between characters -/

/-- The bytes of a text. -/
def byteLength (chars : List Char) : Nat := (chars.map Char.utf8Size).sum

/-- `str::is_char_boundary`. -/
def isCharBoundary : List Char → Nat → Bool
  | _, 0 => true
  | [], _ + 1 => false
  | c :: rest, offset => decide (c.utf8Size ≤ offset) && isCharBoundary rest (offset - c.utf8Size)

/-- `&s[..end]`; the slice panics unless it ends between two characters. -/
def sliceTo : List Char → Nat → Option (List Char)
  | _, 0 => some []
  | [], _ + 1 => none
  | c :: rest, offset =>
      if c.utf8Size ≤ offset then (sliceTo rest (offset - c.utf8Size)).map (c :: ·) else none

/-- The loop of `truncate_bytes`. -/
def scanBack (chars : List Char) : Nat → Nat
  | 0 => 0
  | offset + 1 => if isCharBoundary chars (offset + 1) then offset + 1 else scanBack chars offset

/-- `truncate_bytes`, by its loop. -/
def truncateScanning (chars : List Char) (max : Nat) : Option (List Char) :=
  if byteLength chars ≤ max then some chars else sliceTo chars (scanBack chars max)

theorem utf8ByteSize_ofList (chars : List Char) :
    (String.ofList chars).utf8ByteSize = byteLength chars := by
  induction chars with
  | nil => rfl
  | cons c rest ih =>
    have split : String.ofList (c :: rest) = String.singleton c ++ String.ofList rest := by
      rw [← String.toList_inj]
      simp
    rw [split, String.utf8ByteSize_append, ih, String.utf8ByteSize_singleton]
    rfl

theorem utf8ByteSize_eq (text : String) : text.utf8ByteSize = byteLength text.toList := by
  rw [← utf8ByteSize_ofList, String.ofList_toList]

@[simp] theorem byteLength_nil : byteLength [] = 0 := rfl

@[simp] theorem byteLength_cons (c : Char) (rest : List Char) :
    byteLength (c :: rest) = c.utf8Size + byteLength rest := rfl

@[simp] theorem byteLength_append (first second : List Char) :
    byteLength (first ++ second) = byteLength first + byteLength second := by
  simp [byteLength]

/-- An offset between two characters is the length of what stands before it. -/
theorem isCharBoundary_iff {chars : List Char} {offset : Nat} :
    isCharBoundary chars offset = true ↔ ∃ before, before <+: chars ∧ byteLength before = offset := by
  induction chars generalizing offset with
  | nil =>
    cases offset with
    | zero => exact iff_of_true rfl ⟨[], List.prefix_rfl, rfl⟩
    | succ offset =>
      refine iff_of_false Bool.false_ne_true ?_
      rintro ⟨before, inside, length⟩
      rw [List.prefix_nil.mp inside] at length
      cases length
  | cons c rest ih =>
    have wide := c.utf8Size_pos
    cases offset with
    | zero => exact iff_of_true rfl ⟨[], List.nil_prefix, rfl⟩
    | succ offset =>
      rw [isCharBoundary, Bool.and_eq_true, decide_eq_true_eq, ih]
      · constructor
        · rintro ⟨fits, before, inside, length⟩
          exact ⟨c :: before, List.cons_prefix_cons.mpr ⟨rfl, inside⟩, by
            rw [byteLength_cons]; omega⟩
        · rintro ⟨before, inside, length⟩
          cases before with
          | nil => cases length
          | cons first before =>
            obtain ⟨rfl, rest_⟩ := List.cons_prefix_cons.mp inside
            rw [byteLength_cons] at length
            exact ⟨by omega, before, rest_, by omega⟩
      · exact Nat.succ_ne_zero offset

theorem sliceTo_prefix {chars before : List Char} (inside : before <+: chars) :
    sliceTo chars (byteLength before) = some before := by
  induction chars generalizing before with
  | nil => rw [List.prefix_nil.mp inside]; rfl
  | cons c rest ih =>
    cases before with
    | nil => rfl
    | cons first before =>
      obtain ⟨rfl, later⟩ := List.cons_prefix_cons.mp inside
      have wide := first.utf8Size_pos
      rw [byteLength_cons, sliceTo]
      · rw [if_pos (Nat.le_add_right _ _), Nat.add_sub_cancel_left, ih later, Option.map_some]
      · exact fun none_ => by omega

/-- The loop stops at the last offset between characters that is not past its start. -/
theorem scanBack_greatest (chars : List Char) (max : Nat) :
    isCharBoundary chars (scanBack chars max) = true ∧ scanBack chars max ≤ max ∧
      ∀ offset ≤ max, isCharBoundary chars offset = true → offset ≤ scanBack chars max := by
  induction max with
  | zero =>
    refine ⟨?_, Nat.le_refl 0, fun offset none_ _ => none_⟩
    cases chars <;> rfl
  | succ max ih =>
    obtain ⟨boundary, below, greatest⟩ := ih
    rw [scanBack]
    split
    case isTrue here => exact ⟨here, Nat.le_refl _, fun offset fits _ => fits⟩
    case isFalse not_here =>
      refine ⟨boundary, Nat.le_succ_of_le below, fun offset fits other => ?_⟩
      rcases Nat.lt_or_eq_of_le fits with less | rfl
      · exact greatest offset (Nat.le_of_lt_succ less) other
      · exact absurd other not_here

theorem truncateChars_begins (max : Nat) (chars : List Char) : truncateChars max chars <+: chars := by
  induction chars generalizing max with
  | nil => exact List.prefix_rfl
  | cons c rest ih =>
    rw [truncateChars]
    split
    · exact List.cons_prefix_cons.mpr ⟨rfl, ih _⟩
    · exact List.nil_prefix

theorem truncateChars_le (max : Nat) (chars : List Char) : byteLength (truncateChars max chars) ≤ max := by
  induction chars generalizing max with
  | nil => exact Nat.zero_le max
  | cons c rest ih =>
    rw [truncateChars]
    split
    case isTrue fits =>
      have later := ih (max - c.utf8Size)
      rw [byteLength_cons]
      omega
    case isFalse => exact Nat.zero_le max

/-- Every beginning that is short enough is a beginning of the longest one. -/
theorem truncateChars_longest {max : Nat} {chars before : List Char} (inside : before <+: chars)
    (short : byteLength before ≤ max) : before <+: truncateChars max chars := by
  induction chars generalizing max before with
  | nil => exact inside
  | cons c rest ih =>
    cases before with
    | nil => exact List.nil_prefix
    | cons first before =>
      obtain ⟨rfl, later⟩ := List.cons_prefix_cons.mp inside
      rw [byteLength_cons] at short
      rw [truncateChars, if_pos (by omega)]
      exact List.cons_prefix_cons.mpr ⟨rfl, ih later (by omega)⟩

theorem prefix_eq_of_byteLength {before chars : List Char} (inside : before <+: chars)
    (long : byteLength chars ≤ byteLength before) : before = chars := by
  obtain ⟨after, rfl⟩ := inside
  cases after with
  | nil => exact (List.append_nil before).symm
  | cons c after =>
    have wide := c.utf8Size_pos
    rw [byteLength_append, byteLength_cons] at long
    omega

/-- The loop never slices through a character, and leaves the longest beginning that fits. -/
theorem truncateScanning_eq (chars : List Char) (max : Nat) :
    truncateScanning chars max = some (truncateChars max chars) := by
  rw [truncateScanning]
  split
  case isTrue fits =>
    have whole := truncateChars_longest List.prefix_rfl fits
    rw [(truncateChars_begins max chars).eq_of_length_le whole.length_le]
  case isFalse =>
    obtain ⟨boundary, below, greatest⟩ := scanBack_greatest chars max
    obtain ⟨before, inside, length⟩ := isCharBoundary_iff.mp boundary
    have longest := greatest _ (truncateChars_le max chars)
      (isCharBoundary_iff.mpr ⟨_, truncateChars_begins max chars, rfl⟩)
    rw [← length] at longest below
    have same := prefix_eq_of_byteLength (truncateChars_longest inside below) longest
    rw [← length, sliceTo_prefix inside, same]

/-! ### Buckets -/

/-- `sample_columns`, on the values a reader returns. -/
def sampleValues (rows : List (List Json)) (columns : List String) (valueBytes : Nat) :
    List (List String) :=
  sampleColumns (rows.map (List.map asStr)) columns valueBytes

/-- The texts of a column, from the rows that are wide enough. -/
def columnTexts (column : Nat) (rows : List (List Cell)) : List String :=
  rows.filterMap fun row => row[column]?.join

theorem columnTexts_cons (column : Nat) (row : List Cell) (rows : List (List Cell)) :
    columnTexts column (row :: rows) = row[column]?.join.toList ++ columnTexts column rows := by
  rw [columnTexts, List.filterMap_cons]
  cases row[column]?.join <;> rfl

/-- The first distinct texts. -/
def firstDistinct (texts : List String) : List String := texts.eraseDups.take maxSampleValues

theorem eraseDups_concat (texts : List String) (text : String) :
    (texts ++ [text]).eraseDups = texts.eraseDups ++ if text ∈ texts then [] else [text] := by
  rw [List.eraseDups_append, List.removeAll]
  by_cases seen : text ∈ texts
  · simp [seen]
  · simp [seen, List.eraseDups_cons]

/-- A bucket of the first distinct texts stays one. -/
theorem addSample_firstDistinct (valueBytes : Nat) (seen : List String) (cell : Cell) :
    addSample valueBytes (firstDistinct seen) cell =
      firstDistinct (seen ++ (cell.map (truncateBytes · valueBytes)).toList) := by
  unfold addSample firstDistinct
  split
  case isTrue full =>
    rw [List.length_take, Nat.le_min] at full
    cases cell with
    | none => rw [Option.map_none, Option.toList_none, List.append_nil]
    | some text =>
      rw [Option.map_some, Option.toList_some, eraseDups_concat, List.take_append_of_le_length full.2]
  case isFalse free =>
    have whole : seen.eraseDups.take maxSampleValues = seen.eraseDups := by
      refine List.take_of_length_le ?_
      rw [List.length_take] at free
      omega
    rw [whole] at free ⊢
    cases cell with
    | none => rw [Option.map_none, Option.toList_none, List.append_nil, whole]
    | some text =>
      rw [Option.map_some, Option.toList_some, eraseDups_concat]
      dsimp only
      by_cases member : truncateBytes text valueBytes ∈ seen
      · rw [if_pos (List.contains_iff_mem.mpr (List.mem_eraseDups.mpr member)), if_pos member,
          List.append_nil, whole]
      · have absent : ¬ seen.eraseDups.contains (truncateBytes text valueBytes) = true := fun found =>
          member (List.mem_eraseDups.mp (List.contains_iff_mem.mp found))
        rw [if_neg absent, if_neg member, List.take_of_length_le]
        rw [List.length_append, List.length_singleton]
        omega

theorem length_addRow (valueBytes : Nat) (buckets : List (List String)) (cells : List Cell) :
    (addRow valueBytes buckets cells).length = buckets.length := by
  induction buckets generalizing cells with
  | nil => cases cells <;> rfl
  | cons bucket buckets ih =>
    cases cells with
    | nil => rfl
    | cons cell cells => exact congrArg Nat.succ (ih cells)

/-- A row changes a bucket by its own cell, if it has one. -/
theorem getElem_addRow (valueBytes : Nat) (buckets : List (List String)) (cells : List Cell)
    (column : Nat) : (addRow valueBytes buckets cells)[column]? =
      buckets[column]?.map fun bucket => addSample valueBytes bucket cells[column]?.join := by
  have empty (bucket : List String) : addSample valueBytes bucket none = bucket := by
    unfold addSample
    split <;> rfl
  induction buckets generalizing cells column with
  | nil => cases cells <;> rfl
  | cons bucket buckets ih =>
    cases cells with
    | nil => simp [addRow, empty]
    | cons cell cells =>
      cases column with
      | zero => rfl
      | succ column =>
        rw [addRow, List.getElem?_cons_succ, List.getElem?_cons_succ, List.getElem?_cons_succ]
        exact ih cells column

theorem foldl_addRow {valueBytes column : Nat} (rows : List (List Cell)) {buckets : List (List String)}
    {seen : List String} (here : buckets[column]? = some (firstDistinct seen)) :
    (rows.foldl (addRow valueBytes) buckets)[column]? = some (firstDistinct
      (seen ++ (columnTexts column rows).map (truncateBytes · valueBytes))) := by
  induction rows generalizing buckets seen with
  | nil => rw [columnTexts, List.filterMap_nil, List.map_nil, List.append_nil, List.foldl_nil, here]
  | cons row rows ih =>
    have after : (addRow valueBytes buckets row)[column]? = some (firstDistinct
        (seen ++ (row[column]?.join.map (truncateBytes · valueBytes)).toList)) := by
      rw [getElem_addRow, here, Option.map_some, addSample_firstDistinct]
    rw [List.foldl_cons, ih after, List.append_assoc, columnTexts_cons, List.map_append]
    cases row[column]?.join <;> rfl

theorem length_foldl_addRow (valueBytes : Nat) (rows : List (List Cell))
    (buckets : List (List String)) :
    (rows.foldl (addRow valueBytes) buckets).length = buckets.length := by
  induction rows generalizing buckets with
  | nil => rfl
  | cons row rows ih => rw [List.foldl_cons, ih, length_addRow]

/-- The samples of a column are the first distinct ones of its texts cut short, and a text is cut
to the longest beginning that fits. -/
theorem samples_exact (rows : List (List Json)) (columns : List String) (valueBytes : Nat) :
    (sampleValues rows columns valueBytes).length = columns.length ∧
    (∀ column < columns.length, (sampleValues rows columns valueBytes)[column]? =
      some (((rows.filterMap fun row => row[column]?.bind asStr).map
        (truncateBytes · valueBytes)).eraseDups.take maxSampleValues)) ∧
    ∀ text : String,
      truncateScanning text.toList valueBytes = some (truncateBytes text valueBytes).toList ∧
      (truncateBytes text valueBytes).toList <+: text.toList ∧
      (truncateBytes text valueBytes).utf8ByteSize ≤ valueBytes ∧
      ∀ before : String, before.toList <+: text.toList → before.utf8ByteSize ≤ valueBytes →
        before.toList <+: (truncateBytes text valueBytes).toList := by
  refine ⟨?_, fun column inside => ?_, fun text => ?_⟩
  · rw [sampleValues, sampleColumns, length_foldl_addRow, List.length_map]
  · have start : (columns.map fun _ => ([] : List String))[column]? = some (firstDistinct []) := by
      rw [List.getElem?_map, List.getElem?_eq_getElem inside, Option.map_some]
      rfl
    have texts : columnTexts column (rows.map (List.map asStr)) =
        rows.filterMap fun row => row[column]?.bind asStr := by
      rw [columnTexts, List.filterMap_map]
      refine congrArg (List.filterMap · rows) (funext fun row => ?_)
      rw [Function.comp_apply, List.getElem?_map]
      cases row[column]? <;> rfl
    rw [sampleValues, sampleColumns, foldl_addRow _ start, List.nil_append, texts, firstDistinct]
  · rw [truncateBytes, String.toList_ofList, utf8ByteSize_ofList]
    refine ⟨truncateScanning_eq text.toList valueBytes, truncateChars_begins _ _,
      truncateChars_le _ _, fun before inside short => ?_⟩
    exact truncateChars_longest inside (utf8ByteSize_eq before ▸ short)

/-- Cut to three bytes, two texts fall together, and a character of two bytes is left out whole. -/
example : sampleValues [[.string "abcd", .null], [.string "abc\u00e9"], [.string "ab\u00e9"]]
    ["a", "b", "c"] 3 = [["abc", "ab"], [], []] := by
  decide +kernel

end ConsumerEngine.Semantic
