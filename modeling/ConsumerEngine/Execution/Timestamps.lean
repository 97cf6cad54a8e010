import Mathlib.Tactic.Linarith
import Mathlib.Tactic.Ring
import ConsumerEngine.Core.Values

/-! A timestamp as the reader hands it out: ticks since 1970, of one of four lengths, as ISO-8601.

The calendar is a library's; what is used of it is that it takes whole seconds and nanoseconds
apart and reads back what it has written.
-/

set_option autoImplicit false

namespace ConsumerEngine.Execution

open ConsumerEngine.Core

/-- `TimeUnit`. -/
inductive TimeUnit where
  | second | millisecond | microsecond | nanosecond
  deriving DecidableEq, Repr

/-- The nanoseconds of one tick. -/
def TimeUnit.nanos : TimeUnit → Int
  | .second => 1000000000
  | .millisecond => 1000000
  | .microsecond => 1000
  | .nanosecond => 1

/-- The result of an operation on `i64`; none where it overflows. -/
def checked (n : Int) : Option Int := if -2 ^ 63 ≤ n ∧ n < 2 ^ 63 then some n else none

/-- `as u32`. -/
def asU32 (n : Int) : Nat := (n % 2 ^ 32).toNat

/-- The seconds and nanoseconds of `timestamp_to_iso`; `/` and `%` are `div_euclid` and
`rem_euclid`. -/
def splitTicks (unit : TimeUnit) (ts : Int64) : Option (Int × Nat) :=
  match unit with
  | .second => some (ts.toInt, 0)
  | .millisecond => do
      let secs ← checked (ts.toInt / 1000)
      let part ← checked (ts.toInt % 1000)
      let nanos ← checked (part * 1000000)
      return (secs, asU32 nanos)
  | .microsecond => do
      let secs ← checked (ts.toInt / 1000000)
      let part ← checked (ts.toInt % 1000000)
      let nanos ← checked (part * 1000)
      return (secs, asU32 nanos)
  | .nanosecond => do
      let secs ← checked (ts.toInt / 1000000000)
      let nanos ← checked (ts.toInt % 1000000000)
      return (secs, asU32 nanos)

/-- `chrono::DateTime<Utc>`: `from_timestamp`, `to_rfc3339_opts` with `AutoSi`, the parser, and what
an instant consists of. -/
structure Chrono where
  DateTime : Type
  fromTimestamp : Int → Nat → Option DateTime
  toRfc3339 : DateTime → String
  parse : String → Option DateTime
  timestamp : DateTime → Int
  subsecNanos : DateTime → Nat

/-- The nanoseconds since 1970. -/
def Chrono.instant (chrono : Chrono) (d : chrono.DateTime) : Int :=
  chrono.timestamp d * 1000000000 + chrono.subsecNanos d

/-- The documented behaviour of the library, away from leap seconds: every second of a range has
its instants, and each is read back from its text. -/
structure Chrono.Lawful (chrono : Chrono) (first last : Int) : Prop where
  range : ∀ secs nanos, nanos < 1000000000 →
    ((chrono.fromTimestamp secs nanos).isSome = true ↔ first ≤ secs ∧ secs ≤ last)
  parts : ∀ secs nanos d, nanos < 1000000000 → chrono.fromTimestamp secs nanos = some d →
    chrono.timestamp d = secs ∧ chrono.subsecNanos d = nanos
  reads : ∀ secs nanos d, nanos < 1000000000 → chrono.fromTimestamp secs nanos = some d →
    chrono.parse (chrono.toRfc3339 d) = some d

section
variable (chrono : Chrono)

/-- `timestamp_to_iso`; none where its arithmetic overflows. -/
def timestampToIso (unit : TimeUnit) (ts : Int64) : Option (Option String) := do
  let (secs, nanos) ← splitTicks unit ts
  return (chrono.fromTimestamp secs nanos).map chrono.toRfc3339

/-- `value_to_json` on a timestamp. -/
def timestampToJson (unit : TimeUnit) (ts : Int64) : Option Json := do
  match ← timestampToIso chrono unit ts with
  | some iso => return .string iso
  | none => return .null

end

theorem checked_eq {n : Int} (low : -2 ^ 63 ≤ n) (high : n < 2 ^ 63) : checked n = some n :=
  if_pos ⟨low, high⟩

theorem asU32_eq {n : Int} (low : 0 ≤ n) (high : n < 2 ^ 32) : (asU32 n : Int) = n := by
  rw [asU32, Int.emod_eq_of_lt low high, Int.toNat_of_nonneg low]

/-- A whole number of seconds, and what is left in nanoseconds, neither of which overflows. -/
structure Parts (ts : Int64) (perSecond scale : Int) : Prop where
  seconds : checked (ts.toInt / perSecond) = some (ts.toInt / perSecond)
  left : checked (ts.toInt % perSecond) = some (ts.toInt % perSecond)
  scaled : checked (ts.toInt % perSecond * scale) = some (ts.toInt % perSecond * scale)
  below : asU32 (ts.toInt % perSecond * scale) < 1000000000
  sum : ts.toInt / perSecond * 1000000000 + asU32 (ts.toInt % perSecond * scale) = ts.toInt * scale

theorem parts_exact (ts : Int64) (perSecond scale : Int) (positive : 0 < perSecond)
    (grows : 0 < scale) (whole : perSecond * scale = 1000000000) : Parts ts perSecond scale := by
  have low := ts.le_toInt
  have high := ts.toInt_lt
  have nonneg := Int.emod_nonneg ts.toInt positive.ne'
  have below := Int.emod_lt_of_pos ts.toInt positive
  have split := Int.mul_ediv_add_emod ts.toInt perSecond
  have quotientLow : -2 ^ 63 ≤ ts.toInt / perSecond :=
    (Int.le_ediv_iff_mul_le positive).mpr (by nlinarith)
  have quotientHigh : ts.toInt / perSecond < 2 ^ 63 :=
    (Int.ediv_lt_iff_lt_mul positive).mpr (by nlinarith)
  have small : perSecond ≤ 1000000000 := by nlinarith
  have nanosLow : 0 ≤ ts.toInt % perSecond * scale := Int.mul_nonneg nonneg grows.le
  have nanosHigh : ts.toInt % perSecond * scale < 1000000000 :=
    whole ▸ Int.mul_lt_mul_of_pos_right below grows
  have nanos : (asU32 (ts.toInt % perSecond * scale) : Int) = ts.toInt % perSecond * scale :=
    asU32_eq nanosLow (by omega)
  exact {
    seconds := checked_eq quotientLow quotientHigh
    left := checked_eq (by omega) (by omega)
    scaled := checked_eq (by omega) (by omega)
    below := by omega
    sum := by
      rw [nanos, ← whole]
      calc ts.toInt / perSecond * (perSecond * scale) + ts.toInt % perSecond * scale
          = (perSecond * (ts.toInt / perSecond) + ts.toInt % perSecond) * scale := by ring
        _ = ts.toInt * scale := by rw [split] }

/-- Every tick count is split exactly, without overflow. -/
theorem splitTicks_exact (unit : TimeUnit) (ts : Int64) : ∃ secs nanos,
    splitTicks unit ts = some (secs, nanos) ∧ nanos < 1000000000 ∧
      secs * 1000000000 + nanos = ts.toInt * unit.nanos := by
  cases unit with
  | second => exact ⟨_, 0, rfl, by decide, Int.add_zero _⟩
  | millisecond =>
    have parts := parts_exact ts 1000 1000000 (by decide) (by decide) rfl
    refine ⟨_, _, ?_, parts.below, parts.sum⟩
    simp only [splitTicks, parts.seconds, parts.left, parts.scaled, Option.bind_eq_bind,
      Option.bind_some, Option.pure_def]
  | microsecond =>
    have parts := parts_exact ts 1000000 1000 (by decide) (by decide) rfl
    refine ⟨_, _, ?_, parts.below, parts.sum⟩
    simp only [splitTicks, parts.seconds, parts.left, parts.scaled, Option.bind_eq_bind,
      Option.bind_some, Option.pure_def]
  | nanosecond =>
    have parts := parts_exact ts 1000000000 1 (by decide) (by decide) rfl
    have below := parts.below
    have sum := parts.sum
    rw [Int.mul_one] at below sum
    refine ⟨_, _, ?_, below, sum⟩
    simp only [splitTicks, parts.seconds, parts.left, Option.bind_eq_bind, Option.bind_some,
      Option.pure_def]

/-- An instant, in nanoseconds, within a range of seconds. -/
def Within (first last instant : Int) : Prop :=
  first * 1000000000 ≤ instant ∧ instant < (last + 1) * 1000000000

section
variable {chrono : Chrono} {first last : Int}

/-- What is emitted: the text of the instant in the library's range, and null out of it. -/
theorem timestampToJson_cases (lawful : chrono.Lawful first last) (unit : TimeUnit) (ts : Int64) :
    (Within first last (ts.toInt * unit.nanos) ∧ ∃ d,
      timestampToJson chrono unit ts = some (.string (chrono.toRfc3339 d)) ∧
        chrono.parse (chrono.toRfc3339 d) = some d ∧
          chrono.instant d = ts.toInt * unit.nanos ∧ ∃ (secs : Int) (nanos : Nat),
            nanos < 1000000000 ∧ secs * 1000000000 + nanos = ts.toInt * unit.nanos ∧
              chrono.fromTimestamp secs nanos = some d) ∨
    (¬ Within first last (ts.toInt * unit.nanos) ∧ timestampToJson chrono unit ts = some .null) := by
  obtain ⟨secs, nanos, split, below, sum⟩ := splitTicks_exact unit ts
  have ranged := lawful.range secs nanos below
  have within : Within first last (ts.toInt * unit.nanos) ↔ first ≤ secs ∧ secs ≤ last := by
    rw [Within, ← sum]
    omega
  cases made : chrono.fromTimestamp secs nanos with
  | none =>
    rw [made] at ranged
    refine .inr ⟨fun inside => Bool.false_ne_true (ranged.mpr (within.mp inside)), ?_⟩
    simp only [timestampToJson, timestampToIso, split, made, Option.bind_eq_bind, Option.bind_some,
      Option.map_none, Option.pure_def]
  | some d =>
    rw [made] at ranged
    obtain ⟨seconds, subsec⟩ := lawful.parts secs nanos d below made
    refine .inl ⟨within.mpr (ranged.mp rfl), d, ?_, lawful.reads secs nanos d below made, ?_, secs,
      nanos, below, sum, made⟩
    · simp only [timestampToJson, timestampToIso, split, made, Option.bind_eq_bind, Option.bind_some,
        Option.map_some, Option.pure_def]
    · rw [Chrono.instant, seconds, subsec, sum]

/-- Seconds and nanoseconds are those of their instant. -/
theorem parts_unique {secs secs' : Int} {nanos nanos' : Nat} (below : nanos < 1000000000)
    (below' : nanos' < 1000000000)
    (same : secs * 1000000000 + nanos = secs' * 1000000000 + nanos') : secs = secs' ∧ nanos = nanos' := by
  omega

end

/-- Ticks are split exactly; an instant in the library's range is emitted as a text that is read
back as it, and two cells are emitted alike exactly if they are one instant. -/
theorem timestamps_exact {chrono : Chrono} {first last : Int} (lawful : chrono.Lawful first last) :
    (∀ unit ts, ∃ secs nanos, splitTicks unit ts = some (secs, nanos) ∧ nanos < 1000000000 ∧
      secs * 1000000000 + nanos = ts.toInt * unit.nanos) ∧
    (∀ unit ts, Within first last (ts.toInt * unit.nanos) → ∃ iso d,
      timestampToJson chrono unit ts = some (.string iso) ∧ chrono.parse iso = some d ∧
        chrono.instant d = ts.toInt * unit.nanos) ∧
    ∀ unit unit' ts ts', Within first last (ts.toInt * unit.nanos) →
      (timestampToJson chrono unit ts = timestampToJson chrono unit' ts' ↔
        ts.toInt * unit.nanos = ts'.toInt * unit'.nanos) := by
  refine ⟨splitTicks_exact, fun unit ts inside => ?_, fun unit unit' ts ts' inside => ?_⟩
  · rcases timestampToJson_cases lawful unit ts with ⟨-, d, emitted, read, instant, -⟩ | ⟨outside, -⟩
    · exact ⟨_, d, emitted, read, instant⟩
    · exact absurd inside outside
  · rcases timestampToJson_cases lawful unit ts with
      ⟨-, d, emitted, read, instant, secs, nanos, below, sum, made⟩ | ⟨outside, -⟩
    · rcases timestampToJson_cases lawful unit' ts' with
        ⟨-, d', emitted', read', instant', secs', nanos', below', sum', made'⟩ | ⟨outside', emitted'⟩
      · constructor
        · intro same
          rw [emitted, emitted'] at same
          have texts := Json.string.inj (Option.some.inj same)
          rw [texts, read'] at read
          rw [← instant, ← instant', Option.some.inj read]
        · intro same
          obtain ⟨rfl, rfl⟩ := parts_unique below below' (sum.trans (same.trans sum'.symm))
          rw [emitted, emitted', Option.some.inj (made.symm.trans made')]
      · refine iff_of_false ?_ fun same => outside' (same ▸ inside)
        rw [emitted, emitted']
        exact fun same => Json.noConfusion (Option.some.inj same)
    · exact absurd inside outside

/-! ### A calendar of one second -/

/-- The digits of a number, to a width. -/
def digits : Nat → Nat → List Char
  | 0, _ => []
  | width + 1, n => digits width (n / 10) ++ [(n % 10).digitChar]

def readDigits (text : List Char) : Nat := text.foldl (fun n c => n * 10 + (c.toNat - 48)) 0

theorem readDigits_digits (width n : Nat) : readDigits (digits width n) = n % 10 ^ width := by
  induction width generalizing n with
  | zero => rw [Nat.pow_zero, Nat.mod_one]; rfl
  | succ width ih =>
    have digit : ∀ d < 10, d.digitChar.toNat - 48 = d := by decide
    have last := digit (n % 10) (Nat.mod_lt n (by decide))
    unfold readDigits at ih ⊢
    rw [digits, List.foldl_append, ih, List.foldl_cons, List.foldl_nil, last,
      Nat.pow_succ', Nat.mod_mul]
    omega

/-- A fraction of a second, in three, six or nine digits. -/
def fraction (nanos : Nat) : List Char :=
  if nanos = 0 then []
  else if nanos % 1000000 = 0 then '.' :: digits 3 (nanos / 1000000)
  else if nanos % 1000 = 0 then '.' :: digits 6 (nanos / 1000)
  else '.' :: digits 9 nanos

def readFraction : List Char → Nat
  | [] => 0
  | _ :: text => readDigits text * 10 ^ (9 - text.length)

theorem length_digits (width n : Nat) : (digits width n).length = width := by
  induction width generalizing n with
  | zero => rfl
  | succ width ih => rw [digits, List.length_append, ih, List.length_singleton]

theorem readFraction_fraction {nanos : Nat} (below : nanos < 1000000000) :
    readFraction (fraction nanos) = nanos := by
  rw [fraction]
  split
  · next none_ => rw [none_]; rfl
  · split
    · rw [readFraction, readDigits_digits, length_digits]
      omega
    · split
      · rw [readFraction, readDigits_digits, length_digits]
        omega
      · rw [readFraction, readDigits_digits, length_digits]
        omega

/-- The library within the first second of the 15th of January 2025. -/
def midJanuary : Chrono where
  DateTime := Nat
  fromTimestamp secs nanos := if secs = 1736899200 then some nanos else none
  toRfc3339 nanos := String.ofList ("2025-01-15T00:00:00".toList ++ (fraction nanos ++ ['Z']))
  parse text := some (readFraction (text.toList.drop 19).dropLast)
  timestamp _ := 1736899200
  subsecNanos nanos := nanos

theorem midJanuary_made {secs : Int} {nanos : Nat} {d : Nat}
    (made : midJanuary.fromTimestamp secs nanos = some d) : secs = 1736899200 ∧ nanos = d := by
  change (if secs = 1736899200 then some nanos else none) = some d at made
  split at made
  · next same => exact ⟨same, Option.some.inj made⟩
  · cases made

theorem midJanuary_lawful : midJanuary.Lawful 1736899200 1736899200 where
  range secs nanos _ := by
    by_cases same : secs = 1736899200
    · simp [midJanuary, same]
    · simp only [midJanuary, same, if_false, Option.isSome_none, Bool.false_eq_true, false_iff]
      omega
  parts secs nanos d _ made := by
    obtain ⟨rfl, rfl⟩ := midJanuary_made made
    exact ⟨rfl, rfl⟩
  reads secs nanos d below made := by
    obtain ⟨-, rfl⟩ := midJanuary_made made
    have start : "2025-01-15T00:00:00".toList.length = 19 := by decide +kernel
    simp only [midJanuary, String.toList_ofList]
    rw [← start, List.drop_left, List.dropLast_concat, readFraction_fraction below]

/-- A cell in seconds and one in milliseconds are one text. -/
theorem timestamps_exact_midJanuary :
    timestampToJson midJanuary .second 1736899200 = timestampToJson midJanuary .millisecond 1736899200000 ∧
      timestampToJson midJanuary .second 1736899200 = some (.string "2025-01-15T00:00:00Z") := by
  obtain ⟨-, -, same⟩ := timestamps_exact midJanuary_lawful
  have inside : Within 1736899200 1736899200 ((1736899200 : Int64).toInt * TimeUnit.second.nanos) :=
    ⟨by decide, by decide⟩
  refine ⟨(same .second .millisecond 1736899200 1736899200000 inside).mpr (by decide), ?_⟩
  have text : midJanuary.toRfc3339 (0 : Nat) = "2025-01-15T00:00:00Z" := by decide +kernel
  rw [← text]
  rfl

end ConsumerEngine.Execution
