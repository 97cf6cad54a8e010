import Mathlib.Algebra.Order.Ring.Rat
import Mathlib.Data.Nat.Cast.Order.Ring
import Mathlib.Data.Rat.Cast.CharZero
import Mathlib.Data.List.MinMax
import Mathlib.Data.Multiset.Basic
import Std.Data.String.ToNat
import ConsumerEngine.Query.Meaning

/-! An engine whose values are plain data, over a session in UTC.

It serves the concrete databases of this development: nothing general is proved of it but
the laws an engine obeys.
-/

set_option autoImplicit false

namespace ConsumerEngine.Query

open ConsumerEngine.Core ConsumerEngine.Sql

inductive Datum where
  | null
  | text (s : String)
  | number (q : F64)
  | flag (b : Bool)
  | instant (micros : Int)
  | timestamp (micros : Int)
  | span (micros : Int)
  deriving DecidableEq

namespace Datum

def microsPerDay : Int := 86400000000

def ofBound : Value → Datum
  | .null => null
  | .boolean b => flag b
  | .bigInt n => number n
  | .double x | .float x => number x
  | .text s => text s

/-- How a comparison reads an order and an equality. -/
def ordered (less same : Bool) : Comparison → Truth
  | .eq => .ofBool same
  | .ne => .ofBool !same
  | .lt => .ofBool (less && !same)
  | .le => .ofBool (less || same)
  | .gt => .ofBool !(less || same)
  | .ge => .ofBool (!less || same)
  | .like | .notLike => .failed

theorem ordered_ge {α : Type} [LinearOrder α] (a b : α) :
    ordered (decide (a < b)) (decide (a = b)) .ge = .ofBool (decide (b ≤ a)) := by
  rcases lt_trichotomy a b with less | rfl | more
  · simp [ordered, less, less.ne, less.not_ge]
  · simp [ordered]
  · simp [ordered, more.not_gt, more.le]

theorem ordered_le {α : Type} [LinearOrder α] (a b : α) :
    ordered (decide (a < b)) (decide (a = b)) .le = .ofBool (decide (a ≤ b)) := by
  rcases lt_trichotomy a b with less | rfl | more
  · simp [ordered, less, less.le]
  · simp [ordered]
  · simp [ordered, more.not_gt, more.ne', more.not_ge]

def compare (comparison : Comparison) : Datum → Datum → Truth
  | null, _ | _, null => .unknown
  | text a, text b => ordered (decide (a < b)) (decide (a = b)) comparison
  | number a, number b => ordered (decide (a < b)) (decide (a = b)) comparison
  | instant a, instant b | timestamp a, timestamp b =>
      ordered (decide (a < b)) (decide (a = b)) comparison
  | text a, number b =>
      match a.toInt? with
      | some a => ordered (decide ((a : F64) < b)) (decide ((a : F64) = b)) comparison
      | none => .failed
  | flag a, flag b => ordered (!a && b) (a == b) comparison
  | _, _ => .failed

def truth : Datum → Truth
  | flag b => .ofBool b
  | null => .unknown
  | _ => .failed

def cast (read : String → Option Int) (type : String) (value : Datum) : Option Datum :=
  match value with
  | null => some null
  | text s =>
      if type = "timestamptz" then (read s).map instant
      else if type = "timestamp" then (read s).map timestamp
      else if type = "double" then s.toInt?.map fun n => number n
      else none
  | instant micros =>
      if type = "timestamp" then some (timestamp micros)
      else if type = "timestamptz" then some (instant micros) else none
  | timestamp micros =>
      if type = "timestamp" then some (timestamp micros)
      else if type = "timestamptz" then some (instant micros) else none
  | number q => if type = "double" then some (number q) else none
  | _ => none

def minus : Datum → Datum → Option Datum
  | timestamp a, span b => some (timestamp (a - b))
  | timestamp a, timestamp b => some (span (a - b))
  | number a, number b => some (number (a - b))
  | _, _ => none

/-- Products, and quotients. -/
def arithmetic (divides : Bool) : Datum → Datum → Option Datum
  | null, _ | _, null => some null
  | number a, number b =>
      if divides then if b = 0 then some null else some (number (a / b)) else some (number (a * b))
  | _, _ => none

def call (now : Int) (function : String) (args : List Datum) : Option Datum :=
  match args with
  | [] => if function = "now" then some (instant now) else none
  | [a, b] => if function = "nullif" then some (if a = b then null else a) else none
  | _ => none

/-- An item whose key is the greatest. -/
noncomputable def greatest {α κ : Type} [LinearOrder κ] (key : α → κ) (items : Multiset α) :
    Option α := items.toList.argmax key

/-- The value with the greatest instant. -/
noncomputable def newest (rows : Multiset (F64 × Int)) : Datum :=
  (greatest Prod.snd rows).elim null fun row => number row.1

def dated : List Datum → Option (F64 × Int)
  | [number value, instant micros] => some (value, micros)
  | _ => none

def numbered : List Datum → Option F64
  | [number value] => some value
  | _ => none

noncomputable def aggregate (function : String) (rows : Multiset (List Datum)) : Option Datum :=
  let numbers := rows.filterMap numbered
  if function = "count" then some (number (rows.filter (· ≠ [null])).card)
  else if function = "arg_max" then some (newest (rows.filterMap dated))
  else if function = "sum" then some (if numbers.card = 0 then null else number numbers.sum)
  else if function = "avg" then
    some (if numbers.card = 0 then null else number (numbers.sum / numbers.card))
  else if function = "min" then some ((numbers.toList.argmin id).elim null number)
  else if function = "max" then some ((numbers.toList.argmax id).elim null number)
  else if function = "bool_or" then some (flag (decide ([flag true] ∈ rows)))
  else none

end Datum

section
variable (now : Int) (read : String → Option Int)

noncomputable def plainScalars : Scalars Value Datum where
  bound := Datum.ofBound
  null := .null
  text := .text
  numeral digits := if digits = "0" then .number 0 else if digits = "1" then .number 1 else .null
  boolean := .flag
  bigint n := .number n
  truth := Datum.truth
  compare := Datum.compare
  cast := Datum.cast read
  interval count _ := .span (count.toNat?.getD 0 * Datum.microsPerDay)
  extract field value := match field, value with
    | "epoch", .span micros => some (.number (micros / 1000000))
    | _, _ => none
  arithmetic := Datum.arithmetic
  minus := Datum.minus
  call := Datum.call now
  aggregate := Datum.aggregate
  only rows := match rows.toList with
    | [] => some .null
    | [[value]] => some value
    | _ => none
  cut _ _ count rows := (rows.toList.take (count.toNat?.getD 0) : List (List Datum))
  truth_boolean b := rfl
  compare_text a b := rfl
  compare_null comparison v := by cases v <;> exact ⟨rfl, rfl⟩
  compare_one := rfl
  compare_zero := rfl
  aggregate_count rows empty := by
    have all : rows.filter (· ≠ [Datum.null]) = rows :=
      Multiset.filter_eq_self.mpr fun row member => by simp [empty row member]
    simp only [Datum.aggregate, ↓reduceIte, all]
  only_singleton v := by simp
  cut_le columns order count rows := by
    conv_rhs => rw [← Multiset.coe_toList rows]
    exact Multiset.coe_le.mpr (List.take_sublist _ _).subperm
  card_cut columns order n rows := by
    simp [Nat.toNat?_repr]

noncomputable def plainEngine : Engine Datum where
  toScalars := plainScalars now read
  instant := .instant
  castTimestamptz := read
  newest := Datum.newest
  bound_text s := rfl
  cast_timestamptz s := rfl
  compare_instant a b := Datum.ordered_le a b
  newest_none := by simp [Datum.newest, Datum.greatest, plainScalars]
  aggregate_newest rows := by
    have back : (rows.map fun row => [Datum.ofBound (.double row.1), Datum.instant row.2]).filterMap
        Datum.dated = rows := by
      rw [Multiset.filterMap_map]
      exact Multiset.filterMap_some rows
    simp only [plainScalars, Datum.aggregate, back]
    rfl

def plainClock : Clock (plainEngine now read) where
  start days := now - days * Datum.microsPerDay
  days_ago days := by
    simp [Engine.daysAgo, plainEngine, plainScalars, Datum.call, Datum.cast, Datum.minus,
      Nat.toNat?_repr]
  compare_instant a b := Datum.ordered_ge a b
  compare_count n m := by
    refine (Datum.ordered_ge (n : F64) ((m : Int) : F64)).trans ?_
    rw [Int.cast_natCast]
    exact congrArg Truth.ofBool (decide_eq_decide.mpr (@Nat.cast_le ℚ _ _ _ _ _ m n))

end

end ConsumerEngine.Query
