import Mathlib.Data.List.Basic
import Mathlib.Data.List.Count

/-! Texts with placeholders.

A template is fixed text interleaved with holes. A hole stands for an element, whose
fragment is written around one placeholder; the elements of a template, in order, are
what its placeholders are bound to.
-/

set_option autoImplicit false

namespace ConsumerEngine.Foundation

/-- The fragment of an element, as the text before and after its placeholder. -/
structure Spelling (E : Type) where
  before : E → String
  after : E → String

inductive Piece (E : Type) where
  | text (s : String)
  | hole (e : E)

abbrev Template (E : Type) : Type := List (Piece E)

/-- The number of placeholders in a text. -/
def marks (s : String) : Nat := s.toList.count '?'

@[simp] theorem marks_append (s t : String) : marks (s ++ t) = marks s + marks t := by
  simp only [marks, String.toList_append, List.count_append]

/-- Texts with a separator between each and the next. -/
def joined (separator : String) : List String → String
  | [] => ""
  | [last] => last
  | first :: second :: rest => first ++ separator ++ joined separator (second :: rest)

section
variable {E : Type} (spelling : Spelling E)

def Spelling.fragment (e : E) : String := spelling.before e ++ "?" ++ spelling.after e

def Piece.spell : Piece E → String
  | .text s => s
  | .hole e => spelling.fragment e

/-- The text of a template. -/
def Template.spell : Template E → String
  | [] => ""
  | piece :: rest => piece.spell spelling ++ Template.spell rest

/-- The elements of a template, in the order of their placeholders. -/
def Template.holes : Template E → List E
  | [] => []
  | .text _ :: rest => Template.holes rest
  | .hole e :: rest => e :: Template.holes rest

/-- `joined`, on templates. -/
def Template.join (separator : String) : List (Template E) → Template E
  | [] => []
  | [last] => last
  | first :: second :: rest => first ++ [.text separator] ++ Template.join separator (second :: rest)

@[simp] theorem Template.spell_append (first second : Template E) :
    Template.spell spelling (first ++ second) =
      Template.spell spelling first ++ Template.spell spelling second := by
  induction first with
  | nil => simp only [List.nil_append, Template.spell, String.empty_append]
  | cons piece rest ih => simp only [List.cons_append, Template.spell, ih, String.append_assoc]

@[simp] theorem Template.holes_append (first second : Template E) :
    Template.holes (first ++ second) = Template.holes first ++ Template.holes second := by
  induction first with
  | nil => rfl
  | cons piece rest ih => cases piece <;> simp only [List.cons_append, Template.holes, ih]

@[simp] theorem Template.spell_join (separator : String) (parts : List (Template E)) :
    Template.spell spelling (Template.join separator parts) =
      joined separator (parts.map (Template.spell spelling)) := by
  induction parts with
  | nil => rfl
  | cons first rest ih =>
    cases rest with
    | nil => rfl
    | cons second rest =>
      simp only [List.map_cons] at ih
      simp only [Template.join, Template.spell_append, ih, List.map_cons, joined, Template.spell,
        Piece.spell, String.append_empty]

@[simp] theorem Template.holes_join (separator : String) (parts : List (Template E)) :
    Template.holes (Template.join separator parts) = parts.flatMap Template.holes := by
  induction parts with
  | nil => rfl
  | cons first rest ih =>
    cases rest with
    | nil => simp only [Template.join, List.flatMap_cons, List.flatMap_nil, List.append_nil]
    | cons second rest =>
      simp only [Template.join, Template.holes_append, Template.holes, List.append_nil, ih,
        List.flatMap_cons]

/-- No placeholder besides those of the holes. -/
def Piece.Plain : Piece E → Prop
  | .text s => marks s = 0
  | .hole e => marks (spelling.before e) = 0 ∧ marks (spelling.after e) = 0

theorem marks_fragment {e : E} (plain : (Piece.hole e).Plain spelling) :
    marks (spelling.fragment e) = 1 := by
  have one : marks "?" = 1 := rfl
  rw [Spelling.fragment, marks_append, marks_append, one, plain.1, plain.2]

theorem Template.marks_spell {template : Template E}
    (plain : ∀ piece ∈ template, piece.Plain spelling) :
    marks (Template.spell spelling template) = (Template.holes template).length := by
  induction template with
  | nil => rfl
  | cons piece rest ih =>
    obtain ⟨here, later⟩ := List.forall_mem_cons.mp plain
    rw [Template.spell, marks_append, ih later]
    cases piece with
    | text s =>
      have none : marks s = 0 := here
      rw [Piece.spell, none, Template.holes, Nat.zero_add]
    | hole e => rw [Piece.spell, marks_fragment spelling here, Template.holes, List.length_cons,
        Nat.add_comm]

/-- The `i`-th placeholder lies in the fragment of the `i`-th element. -/
theorem Template.holes_placed {template : Template E}
    (plain : ∀ piece ∈ template, piece.Plain spelling) {i : Nat} {e : E}
    (at_i : (Template.holes template)[i]? = some e) :
    ∃ before after, Template.spell spelling template = before ++ spelling.fragment e ++ after ∧
      marks before = i ∧ marks (spelling.fragment e) = 1 := by
  induction template generalizing i with
  | nil => simp only [Template.holes, List.getElem?_nil, reduceCtorEq] at at_i
  | cons piece rest ih =>
    obtain ⟨here, later⟩ := List.forall_mem_cons.mp plain
    cases piece with
    | text s =>
      obtain ⟨before, after, split, counted, one⟩ := ih later at_i
      have none : marks s = 0 := here
      refine ⟨s ++ before, after, ?_, ?_, one⟩
      · simp only [Template.spell, Piece.spell, split, String.append_assoc]
      · rw [marks_append, none, counted, Nat.zero_add]
    | hole found =>
      rw [Template.holes] at at_i
      cases i with
      | zero =>
        obtain rfl : found = e := Option.some.inj at_i
        exact ⟨"", Template.spell spelling rest, by rw [String.empty_append]; rfl, rfl,
          marks_fragment spelling here⟩
      | succ i =>
        obtain ⟨before, after, split, counted, one⟩ := ih later at_i
        refine ⟨spelling.fragment found ++ before, after, ?_, ?_, one⟩
        · simp only [Template.spell, Piece.spell, split, String.append_assoc]
        · rw [marks_append, marks_fragment spelling here, counted, Nat.add_comm]

end

end ConsumerEngine.Foundation
