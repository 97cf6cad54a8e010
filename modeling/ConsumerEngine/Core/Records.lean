import ConsumerEngine.Core.Values

/-! Records and tagged variants, as the derived deserialisers read them from JSON documents.

A record takes an object with no unknown field, or its fields by position in an array. A variant that
is tagged inside its object is read with the rest of the document set aside; a name that was set
aside may also be the index of the variant.
-/

set_option autoImplicit false

namespace ConsumerEngine.Core

/-! ### How deep a document is -/

mutual

/-- The number of arrays and objects that a value is nested in at most, from the value outwards. -/
def Json.height (v : Json) : Nat :=
  match v with
  | .array items => itemsHeight items + 1
  | .object fields => fieldsHeight fields + 1
  | .null | .bool _ | .number _ | .string _ => 0
termination_by structural v

def itemsHeight (items : List Json) : Nat :=
  match items with
  | [] => 0
  | item :: rest => max item.height (itemsHeight rest)
termination_by structural items

def fieldsHeight (fields : List (String × Json)) : Nat :=
  match fields with
  | [] => 0
  | field :: rest => max (fieldHeight field) (fieldsHeight rest)
termination_by structural fields

def fieldHeight (field : String × Json) : Nat :=
  match field with
  | (_, v) => v.height
termination_by structural field

end

theorem fieldHeight_eq (field : String × Json) : fieldHeight field = field.2.height := by
  cases field
  rfl

theorem height_item {items : List Json} {item : Json} (member : item ∈ items) :
    item.height ≤ itemsHeight items := by
  induction items with
  | nil => cases member
  | cons first rest ih =>
    rw [itemsHeight]
    rcases List.mem_cons.mp member with rfl | later
    · exact le_max_left _ _
    · exact (ih later).trans (le_max_right _ _)

theorem height_field {fields : List (String × Json)} {field : String × Json} (member : field ∈ fields) :
    field.2.height ≤ fieldsHeight fields := by
  induction fields with
  | nil => cases member
  | cons first rest ih =>
    rw [fieldsHeight, fieldHeight_eq]
    rcases List.mem_cons.mp member with rfl | later
    · exact le_max_left _ _
    · exact (ih later).trans (le_max_right _ _)

theorem fieldsHeight_mono {few many : List (String × Json)} (among : ∀ field ∈ few, field ∈ many) :
    fieldsHeight few ≤ fieldsHeight many := by
  induction few with
  | nil => exact Nat.zero_le _
  | cons first rest ih =>
    rw [fieldsHeight, fieldHeight_eq]
    apply max_le
    · exact height_field (among first List.mem_cons_self)
    · exact ih fun field member => among field (List.mem_cons_of_mem _ member)

/-! ### Records -/

/-- A field of a document: present, left out of an object, or beyond the end of an array. -/
inductive Slot where
  | present (v : Json)
  | absent
  | short

/-- The fields of a record by name, unless the document has more than those. -/
def readRecord (names : List String) : Json → Option (String → Slot)
  | .object fields =>
      if fields.all fun field => names.contains field.1 then
        some fun name => ((fields.find? fun field => field.1 = name).map fun field =>
          Slot.present field.2).getD .absent
      else none
  | .array items =>
      if items.length ≤ names.length then
        some fun name => (items[names.idxOf name]?.map Slot.present).getD .short
      else none
  | _ => none

section
variable {α : Type} (read : Json → Option α)

def Slot.required : Slot → Option α
  | .present v => read v
  | .absent | .short => none

/-- An `Option`: `null`, or left out of an object, for none. -/
def Slot.optional : Slot → Option (Option α)
  | .present .null | .absent => some none
  | .present v => (read v).map some
  | .short => none

/-- An `Option` with a default, which an array may leave out as well. -/
def Slot.defaulted : Slot → Option (Option α)
  | .short => some none
  | slot => slot.optional read

/-- A `Vec`. -/
def readVec : Json → Option (List α)
  | .array items => items.mapM read
  | _ => none

end

def readString : Json → Option String
  | .string s => some s
  | _ => none

/-- A `u32`: no float is taken for one. -/
def readU32 : Json → Option Nat
  | .number (.posInt n) => if n.toNat < 2 ^ 32 then some n.toNat else none
  | _ => none

def readF64 : Json → Option F64
  | .number n => n.asF64
  | _ => none

/-! ### Variants -/

/-- The tag of a variant, and the document that is left: an object without it, or the items after. -/
def tagged (tag : String) : Json → Option (Json × Json)
  | .object fields =>
      (fields.find? fun field => field.1 = tag).map fun field =>
        (field.2, .object (fields.filter fun field => field.1 ≠ tag))
  | .array (kind :: rest) => some (kind, .array rest)
  | _ => none

section
variable {α : Type} (all : List α) (wire : α → String)

/-- The variant that a tag names; one that was set aside may be an index. -/
def variant (buffered : Bool) : Json → Option α
  | .string s => all.find? fun one => wire one = s
  | .number (.posInt n) => if buffered then all[n.toNat]? else none
  | _ => none

/-- A variant without fields, from what was set aside: its name, or an object of one entry that holds
nothing. -/
def unitVariant : Json → Option α
  | .string s | .object [(s, .null)] | .object [(s, .object [])] => all.find? fun one => wire one = s
  | _ => none

end

/-! ### What is read is inside -/

section
variable {names : List String} {v : Json} {slot : String → Slot}

theorem height_slot (found : readRecord names v = some slot) {name : String} {inner : Json}
    (present : slot name = .present inner) : inner.height < v.height := by
  cases v with
  | object fields =>
    rw [readRecord] at found
    split at found
    · obtain rfl := Option.some.inj found
      dsimp only at present
      cases held : fields.find? fun field => field.1 = name with
      | none =>
        rw [held] at present
        cases present
      | some field =>
        rw [held] at present
        cases present
        rw [Json.height]
        exact Nat.lt_succ_of_le (height_field (List.mem_of_find?_eq_some held))
    · cases found
  | array items =>
    rw [readRecord] at found
    split at found
    · obtain rfl := Option.some.inj found
      dsimp only at present
      cases held : items[names.idxOf name]? with
      | none =>
        rw [held] at present
        cases present
      | some item =>
        rw [held] at present
        cases present
        rw [Json.height]
        exact Nat.lt_succ_of_le (height_item (List.mem_of_getElem? held))
    · cases found
  | null | bool | number | string => cases found

theorem height_rest {tag : String} {kind rest : Json} (found : tagged tag v = some (kind, rest)) :
    rest.height ≤ v.height := by
  cases v with
  | object fields =>
    obtain ⟨field, -, same⟩ := Option.map_eq_some_iff.mp found
    cases same
    rw [Json.height, Json.height]
    exact Nat.succ_le_succ (fieldsHeight_mono fun field member => (List.mem_filter.mp member).1)
  | array items =>
    cases items with
    | nil => cases found
    | cons first others =>
      cases found
      rw [Json.height, Json.height, itemsHeight]
      exact Nat.succ_le_succ (le_max_right _ _)
  | null | bool | number | string => cases found

variable {α : Type} {first second : Json → Option α}

theorem Slot.required_congr (found : readRecord names v = some slot)
    (alike : ∀ inner : Json, inner.height < v.height → first inner = second inner) (name : String) :
    (slot name).required first = (slot name).required second := by
  cases present : slot name with
  | present inner => exact alike inner (height_slot found present)
  | absent | short => rfl

theorem readVec_congr (alike : ∀ inner : Json, inner.height < v.height → first inner = second inner) :
    readVec first v = readVec second v := by
  cases v with
  | array items =>
    have each : ∀ item ∈ items, first item = second item := fun item member => alike item (by
      rw [Json.height]
      exact Nat.lt_succ_of_le (height_item member))
    rw [readVec, readVec]
    clear alike
    induction items with
    | nil => rfl
    | cons item rest ih =>
      rw [List.mapM_cons, List.mapM_cons, each item List.mem_cons_self,
        ih fun other member => each other (List.mem_cons_of_mem _ member)]
  | null | bool | number | string | object => rfl

end

end ConsumerEngine.Core
