import Mathlib.Data.List.Basic

/-! String literals of SQL, and the texts they stand in.

A literal starts at a quote, reads a doubled quote as one and ends at the first quote that is not
doubled. What stands outside of literals is read as SQL.
-/

set_option autoImplicit false

namespace ConsumerEngine.Sql

/-- The text up to the first quote that is not doubled, and what follows that quote. -/
def readQuoted : List Char → Option (List Char × List Char)
  | [] => none
  | '\'' :: '\'' :: rest => (readQuoted rest).map fun read => ('\'' :: read.1, read.2)
  | '\'' :: rest => some ([], rest)
  | c :: rest => (readQuoted rest).map fun read => (c :: read.1, read.2)

/-- The literal a text starts with, and what follows it. -/
def readLiteral (text : String) : Option (String × String) :=
  match text.toList with
  | '\'' :: rest => (readQuoted rest).map fun read => (String.ofList read.1, String.ofList read.2)
  | _ => none

/-- A text with every quote doubled. -/
def doubled (text : List Char) : List Char :=
  text.flatMap fun c => if c = '\'' then ['\'', '\''] else [c]

def StartsWithQuote (text : String) : Prop := text.toList.head? = some '\''

instance (text : String) : Decidable (StartsWithQuote text) := inferInstanceAs (Decidable (_ = _))

section
variable {text rest : List Char}

theorem readQuoted_cons {c : Char} (plain : c ≠ '\'') :
    readQuoted (c :: rest) = (readQuoted rest).map fun read => (c :: read.1, read.2) := by
  rw [readQuoted]
  · exact fun _ same _ => plain same
  · exact plain

theorem readQuoted_close (follows : rest.head? ≠ some '\'') :
    readQuoted ('\'' :: rest) = some ([], rest) := by
  cases rest with
  | nil => rfl
  | cons c rest =>
    rw [readQuoted]
    rintro _ same
    exact follows (congrArg List.head? same)

/-- A doubled text is read back up to the quote behind it, whatever runs of quotes it has. -/
theorem readQuoted_doubled (follows : rest.head? ≠ some '\'') :
    readQuoted (doubled text ++ '\'' :: rest) = some (text, rest) := by
  induction text with
  | nil => exact readQuoted_close follows
  | cons c text ih =>
    rw [doubled, List.flatMap_cons, List.append_assoc]
    by_cases quote : c = '\''
    · subst quote
      rw [if_pos rfl]
      change readQuoted ('\'' :: '\'' :: (doubled text ++ '\'' :: rest)) = _
      rw [readQuoted, ih]
      rfl
    · rw [if_neg quote]
      change readQuoted (c :: (doubled text ++ '\'' :: rest)) = _
      rw [readQuoted_cons quote, ih]
      rfl

end

/-! ### Texts with literals -/

/-- A part of a text: SQL, or the value of a literal. -/
inductive Piece where
  | code (text : String)
  | literal (value : String)
  deriving DecidableEq, Repr

/-- SQL that is not empty. -/
def codePiece (acc : List Char) : List Piece :=
  if acc.isEmpty then [] else [.code (String.ofList acc)]

/-- Where a reader of a text stands: outside of literals, in one, or behind a quote in one. -/
inductive Place where
  | outside (acc : List Char)
  | inside (acc : List Char)
  | closing (acc : List Char)

/-- The parts of a text from a place on; none where a literal is not closed. -/
def readFrom : Place → List Char → Option (List Piece)
  | .outside acc, [] => some (codePiece acc)
  | .outside acc, c :: rest =>
      if c = '\'' then (readFrom (.inside []) rest).map (codePiece acc ++ ·)
      else readFrom (.outside (acc ++ [c])) rest
  | .inside _, [] => none
  | .inside acc, c :: rest =>
      if c = '\'' then readFrom (.closing acc) rest else readFrom (.inside (acc ++ [c])) rest
  | .closing acc, [] => some [.literal (String.ofList acc)]
  | .closing acc, c :: rest =>
      if c = '\'' then readFrom (.inside (acc ++ ['\''])) rest
      else (readFrom (.outside [c]) rest).map (.literal (String.ofList acc) :: ·)

def pieces (text : String) : Option (List Piece) := readFrom (.outside []) text.toList

section
variable {rest : List Char}

/-- SQL is read up to the first quote. -/
theorem readFrom_outside {text : List Char} (plain : '\'' ∉ text) (acc : List Char) :
    readFrom (.outside acc) (text ++ rest) = readFrom (.outside (acc ++ text)) rest := by
  induction text generalizing acc with
  | nil => rw [List.nil_append, List.append_nil]
  | cons c text ih =>
    obtain ⟨other, later⟩ := not_or.mp (mt List.mem_cons.mpr plain)
    rw [List.cons_append, readFrom, if_neg (Ne.symm other), ih later, List.append_assoc]
    rfl

/-- Behind a literal the reader stands outside again. -/
theorem readFrom_closing (follows : rest.head? ≠ some '\'') (acc : List Char) :
    readFrom (.closing acc) rest =
      (readFrom (.outside []) rest).map (.literal (String.ofList acc) :: ·) := by
  cases rest with
  | nil => rfl
  | cons c rest =>
    have plain : c ≠ '\'' := fun same => follows (congrArg some same)
    rw [readFrom, if_neg plain, readFrom, if_neg plain]
    rfl

/-- A doubled text in quotes is one literal. -/
theorem readFrom_doubled (follows : rest.head? ≠ some '\'') (text acc : List Char) :
    readFrom (.inside acc) (doubled text ++ '\'' :: rest) =
      (readFrom (.outside []) rest).map (.literal (String.ofList (acc ++ text)) :: ·) := by
  induction text generalizing acc with
  | nil =>
    change readFrom (.inside acc) ('\'' :: rest) = _
    rw [readFrom, if_pos rfl, readFrom_closing follows, List.append_nil]
  | cons c text ih =>
    rw [doubled, List.flatMap_cons, List.append_assoc]
    by_cases quote : c = '\''
    · subst quote
      rw [if_pos rfl]
      change readFrom (.inside acc) ('\'' :: '\'' :: (doubled text ++ '\'' :: rest)) = _
      rw [readFrom, if_pos rfl, readFrom, if_pos rfl, ih, List.append_assoc]
      rfl
    · rw [if_neg quote]
      change readFrom (.inside acc) (c :: (doubled text ++ '\'' :: rest)) = _
      rw [readFrom, if_neg quote, ih, List.append_assoc]
      rfl

/-- SQL, and a text in quotes behind it. -/
theorem readFrom_literal {before : List Char} (plain : '\'' ∉ before)
    (follows : rest.head? ≠ some '\'') (text : List Char) :
    readFrom (.outside []) (before ++ '\'' :: (doubled text ++ '\'' :: rest)) =
      (readFrom (.outside []) rest).map
        (codePiece before ++ .literal (String.ofList text) :: ·) := by
  rw [readFrom_outside plain, List.nil_append, readFrom, if_pos rfl, readFrom_doubled follows,
    Option.map_map, List.nil_append]
  rfl

theorem doubled_append (first second : List Char) :
    doubled (first ++ second) = doubled first ++ doubled second := List.flatMap_append

theorem doubled_plain {text : List Char} (plain : '\'' ∉ text) : doubled text = text := by
  induction text with
  | nil => rfl
  | cons c text ih =>
    obtain ⟨other, later⟩ := not_or.mp (mt List.mem_cons.mpr plain)
    rw [doubled, List.flatMap_cons, if_neg (Ne.symm other)]
    exact congrArg _ (ih later)

end

end ConsumerEngine.Sql
