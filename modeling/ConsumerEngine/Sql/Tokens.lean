import Mathlib.Data.List.Basic

/-! Tokens of a fragment of SQL, and the reading of a text into them.

Unquoted names are folded to lower case, as they are resolved. The word after `AS` names
what stands before it, whatever word it is, so it is read as a label and never as a keyword.
-/

set_option autoImplicit false

namespace ConsumerEngine.Sql

inductive Keyword where
  | SELECT | DISTINCT | FROM | WHERE | GROUP | BY | HAVING | ORDER | DESC | LIMIT | AND | NOT
  | EXISTS | IN | LIKE | IS | NULL | CAST | INTERVAL | JOIN | LEFT | ON | WITH | AS | FILTER
  | UNION | INTERSECT | EXCEPT | EXTRACT
  deriving DecidableEq, Repr

inductive Symbol where
  | opening | closing | comma | star | slash | minus | eq | ne | lt | le | gt | ge | stray
  deriving DecidableEq, Repr

/-- A token; a placeholder carries an `M`. -/
inductive Token (M : Type) where
  | key (keyword : Keyword)
  | name (text : String)
  | numeral (text : String)
  | label (text : String)
  | column (relation text : String)
  | quoted (text : String)
  | symbol (symbol : Symbol)
  | mark (m : M)
  deriving DecidableEq, Repr

/-- The keyword a folded word is. -/
def keywordOf : List Char → Option Keyword
  | ['s', 'e', 'l', 'e', 'c', 't'] => some .SELECT
  | ['d', 'i', 's', 't', 'i', 'n', 'c', 't'] => some .DISTINCT
  | ['f', 'r', 'o', 'm'] => some .FROM
  | ['w', 'h', 'e', 'r', 'e'] => some .WHERE
  | ['g', 'r', 'o', 'u', 'p'] => some .GROUP
  | ['b', 'y'] => some .BY
  | ['h', 'a', 'v', 'i', 'n', 'g'] => some .HAVING
  | ['o', 'r', 'd', 'e', 'r'] => some .ORDER
  | ['d', 'e', 's', 'c'] => some .DESC
  | ['l', 'i', 'm', 'i', 't'] => some .LIMIT
  | ['a', 'n', 'd'] => some .AND
  | ['n', 'o', 't'] => some .NOT
  | ['e', 'x', 'i', 's', 't', 's'] => some .EXISTS
  | ['i', 'n'] => some .IN
  | ['l', 'i', 'k', 'e'] => some .LIKE
  | ['i', 's'] => some .IS
  | ['n', 'u', 'l', 'l'] => some .NULL
  | ['c', 'a', 's', 't'] => some .CAST
  | ['i', 'n', 't', 'e', 'r', 'v', 'a', 'l'] => some .INTERVAL
  | ['j', 'o', 'i', 'n'] => some .JOIN
  | ['l', 'e', 'f', 't'] => some .LEFT
  | ['o', 'n'] => some .ON
  | ['w', 'i', 't', 'h'] => some .WITH
  | ['a', 's'] => some .AS
  | ['f', 'i', 'l', 't', 'e', 'r'] => some .FILTER
  | ['u', 'n', 'i', 'o', 'n'] => some .UNION
  | ['i', 'n', 't', 'e', 'r', 's', 'e', 'c', 't'] => some .INTERSECT
  | ['e', 'x', 'c', 'e', 'p', 't'] => some .EXCEPT
  | ['e', 'x', 't', 'r', 'a', 'c', 't'] => some .EXTRACT
  | _ => none

/-- A character of a name or a number. -/
def isWordChar (c : Char) : Bool := c.isAlphanum || c == '_'

def fold (word : List Char) : List Char := word.map Char.toLower

/-- What the reader is in the middle of. -/
inductive Mode where
  | blank
  | word (acc : List Char)
  | dotted (relation acc : List Char)
  | quote (acc : List Char)
  | less
  | greater
  deriving DecidableEq

/-- The reader: `named` holds when an `AS` was read that may still be followed by a label. -/
structure Reader where
  named : Bool
  mode : Mode
  deriving DecidableEq

def Reader.start : Reader := ⟨false, .blank⟩

/-- A token that is no word, behind an `AS` that then labels nothing. -/
def plainly (named : Bool) (token : Token Unit) : List (Token Unit) :=
  if named then [.key .AS, token] else [token]

def startsWithDigit (word : List Char) : Bool :=
  match word with
  | c :: _ => c.isDigit
  | [] => false

/-- A finished word, and whether a label may follow. -/
def wordToken (named : Bool) (word : List Char) : List (Token Unit) × Bool :=
  if named then ([.label (String.ofList (fold word))], false)
  else if startsWithDigit word then ([.numeral (String.ofList word)], false)
  else
    match keywordOf (fold word) with
    | some .AS => ([], true)
    | some keyword => ([.key keyword], false)
    | none => ([.name (String.ofList (fold word))], false)

/-- Two words around a dot: a number, or a column of a relation. -/
def dottedToken (relation text : List Char) : Token Unit :=
  if (relation ++ text).all Char.isDigit then .numeral (String.ofList (relation ++ '.' :: text))
  else .column (String.ofList (fold relation)) (String.ofList (fold text))

/-- Finish what the reader is in the middle of. -/
def Reader.flush (reader : Reader) : List (Token Unit) × Bool :=
  match reader.mode with
  | .blank => ([], reader.named)
  | .word acc => wordToken reader.named acc
  | .dotted relation acc => (plainly reader.named (dottedToken relation acc), false)
  | .quote _ => (plainly reader.named (.symbol .stray), false)
  | .less => (plainly reader.named (.symbol .lt), false)
  | .greater => (plainly reader.named (.symbol .gt), false)

/-- Read a character with nothing unfinished before it. -/
def begin (named : Bool) (c : Char) : List (Token Unit) × Reader :=
  let single (symbol : Symbol) : List (Token Unit) × Reader :=
    (plainly named (.symbol symbol), .start)
  if isWordChar c then ([], ⟨named, .word [c]⟩)
  else
    match c with
    | ' ' => ([], ⟨named, .blank⟩)
    | '(' => single .opening
    | ')' => single .closing
    | ',' => single .comma
    | '*' => single .star
    | '/' => single .slash
    | '-' => single .minus
    | '=' => single .eq
    | '<' => ([], ⟨named, .less⟩)
    | '>' => ([], ⟨named, .greater⟩)
    | '\'' => ([], ⟨named, .quote []⟩)
    | '?' => (plainly named (.mark ()), .start)
    | _ => single .stray

/-- Finish what is unfinished, then read a character. -/
def Reader.restart (reader : Reader) (c : Char) : List (Token Unit) × Reader :=
  let (before, named) := reader.flush
  let (after, reached) := begin named c
  (before ++ after, reached)

def Reader.read (reader : Reader) (c : Char) : List (Token Unit) × Reader :=
  match reader.mode with
  | .blank => begin reader.named c
  | .word acc =>
      if isWordChar c then ([], ⟨reader.named, .word (acc ++ [c])⟩)
      else if c == '.' then ([], ⟨reader.named, .dotted acc []⟩)
      else reader.restart c
  | .dotted relation acc =>
      if isWordChar c then ([], ⟨reader.named, .dotted relation (acc ++ [c])⟩)
      else reader.restart c
  | .quote acc =>
      if c == '\'' then (plainly reader.named (.quoted (String.ofList acc)), .start)
      else ([], ⟨reader.named, .quote (acc ++ [c])⟩)
  | .less =>
      if c == '=' then (plainly reader.named (.symbol .le), .start)
      else if c == '>' then (plainly reader.named (.symbol .ne), .start)
      else reader.restart c
  | .greater =>
      if c == '=' then (plainly reader.named (.symbol .ge), .start)
      else reader.restart c

/-- Read a text from a state of the reader on. -/
def Reader.readAll (reader : Reader) : List Char → List (Token Unit) × Reader
  | [] => ([], reader)
  | c :: rest =>
      let (first, reached) := reader.read c
      let (later, final) := reached.readAll rest
      (first ++ later, final)

/-- The tokens of a text. -/
def tokens (text : String) : List (Token Unit) :=
  let (read, final) := Reader.start.readAll text.toList
  let (last, named) := final.flush
  read ++ last ++ if named then [.key .AS] else []

theorem Reader.readAll_append (reader : Reader) (first second : List Char) :
    reader.readAll (first ++ second) =
      ((reader.readAll first).1 ++ ((reader.readAll first).2.readAll second).1,
        ((reader.readAll first).2.readAll second).2) := by
  induction first generalizing reader with
  | nil => rfl
  | cons c rest ih => simp only [List.cons_append, Reader.readAll, ih, List.append_assoc]

/-- From one state of the reader to another, a text reads as these tokens. -/
def Reads (before : Reader) (text : String) (read : List (Token Unit)) (after : Reader) : Prop :=
  before.readAll text.toList = (read, after)

section
variable {before middle after : Reader} {first second : String} {left right : List (Token Unit)}

theorem Reads.append (here : Reads before first left middle)
    (there : Reads middle second right after) :
    Reads before (first ++ second) (left ++ right) after := by
  unfold Reads at *
  rw [String.toList_append, Reader.readAll_append, here, there]

/-- A literal is read character by character. -/
theorem Reads.literal {text : String} {chars : List Char} {read : List (Token Unit)}
    (spelled : text = String.ofList chars) (same : before.readAll chars = (read, after)) :
    Reads before text read after := by
  rw [Reads, spelled, String.toList_ofList, same]

theorem readAll_dotted (named : Bool) (relation acc word : List Char)
    (chars : ∀ c ∈ word, isWordChar c = true) :
    Reader.readAll ⟨named, .dotted relation acc⟩ word =
      ([], ⟨named, .dotted relation (acc ++ word)⟩) := by
  induction word generalizing acc with
  | nil => rw [Reader.readAll, List.append_nil]
  | cons c rest ih =>
    obtain ⟨here, later⟩ := List.forall_mem_cons.mp chars
    rw [Reader.readAll, Reader.read]
    simp only [here, ↓reduceIte, ih _ later, List.append_assoc, List.cons_append, List.nil_append]

theorem readAll_word (named : Bool) (acc word : List Char)
    (chars : ∀ c ∈ word, isWordChar c = true) :
    Reader.readAll ⟨named, .word acc⟩ word = ([], ⟨named, .word (acc ++ word)⟩) := by
  induction word generalizing acc with
  | nil => rw [Reader.readAll, List.append_nil]
  | cons c rest ih =>
    obtain ⟨here, later⟩ := List.forall_mem_cons.mp chars
    rw [Reader.readAll, Reader.read]
    simp only [here, ↓reduceIte, ih _ later, List.append_assoc, List.cons_append, List.nil_append]

instance (text : String) (read : List (Token Unit)) : Decidable (Reads before text read after) :=
  inferInstanceAs (Decidable (_ = _))

end

/-! ### Whole words -/

/-- What a delimiter finishes; none where it would go on with something. -/
def Reader.close (reader : Reader) : Option (List (Token Unit)) :=
  match reader.mode with
  | .blank => if reader.named then none else some []
  | .dotted relation acc => if reader.named then none else some [dottedToken relation acc]
  | .word acc =>
      match wordToken reader.named acc with
      | (last, false) => some last
      | _ => none
  | _ => none

/-- Read from a state of the reader up to a delimiter, the text is these tokens. -/
def SpellsFrom (before : Reader) (text : String) (read : List (Token Unit)) : Prop :=
  ∃ seen reader last, Reads before text seen reader ∧ reader.close = some last ∧ seen ++ last = read

/-- Read from the start up to a delimiter, the text is these tokens. -/
abbrev Spells (text : String) (read : List (Token Unit)) : Prop := SpellsFrom .start text read

theorem spellsFrom_iff {before : Reader} {text : String} {read : List (Token Unit)} :
    SpellsFrom before text read ↔
      (before.readAll text.toList).2.close.map ((before.readAll text.toList).1 ++ ·) = some read := by
  rw [Option.map_eq_some_iff]
  constructor
  · rintro ⟨seen, reader, last, reads, closes, same⟩
    unfold Reads at reads
    rw [reads]
    exact ⟨last, closes, same⟩
  · rintro ⟨last, closes, same⟩
    exact ⟨_, _, last, rfl, closes, same⟩

theorem literal_append {first second : String} {chars more : List Char}
    (here : first = String.ofList chars) (there : second = String.ofList more) :
    first ++ second = String.ofList (chars ++ more) := by
  rw [here, there, String.ofList_append]

/-- The characters of a literal are what is read of it. -/
theorem Spells.literal {text : String} {chars : List Char} {read : List (Token Unit)}
    (spelled : text = String.ofList chars)
    (same : (Reader.start.readAll chars).2.close.map ((Reader.start.readAll chars).1 ++ ·) =
      some read) : Spells text read := by
  refine spellsFrom_iff.mpr ?_
  rw [spelled, String.toList_ofList, same]

/-- A character that ends a word. -/
def isDelimiter (c : Char) : Bool := !isWordChar c && c != '.'

/-- A delimiter finishes what is open and then stands by itself. -/
theorem Reader.read_delimiter {reader : Reader} {last : List (Token Unit)}
    (closes : reader.close = some last) {c : Char} (delimiter : isDelimiter c = true) :
    reader.flush = (last, false) ∧
      reader.read c = (last ++ (begin false c).1, (begin false c).2) := by
  have plain : isWordChar c = false ∧ (c == '.') = false := by
    simpa [isDelimiter] using delimiter
  obtain ⟨named, mode⟩ := reader
  have restarts (flushed : Reader.flush ⟨named, mode⟩ = (last, false)) :
      Reader.restart ⟨named, mode⟩ c = (last ++ (begin false c).1, (begin false c).2) := by
    rw [Reader.restart, flushed]
  cases mode with
  | blank =>
    cases named <;> cases closes
    exact ⟨rfl, rfl⟩
  | dotted relation acc =>
    cases named <;> cases closes
    simp only [Reader.read, plain.1, Bool.false_eq_true, ↓reduceIte]
    exact ⟨rfl, restarts rfl⟩
  | word acc =>
    have flushed : Reader.flush ⟨named, .word acc⟩ = (last, false) := by
      change wordToken named acc = (last, false)
      dsimp only [Reader.close] at closes
      cases word : wordToken named acc with
      | mk token more =>
        rw [word] at closes
        cases more <;> cases closes
        rfl
    simp only [Reader.read, plain.1, plain.2, Bool.false_eq_true, ↓reduceIte]
    exact ⟨flushed, restarts flushed⟩
  | _ => cases named <;> cases closes

section
variable {first second : String} {left right last : List (Token Unit)} {before middle after : Reader}

theorem delimited_append (delimited : first.toList.head?.any isDelimiter = true) (second : String) :
    (first ++ second).toList.head?.any isDelimiter = true := by
  rw [String.toList_append]
  cases chars : first.toList with
  | nil =>
    rw [chars] at delimited
    cases delimited
  | cons c rest =>
    rw [chars] at delimited
    exact delimited

/-- A delimiter finishes what is open before the text. -/
theorem Reads.finish (closes : before.close = some last)
    (delimited : first.toList.head?.any isDelimiter = true) (here : Reads .start first left after) :
    Reads before first (last ++ left) after := by
  unfold Reads at here ⊢
  cases chars : first.toList with
  | nil =>
    rw [chars] at delimited
    cases delimited
  | cons c rest =>
    have begun : Reader.start.read c = begin false c := rfl
    rw [chars] at delimited
    rw [chars, Reader.readAll, begun, Prod.mk.injEq] at here
    rw [Reader.readAll, (Reader.read_delimiter closes delimited).2, ← here.1, ← here.2]
    simp only [List.append_assoc]

theorem Reads.closed (here : Reads before first left after) (closes : after.close = some last) :
    SpellsFrom before first (left ++ last) := ⟨_, _, _, here, closes, rfl⟩

theorem Reads.spelled (here : Reads before first left .start) : SpellsFrom before first left := by
  have closed := here.closed (rfl : Reader.start.close = some [])
  rwa [List.append_nil] at closed

theorem Reads.then (here : Reads before first left middle)
    (there : SpellsFrom middle second right) : SpellsFrom before (first ++ second) (left ++ right) := by
  obtain ⟨seen, reader, last, later, closes, rfl⟩ := there
  rw [← List.append_assoc]
  exact (here.append later).closed closes

/-- A text begun by a delimiter, behind something open. -/
theorem Reads.behind (closes : before.close = some last)
    (delimited : first.toList.head?.any isDelimiter = true) (here : Reads .start first left middle)
    (there : SpellsFrom middle second right) :
    SpellsFrom before (first ++ second) (last ++ (left ++ right)) := by
  rw [← List.append_assoc]
  exact (Reads.finish closes delimited here).then there

/-- A text behind a spelled one, begun by a delimiter. -/
theorem SpellsFrom.reads (spells : SpellsFrom before first left)
    (delimited : second.toList.head?.any isDelimiter = true)
    (there : Reads .start second right after) :
    Reads before (first ++ second) (left ++ right) after := by
  obtain ⟨seen, reader, last, here, closes, rfl⟩ := spells
  rw [List.append_assoc]
  exact here.append (Reads.finish closes delimited there)

/-- Two spelled texts with one between that begins with a delimiter. -/
theorem SpellsFrom.then (spells : SpellsFrom before first left) {between : String}
    {more : List (Token Unit)} (delimited : between.toList.head?.any isDelimiter = true)
    (here : Reads .start between more middle) (there : SpellsFrom middle second right) :
    SpellsFrom before (first ++ (between ++ second)) (left ++ (more ++ right)) := by
  rw [← String.append_assoc, ← List.append_assoc]
  exact (spells.reads delimited here).then there

theorem Spells.tokens_eq (spells : Spells first left) : tokens first = left := by
  obtain ⟨seen, reader, last, here, closes, rfl⟩ := spells
  have flushed := (@Reader.read_delimiter _ _ closes ' ' rfl).1
  unfold Reads at here
  simp only [tokens, here, flushed, Bool.false_eq_true, ↓reduceIte, List.append_nil]

/-! ### Names -/

theorem dottedToken_eq {relation text : List Char} (letter : (relation ++ text).all Char.isDigit = false) :
    dottedToken relation text = .column (String.ofList (fold relation)) (String.ofList (fold text)) := by
  rw [dottedToken, letter, if_neg Bool.false_ne_true]

/-- A word, behind the dot of its relation. -/
theorem reads_dotted {relation : List Char} (chars : ∀ c ∈ first.toList, isWordChar c = true) :
    Reads ⟨false, .dotted relation []⟩ first [] ⟨false, .dotted relation first.toList⟩ :=
  readAll_dotted false relation [] first.toList chars

theorem close_dotted {relation text : List Char}
    (letter : (relation ++ text).all Char.isDigit = false) :
    Reader.close ⟨false, .dotted relation text⟩ =
      some [.column (String.ofList (fold relation)) (String.ofList (fold text))] := by
  simp only [Reader.close, dottedToken_eq letter, Bool.false_eq_true, ↓reduceIte]

theorem reads_word (some_ : first.toList ≠ []) (chars : ∀ c ∈ first.toList, isWordChar c = true) :
    Reads .start first [] ⟨false, .word first.toList⟩ := by
  unfold Reads
  cases letters : first.toList with
  | nil => exact absurd letters some_
  | cons c rest =>
    rw [letters] at chars
    obtain ⟨here, later⟩ := List.forall_mem_cons.mp chars
    have begun : Reader.start.read c = ([], ⟨false, .word [c]⟩) := by
      change begin false c = _
      unfold begin
      exact if_pos here
    rw [Reader.readAll, begun]
    simp only [readAll_word false [c] rest later, List.singleton_append, List.append_nil]

/-- The digits of a number. -/
theorem spells_digits (some_ : first.toList ≠ [])
    (digits : ∀ c ∈ first.toList, c.isDigit = true) : Spells first [.numeral first] := by
  have words : ∀ c ∈ first.toList, isWordChar c = true := fun c member => by
    simp only [isWordChar, Char.isAlphanum, digits c member, Bool.or_true, Bool.true_or]
  have starts : startsWithDigit first.toList = true := by
    cases chars : first.toList with
    | nil => exact absurd chars some_
    | cons c rest => exact digits c (chars ▸ List.mem_cons_self)
  have closes : Reader.close ⟨false, .word first.toList⟩ = some [.numeral first] := by
    simp only [Reader.close, wordToken, starts, Bool.false_eq_true, ↓reduceIte, String.ofList_toList]
  exact (reads_word some_ words).closed closes

/-- Text inside quotes. -/
theorem reads_quote {named : Bool} (acc : List Char) (plain : '\'' ∉ first.toList) :
    Reads ⟨named, .quote acc⟩ first [] ⟨named, .quote (acc ++ first.toList)⟩ := by
  unfold Reads
  generalize first.toList = chars at plain
  induction chars generalizing acc with
  | nil => rw [Reader.readAll, List.append_nil]
  | cons c rest ih =>
    rw [List.mem_cons, not_or] at plain
    have inside : (c == '\'') = false := beq_false_of_ne fun same => plain.1 same.symm
    simp only [Reader.readAll, Reader.read, inside, Bool.false_eq_true, ↓reduceIte,
      ih (acc ++ [c]) plain.2, List.append_assoc, List.singleton_append, List.append_nil]

/-- A column of a relation, both named by words. -/
theorem spells_column (some_ : first.toList ≠ []) (chars : ∀ c ∈ first.toList, isWordChar c = true)
    (words : ∀ c ∈ second.toList, isWordChar c = true)
    (letter : (first.toList ++ second.toList).all Char.isDigit = false) :
    Spells (first ++ ("." ++ second))
      [.column (String.ofList (fold first.toList)) (String.ofList (fold second.toList))] := by
  have dot : Reads ⟨false, .word first.toList⟩ "." [] ⟨false, .dotted first.toList []⟩ := rfl
  have whole := (reads_word some_ chars).append (dot.append (reads_dotted words))
  exact whole.closed (close_dotted letter)

end

example : tokens "SELECT DISTINCT base.User_Id FROM dro.raw_a_b base WHERE base.x <= ? AND 1=1" =
    [.key .SELECT, .key .DISTINCT, .column "base" "user_id", .key .FROM, .column "dro" "raw_a_b",
     .name "base", .key .WHERE, .column "base" "x", .symbol .le, .mark (), .key .AND, .numeral "1",
     .symbol .eq, .numeral "1"] := by decide +kernel

end ConsumerEngine.Sql
