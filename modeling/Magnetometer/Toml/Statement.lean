import Magnetometer.Toml.Scalar
import Magnetometer.Toml.Document

/-!
# Reading statements

A document is a sequence of statements: key-value pairs, table headers and
headers of rows in an array of tables.  Every step of a reading takes at least
one character, so the length of the text bounds the recursion.
-/

namespace Magnetometer.Toml

/-- A statement of a document. -/
inductive Statement where
  /-- A key-value pair of the current table. -/
  | assign (path : List Key) (value : Value)
  /-- The header of a table. -/
  | table (path : List Key)
  /-- The header of a new row in an array of tables. -/
  | row (path : List Key)
deriving Repr

/-! ## Keys -/

/-- Whether a character may stand in a key without quotes. -/
def isBareChar (c : Char) : Bool := c.isAlphanum || c == '_' || c == '-'

/-- A single key from the front of a text. -/
def takeSimpleKey? (text : List Char) : Option (Key × List Char) :=
  match text with
  | '"' :: _ | '\'' :: _ => takeLineText? text
  | _ =>
      match text.takeWhile isBareChar with
      | [] => none
      | key => some (key, text.dropWhile isBareChar)

/-- Keys parted by dots, with the space around them.  The first argument bounds
their number. -/
def takeKeys? : Nat → List Char → Option (List Key × List Char)
  | 0, _ => none
  | count + 1, text => do
      let (key, rest) ← takeSimpleKey? (skipSpace text)
      match skipSpace rest with
      | '.' :: rest =>
          let (keys, rest) ← takeKeys? count rest
          return (key :: keys, rest)
      | rest => return ([key], rest)

/-- Values and keys nest less deep than this. -/
def nestingLimit : Nat := 80

/-- A dotted key from the front of a text. -/
def takePath? (text : List Char) : Option (List Key × List Char) :=
  takeKeys? (nestingLimit - 1) text

/-! ## Values -/

/-- Text without the space, line ends and comments at its start.  The first
argument bounds the number of comments. -/
def skipTrivia : Nat → List Char → List Char
  | 0, text => text
  | count + 1, text =>
      match skipLines text with
      | '#' :: rest =>
          match takeNewline? (rest.dropWhile isPrintable) with
          | some rest => skipTrivia count rest
          | none => '#' :: rest
      | rest => rest

mutual

/-- A value from the front of a text.  The first argument bounds the recursion,
the second is the number of arrays and tables around the value. -/
def takeValue? : Nat → Nat → List Char → Option (Value × List Char)
  | 0, _, _ => none
  | fuel + 1, level, text =>
      match text with
      | '[' :: rest =>
          if level + 1 < nestingLimit then
            (takeItems? fuel (level + 1) rest).map fun (items, rest) => (.array items, rest)
          else
            none
      | '\x7b' :: rest =>
          if level + 1 < nestingLimit then do
            let (pairs, rest) ←
              match skipSpace rest with
              | '\x7d' :: rest => some ([], rest)
              | rest => takePairs? fuel (level + 1) rest
            let table ← inlineTable? pairs
            return (.table table, rest)
          else
            none
      | '"' :: _ | '\'' :: _ =>
          (takeQuoted? text).map fun (text, rest) => (.string text, rest)
      | _ => takeScalar? text

/-- The items of an array up to its closing bracket.  A comma may follow the
last one. -/
def takeItems? : Nat → Nat → List Char → Option (List Value × List Char)
  | 0, _, _ => none
  | fuel + 1, level, text =>
      match skipTrivia text.length text with
      | ']' :: rest => some ([], rest)
      | rest => do
          let (item, rest) ← takeValue? fuel level rest
          match skipTrivia rest.length rest with
          | ']' :: rest => return ([item], rest)
          | ',' :: rest =>
              let (items, rest) ← takeItems? fuel level rest
              return (item :: items, rest)
          | _ => none

/-- The key-value pairs of a table in braces up to its closing brace. -/
def takePairs? : Nat → Nat → List Char → Option (List (List Key × Value) × List Char)
  | 0, _, _ => none
  | fuel + 1, level, text => do
      let (path, rest) ← takePath? text
      match rest with
      | '=' :: rest =>
          let (value, rest) ← takeValue? fuel level (skipSpace rest)
          match skipSpace rest with
          | '\x7d' :: rest => return ([(path, value)], rest)
          | ',' :: rest =>
              let (pairs, rest) ← takePairs? fuel level rest
              return ((path, value) :: pairs, rest)
          | _ => none
      | _ => none

end

/-! ## Statements -/

/-- A key-value pair from the front of a text, up to the end of its line. -/
def takeAssign? (text : List Char) : Option (Statement × List Char) := do
  let (path, rest) ← takePath? text
  match rest with
  | '=' :: rest =>
      let (value, rest) ← takeValue? (rest.length + 1) 0 (skipSpace rest)
      let rest ← takeLineEnd? rest
      return (.assign path value, rest)
  | _ => none

/-- A header from behind its first bracket, up to the end of its line. -/
def takeHeader? : List Char → Option (Statement × List Char)
  | '[' :: text => do
      let (path, rest) ← takePath? text
      match rest with
      | ']' :: ']' :: rest => (takeLineEnd? rest).map (.row path, ·)
      | _ => none
  | text => do
      let (path, rest) ← takePath? text
      match rest with
      | ']' :: rest => (takeLineEnd? rest).map (.table path, ·)
      | _ => none

/-- The statements of a text.  The first argument bounds the number of lines. -/
def statementsWithin? : Nat → List Char → Option (List Statement)
  | 0, _ => none
  | count + 1, text =>
      match skipSpace text with
      | [] => some []
      | '#' :: rest => (takeLineEnd? ('#' :: rest)).bind (statementsWithin? count)
      | '\n' :: rest => statementsWithin? count rest
      | '\r' :: rest => (takeNewline? ('\r' :: rest)).bind (statementsWithin? count)
      | '[' :: rest => do
          let (statement, rest) ← takeHeader? rest
          (statementsWithin? count rest).map (statement :: ·)
      | rest => do
          let (statement, rest) ← takeAssign? rest
          (statementsWithin? count rest).map (statement :: ·)

/-- Text without the byte order mark that it may start with. -/
def skipMark : List Char → List Char
  | '\uFEFF' :: rest => rest
  | text => text

/-- The statements of a text. -/
def statements? (text : List Char) : Option (List Statement) :=
  statementsWithin? (text.length + 1) (skipMark text)

/-! ## Documents -/

/-- Let a statement take effect on a document. -/
def Document.apply? (document : Document) : Statement → Option Document
  | .assign path value => document.assign? path value
  | .table path => document.openTable? path
  | .row path => document.openRow? path

/-- The table that a text describes. -/
def parse? (text : List Char) : Option Table := do
  let statements ← statements? text
  let document ← statements.foldlM Document.apply? .empty
  return document.table

end Magnetometer.Toml
