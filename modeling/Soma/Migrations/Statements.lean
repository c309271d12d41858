import Mathlib.Data.List.DropRight
import Soma.Foundation.Errors

/-!
`iter_migration_statements` of `foundation/migrations/runner.py`: a migration
text is cut at the line ends where SQLite finds the collected lines complete,
and chunks without SQL outside comments are dropped.
-/

namespace Soma.Migrations

open Foundation

/-- `str.isspace` of one character. -/
def isSpace (character : Char) : Bool :=
  let code := character.toNat
  (9 ≤ code && code ≤ 13) || (28 ≤ code && code ≤ 32) || code = 0x85 || code = 0xa0 ||
  code = 0x1680 || (0x2000 ≤ code && code ≤ 0x200a) || code = 0x2028 || code = 0x2029 ||
  code = 0x202f || code = 0x205f || code = 0x3000

/-- Where `str.splitlines` ends a line. -/
def isLineBoundary (character : Char) : Bool :=
  let code := character.toNat
  (10 ≤ code && code ≤ 13) || (28 ≤ code && code ≤ 30) || code = 0x85 || code = 0x2028 ||
  code = 0x2029

/-- `text.splitlines(keepends=True)`, behind the part of a line already read. -/
def splitLines : List Char → List Char → List (List Char)
  | [], [] => []
  | line, [] => [line]
  | line, '\r' :: '\n' :: rest => (line ++ ['\r', '\n']) :: splitLines [] rest
  | line, character :: rest =>
    if isLineBoundary character then (line ++ [character]) :: splitLines [] rest
    else splitLines (line ++ [character]) rest

/-- `text.strip()`. -/
def strip (text : List Char) : List Char :=
  (text.dropWhile isSpace).rdropWhile isSpace

/-- The states of `_contains_sql_token`. -/
inductive ScanState where
  | plain
  | lineComment
  | blockComment
  | singleQuote
  | doubleQuote

/-- The loop of `_contains_sql_token`. -/
def scanSql : ScanState → List Char → Bool
  | _, [] => false
  | .lineComment, '\n' :: rest => scanSql .plain rest
  | .lineComment, _ :: rest => scanSql .lineComment rest
  | .blockComment, '*' :: '/' :: rest => scanSql .plain rest
  | .blockComment, _ :: rest => scanSql .blockComment rest
  | .singleQuote, '\x27' :: '\x27' :: rest => scanSql .singleQuote rest
  | .singleQuote, '\x27' :: rest => scanSql .plain rest
  | .singleQuote, _ :: rest => scanSql .singleQuote rest
  | .doubleQuote, '"' :: '"' :: rest => scanSql .doubleQuote rest
  | .doubleQuote, '"' :: rest => scanSql .plain rest
  | .doubleQuote, _ :: rest => scanSql .doubleQuote rest
  | .plain, '-' :: '-' :: rest => scanSql .lineComment rest
  | .plain, '/' :: '*' :: rest => scanSql .blockComment rest
  | .plain, '\x27' :: rest => scanSql .singleQuote rest
  | .plain, '"' :: rest => scanSql .doubleQuote rest
  | .plain, character :: rest =>
    if ¬ isSpace character ∧ character ≠ ';' then true else scanSql .plain rest

def containsSqlToken (statement : List Char) : Bool :=
  scanSql .plain statement

/-- The lines of a text, cut where `complete` holds of what was collected, and
the lines behind the last cut. -/
def cutLines (complete : String → Bool) : List Char → List (List Char) →
    List (List Char) × List Char
  | buffer, [] => ([], buffer)
  | buffer, line :: lines =>
    if complete (String.ofList (buffer ++ line)) then
      let (chunks, tail) := cutLines complete [] lines
      ((buffer ++ line) :: chunks, tail)
    else cutLines complete (buffer ++ line) lines

def chunkStatement (chunk : List Char) : Option String :=
  let candidate := strip chunk
  if candidate ≠ [] ∧ containsSqlToken candidate then some (String.ofList candidate) else none

/-- What `iter_migration_statements` yields, and whether it raises afterwards. -/
structure MigrationScript where
  statements : List String
  incomplete : Bool
  deriving DecidableEq

def iterMigrationStatements (complete : String → Bool) (text : String) : MigrationScript :=
  let (chunks, tail) := cutLines complete [] (splitLines [] text.toList)
  { statements := chunks.filterMap chunkStatement
    incomplete := strip tail ≠ [] && containsSqlToken tail }

end Soma.Migrations
