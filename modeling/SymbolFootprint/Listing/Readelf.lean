import SymbolFootprint.Listing.Malformed
import SymbolFootprint.SizeText
import SymbolFootprint.Symbol
import SymbolFootprint.Text.Affix
import SymbolFootprint.Text.Lines

/-!
Symbol listings of `readelf -s -W`: tables, each under a heading with its name, with the columns
`Num: Value Size Type Bind Vis Ndx Name`.

The records of dynamic tables count only if no other table has any.
-/

namespace SymbolFootprint.Readelf

/-- The name that the remaining columns of an entry give. -/
def nameOf (columns : List (List Char)) : String :=
  String.ofList (Text.join [' '] columns)

/-- Reads a line. An entry starts with its number and a colon; other lines are nothing. -/
def parseLine (line : List Char) : Except Malformed (Option SymbolRecord) :=
  match Text.words line with
  | [] => .ok none
  | number :: columns =>
    if number = "Num:".toList ∨ number.getLast? ≠ some ':' then .ok none
    else
      match columns with
      | _ :: size :: type :: _ :: _ :: _ :: first :: more =>
        match Size.parse size with
        | .error _ => .error ⟨String.ofList line, "invalid size column"⟩
        | .ok size =>
          .ok (some ⟨nameOf (first :: more), size, .ofReadelfType (String.ofList type)⟩)
      | _ => .error ⟨String.ofList line, "expected at least 8 columns"⟩

/-- The record of a line; lines without one are passed over. -/
def record? (line : List Char) : Option SymbolRecord :=
  match parseLine line with
  | .ok record => record
  | .error _ => none

/-- What stands before the name of a table in its heading. -/
def headingStart : List Char := "Symbol table '".toList

/-- For a heading, whether it is that of a dynamic table. -/
def heading? (line : List Char) : Option Bool :=
  (Text.afterStart? headingStart line).map (".dynsym".toList.isPrefixOf ·)

structure Tables where
  ordinary : List SymbolRecord
  dynamic : List SymbolRecord
deriving DecidableEq

namespace Tables

def empty : Tables := ⟨[], []⟩

def cons (inDynamic : Bool) (record : SymbolRecord) (tables : Tables) : Tables :=
  if inDynamic then { tables with dynamic := record :: tables.dynamic }
  else { tables with ordinary := record :: tables.ordinary }

/-- The tables on the given lines. Lines before the first heading belong to an ordinary table. -/
def ofLines (inDynamic : Bool) : List (List Char) → Tables
  | [] => empty
  | line :: rest =>
    match heading? (Text.trim line) with
    | some dynamic => ofLines dynamic rest
    | none =>
      match record? (Text.trim line) with
      | none => ofLines inDynamic rest
      | some record => cons inDynamic record (ofLines inDynamic rest)

def records (tables : Tables) : List SymbolRecord :=
  if tables.ordinary.isEmpty then tables.dynamic else tables.ordinary

end Tables

def parse (listing : List Char) : List SymbolRecord :=
  (Tables.ofLines false (Text.lines listing)).records

end SymbolFootprint.Readelf
