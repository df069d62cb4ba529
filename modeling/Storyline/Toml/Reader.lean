import Storyline.Toml.Table
import Storyline.Toml.Text

set_option autoImplicit false

/-!
Settings files. A file is a list of lines: headers, keys with values, comments. The result is a tree of fields.
-/

namespace Storyline.Toml

def comment (chars : List Char) : List Char :=
  match chars with
  | '#' :: rest => rest.dropWhile isPlain
  | chars => chars

def skipLines : Nat → List Char → List Char
  | 0, chars => chars
  | fuel + 1, chars =>
    let rest := comment (chars.dropWhile isSpace)
    match newline? rest with
    | some rest => skipLines fuel rest
    | none => rest

def skipAll (chars : List Char) : List Char := skipLines (chars.length + 1) chars

mutual
def value (fuel depth : Nat) (chars : List Char) : Option (Json × List Char) :=
  match fuel, chars with
  | fuel + 1, '[' :: rest => if depth = 0 then none else items fuel (depth - 1) [] rest
  | fuel + 1, '{' :: rest =>
    if depth = 0 then none
    else match rest.dropWhile isSpace with
      | '}' :: rest => some (.object [], rest)
      | rest => pairs fuel (depth - 1) [] rest
  | _ + 1, c :: rest =>
    if c = '"' || c = '\'' then (text? (c :: rest)).map fun read => (.text read.1, read.2)
    else
      let word := chars.takeWhile isScalarChar
      let after := chars.dropWhile isScalarChar
      match date? word, after with
      | some [], ' ' :: next =>
        let time := next.takeWhile isScalarChar
        if next.head?.any Char.isDigit then
          (scalar? (word ++ ' ' :: time)).map fun json => (json, next.dropWhile isScalarChar)
        else (scalar? word).map fun json => (json, after)
      | _, _ => (scalar? word).map fun json => (json, after)
  | _, _ => none
def items (fuel depth : Nat) (done : List Json) (chars : List Char) : Option (Json × List Char) :=
  match fuel with
  | 0 => none
  | fuel + 1 =>
    match skipAll chars with
    | ']' :: rest => some (.array done.reverse, rest)
    | start =>
      (value fuel depth start).bind fun read =>
        match skipAll read.2 with
        | ',' :: rest => items fuel depth (read.1 :: done) rest
        | ']' :: rest => some (.array (read.1 :: done).reverse, rest)
        | _ => none
def pairs (fuel depth : Nat) (done : Entries) (chars : List Char) : Option (Json × List Char) :=
  match fuel with
  | 0 => none
  | fuel + 1 =>
    (key? depthLimit chars).bind fun key =>
      match key.2 with
      | '=' :: rest =>
        (value fuel depth (rest.dropWhile isSpace)).bind fun read =>
          (Entries.assignKey key.1 read.1 done).bind fun done =>
            match read.2.dropWhile isSpace with
            | ',' :: rest => pairs fuel depth done rest
            | '}' :: rest => some ((Node.table .explicit done).toJson, rest)
            | _ => none
      | _ => none
end

structure Document where
  entries : Entries := []
  header : List String := []

def lineEnd? (chars : List Char) : Option (List Char) :=
  match comment (chars.dropWhile isSpace) with
  | [] => some []
  | rest => newline? rest

def Document.open? (document : Document) (key : List String) (open? : String → Entries → Option Entries) :
    Option Document :=
  key.getLast?.bind fun name =>
    (document.entries.within key.dropLast (open? name)).map fun entries => ⟨entries, key⟩

def Document.line? (document : Document) (chars : List Char) : Option (Document × List Char) :=
  match chars with
  | '[' :: '[' :: rest =>
    (key? depthLimit rest).bind fun key =>
      match key.2 with
      | ']' :: ']' :: rest => (document.open? key.1 Entries.openItem).map fun document => (document, rest)
      | _ => none
  | '[' :: rest =>
    (key? depthLimit rest).bind fun key =>
      match key.2 with
      | ']' :: rest => (document.open? key.1 Entries.openTable).map fun document => (document, rest)
      | _ => none
  | chars =>
    (key? depthLimit chars).bind fun key =>
      match key.2 with
      | '=' :: rest =>
        (value (chars.length + 1) depthLimit (rest.dropWhile isSpace)).bind fun read =>
          (document.entries.within document.header (Entries.assignKey key.1 read.1)).map fun entries =>
            ({ document with entries := entries }, read.2)
      | _ => none

def readLines : Nat → Document → List Char → Option Document
  | 0, _, _ => none
  | fuel + 1, document, chars =>
    match skipAll chars with
    | [] => some document
    | start =>
      (document.line? start).bind fun read =>
        (lineEnd? read.2).bind fun rest => readLines fuel read.1 rest

def parse (text : String) : Option Json :=
  let chars := match text.toList with
    | '\ufeff' :: rest => rest
    | chars => chars
  (readLines (chars.length + 1) {} chars).map fun document => .object (Node.entriesJson document.entries)

end Storyline.Toml
