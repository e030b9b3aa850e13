/-! Documents, as settings are written down, and the reading of a document from JSON text. Every reader
takes what it understands from the front and hands back the rest. -/

namespace ComponentContainer

/-- A document. A number is kept as the integer it spells, if it has neither fraction nor exponent
and is not a negative zero; a text is kept if its escapes stand for characters. Members are kept in
their order, repeated keys included. -/
inductive Document
  | null
  | bool (b : Bool)
  | number (value : Option Int)
  | text (value : Option String)
  | array (elements : List Document)
  | object (members : List (Option String × Document))

namespace Document

abbrev Reader (α : Type) := List Char → Option (α × List Char)

def isSpace (c : Char) : Bool := c = ' ' || c = '\t' || c = '\n' || c = '\r'

def skipSpace (s : List Char) : List Char := s.dropWhile isSpace

def dropWord (w : List Char) (s : List Char) : Option (List Char) :=
  if w.isPrefixOf s then some (s.drop w.length) else none

def hexValue? (c : Char) : Option Nat :=
  if c.isDigit then some (c.toNat - '0'.toNat)
  else if 'a' ≤ c ∧ c ≤ 'f' then some (c.toNat - 'a'.toNat + 10)
  else if 'A' ≤ c ∧ c ≤ 'F' then some (c.toNat - 'A'.toNat + 10)
  else none

def readUnit : Reader Nat
  | a :: b :: c :: d :: rest => do
    let (a, b, c, d) := (← hexValue? a, ← hexValue? b, ← hexValue? c, ← hexValue? d)
    return (((a * 16 + b) * 16 + c) * 16 + d, rest)
  | _ => none

def simpleEscape? : Char → Option Char
  | '"' => some '"'
  | '\\' => some '\\'
  | '/' => some '/'
  | 'b' => some '\x08'
  | 'f' => some '\x0c'
  | 'n' => some '\n'
  | 'r' => some '\r'
  | 't' => some '\t'
  | _ => none

inductive Piece
  | char (c : Char)
  | high (unit : Nat)
  | low (unit : Nat)

def Piece.ofUnit (u : Nat) : Piece :=
  if 0xd800 ≤ u ∧ u < 0xdc00 then high u
  else if 0xdc00 ≤ u ∧ u < 0xe000 then low u
  else char (Char.ofNat u)

def joinPieces : List Piece → Option (List Char)
  | [] => some []
  | .char c :: rest => (joinPieces rest).map (c :: ·)
  | .high h :: .low l :: rest =>
    (joinPieces rest).map (Char.ofNat (0x10000 + (h - 0xd800) * 0x400 + (l - 0xdc00)) :: ·)
  | .high _ :: _ | .low _ :: _ => none

def readPieces : Nat → Reader (List Piece)
  | 0, _ => none
  | fuel + 1, s =>
    match s with
    | [] => none
    | '"' :: rest => some ([], rest)
    | '\\' :: 'u' :: rest => do
      let (u, rest) ← readUnit rest
      let (pieces, rest) ← readPieces fuel rest
      return (.ofUnit u :: pieces, rest)
    | '\\' :: c :: rest => do
      let c ← simpleEscape? c
      let (pieces, rest) ← readPieces fuel rest
      return (.char c :: pieces, rest)
    | c :: rest => do
      if c.toNat < 0x20 || c = '\\' then none
      let (pieces, rest) ← readPieces fuel rest
      return (.char c :: pieces, rest)

def readText : Reader (Option String) := fun s => do
  let (pieces, rest) ← readPieces (s.length + 1) s
  return ((joinPieces pieces).map String.ofList, rest)

def readDigits : Reader (List Char) := fun s =>
  match s.takeWhile Char.isDigit with
  | [] => none
  | ds => some (ds, s.dropWhile Char.isDigit)

def natOf (digits : List Char) : Nat :=
  digits.foldl (fun n c => n * 10 + (c.toNat - '0'.toNat)) 0

def dropFraction (s : List Char) : Option (Bool × List Char) :=
  match s with
  | '.' :: rest => (readDigits rest).map fun (_, rest) => (true, rest)
  | _ => some (false, s)

def dropExponent (s : List Char) : Option (Bool × List Char) :=
  let digits (s : List Char) := (readDigits s).map fun (_, rest) => (true, rest)
  match s with
  | 'e' :: '+' :: rest | 'e' :: '-' :: rest | 'E' :: '+' :: rest | 'E' :: '-' :: rest
  | 'e' :: rest | 'E' :: rest => digits rest
  | _ => some (false, s)

def readNumber : Reader (Option Int) := fun s => do
  let negative := s.head? = some '-'
  let (digits, rest) ← readDigits (if negative then s.drop 1 else s)
  if digits.head? = some '0' ∧ 1 < digits.length then none
  let (fraction, rest) ← dropFraction rest
  let (exponent, rest) ← dropExponent rest
  let n := natOf digits
  let plain := !fraction && !exponent && !(negative && n = 0)
  return (if plain then some (if negative then -(n : Int) else n) else none, rest)

mutual

def readValue : Nat → Reader Document
  | 0, _ => none
  | fuel + 1, s =>
    match skipSpace s with
    | '{' :: rest =>
      match skipSpace rest with
      | '}' :: rest => some (.object [], rest)
      | rest => (readMembers fuel rest).map fun (members, rest) => (.object members, rest)
    | '[' :: rest =>
      match skipSpace rest with
      | ']' :: rest => some (.array [], rest)
      | rest => (readElements fuel rest).map fun (elements, rest) => (.array elements, rest)
    | '"' :: rest => (readText rest).map fun (value, rest) => (.text value, rest)
    | 'n' :: rest => (dropWord ['u', 'l', 'l'] rest).map fun rest => (.null, rest)
    | 't' :: rest => (dropWord ['r', 'u', 'e'] rest).map fun rest => (.bool true, rest)
    | 'f' :: rest => (dropWord ['a', 'l', 's', 'e'] rest).map fun rest => (.bool false, rest)
    | s => (readNumber s).map fun (n, rest) => (.number n, rest)

def readElements : Nat → Reader (List Document)
  | 0, _ => none
  | fuel + 1, s => do
    let (element, rest) ← readValue fuel s
    match skipSpace rest with
    | ',' :: rest =>
      let (elements, rest) ← readElements fuel rest
      return (element :: elements, rest)
    | ']' :: rest => return ([element], rest)
    | _ => none

def readMembers : Nat → Reader (List (Option String × Document))
  | 0, _ => none
  | fuel + 1, s =>
    match skipSpace s with
    | '"' :: rest => do
      let (key, rest) ← readText rest
      match skipSpace rest with
      | ':' :: rest =>
        let (value, rest) ← readValue fuel rest
        match skipSpace rest with
        | ',' :: rest =>
          let (members, rest) ← readMembers fuel rest
          return ((key, value) :: members, rest)
        | '}' :: rest => return ([(key, value)], rest)
        | _ => none
      | _ => none
    | _ => none

end

def parse? (text : String) : Option Document := do
  let s := text.toList
  let (d, rest) ← readValue (2 * s.length + 2) s
  if (skipSpace rest).isEmpty then return d
  none

end Document

end ComponentContainer
