import ModuleAudit.Json.Basic

/-!
# Reading JSON

A text is one value with blanks around it. Besides the standard grammar the
words `NaN`, `Infinity` and `-Infinity` are numbers, and a number that is too
large reads as an infinity. A repeated key keeps its first place and takes the
last value.

A machine reads no integer with too many digits and no lists and objects that are
nested too deep; the first obstacle ends the reading.

The descent is by fuel: a value and the list it stands in each spend one unit,
and two units per character are always enough. The room that is left for lists and
objects inside each other is counted apart from it.
-/

namespace ModuleAudit.Json

inductive Container where
  | array
  | object
deriving DecidableEq, Repr

def Container.name : Container → Text
  | .array => "array"
  | .object => "object"

inductive ParseError where
  | malformed
  | longInteger (digits : Nat)
  | tooDeep (container : Container)
deriving DecidableEq, Repr

namespace Parser

/-- A value read from the front of a text, with the text behind it. -/
abbrev Reading (α : Type) := Except ParseError (α × List Char)

/-- Whether a character may stand between the parts of a value. -/
def isBlank (c : Char) : Bool := c = ' ' || c = '\t' || c = '\n' || c = '\r'

def skipBlanks (cs : List Char) : List Char := cs.dropWhile isBlank

def natOfDigits (digits : List Char) : Nat :=
  digits.foldl (fun n c => 10 * n + (c.toNat - '0'.toNat)) 0

def hexValue? (c : Char) : Option Nat :=
  if '0' ≤ c && c ≤ '9' then some (c.toNat - '0'.toNat)
  else if 'a' ≤ c && c ≤ 'f' then some (c.toNat - 'a'.toNat + 10)
  else if 'A' ≤ c && c ≤ 'F' then some (c.toNat - 'A'.toNat + 10)
  else none

def hexUnit? (a b c d : Char) : Option Nat := do
  let a ← hexValue? a
  let b ← hexValue? b
  let c ← hexValue? c
  let d ← hexValue? d
  return ((a * 16 + b) * 16 + c) * 16 + d

def shortEscape? (c : Char) : Option Char :=
  if c = '"' || c = '\\' || c = '/' then some c
  else if c = 'b' then some (Char.ofNat 8)
  else if c = 'f' then some (Char.ofNat 12)
  else if c = 'n' then some '\n'
  else if c = 'r' then some '\r'
  else if c = 't' then some '\t'
  else none

/-- A part of a string: a character, or a UTF-16 unit written as an escape. -/
inductive Piece where
  | char (c : Char)
  | unit (n : Nat)

/-- The text that pieces spell. Two units that form a surrogate pair are one
character; any other unit is a code point of its own. -/
def joinPieces : List Piece → Text
  | [] => []
  | .char c :: rest => .ofChar c :: joinPieces rest
  | .unit high :: .unit low :: rest =>
    if 0xD800 ≤ high && high < 0xDC00 && 0xDC00 ≤ low && low < 0xE000 then
      .ofNat (0x10000 + (high - 0xD800) * 0x400 + (low - 0xDC00)) :: joinPieces rest
    else .ofNat high :: joinPieces (.unit low :: rest)
  | .unit n :: rest => .ofNat n :: joinPieces rest

/-- Read the pieces of a string up to its closing quote. -/
def stringPieces (seen : List Piece) : List Char → Reading (List Piece)
  | [] => .error .malformed
  | '"' :: rest => .ok (seen.reverse, rest)
  | '\\' :: 'u' :: a :: b :: c :: d :: rest =>
    match hexUnit? a b c d with
    | some n => stringPieces (.unit n :: seen) rest
    | none => .error .malformed
  | '\\' :: c :: rest =>
    match shortEscape? c with
    | some e => stringPieces (.char e :: seen) rest
    | none => .error .malformed
  | c :: rest =>
    if c = '\\' || c.toNat < 32 then .error .malformed
    else stringPieces (.char c :: seen) rest

/-- Read a string behind its opening quote. -/
def stringBody (cs : List Char) : Reading Text :=
  match stringPieces [] cs with
  | .ok (pieces, rest) => .ok (joinPieces pieces, rest)
  | .error e => .error e

def spanDigits (cs : List Char) : List Char × List Char := cs.span Char.isDigit

/-- The fraction at the front: its digits, if a point and a digit stand there. -/
def fractionPart (cs : List Char) : List Char × List Char :=
  match cs with
  | '.' :: rest =>
    match spanDigits rest with
    | ([], _) => ([], cs)
    | split => split
  | _ => ([], cs)

/-- The exponent at the front, if a mark, perhaps a sign, and a digit stand there. -/
def exponentPart (cs : List Char) : Option Int × List Char :=
  match cs with
  | [] => (none, cs)
  | mark :: rest =>
    if mark = 'e' || mark = 'E' then
      let (negative, digits) := match rest with
        | '-' :: digits => (true, digits)
        | '+' :: digits => (false, digits)
        | _ => (false, rest)
      match spanDigits digits with
      | ([], _) => (none, cs)
      | (ds, behind) =>
        let n : Int := natOfDigits ds
        (some (if negative then -n else n), behind)
    else (none, cs)

/-- Whether digits are a whole part: not empty, and no zero before others. -/
def isWholePart : List Char → Bool
  | [] => false
  | ['0'] => true
  | c :: _ => c != '0'

/-- Read the digits of a number behind its sign. A zero is a whole part on its
own, whatever follows. -/
def numberBody (l : Limits) (negative : Bool) (cs : List Char) : Reading Json :=
  let (whole, rest) := match cs with
    | '0' :: rest => (['0'], rest)
    | _ => spanDigits cs
  if !isWholePart whole then .error .malformed
  else
    let (fraction, afterFraction) := fractionPart rest
    let (exponent, behind) := exponentPart afterFraction
    if fraction.isEmpty && exponent.isNone then
      if whole.length > l.digits then .error (.longInteger whole.length)
      else
        let n : Int := natOfDigits whole
        .ok (.int (if negative then -n else n), behind)
    else
      let digits := natOfDigits (whole ++ fraction)
      let e := exponent.getD 0 - fraction.length
      .ok (.float (Binary64.ofDecimal negative digits e), behind)

/-- The rest of a text behind a word, if it begins with that word. -/
def afterWord? (word : String) (cs : List Char) : Option (List Char) :=
  if word.toList.isPrefixOf cs then some (cs.drop word.length) else none

/-- The words that are values. -/
def constants : List (String × Json) :=
  [("null", .null), ("true", .bool true), ("false", .bool false), ("NaN", .float .nan),
    ("Infinity", .float (.infinite false)), ("-Infinity", .float (.infinite true))]

/-- Read a value that is neither a string nor has parts. -/
def scalar (l : Limits) (cs : List Char) : Reading Json :=
  match constants.findSome? fun (word, value) => (afterWord? word cs).map (value, ·) with
  | some found => .ok found
  | none =>
    match cs with
    | '-' :: rest => numberBody l true rest
    | _ => numberBody l false cs

/-- Write a field into the fields already read, the last one first. -/
def putField (key : Text) (value : Json) (fields : List (Text × Json)) :
    List (Text × Json) :=
  if fields.any fun f => f.1 == key then
    fields.map fun f => if f.1 = key then (key, value) else f
  else (key, value) :: fields

mutual

/-- Read a value at the front of a text. -/
def value (l : Limits) : Nat → Nat → List Char → Reading Json
  | _, 0, _ => .error .malformed
  | _, _ + 1, [] => .error .malformed
  | room, fuel + 1, c :: rest =>
    if c = '"' then
      match stringBody rest with
      | .ok (s, behind) => .ok (.str s, behind)
      | .error e => .error e
    else if c = '[' then
      match room with
      | 0 => .error (.tooDeep .array)
      | room + 1 =>
        match skipBlanks rest with
        | ']' :: behind => .ok (.arr [], behind)
        | start => items l room fuel [] start
    else if c = '\x7b' then
      match room with
      | 0 => .error (.tooDeep .object)
      | room + 1 =>
        match skipBlanks rest with
        | '\x7d' :: behind => .ok (.obj [], behind)
        | start => fields l room fuel [] start
    else scalar l (c :: rest)

def items (l : Limits) (room : Nat) : Nat → List Json → List Char → Reading Json
  | 0, _, _ => .error .malformed
  | fuel + 1, seen, cs =>
    match value l room fuel cs with
    | .error e => .error e
    | .ok (item, behind) =>
      match skipBlanks behind with
      | ',' :: next => items l room fuel (item :: seen) (skipBlanks next)
      | ']' :: done => .ok (.arr (item :: seen).reverse, done)
      | _ => .error .malformed

def fields (l : Limits) (room : Nat) : Nat → List (Text × Json) → List Char → Reading Json
  | 0, _, _ => .error .malformed
  | fuel + 1, seen, '"' :: cs =>
    match stringBody cs with
    | .error e => .error e
    | .ok (key, behind) =>
      match skipBlanks behind with
      | ':' :: start =>
        match value l room fuel (skipBlanks start) with
        | .error e => .error e
        | .ok (item, behind) =>
          match skipBlanks behind with
          | ',' :: next => fields l room fuel (putField key item seen) (skipBlanks next)
          | '\x7d' :: done => .ok (.obj (putField key item seen).reverse, done)
          | _ => .error .malformed
      | _ => .error .malformed
  | _ + 1, _, _ => .error .malformed

end

end Parser

/-- Read a text that is one value. -/
def parse (l : Limits) (text : String) : Except ParseError Json :=
  let cs := text.toList
  match Parser.value l l.reading (2 * cs.length + 2) (Parser.skipBlanks cs) with
  | .error e => .error e
  | .ok (v, behind) => if (Parser.skipBlanks behind).isEmpty then .ok v else .error .malformed

end ModuleAudit.Json
