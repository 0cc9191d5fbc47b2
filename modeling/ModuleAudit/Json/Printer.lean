import ModuleAudit.Json.Display

/-!
# Writing JSON

Reports are written over several lines with two blanks per level; a compact
form stands on one line. Only ASCII is written: other code points are escaped as
UTF-16 units.
-/

namespace ModuleAudit.Json

def escapeUnit (n : Nat) : List Char := '\\' :: 'u' :: Text.hexDigits 4 n

def escapePoint (c : CodePoint) : List Char :=
  if c = '"' then ['\\', '"']
  else if c = '\\' then ['\\', '\\']
  else if c = '\n' then ['\\', 'n']
  else if c = '\r' then ['\\', 'r']
  else if c = '\t' then ['\\', 't']
  else if c.value = 8 then ['\\', 'b']
  else if c.value = 12 then ['\\', 'f']
  else if 32 ≤ c.value && c.value < 127 then [Char.ofNat c.value]
  else if c.value < 0x10000 then escapeUnit c.value
  else
    let n := c.value - 0x10000
    escapeUnit (0xD800 + n / 0x400) ++ escapeUnit (0xDC00 + n % 0x400)

def stringText (text : Text) : String :=
  String.ofList ('"' :: text.flatMap escapePoint ++ ['"'])

/-- A floating-point number; the values outside JSON have the names that its
readers accept. -/
def floatText : Binary64 → String
  | .nan => "NaN"
  | .infinite negative => if negative then "-Infinity" else "Infinity"
  | x => Decimal.text x

/-- A value without parts. Lists and objects have no such text. -/
def scalarText : Json → String
  | .null => "null"
  | .bool true => "true"
  | .bool false => "false"
  | .int i => intText i
  | .float x => floatText x
  | .str s => stringText s
  | _ => ""

mutual

/-- A value on one line. -/
def compact : Json → String
  | .arr items => "[" ++ compactItems items ++ "]"
  | .obj fields => "\x7b" ++ compactFields fields ++ "\x7d"
  | value => scalarText value

def compactItems : List Json → String
  | [] => ""
  | [item] => compact item
  | item :: rest => compact item ++ "," ++ compactItems rest

def compactFields : List (Text × Json) → String
  | [] => ""
  | [(key, value)] => stringText key ++ ":" ++ compact value
  | (key, value) :: rest => stringText key ++ ":" ++ compact value ++ "," ++ compactFields rest

end

/-- The start of a line that stands `depth` levels deep. -/
def newline (depth : Nat) : String := String.ofList ('\n' :: List.replicate (2 * depth) ' ')

mutual

/-- A value over several lines, when it stands `depth` levels deep. -/
def pretty (depth : Nat) : Json → String
  | .arr [] => "[]"
  | .obj [] => "\x7b\x7d"
  | .arr items => "[" ++ prettyItems (depth + 1) items ++ newline depth ++ "]"
  | .obj fields => "\x7b" ++ prettyFields (depth + 1) fields ++ newline depth ++ "\x7d"
  | value => scalarText value

/-- Items, each on a line of its own. -/
def prettyItems (depth : Nat) : List Json → String
  | [] => ""
  | [item] => newline depth ++ pretty depth item
  | item :: rest => newline depth ++ pretty depth item ++ "," ++ prettyItems depth rest

/-- Fields, each on a line of its own. -/
def prettyFields (depth : Nat) : List (Text × Json) → String
  | [] => ""
  | [(key, value)] => newline depth ++ stringText key ++ ": " ++ pretty depth value
  | (key, value) :: rest =>
    newline depth ++ stringText key ++ ": " ++ pretty depth value ++ "," ++
      prettyFields depth rest

end

/-- A value as a file holds it. -/
def render (value : Json) : String := pretty 0 value

end ModuleAudit.Json
