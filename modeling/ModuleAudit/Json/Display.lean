import ModuleAudit.Decimal.Notation
import ModuleAudit.Json.Basic
import ModuleAudit.Text.Quoted

/-!
# Values in messages

A message that refuses a value shows it. A text inside is quoted, numbers are
written with the fewest digits, and the constants are `None`, `True` and
`False`. A text on its own may also be shown bare.

A machine shows no integer with too many digits and no value that is nested too
deep. It finds out on its way through the value, so that of several obstacles the
first one counts.
-/

namespace ModuleAudit

/-- Why a value is not shown. -/
inductive ShowError where
  | longInteger
  | tooDeep
deriving DecidableEq, Repr

def ShowError.message (l : Limits) : ShowError → Text
  | .longInteger =>
    "Exceeds the limit (" ++ toString l.digits ++ " digits) for integer string conversion; " ++
      "use sys.set_int_max_str_digits() to increase the limit"
  | .tooDeep => "maximum recursion depth exceeded while getting the repr of an object"

namespace Json

def intText (i : Int) : String :=
  match i with
  | .ofNat n => String.ofList (Nat.toDigits 10 n)
  | .negSucc n => String.ofList ('-' :: Nat.toDigits 10 (n + 1))

mutual

/-- A value as a message shows it, texts quoted. -/
def literal : Json → Text
  | .null => "None"
  | .bool true => "True"
  | .bool false => "False"
  | .int i => intText i
  | .float x => Decimal.text x
  | .str s => Text.quoted s
  | .arr items => "[" ++ literalItems items ++ "]"
  | .obj fields => "\x7b" ++ literalFields fields ++ "\x7d"

def literalItems : List Json → Text
  | [] => ""
  | [item] => literal item
  | item :: rest => literal item ++ ", " ++ literalItems rest

def literalFields : List (Text × Json) → Text
  | [] => ""
  | [(key, value)] => Text.quoted key ++ ": " ++ literal value
  | (key, value) :: rest =>
    Text.quoted key ++ ": " ++ literal value ++ ", " ++ literalFields rest

end

/-- Whether an integer has more digits than a machine shows. -/
def isLong (l : Limits) (i : Int) : Bool := Nat.pow 10 l.digits ≤ i.natAbs

mutual

/-- The first obstacle to showing a value that has room for so many levels. Every
value takes a level, also one without parts. -/
def obstacle? (l : Limits) : Nat → Json → Option ShowError
  | 0, _ => some .tooDeep
  | _ + 1, .int i => if isLong l i then some .longInteger else none
  | room + 1, .arr items => obstacleItems? l room items
  | room + 1, .obj fields => obstacleFields? l room fields
  | _ + 1, _ => none

def obstacleItems? (l : Limits) (room : Nat) : List Json → Option ShowError
  | [] => none
  | item :: rest => (obstacle? l room item).or (obstacleItems? l room rest)

/-- A key takes a level like its value, but it meets no obstacle of its own. -/
def obstacleFields? (l : Limits) (room : Nat) : List (Text × Json) → Option ShowError
  | [] => none
  | (_, value) :: rest => (obstacle? l room value).or (obstacleFields? l room rest)

end

/-- A value as a message shows it, unless there is an obstacle. -/
def shown (l : Limits) (value : Json) : Except ShowError Text :=
  match value.obstacle? l l.showing with
  | some error => .error error
  | none => .ok value.literal

/-- A value on its own: a text bare, any other value as in a message. -/
def displayed (l : Limits) : Json → Except ShowError Text
  | .str s => .ok s
  | value => value.shown l

end Json

end ModuleAudit
