import ModuleAudit.Text.Basic

/-!
# Comparing texts

A text may begin or end with another one or hold it somewhere. A glob pattern
matches a whole text: `*` stands for any run of code points, `?` for exactly one,
and any other code point for itself. A pattern is compiled once, code point by
code point, and its parts are matched against the text in turn.

The edit distance of two texts is the least number of insertions, deletions and
substitutions of single code points that turn one into the other. The table of
distances between prefixes is computed row by row, one row per code point of the
first text.
-/

namespace ModuleAudit

namespace Text

/-! ## Occurrence -/

def occurs (pattern : Text) : Text → Bool
  | [] => pattern.isEmpty
  | c :: rest => pattern.isPrefixOf (c :: rest) || occurs pattern rest

/-- Whether `text` begins with `pattern`. -/
def begins (pattern text : Text) : Bool := pattern.isPrefixOf text

theorem begins_iff {pattern text : Text} : begins pattern text = true ↔ pattern <+: text :=
  List.isPrefixOf_iff_prefix

theorem begins_append (pattern rest : Text) : begins pattern (pattern ++ rest) = true :=
  begins_iff.2 (List.prefix_append pattern rest)

theorem head?_of_begins {pattern text : Text} (opens : begins pattern text = true)
    (nonempty : pattern ≠ []) : text.head? = pattern.head? := by
  obtain ⟨rest, rfl⟩ := begins_iff.1 opens
  cases pattern with
  | nil => exact absurd rfl nonempty
  | cons => rfl

/-- Whether `text` ends with `pattern`. -/
def ends (pattern text : Text) : Bool := pattern.isSuffixOf text

/-- Whether one of the patterns occurs in `text`. -/
def occursAny (patterns : List Text) (text : Text) : Bool :=
  patterns.any fun pattern => occurs pattern text

/-- Occurrence is the infix relation. -/
theorem occurs_iff (pattern text : Text) :
    occurs pattern text = true ↔ pattern <:+: text := by
  induction text with
  | nil => cases pattern <;> simp [occurs]
  | cons c rest ih =>
    simp [occurs, ih, List.infix_cons_iff]

/-! ## Distance -/

/-- The rest of a row of the distance table. `left` is the entry just written,
and `above` lists the previous row from the entry above `left` on. -/
def nextRow (c : CodePoint) (left : Nat) : Text → List Nat → List Nat
  | d :: ds, diagonal :: up :: ups =>
    let cost := if c = d then diagonal else diagonal + 1
    let entry := min cost (min (up + 1) (left + 1))
    entry :: nextRow c entry ds (up :: ups)
  | _, _ => []

/-- The last row of the distance table, when `row` is the row before the first
code point of the remaining text. -/
def lastRow (target : Text) : Text → List Nat → List Nat
  | [], row => row
  | c :: rest, row =>
    let first := row.headD 0 + 1
    lastRow target rest (first :: nextRow c first target row)

/-- The edit distance of two texts. -/
def distance (source target : Text) : Nat :=
  (lastRow target source (List.range (target.length + 1))).getLastD 0

end Text

namespace Glob

/-! ## Patterns -/

/-- A part of a compiled pattern. -/
inductive Part where
  | run
  | one
  | itself (c : CodePoint)
deriving DecidableEq, Repr

def Part.of (c : CodePoint) : Part :=
  if c = '*' then .run else if c = '?' then .one else .itself c

/-- The parts of a pattern, one for each of its code points. -/
def compile (pattern : Text) : List Part := pattern.map Part.of

/-- Whether some end of the text satisfies a test. -/
def anyEnd (test : Text → Bool) : Text → Bool
  | [] => test []
  | c :: rest => test (c :: rest) || anyEnd test rest

/-- Whether a compiled pattern matches a whole text. -/
def fullMatch : List Part → Text → Bool
  | [], text => text.isEmpty
  | .run :: parts, text => anyEnd (fullMatch parts) text
  | .one :: parts, _ :: rest => fullMatch parts rest
  | .itself p :: parts, c :: rest => p = c && fullMatch parts rest
  | _ :: _, [] => false

def isMatch (pattern text : Text) : Bool := fullMatch (compile pattern) text

def anyMatch (patterns : List Text) (text : Text) : Bool :=
  patterns.any fun pattern => isMatch pattern text

end Glob

end ModuleAudit
