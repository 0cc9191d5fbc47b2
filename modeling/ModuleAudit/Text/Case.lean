import ModuleAudit.Text.CaseTable

/-!
# Small letters

Lower-casing of a whole text. Each character has its small letters on its own,
with one exception: a capital sigma at the end of a word becomes the final
sigma, so the function carries the characters already passed.
-/

namespace ModuleAudit.Text

/-- Whether a code point is passed over when the end of a word is sought. -/
def isCaseIgnorable (c : CodePoint) : Bool := caseIgnorableRanges.contains c

/-- Whether a code point has a case and counts as a letter of a word. -/
def isCased (c : CodePoint) : Bool := casedRanges.contains c

/-- The small letters of one code point, read without its neighbours. -/
def lowerPoint (c : CodePoint) : Text :=
  if c.value < 128 then [c.mapChar Char.toLower]
  else if c.value = 0x130 then ['i', .ofNat 0x307]
  else
    match lowerRuns.find? fun run => run.contains c.value with
    | some run => [.ofNat (run.shift + c.value).toNat]
    | none => [c]

/-- Whether a place ends a word: a letter with a case precedes it and none
follows. `before` lists the preceding characters, the nearest first. -/
def endsWord (before after : Text) : Bool :=
  (match before.dropWhile isCaseIgnorable with
    | c :: _ => isCased c
    | [] => false) &&
  (match after.dropWhile isCaseIgnorable with
    | c :: _ => !isCased c
    | [] => true)

/-- Lower-case a text whose preceding characters are `before`, the nearest
first. -/
def lowerAfter (before : Text) : Text → Text
  | [] => []
  | c :: rest =>
    let small :=
      if c = 'Σ' then [.ofChar (if endsWord before rest then 'ς' else 'σ')] else lowerPoint c
    small ++ lowerAfter (c :: before) rest

def lower (text : Text) : Text := lowerAfter [] text

/-- Put an underscore between a small letter or digit and a capital that
follows it. Only ASCII letters and digits make such a boundary. -/
def splitHumps : Text → Text
  | [] => []
  | [c] => [c]
  | a :: b :: rest =>
    if (a.is Char.isLower || a.is Char.isDigit) && b.is Char.isUpper then
      a :: .ofChar '_' :: splitHumps (b :: rest)
    else a :: splitHumps (b :: rest)

/-- Respell a camel-case key with underscores and small letters. -/
def snakeCase (key : Text) : Text := lower (splitHumps key)

end ModuleAudit.Text
