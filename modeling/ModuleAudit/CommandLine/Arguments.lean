import ModuleAudit.Text.Quoted
import ModuleAudit.Text.Words

/-!
# Command-line arguments

The command takes an input file, an output file and a few options. Options may
be shortened to an unambiguous beginning, a value may follow its option or be
attached with an equals sign, and single-letter options may be written together.
An attached `--` stands for no value. Both files are taken from the first run of
words between options; a word behind a later option is not recognised. After `--`
everything is a word.
-/

namespace ModuleAudit

inductive Flag where
  | help
  | root
  | config
  | packageJson
  | verbose
deriving DecidableEq, Repr

namespace Flag

def spellings : Flag → List Text
  | .help => ["-h", "--help"]
  | .root => ["--root"]
  | .config => ["--config"]
  | .packageJson => ["--package-json"]
  | .verbose => ["--verbose", "-v"]

def all : List Flag := [.help, .root, .config, .packageJson, .verbose]

/-- Every way to write an option, with the option. -/
def table : List (Text × Flag) :=
  all.flatMap fun flag => flag.spellings.map fun spelling => (spelling, flag)

def ofSpelling? (spelling : Text) : Option Flag :=
  (table.find? fun e => e.1 = spelling).map Prod.snd

def dash : CodePoint := '-'

/-- The option that a single letter stands for. -/
def ofLetter? (c : CodePoint) : Option Flag := ofSpelling? [dash, c]

def takesValue : Flag → Bool
  | .help => false
  | .verbose => false
  | _ => true

def label (flag : Flag) : Text := List.intercalate "/" flag.spellings

end Flag

/-- Why the command is not run. -/
inductive Refusal where
  | help
  | ambiguous (argument : Text) (spellings : List Text)
  | expectsArgument (flag : Flag)
  | ignoresArgument (flag : Flag) (argument : Text)
  | unrecognized (arguments : List Text)
deriving DecidableEq, Repr

def Refusal.message : Refusal → Text
  | .help => ""
  | .ambiguous argument spellings =>
    "ambiguous option: " ++ argument ++ " could match " ++ List.intercalate ", " spellings
  | .expectsArgument flag => "argument " ++ flag.label ++ ": expected one argument"
  | .ignoresArgument flag argument =>
    "argument " ++ flag.label ++ ": ignored explicit argument " ++ Text.quoted argument
  | .unrecognized arguments =>
    "unrecognized arguments: " ++ List.intercalate " " arguments

/-- What an argument is. A value may be attached to an option behind an equals
sign. What follows a single letter, with or without an equals sign, is more
letters. -/
inductive Token where
  | word (text : Text)
  | divider
  | option (flag : Flag)
  | attached (flag : Flag) (value : Text)
  | cluster (flag : Flag) (letters : Text)
  | unknown (text : Text)
deriving DecidableEq, Repr

/-- The argument behind which everything is a word. -/
def dividerText : Text := "--"

namespace Token

def splitEquals (text : Text) : Text × Option Text :=
  match text.span fun c => c ≠ CodePoint.ofChar '=' with
  | (before, _ :: after) => (before, some after)
  | (before, []) => (before, none)

/-- Whether a text is a negative number: digits, perhaps with a point before the
last of them. One line end behind it is tolerated. -/
def isNegativeNumber (text : Text) : Bool :=
  match text with
  | [] => false
  | c :: rest =>
    let digits := if rest.getLast? = some (.ofChar '\n') then rest.dropLast else rest
    c = Flag.dash &&
      match digits.dropWhile Text.isDigit with
      | [] => !digits.isEmpty
      | d :: fraction => d = '.' && !fraction.isEmpty && fraction.all Text.isDigit

/-- An argument that is no option of the command: a word if it could be a value,
else unknown. -/
def plain (argument : Text) : Token :=
  if isNegativeNumber argument || argument.contains (.ofChar ' ') then .word argument
  else .unknown argument

/-- An option with what is attached to it by an equals sign. -/
def withValue (flag : Flag) (short : Bool) : Option Text → Token
  | none => .option flag
  | some value =>
    if short then .cluster flag value else .attached flag value

/-- An argument with two dashes in front that is no exact spelling: an option if
it begins exactly one spelling. -/
def abbreviated (argument : Text) : Except Refusal Token :=
  let (name, value) := splitEquals argument
  match Flag.table.filter fun e => name.isPrefixOf e.1 with
  | [] => .ok (plain argument)
  | [e] => .ok (withValue e.2 false value)
  | several => .error (.ambiguous argument (several.map Prod.fst))

/-- What an argument before the divider is. -/
def ofArgument (argument : Text) : Except Refusal Token :=
  match argument with
  | first :: second :: rest =>
    if first ≠ Flag.dash then .ok (.word argument)
    else
      match Flag.ofSpelling? argument with
      | some flag => .ok (.option flag)
      | none =>
        let (name, value) := splitEquals argument
        match value, Flag.ofSpelling? name with
        | some value, some flag => .ok (withValue flag (second ≠ Flag.dash) (some value))
        | _, _ =>
          if second = Flag.dash then abbreviated argument
          else
            match Flag.ofLetter? second with
            | some flag => .ok (.cluster flag rest)
            | none => .ok (plain argument)
  | _ => .ok (.word argument)

def ofArguments : List Text → Except Refusal (List Token)
  | [] => .ok []
  | argument :: rest =>
    if argument = dividerText then .ok (.divider :: rest.map .word)
    else do
      let token ← ofArgument argument
      let tokens ← ofArguments rest
      .ok (token :: tokens)

end Token

/-- How far the two files have been taken. -/
inductive Progress where
  | none
  | input
  | both
  | closed
deriving DecidableEq, Repr

structure Arguments where
  input : Option Text := none
  output : Option Text := none
  root : Option Text := none
  config : Option Text := none
  packageJson : Option Text := none
  verbose : Bool := false
deriving DecidableEq, Repr

/-- The arguments read so far, and those that have no meaning. -/
structure ArgumentState where
  arguments : Arguments := {}
  progress : Progress := .none
  extras : List Text := []

namespace ArgumentState

/-- End a run of words. Once a word has been taken no later run is used. -/
def endRun (s : ArgumentState) : ArgumentState :=
  if s.progress = .none then s else { s with progress := .closed }

/-- Take a word: for the input, for the output, or as one without meaning. A
second divider in the place of the output leaves the default. -/
def takeWord (s : ArgumentState) (text : Text) : ArgumentState :=
  match s.progress with
  | .none => { s with arguments := { s.arguments with input := some text }, progress := .input }
  | .input =>
    let output := if text = dividerText then none else some text
    { s with arguments := { s.arguments with output }, progress := .both }
  | _ => { s with extras := s.extras ++ [text], progress := .closed }

/-- Take the divider, which has a meaning only next to words that are taken. -/
def takeDivider (s : ArgumentState) : ArgumentState :=
  match s.progress with
  | .closed => { s with extras := s.extras ++ [dividerText] }
  | .both => { s with progress := .closed }
  | _ => s

def takeFlag (s : ArgumentState) (flag : Flag) : Except Refusal ArgumentState :=
  match flag with
  | .help => .error .help
  | .verbose => .ok { s with arguments := { s.arguments with verbose := true } }
  | _ => .error (.expectsArgument flag)

/-- Take an option with its value. The divider as a value stands for none, also
where the option had one before. -/
def takeValue (s : ArgumentState) (flag : Flag) (value : Text) :
    Except Refusal ArgumentState :=
  let kept := if value = dividerText then none else some value
  match flag with
  | .root => .ok { s with arguments := { s.arguments with root := kept } }
  | .config => .ok { s with arguments := { s.arguments with config := kept } }
  | .packageJson => .ok { s with arguments := { s.arguments with packageJson := kept } }
  | _ => .error (.ignoresArgument flag value)

/-- The options that single letters written together stand for, the first of
which is known. A letter without an option is held against the option before it,
with all that follows. -/
def letters (flag : Flag) : Text → Except Refusal (List Flag)
  | [] => .error (.ignoresArgument flag "")
  | c :: rest =>
    match Flag.ofLetter? c, rest with
    | none, _ => .error (.ignoresArgument flag (c :: rest))
    | some next, [] => .ok [flag, next]
    | some next, d :: more => do
      let flags ← letters next (d :: more)
      .ok (flag :: flags)

/-- Take options written together: all of them, or none if a letter is unknown. -/
def takeLetters (s : ArgumentState) (flag : Flag) (text : Text) :
    Except Refusal ArgumentState := do
  let flags ← letters flag text
  flags.foldlM takeFlag s

def takeAll (s : ArgumentState) : List Token → Except Refusal ArgumentState
  | [] => .ok s
  | .word text :: rest => takeAll (s.takeWord text) rest
  | .divider :: rest => takeAll s.takeDivider rest
  | .unknown text :: rest => takeAll { s.endRun with extras := s.extras ++ [text] } rest
  | .attached flag value :: rest => do
    let s ← s.endRun.takeValue flag value
    takeAll s rest
  | .cluster flag text :: rest => do
    let s ← s.endRun.takeLetters flag text
    takeAll s rest
  | .option flag :: .word value :: rest =>
    if flag.takesValue then do
      let s ← s.endRun.takeValue flag value
      takeAll s rest
    else do
      let s ← s.endRun.takeFlag flag
      takeAll (s.takeWord value) rest
  | .option flag :: rest => do
    let s ← s.endRun.takeFlag flag
    takeAll s rest

end ArgumentState

/-- Read the arguments of the command. -/
def Arguments.parse (arguments : List Text) : Except Refusal Arguments := do
  let tokens ← Token.ofArguments arguments
  let s ← ArgumentState.takeAll {} tokens
  if s.extras.isEmpty then .ok s.arguments else .error (.unrecognized s.extras)

end ModuleAudit
