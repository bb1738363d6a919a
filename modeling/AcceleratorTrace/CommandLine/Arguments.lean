import AcceleratorTrace.Chip
import AcceleratorTrace.Number.Digits
import AcceleratorTrace.Text.Control

/-!
# Command line arguments

Options stand anywhere, values follow or are attached, flags of one letter may
be joined, and after `--` everything is positional.  A value that follows its
option is only looked at when the next known argument is reached, so an unknown
argument is reported before a bad value that stands in front of it.
-/

namespace AcceleratorTrace

/-- What takes a value. -/
inductive Slot where
  | runDirectory
  | workers
  | chip
  | errorBudget
  deriving DecidableEq, Repr

/-- How messages name a slot. -/
def Slot.usage : Slot → String
  | .runDirectory => "<RUN_DIR>"
  | .workers => "--workers <WORKERS>"
  | .chip => "--chip <CHIP>"
  | .errorBudget => "--error-budget <ERROR_BUDGET>"

/-- What stands on its own. -/
inductive Flag where
  | verbose
  | help
  | version
  deriving DecidableEq, Repr

def Flag.usage : Flag → String
  | .verbose => "--verbose"
  | .help => "--help"
  | .version => "--version"

/-- A named argument. -/
inductive Switch where
  | slot (slot : Slot)
  | flag (flag : Flag)
  deriving DecidableEq, Repr

namespace Switch

/-- The argument with this long name. -/
def ofLong? (name : String) : Option Switch :=
  if name == "workers" then some (.slot .workers)
  else if name == "chip" then some (.slot .chip)
  else if name == "error-budget" then some (.slot .errorBudget)
  else if name == "verbose" then some (.flag .verbose)
  else if name == "help" then some (.flag .help)
  else if name == "version" then some (.flag .version)
  else none

/-- The argument with this letter. -/
def ofShort? : Char → Option Switch
  | 'w' => some (.slot .workers)
  | 'v' => some (.flag .verbose)
  | 'h' => some (.flag .help)
  | 'V' => some (.flag .version)
  | _ => none

end Switch

/-- Why the arguments cannot be understood. -/
inductive UsageError where
  | unexpected (argument : String)
  | repeated (usage : String)
  | missingValue (slot : Slot)
  | invalidValue (slot : Slot) (value reason : String)
  | unwantedValue (flag : Flag) (value : String)
  | missingRunDirectory
  deriving DecidableEq, Repr

namespace UsageError

/-- What the user wrote and should not have. -/
def wrong (text : String) : String := "'" ++ rendered "33" text ++ "'"

/-- What the user should write as it stands. -/
def literal (text : String) : String := "'" ++ rendered "1" text ++ "'"

/-- The message, with the words of the user and of the program set apart. -/
def message : UsageError → String
  | .unexpected argument => s!"unexpected argument {wrong argument} found"
  | .repeated usage => s!"the argument {literal usage} cannot be used multiple times"
  | .missingValue slot => s!"a value is required for {literal slot.usage} but none was supplied"
  | .invalidValue slot value reason =>
      s!"invalid value {wrong value} for {literal slot.usage}: {reason}"
  | .unwantedValue flag value =>
      s!"unexpected value {wrong value} for {literal flag.usage} found; no more were expected"
  | .missingRunDirectory => "the following required arguments were not provided:"

/-- The text for the user: the message and where to find help. -/
def text (error : UsageError) : String :=
  rendered "1;31" "error:" ++ " " ++ error.message ++
    s!"\n\nFor more information, try {literal Flag.help.usage}."

end UsageError

/-- Why parsing stops early. -/
inductive Halt where
  | help
  | version
  | misuse (error : UsageError)
  deriving DecidableEq, Repr

/-- The arguments understood so far. -/
structure Arguments where
  runDirectory : Option String := none
  workers : Option Nat := none
  chip : Option Chip := none
  errorBudget : Option Nat := none
  verbose : Bool := false
  deriving DecidableEq, Repr

namespace Arguments

/-- Reads digits as a 64-bit count.  Digits are taken from the left, so a
number that is too large is noticed before a later character that is no
digit. -/
def countOfDigits : (value : Nat) → List Char → Except String Nat
  | value, [] => .ok value
  | value, c :: rest =>
      if c.isDigit then
        let next := 10 * value + digitValue c
        if next < UInt64.size then countOfDigits next rest
        else .error "number too large to fit in target type"
      else .error "invalid digit found in string"

/-- Reads a count: digits, with a plus sign allowed in front. -/
def parseCount (text : String) : Except String Nat :=
  match text.toList with
  | [] => .error "cannot parse integer from empty string"
  | ['+'] => .error "invalid digit found in string"
  | '+' :: digits => countOfDigits 0 digits
  | digits => countOfDigits 0 digits

/-- Whether a slot has its value. -/
def has (arguments : Arguments) : Slot → Bool
  | .runDirectory => arguments.runDirectory.isSome
  | .workers => arguments.workers.isSome
  | .chip => arguments.chip.isSome
  | .errorBudget => arguments.errorBudget.isSome

def invalid (slot : Slot) (value reason : String) : Halt :=
  .misuse (.invalidValue slot value reason)

/-- Reads a value into its slot. -/
def fill (arguments : Arguments) (slot : Slot) (value : String) : Except Halt Arguments :=
  match slot with
  | .runDirectory =>
      if value == "" then .error (.misuse (.missingValue slot))
      else .ok { arguments with runDirectory := some value }
  | .workers =>
      match parseCount value with
      | .ok count => .ok { arguments with workers := some count }
      | .error reason => .error (invalid slot value reason)
  | .chip =>
      match Chip.parse value with
      | .ok chip => .ok { arguments with chip := some chip }
      | .error unknown => .error (invalid slot value unknown.message)
  | .errorBudget =>
      match parseCount value with
      | .ok count => .ok { arguments with errorBudget := some count }
      | .error reason => .error (invalid slot value reason)

/-- Reads a value, or the lack of one, into its slot.  A slot takes one value
only. -/
def supply (arguments : Arguments) (slot : Slot) (value? : Option String) :
    Except Halt Arguments :=
  match value? with
  | none => .error (.misuse (.missingValue slot))
  | some value =>
      if arguments.has slot then .error (.misuse (.repeated slot.usage))
      else arguments.fill slot value

end Arguments

/-- Where parsing stands. -/
structure Parsing where
  arguments : Arguments := {}
  /-- A slot that was named, and its value once that was seen. -/
  pending : Option (Slot × Option String) := none
  /-- Whether a positional argument was seen. -/
  positional : Bool := false
  /-- Whether only positional arguments follow. -/
  trailing : Bool := false
  deriving DecidableEq, Repr

namespace Parsing

/-- Reads the pending value. -/
def settle (parsing : Parsing) : Except Halt Parsing :=
  match parsing.pending with
  | none => .ok parsing
  | some (slot, value?) =>
      match parsing.arguments.supply slot value? with
      | .error halt => .error halt
      | .ok arguments => .ok { parsing with arguments, pending := none }

/-- The slot whose value comes next. -/
def awaited? (parsing : Parsing) : Option Slot :=
  match parsing.pending with
  | some (slot, none) => some slot
  | _ => none

/-- Takes the name of a slot whose value follows. -/
def await (parsing : Parsing) (slot : Slot) : Except Halt Parsing :=
  match parsing.settle with
  | .error halt => .error halt
  | .ok parsing => .ok { parsing with pending := some (slot, none) }

/-- Takes a value attached to the name of its slot. -/
def attach (parsing : Parsing) (slot : Slot) (value : String) : Except Halt Parsing :=
  match parsing.settle with
  | .error halt => .error halt
  | .ok parsing => settle { parsing with pending := some (slot, some value) }

/-- Takes a flag. -/
def raise (parsing : Parsing) (flag : Flag) : Except Halt Parsing :=
  match parsing.settle with
  | .error halt => .error halt
  | .ok parsing =>
      match flag with
      | .help => .error .help
      | .version => .error .version
      | .verbose =>
          if parsing.arguments.verbose then .error (.misuse (.repeated flag.usage))
          else .ok { parsing with arguments := { parsing.arguments with verbose := true } }

/-- Takes an argument that is no name. -/
def place (parsing : Parsing) (argument : String) : Except Halt Parsing :=
  if parsing.positional then .error (.misuse (.unexpected argument))
  else
    match parsing.settle with
    | .error halt => .error halt
    | .ok parsing =>
        .ok { parsing with pending := some (.runDirectory, some argument), positional := true }

/-- Takes an argument that starts with two dashes, without them. -/
def long (parsing : Parsing) (body : String) : Except Halt Parsing :=
  let name := String.ofList (body.toList.takeWhile (· != '='))
  let value? := match body.toList.dropWhile (· != '=') with
    | [] => none
    | _ :: value => some (String.ofList value)
  match Switch.ofLong? name, value? with
  | none, _ => .error (.misuse (.unexpected ("--" ++ name)))
  | some (.slot slot), none => parsing.await slot
  | some (.slot slot), some value => parsing.attach slot value
  | some (.flag flag), none => parsing.raise flag
  | some (.flag flag), some value => .error (.misuse (.unwantedValue flag value))

/-- Takes letters joined behind one dash. -/
def letters (parsing : Parsing) : List Char → Except Halt Parsing
  | [] => .ok parsing
  | c :: rest =>
      match Switch.ofShort? c with
      | none => .error (.misuse (.unexpected (String.ofList ['-', c])))
      | some (.flag flag) =>
          match parsing.raise flag with
          | .error halt => .error halt
          | .ok parsing => letters parsing rest
      | some (.slot slot) =>
          match rest with
          | [] => parsing.await slot
          | '=' :: value => parsing.attach slot (String.ofList value)
          | value => parsing.attach slot (String.ofList value)

/-- Takes an argument that is neither a name nor in a trailing place. -/
def value (parsing : Parsing) (argument : String) : Except Halt Parsing :=
  match parsing.awaited? with
  | some slot => .ok { parsing with pending := some (slot, some argument) }
  | none => parsing.place argument

/-- Takes the next argument. -/
def take (parsing : Parsing) (argument : String) : Except Halt Parsing :=
  if parsing.trailing then parsing.place argument
  else
    match argument.toList with
    | ['-', '-'] => .ok { parsing with trailing := true }
    | '-' :: '-' :: body => parsing.long (String.ofList body)
    | '-' :: c :: rest => parsing.letters (c :: rest)
    | _ => parsing.value argument

end Parsing

/-- What the user asks for. -/
structure Request where
  runDirectory : String
  workers : Nat
  chip : Option Chip
  errorBudget : Option Nat
  verbose : Bool
  deriving DecidableEq, Repr

/-- Understands the arguments. -/
def Request.parse (arguments : List String) : Except Halt Request := do
  let parsing ← arguments.foldlM Parsing.take {}
  let parsing ← parsing.settle
  let found := parsing.arguments
  match found.runDirectory with
  | none => .error (.misuse .missingRunDirectory)
  | some runDirectory =>
      return { runDirectory, workers := found.workers.getD 4, chip := found.chip,
               errorBudget := found.errorBudget, verbose := found.verbose }

end AcceleratorTrace
