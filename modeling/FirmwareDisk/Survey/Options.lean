import FirmwareDisk.Text.Decimal

set_option autoImplicit false

namespace FirmwareDisk.Survey

/-- What a survey is to look at, and how. -/
structure Options where
  images : List String := []
  floppies : List String := []
  optical : Option String := none
  boot : Option String := none
  fixedDiskCount : Option Nat := none
  noExtensions : Bool := false
  maxTransfer : Option Nat := none
  json : Bool := false
  verbose : Bool := false
deriving DecidableEq, Repr

/-- An option that has no value. -/
inductive Flag where
  | noExtensions
  | json
  | verbose
deriving DecidableEq, Repr

/-- An option that has a value. -/
inductive Setting where
  | floppy
  | optical
  | boot
  | fixedDiskCount
  | maxTransfer
deriving DecidableEq, Repr

/-- Why a command line cannot be followed. -/
inductive UsageError where
  | unknown (argument : String)
  | missingValue (argument : String)
  | repeated
  | badValue (text : String)
deriving DecidableEq, Repr

/-- The text of an error. -/
def UsageError.message : UsageError → String
  | .unknown argument => s!"unknown option: {argument}"
  | .missingValue argument => s!"option without a value: {argument}"
  | .repeated => "an option was given more than once"
  | .badValue text => s!"not a valid value: {text}"

def Flag.names : List (String × Flag) :=
  [("no-extensions", .noExtensions), ("json", .json), ("verbose", .verbose)]

def Setting.names : List (String × Setting) :=
  [("floppy", .floppy), ("cdrom", .optical), ("boot", .boot),
    ("fixed-disk-count", .fixedDiskCount), ("max-transfer", .maxTransfer)]

/-- What an argument is. -/
inductive Item where
  | image (path : String)
  | flags (flags : List Flag)
  | given (setting : Setting) (text : String)
  | awaiting (setting : Setting)
  | separator
  | unknown
deriving DecidableEq, Repr

namespace Item

/-- What a long option is, given the text behind its two dashes. -/
def ofLong (text : List Char) : Item :=
  let name := String.ofList (text.takeWhile (· != '='))
  match Flag.names.lookup name, Setting.names.lookup name, text.dropWhile (· != '=') with
  | some flag, _, [] => .flags [flag]
  | none, some setting, [] => .awaiting setting
  | none, some setting, _ :: value => .given setting (String.ofList value)
  | _, _, _ => .unknown

/-- What an argument is. -/
def ofArgument (argument : String) : Item :=
  match argument.toList with
  | ['-', '-'] => .separator
  | '-' :: '-' :: text => ofLong text
  | '-' :: letter :: letters =>
    if (letter :: letters).all (· == 'v') then
      .flags ((letter :: letters).map fun _ => .verbose)
    else .unknown
  | _ => .image argument

end Item

def canBeValue (argument : String) : Bool :=
  argument = "-" || !argument.toList.head? = some '-'

namespace Options

def path (text : String) : Except UsageError String :=
  if text.isEmpty then .error (.badValue text) else .ok text

def once {α : Type} (old : Option α) (value : α) : Except UsageError (Option α) :=
  if old.isSome then .error .repeated else .ok (some value)

/-- A number below a limit. -/
def numberBelow (limit : Nat) (value : Option Int) (text : String) : Except UsageError Nat :=
  match value with
  | some value =>
    if 0 ≤ value ∧ value < limit then .ok value.toNat else .error (.badValue text)
  | none => .error (.badValue text)

def addImage (options : Options) (text : String) : Except UsageError Options := do
  return { options with images := options.images ++ [← path text] }

/-- Sets a flag. -/
def setFlag (options : Options) (flag : Flag) : Except UsageError Options :=
  match flag with
  | .noExtensions =>
    if options.noExtensions then .error .repeated else .ok { options with noExtensions := true }
  | .json => if options.json then .error .repeated else .ok { options with json := true }
  | .verbose => if options.verbose then .error .repeated else .ok { options with verbose := true }

/-- Gives an option its value. -/
def set (options : Options) (setting : Setting) (text : String) : Except UsageError Options := do
  match setting with
  | .floppy => return { options with floppies := options.floppies ++ [← path text] }
  | .optical => return { options with optical := ← once options.optical (← path text) }
  | .boot => return { options with boot := ← once options.boot text }
  | .fixedDiskCount =>
    let count ← numberBelow 256 (Decimal.signed? text.toList) text
    return { options with fixedDiskCount := ← once options.fixedDiskCount count }
  | .maxTransfer =>
    let sectors ← numberBelow UInt64.size ((Decimal.unsigned? text.toList).map Int.ofNat) text
    return { options with maxTransfer := ← once options.maxTransfer sectors }

/-- The options with some arguments followed. -/
def follow (options : Options) : List String → Except UsageError Options
  | [] => .ok options
  | argument :: rest =>
    match Item.ofArgument argument with
    | .image path => do follow (← options.addImage path) rest
    | .flags flags => do follow (← flags.foldlM setFlag options) rest
    | .given setting text => do follow (← options.set setting text) rest
    | .separator => rest.foldlM addImage options
    | .unknown => .error (.unknown argument)
    | .awaiting setting =>
      match rest with
      | [] => .error (.missingValue argument)
      | text :: later =>
        if canBeValue text then do follow (← options.set setting text) later
        else .error (.missingValue argument)

/-- The options of a command line. -/
def ofArguments (arguments : List String) : Except UsageError Options :=
  follow {} arguments

def diskCount (options : Options) : Nat :=
  options.fixedDiskCount.getD 16

end Options

end FirmwareDisk.Survey
