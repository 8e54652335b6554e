import MediaPairing.Path
import MediaPairing.FourCc

/-!
# The command's options

Arguments are read from the left, and the first thing that settles the outcome wins: a
request for help or for the version, or a mistake. An option takes its value after `=` or
from the next argument, which then must not begin with a hyphen, unless it is a hyphen
alone. No option may be given twice. Switches with one letter can be written in one
argument. After `--` nothing may follow.

Which options exclude each other is looked at last, when all arguments are read.

What a text means as a pattern is left to a `TestReader`. All that counts of a pattern is
which texts it occurs in.

* `Command.ofArgs` reads the arguments after the program's name.
-/

namespace MediaPairing

/-- A test on texts. -/
abbrev TextTest := String → Bool

/-- How a text is read as a pattern: the test that it spells, if it spells any. -/
abbrev TestReader := String → Option TextTest

/-- Which video nodes are acceptable. -/
structure Filters where
  capture : Bool := false
  m2m : Bool := false
  driver : Option TextTest := none
  card : Option TextTest := none
  format : Option FourCc := none

structure Options where
  devDir : Path
  sysDir : Path
  filters : Filters
  verbose : Bool
  quiet : Bool

inductive Command where
  | help
  | version
  | run (options : Options)

inductive UsageError where
  | unknownArgument (argument : Bytes)
  | unexpectedValue (argument : Bytes)
  | missingValue (argument : Bytes)
  | repeated (argument : Bytes)
  | invalidValue (value : Bytes)
  /-- Two options that exclude each other. -/
  | conflict

/-! ## What has been read -/

inductive ValueOption where
  | devDir
  | sysDir
  | driver
  | card
  | format
deriving DecidableEq

inductive Switch where
  | capture
  | m2m
  | verbose
  | quiet
deriving DecidableEq

/-- The options that were given so far. -/
structure Draft where
  devDir : Option Path := none
  sysDir : Option Path := none
  driver : Option TextTest := none
  card : Option TextTest := none
  format : Option FourCc := none
  switches : List Switch := []

namespace ValueOption

/-- The directory that a value names. It must not be empty. -/
def directory? (value : Bytes) : Option Path := if value.isEmpty then none else some ⟨value⟩

def pattern? (reader : TestReader) (value : Bytes) : Option TextTest :=
  (Utf8.decode? value).bind reader

def format? (value : Bytes) : Option FourCc := (Utf8.decode? value).bind FourCc.ofString?

/-- Whether the option was given. -/
def isGiven (d : Draft) : ValueOption → Bool
  | devDir => d.devDir.isSome
  | sysDir => d.sysDir.isSome
  | driver => d.driver.isSome
  | card => d.card.isSome
  | format => d.format.isSome

/-- The draft with the option's value, if the value is fit for the option. -/
def assign? (reader : TestReader) (d : Draft) (value : Bytes) : ValueOption → Option Draft
  | devDir => (directory? value).map fun dir => { d with devDir := some dir }
  | sysDir => (directory? value).map fun dir => { d with sysDir := some dir }
  | driver => (pattern? reader value).map fun p => { d with driver := some p }
  | card => (pattern? reader value).map fun p => { d with card := some p }
  | format => (format? value).map fun f => { d with format := some f }

end ValueOption

namespace Draft

def assign (reader : TestReader) (d : Draft) (argument : Bytes) (o : ValueOption)
    (value : Bytes) : Except UsageError Draft :=
  match o.assign? reader d value with
  | none => .error (.invalidValue value)
  | some d' => if o.isGiven d then .error (.repeated argument) else .ok d'

def switchOn (d : Draft) (argument : Bytes) (s : Switch) : Except UsageError Draft :=
  if d.switches.contains s then .error (.repeated argument)
  else .ok { d with switches := s :: d.switches }

def finish (d : Draft) : Except UsageError Command :=
  let on := d.switches.contains
  if (on .capture && on .m2m) || (on .verbose && on .quiet) then .error .conflict
  else
    .ok (.run
      { devDir := d.devDir.getD (.ofString "/dev")
        sysDir := d.sysDir.getD (.ofString "/sys")
        filters :=
          { capture := on .capture, m2m := on .m2m, driver := d.driver, card := d.card,
            format := d.format }
        verbose := on .verbose
        quiet := on .quiet })

end Draft

/-! ## Arguments -/

/-- What a name or letter after the hyphens asks for. -/
inductive Flag where
  | command (command : Command)
  | switch (switch : Switch)
  | value (option : ValueOption)

/-- The flags by their long names. -/
def Flag.ofName? (name : Bytes) : Option Flag :=
  match Utf8.decode? name with
  | some "dev-dir" => some (.value .devDir)
  | some "sys-dir" => some (.value .sysDir)
  | some "driver" => some (.value .driver)
  | some "card" => some (.value .card)
  | some "format" => some (.value .format)
  | some "capture" => some (.switch .capture)
  | some "m2m" => some (.switch .m2m)
  | some "verbose" => some (.switch .verbose)
  | some "quiet" => some (.switch .quiet)
  | some "help" => some (.command .help)
  | some "version" => some (.command .version)
  | _ => none

def hyphen : UInt8 := 0x2D

def equalsSign : UInt8 := 0x3D

/-- The letters of an argument with one hyphen, from the left. A letter may end the reading
with a command. -/
def readLetters (argument : Bytes) : Bytes → Draft → Except UsageError (Command ⊕ Draft)
  | [], d => .ok (.inr d)
  | b :: rest, d =>
    if b = 'v'.toNat.toUInt8 then do
      readLetters argument rest (← d.switchOn argument .verbose)
    else if b = 'q'.toNat.toUInt8 then do
      readLetters argument rest (← d.switchOn argument .quiet)
    else if b = 'h'.toNat.toUInt8 then .ok (.inl .help)
    else if b = 'V'.toNat.toUInt8 then .ok (.inl .version)
    else .error (.unknownArgument argument)

/-- Whether an argument can be the value of the option before it. -/
def isSeparateValue (argument : Bytes) : Bool :=
  argument.head? != some hyphen || argument == [hyphen]

/-- The name of an argument with two hyphens, and the value after `=` if there is one. -/
def splitName (argument : Bytes) : Bytes × Option Bytes :=
  match argument.dropWhile (· != equalsSign) with
  | [] => (argument, none)
  | _ :: value => (argument.takeWhile (· != equalsSign), some value)

def readArgs (reader : TestReader) : List Bytes → Draft → Except UsageError Command
  | [], d => d.finish
  | argument :: rest, d =>
    match argument with
    | 0x2D :: 0x2D :: body =>
      if body.isEmpty then
        match rest with
        | [] => d.finish
        | extra :: _ => .error (.unknownArgument extra)
      else
        let (name, value?) := splitName body
        match Flag.ofName? name, value? with
        | none, _ => .error (.unknownArgument argument)
        | some (.command c), none => .ok c
        | some (.switch s), none => do readArgs reader rest (← d.switchOn argument s)
        | some (.command _), some _ | some (.switch _), some _ =>
          .error (.unexpectedValue argument)
        | some (.value o), some value => do
          readArgs reader rest (← d.assign reader argument o value)
        | some (.value o), none =>
          match rest with
          | [] => .error (.missingValue argument)
          | value :: rest =>
            if isSeparateValue value then do
              readArgs reader rest (← d.assign reader argument o value)
            else .error (.missingValue argument)
    | 0x2D :: b :: letters => do
      match ← readLetters argument (b :: letters) d with
      | .inl c => .ok c
      | .inr d => readArgs reader rest d
    | _ => .error (.unknownArgument argument)

/-- The command that the arguments ask for. -/
def Command.ofArgs (reader : TestReader) (args : List Bytes) : Except UsageError Command :=
  readArgs reader args {}

end MediaPairing
