/-!
# Flags of the command line

A flag is given by its name after two hyphens, or by its letter after one; several letters may
share a hyphen. A value follows an equals sign or is the next argument, as long as that is no flag
itself. Reading stops at the first plain argument and at two hyphens that stand alone.

A flag is given once. A value that is the next argument is looked at when the next flag comes or
the arguments end, so that an unknown flag after it is found first.

Models how the command line library that the program uses reads flags.
-/

namespace Phrasebook

/-- The flags of all commands. -/
inductive Flag where
  | root
  | localePath
  | verbose
  | production
  | outDirectory
  | help
  | version
  deriving DecidableEq, Repr

/-- Why arguments make no command. -/
inductive ArgumentFault where
  | unknownArgument (argument : String)
  | unknownCommand (name : String)
  | missingValue (flag : Flag)
  | invalidValue (flag : Flag) (value : String)
  | unneededValue (flag : Flag)
  | repeated (flag : Flag)
  /-- The user asks how to use the program. -/
  | helpWanted
  /-- The user asks for the version of the program. -/
  | versionWanted
  deriving DecidableEq, Repr

namespace Flag

/-- The name of a flag. -/
def name : Flag → String
  | .root => "root"
  | .localePath => "locale-path"
  | .verbose => "verbose"
  | .production => "production"
  | .outDirectory => "out-dir"
  | .help => "help"
  | .version => "version"

/-- The letter of a flag. -/
def letter? : Flag → Option Char
  | .verbose => some 'v'
  | .help => some 'h'
  | .version => some 'V'
  | _ => none

/-- A value belongs to the flag. -/
def takesValue : Flag → Bool
  | .root => true
  | .localePath => true
  | .outDirectory => true
  | _ => false

/-- The value may be empty. -/
def allowsEmpty : Flag → Bool
  | .root => false
  | .outDirectory => false
  | _ => true

end Flag

/-- What flags were read so far. -/
structure FlagReading where
  /-- The flags and their values, which are empty for flags without one. -/
  given : List (Flag × String)
  /-- The flag whose value is the next argument, or was the last one. -/
  waiting : Option (Flag × Option String)
  deriving DecidableEq, Repr

/-- Where the reading of flags stops. -/
inductive FlagStop where
  | atEnd
  /-- At an argument that is no flag. -/
  | atPlain (argument : String) (rest : List String)
  /-- At two hyphens. -/
  | atHyphens (rest : List String)
  deriving DecidableEq, Repr

namespace FlagReading

/-- Nothing was read. -/
def start : FlagReading := ⟨[], none⟩

/-- The value of a flag that was given. -/
def value? (reading : FlagReading) (flag : Flag) : Option String :=
  (reading.given.find? (·.1 == flag)).map (·.2)

/-- The flag was given. -/
def has (reading : FlagReading) (flag : Flag) : Bool := (reading.value? flag).isSome

/-! ## Single flags -/

/-- Takes a flag with its value. -/
def take (reading : FlagReading) (flag : Flag) (value : String) :
    Except ArgumentFault FlagReading :=
  if reading.has flag then .error (.repeated flag)
  else if value = "" ∧ flag.allowsEmpty = false then .error (.invalidValue flag value)
  else .ok { reading with given := reading.given ++ [(flag, value)] }

/-- Takes the flag whose value was the next argument. -/
def settle (reading : FlagReading) : Except ArgumentFault FlagReading :=
  match reading.waiting with
  | none => .ok reading
  | some (flag, none) => .error (.missingValue flag)
  | some (flag, some value) => { reading with waiting := none }.take flag value

/-- Takes a flag without a value of its own. -/
def raise (reading : FlagReading) (flag : Flag) : Except ArgumentFault FlagReading := do
  let reading ← reading.settle
  match flag with
  | .help => .error .helpWanted
  | .version => .error .versionWanted
  | _ =>
    if flag.takesValue then .ok { reading with waiting := some (flag, none) }
    else reading.take flag ""

/-- Takes a flag with a value after an equals sign. -/
def assign (reading : FlagReading) (flag : Flag) (value : String) :
    Except ArgumentFault FlagReading := do
  if !flag.takesValue then throw (.unneededValue flag)
  (← reading.settle).take flag value

/-! ## Arguments -/

/-- Takes a flag by its name, and its value if there is one. -/
def takeNamed (flags : List Flag) (reading : FlagReading) (argument : String) :
    Except ArgumentFault FlagReading :=
  let text := argument.toList.drop 2
  let name := String.ofList (text.takeWhile (· != '='))
  match flags.find? (·.name == name), text.dropWhile (· != '=') with
  | none, _ => .error (.unknownArgument argument)
  | some flag, [] => reading.raise flag
  | some flag, _ :: value => reading.assign flag (String.ofList value)

/-- Takes flags by their letters. -/
def takeLetters (flags : List Flag) (reading : FlagReading) (letters : List Char) :
    Except ArgumentFault FlagReading :=
  letters.foldlM (fun reading letter =>
    match flags.find? (·.letter? == some letter) with
    | none => .error (.unknownArgument (String.ofList ['-', letter]))
    | some flag => reading.raise flag) reading

/-- Takes an argument that starts with a hyphen and holds more than hyphens. -/
def takeFlag? (flags : List Flag) (reading : FlagReading) (argument : String) :
    Option (Except ArgumentFault FlagReading) :=
  match argument.toList with
  | '-' :: '-' :: _ => some (takeNamed flags reading argument)
  | '-' :: first :: rest => some (takeLetters flags reading (first :: rest))
  | _ => none

/-- Takes a plain argument, where one is the value of a flag. -/
def takePlain? (reading : FlagReading) (argument : String) : Option FlagReading :=
  match reading.waiting with
  | some (flag, none) => some { reading with waiting := some (flag, some argument) }
  | _ => none

/-- Reads flags from the front of arguments. -/
def read (flags : List Flag) (reading : FlagReading) :
    List String → Except ArgumentFault (FlagReading × FlagStop)
  | [] => .ok (reading, .atEnd)
  | argument :: rest =>
    if argument = "--" then .ok (reading, .atHyphens rest)
    else
      match takeFlag? flags reading argument with
      | some (.error fault) => .error fault
      | some (.ok reading) => read flags reading rest
      | none =>
        match reading.takePlain? argument with
        | some reading => read flags reading rest
        | none => .ok (reading, .atPlain argument rest)

end FlagReading

end Phrasebook
