/-!
# Command line arguments

A command line is read one argument at a time. An argument that starts with two dashes is a long
option, whose value may follow an equals sign; one that starts with a single dash holds short
options, of which the last may have its value attached; two dashes alone end the options. Everything
else is a value of the option before it, or stands on its own.

An argument that looks like an option is never taken as the value of another. An option that takes
one value, or none, may be given once.
-/

namespace Eligibility.Command

/-- How an option behaves. -/
inductive OptionKind where
  /-- It has no value. -/
  | flag
  /-- It has a value and may be given once. -/
  | single
  /-- It has a value and may be given several times. -/
  | repeated
  /-- It asks for help, and nothing else is done. -/
  | help
  /-- It asks for the version, and nothing else is done. -/
  | version
deriving DecidableEq, Repr

/-- An option. -/
structure OptionSpec where
  short : Option Char
  long : String
  kind : OptionKind
deriving DecidableEq, Repr

/-- What can be given at one level of the command line. -/
structure Level where
  options : List OptionSpec
  /-- The number of arguments that may stand on their own. -/
  positionals : Nat
  /-- The commands, each of which starts a level of its own. -/
  commands : List String
deriving DecidableEq, Repr

/-- Why no command is run. -/
inductive Stop where
  /-- The arguments are not understood. -/
  | usage
  | help
  | version
deriving DecidableEq, Repr

/-- What was found at a level. -/
structure Matches where
  /-- The options given, each with its value; a flag has the empty value. -/
  options : List (String × String) := []
  /-- The arguments that stand on their own. -/
  positionals : List String := []
  /-- The command, and the arguments that follow it. -/
  command : Option (String × List String) := none
deriving DecidableEq, Repr

namespace Matches

/-- Was this option given? -/
def has (found : Matches) (long : String) : Bool := found.options.any fun entry => entry.1 == long

/-- The values of an option in the order given. -/
def values (found : Matches) (long : String) : List String :=
  found.options.filterMap fun entry => if entry.1 == long then some entry.2 else none

/-- The value of an option that may be given once. -/
def value? (found : Matches) (long : String) : Option String := (found.values long).head?

/-- Adds an option with its value; one that may be given once must not be there yet. -/
def add (found : Matches) (option : OptionSpec) (value : String) : Except Stop Matches :=
  if option.kind != .repeated && found.has option.long then .error .usage
  else .ok { found with options := found.options ++ [(option.long, value)] }

end Matches

namespace Level

/-- Do the characters of an argument look like options? One dash alone does not. -/
def looksLikeOption : List Char → Bool
  | '-' :: _ :: _ => true
  | _ => false

/-- Meets an option without a value: it is added, is still to get its value, or ends the reading. -/
def meet (found : Matches) (option : OptionSpec) : Except Stop (Matches × Option OptionSpec) :=
  match option.kind with
  | .flag => (found.add option "").map fun found => (found, none)
  | .single | .repeated => .ok (found, some option)
  | .help => .error .help
  | .version => .error .version

/-- Reads a long option: its name up to the equals sign, and the value behind it. -/
def readLong (level : Level) (found : Matches) (cs : List Char) :
    Except Stop (Matches × Option OptionSpec) :=
  let name := String.ofList (cs.takeWhile (· != '='))
  match level.options.find? fun option => option.long == name with
  | none => .error .usage
  | some option =>
    match cs.dropWhile (· != '=') with
    | [] => meet found option
    | _ :: value =>
      if option.kind = .single ∨ option.kind = .repeated then
        (found.add option (String.ofList value)).map fun found => (found, none)
      else .error .usage

/-- Reads short options behind one dash. The value of an option may be attached, with an equals sign
between them or without. -/
def readShort (level : Level) (found : Matches) :
    List Char → Except Stop (Matches × Option OptionSpec)
  | [] => .ok (found, none)
  | c :: rest =>
    match level.options.find? fun option => option.short == some c with
    | none => .error .usage
    | some option =>
      if option.kind = .single ∨ option.kind = .repeated then
        match rest with
        | [] => .ok (found, some option)
        | '=' :: value => (found.add option (String.ofList value)).map fun found => (found, none)
        | value => (found.add option (String.ofList value)).map fun found => (found, none)
      else
        match meet found option with
        | .error stop => .error stop
        | .ok (found, _) => level.readShort found rest

/-- Reads one argument that looks like options. -/
def readOption (level : Level) (found : Matches) :
    List Char → Except Stop (Matches × Option OptionSpec)
  | '-' :: '-' :: cs => level.readLong found cs
  | cs => level.readShort found (cs.drop 1)

/-- Adds an argument that stands on its own, if one more may. -/
def addPositional (level : Level) (found : Matches) (argument : String) : Except Stop Matches :=
  if found.positionals.length < level.positionals then
    .ok { found with positionals := found.positionals ++ [argument] }
  else .error .usage

/-- Adds arguments that stand on their own. -/
def addPositionals (level : Level) (found : Matches) : List String → Except Stop Matches
  | [] => .ok found
  | argument :: rest =>
    match level.addPositional found argument with
    | .error stop => .error stop
    | .ok found => level.addPositionals found rest

/-- Reads the arguments of a level. `awaiting` is an option that is still to get its value. -/
def readFrom (level : Level) (found : Matches) (awaiting : Option OptionSpec) :
    List String → Except Stop Matches
  | [] => if awaiting.isSome then .error .usage else .ok found
  | argument :: rest =>
    if argument = "--" then
      if awaiting.isSome then .error .usage else level.addPositionals found rest
    else if looksLikeOption argument.toList then
      if awaiting.isSome then .error .usage
      else
        match level.readOption found argument.toList with
        | .error stop => .error stop
        | .ok (found, awaiting) => level.readFrom found awaiting rest
    else
      match awaiting with
      | some option =>
        match found.add option argument with
        | .error stop => .error stop
        | .ok found => level.readFrom found none rest
      | none =>
        if level.commands.contains argument then
          .ok { found with command := some (argument, rest) }
        else
          match level.addPositional found argument with
          | .error stop => .error stop
          | .ok found => level.readFrom found none rest

/-- Reads the arguments of a level from the start. -/
def read (level : Level) (arguments : List String) : Except Stop Matches :=
  level.readFrom {} none arguments

end Level

end Eligibility.Command
