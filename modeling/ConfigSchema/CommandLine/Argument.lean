import ConfigSchema.Keyed

/-! Arguments of a command line, and the scan that tells options, values and subcommands apart. An option's
value is looked at only when the next argument is taken up, so of two mistakes the one that shows first in
this order is reported. -/

namespace ConfigSchema.CommandLine

/-- Why a command line is refused, or answered with help instead. -/
inductive Refusal where
  | unknownArgument
  | invalidSubcommand
  | missingSubcommand
  | missingArgument
  | repeatedArgument
  | invalidValue
  | tooManyValues
  | help
  | helpForNothing
  | version
  deriving DecidableEq

inductive Action where
  | take
  | mark
  | showHelp
  | showVersion
  deriving DecidableEq

structure Argument where
  key : String
  long : Option String
  short : Option Char
  action : Action
  /-- The name of a file, which is not empty. -/
  isPath : Bool
  /-- The environment variable that stands in for the option. -/
  fallback : Option String
  isRequired : Bool

structure Grammar where
  options : List Argument
  positionals : List Argument
  subcommands : List String

/-- How far a scan has come: values by key, the argument whose value has not been looked at yet, whether that
argument still waits for its value, the number of positionals so far, and whether only positionals follow. -/
structure Scan where
  values : List (String × String)
  pending : Option (Argument × Option String)
  isWaiting : Bool
  place : Nat
  isTrailing : Bool

namespace Scan

def start : Scan := ⟨[], none, false, 0, false⟩

def accept (scan : Scan) (argument : Argument) (value : String) : Except Refusal Scan :=
  if (Keyed.find? argument.key scan.values).isSome then .error .repeatedArgument
  else if argument.isPath && value == "" then .error .invalidValue
  else .ok { scan with values := scan.values ++ [(argument.key, value)], pending := none }

def settle (scan : Scan) : Except Refusal Scan :=
  match scan.pending with
  | none => .ok scan
  | some (_, none) => .error .invalidValue
  | some (argument, some value) => scan.accept argument value

def react (scan : Scan) (argument : Argument) : Except Refusal Scan := do
  let settled ← scan.settle
  match argument.action with
  | .showHelp => throw .help
  | .showVersion => throw .version
  | _ => settled.accept argument "true"

def expect (scan : Scan) (argument : Argument) (attached : Option String) : Except Refusal Scan := do
  let settled ← scan.settle
  match attached with
  | some value =>
    let taken ← settled.accept argument value
    pure { taken with isWaiting := false }
  | none => pure { settled with pending := some (argument, none), isWaiting := true }

def long (grammar : Grammar) (scan : Scan) (text : List Char) : Except Refusal Scan :=
  let name := String.ofList (text.takeWhile (· != '='))
  let attached := match text.dropWhile (· != '=') with
    | _ :: value => some (String.ofList value)
    | [] => none
  match grammar.options.find? (fun argument => argument.long == some name) with
  | none => .error .unknownArgument
  | some argument =>
    if argument.action = .take then scan.expect argument attached
    else if attached.isSome then .error .tooManyValues
    else (scan.react argument).map fun scan => { scan with isWaiting := false }

def short (grammar : Grammar) (scan : Scan) : List Char → Except Refusal Scan
  | [] => .ok { scan with isWaiting := false }
  | c :: rest =>
    match grammar.options.find? (fun argument => argument.short == some c) with
    | none => .error .unknownArgument
    | some argument =>
      if argument.action = .take then
        let attached := match rest with
          | [] => none
          | '=' :: value => some (String.ofList value)
          | value => some (String.ofList value)
        scan.expect argument attached
      else match scan.react argument with
        | .error refusal => .error refusal
        | .ok scan => short grammar scan rest

def positional (grammar : Grammar) (scan : Scan) (text : String) : Except Refusal Scan :=
  match grammar.positionals[scan.place]? with
  | some argument =>
    scan.settle.map fun settled =>
      { settled with pending := some (argument, some text), isWaiting := false, place := scan.place + 1 }
  | none =>
    if grammar.subcommands.isEmpty || (scan.isTrailing && grammar.subcommands.contains text) then
      .error .unknownArgument
    else .error .invalidSubcommand

def word (grammar : Grammar) (scan : Scan) (text : String) : Except Refusal Scan :=
  match scan.isWaiting, scan.pending with
  | true, some (argument, _) =>
    .ok { scan with pending := some (argument, some text), isWaiting := false }
  | _, _ => scan.positional grammar text

/-- Goes over arguments up to a subcommand, which is given back with what follows it. -/
def run (grammar : Grammar) (scan : Scan) :
    List String → Except Refusal (Scan × Option (String × List String))
  | [] => .ok (scan, none)
  | text :: rest =>
    if scan.isTrailing then do
      let next ← scan.positional grammar text
      next.run grammar rest
    else if !scan.isWaiting && grammar.subcommands.contains text then .ok (scan, some (text, rest))
    else match text.toList with
      | ['-', '-'] => Scan.run grammar { scan with isTrailing := true } rest
      | '-' :: '-' :: option => do
        let next ← scan.long grammar option
        next.run grammar rest
      | '-' :: c :: letters => do
        let next ← scan.short grammar (c :: letters)
        next.run grammar rest
      | _ => do
        let next ← scan.word grammar text
        next.run grammar rest

def fallBack (environment : List (String × String)) (scan : Scan) :
    List Argument → Except Refusal Scan
  | [] => .ok scan
  | argument :: rest =>
    match argument.fallback.bind (fun name => Keyed.find? name environment) with
    | some value =>
      if (Keyed.find? argument.key scan.values).isSome then scan.fallBack environment rest
      else match scan.accept argument value with
        | .error refusal => .error refusal
        | .ok scan => scan.fallBack environment rest
    | none => scan.fallBack environment rest

end Scan

end ConfigSchema.CommandLine
