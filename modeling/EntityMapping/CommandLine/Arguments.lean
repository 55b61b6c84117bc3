import EntityMapping.Text.Basic

/-! # Command-line arguments

The schema document is the one positional argument, and all else is set by long options, each at
most once. An option takes its value from the same argument or from the next one; it is settled
only when the following option or positional argument is met.
-/

namespace EntityMapping.CommandLine

inductive UsageFault where
  | unknownArgument
  | missingArgument
  | invalidValue
  | repeatedOption
  | unexpectedValue
  | helpRequested
  | versionRequested
  deriving DecidableEq, Repr

inductive Setting where
  | schema
  | generator
  | suffix
  | relationshipNaming
  | ordering
  | options
  | entities
  | outdir
  deriving DecidableEq, Repr

namespace Setting

def optionNames : List (String × Setting) :=
  [("generator", generator), ("suffix", suffix), ("relationship-naming", relationshipNaming),
   ("ordering", ordering), ("options", options), ("entities", entities), ("outdir", outdir)]

/-- Whether a value has to be a path, which is never empty. -/
def isPath : Setting → Bool
  | schema | outdir => true
  | _ => false

end Setting

/-- The settings made so far, and the one that waits for its value or for being settled. -/
structure Parsing where
  values : List (Setting × String) := []
  pending : Option (Setting × Option String) := none
  /-- Whether all further arguments are positional. -/
  trailing : Bool := false
  deriving DecidableEq, Repr

namespace Parsing

def store (p : Parsing) (setting : Setting) (value : String) : Except UsageFault Parsing :=
  if (p.values.lookup setting).isSome then .error .repeatedOption
  else if setting.isPath && value.isEmpty then .error .invalidValue
  else .ok { p with values := (setting, value) :: p.values }

def settle (p : Parsing) : Except UsageFault Parsing :=
  match p.pending with
  | none => .ok p
  | some (_, none) => .error .invalidValue
  | some (setting, some value) => { p with pending := none }.store setting value

def hasSchema (p : Parsing) : Bool :=
  (p.values.lookup .schema).isSome || p.pending.any (·.1 == .schema)

def positional (p : Parsing) (argument : String) : Except UsageFault Parsing :=
  if p.hasSchema then .error .unknownArgument
  else do return { ← p.settle with pending := some (.schema, some argument) }

/-- An argument that begins with two dashes, split at its first equals sign. -/
def longOption (p : Parsing) (name : List Char) (value : Option (List Char)) :
    Except UsageFault Parsing :=
  let name := String.ofList name
  match Setting.optionNames.lookup name, value with
  | some setting, some value => do (← p.settle).store setting (String.ofList value)
  | some setting, none => do return { ← p.settle with pending := some (setting, none) }
  | none, value =>
    if name = "help" || name = "version" then
      if value.isSome then .error .unexpectedValue
      else do
        let _ ← p.settle
        throw (if name = "help" then .helpRequested else .versionRequested)
    else .error .unknownArgument

/-- An argument of flags after one dash; each of them ends the parsing. -/
def flags (p : Parsing) : List Char → Except UsageFault Parsing
  | 'h' :: _ => do let _ ← p.settle; throw .helpRequested
  | 'V' :: _ => do let _ ← p.settle; throw .versionRequested
  | _ => .error .unknownArgument

def splitEquals : List Char → List Char × Option (List Char)
  | [] => ([], none)
  | '=' :: rest => ([], some rest)
  | c :: rest => ((c :: (splitEquals rest).1), (splitEquals rest).2)

/-- A value for the pending option, or else a positional argument. -/
def plain (p : Parsing) (argument : String) : Except UsageFault Parsing :=
  match p.pending with
  | some (setting, none) => .ok { p with pending := some (setting, some argument) }
  | _ => p.positional argument

def step (p : Parsing) (argument : String) : Except UsageFault Parsing :=
  if p.trailing then p.positional argument
  else
    match argument.toList with
    | ['-', '-'] => .ok { p with trailing := true }
    | '-' :: '-' :: rest => p.longOption (splitEquals rest).1 (splitEquals rest).2
    | '-' :: c :: rest => p.flags (c :: rest)
    | _ => p.plain argument

end Parsing

/-- Settings taken from the environment where the command line does not make them. -/
structure Environment where
  suffix : Option String := none
  relationshipNaming : Option String := none
  deriving DecidableEq, Repr

structure Arguments where
  schema : String
  generator : String := "mapping"
  suffix : String := ""
  relationshipNaming : String := "plural"
  ordering : String := "properties-first"
  options : Option String := none
  entities : Option String := none
  outdir : Option String := none
  deriving DecidableEq, Repr

namespace Arguments

def parse (env : Environment) (arguments : List String) : Except UsageFault Arguments := do
  let p ← (← arguments.foldlM Parsing.step {}).settle
  let given (setting : Setting) : Option String := p.values.lookup setting
  match given .schema with
  | none => throw .missingArgument
  | some schema =>
    return {
      schema
      generator := (given .generator).getD "mapping"
      suffix := ((given .suffix).or env.suffix).getD ""
      relationshipNaming :=
        ((given .relationshipNaming).or env.relationshipNaming).getD "plural"
      ordering := (given .ordering).getD "properties-first"
      options := given .options
      entities := given .entities
      outdir := given .outdir }

/-- The trimmed items of a list with commas. -/
def items (s : String) : List String :=
  (s.toList.splitOnP (· == ',')).map fun item => String.ofList (Text.trim item)

/-- The class names of the entities to process; none stands for all. -/
def entityList (a : Arguments) : List String := (a.entities.map items).getD []

end Arguments

structure Options where
  document : Bool := false
  includeConstants : Bool := true
  singleFile : Bool := false
  deriving DecidableEq, Repr

/-- The options named; unknown names are passed over. -/
def Arguments.generatorOptions (a : Arguments) : Options :=
  let names := (a.options.map items).getD []
  { document := names.contains "document"
    includeConstants := !names.contains "noconstants"
    singleFile := names.contains "singlefile" }

end EntityMapping.CommandLine
