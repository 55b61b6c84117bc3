import EntityMapping.CommandLine.Arguments
import EntityMapping.Output.FileTree
import EntityMapping.Plan.Emission
import EntityMapping.Plan.Snapshot
import EntityMapping.Schema.Reader
import EntityMapping.SourceText.MappingClass

/-! # Generation

The settings of a run and its result: the written plans of the selected entities, each under the
name of its mapping class. Settings are checked before the schema is looked at, and a run either
has all of its results or a single failure.
-/

namespace EntityMapping.CommandLine

inductive Generator where
  | mapping
  | statements
  deriving DecidableEq, Repr

namespace Generator

def fileExtension : Generator → String
  | mapping => "cs"
  | statements => "json"

def render (g : Generator) (style : SourceText.Style) (plan : MappingPlan) : String :=
  match g with
  | mapping => SourceText.render style plan
  | statements => plan.snapshot

end Generator

/-- Why a run has no results. -/
inductive Failure where
  | naming (fault : Naming.Fault)
  | unknownOrdering (given : String)
  | unknownGenerator (given : String)
  | unreadable (fault : Output.FileFault)
  | document (fault : Document.Fault)
  | metadata (entity : String) (fault : MetadataFault)
  | inflection (fault : Inflection.CaseFault)
  | unwritable (fault : Output.FileFault)
  deriving DecidableEq, Repr

namespace Failure

/-- What the program says of a failure. Of a word that cannot be inflected it says nothing itself,
as it breaks off there, and the text stands for that of the crash. -/
def message : Failure → String
  | naming fault => "Naming policy misconfiguration: " ++ fault.message
  | unknownOrdering given =>
    "Naming policy misconfiguration: unknown statement ordering '" ++ given ++
      "' (expected 'properties-first' or 'indexes-first')"
  | unknownGenerator given => "Unknown generator: " ++ given
  | unreadable fault => "IO error: " ++ fault.message
  | document fault => "Schema document error: " ++ fault.message
  | metadata entity fault => "Invalid metadata for entity " ++ entity ++ ": " ++ fault.message
  | inflection fault =>
    "cannot write '" ++ fault.form ++ "' in the letter case of '" ++ fault.word ++ "'"
  | unwritable fault => fault.message

/-- The message of what lies behind a failure, where that is something apart. -/
def cause : Failure → Option String
  | unreadable fault => some fault.message
  | document fault => some fault.message
  | _ => none

def indented (s : String) : String :=
  "\n".intercalate ((s.toList.splitOnP (· == '\n')).map fun l => "    " ++ String.ofList l)

def report (f : Failure) : String :=
  "Error: " ++ f.message ++ "\n" ++
    (match f.cause with
     | some cause => "\nCaused by:\n" ++ indented cause ++ "\n"
     | none => "")

end Failure

def parseOrdering (given : String) : Except Failure Ordering :=
  let word := String.ofList (Text.asciiLower (Text.trim given.toList))
  if word = "properties-first" then .ok .propertiesFirst
  else if word = "indexes-first" then .ok .indexesFirst
  else .error (.unknownOrdering word)

def orderingName : Ordering → String
  | .propertiesFirst => "properties-first"
  | .indexesFirst => "indexes-first"

def parseGenerator (given : String) : Except Failure Generator :=
  if given = "mapping" then .ok .mapping
  else if given = "statements" then .ok .statements
  else .error (.unknownGenerator given)

def parseMode (given : String) : Except Failure Naming.Mode :=
  (Naming.Mode.parse given).mapError .naming

def makePolicy (mode : Naming.Mode) (suffix : String) : Except Failure Naming.Policy :=
  (Naming.Policy.make mode suffix).mapError .naming

def parseSchema (text : String) : Except Failure Schema := (Schema.parse text).mapError .document

structure Settings where
  emission : Emission
  generator : Generator
  style : SourceText.Style
  deriving DecidableEq, Repr

def Arguments.settings (a : Arguments) : Except Failure Settings := do
  let naming ← makePolicy (← parseMode a.relationshipNaming) a.suffix
  let ordering ← parseOrdering a.ordering
  let options := a.generatorOptions
  let generator ← parseGenerator a.generator
  return {
    emission := { naming, ordering, withConstants := options.includeConstants }
    generator
    style := { document := options.document, singleFile := options.singleFile } }

structure Product where
  mappingClass : String
  text : String
  deriving DecidableEq, Repr

namespace Settings

variable (settings : Settings) (schema : Schema)

def plan (entity : Entity) : Except Failure MappingPlan :=
  (settings.emission.plan schema entity).mapError fun
    | .metadata fault => .metadata entity.entityClass fault
    | .inflection fault => .inflection fault

def produce (plan : MappingPlan) : Product where
  mappingClass := plan.mappingClass
  text := settings.generator.render settings.style plan

/-- The products of entities, none of which may have one of the mapping classes in `seen` or that
of an earlier one. -/
def productsAfter (seen : List String) : List Entity → Except Failure (List Product)
  | [] => .ok []
  | entity :: rest => do
    let plan ← settings.plan schema entity
    if seen.contains plan.mappingClass then
      throw (.metadata entity.entityClass (.repeatedMappingClass plan.mappingClass))
    return settings.produce plan :: (← productsAfter (plan.mappingClass :: seen) rest)

def products (classNames : List String) : Except Failure (List Product) :=
  settings.productsAfter schema [] (schema.select classNames)

def fileName (product : Product) : String :=
  product.mappingClass ++ "." ++ settings.generator.fileExtension

end Settings

def joined (products : List Product) : String := "\n".intercalate (products.map (·.text))

end EntityMapping.CommandLine
