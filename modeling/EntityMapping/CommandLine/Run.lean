import EntityMapping.CommandLine.Generation

/-! # Runs

The steps of the program on any file system, and a run of it as a function of its arguments, its
environment and the files that it finds. Products go to standard output, or each to a file of its
own in the output directory.
-/

namespace EntityMapping.CommandLine

open Output (FileSystem FileTree)

structure Response where
  exitCode : Nat := 0
  stdout : String := ""
  stderr : String := ""

structure Outcome extends Response where
  files : FileTree

def versionText : String := "efgen 0.3.0\n"

/-- What the arguments and options are. The program leaves such texts to its argument parser, so
this one stands for a text that is not the program's own. -/
def usageText : String :=
  String.join (
    ["Usage: efgen [OPTIONS] <SCHEMA>",
     "",
     "Generate mapping classes from an extracted schema model.",
     "",
     "Options:",
     "      --generator <NAME>            mapping or statements",
     "      --suffix <SUFFIX>             entity type suffix",
     "      --relationship-naming <MODE>  suffix or plural",
     "      --ordering <ORDERING>         properties-first or indexes-first",
     "      --options <OPTIONS>           document, noconstants, singlefile",
     "      --entities <CLASSES>          class names, separated by commas",
     "      --outdir <DIRECTORY>          output directory",
     "  -h, --help                        print this text",
     "  -V, --version                     print the version"].map (· ++ "\n"))

namespace UsageFault

def exitCode : UsageFault → Nat
  | helpRequested | versionRequested => 0
  | _ => 2

def stdout : UsageFault → String
  | helpRequested => usageText
  | versionRequested => versionText
  | _ => ""

/-- What is wrong with the arguments, in a text that stands for one of the argument parser. -/
def stderr : UsageFault → String
  | helpRequested | versionRequested => ""
  | unknownArgument => "error: unexpected argument\n\n" ++ usageText
  | missingArgument => "error: the schema document is missing\n\n" ++ usageText
  | invalidValue => "error: a value is required\n\n" ++ usageText
  | repeatedOption => "error: an option is used several times\n\n" ++ usageText
  | unexpectedValue => "error: unexpected value\n\n" ++ usageText

def response (fault : UsageFault) : Response where
  exitCode := fault.exitCode
  stdout := fault.stdout
  stderr := fault.stderr

end UsageFault

namespace Failure

def exitCode : Failure → Nat
  | inflection _ => 101
  | _ => 1

def response (f : Failure) : Response where
  exitCode := f.exitCode
  stderr := f.report

end Failure

/-- What a run leaves on its streams when it ends in a failure or with a text to print. -/
def respond : Except Failure String → Response
  | .error failure => failure.response
  | .ok stdout => { stdout }

section Steps

variable {m : Type → Type} [Monad m] (fs : FileSystem m)

/-- The products of a run, before anything is written. -/
def generateIn (a : Arguments) : ExceptT Failure m (Settings × List Product) := do
  let settings ← a.settings
  let text ← (fs.readText a.schema).adapt .unreadable
  let schema ← parseSchema text
  return (settings, ← settings.products schema a.entityList)

/-- Write products into a directory, up to the first that cannot be written. -/
def writeProducts (settings : Settings) (directory : String) :
    List Product → ExceptT Failure m Unit
  | [] => return
  | product :: rest => do
    let path := Output.Path.join directory (settings.fileName product)
    (fs.writeText path product.text).adapt .unwritable
    writeProducts settings directory rest

/-- Hand over the products: to the output directory if there is one. -/
def deliver (settings : Settings) (outdir : Option String) (products : List Product) :
    ExceptT Failure m String :=
  match outdir with
  | none => return joined products
  | some directory => do
    (fs.createDirectories directory).adapt .unwritable
    writeProducts fs settings directory products
    return ""

/-- What a run prints, once its files are written. -/
def output (a : Arguments) : ExceptT Failure m String := do
  let (settings, products) ← generateIn fs a
  deliver fs settings a.outdir products

def perform (arguments : List String) (env : Environment) : m Response :=
  match Arguments.parse env arguments with
  | .error fault => return fault.response
  | .ok a => respond <$> (output fs a).run

end Steps

/-- The products of a run on a tree of files. -/
def generate (a : Arguments) (files : FileTree) : Except Failure (Settings × List Product) :=
  (generateIn FileTree.fileSystem a files).1

def run (arguments : List String) (env : Environment) (files : FileTree) : Outcome :=
  let (response, files) := perform FileTree.fileSystem arguments env files
  { response with files }

end EntityMapping.CommandLine
