import EntityMapping.Plan.Basic
import EntityMapping.SourceText.Layout
import EntityMapping.SourceText.Usings
import EntityMapping.Text.Basic

/-! # Mapping classes

A plan written as a configuration class in C#: one call chain per statement, under a comment
wherever a new group begins, and the constants of the table as nested structs. A file of its own
also has using directives and a namespace.
-/

namespace EntityMapping.SourceText

structure Style where
  document : Bool := false
  /-- Whether the class goes into a file shared with others, without usings and namespace. -/
  singleFile : Bool := false
  deriving DecidableEq, Repr

namespace Style

def comments (style : Style) (lines : List String) : List Line :=
  if style.document then lines.map fun text => line ("/// " ++ text) else []

end Style

def seeAlso (reference : String) : String := "<see cref=\"" ++ reference ++ "\" />"

def summary (text : String) : List String := ["<summary>", text, "</summary>"]

def directiveCall : Directive → String
  | .rowVersion => ".IsRowVersion()"
  | .required true => ".IsRequired()"
  | .required false => ".IsRequired(false)"
  | .numberToBytesConversion => ".HasConversion(new NumberToBytesConverter<ulong>())"
  | .columnType storeType => ".HasColumnType(" ++ literal storeType ++ ")"
  | .columnName name => ".HasColumnName(" ++ literal name ++ ")"
  | .unicode true => ".IsUnicode()"
  | .unicode false => ".IsUnicode(false)"
  | .maxLength length => ".HasMaxLength(" ++ length.toInt.repr ++ ")"
  | .defaultValueSql sql => ".HasDefaultValueSql(" ++ literal sql ++ ")"
  | .computedColumnSql sql => ".HasComputedColumnSql(" ++ literal sql ++ ")"
  | .valueGeneratedOnAdd => ".ValueGeneratedOnAdd()"
  | .valueGeneratedOnAddOrUpdate => ".ValueGeneratedOnAddOrUpdate()"
  | .valueGeneratedOnUpdate => ".ValueGeneratedOnUpdate()"

def tableArguments (name : String) : Option String → String
  | some schema => literal name ++ ", " ++ literal schema
  | none => literal name

/-- A lambda that selects members of an entity. -/
def entitySelector (names : List String) : String := "e => " ++ memberSelector "e" names

def inverseCall : Cardinality → String
  | .many => ".WithMany"
  | .one => ".WithOne"

def relationshipCalls (entityClass : String) (r : RelationshipBinding) : List String :=
  [inverseCall r.cardinality ++ "(p => p." ++ r.principalNavigation ++ ")",
   ".HasForeignKey" ++ (if r.oneToOne then "<" ++ entityClass ++ ">" else "") ++
     "(" ++ entitySelector r.foreignKey ++ ")",
   ".OnDelete(DeleteBehavior.Restrict)"] ++
  (match r.constraintName with
   | some name => [".HasConstraintName(" ++ literal name ++ ")"]
   | none => [])

def indexCalls (i : IndexBinding) : List String :=
  (match i.name with
   | some name => [".HasDatabaseName(" ++ literal name ++ ")"]
   | none => []) ++
  (match i.filter with
   | some filter => [".HasFilter(" ++ literal filter ++ ")"]
   | none => []) ++
  (if i.unique then [".IsUnique()"] else [])

def statementLines (entityClass : String) : Statement → List Line
  | .table name schema => [line ("builder.ToTable(" ++ tableArguments name schema ++ ");")]
  | .view name schema => [line ("builder.ToView(" ++ tableArguments name schema ++ ");")]
  | .noKey => [line "builder.HasNoKey();"]
  | .key columns => [line ("builder.HasKey(" ++ entitySelector columns ++ ");")]
  | .property property directives =>
    chain ("builder.Property(e => e." ++ property ++ ")") (directives.map directiveCall)
  | .relationship r =>
    chain ("builder.HasOne(e => e." ++ r.navigation ++ ")") (relationshipCalls entityClass r)
  | .index i => chain ("builder.HasIndex(" ++ entitySelector i.columns ++ ")") (indexCalls i)
  | .alternateKey columns name =>
    chain ("builder.HasAlternateKey(" ++ entitySelector columns ++ ")")
      [".HasName(" ++ literal name ++ ")"]

/-- Statements after one of the given group, an empty line before each but the first of all and
the title of its group where that changes. -/
def bodyLines (entityClass : String) : Option Section → List Statement → List Line
  | _, [] => []
  | previous, s :: rest =>
    (if previous.isSome then [blankLine] else []) ++
    (if previous = some s.group then [] else [line ("// " ++ s.group.title)]) ++
    statementLines entityClass s ++ bodyLines entityClass (some s.group) rest

def qualifiedEntity (plan : MappingPlan) : String :=
  if plan.entityNamespace.isEmpty then plan.entityClass
  else plan.entityNamespace ++ "." ++ plan.entityClass

def stringConstant (name value : String) : Line :=
  line ("public const string " ++ name ++ " = " ++ literal value ++ ";")

def summaryLine (text : String) : List String := ["<summary>" ++ text ++ "</summary>"]

variable (style : Style) (plan : MappingPlan)

def configureLines : List Line :=
  style.comments
    (summary ("Configures the entity of type " ++ seeAlso (qualifiedEntity plan)) ++
      ["<param name=\"builder\">The builder to be used to configure the entity type.</param>"]) ++
  line ("public void Configure(EntityTypeBuilder<" ++ plan.entityClass ++ "> builder)") ::
  braced (bodyLines plan.entityClass none plan.statements)

def tableStruct (constants : TableConstants) : List Line :=
  line "public struct Table" :: braced
    ((match constants.schema with
      | some schema =>
        style.comments (summaryLine
          ("Table Schema name constant for entity " ++ seeAlso (qualifiedEntity plan))) ++
        [stringConstant "Schema" schema]
      | none => []) ++
     style.comments (summaryLine
       ("Table Name constant for entity " ++ seeAlso (qualifiedEntity plan))) ++
     [stringConstant "Name" constants.name])

def columnLines (column : String × String) : List Line :=
  style.comments (summaryLine ("Column Name constant for property " ++
    seeAlso (qualifiedEntity plan ++ "." ++ column.1))) ++
  [stringConstant column.1 column.2]

def columnsStruct (constants : TableConstants) : List Line :=
  line "public struct Columns" :: braced (constants.columns.flatMap (columnLines style plan))

def constantsLines (constants : TableConstants) : List Line :=
  tableStruct style plan constants ++ blankLine :: columnsStruct style plan constants

def classLines : List Line :=
  style.comments
    (summary ("Allows configuration for an entity type " ++ seeAlso (qualifiedEntity plan))) ++
  line ("internal class " ++ plan.mappingClass ++ " : IEntityTypeConfiguration<" ++
    plan.entityClass ++ ">") ::
  braced (configureLines style plan ++
    (match plan.constants with
     | some constants => blankLine :: constantsLines style plan constants
     | none => []))

def requiredNamespaces : List String :=
  ["Microsoft.EntityFrameworkCore", "Microsoft.EntityFrameworkCore.Metadata.Builders"] ++
  (if plan.hasRowVersion then ["Microsoft.EntityFrameworkCore.Storage.ValueConversion"] else []) ++
  ["System", "System.Collections.Generic"] ++
  (if plan.entityNamespace = plan.mappingNamespace then [] else [plan.entityNamespace])

def usingLines : List Line :=
  (Text.lines (Usings.ofList (requiredNamespaces plan)).render.toList).map fun text =>
    line (String.ofList text)

def withinNamespace (lines : List Line) : List Line :=
  if plan.mappingNamespace.isEmpty then lines
  else line ("namespace " ++ plan.mappingNamespace) :: braced lines

def fileLines : List Line :=
  if style.singleFile then classLines style plan
  else usingLines plan ++ blankLine :: withinNamespace plan (classLines style plan)

def render : String := renderLines (fileLines style plan)

end EntityMapping.SourceText
