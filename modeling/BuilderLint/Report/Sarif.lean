import BuilderLint.Report.Json

/-! The SARIF report.

The Static Analysis Results Interchange Format, version 2.1.0, as far as the
checks need it. Positions count from one, so a position that is not given becomes
one at the start of a region and is left out at its end. -/
namespace BuilderLint.Sarif
open Json (Value Decoder Shape)

/-! ### The format -/

structure Message where
  text : String

structure Artifact where
  uri : String

structure Region where
  startLine : UInt64
  startColumn : UInt64
  endLine : Option UInt64
  endColumn : Option UInt64

structure PhysicalLocation where
  artifact : Artifact
  region : Region

structure Location where
  physical : PhysicalLocation

structure Replacement where
  deleted : Region
  inserted : Message

structure ArtifactChange where
  artifact : Artifact
  replacements : List Replacement

structure Fix where
  description : Message
  changes : List ArtifactChange

structure Result where
  ruleId : String
  level : String
  message : Message
  locations : List Location
  fixes : List Fix

structure RuleConfig where
  level : String

structure RuleProperties where
  category : String
  priority : UInt8

structure Rule where
  id : String
  shortDescription : Message
  fullDescription : Message
  configuration : RuleConfig
  properties : RuleProperties

structure Driver where
  name : String
  version : String
  rules : List Rule

structure Tool where
  driver : Driver

structure Run where
  tool : Tool
  results : List Result

structure Log where
  version : String
  schema : String
  runs : List Run

/-! ### Building -/

def formatVersion : String := "2.1.0"

def schemaUri : String :=
  "https://raw.githubusercontent.com/oasis-tcs/sarif-spec/master/Schemata/sarif-schema-2.1.0.json"

def toolName : String := "dslint"

def levelOf : Severity → String
  | .error => "error"
  | .warning => "warning"
  | .info => "note"

/-- A file's path with slashes only. -/
def uriOf (file : String) : String :=
  String.ofList (file.toList.map fun c => if c = '\\' then '/' else c)

def Rule.ofIssue (i : Issue) : Rule where
  id := i.id
  shortDescription := ⟨i.brief⟩
  fullDescription := ⟨i.explanation⟩
  configuration := ⟨levelOf i.severity⟩
  properties := ⟨i.category.text, i.priority⟩

/-- The position, or the first one when none is given. -/
def atLeastOne (n : UInt64) : UInt64 := if n = 0 then 1 else n

/-- The position, unless none is given. -/
def given (n : UInt64) : Option UInt64 := if n = 0 then none else some n

def Region.ofSpan (s : Span) : Region where
  startLine := atLeastOne s.startLine
  startColumn := atLeastOne s.startCol
  endLine := given s.endLine
  endColumn := given s.endCol

/-- The text to be replaced stands at the start of the range. -/
def Region.ofReplaced (r : BuilderLint.Replacement) : Region where
  startLine := atLeastOne r.range.startLine
  startColumn := atLeastOne r.range.startCol
  endLine := some (atLeastOne r.range.startLine)
  endColumn := some (atLeastOne r.range.startCol + UInt64.ofNat r.oldText.length)

def Fix.ofReplacement (file : String) (r : BuilderLint.Replacement) : Fix where
  description := ⟨r.label⟩
  changes := [⟨⟨uriOf file⟩, [⟨.ofReplaced r, ⟨r.newText⟩⟩]⟩]

def Result.ofDiagnostic (d : Diagnostic) : Result where
  ruleId := d.issue
  level := levelOf d.severity
  message := ⟨d.message⟩
  locations := [⟨⟨⟨uriOf d.file⟩, .ofSpan d.span⟩⟩]
  fixes := d.replacements.map (Fix.ofReplacement d.file)

/-- The rules are the issues that the diagnostics report. -/
def rulesOf (o : Outcome) : List Rule :=
  (Issue.all.filter fun i => o.diagnostics.any fun d => d.issue == i.id).map Rule.ofIssue

def Log.ofOutcome (o : Outcome) : Log where
  version := formatVersion
  schema := schemaUri
  runs := [⟨⟨⟨toolName, programVersion, rulesOf o⟩⟩,
    o.diagnostics.map Result.ofDiagnostic⟩]

/-! ### Encoding -/

def Message.encode (m : Message) : Value := .object [("text", .string m.text)]

def Artifact.encode (a : Artifact) : Value := .object [("uri", .string a.uri)]

def Region.encode (r : Region) : Value := .object ([
  ("startLine", .ofWord r.startLine),
  ("startColumn", .ofWord r.startColumn)] ++
  memberIf r.endLine.isSome "endLine" (.ofOption .ofWord r.endLine) ++
  memberIf r.endColumn.isSome "endColumn" (.ofOption .ofWord r.endColumn))

def PhysicalLocation.encode (l : PhysicalLocation) : Value := .object [
  ("artifactLocation", l.artifact.encode),
  ("region", l.region.encode)]

def Location.encode (l : Location) : Value := .object [("physicalLocation", l.physical.encode)]

def Replacement.encode (r : Replacement) : Value := .object [
  ("deletedRegion", r.deleted.encode),
  ("insertedContent", r.inserted.encode)]

def ArtifactChange.encode (c : ArtifactChange) : Value := .object [
  ("artifactLocation", c.artifact.encode),
  ("replacements", .ofList Replacement.encode c.replacements)]

def Fix.encode (f : Fix) : Value := .object [
  ("description", f.description.encode),
  ("artifactChanges", .ofList ArtifactChange.encode f.changes)]

def Result.encode (r : Result) : Value := .object ([
  ("ruleId", .string r.ruleId),
  ("level", .string r.level),
  ("message", r.message.encode),
  ("locations", .ofList Location.encode r.locations)] ++
  memberIf (!r.fixes.isEmpty) "fixes" (.ofList Fix.encode r.fixes))

def RuleConfig.encode (c : RuleConfig) : Value := .object [("level", .string c.level)]

def RuleProperties.encode (p : RuleProperties) : Value := .object [
  ("category", .string p.category),
  ("priority", .ofNat p.priority.toNat)]

def Rule.encode (r : Rule) : Value := .object [
  ("id", .string r.id),
  ("shortDescription", r.shortDescription.encode),
  ("fullDescription", r.fullDescription.encode),
  ("defaultConfiguration", r.configuration.encode),
  ("properties", r.properties.encode)]

def Driver.encode (d : Driver) : Value := .object [
  ("name", .string d.name),
  ("version", .string d.version),
  ("rules", .ofList Rule.encode d.rules)]

def Tool.encode (t : Tool) : Value := .object [("driver", t.driver.encode)]

def Run.encode (r : Run) : Value := .object [
  ("tool", r.tool.encode),
  ("results", .ofList Result.encode r.results)]

def Log.encode (l : Log) : Value := .object [
  ("version", .string l.version),
  ("$schema", .string l.schema),
  ("runs", .ofList Run.encode l.runs)]

/-! ### Decoding -/

def Message.decode : Decoder Message := .record ⟨"struct SarifMessage", ["text"]⟩ fun row =>
  Message.mk <$> row.required "text" .string

def Artifact.decode : Decoder Artifact := .record ⟨"struct SarifArtifact", ["uri"]⟩ fun row =>
  Artifact.mk <$> row.required "uri" .string

def Region.decode : Decoder Region :=
  .record ⟨"struct SarifRegion", ["startLine", "startColumn", "endLine", "endColumn"]⟩ fun row =>
    Region.mk <$> row.required "startLine" .word
      <*> row.required "startColumn" .word
      <*> row.nullable "endLine" .word
      <*> row.nullable "endColumn" .word

def PhysicalLocation.decode : Decoder PhysicalLocation :=
  .record ⟨"struct SarifPhysicalLocation", ["artifactLocation", "region"]⟩ fun row =>
    PhysicalLocation.mk <$> row.required "artifactLocation" Artifact.decode
      <*> row.required "region" Region.decode

def Location.decode : Decoder Location :=
  .record ⟨"struct SarifLocation", ["physicalLocation"]⟩ fun row =>
    Location.mk <$> row.required "physicalLocation" PhysicalLocation.decode

def Replacement.decode : Decoder Replacement :=
  .record ⟨"struct SarifReplacement", ["deletedRegion", "insertedContent"]⟩ fun row =>
    Replacement.mk <$> row.required "deletedRegion" Region.decode
      <*> row.required "insertedContent" Message.decode

def ArtifactChange.decode : Decoder ArtifactChange :=
  .record ⟨"struct SarifArtifactChange", ["artifactLocation", "replacements"]⟩ fun row =>
    ArtifactChange.mk <$> row.required "artifactLocation" Artifact.decode
      <*> row.required "replacements" (.list Replacement.decode)

def Fix.decode : Decoder Fix :=
  .record ⟨"struct SarifFix", ["description", "artifactChanges"]⟩ fun row =>
    Fix.mk <$> row.required "description" Message.decode
      <*> row.required "artifactChanges" (.list ArtifactChange.decode)

def Result.decode : Decoder Result :=
  .record ⟨"struct SarifResult", ["ruleId", "level", "message", "locations", "fixes"]⟩ fun row =>
    Result.mk <$> row.required "ruleId" .string
      <*> row.required "level" .string
      <*> row.required "message" Message.decode
      <*> row.required "locations" (.list Location.decode)
      <*> row.withDefault "fixes" (.list Fix.decode) []

def RuleConfig.decode : Decoder RuleConfig :=
  .record ⟨"struct SarifRuleConfig", ["level"]⟩ fun row =>
    RuleConfig.mk <$> row.required "level" .string

def RuleProperties.decode : Decoder RuleProperties :=
  .record ⟨"struct SarifRuleProperties", ["category", "priority"]⟩ fun row =>
    RuleProperties.mk <$> row.required "category" .string
      <*> row.required "priority" .byte

def Rule.decode : Decoder Rule :=
  .record ⟨"struct SarifRule", ["id", "shortDescription", "fullDescription", "defaultConfiguration",
    "properties"]⟩ fun row =>
    Rule.mk <$> row.required "id" .string
      <*> row.required "shortDescription" Message.decode
      <*> row.required "fullDescription" Message.decode
      <*> row.required "defaultConfiguration" RuleConfig.decode
      <*> row.required "properties" RuleProperties.decode

def Driver.decode : Decoder Driver :=
  .record ⟨"struct SarifDriver", ["name", "version", "rules"]⟩ fun row =>
    Driver.mk <$> row.required "name" .string
      <*> row.required "version" .string
      <*> row.required "rules" (.list Rule.decode)

def Tool.decode : Decoder Tool := .record ⟨"struct SarifTool", ["driver"]⟩ fun row =>
  Tool.mk <$> row.required "driver" Driver.decode

def Run.decode : Decoder Run := .record ⟨"struct SarifRun", ["tool", "results"]⟩ fun row =>
  Run.mk <$> row.required "tool" Tool.decode
    <*> row.required "results" (.list Result.decode)

def Log.decode : Decoder Log :=
  .record ⟨"struct SarifReport", ["version", "$schema", "runs"]⟩ fun row =>
    Log.mk <$> row.required "version" .string
      <*> row.required "$schema" .string
      <*> row.required "runs" (.list Run.decode)

end BuilderLint.Sarif
