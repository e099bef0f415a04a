-- SUMMARY: Commands run on a disk.
import MasterData.CommandLine.Options
import MasterData.Project.Compile
import MasterData.Project.Materialize
import MasterData.Yaml.Printer

/-! # Running commands

A command prints what it did and may leave the disk changed. A command that fails says what it was
about to do and ends with a code of its own; so does misuse.
-/

namespace MasterData

/-- What a command line leaves behind. -/
structure Outcome where
  exitCode : UInt8
  /-- The printed text; none where usage or version would be shown. -/
  output : Option String
  /-- What failed. -/
  complaint : Option String
  disk : Disk

namespace Outcome

def succeeded (output : String) (disk : Disk) : Outcome := ⟨0, some output, none, disk⟩

def failed (output complaint : String) (disk : Disk) : Outcome :=
  ⟨1, some output, some complaint, disk⟩

end Outcome

/-- Lines with their ends. -/
def linesText (lines : List String) : String :=
  String.join (lines.map (· ++ "\n"))

/-! ## Reports -/

def CompileReport.lines (r : CompileReport) : List String :=
  r.changed.map ("wrote " ++ ·)
  ++ r.pruned.map ("removed " ++ ·)
  ++ [toString r.masters.length ++ " master(s), " ++ toString r.changed.length
    ++ " file(s) changed, " ++ toString r.unchanged ++ " unchanged"]

def KeyCollision.line (k : KeyCollision) : String :=
  "  duplicate key " ++ k.key ++ " at records " ++ toString k.firstPosition ++ " and "
    ++ toString k.position

def MasterReport.lines (r : MasterReport) : List String :=
  (r.master ++ ": " ++ toString r.records ++ " record(s), " ++ toString r.collisions.length
    ++ " collision(s) -> " ++ r.asset) :: r.collisions.map KeyCollision.line

/-! ## Commands -/

def runCompile (c : Config) (check : Bool) (d : Disk) : Outcome :=
  match compile c (if check then .check else .apply) d with
  | (.ok report, d) => .succeeded (linesText report.lines) d
  | (.error (.stale files), d) =>
    .failed (linesText (files.map ("stale: " ++ ·)))
      (toString files.length ++ " generated file(s) out of date, run `sheetmaster compile`") d
  | (.error _, d) => .failed "" "compile failed" d

def runMaterialize (c : Config) (d : Disk) : Outcome :=
  match materialize c d with
  | (.ok reports, d) => .succeeded (linesText (reports.flatMap MasterReport.lines)) d
  | (.error _, d) => .failed "" "materialize failed" d

def runAggregate (c : Config) (d : Disk) : Outcome :=
  match aggregate c d with
  | (.ok changed, d) =>
    let path := Path.join c.generatedFolder aggregateFileName
    .succeeded (linesText [(if changed then "wrote " else "unchanged ") ++ path]) d
  | (.error _, d) => .failed "" "aggregate failed" d

def runInspect (t : TypeTable) (workbook : String) (d : Disk) : Outcome :=
  match inspect t d workbook with
  | .ok schemas => .succeeded (Yaml.render (.list (schemas.map MasterSchema.toJson))) d
  | .error _ => .failed "" ("failed to inspect " ++ workbook) d

/-- Runs a command; only inspecting a workbook does without a configuration. -/
def Options.run (o : Options) (d : Disk) : Outcome :=
  match o.command, Config.load d o.config with
  | .compile check, .ok c => runCompile c check d
  | .materialize, .ok c => runMaterialize c d
  | .aggregate, .ok c => runAggregate c d
  | .inspect workbook, .ok c => runInspect c.typeTable workbook d
  | .inspect workbook, .error _ =>
    if d.doesExist o.config then .failed "" ("failed to load config " ++ o.config) d
    else runInspect .empty workbook d
  | _, .error _ => .failed "" ("failed to load config " ++ o.config) d

/-- Does what a command line asks for. -/
def Invocation.perform (i : Invocation) (d : Disk) : Outcome :=
  match i with
  | .run options => options.run d
  | .help => ⟨0, none, none, d⟩
  | .version => ⟨0, none, none, d⟩
  | .misuse => ⟨2, none, none, d⟩

end MasterData
