import SiteIndex.Build.Summary
import SiteIndex.Build.Walk
import SiteIndex.CommandLine.Arguments
import SiteIndex.Settings.StockFile
import SiteIndex.Survey.Json
import SiteIndex.Survey.Summary
import SiteIndex.Survey.Walk

/-!
What the program does with a file system when it is invoked: what it prints, how it ends, and which
files it leaves.
-/

namespace SiteIndex.CommandLine

structure Result where
  exitCode : Nat
  output : String
  /-- What is said about a failure. -/
  complaint : Option String
  files : FileSystem

def lines (texts : List String) : String :=
  String.join (texts.map (· ++ "\n"))

def usage : String := lines [
  "Index pages, a site map and a news feed for a directory tree",
  "",
  "Usage: make-index [OPTIONS] <COMMAND>",
  "",
  "Commands:",
  "  build       Write index.html into every directory, plus the site map and news feed",
  "  check       Show what a build would list, without writing anything",
  "  gen-config  Print a stock make-index.toml with all options documented",
  "",
  "Options:",
  "      --root <ROOT>  Content root [default: .]",
  "  -q, --quiet        Only log warnings and errors",
  "  -v, --verbose      Log every directory and sidecar",
  "      --json         Print the scan report as JSON (check)",
  "  -h, --help         Print help",
  "  -V, --version      Print version"]

def version : String :=
  "make-index 0.10.0\n"

def succeed (output : String) (files : FileSystem) : Result :=
  ⟨0, output, none, files⟩

def fail (output complaint : String) (files : FileSystem) : Result :=
  ⟨1, output, some complaint, files⟩

def runBuild (root : String) (now : Int) (fuel : Nat) (files : FileSystem) : Option Result :=
  match Settings.load files root with
  | .error cause => some (fail "" cause.message files)
  | .ok settings =>
      let opening := "==> Building " ++ root
      match Build.build ⟨root, settings, now, fuel⟩ files with
      | none => none
      | some (.error cause, files) => some (fail (lines [opening]) cause.message files)
      | some (.ok report, files) =>
          let summary := report.summary settings.outputs.index
          some (succeed (lines (opening :: summary ++ ["==> Build complete"])) files)

def hasProblems (report : Survey.Report) : Bool :=
  report.templates.any fun status => !status.unknownWidgets.isEmpty || status.unterminated

def runCheck (root : String) (json : Bool) (files : FileSystem) : Result :=
  match Survey.survey files root with
  | .error cause => fail "" cause.message files
  | .ok report =>
      if json then succeed (report.toJson.pretty ++ "\n") files
      else
        let verdict :=
          if hasProblems report then "==> Templates have problems" else "==> Content is valid"
        succeed (lines (("==> Checking " ++ root) :: report.summary ++ [verdict])) files

/-- There is no result if an expansion uses up its allowance. -/
def run (arguments : List String) (now : Int) (fuel : Nat) (files : FileSystem) :
    Option Result :=
  match readArguments arguments with
  | .error cause => some ⟨2, "", some (cause.message ++ "\n\n" ++ usage), files⟩
  | .ok .help => some (succeed usage files)
  | .ok .version => some (succeed version files)
  | .ok (.run invocation) =>
      match invocation.command with
      | .build => runBuild invocation.root now fuel files
      | .check json => some (runCheck invocation.root json files)
      | .genConfig => some (succeed Settings.stockFile files)

end SiteIndex.CommandLine
