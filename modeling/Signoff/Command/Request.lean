/-
# `Signoff.Command.Request` — what a command line asks for

The tool checks a configuration against evidence, and shows the views of a report that was kept.
Beside that it explains itself, and refuses what it does not understand.
-/
import Signoff.Command.Usage
import Signoff.Report

namespace Signoff.Command

/-- The files of a check: two to read, the report to write, and the views that are wanted. -/
structure CheckFiles where
  config : String
  evidence : String
  report : String
  log : Option String := none
  rpt : Option String := none
  markdown : Option String := none
  deriving DecidableEq, Repr

/-- What a command line asks for. -/
inductive Request where
  | check (files : CheckFiles)
  /-- A view of the report, on the standard output or in a file. -/
  | view (v : View) (report : String) (output : Option String)
  /-- A text about the tool. -/
  | explain (text : String)
  /-- The command line cannot be understood. -/
  | refuse (text : String)
  deriving DecidableEq, Repr

namespace Request

/-! ## Options -/

/-- Where reports are kept. -/
def usualReport : String := "artifacts/chkgate/result.json"

def verbose : OptionSpec :=
  { name := "verbose", short := some 'v', about := "Log pipeline stages (debug level) to stderr" }

def toolOptions : List OptionSpec := [verbose, .help, .version]

def checkOptions : List OptionSpec :=
  [{ name := "config", value := some "CONFIG", required := true,
     about := "Path to the check configuration TOML" },
   verbose,
   { name := "evidence", value := some "EVIDENCE", required := true,
     about := "Path to the evidence JSON produced by the parser" },
   { name := "report-out", value := some "REPORT_OUT", fallback := some usualReport,
     about := "Where to write the JSON result" },
   { name := "log-out", value := some "LOG_OUT",
     about := "Also write the grouped log view to this path" },
   { name := "rpt-out", value := some "RPT_OUT",
     about := "Also write the per-item report view to this path" },
   { name := "markdown-out", value := some "MARKDOWN_OUT",
     about := "Also write a Markdown summary to this path" },
   .help]

def viewOptions : List OptionSpec :=
  [{ name := "report", value := some "REPORT", fallback := some usualReport,
     about := "Path to the JSON result file" },
   verbose,
   { name := "output", short := some 'o', value := some "OUTPUT",
     about := "Where to write the output (if not specified, prints to stdout)" },
   .help]

/-! ## Subcommands -/

structure Subcommand where
  name : String
  about : String
  options : List OptionSpec
  /-- What it asks for, once its options are complete. -/
  request : Given → Request

/-- The value of an option, or what stands for it. -/
def valueOr (given : Given) (name fallback : String) : String := (given.lookup name).getD fallback

/-- The check that the options ask for. -/
def ofCheckOptions (given : Given) : Request :=
  .check
    { config := valueOr given "config" ""
      evidence := valueOr given "evidence" ""
      report := valueOr given "report-out" usualReport
      log := given.lookup "log-out"
      rpt := given.lookup "rpt-out"
      markdown := given.lookup "markdown-out" }

def ofViewOptions (v : View) (given : Given) : Request :=
  .view v (valueOr given "report" usualReport) (given.lookup "output")

/-- The subcommands, in the order in which they are listed. -/
def subcommands : List Subcommand :=
  [⟨"check", "Evaluate evidence against a check configuration and write the result",
     checkOptions, ofCheckOptions⟩,
   ⟨"log", "Render the grouped log view from an existing JSON result",
     viewOptions, ofViewOptions .log⟩,
   ⟨"rpt", "Render the per-item report view from an existing JSON result",
     viewOptions, ofViewOptions .rpt⟩,
   ⟨"md", "Render Markdown from an existing JSON result",
     viewOptions, ofViewOptions .markdown⟩]

/-! ## Texts -/

def helpName : String := "help"

/-- What the subcommand of that name does. -/
def helpAbout : String := "Print this message or the help of the given subcommand(s)"

def text (ls : List String) : String := "\n".intercalate ls ++ "\n"

def toolUsage : String := "Usage: " ++ toolName ++ " [OPTIONS] <COMMAND>"

def Subcommand.usage (s : Subcommand) : String :=
  "Usage: " ++ toolName ++ " " ++ s.name ++ " [OPTIONS]" ++
    String.join ((s.options.filter (·.required)).map fun o => " " ++ o.display)

def toolHelp : String :=
  text <|
    ["Waiver-aware PASS/FAIL evaluation for checklist findings", "", toolUsage, "", "Commands:"] ++
    Usage.columns (subcommands.map (fun s => (s.name, s.about)) ++ [(helpName, helpAbout)]) ++
    ["", "Options:"] ++ Usage.optionRows toolOptions

def Subcommand.help (s : Subcommand) : String :=
  text ([s.about, "", s.usage, "", "Options:"] ++ Usage.optionRows s.options)

/-- The help of the subcommand that explains the others. -/
def helpHelp : String :=
  text [helpAbout, "", "Usage: " ++ toolName ++ " " ++ helpName ++ " [COMMAND]...", "",
    "Arguments:", "  [COMMAND]...  Print help for the subcommand(s)"]

/-- What is said of a command line that cannot be understood. -/
def misuseText (usage message : String) : String :=
  text ["error: " ++ message, "", usage, "", "For more information, try '--help'."]

/-! ## Reading -/

/-- The request that ends reading early. -/
def ofInterruption (version help usage : String) : Interruption → Request
  | .help => .explain help
  | .version => .explain (toolName ++ " " ++ version ++ "\n")
  | .misuse message => .refuse (misuseText usage message)

/-- A word that names no subcommand. -/
def unknownSubcommand (name : String) : Request :=
  .refuse (misuseText toolUsage ("unrecognized subcommand '" ++ name ++ "'"))

/-- The help that is asked for by the names of subcommands. -/
def explanation : List String → Request
  | [] => .explain toolHelp
  | name :: more =>
    if name == helpName then
      match more with
      | [] => .explain helpHelp
      | next :: _ => unknownSubcommand next
    else
      match subcommands.find? (·.name == name), more with
      | none, _ => unknownSubcommand name
      | some s, [] => .explain s.help
      | some _, next :: _ => unknownSubcommand next

/-- What the words after the tool's own options ask for. -/
def ofSubcommand (version : String) : List String → Request
  | [] => .refuse (misuseText toolUsage
      ("'" ++ toolName ++ "' requires a subcommand but one was not provided"))
  | name :: words =>
    if name == helpName then explanation words
    else
      match subcommands.find? (·.name == name) with
      | none => unknownSubcommand name
      | some s =>
        match Usage.readAll s.options words with
        | .ok given => s.request given
        | .error i => ofInterruption version s.help s.usage i

/-- What the words of a command line ask for. -/
def ofArgs (version : String) (words : List String) : Request :=
  if words.isEmpty then .refuse toolHelp
  else
    match Usage.read toolOptions words with
    | .ok (_, rest) => ofSubcommand version rest
    | .error i => ofInterruption version toolHelp toolUsage i

end Request

end Signoff.Command
