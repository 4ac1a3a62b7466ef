/-!
# Help texts

What the command prints about itself, and the usage lines of its complaints.

Not modelled: the width of a terminal, to which the texts are not fitted, and colors in them.
-/

namespace AbcMetric

/-- The name of the command. -/
def commandName : String := "python-abc"

/-- The answer to a request for the version. -/
def versionText : String := "python-abc 0.2.0\n"

/-- How the path argument is shown. -/
def pathArgument : String := "[PATH]"

/-- The usage line. It names the arguments that matter to a complaint, if any; the path always comes
last. -/
def usageLine (used : List String) : String :=
  let options := if used.isEmpty then ["[OPTIONS]"] else used.filter (· ≠ pathArgument)
  let shown := String.intercalate " " (commandName :: options ++ [pathArgument])
  s!"Usage: {shown}"

/-- Lines as text. -/
def textOfLines (lines : List String) : String := String.join (lines.map (· ++ "\n"))

/-- The examples at the end of both help texts. -/
def exampleLines : List String :=
  ["Examples:",
   "  python-abc src/                      Analyze every .py file under src/",
   "  python-abc module.py --verbose       Show each line with its a/b/c decorations",
   "  python-abc . --sort                  Highest magnitude first",
   "  python-abc . --format json           JSON output for scripting"]

/-- The short help text. -/
def shortHelpText : String :=
  textOfLines (
    ["Compute the ABC software metric (assignments, branches, conditions) of Python files",
     "",
     usageLine [],
     "",
     "Arguments:",
     "  [PATH]  Path to a directory or file (default: current directory) [default: .]",
     "",
     "Options:",
     "      --debug                  Display the AST and the contributing nodes of each file",
     "      --verbose                Display each file marked up with per-line decorations",
     "      --sort                   Sort files from highest to lowest magnitude",
     "      --workers <WORKERS>      Number of parallel workers (1-64, default: number of cores)",
     "  -f, --format <FORMAT>        Output format: text, json [possible values: text, json]",
     "      --log-level <LOG_LEVEL>  Log level (error, warn, info, debug, trace) " ++
       "[default: warn] [possible values: error, warn, info, debug, trace]",
     "  -h, --help                   Print help (see more with '--help')",
     "  -V, --version                Print version",
     ""] ++ exampleLines)

/-- A line of ten spaces, which divides a description from its values. -/
def blankLine : String := String.ofList (List.replicate 10 ' ')

/-- The long help text. -/
def longHelpText : String :=
  textOfLines (
    ["Counts Assignments, Branches and Conditions in each Python file and reports the <A, B, C> " ++
       "vector with its magnitude, sqrt(A² + B² + C²), rounded to one decimal.",
     "",
     "See https://en.wikipedia.org/wiki/ABC_Software_Metric",
     "",
     usageLine [],
     "",
     "Arguments:",
     "  [PATH]",
     "          Path to a directory or file (default: current directory)",
     blankLine,
     "          [default: .]",
     "",
     "Options:",
     "      --debug",
     "          Display the AST and the contributing nodes of each file",
     "",
     "      --verbose",
     "          Display each file marked up with per-line decorations",
     "",
     "      --sort",
     "          Sort files from highest to lowest magnitude",
     "",
     "      --workers <WORKERS>",
     "          Number of parallel workers (1-64, default: number of cores)",
     "",
     "  -f, --format <FORMAT>",
     "          Output format: text, json",
     blankLine,
     "          [possible values: text, json]",
     "",
     "      --log-level <LOG_LEVEL>",
     "          Log level (error, warn, info, debug, trace)",
     blankLine,
     "          [default: warn]",
     "          [possible values: error, warn, info, debug, trace]",
     "",
     "  -h, --help",
     "          Print help (see a summary with '-h')",
     "",
     "  -V, --version",
     "          Print version",
     ""] ++ exampleLines)

end AbcMetric
