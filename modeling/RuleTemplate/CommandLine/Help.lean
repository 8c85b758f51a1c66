import RuleTemplate.Resolution.Journal

/-!
What the command line says about itself.
-/
namespace RuleTemplate.CommandLine

def versionText : String := "hoist 0.1.0"

def logVariable : String := "HOIST_LOG"

def helpLines : List String := [
  versionText,
  "",
  "Resolve a JSON template of rule objects against a JSON context store.",
  "",
  "Usage:",
  "  hoist [OPTIONS] [--] <template.json>",
  "  hoist [OPTIONS] < template.json",
  "",
  "Options:",
  "  -t, --template <file>      Template JSON object. Read from stdin when omitted.",
  "  -c, --context <file>       Context store JSON object (\x7b\"@ns\": \x7b...\x7d\x7d).",
  "  --reference <timestamp>    Reference time for the built-in @date namespace,",
  "                             YYYY-MM-DDTHH:MM:SS. Default: local now.",
  "  --max-depth <n>            Maximum indirection depth. Default: " ++
    toString ({} : Options).maxDepth,
  "  --collapse-falsy           Resolve false/0/\"\" rule outcomes to null.",
  "  -v, --verbose              Print a resolution report to stderr.",
  "  --color                    Force ANSI color in the report.",
  "  --no-color                 Disable ANSI color in the report.",
  "  -h, --help                 Show this help message.",
  "  -V, --version              Print version information.",
  "",
  "Environment:",
  "  " ++ logVariable ++
    "                  Log filter (e.g. debug, hoist=trace). Default: warn",
  "",
  "Exit codes:",
  "  0  Success.",
  "  1  Resolution or input error.",
  "  2  Invalid arguments.",
  ""]

def helpText : String := "\n".intercalate helpLines

end RuleTemplate.CommandLine
