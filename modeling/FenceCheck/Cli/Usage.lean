import FenceCheck.Cli.Parse

/-!
What the command line says about itself: usage, help and version, and the end of a command that was
not understood.
-/

namespace FenceCheck

namespace Cli

def ofLines (lines : List String) : Text :=
  lines.flatMap fun line => Text.ofString line ++ [.char '\n']

def usage : Text :=
  ofLines
    ["usage: scribectl [-h] [--version] [-i | -j PARALLEL] [--timeout-ms TIMEOUT_MS]",
     "                 [--config CONFIG] [--list] [--json] [--report REPORT]",
     "                 [--junitxml JUNITXML] [--run-id RUN_ID] [--log-json]",
     "                 [--verbose | --quiet]",
     "                 path"]

def help : Text :=
  usage ++ ofLines
    ["",
     "Run the JavaScript and TypeScript code fences found in markdown docs.",
     "",
     "positional arguments:",
     "  path                  markdown file or directory to test",
     "",
     "options:",
     "  -h, --help            show this help message and exit",
     "  --version             show program's version number and exit",
     "  -i, --runInBand       run blocks one at a time",
     "  -j PARALLEL, --parallel PARALLEL",
     "                        number of concurrent workers (default: CPU count)",
     "  --timeout-ms TIMEOUT_MS",
     "                        per-block execution timeout in milliseconds",
     "  --config CONFIG       explicit scribe.yaml or pyproject.toml",
     "  --list                list eligible blocks without running them",
     "  --json                print the run report as JSON on stdout",
     "  --report REPORT       write the JSON run report to this path",
     "  --junitxml JUNITXML   write a JUnit XML report to this path",
     "  --run-id RUN_ID       run identifier for logs and reports",
     "  --log-json            emit verbose log events as JSON lines",
     "  --verbose             enable structured diagnostics on stderr",
     "  --quiet               only print failures and the summary"]

def version : Text := ofLines ["scribectl 0.1.0"]

namespace Halt

def exitCode : Halt → Int
  | help => 0
  | version => 0
  | error _ => 2

def output : Halt → Text
  | help => Cli.help
  | version => Cli.version
  | error _ => []

def errors : Halt → Text
  | error e =>
      usage ++ Text.ofString "scribectl: error: " ++ e.message ++ [.char '\n']
  | _ => []

end Halt

end Cli

end FenceCheck
