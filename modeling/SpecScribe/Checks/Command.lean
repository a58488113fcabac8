import SpecScribe.Checks.Runner
import SpecScribe.Shell.Arguments
import SpecScribe.Workspace.Store

/-!
The command line of the checks.
-/

namespace SpecScribe.Checks

open Shell

def helpText : String :=
  Text.stack
    ["usage: run_tests.py [-h]",
     "                    (--quick | --full | --test \x7bunit,integration,cli,all\x7d | --lint \x7bruff,black,mypy,all\x7d | --install)",
     "                    [--verbose] [--coverage] [--fix] [--fail-fast]",
     "                    [--parallel]",
     "",
     "Test runner for AI Specification Generator",
     "",
     "options:",
     "  -h, --help            show this help message and exit",
     "  --quick               Run quick validation (syntax, format, unit tests)",
     "  --full                Run full validation suite",
     "  --test \x7bunit,integration,cli,all\x7d",
     "                        Run specific test category",
     "  --lint \x7bruff,black,mypy,all\x7d",
     "                        Run specific linting tool",
     "  --install             Install test dependencies",
     "  --verbose, -v         Enable verbose output",
     "  --coverage            Enable coverage reporting (for tests)",
     "  --fix                 Apply automatic fixes (for linting)",
     "  --fail-fast, -x       Stop on first test failure",
     "  --parallel, -n        Run tests in parallel",
     "",
     "Examples:",
     "  python scripts/run_tests.py --quick              # Quick validation",
     "  python scripts/run_tests.py --full               # Full validation suite",
     "  python scripts/run_tests.py --test unit          # Run unit tests only",
     "  python scripts/run_tests.py --lint ruff --fix    # Run and fix ruff issues",
     "  python scripts/run_tests.py --install            # Install test dependencies",
     "        ",
     ""]

def usage : Usage where
  flags :=
    [{ names := ["-h", "--help"], effect := .help }, { names := ["--quick"], mode := true },
     { names := ["--full"], mode := true },
     { names := ["--test"], effect := .choice (categories.map (·.name)), mode := true },
     { names := ["--lint"], effect := .choice (tools.map (·.name) ++ ["all"]), mode := true },
     { names := ["--install"], mode := true }, { names := ["--verbose", "-v"] },
     { names := ["--coverage"] }, { names := ["--fix"] }, { names := ["--fail-fast", "-x"] },
     { names := ["--parallel", "-n"] }]

def chosen (a : Arguments) (r : Runner) : Run (Bool × Runner) := do
  if a.has "--install" then return (← installDependencies, r)
  else if a.has "--quick" then r.quick
  else if a.has "--full" then r.full
  else
    match a.value? "--test", a.value? "--lint" with
    | some c, _ =>
      r.runTests (.text c)
        { verbose := a.has "--verbose", coverage := a.has "--coverage",
          failFast := a.has "--fail-fast", parallel := a.has "--parallel" }
    | none, some t => r.runLinting (.text t) (a.has "--fix") (a.has "--verbose")
    | none, none => return (false, r)

/-- The file by which the directory of the project is known. -/
def projectFile : Workspace.Path := ⟨"", ["pyproject.toml"]⟩

def noProject : String := "Error: Could not find project root (pyproject.toml not found)"

/-- Runs the command in a directory and gives its exit code. -/
def runCommand (directory : Workspace.Store) (argv : List String) : Run Int := do
  match usage.parse argv with
  | .usage => return 2
  | .help =>
    modify fun s => { s with printed := s.printed ++ [helpText] }
    return 0
  | .read a =>
    if !directory.has projectFile then
      say noProject
      return 1
    let (success, r) ← chosen a {}
    r.report
    return if success then 0 else 1

end SpecScribe.Checks
