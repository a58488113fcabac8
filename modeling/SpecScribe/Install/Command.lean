import SpecScribe.Install.Installer
import SpecScribe.Shell.Arguments

/-!
The command line of the installer.
-/

namespace SpecScribe.Install

open Shell

def helpText : String :=
  Text.stack
    ["usage: install_tree_sitter.py [-h] [--default] [--all] [--force] [--list]",
     "                              [--no-verify] [--verbose]",
     "                              [languages ...]",
     "",
     "Install Tree-sitter language parsers",
     "",
     "positional arguments:",
     "  languages    Specific languages to install",
     "",
     "options:",
     "  -h, --help   show this help message and exit",
     "  --default    Install default core languages",
     "  --all        Install all supported languages",
     "  --force      Force reinstallation of existing parsers",
     "  --list       List supported languages",
     "  --no-verify  Skip verification after installation",
     "  --verbose    Enable verbose logging",
     "",
     "Examples:",
     "  python install_tree_sitter.py --default          # Install core languages",
     "  python install_tree_sitter.py --all              # Install all languages",
     "  python install_tree_sitter.py python javascript  # Install specific languages",
     "  python install_tree_sitter.py --list             # List supported languages",
     "        ",
     ""]

def usage : Usage where
  flags :=
    [{ names := ["-h", "--help"], effect := .help }, { names := ["--default"] },
     { names := ["--all"] }, { names := ["--force"] }, { names := ["--list"] },
     { names := ["--no-verify"] }, { names := ["--verbose"] }]
  operands := true

def languageLine (l : Language) : String :=
  let others := (aliases.filter (·.2 == l)).map (·.1)
  "  " ++ Text.padEnd 12 l.name ++ " -> " ++ packageName l
    ++ if others.isEmpty then "" else " (aliases: " ++ ", ".intercalate others ++ ")"

def listLanguages : Run Unit := do
  say "Supported Languages:"
  say (String.ofList (List.replicate 50 '='))
  for l in Language.all do
    say (languageLine l)
  say ("\nTotal: " ++ toString Language.all.length ++ " languages supported")
  say ("Default core languages: " ++ ", ".intercalate (Language.all.map Language.name))

/-- Runs the command; the exit code is missing if it ends without one. -/
def runCommand (site : Site) (argv : List String) : Run (Option Int) := do
  match usage.parse argv with
  | .usage => return some 2
  | .help =>
    modify fun s => { s with printed := s.printed ++ [helpText] }
    return some 0
  | .read a =>
    let force := a.has "--force"
    if a.has "--list" then
      listLanguages
      return none
    let success ←
      if a.has "--all" || a.has "--default" || a.operands.isEmpty then
        installFor site allNames force
      else installFor site (toDatum a.operands) force (!a.has "--no-verify")
    return some (if success then 0 else 1)

end SpecScribe.Install
