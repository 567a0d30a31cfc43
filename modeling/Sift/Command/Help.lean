import Sift.Command.Arguments

/-! # The help text

Options stand in two columns; a description that is too long for a line of a hundred characters
goes on below its start. -/

namespace Sift.Command

/-- How many characters a line has. -/
def lineWidth : Nat := 100

/-- Breaks words into lines of a width, each as full as can be.  `line` is the present line. -/
def fill (width : Nat) (line : String) : List String → List String
  | [] => [line]
  | word :: rest =>
    if line.length + 1 + word.length ≤ width then fill width (line ++ " " ++ word) rest
    else line :: fill width word rest

/-- A name and its description in two columns, the second starting after `column` characters. -/
def row (column : Nat) (name description : String) : String :=
  let lead := name ++ "".pushn ' ' (column - name.length)
  match description.splitOn " " with
  | [] => lead
  | word :: rest =>
    let lines := fill (lineWidth - column) word rest
    lead ++ ("\n" ++ "".pushn ' ' column).intercalate lines

/-- What a setting is for, and what the environment says. -/
def Setting.description (environment : String → Option String) (setting : Setting) : String :=
  let purpose := match setting with
    | .rules => "YAML file with anyOf/isString/isDate field lists"
    | .vault => "Match Markdown frontmatter under this directory"
  let value := (environment setting.environmentName).getD ""
  purpose ++ " [env: " ++ setting.environmentName ++ "=" ++ value ++ "]"

/-- The help text. -/
def help (environment : String → Option String) : String :=
  "\n".intercalate [
    "Compile search strings into document-store filters",
    "",
    "Usage: searchq [OPTIONS] <QUERY>",
    "",
    "Arguments:",
    row 11 "  <QUERY>" "Search string, e.g. 'deck:foo tag:hard due:+1d'",
    "",
    "Options:",
    row 23 "      --rules <RULES>" (Setting.rules.description environment),
    row 23 "      --vault <VAULT>" (Setting.vault.description environment),
    row 23 "      --stdin" "Read file paths from stdin (use with --vault)",
    row 23 "      --pretty" "Pretty-print the compiled filter",
    row 23 "  -h, --help" "Print help",
    ""]

end Sift.Command
