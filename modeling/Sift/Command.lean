import Sift.Command.Help
import Sift.Filter.Compile
import Sift.Filter.Printer
import Sift.Frontmatter
import Sift.Matcher
import Sift.RuleFile
import Sift.Vault

/-! # The command

The command compiles a query and prints its filter, or, given a vault, lists the notes whose
frontmatter fits it.  What it prints and its exit code depend only on its arguments, the
environment, the files, the input and the present time. -/

namespace Sift.Command

/-- Why the command gives up. -/
inductive Failure where
  | usage (error : UsageError)
  | ruleFile (path : Path) (error : RuleFile.RuleFileError)
  | query (error : QueryError)
  | pattern (error : InvalidPattern)
  deriving DecidableEq

def Failure.message : Failure → String
  | .usage error => "error: " ++ error.message
  | .ruleFile path error => "Error: " ++ error.message ++ " " ++ path.text
  | .query error => "Query error: " ++ error.message
  | .pattern error => "Query error: " ++ error.message

/-- All that a call can see. -/
structure Surroundings where
  environment : String → Option String
  files : FileSystem
  input : ByteArray
  now : Instant

/-- What a call leaves behind. -/
structure Outcome where
  code : Nat
  output : String
  failure : Option Failure := none

/-- The outcome of a call that gives up: nothing is printed. -/
def Outcome.ofFailure (failure : Failure) : Outcome := ⟨2, "", some failure⟩

/-- Lines of output, each with its end. -/
def printed (lines : List String) : String := String.join (lines.map (· ++ "\n"))

/-- The rule of a rule file, or the empty rule without one. -/
def loadRule (files : FileSystem) : Option Path → Except Failure Rule
  | none => .ok {}
  | some path => (RuleFile.load (files.read? path)).mapError (.ruleFile path)

/-- The paths in the input: its lines without white space around them, where something is left. -/
def inputPaths (input : ByteArray) : List Path :=
  (((Text.lines input).map Text.trim).filter (!·.isEmpty)).map fun line => ⟨String.ofList line⟩

/-- The paths to look at: those in the input or the notes of the vault. -/
def candidates (around : Surroundings) (stdin : Bool) (vault : Path) : List Path :=
  if stdin then inputPaths around.input else Vault.list around.files vault

/-- Whether a file has a document that a matcher accepts. -/
def fits (files : FileSystem) (matcher : Matcher) (path : Path) : Bool :=
  ((files.read? path).bind Frontmatter.document?).any matcher.accepts

/-- How a path is shown: without the vault's, if it lies below. -/
def shown (vault path : Path) : String := ((vault.below? path).getD path).text

/-- Lists the paths that fit; the code tells whether there are any. -/
def listMatches (around : Surroundings) (stdin : Bool) (vault : Path) (matcher : Matcher) :
    Outcome :=
  let found := (candidates around stdin vault).filter (fits around.files matcher)
  ⟨if found.isEmpty then 1 else 0, printed (found.map (shown vault)), none⟩

/-- Answers a well-formed call. -/
def search (around : Surroundings) (arguments : Arguments) : Except Failure Outcome := do
  let rule ← loadRule around.files arguments.rules
  let filter ← (Filter.compile rule around.now arguments.query).mapError .query
  match arguments.vault with
  | none =>
    -- without a vault the filter itself is the answer
    return ⟨0, printed [if arguments.pretty then filter.toJson.pretty else filter.text], none⟩
  | some vault =>
    -- patterns are read only where something is to be matched
    let matcher ← (Matcher.ofFilter filter).mapError .pattern
    return listMatches around arguments.stdin vault matcher

/-- Answers a call. -/
def run (around : Surroundings) (arguments : List String) : Outcome :=
  match parse around.environment arguments with
  | .error error => .ofFailure (.usage error)
  | .ok .help => ⟨0, help around.environment, none⟩
  | .ok (.search arguments) =>
    match search around arguments with
    | .error failure => .ofFailure failure
    | .ok outcome => outcome

end Sift.Command
