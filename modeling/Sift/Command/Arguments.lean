import Sift.Path

/-! # Arguments

The command takes a query, two settings with a value, which may also come from the environment,
and two flags.  After two dashes everything is taken as it is. -/

namespace Sift.Command

/-- An option with a value. -/
inductive Setting where
  /-- The rule file. -/
  | rules
  /-- The directory of notes to search. -/
  | vault
  deriving DecidableEq

/-- An option without a value. -/
inductive Flag where
  /-- The paths to search come from the input. -/
  | stdin
  /-- The filter is printed with line breaks. -/
  | pretty
  deriving DecidableEq

namespace Setting

def name : Setting → String
  | .rules => "rules"
  | .vault => "vault"

/-- The variable of the environment that gives the value when the arguments do not. -/
def environmentName : Setting → String
  | .rules => "SEARCHQ_RULES"
  | .vault => "SEARCHQ_VAULT"

def all : List Setting := [.rules, .vault]

end Setting

namespace Flag

def name : Flag → String
  | .stdin => "stdin"
  | .pretty => "pretty"

def all : List Flag := [.stdin, .pretty]

end Flag

/-- What is wrong with the arguments. -/
inductive UsageError where
  | unknownOption (text : String)
  | missingValue (setting : Setting)
  | emptyValue (setting : Setting)
  | unneededValue (option : String)
  | repeated (option : String)
  | extraArgument (text : String)
  | missingQuery
  deriving DecidableEq

def UsageError.message : UsageError → String
  | .unknownOption text => "unexpected argument '" ++ text ++ "' found"
  | .missingValue setting => "'--" ++ setting.name ++ "' needs a value"
  | .emptyValue setting => "'--" ++ setting.name ++ "' needs a value that is not empty"
  | .unneededValue option => "'--" ++ option ++ "' takes no value"
  | .repeated option => "'--" ++ option ++ "' cannot be used multiple times"
  | .extraArgument text => "unexpected argument '" ++ text ++ "' found"
  | .missingQuery => "the query is missing"

/-- What the command is asked to do. -/
structure Arguments where
  rules : Option Path
  vault : Option Path
  stdin : Bool
  pretty : Bool
  query : String
  deriving DecidableEq

/-- A well-formed call. -/
inductive Request where
  | help
  | search (arguments : Arguments)
  deriving DecidableEq

/-- The arguments read so far. -/
structure Draft where
  rules : Option String := none
  vault : Option String := none
  stdin : Bool := false
  pretty : Bool := false
  query : Option String := none

namespace Draft

def value? (draft : Draft) : Setting → Option String
  | .rules => draft.rules
  | .vault => draft.vault

/-- Gives a setting its value, once. -/
def assign (draft : Draft) (setting : Setting) (value : String) : Except UsageError Draft :=
  -- emptiness is found first, whether or not the setting has a value
  if value.isEmpty then .error (.emptyValue setting)
  else if (draft.value? setting).isSome then .error (.repeated setting.name)
  else match setting with
    | .rules => .ok { draft with rules := some value }
    | .vault => .ok { draft with vault := some value }

/-- Raises a flag, once. -/
def raise (draft : Draft) : Flag → Except UsageError Draft
  | .stdin =>
    if draft.stdin then .error (.repeated Flag.stdin.name) else .ok { draft with stdin := true }
  | .pretty =>
    if draft.pretty then .error (.repeated Flag.pretty.name) else .ok { draft with pretty := true }

/-- Takes an argument that is no option: the query, once. -/
def place (draft : Draft) (text : String) : Except UsageError Draft :=
  if draft.query.isSome then .error (.extraArgument text)
  else .ok { draft with query := some text }

end Draft

/-- An argument by its form. -/
inductive Argument where
  /-- Two dashes: no options follow. -/
  | separator
  /-- `--name` or `--name=value`. -/
  | long (name : String) (value : Option String)
  /-- One dash and some letters. -/
  | short (letters : List Char)
  | plain

/-- The form of an argument. -/
def Argument.ofText (text : String) : Argument :=
  match text.toList with
  | ['-', '-'] => .separator
  | '-' :: '-' :: rest =>
    let name := String.ofList (rest.takeWhile (· != '='))
    match rest.dropWhile (· != '=') with
    | [] => .long name none
    | _ :: value => .long name (some (String.ofList value))
  | '-' :: c :: rest => .short (c :: rest)
  | _ => .plain

/-- Reads arguments one after another.  Asking for help ends the reading, by `none`. -/
def readArguments (draft : Draft) : List String → Except UsageError (Option Draft)
  | [] => .ok (some draft)
  | text :: rest =>
    match Argument.ofText text with
    -- behind two dashes nothing is an option, not even a call for help
    | .separator => do return some (← rest.foldlM Draft.place draft)
    | .plain => do readArguments (← draft.place text) rest
    -- of several letters the first decides
    | .short letters => if letters.head? == some 'h' then .ok none else .error (.unknownOption text)
    | .long name value =>
      match Setting.all.find? (·.name == name), Flag.all.find? (·.name == name) with
      -- a setting without a value takes the next argument
      | some setting, _ =>
        match value, rest with
        | some value, rest => do readArguments (← draft.assign setting value) rest
        | none, [] => .error (.missingValue setting)
        | none, value :: rest =>
          -- an option is not taken for a value
          match Argument.ofText value with
          | .plain => do readArguments (← draft.assign setting value) rest
          | _ => .error (.missingValue setting)
      | none, some flag =>
        if value.isSome then .error (.unneededValue name)
        else do readArguments (← draft.raise flag) rest
      | none, none =>
        if name != "help" then .error (.unknownOption text)
        else if value.isSome then .error (.unneededValue name)
        else .ok none

/-- The value of a setting, from the arguments or else from the environment. -/
def settle (environment : String → Option String) (draft : Draft) (setting : Setting) :
    Except UsageError (Option Path) :=
  match (draft.value? setting).or (environment setting.environmentName) with
  | none => .ok none
  | some value => if value.isEmpty then .error (.emptyValue setting) else .ok (some ⟨value⟩)

/-- Reads a call. -/
def parse (environment : String → Option String) (arguments : List String) :
    Except UsageError Request := do
  match ← readArguments {} arguments with
  | none => return .help
  | some draft =>
    let rules ← settle environment draft .rules
    let vault ← settle environment draft .vault
    match draft.query with
    | none => .error .missingQuery
    | some query =>
      return .search
        { rules := rules, vault := vault, stdin := draft.stdin, pretty := draft.pretty
          query := query }

end Sift.Command
