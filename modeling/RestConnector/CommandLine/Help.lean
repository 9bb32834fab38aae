import RestConnector.CommandLine.Arguments

/-!
# Help

`usage` is the one line that shows how a part of the program is called, and `help` the page that goes
with it: what the part does, its options, and for the whole program its commands. Options and commands
are listed in two columns; an entry that is too wide for the first column has a line of its own.
-/

namespace RestConnector.CommandLine

/-- The name under which the program is called. -/
def programName : String := "cli"

/-- The version of the program. -/
def version : String := "1.0.0"

namespace Part

/-- The words that call a part. -/
def call : Part → String
  | .program => programName
  | .command chosen => programName ++ " " ++ chosen.name

/-- What follows the words that call a part. -/
def operands : Part → String
  | .program => "COMMAND [ARGS]..."
  | .command .generate => "[BASE_URL]"
  | .command _ => "BASE_URL"

/-- How a part is called. -/
def usage (part : Part) : String :=
  "Usage: " ++ part.call ++ " [OPTIONS] " ++ part.operands

end Part

/-- What a command does. -/
def Command.summary : Command → String
  | .generate => "Discover an API and generate a client connector."
  | .probe => "Check that an API is reachable."
  | .discover => "List the endpoints discovered for an API."

/-- What a part does. -/
def Part.summary : Part → String
  | .program => "API Connector Generator - build typed clients for unknown REST APIs."
  | .command chosen => chosen.summary

namespace OptionName

/-- The word for the value of an option. -/
def placeholder : OptionName → String
  | .auth => "[" ++ String.intercalate "|" (Authentication.all.map Authentication.label) ++ "]"
  | .output => "DIRECTORY"
  | _ => "TEXT"

/-- The left column of an option. -/
def entry (option : OptionName) : String :=
  match option.letter? with
  | some c => String.ofList ['-', c] ++ ", " ++ option.spelling
  | none => option.spelling ++ (if option.takesValue then " " ++ option.placeholder else "")

/-- What an option is for. -/
def summary : OptionName → String
  | .help => "Show this message and exit."
  | .version => "Show the version and exit."
  | .verbose => "Enable debug logging"
  | .name => "API name (defaults to the host name)"
  | .package => "Generated package name"
  | .output => "Output directory"
  | .noModels => "Skip model generation"
  | .noContract => "Skip contract generation"
  | .noClient => "Skip client generation"
  | .noRegistration => "Skip registration generation"
  | .mutableModels => "Do not freeze generated models"
  | .report => "Also write discovery.json"
  | .interactive => "Prompt for missing values"
  | .checkAuth => "Also check that credentials are accepted"
  | .auth => "Authentication used while probing"
  | .apiKey => "API key value"
  | .apiKeyHeader => "[default: X-API-Key]"
  | .token => "Bearer token"
  | .username => "Basic auth username"
  | .password => "Basic auth password"
  | .clientId => "OAuth2 client id"
  | .clientSecret => "OAuth2 client secret"
  | .tokenEndpoint => "OAuth2 token endpoint"
  | .scope => "OAuth2 scope"

end OptionName

/-- The widest entry that shares a line with what is said about it. -/
def widestEntry : Nat := 30

/-- So many spaces. -/
def spaces (n : Nat) : String :=
  String.ofList (List.replicate n ' ')

/-- One entry of a list with `width` characters in its first column. -/
def listEntry (width : Nat) (entry : String × String) : List String :=
  if entry.1.length ≤ width then
    ["  " ++ entry.1 ++ spaces (width + 2 - entry.1.length) ++ entry.2]
  else ["  " ++ entry.1, spaces (width + 4) ++ entry.2]

/-- A list in two columns under a heading. -/
def columns (heading : String) (entries : List (String × String)) : List String :=
  let width := min widestEntry ((entries.map fun entry => entry.1.length).foldl max 0)
  ["", heading ++ ":"] ++ entries.flatMap (listEntry width)

/-- The lines of the page of help on a part. -/
def Part.help (part : Part) : List String :=
  [part.usage, "", "  " ++ part.summary] ++
    columns "Options" (part.options.map fun option => (option.entry, option.summary)) ++
    match part with
    | .program =>
      columns "Commands" (Command.all.map fun command => (command.name, command.summary))
    | .command _ => []

end RestConnector.CommandLine
