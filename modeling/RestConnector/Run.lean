import RestConnector.Generation
import RestConnector.Report
import RestConnector.Survey.Discovery
import RestConnector.Survey.Journal
import RestConnector.Survey.Sampling
import RestConnector.Url.Parts

/-!
# Runs

A *run* makes a connector for the API at a base URL, in five steps. The names that the configuration
leaves open are filled in (`prepare`); in one session the API is probed, its endpoints are discovered
and their models inferred (`survey`); the source files are generated; and the files are written, with
the discovery report if it is wanted (`deliver`).

A run that fails leaves behind what its earlier steps have done: an `Outcome` has the configuration,
the journal and the file tree at the end beside the result. An API that cannot be reached is no failure:
the run goes on with the endpoints that are known.
-/

namespace RestConnector

open RestConnector.Disk RestConnector.Survey RestConnector.Text

/-- What a run has achieved. -/
structure Summary where
  endpointsFound : Nat
  schemasInferred : Nat
  filesWritten : Nat
  outputPath : String
  connectivity : Probe
deriving DecidableEq, Repr

/-- Why a run has failed. -/
inductive RunFault where
  | noBaseUrl
  /-- The network did something that no step is prepared for. -/
  | crashed (message : String)
  | generationFailed (message : String)
  | notWritten (fault : Disk.Fault)
deriving DecidableEq, Repr

/-- What is said about a failure. -/
def RunFault.message : RunFault → String
  | .noBaseUrl => "Base URL is required"
  | .crashed message => message
  | .generationFailed message => "Code generation failed: " ++ message
  | .notWritten fault => fault.message

/-- What a run leaves behind. -/
structure Outcome where
  result : Except RunFault Summary
  config : Configuration
  journal : Journal
  tree : FileTree

namespace Run

/-- A text, or another one in place of the empty text. -/
def orElse (text other : String) : String :=
  if text.isEmpty then other else text

/-- The package name that goes with the name of an API. -/
def packageName (apiName : String) : String :=
  Name.snakeCase apiName ++ "_client"

/-- The output path of a package below an output directory. -/
def outputPath (outputDirectory packageName : String) : String :=
  ((Location.ofString outputDirectory).join packageName).toString

/-- Trims the base URL and fills in the names that a configuration leaves open: the API is named for
its host, the package for the API, and the output path for the package. Without a base URL there is
nothing to be done. -/
def prepare (settings : Settings) (config : Configuration) : Except RunFault Configuration :=
  if isAllBlank config.baseUrl then .error .noBaseUrl
  else
    let baseUrl := onChars trim config.baseUrl
    let apiName := orElse config.apiName (Url.apiName baseUrl "MyApi")
    let package := orElse config.packageName (packageName apiName)
    .ok { config with
      baseUrl, apiName
      packageName := package
      outputPath := orElse config.outputPath (outputPath settings.outputDirectory package) }

/-- What a run finds out about an API. The endpoints are known even if the inference of models has
crashed. -/
structure Findings where
  connectivity : Probe
  endpoints : List Endpoint
  models : Except String (List Schema.Model)

/-- Finds out about the API of a configuration. -/
def survey (settings : Settings) (config : Configuration) : Exchange Findings := do
  let connectivity ← connectivity settings.timeout config.baseUrl
  let endpoints ← discover settings.timeout config.baseUrl config.endpoints
  let models ← Exchange.attempt
    (inferModels settings.timeout settings.maxSamples config.baseUrl endpoints)
  return { connectivity, endpoints, models }

/-- The place of a file below an output directory. -/
def placeOf (output : String) (file : SourceFile) : Location :=
  let root := Location.ofString output
  if file.directory.isEmpty then root.join file.name
  else (root.join file.directory).join file.name

/-- Writes files below an output directory, in order, and tells where. -/
def write (output : String) : List SourceFile → Action (List Location)
  | [] => return []
  | file :: rest => do
    let target := placeOf output file
    Action.save target file.content
    let targets ← write output rest
    return target :: targets

/-- Writes the files of a connector, and the report if it is wanted; tells how many files belong to
the connector. -/
def deliver (withReport : Bool) (config : Configuration) (files : List SourceFile) :
    Action Nat := do
  let written ← write config.outputPath files
  if withReport then
    let _ ← Report.save config config.outputPath
  return written.length

/-- Adds the models that were inferred to the schemas; those that are there keep their names. -/
def addSchemas (schemas : List (String × Schema.Model)) (models : List Schema.Model) :
    List (String × Schema.Model) :=
  models.foldl Configuration.addSchema schemas

/-- Generates and writes the connector of a configuration for which everything has been found out. -/
def build (writer : ContractWriter) (withReport : Bool) (connectivity : Probe)
    (config : Configuration) (journal : Journal) (tree : FileTree) : Outcome :=
  match Generation.generate writer config with
  | .error message => { result := .error (.generationFailed message), config, journal, tree }
  | .ok files =>
    match deliver withReport config files tree with
    | (.error fault, tree) => { result := .error (.notWritten fault), config, journal, tree }
    | (.ok written, tree) =>
      { result := .ok
          { endpointsFound := config.endpoints.length
            schemasInferred := config.schemas.length
            filesWritten := written
            outputPath := config.outputPath
            connectivity }
        config, journal, tree }

/-- Makes the connector of a configuration. -/
def run (writer : ContractWriter) (network : Network) (settings : Settings) (withReport : Bool)
    (config : Configuration) (journal : Journal) (tree : FileTree) : Outcome :=
  match prepare settings config with
  | .error fault => { result := .error fault, config, journal, tree }
  | .ok config =>
    let session := Session.create config.credentials settings
    match (survey settings config).inSession session network journal with
    | (.error crash, journal) => { result := .error (.crashed crash), config, journal, tree }
    | (.ok findings, journal) =>
      let config := { config with endpoints := findings.endpoints }
      match findings.models with
      | .error crash => { result := .error (.crashed crash), config, journal, tree }
      | .ok models =>
        build writer withReport findings.connectivity
          { config with schemas := addSchemas config.schemas models } journal tree

end Run

end RestConnector
