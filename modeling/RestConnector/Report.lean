import RestConnector.Configuration
import RestConnector.Disk.FileTree
import RestConnector.Json.Printer

/-!
# The discovery report

The report lists what a run has found out about an API, as a JSON document: what the API is called and
where it is, how many endpoints and schemas there are, then the endpoints in order and the schemas
under their keys. It is written in ASCII over several lines, to a file of a fixed name in the output
directory.
-/

namespace RestConnector.Report

open RestConnector.Disk RestConnector.Json

/-- The name of the file that holds the report. -/
def fileName : String := "discovery.json"

/-- The report on a configuration. -/
def value (config : Configuration) : Value :=
  .object [
    ("metadata", .object [
      ("api_name", .string config.apiName),
      ("base_url", .string config.baseUrl),
      ("endpoints", .integer config.endpoints.length),
      ("schemas", .integer config.schemas.length)]),
    ("endpoints", .array (config.endpoints.map Endpoint.toJson)),
    ("schemas", .object (config.schemas.map fun entry => (entry.1, entry.2.toJson)))]

/-- The text of the report. -/
def text (config : Configuration) : String :=
  pretty (value config)

/-- Saves the report on a configuration below an output directory, and tells where. -/
def save (config : Configuration) (output : String) : Action Location := do
  let target := (Location.ofString output).join fileName
  Action.save target (text config)
  return target

end RestConnector.Report
