import RestConnector.Configuration
import RestConnector.Emit.Package
import RestConnector.Emit.Record

/-!
# Generation

From a configuration, `generate` produces the source files of the connector: a package of models with
a module for each record type, and below the root the contract, the client that needs the contract, the
registration that needs the client, and the module that exports them all. A configuration without
endpoints gets no contract, and one from which nothing is generated gets no files at all.

How a contract is written is a parameter (`ContractWriter`): writing may fail, and a failure of the
writer is the failure of the whole generation, whatever has been produced before.
-/

namespace RestConnector

open RestConnector.Emit

/-- A generated file. -/
structure SourceFile where
  name : String
  /-- The directory of the file below the root of the connector; empty for the root itself. -/
  directory : String := ""
  artifact : Artifact := .model
  content : String
deriving DecidableEq, Repr

/-- Writes the contract of an API with a name, a base URL and operations, or fails with a message. -/
abbrev ContractWriter := (apiName baseUrl : String) → List Operation → Except String String

/-- The writer that never fails. -/
def standardWriter : ContractWriter := fun apiName baseUrl operations =>
  .ok (contractModule apiName baseUrl operations).text

namespace Generation

/-- The name of the initial module of a package. -/
def packageFile : String := "__init__.py"

/-- The files of the models: a module for each record type, and the package that exports them. -/
def modelFiles (options : GenerationOptions) (schemas : List (String × Schema.Model)) :
    List SourceFile :=
  let models := closure (schemas.map (·.2))
  models.map (fun model =>
    { name := recordModuleName model ++ ".py", directory := "models", artifact := .model
      content := (recordModule options.frozenModels options.optionalTypes model).text }) ++
  [{ name := packageFile, directory := "models", artifact := .package
     content := (recordsPackage models).text }]

/-- The files of the operations. -/
def operationFiles (writer : ContractWriter) (options : GenerationOptions)
    (apiName stem baseUrl : String) (operations : List Operation) :
    Except String (List SourceFile) :=
  if options.contract && !operations.isEmpty then do
    let contract ← writer apiName baseUrl operations
    let client : List SourceFile :=
      [{ name := stem ++ "_client.py", artifact := .client
         content := (clientModule apiName stem operations).text }]
    let registration : List SourceFile :=
      [{ name := stem ++ "_registration.py", artifact := .registration
         content := (registrationModule apiName stem baseUrl).text }]
    return [{ name := stem ++ "_api.py", artifact := .contract, content := contract }] ++
      (if options.client then client ++ (if options.registration then registration else []) else [])
  else return []

/-- The root module of the package, if there is anything to export. -/
def rootFile (apiName stem : String) (files : List SourceFile) : List SourceFile :=
  if files.isEmpty then []
  else
    [{ name := packageFile, artifact := .package
       content := (packageModule apiName stem (files.map (·.artifact))).text }]

/-- The files of a connector. -/
def generate (writer : ContractWriter) (config : Configuration) :
    Except String (List SourceFile) := do
  let apiName := Name.typeName config.apiName "MyApi"
  let stem := Name.snakeCase apiName
  let models :=
    if config.options.models && !config.schemas.isEmpty then
      modelFiles config.options config.schemas
    else []
  let operations := Operation.planAll config.endpoints
    (if config.options.models then config.schemas else [])
  let rest ← operationFiles writer config.options apiName stem config.baseUrl operations
  let files := models ++ rest
  return files ++ rootFile apiName stem files

end Generation

end RestConnector
