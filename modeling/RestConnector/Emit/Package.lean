import RestConnector.Emit.Registration

/-!
# The package

The generated connector is a package whose root module exports what has been generated: the contract
and its implementation, the client, the options and factories, and the models. Which of these there
are is told by the set of artifacts (`Artifact`).
-/

namespace RestConnector.Emit

/-- The kinds of generated files. -/
inductive Artifact where
  | model | contract | client | registration | package
deriving DecidableEq, Repr

/-- The word for a kind of file. -/
def Artifact.label : Artifact → String
  | .model => "model"
  | .contract => "contract"
  | .client => "client"
  | .registration => "registration"
  | .package => "package"

/-- The name of the module that holds the registration. -/
def registrationSource (stem : String) : String :=
  "." ++ stem ++ "_registration"

/-- The statements of the root module that import what an artifact provides. -/
def packageImports (apiName stem : String) : Artifact → List Statement
  | .contract =>
    [.importNames (contractSource stem) [implementationName apiName, contractName apiName] ""]
  | .client => [.importNames (clientSource stem) [clientName apiName] ""]
  | .registration => [.importBlock (registrationSource stem) (optionsName :: factories stem)]
  | .model => [.importAll ".models"]
  | .package => []

/-- The names that the root module lists as exports for an artifact. -/
def packageExports (apiName stem : String) : Artifact → List String
  | .contract => [contractName apiName, implementationName apiName]
  | .client => [clientName apiName]
  | .registration => optionsName :: factories stem
  | .model | .package => []

/-- The artifacts that the root module looks for, in the order in which it imports them. -/
def packaged : List Artifact := [.contract, .client, .registration, .model]

/-- The root module of a connector with the given artifacts. -/
def packageModule (apiName stem : String) (artifacts : List Artifact) : Module :=
  let present := packaged.filter (· ∈ artifacts)
  let names := present.flatMap (packageExports apiName stem)
  [.doc ("Generated connector for the " ++ apiName ++ " API."), .blank] ++
    present.flatMap (packageImports apiName stem) ++
    (if names.isEmpty then [] else [.blank, .exports names])

end RestConnector.Emit
