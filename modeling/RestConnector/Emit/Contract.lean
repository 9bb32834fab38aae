import RestConnector.Emit.Module
import RestConnector.Operation

/-!
# The contract and its implementation

The contract module defines two classes: a protocol with one method for every operation, and an
implementation that sends each call over HTTP. Both have the same methods with the same headers, since
both write them with `methodHeader`.
-/

namespace RestConnector.Emit

open RestConnector.Text

/-- The name of the contract class. -/
def contractName (apiName : String) : String :=
  apiName ++ "Api"

/-- The name of the implementation of the contract. -/
def implementationName (apiName : String) : String :=
  "Http" ++ contractName apiName

/-- The record types that operations refer to, in order. -/
def modelNames (operations : List Operation) : List String :=
  Sorted.sortedSet (operations.filterMap fun operation => operation.model.map (·.recordName))

/-- The first line of the method of an operation. -/
def methodHeader (operation : Operation) : String :=
  "    async def " ++ operation.name ++ "(" ++ operation.signature ++ ") -> " ++
    operation.returnType ++ ":"

/-- The import of the record types that operations refer to, if there are any. -/
def modelImports (operations : List Operation) : List Statement :=
  match modelNames operations with
  | [] => []
  | names => [.importNames ".models" names ""]

/-! ## The contract -/

/-- The method of an operation in the contract. -/
def contractMethod (operation : Operation) : List String :=
  [ "",
    methodHeader operation,
    docLine "        "
      (operation.description ++ " (" ++ operation.method ++ " " ++ operation.path ++ ")"),
    "        ..." ]

/-- The lines of the contract class. -/
def contractClass (apiName : String) (operations : List Operation) : List String :=
  [ "class " ++ contractName apiName ++ "(Protocol):",
    docLine "    " ("Operations exposed by the " ++ apiName ++ " API.") ] ++
  operations.flatMap contractMethod

/-! ## The implementation -/

/-- The expression for the URL of an operation: a formatted literal if the path has parameters. -/
def urlExpression (operation : Operation) : String :=
  if operation.pathParameters.isEmpty then stringLiteral operation.path
  else "f" ++ stringLiteral operation.template

/-- The argument that passes the body, for the operations that have one. -/
def bodyArgument (operation : Operation) : List String :=
  match operation.bodyType, operation.model with
  | none, _ => []
  | some _, some _ => ["json=body.model_dump(mode=\"json\", by_alias=True)"]
  | some _, none => ["json=body"]

/-- The line that sends the request of an operation. -/
def sendLine (operation : Operation) : String :=
  "        response = await self._http." ++ Text.lower operation.method ++ "(" ++
    commaList (urlExpression operation :: bodyArgument operation) ++ ")"

/-- The line that returns the decoded response of an operation. -/
def returnLine (operation : Operation) : String :=
  match operation.model with
  | none => "        return response.json()"
  | some model =>
    if operation.returnsList then
      "        return [" ++ model.recordName ++
        ".model_validate(item) for item in response.json()]"
    else "        return " ++ model.recordName ++ ".model_validate(response.json())"

/-- The method of an operation in the implementation. -/
def implementationMethod (operation : Operation) : List String :=
  ["", methodHeader operation, sendLine operation] ++
    if operation.method = "DELETE" then ["        return response.is_success"]
    else ["        response.raise_for_status()", returnLine operation]

/-- The lines of the implementation. -/
def implementationClass (apiName : String) (operations : List Operation) : List String :=
  [ "class " ++ implementationName apiName ++ ":",
    docLine "    " (contractName apiName ++ " implementation backed by httpx.AsyncClient."),
    "",
    "    def __init__(self, http: httpx.AsyncClient):",
    "        self._http = http" ] ++
  operations.flatMap implementationMethod

/-- The module of the contract and its implementation. -/
def contractModule (apiName baseUrl : String) (operations : List Operation) : Module :=
  let imports := importsFor (operations.flatMap Operation.typeTexts) ["Protocol"]
  let models := modelImports operations
  [.doc ("Contract for the " ++ apiName ++ " API (" ++ baseUrl ++ "). Generated, do not edit."),
    .blank] ++
    importStatements imports ++
    [.blank, .importModule "httpx"] ++
    (if models.isEmpty then [] else .blank :: models) ++
    gap ++ [.define (contractName apiName) (contractClass apiName operations)] ++
    gap ++ [.define (implementationName apiName) (implementationClass apiName operations)]

end RestConnector.Emit
