import RestConnector.Emit.Contract

/-!
# The client

The client module defines the class that users work with. It has the methods of the contract, each of
which passes its arguments on and returns the result unchanged; besides, it owns the connection that it
was given and closes it when it is left.
-/

namespace RestConnector.Emit

open RestConnector.Text

/-- The name of the client class. -/
def clientName (apiName : String) : String :=
  apiName ++ "Client"

/-- The name of the module that holds the contract. -/
def contractSource (stem : String) : String :=
  "." ++ stem ++ "_api"

/-- The name of the module that holds the client. -/
def clientSource (stem : String) : String :=
  "." ++ stem ++ "_client"

/-- The method of an operation in the client. -/
def clientMethod (operation : Operation) : List String :=
  [ "",
    methodHeader operation,
    docLine "        " operation.description,
    "        return await self._api." ++ operation.name ++ "(" ++ operation.callArguments ++ ")" ]

/-- The lines of the client class. -/
def clientClass (apiName : String) (operations : List Operation) : List String :=
  [ "class " ++ clientName apiName ++ ":",
    docLine "    " ("High-level client for the " ++ apiName ++ " API."),
    "",
    "    def __init__(self, api: " ++ contractName apiName ++
      ", http: Optional[httpx.AsyncClient] = None):",
    "        self._api = api",
    "        self._http = http",
    "",
    "    async def __aenter__(self) -> \"" ++ clientName apiName ++ "\":",
    "        return self",
    "",
    "    async def __aexit__(self, exc_type, exc, tb) -> None:",
    "        await self.aclose()",
    "",
    "    async def aclose(self) -> None:",
    docLine "        " "Close the underlying transport, if the client owns one.",
    "        if self._http is not None:",
    "            await self._http.aclose()" ] ++
  operations.flatMap clientMethod

/-- The module of the client. -/
def clientModule (apiName stem : String) (operations : List Operation) : Module :=
  [.doc ("Client for the " ++ apiName ++ " API. Generated, do not edit."), .blank] ++
    importStatements (importsFor (operations.flatMap Operation.typeTexts) ["Optional"]) ++
    [.blank, .importModule "httpx", .blank,
      .importNames (contractSource stem) [contractName apiName] ""] ++
    modelImports operations ++
    gap ++ [.define (clientName apiName) (clientClass apiName operations)]

end RestConnector.Emit
