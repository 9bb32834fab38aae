import RestConnector.Endpoint
import RestConnector.Name.Fresh
import RestConnector.Schema.Inference

/-!
# Operations

An *operation* is what the generated client offers for one endpoint: a method with a name, parameters
and a result type. It is planned once (`plan`), and everything that is generated for an endpoint is
written from the plan, so that contract, implementation and client agree on it.

The name tells the method and the resource, in the plural where a list is read and in the singular
otherwise. Names that come again are numbered in order of the endpoints (`planAll`), so an endpoint
added at the end never renames an earlier one. A path parameter is passed for every placeholder; the
methods that send a body take it as the last parameter.
-/

namespace RestConnector

open RestConnector.Name

/-- A parameter of an operation that stands for a placeholder of its path. -/
structure PathParameter where
  name : String
  typeText : String
  /-- The name of the placeholder in the path. -/
  placeholder : String
deriving DecidableEq, Repr

/-- What is generated for one endpoint. -/
structure Operation where
  name : String
  method : String
  path : String
  /-- The path with its placeholders renamed to the parameters. -/
  template : String
  returnType : String
  description : String
  pathParameters : List PathParameter
  /-- The type of the body, for the methods that send one. -/
  bodyType : Option String
  /-- The schema of the resource, if one is known. -/
  model : Option Schema.Model

namespace Operation

/-! ## Parts of a plan -/

/-- The methods that send a body. -/
def bodyMethods : List String := ["POST", "PUT", "PATCH"]

/-- What the name of an operation begins with, apart from reading. -/
def verbs : List (String × String) :=
  [("POST", "create"), ("PUT", "update"), ("PATCH", "update_partial"), ("DELETE", "delete")]

/-- The name of an operation on a resource. -/
def baseName (method resource : String) (hasPlaceholder : Bool) : String :=
  let method := Text.upper method
  if method = "GET" then
    if hasPlaceholder then "get_" ++ snakeCase (singularize resource)
    else "get_all_" ++ snakeCase (pluralize resource)
  else (verbs.lookup method).getD (Text.lower method) ++ "_" ++ snakeCase (singularize resource)

/-- The type of a path parameter, guessed from the name of its placeholder. -/
def parameterType (placeholder : String) : String :=
  let name := Text.lower placeholder
  if Text.endsWith "guid" name || Text.endsWith "uuid" name then "UUID"
  else if Text.endsWith "id" name then "int"
  else "str"

/-- The result type of an operation. -/
def resultType (method : String) (hasPlaceholder : Bool) (model : Option Schema.Model) : String :=
  let method := Text.upper method
  if method = "DELETE" then "bool"
  else
    let item := (model.map Schema.Model.recordName).getD "Any"
    if method = "GET" && !hasPlaceholder then Schema.listOf item else item

/-- The parameters that a path needs. -/
def parametersOf (path : String) : List PathParameter :=
  (Path.placeholders path).map fun placeholder =>
    { name := Path.parameterName placeholder, typeText := parameterType placeholder, placeholder }

/-! ## Plans -/

/-- The plan of one endpoint by itself. -/
def plan (schemas : List (String × Schema.Model)) (endpoint : Endpoint) : Operation :=
  let method := Text.upper endpoint.method
  let path := endpoint.path
  let resource := Path.resourceName path
  let hasPlaceholder := !(Path.placeholders path).isEmpty
  let model := Schema.find? resource schemas
  let description := endpoint.description.getD ""
  { name := baseName method resource hasPlaceholder
    method, path
    template := Path.template path
    returnType := resultType method hasPlaceholder model
    description := if description.isEmpty then method ++ " " ++ path else description
    pathParameters := parametersOf path
    bodyType :=
      if method ∈ bodyMethods then some ((model.map Schema.Model.recordName).getD "Any") else none
    model }

/-- The operations of a list of plans, with names that differ from one another and from `taken`. -/
def numberFrom (taken : List String) : List Operation → List Operation
  | [] => []
  | operation :: rest =>
    let name := freshName taken operation.name
    { operation with name } :: numberFrom (name :: taken) rest

/-- The plans of all endpoints, in order. -/
def planAll (endpoints : List Endpoint) (schemas : List (String × Schema.Model)) :
    List Operation :=
  numberFrom [] (endpoints.map (plan schemas))

/-! ## Signatures -/

/-- The name of the parameter that takes the body. -/
def bodyName : String := "body"

/-- The name and type of every parameter, in order. -/
def parameters (operation : Operation) : List (String × String) :=
  operation.pathParameters.map (fun parameter => (parameter.name, parameter.typeText)) ++
    operation.bodyType.toList.map fun type => (bodyName, type)

/-- The parameter list of the generated method. -/
def signature (operation : Operation) : String :=
  Text.commaList ("self" :: operation.parameters.map fun parameter =>
    parameter.1 ++ ": " ++ parameter.2)

/-- The arguments with which the client passes its parameters on. -/
def callArguments (operation : Operation) : String :=
  Text.commaList (operation.parameters.map (·.1))

/-- Whether the result type is a list. -/
def returnsList (operation : Operation) : Bool :=
  Text.startsWith "List[" operation.returnType

/-- The types that appear in an operation's signature. -/
def typeTexts (operation : Operation) : List String :=
  operation.returnType :: operation.parameters.map (·.2)

end Operation

end RestConnector
