import RestConnector.Emit.Module
import RestConnector.Name.Identifier
import RestConnector.Schema.Model

/-!
# Record modules

Every model becomes a module of its own that defines one record class. `closure` gathers the models to
generate: the given ones and all that are nested in them, one for each record type. `recordModule`
builds the module of one model, and `recordsPackage` the package that exports them all.

Two records may refer to each other, so a record's type is quoted where another record mentions it, and
the import that resolves the quotation stands behind the class.
-/

namespace RestConnector.Emit

open RestConnector.Schema RestConnector.Text

/-! ## Which models -/

/-- The name of the module that holds the record type of a model. -/
def recordModuleName (model : Model) : String :=
  Name.snakeCase model.recordName

/-- Whether a record type is among those of some models. -/
def isClaimed (models : List Model) (recordName : String) : Bool :=
  models.any fun model => model.recordName = recordName

/-- The first model of every record type. -/
def firstOfEach (models : List Model) : List Model :=
  models.foldl
    (fun found model => if isClaimed found model.recordName then found else found ++ [model]) []

mutual

/-- Adds the models nested in a model, depth first, unless their record type is already claimed. -/
def addNested (found : List Model) : Model → List Model
  | { properties, .. } => addProperties found properties

/-- Adds the models nested in properties. -/
def addProperties (found : List Model) : List (String × Property) → List Model
  | [] => found
  | (_, property) :: rest => addProperties (addProperty found property) rest

/-- Adds the model of a property and those nested in it. -/
def addProperty (found : List Model) : Property → List Model
  | { nested := none, .. } => found
  | { nested := some model, .. } =>
    if isClaimed found model.recordName then found else addNested (found ++ [model]) model

end

/-- The models to generate: the given ones, which claim their record types first, and then those
nested in them. -/
def closure (models : List Model) : List Model :=
  let top := firstOfEach models
  top.foldl addNested top

/-! ## The module of one model -/

/-- The module and record type of every nested model that is not the model's own type, in order. -/
def forwardImports (model : Model) : List (String × String) :=
  Sorted.sort Sorted.pairPrecedes (Sorted.distinct
    ((model.nestedModels.filter fun nested => nested.recordName != model.recordName).map
      fun nested => (recordModuleName nested, nested.recordName)))

/-- The record types that are not bound yet when the class is defined. -/
def forwardNames (model : Model) : List String :=
  model.recordName :: (forwardImports model).map (·.2)

/-- Whether a property may be left out. -/
def isOptional (optionalTypes : Bool) (property : Property) : Bool :=
  property.isNullable && optionalTypes

/-- The type of a field, before quotation. -/
def fieldType (optionalTypes : Bool) (property : Property) : String :=
  if isOptional optionalTypes property then "Optional[" ++ property.typeText ++ "]"
  else property.typeText

/-- The type of a field as it is written: quoted if it mentions a type that is not bound yet. -/
def writtenType (optionalTypes : Bool) (forward : List String) (property : Property) : String :=
  let type := fieldType optionalTypes property
  if (identifiers type).any (· ∈ forward) then stringLiteral type else type

/-- The default of a field, with the key that it is read from where this is not its name. -/
def fieldDefault (optionalTypes : Bool) (property : Property) : String :=
  let literal := stringLiteral property.key
  if property.name != property.key then
    if isOptional optionalTypes property then " = Field(default=None, alias=" ++ literal ++ ")"
    else " = Field(alias=" ++ literal ++ ")"
  else if isOptional optionalTypes property then " = None"
  else ""

/-- The declaration of a field. -/
def fieldLine (optionalTypes : Bool) (forward : List String) (property : Property) : String :=
  property.name ++ ": " ++ writtenType optionalTypes forward property ++
    fieldDefault optionalTypes property

/-- The types that the imports of a record module are computed from. -/
def recordTypes (optionalTypes : Bool) (model : Model) : List String :=
  model.fields.map (·.typeText) ++
    (if optionalTypes && model.fields.any (·.isNullable) then ["Optional"] else []) ++
    (if model.isCollection then ["List"] else [])

/-- Whether a text occurs in another. -/
def occursIn (part : String) : List Char → Bool
  | [] => part.isEmpty
  | c :: cs => part.toList.isPrefixOf (c :: cs) || occursIn part cs

/-- What a record module imports from the model library. -/
def libraryNames (types fieldLines : List String) : List String :=
  (if occursIn "AnyUrl" (String.join types).toList then ["AnyUrl"] else []) ++
    ["BaseModel", "ConfigDict"] ++
    (if fieldLines.any fun line => occursIn "Field(" line.toList then ["Field"] else [])

/-- The docstring text of a record class. -/
def recordDoc (model : Model) : String :=
  let description := if model.isCollection then "" else model.description.getD ""
  if description.isEmpty then model.recordName ++ " record." else description

/-- The lines of the class of a model. -/
def recordClass (frozen : Bool) (model : Model) (fieldLines : List String) : List String :=
  [ "class " ++ model.recordName ++ "(BaseModel):",
    docLine "    " (recordDoc model),
    "",
    "    model_config = ConfigDict(populate_by_name=True" ++
      (if frozen then ", frozen=True" else "") ++ ")" ] ++
  (if fieldLines.isEmpty then [] else "" :: fieldLines.map ("    " ++ ·))

/-- Whether a model has a name for the collection besides the record type. -/
def hasAlias (model : Model) : Bool :=
  model.isCollection && model.name != model.recordName

/-- The module of one model. -/
def recordModule (frozen optionalTypes : Bool) (model : Model) : Module :=
  let fieldLines := model.fields.map (fieldLine optionalTypes (forwardNames model))
  let types := recordTypes optionalTypes model
  let standard := (importsFor types []).filter fun entry => entry.1 != modelLibrary
  let forward := forwardImports model
  [.doc "Generated model. Do not edit by hand.", .blank] ++
    (if standard.isEmpty then [] else importStatements standard ++ [.blank]) ++
    [.importNames modelLibrary (libraryNames types fieldLines) ""] ++
    gap ++ [.define model.recordName (recordClass frozen model fieldLines)] ++
    (if hasAlias model then gap ++ [.assign model.name (listOf model.recordName)] else []) ++
    (if forward.isEmpty then []
      else .blank :: forward.map fun entry =>
        .importNames ("." ++ entry.1) [entry.2] "  # noqa: E402")

/-! ## The package of all records -/

/-- The names that the package exports for a model. -/
def exportedNames (model : Model) : List String :=
  model.recordName :: (if hasAlias model then [model.name] else [])

/-- The package that exports every record type and collection. -/
def recordsPackage (models : List Model) : Module :=
  [.doc "Generated models.", .blank] ++
    models.map (fun model =>
      .importNames ("." ++ recordModuleName model) (exportedNames model) "") ++
    (if models.isEmpty then []
      else .blank :: models.map fun model => .evaluate (model.recordName ++ ".model_rebuild()")) ++
    [.blank, .exports (models.flatMap exportedNames)]

end RestConnector.Emit
