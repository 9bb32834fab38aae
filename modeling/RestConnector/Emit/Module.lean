import RestConnector.Emit.Imports
import RestConnector.Emit.Literal

/-!
# Generated modules

A generated Python module is a list of top-level statements. A `Statement` says what it means for the
module: which names it imports, from where, and which it defines; `Statement.lines` says how it is
written, and `Module.text` puts the lines together. What a module binds can thus be read off the
statements (`Module.binds`) without reading the text back.
-/

namespace RestConnector.Emit

open RestConnector.Text

/-- A top-level statement of a generated module. -/
inductive Statement where
  /-- An empty line. -/
  | blank
  /-- The docstring of the module. -/
  | doc (text : String)
  /-- The import of a module as a whole. -/
  | importModule (name : String)
  /-- The import of names from a module, on one line, with a comment behind it. -/
  | importNames (source : String) (names : List String) (comment : String)
  /-- The import of names from a module, one on a line. -/
  | importBlock (source : String) (names : List String)
  /-- The import of everything that a module exports. -/
  | importAll (source : String)
  /-- The binding of a name to the value of an expression. -/
  | assign (target value : String)
  /-- The list of the names that the module exports. -/
  | exports (names : List String)
  /-- An expression that is evaluated for its effect. -/
  | evaluate (expression : String)
  /-- The definition of a class or function, by the lines it is written in. -/
  | define (name : String) (lines : List String)
deriving DecidableEq, Repr

/-- A name on a line of its own inside brackets. -/
def itemLine (item : String) : String :=
  "    " ++ item ++ ","

/-- The lines of a statement. -/
def Statement.lines : Statement → List String
  | .blank => [""]
  | .doc text => [docLine "" text]
  | .importModule name => ["import " ++ name]
  | .importNames source names comment =>
    ["from " ++ source ++ " import " ++ commaList names ++ comment]
  | .importBlock source names =>
    ("from " ++ source ++ " import (") :: names.map itemLine ++ [")"]
  | .importAll source => ["from " ++ source ++ " import *  # noqa: F401,F403"]
  | .assign target value => [target ++ " = " ++ value]
  | .exports names =>
    "__all__ = [" :: names.map (fun name => itemLine (stringLiteral name)) ++ ["]"]
  | .evaluate expression => [expression]
  | .define _ lines => lines

/-- The names that a statement binds at the top level of its module. -/
def Statement.binds : Statement → List String
  | .importModule name => [name]
  | .importNames _ names _ | .importBlock _ names => names
  | .assign target _ => [target]
  | .exports _ => ["__all__"]
  | .define name _ => [name]
  | .blank | .doc _ | .importAll _ | .evaluate _ => []

/-- A generated module. -/
abbrev Module := List Statement

/-- The names that a module binds at its top level, in order. -/
def Module.binds (module : Module) : List String :=
  List.flatMap Statement.binds module

/-- The text of a module. -/
def Module.text (module : Module) : String :=
  unlines (List.flatMap Statement.lines module)

/-- Two empty lines, as they stand around classes. -/
def gap : List Statement := [.blank, .blank]

/-- The statements that import names from their modules. -/
def importStatements (imports : List (String × List String)) : List Statement :=
  imports.map fun entry => .importNames entry.1 entry.2 ""

end RestConnector.Emit
