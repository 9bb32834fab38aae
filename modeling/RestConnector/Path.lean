import RestConnector.Name.Identifier

/-!
# Paths of endpoints

The path of an endpoint has literal text and *placeholders*, written `{name}` or `:name`. It names the
resource that the endpoint serves: the last literal segment, except that a version segment such as
`v2` leaves the naming to the segment before it.

A path is read into `Piece`s in one pass from the left (`piecesOf`); the placeholder names, the
template in which each placeholder is renamed to a parameter, and the literal text are all read off
the pieces. `unparsed` gives the path back, so a reading loses nothing.
-/

namespace RestConnector.Path

open RestConnector.Text RestConnector.Name

/-! ## Segments -/

/-- The literal segments of a path; placeholders and the query are left out. -/
def segments (path : String) : List String :=
  let body := trimEnds (· = '/') (before '?' path.toList)
  ((cutAt '/' body).filter fun segment =>
    match segment with
    | [] => false
    | c :: _ => c != '{' && c != ':').map String.ofList

/-- Whether a segment only tells a version: a v and digits, with perhaps a line feed at the end. -/
def isVersion (segment : String) : Bool :=
  match segment.toList with
  | v :: digits =>
    (v = 'v' || v = 'V') &&
      match digits.reverse with
      | '\n' :: rest => !rest.isEmpty && rest.all isDecimal
      | rest => !rest.isEmpty && rest.all isDecimal
  | [] => false

/-- The segment that names the resource a path serves, or nothing. -/
def resourceSegment (path : String) : String :=
  match (segments path).reverse with
  | [] => ""
  | last :: earlier => if isVersion last then earlier.head?.getD "" else last

/-- The resource a path serves, as an operation names it. -/
def resourceName (path : String) : String :=
  typeName (resourceSegment path) "Resource"

/-- The name of the model that a path's response is inferred to have. -/
def modelName (path : String) : String :=
  if (segments path).isEmpty then "ApiResponse" else typeName (resourceSegment path) "Item"

/-! ## Placeholders -/

/-- How a placeholder is written. -/
inductive Style where
  /-- In braces: `{name}`. -/
  | braced
  /-- Behind a colon: `:name`. -/
  | colon
deriving DecidableEq, Repr

/-- A piece of a path. -/
inductive Piece where
  | literal (c : Char)
  | placeholder (style : Style) (name : List Char)
deriving DecidableEq, Repr

/-- The text of a piece. -/
def Piece.text : Piece → List Char
  | .literal c => [c]
  | .placeholder .braced name => '{' :: name ++ ['}']
  | .placeholder .colon name => ':' :: name

/-- Whether a character can begin a name behind a colon. -/
def isNameStart (c : Char) : Bool := c.isUpper || c.isLower || c = '_'

/-- Whether a character can stand in a name behind a colon. -/
def isNameChar (c : Char) : Bool := isNameStart c || c.isDigit

/-- The placeholder at the front of a text. -/
def placeholder? : List Char → Option Piece
  | '{' :: cs =>
    let name := cs.takeWhile fun c => c != '}' && c != '/'
    match cs.drop name.length with
    | '}' :: _ => if name.isEmpty then none else some (.placeholder .braced name)
    | _ => none
  | ':' :: c :: cs =>
    if isNameStart c then some (.placeholder .colon (c :: cs.takeWhile isNameChar)) else none
  | _ => none

/-- The pieces of a text, after passing over `skip` characters of a placeholder already read. -/
def piecesFrom : Nat → List Char → List Piece
  | _, [] => []
  | skip + 1, _ :: cs => piecesFrom skip cs
  | 0, c :: cs =>
    match placeholder? (c :: cs) with
    | some piece => piece :: piecesFrom (piece.text.length - 1) cs
    | none => .literal c :: piecesFrom 0 cs

/-- The pieces of a path. -/
def piecesOf (path : String) : List Piece :=
  piecesFrom 0 path.toList

/-- The text that pieces were read from. -/
def unparsed (pieces : List Piece) : List Char :=
  pieces.flatMap Piece.text

/-- The name of a placeholder. -/
def Piece.name? : Piece → Option String
  | .literal _ => none
  | .placeholder _ name => some (String.ofList name)

/-- The names of a path's placeholders, in order. -/
def placeholders (path : String) : List String :=
  (piecesOf path).filterMap Piece.name?

/-- Whether a path has a placeholder, judged by the characters that begin one. -/
def hasParameters (path : String) : Bool :=
  path.toList.contains '{' || path.toList.contains ':'

/-- The name of the parameter that stands for a placeholder. -/
def parameterName (placeholder : String) : String :=
  safeIdentifier (snakeCase placeholder) "param"

/-- The text of a piece in the template of a path: a placeholder is renamed to its parameter. -/
def Piece.template : Piece → String
  | .literal c => String.ofList [c]
  | .placeholder _ name => "\x7b" ++ parameterName (String.ofList name) ++ "\x7d"

/-- A path with its placeholders renamed to parameters, all of them in braces. -/
def template (path : String) : String :=
  String.join ((piecesOf path).map Piece.template)

end RestConnector.Path
