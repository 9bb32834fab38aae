import RestConnector.Text.Basic

/-!
# Locations of files

A *location* is the place of a file or directory as a user writes it, taken apart into names. Empty
names and single dots are dropped; two dots are kept, since only the file tree can tell where they
lead. A location that begins with a slash starts at the root, and joining it to another one forgets
the other.
-/

namespace RestConnector.Disk

open RestConnector.Text

/-- A place in the file tree. -/
structure Location where
  /-- The slashes that a place below the root begins with; empty below the working directory. -/
  anchor : String := ""
  names : List String
deriving DecidableEq, Repr

namespace Location

/-- Takes a written place apart. Exactly two slashes at the front are kept as two. -/
def ofString (text : String) : Location :=
  let slashes := (text.toList.takeWhile (· = '/')).length
  { anchor := if slashes = 0 then "" else if slashes = 2 then "//" else "/"
    names := ((cutAt '/' text.toList).filter fun name => name != [] && name != ['.']).map
      String.ofList }

/-- How a place is written; the working directory is a dot. -/
def toString (location : Location) : String :=
  let text := location.anchor ++ String.intercalate "/" location.names
  if text.isEmpty then "." else text

/-- A place as seen from another. -/
def join (location : Location) (text : String) : Location :=
  let below := ofString text
  if below.anchor.isEmpty then { location with names := location.names ++ below.names } else below

/-- The directory that a place is in; the top is in itself. -/
def parent (location : Location) : Location :=
  { location with names := location.names.dropLast }

end Location

end RestConnector.Disk
