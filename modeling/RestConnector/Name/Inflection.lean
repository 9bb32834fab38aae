import RestConnector.Name.Words

/-!
# Singular and plural

Collections are named in the plural and their elements in the singular, so the generator has to move
between the two. `pluralOf` and `singularOf` work on one word in small letters: first the words that
are exceptions (uncountable ones, irregular pairs, singulars in *-s*), then rules on the ending, of
which the first that fits decides. `pluralize` and `singularize` apply them to the last word of a name
and leave everything around it alone; a last word that is a number stays as it is, and the result is
written in the letter case of the word it replaces.
-/

namespace RestConnector.Name

open RestConnector.Text

/-! ## Exceptions -/

/-- Singular words ending in s; any other word in *-us* or *-is* is read as a plural. -/
def singularsInS : List String := [
  "alias", "atlas", "bias", "bonus", "bus", "campus", "canvas", "census", "corpus", "focus", "gas",
  "genus", "iris", "lens", "nexus", "plus", "radius", "status", "syllabus", "tennis", "virus"]

/-- Words with one form for both numbers. -/
def uncountables : List String := [
  "data", "deer", "equipment", "feedback", "fish", "information", "metadata", "money", "news", "rice",
  "series", "sheep", "species"]

/-- Singulars with the plurals that no rule gives. -/
def irregulars : List (String × String) := [
  ("child", "children"), ("cookie", "cookies"), ("foot", "feet"), ("goose", "geese"),
  ("index", "indices"), ("man", "men"), ("matrix", "matrices"), ("mouse", "mice"),
  ("movie", "movies"), ("ox", "oxen"), ("person", "people"), ("tooth", "teeth"), ("woman", "women")]

/-- Words in -o whose plural ends in *-oes*. -/
def oesWords : List String := ["buffalo", "echo", "hero", "potato", "tomato", "veto"]

/-- What stands before *-sis* in the words whose plural ends in *-ses*. -/
def sisStems : List String := ["analy", "ba", "diagno", "parenthe", "progno", "synop", "the"]

/-- Whether a word is in a list of words. -/
def isListed (list : List String) (word : List Char) : Bool :=
  list.any fun entry => entry.toList == word

/-- The irregular plural of a word. -/
def irregularPlural? (word : List Char) : Option (List Char) :=
  (irregulars.find? fun pair => pair.1.toList == word).map (·.2.toList)

/-- The word of which a word is the irregular plural. -/
def irregularSingular? (word : List Char) : Option (List Char) :=
  (irregulars.find? fun pair => pair.2.toList == word).map (·.1.toList)

/-! ## Rules on endings -/

/-- Whether a word ends in one of several endings. -/
def endsIn (endings : List String) (word : List Char) : Bool :=
  endings.any fun ending => ending.toList.isSuffixOf word

/-- Whether a word ends in y after something other than a vowel. -/
def endsInConsonantY (word : List Char) : Bool :=
  match word.reverse with
  | 'y' :: c :: _ => !(['a', 'e', 'i', 'o', 'u'].contains c)
  | _ => false

/-- The singular of a word. -/
def singularOf (word : List Char) : List Char :=
  if isListed uncountables word || (irregularPlural? word).isSome || isListed singularsInS word then
    word
  else match irregularSingular? word with
    | some singular => singular
    | none =>
      if endsIn ["ses"] word && isListed sisStems (dropEnd 3 word) then
        dropEnd 3 word ++ "sis".toList
      else if 3 < word.length && endsIn ["ies"] word then dropEnd 3 word ++ "y".toList
      else if endsIn ["lves"] word then dropEnd 3 word ++ "f".toList
      else if endsIn ["knives", "wives", "lives"] word then dropEnd 3 word ++ "fe".toList
      else if endsIn ["oes"] word && isListed oesWords (dropEnd 2 word) then dropEnd 2 word
      else if endsIn ["sses", "shes", "ches", "xes", "zzes", "uses"] word then dropEnd 2 word
      else if endsIn ["ss", "sis"] word then word
      else if 1 < word.length && endsIn ["s"] word then dropEnd 1 word
      else word

/-- The plural of a word that is taken to be a singular. -/
def pluralOfSingular (word : List Char) : List Char :=
  match irregularPlural? word with
  | some plural => plural
  | none =>
    if isListed uncountables word then word
    else if endsIn ["sis"] word && isListed sisStems (dropEnd 3 word) then
      dropEnd 3 word ++ "ses".toList
    else if endsInConsonantY word then dropEnd 1 word ++ "ies".toList
    else if endsIn ["s", "sh", "ch", "x", "z"] word then word ++ "es".toList
    else if isListed oesWords word then word ++ "es".toList
    else if endsIn ["lf"] word then dropEnd 1 word ++ "ves".toList
    else if endsIn ["knife", "wife", "life"] word then dropEnd 2 word ++ "ves".toList
    else word ++ "s".toList

/-- The plural of a word. A word that is the plural of its own singular is left as it is. -/
def pluralOf (word : List Char) : List Char :=
  if isListed uncountables word || (irregularSingular? word).isSome then word
  else match irregularPlural? word with
    | some plural => plural
    | none =>
      let singular := singularOf word
      if singular ≠ word ∧ pluralOfSingular singular = word then word else pluralOfSingular word

/-! ## The last word of a name -/

/-- Writes a word in the letter case of another: all capitals, a capital first letter, or as it is. -/
def matchCase (model result : List Char) : List Char :=
  if 1 < model.length && model.all Char.isUpper then result.map Char.toUpper
  else if model.head?.any Char.isUpper then capitalize result
  else result

/-- Applies a rule to the last word of a name, in small letters, unless that word is a number. -/
def mapLastWord (rule : List Char → List Char) (cs : List Char) : List Char :=
  match lastWord? cs with
  | none => cs
  | some found =>
    if found.word.all isDigit then cs
    else { found with word := matchCase found.word (rule (found.word.map Char.toLower)) }.text

/-- Puts the last word of a name into the plural: `UserAddress` becomes `UserAddresses`. -/
def pluralize (name : String) : String :=
  onChars (mapLastWord pluralOf) name

/-- Puts the last word of a name into the singular: `order_items` becomes `order_item`. -/
def singularize (name : String) : String :=
  onChars (mapLastWord singularOf) name

end RestConnector.Name
