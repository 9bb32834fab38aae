import RestConnector.Emit.Record
import RestConnector.Proofs.Emit.UrlExpression

/-!
# What string literals denote

A text from the wire, such as a key or a path, stands in generated code as a string literal.  The literal is in
printable characters of ASCII, so it is on one line, and it can be read whatever the text is; it denotes the
UTF-16 code units of the text (`readLiteral?_stringLiteral`).  These are the code points of the text as long as
every character is one unit, and only then does the literal denote the text (`stringLiteral_denotes_iff`).

A character outside the basic plane is written as two escapes, which readers of JSON take together and readers
of code do not.  A field whose key has one is never found under its alias (`alias_is_two_surrogates`).
-/

namespace RestConnector.Emit

open RestConnector.Json RestConnector.Literal RestConnector.Schema RestConnector.Text

/-- Whether a plain literal denotes a text: it is well formed, and its code points are those of the text. -/
def Denotes (literal text : String) : Prop :=
  readLiteral? .plain literal = some (text.toList.map fun c => .code c.toNat)

/-- Up to its closing quote, a quoted text is read as its code units. -/
lemma readParts_flatMap_quoteChar (cs : List Char) :
    readParts .plain .text (cs.flatMap quoteChar ++ ['"']) =
      some ((cs.flatMap codeUnits).map .code) := by
  induction cs with
  | nil => exact readParts_quote .plain
  | cons c cs ih =>
    have hform : Form.plain ≠ .formatted := by decide
    rw [List.flatMap_cons, List.append_assoc, readParts_quoteChar .plain _ fun h => absurd h hform, ih,
      emitUnits, Option.map_some, List.flatMap_cons, List.map_append]

lemma readLiteral?_stringLiteral (text : String) :
    readLiteral? .plain (stringLiteral text) = some ((text.toList.flatMap codeUnits).map .code) := by
  have hchars : (stringLiteral text).toList = '"' :: (text.toList.flatMap quoteChar ++ ['"']) := by
    rw [stringLiteral, quote, String.toList_ofList, quoteChars, List.cons_append]
  simp only [readLiteral?, hchars]
  exact readParts_flatMap_quoteChar text.toList

/-- A string literal is in printable characters of ASCII and denotes the code units of its text, and so it
denotes the text exactly when every character is one code unit. -/
theorem stringLiteral_denotes_iff (text : String) :
    IsPrintable (stringLiteral text).toList ∧
      readLiteral? .plain (stringLiteral text) = some ((text.toList.flatMap codeUnits).map .code) ∧
      (Denotes (stringLiteral text) text ↔ ∀ c ∈ text.toList, c.toNat < 0x10000) := by
  refine ⟨?_, readLiteral?_stringLiteral text, ?_⟩
  · rw [stringLiteral, quote, String.toList_ofList]
    exact isPrintable_quoteChars text.toList
  · have hinjective : Function.Injective Part.code := fun _ _ => Part.code.inj
    have hparts : (text.toList.map fun c => Part.code c.toNat) = (text.toList.map Char.toNat).map .code := by
      rw [List.map_map]
      rfl
    rw [Denotes, readLiteral?_stringLiteral, hparts, Option.some.injEq, hinjective.list_map.eq_iff]
    exact flatMap_codeUnits_eq_iff text.toList

/-- The alias of a field for a face is two surrogates, and the face is one character. -/
theorem alias_is_two_surrogates :
    fieldDefault true (propertyOf "😀" (.bool true)) = " = Field(alias=" ++ stringLiteral "😀" ++ ")" ∧
      readLiteral? .plain (stringLiteral "😀") = some [.code 0xD83D, .code 0xDE00] ∧
      "😀".toList.map Char.toNat = [0x1F600] ∧ ¬ Denotes (stringLiteral "😀") "😀" := by
  unfold Denotes
  decide +kernel

end RestConnector.Emit
