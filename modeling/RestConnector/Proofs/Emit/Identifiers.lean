import RestConnector.Proofs.Emit.Imports
import RestConnector.Proofs.Schema.Legal
import RestConnector.Proofs.Schema.Types

/-!
# Names in types

Whether a type mentions a name is a question of whole identifiers: runs of letters, digits and underscores
that begin with no digit (`wholeNames`).  A digit here is a decimal digit of any script, as in the names of
record types.  `identifiers`, from which the imports of a module are computed, knows the digits of ASCII only;
any other digit ends a name for it.

Both ways to read go on anew behind a bracket or a comma (`BreaksAt`), so a type is read name by name
(`identifiers_bracketed`, `wholeNames_bracketed`).  In a type that mentions no record they find the same
names (`identifiers_of_isPlainType`), and so they do in the name of a record type whose characters are all in
ASCII (`identifiers_of_ascii`).
-/

namespace RestConnector.Emit

open RestConnector.Name RestConnector.Path RestConnector.Schema RestConnector.Text

/-- Whether a character can stand in an identifier of the generated code. -/
def isIdentifierChar (c : Char) : Bool :=
  c = '_' || isWordChar c

lemma isIdentifierChar_iff {c : Char} : isIdentifierChar c ↔ c = '_' ∨ isWordChar c := by
  rw [isIdentifierChar, Bool.or_eq_true, decide_eq_true_iff]

/-- The whole identifiers in a list of characters. -/
def wholeNamesIn (cs : List Char) : List (List Char) :=
  (cs.splitOnP fun c => !isIdentifierChar c).filter fun piece => piece.head?.any fun c => !isDecimal c

/-- The whole identifiers in a text, in order. -/
def wholeNames (text : String) : List String :=
  (wholeNamesIn text.toList).map String.ofList

/-! ## Reading on behind a character -/

/-- Whether reading goes on behind a character as if the text began there. -/
def BreaksAt (read : List Char → List (List Char)) (c : Char) : Prop :=
  ∀ front rest, read (front ++ c :: rest) = read front ++ read rest

lemma breaksAt_wholeNamesIn {c : Char} (h : isIdentifierChar c = false) : BreaksAt wholeNamesIn c := by
  intro front rest
  rw [wholeNamesIn, List.splitOnP_append_cons front rest (by simp [h]), List.filter_append]
  rfl

lemma identifiersFrom_append {c : Char} (h : isNameChar c = false) {skip : Nat} {front : List Char}
    (hskip : skip ≤ front.length) (rest : List Char) :
    identifiersFrom skip (front ++ c :: rest) = identifiersFrom skip front ++ identifiersFrom 0 rest := by
  have hstart : isNameStart c = false := (Bool.or_eq_false_iff.1 h).1
  induction front generalizing skip with
  | nil =>
    obtain rfl := Nat.le_zero.1 hskip
    simp [identifiersFrom, hstart]
  | cons d front ih =>
    cases skip with
    | succ skip => exact ih (Nat.le_of_succ_le_succ hskip)
    | zero =>
      -- A name that has begun in front of the character does not reach over it.
      have htake : (front ++ c :: rest).takeWhile isNameChar = front.takeWhile isNameChar := by
        rw [List.takeWhile_append, List.takeWhile_cons_of_neg (by simp [h]), List.append_nil]
        split
        · next heq => exact ((List.takeWhile_prefix _).eq_of_length heq).symm
        · rfl
      rw [List.cons_append, identifiersFrom, identifiersFrom, htake]
      dsimp only
      split
      · rw [ih (List.takeWhile_prefix _).length_le]
        rfl
      · exact ih (Nat.zero_le _)

lemma breaksAt_identifiersFrom {c : Char} (h : isNameChar c = false) :
    BreaksAt (identifiersFrom 0) c :=
  fun _ rest => identifiersFrom_append h (Nat.zero_le _) rest

/-- A type with another in brackets behind it. -/
def bracketed (outer inner : String) : String :=
  outer ++ "[" ++ inner ++ "]"

lemma listOf_eq_bracketed (type : String) : listOf type = bracketed "List" type := by
  have hlist : "List[" = "List" ++ "[" := by decide
  rw [listOf, bracketed, hlist]

lemma read_bracketed {read : List Char → List (List Char)} (hopen : BreaksAt read '[')
    (hclose : BreaksAt read ']') (hnil : read [] = []) (outer inner : String) :
    read (bracketed outer inner).toList = read outer.toList ++ read inner.toList := by
  have hchars : (bracketed outer inner).toList = outer.toList ++ '[' :: (inner.toList ++ ']' :: []) := by
    simp [bracketed]
  rw [hchars, hopen, hclose, hnil, List.append_nil]

lemma identifiers_bracketed (outer inner : String) :
    identifiers (bracketed outer inner) = identifiers outer ++ identifiers inner := by
  rw [identifiers, read_bracketed (breaksAt_identifiersFrom (by decide))
    (breaksAt_identifiersFrom (by decide)) rfl, List.map_append]
  rfl

lemma wholeNames_bracketed (outer inner : String) :
    wholeNames (bracketed outer inner) = wholeNames outer ++ wholeNames inner := by
  rw [wholeNames, read_bracketed (breaksAt_wholeNamesIn (by decide))
    (breaksAt_wholeNamesIn (by decide)) (by decide), List.map_append]
  rfl

/-! ## One name -/

variable {name : String}

lemma wholeNames_of_isIdentifier (h : IsIdentifier name) : wholeNames name = [name] := by
  have hchars : ∀ c ∈ name.toList, (!isIdentifierChar c) = false := fun c hc => by
    rw [isIdentifierChar_iff.2 (h.chars c hc), Bool.not_true]
  have hne : name.toList ≠ [] := fun hn => h.ne_empty (String.toList_inj.1 hn)
  obtain ⟨c, cs, hcs⟩ := List.exists_cons_of_ne_nil hne
  have hdigit : isDecimal c = false := by
    have hno := h.no_digit
    simp only [startsWithDigit, hcs, List.head?_cons, Option.any_some, isDigit,
      Bool.or_eq_false_iff] at hno
    exact hno.1
  have hkept : [name.toList].filter (fun piece => piece.head?.any fun c => !isDecimal c) =
      [name.toList] := by
    rw [List.filter_eq_self, List.forall_mem_singleton, hcs, List.head?_cons, Option.any_some, hdigit,
      Bool.not_false]
  rw [wholeNames, wholeNamesIn, List.splitOnP_eq_singleton hchars, hkept, List.map_singleton,
    String.ofList_toList]

lemma identifiersFrom_length (cs : List Char) : identifiersFrom cs.length cs = [] := by
  induction cs with
  | nil => rfl
  | cons c cs ih => exact ih

/-- In ASCII, a character of an identifier is one of those that a name is read to go on with. -/
lemma isNameChar_of_ascii {c : Char} (h : isIdentifierChar c) (hc : c.toNat < 128) : isNameChar c := by
  rw [isNameChar, isNameStart]
  rcases isIdentifierChar_iff.1 h with rfl | hword
  · decide
  rcases isWordChar_iff.1 hword with (hletter | hletter) | hdecimal
  · simp [hletter]
  · simp [hletter]
  · have hdigit : isDigit c := by simp [isDigit, hdecimal]
    have hrange : 48 ≤ c.toNat ∧ c.toNat < 58 :=
      (toNat_of_isDigit hdigit).resolve_right (by omega)
    have hascii : c.isDigit := isAsciiDigit_iff.2 ⟨hrange.1, Nat.le_of_lt_succ hrange.2⟩
    simp [hascii]

lemma identifiers_of_ascii (h : IsIdentifier name) (hascii : ∀ c ∈ name.toList, c.toNat < 128) :
    identifiers name = [name] := by
  have hname : ∀ c ∈ name.toList, isNameChar c := fun c hc =>
    isNameChar_of_ascii (isIdentifierChar_iff.2 (h.chars c hc)) (hascii c hc)
  have hne : name.toList ≠ [] := fun hn => h.ne_empty (String.toList_inj.1 hn)
  obtain ⟨c, cs, hcs⟩ := List.exists_cons_of_ne_nil hne
  rw [hcs, List.forall_mem_cons] at hname
  have hstart : isNameStart c := by
    have hno : isDigit c = false := by simpa [startsWithDigit, hcs] using h.no_digit
    refine (Bool.or_eq_true_iff.1 hname.1).resolve_right fun hdigit => ?_
    rw [isDigit, isDecimal_of_isDigit hdigit] at hno
    cases hno
  have hread : identifiersFrom 0 (c :: cs) = [c :: cs] := by
    rw [identifiersFrom, if_pos hstart, List.takeWhile_eq_self_iff.2 hname.2]
    exact congrArg ((c :: cs) :: ·) (identifiersFrom_length cs)
  rw [identifiers, hcs, hread, List.map_singleton, ← hcs, String.ofList_toList]

/-! ## Types that mention no record -/

/-- The names that types are made of which mention no record. -/
def plainNames : List String :=
  "Dict" :: "List" :: scalarTypes

lemma identifiers_list : identifiers "List" = ["List"] := by decide

lemma wholeNames_list : wholeNames "List" = ["List"] := by decide

lemma identifiers_of_isPlainType {type : String} (h : IsPlainType type) :
    identifiers type = wholeNames type := by
  have hscalar : ∀ type ∈ scalarTypes, identifiers type = wholeNames type := by decide +kernel
  induction h with
  | scalar hm => exact hscalar _ hm
  | untyped => decide +kernel
  | list _ ih =>
    rw [listOf_eq_bracketed, identifiers_bracketed, wholeNames_bracketed, ih, identifiers_list,
      wholeNames_list]

lemma wholeNames_subset_of_isPlainType {type : String} (h : IsPlainType type) :
    wholeNames type ⊆ plainNames := by
  have hscalar : ∀ type ∈ scalarTypes, wholeNames type ⊆ plainNames := by decide +kernel
  induction h with
  | scalar hm => exact hscalar _ hm
  | untyped => decide +kernel
  | list _ ih =>
    rw [listOf_eq_bracketed, wholeNames_bracketed, wholeNames_list]
    exact List.append_subset.2 ⟨by decide, ih⟩

end RestConnector.Emit
