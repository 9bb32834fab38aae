import RestConnector.Emit.Contract
import RestConnector.Proofs.Literal.Reader
import RestConnector.Proofs.Operation.Plan
import RestConnector.Proofs.Path.Parameter
import RestConnector.Proofs.Path.Pieces

/-!
# Expressions for URLs

The URL of an operation whose path has placeholders is written as a formatted literal, in which every
placeholder is a field.  Text outside of the placeholders is quoted, and quoting leaves braces as they
are.  So the literal denotes what it should, the parameters in order and the text outside of them, exactly
when there are no braces outside, every character there is one code unit, and the names of the
placeholders have no digits of other scripts, which an expression cannot escape
(`urlExpression_denotes_iff`).

A path with a brace outside of its placeholders is enough for text of a path to be read as an expression
(`braced_text_is_read_as_field`).
-/

namespace RestConnector.Emit

open RestConnector.Text RestConnector.Json RestConnector.Name RestConnector.Path
open RestConnector.Literal

/-- What must hold of a path for its literal to denote it. -/
structure HasPlainText (path : String) : Prop where
  no_brace : ∀ c ∈ outside path, c ≠ '\x7b' ∧ c ≠ '\x7d'
  one_unit : ∀ c ∈ outside path, c.toNat < 0x10000
  ascii_digits : ∀ p ∈ placeholders path, ∀ c ∈ p.toList, isDecimal c → IsAscii c

/-! ## Names inside braces -/

/-- What may stand in the name of a parameter. -/
def IsNameChar (c : Char) : Prop := c = '_' ∨ isWordChar c

lemma isNameChar_of_mem_parameterName {placeholder : String} {c : Char}
    (h : c ∈ (parameterName placeholder).toList) : IsNameChar c :=
  isWordChar_of_mem_parameterName h

lemma ascii_nameChar {n : Nat} (hn : n < 128) :
    Char.ofNat n = '_' ∨ isWordChar (Char.ofNat n) →
      quoteChar (Char.ofNat n) = [Char.ofNat n] ∧ Char.ofNat n ≠ '\x7b' ∧ Char.ofNat n ≠ '\x7d' ∧
        Char.ofNat n ∉ refused := by
  revert n
  decide +kernel

/-- In ASCII, the characters of a name are written as they are and may stand in an expression. -/
lemma IsNameChar.of_isAscii {c : Char} (h : IsNameChar c) (ha : IsAscii c) :
    quoteChar c = [c] ∧ c ≠ '\x7b' ∧ c ≠ '\x7d' ∧ c ∉ refused := by
  have hn := ascii_nameChar ha
  rw [Char.ofNat_toNat] at hn
  exact hn h

/-- Braces are no part of names. -/
lemma IsNameChar.ne_brace {c : Char} (h : IsNameChar c) : c ≠ '\x7b' ∧ c ≠ '\x7d' := by
  by_cases ha : IsAscii c
  · obtain ⟨-, ho, hc, -⟩ := h.of_isAscii ha
    exact ⟨ho, hc⟩
  · constructor
    · rintro rfl
      exact ha (by decide)
    · rintro rfl
      exact ha (by decide)

/-- Outside of ASCII, a character is written as an escape. -/
lemma quoteChar_of_not_isAscii {c : Char} (h : ¬ IsAscii c) : ∃ rest, quoteChar c = '\\' :: rest := by
  obtain ⟨hq, -, -⟩ | hq := quoteChar_cases c
  · have hp : ¬ (' ' ≤ c ∧ c ≤ '~') := by
      rintro ⟨-, hc⟩
      have ht : c.toNat ≤ '~'.toNat := toNat_le_of_le hc
      exact h (Nat.lt_of_le_of_lt ht (by decide))
    exfalso
    simp only [quoteChar, hp, if_false, charEscape, unitEscape] at hq
    split_ifs at hq <;> simp [hexOfWidth] at hq
  · exact hq

lemma all_isAscii_iff {cs : List Char} : cs.all (IsAscii ·) ↔ ∀ c ∈ cs, IsAscii c := by simp

/-- A name and its closing brace are read as the expression of a field, unless the name has an escape. -/
lemma readParts_name (form : Form) (name read rest : List Char) (hn : ∀ c ∈ name, IsNameChar c)
    (hne : name.reverse ++ read ≠ []) :
    readParts form (.field read) (name.flatMap quoteChar ++ '\x7d' :: rest) =
      if name.all (IsAscii ·) then
        emit (.field (read.reverse ++ name)) (readParts form .text rest)
      else none := by
  induction name generalizing read with
  | nil =>
    have hread : read ≠ [] := by simpa using hne
    simp [readParts_close form hread]
  | cons c name ih =>
    have hc := hn c List.mem_cons_self
    rw [List.flatMap_cons, List.append_assoc]
    by_cases ha : IsAscii c
    · obtain ⟨hq, ho, hcl, hr⟩ := hc.of_isAscii ha
      have hih := ih (c :: read) (fun d hd => hn d (List.mem_cons_of_mem _ hd)) (by simp)
      rw [hq, List.singleton_append, readParts_field form ho hcl hr, hih]
      simp [ha]
    · obtain ⟨tail, hq⟩ := quoteChar_of_not_isAscii ha
      rw [hq, List.cons_append, readParts_field_backslash, if_neg]
      intro hall
      exact ha (all_isAscii_iff.1 hall c List.mem_cons_self)

/-! ## Pieces -/

/-- What a piece should be read as. -/
def partsOf : Piece → List Part
  | .literal c => (codeUnits c).map .code
  | .placeholder _ name => [.field (parameterName (String.ofList name)).toList]

lemma readParts_literal {c : Char} (hc : c ≠ '\x7b' ∧ c ≠ '\x7d') (rest : List Char) :
    readParts .formatted .text ((Piece.literal c).template.toList.flatMap quoteChar ++ rest) =
      (readParts .formatted .text rest).map (partsOf (.literal c) ++ ·) := by
  have ht : (Piece.literal c).template.toList.flatMap quoteChar = quoteChar c := by
    simp [Piece.template]
  rw [ht]
  exact readParts_quoteChar .formatted rest fun _ => hc

lemma template_placeholder (style : Style) (name rest : List Char) :
    (Piece.placeholder style name).template.toList.flatMap quoteChar ++ rest =
      '\x7b' :: ((parameterName (String.ofList name)).toList.flatMap quoteChar ++
        '\x7d' :: rest) := by
  have hq : quoteChar '\x7b' = ['\x7b'] ∧ quoteChar '\x7d' = ['\x7d'] := by decide
  simp [Piece.template, hq.1, hq.2]

lemma readParts_placeholder (style : Style) (name rest : List Char) :
    readParts .formatted .text
        ((Piece.placeholder style name).template.toList.flatMap quoteChar ++ rest) =
      if (parameterName (String.ofList name)).toList.all (IsAscii ·) then
        (readParts .formatted .text rest).map (partsOf (.placeholder style name) ++ ·)
      else none := by
  have hne := String.toList_eq_nil_iff.not.2 (parameterName_ne_empty (String.ofList name))
  rw [template_placeholder, readParts_open, readParts_name .formatted _ [] rest
    (fun c hc => isNameChar_of_mem_parameterName hc) (by simpa using hne)]
  simp only [emit, partsOf, List.reverse_nil, List.nil_append, List.singleton_append]

/-- With no braces outside of the placeholders, the quoted template of a path is read piece by piece. -/
lemma readParts_pieces {pieces : List Piece} (rest : List Char)
    (hb : ∀ c ∈ pieces.filterMap Piece.literal?, c ≠ '\x7b' ∧ c ≠ '\x7d')
    (ha : ∀ p ∈ pieces.filterMap Piece.name?, ∀ c ∈ (parameterName p).toList, IsAscii c) :
    readParts .formatted .text
        ((pieces.flatMap fun piece => piece.template.toList.flatMap quoteChar) ++ rest) =
      (readParts .formatted .text rest).map (pieces.flatMap partsOf ++ ·) := by
  induction pieces with
  | nil => simp
  | cons piece pieces ih =>
    rw [List.flatMap_cons, List.append_assoc]
    cases piece with
    | literal c =>
      obtain ⟨hc, hcs⟩ := List.forall_mem_cons.1 hb
      rw [readParts_literal hc, ih hcs ha]
      simp [Function.comp_def]
    | placeholder style name =>
      obtain ⟨hn, hns⟩ := List.forall_mem_cons.1 ha
      rw [readParts_placeholder, if_pos (all_isAscii_iff.2 hn), ih hb hns]
      simp [Function.comp_def]

/-- A name with an escape keeps the quoted template from being read. -/
lemma ascii_of_readParts_pieces {pieces : List Piece} {rest : List Char} {parts : List Part}
    (hb : ∀ c ∈ pieces.filterMap Piece.literal?, c ≠ '\x7b' ∧ c ≠ '\x7d')
    (h : readParts .formatted .text
      ((pieces.flatMap fun piece => piece.template.toList.flatMap quoteChar) ++ rest) = some parts) :
    ∀ p ∈ pieces.filterMap Piece.name?, ∀ c ∈ (parameterName p).toList, IsAscii c := by
  induction pieces generalizing parts with
  | nil => simp
  | cons piece pieces ih =>
    rw [List.flatMap_cons, List.append_assoc] at h
    cases piece with
    | literal c =>
      obtain ⟨hc, hcs⟩ := List.forall_mem_cons.1 hb
      rw [readParts_literal hc] at h
      obtain ⟨others, hr, -⟩ := Option.map_eq_some_iff.1 h
      exact ih hcs hr
    | placeholder style name =>
      rw [readParts_placeholder] at h
      split_ifs at h with hn
      obtain ⟨others, hr, -⟩ := Option.map_eq_some_iff.1 h
      exact List.forall_mem_cons.2 ⟨all_isAscii_iff.1 hn, ih hb hr⟩

/-! ## What the parts have -/

lemma fields_partsOf (pieces : List Piece) :
    fields (pieces.flatMap partsOf) = (pieces.filterMap Piece.name?).map parameterName := by
  induction pieces with
  | nil => rfl
  | cons piece pieces ih =>
    rw [List.flatMap_cons, fields_append, ih]
    cases piece with
    | literal c => simp [partsOf, Piece.name?, List.filterMap_cons]
    | placeholder style name => simp [partsOf, Piece.name?]

lemma codes_partsOf (pieces : List Piece) :
    codes (pieces.flatMap partsOf) = (pieces.filterMap Piece.literal?).flatMap codeUnits := by
  induction pieces with
  | nil => rfl
  | cons piece pieces ih =>
    rw [List.flatMap_cons, codes_append, ih]
    cases piece with
    | literal c => simp [partsOf, Piece.literal?]
    | placeholder style name => simp [partsOf, Piece.literal?, List.filterMap_cons]

/-- The code units of a text are its code points as long as each character is one unit. -/
lemma flatMap_codeUnits_eq_iff (cs : List Char) :
    cs.flatMap codeUnits = cs.map Char.toNat ↔ ∀ c ∈ cs, c.toNat < 0x10000 := by
  induction cs with
  | nil => simp
  | cons c cs ih =>
    rw [List.flatMap_cons, List.map_cons, List.forall_mem_cons, ← ih]
    by_cases h : c.toNat < 0x10000
    · simp [codeUnits, h]
    · -- The first of two units is a surrogate, so it is not the character.
      have hc := toNat_lt c
      simp only [codeUnits, h, if_false, List.cons_append, List.cons.injEq, false_and, iff_false]
      omega

/-- The braces of a template are those outside of the placeholders and one pair for each placeholder. -/
lemma count_template {b : Char} (hb : b = '\x7b' ∨ b = '\x7d') (pieces : List Piece) :
    (pieces.flatMap fun piece => piece.template.toList).count b =
      (pieces.filterMap Piece.literal?).count b + (pieces.filterMap Piece.name?).length := by
  induction pieces with
  | nil => rfl
  | cons piece pieces ih =>
    rw [List.flatMap_cons, List.count_append, ih]
    cases piece with
    | literal c =>
      simp only [Piece.template, String.toList_ofList, Piece.literal?, Piece.name?,
        List.filterMap_cons, ← List.singleton_append (l := List.filterMap _ _), List.count_append]
      omega
    | placeholder style name =>
      have hn : (parameterName (String.ofList name)).toList.count b = 0 := by
        apply List.count_eq_zero_of_not_mem
        intro hm
        obtain ⟨ho, hc⟩ := (isNameChar_of_mem_parameterName hm).ne_brace
        exact hb.elim ho hc
      have ht : (Piece.placeholder style name).template.toList.count b = 1 := by
        obtain rfl | rfl := hb <;> simp [Piece.template, hn]
      simp only [ht, Piece.literal?, Piece.name?, List.filterMap_cons, List.length_cons]
      omega

/-! ## What the literal denotes -/

/-- The literal of an operation is well formed, has the parameters as its fields, in order, and has the
text outside of the placeholders as its text. -/
def LiteralDenotesPath (operation : Operation) : Prop :=
  ∃ parts, readLiteral? .formatted (urlExpression operation) = some parts ∧
    fields parts = operation.pathParameters.map (·.name) ∧
    codes parts = (outside operation.path).map Char.toNat

lemma toList_template (path : String) :
    (template path).toList = (piecesOf path).flatMap fun piece => piece.template.toList := by
  rw [template, String.toList_join, List.flatMap_map]

lemma readLiteral?_quote (text : String) :
    readLiteral? .formatted ("f" ++ quote text) =
      readParts .formatted .text (text.toList.flatMap quoteChar ++ ['"']) := by
  simp [readLiteral?, quote, quoteChars]

/-- The braces outside of the placeholders would have to be doubled, and they are not. -/
lemma no_brace_of_denotes {path : String} {parts : List Part}
    (hr : readParts .formatted .text ((template path).toList.flatMap quoteChar ++ ['"']) = some parts)
    (hf : (fields parts).length = (placeholders path).length)
    (hc : codes parts = (outside path).map Char.toNat) :
    ∀ c ∈ outside path, c ≠ '\x7b' ∧ c ≠ '\x7d' := by
  have hcount (b : Char) : (codes parts).count b.toNat = (outside path).count b := by
    rw [hc, List.count_map_of_injective _ _ fun _ _ => Char.toNat_inj.1]
  obtain ⟨hopen, hclose⟩ := count_eq_braceCount hr
  rw [toList_template, count_template (by simp)] at hopen hclose
  simp only [braceCount, hcount, hf, pendingOpen, pendingClose] at hopen hclose
  have ho : (outside path).count '\x7b' = 0 := by
    unfold placeholders outside at *
    omega
  have hcl : (outside path).count '\x7d' = 0 := by
    unfold placeholders outside at *
    omega
  intro c hm
  constructor
  · rintro rfl
    exact List.count_eq_zero.1 ho hm
  · rintro rfl
    exact List.count_eq_zero.1 hcl hm

/-- The reading of a quoted template. -/
lemma denotes_template_iff (path : String) :
    (∃ parts, readParts .formatted .text ((template path).toList.flatMap quoteChar ++ ['"']) =
          some parts ∧
        fields parts = (placeholders path).map parameterName ∧
        codes parts = (outside path).map Char.toNat) ↔ HasPlainText path := by
  have htemplate : (template path).toList.flatMap quoteChar =
      (piecesOf path).flatMap fun piece => piece.template.toList.flatMap quoteChar := by
    rw [toList_template, List.flatMap_assoc]
  have hend : readParts .formatted .text ['"'] = some [] := by decide
  constructor
  · rintro ⟨parts, hr, hf, hc⟩
    have hb := no_brace_of_denotes hr (by simp [hf]) hc
    rw [htemplate] at hr
    have ha := ascii_of_readParts_pieces hb hr
    rw [readParts_pieces _ hb ha, hend] at hr
    obtain rfl : (piecesOf path).flatMap partsOf = parts := by simpa using hr
    rw [codes_partsOf] at hc
    exact ⟨hb, (flatMap_codeUnits_eq_iff _).1 hc, fun p hp => ascii_parameterName_iff.1 (ha p hp)⟩
  · rintro ⟨hb, hu, hd⟩
    refine ⟨(piecesOf path).flatMap partsOf, ?_, fields_partsOf _, ?_⟩
    · rw [htemplate, readParts_pieces _ hb fun p hp => ascii_parameterName_iff.2 (hd p hp), hend]
      simp
    · rw [codes_partsOf]
      exact (flatMap_codeUnits_eq_iff _).2 hu

/-- The literal of a planned operation whose path has placeholders denotes the path exactly when there are
no braces outside of the placeholders, every character there is one code unit, and the names of the
placeholders have no digits of other scripts. -/
theorem urlExpression_denotes_iff {endpoints : List Endpoint} {schemas : List (String × Schema.Model)}
    {endpoint : Endpoint} {operation : Operation}
    (hmem : (endpoint, operation) ∈ endpoints.zip (Operation.planAll endpoints schemas))
    (hp : placeholders endpoint.path ≠ []) :
    LiteralDenotesPath operation ↔ HasPlainText endpoint.path := by
  obtain ⟨-, hzip⟩ := List.forall₂_iff_zip.1 (Operation.forall₂_planAll endpoints schemas)
  obtain ⟨name, rfl⟩ := hzip hmem
  have hurl : urlExpression { Operation.plan schemas endpoint with name := name } =
      "f" ++ quote (template endpoint.path) := by
    have hne : (Operation.parametersOf endpoint.path).isEmpty = false := by
      simp [Operation.parametersOf, hp]
    simp [urlExpression, Operation.plan, hne, stringLiteral]
  have hnames : (Operation.parametersOf endpoint.path).map (·.name) =
      (placeholders endpoint.path).map parameterName := by
    simp [Operation.parametersOf]
  rw [LiteralDenotesPath, hurl, readLiteral?_quote, ← denotes_template_iff]
  exact Iff.of_eq (congrArg _ (funext fun parts => by rw [← hnames]; rfl))

/-- The operation that reads one post of a user. -/
def readPost : Endpoint :=
  { method := "GET", path := "/users/\x7buserId\x7d/posts/:postId" }

/-- The literal of a path with both kinds of placeholders. -/
theorem urlExpression_readPost_denotes :
    LiteralDenotesPath { Operation.plan [] readPost with name := "get_post" } := by
  have hmem : (readPost, { Operation.plan [] readPost with name := "get_post" }) ∈
      [readPost].zip (Operation.planAll [readPost] []) := by
    have hname : (Operation.plan [] readPost).name = "get_post" := by decide +kernel
    rw [← hname]
    exact .head _
  have houtside : outside readPost.path = "/users//posts/".toList := by decide +kernel
  have hnames : placeholders readPost.path = ["userId", "postId"] := by decide +kernel
  have hplain : HasPlainText readPost.path := by
    constructor
    · rw [houtside]
      simp
    · rw [houtside]
      simp
    · rw [hnames]
      simp [IsAscii]
  exact (urlExpression_denotes_iff hmem (by simp [hnames])).2 hplain

/-- Text in braces that is no placeholder is read as an expression all the same. -/
theorem braced_text_is_read_as_field :
    (Operation.planAll [{ method := "GET", path := "/\x7ba/b\x7d/\x7bid\x7d" }] []).map
      (fun operation => (operation.pathParameters.map (·.name),
        (readLiteral? .formatted (urlExpression operation)).map fields)) =
      [(["id"], some ["a/b", "id"])] := by
  decide +kernel

end RestConnector.Emit
