import Mathlib.Data.List.Count
import Mathlib.Data.List.Nodup
import RestConnector.Proofs.Json.Strings

/-!
# Reading string literals

Generated code has string literals of two forms.  A plain literal stands in double quotes and denotes
code points.  A formatted literal has an `f` in front and denotes code points and *fields*: between
braces stands an expression, the value of which is put in its place, and a brace that is meant as text is
doubled.  Both forms share the escapes behind a backslash; in an escape, `\u` and four digits denote one
code point, so two such escapes never make one character.

`readLiteral?` reads a literal of either form.  It reads the escapes that generated literals use, and
expressions up to the next brace: an expression with a quote, a backslash, a comment or braces of its own
is not read, nor is a literal that goes over a line.

The main statements say how what `Json.quote` writes is read.  Outside of braces, every character of the
quoted text is read as its UTF-16 code units (`readParts_quoteChar`); and whatever the reading of a
formatted literal, every brace of the quoted text is accounted for, as one half of a literal brace or as
an end of a field (`count_eq_braceCount`).
-/

namespace RestConnector.Literal

open RestConnector.Text RestConnector.Json

/-! ## The reader -/

/-- The forms of a literal. -/
inductive Form where
  | plain
  | formatted
deriving DecidableEq, Repr

/-- A part of what a literal denotes. -/
inductive Part where
  | code (n : Nat)
  | field (expression : List Char)
deriving DecidableEq, Repr

/-- Where a reader stands inside a literal. -/
inductive Place where
  | text
  /-- Behind an opening brace, with the expression read so far, last character first. -/
  | field (read : List Char)
  /-- Behind a closing brace that ends no field. -/
  | closing
deriving DecidableEq, Repr

/-- What the letters behind a backslash denote. -/
def escapes : List (Char × Nat) := [
  ('\\', 92), ('\'', 39), ('"', 34), ('a', 7), ('b', 8), ('f', 12), ('n', 10), ('r', 13), ('t', 9),
  ('v', 11)]

/-- The characters that end the reading of an expression. -/
def refused : List Char := ['\\', '"', '\'', '#', '\n', '\r']

/-- Puts a part in front of those that have been read. -/
def emit (part : Part) (parts : Option (List Part)) : Option (List Part) :=
  parts.map (part :: ·)

/-- Reads the rest of a literal up to its closing quote, which must be the end of the text. -/
def readParts (form : Form) : Place → List Char → Option (List Part)
  | _, [] => none
  | .field read, c :: cs =>
    if c = '\x7b' then if read = [] then emit (.code c.toNat) (readParts form .text cs) else none
    else if c = '\x7d' then
      if read = [] then none else emit (.field read.reverse) (readParts form .text cs)
    else if c ∈ refused then none
    else readParts form (.field (c :: read)) cs
  | .closing, c :: cs =>
    if c = '\x7d' then emit (.code c.toNat) (readParts form .text cs) else none
  | .text, '"' :: cs => if cs = [] then some [] else none
  | .text, '\\' :: 'u' :: a :: b :: c :: d :: cs =>
    match hexQuad? a b c d with
    | some n => emit (.code n) (readParts form .text cs)
    | none => none
  | .text, '\\' :: c :: cs =>
    match escapes.lookup c with
    | some n => emit (.code n) (readParts form .text cs)
    | none => none
  | .text, c :: cs =>
    if c = '\\' ∨ c = '\n' ∨ c = '\r' then none
    else if form = .formatted ∧ c = '\x7b' then readParts form (.field []) cs
    else if form = .formatted ∧ c = '\x7d' then readParts form .closing cs
    else emit (.code c.toNat) (readParts form .text cs)

lemma readParts_quote (form : Form) : readParts form .text ['"'] = some [] := by
  rw [readParts, if_pos rfl]

/-- Reads a literal, quotes included. -/
def readLiteral? (form : Form) (text : String) : Option (List Part) :=
  match form, text.toList with
  | .plain, '"' :: cs => readParts .plain .text cs
  | .formatted, 'f' :: '"' :: cs => readParts .formatted .text cs
  | _, _ => none

/-- The code points of literal text. -/
def codes (parts : List Part) : List Nat :=
  parts.filterMap fun part => match part with
    | .code n => some n
    | .field _ => none

/-- The expressions of the fields, in order. -/
def fields (parts : List Part) : List String :=
  parts.filterMap fun part => match part with
    | .code _ => none
    | .field expression => some (String.ofList expression)

@[simp] lemma codes_nil : codes [] = [] := rfl

@[simp] lemma fields_nil : fields [] = [] := rfl

@[simp] lemma codes_code (n : Nat) (parts : List Part) : codes (.code n :: parts) = n :: codes parts :=
  rfl

@[simp] lemma codes_field (expression : List Char) (parts : List Part) :
    codes (.field expression :: parts) = codes parts :=
  rfl

@[simp] lemma fields_code (n : Nat) (parts : List Part) : fields (.code n :: parts) = fields parts :=
  rfl

@[simp] lemma fields_field (expression : List Char) (parts : List Part) :
    fields (.field expression :: parts) = String.ofList expression :: fields parts :=
  rfl

@[simp] lemma codes_append (parts others : List Part) :
    codes (parts ++ others) = codes parts ++ codes others :=
  List.filterMap_append

@[simp] lemma fields_append (parts others : List Part) :
    fields (parts ++ others) = fields parts ++ fields others :=
  List.filterMap_append

@[simp] lemma codes_map_code (ns : List Nat) : codes (ns.map Part.code) = ns := by
  induction ns with
  | nil => rfl
  | cons n ns ih => simp [ih]

@[simp] lemma fields_map_code (ns : List Nat) : fields (ns.map Part.code) = [] := by
  induction ns with
  | nil => rfl
  | cons n ns ih => simp [ih]

lemma emit_eq_some {part : Part} {read : Option (List Part)} {parts : List Part}
    (h : emit part read = some parts) : ∃ rest, read = some rest ∧ parts = part :: rest := by
  obtain ⟨rest, hr, rfl⟩ := Option.map_eq_some_iff.1 h
  exact ⟨rest, hr, rfl⟩

/-! ## Quoted characters -/

/-- The UTF-16 code units of a character. -/
def codeUnits (c : Char) : List Nat :=
  if c.toNat < 0x10000 then [c.toNat]
  else [0xD800 + (c.toNat - 0x10000) / 0x400, 0xDC00 + (c.toNat - 0x10000) % 0x400]

/-- Puts the code units of a character in front of what has been read. -/
def emitUnits (c : Char) (parts : Option (List Part)) : Option (List Part) :=
  parts.map ((codeUnits c).map Part.code ++ ·)

lemma emitUnits_of_lt {c : Char} (h : c.toNat < 0x10000) (parts : Option (List Part)) :
    emitUnits c parts = emit (.code c.toNat) parts := by
  simp [emitUnits, emit, codeUnits, h]

lemma readParts_unitEscape (form : Form) {n : Nat} (h : n < 0x10000) (rest : List Char) :
    readParts form .text (unitEscape n ++ rest) = emit (.code n) (readParts form .text rest) := by
  rw [unitEscape_append, readParts, hexQuad?_hexDigit h]

lemma readParts_letterEscape (form : Form) {letter : Char} {n : Nat}
    (h : escapes.lookup letter = some n) (rest : List Char) :
    readParts form .text ('\\' :: letter :: rest) = emit (.code n) (readParts form .text rest) := by
  have hu : letter ≠ 'u' := by
    rintro rfl
    have hn : escapes.lookup 'u' = none := by decide
    simp [hn] at h
  rw [readParts, h]
  intro a b c d cs hl
  exact absurd hl hu

lemma readParts_plain (form : Form) {c : Char} (hc : ' ' ≤ c ∧ c ≤ '~') (hq : c ≠ '"')
    (hs : c ≠ '\\') (hb : form = .formatted → c ≠ '\x7b' ∧ c ≠ '\x7d') (rest : List Char) :
    readParts form .text (c :: rest) = emit (.code c.toNat) (readParts form .text rest) := by
  have hn : c ≠ '\n' ∧ c ≠ '\r' := by
    constructor <;> rintro rfl <;> exact absurd hc.1 (by decide)
  have ho : ¬ (form = .formatted ∧ c = '\x7b') := fun ⟨hf, he⟩ => (hb hf).1 he
  have hl : ¬ (form = .formatted ∧ c = '\x7d') := fun ⟨hf, he⟩ => (hb hf).2 he
  rw [readParts]
  · simp [hs, hn.1, hn.2, ho, hl]
  all_goals simp_all

/-- Outside of braces, a quoted character is read as its code units. -/
theorem readParts_quoteChar (form : Form) {c : Char} (rest : List Char)
    (hb : form = .formatted → c ≠ '\x7b' ∧ c ≠ '\x7d') :
    readParts form .text (quoteChar c ++ rest) = emitUnits c (readParts form .text rest) := by
  unfold quoteChar
  split_ifs with h1 h2 h3 h4 h5 h6 h7 h8
  -- The characters with an escape of their own.
  iterate 7
    · subst c
      rw [emitUnits_of_lt (by decide)]
      exact readParts_letterEscape form (by decide) rest
  · have hlt : c.toNat < 0x10000 := by
      have ht : c.toNat ≤ '~'.toNat := toNat_le_of_le h8.2
      exact Nat.lt_of_le_of_lt ht (by decide)
    rw [emitUnits_of_lt hlt]
    exact readParts_plain form h8 h1 h2 hb rest
  · unfold charEscape
    split
    · next h =>
      rw [emitUnits_of_lt h]
      exact readParts_unitEscape form h rest
    · next h =>
      have hc := toNat_lt c
      rw [List.append_assoc, readParts_unitEscape form (by omega),
        readParts_unitEscape form (by omega)]
      simp [emitUnits, emit, codeUnits, h, Function.comp_def]

/-! ## Expressions -/

lemma readParts_open (rest : List Char) :
    readParts .formatted .text ('\x7b' :: rest) = readParts .formatted (.field []) rest := rfl

lemma readParts_close (form : Form) {read : List Char} (hr : read ≠ []) (rest : List Char) :
    readParts form (.field read) ('\x7d' :: rest) =
      emit (.field read.reverse) (readParts form .text rest) :=
  if_neg hr

/-- A character that an expression may have is read into the field. -/
lemma readParts_field (form : Form) {c : Char} {read rest : List Char} (ho : c ≠ '\x7b')
    (hc : c ≠ '\x7d') (hr : c ∉ refused) :
    readParts form (.field read) (c :: rest) = readParts form (.field (c :: read)) rest :=
  (if_neg ho).trans ((if_neg hc).trans (if_neg hr))

/-- An expression has no escapes. -/
lemma readParts_field_backslash (form : Form) (read rest : List Char) :
    readParts form (.field read) ('\\' :: rest) = none := rfl

/-- A quoted character is itself, or an escape. -/
lemma quoteChar_cases (c : Char) :
    (quoteChar c = [c] ∧ c ≠ '"' ∧ c ≠ '\\') ∨ ∃ rest, quoteChar c = '\\' :: rest := by
  by_cases hq : c = '"'
  · exact .inr ⟨['"'], by simp [quoteChar, hq]⟩
  by_cases hs : c = '\\'
  · exact .inr ⟨['\\'], by simp [quoteChar, hs]⟩
  · simp only [quoteChar, hq, hs, if_false, charEscape, unitEscape]
    split_ifs <;> simp [hq, hs]

/-! ## Braces -/

/-- How many of a brace the parts of a literal stand for: a field has one at each end, and a brace in the
text is written twice. -/
def braceCount (b : Char) (parts : List Part) : Nat :=
  2 * (codes parts).count b.toNat + (fields parts).length

lemma braceCount_append (b : Char) (parts others : List Part) :
    braceCount b (parts ++ others) = braceCount b parts + braceCount b others := by
  simp only [braceCount, codes_append, fields_append, List.count_append, List.length_append]
  omega

/-- The opening braces that a reader has passed and not yet accounted for. -/
def pendingOpen : Place → Nat
  | .field _ => 1
  | .text | .closing => 0

/-- The closing braces that a reader has passed and not yet accounted for. -/
def pendingClose : Place → Nat
  | .closing => 1
  | .text | .field _ => 0

/-- Code units are no braces unless the character is one. -/
lemma count_codeUnits {c b : Char} (h : c ≠ b) (hb : b.toNat < 0x80) :
    (codeUnits c).count b.toNat = 0 := by
  have hne : b.toNat ≠ c.toNat := fun he => h (Char.toNat_inj.1 he.symm)
  apply List.count_eq_zero_of_not_mem
  unfold codeUnits
  split
  · simpa using hne
  · simp only [List.mem_cons, List.not_mem_nil, or_false, not_or]
    omega

/-- Passing over one quoted character, a reader emits some parts and comes to another place; the braces
balance. -/
lemma readParts_step {place : Place} {c : Char} {rest : List Char} {parts : List Part}
    (h : readParts .formatted place (quoteChar c ++ rest) = some parts) :
    ∃ next out others, readParts .formatted next rest = some others ∧ parts = out ++ others ∧
      [c].count '\x7b' + pendingOpen place = braceCount '\x7b' out + pendingOpen next ∧
      [c].count '\x7d' + pendingClose place = braceCount '\x7d' out + pendingClose next := by
  have hqo : quoteChar '\x7b' = ['\x7b'] := by decide
  have hqc : quoteChar '\x7d' = ['\x7d'] := by decide
  cases place with
  | text =>
    by_cases ho : c = '\x7b'
    · subst ho
      refine ⟨.field [], [], parts, ?_, rfl, rfl, rfl⟩
      simpa [hqo, readParts] using h
    by_cases hc : c = '\x7d'
    · subst hc
      refine ⟨.closing, [], parts, ?_, rfl, rfl, rfl⟩
      simpa [hqc, readParts] using h
    rw [readParts_quoteChar .formatted rest fun _ => ⟨ho, hc⟩] at h
    obtain ⟨others, hr, rfl⟩ := Option.map_eq_some_iff.1 h
    refine ⟨.text, (codeUnits c).map .code, others, hr, rfl, ?_, ?_⟩
    · have hn : (codeUnits c).count 123 = 0 := count_codeUnits ho (by decide)
      simp [braceCount, hn, ho, pendingOpen]
    · have hn : (codeUnits c).count 125 = 0 := count_codeUnits hc (by decide)
      simp [braceCount, hn, hc, pendingClose]
  | field read =>
    obtain ⟨hq, hdq, hbs⟩ | ⟨tail, hq⟩ := quoteChar_cases c
    · rw [hq, List.singleton_append] at h
      simp only [readParts] at h
      split_ifs at h with ho hn hc hn hr
      · obtain ⟨others, hr, rfl⟩ := emit_eq_some h
        subst ho
        exact ⟨.text, [.code 123], others, hr, rfl, rfl, rfl⟩
      · obtain ⟨others, hr, rfl⟩ := emit_eq_some h
        subst hc
        exact ⟨.text, [.field read.reverse], others, hr, rfl, rfl, rfl⟩
      · refine ⟨.field (c :: read), [], parts, h, rfl, ?_, ?_⟩
        · simp [ho, braceCount, pendingOpen]
        · simp [hc, braceCount, pendingClose]
    · rw [hq, List.cons_append, readParts_field_backslash] at h
      exact absurd h (by simp)
  | closing =>
    obtain ⟨hq, hdq, hbs⟩ | ⟨tail, hq⟩ := quoteChar_cases c
    · rw [hq, List.singleton_append] at h
      simp only [readParts] at h
      split_ifs at h with hc
      obtain ⟨others, hr, rfl⟩ := emit_eq_some h
      subst hc
      exact ⟨.text, [.code 125], others, hr, rfl, rfl, rfl⟩
    · rw [hq, List.cons_append] at h
      simp [readParts] at h

/-- Every brace of a quoted text is one of the two that make a literal brace, or an end of a field. -/
theorem count_eq_braceCount {place : Place} {cs : List Char} {parts : List Part}
    (h : readParts .formatted place (cs.flatMap quoteChar ++ ['"']) = some parts) :
    cs.count '\x7b' + pendingOpen place = braceCount '\x7b' parts ∧
      cs.count '\x7d' + pendingClose place = braceCount '\x7d' parts := by
  induction cs generalizing place parts with
  | nil =>
    cases place with
    | text =>
      obtain rfl : [] = parts := by simpa [readParts_quote] using h
      exact ⟨rfl, rfl⟩
    | field read => simp [readParts, refused] at h
    | closing => simp [readParts] at h
  | cons c cs ih =>
    rw [List.flatMap_cons, List.append_assoc] at h
    obtain ⟨next, out, others, hr, rfl, hopen, hclose⟩ := readParts_step h
    obtain ⟨ihopen, ihclose⟩ := ih hr
    rw [← List.singleton_append, List.count_append, List.count_append, braceCount_append,
      braceCount_append]
    omega

end RestConnector.Literal
