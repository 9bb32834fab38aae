import Mathlib.Data.List.Nodup
import RestConnector.Proofs.Json.Numbers
import RestConnector.Proofs.Json.Strings

/-!
# Printed documents

`read?` takes back what `pretty` prints (`read?_pretty`), for the values that it can return at all
(`Value.IsReadable`): no object in them has a key twice, since of such a key only the last value is read,
and no integer is too long to be read.  Numbers of the other kind are printed as they are, whatever they are;
they are left out here.  What is printed of the values that remain is in ASCII (`isAsciiText_prettyAt`).

The reader spends its fuel on calls, and each call reads a character at least; so the length of a printed
value is enough for reading it (`ReadsBack`).  The induction is on the value.  Inside an array or object it
goes along with the items or members (`readItems_pretty`, `readMembers_pretty`), each of which is read up to
the comma behind it or to the end of its line.
-/

namespace RestConnector.Json

open RestConnector.Text

/-- A value that the reader can return: the keys of each object are distinct, and the numbers are integers
that are not too long. -/
inductive Value.IsReadable : Value → Prop where
  | null : IsReadable .null
  | bool (b : Bool) : IsReadable (.bool b)
  | integer {n : Int} (short : IsShort n) : IsReadable (.integer n)
  | string (s : String) : IsReadable (.string s)
  | array {items : List Value} (readable : ∀ item ∈ items, IsReadable item) : IsReadable (.array items)
  | object {members : List (String × Value)} (distinct : (members.map Prod.fst).Nodup)
    (readable : ∀ member ∈ members, IsReadable member.2) : IsReadable (.object members)

/-! ## Members of an object -/

lemma Members.put_of_not_mem {key : String} {members : List (String × Value)}
    (h : key ∉ members.map Prod.fst) (value : Value) :
    Members.put key value members = members ++ [(key, value)] := by
  induction members with
  | nil => rfl
  | cons member rest ih =>
    rw [List.map_cons, List.mem_cons, not_or] at h
    rw [Members.put, if_neg (Ne.symm h.1), ih h.2, List.cons_append]

lemma Members.foldl_put {front pairs : List (String × Value)}
    (h : ((front ++ pairs).map Prod.fst).Nodup) :
    pairs.foldl (fun members pair => Members.put pair.1 pair.2 members) front = front ++ pairs := by
  induction pairs generalizing front with
  | nil => rw [List.foldl_nil, List.append_nil]
  | cons pair pairs ih =>
    have hnew : pair.1 ∉ front.map Prod.fst := by
      rw [List.map_append, List.nodup_append'] at h
      exact fun hmem => h.2.2 hmem (by simp)
    rw [List.append_cons] at h
    rw [List.foldl_cons, Members.put_of_not_mem hnew, ih h, ← List.append_cons]

/-- If no key comes twice, an object has the members that it is read from. -/
lemma Members.ofList_of_nodup {members : List (String × Value)} (h : (members.map Prod.fst).Nodup) :
    Members.ofList members = members :=
  Members.foldl_put h

/-! ## Blanks -/

lemma toList_newLine (depth : Nat) :
    (newLine depth).toList = '\n' :: List.replicate (2 * depth) ' ' :=
  String.toList_ofList

lemma skipBlanks_newLine (depth : Nat) (rest : List Char) :
    skipBlanks ((newLine depth).toList ++ rest) = skipBlanks rest := by
  rw [skipBlanks, List.dropWhile_append_of_pos]
  · rfl
  · simp +decide [toList_newLine, List.mem_replicate]

lemma skipBlanks_of_not_isJsonBlank {c : Char} (h : isJsonBlank c = false) (rest : List Char) :
    skipBlanks (c :: rest) = c :: rest := by
  simp [skipBlanks, h]

lemma skipBlanks_newLine_cons (depth : Nat) {c : Char} (h : isJsonBlank c = false) (rest : List Char) :
    skipBlanks ((newLine depth).toList ++ c :: rest) = c :: rest := by
  rw [skipBlanks_newLine, skipBlanks_of_not_isJsonBlank h]

/-- No value begins with a blank or with a closing bracket. -/
lemma readValue_eq_none {c : Char} (h : isJsonBlank c ∨ c = ']') (fuel : Nat) (cs : List Char) :
    readValue fuel (c :: cs) = none := by
  have hc : c = ' ' ∨ c = '\t' ∨ c = '\n' ∨ c = '\r' ∨ c = ']' := by
    simpa [isJsonBlank, or_assoc] using h
  cases fuel with
  | zero => rfl
  | succ fuel => rcases hc with rfl | rfl | rfl | rfl | rfl <;> rfl

/-! ## Values -/

/-- A value is read back if its text is read as the value, at any depth, in front of whatever may stand behind
a value, and with any fuel that suffices for its length. -/
def ReadsBack (value : Value) : Prop :=
  ∀ (depth fuel : Nat) (rest : List Char), EndsValue rest →
    (prettyAt depth value).toList.length ≤ fuel + 1 →
      readValue (fuel + 1) ((prettyAt depth value).toList ++ rest) = some (value, rest)

lemma readValue_nil (fuel : Nat) : readValue fuel [] = none := by
  cases fuel <;> rfl

/-- The text of a value that is read back begins with the value. -/
lemma ReadsBack.exists_cons {value : Value} (h : ReadsBack value) (depth : Nat) :
    ∃ c cs, (prettyAt depth value).toList = c :: cs ∧ isJsonBlank c = false ∧ c ≠ ']' := by
  have hread := h depth _ [] endsValue_nil (Nat.le_add_right _ 1)
  rw [List.append_nil] at hread
  cases htext : (prettyAt depth value).toList with
  | nil => simp [htext, readValue_nil] at hread
  | cons c cs =>
    rw [htext] at hread
    have hc : ¬ (isJsonBlank c ∨ c = ']') := fun hc => by
      simp [readValue_eq_none hc] at hread
    exact ⟨c, cs, rfl, by simpa using fun hb => hc (.inl hb), fun he => hc (.inr he)⟩

lemma ReadsBack.skipBlanks_eq {value : Value} (h : ReadsBack value) (depth : Nat) (rest : List Char) :
    skipBlanks ((prettyAt depth value).toList ++ rest) = (prettyAt depth value).toList ++ rest := by
  obtain ⟨c, cs, htext, hblank, -⟩ := h.exists_cons depth
  rw [htext, List.cons_append, skipBlanks_of_not_isJsonBlank hblank]

/-- Words and numbers are told from the other values by how they begin. -/
lemma readValue_of_isWordOrNumber {c : Char} {cs : List Char} {fuel : Nat}
    (h : c ≠ '"' ∧ c ≠ '[' ∧ c ≠ '\x7b') :
    readValue (fuel + 1) (c :: cs) = (readWord (c :: cs)).or (readNumber (c :: cs)) := by
  rw [readValue]
  all_goals simp_all

lemma readsBack_null : ReadsBack .null := by
  intro depth fuel rest hrest hfuel
  rw [prettyAt]
  rfl

lemma readsBack_bool (b : Bool) : ReadsBack (.bool b) := by
  intro depth fuel rest hrest hfuel
  rw [prettyAt]
  cases b <;> rfl

lemma readsBack_integer {n : Int} (h : IsShort n) : ReadsBack (.integer n) := by
  intro depth fuel rest hrest hfuel
  have hword := readWord_toString n rest
  have hnumber := readNumber_toString h hrest
  obtain ⟨c, cs, htext, hc⟩ := exists_cons_toString n
  have hother : c ≠ '"' ∧ c ≠ '[' ∧ c ≠ '\x7b' := by
    refine ⟨?_, ?_, ?_⟩ <;> rintro rfl <;> exact absurd hc (by decide)
  rw [htext, List.cons_append] at hword hnumber
  rw [prettyAt, htext, List.cons_append, readValue_of_isWordOrNumber hother, hword, hnumber,
    Option.none_or]

lemma toList_quote_append (text : String) (rest : List Char) :
    (quote text).toList ++ rest = '"' :: (text.toList.flatMap quoteChar ++ '"' :: rest) := by
  simp [quote, quoteChars]

lemma readsBack_string (text : String) : ReadsBack (.string text) := by
  intro depth fuel rest hrest hfuel
  simp only [prettyAt_string, toList_quote_append, readValue, readString_flatMap_quoteChar,
    Option.map_some, String.ofList_toList]

/-! ## Items and members -/

lemma skipBlanks_quote (text : String) (rest : List Char) :
    skipBlanks ((quote text).toList ++ rest) = (quote text).toList ++ rest := by
  rw [toList_quote_append]
  rfl

lemma toList_prettyItems_cons (depth : Nat) (item : Value) (items : List Value) :
    (prettyItems depth (item :: items)).toList =
      ',' :: ((newLine depth).toList ++
        ((prettyAt depth item).toList ++ (prettyItems depth items).toList)) := by
  simp [prettyItems]

lemma toList_prettyMembers_cons (depth : Nat) (key : String) (value : Value)
    (members : List (String × Value)) :
    (prettyMembers depth ((key, value) :: members)).toList =
      ',' :: ((newLine depth).toList ++ ((quote key).toList ++
        (':' :: ' ' :: ((prettyAt depth value).toList ++ (prettyMembers depth members).toList)))) := by
  simp [prettyMembers]

/-- The items of an array are read up to the end of the array. -/
lemma readItems_pretty {items : List Value} (h : ∀ item ∈ items, ReadsBack item) {item : Value}
    (hitem : ReadsBack item) (depth outer : Nat) (rest : List Char) (fuel : Nat)
    (hfuel : (prettyAt depth item).toList.length + (prettyItems depth items).toList.length ≤ fuel + 1) :
    readItems (fuel + 2) ((prettyAt depth item).toList ++ ((prettyItems depth items).toList ++
      ((newLine outer).toList ++ ']' :: rest))) = some (item :: items, rest) := by
  have hcomma : ∀ cs, skipBlanks (',' :: cs) = ',' :: cs := fun _ => rfl
  induction items generalizing item fuel with
  | nil =>
    have hread := hitem depth fuel ((newLine outer).toList ++ ']' :: rest)
      (by rw [toList_newLine]; exact endsValue_lineFeed _) (by omega)
    have hclose := skipBlanks_newLine_cons outer (by decide : isJsonBlank ']' = false) rest
    rw [prettyItems, String.toList_empty, List.nil_append, readItems, hread]
    simp only [hclose]
  | cons next items ih =>
    obtain ⟨hnext, hitems⟩ := List.forall_mem_cons.1 h
    simp only [toList_prettyItems_cons, toList_newLine, List.length_cons, List.length_append] at hfuel
    obtain ⟨fuel, rfl⟩ : ∃ less, fuel = less + 1 := ⟨fuel - 1, by omega⟩
    have hread (behind) := hitem depth (fuel + 1) (',' :: behind) (endsValue_comma behind) (by omega)
    rw [toList_prettyItems_cons, List.cons_append, readItems, hread]
    simp only [List.append_assoc, hcomma, skipBlanks_newLine, hnext.skipBlanks_eq]
    rw [ih hitems hnext fuel (by omega), Option.map_some]

/-- The members of an object are read up to the end of the object. -/
lemma readMembers_pretty {members : List (String × Value)} (h : ∀ member ∈ members, ReadsBack member.2)
    (key : String) {value : Value} (hvalue : ReadsBack value) (depth outer : Nat) (rest : List Char)
    (fuel : Nat)
    (hfuel : (prettyAt depth value).toList.length + (prettyMembers depth members).toList.length ≤
      fuel + 1) :
    readMembers (fuel + 2) ((quote key).toList ++ (':' :: ' ' :: ((prettyAt depth value).toList ++
      ((prettyMembers depth members).toList ++ ((newLine outer).toList ++ '\x7d' :: rest))))) =
        some ((key, value) :: members, rest) := by
  have hcolon : ∀ cs, skipBlanks (':' :: cs) = ':' :: cs := fun _ => rfl
  have hspace : ∀ cs, skipBlanks (' ' :: cs) = skipBlanks cs := fun _ => rfl
  have hcomma : ∀ cs, skipBlanks (',' :: cs) = ',' :: cs := fun _ => rfl
  induction members generalizing key value fuel with
  | nil =>
    have hread := hvalue depth fuel ((newLine outer).toList ++ '\x7d' :: rest)
      (by rw [toList_newLine]; exact endsValue_lineFeed _) (by omega)
    have hclose := skipBlanks_newLine_cons outer (by decide : isJsonBlank '\x7d' = false) rest
    rw [prettyMembers, String.toList_empty, List.nil_append, toList_quote_append, readMembers,
      readString_flatMap_quoteChar]
    simp only [hcolon, hspace, hvalue.skipBlanks_eq, hread, hclose, String.ofList_toList]
  | cons member members ih =>
    obtain ⟨next, nextValue⟩ := member
    obtain ⟨hnext, hmembers⟩ : ReadsBack nextValue ∧ ∀ member ∈ members, ReadsBack member.2 :=
      List.forall_mem_cons.1 h
    simp only [toList_prettyMembers_cons, toList_newLine, List.length_cons, List.length_append]
      at hfuel
    obtain ⟨fuel, rfl⟩ : ∃ less, fuel = less + 1 := ⟨fuel - 1, by omega⟩
    have hread (behind) := hvalue depth (fuel + 1) (',' :: behind) (endsValue_comma behind) (by omega)
    rw [toList_prettyMembers_cons, List.cons_append, toList_quote_append, readMembers,
      readString_flatMap_quoteChar]
    simp only [List.append_assoc, List.cons_append, hcolon, hspace, hcomma, hvalue.skipBlanks_eq, hread,
      skipBlanks_newLine, skipBlanks_quote]
    rw [ih hmembers next hnext fuel (by omega), Option.map_some, String.ofList_toList]

/-! ## Arrays and objects -/

lemma toList_prettyAt_array (depth : Nat) (item : Value) (items : List Value) :
    (prettyAt depth (.array (item :: items))).toList =
      '[' :: ((newLine (depth + 1)).toList ++ ((prettyAt (depth + 1) item).toList ++
        ((prettyItems (depth + 1) items).toList ++ ((newLine depth).toList ++ [']'])))) := by
  simp [prettyAt]

lemma toList_prettyAt_object (depth : Nat) (key : String) (value : Value)
    (members : List (String × Value)) :
    (prettyAt depth (.object ((key, value) :: members))).toList =
      '\x7b' :: ((newLine (depth + 1)).toList ++ ((quote key).toList ++ (':' :: ' ' ::
        ((prettyAt (depth + 1) value).toList ++ ((prettyMembers (depth + 1) members).toList ++
          ((newLine depth).toList ++ ['\x7d'])))))) := by
  simp [prettyAt]

lemma readValue_array {fuel : Nat} {cs behind : List Char} {c : Char} (h : skipBlanks cs = c :: behind)
    (hc : c ≠ ']') :
    readValue (fuel + 1) ('[' :: cs) =
      (readItems fuel (c :: behind)).map fun (items, rest) => (.array items, rest) := by
  rw [readValue, h]
  split
  · next heq => exact absurd (List.cons.inj heq).1 hc
  · rfl

lemma readValue_object {fuel : Nat} {cs behind : List Char} {c : Char} (h : skipBlanks cs = c :: behind)
    (hc : c ≠ '\x7d') :
    readValue (fuel + 1) ('\x7b' :: cs) =
      (readMembers fuel (c :: behind)).map fun (members, rest) =>
        (.object (Members.ofList members), rest) := by
  rw [readValue, h]
  split
  · next heq => exact absurd (List.cons.inj heq).1 hc
  · rfl

lemma readsBack_array {items : List Value} (h : ∀ item ∈ items, ReadsBack item) :
    ReadsBack (.array items) := by
  intro depth fuel rest hrest hfuel
  cases items with
  | nil =>
    rw [prettyAt]
    rfl
  | cons item items =>
    obtain ⟨hitem, hitems⟩ := List.forall_mem_cons.1 h
    simp only [toList_prettyAt_array, toList_newLine, List.length_cons, List.length_append] at hfuel
    obtain ⟨fuel, rfl⟩ : ∃ less, fuel = less + 2 := ⟨fuel - 2, by omega⟩
    have hread := readItems_pretty hitems hitem (depth + 1) depth rest fuel (by omega)
    obtain ⟨c, cs, htext, hblank, hc⟩ := hitem.exists_cons (depth + 1)
    have hfirst := skipBlanks_newLine_cons (depth + 1) hblank
    simp only [toList_prettyAt_array, List.cons_append, List.append_assoc, List.nil_append]
    rw [htext, List.cons_append] at hread ⊢
    rw [readValue_array (hfirst _) hc, hread, Option.map_some]

lemma readsBack_object {members : List (String × Value)} (hkeys : (members.map Prod.fst).Nodup)
    (h : ∀ member ∈ members, ReadsBack member.2) : ReadsBack (.object members) := by
  intro depth fuel rest hrest hfuel
  cases members with
  | nil =>
    rw [prettyAt]
    rfl
  | cons member members =>
    obtain ⟨key, value⟩ := member
    obtain ⟨hvalue, hmembers⟩ : ReadsBack value ∧ ∀ member ∈ members, ReadsBack member.2 :=
      List.forall_mem_cons.1 h
    simp only [toList_prettyAt_object, toList_newLine, List.length_cons, List.length_append] at hfuel
    obtain ⟨fuel, rfl⟩ : ∃ less, fuel = less + 2 := ⟨fuel - 2, by omega⟩
    have hread := readMembers_pretty hmembers key hvalue (depth + 1) depth rest fuel (by omega)
    simp only [toList_prettyAt_object, List.cons_append, List.append_assoc, List.nil_append]
    have hfirst := skipBlanks_newLine_cons (depth + 1) (by decide : isJsonBlank '"' = false)
    rw [toList_quote_append] at hread ⊢
    rw [readValue_object (hfirst _) (by decide), hread, Option.map_some]
    simp only [Members.ofList_of_nodup hkeys]

/-! ## Documents -/

lemma Value.IsReadable.readsBack {value : Value} (h : value.IsReadable) : ReadsBack value := by
  induction h with
  | null => exact readsBack_null
  | bool b => exact readsBack_bool b
  | integer short => exact readsBack_integer short
  | string s => exact readsBack_string s
  | array _ ih => exact readsBack_array ih
  | object distinct _ ih => exact readsBack_object distinct ih

/-- A document is read back as the value that was printed. -/
theorem read?_pretty {value : Value} (h : value.IsReadable) : read? (pretty value) = some value := by
  have hread := h.readsBack 0 (pretty value).toList.length [] endsValue_nil (Nat.le_add_right _ 1)
  have hskip := h.readsBack.skipBlanks_eq 0 []
  rw [List.append_nil] at hread hskip
  rw [read?, readChars?, pretty, hskip]
  rw [pretty] at hread
  rw [hread]
  rfl

/-! ## The characters of a document -/

lemma isAsciiText_newLine (depth : Nat) : IsAsciiText (newLine depth) := by
  simp +decide [IsAsciiText, toList_newLine, List.mem_replicate]

lemma isAsciiText_quote (text : String) : IsAsciiText (quote text) := by
  apply IsPrintable.isAsciiText
  rw [quote, String.toList_ofList]
  exact isPrintable_quoteChars text.toList

lemma isAsciiText_toString (n : Int) : IsAsciiText (toString n) := by
  intro c hc
  rw [toList_toString, List.mem_append] at hc
  rcases hc with hsign | hdigit
  · obtain rfl : c = '-' := by
      split at hsign <;> simp_all
    decide
  · have hrange := isAsciiDigit_iff.1 (isDigit_toDigits n.natAbs c hdigit)
    exact Nat.lt_of_le_of_lt hrange.2 (by decide)

lemma isAsciiText_prettyItems {items : List Value}
    (h : ∀ item ∈ items, ∀ depth, IsAsciiText (prettyAt depth item)) (depth : Nat) :
    IsAsciiText (prettyItems depth items) := by
  induction items with
  | nil => simp +decide [prettyItems]
  | cons item items ih =>
    obtain ⟨hitem, hitems⟩ := List.forall_mem_cons.1 h
    simp only [prettyItems, isAsciiText_append, isAsciiText_newLine, hitem depth, ih hitems, and_true]
    decide

lemma isAsciiText_prettyMembers {members : List (String × Value)}
    (h : ∀ member ∈ members, ∀ depth, IsAsciiText (prettyAt depth member.2)) (depth : Nat) :
    IsAsciiText (prettyMembers depth members) := by
  induction members with
  | nil => simp +decide [prettyMembers]
  | cons member members ih =>
    obtain ⟨hvalue, hmembers⟩ := List.forall_mem_cons.1 h
    simp only [prettyMembers, isAsciiText_append, isAsciiText_newLine, isAsciiText_quote, hvalue depth,
      ih hmembers, and_true]
    decide

/-- A document is printed in ASCII. -/
theorem Value.IsReadable.isAsciiText_prettyAt {value : Value} (h : value.IsReadable) (depth : Nat) :
    IsAsciiText (prettyAt depth value) := by
  induction h generalizing depth with
  | null => simp +decide [prettyAt]
  | bool b => cases b <;> simp +decide [prettyAt]
  | integer _ => exact isAsciiText_toString _
  | string s => exact isAsciiText_quote s
  | @array items _ ih =>
    cases items with
    | nil => simp +decide [prettyAt]
    | cons item items =>
      obtain ⟨hitem, hitems⟩ := List.forall_mem_cons.1 ih
      simp only [prettyAt, isAsciiText_append, isAsciiText_newLine, hitem,
        isAsciiText_prettyItems hitems, and_true]
      decide
  | @object members _ _ ih =>
    cases members with
    | nil => simp +decide [prettyAt]
    | cons member members =>
      obtain ⟨hvalue, hmembers⟩ := List.forall_mem_cons.1 ih
      simp only [prettyAt, isAsciiText_append, isAsciiText_newLine, isAsciiText_quote, hvalue,
        isAsciiText_prettyMembers hmembers, and_true]
      decide

end RestConnector.Json
