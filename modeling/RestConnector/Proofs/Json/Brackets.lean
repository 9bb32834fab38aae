import Mathlib.Data.List.Infix
import Mathlib.Tactic.Lemma
import RestConnector.Json.Reader
import RestConnector.Proofs.Text.Trim

/-!
# The brackets of a document

A reader takes what it reads from the front of a text and leaves the rest as it stands.  So if there are
brackets around a value, the first of them is the first character read, and the last is the one right in front
of what is left (`IsReadOff`).  Of a whole document nothing but blanks is left, and the blanks of JSON are blanks
of running text as well; hence a document that is an array or an object begins and ends with its brackets once
it is trimmed (`trim_of_readChars?`).

The readers of values, items and members call one another with less fuel, and the induction is on that
(`readValue_isReadOff`).  Items and members end with a bracket that the reader of values has not seen, so what
they are shown to leave includes it (`ItemsClose`, `MembersClose`).
-/

namespace RestConnector.Json

open RestConnector.Text

variable {cs rest : List Char}

/-! ## What is left -/

lemma suffix_skipBlanks (cs : List Char) : skipBlanks cs <:+ cs :=
  List.dropWhile_suffix _

/-- One more character of a string is read, in front of what a reader of strings leaves. -/
lemma suffix_of_pushChar {c : Char} {text behind : List Char} (front : List Char)
    (h : pushChar c (readString behind) = some (text, rest))
    (ih : ∀ {text}, readString behind = some (text, rest) → rest <:+ behind) :
    rest <:+ front ++ behind := by
  obtain ⟨⟨more, left⟩, hread, heq⟩ := Option.map_eq_some_iff.1 h
  obtain ⟨-, rfl⟩ := Prod.mk.inj heq
  exact (ih hread).trans (List.suffix_append front behind)

lemma suffix_of_readString {text : List Char} (h : readString cs = some (text, rest)) :
    rest <:+ cs := by
  fun_induction readString cs generalizing text with
  | case1 => cases h
  | case2 behind =>
    cases h
    exact List.suffix_cons _ _
  | case3 a b c d behind hquad => cases h
  | case4 a b c d unit hquad e f g i behind low hlow hhigh hpair ih =>
    exact suffix_of_pushChar ['\\', 'u', a, b, c, d, '\\', 'u', e, f, g, i] h ih
  | case5 a b c d unit hquad e f g i behind low hlow hhigh hpair ih =>
    exact suffix_of_pushChar ['\\', 'u', a, b, c, d] h ih
  | case6 a b c d unit hquad e f g i behind hsingle ih =>
    exact suffix_of_pushChar ['\\', 'u', a, b, c, d] h ih
  | case7 a b c d unit hquad behind hsingle ih => exact suffix_of_pushChar ['\\', 'u', a, b, c, d] h ih
  | case8 c behind hunit plain hplain ih => exact suffix_of_pushChar ['\\', c] h ih
  | case9 => cases h
  | case10 => cases h
  | case11 c behind _ _ _ _ ih => exact suffix_of_pushChar [c] h ih

lemma suffix_spanDigits (cs : List Char) : (spanDigits cs).2 <:+ cs :=
  List.dropWhile_suffix _

lemma suffix_of_readWhole {digits : List Char} (h : readWhole cs = some (digits, rest)) :
    rest <:+ cs := by
  unfold readWhole at h
  split at h
  · cases h
    exact List.suffix_cons _ _
  · next hzero =>
    have hspan := suffix_spanDigits cs
    split at h
    · cases h
    · rw [Option.some.inj h] at hspan
      exact hspan

lemma suffix_readFraction (cs : List Char) : (readFraction cs).2 <:+ cs := by
  unfold readFraction
  split
  · next behind =>
    have hspan := suffix_spanDigits behind
    split
    · exact List.suffix_rfl
    · next digits rest _ heq =>
      rw [heq] at hspan
      exact hspan.trans (List.suffix_cons _ _)
  · exact List.suffix_rfl

lemma suffix_spanSign (cs : List Char) : (spanSign cs).2 <:+ cs := by
  unfold spanSign
  split
  · exact List.suffix_cons _ _
  · exact List.suffix_cons _ _
  · exact List.suffix_rfl

lemma suffix_readExponent (cs : List Char) : (readExponent cs).2 <:+ cs := by
  unfold readExponent
  split
  · exact List.suffix_rfl
  · next c behind =>
    split
    · have hspan := (suffix_spanDigits (spanSign behind).2).trans (suffix_spanSign behind)
      dsimp only
      split
      · exact List.suffix_rfl
      · next digits rest _ heq =>
        rw [heq] at hspan
        exact hspan.trans (List.suffix_cons _ _)
    · exact List.suffix_rfl

/-! ## Values and their brackets -/

/-- The brackets that stand around a value, if it is an array or an object. -/
def brackets? : Value → Option (Char × Char)
  | .array _ => some ('[', ']')
  | .object _ => some ('\x7b', '\x7d')
  | _ => none

/-- A reader of values has read a value off the front of a text: what it leaves is the end of the text, and
if there are brackets around the value, one of them comes first and the other right before what is left. -/
structure IsReadOff (value : Value) (cs rest : List Char) : Prop where
  suffix : rest <:+ cs
  enclosed : ∀ opening closing, brackets? value = some (opening, closing) →
    ∃ body, cs = opening :: body ∧ closing :: rest <:+ body

variable {value : Value}

lemma IsReadOff.of_brackets?_eq_none (hsuffix : rest <:+ cs) (h : brackets? value = none) :
    IsReadOff value cs rest := by
  refine ⟨hsuffix, fun opening closing hsome => ?_⟩
  rw [h] at hsome
  cases hsome

lemma IsReadOff.of_enclosed {opening closing : Char} {body : List Char}
    (h : brackets? value = some (opening, closing)) (hbody : closing :: rest <:+ body) :
    IsReadOff value (opening :: body) rest := by
  refine ⟨?_, fun first last hsome => ?_⟩
  · exact (List.suffix_cons closing rest).trans (hbody.trans (List.suffix_cons opening body))
  · rw [h] at hsome
    cases hsome
    exact ⟨body, rfl, hbody⟩

/-! ## Words and numbers -/

lemma suffix_of_readWord (h : readWord cs = some (value, rest)) :
    rest <:+ cs ∧ brackets? value = none := by
  have hwords : ∀ word ∈ words, brackets? word.2 = none := by decide
  obtain ⟨word, hfind, heq⟩ := Option.map_eq_some_iff.1 h
  cases heq
  exact ⟨List.drop_suffix _ _, hwords word (List.mem_of_find?_eq_some hfind)⟩

lemma suffix_of_readUnsigned {negative : Bool} (h : readUnsigned negative cs = some (value, rest)) :
    rest <:+ cs ∧ brackets? value = none := by
  simp only [readUnsigned, Option.bind_eq_bind, Option.bind_eq_some_iff] at h
  obtain ⟨⟨whole, behind⟩, hwhole, h⟩ := h
  have hsuffix := (suffix_readExponent (readFraction behind).2).trans
    ((suffix_readFraction behind).trans (suffix_of_readWhole hwhole))
  split at h
  · split at h
    · cases h
    · cases h
      exact ⟨hsuffix, rfl⟩
  · cases h
    exact ⟨hsuffix, rfl⟩

lemma suffix_of_readNumber (h : readNumber cs = some (value, rest)) :
    rest <:+ cs ∧ brackets? value = none := by
  unfold readNumber at h
  split at h
  · obtain ⟨hsuffix, hplain⟩ := suffix_of_readUnsigned h
    exact ⟨hsuffix.trans (List.suffix_cons _ _), hplain⟩
  · exact suffix_of_readUnsigned h

/-! ## Arrays and objects -/

/-- Whether values are read off, with some fuel. -/
def ValuesReadOff (fuel : Nat) : Prop :=
  ∀ cs value rest, readValue fuel cs = some (value, rest) → IsReadOff value cs rest

/-- Whether items are read, with some fuel, up to the closing bracket. -/
def ItemsClose (fuel : Nat) : Prop :=
  ∀ cs items rest, readItems fuel cs = some (items, rest) → ']' :: rest <:+ cs

/-- Whether members are read, with some fuel, up to the closing brace. -/
def MembersClose (fuel : Nat) : Prop :=
  ∀ cs members rest, readMembers fuel cs = some (members, rest) → '\x7d' :: rest <:+ cs

lemma isReadOff_of_readValue_succ {fuel : Nat} (hitems : ItemsClose fuel) (hmembers : MembersClose fuel)
    (h : readValue (fuel + 1) cs = some (value, rest)) : IsReadOff value cs rest := by
  unfold readValue at h
  split at h
  · next behind =>
    obtain ⟨⟨text, left⟩, hread, heq⟩ := Option.map_eq_some_iff.1 h
    cases heq
    exact .of_brackets?_eq_none ((suffix_of_readString hread).trans (List.suffix_cons _ _)) rfl
  · next behind =>
    have hskip := suffix_skipBlanks behind
    split at h
    · next left heq =>
      cases h
      rw [heq] at hskip
      exact .of_enclosed rfl hskip
    · obtain ⟨⟨items, left⟩, hread, heq⟩ := Option.map_eq_some_iff.1 h
      cases heq
      exact .of_enclosed rfl ((hitems _ _ _ hread).trans hskip)
  · next behind =>
    have hskip := suffix_skipBlanks behind
    split at h
    · next left heq =>
      cases h
      rw [heq] at hskip
      exact .of_enclosed rfl hskip
    · obtain ⟨⟨members, left⟩, hread, heq⟩ := Option.map_eq_some_iff.1 h
      cases heq
      exact .of_enclosed rfl ((hmembers _ _ _ hread).trans hskip)
  · have hplain : rest <:+ cs ∧ brackets? value = none := by
      rcases Option.or_eq_some_iff.1 h with hword | ⟨-, hnumber⟩
      · exact suffix_of_readWord hword
      · exact suffix_of_readNumber hnumber
    exact .of_brackets?_eq_none hplain.1 hplain.2

/-- What stands in front of a bracket or comma and its blanks has been read. -/
lemma suffix_behind {c : Char} {left behind : List Char} (hread : left <:+ cs)
    (hskip : skipBlanks left = c :: behind) : c :: behind <:+ cs := by
  rw [← hskip]
  exact (suffix_skipBlanks left).trans hread

lemma itemsClose_succ {fuel : Nat} (hvalues : ValuesReadOff fuel)
    (hitems : ItemsClose fuel) : ItemsClose (fuel + 1) := by
  intro cs items rest h
  unfold readItems at h
  split at h
  · cases h
  · next item left hread =>
    have hleft := (hvalues _ _ _ hread).suffix
    split at h
    · next behind hskip =>
      obtain ⟨⟨more, last⟩, hmore, heq⟩ := Option.map_eq_some_iff.1 h
      cases heq
      have hbehind := (suffix_skipBlanks behind).trans (List.suffix_cons ',' behind)
      exact (hitems _ _ _ hmore).trans (hbehind.trans (suffix_behind hleft hskip))
    · next behind hskip =>
      cases h
      exact suffix_behind hleft hskip
    · cases h

lemma membersClose_succ {fuel : Nat} (hvalues : ValuesReadOff fuel)
    (hmembers : MembersClose fuel) : MembersClose (fuel + 1) := by
  intro cs members rest h
  unfold readMembers at h
  split at h
  · next behindQuote =>
    split at h
    · cases h
    · next key behindKey hkey =>
      have hname := (suffix_of_readString hkey).trans (List.suffix_cons '"' behindQuote)
      split at h
      · next behindColon hcolon =>
        have hstart := (suffix_skipBlanks behindColon).trans
          ((List.suffix_cons ':' behindColon).trans (suffix_behind hname hcolon))
        split at h
        · cases h
        · next value left hread =>
          have hleft := (hvalues _ _ _ hread).suffix.trans hstart
          split at h
          · next behind hskip =>
            obtain ⟨⟨more, last⟩, hmore, heq⟩ := Option.map_eq_some_iff.1 h
            cases heq
            have hbehind := (suffix_skipBlanks behind).trans (List.suffix_cons ',' behind)
            exact (hmembers _ _ _ hmore).trans (hbehind.trans (suffix_behind hleft hskip))
          · next behind hskip =>
            cases h
            exact suffix_behind hleft hskip
          · cases h
      · cases h
  · cases h

/-- Readers read on from the front, however much fuel they have. -/
theorem readValue_isReadOff (fuel : Nat) : ValuesReadOff fuel ∧ ItemsClose fuel ∧ MembersClose fuel := by
  induction fuel with
  | zero => refine ⟨fun _ _ _ h => ?_, fun _ _ _ h => ?_, fun _ _ _ h => ?_⟩ <;> cases h
  | succ fuel ih =>
    obtain ⟨hvalues, hitems, hmembers⟩ := ih
    exact ⟨fun _ _ _ => isReadOff_of_readValue_succ hitems hmembers, itemsClose_succ hvalues hitems,
      membersClose_succ hvalues hmembers⟩

/-! ## Documents -/

/-- The brackets of a document are its first and its last character, when blanks around it are taken away. -/
theorem trim_of_readChars? {opening closing : Char} (h : readChars? cs = some value)
    (hb : brackets? value = some (opening, closing)) :
    ∃ body, trim cs = opening :: (body ++ [closing]) := by
  have hblank : ∀ c, isJsonBlank c → isBlank c := by
    intro c hc
    have hcases : c = ' ' ∨ c = '\t' ∨ c = '\n' ∨ c = '\r' := by simpa [isJsonBlank, or_assoc] using hc
    rcases hcases with rfl | rfl | rfl | rfl <;> decide
  have hkept : ¬ isBlank opening ∧ ¬ isBlank closing := by
    cases value <;> cases hb <;> decide
  unfold readChars? at h
  split at h
  · next read left hread =>
    split at h
    · next hend =>
      obtain rfl := Option.some.inj h
      obtain ⟨body, hbody, middle, hmiddle⟩ :=
        ((readValue_isReadOff _).1 _ _ _ hread).enclosed opening closing hb
      have hfront : ∀ c ∈ cs.takeWhile isJsonBlank, isBlank c := fun c hc =>
        hblank c (List.mem_takeWhile_imp hc)
      have hback : ∀ c ∈ left, isBlank c := fun c hc =>
        hblank c (List.dropWhile_eq_nil_iff.1 (List.isEmpty_iff.1 hend) c hc)
      have htext : cs = cs.takeWhile isJsonBlank ++ (opening :: (middle ++ [closing]) ++ left) := by
        conv_lhs => rw [← List.takeWhile_append_dropWhile (p := isJsonBlank) (l := cs)]
        rw [← skipBlanks, hbody, ← hmiddle]
        simp
      refine ⟨middle, ?_⟩
      rw [htext]
      exact trimEnds_enclosed hfront hback hkept.1 hkept.2
    · cases h
  · cases h

end RestConnector.Json
