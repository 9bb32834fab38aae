import Mathlib.Data.List.TakeWhile
import RestConnector.Proofs.Text.Separators
import RestConnector.Survey.Probe
import RestConnector.Url.Parts

/-!
# Going below a URL

A request is addressed by putting a path behind a base URL.  The two meet safely at a slash: a slash ends
the authority of the base, so that whatever follows belongs to the path (`authority?_of_isBelow`).  Without
a slash between them the authority goes on into the path.

A base URL is first freed of the slashes at its end, which leaves its authority as it is
(`authority?_withoutSlashes`).
-/

namespace RestConnector.Url

open RestConnector.Survey RestConnector.Text

/-- The authority of a URL, unless it is refused. -/
def authority? (url : String) : Option (List Char) :=
  (ofChars? url.toList).map Parts.authority

/-- Whether a URL is another one with a slash behind it, and perhaps more. -/
def IsBelow (base url : String) : Prop :=
  base.toList ++ ['/'] <+: url.toList

instance (base url : String) : Decidable (IsBelow base url) :=
  inferInstanceAs (Decidable (_ <+: _))

lemma isBelow_append_iff {base path : String} : IsBelow base (base ++ path) ↔ startsWith "/" path := by
  have hslash : "/".toList = ['/'] := by decide
  rw [IsBelow, startsWith, hslash, String.toList_append, List.prefix_append_right_inj,
    List.isPrefixOf_iff_prefix]

/-! ## Parts of a longer URL -/

/-- The characters of a URL that count. -/
def plain (cs : List Char) : List Char :=
  (cs.dropWhile (· ≤ ' ')).filter fun c => c != '\t' && c != '\n' && c != '\r'

/-- The authority that is read from a URL, sound or not. -/
def authorityOf (cs : List Char) : List Char :=
  (splitAuthority (splitScheme (plain cs)).2).1

lemma authority?_eq (url : String) :
    authority? url =
      if isSoundAuthority (authorityOf url.toList) then some (authorityOf url.toList) else none := by
  unfold authority? ofChars? authorityOf plain
  dsimp only
  split <;> rfl

lemma plain_append_slash (cs rest : List Char) :
    plain (cs ++ '/' :: rest) = plain cs ++ '/' :: rest.filter
      fun c => c != '\t' && c != '\n' && c != '\r' := by
  have hslash : ¬ '/' ≤ ' ' := by decide
  have hdrop : (cs ++ '/' :: rest).dropWhile (· ≤ ' ') = cs.dropWhile (· ≤ ' ') ++ '/' :: rest := by
    rw [List.dropWhile_append]
    split
    · next h =>
      rw [List.isEmpty_iff.1 h, List.dropWhile_cons_of_neg (by simp [hslash]), List.nil_append]
    · rfl
  rw [plain, plain, hdrop, List.filter_append, List.filter_cons_of_pos (by decide)]

/-- No scheme has a slash in it. -/
lemma splitScheme_of_slash {cs : List Char} (h : '/' ∈ before ':' cs) : splitScheme cs = ([], cs) := by
  unfold splitScheme
  split
  · next c scheme rest hbefore _ =>
    rw [hbefore] at h
    have hbad : ¬ (c.isAlpha && scheme.all isSchemeChar) := by
      intro hall
      obtain ⟨hc, hscheme⟩ := Bool.and_eq_true_iff.1 hall
      rcases List.mem_cons.1 h with rfl | hmem
      · exact absurd hc (by decide)
      · exact absurd (List.all_eq_true.1 hscheme '/' hmem) (by decide)
    rw [if_neg hbad]
  · rfl

/-- A slash behind a text changes nothing about its scheme. -/
lemma splitScheme_append_slash (cs rest : List Char) :
    (splitScheme (cs ++ '/' :: rest)).2 = (splitScheme cs).2 ++ '/' :: rest := by
  by_cases hcolon : ':' ∈ cs
  · unfold splitScheme
    rw [before_append hcolon, behind?_append hcolon]
    cases before ':' cs with
    | nil => rfl
    | cons c scheme =>
      cases behind? ':' cs with
      | none => rfl
      | some behind =>
        dsimp only [Option.map_some]
        split <;> rfl
  · have hbefore : '/' ∈ before ':' (cs ++ '/' :: rest) := by
      have hcs : ∀ c ∈ cs, c != ':' := by
        intro c hc
        exact bne_iff_ne.2 fun heq => hcolon (heq ▸ hc)
      rw [before, List.takeWhile_append_of_pos hcs, List.takeWhile_cons_of_pos (by decide)]
      exact List.mem_append_right _ List.mem_cons_self
    have hscheme : splitScheme cs = ([], cs) := by
      unfold splitScheme
      rw [behind?_of_not_mem hcolon]
      cases before ':' cs <;> rfl
    rw [splitScheme_of_slash hbefore, hscheme]

lemma takeWhile_append_slash (cs rest : List Char) :
    (cs ++ '/' :: rest).takeWhile (!endsAuthority ·) = cs.takeWhile (!endsAuthority ·) := by
  induction cs with
  | nil => rw [List.nil_append, List.takeWhile_cons_of_neg (by decide), List.takeWhile_nil]
  | cons c cs ih => rw [List.cons_append, List.takeWhile_cons, List.takeWhile_cons, ih]

/-- A slash ends an authority. -/
lemma splitAuthority_append_slash {cs : List Char} (h : (splitAuthority cs).1 ≠ [])
    (rest : List Char) : (splitAuthority (cs ++ '/' :: rest)).1 = (splitAuthority cs).1 := by
  unfold splitAuthority at h
  split at h
  · next cs => exact takeWhile_append_slash cs rest
  · exact absurd rfl h

lemma authorityOf_append_slash {cs : List Char} (h : authorityOf cs ≠ []) (rest : List Char) :
    authorityOf (cs ++ '/' :: rest) = authorityOf cs := by
  rw [authorityOf, plain_append_slash, splitScheme_append_slash]
  exact splitAuthority_append_slash h _

/-- Below a URL that has an authority, every URL has the same one. -/
theorem authority?_of_isBelow {base url : String} {authority : List Char}
    (h : authority? base = some authority) (hne : authority ≠ []) (hbelow : IsBelow base url) :
    authority? url = some authority := by
  obtain ⟨rest, hrest⟩ := hbelow
  have hurl : url.toList = base.toList ++ '/' :: rest := by
    rw [← hrest, List.append_assoc]
    rfl
  rw [authority?_eq] at h
  split at h
  · next hsound =>
    have hauthority := Option.some.inj h
    have hsame : authorityOf url.toList = authorityOf base.toList := by
      rw [hurl]
      exact authorityOf_append_slash (by rwa [hauthority]) rest
    rw [authority?_eq, hsame, if_pos hsound, hauthority]
  · cases h

/-! ## Slashes at the end -/

/-- Only slashes are lost at the end of a URL. -/
lemma exists_slashes (url : String) :
    ∃ slashes, (∀ c ∈ slashes, c = '/') ∧ url.toList = (withoutSlashes url).toList ++ slashes := by
  refine ⟨(url.toList.reverse.takeWhile (· = '/')).reverse, ?_, ?_⟩
  · intro c hc
    have hslash := List.mem_takeWhile_imp (List.mem_reverse.1 hc)
    exact of_decide_eq_true hslash
  · rw [withoutSlashes, toList_onChars, trimRight, ← List.reverse_append,
      List.takeWhile_append_dropWhile, List.reverse_reverse]

lemma takeWhile_slashes {slashes : List Char} (hs : ∀ c ∈ slashes, c = '/') :
    slashes.takeWhile (!endsAuthority ·) = [] := by
  cases slashes with
  | nil => rfl
  | cons c slashes =>
    obtain rfl := hs c List.mem_cons_self
    rw [List.takeWhile_cons_of_neg (by decide)]

/-- Slashes at the end are no authority, nor do they belong to one. -/
lemma splitAuthority_append_slashes {slashes : List Char} (hs : ∀ c ∈ slashes, c = '/')
    (cs : List Char) : (splitAuthority (cs ++ '/' :: slashes)).1 = (splitAuthority cs).1 := by
  rcases cs with _ | ⟨c, _ | ⟨d, cs⟩⟩
  · cases slashes with
    | nil => rfl
    | cons c slashes =>
      obtain ⟨rfl, hslashes⟩ := List.forall_mem_cons.1 hs
      exact takeWhile_slashes hslashes
  · by_cases hc : c = '/'
    · subst hc
      exact takeWhile_slashes hs
    · simp [splitAuthority, hc]
  · by_cases hcd : c = '/' ∧ d = '/'
    · obtain ⟨rfl, rfl⟩ := hcd
      exact takeWhile_append_slash cs slashes
    · rcases not_and_or.1 hcd with hc | hd
      · simp [splitAuthority, hc]
      · simp [splitAuthority, hd]

/-- A URL without the slashes at its end has the same authority. -/
theorem authority?_withoutSlashes (url : String) : authority? (withoutSlashes url) = authority? url := by
  obtain ⟨slashes, hs, hurl⟩ := exists_slashes url
  have hsame : authorityOf url.toList = authorityOf (withoutSlashes url).toList := by
    rw [hurl]
    cases slashes with
    | nil => rw [List.append_nil]
    | cons c slashes =>
      obtain ⟨rfl, hslashes⟩ := List.forall_mem_cons.1 hs
      rw [authorityOf, plain_append_slash, splitScheme_append_slash]
      exact splitAuthority_append_slashes (fun c hc => hslashes c (List.mem_filter.1 hc).1) _
  rw [authority?_eq, authority?_eq, hsame]

end RestConnector.Url
