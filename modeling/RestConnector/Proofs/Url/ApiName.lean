import RestConnector.Proofs.Name.Pascal
import RestConnector.Proofs.Text.Replacement
import RestConnector.Url.Parts

/-!
# The name of the API at a host

An API is named for the first label of its host, and a host may have `api.` and `www.` in front of that
label (`withoutPrefixes`).  These two texts are not looked for in front of the host alone.  They are left out
wherever they stand, so that every label but the last that ends in `api` or in `www` loses this ending and
runs on into the next label (`cutAt_withoutMarks`).

Hence only prefixes are dropped exactly if, behind them, no label but the last has one of the two endings
(`withoutMarks_eq_iff`), and the name is that of the first label left over at least if this label has none,
or is the last (`apiName_of_host`).  The host `myapi.example.com` gives a name made of two of its labels
(`ending_of_label_is_dropped`).

Whatever the host, the name begins with a letter (`hasInitialLetter_apiName`).
-/

namespace RestConnector.Url

open RestConnector.Name RestConnector.Text

/-! ## Hosts -/

/-- A host without the prefixes `api.` and `www.`, any number of them and in any order. -/
def withoutPrefixes : List Char → List Char
  | 'a' :: 'p' :: 'i' :: '.' :: host => withoutPrefixes host
  | 'w' :: 'w' :: 'w' :: '.' :: host => withoutPrefixes host
  | host => host

/-- A host without the texts `api.` and `www.`, wherever they stand. -/
def withoutMarks (host : List Char) : List Char :=
  replace "www." "" (replace "api." "" host)

lemma replace_api (host : List Char) :
    replace "api." "" host = replaceFrom ("api".toList ++ ['.']) [] 0 host := rfl

lemma replace_www (host : List Char) :
    replace "www." "" host = replaceFrom ("www".toList ++ ['.']) [] 0 host := rfl

lemma dot_notMem_api : '.' ∉ "api".toList := by decide

lemma dot_notMem_www : '.' ∉ "www".toList := by decide

/-- The labels that are left: first all endings `api` are dropped, and then, of what these labels have
become, all endings `www`. -/
lemma cutAt_withoutMarks (host : List Char) :
    cutAt '.' (withoutMarks host) =
      cutEndings "www".toList (cutEndings "api".toList (cutAt '.' host)) := by
  rw [withoutMarks, replace_www, cutAt_replaceFrom dot_notMem_www, replace_api,
    cutAt_replaceFrom dot_notMem_api]

/-- A prefix is left out in any case. -/
lemma withoutMarks_withoutPrefixes (host : List Char) :
    withoutMarks (withoutPrefixes host) = withoutMarks host := by
  fun_induction withoutPrefixes host with
  | case1 host ih =>
    have hfront : replace "api." "" ("api.".toList ++ host) = replace "api." "" host :=
      replaceFrom_mark_append (by decide) [] host
    rw [ih, withoutMarks, withoutMarks, ← hfront]
    rfl
  | case2 host ih =>
    have hkept : replace "api." "" ("www.".toList ++ host) =
        "www.".toList ++ replace "api." "" host :=
      replaceFrom_of_not_suffix dot_notMem_api dot_notMem_www (by decide) [] host
    have hfront : replace "www." "" ("www.".toList ++ replace "api." "" host) =
        replace "www." "" (replace "api." "" host) :=
      replaceFrom_mark_append (by decide) [] _
    rw [ih, withoutMarks, withoutMarks, ← hfront, ← hkept]
    rfl
  | case3 => rfl

lemma withoutMarks_eq_self_iff (host : List Char) :
    withoutMarks host = host ↔ ∀ label ∈ (cutAt '.' host).dropLast,
      ¬ "api".toList <:+ label ∧ ¬ "www".toList <:+ label := by
  have happart : withoutMarks host = host ↔
      replace "api." "" host = host ∧ replace "www." "" host = host := by
    constructor
    · intro h
      -- What is shortened at first does not grow again.
      have hwww : (withoutMarks host).Sublist (replace "api." "" host) := replaceFrom_sublist _ 0 _
      have hapi : (replace "api." "" host).Sublist host := replaceFrom_sublist _ 0 _
      rw [h] at hwww
      have hsame : replace "api." "" host = host := hapi.antisymm hwww
      rw [withoutMarks, hsame] at h
      exact ⟨hsame, h⟩
    · rintro ⟨hapi, hwww⟩
      rw [withoutMarks, hapi, hwww]
  rw [happart, replace_api, replace_www, replaceFrom_eq_self_iff dot_notMem_api,
    replaceFrom_eq_self_iff dot_notMem_www, ← forall₂_and]

/-- Only prefixes are left out exactly if no label behind them, other than the last, ends like one. -/
lemma withoutMarks_eq_iff (host : List Char) :
    withoutMarks host = withoutPrefixes host ↔
      ∀ label ∈ (cutAt '.' (withoutPrefixes host)).dropLast,
        ¬ "api".toList <:+ label ∧ ¬ "www".toList <:+ label := by
  rw [← withoutMarks_withoutPrefixes, withoutMarks_eq_self_iff]

/-- A first label with another ending is kept, and so is an only one. -/
lemma before_withoutMarks {host : List Char} (h : '.' ∈ host →
      ¬ "api".toList <:+ before '.' host ∧ ¬ "www".toList <:+ before '.' host) :
    before '.' (withoutMarks host) = before '.' host := by
  by_cases hdot : '.' ∈ host
  · obtain ⟨label, rest, rfl, hlabel⟩ := List.eq_append_cons_of_mem hdot
    obtain ⟨hapi, hwww⟩ := h hdot
    rw [before_append_cons hlabel] at hapi hwww ⊢
    rw [withoutMarks, replace_api, replaceFrom_of_not_suffix dot_notMem_api hlabel hapi, replace_www,
      replaceFrom_of_not_suffix dot_notMem_www hlabel hwww, before_append_cons hlabel]
  · have honly : cutAt '.' host = [host] := cutAt_of_notMem hdot
    have hsame : withoutMarks host = host := by
      rw [withoutMarks_eq_self_iff, honly]
      simp
    rw [hsame]

/-! ## Names -/

/-- The name of the API at a label, or a fallback if the label gives none or one that begins with a
digit. -/
def nameFor (fallback : String) (label : List Char) : String :=
  let name := pascalCase (String.ofList label)
  if name.isEmpty || startsWithDigit name then fallback else name

lemma apiName_eq (url fallback : String) :
    apiName url fallback =
      ((ofChars? url.toList).map fun parts =>
        nameFor fallback (before '.' (withoutMarks parts.host))).getD fallback := by
  unfold apiName
  cases ofChars? url.toList with
  | none => rfl
  | some parts => rw [Option.map_some, Option.getD_some, nameFor, withoutMarks]

lemma hasInitialLetter_nameFor {fallback : String} (h : HasInitialLetter fallback)
    (label : List Char) : HasInitialLetter (nameFor fallback label) := by
  unfold nameFor
  dsimp only
  split
  · exact h
  · next hname =>
    rw [Bool.or_eq_true, not_or] at hname
    obtain ⟨hne, hdigit⟩ := hname
    have hchars : (pascalCase (String.ofList label)).toList ≠ [] := by simpa using hne
    obtain ⟨c, rest, hcons⟩ := List.exists_cons_of_ne_nil hchars
    have hhead : (pascalCase (String.ofList label)).toList.head? = some c := by rw [hcons]; rfl
    have hword : isWordChar c := by
      rw [toList_pascalCase] at hcons
      exact (isPascal_pascalChars _).isWordChar c (by rw [hcons]; exact List.mem_cons_self)
    refine ⟨c, initial?_of_head? hhead hword, (isWordChar_iff.1 hword).resolve_right fun hdecimal => ?_⟩
    rw [startsWithDigit, hhead] at hdigit
    exact hdigit (by simp [isDigit, hdecimal])

/-- The name of an API begins with a letter if the fallback does. -/
theorem hasInitialLetter_apiName {fallback : String} (h : HasInitialLetter fallback) (url : String) :
    HasInitialLetter (apiName url fallback) := by
  rw [apiName_eq]
  cases ofChars? url.toList with
  | none => exact h
  | some parts =>
    rw [Option.map_some, Option.getD_some]
    exact hasInitialLetter_nameFor h _

/-- The API at a host has its name from the first label that is left when the endings `api` and then `www`
are dropped from all labels but the last.  Nothing but prefixes is dropped from the host exactly if no label
behind them, other than the last, has one of the endings; and the name is that of the first label behind the
prefixes if this label has none of them or is the last. -/
theorem apiName_of_host {url : String} {parts : Parts} (h : ofChars? url.toList = some parts)
    (fallback : String) :
    let main := withoutPrefixes parts.host
    (∃ label others, cutEndings "www".toList (cutEndings "api".toList (cutAt '.' parts.host)) =
        label :: others ∧ apiName url fallback = nameFor fallback label) ∧
    (withoutMarks parts.host = main ↔ ∀ label ∈ (cutAt '.' main).dropLast,
      ¬ "api".toList <:+ label ∧ ¬ "www".toList <:+ label) ∧
    (('.' ∈ main → ¬ "api".toList <:+ before '.' main ∧ ¬ "www".toList <:+ before '.' main) →
      apiName url fallback = nameFor fallback (before '.' main)) := by
  have hname : apiName url fallback = nameFor fallback (before '.' (withoutMarks parts.host)) := by
    rw [apiName_eq, h, Option.map_some, Option.getD_some]
  refine ⟨?_, withoutMarks_eq_iff parts.host, fun hlabel => ?_⟩
  · have hfirst := head?_cutAt '.' (withoutMarks parts.host)
    rw [cutAt_withoutMarks] at hfirst
    obtain ⟨others, hlabels⟩ := List.head?_eq_some_iff.1 hfirst
    exact ⟨_, others, hlabels, hname⟩
  · rw [hname, ← withoutMarks_withoutPrefixes, before_withoutMarks hlabel]

theorem apiName_of_host_github :
    let url := "https://WWW.api.github.com/v3"
    ∃ parts, ofChars? url.toList = some parts ∧
      withoutPrefixes parts.host = "github.com".toList ∧
      withoutMarks parts.host = "github.com".toList ∧ apiName url "MyApi" = "Github" := by
  intro url
  have hsome : (ofChars? url.toList).isSome := by decide
  have hhost : (ofChars? url.toList).map Parts.host = some "www.api.github.com".toList := by
    decide
  obtain ⟨parts, hparts⟩ := Option.isSome_iff_exists.1 hsome
  rw [hparts, Option.map_some, Option.some.injEq] at hhost
  obtain ⟨-, hdropped, hname⟩ := apiName_of_host hparts "MyApi"
  rw [hhost] at hdropped hname
  have hmain : withoutPrefixes "www.api.github.com".toList = "github.com".toList := by decide
  rw [hmain] at hdropped hname
  refine ⟨parts, hparts, by rw [hhost, hmain], ?_, ?_⟩
  · rw [hhost]
    exact hdropped.2 (by decide)
  · rw [hname (by decide)]
    decide

/-- The first label of a host has an ending that is a prefix elsewhere.  It loses it, and the name of the
API is made of two labels. -/
theorem ending_of_label_is_dropped :
    let url := "https://myapi.example.com"
    (ofChars? url.toList).map (fun parts => (withoutPrefixes parts.host,
        nameFor "MyApi" (before '.' (withoutPrefixes parts.host)))) =
      some ("myapi.example.com".toList, "Myapi") ∧
    apiName url "MyApi" = "Myexample" := by
  decide

end RestConnector.Url
