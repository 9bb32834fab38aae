import Mathlib.Tactic.Lemma
import RestConnector.CommandLine.Program

/-!
# Calls of a command

Before a command is carried out, the arguments of the program are read in two parts, help or a version may be
asked for, and the values of options are checked.  A call is proper if nothing of this ends the program
(`IsProbeCall`).  The program then takes its settings and does what the command does, and nothing has been shown
or asked for before (`program_of_isProbeCall`).

What an argument may be depends on the part that it belongs to: only options of the part are given
(`option_mem_of_readArguments`).  So `probe` has no place to write to that would have to be checked.
-/

namespace RestConnector.CommandLine

open RestConnector.Json RestConnector.Survey

/-! ## Results behind one another -/

section Results

variable {ε α β : Type} {result : Except ε α} {b : β}

lemma exists_of_map_ok {f : α → β} (h : result.map f = .ok b) : ∃ a, result = .ok a ∧ f a = b := by
  cases result with
  | error e => cases h
  | ok a => exact ⟨a, rfl, Except.ok.inj h⟩

lemma exists_of_bind_ok {next : α → Except ε β} (h : result >>= next = .ok b) :
    ∃ a, result = .ok a ∧ next a = .ok b := by
  cases result with
  | error e => cases h
  | ok a => exact ⟨a, rfl, h⟩

end Results

/-! ## Options that are given -/

section Options

variable {part : Part}

lemma option_mem_of_byLetter {cs : List Char} {given : List (OptionName × String)}
    (h : byLetter part cs = .ok given) : ∀ entry ∈ given, entry.1 ∈ part.options := by
  induction cs generalizing given with
  | nil =>
    obtain rfl := Except.ok.inj h
    exact List.forall_mem_nil _
  | cons c cs ih =>
    rw [byLetter] at h
    split at h
    · next option hletter =>
      obtain ⟨others, hothers, rfl⟩ := exists_of_map_ok h
      exact List.forall_mem_cons.2 ⟨List.mem_of_find?_eq_some hletter, ih hothers⟩
    · cases h

/-- Whether what an argument says is said with options of a part. -/
def Argument.IsOf (part : Part) : Argument → Prop
  | .operand | .divider => True
  | .complete given => ∀ entry ∈ given, entry.1 ∈ part.options
  | .awaiting option => option ∈ part.options

lemma isOf_of_inFull {option : OptionName} {value : Option String} {argument : Argument}
    (hoption : option ∈ part.options) (h : inFull option value = .ok argument) : argument.IsOf part := by
  cases value with
  | some value =>
    rw [inFull] at h
    split at h
    · obtain rfl := Except.ok.inj h
      exact List.forall_mem_singleton.2 hoption
    · cases h
  | none =>
    obtain rfl := Except.ok.inj h
    split
    · exact hoption
    · exact List.forall_mem_singleton.2 hoption

lemma isOf_of_classify {word : String} {argument : Argument} (h : classify part word = .ok argument) :
    argument.IsOf part := by
  rw [classify] at h
  split at h
  · obtain rfl := Except.ok.inj h
    trivial
  split at h
  · dsimp only at h
    split at h
    · next option hspelling => exact isOf_of_inFull (List.mem_of_find?_eq_some hspelling) h
    · split at h
      · cases h
      · obtain ⟨given, hgiven, rfl⟩ := exists_of_map_ok h
        exact option_mem_of_byLetter hgiven
  · obtain rfl := Except.ok.inj h
    trivial

/-- Only options of a part are given in its arguments. -/
theorem option_mem_of_readArguments {arguments : List String} {reading : Reading}
    (h : readArguments part arguments = .ok reading) : ∀ entry ∈ reading.given, entry.1 ∈ part.options := by
  induction arguments using readArguments.induct generalizing reading with
  | case1 =>
    obtain rfl := Except.ok.inj h
    exact List.forall_mem_nil _
  | case2 word rest ihrest ihvalue =>
    rw [readArguments.eq_def] at h
    obtain ⟨argument, hargument, h⟩ := exists_of_bind_ok h
    have hof := isOf_of_classify hargument
    cases argument with
    | divider =>
      obtain rfl := Except.ok.inj h
      exact List.forall_mem_nil _
    | operand =>
      dsimp only at h
      split at h
      · obtain ⟨others, hothers, h⟩ := exists_of_bind_ok h
        obtain rfl := Except.ok.inj h
        exact fun entry he => ihrest hothers entry he
      · obtain rfl := Except.ok.inj h
        exact List.forall_mem_nil _
    | complete given =>
      obtain ⟨others, hothers, h⟩ := exists_of_bind_ok h
      obtain rfl := Except.ok.inj h
      exact List.forall_mem_append.2 ⟨hof, ihrest hothers⟩
    | awaiting option =>
      -- The value behind the option is no argument of its own.
      cases rest with
      | nil => cases h
      | cons value rest =>
        obtain ⟨others, hothers, h⟩ := exists_of_bind_ok h
        obtain rfl := Except.ok.inj h
        exact List.forall_mem_cons.2 ⟨hof, ihvalue hothers⟩

lemma mem_of_mem_put {key : OptionName} {value : String} {members : List (OptionName × String)}
    {entry : OptionName × String} (h : entry ∈ Members.put key value members) :
    entry = (key, value) ∨ entry ∈ members := by
  induction members with
  | nil => exact .inl (List.mem_singleton.1 h)
  | cons member rest ih =>
    rw [Members.put] at h
    split at h
    · next hkey =>
      rcases List.mem_cons.1 h with rfl | hrest
      · exact .inl (by rw [hkey])
      · exact .inr (List.mem_cons_of_mem _ hrest)
    · rcases List.mem_cons.1 h with rfl | hrest
      · exact .inr List.mem_cons_self
      · exact (ih hrest).imp_right (List.mem_cons_of_mem _)

lemma Reading.settled_subset (reading : Reading) : reading.settled ⊆ reading.given := by
  have hfold : ∀ (pairs front : List (OptionName × String)) {entry},
      entry ∈ pairs.foldl (fun members pair => Members.put pair.1 pair.2 members) front →
        entry ∈ front ∨ entry ∈ pairs := by
    intro pairs
    induction pairs with
    | nil => exact fun _ _ h => .inl h
    | cons pair pairs ih =>
      intro front entry h
      rcases ih _ h with hfront | hpairs
      · rcases mem_of_mem_put hfront with rfl | hfront
        · exact .inr List.mem_cons_self
        · exact .inl hfront
      · exact .inr (List.mem_cons_of_mem _ hpairs)
  exact fun entry h => (hfold reading.given [] h).resolve_left List.not_mem_nil

end Options

/-! ## Reading and checking -/

/-- Whether neither help nor a version is asked for. -/
def Reading.AsksNothing (reading : Reading) : Prop :=
  ∀ entry ∈ reading.given, entry.1 ≠ .help ∧ entry.1 ≠ .version

instance (reading : Reading) : Decidable reading.AsksNothing :=
  inferInstanceAs (Decidable (∀ entry ∈ reading.given, entry.1 ≠ .help ∧ entry.1 ≠ .version))

section Interactions

variable {part : Part} {network : Network} {console : Console}

/-- What follows a result goes on from there. -/
lemma Interaction.bind_of_ok {α β : Type} {interaction : Interaction α} {after : Console} {a : α}
    (h : interaction network console = (.ok a, after)) (next : α → Interaction β) :
    (interaction >>= next) network console = next a network after := by
  rw [bind_apply, h]

lemma readPart_of_asksNothing {arguments : List String} {reading : Reading}
    (h : readArguments part arguments = .ok reading) (hnothing : reading.AsksNothing) :
    readPart part arguments network console = (.ok reading, console) := by
  have hfind : (reading.given.find? fun given => given.1 = .help ∨ given.1 = .version) = none := by
    refine List.find?_eq_none.2 fun entry he => ?_
    obtain ⟨hhelp, hversion⟩ := hnothing entry he
    simp [hhelp, hversion]
  have hread : Interaction.expect part (readArguments part arguments) network console =
      (.ok reading, console) := by rw [h]; rfl
  have hshow : showInformation part reading network console = (.ok (), console) := by
    rw [showInformation, hfind]; rfl
  rw [readPart, Interaction.bind_of_ok hread, Interaction.bind_of_ok hshow]
  rfl

/-- Values are in order if there is no place among them, and if every kind of authentication is known. -/
lemma checkValues_of_known {tree : Disk.FileTree} {entries : List (OptionName × String)}
    (hplace : ∀ entry ∈ entries, entry.1 ≠ .output)
    (hknown : ∀ entry ∈ entries, entry.1 = .auth → (Authentication.ofLabel? entry.2).isSome) :
    checkValues part tree entries network console = (.ok (), console) := by
  induction entries with
  | nil => rfl
  | cons entry rest ih =>
    obtain ⟨hentry, hothers⟩ := List.forall_mem_cons.1 hplace
    obtain ⟨hauth, hrest⟩ := List.forall_mem_cons.1 hknown
    obtain ⟨option, value⟩ := entry
    have hcheck : checkValue tree (option, value) = .ok () := by
      unfold checkValue
      split
      · next heq =>
        cases heq
        rw [if_pos (hauth rfl)]
      · next heq =>
        cases heq
        exact absurd rfl hentry
      · rfl
    rw [checkValues, if_neg fun h => hentry h.1, hcheck]
    exact ih hothers hrest

end Interactions

/-! ## Calls -/

/-- Whether arguments of the program are a proper call of `probe`, by what its own arguments read. -/
structure IsProbeCall (words : List String) (reading : Reading) (baseUrl : String) : Prop where
  /-- Up to the command, nothing is asked for. -/
  chosen : ∃ outer arguments, readArguments .program words = .ok outer ∧ outer.AsksNothing ∧
    outer.operands = Command.probe.name :: arguments ∧
    readArguments (.command .probe) arguments = .ok reading
  asks_nothing : reading.AsksNothing
  /-- The kind of authentication is one that there is. -/
  known : ∀ entry ∈ reading.settled, entry.1 = .auth → (Authentication.ofLabel? entry.2).isSome
  operand : reading.operands = [baseUrl]

lemma readArguments_divider {part : Part} (rest : List String) :
    readArguments part ("--" :: rest) = .ok { operands := rest } := by
  rw [readArguments.eq_def]
  rfl

/-- Behind the command, the program reads nothing itself. -/
lemma readArguments_command (command : Command) (rest : List String) :
    readArguments .program (command.name :: rest) = .ok { operands := command.name :: rest } := by
  rw [readArguments.eq_def]
  cases command <;> rfl

/-- Any text can be the base URL of a proper call: what comes behind `--` is no option. -/
lemma exists_isProbeCall (baseUrl : String) (checkAuth : Bool) :
    ∃ words reading, IsProbeCall words reading baseUrl ∧ reading.has .checkAuth = checkAuth := by
  cases checkAuth with
  | false =>
    exact ⟨["probe", "--", baseUrl], { operands := [baseUrl] },
      { chosen := ⟨{ operands := ["probe", "--", baseUrl] }, ["--", baseUrl],
          readArguments_command .probe _, nofun, rfl, readArguments_divider [baseUrl]⟩
        asks_nothing := nofun
        known := nofun
        operand := rfl }, rfl⟩
  | true =>
    have hclassify : classify (.command .probe) "--check-auth" = .ok (.complete [(.checkAuth, "")]) :=
      rfl
    have hread : readArguments (.command .probe) ["--check-auth", "--", baseUrl] =
        .ok { given := [(.checkAuth, "")], operands := [baseUrl] } := by
      rw [readArguments.eq_def]
      simp only [hclassify, readArguments_divider]
      rfl
    exact ⟨["probe", "--check-auth", "--", baseUrl],
      { given := [(.checkAuth, "")], operands := [baseUrl] },
      { chosen := ⟨{ operands := ["probe", "--check-auth", "--", baseUrl] },
          ["--check-auth", "--", baseUrl], readArguments_command .probe _, nofun, rfl, hread⟩
        asks_nothing := by simp [Reading.AsksNothing]
        known := by simp [Reading.settled, Json.Members.ofList, Json.Members.put]
        operand := rfl }, rfl⟩

section Calls

variable {words : List String} {reading : Reading} {baseUrl : String} {settings : Settings}
  {network : Network} {console : Console}

lemma choose_of_isProbeCall (h : IsProbeCall words reading baseUrl) (network : Network)
    (console : Console) :
    ∃ choice, choose words network console = (.ok choice, console) ∧ choice.command = .probe ∧
      readArguments (.command .probe) choice.arguments = .ok reading := by
  obtain ⟨outer, arguments, hread, hnothing, hoperands, hreading⟩ := h.chosen
  have hwords : words.isEmpty = false := by
    cases words with
    | nil =>
      obtain rfl := Except.ok.inj hread
      cases hoperands
    | cons word rest => rfl
  have hname : Command.ofName? Command.probe.name = some .probe := by decide
  refine ⟨{ command := .probe, arguments, isVerbose := outer.has .verbose }, ?_, rfl, hreading⟩
  rw [choose, hwords, if_neg Bool.false_ne_true,
    Interaction.bind_of_ok (readPart_of_asksNothing hread hnothing), hoperands]
  dsimp only
  rw [hname]
  rfl

lemma perform_of_isProbeCall (h : IsProbeCall words reading baseUrl) {arguments : List String}
    (hread : readArguments (.command .probe) arguments = .ok reading) :
    perform settings .probe arguments network console =
      probe settings reading baseUrl network console := by
  have hplace : ∀ entry ∈ reading.settled, entry.1 ≠ .output := by
    have hnone : ∀ option ∈ (Part.command .probe).options, option ≠ .output := by decide
    intro entry he
    exact hnone _ (option_mem_of_readArguments hread entry (reading.settled_subset he))
  have hurl : reading.baseUrl .probe = .ok baseUrl := by rw [Reading.baseUrl, h.operand]
  have htree : Interaction.fileTree network console = (.ok console.tree, console) := rfl
  have hbase : Interaction.expect (.command .probe) (reading.baseUrl .probe) network console =
      (.ok baseUrl, console) := by rw [hurl]; rfl
  rw [perform, Interaction.bind_of_ok (readPart_of_asksNothing hread h.asks_nothing),
    Interaction.bind_of_ok htree, Interaction.bind_of_ok (checkValues_of_known hplace h.known),
    Interaction.bind_of_ok hbase]

/-- A proper call comes to the command, and does nothing on its way but to choose the level of the log. -/
theorem program_of_isProbeCall {environment : List (String × String)}
    (hsettings : Settings.ofEnvironment environment = .ok settings)
    (h : IsProbeCall words reading baseUrl) (network : Network) (console : Console) :
    ∃ level, program environment words network console =
      probe settings reading baseUrl network { console with logLevel := some level } := by
  obtain ⟨⟨command, arguments, isVerbose⟩, hchoose, rfl, hread⟩ :=
    choose_of_isProbeCall h network console
  have htake : takeSettings environment network console = (.ok settings, console) := by
    rw [takeSettings, hsettings]; rfl
  rw [program, Interaction.bind_of_ok hchoose, Interaction.bind_of_ok htake]
  exact ⟨_, perform_of_isProbeCall h hread⟩

end Calls

end RestConnector.CommandLine
