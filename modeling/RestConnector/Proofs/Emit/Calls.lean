import RestConnector.Proofs.Emit.Methods
import RestConnector.Proofs.Text.Separators

/-!
# Calls in generated text

The header of a method and the line on which the client calls the contract are both read as a name with
arguments behind it in brackets (`readCall`); an argument that has a type is read up to the colon.

Read in this way, the header of a method has the name of its operation, the instance and the parameters of the
operation (`offered_methodHeader`); and the line on which the client calls the contract has the same name and
the same parameters (`called_contractCall`).
-/

namespace RestConnector.Emit

open RestConnector.Name RestConnector.Operation RestConnector.Text

/-! ## Reading calls -/

/-- A method, with the names of the arguments that it takes or is given. -/
structure Call where
  name : String
  arguments : List String
deriving DecidableEq, Repr

/-- The name of an argument from how it is written. -/
def argumentName (written : List Char) : String :=
  String.ofList (trim (before ':' written))

/-- Reads a name, and arguments behind it in brackets. -/
def readCall (cs : List Char) : Call :=
  let written := before ')' ((behind? '(' cs).getD [])
  { name := String.ofList (before '(' cs)
    arguments := if written = [] then [] else (cutAt ',' written).map argumentName }

/-- The method that a header begins. -/
def offered (header : String) : Call :=
  readCall (header.toList.drop headerStart.toList.length)

/-- The method of the contract that a line calls. -/
def called (line : String) : Call :=
  readCall (line.toList.drop contractCallStart.toList.length)

/-! ## Arguments -/

/-- The space behind a comma is no part of an argument. -/
lemma argumentName_space (written : List Char) :
    argumentName (' ' :: written) = argumentName written := by
  have hbefore : before ':' (' ' :: written) = ' ' :: before ':' written :=
    List.takeWhile_cons_of_pos (by decide)
  have hblank : isBlank ' ' := by decide
  rw [argumentName, argumentName, hbefore, trim, trim, trimEnds, trimEnds,
    List.dropWhile_cons_of_pos hblank]

lemma argumentName_of_isWordy {name : String} (h : IsWordy name) : argumentName name.toList = name := by
  have hcolon : ':' ∉ name.toList := h.not_mem (by decide) (by decide)
  rw [argumentName, before_of_not_mem hcolon, h.trim_eq, String.ofList_toList]

/-- What makes it possible to tell a written argument from what stands around it. -/
structure IsArgument (written : String) : Prop where
  no_comma : ',' ∉ written.toList
  no_bracket : ')' ∉ written.toList
  ne_empty : written ≠ ""

lemma isArgument_of_isWordy {name : String} (h : IsWordy name) (hne : name ≠ "") :
    IsArgument name :=
  ⟨h.not_mem (by decide) (by decide), h.not_mem (by decide) (by decide), hne⟩

/-- A parameter with its type, as the header of a method has it. -/
def typed (parameter : String × String) : String :=
  parameter.1 ++ ": " ++ parameter.2

lemma isArgument_typed {parameter : String × String} (hname : IsArgument parameter.1)
    (htype : IsWordy parameter.2) : IsArgument (typed parameter) := by
  have hcomma : ',' ∉ parameter.2.toList := htype.not_mem (by decide) (by decide)
  have hbracket : ')' ∉ parameter.2.toList := htype.not_mem (by decide) (by decide)
  constructor
  · simp [typed, hname.no_comma, hcomma]
  · simp [typed, hname.no_bracket, hbracket]
  · simp [typed]

/-- A type is no part of the name. -/
lemma argumentName_typed {parameter : String × String} (h : IsWordy parameter.1) :
    argumentName (typed parameter).toList = parameter.1 := by
  have hcolon : ':' ∉ parameter.1.toList := h.not_mem (by decide) (by decide)
  have hlist : (typed parameter).toList = parameter.1.toList ++ ':' :: ' ' :: parameter.2.toList := by
    simp [typed]
  rw [argumentName, hlist, before_append_cons hcolon, h.trim_eq, String.ofList_toList]

/-- A call is read as it is written. -/
lemma readCall_eq {name : String} {arguments : List String} (hname : IsWordy name)
    (h : ∀ written ∈ arguments, IsArgument written) (rest : List Char) :
    readCall (name.toList ++ '(' :: ((commaList arguments).toList ++ ')' :: rest)) =
      { name, arguments := arguments.map fun written => argumentName written.toList } := by
  have hopen : '(' ∉ name.toList := hname.not_mem (by decide) (by decide)
  have hclose : ')' ∉ (commaList arguments).toList :=
    not_mem_commaList (by decide) (by decide) fun written hw => (h written hw).no_bracket
  simp only [readCall, before_append_cons hopen, behind?_append_cons hopen, Option.getD_some,
    before_append_cons hclose, String.ofList_toList, Call.mk.injEq, true_and]
  cases arguments with
  | nil => rfl
  | cons first rest =>
    have hfirst : first.toList ≠ [] :=
      String.toList_eq_nil_iff.not.2 (h first List.mem_cons_self).ne_empty
    have hne : (commaList (first :: rest)).toList ≠ [] := by
      cases rest with
      | nil => simpa [commaList] using hfirst
      | cons second rest => simp [commaList_cons_cons]
    rw [if_neg hne, cutAt_commaList fun written hw => (h written hw).no_comma, List.map_cons,
      List.map_cons, List.map_map]
    simp only [Function.comp_def, argumentName_space]

/-! ## Methods and calls -/

variable {operation : Operation}

lemma isArgument_parameter (h : IsWritable operation) :
    ∀ parameter ∈ operation.parameters, IsArgument parameter.1 :=
  fun parameter hp => isArgument_of_isWordy (h.parameters parameter hp).1 (h.named parameter hp)

/-- The client gives the contract the parameters of the operation, in order. -/
theorem called_contractCall (h : IsWritable operation) :
    called (contractCall operation) =
      { name := operation.name, arguments := operation.parameters.map (·.1) } := by
  have harguments : ∀ written ∈ operation.parameters.map (·.1), IsArgument written :=
    List.forall_mem_map.2 (isArgument_parameter h)
  have hread : (operation.parameters.map (·.1)).map (fun written => argumentName written.toList) =
      operation.parameters.map (·.1) := by
    rw [List.map_map]
    exact List.map_congr_left fun parameter hp => argumentName_of_isWordy (h.parameters parameter hp).1
  have hlist : (contractCall operation).toList.drop contractCallStart.toList.length =
      operation.name.toList ++
        '(' :: ((commaList (operation.parameters.map (·.1))).toList ++ [')']) := by
    simp [contractCall, callArguments]
  rw [called, hlist, readCall_eq h.name harguments, hread]

/-- A method takes the instance and the parameters of the operation, in order. -/
theorem offered_methodHeader (h : IsWritable operation) :
    offered (methodHeader operation) =
      { name := operation.name, arguments := "self" :: operation.parameters.map (·.1) } := by
  have hself : IsArgument "self" := isArgument_of_isWordy (by decide) (by decide)
  have harguments : ∀ written ∈ "self" :: operation.parameters.map typed, IsArgument written :=
    List.forall_mem_cons.2 ⟨hself, List.forall_mem_map.2 fun parameter hp =>
      isArgument_typed (isArgument_parameter h parameter hp) (h.parameters parameter hp).2⟩
  have hname : argumentName "self".toList = "self" := argumentName_of_isWordy (by decide)
  have hread : (operation.parameters.map typed).map (fun written => argumentName written.toList) =
      operation.parameters.map (·.1) := by
    rw [List.map_map]
    exact List.map_congr_left fun parameter hp => argumentName_typed (h.parameters parameter hp).1
  have hlist : (methodHeader operation).toList.drop headerStart.toList.length =
      operation.name.toList ++
        '(' :: ((commaList ("self" :: operation.parameters.map typed)).toList ++
          ')' :: (" -> " ++ operation.returnType ++ ":").toList) := by
    unfold methodHeader signature typed
    simp [headerStart]
  rw [offered, hlist, readCall_eq h.name harguments, List.map_cons, hname, hread]

end RestConnector.Emit
