import Mathlib.Algebra.Ring.Int.Defs
import Mathlib.Tactic.SplitIfs
import RestConnector.Proofs.Scalar.Timestamp
import RestConnector.Scalar.Classify

/-!
# What the types of scalars say

A scalar that is inferred for a value says something about the value (`Describes`): a timestamp, a UUID or an
absolute URI is a string that is one and nothing that is tried before it, a plain string is none of them, and
an integer fits into the bits of its format.  The type `date` says that there is no time of day, and
`datetime` that there is one.  Classification is right about every value (`describes_ofString`,
`describes_ofInteger`).
-/

namespace RestConnector.Scalar

open RestConnector.Json

/-- Whether an integer fits into a number of bits, the first of which is the sign. -/
def FitsIn (bits : Nat) (n : Int) : Prop :=
  -2 ^ (bits - 1) ≤ n ∧ n < 2 ^ (bits - 1)

/-- Whether what a scalar says is true of a value. -/
inductive Describes : Scalar → Value → Prop where
  | date {text : String} {stamp : Timestamp} (read : timestamp? text = some stamp)
    (time : stamp.clock = none) : Describes ⟨.timestamp, some "date", "date"⟩ (.string text)
  | dateTime {text : String} {stamp : Timestamp} (read : timestamp? text = some stamp)
    (time : stamp.clock ≠ none) : Describes ⟨.timestamp, some "date-time", "datetime"⟩ (.string text)
  | uuid {text : String} (timestamp : ¬ isTimestamp text) (uuid : isUuid text) :
    Describes ⟨.uuid, some "uuid", "UUID"⟩ (.string text)
  | uri {text : String} (timestamp : ¬ isTimestamp text) (uuid : ¬ isUuid text)
    (uri : Url.isAbsolute text) : Describes ⟨.uri, some "uri", "AnyUrl"⟩ (.string text)
  | string {text : String} (timestamp : ¬ isTimestamp text) (uuid : ¬ isUuid text)
    (uri : ¬ Url.isAbsolute text) : Describes ⟨.string, none, "str"⟩ (.string text)
  | int32 {n : Int} (fits : FitsIn 32 n) : Describes ⟨.integer, some "int32", "int"⟩ (.integer n)
  | int64 {n : Int} (large : ¬ FitsIn 32 n) (fits : FitsIn 64 n) :
    Describes ⟨.integer, some "int64", "int"⟩ (.integer n)
  | larger {n : Int} (large : ¬ FitsIn 64 n) :
    Describes ⟨.number, some "decimal", "Decimal"⟩ (.integer n)
  | decimal (literal : String) : Describes ⟨.number, some "decimal", "Decimal"⟩ (.decimal literal)
  | boolean (b : Bool) : Describes ⟨.boolean, none, "bool"⟩ (.bool b)

lemma describes_ofString (text : String) : (ofString text).Describes (.string text) := by
  unfold ofString
  split_ifs with htimestamp hlength huuid huri
  · obtain ⟨stamp, hread⟩ := Option.isSome_iff_exists.1 htimestamp
    exact .date hread ((clock_eq_none_iff hread).2 hlength)
  · obtain ⟨stamp, hread⟩ := Option.isSome_iff_exists.1 htimestamp
    exact .dateTime hread (mt (clock_eq_none_iff hread).1 hlength)
  · exact .uuid htimestamp huuid
  · exact .uri htimestamp huuid huri
  · exact .string htimestamp huuid huri

lemma describes_ofInteger (n : Int) : (ofInteger n).Describes (.integer n) := by
  have h32 : FitsIn 32 n ↔ -2147483648 ≤ n ∧ n ≤ 2147483647 := by
    unfold FitsIn
    omega
  have h64 : FitsIn 64 n ↔ -9223372036854775808 ≤ n ∧ n ≤ 9223372036854775807 := by
    unfold FitsIn
    omega
  unfold ofInteger
  split_ifs with hsmall hlarge
  · exact .int32 (h32.2 hsmall)
  · exact .int64 (mt h32.1 hsmall) (h64.2 hlarge)
  · exact .larger (mt h64.1 hlarge)

end RestConnector.Scalar
