/-!
# Numbered names

Names in one scope must differ. A name that is already taken gets the least number from 2 on that makes
it free: `name_2`, `name_3` and so on. Different numbers give different names, so among one more
candidates than there are taken names one is free, and the search for it can be bounded in advance.
-/

namespace RestConnector.Name

/-- A name with a number behind it. -/
def numbered (name : String) (k : Nat) : String :=
  name ++ "_" ++ toString k

/-- The first of the numbers `k`, `k + 1`, … that makes a name free, looking at `tries` of them. -/
def firstFree (taken : List String) (name : String) : Nat → Nat → Nat
  | 0, k => k
  | tries + 1, k =>
    if numbered name k ∈ taken then firstFree taken name tries (k + 1) else k

/-- A name itself if it is free, or else with the least number from 2 on that makes it free. -/
def freshName (taken : List String) (name : String) : String :=
  if name ∈ taken then numbered name (firstFree taken name taken.length 2) else name

end RestConnector.Name
