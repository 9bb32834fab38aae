import RestConnector.Text.Basic
import RestConnector.Text.Hex

/-!
# Numeric addresses in brackets

The host of a URL may be written in square brackets when it is a numeric address with colons in it.
`isBracketable` accepts the two forms that may stand there: an address of eight groups of hexadecimal
digits, with the usual abbreviations, and a tagged address of a later kind, which begins with a v.

In an address of groups, one run of zero groups may be left out (`::`), the last two groups may be
written as four decimal octets, and a zone may follow behind a per cent sign.
-/

namespace RestConnector.Url

open RestConnector.Text

/-- Whether a text is a decimal octet, without needless zeros. -/
def isOctet (cs : List Char) : Bool :=
  !cs.isEmpty && cs.all Char.isDigit && cs.length ≤ 3 && (cs == ['0'] || cs.head? != some '0') &&
    cs.foldl (fun value c => value * 10 + (c.toNat - 48)) 0 ≤ 255

/-- Whether a text is four decimal octets with points between them. -/
def isOctets (cs : List Char) : Bool :=
  let octets := cutAt '.' cs
  octets.length == 4 && octets.all isOctet

/-- Whether a text is one group: one to four hexadecimal digits. -/
def isGroup (cs : List Char) : Bool :=
  !cs.isEmpty && cs.length ≤ 4 && cs.all fun c => (hexValue? c).isSome

/-- Replaces a last part of four octets by two groups; fails if it only looks like one. -/
def spellOctets (parts : List (List Char)) : Option (List (List Char)) :=
  match parts.getLast? with
  | some last =>
    if last.contains '.' then
      if isOctets last then some (parts.dropLast ++ [['0'], ['0']]) else none
    else some parts
  | none => none

/-- The groups on one side of the gap: none when the gap reaches the end of the address. -/
def besideGap (parts : List (List Char)) : List (List Char) :=
  if parts == [[]] then [] else parts

/-- Whether the parts between colons make an address. -/
def areGroups (parts : List (List Char)) : Bool :=
  let inner := parts.drop 1 |>.dropLast
  match inner.countP List.isEmpty with
  | 0 => parts.length == 8 && parts.all isGroup
  | 1 =>
    let index := 1 + inner.findIdx List.isEmpty
    let front := besideGap (parts.take index)
    let rest := besideGap (parts.drop (index + 1))
    front.all isGroup && rest.all isGroup && front.length + rest.length < 8
  | _ => false

/-- Whether a text is an address of groups, with or without a zone. -/
def isGroupedAddress (cs : List Char) : Bool :=
  let zoneIsSound :=
    match behind? '%' cs with
    | none => true
    | some zone => !zone.isEmpty && !zone.contains '%'
  let parts := cutAt ':' (before '%' cs)
  zoneIsSound && !cs.contains '/' && 3 ≤ parts.length && (spellOctets parts).any areGroups

/-- Whether a text is a tagged address: a v, hexadecimal digits, a point and something more. -/
def isTaggedAddress : List Char → Bool
  | 'v' :: cs =>
    let tag := cs.takeWhile fun c => (hexValue? c).isSome
    !tag.isEmpty &&
      match cs.drop tag.length with
      | '.' :: rest => !rest.isEmpty
      | _ => false
  | _ => false

/-- Whether a text may stand in brackets as the host of a URL. -/
def isBracketable (cs : List Char) : Bool :=
  if cs.head? = some 'v' then isTaggedAddress cs else isGroupedAddress cs

end RestConnector.Url
