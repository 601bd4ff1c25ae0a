import DartLayers.Text.Split

/-!
# DartLayers — hosts in brackets

A host may stand in brackets only when it is an IPv6 address or an address of a future version.
Only the form of an address matters here, not its value.

* **`isIpv4`** — four decimal numbers below 256 without leading zeros.
* **`isIpv6`** — eight groups of hexadecimal digits, one run of zero groups left out, the last two
  groups possibly an IPv4 address, and a zone after a percent sign.
-/

namespace DartLayers.Host

/-- A decimal number below 256 in its shortest form. -/
def isOctet (text : List Char) : Bool :=
  !text.isEmpty && text.all Char.isDigit && text.length ≤ 3 &&
    (text == ['0'] || text.head? != some '0') &&
    text.foldl (fun value c => 10 * value + (c.toNat - 0x30)) 0 ≤ 255

/-- An IPv4 address. -/
def isIpv4 (text : List Char) : Bool :=
  let octets := Text.splitOn '.' text
  octets.length == 4 && octets.all isOctet

/-- An ASCII hexadecimal digit. -/
def isHexDigit (c : Char) : Bool :=
  c.isDigit || ('a' ≤ c && c ≤ 'f') || ('A' ≤ c && c ≤ 'F')

/-- A group of one to four hexadecimal digits. -/
def isGroup (text : List Char) : Bool :=
  !text.isEmpty && text.length ≤ 4 && text.all isHexDigit

/-- Groups with no run left out. -/
def areAllGroups (groups : List (List Char)) : Bool :=
  groups.length == 8 && groups.all isGroup

/-- Groups around a run that was left out. An end of the address belongs to the run only if nothing
else stands on its side. -/
def areGroupsAround (before after : List (List Char)) : Bool :=
  let leading := if before == [[]] then [] else before
  let trailing := if after == [[]] then [] else after
  leading.length + trailing.length ≤ 7 && leading.all isGroup && trailing.all isGroup

/-- The pieces between the colons of an address, an IPv4 ending counted as two groups. -/
def groupsOf? (text : List Char) : Option (List (List Char)) :=
  let pieces := Text.splitOn ':' text
  match pieces.getLast? with
  | none => none
  | some last =>
    if pieces.length < 3 then none
    else if !last.contains '.' then some pieces
    else if isIpv4 last then some (pieces.dropLast ++ [['0'], ['0']])
    else none

/-- The places of the empty pieces that are neither first nor last. -/
def innerGaps (pieces : List (List Char)) : List Nat :=
  (List.range pieces.length).filter fun i =>
    0 < i && i + 1 < pieces.length && pieces[i]? == some []

/-- An IPv6 address without a zone. -/
def isUnzonedIpv6 (text : List Char) : Bool :=
  match groupsOf? text with
  | none => false
  | some pieces =>
    pieces.length ≤ 9 &&
      match innerGaps pieces with
      | [] => areAllGroups pieces
      | [gap] => areGroupsAround (pieces.take gap) (pieces.drop (gap + 1))
      | _ => false

/-- An IPv6 address; a zone after a percent sign is not empty and holds no other percent sign. -/
def isIpv6 (text : List Char) : Bool :=
  match Text.cutAt '%' text with
  | (address, none) => isUnzonedIpv6 address
  | (address, some zone) => !zone.isEmpty && !zone.contains '%' && isUnzonedIpv6 address

/-- An address of a future version: the letter v, hexadecimal digits, a point and more. -/
def isFutureAddress : List Char → Bool
  | 'v' :: rest =>
    !(rest.takeWhile isHexDigit).isEmpty &&
      match rest.dropWhile isHexDigit with
      | '.' :: _ :: _ => true
      | _ => false
  | _ => false

end DartLayers.Host
