import CoursePlan.Numeral
import CoursePlan.Text.Pieces

/-!
# Written ids

The id of a course, 128 bits, is written as 32 hexadecimal digits, mostly with hyphens after the
8th, 12th, 16th and 20th.  Ids may come in either letter case, without hyphens, between braces or
after `urn:uuid:`, and also as a list of bytes; they are always written in lower case with hyphens.
-/

namespace CoursePlan.Uuid

/-- The lengths of the groups of digits. -/
def groupLengths : List Nat := [8, 4, 4, 4, 12]

/-- The id that 32 hexadecimal digits spell. -/
def ofDigits? (cs : List Char) : Option (BitVec 128) :=
  if cs.length = 32 then (Numeral.hex? cs).map (BitVec.ofNat 128) else none

/-- The id that groups of digits with hyphens between them spell. -/
def ofGroups? (cs : List Char) : Option (BitVec 128) :=
  let groups := Text.pieces (· == '-') cs
  if groups.map List.length = groupLengths then ofDigits? groups.flatten else none

/-- The name of the space of ids, which may stand in front of one in any letter case. -/
def spaceName : List Char := ['u', 'r', 'n', ':', 'u', 'u', 'i', 'd', ':']

/-- An id in any of its written forms. -/
def ofChars? (cs : List Char) : Option (BitVec 128) :=
  match cs with
  | '{' :: rest => if rest.getLast? = some '}' then ofGroups? rest.dropLast else none
  | _ =>
    if cs.length = 32 then ofDigits? cs
    else if (cs.take 9).map Char.toLower = spaceName then ofGroups? (cs.drop 9)
    else ofGroups? cs

/-- An id in any of its written forms. -/
def parse? (s : String) : Option (BitVec 128) :=
  ofChars? s.toList

/-- The number of bytes in an id. -/
def byteCount : Nat := 16

/-- The id of some bytes, the most significant first. -/
def ofBytes? (bytes : List Nat) : Option (BitVec 128) :=
  if bytes.length = byteCount ∧ bytes.all (· < 256) then
    some (BitVec.ofNat 128 (bytes.foldl (fun n b => 256 * n + b) 0))
  else none

/-- The 32 digits of an id. -/
def digits (id : BitVec 128) : List Char :=
  let ds := Nat.toDigits 16 id.toNat
  List.replicate (32 - ds.length) '0' ++ ds

/-- Put hyphens between the groups of a list of digits. -/
def hyphenate : List Nat → List Char → List Char
  | [], cs => cs
  | [_], cs => cs
  | n :: ns, cs => cs.take n ++ '-' :: hyphenate ns (cs.drop n)

/-- The characters of an id in its usual form. -/
def chars (id : BitVec 128) : List Char :=
  hyphenate groupLengths (digits id)

/-- An id in its usual form. -/
def text (id : BitVec 128) : String :=
  String.ofList (chars id)

end CoursePlan.Uuid
