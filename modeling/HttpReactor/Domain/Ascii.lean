import HttpReactor.Domain.Mapping
import HttpReactor.Domain.Label
import HttpReactor.Domain.Punycode
/-!
# Domain names in ASCII

A domain name written in any script is brought to the ASCII form that name servers use
(`toAscii`), in the way URLs ask for it:

1. each character is mapped (`mapChar`), and a character that may not stand in a domain name is
   an error;
2. the text is put in Normalization Form C;
3. an ASCII control, the space, DEL, or one of `% # / : < > ? @ [ \ ] ^ |` is an error, as these
   have a meaning of their own in a URL;
4. the text is cut into labels at its dots, and a label that begins with `xn--` is read as
   Punycode: it must be ASCII, must decode, must give a label that is not ASCII, is in
   Normalization Form C, holds only characters that may stand in a domain name, and does not
   begin with `xn--` itself;
5. no label begins with a combining mark or holds a joiner where it may not stand, and if any
   character is written from right to left or is an Arabic digit, every label keeps the
   direction rules;
6. each label that is not ASCII is written as `xn--` and its Punycode; a label that was written in
   Punycode already stays as it was written.

Hyphens may stand anywhere in a label, and the lengths of ASCII labels and of names are not
limited. Punycode bounds the others: a label written in it may have at most 2000 characters after
its prefix, and a label that is not ASCII at most 1000 code points.
-/

namespace HttpReactor

namespace Domain

/-- Why a domain name has no ASCII form. -/
inductive DomainError where
  /-- The character may not stand in a domain name. -/
  | disallowed (c : Char)
  /-- The ASCII character has a meaning of its own in a URL. -/
  | forbidden (c : Char)
  /-- A label that begins with `xn--` is not the Punycode of a label that is not ASCII. -/
  | badPunycode
  /-- A label read from Punycode is not in Normalization Form C, holds a character that may not
  stand in a domain name, or begins with `xn--`. -/
  | badDecodedLabel
  /-- A label begins with a combining mark. -/
  | leadingMark
  /-- A joiner stands where it may not. -/
  | misplacedJoiner
  /-- A label breaks the direction rules of a name that holds right-to-left text. -/
  | mixedDirection
  /-- A label is too long to write in Punycode. -/
  | tooLong
  deriving DecidableEq, Repr

/-- An ASCII character that has a meaning of its own in a URL, or is a control or a space. -/
def isForbiddenAscii (c : Char) : Bool :=
  c.toNat ≤ 0x20 || c.toNat = 0x7F ||
    ['%', '#', '/', ':', '<', '>', '?', '@', '[', '\\', ']', '^', '|'].contains c

/-- The prefix of a label written in Punycode. -/
def punycodePrefix : List Char := ['x', 'n', '-', '-']

/-- The character is ASCII. -/
def isAscii (c : Char) : Bool := c.toNat < 0x80

/-- The Unicode label that a mapped label stands for: a label that begins with `xn--` is read as
Punycode, and any other stands for itself. -/
def decodeLabel (label : List Char) : Except DomainError (List Char) :=
  if punycodePrefix.isPrefixOf label then
    let rest := label.drop 4
    if !rest.all isAscii then .error .badPunycode
    else
      match Punycode.decode rest with
      | none => .error .badPunycode
      | some u =>
        if u.all isAscii then .error .badPunycode
        else if !Text.isComposed u || !u.all (fun c => (status c).isValid) ||
            punycodePrefix.isPrefixOf u then .error .badDecodedLabel
        else .ok u
  else .ok label

/-- The mapped and normalized text of a domain name cut into labels, before Punycode is read. -/
def writtenLabels (name : String) : Except DomainError (List (List Char)) := do
  if let some c := name.toList.find? fun c => status c = .disallowed then throw (.disallowed c)
  let composed := Text.toComposed (name.toList.flatMap mapChar)
  if let some c := composed.find? isForbiddenAscii then throw (.forbidden c)
  return composed.splitOn '.'

/-- The labels of a domain name as Unicode text, checked, each beside the label as written after
mapping. -/
def toLabels (name : String) : Except DomainError (List (List Char × List Char)) := do
  let written ← writtenLabels name
  let labels ← written.mapM fun w => (w, ·) <$> decodeLabel w
  let texts := labels.map (·.2)
  if !texts.all isWellFormedLabel then
    throw (if texts.any fun l => (l.head?.map isMark).getD false then .leadingMark else .misplacedJoiner)
  if texts.any (·.any fun c => (bidiClass c).isRightToLeft) && !texts.all keepsDirection then
    throw .mixedDirection
  return labels

/-- The ASCII form of one label, given as written after mapping and as Unicode text: a label
written in Punycode stays as written, an ASCII label stands for itself, and any other is
encoded. -/
def encodeLabel (written label : List Char) : Except DomainError (List Char) :=
  if punycodePrefix.isPrefixOf written || label.all isAscii then .ok written
  else
    match Punycode.encode label with
    | some p => .ok (punycodePrefix ++ p)
    | none => .error .tooLong

/-- The ASCII form of a domain name. -/
def toAscii (name : String) : Except DomainError String := do
  let labels ← toLabels name
  let parts ← labels.mapM fun (w, l) => encodeLabel w l
  return String.intercalate "." (parts.map String.ofList)

end Domain

end HttpReactor
