/-
The labels of a domain.

A label that begins with `xn--` is an encoded one and has to decode to something that needs
the encoding and is in its final form.  Any other label stands for itself.
-/
import BlogGateway.Uri.Domain.Characters
import BlogGateway.Uri.Domain.Direction
import BlogGateway.Uri.Domain.Punycode

namespace BlogGateway.Uri

/-- Whether a character is one of ASCII. -/
def isAscii (c : Char) : Bool := c.toNat < 128

/-- What encoded labels begin with. -/
def encodedMark : List Char := ['x', 'n', '-', '-']

/-- Whether a decoded label needs to be encoded and is in its final form. -/
def isFinal (label : List Char) : Bool :=
  !label.all isAscii && label.all fun c => !isForbidden c && !isChanged c

/-- The text that a label stands for. -/
def labelText? (label : List Char) : Option (List Char) :=
  if !encodedMark.isPrefixOf label then some label
  else match Punycode.decode? (label.drop encodedMark.length) with
    | none => none
    | some text => if isFinal text && !encodedMark.isPrefixOf text then some text else none

/-- Whether a label begins and joins as labels have to. -/
def isLabel (label : List Char) : Bool :=
  !(label.head?.any isMark) && joinersFit [] label

/-- Whether labels can make a domain together. -/
def areLabels (labels : List (List Char)) : Bool :=
  match labels.mapM labelText? with
  | none => false
  | some texts => texts.all isLabel && (!texts.any turnsRight || texts.all keepsDirection)

end BlogGateway.Uri
