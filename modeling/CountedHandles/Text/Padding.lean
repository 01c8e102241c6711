import CountedHandles.Address

/-!
# Padded addresses

The text of an address can be fitted to a width, either with a fill character around it or with
zeros between the mark `0x` and the digits. A text that is wide enough is never cut.
-/

namespace CountedHandles

/-- The side of a field to which its text keeps. -/
inductive Alignment where
  | left
  | center
  | right
deriving DecidableEq

/-- How the text of an address is fitted to a width. -/
inductive Padding where
  /-- The text stands alone. -/
  | none
  /-- The text is padded on the outside. -/
  | fill (char : Char) (alignment : Alignment) (width : Nat)
  /-- The digits are padded with zeros on their left. -/
  | zeros (width : Nat)
deriving DecidableEq

namespace Padding

/-- Zeros up to the sixteen digits of the longest address. -/
def allDigits : Padding := .zeros 18

/-- How many fill characters go in front of a text that lacks `missing` characters; a centred text
leaves the odd one behind it. -/
def inFront (missing : Nat) : Alignment → Nat
  | .left => 0
  | .center => missing / 2
  | .right => missing

end Padding

/-- The text of an address in a field. -/
def Address.padded (address : Address) : Padding → String
  | .none => address.text
  | .fill char alignment width =>
    let missing := width - (address.digits.length + 2)
    let before := Padding.inFront missing alignment
    String.ofList (List.replicate before char) ++ address.text ++
      String.ofList (List.replicate (missing - before) char)
  | .zeros width =>
    String.ofList ('0' :: 'x' ::
      (List.replicate (width - (address.digits.length + 2)) '0' ++ address.digits))

end CountedHandles
