import CountedHandles.Handle
import CountedHandles.Text.Term

/-!
# Printed handles

A handle is printed as its address alone, or under the name of its form. Under the name, padding
applies to the address inside, and a deleted pointer shows no address at all.
-/

namespace CountedHandles

/-- The ways to print a handle. -/
inductive Handle.Style where
  /-- The form with the address in parentheses on one line. -/
  | line (padding : Padding)
  /-- The form with the full address in parentheses on a line of its own. -/
  | block
  /-- The address alone. -/
  | address (padding : Padding)
deriving DecidableEq

namespace Handle

/-- The form with a text in parentheses. -/
def term (handle : Handle) (inside : String) : Term :=
  .group handle.form.text .tuple [.word inside]

/-- The form without an address, where a pointer is the mark of a deleted bucket. -/
def deletedText? (handle : Handle) : Option String :=
  if handle.form = .pointer ∧ handle.slot.isDeleted = true then
    some (handle.form.text ++ "(<deleted>)")
  else none

/-- A handle as it is printed. -/
def text (handle : Handle) : Style → String
  | .line padding =>
    handle.deletedText?.getD (handle.term (handle.address.padded padding)).line
  | .block =>
    handle.deletedText?.getD (handle.term (handle.address.padded Padding.allDigits)).blockText
  | .address padding => handle.address.padded padding

end Handle

end CountedHandles
