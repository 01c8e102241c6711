/-!
# Serial numbers

Every handle that comes into being takes the next number, counted from one, and never shares it.
-/

namespace CountedHandles

/-- The number that tells one handle from all others. -/
abbrev Serial := Nat

/-- The written form of a serial number. -/
def Serial.text (serial : Serial) : String :=
  "#" ++ toString serial

end CountedHandles
