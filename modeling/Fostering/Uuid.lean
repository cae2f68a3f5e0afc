import Fostering.Bytes

/-!
# Random names

A universally unique name is made of sixteen random bytes, six bits of which tell how it was made.
It is written in five groups of hexadecimal digits.
-/

namespace Fostering.Uuid

/-- The bytes of a random name: four bits say that it is random, two bits which layout it has. -/
def mark (random : Bytes) : Bytes :=
  random.mapIdx fun i b =>
    if i = 6 then (b &&& 0x0f) ||| 0x40
    else if i = 8 then (b &&& 0x3f) ||| 0x80
    else b

/-- The text of a random name. -/
def text (random : Bytes) : String :=
  let bytes := (mark random).take 16
  let group (start length : Nat) := Bytes.toHex ((bytes.drop start).take length)
  group 0 4 ++ "-" ++ group 4 2 ++ "-" ++ group 6 2 ++ "-" ++ group 8 2 ++ "-" ++ group 10 6

end Fostering.Uuid
