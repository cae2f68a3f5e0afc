/-!
# Powers

The powers of natural numbers and integers are those of the core library in every module, whatever
else it imports.
-/

namespace Fostering

/-- Goes before any other reading of a power. -/
@[default_instance 100000]
instance (priority := high) powOfNatPow {α : Type} [NatPow α] : Pow α Nat := instPowNat

end Fostering
