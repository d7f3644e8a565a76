/-!
# Powers

Powers of natural numbers and integers with a natural exponent are those of the core
library, also in a module that knows further instances for them.
-/

namespace QueryGateway

/-- Powers of natural numbers. -/
@[default_instance 30000]
instance (priority := 20000) naturalPower : Pow Nat Nat := ⟨Nat.pow⟩

/-- Powers of integers. -/
@[default_instance 20000]
instance (priority := 20000) integerPower : Pow Int Nat := ⟨Int.pow⟩

end QueryGateway
