/-!
# Powers

A power is the one of the core library in every module. Where the powers of algebra are in sight as
well, these would take precedence, and a definition would depend on what its module imports.
-/
namespace ApiMock

/-- Powers of naturals, before any other reading of them. -/
@[default_instance 20000]
instance (priority := 20000) naturalPower : Pow Nat Nat := instPowNat

/-- Powers of integers, before any other reading of them. -/
instance (priority := 20000) integerPower : Pow Int Nat := instPowNat

end ApiMock
