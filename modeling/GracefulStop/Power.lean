/-!
# Powers

A power of a number is that of the core library. Where monoids are imported as well they come second,
so that a power means the same in every module.
-/

attribute [instance (20000), default_instance 20000] instPowNat
