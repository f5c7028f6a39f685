/-! # Powers

The power of a number is the one of the core library everywhere, also where a module sees other
powers that are equal to it.
-/

attribute [instance (high), default_instance 20000] instPowNat
