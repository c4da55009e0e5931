/-!
# Powers

A power of a natural number or an integer is the same term in every module: the one of the core
library, whatever else a module imports.
-/

attribute [instance (20000), default_instance (20000)] instPowNat
