/-!
# Powers

Powers of whole numbers are the built-in ones, also where the algebra library offers
its own.
-/

attribute [instance (high), default_instance (high)] instPowNat
