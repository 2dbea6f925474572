/-
  What a text with a fixed layout can be blamed for.

  Records and configurations are read field by field, in the order in which they are written down;
  the first thing that does not fit is reported.  A missing or repeated field and an unknown word
  are named.  Everything else, from a stray bracket to a number where a text should be, is simply
  malformed.  The names stand in angle brackets, to set them off from the texts they are about.
-/

namespace QuorumRescue

/-- The first thing that kept a text from being read. -/
inductive DecodeFault
  | missingField (name : String)
  | duplicateField (name : String)
  | unknownVariant (word : String)
  | malformed
deriving DecidableEq, Repr

/-- A word between the quotes that mark names. -/
def DecodeFault.named (what word : String) : String :=
  "<" ++ what ++ " \x60" ++ word ++ "\x60>"

def DecodeFault.message : DecodeFault → String
  | .missingField name => named "missing field" name
  | .duplicateField name => named "duplicate field" name
  | .unknownVariant word => named "unknown variant" word
  | .malformed => "<invalid>"

/-- A field that has to be there. -/
def DecodeFault.required {α : Type} (name : String) : Option α → Except DecodeFault α
  | some value => .ok value
  | none => .error (.missingField name)

/-- A field may be given once. -/
def DecodeFault.once {α : Type} (name : String) : Option α → Except DecodeFault Unit
  | some _ => .error (.duplicateField name)
  | none => .ok ()

end QuorumRescue
