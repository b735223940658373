/-
# ControlLink.Yaml.Fault — why a text is not a YAML document
-/

namespace ControlLink.Yaml

set_option autoImplicit false

/-- Why a text is not read as one document. -/
inductive Fault where
  /-- A character that no YAML text may hold. -/
  | unreadable
  /-- The text breaks the grammar of tokens or of their order. -/
  | malformed
  | unknownAnchor
  | unknownTag
  /-- A value that is not of the kind its tag names. -/
  | wrongTag
  /-- An integer of more than 64 bits. -/
  | integerTooLarge
  | keyNotScalar
  | tooDeep
  /-- Aliases that expand without end. -/
  | repetition
  | moreThanOneDocument
deriving DecidableEq

def Fault.message : Fault → String
  | unreadable => "control characters are not allowed"
  | malformed => "the text is not well formed"
  | unknownAnchor => "unknown anchor"
  | unknownTag => "unknown tag"
  | wrongTag => "the value does not fit its tag"
  | integerTooLarge => "integer out of range"
  | keyNotScalar => "a key must be a scalar"
  | tooDeep => "recursion limit exceeded"
  | repetition => "repetition limit exceeded"
  | moreThanOneDocument => "more than one document"

end ControlLink.Yaml
