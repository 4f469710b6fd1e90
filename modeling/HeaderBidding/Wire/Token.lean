import HeaderBidding.Text.Trim

/-!
# Tokens

Names in messages are tokens, and the space around a value is no part of it.
-/

namespace HeaderBidding.Wire

/-- Whether a character may stand in a token. -/
def isTokenChar (c : Char) : Bool :=
  c.isAlphanum || "!#$%&'*+-.^_\x60|~".toList.contains c

/-- Whether a character is space around a value. -/
def isOuterSpace (c : Char) : Bool :=
  c == ' ' || c == '\t'

/-- A value without the space around it. -/
def trimmed (s : List Char) : List Char :=
  Text.trimWhile isOuterSpace s

end HeaderBidding.Wire
