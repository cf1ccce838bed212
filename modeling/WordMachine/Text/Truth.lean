/-!
# Truth values

How true and false are spelled.
-/

namespace WordMachine.Text

def truth? (text : String) : Option Bool :=
  if text ∈ ["1", "t", "T", "true", "TRUE", "True"] then some true
  else if text ∈ ["0", "f", "F", "false", "FALSE", "False"] then some false
  else none

end WordMachine.Text
