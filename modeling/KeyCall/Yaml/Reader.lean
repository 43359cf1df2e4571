import KeyCall.Text.Arrival
import KeyCall.Value.Basic

/-!
# Readers of YAML

YAML is read by a package of its own, which is not part of the program.  The program opens a file
as a text, hands that over, and takes what comes back: a value, the package's own error, or whatever
else is raised while the text is read.  What depends on the package is stated for every reader.

## Main definitions

* `Yaml.Failure`: why no value comes out of a text.
* `Yaml.Reader`: what the package makes of a text.
-/

namespace KeyCall
namespace Yaml

/-- Why no value comes out of a text. -/
inductive Failure
  /-- The package's own error: the text is not well-formed. -/
  | malformed (detail : String)
  /-- Any other error, by its class and its message.  The error for bytes that are no text is one of
  these, since it goes through the package. -/
  | other (label message : String)
  deriving DecidableEq, Repr, Inhabited

/-- What the package makes of a text, which it reads as it arrives.  A value that contains itself is
for the program what it is unrolled beyond the end of the stack, and stands here for that; a set is
an object. -/
abbrev Reader := Text.Arrival → Except Failure Value

end Yaml
end KeyCall
