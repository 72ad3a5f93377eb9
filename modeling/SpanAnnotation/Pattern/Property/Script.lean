import SpanAnnotation.Pattern.Property.Category
import SpanAnnotation.Pattern.Property.ScriptExtensions
import SpanAnnotation.Pattern.Property.ScriptTables

/-!
Scripts of characters by name, and all the characters that a script uses. A character that
several scripts use is taken for common or inherited only if it is listed so.
-/

set_option autoImplicit false

namespace SpanAnnotation.Pattern.Script

def named? (name : String) : Option CharSet := (lookUp named name).map .ofRanges

/-- The characters of a script, and those of other scripts that it uses too. -/
def extended? (name : String) : Option CharSet :=
  match named.find? fun entry => entry.1.contains name with
  | none => none
  | some (names, table) =>
      let shared (rows : List (Nat × Nat × List String)) : CharSet :=
        .ofRanges (rows.map fun (first, last, _) => (first, last))
      let own := (CharSet.ofRanges table).difference (shared extensions)
      some (own.union (shared (extensions.filter fun (_, _, users) => users.any names.contains)))

end SpanAnnotation.Pattern.Script
