import SpanAnnotation.Pattern.Property.AgeTables
import SpanAnnotation.Pattern.Property.Category

/-!
Characters by the edition of the standard that they are in since. A later edition has the
characters of all before it.
-/

set_option autoImplicit false

namespace SpanAnnotation.Pattern.Age

-- The characters of the editions up to the named one, on top of those given.
def upTo (name : String) (known : CharSet) : List (List String × Text.Ranges) → Option CharSet
  | [] => none
  | (names, first) :: later =>
      let more := known.union (.ofRanges first)
      if names.contains name then some more else upTo name more later

def named? (name : String) : Option CharSet := upTo name .empty editions

end SpanAnnotation.Pattern.Age
