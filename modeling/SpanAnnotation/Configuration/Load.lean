import SpanAnnotation.Configuration.Validation
import SpanAnnotation.Wire.Configuration
import SpanAnnotation.Wire.Toml

/-!
Configurations from TOML texts, from files, and from the environment. Each is checked before use.
-/

set_option autoImplicit false

namespace SpanAnnotation.Configuration

def ofToml (text : String) : Except Error Configuration := do
  let config ← Wire.Toml.decode (ofValue false) text
  config.validate
  return config

def load (files : Files) (path : String) : Except Error Configuration :=
  match files path with
  | none => .error (.io path)
  | some contents => ofToml contents

-- The environment variable that names a file.
def environmentVariable : String := "ANOTADOR_CONFIG"

/-- The configuration of the file that the environment names. Without one it is the standard; a file
that cannot be used is never replaced by it. -/
def ofEnvironment (files : Files) (setting : Option String) : Except Error Configuration :=
  match setting with
  | none => .ok standard
  | some path => load files path

end SpanAnnotation.Configuration
