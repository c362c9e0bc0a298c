import LazyBundle.Json.Decode
import LazyBundle.Path
import LazyBundle.Toml.Decode

/-!
# Reading paths

A path is given by a string, in a document as well as in settings.
-/

namespace LazyBundle.Path

def ofDoc : Json.Reader Path := fun d =>
  (Json.Reader.string "path string" d).map Path.mk

def ofSetting : Toml.Reader Path := fun v =>
  (Toml.Reader.string "path string" v).map Path.mk

end LazyBundle.Path
