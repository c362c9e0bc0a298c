import LazyBundle.IoError
import LazyBundle.Path

/-!
# Reading files

The two questions that loading asks of the files around it, in any monad.
-/

namespace LazyBundle

structure FileReader (m : Type → Type) where
  isFile : Path → m Bool
  readText : Path → m (Except IoError String)

end LazyBundle
