/-!
# Failures of input and output

Why a file could not be read or written, or a program could not be started,
with the text that the operating system gives for it.
-/

namespace LazyBundle

inductive IoError
  | notFound
  | permissionDenied
  | alreadyExists
  | notDirectory
  | isDirectory
  | nameTooLong
  | brokenPipe
  /-- A name that holds the character zero. -/
  | zeroInName
  /-- A command that holds the character zero. -/
  | zeroInCommand
  | notUtf8
  | other (code : Nat) (text : String)
deriving DecidableEq, Repr

namespace IoError

def coded (text : String) (code : Nat) : String :=
  text ++ " (os error " ++ toString code ++ ")"

def message : IoError → String
  | notFound => coded "No such file or directory" 2
  | permissionDenied => coded "Permission denied" 13
  | alreadyExists => coded "File exists" 17
  | notDirectory => coded "Not a directory" 20
  | isDirectory => coded "Is a directory" 21
  | brokenPipe => coded "Broken pipe" 32
  | nameTooLong => coded "File name too long" 36
  | zeroInName => "file name contained an unexpected NUL byte"
  | zeroInCommand => "nul byte found in provided data"
  | notUtf8 => "stream did not contain valid UTF-8"
  | other code text => coded text code

end IoError

end LazyBundle
