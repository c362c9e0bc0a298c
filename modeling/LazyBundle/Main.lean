import LazyBundle.Cli.Run
import LazyBundle.Shell.Run

/-!
# The command line program

Reads and writes the files of the disk, runs the commands of stages by the
built-in programs, prints the records of the run and exits with its code.
-/

namespace LazyBundle.CommandLine

def causeOf : IO.Error → IoError
  | .noFileOrDirectory _ _ _ => .notFound
  | .permissionDenied _ _ _ => .permissionDenied
  | .alreadyExists _ _ _ => .alreadyExists
  | .inappropriateType _ 20 _ => .notDirectory
  | .inappropriateType _ 21 _ => .isDirectory
  | e => .other 5 (toString e)

def attempt {α : Type} (action : IO α) : IO (Except IoError α) := do
  match ← action.toBaseIO with
  | .ok a => pure (.ok a)
  | .error e => pure (.error (causeOf e))

def readText (p : Path) : IO (Except IoError String) := do
  match ← attempt (IO.FS.readBinFile p.text) with
  | .error e => pure (.error e)
  | .ok bytes =>
    match String.fromUTF8? bytes with
    | some s => pure (.ok s)
    | none => pure (.error .notUtf8)

def fileReader : FileReader IO where
  isFile p := do
    match ← attempt (IO.FS.readBinFile p.text) with
    | .ok _ => pure true
    | .error _ => pure false
  readText := readText

def makeParent (p : Path) : IO (Except WriteError Unit) := do
  match p.parent? with
  | none => pure (.ok ())
  | some above =>
    if above.text.isEmpty then pure (.ok ())
    else pure ((← attempt (IO.FS.createDirAll above.text)).mapError (.createDirectory above))

def fileSystem : FileSystem IO where
  write p content := do
    match ← makeParent p with
    | .error e => pure (.error e)
    | .ok () => pure ((← attempt (IO.FS.writeFile p.text content)).mapError (.writeFile p))

def readEnvironment : IO Layer.Environment := do
  let values ← Config.variableNames.mapM fun name => do pure (name, ← IO.getEnv name)
  pure fun name => (values.lookup name).join

def usageText : String :=
  "Usage: lazypack [OPTIONS] --manifest <MANIFEST>\n\n" ++
  "  -m, --manifest <MANIFEST>  Build manifest produced by the bundler\n" ++
  "  -o, --out-dir <OUT_DIRS>   Output directory; repeat to write to several destinations\n" ++
  "      --target <TARGET>      Language level of the emitted code [es2017, es5]\n" ++
  "      --minify               Minify every output\n" ++
  "      --hash                 Use content hashes as bundle identifiers\n" ++
  "  -c, --config <CONFIG>      Config file to use instead of ./lazypack.toml\n" ++
  "      --dry-run              Run the pipeline without writing anything\n" ++
  "  -v, --verbose...           Increase log verbosity (-v debug, -vv trace)\n" ++
  "  -h, --help                 Print help\n" ++
  "  -V, --version              Print version"

def versionText : String := "lazypack 0.1.0"

def explain : Cli.Stop → IO Unit
  | .help => IO.println usageText
  | .version => IO.println versionText
  | .usage => IO.eprintln usageText

def printRecord (r : Cli.Record) : IO Unit :=
  IO.eprintln ("[" ++ r.severity.name ++ " " ++ r.source ++ "] " ++ r.shownMessage)

def run (args : List String) : IO Cli.Outcome := do
  let surroundings : Cli.Surroundings IO := {
    reader := fileReader
    files := fileSystem
    runner := Shell.runner
    environment := ← readEnvironment
    projectDir := ⟨(← IO.currentDir).toString⟩
    recordRules := ← IO.getEnv "RUST_LOG" }
  surroundings.run args

end LazyBundle.CommandLine

def main (args : List String) : IO UInt32 := do
  let outcome ← LazyBundle.CommandLine.run args
  outcome.records.forM LazyBundle.CommandLine.printRecord
  match outcome.stop with
  | some stop => LazyBundle.CommandLine.explain stop
  | none => pure ()
  pure outcome.exitCode.toUInt32
