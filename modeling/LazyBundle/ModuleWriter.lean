import LazyBundle.Bundle
import LazyBundle.Config.Basic
import LazyBundle.FileSystem
import LazyBundle.Sha256

/-!
# Module writers

A module writer names the file of an entry module for a style mode and writes
it. A readable name is made of the first part of the key, the number of the
other parts if there are several, and the mode unless it is the default one. A
hashed name depends on the mode and the code only.
-/

namespace LazyBundle

def hashedId (length : Nat) (code modeName : String) : String :=
  let bytes := (modeName ++ "\x00" ++ code).toUTF8.toList
  "p-" ++ String.ofList ((Sha256.hexDigest bytes).toList.take length)

def keyPart (entryKey : String) : String :=
  let parts := entryKey.toList.splitOn '.'
  let count := if 2 < parts.length then "_" ++ toString (parts.length - 1) else ""
  String.ofList (parts.headD []) ++ count

def modePart (defaultMode modeName : String) : String :=
  if modeName = defaultMode then "" else "-" ++ modeName

def readableId (defaultMode entryKey modeName : String) : String :=
  keyPart entryKey ++ modePart defaultMode modeName

def bundleId (config : Config) (entryKey code modeName : String) : String :=
  let id :=
    if config.hashFileNames then hashedId config.hashLength code modeName
    else readableId config.defaultMode entryKey modeName
  id ++ config.bundleSuffix

def entryFileName (bundleId : String) : String :=
  bundleId ++ ".entry.js"

structure ModuleWriter (m : Type → Type) where
  write : List Path → EntryModule → String → String → m (Except WriteError ModeOutput)
  /-- How many turns the writing of a mode waits while other writes go on. -/
  wait : String → Nat := fun _ => 0

namespace ModuleWriter

variable {m : Type → Type} [Monad m]

/-- Writes a file into every destination under the name that `idOf` gives it. -/
def named (idOf : EntryModule → String → String → String) (fs : FileSystem m) : ModuleWriter m where
  write destinations entry code modeName := do
    let id := idOf entry code modeName
    let fileName := entryFileName id
    let outcome ← fs.writeAll code fileName destinations
    pure (outcome.map fun _ => ⟨modeName, id, fileName⟩)

def ofConfig (config : Config) (fs : FileSystem m) : ModuleWriter m :=
  named (fun entry code modeName => bundleId config entry.entryKey code modeName) fs

/-- Refuses some modes, gives every key and mode an id, and waits for each mode as long as it is told. -/
def scripted (idOf : String → String → String) (refuses : String → Bool) (wait : String → Nat)
    (fs : FileSystem m) : ModuleWriter m where
  write destinations entry code modeName :=
    if refuses modeName then pure (.error (.refusedMode modeName))
    else (named (fun e _ mode => idOf e.entryKey mode) fs).write destinations entry code modeName
  wait := wait

end ModuleWriter

end LazyBundle
