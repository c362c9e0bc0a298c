import LazyBundle.Component.Record

/-!
# Entry modules

An entry module names the components that are loaded together under one key, and
the style modes for which they are built.
-/

namespace LazyBundle

structure EntryModule where
  entryKey : String
  modeNames : List String
  components : List Component
deriving DecidableEq, Repr, Inhabited

namespace EntryModule

/-- The style mode of components that have only one. -/
def defaultMode : String := "$"

def toJson (e : EntryModule) : Json :=
  .object [
    ("entryKey", .string e.entryKey),
    ("modeNames", .list (e.modeNames.map .string)),
    ("cmps", .list (e.components.map Component.toJson))]

def shape : Json.Reader.Shape EntryModule where
  name := "EntryModule"
  closed := false
  fields := [
    .of "entryKey" true Json.Reader.text fun v e => { e with entryKey := v },
    .of "modeNames" true (Json.Reader.list Json.Reader.text) fun v e => { e with modeNames := v },
    .of "cmps" true (Json.Reader.list Component.reader) fun v e => { e with components := v }]
  start := ⟨"", [], []⟩

def reader : Json.Reader EntryModule :=
  Json.Reader.record shape

def find? (modules : List EntryModule) (key : String) : Option EntryModule :=
  List.find? (fun e => e.entryKey == key) modules

end EntryModule

end LazyBundle
