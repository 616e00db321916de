import DecoratorGraph.Json.Reader
import DecoratorGraph.Record
/-!
# Reading records

The JSON form of a dependency record: an object in which members of other names are passed
over, or an array of the fields in order.
-/

namespace DecoratorGraph.Record

def entriesReader : JsonText.Reader (Option (List String)) :=
  JsonText.optional (JsonText.list (JsonText.string "a string"))

def jsonShape : JsonText.Shape Record where
  name := "DependencyRecord"
  required := 2
  closed := false
  start := ⟨"", ⟨""⟩, {}⟩
  needed := ["name", "file"]
  fields := [
    ⟨"name", fun r s => do
      let (name, rest) ← JsonText.string "a string" s
      .ok (⟨name, r.file, r.dependencies⟩, rest)⟩,
    ⟨"file", fun r s => do
      let (file, rest) ← JsonText.string "path string" s
      .ok (⟨r.name, ⟨file⟩, r.dependencies⟩, rest)⟩,
    ⟨"directives", fun r s => do
      let (entries, rest) ← entriesReader s
      .ok (⟨r.name, r.file, { r.dependencies with directives := entries }⟩, rest)⟩,
    ⟨"providers", fun r s => do
      let (entries, rest) ← entriesReader s
      .ok (⟨r.name, r.file, { r.dependencies with providers := entries }⟩, rest)⟩,
    ⟨"templateUrl", fun r s => do
      let (entries, rest) ← entriesReader s
      .ok (⟨r.name, r.file, { r.dependencies with templateUrl := entries }⟩, rest)⟩]

def ofJsonText (text : String) : Except JsonText.ReadError Record :=
  JsonText.readAll jsonShape.read text

end DecoratorGraph.Record
