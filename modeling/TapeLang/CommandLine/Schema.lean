import TapeLang.CommandLine.Json

/-!
# The schema of settings files

What fields a settings file may have, as a JSON schema.
-/

namespace TapeLang.Settings

open Code (Value)

/-- What a field is for. -/
def Field.description : Field → String
  | .target => "Target language to generate"
  | .container => "Name of the generated container (module, class or package)"
  | .tapeSize => "Cells on the tape of every generated function"
  | .extension => "Extension of tape-language sources, without the dot"
  | .provenance => "Emit a provenance header naming sources and their hashes"
  | .autoFormat => "Run the target formatter over generated code (Rust only)"

/-- The type of a field and its default. -/
def Field.typing : Field → List (String × Value)
  | .target => [("$ref", .text "#/$defs/Target"), ("default", .text Settings.default.target.name)]
  | .container => [("type", .text "string"), ("default", .text Settings.default.container)]
  | .tapeSize =>
    [("type", .text "integer"), ("format", .text "uint"), ("default", .int Settings.default.tapeSize),
      ("minimum", .int 0)]
  | .extension => [("type", .text "string"), ("default", .text Settings.default.extension)]
  | .provenance => [("type", .text "boolean"), ("default", .bool Settings.default.provenance)]
  | .autoFormat => [("type", .text "boolean"), ("default", .bool Settings.default.autoFormat)]

def Field.schema (f : Field) : String × Value :=
  (f.name, .object (("description", .text f.description) :: f.typing))

/-- The schema, with the fields in the order of their names. -/
def schema : Value :=
  .object [
    ("$schema", .text "https://json-schema.org/draft/2020-12/schema"),
    ("title", .text "Config"),
    ("description", .text s!"Generator configuration ({Yaml.ticked Settings.fileName})"),
    ("type", .text "object"),
    ("properties", .object ((Field.all.mergeSort fun f g => f.name ≤ g.name).map Field.schema)),
    ("additionalProperties", .bool false),
    ("$defs", .object [("Target", .object [
      ("description", .text "Target host language"),
      ("type", .text "string"),
      ("enum", Json.texts (Target.all.map Target.name))])])]

end TapeLang.Settings
