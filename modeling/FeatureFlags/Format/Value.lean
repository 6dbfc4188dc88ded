import FeatureFlags.Format.Names

namespace FeatureFlags

open Json

class OperandFormat (α : Type) where
  toJson : α → Json
  decoder : Decoder α

instance : OperandFormat Bool := ⟨.boolean, Decoder.boolean⟩

instance : OperandFormat Double := ⟨.double, Decoder.number⟩

instance : OperandFormat String := ⟨.string, Decoder.string⟩

def Context.decoder : Decoder Context :=
  (Decoder.object Decoder.json).map fun members => ⟨Json.sortMembers members⟩

namespace FlagValue

def toJson : FlagValue → Json
  | .boolean b => .boolean b
  | .number d => .double d
  | .string s => .string s

/-- The form of a value shows its type, so it is read whole before it is refused. -/
def decoder : Decoder FlagValue := fun m f => do
  Decoder.hold m f
  match f with
  | .boolean b => return .boolean b
  | .number n => return .number n.toDouble
  | .string s => return .string s
  | _ => .error .schema

end FlagValue

namespace Property

def toJson (p : Property) : Json := .object <|
  [("id", .string p.id), ("name", .string p.name), ("path", Json.strings p.path),
    ("type", Named.toJson p.type)] ++
  if p.rolloutDiscriminator then [("rolloutDiscriminator", .boolean true)] else []

def record : Record Property :=
  .field "id" Decoder.string none <|
  .field "name" Decoder.string none <|
  .field "path" (Decoder.list Decoder.string) none <|
  .field "type" Named.decoder none <|
  .field "rolloutDiscriminator" Decoder.boolean (some false) <|
  .done fun rolloutDiscriminator type path name id => { id, name, path, type, rolloutDiscriminator }

def decoder : Decoder Property := record.decode

end Property

end FeatureFlags
