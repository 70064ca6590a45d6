import BackboneLab.Document.Toml.Sections
import BackboneLab.Settings.Deployment

/-!
# The settings file

Settings are kept in a TOML document. Everything that the document leaves out takes its default.
-/

namespace BackboneLab

/-- The settings of a TOML document. -/
def Settings.ofToml (text : String) : Except Fault Settings :=
  match (Toml.read? text.toList).bind decode with
  | some s => .ok s
  | none => .error .invalidSettings

end BackboneLab
