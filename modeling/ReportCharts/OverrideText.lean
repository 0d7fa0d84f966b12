import ReportCharts.Schema.Options
import ReportCharts.SettingsFault
import ReportCharts.Toml.Overrides
import ReportCharts.Yaml.Overrides

/-!
Override texts in the formats that a page may choose from; JSON when it does not choose.

What the readers of YAML and TOML say of a text that they refuse is their own affair: every reading
takes their words as an argument.
-/

namespace ReportCharts

inductive TextFormat where
  | yaml
  | json
  | toml
  deriving DecidableEq

namespace TextFormat

def ofName? (name : String) : Option TextFormat :=
  match String.ofList (name.toList.map Char.toLower) with
  | "yaml" => some .yaml
  | "yml" => some .yaml
  | "json" => some .json
  | "toml" => some .toml
  | _ => none

def ofName (name : String) : Except SettingsFault TextFormat :=
  match ofName? name with
  | some format => .ok format
  | none => .error (.unreadable (.unknownFormat name))

end TextFormat

namespace Overrides

/-- What a reader of YAML and one of TOML say of the texts that they refuse. -/
structure Wording where
  yaml : String → String
  toml : String → String
  deriving Inhabited

variable (words : Wording)

def ofText (format : TextFormat) (text : String) : Except SettingsFault Overrides :=
  match format with
  | .json => (shape.ofText text).mapError fun fault => .unreadable (.json fault)
  | .yaml =>
      match ofYaml? text with
      | some overrides => .ok overrides
      | none => .error (.unreadable (.yaml (words.yaml text)))
  | .toml =>
      match ofToml? text with
      | some overrides => .ok overrides
      | none => .error (.unreadable (.toml (words.toml text)))

def ofNamedText (format : Option String) (text : String) : Except SettingsFault Overrides :=
  match format with
  | none => ofText words .json text
  | some name => do ofText words (← TextFormat.ofName name) text

end Overrides

end ReportCharts
