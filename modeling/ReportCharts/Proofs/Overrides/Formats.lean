import ReportCharts.OverrideText
import ReportCharts.Proofs.Schema.Options
import ReportCharts.Proofs.Toml.Settings
import ReportCharts.Proofs.Yaml.Settings

/-!
Agreement of the three formats of override texts.

JSON gives partial options back whatever their texts are. Where these are printable, YAML reads the
same text and TOML the lines of the settings, and both find the same partial options: whichever
format a page names, the options it layers over a preset are those that were written.
-/

namespace ReportCharts.Overrides

/-- Partial options as a text in a format; YAML takes the text of JSON. -/
def toFormat (overrides : Overrides) : TextFormat → String
  | .toml => overrides.toToml
  | .json => shape.toText overrides
  | .yaml => shape.toText overrides

variable (words : Wording)

theorem ofText_json (overrides : Overrides) :
    ofText words .json (shape.toText overrides) = .ok overrides := by
  have read : shape.ofText (shape.toText overrides) = .ok overrides :=
    roundTrips.ofText_toText (by decide : 0 + 1 < 128) whole trivial
  rw [ofText, read]
  rfl

theorem ofNamedText_none (overrides : Overrides) :
    ofNamedText words none (shape.toText overrides) = .ok overrides := ofText_json words overrides

theorem ofText_toFormat {overrides : Overrides} (printable : overrides.Printable)
    (format : TextFormat) : ofText words format (overrides.toFormat format) = .ok overrides := by
  cases format with
  | json => exact ofText_json words overrides
  | yaml => simp [ofText, toFormat, ofYaml?_toText printable]
  | toml => simp [ofText, toFormat, ofToml?_toToml printable]

theorem formats_agree (overrides : Overrides) :
    ofText words .json (shape.toText overrides) = .ok overrides ∧
      (overrides.Printable →
        ofText words .yaml (shape.toText overrides) = .ok overrides ∧
        ofText words .toml overrides.toToml = .ok overrides ∧
        ∀ name format, TextFormat.ofName name = .ok format →
          ofNamedText words (some name) (overrides.toFormat format) = .ok overrides) := by
  refine ⟨ofText_json words overrides, ?_⟩
  intro printable
  refine ⟨ofText_toFormat words printable .yaml, ofText_toFormat words printable .toml, ?_⟩
  intro name format known
  simp only [ofNamedText, known, bind, Except.bind]
  exact ofText_toFormat words printable format

theorem formats_agree_null_and_empty :
    let overrides : Overrides :=
      { title := some "null", showTitle := some true, titleFontSize := some 4294967295,
        legendPosition := some .bottom, yAxisLabel := some "",
        xAxisLabel := some "\x7b \"a\": #\\, [~] \x7d" }
    overrides.Printable ∧ ofText default .json (shape.toText overrides) = .ok overrides ∧
      ofText default .yaml (shape.toText overrides) = .ok overrides ∧
      ofText default .toml overrides.toToml = .ok overrides ∧
      ofNamedText default (some "YML") (overrides.toFormat .yaml) = .ok overrides := by
  intro overrides
  have printable : overrides.Printable := by decide
  obtain ⟨json, others⟩ := formats_agree default overrides
  obtain ⟨yaml, toml, named⟩ := others printable
  exact ⟨printable, json, yaml, toml, named "YML" .yaml (by decide)⟩

end ReportCharts.Overrides
