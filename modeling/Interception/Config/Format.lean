import Interception.Config.Json5.Tree
import Interception.Config.Options
import Interception.Config.Toml.Tree
import Interception.Config.Yaml.Schema

/-!
# Formats of configuration

Options can be written in three formats. A text is read into a tree of its format first, and the tree is
then read in the dialect of the format. Both steps may fail, and it makes no difference which one does.
-/

namespace Interception

/-- A format in which options can be written. -/
inductive ConfigFormat where
  /-- JSON with comments, words as names and more kinds of numbers. -/
  | json5
  /-- Structure by indentation. -/
  | yaml
  /-- Tables with headers. -/
  | toml

namespace ConfigFormat

/-- Reads a text with a reader for any dialect. -/
def read? {α : Type} (format : ConfigFormat) (reader : {Tree : Type} → Dialect Tree → Tree → Option α)
    (text : String) : Option α :=
  match format with
  | json5 => Json5.Tree.read? text >>= reader Json5.Tree.dialect
  | yaml => Yaml.Tree.read? text >>= reader Yaml.Tree.dialect
  | toml => Toml.Tree.read? text >>= reader Toml.Tree.dialect

/-- Reads the options of an aspect of any type. -/
def aspect? (format : ConfigFormat) (text : String) : Option AspectOptions :=
  format.read? AspectOptions.read? text

/-- Reads the options of a manager. -/
def manager? (format : ConfigFormat) (text : String) : Option ManagerOptions :=
  format.read? ManagerOptions.read? text

/-- Reads the options of a logging aspect. -/
def logging? (format : ConfigFormat) (text : String) : Option LoggingOptions :=
  format.read? LoggingOptions.read? text

/-- Reads the options of a metric aspect. -/
def metric? (format : ConfigFormat) (text : String) : Option MetricOptions :=
  format.read? MetricOptions.read? text

end ConfigFormat

end Interception
