import CodeSurvey.Config.Basic
import CodeSurvey.Yaml.Reading

/-!
# Configurations as text

Configurations are written in YAML. A text of nothing but white space stands for the standard one.
-/

namespace CodeSurvey.Config

def ofText (text : String) : Except Yaml.ReadError Config :=
  if text.toList.all Text.isSpace then .ok standard
  else Yaml.readDocument (Yaml.Value.readRecord "Config" (record Yaml.Value.format)) text

end CodeSurvey.Config
