import TokenPersistence.Journal
import TokenPersistence.Text.Description

/-!
# Log lines

A log event as a line of text: its severity, then its fields by name. The wording
of an event stands alone. A field that is a text keeps its line breaks.
-/

namespace TokenPersistence.Text

set_option autoImplicit false

def fieldValue : FieldValue → String
  | .text value => value
  | .flag value => flag value
  | .count value => toString value
  | .number value => NumberLayout.descriptive.write value

def fieldText (field : String × FieldValue) : String :=
  if field.1 = "message" then fieldValue field.2 else field.1 ++ "=" ++ fieldValue field.2

def logLine (event : LogEvent) : String :=
  " ".intercalate (event.severity.name :: (event.fields ++ event.estimates).map fieldText)

def logOutput (log : List LogEvent) : String :=
  String.join (log.map fun event => logLine event ++ "\n")

end TokenPersistence.Text
