namespace Switchboard.Link

inductive Level
  | trace
  | debug
  | info
  | warn
  deriving DecidableEq

def Level.name : Level → String
  | .trace => "TRACE"
  | .debug => "DEBUG"
  | .info => "INFO"
  | .warn => "WARN"

structure LogLine where
  level : Level
  message : String
  fields : List (String × String) := []
  deriving DecidableEq

/-- The line as it is shown: level, message, then the fields in their order. -/
def LogLine.text (l : LogLine) : String :=
  l.fields.foldl (fun s f => s ++ " " ++ f.1 ++ "=" ++ f.2) (l.level.name ++ " " ++ l.message)

end Switchboard.Link
