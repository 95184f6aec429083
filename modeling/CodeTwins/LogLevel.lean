import CodeTwins.Unicode.LetterCase

/-!
# Log levels

How much is logged, as a number or as a name in any case of letters.
-/
namespace CodeTwins

/-- A log level; what is below it is not logged. -/
abbrev LogLevel := Int

namespace LogLevel

def debug : LogLevel := 10

def warning : LogLevel := 30

def error : LogLevel := 40

def names : List (String × LogLevel) :=
  [("CRITICAL", 50), ("FATAL", 50), ("ERROR", error), ("WARN", warning), ("WARNING", warning),
    ("INFO", 20), ("DEBUG", debug), ("NOTSET", 0)]

def ofName? (name : String) : Option LogLevel :=
  (names.find? (·.1 == Unicode.upper name)).map (·.2)

/-- The words for a name that is none of a level. -/
def unknownMessage (name : String) : String :=
  "Unknown log level: " ++ name

end LogLevel
end CodeTwins
