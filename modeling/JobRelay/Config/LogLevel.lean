import JobRelay.Config.Basic
import JobRelay.Text.Digits

/-! # Levels of logging

A level is given by its name in any letter case or by a number from one to five; anything else
stands for the middle level.
-/

namespace JobRelay

/-- The level of a number, the gravest being one. -/
def LogLevel.ofNumber? : Nat → Option LogLevel
  | 1 => some .error
  | 2 => some .warn
  | 3 => some .info
  | 4 => some .debug
  | 5 => some .trace
  | _ => none

/-- The level with a name, ASCII letter case aside. -/
def LogLevel.ofName? (text : String) : Option LogLevel :=
  [LogLevel.error, .warn, .info, .debug, .trace].find? fun level =>
    level.name.toList == text.toList.map Char.toUpper

def ObservabilityConfig.level (c : ObservabilityConfig) : LogLevel :=
  let text := Text.trim c.logLevel
  match (Text.unsigned? text).bind LogLevel.ofNumber? with
  | some level => level
  | none => (LogLevel.ofName? text).getD .info

end JobRelay
