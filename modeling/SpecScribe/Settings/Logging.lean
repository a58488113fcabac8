import SpecScribe.Fault
import SpecScribe.Text.Case

/-!
Levels of the log. The first set-up installs a handler and sets the level; later ones leave both
as they are, and only quieten the libraries.
-/

namespace SpecScribe.Settings

/-- What a name of the logging module stands for. -/
inductive LevelName where
  | level (n : Nat)
  /-- The format of a log line, which is no level. -/
  | format (text : String)
  /-- The table of formats, which is no level either. -/
  | styles (text : String)

def levelNames : List (String × LevelName) :=
  [("CRITICAL", .level 50), ("FATAL", .level 50), ("ERROR", .level 40), ("WARNING", .level 30),
   ("WARN", .level 30), ("INFO", .level 20), ("DEBUG", .level 10), ("NOTSET", .level 0),
   ("BASIC_FORMAT", .format "%(levelname)s:%(name)s:%(message)s"),
   ("_STYLES", .styles
     ("\x7b'%': (<class 'logging.PercentStyle'>, '%(levelname)s:%(name)s:%(message)s'), "
       ++ "'\x7b': (<class 'logging.StrFormatStyle'>, '\x7blevelname\x7d:\x7bname\x7d:"
       ++ "\x7bmessage\x7d'), '$': (<class 'logging.StringTemplateStyle'>, "
       ++ "'$\x7blevelname\x7d:$\x7bname\x7d:$\x7bmessage\x7d')\x7d"))]

/-- The levels that are set, and the number of handlers. -/
structure LogState where
  root : Nat := 30
  handlers : Nat := 0
  libraries : List Nat := [0, 0, 0]

/-- Sets up the log at the level of the given name. The state is kept also if the name stands for
no level. -/
def LogState.setUp (s : LogState) (name : String) : Except Fault Unit × LogState :=
  let wanted := String.ofList (Text.upper name.toList)
  let quiet (s : LogState) : LogState := { s with libraries := [30, 30, 30] }
  match levelNames.lookup wanted with
  | none => (.error (.noModuleMember "logging" wanted), s)
  | some found =>
    if s.handlers > 0 then (.ok (), quiet s)
    else match found with
      | .level n => (.ok (), quiet { s with root := n, handlers := 1 })
      | .format t =>
        (.error (.badValue ("Unknown level: " ++ Text.quote t)), { s with handlers := 1 })
      | .styles t =>
        (.error (.wrongType ("Level not an integer or a valid string: " ++ t)),
          { s with handlers := 1 })

end SpecScribe.Settings
