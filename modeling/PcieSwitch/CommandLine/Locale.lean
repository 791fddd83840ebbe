import PcieSwitch.CommandLine.Session

/-!
This module contains what the user's locale can show.
-/

namespace PcieSwitch

namespace Locale

def variableNames : List String := ["LC_ALL", "LC_CTYPE", "LANG"]

def occurs (word : List Char) : List Char → Bool
  | [] => word.isEmpty
  | c :: cs => word.isPrefixOf (c :: cs) || occurs word cs

def isUtf8 (values : List (Option String)) : Bool :=
  match (values.filterMap id).find? (· ≠ "") with
  | none => false
  | some name =>
    occurs "utf-8".toList (Text.lowered name) || occurs "utf8".toList (Text.lowered name)

def celsius (values : List (Option String)) : String :=
  if isUtf8 values then "°C" else "degC"

def ask : Session (List (Option String)) :=
  variableNames.mapM fun name => Session.ask (.variable name)

end Locale
end PcieSwitch
