import PcieSwitch.Text.Numeral

/-!
This module contains the layout of text in columns. A width counts characters, and a longer text is
never cut.
-/

namespace PcieSwitch.Text

def left (width : Nat) (s : String) : String :=
  s ++ String.ofList (List.replicate (width - s.length) ' ')

def right (width : Nat) (s : String) (fill : Char := ' ') : String :=
  String.ofList (List.replicate (width - s.length) fill) ++ s

def hex (n : Nat) (width : Nat := 1) : String :=
  right width (String.ofList (Numeral.toText 16 n)) '0'

def hexUpper (n : Nat) (width : Nat := 1) : String :=
  right width (String.ofList ((Numeral.toText 16 n).map Char.toUpper)) '0'

def lines (ls : List String) : String :=
  String.join (ls.map (· ++ "\n"))

def lowered (s : String) : List Char :=
  s.toList.map Char.toLower

def eqIgnoreCase (s t : String) : Bool :=
  lowered s == lowered t

end PcieSwitch.Text
