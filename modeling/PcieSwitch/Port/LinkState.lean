/-!
This module contains the names of the link training states. A state has a major and a minor part.
-/

namespace PcieSwitch

structure LinkState where
  code : UInt16
  deriving DecidableEq, Repr

namespace LinkState

def major (s : LinkState) : Nat := s.code.toNat % 256
def minor (s : LinkState) : Nat := s.code.toNat / 256

def names : List (String × List String) := [
  ("Detect", ["INACTIVE", "QUIET", "SPD_CHD0", "SPD_CHD1", "ACTIVE0", "ACTIVE1", "P1_TO_P0",
    "P0_TO_P1_0", "P0_TO_P1_1", "P0_TO_P1_2"]),
  ("Polling", ["INACTIVE", "ACTIVE_ENTRY", "ACTIVE", "CFG", "COMP", "COMP_ENTRY", "COMP_EIOS",
    "COMP_EIOS_ACK", "COMP_IDLE"]),
  ("Config", ["INACTIVE", "US_LW_START", "US_LW_ACCEPT", "US_LN_WAIT", "US_LN_ACCEPT",
    "DS_LW_START", "DS_LW_ACCEPT", "DS_LN_WAIT", "DS_LN_ACCEPT", "COMPLETE", "IDLE"]),
  ("L0", ["INACTIVE", "L0", "TX_EL_IDLE", "TX_IDLE_MIN"]),
  ("Recovery", ["INACTIVE", "RCVR_LOCK", "RCVR_CFG", "IDLE", "SPEED0", "SPEED1", "SPEED2",
    "SPEED3", "EQ_PH0", "EQ_PH1", "EQ_PH2", "EQ_PH3"]),
  ("Disable", ["INACTIVE", "DISABLE0", "DISABLE1", "DISABLE2", "DISABLE3"]),
  ("Loop Back", ["INACTIVE", "ENTRY", "ENTRY_EXIT", "EIOS", "EIOS_ACK", "IDLE", "ACTIVE", "EXIT0",
    "EXIT1"]),
  ("Hot Reset", ["INACTIVE", "HOT_RESET", "MASTER_UP", "MASTER_DOWN"]),
  ("TxL0s", ["INACTIVE", "IDLE", "T0_L0", "FTS0", "FTS1"]),
  ("L1", ["INACTIVE", "IDLE", "SUBSTATE", "SPD_CHG1", "T0_L0"]),
  ("L2", ["INACTIVE", "IDLE", "TX_WAKE0", "TX_WAKE1", "EXIT", "SPEED"])
]

def name (s : LinkState) (showMinor : Bool) : String :=
  match names[s.major]? with
  | none => "UNKNOWN"
  | some (major, minors) =>
    if !showMinor || s.minor == 255 then
      major
    else
      match minors[s.minor]? with
      | none => "UNKNOWN"
      | some minor => s!"{major} ({minor})"

end LinkState
end PcieSwitch
