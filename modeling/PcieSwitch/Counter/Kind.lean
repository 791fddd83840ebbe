import PcieSwitch.Text.Layout

/-!
This module contains the kinds of traffic and errors that an event counter can count. A kind is a set of
bits, and groups of kinds have names of their own.
-/

namespace PcieSwitch

structure CountedKind where
  mask : UInt32
  name : String
  help : String
  deriving DecidableEq, Repr

namespace CountedKind

def allMask : UInt32 := 0x7FFFFF

def packetsMask : UInt32 := 0x700000

def errorsMask : UInt32 := 0x07FFFF

/--
The kinds by name. The groups stand first, so that naming the bits of a mask prefers them.
-/
def table : List CountedKind := [
  ⟨allMask, "ALL", "All Events"⟩,
  ⟨packetsMask, "ALL_TLPS", "All TLPs"⟩,
  ⟨errorsMask, "ALL_ERRORS", "All errors"⟩,
  ⟨0x000001, "UNSUP_REQ_ERR", "Unsupported Request error"⟩,
  ⟨0x000002, "ECRC_ERR", "ECRC error"⟩,
  ⟨0x000004, "MALFORM_TLP_ERR", "Malformed TLP error"⟩,
  ⟨0x000008, "RCVR_OFLOW_ERR", "Receiver overflow error"⟩,
  ⟨0x000010, "CMPLTR_ABORT_ERR", "Completer Abort error"⟩,
  ⟨0x000020, "POISONED_TLP_ERR", "Poisoned TLP error"⟩,
  ⟨0x000040, "SURPRISE_DOWN_ERR", "Surprise down error"⟩,
  ⟨0x000080, "DATA_LINK_PROTO_ERR", "Data Link protocol error"⟩,
  ⟨0x000100, "HDR_LOG_OFLOW_ERR", "Header Log Overflow error"⟩,
  ⟨0x000200, "UNCOR_INT_ERR", "Uncorrectable Internal error"⟩,
  ⟨0x000400, "REPLAY_TMR_TIMEOUT", "Replay timer timeout"⟩,
  ⟨0x000800, "REPLAY_NUM_ROLLOVER", "Replay number rollover"⟩,
  ⟨0x001000, "BAD_DLLP", "Bad DLLP"⟩,
  ⟨0x002000, "BAD_TLP", "Bad TLP"⟩,
  ⟨0x004000, "RCVR_ERR", "Receiver error"⟩,
  ⟨0x008000, "RCV_FATAL_MSG", "Receive FATAL error message"⟩,
  ⟨0x010000, "RCV_NON_FATAL_MSG", "Receive Non-FATAL error message"⟩,
  ⟨0x020000, "RCV_CORR_MSG", "Receive Correctable error message"⟩,
  ⟨0x040000, "NAK_RCVD", "NAK received"⟩,
  ⟨0x080000, "RULE_TABLE_HIT", "Rule Search Table Rule Hit"⟩,
  ⟨0x100000, "POSTED_TLP", "Posted TLP"⟩,
  ⟨0x200000, "COMP_TLP", "Completion TLP"⟩,
  ⟨0x400000, "NON_POSTED_TLP", "Non-Posted TLP"⟩
]

def ofName? (name : String) : Option CountedKind :=
  table.find? fun k => Text.eqIgnoreCase k.name name

def takeFirst? (mask : UInt32) : Option (CountedKind × UInt32) :=
  (table.find? fun k => mask &&& k.mask == k.mask).map fun k => (k, mask &&& ~~~k.mask)

/--
The kinds that a mask is made of. Each one takes a bit of the mask at least, so there are at most 32.
-/
def ofMask (mask : UInt32) : List CountedKind :=
  go 32 mask
where
  go (fuel : Nat) (mask : UInt32) : List CountedKind :=
    match fuel with
    | 0 => []
    | fuel + 1 =>
      match takeFirst? mask with
      | none => []
      | some (k, rest) => k :: go fuel rest

def namesOf (mask : UInt32) : List String :=
  (ofMask mask).map CountedKind.name

end CountedKind
end PcieSwitch
