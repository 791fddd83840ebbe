/-!
This module contains the sizes of a switch and of its command interface.
-/

namespace PcieSwitch

def maxDataLength : Nat := 1024

def maxPorts : Nat := 48
def maxPartitions : Nat := 48
def maxStacks : Nat := 8
def maxEventCounters : Nat := 64
def maxPhysicalPorts : Nat := 48

def maxFunctions : Nat := 255

def unbound : UInt8 := 255

def anyIngress : UInt8 := 63

def virtualEndpoint : UInt32 := 100

def windowSize : Nat := 4 * 1024 * 1024

def maxWord : Nat := UInt64.size - 1

end PcieSwitch
