import PcieSwitch.Main
import PcieSwitch.Simulation.Console
import PcieSwitch.Proofs.BandwidthCommand
import PcieSwitch.Proofs.WindowBounds
import PcieSwitch.Proofs.CounterRecords
import PcieSwitch.Proofs.CounterReads
import PcieSwitch.Proofs.Chains
import PcieSwitch.Proofs.Features
import PcieSwitch.Proofs.FeatureChains
import PcieSwitch.Proofs.EventWork
import PcieSwitch.Proofs.ArgumentChecks
import PcieSwitch.Proofs.TransferLimit
import PcieSwitch.Proofs.FailurePassing
import PcieSwitch.Proofs.RequestReading
import PcieSwitch.Proofs.RequestLanguage
import PcieSwitch.Proofs.ReplyBuffer
import PcieSwitch.Proofs.PacketTransport
import PcieSwitch.Proofs.EventAnswers
import PcieSwitch.Proofs.EventBits
import PcieSwitch.Proofs.EventOrder
import PcieSwitch.Proofs.EventListing
import PcieSwitch.Proofs.PendingEvents
import PcieSwitch.Proofs.WaitRounds
import PcieSwitch.Proofs.EventWaiting
import PcieSwitch.Proofs.SummaryWords
import PcieSwitch.Proofs.EventMarks
import PcieSwitch.Proofs.SessionCalls
import PcieSwitch.Proofs.QuietActions
import PcieSwitch.Proofs.UserConsent
import PcieSwitch.Proofs.RegisterActions
import PcieSwitch.Proofs.DeliberateActions
import PcieSwitch.Proofs.EventPlaces
import PcieSwitch.Proofs.CounterBank
import PcieSwitch.Proofs.CounterPlacement
import PcieSwitch.Proofs.KeptCounters
import PcieSwitch.Proofs.GivenOptions
import PcieSwitch.Proofs.AwaitedEvents
import PcieSwitch.Proofs.HexdumpReading
import PcieSwitch.Proofs.RegisterDump
import PcieSwitch.Proofs.CounterThreshold
import PcieSwitch.Proofs.HexdumpStreaming
import PcieSwitch.Proofs.RegisterLaws
import PcieSwitch.Proofs.RegisterTransfers
import PcieSwitch.Proofs.RegisterLines
import PcieSwitch.Proofs.KindNames
import PcieSwitch.Proofs.SetupReadback
import PcieSwitch.Proofs.PortListing
import PcieSwitch.Proofs.ListedStacks
import PcieSwitch.Proofs.PortHeadings
import PcieSwitch.Proofs.EventHeadings
import PcieSwitch.Proofs.InjectionOptions
import PcieSwitch.Proofs.CounterListings
import PcieSwitch.Proofs.GivenSizes
import PcieSwitch.Proofs.GivenPorts
import PcieSwitch.Proofs.OpenedNames
import PcieSwitch.Proofs.OpenedNumbers
import PcieSwitch.Proofs.DriverRequests
import PcieSwitch.Proofs.SummaryLayouts
import PcieSwitch.Proofs.ListedSwitches
import PcieSwitch.Proofs.DecodedReplies
