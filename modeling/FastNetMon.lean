import FastNetMon.LifecycleVictims
import FastNetMon.Escalation
import FastNetMon.PortRuleCap
import FastNetMon.RefreshPlan
import FastNetMon.RefreshClassifier
import FastNetMon.BanUnban
import FastNetMon.RefreshReservations
import FastNetMon.Unbanned
import FastNetMon.Memory
import FastNetMon.BinaryBuffer
import FastNetMon.WireIdentity
import FastNetMon.NlriRoundTrip
import FastNetMon.ActionRoundTrip
import FastNetMon.RouteTarget
import FastNetMon.Ipv6Announce
import FastNetMon.PrefixEncoding
import FastNetMon.UnicastAttributes
import FastNetMon.FlowSpecEquality
import FastNetMon.FlowSpecJsonRoundTrip
import FastNetMon.FlowSpecJsonNumbers
import FastNetMon.PacketParserAgreement
import FastNetMon.NetflowTemplateStore
import FastNetMon.SflowBounds
import FastNetMon.NetflowV9Skip
import FastNetMon.IpfixBounds
import FastNetMon.IpfixTemplateRecords
import FastNetMon.TrafficConservation
import FastNetMon.IpfixSkip
import FastNetMon.SplitDataSets
import FastNetMon.FlowSpecFilter
import FastNetMon.SflowHeaders
import FastNetMon.AttackInformation
import FastNetMon.TransportPlacement
import FastNetMon.PacketPatch
import FastNetMon.SflowSampled
import FastNetMon.OneShotBucket
import FastNetMon.StoredPacket
import FastNetMon.ReducedSize
import FastNetMon.VariableRecords
import FastNetMon.FieldOrder
import FastNetMon.PacketStatistics
import FastNetMon.AddressText
import FastNetMon.TextGrammar
import FastNetMon.CommunityText
import FastNetMon.SubnetGrammar
import FastNetMon.BinaryBufferObject
import FastNetMon.BufferHistory
import FastNetMon.NetflowV5
import FastNetMon.SamplingRates
import FastNetMon.SamplingRatio
import FastNetMon.TreeHistory
import FastNetMon.OwnNetworks
import FastNetMon.Detection
import FastNetMon.Provenance
import FastNetMon.DaemonClassifiers
import FastNetMon.FlowTracking
import FastNetMon.PcapStorage
