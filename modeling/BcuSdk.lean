import BcuSdk.Eibd.ClientSafety
import BcuSdk.Eibd.TunnelSafety
import BcuSdk.Eibd.EibNetIpSafety
import BcuSdk.Eibd.LoadImageSafety
import BcuSdk.Eibd.Layer3RegisterSafety
import BcuSdk.Eibd.Layer3Repeat
import BcuSdk.Eibd.ClientMessage
import BcuSdk.Eibd.EibNetServerBusmonitor
import BcuSdk.Eibd.EibNetHeartbeat
import BcuSdk.Eibd.GroupCacheSafety
import BcuSdk.Eibd.TunnelConnection
import BcuSdk.Eibd.EibNetTunnelWindow
import BcuSdk.Eibd.ClientLibrary
import BcuSdk.Eibd.ManagementSession
import BcuSdk.Eibd.Ft12
import BcuSdk.Eibd.TpuartSerialSafety
import BcuSdk.BcuGen.AddrTabAgreement
import BcuSdk.BcuGen.GenCodeRoundTrip
import BcuSdk.Eibd.FrameChecksum
import BcuSdk.Eibd.EmiRoundTrip
import BcuSdk.Eibd.UsbConverter
import BcuSdk.Eibd.EibNetIpSocket
import BcuSdk.Eibd.Layer7
import BcuSdk.Eibd.EibNetServerForward
import BcuSdk.Eibd.EibNetServerConfig
import BcuSdk.Eibd.Layer4Run
import BcuSdk.Eibd.TpuartSerialSend
import BcuSdk.Eibd.Bcu1Serial
import BcuSdk.Eibd.MemoryBlockWrite
import BcuSdk.Eibd.PropertyScan
import BcuSdk.Common.SegmentOverlap
import BcuSdk.BcuGen.IntSize
import BcuSdk.BcuGen.ExpressionMeaning
import BcuSdk.BcuGen.ConstantExpression
import BcuSdk.BcuGen.EscapeString
import BcuSdk.Common.Array
import BcuSdk.BcuGen.PropertyConfig
import BcuSdk.Eibd.EibNetServerNat
import BcuSdk.Eibd.Queue
import BcuSdk.Eibd.Forwarding
import BcuSdk.Eibd.EmiDriver
import BcuSdk.Eibd.LoadImageDownload
import BcuSdk.Eibd.LoadImageDevice
import BcuSdk.Eibd.BusNetwork
import BcuSdk.Eibd.Exchange
import BcuSdk.Eibd.BusDelivery
import BcuSdk.Eibd.ExchangeSafety
import BcuSdk.Eibd.ClientCalls
import BcuSdk.Eibd.ClientService
import BcuSdk.Eibd.RemoteCalls
import BcuSdk.Eibd.RemoteCallsSafety
import BcuSdk.Eibd.EibdOperations
import BcuSdk.Lib.Attempts
import BcuSdk.Eibd.UsbDriver
