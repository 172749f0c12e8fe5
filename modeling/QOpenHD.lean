import QOpenHD.Checked
import QOpenHD.Reassembly
import QOpenHD.PacketizeH264
import QOpenHD.PacketizeH265
import QOpenHD.AnnexB
import QOpenHD.ParseRTPSafety
import QOpenHD.NaluContract
import QOpenHD.RTPReceiver
import QOpenHD.LossCounters
import QOpenHD.OversizedNalu
import QOpenHD.CmdSender
import QOpenHD.XParamGetAll
import QOpenHD.XParam
import QOpenHD.TimeoutPass
import QOpenHD.XParamServer
import QOpenHD.XParamFetch
import QOpenHD.MavlinkTelemetry
import QOpenHD.MavlinkSettingsModel
import QOpenHD.SettingsCoherence
import QOpenHD.ADSBVehicleManager
import QOpenHD.MavlinkMessageStatsModel
import QOpenHD.MavlinkMessageDetails
import QOpenHD.ParamCodec
import QOpenHD.Connection
import QOpenHD.UDPRemote
import QOpenHD.LowLagDecoder
import QOpenHD.ConfigBuilders
import QOpenHD.VideoFormat
import QOpenHD.FCMsgIntervalHandler
import QOpenHD.FCAction
import QOpenHD.FCFlightDistance
import QOpenHD.FCEfficiency
import QOpenHD.FCMissionHandler
import QOpenHD.FCMissionMirror
import QOpenHD.FCMissionDownload
import QOpenHD.ToolEndpoint
import QOpenHD.Bits
import QOpenHD.Grammar
import QOpenHD.BitBuffer
import QOpenHD.H264Common
import QOpenHD.SpsParser
import QOpenHD.SpsResolution
import QOpenHD.BitBufferWriter
import QOpenHD.Interleaving
import QOpenHD.ConnectionManagement
import QOpenHD.ConnectionModes
import QOpenHD.VideoPath
import QOpenHD.XParamBlocking
import QOpenHD.WBLinkSettingsHelper
import QOpenHD.Options
import QOpenHD.ToolCommands
import QOpenHD.ToolSettings
