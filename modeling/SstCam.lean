import SstCam.Lib.Runs
import SstCam.Lib.Atomic
import SstCam.Domain.Session
import SstCam.Domain.Overlay
import SstCam.Domain.Frame
import SstCam.Proto.Messages
import SstCam.Session.SessionManager
import SstCam.Storage.RecordingService
import SstCam.Streaming.StreamingService
import SstCam.Overlay.FloatFormat
import SstCam.Overlay.OverlayScene
import SstCam.Overlay.OverlayController
import SstCam.Overlay.OverlayProtoMapper
import SstCam.Streaming.GstRtmpStreamer
import SstCam.Control.Device
import SstCam.Control.Handlers
import SstCam.Control.Dispatcher
import SstCam.Control.Firmware
import SstCam.Control.Footprint
import SstCam.Control.Stage
import SstCam.Control.RecorderPhase
import SstCam.Control.WifiResources
import SstCam.Control.Teardown
import SstCam.Control.RtmpEgress
import SstCam.Control.OverlayRace
import SstCam.Ble.ChunkAssembler
import SstCam.Lib.Reassembly
import SstCam.Ble.Inbound
import SstCam.Ble.Outbound
import SstCam.Ble.BluezBleTransport
import SstCam.Ble.ExactlyOnce
import SstCam.Control.Calm
import SstCam.Ble.DisconnectRace
import SstCam.Overlay.OverlayLook
import SstCam.Control.SessionIsolation
import SstCam.Lib.Delimited
import SstCam.Overlay.PushOnChange
import SstCam.Lib.StableSort
import SstCam.Overlay.SceneTrace
import SstCam.Storage.GstContinuousRecorder
import SstCam.Storage.RecordingTrace
import SstCam.Buffer.MaterializeFrame
import SstCam.Processing.FrameMat
import SstCam.Buffer.LatestOnlySlot
import SstCam.Capture.GStreamerAdapter
import SstCam.Overlay.FrameCompositor
import SstCam.Processing.OpenCvStages
import SstCam.Pipeline.PipelineOrchestrator
import SstCam.Pipeline.Restart
import SstCam.Capture.FrameIds
import SstCam.Pipeline.FrameFlow
import SstCam.Buffer.DropOldestRing
import SstCam.Storage.RawCaptureNaming
import SstCam.Storage.FilesystemRawCaptureSink
import SstCam.Storage.RawCaptureContent
import SstCam.Network.Catalogue
import SstCam.Network.DownloadTokens
import SstCam.Lib.LocalUpdates
import SstCam.Overlay.CompositeBlend
import SstCam.Storage.RawCaptureStart
import SstCam.Ble.RoundTrip
import SstCam.Control.LiveSession
import SstCam.Control.ScoreArithmetic
import SstCam.Control.MatchClock
import SstCam.Control.MatchInForce
import SstCam.Processing.Nv12Bounds
import SstCam.Lib.Substitution
import SstCam.Overlay.ParamSubstitution
import SstCam.Wifi.WpaP2pParse
import SstCam.Wifi.WpaWifiManager
import SstCam.Wifi.GroupSearch
import SstCam.Wifi.GroupLeak
import SstCam.Lib.Decimal
import SstCam.Storage.RawCaptureRoundTrip
import SstCam.Ble.AdvertisedName
import SstCam.Buffer.RingTrace
import SstCam.Processing.CropFits
import SstCam.Buffer.SlotAsRing
import SstCam.Lib.Tiling
import SstCam.Buffer.MaterializeCopy
import SstCam.Lib.MapValues
import SstCam.Streaming.StreamingTrace
import SstCam.Ble.AssemblerInvariant
import SstCam.Lib.ShellInteger
import SstCam.Lib.VersionOrder
import SstCam.Lib.CommitGraph
import SstCam.Release.ResolveVersion
import SstCam.Release.Counters
import SstCam.Release.MintGate
import SstCam.Lib.Ledger
import SstCam.Streaming.RtmpWatcher
import SstCam.Streaming.RtmpOwnership
import SstCam.Streaming.RtmpReconnect
import SstCam.Lib.Port
import SstCam.Lib.Hex
import SstCam.Lib.Progress
import SstCam.Streaming.RtspAppStreamServer
import SstCam.Streaming.RtspLifecycle
import SstCam.Network.HttpRange
import SstCam.Network.HttpDownloadServer
import SstCam.Network.HttpDelivery
import SstCam.Network.HttpDownload
import SstCam.Release.Install
import SstCam.Overlay.CairoOverlayRenderer
import SstCam.Wifi.DnsmasqProcess
import SstCam.Network.DownloadProtocol
import SstCam.Lib.Regex
import SstCam.Release.FloorNolints
import SstCam.Lib.Shared
import SstCam.Pipeline.CaptureBuffers
import SstCam.Pipeline.BufferOwnership
