import SstCam.Streaming.StreamingService

/-!
# GstRtmpStreamer

One RTMP uplink (`adapters/streaming/gst_rtmp`). The pipeline is its launch description; whether
the media framework parses and plays it is an input. The watcher rebuilds the same description
after an uplink error, which changes nothing here.
-/

namespace SstCam
set_option autoImplicit false

/-- The values the launch description is formatted from. -/
structure RtmpLaunch where
  location : String
  width : Int
  height : Int
  framerate : Int
  bitrateKbps : Int
  keyIntMax : Int
  deriving DecidableEq, Repr

structure GstRtmpStreamer where
  config : PlatformStreamConfig := {}
  running : Bool := false
  pipeline : Option RtmpLaunch := none
  deriving DecidableEq, Repr

namespace GstRtmpStreamer

def buildLocation (cfg : PlatformStreamConfig) : String :=
  if cfg.url = "" then cfg.streamKey
  else if cfg.url.toList.getLast? = some '/' then cfg.url ++ cfg.streamKey
  else cfg.url ++ "/" ++ cfg.streamKey

def buildLaunch (cfg : PlatformStreamConfig) : RtmpLaunch where
  location := buildLocation cfg
  width := cfg.width
  height := cfg.height
  framerate := cfg.framerate
  bitrateKbps := cfg.bitrateKbps
  keyIntMax := cfg.framerate * 2

def start (g : GstRtmpStreamer) (config : PlatformStreamConfig) (accepts : Bool) : GstRtmpStreamer × Bool :=
  if g.running then (g, true)
  else if config.url = "" ∨ config.streamKey = "" then (g, false)
  else if !accepts then ({ g with config, pipeline := none }, false)
  else ({ config, running := true, pipeline := some (buildLaunch config) }, true)

def stop (g : GstRtmpStreamer) : GstRtmpStreamer :=
  if !g.running then g else { g with running := false, pipeline := none }

instance : IPlatformStreamer GstRtmpStreamer where
  start := start
  stop := stop
  isRunning g := g.running
  push g _ := g

/-- The location of the RTMP sink, while the uplink is up. -/
def location (g : GstRtmpStreamer) : Option String :=
  g.pipeline.map (·.location)

/-- A fresh streamer turns down a configuration without a stream key. -/
theorem start_without_key (config : PlatformStreamConfig) (accepts : Bool) (noKey : config.streamKey = "") :
    start {} config accepts = ({}, false) := by
  simp [start, noKey]

end GstRtmpStreamer

end SstCam
