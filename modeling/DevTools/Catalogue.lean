import DevTools.Domain.Accessibility
import DevTools.Domain.Animation
import DevTools.Domain.Audits
import DevTools.Domain.BackgroundService
import DevTools.Domain.Browser
import DevTools.Domain.CacheStorage
import DevTools.Domain.Cast
import DevTools.Domain.Console
import DevTools.Domain.CSS
import DevTools.Domain.Database
import DevTools.Domain.Debugger
import DevTools.Domain.DeviceOrientation
import DevTools.Domain.DOM
import DevTools.Domain.DOMDebugger
import DevTools.Domain.DOMSnapshot
import DevTools.Domain.DOMStorage
import DevTools.Domain.Emulation
import DevTools.Domain.EventBreakpoints
import DevTools.Domain.Fetch
import DevTools.Domain.HeadlessExperimental
import DevTools.Domain.HeapProfiler
import DevTools.Domain.IndexedDB
import DevTools.Domain.Input
import DevTools.Domain.Inspector
import DevTools.Domain.InputOutput
import DevTools.Domain.LayerTree
import DevTools.Domain.Log
import DevTools.Domain.Media
import DevTools.Domain.Memory
import DevTools.Domain.Network
import DevTools.Domain.Overlay
import DevTools.Domain.Page
import DevTools.Domain.Performance
import DevTools.Domain.PerformanceTimeline
import DevTools.Domain.Profiler
import DevTools.Domain.Runtime
import DevTools.Domain.Schema
import DevTools.Domain.Security
import DevTools.Domain.ServiceWorker
import DevTools.Domain.Storage
import DevTools.Domain.SystemInfo
import DevTools.Domain.Target
import DevTools.Domain.Tethering
import DevTools.Domain.Tracing
import DevTools.Domain.WebAudio
import DevTools.Domain.WebAuthn

namespace DevTools

def protocol : Protocol where
  domains :=
    [ Domain.Accessibility.domain, Domain.Animation.domain, Domain.Audits.domain,
      Domain.BackgroundService.domain, Domain.Browser.domain, Domain.CacheStorage.domain,
      Domain.Cast.domain, Domain.Console.domain, Domain.CSS.domain, Domain.Database.domain,
      Domain.Debugger.domain, Domain.DeviceOrientation.domain, Domain.DOM.domain,
      Domain.DOMDebugger.domain, Domain.DOMSnapshot.domain, Domain.DOMStorage.domain,
      Domain.Emulation.domain, Domain.EventBreakpoints.domain, Domain.Fetch.domain,
      Domain.HeadlessExperimental.domain, Domain.HeapProfiler.domain, Domain.IndexedDB.domain,
      Domain.Input.domain, Domain.Inspector.domain, Domain.InputOutput.domain,
      Domain.LayerTree.domain, Domain.Log.domain, Domain.Media.domain, Domain.Memory.domain,
      Domain.Network.domain, Domain.Overlay.domain, Domain.Page.domain, Domain.Performance.domain,
      Domain.PerformanceTimeline.domain, Domain.Profiler.domain, Domain.Runtime.domain,
      Domain.Schema.domain, Domain.Security.domain, Domain.ServiceWorker.domain,
      Domain.Storage.domain, Domain.SystemInfo.domain, Domain.Target.domain,
      Domain.Tethering.domain, Domain.Tracing.domain, Domain.WebAudio.domain,
      Domain.WebAuthn.domain ]

end DevTools
