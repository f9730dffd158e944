import Mathlib.Data.List.Basic

/-!
# The plugin of the graphics memory

Model of `plugins/dumper_plugin_host.cpp` and of the `MemoryInfo` objects that load and
unload the plugin in their constructor and destructor. Every function of the host runs under
`g_pluginMutex`, so calls of all threads follow each other. What `dlopen`, `dlsym` and the
plugin itself give belongs to the call; every use of the library is written down.
-/

namespace HiDumper.Native

/-- `DumpMeminfo`. -/
structure DumpMeminfo where
  pid : Int
  size : Int
  deriving DecidableEq, Repr

/-- `Plugin`: its functions, where it has them. -/
structure Plugin where
  queryMemInfo : Option (List DumpMeminfo → Int → List DumpMeminfo × Int)
  collectGpumem : Option (UInt32 → UInt32 → UInt32 → UInt32 → String)

/-- `OnCreatePluginFuncPtr`: what the function returns, a plugin or `nullptr`. -/
abbrev OnCreatePlugin := Option Plugin

/-- What is done with the library. -/
inductive LibraryUse where
  | dlopen (handle : Nat)
  | dlclose (handle : Nat)
  /-- A call of `g_createPluginFn` or of a function of the plugin. -/
  | call
  deriving DecidableEq, Repr

/-- `g_handle`, `g_createPluginFn` and `g_refCount`. -/
structure PluginHost where
  handle : Option Nat := none
  createPluginFn : Option OnCreatePlugin := none
  refCount : Nat := 0

namespace PluginHost

/-- `PLUGIN_ENABLE`. -/
def pluginEnable : Int := 0

/-- `PLUGIN_DISABLE`. -/
def pluginDisable : Int := -1

/-- `LoadPlugin`, with the handle that `dlopen` gives and the symbol that `dlsym` gives,
    where there is no error. -/
def loadPlugin (dlopen : Option Nat) (dlsym : Option (Option OnCreatePlugin)) (host : PluginHost) :
    Int × PluginHost × List LibraryUse :=
  if host.refCount > 0 then
    (pluginEnable, { host with refCount := host.refCount + 1 }, [])
  else
    match dlopen with
    | none => (pluginDisable, { host with handle := none }, [])
    | some handle =>
      match dlsym with
      | none =>
        (pluginDisable, { host with handle := none }, [.dlopen handle, .dlclose handle])
      | some fn =>
        (pluginEnable, ⟨some handle, fn, 1⟩, [.dlopen handle])

/-- `UnloadPlugin`. -/
def unloadPlugin (host : PluginHost) : PluginHost × List LibraryUse :=
  if host.refCount > 0 then
    if host.refCount - 1 = 0 then (⟨none, none, 0⟩, host.handle.toList.map .dlclose)
    else ({ host with refCount := host.refCount - 1 }, [])
  else (host, [])

/-- `QueryMemInfo`: the result, the array and `realSize` afterwards. -/
def queryMemInfo (infos : List DumpMeminfo) (realSize : Int) (host : PluginHost) :
    (Bool × List DumpMeminfo × Int) × List LibraryUse :=
  match host.createPluginFn with
  | none => ((false, infos, 0), [])
  | some createPlugin =>
    match createPlugin.bind (·.queryMemInfo) with
    | some query => ((true, query infos realSize), [.call, .call])
    | none => ((false, infos, 0), [.call])

/-- `CollectGpumem`. -/
def collectGpumem (pid cmdType infoType dfxLimit : UInt32) (host : PluginHost) :
    String × List LibraryUse :=
  match host.createPluginFn with
  | none => ("", [])
  | some createPlugin =>
    match createPlugin.bind (·.collectGpumem) with
    | some collect => (collect pid cmdType infoType dfxLimit, [.call, .call])
    | none => ("", [.call])

end PluginHost

/-- The host, the `MemoryInfo` objects that exist, and what was done with the library. -/
structure PluginUsers where
  host : PluginHost := {}
  memoryInfos : List Nat := []
  log : List LibraryUse := []

namespace PluginUsers

/-- What may happen next. -/
inductive Action where
  /-- `MemoryInfo::MemoryInfo`, which does not look at the result of `LoadPlugin`. -/
  | construct (memoryInfo : Nat) (dlopen : Option Nat) (dlsym : Option (Option OnCreatePlugin))
  /-- `MemoryInfo::~MemoryInfo`. -/
  | destruct (memoryInfo : Nat)
  | queryMemInfo (infos : List DumpMeminfo) (realSize : Int)
  | collectGpumem (pid cmdType infoType dfxLimit : UInt32)

/-- One step. -/
def step (s : PluginUsers) : Action → Option PluginUsers
  | .construct memoryInfo dlopen dlsym =>
    if memoryInfo ∈ s.memoryInfos then none
    else
      let (_, host, uses) := s.host.loadPlugin dlopen dlsym
      some ⟨host, memoryInfo :: s.memoryInfos, s.log ++ uses⟩
  | .destruct memoryInfo =>
    if memoryInfo ∈ s.memoryInfos then
      let (host, uses) := s.host.unloadPlugin
      some ⟨host, s.memoryInfos.erase memoryInfo, s.log ++ uses⟩
    else none
  | .queryMemInfo infos realSize =>
    some { s with log := s.log ++ (s.host.queryMemInfo infos realSize).2 }
  | .collectGpumem pid cmdType infoType dfxLimit =>
    some { s with log := s.log ++ (s.host.collectGpumem pid cmdType infoType dfxLimit).2 }

end PluginUsers

end HiDumper.Native
