import LSPlant.ArenaBlocks
import LSPlant.ArrayBuffers
import LSPlant.ArrayElements
import LSPlant.Art.AccessFlags
import LSPlant.Art.ArenaAllocator
import LSPlant.Art.ArtMethod
import LSPlant.Art.Class
import LSPlant.Art.ClassLinker
import LSPlant.Art.Config
import LSPlant.Art.Instrumentation
import LSPlant.Art.JavaDebuggableGuard
import LSPlant.Art.Jit
import LSPlant.Art.JitCodeCache
import LSPlant.Art.MethodBytes
import LSPlant.Art.PendingBackups
import LSPlant.Art.Probes
import LSPlant.Art.References
import LSPlant.Art.SizeT
import LSPlant.Art.VisitMethods
import LSPlant.CallOriginal
import LSPlant.Clean
import LSPlant.Coherence
import LSPlant.Common
import LSPlant.Debuggable
import LSPlant.Dex.BuildDex
import LSPlant.Dex.HookStubs
import LSPlant.Dex.HookerDex
import LSPlant.Dex.NativeEntry
import LSPlant.Dex.PassThrough
import LSPlant.Dex.ReflectedShorty
import LSPlant.Dex.RegisterWindow
import LSPlant.Dex.Signatures
import LSPlant.Effect
import LSPlant.Events
import LSPlant.Frame
import LSPlant.GeneratedMembers
import LSPlant.GeneratedNames
import LSPlant.GetterProbes
import LSPlant.GlobalReferences
import LSPlant.Hiding
import LSPlant.Hook
import LSPlant.HookBytes
import LSPlant.HookExits
import LSPlant.HookerClass
import LSPlant.IdleRemapping
import LSPlant.InPlace
import LSPlant.Inheritable
import LSPlant.Initialization
import LSPlant.InternalMethods
import LSPlant.JitMovements
import LSPlant.JniCalls
import LSPlant.Library.A64
import LSPlant.Library.Allotment
import LSPlant.Library.Bytes
import LSPlant.Library.ClassHierarchy
import LSPlant.Library.Custody
import LSPlant.Library.Dalvik
import LSPlant.Library.Machine
import LSPlant.Library.Redirection
import LSPlant.Library.Slots
import LSPlant.Library.Table
import LSPlant.LocalReferences
import LSPlant.MapMethods
import LSPlant.NativePaths
import LSPlant.NativeUpdate
import LSPlant.ObjectList
import LSPlant.ObjectListRuns
import LSPlant.ObjectMap
import LSPlant.ProxyMethod
import LSPlant.Rearm
import LSPlant.ReceiverCheck
import LSPlant.RegistryInterleaving
import LSPlant.Restore
import LSPlant.ScopedNonNative
import LSPlant.StackTrace
import LSPlant.StackWalk
import LSPlant.State
import LSPlant.Sticky
import LSPlant.Switch
import LSPlant.Trampoline.Arm64
import LSPlant.Trampoline.Interleaving
import LSPlant.Trampoline.Pool
import LSPlant.Trampoline.Retarget
import LSPlant.Trampoline.Write
import LSPlant.Transparency
import LSPlant.Uninstrumented
import LSPlant.RegistryLinearization
