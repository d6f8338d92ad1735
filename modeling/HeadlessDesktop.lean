import HeadlessDesktop.Main
import HeadlessDesktop.Proofs.BackendDirectory
import HeadlessDesktop.Proofs.ChildrenLists
import HeadlessDesktop.Proofs.ConcurrentEmission
import HeadlessDesktop.Proofs.ConfigSources
import HeadlessDesktop.Proofs.CrossingLinks
import HeadlessDesktop.Proofs.HookOrder
import HeadlessDesktop.Proofs.ParentWalk
import HeadlessDesktop.Proofs.PathOption
import HeadlessDesktop.Proofs.RearrangedCalls
import HeadlessDesktop.Proofs.RefusedWrites
import HeadlessDesktop.Proofs.ReloadedConfig
import HeadlessDesktop.Proofs.SilentRuns
import HeadlessDesktop.Proofs.TextLines
import HeadlessDesktop.Proofs.TimedQuit
import HeadlessDesktop.Proofs.WidgetRequests
