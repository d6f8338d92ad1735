import HeadlessDesktop.Trace.Tracer
import HeadlessDesktop.Widget.Parenting

/-! Linking widgets under a policy, with a trace of each link made. -/

namespace HeadlessDesktop

def link (registry : Registry) (tracing : Tracing) (policy : Policy) (child parent : WidgetId) :
    Except LinkError (Registry × Tracing × List Report) := do
  let registry ← registry.setParent policy child parent
  let (tracing, reports) := tracing.widget "set_parent" (registry.lookup? child)
  pure (registry, tracing, reports)

end HeadlessDesktop
