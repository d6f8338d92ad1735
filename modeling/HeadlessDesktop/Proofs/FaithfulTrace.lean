import HeadlessDesktop.Proofs.WidgetHistory

/-! The trace of a stub as a log of its widgets. With a recorder that keeps every record, the
last record that names a widget shows it as it is now, since each call that changes a widget
traces it afterwards; a call that is refused leaves no record of a widget. -/
namespace HeadlessDesktop

open Backend Trace
open Text (Raw)

namespace Trace

def Record.names (id : WidgetId) (record : Record) : Bool := record.widget.any (·.id == id)

def lastNaming? (id : WidgetId) (records : List Record) : Option Record :=
  records.reverse.find? (Record.names id)

/-- A widget as the last record that names it shows it. -/
def pictured (id : WidgetId) (records : List Record) : Option Widget :=
  (lastNaming? id records).bind (·.widget)

@[simp] theorem pictured_nil (id : WidgetId) : pictured id [] = none := rfl

theorem pictured_concat (id : WidgetId) (records : List Record) (record : Record) :
    pictured id (records ++ [record]) =
      if record.names id then record.widget else pictured id records := by
  unfold pictured lastNaming?
  rw [List.reverse_concat, List.find?_cons]
  cases record.names id <;> rfl

theorem pictured_concat_message (id : WidgetId) (records : List Record) {record : Record}
    (h : record.widget = none) : pictured id (records ++ [record]) = pictured id records := by
  simp [pictured_concat, Record.names, h]

theorem pictured_concat_widget (id : WidgetId) (records : List Record) {record : Record}
    {widget : Widget} (h : record.widget = some widget) :
    pictured id (records ++ [record]) =
      if widget.id = id then some widget else pictured id records := by
  simp [pictured_concat, Record.names, h]

end Trace

namespace Tracer

@[simp] theorem deliver_sinks (record : Record) (sinks : List Sink) :
    (deliver record sinks).1 = sinks.map fun sink => (sink.emit record).1 := by
  induction sinks with
  | nil => rfl
  | cons sink rest ih => simp [deliver, ih]

structure Keeps (tracer : Tracer) (place : Nat) (records : List Record) : Prop where
  enabled : tracer.enabled
  recorder : ∃ limit ≤ 0, tracer.sinks[place]? = some (.memory { limit, records })

theorem Keeps.emit {tracer : Tracer} {place : Nat} {records : List Record}
    (h : tracer.Keeps place records) (record : Record) :
    (tracer.emit record).1.Keeps place (records ++ [tracer.stamp record]) := by
  obtain ⟨limit, hlimit, hsink⟩ := h.recorder
  unfold Tracer.emit
  rw [if_pos h.enabled]
  refine ⟨h.enabled, limit, hlimit, ?_⟩
  have hall : ¬ 0 < limit := by omega
  simp [hsink, Sink.emit, Recorder.emit, Recorder.latest, hall]

end Tracer

@[simp] theorem Tracing.widget_none (tracing : Tracing) (op : Raw) :
    tracing.widget op none = (tracing, []) := by
  cases tracing <;> rfl

namespace Registry

theorem Dense.id_of_lookup? {registry : Registry} (dense : registry.Dense) {id : WidgetId}
    {widget : Widget} (h : registry.lookup? id = some widget) : widget.id = id := by
  have hid := ne_zero_of_lookup? h
  rw [dense.lookup?_eq id hid] at h
  apply UInt64.toNat_inj.mp
  rw [dense.id_toNat _ _ h, toNat_eq_placeOf_add_one id hid]

theorem modify_of_unknown {registry : Registry} {id : WidgetId}
    (h : registry.lookup? id = none) (change : Widget → Widget) :
    registry.modify id change = registry := by
  unfold modify
  unfold lookup? at h
  split
  · rfl
  · rename_i hguard
    rw [if_neg hguard] at h
    congr 1
    apply Array.ext_getElem?
    intro place
    rw [Array.getElem?_modify]
    split
    · rename_i hplace
      rw [← hplace, h]
      rfl
    · rfl

end Registry

namespace Stub

/-! ### What the calls leave in the trace -/

def Logs (stub : Stub) (place : Nat) (records : List Record) : Prop :=
  ∃ tracer, stub.tracing = some tracer ∧ tracer.Keeps place records

/-- The records show every widget as it is, and no others. -/
structure Traced (stub : Stub) (place : Nat) (records : List Record) : Prop where
  logs : stub.Logs place records
  shows : ∀ id, pictured id records = stub.lookup? id

variable {stub : Stub} {place : Nat} {records : List Record}

theorem Logs.message (h : stub.Logs place records) (op text : Raw) :
    ∃ record : Record, record.widget = none ∧ record.op = op ∧ record.message = text ∧
      (stub.message op text).1.Logs place (records ++ [record]) := by
  obtain ⟨tracer, htracer, hkeeps⟩ := h
  refine ⟨tracer.stamp { op, message := text }, rfl, rfl, rfl, (tracer.message op text).1, ?_,
    hkeeps.emit _⟩
  simp [Stub.message, Tracing.message, Tracing.emit, htracer]

theorem Logs.traceWidget (h : stub.Logs place records) (op : Raw) {id : WidgetId}
    {widget : Widget} (hwidget : stub.registry.lookup? id = some widget) :
    ∃ record : Record, record.widget = some widget ∧
      (stub.traceWidget op id).1.Logs place (records ++ [record]) := by
  obtain ⟨tracer, htracer, hkeeps⟩ := h
  refine ⟨tracer.stamp { op, widget := some widget }, rfl, (tracer.widget op (some widget)).1, ?_,
    hkeeps.emit _⟩
  simp [Stub.traceWidget, Tracing.widget, Tracing.emit, htracer, hwidget]

theorem traceWidget_of_unknown (stub : Stub) (op : Raw) {id : WidgetId}
    (h : stub.registry.lookup? id = none) : (stub.traceWidget op id).1 = stub := by
  unfold traceWidget
  rw [h, Tracing.widget_none]

theorem setParent_eq (stub : Stub) (child parent : Handle) :
    (stub.setParent child parent).1 =
      if stub.accepts child parent then
        ({ stub with registry := stub.registry.relink stub.policy child parent }.traceWidget
          "set_parent" child).1
      else stub := by
  unfold setParent
  by_cases hnull : child = 0
  · have hrefused : ¬ stub.accepts child parent := by
      simp [accepts_iff, hnull, lookup?]
    rw [if_pos hnull, if_neg hrefused]
  · rw [if_neg hnull]
    unfold accepts link Registry.relink
    cases stub.registry.setParent stub.policy child parent <;> rfl

theorem Traced.message (h : stub.Traced place records) (op text : Raw) :
    ∃ added, (stub.message op text).1.Traced place (records ++ added) := by
  obtain ⟨record, hrecord, -, -, hlogs⟩ := h.logs.message op text
  refine ⟨[record], hlogs, fun id => ?_⟩
  rw [pictured_concat_message id records hrecord]
  exact h.shows id

theorem Traced.traceWidget (h : stub.Traced place records) {registry : Registry}
    (dense : registry.Dense) (op : Raw) {id : WidgetId}
    (others : ∀ other, other ≠ id → registry.lookup? other = stub.lookup? other)
    (stays : (stub.lookup? id).isSome → (registry.lookup? id).isSome) :
    ∃ added, ({ stub with registry }.traceWidget op id).1.Traced place (records ++ added) := by
  have hlogs : Logs { stub with registry } place records := h.logs
  cases hwidget : registry.lookup? id with
  | none =>
    -- No widget goes away, so there was none before either and nothing has to be traced.
    rw [traceWidget_of_unknown _ _ hwidget]
    refine ⟨[], ?_, fun other => ?_⟩
    · simpa using hlogs
    · change _ = registry.lookup? other
      rw [List.append_nil, h.shows]
      by_cases hother : other = id
      · subst hother
        simpa [hwidget] using stays
      · exact (others other hother).symm
  | some widget =>
    obtain ⟨record, hrecord, hlogs⟩ := hlogs.traceWidget op hwidget
    refine ⟨[record], hlogs, fun other => ?_⟩
    change _ = registry.lookup? other
    rw [pictured_concat_widget other records hrecord, dense.id_of_lookup? hwidget]
    by_cases hother : id = other
    · rw [if_pos hother, ← hother, hwidget]
    · rw [if_neg hother, h.shows, others other (Ne.symm hother)]

theorem Traced.create (h : stub.Traced place records) (dense : stub.registry.Dense)
    (room : stub.registry.size + 2 < UInt64.size) (build : WidgetId → Option Widget)
    (op : Raw) :
    let created := stub.registry.allocateWith build
    ∃ added, ({ stub with registry := created.1 }.traceWidget op created.2.id).1.Traced place
      (records ++ added) := by
  intro created
  have hnew := dense.lookup?_allocateWith build room
  refine h.traceWidget (dense.allocateWith build room) op (fun other hother => ?_) ?_
  · rw [Registry.id_allocateWith] at hother
    rw [hnew, if_neg hother]
    rfl
  · simp [created, Registry.id_allocateWith, lookup?]

theorem Traced.withPhase (h : stub.Traced place records) (phase : Phase) :
    Traced { stub with phase } place records :=
  ⟨h.logs, h.shows⟩

theorem Traced.finishMain (h : stub.Traced place records) :
    ∃ added, stub.finishMain.1.Traced place (records ++ added) := by
  unfold Stub.finishMain
  split
  · exact (h.withPhase _).message _ _
  · exact ⟨[], by simpa using h⟩

theorem Traced.startMain (h : stub.Traced place records) :
    ∃ added, stub.startMain.2.1.Traced place (records ++ added) := by
  unfold Stub.startMain
  split
  · exact h.message _ _
  · obtain ⟨before, hbefore⟩ := h.finishMain
    obtain ⟨started, hstarted⟩ :=
      (hbefore.withPhase .running).message "main" "simulated loop started"
    exact ⟨before ++ started, by simpa using hstarted⟩

theorem Traced.setParent (h : stub.Traced place records) (dense : stub.registry.Dense)
    (child parent : Handle) :
    ∃ added, (stub.setParent child parent).1.Traced place (records ++ added) := by
  rw [setParent_eq]
  split
  · rename_i haccepts
    refine h.traceWidget (dense.relink stub.policy child parent) _ (fun other hother => ?_) ?_
    · rw [Registry.lookup?_relink, if_neg fun hboth => hother hboth.1.symm]
      rfl
    · rw [Registry.lookup?_relink, if_pos ⟨rfl, stub.accepts_eq child parent ▸ haccepts⟩]
      simp [lookup?]
  · exact ⟨[], by simpa using h⟩

theorem Traced.setTitle (h : stub.Traced place records) (dense : stub.registry.Dense)
    (handle : Handle) (title : Raw) :
    ∃ added, (stub.setTitle handle title).1.Traced place (records ++ added) := by
  refine h.traceWidget (dense.modify handle (·.setTitle title) fun _ => rfl) _
    (fun other hother => ?_) ?_
  · rw [Registry.lookup?_modify, if_neg hother]
    rfl
  · simp [lookup?]

theorem Traced.display (h : stub.Traced place records) (dense : stub.registry.Dense)
    (handle : Handle) : ∃ added, (stub.display handle).1.Traced place (records ++ added) := by
  unfold Stub.display
  split
  · exact h.message _ _
  · exact h.traceWidget dense _ (fun _ _ => rfl) id

theorem Traced.obey {call : Call} {rest : List Call} (h : stub.Traced place records)
    (hroom : stub.HasRoom (call :: rest)) :
    ∃ added, (stub.obey call).Traced place (records ++ added) := by
  have hsize := hroom.room
  cases call with
  | init args =>
    change ∃ added, (stub.init args).1.Traced place _
    unfold Stub.init
    split
    · exact ⟨[], by simpa using h⟩
    · have hstarted : Traced { stub with initialised := true } place records :=
        ⟨h.logs, h.shows⟩
      exact hstarted.message _ _
  | windowNew title width height =>
    rw [List.countP_cons_of_pos rfl] at hsize
    exact h.create hroom.dense (by omega)
      (fun id => some (Widget.newWindow id title width height)) "window_new"
  | buttonNew label =>
    rw [List.countP_cons_of_pos rfl] at hsize
    exact h.create hroom.dense (by omega)
      (fun id => some (Widget.newButton id label)) "button_new"
  | setParent child parent => exact h.setParent hroom.dense child parent
  | display handle => exact h.display hroom.dense handle
  | setTitle handle title => exact h.setTitle hroom.dense handle title
  | main => exact h.startMain
  | mainQuit =>
    change ∃ added, stub.mainQuit.1.Traced place _
    unfold Stub.mainQuit
    split
    · exact (h.withPhase _).message _ _
    · exact h.message _ _

theorem Traced.obeyAll {calls : List Call} (h : stub.Traced place records)
    (hroom : stub.HasRoom calls) :
    ∃ added, (stub.obeyAll calls).Traced place (records ++ added) := by
  induction calls generalizing stub records with
  | nil => exact ⟨[], by simpa using h⟩
  | cons call rest ih =>
    obtain ⟨first, hfirst⟩ := h.obey hroom
    obtain ⟨others, hothers⟩ := ih hfirst hroom.obey
    exact ⟨first ++ others, by simpa using hothers⟩

theorem traced_start {tracer : Tracer} (h : tracer.Keeps place []) (policy : Policy) :
    Traced { tracing := some tracer, policy } place [] where
  logs := ⟨tracer, rfl, h⟩
  shows id := by
    simp [lookup?, Registry.lookup?]

/-! ### Calls that are refused -/

/-- Whether a call comes to nothing because a handle names no widget or a link is not made. -/
def refuses (stub : Stub) : Call → Bool
  | .setParent child parent => !stub.accepts child parent
  | .setTitle handle _ => (stub.lookup? handle).isNone
  | .display handle => (stub.lookup? handle).isNone
  | _ => false

theorem obey_of_refuses {call : Call} (h : stub.refuses call) (hshown : call ≠ .display 0) :
    stub.obey call = stub := by
  cases call with
  | setParent child parent =>
    change (stub.setParent child parent).1 = stub
    rw [setParent_eq, if_neg (by simpa [refuses] using h)]
  | setTitle handle title =>
    have hunknown : stub.registry.lookup? handle = none := by
      simpa [refuses, lookup?] using h
    change (stub.setTitle handle title).1 = stub
    unfold setTitle
    rw [Registry.modify_of_unknown hunknown]
    exact stub.traceWidget_of_unknown _ hunknown
  | display handle =>
    change (stub.display handle).1 = stub
    unfold display
    rw [if_neg (by simpa using hshown)]
    exact stub.traceWidget_of_unknown _ (by simpa [refuses, lookup?] using h)
  | _ => simp [refuses] at h

/-- The trace is a faithful log of the widgets. The bound leaves out only runs that create more
widgets than there are ids. -/
theorem trace_shows_widgets (policy : Policy) (tracer : Tracer) (place : Nat)
    (hempty : tracer.Keeps place []) (calls : List Call)
    (room : calls.countP Call.creates + 1 < UInt64.size) :
    let start : Stub := { tracing := some tracer, policy }
    let final := start.obeyAll calls
    ∃ records, final.Logs place records ∧
      (∀ id, 1 ≤ id.toNat → id.toNat ≤ calls.countP Call.creates →
        ∃ record widget, lastNaming? id records = some record ∧ record.widget = some widget ∧
          final.lookup? id = some widget) ∧
      ∀ before call after, calls = before ++ call :: after →
        let now := start.obeyAll before
        now.refuses call → ∃ earlier, now.Logs place earlier ∧
          if call = .display 0 then
            ∃ record : Record, record.widget = none ∧ record.op = "widget_show" ∧
              record.message = "NULL handle ignored" ∧
              (now.obey call).Logs place (earlier ++ [record])
          else now.obey call = now := by
  intro start final
  have hroom : start.HasRoom calls := .empty _ policy room
  have hstart : start.Traced place [] := traced_start hempty policy
  obtain ⟨records, hlogs, hshows⟩ := hstart.obeyAll hroom
  refine ⟨records, hlogs, fun id hlow hhigh => ?_, ?_⟩
  · have hissued : (final.lookup? id).isSome := by
      refine (hroom.isSome_lookup?_iff id).mpr ⟨hlow, ?_⟩
      omega
    obtain ⟨widget, hwidget⟩ := Option.isSome_iff_exists.mp hissued
    obtain ⟨record, hlast, hrecord⟩ := Option.bind_eq_some_iff.mp ((hshows id).trans hwidget)
    exact ⟨record, widget, hlast, hrecord, hwidget⟩
  · rintro before call after rfl now hrefuses
    obtain ⟨earlier, hearlier⟩ := hstart.obeyAll hroom.before
    refine ⟨earlier, hearlier.logs, ?_⟩
    split
    · rename_i hnull
      subst hnull
      exact hearlier.logs.message "widget_show" "NULL handle ignored"
    · rename_i hshown
      exact obey_of_refuses hrefuses hshown

theorem trace_shows_widgets_mixed :
    let tracer : Tracer := { sinks := [.text defaultLead {}, .memory {}] }
    let before : List Call :=
      [.init [], .setTitle 2 "early", .windowNew "w" 3 4, .buttonNew "b", .setParent 2 1,
        .setParent 1 2]
    let after : List Call := [.display 9, .setTitle 2 "c"]
    let calls := before ++ .display 0 :: after
    let start : Stub := { tracing := some tracer, policy := .rejectCycles }
    let final := start.obeyAll calls
    tracer.Keeps 1 [] ∧ calls.countP Call.creates + 1 < UInt64.size ∧
      (start.obeyAll before).refuses (.display 0) ∧
      (final.tracing.map fun tracer => tracer.recorders.map Recorder.ops) =
        some [[.text "init", .text "window_new", .text "button_new", .text "set_parent",
          .text "widget_show", .text "set_title"]] ∧
      (∃ records, final.Logs 1 records ∧ ∃ record widget, lastNaming? 2 records = some record ∧
        record.widget = some widget ∧ final.lookup? 2 = some widget) ∧
      ∃ earlier, (start.obeyAll before).Logs 1 earlier ∧
        ∃ record : Record, record.widget = none ∧ record.op = "widget_show" ∧
          record.message = "NULL handle ignored" ∧
          ((start.obeyAll before).obey (.display 0)).Logs 1 (earlier ++ [record]) := by
  intro tracer before after calls start final
  have hempty : tracer.Keeps 1 [] := ⟨rfl, 0, Int.le_refl 0, rfl⟩
  have hroom : calls.countP Call.creates + 1 < UInt64.size := by decide
  have hrefuses : (start.obeyAll before).refuses (.display 0) := by decide
  obtain ⟨records, hlogs, hlast, hrefused⟩ :=
    trace_shows_widgets .rejectCycles tracer 1 hempty calls hroom
  exact ⟨hempty, hroom, hrefuses, by decide +kernel,
    ⟨records, hlogs, hlast 2 (by decide) (by decide)⟩, hrefused before _ after rfl hrefuses⟩

end Stub

end HeadlessDesktop
