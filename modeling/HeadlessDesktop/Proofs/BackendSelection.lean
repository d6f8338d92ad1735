import HeadlessDesktop.Proofs.FacadeRuns
import HeadlessDesktop.Proofs.FaithfulTrace
import HeadlessDesktop.Proofs.FramedStream

/-! The backend of a facade is chosen once. Nothing happens before the first step that needs a
backend; that step settles which one serves, and neither later steps nor toolkits that are linked
in or out afterwards can change it. -/
namespace HeadlessDesktop

open Report Backend Trace
open Text (Raw)

namespace Backend

/-! ### How a start ends -/

/-- A factory that never panics and always gives a reason or a toolkit, whose start does not panic
either. -/
def Factory.Steady (factory : Factory) : Prop :=
  ∀ earlier, (∃ cause, factory earlier = .returned (.error cause)) ∨
    ∃ toolkit, factory earlier = .returned (.ok (some toolkit)) ∧
      ∀ args, ∃ answer, toolkit.respond [] (.init args) = .returned answer

theorem Script.steady_factory {script : Script} (hpanics : script.panics = [])
    (hgives : script.givesNothing = false) : script.factory.Steady := by
  intro earlier
  have hcrash (word : String) : script.crash? word = none := by simp [crash?, hpanics]
  cases herror : script.factoryError with
  | some message => exact .inl ⟨.text message, by simp [factory, hcrash, herror]⟩
  | none =>
    refine .inr ⟨script.toolkit, by simp [factory, hcrash, herror, hgives], fun args => ?_⟩
    exact ⟨script.answer [] (.init args), by simp [toolkit, hcrash]⟩

def Ending.choice : Ending → Option (Option Toolkit)
  | .stub | .failed _ => some none
  | .started toolkit => some (some toolkit)
  | .crashed _ => none

theorem Ending.choice_ne_none {ending : Ending} (h : ∀ value, ending ≠ .crashed value) :
    ending.choice ≠ none := by
  cases ending with
  | crashed value => exact absurd rfl (h value)
  | _ => simp [choice]

namespace Directory

variable (directory : Directory) (name : Raw) (earlier : Nat) (args : List String)

inductive Starts (toolkit : Toolkit) : Prop
  | intro (factory : Factory) (linked : directory.find? name = .ok (.linked factory))
      (given : factory earlier = .returned (.ok (some toolkit)))
      (ready : toolkit.respond [] (.init args) = .returned none)

inductive Fails : Cause → Prop
  | unknown (missing : name ∉ directory.names) :
    Fails (.unknownBackend name)
  | refused {cause : Cause} (factory : Factory)
      (linked : directory.find? name = .ok (.linked factory))
      (refused : factory earlier = .returned (.error cause)) : Fails cause
  | unready {cause : Cause} (factory : Factory) (toolkit : Toolkit)
      (linked : directory.find? name = .ok (.linked factory))
      (given : factory earlier = .returned (.ok (some toolkit)))
      (unready : toolkit.respond [] (.init args) = .returned (some cause)) : Fails cause

/-- A factory that gives nothing makes the facade itself panic. -/
inductive Crashes : PanicValue → Prop
  | factory {value : PanicValue} (factory : Factory)
      (linked : directory.find? name = .ok (.linked factory))
      (crashed : factory earlier = .panicked value) : Crashes value
  | nothing (factory : Factory) (linked : directory.find? name = .ok (.linked factory))
      (given : factory earlier = .returned (.ok none)) : Crashes (.fault .noTarget)
  | init {value : PanicValue} (factory : Factory) (toolkit : Toolkit)
      (linked : directory.find? name = .ok (.linked factory))
      (given : factory earlier = .returned (.ok (some toolkit)))
      (crashed : toolkit.respond [] (.init args) = .panicked value) : Crashes value

def Ends : Ending → Prop
  | .stub => directory.find? name = .ok .stub
  | .started toolkit => directory.Starts name earlier args toolkit
  | .failed cause => directory.Fails name earlier args cause
  | .crashed value => directory.Crashes name earlier args value

variable {directory name earlier args}

theorem find?_eq_error_iff {cause : Cause} :
    directory.find? name = .error cause ↔
      cause = .unknownBackend name ∧ name ∉ directory.names := by
  unfold find? names
  cases hfind : directory.entries.find? fun entry => name = entry.1 with
  | some entry =>
    have hentry : name = entry.1 := by simpa using List.find?_some hfind
    have hmem := List.mem_of_find?_eq_some hfind
    simp only [reduceCtorEq, false_iff, not_and, not_not]
    exact fun _ => hentry ▸ List.mem_map_of_mem hmem
  | none =>
    have hmissing : name ∉ directory.entries.map (·.1) := by
      rintro hmem
      obtain ⟨entry, hentry, rfl⟩ := List.mem_map.mp hmem
      simpa using List.find?_eq_none.mp hfind entry hentry
    simp only [Except.error.injEq]
    exact ⟨fun hcause => ⟨hcause.symm, hmissing⟩, fun hboth => hboth.1.symm⟩

theorem trial_of_ends (hname : ¬ (name = "" ∨ name = Stub.name)) {ending : Ending}
    (hends : directory.Ends name earlier args ending) :
    (directory.trial name earlier args).2 = ending := by
  unfold trial
  rw [if_neg hname]
  cases ending with
  | stub =>
    have hfind : directory.find? name = .ok .stub := hends
    simp [hfind]
  | started toolkit =>
    obtain ⟨factory, hfind, hgiven, hready⟩ := hends
    simp [hfind, hgiven, hready]
  | failed cause =>
    cases hends with
    | unknown hmissing => simp [find?_eq_error_iff.mpr ⟨rfl, hmissing⟩]
    | refused factory hfind hgiven => simp [hfind, hgiven]
    | unready factory toolkit hfind hgiven hready => simp [hfind, hgiven, hready]
  | crashed value =>
    cases hends with
    | factory factory hfind hgiven => simp [hfind, hgiven]
    | nothing factory hfind hgiven => simp [hfind, hgiven]
    | init factory toolkit hfind hgiven hready => simp [hfind, hgiven, hready]

theorem exists_ends (directory : Directory) (name : Raw) (earlier : Nat)
    (args : List String) : ∃ ending, directory.Ends name earlier args ending := by
  cases hfind : directory.find? name with
  | error cause => exact ⟨.failed _, .unknown (find?_eq_error_iff.mp hfind).2⟩
  | ok maker =>
    cases maker with
    | stub => exact ⟨.stub, hfind⟩
    | linked factory =>
      cases hgiven : factory earlier with
      | panicked value => exact ⟨.crashed value, Crashes.factory factory hfind hgiven⟩
      | returned given =>
        cases given with
        | error cause => exact ⟨.failed cause, Fails.refused factory hfind hgiven⟩
        | ok target =>
          cases target with
          | none => exact ⟨.crashed _, Crashes.nothing factory hfind hgiven⟩
          | some toolkit =>
            cases hready : (toolkit.respond [] (.init args) : Outcome (Option Cause)) with
            | panicked value =>
              exact ⟨.crashed value, Crashes.init factory toolkit hfind hgiven hready⟩
            | returned answer =>
              cases answer with
              | none => exact ⟨.started toolkit, factory, hfind, hgiven, hready⟩
              | some cause =>
                exact ⟨.failed cause, Fails.unready factory toolkit hfind hgiven hready⟩

theorem trial_eq_iff (hname : ¬ (name = "" ∨ name = Stub.name)) {ending : Ending} :
    (directory.trial name earlier args).2 = ending ↔ directory.Ends name earlier args ending := by
  refine ⟨?_, trial_of_ends hname⟩
  rintro rfl
  obtain ⟨ending, hends⟩ := directory.exists_ends name earlier args
  rwa [trial_of_ends hname hends]

/-! ### What is linked in -/

/-- The stub stands under its own name only, and the factories are of some kind. -/
def Holds (directory : Directory) (kind : Factory → Prop) : Prop :=
  ∀ entry ∈ directory.entries, match entry.2 with
    | .stub => entry.1 = Stub.name
    | .linked factory => kind factory

variable {kind : Factory → Prop}

theorem holds_standard (kind : Factory → Prop) : standard.Holds kind := by
  simp [Holds, standard, Stub.name]

theorem mem_insert {name : Raw} {maker : Maker} {entries : List (Raw × Maker)}
    {entry : Raw × Maker} (h : entry ∈ insert name maker entries) :
    entry = (name, maker) ∨ entry ∈ entries := by
  induction entries with
  | nil => exact .inl (List.mem_singleton.mp h)
  | cons first rest ih =>
    unfold insert at h
    split at h
    · exact List.mem_cons.mp h
    · split at h
      · exact (List.mem_cons.mp h).imp_right (List.mem_cons_of_mem _)
      · rcases List.mem_cons.mp h with rfl | hrest
        · exact .inr List.mem_cons_self
        · exact (ih hrest).imp_right (List.mem_cons_of_mem _)

theorem Holds.links (h : directory.Holds kind) {step : Facade.Step}
    (hkind : ∀ name factory, step = .register name (some factory) → kind factory) :
    (step.links directory).Holds kind := by
  cases step with
  | register name factory =>
    cases factory with
    | none => exact h
    | some factory =>
      change (directory.register name (some (.linked factory))).Holds kind
      unfold register
      dsimp only
      split
      · exact h
      · intro entry hentry
        rcases mem_insert hentry with rfl | hold
        · exact hkind name factory rfl
        · exact h entry hold
  | unregister name => exact fun entry hentry => h entry (List.mem_filter.mp hentry).1
  | _ => exact h

theorem Holds.foldl_links (h : directory.Holds kind) {steps : List Facade.Step}
    (hkind : ∀ name factory, .register name (some factory) ∈ steps → kind factory) :
    (steps.foldl Facade.Step.links directory).Holds kind := by
  induction steps generalizing directory with
  | nil => exact h
  | cons step rest ih =>
    refine ih (h.links fun name factory hstep => ?_) fun name factory hmem => ?_
    · exact hkind name factory (hstep ▸ List.mem_cons_self)
    · exact hkind name factory (List.mem_cons_of_mem _ hmem)

theorem Holds.find? (h : directory.Holds kind) (hname : name ≠ Stub.name) {maker : Maker}
    (hfind : directory.find? name = .ok maker) :
    ∃ factory, maker = .linked factory ∧ kind factory := by
  unfold Directory.find? at hfind
  cases hentry : directory.entries.find? fun entry => name = entry.1 with
  | none => simp [hentry] at hfind
  | some entry =>
    obtain rfl : entry.2 = maker := by simpa [hentry] using hfind
    have hkept := h entry (List.mem_of_find?_eq_some hentry)
    have hlisted : name = entry.1 := by simpa using List.find?_some hentry
    cases hmaker : entry.2 with
    | stub =>
      rw [hmaker] at hkept
      exact absurd (hkept ▸ hlisted) hname
    | linked factory =>
      rw [hmaker] at hkept
      exact ⟨factory, rfl, hkept⟩

theorem Holds.not_crashes (h : directory.Holds Factory.Steady) (hname : name ≠ Stub.name)
    (value : PanicValue) : ¬ directory.Crashes name earlier args value := by
  have hsteady {factory : Factory} (hfind : directory.find? name = .ok (.linked factory)) :
      factory.Steady := by
    obtain ⟨_, hmaker, hsteady⟩ := h.find? hname hfind
    exact Maker.linked.inj hmaker ▸ hsteady
  intro hcrashes
  cases hcrashes with
  | factory factory hfind hgiven => simpa [hgiven] using hsteady hfind earlier
  | nothing factory hfind hgiven => simpa [hgiven] using hsteady hfind earlier
  | init factory toolkit hfind hgiven hready =>
    have hready' : ∀ args, ∃ answer, toolkit.respond [] (.init args) = .returned answer := by
      simpa [hgiven] using hsteady hfind earlier
    obtain ⟨answer, hanswer⟩ := hready' args
    simp [hready] at hanswer

theorem Holds.trial_ne_crashed (h : directory.Holds Factory.Steady) (hempty : name ≠ "")
    (value : PanicValue) : (directory.trial name earlier args).2 ≠ .crashed value := by
  intro hcrash
  by_cases hstub : name = Stub.name
  · simp [trial, hstub] at hcrash
  · exact h.not_crashes hstub value ((trial_eq_iff (by simp [hempty, hstub])).mp hcrash)

end Directory

end Backend

/-! ### What a choice leaves -/

def Notice.isStartWarning : Notice → Bool
  | .error report => report.area = .init && report.warning
  | .panic _ => false

theorem Notice.filter_isStartWarning_map {reports : List Report}
    (h : ∀ report ∈ reports, report.area ≠ .init) :
    (reports.map Notice.error).filter isStartWarning = [] := by
  simpa [isStartWarning] using fun report hreport harea => absurd harea (h report hreport)

namespace Facade

def Active.choice : Active → Option (Option Toolkit)
  | .unset => none
  | .stub _ => some none
  | .toolkit serving _ => some (some serving)

@[simp] theorem Active.choice_eq_none_iff {active : Active} :
    active.choice = none ↔ active = .unset := by
  cases active <;> simp [choice]

@[simp] theorem Step.choice_act (config : Config) (step : Step) (active : Active) :
    (step.act config active).choice = active.choice := by
  cases active <;> rfl

def Contact.isStart : Contact → Bool
  | .factory | .call (.init _) => true
  | .call _ => false

def Contact.isInit : Contact → Bool
  | .call (.init _) => true
  | _ => false

theorem Step.call?_ne_init (config : Config) (step : Step) (args : List String) :
    step.call? config ≠ some (.init args) := by
  cases step with
  | setParent child parent => by_cases hnull : child = 0 <;> simp [call?, hnull]
  | setTitle handle title => by_cases hnull : handle = 0 <;> simp [call?, hnull]
  | _ => simp [call?]

theorem Step.filter_isStart_call (config : Config) (step : Step) :
    ((step.call? config).map Contact.call).toList.filter Contact.isStart = [] := by
  cases hcall : step.call? config with
  | none => rfl
  | some call =>
    cases call with
    | init args => exact absurd hcall (step.call?_ne_init config args)
    | _ => rfl

/-- Between two facades the choice stays, nothing is started, and none of the notices says so. -/
structure KeepsChoice (facade later : Facade) (notices : List Notice) : Prop where
  choice : later.active.choice = facade.active.choice
  starts : later.contacts.filter Contact.isStart = facade.contacts.filter Contact.isStart
  quiet : notices.filter Notice.isStartWarning = []

variable {facade : Facade}

theorem keepsChoice_perform (hset : facade.active ≠ .unset) (step : Step) :
    facade.KeepsChoice (facade.perform step).2.1 (facade.perform step).2.2 := by
  have hchoice : (facade.perform step).2.1.active.choice = facade.active.choice := by
    rw [active_perform hset, Step.choice_act]
  cases hactive : facade.active with
  | unset => contradiction
  | stub stub =>
    obtain ⟨answer, reports, hperform, harea⟩ := perform_stub hactive step
    refine ⟨hchoice, by rw [hperform], ?_⟩
    rw [hperform]
    exact Notice.filter_isStartWarning_map harea
  | toolkit toolkit received =>
    obtain ⟨hlater, hanswer⟩ := perform_toolkit hactive step
    refine ⟨hchoice, ?_, ?_⟩
    · rw [hlater, List.filter_append, Step.filter_isStart_call, List.append_nil]
    · split at hanswer
      · rw [hanswer.2]
        rfl
      · obtain ⟨-, op, -, hnotices⟩ := hanswer
        rw [hnotices]
        rfl

theorem KeepsChoice.trans {first second third : Facade} {before after : List Notice}
    (h : first.KeepsChoice second before) (h' : second.KeepsChoice third after) :
    first.KeepsChoice third (before ++ after) where
  choice := h'.choice.trans h.choice
  starts := h'.starts.trans h.starts
  quiet := by rw [List.filter_append, h.quiet, h'.quiet, List.append_nil]

theorem keepsChoice_after (hset : facade.active ≠ .unset) (steps : List Step) :
    facade.KeepsChoice (facade.after steps) (facade.told steps) := by
  induction steps generalizing facade with
  | nil => exact ⟨rfl, rfl, rfl⟩
  | cons step rest ih =>
    exact (keepsChoice_perform hset step).trans (ih (active_perform_ne_unset hset step))

def warnings (facade : Facade) : Ending → List Notice
  | .failed cause => [facade.warning cause]
  | _ => []

/-- What the start of the configured backend comes to: which backend serves, with which warnings. -/
inductive Settled (facade : Facade) (args : List String) (choice : Option (Option Toolkit))
    (warned : List Notice) : Prop
  | stub (configured : facade.config.backend = Stub.name) (serves : choice = some none)
      (quiet : warned = [])
  | started (toolkit : Toolkit) (configured : facade.config.backend ≠ Stub.name)
      (starts : facade.directory.Starts facade.config.backend facade.factoryCount args toolkit)
      (serves : choice = some (some toolkit)) (quiet : warned = [])
  | fallback (cause : Cause) (configured : facade.config.backend ≠ Stub.name)
      (never : ∀ toolkit,
        ¬ facade.directory.Starts facade.config.backend facade.factoryCount args toolkit)
      (why : ∀ other, facade.directory.Fails facade.config.backend facade.factoryCount args other ↔
        other = cause)
      (serves : choice = some none) (warns : warned = [facade.warning cause])

theorem settled {kind : Factory → Prop} {args : List String} (hlinked : facade.directory.Holds kind)
    (hempty : facade.config.backend ≠ "")
    (hready : ∀ value, (facade.trial args).2 ≠ .crashed value) :
    facade.Settled args (facade.trial args).2.choice (facade.warnings (facade.trial args).2) := by
  by_cases hstub : facade.config.backend = Stub.name
  · have htrial : (facade.trial args).2 = .stub := by simp [trial, Directory.trial, hstub]
    rw [htrial]
    exact .stub hstub rfl rfl
  · have hends (other : Ending) : (facade.trial args).2 = other ↔
        facade.directory.Ends facade.config.backend facade.factoryCount args other :=
      Directory.trial_eq_iff (by simp [hempty, hstub])
    cases hending : (facade.trial args).2 with
    | stub =>
      -- The stub is linked in under its own name only.
      obtain ⟨factory, hmaker, -⟩ := hlinked.find? hstub ((hends .stub).mp hending)
      contradiction
    | started toolkit => exact .started toolkit hstub ((hends _).mp hending) rfl rfl
    | failed cause =>
      refine .fallback cause hstub (fun toolkit hstarts => ?_) (fun other => ?_) rfl rfl
      · have hother := (hends (.started toolkit)).mpr hstarts
        simp [hending] at hother
      · have hother := hends (.failed other)
        rw [hending, Ending.failed.injEq] at hother
        exact hother.symm.trans eq_comm
    | crashed value => exact absurd hending (hready value)

theorem choice_chosen (facade : Facade) (args : List String) (ending : Ending) :
    (facade.chosen args ending).choice = ending.choice := by
  cases ending <;> rfl

theorem filter_choiceNotices (facade : Facade) (args : List String) (ending : Ending) :
    (facade.choiceNotices args ending).filter Notice.isStartWarning = facade.warnings ending := by
  have hinit := Notice.filter_isStartWarning_map (facade.newStub.area_init args)
  cases ending with
  | stub => exact hinit
  | started toolkit => rfl
  | failed cause =>
    change (facade.warning cause :: _).filter Notice.isStartWarning = [facade.warning cause]
    rw [List.filter_cons_of_pos rfl, hinit]
  | crashed value => rfl

theorem stub_of_readied {args : List String} {stub : Stub}
    (hactive : (facade.readied args).active = .stub stub) :
    stub = (facade.newStub.init args).1 := by
  change facade.chosen args (facade.trial args).2 = .stub stub at hactive
  cases hending : (facade.trial args).2 with
  | stub | failed =>
    rw [hending] at hactive
    exact (Active.stub.inj hactive).symm
  | started | crashed =>
    rw [hending] at hactive
    contradiction

theorem choice_of_readied {first : Step} (hunset : facade.active = .unset)
    (hreaches : first.reaches) (hready : ∀ value, (facade.trial first.args).2 ≠ .crashed value)
    (later : List Step) :
    let final := facade.after (first :: later)
    let ending := (facade.trial first.args).2
    final.active.choice = ending.choice ∧
      final.contacts.filter Contact.isStart =
        (facade.contacts ++ (facade.trial first.args).1).filter Contact.isStart ∧
      (facade.told (first :: later)).filter Notice.isStartWarning = facade.warnings ending := by
  intro final ending
  obtain ⟨hafter, htold⟩ := after_of_readied hunset hreaches hready later
  have hkept := keepsChoice_after (readied_ne_unset hready) (first :: later)
  rw [← hafter] at hkept
  refine ⟨hkept.choice.trans (facade.choice_chosen first.args ending), hkept.starts, ?_⟩
  rw [htold, List.filter_append, hkept.quiet, List.append_nil]
  exact facade.filter_choiceNotices first.args ending

end Facade

/-! ### The first record -/

namespace Trace

theorem Sink.emitAll_concat (sink : Sink) (records : List Record) (record : Record) :
    (sink.emitAll (records ++ [record])).1 = ((sink.emitAll records).1.emit record).1 :=
  sink.emitAll_append records [record]

end Trace

/-- Every sink has received `first` and then records that are not of its operation. -/
def Tracing.Opens (sinks : List Sink) (first : Record) (tracing : Tracing) : Prop :=
  ∃ tracer rest, tracing = some tracer ∧
    tracer.sinks = sinks.map (fun sink => (sink.emitAll (first :: rest)).1) ∧
    ∀ record ∈ rest, record.op ≠ first.op

namespace Tracing.Opens

variable {sinks : List Sink} {first : Record} {tracing : Tracing}

theorem start (tracer : Tracer) (henabled : tracer.enabled) (record : Record) :
    Tracing.Opens tracer.sinks (tracer.stamp record) (some (tracer.emit record).1) := by
  refine ⟨_, [], rfl, ?_, by simp⟩
  simp [Tracer.emit, henabled, Sink.emitAll]

theorem emit (h : tracing.Opens sinks first) {record : Record} (hop : record.op ≠ first.op) :
    (tracing.emit fun tracer => tracer.emit record).1.Opens sinks first := by
  obtain ⟨tracer, rest, rfl, hsinks, hrest⟩ := h
  by_cases henabled : tracer.enabled
  · refine ⟨(tracer.emit record).1, rest ++ [tracer.stamp record], rfl, ?_, fun other hother => ?_⟩
    · have hmore (sink : Sink) := sink.emitAll_concat (first :: rest) (tracer.stamp record)
      rw [List.cons_append] at hmore
      simp [Tracer.emit, henabled, hsinks, hmore]
    · rcases List.mem_append.mp hother with hold | hnew
      · exact hrest other hold
      · rw [List.mem_singleton.mp hnew]
        exact hop
  · refine ⟨tracer, rest, ?_, hsinks, hrest⟩
    simp [Tracing.emit, Tracer.emit, henabled]

theorem message (h : tracing.Opens sinks first) {op : Raw} (hop : op ≠ first.op)
    (text : Raw) : (tracing.message op text).1.Opens sinks first :=
  h.emit hop

theorem widget (h : tracing.Opens sinks first) {op : Raw} (hop : op ≠ first.op)
    (widget : Option Widget) : (tracing.widget op widget).1.Opens sinks first := by
  cases widget with
  | none => rwa [Tracing.widget_none]
  | some widget => exact h.emit hop

theorem setEnabled (h : tracing.Opens sinks first) (on : Bool) :
    Opens sinks first (tracing.map (·.setEnabled on)) := by
  obtain ⟨tracer, rest, rfl, hkept⟩ := h
  exact ⟨tracer.setEnabled on, rest, rfl, hkept⟩

end Tracing.Opens

namespace Stub

variable {sinks : List Sink} {first : Record} {stub : Stub}

theorem opens_finishMain (h : stub.tracing.Opens sinks first) (hfirst : first.op = "init") :
    stub.finishMain.1.tracing.Opens sinks first := by
  unfold finishMain
  split
  · exact h.message (by simp [hfirst]) _
  · exact h

theorem opens_obey (h : stub.tracing.Opens sinks first) (hfirst : first.op = "init") {call : Call}
    (hcall : ∀ args, call ≠ .init args) : (stub.obey call).tracing.Opens sinks first := by
  cases call with
  | init args => exact absurd rfl (hcall args)
  | windowNew title width height => exact h.widget (by simp [hfirst]) _
  | buttonNew label => exact h.widget (by simp [hfirst]) _
  | setParent child parent =>
    change (stub.setParent child parent).1.tracing.Opens sinks first
    rw [setParent_eq]
    split
    · exact h.widget (by simp [hfirst]) _
    · exact h
  | display handle =>
    change (stub.display handle).1.tracing.Opens sinks first
    unfold display
    split
    · exact h.message (by simp [hfirst]) _
    · exact h.widget (by simp [hfirst]) _
  | setTitle handle title => exact h.widget (by simp [hfirst]) _
  | main =>
    change stub.startMain.2.1.tracing.Opens sinks first
    unfold startMain
    split
    · exact h.message (by simp [hfirst]) _
    · exact (opens_finishMain h hfirst).message (by simp [hfirst]) _
  | mainQuit =>
    change stub.mainQuit.1.tracing.Opens sinks first
    unfold mainQuit
    split <;> exact h.message (by simp [hfirst]) _

end Stub

namespace Facade

variable {sinks : List Sink} {first : Record}

theorem Step.opens_onStub {stub : Stub} (h : stub.tracing.Opens sinks first)
    (hfirst : first.op = "init") (config : Config) (step : Step) :
    (step.onStub config stub).tracing.Opens sinks first := by
  have hcalled : (((step.call? config).map stub.obey).getD stub).tracing.Opens sinks first := by
    cases hcall : step.call? config with
    | none => exact h
    | some call =>
      refine Stub.opens_obey h hfirst fun args hinit => step.call?_ne_init config args ?_
      rw [hcall, hinit]
  cases step with
  | setVerbose on => exact h.setEnabled on
  | mainReturn => exact Stub.opens_finishMain h hfirst
  | _ => exact hcalled

theorem Step.opens_foldl {stub : Stub} (h : stub.tracing.Opens sinks first)
    (hfirst : first.op = "init") (config : Config) (steps : List Step) :
    (steps.foldl (Step.onStub config) stub).tracing.Opens sinks first := by
  induction steps generalizing stub with
  | nil => exact h
  | cons step rest ih => exact ih (Step.opens_onStub h hfirst config step)

def stubSinks (facade : Facade) : List Sink := (facade.newStub.tracing.map (·.sinks)).getD []

def startRecord (facade : Facade) (args : List String) : Record :=
  { seq := 1, time := facade.clock, op := "init"
    message := "console mode, no real GUI (" ++ Text.natText args.length ++ " args)" }

theorem opens_newStub {facade : Facade} (hverbose : facade.config.verboseEnabled)
    (args : List String) :
    (facade.newStub.init args).1.tracing.Opens facade.stubSinks (facade.startRecord args) := by
  let tracer : Tracer :=
    { enabled := facade.config.verboseEnabled, clock := facade.clock, sinks := facade.stubSinks }
  exact Tracing.Opens.start tracer hverbose _

theorem opens_of_readied {facade : Facade} {first : Step} (hunset : facade.active = .unset)
    (hreaches : first.reaches) (hready : ∀ value, (facade.trial first.args).2 ≠ .crashed value)
    (hverbose : facade.config.verboseEnabled) (later : List Step) {stub : Stub}
    (hserving : (facade.after (first :: later)).active = .stub stub) :
    stub.tracing.Opens facade.stubSinks (facade.startRecord first.args) := by
  rw [(after_of_readied hunset hreaches hready later).1] at hserving
  cases hchosen : (facade.readied first.args).active with
  | unset => exact absurd hchosen (readied_ne_unset hready)
  | toolkit toolkit received =>
    have hkept := (keepsChoice_after (readied_ne_unset hready) (first :: later)).choice
    simp only [hserving, hchosen, Active.choice, Option.some.injEq, reduceCtorEq] at hkept
  | stub served =>
    rw [after_stub hchosen] at hserving
    obtain rfl := Active.stub.inj hserving
    rw [stub_of_readied hchosen]
    exact Step.opens_foldl (opens_newStub hverbose first.args) rfl _ _

/-! ### The whole run -/

theorem backend_new_ne_empty (config : Option Config) : (new config).config.backend ≠ "" := by
  change (if (config.getD .builtIn).backend.isBlank then _ else _) ≠ _
  split
  · decide +kernel
  · rename_i hblank
    intro hempty
    exact hblank (hempty ▸ by decide +kernel)

theorem counts_of_starts {contacts others : List Contact}
    (h : contacts.filter Contact.isStart = others.filter Contact.isStart) :
    contacts.count .factory = others.count .factory ∧
      contacts.countP Contact.isInit = others.countP Contact.isInit := by
  have hcount (list : List Contact) :
      (list.filter Contact.isStart).count .factory = list.count .factory :=
    List.count_filter rfl
  have hcountP (list : List Contact) :
      (list.filter Contact.isStart).countP Contact.isInit = list.countP Contact.isInit := by
    rw [List.countP_filter]
    congr
    funext contact
    cases contact with
    | factory => rfl
    | call call => cases call <;> rfl
  rw [← hcount contacts, ← hcount others, ← hcountP contacts, ← hcountP others, h]
  exact ⟨rfl, rfl⟩

/-- How often foreign code may be asked to start a backend of some name. -/
def startLimit (name : Raw) : Nat := if name = Stub.name then 0 else 1

theorem trial_within_limit (directory : Directory) (name : Raw) (earlier : Nat)
    (args : List String) :
    (directory.trial name earlier args).1.count .factory ≤ startLimit name ∧
      (directory.trial name earlier args).1.countP Contact.isInit ≤ startLimit name := by
  by_cases hstub : name = Stub.name
  · simp [Directory.trial, hstub]
  · have hpart : (directory.trial name earlier args).1.Sublist [.factory, .call (.init args)] := by
      unfold Directory.trial
      split
      · simp
      · repeat' split
        all_goals simp
    rw [startLimit, if_neg hstub]
    exact ⟨hpart.count_le _, hpart.countP_le⟩

theorem choice_of_steady {start : Facade} {before : List Step} {first : Step}
    (hunset : start.active = .unset) (hempty : start.config.backend ≠ "")
    (hsteady : (before.foldl Step.links start.directory).Holds Factory.Steady)
    (hidle : ∀ step ∈ before, step.reaches = false) (hreaches : first.reaches)
    (later : List Step) :
    let linked := before.foldl Step.links start.directory
    let tried := linked.trial start.config.backend start.factoryCount first.args
    let steps := before ++ first :: later
    (start.after steps).active.choice = tried.2.choice ∧
      (start.after steps).contacts.filter Contact.isStart =
        (start.contacts ++ tried.1).filter Contact.isStart ∧
      (start.told steps).filter Notice.isStartWarning = start.warnings tried.2 ∧
      ∀ stub, (start.after steps).active = .stub stub → start.config.verboseEnabled →
        stub.tracing.Opens start.stubSinks (start.startRecord first.args) := by
  intro linked tried steps
  let now : Facade := { start with directory := linked }
  obtain ⟨hafter, htold⟩ := run_of_idle hunset hidle (first :: later)
  have hready : ∀ value, (now.trial first.args).2 ≠ .crashed value :=
    hsteady.trial_ne_crashed hempty
  obtain ⟨hchoice, hstarts, hwarned⟩ :=
    choice_of_readied (show now.active = .unset from hunset) hreaches hready later
  rw [hafter, htold]
  refine ⟨hchoice, hstarts, hwarned, fun stub hserving hverbose => ?_⟩
  exact opens_of_readied (show now.active = .unset from hunset) hreaches hready hverbose later
    hserving

/-- However a run with steady factories goes on, the backend is chosen by the first step that needs
one, from what is linked in by then. -/
theorem backend_chosen_once (config : Option Config) (output : Writer) (extra : Option Sink)
    (clock : Time.Instant) (steps : List Step)
    (hsteady : ∀ name factory, .register name (some factory) ∈ steps → Factory.Steady factory) :
    let start : Facade := { Facade.new config with output, extra, clock }
    let name := start.config.backend
    let final := start.after steps
    let warned := (start.told steps).filter Notice.isStartWarning
    (final.contacts.count .factory ≤ startLimit name ∧
      final.contacts.countP Contact.isInit ≤ startLimit name) ∧
    ((∀ step ∈ steps, step.reaches = false) → final.active = .unset ∧ warned = []) ∧
    ∀ before first later, steps = before ++ first :: later →
      (∀ step ∈ before, step.reaches = false) → first.reaches →
      let now := { start with directory := before.foldl Step.links .standard }
      now.Settled first.args final.active.choice warned ∧
      (∀ soon rest, later = soon ++ rest →
        let chosen := (start.after (before ++ first :: soon)).active
        chosen.choice = final.active.choice ∧
          final.active = rest.foldl (fun active step => step.act start.config active) chosen) ∧
      ∀ stub, final.active = .stub stub → start.config.verboseEnabled →
        stub.tracing.Opens start.stubSinks (start.startRecord first.args) := by
  intro start name final warned
  have hempty : name ≠ "" := backend_new_ne_empty config
  have hlinked {before later : List Step} {first : Step}
      (hsteps : steps = before ++ first :: later) :
      (before.foldl Step.links Directory.standard).Holds Factory.Steady := by
    refine (Directory.holds_standard _).foldl_links fun name factory hmem => ?_
    exact hsteady name factory (hsteps ▸ List.mem_append_left _ hmem)
  have hnone (hidle : ∀ step ∈ steps, step.reaches = false) :
      final.active = .unset ∧ final.contacts = [] ∧ warned = [] := by
    obtain ⟨hafter, htold⟩ := run_of_idle (show start.active = .unset from rfl) hidle []
    rw [List.append_nil] at hafter htold
    simp only [final, warned, hafter, htold]
    exact ⟨rfl, rfl, rfl⟩
  refine ⟨?_, fun hidle => ⟨(hnone hidle).1, (hnone hidle).2.2⟩, ?_⟩
  · -- The limits hold without a given split: the run is cut where it first needs a backend.
    cases hfind : steps.find? Step.reaches with
    | none =>
      rw [(hnone (by simpa using hfind)).2.1]
      simp
    | some first =>
      obtain ⟨hreaches, before, later, hsteps, hidle⟩ := List.find?_eq_some_iff_append.mp hfind
      obtain ⟨-, hstarts, -⟩ := choice_of_steady (show start.active = .unset from rfl) hempty
        (hlinked hsteps) (by simpa using hidle) hreaches later
      rw [← hsteps] at hstarts
      obtain ⟨hfactory, hinit⟩ := counts_of_starts hstarts
      rw [hfactory, hinit]
      exact trial_within_limit _ _ _ _
  · intro before first later hsteps hidle hreaches now
    have hrun (soon : List Step) := choice_of_steady (show start.active = .unset from rfl) hempty
      (hlinked hsteps) hidle hreaches soon
    obtain ⟨hchoice, -, hwarned, hopens⟩ := hrun later
    rw [← hsteps] at hchoice hwarned hopens
    have hready : ∀ value, (now.trial first.args).2 ≠ .crashed value :=
      (hlinked hsteps).trial_ne_crashed hempty
    refine ⟨?_, ?_, hopens⟩
    · rw [show final.active.choice = _ from hchoice, show warned = _ from hwarned]
      exact settled (show now.directory.Holds _ from hlinked hsteps) hempty hready
    · intro soon rest hlater chosen
      have hset : chosen ≠ .unset := by
        rw [Ne, ← Active.choice_eq_none_iff, show chosen.choice = _ from (hrun soon).1]
        exact Ending.choice_ne_none hready
      refine ⟨(hrun soon).1.trans hchoice.symm, ?_⟩
      change (start.after steps).active = _
      rw [hsteps, hlater, ← List.cons_append, ← List.append_assoc, after_append,
        active_after hset, (start.frame_after _).1]

theorem backend_chosen_once_unready :
    let broken : Script := { reported := "qt", initError := some "no display" }
    let working : Script := { reported := "qt" }
    let before : List Step := [.register "qt" (some broken.factory), .setTitle 0 "early"]
    let later : List Step :=
      [.unregister "qt", .register "qt" (some working.factory), .init ["a"], .setVerbose false]
    let steps := before ++ .windowNew "w" 3 4 :: later
    let start : Facade := { Facade.new (some { backend := "qt" }) with extra := some (.memory {}) }
    (∀ name factory, .register name (some factory) ∈ steps → Factory.Steady factory) ∧
      (start.after steps).active.choice = some none ∧
      (start.after steps).contacts = [.factory, .call (.init [])] ∧
      (start.told steps).filter Notice.isStartWarning = [start.warning (.text "no display")] := by
  intro broken working before later steps start
  have hsteady :
      ∀ name factory, .register name (some factory) ∈ steps → Factory.Steady factory := by
    have hbroken : broken.factory.Steady := Script.steady_factory rfl rfl
    have hworking : working.factory.Steady := Script.steady_factory rfl rfl
    intro name factory hmem
    have hone : name = "qt" ∧ factory = broken.factory ∨
        name = "qt" ∧ factory = working.factory := by
      simpa [steps, before, later] using hmem
    rcases hone with ⟨-, rfl⟩ | ⟨-, rfl⟩
    · exact hbroken
    · exact hworking
  obtain ⟨-, -, hrun⟩ := backend_chosen_once (some { backend := "qt" }) {} (some (.memory {}))
    fakeClockStart steps hsteady
  obtain ⟨hchosen, -⟩ := hrun before (.windowNew "w" 3 4) later rfl (by decide) rfl
  refine ⟨hsteady, ?_⟩
  let linked := before.foldl Step.links Directory.standard
  have hfails : linked.Fails (.text "qt") 0 [] (.text "no display") :=
    .unready broken.factory broken.toolkit rfl rfl rfl
  cases hchosen with
  | stub hstub => exact absurd hstub (by decide)
  | started toolkit _ hstarts =>
    obtain ⟨factory, hfind, hgiven, hready⟩ := hstarts
    cases hfind
    cases hgiven
    cases hready
  | fallback cause _ _ hcause hchoice hwarned =>
    obtain rfl := (hcause (.text "no display")).mp hfails
    exact ⟨hchoice, rfl, hwarned⟩

end Facade

end HeadlessDesktop
