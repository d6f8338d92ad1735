import HeadlessDesktop.Proofs.BackendSelection

/-! Panics of foreign code behind a facade. The methods that catch panics always come back, with
one report for a panic and none otherwise. What they cannot mend is a start that crashes: no
backend is in service afterwards, not even the stub, and a method that does not catch panics lets
this one through. -/
namespace HeadlessDesktop

open Report Backend
open Text (Raw)

namespace Facade

/-! ### Where a panic strikes -/

def StartCrashes (facade : Facade) (args : List String) (value : PanicValue) : Prop :=
  facade.config.backend ≠ "" ∧ facade.config.backend ≠ Stub.name ∧
    facade.directory.Crashes facade.config.backend facade.factoryCount args value

def serving (facade : Facade) (step : Step) : Active :=
  match facade.active with
  | .unset => if step.reaches then (facade.readied step.args).active else .unset
  | active => active

/-- Foreign code panics during a step: in the start of a backend, or in a call of a toolkit. -/
inductive Struck (facade : Facade) (step : Step) (value : PanicValue) : Prop
  | start (unset : facade.active = .unset) (reaches : step.reaches)
      (crashes : facade.StartCrashes step.args value)
  | call {toolkit : Toolkit} {received : List Call} {call : Call}
      (serving : facade.serving step = .toolkit toolkit received)
      (called : step.call? facade.config = some call)
      (panicked : toolkit.respond received call = .panicked value)

variable {facade : Facade} {step : Step} {value : PanicValue}

theorem trial_crashed_iff {args : List String} :
    (facade.trial args).2 = .crashed value ↔ facade.StartCrashes args value := by
  by_cases hname : facade.config.backend = "" ∨ facade.config.backend = Stub.name
  · have htrial : (facade.trial args).2 = .stub := by simp [trial, Directory.trial, hname]
    rw [htrial]
    simp only [reduceCtorEq, StartCrashes, false_iff, not_and]
    exact fun hempty hstub => absurd hname (by simp [hempty, hstub])
  · have hends : (facade.trial args).2 = .crashed value ↔ _ := Directory.trial_eq_iff hname
    rw [not_or] at hname
    simpa [StartCrashes, hname, Directory.Ends] using hends

theorem serving_of_set (hset : facade.active ≠ .unset) : facade.serving step = facade.active := by
  unfold serving
  split
  · contradiction
  · rfl

theorem serving_of_idle (hunset : facade.active = .unset) (hidle : step.reaches = false) :
    facade.serving step = .unset := by
  simp [serving, hunset, hidle]

theorem serving_of_reaches (hunset : facade.active = .unset) (hreaches : step.reaches) :
    facade.serving step = (facade.readied step.args).active := by
  simp [serving, hunset, hreaches]

theorem active_readied_of_crash {args : List String}
    (hcrash : (facade.trial args).2 = .crashed value) : (facade.readied args).active = .unset := by
  simp [readied, chosen, hcrash]

theorem choice_perform (facade : Facade) (step : Step) :
    (facade.perform step).2.1.active.choice = (facade.serving step).choice := by
  rcases facade.situation step with
    hset | ⟨hunset, hidle | ⟨hreaches, ⟨value, hcrash⟩ | hready⟩⟩
  · rw [serving_of_set hset]
    exact (keepsChoice_perform hset step).choice
  · rw [serving_of_idle hunset hidle, (perform_of_idle hunset hidle).2]
    simp [hunset]
  · rw [serving_of_reaches hunset hreaches, perform_of_crash hunset hreaches hcrash,
      Step.guarded_later]
  · rw [serving_of_reaches hunset hreaches, perform_of_readied hunset hreaches hready]
    exact (keepsChoice_perform (readied_ne_unset hready) step).choice

theorem active_perform_ne_unset_iff (facade : Facade) (step : Step) :
    (facade.perform step).2.1.active ≠ .unset ↔ facade.active ≠ .unset ∨
      step.reaches ∧ ∀ value, ¬ facade.StartCrashes step.args value := by
  simp only [Ne, ← Active.choice_eq_none_iff, choice_perform, ← trial_crashed_iff]
  rw [Active.choice_eq_none_iff, Active.choice_eq_none_iff]
  rcases facade.situation step with
    hset | ⟨hunset, hidle | ⟨hreaches, ⟨value, hcrash⟩ | hready⟩⟩
  · simp [serving_of_set hset, hset]
  · simp [serving_of_idle hunset hidle, hunset, hidle]
  · simp [serving_of_reaches hunset hreaches, active_readied_of_crash hcrash, hunset, hcrash]
  · simp [serving_of_reaches hunset hreaches, readied_ne_unset hready, hreaches, hready]

/-! ### What comes of a panic -/

theorem filter_isPanic_map (reports : List Report) :
    (reports.map Notice.error).filter Notice.isPanic = [] := by
  simp [Notice.isPanic]

theorem filter_isPanic_choiceNotices (facade : Facade) (args : List String) (ending : Ending) :
    (facade.choiceNotices args ending).filter Notice.isPanic = [] := by
  cases ending with
  | stub => exact filter_isPanic_map _
  | failed cause => exact filter_isPanic_map (_ :: _)
  | started | crashed => rfl

theorem struck_iff_of_set (hset : facade.active ≠ .unset) :
    facade.Struck step value ↔ ∃ toolkit received, facade.active = .toolkit toolkit received ∧
      step.crash? facade.config toolkit received = some value := by
  constructor
  · intro hstruck
    cases hstruck with
    | start hunset => contradiction
    | call hserving hcall hpanicked =>
      rw [serving_of_set hset] at hserving
      exact ⟨_, _, hserving, by simp [Step.crash?, hcall, hpanicked, Outcome.crash?]⟩
  · rintro ⟨toolkit, received, hactive, hcrash⟩
    obtain ⟨call, hcall, hrespond⟩ := Option.bind_eq_some_iff.mp hcrash
    refine .call ((serving_of_set hset).trans hactive) hcall ?_
    cases hanswer : toolkit.respond received call with
    | returned answer => simp [hanswer, Outcome.crash?] at hrespond
    | panicked other => simpa [hanswer, Outcome.crash?] using hrespond

theorem struck_readied_iff (hunset : facade.active = .unset) (hreaches : step.reaches)
    (hready : ∀ value, (facade.trial step.args).2 ≠ .crashed value) :
    (facade.readied step.args).Struck step value ↔ facade.Struck step value := by
  have hset := readied_ne_unset hready
  have hserving : (facade.readied step.args).serving step = facade.serving step := by
    rw [serving_of_set hset, serving_of_reaches hunset hreaches]
  constructor
  · intro hstruck
    cases hstruck with
    | start hunset => contradiction
    | call hbackend hcall hpanicked => exact .call (hserving ▸ hbackend) hcall hpanicked
  · intro hstruck
    cases hstruck with
    | start _ _ hcrashes => exact absurd (trial_crashed_iff.mpr hcrashes) (hready value)
    | call hbackend hcall hpanicked => exact .call (hserving.trans hbackend) hcall hpanicked

theorem perform_of_struck (hstruck : facade.Struck step value) :
    ∃ later notices, facade.perform step = step.guarded (.panicked value, later, notices) ∧
      notices.filter Notice.isPanic = [] := by
  have hserved {facade : Facade} (hset : facade.active ≠ .unset)
      (hstruck : facade.Struck step value) :
      ∃ later, facade.perform step = step.guarded (.panicked value, later, []) := by
    obtain ⟨toolkit, received, hactive, hcrash⟩ := (struck_iff_of_set hset).mp hstruck
    obtain ⟨-, hanswer⟩ := perform_toolkit hactive step
    rw [hcrash] at hanswer
    obtain ⟨hinstead, op, hop, hnotices⟩ := hanswer
    refine ⟨(facade.perform step).2.1, ?_⟩
    rw [Step.guarded_panicked, hop]
    exact Prod.ext hinstead (Prod.ext rfl hnotices)
  rcases facade.situation step with
    hset | ⟨hunset, hidle | ⟨hreaches, ⟨other, hcrash⟩ | hready⟩⟩
  · obtain ⟨later, hperform⟩ := hserved hset hstruck
    exact ⟨later, [], hperform, rfl⟩
  · cases hstruck with
    | start _ hreaches => simp [hidle] at hreaches
    | call hserving => simp [serving_of_idle hunset hidle] at hserving
  · -- A start that crashed leaves nothing that could be called, so it is what struck.
    have hsame : value = other := by
      cases hstruck with
      | start _ _ hcrashes => simpa [trial_crashed_iff.mpr hcrashes] using hcrash
      | call hserving =>
        simp [serving_of_reaches hunset hreaches, active_readied_of_crash hcrash] at hserving
    rw [hsame]
    exact ⟨_, [], perform_of_crash hunset hreaches hcrash, rfl⟩
  · obtain ⟨later, hperform⟩ :=
      hserved (readied_ne_unset hready) ((struck_readied_iff hunset hreaches hready).mpr hstruck)
    refine ⟨later, facade.choiceNotices step.args (facade.trial step.args).2, ?_,
      facade.filter_isPanic_choiceNotices _ _⟩
    have hprepend := step.guarded_prepend (.panicked value) later
      (facade.choiceNotices step.args (facade.trial step.args).2) []
    rw [List.append_nil] at hprepend
    rw [perform_of_readied hunset hreaches hready, hperform, hprepend]

theorem perform_of_not_struck (hcalm : ∀ value, ¬ facade.Struck step value) :
    (∃ answer, (facade.perform step).1 = .returned answer) ∧
      (facade.perform step).2.2.filter Notice.isPanic = [] := by
  have hserved {facade : Facade} (hset : facade.active ≠ .unset)
      (hcalm : ∀ value, ¬ facade.Struck step value) :
      (∃ answer, (facade.perform step).1 = .returned answer) ∧
        (facade.perform step).2.2.filter Notice.isPanic = [] := by
    cases hactive : facade.active with
    | unset => contradiction
    | stub stub =>
      obtain ⟨answer, reports, hperform, -⟩ := perform_stub hactive step
      rw [hperform]
      exact ⟨⟨answer, rfl⟩, filter_isPanic_map reports⟩
    | toolkit toolkit received =>
      obtain ⟨-, hanswer⟩ := perform_toolkit hactive step
      cases hcrash : step.crash? facade.config toolkit received with
      | some value =>
        exact absurd ((struck_iff_of_set hset).mpr ⟨_, _, hactive, hcrash⟩) (hcalm value)
      | none =>
        rw [hcrash] at hanswer
        exact ⟨hanswer.1, by rw [hanswer.2]; rfl⟩
  rcases facade.situation step with
    hset | ⟨hunset, hidle | ⟨hreaches, ⟨value, hcrash⟩ | hready⟩⟩
  · exact hserved hset hcalm
  · obtain ⟨hanswer, hlater⟩ := perform_of_idle hunset hidle
    exact ⟨hanswer, by rw [hlater]; rfl⟩
  · exact absurd (.start hunset hreaches (trial_crashed_iff.mp hcrash)) (hcalm value)
  · obtain ⟨hanswer, hquiet⟩ := hserved (readied_ne_unset hready)
      fun value => (struck_readied_iff hunset hreaches hready).not.mpr (hcalm value)
    rw [perform_of_readied hunset hreaches hready]
    refine ⟨hanswer, ?_⟩
    rw [List.filter_append, hquiet, filter_isPanic_choiceNotices, List.append_nil]

/-! ### Starts that are tried again -/

theorem factoryCount_perform (hunset : facade.active = .unset) (hreaches : step.reaches) :
    (facade.perform step).2.1.factoryCount =
      facade.factoryCount + (facade.trial step.args).1.count .factory := by
  have hasked : (facade.readied step.args).factoryCount =
      facade.factoryCount + (facade.trial step.args).1.count .factory :=
    List.count_append
  rw [← hasked]
  by_cases hcrash : ∃ value, (facade.trial step.args).2 = .crashed value
  · obtain ⟨value, hcrash⟩ := hcrash
    rw [perform_of_crash hunset hreaches hcrash, Step.guarded_later]
  · rw [not_exists] at hcrash
    rw [perform_of_readied hunset hreaches hcrash]
    exact (counts_of_starts (keepsChoice_perform (readied_ne_unset hcrash) step).starts).1

theorem StartCrashes.count_factory {args : List String} (h : facade.StartCrashes args value)
    {later : Facade} (hconfig : later.config = facade.config)
    (hdirectory : later.directory = facade.directory) (again : List String) :
    (later.trial again).1.count .factory = 1 := by
  obtain ⟨hempty, hstub, hcrashes⟩ := h
  obtain ⟨factory, hfind⟩ : ∃ factory,
      later.directory.find? later.config.backend = .ok (.linked factory) := by
    rw [hconfig, hdirectory]
    cases hcrashes with
    | factory factory hfind => exact ⟨factory, hfind⟩
    | nothing factory hfind => exact ⟨factory, hfind⟩
    | init factory toolkit hfind => exact ⟨factory, hfind⟩
  rw [← hconfig] at hempty hstub
  unfold trial Directory.trial
  rw [if_neg (by simp [hempty, hstub]), hfind]
  dsimp only
  repeat' split
  all_goals rfl

/-- Whatever foreign code does, the methods that catch panics come back and leave the facade in a
state from which it can go on. -/
theorem panics_are_caught (start : Facade) (before : List Step) (step : Step) (op : Raw)
    (hop : step.op? = some op) :
    let now := start.after before
    let result := now.perform step
    let next := result.2.1
    let panics := result.2.2.filter Notice.isPanic
    (∃ answer, result.1 = .returned answer) ∧
    (∀ value, now.Struck step value →
      result.1 = .returned step.instead ∧ panics = [.panic { op, value }]) ∧
    ((∀ value, ¬ now.Struck step value) → panics = []) ∧
    (next.active ≠ .unset ↔ now.active ≠ .unset ∨
      step.reaches ∧ ∀ value, ¬ now.StartCrashes step.args value) ∧
    (∀ value, now.active = .unset → step.reaches → now.StartCrashes step.args value →
      ∀ again, again.reaches →
        (next.perform again).2.1.factoryCount = next.factoryCount + 1) ∧
    (now.active ≠ .unset → next.active.choice = now.active.choice) ∧
    ∀ later, next.active ≠ .unset → (next.after later).active.choice = next.active.choice := by
  intro now result next panics
  have hstruck (value : PanicValue) (h : now.Struck step value) :
      result.1 = .returned step.instead ∧ panics = [.panic { op, value }] := by
    obtain ⟨later, notices, hperform, hquiet⟩ := perform_of_struck h
    rw [Step.guarded_panicked, hop] at hperform
    refine ⟨congrArg Prod.fst hperform, ?_⟩
    change (now.perform step).2.2.filter Notice.isPanic = _
    rw [hperform, List.filter_append, hquiet]
    rfl
  have hcalm (h : ∀ value, ¬ now.Struck step value) :
      (∃ answer, result.1 = .returned answer) ∧ panics = [] :=
    perform_of_not_struck h
  refine ⟨?_, hstruck, fun h => (hcalm h).2, ?_, ?_, ?_, ?_⟩
  · by_cases h : ∃ value, now.Struck step value
    · obtain ⟨value, h⟩ := h
      exact ⟨_, (hstruck value h).1⟩
    · exact (hcalm (not_exists.mp h)).1
  · exact now.active_perform_ne_unset_iff step
  · intro value hunset hreaches hcrashes again hagain
    have hstill : next.active = .unset := by
      by_contra hset
      rcases (now.active_perform_ne_unset_iff step).mp hset with hset | ⟨-, hready⟩
      · contradiction
      · exact hready value hcrashes
    obtain ⟨hconfig, hdirectory⟩ := now.frame_perform step
    rw [step.links_of_reaches hreaches] at hdirectory
    rw [factoryCount_perform hstill hagain, hcrashes.count_factory hconfig hdirectory]
  · intro hset
    exact (keepsChoice_perform hset step).choice
  · intro later hset
    exact (keepsChoice_after hset later).choice

theorem panics_are_caught_twice :
    let broken : Script := { panics := ["factory"] }
    let start := Facade.new (some { backend := "qt" })
    let before : List Step := [.register "qt" (some broken.factory), .windowNew "w" 3 4]
    let step : Step := .buttonNew "b"
    let result := (start.after before).perform step
    step.op? = some "desktop.ButtonNew" ∧ result.1 = .returned step.instead ∧
      result.2.2.filter Notice.isPanic =
        [.panic { op := "desktop.ButtonNew", value := .text "toolkit crashed in factory" }] ∧
      (result.2.1.perform (.init [])).2.1.factoryCount = 3 := by
  intro broken start before step result
  obtain ⟨-, hcaught, -, -, hagain, -⟩ :=
    panics_are_caught start before step "desktop.ButtonNew" rfl
  have hcrashes : (start.after before).StartCrashes [] (.text "toolkit crashed in factory") :=
    ⟨by decide, by decide, .factory broken.factory rfl rfl⟩
  obtain ⟨hanswer, hpanics⟩ := hcaught _ (.start rfl rfl hcrashes)
  exact ⟨rfl, hanswer, hpanics, hagain _ rfl rfl hcrashes (.init []) rfl⟩

/-! ### Panics that escape -/

/-- The three methods that do not catch panics let one through exactly when they are the ones to
start a backend and its start panics. -/
theorem panic_escapes_iff (start : Facade) (before : List Step) (step : Step)
    (value : PanicValue) :
    let now := start.after before
    (now.perform step).1 = .panicked value ↔
      ((∃ on, step = .setVerbose on) ∨ step = .backend ∨ step = .stub) ∧
        now.active = .unset ∧ now.StartCrashes [] value := by
  intro now
  constructor
  · intro hpanicked
    by_cases hstruck : ∃ value, now.Struck step value
    · obtain ⟨other, hstruck⟩ := hstruck
      obtain ⟨later, notices, hperform, -⟩ := perform_of_struck hstruck
      rw [hperform, Step.guarded_panicked] at hpanicked
      cases hop : step.op? with
      | some op => simp [hop] at hpanicked
      | none =>
        obtain rfl : other = value := by simpa [hop] using hpanicked
        cases hstruck with
        | call _ hcall =>
          -- Every method that passes a call on catches panics.
          obtain ⟨op, hsome⟩ := Step.isSome_op?_of_call hcall
          simp [hop] at hsome
        | start hunset hreaches hcrashes =>
          cases step with
          | setVerbose on => exact ⟨.inl ⟨on, rfl⟩, hunset, hcrashes⟩
          | backend => exact ⟨.inr (.inl rfl), hunset, hcrashes⟩
          | stub => exact ⟨.inr (.inr rfl), hunset, hcrashes⟩
          | mainReturn | register | unregister => simp [Step.reaches] at hreaches
          | _ => simp [Step.op?] at hop
    · obtain ⟨⟨answer, hreturned⟩, -⟩ := perform_of_not_struck (not_exists.mp hstruck)
      rw [hreturned] at hpanicked
      contradiction
  · rintro ⟨hstep, hunset, hcrashes⟩
    obtain ⟨hop, hreaches, hargs⟩ : step.op? = none ∧ step.reaches ∧ step.args = [] := by
      rcases hstep with ⟨on, rfl⟩ | rfl | rfl <;> exact ⟨rfl, rfl, rfl⟩
    rw [perform_of_crash hunset hreaches (trial_crashed_iff.mpr (hargs.symm ▸ hcrashes)),
      Step.guarded_panicked, hop]

theorem panic_escapes_from_first_call :
    let crashing : List (Script × PanicValue) :=
      [({ panics := ["factory"] }, .text "toolkit crashed in factory"),
        ({ givesNothing := true }, .fault .noTarget),
        ({ panics := ["init"] }, .text "toolkit crashed in init")]
    ∀ entry ∈ crashing,
      let now := (Facade.new (some { backend := "qt" })).after
        [.register "qt" (some entry.1.factory)]
      (now.perform (.setVerbose true)).1 = .panicked entry.2 ∧
        (now.perform .backend).1 = .panicked entry.2 ∧
        (now.perform .stub).1 = .panicked entry.2 := by
  intro crashing
  rw [List.forall_mem_cons, List.forall_mem_cons, List.forall_mem_singleton]
  exact ⟨⟨rfl, rfl, rfl⟩, ⟨rfl, rfl, rfl⟩, ⟨rfl, rfl, rfl⟩⟩

end Facade

end HeadlessDesktop
