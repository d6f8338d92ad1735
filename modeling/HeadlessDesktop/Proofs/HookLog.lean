import HeadlessDesktop.Proofs.CallHistory

/-! Histories in which the hooks are called in turn: a run starts, a quit tells it to stop,
it stops. Quits that find the loop idle stand between, but never while a run is untold. -/
namespace HeadlessDesktop.Loop

def Event.isHook : Event → Bool
  | .start | .quit _ | .stop => true
  | _ => false

def Event.isTurn : Event → Bool
  | .start | .quit true | .stop => true
  | _ => false

/-- How far the hooks have come: no run is between its hooks, one has started, or one has
been told to stop. -/
inductive Turn
  | free
  | started (run : Nat)
  | told (run quit : Nat)
deriving DecidableEq, Repr

namespace Turn

def run? : Turn → Option Nat
  | .free => none
  | .started run | .told run _ => some run

def quit? : Turn → Option Nat
  | .free | .started _ => none
  | .told _ quit => some quit

def isUntold : Turn → Bool
  | .started _ => true
  | .free | .told _ _ => false

def hooks : Turn → List (Nat × Event)
  | .free => []
  | .started run => [(run, .start)]
  | .told run quit => [(run, .start), (quit, .quit true)]

end Turn

def roundHooks (round : Nat × Nat) : List (Nat × Event) :=
  [(round.1, .start), (round.2, .quit true), (round.1, .stop)]

/-- Histories in which the hooks are called in turn. The rounds are the runs that have
stopped, each with the quit that told it to. -/
inductive Logged : List (Nat × Event) → List (Nat × Nat) → Turn → Prop
  | nil : Logged [] [] .free
  | start {history : List (Nat × Event)} {rounds : List (Nat × Nat)} (run : Nat)
    (hnew : (run, .start) ∉ history) :
    Logged history rounds .free → Logged (history ++ [(run, .start)]) rounds (.started run)
  | tell {history : List (Nat × Event)} {rounds : List (Nat × Nat)} {run : Nat} (quit : Nat)
    (hnew : (quit, .quit true) ∉ history) :
    Logged history rounds (.started run) →
      Logged (history ++ [(quit, .quit true)]) rounds (.told run quit)
  | stop {history : List (Nat × Event)} {rounds : List (Nat × Nat)} {run quit : Nat} :
    Logged history rounds (.told run quit) →
      Logged (history ++ [(run, .stop)]) (rounds ++ [(run, quit)]) .free
  | finish {history : List (Nat × Event)} {rounds : List (Nat × Nat)} {turn : Turn} (run : Nat)
    (hstopped : (run, .stop) ∈ history) :
    Logged history rounds turn → Logged (history ++ [(run, .finished)]) rounds turn
  | idle {history : List (Nat × Event)} {rounds : List (Nat × Nat)} {turn : Turn} (quit : Nat)
    (htold : turn.isUntold = false) :
    Logged history rounds turn → Logged (history ++ [(quit, .quit false)]) rounds turn
  | aside {history : List (Nat × Event)} {rounds : List (Nat × Nat)} {turn : Turn}
    (number : Nat) {event : Event} (hhook : event.isHook = false)
    (hfinished : event ≠ .finished) :
    Logged history rounds turn → Logged (history ++ [(number, event)]) rounds turn

theorem Event.isTurn_of_not_isHook {event : Event} (h : event.isHook = false) :
    event.isTurn = false := by
  unfold isTurn
  split
  · contradiction
  · contradiction
  · contradiction
  · rfl

theorem Event.isHook_of_isOfWait {event : Event} (h : event.isOfWait = true) :
    event.isHook = false ∧ event ≠ .finished := by
  unfold isOfWait at h
  split at h
  · exact ⟨rfl, by decide⟩
  · exact ⟨rfl, by decide⟩
  · exact ⟨rfl, by decide⟩
  · contradiction

namespace Logged

variable {history : List (Nat × Event)} {rounds : List (Nat × Nat)} {turn : Turn}

theorem asides (logged : Logged history rounds turn) (number : Nat) (events : List Event)
    (hevents : ∀ event ∈ events, event.isOfWait = true) :
    Logged (history ++ events.map (number, ·)) rounds turn := by
  induction events generalizing history with
  | nil => simpa using logged
  | cons event rest ih =>
    obtain ⟨hhook, hfinished⟩ := Event.isHook_of_isOfWait (hevents event (by simp))
    rw [List.map_cons, List.append_cons]
    exact ih (logged.aside number hhook hfinished) fun later h =>
      hevents later (List.mem_cons_of_mem event h)

theorem filter_isTurn (logged : Logged history rounds turn) :
    history.filter (·.2.isTurn) = rounds.flatMap roundHooks ++ turn.hooks := by
  induction logged with
  | nil => rfl
  | start run hnew _ ih => rw [List.filter_append, ih]; simp [Turn.hooks, Event.isTurn]
  | tell quit hnew _ ih => rw [List.filter_append, ih]; simp [Turn.hooks, Event.isTurn]
  | stop _ ih =>
    rw [List.filter_append, ih]
    simp [Turn.hooks, Event.isTurn, roundHooks]
  | finish run hstopped _ ih => rw [List.filter_append, ih]; simp [Event.isTurn]
  | idle quit htold _ ih => rw [List.filter_append, ih]; simp [Event.isTurn]
  | aside number hhook hfinished _ ih =>
    rw [List.filter_append, ih]
    simp [Event.isTurn_of_not_isHook hhook]

theorem mem_iff (logged : Logged history rounds turn) {entry : Nat × Event}
    (hturn : entry.2.isTurn = true) :
    entry ∈ history ↔ (∃ round ∈ rounds, entry ∈ roundHooks round) ∨ entry ∈ turn.hooks := by
  rw [← List.mem_flatMap, ← List.mem_append, ← logged.filter_isTurn, List.mem_filter]
  exact ⟨fun h => ⟨h, hturn⟩, fun h => h.1⟩

theorem start_mem_iff (logged : Logged history rounds turn) (run : Nat) :
    (run, .start) ∈ history ↔ run ∈ rounds.map Prod.fst ++ turn.run?.toList := by
  rw [logged.mem_iff rfl]
  cases turn <;> simp [roundHooks, Turn.hooks, Turn.run?, eq_comm]

theorem quit_mem_iff (logged : Logged history rounds turn) (quit : Nat) :
    (quit, .quit true) ∈ history ↔ quit ∈ rounds.map Prod.snd ++ turn.quit?.toList := by
  rw [logged.mem_iff rfl]
  cases turn <;> simp [roundHooks, Turn.hooks, Turn.quit?, eq_comm]

theorem stop_mem_iff (logged : Logged history rounds turn) (run : Nat) :
    (run, .stop) ∈ history ↔ run ∈ rounds.map Prod.fst := by
  rw [logged.mem_iff rfl]
  cases turn <;> simp [roundHooks, Turn.hooks, eq_comm]

theorem nodup_runs (logged : Logged history rounds turn) :
    (rounds.map Prod.fst ++ turn.run?.toList).Nodup := by
  induction logged with
  | nil => simp [Turn.run?]
  | start run hnew logged ih =>
    rw [logged.start_mem_iff] at hnew
    simp only [Turn.run?, Option.toList_none, List.append_nil] at ih hnew
    simp only [Turn.run?, Option.toList_some]
    exact List.nodup_append.mpr ⟨ih, by simp, by rintro a ha b hb rfl; simp_all⟩
  | tell quit hnew _ ih => exact ih
  | stop _ ih => simpa [Turn.run?] using ih
  | finish run hstopped _ ih => exact ih
  | idle quit htold _ ih => exact ih
  | aside number hhook hfinished _ ih => exact ih

theorem nodup_quits (logged : Logged history rounds turn) :
    (rounds.map Prod.snd ++ turn.quit?.toList).Nodup := by
  induction logged with
  | nil => simp [Turn.quit?]
  | start run hnew _ ih => exact ih
  | tell quit hnew logged ih =>
    rw [logged.quit_mem_iff] at hnew
    simp only [Turn.quit?, Option.toList_none, List.append_nil] at ih hnew
    simp only [Turn.quit?, Option.toList_some]
    exact List.nodup_append.mpr ⟨ih, by simp, by rintro a ha b hb rfl; simp_all⟩
  | stop _ ih => simpa [Turn.quit?] using ih
  | finish run hstopped _ ih => exact ih
  | idle quit htold _ ih => exact ih
  | aside number hhook hfinished _ ih => exact ih

theorem count_start (logged : Logged history rounds turn) :
    (history.map Prod.snd).count .start =
      (history.map Prod.snd).count (.quit true) + turn.isUntold.toNat := by
  induction logged with
  | nil => rfl
  | start run hnew _ ih => simp [ih, Turn.isUntold]
  | tell quit hnew _ ih => simp [ih, Turn.isUntold]
  | stop _ ih => simp [ih, Turn.isUntold]
  | finish run hstopped _ ih => simp [ih]
  | idle quit htold _ ih => simp [ih]
  | @aside _ _ _ number event hhook hfinished _ ih =>
    have hstart : event ≠ .start := by rintro rfl; contradiction
    have hquit : event ≠ .quit true := by rintro rfl; contradiction
    simp [ih, hstart, hquit]

theorem stop_mem_of_finished (logged : Logged history rounds turn) {run : Nat}
    (hover : (run, .finished) ∈ history) : (run, .stop) ∈ history := by
  induction logged with
  | nil => exact absurd hover (by simp)
  | start _ _ _ ih => exact List.mem_append_left _ (ih (by simpa using hover))
  | tell _ _ _ ih => exact List.mem_append_left _ (ih (by simpa using hover))
  | stop _ ih => exact List.mem_append_left _ (ih (by simpa using hover))
  | finish other hstopped _ ih =>
    rcases List.mem_append.mp hover with h | h
    · exact List.mem_append_left _ (ih h)
    · cases List.mem_singleton.mp h
      exact List.mem_append_left _ hstopped
  | idle _ _ _ ih => exact List.mem_append_left _ (ih (by simpa using hover))
  | aside _ _ hfinished _ ih =>
    exact List.mem_append_left _ (ih (by simpa [Ne.symm hfinished] using hover))

theorem roundHooks_sublist (logged : Logged history rounds turn) {round : Nat × Nat}
    (hround : round ∈ rounds) : (roundHooks round).Sublist history := by
  have hrounds : (roundHooks round).Sublist (rounds.flatMap roundHooks) := by
    rw [List.flatMap_def]
    exact List.sublist_flatten_of_mem (List.mem_map_of_mem hround)
  have hturns := hrounds.trans (List.sublist_append_left _ turn.hooks)
  rw [← logged.filter_isTurn] at hturns
  exact hturns.trans List.filter_sublist

theorem life_sublist (logged : Logged history rounds turn) {run quit : Nat}
    (hround : (run, quit) ∈ rounds) (hover : (run, .finished) ∈ history) :
    [(run, .start), (quit, .quit true), (run, .stop), (run, .finished)].Sublist history := by
  induction logged with
  | nil => exact absurd hover (by simp)
  | start _ _ _ ih =>
    exact (ih hround (by simpa using hover)).trans (List.sublist_append_left _ _)
  | tell _ _ _ ih =>
    exact (ih hround (by simpa using hover)).trans (List.sublist_append_left _ _)
  | @stop history rounds other teller logged ih =>
    have hbefore : (run, .finished) ∈ history := by simpa using hover
    -- A run whose last round this is cannot have been over before.
    have hfirst : run ≠ other := by
      rintro rfl
      have hrun := (logged.stop_mem_iff run).mp (logged.stop_mem_of_finished hbefore)
      exact (List.nodup_append.mp logged.nodup_runs).2.2 run hrun run (by simp [Turn.run?]) rfl
    exact (ih (by simpa [hfirst] using hround) hbefore).trans (List.sublist_append_left _ _)
  | finish other hstopped logged ih =>
    rcases List.mem_append.mp hover with h | h
    · exact (ih hround h).trans (List.sublist_append_left _ _)
    · cases List.mem_singleton.mp h
      exact (logged.roundHooks_sublist hround).append (List.Sublist.refl _)
  | idle _ _ _ ih =>
    exact (ih hround (by simpa using hover)).trans (List.sublist_append_left _ _)
  | aside _ _ hfinished _ ih =>
    exact (ih hround (by simpa [Ne.symm hfinished] using hover)).trans
      (List.sublist_append_left _ _)

end Logged

end HeadlessDesktop.Loop
