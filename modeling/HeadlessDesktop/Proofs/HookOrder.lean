import HeadlessDesktop.Proofs.LoopStages
import Mathlib.Computability.Language

/-! The order of the hooks. However the calls interleave, the hooks are called in rounds:
idle quits, a start, the quit that tells the run, more idle quits, a stop. -/
namespace HeadlessDesktop.Loop

open Computability

def hook (event : Event) : Language Event := {[event]}

def idleQuits : Language Event := (hook (.quit false))∗

def roundWords : Language Event :=
  idleQuits * hook .start * hook (.quit true) * idleQuits * hook .stop

def hookWords : Language Event := roundWords∗

def Turn.words : Turn → Language Event
  | .free => hookWords * idleQuits
  | .started _ => hookWords * idleQuits * hook .start
  | .told _ _ => hookWords * idleQuits * hook .start * hook (.quit true) * idleQuits

def System.hookCalls (system : System) : List Event :=
  (system.history.map Prod.snd).filter Event.isHook

def System.IsBetweenHooks (system : System) (run : Nat) : Prop :=
  (run, .start) ∈ system.history ∧ (run, .stop) ∉ system.history

theorem concat_mem_mul_hook {language : Language Event} {word : List Event}
    (h : word ∈ language) (event : Event) : word ++ [event] ∈ language * hook event :=
  Language.append_mem_mul h rfl

theorem mem_mul_idleQuits {language : Language Event} {word : List Event}
    (h : word ∈ language) : word ∈ language * idleQuits := by
  rw [← List.append_nil word]
  exact Language.append_mem_mul h (Language.nil_mem_kstar _)

theorem concat_mem_mul_idleQuits {language : Language Event} {word : List Event}
    (h : word ∈ language * idleQuits) : word ++ [.quit false] ∈ language * idleQuits := by
  have hmore := concat_mem_mul_hook h (.quit false)
  rw [mul_assoc] at hmore
  exact mul_le_mul_right kstar_mul_le_kstar language hmore

namespace Turn

theorem start_mem_words {word : List Event} (h : word ∈ Turn.free.words) (run : Nat) :
    word ++ [.start] ∈ (Turn.started run).words :=
  concat_mem_mul_hook h .start

theorem tell_mem_words {word : List Event} {run : Nat} (h : word ∈ (Turn.started run).words)
    (quit : Nat) : word ++ [.quit true] ∈ (Turn.told run quit).words :=
  mem_mul_idleQuits (concat_mem_mul_hook h (.quit true))

theorem stop_mem_hookWords {word : List Event} {run quit : Nat}
    (h : word ∈ (Turn.told run quit).words) : word ++ [.stop] ∈ hookWords := by
  have hround := concat_mem_mul_hook h .stop
  have hwords : (Turn.told run quit).words * hook .stop = hookWords * roundWords := by
    simp only [words, roundWords, mul_assoc]
  rw [hwords] at hround
  exact (kstar_mul_le_kstar : roundWords∗ * roundWords ≤ roundWords∗) hround

theorem idle_mem_words {turn : Turn} (htold : turn.isUntold = false) {word : List Event}
    (h : word ∈ turn.words) : word ++ [.quit false] ∈ turn.words := by
  cases turn with
  | free => exact concat_mem_mul_idleQuits h
  | started run => contradiction
  | told run quit => exact concat_mem_mul_idleQuits h

theorem exists_hookWords {turn : Turn} {word : List Event} (h : word ∈ turn.words) :
    ∃ whole ∈ hookWords, word <+: whole := by
  have htold {word : List Event} {run quit : Nat} (h : word ∈ (Turn.told run quit).words) :
      ∃ whole ∈ hookWords, word <+: whole :=
    ⟨word ++ [.stop], stop_mem_hookWords h, List.prefix_append _ _⟩
  have hstarted {word : List Event} {run : Nat} (h : word ∈ (Turn.started run).words) :
      ∃ whole ∈ hookWords, word <+: whole := by
    obtain ⟨whole, hwhole, hprefix⟩ := htold (tell_mem_words h run)
    exact ⟨whole, hwhole, (List.prefix_append _ _).trans hprefix⟩
  cases turn with
  | free =>
    obtain ⟨whole, hwhole, hprefix⟩ := hstarted (start_mem_words h 0)
    exact ⟨whole, hwhole, (List.prefix_append _ _).trans hprefix⟩
  | started run => exact hstarted h
  | told run quit => exact htold h

end Turn

namespace Logged

variable {history : List (Nat × Event)} {rounds : List (Nat × Nat)} {turn : Turn}

theorem hooks_mem_words (logged : Logged history rounds turn) :
    (history.map Prod.snd).filter Event.isHook ∈ turn.words := by
  induction logged with
  | nil => exact mem_mul_idleQuits (Language.nil_mem_kstar _)
  | start run hnew _ ih =>
    rw [List.map_append, List.filter_append]
    exact Turn.start_mem_words ih run
  | tell quit hnew _ ih =>
    rw [List.map_append, List.filter_append]
    exact Turn.tell_mem_words ih quit
  | stop _ ih =>
    rw [List.map_append, List.filter_append]
    exact mem_mul_idleQuits (Turn.stop_mem_hookWords ih)
  | finish run hstopped _ ih => simpa [Event.isHook] using ih
  | idle quit htold _ ih =>
    rw [List.map_append, List.filter_append]
    exact Turn.idle_mem_words htold ih
  | aside number hhook hfinished _ ih => simpa [hhook] using ih

theorem eq_of_between (logged : Logged history rounds turn) {run : Nat}
    (hstart : (run, .start) ∈ history) (hstop : (run, .stop) ∉ history) :
    turn.run? = some run := by
  rw [logged.start_mem_iff, List.mem_append] at hstart
  rw [logged.stop_mem_iff] at hstop
  simpa using hstart.resolve_left hstop

theorem exists_rounds (logged : Logged history rounds turn) :
    ∃ rounds : List (Nat × Nat), (rounds.map Prod.fst).Nodup ∧
      history.filter (·.2.isTurn) <+: rounds.flatMap roundHooks := by
  have hnodup := logged.nodup_runs
  rw [logged.filter_isTurn]
  cases turn with
  | free => exact ⟨rounds, by simpa [Turn.run?] using hnodup, by simp [Turn.hooks]⟩
  | started run =>
    refine ⟨rounds ++ [(run, 0)], by simpa [Turn.run?] using hnodup, ?_⟩
    simp [Turn.hooks, roundHooks, List.prefix_append_right_inj]
  | told run quit =>
    refine ⟨rounds ++ [(run, quit)], by simpa [Turn.run?] using hnodup, ?_⟩
    simp [Turn.hooks, roundHooks, List.prefix_append_right_inj]

end Logged

/-- In every interleaving the hooks are called in rounds, at most one run is between its
hooks, and the rounds of the runs follow one another. -/
theorem System.Reachable.hooks_in_rounds {system : System} (reachable : system.Reachable) :
    (∃ word ∈ hookWords, system.hookCalls <+: word) ∧
    (∀ run other, system.IsBetweenHooks run → system.IsBetweenHooks other → run = other) ∧
    ∃ rounds : List (Nat × Nat), (rounds.map Prod.fst).Nodup ∧
      system.history.filter (·.2.isTurn) <+: rounds.flatMap roundHooks := by
  obtain ⟨rounds, stage, tracks⟩ := reachable.tracks
  refine ⟨Turn.exists_hookWords tracks.logged.hooks_mem_words, ?_, tracks.logged.exists_rounds⟩
  intro run other hrun hother
  have hsame := (tracks.logged.eq_of_between hrun.1 hrun.2).symm.trans
    (tracks.logged.eq_of_between hother.1 hother.2)
  exact Option.some.inj hsame

theorem System.restarted_in_rounds :
    restarted.hookCalls = [.quit false, .start, .quit true, .quit false, .stop, .start] ∧
      ∃ word ∈ hookWords, restarted.hookCalls <+: word :=
  ⟨rfl, restarted_reachable.hooks_in_rounds.1⟩

end HeadlessDesktop.Loop
