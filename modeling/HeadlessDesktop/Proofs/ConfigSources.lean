import HeadlessDesktop.CommandLine.Run
import HeadlessDesktop.Proofs.SettledConfig

/-! The two ways to name a file of configuration. A path that is given to a run and the same path
in the environment lead to the same configuration, or to the same failure; only what is handed out
beside a fault differs, and no command uses that. -/
namespace HeadlessDesktop

open Files

def Environment.naming (environment : Environment) (path : String) : Environment :=
  { environment with config := some path }

namespace Config

theorem checked_naming (config : Config) (environment : Environment) (path : String) :
    checked config (environment.naming path) = checked config environment := rfl

theorem load_congr {read other : Reader} {path : String} (h : other path = read path) :
    load other path = load read path := by
  unfold load
  rw [h]

variable (read : Reader) (environment : Environment) (directory : String) {path : String}

theorem resolve_naming (hpath : path ≠ "") :
    resolve read (environment.naming path) directory =
      load read path >>= fun config => checked config environment := by
  unfold resolve
  simp only [checked_naming]
  exact if_neg hpath

theorem result_choose_of_path (hpath : path ≠ "") :
    (choose read environment directory path).result =
      load read path >>= fun config => checked config environment := by
  unfold choose
  rw [if_neg hpath]
  cases load read path with
  | error why => rfl
  | ok config =>
    dsimp only [bind, Except.bind, checked]
    cases (config.applyEnvironment environment).validate with
    | error why => rfl
    | ok valid => rfl

theorem result_choose_empty :
    (choose read environment directory "").result = resolve read environment directory := by
  unfold choose
  rw [if_pos rfl]
  cases resolve read environment directory with
  | error why => rfl
  | ok config => rfl

theorem choose_eq_faulty_iff {config : Config} {why : Invalid} :
    choose read environment directory path = .faulty config why ↔
      path ≠ "" ∧ config.validate = .error why ∧
      ∃ loaded, load read path = .ok loaded ∧ loaded.applyEnvironment environment = config := by
  unfold choose
  by_cases hpath : path = ""
  · rw [if_pos hpath]
    cases resolve read environment directory with
    | error why => simp [hpath]
    | ok config => simp [hpath]
  · rw [if_neg hpath]
    cases load read path with
    | error why => simp
    | ok loaded =>
      dsimp only
      cases hvalid : (loaded.applyEnvironment environment).validate with
      | error fault =>
        constructor
        · rintro ⟨⟩
          exact ⟨hpath, hvalid, loaded, rfl, rfl⟩
        · rintro ⟨-, hfault, _, ⟨⟩, rfl⟩
          obtain rfl : fault = why := Except.error.inj (hvalid.symm.trans hfault)
          rfl
      | ok valid =>
        refine iff_of_false nofun ?_
        rintro ⟨-, hfault, _, ⟨⟩, rfl⟩
        exact absurd (hvalid.symm.trans hfault) nofun

/-- A path that is given leads to what the same path in the environment leads to, whatever else
the environment and the working directory hold. Without one the environment decides. Beside a
failure a configuration is handed out only if its file was given and is at fault. -/
theorem given_path_like_named (read : Reader) (environment : Environment) (home : String) :
    (∀ path, path ≠ "" → ∀ (other : Reader) (directory : String), other path = read path →
      (choose read environment home path).result =
        resolve other (environment.naming path) directory) ∧
    (choose read environment home "").result = resolve read environment home ∧
    ∀ path config why, choose read environment home path = .faulty config why ↔
      path ≠ "" ∧ config.validate = .error why ∧
      ∃ loaded, load read path = .ok loaded ∧ loaded.applyEnvironment environment = config := by
  refine ⟨?_, result_choose_empty read environment home, ?_⟩
  · intro path hpath other directory hfile
    rw [result_choose_of_path read environment home hpath,
      resolve_naming other environment directory hpath, load_congr hfile]
  · exact fun path config why => choose_eq_faulty_iff read environment home

theorem given_path_like_named_alone :
    let text := "backend: qt\nwindow:\n  width: 640\n"
    let read : Reader := fun path => if path = "a.yaml" then .ok text else .error .isADirectory
    let other : Reader := fun path => if path = "a.yaml" then .ok text else .error .missing
    let environment : Environment := { config := some "b.yaml", legacyVerbose := some "0" }
    let config : Config := { builtIn with
      backend := .text "qt"
      verbose := some false
      window := { width := 640, height := 600 } }
    (choose read environment "/home" "a.yaml").result = .ok config ∧
    resolve other (environment.naming "a.yaml") "/tmp" = .ok config := by
  intro text read other environment config
  have hgiven := (given_path_like_named read environment "/home").1 "a.yaml" (by decide) other
    "/tmp" rfl
  have hnamed : resolve other (environment.naming "a.yaml") "/tmp" = .ok config :=
    eq_ok_of_toOption (by decide +kernel)
  exact ⟨hgiven.trans hnamed, hnamed⟩

end Config

namespace CommandLine.Host

variable (host : Host) {path : String}

def naming (path : String) : Host := { host with environment := host.environment.naming path }

theorem config_naming (hpath : path ≠ "") : (host.naming path).config "" = host.config path := by
  have hnamed : Config.resolve host.read (host.environment.naming path) host.home =
      (Config.choose host.read host.environment host.home path).result := by
    rw [Config.resolve_naming _ _ _ hpath, Config.result_choose_of_path _ _ _ hpath]
  unfold config
  rw [Config.result_choose_empty, ← hnamed]
  rfl

theorem run_naming (hpath : path ≠ "") (arguments : List String) (command : Command) :
    (host.naming path).run "" arguments command = host.run path arguments command := by
  cases command with
  | config => simp only [run, config_naming host hpath]
  | backends => rfl
  | demo =>
    simp only [run, demo, config_naming host hpath]
    rfl
  | serve =>
    simp only [run, serve, config_naming host hpath]
    rfl

end CommandLine.Host

end HeadlessDesktop
