import HeadlessDesktop.Config.Load
import HeadlessDesktop.Desktop.Facade
import HeadlessDesktop.Proofs.Utf8Pieces
import Mathlib.Data.List.TakeWhile

/-! What a configuration is once it is resolved. Whatever the file and the environment hold, a
configuration that comes out is valid and has nothing left to fill in; that none comes out is due
to the file or to what it says. -/
namespace HeadlessDesktop

namespace Text

theorem dropBlank_eq_nil {text : List Char} :
    dropBlank text = [] ↔ ∀ c ∈ text, isBlank c := by
  rw [dropBlank, List.dropWhile_eq_nil_iff]

theorem trim_eq_empty {text : String} : trim text = "" ↔ ∀ c ∈ text.toList, isBlank c := by
  have hempty : trim text = "" ↔ dropBlank (dropBlank text.toList).reverse = [] := by
    rw [trim, ← String.toList_inj]
    simp
  rw [hempty, dropBlank_eq_nil]
  constructor
  · intro hrest c hc
    rw [← List.takeWhile_append_dropWhile (p := isBlank) (l := text.toList), List.mem_append] at hc
    rcases hc with hc | hc
    · exact List.mem_takeWhile_imp hc
    · exact hrest c (List.mem_reverse.mpr hc)
  · intro hall c hc
    exact hall c ((List.dropWhile_suffix isBlank).subset (List.mem_reverse.mp hc))

theorem allBlank_trim {text : String} (h : trim text ≠ "") : allBlank (trim text) = false := by
  have hrest : dropBlank (dropBlank text.toList).reverse ≠ [] := by
    intro hrest
    exact h (by rw [trim, hrest]; rfl)
  have hlast : isBlank ((dropBlank (dropBlank text.toList).reverse).head hrest) = false :=
    List.head_dropWhile_not isBlank hrest
  rw [allBlank, beq_eq_false_iff_ne]
  intro hblank
  rw [trim_eq_empty] at hblank
  have hmem : (dropBlank (dropBlank text.toList).reverse).head hrest ∈ (trim text).toList := by
    simp [trim]
  rw [hblank _ hmem] at hlast
  contradiction

theorem Raw.ne_empty_of_isBlank {text : Raw} (h : text.isBlank = false) : text ≠ "" := by
  rintro rfl
  rw [isBlank_text] at h
  exact absurd h (by decide)

end Text

open Text Files Yaml

namespace Environment

def Names (environment : Environment) : Prop := environment.config.getD "" ≠ ""

instance (environment : Environment) : Decidable environment.Names :=
  inferInstanceAs (Decidable (_ ≠ _))

def configPath (environment : Environment) (directory : String) : String :=
  if environment.Names then environment.config.getD "" else join directory Config.fileName

end Environment

namespace Config

/-! ### Nothing left to fill in -/

section OrElse

variable {α : Type} [BEq α] [LawfulBEq α] {value unset fallback : α}

theorem orElse_of_ne (h : value ≠ unset) : orElse value unset fallback = value := by
  rw [orElse, if_neg (by simpa using h)]

theorem orElse_self : orElse unset unset fallback = fallback := by
  rw [orElse, if_pos (by simp)]

theorem orElse_unset : orElse value unset unset = value := by
  by_cases hunset : value = unset
  · rw [hunset, orElse_self]
  · rw [orElse_of_ne hunset]

theorem orElse_eq_self (h : fallback ≠ unset) :
    orElse value unset fallback = value ↔ value ≠ unset := by
  constructor
  · intro hvalue hunset
    rw [hunset, orElse_self] at hvalue
    exact h hvalue
  · exact orElse_of_ne

theorem orElse_ne (h : fallback ≠ unset) : orElse value unset fallback ≠ unset := by
  by_cases hunset : value = unset
  · rw [hunset, orElse_self]
    exact h
  · rw [orElse_of_ne hunset]
    exact hunset

end OrElse

theorem orElse_text (text : String) (fallback : Raw) :
    orElse (Raw.text text) "" fallback = if text ≠ "" then .text text else fallback := by
  by_cases hempty : text = ""
  · rw [hempty, orElse_self, if_neg (not_not_intro rfl)]
  · rw [orElse_of_ne (mt Raw.text_inj.mp hempty), if_pos hempty]

/-- Every field that has a default is set. -/
structure Filled (config : Config) : Prop where
  backend : config.backend.isBlank = false
  format : config.trace.format ≠ ""
  width : config.window.width ≠ 0
  height : config.window.height ≠ 0
  label : config.button.label ≠ ""
  policy : config.parenting.policy ≠ ""

variable {config values : Config} {environment : Environment}

theorem filled_fillDefaults (config : Config) : config.fillDefaults.Filled where
  backend := by
    simp only [fillDefaults]
    split
    · decide +kernel
    · exact eq_false_of_ne_true ‹_›
  format := orElse_ne (by decide +kernel)
  width := orElse_ne (by decide)
  height := orElse_ne (by decide)
  label := orElse_ne (by decide +kernel)
  policy := orElse_ne (by decide +kernel)

theorem Filled.fillDefaults_eq (h : config.Filled) : config.fillDefaults = config := by
  simp only [fillDefaults, h.backend, orElse_of_ne h.format, orElse_of_ne h.width,
    orElse_of_ne h.height, orElse_of_ne h.label, orElse_of_ne h.policy, Bool.false_eq_true,
    if_false]

theorem fillDefaults_builtIn : builtIn.fillDefaults = builtIn := by decide +kernel

/-! ### Values under the environment -/

/-- What the values of a file become: unset ones are filled in, then the environment wins. -/
def merged (values : Config) (environment : Environment) : Config :=
  values.fillDefaults.applyEnvironment environment

theorem filled_merged (values : Config) (environment : Environment) :
    (values.merged environment).Filled := by
  have hvalues := values.filled_fillDefaults
  refine { hvalues with backend := ?_ }
  simp only [merged, applyEnvironment, orElse_text]
  split
  · exact (Raw.isBlank_text _).trans (allBlank_trim ‹_›)
  · exact hvalues.backend

/-- How the fields are decided that an environment and a file can both set. -/
structure Decides (environment : Environment) (values config : Config) : Prop where
  backend : config.backend =
    if trim (environment.backend.getD "") ≠ "" then Raw.text (trim (environment.backend.getD ""))
    else if values.backend.isBlank then Raw.text "stub" else values.backend
  addr : config.inspect.addr =
    if environment.inspect.getD "" ≠ "" then Raw.text (environment.inspect.getD "")
    else values.inspect.addr
  verbose : config.verbose =
    match environment.verbose, environment.legacyVerbose with
    | some value, _ => some (value != "0")
    | none, some value => some (value != "0")
    | none, none => values.verbose

theorem decides_merged (environment : Environment) (values : Config) :
    Decides environment values (values.merged environment) where
  backend := by
    simp only [merged, applyEnvironment, orElse_text]
    rfl
  addr := by
    simp only [merged, applyEnvironment, orElse_text]
    rfl
  verbose := by
    simp only [merged, applyEnvironment, Environment.verbosity?]
    cases environment.verbose with
    | some value => rfl
    | none => cases environment.legacyVerbose <;> rfl

/-! ### Validity -/

section Checks

variable {ε α : Type} {condition : Prop} [Decidable condition] {why : ε}

theorem check_eq_ok {rest : Except ε α} {result : α} :
    (if condition then (throw why >>= fun (_ : PUnit) => rest) else rest) = .ok result ↔
      ¬condition ∧ rest = .ok result := by
  by_cases h : condition
  · rw [if_pos h]
    exact iff_of_false nofun fun hrest => hrest.1 h
  · rw [if_neg h, and_iff_right h]

theorem lastCheck_eq_ok :
    (if condition then throw why else pure () : Except ε Unit) = .ok () ↔ ¬condition := by
  by_cases h : condition
  · rw [if_pos h]
    exact iff_of_false nofun fun hrest => hrest h
  · rw [if_neg h]
    exact iff_of_true rfl h

end Checks

theorem validate_eq_ok : config.validate = .ok () ↔
    checkAbi config.abi = .ok () ∧ config.backend ≠ "" ∧ isFormat config.trace.format ∧
      0 ≤ config.trace.keep ∧ (0 ≤ config.window.width ∧ 0 ≤ config.window.height) ∧
      (config.parenting.policy.text?.bind Policy.parse?).isSome := by
  rw [validate]
  cases checkAbi config.abi with
  | error why => exact iff_of_false nofun fun h => nomatch h.1
  | ok =>
    rw [and_iff_right rfl]
    change (if config.backend = "" then throw Invalid.noBackend >>= fun _ : PUnit => _ else _) =
      Except.ok () ↔ _
    simp only [check_eq_ok, lastCheck_eq_ok, ne_eq, Bool.not_eq_true', Bool.not_eq_false,
      Int64.not_lt, Bool.or_eq_true, decide_eq_true_eq, not_or, Option.isNone_iff_eq_none,
      Option.isSome_iff_ne_none]

theorem one_le_of_ne_zero {size : Int64} (hset : size ≠ 0) (hsign : 0 ≤ size) : 1 ≤ size := by
  grind

/-! ### The file -/

/-- What a configuration file can be. -/
inductive FileState
  | unreadable (why : OpenError)
  | unparsable (why : ReadError)
  | parsed (values : Config)

namespace FileState

def find (read : Reader) (path : String) : FileState :=
  match read path with
  | .error why => .unreadable why
  | .ok text =>
    match readInto documentType (sourceOf text) builtIn with
    | .error why => .unparsable why
    | .ok values => .parsed values

def values? (environment : Environment) : FileState → Option Config
  | .parsed values => some values
  | .unreadable .missing => if environment.Names then none else some builtIn
  | _ => none

end FileState

variable {read : Reader} {directory path : String}

theorem load_eq (read : Reader) (path : String) :
    load read path = match FileState.find read path with
      | .parsed values => .ok values.fillDefaults
      | .unreadable why => .error (.unreadable path why)
      | .unparsable .malformed => .error (.malformed path)
      | .unparsable (.faults faults) => .error (.mistyped path faults)
      | .unparsable (.unhashable key) => .error (.panicked (.unhashable key.typeName)) := by
  simp only [load, FileState.find, ofDocument]
  cases read path with
  | error why => rfl
  | ok text =>
    cases hread : readInto documentType (sourceOf text) builtIn with
    | error why => cases why <;> simp [hread, Except.map]
    | ok values => simp [hread, Except.map]

theorem load_eq_ok : load read path = .ok config ↔
    ∃ values, FileState.find read path = .parsed values ∧ values.fillDefaults = config := by
  rw [load_eq]
  cases FileState.find read path with
  | parsed values => simp
  | unreadable why => simp
  | unparsable why => cases why <;> simp

theorem loadOptional_eq_ok : loadOptional read directory = .ok config ↔
    load read (join directory fileName) = .ok config ∨
      FileState.find read (join directory fileName) = .unreadable .missing ∧ builtIn = config := by
  rw [loadOptional, load_eq]
  cases FileState.find read (join directory fileName) with
  | parsed values => simp
  | unreadable why => cases why <;> simp
  | unparsable why => cases why <;> simp

theorem checked_eq_ok {values : Config} : checked values environment = .ok config ↔
    (values.applyEnvironment environment).validate = .ok () ∧
      values.applyEnvironment environment = config := by
  simp only [checked]
  cases (values.applyEnvironment environment).validate <;> simp

theorem bind_eq_ok {ε α β : Type} {first : Except ε α} {next : α → Except ε β} {result : β} :
    (first >>= next) = .ok result ↔ ∃ value, first = .ok value ∧ next value = .ok result := by
  cases first with
  | error why => exact iff_of_false nofun fun ⟨_, h, _⟩ => nomatch h
  | ok value => simp [bind, Except.bind]

theorem eq_ok_of_toOption {ε α : Type} {result : Except ε α} {value : α}
    (h : result.toOption = some value) : result = .ok value := by
  cases result with
  | error why => contradiction
  | ok other => exact congrArg _ (Option.some.inj h)

theorem resolve_eq_ok : resolve read environment directory = .ok config ↔
    ∃ values, (FileState.find read (environment.configPath directory)).values? environment =
        some values ∧
      (values.merged environment).validate = .ok () ∧ values.merged environment = config := by
  by_cases hnames : environment.Names
  · have hpath : environment.configPath directory = environment.config.getD "" := if_pos hnames
    have hresolve : resolve read environment directory =
        load read (environment.configPath directory) >>= (checked · environment) := by
      rw [hpath]
      exact if_neg hnames
    simp only [hresolve, bind_eq_ok, checked_eq_ok, load_eq_ok]
    cases FileState.find read (environment.configPath directory) with
    | parsed values => simp [FileState.values?, merged]
    | unparsable why => simp [FileState.values?]
    | unreadable why => cases why <;> simp [FileState.values?, hnames]
  · have hpath : environment.configPath directory = join directory fileName := if_neg hnames
    have hresolve : resolve read environment directory =
        loadOptional read directory >>= (checked · environment) :=
      if_pos (not_not.mp hnames)
    simp only [hresolve, bind_eq_ok, checked_eq_ok, loadOptional_eq_ok, load_eq_ok, hpath]
    cases FileState.find read (join directory fileName) with
    | parsed values => simp [FileState.values?, merged]
    | unparsable why => simp [FileState.values?]
    | unreadable why =>
      cases why <;> simp [FileState.values?, hnames, merged, fillDefaults_builtIn]

theorem FileState.values?_eq_none {file : FileState} : file.values? environment = none ↔
    (∃ why, file = .unreadable why ∧ (why = .missing → environment.Names)) ∨
      ∃ why, file = .unparsable why := by
  cases file with
  | parsed values => simp [values?]
  | unparsable why => simp [values?]
  | unreadable why => cases why <;> simp [values?]

theorem resolve_fails_iff :
    let file := FileState.find read (environment.configPath directory)
    (∃ why, resolve read environment directory = .error why) ↔
      file.values? environment = none ∨
        ∃ values why, file.values? environment = some values ∧
          (values.merged environment).validate = .error why := by
  intro file
  constructor
  · rintro ⟨why, hfail⟩
    cases hvalues : file.values? environment with
    | none => exact .inl rfl
    | some values =>
      cases hvalid : (values.merged environment).validate with
      | error why => exact .inr ⟨values, why, rfl, hvalid⟩
      | ok =>
        rw [resolve_eq_ok.mpr ⟨values, hvalues, hvalid, rfl⟩] at hfail
        contradiction
  · intro hfault
    cases hresolve : resolve read environment directory with
    | error why => exact ⟨why, rfl⟩
    | ok config =>
      obtain ⟨values, hvalues, hvalid, -⟩ := resolve_eq_ok.mp hresolve
      rcases hfault with hnone | ⟨_, why, hsome, hinvalid⟩
      · rw [hnone] at hvalues
        contradiction
      · obtain rfl := Option.some.inj (hvalues.symm.trans hsome)
        rw [hvalid] at hinvalid
        contradiction

/-- What resolving gives, and when it fails. -/
theorem resolve_settled (read : Reader) (environment : Environment) (directory : String) :
    let file := FileState.find read (environment.configPath directory)
    (∀ config, resolve read environment directory = .ok config →
      config.validate = .ok () ∧
      config.fillDefaults = config ∧ (Facade.new (some config)).config = config ∧
      1 ≤ config.window.width ∧ 1 ≤ config.window.height ∧
      (config.parenting.policy.text?.bind Policy.parse?).isSome ∧
      ∃ values, file.values? environment = some values ∧ config = values.merged environment ∧
        Decides environment values config) ∧
    ((∃ why, resolve read environment directory = .error why) ↔
      (∃ why, file = .unreadable why ∧ (why = .missing → environment.Names)) ∨
      (∃ why, file = .unparsable why) ∨
      ∃ values why, file.values? environment = some values ∧
        (values.merged environment).validate = .error why) := by
  intro file
  constructor
  · intro config hconfig
    obtain ⟨values, hvalues, hvalid, rfl⟩ := resolve_eq_ok.mp hconfig
    have hfilled := filled_merged values environment
    have hstable := hfilled.fillDefaults_eq
    have ⟨_, _, _, _, ⟨hwidth, hheight⟩, hpolicy⟩ := validate_eq_ok.mp hvalid
    exact ⟨hvalid, hstable, hstable, one_le_of_ne_zero hfilled.width hwidth,
      one_le_of_ne_zero hfilled.height hheight, hpolicy, values, hvalues, rfl,
      decides_merged environment values⟩
  · rw [← or_assoc, ← FileState.values?_eq_none]
    exact resolve_fails_iff

theorem resolve_settled_blank :
    let environment : Environment := { backend := some " gtk ", legacyVerbose := some "0" }
    ∃ config, resolve (fun _ => .ok "backend: ' '\nwindow:\n  width: 640\n") environment "" =
        .ok config ∧
      config.validate = .ok () ∧ config.fillDefaults = config ∧ config.backend = .text "gtk" ∧
      config.verbose = some false ∧ config.window = { width := 640, height := 600 } := by
  intro environment
  have hresolve : resolve (fun _ => .ok "backend: ' '\nwindow:\n  width: 640\n") environment "" =
      .ok { builtIn with
        backend := .text "gtk"
        verbose := some false
        window := { width := 640, height := 600 } } :=
    eq_ok_of_toOption (by decide +kernel)
  obtain ⟨hvalid, hstable, _⟩ := (resolve_settled _ _ _).1 _ hresolve
  exact ⟨_, hresolve, hvalid, hstable, rfl, rfl, rfl⟩

end Config

end HeadlessDesktop
