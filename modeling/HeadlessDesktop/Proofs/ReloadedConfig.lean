import HeadlessDesktop.Proofs.RecordDecoding
import HeadlessDesktop.Proofs.SettledConfig

/-! A configuration that is written out and read again. What is left out of a document is read as
its default, so that a field comes back unless it may stay unset and its default is something
else: the version of the interface and the number of records that are kept. -/
namespace HeadlessDesktop.Config

open Yaml Text Files

/-! ### The entries of a document -/

section Entries

variable {σ τ : Type}

def fieldEntry [BEq τ] (name : String) (shown : τ → Value) (unset value : τ) (put : σ → τ → σ) :
    List (Entry σ) :=
  if value == unset then [] else [⟨name, Node.holds (shown value), (put · value)⟩]

def groupEntry (name : String) (entries : List (Entry τ)) (get : σ → τ) (put : σ → τ → σ) :
    List (Entry σ) :=
  [⟨name, Node.lists entries, fun old => put old (Entry.writeAll entries (get old))⟩]

end Entries

def shownNumber (number : Int64) : Value := .int number.toInt

def shownFlag : Option Bool → Value
  | none => .null
  | some answer => .bool answer

def TraceSettings.entries (trace : TraceSettings) : List (Entry TraceSettings) :=
  fieldEntry "format" .text "" trace.format (fun old format => { old with format }) ++
  fieldEntry "prefix" .text "" trace.lead (fun old lead => { old with lead }) ++
  fieldEntry "keep" shownNumber 0 trace.keep fun old keep => { old with keep }

def WindowSettings.entries (window : WindowSettings) : List (Entry WindowSettings) :=
  fieldEntry "width" shownNumber 0 window.width (fun old width => { old with width }) ++
  fieldEntry "height" shownNumber 0 window.height fun old height => { old with height }

def ButtonSettings.entries (button : ButtonSettings) : List (Entry ButtonSettings) :=
  fieldEntry "label" .text "" button.label fun _ label => { label }

def ParentingSettings.entries (parenting : ParentingSettings) : List (Entry ParentingSettings) :=
  fieldEntry "policy" .text "" parenting.policy fun _ policy => { policy }

def InspectSettings.entries (inspect : InspectSettings) : List (Entry InspectSettings) :=
  fieldEntry "addr" .text "" inspect.addr fun _ addr => { addr }

/-- What a document says of a configuration: the fields that are set, and all groups. -/
def entries (config : Config) : List (Entry Config) :=
  fieldEntry "abi" .text "" config.abi (fun old abi => { old with abi }) ++
  fieldEntry "backend" .text "" config.backend (fun old backend => { old with backend }) ++
  fieldEntry "verbose" shownFlag none config.verbose (fun old verbose => { old with verbose }) ++
  groupEntry "trace" config.trace.entries (·.trace) (fun old trace => { old with trace }) ++
  groupEntry "window" config.window.entries (·.window) (fun old window => { old with window }) ++
  groupEntry "button" config.button.entries (·.button) (fun old button => { old with button }) ++
  groupEntry "parenting" config.parenting.entries (·.parenting)
    (fun old parenting => { old with parenting }) ++
  groupEntry "inspect" config.inspect.entries (·.inspect) fun old inspect => { old with inspect }

/-- The document of a configuration spells its entries. -/
def isSpelled (config : Config) : Bool :=
  (parse config.document).any fun parsed =>
    parsed.any fun document => document.root.lists config.entries

/-! ### What the entries set -/

theorem writeAll_fieldEntry {σ τ : Type} [BEq τ] [LawfulBEq τ] {name : String}
    {shown : τ → Value} {unset value : τ} {put : σ → τ → σ} {old : σ} (get : σ → τ)
    (hput : put old (get old) = old) :
    Entry.writeAll (fieldEntry name shown unset value put) old =
      put old (orElse value unset (get old)) := by
  by_cases hunset : value = unset
  · rw [hunset, orElse_self, hput, fieldEntry, if_pos (beq_self_eq_true _)]
    rfl
  · rw [orElse_of_ne hunset, fieldEntry, if_neg (by simpa using hunset)]
    rfl

theorem writeAll_trace (trace old : TraceSettings) :
    Entry.writeAll trace.entries old =
      { format := orElse trace.format "" old.format
        lead := orElse trace.lead "" old.lead
        keep := orElse trace.keep 0 old.keep } := by
  rw [TraceSettings.entries, Entry.writeAll_append, Entry.writeAll_append,
    writeAll_fieldEntry (·.keep) rfl, writeAll_fieldEntry (·.lead) rfl,
    writeAll_fieldEntry (·.format) rfl]

theorem writeAll_window (window old : WindowSettings) :
    Entry.writeAll window.entries old =
      { width := orElse window.width 0 old.width
        height := orElse window.height 0 old.height } := by
  rw [WindowSettings.entries, Entry.writeAll_append, writeAll_fieldEntry (·.height) rfl,
    writeAll_fieldEntry (·.width) rfl]

theorem writeAll_entries (config old : Config) :
    Entry.writeAll config.entries old =
      { abi := orElse config.abi "" old.abi
        backend := orElse config.backend "" old.backend
        verbose := orElse config.verbose none old.verbose
        trace := Entry.writeAll config.trace.entries old.trace
        window := Entry.writeAll config.window.entries old.window
        button := { label := orElse config.button.label "" old.button.label }
        parenting := { policy := orElse config.parenting.policy "" old.parenting.policy }
        inspect := { addr := orElse config.inspect.addr "" old.inspect.addr } } := by
  simp only [entries, Entry.writeAll_append, groupEntry, Entry.writeAll_cons, Entry.writeAll_nil,
    ButtonSettings.entries, ParentingSettings.entries, InspectSettings.entries]
  rw [writeAll_fieldEntry (·.verbose) rfl, writeAll_fieldEntry (·.backend) rfl,
    writeAll_fieldEntry (·.abi) rfl, writeAll_fieldEntry (·.label) rfl,
    writeAll_fieldEntry (·.policy) rfl, writeAll_fieldEntry (·.addr) rfl]

/-- A configuration as it comes back: what a document leaves out is the built-in value. -/
def reloaded (config : Config) : Config :=
  { config with
    abi := orElse config.abi "" builtIn.abi
    trace := { config.trace with keep := orElse config.trace.keep 0 builtIn.trace.keep } }

theorem writeAll_builtIn {config : Config} (h : config.Filled) :
    Entry.writeAll config.entries builtIn = config.reloaded := by
  have hbackend := Raw.ne_empty_of_isBlank h.backend
  have hlead : orElse config.trace.lead "" builtIn.trace.lead = config.trace.lead := orElse_unset
  have haddr : orElse config.inspect.addr "" builtIn.inspect.addr = config.inspect.addr :=
    orElse_unset
  have hverbose : orElse config.verbose none builtIn.verbose = config.verbose := orElse_unset
  rw [writeAll_entries, writeAll_trace, writeAll_window, hlead, haddr, hverbose,
    orElse_of_ne hbackend, orElse_of_ne h.format, orElse_of_ne h.width, orElse_of_ne h.height,
    orElse_of_ne h.label, orElse_of_ne h.policy]
  rfl

theorem fillDefaults_reloaded {config : Config} (h : config.Filled) :
    config.reloaded.fillDefaults = config.reloaded :=
  Filled.fillDefaults_eq { h with }

theorem reloaded_eq_iff {config : Config} :
    config.reloaded = config ↔ config.abi ≠ "" ∧ config.trace.keep ≠ 0 := by
  have habi : builtIn.abi ≠ "" := by decide
  have hkeep : builtIn.trace.keep ≠ 0 := by decide
  rw [← orElse_eq_self habi, ← orElse_eq_self hkeep]
  constructor
  · intro h
    exact ⟨congrArg Config.abi h, congrArg (·.trace.keep) h⟩
  · rintro ⟨habi, hkeep⟩
    rw [reloaded, habi, hkeep]

/-! ### Reading a document -/

section Covers

variable {σ τ : Type} {type : Decode.RecordType σ} {name : String}

def HasField (type : Decode.RecordType σ) (name : String)
    (read : Decode.Scope → Node → τ → Decode τ) (get : σ → τ) (put : σ → τ → σ) : Prop :=
  name ≠ "<<" ∧ type.fields.find? (fun field => name = field.1) =
    some (Decode.field name read get put)

theorem reads_of_hasField {entry : Entry σ} {read : Decode.Scope → Node → τ → Decode τ}
    {get : σ → τ} {put : σ → τ → σ} (hfield : HasField type entry.name read get put)
    (value : τ → τ) (hwrite : ∀ old, entry.write old = put old (value (get old)))
    (hread : ∀ scope node old, scope.following = [] → entry.fits node →
      Decode.Gives (read scope node old) (value old)) : Decode.Reads type entry := by
  have hfind : type.fields.find? (fun field => Raw.text entry.name = field.1) =
      some (Decode.field entry.name read get put) := by
    simpa only [Raw.text_inj] using hfield.2
  refine ⟨hfield.1, _, hfind, ?_⟩
  intro scope node old hscope hnode
  rw [hwrite]
  exact (hread scope node (get old) hscope hnode).bind (Decode.gives_pure _)

def ReadsShown (read : Decode.Scope → Node → τ → Decode τ) (shown : τ → Value) (unset : τ) :
    Prop :=
  ∀ value, value ≠ unset → ∀ scope node old, scope.following = [] → node.holds (shown value) →
    Decode.Gives (read scope node old) value

theorem readsShown_text : ReadsShown Decode.string .text "" :=
  fun _ _ _ _ old hscope hnode => Decode.gives_string hscope hnode old

theorem readsShown_number : ReadsShown Decode.int shownNumber 0 :=
  fun _ _ _ _ old hscope hnode => Decode.gives_int hscope hnode old

theorem readsShown_flag : ReadsShown Decode.bool shownFlag none := by
  intro value hset scope node old hscope hnode
  obtain ⟨answer, rfl⟩ := Option.ne_none_iff_exists'.mp hset
  exact Decode.gives_bool hscope hnode old

theorem covers_fieldEntry [BEq τ] [LawfulBEq τ] {read : Decode.Scope → Node → τ → Decode τ}
    {shown : τ → Value} {unset value : τ} {get : σ → τ} {put : σ → τ → σ}
    (hfield : HasField type name read get put) (hshown : ReadsShown read shown unset) :
    Decode.Covers type [name] (fieldEntry name shown unset value put) := by
  rw [fieldEntry]
  split
  · exact ⟨by simp, by simp⟩
  · rename_i hset
    refine ⟨List.forall_mem_singleton.mpr ?_, List.Sublist.refl _⟩
    exact reads_of_hasField hfield (fun _ => value) (fun _ => rfl)
      (hshown value (by simpa using hset))

theorem covers_groupEntry {inner : Decode.RecordType τ} {names : List String}
    {entries : List (Entry τ)} {get : σ → τ} {put : σ → τ → σ} {steps : Nat}
    (hfield : HasField type name (Decode.record inner (steps + 1)) get put)
    (hcovers : Decode.Covers inner names entries) (hnames : names.Nodup) :
    Decode.Covers type [name] (groupEntry name entries get put) := by
  refine ⟨List.forall_mem_singleton.mpr ?_, List.Sublist.refl _⟩
  exact reads_of_hasField hfield (Entry.writeAll entries) (fun _ => rfl)
    fun scope node old hscope hnode => Decode.gives_record hcovers hnames hscope hnode steps old

end Covers

theorem covers_trace (trace : TraceSettings) :
    Decode.Covers traceType ["format", "prefix", "keep"] trace.entries :=
  (covers_fieldEntry ⟨by decide, rfl⟩ readsShown_text)
    |>.append (covers_fieldEntry ⟨by decide, rfl⟩ readsShown_text)
    |>.append (covers_fieldEntry ⟨by decide, rfl⟩ readsShown_number)

theorem covers_window (window : WindowSettings) :
    Decode.Covers windowType ["width", "height"] window.entries :=
  (covers_fieldEntry ⟨by decide, rfl⟩ readsShown_number)
    |>.append (covers_fieldEntry ⟨by decide, rfl⟩ readsShown_number)

theorem covers_button (button : ButtonSettings) :
    Decode.Covers buttonType ["label"] button.entries :=
  covers_fieldEntry ⟨by decide, rfl⟩ readsShown_text

theorem covers_parenting (parenting : ParentingSettings) :
    Decode.Covers parentingType ["policy"] parenting.entries :=
  covers_fieldEntry ⟨by decide, rfl⟩ readsShown_text

theorem covers_inspect (inspect : InspectSettings) :
    Decode.Covers inspectType ["addr"] inspect.entries :=
  covers_fieldEntry ⟨by decide, rfl⟩ readsShown_text

theorem covers_entries (config : Config) (steps : Nat) :
    Decode.Covers (documentType (steps + 1))
      ["abi", "backend", "verbose", "trace", "window", "button", "parenting", "inspect"]
      config.entries :=
  (covers_fieldEntry ⟨by decide, rfl⟩ readsShown_text)
    |>.append (covers_fieldEntry ⟨by decide, rfl⟩ readsShown_text)
    |>.append (covers_fieldEntry ⟨by decide, rfl⟩ readsShown_flag)
    |>.append (covers_groupEntry ⟨by decide, rfl⟩ (covers_trace config.trace) (by decide))
    |>.append (covers_groupEntry ⟨by decide, rfl⟩ (covers_window config.window) (by decide))
    |>.append (covers_groupEntry ⟨by decide, rfl⟩ (covers_button config.button) (by decide))
    |>.append (covers_groupEntry ⟨by decide, rfl⟩ (covers_parenting config.parenting) (by decide))
    |>.append (covers_groupEntry ⟨by decide, rfl⟩ (covers_inspect config.inspect) (by decide))

variable {config : Config} {read saved : Reader} {environment : Environment}
  {directory path : String}

theorem readInto_document (hspelled : config.isSpelled) :
    readInto documentType config.document builtIn =
      .ok (Entry.writeAll config.entries builtIn) := by
  obtain ⟨parsed, hparse, hparsed⟩ := (Option.any_eq_true _ _).mp hspelled
  obtain ⟨document, rfl, hroot⟩ := (Option.any_eq_true _ _).mp hparsed
  exact readInto_of_lists hparse hroot config.covers_entries (by decide) builtIn

theorem load_document (hfilled : config.Filled) (hspelled : config.isSpelled)
    (hsaved : saved path = .ok config.document) : load saved path = .ok config.reloaded := by
  rw [load_eq_ok]
  refine ⟨config.reloaded, ?_, fillDefaults_reloaded hfilled⟩
  simp only [FileState.find, hsaved, sourceOf_text, readInto_document hspelled,
    writeAll_builtIn hfilled]

/-- A configuration that was resolved comes back from its document except for an interface
version and a number of kept records that are unset, for which the built-in ones come back. -/
theorem printed_config_reloads (hresolve : resolve read environment directory = .ok config)
    (hspelled : config.isSpelled) (hsaved : saved path = .ok config.document) :
    load saved path = .ok config.reloaded ∧
      (load saved path = .ok config ↔ config.abi ≠ "" ∧ config.trace.keep ≠ 0) := by
  obtain ⟨values, -, -, rfl⟩ := resolve_eq_ok.mp hresolve
  have hload := load_document (filled_merged values environment) hspelled hsaved
  refine ⟨hload, ?_⟩
  rw [hload, Except.ok.injEq, reloaded_eq_iff]

theorem printed_config_reloads_quoted :
    ∃ config : Config,
      config.trace.lead = .text "# - " ∧ config.verbose = some false ∧
      load (fun _ => .ok config.document) "saved.yaml" = .ok config := by
  let config : Config :=
    { builtIn with
      verbose := some false
      trace := { builtIn.trace with lead := "# - ", keep := 8 } }
  let saved : Reader := fun _ => .ok config.document
  have hresolve : resolve (fun _ => .ok "trace: \x7bprefix: '# - ', keep: 8\x7d\n")
      { verbose := some "0" } "" = .ok config :=
    eq_ok_of_toOption (by decide +kernel)
  have hspelled : config.isSpelled := by
    -- The parser gets the characters as they are written; the text between them need not be built.
    rw [isSpelled, parse, document, String.toList_ofList]
    decide +kernel
  have hsaved : saved "saved.yaml" = .ok config.document := rfl
  have hload := (printed_config_reloads hresolve hspelled hsaved).2.mpr (by decide)
  exact ⟨config, rfl, rfl, hload⟩

/-- A configuration that keeps all records comes back as one that keeps some. -/
theorem printed_config_forgets_keep :
    ∃ (read saved : Reader) (environment : Environment) (directory path : String)
      (config : Config), resolve read environment directory = .ok config ∧ config.isSpelled ∧
      saved path = .ok config.document ∧ load saved path ≠ .ok config := by
  let config : Config := { builtIn with trace := { builtIn.trace with keep := 0 } }
  let saved : Reader := fun _ => .ok config.document
  have hresolve : resolve (fun _ => .ok "trace:\n  keep: 0\n") {} "" = .ok config :=
    eq_ok_of_toOption (by decide +kernel)
  have hspelled : config.isSpelled := by
    rw [isSpelled, parse, document, String.toList_ofList]
    decide +kernel
  have hsaved : saved "saved.yaml" = .ok config.document := rfl
  have hfilled : config.Filled := by constructor <;> decide
  have hload := load_document hfilled hspelled hsaved
  refine ⟨_, saved, {}, "", "saved.yaml", config, hresolve, hspelled, hsaved, ?_⟩
  rw [hload, ne_eq, Except.ok.injEq, reloaded_eq_iff]
  decide

end HeadlessDesktop.Config
