import HeadlessDesktop.Proofs.Utf8Pieces
import HeadlessDesktop.Yaml.Decode

/-! Records from mappings that are plain: each key is a field's name and stands there once, and no
alias is followed. Such a mapping sets the fields that it names, and finds no fault. -/
namespace HeadlessDesktop.Yaml

open Text

@[simp] theorem sourceOf_text (text : String) : sourceOf (.text text) = text := by
  unfold sourceOf
  rw [Raw.bytes_text, pieces_encodeUtf8, List.map_map]
  exact (congrArg String.ofList (List.map_id _)).trans String.ofList_toList

/-! ### Plain nodes -/

namespace Node

def holds (value : Value) : Node → Bool
  | .scalar _ tag _ text => Value.ofTagged? tag text == some value
  | _ => false

def isKey (name : String) : Node → Bool
  | .scalar _ tag _ text => text == name && Value.ofTagged? tag text == some (.text name)
  | _ => false

end Node

/-- An entry of a mapping: its key, the nodes that may stand behind it, and what they set. -/
structure Entry (σ : Type) where
  name : String
  fits : Node → Bool
  write : σ → σ

namespace Entry

variable {σ : Type}

def writeAll (entries : List (Entry σ)) (old : σ) : σ :=
  entries.foldl (fun value entry => entry.write value) old

@[simp] theorem writeAll_nil (old : σ) : writeAll [] old = old := rfl

@[simp] theorem writeAll_cons (entry : Entry σ) (entries : List (Entry σ)) (old : σ) :
    writeAll (entry :: entries) old = writeAll entries (entry.write old) := rfl

@[simp] theorem writeAll_append (entries more : List (Entry σ)) (old : σ) :
    writeAll (entries ++ more) old = writeAll more (writeAll entries old) :=
  List.foldl_append

def fitAll : List (Entry σ) → List (Node × Node) → Bool
  | [], [] => true
  | entry :: entries, (key, node) :: pairs =>
    key.isKey entry.name && entry.fits node && fitAll entries pairs
  | _, _ => false

end Entry

def Node.lists {σ : Type} (entries : List (Entry σ)) : Node → Bool
  | .mapping _ _ pairs => Entry.fitAll entries pairs
  | _ => false

namespace Decode

/-! ### Work without faults -/

/-- Work that ends with a value, whatever was found before, and adds no fault. -/
def Gives {α : Type} (work : Decode α) (value : α) : Prop :=
  ∀ tally : Tally, tally.aliased = 0 → tally.taken = none →
    ∃ after, work.run tally = .ok (value, after) ∧
      after.faults = tally.faults ∧ after.aliased = 0 ∧ after.taken = none

variable {α β σ : Type} {value : α} {result : β} {scope : Scope} {node : Node}

theorem gives_pure (value : α) : Gives (pure value) value :=
  fun tally haliased htaken => ⟨tally, rfl, rfl, haliased, htaken⟩

theorem Gives.bind {work : Decode α} {next : α → Decode β} (hwork : Gives work value)
    (hnext : Gives (next value) result) : Gives (work >>= next) result := by
  intro tally haliased htaken
  obtain ⟨middle, hmiddle, hfaults, haliased, htaken⟩ := hwork tally haliased htaken
  obtain ⟨after, hafter, hsame, hcalm⟩ := hnext middle haliased htaken
  refine ⟨after, ?_, hsame.trans hfaults, hcalm⟩
  rw [StateT.run_bind, hmiddle]
  exact hafter

theorem gives_setTaken : Gives (setTaken none) () :=
  fun tally haliased _ => ⟨{ tally with taken := none }, rfl, rfl, haliased, rfl⟩

theorem gives_get {next : Tally → Decode α}
    (hnext : ∀ tally, tally.taken = none → Gives (next tally) value) :
    Gives (get >>= next) value := by
  intro tally haliased htaken
  rw [StateT.run_bind, StateT.run_get]
  exact hnext tally htaken tally haliased htaken

theorem isExcessive_zero (decoded : Nat) : isExcessive decoded 0 = false := by
  simp [isExcessive]

theorem gives_visit (hscope : scope.following = []) : Gives (visit scope) () := by
  intro tally haliased htaken
  refine ⟨{ tally with decoded := tally.decoded + 1 }, ?_, rfl, haliased, htaken⟩
  cases tally
  subst haliased
  simp only [visit, hscope, isExcessive_zero, StateT.run_bind, StateT.run_get, pure_bind,
    List.isEmpty_nil, if_true, Bool.false_eq_true, if_false]
  rfl

theorem gives_reach (hscope : scope.following = [])
    (hnode : ∀ line name slot number, node ≠ .alias line name slot number) :
    Gives (reach scope node) (node, scope) := by
  refine (gives_visit hscope).bind ?_
  cases node with
  | scalar => exact gives_pure _
  | sequence => exact gives_pure _
  | mapping => exact gives_pure _
  | _ line name slot number => exact absurd rfl (hnode line name slot number)

/-! ### Scalars -/

theorem gives_scalar {line : Nat} {tag text : String} {style : Style} {written : Value}
    (hnode : (Node.scalar line tag style text).holds written) (target : String) :
    Gives (scalar (.scalar line tag style text) target) (some (written, text)) := by
  simp only [scalar, eq_of_beq hnode]
  exact gives_pure _

theorem gives_string? (hscope : scope.following = []) {text : Raw}
    (hnode : node.holds (.text text)) : Gives (string? scope node) (some text) := by
  cases node with
  | scalar =>
    have hscalar := gives_scalar hnode "string"
    exact (gives_reach hscope (by simp)).bind (hscalar.bind (gives_pure _))
  | _ => contradiction

theorem gives_string (hscope : scope.following = []) {text : Raw}
    (hnode : node.holds (.text text)) (old : Raw) : Gives (string scope node old) text :=
  (gives_string? hscope hnode).bind (gives_pure _)

theorem wholeNumber?_int (number : Int64) :
    wholeNumber? (.int number.toInt) = some number.toInt := by
  have hrange : Integer.isSigned64 number.toInt = true := by
    have hlow := Int64.le_toInt number
    have hhigh := Int64.toInt_lt number
    simp only [Integer.isSigned64, Bool.and_eq_true, decide_eq_true_eq]
    omega
  rw [wholeNumber?, if_pos hrange]

theorem gives_int (hscope : scope.following = []) {number : Int64}
    (hnode : node.holds (.int number.toInt)) (old : Int64) :
    Gives (int scope node old) number := by
  cases node with
  | scalar =>
    have hscalar := gives_scalar hnode "int"
    refine (gives_reach hscope (by simp)).bind (hscalar.bind ?_)
    simp only [wholeNumber?_int, Int64.ofInt_toInt]
    exact gives_pure number
  | _ => contradiction

theorem gives_bool (hscope : scope.following = []) {answer : Bool}
    (hnode : node.holds (.bool answer)) (old : Option Bool) :
    Gives (bool scope node old) (some answer) := by
  cases node with
  | scalar =>
    exact (gives_reach hscope (by simp)).bind ((gives_scalar hnode _).bind (gives_pure _))
  | _ => contradiction

/-! ### Mappings -/

/-- A record type has a field that reads an entry as the entry says. -/
structure Reads (type : RecordType σ) (entry : Entry σ) : Prop where
  noMerge : entry.name ≠ "<<"
  field : ∃ read,
    type.fields.find? (fun field => Raw.text entry.name = field.1) = some (entry.name, read) ∧
    ∀ scope node old, scope.following = [] → entry.fits node →
      Gives (read scope node old) (entry.write old)

structure Covers (type : RecordType σ) (names : List String) (entries : List (Entry σ)) :
    Prop where
  reads : ∀ entry ∈ entries, Reads type entry
  within : (entries.map Entry.name).Sublist names

theorem Covers.append {type : RecordType σ} {names others : List String}
    {entries more : List (Entry σ)} (hentries : Covers type names entries)
    (hmore : Covers type others more) : Covers type (names ++ others) (entries ++ more) where
  reads := List.forall_mem_append.mpr ⟨hentries.reads, hmore.reads⟩
  within := by
    rw [List.map_append]
    exact hentries.within.append hmore.within

theorem eq_scalar_of_isKey {key : Node} {name : String} (h : key.isKey name) :
    ∃ line tag style, key = .scalar line tag style name ∧ key.holds (.text name) := by
  cases key with
  | scalar line tag style text =>
    simp only [Node.isKey, Bool.and_eq_true, beq_iff_eq] at h
    obtain ⟨rfl, htext⟩ := h
    exact ⟨line, tag, style, rfl, beq_iff_eq.mpr htext⟩
  | _ => contradiction

theorem keyTexts_of_fitAll {entries : List (Entry σ)} {pairs : List (Node × Node)}
    (hfit : Entry.fitAll entries pairs) :
    pairs.map (fun pair => TypeFault.keyText pair.1) =
      entries.map fun entry => (0, entry.name) := by
  fun_induction Entry.fitAll entries pairs with
  | case1 => rfl
  | case2 entry entries key node pairs ih =>
    simp only [Bool.and_eq_true] at hfit
    obtain ⟨line, tag, style, rfl, -⟩ := eq_scalar_of_isKey hfit.1.1
    rw [List.map_cons, List.map_cons, ih hfit.2]
    rfl
  | case3 => contradiction

theorem duplicates_eq_nil {pairs : List (Node × Node)}
    (h : (pairs.map fun pair => TypeFault.keyText pair.1).Nodup) :
    TypeFault.duplicates pairs = [] := by
  induction pairs with
  | nil => rfl
  | cons pair rest ih =>
    rw [List.map_cons, List.nodup_cons, List.mem_map] at h
    rw [TypeFault.duplicates, ih h.2, List.append_nil, List.filterMap_eq_nil_iff]
    intro other hother
    exact if_neg fun hsame => h.1 ⟨other, hother, hsame⟩

variable {type : RecordType σ}

theorem gives_entry {entry : Entry σ} (hreads : Reads type entry) (hscope : scope.following = [])
    {key : Node} (hkey : key.isKey entry.name) (hnode : entry.fits node) {progress : Progress σ}
    (htaken : progress.taken = none) (hdone : Raw.text entry.name ∉ progress.done) :
    Gives (Decode.entry type scope progress (key, node))
      { progress with
        value := entry.write progress.value
        done := .text entry.name :: progress.done } := by
  obtain ⟨hname, read, hfind, hread⟩ := hreads
  obtain ⟨line, tag, style, rfl, hholds⟩ := eq_scalar_of_isKey hkey
  have hvalue := hread scope node progress.value hscope hnode
  have hmerge : isMerge (.scalar line tag style entry.name) = false := by
    simp [isMerge, hname]
  simp only [Decode.entry, hmerge]
  refine (gives_string? hscope hholds).bind ?_
  simp only [htaken, hfind, Option.any_none, Option.map_none, List.contains_eq_mem, hdone,
    decide_false, Bool.false_eq_true, if_false]
  exact hvalue.bind (gives_pure _)

theorem gives_entries {entries : List (Entry σ)} (hreads : ∀ entry ∈ entries, Reads type entry)
    (hnames : (entries.map Entry.name).Nodup) (hscope : scope.following = [])
    {pairs : List (Node × Node)} (hfit : Entry.fitAll entries pairs) {progress : Progress σ}
    (htaken : progress.taken = none)
    (hdone : ∀ entry ∈ entries, Raw.text entry.name ∉ progress.done) :
    ∃ done, Gives (pairs.foldlM (Decode.entry type scope) progress)
      { progress with value := Entry.writeAll entries progress.value, done } := by
  fun_induction Entry.fitAll entries pairs generalizing progress with
  | case1 => exact ⟨progress.done, gives_pure progress⟩
  | case2 entry entries key node pairs ih =>
    simp only [Bool.and_eq_true] at hfit
    rw [List.forall_mem_cons] at hreads hdone
    rw [List.map_cons, List.nodup_cons] at hnames
    have hfirst := gives_entry hreads.1 hscope hfit.1.1 hfit.1.2 htaken hdone.1
    have hfresh : ∀ other ∈ entries,
        Raw.text other.name ∉ Raw.text entry.name :: progress.done := by
      intro other hother hmem
      rcases List.mem_cons.mp hmem with hsame | hold
      · exact hnames.1 (Raw.text_inj.mp hsame ▸ List.mem_map_of_mem hother)
      · exact hdone.2 other hother hold
    let next : Progress σ :=
      { progress with
        value := entry.write progress.value
        done := .text entry.name :: progress.done }
    have hnext : next.taken = none := htaken
    obtain ⟨done, hrest⟩ := ih hreads.2 hnames.2 hfit.2 hnext hfresh
    exact ⟨done, hfirst.bind hrest⟩
  | case3 => contradiction

theorem gives_record {names : List String} {entries : List (Entry σ)}
    (hcovers : Covers type names entries) (hnames : names.Nodup) (hscope : scope.following = [])
    (hnode : node.lists entries) (steps : Nat) (old : σ) :
    Gives (record type (steps + 1) scope node old) (Entry.writeAll entries old) := by
  cases node with
  | mapping line tag pairs =>
    have hdistinct := hnames.sublist hcovers.within
    have hpairs : TypeFault.duplicates pairs = [] := by
      apply duplicates_eq_nil
      rw [keyTexts_of_fitAll hnode]
      rw [List.Nodup, List.pairwise_map] at hdistinct ⊢
      exact hdistinct.imp fun hne hsame => hne (Prod.mk.inj hsame).2
    let start : Progress σ := { value := old }
    have htaken : start.taken = none := rfl
    obtain ⟨done, hentries⟩ :=
      gives_entries hcovers.reads hdistinct hscope hnode htaken (by simp [start])
    rw [record]
    refine (gives_reach hscope (by simp)).bind ?_
    simp only [hpairs]
    refine gives_get fun tally htally => gives_setTaken.bind ?_
    rw [htally]
    exact hentries.bind (gives_setTaken.bind (gives_pure _))
  | _ => contradiction

end Decode

theorem readInto_of_lists {σ : Type} {type : Nat → Decode.RecordType σ} {text : String}
    {document : Document} {names : List String} {entries : List (Entry σ)}
    (hparse : parse text = some (some document)) (hroot : document.root.lists entries)
    (hcovers : ∀ steps, Decode.Covers (type (steps + 1)) names entries) (hnames : names.Nodup)
    (old : σ) : readInto type text old = .ok (Entry.writeAll entries old) := by
  obtain ⟨steps, hsteps⟩ : ∃ steps, (text.length + 2) * (text.length + 2) = steps + 1 :=
    Nat.exists_eq_add_one.mpr (Nat.mul_pos (Nat.succ_pos _) (Nat.succ_pos _))
  let scope : Decode.Scope := { document }
  have hscope : scope.following = [] := rfl
  have hrecord := Decode.gives_record (hcovers steps) hnames hscope hroot steps old
  have hwork : Decode.Gives
      (do Decode.visit scope; Decode.record (type (steps + 1)) (steps + 1) scope document.root old)
      (Entry.writeAll entries old) :=
    (Decode.gives_visit hscope).bind hrecord
  obtain ⟨⟨faults, decoded, aliased, taken⟩, hrun, hfaults, -⟩ := hwork {} rfl rfl
  obtain rfl : faults = [] := hfaults
  simp only [readInto, hparse, hsteps]
  rw [hrun]

end HeadlessDesktop.Yaml
