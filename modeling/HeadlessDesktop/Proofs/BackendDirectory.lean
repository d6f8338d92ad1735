import HeadlessDesktop.Proofs.BackendSelection
import Mathlib.Data.List.Sort

/-! Makers are linked in and out by name. What stands under a name is settled by the last change
that counts for it, the names are in the order of their bytes, and changes of different names do
not disturb each other. -/
namespace HeadlessDesktop.Backend.Directory

open Report Text

inductive Change
  | register (name : Raw) (maker : Option Maker)
  | unregister (name : Raw)

namespace Change

def name : Change → Raw
  | .register name _ => name
  | .unregister name => name

/-- Linking in without a name or a maker does not count. -/
def counts : Change → Bool
  | .register name maker => name != "" && maker.isSome
  | .unregister _ => true

end Change

def change (directory : Directory) : Change → Directory
  | .register name maker => directory.register name maker
  | .unregister name => directory.unregister name

def changeAll (directory : Directory) (changes : List Change) : Directory :=
  changes.foldl change directory

theorem changeAll_concat (directory : Directory) (changes : List Change) (last : Change) :
    directory.changeAll (changes ++ [last]) = (directory.changeAll changes).change last :=
  List.foldl_concat ..

/-- The last change that counts for a name. -/
def deciding? (name : Raw) (changes : List Change) : Option Change :=
  (changes.filter fun change => change.counts && change.name == name).getLast?

@[simp] theorem deciding?_nil (name : Raw) : deciding? name [] = none := rfl

theorem deciding?_concat (name : Raw) (changes : List Change) (last : Change) :
    deciding? name (changes ++ [last]) =
      if last.counts ∧ last.name = name then some last else deciding? name changes := by
  unfold deciding?
  rw [List.filter_append]
  by_cases h : last.counts ∧ last.name = name
  · simp [h]
  · have hskipped : (last.counts && last.name == name) = false := by simpa using h
    simp [h, hskipped]

theorem deciding?_congr {name : Raw} {changes others : List Change}
    (h : others.filter (·.name == name) = changes.filter (·.name == name)) :
    deciding? name others = deciding? name changes := by
  unfold deciding?
  rw [← List.filter_filter, ← List.filter_filter, h]

theorem change_cases (directory : Directory) (change : Change) :
    (change.counts = false ∧ directory.change change = directory) ∨
    (∃ name maker, change = .register name (some maker) ∧ change.counts = true ∧
      (directory.change change).entries = insert name maker directory.entries) ∨
    ∃ name, change = .unregister name ∧ (directory.change change).entries =
      directory.entries.filter fun entry => entry.1 != name := by
  cases change with
  | register name maker =>
    cases maker with
    | none => exact .inl ⟨Bool.and_false _, rfl⟩
    | some maker =>
      by_cases hempty : name = ""
      · exact .inl (by simp [Directory.change, register, Change.counts, hempty])
      · refine .inr (.inl ⟨name, maker, rfl, by simp [Change.counts, hempty], ?_⟩)
        simp [Directory.change, register, hempty]
  | unregister name => exact .inr (.inr ⟨name, rfl, rfl⟩)

/-! ### The order of the entries -/

theorem ne_of_bytes_lt {first second : Raw} (h : first.bytes < second.bytes) : first ≠ second := by
  rintro rfl
  exact List.lt_irrefl _ h

theorem bytes_lt_of_not_lt {first second : Raw} (h : ¬ first.bytes < second.bytes)
    (hne : first ≠ second) : second.bytes < first.bytes := by
  rcases Std.lt_trichotomy first.bytes second.bytes with hlt | hsame | hlt
  · exact absurd hlt h
  · exact absurd (Raw.ext hsame) hne
  · exact hlt

def Increasing (entries : List (Raw × Maker)) : Prop :=
  entries.Pairwise fun first second => first.1.bytes < second.1.bytes

theorem Increasing.insert {entries : List (Raw × Maker)} (h : Increasing entries)
    (name : Raw) (maker : Maker) : Increasing (insert name maker entries) := by
  induction entries with
  | nil => exact List.pairwise_singleton _ _
  | cons entry rest ih =>
    obtain ⟨hfirst, hrest⟩ := List.pairwise_cons.mp h
    unfold Directory.insert
    split_ifs with hfront hsame
    · refine List.pairwise_cons.mpr ⟨?_, h⟩
      intro later hlater
      rcases List.mem_cons.mp hlater with rfl | hlater
      · exact hfront
      · exact List.lt_trans hfront (hfirst later hlater)
    · refine List.pairwise_cons.mpr ⟨?_, hrest⟩
      intro later hlater
      exact hsame ▸ hfirst later hlater
    · refine List.pairwise_cons.mpr ⟨?_, ih hrest⟩
      intro later hlater
      rcases mem_insert hlater with rfl | hlater
      · exact bytes_lt_of_not_lt hfront hsame
      · exact hfirst later hlater

variable {directory : Directory}

theorem Increasing.change (h : Increasing directory.entries) (change : Change) :
    Increasing (directory.change change).entries := by
  rcases directory.change_cases change with
    ⟨-, hsame⟩ | ⟨name, maker, -, -, hentries⟩ | ⟨name, -, hentries⟩
  · rwa [hsame]
  · rw [hentries]
    exact h.insert name maker
  · rw [hentries]
    exact List.Pairwise.filter _ h

theorem increasing_changeAll (changes : List Change) :
    Increasing (({} : Directory).changeAll changes).entries := by
  induction changes using List.reverseRecOn with
  | nil => exact List.Pairwise.nil
  | append_singleton changes last ih =>
    rw [changeAll_concat]
    exact ih.change last

theorem Increasing.names (h : Increasing directory.entries) :
    directory.names.Pairwise fun first second => first.bytes < second.bytes :=
  List.pairwise_map.mpr h

theorem Increasing.nodup_names (h : Increasing directory.entries) : directory.names.Nodup :=
  h.names.imp ne_of_bytes_lt

theorem Increasing.maker_eq (h : Increasing directory.entries) {name : Raw}
    {maker other : Maker} (hmaker : (name, maker) ∈ directory.entries)
    (hother : (name, other) ∈ directory.entries) : maker = other := by
  have hentry := List.inj_on_of_nodup_map h.nodup_names hmaker hother rfl
  exact congrArg Prod.snd hentry

theorem Increasing.mergeSort_eq (h : Increasing directory.entries) {collected : List Raw}
    (hnodup : collected.Nodup) (hmem : ∀ name, name ∈ collected ↔ name ∈ directory.names) :
    collected.mergeSort (fun first second => first.bytes ≤ second.bytes) = directory.names := by
  have hperm : (collected.mergeSort fun first second => first.bytes ≤ second.bytes).Perm
      directory.names :=
    (List.mergeSort_perm ..).trans ((List.perm_ext_iff_of_nodup hnodup h.nodup_names).mpr hmem)
  have htrans (first second third : Raw) (hfirst : decide (first.bytes ≤ second.bytes) = true)
      (hsecond : decide (second.bytes ≤ third.bytes) = true) :
      decide (first.bytes ≤ third.bytes) = true :=
    decide_eq_true (List.le_trans (of_decide_eq_true hfirst) (of_decide_eq_true hsecond))
  have htotal (first second : Raw) :
      (decide (first.bytes ≤ second.bytes) || decide (second.bytes ≤ first.bytes)) = true := by
    simpa using List.le_total first.bytes second.bytes
  have hsorted := List.pairwise_mergeSort htrans htotal collected
  exact hperm.eq_of_pairwise (fun _ _ _ _ hle hge => Raw.ext (List.le_antisymm hle hge))
    (hsorted.imp of_decide_eq_true) (h.names.imp List.le_of_lt)

theorem Increasing.ext (h : Increasing directory.entries) {other : Directory}
    (hother : Increasing other.entries)
    (hmem : ∀ name maker, (name, maker) ∈ other.entries ↔ (name, maker) ∈ directory.entries) :
    other = directory := by
  have hperm : other.entries.Perm directory.entries :=
    (List.perm_ext_iff_of_nodup hother.nodup_names.of_map h.nodup_names.of_map).mpr
      fun entry => hmem entry.1 entry.2
  have hentries := hperm.eq_of_pairwise (fun _ _ _ _ hlt hgt => absurd hlt (List.lt_asymm hgt))
    hother h
  cases directory
  cases other
  exact congrArg Directory.mk hentries

/-! ### What stands under a name -/

theorem Increasing.mem_insert_iff {entries : List (Raw × Maker)} (h : Increasing entries)
    {name : Raw} {maker : Maker} {entry : Raw × Maker} :
    entry ∈ Directory.insert name maker entries ↔
      entry = (name, maker) ∨ entry ∈ entries ∧ entry.1 ≠ name := by
  induction entries with
  | nil => simp [Directory.insert]
  | cons first rest ih =>
    obtain ⟨hfirst, hrest⟩ := List.pairwise_cons.mp h
    unfold Directory.insert
    split_ifs with hfront hsame
    · have hlater : ∀ entry ∈ first :: rest, entry.1 ≠ name := by
        intro entry hentry
        rcases List.mem_cons.mp hentry with rfl | hentry
        · exact (ne_of_bytes_lt hfront).symm
        · exact (ne_of_bytes_lt (List.lt_trans hfront (hfirst entry hentry))).symm
      rw [List.mem_cons, and_iff_left_of_imp (hlater entry)]
    · have hlater : ∀ entry ∈ rest, entry.1 ≠ name := by
        intro entry hentry
        exact hsame ▸ (ne_of_bytes_lt (hfirst entry hentry)).symm
      rw [List.mem_cons, List.mem_cons, or_and_right, and_iff_left_of_imp (hlater entry)]
      -- The entry in whose place the maker stands is the only one of its name.
      have hgone : ¬ (entry = first ∧ entry.1 ≠ name) := by
        rintro ⟨rfl, hne⟩
        exact hne hsame.symm
      rw [or_iff_right hgone]
    · rw [List.mem_cons, List.mem_cons, ih hrest, or_and_right]
      have hkept : entry = first ∧ entry.1 ≠ name ↔ entry = first := by
        refine and_iff_left_of_imp ?_
        rintro rfl
        exact Ne.symm hsame
      rw [hkept, or_left_comm]

theorem Increasing.mem_change_iff (h : Increasing directory.entries) {change : Change}
    {name : Raw} {maker : Maker} :
    (name, maker) ∈ (directory.change change).entries ↔
      if change.counts ∧ change.name = name then change = .register name (some maker)
      else (name, maker) ∈ directory.entries := by
  rcases directory.change_cases change with
    ⟨hcounts, hsame⟩ | ⟨changed, given, rfl, hcounts, hentries⟩ | ⟨changed, rfl, hentries⟩
  · simp [hcounts, hsame]
  · rw [hentries, h.mem_insert_iff]
    by_cases hname : changed = name
    · subst hname
      simp [Change.name, hcounts, eq_comm]
    · simp [Change.name, hname, Ne.symm hname]
  · rw [hentries, List.mem_filter]
    by_cases hname : changed = name
    · simp [Change.name, Change.counts, hname]
    · simp [Change.name, hname, Ne.symm hname]

theorem mem_changeAll_iff {changes : List Change} {name : Raw} {maker : Maker} :
    (name, maker) ∈ (({} : Directory).changeAll changes).entries ↔
      deciding? name changes = some (.register name (some maker)) := by
  -- From the end, where the change stands that decides.
  induction changes using List.reverseRecOn with
  | nil => simp [changeAll]
  | append_singleton changes last ih =>
    rw [changeAll_concat, (increasing_changeAll changes).mem_change_iff, deciding?_concat, ih]
    split_ifs
    · exact Option.some_inj.symm
    · rfl

theorem mem_names_iff {name : Raw} :
    name ∈ directory.names ↔ ∃ maker, (name, maker) ∈ directory.entries := by
  simp [names]

theorem Increasing.find?_of_mem (h : Increasing directory.entries) {name : Raw} {maker : Maker}
    (hmem : (name, maker) ∈ directory.entries) : directory.find? name = .ok maker := by
  unfold find?
  cases hfind : directory.entries.find? fun entry => name = entry.1 with
  | none => simpa using List.find?_eq_none.mp hfind (name, maker) hmem
  | some entry =>
    obtain ⟨listed, found⟩ := entry
    obtain rfl : name = listed := by simpa using List.find?_some hfind
    rw [h.maker_eq hmem (List.mem_of_find?_eq_some hfind)]

theorem make_eq_error_iff {name : Raw} {earlier : Nat} {cause : Cause} :
    directory.make name earlier = .error cause ↔
      cause = .unknownBackend name ∧ name ∉ directory.names := by
  rw [← find?_eq_error_iff]
  unfold make
  cases directory.find? name with
  | error why => simp [Except.map]
  | ok maker => simp [Except.map]

/-- What a directory shows of the changes that were made to it. -/
structure Shows (directory : Directory) (changes : List Change) : Prop where
  ordered : directory.names.Pairwise fun first second => first.bytes < second.bytes
  /-- The names come out the same in whatever order they are collected. -/
  sorted (collected : List Raw) : collected.Nodup →
    (∀ name, name ∈ collected ↔ name ∈ directory.names) →
    collected.mergeSort (fun first second => first.bytes ≤ second.bytes) = directory.names
  listed (name : Raw) : name ∈ directory.names ↔
    ∃ maker, deciding? name changes = some (.register name (some maker))
  made (name : Raw) (maker : Maker) (earlier : Nat) :
    deciding? name changes = some (.register name (some maker)) →
    directory.make name earlier = .ok (maker.make earlier)
  unknown (name : Raw) (earlier : Nat) (cause : Cause) :
    directory.make name earlier = .error cause ↔
      cause = .unknownBackend name ∧ name ∉ directory.names
  quoted (name : Raw) (earlier : Nat) (cause : Cause) :
    directory.make name earlier = .error cause →
    cause.message = "backend: unknown backend: " ++ name.quoted

/-- From nothing, a directory follows the changes that are made to it, and the order of changes of
different names does not matter. -/
theorem changes_by_name (changes : List Change) :
    (({} : Directory).changeAll changes).Shows changes ∧
    ∀ others : List Change,
      (∀ name, others.filter (·.name == name) = changes.filter (·.name == name)) →
      ({} : Directory).changeAll others = ({} : Directory).changeAll changes := by
  have hincreasing := increasing_changeAll changes
  refine ⟨?_, ?_⟩
  · exact {
      ordered := hincreasing.names
      sorted := fun collected hnodup hmem => hincreasing.mergeSort_eq hnodup hmem
      listed := fun name => by simp only [mem_names_iff, mem_changeAll_iff]
      made := fun name maker earlier hmaker => by
        rw [make, hincreasing.find?_of_mem (mem_changeAll_iff.mpr hmaker)]
        rfl
      unknown := fun name earlier cause => make_eq_error_iff
      quoted := fun name earlier cause hcause => by
        rw [(make_eq_error_iff.mp hcause).1]
        rfl }
  · intro others hothers
    refine hincreasing.ext (increasing_changeAll others) fun name maker => ?_
    rw [mem_changeAll_iff, mem_changeAll_iff, deciding?_congr (hothers name)]

/-- Two makers for one name, a change without a maker, one without a name, and a name that comes
last by its bytes. -/
theorem changes_by_name_replaced :
    let failing (why : Raw) : Maker := .linked fun _ => .returned (.error (.text why))
    let changes : List Change := [.register "é" (some (failing "first")),
      .register "stub" (some .stub), .register "qt" (some (failing "gone")),
      .register "é" (some (failing "second")), .register "é" none, .register "" (some .stub),
      .unregister "qt", .register "zed" (some .stub)]
    let others : List Change := [.register "zed" (some .stub), .register "stub" (some .stub),
      .register "" (some .stub), .register "qt" (some (failing "gone")), .unregister "qt",
      .register "é" (some (failing "first")), .register "é" (some (failing "second")),
      .register "é" none]
    let directory := ({} : Directory).changeAll changes
    [Raw.text "é", "stub", "zed"].mergeSort (fun first second => first.bytes ≤ second.bytes) =
      directory.names ∧
    directory.make "é" 0 = .ok (.linked (.returned (.error (.text "second")))) ∧
    directory.make "qt" 0 = .error (.unknownBackend "qt") ∧
    ({} : Directory).changeAll others = directory := by
  intro failing changes others directory
  obtain ⟨hshows, horder⟩ := changes_by_name changes
  have hnames : directory.names = [.text "stub", .text "zed", .text "é"] := by decide +kernel
  refine ⟨?_, hshows.made "é" (failing "second") 0 rfl, ?_, horder others fun name => ?_⟩
  · refine hshows.sorted _ (by decide) fun name => ?_
    rw [hnames]
    have hperm : [Raw.text "é", "stub", "zed"].Perm [.text "stub", "zed", "é"] := by decide +kernel
    exact hperm.mem_iff
  · refine (hshows.unknown "qt" 0 _).mpr ⟨rfl, ?_⟩
    rw [hnames]
    simp
  · by_cases hname : name = "é" ∨ name = "stub" ∨ name = "qt" ∨ name = "" ∨ name = "zed"
    · rcases hname with rfl | rfl | rfl | rfl | rfl
      all_goals rfl
    · simp only [not_or] at hname
      simp [others, changes, Change.name, hname, eq_comm (b := name)]

example : Directory.standard = ({} : Directory).changeAll [.register "stub" (some .stub)] := rfl

end HeadlessDesktop.Backend.Directory
