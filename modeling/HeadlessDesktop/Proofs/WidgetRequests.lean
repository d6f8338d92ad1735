import HeadlessDesktop.Inspect.Endpoint
import HeadlessDesktop.Proofs.AcceptedVersions
import HeadlessDesktop.Proofs.FaithfulTrace

/-! Requests for widgets. A text in the place of an id is read as a number exactly if it is one of
decimal digits below the limit, and then it names a widget exactly if that many have been created.
Requests only look, but for the one that quits the loop. -/
namespace HeadlessDesktop

open Backend Text

namespace Text

theorem foldlM_appendDigit {digits : List Char} (h : ∀ c ∈ digits, c.isDigit) (init : Nat) :
    digits.foldlM (appendDigit 10) init = some (Nat.ofDigitChars 10 digits init) := by
  induction digits generalizing init with
  | nil => rfl
  | cons c rest ih =>
    obtain ⟨d, hd, rfl⟩ := Version.exists_digitChar (h c List.mem_cons_self)
    have hvalue : d.digitChar.toNat - '0'.toNat = d := by
      rw [Nat.toNat_digitChar_of_lt_ten hd]
      exact Nat.add_sub_cancel_left 48 d
    rw [List.foldlM_cons, appendDigit_digitChar init (by decide) hd, Nat.ofDigitChars_cons, hvalue,
      Nat.mul_comm init]
    exact ih (fun c hc => h c (List.mem_cons_of_mem _ hc)) _

theorem numeral?_of_isDigit {digits : List Char} (hne : digits ≠ [])
    (h : ∀ c ∈ digits, c.isDigit) : numeral? 10 digits = some (Nat.ofDigitChars 10 digits 0) := by
  rw [numeral?_eq hne, foldlM_appendDigit h]

theorem splitAtChar_eq_iff {separator : Char} {text : List Char} {pieces : List (List Char)}
    (hne : pieces ≠ []) (hpieces : ∀ piece ∈ pieces, separator ∉ piece) :
    splitAtChar separator text = pieces ↔ text = [separator].intercalate pieces := by
  rw [Version.splitAtChar_eq]
  constructor
  · rintro rfl
    exact (List.intercalate_splitOn separator).symm
  · rintro rfl
    exact List.splitOn_intercalate separator hpieces hne

end Text

namespace Inspect

/-! ### Ids -/

def IsNumeral (text : String) : Prop := ∀ c ∈ text.toList, c.isDigit

instance (text : String) : Decidable (IsNumeral text) :=
  List.decidableBAll (fun c : Char => c.isDigit) text.toList

def valueOf (text : String) : Nat := Nat.ofDigitChars 10 text.toList 0

theorem parseId?_eq {text : String} (hne : text ≠ "") :
    parseId? text =
      if IsNumeral text ∧ valueOf text < UInt64.size then some (UInt64.ofNat (valueOf text))
      else none := by
  have hdigits : (text.toList.all fun c => (digitValue? c).isSome) = true ↔ IsNumeral text := by
    simp only [List.all_eq_true, Version.isSome_digitValue?_eq]
    rfl
  unfold parseId?
  by_cases hnumeral : IsNumeral text
  · have hnumber : numeral? 10 text.toList = some (valueOf text) :=
      numeral?_of_isDigit (by simpa using hne) hnumeral
    rw [if_pos (hdigits.mpr hnumeral), hnumber]
    simp only [hnumeral, true_and]
  · rw [if_neg (mt hdigits.mp hnumeral), if_neg fun h => hnumeral h.1]

/-- How a text stands to the widgets there are. -/
inductive Verdict (stub : Stub) (text : String) : Except Response Widget → Prop
  | found {id : WidgetId} {widget : Widget} (numeral : IsNumeral text)
    (value : id.toNat = valueOf text) (known : stub.lookup? id = some widget) :
    Verdict stub text (.ok widget)
  | unknown {id : WidgetId} (numeral : IsNumeral text) (value : id.toNat = valueOf text)
    (missing : stub.lookup? id = none) :
    Verdict stub text (.error (.failure 404 "widget not found"))
  | invalid (bad : ¬ IsNumeral text ∨ UInt64.size ≤ valueOf text) :
    Verdict stub text (.error (.failure 400 "invalid widget id"))

theorem verdict (stub : Stub) {text : String} (hne : text ≠ "") :
    Verdict stub text (findWidget stub text) := by
  unfold findWidget
  rw [parseId?_eq hne]
  by_cases hread : IsNumeral text ∧ valueOf text < UInt64.size
  · obtain ⟨hnumeral, hlt⟩ := hread
    have hvalue : (UInt64.ofNat (valueOf text)).toNat = valueOf text :=
      UInt64.toNat_ofNat_of_lt' hlt
    rw [if_pos ⟨hnumeral, hlt⟩]
    dsimp only
    cases hlookup : stub.lookup? (UInt64.ofNat (valueOf text)) with
    | some widget => exact .found hnumeral hvalue hlookup
    | none => exact .unknown hnumeral hvalue hlookup
  · rw [if_neg hread]
    refine .invalid ?_
    rw [not_and_or, Nat.not_lt] at hread
    exact hread

/-! ### Paths -/

def widgetRequest (text : String) : Request := { method := "GET", path := "/widgets/" ++ text }

def childrenRequest (text : String) : Request :=
  { method := "GET", path := "/widgets/" ++ text ++ "/children" }

theorem ofPath?_widget {text : String} (hne : text ≠ "") (hslash : '/' ∉ text.toList) :
    Endpoint.ofPath? (widgetRequest text).path = some (.widget text) := by
  have hsplit : splitAtChar '/' ("/widgets/" ++ text).toList =
      [[], "widgets".toList, text.toList] := by
    refine (splitAtChar_eq_iff (by simp) ?_).mpr ?_
    · simpa using hslash
    · simp
  unfold Endpoint.ofPath? widgetRequest
  rw [hsplit]
  simp [hne]

theorem ofPath?_children {text : String} (hslash : '/' ∉ text.toList) :
    Endpoint.ofPath? (childrenRequest text).path = some (.children text) := by
  have hsplit : splitAtChar '/' ("/widgets/" ++ text ++ "/children").toList =
      [[], "widgets".toList, text.toList, "children".toList] := by
    refine (splitAtChar_eq_iff (by simp) ?_).mpr ?_
    · simpa using hslash
    · simp
  unfold Endpoint.ofPath? childrenRequest
  rw [hsplit]
  simp

theorem ofPath?_eq_quit {path : String} :
    Endpoint.ofPath? path = some .quit ↔ path = "/loop/quit" := by
  constructor
  · intro h
    unfold Endpoint.ofPath? at h
    split at h
    all_goals simp at h
    rename_i hpieces
    have hsplit : splitAtChar '/' path.toList = [[], "loop".toList, "quit".toList] := by
      simpa [Function.comp_def] using congrArg (List.map String.toList) hpieces
    rw [splitAtChar_eq_iff (by simp) (by simp)] at hsplit
    exact String.toList_inj.mp hsplit
  · rintro rfl
    rfl

/-! ### What a request leaves behind -/

variable (stub : Stub) (traces : Option Trace.Recorder)

theorem respond_of_ofPath? {request : Request} {endpoint : Endpoint}
    (hpath : Endpoint.ofPath? request.path = some endpoint)
    (hmethod : request.method = endpoint.method) :
    respond stub traces request = serve stub traces endpoint := by
  unfold respond
  rw [hpath]
  exact if_pos hmethod

theorem snd_serve {endpoint : Endpoint} (h : endpoint ≠ .quit) :
    (serve stub traces endpoint).2 = (stub, []) := by
  cases endpoint with
  | quit => exact absurd rfl h
  | _ => rfl

theorem snd_respond (request : Request) :
    (respond stub traces request).2 =
      if request.method = "POST" ∧ request.path = "/loop/quit" then stub.mainQuit
      else (stub, []) := by
  by_cases hquit : request.method = "POST" ∧ request.path = "/loop/quit"
  · rw [if_pos hquit, respond_of_ofPath? stub traces (ofPath?_eq_quit.mpr hquit.2) hquit.1]
    rfl
  · rw [if_neg hquit]
    unfold respond
    split
    · rfl
    · rename_i endpoint hpath
      split
      · rename_i hmethod
        apply snd_serve
        rintro rfl
        exact hquit ⟨hmethod, ofPath?_eq_quit.mp hpath⟩
      · split
        · rfl
        · rfl

theorem registry_respond (request : Request) :
    (respond stub traces request).2.1.registry = stub.registry := by
  rw [snd_respond]
  split
  · exact (stub.obey_follows .mainQuit).1
  · rfl

end Inspect

namespace Stub

/-- The states that a stub comes to. Calls, the ends of main calls and requests from outside follow
each other in any order, and the trace may be switched or led elsewhere between them. -/
inductive Reachable : Stub → Prop
  | start (tracing : Tracing) (policy : Policy) : Reachable { tracing, policy }
  | obey {stub : Stub} (call : Call) : Reachable stub → Reachable (stub.obey call)
  | finishMain {stub : Stub} : Reachable stub → Reachable stub.finishMain.1
  | respond {stub : Stub} (traces : Option Trace.Recorder) (request : Inspect.Request) :
    Reachable stub → Reachable (Inspect.respond stub traces request).2.1
  | retrace {stub : Stub} (tracing : Tracing) : Reachable stub → Reachable { stub with tracing }

theorem Reachable.dense {stub : Stub} (reachable : stub.Reachable)
    (room : stub.registry.size + 1 < UInt64.size) : stub.registry.Dense := by
  induction reachable with
  | start tracing policy => exact Registry.grounded_empty.dense
  | @obey stub call _ ih =>
    have hsize := stub.size_obey call
    exact dense_obey (ih (by omega)) call room
  | @finishMain stub _ ih =>
    rw [stub.finishMain_follows.1] at room ⊢
    exact ih room
  | @respond stub traces request _ ih =>
    rw [Inspect.registry_respond] at room ⊢
    exact ih room
  | retrace tracing _ ih => exact ih room

end Stub

namespace Inspect

def answered (shown : Widget → Json) : Except Response Widget → Response
  | .ok widget => .json 200 (shown widget)
  | .error response => response

/-- The status of a response says how a text stands to the widgets there are. -/
structure TellsApart (stub : Stub) (text : String) (response : Response) : Prop where
  ok_iff : response.status = 200 ↔
    IsNumeral text ∧ 1 ≤ valueOf text ∧ valueOf text ≤ stub.registry.size
  notFound_iff : response.status = 404 ↔ IsNumeral text ∧
    (valueOf text = 0 ∨ stub.registry.size + 1 ≤ valueOf text ∧ valueOf text < UInt64.size)
  badRequest_iff : response.status = 400 ↔ ¬ IsNumeral text ∨ UInt64.size ≤ valueOf text
  notFound : response.status = 404 → response = .failure 404 "widget not found"
  badRequest : response.status = 400 → response = .failure 400 "invalid widget id"

theorem Verdict.tellsApart {stub : Stub} {text : String} {found : Except Response Widget}
    (verdict : Verdict stub text found) (dense : stub.registry.Dense) (shown : Widget → Json) :
    TellsApart stub text (answered shown found) := by
  have hissued (id : WidgetId) : (stub.lookup? id).isSome ↔
      1 ≤ id.toNat ∧ id.toNat ≤ stub.registry.size := dense.isSome_lookup?_iff id
  have hread {id : WidgetId} (numeral : IsNumeral text) (value : id.toNat = valueOf text) :
      ¬ (¬ IsNumeral text ∨ UInt64.size ≤ valueOf text) := by
    have hlt : id.toNat < UInt64.size := id.toNat_lt
    rw [not_or, not_not]
    exact ⟨numeral, by omega⟩
  cases verdict with
  | @found id widget numeral value known =>
    have hrange := (hissued id).mp (by rw [known]; rfl)
    rw [value] at hrange
    exact ⟨iff_of_true rfl ⟨numeral, hrange⟩, iff_of_false nofun (by omega),
      iff_of_false nofun (hread numeral value), nofun, nofun⟩
  | @unknown id numeral value missing =>
    have hrange := mt (hissued id).mpr (by rw [missing]; nofun)
    have hlt : id.toNat < UInt64.size := id.toNat_lt
    rw [value] at hrange
    exact ⟨iff_of_false nofun fun h => hrange h.2, iff_of_true rfl ⟨numeral, by omega⟩,
      iff_of_false nofun (hread numeral value), fun _ => rfl, nofun⟩
  | invalid bad =>
    -- Fewer ids have been issued than there are, so no widget has a number beyond them.
    have hsize : stub.registry.size + 1 < UInt64.size :=
      dense.next_toNat ▸ stub.registry.next.toNat_lt
    refine ⟨iff_of_false nofun ?_, iff_of_false nofun ?_, iff_of_true rfl bad, nofun, fun _ => rfl⟩
    · rintro ⟨hnumeral, -, hhigh⟩
      have hlarge := bad.resolve_left (not_not.mpr hnumeral)
      omega
    · rintro ⟨hnumeral, hout⟩
      have hlarge := bad.resolve_left (not_not.mpr hnumeral)
      omega

/-- Every text is told apart: it names a widget, or it is a number that names none, or it is no
number of an id at all. Whatever is asked, no widget changes, and nothing else does unless the loop
is told to quit. The bound leaves out only stubs with more widgets than there are ids. -/
theorem requests_told_apart {stub : Stub} (reachable : stub.Reachable)
    (room : stub.registry.size + 1 < UInt64.size) (traces : Option Trace.Recorder) (text : String)
    (hne : text ≠ "") (hslash : '/' ∉ text.toList) :
    let one := (respond stub traces (widgetRequest text)).1
    let below := (respond stub traces (childrenRequest text)).1
    TellsApart stub text one ∧ TellsApart stub text below ∧
    (one.status = 200 → ∃ id widget, id.toNat = valueOf text ∧ stub.lookup? id = some widget ∧
      widget.id = id ∧ one = .json 200 widget.toJson ∧
      below = .json 200 (.array ((stub.registry.children id).map Widget.toJson)) ∧
      (stub.registry.children id = [] → below.body = "[]\n")) ∧
    ∀ request,
      (respond stub traces request).2.1.registry = stub.registry ∧
      (respond stub traces request).2 =
        if request.method = "POST" ∧ request.path = "/loop/quit" then stub.mainQuit
        else (stub, []) := by
  intro one below
  have dense := reachable.dense room
  have hverdict := verdict stub hne
  have hone : one = answered Widget.toJson (findWidget stub text) :=
    congrArg Prod.fst (respond_of_ofPath? stub traces (ofPath?_widget hne hslash) rfl)
  have hbelow : below = answered
      (fun widget => .array ((stub.registry.children widget.id).map Widget.toJson))
      (findWidget stub text) :=
    congrArg Prod.fst (respond_of_ofPath? stub traces (ofPath?_children hslash) rfl)
  rw [hone, hbelow]
  generalize findWidget stub text = found at hverdict
  refine ⟨hverdict.tellsApart dense _, hverdict.tellsApart dense _, ?_, ?_⟩
  · intro hok
    cases hverdict with
    | @found id widget numeral value known =>
      obtain rfl := dense.id_of_lookup? known
      refine ⟨widget.id, widget, value, known, rfl, rfl, rfl, fun hnone => ?_⟩
      simp only [answered, hnone]
      rfl
    | unknown => contradiction
    | invalid => contradiction
  · exact fun request => ⟨registry_respond stub traces request, snd_respond stub traces request⟩

theorem requests_told_apart_running :
    let stub := Stub.obeyAll {} [.windowNew "w" 3 4, .buttonNew "b", .setParent 2 1, .main]
    stub.Reachable ∧ stub.registry.size + 1 < UInt64.size ∧
    (respond stub none (widgetRequest "002")).1.status = 200 ∧
    (respond stub none (childrenRequest "002")).1.body = "[]\n" ∧
    (respond stub none (childrenRequest "18446744073709551616")).1.status = 400 ∧
    (respond stub none ⟨"GET", "/loop/quit"⟩).2 = (stub, []) ∧
    (respond stub none ⟨"POST", "/loop/quit"⟩).2.1.phase = .stopping := by
  intro stub
  have hreachable : stub.Reachable :=
    .obey .main (.obey (.setParent 2 1) (.obey (.buttonNew "b") (.obey (.windowNew "w" 3 4)
      (.start none .permissive))))
  have hroom : stub.registry.size + 1 < UInt64.size := by decide
  obtain ⟨hone, -, hfound, hrequests⟩ :=
    requests_told_apart hreachable hroom none "002" (by decide) (by decide)
  obtain ⟨-, hlarge, -, -⟩ :=
    requests_told_apart hreachable hroom none "18446744073709551616" (by decide) (by decide)
  have hok : (respond stub none (widgetRequest "002")).1.status = 200 :=
    hone.ok_iff.mpr ⟨by decide, by decide, by decide⟩
  refine ⟨hreachable, hroom, hok, ?_, hlarge.badRequest_iff.mpr (.inr (by decide)), ?_, ?_⟩
  · obtain ⟨id, widget, hid, -, -, -, -, hnone⟩ := hfound hok
    obtain rfl : id = 2 := UInt64.toNat_inj.mp hid
    exact hnone (by decide)
  · exact (hrequests ⟨"GET", "/loop/quit"⟩).2
  · rw [(hrequests ⟨"POST", "/loop/quit"⟩).2]
    rfl

end Inspect

end HeadlessDesktop
