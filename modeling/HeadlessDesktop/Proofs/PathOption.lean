import HeadlessDesktop.CommandLine.Run

/-! The option for the path of the configuration. It may stand anywhere among the arguments:
what they ask for is the same with and without it, and a command sees the path that was given
last, whatever was run before. -/
namespace HeadlessDesktop.CommandLine

/-- The paths in a list of arguments. The bare option takes the argument behind it, whatever
that looks like. -/
def pathsGiven : List String → List String
  | [] => []
  | argument :: rest =>
    if argument = pathOption then
      match rest with
      | [] => []
      | path :: rest => path :: pathsGiven rest
    else (inlinePath? argument).toList ++ pathsGiven rest

def inlineOption (path : String) : String := pathOption ++ "=" ++ path

def Invocation.withoutPath : Invocation → Invocation
  | .run command arguments _ => .run command arguments ""
  | invocation => invocation

theorem inlinePath?_eq_some_iff (argument path : String) :
    inlinePath? argument = some path ↔ argument = inlineOption path := by
  unfold inlinePath? inlineOption
  simp only [Option.ite_none_right_eq_some, Option.some.injEq, List.isPrefixOf_iff_prefix]
  constructor
  · rintro ⟨⟨rest, hrest⟩, rfl⟩
    apply String.toList_injective
    simp [← hrest]
  · rintro rfl
    simp

theorem inlinePath?_of_asks {argument : String}
    (h : asksForHelp argument = true ∨ asksForVersion argument = true) :
    inlinePath? argument = none := by
  simp only [asksForHelp, asksForVersion, Bool.or_eq_true, beq_iff_eq] at h
  rcases h with ((rfl | rfl) | rfl) | ((rfl | rfl) | rfl)
  all_goals decide

/-! ### The scan, argument by argument -/

inductive Reading
  | help
  | version
  | takes (path : String)
  | keeps

def reading (kept : List String) (argument : String) : Reading :=
  if asksForHelp argument then if kept.isEmpty then .help else .keeps
  else if asksForVersion argument then if kept.isEmpty then .version else .keeps
  else match inlinePath? argument with
    | some path => .takes path
    | none => .keeps

theorem reading_inline (kept : List String) (path : String) :
    reading kept (inlineOption path) = .takes path := by
  have hinline := (inlinePath?_eq_some_iff (inlineOption path) path).mpr rfl
  have hneither : ¬ (asksForHelp (inlineOption path) = true ∨
      asksForVersion (inlineOption path) = true) := by
    intro hasks
    rw [inlinePath?_of_asks hasks] at hinline
    contradiction
  rw [not_or] at hneither
  unfold reading
  rw [if_neg hneither.1, if_neg hneither.2, hinline]

theorem toList_inlinePath? (kept : List String) (argument : String) :
    (inlinePath? argument).toList =
      match reading kept argument with
      | .takes path => [path]
      | .help | .version | .keeps => [] := by
  by_cases hasks : asksForHelp argument = true ∨ asksForVersion argument = true
  · rw [inlinePath?_of_asks hasks]
    unfold reading
    grind
  · rw [not_or] at hasks
    unfold reading
    rw [if_neg hasks.1, if_neg hasks.2]
    cases inlinePath? argument with
    | none => rfl
    | some path => rfl

theorem scan_bare (kept : List String) (path given : String) (rest : List String) :
    scan kept path (pathOption :: given :: rest) = scan kept given rest := by
  rw [scan, if_neg (by decide), if_neg (by decide), if_pos rfl]

theorem scan_cons {argument : String} (hbare : argument ≠ pathOption) (kept : List String)
    (path : String) (rest : List String) :
    scan kept path (argument :: rest) =
      match reading kept argument with
      | .help => (.help, path)
      | .version => (.version, path)
      | .takes given => scan kept given rest
      | .keeps => scan (kept ++ [argument]) path rest := by
  rw [scan.eq_def]
  simp only [hbare, if_false]
  unfold reading
  split
  · split
    · rfl
    · rfl
  · split
    · split
      · rfl
      · rfl
    · cases inlinePath? argument with
      | none => rfl
      | some given => rfl

theorem scan_inline (kept : List String) (path given : String) (rest : List String) :
    scan kept path (inlineOption given :: rest) = scan kept given rest := by
  have hbare : inlineOption given ≠ pathOption := by
    intro h
    have hinline := (inlinePath?_eq_some_iff (inlineOption given) given).mpr rfl
    have hnone : inlinePath? pathOption = none := by decide
    rw [h, hnone] at hinline
    contradiction
  rw [scan_cons hbare, reading_inline]

theorem fst_scan (kept : List String) (path other : String) (arguments : List String) :
    (scan kept path arguments).1 = (scan kept other arguments).1 := by
  fun_induction pathsGiven arguments generalizing kept path other with
  | case1 => rfl
  | case2 => rfl
  | case3 given rest ih => rw [scan_bare, scan_bare]
  | case4 argument rest hbare ih =>
    rw [scan_cons hbare, scan_cons hbare]
    cases reading kept argument with
    | help => rfl
    | version => rfl
    | takes given => rfl
    | keeps => exact ih _ _ _

/-- A scan that is not short of a path stops for good, or goes on from where it stands. -/
theorem scan_append {kept first : List String} {path : String}
    (hready : (scan kept path first).1 ≠ .missingPath) (second : List String) :
    scan kept path (first ++ second) =
      match scan kept path first with
      | (.arguments kept, path) => scan kept path second
      | stopped => stopped := by
  fun_induction pathsGiven first generalizing kept path with
  | case1 => rfl
  | case2 => exact absurd rfl hready
  | case3 given rest ih =>
    rw [scan_bare] at hready ⊢
    rw [List.cons_append, List.cons_append, scan_bare, ih hready]
  | case4 argument rest hbare ih =>
    rw [scan_cons hbare] at hready
    rw [List.cons_append, scan_cons hbare, scan_cons hbare]
    cases hreading : reading kept argument with
    | help => rfl
    | version => rfl
    | takes given =>
      rw [hreading] at hready
      exact ih hready
    | keeps =>
      rw [hreading] at hready
      exact ih hready

theorem snd_scan {kept arguments left : List String} {path : String}
    (h : (scan kept path arguments).1 = .arguments left) :
    (scan kept path arguments).2 = (pathsGiven arguments).getLastD path := by
  fun_induction pathsGiven arguments generalizing kept path with
  | case1 => rfl
  | case2 => rfl
  | case3 given rest ih =>
    rw [scan_bare] at h ⊢
    rw [ih h, List.getLastD_cons]
  | case4 argument rest hbare ih =>
    rw [scan_cons hbare] at h ⊢
    rw [toList_inlinePath? kept]
    cases hreading : reading kept argument with
    | help =>
      rw [hreading] at h
      contradiction
    | version =>
      rw [hreading] at h
      contradiction
    | takes given =>
      rw [hreading] at h
      exact (ih h).trans (List.getLastD_cons ..).symm
    | keeps =>
      rw [hreading] at h
      exact ih h

/-! ### What is asked for -/

theorem Invocation.withoutPath_ofScan (path other : String) (found : Scan) :
    (Invocation.ofScan path found).withoutPath = (Invocation.ofScan other found).withoutPath := by
  cases found with
  | help => rfl
  | version => rfl
  | missingPath => rfl
  | arguments kept =>
    cases kept with
    | nil => rfl
    | cons name rest =>
      simp only [ofScan]
      cases Command.ofName? name with
      | none => rfl
      | some command =>
        dsimp only
        by_cases hhelp : rest.any asksForHelp = true
        · rw [if_pos hhelp, if_pos hhelp]
        · rw [if_neg hhelp, if_neg hhelp]
          rfl

theorem Invocation.ofScan_eq_missingPath_iff (path : String) (found : Scan) :
    Invocation.ofScan path found = .missingPath ↔ found = .missingPath := by
  unfold ofScan
  grind

theorem Invocation.path_of_ofScan {path seen : String} {found : Scan} {command : Command}
    {arguments : List String} (h : Invocation.ofScan path found = .run command arguments seen) :
    seen = path ∧ ∃ kept, found = .arguments kept := by
  unfold ofScan at h
  grind

theorem Shell.withoutPath_execute (shell other : Shell) {first second third : List String}
    (hready : Invocation.ofArguments first ≠ .missingPath)
    (hsame : ∀ kept path, (scan kept path second).1 = (scan kept path third).1) :
    (shell.execute (first ++ second)).1.withoutPath =
      (other.execute (first ++ third)).1.withoutPath := by
  have hscan : (scan [] "" first).1 ≠ .missingPath := by
    intro h
    exact hready ((Invocation.ofScan_eq_missingPath_iff _ _).mpr h)
  have heq : (scan [] "" (first ++ second)).1 = (scan [] "" (first ++ third)).1 := by
    rw [scan_append hscan, scan_append hscan]
    cases scan [] "" first with
    | mk found path =>
      cases found with
      | arguments kept => exact hsame kept path
      | help => rfl
      | version => rfl
      | missingPath => rfl
  change (Invocation.ofScan _ _).withoutPath = (Invocation.ofScan _ _).withoutPath
  rw [heq]
  exact Invocation.withoutPath_ofScan _ _ _

/-- The option may be put between any two arguments, in one word or in two, unless the one
before it still awaits its path: what is asked for is the same. A command that runs sees the
path that was given last, whatever an earlier run was given. -/
theorem path_option_anywhere (shell other : Shell) (first second : List String) (path : String)
    (hready : Invocation.ofArguments first ≠ .missingPath) :
    (shell.execute (first ++ [pathOption, path] ++ second)).1.withoutPath =
      (other.execute (first ++ second)).1.withoutPath ∧
    (shell.execute (first ++ [inlineOption path] ++ second)).1.withoutPath =
      (other.execute (first ++ second)).1.withoutPath ∧
    ∀ arguments command rest seen, (shell.execute arguments).1 = .run command rest seen →
      seen = (pathsGiven arguments).getLastD "" ∧ (shell.execute arguments).2.path = seen := by
  refine ⟨?_, ?_, ?_⟩
  · rw [List.append_assoc]
    apply Shell.withoutPath_execute shell other hready
    intro kept before
    change (scan kept before (pathOption :: path :: second)).1 = _
    rw [scan_bare]
    exact fst_scan kept path before second
  · rw [List.append_assoc]
    apply Shell.withoutPath_execute shell other hready
    intro kept before
    change (scan kept before (inlineOption path :: second)).1 = _
    rw [scan_inline]
    exact fst_scan kept path before second
  · intro arguments command rest seen hrun
    obtain ⟨rfl, kept, hkept⟩ := Invocation.path_of_ofScan hrun
    exact ⟨snd_scan hkept, rfl⟩

theorem path_option_anywhere_nested :
    let arguments := ["config", "--config", "--config", "--config=b.yaml"]
    let shell : Shell := { path := "old.yaml" }
    Invocation.ofArguments ["config"] ≠ .missingPath ∧
    (shell.execute arguments).1.withoutPath = .run .config [] "" ∧
    "b.yaml" = (pathsGiven arguments).getLastD "" ∧
    (shell.execute arguments).2.path = "b.yaml" := by
  intro arguments shell
  have hready : Invocation.ofArguments ["config"] ≠ .missingPath := by decide
  obtain ⟨hsame, -, hseen⟩ :=
    path_option_anywhere shell {} ["config"] ["--config=b.yaml"] "--config" hready
  exact ⟨hready, hsame, hseen arguments .config [] "b.yaml" (by decide)⟩

end HeadlessDesktop.CommandLine
