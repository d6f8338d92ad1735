import HeadlessDesktop.Json.Reader
import HeadlessDesktop.Proofs.Numerals
import HeadlessDesktop.Proofs.Utf8Pieces

/-! JSON text is read back. Each character of a string is escaped in one of three forms, each
value ends where a comma or a closing bracket stands, and nesting is bounded. -/
namespace HeadlessDesktop.Json

open Text

/-! ### Strings -/

inductive Escapes (c : Char) : List Char → Prop
  | plain (hquote : c ≠ '"') (hslash : c ≠ '\\') (hcontrol : 0x20 ≤ c.toNat) : Escapes c [c]
  | short {letter : Char} (hletter : shortEscape? letter = some c) : Escapes c ['\\', letter]
  | unit {a b d e : Char} (hunit : unit? a b d e = some c.toNat) :
      Escapes c ['\\', 'u', a, b, d, e]

theorem escapes_paddedHex {c : Char} (h : c.toNat < 16 ^ 4) :
    Escapes c ('\\' :: 'u' :: paddedHex 4 c.toNat) := by
  have hlength : (paddedHex 4 c.toNat).length = 4 := length_zeroFill (by decide) (by decide) h
  have hvalue : numeral? 16 (paddedHex 4 c.toNat) = some c.toNat :=
    numeral?_zeroFill (by decide) (by decide) 4 c.toNat
  generalize paddedHex 4 c.toNat = digits at hlength hvalue
  match digits, hlength with
  | [a, b, d, e], _ => exact .unit hvalue

theorem escapes_escapeChar (c : Char) : Escapes c (escapeChar c) := by
  unfold escapeChar
  split
  · exact .short rfl
  · exact .short rfl
  · exact .short rfl
  · exact .short rfl
  · exact .short rfl
  · rename_i hquote hslash _ _ _
    split
    · rename_i hback
      have hc : c = Char.ofNat 0x08 := by
        rw [← beq_iff_eq.mp hback, Char.ofNat_toNat]
      exact .short (congrArg some hc.symm)
    · split
      · rename_i hfeed
        have hc : c = Char.ofNat 0x0C := by
          rw [← beq_iff_eq.mp hfeed, Char.ofNat_toNat]
        exact .short (congrArg some hc.symm)
      · split
        · rename_i hspecial
          simp only [Bool.or_eq_true, decide_eq_true_eq, beq_iff_eq] at hspecial
          apply escapes_paddedHex
          rcases hspecial with ((((h | rfl) | rfl) | rfl) | h) | h
          · omega
          · decide
          · decide
          · decide
          · omega
          · omega
        · rename_i hplain
          simp only [Bool.or_eq_true, decide_eq_true_eq, not_or] at hplain
          exact .plain hquote hslash (by omega)

theorem escapes_escapePiece (piece : Piece) : Escapes piece.toChar (escapePiece piece) := by
  cases piece with
  | char c => exact escapes_escapeChar c
  | stray _ => exact .unit rfl

theorem ne_u_of_shortEscape? {letter c : Char} (h : shortEscape? letter = some c) :
    letter ≠ 'u' := by
  rintro rfl
  cases h

theorem scanQuoted?_of_escapes {c : Char} {form literal text rest : List Char}
    (hform : Escapes c form) (htext : scanQuoted? text = some (literal, rest)) :
    scanQuoted? (form ++ text) = some (form ++ literal, rest) := by
  cases hform with
  | plain hquote hslash hcontrol =>
    change scanQuoted? (c :: text) = _
    rw [scanQuoted?.eq_5 _ _ hquote (fun _ _ _ _ _ h => absurd h hslash)
      (fun _ _ h => absurd h hslash), if_neg (by simpa [hslash] using hcontrol), htext]
    rfl
  | short hletter =>
    have hu := ne_u_of_shortEscape? hletter
    change scanQuoted? ('\\' :: _ :: text) = _
    rw [scanQuoted?.eq_4 _ _ (fun _ _ _ _ _ h => absurd h hu), hletter, htext]
    rfl
  | unit hunit =>
    change scanQuoted? ('\\' :: 'u' :: _ :: _ :: _ :: _ :: text) = _
    rw [scanQuoted?.eq_3, hunit, htext]
    rfl

theorem literalCodes_of_escapes {c : Char} {form : List Char} (hform : Escapes c form)
    (text : List Char) : literalCodes (form ++ text) = c.toNat :: literalCodes text := by
  cases hform with
  | plain hquote hslash hcontrol =>
    exact literalCodes.eq_4 _ _ (fun _ _ _ _ _ h => absurd h hslash)
      (fun _ _ h => absurd h hslash)
  | short hletter =>
    have hu := ne_u_of_shortEscape? hletter
    change literalCodes ('\\' :: _ :: text) = _
    rw [literalCodes.eq_3 _ _ (fun _ _ _ _ _ h => absurd h hu), hletter]
    rfl
  | unit hunit =>
    change literalCodes ('\\' :: 'u' :: _ :: _ :: _ :: _ :: text) = _
    rw [literalCodes.eq_2, hunit]
    rfl

theorem scanQuoted?_escape (text : Raw) (rest : List Char) :
    scanQuoted? (escape text ++ '"' :: rest) = some (escape text, rest) := by
  unfold escape
  induction pieces text.bytes with
  | nil => rfl
  | cons piece pieces ih =>
    rw [List.flatMap_cons, List.append_assoc]
    exact scanQuoted?_of_escapes (escapes_escapePiece piece) ih

theorem literalCodes_escape (text : Raw) :
    literalCodes (escape text) = text.shown.toList.map Char.toNat := by
  unfold escape Raw.shown decodeUtf8
  rw [String.toList_ofList]
  induction pieces text.bytes with
  | nil => rfl
  | cons piece pieces ih =>
    rw [List.flatMap_cons, literalCodes_of_escapes (escapes_escapePiece piece), ih, List.map_cons,
      List.map_cons]

theorem isHighSurrogate_toNat (c : Char) : isHighSurrogate c.toNat = false := by
  have hvalid : c.toNat.isValidChar := c.valid
  unfold Nat.isValidChar at hvalid
  simp only [isHighSurrogate, Bool.and_eq_false_iff, decide_eq_false_iff_not]
  omega

theorem isLowSurrogate_toNat (c : Char) : isLowSurrogate c.toNat = false := by
  have hvalid : c.toNat.isValidChar := c.valid
  unfold Nat.isValidChar at hvalid
  simp only [isLowSurrogate, Bool.and_eq_false_iff, decide_eq_false_iff_not]
  omega

theorem unitChar_toNat (c : Char) : unitChar c.toNat = c := by
  unfold unitChar
  rw [isHighSurrogate_toNat, isLowSurrogate_toNat]
  exact Char.ofNat_toNat c

theorem joinCodes_toNat (chars : List Char) : joinCodes (chars.map Char.toNat) = chars := by
  induction chars with
  | nil => rfl
  | cons c chars ih =>
    cases chars with
    | nil => exact congrArg (fun c => [c]) (unitChar_toNat c)
    | cons next rest =>
      have hjoin : joinUnits? c.toNat next.toNat = none := by
        unfold joinUnits?
        rw [isHighSurrogate_toNat]
        rfl
      rw [List.map_cons] at ih
      rw [List.map_cons, List.map_cons, joinCodes.eq_3, hjoin, unitChar_toNat, ih]

@[simp] theorem unescape_escape (text : Raw) : unescape (escape text) = text.shown := by
  unfold unescape
  rw [literalCodes_escape, joinCodes_toNat, String.ofList_toList]

@[simp] theorem string?_string (text : Raw) : (string text).string? = some text.shown :=
  congrArg some (unescape_escape text)

/-! ### Numbers -/

/-- What may follow a value: nothing, a comma or a closing bracket. -/
def Closes : List Char → Prop
  | [] => True
  | c :: _ => c = ',' ∨ c = ']' ∨ c = '}'

theorem Closes.ends_number {rest : List Char} (h : Closes rest) :
    rest.takeWhile isDigit = [] ∧ rest.dropWhile isDigit = rest ∧
      scanFraction? rest = some ([], rest) ∧ scanExponent? rest = some ([], rest) := by
  match rest, h with
  | [], _ => exact ⟨rfl, rfl, rfl, rfl⟩
  | _ :: _, .inl rfl => exact ⟨rfl, rfl, rfl, rfl⟩
  | _ :: _, .inr (.inl rfl) => exact ⟨rfl, rfl, rfl, rfl⟩
  | _ :: _, .inr (.inr rfl) => exact ⟨rfl, rfl, rfl, rfl⟩

theorem scanDigits?_append {digits rest : List Char} (hne : digits ≠ [])
    (hdigits : ∀ c ∈ digits, isDigit c = true) (hrest : Closes rest) :
    scanDigits? (digits ++ rest) = some (digits, rest) := by
  obtain ⟨htake, hdrop, -, -⟩ := hrest.ends_number
  unfold scanDigits?
  rw [List.takeWhile_append_of_pos hdigits, List.dropWhile_append_of_pos hdigits, htake, hdrop,
    List.append_nil]
  simp [hne]

theorem scanWhole?_decimal (n : Nat) {rest : List Char} (hrest : Closes rest) :
    scanWhole? (decimal n ++ rest) = some (decimal n, rest) := by
  rcases Nat.eq_zero_or_pos n with rfl | hpos
  · rfl
  · obtain ⟨d, more, heq, hd, hten⟩ := head_decimal hpos
    have hzero (tail : List Char) (h : decimal n ++ rest = '0' :: tail) : False := by
      rw [heq] at h
      have hchar : d.digitChar = '0' := (List.cons.inj h).1
      have hvalue := digitValue?_digitChar hten
      rw [hchar] at hvalue
      have hd0 : 0 = d := Option.some.inj hvalue
      omega
    rw [scanWhole?.eq_2 _ hzero]
    exact scanDigits?_append Nat.toDigits_ne_nil (fun _ h => isSome_digitValue? h) hrest

def StartsNumber (c : Char) : Prop := c = '-' ∨ ∃ d < 10, c = Nat.digitChar d

theorem head_signedDecimal (value : Int) :
    ∃ c tail, signedDecimal value = c :: tail ∧ StartsNumber c := by
  cases value with
  | ofNat n =>
    obtain ⟨d, tail, heq, hten⟩ := head_decimal_digit n
    exact ⟨d.digitChar, tail, heq, .inr ⟨d, hten, rfl⟩⟩
  | negSucc n => exact ⟨'-', decimal (n + 1), rfl, .inl rfl⟩

theorem scanNumber?_signedDecimal (value : Int) {rest : List Char} (hrest : Closes rest) :
    scanNumber? (signedDecimal value ++ rest) = some (signedDecimal value, rest) := by
  obtain ⟨-, -, hfraction, hexponent⟩ := hrest.ends_number
  cases value with
  | ofNat n =>
    have hwhole := scanWhole?_decimal n hrest
    change scanNumber? (decimal n ++ rest) = some (decimal n, rest)
    unfold scanNumber?
    split
    rename_i sign text hsplit
    split at hsplit
    · rename_i tail htail
      exact absurd htail (decimal_append_ne_minus n rest tail)
    · cases hsplit
      simp [hwhole, hfraction, hexponent]
  | negSucc n =>
    have hwhole := scanWhole?_decimal (n + 1) hrest
    change scanNumber? ('-' :: (decimal (n + 1) ++ rest)) = some ('-' :: decimal (n + 1), rest)
    unfold scanNumber?
    simp [hwhole, hfraction, hexponent]

/-! ### Values -/

/-- Values as they are built for writing, nested at most so deep. -/
inductive Written : (depth : Nat) → Json → Prop
  | null {depth : Nat} : Written depth .null
  | bool {depth : Nat} (value : Bool) : Written depth (.bool value)
  | int {depth : Nat} (value : Int) : Written depth (.int value)
  | string {depth : Nat} (text : Raw) : Written depth (.string text)
  | array {depth : Nat} {items : List Json} (hitems : ∀ item ∈ items, Written depth item) :
      Written (depth + 1) (.array items)
  | object {depth : Nat} {members : List (String × Json)}
      (hmembers : ∀ member ∈ members, Written depth member.2) :
      Written (depth + 1) (.object members)

/-- A value is read from its text whatever follows, with a step for each character. The text
does not start as blanks or the end of an array do. -/
structure ReadsBack (depth : Nat) (value : Json) : Prop where
  head : ∃ c tail, value.write = c :: tail ∧ isSpace c = false ∧ c ≠ ']'
  scan : ∀ ⦃fuel : Nat⦄ ⦃rest : List Char⦄, value.write.length ≤ fuel → Closes rest →
    scanValue? fuel depth (value.write ++ rest) = some (value, rest)

theorem skipSpace_cons {c : Char} (h : isSpace c = false) (rest : List Char) :
    skipSpace (c :: rest) = c :: rest :=
  List.dropWhile_cons_of_neg (by simp [h])

theorem readsBack_of_head {depth : Nat} {value : Json} {c : Char} {tail : List Char}
    (hwrite : value.write = c :: tail) (hspace : isSpace c = false) (hend : c ≠ ']')
    (hscan : ∀ fuel rest, tail.length ≤ fuel → Closes rest →
      scanValue? (fuel + 1) depth (c :: (tail ++ rest)) = some (value, rest)) :
    ReadsBack depth value := by
  refine ⟨⟨c, tail, hwrite, hspace, hend⟩, ?_⟩
  intro fuel rest hfuel hrest
  rw [hwrite, List.length_cons] at hfuel
  rw [hwrite]
  cases fuel with
  | zero => exact absurd hfuel (by omega)
  | succ fuel => exact hscan fuel rest (by omega) hrest

theorem startsNumber_ne {c : Char} (h : StartsNumber c) :
    isSpace c = false ∧ c ∉ ['{', '[', '"', 'n', 't', 'f', ']'] := by
  rcases h with rfl | ⟨d, hd, rfl⟩
  · decide
  · revert d
    decide

theorem readsBack_int (depth : Nat) (value : Int) : ReadsBack depth (.int value) := by
  obtain ⟨c, tail, heq, hc⟩ := head_signedDecimal value
  obtain ⟨hspace, hother⟩ := startsNumber_ne hc
  simp only [List.mem_cons, not_or] at hother
  obtain ⟨hbrace, hbracket, hquote, hn, ht, hf, hend, -⟩ := hother
  have hwrite : (Json.int value).write = c :: tail := heq
  apply readsBack_of_head hwrite hspace hend
  intro fuel rest _ hrest
  have hnumber := scanNumber?_signedDecimal value hrest
  rw [heq, List.cons_append] at hnumber
  rw [scanValue?.eq_2, skipSpace_cons hspace]
  split
  all_goals rename_i hsplit
  · exact absurd (List.cons.inj hsplit).1 hbrace
  · exact absurd (List.cons.inj hsplit).1 hbracket
  · exact absurd (List.cons.inj hsplit).1 hquote
  · exact absurd (List.cons.inj hsplit).1 hn
  · exact absurd (List.cons.inj hsplit).1 ht
  · exact absurd (List.cons.inj hsplit).1 hf
  · rw [hnumber, ← heq]
    rfl

theorem readsBack_string (depth : Nat) (text : Raw) : ReadsBack depth (.string text) := by
  have hwrite : (Json.string text).write = '"' :: (escape text ++ ['"']) := rfl
  apply readsBack_of_head hwrite rfl (by decide)
  intro fuel rest _ _
  have hquoted := scanQuoted?_escape text rest
  rw [List.append_assoc, List.singleton_append]
  change (scanQuoted? (escape text ++ '"' :: rest)).bind _ = _
  rw [hquoted]
  rfl

theorem readsBack_null (depth : Nat) : ReadsBack depth .null :=
  readsBack_of_head rfl rfl (by decide) fun _ _ _ _ => rfl

theorem readsBack_bool (depth : Nat) (value : Bool) : ReadsBack depth (.bool value) := by
  cases value with
  | true => exact readsBack_of_head rfl rfl (by decide) fun _ _ _ _ => rfl
  | false => exact readsBack_of_head rfl rfl (by decide) fun _ _ _ _ => rfl

/-! ### Arrays and objects -/

theorem scanItems?_writeItems {depth fuel : Nat} {items : List Json} (hne : items ≠ [])
    (hitems : ∀ item ∈ items, ReadsBack depth item) (hfuel : (writeItems items).length < fuel)
    (rest : List Char) :
    scanItems? fuel depth (writeItems items ++ ']' :: rest) = some (items, rest) := by
  induction items generalizing fuel with
  | nil => exact absurd rfl hne
  | cons item items ih =>
    have hitem := hitems item List.mem_cons_self
    obtain ⟨fuel, rfl⟩ : ∃ less, fuel = less + 1 := ⟨fuel - 1, by omega⟩
    cases items with
    | nil =>
      have hscan : scanValue? fuel depth (item.write ++ ']' :: rest) = some (item, ']' :: rest) :=
        hitem.scan (Nat.lt_succ_iff.mp hfuel) (.inr (.inl rfl))
      change scanItems? (fuel + 1) depth (item.write ++ ']' :: rest) = _
      rw [scanItems?.eq_2, hscan]
      rfl
    | cons next items =>
      have hwrite : writeItems (item :: next :: items) =
          item.write ++ ',' :: writeItems (next :: items) := rfl
      rw [hwrite, List.length_append, List.length_cons] at hfuel
      have hscan := @hitem.scan fuel (',' :: (writeItems (next :: items) ++ ']' :: rest))
        (by omega) (.inl rfl)
      have hmore : scanItems? fuel depth (writeItems (next :: items) ++ ']' :: rest) =
          some (next :: items, rest) :=
        ih (List.cons_ne_nil _ _) (fun item h => hitems item (List.mem_cons_of_mem _ h)) (by omega)
      rw [hwrite, List.append_assoc, List.cons_append, scanItems?.eq_2, hscan]
      change (scanItems? fuel depth (writeItems (next :: items) ++ ']' :: rest)).bind _ = _
      rw [hmore]
      rfl

theorem readsBack_array {depth : Nat} {items : List Json}
    (hitems : ∀ item ∈ items, ReadsBack depth item) : ReadsBack (depth + 1) (.array items) := by
  have hwrite : (Json.array items).write = '[' :: (writeItems items ++ [']']) := rfl
  apply readsBack_of_head hwrite rfl (by decide)
  intro fuel rest hfuel _
  rw [List.length_append, List.length_singleton] at hfuel
  rw [List.append_assoc, List.singleton_append]
  cases items with
  | nil => rfl
  | cons item items =>
    have hscan := scanItems?_writeItems (List.cons_ne_nil item items) hitems hfuel rest
    -- Not the end of an array: the first item starts here.
    obtain ⟨c, tail, hhead, hspace, hend⟩ : ∃ c tail,
        writeItems (item :: items) = c :: tail ∧ isSpace c = false ∧ c ≠ ']' := by
      obtain ⟨c, tail, hitem, hspace, hend⟩ := (hitems item List.mem_cons_self).head
      cases items with
      | nil => exact ⟨c, tail, hitem, hspace, hend⟩
      | cons next items =>
        refine ⟨c, tail ++ ',' :: writeItems (next :: items), ?_, hspace, hend⟩
        change item.write ++ ',' :: writeItems (next :: items) = _
        rw [hitem, List.cons_append]
    rw [hhead, List.cons_append] at hscan ⊢
    rw [scanValue?.eq_2, skipSpace_cons rfl]
    change (if (depth + 1 == 0) = true then none else _) = _
    rw [if_neg (by simp), skipSpace_cons hspace]
    split
    · rename_i hsplit
      exact absurd (List.cons.inj hsplit).1 hend
    · rw [Nat.add_sub_cancel, hscan]
      rfl

def writeFurther : List (String × Json) → List Char
  | [] => []
  | members => ',' :: writeMembers members

theorem writeMembers_cons (name : String) (value : Json) (members : List (String × Json)) :
    writeMembers ((name, value) :: members) =
      '"' :: (escape name ++ '"' :: ':' :: (value.write ++ writeFurther members)) := by
  cases members with
  | nil => simp [writeMembers, writeQuoted, writeFurther]
  | cons next members => simp [writeMembers, writeQuoted, writeFurther]

theorem scanMembers?_writeMembers {depth fuel : Nat} {members : List (String × Json)}
    (hne : members ≠ []) (hmembers : ∀ member ∈ members, ReadsBack depth member.2)
    (hfuel : (writeMembers members).length < fuel) (rest : List Char) :
    scanMembers? fuel depth (writeMembers members ++ '}' :: rest) = some (members, rest) := by
  induction members generalizing fuel with
  | nil => exact absurd rfl hne
  | cons member members ih =>
    obtain ⟨name, value⟩ := member
    have hvalue : ReadsBack depth value := hmembers _ List.mem_cons_self
    obtain ⟨fuel, rfl⟩ : ∃ less, fuel = less + 1 := ⟨fuel - 1, by omega⟩
    rw [writeMembers_cons] at hfuel ⊢
    simp only [List.length_cons, List.length_append] at hfuel
    simp only [List.cons_append, List.append_assoc]
    have hname := scanQuoted?_escape name
      (':' :: (value.write ++ (writeFurther members ++ '}' :: rest)))
    rw [scanMembers?.eq_2, skipSpace_cons rfl]
    change (scanQuoted? _).bind _ = _
    rw [hname]
    -- Name and value are the same whether or not a member follows; what closes them is not.
    change (scanValue? fuel depth (value.write ++ (writeFurther members ++ '}' :: rest))).bind _ = _
    cases members with
    | nil =>
      have hscan := @hvalue.scan fuel ('}' :: rest) (by omega) (.inr (.inr rfl))
      change (scanValue? fuel depth (value.write ++ '}' :: rest)).bind _ = _
      rw [hscan]
      change some ([(unescape (escape name), value)], rest) = _
      rw [unescape_escape, Raw.shown_text]
    | cons next members =>
      have hscan := @hvalue.scan fuel (',' :: (writeMembers (next :: members) ++ '}' :: rest))
        (by omega) (.inl rfl)
      have hmore : scanMembers? fuel depth (writeMembers (next :: members) ++ '}' :: rest) =
          some (next :: members, rest) := by
        have hshorter : (writeFurther (next :: members)).length =
            (writeMembers (next :: members)).length + 1 := rfl
        exact ih (List.cons_ne_nil _ _)
          (fun member h => hmembers member (List.mem_cons_of_mem _ h)) (by omega)
      change (scanValue? fuel depth
        (value.write ++ ',' :: (writeMembers (next :: members) ++ '}' :: rest))).bind _ = _
      rw [hscan]
      change (scanMembers? fuel depth (writeMembers (next :: members) ++ '}' :: rest)).bind _ = _
      rw [hmore]
      change some ((unescape (escape name), value) :: next :: members, rest) = _
      rw [unescape_escape, Raw.shown_text]

theorem readsBack_object {depth : Nat} {members : List (String × Json)}
    (hmembers : ∀ member ∈ members, ReadsBack depth member.2) :
    ReadsBack (depth + 1) (.object members) := by
  have hwrite : (Json.object members).write = '{' :: (writeMembers members ++ ['}']) := rfl
  apply readsBack_of_head hwrite rfl (by decide)
  intro fuel rest hfuel _
  rw [List.length_append, List.length_singleton] at hfuel
  rw [List.append_assoc, List.singleton_append]
  cases members with
  | nil => rfl
  | cons member members =>
    have hscan := scanMembers?_writeMembers (List.cons_ne_nil member members) hmembers hfuel rest
    rw [writeMembers_cons, List.cons_append] at hscan ⊢
    change (scanMembers? fuel depth ('"' :: _)).bind _ = _
    rw [hscan]
    rfl

theorem Written.readsBack {depth : Nat} {value : Json} (h : Written depth value) :
    ReadsBack depth value := by
  induction h with
  | null => exact readsBack_null _
  | bool value => exact readsBack_bool _ value
  | int value => exact readsBack_int _ value
  | string text => exact readsBack_string _ text
  | array _ ih => exact readsBack_array ih
  | object _ ih => exact readsBack_object ih

theorem read?_write {value : Json} (h : Written maxDepth value) :
    read? value.write = some value := by
  have hscan := @h.readsBack.scan (2 * value.write.length + 2) [] (by omega) trivial
  rw [List.append_nil] at hscan
  unfold read?
  rw [hscan]
  rfl

end HeadlessDesktop.Json
