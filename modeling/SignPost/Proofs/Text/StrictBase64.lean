import SignPost.Proofs.Text.Base64

/-!
# Base64 is read strictly

`form_value_strict`: a form value is read as a byte string if and only if it is, ASCII blanks apart,
the encoding of this byte string. So there is one text for each byte string, and the texts that are
read at all can be told without reading them (`Canonical`): symbols of the standard alphabet in
groups of four, and in the last group possibly padding, behind a symbol without stray bits.

Proof. What a reader of symbols gives are values below 64, and these spell the text
(`eq_map_of_values`). A group of values makes up the bytes whose symbols the group is
(`symbols_group`, and `symbols_one` and `symbols_two` where padding takes the place of symbols). So
whatever is read, from any place on, is the symbols of what was read (`eq_symbols_of_decodeFrom`).
-/

namespace SignPost.Base64

/-! ## Values and symbols -/

theorem symbol_of_value {b : UInt8} {v : Nat} (h : value b = some v) : v < 64 ∧ symbol v = b := by
  have hall : ∀ n, n < 256 → ∀ w ∈ value (UInt8.ofNat n), w < 64 ∧ symbol w = UInt8.ofNat n := by
    decide +kernel
  have hb := hall b.toNat b.toNat_lt v
  rw [UInt8.ofNat_toNat] at hb
  exact hb h

/-- A text of symbols is spelled by its values. -/
theorem eq_map_of_values {offset : Nat} {text : Bytes} {vs : List Nat}
    (h : values offset text = .ok vs) : text = vs.map symbol ∧ ∀ v ∈ vs, v < 64 := by
  induction text generalizing offset vs with
  | nil =>
    obtain rfl := Except.ok.inj h
    exact ⟨rfl, fun v hv => absurd hv List.not_mem_nil⟩
  | cons b text ih =>
    rw [values] at h
    cases hvalue : value b with
    | none => simp [hvalue] at h
    | some v =>
      cases hrest : values (offset + 1) text with
      | error e => simp [hvalue, hrest] at h
      | ok ws =>
        simp only [hvalue, hrest, Except.ok.injEq] at h
        subst h
        obtain ⟨hv, hsymbol⟩ := symbol_of_value hvalue
        obtain ⟨htext, hws⟩ := ih hrest
        refine ⟨?_, List.forall_mem_cons.2 ⟨hv, hws⟩⟩
        rw [List.map_cons, hsymbol, ← htext]

theorem toNat_first {v w : Nat} (hv : v < 64) (hw : w < 64) :
    (UInt8.ofNat (v * 4 + w / 16)).toNat = v * 4 + w / 16 := by
  have hlt : v * 4 + w / 16 < 256 := by omega
  exact UInt8.toNat_ofNat_of_lt' hlt

theorem toNat_second {x : Nat} (w : Nat) (hx : x < 64) :
    (UInt8.ofNat (w % 16 * 16 + x / 4)).toNat = w % 16 * 16 + x / 4 := by
  have hlt : w % 16 * 16 + x / 4 < 256 := by omega
  exact UInt8.toNat_ofNat_of_lt' hlt

theorem toNat_third {y : Nat} (x : Nat) (hy : y < 64) :
    (UInt8.ofNat (x % 4 * 64 + y)).toNat = x % 4 * 64 + y := by
  have hlt : x % 4 * 64 + y < 256 := by omega
  exact UInt8.toNat_ofNat_of_lt' hlt

/-- Two values make up a byte, if the second has no bits beyond it. -/
theorem symbols_one {v w : Nat} (hv : v < 64) (hw : w < 64) (hbits : w % 16 = 0) :
    symbols [UInt8.ofNat (v * 4 + w / 16)] = [symbol v, symbol w, pad, pad] := by
  have h1 : (v * 4 + w / 16) / 4 = v := by omega
  have h2 : (v * 4 + w / 16) % 4 * 16 = w := by omega
  rw [symbols, toNat_first hv hw, h1, h2]

/-- Three values make up two bytes, if the third has no bits beyond them. -/
theorem symbols_two {v w x : Nat} (hv : v < 64) (hw : w < 64) (hx : x < 64) (hbits : x % 4 = 0) :
    symbols [UInt8.ofNat (v * 4 + w / 16), UInt8.ofNat (w % 16 * 16 + x / 4)] =
      [symbol v, symbol w, symbol x, pad] := by
  have h1 : (v * 4 + w / 16) / 4 = v := by omega
  have h2 : (v * 4 + w / 16) % 4 * 16 + (w % 16 * 16 + x / 4) / 16 = w := by omega
  have h3 : (w % 16 * 16 + x / 4) % 16 * 4 = x := by omega
  rw [symbols, toNat_first hv hw, toNat_second w hx, h1, h2, h3]

/-- Four values make up three bytes. -/
theorem symbols_group {v w x y : Nat} (hv : v < 64) (hw : w < 64) (hx : x < 64) (hy : y < 64)
    (rest : Bytes) :
    symbols (UInt8.ofNat (v * 4 + w / 16) :: UInt8.ofNat (w % 16 * 16 + x / 4) ::
        UInt8.ofNat (x % 4 * 64 + y) :: rest) =
      symbol v :: symbol w :: symbol x :: symbol y :: symbols rest := by
  have h1 : (v * 4 + w / 16) / 4 = v := by omega
  have h2 : (v * 4 + w / 16) % 4 * 16 + (w % 16 * 16 + x / 4) / 16 = w := by omega
  have h3 : (w % 16 * 16 + x / 4) % 16 * 4 + (x % 4 * 64 + y) / 64 = x := by omega
  have h4 : (x % 4 * 64 + y) % 64 = y := by omega
  rw [symbols, toNat_first hv hw, toNat_second w hx, toNat_third x hy, h1, h2, h3, h4]

/-! ## What is read -/

/-- Values and the padding that a whole group needs behind them are the symbols of the bytes that
the values make up. -/
theorem symbols_of_lastBytes {offset count : Nat} {group bytes : Bytes} {vs : List Nat}
    (hvs : ∀ v ∈ vs, v < 64) (hcount : vs = [] → count = 0)
    (hlength : group.length = vs.length + count) (hshort : group.length ≤ 4)
    (h : lastBytes offset group vs = .ok bytes) :
    symbols bytes = vs.map symbol ++ List.replicate count pad := by
  match vs, hvs, h with
  | [], _, h =>
    obtain rfl := Except.ok.inj h
    rw [hcount rfl]
    rfl
  | [v], _, h => cases h
  | [v, w], hvs, h =>
    rw [lastBytes] at h
    split_ifs at h with hwhole hbits
    obtain rfl := Except.ok.inj h
    simp only [List.length_cons, List.length_nil] at hlength
    obtain rfl : count = 2 := by omega
    exact symbols_one (hvs v (by simp)) (hvs w (by simp)) (by omega)
  | [v, w, x], hvs, h =>
    rw [lastBytes] at h
    split_ifs at h with hwhole hbits
    obtain rfl := Except.ok.inj h
    simp only [List.length_cons, List.length_nil] at hlength
    obtain rfl : count = 1 := by omega
    exact symbols_two (hvs v (by simp)) (hvs w (by simp)) (hvs x (by simp)) (by omega)
  | v :: w :: x :: y :: more, hvs, h =>
    obtain rfl := Except.ok.inj h
    simp only [List.length_cons] at hlength
    obtain rfl : more = [] := List.length_eq_zero_iff.1 (by omega)
    obtain rfl : count = 0 := by
      simp only [List.length_nil] at hlength
      omega
    exact symbols_group (hvs v (by simp)) (hvs w (by simp)) (hvs x (by simp)) (hvs y (by simp)) []

/-- The last group is the symbols of the bytes that it is read as. -/
theorem eq_symbols_of_decodeLast {offset : Nat} {group bytes : Bytes} (hshort : group.length ≤ 4)
    (h : decodeLast offset group = .ok bytes) : group = symbols bytes := by
  have hgroup : group.takeWhile (· ≠ pad) ++ group.dropWhile (· ≠ pad) = group :=
    List.takeWhile_append_dropWhile
  unfold decodeLast at h
  dsimp only at h
  generalize group.takeWhile (· ≠ pad) = data at h hgroup
  generalize group.dropWhile (· ≠ pad) = padding at h hgroup
  cases hvalues : values offset data with
  | error e => simp [hvalues] at h
  | ok vs =>
    obtain ⟨rfl, hvs⟩ := eq_map_of_values hvalues
    simp only [hvalues] at h
    split_ifs at h with hbad
    have hgood : padding ≠ [] → 2 ≤ vs.length ∧ ∀ b ∈ padding, b = pad := by
      intro hne
      obtain ⟨hcount, hall⟩ := not_or.1 fun hfault => hbad ⟨hne, hfault⟩
      rw [List.length_map, Nat.not_lt] at hcount
      refine ⟨hcount, fun b hb => ?_⟩
      by_contra hother
      exact hall (List.any_eq_true.2 ⟨b, hb, decide_eq_true hother⟩)
    have hpads : padding = List.replicate padding.length pad := by
      refine List.eq_replicate_iff.2 ⟨rfl, fun b hb => ?_⟩
      exact (hgood (List.ne_nil_of_mem hb)).2 b hb
    have hcount : vs = [] → padding.length = 0 := by
      rintro rfl
      by_contra hne
      exact absurd (hgood fun hnil => hne (congrArg List.length hnil)).1 (by decide)
    have hlength : group.length = vs.length + padding.length := by
      rw [← hgroup, List.length_append, List.length_map]
    rw [symbols_of_lastBytes hvs hcount hlength hshort h, ← hpads, hgroup]

/-- A text is the symbols of the bytes that it is read as, from whatever offset it is read. -/
theorem eq_symbols_of_decodeFrom {offset : Nat} {text bytes : Bytes}
    (h : decodeFrom offset text = .ok bytes) : text = symbols bytes := by
  fun_induction decodeFrom offset text generalizing bytes with
  | case1 => cases h
  | case2 => cases h
  | case3 => cases h
  | case4 offset a b c d e rest vs hvalues group more hmore hgroup ih =>
    obtain ⟨hfour, hvs⟩ := eq_map_of_values hvalues
    match vs, hfour with
    | [v, w, x, y], hfour =>
      obtain rfl := Except.ok.inj hgroup
      obtain rfl := Except.ok.inj h
      have hfront : a :: b :: c :: d :: e :: rest = [a, b, c, d] ++ (e :: rest) := rfl
      rw [hfront, hfour, ih hmore]
      exact (symbols_group (hvs v (by simp)) (hvs w (by simp)) (hvs x (by simp))
        (hvs y (by simp)) more).symm
  | case5 offset group hshort =>
    refine eq_symbols_of_decodeLast ?_ h
    match group with
    | [] => simp
    | [_] => simp
    | [_, _] => simp
    | [_, _, _] => simp
    | [_, _, _, _] => simp
    | a :: b :: c :: d :: e :: rest => exact absurd rfl (hshort a b c d e rest)

theorem decodeBytes_eq_ok {text bytes : Bytes} :
    decodeBytes text = .ok bytes ↔ text = symbols bytes := by
  constructor
  · intro h
    unfold decodeBytes at h
    split at h
    · cases h
    · exact eq_symbols_of_decodeFrom h
  · rintro rfl
    exact decodeBytes_symbols bytes

/-- A text is read as a byte string if it is the encoding of it, and only then. -/
theorem decode_eq_ok {text : String} {bytes : Bytes} :
    decode text = .ok bytes ↔ text = encode bytes := by
  rw [decode, decodeBytes_eq_ok, ← ofString_encode]
  exact ⟨Utf8.ofString_injective, congrArg Utf8.ofString⟩

/-! ## The texts that are read -/

/-- The symbols, each at the place that is its value. -/
def alphabet : List Char :=
  "ABCDEFGHIJKLMNOPQRSTUVWXYZabcdefghijklmnopqrstuvwxyz0123456789+/".toList

/-- Texts in groups of four symbols. Padding takes the last one or two places of the last group, and
the symbol before it has no bits beyond those of the bytes. -/
inductive Canonical : List Char → Prop where
  | empty : Canonical []
  | one {a b : Char} {w : Nat} (ha : a ∈ alphabet) (hb : alphabet[w]? = some b)
      (hbits : w % 16 = 0) : Canonical [a, b, '=', '=']
  | two {a b c : Char} {x : Nat} (ha : a ∈ alphabet) (hb : b ∈ alphabet)
      (hc : alphabet[x]? = some c) (hbits : x % 4 = 0) : Canonical [a, b, c, '=']
  | group {a b c d : Char} {rest : List Char} (ha : a ∈ alphabet) (hb : b ∈ alphabet)
      (hc : c ∈ alphabet) (hd : d ∈ alphabet) (hrest : Canonical rest) :
      Canonical (a :: b :: c :: d :: rest)

/-- A byte as the character with its number. -/
def letter (b : UInt8) : Char :=
  Char.ofNat b.toNat

theorem alphabet_eq : alphabet = (List.range 64).map fun n => letter (symbol n) := by
  decide +kernel

theorem getElem?_alphabet {n : Nat} {c : Char} :
    alphabet[n]? = some c ↔ n < 64 ∧ c = letter (symbol n) := by
  rw [alphabet_eq, List.getElem?_map]
  by_cases h : n < 64
  · simp [h, eq_comm]
  · simp [h]

theorem mem_alphabet {c : Char} : c ∈ alphabet ↔ ∃ n < 64, c = letter (symbol n) := by
  rw [List.mem_iff_getElem?]
  exact exists_congr fun n => getElem?_alphabet

theorem letter_mem_alphabet {n : Nat} (h : n < 64) : letter (symbol n) ∈ alphabet :=
  mem_alphabet.2 ⟨n, h, rfl⟩

theorem toList_encode (bytes : Bytes) : (encode bytes).toList = (symbols bytes).map letter :=
  String.toList_ofList

theorem canonical_symbols (bytes : Bytes) : Canonical ((symbols bytes).map letter) := by
  induction bytes using symbols.induct with
  | case1 => exact Canonical.empty
  | case2 a =>
    have ha := a.toNat_lt
    exact Canonical.one (letter_mem_alphabet (by omega)) (getElem?_alphabet.2 ⟨by omega, rfl⟩)
      (by omega)
  | case3 a b =>
    have ha := a.toNat_lt
    have hb := b.toNat_lt
    exact Canonical.two (letter_mem_alphabet (by omega)) (letter_mem_alphabet (by omega))
      (getElem?_alphabet.2 ⟨by omega, rfl⟩) (by omega)
  | case4 a b c rest ih =>
    have ha := a.toNat_lt
    have hb := b.toNat_lt
    have hc := c.toNat_lt
    exact Canonical.group (letter_mem_alphabet (by omega)) (letter_mem_alphabet (by omega))
      (letter_mem_alphabet (by omega)) (letter_mem_alphabet (by omega)) ih

theorem Canonical.exists_symbols {text : List Char} (h : Canonical text) :
    ∃ bytes, text = (symbols bytes).map letter := by
  induction h with
  | empty => exact ⟨[], rfl⟩
  | one ha hb hbits =>
    obtain ⟨v, hv, rfl⟩ := mem_alphabet.1 ha
    obtain ⟨hw, rfl⟩ := getElem?_alphabet.1 hb
    exact ⟨_, congrArg (List.map letter) (symbols_one hv hw hbits).symm⟩
  | two ha hb hc hbits =>
    obtain ⟨v, hv, rfl⟩ := mem_alphabet.1 ha
    obtain ⟨w, hw, rfl⟩ := mem_alphabet.1 hb
    obtain ⟨hx, rfl⟩ := getElem?_alphabet.1 hc
    exact ⟨_, congrArg (List.map letter) (symbols_two hv hw hx hbits).symm⟩
  | group ha hb hc hd _ ih =>
    obtain ⟨v, hv, rfl⟩ := mem_alphabet.1 ha
    obtain ⟨w, hw, rfl⟩ := mem_alphabet.1 hb
    obtain ⟨x, hx, rfl⟩ := mem_alphabet.1 hc
    obtain ⟨y, hy, rfl⟩ := mem_alphabet.1 hd
    obtain ⟨more, rfl⟩ := ih
    exact ⟨_, congrArg (List.map letter) (symbols_group hv hw hx hy more).symm⟩

/-- The canonical texts are the encodings. -/
theorem canonical_iff {text : String} : Canonical text.toList ↔ ∃ bytes, text = encode bytes := by
  constructor
  · intro h
    obtain ⟨bytes, hbytes⟩ := h.exists_symbols
    exact ⟨bytes, String.toList_injective (hbytes.trans (toList_encode bytes).symm)⟩
  · rintro ⟨bytes, rfl⟩
    rw [toList_encode]
    exact canonical_symbols bytes

/-! ## Form values -/

theorem compact_insert {front blanks back : List Char}
    (h : ∀ c ∈ blanks, Text.isAsciiBlank c = true) :
    compact (String.ofList (front ++ blanks ++ back)) =
      compact (String.ofList (front ++ back)) := by
  have hnone : blanks.filter (fun c => !Text.isAsciiBlank c) = [] :=
    List.filter_eq_nil_iff.2 fun c hc => by simp [h c hc]
  simp only [compact, String.toList_ofList, List.filter_append, hnone, List.append_nil]

/-- A form value is read as a byte string if and only if it is, without its ASCII blanks, the
encoding of this byte string; it is read at all just if it is canonical then. A text without blanks
is read for itself, which is the same in results and errors, and each encoding gives its bytes back.
Blanks put in anywhere, or taken out, change nothing. -/
theorem form_value_strict :
    (∀ text bytes, decodeForm text = .ok bytes ↔ compact text = encode bytes) ∧
      (∀ text, (∃ bytes, decodeForm text = .ok bytes) ↔ Canonical (compact text).toList) ∧
      (∀ text bytes, decode text = .ok bytes ↔ text = encode bytes) ∧
      (∀ bytes, decode (encode bytes) = .ok bytes ∧ decodeForm (encode bytes) = .ok bytes) ∧
      (∀ text, decodeForm text = decode (compact text)) ∧
      (∀ text, (∀ c ∈ text.toList, Text.isAsciiBlank c = false) →
        decode (compact text) = decode text) ∧
      ∀ front blanks back, (∀ c ∈ blanks, Text.isAsciiBlank c = true) →
        decodeForm (String.ofList (front ++ blanks ++ back)) =
          decodeForm (String.ofList (front ++ back)) := by
  have hread : ∀ text bytes, decodeForm text = .ok bytes ↔ compact text = encode bytes := by
    intro text bytes
    rw [decodeForm_eq, decode_eq_ok]
  refine ⟨hread, ?_, fun _ _ => decode_eq_ok, ?_, decodeForm_eq, ?_, ?_⟩
  · intro text
    rw [canonical_iff]
    exact exists_congr (hread text)
  · intro bytes
    exact ⟨decode_encode bytes, decodeForm_encode bytes⟩
  · intro text hnone
    rw [compact_of_none]
    refine List.any_eq_false.2 fun c hc => ?_
    rw [hnone c hc]
    exact Bool.false_ne_true
  · intro front blanks back hblanks
    rw [decodeForm_eq, decodeForm_eq, compact_insert hblanks]

/-- Five bytes in two lines, the second one indented; and the same symbols but for a stray bit
before the padding. -/
theorem wrapped_value_strict :
    (∀ c ∈ ['\r', '\n', ' '], Text.isAsciiBlank c = true) ∧
      (∀ c ∈ "SGVsbG8=".toList, Text.isAsciiBlank c = false) ∧
      decodeForm (String.ofList ("SGVs".toList ++ ['\r', '\n', ' '] ++ "bG8=".toList)) =
        .ok [72, 101, 108, 108, 111] ∧
      decode (compact "SGVsbG8=") = decode "SGVsbG8=" ∧ Canonical (compact "SGVsbG8=").toList ∧
      ¬Canonical (compact "SGVsbG9=").toList := by
  have hblanks : ∀ c ∈ ['\r', '\n', ' '], Text.isAsciiBlank c = true :=
    List.all_eq_true.1 (by decide)
  have hnone : ∀ c ∈ "SGVsbG8=".toList, Text.isAsciiBlank c = false := by
    intro c hc
    have hall : "SGVsbG8=".toList.any Text.isAsciiBlank = false := by decide
    exact Bool.eq_false_iff.2 fun hblank =>
      Bool.false_ne_true (hall.symm.trans (List.any_eq_true.2 ⟨c, hc, hblank⟩))
  obtain ⟨hread, hcanonical, -, -, -, hpaths, hinsert⟩ := form_value_strict
  have hplain : decodeForm "SGVsbG8=" = .ok [72, 101, 108, 108, 111] :=
    (hread _ _).2 (by decide +kernel)
  have hstray : decodeForm "SGVsbG9=" = .error (.badLastSymbol 6 57) := by decide +kernel
  refine ⟨hblanks, hnone, ?_, hpaths _ hnone, (hcanonical _).1 ⟨_, hplain⟩, fun h => ?_⟩
  · exact (hinsert "SGVs".toList ['\r', '\n', ' '] "bG8=".toList hblanks).trans hplain
  · obtain ⟨bytes, hbytes⟩ := (hcanonical _).2 h
    rw [hstray] at hbytes
    cases hbytes

end SignPost.Base64
