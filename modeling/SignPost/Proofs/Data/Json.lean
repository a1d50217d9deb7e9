import SignPost.Data.Json.Printer
import SignPost.Data.Json.Reader
import SignPost.Proofs.Text.Hex

/-!
# Reading back JSON

`parse_render`: a value of texts, lists and tables is read back from its compact form, whatever
characters its texts have. Numbers are left aside (`Textual`).

The reader counts down its fuel with each character of a text and with each value. What it takes is
bounded by what is written, so the length of the text is fuel enough, and the lemmas carry this
bound along with the rest of the text.
-/

namespace SignPost.Data.Json

/-! ## Texts -/

theorem takeUnit_digits {n : Nat} (h : n < 256) (rest : List Char) :
    takeUnit ('0' :: '0' :: Hex.digit (n / 16) :: Hex.digit (n % 16) :: rest) = some (n, rest) := by
  have hhigh : Hex.digitValue (Hex.digit (n / 16)).toNat = some (n / 16) :=
    Hex.digitValue_digit (by omega)
  have hlow : Hex.digitValue (Hex.digit (n % 16)).toNat = some (n % 16) :=
    Hex.digitValue_digit (by omega)
  have hdigits : ['0', '0', Hex.digit (n / 16), Hex.digit (n % 16)].mapM
      (fun x => Hex.digitValue x.toNat) = some [0, 0, n / 16, n % 16] := by
    have hzero : Hex.digitValue '0'.toNat = some 0 := rfl
    simp only [List.mapM_cons, List.mapM_nil, hzero, hhigh, hlow]
    rfl
  have hnumber : (n / 16) * 16 + n % 16 = n := by omega
  rw [takeUnit, hdigits]
  simp [hnumber]

theorem takeSpelled_digits {c : Char} (h : c.toNat < 0x20) (rest : List Char) :
    takeSpelled ('0' :: '0' :: Hex.digit (c.toNat / 16) :: Hex.digit (c.toNat % 16) :: rest) =
      some (c, rest) := by
  have hhigh : Utf16.isHigh c.toNat = false := by
    simp only [Utf16.isHigh, Bool.and_eq_false_iff, decide_eq_false_iff_not]
    omega
  have hlow : Utf16.isLow c.toNat = false := by
    simp only [Utf16.isLow, Bool.and_eq_false_iff, decide_eq_false_iff_not]
    omega
  simp [takeSpelled, takeUnit_digits (show c.toNat < 256 by omega), hhigh, hlow]

/-- One character is read back from its escaped form, with one step of fuel. -/
theorem takeText_escape (fuel : Nat) (c : Char) (rest : List Char) :
    takeText (fuel + 1) (escape c ++ rest) =
      (takeText fuel rest).map fun (text, rest) => (c :: text, rest) := by
  unfold escape
  split_ifs with hquote hslash hback htab hline hform hreturn hcontrol
  · subst hquote
    rfl
  · subst hslash
    rfl
  · subst hback
    rfl
  · subst htab
    rfl
  · subst hline
    rfl
  · subst hform
    rfl
  · subst hreturn
    rfl
  · simp [takeText, takeSpelled_digits hcontrol]
  · simp [takeText, hquote, hslash, hcontrol]

theorem takeText_flatMap_escape {fuel : Nat} {text : List Char} (h : text.length < fuel)
    (rest : List Char) :
    takeText fuel (text.flatMap escape ++ '"' :: rest) = some (text, rest) := by
  induction text generalizing fuel with
  | nil =>
    obtain ⟨fuel, rfl⟩ := Nat.exists_eq_succ_of_ne_zero (show fuel ≠ 0 by omega)
    rfl
  | cons c text ih =>
    obtain ⟨fuel, rfl⟩ := Nat.exists_eq_succ_of_ne_zero (show fuel ≠ 0 by omega)
    rw [List.flatMap_cons, List.append_assoc, takeText_escape, ih (by simpa using h)]
    rfl

theorem length_le_flatMap_escape (text : List Char) :
    text.length ≤ (text.flatMap escape).length := by
  induction text with
  | nil => exact Nat.le_refl 0
  | cons c text ih =>
    have hescape : 1 ≤ (escape c).length := by
      unfold escape
      split_ifs <;> simp
    rw [List.flatMap_cons, List.length_append, List.length_cons]
    omega

theorem takeString_renderText (s : String) (rest : List Char) :
    ∃ more, renderText s ++ rest = '"' :: more ∧ takeString more = some (s, rest) := by
  refine ⟨s.toList.flatMap escape ++ '"' :: rest, by simp [renderText], ?_⟩
  have hlength : s.toList.length < (s.toList.flatMap escape ++ '"' :: rest).length + 1 := by
    have hescape := length_le_flatMap_escape s.toList
    rw [List.length_append]
    omega
  rw [takeString, takeText_flatMap_escape hlength]
  simp

/-! ## Values -/

/-- Values of texts, lists and tables, nested at most so deep; a table has a key once. -/
inductive Textual : Nat → Value → Prop where
  | text (depth : Nat) (s : String) : Textual depth (.text s)
  | list (depth : Nat) (items : List Value) (hitems : ∀ item ∈ items, Textual depth item) :
    Textual (depth + 1) (.list items)
  | table (depth : Nat) (entries : Entries) (hnodup : (Entries.keys entries).Nodup)
      (hentries : ∀ entry ∈ entries, Textual depth entry.2) : Textual (depth + 1) (.table entries)

/-- With fuel for what is written, a value is taken off the front of a text. -/
def ReadBack (depth : Nat) (value : Value) : Prop :=
  ∀ fuel rest, (render value).length < fuel →
    takeValue fuel depth (render value ++ rest) = some (value, rest)

theorem readBack_text (depth : Nat) (s : String) : ReadBack depth (.text s) := by
  intro fuel rest h
  obtain ⟨fuel, rfl⟩ := Nat.exists_eq_succ_of_ne_zero (show fuel ≠ 0 by omega)
  obtain ⟨more, hmore, htake⟩ := takeString_renderText s rest
  rw [render, hmore, takeValue]
  simp [skip, isBlank, htake]

/-! ### Lists -/

/-- What is written for a value shows that one comes: no blank, and not the end of a list. -/
theorem exists_render_of_textual {depth : Nat} {value : Value} (h : Textual depth value) :
    ∃ c more, render value = c :: more ∧ isBlank c = false ∧ c ≠ ']' := by
  cases h with
  | text _ s =>
    rw [render, renderText]
    exact ⟨'"', _, rfl, by decide⟩
  | list _ items _ =>
    rw [render]
    exact ⟨'[', _, rfl, by decide⟩
  | table _ entries _ _ =>
    rw [render]
    exact ⟨'\x7b', _, rfl, by decide⟩

theorem exists_renderItems {depth : Nat} {item : Value} (h : Textual depth item)
    (others : List Value) :
    ∃ c more, renderItems (item :: others) = c :: more ∧ isBlank c = false ∧ c ≠ ']' := by
  obtain ⟨c, more, hrender, hc⟩ := exists_render_of_textual h
  cases others with
  | nil =>
    rw [renderItems, hrender]
    exact ⟨c, more, rfl, hc⟩
  | cons other others =>
    rw [renderItems, hrender]
    exact ⟨c, _, rfl, hc⟩

theorem takeItems_renderItems {depth : Nat} {items : List Value} (hne : items ≠ [])
    (hread : ∀ item ∈ items, ReadBack depth item) (fuel : Nat)
    (hfuel : (renderItems items).length + 1 < fuel) (rest : List Char) :
    takeItems fuel depth (renderItems items ++ ']' :: rest) = some (items, rest) := by
  induction items generalizing fuel with
  | nil => exact absurd rfl hne
  | cons item others ih =>
    obtain ⟨fuel, rfl⟩ := Nat.exists_eq_succ_of_ne_zero (show fuel ≠ 0 by omega)
    have hitem : ReadBack depth item := hread _ List.mem_cons_self
    have hcomma : ∀ rest, skip (',' :: rest) = ',' :: rest := fun _ => rfl
    have hend : skip (']' :: rest) = ']' :: rest := rfl
    cases others with
    | nil =>
      rw [renderItems] at hfuel ⊢
      simp only [takeItems, hitem fuel (']' :: rest) (by omega), hend]
    | cons other others =>
      rw [renderItems] at hfuel ⊢
      simp only [List.length_append, List.length_cons] at hfuel
      have hothers : ∀ item ∈ other :: others, ReadBack depth item :=
        fun item h => hread item (List.mem_cons_of_mem _ h)
      have hrest := ih (List.cons_ne_nil other others) hothers fuel (by omega)
      rw [List.append_assoc, List.cons_append]
      simp only [takeItems, hitem fuel _ (show (render item).length < fuel by omega), hcomma,
        hrest, Option.map_some]

theorem readBack_list {depth : Nat} {items : List Value}
    (htextual : ∀ item ∈ items, Textual depth item) (hread : ∀ item ∈ items, ReadBack depth item) :
    ReadBack (depth + 1) (.list items) := by
  intro fuel rest h
  obtain ⟨fuel, rfl⟩ := Nat.exists_eq_succ_of_ne_zero (show fuel ≠ 0 by omega)
  rw [render] at h ⊢
  rw [List.append_assoc, List.singleton_append, List.cons_append]
  cases items with
  | nil => rfl
  | cons item others =>
    obtain ⟨c, more, hmore, hblank, hc⟩ :=
      exists_renderItems (htextual item List.mem_cons_self) others
    have hlength : (renderItems (item :: others)).length + 1 < fuel := by
      simp only [List.length_append, List.length_cons, List.length_nil] at h
      omega
    have hitems := takeItems_renderItems (List.cons_ne_nil item others) hread fuel hlength rest
    have hskip : skip (c :: (more ++ ']' :: rest)) = c :: (more ++ ']' :: rest) :=
      List.dropWhile_cons_of_neg (by simp [hblank])
    rw [hmore, List.cons_append] at hitems ⊢
    have hopen : skip ('[' :: c :: (more ++ ']' :: rest)) = '[' :: c :: (more ++ ']' :: rest) := rfl
    rw [takeValue]
    simp only [hopen, hskip]
    split
    next heq => exact absurd (List.cons.inj heq).1 hc
    next => rw [hitems]; rfl

/-! ### Tables -/

/-- How a table goes on behind a member. -/
def takeAfter (fuel depth : Nat) (found : Entries) (text : List Char) :
    Option (Entries × List Char) :=
  match skip text with
  | ',' :: rest => takeMembers fuel depth found rest
  | '\x7d' :: rest => some (found, rest)
  | _ => none

theorem takeAfter_comma (fuel depth : Nat) (found : Entries) (rest : List Char) :
    takeAfter fuel depth found (',' :: rest) = takeMembers fuel depth found rest := rfl

theorem takeAfter_end (fuel depth : Nat) (found : Entries) (rest : List Char) :
    takeAfter fuel depth found ('\x7d' :: rest) = some (found, rest) := rfl

/-- One member of a table is found with one step of fuel. -/
theorem takeMembers_member {fuel depth : Nat} {found : Entries} {key : String} {value : Value}
    (hread : ReadBack depth value) (hfuel : (render value).length < fuel) (rest : List Char) :
    takeMembers (fuel + 1) depth found (renderText key ++ ':' :: render value ++ rest) =
      takeAfter fuel depth (found.set key value) rest := by
  obtain ⟨more, hmore, htake⟩ := takeString_renderText key (':' :: render value ++ rest)
  have hcolon : skip (':' :: render value ++ rest) = ':' :: (render value ++ rest) := rfl
  have hquote : skip ('"' :: more) = '"' :: more := rfl
  rw [List.append_assoc, hmore]
  simp only [takeMembers, hquote, htake, hcolon, hread fuel rest hfuel]
  rfl

theorem takeMembers_renderMembers {depth : Nat} {entries : Entries} (hne : entries ≠ [])
    (hread : ∀ entry ∈ entries, ReadBack depth entry.2) (fuel : Nat) (found : Entries)
    (hnodup : (Entries.keys (found ++ entries)).Nodup)
    (hfuel : (renderMembers entries).length < fuel) (rest : List Char) :
    takeMembers fuel depth found (renderMembers entries ++ '\x7d' :: rest) =
      some (found ++ entries, rest) := by
  induction entries generalizing fuel found with
  | nil => exact absurd rfl hne
  | cons entry others ih =>
    obtain ⟨key, value⟩ := entry
    obtain ⟨fuel, rfl⟩ := Nat.exists_eq_succ_of_ne_zero (show fuel ≠ 0 by omega)
    have hvalue : ReadBack depth value := hread _ List.mem_cons_self
    have hset : found.set key value = found ++ [(key, value)] := by
      refine Entries.set_of_not_mem value fun hmem => ?_
      rw [Entries.keys, List.map_append] at hnodup
      exact (List.nodup_append.1 hnodup).2.2 key hmem key List.mem_cons_self rfl
    cases others with
    | nil =>
      rw [renderMembers] at hfuel ⊢
      have hlength : (render value).length < fuel := by
        simp only [List.length_append, List.length_cons] at hfuel
        omega
      rw [takeMembers_member hvalue hlength, takeAfter_end, hset]
    | cons other others =>
      rw [renderMembers] at hfuel ⊢
      simp only [List.length_append, List.length_cons] at hfuel
      have hlength : (render value).length < fuel := by omega
      have hothers : ∀ entry ∈ other :: others, ReadBack depth entry.2 := by
        intro entry hentry
        exact hread entry (List.mem_cons_of_mem _ hentry)
      have hfresh : (Entries.keys (found ++ [(key, value)] ++ other :: others)).Nodup := by
        rwa [List.append_assoc, List.singleton_append]
      have hrest := ih (List.cons_ne_nil other others) hothers fuel _ hfresh (by omega)
      rw [List.append_assoc] at hrest
      rw [List.append_assoc, takeMembers_member hvalue hlength, List.cons_append, takeAfter_comma,
        hset, hrest, List.singleton_append]

theorem exists_renderMembers (entry : String × Value) (others : Entries) :
    ∃ more, renderMembers (entry :: others) = '"' :: more := by
  obtain ⟨key, value⟩ := entry
  cases others with
  | nil => exact ⟨_, rfl⟩
  | cons other others => exact ⟨_, rfl⟩

theorem readBack_table {depth : Nat} {entries : Entries} (hnodup : (Entries.keys entries).Nodup)
    (hread : ∀ entry ∈ entries, ReadBack depth entry.2) :
    ReadBack (depth + 1) (.table entries) := by
  intro fuel rest h
  obtain ⟨fuel, rfl⟩ := Nat.exists_eq_succ_of_ne_zero (show fuel ≠ 0 by omega)
  rw [render] at h ⊢
  rw [List.append_assoc, List.singleton_append, List.cons_append]
  cases entries with
  | nil => rfl
  | cons entry others =>
    obtain ⟨more, hmore⟩ := exists_renderMembers entry others
    have hlength : (renderMembers (entry :: others)).length < fuel := by
      simp only [List.length_append, List.length_cons] at h
      omega
    have hmembers := takeMembers_renderMembers (List.cons_ne_nil entry others) hread fuel []
      hnodup hlength rest
    rw [hmore] at hmembers ⊢
    show (takeMembers fuel depth [] ('"' :: more ++ '\x7d' :: rest)).map
      (fun taken => (Value.table taken.1, taken.2)) = some (.table (entry :: others), rest)
    rw [hmembers]
    rfl

theorem readBack_of_textual {depth : Nat} {value : Value} (h : Textual depth value) :
    ReadBack depth value := by
  induction h with
  | text depth s => exact readBack_text depth s
  | list depth items hitems ih => exact readBack_list hitems ih
  | table depth entries hnodup _ ih => exact readBack_table hnodup ih

/-- What is written for a value of texts, lists and tables is read as this value. -/
theorem parse_render {value : Value} (h : Textual maxDepth value) :
    parse (render value) = some value := by
  have htake := readBack_of_textual h ((render value).length + 1) [] (Nat.lt_succ_self _)
  rw [List.append_nil] at htake
  rw [parse, htake]
  rfl

end SignPost.Data.Json
