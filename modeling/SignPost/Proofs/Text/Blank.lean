import SignPost.Text.Pieces
import Mathlib.Data.List.DropRight

/-!
# Trimming

A text is trimmed if no blank stands at its ends (`trim_eq_self`). `trim_trim`: what is trimmed
stays as it is, so a name that was read once is read unchanged ever after.
-/

namespace SignPost.Text

theorem trimRight_eq (text : List Char) : trimRight text = text.rdropWhile isBlank := rfl

/-- What is left after trimming is a stretch of the text. -/
theorem trim_infix (text : List Char) : trim text <:+: text :=
  (List.rdropWhile_prefix isBlank _).isInfix.trans (List.dropWhile_suffix isBlank).isInfix

theorem trim_of_none {text : List Char} (h : ∀ c ∈ text, isBlank c = false) : trim text = text := by
  have hdrop : ∀ s : List Char, (∀ c ∈ s, isBlank c = false) → s.dropWhile isBlank = s := by
    intro s hs
    cases s with
    | nil => rfl
    | cons c s => rw [List.dropWhile_cons_of_neg (by simp [hs c])]
  rw [trim, hdrop text h, trimRight, hdrop text.reverse (by simpa using h), List.reverse_reverse]

/-- Trimming leaves nothing of a text of blanks, and something of every other text. -/
theorem trim_eq_nil {text : List Char} : trim text = [] ↔ ∀ c ∈ text, isBlank c = true := by
  rw [trim, trimRight_eq, List.rdropWhile_eq_nil_iff]
  constructor
  · intro h c hc
    by_contra hblank
    -- what dropping blanks in front leaves begins with a character that is none
    have hrest : text.dropWhile isBlank ≠ [] := by
      rw [Ne, List.dropWhile_eq_nil_iff]
      exact fun hall => hblank (hall c hc)
    have hhead := List.head_dropWhile_not isBlank hrest
    rw [h _ (List.head_mem hrest)] at hhead
    cases hhead
  · intro h
    rw [List.dropWhile_eq_nil_iff.2 h]
    simp

/-- A start of a text that begins with no blank begins with none. -/
theorem dropWhile_of_start {s t : List Char} (hstart : s <+: t)
    (ht : t.dropWhile isBlank = t) : s.dropWhile isBlank = s := by
  cases s with
  | nil => rfl
  | cons c s =>
    obtain ⟨rest, rfl⟩ := hstart
    rw [List.dropWhile_eq_self_iff] at ht ⊢
    intro _
    exact ht (by simp)

theorem dropWhile_trim (text : List Char) : (trim text).dropWhile isBlank = trim text :=
  dropWhile_of_start (List.rdropWhile_prefix isBlank _) (List.dropWhile_idempotent ..)

theorem trimRight_trim (text : List Char) : trimRight (trim text) = trim text := by
  rw [trim, trimRight_eq, trimRight_eq]
  exact List.rdropWhile_idempotent ..

theorem trim_trim (text : List Char) : trim (trim text) = trim text := by
  calc trim (trim text) = trimRight ((trim text).dropWhile isBlank) := rfl
    _ = trimRight (trim text) := by rw [dropWhile_trim]
    _ = trim text := trimRight_trim text

/-- A text is trimmed if it neither begins nor ends with a blank. -/
theorem trim_eq_self {text : List Char} :
    trim text = text ↔
      (∀ c ∈ text.head?, isBlank c = false) ∧ ∀ c ∈ text.getLast?, isBlank c = false := by
  constructor
  · intro h
    have hfirst := dropWhile_trim text
    rw [h, List.dropWhile_eq_self_iff] at hfirst
    have hlast := trimRight_trim text
    rw [h, trimRight_eq, List.rdropWhile_eq_self_iff] at hlast
    constructor
    · intro c hc
      obtain ⟨rest, rfl⟩ := List.head?_eq_some_iff.1 hc
      have hblank := hfirst (by simp)
      simpa using hblank
    · intro c hc
      obtain ⟨front, rfl⟩ := List.getLast?_eq_some_iff.1 hc
      simpa using hlast (by simp)
  · rintro ⟨hfirst, hlast⟩
    have hfront : text.dropWhile isBlank = text := by
      cases text with
      | nil => rfl
      | cons c rest => rw [List.dropWhile_cons_of_neg (by simp [hfirst c rfl])]
    rw [trim, hfront, trimRight_eq, List.rdropWhile_eq_self_iff]
    intro hne
    rw [hlast _ (List.getLast?_eq_some_getLast hne)]
    decide

theorem trim_cons {c : Char} (hc : isBlank c = true) (text : List Char) :
    trim (c :: text) = trim text := by
  rw [trim, trim, List.dropWhile_cons_of_pos hc]

theorem trim_append {c : Char} (hc : isBlank c = true) (text : List Char) :
    trim (text ++ [c]) = trim text := by
  rw [trim, trim, List.dropWhile_append]
  split
  next hnil =>
    rw [List.isEmpty_iff.1 hnil, List.dropWhile_cons_of_pos hc, List.dropWhile_nil]
  next =>
    rw [trimRight_eq, trimRight_eq]
    exact List.rdropWhile_concat_pos _ _ _ hc

end SignPost.Text
