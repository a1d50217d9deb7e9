/-!
# Pieces of a text, and blanks around them

A list cut at its separators. There is always one piece more than there are separators, and joining
two lists by a separator joins their pieces.

There are two classes of blank characters: the five of ASCII that may wrap an encoded form value,
and the property `White_Space` of Unicode, by which list entries and numbers are trimmed.
-/

namespace SignPost

def pieces (separator : α → Bool) : List α → List (List α)
  | [] => [[]]
  | x :: rest =>
    if separator x then [] :: pieces separator rest
    else
      match pieces separator rest with
      | [] => [[x]]
      | piece :: more => (x :: piece) :: more

theorem pieces_ne_nil (separator : α → Bool) (xs : List α) : pieces separator xs ≠ [] := by
  cases xs with
  | nil => simp [pieces]
  | cons x rest =>
    rw [pieces]
    split
    · simp
    · split <;> simp

/-- Two lists around a separator have the pieces of the first and then those of the second. -/
theorem pieces_append {separator : α → Bool} {x : α} (hx : separator x = true) (xs ys : List α) :
    pieces separator (xs ++ x :: ys) = pieces separator xs ++ pieces separator ys := by
  induction xs with
  | nil => simp [pieces, hx]
  | cons y xs ih =>
    simp only [List.cons_append, pieces, ih]
    split
    · rfl
    · cases h : pieces separator xs with
      | nil => exact absurd h (pieces_ne_nil _ _)
      | cons p ps => rfl

/-- A list without separators is its own only piece. -/
theorem pieces_of_none {separator : α → Bool} {xs : List α} (h : ∀ x ∈ xs, separator x = false) :
    pieces separator xs = [xs] := by
  induction xs with
  | nil => rfl
  | cons x xs ih =>
    rw [pieces, if_neg (by simp [h x List.mem_cons_self]),
      ih fun y hy => h y (List.mem_cons_of_mem _ hy)]

/-- Joining lists without separators and cutting them again gives the lists. -/
theorem pieces_intercalate {separator : α → Bool} {x : α} (hx : separator x = true)
    {xss : List (List α)} (hne : xss ≠ [])
    (h : ∀ piece ∈ xss, ∀ y ∈ piece, separator y = false) :
    pieces separator ([x].intercalate xss) = xss := by
  induction xss with
  | nil => exact absurd rfl hne
  | cons piece xss ih =>
    have hpiece := pieces_of_none (h piece List.mem_cons_self)
    cases xss with
    | nil => rw [List.intercalate_singleton, hpiece]
    | cons next more =>
      rw [List.intercalate_cons_cons, List.append_assoc, List.singleton_append, pieces_append hx,
        hpiece, ih (by simp) fun p hp => h p (List.mem_cons_of_mem _ hp), List.singleton_append]

theorem not_separator_of_mem_pieces {separator : α → Bool} {xs piece : List α} {x : α}
    (hp : piece ∈ pieces separator xs) (hx : x ∈ piece) : separator x = false := by
  induction xs generalizing piece with
  | nil => simp only [pieces, List.mem_singleton] at hp; subst hp; simp at hx
  | cons y xs ih =>
    rw [pieces] at hp
    split at hp
    · rcases List.mem_cons.1 hp with rfl | hp
      · simp at hx
      · exact ih hp hx
    · cases h : pieces separator xs with
      | nil => exact absurd h (pieces_ne_nil _ _)
      | cons q qs =>
        rw [h] at hp ih
        rcases List.mem_cons.1 hp with rfl | hp
        · rcases List.mem_cons.1 hx with rfl | hx
          · simpa using ‹¬ separator _ = true›
          · exact ih List.mem_cons_self hx
        · exact ih (List.mem_cons_of_mem _ hp) hx

/-! ## Blanks -/

namespace Text

/-- Space, tab, line feed, form feed and carriage return. -/
def isAsciiBlank (c : Char) : Bool :=
  c = ' ' || c = '\t' || c = '\n' || c = '\x0c' || c = '\r'

/-- The characters with the Unicode property `White_Space`. -/
def isBlank (c : Char) : Bool :=
  let n := c.toNat
  (9 ≤ n && n ≤ 13) || n = 0x20 || n = 0x85 || n = 0xA0 || n = 0x1680 ||
    (0x2000 ≤ n && n ≤ 0x200A) || n = 0x2028 || n = 0x2029 || n = 0x202F || n = 0x205F || n = 0x3000

/-- A text without the blank characters at its end. -/
def trimRight (text : List Char) : List Char :=
  (text.reverse.dropWhile isBlank).reverse

/-- A text without the blank characters at its two ends. -/
def trim (text : List Char) : List Char :=
  trimRight (text.dropWhile isBlank)

end Text

end SignPost
