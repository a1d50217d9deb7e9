import SignPost.Proofs.Service.SignedList
import Mathlib.Logic.Relation

/-!
# Spellings of a list

`list_text_codec`: a list is read back from its text exactly if its names can stand in one, and the
names of a list that was read can. A text may be spelled in other ways (`Respelled`): with each
comma as an escape, and with blanks and more separators around each separator and at the ends.

All of this goes by one fact about reading escapes: a text that goes on as no escape does is read
apart from what stands before it (`readCommas_append`), so an escape put next to half of another, as
in `%2%2CC`, neither takes from it nor completes it.
-/

namespace SignPost.Service.SignedList

open Text (isBlank)

/-- A text with its escapes read: first those with a capital letter, then the others. -/
def readCommas (text : List Char) : List Char :=
  readComma 'c' (readComma 'C' text)

theorem parse_eq (text : String) :
    parse text = ⟨(tokens (readCommas text.toList)).map String.ofList⟩ := rfl

/-! ## Separators -/

/-- The three ways to write a comma. -/
inductive Separator : List Char → Prop
  | comma : Separator [',']
  | upper : Separator ['%', '2', 'C']
  | lower : Separator ['%', '2', 'c']

/-- A text that goes on as no escape does. -/
def Fresh (text : List Char) : Prop :=
  ∀ c ∈ text.head?, c ≠ '2' ∧ c ≠ 'C' ∧ c ≠ 'c'

theorem fresh_nil : Fresh [] := by
  intro c hc
  cases hc

theorem fresh_cons {c : Char} (h : c ≠ '2' ∧ c ≠ 'C' ∧ c ≠ 'c') (rest : List Char) :
    Fresh (c :: rest) := by
  intro d hd
  obtain rfl := Option.some.inj hd
  exact h

theorem Separator.fresh {s : List Char} (h : Separator s) (rest : List Char) :
    Fresh (s ++ rest) := by
  cases h <;> exact fresh_cons (by decide) _

theorem readCommas_append {y : List Char} (hy : Fresh y) (x : List Char) :
    readCommas (x ++ y) = readCommas x ++ readCommas y := by
  have hupper : ∀ c ∈ y.head?, c ≠ '2' ∧ c ≠ 'C' := fun c hc => ⟨(hy c hc).1, (hy c hc).2.1⟩
  have hlower : ∀ c ∈ (readComma 'C' y).head?, c ≠ '2' ∧ c ≠ 'c' := by
    cases y with
    | nil =>
      intro c hc
      cases hc
    | cons a rest =>
      intro c hc
      -- reading keeps the first character or puts a comma in its place
      rcases head_readComma 'C' a rest with ⟨more, hmore⟩ | hfirst
      · rw [hmore] at hc
        obtain rfl := Option.some.inj hc
        decide
      · rw [hfirst] at hc
        obtain rfl := Option.some.inj hc
        exact ⟨(hy a rfl).1, (hy a rfl).2.2⟩
  rw [readCommas, readComma_append hupper, readComma_append hlower]
  rfl

theorem readCommas_cons {c : Char} (hc : c ≠ '%') (rest : List Char) :
    readCommas (c :: rest) = c :: readCommas rest := by
  rw [readCommas, readComma_cons_of_ne hc, readComma_cons_of_ne hc]
  rfl

theorem readCommas_separator {s : List Char} (h : Separator s) (rest : List Char) :
    readCommas (s ++ rest) = ',' :: readCommas rest := by
  cases h with
  | comma => exact readCommas_cons (by decide) rest
  | upper =>
    change readComma 'c' (readComma 'C' ('%' :: '2' :: 'C' :: rest)) = _
    rw [readComma_escape, readComma_cons_of_ne (by decide)]
    rfl
  | lower =>
    have hkept : readComma 'C' ('%' :: '2' :: 'c' :: rest) =
        '%' :: '2' :: 'c' :: readComma 'C' rest := by
      rw [readComma_cons (by simp [List.cons_prefix_cons]), readComma_cons_of_ne (by decide),
        readComma_cons_of_ne (by decide)]
    change readComma 'c' (readComma 'C' ('%' :: '2' :: 'c' :: rest)) = _
    rw [hkept, readComma_escape]
    rfl

/-- However a separator is written, it is read as a comma between what stands around it. -/
theorem readCommas_around {s : List Char} (h : Separator s) (x y : List Char) :
    readCommas (x ++ (s ++ y)) = readCommas x ++ ',' :: readCommas y := by
  rw [readCommas_append (h.fresh y), readCommas_separator h]

/-! ## Blanks and separators that add no names -/

/-- Any sequence of blanks and separators. -/
inductive Padding : List Char → Prop
  | nil : Padding []
  | blank {c : Char} {rest : List Char} (hc : isBlank c = true) (h : Padding rest) :
    Padding (c :: rest)
  | separator {s rest : List Char} (hs : Separator s) (h : Padding rest) : Padding (s ++ rest)

theorem ne_of_isBlank {c d : Char} (hc : isBlank c = true) (hd : isBlank d = false) : c ≠ d := by
  rintro rfl
  rw [hc] at hd
  cases hd

theorem Padding.fresh {w y : List Char} (h : Padding w) (hy : Fresh y) : Fresh (w ++ y) := by
  cases h with
  | nil => exact hy
  | blank hc h =>
    exact fresh_cons ⟨ne_of_isBlank hc (by decide), ne_of_isBlank hc (by decide),
      ne_of_isBlank hc (by decide)⟩ _
  | separator hs h =>
    rw [List.append_assoc]
    exact hs.fresh _

/-- What padding is read as: blanks and commas. -/
theorem Padding.read {w : List Char} (h : Padding w) :
    ∃ v, (∀ c ∈ v, c = ',' ∨ isBlank c = true) ∧ ∀ y, readCommas (w ++ y) = v ++ readCommas y := by
  induction h with
  | nil => exact ⟨[], by simp, fun y => rfl⟩
  | @blank c rest hc h ih =>
    obtain ⟨v, hv, hread⟩ := ih
    refine ⟨c :: v, List.forall_mem_cons.2 ⟨Or.inr hc, hv⟩, fun y => ?_⟩
    rw [List.cons_append, readCommas_cons (ne_of_isBlank hc (by decide)), hread, List.cons_append]
  | @separator s rest hs h ih =>
    obtain ⟨v, hv, hread⟩ := ih
    refine ⟨',' :: v, List.forall_mem_cons.2 ⟨Or.inl rfl, hv⟩, fun y => ?_⟩
    rw [List.append_assoc, readCommas_separator hs, hread, List.cons_append]

theorem tokens_append (x y : List Char) : tokens (x ++ ',' :: y) = tokens x ++ tokens y := by
  rw [tokens, pieces_append (by simp), List.map_append, List.filter_append]
  rfl

theorem tokens_comma_cons (y : List Char) : tokens (',' :: y) = tokens y :=
  tokens_append [] y

theorem tokens_blank_cons {c : Char} (hc : isBlank c = true) (y : List Char) :
    tokens (c :: y) = tokens y := by
  have hne : c ≠ ',' := ne_of_isBlank hc (by decide)
  rw [tokens, tokens, pieces, if_neg (by simpa using hne)]
  cases hpieces : pieces (fun c => decide (c = ',')) y with
  | nil => exact absurd hpieces (pieces_ne_nil _ _)
  | cons piece more => simp only [List.map_cons, Text.trim_cons hc]

theorem tokens_of_no_comma {x : List Char} (hx : ',' ∉ x) :
    tokens x = [Text.trim x].filter fun name => !name.isEmpty := by
  have hnone : ∀ c ∈ x, decide (c = ',') = false := by
    intro c hc
    refine decide_eq_false ?_
    rintro rfl
    exact hx hc
  rw [tokens, pieces_of_none hnone, List.map_singleton]

theorem tokens_append_blank {c : Char} (hc : isBlank c = true) (x : List Char) :
    tokens (x ++ [c]) = tokens x := by
  induction hn : x.length using Nat.strong_induction_on generalizing x with
  | h n ih =>
    by_cases hcomma : ',' ∈ x
    · obtain ⟨front, rest, rfl⟩ := List.append_of_mem hcomma
      have hshort : rest.length < n := by
        simp only [List.length_append, List.length_cons] at hn
        omega
      rw [List.append_assoc, List.cons_append, tokens_append, tokens_append, ih _ hshort rest rfl]
    · have hnone : ',' ∉ x ++ [c] := by
        have hne : ',' ≠ c := (ne_of_isBlank hc (by decide)).symm
        simp [hcomma, hne]
      rw [tokens_of_no_comma hnone, tokens_of_no_comma hcomma, Text.trim_append hc]

theorem tokens_pad_left {v : List Char} (hv : ∀ c ∈ v, c = ',' ∨ isBlank c = true)
    (y : List Char) : tokens (v ++ y) = tokens y := by
  induction v with
  | nil => rfl
  | cons c v ih =>
    obtain ⟨hc, hmore⟩ := List.forall_mem_cons.1 hv
    rw [List.cons_append]
    rcases hc with rfl | hc
    · rw [tokens_comma_cons, ih hmore]
    · rw [tokens_blank_cons hc, ih hmore]

theorem tokens_pad_right {v : List Char} (hv : ∀ c ∈ v, c = ',' ∨ isBlank c = true)
    (x : List Char) : tokens (x ++ v) = tokens x := by
  induction v generalizing x with
  | nil => rw [List.append_nil]
  | cons c v ih =>
    obtain ⟨hc, hmore⟩ := List.forall_mem_cons.1 hv
    have hone : tokens (x ++ [c]) = tokens x := by
      rcases hc with rfl | hc
      · rw [tokens_append]
        exact List.append_nil _
      · exact tokens_append_blank hc x
    rw [← List.singleton_append, ← List.append_assoc, ih hmore, hone]

/-! ## Spellings -/

/-- One change to a text that leaves its list alone: a separator is written in another way, or
padding is added before or behind a separator or at an end. -/
inductive Respelled : List Char → List Char → Prop
  | separator {s s' : List Char} (hs : Separator s) (hs' : Separator s') (x y : List Char) :
    Respelled (x ++ (s ++ y)) (x ++ (s' ++ y))
  | before {s w : List Char} (hs : Separator s) (hw : Padding w) (x y : List Char) :
    Respelled (x ++ (s ++ y)) (x ++ (w ++ (s ++ y)))
  | behind {s w : List Char} (hs : Separator s) (hw : Padding w) (x y : List Char) :
    Respelled (x ++ (s ++ y)) (x ++ (s ++ (w ++ y)))
  | first {w : List Char} (hw : Padding w) (x : List Char) : Respelled x (w ++ x)
  | last {w : List Char} (hw : Padding w) (x : List Char) : Respelled x (x ++ w)

theorem Respelled.tokens_eq {text text' : List Char} (h : Respelled text text') :
    tokens (readCommas text') = tokens (readCommas text) := by
  cases h with
  | separator hs hs' x y => rw [readCommas_around hs, readCommas_around hs']
  | before hs hw x y =>
    obtain ⟨v, hv, hread⟩ := hw.read
    rw [readCommas_append (hw.fresh (hs.fresh y)), hread, readCommas_separator hs,
      readCommas_around hs, ← List.append_assoc, tokens_append, tokens_append,
      tokens_pad_right hv]
  | behind hs hw x y =>
    obtain ⟨v, hv, hread⟩ := hw.read
    rw [readCommas_around hs, readCommas_around hs, hread, tokens_append, tokens_append,
      tokens_pad_left hv]
  | first hw x =>
    obtain ⟨v, hv, hread⟩ := hw.read
    rw [hread, tokens_pad_left hv]
  | last hw x =>
    obtain ⟨v, hv, hread⟩ := hw.read
    have hfresh := hw.fresh fresh_nil
    have hend := hread []
    rw [List.append_nil] at hfresh hend
    have hnil : readCommas [] = [] := rfl
    rw [readCommas_append hfresh, hend, hnil, List.append_nil, tokens_pad_right hv]

theorem tokens_eq_of_respelled {text text' : List Char}
    (h : Relation.ReflTransGen Respelled text text') :
    tokens (readCommas text') = tokens (readCommas text) := by
  induction h with
  | refl => rfl
  | tail _ hstep ih => exact hstep.tokens_eq.trans ih

/-! ## The codec -/

/-- A name that can stand in a list, told by its characters. -/
structure Listable (name : String) : Prop where
  ne_empty : name ≠ ""
  first : ∀ c ∈ name.toList.head?, isBlank c = false
  last : ∀ c ∈ name.toList.getLast?, isBlank c = false
  no_comma : ',' ∉ name.toList
  no_upper : ¬ "%2C".toList <:+: name.toList
  no_lower : ¬ "%2c".toList <:+: name.toList

theorem listable_iff {name : String} : Listable name ↔ IsName name.toList := by
  constructor
  · rintro ⟨hne, hfirst, hlast, hcomma, hupper, hlower⟩
    refine ⟨fun hnil => hne (String.toList_eq_nil_iff.1 hnil), Text.trim_eq_self.2 ⟨hfirst, hlast⟩,
      fun c hc hcomma' => hcomma (hcomma' ▸ hc), hupper, hlower⟩
  · rintro ⟨hne, htrimmed, hcomma, hupper, hlower⟩
    obtain ⟨hfirst, hlast⟩ := Text.trim_eq_self.1 htrimmed
    refine ⟨fun hempty => hne (String.toList_eq_nil_iff.2 hempty), hfirst, hlast,
      fun hc => hcomma ',' hc rfl, hupper, hlower⟩

/-- A list that was read is read back from its text, and its names can stand in a list; any other
list is read back from its text exactly if its names can. Other spellings of a text are the same
list. -/
theorem list_text_codec :
    (∀ text, parse (parse text).render = parse text ∧
      ∀ name ∈ (parse text).names, Listable name) ∧
    (∀ list : SignedList, parse list.render = list ↔ ∀ name ∈ list.names, Listable name) ∧
    ∀ text text' : String, Relation.ReflTransGen Respelled text.toList text'.toList →
      parse text' = parse text := by
  have hlistable : ∀ text, ∀ name ∈ (parse text).names, Listable name :=
    fun text name hname => listable_iff.2 (isName_of_mem_parse hname)
  refine ⟨fun text => ⟨parse_render_parse text, hlistable text⟩, fun list => ?_,
    fun text text' h => by rw [parse_eq, parse_eq, tokens_eq_of_respelled h]⟩
  constructor
  · intro h name hname
    rw [← h] at hname
    exact hlistable _ name hname
  · intro h
    exact parse_render fun name hname => listable_iff.1 (h name hname)

/-- The comma of `%2,C` is written as an escape between the halves of another, with a blank in front
and one more separator behind. A name with a comma is not read back. -/
theorem sample_list_text_codec :
    parse " %2%2CC%2c" = ⟨["%2", "C"]⟩ ∧ Listable "%2" ∧
      parse (render ⟨["%2", "C"]⟩) = ⟨["%2", "C"]⟩ ∧ parse (render ⟨["a,b"]⟩) ≠ ⟨["a,b"]⟩ := by
  obtain ⟨hread, hrender, hspelling⟩ := list_text_codec
  have hplain : parse "%2,C" = ⟨["%2", "C"]⟩ := by decide +kernel
  have hnames := (hread "%2,C").2
  rw [hplain] at hnames
  have hescape : Respelled "%2,C".toList "%2%2CC".toList :=
    Respelled.separator Separator.comma Separator.upper ['%', '2'] ['C']
  have hblank : Respelled "%2%2CC".toList " %2%2CC".toList :=
    Respelled.first (Padding.blank (by decide) Padding.nil) _
  have hlast : Respelled " %2%2CC".toList " %2%2CC%2c".toList :=
    Respelled.last (Padding.separator Separator.lower Padding.nil) _
  have hsame := hspelling "%2,C" " %2%2CC%2c"
    (((Relation.ReflTransGen.single hescape).tail hblank).tail hlast)
  refine ⟨hsame.trans hplain, hnames "%2" (by simp), (hrender _).2 hnames, fun hback => ?_⟩
  exact ((hrender ⟨["a,b"]⟩).1 hback "a,b" (by simp)).no_comma (by decide)

end SignPost.Service.SignedList
