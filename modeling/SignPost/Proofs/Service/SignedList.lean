import SignPost.Service.SignedList
import SignPost.Proofs.Text.Blank

/-!
# Lists of names as text

`parse_render`: a list is read back from its text if each of its names can stand in a list
(`IsName`), and `isName_of_mem_parse`: the names of every list that was read can. What makes the
second true is that reading escapes leaves none behind (`infix_readComma`): a comma that is put in
breaks every escape that it touches, so none arises across it.
-/

namespace SignPost.Service.SignedList

/-- A name that can stand in a list: it has characters, no blanks at its ends, and no comma, as
such or written `%2C` or `%2c`. -/
structure IsName (name : List Char) : Prop where
  ne_nil : name ≠ []
  trimmed : Text.trim name = name
  no_comma : ∀ c ∈ name, c ≠ ','
  no_upper : ¬ ['%', '2', 'C'] <:+: name
  no_lower : ¬ ['%', '2', 'c'] <:+: name

/-! ## Reading escapes -/

theorem readComma_escape (letter : Char) (rest : List Char) :
    readComma letter ('%' :: '2' :: letter :: rest) = ',' :: readComma letter rest := by
  rw [readComma, if_pos ⟨rfl, rfl, rfl⟩]

theorem readComma_cons {letter a : Char} {rest : List Char}
    (h : ¬ ['%', '2', letter] <+: a :: rest) :
    readComma letter (a :: rest) = a :: readComma letter rest := by
  match rest with
  | [] => rfl
  | [_] => rfl
  | b :: c :: more =>
    have hne : ¬ (a = '%' ∧ b = '2' ∧ c = letter) := by
      rintro ⟨rfl, rfl, rfl⟩
      exact h ⟨more, rfl⟩
    rw [readComma, if_neg hne]

theorem readComma_of_not_infix {letter : Char} {text : List Char}
    (h : ¬ ['%', '2', letter] <:+: text) : readComma letter text = text := by
  induction text with
  | nil => rfl
  | cons a rest ih =>
    rw [readComma_cons fun hp => h hp.isInfix, ih fun hi => h (List.infix_cons hi)]

/-- Texts are read apart where no escape can reach from one into the other, that is, where the
second does not go on as an escape does. -/
theorem readComma_append {letter : Char} {y : List Char}
    (hy : ∀ c ∈ y.head?, c ≠ '2' ∧ c ≠ letter) (x : List Char) :
    readComma letter (x ++ y) = readComma letter x ++ readComma letter y := by
  have hsecond : ∀ a, ¬ ['%', '2', letter] <+: a :: y := by
    rintro a ⟨rest, hrest⟩
    obtain ⟨-, hrest⟩ := List.cons.inj hrest
    rw [← hrest] at hy
    exact (hy '2' rfl).1 rfl
  have hthird : ∀ a b, ¬ ['%', '2', letter] <+: a :: b :: y := by
    rintro a b ⟨rest, hrest⟩
    obtain ⟨-, hrest⟩ := List.cons.inj (List.cons.inj hrest).2
    rw [← hrest] at hy
    exact (hy letter rfl).2 rfl
  induction x using readComma.induct letter with
  | case1 => rfl
  | case2 a =>
    rw [List.singleton_append, readComma_cons (hsecond a)]
    rfl
  | case3 a b =>
    rw [List.cons_append, List.singleton_append, readComma_cons (hthird a b),
      readComma_cons (hsecond b)]
    rfl
  | case4 a b c rest h ih =>
    obtain ⟨rfl, rfl, rfl⟩ := h
    simp only [List.cons_append] at ih ⊢
    rw [readComma_escape, readComma_escape, ih, List.cons_append]
  | case5 a b c rest h ih =>
    simp only [List.cons_append] at ih ⊢
    rw [readComma, if_neg h, readComma, if_neg h, ih, List.cons_append]

/-- No escape begins with another character than `%`. -/
theorem readComma_cons_of_ne {letter a : Char} (ha : a ≠ '%') (rest : List Char) :
    readComma letter (a :: rest) = a :: readComma letter rest := by
  refine readComma_cons fun hp => ?_
  exact ha (List.cons_prefix_cons.1 hp).1.symm

/-- What is read starts with a comma or with the start of the text. -/
theorem head_readComma (letter a : Char) (rest : List Char) :
    (∃ more, readComma letter (a :: rest) = ',' :: more) ∨
      readComma letter (a :: rest) = a :: readComma letter rest := by
  by_cases h : ['%', '2', letter] <+: a :: rest
  · obtain ⟨more, hmore⟩ := h
    rw [← hmore]
    exact Or.inl ⟨_, readComma_escape letter more⟩
  · exact Or.inr (readComma_cons h)

/-- An escape of any letter that is there after reading was there before, and is not one of those
that were read. -/
theorem prefix_readComma {letter m : Char} (hm : m ≠ ',') {text : List Char}
    (h : ['%', '2', m] <+: readComma letter text) : m ≠ letter ∧ ['%', '2', m] <+: text := by
  have hcomma : ∀ {c : Char} {s t more : List Char}, c ≠ ',' → c :: s <+: t → t ≠ ',' :: more := by
    rintro c s t more hc hst rfl
    exact hc (List.cons_prefix_cons.1 hst).1
  match text with
  | [] => simp [readComma] at h
  | a :: rest =>
    rcases head_readComma letter a rest with ⟨more, hmore⟩ | hfirst
    · exact absurd hmore (hcomma (by decide) h)
    have hkept : ¬ ['%', '2', letter] <+: a :: rest := by
      intro hp
      obtain ⟨more, hmore⟩ := hp
      rw [← hmore] at h
      change ['%', '2', m] <+: readComma letter ('%' :: '2' :: letter :: more) at h
      rw [readComma_escape] at h
      exact absurd rfl (hcomma (by decide) h)
    rw [hfirst, List.cons_prefix_cons] at h
    obtain ⟨rfl, h⟩ := h
    match rest with
    | [] => simp [readComma] at h
    | b :: rest =>
      rcases head_readComma letter b rest with ⟨more, hmore⟩ | hsecond
      · exact absurd hmore (hcomma (by decide) h)
      rw [hsecond, List.cons_prefix_cons] at h
      obtain ⟨rfl, h⟩ := h
      match rest with
      | [] => simp [readComma] at h
      | c :: rest =>
        rcases head_readComma letter c rest with ⟨more, hmore⟩ | hthird
        · exact absurd hmore (hcomma hm h)
        rw [hthird, List.cons_prefix_cons] at h
        obtain ⟨rfl, -⟩ := h
        refine ⟨?_, ⟨rest, rfl⟩⟩
        rintro rfl
        exact hkept ⟨rest, rfl⟩

theorem infix_readComma {letter m : Char} (hm : m ≠ ',') {text : List Char}
    (h : ['%', '2', m] <:+: readComma letter text) : m ≠ letter ∧ ['%', '2', m] <:+: text := by
  induction text using readComma.induct letter with
  | case1 => simp [readComma] at h
  | case2 a => exact absurd h.length_le (by simp [readComma])
  | case3 a b => exact absurd h.length_le (by simp [readComma])
  | case4 a b c rest hc ih =>
    obtain ⟨rfl, rfl, rfl⟩ := hc
    rw [readComma_escape, List.infix_cons_iff] at h
    rcases h with h | h
    · exact absurd (List.cons_prefix_cons.1 h).1 (by decide)
    · obtain ⟨hne, hi⟩ := ih h
      exact ⟨hne, hi.trans (List.suffix_append ['%', '2', c] rest).isInfix⟩
  | case5 a b c rest hc ih =>
    by_cases hp : ['%', '2', m] <+: readComma letter (a :: b :: c :: rest)
    · obtain ⟨hne, hi⟩ := prefix_readComma hm hp
      exact ⟨hne, hi.isInfix⟩
    · rw [readComma, if_neg hc] at h hp
      obtain ⟨hne, hi⟩ := ih ((List.infix_cons_iff.1 h).resolve_left hp)
      exact ⟨hne, List.infix_cons hi⟩

/-! ## Names -/

theorem infix_of_mem_pieces {separator : Char → Bool} {text piece : List Char}
    (h : piece ∈ pieces separator text) : piece <:+: text := by
  -- the first piece is a start of the text, which the induction has to know
  have hboth : (∀ p ∈ (pieces separator text).head?, p <+: text) ∧
      ∀ p ∈ pieces separator text, p <:+: text := by
    clear h
    induction text with
    | nil => simp [pieces]
    | cons a rest ih =>
      obtain ⟨ihhead, ihall⟩ := ih
      rw [pieces]
      split
      · refine ⟨by simp, fun p hp => ?_⟩
        rcases List.mem_cons.1 hp with rfl | hp
        · exact List.nil_infix
        · exact List.infix_cons (ihall p hp)
      · cases hpieces : pieces separator rest with
        | nil => exact absurd hpieces (pieces_ne_nil _ _)
        | cons q qs =>
          rw [hpieces] at ihhead ihall
          have hq : a :: q <+: a :: rest := (List.prefix_cons_inj a).2 (ihhead q rfl)
          refine ⟨by simpa using hq, fun p hp => ?_⟩
          rcases List.mem_cons.1 hp with rfl | hp
          · exact hq.isInfix
          · exact List.infix_cons (ihall p (List.mem_cons_of_mem _ hp))
  exact hboth.2 piece h

/-- The names of a text without escapes can stand in a list. -/
theorem isName_of_mem_tokens {text name : List Char} (hupper : ¬ ['%', '2', 'C'] <:+: text)
    (hlower : ¬ ['%', '2', 'c'] <:+: text) (h : name ∈ tokens text) : IsName name := by
  obtain ⟨hname, hne⟩ := List.mem_filter.1 h
  obtain ⟨piece, hpiece, rfl⟩ := List.mem_map.1 hname
  have hinfix : Text.trim piece <:+: text :=
    (Text.trim_infix piece).trans (infix_of_mem_pieces hpiece)
  exact {
    ne_nil := by simpa using hne
    trimmed := Text.trim_trim piece
    no_comma := fun c hc => by
      have := not_separator_of_mem_pieces hpiece ((Text.trim_infix piece).subset hc)
      simpa using this
    no_upper := fun hi => hupper (hi.trans hinfix)
    no_lower := fun hi => hlower (hi.trans hinfix) }

/-- The names of a list that was read can stand in a list. -/
theorem isName_of_mem_parse {text name : String} (h : name ∈ (parse text).names) :
    IsName name.toList := by
  obtain ⟨chars, hchars, rfl⟩ := List.mem_map.1 h
  rw [String.toList_ofList]
  refine isName_of_mem_tokens ?_ ?_ hchars
  · intro hi
    obtain ⟨-, hi⟩ := infix_readComma (by decide) hi
    exact (infix_readComma (by decide) hi).1 rfl
  · intro hi
    exact (infix_readComma (by decide) hi).1 rfl

/-! ## Reading back -/

theorem readComma_intercalate {letter : Char} (hletter : letter ≠ ',') {names : List (List Char)}
    (h : ∀ name ∈ names, ¬ ['%', '2', letter] <:+: name) :
    readComma letter ([','].intercalate names) = [','].intercalate names := by
  induction names with
  | nil => rfl
  | cons name names ih =>
    have hname := readComma_of_not_infix (h name List.mem_cons_self)
    cases names with
    | nil => rw [List.intercalate_singleton, hname]
    | cons next more =>
      have hcomma : ∀ c ∈ (',' :: [','].intercalate (next :: more)).head?,
          c ≠ '2' ∧ c ≠ letter := by
        intro c hc
        obtain rfl := Option.some.inj hc
        exact ⟨by decide, hletter.symm⟩
      rw [List.intercalate_cons_cons, List.append_assoc, List.singleton_append,
        readComma_append hcomma, hname, readComma_cons_of_ne (by decide),
        ih fun n hn => h n (List.mem_cons_of_mem _ hn)]

theorem tokens_intercalate {names : List (List Char)} (h : ∀ name ∈ names, IsName name) :
    tokens ([','].intercalate names) = names := by
  by_cases hnil : names = []
  · subst hnil
    rfl
  · have hpieces : pieces (· = ',') ([','].intercalate names) = names := by
      refine pieces_intercalate (by simp) hnil fun name hname c hc => ?_
      exact decide_eq_false ((h name hname).no_comma c hc)
    have htrim : names.map Text.trim = names.map id :=
      List.map_congr_left fun name hname => (h name hname).trimmed
    have hfilter : names.filter (fun name => !name.isEmpty) = names := by
      refine List.filter_eq_self.2 fun name hname => ?_
      simpa using (h name hname).ne_nil
    rw [tokens, hpieces, htrim, List.map_id, hfilter]

/-- A list of names that can stand in one is read back from its text. -/
theorem parse_render {list : SignedList} (h : ∀ name ∈ list.names, IsName name.toList) :
    parse list.render = list := by
  obtain ⟨names⟩ := list
  have hnames : ∀ name ∈ names.map String.toList, IsName name := by
    intro name hname
    obtain ⟨text, htext, rfl⟩ := List.mem_map.1 hname
    exact h text htext
  have hback : (names.map String.toList).map String.ofList = names := by
    have hid : String.ofList ∘ String.toList = id := funext fun _ => String.ofList_toList
    rw [List.map_map, hid, List.map_id]
  rw [parse, render, String.toList_intercalate]
  change (⟨(tokens (readComma 'c' (readComma 'C' ([','].intercalate _)))).map _⟩ : SignedList) = _
  rw [readComma_intercalate (by decide) fun n hn => (hnames n hn).no_upper,
    readComma_intercalate (by decide) fun n hn => (hnames n hn).no_lower,
    tokens_intercalate hnames, hback]

/-- A list that was read is read back from its text. -/
theorem parse_render_parse (text : String) : parse (parse text).render = parse text :=
  parse_render fun _ h => isName_of_mem_parse h

end SignPost.Service.SignedList
