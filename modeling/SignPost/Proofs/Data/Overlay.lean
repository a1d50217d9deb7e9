import SignPost.Data.Overlay

/-!
# What stands at a key after an overlay

A document whose keys are names is laid over entries one key after the other
(`overlayAll_eq_overlayEach`), and a table is merged into a table in the same way
(`mergeInto_table`). So one law covers both levels: what stands at a key in lower case is what the
document has there, laid over what was there before, and that is left as it is if the document does
not have the key (`get?_overlayEach`). Other keys of the document do not matter, unless one of them
is another spelling of the key.
-/

namespace SignPost.Data

/-- A value in the place of an earlier one: a table takes over what it does not have itself. -/
def Value.over : Value → Option Value → Value
  | .table incoming, current => mergeInto incoming (current.getD (.table []))
  | value, _ => value

@[simp]
theorem Value.over_text (s : String) (current : Option Value) :
    (Value.text s).over current = .text s := rfl

/-- What stands in a place after a document: its value over the earlier one, if it has one. -/
def over? : Option Value → Option Value → Option Value
  | some value, current => some (value.over current)
  | none, current => current

namespace Entries

variable {key wanted : String} {value : Value} {document entries : Entries}

theorem overlay_eq :
    overlay key value entries =
      entries.set (storedKey key) (value.over (get? entries (storedKey key))) := by
  cases value <;> simp [overlay, Value.over]

theorem get?_overlay :
    get? (overlay key value entries) wanted =
      if wanted = storedKey key then some (value.over (get? entries wanted))
      else get? entries wanted := by
  rw [overlay_eq, get?_set]
  by_cases h : wanted = storedKey key
  · rw [if_pos h, if_pos h, h]
  · rw [if_neg h, if_neg h]

/-- The entries with those of a document, whose keys are taken as they are and not as paths. -/
def overlayEach (document entries : Entries) : Entries :=
  document.foldl (fun entries (key, value) => entries.overlay key value) entries

theorem overlayEach_cons :
    overlayEach ((key, value) :: document) entries =
      overlayEach document (overlay key value entries) := rfl

theorem get?_overlayEach_of_forall_ne (h : ∀ key ∈ keys document, storedKey key ≠ wanted) :
    get? (overlayEach document entries) wanted = get? entries wanted := by
  induction document generalizing entries with
  | nil => rfl
  | cons entry rest ih =>
    obtain ⟨key, value⟩ := entry
    rw [keys_cons, List.forall_mem_cons] at h
    rw [overlayEach_cons, ih h.2, get?_overlay, if_neg h.1.symm]

/-- Laying a document over entries is one look-up at each key: there is one entry for it at most,
and no other key is stored under it. -/
theorem get?_overlayEach (hwanted : storedKey wanted = wanted) (hnodup : (keys document).Nodup)
    (hspelled : ∀ key ∈ keys document, storedKey key = wanted → key = wanted) :
    get? (overlayEach document entries) wanted =
      over? (get? document wanted) (get? entries wanted) := by
  induction document generalizing entries with
  | nil => rfl
  | cons entry rest ih =>
    obtain ⟨key, value⟩ := entry
    rw [keys_cons, List.nodup_cons] at hnodup
    rw [keys_cons, List.forall_mem_cons] at hspelled
    obtain ⟨hfresh, hrest⟩ := hnodup
    obtain ⟨hkey, hspelled⟩ := hspelled
    rw [overlayEach_cons, get?_cons]
    by_cases h : wanted = key
    · subst h
      have hothers : ∀ other ∈ keys rest, storedKey other ≠ wanted := by
        intro other hother hstored
        have heq : other = wanted := hspelled other hother hstored
        exact hfresh (heq ▸ hother)
      rw [if_pos rfl, get?_overlayEach_of_forall_ne hothers, get?_overlay, if_pos hwanted.symm,
        over?]
    · have hne : ¬wanted = storedKey key := fun hstored => h (hkey hstored.symm).symm
      rw [if_neg h, ih hrest hspelled, get?_overlay, if_neg hne]

theorem overlayAll_eq_overlayEach (h : ∀ key ∈ keys document, Path.ofKey key = .key key) :
    document.overlayAll entries = overlayEach document entries := by
  induction document generalizing entries with
  | nil => rfl
  | cons entry rest ih =>
    obtain ⟨key, value⟩ := entry
    rw [keys_cons, List.forall_mem_cons] at h
    rw [overlayEach_cons, ← ih h.2, overlayAll, List.foldl_cons]
    dsimp only
    rw [h.1, setAt, overlayAll]

end Entries

theorem mergeInto_table (incoming current : Entries) :
    mergeInto incoming (.table current) = .table (Entries.overlayEach incoming current) := by
  induction incoming generalizing current with
  | nil => rw [mergeInto]; rfl
  | cons entry rest ih =>
    obtain ⟨key, value⟩ := entry
    rw [mergeInto, Value.entries, ih, Entries.overlayEach_cons]

/-- A table over a table, or over nothing, is a table. -/
theorem Value.over_table (incoming : Entries) {current : Option Value} {entries : Entries}
    (h : current.getD (.table []) = .table entries) :
    (Value.table incoming).over current = .table (Entries.overlayEach incoming entries) := by
  rw [Value.over, h, mergeInto_table]

end SignPost.Data
