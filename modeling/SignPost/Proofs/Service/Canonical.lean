import SignPost.Service.SignedList
import SignPost.Proofs.Text.Utf8
import Mathlib.Data.List.Basic

/-!
# What the signed bytes depend on

The texts of the listed fields are joined without separators. Still `canonicalBytes_ne`: where two
holders of values differ in one listed field only, their signed bytes differ. Without equal lengths
at that field the bytes have different lengths, as many times as the field is listed; with equal
lengths, what stands at each place can be compared (`flatMap_cancel`). Fields that are not listed
do not matter (`canonicalBytes_congr`), and neither do names that cannot be signed
(`canonicalBytes_filter`). `signed_bytes_show_tampering` puts these together.
-/

namespace SignPost.Service

/-! ## Joined pieces -/

section pieces

variable {α β : Type} {g h : α → List β} {names : List α} {m : α}

/-- Where two ways to fill the names differ at one name only, the total lengths differ by its
pieces. -/
theorem length_flatMap_exchange [DecidableEq α] (hoff : ∀ n ∈ names, n ≠ m → g n = h n) :
    (names.flatMap g).length + names.count m * (h m).length =
      (names.flatMap h).length + names.count m * (g m).length := by
  induction names with
  | nil => simp
  | cons n names ih =>
    obtain ⟨hn, hrest⟩ := List.forall_mem_cons.1 hoff
    have ih := ih hrest
    simp only [List.flatMap_cons, List.length_append]
    by_cases heq : n = m
    · subst heq
      rw [List.count_cons_self, Nat.add_mul, Nat.add_mul]
      omega
    · rw [List.count_cons_of_ne heq, hn heq]
      omega

/-- Pieces of equal lengths can be told from what they are joined to. -/
theorem eq_of_flatMap_eq (hlength : ∀ n ∈ names, (g n).length = (h n).length)
    (heq : names.flatMap g = names.flatMap h) : ∀ n ∈ names, g n = h n := by
  induction names with
  | nil => simp
  | cons n names ih =>
    obtain ⟨hn, hrest⟩ := List.forall_mem_cons.1 hlength
    rw [List.flatMap_cons, List.flatMap_cons] at heq
    obtain ⟨hfirst, hmore⟩ := List.append_inj heq hn
    exact List.forall_mem_cons.2 ⟨hfirst, ih hrest hmore⟩

/-- Two ways to fill the names that differ at most at one of them are the same if they are joined
to the same. -/
theorem flatMap_cancel [DecidableEq α] (hoff : ∀ n ∈ names, n ≠ m → g n = h n) (hm : m ∈ names)
    (heq : names.flatMap g = names.flatMap h) : g m = h m := by
  have hlength : (g m).length = (h m).length := by
    have hexchange := length_flatMap_exchange hoff
    rw [heq] at hexchange
    exact (Nat.eq_of_mul_eq_mul_left (List.count_pos_iff.2 hm) (Nat.add_left_cancel hexchange)).symm
  refine eq_of_flatMap_eq (fun n hn => ?_) heq m hm
  by_cases hnm : n = m
  · rw [hnm, hlength]
  · rw [hoff n hn hnm]

/-- Two ways to fill the names that are joined to the same are the same, or at the first name at
which they differ one piece is the start of the other. -/
theorem eq_or_prefix_of_flatMap_eq (heq : names.flatMap g = names.flatMap h) :
    (∀ n ∈ names, g n = h n) ∨
      ∃ before n after, names = before ++ n :: after ∧ (∀ k ∈ before, g k = h k) ∧ g n ≠ h n ∧
        (g n <+: h n ∨ h n <+: g n) := by
  induction names with
  | nil => simp
  | cons n names ih =>
    rw [List.flatMap_cons, List.flatMap_cons] at heq
    by_cases hn : g n = h n
    · rw [hn] at heq
      rcases ih (List.append_cancel_left heq) with hsame | ⟨before, k, after, rfl, hbefore, hk⟩
      · exact Or.inl (List.forall_mem_cons.2 ⟨hn, hsame⟩)
      · exact Or.inr ⟨n :: before, k, after, rfl, List.forall_mem_cons.2 ⟨hn, hbefore⟩, hk⟩
    · have hpieces : g n <+: h n ∨ h n <+: g n :=
        List.prefix_or_prefix_of_prefix (heq ▸ List.prefix_append _ _) (List.prefix_append _ _)
      exact Or.inr ⟨[], n, names, rfl, by simp, hn, hpieces⟩

end pieces

/-! ## Sources of values -/

section sources

variable {α β : Type} [FieldSource α] [FieldSource β] {a : α} {b : β} {names : List String}

/-- The text of a field in the signed bytes; one that is missing is empty there. -/
def textOf (source : α) (f : SignableField) : String :=
  (FieldSource.value? source f).getD ""

theorem fieldBytes_name (f : SignableField) :
    fieldBytes a f.name = Utf8.ofString (textOf a f) := by
  rw [fieldBytes, SignableField.ofName?_name, Option.bind_some, textOf]
  cases FieldSource.value? a f with
  | none => rfl
  | some value => rfl

theorem fieldBytes_congr {name : String}
    (h : ∀ f : SignableField, f.name = name → textOf a f = textOf b f) :
    fieldBytes a name = fieldBytes b name := by
  cases hname : SignableField.ofName? name with
  | none => rw [fieldBytes, fieldBytes, hname, Option.bind_none, Option.bind_none]
  | some f =>
    obtain rfl := SignableField.name_of_ofName? hname
    rw [fieldBytes_name, fieldBytes_name, h f rfl]

/-- Only texts of listed fields matter. -/
theorem canonicalBytes_congr
    (h : ∀ f : SignableField, f.name ∈ names → textOf a f = textOf b f) :
    canonicalBytes names a = canonicalBytes names b := by
  unfold canonicalBytes
  apply List.flatMap_congr
  intro name hname
  apply fieldBytes_congr
  rintro f rfl
  exact h f hname

/-- Sources with the same values have the same bytes, whatever is listed. -/
theorem canonicalBytes_of_value? (names : List String)
    (h : ∀ f, FieldSource.value? a f = FieldSource.value? b f) :
    canonicalBytes names a = canonicalBytes names b := by
  apply canonicalBytes_congr
  intro f _
  rw [textOf, h f]
  rfl

/-- Where all listed texts have equal lengths, the signed bytes show each of them. -/
theorem canonicalBytes_eq_iff
    (h : ∀ f : SignableField, f.name ∈ names →
      (Utf8.ofString (textOf a f)).length = (Utf8.ofString (textOf b f)).length) :
    canonicalBytes names a = canonicalBytes names b ↔
      ∀ f : SignableField, f.name ∈ names → textOf a f = textOf b f := by
  refine ⟨fun heq f hf => ?_, canonicalBytes_congr⟩
  have hlength : ∀ name ∈ names, (fieldBytes a name).length = (fieldBytes b name).length := by
    intro name hname
    cases hfield : SignableField.ofName? name with
    | none => rw [fieldBytes, fieldBytes, hfield, Option.bind_none, Option.bind_none]
    | some g =>
      obtain rfl := SignableField.name_of_ofName? hfield
      rw [fieldBytes_name, fieldBytes_name, h g hname]
  have hpiece := eq_of_flatMap_eq hlength heq f.name hf
  rw [fieldBytes_name, fieldBytes_name] at hpiece
  exact Utf8.ofString_injective hpiece

/-- The name is that of a field that can be signed. -/
def isSignable (name : String) : Bool :=
  (SignableField.ofName? name).isSome

theorem fieldBytes_of_not_isSignable {name : String} (h : ¬isSignable name = true) :
    fieldBytes a name = [] := by
  rw [isSignable, Option.not_isSome_iff_eq_none] at h
  rw [fieldBytes, h, Option.bind_none]

/-- Names that cannot be signed contribute nothing. -/
theorem canonicalBytes_filter (names : List String) :
    canonicalBytes (names.filter isSignable) a = canonicalBytes names a := by
  induction names with
  | nil => rfl
  | cons name names ih =>
    unfold canonicalBytes at ih ⊢
    by_cases hname : isSignable name = true
    · rw [List.filter_cons_of_pos hname, List.flatMap_cons, List.flatMap_cons, ih]
    · rw [List.filter_cons_of_neg hname, List.flatMap_cons, fieldBytes_of_not_isSignable hname,
        List.nil_append, ih]

theorem name_injective {f g : SignableField} (h : f.name = g.name) : f = g := by
  have hsome := SignableField.ofName?_name f
  rw [h, SignableField.ofName?_name] at hsome
  exact (Option.some.inj hsome).symm

/-- Sources that differ in one listed field only have different signed bytes, whatever the lengths
of the two texts are and however often fields are listed. -/
theorem canonicalBytes_ne {f : SignableField} (hf : f.name ∈ names)
    (hne : textOf a f ≠ textOf b f)
    (hoff : ∀ g : SignableField, g ≠ f → g.name ∈ names → textOf a g = textOf b g) :
    canonicalBytes names a ≠ canonicalBytes names b := by
  intro heq
  have hrest : ∀ name ∈ names, name ≠ f.name → fieldBytes a name = fieldBytes b name := by
    intro name hmem hname
    apply fieldBytes_congr
    rintro g rfl
    refine hoff g ?_ hmem
    rintro rfl
    exact hname rfl
  have hcancel := flatMap_cancel hrest hf heq
  rw [fieldBytes_name, fieldBytes_name] at hcancel
  exact hne (Utf8.ofString_injective hcancel)

/-- The text of a listed field stands in the signed bytes. -/
theorem ofString_infix_canonicalBytes {f : SignableField} (hf : f.name ∈ names) :
    Utf8.ofString (textOf a f) <:+: canonicalBytes names a := by
  rw [← fieldBytes_name]
  obtain ⟨before, after, rfl⟩ := List.append_of_mem hf
  rw [canonicalBytes, List.flatMap_append, List.flatMap_cons, ← List.append_assoc]
  exact List.infix_append _ _ _

/-- What the signed bytes of two sources tell, a missing value being as an empty one. A change in
one listed field shows, whatever the lengths of its texts are and however often it is listed. Where
the texts of each listed field have one length, every change shows. Names that cannot be signed and
fields that are not listed make no difference. -/
theorem signed_bytes_show_tampering (names : List String) (a : α) (b : β) :
    (∀ f : SignableField, f.name ∈ names → textOf a f ≠ textOf b f →
      (∀ g : SignableField, g ≠ f → g.name ∈ names → textOf a g = textOf b g) →
        canonicalBytes names a ≠ canonicalBytes names b) ∧
    ((∀ f : SignableField, f.name ∈ names →
        (Utf8.ofString (textOf a f)).length = (Utf8.ofString (textOf b f)).length) →
      (canonicalBytes names a = canonicalBytes names b ↔
        ∀ f : SignableField, f.name ∈ names → textOf a f = textOf b f)) ∧
    ∀ names' : List String, names'.filter isSignable = names.filter isSignable →
      (∀ f : SignableField, f.name ∈ names → textOf a f = textOf b f) →
        canonicalBytes names' b = canonicalBytes names a := by
  refine ⟨fun f hf hne hoff => canonicalBytes_ne hf hne hoff, canonicalBytes_eq_iff, ?_⟩
  intro names' hnames htexts
  calc canonicalBytes names' b
      = canonicalBytes (names'.filter isSignable) b := (canonicalBytes_filter names').symm
    _ = canonicalBytes names b := by rw [hnames, canonicalBytes_filter]
    _ = canonicalBytes names a := (canonicalBytes_congr htexts).symm

end sources

section sample

/-- A list with an unknown name, a name that stands twice and one of an absent field. -/
def mixedNames : List String := ["target", "Extra", "language", "target", "ContentType"]

def mixedForm : Form :=
  ⟨[("language", "en"), ("target", "https://a.example"), ("Extra", "x"), ("target", "later")]⟩

/-- A longer language shows, an exchanged letter in the target shows, and neither another unknown
name nor a relay state that is not listed does. -/
theorem mixed_bytes_show_tampering :
    let longer : SignedValues := ⟨some "https://a.example", none, none, none, none, none,
      some "english", some "", none⟩
    let exchanged : SignedValues := ⟨some "https://b.example", none, none, none, none, none,
      some "en", none, none⟩
    let unlisted : SignedValues := ⟨some "https://a.example", none, none, none, none, none,
      some "en", none, some "state"⟩
    canonicalBytes mixedNames mixedForm ≠ canonicalBytes mixedNames longer ∧
      canonicalBytes mixedNames mixedForm ≠ canonicalBytes mixedNames exchanged ∧
      canonicalBytes ["other", "target", "language", "target", "ContentType"] unlisted =
        canonicalBytes mixedNames mixedForm := by
  intro longer exchanged unlisted
  refine ⟨?_, ?_, ?_⟩
  · refine (signed_bytes_show_tampering mixedNames mixedForm longer).1 .language (by decide)
      (by decide) ?_
    intro g hg _
    cases g with
    | language => exact absurd rfl hg
    | _ => rfl
  · have hlengths : ∀ f : SignableField, f.name ∈ mixedNames →
        (Utf8.ofString (textOf mixedForm f)).length =
          (Utf8.ofString (textOf exchanged f)).length := by
      intro f _
      cases f <;> decide +kernel
    intro heq
    have htarget := ((signed_bytes_show_tampering mixedNames mixedForm exchanged).2.1 hlengths).1
      heq .target (by decide)
    exact absurd htarget (by decide)
  · refine (signed_bytes_show_tampering mixedNames mixedForm unlisted).2.2 _ (by decide) ?_
    intro f hf
    cases f with
    | relayState => exact absurd hf (by decide)
    | _ => rfl

end sample

end SignPost.Service
