import SignPost.Request.Basic
import SignPost.Proofs.Request.Fields
import SignPost.Proofs.Request.Keyless
import Mathlib.Logic.Relation

/-!
# What a sequence of edits builds

`last_edit_sets_field`: a field of a request that was built has the text of the last edit that sets
it (`LastSets`). Only where no edit sets the language do settings give one, and then the first that
have one (`FirstOffers`). So neighbouring edits of different fields may change places, and settings
may stand on either side of an edit of the language (`Swap`).

Proof. What one edit does to a field is one law for all edits and all fields (`value?_edit`): what
the edit sets, or else what was there, or else what the edit offers. A sequence then obeys the same
law, with the last text that is set and the first one that is offered (`value?_foldl_edit`).
-/

namespace SignPost.Request

namespace Edit

/-- The field that an edit is about. -/
def field : Edit → SignableField
  | .document _ => .signatureRequest
  | .encodedDocument _ => .signatureRequest
  | .artifact _ => .signatureRequestId
  | .language _ => .language
  | .contentType _ => .contentType
  | .relayState _ => .relayState
  | .settings _ => .language

/-- The text that an edit gives its field, whatever was there before. -/
def text? : Edit → Option String
  | .document content => some (Base64.encode content)
  | .encodedDocument text => some text
  | .artifact id => some id
  | .language text => some text
  | .contentType text => some text
  | .relayState text => some text
  | .settings _ => none

/-- The text that an edit sets a field to, if it does. -/
def set? (e : Edit) (f : SignableField) : Option String :=
  if e.field = f then e.text? else none

/-- The text that an edit has for a field in which nothing is set. -/
def offer? : Edit → SignableField → Option String
  | .settings s, .language => s.language
  | _, _ => none

end Edit

/-- The last edit that sets the field sets it to this text. -/
def LastSets (edits : List Edit) (f : SignableField) (text : String) : Prop :=
  ∃ before e after, edits = before ++ e :: after ∧ e.set? f = some text ∧
    ∀ later ∈ after, later.set? f = none

/-- The first settings with a language have this one. -/
def FirstOffers (edits : List Edit) (text : String) : Prop :=
  ∃ before s after, edits = before ++ .settings s :: after ∧ s.language = some text ∧
    ∀ earlier, .settings earlier ∈ before → earlier.language = none

/-- Two neighbours change places: edits of different fields, or settings and an edit of the
language. -/
inductive Swap : List Edit → List Edit → Prop
  | fields (before after : List Edit) {d e : Edit} (h : d.field ≠ e.field) :
    Swap (before ++ d :: e :: after) (before ++ e :: d :: after)
  | later (before after : List Edit) (s : Settings) (text : String) :
    Swap (before ++ .settings s :: .language text :: after)
      (before ++ .language text :: .settings s :: after)
  | earlier (before after : List Edit) (s : Settings) (text : String) :
    Swap (before ++ .language text :: .settings s :: after)
      (before ++ .settings s :: .language text :: after)

variable {d e : Edit} {edits : List Edit} {f : SignableField} {text : String} {q r : Request}

/-! ## One edit -/

theorem set?_of_ne (h : e.field ≠ f) : e.set? f = none :=
  if_neg h

theorem offer?_of_ne (h : e.field ≠ f) : e.offer? f = none := by
  cases e with
  | settings s =>
    cases f with
    | language => exact absurd rfl h
    | _ => rfl
  | _ => rfl

/-- An edit leaves all fields but its own as they are. -/
theorem value?_edit_of_ne (r : Request) (h : e.field ≠ f) : (edit r e).value? f = r.value? f := by
  cases e <;> cases f <;> first | exact absurd rfl h | rfl

/-- An edit gives a field the text that it sets; else the field stays as it was, and takes what the
edit offers if it has nothing. -/
theorem value?_edit (r : Request) (e : Edit) (f : SignableField) :
    (edit r e).value? f = (e.set? f).or ((r.value? f).or (e.offer? f)) := by
  by_cases hf : e.field = f
  · subst hf
    cases e with
    | settings s => simp [edit, value?, Edit.set?, Edit.offer?, Edit.field, Edit.text?]
    | _ => rfl
  · rw [set?_of_ne hf, offer?_of_ne hf, Option.none_or, Option.or_none, value?_edit_of_ne r hf]

/-- Two requests with the same texts in their fields are the same. -/
theorem ext_value? (h : ∀ f, q.value? f = r.value? f) : q = r := by
  obtain ⟨target, document, artifact, language, contentType, relayState⟩ := q
  obtain rfl : target = r.target := Option.some.inj (h .target)
  obtain rfl : document = r.document := h .signatureRequest
  obtain rfl : artifact = r.artifact := h .signatureRequestId
  obtain rfl : language = r.language := h .language
  obtain rfl : contentType = r.contentType := h .contentType
  obtain rfl : relayState = r.relayState := h .relayState
  rfl

theorem edit_comm (r : Request) (h : d.field ≠ e.field) :
    edit (edit r d) e = edit (edit r e) d := by
  refine ext_value? fun f => ?_
  simp only [value?_edit]
  by_cases hd : d.field = f
  · have he : e.field ≠ f := fun he => h (hd.trans he.symm)
    simp only [set?_of_ne he, offer?_of_ne he, Option.none_or, Option.or_none]
  · simp only [set?_of_ne hd, offer?_of_ne hd, Option.none_or, Option.or_none]

/-- The language that is set wins on either side of settings. -/
theorem edit_settings_comm (r : Request) (s : Settings) (text : String) :
    edit (edit r (.settings s)) (.language text) = edit (edit r (.language text)) (.settings s) :=
  rfl

/-! ## A sequence of edits -/

/-- What a sequence does to a field: the last text that is set, or else the text from before, or
else the first one that is offered. -/
theorem value?_foldl_edit (edits : List Edit) (r : Request) (f : SignableField) :
    (edits.foldl edit r).value? f =
      (edits.reverse.findSome? (·.set? f)).or
        ((r.value? f).or (edits.findSome? (·.offer? f))) := by
  induction edits generalizing r with
  | nil => simp
  | cons e rest ih =>
    have hoffer : (e :: rest).findSome? (·.offer? f) =
        (e.offer? f).or (rest.findSome? (·.offer? f)) := by
      rw [List.findSome?_cons]
      cases e.offer? f <;> rfl
    have hset : (e :: rest).reverse.findSome? (·.set? f) =
        (rest.reverse.findSome? (·.set? f)).or (e.set? f) := by
      rw [List.reverse_cons, List.findSome?_append, List.findSome?_singleton]
    rw [List.foldl_cons, ih, value?_edit, hset, hoffer]
    simp only [Option.or_assoc]

theorem lastSets_iff :
    LastSets edits f text ↔ edits.reverse.findSome? (·.set? f) = some text := by
  rw [List.findSome?_eq_some_iff]
  constructor
  · rintro ⟨before, e, after, rfl, he, hafter⟩
    refine ⟨after.reverse, e, before.reverse, by simp, he, fun later hlater => ?_⟩
    exact hafter later (List.mem_reverse.1 hlater)
  · rintro ⟨after, e, before, hreverse, he, hafter⟩
    refine ⟨before.reverse, e, after.reverse, ?_, he, fun later hlater => ?_⟩
    · rw [← List.reverse_reverse edits, hreverse]
      simp
    · exact hafter later (List.mem_reverse.1 hlater)

theorem firstOffers_iff :
    FirstOffers edits text ↔ edits.findSome? (·.offer? .language) = some text := by
  rw [List.findSome?_eq_some_iff]
  constructor
  · rintro ⟨before, s, after, rfl, hs, hbefore⟩
    refine ⟨before, .settings s, after, rfl, hs, fun e he => ?_⟩
    cases e with
    | settings earlier => exact hbefore earlier he
    | _ => rfl
  · rintro ⟨before, e, after, rfl, he, hbefore⟩
    cases e with
    | settings s => exact ⟨before, s, after, rfl, he, fun earlier => hbefore (.settings earlier)⟩
    | _ => cases he

/-- Only the language is ever offered. -/
theorem findSome?_offer?_of_ne (h : f ≠ .language) : edits.findSome? (·.offer? f) = none := by
  refine List.findSome?_eq_none_iff.2 fun e _ => ?_
  cases e with
  | settings s => exact offer?_of_ne (Ne.symm h)
  | _ => rfl

/-- A request starts with nothing but its target. -/
theorem value?_build (target : String) (h : f ≠ .target) :
    (build target edits).value? f =
      (edits.reverse.findSome? (·.set? f)).or (edits.findSome? (·.offer? f)) := by
  have hstart : value? ⟨target, none, none, none, none, none⟩ f = none := by
    cases f with
    | target => exact absurd rfl h
    | _ => rfl
  rw [build, value?_foldl_edit, hstart, Option.none_or]

theorem target_edit (r : Request) (e : Edit) : (edit r e).target = r.target := by
  cases e <;> rfl

theorem target_foldl_edit (edits : List Edit) (r : Request) :
    (edits.foldl edit r).target = r.target := by
  induction edits generalizing r with
  | nil => rfl
  | cons e rest ih => rw [List.foldl_cons, ih, target_edit]

theorem Swap.build_eq {xs ys : List Edit} (target : String) (h : Swap xs ys) :
    build target ys = build target xs := by
  cases h with
  | fields before after h =>
    simp only [build, List.foldl_append, List.foldl_cons]
    rw [edit_comm _ h]
  | later before after s text =>
    simp only [build, List.foldl_append, List.foldl_cons]
    rw [edit_settings_comm]
  | earlier before after s text =>
    simp only [build, List.foldl_append, List.foldl_cons]
    rw [edit_settings_comm]

theorem build_eq_of_swaps {xs ys : List Edit} (target : String)
    (h : Relation.ReflTransGen Swap xs ys) : build target ys = build target xs := by
  induction h with
  | refl => rfl
  | tail _ hswap ih => exact (hswap.build_eq target).trans ih

/-- A field of a request that was built has the text of the last edit that sets it, and none without
such an edit; where no edit sets the language it is that of the first settings that have one. Edits
may change places with neighbours of other fields, and settings with an edit of the language: the
request, the form that is sent, and the names that a signature covers stay the same. -/
theorem last_edit_sets_field (target : String) (edits : List Edit) :
    (build target edits).target = target ∧
      (∀ f, f ≠ .target → f ≠ .language →
        (∀ text, (build target edits).value? f = some text ↔ LastSets edits f text) ∧
        ((∀ e ∈ edits, e.set? f = none) → (build target edits).value? f = none)) ∧
      (∀ text, (build target edits).language = some text ↔
        LastSets edits .language text ∨
          (∀ e ∈ edits, e.set? .language = none) ∧ FirstOffers edits text) ∧
      ∀ edits', Relation.ReflTransGen Swap edits edits' →
        build target edits' = build target edits ∧
        ∀ check,
          (∀ signature, (build target edits').toForm check signature =
            (build target edits).toForm check signature) ∧
          ∀ signer : RequestSigner,
            signer.toForm check (build target edits') = signer.toForm check (build target edits) ∧
            signer.sign check (build target edits') = signer.sign check (build target edits) ∧
            ∀ signature, signer.sign check (build target edits) = .ok signature →
              signature.signed.names = (build target edits').signedNames := by
  have hunset : ∀ f, (∀ e ∈ edits, e.set? f = none) ↔
      edits.reverse.findSome? (·.set? f) = none := by
    intro f
    simp [List.findSome?_eq_none_iff]
  refine ⟨target_foldl_edit edits _, fun f htarget hlanguage => ?_, fun text => ?_,
    fun edits' hswaps => ?_⟩
  · rw [value?_build target htarget, findSome?_offer?_of_ne hlanguage, Option.or_none]
    exact ⟨fun text => lastSets_iff.symm, (hunset f).1⟩
  · change (build target edits).value? .language = some text ↔ _
    rw [value?_build target (by decide), lastSets_iff, firstOffers_iff, hunset,
      Option.or_eq_some_iff]
  · have hbuild := build_eq_of_swaps target hswaps
    rw [hbuild]
    refine ⟨rfl, fun check => ⟨fun _ => rfl, fun signer => ⟨rfl, rfl, fun signature hsign => ?_⟩⟩⟩
    obtain ⟨-, _, -, hmade⟩ := RequestSigner.sign_eq_ok.1 hsign
    exact hmade.signed

/-- A document is set twice, and a language between settings. -/
def sampleEdits : List Edit :=
  [.settings { language := some "nl" }, .document [60, 97, 47, 62], .language "en",
    .encodedDocument "PGIvPg==", .settings { language := some "fr" }]

/-- The last document counts; the language counts wherever settings stand; of settings alone the
first with a language count; and the settings may go behind the document and the language. -/
theorem sample_edits :
    (build "https://sp.example/" sampleEdits).value? .signatureRequest = some "PGIvPg==" ∧
      (build "https://sp.example/" sampleEdits).language = some "en" ∧
      (build "https://sp.example/" sampleEdits).value? .relayState = none ∧
      (build "https://sp.example/" [.settings {}, .settings { language := some "nl" },
        .settings { language := some "fr" }]).language = some "nl" ∧
      build "https://sp.example/" [.document [60, 97, 47, 62], .language "en",
        .settings { language := some "nl" }, .encodedDocument "PGIvPg==",
        .settings { language := some "fr" }] = build "https://sp.example/" sampleEdits := by
  obtain ⟨-, hfields, hlanguage, hswaps⟩ := last_edit_sets_field "https://sp.example/" sampleEdits
  obtain ⟨-, -, hsettings, -⟩ := last_edit_sets_field "https://sp.example/"
    [.settings {}, .settings { language := some "nl" }, .settings { language := some "fr" }]
  refine ⟨?_, ?_, ?_, ?_, ?_⟩
  · refine ((hfields .signatureRequest (by decide) (by decide)).1 _).2
      ⟨sampleEdits.take 3, .encodedDocument "PGIvPg==", sampleEdits.drop 4, rfl, rfl, ?_⟩
    decide
  · exact (hlanguage _).2 (Or.inl
      ⟨sampleEdits.take 2, .language "en", sampleEdits.drop 3, rfl, rfl, by decide⟩)
  · exact (hfields .relayState (by decide) (by decide)).2 (by decide)
  · refine (hsettings _).2 (Or.inr ⟨by decide, [.settings {}], { language := some "nl" },
      [.settings { language := some "fr" }], rfl, rfl, fun earlier hearlier => ?_⟩)
    obtain rfl := Edit.settings.inj (List.mem_singleton.1 hearlier)
    rfl
  · have hdocument : Swap sampleEdits (.document [60, 97, 47, 62] ::
        .settings { language := some "nl" } :: sampleEdits.drop 2) :=
      Swap.fields [] (sampleEdits.drop 2) (by decide)
    have hlater : Swap (.document [60, 97, 47, 62] ::
        .settings { language := some "nl" } :: sampleEdits.drop 2)
        [.document [60, 97, 47, 62], .language "en", .settings { language := some "nl" },
          .encodedDocument "PGIvPg==", .settings { language := some "fr" }] :=
      Swap.later [.document [60, 97, 47, 62]] (sampleEdits.drop 3) { language := some "nl" } "en"
    exact (hswaps _ ((Relation.ReflTransGen.single hdocument).tail hlater)).1

end SignPost.Request
