/-!
# Forms

A form is a list of named values in the order in which they are sent. Names may repeat; a look-up
finds the first value, so what stands later cannot override it.
-/

namespace SignPost

/-- A form: fields in order, each a name and a value. -/
structure Form where
  fields : List (String × String)
deriving DecidableEq, Repr

namespace Form

def empty : Form := ⟨[]⟩

def value? (form : Form) (name : String) : Option String :=
  form.fields.lookup name

def contains (form : Form) (name : String) : Bool :=
  (form.value? name).isSome

def push (form : Form) (name value : String) : Form :=
  ⟨form.fields ++ [(name, value)]⟩

def pushIf (form : Form) (name : String) : Option String → Form
  | some value => form.push name value
  | none => form

/-- The fields of one form and then those of another. -/
def append (a b : Form) : Form :=
  ⟨a.fields ++ b.fields⟩

def size (form : Form) : Nat :=
  form.fields.length

theorem lookup_append (a b : List (String × String)) (name : String) :
    (a ++ b).lookup name = (a.lookup name).or (b.lookup name) := by
  induction a with
  | nil => rfl
  | cons p a ih =>
    obtain ⟨n, v⟩ := p
    simp only [List.cons_append, List.lookup_cons]
    split <;> simp_all

theorem lookup_of_not_mem {fields : List (String × String)} {name : String}
    (h : name ∉ fields.map Prod.fst) : fields.lookup name = none := by
  refine List.lookup_eq_none_iff.2 fun field hfield => bne_iff_ne.2 ?_
  rintro rfl
  exact h (List.mem_map_of_mem hfield)

/-- A value of the first form hides those of the second. -/
theorem value?_append (a b : Form) (name : String) :
    (a.append b).value? name = (a.value? name).or (b.value? name) :=
  lookup_append a.fields b.fields name

theorem value?_push (form : Form) (name value wanted : String) :
    (form.push name value).value? wanted =
      (form.value? wanted).or (if wanted = name then some value else none) := by
  simp only [push, value?, lookup_append, List.lookup_cons, List.lookup_nil]
  by_cases h : wanted = name
  · simp [h]
  · simp [beq_eq_false_iff_ne.2 h, h]

theorem value?_pushIf (form : Form) (name : String) (value : Option String) (wanted : String) :
    (form.pushIf name value).value? wanted =
      (form.value? wanted).or (if wanted = name then value else none) := by
  cases value with
  | none => rw [pushIf, ite_self, Option.or_none]
  | some value => exact value?_push form name value wanted

end Form

end SignPost
