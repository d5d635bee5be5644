import Mathlib.Data.List.Induction
import Mathlib.Data.List.Sort
import ResilientHttp.Proofs.Http.Form

/-!
How a form comes about. An edit puts a value behind those of a key, or in the place of all of them, and a
form is made of an empty one by edits, one after the other. What a key has in the end is a matter of the
edits of this key alone, so edits of different keys may change places.

* `getAll_apply` — the step: an edit revises the values of its key and leaves those of all others.
* `getAll_edited_of_unset`, `getAll_edited_of_set` — the run: nothing that stands before the last value
  that was set is left, and everything that was appended after it is.
* `eq_of_getAll` — a form is told by the values of its keys.
* `edited_keywise` — all of it, and that the same edits of each key make the same form.
-/

namespace ResilientHttp.Form

/-- A change of a form: a value is put behind those of a key, or in the place of all of them. -/
inductive Edit where
  | append (key value : String)
  | set (key value : String)
  deriving DecidableEq, Repr

/-- The key that an edit is about. -/
def Edit.key : Edit → String
  | .append key _ => key
  | .set key _ => key

/-- What an edit makes of the values of its key. -/
def Edit.revise : Edit → List String → List String
  | .append _ value, values => values ++ [value]
  | .set _ value, _ => [value]

/-- The form after an edit. -/
def apply (form : Form) : Edit → Form
  | .append key value => form.append key value
  | .set key value => form.set key value

/-- The form that edits make of an empty one. -/
def edited (edits : List Edit) : Form := edits.foldl apply empty

/-- What edits append to a key, in order. -/
def appended (key : String) (edits : List Edit) : List String :=
  edits.filterMap fun
    | .append other value => if other = key then some value else none
    | .set _ _ => none

/-! ### The values of a key -/

section Values

variable {form : Form} {key other value : String} {values : List String}
  {fields : List (String × List String)} {edit : Edit} {edits : List Edit}

theorem find?_of_above (above : ∀ field ∈ fields, key < field.1) :
    fields.find? (·.1 = key) = none := by
  apply List.find?_eq_none.mpr
  intro field mem same
  have below := above field mem
  simp only [decide_eq_true_eq] at same
  rw [same] at below
  exact String.lt_irrefl _ below

/-- A field is found by its key. -/
theorem getAll_of_mem (mem : (key, values) ∈ form.fields) : form.getAll key = values := by
  obtain ⟨fields, sorted, filled⟩ := form
  unfold getAll
  dsimp only at mem ⊢
  clear filled
  induction fields with
  | nil => cases mem
  | cons field later ih =>
      obtain ⟨above, sorted⟩ := List.pairwise_cons.mp sorted
      rcases List.mem_cons.mp mem with rfl | mem
      · simp
      · have ne : field.1 ≠ key := by
          intro same
          have below := above _ mem
          rw [same] at below
          exact String.lt_irrefl _ below
        simpa [ne] using ih sorted mem

theorem mem_fields_of_getAll (h : form.getAll key = values) (some : values ≠ []) :
    (key, values) ∈ form.fields := by
  unfold getAll at h
  cases found : form.fields.find? (·.1 = key) with
  | none =>
      rw [found] at h
      exact absurd h.symm some
  | some field =>
      obtain ⟨other, old⟩ := field
      rw [found] at h
      have same : other = key := by simpa using List.find?_some found
      have old_eq : old = values := h
      rw [← same, ← old_eq]
      exact List.mem_of_find?_eq_some found

/-- The fields of a form are its keys that have values, each with these. -/
theorem mem_fields_iff : (key, values) ∈ form.fields ↔ form.getAll key = values ∧ values ≠ [] := by
  constructor
  · intro mem
    exact ⟨getAll_of_mem mem, form.filled _ mem⟩
  · rintro ⟨h, some⟩
    exact mem_fields_of_getAll h some

/-- A form is told by the values of its keys. -/
theorem eq_of_getAll {form other : Form} (h : ∀ key, form.getAll key = other.getAll key) :
    form = other := by
  have irreflexive : Std.Irrefl fun field field' : String × List String => field.1 < field'.1 :=
    ⟨fun field => String.lt_irrefl field.1⟩
  have antisymmetric : Std.Antisymm fun field field' : String × List String => field.1 < field'.1 :=
    ⟨fun _ _ below above => absurd above (String.lt_asymm below)⟩
  apply eq_of_fields
  apply form.sorted.eq_of_mem_iff other.sorted
  rintro ⟨key, values⟩
  rw [mem_fields_iff, mem_fields_iff, h key]

/-! ### One edit -/

/-- A change of the values of a key is one of these values only. -/
theorem find?_alter (key other : String) (change : List String → List String)
    (sorted : fields.Pairwise (·.1 < ·.1)) :
    (alter key change fields).find? (·.1 = other) =
      if other = key then
        some (key, change (((fields.find? (·.1 = key)).map Prod.snd).getD []))
      else fields.find? (·.1 = other) := by
  induction fields with
  | nil =>
      by_cases same : other = key
      · simp [alter, same]
      · simp [alter, same, Ne.symm same]
  | cons field later ih =>
      obtain ⟨first, values⟩ := field
      obtain ⟨above, sorted⟩ := List.pairwise_cons.mp sorted
      unfold alter
      by_cases here : key = first
      · subst here
        by_cases same : other = key
        · simp [same]
        · simp [same, Ne.symm same]
      · by_cases before : key < first
        · -- The key was missing, since all keys from here on are greater.
          have missing : ((first, values) :: later).find? (·.1 = key) = none := by
            apply find?_of_above
            intro field mem
            rcases List.mem_cons.mp mem with rfl | mem
            · exact before
            · exact String.lt_trans before (above field mem)
          rw [if_neg here, if_pos before, List.find?_cons, missing]
          by_cases same : other = key
          · simp [same]
          · simp [same, Ne.symm same]
        · rw [if_neg here, if_neg before, List.find?_cons, List.find?_cons, List.find?_cons, ih sorted]
          by_cases same : other = key
          · simp [same, Ne.symm here]
          · simp [same]

theorem getAll_change (form : Form) (key other : String) (new : List String → List String)
    (filled : ∀ values, new values ≠ []) :
    (form.change key new filled).getAll other =
      if other = key then new (form.getAll key) else form.getAll other := by
  unfold getAll change
  rw [find?_alter key other new form.sorted]
  by_cases same : other = key
  · subst same
    rw [if_pos rfl, if_pos rfl]
    cases form.fields.find? (·.1 = other) <;> rfl
  · rw [if_neg same, if_neg same]

/-- An edit revises the values of its key and leaves those of all others. -/
theorem getAll_apply (form : Form) (edit : Edit) (key : String) :
    (form.apply edit).getAll key =
      if key = edit.key then edit.revise (form.getAll key) else form.getAll key := by
  have revised : (form.apply edit).getAll key =
      if key = edit.key then edit.revise (form.getAll edit.key) else form.getAll key := by
    cases edit with
    | append other value => exact getAll_change form other key _ (by simp)
    | set other value => exact getAll_change form other key _ (by simp)
  rw [revised]
  by_cases same : key = edit.key
  · rw [if_pos same, if_pos same, same]
  · rw [if_neg same, if_neg same]

theorem fields_apply_ne_nil (form : Form) (edit : Edit) : (form.apply edit).fields ≠ [] := by
  have filled : ∀ key change, alter key change form.fields ≠ [] := by
    intro key change
    cases form.fields with
    | nil => simp [alter]
    | cons field later =>
        unfold alter
        split
        · simp
        · split <;> simp
  cases edit with
  | append key value => exact filled key _
  | set key value => exact filled key _

/-! ### All edits -/

theorem edited_concat (edits : List Edit) (edit : Edit) :
    edited (edits ++ [edit]) = (edited edits).apply edit := by
  simp [edited]

/-- The values of a key are a matter of the edits of this key alone. -/
theorem getAll_edited (edits : List Edit) (key : String) :
    (edited edits).getAll key =
      (edits.filter (·.key = key)).foldl (fun values edit => edit.revise values) [] := by
  induction edits using List.reverseRecOn with
  | nil => rfl
  | append_singleton edits edit ih =>
      rw [edited_concat, getAll_apply, ih, List.filter_append, List.foldl_append]
      by_cases same : key = edit.key
      · simp [same]
      · simp [same, Ne.symm same]

/-- Edits of a key that do not set it put what they append behind its values. -/
theorem foldl_revise_of_unset (h : ∀ value, .set key value ∉ edits) (values : List String) :
    (edits.filter (·.key = key)).foldl (fun values edit => edit.revise values) values =
      values ++ appended key edits := by
  induction edits generalizing values with
  | nil => simp [appended]
  | cons edit later ih =>
      have unset : ∀ value, .set key value ∉ later := fun value mem =>
        h value (List.mem_cons_of_mem _ mem)
      by_cases same : edit.key = key
      · cases edit with
        | append other value =>
            have same : other = key := same
            rw [List.filter_cons_of_pos (by simp [Edit.key, same]), List.foldl_cons, ih unset]
            simp [Edit.revise, appended, same]
        | set other value =>
            have same : other = key := same
            rw [same] at h
            exact absurd List.mem_cons_self (h value)
      · rw [List.filter_cons_of_neg (by simpa using same), ih unset]
        cases edit with
        | append other value =>
            have ne : other ≠ key := same
            simp [appended, ne]
        | set other value => simp [appended]

/-- A key that was never set has all that was appended to it. -/
theorem getAll_edited_of_unset (h : ∀ value, .set key value ∉ edits) :
    (edited edits).getAll key = appended key edits := by
  rw [getAll_edited, foldl_revise_of_unset h, List.nil_append]

/-- A key has the last value that it was set to, and behind it what was appended later. -/
theorem getAll_edited_of_set {before after : List Edit} (h : ∀ later, .set key later ∉ after) :
    (edited (before ++ .set key value :: after)).getAll key = value :: appended key after := by
  rw [getAll_edited, List.filter_append, List.foldl_append,
    List.filter_cons_of_pos (by simp [Edit.key]), List.foldl_cons, foldl_revise_of_unset h]
  rfl

theorem isEmpty_edited_iff : (edited edits).isEmpty = true ↔ edits = [] := by
  cases edits using List.reverseRecOn with
  | nil => simp [edited, isEmpty, empty]
  | append_singleton edits edit =>
      rw [edited_concat, isEmpty, List.isEmpty_iff]
      simp [fields_apply_ne_nil]

/-- The keys of a form are those that were edited. -/
theorem mem_keys_edited_iff :
    key ∈ (edited edits).fields.map Prod.fst ↔ ∃ edit ∈ edits, edit.key = key := by
  have stored : ∀ form : Form, key ∈ form.fields.map Prod.fst ↔ form.getAll key ≠ [] := by
    intro form
    constructor
    · intro mem
      obtain ⟨field, inForm, rfl⟩ := List.mem_map.mp mem
      obtain ⟨values, some⟩ := mem_fields_iff.mp inForm
      rw [values]
      exact some
    · intro some
      exact List.mem_map.mpr ⟨_, mem_fields_of_getAll rfl some, rfl⟩
  rw [stored]
  induction edits using List.reverseRecOn with
  | nil => simp [edited, getAll, empty]
  | append_singleton edits edit ih =>
      rw [edited_concat, getAll_apply]
      by_cases same : key = edit.key
      · have revised : edit.revise ((edited edits).getAll edit.key) ≠ [] := by
          cases edit <;> simp [Edit.revise]
        simp [same, revised]
      · simp [same, Ne.symm same, ih]

/-- Edits that are the same for each key make the same form. -/
theorem edited_eq_of_filter {other : List Edit}
    (h : ∀ key, edits.filter (·.key = key) = other.filter (·.key = key)) :
    edited edits = edited other := by
  apply eq_of_getAll
  intro key
  rw [getAll_edited, getAll_edited, h key]

end Values

/-- What edits make of an empty form, whatever they are. A key that was never set has all that was appended
to it, in order; one that was set has the last value that it was set to, and behind it what was appended
later. The first value of a key is the first of these. The form is empty just if there were no edits; its
keys are those that were edited, each with its values, and none is without one. Edits that are the same
for each key make the same form with the same text, however those of different keys are interleaved. -/
theorem edited_keywise (edits : List Edit) :
    (∀ key, (∀ value, .set key value ∉ edits) →
      (edited edits).getAll key = appended key edits ∧
        (edited edits).get? key = (appended key edits).head?) ∧
    (∀ key value before after, edits = before ++ .set key value :: after →
      (∀ later, .set key later ∉ after) →
      (edited edits).getAll key = value :: appended key after ∧
        (edited edits).get? key = some value) ∧
    ((edited edits).isEmpty = true ↔ edits = []) ∧
    (∀ key, key ∈ (edited edits).fields.map Prod.fst ↔ ∃ edit ∈ edits, edit.key = key) ∧
    (∀ key values, (key, values) ∈ (edited edits).fields →
      values = (edited edits).getAll key ∧ values ≠ []) ∧
    ∀ other : List Edit, (∀ key, edits.filter (·.key = key) = other.filter (·.key = key)) →
      edited edits = edited other ∧ (edited edits).encode = (edited other).encode := by
  refine ⟨?_, ?_, isEmpty_edited_iff, fun key => mem_keys_edited_iff, ?_, ?_⟩
  · intro key unset
    have values := getAll_edited_of_unset unset
    exact ⟨values, by rw [get?, values]⟩
  · rintro key value before after rfl unset
    have values : (edited (before ++ .set key value :: after)).getAll key =
        value :: appended key after :=
      getAll_edited_of_set unset
    exact ⟨values, by rw [get?, values]; rfl⟩
  · intro key values mem
    obtain ⟨same, some⟩ := mem_fields_iff.mp mem
    exact ⟨same.symm, some⟩
  · intro other h
    have same := edited_eq_of_filter h
    exact ⟨same, by rw [same]⟩

/-- Two keys are edited in turns, and one after the other. -/
theorem edited_keywise_interleaved :
    let edits : List Edit := [.append "tag" "x", .set "q" "1", .set "tag" "y", .append "q" "2",
      .append "tag" "z"]
    let sorted : List Edit := [.set "q" "1", .append "q" "2", .append "tag" "x", .set "tag" "y",
      .append "tag" "z"]
    (edited edits).getAll "tag" = ["y", "z"] ∧ (edited edits).get? "tag" = some "y" ∧
      (edited edits).getAll "page" = [] ∧ edited edits = edited sorted ∧
      (edited edits).encode = (edited sorted).encode := by
  intro edits sorted
  obtain ⟨unset, set, -, -, -, same⟩ := edited_keywise edits
  have tag := set "tag" "y" [.append "tag" "x", .set "q" "1"] [.append "q" "2", .append "tag" "z"] rfl
    (by simp)
  have eachKey : ∀ key, edits.filter (·.key = key) = sorted.filter (·.key = key) := by
    intro key
    by_cases isTag : "tag" = key
    · subst isTag
      rfl
    · by_cases isQ : "q" = key
      · subst isQ
        rfl
      · simp [edits, sorted, Edit.key, isTag, isQ]
  exact ⟨tag.1, tag.2, (unset "page" (by simp [edits])).1, same sorted eachKey⟩

end ResilientHttp.Form
