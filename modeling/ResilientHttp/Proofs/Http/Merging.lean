import Mathlib.Data.List.Nodup
import Mathlib.Data.List.Perm.Basic
import ResilientHttp.Http.Header

/-!
Header fields that are merged into others. A map is told by its names in their order and by the values of
each; a merge puts its new names behind the old ones and replaces the values of those that it has.

* `names_extend`, `getAll_extend` — one merge.
* `extend_assoc`, `extend_self`, `extend_perm_of_disjoint` — how merges are grouped does not matter, nor
  does a second one of the same fields, nor the order of two that have no name in common.
* `getAll_mergeAll_of_last`, `mem_names_mergeAll` — any number of merges, one after the other: a name has the
  values of the last one that mentions it.
-/

namespace ResilientHttp

/-! ### Names in any case -/

theorem isTokenChar_toLower (char : Char) : isTokenChar char.toLower = isTokenChar char := by
  by_cases upper : 65 ≤ char.toNat ∧ char.toNat ≤ 90
  · have letters : ∀ n < 26,
        isTokenChar (Char.ofNat (65 + n)).toLower = isTokenChar (Char.ofNat (65 + n)) := by decide
    have letter := letters (char.toNat - 65) (by omega)
    rwa [Nat.add_sub_cancel' upper.1, Char.ofNat_toNat] at letter
  · have same : char.toLower = char := dif_neg (by simpa [UInt32.le_iff_toNat_le] using upper)
    rw [same]

/-- Texts that differ in the case of letters only are the same name, or none of them is one. -/
theorem HeaderName.ofString?_congr {text other : String}
    (h : text.toList.map Char.toLower = other.toList.map Char.toLower) :
    HeaderName.ofString? text = HeaderName.ofString? other := by
  have tokens : ∀ chars : List Char,
      chars.all isTokenChar = (chars.map Char.toLower).all isTokenChar := by
    intro chars
    simp only [List.all_map, Function.comp_def, isTokenChar_toLower]
  have lengths : text.toList.length = other.toList.length := by
    simpa using congrArg List.length h
  have nonempty : text.toList ≠ [] ↔ other.toList ≠ [] := by
    rw [← List.length_pos_iff, ← List.length_pos_iff, lengths]
  simp only [ofString?, tokens text.toList, tokens other.toList, h, lengths, nonempty]

namespace HeaderMap

variable {map other fields : HeaderMap} {name : HeaderName} {values : List HeaderValue}
  {entries : List (HeaderName × List HeaderValue)} {given before behind : List HeaderMap}

/-! ### Names and values -/

/-- The names that have values, in order. -/
def names (map : HeaderMap) : List HeaderName := map.entries.map Prod.fst

theorem nodup_names (map : HeaderMap) : map.names.Nodup := map.distinct

theorem getAll_of_mem (mem : (name, values) ∈ map.entries) : map.getAll name = values := by
  obtain ⟨entries, distinct⟩ := map
  rw [getAll]
  dsimp only at mem ⊢
  induction entries with
  | nil => cases mem
  | cons entry later ih =>
      rw [List.map_cons, List.nodup_cons] at distinct
      rcases List.mem_cons.mp mem with rfl | mem
      · simp
      · have ne : entry.1 ≠ name := by
          rintro rfl
          exact distinct.1 (List.mem_map.mpr ⟨_, mem, rfl⟩)
        rw [List.find?_cons_of_neg (by simpa using ne)]
        exact ih distinct.2 mem

/-- A map consists of its names, each with its values. -/
theorem entries_eq (map : HeaderMap) :
    map.entries = map.names.map fun name => (name, map.getAll name) := by
  have pairs : ∀ entry ∈ map.entries, (entry.1, map.getAll entry.1) = entry := by
    rintro ⟨name, values⟩ mem
    rw [getAll_of_mem mem]
  rw [names, List.map_map]
  exact ((List.map_congr_left pairs).trans (List.map_id' _)).symm

/-- A map is told by its names in their order and the values of each. -/
theorem eq_of_getAll (names : map.names = other.names)
    (h : ∀ name, map.getAll name = other.getAll name) : map = other := by
  have entries : map.entries = other.entries := by
    rw [map.entries_eq, other.entries_eq, names]
    exact List.map_congr_left fun name _ => by rw [h name]
  obtain ⟨_, _⟩ := map
  obtain ⟨_, _⟩ := other
  subst entries
  rfl

/-- Maps with the same names in any order and the same values of each have the same entries. -/
theorem perm_of_getAll (names : ∀ name, name ∈ map.names ↔ name ∈ other.names)
    (h : ∀ name, map.getAll name = other.getAll name) : map.entries.Perm other.entries := by
  have perm := (List.perm_ext_iff_of_nodup map.nodup_names other.nodup_names).mpr names
  rw [map.entries_eq, other.entries_eq, List.map_congr_left fun name _ => by rw [h name]]
  exact perm.map _

/-! ### One merge -/

theorem names_put (map : HeaderMap) (name : HeaderName) (values : List HeaderValue) :
    (map.put name values).names = if name ∈ map.names then map.names else map.names ++ [name] :=
  names_setEntry name values map.entries

theorem names_foldl_put (distinct : (entries.map Prod.fst).Nodup) :
    (entries.foldl (fun merged entry => merged.put entry.1 entry.2) map).names =
      map.names ++ (entries.map Prod.fst).filter (· ∉ map.names) := by
  induction entries generalizing map with
  | nil => simp
  | cons entry later ih =>
      obtain ⟨fresh, distinct⟩ := List.nodup_cons.mp (List.map_cons ▸ distinct)
      rw [List.foldl_cons, ih distinct, names_put]
      by_cases known : entry.1 ∈ map.names
      · simp [known]
      · -- The name has become one of the map's, and it does not come again.
        have rest : (later.map Prod.fst).filter (· ∉ map.names ++ [entry.1]) =
            (later.map Prod.fst).filter (· ∉ map.names) := by
          refine List.filter_congr fun name mem => ?_
          have ne : name ≠ entry.1 := fun same => fresh (same ▸ mem)
          simp [ne]
        rw [if_neg known, rest, List.map_cons, List.filter_cons_of_pos (by simpa using known),
          List.append_assoc]
        rfl

theorem getAll_foldl_put (distinct : (entries.map Prod.fst).Nodup) (name : HeaderName) :
    (entries.foldl (fun merged entry => merged.put entry.1 entry.2) map).getAll name =
      if name ∈ entries.map Prod.fst then
        ((entries.find? (·.1 = name)).map Prod.snd).getD []
      else map.getAll name := by
  induction entries generalizing map with
  | nil => simp
  | cons entry later ih =>
      obtain ⟨fresh, distinct⟩ := List.nodup_cons.mp (List.map_cons ▸ distinct)
      rw [List.foldl_cons, ih distinct, getAll_put]
      by_cases same : name = entry.1
      · subst same
        rw [if_neg fresh, if_pos rfl, if_pos (by simp)]
        simp
      · rw [if_neg same, List.map_cons, List.find?_cons_of_neg (by simpa using Ne.symm same)]
        simp only [List.mem_cons, same, false_or]

/-- A merge puts the names that are new behind the others. -/
theorem names_extend (map other : HeaderMap) :
    (map.extend other).names = map.names ++ other.names.filter (· ∉ map.names) :=
  names_foldl_put other.distinct

/-- A merge replaces the values of the names that it mentions. -/
theorem getAll_extend (map other : HeaderMap) (name : HeaderName) :
    (map.extend other).getAll name =
      if name ∈ other.names then other.getAll name else map.getAll name := by
  have values : ((other.entries.find? (·.1 = name)).map Prod.snd).getD [] = other.getAll name := by
    rw [getAll]
    cases other.entries.find? (·.1 = name) <;> rfl
  rw [extend, getAll_foldl_put other.distinct, values]
  rfl

theorem mem_names_extend :
    name ∈ (map.extend other).names ↔ name ∈ map.names ∨ name ∈ other.names := by
  rw [names_extend]
  by_cases known : name ∈ map.names <;> simp [known]

/-! ### The algebra of merges -/

theorem extend_assoc (map other fields : HeaderMap) :
    (map.extend other).extend fields = map.extend (other.extend fields) := by
  apply eq_of_getAll
  · simp only [names_extend, List.filter_append, List.filter_filter, List.append_assoc]
    congr 2
    refine List.filter_congr fun name _ => ?_
    by_cases first : name ∈ map.names <;> by_cases second : name ∈ other.names <;> simp [first, second]
  · intro name
    simp only [getAll_extend, mem_names_extend]
    by_cases second : name ∈ other.names <;> by_cases third : name ∈ fields.names <;>
      simp [second, third]

theorem extend_self (map : HeaderMap) : map.extend map = map := by
  apply eq_of_getAll
  · simp [names_extend]
  · intro name
    rw [getAll_extend, ite_self]

/-- Fields that were merged before change nothing when they are merged again at once. -/
theorem extend_extend_self (map other : HeaderMap) :
    (map.extend other).extend other = map.extend other := by
  rw [extend_assoc, extend_self]

/-- Merges that have no name in common may change places: only the order of new names tells them apart. -/
theorem extend_perm_of_disjoint (apart : ∀ name ∈ other.names, name ∉ fields.names) :
    ((map.extend other).extend fields).entries.Perm ((map.extend fields).extend other).entries := by
  apply perm_of_getAll
  · intro name
    simp only [mem_names_extend, or_assoc, or_comm (a := name ∈ other.names)]
  · intro name
    simp only [getAll_extend]
    by_cases mem : name ∈ other.names
    · rw [if_neg (apart name mem)]
      simp [mem]
    · simp [mem]

/-! ### Merges one after the other -/

/-- What merges make of a map, one after the other. -/
def mergeAll (start : HeaderMap) (given : List HeaderMap) : HeaderMap := given.foldl extend start

theorem mergeAll_append (start : HeaderMap) (given more : List HeaderMap) :
    start.mergeAll (given ++ more) = (start.mergeAll given).mergeAll more := List.foldl_append

theorem mem_names_mergeAll {start : HeaderMap} :
    name ∈ (start.mergeAll given).names ↔ name ∈ start.names ∨ ∃ fields ∈ given, name ∈ fields.names := by
  induction given generalizing start with
  | nil => simp [mergeAll]
  | cons fields later ih =>
      have first : start.mergeAll (fields :: later) = (start.extend fields).mergeAll later := rfl
      rw [first, ih, mem_names_extend, or_assoc]
      simp only [List.mem_cons, exists_eq_or_imp]

/-- A name that no merge mentions keeps its values. -/
theorem getAll_mergeAll_of_none {start : HeaderMap} (none : ∀ fields ∈ given, name ∉ fields.names) :
    (start.mergeAll given).getAll name = start.getAll name := by
  induction given generalizing start with
  | nil => rfl
  | cons fields later ih =>
      obtain ⟨first, none⟩ := List.forall_mem_cons.mp none
      have step : start.mergeAll (fields :: later) = (start.extend fields).mergeAll later := rfl
      rw [step, ih none, getAll_extend, if_neg first]

/-- A name has the values of the last merge that mentions it. -/
theorem getAll_mergeAll_of_last {start : HeaderMap} (mem : name ∈ fields.names)
    (last : ∀ later ∈ behind, name ∉ later.names) :
    (start.mergeAll (before ++ fields :: behind)).getAll name = fields.getAll name := by
  have step : (start.mergeAll before).mergeAll (fields :: behind) =
      ((start.mergeAll before).extend fields).mergeAll behind := rfl
  rw [mergeAll_append, step, getAll_mergeAll_of_none last, getAll_extend, if_pos mem]

end HeaderMap
end ResilientHttp
