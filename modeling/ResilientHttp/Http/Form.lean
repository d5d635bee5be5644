import ResilientHttp.Url.Percent

/-!
Forms. A `Form` lists its keys in ascending order, each with its values in the order in which they
came. `Form.encode` writes the pairs of keys and values so that they can be read back: blanks as
`+`, letters, digits and four marks as themselves, every other octet with a percent sign.
-/

namespace ResilientHttp

/-- Keys in ascending order, each with its values, of which there is at least one. -/
structure Form where
  fields : List (String × List String)
  sorted : fields.Pairwise (·.1 < ·.1)
  filled : ∀ field ∈ fields, field.2 ≠ []
  deriving DecidableEq, Repr

namespace Form

/-- No fields. -/
def empty : Form := ⟨[], .nil, by simp⟩

/-- Fields with the values of one key changed; a key that was missing had none. -/
def alter (key : String) (change : List String → List String) :
    List (String × List String) → List (String × List String)
  | [] => [(key, change [])]
  | (other, values) :: later =>
    if key = other then (key, change values) :: later
    else if key < other then (key, change []) :: (other, values) :: later
    else (other, values) :: alter key change later

/-- A field after a change is that of the key, or it was there before. -/
theorem mem_alter {key : String} {change : List String → List String}
    {fields : List (String × List String)} {field : String × List String}
    (mem : field ∈ alter key change fields) :
    (∃ values, field = (key, change values)) ∨ field ∈ fields := by
  induction fields with
  | nil => exact .inl ⟨[], by simpa [alter] using mem⟩
  | cons first later ih =>
    obtain ⟨other, values⟩ := first
    simp only [alter] at mem
    split at mem
    · rcases List.mem_cons.1 mem with h | h
      · exact .inl ⟨values, h⟩
      · exact .inr (List.mem_cons_of_mem _ h)
    · split at mem
      · rcases List.mem_cons.1 mem with h | h
        · exact .inl ⟨[], h⟩
        · exact .inr h
      · rcases List.mem_cons.1 mem with h | h
        · exact .inr (h ▸ List.mem_cons_self)
        · exact (ih h).imp id (List.mem_cons_of_mem _)

/-- A change keeps the keys in ascending order. -/
theorem sorted_alter (key : String) (change : List String → List String)
    {fields : List (String × List String)} (sorted : fields.Pairwise (·.1 < ·.1)) :
    (alter key change fields).Pairwise (·.1 < ·.1) := by
  induction fields with
  | nil => simp [alter]
  | cons first later ih =>
    obtain ⟨other, values⟩ := first
    obtain ⟨above, sorted⟩ := List.pairwise_cons.1 sorted
    simp only [alter]
    split
    · subst_vars
      exact List.pairwise_cons.2 ⟨above, sorted⟩
    · split
      · rename_i below
        refine List.pairwise_cons.2 ⟨fun field mem => ?_, List.pairwise_cons.2 ⟨above, sorted⟩⟩
        rcases List.mem_cons.1 mem with h | h
        · exact h ▸ below
        · exact String.lt_trans below (above field h)
      · rename_i ne notBelow
        refine List.pairwise_cons.2 ⟨fun field mem => ?_, ih sorted⟩
        rcases mem_alter mem with ⟨_, h⟩ | h
        · subst h
          exact Std.lt_of_le_of_ne (String.not_lt.1 notBelow) (Ne.symm ne)
        · exact above field h

/-- The form with the values of one key changed to what is never empty. -/
def change (form : Form) (key : String) (new : List String → List String)
    (filled : ∀ values, new values ≠ []) : Form where
  fields := alter key new form.fields
  sorted := sorted_alter key new form.sorted
  filled := by
    intro field mem
    rcases mem_alter mem with ⟨values, h⟩ | h
    · exact h ▸ filled values
    · exact form.filled field h

/-- The form with a value behind those of its key. -/
def append (form : Form) (key value : String) : Form :=
  form.change key (· ++ [value]) (by simp)

/-- The form with a value as the only one of its key. -/
def set (form : Form) (key value : String) : Form :=
  form.change key (fun _ => [value]) (by simp)

/-- The values of a key, in order. -/
def getAll (form : Form) (key : String) : List String :=
  match form.fields.find? (·.1 = key) with
  | some (_, values) => values
  | none => []

/-- The first value of a key. -/
def get? (form : Form) (key : String) : Option String := (form.getAll key).head?

/-- Whether the form has no fields. -/
def isEmpty (form : Form) : Bool := form.fields.isEmpty

/-- The form of a list of pairs, each appended. -/
def ofList (pairs : List (String × String)) : Form :=
  pairs.foldl (fun form pair => form.append pair.1 pair.2) empty

/-- The pairs of keys and values, in order. -/
def toList (form : Form) : List (String × String) :=
  form.fields.flatMap fun field => field.2.map fun value => (field.1, value)

/-- Whether an octet is written as itself. -/
def isPlain (octet : UInt8) : Bool :=
  (Char.ofNat octet.toNat).isAlphanum || Url.isOneOf "*-._" octet

/-- One octet of a key or value. -/
def encodeOctet (octet : UInt8) : List Char :=
  if octet = 0x20 then ['+']
  else if isPlain octet then [Char.ofNat octet.toNat]
  else Url.percentOctet octet

/-- A key or value. -/
def encodePart (text : String) : List Char := (Utf8.encode text).flatMap encodeOctet

/-- Pairs with `=` inside and `&` between them. -/
def encodePairs : List (String × String) → List Char
  | [] => []
  | [(key, value)] => encodePart key ++ '=' :: encodePart value
  | (key, value) :: next :: later =>
    encodePart key ++ '=' :: (encodePart value ++ '&' :: encodePairs (next :: later))

/-- The text of a form. -/
def encode (form : Form) : String := String.ofList (encodePairs form.toList)

end Form
end ResilientHttp
