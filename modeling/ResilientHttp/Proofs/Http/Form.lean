import ResilientHttp.Http.Form
import ResilientHttp.Proofs.Text.Utf8

/-!
Forms are read back. `Form.decode?` reads the text of a form by the rules of its media type: pieces
between `&`, of each piece what stands before and behind the first `=`, blanks for `+`, octets for `%`
with two digits, and text for octets.

* `decode?_encodePairs` — what is written of pairs is read back as these pairs, whatever texts they are.
  `percentDecode_written` is the step: one octet that was written is read as that octet.
* `ofList_toList` — a form is made again of its pairs, so its text tells it (`encode_lossless`).
-/

namespace ResilientHttp

/-! ### Percent signs -/

namespace Url

theorem digit?_hexCapital {value : Nat} (h : value < 16) :
    Hex.digit? (Char.ofNat (UInt8.ofNat (hexCapital value).toNat).toNat) = some value := by
  revert value
  decide

theorem percentDecode_of_ne {octet : UInt8} (h : octet ≠ 0x25) (rest : Octets) :
    percentDecode (octet :: rest) = octet :: percentDecode rest :=
  percentDecode.eq_2 octet rest fun _ _ _ same _ => h same

/-- An octet that was written with a percent sign is read back. -/
theorem percentDecode_percentOctet (octet : UInt8) (rest : Octets) :
    percentDecode ((percentOctet octet).map (fun char => UInt8.ofNat char.toNat) ++ rest) =
      octet :: percentDecode rest := by
  have bound : octet.toNat < 256 := octet.toNat_lt
  have high : octet.toNat / 16 < 16 := by omega
  have low : octet.toNat % 16 < 16 := by omega
  have whole : octet.toNat / 16 * 16 + octet.toNat % 16 = octet.toNat := by omega
  simp only [percentOctet, List.map_cons, List.map_nil, List.cons_append, List.nil_append]
  rw [show UInt8.ofNat '%'.toNat = 0x25 from rfl, percentDecode, digit?_hexCapital high,
    digit?_hexCapital low]
  dsimp only
  rw [whole, UInt8.ofNat_toNat]

end Url

namespace Form

/-! ### The rules of reading -/

/-- A plus sign stands for a blank. -/
def blankForPlus (char : Char) : Char := if char = '+' then ' ' else char

/-- A key or value as it was before it was written. -/
def decodePart? (part : List Char) : Option String :=
  Utf8.decode? (Url.percentDecode (Utf8.encode (String.ofList (part.map blankForPlus))))

/-- A key and a value, before and behind the first `=`. -/
def decodePair? (piece : List Char) : Option (String × String) := do
  let key ← decodePart? (piece.takeWhile (· ≠ '='))
  let value ← decodePart? ((piece.dropWhile (· ≠ '=')).drop 1)
  pure (key, value)

/-- The pairs that a text stands for; nothing stands for no pair. -/
def decode? (text : String) : Option (List (String × String)) :=
  ((text.toList.splitOn '&').filter (· ≠ [])).mapM decodePair?

/-! ### Keys and values -/

/-- A pair as it is written. -/
def encodePair (pair : String × String) : List Char := encodePart pair.1 ++ '=' :: encodePart pair.2

theorem toNat_lt_of_isAlphanum {char : Char} (h : char.isAlphanum = true) : char.toNat < 0x80 := by
  have below : ∀ last : Char, char.val ≤ last.val → last.toNat < 0x80 → char.toNat < 0x80 :=
    fun _ le lt => Nat.lt_of_le_of_lt (UInt32.le_iff_toNat_le.mp le) lt
  rcases Bool.or_eq_true_iff.mp h with letter | digit
  · rcases Bool.or_eq_true_iff.mp letter with upper | lower
    · exact below 'Z' (of_decide_eq_true upper).2 (by decide)
    · exact below 'z' (of_decide_eq_true (Bool.and_eq_true_iff.mp lower).2) (by decide)
  · exact below '9' (of_decide_eq_true (Bool.and_eq_true_iff.mp digit).2) (by decide)

theorem isAlphanum_hexCapital {value : Nat} (h : value < 16) :
    (Url.hexCapital value).isAlphanum = true := by
  revert value
  decide

/-- What is written of an octet: letters, digits and some marks, none of which is a separator. -/
theorem mem_encodeOctet {octet : UInt8} {char : Char} (mem : char ∈ encodeOctet octet) :
    char.isAlphanum = true ∨ char ∈ "*-._+%".toList := by
  have bound : octet.toNat < 256 := octet.toNat_lt
  unfold encodeOctet at mem
  split at mem
  · obtain rfl := List.mem_singleton.mp mem
    exact .inr (by decide)
  split at mem
  · rename_i plain
    obtain rfl := List.mem_singleton.mp mem
    refine ((Bool.or_eq_true _ _).mp plain).imp id fun mark => ?_
    obtain ⟨char, mem, same⟩ := List.any_eq_true.mp mark
    have same : char.toNat = octet.toNat := by simpa using same
    rw [← same, Char.ofNat_toNat, show "*-._+%".toList = "*-._".toList ++ ['+', '%'] by decide]
    exact List.mem_append_left _ mem
  · simp only [Url.percentOctet, List.mem_cons, List.not_mem_nil, or_false] at mem
    rcases mem with rfl | rfl | rfl
    · exact .inr (by decide)
    · exact .inl (isAlphanum_hexCapital (by omega))
    · exact .inl (isAlphanum_hexCapital (by omega))

theorem mem_encodePart {text : String} {char : Char} (mem : char ∈ encodePart text) :
    char.isAlphanum = true ∨ char ∈ "*-._+%".toList := by
  obtain ⟨octet, -, mem⟩ := List.mem_flatMap.mp mem
  exact mem_encodeOctet mem

/-- No part has a separator in it. -/
theorem ne_of_mem_encodePart {text : String} {char : Char} (mem : char ∈ encodePart text) :
    char ≠ '&' ∧ char ≠ '=' := by
  constructor <;> rintro rfl <;> exact absurd (mem_encodePart mem) (by decide)

theorem toNat_lt_of_mem_encodePart {text : String} {char : Char} (mem : char ∈ encodePart text) :
    char.toNat < 0x80 := by
  have marks : ("*-._+%".toList.all fun char => char.toNat < 0x80) = true := by decide
  refine (mem_encodePart mem).elim toNat_lt_of_isAlphanum fun mark => ?_
  exact of_decide_eq_true (List.all_eq_true.mp marks char mark)

/-- An octet that was written is read as that octet. -/
theorem percentDecode_written (octet : UInt8) (rest : Octets) :
    Url.percentDecode (((encodeOctet octet).map blankForPlus).map
      (fun char => UInt8.ofNat char.toNat) ++ rest) = octet :: Url.percentDecode rest := by
  have bound : octet.toNat < 256 := octet.toNat_lt
  unfold encodeOctet
  split
  · rename_i blank
    subst blank
    exact Url.percentDecode_of_ne (by decide) rest
  split
  · rename_i plain
    have notPlus : octet ≠ 0x2B := by
      rintro rfl
      exact absurd plain (by decide)
    have notPercent : octet ≠ 0x25 := by
      rintro rfl
      exact absurd plain (by decide)
    have itself : UInt8.ofNat (blankForPlus (Char.ofNat octet.toNat)).toNat = octet := by
      have number := Utf8.toNat_charOfNat (n := octet.toNat) (by omega)
      rw [blankForPlus, if_neg, number, UInt8.ofNat_toNat]
      intro plus
      refine notPlus (UInt8.toNat_inj.mp ?_)
      rw [← number, plus]
      rfl
    simp only [List.map_cons, List.map_nil, List.cons_append, List.nil_append, itself]
    exact Url.percentDecode_of_ne notPercent rest
  · have digits : ∀ value < 16, blankForPlus (Url.hexCapital value) = Url.hexCapital value := by
      decide
    have same : (Url.percentOctet octet).map blankForPlus = Url.percentOctet octet := by
      simp only [Url.percentOctet, List.map_cons, List.map_nil]
      rw [digits _ (by omega), digits _ (by omega)]
      rfl
    rw [same]
    exact Url.percentDecode_percentOctet octet rest

/-- A key or value that was written is read back. -/
theorem decodePart?_encodePart (text : String) : decodePart? (encodePart text) = some text := by
  have read : ∀ octets : Octets, Url.percentDecode (((octets.flatMap encodeOctet).map blankForPlus).map
      fun char => UInt8.ofNat char.toNat) = octets := by
    intro octets
    induction octets with
    | nil => rfl
    | cons octet later ih =>
        rw [List.flatMap_cons, List.map_append, List.map_append, percentDecode_written, ih]
  have ascii : ∀ char ∈ (encodePart text).map blankForPlus, char.toNat < 0x80 := by
    intro char mem
    obtain ⟨written, inPart, rfl⟩ := List.mem_map.mp mem
    unfold blankForPlus
    split
    · decide
    · exact toNat_lt_of_mem_encodePart inPart
  rw [decodePart?, Utf8.encode_of_ascii ascii, encodePart, read, Utf8.decode?_encode]

/-! ### Pairs -/

theorem encodePairs_eq (pairs : List (String × String)) :
    encodePairs pairs = ['&'].intercalate (pairs.map encodePair) := by
  induction pairs with
  | nil => rfl
  | cons pair later ih =>
      obtain ⟨key, value⟩ := pair
      cases later with
      | nil => simp [encodePairs, encodePair]
      | cons next later => simp [encodePairs, encodePair, ih, List.intercalate]

/-- What is written of pairs: letters, digits and eight marks. -/
theorem mem_encodePairs {pairs : List (String × String)} {char : Char}
    (mem : char ∈ encodePairs pairs) : char.isAlphanum = true ∨ char ∈ "*-._+%&=".toList := by
  have part : ∀ {text : String}, char ∈ encodePart text →
      char.isAlphanum = true ∨ char ∈ "*-._+%&=".toList := fun mem =>
    (mem_encodePart mem).imp id fun mark => List.mem_append_left ['&', '='] mark
  induction pairs with
  | nil => cases mem
  | cons pair later ih =>
      obtain ⟨key, value⟩ := pair
      cases later with
      | nil =>
          rcases List.mem_append.mp mem with inKey | mem
          · exact part inKey
          rcases List.mem_cons.mp mem with rfl | inValue
          · exact .inr (by decide)
          · exact part inValue
      | cons next later =>
          rcases List.mem_append.mp mem with inKey | mem
          · exact part inKey
          rcases List.mem_cons.mp mem with rfl | mem
          · exact .inr (by decide)
          rcases List.mem_append.mp mem with inValue | mem
          · exact part inValue
          rcases List.mem_cons.mp mem with rfl | mem
          · exact .inr (by decide)
          · exact ih mem

theorem decodePair?_encodePair (pair : String × String) : decodePair? (encodePair pair) = some pair := by
  obtain ⟨key, value⟩ := pair
  have noSign : ∀ char ∈ encodePart key, decide (char ≠ '=') = true := fun char mem =>
    decide_eq_true (ne_of_mem_encodePart mem).2
  have front : (encodePair (key, value)).takeWhile (· ≠ '=') = encodePart key := by
    rw [encodePair, List.takeWhile_append_of_pos noSign]
    simp
  have behind : ((encodePair (key, value)).dropWhile (· ≠ '=')).drop 1 = encodePart value := by
    rw [encodePair, List.dropWhile_append_of_pos noSign]
    simp
  rw [decodePair?, front, behind, decodePart?_encodePart, decodePart?_encodePart]
  rfl

/-- What is written of pairs is read back as these pairs. -/
theorem decode?_encodePairs (pairs : List (String × String)) :
    decode? (String.ofList (encodePairs pairs)) = some pairs := by
  have noSeparator : ∀ piece ∈ pairs.map encodePair, '&' ∉ piece := by
    intro piece mem inside
    obtain ⟨pair, -, rfl⟩ := List.mem_map.mp mem
    rcases List.mem_append.mp inside with inKey | inValue
    · exact (ne_of_mem_encodePart inKey).1 rfl
    · rcases List.mem_cons.mp inValue with sign | inValue
      · cases sign
      · exact (ne_of_mem_encodePart inValue).1 rfl
  have filled : (pairs.map encodePair).filter (· ≠ []) = pairs.map encodePair := by
    refine List.filter_eq_self.mpr fun piece mem => ?_
    obtain ⟨pair, -, rfl⟩ := List.mem_map.mp mem
    simp [encodePair]
  have read : ∀ pairs : List (String × String),
      (pairs.map encodePair).mapM decodePair? = some pairs := by
    intro pairs
    induction pairs with
    | nil => rfl
    | cons pair later ih => simp [decodePair?_encodePair, ih]
  rw [decode?, String.toList_ofList, encodePairs_eq]
  cases pairs with
  | nil => rfl
  | cons pair later =>
      rw [List.splitOn_intercalate '&' noSeparator (by simp), filled, read]

/-! ### Forms -/

section Fields

variable {form : Form} {key value : String} {values : List String}
  {fields front later : List (String × List String)}

theorem eq_of_fields {other : Form} (h : form.fields = other.fields) : form = other := by
  cases form
  cases other
  cases h
  rfl

/-- A change goes past the keys below its own. -/
theorem alter_of_above (later : List (String × List String)) (change : List String → List String)
    (above : ∀ field ∈ front, field.1 < key) :
    alter key change (front ++ later) = front ++ alter key change later := by
  induction front with
  | nil => rfl
  | cons field others ih =>
      obtain ⟨below, above⟩ := List.forall_mem_cons.mp above
      have notBelow : ¬ key < field.1 := String.lt_asymm below
      have ne : key ≠ field.1 := by
        rintro rfl
        exact String.lt_irrefl _ below
      rw [List.cons_append, alter, if_neg ne, if_neg notBelow, ih above]
      rfl

theorem fields_append_new (value : String) (h : form.fields = front)
    (above : ∀ field ∈ front, field.1 < key) :
    (form.append key value).fields = front ++ [(key, [value])] := by
  subst h
  have changed := alter_of_above [] (· ++ [value]) above
  rw [List.append_nil] at changed
  exact changed

theorem fields_append_last (h : form.fields = front ++ [(key, values)]) :
    (form.append key value).fields = front ++ [(key, values ++ [value])] := by
  have above : ∀ field ∈ front, field.1 < key := by
    intro field mem
    have sorted := form.sorted
    rw [h] at sorted
    exact (List.pairwise_append.mp sorted).2.2 field mem _ (List.mem_singleton.mpr rfl)
  have changed := alter_of_above [(key, values)] (· ++ [value]) above
  rw [← h, alter, if_pos rfl] at changed
  exact changed

/-- The values of the last key are appended one after the other. -/
theorem fields_foldl_values (more : List String) (h : form.fields = front ++ [(key, values)]) :
    ((more.map fun value => (key, value)).foldl (fun form pair => form.append pair.1 pair.2)
      form).fields = front ++ [(key, values ++ more)] := by
  induction more generalizing form values with
  | nil => rw [List.append_nil, List.map_nil, List.foldl_nil, h]
  | cons value more ih =>
      rw [List.map_cons, List.foldl_cons, ih (fields_append_last h), List.append_assoc]
      rfl

/-- The pairs of fields with greater keys are appended as these fields. -/
theorem fields_foldl_pairs (front : List (String × List String)) (h : form.fields = front)
    (sorted : (front ++ later).Pairwise (·.1 < ·.1)) (filled : ∀ field ∈ later, field.2 ≠ []) :
    ((later.flatMap fun field => field.2.map fun value => (field.1, value)).foldl
      (fun form pair => form.append pair.1 pair.2) form).fields = front ++ later := by
  induction later generalizing form front with
  | nil => rw [List.append_nil, List.flatMap_nil, List.foldl_nil, h]
  | cons field later ih =>
      obtain ⟨key, values⟩ := field
      obtain ⟨notEmpty, others⟩ := List.forall_mem_cons.mp filled
      obtain ⟨value, more, rfl⟩ := List.exists_cons_of_ne_nil notEmpty
      have above : ∀ field ∈ front, field.1 < key := fun field mem =>
        (List.pairwise_append.mp sorted).2.2 field mem _ List.mem_cons_self
      rw [List.flatMap_cons, List.foldl_append, List.map_cons, List.foldl_cons]
      have first := fields_foldl_values more (fields_append_new value h above)
      rw [ih _ first (by simpa using sorted) others]
      simp

end Fields

/-- A form is made again of its pairs. -/
theorem ofList_toList (form : Form) : ofList form.toList = form := by
  refine eq_of_fields ?_
  rw [ofList, toList, fields_foldl_pairs [] rfl form.sorted form.filled]
  rfl

/-- The pairs of a form have their keys in the order of their octets. -/
theorem pairwise_toList (form : Form) :
    form.toList.Pairwise fun pair other => Utf8.encode pair.1 ≤ Utf8.encode other.1 := by
  refine List.pairwise_flatMap.mpr ⟨fun field _ => ?_, ?_⟩
  · exact List.pairwise_map.mpr (List.pairwise_of_forall fun _ _ => List.le_refl _)
  · refine form.sorted.imp ?_
    intro field other lt pair mem next mem'
    obtain ⟨_, _, rfl⟩ := List.mem_map.mp mem
    obtain ⟨_, _, rfl⟩ := List.mem_map.mp mem'
    exact List.le_of_lt (Utf8.encode_lt_encode.mpr lt)

/-- The values of a key among the pairs are the values of the key, in order. -/
theorem map_filter_toList (form : Form) (key : String) :
    (form.toList.filter fun pair => pair.1 = key).map Prod.snd = form.getAll key := by
  obtain ⟨fields, sorted, filled⟩ := form
  unfold toList getAll
  dsimp only
  induction fields with
  | nil => rfl
  | cons field later ih =>
      obtain ⟨other, values⟩ := field
      obtain ⟨above, sorted⟩ := List.pairwise_cons.mp sorted
      rw [List.flatMap_cons, List.filter_append, List.map_append, List.find?_cons]
      by_cases same : other = key
      · subst same
        -- The keys behind it are greater, so none of their pairs is kept.
        have none : (later.flatMap fun field => field.2.map fun value => (field.1, value)).filter
            (fun pair => pair.1 = other) = [] := by
          refine List.filter_eq_nil_iff.mpr fun pair mem => ?_
          obtain ⟨field, inLater, mem⟩ := List.mem_flatMap.mp mem
          obtain ⟨value, -, rfl⟩ := List.mem_map.mp mem
          have below := above field inLater
          simp only [decide_eq_true_eq]
          rintro rfl
          exact String.lt_irrefl _ below
        have all : values.filter ((fun pair : String × String => decide (pair.1 = other)) ∘
            fun value => (other, value)) = values := by
          exact List.filter_eq_self.mpr fun value _ => by simp
        rw [none, List.filter_map, all]
        simp [Function.comp_def]
      · have none : (values.map fun value => (other, value)).filter
            (fun pair => pair.1 = key) = [] := by
          refine List.filter_eq_nil_iff.mpr fun pair mem => ?_
          obtain ⟨value, -, rfl⟩ := List.mem_map.mp mem
          simp [same]
        rw [none, List.map_nil, List.nil_append]
        simpa [same] using ih sorted fun field mem => filled field (List.mem_cons_of_mem _ mem)

/-- The text of a form consists of letters, digits and eight marks, and it is read back as the pairs of
the form: the keys in the order of their octets, the values of each key in order. No other form has
this text. -/
theorem encode_lossless (form : Form) :
    (∀ char ∈ form.encode.toList, char.isAlphanum = true ∨ char ∈ "*-._+%&=".toList) ∧
      decode? form.encode = some form.toList ∧
      form.toList.Pairwise (fun pair other => Utf8.encode pair.1 ≤ Utf8.encode other.1) ∧
      (∀ key, (form.toList.filter fun pair => pair.1 = key).map Prod.snd = form.getAll key) ∧
      ofList form.toList = form ∧
      ∀ other : Form, form.encode = other.encode ↔ form = other := by
  have read := fun form : Form => decode?_encodePairs form.toList
  refine ⟨?_, read form, pairwise_toList form, map_filter_toList form, ofList_toList form, ?_⟩
  · intro char mem
    rw [encode, String.toList_ofList] at mem
    exact mem_encodePairs mem
  · intro other
    constructor
    · intro same
      have pairs : form.toList = other.toList := by
        have reread := read form
        rw [← encode, same, encode, read other] at reread
        exact (Option.some.inj reread).symm
      rw [← ofList_toList form, pairs, ofList_toList]
    · rintro rfl
      rfl

end Form
end ResilientHttp
