import ResilientHttp.Text.Utf8

/-!
What encoding a text means for its octets.

* `decode?_encode` — a text that was encoded is read back. `piecesFrom_utf8EncodeChar` is the step: in
  front of anything else, the octets of a character are read as that character.
* `encode_lt_encode` — octets are ordered as the texts are that they encode.
* `encode_of_ascii` — each character of ASCII is one octet; the octets of any other character are above
  ASCII (`le_of_mem_utf8EncodeChar`).
-/

namespace ResilientHttp.Utf8

/-! ### Octets as numbers -/

theorem toNat_ofNat {n : Nat} (h : n < 256) : (UInt8.ofNat n).toNat = n := by
  simp [Nat.mod_eq_of_lt h]

theorem ofNat_lt_ofNat {n m : Nat} (hn : n < 256) (hm : m < 256) :
    UInt8.ofNat n < UInt8.ofNat m ↔ n < m := by
  rw [UInt8.lt_iff_toNat_lt, toNat_ofNat hn, toNat_ofNat hm]

theorem ofNat_eq_ofNat {n m : Nat} (hn : n < 256) (hm : m < 256) :
    UInt8.ofNat n = UInt8.ofNat m ↔ n = m := by
  rw [← UInt8.toNat_inj, toNat_ofNat hn, toNat_ofNat hm]

/-- A character is no surrogate and not above the last one. -/
theorem toNat_valid (char : Char) :
    char.val.toNat < 0xD800 ∨ 0xDFFF < char.val.toNat ∧ char.val.toNat < 0x110000 :=
  char.valid

/-- A number below the surrogates is the number of a character. -/
theorem toNat_charOfNat {n : Nat} (h : n < 0xD800) : (Char.ofNat n).toNat = n := by
  rw [Char.ofNat, dif_pos (.inl h)]
  rfl

/-! ### Reading what was written -/

section Lead

variable {n : Nat}

theorem lead_one (high : n < 0x80) :
    lead (.ofNat n) = ([.scalar (Char.ofNat n)], .between) := by
  have hn : (UInt8.ofNat n).toNat = n := toNat_ofNat (by omega)
  simp only [lead, UInt8.lt_iff_toNat_lt, hn]
  exact if_pos high

theorem lead_two (low : 0xC2 ≤ n) (high : n < 0xE0) :
    lead (.ofNat n) = ([], .inside (n % 32) 1 0x80 0xBF) := by
  have hn : (UInt8.ofNat n).toNat = n := toNat_ofNat (by omega)
  simp only [lead, UInt8.lt_iff_toNat_lt, hn, UInt8.reduceToNat]
  rw [if_neg (by omega), if_neg (by omega), if_pos high]

theorem lead_three (low : 0xE0 ≤ n) (high : n < 0xF0) :
    lead (.ofNat n) = ([], .inside (n % 16) 2 (if n = 0xE0 then 0xA0 else 0x80)
      (if n = 0xED then 0x9F else 0xBF)) := by
  by_cases first : n = 0xE0
  · subst first
    rfl
  by_cases surrogates : n = 0xED
  · subst surrogates
    rfl
  have hn : (UInt8.ofNat n).toNat = n := toNat_ofNat (by omega)
  simp only [lead, UInt8.lt_iff_toNat_lt, ← UInt8.toNat_inj, hn, UInt8.reduceToNat, if_neg first,
    if_neg surrogates]
  rw [if_neg (by omega), if_neg (by omega), if_neg (by omega), if_pos high]

theorem lead_four (low : 0xF0 ≤ n) (high : n < 0xF5) :
    lead (.ofNat n) = ([], .inside (n % 8) 3 (if n = 0xF0 then 0x90 else 0x80)
      (if n = 0xF4 then 0x8F else 0xBF)) := by
  by_cases first : n = 0xF0
  · subst first
    rfl
  by_cases last : n = 0xF4
  · subst last
    rfl
  have hn : (UInt8.ofNat n).toNat = n := toNat_ofNat (by omega)
  simp only [lead, UInt8.lt_iff_toNat_lt, ← UInt8.toNat_inj, hn, UInt8.reduceToNat, if_neg first,
    if_neg last]
  rw [if_neg (by omega), if_neg (by omega), if_neg (by omega), if_neg (by omega), if_neg (by omega),
    if_neg (by omega), if_pos (by omega)]

/-- An octet within the bounds of the character under way adds six bits to it. -/
theorem step_inside {bits missing : Nat} {low high : UInt8} (above : low.toNat ≤ n % 0x40 + 0x80)
    (below : n % 0x40 + 0x80 ≤ high.toNat) :
    State.step (.inside bits missing low high) (.ofNat (n % 0x40 + 0x80)) =
      if missing ≤ 1 then ([.scalar (Char.ofNat (bits * 64 + n % 64))], .between)
      else ([], .inside (bits * 64 + n % 64) (missing - 1) 0x80 0xBF) := by
  have hn : (UInt8.ofNat (n % 0x40 + 0x80)).toNat = n % 0x40 + 0x80 := toNat_ofNat (by omega)
  simp only [State.step, UInt8.le_iff_toNat_le, hn]
  rw [if_pos ⟨above, below⟩, show (n % 0x40 + 0x80) % 64 = n % 64 by omega]

end Lead

theorem piecesFrom_cons (state : State) (octet : UInt8) (rest : Octets) :
    piecesFrom state (octet :: rest) =
      (state.step octet).1 ++ piecesFrom (state.step octet).2 rest := by
  cases state <;> rfl

section Inside

variable {bits n : Nat} {low high : UInt8} (rest : Octets)
  (above : low.toNat ≤ n % 0x40 + 0x80) (below : n % 0x40 + 0x80 ≤ high.toNat)

include above below

theorem piecesFrom_last :
    piecesFrom (.inside bits 1 low high) (.ofNat (n % 0x40 + 0x80) :: rest) =
      .scalar (Char.ofNat (bits * 64 + n % 64)) :: piecesFrom .between rest := by
  rw [piecesFrom_cons, step_inside above below]
  rfl

theorem piecesFrom_more (missing : Nat) :
    piecesFrom (.inside bits (missing + 2) low high) (.ofNat (n % 0x40 + 0x80) :: rest) =
      piecesFrom (.inside (bits * 64 + n % 64) (missing + 1) 0x80 0xBF) rest := by
  rw [piecesFrom_cons, step_inside above below, if_neg (by omega)]
  rfl

end Inside

/-- In front of anything else, the octets of a character are read as that character. -/
theorem piecesFrom_utf8EncodeChar (char : Char) (rest : Octets) :
    piecesFrom .between (String.utf8EncodeChar char ++ rest) =
      .scalar char :: piecesFrom .between rest := by
  have valid := toNat_valid char
  have whole : ∀ n, n = char.val.toNat → Char.ofNat n = char := by
    rintro n rfl
    exact Char.ofNat_toNat char
  unfold String.utf8EncodeChar
  generalize char.val.toNat = v at *
  dsimp only
  -- One case for each number of octets.
  split
  · rw [List.cons_append, piecesFrom_cons, State.step, lead_one (by omega), whole v rfl]
    rfl
  split
  · rw [List.cons_append, piecesFrom_cons, State.step, lead_two (by omega) (by omega)]
    dsimp only [List.nil_append, List.cons_append]
    rw [piecesFrom_last _ (by simp) (by simp; omega), whole _ (by omega)]
  split
  · rw [List.cons_append, piecesFrom_cons, State.step, lead_three (by omega) (by omega)]
    dsimp only [List.nil_append, List.cons_append]
    rw [piecesFrom_more _ (by split <;> simp; omega) (by split <;> simp <;> omega),
      piecesFrom_last _ (by simp) (by simp; omega), whole _ (by omega)]
  · rw [List.cons_append, piecesFrom_cons, State.step, lead_four (by omega) (by omega)]
    dsimp only [List.nil_append, List.cons_append]
    rw [piecesFrom_more _ (by split <;> simp; omega) (by split <;> simp <;> omega),
      piecesFrom_more _ (by simp) (by simp; omega),
      piecesFrom_last _ (by simp) (by simp; omega), whole _ (by omega)]

theorem piecesFrom_flatMap (chars : List Char) :
    piecesFrom .between (chars.flatMap String.utf8EncodeChar) = chars.map .scalar := by
  induction chars with
  | nil => rfl
  | cons char later ih => rw [List.flatMap_cons, piecesFrom_utf8EncodeChar, ih, List.map_cons]

/-- A text that was encoded is read back. -/
@[simp] theorem decode?_encode (text : String) : decode? (encode text) = some text := by
  have read : ∀ chars : List Char, (chars.map Piece.scalar).mapM Piece.char? = some chars := by
    intro chars
    induction chars with
    | nil => rfl
    | cons char later ih => simp [ih, Piece.char?]
  rw [decode?, pieces, encode, piecesFrom_flatMap, read, Option.map_some, String.ofList_toList]

/-! ### Order -/

/-- Of two characters the smaller one has the smaller octets, whatever follows them. -/
theorem utf8EncodeChar_append_lt {first second : Char} (lt : first < second)
    (rest other : Octets) :
    String.utf8EncodeChar first ++ rest < String.utf8EncodeChar second ++ other := by
  have valid := toNat_valid second
  have below : first.val.toNat < second.val.toNat := UInt32.lt_iff_toNat_lt.mp lt
  unfold String.utf8EncodeChar
  generalize first.val.toNat = v at *
  generalize second.val.toNat = w at *
  have digits : ∀ n, n / 4096 = n / 64 / 64 ∧ n / 262144 = n / 64 / 64 / 64 := by omega
  simp only [digits]
  -- With fewer octets the first one is smaller; with as many, the first one that differs.
  repeat' split
  all_goals try omega
  all_goals
    simp (disch := omega) only [List.cons_append, List.nil_append, List.cons_lt_cons_iff,
      ofNat_lt_ofNat, ofNat_eq_ofNat]
    omega

theorem flatMap_lt_flatMap {first second : List Char} (lt : first < second) :
    first.flatMap String.utf8EncodeChar < second.flatMap String.utf8EncodeChar := by
  induction first generalizing second with
  | nil =>
      cases second with
      | nil => exact absurd lt (List.not_lt_nil _)
      | cons char later =>
          obtain ⟨octet, others, written⟩ :=
            List.exists_cons_of_ne_nil (String.utf8EncodeChar_ne_nil (c := char))
          rw [List.flatMap_cons, written]
          exact List.nil_lt_cons _ _
  | cons char later ih =>
      cases second with
      | nil => exact absurd lt (List.not_lt_nil _)
      | cons other rest =>
          rw [List.flatMap_cons, List.flatMap_cons]
          rcases List.cons_lt_cons_iff.mp lt with below | ⟨rfl, below⟩
          · exact utf8EncodeChar_append_lt below _ _
          · exact List.append_left_lt (ih below)

/-- Octets are ordered as the texts are that they encode. -/
theorem encode_lt_encode {first second : String} :
    encode first < encode second ↔ first < second := by
  constructor
  · intro lt
    rcases Std.lt_trichotomy first second with below | rfl | above
    · exact below
    · exact absurd lt (List.lt_irrefl _)
    · exact absurd lt (List.lt_asymm (flatMap_lt_flatMap (String.lt_iff.mp above)))
  · intro lt
    exact flatMap_lt_flatMap (String.lt_iff.mp lt)

/-! ### ASCII -/

theorem utf8EncodeChar_of_ascii {char : Char} (ascii : char.toNat < 0x80) :
    String.utf8EncodeChar char = [UInt8.ofNat char.toNat] :=
  if_pos (Nat.le_of_lt_succ ascii)

/-- Each character of ASCII is one octet. -/
theorem encode_of_ascii {chars : List Char} (ascii : ∀ char ∈ chars, char.toNat < 0x80) :
    encode (String.ofList chars) = chars.map fun char => UInt8.ofNat char.toNat := by
  rw [encode, String.toList_ofList]
  induction chars with
  | nil => rfl
  | cons char later ih =>
      obtain ⟨first, others⟩ := List.forall_mem_cons.mp ascii
      rw [List.flatMap_cons, utf8EncodeChar_of_ascii first, ih others]
      rfl

/-- The octets of a character above ASCII are above ASCII. -/
theorem le_of_mem_utf8EncodeChar {char : Char} (above : 0x80 ≤ char.toNat) :
    ∀ octet ∈ String.utf8EncodeChar char, 0x80 ≤ octet := by
  have valid := toNat_valid char
  have above : 0x80 ≤ char.val.toNat := above
  unfold String.utf8EncodeChar
  generalize char.val.toNat = v at *
  dsimp only
  repeat' split
  all_goals try omega
  all_goals
    simp (disch := omega) only [List.forall_mem_cons, UInt8.le_iff_toNat_le, toNat_ofNat]
    simp

end ResilientHttp.Utf8
