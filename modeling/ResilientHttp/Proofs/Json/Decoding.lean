import ResilientHttp.Json.Decoder
import ResilientHttp.Proofs.Json.Ignoring

/-!
Decoders that take what is spelt. `Takes` says of a decoder that it makes the same of any text that spells
a value and of the tree that such a text is read as.

* `takes_bool`, `takes_bounded`, `takes_string`, `takes_variant` — one kind of scalar each.
* `Takes.map`, `Takes.option`, `Takes.list` — decoders that are made from others.
* `Takes.readsAs` — what that means for whole texts.
-/

namespace ResilientHttp.Json

namespace Reader

section Steps

variable {reader : Reader α} {next : UInt8 → Reader β} {closing : Reader Unit}
  {cursor after behind : Cursor} {octet : UInt8} {value : α} {result : β} {depth : Nat} {json : Json}

theorem Gives.peekValue (begins : Begins octet cursor.skipBlanks.rest)
    (second : (next octet).Gives cursor.skipBlanks result behind) :
    (Reader.peekValue >>= next).Gives cursor result behind :=
  Gives.bind (Gives.peekBlank begins (gives_pure : (Reader.pure octet).Gives _ _ _)) second

theorem Gives.placed (ran : reader.Gives cursor value behind) :
    (Reader.placed reader).Gives cursor value behind := by
  simp only [Gives, Reader.placed]
  rw [ran]

/-- The end of a list may be behind blanks. -/
theorem gives_endList_of_skipBlanks {other : Cursor} (same : cursor.skipBlanks = other.skipBlanks)
    (closes : endList.Gives other () behind) : endList.Gives cursor () behind := by
  obtain ⟨_, _, looked, ended⟩ := gives_bind_iff.mp closes
  cases looked
  rw [← same] at ended
  exact gives_peekBlank.bind ended

theorem Gives.nested (room : 1 < cursor.depth)
    (ran : reader.Gives (cursor.withDepth (cursor.depth - 1)) value after) :
    (Reader.nested reader).Gives cursor value (after.withDepth cursor.depth) := by
  simp only [Gives, Reader.nested]
  rw [if_neg (Nat.not_le.mpr room)]
  change ((reader (cursor.withDepth (cursor.depth - 1))).1,
    (reader (cursor.withDepth (cursor.depth - 1))).2.withDepth cursor.depth) = _
  rw [ran]

/-- What is between brackets is read with room for one level less. -/
theorem Gives.bracketed (room : 1 < cursor.depth)
    (inside : reader.Gives (cursor.advance.withDepth (cursor.depth - 1)) value after)
    (closes : closing.Gives (after.withDepth cursor.depth) () behind) :
    (Reader.placed (closedBy (Reader.nested (skip >>= fun _ => reader)) closing)).Gives cursor value
      behind := by
  rw [← Cursor.advance_withDepth] at inside
  exact Gives.placed (gives_closedBy_iff.mpr ⟨_, .nested room (gives_skip_iff.mpr inside), closes⟩)

/-- The turns between brackets are taken with any room for the levels inside, and there is as much room
behind the bracket as before it. -/
theorem Turns.inside {goesOn : Bool → Reader Bool} {item : Cursor → ε → Cursor → Prop}
    {given : List ε} (steady : ∀ first, Steady (goesOn first))
    (levels : ∀ level {cursor one behind}, item cursor one behind →
      item (cursor.withDepth level) one (behind.withDepth level))
    (keeps : ∀ {cursor one behind}, item cursor one behind → behind.depth = cursor.depth)
    (turns : Turns goesOn item true cursor.advance given behind) (level : Nat) :
    Turns goesOn (fun cursor one behind => item cursor one behind ∧ cursor.depth = level) true
        (cursor.advance.withDepth level) given (behind.withDepth level) ∧
      (behind.withDepth level).withDepth cursor.depth = behind := by
  have opened := cursor.depth_advance
  refine ⟨((turns.withDepth steady level (levels level)).leveled steady keeps rfl).1, ?_⟩
  rw [Cursor.withDepth_withDepth, ← opened, ← (turns.leveled steady keeps rfl).2,
    Cursor.withDepth_self]

end Steps

end Reader

namespace Decoder

open Reader (Spelt Stands Gives Turns)

/-- A spelt value is decoded as a value, from the text as well as from the tree that is read there. -/
structure Takes (decoder : Decoder α) (json : Json) (value : α) : Prop where
  text : ∀ {depth cursor behind}, Spelt depth cursor json behind → depth ≤ cursor.depth →
    decoder.fromText.Gives cursor value behind
  tree : decoder.fromValue json.sorted = .ok value

/-- Every text that spells a value is decoded, and the tree that is read from such a text is decoded the
same. -/
structure ReadsAs (decoder : Decoder α) (json : Json) (value : α) : Prop where
  text : ∀ octets, Spells octets json → decoder.decodeText octets = .ok value
  tree : decoder.decodeValue json.sorted = .ok value

theorem Takes.readsAs {decoder : Decoder α} {json : Json} {value : α}
    (takes : decoder.Takes json value) : decoder.ReadsAs json value where
  text := by
    rintro octets ⟨behind, spelt, nothing⟩
    exact Reader.run_eq_ok_iff.mpr ⟨behind, takes.text spelt (Nat.le_refl _), nothing⟩
  tree := by rw [decodeValue, takes.tree]

section Scalars

variable {decoder : Decoder α} {json : Json} {value : α}

theorem takes_bool (value : Bool) : bool.Takes (.bool value) value where
  text spelt _ := by
    obtain ⟨inner, rfl, stands⟩ := spelt.stands
    cases stands with
    | yes begins spelt => exact Gives.peekValue begins (spelt.bind Reader.gives_pure)
    | no begins spelt => exact Gives.peekValue begins (spelt.bind Reader.gives_pure)
  tree := rfl

theorem takes_bounded {name : String} {low high value : Int} (within : low ≤ value ∧ value ≤ high) :
    (bounded name low high).Takes (.number (.whole value)) value where
  text spelt _ := by
    obtain ⟨inner, rfl, stands⟩ := spelt.stands
    cases stands with
    | number begins starts spelt =>
        refine Gives.peekValue begins ?_
        rw [if_pos starts]
        refine Gives.placed (spelt.bind ?_)
        rw [boundedNumber, if_pos within]
        exact Reader.gives_pure
  tree := if_pos within

theorem Takes.map {f : α → β} (takes : decoder.Takes json value) :
    (decoder.map f).Takes json (f value) where
  text spelt room := (takes.text spelt room).map
  tree := by
    simp only [Decoder.map, takes.tree]
    rfl

/-- A count is taken where it fits. -/
theorem takes_natural {name : String} {high : Int} {f : Int → α} {n : Nat} (fits : (n : Int) ≤ high)
    (same : f n = value) : ((bounded name 0 high).map f).Takes (.number (.whole n)) value :=
  same ▸ (takes_bounded ⟨Int.natCast_nonneg n, fits⟩).map

theorem takes_uint16 (value : UInt16) : uint16.Takes (.number (.whole value.toNat)) value :=
  takes_natural (by have := value.toNat_lt; omega) (by simp)

theorem takes_uint32 (value : UInt32) : uint32.Takes (.number (.whole value.toNat)) value :=
  takes_natural (by have := value.toNat_lt; omega) (by simp)

theorem takes_uint64 (value : UInt64) : uint64.Takes (.number (.whole value.toNat)) value :=
  takes_natural (by have := value.toNat_lt; omega) (by simp)

theorem takes_count (value : UInt64) : count.Takes (.number (.whole value.toNat)) value :=
  takes_natural (by have := value.toNat_lt; omega) (by simp)

theorem takes_string (text : String) : string.Takes (.string text) text where
  text spelt _ := by
    obtain ⟨inner, rfl, stands⟩ := spelt.stands
    cases stands with
    | string begins spelt => exact Gives.peekValue begins spelt
  tree := rfl

theorem takes_option_null : decoder.option.Takes .null none where
  text spelt _ := by
    obtain ⟨inner, rfl, stands⟩ := spelt.stands
    cases stands with
    | null begins spelt =>
        refine Gives.peekBlank begins ?_
        exact spelt.bind Reader.gives_pure
  tree := rfl

theorem Takes.option (takes : decoder.Takes json value) (notNull : json ≠ .null) :
    decoder.option.Takes json (some value) where
  text {depth cursor behind} spelt room := by
    have level := cursor.depth_skipBlanks
    have inner := takes.text (Reader.spelt_skipBlanks_iff.mpr spelt) (by omega)
    obtain ⟨octet, other, begins⟩ := spelt.begins notNull
    refine Gives.peekBlank begins ?_
    split
    · rename_i null
      exact absurd (Option.some.inj null) other
    · exact inner.map
  tree := by
    have given := takes.tree
    have notNull : json.sorted ≠ .null := by
      cases json with
      | null => exact absurd rfl notNull
      | bool | number | string | array | object => nofun
    generalize json.sorted = tree at given notNull
    cases tree with
    | null => exact absurd rfl notNull
    | bool | number | string | array | object => exact congrArg (Except.map some) given

/-- The name of a known value. -/
theorem takes_variant {known : List (String × α)} {name : String}
    (found : lookupField? name known = some value) : (variant known).Takes (.string name) value where
  text spelt _ := by
    obtain ⟨inner, rfl, stands⟩ := spelt.stands
    cases stands with
    | string begins spelt =>
        refine Gives.peekBlank begins (Gives.placed (spelt.bind ?_))
        rw [variantOf, found]
        exact Reader.gives_pure
  tree := by
    change variantOf known name = _
    rw [variantOf, found]

end Scalars

/-- A list of values that are taken. -/
theorem Takes.list {decoder : Decoder α} {given : List ι} {write : ι → Json} {value : ι → α}
    (takes : ∀ one ∈ given, decoder.Takes (write one) (value one)) :
    decoder.list.Takes (.array (given.map write)) (given.map value) where
  text {_ cursor _} spelt room := by
    obtain ⟨inner, rfl, stands⟩ := spelt.stands
    have level := cursor.depth_skipBlanks
    cases stands with
    | array begins deep inside closes =>
        obtain ⟨turns, left⟩ := inside.inside Reader.Steady.hasItem
          (fun level _ _ _ => Spelt.withDepth level) Spelt.depth_eq
          (cursor.skipBlanks.depth - 1)
        have read := turns.items_go [] fun one mem _ _ stands =>
          (takes one mem).text stands.1 (by omega)
        exact Gives.peekValue begins (Gives.bracketed (by omega) read (left.symm ▸ closes))
  tree := by
    rw [sorted, sortedItems_eq, List.map_map]
    change (given.map (sorted ∘ write)).mapM decoder.fromValue = .ok (given.map value)
    induction given with
    | nil => rfl
    | cons one others ih =>
        obtain ⟨first, later⟩ := List.forall_mem_cons.mp takes
        rw [List.map_cons, List.mapM_cons, Function.comp_apply, first.tree, ih later]
        rfl

end Decoder

end ResilientHttp.Json
