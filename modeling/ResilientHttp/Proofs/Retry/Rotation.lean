import ResilientHttp.Proofs.Retry.Loop

/-!
The rotation as a list. `RetryPolicy.turn?` says where the attempt with an index is sent, in terms of
the list of endpoints alone; `toOption_target` says that the loop computes just that. `turns` are the
targets of the first attempts, and `copies` the requests that are sent to them.
-/

namespace ResilientHttp

/-- What a request sends each time: nothing, or the octets that its body holds. -/
def Request.replayed (request : Request) : Except IoError (Option Octets) :=
  match request.body with
  | none => .ok none
  | some body => body.content.map some

namespace RetryPolicy

/-- What stands in a place of the rotation: the own target first, then the endpoints that are URLs. -/
def place? (policy : RetryPolicy) (own : Url) : Nat → Option Url
  | 0 => some own
  | place + 1 => policy.endpoints[place]?.bind fun endpoint => (Url.parse endpoint).toOption

/-- Where the attempt with an index is sent, if anywhere: the places of the rotation take turns in
order, and a place where no URL stands lets its turn pass. -/
def turn? (policy : RetryPolicy) (own : Url) (index : Nat) : Option Url :=
  policy.place? own (index % (policy.endpoints.length + 1))

/-- The targets of the first attempts. -/
def turns (policy : RetryPolicy) (own : Url) (count : Nat) : List Url :=
  (List.range count).filterMap (policy.turn? own)

/-- The numbers of those of the first attempts that are sent anywhere. -/
def sending (policy : RetryPolicy) (own : Url) (count : Nat) : List Nat :=
  (List.range count).filter fun index => (policy.turn? own index).isSome

/-- The targets of all attempts that a policy allows. -/
def rotation (policy : RetryPolicy) (own : Url) : List Url :=
  policy.turns own (policy.maxAttempts.toNat + 1)

/-- The requests of the first attempts: copies of one request that differ in their targets. -/
def copies (policy : RetryPolicy) (request : Request) (octets : Option Octets) (count : Nat) :
    List Request :=
  (policy.turns request.url count).map fun url => request.rebind url octets

/-- The requests of all attempts that a policy allows; none if the body cannot be read. -/
def schedule (policy : RetryPolicy) (request : Request) : List Request :=
  match request.replayed with
  | .error _ => []
  | .ok octets => policy.copies request octets (policy.maxAttempts.toNat + 1)

variable {policy : RetryPolicy} {own : Url} {request : Request} {octets : Option Octets}
  {index count total : Nat}

/-- The loop goes through the rotation. -/
theorem toOption_target (policy : RetryPolicy) (own : Url) (index : Nat) :
    (policy.target own (policy.slot index)).toOption = policy.turn? own index := by
  have places : ∀ slot : Fin policy.slotCount,
      (policy.target own slot).toOption = policy.place? own slot.val := by
    rintro ⟨_ | place, inBounds⟩
    · rfl
    · simp only [place?, List.getElem?_eq_getElem (Nat.lt_of_succ_lt_succ inBounds)]
      rfl
  exact places (policy.slot index)

theorem turn?_zero : policy.turn? own 0 = some own := by
  rw [turn?, Nat.zero_mod]
  rfl

theorem turns_succ :
    policy.turns own (count + 1) = policy.turns own count ++ (policy.turn? own count).toList := by
  rw [turns, List.range_succ, List.filterMap_append]
  cases h : policy.turn? own count <;> simp [turns, h]

theorem isPrefix_turns (h : count ≤ total) : policy.turns own count <+: policy.turns own total := by
  induction h with
  | refl => exact List.prefix_refl _
  | step _ ih => exact ih.trans (turns_succ ▸ List.prefix_append _ _)

theorem length_sending (policy : RetryPolicy) (own : Url) (count : Nat) :
    (policy.sending own count).length = (policy.turns own count).length := by
  rw [sending, turns, List.length_filterMap_eq_countP, List.countP_eq_length_filter]

theorem sending_succ {url : Url} (turn : policy.turn? own count = some url) :
    policy.sending own (count + 1) = policy.sending own count ++ [count] := by
  simp [sending, List.range_succ, turn]

theorem isPrefix_sending (h : count ≤ total) :
    policy.sending own count <+: policy.sending own total := by
  obtain ⟨more, rfl⟩ := Nat.le.dest h
  rw [sending, sending, List.range_add, List.filter_append]
  exact List.prefix_append _ _

/-- The number of an attempt stands behind those of the ones before it. -/
theorem sending_getElem? {url : Url} (turn : policy.turn? own count = some url) (lt : count < total) :
    (policy.sending own total)[(policy.turns own count).length]? = some count := by
  have begins : policy.sending own (count + 1) <+: policy.sending own total := isPrefix_sending lt
  obtain ⟨more, same⟩ := begins
  rw [← same, sending_succ turn, ← length_sending, List.append_assoc]
  simp

theorem copies_succ :
    policy.copies request octets (count + 1) = policy.copies request octets count ++
      (policy.turn? request.url count).toList.map fun url => request.rebind url octets := by
  rw [copies, turns_succ, List.map_append]
  rfl

theorem isPrefix_copies (h : count ≤ total) :
    policy.copies request octets count <+: policy.copies request octets total :=
  (isPrefix_turns h).map _

theorem urls_copies (policy : RetryPolicy) (request : Request) (octets : Option Octets)
    (count : Nat) :
    (policy.copies request octets count).map Request.url = policy.turns request.url count := by
  rw [copies, List.map_map]
  exact List.map_id _

/-- The rotation is never empty, since the own target comes first. -/
theorem length_turns_pos (policy : RetryPolicy) (own : Url) (count : Nat) :
    0 < (policy.turns own (count + 1)).length := by
  have first : own ∈ policy.turns own (count + 1) :=
    List.mem_filterMap.mpr ⟨0, by simp, turn?_zero⟩
  exact List.length_pos_of_mem first

theorem length_turns_le (policy : RetryPolicy) (own : Url) (count : Nat) :
    (policy.turns own count).length ≤ count := by
  simpa [turns] using List.length_filterMap_le (policy.turn? own) (List.range count)

end RetryPolicy
end ResilientHttp
