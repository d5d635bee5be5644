import ResilientHttp.Proofs.Client.Errands
import ResilientHttp.Proofs.Site

/-!
The header fields of what is sent. Any number of errands are run with copies of one client, each by a
thread of its own, in any interleaving. `merged` is what merges, done one after the other and each as
a whole, make of header fields.

* `Account` — what the threads have done: at any moment the defaults are what the merges so far have
  made of them, and a call hands over what it made of the defaults in its first action.
* `Client.headers_snapshot` — so it is in every run.
-/

namespace ResilientHttp

variable {ι σ τ : Type}

/-- What the merges among deeds make of header fields. -/
def merged (errands : ι → Errand) (deeds : List (Deed ι σ)) (headers : HeaderMap) : HeaderMap :=
  (deeds.filterMap fun deed => (errands deed.thread).fields?).foldl HeaderMap.extend headers

/-- What was handed over in a deed. -/
def Deed.handed (deed : Deed ι (Noted σ)) : List (World σ × Request) :=
  deed.after.journal.handed.drop deed.before.journal.handed.length

/-- What had been done before the first deed of a thread. -/
def Deed.prior [DecidableEq ι] (i : ι) (deeds : List (Deed ι σ)) : List (Deed ι σ) :=
  deeds.takeWhile fun deed => deed.thread ≠ i

section Deeds

variable {errands : ι → Errand} {seen headers : HeaderMap} {deeds more : List (Deed ι (Noted σ))}
  {deed : Deed ι (Noted σ)}

theorem merged_concat :
    merged errands (deeds ++ [deed]) headers =
      ((errands deed.thread).fields?.toList).foldl HeaderMap.extend (merged errands deeds headers) := by
  rw [merged, List.filterMap_append, List.foldl_append]
  cases h : (errands deed.thread).fields? <;> simp [merged, h]

/-- After a deed the defaults are what the merges up to it have made of them. -/
theorem Errand.Did.defaults (did : (errands deed.thread).Did seen deed.before deed.after)
    (before : deed.before.defaults = merged errands deeds headers) :
    deed.after.defaults = merged errands (deeds ++ [deed]) headers := by
  rw [merged_concat, ← before]
  cases h : errands deed.thread with
  | call verb =>
      rw [h] at did
      exact did.1
  | merge fields | copy change =>
      rw [h] at did
      exact congrArg World.defaults did

/-- What a deed has handed over is behind what was handed over before it. -/
theorem Errand.Did.handed (did : (errands deed.thread).Did seen deed.before deed.after) :
    deed.after.journal.handed = deed.before.journal.handed ++ deed.handed := by
  obtain ⟨entries, grown, -⟩ := did.exists_entries
  rw [Deed.handed, grown, List.drop_left]

theorem Errand.Did.exists_verb (did : (errands deed.thread).Did seen deed.before deed.after)
    {entry : World σ × Request} (mem : entry ∈ deed.handed) :
    ∃ verb, errands deed.thread = .call verb ∧ entry.2.headers = verb.dress seen := by
  obtain ⟨entries, grown, carried⟩ := did.exists_entries
  rw [Deed.handed, grown, List.drop_left] at mem
  exact carried entry mem

variable [DecidableEq ι] {i : ι}

theorem Deed.prior_append (h : ∃ deed ∈ deeds, deed.thread = i) :
    Deed.prior i (deeds ++ more) = Deed.prior i deeds := by
  rw [Deed.prior, List.takeWhile_append, if_neg]
  · rfl
  · intro all
    obtain ⟨deed, mem, rfl⟩ := h
    rw [← (List.takeWhile_prefix _).eq_of_length all] at mem
    exact absurd rfl (of_decide_eq_true (List.all_eq_true.mp List.all_takeWhile deed mem))

theorem Deed.prior_concat (fresh : ∀ deed ∈ deeds, deed.thread ≠ i) (h : deed.thread = i) :
    Deed.prior i (deeds ++ [deed]) = deeds := by
  rw [Deed.prior, List.takeWhile_append_of_pos fun deed mem => decide_eq_true (fresh deed mem)]
  simp [h]

/-- A thread that has done something has done something first. -/
theorem Deed.exists_first (mem : deed ∈ deeds) :
    ∃ made, Deed.prior deed.thread deeds ++ [made] <+: deeds ∧ made.thread = deed.thread := by
  induction deeds with
  | nil => cases mem
  | cons first later ih =>
      by_cases same : first.thread = deed.thread
      · refine ⟨first, ?_, same⟩
        simp [Deed.prior, same]
      · rcases List.mem_cons.mp mem with rfl | mem
        · exact absurd rfl same
        · obtain ⟨made, before, thread⟩ := ih mem
          refine ⟨made, ?_, thread⟩
          simpa [Deed.prior, same] using before

end Deeds

variable [DecidableEq ι]

/-- What others may do: anything that neither touches the defaults nor hands over a request. -/
def World.Aside (world later : World (Noted σ)) : Prop :=
  later.defaults = world.defaults ∧ later.journal = world.journal

/-- Threads that are about to run errands with copies of a client. -/
def Client.opening (client : Client σ) (errands : ι → Errand) (world : World σ) :
    Threads ι σ Event Errand.Return :=
  ⟨world, fun i => some ((errands i).task client)⟩

/-- What threads that run errands have done since they were started, and what they have left to do. -/
structure Account (client : Client (Noted σ)) (errands : ι → Errand) (start : World (Noted σ))
    (deeds : List (Deed ι (Noted σ)))
    (threads : Threads ι (Noted σ) Event Errand.Return) : Prop where
  defaults : threads.world.defaults = merged errands deeds start.defaults
  handed : threads.world.journal.handed = start.journal.handed ++ deeds.flatMap Deed.handed
  /-- At each deed the defaults are what the merges before it have made of them, it is one that its
  errand may do, and no merge is done twice. -/
  past : ∀ earlier deed, earlier ++ [deed] <+: deeds →
    deed.before.defaults = merged errands earlier start.defaults ∧
    (errands deed.thread).Did
      (merged errands (Deed.prior deed.thread (earlier ++ [deed])) start.defaults)
      deed.before deed.after ∧
    ∀ fields, errands deed.thread = .merge fields → ∀ other ∈ earlier, other.thread ≠ deed.thread
  /-- A thread has not begun, or has taken the defaults as they were in its first deed. -/
  left : ∀ i task, threads.tasks i = some task →
    (∀ deed ∈ deeds, deed.thread ≠ i) ∧ task = (errands i).task client ∨
    (∃ deed ∈ deeds, deed.thread = i) ∧
      (errands i).Left (merged errands (Deed.prior i deeds) start.defaults) task

namespace Account

variable {client : Client (Noted σ)} {errands : ι → Errand} {start : World (Noted σ)}
  {deeds : List (Deed ι (Noted σ))} {threads : Threads ι (Noted σ) Event Errand.Return}

/-- Nothing has been done yet. -/
theorem opening (client : Client (Noted σ)) (errands : ι → Errand) (start : World (Noted σ)) :
    Account client errands start [] (client.opening errands start) where
  defaults := rfl
  handed := (List.append_nil _).symm
  past earlier deed h := by simp at h
  left i task h := .inl ⟨List.forall_mem_nil _, (Option.some.inj h).symm⟩

/-- One deed more. -/
theorem concat (account : Account client errands start deeds threads) {deed : Deed ι (Noted σ)}
    {task : Option (Task (Noted σ) Event Errand.Return)} (now : deed.before = threads.world)
    (did : (errands deed.thread).Did
      (merged errands (Deed.prior deed.thread (deeds ++ [deed])) start.defaults)
      deed.before deed.after)
    (once : ∀ fields, errands deed.thread = .merge fields →
      ∀ other ∈ deeds, other.thread ≠ deed.thread)
    (left : ∀ next, task = some next → (errands deed.thread).Left
      (merged errands (Deed.prior deed.thread (deeds ++ [deed])) start.defaults) next) :
    Account client errands start (deeds ++ [deed]) (threads.set deed.thread deed.after task) where
  defaults := did.defaults (now ▸ account.defaults)
  handed := by
    have grown : deed.after.journal.handed = threads.world.journal.handed ++ deed.handed :=
      now ▸ did.handed
    rw [Threads.set, grown, account.handed, List.flatMap_append, List.flatMap_singleton,
      List.append_assoc]
  past earlier other h := by
    rcases List.prefix_concat_iff.mp h with last | old
    · obtain ⟨rfl, rfl⟩ := List.append_singleton_inj.mp last
      exact ⟨now ▸ account.defaults, did, once⟩
    · exact account.past earlier other old
  left j other h := by
    by_cases same : j = deed.thread
    · subst same
      refine .inr ⟨⟨_, List.mem_append_right _ (List.mem_singleton.mpr rfl), rfl⟩, left other ?_⟩
      rwa [Threads.tasks_set] at h
    · rw [Threads.tasks_set_of_ne _ _ same] at h
      rcases account.left j other h with ⟨fresh, rfl⟩ | ⟨begun, goesOn⟩
      · refine .inl ⟨fun deed mem => ?_, rfl⟩
        rcases List.mem_append.mp mem with old | new
        · exact fresh deed old
        · obtain rfl := List.mem_singleton.mp new
          exact Ne.symm same
      · obtain ⟨deed, mem, rfl⟩ := begun
        have begun : ∃ other ∈ deeds, other.thread = deed.thread := ⟨deed, mem, rfl⟩
        refine .inr ⟨⟨deed, List.mem_append_left _ mem, rfl⟩, ?_⟩
        rwa [Deed.prior_append begun]

variable {i : ι} {task next : Task (Noted σ) Event Errand.Return} {after later : World (Noted σ)}

/-- An action keeps the account. -/
theorem acted (account : Account client errands start deeds threads)
    (sends : ∀ headers, client.execute.MovesOn (fun request => request.headers = headers)
      (World.Carries headers))
    (h : threads.tasks i = some task) (acts : task.Acts threads.world next after) :
    Account client errands start (deeds ++ [⟨i, threads.world, after⟩])
      (threads.set i after (some next)) := by
  rcases account.left i task h with ⟨fresh, rfl⟩ | ⟨begun, left⟩
  · have seen : Deed.prior i (deeds ++ [⟨i, threads.world, after⟩]) = deeds :=
      Deed.prior_concat fresh rfl
    obtain ⟨did, left⟩ := Errand.did_first sends acts
    rw [account.defaults] at did left
    refine account.concat rfl ?_ (fun _ _ => fresh) ?_
    · rwa [seen]
    · rintro _ ⟨⟩
      rwa [seen]
  · obtain ⟨did, goesOn⟩ := left.acts acts
    refine account.concat rfl ?_ ?_ ?_
    · rwa [Deed.prior_append begun]
    · -- A merge is over after one action.
      intro fields merge
      rw [merge] at left
      obtain ⟨value, rfl⟩ := left
      cases acts
    · rintro _ ⟨⟩
      rwa [Deed.prior_append begun]

/-- So does giving a thread up where it rests. -/
theorem abandoned (account : Account client errands start deeds threads) {wake : Wake (Noted σ)}
    {held : Cleanup (Noted σ) Event} (h : threads.tasks i = some (.rest wake held next)) :
    Account client errands start (deeds ++ [⟨i, threads.world, held.effect threads.world⟩])
      (threads.set i (held.effect threads.world) none) := by
  rcases account.left i _ h with ⟨-, rests⟩ | ⟨begun, left⟩
  · exact absurd rests.symm Errand.task_ne_rest
  · refine account.concat rfl ?_ ?_ nofun
    · rw [Deed.prior_append begun]
      exact left.gives
    · intro fields merge
      rw [merge] at left
      obtain ⟨value, ⟨⟩⟩ := left

/-- What others do is not in the account. -/
theorem aside (account : Account client errands start deeds threads)
    (aside : World.Aside threads.world later) :
    Account client errands start deeds { threads with world := later } where
  defaults := aside.1.trans account.defaults
  handed := (congrArg Journal.handed aside.2).trans account.handed
  past := account.past
  left := account.left

/-- Every run keeps the account. -/
theorem of_runs (sends : ∀ headers, client.execute.MovesOn (fun request => request.headers = headers)
      (World.Carries headers))
    (runs : Threads.Runs World.Aside (client.opening errands start) deeds threads) :
    Account client errands start deeds threads := by
  induction runs with
  | start => exact .opening client errands start
  | acted _ h acts ih => exact ih.acted sends h acts
  | abandoned _ h ih => exact ih.abandoned h
  | others _ quiet ih => exact ih.aside quiet

end Account

/-- In every interleaving of calls, merges and copies made with copies of one client, whatever policies
stand on executors that leave the defaults alone: all requests are handed over by calls, and those of
one call, on its first attempt and on every other one, have the header fields that the call has made of
the defaults as they were in its first action. At every moment the defaults are what the merges so far
have made of them, each merge being done once and as a whole; calls leave them alone, and a copy that
is changed changes nothing. -/
theorem Client.headers_snapshot {run : τ → Executor σ} {client : Client (Noted σ)}
    {stack : Transport τ} {errands : ι → Errand} {start : World (Noted σ)}
    {deeds : List (Deed ι (Noted σ))} {threads : Threads ι (Noted σ) Event Errand.Return}
    (apart : ∀ sender, (run sender).Moves World.SameDefaults)
    (execute : client.execute = stack.execute fun sender => (run sender).recording)
    (runs : Threads.Runs World.Aside (client.opening errands start) deeds threads) :
    threads.world.journal.handed = start.journal.handed ++ deeds.flatMap Deed.handed ∧
    (∀ deed ∈ deeds, ∃ made, Deed.prior deed.thread deeds ++ [made] <+: deeds ∧
      made.thread = deed.thread ∧
      ∀ entry ∈ deed.handed, ∃ verb, errands deed.thread = .call verb ∧
        entry.2.headers = verb.dress made.before.defaults) ∧
    (∀ earlier deed, earlier ++ [deed] <+: deeds →
      deed.before.defaults = merged errands earlier start.defaults ∧
      (∀ verb, errands deed.thread = .call verb →
        deed.after.defaults = deed.before.defaults) ∧
      (∀ fields, errands deed.thread = .merge fields →
        deed.after = { deed.before with defaults := deed.before.defaults.extend fields } ∧
          ∀ other ∈ earlier, other.thread ≠ deed.thread) ∧
      ∀ change, errands deed.thread = .copy change → deed.after = deed.before) ∧
    threads.world.defaults = merged errands deeds start.defaults ∧
    ∀ (verb : Verb) (headers : HeaderMap),
      (∀ target form, verb = .postForm target form →
        (verb.dress headers).getAll contentType = [formType] ∧
          (verb.dress headers).remove contentType = headers.remove contentType) ∧
      ((∀ target form, verb ≠ .postForm target form) → verb.dress headers = headers) := by
  have sends : ∀ headers, client.execute.MovesOn (fun request => request.headers = headers)
      (World.Carries headers) := by
    intro headers
    rw [execute]
    exact stack.movesOn_execute (World.carries_refl headers) (fun _ _ _ => id) fun sender =>
      Executor.movesOn_recording (apart sender) headers
  have account := Account.of_runs sends runs
  refine ⟨account.handed, ?_, ?_, account.defaults, ?_⟩
  · intro deed mem
    obtain ⟨made, before, thread⟩ := Deed.exists_first mem
    refine ⟨made, before, thread, fun entry handed => ?_⟩
    obtain ⟨earlier, later, rfl⟩ := List.append_of_mem mem
    have first : earlier ++ [deed] <+: earlier ++ deed :: later := ⟨later, by simp⟩
    obtain ⟨-, did, -⟩ := account.past earlier deed first
    have seen : Deed.prior deed.thread (earlier ++ deed :: later) =
        Deed.prior deed.thread (earlier ++ [deed]) := by
      rw [List.append_cons]
      exact Deed.prior_append ⟨deed, by simp, rfl⟩
    rw [← seen, ← (account.past _ made before).1] at did
    exact did.exists_verb handed
  · intro earlier deed first
    obtain ⟨before, did, once⟩ := account.past earlier deed first
    refine ⟨before, ?_, ?_, ?_⟩
    · intro verb errand
      rw [errand] at did
      exact did.1
    · intro fields errand
      rw [errand] at did
      exact ⟨did, once fields errand⟩
    · intro change errand
      rw [errand] at did
      exact did
  · intro verb headers
    refine ⟨?_, fun other => Verb.dress_of_ne other headers⟩
    rintro target form rfl
    exact Verb.dress_postForm target form headers

/-- A form is submitted to a site that is overloaded once, and header fields are merged into the defaults
between the two attempts. Both requests have the type of forms, in place of the one that the defaults
have, and the second one has nothing of what was merged. -/
theorem Client.headers_between_attempts :
    let client : Client (Noted Site) := ⟨⟨0, none⟩,
      (Transport.retrying .default .tracing (.base ())).execute fun _ =>
        Site.recoveringExecutor.recording⟩
    let plain : HeaderMap := HeaderMap.empty.insert contentType ⟨Utf8.encode "text/plain"⟩
    let fields : HeaderMap := HeaderMap.empty.insert ⟨"accept"⟩ ⟨Utf8.encode "text/html"⟩
    let errands : Bool → Errand := fun i =>
      if i then .call (.postForm "site:status" .empty) else .merge fields
    let start : World (Noted Site) :=
      World.noted { Site.recoveringWorld with defaults := plain } .empty
    let played := (client.opening errands start).play
      [.inl true, .inr 5000000, .inl true, .inl false, .inr 10000000000, .inl true]
    played.2.world.defaults = plain.extend fields ∧ played.2.world.journal.handed.length = 2 ∧
      ∀ entry ∈ played.2.world.journal.handed,
        entry.2.headers = HeaderMap.empty.insert contentType formType := by
  intro client plain fields errands start played
  refine ⟨by decide +kernel, by decide +kernel, fun entry mem => ?_⟩
  have apart : ∀ _ : Unit, Site.recoveringExecutor.Moves World.SameDefaults := by
    refine fun _ => Script.moves_executor "site" (fun _ => rfl) (fun _ => rfl) ?_
    rintro (_ | token) world <;> rfl
  have waits : ∀ (world : World (Noted Site)) now, World.Aside world { world with now := now } :=
    fun _ _ => ⟨rfl, rfl⟩
  have runs : Threads.Runs World.Aside (client.opening errands start) played.1 played.2 :=
    Threads.runs_play waits _ _
  obtain ⟨handed, calls, past, -⟩ := headers_snapshot apart rfl runs
  have unsent : start.journal.handed = [] := rfl
  rw [handed, unsent, List.nil_append] at mem
  obtain ⟨deed, done, mem⟩ := List.mem_flatMap.mp mem
  obtain ⟨made, first, -, carried⟩ := calls deed done
  obtain ⟨verb, errand, headers⟩ := carried entry mem
  have begins : Deed.prior true played.1 = [] := List.isEmpty_iff.mp (by decide +kernel)
  cases caller : deed.thread with
  | false =>
      rw [caller] at errand
      cases errand
  | true =>
      rw [caller] at errand first
      cases errand
      rw [headers, (past _ made first).1, begins]
      decide +kernel

end ResilientHttp
