import ResilientHttp.Proofs.Client.Builder

/-!
What comes of settings. `ClientBuilder.build_eq_error_iff` says when no client can be made of them, and with
what error; `ClientBuilder.plan_of_build` says which client is made if one can be.
-/

namespace ResilientHttp.ClientBuilder

variable {α : Type} {background : Context} {settings before behind : Settings α} {setting : Setting α}
  {policy : RetryPolicy} {builder : ClientBuilder α} {error : ClientError}
  {transport : Transport (Sender α)} {plan : ClientPlan α}

/-! ### Errors -/

/-- Where all settings could be honoured, only what sends requests may still be missing. -/
theorem build_eq_error_of_accepted (accepted : settings.Accepted) :
    (configured background settings).build = .error error ↔
      (configured background settings).current = .error error := by
  rw [build, (error_configured background settings).1.mpr accepted]
  dsimp only
  cases (configured background settings).current with
  | error missing => exact ⟨fun | rfl => rfl, fun | rfl => rfl⟩
  | ok transport => exact iff_of_false nofun nofun

/-- What sends requests is missing only if it is the built-in executor, tuned badly. -/
theorem current_configured_eq_error_iff :
    (configured background settings).current = .error error ↔
      ¬ settings.Occupied ∧ settings.tuning.isUsable = false ∧ error = unusable := by
  have h := reflects_configured background settings
  unfold current
  cases slot : (configured background settings).slot with
  | tuned tuning =>
      obtain ⟨notOccupied, rfl⟩ := h.tuned tuning slot
      cases usable : settings.tuning.isUsable <;> simp [usable, notOccupied, eq_comm]
  | installed transport => simp [(h.installed transport slot).1]

theorem build_eq_error (background : Context) (settings : Settings α) (error : ClientError) :
    (configured background settings).build = .error error ↔
      settings.FirstOffends error ∨
        settings.Accepted ∧ ¬ settings.Occupied ∧ settings.tuning.isUsable = false ∧
          error = unusable := by
  obtain ⟨none_iff, first⟩ := error_configured background settings
  rw [← first]
  cases kept : (configured background settings).error with
  | none =>
      have accepted := none_iff.mp kept
      rw [build_eq_error_of_accepted accepted, current_configured_eq_error_iff]
      simp [accepted]
  | some earlier =>
      have notAccepted : ¬ settings.Accepted := by simp [← none_iff, kept]
      rw [build, kept]
      simp [notAccepted]

/-- No client is made of settings if and only if one of them cannot be honoured where it stands, or the
built-in executor is left in its place and cannot be made as it was tuned. The error is that of the first
setting that cannot be honoured, whatever comes behind it; and such a setting leaves its error, if it is the
first one, and everything else as it was. -/
theorem build_eq_error_iff (background : Context) (settings : Settings α) :
    (∀ error, (configured background settings).build = .error error ↔
      settings.FirstOffends error ∨
        settings.Accepted ∧ ¬ settings.Occupied ∧ settings.tuning.isUsable = false ∧
          error = .config "cannot build http client: builder error") ∧
    ((∃ error, (configured background settings).build = .error error) ↔
      (∃ before setting behind error, settings = before ++ setting :: behind ∧
        Settings.Offends before setting error) ∨
        ¬ settings.Occupied ∧ settings.tuning.isUsable = false) ∧
    ∀ setting error, settings.Offends setting error →
      configured background (settings ++ [setting]) =
        { configured background settings with
          error := (configured background settings).error <|> some error } := by
  refine ⟨build_eq_error background settings, ?_, fun setting error offends => ?_⟩
  · have offended : (∃ before setting behind error, settings = before ++ setting :: behind ∧
        Settings.Offends before setting error) ↔ ¬ settings.Accepted := by simp [Settings.Accepted]
    rw [offended]
    simp only [build_eq_error, exists_or, Settings.exists_firstOffends_iff]
    by_cases accepted : settings.Accepted <;> simp [accepted]
  · rw [configured_concat, apply_of_offends offends, fail]

/-- An option for the built-in executor comes after a custom one was installed. -/
theorem build_tuned_too_late :
    let settings : Settings String := [.install (.base (.custom "site")), .retry .default]
    let late : Setting String := .tune (.timeout .zero)
    let error : ClientError := .config
      "\x60timeout\x60 must be set before a custom executor or retry policy is installed"
    settings.Offends late error ∧
      Settings.FirstOffends (settings ++ [late, .retry .default, .logging true]) error ∧
      configured ⟨0, none⟩ (settings ++ [late]) =
        { configured ⟨0, none⟩ settings with error := some error } := by
  intro settings late error
  have offends : settings.Offends late error := .tune (.inl rfl)
  refine ⟨offends, ?_, (build_eq_error_iff ⟨0, none⟩ settings).2.2 late error offends⟩
  have law := build_eq_error_iff ⟨0, none⟩ (settings ++ [late, .retry .default, .logging true])
  refine ((law.1 error).mp rfl).resolve_right ?_
  rintro ⟨-, -, -, unusable⟩
  exact absurd (ClientError.config.inj unusable) (by decide)

/-! ### Clients -/

/-- A client is made where all settings could be honoured. -/
theorem of_build (h : (configured background settings).build = .ok plan) :
    settings.Accepted ∧ plan.context = (configured background settings).context ∧
      (configured background settings).current = .ok plan.transport := by
  unfold build at h
  cases kept : (configured background settings).error with
  | some error =>
      rw [kept] at h
      cases h
  | none =>
      rw [kept] at h
      refine ⟨(error_configured background settings).1.mp kept, ?_⟩
      cases current : (configured background settings).current with
      | error error =>
          rw [current] at h
          cases h
      | ok transport =>
          rw [current] at h
          cases h
          exact ⟨rfl, rfl⟩

theorem transport_of_not_attached (free : ¬ settings.Attached)
    (current : (configured background settings).current = .ok transport) :
    transport = settings.base := by
  have h := (reflects_configured background settings).current_of_not_attached free
  by_cases usable : settings.Usable
  · rw [h.1 usable] at current
    exact (Except.ok.inj current).symm
  · rw [(h.2 usable).2.2] at current
    cases current

/-- A retry policy is put on top of what sends requests. -/
theorem configured_retry (background : Context) (free : ¬ settings.Attached)
    (usable : settings.Usable) (policy : RetryPolicy) :
    ((configured background settings).apply (.retry policy)).retryAttached = true ∧
      ((configured background settings).apply (.retry policy)).slot =
        .installed (.retrying { policy with logging := policy.logging || settings.logging }
          settings.sink settings.base) := by
  have h := reflects_configured background settings
  obtain ⟨-, logging, sink⟩ := given_configured background settings
  simp only [apply]
  rw [if_neg (mt h.attached.mp free), (h.current_of_not_attached free).1 usable]
  refine ⟨rfl, ?_⟩
  simp only [attach, logging, sink, Settings.sink]

/-- Once a retry policy is in force, nothing but an installation puts anything in its place. -/
theorem slot_foldl_of_attached (attached : builder.retryAttached = true)
    (quiet : ∀ setting ∈ behind, setting.installed? = none)
    (slot : builder.slot = .installed transport) :
    (behind.foldl apply builder).slot = .installed transport := by
  induction behind generalizing builder with
  | nil => exact slot
  | cons setting behind ih =>
      obtain ⟨first, quiet⟩ := List.forall_mem_cons.mp quiet
      have kept : (builder.apply setting).retryAttached = true ∧
          (builder.apply setting).slot = .installed transport := by
        cases setting with
        | install other => cases first
        | header name value =>
            simp only [apply]
            split <;> exact ⟨attached, slot⟩
        | tune change =>
            simp only [apply, slot]
            exact ⟨attached, slot⟩
        | retry policy =>
            simp only [apply, if_pos attached]
            exact ⟨attached, slot⟩
        | _ => exact ⟨attached, slot⟩
      exact ih kept.1 quiet kept.2

/-- Where all settings can be honoured, none behind a retry policy is for the built-in executor. -/
theorem change?_of_accepted (accepted : settings.Accepted)
    (split : settings = before ++ .retry policy :: behind)
    (quiet : ∀ setting ∈ behind, setting.installed? = none) (usable : before.Usable) :
    ∀ setting ∈ behind, setting.change? = none := by
  intro setting mem
  obtain ⟨between, later, rfl⟩ := List.append_of_mem mem
  have attached : Settings.Attached (before ++ .retry policy :: between) := by
    refine ⟨before, policy, ⟨between, rfl, fun other mem => ?_⟩, usable⟩
    exact quiet other (List.mem_append_left _ mem)
  have accepts := accepted (before ++ .retry policy :: between) setting later (by simp [split])
  cases setting with
  | tune change => exact absurd (.tune (.inr attached)) (accepts _)
  | _ => rfl

/-- What is given of a kind by none of the last settings was given by those before. -/
theorem filterMap_of_quiet {β : Type} {given? : Setting α → Option β}
    (none_of_retry : given? (.retry policy) = none)
    (quiet : ∀ setting ∈ behind, given? setting = none) :
    (before ++ .retry policy :: behind).filterMap given? = before.filterMap given? := by
  rw [List.filterMap_append, List.filterMap_cons_none none_of_retry,
    List.filterMap_eq_nil_iff.mpr quiet, List.append_nil]

/-- The client that is made of settings. It has the context that was given last. If no retry policy comes
behind the last installation, then it sends requests through what was installed last, and if nothing was
installed through the built-in executor with all changes made to it in order. A retry policy that comes
there is put on top of that, once, to log if it says so or if the builder logged at that moment, in the sink
that was given last before it; what comes behind makes no difference. -/
theorem plan_of_build (h : (configured background settings).build = .ok plan) :
    plan.context = (Settings.last? Setting.context? settings).getD background ∧
    ((∀ before policy, ¬ settings.RetriesAfter before policy) → plan.transport = settings.base) ∧
    ∀ before policy, settings.RetriesAfter before policy →
      settings.base = before.base ∧
      plan.transport = .retrying { policy with logging := policy.logging || before.logging }
        before.sink before.base := by
  obtain ⟨accepted, context, current⟩ := of_build h
  refine ⟨context.trans (given_configured background settings).1, fun free => ?_, ?_⟩
  · have notAttached : ¬ settings.Attached := fun ⟨before, policy, retries, _⟩ =>
      free before policy retries
    exact transport_of_not_attached notAttached current
  · rintro before policy ⟨behind, rfl, quiet⟩
    have accepts := accepted before (.retry policy) behind rfl
    have notAttached : ¬ before.Attached := fun attached => accepts _ (.retryTwice attached)
    have usable : before.Usable := by
      by_contra notUsable
      obtain ⟨free, bad, -⟩ :=
        ((reflects_configured background before).current_of_not_attached notAttached).2 notUsable
      exact accepts _ (.retryUnusable free bad)
    have sameBase : Settings.base (before ++ .retry policy :: behind) = before.base := by
      have untuned := change?_of_accepted accepted rfl quiet usable
      rw [Settings.base, Settings.last?, Settings.tuning, filterMap_of_quiet rfl quiet,
        filterMap_of_quiet rfl untuned]
      rfl
    refine ⟨sameBase, ?_⟩
    obtain ⟨attached, slot⟩ := configured_retry background notAttached usable policy
    have kept := slot_foldl_of_attached attached quiet slot
    rw [configured, ← List.foldl_cons, ← List.foldl_append] at kept
    rw [ClientBuilder.current, configured, kept] at current
    exact (Except.ok.inj current).symm

/-- A custom executor takes the place of another one with its retry policy, and gets a policy of its own. -/
theorem plan_of_reinstalled :
    let settings : Settings String :=
      [.install (.base (.custom "first")), .retry .default, .install (.base (.custom "second")),
        .logger (.named "sink"), .retry .default, .logging false, .context ⟨1, some 5⟩]
    ∃ plan, (configured ⟨0, none⟩ settings).build = .ok plan ∧ plan.context = ⟨1, some 5⟩ ∧
      plan.transport = .retrying { RetryPolicy.default with logging := true } (.named "sink")
        (.base (.custom "second")) := by
  intro settings
  obtain ⟨plan, built⟩ : ∃ plan, (configured ⟨0, none⟩ settings).build = .ok plan := ⟨_, rfl⟩
  have law := plan_of_build built
  have retries : settings.RetriesAfter (settings.take 4) .default :=
    ⟨[.logging false, .context ⟨1, some 5⟩], rfl, by simp [Setting.installed?]⟩
  exact ⟨plan, built, law.1, (law.2.2 _ _ retries).2⟩

end ResilientHttp.ClientBuilder
