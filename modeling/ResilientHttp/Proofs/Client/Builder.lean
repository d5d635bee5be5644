import ResilientHttp.Proofs.Client.Settings

/-!
Where settings lead a builder, whether or not all of them can be honoured. What a builder has in its place
for what sends requests is what the settings say (`ClientBuilder.Reflects`), and so are its context, its
logging state and its sink (`given_configured`).

* `Reflects.apply`, `reflects_configured` — one more setting keeps that, so it holds of every list.
* `apply_of_offends`, `error_configured` — a setting that cannot be honoured changes nothing but the error,
  and the error that a builder has is that of the first such setting.
-/

namespace ResilientHttp.ClientBuilder

variable {α : Type} {background : Context} {settings : Settings α} {setting : Setting α}
  {builder : ClientBuilder α} {error : ClientError}

/-- The builder after settings, one after the other. -/
def configured (background : Context) (settings : Settings α) : ClientBuilder α :=
  settings.foldl apply (.new background)

theorem configured_concat :
    configured background (settings ++ [setting]) = (configured background settings).apply setting :=
  List.foldl_append

/-! ### What a setting gives -/

/-- A setting changes the context, the logging state and the sink only where it gives one. -/
theorem given_apply (builder : ClientBuilder α) (setting : Setting α) :
    (builder.apply setting).context = setting.context?.getD builder.context ∧
      (builder.apply setting).logging = setting.logging?.getD builder.logging ∧
      (builder.apply setting).sink = setting.sink?.or builder.sink := by
  cases setting with
  | context given => exact ⟨rfl, rfl, rfl⟩
  | header name value =>
      simp only [apply]
      split <;> exact ⟨rfl, rfl, rfl⟩
  | headers fields => exact ⟨rfl, rfl, rfl⟩
  | tune change =>
      simp only [apply]
      split <;> exact ⟨rfl, rfl, rfl⟩
  | install transport => exact ⟨rfl, rfl, rfl⟩
  | logger given => exact ⟨rfl, rfl, rfl⟩
  | logging on => exact ⟨rfl, rfl, rfl⟩
  | retry policy =>
      simp only [apply]
      split
      · exact ⟨rfl, rfl, rfl⟩
      · split <;> exact ⟨rfl, rfl, rfl⟩

/-- The context, the logging state and the sink are those that were given last. -/
theorem given_configured (background : Context) (settings : Settings α) :
    (configured background settings).context =
        (Settings.last? Setting.context? settings).getD background ∧
      (configured background settings).logging = settings.logging ∧
      (configured background settings).sink = Settings.last? Setting.sink? settings := by
  induction settings using List.reverseRecOn with
  | nil => exact ⟨rfl, rfl, rfl⟩
  | append_singleton settings setting ih =>
      obtain ⟨context, logging, sink⟩ := given_apply (configured background settings) setting
      obtain ⟨context', logging', sink'⟩ := ih
      rw [configured_concat, context, logging, sink, context', logging', sink', Settings.logging,
        Settings.logging, Settings.last?_concat, Settings.last?_concat, Settings.last?_concat]
      refine ⟨?_, ?_, rfl⟩
      · cases setting.context? <;> rfl
      · cases setting.logging? <;> rfl

/-! ### The place for what sends requests -/

/-- What is in the place for what sends requests is what settings have put there, whether or not all of
them could be honoured. -/
structure Reflects (settings : Settings α) (builder : ClientBuilder α) : Prop where
  attached : builder.retryAttached = true ↔ settings.Attached
  tuned : ∀ tuning, builder.slot = .tuned tuning → ¬ settings.Occupied ∧ tuning = settings.tuning
  installed : ∀ transport, builder.slot = .installed transport → settings.Occupied ∧
    (¬ settings.Attached → Settings.last? Setting.installed? settings = some transport)

theorem reflects_new (background : Context) : Reflects (α := α) [] (.new background) where
  attached := by simp [new, Settings.Attached, Settings.RetriesAfter]
  tuned := by
    rintro _ ⟨⟩
    simp [Settings.Occupied, Settings.Attached, Settings.RetriesAfter, Settings.Installed,
      Settings.last?, Settings.tuning]
  installed := nofun

/-- A setting that is not for this place, or that comes too late for the built-in executor. -/
theorem Reflects.beside {after : ClientBuilder α} (h : Reflects settings builder)
    (tunes : ∀ tuning, builder.slot = .tuned tuning → setting.change? = none)
    (installs : setting.installed? = none) (retries : ∀ policy, setting ≠ .retry policy)
    (slot : after.slot = builder.slot) (attached : after.retryAttached = builder.retryAttached) :
    Reflects (settings ++ [setting]) after where
  attached := by
    rw [attached, h.attached, Settings.attached_concat]
    simp [installs, retries]
  tuned tuning tuned := by
    rw [slot] at tuned
    rw [Settings.occupied_concat, Settings.tuning_concat, tunes tuning tuned]
    simpa [installs, retries] using h.tuned tuning tuned
  installed transport installed := by
    rw [Settings.occupied_concat, Settings.attached_concat, Settings.last?_concat, installs]
    simpa [retries] using h.installed transport (slot ▸ installed)

/-- While no retry policy is in force, what sends requests is what was installed last or the built-in
executor, if that can be made. -/
theorem Reflects.current_of_not_attached (h : Reflects settings builder)
    (free : ¬ settings.Attached) :
    (settings.Usable → builder.current = .ok settings.base) ∧
      (¬ settings.Usable → ¬ settings.Occupied ∧ settings.tuning.isUsable = false ∧
        builder.current = .error unusable) := by
  unfold current
  cases slot : builder.slot with
  | tuned tuning =>
      obtain ⟨notOccupied, rfl⟩ := h.tuned tuning slot
      have notInstalled : Settings.last? Setting.installed? settings = none := by
        simpa [Settings.Occupied, Settings.Installed, free] using notOccupied
      cases usable : settings.tuning.isUsable <;>
        simp [Settings.Usable, Settings.Installed, Settings.base, notInstalled, usable, notOccupied]
  | installed transport =>
      have last := (h.installed transport slot).2 free
      simp [Settings.Usable, Settings.Installed, Settings.base, last]

/-- A retry policy is put on top of what sends requests, unless one is in force or there is nothing to put it
on. -/
theorem Reflects.retry (h : Reflects settings builder) (policy : RetryPolicy) :
    Reflects (settings ++ [.retry policy]) (builder.apply (.retry policy)) := by
  simp only [ClientBuilder.apply]
  cases attached : builder.retryAttached with
  | true =>
      have already := h.attached.mp attached
      refine ⟨?_, fun tuning slot => ?_, fun transport slot => ?_⟩
      · simp [fail, attached, Settings.attached_concat, Setting.installed?, already]
      · exact absurd (.inr already) (h.tuned tuning slot).1
      · simp [Settings.attached_concat, Setting.installed?, already, Settings.Occupied]
  | false =>
      have free : ¬ settings.Attached := by rw [← h.attached, attached]; exact Bool.false_ne_true
      rw [if_neg Bool.false_ne_true]
      by_cases usable : settings.Usable
      · rw [(h.current_of_not_attached free).1 usable]
        refine ⟨?_, fun tuning slot => ?_, fun transport _ => ?_⟩
        · simp [attach, Settings.attached_concat, usable]
        · cases slot
        · simp [Settings.occupied_concat, Settings.attached_concat, usable]
      · obtain ⟨notOccupied, -, current⟩ := (h.current_of_not_attached free).2 usable
        rw [current]
        refine ⟨?_, fun tuning slot => ?_, fun transport slot => ?_⟩
        · simp [fail, attached, Settings.attached_concat, usable, free]
        · simpa [Settings.occupied_concat, Settings.tuning_concat, usable, Setting.installed?,
            Setting.change?] using h.tuned tuning slot
        · exact absurd (h.installed transport slot).1 notOccupied

/-- Wherever settings have led, one more leads to where it says. -/
theorem Reflects.apply (h : Reflects settings builder) (setting : Setting α) :
    Reflects (settings ++ [setting]) (builder.apply setting) := by
  cases setting with
  | context given => exact h.beside (fun _ _ => rfl) rfl nofun rfl rfl
  | header name value =>
      simp only [ClientBuilder.apply]
      split <;> exact h.beside (fun _ _ => rfl) rfl nofun rfl rfl
  | headers fields => exact h.beside (fun _ _ => rfl) rfl nofun rfl rfl
  | logger given => exact h.beside (fun _ _ => rfl) rfl nofun rfl rfl
  | logging on => exact h.beside (fun _ _ => rfl) rfl nofun rfl rfl
  | tune change =>
      simp only [ClientBuilder.apply]
      split
      · rename_i tuning slot
        obtain ⟨notOccupied, rfl⟩ := h.tuned tuning slot
        refine ⟨?_, ?_, nofun⟩
        · simp [h.attached, Settings.attached_concat, Setting.installed?]
        · rintro _ ⟨⟩
          simp [Settings.occupied_concat, Settings.tuning_concat, Setting.installed?, Setting.change?,
            notOccupied]
      · rename_i transport slot
        exact h.beside (fun _ tuned => by simp [slot] at tuned) rfl nofun rfl rfl
  | install transport =>
      refine ⟨?_, nofun, ?_⟩
      · simp [ClientBuilder.apply, Settings.attached_concat, Setting.installed?]
      · rintro _ ⟨⟩
        simp [Settings.occupied_concat, Settings.last?_concat, Setting.installed?]
  | retry policy => exact h.retry policy

theorem reflects_configured (background : Context) (settings : Settings α) :
    Reflects settings (configured background settings) := by
  induction settings using List.reverseRecOn with
  | nil => exact reflects_new background
  | append_singleton settings setting ih =>
      rw [configured_concat]
      exact ih.apply setting

/-! ### Settings that cannot be honoured -/

theorem headerField?_eq_none_iff {name value : String} :
    headerField? name value = none ↔
      HeaderName.ofString? name = none ∨ HeaderValue.ofOctets? (Utf8.encode value) = none := by
  unfold headerField?
  cases HeaderName.ofString? name <;> cases HeaderValue.ofOctets? (Utf8.encode value) <;> simp

/-- A setting that cannot be honoured leaves its error, unless there is one already, and nothing else. -/
theorem apply_of_offends (offends : settings.Offends setting error) :
    (configured background settings).apply setting = (configured background settings).fail error := by
  have h := reflects_configured background settings
  cases offends with
  | header bad =>
      simp only [apply]
      rw [headerField?_eq_none_iff.mpr bad]
      rfl
  | tune occupied =>
      simp only [apply]
      split
      · exact absurd occupied (h.tuned _ ‹_›).1
      · rfl
  | retryTwice attached =>
      simp only [apply]
      rw [if_pos (h.attached.mpr attached)]
      rfl
  | retryUnusable free bad =>
      have notAttached : ¬ settings.Attached := fun attached => free (.inr attached)
      have notUsable : ¬ settings.Usable := by
        rintro (installed | usable)
        · exact free (.inl installed)
        · simp [bad] at usable
      simp only [apply]
      rw [if_neg (mt h.attached.mp notAttached), ((h.current_of_not_attached notAttached).2 notUsable).2.2]
      rfl

/-- A setting that can be honoured is no error. -/
theorem error_apply_of_not_offends (accepts : ∀ error, ¬ settings.Offends setting error) :
    ((configured background settings).apply setting).error =
      (configured background settings).error := by
  have h := reflects_configured background settings
  cases setting with
  | header name value =>
      simp only [apply]
      split
      · rfl
      · exact absurd (.header (headerField?_eq_none_iff.mp ‹_›)) (accepts _)
  | tune change =>
      simp only [apply]
      split
      · rfl
      · exact absurd (.tune (h.installed _ ‹_›).1) (accepts _)
  | retry policy =>
      simp only [apply]
      split
      · exact absurd (.retryTwice (h.attached.mp ‹_›)) (accepts _)
      · rename_i notAttached
        have free := mt h.attached.mpr notAttached
        by_cases usable : settings.Usable
        · rw [(h.current_of_not_attached free).1 usable]
          rfl
        · obtain ⟨notOccupied, bad, -⟩ := (h.current_of_not_attached free).2 usable
          exact absurd (.retryUnusable notOccupied bad) (accepts _)
  | _ => rfl

/-- A builder keeps the error of the first setting that could not be honoured. -/
theorem error_configured (background : Context) (settings : Settings α) :
    ((configured background settings).error = none ↔ settings.Accepted) ∧
      ∀ error, (configured background settings).error = some error ↔ settings.FirstOffends error := by
  induction settings using List.reverseRecOn with
  | nil => simp [configured, new, Settings.Accepted, Settings.FirstOffends]
  | append_singleton settings setting ih =>
      rw [configured_concat, Settings.accepted_concat]
      simp only [Settings.firstOffends_concat]
      by_cases offended : ∃ error, Settings.Offends settings setting error
      · obtain ⟨error, offends⟩ := offended
        have same : ∀ other, Settings.Offends settings setting other ↔ error = other :=
          fun other => ⟨offends.unique, fun h => h ▸ offends⟩
        rw [apply_of_offends offends, fail]
        cases kept : (configured background settings).error with
        | none =>
            have accepted := ih.1.mp kept
            have noneBefore : ∀ other, ¬ Settings.FirstOffends settings other := by
              intro other first
              simp [kept] at ih
              exact ih.2 other first
            simp [same, accepted, noneBefore]
        | some earlier =>
            have offended : ¬ Settings.Accepted settings := by simp [← ih.1, kept]
            have first := fun other => ih.2 other
            simp [offended, ← first, kept]
      · rw [not_exists] at offended
        rw [error_apply_of_not_offends offended]
        simpa [offended] using ih

end ResilientHttp.ClientBuilder
