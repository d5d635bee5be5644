import Mathlib.Data.List.Induction
import ResilientHttp.Client.Builder

/-!
What a list of settings says, read as a list and not as steps of a builder: what is given last of each
kind, what sends requests, how the built-in executor is tuned, and which retry policy is in force.

* `Settings.Attached`, `Settings.Occupied` — a retry policy is in force; the built-in executor has lost its
  place, to that policy or to what was installed.
* `Settings.Offends`, `Settings.Accepted` — a setting cannot be honoured behind certain others, and with
  what error; all settings of a list can be honoured where they stand.
* `last?_concat`, `attached_concat`, `occupied_concat`, `accepted_concat` — what one more setting does to
  each reading.
-/

namespace ResilientHttp

variable {α β : Type}

namespace Setting

/-- The context that a setting gives. -/
def context? : Setting α → Option Context
  | .context given => some given
  | _ => none

/-- Whether a setting turns logging on or off. -/
def logging? : Setting α → Option Bool
  | .logger _ => some true
  | .logging on => some on
  | _ => none

/-- The sink that a setting gives. -/
def sink? : Setting α → Option Sink
  | .logger given => some given
  | _ => none

/-- The change that a setting makes to the built-in executor. -/
def change? : Setting α → Option TuningChange
  | .tune change => some change
  | _ => none

/-- What a setting installs. -/
def installed? : Setting α → Option (Transport (Sender α))
  | .install transport => some transport
  | _ => none

end Setting

/-- Settings in the order in which they are applied. -/
abbrev Settings (α : Type) := List (Setting α)

namespace Settings

/-- What is given last among what settings give of a kind. -/
def last? (given? : Setting α → Option β) (settings : Settings α) : Option β :=
  (settings.filterMap given?).getLast?

/-- Whether the builder logs: as the last setting says that turns logging on or off. -/
def logging (settings : Settings α) : Bool := (last? Setting.logging? settings).getD false

/-- Where retries are logged: in the last sink that was given. -/
def sink (settings : Settings α) : Sink := (last? Setting.sink? settings).getD .tracing

/-- The built-in executor with all changes made to it. -/
def tuning (settings : Settings α) : Tuning :=
  (settings.filterMap Setting.change?).foldl (fun tuning change => change.apply tuning) .default

/-- What sends requests, retry policies apart: what was installed last, or else the built-in
executor. -/
def base (settings : Settings α) : Transport (Sender α) :=
  (last? Setting.installed? settings).getD (.base (.tuned settings.tuning))

/-- Something was installed. -/
def Installed (settings : Settings α) : Prop := (last? Setting.installed? settings).isSome = true

/-- What sends requests, retry policies apart, can be made: the built-in executor cannot if it was tuned
badly. -/
def Usable (settings : Settings α) : Prop := settings.Installed ∨ settings.tuning.isUsable = true

/-- A retry policy comes behind certain settings, and nothing is installed behind it. -/
def RetriesAfter (settings before : Settings α) (policy : RetryPolicy) : Prop :=
  ∃ behind, settings = before ++ .retry policy :: behind ∧
    ∀ setting ∈ behind, setting.installed? = none

/-- A retry policy is in force: nothing was installed since it was given, and there was something that it
could be put on. -/
def Attached (settings : Settings α) : Prop :=
  ∃ before policy, settings.RetriesAfter before policy ∧ before.Usable

/-- The built-in executor has lost its place to an installed one or to a retry policy. -/
def Occupied (settings : Settings α) : Prop := settings.Installed ∨ settings.Attached

/-- A setting cannot be honoured behind certain others, and the error says why. -/
inductive Offends (settings : Settings α) : Setting α → ClientError → Prop where
  | header {name value : String} :
      HeaderName.ofString? name = none ∨ HeaderValue.ofOctets? (Utf8.encode value) = none →
      Offends settings (.header name value)
        (.invalidRequest ("invalid default header '" ++ name ++ "'"))
  | tune {change : TuningChange} :
      settings.Occupied →
      Offends settings (.tune change)
        (.config ("\x60" ++ change.option ++
          "\x60 must be set before a custom executor or retry policy is installed"))
  | retryTwice {policy : RetryPolicy} :
      settings.Attached →
      Offends settings (.retry policy) (.config "a retry policy is already attached")
  | retryUnusable {policy : RetryPolicy} :
      ¬ settings.Occupied → settings.tuning.isUsable = false →
      Offends settings (.retry policy) (.config "cannot build http client: builder error")

/-- Each setting can be honoured behind those that come before it. -/
def Accepted (settings : Settings α) : Prop :=
  ∀ before setting behind, settings = before ++ setting :: behind →
    ∀ error, ¬ Offends before setting error

/-- The error of the first setting that cannot be honoured. -/
def FirstOffends (settings : Settings α) (error : ClientError) : Prop :=
  ∃ before setting behind, settings = before ++ setting :: behind ∧ before.Accepted ∧
    Offends before setting error

variable {settings before : Settings α} {setting : Setting α} {policy : RetryPolicy}
  {error : ClientError}

/-! ### One more setting -/

theorem last?_concat (given? : Setting α → Option β) :
    last? given? (settings ++ [setting]) = (given? setting).or (last? given? settings) := by
  cases h : given? setting <;> simp [last?, List.filterMap_append, h]

theorem tuning_concat :
    tuning (settings ++ [setting]) =
      (setting.change?.map (·.apply settings.tuning)).getD settings.tuning := by
  cases h : setting.change? <;> simp [tuning, List.filterMap_append, List.foldl_append, h]

theorem installed_concat :
    Installed (settings ++ [setting]) ↔ setting.installed?.isSome = true ∨ settings.Installed := by
  rw [Installed, last?_concat, Option.isSome_or, Bool.or_eq_true, Installed]

theorem retriesAfter_concat :
    RetriesAfter (settings ++ [setting]) before policy ↔
      (settings = before ∧ setting = .retry policy) ∨
        setting.installed? = none ∧ settings.RetriesAfter before policy := by
  constructor
  · rintro ⟨behind, split, quiet⟩
    cases behind using List.reverseRecOn with
    | nil => exact .inl (List.append_singleton_inj.mp split)
    | append_singleton between last =>
        rw [← List.cons_append, ← List.append_assoc] at split
        obtain ⟨rfl, rfl⟩ := List.append_singleton_inj.mp split
        refine .inr ⟨quiet _ List.mem_concat_self, between, rfl, fun setting mem => ?_⟩
        exact quiet setting (List.mem_append_left _ mem)
  · rintro (⟨rfl, rfl⟩ | ⟨installs, behind, rfl, quiet⟩)
    · exact ⟨[], rfl, List.forall_mem_nil _⟩
    · refine ⟨behind ++ [setting], by simp, fun other mem => ?_⟩
      rcases List.mem_append.mp mem with mem | mem
      · exact quiet other mem
      · rwa [List.mem_singleton.mp mem]

theorem attached_concat :
    Attached (settings ++ [setting]) ↔
      ((∃ policy, setting = .retry policy) ∧ settings.Usable) ∨
        setting.installed? = none ∧ settings.Attached := by
  simp only [Attached, retriesAfter_concat]
  constructor
  · rintro ⟨before, policy, ⟨rfl, rfl⟩ | ⟨installs, retries⟩, usable⟩
    · exact .inl ⟨⟨policy, rfl⟩, usable⟩
    · exact .inr ⟨installs, before, policy, retries, usable⟩
  · rintro (⟨⟨policy, rfl⟩, usable⟩ | ⟨installs, before, policy, retries, usable⟩)
    · exact ⟨settings, policy, .inl ⟨rfl, rfl⟩, usable⟩
    · exact ⟨before, policy, .inr ⟨installs, retries⟩, usable⟩

theorem occupied_concat :
    Occupied (settings ++ [setting]) ↔
      setting.installed?.isSome = true ∨ ((∃ policy, setting = .retry policy) ∧ settings.Usable) ∨
        settings.Occupied := by
  rw [Occupied, installed_concat, attached_concat, Occupied]
  cases setting.installed? <;> simp [or_left_comm]

/-- A place in a list with one more setting is the new one, or a place in the list. -/
theorem exists_split_concat {p : Settings α → Setting α → Prop} :
    (∃ before other behind, settings ++ [setting] = before ++ other :: behind ∧ p before other) ↔
      p settings setting ∨
        ∃ before other behind, settings = before ++ other :: behind ∧ p before other := by
  constructor
  · rintro ⟨before, other, behind, split, h⟩
    cases behind using List.reverseRecOn with
    | nil =>
        obtain ⟨rfl, rfl⟩ := List.append_singleton_inj.mp split
        exact .inl h
    | append_singleton between last =>
        rw [← List.cons_append, ← List.append_assoc] at split
        exact .inr ⟨before, other, between, (List.append_singleton_inj.mp split).1, h⟩
  · rintro (h | ⟨before, other, behind, rfl, h⟩)
    · exact ⟨settings, setting, [], rfl, h⟩
    · exact ⟨before, other, behind ++ [setting], by simp, h⟩

theorem accepted_concat :
    Accepted (settings ++ [setting]) ↔
      settings.Accepted ∧ ∀ error, ¬ Offends settings setting error := by
  have accepted_iff : ∀ settings : Settings α, settings.Accepted ↔
      ¬ ∃ before other behind, settings = before ++ other :: behind ∧
        ∃ error, Offends before other error := fun settings => by simp [Accepted]
  rw [accepted_iff, accepted_iff, exists_split_concat, not_or, not_exists, and_comm]

theorem firstOffends_concat :
    FirstOffends (settings ++ [setting]) error ↔
      (settings.Accepted ∧ Offends settings setting error) ∨ settings.FirstOffends error :=
  exists_split_concat

/-- There is a first setting that cannot be honoured, unless all can. -/
theorem exists_firstOffends_iff : (∃ error, settings.FirstOffends error) ↔ ¬ settings.Accepted := by
  constructor
  · rintro ⟨error, before, setting, behind, split, -, offends⟩ accepted
    exact accepted before setting behind split error offends
  · induction settings using List.reverseRecOn with
    | nil => exact fun offended => absurd (fun _ _ _ split => by simp at split) offended
    | append_singleton settings setting ih =>
        intro offended
        simp only [firstOffends_concat]
        by_cases accepted : Accepted settings
        · rw [accepted_concat, not_and_or, not_forall_not] at offended
          obtain ⟨error, offends⟩ := offended.resolve_left (not_not_intro accepted)
          exact ⟨error, .inl ⟨accepted, offends⟩⟩
        · obtain ⟨error, first⟩ := ih accepted
          exact ⟨error, .inr first⟩

/-- A setting that cannot be honoured has one error. -/
theorem Offends.unique {other : ClientError} (h : settings.Offends setting error)
    (h' : settings.Offends setting other) : error = other := by
  cases h with
  | header _ => cases h'; rfl
  | tune _ => cases h'; rfl
  | retryTwice attached =>
      cases h' with
      | retryTwice _ => rfl
      | retryUnusable free _ => exact absurd (.inr attached) free
  | retryUnusable free _ =>
      cases h' with
      | retryTwice attached => exact absurd (.inr attached) free
      | retryUnusable _ _ => rfl

end Settings

end ResilientHttp
