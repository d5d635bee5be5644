import ResilientHttp.Proofs.Client.Settings
import ResilientHttp.Proofs.Http.Merging
import ResilientHttp.Task.Laws

/-!
The default header fields of a client, from the builder to the last merge. Whatever gives header fields, a
setting of the builder or a merge of the client, is one more merge into what was there before.

* `ClientBuilder.apply_with_headers` — the step: a setting merges what it gives, and does all else as it
  would with any other header fields. `build_with_headers` says the same of making the client.
* `ClientBuilder.exists_of_header_mem` — where a client is made, no single field was refused.
* `Client.course_mergeEach` — the run of merges on the client.
* `Client.defaults_merged` — both together: each name has the values of the last step that mentions it.
-/

namespace ResilientHttp

variable {α σ : Type}

/-- The header fields that a setting gives. -/
def Setting.fields? : Setting α → Option HeaderMap
  | .header name value =>
    (ClientBuilder.headerField? name value).map fun field => HeaderMap.empty.insert field.1 field.2
  | .headers fields => some fields
  | _ => none

namespace ClientBuilder

variable {builder : ClientBuilder α} {setting : Setting α} {settings : Settings α}

/-- A setting merges the header fields that it gives, and does all else without looking at any. -/
theorem apply_with_headers (builder : ClientBuilder α) (headers : HeaderMap) (setting : Setting α) :
    { builder with headers := headers }.apply setting =
      { builder.apply setting with headers := headers.mergeAll setting.fields?.toList } := by
  cases setting with
  | header name value =>
      simp only [apply, Setting.fields?]
      cases headerField? name value <;> rfl
  | tune change =>
      simp only [apply]
      split <;> rfl
  | retry policy =>
      have same : { builder with headers := headers }.current = builder.current := rfl
      simp only [apply, same]
      split
      · rfl
      · split <;> rfl
  | _ => rfl

theorem foldl_apply_with_headers (builder : ClientBuilder α) (headers : HeaderMap)
    (settings : Settings α) :
    settings.foldl apply { builder with headers := headers } =
      { settings.foldl apply builder with
        headers := headers.mergeAll (settings.filterMap Setting.fields?) } := by
  induction settings generalizing builder headers with
  | nil => rfl
  | cons setting later ih =>
      rw [List.foldl_cons, List.foldl_cons, apply_with_headers, ih, ← HeaderMap.mergeAll_append]
      cases given : setting.fields? <;> simp [given]

/-- The header fields of a builder are all that were given, merged in order. -/
theorem headers_foldl_apply (builder : ClientBuilder α) (settings : Settings α) :
    (settings.foldl apply builder).headers =
      builder.headers.mergeAll (settings.filterMap Setting.fields?) :=
  congrArg ClientBuilder.headers (foldl_apply_with_headers builder builder.headers settings)

/-- A client is made with the header fields of its builder, and nothing else depends on them. -/
theorem build_with_headers (builder : ClientBuilder α) (headers : HeaderMap) :
    { builder with headers := headers }.build =
      builder.build.map fun plan => { plan with headers := headers } := by
  have same : { builder with headers := headers }.current = builder.current := rfl
  simp only [build, same]
  cases builder.error with
  | some error => rfl
  | none => cases builder.current <;> rfl

theorem headers_of_build {plan : ClientPlan α} (built : builder.build = .ok plan) :
    plan.headers = builder.headers := by
  have own := build_with_headers builder builder.headers
  rw [built] at own
  exact congrArg ClientPlan.headers (Except.ok.inj own)

theorem error_fail_ne_none (builder : ClientBuilder α) (error : ClientError) :
    (builder.fail error).error ≠ none := by
  cases kept : builder.error <;> simp [fail, kept]

/-- A builder keeps an error that it has. -/
theorem error_apply_ne_none (h : builder.error ≠ none) (setting : Setting α) :
    (builder.apply setting).error ≠ none := by
  cases setting with
  | header name value | tune change =>
      simp only [apply]
      split
      · exact h
      · exact error_fail_ne_none _ _
  | retry policy =>
      simp only [apply]
      split
      · exact error_fail_ne_none _ _
      · split
        · exact h
        · exact error_fail_ne_none _ _
  | _ => exact h

theorem error_foldl_apply_ne_none (h : builder.error ≠ none) (settings : Settings α) :
    (settings.foldl apply builder).error ≠ none := by
  induction settings generalizing builder with
  | nil => exact h
  | cons setting later ih => exact ih (error_apply_ne_none h setting)

theorem error_of_build {plan : ClientPlan α} (built : builder.build = .ok plan) : builder.error = none := by
  unfold build at built
  split at built
  · cases built
  · assumption

/-- Where a client is made, every single header field that was given is one. -/
theorem exists_of_header_mem {plan : ClientPlan α} {text value : String}
    (built : (settings.foldl apply builder).build = .ok plan) (mem : .header text value ∈ settings) :
    ∃ name content, headerField? text value = some (name, content) := by
  cases valid : headerField? text value with
  | some field => exact ⟨field.1, field.2, rfl⟩
  | none =>
      obtain ⟨before, behind, rfl⟩ := List.append_of_mem mem
      have refused : ((before.foldl apply builder).apply (.header text value)).error ≠ none := by
        simp only [apply, valid]
        exact error_fail_ne_none _ _
      rw [List.foldl_append, List.foldl_cons] at built
      exact absurd (error_of_build built) (error_foldl_apply_ne_none refused behind)

/-- Header fields that are given behind some settings can be left out and merged into what the client starts
with, if no setting behind them gives any. -/
theorem build_without_headers {plan : ClientPlan α} {before behind : Settings α} {fields : HeaderMap}
    (quiet : ∀ setting ∈ behind, setting.fields? = none)
    (built : ((before ++ .headers fields :: behind).foldl apply builder).build = .ok plan) :
    ∃ earlier, ((before ++ behind).foldl apply builder).build = .ok earlier ∧
      plan = { earlier with headers := earlier.headers.extend fields } := by
  have none : behind.filterMap Setting.fields? = [] := List.filterMap_eq_nil_iff.mpr quiet
  have reached : (before ++ .headers fields :: behind).foldl apply builder =
      { (before ++ behind).foldl apply builder with
        headers := ((before ++ behind).foldl apply builder).headers.extend fields } := by
    rw [List.foldl_append, List.foldl_append, List.foldl_cons, headers_foldl_apply _ behind, none]
    exact (foldl_apply_with_headers _ _ behind).trans (by rw [none]; rfl)
  rw [reached, build_with_headers] at built
  cases plain : ((before ++ behind).foldl apply builder).build with
  | error error =>
      rw [plain] at built
      cases built
  | ok earlier =>
      rw [plain] at built
      refine ⟨earlier, rfl, ?_⟩
      rw [headers_of_build plain]
      exact (Except.ok.inj built).symm

end ClientBuilder

namespace Client

/-- Header fields are merged into the defaults, one map after the other. -/
def mergeEach : List HeaderMap → Task σ Event Unit
  | [] => .done ()
  | fields :: later => (mergeHeaders fields).bind fun _ => mergeEach later

theorem course_mergeEach (merges : List HeaderMap) (world : World σ) :
    (mergeEach merges).course world =
      ⟨[], { world with defaults := world.defaults.mergeAll merges }, .value ()⟩ := by
  induction merges generalizing world with
  | nil => rfl
  | cons fields later ih =>
      have once : (mergeHeaders fields : Task σ Event Unit).course world =
          ⟨[], { world with defaults := world.defaults.extend fields }, .value ()⟩ := rfl
      rw [mergeEach, Task.course_bind, once, Course.andThen, ih]
      rfl

/-- A client of a plan merges header fields into its defaults and looks at them. -/
def seenAfter (plan : ClientPlan α) (merges : List HeaderMap) (world : World σ) :
    Course σ Event HeaderMap :=
  ((mergeEach merges).bind fun _ => headers).course { world with defaults := plan.headers }

theorem seenAfter_eq (plan : ClientPlan α) (merges : List HeaderMap) (world : World σ) :
    seenAfter plan merges world =
      ⟨[], { world with defaults := plan.headers.mergeAll merges },
        .value (plan.headers.mergeAll merges)⟩ := by
  rw [seenAfter, Task.course_bind, course_mergeEach]
  rfl

/-- A client is made by settings that are applied to a builder with any header fields, and then header
fields are merged into its defaults. The defaults are in the end what all that gave header fields has made
of those of the builder: a name, whatever the case of its letters, has the values of the last step that
mentions it, in their order, and there are no other names. So merges can be grouped and repeated at will, two
of them can change places if they have no name in common, and one that ends what the builder was given can be
left to the client. -/
theorem defaults_merged {builder : ClientBuilder α} {settings : Settings α} {plan : ClientPlan α}
    (built : (settings.foldl ClientBuilder.apply builder).build = .ok plan) (merges : List HeaderMap)
    (world : World σ) :
    let steps := settings.filterMap Setting.fields? ++ merges
    let final := builder.headers.mergeAll steps
    seenAfter plan merges world = ⟨[], { world with defaults := final }, .value final⟩ ∧
    (∀ before fields behind name, steps = before ++ fields :: behind → name ∈ fields.names →
      (∀ later ∈ behind, name ∉ later.names) → final.getAll name = fields.getAll name) ∧
    (∀ name, (∀ fields ∈ steps, name ∉ fields.names) →
      final.getAll name = builder.headers.getAll name) ∧
    (∀ name, name ∈ final.names ↔
      name ∈ builder.headers.names ∨ ∃ fields ∈ steps, name ∈ fields.names) ∧
    (∀ text value, .header text value ∈ settings → ∃ name content fields,
      ClientBuilder.headerField? text value = some (name, content) ∧
        (Setting.header text value : Setting α).fields? = some fields ∧
          fields.entries = [(name, [content])]) ∧
    (∀ text other : String, text.toList.map Char.toLower = other.toList.map Char.toLower →
      HeaderName.ofString? text = HeaderName.ofString? other) ∧
    (∀ map other fields : HeaderMap,
      (map.extend other).extend fields = map.extend (other.extend fields) ∧
      map.extend map = map ∧ (map.extend other).extend other = map.extend other ∧
      ((∀ name ∈ other.names, name ∉ fields.names) →
        ((map.extend other).extend fields).entries.Perm ((map.extend fields).extend other).entries)) ∧
    ∀ before fields behind, settings = before ++ .headers fields :: behind →
      (∀ setting ∈ behind, setting.fields? = none) →
      ∃ earlier, ((before ++ behind).foldl ClientBuilder.apply builder).build = .ok earlier ∧
        earlier.context = plan.context ∧ earlier.transport = plan.transport ∧
        seenAfter earlier (fields :: merges) world = seenAfter plan merges world := by
  have start : plan.headers = builder.headers.mergeAll (settings.filterMap Setting.fields?) := by
    rw [ClientBuilder.headers_of_build built, ClientBuilder.headers_foldl_apply]
  refine ⟨?_, ?_, fun name => HeaderMap.getAll_mergeAll_of_none, fun name => HeaderMap.mem_names_mergeAll,
    ?_, fun _ _ => HeaderName.ofString?_congr, ?_, ?_⟩
  · rw [seenAfter_eq, start, ← HeaderMap.mergeAll_append]
  · rintro before fields behind name split mem last
    rw [split]
    exact HeaderMap.getAll_mergeAll_of_last mem last
  · intro text value mem
    obtain ⟨name, content, valid⟩ := ClientBuilder.exists_of_header_mem built mem
    exact ⟨name, content, HeaderMap.empty.insert name content, valid, by rw [Setting.fields?, valid]; rfl, rfl⟩
  · intro map other fields
    exact ⟨map.extend_assoc other fields, map.extend_self, map.extend_extend_self other,
      HeaderMap.extend_perm_of_disjoint⟩
  · rintro before fields behind rfl quiet
    obtain ⟨earlier, plain, rfl⟩ := ClientBuilder.build_without_headers quiet built
    refine ⟨earlier, plain, rfl, rfl, ?_⟩
    rw [seenAfter_eq, seenAfter_eq]
    rfl

/-- A field is set twice by its name in different cases, with two values merged in between; another one gets
two values on the client. The builder's last merge could as well be the client's first. -/
theorem defaults_merged_twice :
    let fields (name : String) (values : List String) : HeaderMap :=
      HeaderMap.empty.put ⟨name⟩ (values.map fun value => ⟨Utf8.encode value⟩)
    let settings : Settings String := [.header "Accept" "1", .headers (fields "accept" ["2", "3"]),
      .header "ACCEPT" "4", .headers (fields "via" ["5"]), .install (.base (.custom "site"))]
    let world : World Unit := ⟨0, none, .empty, .empty, ()⟩
    ∃ (plan earlier : ClientPlan String) (final : HeaderMap),
      (settings.foldl ClientBuilder.apply (.new ⟨0, none⟩)).build = .ok plan ∧
      (seenAfter plan [fields "via" ["6", "7"]] world).outcome = .value final ∧
      final.getAll ⟨"accept"⟩ = [⟨Utf8.encode "4"⟩] ∧
      final.getAll ⟨"via"⟩ = [⟨Utf8.encode "6"⟩, ⟨Utf8.encode "7"⟩] ∧
      final.getAll ⟨"host"⟩ = [] ∧
      ((final.extend (fields "accept" ["8"])).extend (fields "host" ["9"])).entries.Perm
        ((final.extend (fields "host" ["9"])).extend (fields "accept" ["8"])).entries ∧
      seenAfter earlier [fields "via" ["5"], fields "via" ["6", "7"]] world =
        seenAfter plan [fields "via" ["6", "7"]] world := by
  intro fields settings world
  have first : ClientBuilder.headerField? "Accept" "1" = some (⟨"accept"⟩, ⟨Utf8.encode "1"⟩) := by decide
  have last : ClientBuilder.headerField? "ACCEPT" "4" = some (⟨"accept"⟩, ⟨Utf8.encode "4"⟩) := by decide
  obtain ⟨plan, built⟩ :
      ∃ plan, (settings.foldl ClientBuilder.apply (.new ⟨0, none⟩)).build = .ok plan := by
    simp [settings, ClientBuilder.apply, first, last, ClientBuilder.build, ClientBuilder.current,
      ClientBuilder.new]
  obtain ⟨seen, values, kept, -, -, -, algebra, moved⟩ :=
    defaults_merged built [fields "via" ["6", "7"]] world
  have given : settings.filterMap Setting.fields? =
      [fields "accept" ["1"], fields "accept" ["2", "3"], fields "accept" ["4"], fields "via" ["5"]] := by
    simp only [settings, List.filterMap_cons, List.filterMap_nil, Setting.fields?, first, last]
    rfl
  rw [given] at seen values kept
  obtain ⟨earlier, -, -, -, same⟩ :=
    moved (settings.take 3) (fields "via" ["5"]) (settings.drop 4) rfl (by simp [settings, Setting.fields?])
  refine ⟨plan, earlier, _, built, congrArg Course.outcome seen, ?_, ?_, ?_, ?_, same⟩
  · exact values [fields "accept" ["1"], fields "accept" ["2", "3"]] (fields "accept" ["4"])
      [fields "via" ["5"], fields "via" ["6", "7"]] _ rfl (by decide) (by decide)
  · exact values [fields "accept" ["1"], fields "accept" ["2", "3"], fields "accept" ["4"],
      fields "via" ["5"]] (fields "via" ["6", "7"]) [] _ rfl (by decide) (by decide)
  · exact kept _ (by decide)
  · exact (algebra _ _ _).2.2.2 (by decide)

end Client
end ResilientHttp
