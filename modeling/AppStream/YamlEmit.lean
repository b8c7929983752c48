import AppStream.YamlLoad

namespace AppStream

/-- Modelled from the spec: `as_yaml_emit_entry` (as-yaml.c) writes `key: value`, and nothing for
a `NULL` value. -/
def asYamlEmitEntry (key : String) (value : Option String) : List YamlNode :=
  match value with
  | some v => [.mk (some key) [.mk (some v) []]]
  | none => []

/-- Modelled from the spec: `as_yaml_emit_entry_timestamp` (as-yaml.c) writes the `guint64` in
decimal. -/
def asYamlEmitEntryTimestamp (key : String) (unixtime : UInt64) : List YamlNode :=
  [.mk (some key) [.mk (some (String.mk (decimalDigits unixtime.toNat))) []]]

section Writer

variable {Issue Artifact : Type} (c : YamlCodec Issue Artifact)

/-- The entries of the mapping `as_release_emit_yaml` writes, in order, as the YAML reader builds
them back. -/
def releaseYamlEntries (release : AsRelease Issue Artifact) (ctx : AsContext) : List YamlNode :=
  asYamlEmitEntry "version" release.version ++
  asYamlEmitEntry "type" (some (asReleaseKindToString release.kind)) ++
  (if 0 < release.timestamp then
    if ctx.style = .catalog then asYamlEmitEntryTimestamp "unix-timestamp" release.timestamp
    else asYamlEmitEntry "date"
      (gDateTimeFormatIso8601 (gDateTimeNewFromUnixUtc (gint64OfGuint64 release.timestamp)))
  else []) ++
  asYamlEmitEntry "date-eol" release.dateEol ++
  (if release.urgency ≠ .unknown then
    asYamlEmitEntry "urgency" (some (asUrgencyKindToString release.urgency)) else []) ++
  c.emitLongLocalizedEntry "description" release.description ++
  (if release.urlDetails ≠ none then
    [.mk (some "url") (asYamlEmitEntry (asReleaseUrlKindToString .details) release.urlDetails)]
  else []) ++
  (if 0 < release.issues.length then
    [.mk (some "issues") (release.issues.map (c.issueEmitYaml ctx))] else []) ++
  (if 0 < release.artifacts.length then
    [.mk (some "artifacts") (release.artifacts.map (c.artifactEmitYaml ctx))] else [])

/-- The entry `as_release_emit_yaml` writes for a list field; an empty field writes none. -/
def yamlListEntry (ctx : AsContext) (f : ListField) (release : AsRelease Issue Artifact) : List YamlNode :=
  if 0 < (f.get release).length then [.mk (some f.tag) ((f.get release).map (c.emitEntry ctx f))] else []

/-- `as_release_emit_yaml`: the release mapping, as the YAML reader builds it back. -/
def asReleaseEmitYaml (release : AsRelease Issue Artifact) (ctx : AsContext) : YamlNode :=
  .mk none (releaseYamlEntries c release ctx)

/-- What the release code needs of its collaborators for its YAML to read back. The description
writer emits at most one entry, keyed `description`, and nothing for an empty table; its reader
undoes it under a context that reads all locales; and each list value's reader undoes its writer. -/
structure YamlCodec.Lawful : Prop where
  description_entry : ∀ t, (t.entries = [] ∧ c.emitLongLocalizedEntry "description" t = []) ∨
    ∃ n, c.emitLongLocalizedEntry "description" t = [n] ∧ asYamlNodeGetKey n = some "description"
  description_parse : ∀ ctx t n, ctx.localeUseAll = true → c.emitLongLocalizedEntry "description" t = [n] →
    (c.setLocalizedTable ctx n .empty).lookup = t.lookup
  entry_round_trip : ∀ ctx f x, c.loadEntry ctx f (c.emitEntry ctx f x) = some x

/-- What a release read back from its own YAML mapping keeps: the fields as they were, the
description under a context that reads all locales, and the instant as the style carries it:
through `atol`, which saturates at `LONG_MAX` of a 64-bit `long`, in catalog style, and through
a GLib date, lost outside years 1 to 9999, otherwise. -/
structure YamlReload (ctx : AsContext) (r release : AsRelease Issue Artifact) : Prop where
  kind : r.kind = release.kind
  version : r.version = release.version
  dateEol : r.dateEol = release.dateEol
  urgency : r.urgency = release.urgency
  urlDetails : r.urlDetails = release.urlDetails
  description : ctx.localeUseAll = true → r.description.lookup = release.description.lookup
  issues : r.issues = release.issues
  artifacts : r.artifacts = release.artifacts
  timestamp_catalog : ctx.style = .catalog →
    r.timestamp = if release.timestamp.toNat < 2 ^ 63 then release.timestamp else guint64OfInt longMax
  timestamp_metainfo : ctx.style ≠ .catalog →
    r.timestamp = if InGDateTimeRange release.timestamp then release.timestamp else 0

end Writer

theorem filter_key_of_all {l : List YamlNode} {a : String} (h : ∀ n ∈ l, asYamlNodeGetKey n = some a)
    (Q : Option String → Prop) [DecidablePred Q] :
    l.filter (fun n => Q (asYamlNodeGetKey n)) = if Q (some a) then l else [] := by
  split
  · exact List.filter_eq_self.mpr fun n hn => by simpa [h n hn]
  · exact List.filter_eq_nil_iff.mpr fun n hn => by simpa [h n hn]

theorem asYamlEmitEntry_keys (k : String) (v : Option String) :
    ∀ n ∈ asYamlEmitEntry k v, asYamlNodeGetKey n = some k := by
  cases v <;> simp [asYamlEmitEntry]

theorem asYamlEmitEntryTimestamp_keys (k : String) (t : UInt64) :
    ∀ n ∈ asYamlEmitEntryTimestamp k t, asYamlNodeGetKey n = some k := by
  simp [asYamlEmitEntryTimestamp]

theorem singleton_keys (k : String) (cs : List YamlNode) :
    ∀ n ∈ [YamlNode.mk (some k) cs], asYamlNodeGetKey n = some k := by
  simp

theorem yamlListEntry_keys {Issue Artifact : Type} (c : YamlCodec Issue Artifact) (ctx : AsContext)
    (f : ListField) (release : AsRelease Issue Artifact) :
    ∀ n ∈ yamlListEntry c ctx f release, asYamlNodeGetKey n = some f.tag := by
  unfold yamlListEntry
  split <;> simp

theorem ite_keys {l : List YamlNode} {a : String} (p : Prop) [Decidable p]
    (h : ∀ n ∈ l, asYamlNodeGetKey n = some a) : ∀ n ∈ (if p then l else []), asYamlNodeGetKey n = some a := by
  split
  · exact h
  · simp

section RoundTrip

variable {Issue Artifact : Type} (c : YamlCodec Issue Artifact) (release : AsRelease Issue Artifact)
  (ctx : AsContext)

/-- The emitted entries with the instant's entry split by style, so that each group has one key. -/
theorem releaseYamlEntries_eq :
    releaseYamlEntries c release ctx =
      asYamlEmitEntry "version" release.version ++
      asYamlEmitEntry "type" (some (asReleaseKindToString release.kind)) ++
      (if 0 < release.timestamp ∧ ctx.style = .catalog then
        asYamlEmitEntryTimestamp "unix-timestamp" release.timestamp else []) ++
      (if 0 < release.timestamp ∧ ctx.style ≠ .catalog then asYamlEmitEntry "date"
        (gDateTimeFormatIso8601 (gDateTimeNewFromUnixUtc (gint64OfGuint64 release.timestamp))) else []) ++
      asYamlEmitEntry "date-eol" release.dateEol ++
      (if release.urgency ≠ .unknown then
        asYamlEmitEntry "urgency" (some (asUrgencyKindToString release.urgency)) else []) ++
      c.emitLongLocalizedEntry "description" release.description ++
      (if release.urlDetails ≠ none then
        [.mk (some "url") (asYamlEmitEntry (asReleaseUrlKindToString .details) release.urlDetails)]
      else []) ++
      yamlListEntry c ctx .issues release ++ yamlListEntry c ctx .artifacts release := by
  unfold releaseYamlEntries yamlListEntry
  by_cases ht : 0 < release.timestamp <;> by_cases hs : ctx.style = .catalog <;>
    simp [ht, hs, ListField.get, ListField.tag, YamlCodec.emitEntry]

variable {c} (hc : c.Lawful) {ctx}
include hc

/-- Selecting the emitted entries by key keeps, for each key, its own group alone. -/
theorem releaseYamlEntries_filter (Q : Option String → Prop) [DecidablePred Q] :
    (releaseYamlEntries c release ctx).filter (fun n => Q (asYamlNodeGetKey n)) =
      (if Q (some "version") then asYamlEmitEntry "version" release.version else []) ++
      (if Q (some "type") then asYamlEmitEntry "type" (some (asReleaseKindToString release.kind))
        else []) ++
      (if Q (some "unix-timestamp") then (if 0 < release.timestamp ∧ ctx.style = .catalog then
        asYamlEmitEntryTimestamp "unix-timestamp" release.timestamp else []) else []) ++
      (if Q (some "date") then (if 0 < release.timestamp ∧ ctx.style ≠ .catalog then asYamlEmitEntry "date"
        (gDateTimeFormatIso8601 (gDateTimeNewFromUnixUtc (gint64OfGuint64 release.timestamp))) else [])
        else []) ++
      (if Q (some "date-eol") then asYamlEmitEntry "date-eol" release.dateEol else []) ++
      (if Q (some "urgency") then (if release.urgency ≠ .unknown then
        asYamlEmitEntry "urgency" (some (asUrgencyKindToString release.urgency)) else []) else []) ++
      (if Q (some "description") then c.emitLongLocalizedEntry "description" release.description
        else []) ++
      (if Q (some "url") then (if release.urlDetails ≠ none then
        [.mk (some "url") (asYamlEmitEntry (asReleaseUrlKindToString .details) release.urlDetails)]
        else []) else []) ++
      (if Q (some "issues") then yamlListEntry c ctx .issues release else []) ++
      (if Q (some "artifacts") then yamlListEntry c ctx .artifacts release else []) := by
  have hd : ∀ n ∈ c.emitLongLocalizedEntry "description" release.description,
      asYamlNodeGetKey n = some "description" := by
    rcases hc.description_entry release.description with ⟨-, h⟩ | ⟨n, h, hn⟩
    · simp [h]
    · simp [h, hn]
  rw [releaseYamlEntries_eq]
  simp only [List.filter_append]
  rw [filter_key_of_all (asYamlEmitEntry_keys _ _) Q, filter_key_of_all (asYamlEmitEntry_keys _ _) Q,
    filter_key_of_all (ite_keys _ (asYamlEmitEntryTimestamp_keys _ _)) Q,
    filter_key_of_all (ite_keys _ (asYamlEmitEntry_keys _ _)) Q,
    filter_key_of_all (asYamlEmitEntry_keys _ _) Q,
    filter_key_of_all (ite_keys _ (asYamlEmitEntry_keys _ _)) Q, filter_key_of_all hd Q,
    filter_key_of_all (ite_keys _ (singleton_keys _ _)) Q,
    filter_key_of_all (yamlListEntry_keys c ctx .issues release) Q,
    filter_key_of_all (yamlListEntry_keys c ctx .artifacts release) Q]
  rfl

/-- Selecting the entries of a list field's key keeps that field's entry alone. -/
theorem releaseYamlEntries_filter_list (f : ListField) :
    (releaseYamlEntries c release ctx).filter (fun n => asYamlNodeGetKey n = some f.tag) =
      yamlListEntry c ctx f release := by
  rw [releaseYamlEntries_filter release hc (· = some f.tag)]
  cases f <;> simp [ListField.tag]

/-- The emitted mapping gives `atol` a value for every `unix-timestamp` key. -/
theorem releaseYamlEntries_no_fault :
    ∀ n ∈ releaseYamlEntries c release ctx,
      ¬(asYamlNodeGetKey n = some "unix-timestamp" ∧ asYamlNodeGetValue n = none) := by
  rintro n hn ⟨hk, hv⟩
  have hf : n ∈ (releaseYamlEntries c release ctx).filter (asYamlNodeGetKey · = some "unix-timestamp") :=
    List.mem_filter.mpr ⟨hn, decide_eq_true hk⟩
  rw [releaseYamlEntries_filter release hc (· = some "unix-timestamp")] at hf
  simp [asYamlEmitEntryTimestamp, ListField.tag] at hf
  obtain ⟨-, rfl⟩ := hf
  simp at hv

variable {r : AsRelease Issue Artifact}
  (h : asReleaseLoadFromYaml c ctx asReleaseNew (asReleaseEmitYaml c release ctx) = .ok r)
include h

theorem loadFromYaml_emitYaml_kind : r.kind = release.kind := by
  rw [asReleaseLoadFromYaml_kind c ctx h, asReleaseEmitYaml, YamlNode.children_mk,
    releaseYamlEntries_filter release hc (· = some "type")]
  simp [asYamlEmitEntry]

theorem loadFromYaml_emitYaml_version : r.version = release.version := by
  rw [asReleaseLoadFromYaml_version c ctx h, asReleaseEmitYaml, YamlNode.children_mk,
    releaseYamlEntries_filter release hc (· = some "version")]
  cases release.version <;> simp [asYamlEmitEntry, asReleaseNew]

theorem loadFromYaml_emitYaml_dateEol : r.dateEol = release.dateEol := by
  rw [asReleaseLoadFromYaml_dateEol c ctx h, asReleaseEmitYaml, YamlNode.children_mk,
    releaseYamlEntries_filter release hc (· = some "date-eol")]
  cases release.dateEol <;> simp [asYamlEmitEntry, asReleaseNew]

theorem loadFromYaml_emitYaml_urgency : r.urgency = release.urgency := by
  rw [asReleaseLoadFromYaml_urgency c ctx h, asReleaseEmitYaml, YamlNode.children_mk,
    releaseYamlEntries_filter release hc (· = some "urgency")]
  by_cases hu : release.urgency = .unknown <;> simp [hu, asYamlEmitEntry, asReleaseNew]

theorem loadFromYaml_emitYaml_urlDetails : r.urlDetails = release.urlDetails := by
  rw [asReleaseLoadFromYaml_urlDetails c ctx h, asReleaseEmitYaml, YamlNode.children_mk,
    releaseYamlEntries_filter release hc (· = some "url")]
  cases release.urlDetails <;> simp [asYamlEmitEntry, asReleaseNew, urlDetailsStep, asReleaseUrlKindToString,
    asReleaseUrlKindFromString]

theorem loadFromYaml_emitYaml_description (hall : ctx.localeUseAll = true) :
    r.description.lookup = release.description.lookup := by
  rw [asReleaseLoadFromYaml_description c ctx h, asReleaseEmitYaml, YamlNode.children_mk,
    releaseYamlEntries_filter release hc (· = some "description")]
  rcases hc.description_entry release.description with ⟨he, hn⟩ | ⟨n, hn, -⟩
  · simp [hn, asReleaseNew, LocalizedTable.lookup_eq_of_entries_nil he, ListField.tag]
  · simp [hn, asReleaseNew, hc.description_parse ctx _ n hall hn, ListField.tag]

/-- Each list field comes back from its own entry. -/
theorem loadFromYaml_emitYaml_list (f : ListField) : f.get r = f.get release := by
  rw [asReleaseLoadFromYaml_list c ctx f h, flatMap_ite_filter, asReleaseEmitYaml, YamlNode.children_mk,
    releaseYamlEntries_filter_list release hc f, yamlListEntry]
  split
  · simp [List.filterMap_map, Function.comp_def, hc.entry_round_trip]
  · simp_all

theorem loadFromYaml_emitYaml_timestamp :
    r.timestamp = if ctx.style = .catalog then
        (if 0 < release.timestamp then guint64OfInt (atol (String.mk (decimalDigits release.timestamp.toNat)))
          else 0)
      else if InGDateTimeRange release.timestamp then release.timestamp else 0 := by
  rw [asReleaseLoadFromYaml_timestamp c ctx h, asReleaseEmitYaml, YamlNode.children_mk,
    releaseYamlEntries_filter release hc (fun k => k = some "unix-timestamp" ∨ k = some "date")]
  by_cases hs : ctx.style = .catalog <;> by_cases ht : 0 < release.timestamp
  · simp [hs, ht, asYamlEmitEntryTimestamp]
  · simp [hs, ht, asReleaseNew]
  · have hf := formatIso8601_instant release.timestamp
    simp [hs, ht]
    revert hf
    cases gDateTimeFormatIso8601 (gDateTimeNewFromUnixUtc (gint64OfGuint64 release.timestamp)) with
    | none => split_ifs <;> simp [asYamlEmitEntry, asReleaseNew]
    | some d =>
      intro hf
      simp only [asYamlEmitEntry, List.foldl_cons, List.foldl_nil, asYamlNodeGetKey_mk,
        asYamlNodeGetValue_mk, YamlNode.data_mk]
      rw [if_neg (by simp), hf]
      split <;> rfl
  · simp [hs, ht, asReleaseNew, eq_zero_of_not_pos ht]

end RoundTrip

/-- `as_release_emit_yaml` followed by `as_release_load_from_yaml` into a fresh release, with
lawful collaborators: the load succeeds. -/
theorem asReleaseEmitYaml_round_trip {Issue Artifact : Type} {c : YamlCodec Issue Artifact}
    (hc : c.Lawful) (ctx : AsContext) (release : AsRelease Issue Artifact) :
    ∃ r, asReleaseLoadFromYaml c ctx asReleaseNew (asReleaseEmitYaml c release ctx) = .ok r ∧
      YamlReload ctx r release := by
  obtain ⟨r, h⟩ :=
    (asReleaseLoadFromYaml_isOk c ctx asReleaseNew (asReleaseEmitYaml c release ctx)).mpr
      (releaseYamlEntries_no_fault release hc)
  have ht := loadFromYaml_emitYaml_timestamp release hc h
  exact ⟨r, h, loadFromYaml_emitYaml_kind release hc h, loadFromYaml_emitYaml_version release hc h,
    loadFromYaml_emitYaml_dateEol release hc h, loadFromYaml_emitYaml_urgency release hc h,
    loadFromYaml_emitYaml_urlDetails release hc h, loadFromYaml_emitYaml_description release hc h,
    loadFromYaml_emitYaml_list release hc h .issues, loadFromYaml_emitYaml_list release hc h .artifacts,
    fun hs => by rw [ht, if_pos hs, catalogInstant_eq], fun hs => by rw [ht, if_neg hs]⟩

theorem textYamlCodec_lawful : textYamlCodec.Lawful where
  description_entry t := by
    by_cases ht : t.entries = []
    · exact .inl ⟨ht, if_pos ht⟩
    · exact .inr ⟨_, if_neg ht, rfl⟩
  description_parse ctx t n hall hn := by
    by_cases ht : t.entries = []
    · simp [textYamlCodec, ht] at hn
    · simp only [textYamlCodec, ht, if_false, List.cons.injEq, and_true] at hn
      subst hn
      funext k
      simp [textYamlCodec, hall, List.foldr_map, lookup_foldr_insert]
      rfl
  entry_round_trip _ f _ := by cases f <;> rfl

theorem asReleaseEmitYaml_round_trip_catalog :
    let ctx : AsContext := ⟨.catalog, "C", true⟩
    let release := asReleaseSetTimestamp (asReleaseNew : AsRelease String String) 1700000000
    textYamlCodec.Lawful ∧
      ∃ r, asReleaseLoadFromYaml textYamlCodec ctx asReleaseNew (asReleaseEmitYaml textYamlCodec release ctx) =
        .ok r ∧ YamlReload ctx r release :=
  ⟨textYamlCodec_lawful, asReleaseEmitYaml_round_trip textYamlCodec_lawful _ _⟩

/-- Two releases the YAML round trip does not give back. In catalog style, one dated the last day
of 1969: its instant wraps above `LONG_MAX` and `atol` saturates it. In metainfo style, one stamped
2023-11-14: the mapping written for it has a `date` key, yet the release read back has no date. -/
theorem yaml_round_trip_loses_timestamp_and_date :
    let pre1970 := asReleaseSetDate (asReleaseNew : AsRelease String String) (some "1969-12-31")
    let stamped := asReleaseSetTimestamp (asReleaseNew : AsRelease String String) 1700000000
    let catalog : AsContext := ⟨.catalog, "C", true⟩
    let metainfo : AsContext := ⟨.metainfo, "C", true⟩
    (∃ r, asReleaseLoadFromYaml textYamlCodec catalog asReleaseNew
        (asReleaseEmitYaml textYamlCodec pre1970 catalog) = .ok r ∧ r.timestamp ≠ pre1970.timestamp) ∧
      stamped.date = some "2023-11-14T22:13:20Z" ∧
      (∃ n ∈ releaseYamlEntries textYamlCodec stamped metainfo, asYamlNodeGetKey n = some "date") ∧
      ∃ r, asReleaseLoadFromYaml textYamlCodec metainfo asReleaseNew
        (asReleaseEmitYaml textYamlCodec stamped metainfo) = .ok r ∧ r.date = none := by
  refine ⟨?_, by decide, by decide, _, rfl, rfl⟩
  obtain ⟨r, h⟩ := (asReleaseLoadFromYaml_isOk textYamlCodec ⟨.catalog, "C", true⟩ asReleaseNew
    (asReleaseEmitYaml textYamlCodec (asReleaseSetDate asReleaseNew (some "1969-12-31")) _)).mpr
    (releaseYamlEntries_no_fault _ textYamlCodec_lawful)
  refine ⟨r, h, ?_⟩
  rw [loadFromYaml_emitYaml_timestamp _ textYamlCodec_lawful h, if_pos rfl, atol_timestamp]
  decide

end AppStream
