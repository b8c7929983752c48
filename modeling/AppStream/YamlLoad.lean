import AppStream.Yaml

namespace AppStream

section Loader

variable {Issue Artifact : Type} (c : YamlCodec Issue Artifact) (ctx : AsContext)

/-- The `url` mapping sets the URL of its last known kind with a value. -/
def urlDetailsStep (url : Option String) (urlsN : YamlNode) : Option String :=
  if asReleaseUrlKindFromString (asYamlNodeGetKey urlsN) ≠ .unknown ∧ asYamlNodeGetValue urlsN ≠ none
  then asYamlNodeGetValue urlsN else url

theorem loadUrls_eq (release : AsRelease Issue Artifact) (cs : List YamlNode) :
    cs.foldl loadUrlEntry release =
      { release with urlDetails := cs.foldl urlDetailsStep release.urlDetails } := by
  induction cs generalizing release with
  | nil => rfl
  | cons u us ih =>
    rw [List.foldl_cons, ih, List.foldl_cons]
    simp only [loadUrlEntry, urlDetailsStep]
    split_ifs with h
    · have hd : asReleaseUrlKindFromString (asYamlNodeGetKey u) = .details := by
        cases hk : asReleaseUrlKindFromString (asYamlNodeGetKey u) <;> simp_all
      simp [asReleaseSetUrl, hd]
    · rfl

theorem loadYamlEntry_ok {release r : AsRelease Issue Artifact} {n : YamlNode}
    (h : loadYamlEntry c ctx release n = .ok r) :
    r = { release with
      kind := if asYamlNodeGetKey n = some "type" then asReleaseKindFromString (asYamlNodeGetValue n)
        else release.kind
      version := if asYamlNodeGetKey n = some "version" then asYamlNodeGetValue n else release.version
      timestamp :=
        if asYamlNodeGetKey n = some "unix-timestamp" then
          ((asYamlNodeGetValue n).map fun v => guint64OfInt (atol v)).getD release.timestamp
        else if asYamlNodeGetKey n = some "date" then
          ((asIso8601ToDatetime (asYamlNodeGetValue n)).map fun time =>
            guint64OfInt (gDateTimeToUnix time)).getD release.timestamp
        else release.timestamp
      dateEol := if asYamlNodeGetKey n = some "date-eol" then (asYamlNodeGetValue n).or release.dateEol
        else release.dateEol
      urgency := if asYamlNodeGetKey n = some "urgency" then
          asUrgencyKindFromString (asYamlNodeGetValue n) else release.urgency
      description := if asYamlNodeGetKey n = some "description" then
          c.setLocalizedTable ctx n release.description else release.description
      urlDetails := if asYamlNodeGetKey n = some "url" then
          n.children.foldl urlDetailsStep release.urlDetails else release.urlDetails
      issues := if asYamlNodeGetKey n = some "issues" then
          release.issues ++ n.children.filterMap (c.issueLoadFromYaml ctx) else release.issues
      artifacts := if asYamlNodeGetKey n = some "artifacts" then
          release.artifacts ++ n.children.filterMap (c.artifactLoadFromYaml ctx) else release.artifacts } := by
  dsimp only [loadYamlEntry] at h
  by_cases h1 : asYamlNodeGetKey n = some "unix-timestamp"
  · rw [if_pos h1] at h
    cases hv : asYamlNodeGetValue n with
    | none => rw [hv] at h; cases h
    | some v => rw [hv] at h; cases h; simp [h1]
  rw [if_neg h1] at h
  cases h
  by_cases h2 : asYamlNodeGetKey n = some "date"
  · rw [if_pos h2]
    cases asIso8601ToDatetime (asYamlNodeGetValue n) <;> simp [h2]
  rw [if_neg h2]
  by_cases h3 : asYamlNodeGetKey n = some "date-eol"
  · rw [if_pos h3]
    cases asYamlNodeGetValue n <;> simp [h3, asReleaseSetDateEol]
  rw [if_neg h3]
  by_cases h4 : asYamlNodeGetKey n = some "type"
  · simp [h4]
  rw [if_neg h4]
  by_cases h5 : asYamlNodeGetKey n = some "version"
  · simp [h5, asReleaseSetVersion]
  rw [if_neg h5]
  by_cases h6 : asYamlNodeGetKey n = some "urgency"
  · simp [h6]
  rw [if_neg h6]
  by_cases h7 : asYamlNodeGetKey n = some "description"
  · simp [h7]
  rw [if_neg h7]
  by_cases h8 : asYamlNodeGetKey n = some "url"
  · simp [h8, loadUrls_eq]
  rw [if_neg h8]
  by_cases h9 : asYamlNodeGetKey n = some "issues"
  · simp only [h9, if_true]
    exact addLoaded_eq _ .issues _ _
  rw [if_neg h9]
  by_cases h10 : asYamlNodeGetKey n = some "artifacts"
  · simp only [h10, if_true]
    exact addLoaded_eq _ .artifacts _ _
  rw [if_neg h10]
  simp [h1, h2, h3, h4, h5, h6, h7, h8, h9, h10]

theorem loadYamlEntry_isOk (release : AsRelease Issue Artifact) (n : YamlNode) :
    (∃ r, loadYamlEntry c ctx release n = .ok r) ↔
      ¬(asYamlNodeGetKey n = some "unix-timestamp" ∧ asYamlNodeGetValue n = none) := by
  dsimp only [loadYamlEntry]
  by_cases h1 : asYamlNodeGetKey n = some "unix-timestamp"
  · rw [if_pos h1]
    cases asYamlNodeGetValue n with
    | none => exact ⟨fun ⟨_, h⟩ => (nomatch h), fun h => absurd ⟨h1, rfl⟩ h⟩
    | some v => exact ⟨fun _ h => (nomatch h.2), fun _ => ⟨_, rfl⟩⟩
  · rw [if_neg h1]
    exact ⟨fun _ h => h1 h.1, fun _ => ⟨_, rfl⟩⟩

end Loader

section Runs

variable {ε β ν γ : Type} (step : β → ν → Except ε β)

/-- A field that the successful steps on inputs satisfying `p` move by `upd`, and the others
leave alone, ends after a successful loop as the fold of `upd` over those inputs. -/
theorem foldlM_ok_field (field : β → γ) (p : ν → Prop) [DecidablePred p] (upd : γ → ν → γ)
    (h : ∀ acc n acc', step acc n = .ok acc' → field acc' = if p n then upd (field acc) n else field acc) :
    ∀ (nodes : List ν) (acc r : β), nodes.foldlM step acc = .ok r →
      field r = (nodes.filter p).foldl upd (field acc)
  | [], acc, r, hr => by cases hr; rfl
  | n :: ns, acc, r, hr => by
    rw [List.foldlM_cons] at hr
    cases hs : step acc n with
    | error e => rw [hs] at hr; cases hr
    | ok a =>
      rw [hs] at hr
      rw [foldlM_ok_field field p upd h ns a r hr, h acc n a hs, List.filter_cons]
      split <;> simp_all

/-- A loop whose steps succeed or fail by their input alone succeeds when every input passes. -/
theorem foldlM_isOk (Q : ν → Prop) (h : ∀ acc n, (∃ a, step acc n = .ok a) ↔ Q n) :
    ∀ (nodes : List ν) (acc : β), (∃ r, nodes.foldlM step acc = .ok r) ↔ ∀ n ∈ nodes, Q n
  | [], acc => by simp [List.foldlM_nil, pure, Except.pure]
  | n :: ns, acc => by
    rw [List.foldlM_cons, List.forall_mem_cons, ← h acc n]
    cases hs : step acc n with
    | error e => simp [bind, Except.bind]
    | ok a => simp [bind, Except.bind, foldlM_isOk Q h ns a]

end Runs

section Load

variable {Issue Artifact : Type} (c : YamlCodec Issue Artifact) (ctx : AsContext)
  {release r : AsRelease Issue Artifact} {node : YamlNode}

/-- `as_release_load_from_yaml` has a result exactly when every `unix-timestamp` key has a value. -/
theorem asReleaseLoadFromYaml_isOk (release : AsRelease Issue Artifact) (node : YamlNode) :
    (∃ r, asReleaseLoadFromYaml c ctx release node = .ok r) ↔
      ∀ n ∈ node.children, ¬(asYamlNodeGetKey n = some "unix-timestamp" ∧ asYamlNodeGetValue n = none) :=
  foldlM_isOk _ _ (loadYamlEntry_isOk c ctx) _ _

/-- The YAML loader fails exactly on a mapping with a `unix-timestamp` key without a value. -/
theorem asReleaseLoadFromYaml_fails_iff (release : AsRelease Issue Artifact) (node : YamlNode) :
    (∃ e, asReleaseLoadFromYaml c ctx release node = .error e) ↔
      ∃ n ∈ node.children, asYamlNodeGetKey n = some "unix-timestamp" ∧ asYamlNodeGetValue n = none := by
  have h := asReleaseLoadFromYaml_isOk c ctx release node
  constructor
  · rintro ⟨e, he⟩
    by_contra hn
    obtain ⟨r, hr⟩ := h.mpr fun n hm hf => hn ⟨n, hm, hf⟩
    rw [hr] at he
    cases he
  · rintro ⟨n, hm, hf⟩
    cases hl : asReleaseLoadFromYaml c ctx release node with
    | error e => exact ⟨e, rfl⟩
    | ok r => exact absurd hf (h.mp ⟨r, hl⟩ n hm)

/-- A release mapping whose `unix-timestamp` key has no value node: whatever the collaborators,
the context and the release, the loader hands `NULL` to `atol`. -/
theorem unix_timestamp_without_value_faults (release : AsRelease Issue Artifact) :
    asReleaseLoadFromYaml c ctx release (.mk none [.mk (some "unix-timestamp") []]) = .error .atolNull :=
  rfl

/-- The entries of a list field's key append, in document order, every value the collaborator
loads. -/
theorem asReleaseLoadFromYaml_list (f : ListField) (h : asReleaseLoadFromYaml c ctx release node = .ok r) :
    f.get r = f.get release ++ node.children.flatMap fun n =>
      if asYamlNodeGetKey n = some f.tag then n.children.filterMap (c.loadEntry ctx f) else [] := by
  rw [foldlM_ok_field _ f.get (asYamlNodeGetKey · = some f.tag)
    (fun l n => l ++ n.children.filterMap (c.loadEntry ctx f))
    (fun _ _ _ hs => by rw [loadYamlEntry_ok c ctx hs]; cases f <;> rfl) _ _ _ h, foldl_append_eq_flatMap,
    flatMap_ite_filter]
  cases f <;> rfl

theorem asReleaseLoadFromYaml_kind (h : asReleaseLoadFromYaml c ctx release node = .ok r) :
    r.kind = (node.children.filter (asYamlNodeGetKey · = some "type")).foldl
      (fun _ n => asReleaseKindFromString (asYamlNodeGetValue n)) release.kind :=
  foldlM_ok_field (loadYamlEntry c ctx) AsRelease.kind _ _ (fun _ _ _ hs => by rw [loadYamlEntry_ok c ctx hs]) _
    (asReleaseSetContext release (some ctx)) _ h

theorem asReleaseLoadFromYaml_version (h : asReleaseLoadFromYaml c ctx release node = .ok r) :
    r.version = (node.children.filter (asYamlNodeGetKey · = some "version")).foldl
      (fun _ n => asYamlNodeGetValue n) release.version :=
  foldlM_ok_field (loadYamlEntry c ctx) AsRelease.version _ _ (fun _ _ _ hs => by rw [loadYamlEntry_ok c ctx hs]) _
    (asReleaseSetContext release (some ctx)) _ h

theorem asReleaseLoadFromYaml_urgency (h : asReleaseLoadFromYaml c ctx release node = .ok r) :
    r.urgency = (node.children.filter (asYamlNodeGetKey · = some "urgency")).foldl
      (fun _ n => asUrgencyKindFromString (asYamlNodeGetValue n)) release.urgency :=
  foldlM_ok_field (loadYamlEntry c ctx) AsRelease.urgency _ _ (fun _ _ _ hs => by rw [loadYamlEntry_ok c ctx hs]) _
    (asReleaseSetContext release (some ctx)) _ h

theorem asReleaseLoadFromYaml_dateEol (h : asReleaseLoadFromYaml c ctx release node = .ok r) :
    r.dateEol = (node.children.filter (asYamlNodeGetKey · = some "date-eol")).foldl
      (fun d n => (asYamlNodeGetValue n).or d) release.dateEol :=
  foldlM_ok_field (loadYamlEntry c ctx) AsRelease.dateEol _ _ (fun _ _ _ hs => by rw [loadYamlEntry_ok c ctx hs]) _
    (asReleaseSetContext release (some ctx)) _ h

/-- Every `description` entry adds its locales to the table the earlier ones left. -/
theorem asReleaseLoadFromYaml_description (h : asReleaseLoadFromYaml c ctx release node = .ok r) :
    r.description = (node.children.filter (asYamlNodeGetKey · = some "description")).foldl
      (fun t n => c.setLocalizedTable ctx n t) release.description :=
  foldlM_ok_field (loadYamlEntry c ctx) AsRelease.description _ _ (fun _ _ _ hs => by rw [loadYamlEntry_ok c ctx hs]) _
    (asReleaseSetContext release (some ctx)) _ h

theorem asReleaseLoadFromYaml_urlDetails (h : asReleaseLoadFromYaml c ctx release node = .ok r) :
    r.urlDetails = (node.children.filter (asYamlNodeGetKey · = some "url")).foldl
      (fun u n => n.children.foldl urlDetailsStep u) release.urlDetails :=
  foldlM_ok_field (loadYamlEntry c ctx) AsRelease.urlDetails _ _ (fun _ _ _ hs => by rw [loadYamlEntry_ok c ctx hs]) _
    (asReleaseSetContext release (some ctx)) _ h

/-- The instant follows the last `unix-timestamp` or parsable `date` entry. -/
theorem asReleaseLoadFromYaml_timestamp (h : asReleaseLoadFromYaml c ctx release node = .ok r) :
    r.timestamp = (node.children.filter fun n =>
        asYamlNodeGetKey n = some "unix-timestamp" ∨ asYamlNodeGetKey n = some "date").foldl
      (fun t n => if asYamlNodeGetKey n = some "unix-timestamp" then
          ((asYamlNodeGetValue n).map fun v => guint64OfInt (atol v)).getD t
        else ((asIso8601ToDatetime (asYamlNodeGetValue n)).map fun time =>
          guint64OfInt (gDateTimeToUnix time)).getD t) release.timestamp :=
  foldlM_ok_field (loadYamlEntry c ctx) AsRelease.timestamp _ _ (fun _ n _ hs => by
    rw [loadYamlEntry_ok c ctx hs]
    by_cases h1 : asYamlNodeGetKey n = some "unix-timestamp" <;> simp [h1]) _
    (asReleaseSetContext release (some ctx)) _ h

/-- The YAML loader never stores a date text. -/
theorem asReleaseLoadFromYaml_date (h : asReleaseLoadFromYaml c ctx release node = .ok r) :
    r.date = release.date := by
  simpa using foldlM_ok_field (loadYamlEntry c ctx) AsRelease.date (fun _ => False) (fun d _ => d)
    (fun _ _ _ hs => by rw [loadYamlEntry_ok c ctx hs]; rfl) _ _ _ h

/-- Besides binding the context, the YAML loader leaves the translatable flag alone. -/
theorem asReleaseLoadFromYaml_context (h : asReleaseLoadFromYaml c ctx release node = .ok r) :
    r.context = some ctx ∧ r.descTranslatable = release.descTranslatable := by
  have hc := foldlM_ok_field (loadYamlEntry c ctx) AsRelease.context (fun _ => False) (fun d _ => d)
    (fun _ _ _ hs => by rw [loadYamlEntry_ok c ctx hs]; rfl) _ _ _ h
  have ht := foldlM_ok_field (loadYamlEntry c ctx) AsRelease.descTranslatable (fun _ => False)
    (fun d _ => d) (fun _ _ _ hs => by rw [loadYamlEntry_ok c ctx hs]; rfl) _ _ _ h
  simp only [decide_False, List.filter_false, List.foldl_nil] at hc ht
  exact ⟨hc, ht⟩

end Load

end AppStream
