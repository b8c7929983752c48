import Mathlib.Logic.Relation
import AppStream.XmlRoundTrip
import AppStream.YamlEmit

namespace AppStream

/-- The public operations on an `AsRelease`: its setters and its two loaders. -/
inductive ReleaseOp (Issue Artifact : Type) where
  | setKind (kind : AsReleaseKind)
  | setVersion (version : Option String)
  | setTimestamp (timestamp : UInt64)
  | setDate (date : Option String)
  | setDateEol (date : Option String)
  | setTimestampEol (timestamp : UInt64)
  | setUrgency (urgency : AsUrgencyKind)
  | setDescription (description locale : Option String)
  | addArtifact (artifact : Artifact)
  | addIssue (issue : Issue)
  | setUrl (urlKind : AsReleaseUrlKind) (url : Option String)
  | setContext (context : Option AsContext)
  | setDescriptionTranslatable (translatable : Bool)
  | loadFromXml (ctx : AsContext) (node : XmlNode)
  | loadFromYaml (ctx : AsContext) (node : YamlNode)

section Runs

variable {Issue Artifact : Type} (xc : XmlCodec Issue Artifact) (yc : YamlCodec Issue Artifact)

/-- One operation applied to a release; only a YAML load can fail. -/
def applyOp (release : AsRelease Issue Artifact) : ReleaseOp Issue Artifact →
    Except LoadFault (AsRelease Issue Artifact)
  | .setKind kind => .ok (asReleaseSetKind release kind)
  | .setVersion version => .ok (asReleaseSetVersion release version)
  | .setTimestamp timestamp => .ok (asReleaseSetTimestamp release timestamp)
  | .setDate date => .ok (asReleaseSetDate release date)
  | .setDateEol date => .ok (asReleaseSetDateEol release date)
  | .setTimestampEol timestamp => .ok (asReleaseSetTimestampEol release timestamp)
  | .setUrgency urgency => .ok (asReleaseSetUrgency release urgency)
  | .setDescription description locale => .ok (asReleaseSetDescription release description locale)
  | .addArtifact artifact => .ok (asReleaseAddArtifact release artifact)
  | .addIssue issue => .ok (asReleaseAddIssue release issue)
  | .setUrl urlKind url => .ok (asReleaseSetUrl release urlKind url)
  | .setContext context => .ok (asReleaseSetContext release context)
  | .setDescriptionTranslatable translatable =>
    .ok (asReleaseSetDescriptionTranslatable release translatable)
  | .loadFromXml ctx node => .ok (asReleaseLoadFromXml xc ctx release node)
  | .loadFromYaml ctx node => asReleaseLoadFromYaml yc ctx release node

/-- The states that operations, each allowed in the release it is applied to, reach one after
another from `as_release_new`. -/
inductive Reachable (allowed : AsRelease Issue Artifact → ReleaseOp Issue Artifact → Prop) :
    AsRelease Issue Artifact → Prop
  | new : Reachable allowed asReleaseNew
  | step {release r : AsRelease Issue Artifact} (op : ReleaseOp Issue Artifact) :
      Reachable allowed release → allowed release op → applyOp xc yc release op = .ok r →
        Reachable allowed r

end Runs

/-- `get_date` and `get_timestamp` describe one instant: a stored date parses, and its Unix time
taken as a `guint64` is the stored timestamp. -/
def DateCoherent {Issue Artifact : Type} (release : AsRelease Issue Artifact) : Prop :=
  ∀ d ∈ release.date,
    (asIso8601ToDatetime (some d)).map (fun dt => guint64OfInt (gDateTimeToUnix dt)) = some release.timestamp

instance {Issue Artifact : Type} (release : AsRelease Issue Artifact) : Decidable (DateCoherent release) :=
  inferInstanceAs (Decidable (∀ d ∈ release.date, _ = _))

/-- The operations that keep the two views together in the release they are applied to: every
setter; an XML load of a node without a `timestamp` attribute, or, into a release without a date,
of a node whose `date` attribute does not parse; and a YAML load into a release without a date, or
of a mapping without a `unix-timestamp` or `date` key. -/
def ReleaseOp.KeepsDates {Issue Artifact : Type} (release : AsRelease Issue Artifact) :
    ReleaseOp Issue Artifact → Prop
  | .loadFromXml _ node => asXmlGetPropValue node "timestamp" = none ∨
      (release.date = none ∧ asIso8601ToDatetime (asXmlGetPropValue node "date") = none)
  | .loadFromYaml _ node => release.date = none ∨ ∀ n ∈ node.children,
      asYamlNodeGetKey n ≠ some "unix-timestamp" ∧ asYamlNodeGetKey n ≠ some "date"
  | _ => True

section Coherence

variable {Issue Artifact : Type} {release r : AsRelease Issue Artifact}

theorem dateCoherent_new : DateCoherent (asReleaseNew : AsRelease Issue Artifact) := by
  simp [DateCoherent, asReleaseNew]

theorem dateCoherent_of_date_none (h : r.date = none) : DateCoherent r := by
  intro d hd
  rw [h] at hd
  cases hd

theorem DateCoherent.of_eq (h : DateCoherent release) (hd : r.date = release.date)
    (ht : r.timestamp = release.timestamp) : DateCoherent r := by
  simpa [DateCoherent, hd, ht] using h

theorem dateCoherent_setTimestamp (t : UInt64) : DateCoherent (asReleaseSetTimestamp release t) := by
  intro d hd
  have hp := formatIso8601_instant t
  simp only [asReleaseSetTimestamp, Option.mem_def] at hd ⊢
  rw [hd] at hp
  rw [hp]
  split_ifs with hr
  · rfl
  · rw [gDateTimeNewFromUnixUtc_eq_none hr] at hd
    cases hd

theorem DateCoherent.setDate (h : DateCoherent release) (date : Option String) :
    DateCoherent (asReleaseSetDate release date) := by
  unfold asReleaseSetDate
  split
  · exact h
  · split
    · intro d hd
      simp_all
    · exact h

/-- Without a `timestamp` attribute the attributes of `<release>` move date and instant together. -/
theorem DateCoherent.loadReleaseProps (h : DateCoherent release) (ctx : AsContext) (node : XmlNode)
    (hn : asXmlGetPropValue node "timestamp" = none) :
    DateCoherent (loadReleaseProps ctx release node) := by
  rw [loadReleaseProps_eq]
  intro d hd
  simp only [hn, Option.mem_def] at hd ⊢
  cases hi : dateInstant (asXmlGetPropValue node "date") with
  | none => simp only [hi, Option.isSome_none, if_false, Option.map_none, Option.getD_none] at hd ⊢; exact h d hd
  | some time =>
    simp only [hi, Option.isSome_some, if_true] at hd
    rw [hd] at hi
    simp [← dateInstant_eq, hi]

/-- A release without a date keeps none through attributes whose `date` does not parse. -/
theorem loadReleaseProps_date_none (ctx : AsContext) (node : XmlNode) (hd : release.date = none)
    (hp : asIso8601ToDatetime (asXmlGetPropValue node "date") = none) :
    (loadReleaseProps ctx release node).date = none := by
  rw [loadReleaseProps_eq]
  simp [dateInstant_eq, hp, hd]

theorem DateCoherent.loadFromXml (h : DateCoherent release) (xc : XmlCodec Issue Artifact)
    (ctx : AsContext) (node : XmlNode) (hn : ReleaseOp.KeepsDates release (.loadFromXml ctx node)) :
    DateCoherent (asReleaseLoadFromXml xc ctx release node) := by
  have hh := asReleaseLoadFromXml_header xc ctx release node
  simp only [Prod.mk.injEq] at hh
  rcases hn with hn | ⟨hd, hp⟩
  · exact (h.loadReleaseProps ctx node hn).of_eq hh.2.2.2.1 hh.2.2.1
  · exact dateCoherent_of_date_none (hh.2.2.2.1.trans (loadReleaseProps_date_none ctx node hd hp))

theorem DateCoherent.loadFromYaml (h : DateCoherent release) (yc : YamlCodec Issue Artifact)
    (ctx : AsContext) {node : YamlNode} (hn : ReleaseOp.KeepsDates release (.loadFromYaml ctx node))
    (hr : asReleaseLoadFromYaml yc ctx release node = .ok r) : DateCoherent r := by
  rcases hn with hd | hn
  · exact dateCoherent_of_date_none ((asReleaseLoadFromYaml_date yc ctx hr).trans hd)
  refine h.of_eq (asReleaseLoadFromYaml_date yc ctx hr) ?_
  rw [asReleaseLoadFromYaml_timestamp yc ctx hr, List.filter_eq_nil_iff.mpr fun n hm => by simpa using hn n hm]
  rfl

variable (xc : XmlCodec Issue Artifact) (yc : YamlCodec Issue Artifact)

/-- One operation that keeps the dates keeps a coherent release coherent. -/
theorem DateCoherent.applyOp (h : DateCoherent release) {op : ReleaseOp Issue Artifact}
    (hop : ReleaseOp.KeepsDates release op) (hr : applyOp xc yc release op = .ok r) : DateCoherent r := by
  cases op
  case setTimestamp t => cases hr; exact dateCoherent_setTimestamp t
  case setDate date => cases hr; exact h.setDate date
  case loadFromXml ctx node => cases hr; exact h.loadFromXml xc ctx node hop
  case loadFromYaml ctx node => exact h.loadFromYaml yc ctx hop hr
  -- the other setters touch neither `date` nor `timestamp`
  all_goals
    cases hr
    first
    | exact h.of_eq rfl rfl
    | refine h.of_eq ?_ ?_ <;>
        simp only [asReleaseSetDateEol, asReleaseSetTimestampEol, asReleaseSetDescription,
          asReleaseSetUrl] <;> split <;> rfl

theorem reachable_dateCoherent (h : Reachable xc yc ReleaseOp.KeepsDates release) :
    DateCoherent release := by
  induction h with
  | new => exact dateCoherent_new
  | step _ _ hop hr ih => exact ih.applyOp xc yc hop hr

end Coherence

/-- A catalog `<release timestamp="1700000000">` read into a fresh release, which has no date. -/
theorem reachable_dateCoherent_catalog_load :
    let release := asReleaseLoadFromXml textXmlCodec ⟨.catalog, "C", true⟩
      (asReleaseNew : AsRelease String String) (XmlNode.element "release" [("timestamp", "1700000000")] [])
    Reachable textXmlCodec textYamlCodec ReleaseOp.KeepsDates release ∧ DateCoherent release :=
  have reach : Reachable textXmlCodec textYamlCodec ReleaseOp.KeepsDates
      (asReleaseLoadFromXml textXmlCodec ⟨.catalog, "C", true⟩ (asReleaseNew : AsRelease String String)
        (XmlNode.element "release" [("timestamp", "1700000000")] [])) :=
    .step (.loadFromXml _ (.element "release" [("timestamp", "1700000000")] [])) .new (.inr ⟨rfl, rfl⟩) rfl
  ⟨reach, reachable_dateCoherent textXmlCodec textYamlCodec reach⟩

/-- `<release date="2020-01-01" timestamp="5">` read into a fresh release: the date is stored,
then the `timestamp` attribute, read after it, replaces the instant. -/
theorem date_and_timestamp_attributes_disagree :
    let ctx : AsContext := ⟨.metainfo, "C", true⟩
    let node := XmlNode.element "release" [("date", "2020-01-01"), ("timestamp", "5")] []
    let release := asReleaseLoadFromXml textXmlCodec ctx (asReleaseNew : AsRelease String String) node
    Reachable textXmlCodec textYamlCodec (fun _ _ => True) release ∧
      release.date = some "2020-01-01" ∧ release.timestamp = 5 ∧ ¬DateCoherent release :=
  ⟨.step (.loadFromXml _ _) .new trivial rfl, by decide, by decide, by decide⟩

/-- Whatever the release, coherent or not, what the library reads back from its own XML or YAML has
a date and a timestamp that agree: writing a release out and reading it back repairs a disagreement. -/
theorem reload_dateCoherent {Issue Artifact : Type} (xc : XmlCodec Issue Artifact)
    (yc : YamlCodec Issue Artifact) (ctx : AsContext) (release : AsRelease Issue Artifact) :
    DateCoherent (asReleaseLoadFromXml xc ctx asReleaseNew (asReleaseToXmlNode xc release ctx)) ∧
      ∀ r, asReleaseLoadFromYaml yc ctx asReleaseNew (asReleaseEmitYaml yc release ctx) = .ok r →
        DateCoherent r := by
  refine ⟨fun d hd => ?_, fun r h d hd => ?_⟩
  · rw [loadFromXml_toXmlNode_date] at hd
    split at hd
    next hp =>
      have hr : InGDateTimeRange release.timestamp := by
        by_contra hr
        rw [gDateTimeNewFromUnixUtc_eq_none hr] at hd
        cases hd
      have hf := formatIso8601_instant release.timestamp
      rw [Option.mem_def.mp hd, if_pos hr] at hf
      rw [hf, loadFromXml_toXmlNode_timestamp, if_neg hp.2, if_pos hr]
    next => cases hd
  · rw [asReleaseLoadFromYaml_date yc ctx h] at hd
    cases hd

/-- A release read from `<release date="2020-01-01" timestamp="5">`, whose date and instant disagree,
comes back coherent through either format. -/
theorem reload_dateCoherent_repairs :
    let ctx : AsContext := ⟨.metainfo, "C", true⟩
    let release := asReleaseLoadFromXml textXmlCodec ctx (asReleaseNew : AsRelease String String)
      (XmlNode.element "release" [("date", "2020-01-01"), ("timestamp", "5")] [])
    ¬DateCoherent release ∧
      DateCoherent (asReleaseLoadFromXml textXmlCodec ctx asReleaseNew (asReleaseToXmlNode textXmlCodec release ctx)) ∧
      ∃ r, asReleaseLoadFromYaml textYamlCodec ctx asReleaseNew (asReleaseEmitYaml textYamlCodec release ctx) =
        .ok r ∧ DateCoherent r :=
  have h := reload_dateCoherent textXmlCodec textYamlCodec ⟨.metainfo, "C", true⟩
    (asReleaseLoadFromXml textXmlCodec ⟨.metainfo, "C", true⟩ (asReleaseNew : AsRelease String String)
      (XmlNode.element "release" [("date", "2020-01-01"), ("timestamp", "5")] []))
  ⟨by decide, h.1, _, rfl, h.2 _ rfl⟩

/-- A stored date is a text `as_iso8601_to_datetime` reads back. -/
def DateParses {Issue Artifact : Type} (release : AsRelease Issue Artifact) : Prop :=
  ∀ d ∈ release.date, (asIso8601ToDatetime (some d)).isSome

section Parses

variable {Issue Artifact : Type} {release r : AsRelease Issue Artifact}

theorem DateParses.of_eq (h : DateParses release) (hd : r.date = release.date) : DateParses r := by
  rwa [DateParses, hd]

/-- `as_release_set_timestamp` stores GLib's own text, which reads back. -/
theorem dateParses_setTimestamp (t : UInt64) : DateParses (asReleaseSetTimestamp release t) := by
  intro d hd
  have hp := asIso8601ToDatetime_format_new (gint64OfGuint64 t)
  simp only [asReleaseSetTimestamp, Option.mem_def] at hd
  rw [hd] at hp
  rw [hp]
  cases hn : gDateTimeNewFromUnixUtc (gint64OfGuint64 t) with
  | none => rw [hn] at hd; cases hd
  | some _ => rfl

/-- `as_release_set_date` stores a text only once it has parsed it. -/
theorem DateParses.setDate (h : DateParses release) (date : Option String) :
    DateParses (asReleaseSetDate release date) := by
  unfold asReleaseSetDate
  split
  · exact h
  · split
    · intro d hd
      simp_all
    · exact h

/-- The XML loader stores a `date` attribute only once it has parsed it. -/
theorem DateParses.loadFromXml (h : DateParses release) (xc : XmlCodec Issue Artifact) (ctx : AsContext)
    (node : XmlNode) : DateParses (asReleaseLoadFromXml xc ctx release node) := by
  have hh := asReleaseLoadFromXml_header xc ctx release node
  simp only [Prod.mk.injEq] at hh
  intro d hd
  rw [hh.2.2.2.1, loadReleaseProps_eq] at hd
  dsimp only at hd
  split at hd
  next hs => rwa [dateInstant_eq, Option.mem_def.mp hd] at hs
  next => exact h d hd

variable (xc : XmlCodec Issue Artifact) (yc : YamlCodec Issue Artifact)

theorem DateParses.applyOp (h : DateParses release) {op : ReleaseOp Issue Artifact}
    (hr : applyOp xc yc release op = .ok r) : DateParses r := by
  cases op
  case setTimestamp t => cases hr; exact dateParses_setTimestamp t
  case setDate date => cases hr; exact h.setDate date
  case loadFromXml ctx node => cases hr; exact h.loadFromXml xc ctx node
  case loadFromYaml ctx node => exact h.of_eq (asReleaseLoadFromYaml_date yc ctx hr)
  -- the other setters do not touch `date`
  all_goals
    cases hr
    first
    | exact h
    | (refine h.of_eq ?_
       simp only [asReleaseSetDateEol, asReleaseSetTimestampEol, asReleaseSetDescription, asReleaseSetUrl]
       split <;> rfl)

/-- Whatever operations run from `as_release_new`, setters and loads in any order, the stored date
is a text the library reads back: unlike the end-of-life date, no operation stores a date it
cannot parse. -/
theorem reachable_dateParses {allowed : AsRelease Issue Artifact → ReleaseOp Issue Artifact → Prop}
    (h : Reachable xc yc allowed release) : DateParses release := by
  induction h with
  | new => intro d hd; cases hd
  | step _ _ _ hr ih => exact ih.applyOp xc yc hr

end Parses

/-- A release read from `<release date="2020-01-01" timestamp="5">`: its date and instant disagree,
yet its date reads back. -/
theorem reachable_dateParses_two_attributes :
    let node := XmlNode.element "release" [("date", "2020-01-01"), ("timestamp", "5")] []
    let release := asReleaseLoadFromXml textXmlCodec ⟨.metainfo, "C", true⟩
      (asReleaseNew : AsRelease String String) node
    Reachable textXmlCodec textYamlCodec (fun _ _ => True) release ∧ DateParses release :=
  have reach : Reachable textXmlCodec textYamlCodec (fun _ _ => True)
      (asReleaseLoadFromXml textXmlCodec ⟨.metainfo, "C", true⟩ (asReleaseNew : AsRelease String String)
        (XmlNode.element "release" [("date", "2020-01-01"), ("timestamp", "5")] [])) :=
    .step (.loadFromXml _ _) .new trivial rfl
  ⟨reach, reachable_dateParses textXmlCodec textYamlCodec reach⟩

section Lists

variable {Issue Artifact : Type} (xc : XmlCodec Issue Artifact) (yc : YamlCodec Issue Artifact)
  {release r : AsRelease Issue Artifact}

/-- Every operation keeps the values a list field held before it, in order, at the front. -/
theorem applyOp_lists_prefix (f : ListField) {op : ReleaseOp Issue Artifact}
    (hr : applyOp xc yc release op = .ok r) : f.get release <+: f.get r := by
  cases op
  case loadFromXml ctx node =>
    cases hr
    rw [asReleaseLoadFromXml_list]
    exact List.prefix_append _ _
  case loadFromYaml ctx node =>
    rw [asReleaseLoadFromYaml_list yc ctx f hr]
    exact List.prefix_append _ _
  -- a setter appends to one field at most
  all_goals
    cases hr
    cases f
    all_goals first
    | exact List.prefix_refl _
    | exact List.prefix_append _ _
    | (simp only [asReleaseSetDate, asReleaseSetDateEol, asReleaseSetTimestampEol, asReleaseSetDescription,
         asReleaseSetUrl]
       repeat' split
       all_goals exact List.prefix_refl _)

/-- Issues and artifacts are append-only: along any run of operations, from any release, the lists
held before are prefixes of those held after; no operation removes, replaces or reorders one. -/
theorem run_lists_prefix
    (h : Relation.ReflTransGen (fun a b => ∃ op, applyOp xc yc a op = .ok b) release r) :
    release.issues <+: r.issues ∧ release.artifacts <+: r.artifacts := by
  induction h with
  | refl => exact ⟨List.prefix_refl _, List.prefix_refl _⟩
  | tail _ hs ih =>
    obtain ⟨op, hop⟩ := hs
    have hi := applyOp_lists_prefix xc yc .issues hop
    have ha := applyOp_lists_prefix xc yc .artifacts hop
    exact ⟨ih.1.trans hi, ih.2.trans ha⟩

end Lists

theorem run_lists_prefix_add_then_load :
    let release := asReleaseAddIssue (asReleaseNew : AsRelease String String) "CVE-2024-1"
    let node := XmlNode.element "release" [] [.element "issues" [] [.element "issue" [] [.text "CVE-2024-2"]]]
    let r := asReleaseLoadFromXml textXmlCodec ⟨.metainfo, "C", true⟩ release node
    Relation.ReflTransGen (fun a b => ∃ op, applyOp textXmlCodec textYamlCodec a op = .ok b) release r ∧
      release.issues <+: r.issues ∧ release.artifacts <+: r.artifacts :=
  have run : Relation.ReflTransGen (fun a b => ∃ op, applyOp textXmlCodec textYamlCodec a op = .ok b)
      (asReleaseAddIssue (asReleaseNew : AsRelease String String) "CVE-2024-1")
      (asReleaseLoadFromXml textXmlCodec ⟨.metainfo, "C", true⟩
        (asReleaseAddIssue (asReleaseNew : AsRelease String String) "CVE-2024-1")
        (XmlNode.element "release" [] [.element "issues" [] [.element "issue" [] [.text "CVE-2024-2"]]])) :=
    .single ⟨.loadFromXml _ _, rfl⟩
  ⟨run, run_lists_prefix textXmlCodec textYamlCodec run⟩

/-- Loading appends and never replaces: after either loader the issues are those held before,
followed in document order by one entry per child of every issue block that the collaborator
loads, and likewise the artifacts. -/
theorem loaders_append_loaded_entries {Issue Artifact : Type} (xc : XmlCodec Issue Artifact)
    (yc : YamlCodec Issue Artifact) (ctx : AsContext) (release : AsRelease Issue Artifact) :
    (∀ node : XmlNode,
      (asReleaseLoadFromXml xc ctx release node).issues = release.issues ++ node.children.flatMap
        (fun b => if b.IsElementNamed "issues" then loadedElements (xc.issueLoadFromXml ctx) b.children
          else []) ∧
      (asReleaseLoadFromXml xc ctx release node).artifacts = release.artifacts ++ node.children.flatMap
        (fun b => if b.IsElementNamed "artifacts" then
          loadedElements (xc.artifactLoadFromXml ctx) b.children else [])) ∧
    (∀ (node : YamlNode) (r : AsRelease Issue Artifact), asReleaseLoadFromYaml yc ctx release node = .ok r →
      r.issues = release.issues ++ node.children.flatMap
        (fun n => if asYamlNodeGetKey n = some "issues" then
          n.children.filterMap (yc.issueLoadFromYaml ctx) else []) ∧
      r.artifacts = release.artifacts ++ node.children.flatMap
        (fun n => if asYamlNodeGetKey n = some "artifacts" then
          n.children.filterMap (yc.artifactLoadFromYaml ctx) else [])) :=
  ⟨fun node => ⟨asReleaseLoadFromXml_list xc ctx .issues release node,
      asReleaseLoadFromXml_list xc ctx .artifacts release node⟩,
    fun _ _ h => ⟨asReleaseLoadFromYaml_list yc ctx .issues h, asReleaseLoadFromYaml_list yc ctx .artifacts h⟩⟩

theorem loaders_append_loaded_entries_yaml :
    let ctx : AsContext := ⟨.metainfo, "C", true⟩
    let node := YamlNode.mk none [.mk (some "issues") [.mk (some "CVE-2024-1") []]]
    ∃ r, asReleaseLoadFromYaml textYamlCodec ctx (asReleaseNew : AsRelease String String) node = .ok r ∧
      r.issues = [] ++ node.children.flatMap
        (fun n => if asYamlNodeGetKey n = some "issues" then
          n.children.filterMap (textYamlCodec.issueLoadFromYaml ctx) else []) ∧
      r.artifacts = [] ++ node.children.flatMap
        (fun n => if asYamlNodeGetKey n = some "artifacts" then
          n.children.filterMap (textYamlCodec.artifactLoadFromYaml ctx) else []) :=
  ⟨_, rfl, (loaders_append_loaded_entries textXmlCodec textYamlCodec _ asReleaseNew).2 _ _ rfl⟩

end AppStream
