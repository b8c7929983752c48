import AppStream.XmlEmit

namespace AppStream

section Laws

variable {Issue Artifact : Type} (c : XmlCodec Issue Artifact)

/-- What the release code needs of its collaborators for its XML to read back. Each writer emits
elements of the name its reader looks for and each reader undoes its writer, but the description's
reader only under a context that reads all locales. -/
structure XmlCodec.Lawful : Prop where
  catalog_element : ∀ l m, (c.catalogDescriptionNode l m).IsElementNamed "description"
  catalog_locale : ∀ ctx l m, ctx.localeUseAll = true →
    c.getNodeLocaleMatch ctx (c.catalogDescriptionNode l m) = some l
  catalog_content : ∀ l m, c.dumpNodeChildren (c.catalogDescriptionNode l m) = m
  metainfo_nodes : ∀ ctx t tr, ctx.style ≠ .catalog →
    (t.entries = [] ∧ c.metainfoDescriptionNodes ctx t tr = []) ∨
      ∃ n, c.metainfoDescriptionNodes ctx t tr = [n] ∧ n.IsElementNamed "description" ∧
        (t.entries ≠ [] → descTranslatableOf n = tr)
  metainfo_parse : ∀ ctx t tr n, ctx.style ≠ .catalog → ctx.localeUseAll = true →
    c.metainfoDescriptionNodes ctx t tr = [n] → (c.parseMetainfoDescriptionNode ctx n .empty).lookup = t.lookup
  text_node : ∀ name v, (c.addTextNode name v).IsElementNamed name ∧
    c.getNodeValue (c.addTextNode name v) = some v
  entry_element : ∀ ctx f x, (c.entryToXmlNode ctx f x).isElement = true
  entry_round_trip : ∀ ctx f x, c.loadEntry ctx f (c.entryToXmlNode ctx f x) = some x

/-- What a release read back from its own `<release>` element keeps, style by style: catalog
style carries the instant through `atol`, which saturates at `LONG_MAX` of a 64-bit `long`,
and keeps one locale of the description; any other style carries the instant through a GLib date,
lost outside years 1 to 9999. The description comes back under a context that reads all locales. -/
structure XmlReloadAgrees (ctx : AsContext) (r release : AsRelease Issue Artifact) : Prop where
  kind : r.kind = release.kind
  version : r.version = release.version
  dateEol : r.dateEol = release.dateEol
  urgency : r.urgency = release.urgency
  urlDetails : r.urlDetails = release.urlDetails
  issues : r.issues = release.issues
  artifacts : r.artifacts = release.artifacts
  timestamp_catalog : ctx.style = .catalog →
    r.timestamp = if release.timestamp.toNat < 2 ^ 63 then release.timestamp else guint64OfInt longMax
  timestamp_metainfo : ctx.style ≠ .catalog →
    r.timestamp = if InGDateTimeRange release.timestamp then release.timestamp else 0
  description_catalog : ctx.style = .catalog → ctx.localeUseAll = true →
    release.description.entries.length ≤ 1 → r.description.lookup = release.description.lookup
  description_metainfo : ctx.style ≠ .catalog → ctx.localeUseAll = true →
    r.description.lookup = release.description.lookup
  translatable_metainfo : ctx.style ≠ .catalog → release.description.entries ≠ [] →
    r.descTranslatable = release.descTranslatable

end Laws

section RoundTrip

variable {Issue Artifact : Type} {c : XmlCodec Issue Artifact} (hc : c.Lawful) (ctx : AsContext)
  (release : AsRelease Issue Artifact)
include hc

theorem asXmlAddDescriptionNode_named (t : LocalizedTable) (tr : Bool) :
    ∀ n ∈ asXmlAddDescriptionNode c ctx t tr, n.IsElementNamed "description" := by
  unfold asXmlAddDescriptionNode
  split
  · simp only [List.mem_map]
    rintro n ⟨e, -, rfl⟩
    exact hc.catalog_element _ _
  · rcases hc.metainfo_nodes ctx t tr ‹_› with ⟨-, h⟩ | ⟨n, h, hn, -⟩
    · simp [h]
    · simp [h, hn]

/-- Each loader branch sees exactly the group of children its writer produced. -/
theorem releaseChildren_filter :
    let ch := releaseChildren c release ctx
    ch.filter (·.IsElementNamed "description") =
        asXmlAddDescriptionNode c ctx release.description release.descTranslatable ∧
      ch.filter (·.IsElementNamed "url") = (release.urlDetails.map (c.addTextNode "url")).toList ∧
      ∀ f : ListField, ch.filter (·.IsElementNamed f.tag) = listBlock c ctx f release := by
  have hd := filter_named_of_all (asXmlAddDescriptionNode_named hc ctx release.description
    release.descTranslatable)
  have hu := filter_named_of_all (l := (release.urlDetails.map (c.addTextNode "url")).toList)
    (a := "url") (by cases release.urlDetails <;> simp [(hc.text_node _ _).1])
  have hl : ∀ g, ∀ n ∈ listBlock c ctx g release, n.IsElementNamed g.tag := fun g => by
    unfold listBlock
    split <;> simp [isElementNamed_element]
  simp only [releaseChildren_eq, List.filter_append, hd, hu, filter_named_of_all (hl .issues),
    filter_named_of_all (hl .artifacts)]
  exact ⟨by simp [ListField.tag], by simp [ListField.tag], fun f => by cases f <;> simp [ListField.tag]⟩

/-- Each list field comes back from its own block. -/
theorem loadFromXml_toXmlNode_list (f : ListField) :
    f.get (asReleaseLoadFromXml c ctx asReleaseNew (asReleaseToXmlNode c release ctx)) = f.get release := by
  rw [asReleaseLoadFromXml_list, flatMap_ite_filter, asReleaseToXmlNode_children,
    (releaseChildren_filter hc ctx release).2.2 f, listBlock]
  split
  · simp [XmlNode.children, loadedElements, List.filterMap_map, Function.comp_def, hc.entry_element,
      hc.entry_round_trip]
  · simp_all

theorem loadFromXml_toXmlNode_urlDetails :
    (asReleaseLoadFromXml c ctx asReleaseNew (asReleaseToXmlNode c release ctx)).urlDetails =
      release.urlDetails := by
  rw [asReleaseLoadFromXml_urlDetails, asReleaseToXmlNode_children,
    (releaseChildren_filter hc ctx release).2.1]
  cases release.urlDetails <;> simp [(hc.text_node _ _).2, asReleaseNew]

theorem loadFromXml_toXmlNode_description_catalog (hall : ctx.localeUseAll = true)
    (hs : ctx.style = .catalog) (hone : release.description.entries.length ≤ 1) :
    (asReleaseLoadFromXml c ctx asReleaseNew (asReleaseToXmlNode c release ctx)).description.lookup =
      release.description.lookup := by
  rw [asReleaseLoadFromXml_description, asReleaseToXmlNode_children,
    (releaseChildren_filter hc ctx release).1, asXmlAddDescriptionNode, if_pos hs]
  match h : release.description.entries, hone with
  | [], _ => simp [asReleaseNew, LocalizedTable.lookup_eq_of_entries_nil h]
  | [e], _ =>
    simp [LocalizedTable.lookup_eq_of_entries_single h, descriptionOf, hs,
      hc.catalog_locale ctx _ _ hall, hc.catalog_content]

theorem loadFromXml_toXmlNode_description_metainfo (hall : ctx.localeUseAll = true)
    (hs : ctx.style ≠ .catalog) :
    (asReleaseLoadFromXml c ctx asReleaseNew (asReleaseToXmlNode c release ctx)).description.lookup =
      release.description.lookup := by
  have hd := (releaseChildren_filter hc ctx release).1
  rw [asXmlAddDescriptionNode, if_neg hs] at hd
  rw [asReleaseLoadFromXml_description, asReleaseToXmlNode_children, hd]
  rcases hc.metainfo_nodes ctx release.description release.descTranslatable hs with
    ⟨he, hn⟩ | ⟨n, hn, -, -⟩
  · simp [hn, asReleaseNew, LocalizedTable.lookup_eq_of_entries_nil he]
  · simp [hn, descriptionOf, hs, hc.metainfo_parse ctx _ _ n hs hall hn]

theorem loadFromXml_toXmlNode_translatable (hs : ctx.style ≠ .catalog)
    (hne : release.description.entries ≠ []) :
    (asReleaseLoadFromXml c ctx asReleaseNew (asReleaseToXmlNode c release ctx)).descTranslatable =
      release.descTranslatable := by
  have hd := (releaseChildren_filter hc ctx release).1
  rw [asXmlAddDescriptionNode, if_neg hs] at hd
  rw [asReleaseLoadFromXml_descTranslatable _ _ _ _ hs, asReleaseToXmlNode_children, hd]
  rcases hc.metainfo_nodes ctx release.description release.descTranslatable hs with
    ⟨he, -⟩ | ⟨n, hn, -, ht⟩
  · exact absurd he hne
  · simp [hn, ht hne]

end RoundTrip

section Header

variable {Issue Artifact : Type} (c : XmlCodec Issue Artifact) (release : AsRelease Issue Artifact)
  (ctx : AsContext)

theorem loadFromXml_toXmlNode_header :
    let r := asReleaseLoadFromXml c ctx asReleaseNew (asReleaseToXmlNode c release ctx)
    r.kind = release.kind ∧ r.version = release.version ∧ r.dateEol = release.dateEol ∧
      r.urgency = release.urgency := by
  have h := asReleaseLoadFromXml_header c ctx asReleaseNew (asReleaseToXmlNode c release ctx)
  simp only [Prod.mk.injEq] at h
  simp only [h, loadReleaseProps_eq, releaseProps_type, releaseProps_version, releaseProps_dateEol,
    releaseProps_urgency]
  refine ⟨by simp, by simp, by simp [asReleaseNew], ?_⟩
  split_ifs with hu
  · simp
  · simpa [asReleaseNew] using (not_not.mp hu).symm

theorem loadFromXml_toXmlNode_timestamp :
    (asReleaseLoadFromXml c ctx asReleaseNew (asReleaseToXmlNode c release ctx)).timestamp =
      if ctx.style = .catalog then
        (if 0 < release.timestamp then guint64OfInt (atol (String.mk (decimalDigits release.timestamp.toNat)))
          else 0)
      else if InGDateTimeRange release.timestamp then release.timestamp else 0 := by
  have h := asReleaseLoadFromXml_header c ctx asReleaseNew (asReleaseToXmlNode c release ctx)
  simp only [Prod.mk.injEq] at h
  rw [h.2.2.1, loadReleaseProps_eq]
  simp only [releaseProps_timestamp, releaseProps_date, dateInstant_eq]
  by_cases hs : ctx.style = .catalog <;> by_cases ht : 0 < release.timestamp
  · simp [hs, ht]
  · simp [hs, ht, asReleaseNew]
  · simp only [hs, ht, true_and, and_false, if_false, ne_eq, not_false_eq_true, if_true,
      formatIso8601_instant]
    split <;> rfl
  · simp [hs, eq_zero_of_not_pos ht, asReleaseNew]

/-- The date text read back is the `date` attribute written: outside catalog style, the GLib
text of a positive instant, absent outside years 1 to 9999. -/
theorem loadFromXml_toXmlNode_date :
    (asReleaseLoadFromXml c ctx asReleaseNew (asReleaseToXmlNode c release ctx)).date =
      if 0 < release.timestamp ∧ ctx.style ≠ .catalog then
        gDateTimeFormatIso8601 (gDateTimeNewFromUnixUtc (gint64OfGuint64 release.timestamp)) else none := by
  have h := asReleaseLoadFromXml_header c ctx asReleaseNew (asReleaseToXmlNode c release ctx)
  simp only [Prod.mk.injEq] at h
  rw [h.2.2.2.1, loadReleaseProps_eq]
  simp only [releaseProps_date, dateInstant_eq]
  split
  · rw [asIso8601ToDatetime_format_new]
    cases gDateTimeNewFromUnixUtc (gint64OfGuint64 release.timestamp) <;> rfl
  · rfl

end Header

theorem textXmlCodec_lawful : textXmlCodec.Lawful where
  catalog_element _ _ := isElementNamed_element _ _ _
  catalog_locale ctx l m h := by simp [textXmlCodec, asXmlGetPropValue, h]
  catalog_content _ _ := rfl
  metainfo_nodes ctx t tr _ := by
    by_cases ht : t.entries = []
    · exact .inl ⟨ht, if_pos ht⟩
    · refine .inr ⟨_, if_neg ht, isElementNamed_element _ _ _, fun _ => ?_⟩
      cases tr <;> simp [descTranslatableOf, asXmlGetPropValue]
  metainfo_parse ctx t tr n _ _ hn := by
    by_cases ht : t.entries = []
    · simp [textXmlCodec, ht] at hn
    · simp only [textXmlCodec, ht, if_false, List.cons.injEq, and_true] at hn
      subst hn
      funext k
      simp [textXmlCodec, XmlNode.children, List.filterMap_map, Function.comp_def, paragraphEntry,
        XmlNode.soleText, asXmlGetPropValue, lookup_foldr_insert]
      rfl
  text_node _ _ := ⟨isElementNamed_element _ _ _, rfl⟩
  entry_element _ f _ := by cases f <;> rfl
  entry_round_trip _ f _ := by
    cases f <;> simp [textXmlCodec, XmlCodec.loadEntry, XmlCodec.entryToXmlNode, XmlNode.name,
      XmlNode.soleText, XmlNode.children]

/-- `as_release_to_xml_node` followed by `as_release_load_from_xml` into a fresh release, with
lawful collaborators. -/
theorem asReleaseToXmlNode_round_trip {Issue Artifact : Type} {c : XmlCodec Issue Artifact}
    (hc : c.Lawful) (ctx : AsContext) (release : AsRelease Issue Artifact) :
    XmlReloadAgrees ctx (asReleaseLoadFromXml c ctx asReleaseNew (asReleaseToXmlNode c release ctx))
      release := by
  obtain ⟨hk, hv, he, hu⟩ := loadFromXml_toXmlNode_header c release ctx
  have ht := loadFromXml_toXmlNode_timestamp c release ctx
  refine ⟨hk, hv, he, hu, loadFromXml_toXmlNode_urlDetails hc ctx release,
    loadFromXml_toXmlNode_list hc ctx release .issues, loadFromXml_toXmlNode_list hc ctx release .artifacts,
    fun hs => by rw [ht, if_pos hs, catalogInstant_eq], fun hs => by rw [ht, if_neg hs],
    fun hs hall => loadFromXml_toXmlNode_description_catalog hc ctx release hall hs,
    fun hs hall => loadFromXml_toXmlNode_description_metainfo hc ctx release hall hs,
    fun hs => loadFromXml_toXmlNode_translatable hc ctx release hs⟩

theorem asReleaseToXmlNode_round_trip_metainfo :
    let ctx : AsContext := ⟨.metainfo, "C", true⟩
    let release := asReleaseSetTimestamp (asReleaseNew : AsRelease String String) 1700000000
    textXmlCodec.Lawful ∧
      XmlReloadAgrees ctx
        (asReleaseLoadFromXml textXmlCodec ctx asReleaseNew (asReleaseToXmlNode textXmlCodec release ctx))
        release :=
  ⟨textXmlCodec_lawful, asReleaseToXmlNode_round_trip textXmlCodec_lawful _ _⟩

/-- Two releases the XML round trip does not give back: in catalog style one dated the last day
of 1969, whose instant wraps above `LONG_MAX` and is saturated by `atol`, and in metainfo style
one at the first second of year 10000, for which no `date` is written. -/
theorem xml_round_trip_loses_timestamps :
    let pre1970 := asReleaseSetDate (asReleaseNew : AsRelease String String) (some "1969-12-31")
    let y10000 := asReleaseSetTimestamp (asReleaseNew : AsRelease String String) 253402300800
    let catalog : AsContext := ⟨.catalog, "C", true⟩
    let metainfo : AsContext := ⟨.metainfo, "C", true⟩
    (asReleaseLoadFromXml textXmlCodec catalog asReleaseNew
        (asReleaseToXmlNode textXmlCodec pre1970 catalog)).timestamp ≠ pre1970.timestamp ∧
      (asReleaseLoadFromXml textXmlCodec metainfo asReleaseNew
        (asReleaseToXmlNode textXmlCodec y10000 metainfo)).timestamp ≠ y10000.timestamp := by
  refine ⟨?_, ?_⟩
  · rw [loadFromXml_toXmlNode_timestamp, if_pos rfl, atol_timestamp]
    decide
  · rw [loadFromXml_toXmlNode_timestamp, if_neg (by decide)]
    decide

end AppStream
