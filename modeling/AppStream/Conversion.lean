import AppStream.XmlRoundTrip
import AppStream.YamlEmit

namespace AppStream

/-- The instant a round trip leaves in either style, the same for XML and YAML, is left unchanged
by a second round trip. -/
theorem roundTripInstant_idem (ctx : AsContext) (t : UInt64) :
    let f := fun t : UInt64 => if ctx.style = .catalog then
        (if 0 < t then guint64OfInt (atol (String.mk (decimalDigits t.toNat))) else 0)
      else if InGDateTimeRange t then t else 0
    f (f t) = f t := by
  by_cases hs : ctx.style = .catalog
  · simp only [hs, if_true, catalogInstant_eq]
    exact saturate_saturate t
  · simp only [hs, if_false]
    exact inGDateTimeRange_clip t

section Stable

variable {Issue Artifact : Type}

/-- One XML round trip reaches a fixed point: what is read back from the `<release>` written for a
release already read back from its own XML is that release again, its description table up to the
order of its locales and its translatable flag whenever the table has a locale. -/
theorem xml_round_trip_stable {c : XmlCodec Issue Artifact} (hc : c.Lawful) {ctx : AsContext}
    (hall : ctx.localeUseAll = true) (release : AsRelease Issue Artifact) :
    let once := asReleaseLoadFromXml c ctx asReleaseNew (asReleaseToXmlNode c release ctx)
    let twice := asReleaseLoadFromXml c ctx asReleaseNew (asReleaseToXmlNode c once ctx)
    { twice with description := once.description, descTranslatable := once.descTranslatable } = once ∧
      twice.description.lookup = once.description.lookup ∧
      (once.description.entries ≠ [] → twice.descTranslatable = once.descTranslatable) := by
  intro once twice
  obtain ⟨hk, hv, he, hu⟩ := loadFromXml_toXmlNode_header c once ctx
  have ht1 : once.timestamp = _ := loadFromXml_toXmlNode_timestamp c release ctx
  have hts : twice.timestamp = once.timestamp := by
    have ht2 : twice.timestamp = _ := loadFromXml_toXmlNode_timestamp c once ctx
    rw [ht2, ht1]
    exact roundTripInstant_idem ctx _
  have hdate : twice.date = once.date := by
    have hd2 : twice.date = _ := loadFromXml_toXmlNode_date c once ctx
    have hd1 : once.date = _ := loadFromXml_toXmlNode_date c release ctx
    rw [hd2, hd1, ht1]
    by_cases hs : ctx.style = .catalog
    · simp [hs]
    · simp only [hs, if_false, ne_eq, not_false_eq_true, and_true]
      exact formatIso8601_clip _
  have hctx : twice.context = once.context :=
    (asReleaseLoadFromXml_context c ctx _ _).trans (asReleaseLoadFromXml_context c ctx _ _).symm
  refine ⟨AsRelease.ext hk hv rfl hts hdate he hctx rfl (loadFromXml_toXmlNode_list hc ctx once .issues)
    (loadFromXml_toXmlNode_list hc ctx once .artifacts) (loadFromXml_toXmlNode_urlDetails hc ctx once) hu, ?_, ?_⟩
  · by_cases hs : ctx.style = .catalog
    · exact loadFromXml_toXmlNode_description_catalog hc ctx once hall hs
        (asReleaseLoadFromXml_catalog_length c ctx hs _ _ (by simp [asReleaseNew, LocalizedTable.empty]))
    · exact loadFromXml_toXmlNode_description_metainfo hc ctx once hall hs
  · intro hne
    by_cases hs : ctx.style = .catalog
    · exact (asReleaseLoadFromXml_descTranslatable_catalog c ctx hs _ _).trans
        (asReleaseLoadFromXml_descTranslatable_catalog c ctx hs _ _).symm
    · exact loadFromXml_toXmlNode_translatable hc ctx once hs hne

theorem xml_round_trip_stable_metainfo :
    let ctx : AsContext := ⟨.metainfo, "C", true⟩
    let release := asReleaseSetTimestamp (asReleaseNew : AsRelease String String) 253402300800
    let once := asReleaseLoadFromXml textXmlCodec ctx asReleaseNew (asReleaseToXmlNode textXmlCodec release ctx)
    let twice := asReleaseLoadFromXml textXmlCodec ctx asReleaseNew (asReleaseToXmlNode textXmlCodec once ctx)
    textXmlCodec.Lawful ∧ ctx.localeUseAll = true ∧
      ({ twice with description := once.description, descTranslatable := once.descTranslatable } = once ∧
        twice.description.lookup = once.description.lookup ∧
        (once.description.entries ≠ [] → twice.descTranslatable = once.descTranslatable)) :=
  ⟨textXmlCodec_lawful, rfl, xml_round_trip_stable textXmlCodec_lawful rfl _⟩

/-- One YAML round trip reaches a fixed point: both loads succeed, and what is read back from the
mapping written for a release already read back from its own YAML is that release again, its
description table up to the order of its locales. -/
theorem yaml_round_trip_stable {c : YamlCodec Issue Artifact} (hc : c.Lawful) {ctx : AsContext}
    (hall : ctx.localeUseAll = true) (release : AsRelease Issue Artifact) :
    ∃ once twice, asReleaseLoadFromYaml c ctx asReleaseNew (asReleaseEmitYaml c release ctx) = .ok once ∧
      asReleaseLoadFromYaml c ctx asReleaseNew (asReleaseEmitYaml c once ctx) = .ok twice ∧
      { twice with description := once.description } = once ∧
      twice.description.lookup = once.description.lookup := by
  obtain ⟨once, h1⟩ := (asReleaseLoadFromYaml_isOk c ctx asReleaseNew (asReleaseEmitYaml c release ctx)).mpr
    (releaseYamlEntries_no_fault release hc)
  obtain ⟨twice, h2⟩ := (asReleaseLoadFromYaml_isOk c ctx asReleaseNew (asReleaseEmitYaml c once ctx)).mpr
    (releaseYamlEntries_no_fault once hc)
  have hts : twice.timestamp = once.timestamp := by
    rw [loadFromYaml_emitYaml_timestamp once hc h2, loadFromYaml_emitYaml_timestamp release hc h1]
    exact roundTripInstant_idem ctx _
  have hc1 := asReleaseLoadFromYaml_context c ctx h1
  have hc2 := asReleaseLoadFromYaml_context c ctx h2
  refine ⟨once, twice, h1, h2, AsRelease.ext (loadFromYaml_emitYaml_kind once hc h2 :)
    (loadFromYaml_emitYaml_version once hc h2 :) rfl hts
    ((asReleaseLoadFromYaml_date c ctx h2).trans (asReleaseLoadFromYaml_date c ctx h1).symm)
    (loadFromYaml_emitYaml_dateEol once hc h2 :) (hc2.1.trans hc1.1.symm) (hc2.2.trans hc1.2.symm)
    (loadFromYaml_emitYaml_list once hc h2 .issues :) (loadFromYaml_emitYaml_list once hc h2 .artifacts :)
    (loadFromYaml_emitYaml_urlDetails once hc h2 :) (loadFromYaml_emitYaml_urgency once hc h2 :),
    loadFromYaml_emitYaml_description once hc h2 hall⟩

theorem yaml_round_trip_stable_catalog :
    let ctx : AsContext := ⟨.catalog, "C", true⟩
    let release := asReleaseSetDate (asReleaseNew : AsRelease String String) (some "1969-12-31")
    textYamlCodec.Lawful ∧ ctx.localeUseAll = true ∧
      ∃ once twice,
        asReleaseLoadFromYaml textYamlCodec ctx asReleaseNew (asReleaseEmitYaml textYamlCodec release ctx) =
          .ok once ∧
        asReleaseLoadFromYaml textYamlCodec ctx asReleaseNew (asReleaseEmitYaml textYamlCodec once ctx) =
          .ok twice ∧
        { twice with description := once.description } = once ∧
        twice.description.lookup = once.description.lookup :=
  ⟨textYamlCodec_lawful, rfl, yaml_round_trip_stable textYamlCodec_lawful rfl _⟩

end Stable

section Formats

variable {Issue Artifact : Type}

/-- The XML and the YAML written for one release in one style read back alike, but for what only
the XML reader stores: the date text and the translatable flag, which YAML leaves unset and on,
and, in catalog style, a description of several locales, of which XML keeps one. -/
theorem xml_yaml_reload_agree {xc : XmlCodec Issue Artifact} {yc : YamlCodec Issue Artifact}
    (hx : xc.Lawful) (hy : yc.Lawful) {ctx : AsContext} (hall : ctx.localeUseAll = true)
    (release : AsRelease Issue Artifact) :
    let rx := asReleaseLoadFromXml xc ctx asReleaseNew (asReleaseToXmlNode xc release ctx)
    ∃ ry, asReleaseLoadFromYaml yc ctx asReleaseNew (asReleaseEmitYaml yc release ctx) = .ok ry ∧
      { rx with date := none, descTranslatable := true, description := ry.description } = ry ∧
      (ctx.style ≠ .catalog ∨ release.description.entries.length ≤ 1 →
        rx.description.lookup = ry.description.lookup) := by
  intro rx
  obtain ⟨ry, h⟩ := (asReleaseLoadFromYaml_isOk yc ctx asReleaseNew (asReleaseEmitYaml yc release ctx)).mpr
    (releaseYamlEntries_no_fault release hy)
  obtain ⟨hk, hv, he, hu⟩ := loadFromXml_toXmlNode_header xc release ctx
  have hts : rx.timestamp = ry.timestamp :=
    (loadFromXml_toXmlNode_timestamp xc release ctx).trans (loadFromYaml_emitYaml_timestamp release hy h).symm
  have hcy := asReleaseLoadFromYaml_context yc ctx h
  refine ⟨ry, h, AsRelease.ext (hk.trans (loadFromYaml_emitYaml_kind release hy h).symm)
    (hv.trans (loadFromYaml_emitYaml_version release hy h).symm) rfl hts
    (asReleaseLoadFromYaml_date yc ctx h).symm
    (he.trans (loadFromYaml_emitYaml_dateEol release hy h).symm)
    ((asReleaseLoadFromXml_context xc ctx _ _).trans hcy.1.symm) hcy.2.symm
    ((loadFromXml_toXmlNode_list hx ctx release .issues).trans (loadFromYaml_emitYaml_list release hy h .issues).symm)
    ((loadFromXml_toXmlNode_list hx ctx release .artifacts).trans
      (loadFromYaml_emitYaml_list release hy h .artifacts).symm)
    ((loadFromXml_toXmlNode_urlDetails hx ctx release).trans
      (loadFromYaml_emitYaml_urlDetails release hy h).symm)
    (hu.trans (loadFromYaml_emitYaml_urgency release hy h).symm), fun hd => ?_⟩
  rw [loadFromYaml_emitYaml_description release hy h hall]
  by_cases hs : ctx.style = .catalog
  · exact loadFromXml_toXmlNode_description_catalog hx ctx release hall hs (hd.resolve_left (not_not.mpr hs))
  · exact loadFromXml_toXmlNode_description_metainfo hx ctx release hall hs

theorem xml_yaml_reload_agree_metainfo :
    let ctx : AsContext := ⟨.metainfo, "C", true⟩
    let release := asReleaseSetDescription
      (asReleaseSetTimestamp (asReleaseNew : AsRelease String String) 1700000000) (some "Bug fixes") none
    let rx := asReleaseLoadFromXml textXmlCodec ctx asReleaseNew (asReleaseToXmlNode textXmlCodec release ctx)
    textXmlCodec.Lawful ∧ textYamlCodec.Lawful ∧ ctx.localeUseAll = true ∧
      ∃ ry, asReleaseLoadFromYaml textYamlCodec ctx asReleaseNew (asReleaseEmitYaml textYamlCodec release ctx) =
          .ok ry ∧
        { rx with date := none, descTranslatable := true, description := ry.description } = ry ∧
        (ctx.style ≠ .catalog ∨ release.description.entries.length ≤ 1 →
          rx.description.lookup = ry.description.lookup) :=
  ⟨textXmlCodec_lawful, textYamlCodec_lawful, rfl,
    xml_yaml_reload_agree textXmlCodec_lawful textYamlCodec_lawful rfl _⟩

/-- Converting a `timestamp` attribute into a `date` attribute, as reading catalog XML and writing
metainfo XML does: the `date` written is GLib's text of the signed value `atol` read, so a negative
timestamp, kept wrapped in the `guint64`, comes out as a date before 1970, and zero writes none. -/
theorem timestamp_attribute_to_date (c : XmlCodec Issue Artifact) (ctx target : AsContext)
    (ht : target.style ≠ .catalog) (release : AsRelease Issue Artifact) {node : XmlNode} {s : String}
    (hs : asXmlGetPropValue node "timestamp" = some s) :
    asXmlGetPropValue (asReleaseToXmlNode c (asReleaseLoadFromXml c ctx release node) target) "date" =
      if atol s = 0 then none else gDateTimeFormatIso8601 (gDateTimeNewFromUnixUtc (atol s)) := by
  have hh := asReleaseLoadFromXml_header c ctx release node
  simp only [Prod.mk.injEq] at hh
  have hts : (asReleaseLoadFromXml c ctx release node).timestamp = guint64OfInt (atol s) := by
    rw [hh.2.2.1, loadReleaseProps_eq]
    simp [hs]
  obtain ⟨h1, h2⟩ := atol_bounds s
  rw [releaseProps_date, hts, gint64OfGuint64_guint64OfInt h1 h2]
  by_cases h0 : atol s = 0
  · simp [h0, guint64OfInt]
  · simp [h0, ht, (guint64OfInt_pos h1 h2).mpr h0]

theorem timestamp_attribute_to_date_negative :
    let node := XmlNode.element "release" [("timestamp", "-86400")] []
    let catalog : AsContext := ⟨.catalog, "C", true⟩
    let metainfo : AsContext := ⟨.metainfo, "C", true⟩
    metainfo.style ≠ .catalog ∧ asXmlGetPropValue node "timestamp" = some "-86400" ∧
      asXmlGetPropValue (asReleaseToXmlNode textXmlCodec
          (asReleaseLoadFromXml textXmlCodec catalog (asReleaseNew : AsRelease String String) node) metainfo)
          "date" =
        if atol "-86400" = 0 then none else gDateTimeFormatIso8601 (gDateTimeNewFromUnixUtc (atol "-86400")) :=
  ⟨by decide, rfl, timestamp_attribute_to_date textXmlCodec _ _ (by decide) asReleaseNew rfl⟩

end Formats

end AppStream
