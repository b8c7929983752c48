import AppStream.Xml

namespace AppStream

section Loader

variable {Issue Artifact : Type} (c : XmlCodec Issue Artifact) (ctx : AsContext)

def loadTypeProp (release : AsRelease Issue Artifact) : Option String → AsRelease Issue Artifact
  | some prop => { release with kind := asReleaseKindFromString (some prop) }
  | none => release

/-- A `date` that does not parse is only logged. -/
def loadDateProp (release : AsRelease Issue Artifact) : Option String → AsRelease Issue Artifact
  | some prop =>
    match asIso8601ToDatetime (some prop) with
    | some time => { release with timestamp := guint64OfInt (gDateTimeToUnix time), date := some prop }
    | none => release
  | none => release

def loadDateEolProp (release : AsRelease Issue Artifact) : Option String → AsRelease Issue Artifact
  | some prop => { release with dateEol := some prop }
  | none => release

def loadTimestampProp (release : AsRelease Issue Artifact) : Option String → AsRelease Issue Artifact
  | some prop => { release with timestamp := guint64OfInt (atol prop) }
  | none => release

def loadUrgencyProp (release : AsRelease Issue Artifact) : Option String → AsRelease Issue Artifact
  | some prop => { release with urgency := asUrgencyKindFromString (some prop) }
  | none => release

/-- The attributes of `<release>`, in the order `as_release_load_from_xml` reads them: a
`timestamp` attribute overrides the instant of a `date` attribute. -/
def loadReleaseProps (release : AsRelease Issue Artifact) (node : XmlNode) : AsRelease Issue Artifact :=
  let release := asReleaseSetContext release (some ctx)
  let release := loadTypeProp release (asXmlGetPropValue node "type")
  let release := asReleaseSetVersion release (asXmlGetPropValue node "version")
  let release := loadDateProp release (asXmlGetPropValue node "date")
  let release := loadDateEolProp release (asXmlGetPropValue node "date_eol")
  let release := loadTimestampProp release (asXmlGetPropValue node "timestamp")
  loadUrgencyProp release (asXmlGetPropValue node "urgency")

/-- `translatable="no"` turns translation off; another value, or none, turns it on. -/
def descTranslatableOf (iter : XmlNode) : Bool :=
  match asXmlGetPropValue iter "translatable" with
  | some prop => prop != "no"
  | none => true

/-- One pass of the children loop of `as_release_load_from_xml`. Every `<description>`
first empties the whole table. -/
def loadReleaseChild (release : AsRelease Issue Artifact) (iter : XmlNode) : AsRelease Issue Artifact :=
  if iter.isElement then
    if iter.name = "artifacts" then
      addLoaded (fun n => if n.isElement then c.artifactLoadFromXml ctx n else none)
        asReleaseAddArtifact iter.children release
    else if iter.name = "description" then
      let release := { release with description := LocalizedTable.empty }
      if ctx.style = .catalog then
        let content := c.dumpNodeChildren iter
        match c.getNodeLocaleMatch ctx iter with
        | some lang => asReleaseSetDescription release (some content) (some lang)
        | none => release
      else
        { release with
          description := c.parseMetainfoDescriptionNode ctx iter release.description
          descTranslatable := descTranslatableOf iter }
    else if iter.name = "url" then
      asReleaseSetUrl release .details (c.getNodeValue iter)
    else if iter.name = "issues" then
      addLoaded (fun n => if n.isElement then c.issueLoadFromXml ctx n else none)
        asReleaseAddIssue iter.children release
    else release
  else release

/-- `as_release_load_from_xml`; it always returns `TRUE`. -/
def asReleaseLoadFromXml (release : AsRelease Issue Artifact) (node : XmlNode) :
    AsRelease Issue Artifact :=
  node.children.foldl (loadReleaseChild c ctx) (loadReleaseProps ctx release node)

/-- The table one `<description>` element leaves behind: in catalog style its own locale only. -/
def descriptionOf (iter : XmlNode) : LocalizedTable :=
  if ctx.style = .catalog then
    match c.getNodeLocaleMatch ctx iter with
    | some lang => LocalizedTable.empty.insert lang (c.dumpNodeChildren iter)
    | none => .empty
  else c.parseMetainfoDescriptionNode ctx iter .empty

/-- The values an `<issues>` or `<artifacts>` block contributes: one per element child the
collaborator loads, in document order. -/
def loadedElements {α : Type} (load : XmlNode → Option α) (nodes : List XmlNode) : List α :=
  nodes.filterMap fun n => if n.isElement then load n else none

/-- What one child of `<release>` does, branch by branch. -/
theorem loadReleaseChild_eq (release : AsRelease Issue Artifact) (iter : XmlNode) :
    loadReleaseChild c ctx release iter =
      if iter.IsElementNamed "artifacts" then
        { release with artifacts :=
            release.artifacts ++ loadedElements (c.artifactLoadFromXml ctx) iter.children }
      else if iter.IsElementNamed "description" then
        { release with
          description := descriptionOf c ctx iter
          descTranslatable :=
            if ctx.style = .catalog then release.descTranslatable else descTranslatableOf iter }
      else if iter.IsElementNamed "url" then { release with urlDetails := c.getNodeValue iter }
      else if iter.IsElementNamed "issues" then
        { release with issues := release.issues ++ loadedElements (c.issueLoadFromXml ctx) iter.children }
      else release := by
  by_cases he : iter.isElement
  · have hn : ∀ t, iter.IsElementNamed t ↔ iter.name = t := fun t => by
      simp [XmlNode.IsElementNamed, he]
    simp only [loadReleaseChild, descriptionOf, he, if_true, hn]
    split_ifs <;>
      first | rfl | exact addLoaded_eq _ .artifacts _ _ | exact addLoaded_eq _ .issues _ _ | (split <;> rfl)
  · simp [loadReleaseChild, XmlNode.IsElementNamed, he]

/-- A child adds to a list field only when it is that field's block. -/
theorem loadReleaseChild_list (f : ListField) (release : AsRelease Issue Artifact) (iter : XmlNode) :
    f.get (loadReleaseChild c ctx release iter) = f.get release ++
      if iter.IsElementNamed f.tag then loadedElements (c.loadEntry ctx f) iter.children else [] := by
  rw [loadReleaseChild_eq]
  cases f <;> split_ifs <;> simp_all [XmlNode.IsElementNamed, ListField.get, ListField.tag, XmlCodec.loadEntry]

theorem loadReleaseChild_description (release : AsRelease Issue Artifact) (iter : XmlNode) :
    (loadReleaseChild c ctx release iter).description =
      if iter.IsElementNamed "description" then descriptionOf c ctx iter else release.description := by
  rw [loadReleaseChild_eq]
  split_ifs <;> simp_all [XmlNode.IsElementNamed]

theorem loadReleaseChild_descTranslatable (release : AsRelease Issue Artifact) (iter : XmlNode) :
    (loadReleaseChild c ctx release iter).descTranslatable =
      if iter.IsElementNamed "description" ∧ ctx.style ≠ .catalog then descTranslatableOf iter
      else release.descTranslatable := by
  rw [loadReleaseChild_eq]
  split_ifs <;> simp_all [XmlNode.IsElementNamed]

theorem loadReleaseChild_urlDetails (release : AsRelease Issue Artifact) (iter : XmlNode) :
    (loadReleaseChild c ctx release iter).urlDetails =
      if iter.IsElementNamed "url" then c.getNodeValue iter else release.urlDetails := by
  rw [loadReleaseChild_eq]
  split_ifs <;> simp_all [XmlNode.IsElementNamed]

theorem loadReleaseChild_context (release : AsRelease Issue Artifact) (iter : XmlNode) :
    (loadReleaseChild c ctx release iter).context = release.context := by
  rw [loadReleaseChild_eq]
  split_ifs <;> rfl

/-- The children loop leaves every field the attributes set. -/
theorem loadReleaseChild_header (release : AsRelease Issue Artifact) (iter : XmlNode) :
    let r := loadReleaseChild c ctx release iter
    (r.kind, r.version, r.timestamp, r.date, r.dateEol, r.urgency) =
      (release.kind, release.version, release.timestamp, release.date, release.dateEol,
        release.urgency) := by
  rw [loadReleaseChild_eq]
  split_ifs <;> rfl

/-- The instant a `date` attribute denotes, when it parses. -/
def dateInstant (prop : Option String) : Option GDateTime := prop.bind fun d => asIso8601ToDatetime (some d)

theorem dateInstant_eq (prop : Option String) : dateInstant prop = asIso8601ToDatetime prop := by
  cases prop <;> rfl

theorem loadDateProp_eq (release : AsRelease Issue Artifact) (prop : Option String) :
    loadDateProp release prop = { release with
      timestamp := ((dateInstant prop).map fun time => guint64OfInt (gDateTimeToUnix time)).getD
        release.timestamp
      date := if (dateInstant prop).isSome then prop else release.date } := by
  cases prop with
  | none => rfl
  | some d => cases h : asIso8601ToDatetime (some d) <;> simp [loadDateProp, dateInstant, h]

/-- What the attributes of `<release>` leave in the record. -/
theorem loadReleaseProps_eq (release : AsRelease Issue Artifact) (node : XmlNode) :
    loadReleaseProps ctx release node = { release with
      kind := ((asXmlGetPropValue node "type").map fun p => asReleaseKindFromString (some p)).getD
        release.kind
      version := asXmlGetPropValue node "version"
      timestamp := match asXmlGetPropValue node "timestamp" with
        | some p => guint64OfInt (atol p)
        | none => ((dateInstant (asXmlGetPropValue node "date")).map fun time =>
            guint64OfInt (gDateTimeToUnix time)).getD release.timestamp
      date := if (dateInstant (asXmlGetPropValue node "date")).isSome then asXmlGetPropValue node "date"
        else release.date
      dateEol := (asXmlGetPropValue node "date_eol").or release.dateEol
      context := some ctx
      urgency := ((asXmlGetPropValue node "urgency").map fun p => asUrgencyKindFromString (some p)).getD
        release.urgency } := by
  simp only [loadReleaseProps, loadDateProp_eq]
  cases asXmlGetPropValue node "type" <;> cases asXmlGetPropValue node "date_eol" <;>
    cases asXmlGetPropValue node "timestamp" <;> cases asXmlGetPropValue node "urgency" <;> rfl

/-- The blocks of a list field append, in document order, every value the collaborator loads. -/
theorem asReleaseLoadFromXml_list (f : ListField) (release : AsRelease Issue Artifact) (node : XmlNode) :
    f.get (asReleaseLoadFromXml c ctx release node) = f.get release ++ node.children.flatMap
      fun b => if b.IsElementNamed f.tag then loadedElements (c.loadEntry ctx f) b.children else [] := by
  rw [asReleaseLoadFromXml, foldl_field_append _ f.get _ (loadReleaseChild_list c ctx f), loadReleaseProps_eq]
  cases f <;> rfl

/-- The table after a load is the one the last `<description>` child left. -/
theorem asReleaseLoadFromXml_description (release : AsRelease Issue Artifact) (node : XmlNode) :
    (asReleaseLoadFromXml c ctx release node).description =
      (((node.children.filter (·.IsElementNamed "description")).getLast?).map
        (descriptionOf c ctx)).getD release.description := by
  rw [asReleaseLoadFromXml, foldl_field_last _ AsRelease.description _ _ (loadReleaseChild_description c ctx),
    loadReleaseProps_eq]

/-- In catalog style a load that meets a `<description>` child leaves at most one locale. -/
theorem catalog_load_keeps_one_locale (hs : ctx.style = .catalog) (release : AsRelease Issue Artifact)
    (node : XmlNode) (hd : ∃ b ∈ node.children, b.IsElementNamed "description") :
    (asReleaseLoadFromXml c ctx release node).description.entries.length ≤ 1 := by
  obtain ⟨b, hb, hn⟩ := hd
  obtain ⟨last, hl⟩ : ∃ last, (node.children.filter (·.IsElementNamed "description")).getLast? = some last :=
    Option.isSome_iff_exists.mp (List.getLast?_isSome.mpr
      (List.ne_nil_of_mem (List.mem_filter.mpr ⟨hb, by simpa using hn⟩)))
  rw [asReleaseLoadFromXml_description, hl]
  simp only [Option.map_some', Option.getD_some, descriptionOf, hs, if_true]
  split <;> simp [LocalizedTable.insert, LocalizedTable.empty]

theorem catalog_load_keeps_one_locale_two_children :
    let ctx : AsContext := ⟨.catalog, "C", true⟩
    let node := XmlNode.element "release" []
      [.element "description" [("xml:lang", "de")] [.text "Fehlerbehebungen"],
       .element "description" [("xml:lang", "fr")] [.text "Corrections"]]
    ctx.style = .catalog ∧ (∃ b ∈ node.children, b.IsElementNamed "description") ∧
      (asReleaseLoadFromXml textXmlCodec ctx (asReleaseNew : AsRelease String String) node).description.entries.length ≤ 1 :=
  ⟨rfl, ⟨_, List.mem_cons_self _ _, ⟨rfl, rfl⟩⟩,
    catalog_load_keeps_one_locale textXmlCodec _ rfl _ _ ⟨_, List.mem_cons_self _ _, ⟨rfl, rfl⟩⟩⟩

/-- A catalog `<release>` with a German and then a French description, read under a context
that accepts every locale: the French element empties the table before storing its own text,
so the German text is gone. -/
theorem catalog_later_description_drops_earlier :
    let ctx : AsContext := ⟨.catalog, "C", true⟩
    let node := XmlNode.element "release" []
      [.element "description" [("xml:lang", "de")] [.text "Fehlerbehebungen"],
       .element "description" [("xml:lang", "fr")] [.text "Corrections"]]
    let r := asReleaseLoadFromXml textXmlCodec ctx (asReleaseNew : AsRelease String String) node
    r.description.lookup "de" = none ∧ r.description.lookup "fr" = some "Corrections" := by
  decide

theorem asReleaseLoadFromXml_urlDetails (release : AsRelease Issue Artifact) (node : XmlNode) :
    (asReleaseLoadFromXml c ctx release node).urlDetails =
      (((node.children.filter (·.IsElementNamed "url")).getLast?).map c.getNodeValue).getD
        release.urlDetails := by
  rw [asReleaseLoadFromXml, foldl_field_last _ AsRelease.urlDetails _ _ (loadReleaseChild_urlDetails c ctx),
    loadReleaseProps_eq]

theorem asReleaseLoadFromXml_descTranslatable (release : AsRelease Issue Artifact) (node : XmlNode)
    (hs : ctx.style ≠ .catalog) :
    (asReleaseLoadFromXml c ctx release node).descTranslatable =
      (((node.children.filter (·.IsElementNamed "description")).getLast?).map
        descTranslatableOf).getD release.descTranslatable := by
  rw [asReleaseLoadFromXml, foldl_field_last _ AsRelease.descTranslatable
    (·.IsElementNamed "description") descTranslatableOf
    (fun r n => by simp [loadReleaseChild_descTranslatable, hs]), loadReleaseProps_eq]

/-- Catalog style never touches the translatable flag. -/
theorem asReleaseLoadFromXml_descTranslatable_catalog (hs : ctx.style = .catalog)
    (release : AsRelease Issue Artifact) (node : XmlNode) :
    (asReleaseLoadFromXml c ctx release node).descTranslatable = release.descTranslatable := by
  rw [asReleaseLoadFromXml, foldl_field_frame _ AsRelease.descTranslatable
    (fun r n => by simp [loadReleaseChild_descTranslatable, hs]), loadReleaseProps_eq]

theorem asReleaseLoadFromXml_context (release : AsRelease Issue Artifact) (node : XmlNode) :
    (asReleaseLoadFromXml c ctx release node).context = some ctx := by
  rw [asReleaseLoadFromXml, foldl_field_frame _ AsRelease.context (loadReleaseChild_context c ctx),
    loadReleaseProps_eq]

/-- In catalog style one `<description>` element yields at most one locale. -/
theorem descriptionOf_catalog_length (hs : ctx.style = .catalog) (iter : XmlNode) :
    (descriptionOf c ctx iter).entries.length ≤ 1 := by
  simp only [descriptionOf, hs, if_true]
  split <;> simp [LocalizedTable.insert, LocalizedTable.empty]

/-- A catalog load into a table of at most one locale leaves a table of at most one locale. -/
theorem asReleaseLoadFromXml_catalog_length (hs : ctx.style = .catalog) (release : AsRelease Issue Artifact)
    (node : XmlNode) (h : release.description.entries.length ≤ 1) :
    (asReleaseLoadFromXml c ctx release node).description.entries.length ≤ 1 := by
  rw [asReleaseLoadFromXml_description]
  cases (node.children.filter (·.IsElementNamed "description")).getLast? with
  | none => exact h
  | some n => exact descriptionOf_catalog_length c ctx hs n

theorem asReleaseLoadFromXml_header (release : AsRelease Issue Artifact) (node : XmlNode) :
    let r := asReleaseLoadFromXml c ctx release node
    let p := loadReleaseProps ctx release node
    (r.kind, r.version, r.timestamp, r.date, r.dateEol, r.urgency) =
      (p.kind, p.version, p.timestamp, p.date, p.dateEol, p.urgency) :=
  foldl_field_frame _
    (fun r : AsRelease Issue Artifact => (r.kind, r.version, r.timestamp, r.date, r.dateEol, r.urgency))
    (loadReleaseChild_header c ctx) _ _

/-- What an XML load leaves, field by field: the attributes' record, then per name the last
`<description>` and `<url>`, and every `<issues>` and `<artifacts>` block. -/
theorem asReleaseLoadFromXml_eq (release : AsRelease Issue Artifact) (node : XmlNode) :
    asReleaseLoadFromXml c ctx release node = { loadReleaseProps ctx release node with
      description := (((node.children.filter (·.IsElementNamed "description")).getLast?).map
        (descriptionOf c ctx)).getD release.description
      descTranslatable := if ctx.style = .catalog then release.descTranslatable else
        (((node.children.filter (·.IsElementNamed "description")).getLast?).map
          descTranslatableOf).getD release.descTranslatable
      urlDetails := (((node.children.filter (·.IsElementNamed "url")).getLast?).map c.getNodeValue).getD
        release.urlDetails
      issues := release.issues ++ (node.children.filter (·.IsElementNamed "issues")).flatMap
        fun b => loadedElements (c.issueLoadFromXml ctx) b.children
      artifacts := release.artifacts ++ (node.children.filter (·.IsElementNamed "artifacts")).flatMap
        fun b => loadedElements (c.artifactLoadFromXml ctx) b.children } := by
  have h := asReleaseLoadFromXml_header c ctx release node
  simp only [Prod.mk.injEq] at h
  apply AsRelease.ext
  · exact h.1
  · exact h.2.1
  · exact asReleaseLoadFromXml_description c ctx release node
  · exact h.2.2.1
  · exact h.2.2.2.1
  · exact h.2.2.2.2.1
  · rw [asReleaseLoadFromXml_context, loadReleaseProps_eq]
  · split
    · exact asReleaseLoadFromXml_descTranslatable_catalog c ctx ‹_› release node
    · exact asReleaseLoadFromXml_descTranslatable c ctx release node ‹_›
  · simpa only [flatMap_ite_filter] using asReleaseLoadFromXml_list c ctx .issues release node
  · simpa only [flatMap_ite_filter] using asReleaseLoadFromXml_list c ctx .artifacts release node
  · exact asReleaseLoadFromXml_urlDetails c ctx release node
  · exact h.2.2.2.2.2

end Loader

end AppStream