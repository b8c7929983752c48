import AppStream.XmlLoad

namespace AppStream

section Writer

variable {Issue Artifact : Type} (c : XmlCodec Issue Artifact)

/-- The attributes `as_release_to_xml_node` writes; catalog style writes the instant as a
`timestamp`, any other style as a `date`. -/
def releaseProps (release : AsRelease Issue Artifact) (ctx : AsContext) : List (String × String) :=
  let props := asXmlAddTextProp [] "type" (some (asReleaseKindToString release.kind))
  let props := asXmlAddTextProp props "version" release.version
  let props :=
    if 0 < release.timestamp then
      if ctx.style = .catalog then
        asXmlAddTextProp props "timestamp" (some (String.mk (decimalDigits release.timestamp.toNat)))
      else
        asXmlAddTextProp props "date"
          (gDateTimeFormatIso8601 (gDateTimeNewFromUnixUtc (gint64OfGuint64 release.timestamp)))
    else props
  let props :=
    if release.dateEol ≠ none then asXmlAddTextProp props "date_eol" release.dateEol else props
  if release.urgency ≠ .unknown then
    asXmlAddTextProp props "urgency" (some (asUrgencyKindToString release.urgency))
  else props

/-- The child elements `as_release_to_xml_node` writes, in order; an empty `<issues>` or
`<artifacts>` block is left out. -/
def releaseChildren (release : AsRelease Issue Artifact) (ctx : AsContext) : List XmlNode :=
  let children := asXmlAddDescriptionNode c ctx release.description release.descTranslatable
  let children := match release.urlDetails with
    | some url => children ++ [c.addTextNode "url" url]
    | none => children
  let children :=
    if 0 < release.issues.length then
      children ++ [.element "issues" [] (release.issues.map (c.issueToXmlNode ctx))]
    else children
  if 0 < release.artifacts.length then
    children ++ [.element "artifacts" [] (release.artifacts.map (c.artifactToXmlNode ctx))]
  else children

/-- `as_release_to_xml_node`: the `<release>` element it adds under `root`. -/
def asReleaseToXmlNode (release : AsRelease Issue Artifact) (ctx : AsContext) : XmlNode :=
  .element "release" (releaseProps release ctx) (releaseChildren c release ctx)

/-- The block `as_release_to_xml_node` writes for a list field; an empty field writes none. -/
def listBlock (ctx : AsContext) (f : ListField) (release : AsRelease Issue Artifact) : List XmlNode :=
  if 0 < (f.get release).length then [.element f.tag [] ((f.get release).map (c.entryToXmlNode ctx f))]
  else []

theorem asReleaseToXmlNode_children (release : AsRelease Issue Artifact) (ctx : AsContext) :
    (asReleaseToXmlNode c release ctx).children = releaseChildren c release ctx := rfl

/-- The child list of `<release>` as four consecutive groups. -/
theorem releaseChildren_eq (release : AsRelease Issue Artifact) (ctx : AsContext) :
    releaseChildren c release ctx =
      asXmlAddDescriptionNode c ctx release.description release.descTranslatable ++
        (release.urlDetails.map (c.addTextNode "url")).toList ++
        listBlock c ctx .issues release ++ listBlock c ctx .artifacts release := by
  simp only [releaseChildren, listBlock, ListField.get, ListField.tag, XmlCodec.entryToXmlNode]
  cases release.urlDetails <;> split_ifs <;> simp

end Writer

theorem find?_asXmlAddTextProp (props : List (String × String)) (n name : String) (v : Option String) :
    (asXmlAddTextProp props n v).find? (·.1 = name) =
      (props.find? (·.1 = name)).or (if n = name then v.map (n, ·) else none) := by
  cases v with
  | none => by_cases h : n = name <;> simp [asXmlAddTextProp, h]
  | some v =>
    cases hf : props.find? (·.1 = name) <;> by_cases h : n = name <;>
      simp [asXmlAddTextProp, List.find?_append, hf, h]

theorem find?_ite {α : Type} (c : Prop) [Decidable c] (a b : List α) (p : α → Bool) :
    (if c then a else b).find? p = if c then a.find? p else b.find? p := by
  split <;> rfl

section Props

variable {Issue Artifact : Type} (c : XmlCodec Issue Artifact) (release : AsRelease Issue Artifact)
  (ctx : AsContext)

theorem releaseProps_type :
    asXmlGetPropValue (asReleaseToXmlNode c release ctx) "type" =
      some (asReleaseKindToString release.kind) := by
  simp only [asReleaseToXmlNode, asXmlGetPropValue, releaseProps, find?_ite, find?_asXmlAddTextProp]
  simp

theorem releaseProps_version :
    asXmlGetPropValue (asReleaseToXmlNode c release ctx) "version" = release.version := by
  simp only [asReleaseToXmlNode, asXmlGetPropValue, releaseProps, find?_ite, find?_asXmlAddTextProp]
  cases release.version <;> simp

/-- Catalog style writes a positive instant as a decimal `timestamp` and nothing else does. -/
theorem releaseProps_timestamp :
    asXmlGetPropValue (asReleaseToXmlNode c release ctx) "timestamp" =
      if 0 < release.timestamp ∧ ctx.style = .catalog then
        some (String.mk (decimalDigits release.timestamp.toNat)) else none := by
  simp only [asReleaseToXmlNode, asXmlGetPropValue, releaseProps, find?_ite, find?_asXmlAddTextProp]
  by_cases ht : 0 < release.timestamp <;> by_cases hs : ctx.style = .catalog <;> simp [ht, hs]

/-- Any other style writes a positive instant as an ISO-8601 `date`, absent when GLib cannot
represent it. -/
theorem releaseProps_date :
    asXmlGetPropValue (asReleaseToXmlNode c release ctx) "date" =
      if 0 < release.timestamp ∧ ctx.style ≠ .catalog then
        gDateTimeFormatIso8601 (gDateTimeNewFromUnixUtc (gint64OfGuint64 release.timestamp))
      else none := by
  simp only [asReleaseToXmlNode, asXmlGetPropValue, releaseProps, find?_ite, find?_asXmlAddTextProp]
  by_cases ht : 0 < release.timestamp <;> by_cases hs : ctx.style = .catalog <;>
    cases gDateTimeFormatIso8601 (gDateTimeNewFromUnixUtc (gint64OfGuint64 release.timestamp)) <;>
    simp [ht, hs]

theorem releaseProps_dateEol :
    asXmlGetPropValue (asReleaseToXmlNode c release ctx) "date_eol" = release.dateEol := by
  simp only [asReleaseToXmlNode, asXmlGetPropValue, releaseProps, find?_ite, find?_asXmlAddTextProp]
  cases release.dateEol <;> simp

theorem releaseProps_urgency :
    asXmlGetPropValue (asReleaseToXmlNode c release ctx) "urgency" =
      if release.urgency ≠ .unknown then some (asUrgencyKindToString release.urgency) else none := by
  simp only [asReleaseToXmlNode, asXmlGetPropValue, releaseProps, find?_ite, find?_asXmlAddTextProp]
  by_cases hu : release.urgency = .unknown <;> simp [hu]

end Props

theorem XmlNode.IsElementNamed.not_named {n : XmlNode} {a b : String} (h : n.IsElementNamed a)
    (hab : a ≠ b) : ¬n.IsElementNamed b := fun hb => hab (h.2.symm.trans hb.2)

theorem isElementNamed_element (tag : String) (props : List (String × String)) (cs : List XmlNode) :
    (XmlNode.element tag props cs).IsElementNamed tag := ⟨rfl, rfl⟩

/-- Selecting the elements named `b` from a list of elements all named `a`. -/
theorem filter_named_of_all {l : List XmlNode} {a : String} (h : ∀ n ∈ l, n.IsElementNamed a)
    (b : String) : l.filter (·.IsElementNamed b) = if a = b then l else [] := by
  split
  · subst b
    exact List.filter_eq_self.mpr fun n hn => by simpa using h n hn
  · exact List.filter_eq_nil_iff.mpr fun n hn => by simpa using (h n hn).not_named ‹a ≠ b›

end AppStream
