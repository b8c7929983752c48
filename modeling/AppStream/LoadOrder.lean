import AppStream.XmlLoad
import AppStream.YamlLoad

namespace AppStream

theorem getD_getD_self {α : Type} (o : Option α) (x : α) : o.getD (o.getD x) = o.getD x := by
  cases o <;> rfl

section XmlOrder

variable {Issue Artifact : Type} (c : XmlCodec Issue Artifact) (ctx : AsContext)

/-- The XML loader reads the children of `<release>` name by name: two elements with the same
attributes whose children of each name come in the same order load alike, however children of
different names are interleaved and whatever other nodes stand between them. -/
theorem asReleaseLoadFromXml_interleaving (release : AsRelease Issue Artifact) {a b : XmlNode}
    (hp : ∀ name, asXmlGetPropValue a name = asXmlGetPropValue b name)
    (hc : ∀ tag, a.children.filter (·.IsElementNamed tag) = b.children.filter (·.IsElementNamed tag)) :
    asReleaseLoadFromXml c ctx release a = asReleaseLoadFromXml c ctx release b := by
  have hprops : loadReleaseProps ctx release a = loadReleaseProps ctx release b := by
    simp only [loadReleaseProps, hp]
  rw [asReleaseLoadFromXml_eq, asReleaseLoadFromXml_eq, hprops]
  simp only [hc]

theorem asReleaseLoadFromXml_interleaving_url_first :
    let a := XmlNode.element "release" [("version", "1.0")]
      [.element "url" [] [.text "https://example.org/1.0"], .text "\n", .element "issues" [] []]
    let b := XmlNode.element "release" [("version", "1.0")]
      [.element "issues" [] [], .element "url" [] [.text "https://example.org/1.0"]]
    (∀ name, asXmlGetPropValue a name = asXmlGetPropValue b name) ∧
      (∀ tag, a.children.filter (·.IsElementNamed tag) = b.children.filter (·.IsElementNamed tag)) ∧
      asReleaseLoadFromXml textXmlCodec ⟨.metainfo, "C", true⟩ (asReleaseNew : AsRelease String String) a =
        asReleaseLoadFromXml textXmlCodec ⟨.metainfo, "C", true⟩ asReleaseNew b := by
  intro a b
  have hp : ∀ name, asXmlGetPropValue a name = asXmlGetPropValue b name := fun _ => rfl
  have hc : ∀ tag, a.children.filter (·.IsElementNamed tag) = b.children.filter (·.IsElementNamed tag) := by
    intro tag
    by_cases hu : tag = "url"
    · subst hu; rfl
    by_cases hi : tag = "issues"
    · subst hi; rfl
    simp [a, b, XmlNode.IsElementNamed, XmlNode.isElement, XmlNode.name, XmlNode.children, Ne.symm hu,
      Ne.symm hi]
  exact ⟨hp, hc, asReleaseLoadFromXml_interleaving textXmlCodec _ asReleaseNew hp hc⟩

/-- Loading one `<release>` element twice gives what loading it once gives, except that its
issues and artifacts are added a second time. -/
theorem asReleaseLoadFromXml_twice (release : AsRelease Issue Artifact) (node : XmlNode) :
    let once := asReleaseLoadFromXml c ctx release node
    asReleaseLoadFromXml c ctx once node =
      { once with
        issues := once.issues ++ (node.children.filter (·.IsElementNamed "issues")).flatMap
          fun b => loadedElements (c.issueLoadFromXml ctx) b.children
        artifacts := once.artifacts ++ (node.children.filter (·.IsElementNamed "artifacts")).flatMap
          fun b => loadedElements (c.artifactLoadFromXml ctx) b.children } := by
  intro once
  rw [asReleaseLoadFromXml_eq c ctx once]
  simp only [once, asReleaseLoadFromXml_eq c ctx release, loadReleaseProps_eq]
  -- every field the element sets it sets to the same value again; the others it keeps
  apply AsRelease.ext <;> dsimp only
  · exact getD_getD_self _ _
  · exact getD_getD_self _ _
  · cases asXmlGetPropValue node "timestamp" <;> simp only [getD_getD_self]
  · split <;> rfl
  · cases asXmlGetPropValue node "date_eol" <;> rfl
  · split <;> simp only [getD_getD_self]
  · exact getD_getD_self _ _
  · exact getD_getD_self _ _

end XmlOrder

section YamlOrder

variable {Issue Artifact : Type} (c : YamlCodec Issue Artifact) (ctx : AsContext)

/-- The YAML loader reads its mapping key by key, except that `unix-timestamp` and `date` both set
the instant: two mappings whose entries of each known key, and whose `unix-timestamp` and `date`
entries taken together, come in the same order load alike, failure included, however the keys
are interleaved and whatever unknown keys stand between them. -/
theorem asReleaseLoadFromYaml_interleaving (release : AsRelease Issue Artifact) {a b : YamlNode}
    (hk : ∀ k ∈ ["date-eol", "type", "version", "urgency", "description", "url", "issues", "artifacts"],
      a.children.filter (asYamlNodeGetKey · = some k) = b.children.filter (asYamlNodeGetKey · = some k))
    (ht : a.children.filter (fun n => asYamlNodeGetKey n = some "unix-timestamp" ∨
        asYamlNodeGetKey n = some "date") =
      b.children.filter (fun n => asYamlNodeGetKey n = some "unix-timestamp" ∨
        asYamlNodeGetKey n = some "date")) :
    asReleaseLoadFromYaml c ctx release a = asReleaseLoadFromYaml c ctx release b := by
  have hm : ∀ n, asYamlNodeGetKey n = some "unix-timestamp" → (n ∈ a.children ↔ n ∈ b.children) := by
    intro n hn
    simpa [List.mem_filter, hn] using congrArg (n ∈ ·) ht
  have hok : (∃ r, asReleaseLoadFromYaml c ctx release a = .ok r) ↔
      ∃ r, asReleaseLoadFromYaml c ctx release b = .ok r := by
    rw [asReleaseLoadFromYaml_isOk, asReleaseLoadFromYaml_isOk]
    constructor <;> intro h n hn hf
    · exact h n ((hm n hf.1).mpr hn) hf
    · exact h n ((hm n hf.1).mp hn) hf
  cases ha : asReleaseLoadFromYaml c ctx release a with
  | error e =>
    cases hb : asReleaseLoadFromYaml c ctx release b with
    | error e' => cases e; cases e'; rfl
    | ok rb =>
      obtain ⟨r, hr⟩ := hok.mpr ⟨rb, hb⟩
      rw [ha] at hr
      cases hr
  | ok ra =>
    obtain ⟨rb, hb⟩ := hok.mp ⟨ra, ha⟩
    have hl : ∀ f : ListField, f.get ra = f.get rb := fun f => by
      rw [asReleaseLoadFromYaml_list c ctx f ha, asReleaseLoadFromYaml_list c ctx f hb, flatMap_ite_filter,
        flatMap_ite_filter, hk f.tag (by cases f <;> simp [ListField.tag])]
    rw [hb]
    congr 1
    apply AsRelease.ext
    · rw [asReleaseLoadFromYaml_kind c ctx ha, asReleaseLoadFromYaml_kind c ctx hb, hk "type" (by simp)]
    · rw [asReleaseLoadFromYaml_version c ctx ha, asReleaseLoadFromYaml_version c ctx hb,
        hk "version" (by simp)]
    · rw [asReleaseLoadFromYaml_description c ctx ha, asReleaseLoadFromYaml_description c ctx hb,
        hk "description" (by simp)]
    · rw [asReleaseLoadFromYaml_timestamp c ctx ha, asReleaseLoadFromYaml_timestamp c ctx hb, ht]
    · rw [asReleaseLoadFromYaml_date c ctx ha, asReleaseLoadFromYaml_date c ctx hb]
    · rw [asReleaseLoadFromYaml_dateEol c ctx ha, asReleaseLoadFromYaml_dateEol c ctx hb,
        hk "date-eol" (by simp)]
    · rw [(asReleaseLoadFromYaml_context c ctx ha).1, (asReleaseLoadFromYaml_context c ctx hb).1]
    · rw [(asReleaseLoadFromYaml_context c ctx ha).2, (asReleaseLoadFromYaml_context c ctx hb).2]
    · exact hl .issues
    · exact hl .artifacts
    · rw [asReleaseLoadFromYaml_urlDetails c ctx ha, asReleaseLoadFromYaml_urlDetails c ctx hb,
        hk "url" (by simp)]
    · rw [asReleaseLoadFromYaml_urgency c ctx ha, asReleaseLoadFromYaml_urgency c ctx hb,
        hk "urgency" (by simp)]

theorem asReleaseLoadFromYaml_interleaving_unknown_key :
    let a := YamlNode.mk none [.mk (some "unix-timestamp") [.mk (some "1700000000") []],
      .mk (some "type") [.mk (some "development") []], .mk (some "x-origin") [.mk (some "flathub") []]]
    let b := YamlNode.mk none [.mk (some "type") [.mk (some "development") []],
      .mk (some "unix-timestamp") [.mk (some "1700000000") []]]
    (∀ k ∈ ["date-eol", "type", "version", "urgency", "description", "url", "issues", "artifacts"],
      a.children.filter (asYamlNodeGetKey · = some k) = b.children.filter (asYamlNodeGetKey · = some k)) ∧
    a.children.filter (fun n => asYamlNodeGetKey n = some "unix-timestamp" ∨
        asYamlNodeGetKey n = some "date") =
      b.children.filter (fun n => asYamlNodeGetKey n = some "unix-timestamp" ∨
        asYamlNodeGetKey n = some "date") ∧
    asReleaseLoadFromYaml textYamlCodec ⟨.catalog, "C", true⟩ (asReleaseNew : AsRelease String String) a =
      asReleaseLoadFromYaml textYamlCodec ⟨.catalog, "C", true⟩ asReleaseNew b := by
  intro a b
  have hk : ∀ k ∈ ["date-eol", "type", "version", "urgency", "description", "url", "issues", "artifacts"],
      a.children.filter (asYamlNodeGetKey · = some k) = b.children.filter (asYamlNodeGetKey · = some k) := by
    simp only [List.forall_mem_cons, List.not_mem_nil, false_implies, implies_true, and_true]
    exact ⟨rfl, rfl, rfl, rfl, rfl, rfl, rfl, rfl⟩
  have ht : a.children.filter (fun n => asYamlNodeGetKey n = some "unix-timestamp" ∨
        asYamlNodeGetKey n = some "date") =
      b.children.filter (fun n => asYamlNodeGetKey n = some "unix-timestamp" ∨
        asYamlNodeGetKey n = some "date") := rfl
  exact ⟨hk, ht, asReleaseLoadFromYaml_interleaving textYamlCodec _ asReleaseNew hk ht⟩

end YamlOrder

end AppStream
