import AppStream.DateReconciler

namespace AppStream

/-- The part of a libxml2 node tree the release code reads: elements with their name,
attributes and children, and text; the loader skips every node that is not an element. -/
inductive XmlNode where
  | element (name : String) (props : List (String × String)) (children : List XmlNode)
  | text (content : String)
  deriving Repr

def XmlNode.isElement : XmlNode → Bool
  | .element .. => true
  | .text _ => false

/-- libxml2 names a text node `text`; the loader compares names only of elements. -/
def XmlNode.name : XmlNode → String
  | .element n _ _ => n
  | .text _ => "text"

def XmlNode.children : XmlNode → List XmlNode
  | .element _ _ cs => cs
  | .text _ => []

def XmlNode.IsElementNamed (n : XmlNode) (tag : String) : Prop := n.isElement = true ∧ n.name = tag

instance (n : XmlNode) (tag : String) : Decidable (n.IsElementNamed tag) :=
  inferInstanceAs (Decidable (n.isElement = true ∧ n.name = tag))

/-- `as_xml_get_prop_value`: the first attribute of that name, `NULL` when there is none. -/
def asXmlGetPropValue (node : XmlNode) (name : String) : Option String :=
  match node with
  | .element _ props _ => (props.find? (·.1 = name)).map Prod.snd
  | .text _ => none

/-- Modelled from the spec: `as_xml_add_text_prop` (as-xml.c) appends the attribute unless
the value is `NULL`. -/
def asXmlAddTextProp (props : List (String × String)) (name : String) (value : Option String) :
    List (String × String) :=
  match value with
  | some v => props ++ [(name, v)]
  | none => props

/-- The XML routines of the rest of the library that the release reader and writer call:
locale matching and description markup (as-xml.c), text nodes, and the serialisers of
`AsIssue` and `AsArtifact`. A loader returns the freshly loaded value, or `none` for `FALSE`. -/
structure XmlCodec (Issue Artifact : Type) where
  getNodeLocaleMatch : AsContext → XmlNode → Option String
  dumpNodeChildren : XmlNode → String
  parseMetainfoDescriptionNode : AsContext → XmlNode → LocalizedTable → LocalizedTable
  catalogDescriptionNode : String → String → XmlNode
  metainfoDescriptionNodes : AsContext → LocalizedTable → Bool → List XmlNode
  addTextNode : String → String → XmlNode
  getNodeValue : XmlNode → Option String
  issueLoadFromXml : AsContext → XmlNode → Option Issue
  issueToXmlNode : AsContext → Issue → XmlNode
  artifactLoadFromXml : AsContext → XmlNode → Option Artifact
  artifactToXmlNode : AsContext → Artifact → XmlNode

section Entries

variable {Issue Artifact : Type} (c : XmlCodec Issue Artifact) (ctx : AsContext)

/-- The collaborator that loads one child of a list field's block: `as_issue_load_from_xml` or
`as_artifact_load_from_xml`. -/
def XmlCodec.loadEntry : (f : ListField) → XmlNode → Option (f.Elem Issue Artifact)
  | .issues => c.issueLoadFromXml ctx
  | .artifacts => c.artifactLoadFromXml ctx

/-- The collaborator that writes one value of a list field: `as_issue_to_xml_node` or
`as_artifact_to_xml_node`. -/
def XmlCodec.entryToXmlNode : (f : ListField) → f.Elem Issue Artifact → XmlNode
  | .issues => c.issueToXmlNode ctx
  | .artifacts => c.artifactToXmlNode ctx

end Entries

/-- Modelled from the spec: `as_xml_add_description_node` (as-xml.c) writes one description
element per locale in catalog style, and one fused element in metainfo style. -/
def asXmlAddDescriptionNode {Issue Artifact : Type} (c : XmlCodec Issue Artifact) (ctx : AsContext)
    (desc : LocalizedTable) (translatable : Bool) : List XmlNode :=
  if ctx.style = .catalog then desc.entries.map (fun e => c.catalogDescriptionNode e.1 e.2)
  else c.metainfoDescriptionNodes ctx desc translatable

/-- The text of an element whose only child is a text node. -/
def XmlNode.soleText (n : XmlNode) : Option String :=
  match n.children with
  | [.text v] => some v
  | _ => none

/-- The locale and text of a `<p xml:lang="...">` paragraph. -/
def paragraphEntry (p : XmlNode) : Option (String × String) :=
  match asXmlGetPropValue p "xml:lang", p.soleText with
  | some l, some m => some (l, m)
  | _, _ => none

/-- Plain-text collaborators: description markup, issues and artifacts are single text nodes,
a metainfo description holds one `<p xml:lang>` per locale, and a locale is accepted when the
context reads all locales, when it is `C`, or when it is the context's own. -/
def textXmlCodec : XmlCodec String String where
  getNodeLocaleMatch ctx n :=
    let lang := (asXmlGetPropValue n "xml:lang").getD "C"
    if ctx.localeUseAll || lang = "C" || lang = ctx.locale then some lang else none
  dumpNodeChildren n := n.soleText.getD ""
  parseMetainfoDescriptionNode _ n t :=
    (n.children.filterMap paragraphEntry).foldr (fun e acc => acc.insert e.1 e.2) t
  catalogDescriptionNode l m := .element "description" [("xml:lang", l)] [.text m]
  metainfoDescriptionNodes _ t tr :=
    if t.entries = [] then []
    else [.element "description" (if tr then [] else [("translatable", "no")])
      (t.entries.map fun e => .element "p" [("xml:lang", e.1)] [.text e.2])]
  addTextNode name v := .element name [] [.text v]
  getNodeValue n := n.soleText
  issueLoadFromXml _ n := if n.name = "issue" then n.soleText else none
  issueToXmlNode _ i := .element "issue" [] [.text i]
  artifactLoadFromXml _ n := if n.name = "artifact" then n.soleText else none
  artifactToXmlNode _ a := .element "artifact" [] [.text a]

end AppStream
