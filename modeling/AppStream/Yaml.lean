import AppStream.DateReconciler

namespace AppStream

/-- A node of the `GNode` tree the YAML reader builds: its scalar, `NULL` when it carries none,
and its children. A mapping key holds its value node as first child; a key whose value is a
mapping or a sequence holds the entries or the items. -/
inductive YamlNode where
  | mk (data : Option String) (children : List YamlNode)
  deriving Repr

def YamlNode.data : YamlNode → Option String
  | .mk d _ => d

def YamlNode.children : YamlNode → List YamlNode
  | .mk _ cs => cs

/-- Modelled from the spec: `as_yaml_node_get_key` (as-yaml.c) is the node's own scalar. -/
def asYamlNodeGetKey (n : YamlNode) : Option String := n.data

/-- Modelled from the spec: `as_yaml_node_get_value` (as-yaml.c) is the scalar of the key's first
child, `NULL` for a key without a value node. -/
def asYamlNodeGetValue (n : YamlNode) : Option String :=
  match n.children with
  | v :: _ => v.data
  | [] => none

@[simp] theorem asYamlNodeGetKey_mk (d : Option String) (cs : List YamlNode) :
    asYamlNodeGetKey (.mk d cs) = d := rfl

@[simp] theorem asYamlNodeGetValue_mk (d : Option String) (v : YamlNode) (vs : List YamlNode) :
    asYamlNodeGetValue (.mk d (v :: vs)) = v.data := rfl

@[simp] theorem YamlNode.data_mk (d : Option String) (cs : List YamlNode) : (YamlNode.mk d cs).data = d :=
  rfl

@[simp] theorem YamlNode.children_mk (d : Option String) (cs : List YamlNode) :
    (YamlNode.mk d cs).children = cs := rfl

/-- The YAML routines of the rest of the library that the release reader and writer call: the
localized-table reader and writer (as-yaml.c) and the serialisers of `AsIssue` and `AsArtifact`.
A loader returns the freshly loaded value, or `none` for `FALSE`; an emitter returns the nodes
the reader builds from what it writes. -/
structure YamlCodec (Issue Artifact : Type) where
  setLocalizedTable : AsContext → YamlNode → LocalizedTable → LocalizedTable
  emitLongLocalizedEntry : String → LocalizedTable → List YamlNode
  issueLoadFromYaml : AsContext → YamlNode → Option Issue
  issueEmitYaml : AsContext → Issue → YamlNode
  artifactLoadFromYaml : AsContext → YamlNode → Option Artifact
  artifactEmitYaml : AsContext → Artifact → YamlNode

section Entries

variable {Issue Artifact : Type} (c : YamlCodec Issue Artifact) (ctx : AsContext)

/-- The collaborator that loads one item of a list field's sequence: `as_issue_load_from_yaml` or
`as_artifact_load_from_yaml`. -/
def YamlCodec.loadEntry : (f : ListField) → YamlNode → Option (f.Elem Issue Artifact)
  | .issues => c.issueLoadFromYaml ctx
  | .artifacts => c.artifactLoadFromYaml ctx

/-- The collaborator that writes one value of a list field: `as_issue_emit_yaml` or
`as_artifact_emit_yaml`. -/
def YamlCodec.emitEntry : (f : ListField) → f.Elem Issue Artifact → YamlNode
  | .issues => c.issueEmitYaml ctx
  | .artifacts => c.artifactEmitYaml ctx

end Entries

/-- What a load can run into that has no defined result in C. -/
inductive LoadFault where
  /-- `atol (NULL)`: glibc dereferences the null pointer. -/
  | atolNull
  deriving DecidableEq, Repr

/-- `atol` handed a `const gchar *` that may be `NULL`. -/
def atolPtr : Option String → Except LoadFault Int
  | some s => .ok (atol s)
  | none => .error .atolNull

/-- Plain-text collaborators: a localized table is a mapping from locale to text, read in full
when the context reads all locales and otherwise for `C` and the context's own locale; issues and
artifacts are single scalars. -/
def textYamlCodec : YamlCodec String String where
  setLocalizedTable ctx n t := n.children.foldr (fun e acc =>
    match asYamlNodeGetKey e, asYamlNodeGetValue e with
    | some l, some v => if ctx.localeUseAll || l = "C" || l = ctx.locale then acc.insert l v else acc
    | _, _ => acc) t
  emitLongLocalizedEntry key t :=
    if t.entries = [] then []
    else [.mk (some key) (t.entries.map fun e => .mk (some e.1) [.mk (some e.2) []])]
  issueLoadFromYaml _ n := n.data
  issueEmitYaml _ i := .mk (some i) []
  artifactLoadFromYaml _ n := n.data
  artifactEmitYaml _ a := .mk (some a) []

section Loader

variable {Issue Artifact : Type} (c : YamlCodec Issue Artifact) (ctx : AsContext)

/-- One entry of the `url` mapping: a known kind with a value sets that URL. -/
def loadUrlEntry (release : AsRelease Issue Artifact) (urlsN : YamlNode) : AsRelease Issue Artifact :=
  let urlKind := asReleaseUrlKindFromString (asYamlNodeGetKey urlsN)
  let cValue := asYamlNodeGetValue urlsN
  if urlKind ≠ .unknown ∧ cValue ≠ none then asReleaseSetUrl release urlKind cValue else release

/-- One pass of the loop of `as_release_load_from_yaml` over the entries of the mapping; only the
`unix-timestamp` branch can fail, and an unknown key is only reported. -/
def loadYamlEntry (release : AsRelease Issue Artifact) (n : YamlNode) :
    Except LoadFault (AsRelease Issue Artifact) :=
  let key := asYamlNodeGetKey n
  let value := asYamlNodeGetValue n
  if key = some "unix-timestamp" then do
    let t ← atolPtr value
    return { release with timestamp := guint64OfInt t }
  else return (
    if key = some "date" then
      match asIso8601ToDatetime value with
      | some time => { release with timestamp := guint64OfInt (gDateTimeToUnix time) }
      | none => release
    else if key = some "date-eol" then asReleaseSetDateEol release value
    else if key = some "type" then { release with kind := asReleaseKindFromString value }
    else if key = some "version" then asReleaseSetVersion release value
    else if key = some "urgency" then { release with urgency := asUrgencyKindFromString value }
    else if key = some "description" then
      { release with description := c.setLocalizedTable ctx n release.description }
    else if key = some "url" then n.children.foldl loadUrlEntry release
    else if key = some "issues" then
      addLoaded (c.issueLoadFromYaml ctx) asReleaseAddIssue n.children release
    else if key = some "artifacts" then
      addLoaded (c.artifactLoadFromYaml ctx) asReleaseAddArtifact n.children release
    else release)

/-- `as_release_load_from_yaml`: it returns `TRUE` once the loop is through. -/
def asReleaseLoadFromYaml (release : AsRelease Issue Artifact) (node : YamlNode) :
    Except LoadFault (AsRelease Issue Artifact) :=
  node.children.foldlM (loadYamlEntry c ctx) (asReleaseSetContext release (some ctx))

end Loader

end AppStream
