import AppStream.DateTime
import AppStream.Kinds

namespace AppStream

/-- The document context a release is read or written under (`AsContext`). -/
structure AsContext where
  style : AsFormatStyle
  locale : String
  localeUseAll : Bool
  deriving DecidableEq, Repr

/-- A locale-keyed `GHashTable` of markup; a locale occurs at most once. -/
structure LocalizedTable where
  entries : List (String × String)
  nodup : (entries.map Prod.fst).Nodup

def LocalizedTable.empty : LocalizedTable := ⟨[], List.nodup_nil⟩

def LocalizedTable.lookup (t : LocalizedTable) (locale : String) : Option String :=
  (t.entries.find? (·.1 = locale)).map Prod.snd

/-- `g_hash_table_insert`: the new value replaces any held under the same locale. -/
def LocalizedTable.insert (t : LocalizedTable) (locale value : String) : LocalizedTable :=
  ⟨(locale, value) :: t.entries.filter (·.1 ≠ locale), by
    refine List.nodup_cons.mpr ⟨?_, t.nodup.sublist ((List.filter_sublist _).map _)⟩
    simp [List.mem_filter]⟩

@[simp] theorem LocalizedTable.lookup_empty (k : String) : LocalizedTable.empty.lookup k = none := rfl

@[simp] theorem LocalizedTable.lookup_insert (t : LocalizedTable) (l v k : String) :
    (t.insert l v).lookup k = if l = k then some v else t.lookup k := by
  by_cases h : l = k
  · simp [LocalizedTable.insert, LocalizedTable.lookup, h]
  · simp only [LocalizedTable.insert, LocalizedTable.lookup, List.find?_cons, h, decide_False, if_false]
    rw [List.find?_filter]
    congr 2
    funext e
    by_cases he : e.1 = k
    · simp [he, Ne.symm h]
    · simp [he]

theorem LocalizedTable.lookup_eq_of_entries_nil {t : LocalizedTable} (h : t.entries = []) :
    t.lookup = LocalizedTable.empty.lookup := by
  funext k
  simp [LocalizedTable.lookup, LocalizedTable.empty, h]

theorem LocalizedTable.lookup_eq_of_entries_single {t : LocalizedTable} {e : String × String}
    (h : t.entries = [e]) : t.lookup = (LocalizedTable.empty.insert e.1 e.2).lookup := by
  funext k
  rw [LocalizedTable.lookup_insert, LocalizedTable.lookup_empty]
  by_cases hk : e.1 = k <;> simp [LocalizedTable.lookup, h, hk]

/-- Inserting entries one by one, the first of each locale last, rebuilds the table they list. -/
theorem lookup_foldr_insert (es : List (String × String)) (k : String) :
    (es.foldr (fun e acc => acc.insert e.1 e.2) LocalizedTable.empty).lookup k =
      (es.find? (·.1 = k)).map Prod.snd := by
  induction es with
  | nil => rfl
  | cons e es ih => by_cases h : e.1 = k <;> simp [h, ih]

/-- Modelled from the spec: `as_context_localized_ht_set` (as-context.c) stores `value` under
`locale`, or under the context's locale when `locale` is `NULL`. -/
def asContextLocalizedHtSet (ctx : Option AsContext) (t : LocalizedTable) (value : String)
    (locale : Option String) : LocalizedTable :=
  t.insert (locale.getD ((ctx.map AsContext.locale).getD "C")) value

/-- The private data of an `AsRelease`; issues and artifacts are the collaborators' types. -/
structure AsRelease (Issue Artifact : Type) where
  kind : AsReleaseKind
  version : Option String
  description : LocalizedTable
  timestamp : UInt64
  date : Option String
  dateEol : Option String
  context : Option AsContext
  descTranslatable : Bool
  issues : List Issue
  artifacts : List Artifact
  urlDetails : Option String
  urgency : AsUrgencyKind

attribute [ext] AsRelease

/-- The two sequences of a release, issues and artifacts: the setters, the loaders and the writers
treat them alike, each under its own name and with its own collaborator. -/
inductive ListField where
  | issues
  | artifacts
  deriving DecidableEq, Repr

/-- The type of the values a list field holds. -/
@[reducible] def ListField.Elem (Issue Artifact : Type) : ListField → Type
  | .issues => Issue
  | .artifacts => Artifact

/-- The element name, and the YAML key, of the block that holds a list field. -/
def ListField.tag : ListField → String
  | .issues => "issues"
  | .artifacts => "artifacts"

section ListFields

variable {Issue Artifact : Type}

def ListField.get : (f : ListField) → AsRelease Issue Artifact → List (f.Elem Issue Artifact)
  | .issues, r => r.issues
  | .artifacts, r => r.artifacts

def ListField.set : (f : ListField) → AsRelease Issue Artifact → List (f.Elem Issue Artifact) →
    AsRelease Issue Artifact
  | .issues, r, l => { r with issues := l }
  | .artifacts, r, l => { r with artifacts := l }

@[simp] theorem ListField.get_set (f : ListField) (r : AsRelease Issue Artifact) (l : List (f.Elem Issue Artifact)) :
    f.get (f.set r l) = l := by
  cases f <;> rfl

@[simp] theorem ListField.set_set (f : ListField) (r : AsRelease Issue Artifact)
    (l l' : List (f.Elem Issue Artifact)) : f.set (f.set r l) l' = f.set r l' := by
  cases f <;> rfl

@[simp] theorem ListField.set_get (f : ListField) (r : AsRelease Issue Artifact) : f.set r (f.get r) = r := by
  cases f <;> rfl

/-- What `as_release_add_issue` and `as_release_add_artifact` do: append the value to its field. -/
def ListField.add (f : ListField) (release : AsRelease Issue Artifact) (x : f.Elem Issue Artifact) :
    AsRelease Issue Artifact :=
  f.set release (f.get release ++ [x])

end ListFields

/-- A signed C value stored into a `guint64`: reduction modulo 2^64. -/
def guint64OfInt (i : Int) : UInt64 := ⟨BitVec.ofInt 64 i⟩

/-- A `guint64` passed where `gint64` is expected: its two's complement reading. -/
def gint64OfGuint64 (t : UInt64) : Int := t.toBitVec.toInt

section Setters

variable {Issue Artifact : Type} (release : AsRelease Issue Artifact)

/-- `as_release_init`, reached through `as_release_new`. -/
def asReleaseNew : AsRelease Issue Artifact where
  kind := .stable
  version := none
  description := .empty
  timestamp := 0
  date := none
  dateEol := none
  context := none
  descTranslatable := true
  issues := []
  artifacts := []
  urlDetails := none
  urgency := .unknown

def asReleaseSetKind (kind : AsReleaseKind) : AsRelease Issue Artifact := { release with kind := kind }

def asReleaseSetVersion (version : Option String) : AsRelease Issue Artifact :=
  { release with version := version }

def asReleaseSetTimestamp (timestamp : UInt64) : AsRelease Issue Artifact :=
  { release with
    timestamp := timestamp
    date := gDateTimeFormatIso8601 (gDateTimeNewFromUnixUtc (gint64OfGuint64 timestamp)) }

/-- `g_return_if_fail (date != NULL)`, then an unparsable date is refused with a warning. -/
def asReleaseSetDate (date : Option String) : AsRelease Issue Artifact :=
  match date with
  | none => release
  | some d =>
    match asIso8601ToDatetime (some d) with
    | some time => { release with timestamp := guint64OfInt (gDateTimeToUnix time), date := some d }
    | none => release

def asReleaseSetDateEol (date : Option String) : AsRelease Issue Artifact :=
  match date with
  | none => release
  | some d => { release with dateEol := some d }

def asReleaseGetTimestampEol : UInt64 :=
  match release.dateEol with
  | none => 0
  | some d =>
    match asIso8601ToDatetime (some d) with
    | some time => guint64OfInt (gDateTimeToUnix time)
    | none => 0

def asReleaseSetTimestampEol (timestamp : UInt64) : AsRelease Issue Artifact :=
  if timestamp = 0 then release
  else { release with dateEol := gDateTimeFormatIso8601 (gDateTimeNewFromUnixUtc (gint64OfGuint64 timestamp)) }

def asReleaseSetUrgency (urgency : AsUrgencyKind) : AsRelease Issue Artifact :=
  { release with urgency := urgency }

def asReleaseSetDescription (description locale : Option String) : AsRelease Issue Artifact :=
  match description with
  | none => release
  | some d => { release with
      description := asContextLocalizedHtSet release.context release.description d locale }

def asReleaseAddArtifact (artifact : Artifact) : AsRelease Issue Artifact :=
  ListField.add .artifacts release artifact

def asReleaseAddIssue (issue : Issue) : AsRelease Issue Artifact :=
  ListField.add .issues release issue

/-- Only the details URL is stored; other kinds are ignored. -/
def asReleaseSetUrl (urlKind : AsReleaseUrlKind) (url : Option String) : AsRelease Issue Artifact :=
  if urlKind = .details then { release with urlDetails := url } else release

/-- Only the details URL is stored; any other kind reads as `NULL`. -/
def asReleaseGetUrl (urlKind : AsReleaseUrlKind) : Option String :=
  if urlKind = .details then release.urlDetails else none

theorem asReleaseGetUrl_setUrl (k k' : AsReleaseUrlKind) (url : Option String) :
    asReleaseGetUrl (asReleaseSetUrl release k url) k' =
      if k' = .details then (if k = .details then url else release.urlDetails) else none := by
  by_cases h : k = .details <;> simp [asReleaseGetUrl, asReleaseSetUrl, h]

/-- `g_set_object`: the context may be `NULL`, which unbinds the release. -/
def asReleaseSetContext (context : Option AsContext) : AsRelease Issue Artifact :=
  { release with context := context }

def asReleaseSetDescriptionTranslatable (translatable : Bool) : AsRelease Issue Artifact :=
  { release with descTranslatable := translatable }

/-- The loop over the children of an `<issues>` or `<artifacts>` block: a fresh value per
child, added when the collaborator loads it and dropped otherwise. -/
def addLoaded {ν α β : Type} (load : ν → Option α) (add : β → α → β) (nodes : List ν) (acc : β) : β :=
  nodes.foldl (fun acc n => match load n with
    | some x => add acc x
    | none => acc) acc

@[simp] theorem ListField.get_asReleaseNew (f : ListField) :
    f.get (asReleaseNew : AsRelease Issue Artifact) = [] := by
  cases f <;> rfl

/-- The loop fills its field with every value the collaborator loads, in order. -/
theorem addLoaded_eq {ν : Type} (f : ListField) (load : ν → Option (f.Elem Issue Artifact))
    (nodes : List ν) :
    addLoaded load f.add nodes release = f.set release (f.get release ++ nodes.filterMap load) := by
  induction nodes generalizing release with
  | nil => simp [addLoaded]
  | cons n ns ih =>
    simp only [addLoaded, List.foldl_cons] at ih ⊢
    cases h : load n <;> simp only [h] <;> rw [ih] <;> simp [h, ListField.add]

end Setters

section Folds

variable {ν β γ : Type} (step : β → ν → β)

/-- A field each step may only extend leaves the fold's field extended by every step's part. -/
theorem foldl_field_append {α : Type} (field : β → List α) (part : ν → List α)
    (h : ∀ acc n, field (step acc n) = field acc ++ part n) (nodes : List ν) (acc : β) :
    field (nodes.foldl step acc) = field acc ++ nodes.flatMap part := by
  induction nodes generalizing acc with
  | nil => simp
  | cons n ns ih => simp [ih, h]

/-- A field that the steps matching `p` overwrite ends as the last such step left it. -/
theorem foldl_field_last (field : β → γ) (p : ν → Prop) [DecidablePred p] (value : ν → γ)
    (h : ∀ acc n, field (step acc n) = if p n then value n else field acc) (nodes : List ν)
    (acc : β) :
    field (nodes.foldl step acc) = (((nodes.filter p).getLast?).map value).getD (field acc) := by
  induction nodes using List.reverseRecOn with
  | nil => simp
  | append_singleton ns n ih =>
    rw [List.foldl_append, List.foldl_cons, List.foldl_nil, h, ih, List.filter_append]
    by_cases hp : p n <;> simp [hp]

theorem foldl_append_eq_flatMap {α : Type} (f : ν → List α) (nodes : List ν) (acc : List α) :
    nodes.foldl (fun l n => l ++ f n) acc = acc ++ nodes.flatMap f :=
  foldl_field_append _ id f (fun _ _ => rfl) nodes acc

theorem flatMap_ite_filter {α : Type} (l : List ν) (p : ν → Prop) [DecidablePred p]
    (f : ν → List α) : l.flatMap (fun b => if p b then f b else []) = (l.filter p).flatMap f := by
  induction l with
  | nil => rfl
  | cons b l ih => by_cases hb : p b <;> simp [List.filter_cons, hb, ih]

theorem foldl_field_frame (field : β → γ) (h : ∀ acc n, field (step acc n) = field acc)
    (nodes : List ν) (acc : β) : field (nodes.foldl step acc) = field acc := by
  induction nodes generalizing acc with
  | nil => rfl
  | cons n ns ih => simp [ih, h]

end Folds

end AppStream
