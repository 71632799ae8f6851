import MirrorECMA.Framework.Canonical

namespace Mirror.Framework

open ECMA
open Mirror.Reproduction (GIT_REVISION)

structure CatalogSelectionRef where
  schemaVersion : JsString
  selectionKind : JsString
  selectionValue : JsString
  deriving DecidableEq

structure ExcludedPath where
  path : JsString
  reasonCode : JsString
  deriving DecidableEq

structure DirtyContent where
  algorithm : JsString
  digest : JsString
  method : JsString
  includedPaths : List JsString
  excludedPaths : List ExcludedPath
  deriving DecidableEq

structure ComponentRef where
  componentId : JsString
  repository : JsString
  revision : JsString
  dirty : Bool
  dirtyContent : Option DirtyContent
  deriving DecidableEq

structure PlatformIdentity where
  os : JsString
  osRelease : JsString
  architecture : JsString
  backend : Option JsString
  deriving DecidableEq

structure ArtifactIdentity where
  artifactId : JsString
  path : JsString
  bytes : Double
  sha256 : JsString
  mode : JsString
  deriving DecidableEq

structure RuntimeTreeIdentity where
  treeId : JsString
  sourceArtifactId : JsString
  selectionId : JsString
  path : JsString
  algorithm : JsString
  digest : JsString
  entryCount : Double
  bytes : Double
  deriving DecidableEq

/-! ### The records as values of the language -/

/-- A member of a record that may lack it. -/
def optional (key : String) (value : Option Json) : Fields Json := value.toList.map fun value => (js key, value)

def textList (texts : List JsString) : Json := .array (texts.map .string)

namespace CatalogSelectionRef

def fields (ref : CatalogSelectionRef) : Fields Json :=
  [(js "schemaVersion", .string ref.schemaVersion), (js "selectionKind", .string ref.selectionKind),
    (js "selectionValue", .string ref.selectionValue)]

def json (ref : CatalogSelectionRef) : Json := .object ref.fields

end CatalogSelectionRef

def ExcludedPath.json (excluded : ExcludedPath) : Json :=
  .object [(js "path", .string excluded.path), (js "reasonCode", .string excluded.reasonCode)]

def DirtyContent.json (content : DirtyContent) : Json :=
  .object [(js "algorithm", .string content.algorithm), (js "digest", .string content.digest), (js "method", .string content.method),
    (js "includedPaths", textList content.includedPaths), (js "excludedPaths", .array (content.excludedPaths.map ExcludedPath.json))]

def ComponentRef.json (ref : ComponentRef) : Json :=
  .object ([(js "componentId", .string ref.componentId), (js "repository", .string ref.repository),
    (js "revision", .string ref.revision), (js "dirty", .bool ref.dirty)] ++
      optional "dirtyContent" (ref.dirtyContent.map DirtyContent.json))

namespace PlatformIdentity

def fields (platform : PlatformIdentity) : Fields Json :=
  [(js "os", .string platform.os), (js "osRelease", .string platform.osRelease),
    (js "architecture", .string platform.architecture)] ++ optional "backend" (platform.backend.map .string)

def json (platform : PlatformIdentity) : Json := .object platform.fields

end PlatformIdentity

namespace ArtifactIdentity

def fields (artifact : ArtifactIdentity) : Fields Json :=
  [(js "artifactId", .string artifact.artifactId), (js "path", .string artifact.path), (js "bytes", .number artifact.bytes),
    (js "sha256", .string artifact.sha256), (js "mode", .string artifact.mode)]

def json (artifact : ArtifactIdentity) : Json := .object artifact.fields

end ArtifactIdentity

def RuntimeTreeIdentity.json (tree : RuntimeTreeIdentity) : Json :=
  .object [(js "treeId", .string tree.treeId), (js "sourceArtifactId", .string tree.sourceArtifactId),
    (js "selectionId", .string tree.selectionId), (js "path", .string tree.path), (js "algorithm", .string tree.algorithm),
    (js "digest", .string tree.digest), (js "entryCount", .number tree.entryCount), (js "bytes", .number tree.bytes)]

/-! ### Reading the records -/

/-- `path.name`. -/
def dot (path : JsString) (name : String) : JsString := path ++ js "." ++ js name

def selection (value : Option Json) (path : JsString) : Checked CatalogSelectionRef := do
  let keys := ["schemaVersion", "selectionKind", "selectionValue"]
  let item ← object value path keys keys
  demand (isText (property item "schemaVersion") "mirrors.framework-catalog/v1" && isText (property item "selectionKind") "sha256")
    .catalog_invalid path "unsupported catalog selection"
  let selectionValue ← digest (property item "selectionValue") (dot path "selectionValue")
  return ⟨js "mirrors.framework-catalog/v1", js "sha256", selectionValue⟩

/-- The literal among these that the value is. -/
def literal (value : Option Json) (literals : List String) (code : FrameworkRefusalCode) (path : JsString) (detail : String) :
    Checked JsString :=
  match literals.find? (isText value) with
  | some found => .ok (js found)
  | none => refuse code path (js detail)

def excludedPath (entry : Json) (path : JsString) : Checked ExcludedPath := do
  let keys := ["path", "reasonCode"]
  let record ← object (some entry) path keys keys
  let reasonCode ← literal (property record "reasonCode")
    ["pre-existing-unrelated", "evidence-output", "build-output", "planning-documentation"] .catalog_invalid (dot path "reasonCode")
    "unsupported exclusion reason"
  return ⟨← pathValue (property record "path") (dot path "path"), reasonCode⟩

def dirtyContent (value : Option Json) (path : JsString) : Checked DirtyContent := do
  let keys := ["algorithm", "digest", "method", "includedPaths", "excludedPaths"]
  let dirty ← object value path keys keys
  demand (isText (property dirty "algorithm") "sha256") .catalog_invalid path "unsupported dirty identity"
  let method ← literal (property dirty "method") ["git-diff-and-untracked-manifest-v1", "filesystem-tree-v1"] .catalog_invalid path
    "unsupported dirty identity"
  let includedPaths ← strings (property dirty "includedPaths") (dot path "includedPaths") 4096
  let included ← mapIndexed (fun entry index => pathValue (some (.string entry)) (at_ (dot path "includedPaths") index)) includedPaths
  let excludedPaths ← array (property dirty "excludedPaths") (dot path "excludedPaths") 4096
  let excluded ← mapIndexed (fun entry index => excludedPath entry (at_ (dot path "excludedPaths") index)) excludedPaths
  let digest ← digest (property dirty "digest") (dot path "digest")
  return ⟨js "sha256", digest, method, included, excluded⟩

def identityOf (dirty : Bool) (value : Option Json) (path : JsString) : Checked (Option DirtyContent) :=
  if dirty then do return some (← dirtyContent value path)
  else do
    demand value.isNone .catalog_invalid path "clean component cannot carry dirty identity"
    return none

def componentRef (value : Option Json) (path : JsString) : Checked ComponentRef := do
  let required := ["componentId", "repository", "revision", "dirty"]
  let item ← object value path (required ++ ["dirtyContent"]) required
  let revision ← text (property item "revision") (dot path "revision")
  demand (GIT_REVISION revision) .catalog_invalid (dot path "revision") "full lowercase Git revision expected"
  let dirty ← match property item "dirty" with
    | some (.bool dirty) => .ok dirty
    | _ => invalid (dot path "dirty") "Boolean expected"
  let content ← identityOf dirty (property item "dirtyContent") (dot path "dirtyContent")
  let componentId ← id (property item "componentId") (dot path "componentId")
  let repository ← text (property item "repository") (dot path "repository")
  return ⟨componentId, repository, revision, dirty, content⟩

/-- `value === undefined ? undefined : read(value)`. -/
def ifPresent {α : Type} (value : Option Json) (read : Option Json → Checked α) : Checked (Option α) :=
  match value with
  | none => return none
  | some _ => do return some (← read value)

def platform (value : Option Json) (path : JsString) : Checked PlatformIdentity := do
  let required := ["os", "osRelease", "architecture"]
  let item ← object value path (required ++ ["backend"]) required
  let os ← id (property item "os") (dot path "os")
  let osRelease ← id (property item "osRelease") (dot path "osRelease")
  let architecture ← id (property item "architecture") (dot path "architecture")
  let backend ← ifPresent (property item "backend") fun value => id value (dot path "backend")
  return ⟨os, osRelease, architecture, backend⟩

/-! ### What `same` compares -/

theorem same_iff {left right : Json} : same left right = .ok true ↔
    ∃ text, canonicalFrameworkJson left = .ok text ∧ canonicalFrameworkJson right = .ok text := by
  unfold same
  simp only [bind_eq_ok, pure_eq_ok, Except.ok.injEq, decide_eq_true_eq]
  constructor
  · intro compared
    rcases compared with ⟨text, first, other, second, rfl⟩
    exact ⟨text, first, second⟩
  · intro compared
    rcases compared with ⟨text, first, second⟩
    exact ⟨text, first, text, second, rfl⟩

theorem alike_of_same {left right : Json} (distinct : left.KeysDistinct) (otherDistinct : right.KeysDistinct)
    (compared : same left right = .ok true) : left.Alike right := by
  rcases same_iff.mp compared with ⟨text, first, second⟩
  exact alike_of_canonical distinct otherDistinct first second

/-- A property under a key that two alike records have as a text. -/
theorem text_of_rel {s t : JsString} (alike : Option.Rel Json.Alike (some (.string s)) (some (.string t))) : s = t := by
  cases alike with
  | some same => exact (Json.string.inj (Json.alike_string.mp same)).symm

theorem CatalogSelectionRef.keysDistinct (ref : CatalogSelectionRef) : ref.json.KeysDistinct := by
  apply Json.KeysDistinct.object
  · show List.Nodup [js "schemaVersion", js "selectionKind", js "selectionValue"]
    decide
  · simp only [fields, List.forall_mem_cons]
    exact ⟨.string _, .string _, .string _, by simp⟩

theorem CatalogSelectionRef.eq_of_same {ref other : CatalogSelectionRef} (compared : same ref.json other.json = .ok true) :
    ref = other := by
  have alike := (alike_of_same ref.keysDistinct other.keysDistinct compared).get (by cases ref.keysDistinct; assumption)
  have schemaVersion := text_of_rel (alike (js "schemaVersion"))
  have selectionKind := text_of_rel (alike (js "selectionKind"))
  have selectionValue := text_of_rel (alike (js "selectionValue"))
  cases ref
  cases other
  simp only [CatalogSelectionRef.mk.injEq]
  exact ⟨schemaVersion, selectionKind, selectionValue⟩

theorem PlatformIdentity.keysDistinct (platform : PlatformIdentity) : platform.json.KeysDistinct := by
  apply Json.KeysDistinct.object
  · cases found : platform.backend with
    | none =>
      unfold fields
      rw [found]
      show List.Nodup [js "os", js "osRelease", js "architecture"]
      decide
    | some backend =>
      unfold fields
      rw [found]
      show List.Nodup [js "os", js "osRelease", js "architecture", js "backend"]
      decide
  · intro field member
    have texts : ∃ text, field.2 = .string text := by
      cases found : platform.backend <;> simp [fields, optional, found] at member <;> grind
    rcases texts with ⟨text, same⟩
    rw [same]
    exact .string text

theorem PlatformIdentity.eq_of_same {platform other : PlatformIdentity} (compared : same platform.json other.json = .ok true) :
    platform = other := by
  have alike := (alike_of_same platform.keysDistinct other.keysDistinct compared).get (by cases platform.keysDistinct; assumption)
  have os := text_of_rel (alike (js "os"))
  have osRelease := text_of_rel (alike (js "osRelease"))
  have architecture := text_of_rel (alike (js "architecture"))
  have backend : platform.backend = other.backend := by
    have optional := alike (js "backend")
    cases first : platform.backend with
    | none =>
      cases second : other.backend with
      | none => rfl
      | some name =>
        unfold fields at optional
        rw [first, second] at optional
        cases optional
    | some name =>
      cases second : other.backend with
      | none =>
        unfold fields at optional
        rw [first, second] at optional
        cases optional
      | some name' =>
        unfold fields at optional
        rw [first, second] at optional
        exact congrArg some (text_of_rel optional)
  cases platform
  cases other
  simp only [PlatformIdentity.mk.injEq]
  exact ⟨os, osRelease, architecture, backend⟩

end Mirror.Framework
