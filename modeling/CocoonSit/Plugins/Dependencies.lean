import CocoonSit.Lib.FileTree
import CocoonSit.Lib.Run
import CocoonSit.Lib.Table
import Mathlib.Data.List.DropRight
import Mathlib.Data.Prod.Lex
import Mathlib.Data.String.Basic

/-!
# The dependencies of plugins

The distributions that a plugin requires are copied to a directory that the plugins share, one
directory a version, and the plugin's dependency manifest records their paths.  A prune deletes the
second-level directories that no manifest of the installed versions records.  There are no links,
and paths are resolved.
-/

namespace CocoonSit.Dependencies

open TransitionSystem

/-! ## Files -/

abbrev Path := List String

/-- `dependency_manifest.json`: what is read of it again.  A package is recorded with its path;
`none` where the entry has none. -/
structure DependencyManifest where
  paths : List Path
  packages : List (Option Path)
deriving DecidableEq

inductive FileContent where
  | manifest (manifest : DependencyManifest)
  | packageInfo
  | other
deriving DecidableEq

abbrev Files := FileTree String FileContent

/-! ## Building -/

/-- `[-_.]+` becomes `-`. -/
def squeezeSeparators : List Char → List Char
  | [] => []
  | c :: cs =>
    let rest := squeezeSeparators cs
    if c ∈ ['-', '_', '.'] then
      if rest.head? = some '-' then rest else '-' :: rest
    else c :: rest

/-- `_normalize_distribution_name`; names are ASCII. -/
def normalizeDistributionName (name : String) : String :=
  let squeezed := squeezeSeparators name.toList
  String.ofList (((squeezed.dropWhile (· = '-')).rdropWhile (· = '-')).map Char.toLower)

/-- What the installer leaves of a distribution.  A name begins and ends with a letter or a digit,
so that something of it is left. -/
structure Distribution where
  name : String
  version : String
  files : List Path
  named : normalizeDistributionName name ≠ ""
  versioned : version ≠ ""

def Distribution.normalizedName (d : Distribution) : String := normalizeDistributionName d.name

def packageRoot (sharedLibRoot : Path) (d : Distribution) : Path :=
  sharedLibRoot ++ [d.normalizedName, d.version]

def findRequirementsFile (t : Files) (extractedRoot : Path) : Option Path :=
  (["requirements.txt", "requirements.lock", "requirements-dev.txt"].map
    (extractedRoot ++ [·])).find? fun candidate => (t.entry candidate).isSome

/-- A turn of `_copy_distribution_files`. -/
def copyFile (root : Path) (t : Files) (relativePath : Path) : Option Files :=
  match (root ++ relativePath).dropLast, (root ++ relativePath).getLast? with
  | parent, some name => do
      let t ← t.mkdir parent
      t.write parent name .other
  | _, none => some t

/-- A turn of `_archive_staging_distributions`. -/
def archiveDistribution (sharedLibRoot : Path) (t : Files) (d : Distribution) : Option Files :=
  if t.entry (packageRoot sharedLibRoot d) = none then do
    let t ← t.mkdir (packageRoot sharedLibRoot d)
    let t ← d.files.foldlM (copyFile (packageRoot sharedLibRoot d)) t
    t.write (packageRoot sharedLibRoot d) ".package-info.json" .packageInfo
  else if t.entry (packageRoot sharedLibRoot d ++ [".package-info.json"]) =
      some (.file .packageInfo) then some t
  else t.write (packageRoot sharedLibRoot d) ".package-info.json" .packageInfo

/-- `sorted(importlib.metadata.distributions(…))`. -/
def sortedDistributions (distributions : List Distribution) : List Distribution :=
  Table.orderBy (fun d => toLex (d.normalizedName, d.version)) distributions

/-- What `build` does where there are requirements: the tree and the paths of the packages;
`installed` is what `_install_to_staging` leaves in the staging directory, `none` where it fails. -/
def archiveRequirements (t : Files) (extractedRoot versionRoot sharedLibRoot : Path)
    (installed : Option (List Distribution)) : Option (Files × List Path) :=
  match findRequirementsFile t extractedRoot with
  | none => some (t, [])
  | some _ => do
      let t ← t.mkdir (versionRoot ++ [".dependency_staging"])
      let distributions ← installed
      let t ← (sortedDistributions distributions).foldlM (archiveDistribution sharedLibRoot) t
      some (t.rmtree (versionRoot ++ [".dependency_staging"]),
        (sortedDistributions distributions).map (packageRoot sharedLibRoot))

/-- `build`: the tree and the path of the manifest. -/
def build (t : Files) (extractedRoot versionRoot sharedLibRoot : Path)
    (installed : Option (List Distribution)) : Option (Files × Path) := do
  let t ← t.mkdir sharedLibRoot
  let archived ← archiveRequirements t extractedRoot versionRoot sharedLibRoot installed
  let t ← archived.1.write versionRoot "dependency_manifest.json"
    (.manifest { paths := archived.2 ++ [extractedRoot], packages := archived.2.map some })
  some (t, versionRoot ++ ["dependency_manifest.json"])

/-- The `paths` of a manifest. -/
def dependencyPaths (t : Files) (manifestPath : Path) : List Path :=
  match t.entry manifestPath with
  | some (.file (.manifest manifest)) => manifest.paths
  | _ => []

/-! ## Pruning -/

/-- The loop over the manifests; `none` where one cannot be read. -/
def referencedPaths (t : Files) : List Path → Option (List Path)
  | [] => some []
  | manifestPath :: manifestPaths =>
    match t.entry manifestPath with
    | none => referencedPaths t manifestPaths
    | some (.file (.manifest manifest)) =>
      (referencedPaths t manifestPaths).map (manifest.packages.filterMap id ++ ·)
    | some _ => none

/-- A turn of the inner loop. -/
def pruneVersion (referenced : List Path) (t : Files) (versionRoot : Path) : Files :=
  if t.entry versionRoot ≠ some .dir then t
  else if versionRoot ∈ referenced then t
  else t.rmtree versionRoot

/-- A turn of the outer loop. -/
def pruneName (referenced : List Path) (t : Files) (packageNameRoot : Path) : Files :=
  if t.entry packageNameRoot ≠ some .dir then t
  else
    let t := ((t.children packageNameRoot).map (packageNameRoot ++ [·])).foldl
      (pruneVersion referenced) t
    if t.children packageNameRoot = [] then t.rmtree packageNameRoot else t

/-- `prune_unused_packages`; `none` where it raises. -/
def pruneUnusedPackages (sharedLibRoot : Path) (t : Files) (manifestPaths : List Path) :
    Option Files :=
  if t.entry sharedLibRoot = none then some t
  else do
    let referenced ← referencedPaths t manifestPaths
    some (((t.children sharedLibRoot).map (sharedLibRoot ++ [·])).foldl (pruneName referenced) t)

/-! ## What a prune is for -/

variable {t t' t₀ : Files} {sharedLibRoot versionRoot q : Path} {manifestPaths : List Path}

/-- A manifest of the set records the path. -/
def References (t : Files) (manifestPaths : List Path) (q : Path) : Prop :=
  ∃ manifestPath ∈ manifestPaths, ∃ manifest,
    t.entry manifestPath = some (.file (.manifest manifest)) ∧ some q ∈ manifest.packages

/-- What there is of the set can be read. -/
def Readable (t : Files) (manifestPaths : List Path) : Prop :=
  ∀ manifestPath ∈ manifestPaths, ∀ e, t.entry manifestPath = some e →
    ∃ manifest, e = .file (.manifest manifest)

/-- The directory of a package version, and no manifest of the set records it. -/
def Unreferenced (t : Files) (manifestPaths : List Path) (q : Path) : Prop :=
  t.entry q = some .dir ∧ ¬ References t manifestPaths q

/-- The path is in an unreferenced second-level directory, or is a first-level directory that has
nothing else. -/
def Swept (t : Files) (sharedLibRoot : Path) (manifestPaths : List Path) (q : Path) : Prop :=
  ∃ name, t.entry (sharedLibRoot ++ [name]) = some .dir ∧
    ((∃ version, Unreferenced t manifestPaths (sharedLibRoot ++ [name] ++ [version]) ∧
        sharedLibRoot ++ [name] ++ [version] <+: q) ∨
      q = sharedLibRoot ++ [name] ∧ ∀ version,
        (t.entry (sharedLibRoot ++ [name] ++ [version])).isSome →
          Unreferenced t manifestPaths (sharedLibRoot ++ [name] ++ [version]))

/-- `t'` is `t` without the packages that no manifest of the set records, and the directories that
are empty without them. -/
structure DeletesExactly (t t' : Files) (sharedLibRoot : Path) (manifestPaths : List Path) :
    Prop where
  packages : ∀ name version, t.entry (sharedLibRoot ++ [name] ++ [version]) = some .dir →
    (t'.entry (sharedLibRoot ++ [name] ++ [version]) = none ↔
      ¬ References t manifestPaths (sharedLibRoot ++ [name] ++ [version]))
  removes : FileTree.Removes t t' (Swept t sharedLibRoot manifestPaths)

/-! ## One prune -/

lemma referencedPaths_spec {referenced : List Path}
    (h : referencedPaths t manifestPaths = some referenced) :
    q ∈ referenced ↔ References t manifestPaths q := by
  induction manifestPaths generalizing referenced with
  | nil =>
    cases h
    simp [References]
  | cons manifestPath manifestPaths ih =>
    have hcons : References t (manifestPath :: manifestPaths) q ↔
        (∃ manifest, t.entry manifestPath = some (.file (.manifest manifest)) ∧
          some q ∈ manifest.packages) ∨ References t manifestPaths q := by
      simp only [References, List.exists_mem_cons_iff]
    rw [hcons]
    rw [referencedPaths] at h
    split at h
    · next hentry => simp [hentry, ih h]
    · next manifest hentry =>
      obtain ⟨rest, hrest, rfl⟩ := Option.map_eq_some_iff.mp h
      rw [List.mem_append, ih hrest]
      refine or_congr_left ?_
      simp [hentry]
    · cases h

lemma isSome_referencedPaths :
    (referencedPaths t manifestPaths).isSome ↔ Readable t manifestPaths := by
  induction manifestPaths with
  | nil => simp [referencedPaths, Readable]
  | cons manifestPath manifestPaths ih =>
    have hcons : Readable t (manifestPath :: manifestPaths) ↔
        (∀ e, t.entry manifestPath = some e → ∃ manifest, e = .file (.manifest manifest)) ∧
          Readable t manifestPaths := by
      simp only [Readable, List.forall_mem_cons]
    rw [hcons, ← ih, referencedPaths]
    split
    · next hentry => simp [hentry]
    · next manifest hentry => simp [hentry]
    · next e hmanifest hentry =>
      rw [hentry]
      simp only [Option.isSome_none, Bool.false_eq_true, Option.some.injEq, false_iff, not_and]
      intro hall
      obtain ⟨manifest, rfl⟩ := hall e rfl
      exact absurd rfl (hmanifest manifest)

/-- What a turn of the inner loop removes. -/
def VersionGone (referenced : List Path) (t : Files) (root q : Path) : Prop :=
  t.entry root = some .dir ∧ root ∉ referenced ∧ root <+: q

lemma removes_pruneVersion (referenced : List Path) (t : Files) (root : Path) :
    FileTree.Removes t (pruneVersion referenced t root) (VersionGone referenced t root) := by
  unfold pruneVersion
  intro q
  split
  · next hdir => exact ⟨fun h => absurd h.1 hdir, fun _ => rfl⟩
  · next hdir =>
    rw [ne_eq, not_not] at hdir
    split
    · next href => exact ⟨fun h => absurd href h.2.1, fun _ => rfl⟩
    · next href =>
      obtain ⟨hgone, hkept⟩ := FileTree.removes_rmtree t root q
      exact ⟨fun h => hgone h.2.2, fun h => hkept fun hq => h ⟨hdir, href, hq⟩⟩

lemma removes_foldl_pruneVersion (referenced : List Path) (t : Files) (root : Path) :
    FileTree.Removes t
      (((t.children root).map (root ++ [·])).foldl (pruneVersion referenced) t)
      fun q => ∃ version, VersionGone referenced t (root ++ [version]) q := by
  refine FileTree.removes_foldl_children (removes_pruneVersion referenced)
    (fun _ _ _ h => h.2.2) (fun t t' a hsame q => ?_) (fun _ _ _ h => h.1) t root
  simp only [VersionGone, hsame a List.prefix_rfl]

/-- What a turn of the outer loop removes. -/
def NameGone (referenced : List Path) (t : Files) (root q : Path) : Prop :=
  t.entry root = some .dir ∧
    ((∃ version, VersionGone referenced t (root ++ [version]) q) ∨
      q = root ∧ ∀ version, (t.entry (root ++ [version])).isSome →
        t.entry (root ++ [version]) = some .dir ∧ root ++ [version] ∉ referenced)

lemma children_eq_nil_iff {referenced : List Path} {inner : Files} {root : Path}
    (hinner : FileTree.Removes t inner
      fun q => ∃ version, VersionGone referenced t (root ++ [version]) q) :
    inner.children root = [] ↔ ∀ version, (t.entry (root ++ [version])).isSome →
      t.entry (root ++ [version]) = some .dir ∧ root ++ [version] ∉ referenced := by
  rw [List.eq_nil_iff_forall_not_mem]
  refine forall_congr' fun version => ?_
  rw [inner.mem_children, hinner.isSome_iff, not_and_not_right]
  refine imp_congr_right fun _ => ?_
  constructor
  · rintro ⟨version', hdir, href, hpre⟩
    have hsame : version' = version := by
      by_contra hne
      exact FileTree.apart_of_ne hne root _ hpre List.prefix_rfl
    rw [← hsame]
    exact ⟨hdir, href⟩
  · rintro ⟨hdir, href⟩
    exact ⟨version, hdir, href, List.prefix_rfl⟩

lemma removes_pruneName (referenced : List Path) (t : Files) (root : Path) :
    FileTree.Removes t (pruneName referenced t root) (NameGone referenced t root) := by
  unfold pruneName
  split
  · next hdir => exact fun q => ⟨fun h => absurd h.1 hdir, fun _ => rfl⟩
  · next hdir =>
    rw [ne_eq, not_not] at hdir
    have hinner := removes_foldl_pruneVersion referenced t root
    have hempty := children_eq_nil_iff hinner
    set inner := ((t.children root).map (root ++ [·])).foldl (pruneVersion referenced) t
    intro q
    by_cases hnil : inner.children root = []
    · simp only [hnil, if_true]
      have hall := hempty.mp hnil
      obtain ⟨hgone, hkept⟩ := FileTree.removes_rmtree inner root q
      constructor
      · rintro ⟨-, ⟨version, -, -, hpre⟩ | ⟨rfl, -⟩⟩
        · exact hgone ((List.prefix_append ..).trans hpre)
        · exact hgone List.prefix_rfl
      · intro hnot
        have hversion : ¬ ∃ version, VersionGone referenced t (root ++ [version]) q :=
          fun h => hnot ⟨hdir, .inl h⟩
        by_cases hroot : root <+: q
        · -- below an emptied directory there was nothing but what is gone
          obtain ⟨rest, rfl⟩ := hroot
          rw [hgone (List.prefix_append ..)]
          cases rest with
          | nil => exact absurd ⟨hdir, .inr ⟨List.append_nil root, hall⟩⟩ hnot
          | cons version rest =>
            have hpre : root ++ [version] <+: root ++ version :: rest :=
              ⟨rest, by simp⟩
            by_contra hne
            have hsome := Option.isSome_iff_ne_none.mpr (Ne.symm hne)
            have hchild : (t.entry (root ++ [version])).isSome := by
              by_cases hsame : root ++ [version] = root ++ version :: rest
              · rwa [hsame]
              · rw [FileTree.entry_of_prefix hsome hpre hsame]
                rfl
            obtain ⟨hchildDir, href⟩ := hall version hchild
            exact hversion ⟨version, hchildDir, href, hpre⟩
        · rw [hkept hroot, (hinner q).2 hversion]
    · simp only [hnil, if_false]
      constructor
      · rintro ⟨-, h | ⟨-, hall⟩⟩
        · exact (hinner q).1 h
        · exact absurd (hempty.mpr hall) hnil
      · exact fun hnot => (hinner q).2 fun h => hnot ⟨hdir, .inl h⟩

lemma removes_foldl_pruneName (referenced : List Path) (t : Files) (root : Path) :
    FileTree.Removes t
      (((t.children root).map (root ++ [·])).foldl (pruneName referenced) t)
      fun q => ∃ name, NameGone referenced t (root ++ [name]) q := by
  refine FileTree.removes_foldl_children (removes_pruneName referenced) ?_ ?_
    (fun _ _ _ h => h.1) t root
  · rintro t a q ⟨-, ⟨version, -, -, hpre⟩ | ⟨rfl, -⟩⟩
    · exact (List.prefix_append ..).trans hpre
    · exact List.prefix_rfl
  · intro t t' a hsame q
    have hchild : ∀ version, t'.entry (a ++ [version]) = t.entry (a ++ [version]) :=
      fun version => hsame _ (List.prefix_append ..)
    simp only [NameGone, VersionGone, hsame a List.prefix_rfl, hchild]

lemma removes_pruneUnusedPackages
    (h : pruneUnusedPackages sharedLibRoot t manifestPaths = some t') :
    FileTree.Removes t t' (Swept t sharedLibRoot manifestPaths) := by
  unfold pruneUnusedPackages at h
  split at h
  · next hnone =>
    cases h
    intro q
    refine ⟨fun ⟨name, hname, _⟩ => ?_, fun _ => rfl⟩
    have hdir := t.parent sharedLibRoot name (by rw [hname]; rfl)
    rw [hnone] at hdir
    cases hdir
  · obtain ⟨referenced, href, hfold⟩ := Option.bind_eq_some_iff.mp h
    cases hfold
    have hswept : ∀ q, (∃ name, NameGone referenced t (sharedLibRoot ++ [name]) q) ↔
        Swept t sharedLibRoot manifestPaths q := by
      intro q
      simp only [NameGone, VersionGone, Swept, Unreferenced, referencedPaths_spec href, and_assoc]
    exact (removes_foldl_pruneName referenced t sharedLibRoot).congr hswept

lemma swept_package_iff {name version : String}
    (hdir : t.entry (sharedLibRoot ++ [name] ++ [version]) = some .dir) :
    Swept t sharedLibRoot manifestPaths (sharedLibRoot ++ [name] ++ [version]) ↔
      ¬ References t manifestPaths (sharedLibRoot ++ [name] ++ [version]) := by
  constructor
  · rintro ⟨name', -, ⟨version', hunref, hpre⟩ | ⟨heq, -⟩⟩
    · rw [← hpre.eq_of_length (by simp)]
      exact hunref.2
    · exact absurd (congrArg List.length heq) (by simp)
  · intro href
    have hname := t.parent (sharedLibRoot ++ [name]) version (by rw [hdir]; rfl)
    exact ⟨name, hname, .inl ⟨version, ⟨hdir, href⟩, List.prefix_rfl⟩⟩

lemma deletesExactly_of_prune
    (h : pruneUnusedPackages sharedLibRoot t manifestPaths = some t') :
    DeletesExactly t t' sharedLibRoot manifestPaths where
  packages := by
    intro name version hdir
    have hremoves := removes_pruneUnusedPackages h
    rw [← swept_package_iff hdir, ← Option.not_isSome_iff_eq_none, hremoves.isSome_iff, hdir]
    simp
  removes := removes_pruneUnusedPackages h

lemma isSome_prune_iff :
    (pruneUnusedPackages sharedLibRoot t manifestPaths).isSome ↔
      ((t.entry sharedLibRoot).isSome → Readable t manifestPaths) := by
  unfold pruneUnusedPackages
  split
  · next hnone => simp [hnone]
  · next hsome =>
    rw [← isSome_referencedPaths]
    have hshared := Option.isSome_iff_ne_none.mpr hsome
    simp only [hshared, forall_const]
    cases referencedPaths t manifestPaths with
    | none => rfl
    | some referenced => rfl

/-! ## Builds -/

lemma keeps_copyFile {root relativePath : Path} (h : copyFile root t relativePath = some t') :
    FileTree.Keeps t t' := by
  unfold copyFile at h
  split at h
  · obtain ⟨s, hs, hwrite⟩ := Option.bind_eq_some_iff.mp h
    exact (FileTree.keeps_mkdir hs).trans (FileTree.keeps_write hwrite)
  · cases h
    exact fun _ hq => hq

lemma archiveDistribution_spec {d : Distribution}
    (h : archiveDistribution sharedLibRoot t d = some t') :
    FileTree.Keeps t t' ∧ (t'.entry (packageRoot sharedLibRoot d)).isSome := by
  unfold archiveDistribution at h
  split at h
  · obtain ⟨made, hmade, h⟩ := Option.bind_eq_some_iff.mp h
    obtain ⟨copied, hcopied, h⟩ := Option.bind_eq_some_iff.mp h
    have hrest := (FileTree.keeps_foldlM (fun _ _ _ => keeps_copyFile) hcopied).trans
      (FileTree.keeps_write h)
    refine ⟨(FileTree.keeps_mkdir hmade).trans hrest, hrest _ ?_⟩
    rw [(FileTree.mkdir_spec hmade).2]
    rfl
  · next hsome =>
    have hroot := Option.isSome_iff_ne_none.mpr hsome
    split at h
    · cases h
      exact ⟨fun _ hq => hq, hroot⟩
    · exact ⟨FileTree.keeps_write h, FileTree.keeps_write h _ hroot⟩

lemma archiveDistributions_spec {distributions : List Distribution}
    (h : distributions.foldlM (archiveDistribution sharedLibRoot) t = some t') :
    ∀ root ∈ distributions.map (packageRoot sharedLibRoot), (t'.entry root).isSome := by
  induction distributions generalizing t with
  | nil => exact fun _ hroot => absurd hroot List.not_mem_nil
  | cons d distributions ih =>
    rw [List.foldlM_cons] at h
    obtain ⟨s, hs, hrest⟩ := Option.bind_eq_some_iff.mp h
    have hkeeps := FileTree.keeps_foldlM
      (fun _ _ _ hstep => (archiveDistribution_spec hstep).1) hrest
    rw [List.map_cons, List.forall_mem_cons]
    exact ⟨hkeeps _ (archiveDistribution_spec hs).2, ih hrest⟩

lemma archiveRequirements_spec {extractedRoot : Path} {installed : Option (List Distribution)}
    {built : Files × List Path}
    (h : archiveRequirements t extractedRoot versionRoot sharedLibRoot installed = some built) :
    (∀ q, (t.entry q).isSome → ¬ versionRoot ++ [".dependency_staging"] <+: q →
        (built.1.entry q).isSome) ∧
      ∀ root ∈ built.2, (∃ name version, root = sharedLibRoot ++ [name] ++ [version]) ∧
        ((built.1.entry root).isSome ↔ ¬ versionRoot ++ [".dependency_staging"] <+: root) := by
  unfold archiveRequirements at h
  split at h
  · cases h
    exact ⟨fun _ hq _ => hq, fun _ hroot => absurd hroot List.not_mem_nil⟩
  · obtain ⟨staged, hstaged, h⟩ := Option.bind_eq_some_iff.mp h
    obtain ⟨distributions, -, h⟩ := Option.bind_eq_some_iff.mp h
    obtain ⟨archived, harchived, h⟩ := Option.bind_eq_some_iff.mp h
    cases h
    have hkeeps := (FileTree.keeps_mkdir hstaged).trans (FileTree.keeps_foldlM
      (fun _ _ _ hstep => (archiveDistribution_spec hstep).1) harchived)
    have hremoves := FileTree.removes_rmtree archived (versionRoot ++ [".dependency_staging"])
    refine ⟨fun q hq hstaging => hremoves.isSome_iff.mpr ⟨hkeeps q hq, hstaging⟩, ?_⟩
    intro root hroot
    have hthere := archiveDistributions_spec harchived root hroot
    refine ⟨?_, hremoves.isSome_iff.trans (and_iff_right hthere)⟩
    obtain ⟨d, -, rfl⟩ := List.mem_map.mp hroot
    exact ⟨d.normalizedName, d.version, by simp [packageRoot]⟩

/-- What a build leaves: a manifest with the archived packages and the plugin's own files. -/
structure Built (t₀ : Files) (extractedRoot versionRoot sharedLibRoot : Path)
    (archived : List Path) : Prop where
  manifest : t₀.entry (versionRoot ++ ["dependency_manifest.json"]) =
    some (.file (.manifest
      { paths := archived ++ [extractedRoot], packages := archived.map some }))
  packages : ∀ root ∈ archived, ∃ name version, root = sharedLibRoot ++ [name] ++ [version]
  staged : ∀ root ∈ archived,
    ((t₀.entry root).isSome ↔ ¬ versionRoot ++ [".dependency_staging"] <+: root)
  extracted : (t₀.entry extractedRoot).isSome

lemma built_of_build {manifestPath : Path} {installed : Option (List Distribution)}
    (h : build t (versionRoot ++ ["content"]) versionRoot sharedLibRoot installed =
      some (t₀, manifestPath))
    (hcontent : (t.entry (versionRoot ++ ["content"])).isSome) :
    manifestPath = versionRoot ++ ["dependency_manifest.json"] ∧
      ∃ archived, Built t₀ (versionRoot ++ ["content"]) versionRoot sharedLibRoot archived := by
  unfold build at h
  obtain ⟨made, hmade, h⟩ := Option.bind_eq_some_iff.mp h
  obtain ⟨⟨built, archived⟩, hbuilt, h⟩ := Option.bind_eq_some_iff.mp h
  obtain ⟨written, hwritten, h⟩ := Option.bind_eq_some_iff.mp h
  cases h
  obtain ⟨hkept, hpackages⟩ := archiveRequirements_spec hbuilt
  have hother : ∀ name, name ≠ ".dependency_staging" →
      ¬ versionRoot ++ [".dependency_staging"] <+: versionRoot ++ [name] := fun name hne h =>
    FileTree.apart_of_ne (Ne.symm hne) versionRoot _ h List.prefix_rfl
  refine ⟨rfl, archived, ?_, fun root hroot => (hpackages root hroot).1, ?_, ?_⟩
  · rw [FileTree.entry_write hwritten, if_pos rfl]
  · intro root hroot
    rw [← (hpackages root hroot).2, FileTree.entry_write hwritten]
    split
    · next heq =>
      have hthere := (hpackages root hroot).2.mpr (heq ▸ hother _ (by decide))
      simp [hthere]
    · rfl
  · exact FileTree.keeps_write hwritten _
      (hkept _ (FileTree.keeps_mkdir hmade _ hcontent) (hother _ (by decide)))

/-! ## Builds and prunes -/

/-- The prunes return, and every dependency of the built plugin is there after them. -/
def KeptAfter (sharedLibRoot : Path) (t₀ : Files) (manifestPath : Path)
    (prunes : List (List Path)) : Prop :=
  ∃ t, run (pruneUnusedPackages sharedLibRoot) t₀ prunes = some t ∧
    ∀ q ∈ dependencyPaths t₀ manifestPath, (t.entry q).isSome

/-- The manifests can be read, and none of the paths is in a directory that the prune deletes. -/
def Spares (sharedLibRoot : Path) (paths : List Path) (t : Files) (manifestPaths : List Path) :
    Prop :=
  ((t.entry sharedLibRoot).isSome → Readable t manifestPaths) ∧
    ∀ q ∈ paths, ¬ Swept t sharedLibRoot manifestPaths q

lemma exists_run_iff {paths : List Path} {prunes : List (List Path)} :
    (∃ t', run (pruneUnusedPackages sharedLibRoot) t prunes = some t' ∧
        ∀ q ∈ paths, (t'.entry q).isSome) ↔
      (∀ q ∈ paths, (t.entry q).isSome) ∧
        StepsMeet (pruneUnusedPackages sharedLibRoot) (Spares sharedLibRoot paths) t prunes := by
  induction prunes generalizing t with
  | nil => simp [StepsMeet]
  | cons manifestPaths prunes ih =>
    cases hprune : pruneUnusedPackages sharedLibRoot t manifestPaths with
    | none =>
      have hraises := isSome_prune_iff.not.mp (Option.not_isSome_iff_eq_none.mpr hprune)
      constructor
      · rintro ⟨t', hrun, -⟩
        rw [run, hprune] at hrun
        cases hrun
      · exact fun h => absurd h.2.1.1 hraises
    | some s =>
      have hreads := isSome_prune_iff.mp (Option.isSome_iff_exists.mpr ⟨s, hprune⟩)
      have hremoves := removes_pruneUnusedPackages hprune
      rw [stepsMeet_cons_of_step hprune, run, hprune, Option.bind_some, ih]
      simp only [hremoves.isSome_iff]
      constructor
      · rintro ⟨hall, hrest⟩
        exact ⟨fun q hq => (hall q hq).1, ⟨hreads, fun q hq => (hall q hq).2⟩, hrest⟩
      · rintro ⟨hthere, ⟨-, hspared⟩, hrest⟩
        exact ⟨fun q hq => ⟨hthere q hq, hspared q hq⟩, hrest⟩

variable {archived : List Path} {prunes : List (List Path)}

/-- The manifest of the built plugin is where it was. -/
def ManifestStands (versionRoot : Path) (archived : List Path) (t : Files) : Prop :=
  t.entry (versionRoot ++ ["dependency_manifest.json"]) =
    some (.file (.manifest
      { paths := archived ++ [versionRoot ++ ["content"]], packages := archived.map some }))

lemma manifestStands_prune
    (hstands : ManifestStands versionRoot archived t)
    (hspared : ¬ Swept t sharedLibRoot manifestPaths (versionRoot ++ ["content"]))
    (h : pruneUnusedPackages sharedLibRoot t manifestPaths = some t') :
    ManifestStands versionRoot archived t' := by
  refine ((removes_pruneUnusedPackages h _).2 ?_).trans hstands
  rintro ⟨name, hname, ⟨version, hunref, hpre⟩ | ⟨heq, -⟩⟩
  · rcases List.prefix_concat_iff.mp hpre with heq | hpre
    · rw [ManifestStands, ← heq, hunref.1] at hstands
      cases hstands
    · exact hspared ⟨name, hname, .inl ⟨version, hunref, hpre.trans (List.prefix_append ..)⟩⟩
  · rw [ManifestStands, heq, hname] at hstands
    cases hstands

lemma not_swept_package (hstands : ManifestStands versionRoot archived t)
    (hmem : versionRoot ++ ["dependency_manifest.json"] ∈ manifestPaths)
    (hpackages : ∀ root ∈ archived, ∃ name version, root = sharedLibRoot ++ [name] ++ [version])
    (hq : q ∈ archived) : ¬ Swept t sharedLibRoot manifestPaths q := by
  obtain ⟨name, version, rfl⟩ := hpackages q hq
  rintro ⟨name', -, ⟨version', hunref, hpre⟩ | ⟨heq, -⟩⟩
  · rw [hpre.eq_of_length (by simp)] at hunref
    exact hunref.2 ⟨_, hmem, _, hstands, List.mem_map_of_mem hq⟩
  · exact absurd (congrArg List.length heq) (by simp)

lemma stepsMeet_spares_iff (hstands : ManifestStands versionRoot archived t)
    (hpackages : ∀ root ∈ archived, ∃ name version, root = sharedLibRoot ++ [name] ++ [version])
    (hmem : ∀ manifestPaths ∈ prunes,
      versionRoot ++ ["dependency_manifest.json"] ∈ manifestPaths) :
    StepsMeet (pruneUnusedPackages sharedLibRoot)
        (Spares sharedLibRoot (archived ++ [versionRoot ++ ["content"]])) t prunes ↔
      StepsMeet (pruneUnusedPackages sharedLibRoot)
        (Spares sharedLibRoot [versionRoot ++ ["content"]]) t prunes := by
  induction prunes generalizing t with
  | nil => rfl
  | cons manifestPaths prunes ih =>
    obtain ⟨hhead, htail⟩ := List.forall_mem_cons.mp hmem
    have hspares : Spares sharedLibRoot (archived ++ [versionRoot ++ ["content"]]) t
        manifestPaths ↔ Spares sharedLibRoot [versionRoot ++ ["content"]] t manifestPaths := by
      refine and_congr_right fun _ => ?_
      rw [List.forall_mem_append]
      exact and_iff_right fun q hq => not_swept_package hstands hhead hpackages hq
    unfold StepsMeet
    rw [hspares]
    refine and_congr_right fun hspared => ?_
    cases hprune : pruneUnusedPackages sharedLibRoot t manifestPaths with
    | none => rfl
    | some s =>
      have hcontent := hspared.2 _ List.mem_cons_self
      exact ih (manifestStands_prune hstands hcontent hprune) htail

/-- None of the paths is in the staging directory, which a build deletes. -/
def OutsideStaging (versionRoot : Path) (paths : List Path) : Prop :=
  ∀ q ∈ paths, ¬ versionRoot ++ [".dependency_staging"] <+: q

section Kept

variable {manifestPath : Path} {installed : Option (List Distribution)}

lemma keptAfter_iff (hcontent : (t.entry (versionRoot ++ ["content"])).isSome)
    (hbuild : build t (versionRoot ++ ["content"]) versionRoot sharedLibRoot installed =
      some (t₀, manifestPath)) :
    KeptAfter sharedLibRoot t₀ manifestPath prunes ↔
      OutsideStaging versionRoot (dependencyPaths t₀ manifestPath) ∧
      StepsMeet (pruneUnusedPackages sharedLibRoot)
        (Spares sharedLibRoot (dependencyPaths t₀ manifestPath)) t₀ prunes := by
  obtain ⟨rfl, archived, hbuilt⟩ := built_of_build hbuild hcontent
  have hpaths : dependencyPaths t₀ (versionRoot ++ ["dependency_manifest.json"]) =
      archived ++ [versionRoot ++ ["content"]] := by
    rw [dependencyPaths, hbuilt.manifest]
  have hown : ¬ versionRoot ++ [".dependency_staging"] <+: versionRoot ++ ["content"] :=
    fun h => FileTree.apart_of_ne (by decide) versionRoot _ h List.prefix_rfl
  rw [KeptAfter, hpaths, exists_run_iff]
  refine and_congr_left fun _ => ?_
  rw [OutsideStaging, List.forall_mem_append, List.forall_mem_append]
  refine and_congr (forall₂_congr hbuilt.staged) ?_
  simp only [List.forall_mem_singleton, hbuilt.extracted, hown, not_false_eq_true]

lemma keptAfter_iff_of_mem (hcontent : (t.entry (versionRoot ++ ["content"])).isSome)
    (hbuild : build t (versionRoot ++ ["content"]) versionRoot sharedLibRoot installed =
      some (t₀, manifestPath))
    (hmem : ∀ manifestPaths ∈ prunes, manifestPath ∈ manifestPaths) :
    KeptAfter sharedLibRoot t₀ manifestPath prunes ↔
      OutsideStaging versionRoot (dependencyPaths t₀ manifestPath) ∧
      StepsMeet (pruneUnusedPackages sharedLibRoot)
        (Spares sharedLibRoot [versionRoot ++ ["content"]]) t₀ prunes := by
  rw [keptAfter_iff hcontent hbuild]
  refine and_congr_right fun _ => ?_
  obtain ⟨rfl, archived, hbuilt⟩ := built_of_build hbuild hcontent
  have hpaths : dependencyPaths t₀ (versionRoot ++ ["dependency_manifest.json"]) =
      archived ++ [versionRoot ++ ["content"]] := by
    rw [dependencyPaths, hbuilt.manifest]
  rw [hpaths]
  exact stepsMeet_spares_iff hbuilt.manifest hbuilt.packages hmem

lemma not_swept_outside (h : ¬ sharedLibRoot <+: q) :
    ¬ Swept t sharedLibRoot manifestPaths q := by
  rintro ⟨name, -, ⟨version, -, hpre⟩ | ⟨rfl, -⟩⟩
  · rw [List.append_assoc] at hpre
    exact h ((List.prefix_append ..).trans hpre)
  · exact h (List.prefix_append ..)

end Kept

/-- A prune returns and deletes exactly the packages that no manifest of its set records if the
manifests can be read.  After a build, the dependencies of the plugin outlast prunes if none is in a
directory that a prune deletes; and where the prunes are given the plugin's manifest, its packages
are in none, so that it comes down to the plugin's own files. -/
theorem dependencies_kept_iff (sharedLibRoot : Path) :
    (∀ t manifestPaths,
      (∃ t', pruneUnusedPackages sharedLibRoot t manifestPaths = some t' ∧
          DeletesExactly t t' sharedLibRoot manifestPaths) ↔
        ((t.entry sharedLibRoot).isSome → Readable t manifestPaths)) ∧
      ∀ t t₀ versionRoot manifestPath installed,
        (t.entry (versionRoot ++ ["content"])).isSome →
        build t (versionRoot ++ ["content"]) versionRoot sharedLibRoot installed =
          some (t₀, manifestPath) →
        ∀ prunes,
          (KeptAfter sharedLibRoot t₀ manifestPath prunes ↔
            OutsideStaging versionRoot (dependencyPaths t₀ manifestPath) ∧
            StepsMeet (pruneUnusedPackages sharedLibRoot)
              (Spares sharedLibRoot (dependencyPaths t₀ manifestPath)) t₀ prunes) ∧
          ((∀ manifestPaths ∈ prunes, manifestPath ∈ manifestPaths) →
            (KeptAfter sharedLibRoot t₀ manifestPath prunes ↔
              OutsideStaging versionRoot (dependencyPaths t₀ manifestPath) ∧
              StepsMeet (pruneUnusedPackages sharedLibRoot)
                (Spares sharedLibRoot [versionRoot ++ ["content"]]) t₀ prunes)) := by
  refine ⟨fun t manifestPaths => ?_, ?_⟩
  · rw [← isSome_prune_iff, Option.isSome_iff_exists]
    exact exists_congr fun t' => and_iff_left_of_imp deletesExactly_of_prune
  · intro t t₀ versionRoot manifestPath installed hcontent hbuild prunes
    exact ⟨keptAfter_iff hcontent hbuild, keptAfter_iff_of_mem hcontent hbuild⟩

/-! ## Two plugins -/

/-- The files of a plugin as they are installed, with these among them. -/
def installedFiles (versionRoot : Path) (names : List String) : Files :=
  ((FileTree.root.mkdir (versionRoot ++ ["content"])).bind fun t =>
    names.foldlM (fun t name => t.write (versionRoot ++ ["content"]) name .other) t).getD .root

def sharedLibs : Path := [".plugins", "shared_libs"]

/-- `sharedpkg` 1.0.0. -/
def sharedpkg : Distribution where
  name := "sharedpkg"
  version := "1.0.0"
  files := [["sharedpkg", "__init__.py"]]
  named := by decide
  versioned := by decide

def demoRoot : Path := [".plugins", "demo", "versions", "1.0"]

def demoBuild : Option (Files × Path) :=
  build (installedFiles demoRoot ["requirements.txt"]) (demoRoot ++ ["content"]) demoRoot sharedLibs
    (some [sharedpkg])

/-- After a build, `demo` keeps its package and its files through a prune. -/
theorem demo_kept : ∃ t₀ manifestPath, demoBuild = some (t₀, manifestPath) ∧
    KeptAfter sharedLibs t₀ manifestPath [[manifestPath]] := by
  have hmanifest : demoBuild.map (fun built => built.1.entry built.2) =
      some (some (.file (.manifest
        { paths := [sharedLibs ++ ["sharedpkg", "1.0.0"], demoRoot ++ ["content"]]
          packages := [some (sharedLibs ++ ["sharedpkg", "1.0.0"])] }))) := by
    decide +kernel
  obtain ⟨⟨t₀, manifestPath⟩, hbuild, hentry⟩ := Option.map_eq_some_iff.mp hmanifest
  refine ⟨t₀, manifestPath, hbuild, ?_⟩
  have hkept := ((dependencies_kept_iff sharedLibs).2 _ _ _ _ _ (by decide +kernel) hbuild
    [[manifestPath]]).2 (by simp)
  refine hkept.mpr ⟨?_, ⟨fun _ => ?_, fun q hq => ?_⟩, ?_⟩
  · rw [dependencyPaths, hentry]
    unfold OutsideStaging
    decide
  · intro p hp e he
    rw [List.mem_singleton.mp hp, hentry] at he
    exact ⟨_, (Option.some.inj he).symm⟩
  · rw [List.mem_singleton.mp hq]
    exact not_swept_outside (by decide)
  · cases pruneUnusedPackages sharedLibs t₀ [manifestPath] <;> trivial

def sharedLibsRoot : Path := sharedLibs ++ ["versions", "1.0"]

def sharedLibsBuild : Option (Files × Path) :=
  build (installedFiles sharedLibsRoot []) (sharedLibsRoot ++ ["content"]) sharedLibsRoot sharedLibs
    none

/-- A prune deletes the files of a plugin named `shared_libs`, although it is given the plugin's
manifest. -/
theorem sharedLibs_not_kept : ∃ t₀ manifestPath, sharedLibsBuild = some (t₀, manifestPath) ∧
    ¬ KeptAfter sharedLibs t₀ manifestPath [[manifestPath]] := by
  have hgone : sharedLibsBuild.map (fun built =>
      (dependencyPaths built.1 built.2,
        (pruneUnusedPackages sharedLibs built.1 [built.2]).map fun t =>
          t.entry (sharedLibsRoot ++ ["content"]))) =
      some ([sharedLibsRoot ++ ["content"]], some none) := by
    decide +kernel
  obtain ⟨⟨t₀, manifestPath⟩, hbuild, heq⟩ := Option.map_eq_some_iff.mp hgone
  refine ⟨t₀, manifestPath, hbuild, ?_⟩
  obtain ⟨hpaths, hprune⟩ := Prod.mk.inj heq
  rintro ⟨t, hrun, hall⟩
  obtain ⟨s, hs, hrest⟩ := run_cons_eq_some.mp hrun
  cases hrest
  rw [hpaths] at hall
  have hthere := hall _ List.mem_cons_self
  rw [hs] at hprune
  have hnone : t.entry (sharedLibsRoot ++ ["content"]) = none := Option.some.inj hprune
  rw [hnone] at hthere
  cases hthere

end CocoonSit.Dependencies
