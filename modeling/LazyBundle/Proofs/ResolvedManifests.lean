import LazyBundle.Manifest
import LazyBundle.Proofs.DiskFiles
import LazyBundle.Proofs.JsonRoundTrip
import LazyBundle.Proofs.Records
import LazyBundle.Proofs.Steps

/-!
# Manifests that are resolved

A manifest is resolved when each of its artifacts gives code or the file of the
code, not both, and the files can be read. The artifacts are then as the manifest
gives them, in its order. Otherwise the first artifact at fault decides the error
(`parse_resolved`).
-/

namespace LazyBundle

namespace Manifest

open Json (Doc Document)
open Json.Reader

/-! ## What a manifest gives for an artifact -/

def OneSource (d : Doc) : Prop :=
  d.Gives 1 "code" ↔ ¬d.Gives 2 "codeFile"

section artifact

variable (disk : Disk) (base : Path) (d : Doc)

def CodeReadable : Prop :=
  ∀ file, d.Says 2 "codeFile" Path.ofDoc file →
    ∃ code : String, disk.find (base.join file.text) = .ok (.file code.toUTF8)

inductive CodeOf (code : String) : Prop
  | inline (h : d.Says 1 "code" text code)
  | file (file : Path) (h : d.Says 2 "codeFile" Path.ofDoc file)
      (content : disk.find (base.join file.text) = .ok (.file code.toUTF8))

structure ArtifactOf (a : Artifact) : Prop where
  fileName : d.Says 0 "fileName" text a.fileName
  code : CodeOf disk base d a.code
  entryKey : Given (optional text) none (d.field? 3 "entryKey") a.entryKey
  kind : ∃ isComponent isAppCore, Given bool false (d.field? 4 "isComponent") isComponent ∧
    Given bool false (d.field? 5 "isAppCore") isAppCore ∧
    a.kind = if isComponent then .componentEntry else if isAppCore then .core else .chunk

inductive Offends : Error → Prop
  | twoSources {fileName : String} (name : d.Says 0 "fileName" text fileName) (code : d.Gives 1 "code")
      (codeFile : d.Gives 2 "codeFile") : Offends (.twoSources fileName)
  | noSource {fileName : String} (name : d.Says 0 "fileName" text fileName) (code : ¬d.Gives 1 "code")
      (codeFile : ¬d.Gives 2 "codeFile") : Offends (.noSource fileName)
  | unreadableCode {fileName : String} {file : Path} {cause : IoError} (name : d.Says 0 "fileName" text fileName)
      (code : ¬d.Gives 1 "code") (codeFile : d.Says 2 "codeFile" Path.ofDoc file)
      (unreadable : disk.readText (base.join file.text) = .error cause) : Offends (.unreadableCode fileName cause)

end artifact

/-! ## One artifact -/

structure Listing.Filled : Prop where
  fileName : Fills Listing.shape 0 "fileName" text (·.fileName)
  code : Fills Listing.shape 1 "code" (optional text) (·.code)
  codeFile : Fills Listing.shape 2 "codeFile" (optional Path.ofDoc) (·.codeFile)
  entryKey : Fills Listing.shape 3 "entryKey" (optional text) (·.entryKey)
  isComponent : Fills Listing.shape 4 "isComponent" bool (·.isComponent)
  isAppCore : Fills Listing.shape 5 "isAppCore" bool (·.isAppCore)

theorem Listing.filled : Filled := by
  constructor
  all_goals refine .of_field rfl (fun _ _ => rfl) ?_
  all_goals
    intro f hf hne s d t h
    simp only [shape, List.mem_cons, List.not_mem_nil, or_false] at hf
    rcases hf with rfl | rfl | rfl | rfl | rfl | rfl
  all_goals first
    | exact absurd rfl hne
    | obtain ⟨b, -, rfl⟩ := of_read_eq_ok.mp h
      rfl

theorem Listing.says_fileName {d : Doc} {l : Listing} (h : record Listing.shape d = .ok l) :
    d.Says 0 "fileName" text l.fileName :=
  Listing.filled.fileName.says (by decide) List.mem_cons_self rfl rfl h

def Listing.codeOn (disk : Disk) (base : Path) (l : Listing) : Except Error String :=
  match l.code, l.codeFile with
  | some code, none => .ok code
  | none, some file => (disk.readText (base.join file.text)).mapError (.unreadableCode l.fileName)
  | some _, some _ => .error (.twoSources l.fileName)
  | none, none => .error (.noSource l.fileName)

theorem Listing.code?_apply (disk : Disk) (base : Path) (l : Listing) :
    l.code? Disk.fileReader base disk = (l.codeOn disk base, disk) := by
  unfold code? codeOn
  cases l.code <;> cases l.codeFile <;> rfl

section outcome

variable {disk : Disk} {base : Path} {d : Doc}

inductive Settled (disk : Disk) (base : Path) (d : Doc) : Except Error Artifact → Prop
  | resolved {a : Artifact} (source : OneSource d) (readable : CodeReadable disk base d)
      (artifact : ArtifactOf disk base d a) : Settled disk base d (.ok a)
  | failed {e : Error} (offends : Offends disk base d e) : Settled disk base d (.error e)

theorem gives_codeFile {file : Path} (h : d.Says 2 "codeFile" Path.ofDoc file) : d.Gives 2 "codeFile" :=
  h.gives fun _ hnull => nomatch hnull

theorem settled {l : Listing} (h : record Listing.shape d = .ok l) :
    Settled disk base d ((l.codeOn disk base).map l.toArtifact) := by
  have hname := Listing.says_fileName h
  have hentryKey := (Listing.filled.entryKey.given (by decide) h).1
  have hisComponent := (Listing.filled.isComponent.given (by decide) h).1
  have hisAppCore := (Listing.filled.isAppCore.given (by decide) h).1
  have artifact {code : String} (hcode : CodeOf disk base d code) : ArtifactOf disk base d (l.toArtifact code) :=
    ⟨hname, hcode, hentryKey, _, _, hisComponent, hisAppCore, rfl⟩
  have hcodeFile := given_optional (Listing.filled.codeFile.given (by decide) h).1
  rcases given_optional (Listing.filled.code.given (by decide) h).1 with ⟨hcode, hnone⟩ | ⟨hcode, code, hsome, hsays⟩
  · rcases hcodeFile with ⟨hfile, hnone'⟩ | ⟨hfile, file, hsome', hsays'⟩
    · rw [Listing.codeOn, hnone, hnone']
      exact .failed (.noSource hname hcode hfile)
    · rw [Listing.codeOn, hnone, hsome']
      show Settled disk base d (((disk.readText (base.join file.text)).mapError _).map l.toArtifact)
      cases hread : disk.readText (base.join file.text) with
      | error cause => exact .failed (.unreadableCode hname hcode hsays' hread)
      | ok content =>
        have hcontent := Disk.readText_eq_ok_iff.mp hread
        refine .resolved ?_ ?_ (artifact (.file file hsays' hcontent))
        · exact ⟨fun hgives => absurd hgives hcode, fun hnot => absurd hfile hnot⟩
        · intro file' hfile'
          rw [hfile'.unique hsays']
          exact ⟨content, hcontent⟩
  · rcases hcodeFile with ⟨hfile, hnone'⟩ | ⟨hfile, file, hsome', hsays'⟩
    · rw [Listing.codeOn, hsome, hnone']
      refine .resolved ⟨fun _ => hfile, fun _ => hcode⟩ ?_ (artifact (.inline hsays))
      intro file hsays'
      exact absurd (gives_codeFile hsays') hfile
    · rw [Listing.codeOn, hsome, hsome']
      exact .failed (.twoSources hname hcode hfile)

theorem Offends.not_resolved {e : Error} (h : Offends disk base d e) : ¬(OneSource d ∧ CodeReadable disk base d) := by
  rintro ⟨source, readable⟩
  cases h with
  | twoSources _ code codeFile => exact source.mp code codeFile
  | noSource _ code codeFile => exact code (source.mpr codeFile)
  | unreadableCode _ _ codeFile unreadable =>
    obtain ⟨content, hcontent⟩ := readable _ codeFile
    rw [Disk.readText_eq_ok_iff.mpr hcontent] at unreadable
    cases unreadable

theorem Offends.unique {e e' : Error} (h : Offends disk base d e) (h' : Offends disk base d e') : e = e' := by
  cases h with
  | twoSources name code codeFile =>
    cases h' with
    | twoSources name' => rw [name.unique name']
    | noSource _ code' => exact absurd code code'
    | unreadableCode _ code' => exact absurd code code'
  | noSource name code codeFile =>
    cases h' with
    | twoSources _ code' => exact absurd code' code
    | noSource name' => rw [name.unique name']
    | unreadableCode _ _ codeFile' => exact absurd (gives_codeFile codeFile') codeFile
  | unreadableCode name code codeFile unreadable =>
    cases h' with
    | twoSources _ code' => exact absurd code' code
    | noSource _ _ codeFile' => exact absurd (gives_codeFile codeFile) codeFile'
    | unreadableCode name' _ codeFile' unreadable' =>
      obtain rfl := codeFile.unique codeFile'
      rw [unreadable] at unreadable'
      cases unreadable'
      rw [name.unique name']

end outcome

/-! ## All artifacts -/

theorem resolve_apply (disk : Disk) (base : Path) (ls : List Listing) :
    resolve Disk.fileReader base ls disk =
      (collect (ls.map fun l => (l.codeOn disk base).map l.toArtifact), disk) := by
  induction ls with
  | nil => rfl
  | cons l ls ih =>
    rw [resolve, Step.bind_apply, Listing.code?_apply, List.map_cons]
    cases l.codeOn disk base with
    | error e => rfl
    | ok code =>
      show (resolve Disk.fileReader base ls >>= fun rest => pure (rest.map (l.toArtifact code :: ·))) disk = _
      rw [Step.bind_apply, ih]
      rfl

/-- The first of these documents that does not resolve is at fault. -/
def FirstOffends (disk : Disk) (base : Path) (docs : List Doc) (e : Error) : Prop :=
  ∃ before d after, docs = before ++ d :: after ∧ (∀ d' ∈ before, OneSource d' ∧ CodeReadable disk base d') ∧
    Offends disk base d e

section list

variable {disk : Disk} {base : Path}

theorem not_firstOffends_nil {e : Error} : ¬FirstOffends disk base [] e := by
  rintro ⟨before, d, after, h, -⟩
  cases before <;> cases h

theorem firstOffends_cons_iff {d : Doc} {docs : List Doc} {e : Error} :
    FirstOffends disk base (d :: docs) e ↔
      Offends disk base d e ∨ (OneSource d ∧ CodeReadable disk base d) ∧ FirstOffends disk base docs e := by
  constructor
  · rintro ⟨before, d', after, heq, hbefore, hoffends⟩
    cases before with
    | nil =>
      cases heq
      exact .inl hoffends
    | cons b before =>
      cases heq
      obtain ⟨hb, hbefore⟩ := List.forall_mem_cons.mp hbefore
      exact .inr ⟨hb, before, d', after, rfl, hbefore, hoffends⟩
  · rintro (hoffends | ⟨hd, before, d', after, rfl, hbefore, hoffends⟩)
    · exact ⟨[], d, docs, rfl, List.forall_mem_nil _, hoffends⟩
    · exact ⟨d :: before, d', after, rfl, List.forall_mem_cons.mpr ⟨hd, hbefore⟩, hoffends⟩

theorem collect_settled_ok_iff {docs : List Doc} {xs : List (Except Error Artifact)}
    (h : List.Forall₂ (Settled disk base) docs xs) :
    (∃ as, collect xs = .ok as) ↔ ∀ d ∈ docs, OneSource d ∧ CodeReadable disk base d := by
  induction h with
  | nil => simp
  | @cons d x docs xs hd _ ih =>
    rw [List.forall_mem_cons, ← ih]
    cases hd with
    | resolved source readable _ =>
      constructor
      · rintro ⟨as, has⟩
        obtain ⟨a, as', -, has', -⟩ := collect_cons_ok has
        exact ⟨⟨source, readable⟩, as', has'⟩
      · rintro ⟨-, as, has⟩
        exact ⟨_ :: as, by rw [collect_ok_cons, has]; rfl⟩
    | failed offends => exact ⟨fun ⟨_, has⟩ => (by cases has), fun hd => absurd hd.1 offends.not_resolved⟩

theorem collect_settled_ok {docs : List Doc} {xs : List (Except Error Artifact)}
    (h : List.Forall₂ (Settled disk base) docs xs) {as : List Artifact} (hok : collect xs = .ok as) :
    List.Forall₂ (ArtifactOf disk base) docs as := by
  rw [eq_map_of_collect hok, List.forall₂_map_right_iff] at h
  apply h.imp
  intro d a hd
  cases hd with
  | resolved _ _ artifact => exact artifact

theorem collect_settled_error_iff {docs : List Doc} {xs : List (Except Error Artifact)}
    (h : List.Forall₂ (Settled disk base) docs xs) (e : Error) :
    collect xs = .error e ↔ FirstOffends disk base docs e := by
  induction h with
  | nil => exact ⟨fun h => (by cases h), fun h => absurd h not_firstOffends_nil⟩
  | @cons d x docs xs hd _ ih =>
    rw [firstOffends_cons_iff, ← ih]
    cases hd with
    | resolved source readable _ =>
      rw [collect_ok_cons]
      constructor
      · intro hxs
        cases hcollect : collect xs with
        | ok as => rw [hcollect] at hxs; cases hxs
        | error e' => rw [hcollect] at hxs; cases hxs; exact .inr ⟨⟨source, readable⟩, rfl⟩
      · rintro (offends | ⟨-, hxs⟩)
        · exact absurd ⟨source, readable⟩ offends.not_resolved
        · rw [hxs]; rfl
    | failed offends =>
      rw [collect_error_cons]
      constructor
      · intro hxs
        cases hxs
        exact .inl offends
      · rintro (offends' | ⟨hd, -⟩)
        · rw [offends.unique offends']
        · exact absurd hd offends.not_resolved

end list

structure Contents.Filled : Prop where
  artifacts : Fills shape 0 "artifacts" (list (record Listing.shape)) (·.artifacts)
  entryModules : Fills shape 1 "entryModules" (list EntryModule.reader) (·.entryModules)

theorem Contents.filled : Filled := by
  constructor
  all_goals refine .of_field rfl (fun _ _ => rfl) ?_
  all_goals
    intro f hf hne s d t h
    simp only [shape, List.mem_cons, List.not_mem_nil, or_false] at hf
    rcases hf with rfl | rfl
  all_goals first
    | exact absurd rfl hne
    | obtain ⟨b, -, rfl⟩ := of_read_eq_ok.mp h
      rfl

/-- A manifest that can be read is resolved exactly when each artifact that it lists has one source of its
code and can be read; the artifacts are then as it lists them. Otherwise the first artifact at fault
decides the error. -/
theorem parse_resolved {content : String} {contents : Contents} (h : ofText Contents.reader content = .ok contents)
    (base : Path) (disk : Disk) :
    ∃ docs moduleDocs outcome,
      (Document.ofText content).value.field? 0 "artifacts" = some (.list docs none) ∧
      ItemsOf ((Document.ofText content).value.field? 1 "entryModules") moduleDocs ∧
      parse Disk.fileReader content base disk = (outcome, disk) ∧
      ((∃ m, outcome = .ok m) ↔ ∀ d ∈ docs, OneSource d ∧ CodeReadable disk base d) ∧
      (∀ m, outcome = .ok m → List.Forall₂ (ArtifactOf disk base) docs m.artifacts ∧
        List.Forall₂ (fun d e => EntryModule.reader d = .ok e) moduleDocs m.entryModules) ∧
      (∀ e, outcome = .error e ↔ FirstOffends disk base docs e) ∧
      ∀ file : String, file.toList.head? = some '/' → base.join file = ⟨file⟩ := by
  have hrecord : record Contents.shape (Document.ofText content).value = .ok contents := by
    obtain ⟨contents', hcontents, htrailing⟩ := bind_eq_ok_iff.mp h
    cases ht : (Document.ofText content).trailing with
    | some f => simp only [ht] at htrailing; cases htrailing
    | none => simp only [ht] at htrailing; cases htrailing; exact hcontents
  obtain ⟨artifacts, hfield, hlist⟩ :=
    Contents.filled.artifacts.says (by decide) List.mem_cons_self rfl rfl hrecord
  obtain ⟨docs, rfl, hdocs⟩ := list_ok hlist
  obtain ⟨moduleDocs, hitems, hmodules⟩ :=
    given_list (Contents.filled.entryModules.given (by decide) hrecord).1
  have hsettled : List.Forall₂ (Settled disk base) docs
      (contents.artifacts.map fun l => (l.codeOn disk base).map l.toArtifact) := by
    rw [List.forall₂_map_right_iff]
    exact hdocs.imp fun d l hl => settled hl
  have hparse : parse Disk.fileReader content base disk =
      ((collect (contents.artifacts.map fun l => (l.codeOn disk base).map l.toArtifact)).map
        fun artifacts => ⟨artifacts, contents.entryModules⟩, disk) := by
    rw [parse, h]
    show (resolve Disk.fileReader base contents.artifacts >>= _) disk = _
    rw [Step.bind_apply, resolve_apply]
    rfl
  refine ⟨docs, moduleDocs, _, hfield, hitems, hparse, ?_, ?_, ?_, fun file hfile => if_pos hfile⟩
  · rw [← collect_settled_ok_iff hsettled]
    constructor
    · rintro ⟨m, hm⟩
      obtain ⟨as, has, -⟩ := map_eq_ok_iff.mp hm
      exact ⟨as, has⟩
    · rintro ⟨as, has⟩
      exact ⟨_, map_eq_ok_iff.mpr ⟨as, has, rfl⟩⟩
  · intro m hm
    obtain ⟨as, has, rfl⟩ := map_eq_ok_iff.mp hm
    exact ⟨collect_settled_ok hsettled has, hmodules⟩
  · intro e
    rw [← collect_settled_error_iff hsettled]
    exact map_eq_error_iff

/-! The code of the core bundle stands in a file that the manifest names from the root. -/

def mixedManifest : Json :=
  .object [("artifacts", .list [
    .object [("fileName", .string "core.js"), ("codeFile", .string "/out/core.js"), ("isAppCore", .bool true)],
    .object [("fileName", .string "icon.js"), ("code", .string "1"), ("codeFile", .null),
      ("entryKey", .string "icon"), ("isComponent", .bool true)]])]

def mixedDisk : Disk :=
  { files := [(["out", "core.js"], "core();".toUTF8)], directories := [["out"]] }

theorem mixedManifest_read : ofText Contents.reader mixedManifest.text = .ok ⟨[
    { fileName := "core.js", codeFile := some ⟨"/out/core.js"⟩, isAppCore := true },
    { fileName := "icon.js", code := some "1", entryKey := some "icon", isComponent := true }], []⟩ := by
  rw [ofText, Json.ofText_text]
  decide +kernel

theorem mixedManifest_parsed : (parse Disk.fileReader mixedManifest.text ⟨"app"⟩ mixedDisk).1 =
    .ok ⟨[⟨"core.js", "core();", none, .core⟩, ⟨"icon.js", "1", some "icon", .componentEntry⟩], []⟩ := by
  rw [parse, mixedManifest_read]
  decide +kernel

theorem parse_resolved_mixed :
    ∃ docs, (Document.ofText mixedManifest.text).value.field? 0 "artifacts" = some (.list docs none) ∧
      List.Forall₂ (ArtifactOf mixedDisk ⟨"app"⟩) docs
        [⟨"core.js", "core();", none, .core⟩, ⟨"icon.js", "1", some "icon", .componentEntry⟩] := by
  obtain ⟨docs, _, outcome, hdocs, -, hparse, -, hok, -⟩ := parse_resolved mixedManifest_read ⟨"app"⟩ mixedDisk
  have houtcome := mixedManifest_parsed
  rw [hparse] at houtcome
  exact ⟨docs, hdocs, (hok _ houtcome).1⟩

end Manifest

end LazyBundle
