/-
Diagnostic bundles.  The builder redacts the output of its sources and the sidecars with their
errors, and keeps each error for the manifest as it came.  The texts of the bundle are kept in
pieces that say which source they were taken from.
-/
import MacVz.PathText
import MacVz.Redaction
import Mathlib.Data.List.Sort

namespace MacVz.DiagBundle

open Redaction

/-- `Source`, with what its `Collect` returns. -/
structure Source where
  name : String
  output : String
  err : Option String
deriving Repr, DecidableEq

/-- What a text may be taken from: the output or the error of a source. -/
inductive Origin where
  | output (source : Nat)
  | err (source : Nat)
deriving Repr, DecidableEq

/-- A piece of a text, with the source it was taken from. -/
structure Piece where
  origin : Option Origin
  text : String
deriving Repr, DecidableEq

/-- A text, in pieces that know where they come from. -/
abbrev Text := List Piece

/-- A piece the bundle writes itself. -/
def own (text : String) : Piece := ⟨none, text⟩

def Text.string (t : Text) : String := String.join (t.map Piece.text)

structure File where
  path : String
  content : Text
deriving Repr, DecidableEq

/-- `FileResult`. -/
structure FileResult where
  name : String
  bytes : Nat
  err : Text
deriving Repr, DecidableEq

/-- `Builder`, with the two texts it makes of the time. -/
structure Builder where
  redactor : Redactor
  sources : List Source
  stamp : String
  generated : String

/-- The errors of the file system: for the directory of the bundle, for the directory, the file
and the sidecar of each source, and for the manifest. -/
structure Disk where
  bundle : Option String
  directory : Nat → Option String
  file : Nat → Option String
  sidecar : Nat → Option String
  manifest : Option String

/-- `sanitize`. -/
def sanitize (s : String) : String :=
  s.map fun c => if c.isAlphanum || c == '-' || c == '_' || c == '.' then c else '-'

/-- `DirName`. -/
def Builder.dirName (b : Builder) (node : String) : String :=
  if node = "" then "macvz-bundle-" ++ b.stamp
  else "macvz-bundle-" ++ sanitize node ++ "-" ++ b.stamp

/-- The pass of the loop of `Build` over one source: the files it writes and what it records. -/
def Builder.collect (b : Builder) (disk : Disk) (dir : String) (i : Nat) (s : Source) :
    List File × FileResult :=
  let redacted := b.redactor.redact s.output
  let target := GoFilepath.joinText [dir, s.name]
  match disk.directory i with
  | some err => ([], ⟨s.name, 0, [own err]⟩)
  | none =>
    match disk.file i with
    | some err => ([], ⟨s.name, 0, [own err]⟩)
    | none =>
      let file : File := ⟨target, [⟨some (.output i), redacted⟩]⟩
      match s.err with
      | none => ([file], ⟨s.name, redacted.utf8ByteSize, []⟩)
      | some err =>
        let sidecar : File :=
          ⟨target ++ ".error", [⟨some (.err i), b.redactor.redact err⟩, own "\n"]⟩
        (file :: (if disk.sidecar i = none then [sidecar] else []),
          ⟨s.name, redacted.utf8ByteSize, [⟨some (.err i), err⟩]⟩)

/-- `emptyDash`. -/
def emptyDash (s : String) : String := if s = "" then "-" else s

/-- `%-40s`. -/
def padded (s : String) : String := String.ofList (s.toList ++ List.replicate (40 - s.length) ' ')

def FileResult.line (f : FileResult) : Text :=
  own ("  " ++ padded f.name ++ " ") ::
    (if f.err.string ≠ "" then own "ERROR: " :: f.err
      else [own (toString f.bytes ++ " bytes")]) ++ [own "\n"]

/-- `renderManifest`. -/
def Builder.renderManifest (b : Builder) (node : String) (files : List FileResult) : Text :=
  [own "MacVz diagnostic bundle\n", own ("node:      " ++ emptyDash node ++ "\n"),
    own ("generated: " ++ b.generated ++ "\n"),
    own "\nThis bundle was redacted: PEM private keys, WireGuard private/preshared\n",
    own ("keys, JWT/bearer tokens, and sensitive config values are replaced with " ++
      placeholder ++ ".\n"),
    own "Review the contents before sharing; redaction is best-effort.\n\n",
    own "contents:\n"] ++
  (files.insertionSort fun f g => f.name ≤ g.name).flatMap FileResult.line

/-- `Result`. -/
structure Result where
  dir : String
  files : List FileResult
deriving Repr, DecidableEq

/-- `Build`: the files it writes, what it returns and its error. -/
def Builder.build (b : Builder) (disk : Disk) (parentDir node : String) :
    List File × Result × Option String :=
  let dir := GoFilepath.joinText [parentDir, b.dirName node]
  match disk.bundle with
  | some err => ([], ⟨"", []⟩, some ("create bundle dir: " ++ err))
  | none =>
    let collected := b.sources.zipIdx.map fun p => b.collect disk dir p.2 p.1
    let files := collected.flatMap Prod.fst
    let results := collected.map Prod.snd
    match disk.manifest with
    | some err => (files, ⟨dir, results⟩, some ("write manifest: " ++ err))
    | none =>
      (files ++ [⟨GoFilepath.joinText [dir, "manifest.txt"], b.renderManifest node results⟩],
        ⟨dir, results⟩, none)

/-- What the source behind an origin gave. -/
def Origin.given (sources : List Source) : Origin → Option String
  | .output i => sources[i]?.map Source.output
  | .err i => sources[i]?.bind Source.err

/-- The piece is the redacted output or error of its source. -/
def Builder.Redacts (b : Builder) (piece : Piece) : Prop :=
  ∀ origin, piece.origin = some origin →
    ∃ given, origin.given b.sources = some given ∧ piece.text = b.redactor.redact given

theorem redacts_own (b : Builder) (text : String) : b.Redacts (own text) :=
  fun _ horigin => by cases horigin

theorem redacts_given_iff {b : Builder} {origin : Origin} {text : String}
    (hgiven : origin.given b.sources = some text) :
    b.Redacts ⟨some origin, text⟩ ↔ b.redactor.redact text = text := by
  constructor
  · intro h
    obtain ⟨given, hgiven', htext⟩ := h origin rfl
    obtain rfl := Option.some.inj (hgiven.symm.trans hgiven')
    exact htext.symm
  · rintro htext _ ⟨⟩
    exact ⟨text, hgiven, htext.symm⟩

section

variable {b : Builder} {disk : Disk} {dir : String} {i : Nat} {s : Source}

/-- Each file a source leaves in the bundle is redacted. -/
theorem collect_redacts (hs : b.sources[i]? = some s) {file : File}
    (hfile : file ∈ (b.collect disk dir i s).1) : ∀ piece ∈ file.content, b.Redacts piece := by
  unfold Builder.collect at hfile
  split at hfile
  · cases hfile
  · split at hfile
    · cases hfile
    · have houtput : b.Redacts ⟨some (.output i), b.redactor.redact s.output⟩ := by
        rintro _ ⟨⟩
        exact ⟨s.output, by rw [Origin.given, hs]; rfl, rfl⟩
      split at hfile
      · obtain rfl := List.mem_singleton.mp hfile
        exact List.forall_mem_singleton.mpr houtput
      · rename_i err herr
        have hsidecar : b.Redacts ⟨some (.err i), b.redactor.redact err⟩ := by
          rintro _ ⟨⟩
          exact ⟨err, by rw [Origin.given, hs]; exact herr, rfl⟩
        rcases List.mem_cons.mp hfile with rfl | hfile
        · exact List.forall_mem_singleton.mpr houtput
        · split at hfile
          · obtain rfl := List.mem_singleton.mp hfile
            exact List.forall_mem_cons.mpr
              ⟨hsidecar, List.forall_mem_singleton.mpr (redacts_own b "\n")⟩
          · cases hfile

theorem line_redacts_iff {f : FileResult} : (∀ piece ∈ f.line, b.Redacts piece) ↔
      (f.err.string ≠ "" → ∀ piece ∈ f.err, b.Redacts piece) := by
  unfold FileResult.line
  split
  · rename_i herr
    simp [redacts_own, herr, or_imp, forall_and]
  · rename_i herr
    simp [redacts_own, herr]

theorem redact_empty (r : Redactor) : r.redact "" = "" := rfl

/-- The error of a source is what the redactor makes of it, unless its directory or its file
could not be written. -/
def Builder.PlainError (b : Builder) (disk : Disk) (i : Nat) (s : Source) : Prop :=
  disk.directory i = none → disk.file i = none → ∀ err, s.err = some err →
    b.redactor.redact err = err

/-- The report's line on a source is redacted exactly where its error is plain. -/
theorem collect_line_redacts_iff (hs : b.sources[i]? = some s) :
    (∀ piece ∈ (b.collect disk dir i s).2.line, b.Redacts piece) ↔ b.PlainError disk i s := by
  rw [line_redacts_iff]
  unfold Builder.collect Builder.PlainError
  split
  · rename_i hdirectory
    simp [hdirectory, redacts_own]
  · rename_i hdirectory
    split
    · rename_i hfile
      simp [hfile, redacts_own]
    · rename_i hfile
      split
      · rename_i herr
        simp [herr]
      · rename_i err herr
        have hredacts : b.Redacts ⟨some (.err i), err⟩ ↔ b.redactor.redact err = err :=
          redacts_given_iff (by rw [Origin.given, hs]; exact herr)
        by_cases hempty : err = ""
        · subst hempty
          simp [Text.string, herr, redact_empty]
        · simp [Text.string, hdirectory, hfile, herr, hredacts, hempty]

/-- The manifest is redacted exactly where each of its lines is. -/
theorem renderManifest_redacts_iff {node : String} {files : List FileResult} :
    (∀ piece ∈ b.renderManifest node files, b.Redacts piece) ↔
      ∀ f ∈ files, ∀ piece ∈ f.line, b.Redacts piece := by
  unfold Builder.renderManifest
  rw [List.forall_mem_append]
  constructor
  · intro h f hf piece hpiece
    exact h.2 piece (List.mem_flatMap.mpr ⟨f, (List.mem_insertionSort _).mpr hf, hpiece⟩)
  · intro h
    refine ⟨by simp [redacts_own], fun piece hpiece => ?_⟩
    obtain ⟨f, hf, hpiece⟩ := List.mem_flatMap.mp hpiece
    exact h f ((List.mem_insertionSort _).mp hf) piece hpiece

theorem forall_collected {P : List File × FileResult → Prop} :
    (∀ out ∈ b.sources.zipIdx.map (fun p => b.collect disk dir p.2 p.1), P out) ↔
      ∀ i s, b.sources[i]? = some s → P (b.collect disk dir i s) := by
  rw [List.forall_mem_map]
  constructor
  · intro h i s hs
    exact h (s, i) (List.mem_zipIdx_iff_getElem?.mpr hs)
  · intro h p hp
    exact h p.2 p.1 (List.mem_zipIdx_iff_getElem?.mp hp)

end

/-- The manifest is redacted just when the errors of the sources are as the redactor has
them. -/
theorem manifest_redacts_iff {b : Builder} {disk : Disk} {dir node : String} :
    (∀ piece ∈ b.renderManifest node
        ((b.sources.zipIdx.map fun p => b.collect disk dir p.2 p.1).map Prod.snd),
      b.Redacts piece) ↔
      ∀ i s, b.sources[i]? = some s → b.PlainError disk i s := by
  rw [renderManifest_redacts_iff, List.forall_mem_map, forall_collected]
  constructor
  · intro h i s hs
    exact (collect_line_redacts_iff hs).mp (h i s hs)
  · intro h i s hs
    exact (collect_line_redacts_iff hs).mpr (h i s hs)

/-- Everything in a bundle that was taken from a source is redacted just when the directory or
the manifest could not be written, or the redactor leaves the errors that the manifest lists as
they are. -/
theorem bundle_redacted_iff (b : Builder) (disk : Disk) (parentDir node : String) :
    (∀ file ∈ (b.build disk parentDir node).1, ∀ piece ∈ file.content, b.Redacts piece) ↔
      disk.bundle ≠ none ∨ disk.manifest ≠ none ∨
        ∀ i s, b.sources[i]? = some s → b.PlainError disk i s := by
  unfold Builder.build
  cases disk.bundle with
  | some err => simp
  | none =>
    have hfiles : ∀ file ∈ (b.sources.zipIdx.map fun p => b.collect disk
        (GoFilepath.joinText [parentDir, b.dirName node]) p.2 p.1).flatMap Prod.fst,
        ∀ piece ∈ file.content, b.Redacts piece := by
      rw [List.forall_mem_flatMap, forall_collected]
      intro i s hs file hfile
      exact collect_redacts hs hfile
    cases disk.manifest with
    | some err => simpa using hfiles
    | none =>
      simp only [List.forall_mem_append, List.forall_mem_singleton, manifest_redacts_iff]
      constructor
      · rintro ⟨_, herrors⟩
        exact Or.inr (Or.inr herrors)
      · rintro (hbundle | hmanifest | herrors)
        · exact absurd rfl hbundle
        · exact absurd rfl hmanifest
        · exact ⟨hfiles, herrors⟩

def openDisk : Disk := ⟨none, fun _ => none, fun _ => none, fun _ => none, none⟩

/-- A bundle of one source, which failed with a credential in its error. -/
def rejectedToken : Builder where
  redactor := defaultRedactor
  sources := [⟨"kubernetes/node.yaml", "", some "Unauthorized: token=s3cr3t"⟩]
  stamp := "20260619T101500Z"
  generated := "2026-06-19T10:15:00Z"

/-- The manifest has the error with the token, which the redactor takes out. -/
theorem manifest_shows_token :
    ((rejectedToken.build openDisk "/tmp" "mac-1").1.getLast?.map fun file =>
      (file.path, file.content.filter fun piece => piece.origin.isSome)) =
      some ("/tmp/macvz-bundle-mac-1-20260619T101500Z/manifest.txt",
        [⟨some (.err 0), "Unauthorized: token=s3cr3t"⟩]) ∧
      rejectedToken.redactor.redact "Unauthorized: token=s3cr3t" =
        "Unauthorized: token=[REDACTED]" := by
  constructor
  · decide +kernel
  · decide +kernel

end MacVz.DiagBundle
