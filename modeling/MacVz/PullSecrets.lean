/-
The credential an image is pulled with.  A pull Secret holds a map from registries to entries,
and the first entry of an iteration over it that is for the image's registry decides.  Keys that
are spelled differently may mean one registry, so what is selected is a function of the Secret
exactly when the entries for the registry agree.
-/
import MacVz.Base64
import MacVz.PodnetRouter
import MacVz.RegistryPulls
import MacVz.VolumeResolution

namespace MacVz.PullSecrets

open Podnet (Table Enumerates mem_enumeration)

open RegistryPulls (registryHost)

/-- `dockerAuthEntry`. -/
structure DockerAuthEntry where
  username : String
  password : String
  auth : String
deriving Repr, DecidableEq

/-- `runtime.RegistryAuth`; a name and a password that were decoded need not be text. -/
structure RegistryAuth where
  server : String
  username : Bytes
  password : Bytes
deriving Repr, DecidableEq

inductive EntryError where
  | undecodable
  | noColon
  | empty
deriving Repr, DecidableEq

/-- What is wrong with an entry of a pull Secret, which is named by its key. -/
inductive SecretError where
  | registry (key : String) (cause : EntryError)
deriving Repr, DecidableEq

/-- `credentials`. -/
def DockerAuthEntry.credentials (e : DockerAuthEntry) : Except EntryError (Bytes × Bytes) :=
  if e.username ≠ "" ∨ e.password ≠ "" then
    .ok (e.username.toUTF8.toList, e.password.toUTF8.toList)
  else if e.auth ≠ "" then
    match Base64.decode (GoStrings.trimSpace e.auth.toList) with
    | none => .error .undecodable
    | some decoded =>
      match decoded.idxOf? 58 with
      | none => .error .noColon
      | some i => .ok (decoded.take i, decoded.drop (i + 1))
  else .error .empty

/-- What stands behind the first `://`. -/
def afterScheme : List Char → Option (List Char)
  | [] => none
  | c :: rest =>
    match GoStrings.cutBeginning "://".toList (c :: rest) with
    | some after => some after
    | none => afterScheme rest

/-- `normalizeRegistryKey`. -/
def normalizeRegistryKey (key : String) : String :=
  String.ofList (((afterScheme key.toList).getD key.toList).takeWhile (· ≠ '/'))

/-- `isDockerHub`. -/
def isDockerHub (host : String) : Bool :=
  host ∈ ["docker.io", "index.docker.io", "registry-1.docker.io"]

/-- `registryMatches`. -/
def registryMatches (host key : String) : Bool :=
  host == key || isDockerHub host && isDockerHub key

/-- The key of an entry names the registry. -/
def IsFor (host key : String) : Prop := registryMatches host (normalizeRegistryKey key) = true

instance (host key : String) : Decidable (IsFor host key) :=
  inferInstanceAs (Decidable (_ = true))

def selected (host key : String) (e : DockerAuthEntry) :
    Except SecretError (Option RegistryAuth) :=
  match e.credentials with
  | .error cause => .error (.registry key cause)
  | .ok (username, password) => .ok (some ⟨host, username, password⟩)

/-- `credentialsFor`, for the entries in the order of an iteration. -/
def credentialsFor (host : String) :
    List (String × DockerAuthEntry) → Except SecretError (Option RegistryAuth)
  | [] => .ok none
  | (key, e) :: entries =>
    if IsFor host key then selected host key e else credentialsFor host entries

section

variable {host : String} {auths : Table DockerAuthEntry}
  {entries entries' : List (String × DockerAuthEntry)}

/-- The credentials are those of a matching entry, or none where none matches. -/
theorem credentialsFor_cases (host : String) (entries : List (String × DockerAuthEntry)) :
    (∀ entry ∈ entries, ¬ IsFor host entry.1) ∧ credentialsFor host entries = .ok none ∨
      ∃ entry ∈ entries, IsFor host entry.1 ∧
        credentialsFor host entries = selected host entry.1 entry.2 := by
  induction entries with
  | nil => exact Or.inl ⟨by simp, rfl⟩
  | cons entry entries ih =>
    by_cases hfor : IsFor host entry.1
    · exact Or.inr ⟨entry, List.mem_cons_self, hfor, if_pos hfor⟩
    · have hrest : credentialsFor host (entry :: entries) = credentialsFor host entries :=
        if_neg hfor
      rw [hrest]
      rcases ih with ⟨hnone, hresult⟩ | ⟨other, hmem, hother, hresult⟩
      · refine Or.inl ⟨fun other hmem => ?_, hresult⟩
        rcases List.mem_cons.mp hmem with rfl | hmem
        · exact hfor
        · exact hnone other hmem
      · exact Or.inr ⟨other, List.mem_cons_of_mem entry hmem, hother, hresult⟩

theorem exists_enumeration {V : Type} {table : Table V} {key : String} {value : V}
    (h : table.lookup key = some value) : ∃ rest, Enumerates table ((key, value) :: rest) := by
  have hmem : (key, value) ∈ table.entries.map fun e => (e.1, e.2) :=
    Multiset.mem_map.mpr ⟨⟨key, value⟩, Finmap.lookup_eq_some_iff.mp h, rfl⟩
  obtain ⟨others, hothers⟩ := Multiset.exists_cons_of_mem hmem
  refine ⟨others.toList, ?_⟩
  rw [Enumerates, hothers, ← Multiset.cons_coe, Multiset.coe_toList]

/-- The entries for the registry hold one credential, each of them. -/
def Agree (host : String) (auths : Table DockerAuthEntry) : Prop :=
  ∀ key e key' e', auths.lookup key = some e → auths.lookup key' = some e' → key ≠ key' →
    IsFor host key → IsFor host key' →
      ∃ credential, e.credentials = .ok credential ∧ e'.credentials = .ok credential

/-- Entries of different keys give the same only as the same credential, since an error names
the key. -/
theorem selected_eq_iff {key key' : String} {e e' : DockerAuthEntry} (hne : key ≠ key') :
    selected host key e = selected host key' e' ↔
      ∃ credential, e.credentials = .ok credential ∧ e'.credentials = .ok credential := by
  unfold selected
  cases e.credentials with
  | error cause =>
    cases e'.credentials with
    | error cause' => simp [hne]
    | ok credential' => simp
  | ok credential =>
    cases e'.credentials with
    | error cause' => simp
    | ok credential' => simp [Prod.ext_iff, eq_comm]

/-- Where the matching entries agree, the order of the map does not matter. -/
theorem Agree.credentialsFor_eq (h : Agree host auths) (hentries : Enumerates auths entries)
    (hentries' : Enumerates auths entries') :
    credentialsFor host entries = credentialsFor host entries' := by
  have hsame {entry : String × DockerAuthEntry} : entry ∈ entries ↔ entry ∈ entries' := by
    rw [mem_enumeration hentries, mem_enumeration hentries']
  rcases credentialsFor_cases host entries with ⟨hnone, hresult⟩ | ⟨entry, hmem, hfor, hresult⟩
  · rcases credentialsFor_cases host entries' with ⟨-, hresult'⟩ | ⟨entry', hmem', hfor', -⟩
    · rw [hresult, hresult']
    · exact absurd hfor' (hnone entry' (hsame.mpr hmem'))
  · rcases credentialsFor_cases host entries' with ⟨hnone', -⟩ | ⟨entry', hmem', hfor', hresult'⟩
    · exact absurd hfor (hnone' entry (hsame.mp hmem))
    · have hlookup := (mem_enumeration hentries).mp hmem
      have hlookup' := (mem_enumeration hentries').mp hmem'
      rw [hresult, hresult']
      by_cases hkey : entry.1 = entry'.1
      · rw [hkey] at hlookup ⊢
        rw [Option.some.inj (hlookup.symm.trans hlookup')]
      · exact (selected_eq_iff hkey).mpr (h _ _ _ _ hlookup hlookup' hkey hfor hfor')

/-- What is selected does not depend on the iteration exactly when the entries for the
registry of the image hold one credential. -/
theorem pull_credential_order_iff (auths : Table DockerAuthEntry) (image : String) :
    (∀ entries entries', Enumerates auths entries → Enumerates auths entries' →
      credentialsFor (registryHost image) entries = credentialsFor (registryHost image) entries') ↔
        Agree (registryHost image) auths := by
  constructor
  · intro hsame key e key' e' hlookup hlookup' hne hfor hfor'
    obtain ⟨rest, hfirst⟩ := exists_enumeration hlookup
    obtain ⟨rest', hfirst'⟩ := exists_enumeration hlookup'
    have hresult := hsame _ _ hfirst hfirst'
    rw [credentialsFor, if_pos hfor, credentialsFor, if_pos hfor'] at hresult
    exact (selected_eq_iff hne).mp hresult
  · intro hagree entries entries' hentries hentries'
    exact hagree.credentialsFor_eq hentries hentries'

end

def hubKeys : Table DockerAuthEntry :=
  ((∅ : Table DockerAuthEntry).insert "https://index.docker.io/v1/" ⟨"ci", "s3cret", ""⟩).insert
    "docker.io" ⟨"bot", "hunter2", ""⟩

/-- The image is pulled by one account or the other. -/
theorem hub_spellings_race : let bot := ("docker.io", (⟨"bot", "hunter2", ""⟩ : DockerAuthEntry))
    let ci := ("https://index.docker.io/v1/", (⟨"ci", "s3cret", ""⟩ : DockerAuthEntry))
    Enumerates hubKeys [bot, ci] ∧ Enumerates hubKeys [ci, bot] ∧
      credentialsFor (registryHost "nginx:1.27") [bot, ci] =
        .ok (some ⟨"docker.io", "bot".toUTF8.toList, "hunter2".toUTF8.toList⟩) ∧
      credentialsFor (registryHost "nginx:1.27") [ci, bot] =
        .ok (some ⟨"docker.io", "ci".toUTF8.toList, "s3cret".toUTF8.toList⟩) := by
  simp only [Enumerates]
  decide +kernel

end MacVz.PullSecrets
