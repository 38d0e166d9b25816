/-
The WireGuard configuration as the tool reads it, against the linter of the
helper.  The tool drops comments and all white space and does not mind the case
of a key, so a line may set a peer's key or addresses that the linter leaves
unchecked.  What the tool reads is known to the policy exactly when this is so on
the lines the linter reads differently.
-/
import MacVz.PolicyGrammar

namespace MacVz

namespace Wireguard

open GoStrings
open Privhelper (Policy holds Configured)

inductive Section where
  | outside
  | interface
  | peer
deriving Repr, DecidableEq

/-- What the tool reads on one line: the section the line is in, the line, the key in
lower case, and the value. -/
structure Reading where
  place : Section
  line : List Char
  key : List Char
  value : List Char
deriving Repr, DecidableEq

/-- What is left of a line without its comment and its white space. -/
def significant (line : List Char) : List Char :=
  (line.takeWhile (· ≠ '#')).filter fun c => !isSpace c

def lowerCase (s : List Char) : List Char := s.map Char.toLower

/-- The lines in order; the head of a section holds for the lines after it. -/
def readLines : Section → List (List Char) → List Reading
  | _, [] => []
  | place, line :: rest =>
    let text := significant line
    if lowerCase text = "[interface]".toList then readLines .interface rest
    else if lowerCase text = "[peer]".toList then readLines .peer rest
    else
      match cut '=' text with
      | some (key, value) => ⟨place, line, lowerCase key, value⟩ :: readLines place rest
      | none => readLines place rest

/-- The lines that set a key, in lower case here, for a peer. -/
def peerReadings (key text : String) : List Reading :=
  (readLines .outside (lines text)).filter fun r => r.place = .peer ∧ r.key = key.toList

/-- The public keys of the peers, as they are read. -/
def publicKeys (text : String) : List String :=
  (peerReadings "publickey" text).map fun r => String.ofList r.value

/-- The entries of an `AllowedIPs` line the tool reads; an empty value has none. -/
def Reading.entries (r : Reading) : List String :=
  if r.value = [] then [] else (r.value.splitOn ',').map String.ofList

def allowedIPs (text : String) : List String :=
  (peerReadings "allowedips" text).flatMap Reading.entries

/-- The key and the value the linter takes from a line. -/
def linted (line : List Char) : Option (List Char × List Char) :=
  (cut '=' (trimSpace line)).map fun parts => (trimSpace parts.1, trimSpace parts.2)

theorem linted_eq_some {line key value : List Char} (h : linted line = some (key, value)) :
    ∃ front back, cut '=' (trimSpace line) = some (front, back) ∧ trimSpace front = key ∧
      trimSpace back = value := by
  obtain ⟨⟨front, back⟩, hcut, hparts⟩ := Option.map_eq_some_iff.mp h
  obtain ⟨hfront, hback⟩ := Prod.mk.inj hparts
  exact ⟨front, back, hcut, hfront, hback⟩

/-- Each setting read is on a line of the text. -/
theorem mem_readLines {place : Section} {ls : List (List Char)} {r : Reading}
    (h : r ∈ readLines place ls) :
    r.line ∈ ls ∧ ∃ read, cut '=' (significant r.line) = some (read, r.value) := by
  induction ls generalizing place with
  | nil => cases h
  | cons line rest ih =>
    have hlater {place' : Section} (hr : r ∈ readLines place' rest) : r.line ∈ line :: rest ∧
        ∃ read, cut '=' (significant r.line) = some (read, r.value) :=
      ⟨List.mem_cons_of_mem _ (ih hr).1, (ih hr).2⟩
    simp only [readLines] at h
    split at h
    · exact hlater h
    · split at h
      · exact hlater h
      · split at h
        · rename_i read value hcut
          rcases List.mem_cons.mp h with rfl | hr
          · exact ⟨List.mem_cons_self, read, hcut⟩
          · exact hlater hr
        · exact hlater h

theorem mem_peerReadings {key text : String} {r : Reading} (h : r ∈ peerReadings key text) :
    r.line ∈ lines text ∧ ∃ read, cut '=' (significant r.line) = some (read, r.value) :=
  mem_readLines (List.mem_of_mem_filter h)

/-- A key that cannot be mistaken for a comment or the head of a section. -/
def PlainKey (key : String) : Prop := ∀ c ∈ key.toList, isSpace c = false ∧ c ≠ '#' ∧ c ≠ '['

instance (key : String) : Decidable (PlainKey key) :=
  decidable_of_iff (key.toList.all (fun c => !isSpace c && (c != '#' && c != '[')) = true)
    (by simp [PlainKey])

theorem PlainKey.not_mem {key : String} (h : PlainKey key) {front : List Char}
    (hkey : trimSpace front = key.toList) {mark : Char} (hmark : mark = '#' ∨ mark = '[') :
    mark ∉ front := by
  have hspace : isSpace mark = false := by rcases hmark with rfl | rfl <;> decide
  rw [← mem_trimSpace hspace, hkey]
  intro hmem
  rcases hmark with rfl | rfl
  · exact (h _ hmem).2.1 rfl
  · exact (h _ hmem).2.2 rfl

theorem cut_significant {line front back : List Char} {key : String}
    (hcut : cut '=' (trimSpace line) = some (front, back)) (hkey : trimSpace front = key.toList)
    (hplain : PlainKey key) (hback : '#' ∉ back) :
    cut '=' (significant line) = some (key.toList, back.filter fun c => !isSpace c) := by
  obtain ⟨hfront, hline⟩ := cut_eq_some.mp hcut
  have hcomment : '#' ∉ line := by
    rw [← mem_trimSpace (by decide), hline]
    simp [hplain.not_mem hkey (Or.inl rfl), hback]
  have hwhole : line.takeWhile (· ≠ '#') = line := by
    rw [List.takeWhile_eq_self_iff]
    intro c hc
    rw [decide_eq_true_iff]
    rintro rfl
    exact hcomment hc
  have hkept : front.filter (fun c => !isSpace c) = key.toList := by
    rw [← filter_trimSpace, hkey, List.filter_eq_self]
    exact fun c hc => by simp [(hplain c hc).1]
  rw [significant, hwhole, ← filter_trimSpace, hline, List.filter_append,
    hkept, cut_eq_some]
  refine ⟨?_, rfl⟩
  intro hmem
  rw [← hkept] at hmem
  exact hfront (List.mem_of_mem_filter hmem)

variable {p : Policy}

/-- A setting of an accepted text is one the policy accepts. -/
theorem setting_of_accepted {text : String} (h : p.WireGuardConfig text) {line : List Char}
    (hline : line ∈ lines text) {front back : List Char} {key : String}
    (hcut : cut '=' (trimSpace line) = some (front, back)) (hkey : trimSpace front = key.toList)
    (hplain : PlainKey key) : p.Setting key.toList (trimSpace back) := by
  obtain ⟨hfront, hwhole⟩ := cut_eq_some.mp hcut
  have hhead {mark : Char} (hmark : mark = '#' ∨ mark = '[') :
      (trimSpace line).head? ≠ some mark := by
    intro hfirst
    rw [hwhole, List.head?_append, Option.or_eq_some_iff] at hfirst
    rcases hfirst with hfirst | ⟨-, hfirst⟩
    · exact hplain.not_mem hkey hmark (List.mem_of_head? hfirst)
    · rcases hmark with rfl | rfl <;> cases hfirst
  rcases h line hline with hblank | hcomment | hsection | ⟨key', val, hcut', hsetting⟩
  · rw [hblank] at hwhole
    simp at hwhole
  · exact absurd hcomment (hhead (Or.inl rfl))
  · exact absurd hsection (hhead (Or.inr rfl))
  · rw [hcut] at hcut'
    obtain ⟨rfl, rfl⟩ := Prod.mk.inj (Option.some.inj hcut')
    rwa [hkey] at hsetting

theorem plain_of_configured {cidr : String} {cidrs : Podnet.Table Bool} (h : Configured cidr cidrs)
    {c : Char} (hc : c ∈ cidr.toList) : isSpace c = false ∧ c ≠ '#' := by
  obtain ⟨written, net, hparse, -⟩ := h
  obtain ⟨hlow, hhigh⟩ := parseCIDR_chars hparse hc
  refine ⟨isSpace_eq_false (by omega) (by omega), ?_⟩
  rintro rfl
  exact absurd hlow (by decide)

/-- The entries the linter checks are the entries the tool reads: nothing in
them is dropped. -/
theorem allowed_entries {back : List Char} (h : ∀ raw ∈ (trimSpace back).splitOn ',',
      Configured (String.ofList (trimSpace raw)) p.routeCIDRs) :
    '#' ∉ back ∧ ∀ entry ∈ (back.filter fun c => !isSpace c).splitOn ',',
      Configured (String.ofList entry) p.routeCIDRs := by
  have hplain {raw : List Char} (hraw : raw ∈ (trimSpace back).splitOn ',') {c : Char}
      (hc : c ∈ trimSpace raw) : isSpace c = false ∧ c ≠ '#' :=
    plain_of_configured (h raw hraw) (by rwa [String.toList_ofList])
  constructor
  · rw [← mem_trimSpace (by decide)]
    intro hmem
    obtain ⟨raw, hraw, hhash⟩ := exists_mem_splitOn (show '#' ≠ ',' by decide) hmem
    rw [← mem_trimSpace (by decide)] at hhash
    exact (hplain hraw hhash).2 rfl
  · intro entry hentry
    rw [← filter_trimSpace, splitOn_filter (by decide)] at hentry
    obtain ⟨raw, hraw, rfl⟩ := List.mem_map.mp hentry
    have hsame : raw.filter (fun c => !isSpace c) = trimSpace raw := by
      rw [← filter_trimSpace, List.filter_eq_self]
      exact fun c hc => by simp [(hplain hraw hc).1]
    rw [hsame]
    exact h raw hraw

/-- The addresses of a line whose key the linter recognises: all of them were checked. -/
theorem entries_of_linted {text : String} (h : p.WireGuardConfig text) {r : Reading}
    (hr : r ∈ peerReadings "allowedips" text)
    (hlinted : (linted r.line).map Prod.fst = some "AllowedIPs".toList) :
    ∀ cidr ∈ r.entries, Configured cidr p.routeCIDRs := by
  obtain ⟨⟨key, value⟩, hparts, rfl⟩ := Option.map_eq_some_iff.mp hlinted
  obtain ⟨front, back, hcut, hfront, -⟩ := linted_eq_some hparts
  obtain ⟨hline, read, hread⟩ := mem_peerReadings hr
  have hplain : PlainKey "AllowedIPs" := by decide
  obtain ⟨hback, hconfigured⟩ :=
    allowed_entries ((setting_of_accepted h hline hcut hfront hplain).2 rfl)
  have hagree := cut_significant hcut hfront hplain hback
  rw [hread] at hagree
  intro cidr hcidr
  rw [Reading.entries, (Prod.mk.inj (Option.some.inj hagree)).2] at hcidr
  split at hcidr
  · cases hcidr
  · obtain ⟨entry, hentry, rfl⟩ := List.mem_map.mp hcidr
    exact hconfigured entry hentry

/-- The tool reads only known peers and configured networks from an accepted text exactly when it
does so on the lines that the linter reads otherwise: a peer's key whose name or value the linter
takes for something else, and addresses whose name it does not recognise. -/
theorem accepted_config_reads_configured_iff {text : String}
    (h : p.lintWireGuardConfig text = .ok ()) :
    ((∀ key ∈ publicKeys text, holds p.peerPublicKeys key = true) ∧
      ∀ cidr ∈ allowedIPs text, Configured cidr p.routeCIDRs) ↔
    (∀ r ∈ peerReadings "publickey" text, linted r.line ≠ some ("PublicKey".toList, r.value) →
      holds p.peerPublicKeys (String.ofList r.value) = true) ∧
    ∀ r ∈ peerReadings "allowedips" text,
      (linted r.line).map Prod.fst ≠ some "AllowedIPs".toList →
        ∀ cidr ∈ r.entries, Configured cidr p.routeCIDRs := by
  rw [Policy.lintWireGuardConfig_eq_ok] at h
  constructor
  · rintro ⟨hkeys, hcidrs⟩
    refine ⟨fun r hr _ => hkeys _ (List.mem_map_of_mem hr), fun r hr _ cidr hcidr => ?_⟩
    exact hcidrs cidr (List.mem_flatMap.mpr ⟨r, hr, hcidr⟩)
  · rintro ⟨hkeys, hcidrs⟩
    constructor
    · intro key hkey
      obtain ⟨r, hr, rfl⟩ := List.mem_map.mp hkey
      by_cases hlinted : linted r.line = some ("PublicKey".toList, r.value)
      · obtain ⟨front, back, hcut, hfront, hback⟩ := linted_eq_some hlinted
        have hsetting := setting_of_accepted h (mem_peerReadings hr).1 hcut hfront (by decide)
        rw [hback] at hsetting
        exact hsetting.1 rfl
      · exact hkeys r hr hlinted
    · intro cidr hcidr
      obtain ⟨r, hr, hentry⟩ := List.mem_flatMap.mp hcidr
      by_cases hlinted : (linted r.line).map Prod.fst = some "AllowedIPs".toList
      · exact entries_of_linted h hr hlinted cidr hentry
      · exact hcidrs r hr hlinted cidr hentry

/-- A known peer, its key written in lower case, and a key in the section of the interface. -/
def onePeer : String :=
  "[Interface]\nListenPort = 51820\npublickey = none\n\n[Peer]\n# node-2\n" ++
    "publickey = xTIBA5rboUvnH4htodjb6e697QjLERt1NAB4mZqp8Dg=\n" ++
    "AllowedIPs = 10.244.2.0/24, 10.99.0.0/24\n"

theorem one_peer_reads_configured :
    publicKeys onePeer = ["xTIBA5rboUvnH4htodjb6e697QjLERt1NAB4mZqp8Dg="] ∧
      allowedIPs onePeer = ["10.244.2.0/24", "10.99.0.0/24"] ∧
      (∀ key ∈ publicKeys onePeer, holds Policy.node.peerPublicKeys key = true) ∧
      ∀ cidr ∈ allowedIPs onePeer, Configured cidr Policy.node.routeCIDRs := by
  -- one evaluation for all, so that the text is taken apart only once
  have hread : publicKeys onePeer = ["xTIBA5rboUvnH4htodjb6e697QjLERt1NAB4mZqp8Dg="] ∧
      allowedIPs onePeer = ["10.244.2.0/24", "10.99.0.0/24"] ∧
      Policy.node.lintWireGuardConfig onePeer = .ok () ∧
      (∀ r ∈ peerReadings "publickey" onePeer,
        holds Policy.node.peerPublicKeys (String.ofList r.value) = true) ∧
      ∀ r ∈ peerReadings "allowedips" onePeer,
        (linted r.line).map Prod.fst = some "AllowedIPs".toList := by
    decide +kernel
  obtain ⟨hkeys, hallowed, hlint, hknown, hspelled⟩ := hread
  refine ⟨hkeys, hallowed, (accepted_config_reads_configured_iff hlint).mpr
    ⟨fun r hr _ => hknown r hr, fun r hr hother => absurd (hspelled r hr) hother⟩⟩

/-- A key in lower case passes the linter unchecked, and the tool adds a peer
the policy does not know. -/
theorem lower_case_key_adds_unknown_peer : ∃ text, Policy.node.lintWireGuardConfig text = .ok () ∧
      "AAAAAAAAAAAAAAAAAAAAAAAAAAAAAAAAAAAAAAAAAAA=" ∈ publicKeys text ∧
      holds Policy.node.peerPublicKeys "AAAAAAAAAAAAAAAAAAAAAAAAAAAAAAAAAAAAAAAAAAA=" = false :=
  ⟨"[Peer]\npublickey = AAAAAAAAAAAAAAAAAAAAAAAAAAAAAAAAAAAAAAAAAAA=\n",
    by decide, by decide, by decide⟩

end Wireguard

end MacVz
