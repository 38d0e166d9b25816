/-
The WireGuard configuration the mesh renders, read by the linter of the helper.
Every line it renders from peers of the policy is the head of a section, a
comment or a setting the policy permits.
-/
import MacVz.PolicyGrammar
import MacVz.WireguardConfig

namespace MacVz

namespace Wireguard

open GoStrings Privhelper

variable {p : Policy} {peer : Peer}

/-- A line the helper's check passes over or permits. -/
def ConfigLine (p : Policy) (raw : List Char) : Prop :=
  trimSpace raw = [] ∨ (trimSpace raw).head? = some '#' ∨ (trimSpace raw).head? = some '[' ∨
    ∃ key val, cut '=' (trimSpace raw) = some (key, val) ∧
      p.Setting (trimSpace key) (trimSpace val)

/-- The lines but the first of a peer's name and of its endpoint: they are lines of their own in
the text that is rendered. -/
def Peer.breaks (peer : Peer) : List (List Char) :=
  (lines peer.name).tail ++ (lines peer.endpoint).tail

/-- A peer the policy knows, with a text of lines that pass the linter. -/
structure PeerFits (p : Policy) (peer : Peer) : Prop where
  breaks : ∀ line ∈ peer.breaks, ConfigLine p line
  publicKey : holds p.peerPublicKeys peer.publicKey.string = true
  allowedIPs_ne : peer.allowedIPs ≠ []
  allowedIPs : ∀ cidr ∈ peer.allowedIPs, Configured cidr p.routeCIDRs

theorem PeerFits.name (h : PeerFits p peer) : ∀ line ∈ (lines peer.name).tail, ConfigLine p line :=
  fun line hline => h.breaks line (List.mem_append_left _ hline)

theorem PeerFits.endpoint (h : PeerFits p peer) :
    ∀ line ∈ (lines peer.endpoint).tail, ConfigLine p line :=
  fun line hline => h.breaks line (List.mem_append_right _ hline)

theorem lines_setting (key : String) {value : String} (hkey : IsWord key) (hsign : '=' ∉ key.toList)
    (hbreak : '\n' ∉ value.toList) (hsetting : p.Setting key.toList (trimSpace value.toList)) :
    Lines (ConfigLine p) (key ++ " = " ++ value ++ "\n") := by
  refine Lines.line ?_ ?_
  · have hword := newline_not_mem hkey
    simp [hword, hbreak]
  · obtain ⟨front, back, hcut, hfront, hback⟩ := cut_setting hkey hsign value.toList
    refine Or.inr (Or.inr (Or.inr ⟨front, back, ?_, ?_⟩))
    · rw [← hcut]
      simp
    · rwa [hfront, hback]

theorem lines_unchecked (key : String) {value : String} (hkey : IsWord key)
    (hsign : '=' ∉ key.toList)
    (hpublic : key ≠ "PublicKey") (hallowed : key ≠ "AllowedIPs")
    (hbreak : '\n' ∉ value.toList) : Lines (ConfigLine p) (key ++ " = " ++ value ++ "\n") := by
  refine lines_setting key hkey hsign hbreak ⟨?_, ?_⟩
  · exact fun h => absurd (String.toList_inj.mp h) hpublic
  · exact fun h => absurd (String.toList_inj.mp h) hallowed

theorem lines_mark (mark : Char) (rest : String) (hmark : mark = '#' ∨ mark = '[')
    (hbreak : '\n' ∉ rest.toList) :
    Lines (ConfigLine p) (String.ofList [mark] ++ rest ++ "\n") := by
  refine Lines.line ?_ ?_
  · rcases hmark with rfl | rfl <;> simpa using hbreak
  · have htext : (String.ofList [mark] ++ rest).toList = mark :: rest.toList := by simp
    rw [htext]
    rcases hmark with rfl | rfl
    · exact Or.inr (Or.inl (head?_trimSpace (by decide) _))
    · exact Or.inr (Or.inr (Or.inl (head?_trimSpace (by decide) _)))

theorem lines_publicKey (h : PeerFits p peer) :
    Lines (ConfigLine p) ("PublicKey = " ++ peer.publicKey.string ++ "\n") := by
  have hword := peer.publicKey.isWord_string
  refine lines_setting "PublicKey" (by decide) (by decide) (newline_not_mem hword) ⟨?_, ?_⟩
  · intro _
    rw [hword.trimSpace_eq, String.ofList_toList]
    exact h.publicKey
  · exact fun hkey => absurd hkey (by decide)

theorem lines_allowedIPs (h : PeerFits p peer) :
    Lines (ConfigLine p) ("AllowedIPs = " ++ ", ".intercalate peer.allowedIPs ++ "\n") := by
  have hitems : ∀ cidr ∈ peer.allowedIPs, IsWord cidr ∧ ',' ∉ cidr.toList := by
    intro cidr hcidr
    obtain ⟨written, net, hparse, -⟩ := h.allowedIPs cidr hcidr
    refine ⟨isWord_of_parseCIDR hparse, ?_⟩
    intro hcomma
    exact absurd (parseCIDR_chars hparse hcomma).1 (by decide)
  have hwords := isWord_withCommas fun cidr hcidr => (hitems cidr hcidr).1
  refine lines_setting "AllowedIPs" (by decide) (by decide) ?_ ⟨?_, ?_⟩
  · rw [← unwords_withCommas]
    intro hbreak
    rcases mem_unwords hbreak with hblank | ⟨w, hw, hmem⟩
    · cases hblank
    · exact newline_not_mem (hwords w hw) hmem
  · exact fun hkey => absurd hkey (by decide)
  · intro _ raw hraw
    rw [← unwords_withCommas, trimSpace_unwords hwords] at hraw
    obtain ⟨cidr, hcidr, htrim⟩ := trimSpace_of_mem_splitOn h.allowedIPs_ne hitems hraw
    rw [htrim, String.ofList_toList]
    exact h.allowedIPs cidr hcidr

/-- Each line written for a permitted peer is accepted. -/
theorem lines_configBlock (h : PeerFits p peer) :
    Lines (ConfigLine p) peer.configBlock := by
  have hhead : Lines (ConfigLine p) "[Peer]\n" :=
    lines_mark '[' "Peer]" (Or.inr rfl) (by decide)
  have hname : Lines (ConfigLine p) (if peer.name ≠ "" then "# " ++ peer.name ++ "\n" else "") := by
    split
    · refine Lines.block (fun first => Or.inr (Or.inl ?_)) (by decide) h.name
      exact head?_trimSpace (by decide) _
    · exact Lines.nil
  have hendpoint : Lines (ConfigLine p)
      (if peer.endpoint ≠ "" then "Endpoint = " ++ peer.endpoint ++ "\n" else "") := by
    split
    · refine Lines.block (fun first => ?_) (by decide) h.endpoint
      obtain ⟨front, back, hcut, hfront, -⟩ :=
        cut_setting (by decide : IsWord "Endpoint") (by decide) first
      refine Or.inr (Or.inr (Or.inr ⟨front, back, hcut, ?_⟩))
      rw [hfront]
      exact ⟨fun h => absurd h (by decide), fun h => absurd h (by decide)⟩
    · exact Lines.nil
  have hkeepalive : Lines (ConfigLine p) (if 0 < peer.persistentKeepalive then
      "PersistentKeepalive = " ++ toString peer.persistentKeepalive ++ "\n" else "") := by
    split
    · exact lines_unchecked "PersistentKeepalive" (by decide) (by decide) (by decide)
        (by decide) (newline_not_mem (isWord_toString_int _))
    · exact Lines.nil
  exact ((((hhead.append hname).append (lines_publicKey h)).append hendpoint).append
    (lines_allowedIPs h)).append hkeepalive

/-- The configuration written for permitted peers passes the helper's lint. -/
theorem syncConfig_linted {cfg : InterfaceConfig} (h : ∀ peer ∈ cfg.peers, PeerFits p peer) :
    p.WireGuardConfig cfg.syncConfig := by
  have hhead : Lines (ConfigLine p) "[Interface]\n" :=
    lines_mark '[' "Interface]" (Or.inr rfl) (by decide)
  have hkey : Lines (ConfigLine p) ("PrivateKey = " ++ cfg.privateKey.string ++ "\n") :=
    lines_unchecked "PrivateKey" (by decide) (by decide) (by decide) (by decide)
      (newline_not_mem cfg.privateKey.isWord_string)
  have hport : Lines (ConfigLine p) ("ListenPort = " ++ toString cfg.listenPort ++ "\n") :=
    lines_unchecked "ListenPort" (by decide) (by decide) (by decide) (by decide)
      (newline_not_mem (isWord_toString_int _))
  have hpeers : Lines (ConfigLine p)
      (String.join ((sortedPeers cfg.peers).map fun peer => "\n" ++ peer.configBlock)) := by
    refine Lines.join ?_
    intro text htext
    obtain ⟨peer, hpeer, rfl⟩ := List.mem_map.mp htext
    have hblank : Lines (ConfigLine p) ("" ++ "\n") := Lines.line (by simp) (Or.inl rfl)
    exact hblank.append (lines_configBlock (h peer (mem_sortedPeers.mp hpeer)))
  exact (((hhead.append hkey).append hport).append hpeers).all (Or.inl rfl)

/-- The other way round, a text that passes the linter has no other lines in its peers. -/
theorem breaks_of_linted {cfg : InterfaceConfig} (h : p.WireGuardConfig cfg.syncConfig)
    (hpeer : peer ∈ cfg.peers) : ∀ line ∈ peer.breaks, ConfigLine p line := by
  have hblock : peer.configBlock.toList <:+: cfg.syncConfig.toList := by
    refine infix_append_right ?_ _
    rw [String.toList_join]
    refine (infix_append_right (List.infix_refl _) "\n").trans (List.infix_of_mem_flatten ?_)
    rw [List.map_map]
    exact List.mem_map_of_mem (mem_sortedPeers.mpr hpeer)
  intro line hline
  rcases List.mem_append.mp hline with hname | hendpoint
  · have hne : peer.name ≠ "" := by
      intro hempty
      rw [hempty] at hname
      cases hname
    refine h line (mem_lines_of_tail hname (List.IsInfix.trans ?_ hblock))
    refine infix_append_left (infix_append_left (infix_append_left (infix_append_left
      (infix_append_right ?_ _) _) _) _) _
    rw [if_pos hne, String.append_assoc]
    exact infix_append_right (List.infix_refl _) _
  · have hne : peer.endpoint ≠ "" := by
      intro hempty
      rw [hempty] at hendpoint
      cases hendpoint
    refine h line (mem_lines_of_tail hendpoint (List.IsInfix.trans ?_ hblock))
    refine infix_append_left (infix_append_left (infix_append_right ?_ _) _) _
    rw [if_pos hne, String.append_assoc]
    exact infix_append_right (List.infix_refl _) _

end Wireguard

end MacVz
