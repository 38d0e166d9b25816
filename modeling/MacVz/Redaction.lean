/-
The redactor of diagnostic bundles: five passes, each of which replaces what a pattern reads by
a placeholder.  No pass brings back what an earlier one has removed, so the redacted text has
none of the secrets the patterns describe, and redacting it again changes nothing.
-/
import MacVz.TextRewrite
import Mathlib.Data.List.TakeWhile

namespace MacVz.Redaction

open TextPattern

variable {c : Char} {before : Option Char} {text rest : List Char}

/-- `Placeholder`. -/
def placeholder : String := "[REDACTED]"

def defaultSensitiveKeys : List String :=
  ["password", "passwd", "passphrase", "token", "secret", "secretkey", "secret_key",
    "secret-key", "accesskey", "access_key", "access-key", "apikey", "api_key", "api-key",
    "privatekey", "private_key", "private-key", "client-key-data", "presharedkey",
    "preshared_key", "authorization", "bearer", "sessionkey", "session_key", "credentials"]

/-- `\s`. -/
def isSpace (c : Char) : Bool :=
  c == '\t' || c == '\n' || c == '\x0c' || c == '\r' || c == ' '

/-- `.` without the flag `s`. -/
def isDot (c : Char) : Bool := c != '\n'

/-- `[:=]`. -/
def isSeparator (c : Char) : Bool := c == ':' || c == '='

/-- `["']`. -/
def isQuote (c : Char) : Bool := c == '"' || c == '\''

/-- `[A-Z0-9 ]`. -/
def isLabel (c : Char) : Bool := c.isUpper || c.isDigit || c == ' '

/-- `[A-Za-z0-9_-]`. -/
def isSegment (c : Char) : Bool := c.isAlphanum || c == '_' || c == '-'

/-- `[A-Za-z0-9._\-+/=]` with the flag `i`, which adds the long s and the Kelvin sign. -/
def isToken (c : Char) : Bool :=
  c.isAlphanum || c == '.' || c == '_' || c == '-' || c == '+' || c == '/' || c == '=' ||
    c == '\u017f' || c == '\u212a'

/-- The ASCII letter, in lower case, that the flag `i` identifies a character with. -/
def fold (c : Char) : Char :=
  if c = '\u017f' then 's' else if c = '\u212a' then 'k' else c.toLower

/-- A line of dashes around `BEGIN` or `END` and the kind of private key. -/
def pemLine (word : String) : Pattern :=
  .seq (.word id ("-----" ++ word ++ " ").toList)
    (.seq (.many isLabel) (.word id "PRIVATE KEY-----".toList))

/-- `(?s)-----BEGIN [A-Z0-9 ]*PRIVATE KEY-----.*?-----END [A-Z0-9 ]*PRIVATE KEY-----`. -/
def pemBlock : Rule where
  keep := .empty
  drop := .seq (pemLine "BEGIN") (.seq (.fewest fun _ => true) (pemLine "END"))
  drops := by decide

def wgAssignment : Pattern :=
  .seq (.many isSpace)
    (.seq (.alt (.word fold "PrivateKey".toList) (.word fold "PresharedKey".toList))
      (.seq (.many isSpace) (.one (· == '='))))

/-- `(?im)^(\s*(?:PrivateKey|PresharedKey)\s*=\s*).+$`. -/
def wgKey : Rule where
  keep := .seq (.assert .lineStart) (.seq wgAssignment (.many isSpace))
  drop := .seq (.some isDot) (.assert .lineEnd)
  drops := by decide

def keyName (sensitiveKeys : List String) : Pattern :=
  .seq (.oneOf (sensitiveKeys.map fun key => .word fold key.toList))
    (.seq (.optional isQuote) (.many isSpace))

/-- A sensitive key with its separator. -/
def keyLabel (sensitiveKeys : List String) : Pattern :=
  .seq (keyName sensitiveKeys) (.seq (.one isSeparator) (.many isSpace))

/-- `(?im)(\b(?:keys)["']?\s*[:=]\s*)\S.*$`. -/
def keyValue (sensitiveKeys : List String) : Rule where
  keep := .seq (.assert .wordBoundary) (keyLabel sensitiveKeys)
  drop := .seq (.one fun c => !isSpace c) (.seq (.many isDot) (.assert .lineEnd))
  drops := by decide

/-- `(?i)(bearer\s+)[A-Za-z0-9._\-+/=]+`. -/
def bearer : Rule where
  keep := .seq (.word fold "bearer".toList) (.some isSpace)
  drop := .some isToken
  drops := by decide

/-- `eyJ[A-Za-z0-9_-]{5,}\.[A-Za-z0-9_-]{5,}\.[A-Za-z0-9_-]{5,}`. -/
def jwt : Rule where
  keep := .empty
  drop := .seq (.word id "eyJ".toList) (.seq (.atLeast 5 isSegment) (.seq (.one (· == '.'))
    (.seq (.atLeast 5 isSegment) (.seq (.one (· == '.')) (.atLeast 5 isSegment)))))
  drops := by decide

/-- `Redactor`. -/
structure Redactor where
  keyValue : Rule
  pemBlock : Rule
  jwt : Rule
  bearer : Rule
  wgKey : Rule

/-- `NewRedactor`, for keys of ASCII characters. -/
def newRedactor (sensitiveKeys : List String) : Redactor where
  keyValue := keyValue (sensitiveKeys.filter (· ≠ ""))
  pemBlock := pemBlock
  jwt := jwt
  bearer := bearer
  wgKey := wgKey

def defaultRedactor : Redactor := newRedactor defaultSensitiveKeys

def mask : List Char := placeholder.toList

/-- `Redact` on the characters of a text. -/
def Redactor.passes (r : Redactor) (s : List Char) : List Char :=
  r.jwt.replaceAll mask (r.bearer.replaceAll mask (r.keyValue.replaceAll mask
    (r.wgKey.replaceAll mask (r.pemBlock.replaceAll mask s))))

/-- `Redact`. -/
def Redactor.redact (r : Redactor) (s : String) : String := String.ofList (r.passes s.toList)

theorem isSpace_iff : isSpace c = true ↔ c = '\t' ∨ c = '\n' ∨ c = '\x0c' ∨ c = '\r' ∨ c = ' ' := by
  simp [isSpace, or_assoc]

theorem not_space_of_class {accepts : Char → Bool}
    (h : accepts '\t' = false ∧ accepts '\n' = false ∧ accepts '\x0c' = false ∧
      accepts '\r' = false ∧ accepts ' ' = false) (hc : accepts c = true) : isSpace c = false := by
  apply Bool.eq_false_iff.mpr
  intro hspace
  rcases isSpace_iff.mp hspace with rfl | rfl | rfl | rfl | rfl
  · cases h.1.symm.trans hc
  · cases h.2.1.symm.trans hc
  · cases h.2.2.1.symm.trans hc
  · cases h.2.2.2.1.symm.trans hc
  · cases h.2.2.2.2.symm.trans hc

theorem not_space_of_token (hc : isToken c = true) : isSpace c = false :=
  not_space_of_class (by decide) hc

theorem space_not_word (hc : isSpace c = true) : isWord c = false := by
  apply Bool.eq_false_iff.mpr
  intro hword
  rw [not_space_of_class (by decide) hword] at hc
  cases hc

theorem token_of_word (hc : isWord c = true) : isToken c = true := by
  simp only [isWord, Bool.or_eq_true] at hc
  simp only [isToken, Bool.or_eq_true]
  tauto

theorem segment_of_word (hc : isWord c = true) : isSegment c = true := by
  simp only [isWord, Bool.or_eq_true] at hc
  simp only [isSegment, Bool.or_eq_true]
  tauto

theorem isDot_of_line {line : List Char} (h : '\n' ∉ line) : ∀ c ∈ line, isDot c = true := by
  intro c hc
  rw [isDot, bne_iff_ne]
  rintro rfl
  exact h hc

theorem mask_first : mask.head? = some '[' := by decide

theorem mask_last : mask.getLast? = some ']' := by decide

/-- What a pattern without brackets reads is apart from the placeholder when it has something
that is not in it. -/
theorem apart_mask {p : Pattern} (havoids : (p.avoids '[' && p.avoids ']') = true)
    (h : p.Matches before text rest) (hforeign : ∃ c ∈ text, c ∉ mask) : Apart mask text := by
  obtain ⟨hfirst, hlast⟩ := Bool.and_eq_true_iff.mp havoids
  exact ⟨⟨'[', mask_first, h.not_mem hfirst⟩, ⟨']', mask_last, h.not_mem hlast⟩, hforeign⟩

section

variable {kept dropped : List Char → List Char → List Char → Prop} {front s t : List Char}
  {spaces : List Char} {pre v : List Char}

theorem pemLine_apart {word : String}
    (havoids : ((pemLine word).avoids '[' && (pemLine word).avoids ']') = true)
    (h : (pemLine word).Matches before text rest) : Apart mask text := by
  apply apart_mask havoids h
  obtain ⟨u, v, rfl, hu, _⟩ := h
  have hword := Pattern.matches_word.mp hu
  rw [List.map_id] at hword
  refine ⟨'-', ?_, by decide⟩
  rw [hword]
  simp

theorem matches_pemBlock {kept dropped : List Char} :
    pemBlock.Matches before kept dropped rest ↔ kept = [] ∧ ∃ header body footer,
      dropped = header ++ (body ++ footer) ∧ (pemLine "BEGIN").Matches none header [] ∧
        (pemLine "END").Matches none footer [] := by
  constructor
  · rintro ⟨hkeep, header, tail, rfl, hheader, body, footer, rfl, _, hfooter⟩
    exact ⟨hkeep, header, body, footer, rfl, hheader.of_plain (by decide) none [],
      hfooter.of_plain (by decide) none []⟩
  · rintro ⟨rfl, header, body, footer, rfl, hheader, hfooter⟩
    exact ⟨rfl, header, body ++ footer, rfl, hheader.of_plain (by decide) _ _, body, footer, rfl,
      fun _ _ => rfl, hfooter.of_plain (by decide) _ _⟩

theorem pemBlock_found (h : Aligned mask kept dropped [] s t) (hblock : pemBlock.Occurs t) :
    ∃ front rest t', s = front ++ rest ∧ kept front rest t' ∧
      ∃ text rest', rest = text ++ rest' ∧ pemBlock.Matches (lastOf none front) [] text rest' := by
  obtain ⟨pre, _, _, rest, rfl, hmatch⟩ := hblock
  obtain ⟨rfl, header, body, footer, rfl, hheader, hfooter⟩ := matches_pemBlock.mp hmatch
  rw [List.append_assoc] at h
  obtain ⟨front, rest', rfl, hkept, hrest, _⟩ := h.find (pemLine_apart (by decide) hheader)
  rw [List.append_assoc] at hrest
  obtain ⟨body', rest'', rfl, _⟩ := hrest.find (pemLine_apart (by decide) hfooter)
  refine ⟨front, header ++ (body' ++ (footer ++ rest'')), _, rfl, hkept,
    header ++ (body' ++ footer), rest'', by simp only [List.append_assoc], ?_⟩
  exact matches_pemBlock.mpr ⟨rfl, header, body', footer, rfl, hheader, hfooter⟩

theorem pemBlock_kept (h : Aligned mask kept dropped [] s t) (hs : ¬ pemBlock.Occurs s) :
    ¬ pemBlock.Occurs t := by
  intro hblock
  obtain ⟨front, _, _, rfl, _, text, rest, rfl, hmatch⟩ := pemBlock_found h hblock
  exact hs ⟨front, [], text, rest, rfl, hmatch⟩

theorem pemBlock_removed (s : List Char) : ¬ pemBlock.Occurs (pemBlock.replaceAll mask s) := by
  intro hblock
  obtain ⟨front, _, _, rfl, hkept, text, rest, rfl, hmatch⟩ :=
    pemBlock_found (pemBlock.replaceAll_aligned mask s) hblock
  rcases hkept with hnone | ⟨front', u, v, dropped, rest', _, hv, _, hmatch', _⟩
  · have hnot : ¬ pemBlock.Matches (lastOf none front) [] text rest :=
      Rule.not_matches_of_first hnone
    exact hnot hmatch
  · exact hv (List.append_eq_nil_iff.mp (matches_pemBlock.mp hmatch').1).2

theorem space_not_mem_mask (hc : isSpace c = true) : c ∉ mask := by
  rcases isSpace_iff.mp hc with rfl | rfl | rfl | rfl | rfl <;> decide

theorem matches_bearer {kept dropped : List Char} : bearer.Matches before kept dropped rest ↔
      (∃ name spaces, kept = name ++ spaces ∧ name.map fold = "bearer".toList ∧ spaces ≠ [] ∧
        ∀ c ∈ spaces, isSpace c = true) ∧
      dropped ≠ [] ∧ ∀ c ∈ dropped, isToken c = true := by
  have hname : "bearer".toList.map fold = "bearer".toList := by decide
  constructor
  · rintro ⟨⟨name, spaces, rfl, hword, hspaces⟩, hdrop⟩
    exact ⟨⟨name, spaces, rfl, hname ▸ Pattern.matches_word.mp hword,
      Pattern.matches_some.mp hspaces⟩, Pattern.matches_some.mp hdrop⟩
  · rintro ⟨⟨name, spaces, rfl, hword, hspaces⟩, hdrop⟩
    exact ⟨⟨name, spaces, rfl, Pattern.matches_word.mpr (hword.trans hname.symm),
      Pattern.matches_some.mpr hspaces⟩, Pattern.matches_some.mpr hdrop⟩

theorem bearer_apart (before : Option Char) (u v rest : List Char)
    (h : bearer.Matches before u v rest) : Apart mask (u ++ v) := by
  obtain ⟨⟨name, spaces, hu, _, hne, hspaces⟩, _⟩ := matches_bearer.mp h
  have hseq : (Pattern.seq bearer.keep bearer.drop).Matches before (u ++ v) rest :=
    ⟨u, v, rfl, h.keep, h.drop⟩
  apply apart_mask (by decide) hseq
  obtain ⟨c, spaces, rfl⟩ := List.exists_cons_of_ne_nil hne
  exact ⟨c, by simp [hu], space_not_mem_mask (hspaces c List.mem_cons_self)⟩

/-- The kept part of a match has no match in it: behind the name there is only space. -/
theorem bearer_removed (s : List Char) : ¬ bearer.Occurs (bearer.replaceAll mask s) := by
  intro hoccurs
  obtain ⟨front, u, v, rest, rest', rfl, hmatch, hkept⟩ :=
    hoccurs.found (bearer.replaceAll_aligned mask s) (by decide) bearer_apart
  rcases hkept with hnone | ⟨front', w, w', dropped, rest'', _, _, _, hmatch', ht⟩
  · exact Rule.not_matches_of_first hnone hmatch
  · rw [← List.append_assoc] at ht
    obtain ⟨more, rfl, _⟩ := (bearer_apart _ u v rest hmatch).before ht
    obtain ⟨⟨name, spaces, rfl, hname, _⟩, hne, htoken⟩ := matches_bearer.mp hmatch
    obtain ⟨⟨name', spaces', hkeep, hname', _, hspaces'⟩, _⟩ := matches_bearer.mp hmatch'
    obtain ⟨c, v, rfl⟩ := List.exists_cons_of_ne_nil hne
    have hlength : name'.length = name.length := by
      rw [← List.length_map fold, hname', ← hname, List.length_map]
    have hsplit : w ++ (name ++ spaces) ++ c :: (v ++ more) = name' ++ spaces' := by
      rw [← hkeep]
      simp
    rcases append_cons_split hsplit with ⟨more', hshort⟩ | ⟨more', _, rfl⟩
    · rw [hshort] at hlength
      simp only [List.length_append, List.length_cons] at hlength
      omega
    · have hc := not_space_of_token (htoken c List.mem_cons_self)
      rw [hspaces' c (by simp)] at hc
      cases hc

theorem jwt_apart (before : Option Char) (u v rest : List Char)
    (h : jwt.Matches before u v rest) : Apart mask (u ++ v) := by
  have hseq : (Pattern.seq jwt.keep jwt.drop).Matches before (u ++ v) rest :=
    ⟨u, v, rfl, h.keep, h.drop⟩
  apply apart_mask (by decide) hseq
  obtain ⟨_, name, _, rfl, _, segment, _, rfl, _, dot, _, rfl, ⟨c, rfl, hc⟩, _⟩ := h
  exact ⟨'.', by simp [beq_iff_eq.mp hc], by decide⟩

theorem jwt_removed (s : List Char) : ¬ jwt.Occurs (jwt.replaceAll mask s) := by
  intro hoccurs
  obtain ⟨front, u, v, rest, rest', rfl, hmatch, hkept⟩ :=
    hoccurs.found (jwt.replaceAll_aligned mask s) (by decide) jwt_apart
  rcases hkept with hnone | ⟨front', w, w', dropped, rest'', _, hne, _, hmatch', _⟩
  · exact Rule.not_matches_of_first hnone hmatch
  · exact hne (List.append_eq_nil_iff.mp hmatch'.keep).2

def defaultKeyValue : Rule := defaultRedactor.keyValue

theorem keys_plain (keys : List String) :
    (Pattern.oneOf (keys.map fun key => .word fold key.toList)).plain = true := by
  apply Pattern.plain_oneOf
  rw [List.forall_mem_map]
  exact fun key _ => Pattern.plain_word fold key.toList

theorem keyLabel_plain (keys : List String) : (keyLabel keys).plain = true := by
  simp only [keyLabel, keyName, Pattern.plain, Pattern.optional, keys_plain, Bool.and_true]

theorem keyName_avoids {keys : List String} (hkeys : ∀ key ∈ keys, fold c ∉ key.toList.map fold)
    (hclass : (isQuote c || isSpace c) = false) : (keyName keys).avoids c = true := by
  have hnames : (Pattern.oneOf (keys.map fun key => .word fold key.toList)).avoids c = true := by
    apply Pattern.avoids_oneOf
    rw [List.forall_mem_map]
    exact fun key hkey => Pattern.avoids_word (hkeys key hkey)
  obtain ⟨hquote, hspace⟩ := Bool.or_eq_false_iff.mp hclass
  simp [keyName, Pattern.avoids, Pattern.optional, hnames, hquote, hspace]

theorem defaultSensitiveKeys_apart :
    ((defaultSensitiveKeys.filter (· ≠ "")).all fun key => (key.toList.map fold).all fun c =>
      !"[]:=".toList.contains c) = true := by
  decide +kernel

theorem defaultKeyName_avoids (hletter : "[]:=".toList.contains (fold c) = true)
    (hclass : (isQuote c || isSpace c) = false) :
    (keyName (defaultSensitiveKeys.filter (· ≠ ""))).avoids c = true := by
  apply keyName_avoids _ hclass
  intro key hkey hmem
  have hapart := List.all_eq_true.mp defaultSensitiveKeys_apart key hkey
  have hnot := List.all_eq_true.mp hapart (fold c) hmem
  rw [hletter] at hnot
  cases hnot

theorem defaultKeyLabel_avoids (hletter : "[]:=".toList.contains (fold c) = true)
    (hclass : (isQuote c || isSpace c || isSeparator c) = false) :
    (keyLabel (defaultSensitiveKeys.filter (· ≠ ""))).avoids c = true := by
  obtain ⟨hname, hseparator⟩ := Bool.or_eq_false_iff.mp hclass
  have hspace := (Bool.or_eq_false_iff.mp hname).2
  simp only [keyLabel, Pattern.avoids, defaultKeyName_avoids hletter hname, hseparator, hspace,
    Bool.not_false, Bool.and_true]

def IsKeyLabel (text : List Char) : Prop :=
  (keyLabel (defaultSensitiveKeys.filter (· ≠ ""))).Matches none text []

/-- A value up to the end of its line. -/
structure IsValue (text rest : List Char) : Prop where
  starts : ∃ c line, text = c :: line ∧ isSpace c = false ∧ '\n' ∉ line
  ends : LineEnd rest

theorem IsKeyLabel.apart (h : IsKeyLabel text) : Apart mask text := by
  have havoids := Bool.and_eq_true_iff.mpr
    ⟨defaultKeyLabel_avoids (c := '[') (by decide) (by decide),
      defaultKeyLabel_avoids (c := ']') (by decide) (by decide)⟩
  apply apart_mask havoids h
  obtain ⟨name, _, rfl, _, sign, spaces, rfl, ⟨c, rfl, hc⟩, _⟩ := h
  refine ⟨c, by simp, ?_⟩
  simp only [isSeparator, Bool.or_eq_true, beq_iff_eq] at hc
  rcases hc with rfl | rfl <;> decide

theorem IsKeyLabel.separator (h : IsKeyLabel text) :
    ∃ name c spaces, text = name ++ c :: spaces ∧ isSeparator c = true ∧
      (∀ d ∈ name, isSeparator d = false) ∧ ∀ d ∈ spaces, isSpace d = true := by
  obtain ⟨name, _, rfl, hname, sign, spaces, rfl, ⟨c, rfl, hc⟩, hspaces⟩ := h
  refine ⟨name, c, spaces, rfl, hc, ?_, hspaces⟩
  intro d hd
  apply Bool.eq_false_iff.mpr
  intro hsep
  simp only [isSeparator, Bool.or_eq_true, beq_iff_eq] at hsep
  rcases hsep with rfl | rfl
  · exact hname.not_mem (defaultKeyName_avoids (by decide) (by decide)) hd
  · exact hname.not_mem (defaultKeyName_avoids (by decide) (by decide)) hd

theorem matches_value : defaultKeyValue.drop.Matches before text rest ↔ IsValue text rest := by
  constructor
  · rintro ⟨_, _, rfl, ⟨c, rfl, hc⟩, line, _, rfl, hline, rfl, hend⟩
    refine ⟨⟨c, line, by simp, by simpa using hc, ?_⟩, lineEnd_iff.mp hend⟩
    exact not_mem_of_class (by decide) hline
  · rintro ⟨⟨c, line, rfl, hc, hline⟩, hend⟩
    exact ⟨[c], line, rfl, ⟨c, rfl, by simpa using hc⟩, line, [], by simp, isDot_of_line hline,
      rfl, lineEnd_iff.mpr hend⟩

theorem matches_keyValue {kept dropped : List Char} :
    defaultKeyValue.Matches before kept dropped rest ↔
      Assertion.wordBoundary.holds before kept.head? = true ∧ IsKeyLabel kept ∧
        IsValue dropped rest := by
  constructor
  · rintro ⟨⟨_, label, rfl, ⟨rfl, hboundary⟩, hlabel⟩, hdrop⟩
    have hlabel : IsKeyLabel label := hlabel.of_plain (keyLabel_plain _) none []
    refine ⟨?_, hlabel, matches_value.mp hdrop⟩
    rwa [List.head?_append_of_ne_nil _ hlabel.apart.ne_nil] at hboundary
  · rintro ⟨hboundary, hlabel, hvalue⟩
    refine ⟨⟨[], kept, rfl, ⟨rfl, ?_⟩, ?_⟩, matches_value.mpr hvalue⟩
    · rwa [List.head?_append_of_ne_nil _ hlabel.apart.ne_nil]
    · exact hlabel.of_plain (keyLabel_plain _) _ _

/-- A label in what came out was there in what went in, at the beginning of a word, when what
was dropped ends in front of no word. -/
theorem keyLabel_found (h : Aligned mask kept dropped [] s (pre ++ (text ++ rest)))
    (hnext : ∀ front v rest, dropped front v rest → ∀ c, rest.head? = some c → isWord c = false)
    (hlabel : IsKeyLabel text)
    (hboundary : Assertion.wordBoundary.holds (lastOf none pre) text.head? = true) :
    ∃ front rest', s = front ++ (text ++ rest') ∧
      Assertion.wordBoundary.holds (lastOf none front) text.head? = true ∧
      kept front (text ++ rest') (text ++ rest) ∧
      Aligned mask kept dropped (front ++ text) rest' rest := by
  obtain ⟨front, rest', rfl, hkept, hrest, hbehind⟩ := h.find hlabel.apart
  refine ⟨front, rest', rfl, ?_, hkept, hrest⟩
  rcases hbehind.lastOf_eq mask_last with hsame | ⟨hlast, front', v, hdropped⟩
  · rwa [← hsame]
  · -- behind a placeholder a word would have to begin
    obtain ⟨c, text, rfl⟩ := List.exists_cons_of_ne_nil hlabel.apart.ne_nil
    have hword := hnext _ _ _ hdropped c rfl
    have hbracket : isWord ']' = false := by decide
    rw [hlast] at hboundary
    simp [Assertion.holds, hword, hbracket] at hboundary

theorem IsValue.eq_mask {t : List Char} (h : IsValue text rest) (heq : text ++ rest = mask ++ t)
    (ht : LineEnd t) : text = mask := by
  obtain ⟨⟨c, line, rfl, hc, hline⟩, hend⟩ := h
  refine line_unique heq ?_ (by decide) hend ht
  apply List.not_mem_cons_of_ne_of_not_mem _ hline
  rintro rfl
  cases hc

theorem exists_value (hc : isSpace c = false) (s : List Char) :
    ∃ line rest, s = line ++ rest ∧ IsValue (c :: line) rest := by
  obtain ⟨line, rest, rfl, hline, hrest⟩ := exists_line s
  exact ⟨line, rest, rfl, ⟨c, line, rfl, hc, hline⟩, hrest⟩

theorem lineEnd_aligned {t : List Char} (h : Aligned mask kept dropped front rest t)
    (hfirst : ∀ front c v rest, dropped front (c :: v) rest → isSpace c = false)
    (hrest : LineEnd rest) : LineEnd t := by
  cases rest with
  | nil =>
    rw [h.eq_nil_of_nil]
    exact hrest
  | cons c rest =>
    obtain rfl := hrest c rfl
    obtain ⟨t', rfl, _⟩ := h.kept_char fun v rest hdropped => by
      cases hfirst _ _ _ _ hdropped
    exact hrest

theorem IsKeyLabel.space_behind {u : List Char} (h : IsKeyLabel (u ++ (text ++ c :: v)))
    (htext : IsKeyLabel text) : isSpace c = true := by
  obtain ⟨name, d, spaces, heq, hd, hname, hspaces⟩ := h.separator
  obtain ⟨name', d', spaces', rfl, hd', _, _⟩ := htext.separator
  have hsplit : u ++ name' ++ d' :: (spaces' ++ c :: v) = name ++ d :: spaces := by
    rw [← heq]
    simp
  rcases append_cons_split hsplit with ⟨more, rfl⟩ | ⟨more, _, htail⟩
  · cases (hname d' (by simp)).symm.trans hd'
  · apply hspaces
    cases more with
    | nil =>
      rw [(List.cons.inj htail).2]
      simp
    | cons e more =>
      rw [(List.cons.inj htail).2]
      simp

theorem keyValue_dropped (h : defaultKeyValue.Dropped front v rest) : IsValue v rest := by
  obtain ⟨front', kept, rfl, hfirst⟩ := h
  exact (matches_keyValue.mp (Rule.matches_of_first hfirst).2).2.2

theorem keyValue_dropped_first (front : List Char) (c : Char) (v rest : List Char)
    (h : defaultKeyValue.Dropped front (c :: v) rest) : isSpace c = false := by
  obtain ⟨⟨d, line, heq, hd, _⟩, _⟩ := keyValue_dropped h
  rwa [(List.cons.inj heq).1]

theorem keyValue_dropped_next (front v rest : List Char) (h : defaultKeyValue.Dropped front v rest)
    (c : Char) (hc : rest.head? = some c) : isWord c = false := by
  rw [(keyValue_dropped h).ends c hc]
  decide

/-- After the key-value pass, each labelled value is the mask. -/
theorem keyValue_masked (s : List Char) :
    defaultKeyValue.OnlyDrops mask (defaultKeyValue.replaceAll mask s) := by
  intro pre u v rest ht hmatch
  obtain ⟨hboundary, hlabel, hvalue⟩ := matches_keyValue.mp hmatch
  have haligned : Aligned mask (defaultKeyValue.Kept mask) defaultKeyValue.Dropped [] s
      (pre ++ (u ++ (v ++ rest))) := ht ▸ defaultKeyValue.replaceAll_aligned mask s
  obtain ⟨front, rest', rfl, hboundary', hkept, hrest⟩ :=
    keyLabel_found haligned keyValue_dropped_next hlabel hboundary
  obtain ⟨c, line, rfl, hc, hline⟩ := hvalue.starts
  rcases hkept with hnone | ⟨front', w, w', dropped, rest'', rfl, hne, hs, hmatch', ht⟩
  · generalize hout : c :: line ++ rest = out at hrest
    cases hrest with
    | nil => cases hout
    | @keep _ s' _ _ _ _ =>
      -- the label had a value where nothing matches
      obtain ⟨rfl, _⟩ := List.cons.inj hout
      obtain ⟨line', rest'', rfl, hvalue'⟩ := exists_value hc s'
      exact absurd (matches_keyValue.mpr ⟨hboundary', hlabel, hvalue'⟩)
        (Rule.not_matches_of_first hnone)
    | drop _ hdropped hrest =>
      exact hvalue.eq_mask hout
        (lineEnd_aligned hrest keyValue_dropped_first (keyValue_dropped hdropped).ends)
  · -- the label is in the kept part of a match
    obtain ⟨hboundary'', hlabel', hvalue'⟩ := matches_keyValue.mp hmatch'
    obtain ⟨more, rfl, hmore⟩ := hlabel.apart.before ht
    cases more with
    | nil =>
      refine hvalue.eq_mask hmore ?_
      exact lineEnd_aligned (Rule.replace_aligned _ rest'') keyValue_dropped_first hvalue'.ends
    | cons d more =>
      obtain ⟨rfl, _⟩ := List.cons.inj hmore
      rw [hlabel'.space_behind hlabel] at hc
      cases hc

/-- What a pass over tokens drops: something that begins neither with space nor like a
placeholder, that stands behind space if it begins like the inside of one, and that ends in
front of no word. -/
structure Inline (dropped : List Char → List Char → List Char → Prop) : Prop where
  starts : ∀ front v rest, dropped front v rest →
    ∃ c v', v = c :: v' ∧ isSpace c = false ∧ c ≠ '['
  inside : ∀ front c v rest, dropped front (c :: v) rest → c ∈ mask →
    ∃ d, lastOf none front = some d ∧ isSpace d = true
  next : ∀ front v rest, dropped front v rest → ∀ c, rest.head? = some c → isWord c = false

theorem Inline.first (h : Inline dropped) (front : List Char) (c : Char) (v rest : List Char)
    (hdropped : dropped front (c :: v) rest) : isSpace c = false ∧ c ≠ '[' := by
  obtain ⟨d, v', heq, hd⟩ := h.starts _ _ _ hdropped
  rwa [(List.cons.inj heq).1]

theorem Inline.mask_kept (h : Inline dropped)
    (haligned : Aligned mask kept dropped front (mask ++ rest) t) :
    ∃ t', t = mask ++ t' ∧ Aligned mask kept dropped (front ++ mask) rest t' := by
  apply haligned.kept_text
  intro u c v hsplit v' rest' hdropped
  have hu : ∀ d ∈ u, d ∈ mask := fun d hd => hsplit ▸ List.mem_append_left _ hd
  have hc : c ∈ mask := by
    rw [hsplit]
    simp
  cases u with
  | nil =>
    have hfirst : some '[' = some c := by
      rw [← mask_first, hsplit]
      rfl
    exact (h.first _ _ _ _ hdropped).2 (Option.some.inj hfirst).symm
  | cons b u =>
    obtain ⟨d, hlast, hspace⟩ := h.inside _ _ _ _ hdropped hc
    obtain ⟨e, he, hlast'⟩ := lastOf_mem (lastOf none front) (List.cons_ne_nil b u)
    rw [lastOf_append, hlast'] at hlast
    obtain rfl := Option.some.inj hlast
    exact space_not_mem_mask hspace (hu e he)

/-- A later pass that drops within lines keeps each labelled value masked. -/
theorem keyValue_kept (h : Aligned mask kept dropped [] s t) (hinline : Inline dropped)
    (hs : defaultKeyValue.OnlyDrops mask s) : defaultKeyValue.OnlyDrops mask t := by
  rintro pre u v rest rfl hmatch
  obtain ⟨hboundary, hlabel, hvalue⟩ := matches_keyValue.mp hmatch
  obtain ⟨front, rest', rfl, hboundary', _, hrest⟩ :=
    keyLabel_found h hinline.next hlabel hboundary
  -- a value behind the label was the placeholder before
  have hmasked : ∀ c s', isSpace c = false → rest' = c :: s' →
      ∃ rest'', rest' = mask ++ rest'' ∧ LineEnd rest'' := by
    rintro c s' hc rfl
    obtain ⟨line, rest'', rfl, hvalue'⟩ := exists_value hc s'
    have hmask := hs front u (c :: line) rest'' rfl
      (matches_keyValue.mpr ⟨hboundary', hlabel, hvalue'⟩)
    exact ⟨rest'', by rw [← hmask, List.cons_append], hvalue'.ends⟩
  obtain ⟨c, line, rfl, hc, _⟩ := hvalue.starts
  have hvisible : ∃ d s', rest' = d :: s' ∧ isSpace d = false := by
    generalize hout : c :: line ++ rest = out at hrest
    cases hrest with
    | nil => cases hout
    | @keep _ s' _ _ _ _ =>
      obtain ⟨rfl, _⟩ := List.cons.inj hout
      exact ⟨c, s', rfl, hc⟩
    | @drop _ v s' _ _ hdropped _ =>
      obtain ⟨d, v, rfl, hd, _⟩ := hinline.starts _ _ _ hdropped
      exact ⟨d, v ++ s', rfl, hd⟩
  obtain ⟨d, s', hs', hd⟩ := hvisible
  obtain ⟨rest'', rfl, hend⟩ := hmasked d s' hd hs'
  obtain ⟨t', ht, hrest⟩ := hinline.mask_kept hrest
  apply hvalue.eq_mask ht
  exact lineEnd_aligned hrest (fun front c v rest hd => (hinline.first front c v rest hd).1) hend

theorem bearer_inline : Inline bearer.Dropped where
  starts := by
    rintro front v rest ⟨front', kept, rfl, hfirst⟩
    obtain ⟨_, hne, htoken⟩ := matches_bearer.mp (Rule.matches_of_first hfirst).2
    obtain ⟨c, v, rfl⟩ := List.exists_cons_of_ne_nil hne
    have hc := htoken c List.mem_cons_self
    refine ⟨c, v, rfl, not_space_of_token hc, ?_⟩
    rintro rfl
    cases hc
  inside := by
    rintro front c v rest ⟨front', kept, rfl, hfirst⟩ _
    obtain ⟨⟨name, spaces, rfl, _, hne, hspaces⟩, _⟩ :=
      matches_bearer.mp (Rule.matches_of_first hfirst).2
    obtain ⟨d, hd, hlast⟩ := lastOf_mem (lastOf none (front' ++ name)) hne
    refine ⟨d, ?_, hspaces d hd⟩
    rw [← List.append_assoc, lastOf_append, hlast]
  next := by
    rintro front v rest ⟨front', kept, rfl, hfirst⟩ c hc
    obtain ⟨s', hhead⟩ := Rule.head_of_first hfirst
    have hends : Pattern.EndsIn isToken bearer.drop := rfl
    apply Bool.eq_false_iff.mpr
    intro hword
    cases (hends.rest_rejected hhead hc).symm.trans (token_of_word hword)

theorem jwt_starts {kept dropped : List Char} (h : jwt.Matches before kept dropped rest) :
    ∃ v, dropped = 'e' :: v := by
  obtain ⟨_, name, segments, rfl, hname, _⟩ := h
  have hword := Pattern.matches_word.mp hname
  rw [List.map_id] at hword
  exact ⟨'y' :: 'J' :: segments, by rw [hword]; rfl⟩

theorem jwt_inline : Inline jwt.Dropped where
  starts := by
    rintro front v rest ⟨front', kept, rfl, hfirst⟩
    obtain ⟨v, rfl⟩ := jwt_starts (Rule.matches_of_first hfirst).2
    exact ⟨'e', v, rfl, by decide, by decide⟩
  inside := by
    rintro front c v rest ⟨front', kept, rfl, hfirst⟩ hmem
    obtain ⟨v', heq⟩ := jwt_starts (Rule.matches_of_first hfirst).2
    rw [(List.cons.inj heq).1] at hmem
    exact absurd hmem (by decide)
  next := by
    rintro front v rest ⟨front', kept, rfl, hfirst⟩ c hc
    obtain ⟨s', hhead⟩ := Rule.head_of_first hfirst
    have hends : Pattern.EndsIn isSegment jwt.drop := rfl
    apply Bool.eq_false_iff.mpr
    intro hword
    cases (hends.rest_rejected hhead hc).symm.trans (segment_of_word hword)

def IsAssignment (text : List Char) : Prop := wgAssignment.Matches none text []

theorem matches_restOfLine :
    wgKey.drop.Matches before text rest ↔ text ≠ [] ∧ '\n' ∉ text ∧ LineEnd rest := by
  constructor
  · rintro ⟨line, _, rfl, hline, rfl, hend⟩
    obtain ⟨hne, hdot⟩ := Pattern.matches_some.mp hline
    rw [List.append_nil]
    exact ⟨hne, not_mem_of_class (by decide) hdot, lineEnd_iff.mp hend⟩
  · rintro ⟨hne, hline, hend⟩
    exact ⟨text, [], by simp, Pattern.matches_some.mpr ⟨hne, isDot_of_line hline⟩, rfl,
      lineEnd_iff.mpr hend⟩

theorem matches_wgKey {kept dropped : List Char} :
    wgKey.Matches before kept dropped rest ↔ LineStart before ∧
      (∃ text spaces, kept = text ++ spaces ∧ IsAssignment text ∧
        ∀ c ∈ spaces, isSpace c = true) ∧
      dropped ≠ [] ∧ '\n' ∉ dropped ∧ LineEnd rest := by
  constructor
  · rintro ⟨⟨_, _, rfl, ⟨rfl, hstart⟩, text, spaces, rfl, htext, hspaces⟩, hdrop⟩
    exact ⟨lineStart_iff.mp hstart,
      ⟨text, spaces, rfl, htext.of_plain (by decide) none [], hspaces⟩, matches_restOfLine.mp hdrop⟩
  · rintro ⟨hstart, ⟨text, spaces, rfl, htext, hspaces⟩, hdrop⟩
    exact ⟨⟨[], text ++ spaces, rfl, ⟨rfl, lineStart_iff.mpr hstart⟩, text, spaces, rfl,
      htext.of_plain (by decide) _ _, hspaces⟩, matches_restOfLine.mpr hdrop⟩

/-- Only space stands behind an assignment to the end of the text, and a line of it is not
empty: this is where a pass drops space. -/
structure Trailing (front text spaces : List Char) : Prop where
  start : LineStart (lastOf none front)
  assignment : IsAssignment text
  blank : ∀ c ∈ spaces, isSpace c = true
  visible : ∃ c ∈ spaces, c ≠ '\n'

theorem Trailing.apart (h : Trailing front text spaces) : Apart mask (text ++ spaces) := by
  have hseq : (Pattern.seq wgAssignment (.many isSpace)).Matches none (text ++ spaces) [] :=
    ⟨text, spaces, rfl, h.assignment.of_plain (by decide) _ _, h.blank⟩
  apply apart_mask (by decide) hseq
  obtain ⟨_, _, rfl, _, _, _, rfl, _, _, _, rfl, _, c, rfl, hc⟩ := h.assignment
  exact ⟨'=', by simp [beq_iff_eq.mp hc], by decide⟩

def NoTrailing (s : List Char) : Prop :=
  ∀ front text spaces, s = front ++ (text ++ spaces) → ¬ Trailing front text spaces

theorem Trailing.found (htrailing : Trailing pre text spaces)
    (h : Aligned mask kept dropped [] s (pre ++ (text ++ spaces))) :
    ∃ front, s = front ++ (text ++ spaces) ∧ Trailing front text spaces ∧
      kept front (text ++ spaces) (text ++ spaces) := by
  rw [← List.append_nil (text ++ spaces)] at h
  obtain ⟨front, rest, rfl, hkept, hrest, hbehind⟩ := h.find htrailing.apart
  obtain rfl := hrest.nil_of_eq_nil (by decide)
  rw [List.append_nil] at hkept ⊢
  refine ⟨front, rfl, ⟨?_, htrailing.assignment, htrailing.blank, htrailing.visible⟩, hkept⟩
  rcases hbehind.lastOf_eq mask_last with hsame | ⟨hlast, _⟩
  · rw [← hsame]
    exact htrailing.start
  · cases htrailing.start _ hlast

theorem noTrailing_kept (h : Aligned mask kept dropped [] s t) (hs : NoTrailing s) :
    NoTrailing t := by
  rintro pre text spaces rfl htrailing
  obtain ⟨front, rfl, htrailing', _⟩ := htrailing.found h
  exact hs front text spaces rfl htrailing'

theorem noTrailing_wgKey (s : List Char) : NoTrailing (wgKey.replaceAll mask s) := by
  intro pre text spaces ht htrailing
  obtain ⟨front, rfl, htrailing', hkept⟩ := htrailing.found (ht ▸ wgKey.replaceAll_aligned mask s)
  rcases hkept with hnone | ⟨_, _, w, dropped, rest, _, _, _, _, heq⟩
  · obtain ⟨c, hc, hne⟩ := htrailing'.visible
    obtain ⟨spaces, tail, rfl⟩ := List.append_of_mem hc
    obtain ⟨line, rest, rfl, hline, hrest⟩ := exists_line tail
    have hmatch : wgKey.Matches (lastOf none front) (text ++ spaces) (c :: line) rest := by
      refine matches_wgKey.mpr ⟨htrailing'.start, ⟨text, spaces, rfl, htrailing'.assignment, ?_⟩,
        List.cons_ne_nil c line, ?_, hrest⟩
      · intro d hd
        exact htrailing'.blank d (List.mem_append_left _ hd)
      · exact List.not_mem_cons_of_ne_of_not_mem hne.symm hline
    have hsplit : text ++ (spaces ++ c :: (line ++ rest)) =
        text ++ spaces ++ (c :: line ++ rest) := by simp
    rw [hsplit] at hnone
    exact Rule.not_matches_of_first hnone hmatch
  · rw [← List.append_nil (text ++ spaces)] at heq
    obtain ⟨more, _, hnil⟩ := htrailing'.apart.before heq
    have hmask := (List.append_eq_nil_iff.mp (List.append_eq_nil_iff.mp hnil.symm).2).1
    cases hmask

theorem word_of_fold (h : fold c = 'p') : isWord c = true := by
  unfold fold Char.toLower at h
  split at h
  · cases h
  · split at h
    · cases h
    · split at h
      · rename_i hupper
        have hletter : c.isUpper = true := decide_eq_true hupper
        change (c.isUpper || c.isLower || c.isDigit || c == '_') = true
        rw [hletter]
        rfl
      · rw [h]
        decide

theorem wgName_keyName {name : List Char} (h : name.map fold = "PrivateKey".toList.map fold ∨
      name.map fold = "PresharedKey".toList.map fold) :
    (Pattern.oneOf ((defaultSensitiveKeys.filter (· ≠ "")).map fun key =>
      .word fold key.toList)).Matches none name [] := by
  apply (Pattern.matches_oneOf (by decide)).mpr
  rcases h with h | h
  · exact ⟨.word fold "privatekey".toList, List.mem_map_of_mem (by decide),
      Pattern.matches_word.mpr (h.trans (by decide))⟩
  · exact ⟨.word fold "presharedkey".toList, List.mem_map_of_mem (by decide),
      Pattern.matches_word.mpr (h.trans (by decide))⟩

theorem lastOf_not_word (hstart : LineStart before) (hspaces : ∀ c ∈ spaces, isSpace c = true) :
    (lastOf before spaces).any isWord = false := by
  by_cases hnil : spaces = []
  · subst hnil
    cases before with
    | none => rfl
    | some c =>
      rw [hstart c rfl]
      decide
  · obtain ⟨c, hc, hlast⟩ := lastOf_mem before hnil
    rw [hlast]
    exact space_not_word (hspaces c hc)

/-- Behind its leading space, an assignment at the start of a line is a sensitive key at the
beginning of a word. -/
theorem IsAssignment.label (h : IsAssignment text) (hstart : LineStart before)
    (hspaces : ∀ c ∈ spaces, isSpace c = true) :
    ∃ lead label, text ++ spaces = lead ++ label ∧ IsKeyLabel label ∧
      Assertion.wordBoundary.holds (lastOf before lead) label.head? = true := by
  obtain ⟨lead, _, rfl, hlead, name, _, rfl, hname, gap, _, rfl, hgap, c, rfl, hc⟩ := h
  have hfold : name.map fold = "PrivateKey".toList.map fold ∨
      name.map fold = "PresharedKey".toList.map fold :=
    hname.imp Pattern.matches_word.mp Pattern.matches_word.mp
  refine ⟨lead, name ++ gap ++ c :: spaces, by simp, ?_, ?_⟩
  · refine ⟨name ++ gap, c :: spaces, rfl, ⟨name, gap, rfl, ?_, [], gap, rfl, Or.inr rfl, hgap⟩,
      [c], spaces, rfl, ⟨c, rfl, ?_⟩, hspaces⟩
    · exact (wgName_keyName hfold).of_plain (keys_plain _) none _
    · rw [beq_iff_eq.mp hc]
      decide
  · obtain ⟨d, name, rfl, hd⟩ : ∃ d name', name = d :: name' ∧ fold d = 'p' := by
      rcases hfold with h | h
      · obtain ⟨d, name, rfl, hd, _⟩ := List.map_eq_cons_iff.mp h
        exact ⟨d, name, rfl, hd⟩
      · obtain ⟨d, name, rfl, hd, _⟩ := List.map_eq_cons_iff.mp h
        exact ⟨d, name, rfl, hd⟩
    have hbefore : (lastOf before lead).any isWord = false := lastOf_not_word hstart hlead
    simp [Assertion.holds, hbefore, word_of_fold hd]

theorem blank_of_no_restOfLine {s : List Char}
    (h : ∀ text rest, s.dropWhile isSpace = text ++ rest → ¬ wgKey.drop.Matches before text rest) :
    ∀ c ∈ s, isSpace c = true := by
  apply List.dropWhile_eq_nil_iff.mp
  cases htail : s.dropWhile isSpace with
  | nil => rfl
  | cons d tail =>
    obtain ⟨line, rest, rfl, hline, hrest⟩ := exists_line tail
    have hd : d ≠ '\n' := by
      rintro rfl
      have hhead := List.head?_dropWhile_not isSpace s
      rw [htail] at hhead
      cases hhead
    have hvisible : '\n' ∉ d :: line := List.not_mem_cons_of_ne_of_not_mem hd.symm hline
    exact absurd (matches_restOfLine.mpr ⟨List.cons_ne_nil d line, hvisible, hrest⟩)
      (h (d :: line) rest htail)

/-- The WireGuard pass changes nothing in a text with its values masked. -/
theorem wgKey_stable (htrailing : NoTrailing text) (hmasked : defaultKeyValue.OnlyDrops mask text) :
    wgKey.replaceAll mask text = text := by
  apply Rule.replaceAll_eq_self
  rintro front kept dropped rest rfl hfirst
  obtain ⟨_, hmatch⟩ := Rule.matches_of_first hfirst
  obtain ⟨hstart, ⟨text, spaces, rfl, htext, hspaces⟩, hne, hline, hend⟩ :=
    matches_wgKey.mp hmatch
  obtain ⟨c, line, rfl⟩ := List.exists_cons_of_ne_nil hne
  have hends : Pattern.EndsIn isSpace wgKey.keep := rfl
  rcases Rule.keep_reads_on hends hfirst with hvisible | ⟨before, hnone⟩
  · -- the value is one of a sensitive key
    obtain ⟨lead, label, heq, hlabel, hboundary⟩ := htext.label hstart hspaces
    rw [← lastOf_append] at hboundary
    have hvalue : IsValue (c :: line) rest :=
      ⟨⟨c, line, rfl, hvisible c rfl, List.not_mem_of_not_mem_cons hline⟩, hend⟩
    apply hmasked (front ++ lead) label (c :: line) rest _
      (matches_keyValue.mpr ⟨hboundary, hlabel, hvalue⟩)
    rw [heq]
    simp
  · -- behind the sign there is only space
    exfalso
    refine htrailing front text (spaces ++ (c :: line ++ rest)) (by simp)
      ⟨hstart, htext, ?_, c, by simp, (List.ne_and_not_mem_of_not_mem_cons hline).1.symm⟩
    intro d hd
    rcases List.mem_append.mp hd with hd | hd
    · exact hspaces d hd
    · exact blank_of_no_restOfLine hnone d hd

end

/-- What the passes leave has no PEM block, token or unmasked value. -/
theorem passes_clean (s : List Char) :
    ¬ pemBlock.Occurs (defaultRedactor.passes s) ∧ ¬ jwt.Occurs (defaultRedactor.passes s) ∧
      ¬ bearer.Occurs (defaultRedactor.passes s) ∧
      defaultKeyValue.OnlyDrops mask (defaultRedactor.passes s) ∧
      NoTrailing (defaultRedactor.passes s) := by
  -- the texts after the first, the second, the third and the fourth pass
  let s₁ := pemBlock.replaceAll mask s
  let s₂ := wgKey.replaceAll mask s₁
  let s₃ := defaultKeyValue.replaceAll mask s₂
  let s₄ := bearer.replaceAll mask s₃
  have h₂ := wgKey.replaceAll_aligned mask s₁
  have h₃ := defaultKeyValue.replaceAll_aligned mask s₂
  have h₄ := bearer.replaceAll_aligned mask s₃
  have h₅ := jwt.replaceAll_aligned mask s₄
  refine ⟨?_, jwt_removed s₄, ?_, ?_, ?_⟩
  · exact pemBlock_kept h₅ (pemBlock_kept h₄ (pemBlock_kept h₃ (pemBlock_kept h₂
      (pemBlock_removed s))))
  · exact Rule.not_occurs_of_aligned h₅ (bearer_removed s₃) (by decide) bearer_apart
  · exact keyValue_kept h₅ jwt_inline (keyValue_kept h₄ bearer_inline (keyValue_masked s₂))
  · exact noTrailing_kept h₅ (noTrailing_kept h₄ (noTrailing_kept h₃ (noTrailing_wgKey s₁)))

theorem passes_stable (hpem : ¬ pemBlock.Occurs text) (hjwt : ¬ jwt.Occurs text)
    (hbearer : ¬ bearer.Occurs text) (hmasked : defaultKeyValue.OnlyDrops mask text)
    (htrailing : NoTrailing text) : defaultRedactor.passes text = text := by
  have hkeyValue : defaultKeyValue.replaceAll mask text = text := by
    apply Rule.replaceAll_eq_self
    intro front kept dropped rest htext hfirst
    exact hmasked front kept dropped rest htext (Rule.matches_of_first hfirst).2
  calc defaultRedactor.passes text
    _ = jwt.replaceAll mask (bearer.replaceAll mask (defaultKeyValue.replaceAll mask
          (wgKey.replaceAll mask (pemBlock.replaceAll mask text)))) := rfl
    _ = text := by
      rw [Rule.replaceAll_eq_self_of_not_occurs hpem, wgKey_stable htrailing hmasked, hkeyValue,
        Rule.replaceAll_eq_self_of_not_occurs hbearer, Rule.replaceAll_eq_self_of_not_occurs hjwt]

/-- The redacted text has no block of a private key, no token and no bearer credential, every
sensitive key in it has the placeholder for its value, and redacting it again changes
nothing. -/
theorem redact_leaves_no_secret (s : String) :
    ¬ defaultRedactor.pemBlock.Occurs (defaultRedactor.redact s).toList ∧
      ¬ defaultRedactor.jwt.Occurs (defaultRedactor.redact s).toList ∧
      ¬ defaultRedactor.bearer.Occurs (defaultRedactor.redact s).toList ∧
      defaultRedactor.keyValue.OnlyDrops placeholder.toList
        (defaultRedactor.redact s).toList ∧
      defaultRedactor.redact (defaultRedactor.redact s) = defaultRedactor.redact s := by
  obtain ⟨hpem, hjwt, hbearer, hmasked, htrailing⟩ := passes_clean s.toList
  have hstable := passes_stable hpem hjwt hbearer hmasked htrailing
  simp only [Redactor.redact, String.toList_ofList, hstable]
  exact ⟨hpem, hjwt, hbearer, hmasked, trivial⟩

-- the separator of a key that is itself `bearer` is taken for a token, once
example : defaultRedactor.redact "bearer =x" = "bearer [REDACTED][REDACTED]" := by decide +kernel

end MacVz.Redaction
