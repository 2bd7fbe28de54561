import RecordLayer.Proofs.CipherSuite.Selection

/-!
# Which names are the same

Two names have one canonical name if they differ in the case of ASCII letters alone, or if one has
the common start and the other that of TLS 1.3 before the same cipher of TLS 1.3. No other two names
do, so no list enables a suite that it does not name.

* `Aliases` are the two names of a suite of TLS 1.3;
* `canonicalName_cases` says all that `canonicalName` does, and `canonicalName_eq_iff` which names
  it makes one;
* `entryName?_eq_iff`: entries of cipher lists give the same name only if one is another spelling of
  the other.
-/

namespace RecordLayer.CipherSuite

open Text

/-- The names are `TLS_r` and `TLS13_r`, where `r` starts with a cipher of TLS 1.3. -/
def Aliases (cs ds : List Char) : Prop :=
  ∃ rest, (∃ cipher ∈ tls13Ciphers, cipher <+: rest) ∧ cs = commonStart ++ rest ∧
    ds = tls13Start ++ rest

/-! ### Aliases -/

section

variable {cs ds es : List Char}

theorem Aliases.left_unique (h : Aliases cs es) (h' : Aliases ds es) : cs = ds := by
  obtain ⟨rest, -, rfl, rfl⟩ := h
  obtain ⟨rest', -, rfl, hrest⟩ := h'
  rw [List.append_cancel_left hrest]

theorem Aliases.right_unique (h : Aliases cs ds) (h' : Aliases cs es) : ds = es := by
  obtain ⟨rest, -, rfl, rfl⟩ := h
  obtain ⟨rest', -, hrest, rfl⟩ := h'
  rw [List.append_cancel_left hrest]

/-- A name with the start of TLS 1.3 is not taken for one with the common start. -/
theorem Aliases.not_aliases (h : Aliases cs ds) : ¬Aliases ds es := by
  obtain ⟨rest, -, -, rfl⟩ := h
  rintro ⟨rest', -, hstart, -⟩
  simp [tls13Start, commonStart] at hstart

theorem Aliases.upper_right (h : Aliases (upper cs) ds) : upper ds = ds := by
  obtain ⟨rest, -, hcs, rfl⟩ := h
  have hupper := upper_upper cs
  rw [hcs, upper, List.map_append] at hupper
  rw [upper, List.map_append, List.append_cancel_left hupper]
  rfl

/-! ### Canonical names -/

theorem startsTls13Cipher_iff :
    startsTls13Cipher cs = true ↔ ∃ cipher ∈ tls13Ciphers, cipher <+: cs := by
  simp only [startsTls13Cipher, List.any_eq_true, List.isPrefixOf_iff_prefix]

/-- The start of a suite of TLS 1.3 is replaced. All other names are put into capital letters and
nothing else. -/
theorem canonicalName_cases (cs : List Char) :
    Aliases (upper cs) (canonicalName cs) ∨
      (∀ ds, ¬Aliases (upper cs) ds) ∧ canonicalName cs = upper cs := by
  simp only [canonicalName, Bool.and_eq_true, List.isPrefixOf_iff_prefix, startsTls13Cipher_iff]
  split
  · next h =>
    obtain ⟨⟨rest, hrest⟩, hcipher⟩ := h
    rw [← hrest, List.drop_left] at hcipher ⊢
    exact .inl ⟨rest, hcipher, rfl, rfl⟩
  · next h =>
    refine .inr ⟨?_, rfl⟩
    rintro ds ⟨rest, hcipher, hrest, -⟩
    rw [hrest, List.drop_left] at h
    exact h ⟨List.prefix_append _ _, hcipher⟩

theorem Aliases.canonicalName_eq (h : Aliases (upper cs) (upper ds)) :
    canonicalName cs = canonicalName ds := by
  have hcs : canonicalName cs = upper ds := by
    rcases canonicalName_cases cs with hcs | ⟨hnone, -⟩
    · exact hcs.right_unique h
    · exact absurd h (hnone _)
  rcases canonicalName_cases ds with hds | ⟨-, hds⟩
  · exact absurd hds h.not_aliases
  · rw [hcs, hds]

theorem canonicalName_eq_iff :
    canonicalName cs = canonicalName ds ↔
      upper cs = upper ds ∨ Aliases (upper cs) (upper ds) ∨ Aliases (upper ds) (upper cs) := by
  constructor
  · intro h
    rcases canonicalName_cases cs with hcs | ⟨-, hcs⟩ <;>
      rcases canonicalName_cases ds with hds | ⟨-, hds⟩
    · exact .inl (hcs.left_unique (h ▸ hds))
    · exact .inr (.inl (hds ▸ h ▸ hcs))
    · exact .inr (.inr (hcs ▸ h.symm ▸ hds))
    · exact .inl (hcs.symm.trans (h.trans hds))
  · rintro (h | h | h)
    · exact canonicalName_congr h
    · exact h.canonicalName_eq
    · exact h.canonicalName_eq.symm

theorem canonicalName_canonicalName (cs : List Char) :
    canonicalName (canonicalName cs) = canonicalName cs := by
  rw [canonicalName_eq_iff]
  rcases canonicalName_cases cs with h | ⟨-, h⟩
  · right
    right
    rwa [h.upper_right]
  · rw [h, upper_upper]
    exact .inl rfl

/-! ### Entries of cipher lists -/

theorem sameSpelling_upper (cs : List Char) : SameSpelling cs (upper cs) :=
  .rel _ _ (.case (upper_upper cs).symm)

theorem sameSpelling_trim (cs : List Char) : SameSpelling (trim cs) cs := by
  obtain ⟨front, back, hcs, hfront, hback⟩ := (trims_trim cs).around
  have h : Respelled (trim cs) (front ++ trim cs ++ back) := .blanks hfront hback (trim cs)
  rw [← hcs] at h
  exact .rel _ _ h

theorem Aliases.sameSpelling (h : Aliases cs ds) : SameSpelling cs ds := by
  obtain ⟨_, ⟨cipher, hcipher, rest, rfl⟩, rfl, rfl⟩ := h
  rw [← List.append_assoc, ← List.append_assoc]
  exact .rel _ _ (.start hcipher rest)

theorem sameSpelling_of_canonicalName (h : canonicalName cs = canonicalName ds) :
    SameSpelling cs ds := by
  have hcapitals : SameSpelling (upper cs) (upper ds) := by
    rcases canonicalName_eq_iff.mp h with h | h | h
    · rw [h]
      exact .refl _
    · exact h.sameSpelling
    · exact .symm _ _ h.sameSpelling
  exact .trans _ _ _ (sameSpelling_upper cs)
    (.trans _ _ _ hcapitals (.symm _ _ (sameSpelling_upper ds)))

theorem entryName?_eq_iff : entryName? cs = entryName? ds ↔ SameSpelling cs ds := by
  refine ⟨fun h => ?_, SameSpelling.entryName?_eq⟩
  have hcore : SameSpelling (trim cs) (trim ds) := by
    rw [entryName?, entryName?] at h
    split at h <;> split at h
    · next hcs hds =>
      rw [hcs, hds]
      exact .refl _
    · cases h
    · cases h
    · rw [Option.some.injEq, String.ofList_inj] at h
      exact sameSpelling_of_canonicalName h
  exact .trans _ _ _ (.symm _ _ (sameSpelling_trim cs)) (.trans _ _ _ hcore (sameSpelling_trim ds))

end

theorem entryName?_standard :
    ∀ suite ∈ standard, entryName? suite.name.toList = some suite.name := by
  decide

theorem requests_standard_iff {text : String} {entries : List (List Char)}
    (hentries : Entries text.toList entries) {suite : CipherSuite} (hsuite : suite ∈ standard) :
    Requests (some text) suite.name ↔ ∃ entry ∈ entries, SameSpelling entry suite.name.toList := by
  rw [requests_iff hentries]
  simp only [← entryName?_standard suite hsuite, entryName?_eq_iff]

/-- Canonical names are equal exactly if the names are equal in capital letters, or are two aliases
there; and a canonical name is its own. So a list requests a suite exactly if one of its entries is
a spelling of the name of that suite. -/
theorem canonicalName_merges :
    (∀ cs ds, canonicalName cs = canonicalName ds ↔
        upper cs = upper ds ∨ Aliases (upper cs) (upper ds) ∨ Aliases (upper ds) (upper cs)) ∧
      (∀ cs, canonicalName (canonicalName cs) = canonicalName cs) ∧
      ∀ text entries, Entries text.toList entries → ∀ suite ∈ standard,
        (Requests (some text) suite.name ↔
          ∃ entry ∈ entries, SameSpelling entry suite.name.toList) :=
  ⟨fun _ _ => canonicalName_eq_iff, canonicalName_canonicalName,
    fun _ _ hentries _ hsuite => requests_standard_iff hentries hsuite⟩

/-- A suite of TLS 1.3 in small letters, and one of TLS 1.2 whose name ends like that of another
suite of TLS 1.3. -/
theorem canonicalName_merges_alike :
    let entries := ["tls_aes_128_gcm_sha256".toList, "TLS_ECDHE_RSA_WITH_AES_256_GCM_SHA384".toList]
    (∃ entry ∈ entries, SameSpelling entry "TLS13_AES_128_GCM_SHA256".toList) ∧
      ¬∃ entry ∈ entries, SameSpelling entry "TLS13_AES_256_GCM_SHA384".toList := by
  intro entries
  have hentries : Entries
      "tls_aes_128_gcm_sha256,TLS_ECDHE_RSA_WITH_AES_256_GCM_SHA384".toList entries :=
    ⟨by decide, by decide, by decide⟩
  obtain ⟨-, -, hrequests⟩ := canonicalName_merges
  have haes128 := hrequests _ _ hentries
    ⟨"TLS13_AES_128_GCM_SHA256", 0x1301, .tls13, .any, .aesGcm, .sha256⟩ (by decide)
  have haes256 := hrequests _ _ hentries
    ⟨"TLS13_AES_256_GCM_SHA384", 0x1302, .tls13, .any, .aesGcm, .sha384⟩ (by decide)
  exact ⟨haes128.mp (by decide), mt haes256.mpr (by decide)⟩

end RecordLayer.CipherSuite
