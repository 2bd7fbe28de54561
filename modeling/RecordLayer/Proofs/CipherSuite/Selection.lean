import RecordLayer.Proofs.CipherSuite.Name

/-!
# What a cipher list selects

A list is its entries with commas between them. It requests the canonical names of those that are
not blank, and selects the available suites with such a name, in the order of the backend.

* `Entries` and `Requests` say this without splitting or trimming, and `mem_requested_iff` ties them
  to the names that `select` works with;
* `Selection` is what a list has to select, and `selection_select` shows that it does;
* `Selection.agree` and `Selection.grows` are what follows if another list requests the same names,
  or more of them;
* `Covers` says that each entry of a list stands in the other one too, maybe spelled otherwise.
-/

namespace RecordLayer.CipherSuite

open Text

/-! ### The entries of a list -/

/-- The text is the entries with a comma between each and the next. -/
structure Entries (text : List Char) (entries : List (List Char)) : Prop where
  nonempty : entries ≠ []
  plain : ∀ entry ∈ entries, ',' ∉ entry
  joined : [','].intercalate entries = text

theorem not_mem_of_mem_splitOn {sep : Char} {cs entry : List Char} (h : entry ∈ cs.splitOn sep) :
    sep ∉ entry := by
  induction cs generalizing entry with
  | nil =>
    rw [List.splitOn_nil, List.mem_singleton] at h
    subst h
    exact List.not_mem_nil
  | cons c cs ih =>
    rw [List.splitOn_cons_eq_if_modifyHead] at h
    split at h
    · rcases List.mem_cons.mp h with rfl | hrest
      · exact List.not_mem_nil
      · exact ih hrest
    · next hc =>
      -- only the first piece has become longer, by a character that is no separator
      cases hsplit : cs.splitOn sep with
      | nil => exact absurd hsplit (List.splitOn_ne_nil sep cs)
      | cons first rest =>
        rw [hsplit, List.modifyHead_cons] at h
        rw [hsplit] at ih
        rcases List.mem_cons.mp h with rfl | hrest
        · intro hmem
          rcases List.mem_cons.mp hmem with rfl | hfirst
          · exact hc (beq_self_eq_true _)
          · exact ih List.mem_cons_self hfirst
        · exact ih (List.mem_cons_of_mem _ hrest)

theorem entries_splitOn (text : List Char) : Entries text (text.splitOn ',') where
  nonempty := List.splitOn_ne_nil ',' text
  plain := fun _ => not_mem_of_mem_splitOn
  joined := List.intercalate_splitOn ','

/-- A text has its entries in one way only. -/
theorem Entries.eq_splitOn {text : List Char} {entries : List (List Char)}
    (h : Entries text entries) : entries = text.splitOn ',' := by
  rw [← h.joined, List.splitOn_intercalate ',' h.plain h.nonempty]

/-! ### The names that are requested -/

/-- The name is the canonical name of an entry that is not blank. -/
def Requests (list : Option String) (name : String) : Prop :=
  ∃ text ∈ list, ∃ entries, Entries text.toList entries ∧ ∃ entry ∈ entries, ∃ core,
    Trims entry core ∧ core ≠ [] ∧ name = String.ofList (canonicalName core)

theorem requested_none : requested none = [] := rfl

theorem requested_some (text : String) :
    requested (some text) = (text.toList.splitOn ',').filterMap entryName? := by
  rw [requested, List.filterMap_map]
  congr 1
  funext entry
  simp only [Function.comp_apply, entryName?, List.isEmpty_iff]

theorem requests_iff {text : String} {entries : List (List Char)} (h : Entries text.toList entries)
    (name : String) :
    Requests (some text) name ↔ ∃ entry ∈ entries, entryName? entry = some name := by
  simp only [entryName?_eq_some_iff]
  constructor
  · rintro ⟨_, ⟨⟩, others, hothers, hname⟩
    rwa [h.eq_splitOn, ← hothers.eq_splitOn]
  · intro hname
    exact ⟨text, rfl, entries, h, hname⟩

theorem mem_requested_iff {list : Option String} {name : String} :
    name ∈ requested list ↔ Requests list name := by
  cases list with
  | none =>
    rw [requested_none]
    exact ⟨fun h => absurd h List.not_mem_nil, fun ⟨_, h, _⟩ => by cases h⟩
  | some text => rw [requested_some, List.mem_filterMap, requests_iff (entries_splitOn _)]

instance (list : Option String) (name : String) : Decidable (Requests list name) :=
  decidable_of_iff _ mem_requested_iff

theorem requested_eq_nil_iff {list : Option String} :
    requested list = [] ↔ ∀ name, ¬Requests list name := by
  simp only [List.eq_nil_iff_forall_not_mem, mem_requested_iff]

/-! ### What is selected -/

/-- What a list is to select of the available suites. -/
structure Selection (list : Option String) (available : List CipherSuite)
    (result : Except Error (List CipherSuite)) : Prop where
  all : (∀ name, ¬Requests list name) → result = .ok available
  named : ∀ name, Requests list name →
    available.filter (fun suite => Requests list suite.name) ≠ [] →
      result = .ok (available.filter fun suite => Requests list suite.name)
  fails : (∃ fault, result = .error (.config fault)) ↔
    (∃ name, Requests list name) ∧ available.filter (fun suite => Requests list suite.name) = []

/-- Both have selected the same, or neither has selected anything. -/
def Agree (result result' : Except Error (List CipherSuite)) : Prop :=
  (∃ selected, result = .ok selected ∧ result' = .ok selected) ∨
    ((∃ fault, result = .error (.config fault)) ∧ ∃ fault, result' = .error (.config fault))

theorem result_select_of_named {list : Option String} (h : requested list ≠ [])
    (available : List CipherSuite) :
    (select list available).result =
      if available.filter (fun suite => Requests list suite.name) = [] then
        .error (.config (.noUsableCipherSuite (requested list)))
      else .ok (available.filter fun suite => Requests list suite.name) := by
  have hfilter : (available.filter fun suite => (requested list).contains suite.name) =
      available.filter fun suite => Requests list suite.name := by
    congr 1
    funext suite
    rw [List.contains_eq_mem]
    exact decide_eq_decide.mpr mem_requested_iff
  simp only [select, List.isEmpty_iff, if_neg h, Noted.result_after, hfilter]
  split <;> rfl

theorem result_select_of_unnamed {list : Option String} (h : requested list = [])
    (available : List CipherSuite) : (select list available).result = .ok available := by
  simp only [select, List.isEmpty_iff, if_pos h]
  rfl

theorem selection_select (list : Option String) (available : List CipherSuite) :
    Selection list available (select list available).result := by
  by_cases hnil : requested list = []
  · have hunnamed := requested_eq_nil_iff.mp hnil
    rw [result_select_of_unnamed hnil]
    refine ⟨fun _ => rfl, fun name hname => absurd hname (hunnamed name), ?_, ?_⟩
    · rintro ⟨_, ⟨⟩⟩
    · rintro ⟨⟨name, hname⟩, -⟩
      exact absurd hname (hunnamed name)
  · have hnamed : ∃ name, Requests list name := by
      rw [requested_eq_nil_iff] at hnil
      exact not_forall_not.mp hnil
    rw [result_select_of_named hnil]
    refine ⟨fun hunnamed => ?_, fun name _ hsome => if_neg hsome, ?_, ?_⟩
    · obtain ⟨name, hname⟩ := hnamed
      exact absurd hname (hunnamed name)
    · rintro ⟨fault, hfault⟩
      split at hfault
      · next hempty => exact ⟨hnamed, hempty⟩
      · cases hfault
    · rintro ⟨-, hempty⟩
      exact ⟨_, if_pos hempty⟩

/-! ### Two lists -/

section

variable {list list' : Option String} {available : List CipherSuite}
  {result result' : Except Error (List CipherSuite)}

/-- A list with the same names selects the same. -/
theorem Selection.agree (h : Selection list available result)
    (h' : Selection list' available result')
    (hnames : ∀ name, Requests list name ↔ Requests list' name) : Agree result result' := by
  have hfilter : (available.filter fun suite => Requests list' suite.name) =
      available.filter fun suite => Requests list suite.name := by
    simp only [hnames]
  by_cases hnamed : ∃ name, Requests list name
  · obtain ⟨name, hname⟩ := hnamed
    by_cases hempty : (available.filter fun suite => Requests list suite.name) = []
    · exact .inr ⟨h.fails.mpr ⟨⟨name, hname⟩, hempty⟩,
        h'.fails.mpr ⟨⟨name, (hnames name).mp hname⟩, hfilter.trans hempty⟩⟩
    · refine .inl ⟨_, h.named name hname hempty, ?_⟩
      rw [h'.named name ((hnames name).mp hname) (by rwa [hfilter]), hfilter]
  · have hunnamed : ∀ name, ¬Requests list name := not_exists.mp hnamed
    exact .inl ⟨available, h.all hunnamed,
      h'.all fun name hname => hunnamed name ((hnames name).mpr hname)⟩

/-- A list with more names selects no less, if the first one has a name. -/
theorem Selection.grows (h : Selection list available result)
    (h' : Selection list' available result') {name : String} (hname : Requests list name)
    (hmore : ∀ name, Requests list name → Requests list' name) {selected : List CipherSuite}
    (hselected : result = .ok selected) :
    ∃ selected', result' = .ok selected' ∧ selected.Sublist selected' := by
  have hempty : (available.filter fun suite => Requests list suite.name) ≠ [] := by
    intro hempty
    obtain ⟨fault, hfault⟩ := h.fails.mpr ⟨⟨name, hname⟩, hempty⟩
    rw [hselected] at hfault
    cases hfault
  have hsub : (available.filter fun suite => Requests list suite.name).Sublist
      (available.filter fun suite => Requests list' suite.name) :=
    List.monotone_filter_right available fun suite hsuite =>
      decide_eq_true (hmore suite.name (of_decide_eq_true hsuite))
  have hmine := h.named name hname hempty
  rw [hselected, Except.ok.injEq] at hmine
  refine ⟨_, h'.named name (hmore name hname) fun hnil => hempty ?_, hmine ▸ hsub⟩
  rw [hnil] at hsub
  exact List.sublist_nil.mp hsub

end

/-- One more entry, wherever it stands, takes no name away. -/
theorem requests_added {text text' : String} {front back : List (List Char)} {added : List Char}
    (h : Entries text.toList (front ++ back)) (h' : Entries text'.toList (front ++ added :: back))
    {name : String} (hname : Requests (some text) name) : Requests (some text') name := by
  rw [requests_iff h] at hname
  rw [requests_iff h']
  obtain ⟨entry, hentry, hname⟩ := hname
  refine ⟨entry, ?_, hname⟩
  rw [List.mem_append] at hentry ⊢
  exact hentry.imp_right (List.mem_cons_of_mem _)

/-! ### Other spellings -/

/-- Each entry that is not blank stands in the other list too, maybe spelled otherwise. -/
def Covers (entries entries' : List (List Char)) : Prop :=
  ∀ entry ∈ entries, trim entry ≠ [] → ∃ entry' ∈ entries', SameSpelling entry entry'

theorem Covers.requests {text text' : String} {entries entries' : List (List Char)}
    (h : Covers entries entries') (hentries : Entries text.toList entries)
    (hentries' : Entries text'.toList entries') {name : String}
    (hname : Requests (some text) name) : Requests (some text') name := by
  rw [requests_iff hentries] at hname
  rw [requests_iff hentries']
  obtain ⟨entry, hentry, hname⟩ := hname
  have hne : trim entry ≠ [] := by
    intro hblank
    rw [entryName?_eq_none_iff.mpr hblank] at hname
    cases hname
  obtain ⟨entry', hentry', hsame⟩ := h entry hentry hne
  exact ⟨entry', hentry', hsame.entryName?_eq ▸ hname⟩

/-- A list selects the suites that it names, in the order of the backend; all of them if it names
none, and it is an error to name only others. So nothing but the set of names matters, neither their
order nor how often or how they are spelled, and one more entry removes no suite. -/
theorem select_by_names (available : List CipherSuite) :
    (∀ list, Selection list available (select list available).result) ∧
      (∀ list list', (∀ name, Requests list name ↔ Requests list' name) →
        Agree (select list available).result (select list' available).result) ∧
      (∀ text text' entries entries', Entries text.toList entries → Entries text'.toList entries' →
        Covers entries entries' → Covers entries' entries →
          Agree (select (some text) available).result (select (some text') available).result) ∧
      ∀ text text' front back added selected, Entries text.toList (front ++ back) →
        Entries text'.toList (front ++ added :: back) → (∃ name, Requests (some text) name) →
          (select (some text) available).result = .ok selected →
            ∃ selected', (select (some text') available).result = .ok selected' ∧
              selected.Sublist selected' := by
  refine ⟨fun list => selection_select list available, ?_, ?_, ?_⟩
  · intro list list' hnames
    exact (selection_select list available).agree (selection_select list' available) hnames
  · intro text text' entries entries' hentries hentries' hcovers hcovers'
    refine (selection_select _ available).agree (selection_select _ available) fun name => ?_
    exact ⟨hcovers.requests hentries hentries', hcovers'.requests hentries' hentries⟩
  · intro text text' front back added selected hentries hentries' ⟨name, hname⟩ hselected
    exact (selection_select _ available).grows (selection_select _ available) hname
      (fun _ => requests_added hentries hentries') hselected

/-- The same two names in other spellings and another order, a list of blanks, and a list to which a
name is added. -/
theorem select_by_names_respelled :
    Agree (select (some " tls_aes_128_gcm_sha256 ,,RC4-MD5") standard).result
        (select (some "rc4-md5,TLS13_AES_128_GCM_SHA256,RC4-MD5") standard).result ∧
      Agree (select none standard).result (select (some " , ") standard).result ∧
      ∃ selected, (select (some "RC4-MD5, TLS_CHACHA20_POLY1305_SHA256,tls_aes_128_gcm_sha256")
          standard).result = .ok selected ∧
        [⟨"TLS13_AES_128_GCM_SHA256", 0x1301, .tls13, .any, .aesGcm, .sha256⟩].Sublist selected := by
  obtain ⟨-, hsame, hspelled, hadded⟩ := select_by_names standard
  have hrc4 : SameSpelling "RC4-MD5".toList "rc4-md5".toList := .rel _ _ (.case (by decide))
  have haes : SameSpelling " tls_aes_128_gcm_sha256 ".toList
      "TLS13_AES_128_GCM_SHA256".toList := by
    have hblank : Blank [' '] := by decide
    have hblanks : SameSpelling "tls_aes_128_gcm_sha256".toList
        " tls_aes_128_gcm_sha256 ".toList := .rel _ _ (.blanks hblank hblank _)
    have hcase : SameSpelling "tls_aes_128_gcm_sha256".toList "TLS_AES_128_GCM_SHA256".toList :=
      .rel _ _ (.case (by decide))
    have hcipher : ['A', 'E', 'S', '_'] ∈ tls13Ciphers := by decide
    have hstart : SameSpelling "TLS_AES_128_GCM_SHA256".toList "TLS13_AES_128_GCM_SHA256".toList :=
      .rel _ _ (.start hcipher "128_GCM_SHA256".toList)
    exact .trans _ _ _ (.symm _ _ hblanks) (.trans _ _ _ hcase hstart)
  refine ⟨?_, ?_, ?_⟩
  · refine hspelled _ _ [" tls_aes_128_gcm_sha256 ".toList, [], "RC4-MD5".toList]
      ["rc4-md5".toList, "TLS13_AES_128_GCM_SHA256".toList, "RC4-MD5".toList]
      ⟨by decide, by decide, by decide⟩ ⟨by decide, by decide, by decide⟩ ?_ ?_
    · intro entry hentry hne
      simp only [List.mem_cons, List.not_mem_nil, or_false] at hentry
      rcases hentry with rfl | rfl | rfl
      · exact ⟨_, by simp, haes⟩
      · exact absurd rfl hne
      · exact ⟨_, by simp, hrc4⟩
    · intro entry hentry _
      simp only [List.mem_cons, List.not_mem_nil, or_false] at hentry
      rcases hentry with rfl | rfl | rfl
      · exact ⟨"RC4-MD5".toList, by simp, .symm _ _ hrc4⟩
      · exact ⟨_, by simp, .symm _ _ haes⟩
      · exact ⟨"RC4-MD5".toList, by simp, .refl _⟩
  · have hnone : requested (some " , ") = [] := by decide
    refine hsame none (some " , ") fun name => ?_
    rw [← mem_requested_iff, ← mem_requested_iff, requested_none, hnone]
  · exact hadded "RC4-MD5,tls_aes_128_gcm_sha256" _ ["RC4-MD5".toList]
      ["tls_aes_128_gcm_sha256".toList] " TLS_CHACHA20_POLY1305_SHA256".toList _
      ⟨by decide, by decide, by decide⟩ ⟨by decide, by decide, by decide⟩
      ⟨"RC4-MD5", mem_requested_iff.mp (by decide)⟩ (by decide)

end RecordLayer.CipherSuite
