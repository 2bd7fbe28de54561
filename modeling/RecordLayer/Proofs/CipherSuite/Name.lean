import Mathlib.Logic.Relation
import RecordLayer.CipherSuite.Selection
import RecordLayer.Proofs.Text.Trim

/-!
# Names of cipher suites

One suite can be written in many ways: with blanks around the name, in any case, and for TLS 1.3
with either start. `Respelled` is one such change to an entry of a cipher list, and `SameSpelling`
any number of them in either direction. None changes the name that the entry gives.
-/

namespace RecordLayer.CipherSuite

open Text

/-- The name that an entry of a cipher list gives. A blank one gives none. -/
def entryName? (entry : List Char) : Option String :=
  if trim entry = [] then none else some (String.ofList (canonicalName (trim entry)))

/-- One change of the spelling. -/
inductive Respelled : List Char → List Char → Prop where
  | blanks {front back : List Char} (hfront : Blank front) (hback : Blank back) (cs : List Char) :
    Respelled cs (front ++ cs ++ back)
  | case {cs ds : List Char} (h : upper cs = upper ds) : Respelled cs ds
  | start {cipher : List Char} (h : cipher ∈ tls13Ciphers) (rest : List Char) :
    Respelled (commonStart ++ cipher ++ rest) (tls13Start ++ cipher ++ rest)

def SameSpelling : List Char → List Char → Prop :=
  Relation.EqvGen Respelled

theorem entryName?_eq_some_iff {entry : List Char} {name : String} :
    entryName? entry = some name ↔
      ∃ core, Trims entry core ∧ core ≠ [] ∧ name = String.ofList (canonicalName core) := by
  rw [entryName?]
  constructor
  · intro h
    split at h
    · cases h
    · next hne =>
      cases h
      exact ⟨_, trims_trim entry, hne, rfl⟩
  · rintro ⟨core, htrims, hne, rfl⟩
    rw [htrims.trim_eq, if_neg hne]

theorem entryName?_eq_none_iff {entry : List Char} : entryName? entry = none ↔ trim entry = [] := by
  simp only [entryName?, ite_eq_left_iff, reduceCtorEq, imp_false, not_not]

/-! ### Changes that make no difference -/

theorem canonicalName_congr {cs ds : List Char} (h : upper cs = upper ds) :
    canonicalName cs = canonicalName ds := by
  rw [canonicalName, canonicalName, h]

theorem canonicalName_start {cipher : List Char} (h : cipher ∈ tls13Ciphers) (rest : List Char) :
    canonicalName (commonStart ++ cipher ++ rest) =
      canonicalName (tls13Start ++ cipher ++ rest) := by
  rcases List.mem_pair.mp h with rfl | rfl <;> rfl

theorem entryName?_of_trim {cs ds : List Char} (h : trim cs = trim ds) :
    entryName? cs = entryName? ds := by
  rw [entryName?, entryName?, h]

theorem entryName?_of_upper {cs ds : List Char} (h : upper cs = upper ds) :
    entryName? cs = entryName? ds := by
  have hupper : upper (trim cs) = upper (trim ds) := by
    rw [← trim_upper, ← trim_upper, h]
  have hnil : trim cs = [] ↔ trim ds = [] := by
    rw [← upper_eq_nil_iff, hupper, upper_eq_nil_iff]
  rw [entryName?, entryName?, canonicalName_congr hupper]
  simp only [hnil]

theorem entryName?_start {cipher : List Char} (h : cipher ∈ tls13Ciphers) (rest : List Char) :
    entryName? (commonStart ++ cipher ++ rest) = entryName? (tls13Start ++ cipher ++ rest) := by
  have htrim : ∀ start ∈ [commonStart, tls13Start],
      trim (start ++ cipher ++ rest) = start ++ cipher ++ rest.rdropWhile isBlank := by
    intro start hstart
    rcases List.mem_pair.mp h with rfl | rfl <;> rcases List.mem_pair.mp hstart with rfl | rfl <;>
      exact trim_append (by decide) (by rintro c ⟨⟩; rfl) (by rintro c ⟨⟩; rfl) rest
  rw [entryName?, entryName?, htrim _ (by simp), htrim _ (by simp), canonicalName_start h,
    if_neg (by simp [commonStart]), if_neg (by simp [tls13Start])]

theorem Respelled.entryName?_eq {cs ds : List Char} (h : Respelled cs ds) :
    entryName? cs = entryName? ds := by
  cases h with
  | blanks hfront hback => exact entryName?_of_trim (trim_around hfront hback cs).symm
  | case h => exact entryName?_of_upper h
  | start h rest => exact entryName?_start h rest

theorem SameSpelling.entryName?_eq {cs ds : List Char} (h : SameSpelling cs ds) :
    entryName? cs = entryName? ds := by
  induction h with
  | rel cs ds h => exact h.entryName?_eq
  | refl cs => rfl
  | symm cs ds _ ih => exact ih.symm
  | trans cs ds es _ _ ih ih' => exact ih.trans ih'

end RecordLayer.CipherSuite
