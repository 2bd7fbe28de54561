import Mathlib.Data.List.DropRight
import RecordLayer.Text.Blank

/-!
# What trimming leaves

Trimming gives the one stretch of a text that has only blanks around it and none at its ends. So
blanks around a text make no difference, and neither does the case of its letters.
-/

namespace RecordLayer.Text

/-- There is nothing but blanks. -/
def Blank (cs : List Char) : Prop :=
  ∀ c ∈ cs, isBlank c = true

instance (cs : List Char) : Decidable (Blank cs) :=
  decidable_of_iff (cs.all isBlank = true) List.all_eq_true

/-- What is left of `cs` without the blanks around it. -/
structure Trims (cs core : List Char) : Prop where
  around : ∃ front back, cs = front ++ core ++ back ∧ Blank front ∧ Blank back
  head : ∀ c ∈ core.head?, isBlank c = false
  last : ∀ c ∈ core.getLast?, isBlank c = false

/-! ### Blanks at the end -/

theorem rdropWhile_append_blank (cs : List Char) {back : List Char} (h : Blank back) :
    (cs ++ back).rdropWhile isBlank = cs.rdropWhile isBlank := by
  induction back using List.reverseRecOn with
  | nil => rw [List.append_nil]
  | append_singleton front c ih =>
    rw [← List.append_assoc, List.rdropWhile_concat_pos _ _ _ (h c (by simp))]
    exact ih fun d hd => h d (List.mem_append_left _ hd)

theorem rdropWhile_eq_self {cs : List Char} (h : ∀ c ∈ cs.getLast?, isBlank c = false) :
    cs.rdropWhile isBlank = cs := by
  rw [List.rdropWhile_eq_self_iff]
  intro hne
  rw [h _ (List.getLast?_eq_some_getLast hne)]
  exact Bool.false_ne_true

/-- Behind a letter nothing but the rest is trimmed. -/
theorem rdropWhile_append {front : List Char} (h : ∀ c ∈ front.getLast?, isBlank c = false)
    (back : List Char) :
    (front ++ back).rdropWhile isBlank = front ++ back.rdropWhile isBlank := by
  induction back using List.reverseRecOn with
  | nil => rw [List.rdropWhile_nil, List.append_nil, rdropWhile_eq_self h]
  | append_singleton cs c ih =>
    rw [← List.append_assoc, List.rdropWhile_concat, List.rdropWhile_concat, ih]
    split
    · rfl
    · rw [List.append_assoc]

/-! ### Blanks at both ends -/

theorem trim_eq (cs : List Char) : trim cs = (cs.dropWhile isBlank).rdropWhile isBlank := rfl

theorem dropWhile_eq_self {cs : List Char} (h : ∀ c ∈ cs.head?, isBlank c = false) :
    cs.dropWhile isBlank = cs := by
  cases cs with
  | nil => rfl
  | cons c cs => exact List.dropWhile_cons_of_neg (by rw [h c rfl]; exact Bool.false_ne_true)

theorem trim_append {front : List Char} (hne : front ≠ [])
    (hhead : ∀ c ∈ front.head?, isBlank c = false) (hlast : ∀ c ∈ front.getLast?, isBlank c = false)
    (back : List Char) : trim (front ++ back) = front ++ back.rdropWhile isBlank := by
  have hstart : ∀ c ∈ (front ++ back).head?, isBlank c = false := by
    rwa [List.head?_append_of_ne_nil _ hne]
  rw [trim_eq, dropWhile_eq_self hstart, rdropWhile_append hlast]

theorem trim_eq_self {cs : List Char} (hhead : ∀ c ∈ cs.head?, isBlank c = false)
    (hlast : ∀ c ∈ cs.getLast?, isBlank c = false) : trim cs = cs := by
  rw [trim_eq, dropWhile_eq_self hhead, rdropWhile_eq_self hlast]

theorem trim_append_blank (cs : List Char) {back : List Char} (h : Blank back) :
    trim (cs ++ back) = trim cs := by
  rw [trim_eq, trim_eq, List.dropWhile_append]
  split
  · next hempty => rw [List.dropWhile_eq_nil_iff.mpr h, List.isEmpty_iff.mp hempty]
  · exact rdropWhile_append_blank _ h

theorem trim_blank_append {front : List Char} (h : Blank front) (cs : List Char) :
    trim (front ++ cs) = trim cs := by
  rw [trim_eq, List.dropWhile_append_of_pos h, trim_eq]

theorem trim_around {front back : List Char} (hfront : Blank front) (hback : Blank back)
    (cs : List Char) : trim (front ++ cs ++ back) = trim cs := by
  rw [trim_append_blank _ hback, trim_blank_append hfront]

theorem Trims.trim_eq {cs core : List Char} (h : Trims cs core) : trim cs = core := by
  obtain ⟨front, back, rfl, hfront, hback⟩ := h.around
  rw [trim_around hfront hback, trim_eq_self h.head h.last]

theorem trims_trim (cs : List Char) : Trims cs (trim cs) where
  around := by
    refine ⟨cs.takeWhile isBlank, (cs.dropWhile isBlank).rtakeWhile isBlank, ?_, ?_, ?_⟩
    · rw [trim_eq, List.append_assoc, List.rdropWhile_append_rtakeWhile,
        List.takeWhile_append_dropWhile]
    · exact fun c hc => List.mem_takeWhile_imp hc
    · exact fun c hc => List.mem_rtakeWhile_imp hc
  head := by
    intro c hc
    -- what is left starts where dropping from the front has stopped
    obtain ⟨rest, hrest⟩ := List.rdropWhile_prefix isBlank (cs.dropWhile isBlank)
    have hhead : (cs.dropWhile isBlank).head? = some c := by
      rw [← hrest, List.head?_append, ← trim_eq, hc, Option.some_or]
    have hnot := List.head?_dropWhile_not isBlank cs
    rwa [hhead] at hnot
  last := by
    intro c hc
    have hne : trim cs ≠ [] := by
      rintro hnil
      rw [hnil] at hc
      cases hc
    rw [List.getLast?_eq_some_getLast hne] at hc
    cases hc
    exact Bool.eq_false_iff.mpr (List.rdropWhile_last_not isBlank _ hne)

theorem trim_eq_iff {cs core : List Char} : trim cs = core ↔ Trims cs core :=
  ⟨fun h => h ▸ trims_trim cs, Trims.trim_eq⟩

/-! ### The case of letters -/

theorem isBlank_eq_false {c : Char} (hlow : 'A'.toNat ≤ c.toNat) (hhigh : c.toNat ≤ 'z'.toNat) :
    isBlank c = false := by
  have hlow' : 65 ≤ c.toNat := hlow
  have hhigh' : c.toNat ≤ 122 := hhigh
  simp only [isBlank, blankRanges, List.any_cons, List.any_nil, Bool.or_false, Bool.or_eq_false_iff,
    Bool.and_eq_false_iff, decide_eq_false_iff_not]
  omega

theorem toUpper_cases (c : Char) :
    c.toUpper = c ∨ 97 ≤ c.toNat ∧ c.toNat ≤ 122 ∧ c.toUpper.toNat + 32 = c.toNat := by
  by_cases hsmall : 'a'.val ≤ c.val ∧ c.val ≤ 'z'.val
  · have hlow : 97 ≤ c.val.toNat := UInt32.le_iff_toNat_le.mp hsmall.1
    have hhigh : c.val.toNat ≤ 122 := UInt32.le_iff_toNat_le.mp hsmall.2
    have hval : c.toUpper.val = c.val + ('A'.val - 'a'.val) := by
      unfold Char.toUpper
      rw [dif_pos hsmall]
    have hdiff : ('A'.val - 'a'.val).toNat = 2 ^ 32 - 32 := rfl
    refine .inr ⟨hlow, hhigh, ?_⟩
    show c.toUpper.val.toNat + 32 = c.val.toNat
    rw [hval, UInt32.toNat_add, hdiff]
    omega
  · refine .inl ?_
    unfold Char.toUpper
    rw [dif_neg hsmall]

theorem isBlank_toUpper (c : Char) : isBlank c.toUpper = isBlank c := by
  rcases toUpper_cases c with hsame | ⟨hlow, hhigh, hcapital⟩
  · rw [hsame]
  · have hlow' : 65 ≤ c.toUpper.toNat := by omega
    have hhigh' : c.toUpper.toNat ≤ 122 := by omega
    rw [isBlank_eq_false (Nat.le_trans (by decide) hlow) hhigh, isBlank_eq_false hlow' hhigh']

theorem toUpper_toUpper (c : Char) : c.toUpper.toUpper = c.toUpper := by
  rcases toUpper_cases c.toUpper with hsame | ⟨hlow, -, -⟩
  · exact hsame
  · -- a capital letter is not a small one
    rcases toUpper_cases c with hsame | ⟨-, hhigh, hcapital⟩
    · rw [hsame, hsame]
    · omega

theorem upper_eq_nil_iff {cs : List Char} : upper cs = [] ↔ cs = [] :=
  List.map_eq_nil_iff

theorem upper_upper (cs : List Char) : upper (upper cs) = upper cs := by
  rw [upper, upper, List.map_map]
  exact List.map_congr_left fun c _ => toUpper_toUpper c

theorem trim_upper (cs : List Char) : trim (upper cs) = upper (trim cs) := by
  have hsame : isBlank ∘ Char.toUpper = isBlank := funext isBlank_toUpper
  simp only [trim, upper, List.dropWhile_map, ← List.map_reverse, hsame]

end RecordLayer.Text
