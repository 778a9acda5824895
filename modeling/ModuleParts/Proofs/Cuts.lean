import Mathlib.Data.List.Basic
import ModuleParts.Text.Bytes

/-! # Cuts of a text

An offset is a cut of a text when some characters from its beginning take just that many bytes.
Between two cuts in their order stands exactly one part of the text, and a slice is that part;
between any other two offsets there is none. Behind another text the same slices are found again,
moved by its bytes.
-/
namespace ModuleParts.Text

/-- The offset is a boundary between two characters, or one of the two ends of the text. -/
def IsCut (text : List Char) (offset : Nat) : Prop :=
  ∃ before after, text = before ++ after ∧ byteLength before = offset

/-- What the text holds from one offset up to another. -/
def IsPart (text : List Char) (start stop : Nat) (part : List Char) : Prop :=
  ∃ before after, text = before ++ part ++ after ∧ byteLength before = start ∧
    byteLength (before ++ part) = stop

/-! ## Lengths -/

@[simp] theorem byteLength_append (first second : List Char) :
    byteLength (first ++ second) = byteLength first + byteLength second := by
  induction first with
  | nil => simp [byteLength]
  | cons c rest ih => simp only [List.cons_append, byteLength, ih, Nat.add_assoc]

theorem byteLength_pos {text : List Char} (h : text ≠ []) : 0 < byteLength text := by
  cases text with
  | nil => exact (h rfl).elim
  | cons c rest =>
    have := c.utf8Size_pos
    simp only [byteLength]
    omega

theorem eq_nil_of_byteLength_eq_zero {text : List Char} (h : byteLength text = 0) : text = [] := by
  by_contra hne
  have := byteLength_pos hne
  omega

theorem unitLength_append (first second : List Char) :
    unitLength (first ++ second) = unitLength first + unitLength second := by
  induction first with
  | nil => simp [unitLength]
  | cons c rest ih => simp only [List.cons_append, unitLength, ih, Nat.add_assoc]

theorem units_pos (c : Char) : 0 < units c := by
  unfold units
  split_ifs <;> omega

theorem unitLength_pos {text : List Char} (h : text ≠ []) : 0 < unitLength text := by
  cases text with
  | nil => exact (h rfl).elim
  | cons c rest =>
    have := units_pos c
    simp only [unitLength]
    omega

/-- A character with two units takes four bytes. -/
theorem units_le_utf8Size (c : Char) : units c ≤ c.utf8Size := by
  unfold units
  split_ifs with hsmall
  · exact c.utf8Size_pos
  · have hlarge : ¬ c.val ≤ 0x7f := by
      intro hle
      rw [UInt32.lt_iff_toNat_lt] at hsmall
      rw [UInt32.le_iff_toNat_le] at hle
      exact hsmall (Nat.lt_of_le_of_lt hle (by decide))
    change 2 ≤ ite (c.val ≤ 0x7f) 1 _
    rw [if_neg hlarge]
    split_ifs <;> omega

theorem unitLength_le_byteLength (text : List Char) : unitLength text ≤ byteLength text := by
  induction text with
  | nil => exact Nat.le_refl _
  | cons c rest ih =>
    have := units_le_utf8Size c
    simp only [unitLength, byteLength]
    omega

/-! ## Parts are read off -/

theorem dropBytes?_append (first second : List Char) (n : Nat) :
    dropBytes? (n + byteLength first) (first ++ second) = dropBytes? n second := by
  induction first with
  | nil => rfl
  | cons c rest ih =>
    have hpos := c.utf8Size_pos
    obtain ⟨m, hm⟩ : ∃ m, n + byteLength (c :: rest) = m + 1 :=
      Nat.exists_eq_add_one.mpr (by simp only [byteLength]; omega)
    have hfits : c.utf8Size ≤ m + 1 := by
      simp only [byteLength] at hm
      omega
    have hrest : m + 1 - c.utf8Size = n + byteLength rest := by
      simp only [byteLength] at hm
      omega
    rw [hm, List.cons_append, dropBytes?, if_pos hfits, hrest, ih]

theorem dropBytes?_eq_some_iff {n : Nat} {text rest : List Char} :
    dropBytes? n text = some rest ↔ ∃ before, text = before ++ rest ∧ byteLength before = n := by
  constructor
  · intro h
    fun_induction dropBytes? n text with
    | case1 text => exact ⟨[], by simpa using h, rfl⟩
    | case2 n => cases h
    | case3 n c text hfits ih =>
      obtain ⟨before, rfl, hlength⟩ := ih h
      refine ⟨c :: before, rfl, ?_⟩
      simp only [byteLength]
      omega
    | case4 n c text hcut => cases h
  · rintro ⟨before, rfl, rfl⟩
    have happend := dropBytes?_append before rest 0
    rw [Nat.zero_add] at happend
    rw [happend, dropBytes?]

theorem takeBytes?_eq_some_iff {n : Nat} {text part : List Char} :
    takeBytes? n text = some part ↔ ∃ after, text = part ++ after ∧ byteLength part = n := by
  fun_induction takeBytes? n text generalizing part with
  | case1 text =>
    constructor
    · intro h
      cases h
      exact ⟨text, rfl, rfl⟩
    · rintro ⟨after, rfl, hlength⟩
      rw [eq_nil_of_byteLength_eq_zero hlength]
  | case2 n =>
    constructor
    · nofun
    · rintro ⟨after, hnil, hlength⟩
      obtain ⟨rfl, -⟩ := List.append_eq_nil_iff.mp hnil.symm
      cases hlength
  | case3 n c text hfits ih =>
    rw [Option.map_eq_some_iff]
    constructor
    · rintro ⟨rest, hrest, rfl⟩
      obtain ⟨after, rfl, hlength⟩ := ih.mp hrest
      refine ⟨after, rfl, ?_⟩
      simp only [byteLength]
      omega
    · rintro ⟨after, htext, hlength⟩
      cases part with
      | nil => cases hlength
      | cons d rest =>
        obtain ⟨rfl, rfl⟩ := List.cons.inj htext
        refine ⟨rest, ih.mpr ⟨after, rfl, ?_⟩, rfl⟩
        simp only [byteLength] at hlength
        omega
  | case4 n c text hcut =>
    constructor
    · nofun
    · rintro ⟨after, htext, hlength⟩
      cases part with
      | nil => cases hlength
      | cons d rest =>
        obtain ⟨rfl, -⟩ := List.cons.inj htext
        simp only [byteLength] at hlength
        omega

theorem slice?_eq_some_iff {text part : List Char} {start stop : Nat} :
    slice? text start stop = some part ↔ IsPart text start stop part := by
  unfold slice? IsPart
  split_ifs with hle
  · simp only [Option.bind_eq_some_iff, dropBytes?_eq_some_iff, takeBytes?_eq_some_iff]
    constructor
    · rintro ⟨rest, ⟨before, rfl, rfl⟩, after, rfl, hlength⟩
      refine ⟨before, after, by rw [List.append_assoc], rfl, ?_⟩
      rw [byteLength_append]
      omega
    · rintro ⟨before, after, rfl, rfl, rfl⟩
      rw [byteLength_append]
      exact ⟨part ++ after, ⟨before, by rw [List.append_assoc], rfl⟩, after, rfl, by omega⟩
  · constructor
    · nofun
    · rintro ⟨before, after, -, rfl, rfl⟩
      rw [byteLength_append] at hle
      omega

/-! ## Cuts and parts -/

variable {text part : List Char} {start stop : Nat}

theorem isCut_iff_isSome_dropBytes? {offset : Nat} :
    IsCut text offset ↔ (dropBytes? offset text).isSome = true := by
  simp only [Option.isSome_iff_exists, dropBytes?_eq_some_iff]
  exact exists_comm

instance (text : List Char) (offset : Nat) : Decidable (IsCut text offset) :=
  decidable_of_iff _ isCut_iff_isSome_dropBytes?.symm

theorem isCut_zero (text : List Char) : IsCut text 0 := ⟨[], text, rfl, rfl⟩

theorem IsCut.le_byteLength {offset : Nat} (h : IsCut text offset) : offset ≤ byteLength text := by
  obtain ⟨before, after, rfl, rfl⟩ := h
  rw [byteLength_append]
  omega

theorem IsPart.isCut_stop (h : IsPart text start stop part) : IsCut text stop := by
  obtain ⟨before, after, rfl, -, hstop⟩ := h
  exact ⟨before ++ part, after, rfl, hstop⟩

theorem IsPart.byteLength_eq (h : IsPart text start stop part) : start + byteLength part = stop := by
  obtain ⟨before, after, -, rfl, rfl⟩ := h
  rw [byteLength_append]

theorem IsPart.unique {other : List Char} (h : IsPart text start stop part)
    (hother : IsPart text start stop other) : part = other := by
  rw [← slice?_eq_some_iff] at h hother
  rw [h] at hother
  exact Option.some.inj hother

/-- Parts that follow one another are one part. -/
theorem IsPart.append (h : IsPart text start stop part) {next : List Char} {last : Nat}
    (hnext : IsPart text stop last next) : IsPart text start last (part ++ next) := by
  obtain ⟨before, after, htext, rfl, hstop⟩ := h
  obtain ⟨before', after', htext', hstop', rfl⟩ := hnext
  have hafter : dropBytes? stop text = some after := dropBytes?_eq_some_iff.mpr ⟨_, htext, hstop⟩
  have hafter' : dropBytes? stop text = some (next ++ after') :=
    dropBytes?_eq_some_iff.mpr ⟨before', by rw [htext', List.append_assoc], hstop'⟩
  obtain rfl : after = next ++ after' := Option.some.inj (hafter.symm.trans hafter')
  refine ⟨before, after', by rw [htext]; simp only [List.append_assoc], rfl, ?_⟩
  rw [← List.append_assoc, byteLength_append, hstop, byteLength_append, hstop']

theorem exists_isPart (hstart : IsCut text start) (hstop : IsCut text stop) (hle : start ≤ stop) :
    ∃ part, IsPart text start stop part := by
  obtain ⟨before, after, rfl, rfl⟩ := hstart
  obtain ⟨before', after', htext, rfl⟩ := hstop
  rcases List.append_eq_append_iff.mp htext with ⟨part, rfl, rfl⟩ | ⟨part, rfl, rfl⟩
  · exact ⟨part, before, after', by rw [List.append_assoc], rfl, rfl⟩
  · -- the second cut comes first, so that nothing stands between them
    rw [byteLength_append] at hle ⊢
    have hnil : part = [] := eq_nil_of_byteLength_eq_zero (by omega)
    subst hnil
    exact ⟨[], before', after, by simp, by simp [byteLength], by simp⟩

/-! ## Cuts behind another text -/

theorem slice?_append (first second : List Char) (start stop : Nat) :
    slice? (first ++ second) (start + byteLength first) (stop + byteLength first) =
      slice? second start stop := by
  simp only [slice?, dropBytes?_append, Nat.add_le_add_iff_right, Nat.add_sub_add_right]

theorem slice_append (first second : List Char) (start stop : Nat) :
    slice (first ++ second) (start + byteLength first) (stop + byteLength first) =
      slice second start stop := by
  simp only [slice, slice?_append]

end ModuleParts.Text
