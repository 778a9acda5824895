import Mathlib.Data.Prod.Lex
import Mathlib.Order.Monotone.Basic
import ModuleParts.Layout
import ModuleParts.Proofs.Lines

/-! # Positions of offsets

The position of an offset is read off one pass over the text: its line is the number of line breaks
that end before the offset, its column the distance from the last of them. The distance is counted in
UTF-16 units where the text can be cut at the offset, and in bytes elsewhere. As no character has more
units than bytes, positions grow with their offsets, past the end of the text too; only offsets inside a
character can share a position with others.

Lines and columns have 32 bits. Offsets of 32 bits keep every column in range and leave one line that is
out of range: the one after 4294967295 line breaks, which only the largest offset can reach. Its number
is 0, and there the order of positions breaks off.
-/
namespace ModuleParts

namespace Text

/-! ## Line breaks -/

/-- Where the line breaks of a text stand that begins at `offset`. A carriage return and the line feed
after it are one break. -/
def breaks (offset : Nat) : List Char → List Span
  | [] => []
  | '\r' :: '\n' :: text => ⟨offset, offset + 2⟩ :: breaks (offset + 2) text
  | c :: text =>
    if c ∈ lineEnds then ⟨offset, offset + c.utf8Size⟩ :: breaks (offset + c.utf8Size) text
    else breaks (offset + c.utf8Size) text

/-- The line breaks whose last byte stands before the offset. -/
def breaksBefore (text : List Char) (offset : Nat) : List Span :=
  (breaks 0 text).filter fun lineBreak => lineBreak.stop ≤ offset

/-- The end of the last line break before the offset, or the start of the text. -/
def lineStart (text : List Char) (offset : Nat) : Nat :=
  ((breaksBefore text offset).getLast?.map Span.stop).getD 0

/-- Lines start where line breaks end. -/
theorem laterLineStarts_eq_breaks (offset : Nat) (text : List Char) :
    laterLineStarts offset text = (breaks offset text).map Span.stop := by
  fun_induction breaks offset text with
  | case1 => rfl
  | case2 offset text ih =>
    have hnext : offset + '\r'.utf8Size + '\n'.utf8Size = offset + 2 := rfl
    simp [laterLineStarts, isLineEnd, hnext, ih]
  | case3 offset c text hpair hends ih =>
    simp [laterLineStarts, not_pair hpair, isLineEnd_iff.mpr hends, ih]
  | case4 offset c text hpair hends ih =>
    have hnot : isLineEnd c = false := by simpa using mt isLineEnd_iff.mp hends
    simp [laterLineStarts, hnot, ih]

theorem length_breaks_le (offset : Nat) (text : List Char) :
    (breaks offset text).length ≤ byteLength text := by
  fun_induction breaks offset text with
  | case1 => exact Nat.le_refl _
  | case2 offset text ih =>
    have hpair : '\r'.utf8Size + '\n'.utf8Size = 2 := rfl
    simp only [List.length_cons, byteLength]
    omega
  | case3 offset c text hpair hends ih =>
    have := c.utf8Size_pos
    simp only [List.length_cons, byteLength]
    omega
  | case4 offset c text hpair hends ih =>
    simp only [byteLength]
    omega

theorem lineBreaks_le_byteLength (text : List Char) : lineBreaks text ≤ byteLength text := by
  rw [← length_laterLineStarts 0, laterLineStarts_eq_breaks, List.length_map]
  exact length_breaks_le 0 text

/-- Every line break takes a byte of its own. -/
theorem length_filter_breaks_le (offset bound : Nat) (text : List Char) :
    ((breaks offset text).filter fun lineBreak => lineBreak.stop ≤ bound).length ≤ bound - offset := by
  fun_induction breaks offset text with
  | case1 => exact Nat.zero_le _
  | case2 offset text ih =>
    rw [List.filter_cons]
    split_ifs with hstop
    · have hstop : offset + 2 ≤ bound := by simpa using hstop
      rw [List.length_cons]
      omega
    · omega
  | case3 offset c text hpair hends ih =>
    have hpos := c.utf8Size_pos
    rw [List.filter_cons]
    split_ifs with hstop
    · have hstop : offset + c.utf8Size ≤ bound := by simpa using hstop
      rw [List.length_cons]
      omega
    · omega
  | case4 offset c text hpair hends ih => omega

theorem length_breaksBefore_le (text : List Char) (offset : Nat) :
    (breaksBefore text offset).length ≤ offset :=
  length_filter_breaks_le 0 offset text

theorem length_breaksBefore_le_byteLength (text : List Char) (offset : Nat) :
    (breaksBefore text offset).length ≤ byteLength text :=
  Nat.le_trans (List.length_filter_le _ _) (length_breaks_le 0 text)

theorem filter_lineStarts (text : List Char) (offset : Nat) :
    (lineStarts text).filter (· ≤ offset) = 0 :: (breaksBefore text offset).map Span.stop := by
  rw [lineStarts, laterLineStarts_eq_breaks, List.filter_cons_of_pos (by simp), List.filter_map]
  rfl

theorem getLast?_filter_lineStarts (text : List Char) (offset : Nat) :
    ((lineStarts text).filter (· ≤ offset)).getLast? = some (lineStart text offset) := by
  rw [filter_lineStarts, List.getLast?_cons, List.getLast?_map]
  rfl

theorem lineStart_mem_lineStarts (text : List Char) (offset : Nat) :
    lineStart text offset ∈ lineStarts text :=
  List.mem_of_mem_filter (List.mem_of_getLast? (getLast?_filter_lineStarts text offset))

theorem lineStart_le (text : List Char) (offset : Nat) : lineStart text offset ≤ offset := by
  have hmem := List.mem_of_getLast? (getLast?_filter_lineStarts text offset)
  simpa using (List.mem_filter.mp hmem).2

end Text

namespace LineTable

variable (text : List Char) (offset : Nat)

/-! ## The line of an offset -/

theorem lineIndex_eq_length_breaksBefore :
    (ofText text).lineIndex offset = (Text.breaksBefore text offset).length := by
  have hcount := lineIndex_ofText text offset
  rw [List.countP_eq_length_filter, Text.filter_lineStarts, List.length_cons, List.length_map] at hcount
  omega

/-- The index that the search leads to is an index of the table, and the line starts there. -/
theorem getElem?_starts_lineIndex :
    (ofText text).starts[(ofText text).lineIndex offset]? = some (Text.lineStart text offset) := by
  have hlt := lineIndex_lt_length text offset
  have hlast := Text.getLast?_filter_lineStarts text offset
  rw [filter_le_eq_take (Text.pairwise_lineStarts text), ← lineIndex_ofText, List.getLast?_take,
    if_neg (Nat.succ_ne_zero _), Nat.add_sub_cancel, List.getElem?_eq_getElem hlt] at hlast
  rw [ofText, List.getElem?_toArray, ← ofText, List.getElem?_eq_getElem hlt]
  exact hlast

/-! ## The column of an offset -/

theorem point_ofText_eq :
    (ofText text).point offset = ⟨UInt32.ofNat (Text.breaksBefore text offset).length + 1,
      UInt32.ofNat <| match Text.slice? text (Text.lineStart text offset) offset with
        | some part => Text.unitLength part
        | none => offset - Text.lineStart text offset⟩ := by
  have hstart : (ofText text).starts.getD (Text.breaksBefore text offset).length 0 =
      Text.lineStart text offset := by
    rw [← lineIndex_eq_length_breaksBefore, Array.getD_eq_getD_getElem?, getElem?_starts_lineIndex,
      Option.getD_some]
  simp only [point, lineIndex_eq_length_breaksBefore, hstart]
  rfl

theorem line_point :
    ((ofText text).point offset).line = 1 + UInt32.ofNat (Text.breaksBefore text offset).length := by
  rw [point_ofText_eq, UInt32.add_comm]

variable {text offset}

/-- The line is the plain count as long as the count has 32 bits. -/
theorem toNat_line_point (h : (Text.breaksBefore text offset).length < 4294967295) :
    ((ofText text).point offset).line.toNat = 1 + (Text.breaksBefore text offset).length := by
  have hsize : (Text.breaksBefore text offset).length < UInt32.size := Nat.lt_succ_of_lt h
  rw [line_point, UInt32.toNat_add, UInt32.toNat_ofNat_of_lt' hsize]
  exact Nat.mod_eq_of_lt (Nat.add_lt_add_left h 1)

theorem line_point_eq_zero (h : (Text.breaksBefore text offset).length = 4294967295) :
    ((ofText text).point offset).line = 0 := by
  rw [line_point, h]
  rfl

theorem column_of_isPart {part : List Char}
    (h : Text.IsPart text (Text.lineStart text offset) offset part) :
    ((ofText text).point offset).column = UInt32.ofNat (Text.unitLength part) := by
  rw [point_ofText_eq, Text.slice?_eq_some_iff.mpr h]

theorem exists_isPart_of_isCut (h : Text.IsCut text offset) :
    ∃ part, Text.IsPart text (Text.lineStart text offset) offset part :=
  Text.exists_isPart (Text.isCut_of_mem_lineStarts (Text.lineStart_mem_lineStarts text offset)) h
    (Text.lineStart_le text offset)

theorem column_of_not_isCut (h : ¬ Text.IsCut text offset) :
    ((ofText text).point offset).column = UInt32.ofNat (offset - Text.lineStart text offset) := by
  have hnone : Text.slice? text (Text.lineStart text offset) offset = none := by
    rw [Option.eq_none_iff_forall_ne_some]
    intro part hpart
    exact h (Text.slice?_eq_some_iff.mp hpart).isCut_stop
  rw [point_ofText_eq, hnone]

/-! Offsets of 32 bits have columns of 32 bits. -/

theorem toNat_column_of_isPart (hoffset : offset < 4294967296) {part : List Char}
    (h : Text.IsPart text (Text.lineStart text offset) offset part) :
    ((ofText text).point offset).column.toNat = Text.unitLength part := by
  have hbytes := h.byteLength_eq
  have hunits := Text.unitLength_le_byteLength part
  have hsize : Text.unitLength part < UInt32.size := by
    simp only [UInt32.size]
    omega
  rw [column_of_isPart h, UInt32.toNat_ofNat_of_lt' hsize]

theorem toNat_column_of_not_isCut (hoffset : offset < 4294967296) (h : ¬ Text.IsCut text offset) :
    ((ofText text).point offset).column.toNat = offset - Text.lineStart text offset := by
  have hsize : offset - Text.lineStart text offset < UInt32.size :=
    Nat.lt_of_le_of_lt (Nat.sub_le _ _) hoffset
  rw [column_of_not_isCut h, UInt32.toNat_ofNat_of_lt' hsize]

/-- A column never exceeds the distance in bytes. -/
theorem toNat_column_le (hoffset : offset < 4294967296) :
    ((ofText text).point offset).column.toNat ≤ offset - Text.lineStart text offset := by
  by_cases hcut : Text.IsCut text offset
  · obtain ⟨part, hpart⟩ := exists_isPart_of_isCut hcut
    have hbytes := hpart.byteLength_eq
    have hunits := Text.unitLength_le_byteLength part
    rw [toNat_column_of_isPart hoffset hpart]
    omega
  · exact Nat.le_of_eq (toNat_column_of_not_isCut hoffset hcut)

end LineTable

/-- The position belongs to the offset: its line comes after the line breaks before the offset, its
column counts from the last of them, in UTF-16 units where the text can be cut and in bytes elsewhere.
Lines are counted in 32 bits. -/
structure Position.Marks (position : Position) (text : List Char) (offset : Nat) : Prop where
  line : position.line = 1 + UInt32.ofNat (Text.breaksBefore text offset).length
  units : Text.IsCut text offset → ∃ part,
    Text.IsPart text (Text.lineStart text offset) offset part ∧
      position.column.toNat = Text.unitLength part
  bytes : ¬ Text.IsCut text offset → Text.lineStart text offset + position.column.toNat = offset

/-- A pair of line ends, a separator of three bytes and a character of two. -/
def Sample.separated : List Char := ['\r', '\n', '\u2028', 'é']

/-- Offsets in the pair, around and in the separator, at the end of the text and past it. -/
example : [1, 2, 4, 5, 7, 9].map (LineTable.ofText ['\r', '\n', '\u2028', 'é']).point =
    [⟨1, 1⟩, ⟨2, 0⟩, ⟨2, 2⟩, ⟨3, 0⟩, ⟨3, 1⟩, ⟨3, 4⟩] := by decide +kernel

/-! ## The order of positions -/

/-- Line and column, ordered by line and then by column. -/
def Position.key (position : Position) : Nat ×ₗ Nat :=
  toLex (position.line.toNat, position.column.toNat)

/-- The offset is not inside a character: the text can be cut there, or it lies past the end. -/
def Text.IsOutside (text : List Char) (offset : Nat) : Prop :=
  IsCut text offset ∨ byteLength text < offset

instance (text : List Char) (offset : Nat) : Decidable (Text.IsOutside text offset) :=
  inferInstanceAs (Decidable (_ ∨ _))

namespace LineTable

variable {text : List Char} {a b : Nat}

theorem length_breaksBefore_mono (text : List Char) (h : a ≤ b) :
    (Text.breaksBefore text a).length ≤ (Text.breaksBefore text b).length := by
  unfold Text.breaksBefore
  rw [← List.countP_eq_length_filter, ← List.countP_eq_length_filter]
  apply List.countP_mono_left
  intro lineBreak _ hle
  have hle : lineBreak.stop ≤ a := by simpa using hle
  exact decide_eq_true (Nat.le_trans hle h)

theorem lineStart_eq_of_length_eq
    (h : (Text.breaksBefore text a).length = (Text.breaksBefore text b).length) :
    Text.lineStart text a = Text.lineStart text b := by
  have ha := getElem?_starts_lineIndex text a
  have hb := getElem?_starts_lineIndex text b
  rw [lineIndex_eq_length_breaksBefore] at ha hb
  rw [h] at ha
  exact Option.some.inj (ha.symm.trans hb)

/-- In a line, the column grows by what stands between two offsets. -/
theorem column_lt_of_lineStart_eq (ha : Text.IsOutside text a) (hb : Text.IsOutside text b) (h : a < b)
    (hbound : b < 4294967296) (hstart : Text.lineStart text a = Text.lineStart text b) :
    ((ofText text).point a).column.toNat < ((ofText text).point b).column.toNat := by
  have hle := Text.lineStart_le text a
  have hsmall : a < 4294967296 := Nat.lt_trans h hbound
  rcases hb with hb | hb
  · -- both offsets are cuts, and the text between them has at least one unit
    have ha : Text.IsCut text a := by
      rcases ha with ha | ha
      · exact ha
      · have := hb.le_byteLength
        omega
    obtain ⟨part, hpart⟩ := exists_isPart_of_isCut ha
    obtain ⟨next, hnext⟩ := Text.exists_isPart ha hb (Nat.le_of_lt h)
    have hwhole := hpart.append hnext
    rw [toNat_column_of_isPart hsmall hpart, toNat_column_of_isPart hbound (hstart ▸ hwhole),
      Text.unitLength_append]
    have hne : next ≠ [] := by
      rintro rfl
      have := hnext.byteLength_eq
      simp only [Text.byteLength] at this
      omega
    have := Text.unitLength_pos hne
    omega
  · have hnot : ¬ Text.IsCut text b := by
      intro hcut
      have := hcut.le_byteLength
      omega
    have hcolumn : ((ofText text).point a).column.toNat ≤ a - Text.lineStart text a :=
      toNat_column_le hsmall
    rw [toNat_column_of_not_isCut hbound hnot, ← hstart]
    omega

theorem key_lt_of_length_lt (ha : Text.IsOutside text a) (hb : Text.IsOutside text b) (h : a < b)
    (hbound : b < 4294967296) (hbreaks : (Text.breaksBefore text b).length < 4294967295) :
    ((ofText text).point a).key < ((ofText text).point b).key := by
  have hlines := length_breaksBefore_mono text (Nat.le_of_lt h)
  rw [Position.key, Position.key, Prod.Lex.toLex_lt_toLex,
    toNat_line_point (Nat.lt_of_le_of_lt hlines hbreaks), toNat_line_point hbreaks]
  rcases Nat.lt_or_eq_of_le hlines with hlt | heq
  · exact .inl (Nat.add_lt_add_left hlt 1)
  · have hcolumn := column_lt_of_lineStart_eq ha hb h hbound (lineStart_eq_of_length_eq heq)
    exact .inr ⟨congrArg (1 + ·) heq, hcolumn⟩

/-- Every line but the one without a number of 32 bits comes after line 0. -/
theorem key_lt_of_length_eq (h : a < b) (hbound : b < 4294967296)
    (hbreaks : (Text.breaksBefore text b).length = 4294967295) :
    ((ofText text).point b).key < ((ofText text).point a).key := by
  have hbefore := Text.length_breaksBefore_le text a
  have hsmall : (Text.breaksBefore text a).length < 4294967295 := by omega
  rw [Position.key, Position.key, Prod.Lex.toLex_lt_toLex, line_point_eq_zero hbreaks,
    toNat_line_point hsmall]
  exact .inl (Nat.lt_of_lt_of_le Nat.zero_lt_one (Nat.le_add_right _ _))

theorem key_lt_key_iff (ha : Text.IsOutside text a) (hb : Text.IsOutside text b) (h : a < b)
    (hbound : b < 4294967296) :
    ((ofText text).point a).key < ((ofText text).point b).key ↔
      (Text.breaksBefore text b).length ≠ 4294967295 := by
  have hbefore := Text.length_breaksBefore_le text b
  constructor
  · intro hlt heq
    exact lt_asymm hlt (key_lt_of_length_eq h hbound heq)
  · intro hne
    exact key_lt_of_length_lt ha hb h hbound (by omega)

/-- Different offsets have different positions, also on a line without a number of 32 bits. -/
theorem point_ne_of_lt (ha : Text.IsOutside text a) (hb : Text.IsOutside text b) (h : a < b)
    (hbound : b < 4294967296) : (ofText text).point a ≠ (ofText text).point b := by
  intro heq
  have hkey := congrArg Position.key heq
  by_cases hbreaks : (Text.breaksBefore text b).length = 4294967295
  · exact (key_lt_of_length_eq h hbound hbreaks).ne hkey.symm
  · exact ((key_lt_key_iff ha hb h hbound).mpr hbreaks).ne hkey

end LineTable

namespace Sample

/-- Characters of two and of four bytes, with a line break between them. -/
def accented : Program where
  source := "é\r\n😀"
  body := []

end Sample

/-- An offset inside a character can have the position of its end. -/
example : (LineTable.ofText ['é']).point 1 = (LineTable.ofText ['é']).point 2 := by decide +kernel

/-! ## A text with more lines than numbers of 32 bits -/

namespace Text

variable {n k : Nat}

theorem byteLength_lineFeeds (n : Nat) : byteLength (List.replicate n '\n') = n := by
  induction n with
  | zero => rfl
  | succ n ih =>
    have hsize : '\n'.utf8Size = 1 := rfl
    rw [List.replicate_succ, byteLength, ih, hsize, Nat.add_comm]

theorem isCut_lineFeeds (h : k ≤ n) : IsCut (List.replicate n '\n') k := by
  refine ⟨List.replicate k '\n', List.replicate (n - k) '\n', ?_, byteLength_lineFeeds k⟩
  rw [List.replicate_append_replicate, Nat.add_sub_cancel' h]

theorem length_filter_breaks_lineFeeds (offset bound n : Nat) :
    ((breaks offset (List.replicate n '\n')).filter fun lineBreak => lineBreak.stop ≤ bound).length =
      min n (bound - offset) := by
  induction n generalizing offset with
  | zero => simp [breaks]
  | succ n ih =>
    have hstep : breaks offset (List.replicate (n + 1) '\n') =
        ⟨offset, offset + 1⟩ :: breaks (offset + 1) (List.replicate n '\n') := by
      have hsize : '\n'.utf8Size = 1 := rfl
      simp [List.replicate_succ, breaks, lineEnds, hsize]
    rw [hstep, List.filter_cons]
    split_ifs with hstop
    · have hstop : offset + 1 ≤ bound := by simpa using hstop
      rw [List.length_cons, ih]
      omega
    · have hstop : ¬ offset + 1 ≤ bound := by simpa using hstop
      rw [ih]
      omega

/-- Every offset in a text of line feeds comes after that many line breaks. -/
theorem length_breaksBefore_lineFeeds (h : k ≤ n) :
    (breaksBefore (List.replicate n '\n') k).length = k := by
  rw [breaksBefore, length_filter_breaks_lineFeeds]
  omega

end Text

/-- A program of line feeds only. -/
def Sample.lineFeeds (n : Nat) : Program where
  source := String.ofList (List.replicate n '\n')
  body := []

theorem Sample.toList_lineFeeds (n : Nat) :
    (lineFeeds n).source.toList = List.replicate n '\n' := String.toList_ofList

end ModuleParts
