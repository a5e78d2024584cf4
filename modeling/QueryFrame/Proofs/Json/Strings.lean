import QueryFrame.Proofs.Json.Reading

/-!
# Strings that are read

A string is read to the text that it spells, however its characters are written, and a string that
nobody reads is passed over.
-/

namespace QueryFrame.Json

section

variable {b : UInt8} {d n : Nat} {c l : Char} {u v s rest more : Bytes}

private theorem hexDigit?_of_isHex (h : IsHex b d) : hexDigit? b = some d := by
  have hall : ∀ d < 16, hexDigit? d.digitChar.toUInt8 = some d ∧
      hexDigit? d.digitChar.toUpper.toUInt8 = some d := by decide
  obtain ⟨hd, rfl | rfl⟩ := h
  · exact (hall d hd).1
  · exact (hall d hd).2

private theorem codeUnit_reads (h : IsUnit u n) (s : Bytes) : Reads (codeUnit (u ++ s)) n s := by
  obtain ⟨ha, hb, hc, hd⟩ := h
  simp only [List.cons_append, List.nil_append, codeUnit, hexDigit?_of_isHex ha,
    hexDigit?_of_isHex hb, hexDigit?_of_isHex hc, hexDigit?_of_isHex hd]
  exact yields_ok ⟨rfl, rfl⟩

private theorem letterEscape?_of_mem (h : (l, c) ∈ letters) :
    letterEscape? l.toUInt8 = some c.toUInt8 ∧ String.utf8EncodeChar c = [c.toUInt8] := by
  have hall : ∀ p ∈ letters, letterEscape? p.1.toUInt8 = some p.2.toUInt8 ∧
      String.utf8EncodeChar p.2 = [p.2.toUInt8] := by decide
  exact hall (l, c) h

private theorem not_surrogate (c : Char) :
    ¬(0xDC00 ≤ c.toNat ∧ c.toNat ≤ 0xDFFF) ∧ ¬(0xD800 ≤ c.toNat ∧ c.toNat ≤ 0xDBFF) := by
  have hvalid : c.toNat < 0xD800 ∨ 0xDFFF < c.toNat ∧ c.toNat < 0x110000 := c.valid
  omega

private theorem codePoint_unit (h : IsUnit u c.toNat) (s : Bytes) :
    Reads (codePoint (u ++ s)) c s := by
  obtain ⟨hlow, hhigh⟩ := not_surrogate c
  apply Yields.bind (codeUnit_reads h s)
  rintro ⟨_, rest⟩ ⟨rfl, hrest⟩
  dsimp only
  rw [if_neg hlow, if_neg hhigh]
  exact yields_ok ⟨Char.ofNat_toNat c, hrest⟩

private theorem lowSurrogate_reads {low : Nat} (h : IsUnit v low)
    (hlow : 0xDC00 ≤ low ∧ low ≤ 0xDFFF) (s : Bytes) :
    Reads (lowSurrogate ('\\'.toUInt8 :: 'u'.toUInt8 :: (v ++ s))) low s := by
  rw [lowSurrogate, if_neg (by simp)]
  dsimp only
  rw [if_neg (by simp)]
  apply Yields.bind (codeUnit_reads h s)
  rintro ⟨_, rest⟩ ⟨rfl, hrest⟩
  dsimp only
  rw [if_pos hlow]
  exact yields_ok ⟨rfl, hrest⟩

private theorem codePoint_pair {high low : Nat} (hu : IsUnit u high) (hv : IsUnit v low)
    (hhigh : 0xD800 ≤ high ∧ high ≤ 0xDBFF) (hlow : 0xDC00 ≤ low ∧ low ≤ 0xDFFF)
    (hc : c.toNat = 0x10000 + (high - 0xD800) * 0x400 + (low - 0xDC00)) (s : Bytes) :
    Reads (codePoint (u ++ '\\'.toUInt8 :: 'u'.toUInt8 :: (v ++ s))) c s := by
  have hnot : ¬(0xDC00 ≤ high ∧ high ≤ 0xDFFF) := by omega
  apply Yields.bind (codeUnit_reads hu _)
  rintro ⟨_, _, hlength⟩ ⟨rfl, rfl⟩
  dsimp only
  rw [if_neg hnot, if_pos hhigh]
  apply Yields.bind (Reads.after (lowSurrogate_reads hv hlow s))
  rintro ⟨_, rest⟩ ⟨rfl, hrest⟩
  refine yields_ok ⟨?_, hrest⟩
  rw [← hc, Char.ofNat_toNat]

private theorem escape_letter (h : (l, c) ∈ letters) (s : Bytes) :
    Reads (escape (l.toUInt8 :: s)) (String.utf8EncodeChar c) s := by
  obtain ⟨hletter, hencode⟩ := letterEscape?_of_mem h
  rw [escape, hletter, hencode]
  exact yields_ok ⟨rfl, rfl⟩

private theorem escape_codePoint (h : Reads (codePoint s) c rest) :
    Reads (escape ('u'.toUInt8 :: s)) (String.utf8EncodeChar c) rest := by
  have hletter : letterEscape? 'u'.toUInt8 = none := by decide
  rw [escape, hletter]
  dsimp only
  rw [if_pos rfl]
  apply Yields.bind (Reads.after h)
  rintro ⟨_, left⟩ ⟨rfl, hleft⟩
  exact yields_ok ⟨rfl, hleft⟩

private theorem content_cons (b : UInt8) (s : Bytes) :
    content (b :: s) =
      if b = '"'.toUInt8 then .ok ([], .tail b s)
      else if b = '\\'.toUInt8 then do
        let (piece, rest) ← escape s
        let (more, last) ← content rest.val
        return (piece ++ more, (rest.of last.left).left.after b)
      else if b < 0x20 then .error .malformed
      else do
        let (more, last) ← content s
        return (b :: more, last.left.after b) := by
  rw [content]

private theorem content_quote (s : Bytes) : Reads (content ('"'.toUInt8 :: s)) [] s := by
  rw [content_cons, if_pos rfl]
  exact yields_ok ⟨rfl, rfl⟩

private theorem content_escape {e piece : Bytes} (he : Reads (escape e) piece s)
    (h : Reads (content s) more rest) :
    Reads (content ('\\'.toUInt8 :: e)) (piece ++ more) rest := by
  rw [content_cons, if_neg (by decide), if_pos rfl]
  apply Yields.bind he
  rintro ⟨_, _, hlength⟩ ⟨rfl, rfl⟩
  apply Yields.bind h
  rintro ⟨_, last⟩ ⟨rfl, hlast⟩
  exact yields_ok ⟨rfl, hlast⟩

structure IsPlain (b : UInt8) : Prop where
  visible : 0x20 ≤ b
  quote : b ≠ '"'.toUInt8
  backslash : b ≠ '\\'.toUInt8

private theorem content_plain (hb : IsPlain b) (h : Reads (content s) more rest) :
    Reads (content (b :: s)) (b :: more) rest := by
  rw [content_cons, if_neg hb.quote, if_neg hb.backslash, if_neg (UInt8.not_lt.2 hb.visible)]
  apply Yields.bind h
  rintro ⟨_, last⟩ ⟨rfl, hlast⟩
  exact yields_ok ⟨rfl, hlast⟩

private theorem content_plain_append {bs : Bytes} (hbs : ∀ b ∈ bs, IsPlain b)
    (h : Reads (content s) more rest) : Reads (content (bs ++ s)) (bs ++ more) rest := by
  induction bs with
  | nil => exact h
  | cons b bs ih =>
    have hrest := ih fun c hc => hbs c (List.mem_cons_of_mem b hc)
    exact content_plain (hbs b (by simp)) hrest

end

private theorem utf8EncodeChar_of_le {c : Char} (h : c.toNat ≤ 127) :
    String.utf8EncodeChar c = [UInt8.ofNat c.toNat] :=
  if_pos h

private theorem utf8EncodeChar_of_lt {c : Char} (h : 127 < c.toNat) :
    ∀ b ∈ String.utf8EncodeChar c, 127 < b.toNat := by
  have hnot : ¬ c.val.toNat ≤ 127 := Nat.not_le.2 h
  intro b hb
  simp only [String.utf8EncodeChar, if_neg hnot] at hb
  split at hb
  · simp only [List.mem_cons, List.not_mem_nil, or_false] at hb
    rcases hb with rfl | rfl <;> simp only [UInt8.toNat_ofNat'] <;> omega
  · split at hb
    · simp only [List.mem_cons, List.not_mem_nil, or_false] at hb
      rcases hb with rfl | rfl | rfl <;> simp only [UInt8.toNat_ofNat'] <;> omega
    · simp only [List.mem_cons, List.not_mem_nil, or_false] at hb
      rcases hb with rfl | rfl | rfl | rfl <;> simp only [UInt8.toNat_ofNat'] <;> omega

private theorem isPlain_utf8EncodeChar {c : Char} (visible : 0x20 ≤ c.toNat) (quote : c ≠ '"')
    (backslash : c ≠ '\\') : ∀ b ∈ String.utf8EncodeChar c, IsPlain b := by
  intro b hb
  by_cases hc : c.toNat ≤ 127
  · rw [utf8EncodeChar_of_le hc, List.mem_singleton] at hb
    have hb : b.toNat = c.toNat := by
      rw [hb, UInt8.toNat_ofNat']
      omega
    refine ⟨UInt8.le_iff_toNat_le.2 (hb ▸ visible), ?_, ?_⟩
    · rintro rfl
      exact quote (Char.toNat_inj.1 hb.symm)
    · rintro rfl
      exact backslash (Char.toNat_inj.1 hb.symm)
  · have hb : 127 < b.toNat := utf8EncodeChar_of_lt (Nat.not_le.1 hc) b hb
    have hvisible : 0x20 ≤ b.toNat := by omega
    refine ⟨UInt8.le_iff_toNat_le.2 hvisible, ?_, ?_⟩
    · rintro rfl
      exact absurd hb (by decide)
    · rintro rfl
      exact absurd hb (by decide)

section

variable {c : Char} {cs : List Char} {piece bytes s rest more : Bytes}

/-- However a character is written, the bytes of its encoding are read. -/
private theorem content_char (h : SpellsChar c piece) (hs : Reads (content s) more rest) :
    Reads (content (piece ++ s)) (String.utf8EncodeChar c ++ more) rest := by
  cases h with
  | plain visible quote backslash =>
    exact content_plain_append (isPlain_utf8EncodeChar visible quote backslash) hs
  | letter known => exact content_escape (escape_letter known s) hs
  | unit h => exact content_escape (escape_codePoint (codePoint_unit h s)) hs
  | pair hu hv hhigh hlow hc =>
    rw [List.cons_append, List.cons_append, List.append_assoc]
    exact content_escape (escape_codePoint (codePoint_pair hu hv hhigh hlow hc s)) hs

private theorem content_reads (h : Spells cs bytes) (rest : Bytes) :
    Reads (content (bytes ++ '"'.toUInt8 :: rest)) (cs.flatMap String.utf8EncodeChar) rest := by
  induction h with
  | nil => exact content_quote rest
  | cons first further ih =>
    rw [List.append_assoc, List.flatMap_cons]
    exact content_char first ih

private theorem fromUTF8?_encode (s : String) :
    String.fromUTF8? ⟨(s.toList.flatMap String.utf8EncodeChar).toArray⟩ = some s := by
  have hbytes : (⟨(s.toList.flatMap String.utf8EncodeChar).toArray⟩ : ByteArray) =
      s.toByteArray := by
    rw [← String.utf8Encode_toList, List.utf8Encode]
    simp [ByteArray.ext_iff]
  rw [hbytes, String.fromUTF8?, dif_pos s.isValidUTF8]
  rfl

/-- A string is read to the text that it spells. -/
theorem text_reads {s : String} (h : Spells s.toList bytes) (rest : Bytes) :
    Reads (text (bytes ++ '"'.toUInt8 :: rest)) s rest := by
  apply Yields.bind (content_reads h rest)
  rintro ⟨_, left⟩ ⟨rfl, hleft⟩
  dsimp only
  rw [fromUTF8?_encode]
  exact yields_ok ⟨rfl, hleft⟩

end

section

variable {l c : Char} {u s rest : Bytes} {n : Nat}

private theorem skipEscape_letter (h : (l, c) ∈ letters) (s : Bytes) :
    Leaves (skipEscape (l.toUInt8 :: s)) s := by
  rw [skipEscape, (letterEscape?_of_mem h).1]
  exact yields_ok rfl

private theorem skipEscape_unit (h : IsUnit u n) (s : Bytes) :
    Leaves (skipEscape ('u'.toUInt8 :: (u ++ s))) s := by
  have hletter : letterEscape? 'u'.toUInt8 = none := by decide
  rw [skipEscape, hletter]
  dsimp only
  rw [if_pos rfl]
  apply Yields.bind (Reads.after (codeUnit_reads h s))
  rintro ⟨_, left⟩ ⟨rfl, hleft⟩
  exact yields_ok hleft

private theorem skipText_cons (b : UInt8) (s : Bytes) :
    skipText (b :: s) =
      if b = '"'.toUInt8 then .ok (.tail b s)
      else if b = '\\'.toUInt8 then do
        let rest ← skipEscape s
        let last ← skipText rest.val
        return (rest.of last.left).left.after b
      else if b < 0x20 then .error .malformed
      else do
        let last ← skipText s
        return last.left.after b := by
  rw [skipText]

private theorem skipText_escape {e : Bytes} (he : Leaves (skipEscape e) s)
    (h : Leaves (skipText s) rest) : Leaves (skipText ('\\'.toUInt8 :: e)) rest := by
  rw [skipText_cons, if_neg (by decide), if_pos rfl]
  apply Yields.bind he
  rintro ⟨_, hlength⟩ rfl
  apply Yields.bind h
  intro last hlast
  exact yields_ok hlast

theorem skipText_leaves {content : Bytes} (h : IsContent content) (rest : Bytes) :
    Leaves (skipText (content ++ '"'.toUInt8 :: rest)) rest := by
  induction h with
  | nil =>
    rw [List.nil_append, skipText_cons, if_pos rfl]
    exact yields_ok rfl
  | plain visible quote backslash _ ih =>
    rw [List.cons_append, skipText_cons, if_neg quote, if_neg backslash,
      if_neg (UInt8.not_lt.2 visible)]
    apply Yields.bind ih
    intro last hlast
    exact yields_ok hlast
  | letter known _ ih => exact skipText_escape (skipEscape_letter known _) ih
  | unit h _ ih =>
    rw [List.cons_append, List.cons_append, List.append_assoc]
    exact skipText_escape (skipEscape_unit h _) ih

end

end QueryFrame.Json
