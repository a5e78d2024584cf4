import QueryFrame.Proofs.Json.Reading

/-!
# Numbers that are passed over

A number is read up to the first byte that cannot belong to it. Each of its parts ends where the
next one begins, or at the end of the number.
-/

namespace QueryFrame.Json

def EndsDigits (s : Bytes) : Prop := ∀ b ∈ s.head?, ¬ IsDigit b

/-- No number goes on at the front of the text. -/
structure EndsNumber (s : Bytes) : Prop where
  digits : EndsDigits s
  point : s.head? ≠ some '.'.toUInt8
  exponent : s.head? ≠ some 'e'.toUInt8 ∧ s.head? ≠ some 'E'.toUInt8

def digitValue (b : UInt8) : Nat := (b - '0'.toUInt8).toNat

section

variable {b : UInt8} {ds s rest sign whole fraction exponent : Bytes} {ended : Failure}

private theorem decimalDigit?_of_isDigit (h : IsDigit b) : decimalDigit? b = some (digitValue b) :=
  if_pos h

private theorem decimalDigit?_of_not_isDigit (h : ¬ IsDigit b) : decimalDigit? b = none :=
  if_neg h

private theorem digits_append (hds : ∀ b ∈ ds, IsDigit b) (hrest : EndsDigits rest) :
    (digits (ds ++ rest)).1 = ds.map digitValue ∧ (digits (ds ++ rest)).2.val = rest := by
  induction ds with
  | nil =>
    cases rest with
    | nil => exact ⟨rfl, rfl⟩
    | cons r rest =>
      have hnone := decimalDigit?_of_not_isDigit (hrest r rfl)
      rw [List.nil_append, digits, hnone]
      exact ⟨rfl, rfl⟩
  | cons d ds ih =>
    have hsome := decimalDigit?_of_isDigit (hds d (by simp))
    obtain ⟨hvalues, hleft⟩ := ih fun b hb => hds b (List.mem_cons_of_mem d hb)
    rw [List.cons_append, digits, hsome]
    exact ⟨congrArg (digitValue d :: ·) hvalues, hleft⟩

private theorem someDigits_reads (h : IsDigits ds) (hrest : EndsDigits rest) :
    Reads (someDigits ended (ds ++ rest)) (ds.map digitValue) rest := by
  cases ds with
  | nil => exact absurd rfl h.nonempty
  | cons d ds =>
    have hsome := decimalDigit?_of_isDigit (h.digits d (by simp))
    have hfurther : ∀ b ∈ ds, IsDigit b := fun b hb => h.digits b (List.mem_cons_of_mem d hb)
    obtain ⟨hvalues, hleft⟩ := digits_append hfurther hrest
    simp only [List.cons_append, someDigits, hsome]
    exact yields_ok ⟨congrArg (digitValue d :: ·) hvalues, hleft⟩

private theorem fractionDigits_leaves (h : IsFraction fraction) (hrest : EndsDigits rest)
    (hpoint : rest.head? ≠ some '.'.toUInt8) :
    Yields (fractionDigits ended (fraction ++ rest)) fun found => found.2.val = rest := by
  cases h with
  | none =>
    cases rest with
    | nil => exact yields_ok rfl
    | cons r rest =>
      have hr : r ≠ '.'.toUInt8 := fun hr => hpoint (congrArg some hr)
      rw [List.nil_append, fractionDigits, if_neg hr]
      exact yields_ok rfl
  | digits hds =>
    rw [List.cons_append, fractionDigits, if_pos rfl]
    apply Yields.bind (someDigits_reads hds hrest)
    rintro ⟨_, left⟩ ⟨rfl, hleft⟩
    exact yields_ok hleft

private theorem exponentSign_append
    (hsign : sign = [] ∨ sign = ['+'.toUInt8] ∨ sign = ['-'.toUInt8])
    (h : IsDigits ds) (rest : Bytes) :
    (exponentSign (sign ++ (ds ++ rest))).2.val = ds ++ rest := by
  rcases hsign with rfl | rfl | rfl
  · cases ds with
    | nil => exact absurd rfl h.nonempty
    | cons d ds =>
      have hd : IsDigit d := h.digits d (by simp)
      have hminus : d ≠ '-'.toUInt8 := by
        rintro rfl
        exact absurd hd.1 (by decide)
      have hplus : d ≠ '+'.toUInt8 := by
        rintro rfl
        exact absurd hd.1 (by decide)
      simp only [List.nil_append, List.cons_append, exponentSign, if_neg hminus, if_neg hplus]
      rfl
  · rfl
  · rfl

private theorem exponentDigits_leaves (h : IsExponent exponent) (hrest : EndsNumber rest) :
    Yields (exponentDigits ended (exponent ++ rest)) fun found => found.2.val = rest := by
  cases h with
  | none =>
    cases rest with
    | nil => exact yields_ok rfl
    | cons r rest =>
      have hr : ¬(r = 'e'.toUInt8 ∨ r = 'E'.toUInt8) := by
        rintro (rfl | rfl)
        · exact hrest.exponent.1 rfl
        · exact hrest.exponent.2 rfl
      rw [List.nil_append, exponentDigits, if_neg hr]
      exact yields_ok rfl
  | @digits e sign ds mark hsign hds =>
    have hsigned := exponentSign_append hsign hds rest
    rw [List.cons_append, List.append_assoc, exponentDigits, if_pos mark]
    generalize exponentSign (sign ++ (ds ++ rest)) = signed at hsigned ⊢
    obtain ⟨negative, left, hlength⟩ := signed
    obtain rfl : left = ds ++ rest := hsigned
    apply Yields.bind (someDigits_reads hds hrest.digits)
    rintro ⟨_, left⟩ ⟨rfl, hleft⟩
    exact yields_ok hleft

private theorem endsDigits_exponent (h : IsExponent exponent) (hrest : EndsNumber rest) :
    EndsDigits (exponent ++ rest) ∧ (exponent ++ rest).head? ≠ some '.'.toUInt8 := by
  cases h with
  | none => exact ⟨hrest.digits, hrest.point⟩
  | digits mark hsign hds =>
    rcases mark with rfl | rfl
    · refine ⟨?_, fun h => absurd (Option.some.inj h) (by decide)⟩
      rintro b ⟨⟩
      exact fun hb => absurd hb.2 (by decide)
    · refine ⟨?_, fun h => absurd (Option.some.inj h) (by decide)⟩
      rintro b ⟨⟩
      exact fun hb => absurd hb.2 (by decide)

private theorem endsDigits_fraction (h : IsFraction fraction) (hs : EndsDigits s) :
    EndsDigits (fraction ++ s) := by
  cases h with
  | none => exact hs
  | digits hds =>
    rintro b ⟨⟩
    exact fun hb => absurd hb.1 (by decide)

private theorem wholeDigits_reads (ended : Failure) (hsign : sign = [] ∨ sign = ['-'.toUInt8])
    (h : IsDigits whole) (hs : EndsDigits s) :
    ∃ b t, sign ++ (whole ++ s) = b :: t ∧ startsNumber b ∧
      Yields (wholeDigits ended b t) fun found =>
        found.1 = whole.map digitValue ∧ found.2.val = s := by
  rcases hsign with rfl | rfl
  · cases whole with
    | nil => exact absurd rfl h.nonempty
    | cons d ds =>
      have hsome := decimalDigit?_of_isDigit (h.digits d (by simp))
      have hfurther : ∀ b ∈ ds, IsDigit b := fun b hb => h.digits b (List.mem_cons_of_mem d hb)
      obtain ⟨hvalues, hleft⟩ := digits_append hfurther hs
      refine ⟨d, ds ++ s, rfl, by simp [startsNumber, hsome], ?_⟩
      simp only [wholeDigits, hsome]
      exact yields_ok ⟨congrArg (digitValue d :: ·) hvalues, hleft⟩
  · refine ⟨'-'.toUInt8, whole ++ s, rfl, by decide, ?_⟩
    have hnone : decimalDigit? '-'.toUInt8 = none := by decide
    simp only [wholeDigits, hnone]
    apply Yields.bind (someDigits_reads h hs)
    rintro ⟨_, left⟩ ⟨rfl, hleft⟩
    exact yields_ok ⟨rfl, hleft⟩

private theorem eq_zero_of_digitValue (hb : IsDigit b) (h : digitValue b = 0) :
    b = '0'.toUInt8 := by
  have hle : '0'.toUInt8.toNat ≤ b.toNat := UInt8.le_iff_toNat_le.1 hb.1
  have hsub : b.toNat - '0'.toUInt8.toNat = 0 := by
    rw [← UInt8.toNat_sub_of_le b _ hb.1]
    exact h
  exact UInt8.toNat_inj.1 (by omega)

private theorem no_leading_zero (hwhole : IsDigits whole)
    (h : whole.head? = some '0'.toUInt8 → whole = ['0'.toUInt8]) :
    ¬((whole.map digitValue).head? = some 0 ∧ whole.map digitValue ≠ [0]) := by
  rintro ⟨hhead, hmore⟩
  rw [List.head?_map] at hhead
  obtain ⟨b, hb, hzero⟩ := Option.map_eq_some_iff.1 hhead
  obtain rfl := eq_zero_of_digitValue (hwhole.digits b (List.mem_of_head? hb)) hzero
  rw [h hb] at hmore
  exact hmore (by decide)

theorem number_leaves {n : Bytes} (ended : Failure) (h : IsNumber n) (hrest : EndsNumber rest) :
    ∃ b t, n ++ rest = b :: t ∧ startsNumber b ∧
      Leaves ((number ended b t).map Prod.snd) rest := by
  obtain @⟨sign, whole, fraction, exponent, hsign, hwhole, hzero, hfraction, hexponent⟩ := h
  obtain ⟨hdigits, hpoint⟩ := endsDigits_exponent hexponent hrest
  have hends := endsDigits_fraction hfraction hdigits
  obtain ⟨b, t, htext, hstarts, hread⟩ := wholeDigits_reads ended hsign hwhole hends
  refine ⟨b, t, by simpa only [List.append_assoc] using htext, hstarts, ?_⟩
  apply Yields.map (p := fun found => found.2.val = rest) _ fun _ hleft => hleft
  apply Yields.bind hread
  rintro ⟨_, _, hlength⟩ ⟨rfl, rfl⟩
  dsimp only
  rw [if_neg (no_leading_zero hwhole hzero)]
  apply Yields.bind (fractionDigits_leaves hfraction hdigits hpoint)
  rintro ⟨fraction', _, hlength'⟩ rfl
  apply Yields.bind (exponentDigits_leaves hexponent hrest)
  rintro ⟨exponent', left⟩ hleft
  exact yields_ok hleft

end

end QueryFrame.Json
