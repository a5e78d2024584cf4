import QueryFrame.Proofs.Macro.Enclosure
import QueryFrame.Proofs.Macro.OuterCommas
import QueryFrame.Proofs.Macro.Scan
import QueryFrame.Proofs.Traversal

/-!
# Reading argument lists

What follows the name of a macro is read as its arguments if it begins with a parenthesis. Exactly
the texts with an enclosure can be read; the arguments are what the enclosed text falls into at its
outer commas, without the blanks around them. Arguments that are written with blanks around them are
read again as they were.
-/

namespace QueryFrame.Arguments

open Macro

def byteCount (cs : List Char) : Nat := (String.ofList cs).utf8ByteSize

/-- Reads the arguments that follow a name: the arguments, and the number of bytes that they and
their parentheses take up. Without a parenthesis there are none. -/
def read (name : String) : List Char → Except QueryError (List (List Char) × Nat)
  | '(' :: tail =>
    match enclosed? 0 tail with
    | some (inside, _) => .ok (ofInside inside, byteCount ('(' :: (inside ++ [')'])))
    | none => .error (.unterminatedMacro name)
  | _ => .ok ([], 0)

/-- The text begins with a list in parentheses: the enclosure, what the enclosed text falls into at
its outer commas and at no others, and the arguments that these segments stand for. -/
structure Parenthesized (cs enclosure : List Char) (segs arguments : List (List Char)) : Prop where
  encloses : Encloses enclosure cs
  cut : ∃ inside, enclosure = '(' :: (inside ++ [')']) ∧ CutAtCommas inside segs ∧
    ∀ others, CutAtCommas inside others → others = segs
  trimmed : List.Forall₂ Text.IsTrimOf arguments segs

section

variable {name : String} {tail inside after : List Char}

theorem read_of_enclosed? (h : enclosed? 0 tail = some (inside, after)) :
    read name ('(' :: tail) = .ok (ofInside inside, byteCount ('(' :: (inside ++ [')']))) := by
  simp only [read, h]

theorem read_of_unclosed (h : enclosed? 0 tail = none) :
    read name ('(' :: tail) = .error (.unterminatedMacro name) := by
  simp only [read, h]

theorem read_of_no_parenthesis (h : after.head? ≠ some '(') : read name after = .ok ([], 0) := by
  rw [read]
  intro tail hafter
  simp [hafter] at h

private theorem forall₂_trim (segs : List (List Char)) :
    List.Forall₂ Text.IsTrimOf (segs.map Text.trim) segs := by
  rw [List.forall₂_map_left_iff, List.forall₂_same]
  intro segment _
  exact Text.trim_eq_iff.1 rfl

private theorem map_trim_eq {arguments written : List (List Char)}
    (htrimmed : ∀ a ∈ arguments, Text.IsTrimmed a)
    (h : List.Forall₂ Text.Pads arguments written) : written.map Text.trim = arguments := by
  induction h with
  | nil => rfl
  | cons hpads _ ih =>
    have hhead := Text.trim_of_pads (htrimmed _ List.mem_cons_self) hpads
    have hrest := ih fun a ha => htrimmed a (List.mem_cons_of_mem _ ha)
    rw [List.map_cons, hhead, hrest]

private theorem isItem_of_forall₂_pads {arguments written : List (List Char)}
    (hitems : ∀ a ∈ arguments, IsItem a) (h : List.Forall₂ Text.Pads arguments written) :
    ∀ w ∈ written, IsItem w := by
  intro w hw
  obtain ⟨i, hi⟩ := List.mem_iff_getElem?.1 hw
  obtain ⟨a, ha, hpads⟩ := exists_getElem?_left h hi
  exact (hitems a (List.mem_of_getElem? ha)).of_pads hpads

private theorem ofInside_intercalate {written : List (List Char)} (h : ∀ w ∈ written, IsItem w)
    (hone : written.map Text.trim ≠ [[]]) :
    ofInside ([','].intercalate written) = written.map Text.trim := by
  rw [ofInside_eq]
  by_cases hnone : written = []
  · subst hnone
    rfl
  · rw [segments_intercalate hnone h, if_neg hone]

theorem read_written {arguments written : List (List Char)} (hone : arguments ≠ [[]])
    (htrimmed : ∀ a ∈ arguments, Text.IsTrimmed a) (hitems : ∀ a ∈ arguments, IsItem a)
    (h : List.Forall₂ Text.Pads arguments written) (after : List Char) :
    read name ('(' :: ([','].intercalate written ++ ')' :: after)) =
      .ok (arguments, byteCount ('(' :: ([','].intercalate written ++ [')']))) := by
  have hwritten := isItem_of_forall₂_pads hitems h
  have hbalanced : Balanced ([','].intercalate written) :=
    balanced_intercalate fun w hw => (hwritten w hw).balanced
  have htrim := map_trim_eq htrimmed h
  have hargs : ofInside ([','].intercalate written) = arguments := by
    rw [ofInside_intercalate hwritten (by rw [htrim]; exact hone), htrim]
  rw [read_of_enclosed? (enclosed?_eq_some_iff.2 ⟨rfl, hbalanced⟩), hargs]

private theorem read_of_even {p : List Char} (hp : p <+: '(' :: tail) (hne : p ≠ [])
    (heven : p.count '(' = p.count ')') :
    ∃ enclosure segs arguments, Parenthesized ('(' :: tail) enclosure segs arguments ∧
      read name ('(' :: tail) =
        .ok (if arguments = [[]] then [] else arguments, byteCount enclosure) := by
  cases hfound : enclosed? 0 tail with
  | none => exact absurd heven (count_ne_of_enclosed?_eq_none hfound hp hne)
  | some found =>
    obtain ⟨inside, after⟩ := found
    have hbalanced : Balanced inside := (enclosed?_eq_some_iff.1 hfound).2
    have hcut : CutAtCommas inside (segments 0 inside) := (cutAtCommas_iff hbalanced).2 rfl
    have honly : ∀ others, CutAtCommas inside others → others = segments 0 inside := by
      intro others hothers
      exact (cutAtCommas_iff hbalanced).1 hothers
    refine ⟨_, _, _, ⟨encloses_of_enclosed? hfound, ⟨inside, rfl, hcut, honly⟩, forall₂_trim _⟩, ?_⟩
    rw [read_of_enclosed? hfound, ofInside_eq]

end

theorem marked_read (m : Macro) {after : List Char} (run : IsRun m.name.toList after)
    (range : TimeRange) :
    (Token.marked (m.name.toList ++ after)).1.expand range =
        (read m.name after).bind (fun found =>
          (m.expansion range (found.1.map String.ofList)).map String.toList) ∧
      ∀ arguments n, read m.name after = .ok (arguments, n) →
        ∃ taken, after = taken ++ (Token.marked (m.name.toList ++ after)).2 ∧
          byteCount taken = n := by
  by_cases paren : after.head? = some '('
  · obtain ⟨tail, rfl⟩ := List.head?_eq_some_iff.1 paren
    rw [Token.marked_paren]
    cases hfound : enclosed? 0 tail with
    | none =>
      rw [read_of_unclosed hfound]
      exact ⟨rfl, by simp⟩
    | some found =>
      obtain ⟨inside, beyond⟩ := found
      rw [read_of_enclosed? hfound]
      refine ⟨rfl, ?_⟩
      intro arguments n hread
      obtain ⟨-, rfl⟩ := Prod.mk.inj (Except.ok.inj hread)
      refine ⟨'(' :: (inside ++ [')']), ?_, rfl⟩
      rw [enclosed?_eq_some hfound]
      simp
  · rw [Token.marked_bare run paren, read_of_no_parenthesis paren]
    refine ⟨rfl, ?_⟩
    intro arguments n hread
    obtain ⟨-, rfl⟩ := Prod.mk.inj (Except.ok.inj hread)
    exact ⟨[], rfl, rfl⟩

/-- Behind a name exactly the texts with matching parentheses at their start are read, as what
stands between their outer commas; what is written with blanks is read again; and the scan goes by
this reading. -/
theorem read_balanced (name : String) :
    (∀ tail, (∀ p, p <+: '(' :: tail → p ≠ [] → p.count '(' ≠ p.count ')') →
      read name ('(' :: tail) = .error (.unterminatedMacro name)) ∧
    (∀ tail p, p <+: '(' :: tail → p ≠ [] → p.count '(' = p.count ')' →
      ∃ enclosure segs arguments, Parenthesized ('(' :: tail) enclosure segs arguments ∧
        read name ('(' :: tail) =
          .ok (if arguments = [[]] then [] else arguments, byteCount enclosure)) ∧
    (∀ arguments written after, arguments ≠ [[]] →
      (∀ a ∈ arguments, Text.IsTrimmed a ∧ IsItem a) →
      List.Forall₂ Text.Pads arguments written →
      read name ('(' :: ([','].intercalate written ++ ')' :: after)) =
        .ok (arguments, byteCount ('(' :: ([','].intercalate written ++ [')'])))) ∧
    ∀ m : Macro, m.name = name → ∀ after range, IsRun name.toList after →
      (Token.marked (name.toList ++ after)).1.expand range =
          (read name after).bind (fun found =>
            (m.expansion range (found.1.map String.ofList)).map String.toList) ∧
        ∀ arguments n, read name after = .ok (arguments, n) →
          ∃ taken, after = taken ++ (Token.marked (name.toList ++ after)).2 ∧
            byteCount taken = n := by
  refine ⟨?_, ?_, ?_, ?_⟩
  · intro tail hnone
    cases hfound : enclosed? 0 tail with
    | none => exact read_of_unclosed hfound
    | some found =>
      have hencloses := encloses_of_enclosed? hfound
      exact absurd hencloses.even (hnone _ hencloses.start hencloses.nonempty)
  · intro tail p hp hne heven
    exact read_of_even hp hne heven
  · intro arguments written after hone hargs h
    exact read_written hone (fun a ha => (hargs a ha).1) (fun a ha => (hargs a ha).2) h after
  · intro m hm after range run
    subst hm
    exact marked_read m run range

theorem read_balanced_padded :
    let tail := "\u2003max(a, ü)\t, ) LIMIT 1".toList
    let arguments := ["max(a, ü)".toList, []]
    read "timeFilter" ('(' :: "max(ts".toList) = .error (.unterminatedMacro "timeFilter") ∧
      (∃ enclosure segs found, Parenthesized ('(' :: tail) enclosure segs found) ∧
      read "varFallback" ('(' :: tail) = .ok (arguments, 18) ∧
      ∃ taken, '(' :: tail = taken ++ " LIMIT 1".toList ∧ byteCount taken = 18 := by
  intro tail arguments
  have hunclosed : enclosed? 0 "max(ts".toList = none := by decide
  have hfirst := (read_balanced "timeFilter").1 "max(ts".toList fun p hp hne =>
    count_ne_of_enclosed?_eq_none hunclosed hp hne
  obtain ⟨_, hread, hwritten, hscan⟩ := read_balanced "varFallback"
  obtain ⟨enclosure, segs, found, hfound, -⟩ :=
    hread tail (('(' :: tail).take 15) (List.take_prefix _ _) (by decide) (by decide)
  have harguments : ∀ a ∈ arguments, Text.IsTrimmed a ∧ IsItem a := by decide
  let written := ["\u2003max(a, ü)\t".toList, " ".toList]
  have htrim : arguments = written.map Text.trim := by decide
  have hpads : List.Forall₂ Text.Pads arguments written := by
    rw [htrim]
    exact (forall₂_trim written).imp fun _ _ h => h.pads
  have htail : tail = [','].intercalate written ++ ')' :: " LIMIT 1".toList := by decide
  have hcount : byteCount ('(' :: ([','].intercalate written ++ [')'])) = 18 := by decide
  have hagain := hwritten arguments written " LIMIT 1".toList (by decide) harguments hpads
  rw [← htail, hcount] at hagain
  have hrun : IsRun "varFallback".toList ('(' :: tail) :=
    isRun_name_paren (Token.name_chars .varFallback) tail
  have htaken := (hscan .varFallback rfl ('(' :: tail) ⟨.epoch, .epoch⟩ hrun).2 _ _ hagain
  have hrest : (Token.marked ("varFallback".toList ++ '(' :: tail)).2 = " LIMIT 1".toList := by
    decide
  rw [hrest] at htaken
  exact ⟨hfirst, ⟨enclosure, segs, found, hfound⟩, hagain, htaken⟩

end QueryFrame.Arguments
