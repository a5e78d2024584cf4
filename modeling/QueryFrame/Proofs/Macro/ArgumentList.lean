import QueryFrame.Proofs.Macro.Parentheses

/-!
# Argument lists

The text between the parentheses of a macro is a list of items with commas between them. The
parentheses of an item match, and every comma in an item stands inside its parentheses. A text
whose parentheses match is such a list in exactly one way.
-/

namespace QueryFrame.Arguments

/-- Every comma of the text stands inside parentheses; `depth` of them are open before the text. -/
def CommasNested (depth : Nat) (cs : List Char) : Prop :=
  ∀ p q, cs = p ++ ',' :: q → p.count ')' < depth + p.count '('

/-- A text that can be one argument. -/
structure IsItem (cs : List Char) : Prop where
  balanced : Balanced cs
  nested : CommasNested 0 cs

/-- The text is what the items are with commas between them. -/
structure Lists (inside : List Char) (items : List (List Char)) : Prop where
  nonempty : items ≠ []
  isItem : ∀ item ∈ items, IsItem item
  joined : [','].intercalate items = inside

/-- The text stands for the arguments: its items without the blanks around them, but no arguments at
all if there is only one item and nothing is in it. -/
def Denotes (inside : List Char) (arguments : List (List Char)) : Prop :=
  ∃ items, Lists inside items ∧
    arguments = if items.map Text.trim = [[]] then [] else items.map Text.trim

theorem segments_cons (depth : Nat) (c : Char) (rest : List Char) :
    segments depth (c :: rest) =
      if c = ',' ∧ depth = 0 then [] :: segments 0 rest
      else consFirst c (segments (deeper depth c) rest) :=
  rfl

private theorem commasNested_nil (depth : Nat) : CommasNested depth [] := by
  intro p q h
  simp at h

theorem commasNested_cons {depth : Nat} {c : Char} {cs : List Char}
    (hc : ¬(c = ')' ∧ depth = 0)) :
    CommasNested depth (c :: cs) ↔ ¬(c = ',' ∧ depth = 0) ∧ CommasNested (deeper depth c) cs := by
  have hcount := deeper_add_count hc
  constructor
  · intro h
    constructor
    · intro hcomma
      obtain ⟨rfl, rfl⟩ := hcomma
      have hzero := h [] cs rfl
      simp at hzero
    · intro p q hcs
      have hcp := h (c :: p) q (by rw [hcs, List.cons_append])
      have := hcount p
      omega
  · intro h p q hcs
    obtain ⟨hcomma, hrest⟩ := h
    cases p with
    | nil =>
      have hc' : c = ',' := (List.cons.inj hcs).1
      have hdepth : depth ≠ 0 := fun h0 => hcomma ⟨hc', h0⟩
      simp
      omega
    | cons d p =>
      obtain ⟨rfl, htail⟩ := List.cons.inj hcs
      have := hrest p q htail
      have := hcount p
      omega

/-- An item is one segment, and the segments of what follows its comma are the other ones. -/
private theorem segments_append {depth : Nat} {item : List Char} (hclosed : Closes depth item)
    (hnested : CommasNested depth item) (rest : List Char) :
    segments depth (item ++ ',' :: rest) = item :: segments 0 rest := by
  induction item generalizing depth with
  | nil =>
    have hdepth := closes_nil.1 hclosed
    subst hdepth
    simp [segments_cons]
  | cons c item ih =>
    obtain ⟨hc, hclosed⟩ := closes_cons.1 hclosed
    obtain ⟨hcomma, hnested⟩ := (commasNested_cons hc).1 hnested
    rw [List.cons_append, segments_cons, if_neg hcomma, ih hclosed hnested, consFirst]

theorem segments_item {depth : Nat} {item : List Char} (hclosed : Closes depth item)
    (hnested : CommasNested depth item) : segments depth item = [item] := by
  induction item generalizing depth with
  | nil => rfl
  | cons c item ih =>
    obtain ⟨hc, hclosed⟩ := closes_cons.1 hclosed
    obtain ⟨hcomma, hnested⟩ := (commasNested_cons hc).1 hnested
    rw [segments_cons, if_neg hcomma, ih hclosed hnested, consFirst]

private theorem segments_eq_cons {depth : Nat} {cs : List Char} (h : Closes depth cs) :
    ∃ item items, segments depth cs = item :: items ∧ [','].intercalate (item :: items) = cs ∧
      Closes depth item ∧ CommasNested depth item ∧ ∀ i ∈ items, IsItem i := by
  induction cs generalizing depth with
  | nil => exact ⟨[], [], rfl, rfl, h, commasNested_nil depth, by simp⟩
  | cons c cs ih =>
    obtain ⟨hc, hclosed⟩ := closes_cons.1 h
    obtain ⟨item, items, hseg, hjoin, hitem, hnested, hitems⟩ := ih hclosed
    by_cases hcomma : c = ',' ∧ depth = 0
    · -- The comma ends an empty first segment, and the segment behind it becomes an item.
      obtain ⟨rfl, rfl⟩ := hcomma
      have hdeeper : deeper 0 ',' = 0 := rfl
      rw [hdeeper] at hseg hitem hnested
      have hcons : segments 0 (',' :: cs) = [] :: item :: items := by simp [segments_cons, hseg]
      have hwhole : [','].intercalate ([] :: item :: items) = ',' :: cs := by
        rw [List.intercalate_cons_cons, hjoin]
        rfl
      have hall : ∀ i ∈ item :: items, IsItem i := by
        intro i hi
        rcases List.mem_cons.1 hi with rfl | hi
        · exact ⟨hitem, hnested⟩
        · exact hitems i hi
      exact ⟨[], item :: items, hcons, hwhole, closes_nil.2 rfl, commasNested_nil 0, hall⟩
    · have hcons : segments depth (c :: cs) = (c :: item) :: items := by
        rw [segments_cons, if_neg hcomma, hseg, consFirst]
      have hwhole : [','].intercalate ((c :: item) :: items) = c :: cs := by
        rw [← hjoin]
        cases items <;> simp [List.intercalate_cons_cons]
      exact ⟨c :: item, items, hcons, hwhole, closes_cons.2 ⟨hc, hitem⟩,
        (commasNested_cons hc).2 ⟨hcomma, hnested⟩, hitems⟩

theorem segments_intercalate {items : List (List Char)} (hne : items ≠ [])
    (hitems : ∀ item ∈ items, IsItem item) :
    segments 0 ([','].intercalate items) = items := by
  induction items with
  | nil => exact absurd rfl hne
  | cons item items ih =>
    have hitem := hitems item (by simp)
    cases items with
    | nil =>
      rw [List.intercalate_singleton]
      exact segments_item hitem.balanced hitem.nested
    | cons next items =>
      have hrest : segments 0 ([','].intercalate (next :: items)) = next :: items := by
        apply ih (by simp)
        intro i hi
        exact hitems i (List.mem_cons_of_mem item hi)
      rw [List.intercalate_cons_cons, List.append_assoc, List.singleton_append,
        segments_append hitem.balanced hitem.nested, hrest]

/-- A text whose parentheses match is a list of items in one way only. -/
theorem lists_iff {inside : List Char} (h : Balanced inside) {items : List (List Char)} :
    Lists inside items ↔ items = segments 0 inside := by
  constructor
  · intro hlists
    have hseg := segments_intercalate hlists.nonempty hlists.isItem
    rw [hlists.joined] at hseg
    exact hseg.symm
  · intro hseg
    obtain ⟨item, items, hcons, hjoin, hitem, hnested, hitems⟩ := segments_eq_cons h
    rw [hseg, hcons]
    refine ⟨by simp, ?_, hjoin⟩
    intro i hi
    rcases List.mem_cons.1 hi with rfl | hi
    · exact ⟨hitem, hnested⟩
    · exact hitems i hi

theorem ofInside_eq (inside : List Char) :
    ofInside inside = if (segments 0 inside).map Text.trim = [[]] then []
      else (segments 0 inside).map Text.trim := by
  rw [ofInside]
  split
  · next h => rw [if_pos h]
  · next h => rw [if_neg (by simpa using h)]

theorem denotes_iff {inside : List Char} (h : Balanced inside) {arguments : List (List Char)} :
    Denotes inside arguments ↔ arguments = ofInside inside := by
  simp only [Denotes, lists_iff h, exists_eq_left, ofInside_eq]

end QueryFrame.Arguments
