import Mathlib.Data.Nat.PSub
import QueryFrame.Proofs.Macro.ArgumentReading

/-!
# Parts of texts

A part of a text is asked for by two offsets, which count bytes. There is no such part if an offset
falls into a character or behind the text, just as there is no number in front of zero: a
computation that asks for one of them ends there. The parts that it asks for are kept together with
its result, so that it can be said of all of them that they are there.
-/

namespace QueryFrame

open Arguments (byteCount)

section

variable {cs front back : List Char}

@[simp] theorem byteCount_nil : byteCount [] = 0 := rfl

@[simp] theorem byteCount_append (a b : List Char) :
    byteCount (a ++ b) = byteCount a + byteCount b := by
  simp [byteCount]

@[simp] theorem byteCount_cons (c : Char) (cs : List Char) :
    byteCount (c :: cs) = c.utf8Size + byteCount cs := by
  have hsingle : byteCount [c] = c.utf8Size := by
    rw [byteCount, ← String.singleton_eq_ofList, String.utf8ByteSize_singleton]
  rw [← hsingle, ← byteCount_append, List.singleton_append]

theorem byteCount_eq_zero_iff : byteCount cs = 0 ↔ cs = [] := by
  cases cs with
  | nil => simp
  | cons c cs =>
    have hpos := c.utf8Size_pos
    simp
    omega

/-- The offset falls between two characters of the text or on one of its ends. -/
def IsBoundary (cs : List Char) (offset : Nat) : Prop :=
  (⟨offset⟩ : String.Pos.Raw).IsValid (String.ofList cs)

instance (cs : List Char) (offset : Nat) : Decidable (IsBoundary cs offset) :=
  inferInstanceAs (Decidable ((⟨offset⟩ : String.Pos.Raw).IsValid (String.ofList cs)))

theorem isBoundary_iff {offset : Nat} :
    IsBoundary cs offset ↔ ∃ front, front <+: cs ∧ byteCount front = offset := by
  rw [IsBoundary, String.Pos.Raw.isValid_ofList]
  constructor
  · intro h
    obtain ⟨i, hi⟩ := h
    exact ⟨cs.take i, List.take_prefix i cs, hi.symm⟩
  · intro h
    obtain ⟨front, hfront, rfl⟩ := h
    refine ⟨front.length, ?_⟩
    rw [← List.prefix_iff_eq_take.1 hfront]
    rfl

theorem isBoundary_append (front back : List Char) : IsBoundary (front ++ back) (byteCount front) :=
  isBoundary_iff.2 ⟨front, List.prefix_append front back, rfl⟩

/-- Takes the characters off a text that lie in its first bytes. -/
def splitBytes (count : Nat) : List Char → List Char × List Char
  | [] => ([], [])
  | c :: cs =>
    if c.utf8Size ≤ count then
      let (front, back) := splitBytes (count - c.utf8Size) cs
      (c :: front, back)
    else ([], c :: cs)

private theorem splitBytes_append (front back : List Char) :
    splitBytes (byteCount front) (front ++ back) = (front, back) := by
  induction front with
  | nil =>
    cases back with
    | nil => rfl
    | cons c back =>
      have hpos := c.utf8Size_pos
      rw [List.nil_append, splitBytes, if_neg (by simp; omega)]
  | cons c front ih => simp [splitBytes, ih]

/-- The part of a text between two offsets. There is none unless both are boundaries, in order. -/
def slice? (cs : List Char) (start stop : Nat) : Option (List Char) :=
  if start ≤ stop ∧ IsBoundary cs start ∧ IsBoundary cs stop then
    some (splitBytes (stop - start) (splitBytes start cs).2).1
  else none

private theorem slice?_append (front part back : List Char) :
    slice? (front ++ (part ++ back)) (byteCount front) (byteCount front + byteCount part) =
      some part := by
  have hstart := isBoundary_append front (part ++ back)
  have hstop := isBoundary_append (front ++ part) back
  rw [byteCount_append, List.append_assoc] at hstop
  rw [slice?, if_pos ⟨Nat.le_add_right _ _, hstart, hstop⟩, splitBytes_append,
    Nat.add_sub_cancel_left, splitBytes_append]

private theorem prefix_of_byteCount_le {a b : List Char} (ha : a <+: cs) (hb : b <+: cs)
    (h : byteCount a ≤ byteCount b) : a <+: b := by
  rcases List.prefix_or_prefix_of_prefix ha hb with hab | hba
  · exact hab
  · obtain ⟨more, rfl⟩ := hba
    rw [byteCount_append] at h
    have hnone : more = [] := byteCount_eq_zero_iff.1 (by omega)
    simp [hnone]

/-- A part of a text is there if the text is made up of it and what stands around it. -/
theorem slice?_eq_some_iff {part : List Char} {start stop : Nat} :
    slice? cs start stop = some part ↔
      ∃ front back, front ++ (part ++ back) = cs ∧ byteCount front = start ∧
        start + byteCount part = stop := by
  constructor
  · intro h
    have hbounds : start ≤ stop ∧ IsBoundary cs start ∧ IsBoundary cs stop := by
      by_contra hnone
      simp [slice?, if_neg hnone] at h
    obtain ⟨hle, hstart, hstop⟩ := hbounds
    obtain ⟨front, hfront, rfl⟩ := isBoundary_iff.1 hstart
    obtain ⟨upTo, hupTo, rfl⟩ := isBoundary_iff.1 hstop
    obtain ⟨found, rfl⟩ := prefix_of_byteCount_le hfront hupTo hle
    obtain ⟨back, rfl⟩ := hupTo
    have hfound := slice?_append front found back
    rw [← byteCount_append, ← List.append_assoc, h, Option.some.injEq] at hfound
    subst hfound
    exact ⟨front, back, by simp, rfl, by simp⟩
  · intro h
    obtain ⟨front, back, rfl, rfl, rfl⟩ := h
    exact slice?_append front part back

example : slice? "aü$".toList 1 3 = some ['ü'] ∧ slice? "aü$".toList 1 2 = none := by
  decide +kernel

end

/-- Two offsets into a text, between which a part of it is asked for. -/
structure Cut where
  text : List Char
  start : Nat
  stop : Nat

/-- The text of the cut is an ending of the given one, and both offsets are boundaries there. -/
structure Cut.IsWithin (cut : Cut) (cs : List Char) : Prop where
  ordered : cut.start ≤ cut.stop
  placed : ∃ skipped, skipped ++ cut.text = cs ∧
    IsBoundary cs (byteCount skipped + cut.start) ∧ IsBoundary cs (byteCount skipped + cut.stop)

private theorem IsBoundary.behind {cs : List Char} {offset : Nat} (h : IsBoundary cs offset)
    (skipped : List Char) : IsBoundary (skipped ++ cs) (byteCount skipped + offset) := by
  obtain ⟨front, hfront, rfl⟩ := isBoundary_iff.1 h
  exact isBoundary_iff.2 ⟨skipped ++ front, (List.prefix_append_right_inj skipped).2 hfront,
    byteCount_append skipped front⟩

private theorem Cut.IsWithin.behind {cut : Cut} {cs : List Char} (h : cut.IsWithin cs)
    (skipped : List Char) : cut.IsWithin (skipped ++ cs) := by
  obtain ⟨between, hbetween, hstart, hstop⟩ := h.placed
  refine ⟨h.ordered, skipped ++ between, by rw [List.append_assoc, hbetween], ?_, ?_⟩
  · rw [byteCount_append, Nat.add_assoc]
    exact hstart.behind skipped
  · rw [byteCount_append, Nat.add_assoc]
    exact hstop.behind skipped

/-- A computation with the cuts that it makes on its way, and without a result if it comes to one
that cannot be made. -/
structure Checked (α : Type) where
  cuts : List Cut
  result : Option α

namespace Checked

protected def bind {α β : Type} (x : Checked α) (f : α → Checked β) : Checked β :=
  match x.result with
  | none => ⟨x.cuts, none⟩
  | some a => ⟨x.cuts ++ (f a).cuts, (f a).result⟩

instance : Monad Checked where
  pure a := ⟨[], some a⟩
  bind := Checked.bind

def slice (cs : List Char) (start stop : Nat) : Checked (List Char) :=
  ⟨[⟨cs, start, stop⟩], slice? cs start stop⟩

def sliceFrom (cs : List Char) (start : Nat) : Checked (List Char) := slice cs start (byteCount cs)

/-- The number in front of another one. -/
def pred (n : Nat) : Checked Nat := ⟨[], n.ppred⟩

/-- The computation comes to the result, and all its cuts can be made within the text. -/
structure Completes {α : Type} (x : Checked α) (cs : List Char) (a : α) : Prop where
  result_eq : x.result = some a
  within : ∀ cut ∈ x.cuts, cut.IsWithin cs

section

variable {α β : Type} {x : Checked α} {cs : List Char} {a : α}

theorem completes_pure (cs : List Char) (a : α) : (pure a : Checked α).Completes cs a :=
  ⟨rfl, fun _ hcut => absurd hcut List.not_mem_nil⟩

private theorem bind_eq {f : α → Checked β} (hx : x.result = some a) :
    x >>= f = ⟨x.cuts ++ (f a).cuts, (f a).result⟩ := by
  change Checked.bind x f = _
  rw [Checked.bind, hx]

theorem Completes.bind {f : α → Checked β} {b : β} (hx : x.Completes cs a)
    (hf : (f a).Completes cs b) : (x >>= f).Completes cs b := by
  rw [bind_eq hx.result_eq]
  refine ⟨hf.result_eq, ?_⟩
  intro cut hcut
  rcases List.mem_append.1 hcut with hcut | hcut
  · exact hx.within cut hcut
  · exact hf.within cut hcut

theorem Completes.behind (h : x.Completes cs a) (skipped : List Char) :
    x.Completes (skipped ++ cs) a :=
  ⟨h.result_eq, fun cut hcut => (h.within cut hcut).behind skipped⟩

theorem completes_pred (cs : List Char) (n : Nat) : (pred (n + 1)).Completes cs n :=
  ⟨rfl, fun _ hcut => absurd hcut List.not_mem_nil⟩

theorem completes_slice {front part back : List Char} {start stop : Nat}
    (hcs : front ++ (part ++ back) = cs) (hstart : byteCount front = start)
    (hstop : start + byteCount part = stop) : (slice cs start stop).Completes cs part := by
  refine ⟨slice?_eq_some_iff.2 ⟨front, back, hcs, hstart, hstop⟩, ?_⟩
  intro cut hcut
  obtain rfl := List.mem_singleton.1 hcut
  subst hcs hstart hstop
  refine ⟨Nat.le_add_right _ _, [], rfl, ?_, ?_⟩
  · simpa using isBoundary_append front (part ++ back)
  · simpa using isBoundary_append (front ++ part) back

theorem completes_sliceTo {part back : List Char} {stop : Nat} (hcs : part ++ back = cs)
    (hstop : byteCount part = stop) : (slice cs 0 stop).Completes cs part := by
  have hzero : byteCount [] = 0 := rfl
  exact completes_slice hcs hzero (by rw [Nat.zero_add, hstop])

theorem completes_sliceFrom {front part : List Char} {start : Nat} (hcs : front ++ part = cs)
    (hstart : byteCount front = start) : (sliceFrom cs start).Completes cs part := by
  subst hcs hstart
  exact completes_slice (by rw [List.append_nil]) rfl (byteCount_append front part).symm

end

end Checked

end QueryFrame
