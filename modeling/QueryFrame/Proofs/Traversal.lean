import Mathlib.Data.List.Forall2

/-!
# Traversals

A traversal that may fail succeeds if it succeeds at every element, and its result is then taken
element by element. Otherwise it fails with the error of the first element at which it fails. A
traversal with a state takes the state along from element to element.
-/

namespace QueryFrame

variable {α β ε : Type} {f : α → Except ε β} {x : α} {xs : List α}

theorem map_eq_ok_iff {r : Except ε α} {g : α → β} {b : β} :
    r.map g = .ok b ↔ ∃ a, r = .ok a ∧ g a = b := by
  cases r <;> simp [Except.map]

theorem map_eq_error_iff {r : Except ε α} {g : α → β} {e : ε} :
    r.map g = .error e ↔ r = .error e := by
  cases r <;> simp [Except.map]

theorem eq_map_id (r : Except ε α) : r = r.map id := (congrFun Except.map_id r).symm

theorem bind_eq_ok_iff {r : Except ε α} {g : α → Except ε β} {b : β} :
    r.bind g = .ok b ↔ ∃ a, r = .ok a ∧ g a = .ok b := by
  cases r <;> simp [Except.bind]

theorem bind_eq_error_iff {r : Except ε α} {g : α → Except ε β} {e : ε} :
    r.bind g = .error e ↔ r = .error e ∨ ∃ a, r = .ok a ∧ g a = .error e := by
  cases r <;> simp [Except.bind]

theorem mapM_cons_of_error {e : ε} (hx : f x = .error e) : (x :: xs).mapM f = .error e := by
  rw [List.mapM_cons, hx]
  rfl

theorem mapM_cons_of_ok {y : β} (hx : f x = .ok y) :
    (x :: xs).mapM f = (xs.mapM f).map (y :: ·) := by
  rw [List.mapM_cons, hx]
  cases xs.mapM f <;> rfl

theorem mapM_append_of_ok {ys : List β} (h : xs.mapM f = .ok ys) (zs : List α) :
    (xs ++ zs).mapM f = (zs.mapM f).map (ys ++ ·) := by
  rw [List.mapM_append, h]
  cases zs.mapM f <;> rfl

theorem mapM_append_of_error {e : ε} (h : xs.mapM f = .error e) (zs : List α) :
    (xs ++ zs).mapM f = .error e := by
  rw [List.mapM_append, h]
  rfl

theorem flatten_mapM_cons {f : α → Except ε (List β)} :
    ((x :: xs).mapM f).map List.flatten =
      (f x).bind fun y => ((xs.mapM f).map List.flatten).map (y ++ ·) := by
  cases hx : f x with
  | error e => rw [mapM_cons_of_error hx]; rfl
  | ok y =>
    rw [mapM_cons_of_ok hx]
    cases xs.mapM f <;> rfl

theorem mapM_congr {g : α → Except ε β} (h : ∀ x ∈ xs, f x = g x) : xs.mapM f = xs.mapM g := by
  induction xs with
  | nil => rfl
  | cons x xs ih =>
    have hrest := ih fun y hy => h y (List.mem_cons_of_mem x hy)
    rw [List.mapM_cons, List.mapM_cons, h x List.mem_cons_self, hrest]

theorem mapM_flatMap {γ : Type} {f : α → List β} {g : β → Except ε γ} (xs : List α) :
    (xs.flatMap f).mapM g = (xs.mapM fun x => (f x).mapM g).map List.flatten := by
  induction xs with
  | nil => rfl
  | cons x xs ih =>
    rw [List.flatMap_cons, List.mapM_append, flatten_mapM_cons, ← ih]
    cases (f x).mapM g with
    | error e => rfl
    | ok ys => cases (xs.flatMap f).mapM g <;> rfl

theorem mapM_eq_ok_iff {ys : List β} :
    xs.mapM f = .ok ys ↔ List.Forall₂ (fun x y => f x = .ok y) xs ys := by
  induction xs generalizing ys with
  | nil => cases ys <;> simp [pure, Except.pure]
  | cons x xs ih =>
    rw [List.forall₂_cons_left_iff]
    cases hx : f x with
    | error e => simp [mapM_cons_of_error hx]
    | ok y =>
      rw [mapM_cons_of_ok hx, map_eq_ok_iff]
      simp [ih, eq_comm]

theorem exists_mapM_eq_ok_iff :
    (∃ ys, xs.mapM f = .ok ys) ↔ ∀ x ∈ xs, ∃ y, f x = .ok y := by
  simp only [mapM_eq_ok_iff]
  induction xs with
  | nil => simp
  | cons x xs ih => simp [List.forall₂_cons_left_iff, ← ih]

theorem exists_getElem?_left {R : α → β → Prop} {ys : List β} (h : List.Forall₂ R xs ys) {i : Nat}
    {y : β} (hy : ys[i]? = some y) : ∃ x, xs[i]? = some x ∧ R x y := by
  induction h generalizing i with
  | nil => simp at hy
  | cons hR _ ih =>
    cases i with
    | zero =>
      obtain rfl := Option.some.inj hy
      exact ⟨_, rfl, hR⟩
    | succ i => exact ih (by simpa using hy)

theorem exists_getElem?_right {R : α → β → Prop} {ys : List β} (h : List.Forall₂ R xs ys)
    {i : Nat} {x : α} (hx : xs[i]? = some x) : ∃ y, ys[i]? = some y ∧ R x y :=
  exists_getElem?_left h.flip hx

theorem exists_split_cons {P : List α → α → Prop} :
    (∃ before y after, x :: xs = before ++ y :: after ∧ P before y) ↔
      P [] x ∨ ∃ before y after, xs = before ++ y :: after ∧ P (x :: before) y := by
  constructor
  · intro h
    obtain ⟨before, y, after, hsplit, hP⟩ := h
    cases before with
    | nil => exact .inl ((List.cons.inj hsplit).1 ▸ hP)
    | cons z before =>
      obtain ⟨hhead, htail⟩ := List.cons.inj hsplit
      exact .inr ⟨before, y, after, htail, hhead ▸ hP⟩
  · intro h
    rcases h with hP | ⟨before, y, after, hsplit, hP⟩
    · exact ⟨[], x, xs, rfl, hP⟩
    · exact ⟨x :: before, y, after, by rw [hsplit, List.cons_append], hP⟩

theorem mapM_eq_error_iff {e : ε} :
    xs.mapM f = .error e ↔ ∃ before x after, xs = before ++ x :: after ∧
      (∀ a ∈ before, ∃ b, f a = .ok b) ∧ f x = .error e := by
  induction xs with
  | nil => simp [pure, Except.pure]
  | cons x xs ih =>
    rw [exists_split_cons]
    cases hx : f x with
    | error e' => simp [mapM_cons_of_error hx, hx]
    | ok y => simp [mapM_cons_of_ok hx, map_eq_error_iff, ih, hx]

theorem mapM_eq_error_iff_getElem? {e : ε} :
    xs.mapM f = .error e ↔ ∃ j : Nat, (∃ x, xs[j]? = some x ∧ f x = .error e) ∧
      ∀ i < j, ∀ e', ¬ ∃ x, xs[i]? = some x ∧ f x = .error e' := by
  induction xs with
  | nil => simp [pure, Except.pure]
  | cons x xs ih =>
    -- the place is that of the head, or one in the tail
    rw [← Nat.or_exists_add_one]
    simp only [Nat.forall_lt_succ_left, List.getElem?_cons_zero, List.getElem?_cons_succ,
      Option.some.injEq, exists_eq_left']
    cases hx : f x with
    | error e' => simp [mapM_cons_of_error hx]
    | ok y => simp [mapM_cons_of_ok hx, map_eq_error_iff, ih]

theorem exists_mem_of_mapM_eq_error {e : ε} (h : xs.mapM f = .error e) :
    ∃ x ∈ xs, f x = .error e := by
  obtain ⟨before, x, after, rfl, _, hx⟩ := mapM_eq_error_iff.1 h
  exact ⟨x, by simp, hx⟩

section

variable {σ α β : Type} {f : α → StateM σ β}

private theorem run_mapM_nil (s : σ) : (([] : List α).mapM f).run s = ([], s) := rfl

private theorem run_mapM_cons (x : α) (xs : List α) (s : σ) :
    ((x :: xs).mapM f).run s =
      (((f x).run s).1 :: ((xs.mapM f).run ((f x).run s).2).1,
        ((xs.mapM f).run ((f x).run s).2).2) := by
  rw [List.mapM_cons]
  rfl

private theorem run_mapM_append (xs ys : List α) (s : σ) :
    ((xs ++ ys).mapM f).run s =
      (((xs.mapM f).run s).1 ++ ((ys.mapM f).run ((xs.mapM f).run s).2).1,
        ((ys.mapM f).run ((xs.mapM f).run s).2).2) := by
  rw [List.mapM_append]
  rfl

theorem length_run_mapM (xs : List α) (s : σ) : ((xs.mapM f).run s).1.length = xs.length := by
  induction xs generalizing s with
  | nil => rfl
  | cons x xs ih => rw [run_mapM_cons, List.length_cons, ih, List.length_cons]

theorem getElem?_run_mapM (before : List α) (x : α) (later : List α) (s : σ) :
    (((before ++ x :: later).mapM f).run s).1[before.length]? =
      some ((f x).run ((before.mapM f).run s).2).1 := by
  rw [run_mapM_append, ← length_run_mapM before s, List.getElem?_append_right (Nat.le_refl _),
    Nat.sub_self, run_mapM_cons]
  rfl

theorem run_mapM_concat (before : List α) (x : α) (s : σ) :
    (((before ++ [x]).mapM f).run s).2 = ((f x).run ((before.mapM f).run s).2).2 := by
  rw [run_mapM_append, run_mapM_cons, run_mapM_nil]

/-- Elements at which a traversal leaves the state alone can be left out of it. -/
theorem run_mapM_filter {keep : α × β → Bool}
    (h : ∀ x s, keep (x, ((f x).run s).1) = false → ((f x).run s).2 = s) (xs : List α) (s : σ) :
    ((((xs.zip ((xs.mapM f).run s).1).filter keep).map Prod.fst).mapM f).run s =
      (((xs.zip ((xs.mapM f).run s).1).filter keep).map Prod.snd, ((xs.mapM f).run s).2) := by
  induction xs generalizing s with
  | nil => rfl
  | cons x xs ih =>
    rw [run_mapM_cons, List.zip_cons_cons]
    cases hkeep : keep (x, ((f x).run s).1) with
    | true =>
      rw [List.filter_cons_of_pos hkeep, List.map_cons, List.map_cons, run_mapM_cons, ih]
    | false =>
      -- without `x` the rest starts from the same state
      have hdrop : ¬ keep (x, ((f x).run s).1) = true := by simp [hkeep]
      rw [List.filter_cons_of_neg hdrop, h x s hkeep, ih]

end
end QueryFrame
