import Mathlib.Data.List.Forall2

/-!
# Computations that succeed

A computation that may fail succeeds if all its steps do. These are the inversion lemmas for the
steps.
-/

namespace JoinSheet

variable {ε α β : Type}

theorem Except.ok_bind (a : α) (f : α → Except ε β) : ((.ok a : Except ε α) >>= f) = f a := rfl

theorem Except.bind_eq_ok {x : Except ε α} {f : α → Except ε β} {b : β} :
    (x >>= f) = .ok b ↔ ∃ a, x = .ok a ∧ f a = .ok b := by
  cases x with
  | error e => exact ⟨nofun, fun ⟨a, h, _⟩ => nomatch h⟩
  | ok a => exact ⟨fun h => ⟨a, rfl, h⟩, fun ⟨a', h, hf⟩ => by cases h; exact hf⟩

theorem Except.bind_eq_error {x : Except ε α} {f : α → Except ε β} {e : ε} :
    (x >>= f) = .error e ↔ x = .error e ∨ ∃ a, x = .ok a ∧ f a = .error e := by
  cases x with
  | error e' =>
    constructor
    · intro h
      cases h
      exact .inl rfl
    · rintro (h | ⟨_, h, _⟩)
      · cases h
        rfl
      · cases h
  | ok a =>
    constructor
    · exact fun h => .inr ⟨a, rfl, h⟩
    · rintro (h | ⟨_, h, failed⟩)
      · cases h
      · cases h
        exact failed

theorem Except.exists_eq_error {x : Except ε α} : (∃ e, x = .error e) ↔ ¬∃ a, x = .ok a := by
  cases x <;> simp

theorem Except.map_eq_ok {x : Except ε α} {f : α → β} {b : β} :
    x.map f = .ok b ↔ ∃ a, x = .ok a ∧ f a = b := by
  cases x with
  | error e => exact ⟨nofun, fun ⟨a, h, _⟩ => nomatch h⟩
  | ok a => exact ⟨fun h => ⟨a, rfl, by cases h; rfl⟩, fun ⟨a', h, hf⟩ => by cases h; cases hf; rfl⟩

theorem Except.mapError_eq_ok {ε' : Type} {x : Except ε α} {f : ε → ε'} {a : α} :
    x.mapError f = .ok a ↔ x = .ok a := by
  cases x <;> simp [Except.mapError]

theorem Except.toOption_eq_some {x : Except ε α} {a : α} : x.toOption = some a ↔ x = .ok a := by
  cases x with
  | error e => exact ⟨nofun, nofun⟩
  | ok a' => exact ⟨fun h => by cases h; rfl, fun h => by cases h; rfl⟩

theorem Except.toOption_bind (x : Except ε α) (f : α → Except ε β) :
    (x >>= f).toOption = x.toOption.bind fun a => (f a).toOption := by
  cases x <;> rfl

theorem Option.mapM_eq_none {f : α → Option β} {l : List α} {a : α} (mem : a ∈ l)
    (failed : f a = none) : l.mapM f = none := by
  induction l with
  | nil => cases mem
  | cons b l ih =>
    rw [List.mapM_cons]
    obtain rfl | mem := List.mem_cons.1 mem
    · rw [failed]
      rfl
    · rw [ih mem]
      cases f b <;> rfl

theorem Option.length_of_mapM {f : α → Option β} {l : List α} {r : List β}
    (h : l.mapM f = some r) : r.length = l.length := by
  induction l generalizing r with
  | nil =>
    cases h
    rfl
  | cons a l ih =>
    rw [List.mapM_cons] at h
    obtain ⟨b, -, h⟩ := Option.bind_eq_some_iff.1 h
    obtain ⟨bs, rest, h⟩ := Option.bind_eq_some_iff.1 h
    cases h
    rw [List.length_cons, List.length_cons, ih rest]

/-- Results stand in the places of what they come from. -/
theorem Option.getElem?_of_mapM {f : α → Option β} {l : List α} {r : List β}
    (h : l.mapM f = some r) (k : Nat) : r[k]? = l[k]?.bind f := by
  induction l generalizing r k with
  | nil =>
    cases h
    rfl
  | cons a l ih =>
    rw [List.mapM_cons] at h
    obtain ⟨b, first, h⟩ := Option.bind_eq_some_iff.1 h
    obtain ⟨bs, rest, h⟩ := Option.bind_eq_some_iff.1 h
    cases h
    cases k with
    | zero => exact first.symm
    | succ k => exact ih rest k

/-- All computations succeed together if each of them does. -/
theorem Option.exists_mapM_eq_some {f : α → Option β} {l : List α} :
    (∃ r, l.mapM f = some r) ↔ ∀ a ∈ l, ∃ b, f a = some b := by
  constructor
  · rintro ⟨r, h⟩ a mem
    rw [← Option.ne_none_iff_exists']
    intro failed
    rw [Option.mapM_eq_none mem failed] at h
    cases h
  · intro each
    induction l with
    | nil => exact ⟨[], rfl⟩
    | cons a l ih =>
      obtain ⟨⟨b, first⟩, later⟩ := List.forall_mem_cons.1 each
      obtain ⟨bs, rest⟩ := ih later
      exact ⟨b :: bs, by simp [first, rest]⟩

/-- Whether all computations succeed does not depend on how they fail. -/
theorem Except.toOption_mapM (f : α → Except ε β) (l : List α) :
    (l.mapM f).toOption = l.mapM fun a => (f a).toOption := by
  induction l with
  | nil => rfl
  | cons a l ih =>
    rw [List.mapM_cons, List.mapM_cons, ← ih]
    cases f a with
    | error e => rfl
    | ok b => cases l.mapM f <;> rfl

theorem Except.mapM_eq_ok {f : α → Except ε β} {l : List α} {r : List β} :
    l.mapM f = .ok r ↔ List.Forall₂ (fun a b => f a = .ok b) l r := by
  induction l generalizing r with
  | nil =>
    rw [List.mapM_nil, List.forall₂_nil_left_iff]
    exact ⟨fun h => by cases h; rfl, fun h => by rw [h]; rfl⟩
  | cons a l ih =>
    rw [List.mapM_cons, Except.bind_eq_ok, List.forall₂_cons_left_iff]
    constructor
    · rintro ⟨b, hb, h⟩
      obtain ⟨bs, hbs, h⟩ := Except.bind_eq_ok.1 h
      cases h
      exact ⟨b, bs, hb, ih.1 hbs, rfl⟩
    · rintro ⟨b, bs, hb, hbs, rfl⟩
      exact ⟨b, hb, Except.bind_eq_ok.2 ⟨bs, ih.2 hbs, rfl⟩⟩

instance Except.decidableForallEqOk {x : Except ε α} {P : α → Prop} [DecidablePred P] :
    Decidable (∀ a, x = .ok a → P a) :=
  match x with
  | .ok a => decidable_of_iff (P a) ⟨fun h _ same => by cases same; exact h, fun h => h a rfl⟩
  | .error _ => isTrue nofun

/-- All results come from somewhere. -/
theorem Except.exists_of_mem_mapM {f : α → Except ε β} {l : List α} {r : List β} {b : β}
    (h : l.mapM f = .ok r) (hb : b ∈ r) : ∃ a ∈ l, f a = .ok b := by
  have each := Except.mapM_eq_ok.1 h
  clear h
  induction each with
  | nil => cases hb
  | cons head _ ih =>
    obtain rfl | hb := List.mem_cons.1 hb
    · exact ⟨_, List.mem_cons_self, head⟩
    · obtain ⟨a, ha, h⟩ := ih hb
      exact ⟨a, List.mem_cons_of_mem _ ha, h⟩

/-- All elements have a result. -/
theorem Except.exists_of_mapM_eq_ok {f : α → Except ε β} {l : List α} {r : List β} {a : α}
    (h : l.mapM f = .ok r) (ha : a ∈ l) : ∃ b, f a = .ok b := by
  have each := Except.mapM_eq_ok.1 h
  clear h
  induction each with
  | nil => cases ha
  | cons head _ ih =>
    obtain rfl | ha := List.mem_cons.1 ha
    · exact ⟨_, head⟩
    · exact ih ha

theorem Except.exists_of_mapM_eq_error {f : α → Except ε β} {l : List α} {e : ε}
    (h : l.mapM f = .error e) : ∃ a ∈ l, f a = .error e := by
  induction l with
  | nil => cases h
  | cons a l ih =>
    rw [List.mapM_cons] at h
    cases head : f a with
    | error e' =>
      rw [head] at h
      cases h
      exact ⟨a, List.mem_cons_self, head⟩
    | ok b =>
      cases rest : l.mapM f with
      | error e' =>
        rw [head, rest] at h
        cases h
        obtain ⟨a', mem, failed⟩ := ih rest
        exact ⟨a', List.mem_cons_of_mem _ mem, failed⟩
      | ok bs =>
        rw [head, rest] at h
        cases h

theorem Except.exists_mapM_eq_error {f : α → Except ε β} {l : List α} :
    (∃ e, l.mapM f = .error e) ↔ ∃ a ∈ l, ∃ e, f a = .error e := by
  constructor
  · rintro ⟨e, h⟩
    obtain ⟨a, mem, failed⟩ := Except.exists_of_mapM_eq_error h
    exact ⟨a, mem, e, failed⟩
  · rintro ⟨a, mem, e, failed⟩
    refine Except.exists_eq_error.2 fun ⟨r, h⟩ => ?_
    obtain ⟨b, found⟩ := Except.exists_of_mapM_eq_ok h mem
    rw [failed] at found
    cases found

theorem Except.exists_of_foldlM_eq_error {f : β → α → Except ε β} {l : List α} {b : β} {e : ε}
    (h : l.foldlM f b = .error e) : ∃ a ∈ l, ∃ b, f b a = .error e := by
  induction l generalizing b with
  | nil => cases h
  | cons a l ih =>
    rw [List.foldlM_cons] at h
    cases head : f b a with
    | error e' =>
      rw [head] at h
      cases h
      exact ⟨a, List.mem_cons_self, b, head⟩
    | ok next =>
      rw [head] at h
      obtain ⟨a', mem, failed⟩ := ih h
      exact ⟨a', List.mem_cons_of_mem _ mem, failed⟩

theorem Except.exists_of_foldlM_eq_ok {f : β → α → Except ε β} {l : List α} {b final : β}
    (h : l.foldlM f b = .ok final) {a : α} (mem : a ∈ l) : ∃ b next, f b a = .ok next := by
  induction l generalizing b with
  | nil => cases mem
  | cons head l ih =>
    rw [List.foldlM_cons] at h
    obtain ⟨next, first, rest⟩ := Except.bind_eq_ok.1 h
    obtain rfl | mem := List.mem_cons.1 mem
    · exact ⟨b, next, first⟩
    · exact ih rest mem

end JoinSheet
