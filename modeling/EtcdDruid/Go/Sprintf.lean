import EtcdDruid.Go.Runtime

/-!
# Names built by `fmt.Sprintf`

Object names are formatted as `"%s-%d"`, `"%s-suffix"` or `"prefix-%s"`.  Two
such names are equal only when their parts are:

* `sprintf_dash_inj`: `s-%d` determines `s` and the number, since the decimal
  digits contain no dash and the last dash of the name is the separator;
* `append_suffix_or_suffix`: two names with fixed suffixes `u` and `v` can be
  equal only if one suffix ends the other, which two different literal
  suffixes of an equal-length tail never do;
* `getLast_repr_isDigit`: a decimal ends in a digit, unlike a letter suffix.
-/

namespace Go

section Separator

variable {α : Type}

/-- The last occurrence of a separator splits a list in one way only. -/
theorem append_cons_eq_of_notMem_right {c : α} :
    ∀ {l₁ l₂ r₁ r₂ : List α}, l₁ ++ c :: r₁ = l₂ ++ c :: r₂ → c ∉ r₁ → c ∉ r₂ →
      l₁ = l₂ ∧ r₁ = r₂
  | [], [], _, _, h, _, _ => by simpa using h
  | [], x :: l₂, r₁, r₂, h, h₁, _ => by
      -- `c :: r₁ = x :: (l₂ ++ c :: r₂)` puts `c` into `r₁`
      obtain ⟨-, rfl⟩ := List.cons.inj h
      exact absurd (List.mem_append_right _ List.mem_cons_self) h₁
  | x :: l₁, [], r₁, r₂, h, _, h₂ => by
      obtain ⟨-, rfl⟩ := List.cons.inj h
      exact absurd (List.mem_append_right _ List.mem_cons_self) h₂
  | x :: l₁, y :: l₂, r₁, r₂, h, h₁, h₂ => by
      obtain ⟨rfl, htail⟩ := List.cons.inj h
      obtain ⟨rfl, rfl⟩ := append_cons_eq_of_notMem_right htail h₁ h₂
      exact ⟨rfl, rfl⟩

/-- Two lists ending in `u` and `v` are equal only if one of `u`, `v` ends the other. -/
theorem append_suffix_or_suffix {s t u v : List α} (h : s ++ u = t ++ v) :
    u <:+ v ∨ v <:+ u :=
  List.suffix_or_suffix_of_suffix (List.suffix_append s u) (h ▸ List.suffix_append t v)

end Separator

/-! ## Strings -/

theorem append_right_cancel {s t u : String} (h : s ++ u = t ++ u) : s = t := by
  have hl := congrArg String.toList h
  simp only [String.toList_append] at hl
  exact String.toList_inj.mp (List.append_cancel_right hl)

theorem append_left_cancel {s t u : String} (h : u ++ s = u ++ t) : s = t := by
  have hl := congrArg String.toList h
  simp only [String.toList_append] at hl
  exact String.toList_inj.mp (List.append_cancel_left hl)

/-- Names with two literal suffixes, neither ending the other, differ. -/
theorem append_ne_of_not_suffix {s t u v : String} (hu : ¬ u.toList <:+ v.toList)
    (hv : ¬ v.toList <:+ u.toList) : s ++ u ≠ t ++ v := by
  intro h
  have hl := congrArg String.toList h
  simp only [String.toList_append] at hl
  rcases append_suffix_or_suffix hl with h' | h'
  · exact hu h'
  · exact hv h'

/-! ## Decimals -/

theorem repr_injective {n m : Nat} (h : Nat.repr n = Nat.repr m) : n = m := by
  have hd : Nat.toDigits 10 n = Nat.toDigits 10 m := by
    rw [← Nat.toList_repr, ← Nat.toList_repr, h]
  rw [← Nat.ofDigitChars_ten_toDigits (n := n), hd, Nat.ofDigitChars_ten_toDigits]

theorem isDigit_of_mem_repr {n : Nat} {c : Char} (h : c ∈ (Nat.repr n).toList) : c.isDigit := by
  rw [Nat.toList_repr] at h
  exact Nat.isDigit_of_mem_toDigits (by decide) (by decide) h

theorem dash_notMem_repr (n : Nat) : '-' ∉ (Nat.repr n).toList := fun h => by
  simpa using isDigit_of_mem_repr h

/-- `%d` of an integer writes digits and a sign only. -/
theorem notMem_toString_int {c : Char} (hc : c.isDigit = false) (hdash : c ≠ '-') (z : Int) :
    c ∉ (toString z).toList := by
  cases z with
  | ofNat n =>
    intro h
    simpa [hc] using isDigit_of_mem_repr (show c ∈ (Nat.repr n).toList from h)
  | negSucc n =>
    intro h
    have h' : c ∈ ("-" ++ Nat.repr (n + 1)).toList := h
    rw [String.toList_append, List.mem_append] at h'
    rcases h' with h' | h'
    · exact hdash (by simpa using h')
    · simpa [hc] using isDigit_of_mem_repr h'

/-- `%d` of a natural number is its decimal representation. -/
theorem toString_natCast (n : Nat) : toString (n : Int) = Nat.repr n := rfl

/-- `fmt.Sprintf("%s-%d", s, n)` determines `s` and `n`. -/
theorem sprintf_dash_inj {s t : String} {n m : Nat}
    (h : s ++ "-" ++ toString (n : Int) = t ++ "-" ++ toString (m : Int)) : s = t ∧ n = m := by
  rw [toString_natCast, toString_natCast] at h
  have hl := congrArg String.toList h
  simp only [String.toList_append] at hl
  have hl' : s.toList ++ '-' :: (Nat.repr n).toList = t.toList ++ '-' :: (Nat.repr m).toList := by
    simpa using hl
  obtain ⟨hst, hnm⟩ := append_cons_eq_of_notMem_right hl' (dash_notMem_repr n) (dash_notMem_repr m)
  exact ⟨String.toList_inj.mp hst, repr_injective (String.toList_inj.mp hnm)⟩

/-- A decimal ends in a digit. -/
theorem getLast_repr_isDigit (n : Nat) :
    ∃ c, (Nat.repr n).toList.getLast? = some c ∧ c.isDigit := by
  have hne : (Nat.repr n).toList ≠ [] := by
    rw [Nat.toList_repr]
    exact Nat.toDigits_ne_nil
  exact ⟨_, List.getLast?_eq_some_getLast hne, isDigit_of_mem_repr (List.getLast_mem hne)⟩

/-- A name with a suffix that does not end in a digit is not `%s-%d`. -/
theorem append_ne_sprintf_dash {s t u : String} {c : Char} (hu : u.toList.getLast? = some c)
    (hc : ¬ c.isDigit) (n : Nat) : s ++ u ≠ t ++ "-" ++ toString (n : Int) := by
  intro h
  have hl := congrArg (fun x : String => x.toList.getLast?) h
  obtain ⟨d, hd, hdigit⟩ := getLast_repr_isDigit n
  simp only [String.toList_append, toString_natCast, List.getLast?_append, hu, hd] at hl
  simp only [Option.some_or, Option.some.injEq] at hl
  exact hc (hl ▸ hdigit)

end Go
