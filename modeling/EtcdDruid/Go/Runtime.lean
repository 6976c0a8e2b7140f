import Mathlib.Data.List.AList
import Mathlib.Data.List.Infix
import Mathlib.Data.List.Sort
import Mathlib.Data.Nat.Digits.Defs

/-!
# Go run-time semantics

The parts of the Go language and its standard library that a shallow embedding
of a Go program has to fix once: pointers, maps and the order of `range` over
them, `sort.Slice`, and the decimal and duration formats of `fmt` and `time`.

**Pointers and errors.**  A pointer is an `Option`.  A computation that can
dereference `nil` or return a Go `error` returns `Except Failure _`; the panic
and the error both end it, and they stay apart in `Failure`.

**Maps.**  A `map[κ]ν` is an association list with unique keys (`AList`).
`m[k] = v` is `AList.insert`, which overwrites.  Go leaves the order of
`for k, v := range m` unspecified; a `RangeOrder` is any choice of it, a
permutation of the entries, and statements about code that ranges over a map
quantify over every `RangeOrder`.

**Sorting.**  `sort.Slice` with `less i j := key xs[i] < key xs[j]` is not
stable.  It is modelled by `List.mergeSort`; `eq_sortSliceBy` shows that any
permutation sorted strictly by the key is this list, so the choice of algorithm
is immaterial whenever the keys are distinct.

**Formats.**  `strconv.Itoa`, `fmt.Sprint` on integers and `%d` agree with
`toString` on `Int`.  `Duration.String` is `durationString`, written after the
documented algorithm (units `h`, `m`, `s`, fractions without trailing zeros,
`ms`, `µs`, `ns` below one second).

**Strings.**  `strings.Split` and `strings.Trim` at one character work on the
character list; `split_intercalate` and `split_trim_join` say that a split
undoes a join, and a loop that writes the separator after every part, when no
part holds the separator.
-/

namespace Go

universe u v

/-! ## Pointers -/

/-- How a Go computation ends without a value: the panic of a `nil` pointer
dereference, or an `error` with its text. -/
inductive Failure
  | nilPointerDereference
  | error (msg : String)
  deriving DecidableEq, Repr

/-- The text of `err.Error()`, and the runtime's message for a panic. -/
def Failure.message : Failure → String
  | .nilPointerDereference => "runtime error: invalid memory address or nil pointer dereference"
  | .error msg => msg

/-- `*p`: a `nil` pointer panics. -/
def deref {α : Type u} : Option α → Except Failure α
  | some a => .ok a
  | none => .error .nilPointerDereference

@[simp] theorem deref_some {α : Type u} (a : α) : deref (some a) = .ok a := rfl

@[simp] theorem deref_none {α : Type u} :
    deref (none : Option α) = .error .nilPointerDereference :=
  rfl

theorem deref_eq_ok {α : Type u} {p : Option α} {a : α} : deref p = .ok a ↔ p = some a := by
  cases p <;> simp [deref]

section Except

variable {ε α β : Type u}

@[simp] theorem pure_eq_ok {a b : α} : (pure a : Except ε α) = .ok b ↔ a = b := by
  simp [pure, Except.pure]

@[simp] theorem pure_ne_error {a : α} {e : ε} : (pure a : Except ε α) ≠ .error e := by
  simp [pure, Except.pure]

@[simp] theorem ok_bind {a : α} {f : α → Except ε β} : (Except.ok a >>= f) = f a := rfl

@[simp] theorem error_bind {e : ε} {f : α → Except ε β} : (Except.error e >>= f) = .error e := rfl

/-- The inversion of a successful `do` step: the first computation succeeded too. -/
theorem bind_eq_ok {x : Except ε α} {f : α → Except ε β} {b : β} :
    x >>= f = .ok b ↔ ∃ a, x = .ok a ∧ f a = .ok b := by
  cases x <;> simp [bind, Except.bind]

theorem bind_eq_error {x : Except ε α} {f : α → Except ε β} {e : ε} :
    x >>= f = .error e ↔ x = .error e ∨ ∃ a, x = .ok a ∧ f a = .error e := by
  cases x <;> simp [bind, Except.bind]

/-- A `do` step does not end with the error `e` when neither of its parts does. -/
theorem bind_ne_error {x : Except ε α} {f : α → Except ε β} {e : ε} (hx : x ≠ .error e)
    (hf : ∀ a, x = .ok a → f a ≠ .error e) : x >>= f ≠ .error e := by
  intro h
  rcases bind_eq_error.mp h with h | ⟨a, ha, hfa⟩
  · exact hx h
  · exact hf a ha hfa

theorem map_eq_ok {x : Except ε α} {f : α → β} {b : β} :
    f <$> x = .ok b ↔ ∃ a, x = .ok a ∧ f a = b := by
  cases x <;> simp [Functor.map, Except.map]

theorem map_eq_error {x : Except ε α} {f : α → β} {e : ε} :
    f <$> x = .error e ↔ x = .error e := by
  cases x <;> simp [Functor.map, Except.map]

theorem mapError_eq_ok {ε' : Type u} {x : Except ε α} {f : ε → ε'} {a : α} :
    x.mapError f = .ok a ↔ x = .ok a := by
  cases x <;> simp [Except.mapError]

end Except

/-! ## Maps and the order of `range` -/

/-- A Go `map[κ]ν`. -/
abbrev Map (κ : Type u) (ν : Type v) := AList (fun _ : κ => ν)

/-- An order in which Go may visit the elements of a collection it does not
order (a map under `range`, values arriving on a channel): any permutation. -/
structure RangeOrder (α : Type u) where
  order : List α → List α
  perm : ∀ l, (order l).Perm l

/-- The order in which the entries are stored. -/
def RangeOrder.stored (α : Type u) : RangeOrder α := ⟨id, fun _ => List.Perm.refl _⟩

/-- Every permutation of a list is the order some `RangeOrder` gives it. -/
theorem RangeOrder.exists_order_eq {α : Type u} [DecidableEq α] {l l' : List α}
    (h : l'.Perm l) : ∃ ro : RangeOrder α, ro.order l = l' := by
  refine ⟨⟨fun x => if x = l then l' else x, fun x => ?_⟩, if_pos rfl⟩
  split_ifs with hx
  · exact hx ▸ h
  · exact List.Perm.refl x

section Keyed

variable {κ : Type u} {α : Type v}

/-- Every entry is stored under its own key, as `Map.insertAll` stores them. -/
def Map.Keyed (key : α → κ) (m : Map κ α) : Prop := ∀ e ∈ m.entries, key e.2 = e.1

theorem Map.keyed_empty (key : α → κ) : (∅ : Map κ α).Keyed key := by
  simp [Map.Keyed]

/-- The stored elements of a keyed map have distinct keys. -/
theorem Map.Keyed.nodup {key : α → κ} {m : Map κ α} (h : m.Keyed key) :
    (m.entries.map fun e => key e.2).Nodup := by
  have : (m.entries.map fun e => key e.2) = m.keys := by
    rw [AList.keys, List.keys]
    exact List.map_congr_left fun e he => h e he
  rw [this]
  exact m.keys_nodup

/-- Values chosen from entries with distinct keys, each value carrying its
entry's key, have distinct keys. -/
theorem nodup_map_filterMap {β : Type u} (key : β → κ) (g : (Σ _ : κ, α) → Option β) :
    ∀ l : List (Σ _ : κ, α), (l.map (·.1)).Nodup → (∀ e ∈ l, ∀ x ∈ g e, key x = e.1) →
      ((l.filterMap g).map key).Nodup
  | [], _, _ => by simp
  | e :: l, hn, hg => by
      rw [List.map_cons, List.nodup_cons] at hn
      have ih := nodup_map_filterMap key g l hn.2 fun e' he' => hg e' (List.mem_cons_of_mem _ he')
      rw [List.filterMap_cons]
      cases hge : g e with
      | none => exact ih
      | some x =>
          rw [List.map_cons, List.nodup_cons]
          refine ⟨fun hx => hn.1 ?_, ih⟩
          -- every later value carries the key of a later entry
          obtain ⟨y, hy, hyx⟩ := List.mem_map.mp hx
          obtain ⟨e', he', hge'⟩ := List.mem_filterMap.mp hy
          rw [← hg e List.mem_cons_self x hge, ← hyx, hg e' (List.mem_cons_of_mem _ he') y hge']
          exact List.mem_map_of_mem he'

end Keyed

section Maps

variable {κ : Type u} {α : Type v} [DecidableEq κ]

/-- `for _, x := range xs { m[key(x)] = x }`. -/
def Map.insertAll (key : α → κ) (m : Map κ α) (xs : List α) : Map κ α :=
  xs.foldl (fun m x => m.insert (key x) x) m

@[simp] theorem Map.insertAll_nil (key : α → κ) (m : Map κ α) : Map.insertAll key m [] = m :=
  rfl

@[simp] theorem Map.insertAll_cons (key : α → κ) (m : Map κ α) (x : α) (xs : List α) :
    Map.insertAll key m (x :: xs) = Map.insertAll key (m.insert (key x) x) xs :=
  rfl

theorem Map.keyed_insertAll (key : α → κ) :
    ∀ (m : Map κ α) (xs : List α), m.Keyed key → (Map.insertAll key m xs).Keyed key
  | _, [], h => h
  | m, x :: xs, h => by
      rw [Map.insertAll_cons]
      apply Map.keyed_insertAll key _ xs
      intro e he
      rw [AList.entries_insert, List.mem_cons] at he
      rcases he with rfl | he
      · rfl
      · exact h e ((List.kerase_sublist _ _).subset he)

/-- A key not written keeps its old value. -/
theorem Map.lookup_insertAll_of_notMem (key : α → κ) (k : κ) :
    ∀ (m : Map κ α) (xs : List α), k ∉ xs.map key →
      (Map.insertAll key m xs).lookup k = m.lookup k
  | _, [], _ => rfl
  | m, x :: xs, h => by
      simp only [List.map_cons, List.mem_cons, not_or] at h
      rw [Map.insertAll_cons, Map.lookup_insertAll_of_notMem key k _ xs h.2,
        AList.lookup_insert_ne h.1]

/-- With distinct keys every element is found under its key. -/
theorem Map.lookup_insertAll_of_mem (key : α → κ) :
    ∀ (m : Map κ α) (xs : List α), (xs.map key).Nodup → ∀ x ∈ xs,
      (Map.insertAll key m xs).lookup (key x) = some x
  | _, [], _, _, hx => absurd hx List.not_mem_nil
  | m, y :: ys, hn, x, hx => by
      rw [List.map_cons, List.nodup_cons] at hn
      rw [Map.insertAll_cons]
      rcases List.mem_cons.mp hx with rfl | hx
      · rw [Map.lookup_insertAll_of_notMem key _ _ ys hn.1, AList.lookup_insert]
      · exact Map.lookup_insertAll_of_mem key _ ys hn.2 x hx

/-- The keys of a map filled from scratch are those of the elements. -/
theorem Map.mem_insertAll_empty (key : α → κ) (k : κ) (xs : List α) :
    k ∈ Map.insertAll key ∅ xs ↔ k ∈ xs.map key := by
  suffices h : ∀ m : Map κ α, k ∈ Map.insertAll key m xs ↔ k ∈ m ∨ k ∈ xs.map key by
    simpa using h ∅
  induction xs with
  | nil => intro m; simp
  | cons x xs ih =>
      intro m
      rw [Map.insertAll_cons, ih, AList.mem_insert, List.map_cons, List.mem_cons]
      tauto

/-- Filled from distinct keys, the entries are the elements, in some order. -/
theorem Map.entries_insertAll_perm (key : α → κ) (xs : List α) (hn : (xs.map key).Nodup) :
    (Map.insertAll key ∅ xs).entries.Perm (xs.map fun x => ⟨key x, x⟩) := by
  apply (List.perm_ext_iff_of_nodup (Map.insertAll key ∅ xs).nodupKeys.nodup
    (List.Nodup.of_map Sigma.fst (by simpa [Function.comp_def] using hn))).mpr
  rintro ⟨k, x⟩
  constructor
  · intro he
    have hl : (Map.insertAll key ∅ xs).lookup k = some x := AList.mem_lookup_iff.mpr he
    have hk : k ∈ xs.map key := (Map.mem_insertAll_empty key k xs).mp
      (AList.lookup_isSome.mp (by simp [hl]))
    obtain ⟨y, hy, rfl⟩ := List.mem_map.mp hk
    rw [Map.lookup_insertAll_of_mem key ∅ xs hn y hy] at hl
    cases hl
    exact List.mem_map.mpr ⟨_, hy, rfl⟩
  · intro he
    obtain ⟨y, hy, hyx⟩ := List.mem_map.mp he
    cases hyx
    exact AList.mem_lookup_iff.mp (Map.lookup_insertAll_of_mem key ∅ xs hn _ hy)

/-- Under any key the filled map holds the last element of that key, else the
old value. -/
theorem Map.lookup_insertAll (key : α → κ) (k : κ) :
    ∀ (m : Map κ α) (xs : List α),
      (Map.insertAll key m xs).lookup k = (xs.reverse.find? (key · = k)).or (m.lookup k)
  | m, [] => by simp
  | m, x :: xs => by
      rw [Map.insertAll_cons, Map.lookup_insertAll key k _ xs, List.reverse_cons,
        List.find?_append]
      by_cases hx : key x = k
      · subst hx
        cases xs.reverse.find? (key · = key x) <;> simp
      · simp [AList.lookup_insert_ne (Ne.symm hx), hx]

/-- `delete(m, f(e))` for every element: the deleted keys are gone, the others
keep their values. -/
theorem Map.lookup_foldl_erase {β : Type u} (f : β → κ) (k : κ) :
    ∀ (m : Map κ α) (l : List β),
      (l.foldl (fun m e => m.erase (f e)) m).lookup k = if k ∈ l.map f then none else m.lookup k
  | m, [] => by simp
  | m, e :: l => by
      rw [List.foldl_cons, Map.lookup_foldl_erase f k _ l]
      by_cases hk : k = f e
      · subst hk
        simp
      · simp [AList.lookup_erase_ne hk, hk]

/-- After the deletions the entries are the old ones whose keys were not deleted. -/
theorem Map.foldl_erase_entries_perm {β : Type u} (f : β → κ) (m : Map κ α) (l : List β) :
    (l.foldl (fun m e => m.erase (f e)) m).entries.Perm
      (m.entries.filter fun e => e.1 ∉ l.map f) := by
  refine (List.perm_ext_iff_of_nodup (AList.nodupKeys _).nodup
    (m.nodupKeys.nodup.filter _)).mpr fun e => ?_
  rw [List.mem_filter, ← AList.mem_lookup_iff, ← AList.mem_lookup_iff,
    Map.lookup_foldl_erase]
  by_cases hk : e.1 ∈ l.map f <;> simp [hk]

end Maps

/-! ## `sort.Slice` by a key -/

section Sorting

variable {α : Type u} {κ : Type v} [LinearOrder κ]

/-- `sort.Slice(xs, func(i, j int) bool { return key(xs[i]) < key(xs[j]) })`. -/
def sortSliceBy (key : α → κ) (xs : List α) : List α :=
  xs.mergeSort (fun a b => decide (key a ≤ key b))

theorem sortSliceBy_perm (key : α → κ) (xs : List α) : (sortSliceBy key xs).Perm xs :=
  List.mergeSort_perm _ _

theorem mem_sortSliceBy (key : α → κ) (xs : List α) (x : α) : x ∈ sortSliceBy key xs ↔ x ∈ xs :=
  (sortSliceBy_perm key xs).mem_iff

theorem sortSliceBy_sorted (key : α → κ) (xs : List α) :
    (sortSliceBy key xs).Pairwise (fun a b => key a ≤ key b) := by
  have h := @List.pairwise_mergeSort α (fun a b => decide (key a ≤ key b))
    (fun a b c hab hbc => by simp only [decide_eq_true_eq] at *; exact le_trans hab hbc)
    (fun a b => by simpa using le_total (key a) (key b)) xs
  simpa [sortSliceBy] using h

/-- With distinct keys the sorted slice is strictly increasing in the key. -/
theorem sortSliceBy_strict (key : α → κ) (xs : List α) (hn : (xs.map key).Nodup) :
    (sortSliceBy key xs).Pairwise (fun a b => key a < key b) := by
  have hn' : ((sortSliceBy key xs).map key).Nodup := ((sortSliceBy_perm key xs).map key).nodup_iff.mpr hn
  have hs := sortSliceBy_sorted key xs
  rw [List.nodup_iff_pairwise_ne, List.pairwise_map] at hn'
  exact (hs.and hn').imp fun ⟨hle, hne⟩ => lt_of_le_of_ne hle hne

/-- Any permutation strictly sorted by the key is the sorted slice. -/
theorem eq_sortSliceBy (key : α → κ) {xs ys : List α} (hp : ys.Perm xs)
    (hs : ys.Pairwise (fun a b => key a < key b)) : ys = sortSliceBy key xs := by
  have hn : (xs.map key).Nodup := by
    have : (ys.map key).Nodup := by
      rw [List.nodup_iff_pairwise_ne, List.pairwise_map]
      exact hs.imp ne_of_lt
    exact (hp.map key).nodup_iff.mp this
  -- a strict order is antisymmetric for want of two elements related both ways
  have hanti : ∀ a b, a ∈ ys → b ∈ sortSliceBy key xs → key a < key b → key b < key a → a = b :=
    fun _ _ _ _ hab hba => absurd (lt_trans hab hba) (lt_irrefl _)
  exact List.Perm.eq_of_pairwise hanti hs (sortSliceBy_strict key xs hn)
    (hp.trans (sortSliceBy_perm key xs).symm)

/-- With distinct keys the result does not depend on the order of the input. -/
theorem sortSliceBy_congr (key : α → κ) {xs ys : List α} (hp : xs.Perm ys)
    (hn : (xs.map key).Nodup) : sortSliceBy key xs = sortSliceBy key ys :=
  eq_sortSliceBy key ((sortSliceBy_perm key xs).trans hp) (sortSliceBy_strict key xs hn)

end Sorting

/-! ## Formats -/

/-- The decimal digit `d < 10` as a character. -/
def digitChar (d : Nat) : Char := Char.ofNat (d + 48)

/-- `fmtFrac(buf, v, prec)` of package `time`: the last `prec` decimal digits of
`v` after a point, trailing zeros (and then the point) omitted, together with
`v / 10 ^ prec`.  The buffer is filled from the right: `acc` is the part already
written, and `print` records that a non-zero digit has been seen. -/
def fmtFrac : Nat → Nat → Bool → List Char → List Char × Nat
  | 0, v, print, acc => (if print then '.' :: acc else acc, v)
  | prec + 1, v, print, acc =>
      let print := print || v % 10 != 0
      fmtFrac prec (v / 10) print (if print then digitChar (v % 10) :: acc else acc)

/-- `Duration.String` of package `time`, on a duration in nanoseconds. -/
def durationString (d : Int) : String :=
  let u := d.natAbs
  let body :=
    if u < 1000000000 then
      -- below one second the unit is `ns`, `µs` or `ms`
      if u = 0 then ['0', 's']
      else
        let (unit, prec) :=
          if u < 1000 then ('n', 0) else if u < 1000000 then ('µ', 3) else ('m', 6)
        let (frac, v) := fmtFrac prec u false []
        Nat.toDigits 10 v ++ frac ++ [unit, 's']
    else
      -- whole seconds, minutes and hours; days are not a unit
      let (frac, u) := fmtFrac 9 u false []
      let secs := Nat.toDigits 10 (u % 60) ++ frac ++ ['s']
      if u / 60 > 0 then
        let mins := Nat.toDigits 10 (u / 60 % 60) ++ 'm' :: secs
        if u / 3600 > 0 then Nat.toDigits 10 (u / 3600) ++ 'h' :: mins else mins
      else secs
  String.ofList (if d < 0 then '-' :: body else body)

/-- `strings.Contains(s, substr)`. -/
def stringsContains (s substr : String) : Bool := decide (substr.toList <:+: s.toList)

/-- `strings.HasSuffix(s, suffix)`. -/
def hasSuffix (s suffix : String) : Bool := decide (suffix.toList <:+ s.toList)

theorem hasSuffix_append (s t : String) : hasSuffix (s ++ t) t = true := by
  simp [hasSuffix, List.suffix_append]

/-- A text whose last character is not the suffix's last character does not end
in the suffix. -/
theorem hasSuffix_eq_false_of_getLast {s suffix : String} {c d : Char}
    (hs : s.toList.getLast? = some c) (hsuf : suffix.toList.getLast? = some d) (hcd : c ≠ d) :
    hasSuffix s suffix = false := by
  rw [hasSuffix, decide_eq_false_iff_not]
  rintro ⟨t, ht⟩
  have hne : suffix.toList ≠ [] := by
    intro h
    rw [h] at hsuf
    cases hsuf
  rw [← ht, List.getLast?_append_of_ne_nil _ hne, hsuf] at hs
  exact hcd (Option.some.inj hs).symm

/-- `strings.Trim(s, cutset)` for a cutset of one character. -/
def trim (s : String) (c : Char) : String :=
  String.ofList ((s.toList.dropWhile (· = c)).reverse.dropWhile (· = c)).reverse

/-- `strings.SplitN(s, string(sep), 2)`: the text before the first `sep` and the
rest after it, or `[s]` when `sep` does not occur. -/
def splitN2 (s : String) (sep : Char) : List String :=
  match s.toList.span (· ≠ sep) with
  | (front, _ :: rest) => [String.ofList front, String.ofList rest]
  | (_, []) => [s]

/-- Why `strconv.ParseInt` fails: `ErrSyntax` or `ErrRange`. -/
inductive NumError
  | notANumber
  | outOfRange
  deriving DecidableEq, Repr

def NumError.text : NumError → String
  | .notANumber => "invalid syntax"
  | .outOfRange => "value out of range"

/-- The digit loop of `strconv.ParseUint(s, 10, 64)`, from the value `n` read so
far: a character that is no digit stops it, and so does a value past 64 bits. -/
def parseUintDigits : Nat → List Char → Except NumError Nat
  | n, [] => .ok n
  | n, c :: cs =>
      if c.isDigit then
        let n' := 10 * n + (c.toNat - '0'.toNat)
        if 2 ^ 64 ≤ n' then .error .outOfRange else parseUintDigits n' cs
      else .error .notANumber

/-- The leading sign of a number: whether it is negative, and the rest. -/
def splitSign : List Char → Bool × List Char
  | '+' :: ds => (false, ds)
  | '-' :: ds => (true, ds)
  | ds => (false, ds)

@[simp] theorem splitSign_minus (ds : List Char) : splitSign ('-' :: ds) = (true, ds) := rfl

theorem splitSign_of_ne {c : Char} (hplus : c ≠ '+') (hminus : c ≠ '-') (ds : List Char) :
    splitSign (c :: ds) = (false, c :: ds) := by
  unfold splitSign
  split <;> simp_all

/-- `strconv.ParseInt(s, 10, 64)`: an optional sign, then decimal digits, within
the range of `int64`; an error says why not, as `NumError.Error` prints it. -/
def parseInt (s : String) : Except String Int :=
  let fail (e : NumError) : Except String Int :=
    .error ("strconv.ParseInt: parsing " ++ s.quote ++ ": " ++ e.text)
  let (neg, digits) := splitSign s.toList
  if digits = [] then fail .notANumber
  else
    match parseUintDigits 0 digits with
    | .error e => fail e
    | .ok n =>
        if neg then (if 2 ^ 63 < n then fail .outOfRange else .ok (-(n : Int)))
        else (if 2 ^ 63 ≤ n then fail .outOfRange else .ok n)

section Decimal

theorem le_ofDigitChars (n : Nat) : ∀ cs : List Char, n ≤ Nat.ofDigitChars 10 cs n
  | [] => by simp
  | c :: cs => by
    rw [Nat.ofDigitChars_cons]
    exact Nat.le_trans (by omega) (le_ofDigitChars _ cs)

/-- Digits whose value fits in 64 bits are read as that value. -/
theorem parseUintDigits_eq_ok : ∀ (cs : List Char) (n : Nat), (∀ c ∈ cs, c.isDigit) →
    Nat.ofDigitChars 10 cs n < 2 ^ 64 → parseUintDigits n cs = .ok (Nat.ofDigitChars 10 cs n)
  | [], n, _, _ => rfl
  | c :: cs, n, hd, hlt => by
    have hc : c.isDigit := hd c List.mem_cons_self
    rw [Nat.ofDigitChars_cons] at hlt ⊢
    have hstep := le_ofDigitChars (10 * n + (c.toNat - '0'.toNat)) cs
    rw [parseUintDigits, if_pos hc, if_neg (by omega)]
    exact parseUintDigits_eq_ok cs _ (fun c' hc' => hd c' (List.mem_cons_of_mem _ hc')) hlt

/-- The loop reads back the decimal digits of any value below `2^64`. -/
theorem parseUintDigits_toDigits {n : Nat} (hn : n < 2 ^ 64) :
    parseUintDigits 0 (Nat.toDigits 10 n) = .ok n := by
  rw [parseUintDigits_eq_ok _ 0 (fun _ hc => Nat.isDigit_of_mem_toDigits (by decide) (by decide) hc)
    (by rwa [Nat.ofDigitChars_ten_toDigits]), Nat.ofDigitChars_ten_toDigits]

/-- `strconv.ParseInt` reads back what `strconv.FormatInt` (`%d`) wrote of an `int64`. -/
theorem parseInt_toString {z : Int} (hlo : -2 ^ 63 ≤ z) (hhi : z < 2 ^ 63) :
    parseInt (toString z) = .ok z := by
  -- the decimal digits start with a digit, which is no sign
  obtain ⟨c, rest, hcons⟩ := List.exists_cons_of_ne_nil (Nat.toDigits_ne_nil (b := 10) (n := z.natAbs))
  have hc : c.isDigit := Nat.isDigit_of_mem_toDigits (by decide) (by decide) (hcons ▸ List.mem_cons_self)
  have hplus : c ≠ '+' := fun h => by simp [h] at hc
  have hminus : c ≠ '-' := fun h => by simp [h] at hc
  cases z with
  | ofNat n =>
    have hlist : (toString (Int.ofNat n)).toList = Nat.toDigits 10 n := Nat.toList_repr
    simp only [Int.ofNat_eq_natCast] at hhi
    have hn : n < 2 ^ 64 := by omega
    change Nat.toDigits 10 n = c :: rest at hcons
    simp only [parseInt, hlist, hcons, splitSign_of_ne hplus hminus, reduceCtorEq, if_false,
      Bool.false_eq_true]
    rw [← hcons, parseUintDigits_toDigits hn]
    dsimp only
    rw [if_neg (by omega)]
    rfl
  | negSucc n =>
    have hlist : (toString (Int.negSucc n)).toList = '-' :: Nat.toDigits 10 (n + 1) := by
      change ("-" ++ Nat.repr (n + 1)).toList = _
      rw [String.toList_append, Nat.toList_repr]
      rfl
    have hn : n + 1 < 2 ^ 64 := by rw [Int.negSucc_eq] at hlo; omega
    simp only [parseInt, hlist, splitSign_minus, Nat.toDigits_ne_nil, if_false, if_true,
      parseUintDigits_toDigits hn]
    rw [if_neg (by omega), Int.negSucc_eq]
    push_cast
    rfl

end Decimal

/-- `strings.Split(s, string(sep))`: the texts between the occurrences of `sep`. -/
def split (s : String) (sep : Char) : List String :=
  (s.toList.splitOn sep).map String.ofList

section Strings

/-- A list none of whose parts at `a` is empty neither starts nor ends with `a`. -/
theorem ends_ne_of_splitOn {α : Type u} [BEq α] [ReflBEq α] {a : α} {l : List α}
    (h : ∀ p ∈ l.splitOn a, p ≠ []) : l.head? ≠ some a ∧ l.getLast? ≠ some a := by
  constructor
  · intro hhead
    obtain ⟨tl, rfl⟩ := List.head?_eq_some_iff.mp hhead
    have hsplit := List.splitOn_append_cons_self (a := a) [] tl
    rw [List.nil_append] at hsplit
    exact h [] (by simp [hsplit, List.splitOn_nil]) rfl
  · intro hlast
    obtain ⟨init, rfl⟩ := List.getLast?_eq_some_iff.mp hlast
    rw [List.splitOn_append_cons_self, List.splitOn_nil] at h
    exact h [] (by simp) rfl

theorem dropWhile_eq_self_of_notMem {α : Type u} [DecidableEq α] {a : α} {l : List α}
    (h : a ∉ l) : l.dropWhile (· = a) = l := by
  cases l with
  | nil => rfl
  | cons b l =>
    have hb : b ≠ a := fun hba => h (hba ▸ List.mem_cons_self)
    exact List.dropWhile_cons_of_neg (by simpa using hb)

variable {c : Char}

/-- `strings.Trim` leaves a text without `sep` alone. -/
theorem trim_of_notMem {s : String} (h : c ∉ s.toList) : trim s c = s := by
  rw [trim, dropWhile_eq_self_of_notMem h, dropWhile_eq_self_of_notMem (by simpa using h),
    List.reverse_reverse, String.ofList_toList]

theorem splitOn_toList_intercalate {l : List String} (hc : ∀ s ∈ l, c ∉ s.toList) (hl : l ≠ []) :
    ((String.singleton c).intercalate l).toList.splitOn c = l.map String.toList := by
  rw [String.toList_intercalate, String.toList_singleton]
  exact List.splitOn_intercalate c (by simpa using hc) (by simpa using hl)

/-- Splitting at a separator that no part contains undoes the join. -/
theorem split_intercalate {l : List String} (hc : ∀ s ∈ l, c ∉ s.toList) (hl : l ≠ []) :
    split ((String.singleton c).intercalate l) c = l := by
  rw [split, splitOn_toList_intercalate hc hl, List.map_map]
  conv_rhs => rw [← List.map_id l]
  exact List.map_congr_left fun _ _ => String.ofList_toList

/-- `strings.Split` of a text without `sep` is the text alone. -/
theorem split_of_notMem {s : String} (h : c ∉ s.toList) : split s c = [s] := by
  have hsplit := split_intercalate (c := c) (l := [s]) (by simpa using h) (List.cons_ne_nil _ _)
  rwa [String.intercalate_singleton] at hsplit

/-- A loop that writes `sep` after every part writes the join and one more `sep`. -/
theorem join_map_append_singleton :
    ∀ {l : List String}, l ≠ [] →
      String.join (l.map (· ++ String.singleton c)) =
        (String.singleton c).intercalate l ++ String.singleton c
  | [s], _ => by simp [String.intercalate_singleton]
  | s :: t :: l, _ => by
    rw [List.map_cons, String.join_cons, join_map_append_singleton (List.cons_ne_nil t l),
      String.intercalate_cons_cons]
    simp only [String.append_assoc]

/-- `strings.Trim` removes one trailing `sep` from a text whose ends are not `sep`. -/
theorem trim_append_singleton {s : String} (hhead : s.toList.head? ≠ some c)
    (hlast : s.toList.getLast? ≠ some c) : trim (s ++ String.singleton c) c = s := by
  rw [trim, String.toList_append, String.toList_singleton]
  conv_rhs => rw [← String.ofList_toList (s := s)]
  congr 1
  generalize s.toList = l at hhead hlast
  cases l with
  | nil => simp
  | cons a l =>
    have ha : a ≠ c := fun hac => hhead (by simp [hac])
    -- the front keeps its first character, the back drops the one `sep`
    have hback : (a :: l).reverse.dropWhile (· = c) = (a :: l).reverse := by
      cases h : (a :: l).reverse with
      | nil => rfl
      | cons b l' =>
        have hb : b ≠ c := fun hbc => hlast (by rw [← List.head?_reverse, h, hbc]; rfl)
        simp [hb]
    rw [List.cons_append, List.dropWhile_cons_of_neg (by simpa using ha), ← List.cons_append,
      List.reverse_append, List.reverse_singleton, List.singleton_append,
      List.dropWhile_cons_of_pos (by simp), hback, List.reverse_reverse]

/-- `strings.Split(strings.Trim(s, sep), sep)` of a loop that writes `sep` after
every part gives the parts back, when no part contains `sep` and none is empty. -/
theorem split_trim_join {α : Type u} {l : List α} {f : α → String} (hc : ∀ a ∈ l, c ∉ (f a).toList)
    (hne : ∀ a ∈ l, f a ≠ "") (hl : l ≠ []) :
    split (trim (String.join (l.map fun a => f a ++ String.singleton c)) c) c = l.map f := by
  have hc' : ∀ s ∈ l.map f, c ∉ s.toList := by simpa using hc
  have hl' : l.map f ≠ [] := by simpa using hl
  have hparts : ∀ p ∈ ((String.singleton c).intercalate (l.map f)).toList.splitOn c, p ≠ [] := by
    rw [splitOn_toList_intercalate hc' hl']
    simpa using hne
  obtain ⟨hhead, hlast⟩ := ends_ne_of_splitOn hparts
  have hjoin := join_map_append_singleton (c := c) hl'
  rw [List.map_map] at hjoin
  rw [show (fun a => f a ++ String.singleton c) = (· ++ String.singleton c) ∘ f from rfl, hjoin,
    trim_append_singleton hhead hlast, split_intercalate hc' hl']

end Strings

example : durationString 900000000000 = "15m0s" := by decide
example : durationString (-1500000) = "-1.5ms" := by decide

end Go
