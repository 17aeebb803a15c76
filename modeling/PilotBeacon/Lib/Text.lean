import Mathlib.Data.List.Basic
import Mathlib.Data.Nat.Init

/-!
# Formatted Text

What the printed forms of numbers and of separated fields determine. Texts are
lists of characters.

- `toDigits_injective`: a numeral determines its number (bases up to 16)
- `intercalate_injective`: fields joined by a separator none of them contains
  are determined by the joined text
-/

namespace PilotBeacon.Lib

/-- A Go string, as the list of its characters. -/
abbrev Text := List Char

namespace Text

/-! ## Numerals -/

/-- Digit characters are told apart below 16. -/
theorem digitChar_injective {m n : Nat} (hm : m < 16) (hn : n < 16)
    (h : m.digitChar = n.digitChar) : m = n := by
  have hall : ∀ i : Fin 16, ∀ j : Fin 16, (i : Nat).digitChar = (j : Nat).digitChar → i = j := by
    decide
  exact congrArg Fin.val (hall ⟨m, hm⟩ ⟨n, hn⟩ h)

theorem exists_of_mem_toDigits {b n : Nat} {c : Char} (hb : 1 < b) (hc : c ∈ Nat.toDigits b n) :
    ∃ d, d < b ∧ c = d.digitChar := by
  induction n using Nat.strong_induction_on with
  | _ n ih =>
    rw [Nat.toDigits_eq_if hb] at hc
    split at hc
    · rename_i hn
      exact ⟨n, hn, by simpa using hc⟩
    · rename_i hn
      rcases List.mem_append.mp hc with hc | hc
      · exact ih (n / b) (Nat.div_lt_self (by omega) hb) hc
      · exact ⟨n % b, Nat.mod_lt _ (by omega), by simpa using hc⟩

/-- **A numeral determines its number.** -/
theorem toDigits_injective {b : Nat} (hb : 1 < b) (hb' : b ≤ 16) :
    Function.Injective (Nat.toDigits b) := by
  intro m
  induction m using Nat.strong_induction_on with
  | _ m ih =>
    intro n h
    rw [Nat.toDigits_eq_if hb, Nat.toDigits_eq_if (n := n) hb] at h
    have hmod : ∀ k, k % b < 16 := fun k => Nat.lt_of_lt_of_le (Nat.mod_lt k (by omega)) hb'
    split_ifs at h with hm hn hn
    · exact digitChar_injective (by omega) (by omega) (by simpa using h)
    · -- one digit against at least two
      have hlen := congrArg List.length h
      simp at hlen
    · have hlen := congrArg List.length h
      simp at hlen
    · obtain ⟨hhead, hlast⟩ := List.append_inj' h rfl
      have hdiv : m / b = n / b := ih (m / b) (Nat.div_lt_self (by omega) hb) hhead
      have hrem : m % b = n % b :=
        digitChar_injective (hmod m) (hmod n) (by simpa using hlast)
      rw [← Nat.div_add_mod m b, ← Nat.div_add_mod n b, hdiv, hrem]

/-- Numerals contain digit characters only. -/
theorem notMem_toDigits {b n : Nat} {c : Char} (hb : 1 < b) (hb' : b ≤ 16)
    (hc : ∀ d < 16, c ≠ Nat.digitChar d) : c ∉ Nat.toDigits b n := by
  intro hmem
  obtain ⟨d, hd, rfl⟩ := exists_of_mem_toDigits hb hmem
  exact hc d (by omega) rfl

/-! ## Separated fields -/

/-- Fields joined by a separator that occurs in none of them can be read back. -/
theorem intercalate_injective {sep : Char} {xs ys : List Text} (hx : ∀ l ∈ xs, sep ∉ l)
    (hy : ∀ l ∈ ys, sep ∉ l) (hxs : xs ≠ []) (hys : ys ≠ [])
    (h : [sep].intercalate xs = [sep].intercalate ys) : xs = ys := by
  rw [← List.splitOn_intercalate sep hx hxs, ← List.splitOn_intercalate sep hy hys, h]

/-- Joining two non-empty groups of fields puts one separator between them. -/
theorem intercalate_append {sep : Text} {xs ys : List Text} (hxs : xs ≠ []) (hys : ys ≠ []) :
    sep.intercalate (xs ++ ys) = sep.intercalate xs ++ sep ++ sep.intercalate ys := by
  induction xs with
  | nil => exact absurd rfl hxs
  | cons x xs ih =>
    by_cases hnil : xs = []
    · subst hnil
      simp [List.intercalate_cons_of_ne_nil hys]
    · rw [List.cons_append, List.intercalate_cons_of_ne_nil (by simp [hnil]), ih hnil,
        List.intercalate_cons_of_ne_nil hnil]
      simp

/-- Characters of a joined text come from the fields or are the separator. -/
theorem mem_intercalate {sep c : Char} {xs : List Text} (h : c ∈ [sep].intercalate xs) :
    c = sep ∨ ∃ l ∈ xs, c ∈ l := by
  induction xs with
  | nil => simp at h
  | cons x xs ih =>
    by_cases hnil : xs = []
    · subst hnil
      exact Or.inr ⟨x, by simp, by simpa using h⟩
    · rw [List.intercalate_cons_of_ne_nil hnil] at h
      simp only [List.append_assoc, List.mem_append, List.mem_singleton] at h
      rcases h with h | h | h
      · exact Or.inr ⟨x, List.mem_cons_self, h⟩
      · exact Or.inl h
      · rcases ih h with h | ⟨l, hl, hc⟩
        · exact Or.inl h
        · exact Or.inr ⟨l, List.mem_cons_of_mem _ hl, hc⟩

/-- What stands before and after the first separator, when the part before contains none. -/
theorem append_sep_injective {α : Type} {sep : α} {a b a' b' : List α} (ha : sep ∉ a)
    (ha' : sep ∉ a') (h : a ++ sep :: b = a' ++ sep :: b') : a = a' ∧ b = b' := by
  induction a generalizing a' with
  | nil =>
    cases a' with
    | nil => simpa using h
    | cons c cs =>
      simp only [List.nil_append, List.cons_append, List.cons.injEq] at h
      exact absurd (by rw [h.1]; exact List.mem_cons_self) ha'
  | cons c cs ih =>
    cases a' with
    | nil =>
      simp only [List.nil_append, List.cons_append, List.cons.injEq] at h
      exact absurd (by rw [h.1]; exact List.mem_cons_self) ha
    | cons c' cs' =>
      simp only [List.cons_append, List.cons.injEq] at h
      obtain ⟨hcs, hb⟩ := ih (fun hm => ha (List.mem_cons_of_mem _ hm))
        (fun hm => ha' (List.mem_cons_of_mem _ hm)) h.2
      exact ⟨by rw [h.1, hcs], hb⟩

/-- The text before and after the last separator, when the part after contains none. -/
theorem append_sep_injective_last {sep : Char} {a b a' b' : Text} (hb : sep ∉ b) (hb' : sep ∉ b')
    (h : a ++ sep :: b = a' ++ sep :: b') : a = a' ∧ b = b' := by
  have hrev : b.reverse ++ sep :: a.reverse = b'.reverse ++ sep :: a'.reverse := by
    have := congrArg List.reverse h
    simpa using this
  obtain ⟨hbr, har⟩ := append_sep_injective (by simpa using hb) (by simpa using hb') hrev
  exact ⟨List.reverse_injective har, List.reverse_injective hbr⟩

end Text

end PilotBeacon.Lib
